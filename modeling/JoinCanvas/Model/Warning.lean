/-!
# Warnings

What is wrong with a canvas that still compiles.  Each warning says how the query works around it.
-/

namespace JoinCanvas

/-- A problem of a canvas. -/
inductive Warning where
  | unreadableKey (edge error : String)
  | danglingEdge (edge table : String)
  | redundantEdge (edge : String)
  | crossJoinedTable (table : String)
deriving DecidableEq, Repr

namespace Warning

instance : Inhabited Warning := ⟨.redundantEdge ""⟩

/-- The warning in words. -/
def text : Warning → String
  | .unreadableKey edge error =>
    "edge " ++ edge ++ " has an unreadable composite key (" ++ error ++ "); joined on id = id"
  | .danglingEdge edge table => "edge " ++ edge ++ " references missing table " ++ table ++ "; skipped"
  | .redundantEdge edge => "edge " ++ edge ++ " connects two already joined tables; skipped"
  | .crossJoinedTable table => "table " ++ table ++ " is not reachable from the base table; cross joined"

end Warning

end JoinCanvas
