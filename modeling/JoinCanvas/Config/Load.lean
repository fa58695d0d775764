import JoinCanvas.Config.Record
import JoinCanvas.Fault
import JoinCanvas.Toml.Reader

/-!
# Configurations from texts

A configuration is a text of settings.  Where several texts may hold one, the first that can be read counts.
-/

namespace JoinCanvas.Config

/-- The configuration that a text writes. -/
def ofText (text : String) : Except Fault Config :=
  match (Toml.read? text).bind Config.ofDocument? with
  | some c => .ok c
  | none => .error .unreadableConfig

/-- The first configuration that can be read among the places where one is looked for; without one all settings have
their defaults. -/
def firstReadable (texts : List (Option String)) : Config :=
  (texts.findSome? fun text? => text?.bind fun text => (ofText text).toOption).getD {}

end JoinCanvas.Config
