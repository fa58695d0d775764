import JoinCanvas.Json.Value
import JoinCanvas.Warehouse.Task

/-!
# Exchanges with a server

Requests are sent one after another to a server that follows a script: each request takes the next exchange, and when
none is left, or the server is out of reach, the request fails.  An exchange takes time.
-/

namespace JoinCanvas.Http

open JoinCanvas.Json

/-- What a request asks for. -/
inductive Method where
  | get
  | post
deriving DecidableEq, Repr, Inhabited

/-- The name of a method. -/
def Method.name : Method → String
  | .get => "GET"
  | .post => "POST"

/-- A request. -/
structure Request where
  method : Method
  url : String
  authorization : String
  body? : Option Value := none
deriving Repr, Inhabited

/-- The answer to a request. -/
structure Response where
  status : Nat := 200
  body : String := ""
deriving DecidableEq, Repr, Inhabited

/-- Whether a status says that a request succeeded. -/
def Response.isSuccess (r : Response) : Bool :=
  200 ≤ r.status && r.status < 300

/-- The standard reason of a status. -/
def reason? (status : Nat) : Option String :=
  match status with
  | 100 => "Continue"
  | 101 => "Switching Protocols"
  | 102 => "Processing"
  | 200 => "OK"
  | 201 => "Created"
  | 202 => "Accepted"
  | 203 => "Non Authoritative Information"
  | 204 => "No Content"
  | 205 => "Reset Content"
  | 206 => "Partial Content"
  | 207 => "Multi-Status"
  | 208 => "Already Reported"
  | 226 => "IM Used"
  | 300 => "Multiple Choices"
  | 301 => "Moved Permanently"
  | 302 => "Found"
  | 303 => "See Other"
  | 304 => "Not Modified"
  | 305 => "Use Proxy"
  | 307 => "Temporary Redirect"
  | 308 => "Permanent Redirect"
  | 400 => "Bad Request"
  | 401 => "Unauthorized"
  | 402 => "Payment Required"
  | 403 => "Forbidden"
  | 404 => "Not Found"
  | 405 => "Method Not Allowed"
  | 406 => "Not Acceptable"
  | 407 => "Proxy Authentication Required"
  | 408 => "Request Timeout"
  | 409 => "Conflict"
  | 410 => "Gone"
  | 411 => "Length Required"
  | 412 => "Precondition Failed"
  | 413 => "Payload Too Large"
  | 414 => "URI Too Long"
  | 415 => "Unsupported Media Type"
  | 416 => "Range Not Satisfiable"
  | 417 => "Expectation Failed"
  | 418 => "I'm a teapot"
  | 421 => "Misdirected Request"
  | 422 => "Unprocessable Entity"
  | 423 => "Locked"
  | 424 => "Failed Dependency"
  | 426 => "Upgrade Required"
  | 428 => "Precondition Required"
  | 429 => "Too Many Requests"
  | 431 => "Request Header Fields Too Large"
  | 451 => "Unavailable For Legal Reasons"
  | 500 => "Internal Server Error"
  | 501 => "Not Implemented"
  | 502 => "Bad Gateway"
  | 503 => "Service Unavailable"
  | 504 => "Gateway Timeout"
  | 505 => "HTTP Version Not Supported"
  | 506 => "Variant Also Negotiates"
  | 507 => "Insufficient Storage"
  | 508 => "Loop Detected"
  | 510 => "Not Extended"
  | 511 => "Network Authentication Required"
  | _ => none

/-- A status with its reason. -/
def statusText (status : Nat) : String :=
  String.ofList (Nat.toDigits 10 status) ++ " " ++ (reason? status).getD "<unknown status code>"

/-- How a request is answered, if it is, and after how many milliseconds. -/
structure Exchange where
  response? : Option Response
  delay : Nat := 0
deriving Repr, Inhabited

/-- A server: the exchanges to come, and the requests that reached it. -/
structure Server where
  inReach : Bool := true
  exchanges : List Exchange := []
  received : List Request := []
deriving Repr, Inhabited

/-- The server after a request, and the exchange that the request takes. -/
def Server.take (s : Server) (r : Request) : Option Exchange × Server :=
  if s.inReach then
    (s.exchanges.head?, { s with exchanges := s.exchanges.tail, received := s.received ++ [r] })
  else (none, s)

end JoinCanvas.Http
