import JobLauncher.Json.Decode
import JobLauncher.Json.Reader
import JobLauncher.Kube.Failure
import JobLauncher.Program

/-!
# Requests to the cluster

An `Exchange` is a program that sends requests and goes on with the replies. `request` sends one and
sorts out what comes back: the text of a reply, or why there is none.
-/

namespace JobLauncher.Kube

inductive Http.Method where
  | get
  | post
  | delete
  deriving DecidableEq, Repr

/-- A request, with the identity to act under. -/
structure Http.Request where
  method : Http.Method
  path : String
  user : Option String
  groups : List String
  body : Option Json

/-- A reply. -/
structure Http.Reply where
  status : Nat
  body : String
  deriving DecidableEq, Repr

/-- What becomes of a request: a reply, or why none came. -/
abbrev Http.Answer : Http.Request → Type := fun _ => Except String Http.Reply

/-- A program that sends requests. -/
abbrev Exchange (α : Type) := Program Http.Request Http.Answer α

/-- A step of an exchange that may fail. -/
abbrev Attempt (α : Type) := Exchange (Except Failure α)

namespace Http

def Method.name : Method → String
  | .get => "GET"
  | .post => "POST"
  | .delete => "DELETE"

/-- What a status from 400 on is called. -/
def reason (status : Nat) : String :=
  match status with
  | 400 => "Bad Request"
  | 401 => "Unauthorized"
  | 402 => "Payment Required"
  | 403 => "Forbidden"
  | 404 => "Not Found"
  | 405 => "Method Not Allowed"
  | 406 => "Not Acceptable"
  | 407 => "Proxy Authentication Required"
  | 408 => "Request Timeout"
  | 409 => "Conflict"
  | 410 => "Gone"
  | 411 => "Length Required"
  | 412 => "Precondition Failed"
  | 413 => "Payload Too Large"
  | 414 => "URI Too Long"
  | 415 => "Unsupported Media Type"
  | 416 => "Range Not Satisfiable"
  | 417 => "Expectation Failed"
  | 418 => "I'm a teapot"
  | 421 => "Misdirected Request"
  | 422 => "Unprocessable Entity"
  | 423 => "Locked"
  | 424 => "Failed Dependency"
  | 425 => "Too Early"
  | 426 => "Upgrade Required"
  | 428 => "Precondition Required"
  | 429 => "Too Many Requests"
  | 431 => "Request Header Fields Too Large"
  | 451 => "Unavailable For Legal Reasons"
  | 500 => "Internal Server Error"
  | 501 => "Not Implemented"
  | 502 => "Bad Gateway"
  | 503 => "Service Unavailable"
  | 504 => "Gateway Timeout"
  | 505 => "HTTP Version Not Supported"
  | 506 => "Variant Also Negotiates"
  | 507 => "Insufficient Storage"
  | 508 => "Loop Detected"
  | 510 => "Not Extended"
  | 511 => "Network Authentication Required"
  | _ => "<unknown status code>"

/-- A character that may stand in the path of a request. -/
def isPathChar (c : Char) : Bool :=
  let n := c.toNat
  n == 0x21 || n == 0x22 || (0x24 ≤ n && n ≤ 0x3B) || n == 0x3D || (0x40 ≤ n && n ≤ 0x5F)
    || (0x61 ≤ n && n ≤ 0x7C) || n == 0x7D || n == 0x7E || 0x80 ≤ n

/-- A character that may stand in the query of a request. -/
def isQueryChar (c : Char) : Bool :=
  let n := c.toNat
  n == 0x21 || (0x24 ≤ n && n ≤ 0x3B) || n == 0x3D || (0x3F ≤ n && n ≤ 0x7E) || 0x80 ≤ n

/-- The most bytes in a path with its query. -/
def maxTarget : Nat := 65534

/-- A path as it is sent: without what follows a number sign. Not every character may stand in
it. -/
def target? (path : String) : Option String :=
  let sent := path.toList.takeWhile (· ≠ '#')
  let main := sent.takeWhile (· ≠ '?')
  let query := (sent.dropWhile (· ≠ '?')).drop 1
  if path.utf8ByteSize ≤ maxTarget && main.all isPathChar && query.all isQueryChar then
    some (String.ofList sent)
  else none

/-- A character that may stand in a header. -/
def isHeaderChar (c : Char) : Bool := c == '\t' || (0x20 ≤ c.toNat && c.toNat ≠ 0x7F)

/-- Whether a text can be sent as the value of a header. -/
def isHeaderText (s : String) : Bool := s.toList.all isHeaderChar

end Http

/-- A status as the cluster writes it; the message and the reason may be left out. -/
def Status.ofJson : Json.Decoder Status
  | .obj fields => do
    let status ← Json.decodeField? fields "status" Json.decodeText
    let message ← Json.decodeField? fields "message" Json.decodeText
    let reason ← Json.decodeField? fields "reason" Json.decodeText
    let code ← Json.decodeField? fields "code" Json.decodeUInt32
    let status ← Json.require "status" status
    let code ← Json.require "code" code
    if code.toNat > 65535 then throw (.outOfRange code.toNat "u16")
    return ⟨status, message.getD "", reason.getD "", code.toNat⟩
  | v => .error (.wrongType v "struct ErrorResponse")

/-- The refusal in a reply with an error status. A body that is no status is quoted in one. -/
def Status.ofReply (r : Http.Reply) : Status :=
  match (Json.parse? r.body).map Status.ofJson with
  | some (.ok s) => s
  | _ => {
      status := toString r.status ++ " " ++ Http.reason r.status
      message := Text.quoted r.body
      reason := "Failed to parse error data"
      code := r.status }

/-- What a reply means for the one who asked. -/
def Http.Reply.text (r : Http.Reply) : Except Failure String :=
  if 400 ≤ r.status ∧ r.status < 600 then .error (.api (Status.ofReply r)) else .ok r.body

/-- The value in a reply, read by `decode`. -/
def decodeReply (decode : Json.Decoder α) (text : String) : Except Failure α :=
  match Json.parse? text with
  | none => .error (.undecodable "not JSON")
  | some v => (decode v).mapError fun e => .undecodable e.message

end JobLauncher.Kube
