import WorkspaceAccess.Api.Request
import WorkspaceAccess.Json.Decode
import WorkspaceAccess.Remote.Error

/-!
# Refused Requests

A server that refuses a request says why in the content of its reply: a status, a message for
people, a reason for programs, and a code. `Refusal.ofReply` reads this. Where the content cannot be
read as such a refusal, the status code of the reply has to do, and the refusal is made up from it
(`unexplained`), with the phrase that belongs to the code and the content as it came.

What the controllers go by is the reason and the code: whether an object is there, whether it has
changed in the meantime, whether it exists already. A refusal that is made up gives none of the
reasons that programs know, so `Collection.get?` does not take it for the absence of an object; its
code counts like any other.

`Reply.decode` puts the two sides together: a reply that says it failed is a refusal, any other is
read by the decoder of the object that was asked for, and what that does not read is an error.
-/

namespace WorkspaceAccess

open Json (orDefault? required?)

namespace Refusal

/-- The phrase that goes with a status code of a failure, for the codes that have one. -/
def phrases : List (Nat × String) := [
  (400, "Bad Request"), (401, "Unauthorized"), (402, "Payment Required"), (403, "Forbidden"),
  (404, "Not Found"), (405, "Method Not Allowed"), (406, "Not Acceptable"),
  (407, "Proxy Authentication Required"), (408, "Request Timeout"), (409, "Conflict"),
  (410, "Gone"), (411, "Length Required"), (412, "Precondition Failed"),
  (413, "Payload Too Large"), (414, "URI Too Long"), (415, "Unsupported Media Type"),
  (416, "Range Not Satisfiable"), (417, "Expectation Failed"), (418, "I'm a teapot"),
  (421, "Misdirected Request"), (422, "Unprocessable Entity"), (423, "Locked"),
  (424, "Failed Dependency"), (425, "Too Early"), (426, "Upgrade Required"),
  (428, "Precondition Required"), (429, "Too Many Requests"),
  (431, "Request Header Fields Too Large"), (451, "Unavailable For Legal Reasons"),
  (500, "Internal Server Error"), (501, "Not Implemented"), (502, "Bad Gateway"),
  (503, "Service Unavailable"), (504, "Gateway Timeout"), (505, "HTTP Version Not Supported"),
  (506, "Variant Also Negotiates"), (507, "Insufficient Storage"), (508, "Loop Detected"),
  (510, "Not Extended"), (511, "Network Authentication Required")]

/-- A status code with its phrase, or with a remark in its place where the code has none. -/
def statusText (code : Nat) : String :=
  toString code ++ " " ++ ((phrases.lookup code).getD "<unknown status code>")

/-- The refusal that a value describes. The status and the code have to be there, the message and
the reason are empty where they are not. -/
def ofJson? (j : Json) : Option Refusal := do
  let field ← j.record? ["status", "message", "reason", "code"] 4
  return {
    status := ← required? Json.string? (field "status")
    message := ← orDefault? "" Json.string? (field "message")
    reason := ← orDefault? "" Json.string? (field "reason")
    code := ← required? (Json.natBelow? 0x1_0000) (field "code") }

/-- The refusal of which only the status code is known. Its message is the content of the reply,
quoted. -/
def unexplained (r : Reply) : Refusal :=
  ⟨statusText r.code, Text.quote r.text, "Failed to parse error data", r.code⟩

/-- Why a request was refused: what the content says, or else what the status code says. -/
def ofReply (r : Reply) : Refusal := ((Json.parse? r.text).bind ofJson?).getD (unexplained r)

end Refusal

/-- What a reply answers, read by a decoder: a refusal if the reply says that the request failed,
and otherwise the object, if it can be read. -/
def Reply.decode {α : Type} (decode : Json → Option α) (r : Reply) : Except ApiError α :=
  if r.isFailure then .error (.refused (.ofReply r))
  else
    match (Json.parse? r.text).bind decode with
    | some a => .ok a
    | none => .error .unreadable

end WorkspaceAccess
