import Provisioning.Api.Exchange
import Provisioning.Json.Record

/-!
# Refused requests

A request is refused by a status code of 400 to 599.  The body then describes the error; where it
does not, the code and the body itself stand for the description.
-/

namespace Provisioning

namespace ErrorResponse

/-- The members of an error response as they are read. -/
structure Draft where
  status : Option String := none
  message : Option String := none
  reason : Option String := none
  code : Option Nat := none

/-- The members of an error response, in their order. -/
def fields : List (Json.Field Draft) :=
  [.of "status" (·.status) (fun draft value => { draft with status := some value }) .string,
    .of "message" (·.message) (fun draft value => { draft with message := some value }) .string,
    .of "reason" (·.reason) (fun draft value => { draft with reason := some value }) .string,
    .of "code" (·.code) (fun draft value => { draft with code := some value }) .uint16]

/-- The error response that has been read: a status and a code have to be there. -/
def Draft.finish (form : Json.RecordForm) (draft : Draft) : Except DecodeError ErrorResponse := do
  let status ← Json.required "status" "ErrorResponse" 4 0 form draft.status
  let code ← Json.required "code" "ErrorResponse" 4 3 form draft.code
  return { status, message := draft.message.getD "", reason := draft.reason.getD "", code }

def decoder : Json.Decoder ErrorResponse :=
  .record { expected := "struct ErrorResponse", fields, start := {}, finish := Draft.finish }

/-- Reads an error response from the text of a body. -/
def ofText? (text : String) : Option ErrorResponse :=
  (decoder.parse text).toOption

end ErrorResponse

namespace Api

def phrases : List (Nat × String) :=
  [(400, "Bad Request"), (401, "Unauthorized"), (402, "Payment Required"), (403, "Forbidden"),
    (404, "Not Found"), (405, "Method Not Allowed"), (406, "Not Acceptable"),
    (407, "Proxy Authentication Required"), (408, "Request Timeout"), (409, "Conflict"),
    (410, "Gone"), (411, "Length Required"), (412, "Precondition Failed"),
    (413, "Payload Too Large"), (414, "URI Too Long"), (415, "Unsupported Media Type"),
    (416, "Range Not Satisfiable"), (417, "Expectation Failed"), (418, "I'm a teapot"),
    (421, "Misdirected Request"), (422, "Unprocessable Entity"), (423, "Locked"),
    (424, "Failed Dependency"), (425, "Too Early"), (426, "Upgrade Required"),
    (428, "Precondition Required"), (429, "Too Many Requests"),
    (431, "Request Header Fields Too Large"), (451, "Unavailable For Legal Reasons"),
    (500, "Internal Server Error"), (501, "Not Implemented"), (502, "Bad Gateway"),
    (503, "Service Unavailable"), (504, "Gateway Timeout"), (505, "HTTP Version Not Supported"),
    (506, "Variant Also Negotiates"), (507, "Insufficient Storage"), (508, "Loop Detected"),
    (510, "Not Extended"), (511, "Network Authentication Required")]

def statusText (code : Nat) : String :=
  s!"{code} " ++ (phrases.lookup code).getD "<unknown status code>"

def isRefusal (code : Nat) : Bool :=
  400 ≤ code && code < 600

def refusal (response : Response) : ErrorResponse :=
  (ErrorResponse.ofText? response.body).getD
    { status := statusText response.code
      message := Text.quoted response.body
      reason := "Failed to parse error data"
      code := response.code }

/-- The body of an answer, unless the request was lost or refused. -/
def bodyOf : Except String Response → Except ServerError String
  | .error reason => .error (.unreachable reason)
  | .ok response =>
      if isRefusal response.code then .error (.refused (refusal response)) else .ok response.body

end Api

end Provisioning
