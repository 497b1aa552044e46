import Provisioning.Failure
import Provisioning.Json.Basic
import Provisioning.Program

/-!
# Requests to the API server

A request has one answer, read as a whole, or opens a body that is read line by line.
-/

namespace Provisioning.Api

/-- What a request does with what its path names. -/
inductive Method where
  | get
  | post
  | delete
  deriving DecidableEq, Repr

def Method.text : Method → String
  | .get => "GET"
  | .post => "POST"
  | .delete => "DELETE"

/-- A request to the API server. -/
structure Request where
  method : Method
  address : Address
  body : Option Json := none

/-- A request to what a text addresses, if it addresses anything. -/
def Request.to (method : Method) (text : String) (body : Option Json := none) :
    Except ServerError Request :=
  match Address.ofText text with
  | .ok address => .ok { method, address, body }
  | .error error => .error (.unaddressed error)

/-- An answer that was read as a whole. -/
structure Response where
  /-- The status code. -/
  code : Nat
  body : String
  deriving DecidableEq, Repr

/-- A call to the API server. -/
inductive Call where
  /-- Sends a request and reads its answer. -/
  | fetch (request : Request)
  /-- Sends a request whose answer is read line by line. -/
  | openLines (request : Request)
  /-- Reads the next line of an answer. -/
  | nextLine (lines : Nat)

/-- The answers to a call; a request that is lost has the reason. -/
abbrev Call.Answer : Call → Type
  | .fetch _ => Except String Response
  | .openLines _ => Except String Nat
  | .nextLine _ => Option String

abbrev Exchange := Program Call Call.Answer

end Provisioning.Api
