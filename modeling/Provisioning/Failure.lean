import Provisioning.Api.Address
import Provisioning.Conventions
import Provisioning.Duration
import Provisioning.Json.DecodeError
import Provisioning.Text.Quoted

/-!
# Failures

What can go wrong below the provisioning rules: the API server's refusals and transport errors,
invalid input, unreadable data, waits that gave up, and operational errors.  Every failure has one
text and says whether trying again can help.
-/

namespace Provisioning

/-- The API server's description of a request that it refused. -/
structure ErrorResponse where
  status : String
  message : String
  reason : String
  code : Nat
  deriving DecidableEq, Repr

/-- Why a request to the API server has no answer. -/
inductive ServerError where
  /-- The server answered with an error. -/
  | refused (response : ErrorResponse)
  /-- The request or its answer was lost. -/
  | unreachable (reason : String)
  /-- The request names no object and was never sent. -/
  | unnamed
  /-- The request has no address and was never sent. -/
  | unaddressed (error : Api.AddressError)
  /-- The answer is not what was asked for. -/
  | unreadable (reason : String)
  deriving DecidableEq, Repr

namespace ServerError

/-- The text of an error response in all its parts. -/
def responseText (response : ErrorResponse) : String :=
  "ErrorResponse \x7b status: " ++ Text.quoted response.status ++
    ", message: " ++ Text.quoted response.message ++
    ", reason: " ++ Text.quoted response.reason ++
    ", code: " ++ toString response.code ++ " \x7d"

def message : ServerError → String
  | .refused response =>
      s!"ApiError: {response.message}: {response.reason} (" ++ responseText response ++ ")"
  | .unreachable reason => s!"ServiceError: {reason}"
  | .unnamed =>
      "Failed to build request: failed to validate request: A non-empty name is required"
  | .unaddressed error => s!"Failed to build request: failed to build request: {error.message}"
  | .unreadable reason => s!"Error deserializing response: {reason}"

/-- Whether the server refused the request with the given code. -/
def hasCode (code : Nat) : ServerError → Bool
  | .refused response => response.code == code
  | _ => false

/-- The object is not there. -/
def isNotFound (error : ServerError) : Bool := error.hasCode 404

/-- The name is taken. -/
def isAlreadyExists (error : ServerError) : Bool := error.hasCode 409

end ServerError

/-- What can go wrong below the provisioning rules. -/
inductive Failure where
  | server (error : ServerError)
  | validation (resource message : String) (field? : Option String)
  | serialization (message : String) (kind? : Option String)
  | timeout (message : String) (elapsed : Duration)
  | internal (context message : String)
  deriving DecidableEq, Repr

namespace Failure

/-- A value that does not describe a record, as a failure. -/
def ofDecode (error : DecodeError) : Failure :=
  .serialization error.message none

def message : Failure → String
  | .server error => "kubernetes error: " ++ error.message
  | .validation resource message _ => s!"validation error for {resource}: {message}"
  | .serialization message _ => s!"serialization error: {message}"
  | .timeout message elapsed => s!"timed out after {elapsed.text}: {message}"
  | .internal context message => s!"internal error [{context}]: {message}"

/-- Whether trying again can help: not after invalid or unreadable input, and not after the server
refused a request as wrong, with a code from 400 to 499. -/
def isRetryable : Failure → Bool
  | .server (.refused response) => ! (400 ≤ response.code && response.code < 500)
  | .server _ => true
  | .validation .. => false
  | .serialization .. => false
  | .timeout .. => true
  | .internal .. => true

def resource? : Failure → Option String
  | .validation resource _ _ => some resource
  | _ => none

/-- The part of the program in which a failure arose. -/
def context? : Failure → Option String
  | .internal context _ => some context
  | _ => none

end Failure

end Provisioning
