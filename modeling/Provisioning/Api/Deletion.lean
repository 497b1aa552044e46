import Provisioning.Json.Record

/-!
# Answers to deletions

The server answers a deletion with an account of how it settled it, or with the object that goes
away.  Only whether the answer is in order matters.
-/

namespace Provisioning.Api.Deletion

def isAccount : Json → Bool
  | .object members =>
      match members.reverse.lookup "kind" with
      | some (.string kind) => kind == "Status"
      | _ => false
  | _ => false

/-- Reads one of the causes that an account gives. -/
def causeDecoder : Json.Decoder Unit :=
  .checkedRecord "struct StatusCause"
    [.named "reason" .string, .named "message" .string, .named "field" .string]

def detailsDecoder : Json.Decoder Unit :=
  .checkedRecord "struct StatusDetails"
    [.named "name" .string, .named "group" .string, .named "kind" .string, .named "uid" .string,
      .named "causes" (.list causeDecoder), .named "retryAfterSeconds" .uint32]

def accountDecoder : Json.Decoder Unit :=
  .checkedRecord "struct Status"
    [.named "status" (.option (.variant [("Success", ()), ("Failure", ())])),
      .named "code" .uint16, .named "message" .string, .named "reason" .string,
      .named "details" (.option detailsDecoder)]

/-- Reads the answer to the deletion of an object. -/
def ofText {α : Type} (decoder : Json.Decoder α) (text : String) : Except Json.ReadError Unit := do
  let answer ← Json.Decoder.any.parse text
  if isAccount answer then accountDecoder.parse text
  else do
    let _ ← decoder.parse text
    return

end Provisioning.Api.Deletion
