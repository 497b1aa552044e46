import Provisioning.Json.Basic
import Provisioning.Binary64.Shortest
import Provisioning.Text.Quoted

/-!
# Values that describe no record

Why a JSON value does not describe what is read from it, and how a message says so.
-/

namespace Provisioning

/-- Why a JSON value does not describe a record. -/
inductive DecodeError where
  | invalidType (found : Json) (expected : String)
  | invalidValue (found : Json) (expected : String)
  | invalidLength (length : Nat) (expected : String)
  | unknownVariant (name : String) (variants : List String)
  | missingField (name : String)
  | duplicateField (name : String)

namespace DecodeError

def describe : Json → String
  | .null => "null"
  | .bool value => s!"boolean `{value}`"
  | .int value => s!"integer `{value}`"
  | .float value => s!"floating point `{value.text}`"
  | .string value => "string " ++ Text.quoted value
  | .array _ => "sequence"
  | .object _ => "map"

/-- The variants that a message offers in place of an unknown one. -/
def offer (variants : List String) : String :=
  match variants.map fun name => "`" ++ name ++ "`" with
  | [] => "there are no variants"
  | [single] => "expected " ++ single
  | [first, second] => "expected " ++ first ++ " or " ++ second
  | names => "expected one of " ++ ", ".intercalate names

def message : DecodeError → String
  | .invalidType found expected => s!"invalid type: {describe found}, expected {expected}"
  | .invalidValue found expected => s!"invalid value: {describe found}, expected {expected}"
  | .invalidLength length expected => s!"invalid length {length}, expected {expected}"
  | .unknownVariant name variants => s!"unknown variant `{name}`, " ++ offer variants
  | .missingField name => s!"missing field `{name}`"
  | .duplicateField name => s!"duplicate field `{name}`"

end DecodeError

end Provisioning
