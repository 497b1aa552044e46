import Provisioning.Json.Basic
import Provisioning.Binary64.Shortest
import Provisioning.Text.Hexadecimal

/-!
# Writing JSON text

Text is written raw except for quotes, backslashes and controls.
-/

namespace Provisioning.Json

/-- Four hexadecimal digits of a code point of the basic plane. -/
def fourDigits (code : Nat) : List Char :=
  let digits := Text.hexDigits code
  List.replicate (4 - digits.length) '0' ++ digits

/-- How one character is written inside a string. -/
def escaped (character : Char) : List Char :=
  if character = '"' ∨ character = '\\' then ['\\', character]
  else if character = '\n' then ['\\', 'n']
  else if character = '\r' then ['\\', 'r']
  else if character = '\t' then ['\\', 't']
  else if character = '\x08' then ['\\', 'b']
  else if character = '\x0c' then ['\\', 'f']
  else if character.toNat < 0x20 then
    '\\' :: 'u' :: fourDigits character.toNat
  else [character]

def renderString (text : String) : String :=
  String.ofList ('"' :: text.toList.flatMap escaped ++ ['"'])

mutual

/-- The text of a value, without spaces. -/
def render : Json → String
  | .null => "null"
  | .bool true => "true"
  | .bool false => "false"
  | .int value => toString value
  | .float value => value.text
  | .string value => renderString value
  | .array items => "[" ++ ",".intercalate (renderItems items) ++ "]"
  | .object members => "\x7b" ++ ",".intercalate (renderMembers members) ++ "\x7d"

def renderItems : List Json → List String
  | [] => []
  | item :: rest => render item :: renderItems rest

def renderMembers : List (String × Json) → List String
  | [] => []
  | (name, value) :: rest => (renderString name ++ ":" ++ render value) :: renderMembers rest

end

end Provisioning.Json
