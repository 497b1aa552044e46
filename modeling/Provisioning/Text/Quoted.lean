import Provisioning.Text.Hexadecimal
import Provisioning.Text.Printable

/-!
# Quoted text

The form in which a diagnostic message shows text that came from elsewhere: in double quotes, with
a backslash before a quote or a backslash, short escapes for the common controls, and the code
point of every other character that has no printed form or attaches to its neighbour.
-/

namespace Provisioning.Text

/-- How one character is written between the quotes. -/
def quotedChar (character : Char) : List Char :=
  match character with
  | '"' => ['\\', '"']
  | '\\' => ['\\', '\\']
  | '\n' => ['\\', 'n']
  | '\r' => ['\\', 'r']
  | '\t' => ['\\', 't']
  | '\x00' => ['\\', '0']
  | _ =>
      if isExtender character || isUnprintable character then
        ['\\', 'u', '\x7b'] ++ hexDigits character.toNat ++ ['\x7d']
      else
        [character]

/-- The text in double quotes, safe to show in one line of a message. -/
def quoted (text : String) : String :=
  String.ofList ('"' :: text.toList.flatMap quotedChar ++ ['"'])

end Provisioning.Text
