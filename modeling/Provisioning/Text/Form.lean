import Provisioning.Text.Hexadecimal
import Provisioning.Text.Pieces
import Provisioning.Text.Utf8

/-!
# Form fields

Names and values in one text, as in the query of an address: `name=value`, separated by `&`.  A
space is written as a plus sign; letters, digits and `*-._` stand for themselves, and every other
character is written by its bytes, each behind a percent sign.
-/

namespace Provisioning.Text.Form

def isPlain (character : Char) : Bool :=
  character.isAlphanum || character == '*' || character == '-' || character == '.' ||
    character == '_'

def escapedByte (byte : UInt8) : List Char :=
  ['%', upperHexDigit (byte.toNat / 16), upperHexDigit (byte.toNat % 16)]

/-- How one character is written. -/
def encodedChar (character : Char) : List Char :=
  if isPlain character then [character]
  else if character = ' ' then ['+']
  else (String.utf8EncodeChar character).flatMap escapedByte

def encode (text : String) : String :=
  String.ofList (text.toList.flatMap encodedChar)

def encodeField (field : String × String) : String :=
  encode field.1 ++ "=" ++ encode field.2

/-- The bytes that a written text stands for; a percent sign without two digits is itself. -/
def bytes : List Char → List UInt8
  | [] => []
  | '+' :: rest => 0x20 :: bytes rest
  | '%' :: high :: low :: rest =>
      match hexValue? high, hexValue? low with
      | some high, some low => UInt8.ofNat (high * 16 + low) :: bytes rest
      | _, _ => 0x25 :: bytes (high :: low :: rest)
  | character :: rest => String.utf8EncodeChar character ++ bytes rest

def decode (written : List Char) : String :=
  ofBytes (bytes written)

/-- The field that was written; without an equals sign its value is empty. -/
def decodeField (written : List Char) : String × String :=
  (decode (written.takeWhile (· ≠ '=')), decode ((written.dropWhile (· ≠ '=')).drop 1))

/-- The fields of a text, in their order; what is empty is none. -/
def fields (text : List Char) : List (String × String) :=
  ((pieces '&' text).filter (! ·.isEmpty)).map decodeField

end Provisioning.Text.Form
