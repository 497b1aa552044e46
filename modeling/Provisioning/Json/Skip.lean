import Provisioning.Json.Token

/-!
# Passing over JSON

What nobody looks at only has to be JSON: it may repeat names, hold numbers beyond every range and
unpaired surrogates, and be nested to any depth.
-/

namespace Provisioning.Json.Reader

def skipEscape : Reader Unit := do
  match ← peek with
  | none => failHere .endInString
  | some 'u' =>
      advance
      let _ ← fourHex
      return
  | some character => if (simpleEscape? character).isSome then advance else failNext .invalidEscape

/-- Passes over the characters of a string and its closing quote. -/
def skipString : Nat → Reader Unit
  | 0 => failHere .endInString
  | fuel + 1 => do
      match ← peek with
      | none => failHere .endInString
      | some '"' => advance
      | some '\\' =>
          advance
          skipEscape
          skipString fuel
      | some character =>
          if character.toNat < 0x20 then failHere .controlCharacter
          else
            advance
            skipString fuel

/-- Passes over the exponent of a number, if there is one. -/
def skipExponent : Reader Unit := do
  let mark ← peek
  if mark = some 'e' ∨ mark = some 'E' then
    advance
    let sign ← peek
    if sign = some '+' ∨ sign = some '-' then advance
    if (← peek).any Char.isDigit then
      let _ ← digits
    else failNext .invalidNumber

/-- Passes over a number: no leading zeros, and at least one digit in every part. -/
def skipNumber : Reader Unit := do
  if (← peek) = some '-' then advance
  match ← peek with
  | some '0' =>
      advance
      if (← peek).any Char.isDigit then failNext .invalidNumber
  | character =>
      if character.any Char.isDigit then
        let _ ← digits
      else failNext .invalidNumber
  if (← peek) = some '.' then
    advance
    if (← digits).isEmpty then failNext .invalidNumber
  skipExponent

mutual

/-- Passes over one value. -/
def skipValue : Nat → Reader Unit
  | 0 => failHere .endInValue
  | fuel + 1 => do
      match ← valueStart with
      | '"' => advance; skipString fuel
      | '[' => advance; skipItems fuel true
      | '\x7b' => advance; skipMembers fuel true
      | 'n' => advance; restOfNull
      | 't' => advance; restOfTrue
      | 'f' => advance; restOfFalse
      | character => if beginsNumber character then skipNumber else failNext .expectedValue

/-- Passes over the items of an array and its closing bracket. -/
def skipItems : Nat → (first : Bool) → Reader Unit
  | 0, _ => failHere .endInArray
  | fuel + 1, first => do
      match ← upcoming with
      | none => failNext .endInArray
      | some ']' => advance
      | some character =>
          if first then skipValue fuel
          else if character = ',' then
            advance
            skipValue fuel
          else failNext .expectedCommaOrBracket
          skipItems fuel false

/-- Passes over the members of an object and its closing brace. -/
def skipMembers : Nat → (first : Bool) → Reader Unit
  | 0, _ => failHere .endInObject
  | fuel + 1, first => do
      match ← upcoming with
      | none => failNext .endInObject
      | some '\x7d' => advance
      | some character =>
          if first then skipMember fuel
          else if character = ',' then
            advance
            skipMember fuel
          else failNext .expectedCommaOrBrace
          skipMembers fuel false

def skipMember : Nat → Reader Unit
  | 0 => failHere .endInObject
  | fuel + 1 => do
      match ← upcoming with
      | none => failNext .endInObject
      | some '"' =>
          advance
          skipString (← patience)
          match ← upcoming with
          | none => failNext .endInObject
          | some ':' => advance; skipValue fuel
          | some _ => failNext .expectedColon
      | some _ => failNext .keyNotString

end

/-- Passes over one value that nobody looks at. -/
def skip : Reader Unit := do
  skipValue (2 * (← patience))

end Provisioning.Json.Reader
