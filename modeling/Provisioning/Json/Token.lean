import Provisioning.Json.Reader
import Provisioning.Text.Hexadecimal

/-!
# Words, strings and numbers in JSON text

A string that is read must not hold unpaired surrogates, and a number must not be beyond all
floating-point numbers.
-/

namespace Provisioning.Json.Reader

def word : List Char → Reader Unit
  | [] => return
  | expected :: rest => do
      match ← peek with
      | none => failHere .endInValue
      | some character =>
          if character = expected then
            advance
            word rest
          else failNext .expectedWord

/-- Reads what is left of `null` behind its first letter. -/
def restOfNull : Reader Unit := word ['u', 'l', 'l']

/-- Reads what is left of `true` behind its first letter. -/
def restOfTrue : Reader Unit := word ['r', 'u', 'e']

/-- Reads what is left of `false` behind its first letter. -/
def restOfFalse : Reader Unit := word ['a', 'l', 's', 'e']

/-! ## Strings -/

def unit? : List Char → Option Nat
  | [a, b, c, d] => do
      let a ← Text.hexValue? a
      let b ← Text.hexValue? b
      let c ← Text.hexValue? c
      let d ← Text.hexValue? d
      return ((a * 16 + b) * 16 + c) * 16 + d
  | _ => none

/-- Reads a unit written as four hexadecimal digits: the four bytes that come next. -/
def fourHex : Reader Nat := do
  let cursor ← get
  let ahead := cursor.rest.take 4
  match unit? ahead with
  | some unit =>
      set { cursor with
        rest := cursor.rest.drop 4, position := cursor.position.afterBytes 4 ahead }
      return unit
  | none =>
      let bytes : Nat := ahead.foldl (fun total character => total + character.utf8Size) 0
      failAt (cursor.position.afterBytes 4 ahead)
        (if bytes < 4 then .endInString else .invalidEscape)

def simpleEscape? : Char → Option Char
  | '"' => some '"'
  | '\\' => some '\\'
  | '/' => some '/'
  | 'b' => some '\x08'
  | 'f' => some '\x0c'
  | 'n' => some '\n'
  | 'r' => some '\r'
  | 't' => some '\t'
  | _ => none

/-- Passes over a character that a surrogate pair needs between its halves. -/
def pairedBy (expected : Char) : Reader Unit := do
  match ← peek with
  | none => failHere .endInString
  | some character => if character = expected then advance else failNext .unfinishedEscape

/-- Reads the character of one unit or of a surrogate pair. -/
def unicodeEscape : Reader Char := do
  let unit ← fourHex
  if 0xDC00 ≤ unit ∧ unit < 0xE000 then failHere .unpairedSurrogate
  else if 0xD800 ≤ unit ∧ unit < 0xDC00 then
    pairedBy '\\'
    pairedBy 'u'
    let low ← fourHex
    if 0xDC00 ≤ low ∧ low < 0xE000 then
      return Char.ofNat (0x10000 + (unit - 0xD800) * 0x400 + (low - 0xDC00))
    else failHere .unpairedSurrogate
  else return Char.ofNat unit

def escape : Reader Char := do
  match ← peek with
  | none => failHere .endInString
  | some 'u' => advance; unicodeEscape
  | some character =>
      match simpleEscape? character with
      | some meant => advance; return meant
      | none => failNext .invalidEscape

/-- Reads the characters of a string up to its closing quote onto those already taken, which stand
in reverse. -/
def stringRest : Nat → List Char → Reader (List Char)
  | 0, _ => failHere .endInString
  | fuel + 1, taken => do
      match ← peek with
      | none => failHere .endInString
      | some '"' => advance; return taken
      | some '\\' => advance; stringRest fuel ((← escape) :: taken)
      | some character =>
          if character.toNat < 0x20 then failNext .controlCharacter
          else
            advance
            stringRest fuel (character :: taken)

def quotedText : Reader String := do
  advance
  return String.ofList (← stringRest (← patience) []).reverse

/-! ## Numbers -/

/-- The parts of a number as written. -/
structure Numeral where
  negative : Bool
  whole : List Char
  fraction : Option (List Char)
  exponent : Option Int

/-- The value of a number.  A whole number is kept as such when it fits into 64 bits, signed if it
is negative; every other number is a floating-point one, and too large a number is none. -/
def Numeral.value (numeral : Numeral) : Option Json :=
  let magnitude := Nat.ofDigitChars 10 numeral.whole 0
  let isWhole := numeral.fraction.isNone && numeral.exponent.isNone
  if isWhole ∧ ¬ numeral.negative ∧ magnitude < 18446744073709551616 then
    some (.int magnitude)
  else if isWhole ∧ numeral.negative ∧ 0 < magnitude ∧ magnitude ≤ 9223372036854775808 then
    some (.int (-magnitude))
  else
    (Binary64.ofDecimal numeral.negative numeral.whole (numeral.fraction.getD [])
      (numeral.exponent.getD 0)).map .float

/-- Reads digits up to the first character that is none. -/
def digits : Reader (List Char) := do
  let cursor ← get
  let taken := cursor.rest.takeWhile Char.isDigit
  set { cursor with
    rest := cursor.rest.dropWhile Char.isDigit
    position := cursor.position.afterBytes taken.length taken }
  return taken

/-- Reads the digits before the point: at least one, and no zero before others. -/
def wholePart : Reader (List Char) := do
  match ← peek with
  | none => failHere .endInValue
  | some '0' =>
      advance
      if (← peek).any Char.isDigit then failNext .invalidNumber else return ['0']
  | some character => if character.isDigit then digits else failNext .invalidNumber

/-- Reads a point and at least one digit, if there is a point. -/
def fractionPart : Reader (Option (List Char)) := do
  if (← peek) = some '.' then
    advance
    let places ← digits
    if places.isEmpty then
      failNext (if (← peek).isSome then .invalidNumber else .endInValue)
    else return some places
  else return none

/-- The largest exponent that a number can be written with. -/
def maxExponent : Nat := 2147483647

/-- The digits up to the one that takes an exponent beyond the largest one, if one does. -/
def overflowing? (digits : List Char) : Option Nat :=
  (List.range digits.length).find? fun count =>
    maxExponent < Nat.ofDigitChars 10 (digits.take (count + 1)) 0

/-- Reads an exponent, if there is one, of a number that is zero or not.  An exponent beyond the
largest one takes every number but zero out of range. -/
def exponentPart (isZero : Bool) : Reader (Option Int) := do
  let mark ← peek
  if mark = some 'e' ∨ mark = some 'E' then
    advance
    let sign ← peek
    if sign = some '+' ∨ sign = some '-' then advance
    match ← peek with
    | none => failHere .endInValue
    | some character =>
        if character.isDigit then
          let start := (← get).position
          let places ← digits
          let magnitude : Int := Nat.ofDigitChars 10 places 0
          if sign = some '-' then return some (-magnitude)
          else
            match if isZero then none else overflowing? places with
            | some count => failAt (start.afterBytes (count + 1) places) .numberOutOfRange
            | none => return some magnitude
        else failNext .invalidNumber
  else return none

/-- Reads a number: no leading zeros, and at least one digit in every part. -/
def number : Reader Json := do
  let negative := (← peek) == some '-'
  if negative then advance
  let whole ← wholePart
  let fraction ← fractionPart
  let isZero := (whole ++ fraction.getD []).all (· = '0')
  let exponent ← exponentPart isZero
  match (Numeral.mk negative whole fraction exponent).value with
  | some value => return value
  | none => failHere .numberOutOfRange

def beginsNumber (character : Char) : Bool :=
  character = '-' || character.isDigit

end Provisioning.Json.Reader
