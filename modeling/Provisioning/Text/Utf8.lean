/-!
# Text from bytes

Reading bytes as UTF-8.  What is not UTF-8 is replaced: one replacement character stands for the
longest beginning of a character that goes no further, or for one byte that begins none.
-/

namespace Provisioning.Text

/-- A character of which some bytes have been read. -/
structure Unfinished where
  /-- The bits read so far. -/
  bits : Nat
  /-- The bytes that are still to come. -/
  missing : Nat
  /-- The least that the next byte can be. -/
  least : UInt8 := 0x80
  /-- The greatest that the next byte can be. -/
  greatest : UInt8 := 0xBF
  deriving DecidableEq

/-- What stands in place of bytes that are no character. -/
def replacement : Char := '\uFFFD'

/-- What the first byte of a longer character begins.  The bounds of the second byte keep out longer
forms than needed, surrogates, and what lies beyond the last code point. -/
def Unfinished.start? (byte : UInt8) : Option Unfinished :=
  if 0xC2 ≤ byte ∧ byte ≤ 0xDF then some { bits := byte.toNat % 32, missing := 1 }
  else if byte = 0xE0 then some { bits := 0, missing := 2, least := 0xA0 }
  else if byte = 0xED then some { bits := 13, missing := 2, greatest := 0x9F }
  else if 0xE1 ≤ byte ∧ byte ≤ 0xEF then some { bits := byte.toNat % 16, missing := 2 }
  else if byte = 0xF0 then some { bits := 0, missing := 3, least := 0x90 }
  else if byte = 0xF4 then some { bits := 4, missing := 3, greatest := 0x8F }
  else if 0xF1 ≤ byte ∧ byte ≤ 0xF3 then some { bits := byte.toNat % 8, missing := 3 }
  else none

/-- The character that a byte is, or what it begins, or its replacement. -/
def startingWith (byte : UInt8) : List Char × Option Unfinished :=
  if byte < 0x80 then ([Char.ofNat byte.toNat], none)
  else
    match Unfinished.start? byte with
    | some unfinished => ([], some unfinished)
    | none => ([replacement], none)

/-- What another byte completes, and what is unfinished behind it. -/
def Unfinished.extend (unfinished : Unfinished) (byte : UInt8) : List Char × Option Unfinished :=
  if unfinished.least ≤ byte ∧ byte ≤ unfinished.greatest then
    let bits := unfinished.bits * 64 + byte.toNat % 64
    if unfinished.missing = 1 then ([Char.ofNat bits], none)
    else ([], some { bits, missing := unfinished.missing - 1 })
  else
    let (characters, next) := startingWith byte
    (replacement :: characters, next)

/-- The characters of bytes behind an unfinished one. -/
def charactersAfter : Option Unfinished → List UInt8 → List Char
  | none, [] => []
  | some _, [] => [replacement]
  | unfinished?, byte :: rest =>
      let (characters, next) := match unfinished? with
        | some unfinished => unfinished.extend byte
        | none => startingWith byte
      characters ++ charactersAfter next rest

def ofBytes (bytes : List UInt8) : String :=
  String.ofList (charactersAfter none bytes)

end Provisioning.Text
