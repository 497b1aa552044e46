import Provisioning.Json.Parser

/-!
# Decoders

How a type is read, from a JSON value at hand and straight from text.  Straight from text, reading
stops at the first fault, a member that may come once is refused as soon as it comes again, and what
nobody looks at only has to be JSON.  An enumeration is read from the name of a variant or from an
object with that name alone, holding null.
-/

namespace Provisioning.Json

/-- Where a value comes from that is at hand as a whole. -/
inductive Origin where
  /-- A document in canonical form. -/
  | document
  /-- A member that was put aside until it was known what to read it as. -/
  | heldBack
  deriving DecidableEq, Repr

/-- How a type is read. -/
structure Decoder (α : Type) where
  /-- Reads a value. -/
  ofValue : Origin → Json → Except DecodeError α
  /-- Reads a value from text. -/
  ofText : Reader α

namespace Decoder

variable {α β : Type}

def decode (decoder : Decoder α) (value : Json) : Except DecodeError α :=
  decoder.ofValue .document value

def parse (decoder : Decoder α) (text : String) : Except ReadError α :=
  readText decoder.ofText text

/-- Reads what a function makes of what is read. -/
def map (transform : α → β) (decoder : Decoder α) : Decoder β where
  ofValue origin value := (decoder.ofValue origin value).map transform
  ofText := transform <$> decoder.ofText

def any : Decoder Json where
  ofValue _ value := .ok value
  ofText := Reader.whole

def string : Decoder String where
  ofValue
    | _, .string value => .ok value
    | _, other => .error (.invalidType other "a string")
  ofText := do
    match ← Reader.valueStart with
    | '"' => Reader.quotedText
    | _ => Reader.mismatch "a string"

/-- Reads a text that can only be the one given. -/
def constant (expected : String) : Decoder Unit where
  ofValue origin value := do compare (← string.ofValue origin value)
  ofText := do Reader.check (compare (← string.ofText))
where
  /-- Compares a text with the one expected. -/
  compare (found : String) : Except DecodeError Unit :=
    if found = expected then .ok () else .error (.invalidValue (.string found) expected)

def bool : Decoder Bool where
  ofValue
    | _, .bool value => .ok value
    | _, other => .error (.invalidType other "a boolean")
  ofText := do
    match ← Reader.valueStart with
    | 't' => Reader.advance; Reader.restOfTrue; return true
    | 'f' => Reader.advance; Reader.restOfFalse; return false
    | _ => Reader.mismatch "a boolean"

/-- Reads a whole number within bounds, the upper one excluded. -/
def integer (expected : String) (low high : Int) : Decoder Int where
  ofValue _ value := bounded value
  ofText := Reader.locate do
    if Reader.beginsNumber (← Reader.valueStart) then
      Reader.check (bounded (← Reader.number))
    else Reader.mismatch expected
where
  /-- The number that a value is, if it lies within the bounds. -/
  bounded : Json → Except DecodeError Int
    | .int value =>
        if low ≤ value ∧ value < high then .ok value
        else .error (.invalidValue (.int value) expected)
    | other => .error (.invalidType other expected)

/-- Reads a signed whole number of 64 bits. -/
def int64 : Decoder Int64 :=
  (integer "i64" (-9223372036854775808) 9223372036854775808).map Int64.ofInt

/-- Reads a signed whole number of 32 bits. -/
def int32 : Decoder Int := integer "i32" (-2147483648) 2147483648

/-- Reads a whole number of 32 bits without a sign. -/
def uint32 : Decoder Nat := (integer "u32" 0 4294967296).map Int.toNat

/-- Reads a whole number of 16 bits without a sign. -/
def uint16 : Decoder Nat := (integer "u16" 0 65536).map Int.toNat

/-- Reads null as nothing and everything else as something. -/
def option (decoder : Decoder α) : Decoder (Option α) where
  ofValue
    | _, .null => .ok none
    | origin, other => (decoder.ofValue origin other).map some
  ofText := do
    match ← Reader.upcoming with
    | some 'n' => Reader.advance; Reader.restOfNull; return none
    | _ => some <$> decoder.ofText

def orDefault (default : α) (decoder : Decoder α) : Decoder α :=
  (option decoder).map (·.getD default)

def list (decoder : Decoder α) : Decoder (List α) where
  ofValue
    | origin, .array items => items.mapM (decoder.ofValue origin)
    | _, other => .error (.invalidType other "a sequence")
  ofText := do
    match ← Reader.valueStart with
    | '[' => Reader.arrayOf decoder.ofText
    | _ => Reader.mismatch "a sequence"

/-- Reads the members of an object into a map, the last of several with one name kept. -/
def dictionary (decoder : Decoder α) : Decoder (StringMap α) where
  ofValue
    | origin, .object members =>
        members.foldlM
          (fun map member => (decoder.ofValue origin member.2).map (map.insert member.1)) .empty
    | _, other => .error (.invalidType other "a map")
  ofText := do
    match ← Reader.valueStart with
    | '\x7b' => return .ofList (← Reader.objectOf decoder.ofText)
    | _ => Reader.mismatch "a map"

/-! ## Enumerations -/

/-- Reads what stands for a variant beside its name: null, or nothing held back. -/
def unit : Decoder Unit where
  ofValue
    | _, .null => .ok ()
    | .heldBack, .object [] => .ok ()
    | _, other => .error (.invalidType other "unit")
  ofText := do
    match ← Reader.valueStart with
    | 'n' => Reader.advance; Reader.restOfNull
    | _ => Reader.mismatch "unit"

def variantNamed (variants : List (String × α)) (name : String) : Except DecodeError α :=
  match variants.lookup name with
  | some variant => .ok variant
  | none => .error (.unknownVariant name (variants.map (·.1)))

/-- Reads a variant from text: its name, or an object of that name alone with null. -/
def variantOfText (variants : List (String × α)) : Reader α := do
  match ← Reader.valueStart with
  | '"' => named
  | '\x7b' =>
      Reader.openBracket
      let variant ← match ← Reader.valueStart with
        | '"' => named
        | _ => Reader.mismatch "variant identifier"
      Reader.colon
      unit.ofText
      match ← Reader.upcoming with
      | none => Reader.failHere .endInObject
      | some '\x7d' =>
          Reader.advance
          modify fun cursor => { cursor with depth := cursor.depth - 1 }
          return variant
      | some _ => Reader.failHere .expectedValue
  | _ => Reader.failNext .expectedValue
where
  /-- Reads the name of a variant. -/
  named : Reader α := Reader.locate do
    Reader.check (variantNamed variants (← Reader.quotedText))

/-- Reads one of the named variants: its name, or an object of that name alone with null. -/
def variant (variants : List (String × α)) : Decoder α where
  ofValue
    | _, .string name => variantNamed variants name
    | origin, .object [(name, value)] => do
        let variant ← variantNamed variants name
        unit.ofValue origin value
        return variant
    | _, .object members => .error (.invalidValue (.object members) "map with a single key")
    | _, other => .error (.invalidType other "string or map")
  ofText := variantOfText variants

end Decoder

end Provisioning.Json
