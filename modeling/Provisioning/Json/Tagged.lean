import Provisioning.Json.Record

/-!
# Tagged values

A value whose type is named beside it: an object with the name in one member and the value in
another, or an array of the two.  A value that comes before its name is held back until the name is
known.
-/

namespace Provisioning.Json

/-- How a tagged value is read. -/
structure Tagged (α : Type) where
  /-- How a message calls the whole. -/
  name : String
  /-- The member with the name of a type. -/
  tag : String
  /-- The member with the value. -/
  content : String
  /-- The types by their names. -/
  types : List (String × Decoder α)

namespace Tagged

variable {α : Type}

/-- The members that a tagged value is read from. -/
inductive Part where
  | tag
  | content
  deriving DecidableEq, Repr

def expected (tagged : Tagged α) : String :=
  "adjacently tagged enum " ++ tagged.name

/-- The next of the two members; others are passed over. -/
def nextPart (tagged : Tagged α) : Nat → (first : Bool) → Reader (Option Part)
  | 0, _ => Reader.failHere .endInObject
  | fuel + 1, first => do
      match ← Reader.nameThatFollows first with
      | none => return none
      | some name =>
          if name = tagged.tag then return some .tag
          else if name = tagged.content then return some .content
          else
            Reader.colon
            Reader.skip
            tagged.nextPart fuel false

def readTag (tagged : Tagged α) : Reader (Decoder α) :=
  Decoder.variantOfText tagged.types

def noneLeft (tagged : Tagged α) (fuel : Nat) : Reader Unit := do
  match ← tagged.nextPart fuel false with
  | none => return
  | some .tag => Reader.refuse (.duplicateField tagged.tag)
  | some .content => Reader.refuse (.duplicateField tagged.content)

def readMembers (tagged : Tagged α) (fuel : Nat) : Reader α := do
  match ← tagged.nextPart fuel true with
  | none => Reader.refuse (.missingField tagged.tag)
  | some .tag =>
      Reader.colon
      let decoder ← tagged.readTag
      match ← tagged.nextPart fuel false with
      | none => Reader.refuse (.missingField tagged.content)
      | some .tag => Reader.refuse (.duplicateField tagged.tag)
      | some .content =>
          Reader.colon
          let value ← decoder.ofText
          tagged.noneLeft fuel
          return value
  | some .content =>
      Reader.colon
      let heldBack ← Reader.whole
      match ← tagged.nextPart fuel false with
      | none => Reader.refuse (.missingField tagged.tag)
      | some .content => Reader.refuse (.duplicateField tagged.content)
      | some .tag =>
          Reader.colon
          let decoder ← tagged.readTag
          let value ← Reader.check (decoder.ofValue .heldBack heldBack)
          tagged.noneLeft fuel
          return value

def readItems (tagged : Tagged α) : Reader α := do
  if ← Reader.itemFollows true then
    let decoder ← tagged.readTag
    if ← Reader.itemFollows false then decoder.ofText
    else Reader.refuse (.invalidLength 1 tagged.expected)
  else Reader.refuse (.invalidLength 0 tagged.expected)

def ofText (tagged : Tagged α) : Reader α := do
  match ← Reader.valueStart with
  | '\x7b' => Reader.between .object do tagged.readMembers (← Reader.patience)
  | '[' => Reader.between .array tagged.readItems
  | _ => Reader.mismatch tagged.expected

end Tagged

end Provisioning.Json
