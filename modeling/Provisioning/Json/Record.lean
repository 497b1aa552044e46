import Provisioning.Json.Decoder
import Provisioning.Json.Skip

/-!
# Records in JSON

A record is read from an object by member names and, if it has such a form, from an array by
position.  The first member that cannot be read decides the error, and only then missing members are
looked for.
-/

namespace Provisioning.Json

/-- How a record stands in JSON. -/
inductive RecordForm where
  | members
  | items
  deriving DecidableEq, Repr

/-- One member of a record under construction: its name, whether it was set before, and how it is
read into the record. -/
structure Field (σ : Type) where
  name : String
  isSet : σ → Bool
  update : Decoder (σ → σ)

namespace Field

variable {σ α : Type}

def of (name : String) (get : σ → Option α) (set : σ → α → σ) (decoder : Decoder α) : Field σ where
  name := name
  isSet record := (get record).isSome
  update := decoder.map fun value record => set record value

/-- A member that may come again, the last one kept. -/
def lastOf (name : String) (set : σ → α → σ) (decoder : Decoder α) : Field σ where
  name := name
  isSet _ := false
  update := decoder.map fun value record => set record value

def checked (name : String) (decoder : Decoder α) : Field σ :=
  lastOf name (fun record _ => record) decoder

/-- A member that may come once and is not kept, of a record of which only the names are. -/
def named (name : String) (decoder : Decoder α) : Field (List String) where
  name := name
  isSet names := names.contains name
  update := decoder.map fun _ names => name :: names

end Field

/-- What becomes of a record that is given as an array. -/
inductive ArrayForm where
  /-- Its items are the members, in their order. -/
  | positional
  /-- It is opened and refused. -/
  | refused
  /-- It is refused before it is opened. -/
  | unopened
  deriving DecidableEq, Repr

/-- How a record is read. -/
structure Record (σ α : Type) where
  /-- How a message calls what is expected. -/
  expected : String
  fields : List (Field σ)
  /-- The record before any member was read. -/
  start : σ
  arrays : ArrayForm := .positional
  /-- What becomes of members with other names: they are passed over, or read and handed on. -/
  others : Option (String × Json → σ → σ) := none
  /-- What is made of the members. -/
  finish : RecordForm → σ → Except DecodeError α

def required {α : Type} (name record : String) (count position : Nat) (form : RecordForm)
    (value? : Option α) : Except DecodeError α :=
  match value?, form with
  | some value, _ => .ok value
  | none, .members => .error (.missingField name)
  | none, .items => .error (.invalidLength position s!"struct {record} with {count} elements")

namespace Record

variable {σ α : Type}

def field? (record : Record σ α) (name : String) : Option (Field σ) :=
  record.fields.find? (·.name == name)

/-! ## From a value -/

/-- Reads one member of an object. -/
def readMember (record : Record σ α) (origin : Origin) (draft : σ) (member : String × Json) :
    Except DecodeError σ :=
  match record.field? member.1 with
  | some field =>
      if field.isSet draft then .error (.duplicateField member.1)
      else do return (← field.update.ofValue origin member.2) draft
  | none =>
      match record.others with
      | some keep => .ok (keep member draft)
      | none => .ok draft

/-- Reads the items of an array, one field after the other.  What remains of the array when the
fields end is handed back. -/
def readItems (origin : Origin) :
    List (Field σ) → List Json → σ → Except DecodeError (σ × List Json)
  | field :: fields, item :: items, draft => do
      let update ← field.update.ofValue origin item
      readItems origin fields items (update draft)
  | _, items, draft => .ok (draft, items)

/-- What a message says of an array that is too long. -/
def tooLong (record : Record σ α) : Origin → String
  | .document => "fewer elements in array"
  | .heldBack =>
      match record.fields.length with
      | 1 => "1 element in sequence"
      | count => s!"{count} elements in sequence"

def ofValue (record : Record σ α) (origin : Origin) (value : Json) : Except DecodeError α :=
  match value, record.arrays with
  | .object members, _ => do
      record.finish .members (← members.foldlM (record.readMember origin) record.start)
  | .array items, .positional => do
      let (draft, rest) ← readItems origin record.fields items record.start
      let result ← record.finish .items draft
      if rest.isEmpty then return result
      else .error (.invalidLength items.length (record.tooLong origin))
  | other, _ => .error (.invalidType other record.expected)

/-! ## From text -/

def membersOfText (record : Record σ α) : Nat → (first : Bool) → σ → Reader σ
  | 0, _, _ => Reader.failHere .endInObject
  | fuel + 1, first, draft => do
      match ← Reader.nameThatFollows first with
      | none => return draft
      | some name =>
          match record.field? name with
          | some field =>
              if field.isSet draft then Reader.refuse (.duplicateField name)
              else
                Reader.colon
                let update ← field.update.ofText
                record.membersOfText fuel false (update draft)
          | none =>
              Reader.colon
              match record.others with
              | some keep =>
                  let value ← Reader.whole
                  record.membersOfText fuel false (keep (name, value) draft)
              | none =>
                  Reader.skip
                  record.membersOfText fuel false draft

/-- Reads the items of an array, one field after the other. -/
def itemsOfText : List (Field σ) → (first : Bool) → σ → Reader σ
  | [], _, draft => return draft
  | field :: fields, first, draft => do
      if ← Reader.itemFollows first then
        let update ← field.update.ofText
        itemsOfText fields false (update draft)
      else return draft

def ofText (record : Record σ α) : Reader α := do
  match ← Reader.valueStart, record.arrays with
  | '\x7b', _ => Reader.between .object do
      let draft ← record.membersOfText (← Reader.patience) true record.start
      Reader.check (record.finish .members draft)
  | '[', .positional => Reader.between .array do
      let draft ← itemsOfText record.fields true record.start
      Reader.check (record.finish .items draft)
  | '[', .refused => Reader.between .array do
      Reader.refuse (.invalidType (.array []) record.expected)
  | _, _ => Reader.mismatch record.expected

end Record

def Decoder.record {σ α : Type} (record : Record σ α) : Decoder α where
  ofValue := record.ofValue
  ofText := record.ofText

/-- Reads a record of which every member has a default. -/
def Decoder.plainRecord {σ α : Type} (expected : String) (fields : List (Field σ)) (start : σ)
    (finish : σ → α) : Decoder α :=
  .record { expected, fields, start, finish := fun _ draft => .ok (finish draft) }

/-- Reads a record of which every member has a default and none is kept. -/
def Decoder.checkedRecord (expected : String) (fields : List (Field (List String))) :
    Decoder Unit :=
  .plainRecord expected fields [] fun _ => ()

/-- Reads an object of the cluster: it has no form as an array, needs none of its members, and of a
member that comes again the last one counts. -/
def Decoder.resource {σ : Type} (expected : String) (fields : List (Field σ)) (start : σ) :
    Decoder σ :=
  .record { expected, fields, start, arrays := .refused, finish := fun _ draft => .ok draft }

end Provisioning.Json
