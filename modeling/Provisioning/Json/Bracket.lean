import Provisioning.Json.Token

/-!
# Arrays and objects in JSON text

Items and members are read one after the other between brackets, at most 127 of which may be open at
a time.  When a reader refuses what stands between brackets, the place of the error is behind the
closing bracket if that comes next.
-/

namespace Provisioning.Json

/-- What holds items or members together. -/
inductive Bracket where
  | array
  | object
  deriving DecidableEq, Repr

/-- The number of open brackets that is too large. -/
def depthLimit : Nat := 128

/-- Where a text is left after what stands between brackets was refused. -/
def Bracket.leave (cursor : Cursor) : Bracket → Cursor
  | .array =>
      let cursor := cursor.skipSpace
      match cursor.rest.head? with
      | some ']' => cursor.advance
      | some ',' => cursor.advance.skipSpace
      | _ => cursor
  | .object =>
      let cursor := cursor.skipSpace
      match cursor.rest.head? with
      | some '\x7d' => cursor.advance
      | _ => cursor

namespace Reader

variable {α : Type}

def openBracket : Reader Unit := do
  let cursor ← get
  if cursor.depth + 1 = depthLimit then failNext .tooDeep
  else
    set { cursor with depth := cursor.depth + 1 }
    advance

def closeBracket : Bracket → Reader Unit
  | .array => do
      match ← upcoming with
      | none => failNext .endInArray
      | some ']' => advance
      | some ',' =>
          advance
          if (← upcoming) = some ']' then failNext .trailingComma else failNext .trailingCharacters
      | some _ => failNext .trailingCharacters
  | .object => do
      match ← upcoming with
      | none => failNext .endInObject
      | some '\x7d' => advance
      | some ',' => failNext .trailingComma
      | some _ => failNext .trailingCharacters

/-- Moves the place of what a reader refuses behind the closing bracket. -/
def leaving (bracket : Bracket) (reader : Reader α) : Reader α := fun cursor =>
  match reader cursor with
  | .error (.unlocated error reached) => .error (.unlocated error (bracket.leave reached))
  | outcome => outcome

/-- Reads what stands between brackets, from the opening one to the closing one. -/
def between (bracket : Bracket) (reader : Reader α) : Reader α := locate do
  openBracket
  let value ← leaving bracket reader
  closeBracket bracket
  modify fun cursor => { cursor with depth := cursor.depth - 1 }
  return value

/-- Whether another item of an array follows; the comma before it is passed over. -/
def itemFollows (first : Bool) : Reader Bool := do
  match ← upcoming with
  | none => failNext .endInArray
  | some ']' => return false
  | some character =>
      if first then return true
      else if character = ',' then
        advance
        match ← upcoming with
        | none => failNext .endInValue
        | some ']' => failNext .trailingComma
        | some _ => return true
      else failNext .expectedCommaOrBracket

/-- The name of the member of an object that follows, if one does. -/
def nameThatFollows (first : Bool) : Reader (Option String) := do
  match ← upcoming with
  | none => failNext .endInObject
  | some '\x7d' => return none
  | some character =>
      if first then
        if character = '"' then some <$> quotedText else failNext .keyNotString
      else if character = ',' then
        advance
        match ← upcoming with
        | none => failNext .endInValue
        | some '"' => some <$> quotedText
        | some '\x7d' => failNext .trailingComma
        | some _ => failNext .keyNotString
      else failNext .expectedCommaOrBrace

def colon : Reader Unit := do
  match ← upcoming with
  | none => failNext .endInObject
  | some ':' => advance
  | some _ => failNext .expectedColon

def itemsOf (reader : Reader α) : Nat → (first : Bool) → Reader (List α)
  | 0, _ => failHere .endInArray
  | fuel + 1, first => do
      if ← itemFollows first then
        let item ← reader
        return item :: (← itemsOf reader fuel false)
      else return []

def arrayOf (reader : Reader α) : Reader (List α) :=
  between .array do itemsOf reader (← patience) true

def membersOf (reader : Reader α) : Nat → (first : Bool) → Reader (List (String × α))
  | 0, _ => failHere .endInObject
  | fuel + 1, first => do
      match ← nameThatFollows first with
      | none => return []
      | some name =>
          colon
          let value ← reader
          return (name, value) :: (← membersOf reader fuel false)

/-- Reads an object with its members in their order. -/
def objectOf (reader : Reader α) : Reader (List (String × α)) :=
  between .object do membersOf reader (← patience) true

/-! ## Whole values -/

/-- Reads one value with all that is in it. -/
def valueWithin : Nat → Reader Json
  | 0 => failHere .endInValue
  | fuel + 1 => do
      match ← valueStart with
      | '"' => .string <$> quotedText
      | '[' => .array <$> arrayOf (valueWithin fuel)
      | '\x7b' => .object <$> objectOf (valueWithin fuel)
      | 'n' => advance; restOfNull; return .null
      | 't' => advance; restOfTrue; return .bool true
      | 'f' => advance; restOfFalse; return .bool false
      | character => if beginsNumber character then number else failNext .expectedValue

/-- Reads one value with all that is in it, repeated names included. -/
def whole : Reader Json := valueWithin depthLimit

/-- Refuses the value that comes next because another type is expected.  An array or object is not
opened for that. -/
def mismatch (expected : String) : Reader α := locate do
  let found : Json ← match ← peek with
    | some 'n' => do advance; restOfNull; pure .null
    | some 't' => do advance; restOfTrue; pure (.bool true)
    | some 'f' => do advance; restOfFalse; pure (.bool false)
    | some '"' => .string <$> quotedText
    | some '[' => pure (.array [])
    | some '\x7b' => pure (.object [])
    | some character => if beginsNumber character then number else failNext .expectedValue
    | none => failNext .expectedValue
  refuse (.invalidType found expected)

end Reader

end Provisioning.Json
