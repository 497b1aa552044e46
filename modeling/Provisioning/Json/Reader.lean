import Provisioning.Json.DecodeError

/-!
# Readers of JSON text

A reader goes through a text from left to right and stops at the first fault.  A fault of the text
itself has a place; what a record finds wrong with its members has none yet and gets the place at
which the record ends or was left (`Reader.locate`).  A place is a line and the number of bytes
before it in that line.
-/

namespace Provisioning.Json

/-- What is wrong with a text that is not JSON. -/
inductive TextError where
  | endInArray
  | endInObject
  | endInString
  | endInValue
  | expectedColon
  | expectedCommaOrBracket
  | expectedCommaOrBrace
  | expectedWord
  | expectedValue
  | invalidEscape
  | invalidNumber
  | numberOutOfRange
  | controlCharacter
  | keyNotString
  | unpairedSurrogate
  | trailingComma
  | trailingCharacters
  | unfinishedEscape
  | tooDeep
  deriving DecidableEq, Repr

def TextError.message : TextError → String
  | .endInArray => "EOF while parsing a list"
  | .endInObject => "EOF while parsing an object"
  | .endInString => "EOF while parsing a string"
  | .endInValue => "EOF while parsing a value"
  | .expectedColon => "expected `:`"
  | .expectedCommaOrBracket => "expected `,` or `]`"
  | .expectedCommaOrBrace => "expected `,` or `\x7d`"
  | .expectedWord => "expected ident"
  | .expectedValue => "expected value"
  | .invalidEscape => "invalid escape"
  | .invalidNumber => "invalid number"
  | .numberOutOfRange => "number out of range"
  | .controlCharacter =>
      "control character (\\u0000-\\u001F) found while parsing a string"
  | .keyNotString => "key must be a string"
  | .unpairedSurrogate => "lone leading surrogate in hex escape"
  | .trailingComma => "trailing comma"
  | .trailingCharacters => "trailing characters"
  | .unfinishedEscape => "unexpected end of hex escape"
  | .tooDeep => "recursion limit exceeded"

def TextError.isEnd : TextError → Bool
  | .endInArray | .endInObject | .endInString | .endInValue => true
  | _ => false

/-- What is wrong at a place of a text. -/
inductive Problem where
  /-- The text is not JSON. -/
  | malformed (error : TextError)
  /-- The text is JSON, but not of what is read. -/
  | unfitting (error : DecodeError)

def Problem.message : Problem → String
  | .malformed error => error.message
  | .unfitting error => error.message

/-! ## Places -/

/-- A place in a text: a line, counted from one on, and the bytes before it in that line. -/
structure Position where
  line : Nat := 1
  column : Nat := 0
  deriving DecidableEq, Repr

namespace Position

def after (position : Position) (character : Char) : Position :=
  if character = '\n' then ⟨position.line + 1, 0⟩
  else ⟨position.line, position.column + character.utf8Size⟩

/-- The place behind the first byte of a character. -/
def afterByte (position : Position) (character : Char) : Position :=
  if character = '\n' then ⟨position.line + 1, 0⟩ else ⟨position.line, position.column + 1⟩

/-- The place behind a number of bytes, at most all of the text. -/
def afterBytes (position : Position) : Nat → List Char → Position
  | _, [] => position
  | count, character :: rest =>
      if character.utf8Size ≤ count then
        (position.after character).afterBytes (count - character.utf8Size) rest
      else ⟨position.line, position.column + count⟩

end Position

/-- Why a text cannot be read, and where that shows. -/
structure ReadError where
  problem : Problem
  position : Position

namespace ReadError

/-- The text of an error, with its place. -/
def message (error : ReadError) : String :=
  s!"{error.problem.message} at line {error.position.line} column {error.position.column}"

/-- Whether the text is the beginning of a longer one. -/
def isCutOff (error : ReadError) : Bool :=
  match error.problem with
  | .malformed error => error.isEnd
  | .unfitting _ => false

end ReadError

/-! ## Reading on -/

/-- How far a text has been read. -/
structure Cursor where
  rest : List Char
  position : Position := {}
  /-- The arrays and objects that are open. -/
  depth : Nat := 0
  /-- A number of steps that reading on cannot use up. -/
  patience : Nat

/-- Why a reader stops. -/
inductive Fault where
  /-- A fault whose place is settled. -/
  | located (error : ReadError)
  /-- What is wrong with a record, and how far the text has been read. -/
  | unlocated (error : DecodeError) (cursor : Cursor)

abbrev Reader := StateT Cursor (Except Fault)

namespace Cursor

/-- The beginning of a text, which takes no more than two steps for each character to read. -/
def start (text : List Char) : Cursor where
  rest := text
  patience := 2 * text.length + 2

def nextPosition (cursor : Cursor) : Position :=
  match cursor.rest with
  | character :: _ => cursor.position.afterByte character
  | [] => cursor.position

def advance (cursor : Cursor) : Cursor :=
  match cursor.rest with
  | character :: rest =>
      { cursor with rest := rest, position := cursor.position.after character }
  | [] => cursor

/-- The place behind leading spaces, tabs and line ends, and what is left there. -/
def pastSpace (position : Position) : List Char → Position × List Char
  | character :: rest =>
      if character = ' ' ∨ character = '\n' ∨ character = '\r' ∨ character = '\t' then
        pastSpace (position.after character) rest
      else (position, character :: rest)
  | [] => (position, [])

/-- The cursor behind leading spaces, tabs and line ends. -/
def skipSpace (cursor : Cursor) : Cursor :=
  let (position, rest) := pastSpace cursor.position cursor.rest
  { cursor with rest, position }

end Cursor

namespace Reader

variable {α : Type}

def failAt (position : Position) (error : TextError) : Reader α := fun _ =>
  .error (.located ⟨.malformed error, position⟩)

def failHere (error : TextError) : Reader α := fun cursor =>
  failAt cursor.position error cursor

def failNext (error : TextError) : Reader α := fun cursor =>
  failAt cursor.nextPosition error cursor

/-- Stops because a record is not as it should be; where that shows is settled later. -/
def refuse (error : DecodeError) : Reader α := fun cursor =>
  .error (.unlocated error cursor)

def check : Except DecodeError α → Reader α
  | .ok value => pure value
  | .error error => refuse error

/-- Gives an error without a place the place up to which the text has been read. -/
def locate (reader : Reader α) : Reader α := fun cursor =>
  match reader cursor with
  | .error (.unlocated error reached) =>
      .error (.located ⟨.unfitting error, reached.position⟩)
  | outcome => outcome

def peek : Reader (Option Char) :=
  return (← get).rest.head?

def advance : Reader Unit :=
  modify Cursor.advance

/-- The next character that is no space, tab or line end. -/
def upcoming : Reader (Option Char) := do
  modify Cursor.skipSpace
  peek

/-- The first character of a value. -/
def valueStart : Reader Char := do
  match ← upcoming with
  | some character => return character
  | none => failNext .endInValue

/-- A number of steps that reading on cannot use up. -/
def patience : Reader Nat :=
  return (← get).patience

end Reader

end Provisioning.Json
