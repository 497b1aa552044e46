import Provisioning.Json.Bracket

/-!
# Documents

A document is one value with nothing but space around it.
-/

namespace Provisioning.Json

variable {α : Type}

/-- Reads what has to be the end of a text. -/
def Reader.theEnd : Reader Unit := do
  match ← Reader.upcoming with
  | none => return
  | some _ => Reader.failNext .trailingCharacters

def readText (reader : Reader α) (text : String) : Except ReadError α :=
  let document : Reader α := Reader.locate do
    let value ← reader
    Reader.theEnd
    return value
  match document (.start text.toList) with
  | .ok (value, _) => .ok value
  | .error (.located error) => .error error
  | .error (.unlocated error cursor) => .error ⟨.unfitting error, cursor.position⟩

/-- A whole document in canonical form. -/
def ofText? (text : String) : Option Json :=
  ((readText Reader.whole text).map canonical).toOption

end Provisioning.Json
