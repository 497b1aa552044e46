import Provisioning.Json.Basic
import Provisioning.Text.Count
import Provisioning.Text.Pieces

/-!
# Pointers into JSON values

A pointer is empty, for the whole value, or a list of steps, each behind a slash: the name of a
member or the position of an item.  In a step `~1` stands for a slash and `~0` for a tilde.
-/

namespace Provisioning.Json

/-- A step of a pointer without its escapes. -/
def unescapeStep : List Char → List Char
  | '~' :: '1' :: rest => '/' :: unescapeStep rest
  | '~' :: '0' :: rest => '~' :: unescapeStep rest
  | character :: rest => character :: unescapeStep rest
  | [] => []

/-- The position that a step denotes: digits without a plus sign or a leading zero. -/
def position? (step : List Char) : Option Nat :=
  if step.head? = some '+' ∨ (step.head? = some '0' ∧ 1 < step.length) then none
  else Text.readCount step

/-- The part of a value behind one step. -/
def part? (step : List Char) : Json → Option Json
  | .object members => members.lookup (String.ofList step)
  | .array items => (position? step).bind (items[·]?)
  | _ => none

/-- The part of a value that a pointer denotes. -/
def at? (value : Json) (pointer : String) : Option Json :=
  match pointer.toList with
  | [] => some value
  | '/' :: rest =>
      ((Text.pieces '/' rest).map unescapeStep).foldlM (fun part step => part? step part) value
  | _ => none

end Provisioning.Json
