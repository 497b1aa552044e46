import Provisioning.Binary64.Basic
import Provisioning.StringMap.Basic

/-!
# JSON values

A value keeps whole numbers apart from floating-point numbers, and an object keeps its members in the
order in which they were given, repeated names included.  The canonical form sorts the members by
name and keeps the last of several with one name.
-/

namespace Provisioning

/-- A JSON value. -/
inductive Json where
  | null
  | bool (value : Bool)
  | int (value : Int)
  | float (value : Binary64)
  | string (value : String)
  | array (items : List Json)
  | object (members : List (String × Json))
  deriving Inhabited, Repr, BEq

namespace Json

mutual

/-- The value with the members of every object sorted by name, the last of several with one name
kept. -/
def canonical : Json → Json
  | .array items => .array (canonicalItems items)
  | .object members => .object (canonicalMembers members [])
  | value => value

/-- The items in canonical form. -/
def canonicalItems : List Json → List Json
  | [] => []
  | item :: rest => canonical item :: canonicalItems rest

/-- The members in canonical form, put one after the other onto sorted members. -/
def canonicalMembers : List (String × Json) → List (String × Json) → List (String × Json)
  | [], sorted => sorted
  | (name, value) :: rest, sorted =>
      canonicalMembers rest (StringMap.insertEntry name (canonical value) sorted)

end

/-- The value of the first member with the given name. -/
def member? (name : String) : Json → Option Json
  | .object members => members.lookup name
  | _ => none

/-- The value of the first member with the given name, null where there is none. -/
def memberOrNull (name : String) (value : Json) : Json :=
  (value.member? name).getD .null

/-- An object of the members that have a value. -/
def ofPresent (members : List (String × Option Json)) : Json :=
  .object (members.filterMap fun (name, value?) => value?.map fun value => (name, value))

def ofMap {α : Type} (encode : α → Json) (map : StringMap α) : Json :=
  .object (map.entries.map fun entry => (entry.1, encode entry.2))

instance : Coe String Json := ⟨.string⟩

instance : Coe Bool Json := ⟨.bool⟩

/-- An optional value, absent ones as null. -/
def ofOption {α : Type} (encode : α → Json) : Option α → Json
  | some value => encode value
  | none => .null

end Json

end Provisioning
