import Provisioning.Json.Basic

/-!
# Schemas

The shapes that the API server demands of a resource: texts, words from a closed set, whole numbers,
records with named properties, and dictionaries.  A schema is written as JSON (`toJson`), in which a
record says nothing about the members that it does not name.
-/

namespace Provisioning

/-- What is said about the place of a schema: what the value means, whether it may be null, and
which word stands for an absent one. -/
structure SchemaNotes where
  description : Option String := none
  nullable : Bool := false
  default : Option String := none
  deriving DecidableEq, Repr

/-- The shape of a JSON value. -/
inductive Schema where
  | text (notes : SchemaNotes)
  | word (notes : SchemaNotes) (words : List String)
  | integer (notes : SchemaNotes)
  | record (notes : SchemaNotes) (properties : List (String × Schema)) (required : List String)
  | dictionary (notes : SchemaNotes) (values : Schema)

namespace Schema

/-- What is said about the place of a schema. -/
def notes : Schema → SchemaNotes
  | .text notes => notes
  | .word notes _ => notes
  | .integer notes => notes
  | .record notes _ _ => notes
  | .dictionary notes _ => notes

/-- The members that a schema has on account of its notes. -/
def notesMembers (notes : SchemaNotes) : List (String × Json) :=
  (notes.description.map fun text => ("description", Json.string text)).toList ++
    (if notes.nullable then [("nullable", .bool true)] else []) ++
    (notes.default.map fun word => ("default", Json.string word)).toList

def texts (values : List String) : Json := .array (values.map .string)

/-- A schema with its notes, its type and the members of that type. -/
def typed (type : String) (notes : SchemaNotes) (members : List (String × Json)) : Json :=
  .object (notesMembers notes ++ members ++ [("type", .string type)])

mutual

def toJson : Schema → Json
  | .text notes => typed "string" notes []
  | .word notes words => typed "string" notes [("enum", texts words)]
  | .integer notes => typed "integer" notes [("format", "int64")]
  | .record notes properties required =>
      typed "object" notes
        (("properties", .object (propertiesToJson properties)) ::
          if required.isEmpty then [] else [("required", texts required)])
  | .dictionary notes values =>
      typed "object" notes [("additionalProperties", toJson values)]

def propertiesToJson : List (String × Schema) → List (String × Json)
  | [] => []
  | (name, schema) :: rest => (name, toJson schema) :: propertiesToJson rest

end

end Schema

end Provisioning
