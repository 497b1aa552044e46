import Provisioning.Schema.Definition

/-!
# Conforming to a schema

What the keywords of a schema mean for a JSON value, read off the JSON of the schema itself: a type, a
closed set of words, members that have to be there, properties, and what all other members conform to.
A null conforms where the schema is nullable; whether it also has to be among the words, where there is
a closed set of them, is a matter on which validators differ.

Main statements: for each kind of schema, which values conform to its JSON (`conforms_text_iff`,
`conforms_word_iff`, `conforms_integer_iff`, `conforms_dictionary_iff`, `conforms_record_iff`).
-/

namespace Provisioning

namespace Schema

/-! ## The meaning of the keywords -/

/-- What becomes of a null where a closed set of words is nullable. -/
inductive NullRule where
  /-- It is admitted like everywhere. -/
  | everywhere
  /-- It has to be among the words. -/
  | amongWords
  deriving DecidableEq

/-- Whether a value has the type of the given name. -/
def hasType : String → Json → Bool
  | "string", .string _ => true
  | "boolean", .bool _ => true
  | "integer", .int _ => true
  | "number", .int _ => true
  | "number", .float _ => true
  | "array", .array _ => true
  | "object", .object _ => true
  | _, _ => false

/-- A value is an object with the given member. -/
def Holds (value : Json) (name : String) (held : Json) : Prop :=
  ∃ members, value = .object members ∧ (name, held) ∈ members

/-- A value conforms to a schema given as JSON. -/
inductive Conforms (rule : NullRule) : Json → Json → Prop
  | null {keywords : List (String × Json)}
      (nullable : ("nullable", .bool true) ∈ keywords)
      (listed : rule = .amongWords →
        ∀ words, ("enum", Json.array words) ∈ keywords → Json.null ∈ words) :
      Conforms rule (.object keywords) .null
  | filled {keywords : List (String × Json)} {value : Json}
      (isFilled : value ≠ .null)
      (typed : ∀ type, ("type", Json.string type) ∈ keywords → hasType type value = true)
      (bounded : ("format", Json.string "int64") ∈ keywords → ∀ number, value = .int number →
        -9223372036854775808 ≤ number ∧ number < 9223372036854775808)
      (word : ∀ words, ("enum", Json.array words) ∈ keywords → value ∈ words)
      (complete : ∀ names, ("required", Json.array names) ∈ keywords →
        ∀ name, Json.string name ∈ names → ∃ held, Holds value name held)
      (properties : ∀ properties, ("properties", Json.object properties) ∈ keywords →
        ∀ name schema, (name, schema) ∈ properties →
          ∀ held, Holds value name held → Conforms rule schema held)
      (others : ∀ schema, ("additionalProperties", schema) ∈ keywords →
        ∀ name, (∀ properties, ("properties", Json.object properties) ∈ keywords →
            name ∉ properties.map (·.1)) →
          ∀ held, Holds value name held → Conforms rule schema held) :
      Conforms rule (.object keywords) value

/-! ## The kinds of schemas -/

variable {rule : NullRule} {notes : SchemaNotes} {value : Json}

@[simp]
theorem holds_object_iff {members : List (String × Json)} {name : String} {held : Json} :
    Holds (.object members) name held ↔ (name, held) ∈ members := by
  constructor
  · rintro ⟨_, isObject, member⟩
    rw [Json.object.inj isObject]
    exact member
  · exact fun member => ⟨members, rfl, member⟩

@[simp]
theorem nullable_mem_notesMembers_iff :
    ("nullable", Json.bool true) ∈ notesMembers notes ↔ notes.nullable = true := by
  cases isNullable : notes.nullable <;> simp [notesMembers, isNullable]

/-- The notes of a schema are no other keywords. -/
theorem not_mem_notesMembers {name : String} {argument : Json}
    (other : name ∉ ["description", "nullable", "default"]) :
    (name, argument) ∉ notesMembers notes := by
  obtain ⟨description?, nullable, default?⟩ := notes
  cases description? <;> cases nullable <;> cases default? <;> simp_all [notesMembers]

/-! A value of a type is that type's kind of value. -/

@[simp]
theorem hasType_string_iff :
    hasType "string" value = true ↔ ∃ content, value = .string content := by
  constructor
  · intro isTyped
    cases value with
    | string content => exact ⟨content, rfl⟩
    | _ => cases isTyped
  · rintro ⟨_, rfl⟩
    rfl

@[simp]
theorem hasType_integer_iff :
    hasType "integer" value = true ↔ ∃ number, value = .int number := by
  constructor
  · intro isTyped
    cases value with
    | int number => exact ⟨number, rfl⟩
    | _ => cases isTyped
  · rintro ⟨_, rfl⟩
    rfl

@[simp]
theorem hasType_object_iff :
    hasType "object" value = true ↔ ∃ members, value = .object members := by
  constructor
  · intro isTyped
    cases value with
    | object members => exact ⟨members, rfl⟩
    | _ => cases isTyped
  · rintro ⟨_, rfl⟩
    rfl

@[simp]
theorem conforms_text_iff :
    Conforms rule (text notes).toJson value ↔
      (value = .null ∧ notes.nullable = true) ∨ ∃ content, value = .string content := by
  rw [toJson, Schema.typed]
  constructor
  · intro conforms
    cases conforms with
    | null nullable _ =>
        exact .inl ⟨rfl, by simpa using nullable⟩
    | filled _ isTyped _ _ _ _ _ => exact .inr (hasType_string_iff.mp (isTyped "string" (by simp)))
  · rintro (⟨rfl, nullable⟩ | ⟨content, rfl⟩)
    · exact .null (by simpa using nullable) (by simp [not_mem_notesMembers])
    · refine .filled nofun ?_ ?_ ?_ ?_ ?_ ?_ <;> simp [not_mem_notesMembers]

@[simp]
theorem conforms_word_iff {words : List String} :
    Conforms rule (word notes words).toJson value ↔
      (value = .null ∧ notes.nullable = true ∧ rule = .everywhere) ∨
        ∃ word ∈ words, value = .string word := by
  rw [toJson, Schema.typed, texts]
  constructor
  · intro conforms
    cases conforms with
    | null nullable listed =>
        refine .inl ⟨rfl, by simpa using nullable, ?_⟩
        cases isRule : rule with
        | everywhere => rfl
        | amongWords => simpa using listed isRule (words.map .string) (by simp)
    | filled _ _ _ isWord _ _ _ =>
        have among := isWord (words.map .string) (by simp)
        obtain ⟨word, member, same⟩ := List.mem_map.mp among
        exact .inr ⟨word, member, same.symm⟩
  · rintro (⟨rfl, nullable, rfl⟩ | ⟨word, member, rfl⟩)
    · exact .null (by simpa using nullable) nofun
    · refine .filled nofun ?_ ?_ ?_ ?_ ?_ ?_ <;> simp [not_mem_notesMembers, member]

@[simp]
theorem conforms_integer_iff :
    Conforms rule (integer notes).toJson value ↔
      (value = .null ∧ notes.nullable = true) ∨
        ∃ number, value = .int number ∧
          -9223372036854775808 ≤ number ∧ number < 9223372036854775808 := by
  rw [toJson, Schema.typed]
  constructor
  · intro conforms
    cases conforms with
    | null nullable _ =>
        exact .inl ⟨rfl, by simpa using nullable⟩
    | filled _ isTyped isBounded _ _ _ _ =>
        obtain ⟨number, isNumber⟩ := hasType_integer_iff.mp (isTyped "integer" (by simp))
        exact .inr ⟨number, isNumber, isBounded (by simp) number isNumber⟩
  · rintro (⟨rfl, nullable⟩ | ⟨number, rfl, bounds⟩)
    · exact .null (by simpa using nullable) (by simp [not_mem_notesMembers])
    · refine .filled nofun ?_ ?_ ?_ ?_ ?_ ?_ <;> simp [not_mem_notesMembers, bounds]

@[simp]
theorem conforms_dictionary_iff {values : Schema} :
    Conforms rule (dictionary notes values).toJson value ↔
      (value = .null ∧ notes.nullable = true) ∨
        ∃ members, value = .object members ∧
          ∀ name held, (name, held) ∈ members → Conforms rule values.toJson held := by
  rw [toJson, Schema.typed]
  constructor
  · intro conforms
    cases conforms with
    | null nullable _ =>
        exact .inl ⟨rfl, by simpa using nullable⟩
    | filled _ isTyped _ _ _ _ others =>
        obtain ⟨members, rfl⟩ := hasType_object_iff.mp (isTyped "object" (by simp))
        refine .inr ⟨members, rfl, fun name held member => ?_⟩
        exact others _ (by simp) name (by simp [not_mem_notesMembers]) held
          (holds_object_iff.mpr member)
  · rintro (⟨rfl, nullable⟩ | ⟨members, rfl, conform⟩)
    · exact .null (by simpa using nullable) (by simp [not_mem_notesMembers])
    · refine .filled nofun ?_ ?_ ?_ ?_ ?_ ?_ <;>
        simp [not_mem_notesMembers]
      exact fun name held => conform name held

@[simp]
theorem mem_propertiesToJson_iff {properties : List (String × Schema)} {name : String}
    {argument : Json} :
    (name, argument) ∈ propertiesToJson properties ↔
      ∃ schema, (name, schema) ∈ properties ∧ schema.toJson = argument := by
  induction properties with
  | nil => simp [propertiesToJson]
  | cons head tail inductionHypothesis =>
      obtain ⟨first, schema⟩ := head
      rw [propertiesToJson, List.mem_cons, inductionHypothesis]
      grind

theorem conforms_record_iff {properties : List (String × Schema)} {required : List String} :
    Conforms rule (record notes properties required).toJson value ↔
      (value = .null ∧ notes.nullable = true) ∨
        ∃ members, value = .object members ∧
          (∀ name ∈ required, ∃ held, (name, held) ∈ members) ∧
          ∀ name schema, (name, schema) ∈ properties →
            ∀ held, (name, held) ∈ members → Conforms rule schema.toJson held := by
  rw [toJson, Schema.typed, texts]
  constructor
  · intro conforms
    cases conforms with
    | null nullable _ =>
        refine .inl ⟨rfl, ?_⟩
        simpa using nullable
    | filled _ isTyped _ _ complete conform _ =>
        obtain ⟨members, rfl⟩ := hasType_object_iff.mp (isTyped "object" (by simp))
        refine .inr ⟨members, rfl, ?_, ?_⟩
        · intro name isRequired
          have present := complete (required.map .string)
            (by simp [List.ne_nil_of_mem isRequired]) name (by simp [isRequired])
          simpa only [holds_object_iff] using present
        · intro name schema isProperty held member
          exact conform (propertiesToJson properties) (by simp) name schema.toJson
            (mem_propertiesToJson_iff.mpr ⟨schema, isProperty, rfl⟩) held
            (holds_object_iff.mpr member)
  · rintro (⟨rfl, nullable⟩ | ⟨members, rfl, isComplete, conform⟩)
    · exact .null (by simpa using nullable)
        (by simp [not_mem_notesMembers])
    · refine .filled nofun ?_ ?_ ?_ ?_ ?_ ?_ <;>
        simp [not_mem_notesMembers]
      · exact fun _ name isRequired => isComplete name isRequired
      · exact fun name schema isProperty held => conform name schema isProperty held

theorem nullable_of_conforms_null {schema : Schema} (conforms : Conforms rule schema.toJson .null) :
    schema.notes.nullable = true := by
  cases schema <;>
    simp_all [conforms_text_iff, conforms_word_iff, conforms_integer_iff, conforms_record_iff,
      conforms_dictionary_iff, Schema.notes]

end Schema

end Provisioning
