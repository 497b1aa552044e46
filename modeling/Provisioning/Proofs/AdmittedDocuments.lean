import Provisioning.Json.Pointer
import Provisioning.Proofs.Conformance
import Provisioning.Proofs.WrittenForms

/-!
# Documents that the schema admits

The schema of the resource and the decoder of requirements are two accounts of the same documents.
Whatever conforms to the schema is read, though more than that is read, and whatever is written
conforms to it.

Main statement: the schema that the definition of the resource gives for the requirement agrees with
the decoder in both directions (`requirements_agree_with_schema`).
-/

namespace Provisioning

open Json Schema

namespace Json.Decoder

variable {σ α : Type} {decoder : Decoder α} {schema values : Schema} {notes : SchemaNotes}

/-- Every document that conforms to a schema is read. -/
def Reads (decoder : Decoder α) (schema : Schema) : Prop :=
  ∀ rule (document : Json), Conforms rule schema.toJson document.canonical →
    ∃ value, decoder.decode document.canonical = .ok value

/-- Every document that conforms to a schema and is not null is read. -/
def ReadsFilled (decoder : Decoder α) (schema : Schema) : Prop :=
  ∀ rule (document : Json), document.canonical ≠ .null →
    Conforms rule schema.toJson document.canonical →
      ∃ value, decoder.decode document.canonical = .ok value

theorem ReadsFilled.option (reads : decoder.ReadsFilled schema) :
    (Decoder.option decoder).Reads schema := by
  intro rule document conforms
  by_cases isNull : document.canonical = .null
  · rw [isNull]
    exact ⟨none, rfl⟩
  · obtain ⟨value, isRead⟩ := reads rule document isNull conforms
    exact ⟨some value, option_decode_eq_ok isNull isRead⟩

theorem ReadsFilled.reads (reads : decoder.ReadsFilled schema)
    (notNullable : schema.notes.nullable = false) : decoder.Reads schema := by
  intro rule document conforms
  refine reads rule document ?_ conforms
  intro isNull
  rw [isNull] at conforms
  have nullable := nullable_of_conforms_null conforms
  rw [notNullable] at nullable
  exact Bool.noConfusion nullable

private theorem readsFilled_string : string.ReadsFilled (.text notes) := by
  intro rule document isFilled conforms
  obtain ⟨isNull, _⟩ | ⟨content, isText⟩ := conforms_text_iff.mp conforms
  · exact absurd isNull isFilled
  · rw [isText]
    exact ⟨content, rfl⟩

private theorem readsFilled_variant {variants : List (String × α)} :
    (variant variants).ReadsFilled (.word notes (variants.map (·.1))) := by
  intro rule document isFilled conforms
  obtain ⟨isNull, _⟩ | ⟨word, isWord, isText⟩ := conforms_word_iff.mp conforms
  · exact absurd isNull isFilled
  · obtain ⟨entry, member, rfl⟩ := List.mem_map.mp isWord
    rw [isText]
    show ∃ value, variantNamed variants entry.1 = .ok value
    unfold variantNamed
    cases found : variants.lookup entry.1 with
    | some value => exact ⟨value, rfl⟩
    | none =>
        have notListed := List.lookup_eq_none_iff.mp found entry member
        simp at notListed

/-- A document that is an object holds documents. -/
theorem exists_map_of_canonical_object {document : Json} {members : List (String × Json)}
    (isObject : document.canonical = .object members) :
    ∃ map : StringMap Json, members = map.entries ∧
      ∀ name held, map.get? name = some held → ∃ value : Json, held = value.canonical := by
  cases document with
  | object given =>
      rw [canonical_object] at isObject
      refine ⟨memberMap given, (Json.object.inj isObject).symm, fun name held isHeld => ?_⟩
      have listed := StringMap.mem_of_mem_ofList (StringMap.get?_eq_some_iff.mp isHeld)
      obtain ⟨member, _, isMember⟩ := List.mem_map.mp listed
      exact ⟨member.2, (congrArg Prod.snd isMember).symm⟩
  | _ => simp [canonical] at isObject

private theorem exists_foldlM_insert {entries : List (String × Json)}
    (readable : ∀ entry ∈ entries, ∃ value, decoder.decode entry.2 = .ok value)
    (start : StringMap α) :
    ∃ map, entries.foldlM (fun map member =>
      (decoder.ofValue .document member.2).map (map.insert member.1)) start = .ok map := by
  induction entries generalizing start with
  | nil => exact ⟨start, rfl⟩
  | cons head tail inductionHypothesis =>
      obtain ⟨value, isRead⟩ := readable head List.mem_cons_self
      have opened : decoder.ofValue .document head.2 = .ok value := isRead
      have readableTail : ∀ entry ∈ tail, ∃ value, decoder.decode entry.2 = .ok value :=
        fun entry member => readable entry (List.mem_cons_of_mem head member)
      rw [List.foldlM_cons, opened]
      exact inductionHypothesis readableTail (start.insert head.1 value)

private theorem readsFilled_dictionary (reads : decoder.Reads values) :
    (dictionary decoder).ReadsFilled (.dictionary notes values) := by
  intro rule document isFilled conforms
  obtain ⟨isNull, _⟩ | ⟨members, isObject, conform⟩ := conforms_dictionary_iff.mp conforms
  · exact absurd isNull isFilled
  obtain ⟨map, rfl, documents⟩ := exists_map_of_canonical_object isObject
  have readable : ∀ entry ∈ map.entries, ∃ value, decoder.decode entry.2 = .ok value := by
    intro entry member
    obtain ⟨value, isValue⟩ := documents entry.1 entry.2 (StringMap.get?_eq_some_iff.mpr member)
    have conformsEntry := conform entry.1 entry.2 member
    rw [isValue] at conformsEntry ⊢
    exact reads rule value conformsEntry
  rw [isObject]
  exact exists_foldlM_insert readable .empty

end Json.Decoder

namespace Json

/-! ## Records -/

variable {σ α : Type} {value? : String → Option Json} {fields : List (Field σ)}

private theorem exists_foldlM_readField
    (readable : ∀ field ∈ fields, ∀ held, value? field.name = some held →
      ∃ update, field.update.decode held = .ok update) (start : σ) :
    ∃ draft, fields.foldlM (readField .document value?) start = .ok draft := by
  induction fields generalizing start with
  | nil => exact ⟨start, rfl⟩
  | cons head tail inductionHypothesis =>
      have tailReadable : ∀ field ∈ tail, ∀ held, value? field.name = some held →
          ∃ update, field.update.decode held = .ok update :=
        fun field member => readable field (List.mem_cons_of_mem head member)
      have headRead : ∃ next, readField .document value? start head = .ok next := by
        unfold readField
        cases isHeld : value? head.name with
        | none => exact ⟨start, rfl⟩
        | some held =>
            obtain ⟨update, isRead⟩ := readable head List.mem_cons_self held isHeld
            have opened : head.update.ofValue .document held = .ok update := isRead
            refine ⟨update start, ?_⟩
            simp only [opened]
            rfl
      obtain ⟨next, isNext⟩ := headRead
      rw [List.foldlM_cons, isNext]
      exact inductionHypothesis tailReadable next

/-- Reading a member leaves one that is apart from it as it was. -/
theorem isSet_of_readField {field other : Field σ} {start next : σ} (apart : field.Apart other)
    (isRead : readField .document value? start other = .ok next) :
    field.isSet next = field.isSet start := by
  unfold readField at isRead
  cases isHeld : value? other.name with
  | none =>
      rw [isHeld] at isRead
      cases isRead
      rfl
  | some held =>
      rw [isHeld] at isRead
      dsimp only at isRead
      cases updated : other.update.ofValue .document held with
      | error error =>
          rw [updated] at isRead
          cases isRead
      | ok update =>
          rw [updated] at isRead
          cases isRead
          exact apart.spared update ⟨.document, held, updated⟩ start

private theorem isSet_of_foldlM_readField {field : Field σ} {start draft : σ}
    (apart : ∀ other ∈ fields, field.Apart other)
    (isRead : fields.foldlM (readField .document value?) start = .ok draft) :
    field.isSet draft = field.isSet start := by
  induction fields generalizing start with
  | nil =>
      cases isRead
      rfl
  | cons head tail inductionHypothesis =>
      have tailApart : ∀ other ∈ tail, field.Apart other :=
        fun other member => apart other (List.mem_cons_of_mem head member)
      rw [List.foldlM_cons] at isRead
      cases isNext : readField .document value? start head with
      | error error =>
          rw [isNext] at isRead
          cases isRead
      | ok next =>
          rw [isNext] at isRead
          exact (inductionHypothesis tailApart isRead).trans
            (isSet_of_readField (apart head List.mem_cons_self) isNext)

/-- Of members apart from each other, the first one is set if there is something under its name. -/
theorem isSet_of_held {β : Type} {name : String} {get : σ → Option β} {set : σ → β → σ}
    {decoder : Decoder β} {start draft : σ} {held : Json}
    (apart : ∀ other ∈ fields, (Field.of name get set decoder).Apart other)
    (sets : ∀ draft read, (get (set draft read)).isSome = true)
    (isHeld : value? name = some held)
    (isRead : (Field.of name get set decoder :: fields).foldlM (readField .document value?) start =
      .ok draft) :
    (get draft).isSome = true := by
  have underName : value? (Field.of name get set decoder).name = some held := isHeld
  rw [List.foldlM_cons, readField, underName] at isRead
  cases updated : (Field.of name get set decoder).update.ofValue .document held with
  | error error =>
      simp only [updated] at isRead
      cases isRead
  | ok update =>
      simp only [updated] at isRead
      obtain ⟨read, isUpdate⟩ := Field.yields_of ⟨.document, held, updated⟩
      have kept := isSet_of_foldlM_readField apart isRead
      have isSet : (Field.of name get set decoder).isSet (update start) = true := by
        rw [isUpdate start]
        exact sets start read
      exact kept.trans isSet

/-- A record reads what conforms to its schema if each of its members reads what conforms to the
property of that name, and what then has to be there is. -/
theorem Decoder.readsFilled_record {record : Record σ α} {notes : SchemaNotes}
    {properties : List (String × Schema)} {required : List String} (orderly : record.IsOrderly)
    (reads : ∀ field ∈ record.fields, ∃ schema, (field.name, schema) ∈ properties ∧
      field.update.Reads schema)
    (finishes : ∀ (value? : String → Option Json) draft,
      (∀ name ∈ required, ∃ held, value? name = some held) →
        record.fields.foldlM (readField .document value?) record.start = .ok draft →
          ∃ value, record.finish .members draft = .ok value) :
    (Decoder.record record).ReadsFilled (.record notes properties required) := by
  intro rule document isFilled conforms
  obtain ⟨isNull, _⟩ | ⟨members, isObject, isComplete, conform⟩ := conforms_record_iff.mp conforms
  · exact absurd isNull isFilled
  obtain ⟨map, rfl, documents⟩ := exists_map_of_canonical_object isObject
  have readable : ∀ field ∈ record.fields, ∀ held, map.get? field.name = some held →
      ∃ update, field.update.decode held = .ok update := by
    intro field isField held isHeld
    obtain ⟨schema, isProperty, readsField⟩ := reads field isField
    obtain ⟨value, rfl⟩ := documents field.name held isHeld
    exact readsField rule value
      (conform field.name schema isProperty _ (StringMap.get?_eq_some_iff.mp isHeld))
  have present : ∀ name ∈ required, ∃ held, map.get? name = some held := by
    intro name isRequired
    obtain ⟨held, member⟩ := isComplete name isRequired
    exact ⟨held, StringMap.get?_eq_some_iff.mpr member⟩
  obtain ⟨draft, isRead⟩ := exists_foldlM_readField readable record.start
  obtain ⟨value, isFinished⟩ := finishes map.get? draft present isRead
  rw [isObject]
  exact ⟨value, (Record.ofValue_object_eq_ok_iff orderly).mpr ⟨draft, isRead, isFinished⟩⟩

/-! ## Written objects -/

/-- What is written of a record conforms to its schema if each of its members does. -/
theorem conforms_ofPresent {rule : NullRule} {notes : SchemaNotes}
    {properties : List (String × Schema)} {required : List String}
    {members : List (String × Option Json)}
    (distinct : members.Pairwise fun earlier later => earlier.1 ≠ later.1)
    (conform : ∀ name schema, (name, schema) ∈ properties →
      ∃ value?, members.lookup name = some value? ∧
        ∀ value, value? = some value → Conforms rule schema.toJson value.canonical)
    (complete : ∀ name ∈ required, ∃ value, members.lookup name = some (some value)) :
    Conforms rule (Schema.record notes properties required).toJson (ofPresent members).canonical := by
  obtain ⟨map, isObject, holds⟩ := exists_canonical_ofPresent distinct
  rw [isObject]
  refine conforms_record_iff.mpr (.inr ⟨map.entries, rfl, ?_, ?_⟩)
  · intro name isRequired
    obtain ⟨value, isWritten⟩ := complete name isRequired
    exact ⟨value.canonical, StringMap.get?_eq_some_iff.mp (holds name (some value) isWritten)⟩
  · intro name schema isProperty held member
    obtain ⟨value?, isWritten, conforms⟩ := conform name schema isProperty
    have found := StringMap.get?_eq_some_iff.mpr member
    rw [holds name value? isWritten] at found
    obtain ⟨value, isValue, rfl⟩ := Option.map_eq_some_iff.mp found
    exact conforms value isValue

end Json

/-! ## References -/

private theorem Json.Field.reads_of {σ α : Type} {decoder : Decoder α} {schema : Schema}
    (reads : decoder.Reads schema) (name : String) (get : σ → Option α) (set : σ → α → σ) :
    (Field.of name get set decoder).update.Reads schema := by
  intro rule document conforms
  obtain ⟨value, isRead⟩ := reads rule document conforms
  exact ⟨_, Field.update_eq_ok_iff.mpr ⟨value, isRead, rfl⟩⟩

private theorem Reference.readsFilled (description : String) :
    decoder.ReadsFilled (Schema.reference description) := by
  refine Decoder.readsFilled_record ⟨apart_fields, unset_fields, rfl⟩ ?_
    fun _ draft _ _ => ⟨_, rfl⟩
  have readsText : ∀ text, (Decoder.option .string).Reads (.text (optional text)) :=
    fun _ => Decoder.readsFilled_string.option
  intro field isField
  simp only [Reference.fields, List.mem_cons, List.not_mem_nil, or_false] at isField
  rcases isField with rfl | rfl
  · exact ⟨_, .tail _ (.head _), Field.reads_of (readsText _) _ _ _⟩
  · exact ⟨_, .head _, Field.reads_of (readsText _) _ _ _⟩

theorem Reference.conforms (rule : NullRule) (description : String) (reference : Reference) :
    Conforms rule (Schema.reference description).toJson reference.toJson.canonical := by
  have conformsText : ∀ (text? : Option String) (note : String) (value : Json),
      text?.map .string = some value →
        Conforms rule (Schema.text (optional note)).toJson value.canonical := by
    intro text? note value isText
    obtain ⟨text, _, rfl⟩ := Option.map_eq_some_iff.mp isText
    exact conforms_text_iff.mpr (.inr ⟨text, rfl⟩)
  refine conforms_ofPresent (by simp) ?_ nofun
  intro name schema isProperty
  simp only [List.mem_cons, Prod.mk.injEq, List.not_mem_nil, or_false] at isProperty
  rcases isProperty with ⟨rfl, rfl⟩ | ⟨rfl, rfl⟩
  · exact ⟨_, rfl, conformsText reference.name _⟩
  · exact ⟨_, rfl, conformsText reference.namespaceName _⟩

/-! ## Requirements -/

private theorem CapabilityKind.mem_all (kind : CapabilityKind) : kind ∈ all := by
  cases kind <;> decide

private theorem Implementation.mem_all (implementation : Implementation) : implementation ∈ all := by
  cases implementation <;> decide

private theorem Scope.mem_all (scope : Scope) : scope ∈ all := by
  cases scope <;> decide

private theorem Strategy.mem_all (strategy : Strategy) : strategy ∈ all := by
  cases strategy <;> decide

namespace Requirement

/-- The kind is the only member that a requirement cannot do without. -/
theorem exists_finish {draft : Draft} (isSet : draft.capability.isSome = true) :
    ∃ requirement, draft.finish .members = .ok requirement := by
  obtain ⟨kind, isKind⟩ := Option.isSome_iff_exists.mp isSet
  rw [Draft.finish, isKind]
  exact ⟨_, rfl⟩

private theorem reads_labels (description : String) :
    (Decoder.dictionary .string).Reads (.dictionary (described description) (.text {})) := by
  have readsText : Decoder.string.Reads (.text {}) := Decoder.readsFilled_string.reads rfl
  exact (Decoder.readsFilled_dictionary readsText).reads rfl

theorem reads : decoder.Reads Schema.requirement := by
  refine Decoder.ReadsFilled.reads ?_ rfl
  refine Decoder.readsFilled_record ⟨apart_fields, unset_fields, rfl⟩ ?_ ?_
  · intro field isField
    simp only [fields, List.mem_cons, List.not_mem_nil, or_false] at isField
    rcases isField with rfl | rfl | rfl | rfl | rfl | rfl | rfl
    · exact ⟨_, List.mem_of_getElem? (i := 0) rfl,
        Field.reads_of (Decoder.readsFilled_variant.reads rfl) _ _ _⟩
    · exact ⟨_, List.mem_of_getElem? (i := 1) rfl,
        Field.reads_of Decoder.readsFilled_variant.option _ _ _⟩
    · exact ⟨_, List.mem_of_getElem? (i := 4) rfl,
        Field.reads_of Decoder.readsFilled_variant.option _ _ _⟩
    · exact ⟨_, List.mem_of_getElem? (i := 3) rfl,
        Field.reads_of Decoder.readsFilled_variant.option _ _ _⟩
    · exact ⟨_, List.mem_of_getElem? (i := 5) rfl, Field.reads_of (reads_labels _) _ _ _⟩
    · exact ⟨_, List.mem_of_getElem? (i := 6) rfl,
        Field.reads_of (Reference.readsFilled _).option _ _ _⟩
    · exact ⟨_, List.mem_of_getElem? (i := 2) rfl,
        Field.reads_of (Reference.readsFilled _).option _ _ _⟩
  · intro value? draft present isRead
    obtain ⟨held, isHeld⟩ := present "capability" (.head _)
    have isSet := isSet_of_held (List.pairwise_cons.mp apart_fields).1 (fun _ _ => rfl) isHeld isRead
    exact exists_finish isSet

/-- A word that is written is among those of the schema. -/
theorem conforms_word {α : Type} {rule : NullRule} {notes : SchemaNotes} {all : List α}
    {label : α → String} (complete : ∀ value, value ∈ all) (held? : Option α) (value : Json)
    (isWritten : (held?.map fun held => Json.string (label held)) = some value) :
    Conforms rule (Schema.word notes (all.map label)).toJson value.canonical := by
  obtain ⟨held, _, rfl⟩ := Option.map_eq_some_iff.mp isWritten
  exact conforms_word_iff.mpr
    (.inr ⟨label held, List.mem_map_of_mem (complete held), rfl⟩)

/-- A reference that is written conforms to the schema of references. -/
theorem conforms_reference {rule : NullRule} {description : String}
    (reference? : Option Reference) (value : Json)
    (isWritten : reference?.map Reference.toJson = some value) :
    Conforms rule (Schema.reference description).toJson value.canonical := by
  obtain ⟨reference, _, rfl⟩ := Option.map_eq_some_iff.mp isWritten
  exact reference.conforms rule description

private theorem conforms_labels (rule : NullRule) (notes : SchemaNotes) (labels : Labels) :
    Conforms rule (Schema.dictionary notes (.text {})).toJson (Json.ofMap .string labels).canonical := by
  rw [canonical_ofMap]
  refine conforms_dictionary_iff.mpr (.inr ⟨_, rfl, ?_⟩)
  intro name held member
  obtain ⟨entry, _, isEntry⟩ := List.mem_map.mp member
  exact conforms_text_iff.mpr (.inr ⟨entry.2, (congrArg Prod.snd isEntry).symm⟩)

theorem conforms (rule : NullRule) (requirement : Requirement) :
    Conforms rule Schema.requirement.toJson requirement.toJson.canonical := by
  refine conforms_ofPresent (by simp) ?_ ?_
  · intro name schema isProperty
    simp only [List.mem_cons, Prod.mk.injEq, List.not_mem_nil, or_false] at isProperty
    rcases isProperty with ⟨rfl, rfl⟩ | ⟨rfl, rfl⟩ | ⟨rfl, rfl⟩ | ⟨rfl, rfl⟩ | ⟨rfl, rfl⟩ |
      ⟨rfl, rfl⟩ | ⟨rfl, rfl⟩
    · exact ⟨_, rfl, conforms_word CapabilityKind.mem_all (some requirement.capability)⟩
    · exact ⟨_, rfl, conforms_word Implementation.mem_all requirement.implementation⟩
    · exact ⟨_, rfl, conforms_reference requirement.preferred⟩
    · exact ⟨_, rfl, conforms_word Strategy.mem_all requirement.strategy⟩
    · exact ⟨_, rfl, conforms_word Scope.mem_all requirement.scope⟩
    · refine ⟨_, rfl, fun value isWritten => ?_⟩
      obtain ⟨_, isLabels⟩ := Option.ite_none_left_eq_some.mp isWritten
      cases isLabels
      exact conforms_labels rule _ requirement.selector
    · exact ⟨_, rfl, conforms_reference requirement.specified⟩
  · intro name isRequired
    cases List.mem_singleton.mp isRequired
    exact ⟨_, rfl⟩

end Requirement

/-- The schema that the definition of the resource gives for a requirement and the decoder of
requirements agree: what conforms is read, and what is written conforms. -/
theorem requirements_agree_with_schema (rule : NullRule) :
    ∃ schema,
      ResourceDefinition.document.at?
          "/spec/versions/0/schema/openAPIV3Schema/properties/spec" = some schema ∧
        (∀ document : Json, Conforms rule schema document.canonical →
          ∃ requirement, Requirement.decoder.decode document.canonical = .ok requirement) ∧
        ∀ requirement : Requirement, Conforms rule schema requirement.toJson.canonical :=
  ⟨Schema.requirement.toJson, rfl, Requirement.reads rule, Requirement.conforms rule⟩

end Provisioning
