import Provisioning.Capability.Basic
import Provisioning.Proofs.RecordMembers

/-!
# Written forms

References, requirements, statuses and capabilities are read from more forms than they are written in:
from arrays, with nulls, with names that nobody looks at, with a variant as an object of its name.  What
is written of a value is read as that value, so each value has one written form, and whatever it was
read from, it is written and read in that form from then on.

Main statement: the written forms of the four are canonical (`written_forms_canonical`).
-/

namespace Provisioning

namespace Json

namespace Decoder

variable {α : Type} {decoder : Decoder α} {write : α → Json}

/-- What is written of a value is read as that value. -/
def Recovers (decoder : Decoder α) (write : α → Json) : Prop :=
  ∀ value, decoder.decode (write value).canonical = .ok value

theorem recovers_string : string.Recovers Json.string := by
  intro value
  rfl

theorem recovers_int64 : int64.Recovers fun value => Json.int value.toInt := by
  intro value
  have inReach : -9223372036854775808 ≤ value.toInt ∧ value.toInt < 9223372036854775808 :=
    ⟨value.le_toInt, value.toInt_lt⟩
  have isRead : (integer "i64" (-9223372036854775808) 9223372036854775808).ofValue .document
      (Json.int value.toInt) = .ok value.toInt := if_pos inReach
  exact Field.update_eq_ok_iff.mpr ⟨value.toInt, isRead, value.ofInt_toInt⟩

theorem recovers_dictionary (recovers : decoder.Recovers write) :
    (dictionary decoder).Recovers (ofMap write) := by
  intro map
  have reads : ∀ (entries : List (String × α)) (start : StringMap α),
      (entries.map fun entry => (entry.1, (write entry.2).canonical)).foldlM
          (fun map member => (decoder.ofValue .document member.2).map (map.insert member.1)) start =
        .ok (entries.foldl (fun map entry => map.insert entry.1 entry.2) start) := by
    intro entries
    induction entries with
    | nil => exact fun _ => rfl
    | cons head tail inductionHypothesis =>
        intro start
        have isRead : decoder.ofValue .document (write head.2).canonical = .ok head.2 :=
          recovers head.2
        rw [List.map_cons, List.foldlM_cons, isRead]
        exact inductionHypothesis (start.insert head.1 head.2)
  rw [canonical_ofMap]
  exact (reads map.entries .empty).trans (congrArg Except.ok map.ofList_entries)

theorem recovers_list (recovers : decoder.Recovers write) :
    (list decoder).Recovers fun values => Json.array (values.map write) := by
  intro values
  show (canonicalItems (values.map write)).mapM (decoder.ofValue .document) = .ok values
  induction values with
  | nil => rfl
  | cons head tail inductionHypothesis =>
      have isRead : decoder.ofValue .document (write head).canonical = .ok head := recovers head
      rw [List.map_cons, canonicalItems, List.mapM_cons, isRead, inductionHypothesis]
      rfl

theorem option_decode_eq_ok {value : Json} {read : α} (filled : value ≠ .null)
    (isRead : decoder.decode value = .ok read) :
    (Decoder.option decoder).decode value = .ok (some read) := by
  have opened : decoder.ofValue .document value = .ok read := isRead
  show (Decoder.option decoder).ofValue .document value = _
  unfold Decoder.option
  cases value with
  | null => exact absurd rfl filled
  | _ =>
      dsimp only
      rw [opened]
      rfl

/-- What is not written as null is read as being there. -/
theorem Recovers.option (recovers : decoder.Recovers write)
    (filled : ∀ value, (write value).canonical ≠ .null) (value : α) :
    (Decoder.option decoder).decode (write value).canonical = .ok (some value) :=
  option_decode_eq_ok (filled value) (recovers value)

end Decoder

/-! ## Members that were written -/

section Members

variable {σ α β : Type} {value? : String → Option Json} {draft : σ} {name : String}
  {decoder : Decoder α} {set : σ → α → σ} {get : σ → Option α}

private theorem readField_present {written : Json} {read : α} (found : value? name = some written)
    (isRead : decoder.decode written = .ok read) :
    readField .document value? draft (.of name get set decoder) = .ok (set draft read) := by
  have underName : value? (Field.of name get set decoder).name = some written := found
  have updated : (Field.of name get set decoder).update.ofValue .document written =
      .ok fun record => set record read := Field.update_eq_ok_iff.mpr ⟨read, isRead, rfl⟩
  rw [readField, underName]
  simp only [updated]
  rfl

variable {write : β → Json} {held? : Option β} {wrap : β → α}

/-- A member that may be absent is read as it was written. -/
theorem readField_written (put : Option β → σ)
    (found : value? name = (held?.map write).map canonical)
    (isRead : ∀ held, decoder.decode (write held).canonical = .ok (wrap held))
    (sets : ∀ held, set draft (wrap held) = put (some held)) (same : put none = draft) :
    readField .document value? draft (.of name get set decoder) = .ok (put held?) := by
  cases held? with
  | some held => rw [readField_present found (isRead held), sets]
  | none =>
      have underName : value? (Field.of name get set decoder).name = none := found
      rw [readField, underName, same]

/-- A member that may come again is read as it was written. -/
theorem readField_lastOf_written (put : Option β → σ)
    (found : value? name = (held?.map write).map canonical)
    (isRead : ∀ held, decoder.decode (write held).canonical = .ok (wrap held))
    (sets : ∀ held, set draft (wrap held) = put (some held)) (same : put none = draft) :
    readField .document value? draft (.lastOf name set decoder) = .ok (put held?) := by
  have asOnce : readField .document value? draft (.lastOf name set decoder) =
      readField .document value? draft (.of name (fun _ => none) set decoder) := rfl
  rw [asOnce]
  exact readField_written put found isRead sets same

private theorem join_map_some (held? : Option α) : (held?.map some).join = held? := by
  cases held? <;> rfl

private theorem ofPresent_ne_null (members : List (String × Option Json)) :
    (ofPresent members).canonical ≠ .null :=
  nofun

/-- A map that is left out where it is empty can be told from what is written. -/
theorem exists_written_map (write : α → Json) (map : StringMap α) :
    ∃ map? : Option (StringMap α),
      (if map.isEmpty then none else some (ofMap write map)) = map?.map (ofMap write) ∧
        map?.getD .empty = map := by
  by_cases isEmpty : map.isEmpty = true
  · refine ⟨none, if_pos isEmpty, ?_⟩
    obtain ⟨entries, sorted⟩ := map
    have nothing : entries = [] := List.isEmpty_iff.mp isEmpty
    subst nothing
    rfl
  · exact ⟨some map, if_neg isEmpty, rfl⟩

/-- An orderly record is read from the members that were written of it, whatever else the object
could hold. -/
theorem Record.decode_ofPresent {record : Record σ α} (orderly : record.IsOrderly)
    {members : List (String × Option Json)} {result : α}
    (distinct : members.Pairwise fun earlier later => earlier.1 ≠ later.1) (final : σ)
    (reads : ∀ value? : String → Option Json,
      (∀ name held?, members.lookup name = some held? → value? name = held?.map canonical) →
        record.fields.foldlM (readField .document value?) record.start = .ok final)
    (finishes : record.finish .members final = .ok result) :
    (Decoder.record record).decode (ofPresent members).canonical = .ok result := by
  obtain ⟨map, isObject, holds⟩ := exists_canonical_ofPresent distinct
  rw [isObject]
  exact (Record.ofValue_object_eq_ok_iff orderly).mpr ⟨final, reads map.get? holds, finishes⟩

end Members

end Json

open Json

/-! ## The vocabulary -/

theorem CapabilityKind.recovers : decoder.Recovers fun kind => .string kind.label := by
  intro kind
  cases kind <;> rfl

theorem Implementation.recovers :
    decoder.Recovers fun implementation => .string implementation.label := by
  intro implementation
  cases implementation <;> rfl

theorem Scope.recovers : decoder.Recovers fun scope => .string scope.label := by
  intro scope
  cases scope <;> rfl

theorem Strategy.recovers : decoder.Recovers fun strategy => .string strategy.label := by
  intro strategy
  cases strategy <;> rfl

theorem Phase.recovers : decoder.Recovers fun phase => .string phase.label := by
  intro phase
  cases phase <;> rfl

@[simp]
theorem recovers_text (text : String) :
    (Decoder.option .string).decode (Json.string text).canonical = .ok (some text) :=
  Decoder.recovers_string.option nofun text

/-! ## References -/

namespace Reference

theorem apart_fields : fields.Pairwise Field.Apart := by
  simp [fields, Field.apart_of]

theorem unset_fields : ∀ field ∈ fields, field.isSet {} = false := by
  simp [fields, Field.of]

theorem recovers : decoder.Recovers toJson := by
  rintro ⟨home, name⟩
  refine Record.decode_ofPresent ⟨apart_fields, unset_fields, rfl⟩ (by simp)
    ⟨home.map some, name.map some⟩ ?_ ?_
  · intro value? holds
    refine foldlM_readField_cons (readField_written (fun held? => ⟨held?.map some, none⟩)
      (holds "namespace" _ rfl) recovers_text (fun _ => rfl) rfl) ?_
    refine foldlM_readField_cons (readField_written
      (fun held? => ⟨home.map some, held?.map some⟩)
      (holds "name" _ rfl) recovers_text (fun _ => rfl) rfl) ?_
    rfl
  · simp only [join_map_some]

theorem recovers_present (reference : Reference) :
    (Decoder.option decoder).decode reference.toJson.canonical = .ok (some reference) :=
  recovers.option (fun _ => ofPresent_ne_null _) reference

end Reference

/-! ## Requirements -/

namespace Requirement

theorem apart_fields : fields.Pairwise Field.Apart := by
  simp [fields, Field.apart_of]

theorem unset_fields : ∀ field ∈ fields, field.isSet {} = false := by
  simp [fields, Field.of]

theorem recovers : decoder.Recovers toJson := by
  rintro ⟨kind, implementation, scope, strategy, selector, specified, preferred⟩
  obtain ⟨selector?, isWritten, isSelector⟩ := exists_written_map Json.string selector
  refine Record.decode_ofPresent ⟨apart_fields, unset_fields, rfl⟩ (by simp)
    ⟨some kind, implementation.map some, scope.map some, strategy.map some, selector?,
      specified.map some, preferred.map some⟩ ?_ ?_
  · intro value? holds
    refine foldlM_readField_cons (readField_present
      (holds "capability" _ rfl) (CapabilityKind.recovers kind)) ?_
    refine foldlM_readField_cons (readField_written
      (fun held? => ⟨some kind, held?.map some, none, none, none, none, none⟩)
      (holds "implementation" _ rfl) (Implementation.recovers.option nofun)
      (fun _ => rfl) rfl) ?_
    refine foldlM_readField_cons (readField_written
      (fun held? => ⟨some kind, implementation.map some, held?.map some, none, none, none, none⟩)
      (holds "scope" _ rfl) (Scope.recovers.option nofun) (fun _ => rfl) rfl) ?_
    refine foldlM_readField_cons (readField_written
      (fun held? => ⟨some kind, implementation.map some, scope.map some, held?.map some, none,
        none, none⟩)
      (holds "provisioningStrategy" _ rfl) (Strategy.recovers.option nofun)
      (fun _ => rfl) rfl) ?_
    refine foldlM_readField_cons (readField_written
      (fun held? => ⟨some kind, implementation.map some, scope.map some, strategy.map some, held?,
        none, none⟩)
      (holds "selector" _ (congrArg some isWritten))
      (Decoder.recovers_dictionary Decoder.recovers_string) (fun _ => rfl) rfl) ?_
    refine foldlM_readField_cons (readField_written
      (fun held? => ⟨some kind, implementation.map some, scope.map some, strategy.map some,
        selector?, held?.map some, none⟩)
      (holds "specifiedCapability" _ rfl) Reference.recovers_present (fun _ => rfl) rfl) ?_
    refine foldlM_readField_cons (readField_written
      (fun held? => ⟨some kind, implementation.map some, scope.map some, strategy.map some,
        selector?, specified.map some, held?.map some⟩)
      (holds "preferredResourceReference" _ rfl) Reference.recovers_present (fun _ => rfl) rfl) ?_
    rfl
  · simp only [Draft.finish, required, join_map_some, isSelector]
    rfl

end Requirement

/-! ## Statuses -/

namespace ServerStatus

theorem apart_fields : fields.Pairwise Field.Apart := by
  simp [fields, Field.apart_of]

theorem unset_fields : ∀ field ∈ fields, field.isSet {} = false := by
  simp [fields, Field.of]

theorem recovers : decoder.Recovers toJson := by
  rintro ⟨service, ingress, secret⟩
  refine Record.decode_ofPresent ⟨apart_fields, unset_fields, rfl⟩ (by simp)
    ⟨service.map some, ingress.map some, secret.map some⟩ ?_ ?_
  · intro value? holds
    refine foldlM_readField_cons (readField_written
      (fun held? => ⟨held?.map some, none, none⟩)
      (holds "serviceName" _ rfl) recovers_text (fun _ => rfl) rfl) ?_
    refine foldlM_readField_cons (readField_written
      (fun held? => ⟨service.map some, held?.map some, none⟩)
      (holds "ingressName" _ rfl) recovers_text (fun _ => rfl) rfl) ?_
    refine foldlM_readField_cons (readField_written
      (fun held? => ⟨service.map some, ingress.map some, held?.map some⟩)
      (holds "adminSecretName" _ rfl) recovers_text (fun _ => rfl) rfl) ?_
    rfl
  · simp only [join_map_some]

end ServerStatus

theorem recovers_number (number : Int64) :
    (Decoder.option .int64).decode (Json.int number.toInt).canonical = .ok (some number) :=
  Decoder.recovers_int64.option nofun number

namespace CapabilityStatus

theorem apart_fields : fields.Pairwise Field.Apart := by
  simp [fields, Field.apart_of]

theorem unset_fields : ∀ field ∈ fields, field.isSet {} = false := by
  simp [fields, Field.of]

theorem recovers : decoder.Recovers toJson := by
  rintro ⟨phase, servers, message, generation⟩
  obtain ⟨servers?, isWritten, isServers⟩ := exists_written_map ServerStatus.toJson servers
  refine Record.decode_ofPresent ⟨apart_fields, unset_fields, rfl⟩ (by simp)
    ⟨some phase, servers?, message.map some, generation.map some⟩ ?_ ?_
  · intro value? holds
    refine foldlM_readField_cons (readField_present
      (holds "phase" _ rfl) (Phase.recovers phase)) ?_
    refine foldlM_readField_cons (readField_written
      (fun held? => ⟨some phase, held?, none, none⟩)
      (holds "serverStatus" _ (congrArg some isWritten))
      (Decoder.recovers_dictionary ServerStatus.recovers) (fun _ => rfl) rfl) ?_
    refine foldlM_readField_cons (readField_written
      (fun held? => ⟨some phase, servers?, held?.map some, none⟩)
      (holds "message" _ rfl) recovers_text (fun _ => rfl) rfl) ?_
    refine foldlM_readField_cons (readField_written
      (fun held? => ⟨some phase, servers?, message.map some, held?.map some⟩)
      (holds "observedGeneration" _ rfl) recovers_number (fun _ => rfl) rfl) ?_
    rfl
  · simp only [join_map_some, isServers]
    rfl

end CapabilityStatus

/-! ## Capabilities -/

namespace Metadata

theorem apart_fields : fields.Pairwise Field.Apart := by
  simp [fields, Field.apart_lastOf]

theorem unset_fields : ∀ field ∈ fields, field.isSet {} = false := by
  simp [fields, Field.lastOf]

theorem recovers_labels (labels : Labels) :
    (Decoder.option (.dictionary .string)).decode (Json.ofMap .string labels).canonical =
      .ok (some labels) :=
  (Decoder.recovers_dictionary Decoder.recovers_string).option nofun labels

theorem recovers_names (names : List String) :
    (Decoder.option (.list .string)).decode (Json.array (names.map .string)).canonical =
      .ok (some names) :=
  (Decoder.recovers_list Decoder.recovers_string).option nofun names

theorem recovers : decoder.Recovers toJson := by
  rintro ⟨name, beginning, home, labels, annotations, version, uid, generation, finalizers⟩
  refine Record.decode_ofPresent ⟨apart_fields, unset_fields, rfl⟩ (by simp)
    ⟨name, beginning, home, labels, annotations, version, uid, generation, finalizers⟩ ?_ rfl
  intro value? holds
  refine foldlM_readField_cons (readField_lastOf_written
    (fun held? => ⟨held?, none, none, none, none, none, none, none, none⟩)
    (holds "name" _ rfl) recovers_text (fun _ => rfl) rfl) ?_
  refine foldlM_readField_cons (readField_lastOf_written
    (fun held? => ⟨name, held?, none, none, none, none, none, none, none⟩)
    (holds "generateName" _ rfl) recovers_text (fun _ => rfl) rfl) ?_
  refine foldlM_readField_cons (readField_lastOf_written
    (fun held? => ⟨name, beginning, held?, none, none, none, none, none, none⟩)
    (holds "namespace" _ rfl) recovers_text (fun _ => rfl) rfl) ?_
  refine foldlM_readField_cons (readField_lastOf_written
    (fun held? => ⟨name, beginning, home, held?, none, none, none, none, none⟩)
    (holds "labels" _ rfl) recovers_labels (fun _ => rfl) rfl) ?_
  refine foldlM_readField_cons (readField_lastOf_written
    (fun held? => ⟨name, beginning, home, labels, held?, none, none, none, none⟩)
    (holds "annotations" _ rfl) recovers_labels (fun _ => rfl) rfl) ?_
  refine foldlM_readField_cons (readField_lastOf_written
    (fun held? => ⟨name, beginning, home, labels, annotations, held?, none, none, none⟩)
    (holds "resourceVersion" _ rfl) recovers_text (fun _ => rfl) rfl) ?_
  refine foldlM_readField_cons (readField_lastOf_written
    (fun held? => ⟨name, beginning, home, labels, annotations, version, held?, none, none⟩)
    (holds "uid" _ rfl) recovers_text (fun _ => rfl) rfl) ?_
  refine foldlM_readField_cons (readField_lastOf_written
    (fun held? => ⟨name, beginning, home, labels, annotations, version, uid, held?, none⟩)
    (holds "generation" _ rfl) recovers_number (fun _ => rfl) rfl) ?_
  refine foldlM_readField_cons (readField_lastOf_written
    (fun held? => ⟨name, beginning, home, labels, annotations, version, uid, generation, held?⟩)
    (holds "finalizers" _ rfl) recovers_names (fun _ => rfl) rfl) ?_
  rfl

end Metadata

namespace Capability

theorem apart_fields : fields.Pairwise Field.Apart := by
  simp [fields, Field.apart_of]

theorem unset_fields : ∀ field ∈ fields, field.isSet {} = false := by
  simp [fields, Field.of]

theorem recovers : decoder.Recovers toJson := by
  rintro ⟨metadata, spec, status⟩
  refine Record.decode_ofPresent ⟨apart_fields, unset_fields, rfl⟩ (by simp)
    ⟨some metadata, some spec, status.map some⟩ ?_ ?_
  · intro value? holds
    refine foldlM_readField_cons (readField_present
      (holds "metadata" _ rfl) (Metadata.recovers metadata)) ?_
    refine foldlM_readField_cons (readField_present
      (holds "spec" _ rfl) (Requirement.recovers spec)) ?_
    refine foldlM_readField_cons (readField_written
      (fun held? => ⟨some metadata, some spec, held?.map some⟩)
      (holds "status" _ rfl) (CapabilityStatus.recovers.option fun _ => ofPresent_ne_null _)
      (fun _ => rfl) rfl) ?_
    rfl
  · simp only [Draft.finish, required, join_map_some]
    rfl

end Capability

/-! ## The written form -/

/-- What is written of a value is its one form: it is read as that value, so different values are
written differently, and a document that is read at all stands for what is written of it, which is
read and written the same from then on. -/
structure Json.Decoder.Canonical {α : Type} (decoder : Decoder α) (write : α → Json) : Prop where
  recovered : ∀ value, decoder.decode (write value).canonical = .ok value
  told : ∀ value other, (write value).canonical = (write other).canonical ↔ value = other
  settled : ∀ (document : Json) value, decoder.decode document.canonical = .ok value →
    ∃ again, decoder.decode (write value).canonical = .ok again ∧ again = value ∧
      (write again).canonical = (write value).canonical

theorem Json.Decoder.Recovers.canonical {α : Type} {decoder : Decoder α} {write : α → Json}
    (recovers : decoder.Recovers write) : decoder.Canonical write where
  recovered := recovers
  told value other := by
    constructor
    · intro sameForm
      have isRead := recovers value
      rw [sameForm, recovers other] at isRead
      exact (Except.ok.inj isRead).symm
    · exact fun same => congrArg (fun value => (write value).canonical) same
  settled _ value _ := ⟨value, recovers value, rfl, rfl⟩

/-- References, requirements, statuses and capabilities have canonical written forms. -/
theorem written_forms_canonical :
    Reference.decoder.Canonical Reference.toJson ∧
      Requirement.decoder.Canonical Requirement.toJson ∧
      CapabilityStatus.decoder.Canonical CapabilityStatus.toJson ∧
      Capability.decoder.Canonical Capability.toJson :=
  ⟨Reference.recovers.canonical, Requirement.recovers.canonical,
    CapabilityStatus.recovers.canonical, Capability.recovers.canonical⟩

/-- A reference given as an array, without a namespace, is written as an object of its name. -/
example : (Reference.decoder.decode (Json.array [.null, .string "main-db"]).canonical).map
      (fun reference => reference.toJson.canonical) =
    .ok (.object [("name", .string "main-db")]) :=
  rfl

end Provisioning
