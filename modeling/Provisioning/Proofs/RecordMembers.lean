import Mathlib.Data.List.Pairwise
import Provisioning.Json.Record

/-!
# Reading the members of a record

The members of an object in canonical form are a map.  A record whose members are set apart from each
other is read from such an object as if its members came in the order of the record, each from what
the map holds under its name: the order in the object does not matter, other names do not, and nothing
is refused as a repetition (`Record.ofValue_object_eq_ok_iff`).
-/

namespace Provisioning.Json

/-! ## Canonical objects -/

/-- The members of an object in canonical form. -/
def memberMap (members : List (String × Json)) : StringMap Json :=
  .ofList (members.map fun member => (member.1, member.2.canonical))

private theorem canonicalMembers_entries (members : List (String × Json)) (map : StringMap Json) :
    canonicalMembers members map.entries =
      ((members.map fun member => (member.1, member.2.canonical)).foldl
        (fun map entry => map.insert entry.1 entry.2) map).entries := by
  induction members generalizing map with
  | nil => rfl
  | cons head tail inductionHypothesis =>
      rw [List.map_cons, List.foldl_cons]
      exact inductionHypothesis (map.insert head.1 head.2.canonical)

@[simp]
theorem canonical_object (members : List (String × Json)) :
    (object members).canonical = object (memberMap members).entries :=
  congrArg object (canonicalMembers_entries members .empty)

@[simp]
theorem get?_memberMap {members : List (String × Json)}
    (distinct : members.Pairwise fun earlier later => earlier.1 ≠ later.1) (name : String) :
    (memberMap members).get? name = (members.lookup name).map canonical := by
  have mapped : (members.map fun member => (member.1, member.2.canonical)).Pairwise
      fun earlier later => earlier.1 ≠ later.1 := List.pairwise_map.mpr distinct
  rw [memberMap, StringMap.get?_ofList mapped]
  clear mapped distinct
  induction members with
  | nil => rfl
  | cons head tail inductionHypothesis =>
      rw [List.map_cons, StringMap.lookup_cons_ite, StringMap.lookup_cons_ite, inductionHypothesis]
      split <;> rfl

/-- The members that have a value. -/
def present (members : List (String × Option Json)) : List (String × Json) :=
  members.filterMap fun member => member.2.map fun value => (member.1, value)

@[simp]
theorem ofPresent_eq_object (members : List (String × Option Json)) :
    ofPresent members = object (present members) :=
  rfl

theorem distinct_present {members : List (String × Option Json)}
    (distinct : members.Pairwise fun earlier later => earlier.1 ≠ later.1) :
    (present members).Pairwise fun earlier later => earlier.1 ≠ later.1 := by
  refine List.Pairwise.filterMap _ ?_ distinct
  intro earlier later different entry isEarlier other isLater
  obtain ⟨_, _, rfl⟩ := Option.map_eq_some_iff.mp isEarlier
  obtain ⟨_, _, rfl⟩ := Option.map_eq_some_iff.mp isLater
  exact different

theorem lookup_present {members : List (String × Option Json)}
    (distinct : members.Pairwise fun earlier later => earlier.1 ≠ later.1) (name : String) :
    (present members).lookup name = (members.lookup name).join := by
  induction members with
  | nil => rfl
  | cons head tail inductionHypothesis =>
      obtain ⟨headApart, tailApart⟩ := List.pairwise_cons.mp distinct
      obtain ⟨first, value?⟩ := head
      rw [StringMap.lookup_cons_ite, present, List.filterMap_cons]
      cases value? with
      | some value =>
          dsimp only [Option.map_some]
          rw [StringMap.lookup_cons_ite, ← present, inductionHypothesis tailApart]
          split <;> rfl
      | none =>
          dsimp only [Option.map_none]
          rw [← present, inductionHypothesis tailApart]
          split
          · rename_i same
            have notLater : tail.lookup name = none := by
              rw [same]
              exact StringMap.lookup_eq_none_of_ne headApart
            rw [notLater]
            rfl
          · rfl

/-- In canonical form, an object of the members that have a value is a map of those. -/
theorem exists_canonical_ofPresent {members : List (String × Option Json)}
    (distinct : members.Pairwise fun earlier later => earlier.1 ≠ later.1) :
    ∃ map : StringMap Json, (ofPresent members).canonical = object map.entries ∧
      ∀ name value?, members.lookup name = some value? → map.get? name = value?.map canonical := by
  rw [ofPresent_eq_object]
  refine ⟨_, canonical_object _, fun name value? isListed => ?_⟩
  rw [get?_memberMap (distinct_present distinct), lookup_present distinct, isListed]
  rfl

/-- In canonical form, a written map holds the canonical forms of what was written. -/
@[simp]
theorem canonical_ofMap {α : Type} (write : α → Json) (map : StringMap α) :
    (ofMap write map).canonical =
      object (map.map fun value => (write value).canonical).entries := by
  rw [ofMap, canonical_object, memberMap, List.map_map]
  exact congrArg (fun map : StringMap Json => object map.entries)
    (StringMap.ofList_entries (map.map fun value => (write value).canonical))

/-! ## Members apart -/

namespace Field

variable {σ α β : Type}

/-- A change of a record that comes from reading a member. -/
def Yields (field : Field σ) (update : σ → σ) : Prop :=
  ∃ origin value, field.update.ofValue origin value = .ok update

/-- Two members of a record do not get into each other's way: they have different names, can be set in
either order, and setting one does not count as setting the other. -/
structure Apart (first second : Field σ) : Prop where
  names : first.name ≠ second.name
  commute : ∀ update other, first.Yields update → second.Yields other →
    ∀ draft, update (other draft) = other (update draft)
  spares : ∀ update, first.Yields update →
    ∀ draft, second.isSet (update draft) = second.isSet draft
  spared : ∀ other, second.Yields other → ∀ draft, first.isSet (other draft) = first.isSet draft

theorem Apart.symm {first second : Field σ} (apart : first.Apart second) : second.Apart first where
  names := apart.names.symm
  commute update other yields otherYields draft :=
    (apart.commute other update otherYields yields draft).symm
  spares := apart.spared
  spared := apart.spares

theorem update_eq_ok_iff {decoder : Decoder α} {transform : α → β} {origin : Origin} {value : Json}
    {result : β} :
    (decoder.map transform).ofValue origin value = .ok result ↔
      ∃ read, decoder.ofValue origin value = .ok read ∧ transform read = result := by
  show (decoder.ofValue origin value).map transform = .ok result ↔ _
  cases decoder.ofValue origin value with
  | ok read => simp [Except.map]
  | error error => simp [Except.map]

theorem yields_of {name : String} {get : σ → Option α} {set : σ → α → σ} {decoder : Decoder α}
    {update : σ → σ} (yields : (Field.of name get set decoder).Yields update) :
    ∃ read, ∀ draft, update draft = set draft read := by
  obtain ⟨origin, value, isRead⟩ := yields
  obtain ⟨read, _, rfl⟩ := update_eq_ok_iff.mp isRead
  exact ⟨read, fun _ => rfl⟩

theorem yields_lastOf {name : String} {set : σ → α → σ} {decoder : Decoder α}
    {update : σ → σ} (yields : (Field.lastOf name set decoder).Yields update) :
    ∃ read, ∀ draft, update draft = set draft read := by
  obtain ⟨origin, value, isRead⟩ := yields
  obtain ⟨read, _, rfl⟩ := update_eq_ok_iff.mp isRead
  exact ⟨read, fun _ => rfl⟩

theorem apart_of {name otherName : String} {get : σ → Option α} {otherGet : σ → Option β}
    {set : σ → α → σ} {otherSet : σ → β → σ} {decoder : Decoder α} {otherDecoder : Decoder β}
    (names : name ≠ otherName)
    (commute : ∀ draft read other, set (otherSet draft other) read = otherSet (set draft read) other)
    (spares : ∀ draft read, otherGet (set draft read) = otherGet draft)
    (spared : ∀ draft other, get (otherSet draft other) = get draft) :
    (Field.of name get set decoder).Apart (Field.of otherName otherGet otherSet otherDecoder) where
  names := names
  commute update other yields otherYields draft := by
    obtain ⟨read, isUpdate⟩ := yields_of yields
    obtain ⟨otherRead, isOther⟩ := yields_of otherYields
    rw [isUpdate, isOther, isOther, isUpdate, commute]
  spares update yields draft := by
    obtain ⟨read, isUpdate⟩ := yields_of yields
    rw [isUpdate]
    exact congrArg Option.isSome (spares draft read)
  spared other yields draft := by
    obtain ⟨read, isOther⟩ := yields_of yields
    rw [isOther]
    exact congrArg Option.isSome (spared draft read)

theorem apart_lastOf {name otherName : String} {set : σ → α → σ} {otherSet : σ → β → σ}
    {decoder : Decoder α} {otherDecoder : Decoder β} (names : name ≠ otherName)
    (commute : ∀ draft read other,
      set (otherSet draft other) read = otherSet (set draft read) other) :
    (Field.lastOf name set decoder).Apart (Field.lastOf otherName otherSet otherDecoder) where
  names := names
  commute update other yields otherYields draft := by
    obtain ⟨read, isUpdate⟩ := yields_lastOf yields
    obtain ⟨otherRead, isOther⟩ := yields_lastOf otherYields
    rw [isUpdate, isOther, isOther, isUpdate, commute]
  spares _ _ _ := rfl
  spared _ _ _ := rfl

end Field

/-! ## Reading in the order of the record -/

section Reading

variable {σ α β : Type} {origin : Origin} {fields : List (Field σ)} {start draft : σ}

/-- Reads a member into a record from what there is under its name. -/
def readField (origin : Origin) (value? : String → Option Json) (draft : σ) (field : Field σ) :
    Except DecodeError σ :=
  match value? field.name with
  | some value => (field.update.ofValue origin value).map fun update => update draft
  | none => .ok draft

theorem readField_congr {value? other? : String → Option Json} {field : Field σ}
    (same : value? field.name = other? field.name) (draft : σ) :
    readField origin value? draft field = readField origin other? draft field := by
  rw [readField, readField, same]

private theorem foldlM_readField_of_nothing {value? : String → Option Json}
    (nothing : ∀ name, value? name = none) (start : σ) :
    fields.foldlM (readField origin value?) start = .ok start := by
  induction fields with
  | nil => rfl
  | cons head tail inductionHypothesis =>
      have passesOver : readField origin value? start head = .ok start := by
        rw [readField, nothing]
      rw [List.foldlM_cons, passesOver]
      exact inductionHypothesis

private theorem foldlM_readField_congr {value? other? : String → Option Json}
    (same : ∀ name ∈ fields.map (·.name), value? name = other? name) (start : σ) :
    fields.foldlM (readField origin value?) start =
      fields.foldlM (readField origin other?) start := by
  induction fields generalizing start with
  | nil => rfl
  | cons head tail inductionHypothesis =>
      have sameHead := same head.name List.mem_cons_self
      have sameTail : ∀ name ∈ tail.map (·.name), value? name = other? name :=
        fun name member => same name (List.mem_cons_of_mem head.name member)
      rw [List.foldlM_cons, List.foldlM_cons, readField_congr sameHead]
      exact bind_congr fun next => inductionHypothesis sameTail next

/-- What a member sets can be set before the members that are apart from it are read. -/
theorem foldlM_readField_update {value? : String → Option Json} {field : Field σ} {update : σ → σ}
    (yields : field.Yields update) (apart : ∀ other ∈ fields, other.Apart field) (start : σ) :
    fields.foldlM (readField origin value?) (update start) =
      (fields.foldlM (readField origin value?) start).map update := by
  induction fields generalizing start with
  | nil => rfl
  | cons head tail inductionHypothesis =>
      have headApart := apart head List.mem_cons_self
      have tailApart : ∀ other ∈ tail, other.Apart field :=
        fun other member => apart other (List.mem_cons_of_mem head member)
      have headFirst : readField origin value? (update start) head =
          (readField origin value? start head).map update := by
        unfold readField
        cases value? head.name with
        | none => rfl
        | some value =>
            dsimp only
            cases isRead : head.update.ofValue origin value with
            | error error => rfl
            | ok set =>
                have yieldsSet : head.Yields set := ⟨origin, value, isRead⟩
                exact congrArg Except.ok (headApart.commute set update yieldsSet yields start)
      rw [List.foldlM_cons, List.foldlM_cons, headFirst]
      cases readField origin value? start head with
      | error error => rfl
      | ok next => exact inductionHypothesis tailApart next

theorem foldlM_readField_cons {value? : String → Option Json} {field : Field σ} {next : σ}
    (first : readField origin value? start field = .ok next)
    (rest : fields.foldlM (readField origin value?) next = .ok draft) :
    (field :: fields).foldlM (readField origin value?) start = .ok draft := by
  rw [List.foldlM_cons, first]
  exact rest

/-- A member can be read before all others. -/
theorem foldlM_readField_iff {value? rest? : String → Option Json} {field : Field σ} {value : Json}
    (apart : fields.Pairwise Field.Apart) (member : field ∈ fields)
    (held : value? field.name = some value) (notLater : rest? field.name = none)
    (others : ∀ name, name ≠ field.name → rest? name = value? name) :
    fields.foldlM (readField origin value?) start = .ok draft ↔
      ∃ update, field.update.ofValue origin value = .ok update ∧
        fields.foldlM (readField origin rest?) (update start) = .ok draft := by
  obtain ⟨before, after, rfl⟩ := List.append_of_mem member
  obtain ⟨_, restApart, across⟩ := List.pairwise_append.mp apart
  have afterApart := (List.pairwise_cons.mp restApart).1
  have beforeApart : ∀ other ∈ before, other.Apart field :=
    fun other isBefore => across other isBefore field List.mem_cons_self
  have sameBefore : ∀ name ∈ before.map (·.name), value? name = rest? name := by
    intro name isName
    obtain ⟨other, isBefore, rfl⟩ := List.mem_map.mp isName
    exact (others other.name (beforeApart other isBefore).names).symm
  have sameAfter : ∀ name ∈ after.map (·.name), value? name = rest? name := by
    intro name isName
    obtain ⟨other, isAfter, rfl⟩ := List.mem_map.mp isName
    exact (others other.name (afterApart other isAfter).names.symm).symm
  have passesOver : ∀ next, readField origin rest? next field = .ok next := by
    intro next
    rw [readField, notLater]
  have reads : ∀ next, readField origin value? next field =
      (field.update.ofValue origin value).map fun update => update next := by
    intro next
    rw [readField, held]
  simp only [List.foldlM_append, List.foldlM_cons, foldlM_readField_congr sameBefore,
    foldlM_readField_congr sameAfter, reads, passesOver]
  cases isRead : field.update.ofValue origin value with
  | error error =>
      cases before.foldlM (readField origin rest?) start <;> simp [bind, Except.bind, Except.map]
  | ok update =>
      have yields : field.Yields update := ⟨origin, value, isRead⟩
      simp only [Except.ok.injEq, exists_eq_left', foldlM_readField_update yields beforeApart]
      cases before.foldlM (readField origin rest?) start with
      | error error => rfl
      | ok next => rfl

variable {record : Record σ α}

/-- The members of a record do not get into each other's way, none counts as set from the start, and
what has another name is passed over. -/
structure Record.IsOrderly (record : Record σ α) : Prop where
  apart : record.fields.Pairwise Field.Apart
  unset : ∀ field ∈ record.fields, field.isSet record.start = false
  plain : record.others = none

theorem Record.field?_eq_some {name : String} {field : Field σ}
    (found : record.field? name = some field) : field ∈ record.fields ∧ field.name = name := by
  have isNamed := List.find?_some found
  exact ⟨List.mem_of_find?_eq_some found, by simpa using isNamed⟩

theorem Record.names_ne_of_field?_eq_none {name : String} (notFound : record.field? name = none) :
    ∀ field ∈ record.fields, field.name ≠ name := by
  simpa [Record.field?] using notFound

private theorem apart_of_name_ne (apart : fields.Pairwise Field.Apart) {field other : Field σ}
    (isField : field ∈ fields) (isOther : other ∈ fields) (different : field.name ≠ other.name) :
    field.Apart other := by
  have symmetric : Std.Symm (Field.Apart : Field σ → Field σ → Prop) := ⟨fun _ _ => Field.Apart.symm⟩
  exact apart.forall isField isOther fun same => different (congrArg Field.name same)

theorem Record.readMember_of_field?_eq_none (plain : record.others = none) {name : String}
    (notFound : record.field? name = none) (value : Json) :
    record.readMember origin start (name, value) = .ok start := by
  rw [Record.readMember]
  simp only [notFound, plain]

theorem Record.readMember_of_field?_eq_some {name : String} {field : Field σ}
    (found : record.field? name = some field) (notSet : field.isSet start = false) (value : Json) :
    record.readMember origin start (name, value) =
      (field.update.ofValue origin value).map fun update => update start := by
  rw [Record.readMember]
  simp only [found, notSet]
  cases field.update.ofValue origin value <;> rfl

/-- Setting a member leaves those unset that an object still holds under other names. -/
theorem isSet_update_eq_false (apart : fields.Pairwise Field.Apart) {field : Field σ}
    {update : σ → σ} (isField : field ∈ fields) (yields : field.Yields update)
    {members : List (String × Json)} (different : ∀ member ∈ members, field.name ≠ member.1)
    (unset : ∀ other ∈ fields, ∀ member ∈ members, other.name = member.1 →
      other.isSet start = false) :
    ∀ other ∈ fields, ∀ member ∈ members, other.name = member.1 →
      other.isSet (update start) = false := by
  intro other isOther member isMember sameName
  have namesDiffer : field.name ≠ other.name := fun same =>
    different member isMember (same.trans sameName)
  rw [(apart_of_name_ne apart isField isOther namesDiffer).spares update yields]
  exact unset other isOther member isMember sameName

/-- Reading the members of an object in their order is reading the record in its own. -/
theorem foldlM_readMember_iff (apart : record.fields.Pairwise Field.Apart)
    (plain : record.others = none) {members : List (String × Json)}
    (distinct : members.Pairwise fun earlier later => earlier.1 ≠ later.1)
    (unset : ∀ field ∈ record.fields, ∀ member ∈ members, field.name = member.1 →
      field.isSet start = false) :
    members.foldlM (record.readMember origin) start = .ok draft ↔
      record.fields.foldlM (readField origin fun name => members.lookup name) start =
        .ok draft := by
  -- By induction on the object: its first member is read before all others on both sides, and what is
  -- left is the same question about a record that has that member.
  induction members generalizing start with
  | nil =>
      have readsNothing : record.fields.foldlM
          (readField origin fun name => ([] : List (String × Json)).lookup name) start = .ok start :=
        foldlM_readField_of_nothing (fun _ => rfl) start
      rw [readsNothing]
      rfl
  | cons first rest inductionHypothesis =>
      obtain ⟨firstApart, restApart⟩ := List.pairwise_cons.mp distinct
      obtain ⟨name, value⟩ := first
      have unsetRest : ∀ field ∈ record.fields, ∀ member ∈ rest, field.name = member.1 →
          field.isSet start = false :=
        fun field isField member isLater => unset field isField member (List.mem_cons_of_mem _ isLater)
      have others : ∀ other, other ≠ name → rest.lookup other = ((name, value) :: rest).lookup other := by
        intro other different
        rw [StringMap.lookup_cons_ite, if_neg different]
      rw [List.foldlM_cons]
      cases found : record.field? name with
      | none =>
          have same : ∀ other ∈ record.fields.map (·.name),
              rest.lookup other = ((name, value) :: rest).lookup other := by
            intro other isOther
            obtain ⟨field, isField, rfl⟩ := List.mem_map.mp isOther
            exact others field.name (Record.names_ne_of_field?_eq_none found field isField)
          rw [Record.readMember_of_field?_eq_none plain found, ← foldlM_readField_congr same]
          exact inductionHypothesis restApart unsetRest
      | some field =>
          obtain ⟨isField, rfl⟩ := Record.field?_eq_some found
          have notSet := unset field isField _ List.mem_cons_self rfl
          have held : ((field.name, value) :: rest).lookup field.name = some value :=
            List.lookup_cons_self
          have notLater : rest.lookup field.name = none :=
            StringMap.lookup_eq_none_of_ne firstApart
          rw [foldlM_readField_iff apart isField held notLater others,
            Record.readMember_of_field?_eq_some found notSet]
          cases isRead : field.update.ofValue origin value with
          | error error => simp [bind, Except.bind, Except.map]
          | ok update =>
              have yields : field.Yields update := ⟨origin, value, isRead⟩
              simp only [Except.ok.injEq, exists_eq_left']
              exact inductionHypothesis restApart
                (isSet_update_eq_false apart isField yields firstApart unsetRest)

/-- An orderly record is read from an object by reading its members in the order of the record, each
from what the object holds under its name. -/
theorem Record.ofValue_object_eq_ok_iff (orderly : record.IsOrderly) {map : StringMap Json}
    {value : α} :
    record.ofValue origin (.object map.entries) = .ok value ↔
      ∃ draft, record.fields.foldlM (readField origin map.get?) record.start = .ok draft ∧
        record.finish .members draft = .ok value := by
  have reads : ∀ draft, map.entries.foldlM (record.readMember origin) record.start = .ok draft ↔
      record.fields.foldlM (readField origin map.get?) record.start = .ok draft := fun draft =>
    foldlM_readMember_iff orderly.apart orderly.plain map.distinct_entries
      fun field isField _ _ _ => orderly.unset field isField
  have opened : record.ofValue origin (.object map.entries) =
      (map.entries.foldlM (record.readMember origin) record.start >>= record.finish .members) := by
    unfold Record.ofValue
    cases record.arrays <;> rfl
  rw [opened]
  simp only [← reads]
  cases map.entries.foldlM (record.readMember origin) record.start with
  | error error => simp [bind, Except.bind]
  | ok draft => simp [bind, Except.bind]

end Reading

end Provisioning.Json
