/-!
# Maps keyed by text

A finite map from text to values, kept as its entries in increasing order of the keys, compared by
code points.  The order is part of the type, so two maps with the same entries are equal.  Main
statements: what a lookup finds after an insertion (`get?_insert`), and that a map is determined by
its lookups (`ext_get?`).
-/

namespace Provisioning

/-- A finite map from text to values: entries in strictly increasing order of their keys. -/
structure StringMap (α : Type) where
  entries : List (String × α)
  sorted : entries.Pairwise (fun earlier later => earlier.1 < later.1) := by simp
  deriving DecidableEq, Repr

namespace StringMap

variable {α β : Type}

/-- The map without entries. -/
def empty : StringMap α := { entries := [] }

instance : EmptyCollection (StringMap α) := ⟨empty⟩

instance : Inhabited (StringMap α) := ⟨empty⟩

/-- An entry put among sorted entries, in place of one with the same key. -/
def insertEntry (key : String) (value : α) : List (String × α) → List (String × α)
  | [] => [(key, value)]
  | (other, held) :: rest =>
      if key < other then (key, value) :: (other, held) :: rest
      else if key = other then (key, value) :: rest
      else (other, held) :: insertEntry key value rest

private theorem mem_insertEntry {key : String} {value : α} {entry : String × α}
    {entries : List (String × α)} (member : entry ∈ insertEntry key value entries) :
    entry = (key, value) ∨ entry ∈ entries := by
  induction entries with
  | nil => simpa [insertEntry] using member
  | cons head tail inductionHypothesis =>
      simp only [insertEntry] at member
      split at member
      · simpa using member
      · split at member
        · rcases List.mem_cons.mp member with atHead | inTail
          · exact Or.inl atHead
          · exact Or.inr (List.mem_cons_of_mem head inTail)
        · rcases List.mem_cons.mp member with atHead | inTail
          · exact Or.inr (atHead ▸ List.mem_cons_self)
          · rcases inductionHypothesis inTail with inserted | kept
            · exact Or.inl inserted
            · exact Or.inr (List.mem_cons_of_mem head kept)

private theorem sorted_insertEntry (key : String) (value : α) {entries : List (String × α)}
    (sorted : entries.Pairwise (fun earlier later => earlier.1 < later.1)) :
    (insertEntry key value entries).Pairwise (fun earlier later => earlier.1 < later.1) := by
  induction entries with
  | nil => simp [insertEntry]
  | cons head tail inductionHypothesis =>
      obtain ⟨headBelow, tailSorted⟩ := List.pairwise_cons.mp sorted
      simp only [insertEntry]
      split
      · rename_i below
        refine List.pairwise_cons.mpr ⟨?_, sorted⟩
        intro entry member
        rcases List.mem_cons.mp member with atHead | inTail
        · exact atHead ▸ below
        · exact String.lt_trans below (headBelow entry inTail)
      · split
        · rename_i _ equal
          refine List.pairwise_cons.mpr ⟨?_, tailSorted⟩
          intro entry member
          exact equal ▸ headBelow entry member
        · rename_i notBelow notEqual
          refine List.pairwise_cons.mpr ⟨?_, inductionHypothesis tailSorted⟩
          intro entry member
          rcases mem_insertEntry member with inserted | kept
          · subst inserted
            show head.1 < key
            grind
          · exact headBelow entry kept

/-- The map with a value put under a key, in place of an earlier one. -/
def insert (map : StringMap α) (key : String) (value : α) : StringMap α where
  entries := insertEntry key value map.entries
  sorted := sorted_insertEntry key value map.sorted

def get? (map : StringMap α) (key : String) : Option α :=
  map.entries.lookup key

def isEmpty (map : StringMap α) : Bool :=
  map.entries.isEmpty

/-- The map of the entries of a list, the last of several with one key kept. -/
def ofList (entries : List (String × α)) : StringMap α :=
  entries.foldl (fun map entry => map.insert entry.1 entry.2) empty

/-- The map with the entries of a second one put over it. -/
def override (map other : StringMap α) : StringMap α :=
  other.entries.foldl (fun result entry => result.insert entry.1 entry.2) map

/-- The map with every value changed. -/
def map (change : α → β) (source : StringMap α) : StringMap β where
  entries := source.entries.map fun entry => (entry.1, change entry.2)
  sorted := by
    rw [List.pairwise_map]
    exact source.sorted

/-! ## Lookups -/

@[simp, grind =]
theorem get?_empty (key : String) : (empty : StringMap α).get? key = none := rfl

theorem lookup_cons_ite (wanted : String) (head : String × α)
    (tail : List (String × α)) :
    (head :: tail).lookup wanted = if wanted = head.1 then some head.2 else tail.lookup wanted := by
  obtain ⟨name, held⟩ := head
  rw [List.lookup_cons]
  by_cases equal : wanted = name
  · simp [equal]
  · rw [beq_eq_false_iff_ne.mpr equal, if_neg equal]

theorem lookup_eq_none_of_ne {wanted : String} {entries : List (String × α)}
    (apart : ∀ entry ∈ entries, wanted ≠ entry.1) : entries.lookup wanted = none :=
  List.lookup_eq_none_iff.mpr fun entry member => bne_iff_ne.mpr (apart entry member)

private theorem lookup_insertEntry (key wanted : String) (value : α) (entries : List (String × α)) :
    (insertEntry key value entries).lookup wanted =
      if wanted = key then some value else entries.lookup wanted := by
  induction entries with
  | nil => simp [insertEntry, lookup_cons_ite]
  | cons head tail inductionHypothesis =>
      simp only [insertEntry]
      split
      · rw [lookup_cons_ite]
      · split
        · rename_i _ same
          subst same
          simp only [lookup_cons_ite]
          split <;> simp_all
        · rename_i _ notEqual
          simp only [lookup_cons_ite, inductionHypothesis]
          by_cases equal : wanted = key
          · have different : wanted ≠ head.1 := fun same => notEqual (equal ▸ same)
            simp [equal, notEqual]
          · simp [equal]

/-- After an insertion the key has the new value and every other key what it had. -/
@[simp, grind =]
theorem get?_insert (map : StringMap α) (key wanted : String) (value : α) :
    (map.insert key value).get? wanted = if wanted = key then some value else map.get? wanted :=
  lookup_insertEntry key wanted value map.entries

/-- The value under a key is that of the one entry with the key. -/
theorem get?_eq_some_iff {map : StringMap α} {key : String} {value : α} :
    map.get? key = some value ↔ (key, value) ∈ map.entries := by
  obtain ⟨entries, sorted⟩ := map
  simp only [get?]
  induction entries with
  | nil => simp
  | cons head tail inductionHypothesis =>
      obtain ⟨headBelow, tailSorted⟩ := List.pairwise_cons.mp sorted
      obtain ⟨name, held⟩ := head
      rw [lookup_cons_ite]
      by_cases equal : key = name
      · subst equal
        have absent : (key, value) ∉ tail := by
          intro member
          exact String.lt_irrefl key (headBelow _ member)
        simp [absent, eq_comm]
      · simp [equal, inductionHypothesis tailSorted]

theorem ext_get? {left right : StringMap α} (same : ∀ key, left.get? key = right.get? key) :
    left = right := by
  have members : ∀ entry : String × α, entry ∈ left.entries ↔ entry ∈ right.entries := by
    intro entry
    rw [← @get?_eq_some_iff α left, ← @get?_eq_some_iff α right, same]
  have equal : left.entries = right.entries := by
    have leftSorted := left.sorted
    have rightSorted := right.sorted
    revert members leftSorted rightSorted
    generalize left.entries = leftEntries
    generalize right.entries = rightEntries
    intro members leftSorted rightSorted
    induction leftEntries generalizing rightEntries with
    | nil =>
        cases rightEntries with
        | nil => rfl
        | cons head tail => exact absurd ((members head).mpr List.mem_cons_self) (by simp)
    | cons head tail inductionHypothesis =>
        cases rightEntries with
        | nil => exact absurd ((members head).mp List.mem_cons_self) (by simp)
        | cons otherHead otherTail =>
            obtain ⟨headBelow, tailSorted⟩ := List.pairwise_cons.mp leftSorted
            obtain ⟨otherBelow, otherSorted⟩ := List.pairwise_cons.mp rightSorted
            have headEqual : head = otherHead := by
              rcases List.mem_cons.mp ((members head).mp List.mem_cons_self) with atHead | inTail
              · exact atHead
              · rcases List.mem_cons.mp ((members otherHead).mpr List.mem_cons_self) with
                  otherAtHead | otherInTail
                · exact otherAtHead.symm
                · exact absurd (otherBelow head inTail)
                    (fun below => String.lt_irrefl _
                      (String.lt_trans below (headBelow otherHead otherInTail)))
            subst headEqual
            congr 1
            refine inductionHypothesis otherTail ?_ tailSorted otherSorted
            intro entry
            constructor
            · intro member
              rcases List.mem_cons.mp ((members entry).mp (List.mem_cons_of_mem head member)) with
                atHead | inTail
              · exact absurd (headBelow entry member) (atHead ▸ String.lt_irrefl _)
              · exact inTail
            · intro member
              rcases List.mem_cons.mp ((members entry).mpr (List.mem_cons_of_mem head member)) with
                atHead | inTail
              · exact absurd (otherBelow entry member) (atHead ▸ String.lt_irrefl _)
              · exact inTail
  cases left
  cases right
  simpa using equal

/-! ## Lists of entries -/

theorem distinct_entries (map : StringMap α) :
    map.entries.Pairwise fun earlier later => earlier.1 ≠ later.1 := by
  refine map.sorted.imp ?_
  intro earlier later below same
  rw [same] at below
  exact String.lt_irrefl _ below

/-- Of entries with different keys, put over a map one after the other, every one can be found. -/
theorem get?_foldl_insert {entries : List (String × α)}
    (distinct : entries.Pairwise fun earlier later => earlier.1 ≠ later.1) (map : StringMap α)
    (key : String) :
    (entries.foldl (fun map entry => map.insert entry.1 entry.2) map).get? key =
      (entries.lookup key).or (map.get? key) := by
  induction entries generalizing map with
  | nil => rfl
  | cons head tail inductionHypothesis =>
      obtain ⟨headApart, tailApart⟩ := List.pairwise_cons.mp distinct
      rw [List.foldl_cons, inductionHypothesis tailApart, get?_insert, lookup_cons_ite]
      by_cases same : key = head.1
      · have notLater : tail.lookup key = none := by
          rw [same]
          exact lookup_eq_none_of_ne headApart
        rw [notLater, if_pos same, if_pos same]
        rfl
      · rw [if_neg same, if_neg same]

/-- Under every key there is what the second map has, and else what was there before. -/
@[simp]
theorem get?_override (map other : StringMap α) (key : String) :
    (map.override other).get? key = (other.get? key).or (map.get? key) :=
  get?_foldl_insert other.distinct_entries map key

private theorem mem_of_mem_foldl_insert {entries : List (String × α)} {map : StringMap α}
    {entry : String × α}
    (member : entry ∈ (entries.foldl (fun map entry => map.insert entry.1 entry.2) map).entries) :
    entry ∈ entries ∨ entry ∈ map.entries := by
  induction entries generalizing map with
  | nil => exact .inr member
  | cons head tail inductionHypothesis =>
      rcases inductionHypothesis member with inTail | inserted
      · exact .inl (List.mem_cons_of_mem head inTail)
      · rcases mem_insertEntry inserted with isHead | inMap
        · exact .inl (isHead ▸ List.mem_cons_self)
        · exact .inr inMap

/-- A map made of a list has no entries but those of the list. -/
theorem mem_of_mem_ofList {entries : List (String × α)} {entry : String × α}
    (member : entry ∈ (ofList entries).entries) : entry ∈ entries :=
  (mem_of_mem_foldl_insert member).resolve_right List.not_mem_nil

theorem get?_ofList {entries : List (String × α)}
    (distinct : entries.Pairwise fun earlier later => earlier.1 ≠ later.1) (key : String) :
    (ofList entries).get? key = entries.lookup key := by
  rw [ofList, get?_foldl_insert distinct, get?_empty, Option.or_none]

@[simp]
theorem ofList_entries (map : StringMap α) : ofList map.entries = map :=
  ext_get? fun key => get?_ofList map.distinct_entries key

end StringMap

end Provisioning
