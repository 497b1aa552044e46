import Provisioning.Cluster.ObjectKey
import Provisioning.Failure

/-!
# The objects of a cluster

A store keeps at most one object under a key, in the order of the keys, and refuses to create a
second one.  Main statements: what is found after an object was put into the store (`find?_put`) or
removed (`find?_remove`).
-/

namespace Provisioning

open ClusterObject

/-- The objects of one kind in a cluster, in increasing order of their keys. -/
structure Store (α : Type) [ClusterObject α] where
  objects : List α
  sorted : objects.Pairwise (fun earlier later => key earlier < key later) := by simp

namespace Store

variable {α : Type} [ClusterObject α]

/-- The store without objects. -/
def empty : Store α := { objects := [] }

instance : Inhabited (Store α) := ⟨empty⟩

/-- An object put among sorted objects, in place of one with the same key. -/
def insertObject (object : α) : List α → List α
  | [] => [object]
  | other :: rest =>
      if key object < key other then object :: other :: rest
      else if key object = key other then object :: rest
      else other :: insertObject object rest

private theorem mem_insertObject {object other : α} {objects : List α}
    (member : other ∈ insertObject object objects) : other = object ∨ other ∈ objects := by
  induction objects with
  | nil => simpa [insertObject] using member
  | cons head tail inductionHypothesis =>
      simp only [insertObject] at member
      split at member
      · simpa using member
      · split at member
        · rcases List.mem_cons.mp member with atHead | inTail
          · exact Or.inl atHead
          · exact Or.inr (List.mem_cons_of_mem head inTail)
        · rcases List.mem_cons.mp member with atHead | inTail
          · exact Or.inr (atHead ▸ List.mem_cons_self)
          · rcases inductionHypothesis inTail with inserted | kept
            · exact Or.inl inserted
            · exact Or.inr (List.mem_cons_of_mem head kept)

private theorem sorted_insertObject (object : α) {objects : List α}
    (sorted : objects.Pairwise (fun earlier later => key earlier < key later)) :
    (insertObject object objects).Pairwise (fun earlier later => key earlier < key later) := by
  induction objects with
  | nil => simp [insertObject]
  | cons head tail inductionHypothesis =>
      obtain ⟨headBelow, tailSorted⟩ := List.pairwise_cons.mp sorted
      simp only [insertObject]
      split
      · rename_i below
        refine List.pairwise_cons.mpr ⟨?_, sorted⟩
        intro other member
        rcases List.mem_cons.mp member with atHead | inTail
        · exact atHead ▸ below
        · exact ObjectKey.lt_trans below (headBelow other inTail)
      · split
        · rename_i _ equal
          refine List.pairwise_cons.mpr ⟨?_, tailSorted⟩
          intro other member
          rw [equal]
          exact headBelow other member
        · rename_i notBelow notEqual
          refine List.pairwise_cons.mpr ⟨?_, inductionHypothesis tailSorted⟩
          intro other member
          rcases mem_insertObject member with inserted | kept
          · subst inserted
            rcases ObjectKey.lt_or_eq_or_lt (key other) (key head) with below | same | above
            · exact absurd below notBelow
            · exact absurd same notEqual
            · exact above
          · exact headBelow other kept

/-- The store with an object put into it, in place of one with the same key. -/
def put (store : Store α) (object : α) : Store α where
  objects := insertObject object store.objects
  sorted := sorted_insertObject object store.sorted

/-- The store without the object under a key. -/
def remove (store : Store α) (wanted : ObjectKey) : Store α where
  objects := store.objects.filter (key · ≠ wanted)
  sorted := store.sorted.filter _

/-- The store of some objects, the last of several with one key kept. -/
def ofList (objects : List α) : Store α :=
  objects.foldl put empty

def find? (store : Store α) (wanted : ObjectKey) : Option α :=
  store.objects.find? (key · = wanted)

/-- The objects that carry the labels, in the order of their keys. -/
def everywhere (store : Store α) (wanted : Labels) : List α :=
  store.objects.filter fun object => (labels object).carries wanted

/-- The objects of a namespace that carry the labels, in the order of their keys. -/
def inNamespace (store : Store α) (namespaceName : String) (wanted : Labels) : List α :=
  store.objects.filter fun object =>
    (key object).namespaceName == namespaceName && (labels object).carries wanted

/-- What the server answers when a name is taken. -/
def takenResponse (name : String) : ErrorResponse where
  status := "Failure"
  message := "\"" ++ name ++ "\" already exists"
  reason := "AlreadyExists"
  code := 409

/-- The store with a new object, refused when its key is taken. -/
def create (store : Store α) (object : α) : Except Failure (Store α) :=
  match store.find? (key object) with
  | some _ => .error (.server (.refused (takenResponse (key object).name)))
  | none => .ok (store.put object)

/-! ## Lookups -/

@[simp]
theorem find?_empty (wanted : ObjectKey) : (empty : Store α).find? wanted = none := rfl

theorem key_of_find? {store : Store α} {wanted : ObjectKey} {object : α}
    (found : store.find? wanted = some object) : key object = wanted := by
  simpa using List.find?_some found

/-- A store keeps one object under a key. -/
theorem eq_of_key_eq {store : Store α} {left right : α} (leftMember : left ∈ store.objects)
    (rightMember : right ∈ store.objects) (sameKey : key left = key right) : left = right := by
  obtain ⟨objects, sorted⟩ := store
  induction objects with
  | nil => simp at leftMember
  | cons head tail inductionHypothesis =>
      obtain ⟨headBelow, tailSorted⟩ := List.pairwise_cons.mp sorted
      rcases List.mem_cons.mp leftMember with leftAtHead | leftInTail
      · rcases List.mem_cons.mp rightMember with rightAtHead | rightInTail
        · exact leftAtHead.trans rightAtHead.symm
        · have below := headBelow right rightInTail
          rw [← sameKey, leftAtHead] at below
          exact absurd below (ObjectKey.lt_irrefl _)
      · rcases List.mem_cons.mp rightMember with rightAtHead | rightInTail
        · have below := headBelow left leftInTail
          rw [sameKey, rightAtHead] at below
          exact absurd below (ObjectKey.lt_irrefl _)
        · exact inductionHypothesis tailSorted leftInTail rightInTail

/-- What a key leads to is the object of the store that has the key. -/
theorem find?_eq_some_iff {store : Store α} {wanted : ObjectKey} {object : α} :
    store.find? wanted = some object ↔ object ∈ store.objects ∧ key object = wanted := by
  constructor
  · intro found
    exact ⟨List.mem_of_find?_eq_some found, key_of_find? found⟩
  · rintro ⟨member, sameKey⟩
    cases found : store.find? wanted with
    | none => simpa [sameKey] using List.find?_eq_none.mp found object member
    | some other =>
        have otherMember := List.mem_of_find?_eq_some found
        rw [eq_of_key_eq otherMember member ((key_of_find? found).trans sameKey.symm)]

theorem find?_eq_none_iff {store : Store α} {wanted : ObjectKey} :
    store.find? wanted = none ↔ ∀ object ∈ store.objects, key object ≠ wanted := by
  simp [find?]

/-- After an object was put into the store its key leads to it and every other key to what it led
to. -/
@[simp, grind =]
theorem find?_put (store : Store α) (object : α) (wanted : ObjectKey) :
    (store.put object).find? wanted =
      if key object = wanted then some object else store.find? wanted := by
  obtain ⟨objects, sorted⟩ := store
  simp only [find?, put]
  induction objects with
  | nil =>
      by_cases same : key object = wanted
      · simp [insertObject, same]
      · simp [insertObject, same]
  | cons head tail inductionHypothesis =>
      obtain ⟨_, tailSorted⟩ := List.pairwise_cons.mp sorted
      simp only [insertObject]
      split
      · grind
      · split
        · grind
        · grind

@[simp, grind =]
theorem mem_put_iff {store : Store α} {object other : α} :
    other ∈ (store.put object).objects ↔
      other = object ∨ other ∈ store.objects ∧ key other ≠ key object := by
  have found : other ∈ (store.put object).objects ↔
      (store.put object).find? (key other) = some other := by
    simp only [find?_eq_some_iff, and_true]
  rw [found, find?_put]
  by_cases same : key object = key other
  · rw [if_pos same, Option.some.injEq, eq_comm]
    simp [same]
  · rw [if_neg same, find?_eq_some_iff]
    have different : other ≠ object := fun equal => same (equal ▸ rfl)
    simp [different, Ne.symm same]

theorem mem_put_self {store : Store α} {object : α} : object ∈ (store.put object).objects :=
  mem_put_iff.mpr (Or.inl rfl)

/-- Of two objects put under one key, the later one stays. -/
theorem put_put_of_key_eq (store : Store α) (earlier later : α) (sameKey : key earlier = key later) :
    (store.put earlier).put later = store.put later := by
  obtain ⟨objects, sorted⟩ := store
  simp only [put, Store.mk.injEq]
  clear sorted
  induction objects with
  | nil => simp [insertObject, sameKey]
  | cons head tail inductionHypothesis =>
      simp only [insertObject, sameKey]
      split
      · simp [insertObject, sameKey]
      · split
        · simp [insertObject, sameKey]
        · rename_i notBelow notEqual
          simp only [insertObject, if_neg notBelow, if_neg notEqual, inductionHypothesis]

/-- A creation succeeds exactly where the key is free, and then puts the object into the store. -/
@[simp]
theorem create_eq_ok_iff {store after : Store α} {object : α} :
    store.create object = .ok after ↔
      store.find? (key object) = none ∧ after = store.put object := by
  unfold create
  cases store.find? (key object) with
  | none => simp [eq_comm]
  | some other => simp

@[simp, grind =]
theorem mem_remove_iff {store : Store α} {wanted : ObjectKey} {object : α} :
    object ∈ (store.remove wanted).objects ↔ object ∈ store.objects ∧ key object ≠ wanted := by
  simp only [remove, List.mem_filter, decide_eq_true_eq]

/-- After a removal the key leads nowhere and every other key to what it led to. -/
@[simp, grind =]
theorem find?_remove (store : Store α) (removed wanted : ObjectKey) :
    (store.remove removed).find? wanted =
      if wanted = removed then none else store.find? wanted := by
  simp only [find?, remove, List.find?_filter]
  split
  · rename_i same
    subst same
    simp
  · rename_i different
    congr 1
    funext object
    by_cases equal : key object = wanted
    · simp [equal, different]
    · simp [equal]

end Store

end Provisioning
