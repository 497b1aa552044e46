import Mathlib.Data.List.Forall2
import Provisioning.Rehearsal.World

/-!
# Clusters that look alike from one namespace

Two rehearsed clusters look alike from a namespace if the same objects are in it and the same happens
there: the same changes at the same instants, the same faults of the calls, the same reactions to what
is created in it, and the same events on the streams that watch it.  Other namespaces, the operator's
defaults, and what happens elsewhere may differ.

Main statement: clusters that look alike go on looking alike when the changes that are due are made
(`World.LooksAlike.applyDue`), and when the same object of the namespace is created in both
(`World.LooksAlike.created`).
-/

namespace Provisioning

open ClusterObject

/-! ## Lists that agree but for foreign entries -/

/-- Two lists hold the same own entries in the same order, and foreign ones anywhere. -/
inductive Woven {β : Type} (own foreign : β → Prop) : List β → List β → Prop where
  | nil : Woven own foreign [] []
  | own {entry : β} {left right : List β} (isOwn : own entry) (rest : Woven own foreign left right) :
      Woven own foreign (entry :: left) (entry :: right)
  | left {entry : β} {left right : List β} (isForeign : foreign entry)
      (rest : Woven own foreign left right) : Woven own foreign (entry :: left) right
  | right {entry : β} {left right : List β} (isForeign : foreign entry)
      (rest : Woven own foreign left right) : Woven own foreign left (entry :: right)

namespace Woven

variable {β γ : Type} {own foreign : β → Prop} {left right front frontRight : List β}

theorem symm (woven : Woven own foreign left right) : Woven own foreign right left := by
  induction woven with
  | nil => exact .nil
  | own isOwn _ inductionHypothesis => exact .own isOwn inductionHypothesis
  | left isForeign _ inductionHypothesis => exact .right isForeign inductionHypothesis
  | right isForeign _ inductionHypothesis => exact .left isForeign inductionHypothesis

theorem filter (wanted : β → Bool) (woven : Woven own foreign left right) :
    Woven own foreign (left.filter wanted) (right.filter wanted) := by
  induction woven with
  | nil => exact .nil
  | @own entry _ _ isOwn _ inductionHypothesis =>
      by_cases isWanted : wanted entry = true
      · rw [List.filter_cons_of_pos isWanted, List.filter_cons_of_pos isWanted]
        exact .own isOwn inductionHypothesis
      · rw [List.filter_cons_of_neg isWanted, List.filter_cons_of_neg isWanted]
        exact inductionHypothesis
  | @left entry _ _ isForeign _ inductionHypothesis =>
      by_cases isWanted : wanted entry = true
      · rw [List.filter_cons_of_pos isWanted]
        exact .left isForeign inductionHypothesis
      · rw [List.filter_cons_of_neg isWanted]
        exact inductionHypothesis
  | @right entry _ _ isForeign _ inductionHypothesis =>
      by_cases isWanted : wanted entry = true
      · rw [List.filter_cons_of_pos isWanted]
        exact .right isForeign inductionHypothesis
      · rw [List.filter_cons_of_neg isWanted]
        exact inductionHypothesis

private theorem append (atFront : Woven own foreign front frontRight)
    (atBack : Woven own foreign left right) :
    Woven own foreign (front ++ left) (frontRight ++ right) := by
  induction atFront with
  | nil => exact atBack
  | own isOwn _ inductionHypothesis => exact .own isOwn inductionHypothesis
  | left isForeign _ inductionHypothesis => exact .left isForeign inductionHypothesis
  | right isForeign _ inductionHypothesis => exact .right isForeign inductionHypothesis

theorem map {ownAfter foreignAfter : γ → Prop} (image : β → γ)
    (isOwn : ∀ entry, own entry → ownAfter (image entry))
    (isForeign : ∀ entry, foreign entry → foreignAfter (image entry))
    (woven : Woven own foreign left right) :
    Woven ownAfter foreignAfter (left.map image) (right.map image) := by
  induction woven with
  | nil => exact .nil
  | own owned _ inductionHypothesis => exact .own (isOwn _ owned) inductionHypothesis
  | left foreigned _ inductionHypothesis => exact .left (isForeign _ foreigned) inductionHypothesis
  | right foreigned _ inductionHypothesis =>
      exact .right (isForeign _ foreigned) inductionHypothesis

end Woven

/-! ## Changes to come, and streams -/

namespace Rehearsal

section

variable {α : Type}

/-- Changes are in the order of their instants. -/
def InOrder (changes : List (Duration × Change α)) : Prop :=
  changes.Pairwise fun earlier later => earlier.1 ≤ later.1

namespace InOrder

variable {changes : List (Duration × Change α)} {instant : Duration}

private theorem filter_of_later (later : ∀ entry ∈ changes, ¬ entry.1 ≤ instant) :
    changes.filter (fun entry => entry.1 ≤ instant) = [] ∧
      changes.filter (fun entry => !(entry.1 ≤ instant)) = changes := by
  rw [List.filter_eq_nil_iff, List.filter_eq_self]
  constructor
  · intro entry member
    simpa using later entry member
  · intro entry member
    simpa using later entry member

private theorem later_of_head {entry : Duration × Change α} {rest : List (Duration × Change α)}
    (inOrder : InOrder (entry :: rest)) (later : ¬ entry.1 ≤ instant) :
    ∀ other ∈ entry :: rest, ¬ other.1 ≤ instant := by
  intro other member le
  rcases List.mem_cons.mp member with rfl | inRest
  · exact later le
  · exact later (Nat.le_trans ((List.pairwise_cons.mp inOrder).1 other inRest) le)

/-- What is due comes first. -/
theorem due_eq (inOrder : InOrder changes) (instant : Duration) :
    changes.takeWhile (fun entry => entry.1 ≤ instant) =
        changes.filter (fun entry => entry.1 ≤ instant) ∧
      changes.dropWhile (fun entry => entry.1 ≤ instant) =
        changes.filter fun entry => !(entry.1 ≤ instant) := by
  induction changes with
  | nil => exact ⟨rfl, rfl⟩
  | cons entry rest inductionHypothesis =>
      by_cases due : entry.1 ≤ instant
      · obtain ⟨taken, dropped⟩ := inductionHypothesis (List.pairwise_cons.mp inOrder).2
        simp [due, taken, dropped]
      · obtain ⟨none, all⟩ := filter_of_later (inOrder.later_of_head due)
        rw [none, all]
        simp [due]

private theorem eq_append (inOrder : InOrder changes) (instant : Duration) :
    changes = changes.filter (fun entry => entry.1 ≤ instant) ++
      changes.filter fun entry => !(entry.1 ≤ instant) := by
  obtain ⟨taken, dropped⟩ := inOrder.due_eq instant
  rw [← taken, ← dropped, List.takeWhile_append_dropWhile]

/-- A change is put behind what is due at its instant. -/
theorem insertChange_eq (inOrder : InOrder changes) (instant : Duration) (change : Change α) :
    World.insertChange instant change changes =
      changes.filter (fun entry => entry.1 ≤ instant) ++
        (instant, change) :: changes.filter fun entry => !(entry.1 ≤ instant) := by
  induction changes with
  | nil => rfl
  | cons entry rest inductionHypothesis =>
      obtain ⟨other, earlier⟩ := entry
      by_cases before : instant < other
      · obtain ⟨none, all⟩ :=
          filter_of_later (inOrder.later_of_head (Nat.not_le_of_lt before))
        rw [World.insertChange, if_pos before, none, all]
        rfl
      · have due : other ≤ instant := Nat.le_of_not_lt before
        rw [World.insertChange, if_neg before,
          inductionHypothesis (List.pairwise_cons.mp inOrder).2]
        simp [due]

theorem insertChange (inOrder : InOrder changes) (instant : Duration) (change : Change α) :
    InOrder (World.insertChange instant change changes) := by
  rw [inOrder.insertChange_eq, InOrder, List.pairwise_append, List.pairwise_cons]
  simp only [List.mem_filter, List.mem_cons, decide_eq_true_eq, Bool.not_eq_true']
  refine ⟨inOrder.filter _, ⟨?_, inOrder.filter _⟩, ?_⟩
  · rintro later ⟨_, notDue⟩
    exact Nat.le_of_not_le (of_decide_eq_false notDue)
  · rintro earlier ⟨_, due⟩ later (rfl | ⟨_, notDue⟩)
    · exact due
    · exact Nat.le_trans due (Nat.le_of_not_le (of_decide_eq_false notDue))

end InOrder

/-- Two streams that hold the same if they watch the namespace. -/
structure Stream.LooksAlike (namespaceName : String) (left right : Stream α) : Prop where
  locator : left.locator = right.locator
  hasEnded : left.hasEnded = right.hasEnded
  queue : left.locator.namespaceName = namespaceName → left.queue = right.queue

theorem Stream.LooksAlike.symm {namespaceName : String} {left right : Stream α}
    (alike : left.LooksAlike namespaceName right) : right.LooksAlike namespaceName left where
  locator := alike.locator.symm
  hasEnded := alike.hasEnded.symm
  queue inside := (alike.queue ((congrArg Locator.namespaceName alike.locator).trans inside)).symm

theorem Stream.LooksAlike.push {namespaceName : String} {left right : Stream α}
    (alike : left.LooksAlike namespaceName right) (item : Except WaitError (WatchEvent α)) :
    (left.push item).LooksAlike namespaceName (right.push item) where
  locator := alike.locator
  hasEnded := alike.hasEnded
  queue inside := by simp only [Stream.push, alike.queue inside]

end

end Rehearsal

variable {α : Type} [ClusterObject α]

/-! ## Stores -/

/-- The same objects of a namespace are in two stores. -/
def Store.LooksAlike (namespaceName : String) (left right : Store α) : Prop :=
  ∀ object : α, (key object).namespaceName = namespaceName →
    (object ∈ left.objects ↔ object ∈ right.objects)

namespace Store

/-- Of what lists the objects of two stores in their order, only the members matter. -/
theorem filter_eq_of_mem_iff {left right : Store α} {wanted : α → Bool}
    (same : ∀ object, wanted object = true → (object ∈ left.objects ↔ object ∈ right.objects)) :
    left.objects.filter wanted = right.objects.filter wanted := by
  have sorted : ∀ store : Store α, (store.objects.filter wanted).Pairwise
      fun earlier later => key earlier < key later :=
    fun store => store.sorted.filter wanted
  have nodup : ∀ store : Store α, (store.objects.filter wanted).Nodup := by
    intro store
    refine (sorted store).imp ?_
    rintro earlier _ below rfl
    exact ObjectKey.lt_irrefl _ below
  have permuted : (left.objects.filter wanted).Perm (right.objects.filter wanted) := by
    rw [List.perm_ext_iff_of_nodup (nodup left) (nodup right)]
    intro object
    simp only [List.mem_filter]
    constructor
    · rintro ⟨member, isWanted⟩
      exact ⟨(same object isWanted).mp member, isWanted⟩
    · rintro ⟨member, isWanted⟩
      exact ⟨(same object isWanted).mpr member, isWanted⟩
  refine permuted.eq_of_pairwise ?_ (sorted left) (sorted right)
  intro earlier later _ _ below above
  exact absurd (ObjectKey.lt_trans below above) (ObjectKey.lt_irrefl _)

namespace LooksAlike

variable {namespaceName : String} {left right : Store α}

theorem symm (alike : left.LooksAlike namespaceName right) : right.LooksAlike namespaceName left :=
  fun object inside => (alike object inside).symm

theorem find?_eq (alike : left.LooksAlike namespaceName right) {wanted : ObjectKey}
    (inside : wanted.namespaceName = namespaceName) : left.find? wanted = right.find? wanted := by
  refine Option.ext fun object => ?_
  rw [find?_eq_some_iff, find?_eq_some_iff]
  constructor
  · rintro ⟨member, isKey⟩
    exact ⟨(alike object (isKey ▸ inside)).mp member, isKey⟩
  · rintro ⟨member, isKey⟩
    exact ⟨(alike object (isKey ▸ inside)).mpr member, isKey⟩

theorem inNamespace_eq (alike : left.LooksAlike namespaceName right) (labels : Labels) :
    left.inNamespace namespaceName labels = right.inNamespace namespaceName labels := by
  refine filter_eq_of_mem_iff ?_
  intro object wanted
  rw [Bool.and_eq_true, beq_iff_eq] at wanted
  exact alike object wanted.1

theorem put (alike : left.LooksAlike namespaceName right) (object : α) :
    (left.put object).LooksAlike namespaceName (right.put object) := by
  intro other inside
  simp [alike other inside]

theorem put_elsewhere (alike : left.LooksAlike namespaceName right) {object : α}
    (elsewhere : (key object).namespaceName ≠ namespaceName) :
    (left.put object).LooksAlike namespaceName right := by
  intro other inside
  have different : key other ≠ key object := by
    intro sameKey
    exact elsewhere (sameKey ▸ inside)
  have notSame : other ≠ object := fun same => different (congrArg key same)
  rw [mem_put_iff, ← alike other inside]
  simp only [notSame, different, ne_eq, not_false_eq_true, and_true, false_or]

theorem remove (alike : left.LooksAlike namespaceName right) (wanted : ObjectKey) :
    (left.remove wanted).LooksAlike namespaceName (right.remove wanted) := by
  intro other inside
  simp [alike other inside]

private theorem remove_elsewhere (alike : left.LooksAlike namespaceName right) {wanted : ObjectKey}
    (elsewhere : wanted.namespaceName ≠ namespaceName) :
    (left.remove wanted).LooksAlike namespaceName right := by
  intro other inside
  have different : key other ≠ wanted := by
    intro sameKey
    exact elsewhere (sameKey ▸ inside)
  rw [mem_remove_iff, ← alike other inside]
  simp only [different, ne_eq, not_false_eq_true, and_true]

end LooksAlike

end Store

theorem Locator.namespaceName_of_covers {locator : Locator} {object : α}
    (covered : locator.covers object = true) :
    (key object).namespaceName = locator.namespaceName := by
  cases locator with
  | named namespaceName name =>
      have sameKey : key object = ⟨namespaceName, name⟩ := beq_iff_eq.mp covered
      rw [sameKey]
      rfl
  | labeled namespaceName selector =>
      simp only [covers, Bool.and_eq_true, beq_iff_eq] at covered
      exact covered.1

theorem Store.LooksAlike.located_eq {left right : Store α} {locator : Locator}
    (alike : left.LooksAlike locator.namespaceName right) :
    left.located locator = right.located locator := by
  refine filter_eq_of_mem_iff ?_
  intro object covered
  exact alike object (Locator.namespaceName_of_covers covered)

namespace Rehearsal

/-- A change in a namespace, or of the streams. -/
inductive Change.Own (namespaceName : String) : Change α → Prop where
  | put {object : α} (inside : (key object).namespaceName = namespaceName) :
      Own namespaceName (.put object)
  | revise {wanted : ObjectKey} {revision : α → α}
      (inside : wanted.namespaceName = namespaceName) :
      Own namespaceName (.revise wanted revision)
  | remove {wanted : ObjectKey} (inside : wanted.namespaceName = namespaceName) :
      Own namespaceName (.remove wanted)
  | breakStreams (message : String) : Own namespaceName (.breakStreams message)
  | endStreams : Own namespaceName .endStreams

/-- A change in other namespaces. -/
inductive Change.Foreign (namespaceName : String) : Change α → Prop where
  | put {object : α} (elsewhere : (key object).namespaceName ≠ namespaceName) :
      Foreign namespaceName (.put object)
  | revise {wanted : ObjectKey} {revision : α → α}
      (elsewhere : wanted.namespaceName ≠ namespaceName)
      (stays : ∀ object, key object = wanted →
        (key (revision object)).namespaceName ≠ namespaceName) :
      Foreign namespaceName (.revise wanted revision)
  | remove {wanted : ObjectKey} (elsewhere : wanted.namespaceName ≠ namespaceName) :
      Foreign namespaceName (.remove wanted)

/-- Two faults that differ at most in what changes elsewhere. -/
structure Fault.LooksAlike (namespaceName : String) {kind : CallKind} (left right : Fault α kind) :
    Prop where
  delay : left.delay = right.delay
  stalls : left.stalls = right.stalls
  before : Woven (Change.Own namespaceName) (Change.Foreign namespaceName) left.before right.before
  trouble : left.trouble = right.trouble

/-- A reaction to what is created in the namespace happens in the namespace. -/
def Reaction.Own (namespaceName : String) (reaction : Reaction α) : Prop :=
  ∀ place, place.namespaceName = namespaceName → (reaction.change place).Own namespaceName

/-- A reaction to what is created in the namespace happens elsewhere. -/
def Reaction.Foreign (namespaceName : String) (reaction : Reaction α) : Prop :=
  ∀ place, place.namespaceName = namespaceName → (reaction.change place).Foreign namespaceName

/-- The changes of two clusters that are still to come. -/
abbrev Forthcoming (namespaceName : String) : List (Duration × Change α) →
    List (Duration × Change α) → Prop :=
  Woven (fun entry => entry.2.Own namespaceName) fun entry => entry.2.Foreign namespaceName

/-- Two clusters look alike from a namespace, now and in all that is known about their future. -/
structure World.LooksAlike (namespaceName : String) (left right : World α) : Prop where
  clock : left.toClock = right.toClock
  store : left.store.LooksAlike namespaceName right.store
  pending : Forthcoming namespaceName left.pending right.pending
  inOrder : InOrder left.pending
  inOrderRight : InOrder right.pending
  streams : List.Forall₂ (Stream.LooksAlike namespaceName) left.streams right.streams
  faults : ∀ kind, List.Forall₂ (Option.Rel (Fault.LooksAlike namespaceName)) (left.faults kind)
    (right.faults kind)
  reactions : Woven (Reaction.Own namespaceName) (Reaction.Foreign namespaceName) left.reactions
    right.reactions

theorem Fault.LooksAlike.symm {namespaceName : String} {kind : CallKind}
    {left right : Fault α kind} (alike : left.LooksAlike namespaceName right) :
    right.LooksAlike namespaceName left where
  delay := alike.delay.symm
  stalls := alike.stalls.symm
  before := alike.before.symm
  trouble := alike.trouble.symm

/-! ## Changes -/

namespace World.LooksAlike

variable {namespaceName : String} {left right : World α}

theorem symm (alike : left.LooksAlike namespaceName right) :
    right.LooksAlike namespaceName left where
  clock := alike.clock.symm
  store := alike.store.symm
  pending := alike.pending.symm
  inOrder := alike.inOrderRight
  inOrderRight := alike.inOrder
  streams := alike.streams.flip.imp fun _ _ same => same.symm
  faults kind := (alike.faults kind).flip.imp fun one other same => by
    cases same with
    | none => exact .none
    | some same => exact .some same.symm
  reactions := alike.reactions.symm

/-- An event is passed on in both clusters. -/
theorem streams_emit (alike : List.Forall₂ (Stream.LooksAlike namespaceName) left.streams
    right.streams) (event : WatchEvent α) :
    List.Forall₂ (Stream.LooksAlike namespaceName) (left.emit event).streams
      (right.emit event).streams := by
  simp only [emit, List.forall₂_map_left_iff, List.forall₂_map_right_iff]
  refine alike.imp ?_
  intro one other same
  rw [← same.hasEnded, ← same.locator]
  by_cases passed : (!one.hasEnded && one.locator.covers event.object) = true
  · simp only [if_pos passed]
    exact same.push _
  · simp only [if_neg passed]
    exact same

/-- No stream that watches the namespace gets an event from elsewhere. -/
theorem streams_emit_elsewhere (alike : List.Forall₂ (Stream.LooksAlike namespaceName) left.streams
    right.streams) {event : WatchEvent α}
    (elsewhere : (key event.object).namespaceName ≠ namespaceName) :
    List.Forall₂ (Stream.LooksAlike namespaceName) (left.emit event).streams right.streams := by
  simp only [emit, List.forall₂_map_left_iff]
  refine alike.imp ?_
  intro one other same
  by_cases passed : (!one.hasEnded && one.locator.covers event.object) = true
  · simp only [if_pos passed]
    refine ⟨same.locator, same.hasEnded, fun inside => ?_⟩
    have covered := (Bool.and_eq_true_iff.mp passed).2
    exact absurd ((Locator.namespaceName_of_covers covered).trans inside) elsewhere
  · simp only [if_neg passed]
    exact same

theorem put (alike : left.LooksAlike namespaceName right) (object : α) :
    (left.put object).LooksAlike namespaceName (right.put object) :=
  { alike with
    store := alike.store.put object
    streams := streams_emit alike.streams _ }

theorem put_elsewhere (alike : left.LooksAlike namespaceName right) {object : α}
    (elsewhere : (key object).namespaceName ≠ namespaceName) :
    (left.put object).LooksAlike namespaceName right :=
  { alike with
    store := alike.store.put_elsewhere elsewhere
    streams := streams_emit_elsewhere alike.streams elsewhere }

private theorem apply_own (alike : left.LooksAlike namespaceName right) {change : Change α}
    (isOwn : change.Own namespaceName) :
    (left.apply change).LooksAlike namespaceName (right.apply change) := by
  cases isOwn with
  | put inside => exact alike.put _
  | @revise wanted revision inside =>
      simp only [apply, ← alike.store.find?_eq inside]
      cases left.store.find? wanted with
      | none => exact alike
      | some object => exact alike.put (revision object)
  | @remove wanted inside =>
      simp only [apply, ← alike.store.find?_eq inside]
      cases left.store.find? wanted with
      | none => exact alike
      | some object =>
          exact
            { alike with
              store := alike.store.remove wanted
              streams := streams_emit alike.streams _ }
  | breakStreams message =>
      refine { alike with streams := ?_ }
      simp only [apply, List.forall₂_map_left_iff, List.forall₂_map_right_iff]
      refine alike.streams.imp ?_
      intro one other same
      rw [← same.hasEnded, ← same.locator]
      by_cases ended : one.hasEnded = true
      · simp only [if_pos ended]
        exact same
      · simp only [if_neg ended]
        exact same.push _
  | endStreams =>
      refine { alike with streams := ?_ }
      simp only [apply, List.forall₂_map_left_iff, List.forall₂_map_right_iff]
      refine alike.streams.imp ?_
      intro one other same
      exact ⟨same.locator, rfl, same.queue⟩

private theorem apply_foreign (alike : left.LooksAlike namespaceName right) {change : Change α}
    (isForeign : change.Foreign namespaceName) :
    (left.apply change).LooksAlike namespaceName right := by
  cases isForeign with
  | put elsewhere => exact alike.put_elsewhere elsewhere
  | @revise wanted revision elsewhere stays =>
      simp only [apply]
      cases found : left.store.find? wanted with
      | none => exact alike
      | some object => exact alike.put_elsewhere (stays object (Store.key_of_find? found))
  | @remove wanted elsewhere =>
      simp only [apply]
      cases found : left.store.find? wanted with
      | none => exact alike
      | some object =>
          have isElsewhere : (key object).namespaceName ≠ namespaceName := by
            rw [Store.key_of_find? found]
            exact elsewhere
          exact
            { alike with
              store := alike.store.remove_elsewhere elsewhere
              streams := streams_emit_elsewhere alike.streams isElsewhere }

/-- Changes that are the same in the namespace are made in both clusters. -/
theorem apply_all {changes others : List (Change α)} (alike : left.LooksAlike namespaceName right)
    (woven : Woven (Change.Own namespaceName) (Change.Foreign namespaceName) changes others) :
    (changes.foldl World.apply left).LooksAlike namespaceName (others.foldl World.apply right) := by
  induction woven generalizing left right with
  | nil => exact alike
  | own isOwn _ inductionHypothesis => exact inductionHypothesis (alike.apply_own isOwn)
  | left isForeign _ inductionHypothesis =>
      exact inductionHypothesis (alike.apply_foreign isForeign)
  | right isForeign _ inductionHypothesis =>
      exact inductionHypothesis (alike.symm.apply_foreign isForeign).symm

theorem applyDue (alike : left.LooksAlike namespaceName right) :
    left.applyDue.LooksAlike namespaceName right.applyDue := by
  have sameNow : right.now = left.now := congrArg Clock.now alike.clock.symm
  obtain ⟨taken, dropped⟩ := alike.inOrder.due_eq left.now
  obtain ⟨takenRight, droppedRight⟩ := alike.inOrderRight.due_eq left.now
  simp only [World.applyDue, sameNow, taken, dropped, takenRight, droppedRight,
    ← List.foldl_map (f := Prod.snd) (g := World.apply)]
  refine LooksAlike.apply_all ?_ ((alike.pending.filter _).map Prod.snd (fun _ => id) fun _ => id)
  exact
    { alike with
      pending := alike.pending.filter _
      inOrder := alike.inOrder.filter _
      inOrderRight := alike.inOrderRight.filter _ }

private theorem schedule_own (alike : left.LooksAlike namespaceName right) (delay : Duration)
    {change : Change α} (isOwn : change.Own namespaceName) :
    (left.schedule delay change).LooksAlike namespaceName (right.schedule delay change) := by
  have sameNow : right.now = left.now := congrArg Clock.now alike.clock.symm
  simp only [World.schedule, sameNow]
  refine
    { alike with
      pending := ?_
      inOrder := alike.inOrder.insertChange _ change
      inOrderRight := alike.inOrderRight.insertChange _ change }
  rw [Forthcoming, alike.inOrder.insertChange_eq, alike.inOrderRight.insertChange_eq]
  exact (alike.pending.filter _).append (.own isOwn (alike.pending.filter _))

private theorem schedule_foreign (alike : left.LooksAlike namespaceName right) (delay : Duration)
    {change : Change α} (isForeign : change.Foreign namespaceName) :
    (left.schedule delay change).LooksAlike namespaceName right := by
  simp only [World.schedule]
  refine { alike with pending := ?_, inOrder := alike.inOrder.insertChange _ change }
  rw [Forthcoming, alike.inOrder.insertChange_eq, alike.inOrderRight.eq_append (left.now + delay)]
  exact (alike.pending.filter _).append (.left isForeign (alike.pending.filter _))

/-- An object of the namespace is created in both clusters. -/
theorem created (alike : left.LooksAlike namespaceName right) {object : α}
    (inside : (key object).namespaceName = namespaceName) :
    (left.created object).LooksAlike namespaceName (right.created object) := by
  have reacted : ∀ {reactions others : List (Reaction α)} {one other : World α},
      Woven (Reaction.Own namespaceName) (Reaction.Foreign namespaceName) reactions others →
      one.LooksAlike namespaceName other →
      (reactions.foldl (fun world reaction =>
          world.schedule reaction.delay (reaction.change (key object))) one).LooksAlike
        namespaceName (others.foldl (fun world reaction =>
          world.schedule reaction.delay (reaction.change (key object))) other) := by
    intro reactions others one other woven same
    induction woven generalizing one other with
    | nil => exact same
    | own isOwn _ inductionHypothesis =>
        exact inductionHypothesis (same.schedule_own _ (isOwn _ inside))
    | left isForeign _ inductionHypothesis =>
        exact inductionHypothesis (same.schedule_foreign _ (isForeign _ inside))
    | right isForeign _ inductionHypothesis =>
        exact inductionHypothesis (same.symm.schedule_foreign _ (isForeign _ inside)).symm
  exact reacted alike.reactions (alike.put object)

end World.LooksAlike

end Rehearsal

end Provisioning
