import Provisioning.Proofs.Noticing

/-!
# What a wait sees of a cluster that changes

A wait reads the objects at one point among the changes and follows a watch from a later one on.
Every object that it looks at is one that the locator addressed at some point from the read on
(`Watch.exists_located`).  So a wait ends with an object that the cluster came to hold or at its
deadline (`Sighting.met_or_timedOut`), and not at its deadline where some object meets the condition in
time (`Sighting.exists_met`).
-/

namespace Provisioning

open ClusterObject

variable {α : Type} [ClusterObject α]

/-! ## Objects with one name -/

namespace Store

variable {store : Store α} {namespaceName name : String} {condition : α → Bool}

@[simp]
theorem meets_named_iff :
    store.Meets (.named namespaceName name) condition ↔
      ∃ object, store.find? ⟨namespaceName, name⟩ = some object ∧ condition object = true := by
  simp only [Meets, mem_located_named_iff]

end Store

/-! ## Only what is there is reported -/

namespace Store

variable {store : Store α} {locator : Locator}

/-- One change: a report is of an object that is there before it, or after it. -/
theorem located_of_report? {change : ObjectChange α} {report : Api.Report α} {event : WatchEvent α}
    (reported : store.report? locator change = some report) (isEvent : report.event? = some event) :
    event.object ∈ store.located locator ∨
      event.object ∈ (store.changed change).located locator := by
  -- A report of a deletion is of the object that its key led to.
  have deleted : ∀ {place}, ((store.find? place).filter (locator.covers ·)).map .deleted =
      some report → event.object ∈ store.located locator := by
    intro place isReport
    obtain ⟨object, found, rfl⟩ := Option.map_eq_some_iff.mp isReport
    obtain ⟨isFound, covered⟩ := Option.filter_eq_some_iff.mp found
    cases isEvent
    exact List.mem_filter.mpr ⟨(find?_eq_some_iff.mp isFound).1, covered⟩
  cases change with
  | put written =>
      rw [report?] at reported
      by_cases covered : locator.covers written = true
      · rw [if_pos covered] at reported
        cases reported
        cases isEvent
        exact Or.inr (List.mem_filter.mpr ⟨mem_put_self, covered⟩)
      · rw [if_neg covered] at reported
        exact Or.inl (deleted reported)
  | removed place => exact Or.inl (deleted reported)

/-- Any number of changes, by induction on them: every report is of an object that is there after some
of them. -/
theorem located_of_reports {changes : List (Duration × ObjectChange α)} {instant : Duration}
    {report : Api.Report α} {event : WatchEvent α}
    (reported : (instant, report) ∈ store.reports locator changes)
    (isEvent : report.event? = some event) :
    ∃ span, event.object ∈ (store.changedBy (changes.take span)).located locator := by
  induction changes generalizing store with
  | nil => cases reported
  | cons first rest inductionHypothesis =>
      obtain ⟨time, change⟩ := first
      rw [reports, List.mem_append, Option.mem_toList] at reported
      rcases reported with now | later
      · obtain ⟨made, isMade, same⟩ := Option.map_eq_some_iff.mp now
        cases same
        rcases located_of_report? isMade isEvent with before | after
        · exact ⟨0, before⟩
        · exact ⟨1, after⟩
      · obtain ⟨span, located⟩ := inductionHypothesis later
        exact ⟨span + 1, located⟩

end Store

namespace Watch

variable {chronicle : Chronicle α} {locator : Locator} {deadline : Duration}

omit [ClusterObject α] in
private theorem exists_made {made : List (Duration × Api.Report α)}
    {arrivals : List (Arrival (Api.Report α))} {arrival : Arrival (Api.Report α)}
    (reported : List.Forall₂ (Reported deadline) made arrivals) (member : arrival ∈ arrivals) :
    ∃ instant, (instant, arrival.answer) ∈ made := by
  induction reported with
  | nil => cases member
  | @cons report first _ _ isReport _ inductionHypothesis =>
      rcases List.mem_cons.mp member with rfl | inRest
      · exact ⟨report.1, by rw [isReport.1]; exact List.mem_cons_self⟩
      · obtain ⟨instant, isMade⟩ := inductionHypothesis inRest
        exact ⟨instant, List.mem_cons_of_mem _ isMade⟩

/-- A subscriber gets only what the locator addresses at some point from the list on. -/
theorem exists_located (watch : Watch chronicle locator deadline) {item : Arrival (StreamItem α)}
    {event : WatchEvent α} (member : item ∈ watch.items) (isEvent : item.answer = some (.ok event)) :
    ∃ later, watch.position ≤ later ∧ event.object ∈ (chronicle.after later).located locator := by
  obtain ⟨report, isReport, delivered⟩ := List.mem_filterMap.mp member
  obtain ⟨answer, isAnswer, rfl⟩ := Option.map_eq_some_iff.mp delivered
  obtain ⟨told, isTold, rfl⟩ := Option.map_eq_some_iff.mp isAnswer
  cases isEvent
  rcases List.mem_append.mp isReport with inListing | inFollowing
  · have among : report.answer ∈ .listing :: watch.listed.map .listed ++ [.complete] := by
      rw [← watch.isListing]
      exact List.mem_map_of_mem inListing
    simp only [List.cons_append, List.mem_cons, List.mem_append, List.mem_map, List.not_mem_nil,
      or_false] at among
    rcases among with isListing | ⟨object, isListed, same⟩ | isComplete
    · rw [isListing] at isTold
      cases isTold
    · rw [← same] at isTold
      cases isTold
      exact ⟨watch.position, Nat.le_refl _, watch.isListed.mem_iff.mp isListed⟩
    · rw [isComplete] at isTold
      cases isTold
  · obtain ⟨instant, isMade⟩ := exists_made watch.isFollowing inFollowing
    obtain ⟨span, located⟩ := Store.located_of_reports isMade isTold
    rw [← chronicle.after_add] at located
    exact ⟨watch.position + span, Nat.le_add_right _ _, located⟩

end Watch

/-! ## A wait on a cluster -/

/-- What a wait sees that begins after some changes: it reads the objects in time, at one point among
the changes, and then follows a watch. -/
structure Sighting (chronicle : Chronicle α) (locator : Locator) (deadline : Duration)
    (made : Nat) where
  /-- How many changes come before the read. -/
  position : Nat
  isAfter : made ≤ position
  get : String → String → Except ServerError (Option α)
  list : String → Labels → Except ServerError (List α)
  reads : Reads (chronicle.after position) get list locator
  instant : Duration
  inTime : instant < deadline
  watch : Watch chronicle locator deadline
  isLater : position ≤ watch.position
  /-- Whether an answer that comes just at the deadline is in time. -/
  inclusive : Bool

namespace Sighting

variable {chronicle : Chronicle α} {locator : Locator} {start deadline timeout finish : Duration}
  {made : Nat} {condition : α → Bool}

def script (sighting : Sighting chronicle locator deadline made) : Script α :=
  sighting.watch.script sighting.inclusive
    ⟨sighting.instant, Api.currentBy (m := Id) sighting.get sighting.list locator⟩

/-- A wait that sees this ends with an outcome, by an instant. -/
def Ends (sighting : Sighting chronicle locator deadline made) (condition : α → Bool)
    (start timeout : Duration) (outcome : Wait.End α) (finish : Duration) : Prop :=
  ∃ spare ended,
    Wait.run sighting.script.source (noted condition) locator timeout
        (sighting.watch.items.length + 1 + spare)
        { clock := start, left := sighting.watch.items } = (some outcome, ended) ∧
      ended.clock ≤ finish

/-- How a wait ends that sees this. -/
def outcome (sighting : Sighting chronicle locator deadline made) (condition : α → Bool)
    (start : Duration) : Wait.End α :=
  (sighting.script.expectedUntil condition locator start deadline).outcome

theorem exists_ends (sighting : Sighting chronicle locator deadline made) (condition : α → Bool)
    (reach : Wait.deadline? start timeout = some deadline) :
    ∃ finish, sighting.Ends condition start timeout (sighting.outcome condition start) finish := by
  obtain ⟨ended, waited, _⟩ := Wait.run_until sighting.script condition locator reach 0
  exact ⟨ended.clock, 0, ended, waited, Nat.le_refl _⟩

theorem Ends.eq_outcome {sighting : Sighting chronicle locator deadline made}
    {outcome : Wait.End α} (ends : sighting.Ends condition start timeout outcome finish)
    (reach : Wait.deadline? start timeout = some deadline) :
    outcome = sighting.outcome condition start := by
  obtain ⟨spare, ended, waited, _⟩ := ends
  obtain ⟨_, expected, _⟩ := Wait.run_until sighting.script condition locator reach spare
  have same := waited.symm.trans expected
  exact Option.some.inj (Prod.mk.inj same).1

/-- The wait ends with what is read, or with what the stream brings. -/
theorem exists_outcome_eq (sighting : Sighting chronicle locator deadline made)
    (condition : α → Bool) (start : Duration) :
    ∃ objects : List α,
      (∀ object, object ∈ objects ↔
        object ∈ (chronicle.after sighting.position).located locator) ∧
      sighting.outcome condition start =
        match objects.find? condition with
        | some object => .met object
        | none => Script.streamOutcome sighting.inclusive sighting.watch.items condition locator
            start deadline := by
  obtain ⟨objects, isRead, isLocated⟩ := exists_currentBy sighting.reads
  refine ⟨objects, isLocated, ?_⟩
  have read : sighting.script.current.filter
      (Arrival.isTimely sighting.script.inclusive start deadline) =
      some ⟨sighting.instant, .ok objects⟩ := by
    rw [← isRead]
    exact Option.filter_eq_some_iff.mpr ⟨rfl, Arrival.isTimely_of_lt sighting.inTime⟩
  have opened : sighting.script.subscribed.filter
      (Arrival.isTimely sighting.script.inclusive start deadline) = some ⟨⟨0⟩, .ok ()⟩ :=
    Option.filter_eq_some_iff.mpr ⟨rfl, Arrival.isTimely_iff.mpr (Or.inl (Nat.zero_le _))⟩
  simp only [outcome, Script.expectedUntil, read, opened]
  cases objects.find? condition with
  | some object => rfl
  | none => rfl

/-- A wait ends with an object, which meets the condition and is addressed at some point from the read
on, or by its deadline. -/
theorem met_or_timedOut (sighting : Sighting chronicle locator deadline made)
    (condition : α → Bool) (start : Duration) :
    (∃ object later, sighting.outcome condition start = .met object ∧
      condition object = true ∧ made ≤ later ∧
      object ∈ (chronicle.after later).located locator) ∨
    sighting.outcome condition start = .failed (.timedOut locator (deadline - start)) := by
  obtain ⟨objects, isLocated, isOutcome⟩ := sighting.exists_outcome_eq condition start
  rw [isOutcome]
  cases found : objects.find? condition with
  | some object =>
      exact Or.inl ⟨object, sighting.position, rfl, List.find?_some found, sighting.isAfter,
        (isLocated object).mp (List.mem_of_find?_eq_some found)⟩
  | none =>
      dsimp only
      unfold Script.streamOutcome
      cases decided : sighting.watch.items.find?
          fun item => StreamItem.decides condition item.answer with
      | none => exact Or.inr rfl
      | some item =>
          dsimp only
          by_cases timely : item.isTimely sighting.inclusive start deadline = true
          · have member := List.mem_of_find?_eq_some decided
            have decides := List.find?_some decided
            obtain ⟨event, isEvent⟩ := sighting.watch.exists_event member
            obtain ⟨later, fromThere, located⟩ := sighting.watch.exists_located member isEvent
            rw [if_pos timely, isEvent]
            rw [isEvent] at decides
            exact Or.inl ⟨event.object, later, rfl, decides,
              Nat.le_trans sighting.isAfter (Nat.le_trans sighting.isLater fromThere), located⟩
          · rw [if_neg timely]
            exact Or.inr rfl

/-- Where some object meets the condition from one point on, before the deadline, a wait ends with an
object. -/
theorem exists_met (sighting : Sighting chronicle locator deadline made) (start : Duration)
    {settled : Nat} (before : ∀ change ∈ chronicle.changes.take settled, change.1 < deadline)
    (meets : ∀ later, settled ≤ later → (chronicle.after later).Meets locator condition) :
    ∃ object, sighting.outcome condition start = .met object := by
  obtain ⟨objects, _, isOutcome⟩ := sighting.exists_outcome_eq condition start
  rw [isOutcome]
  cases objects.find? condition with
  | some object => exact ⟨object, rfl⟩
  | none =>
      obtain ⟨object, holds, item, member, isApplied, inTime⟩ :=
        sighting.watch.exists_item_of_meets before meets
      have decides : StreamItem.decides condition item.answer = true := by
        rw [isApplied]
        exact holds
      obtain ⟨noticed, isNoticed, _⟩ := Script.streamOutcome_of_event sighting.script.ordered
        (fun _ isItem => sighting.watch.exists_event isItem) member decides
        (Arrival.isTimely_of_lt inTime)
      exact ⟨noticed, isNoticed⟩

end Sighting

end Provisioning
