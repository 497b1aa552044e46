import Provisioning.Api.Report
import Provisioning.Api.Resources
import Provisioning.Cluster.Located
import Provisioning.Proofs.Kinds
import Provisioning.Proofs.TimedWait

/-!
# No change is missed between reading and watching

A wait reads the objects first and opens a watch afterwards, which lists the objects once more and then
follows the changes.  The cluster goes on changing all the while.  An object that satisfies the
condition from some point on is noticed all the same: it is among those that are listed, or a change
after that made it so, and that change is reported (`Store.exists_report`).

Main statement: wherever reading and listing fall among the changes, the wait ends with an object that
satisfies the condition (`Wait.run_notices`).
-/

namespace Provisioning

open ClusterObject

/-! ## A cluster over time -/

/-- A change of one object in a cluster. -/
inductive ObjectChange (α : Type) where
  | put (object : α)
  | removed (place : ObjectKey)

variable {α : Type} [ClusterObject α]

namespace Store

def changed (store : Store α) : ObjectChange α → Store α
  | .put object => store.put object
  | .removed place => store.remove place

def changedBy (store : Store α) (changes : List (Duration × ObjectChange α)) : Store α :=
  changes.foldl (fun store change => store.changed change.2) store

/-- What a watch reports of a change.  An object that loses the labels that are watched is reported
as deleted. -/
def report? (store : Store α) (locator : Locator) : ObjectChange α → Option (Api.Report α)
  | .put object =>
      if locator.covers object then some (.applied object)
      else ((store.find? (key object)).filter (locator.covers ·)).map .deleted
  | .removed place => ((store.find? place).filter (locator.covers ·)).map .deleted

/-- The reports of changes, with the instants of the changes. -/
def reports (locator : Locator) :
    Store α → List (Duration × ObjectChange α) → List (Duration × Api.Report α)
  | _, [] => []
  | store, (instant, change) :: rest =>
      ((store.report? locator change).map (instant, ·)).toList ++
        reports locator (store.changed change) rest

/-- Some object that a locator addresses meets the condition. -/
def Meets (store : Store α) (locator : Locator) (condition : α → Bool) : Prop :=
  ∃ object ∈ store.located locator, condition object = true

end Store

/-- What a cluster holds in the beginning, and how it changes. -/
structure Chronicle (α : Type) [ClusterObject α] where
  initial : Store α
  changes : List (Duration × ObjectChange α)
  ordered : changes.Pairwise fun earlier later => earlier.1 ≤ later.1

/-- What a cluster holds after the first changes. -/
def Chronicle.after (chronicle : Chronicle α) (position : Nat) : Store α :=
  chronicle.initial.changedBy (chronicle.changes.take position)

/-! ## Reading and watching it -/

/-- The server answers a read of what a locator addresses from the objects of a store. -/
def Reads (store : Store α) (get : String → String → Except ServerError (Option α))
    (list : String → Labels → Except ServerError (List α)) : Locator → Prop
  | .named namespaceName name => get namespaceName name = .ok (store.find? ⟨namespaceName, name⟩)
  | .labeled namespaceName selector => ∃ objects, list namespaceName selector = .ok objects ∧
      objects.Perm (store.inNamespace namespaceName selector)

/-- A report comes as the change asks for: before the deadline, if the change is. -/
def Reported (deadline : Duration) (made : Duration × Api.Report α)
    (arrival : Arrival (Api.Report α)) : Prop :=
  arrival.answer = made.2 ∧ (made.1 < deadline → arrival.instant < deadline)

/-- A watch without errors.  First it lists what the locator addresses at one point, before the
deadline; from there on it reports every change once. -/
structure Watch (chronicle : Chronicle α) (locator : Locator) (deadline : Duration) where
  /-- How many changes come before the list. -/
  position : Nat
  listed : List α
  isListed : listed.Perm ((chronicle.after position).located locator)
  listing : List (Arrival (Api.Report α))
  isListing : listing.map (·.answer) = .listing :: listed.map .listed ++ [.complete]
  inTime : ∀ report ∈ listing, report.instant < deadline
  following : List (Arrival (Api.Report α))
  isFollowing : List.Forall₂ (Reported deadline)
    ((chronicle.after position).reports locator (chronicle.changes.drop position)) following
  ordered : (listing ++ following).Pairwise fun earlier later => earlier.instant ≤ later.instant

/-- The item that a subscriber gets of a report, if any. -/
def delivered? (locator : Locator) (report : Arrival (Api.Report α)) :
    Option (Arrival (StreamItem α)) :=
  (Api.Report.delivered? locator (.ok report.answer)).map fun item => ⟨report.instant, some item⟩

omit [ClusterObject α] in
private theorem instant_of_delivered? {locator : Locator} {report : Arrival (Api.Report α)}
    {item : Arrival (StreamItem α)} (delivered : delivered? locator report = some item) :
    item.instant = report.instant := by
  obtain ⟨_, _, rfl⟩ := Option.map_eq_some_iff.mp delivered
  rfl

namespace Watch

variable {chronicle : Chronicle α} {locator : Locator} {deadline : Duration}

/-- What the subscriber gets. -/
def items (watch : Watch chronicle locator deadline) : List (Arrival (StreamItem α)) :=
  (watch.listing ++ watch.following).filterMap (delivered? locator)

/-- A wait on a watch that opens at once, after a read. -/
def script (watch : Watch chronicle locator deadline) (inclusive : Bool)
    (read : Arrival (Except WaitError (List α))) : Script α where
  inclusive := inclusive
  current := some read
  subscribed := some ⟨⟨0⟩, .ok ()⟩
  items := watch.items
  ordered := by
    refine List.Pairwise.filterMap _ ?_ watch.ordered
    intro earlier later le item delivered other deliveredLater
    rw [instant_of_delivered? delivered, instant_of_delivered? deliveredLater]
    exact le

end Watch

/-! ## What is noticed -/

variable {store : Store α} {locator : Locator} {condition : α → Bool} {deadline : Duration}

/-- What is read is what the locator addresses. -/
theorem exists_currentBy {get : String → String → Except ServerError (Option α)}
    {list : String → Labels → Except ServerError (List α)}
    (reads : Reads store get list locator) :
    ∃ objects, Api.currentBy (m := Id) get list locator = .ok objects ∧
      ∀ object, object ∈ objects ↔ object ∈ store.located locator := by
  cases locator with
  | named namespaceName name =>
      refine ⟨(store.find? ⟨namespaceName, name⟩).toList, ?_, ?_⟩
      · have answer : get namespaceName name = .ok (store.find? ⟨namespaceName, name⟩) := reads
        simp only [Api.currentBy, Api.locate, answer]
        rfl
      · intro object
        rw [Option.mem_toList, Store.find?_eq_some_iff, Store.located, List.mem_filter,
          Locator.covers, beq_iff_eq]
  | labeled namespaceName selector =>
      obtain ⟨objects, answer, perm⟩ := reads
      refine ⟨objects, ?_, ?_⟩
      · simp only [Api.currentBy, Api.locate, answer]
        rfl
      · intro object
        exact perm.mem_iff

namespace Store

variable {change : ObjectChange α} {changes : List (Duration × ObjectChange α)}

/-- One change: what meets the condition afterwards did so before, or is reported. -/
theorem meets_of_changed (meets : (store.changed change).Meets locator condition) :
    store.Meets locator condition ∨
      ∃ object, store.report? locator change = some (.applied object) ∧
        condition object = true := by
  obtain ⟨object, located, holds⟩ := meets
  obtain ⟨member, covered⟩ := List.mem_filter.mp located
  cases change with
  | put written =>
      rcases mem_put_iff.mp member with rfl | ⟨earlier, _⟩
      · exact Or.inr ⟨object, if_pos covered, holds⟩
      · exact Or.inl ⟨object, List.mem_filter.mpr ⟨earlier, covered⟩, holds⟩
  | removed place =>
      have earlier : object ∈ store.objects := (List.mem_filter.mp member).1
      exact Or.inl ⟨object, List.mem_filter.mpr ⟨earlier, covered⟩, holds⟩

/-- Any number of changes, by induction on them: what meets the condition in the end did so in the
beginning, or one of the changes was reported with an object that does. -/
theorem exists_report (meets : (store.changedBy changes).Meets locator condition) :
    store.Meets locator condition ∨
      ∃ instant object, (instant, .applied object) ∈ store.reports locator changes ∧
        condition object = true ∧ ∃ change ∈ changes, change.1 = instant := by
  induction changes generalizing store with
  | nil => exact Or.inl meets
  | cons first rest inductionHypothesis =>
      obtain ⟨instant, change⟩ := first
      rcases inductionHypothesis meets with meetsNext | ⟨later, object, reported, holds, made⟩
      · rcases meets_of_changed meetsNext with meetsNow | ⟨object, reported, holds⟩
        · exact Or.inl meetsNow
        · refine Or.inr ⟨instant, object, ?_, holds, (instant, change), List.mem_cons_self, rfl⟩
          rw [reports, reported]
          exact List.mem_cons_self
      · obtain ⟨other, member, same⟩ := made
        refine Or.inr ⟨later, object, ?_, holds, other, List.mem_cons_of_mem _ member, same⟩
        rw [reports]
        exact List.mem_append_right _ reported

@[simp]
theorem reports_append (more : List (Duration × ObjectChange α)) :
    store.reports locator (changes ++ more) =
      store.reports locator changes ++ (store.changedBy changes).reports locator more := by
  induction changes generalizing store with
  | nil => rfl
  | cons first rest inductionHypothesis =>
      rw [List.cons_append, reports, reports, inductionHypothesis, List.append_assoc]
      rfl

end Store

/-- From one point of a chronicle to a later one. -/
theorem Chronicle.after_add (chronicle : Chronicle α) (position span : Nat) :
    chronicle.after (position + span) =
      (chronicle.after position).changedBy ((chronicle.changes.drop position).take span) := by
  rw [after, List.take_add, Store.changedBy, List.foldl_append]
  rfl

omit [ClusterObject α] in
private theorem exists_reported {made : List (Duration × Api.Report α)}
    {arrivals : List (Arrival (Api.Report α))} {change : Duration × Api.Report α}
    (reported : List.Forall₂ (Reported deadline) made arrivals) (member : change ∈ made) :
    ∃ arrival ∈ arrivals, Reported deadline change arrival := by
  induction reported with
  | nil => cases member
  | cons first _ inductionHypothesis =>
      rcases List.mem_cons.mp member with rfl | inRest
      · exact ⟨_, List.mem_cons_self, first⟩
      · obtain ⟨arrival, isArrival, isReport⟩ := inductionHypothesis inRest
        exact ⟨arrival, List.mem_cons_of_mem _ isArrival, isReport⟩

namespace Watch

variable {chronicle : Chronicle α} {made : Nat}

/-- The subscriber gets events only. -/
theorem exists_event {watch : Watch chronicle locator deadline} {item : Arrival (StreamItem α)}
    (member : item ∈ watch.items) : ∃ event, item.answer = some (.ok event) := by
  obtain ⟨report, _, delivered⟩ := List.mem_filterMap.mp member
  obtain ⟨answer, isAnswer, rfl⟩ := Option.map_eq_some_iff.mp delivered
  obtain ⟨event, _, rfl⟩ := Option.map_eq_some_iff.mp isAnswer
  exact ⟨event, rfl⟩

/-- Where a report of an object arrives in time, the subscriber gets the object in time. -/
theorem exists_item {watch : Watch chronicle locator deadline} {report : Arrival (Api.Report α)}
    {object : α} (member : report ∈ watch.listing ++ watch.following)
    (isApplied : report.answer.event? = some (.applied object))
    (inTime : report.instant < deadline) :
    ∃ item ∈ watch.items, item.answer = some (.ok (.applied object)) ∧ item.instant < deadline := by
  refine ⟨⟨report.instant, some (.ok (.applied object))⟩, ?_, rfl, inTime⟩
  refine List.mem_filterMap.mpr ⟨report, member, ?_⟩
  rw [delivered?, Api.Report.delivered?, isApplied]
  rfl

private theorem exists_item_of_listed {watch : Watch chronicle locator deadline}
    (meets : (chronicle.after watch.position).Meets locator condition) :
    ∃ object, condition object = true ∧ ∃ item ∈ watch.items,
      item.answer = some (.ok (.applied object)) ∧ item.instant < deadline := by
  obtain ⟨object, located, holds⟩ := meets
  have listed : .listed object ∈ watch.listing.map (·.answer) := by
    have member := watch.isListed.mem_iff.mpr located
    rw [watch.isListing]
    exact List.mem_append_left _ (List.mem_cons_of_mem _ (List.mem_map_of_mem member))
  obtain ⟨report, member, isListed⟩ := List.mem_map.mp listed
  have isApplied : report.answer.event? = some (.applied object) := by
    rw [isListed]
    rfl
  exact ⟨object, holds,
    exists_item (List.mem_append_left _ member) isApplied (watch.inTime report member)⟩

private theorem exists_item_of_reported {watch : Watch chronicle locator deadline} {instant : Duration}
    {object : α} (before : instant < deadline)
    (reported : (instant, .applied object) ∈
      (chronicle.after watch.position).reports locator (chronicle.changes.drop watch.position)) :
    ∃ item ∈ watch.items,
      item.answer = some (.ok (.applied object)) ∧ item.instant < deadline := by
  obtain ⟨report, member, isReport, inTime⟩ := exists_reported watch.isFollowing reported
  have isApplied : report.answer.event? = some (.applied object) := by
    rw [isReport]
    rfl
  exact exists_item (List.mem_append_right _ member) isApplied (inTime before)

/-- What meets the condition from one point on, before the deadline, is listed in time, or reported
in time. -/
theorem exists_item_of_meets (watch : Watch chronicle locator deadline)
    (before : ∀ change ∈ chronicle.changes.take made, change.1 < deadline)
    (meets : ∀ later, made ≤ later → (chronicle.after later).Meets locator condition) :
    ∃ object, condition object = true ∧ ∃ item ∈ watch.items,
      item.answer = some (.ok (.applied object)) ∧ item.instant < deadline := by
  by_cases early : made ≤ watch.position
  · exact exists_item_of_listed (meets watch.position early)
  · obtain ⟨span, rfl⟩ := Nat.exists_eq_add_of_le (Nat.le_of_not_le early)
    have meetsLate := meets _ (Nat.le_refl _)
    rw [chronicle.after_add] at meetsLate
    rcases Store.exists_report meetsLate with
      meetsListed | ⟨instant, object, reported, holds, change, inWindow, rfl⟩
    · exact exists_item_of_listed meetsListed
    · have isChange : change ∈ chronicle.changes.take (watch.position + span) := by
        rw [List.take_add]
        exact List.mem_append_right _ inWindow
      have reportedToo : (change.1, .applied object) ∈ (chronicle.after watch.position).reports
          locator (chronicle.changes.drop watch.position) := by
        rw [← List.take_append_drop span (chronicle.changes.drop watch.position),
          Store.reports_append]
        exact List.mem_append_left _ reported
      exact ⟨object, holds, exists_item_of_reported (before change isChange) reportedToo⟩

end Watch

/-! ## How the wait ends -/

omit [ClusterObject α] in
/-- Where a stream brings events only, and in time an object that meets the condition, the wait ends
with one: by induction on the items, of which those in front of one that is in time are in time. -/
theorem Script.streamOutcome_of_event {items : List (Arrival (StreamItem α))}
    {item : Arrival (StreamItem α)} {inclusive : Bool} {start : Duration}
    (ordered : items.Pairwise fun earlier later => earlier.instant ≤ later.instant)
    (events : ∀ item ∈ items, ∃ event, item.answer = some (.ok event)) (member : item ∈ items)
    (decides : StreamItem.decides condition item.answer = true)
    (timely : item.isTimely inclusive start deadline = true) :
    ∃ object, streamOutcome inclusive items condition locator start deadline = .met object ∧
      condition object = true := by
  induction items with
  | nil => cases member
  | cons first rest inductionHypothesis =>
      cases firstDecides : StreamItem.decides condition first.answer with
      | true =>
          have firstTimely : first.isTimely inclusive start deadline = true := by
            cases isTimely : first.isTimely inclusive start deadline with
            | true => rfl
            | false => exact (late_of_ordered ordered isTimely item member).symm.trans timely
          obtain ⟨event, isEvent⟩ := events first List.mem_cons_self
          rw [streamOutcome_of_decides firstTimely firstDecides]
          rw [isEvent] at firstDecides ⊢
          exact ⟨event.object, rfl, firstDecides⟩
      | false =>
          have inRest : item ∈ rest := by
            rcases List.mem_cons.mp member with rfl | inRest
            · rw [firstDecides] at decides
              cases decides
            · exact inRest
          rw [streamOutcome_of_not_decides firstDecides]
          exact inductionHypothesis (List.pairwise_cons.mp ordered).2
            (fun other isOther => events other (List.mem_cons_of_mem _ isOther)) inRest

omit [ClusterObject α] in
theorem Arrival.isTimely_of_lt {β : Type} {arrival : Arrival β} {inclusive : Bool}
    {start : Duration} (before : arrival.instant < deadline) :
    arrival.isTimely inclusive start deadline = true :=
  isTimely_iff.mpr (Or.inr (Duration.isWithin_iff.mpr (Or.inl before)))

namespace Wait

/-- Some object meets the condition from one point on, before the deadline.  Wherever among the
changes the objects are read and listed, in time, the wait ends with an object that meets the
condition; and without a watch, if there was such an object when the objects were read. -/
theorem run_notices {chronicle : Chronicle α} {start timeout instant : Duration}
    {position made : Nat} {get : String → String → Except ServerError (Option α)}
    {list : String → Labels → Except ServerError (List α)}
    (reach : deadline? start timeout = some deadline)
    (before : ∀ change ∈ chronicle.changes.take made, change.1 < deadline)
    (meets : ∀ later, made ≤ later → (chronicle.after later).Meets locator condition)
    (reads : Reads (chronicle.after position) get list locator) (readInTime : instant < deadline)
    (watch : Watch chronicle locator deadline) (inclusive : Bool) (spare : Nat) :
    ∃ object after,
      run (watch.script inclusive ⟨instant, Api.currentBy (m := Id) get list locator⟩).source
          (noted condition) locator timeout (watch.items.length + 1 + spare)
          { clock := start, left := watch.items } = (some (.met object), after) ∧
        condition object = true ∧ (made ≤ position → after.subscriptions = 0) := by
  obtain ⟨objects, isRead, isLocated⟩ := exists_currentBy reads
  rw [isRead]
  let script := watch.script inclusive ⟨instant, .ok objects⟩
  obtain ⟨after, ended, _, opened⟩ := run_until script condition locator reach spare
  have read : script.current.filter (Arrival.isTimely script.inclusive start deadline) =
      some ⟨instant, .ok objects⟩ :=
    Option.filter_eq_some_iff.mpr ⟨rfl, Arrival.isTimely_of_lt readInTime⟩
  have watched : script.subscribed.filter (Arrival.isTimely script.inclusive start deadline) =
      some ⟨⟨0⟩, .ok ()⟩ :=
    Option.filter_eq_some_iff.mpr ⟨rfl, Arrival.isTimely_iff.mpr (Or.inl (Nat.zero_le _))⟩
  simp only [Script.expectedUntil, read, watched] at ended opened
  cases found : objects.find? condition with
  | some object =>
      simp only [found] at ended opened
      exact ⟨object, after, ended, List.find?_some found, fun _ => opened⟩
  | none =>
      simp only [found] at ended
      obtain ⟨object, holds, item, member, isApplied, inTime⟩ :=
        watch.exists_item_of_meets before meets
      have decides : StreamItem.decides condition item.answer = true := by
        rw [isApplied]
        exact holds
      obtain ⟨noticed, isOutcome, noticedHolds⟩ := Script.streamOutcome_of_event script.ordered
        (fun _ isItem => watch.exists_event isItem) member decides
        (Arrival.isTimely_of_lt inTime)
      rw [isOutcome] at ended
      refine ⟨noticed, after, ended, noticedHolds, ?_⟩
      intro early
      obtain ⟨present, located, presentHolds⟩ := meets position early
      have isPresent := (isLocated present).mpr located
      exact absurd presentHolds (List.find?_eq_none.mp found present isPresent)

/-! ### A change between reading and watching -/

/-- The database of the team, which is ready. -/
def ordersDatabase : Capability :=
  .served "retail" "orders" { capability := .dbms }

/-- The database becomes ready soon. -/
def ordersChronicle : Chronicle Capability where
  initial := .empty
  changes := [(⟨2⟩, .put ordersDatabase)]
  ordered := List.pairwise_singleton _ _

/-- A watch that lists the database a little later. -/
def ordersWatch : Watch ordersChronicle (.named "retail" "orders") ⟨10⟩ where
  position := 1
  listed := [ordersDatabase]
  isListed := .refl _
  listing := [⟨⟨3⟩, .listing⟩, ⟨⟨3⟩, .listed ordersDatabase⟩, ⟨⟨3⟩, .complete⟩]
  isListing := rfl
  inTime := by decide
  following := []
  isFollowing := .nil
  ordered := by decide

/-- Nothing is read, then the database becomes ready, then a watch is opened: the wait ends with a
database that is ready. -/
theorem run_notices_orders :
    ∃ object after,
      run (ordersWatch.script true ⟨⟨1⟩, .ok []⟩).source (noted (·.phase.isTerminal))
          (.named "retail" "orders") ⟨10⟩ (ordersWatch.items.length + 1 + 0)
          { clock := ⟨0⟩, left := ordersWatch.items } = (some (.met object), after) ∧
        object.phase.isTerminal = true := by
  have meets : ∀ later, 1 ≤ later → (ordersChronicle.after later).Meets (.named "retail" "orders")
      (·.phase.isTerminal) := by
    intro later atLeast
    have all : ordersChronicle.changes.take later = ordersChronicle.changes :=
      List.take_of_length_le atLeast
    rw [Chronicle.after, all]
    exact ⟨ordersDatabase, by decide, by decide⟩
  have reads : Reads (ordersChronicle.after 0) (fun _ _ => .ok none) (fun _ _ => .ok [])
      (.named "retail" "orders") := rfl
  have reach : deadline? ⟨0⟩ ⟨10⟩ = some ⟨10⟩ := rfl
  have readInTime : (⟨1⟩ : Duration) < ⟨10⟩ := by decide
  obtain ⟨object, after, ended, holds, _⟩ :=
    run_notices reach (by decide) meets reads readInTime ordersWatch true 0
  exact ⟨object, after, ended, holds⟩

end Wait

end Provisioning
