import Provisioning.Proofs.Script

/-!
# Waits on a timed script

However long a script and whatever its timing, a wait on it does what it should (`run_eq_expected`).
The clock stays at the start or before the deadline while the wait goes on (`OnTime`), so that the
answers in time are the same for all awaits; the loop over the stream is followed item by item
(`listen_eq`).
-/

namespace Provisioning

variable {α : Type}

/-! ## Time during a wait -/

theorem Duration.isWithin_iff {inclusive : Bool} {deadline instant : Duration} :
    instant.isWithin inclusive deadline = true ↔
      instant.nanoseconds < deadline.nanoseconds ∨
        inclusive = true ∧ instant.nanoseconds = deadline.nanoseconds := by
  rw [isWithin, Bool.or_eq_true, Bool.and_eq_true, decide_eq_true_eq, decide_eq_true_eq,
    Duration.mk.injEq]
  exact Iff.rfl

/-- What is before an instant within the deadline is within the deadline. -/
theorem Duration.isWithin_of_le {inclusive : Bool} {deadline earlier later : Duration}
    (within : later.isWithin inclusive deadline = true)
    (le : earlier.nanoseconds ≤ later.nanoseconds) :
    earlier.isWithin inclusive deadline = true := by
  rw [isWithin_iff] at within ⊢
  rcases within with before | ⟨counts, same⟩
  · exact Or.inl (by omega)
  · by_cases less : earlier.nanoseconds < deadline.nanoseconds
    · exact Or.inl less
    · exact Or.inr ⟨counts, by omega⟩

/-- Between two awaits it is as early as at the start, or within the deadline. -/
def OnTime (inclusive : Bool) (start deadline clock : Duration) : Prop :=
  start.nanoseconds ≤ deadline.nanoseconds ∧
    (clock = start ∨
      start.nanoseconds ≤ clock.nanoseconds ∧ clock.isWithin inclusive deadline = true)

namespace Arrival

variable {β : Type} {inclusive : Bool} {start deadline clock : Duration} {arrival : Arrival β}

theorem isTimely_iff :
    arrival.isTimely inclusive start deadline = true ↔
      arrival.instant.nanoseconds ≤ start.nanoseconds ∨
        arrival.instant.isWithin inclusive deadline = true := by
  rw [isTimely, Bool.or_eq_true, decide_eq_true_eq]
  exact Iff.rfl

/-- When an await is given up, it is the deadline. -/
theorem giveUp_eq (onTime : OnTime inclusive start deadline clock) :
    (if clock < deadline then deadline else clock) = deadline := by
  by_cases before : clock < deadline
  · rw [if_pos before]
  · rw [if_neg before]
    have notBefore : ¬ clock.nanoseconds < deadline.nanoseconds := before
    have same : clock.nanoseconds = deadline.nanoseconds := by
      obtain ⟨ordered, rfl | ⟨_, within⟩⟩ := onTime
      · omega
      · rcases Duration.isWithin_iff.mp within with less | ⟨_, same⟩
        · exact absurd less notBefore
        · exact same
    exact congrArg Duration.mk same

/-- What comes in time is awaited, and afterwards it is still time. -/
theorem await_of_timely (onTime : OnTime inclusive start deadline clock)
    (timely : arrival.isTimely inclusive start deadline = true) :
    ∃ later, await inclusive clock deadline (some arrival) = (.inTime arrival.answer, later) ∧
      OnTime inclusive start deadline later := by
  rw [await]
  by_cases isThere : arrival.instant ≤ clock
  · rw [if_pos isThere]
    exact ⟨clock, rfl, onTime⟩
  · have notThere : ¬ arrival.instant.nanoseconds ≤ clock.nanoseconds := isThere
    have afterStart : start.nanoseconds ≤ clock.nanoseconds := by
      obtain ⟨_, rfl | ⟨after, _⟩⟩ := onTime
      · exact Nat.le_refl _
      · exact after
    have within : arrival.instant.isWithin inclusive deadline = true := by
      rcases isTimely_iff.mp timely with early | within
      · omega
      · exact within
    rw [if_neg isThere, if_pos within]
    exact ⟨arrival.instant, rfl, onTime.1, Or.inr ⟨by omega, within⟩⟩

/-- What does not come in time is awaited up to the deadline. -/
theorem await_of_late (onTime : OnTime inclusive start deadline clock)
    (late : arrival.isTimely inclusive start deadline = false) :
    await inclusive clock deadline (some arrival) = (.late, deadline) := by
  have notTimely : ¬ (arrival.instant.nanoseconds ≤ start.nanoseconds ∨
      arrival.instant.isWithin inclusive deadline = true) := by
    rw [← isTimely_iff, late]
    exact Bool.false_ne_true
  have notThere : ¬ arrival.instant ≤ clock := by
    intro isThere
    obtain ⟨_, rfl | ⟨_, within⟩⟩ := onTime
    · exact notTimely (Or.inl isThere)
    · exact notTimely (Or.inr (Duration.isWithin_of_le within isThere))
  have notWithin : ¬ arrival.instant.isWithin inclusive deadline = true := by
    intro within
    exact notTimely (Or.inr within)
  rw [await, if_neg notThere, if_neg notWithin, giveUp_eq onTime]

private theorem await_of_never (onTime : OnTime inclusive start deadline clock) :
    await inclusive clock deadline (none : Option (Arrival β)) = (.late, deadline) := by
  rw [await, giveUp_eq onTime]

/-- What may never come is awaited up to the deadline, unless it comes in time. -/
theorem await_of_filter_eq_none {arrival? : Option (Arrival β)}
    (onTime : OnTime inclusive start deadline clock)
    (late : arrival?.filter (isTimely inclusive start deadline) = none) :
    await inclusive clock deadline arrival? = (.late, deadline) := by
  cases arrival? with
  | none => exact await_of_never onTime
  | some arrival =>
      apply await_of_late onTime
      simpa using late

private theorem await_of_filter_eq_some {arrival? : Option (Arrival β)}
    (onTime : OnTime inclusive start deadline clock)
    (timely : arrival?.filter (isTimely inclusive start deadline) = some arrival) :
    ∃ later, await inclusive clock deadline arrival? = (.inTime arrival.answer, later) ∧
      OnTime inclusive start deadline later := by
  obtain ⟨isArrival, inTime⟩ := Option.filter_eq_some_iff.mp timely
  rw [isArrival]
  exact await_of_timely onTime inTime

end Arrival

@[simp]
theorem upToFirst_nil {β : Type} (condition : β → Bool) : upToFirst condition [] = [] := rfl

@[simp]
theorem upToFirst_cons {β : Type} (condition : β → Bool) (element : β) (rest : List β) :
    upToFirst condition (element :: rest) =
      if condition element then [element] else element :: upToFirst condition rest := by
  cases meets : condition element with
  | true => simp [upToFirst, meets]
  | false => simp [upToFirst, meets]

/-! ## What the stream should do, item by item -/

namespace Script

variable {items : List (Arrival (StreamItem α))} {item : Arrival (StreamItem α)}
  {condition : α → Bool} {locator : Locator} {inclusive : Bool} {start deadline : Duration}

/-- After an item that is late, all items are. -/
theorem late_of_ordered
    (ordered : (item :: items).Pairwise fun earlier later => earlier.instant ≤ later.instant)
    (late : item.isTimely inclusive start deadline = false) :
    ∀ other ∈ item :: items, other.isTimely inclusive start deadline = false := by
  intro other member
  rw [Bool.eq_false_iff]
  intro timely
  have first : item.instant.nanoseconds ≤ other.instant.nanoseconds := by
    rcases List.mem_cons.mp member with rfl | inRest
    · exact Nat.le_refl _
    · exact (List.pairwise_cons.mp ordered).1 other inRest
  have itemTimely : item.isTimely inclusive start deadline = true := by
    rw [Arrival.isTimely_iff] at timely ⊢
    rcases timely with early | within
    · exact Or.inl (Nat.le_trans first early)
    · exact Or.inr (Duration.isWithin_of_le within first)
  rw [late] at itemTimely
  cases itemTimely

private theorem streamOutcome_of_late
    (late : ∀ other ∈ items, other.isTimely inclusive start deadline = false) :
    streamOutcome inclusive items condition locator start deadline =
      .failed (.timedOut locator (deadline - start)) := by
  unfold streamOutcome
  cases found : items.find? fun item => StreamItem.decides condition item.answer with
  | none => rfl
  | some item =>
      have itemLate := late item (List.mem_of_find?_eq_some found)
      simp only [itemLate, Bool.false_eq_true, if_false]

private theorem streamAsked_of_late
    (late : ∀ other ∈ items, other.isTimely inclusive start deadline = false) :
    streamAsked inclusive items condition start deadline = [] := by
  have none : items.filter (Arrival.isTimely inclusive start deadline) = [] := by
    rw [List.filter_eq_nil_iff]
    intro other member
    rw [late other member]
    exact Bool.false_ne_true
  rw [streamAsked, none]
  rfl

theorem streamOutcome_of_decides (timely : item.isTimely inclusive start deadline = true)
    (decides : StreamItem.decides condition item.answer = true) :
    streamOutcome inclusive (item :: items) condition locator start deadline =
      StreamItem.verdict locator item.answer := by
  simp only [streamOutcome, List.find?_cons, decides, timely, if_true]

private theorem streamAsked_of_decides (timely : item.isTimely inclusive start deadline = true)
    (decides : StreamItem.decides condition item.answer = true) :
    streamAsked inclusive (item :: items) condition start deadline =
      (StreamItem.object? item.answer).toList := by
  rw [streamAsked, List.filter_cons_of_pos timely, upToFirst_cons, if_pos decides,
    List.filterMap_cons, List.filterMap_nil]
  cases StreamItem.object? item.answer with
  | none => rfl
  | some object => rfl

theorem streamOutcome_of_not_decides (skipped : StreamItem.decides condition item.answer = false) :
    streamOutcome inclusive (item :: items) condition locator start deadline =
      streamOutcome inclusive items condition locator start deadline := by
  simp only [streamOutcome, List.find?_cons, skipped]

private theorem streamAsked_of_not_decides (timely : item.isTimely inclusive start deadline = true)
    (skipped : StreamItem.decides condition item.answer = false) :
    streamAsked inclusive (item :: items) condition start deadline =
      (StreamItem.object? item.answer).toList ++
        streamAsked inclusive items condition start deadline := by
  have notDecided : ¬ StreamItem.decides condition item.answer = true := by
    rw [skipped]
    exact Bool.false_ne_true
  rw [streamAsked, List.filter_cons_of_pos timely, upToFirst_cons, if_neg notDecided,
    List.filterMap_cons, streamAsked]
  cases StreamItem.object? item.answer with
  | none => rfl
  | some object => rfl

end Script

/-! ## The wait -/

theorem bind_of_eq {σ β γ : Type} {action : StateM σ β} {next : β → StateM σ γ} {before after : σ}
    {value : β} (acts : action before = (value, after)) :
    (action >>= next) before = next value after := by
  show next (action before).1 (action before).2 = next value after
  rw [acts]

namespace Wait

@[simp]
theorem firstMeeting_noted (condition : α → Bool) (objects : List α) (playback : Playback α) :
    firstMeeting (noted condition) objects playback =
      (objects.find? condition,
        { playback with asked := playback.asked ++ upToFirst condition objects }) := by
  induction objects generalizing playback with
  | nil =>
      rw [upToFirst_nil, List.append_nil]
      rfl
  | cons object rest inductionHypothesis =>
      have asks : noted condition object playback =
          (condition object, { playback with asked := playback.asked ++ [object] }) := rfl
      rw [firstMeeting, bind_of_eq asks, List.find?_cons, upToFirst_cons]
      cases condition object with
      | true => rfl
      | false =>
          simp only [Bool.false_eq_true, if_false, inductionHypothesis, List.append_assoc,
            List.singleton_append]

variable {script : Script α} {condition : α → Bool} {locator : Locator}
  {start deadline : Duration}

private theorem current_of_await {playback : Playback α} {clock : Duration}
    {answer : Timely (Except WaitError (List α))}
    (awaits : Arrival.await script.inclusive playback.clock deadline script.current =
      (answer, clock)) :
    script.source.current locator deadline playback = (answer, { playback with clock }) := by
  simp only [Script.source, awaits]

private theorem subscribe_of_await {playback : Playback α} {clock : Duration}
    {answer : Timely (Except WaitError Unit)}
    (awaits : Arrival.await script.inclusive playback.clock deadline script.subscribed =
      (answer, clock)) :
    script.source.subscribe locator deadline playback =
      (answer, { playback with clock, subscriptions := playback.subscriptions + 1 }) := by
  simp only [Script.source, awaits]

private theorem next_of_await {playback : Playback α} {answer : Timely (StreamItem α)} {clock : Duration}
    (awaits : Arrival.await script.inclusive playback.clock deadline playback.left.head? =
      (answer, clock)) :
    script.source.next () deadline playback =
      (answer, { playback with clock, left := playback.left.tail }) := by
  simp only [Script.source, awaits]

/-! ### One item of the stream -/

section Item

variable {playback after : Playback α} {item : StreamItem α} {events : Nat}

private theorem listen_of_late (waits : script.source.next () deadline playback = (.late, after)) :
    listen script.source (noted condition) locator start deadline () (events + 1) playback =
      (some (.failed (.timedOut locator (after.clock - start))), after) := by
  rw [listen, bind_of_eq waits]
  rfl

private theorem noted_of_eq {object : α} {answer : Bool} (decided : condition object = answer) :
    noted condition object after =
      (answer, { after with asked := after.asked ++ [object] }) := by
  rw [noted, decided]

/-- An item that decides ends the wait, and its object, if any, was asked about. -/
theorem listen_of_decides
    (waits : script.source.next () deadline playback = (.inTime item, after))
    (decides : StreamItem.decides condition item = true) :
    listen script.source (noted condition) locator start deadline () (events + 1) playback =
      (some (StreamItem.verdict locator item),
        { after with asked := after.asked ++ (StreamItem.object? item).toList }) := by
  rw [listen, bind_of_eq waits]
  match item, decides with
  | none, _ =>
      have same : after.asked ++ (none : Option α).toList = after.asked := List.append_nil _
      rw [StreamItem.object?, same]
      rfl
  | some (.error error), _ =>
      have same : after.asked ++ (none : Option α).toList = after.asked := List.append_nil _
      rw [StreamItem.object?, same]
      rfl
  | some (.ok event), decided =>
      have meets : condition event.object = true := decided
      dsimp only
      rw [bind_of_eq (noted_of_eq meets)]
      rfl

/-- An item that does not decide is an event; the wait goes on behind it. -/
theorem listen_of_not_decides
    (waits : script.source.next () deadline playback = (.inTime item, after))
    (skipped : StreamItem.decides condition item = false) :
    listen script.source (noted condition) locator start deadline () (events + 1) playback =
      listen script.source (noted condition) locator start deadline () events
        { after with asked := after.asked ++ (StreamItem.object? item).toList } := by
  rw [listen, bind_of_eq waits]
  match item, skipped with
  | some (.ok event), skipped =>
      have fails : condition event.object = false := skipped
      dsimp only
      rw [bind_of_eq (noted_of_eq fails)]
      rfl

end Item

/-! ### The whole wait -/

/-- The wait on a stream does what it should: by induction on the items that are left, while it is
still time. -/
theorem listen_eq (playback : Playback α) (spare : Nat)
    (onTime : OnTime script.inclusive start deadline playback.clock)
    (ordered : playback.left.Pairwise fun earlier later => earlier.instant ≤ later.instant) :
    ∃ after,
      listen script.source (noted condition) locator start deadline ()
          (playback.left.length + 1 + spare) playback =
        (some (Script.streamOutcome script.inclusive playback.left condition locator start
            deadline), after) ∧
      after.asked = playback.asked ++
        Script.streamAsked script.inclusive playback.left condition start deadline ∧
      after.subscriptions = playback.subscriptions := by
  obtain ⟨clock, left, subscriptions, asked⟩ := playback
  induction left generalizing clock asked with
  | nil =>
      have waits : script.source.next () deadline ⟨clock, [], subscriptions, asked⟩ =
          (.late, ⟨deadline, [], subscriptions, asked⟩) :=
        next_of_await (Arrival.await_of_never onTime)
      rw [List.length_nil, Nat.zero_add, Nat.add_comm 1 spare, listen_of_late waits]
      exact ⟨_, rfl, (List.append_nil asked).symm, rfl⟩
  | cons item rest inductionHypothesis =>
      have again : (item :: rest).length + 1 + spare = (rest.length + 1 + spare) + 1 := by
        rw [List.length_cons]
        omega
      rw [again]
      cases timely : item.isTimely script.inclusive start deadline with
      | false =>
          have waits : script.source.next () deadline ⟨clock, item :: rest, subscriptions, asked⟩ =
              (.late, ⟨deadline, rest, subscriptions, asked⟩) :=
            next_of_await (Arrival.await_of_late onTime timely)
          -- Nothing behind a late item can still be in time.
          have late := Script.late_of_ordered ordered timely
          rw [listen_of_late waits, Script.streamOutcome_of_late late,
            Script.streamAsked_of_late late]
          exact ⟨_, rfl, (List.append_nil asked).symm, rfl⟩
      | true =>
          obtain ⟨later, awaits, onTimeLater⟩ := Arrival.await_of_timely onTime timely
          have waits : script.source.next () deadline ⟨clock, item :: rest, subscriptions, asked⟩ =
              (.inTime item.answer, ⟨later, rest, subscriptions, asked⟩) := next_of_await awaits
          cases decides : StreamItem.decides condition item.answer with
          | true =>
              rw [listen_of_decides waits decides, Script.streamOutcome_of_decides timely decides,
                Script.streamAsked_of_decides timely decides]
              exact ⟨_, rfl, rfl, rfl⟩
          | false =>
              rw [listen_of_not_decides waits decides,
                Script.streamOutcome_of_not_decides decides,
                Script.streamAsked_of_not_decides timely decides]
              obtain ⟨after, goesOn, isAsked, opened⟩ := inductionHypothesis later
                (asked ++ (StreamItem.object? item.answer).toList) onTimeLater
                (List.pairwise_cons.mp ordered).2
              refine ⟨after, goesOn, ?_, opened⟩
              rw [isAsked, List.append_assoc]

/-- A deadline that the clock can count to is not before the start. -/
theorem onTime_of_deadline? {inclusive : Bool} {timeout : Duration}
    (reach : deadline? start timeout = some deadline) :
    OnTime inclusive start deadline start := by
  simp only [deadline?] at reach
  split at reach
  · cases reach
    exact ⟨Nat.le_add_right _ _, Or.inl rfl⟩
  · cases reach

theorem run_until (script : Script α) (condition : α → Bool) (locator : Locator)
    {start deadline timeout : Duration} (reach : deadline? start timeout = some deadline)
    (spare : Nat) :
    ∃ after : Playback α,
      run script.source (noted condition) locator timeout (script.items.length + 1 + spare)
          { clock := start, left := script.items } =
        (some (script.expectedUntil condition locator start deadline).outcome, after) ∧
      after.asked = (script.expectedUntil condition locator start deadline).asked ∧
      after.subscriptions =
        (script.expectedUntil condition locator start deadline).subscriptions := by
  have starts : script.source.now { clock := start, left := script.items } =
      (start, { clock := start, left := script.items }) := rfl
  rw [run, bind_of_eq starts]
  simp only [reach]
  unfold Script.expectedUntil
  cases read : script.current.filter (Arrival.isTimely script.inclusive start deadline) with
  | none =>
      have awaits := Arrival.await_of_filter_eq_none (onTime_of_deadline? reach) read
      rw [bind_of_eq (current_of_await awaits)]
      exact ⟨_, rfl, rfl, rfl⟩
  | some arrival =>
      obtain ⟨clock, awaits, onTime⟩ :=
        Arrival.await_of_filter_eq_some (onTime_of_deadline? reach) read
      rw [bind_of_eq (current_of_await awaits)]
      obtain ⟨instant, answer⟩ := arrival
      cases answer with
      | error error => exact ⟨_, rfl, rfl, rfl⟩
      | ok objects =>
          dsimp only
          rw [bind_of_eq (firstMeeting_noted condition objects _)]
          cases found : objects.find? condition with
          | some object => exact ⟨_, rfl, rfl, rfl⟩
          | none =>
              dsimp only
              cases opened : script.subscribed.filter
                  (Arrival.isTimely script.inclusive start deadline) with
              | none =>
                  have awaits := Arrival.await_of_filter_eq_none onTime opened
                  rw [bind_of_eq (subscribe_of_await awaits)]
                  exact ⟨_, rfl, rfl, rfl⟩
              | some arrival =>
                  obtain ⟨clock, awaits, onTime⟩ := Arrival.await_of_filter_eq_some onTime opened
                  rw [bind_of_eq (subscribe_of_await awaits)]
                  obtain ⟨instant, answer⟩ := arrival
                  cases answer with
                  | error error => exact ⟨_, rfl, rfl, rfl⟩
                  | ok subscription =>
                      exact listen_eq ⟨clock, script.items, 1, upToFirst condition objects⟩ spare
                        onTime script.ordered

/-- Whatever the script, its timing and the condition, a wait does what it should: it ends as the
specification says, asks about the objects that it says, and opens a stream if it says so. -/
theorem run_eq_expected (script : Script α) (condition : α → Bool) (locator : Locator)
    (start timeout : Duration) (spare : Nat) :
    ∃ after : Playback α,
      run script.source (noted condition) locator timeout (script.items.length + 1 + spare)
          { clock := start, left := script.items } =
        (some (script.expected condition locator start timeout).outcome, after) ∧
      after.asked = (script.expected condition locator start timeout).asked ∧
      after.subscriptions = (script.expected condition locator start timeout).subscriptions := by
  unfold Script.expected
  cases reach : deadline? start timeout with
  | some deadline => exact run_until script condition locator reach spare
  | none =>
      have starts : script.source.now { clock := start, left := script.items } =
          (start, { clock := start, left := script.items }) := rfl
      rw [run, bind_of_eq starts]
      simp only [reach]
      exact ⟨_, rfl, rfl, rfl⟩

end Wait

end Provisioning
