import Provisioning.Proofs.TwinRuns

/-!
# Two waits side by side

A wait for objects of a namespace is run on two rehearsed clusters that look alike from it.  What
happens elsewhere can wake the one wait and not the other, so the two do not go step by step: both
are followed from one instant at which something happens in either cluster to the next
(`meets_nextItem`).  That a wait sees no more events than changes are still to come, keeps it from
giving up early in either cluster (`Watches`).

Main statement: two such waits end alike, and with an object of the namespace if with any
(`meets_waitFor`).
-/

namespace Provisioning.Rehearsal

open ClusterObject

variable {α β : Type} [ClusterObject α] {namespaceName : String} {number : Nat}

/-! ## What a stream can still hold -/

/-- The items that a stream holds. -/
def World.queued (world : World α) (number : Nat) : Nat :=
  (world.streams[number]?.map (·.queue.length)).getD 0

/-- A stream watches the namespace, and holds no more than so many items now and in the future. -/
structure World.Watches (world : World α) (namespaceName : String) (number ahead : Nat) : Prop where
  inside : ∀ stream, world.streams[number]? = some stream →
    stream.locator.namespaceName = namespaceName ∧
      ∀ event, .ok event ∈ stream.queue → (key event.object).namespaceName = namespaceName
  ahead : world.queued number + world.pending.length ≤ ahead

/-- What a change does to a stream: it gets at most one item, about an object that it covers. -/
def Stream.Advances (before after : Stream α) : Prop :=
  after.locator = before.locator ∧
    (after.queue = before.queue ∨ ∃ item, after.queue = before.queue ++ [item] ∧
      ∀ event, item = .ok event → before.locator.covers event.object = true)

private theorem advances_emit (world : World α) (event : WatchEvent α) :
    ∃ advance : Stream α → Stream α, (world.emit event).streams = world.streams.map advance ∧
      ∀ stream : Stream α, stream.Advances (advance stream) := by
  refine ⟨_, rfl, ?_⟩
  intro stream
  by_cases passed : (!stream.hasEnded && stream.locator.covers event.object) = true
  · rw [if_pos passed]
    refine ⟨rfl, Or.inr ⟨_, rfl, ?_⟩⟩
    rintro _ ⟨⟩
    exact (Bool.and_eq_true_iff.mp passed).2
  · rw [if_neg passed]
    exact ⟨rfl, Or.inl rfl⟩

private theorem advances_apply (world : World α) (change : Change α) :
    ∃ advance : Stream α → Stream α, (world.apply change).streams = world.streams.map advance ∧
      ∀ stream : Stream α, stream.Advances (advance stream) := by
  have unchanged : ∃ advance : Stream α → Stream α, world.streams = world.streams.map advance ∧
      ∀ stream : Stream α, stream.Advances (advance stream) :=
    ⟨id, (List.map_id _).symm, fun _ => ⟨rfl, Or.inl rfl⟩⟩
  cases change with
  | put object => exact advances_emit { world with store := world.store.put object } _
  | revise wanted revision =>
      simp only [World.apply]
      cases world.store.find? wanted with
      | none => exact unchanged
      | some object =>
          exact advances_emit { world with store := world.store.put (revision object) } _
  | remove wanted =>
      simp only [World.apply]
      cases world.store.find? wanted with
      | none => exact unchanged
      | some object => exact advances_emit { world with store := world.store.remove wanted } _
  | breakStreams message =>
      refine ⟨_, rfl, ?_⟩
      intro stream
      by_cases ended : stream.hasEnded = true
      · rw [if_pos ended]
        exact ⟨rfl, Or.inl rfl⟩
      · rw [if_neg ended]
        refine ⟨rfl, Or.inr ⟨_, rfl, ?_⟩⟩
        rintro _ ⟨⟩
  | endStreams => exact ⟨_, rfl, fun _ => ⟨rfl, Or.inl rfl⟩⟩

namespace World.Watches

variable {world : World α} {ahead : Nat}

theorem apply (watches : world.Watches namespaceName number ahead) (change : Change α) :
    (world.apply change).Watches namespaceName number (ahead + 1) := by
  obtain ⟨advance, isMap, advances⟩ := advances_apply world change
  constructor
  · intro stream isStream
    rw [isMap, List.getElem?_map, Option.map_eq_some_iff] at isStream
    obtain ⟨earlier, isEarlier, rfl⟩ := isStream
    obtain ⟨inside, queueInside⟩ := watches.inside earlier isEarlier
    obtain ⟨sameLocator, queue⟩ := advances earlier
    rw [sameLocator]
    refine ⟨inside, ?_⟩
    intro event member
    rcases queue with same | ⟨item, more, covered⟩
    · rw [same] at member
      exact queueInside event member
    · rw [more, List.mem_append, List.mem_singleton] at member
      rcases member with held | rfl
      · exact queueInside event held
      · rw [← inside]
        exact Locator.namespaceName_of_covers (covered event rfl)
  · have grows : (world.apply change).queued number ≤ world.queued number + 1 := by
      rw [queued, queued, isMap, List.getElem?_map]
      cases world.streams[number]? with
      | none => exact Nat.zero_le _
      | some stream =>
          rcases (advances stream).2 with same | ⟨item, more, _⟩
          · simp [same]
          · simp [more]
    have bound := watches.ahead
    obtain ⟨_, _, same⟩ := apply_eq world change
    have samePending : (world.apply change).pending = world.pending := by rw [same]
    rw [samePending]
    omega

theorem apply_all (changes : List (Change α)) {world : World α} {ahead : Nat}
    (watches : world.Watches namespaceName number ahead) :
    (changes.foldl World.apply world).Watches namespaceName number (ahead + changes.length) := by
  induction changes generalizing world ahead with
  | nil => exact watches
  | cons change rest inductionHypothesis =>
      have more := inductionHypothesis (watches.apply change)
      rwa [Nat.add_assoc, Nat.add_comm 1] at more

/-- A change that is due is no longer to come. -/
theorem applyDue (watches : world.Watches namespaceName number ahead) :
    world.applyDue.Watches namespaceName number ahead := by
  let due := world.pending.takeWhile fun change => change.1 ≤ world.now
  let later := world.pending.dropWhile fun change => change.1 ≤ world.now
  have all : due.length + later.length = world.pending.length := by
    rw [← List.length_append, List.takeWhile_append_dropWhile]
  have bound := watches.ahead
  have start : { world with pending := later }.Watches namespaceName number
      (ahead - due.length) := by
    refine ⟨watches.inside, ?_⟩
    have same : { world with pending := later }.queued number = world.queued number := rfl
    rw [same]
    simp only
    omega
  have made := start.apply_all (due.map Prod.snd)
  rw [List.length_map, Nat.sub_add_cancel (by omega), List.foldl_map] at made
  exact made

theorem withClock (watches : world.Watches namespaceName number ahead) (clock : Clock) :
    (Clocked.withClock clock world).Watches namespaceName number ahead :=
  ⟨watches.inside, watches.ahead⟩

end World.Watches

/-! ## The next item of a stream -/

section Items

variable {world : World α} {changes : Nat}

/-- The world with the first item of a stream taken from it. -/
def World.fetched (world : World α) (number : Nat) (stream : Stream α)
    (rest : List (Except WaitError (WatchEvent α))) : World α :=
  { world with streams := world.streams.set number { stream with queue := rest } }

private theorem run_nextItem_succ (number changes : Nat) (world : World α) :
    (nextItem number (changes + 1)).run.run world =
      match world.applyDue.streams[number]? with
      | none => (.ok none, world.applyDue)
      | some stream =>
          match stream.queue with
          | item :: rest => (.ok (some item), world.applyDue.fetched number stream rest)
          | [] =>
              if stream.hasEnded then (.ok none, world.applyDue)
              else
                match world.applyDue.pending.head? with
                | none => (stall : Action (World α) (Option _)).run.run world.applyDue
                | some (instant, _) =>
                    (pauseUntil instant >>= fun _ => nextItem number changes).run.run
                      world.applyDue := by
  rw [nextItem, run_modify_bind, run_get_bind]
  cases world.applyDue.streams[number]? with
  | none => rfl
  | some stream =>
      obtain ⟨locator, queue, hasEnded⟩ := stream
      cases queue with
      | cons item rest => rfl
      | nil =>
          cases hasEnded with
          | true => rfl
          | false =>
              cases world.applyDue.pending.head? with
              | none => rfl
              | some entry => rfl

@[simp]
theorem reach_reach (clock : Clock) {first second : Duration} (le : first ≤ second) :
    (clock.reach first).reach second = clock.reach second := by
  unfold Clock.reach
  by_cases past : clock.now ≤ first
  · have pastBoth : clock.now ≤ second := Nat.le_trans past le
    have reached : ({ clock with now := first } : Clock).now ≤ second := le
    rw [if_pos past, if_pos reached, if_pos pastBoth]
  · rw [if_neg past]

@[simp]
theorem horizon_reach (clock : Clock) (instant : Duration) :
    (clock.reach instant).horizon = clock.horizon := by
  unfold Clock.reach
  by_cases past : clock.now ≤ instant
  · rw [if_pos past]
    rfl
  · rw [if_neg past]

/-- The world at a later instant. -/
def World.reach (world : World α) (instant : Duration) : World α :=
  Clocked.withClock (world.toClock.reach instant) world

theorem now_reach {instant : Duration} (later : ¬ instant ≤ world.now) :
    (world.reach instant).now = instant := by
  have past : world.toClock.now ≤ instant := Nat.le_of_not_le later
  have isNow : (world.toClock.reach instant).now = instant := by
    rw [Clock.reach, if_pos past]
  exact isNow

/-- No change is due. -/
def World.IsCalm (world : World α) : Prop :=
  ∀ entry ∈ world.pending, ¬ entry.1 ≤ world.now

theorem World.IsCalm.applyDue_eq (calm : world.IsCalm) : world.applyDue = world := by
  have nothing : world.pending.takeWhile (fun change => change.1 ≤ world.now) = [] ∧
      world.pending.dropWhile (fun change => change.1 ≤ world.now) = world.pending := by
    unfold World.IsCalm at calm
    cases isPending : world.pending with
    | nil => exact ⟨rfl, rfl⟩
    | cons entry rest =>
        rw [isPending] at calm
        have later := calm entry List.mem_cons_self
        simp [later]
  rw [World.applyDue, nothing.1, nothing.2]
  rfl

private theorem isCalm_applyDue (inOrder : InOrder world.pending) : world.applyDue.IsCalm := by
  intro entry member
  rw [pending_applyDue, (inOrder.due_eq world.now).2, List.mem_filter] at member
  rw [now_applyDue]
  simpa using member.2

/-- A stream is open and holds nothing, and no change is due. -/
structure World.Idles (world : World α) (number : Nat) : Prop where
  silent : ∃ stream, world.streams[number]? = some stream ∧ stream.queue = [] ∧
    stream.hasEnded = false
  calm : world.IsCalm

private theorem run_nextItem_idle (idles : world.Idles number) (changes : Nat) :
    (nextItem number (changes + 1)).run.run world =
      match world.pending.head? with
      | none => (.error world.horizon.2, world.reach world.horizon.1)
      | some (instant, _) =>
          if instant ≤ world.horizon.1 then
            (nextItem number changes).run.run (world.reach instant)
          else (.error world.horizon.2, world.reach world.horizon.1) := by
  obtain ⟨stream, isStream, empty, isOpen⟩ := idles.silent
  rw [run_nextItem_succ, idles.calm.applyDue_eq, isStream]
  simp only [empty, isOpen, Bool.false_eq_true, if_false]
  cases isHead : world.pending.head? with
  | none => exact run_stall world
  | some entry =>
      obtain ⟨instant, change⟩ := entry
      have later : ¬ instant ≤ (Clocked.clock world).now :=
        idles.calm (instant, change) (List.mem_of_mem_head? isHead)
      simp only [run_bind, run_pauseUntil, if_neg later]
      have sameHorizon : (Clocked.clock world).horizon = world.horizon := rfl
      rw [sameHorizon]
      by_cases reached : instant ≤ world.horizon.1
      · simp only [if_pos reached]
        rfl
      · simp only [if_neg reached]
        rfl

/-- Nothing happens up to an instant at which something may. -/
theorem run_nextItem_reach (idles : world.Idles number) (inOrder : InOrder world.pending)
    {instant : Duration} (later : ¬ instant ≤ world.now) (reached : instant ≤ world.horizon.1)
    (first : ∀ entry ∈ world.pending, instant ≤ entry.1) {fuel : Nat}
    (enough : world.pending.length < fuel) :
    ∃ fewer, (world.reach instant).applyDue.pending.length < fewer ∧
      (nextItem number fuel).run.run world =
        (nextItem number fewer).run.run (world.reach instant) := by
  have isNow : (world.reach instant).now = instant := now_reach later
  have sameHorizon : (world.reach instant).horizon = world.horizon := horizon_reach _ _
  have again : ∀ {next : Duration}, instant ≤ next →
      (world.reach instant).reach next = world.reach next := by
    intro next le
    have sameClock := reach_reach world.toClock le
    simp only [World.reach, Clocked.withClock, sameClock]
  obtain ⟨changes, rfl⟩ := Nat.exists_eq_add_one.mpr (Nat.zero_lt_of_lt enough)
  have shrinks : (world.reach instant).applyDue.pending.length ≤ world.pending.length :=
    length_pending_applyDue_le _
  by_cases calm : (world.reach instant).IsCalm
  · have idlesThere : (world.reach instant).Idles number := ⟨idles.silent, calm⟩
    refine ⟨changes + 1, by omega, ?_⟩
    rw [run_nextItem_idle idles, run_nextItem_idle idlesThere, sameHorizon, again reached]
    have samePending : (world.reach instant).pending = world.pending := rfl
    rw [samePending]
    cases isHead : world.pending.head? with
    | none => rfl
    | some entry => simp only [again (first entry (List.mem_of_mem_head? isHead))]
  · -- The next change is the one at this instant.
    obtain ⟨entry, member, due⟩ : ∃ entry ∈ world.pending, entry.1 ≤ instant := by
      by_contra none
      exact calm fun entry member due => none ⟨entry, member, isNow ▸ due⟩
    cases isPending : world.pending with
    | nil =>
        rw [isPending] at member
        cases member
    | cons head rest =>
        obtain ⟨next, change⟩ := head
        have atInstant : next = instant := by
          have notLater : next ≤ instant := by
            rw [isPending] at member inOrder
            rcases List.mem_cons.mp member with rfl | inRest
            · exact due
            · exact Nat.le_trans ((List.pairwise_cons.mp inOrder).1 entry inRest) due
          have notEarlier : instant ≤ next :=
            first (next, change) (isPending ▸ List.mem_cons_self)
          exact congrArg Duration.mk (Nat.le_antisymm notLater notEarlier)
        refine ⟨changes, ?_, ?_⟩
        · have there : (world.reach instant).pending = (next, change) :: rest := isPending
          have nextDue : next ≤ instant := atInstant ▸ Nat.le_refl _
          rw [pending_applyDue, there, isNow, List.dropWhile_cons_of_pos (by simpa using nextDue)]
          have fewer := (List.dropWhile_sublist
            (fun change : Duration × Change α => change.1 ≤ instant) (l := rest)).length_le
          rw [isPending, List.length_cons] at enough
          omega
        · rw [run_nextItem_idle idles, isPending]
          simp only [List.head?_cons, atInstant, if_pos reached]

end Items

/-! ## The next item in two clusters -/

section Twins

variable {more room roomRight ahead otherAhead : Nat} {one other : World α}

private theorem forall₂_getElem? {β γ : Type} {related : β → γ → Prop} {left : List β} {right : List γ}
    (all : List.Forall₂ related left right) (index : Nat) :
    Option.Rel related left[index]? right[index]? := by
  induction all generalizing index with
  | nil => exact .none
  | cons first _ inductionHypothesis =>
      cases index with
      | zero => exact .some first
      | succ index => exact inductionHypothesis index

private theorem forall₂_set {β γ : Type} {related : β → γ → Prop} {left : List β} {right : List γ}
    (all : List.Forall₂ related left right) (index : Nat) {entry : β} {otherEntry : γ}
    (same : related entry otherEntry) :
    List.Forall₂ related (left.set index entry) (right.set index otherEntry) := by
  induction all generalizing index with
  | nil => exact .nil
  | cons first rest inductionHypothesis =>
      cases index with
      | zero => exact .cons same rest
      | succ index => exact .cons first (inductionHypothesis index)

/-- Two clusters after their streams were asked for an item: it is the same, and of what the streams
could still hold it is one less. -/
structure Fetched (namespaceName : String) (number more room roomRight ahead otherAhead : Nat)
    (item otherItem : Option (Except WaitError (WatchEvent α))) (after otherAfter : World α) :
    Prop where
  same : item = otherItem
  coupled : Coupled namespaceName more room roomRight after otherAfter
  watches : item.isSome = true →
    ∃ left, ahead = left + 1 ∧ after.Watches namespaceName number left
  watchesRight : item.isSome = true →
    ∃ left, otherAhead = left + 1 ∧ otherAfter.Watches namespaceName number left
  inside : ∀ event, item = some (.ok event) → (key event.object).namespaceName = namespaceName

private theorem World.Watches.fetched {world : World α} {stream : Stream α}
    {item : Except WaitError (WatchEvent α)} {rest : List (Except WaitError (WatchEvent α))}
    (watches : world.Watches namespaceName number ahead)
    (isStream : world.streams[number]? = some stream) (queue : stream.queue = item :: rest) :
    ∃ left, ahead = left + 1 ∧ (world.fetched number stream rest).Watches namespaceName number
      left := by
  have bound := watches.ahead
  rw [World.queued, isStream, Option.map_some, Option.getD_some, queue, List.length_cons] at bound
  obtain ⟨valid, _⟩ := List.getElem?_eq_some_iff.mp isStream
  have isSet : (world.fetched number stream rest).streams[number]? =
      some { stream with queue := rest } := by
    simp [World.fetched, valid]
  obtain ⟨inside, queueInside⟩ := watches.inside stream isStream
  refine ⟨ahead - 1, by omega, ?_, ?_⟩
  · intro set isSetStream
    rw [isSet, Option.some.injEq] at isSetStream
    rw [← isSetStream]
    refine ⟨inside, ?_⟩
    intro event member
    exact queueInside event (queue ▸ List.mem_cons_of_mem item member)
  · rw [World.queued, isSet, Option.map_some, Option.getD_some]
    have samePending : (world.fetched number stream rest).pending = world.pending := rfl
    rw [samePending]
    simp only
    omega

private theorem Coupled.fetched {stream otherStream : Stream α}
    {rest : List (Except WaitError (WatchEvent α))}
    (coupled : Coupled namespaceName more room roomRight one other)
    (same : stream.LooksAlike namespaceName otherStream) :
    Coupled namespaceName more room roomRight (one.fetched number stream rest)
      (other.fetched number otherStream rest) :=
  { coupled with
    alike :=
      { coupled.alike with
        streams := forall₂_set coupled.alike.streams number
          ⟨same.locator, same.hasEnded, fun _ => rfl⟩ } }

/-- One of several changes comes first. -/
theorem exists_first {β : Type} {changes : List (Duration × β)} (some : changes ≠ []) :
    ∃ entry ∈ changes, ∀ later ∈ changes, entry.1 ≤ later.1 := by
  induction changes with
  | nil => exact absurd rfl some
  | cons head rest inductionHypothesis =>
      by_cases alone : rest = []
      · refine ⟨head, List.mem_cons_self, ?_⟩
        intro later member
        rw [alone, List.mem_singleton] at member
        exact member ▸ Nat.le_refl _
      · obtain ⟨entry, member, first⟩ := inductionHypothesis alone
        by_cases before : head.1 ≤ entry.1
        · refine ⟨head, List.mem_cons_self, ?_⟩
          intro later laterMember
          rcases List.mem_cons.mp laterMember with rfl | inRest
          · exact Nat.le_refl _
          · exact Nat.le_trans before (first later inRest)
        · refine ⟨entry, List.mem_cons_of_mem head member, ?_⟩
          intro later laterMember
          rcases List.mem_cons.mp laterMember with rfl | inRest
          · exact Nat.le_of_not_le before
          · exact first later inRest

private theorem run_nextItem_of_late (idles : one.Idles number) {fuel : Nat} (enough : 0 < fuel)
    (late : ∀ entry ∈ one.pending, ¬ entry.1 ≤ one.horizon.1) :
    (nextItem number fuel).run.run one = (.error one.horizon.2, one.reach one.horizon.1) := by
  obtain ⟨changes, rfl⟩ := Nat.exists_eq_add_one.mpr enough
  rw [run_nextItem_idle idles]
  cases isHead : one.pending.head? with
  | none => rfl
  | some entry => simp only [if_neg (late entry (List.mem_of_mem_head? isHead))]

theorem Coupled.reach (coupled : Coupled namespaceName more room roomRight one other)
    (instant : Duration) :
    Coupled namespaceName more room roomRight (one.reach instant) (other.reach instant) := by
  have sameClock := clock_eq coupled
  have reached := coupled.withClock (one.toClock.reach instant)
  have isClock : other.toClock = one.toClock := sameClock
  rw [World.reach, World.reach, isClock]
  exact reached

theorem pending_reach (world : World α) {instant : Duration} (later : ¬ instant ≤ world.now)
    (inOrder : InOrder world.pending) :
    (world.reach instant).applyDue.pending =
      world.pending.filter fun entry => !(entry.1 ≤ instant) := by
  rw [pending_applyDue, now_reach later]
  exact (inOrder.due_eq instant).2

/-- Where both streams hold nothing, both waits go on from the next instant at which something
happens in either cluster, or both are over before. -/
theorem meets_nextItem_idle
    {related : Option (Except WaitError (WatchEvent α)) →
      Option (Except WaitError (WatchEvent α)) → World α → World α → Prop}
    (coupled : Coupled namespaceName more room roomRight one other) (idles : one.Idles number)
    (idlesRight : other.Idles number) {fuel otherFuel : Nat} (enough : one.pending.length < fuel)
    (enoughRight : other.pending.length < otherFuel)
    (goesOn : ∀ instant fewer otherFewer,
      (one.reach instant).applyDue.pending.length < fewer →
      (other.reach instant).applyDue.pending.length < otherFewer →
      (one.reach instant).applyDue.pending.length + (other.reach instant).applyDue.pending.length <
        one.pending.length + other.pending.length →
      Meets (Coupled namespaceName more room roomRight) related (nextItem number fewer)
        (nextItem number otherFewer) (one.reach instant) (other.reach instant)) :
    Meets (Coupled namespaceName more room roomRight) related (nextItem number fuel)
      (nextItem number otherFuel) one other := by
  have isClock : other.toClock = one.toClock := clock_eq coupled
  by_cases something : ∃ entry ∈ one.pending ++ other.pending, entry.1 ≤ one.horizon.1
  · obtain ⟨early, earlyMember, inTime⟩ := something
    obtain ⟨entry, member, first⟩ := exists_first (List.ne_nil_of_mem earlyMember)
    have reached : entry.1 ≤ one.horizon.1 := Nat.le_trans (first early earlyMember) inTime
    have later : ¬ entry.1 ≤ one.now := by
      rcases List.mem_append.mp member with inOne | inOther
      · exact idles.calm entry inOne
      · have calm := idlesRight.calm entry inOther
        rwa [isClock] at calm
    have laterRight : ¬ entry.1 ≤ other.now := by rwa [isClock]
    have reachedRight : entry.1 ≤ other.horizon.1 := by rwa [isClock]
    have inOrder := coupled.alike.inOrder
    have inOrderRight := coupled.alike.inOrderRight
    obtain ⟨fewer, enoughFewer, goes⟩ := run_nextItem_reach idles inOrder later reached
      (fun next inOne => first next (List.mem_append_left _ inOne)) enough
    obtain ⟨otherFewer, enoughOther, goesRight⟩ := run_nextItem_reach idlesRight inOrderRight
      laterRight reachedRight (fun next inOther => first next (List.mem_append_right _ inOther))
      enoughRight
    refine (goesOn entry.1 fewer otherFewer enoughFewer enoughOther ?_).of_run_eq goes goesRight
    rw [pending_reach one later inOrder, pending_reach other laterRight inOrderRight]
    -- The change at this instant is no longer to come in the one cluster or in the other.
    have fewerOf : ∀ changes : List (Duration × Change α),
        (changes.filter fun next => !(next.1 ≤ entry.1)).length ≤ changes.length :=
      fun changes => List.length_filter_le _ changes
    have lessOf : ∀ changes : List (Duration × Change α), entry ∈ changes →
        (changes.filter fun next => !(next.1 ≤ entry.1)).length < changes.length := by
      intro changes inChanges
      have atInstant : entry.1 ≤ entry.1 := Nat.le_refl _
      exact List.length_filter_lt_length_iff_exists.mpr ⟨entry, inChanges, by simp [atInstant]⟩
    rcases List.mem_append.mp member with inOne | inOther
    · exact Nat.add_lt_add_of_lt_of_le (lessOf _ inOne) (fewerOf _)
    · exact Nat.add_lt_add_of_le_of_lt (fewerOf _) (lessOf _ inOther)
  · have late : ∀ entry ∈ one.pending, ¬ entry.1 ≤ one.horizon.1 := by
      intro entry member inTime
      exact something ⟨entry, List.mem_append_left _ member, inTime⟩
    have lateRight : ∀ entry ∈ other.pending, ¬ entry.1 ≤ other.horizon.1 := by
      intro entry member inTime
      rw [isClock] at inTime
      exact something ⟨entry, List.mem_append_right _ member, inTime⟩
    have ends := run_nextItem_of_late idles (Nat.zero_lt_of_lt enough) late
    have endsRight := run_nextItem_of_late idlesRight (Nat.zero_lt_of_lt enoughRight) lateRight
    rw [isClock] at endsRight
    exact .of_error ends endsRight (coupled.reach _)

/-- What is due can be done before or by the wait for an item. -/
theorem run_nextItem_applyDue (inOrder : InOrder one.pending) {fuel : Nat} (enough : 0 < fuel) :
    (nextItem number fuel).run.run one = (nextItem number fuel).run.run one.applyDue := by
  obtain ⟨changes, rfl⟩ := Nat.exists_eq_add_one.mpr enough
  rw [run_nextItem_succ, run_nextItem_succ, (isCalm_applyDue inOrder).applyDue_eq]

/-- Where nothing is due, both streams deliver the same at once, or both hold nothing. -/
theorem meets_nextItem_or_idles (coupled : Coupled namespaceName more room roomRight one other)
    (watches : one.Watches namespaceName number ahead)
    (watchesRight : other.Watches namespaceName number otherAhead) (calm : one.IsCalm)
    (calmRight : other.IsCalm) (changes otherChanges : Nat) :
    Meets (Coupled namespaceName more room roomRight)
        (Fetched namespaceName number more room roomRight ahead otherAhead)
        (nextItem number (changes + 1)) (nextItem number (otherChanges + 1)) one other ∨
      one.Idles number ∧ other.Idles number := by
  have ends := run_nextItem_succ number changes one
  have endsRight := run_nextItem_succ number otherChanges other
  have sameStream := forall₂_getElem? coupled.alike.streams number
  rw [calm.applyDue_eq] at ends
  rw [calmRight.applyDue_eq] at endsRight
  match isStream : one.streams[number]?, isOther : other.streams[number]?, sameStream with
  | none, none, .none =>
      rw [isStream] at ends
      rw [isOther] at endsRight
      exact Or.inl (.of_ok ends endsRight ⟨rfl, coupled, nofun, nofun, nofun⟩)
  | some stream, some otherStream, .some same =>
      rw [isStream] at ends
      rw [isOther] at endsRight
      obtain ⟨inside, queueInside⟩ := watches.inside stream isStream
      have sameQueue := same.queue inside
      cases queue : stream.queue with
      | cons item rest =>
          rw [queue, eq_comm] at sameQueue
          simp only [queue] at ends
          simp only [sameQueue] at endsRight
          refine Or.inl (.of_ok ends endsRight
            { same := rfl
              coupled := coupled.fetched same
              watches := fun _ => watches.fetched isStream queue
              watchesRight := fun _ => watchesRight.fetched isOther sameQueue
              inside := ?_ })
          rintro event ⟨⟩
          exact queueInside event (queue ▸ List.mem_cons_self)
      | nil =>
          rw [queue, eq_comm] at sameQueue
          by_cases ended : stream.hasEnded = true
          · simp only [queue, if_pos ended] at ends
            simp only [sameQueue, ← same.hasEnded, if_pos ended] at endsRight
            exact Or.inl (.of_ok ends endsRight ⟨rfl, coupled, nofun, nofun, nofun⟩)
          · have isOpen := Bool.eq_false_iff.mpr ended
            exact Or.inr ⟨⟨⟨_, isStream, queue, isOpen⟩, calm⟩,
              ⟨_, isOther, sameQueue, same.hasEnded ▸ isOpen⟩, calmRight⟩

private theorem meets_nextItem_calm {steps : Nat}
    (coupled : Coupled namespaceName more room roomRight one other)
    (watches : one.Watches namespaceName number ahead)
    (watchesRight : other.Watches namespaceName number otherAhead) (calm : one.IsCalm)
    (calmRight : other.IsCalm) {fuel otherFuel : Nat} (enough : one.pending.length < fuel)
    (enoughRight : other.pending.length < otherFuel)
    (bound : one.pending.length + other.pending.length < steps) :
    Meets (Coupled namespaceName more room roomRight)
      (Fetched namespaceName number more room roomRight ahead otherAhead)
      (nextItem number fuel) (nextItem number otherFuel) one other := by
  induction steps generalizing one other fuel otherFuel with
  | zero => exact absurd bound (Nat.not_lt_zero _)
  | succ steps inductionHypothesis =>
      obtain ⟨changes, rfl⟩ := Nat.exists_eq_add_one.mpr (Nat.zero_lt_of_lt enough)
      obtain ⟨otherChanges, rfl⟩ := Nat.exists_eq_add_one.mpr (Nat.zero_lt_of_lt enoughRight)
      rcases meets_nextItem_or_idles coupled watches watchesRight calm calmRight changes
        otherChanges with meets | ⟨idles, idlesRight⟩
      · exact meets
      · refine meets_nextItem_idle coupled idles idlesRight enough enoughRight ?_
        intro instant fewer otherFewer enoughFewer enoughOther less
        have reached := coupled.reach instant
        have inOrder := reached.alike.inOrder
        have inOrderRight := reached.alike.inOrderRight
        have meets := inductionHypothesis reached.applyDue (watches.withClock _).applyDue
          (watchesRight.withClock _).applyDue (isCalm_applyDue inOrder)
          (isCalm_applyDue inOrderRight) enoughFewer enoughOther (by omega)
        exact meets.of_run_eq (run_nextItem_applyDue inOrder (Nat.zero_lt_of_lt enoughFewer))
          (run_nextItem_applyDue inOrderRight (Nat.zero_lt_of_lt enoughOther))

/-- Two streams that watch the namespace deliver the same next. -/
theorem meets_nextItem (coupled : Coupled namespaceName more room roomRight one other)
    (watches : one.Watches namespaceName number ahead)
    (watchesRight : other.Watches namespaceName number otherAhead) {fuel otherFuel : Nat}
    (enough : one.pending.length < fuel) (enoughRight : other.pending.length < otherFuel) :
    Meets (Coupled namespaceName more room roomRight)
      (Fetched namespaceName number more room roomRight ahead otherAhead)
      (nextItem number fuel) (nextItem number otherFuel) one other := by
  have inOrder := coupled.alike.inOrder
  have inOrderRight := coupled.alike.inOrderRight
  have meets := meets_nextItem_calm coupled.applyDue watches.applyDue watchesRight.applyDue
    (isCalm_applyDue inOrder) (isCalm_applyDue inOrderRight)
    (Nat.lt_of_le_of_lt (length_pending_applyDue_le one) enough)
    (Nat.lt_of_le_of_lt (length_pending_applyDue_le other) enoughRight) (Nat.lt_succ_self _)
  exact meets.of_run_eq (run_nextItem_applyDue inOrder (Nat.zero_lt_of_lt enough))
    (run_nextItem_applyDue inOrderRight (Nat.zero_lt_of_lt enoughRight))

/-! ## The operations of a wait -/

variable {locator : Locator} {deadline : Duration}

/-- Both clusters have been asked for their objects. -/
structure Listed (namespaceName : String) (more room roomRight : Nat)
    (found otherFound : Except WaitError (List α)) (after otherAfter : World α) : Prop where
  same : found = otherFound
  coupled : Coupled namespaceName more room roomRight after otherAfter
  inside : ∀ objects, found = .ok objects →
    ∀ object ∈ objects, (key object).namespaceName = namespaceName

/-- In both clusters a stream has been opened, by which the namespace is watched. -/
structure Subscribed (namespaceName : String) (more room roomRight : Nat)
    (opened otherOpened : Except WaitError Nat) (after otherAfter : World α) : Prop where
  same : opened = otherOpened
  coupled : Coupled namespaceName more room roomRight after otherAfter
  watches : ∀ number, opened = .ok number → after.Watches namespaceName number room
  watchesRight : ∀ number, opened = .ok number → otherAfter.Watches namespaceName number roomRight

private theorem meets_current (coupled : Coupled namespaceName more room roomRight one other)
    (inside : locator.namespaceName = namespaceName) :
    Meets (Coupled namespaceName more room roomRight)
      (BothTimely (Listed namespaceName more room roomRight)
        (Coupled namespaceName more room roomRight))
      (watchSource.current locator deadline) (watchSource.current locator deadline) one other := by
  refine meets_within coupled deadline ?_ ?_
  · intro clock
    have asked : Meets (Coupled namespaceName more room roomRight)
        (fun (found otherFound : Except (Locator → WaitError) (List α)) after otherAfter =>
          Listed namespaceName more room roomRight (found.mapError (· locator))
            (otherFound.mapError (· locator)) after otherAfter)
        (collaborate (.current locator) do return .ok ((← get).store.located locator))
        (collaborate (.current locator) do return .ok ((← get).store.located locator))
        (Clocked.withClock clock one) (Clocked.withClock clock other) := by
      have named : (Call.current locator : Call α).NamesOnly namespaceName := inside
      refine meets_read (coupled.withClock clock) named rfl ?_ ?_
      · intro trouble after otherAfter coupled
        exact ⟨rfl, coupled, nofun⟩
      · intro one other coupled
        have sameObjects : one.store.located locator = other.store.located locator :=
          (inside ▸ coupled.alike.store : one.store.LooksAlike locator.namespaceName
            other.store).located_eq
        refine .of_ok rfl rfl ⟨?_, coupled, ?_⟩
        · rw [sameObjects]
        · rintro objects ⟨⟩ object member
          have covered := (List.mem_filter.mp member).2
          exact (Locator.namespaceName_of_covers covered).trans inside
    refine asked.bind ?_
    intro _ _ _ _ _ _ listed
    exact listed
  · intro found otherFound after otherAfter clock listed
    exact ⟨clock_eq listed.coupled, listed.same, listed.coupled.withClock clock, listed.inside⟩

/-- The world with one more stream. -/
def World.opened (world : World α) (locator : Locator) : World α :=
  { world with streams := world.streams ++ [{ locator := locator }] }

/-- A stream that is new holds nothing. -/
theorem watches_opened (inside : locator.namespaceName = namespaceName)
    (bound : one.pending.length ≤ ahead) :
    (one.opened locator).Watches namespaceName one.streams.length ahead := by
  have isOpened : (one.opened locator).streams[one.streams.length]? =
      some { locator := locator } := List.getElem?_concat_length
  constructor
  · intro stream isStream
    rw [isOpened, Option.some.injEq] at isStream
    rw [← isStream]
    exact ⟨inside, nofun⟩
  · rw [World.queued, isOpened]
    exact (Nat.zero_add _).symm ▸ bound

theorem Coupled.opened (coupled : Coupled namespaceName more room roomRight one other)
    (locator : Locator) :
    Coupled namespaceName more room roomRight (one.opened locator) (other.opened locator) := by
  have same : Stream.LooksAlike namespaceName ({ locator := locator } : Stream α)
      { locator := locator } := ⟨rfl, rfl, fun _ => rfl⟩
  exact
    { coupled with
      alike :=
        { coupled.alike with
          streams := List.rel_append coupled.alike.streams (.cons same .nil) } }

private theorem meets_subscribe (coupled : Coupled namespaceName more room roomRight one other)
    (inside : locator.namespaceName = namespaceName) :
    Meets (Coupled namespaceName more room roomRight)
      (BothTimely (Subscribed namespaceName more room roomRight)
        (Coupled namespaceName more room roomRight))
      (watchSource.subscribe locator deadline) (watchSource.subscribe locator deadline) one
      other := by
  refine meets_within coupled deadline ?_ ?_
  · intro clock
    have asked : Meets (Coupled namespaceName more room roomRight)
        (fun (opened otherOpened : Except (Locator → WaitError) Nat) after otherAfter =>
          Subscribed namespaceName more room roomRight (opened.mapError (· locator))
            (otherOpened.mapError (· locator)) after otherAfter)
        (collaborate (.subscribe locator) (.ok <$> openStream locator))
        (collaborate (.subscribe locator) (.ok <$> openStream locator))
        (Clocked.withClock clock one) (Clocked.withClock clock other) := by
      have named : (Call.subscribe locator : Call α).NamesOnly namespaceName := inside
      refine meets_read (coupled.withClock clock) named rfl ?_ ?_
      · intro trouble after otherAfter coupled
        exact ⟨rfl, coupled, nofun, nofun⟩
      · intro one other coupled
        have sameNumber := coupled.alike.streams.length_eq
        refine .of_ok rfl rfl ⟨?_, coupled.opened locator, ?_, ?_⟩
        · rw [sameNumber]
        · rintro _ ⟨⟩
          exact watches_opened inside coupled.pending
        · rintro _ ⟨⟩
          rw [sameNumber]
          exact watches_opened inside coupled.pendingRight
    refine asked.bind ?_
    intro _ _ _ _ _ _ subscribed
    exact subscribed
  · intro opened otherOpened after otherAfter clock subscribed
    exact ⟨clock_eq subscribed.coupled, subscribed.same, subscribed.coupled.withClock clock,
      fun number isOpen => (subscribed.watches number isOpen).withClock clock,
      fun number isOpen => (subscribed.watchesRight number isOpen).withClock clock⟩

private theorem meets_next (coupled : Coupled namespaceName more room roomRight one other)
    (watches : one.Watches namespaceName number ahead)
    (watchesRight : other.Watches namespaceName number otherAhead) :
    Meets (Coupled namespaceName more room roomRight)
      (BothTimely (Fetched namespaceName number more room roomRight ahead otherAhead)
        (Coupled namespaceName more room roomRight))
      (watchSource.next number deadline) (watchSource.next number deadline) one other := by
  refine meets_within coupled deadline ?_ ?_
  · intro clock
    exact (meets_nextItem (coupled.withClock clock) (watches.withClock clock)
      (watchesRight.withClock clock) (Nat.lt_succ_self _) (Nat.lt_succ_self _)).of_run_eq rfl rfl
  · intro item otherItem after otherAfter clock fetched
    refine ⟨clock_eq fetched.coupled, fetched.same, fetched.coupled.withClock clock, ?_, ?_,
      fetched.inside⟩
    · intro isItem
      obtain ⟨left, isAhead, watchesOn⟩ := fetched.watches isItem
      exact ⟨left, isAhead, watchesOn.withClock clock⟩
    · intro isItem
      obtain ⟨left, isAhead, watchesOn⟩ := fetched.watchesRight isItem
      exact ⟨left, isAhead, watchesOn.withClock clock⟩

/-! ## The whole wait -/

/-- Both waits are over in the same way, with an object of the namespace if with any. -/
structure Awaited (namespaceName : String) (more room roomRight : Nat)
    (result otherResult : Option (Wait.End α)) (after otherAfter : World α) : Prop where
  same : result = otherResult
  coupled : Coupled namespaceName more room roomRight after otherAfter
  inside : ∀ object, result = some (.met object) → (key object).namespaceName = namespaceName

private theorem meets_timedOut {start : Duration}
    (coupled : Coupled namespaceName more room roomRight one other) :
    Meets (Coupled namespaceName more room roomRight) (Awaited namespaceName more room roomRight)
      (some <$> Wait.timedOut watchSource locator start)
      (some <$> Wait.timedOut watchSource locator start) one other := by
  have ends : ∀ world : World α,
      (some <$> Wait.timedOut watchSource locator start :
        Action (World α) (Option (Wait.End α))).run.run world =
        (.ok (some (.failed (.timedOut locator ((Clocked.clock world).now - start)))), world) :=
    fun _ => rfl
  refine .of_ok (ends one) (ends other) ⟨?_, coupled, nofun⟩
  rw [clock_eq coupled]

private theorem meets_listen {condition : α → Bool} {start : Duration} {events otherEvents : Nat}
    (coupled : Coupled namespaceName more room roomRight one other)
    (watches : one.Watches namespaceName number ahead)
    (watchesRight : other.Watches namespaceName number otherAhead) (enough : ahead < events)
    (enoughRight : otherAhead < otherEvents) :
    Meets (Coupled namespaceName more room roomRight) (Awaited namespaceName more room roomRight)
      (Wait.listen watchSource (fun object => return condition object) locator start deadline number
        events)
      (Wait.listen watchSource (fun object => return condition object) locator start deadline number
        otherEvents) one other := by
  induction events generalizing one other ahead otherAhead otherEvents with
  | zero => exact absurd enough (Nat.not_lt_zero _)
  | succ events inductionHypothesis =>
      obtain ⟨otherEvents, rfl⟩ := Nat.exists_eq_add_one.mpr (Nat.zero_lt_of_lt enoughRight)
      rw [Wait.listen, Wait.listen]
      refine (meets_next coupled watches watchesRight).bind ?_
      intro _ _ _ _ _ _ timely
      cases timely with
      | late coupled => exact meets_timedOut coupled
      | @inTime item otherItem after otherAfter fetched =>
          obtain rfl := fetched.same
          match item with
          | none => exact .of_ok rfl rfl ⟨rfl, fetched.coupled, nofun⟩
          | some (.error error) => exact .of_ok rfl rfl ⟨rfl, fetched.coupled, nofun⟩
          | some (.ok event) =>
              simp only [pure_bind]
              by_cases meets : condition event.object = true
              · simp only [if_pos meets]
                refine .of_ok rfl rfl ⟨rfl, fetched.coupled, ?_⟩
                rintro object ⟨⟩
                exact fetched.inside event rfl
              · simp only [if_neg meets]
                obtain ⟨left, rfl, watchesOn⟩ := fetched.watches rfl
                obtain ⟨otherLeft, rfl, watchesOnRight⟩ := fetched.watchesRight rfl
                exact inductionHypothesis fetched.coupled watchesOn watchesOnRight
                  (Nat.lt_of_succ_lt_succ enough) (Nat.lt_of_succ_lt_succ enoughRight)

@[simp]
theorem run_firstMeeting (condition : α → Bool) (objects : List α) :
    Wait.firstMeeting (fun object => (return condition object : Action (World α) Bool)) objects =
      pure (objects.find? condition) := by
  induction objects with
  | nil => rfl
  | cons object rest inductionHypothesis =>
      rw [Wait.firstMeeting, pure_bind]
      by_cases meets : condition object = true
      · rw [if_pos meets, List.find?_cons_of_pos meets]
      · rw [if_neg meets, List.find?_cons_of_neg meets, inductionHypothesis]

theorem meets_run {condition : α → Bool} {timeout : Duration} {events otherEvents : Nat}
    (coupled : Coupled namespaceName more room roomRight one other)
    (inside : locator.namespaceName = namespaceName) (enough : room < events)
    (enoughRight : roomRight < otherEvents) :
    Meets (Coupled namespaceName more room roomRight) (Awaited namespaceName more room roomRight)
      (Wait.run watchSource (fun object => return condition object) locator timeout events)
      (Wait.run watchSource (fun object => return condition object) locator timeout otherEvents)
      one other := by
  have started : Meets (Coupled namespaceName more room roomRight)
      (fun now otherNow after otherAfter => now = otherNow ∧
        Coupled namespaceName more room roomRight after otherAfter)
      (watchSource : WatchSource (Action (World α)) Nat α).now watchSource.now one other :=
    .of_ok rfl rfl ⟨congrArg Clock.now (clock_eq coupled).symm, coupled⟩
  rw [Wait.run, Wait.run]
  refine started.bind ?_
  rintro start _ _ _ _ _ ⟨rfl, coupled⟩
  cases Wait.deadline? start timeout with
  | none => exact .of_ok rfl rfl ⟨rfl, coupled, nofun⟩
  | some deadline =>
      refine (meets_current coupled inside).bind ?_
      intro _ _ _ _ _ _ timely
      cases timely with
      | late coupled => exact meets_timedOut coupled
      | @inTime found _ _ _ listed =>
          obtain rfl := listed.same
          match found with
          | .error error => exact .of_ok rfl rfl ⟨rfl, listed.coupled, nofun⟩
          | .ok objects =>
              simp only [run_firstMeeting, pure_bind]
              cases isFirst : objects.find? condition with
              | some object =>
                  refine .of_ok rfl rfl ⟨rfl, listed.coupled, ?_⟩
                  rintro _ ⟨⟩
                  exact listed.inside objects rfl object (List.mem_of_find?_eq_some isFirst)
              | none =>
                  refine (meets_subscribe listed.coupled inside).bind ?_
                  intro _ _ _ _ _ _ timely
                  cases timely with
                  | late coupled => exact meets_timedOut coupled
                  | @inTime opened _ _ _ subscribed =>
                      obtain rfl := subscribed.same
                      match opened with
                      | .error error => exact .of_ok rfl rfl ⟨rfl, subscribed.coupled, nofun⟩
                      | .ok number =>
                          exact meets_listen subscribed.coupled (subscribed.watches number rfl)
                            (subscribed.watchesRight number rfl) enough enoughRight

/-- A wait for objects of the namespace ends alike in two clusters that look alike from there. -/
theorem meets_waitFor {condition : α → Bool} {timeout : Duration}
    (coupled : Coupled namespaceName more room roomRight one other)
    (inside : locator.namespaceName = namespaceName) :
    Meets (Coupled namespaceName more room roomRight)
      (fun result otherResult after otherAfter => result = otherResult ∧
        Coupled namespaceName more room roomRight after otherAfter ∧
        ∀ object, result = .met object → (key object).namespaceName = namespaceName)
      (waitFor (fun object => return condition object) locator timeout)
      (waitFor (fun object => return condition object) locator timeout) one other := by
  have narrowed : Coupled namespaceName more one.pending.length other.pending.length one other :=
    { coupled with pending := Nat.le_refl _, pendingRight := Nat.le_refl _ }
  unfold waitFor
  refine Meets.of_run_eq ?_ (run_get_bind _ one) (run_get_bind _ other)
  have waited : Meets _ (Awaited namespaceName more one.pending.length other.pending.length)
      (Wait.run watchSource (fun object => return condition object) locator timeout
        (one.pending.length + 1))
      (Wait.run watchSource (fun object => return condition object) locator timeout
        (other.pending.length + 1)) one other :=
    meets_run narrowed inside (Nat.lt_succ_self _) (Nat.lt_succ_self _)
  have widened : ∀ {after otherAfter : World α},
      Coupled namespaceName more one.pending.length other.pending.length after otherAfter →
      Coupled namespaceName more room roomRight after otherAfter := fun coupledAfter =>
    { coupledAfter with
      pending := Nat.le_trans coupledAfter.pending coupled.pending
      pendingRight := Nat.le_trans coupledAfter.pendingRight coupled.pendingRight }
  refine (waited.mono (fun _ _ => widened) fun _ _ _ _ awaited => awaited).bind ?_
  intro result _ _ _ _ _ awaited
  obtain rfl := awaited.same
  cases result with
  | none => exact meets_stall (widened awaited.coupled)
  | some result =>
      have closed := widened awaited.coupled
      refine .of_ok rfl rfl
        ⟨rfl, { closed with alike := { closed.alike with streams := .nil } }, ?_⟩
      rintro object rfl
      exact awaited.inside object rfl

end Twins

end Provisioning.Rehearsal
