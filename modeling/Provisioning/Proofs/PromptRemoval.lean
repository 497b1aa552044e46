import Mathlib.Data.List.Nodup
import Provisioning.Proofs.Polling
import Provisioning.Proofs.RemovalTime

/-!
# The removal of pods from a store that answers at once

Where no call takes time, the answers of the store tell all that a removal does: which calls it
makes, one after another, what it ends with, and when.  There are three ways for it to go.  The
first listing fails; a deletion fails; or all deletions succeed, and the pods are looked for every
half second.

Main statement: what a removal does in each of these cases, and that it deletes no pod but those of
the first listing, and none twice (`removeAndWait_ends`).
-/

namespace Provisioning

/-! ## Stores that answer at once -/

/-- A pod store whose calls take no time: what every listing and every deletion is answered. -/
structure PromptStore where
  lists : Nat → Except Failure (List Pod)
  deletions : Nat → Except Failure Unit

namespace PromptStore

def script (store : PromptStore) : PodScript where
  lists listing := some (⟨0⟩, store.lists listing)
  deletions deletion := some (⟨0⟩, store.deletions deletion)

private theorem lists_script {store : PromptStore} {listing : Nat} {answer : Except Failure (List Pod)}
    (listed : store.lists listing = answer) :
    store.script.lists listing = some (⟨0⟩, answer) := by
  rw [← listed]
  rfl

private theorem deletions_script {store : PromptStore} {deletion : Nat} {answer : Except Failure Unit}
    (deleted : store.deletions deletion = answer) :
    store.script.deletions deletion = some (⟨0⟩, answer) := by
  rw [← deleted]
  rfl

/-- What a removal finds while it waits for the end of the pods, after its first listing. -/
def looks (store : PromptStore) (look : Nat) : TimedCheck :=
  ⟨⟨0⟩, (store.lists (look + 1)).map (·.isEmpty)⟩

end PromptStore

/-- The namespace and the name of what a call deletes. -/
def PodCall.deleted? : PodCall → Option (String × String)
  | .delete namespaceName name => some (namespaceName, name)
  | _ => none

namespace PodOperation

open PodScript (Stage)

variable {settings : Settings} {namespaceName : String} {labels : Labels} {poll : Poll}
  {store : PromptStore} {clock : Duration}

/-! ## The looks at what is left -/

/-- The calls of a wait for the end of pods that sleeps as often as given. -/
def lookRequests (namespaceName : String) (labels : Labels) (interval : Duration) :
    Nat → List PodCall
  | 0 => [.list namespaceName labels, .now]
  | sleeps + 1 => .list namespaceName labels :: .now :: .sleep interval ::
      lookRequests namespaceName labels interval sleeps

/-- One look, and what is left of the wait after it. -/
theorem goes_look (namespaceName : String) (labels : Labels) (poll : Poll) (store : PromptStore)
    (clock : Duration) (look deletions checks : Nat) :
    (repeatRemoval namespaceName labels poll clock (checks + 1)).Goes store.script.Answers
      ⟨clock + poll.beginning store.looks look, look + 1, deletions⟩
      [⟨.list namespaceName labels, store.lists (look + 1)⟩,
        ⟨.now, clock + poll.answered store.looks look⟩]
      (match poll.afterCheck (poll.answered store.looks look) (store.looks look).answer with
        | some result => .done (some result)
        | none => .call (.sleep poll.interval) fun _ =>
            repeatRemoval namespaceName labels poll clock checks)
      ⟨clock + poll.answered store.looks look, look + 2, deletions⟩ := by
  have elapsed : clock + poll.answered store.looks look - clock = poll.answered store.looks look :=
    congrArg Duration.mk (Nat.add_sub_cancel_left _ _)
  rw [repeatRemoval_succ]
  refine .call ⟨⟨0⟩, rfl, rfl⟩ (.call ⟨rfl, rfl⟩ ?_)
  rw [elapsed]
  exact .still _ _

/-- From any look the wait goes on up to the last one. -/
theorem goes_looks (namespaceName : String) (labels : Labels) (clock : Duration)
    (deletions spare : Nat) {look sleeps : Nat} {result : Except Failure Unit}
    (isLast : poll.IsLast store.looks (look + sleeps))
    (checked : poll.afterCheck (poll.answered store.looks (look + sleeps))
      (store.looks (look + sleeps)).answer = some result) :
    ∃ exchanges,
      exchanges.map (·.request) = lookRequests namespaceName labels poll.interval sleeps ∧
      (repeatRemoval namespaceName labels poll clock (spare + 1 + sleeps)).Goes store.script.Answers
        ⟨clock + poll.beginning store.looks look, look + 1, deletions⟩ exchanges
        (.done (some result))
        ⟨clock + poll.answered store.looks (look + sleeps), look + sleeps + 2, deletions⟩ := by
  induction sleeps generalizing look with
  | zero =>
      have looks := goes_look namespaceName labels poll store clock look deletions spare
      rw [Nat.add_zero] at checked
      simp only [checked] at looks
      exact ⟨_, rfl, looks⟩
  | succ sleeps inductionHypothesis =>
      have goesOn := Poll.not_endsAt_iff.mp (isLast.goesOn look (by omega))
      have looks := goes_look namespaceName labels poll store clock look deletions
        (spare + 1 + sleeps)
      simp only [goesOn] at looks
      have sameLook : look + (sleeps + 1) = look + 1 + sleeps := by omega
      rw [sameLook] at isLast checked ⊢
      obtain ⟨exchanges, areLooks, others⟩ := inductionHypothesis isLast checked
      have wakes : (⟨clock + poll.answered store.looks look, look + 2, deletions⟩ : Stage).after
          poll.interval =
            ⟨clock + poll.beginning store.looks (look + 1), look + 1 + 1, deletions⟩ :=
        congrArg (Stage.mk · _ _) (congrArg Duration.mk (Nat.add_assoc _ _ _))
      have slept : (Program.call (.sleep poll.interval) fun _ =>
          repeatRemoval namespaceName labels poll clock (spare + 1 + sleeps)).Goes
            store.script.Answers ⟨clock + poll.answered store.looks look, look + 2, deletions⟩
            (⟨.sleep poll.interval, ()⟩ :: exchanges) (.done (some result))
            ⟨clock + poll.answered store.looks (look + 1 + sleeps), look + 1 + sleeps + 2,
              deletions⟩ := .call wakes.symm others
      refine ⟨_, ?_, looks.trans slept⟩
      rw [lookRequests, ← areLooks]
      rfl

/-- The wait for the end of the pods, up to its last look. -/
theorem goes_awaitRemoval (clock : Duration) (deletions : Nat) {last : Nat}
    {result : Except Failure Unit}
    (isLast : (removalPoll settings namespaceName labels).IsLast store.looks last)
    (inBound : last < (removalPoll settings namespaceName labels).checkBound)
    (checked : (removalPoll settings namespaceName labels).afterCheck
      ((removalPoll settings namespaceName labels).answered store.looks last)
      (store.looks last).answer = some result) :
    ∃ exchanges,
      exchanges.map (·.request) =
        .now :: lookRequests namespaceName labels removalInterval last ∧
      (awaitRemoval settings namespaceName labels).run.Goes store.script.Answers
        ⟨clock, 1, deletions⟩ exchanges (.done (result.mapError .failed))
        ⟨clock + (removalPoll settings namespaceName labels).answered store.looks last, last + 2,
          deletions⟩ := by
  obtain ⟨spare, enough⟩ := Nat.exists_eq_add_of_lt inBound
  have isBound : (removalPoll settings namespaceName labels).checkBound = spare + 1 + last := by
    omega
  have sameLook : 0 + last = last := Nat.zero_add last
  rw [← sameLook] at isLast checked
  obtain ⟨exchanges, areLooks, looks⟩ :=
    goes_looks namespaceName labels clock deletions spare isLast checked
  rw [sameLook] at looks
  refine ⟨⟨.now, clock⟩ :: exchanges, congrArg (PodCall.now :: ·) areLooks, ?_⟩
  rw [run_awaitRemoval, isBound, ← run_orFail]
  exact .call ⟨rfl, rfl⟩ looks.bind

/-! ## The three ways of a removal -/

/-- A removal that begins when the clock shows one instant makes these calls, one after another, and
ends with this result when it shows another; it cannot go in any other way. -/
def Removes (settings : Settings) (namespaceName : String) (labels : Labels) (store : PromptStore)
    (clock : Duration) (requests : List PodCall) (ended : Except PodError Unit)
    (instant : Duration) : Prop :=
  ∃ exchanges finish,
    (removeAndWait settings namespaceName labels).run.OnlyRun store.script.Answers ⟨clock, 0, 0⟩
      exchanges ended finish ∧
    exchanges.map (·.request) = requests ∧ finish.clock = instant

variable {requests otherRequests : List PodCall} {ended otherEnded : Except PodError Unit}
  {instant otherInstant : Duration} {pods front rest : List Pod} {pod : Pod} {failure : Failure}

theorem removes_of_goes {exchanges : List (Program.Exchange PodCall PodCall.Answer)}
    {finish : Stage}
    (goes : (removeAndWait settings namespaceName labels).run.Goes store.script.Answers
      ⟨clock, 0, 0⟩ exchanges (.done ended) finish) :
    Removes settings namespaceName labels store clock (exchanges.map (·.request)) ended
      finish.clock :=
  ⟨exchanges, finish, .of_goes PodScript.decided goes, rfl, rfl⟩

theorem Removes.unique
    (removes : Removes settings namespaceName labels store clock requests ended instant)
    (others : Removes settings namespaceName labels store clock otherRequests otherEnded
      otherInstant) :
    otherRequests = requests ∧ otherEnded = ended ∧ otherInstant = instant := by
  obtain ⟨exchanges, finish, run, rfl, rfl⟩ := removes
  obtain ⟨otherExchanges, otherFinish, otherRun, rfl, rfl⟩ := others
  obtain ⟨rfl, rfl, rfl⟩ := run.unique otherRun
  exact ⟨rfl, rfl, rfl⟩

private theorem removes_of_unlisted (settings : Settings) (namespaceName : String) (labels : Labels)
    (clock : Duration) (unlisted : store.lists 0 = .error failure) :
    Removes settings namespaceName labels store clock [.list namespaceName labels]
      (.error (.failed failure)) clock := by
  have goes : (removeAndWait settings namespaceName labels).run.Goes store.script.Answers
      ⟨clock, 0, 0⟩ [⟨.list namespaceName labels, .error failure⟩]
      (.done (.error (.failed failure))) ⟨clock, 1, 0⟩ := by
    rw [run_removeAndWait]
    exact .call ⟨⟨0⟩, PromptStore.lists_script unlisted, rfl⟩ (.still _ _)
  exact removes_of_goes goes

/-- Up to the first deletion that fails, all pods of the first listing are deleted. -/
theorem goes_removeAndWait_append (settings : Settings) (namespaceName : String) (labels : Labels)
    (clock : Duration) (listed : store.lists 0 = .ok (front ++ rest))
    (deleted : ∀ earlier < front.length, store.deletions earlier = .ok ()) :
    ∃ exchanges,
      exchanges.map (·.request) = .list namespaceName labels ::
        front.map (fun pod => PodCall.delete namespaceName pod.name) ∧
      (removeAndWait settings namespaceName labels).run.Goes store.script.Answers ⟨clock, 0, 0⟩
        exchanges (deleteAll namespaceName rest >>= fun _ =>
          awaitRemoval settings namespaceName labels).run ⟨clock, 1, front.length⟩ := by
  have succeeds : ∀ earlier < front.length,
      store.script.deletions (0 + earlier) = some (⟨0⟩, .ok ()) := by
    intro earlier isEarlier
    rw [Nat.zero_add]
    exact PromptStore.deletions_script (deleted earlier isEarlier)
  have goes := goes_deleteAll_atOnce namespaceName store.script ⟨clock, 1, 0⟩ front rest
    (awaitRemoval settings namespaceName labels) succeeds
  rw [Nat.zero_add] at goes
  refine ⟨⟨.list namespaceName labels, .ok (front ++ rest)⟩ :: deletions namespaceName front,
    congrArg (PodCall.list namespaceName labels :: ·) (requests_deletions namespaceName front), ?_⟩
  rw [run_removeAndWait]
  exact .call ⟨⟨0⟩, PromptStore.lists_script listed, rfl⟩ goes

private theorem removes_of_refused (settings : Settings) (namespaceName : String) (labels : Labels)
    (clock : Duration) (listed : store.lists 0 = .ok (front ++ pod :: rest))
    (deleted : ∀ earlier < front.length, store.deletions earlier = .ok ())
    (refused : store.deletions front.length = .error failure) :
    Removes settings namespaceName labels store clock (.list namespaceName labels ::
      (front ++ [pod]).map fun pod => PodCall.delete namespaceName pod.name)
      (.error (.failed failure)) clock := by
  obtain ⟨exchanges, areDeletions, goes⟩ :=
    goes_removeAndWait_append settings namespaceName labels clock listed deleted
  have fails : (deleteAll namespaceName (pod :: rest) >>= fun _ =>
      awaitRemoval settings namespaceName labels).run.Goes store.script.Answers
        ⟨clock, 1, front.length⟩ [⟨.delete namespaceName pod.name, .error failure⟩]
        (.done (.error (.failed failure))) ⟨clock, 1, front.length + 1⟩ :=
    .call ⟨⟨0⟩, PromptStore.deletions_script refused, rfl⟩ (.still _ _)
  have removes := removes_of_goes (goes.trans fails)
  rw [List.map_append, areDeletions] at removes
  rw [List.map_append]
  exact removes

/-- The time from the beginning of the wait for the end of the pods to a look at what is left. -/
def lookTime (look : Nat) : Duration :=
  ⟨look * removalInterval.nanoseconds⟩

@[simp]
theorem answered_removalPoll (look : Nat) :
    (removalPoll settings namespaceName labels).answered store.looks look = lookTime look :=
  (Poll.answered_of_instantaneous (fun _ => rfl) look).trans
    (Poll.beginning_of_instantaneous (fun _ => rfl) look)

private theorem endsAt_looks_iff {look : Nat} :
    (removalPoll settings namespaceName labels).EndsAt store.looks look ↔
      store.lists (look + 1) = .ok [] ∨ settings.podShutdownTimeout ≤ lookTime look := by
  rw [Poll.EndsAt, answered_removalPoll]
  exact or_congr isEmpty_eq_ok_true_iff Iff.rfl

/-- What the wait for the end of the pods ends with, if this look is its last one. -/
structure Verdict (settings : Settings) (namespaceName : String) (labels : Labels)
    (store : PromptStore) (last : Nat) (ended : Except PodError Unit) : Prop where
  goesOn : ∀ earlier < last,
    store.lists (earlier + 1) ≠ .ok [] ∧ lookTime earlier < settings.podShutdownTimeout
  ends : (store.lists (last + 1) = .ok [] ∧ ended = .ok ()) ∨
    store.lists (last + 1) ≠ .ok [] ∧ settings.podShutdownTimeout ≤ lookTime last ∧
      lookTime last < settings.podShutdownTimeout + removalInterval ∧
      ended = .error (.failed (.timeout (removalPoll settings namespaceName labels).message
        (lookTime last)))

/-- Where all pods of the first listing are deleted, the removal looks for what is left. -/
theorem removes_of_deleted (settings : Settings) (namespaceName : String) (labels : Labels)
    (clock : Duration) (listed : store.lists 0 = .ok pods)
    (deleted : ∀ deletion < pods.length, store.deletions deletion = .ok ()) :
    ∃ last ended, Verdict settings namespaceName labels store last ended ∧
      Removes settings namespaceName labels store clock (.list namespaceName labels ::
        (pods.map (fun pod => PodCall.delete namespaceName pod.name) ++
          .now :: lookRequests namespaceName labels removalInterval last))
        ended (clock + lookTime last) := by
  let poll := removalPoll settings namespaceName labels
  have positive : 0 < poll.interval.nanoseconds := show 0 < removalInterval.nanoseconds by decide
  obtain ⟨last, isLast, inBound⟩ := Poll.exists_isLast store.looks positive
  have begins := isLast.beginning_lt positive
  rw [← Poll.answered_of_instantaneous fun _ => rfl, answered_removalPoll] at begins
  cases checked : poll.afterCheck (poll.answered store.looks last) (store.looks last).answer with
  | none => exact absurd isLast.ends (Poll.not_endsAt_iff.mpr checked)
  | some result =>
      refine ⟨last, result.mapError .failed, ⟨?_, ?_⟩, ?_⟩
      · intro earlier isEarlier
        have notYet := isLast.goesOn earlier isEarlier
        rw [endsAt_looks_iff, not_or] at notYet
        exact ⟨notYet.1, Nat.lt_of_not_le notYet.2⟩
      · rw [answered_removalPoll] at checked
        rcases afterCheck_eq_some_iff.mp checked with ⟨isEmpty, rfl⟩ | ⟨notEmpty, isOver, rfl⟩
        · exact .inl ⟨isEmpty, rfl⟩
        · exact .inr ⟨notEmpty, isOver, begins, rfl⟩
      · rw [← List.append_nil pods] at listed
        obtain ⟨exchanges, areDeletions, goes⟩ :=
          goes_removeAndWait_append settings namespaceName labels clock listed deleted
        obtain ⟨others, areLooks, waits⟩ :=
          goes_awaitRemoval clock pods.length isLast inBound checked
        have removes := removes_of_goes (goes.trans waits)
        rw [List.map_append, areDeletions, areLooks, answered_removalPoll] at removes
        exact removes

/-! ## What a removal ends with -/

/-- A removal succeeds exactly if a look that it comes to finds no pod: it comes to one as long as
all before it were in time. -/
theorem Verdict.ended_eq_ok_iff {last : Nat}
    (verdict : Verdict settings namespaceName labels store last ended) :
    ended = .ok () ↔ ∃ look, (∀ earlier < look, lookTime earlier < settings.podShutdownTimeout) ∧
      store.lists (look + 1) = .ok [] := by
  constructor
  · rintro rfl
    rcases verdict.ends with ⟨isEmpty, _⟩ | ⟨_, _, _, isTimeout⟩
    · exact ⟨last, fun earlier isEarlier => (verdict.goesOn earlier isEarlier).2, isEmpty⟩
    · cases isTimeout
  · rintro ⟨look, inTime, isEmpty⟩
    rcases verdict.ends with ⟨_, succeeded⟩ | ⟨notEmpty, isOver, _⟩
    · exact succeeded
    rcases Nat.lt_trichotomy look last with earlier | rfl | later
    · exact absurd isEmpty (verdict.goesOn look earlier).1
    · exact absurd isEmpty notEmpty
    · exact absurd isOver (Nat.not_le_of_lt (inTime last later))

/-- Pods that are gone for good before the time is up are seen to be gone. -/
theorem Verdict.ok_of_gone {last : Nat} {gone : Duration}
    (verdict : Verdict settings namespaceName labels store last ended)
    (inTime : gone < settings.podShutdownTimeout)
    (goneForGood : ∀ look, gone ≤ lookTime look → store.lists (look + 1) = .ok []) :
    ended = .ok () := by
  rcases verdict.ends with ⟨_, succeeded⟩ | ⟨notEmpty, isOver, _⟩
  · exact succeeded
  · have isGone : gone ≤ lookTime last := Nat.le_trans (Nat.le_of_lt inTime) isOver
    exact absurd (goneForGood last isGone) notEmpty

/-! ## What a removal deletes -/

@[simp]
theorem deleted?_deletions (pods : List Pod) :
    (pods.map fun pod => PodCall.delete namespaceName pod.name).filterMap PodCall.deleted? =
      pods.map fun pod => (namespaceName, pod.name) := by
  rw [List.filterMap_map]
  exact congrFun List.filterMap_eq_map pods

@[simp]
theorem deleted?_lookRequests (interval : Duration) (sleeps : Nat) :
    (lookRequests namespaceName labels interval sleeps).filterMap PodCall.deleted? = [] := by
  induction sleeps with
  | zero => rfl
  | succ sleeps inductionHypothesis => exact inductionHypothesis

theorem exists_removes (settings : Settings) (namespaceName : String) (labels : Labels)
    (store : PromptStore) (clock : Duration) :
    ∃ requests ended instant,
      Removes settings namespaceName labels store clock requests ended instant := by
  cases listed : store.lists 0 with
  | error failure => exact ⟨_, _, _, removes_of_unlisted settings namespaceName labels clock listed⟩
  | ok pods =>
      rcases deleted_or_refused store.deletions pods with
        deleted | ⟨front, pod, rest, failure, rfl, deleted, refused⟩
      · obtain ⟨last, ended, _, removes⟩ :=
          removes_of_deleted settings namespaceName labels clock listed deleted
        exact ⟨_, _, _, removes⟩
      · exact ⟨_, _, _,
          removes_of_refused settings namespaceName labels clock listed deleted refused⟩

/-- What a removal deletes are pods of its first listing, one after the other. -/
theorem Removes.deleted_prefix
    (removes : Removes settings namespaceName labels store clock requests ended instant)
    (listed : store.lists 0 = .ok pods) :
    requests.filterMap PodCall.deleted? <+: pods.map fun pod => (namespaceName, pod.name) := by
  rcases deleted_or_refused store.deletions pods with
    deleted | ⟨front, pod, rest, failure, rfl, deleted, refused⟩
  · obtain ⟨last, _, _, others⟩ :=
      removes_of_deleted settings namespaceName labels clock listed deleted
    obtain ⟨rfl, _, _⟩ := others.unique removes
    refine ⟨[], ?_⟩
    rw [List.append_nil, List.filterMap_cons_none rfl, List.filterMap_append, deleted?_deletions,
      List.filterMap_cons_none rfl, deleted?_lookRequests, List.append_nil]
  · have others := removes_of_refused settings namespaceName labels clock listed deleted refused
    obtain ⟨rfl, _, _⟩ := others.unique removes
    rw [List.filterMap_cons_none rfl, deleted?_deletions]
    refine ⟨rest.map fun pod => (namespaceName, pod.name), ?_⟩
    rw [← List.map_append, List.append_assoc, List.singleton_append]

private theorem Removes.deleted_nodup
    (removes : Removes settings namespaceName labels store clock requests ended instant)
    (listed : store.lists 0 = .ok pods) (distinct : (pods.map Pod.name).Nodup) :
    (requests.filterMap PodCall.deleted?).Nodup := by
  have apart : (pods.map fun pod => (namespaceName, pod.name)).Nodup := by
    refine List.Nodup.of_map Prod.snd ?_
    rw [List.map_map]
    exact distinct
  exact apart.sublist (removes.deleted_prefix listed).sublist

/-- Whatever a store that answers at once has to say, a removal comes to its end in one way.  If the
first listing fails, that failure is its end, and nothing is deleted.  Otherwise the pods of the
first listing are deleted, one after the other, up to the first deletion that fails, whose failure
is the end.  If all are deleted, the removal looks for what is left every half second, up to the
first look that finds nothing or is not in time; it succeeds exactly if one of these finds nothing,
and otherwise reports that the time is up.  It deletes no pod but those of the first listing, and
none twice. -/
theorem removeAndWait_ends (settings : Settings) (namespaceName : String) (labels : Labels)
    (store : PromptStore) (clock : Duration) :
    (∃ requests ended instant,
      Removes settings namespaceName labels store clock requests ended instant) ∧
    (∀ failure, store.lists 0 = .error failure →
      Removes settings namespaceName labels store clock [.list namespaceName labels]
        (.error (.failed failure)) clock) ∧
    (∀ front pod rest failure, store.lists 0 = .ok (front ++ pod :: rest) →
      (∀ earlier < front.length, store.deletions earlier = .ok ()) →
      store.deletions front.length = .error failure →
        Removes settings namespaceName labels store clock (.list namespaceName labels ::
          (front ++ [pod]).map fun pod => PodCall.delete namespaceName pod.name)
          (.error (.failed failure)) clock) ∧
    (∀ pods, store.lists 0 = .ok pods →
      (∀ deletion < pods.length, store.deletions deletion = .ok ()) →
        ∃ last ended,
          Removes settings namespaceName labels store clock (.list namespaceName labels ::
            (pods.map (fun pod => PodCall.delete namespaceName pod.name) ++
              .now :: lookRequests namespaceName labels removalInterval last))
            ended (clock + lookTime last) ∧
          Verdict settings namespaceName labels store last ended ∧
          (ended = .ok () ↔
            ∃ look, (∀ earlier < look, lookTime earlier < settings.podShutdownTimeout) ∧
              store.lists (look + 1) = .ok []) ∧
          ∀ gone < settings.podShutdownTimeout,
            (∀ look, gone ≤ lookTime look → store.lists (look + 1) = .ok []) → ended = .ok ()) ∧
    ∀ pods requests ended instant, store.lists 0 = .ok pods →
      Removes settings namespaceName labels store clock requests ended instant →
        (requests.filterMap PodCall.deleted? <+: pods.map fun pod => (namespaceName, pod.name)) ∧
        ((pods.map Pod.name).Nodup → (requests.filterMap PodCall.deleted?).Nodup) := by
  refine ⟨exists_removes settings namespaceName labels store clock,
    fun _ => removes_of_unlisted settings namespaceName labels clock,
    fun _ _ _ _ => removes_of_refused settings namespaceName labels clock, ?_, ?_⟩
  · intro pods listed deleted
    obtain ⟨last, ended, verdict, removes⟩ :=
      removes_of_deleted settings namespaceName labels clock listed deleted
    exact ⟨last, ended, removes, verdict, verdict.ended_eq_ok_iff,
      fun gone inTime goneForGood => verdict.ok_of_gone inTime goneForGood⟩
  · intro pods requests ended instant listed removes
    exact ⟨removes.deleted_prefix listed, removes.deleted_nodup listed⟩

/-- A store of two jobs that go away when they are deleted; the first look at what is left fails. -/
def shortOutage : PromptStore where
  lists
    | 0 => .ok [migrationJob,
        { metadata := { name := some "report", namespaceName := some "retail" } }]
    | 1 => .error (.server (.unreachable "connection reset"))
    | _ => .ok []
  deletions _ := .ok ()

/-- The removal of the two jobs succeeds half a second later, with the second look. -/
theorem removeAndWait_ends_of_shortOutage :
    Removes ordinarySettings "retail" .empty shortOutage ⟨0⟩
      [.list "retail" .empty, .delete "retail" "migrate", .delete "retail" "report", .now,
        .list "retail" .empty, .now, .sleep removalInterval, .list "retail" .empty, .now]
      (.ok ()) (.ofMilliseconds 500) := by
  obtain ⟨_, _, _, whenDeleted, _⟩ :=
    removeAndWait_ends ordinarySettings "retail" .empty shortOutage ⟨0⟩
  obtain ⟨last, ended, removes, verdict, okIff, _⟩ := whenDeleted _ rfl fun _ _ => rfl
  have succeeded : ended = .ok () := by
    refine okIff.mpr ⟨1, ?_, rfl⟩
    decide
  have isLast : last = 1 := by
    rcases verdict.ends with ⟨isEmpty, _⟩ | ⟨_, _, _, isTimeout⟩
    · match last, isEmpty, verdict.goesOn with
      | 1, _, _ => rfl
      | later + 2, _, goesOn => exact absurd rfl (goesOn 1 (by omega)).1
    · rw [succeeded] at isTimeout
      cases isTimeout
  rw [isLast, succeeded] at removes
  exact removes

end PodOperation

end Provisioning
