import Provisioning.Proofs.LabeledPair
import Provisioning.Proofs.TendedCluster

/-!
# Trying again

A call has ended with an error that says that trying again cannot help.  In a cluster that is tended
a second call can end with a result all the same: where the first one drew a name that was taken, or
where others have requested what the lookup now finds.

Main statements: when a call can end with a result (`providable_iff`), and when it can after one that
has failed for good (`provide_retry_iff`).
-/

namespace Provisioning

open ClusterObject

namespace Capability

/-- A capability that a call for the requirement can hand out, at once or when it serves. -/
structure Qualifies (capability : Capability) (requirement : Requirement) : Prop where
  valid : capability.validate requirement = .ok ()
  housed : capability.home ≠ ""
  serves : capability.phase = .requested ∨ capability.Serves

variable {earlier later : Capability} {requirement : Requirement}

private theorem Becomes.qualifies (becomes : earlier.Becomes later)
    (qualifies : later.Qualifies requirement) : earlier.Qualifies requirement where
  valid := (validate_congr becomes.labels_eq).mp qualifies.valid
  housed := by
    have sameHome : later.home = earlier.home := congrArg ObjectKey.namespaceName becomes.key_eq
    rw [← sameHome]
    exact qualifies.housed
  serves := by
    rcases becomes.eq_or_serves with same | ⟨requested, _⟩
    · exact same ▸ qualifies.serves
    · exact Or.inl requested

private theorem not_serves_of_failed (failed : later.phase = .failed) : ¬ later.Serves := by
  intro serves
  rw [serves.phase] at failed
  cases failed

end Capability

/-- Only the labeled scope draws. -/
theorem Placement.build_of_unlabeled {requester : Requester} {requirement : Requirement}
    (unlabeled : requirement.effectiveScope ≠ .labeled) (defaults : Defaults)
    (operatorNamespace : String) (drawn next : Serial) :
    build requester requirement defaults operatorNamespace drawn =
      build requester requirement defaults operatorNamespace next := by
  have samePlace : place requester requirement defaults operatorNamespace drawn =
      place requester requirement defaults operatorNamespace next := by
    unfold place
    cases scope : requirement.effectiveScope with
    | labeled => exact absurd scope unlabeled
    | dedicated => rfl
    | specified => rfl
    | namespaced => rfl
    | cluster => rfl
  rw [build, samePlace, build]

/-! ## Among controllers -/

section Quiet

variable {before after : Store Capability} {lookup : Lookup} {requirement : Requirement}

/-- Controllers can see to it that what qualifies serves. -/
theorem Capability.Qualifies.exists_serving {found : Capability}
    (qualifies : found.Qualifies requirement) (isFirst : lookup.firstIn before = some found) :
    ∃ after ready, Relation.ReflTransGen Tends before after ∧
      lookup.firstIn after = some ready ∧ found.Becomes ready ∧ ready.Serves := by
  rcases qualifies.serves with requested | serves
  · have serving : (CapabilityStatus.serving "service").Serves :=
      CapabilityStatus.serves_serving (by decide)
    have tends := Tends.served (Lookup.firstIn_eq_some_iff.mp isFirst).1 requested serving
    obtain ⟨present, isPresent, same⟩ := (retains_of_tends (.single tends)).firstIn isFirst
    have isServed : present = { found with status := some (.serving "service") } :=
      Store.eq_of_key_eq (Lookup.firstIn_eq_some_iff.mp isPresent).1
        Store.mem_put_self same.1
    rw [isServed] at isPresent
    exact ⟨_, _, .single tends, isPresent, Or.inr ⟨requested, _, serving, rfl⟩, _, rfl, serving⟩
  · exact ⟨before, found, .refl, isFirst, Or.inl rfl, serves⟩

end Quiet

/-! ## When a call can end with a result -/

namespace Provision

/-- A call for the requirement can end with a result, where only controllers act. -/
def Providable (operatorNamespace : String) (defaults : Defaults) (serial : Serial)
    (requester : Requester) (requirement : Requirement) (timeout : Duration)
    (store : Store Capability) : Prop :=
  ∃ exchanges result finish,
    (provide operatorNamespace serial requester requirement timeout).Goes (Tended defaults Tends)
      store exchanges (.done (.ok result)) finish

section Result

variable {operatorNamespace : String} {defaults : Defaults} {serial : Serial} {requester : Requester}
  {requirement : Requirement} {timeout : Duration} {lookup : Lookup} {built target : Capability}
  {store start made finish : Store Capability}

/-- What was placed was there before, or there was nothing in its place. -/
theorem Placed.quiet (placed : Placed Tends requirement lookup built start target made) :
    lookup.firstIn start = none ∧
      (Retains start made ∨ start.find? (key built) = none ∧ StemsFrom built start made) := by
  cases placed with
  | created toSeen missed toFree isFree =>
      have retains := retains_of_tends (toSeen.trans toFree)
      exact ⟨(retains_of_tends toSeen).firstIn_eq_none_iff.mp missed,
        Or.inr ⟨retains.find?_eq_none_iff.mp isFree, retains.stemsFrom.trans (stemsFrom_put _ _)⟩⟩
  | adopted toSeen missed toTaken isTaken toMade isThere valid =>
      exact ⟨(retains_of_tends toSeen).firstIn_eq_none_iff.mp missed,
        Or.inl (retains_of_tends ((toSeen.trans toTaken).trans toMade))⟩

variable (planned : Lookup.plan requester requirement = .ok lookup)
  (isBuilt : Placement.build requester requirement defaults operatorNamespace serial = .ok built)

include isBuilt

private theorem vacancy_of_placed (placed : Placed Tends requirement lookup built start target made)
    (turns : Relation.ReflTransGen Tends made finish) {resolved : Capability}
    (isFirst : lookup.firstIn finish = some resolved) (housed : resolved.home ≠ "") :
    Vacancy requirement lookup built start := by
  obtain ⟨missed, retains | ⟨free, stems⟩⟩ := placed.quiet
  · have retained := retains.trans (retains_of_tends turns)
    rw [retained.firstIn_eq_none missed] at isFirst
    cases isFirst
  · have stemsOn := stems.trans (retains_of_tends turns).stemsFrom
    have same := stemsOn.resembles missed isFirst
    have sameHome : resolved.home = built.home := congrArg ObjectKey.namespaceName same.1
    exact
      { free
        unmatched := Lookup.firstIn_eq_none_iff.mp missed
        matched := same.matched.symm.trans (Lookup.firstIn_eq_some_iff.mp isFirst).2.1
        valid := Placement.validate_build isBuilt
        housed := sameHome ▸ housed
        unsettled := Placement.status_of_build isBuilt }

private theorem qualifies_or_vacancy {result : ProvisionResult}
    {ended : CapabilityProgram (Except ProvisioningError ProvisionResult)}
    (course : Course Tends requirement lookup built start ended finish)
    (isEnd : ended = .done (.ok result)) :
    (∃ found, lookup.firstIn start = some found ∧ found.Qualifies requirement) ∨
      Vacancy requirement lookup built start := by
  cases course with
  | invalid => cases isEnd
  | settled toFinish isFirst valid settled =>
      obtain ⟨housed, serves⟩ := Capability.exists_result_iff.mp ⟨_, Program.done.inj isEnd⟩
      obtain ⟨earlier, isEarlier, becomes⟩ := firstIn_of_tends toFinish isFirst
      exact Or.inl ⟨earlier, isEarlier, becomes.qualifies ⟨valid, housed, Or.inr serves⟩⟩
  | awaited toSeen isFirst valid unsettled toFinish isReady settled =>
      obtain ⟨housed, serves⟩ := Capability.exists_result_iff.mp ⟨_, Program.done.inj isEnd⟩
      obtain ⟨earlier, isEarlier, becomes⟩ := firstIn_of_tends toSeen isFirst
      have was := Store.find?_eq_some_iff.mpr ⟨(Lookup.firstIn_eq_some_iff.mp isFirst).1, rfl⟩
      have becomesReady := becomes_of_find? (bustles_of_tends toFinish) was isReady
      have validReady : _ = Except.ok () :=
        (Capability.validate_congr becomesReady.labels_eq).mpr valid
      exact Or.inl ⟨earlier, isEarlier,
        (becomes.trans becomesReady).qualifies ⟨validReady, housed, Or.inr serves⟩⟩
  | givenUp => cases isEnd
  | broken => cases isEnd
  | clashed => cases isEnd
  | vanished => cases isEnd
  | failed placed toFinish isReady failed =>
      obtain ⟨_, serves⟩ := Capability.exists_result_iff.mp ⟨_, Program.done.inj isEnd⟩
      exact absurd serves (Capability.not_serves_of_failed failed)
  | resolved placed toWaited isReady settled toFinish isFirst =>
      obtain ⟨housed, _⟩ := Capability.exists_result_iff.mp ⟨_, Program.done.inj isEnd⟩
      exact Or.inr (vacancy_of_placed isBuilt placed (toWaited.trans toFinish) isFirst housed)
  | missed => cases isEnd

end Result

section Providable

variable {operatorNamespace : String} {defaults : Defaults} {serial : Serial} {requester : Requester}
  {requirement : Requirement} {timeout : Duration} {lookup : Lookup} {built : Capability}
  {store middle finish : Store Capability} {exchanges : List Exchange}

private theorem goes_of_turns {acts : Store Capability → Store Capability → Prop}
    {request : CapabilityCall}
    {next : request.Answer → CapabilityProgram (Except ProvisioningError ProvisionResult)}
    {ended : CapabilityProgram (Except ProvisioningError ProvisionResult)} (isOver : IsOver ended)
    (turns : Relation.ReflTransGen acts store middle)
    (goes : Program.Goes (Tended defaults acts) (.call request next) middle exchanges ended finish) :
    Program.Goes (Tended defaults acts) (.call request next) store exchanges ended finish := by
  obtain ⟨answer, after, rest, rfl, answered, goesOn⟩ := isOver.goes_call_iff.mp goes
  exact .call (answered.of_turns turns) goesOn

private theorem providable_of_qualifies (planned : Lookup.plan requester requirement = .ok lookup)
    {found : Capability} (isFirst : lookup.firstIn store = some found)
    (qualifies : found.Qualifies requirement) :
    Providable operatorNamespace defaults serial requester requirement timeout store := by
  obtain ⟨after, ready, turns, isReady, becomes, serves⟩ := qualifies.exists_serving isFirst
  have housed : ready.home ≠ "" := by
    have sameHome : ready.home = found.home := congrArg ObjectKey.namespaceName becomes.key_eq
    exact sameHome ▸ qualifies.housed
  obtain ⟨result, given⟩ := Capability.exists_result_iff.mpr ⟨housed, serves⟩
  have valid := (Capability.validate_congr becomes.labels_eq).mpr qualifies.valid
  have settled := Capability.isTerminal_of_successful serves.phase
  obtain ⟨answer, replied⟩ := lookup.exists_reply defaults after
  have outcome := (Lookup.outcome_of_replies replied).1
  refine ⟨[⟨lookup.request, answer⟩], result, after, ?_⟩
  rw [provide_eq_call _ _ _ _ _ _ planned]
  refine .call (Lookup.repliesAfter_iff.mpr ⟨turns, replied⟩) ?_
  simp only [outcome, isReady, run_useExisting, valid, if_pos settled, given]
  exact .still _ _

private theorem providable_of_vacancy (planned : Lookup.plan requester requirement = .ok lookup)
    (isBuilt : Placement.build requester requirement defaults operatorNamespace serial = .ok built)
    (vacancy : Vacancy requirement lookup built store) :
    Providable operatorNamespace defaults serial requester requirement timeout store := by
  let ready : Capability := { built with status := some (.serving "service") }
  have serving : (CapabilityStatus.serving "service").Serves :=
    CapabilityStatus.serves_serving (by decide)
  have isVersion : ready.IsVersionOf built := Or.inr ⟨_, serving, rfl⟩
  have served : Tends (store.put built) (store.put ready) := by
    have member : built ∈ (store.put built).objects := Store.mem_put_self
    have tends := Tends.served member vacancy.phase_built serving
    rwa [Store.put_put_of_key_eq store built ready rfl] at tends
  obtain ⟨result, given, _⟩ :=
    ProvisionResult.ofCapability_of_serves built serving vacancy.housed
  -- The call misses, creates, and waits until the controller has taken its turn.
  obtain ⟨_, missing⟩ := goes_of_miss operatorNamespace serial timeout defaults planned
    vacancy.firstIn_initial
  have creating := goes_of_creation operatorNamespace serial timeout defaults lookup isBuilt
    vacancy.free
  obtain ⟨_, waiting⟩ := goes_of_settled timeout defaults built
    Store.mem_put_self isVersion.key_eq serving.1
    (vacancy.firstIn_put isVersion)
  have isResult : ProvisionResult.ofCapability ready = .ok result := given
  rw [run_awaitCreated, isResult] at waiting
  rw [run_awaitCreated] at creating
  have ending := goes_of_turns (isOver_done _) (.single served) (waiting.mono tended_of_replies)
  exact ⟨_, result, _, ((missing.trans creating).mono tended_of_replies).trans ending⟩

/-- Among controllers a call can end with a result exactly where its lookup finds a capability that
qualifies, or finds nothing and there is room for what the call builds. -/
theorem providable_iff (planned : Lookup.plan requester requirement = .ok lookup)
    (isBuilt : Placement.build requester requirement defaults operatorNamespace serial = .ok built) :
    Providable operatorNamespace defaults serial requester requirement timeout store ↔
      (∃ found, lookup.firstIn store = some found ∧ found.Qualifies requirement) ∨
        Vacancy requirement lookup built store := by
  constructor
  · rintro ⟨_, result, _, goes⟩
    exact qualifies_or_vacancy isBuilt (course_of_tended planned isBuilt (isOver_done _) goes) rfl
  · rintro (⟨found, isFirst, qualifies⟩ | vacancy)
    · exact providable_of_qualifies planned isFirst qualifies
    · exact providable_of_vacancy planned isBuilt vacancy

end Providable

/-! ## After an error that is final -/

section Final

variable {operatorNamespace : String} {defaults : Defaults} {serial : Serial} {requester : Requester}
  {requirement : Requirement} {timeout : Duration} {lookup : Lookup} {built target : Capability}
  {start made finish : Store Capability} {error : ProvisioningError}
  {ended : CapabilityProgram (Except ProvisioningError ProvisionResult)}

/-- The lookup has found nothing, and by now what would be built has no room. -/
def Crowded (lookup : Lookup) (built : Capability) (start finish : Store Capability) : Prop :=
  ∃ seen, Relation.ReflTransGen Bustles start seen ∧ lookup.firstIn seen = none ∧
    Relation.ReflTransGen Bustles seen finish ∧ finish.find? (key built) ≠ none

theorem Crowded.later {after : Store Capability} (crowded : Crowded lookup built start finish)
    (turns : Relation.ReflTransGen Bustles finish after) : Crowded lookup built start after := by
  obtain ⟨seen, toSeen, missed, toFinish, taken⟩ := crowded
  refine ⟨seen, toSeen, missed, toFinish.trans turns, ?_⟩
  obtain ⟨object, isObject⟩ := Option.ne_none_iff_exists'.mp taken
  obtain ⟨later, isLater, _⟩ := find?_of_bustles turns isObject
  rw [isLater]
  exact Option.some_ne_none later

theorem Crowded.turns (crowded : Crowded lookup built start finish) :
    Relation.ReflTransGen Bustles start finish := by
  obtain ⟨_, toSeen, _, toFinish, _⟩ := crowded
  exact toSeen.trans toFinish

/-- What was there was not what the lookup asks for. -/
theorem Crowded.isNew (crowded : Crowded lookup built start finish) {found : Capability}
    (isFirst : lookup.firstIn finish = some found) : start.find? (key found) = none := by
  obtain ⟨seen, toSeen, missed, toFinish, _⟩ := crowded
  cases initially : start.find? (key found) with
  | none => rfl
  | some earlier =>
      obtain ⟨between, isBetween, _⟩ := find?_of_bustles toSeen initially
      obtain ⟨later, isLater, becomes⟩ := find?_of_bustles toFinish isBetween
      obtain ⟨member, matched, _⟩ := Lookup.firstIn_eq_some_iff.mp isFirst
      rw [Store.find?_eq_some_iff.mpr ⟨member, rfl⟩, Option.some.injEq] at isLater
      have unmatched := Lookup.firstIn_eq_none_iff.mp missed between
        (Store.find?_eq_some_iff.mp isBetween).1
      rw [← Lookup.matchesCapability_congr becomes.key_eq becomes.labels_eq, ← isLater, matched]
        at unmatched
      cases unmatched

theorem Placed.key_eq {acts : Store Capability → Store Capability → Prop}
    (placed : Placed acts requirement lookup built start target made) : key target = key built := by
  cases placed with
  | created => rfl
  | adopted _ _ _ _ _ isThere _ => exact (Store.find?_eq_some_iff.mp isThere).2

theorem Placed.crowded (unsettled : built.phase = .requested)
    (placed : Placed Bustles requirement lookup built start target made) :
    Crowded lookup built start made := by
  cases placed with
  | @created seen free toSeen missed toFree isFree =>
      have turn : Bustles free (free.put built) := .requested isFree unsettled
      refine ⟨seen, toSeen, missed, toFree.tail turn, ?_⟩
      rw [Store.find?_put, if_pos rfl]
      exact Option.some_ne_none built
  | adopted toSeen missed toTaken _ toMade isThere _ =>
      refine ⟨_, toSeen, missed, toTaken.trans toMade, ?_⟩
      rw [isThere]
      exact Option.some_ne_none _

/-- What has no namespace is below everything that has one. -/
theorem home_of_firstIn {found other : Capability} (isFirst : lookup.firstIn finish = some found)
    (member : other ∈ finish.objects) (matched : lookup.matchesCapability other = true)
    (homeless : other.home = "") : found.home = "" := by
  have notBelow := (Lookup.firstIn_eq_some_iff.mp isFirst).2.2 other member matched
  by_contra housed
  refine notBelow (Or.inl ?_)
  have sameHome : (key other).namespaceName = "" := homeless
  rw [sameHome, String.lt_iff]
  cases letters : (key found).namespaceName.toList with
  | nil => exact absurd (String.toList_eq_nil_iff.mp letters) housed
  | cons letter rest => exact List.nil_lt_cons letter rest

/-- A capability that was waited for and cannot be handed out has no namespace, and so nothing that
the lookup finds from then on has one. -/
theorem unqualified_of_awaited {seen : Store Capability} {found ready : Capability}
    (isFirst : lookup.firstIn seen = some found) (pending : found.phase.isTerminal = false)
    (toFinish : Relation.ReflTransGen Bustles seen finish)
    (isReady : finish.find? (key found) = some ready) (settled : ready.phase.isTerminal = true)
    (refused : ProvisionResult.ofCapability ready = .error error) :
    ∃ found, lookup.firstIn finish = some found ∧ ¬ found.Qualifies requirement := by
  obtain ⟨member, matched, _⟩ := Lookup.firstIn_eq_some_iff.mp isFirst
  have becomes := becomes_of_find? toFinish (Store.find?_eq_some_iff.mpr ⟨member, rfl⟩) isReady
  obtain ⟨_, serves⟩ := becomes.serves_of_settled pending settled
  rw [← Lookup.matchesCapability_congr becomes.key_eq becomes.labels_eq] at matched
  have isMember := (Store.find?_eq_some_iff.mp isReady).1
  have homeless : ready.home = "" := by
    by_contra housed
    obtain ⟨_, given⟩ := Capability.exists_result_iff.mpr ⟨housed, serves⟩
    rw [given] at refused
    cases refused
  cases nowFirst : lookup.firstIn finish with
  | none =>
      rw [Lookup.firstIn_eq_none_iff.mp nowFirst _ isMember] at matched
      cases matched
  | some other =>
      refine ⟨other, rfl, ?_⟩
      intro qualifies
      exact qualifies.housed (home_of_firstIn nowFirst isMember matched homeless)

/-- Where a call has ended for good, what its lookup finds does not qualify, or its lookup has found
nothing and there is no room any more. -/
theorem unqualified_or_crowded (unsettled : built.phase = .requested)
    (course : Course Bustles requirement lookup built start ended finish)
    (isEnd : ended = .done (.error error)) (final : error.isRetryable = false) :
    (Relation.ReflTransGen Bustles start finish ∧
        ∃ found, lookup.firstIn finish = some found ∧ ¬ found.Qualifies requirement) ∨
      Crowded lookup built start finish := by
  cases course with
  | invalid toFinish isFirst invalid =>
      refine Or.inl ⟨toFinish, _, isFirst, ?_⟩
      intro qualifies
      rw [qualifies.valid] at invalid
      cases invalid
  | settled toFinish isFirst valid settled =>
      refine Or.inl ⟨toFinish, _, isFirst, ?_⟩
      intro qualifies
      rcases qualifies.serves with requested | serves
      · rw [requested] at settled
        cases settled
      · obtain ⟨_, given⟩ := Capability.exists_result_iff.mpr ⟨qualifies.housed, serves⟩
        rw [given] at isEnd
        cases isEnd
  | awaited toSeen isFirst _ pending toFinish isReady settled =>
      exact Or.inl ⟨toSeen.trans toFinish,
        unqualified_of_awaited isFirst pending toFinish isReady settled (Program.done.inj isEnd)⟩
  | givenUp retryable =>
      cases isEnd
      rw [final] at retryable
      cases retryable
  | broken => cases isEnd
  | clashed toSeen missed toTaken isTaken toFinish isThere invalid =>
      refine Or.inr ⟨_, toSeen, missed, toTaken.trans toFinish, ?_⟩
      rw [isThere]
      exact Option.some_ne_none _
  | vanished toSeen missed toTaken isTaken toFinish isGone =>
      obtain ⟨_, isThere, _⟩ := find?_of_bustles toFinish isTaken
      rw [isGone] at isThere
      cases isThere
  | failed placed toFinish _ _ => exact Or.inr ((placed.crowded unsettled).later toFinish)
  | resolved placed toWaited _ _ toFinish _ =>
      exact Or.inr ((placed.crowded unsettled).later (toWaited.trans toFinish))
  | missed placed toWaited _ _ toFinish _ =>
      exact Or.inr ((placed.crowded unsettled).later (toWaited.trans toFinish))

/-- Where only controllers act, what is new is what the call has placed. -/
theorem Placed.find?_of_isNew (placed : Placed Tends requirement lookup built start target made)
    (turns : Relation.ReflTransGen Tends made finish) {found : Capability}
    (isFirst : lookup.firstIn finish = some found) (isNew : start.find? (key found) = none) :
    finish.find? (key target) = some found := by
  have member := (Lookup.firstIn_eq_some_iff.mp isFirst).1
  have isThere := Store.find?_eq_some_iff.mpr ⟨member, rfl⟩
  obtain ⟨missed, retains | ⟨_, stems⟩⟩ := placed.quiet
  · rw [(retains.trans (retains_of_tends turns)).find?_eq_none isNew] at isThere
    cases isThere
  · have same := (stems.trans (retains_of_tends turns).stemsFrom).resembles missed isFirst
    rw [placed.key_eq, ← same.1]
    exact isThere

private theorem not_qualifies_of_isNew
    (course : Course Tends requirement lookup built start ended finish)
    (isEnd : ended = .done (.error error)) (final : error.isRetryable = false) {found : Capability}
    (isFirst : lookup.firstIn finish = some found) (isNew : start.find? (key found) = none) :
    ¬ found.Qualifies requirement := by
  have isThere := Store.find?_eq_some_iff.mpr ⟨(Lookup.firstIn_eq_some_iff.mp isFirst).1, rfl⟩
  have notRetained : ¬ Relation.ReflTransGen Tends start finish := by
    intro turns
    rw [(retains_of_tends turns).find?_eq_none isNew] at isThere
    cases isThere
  intro qualifies
  cases course with
  | invalid toFinish => exact notRetained toFinish
  | settled toFinish => exact notRetained toFinish
  | awaited toSeen _ _ _ toFinish => exact notRetained (toSeen.trans toFinish)
  | givenUp retryable =>
      cases isEnd
      rw [final] at retryable
      cases retryable
  | broken => cases isEnd
  | clashed toSeen _ toTaken _ toFinish =>
      exact notRetained ((toSeen.trans toTaken).trans toFinish)
  | vanished toSeen _ toTaken _ toFinish =>
      exact notRetained ((toSeen.trans toTaken).trans toFinish)
  | failed placed toFinish isReady failed =>
      rw [placed.find?_of_isNew toFinish isFirst isNew, Option.some.injEq] at isReady
      rw [← isReady] at failed
      rcases qualifies.serves with requested | serves
      · rw [requested] at failed
        cases failed
      · exact Capability.not_serves_of_failed failed serves
  | resolved placed toWaited isReady settled toFinish isResolved =>
      have now := placed.find?_of_isNew (toWaited.trans toFinish) isFirst isNew
      have final := (becomes_of_find? (bustles_of_tends toFinish) isReady now).eq_of_settled settled
      rw [isFirst, Option.some.injEq] at isResolved
      rcases qualifies.serves with requested | serves
      · rw [← final, requested] at settled
        cases settled
      · obtain ⟨_, given⟩ := Capability.exists_result_iff.mpr ⟨qualifies.housed, serves⟩
        rw [← isResolved, given] at isEnd
        cases isEnd
  | missed _ _ _ _ _ missed =>
      rw [isFirst] at missed
      cases missed

end Final

/-! ## The second call -/

/-- A valid capability is found that was not there before. -/
def Joined (requirement : Requirement) (lookup : Lookup) (before after : Store Capability) : Prop :=
  ∃ found, lookup.firstIn after = some found ∧ before.find? (key found) = none ∧
    found.validate requirement = .ok () ∧ found.home ≠ ""

/-- Nothing is found, the name that was drawn is taken, and the name that is drawn next is free. -/
structure DrawsAgain (requester : Requester) (requirement : Requirement) (lookup : Lookup)
    (drawn next : Serial) (store : Store Capability) : Prop where
  labeled : requirement.effectiveScope = .labeled
  agrees : requirement.SelectorAgrees
  housed : requester.namespaceName ≠ ""
  missed : lookup.firstIn store = none
  taken : store.find? ⟨requester.namespaceName, Placement.labeledName requirement drawn⟩ ≠ none
  free : store.find? ⟨requester.namespaceName, Placement.labeledName requirement next⟩ = none

section Retry

variable {operatorNamespace : String} {defaults : Defaults} {drawn next : Serial}
  {requester : Requester} {requirement : Requirement} {timeout : Duration} {lookup : Lookup}
  {built rebuilt : Capability} {start finish store : Store Capability} {exchanges : List Exchange}
  {error : ProvisioningError}

private theorem Joined.qualifies (joined : Joined requirement lookup start finish)
    (turns : Relation.ReflTransGen Bustles start finish) :
    ∃ found, lookup.firstIn finish = some found ∧ start.find? (key found) = none ∧
      found.Qualifies requirement := by
  obtain ⟨found, isFirst, isNew, valid, housed⟩ := joined
  have comes := comesRequested_of_bustles turns found (Lookup.firstIn_eq_some_iff.mp isFirst).1 isNew
  exact ⟨found, isFirst, isNew, valid, housed, comes⟩

theorem DrawsAgain.vacancy (draws : DrawsAgain requester requirement lookup drawn next store)
    (planned : Lookup.plan requester requirement = .ok lookup)
    (isRebuilt : Placement.build requester requirement defaults operatorNamespace next =
      .ok rebuilt) : Vacancy requirement lookup rebuilt store := by
  have isOwn := isRebuilt
  rw [Placement.build_labeled draws.labeled, Except.ok.injEq] at isOwn
  exact
    { free := isOwn ▸ draws.free
      unmatched := Lookup.firstIn_eq_none_iff.mp draws.missed
      matched := (Placement.matchesCapability_build_iff planned isRebuilt).mpr fun _ => draws.agrees
      valid := Placement.validate_build isRebuilt
      housed := isOwn ▸ draws.housed
      unsettled := Placement.status_of_build isRebuilt }

theorem drawsAgain_of_vacancy (planned : Lookup.plan requester requirement = .ok lookup)
    (isBuilt : Placement.build requester requirement defaults operatorNamespace drawn = .ok built)
    (isRebuilt : Placement.build requester requirement defaults operatorNamespace next =
      .ok rebuilt)
    (vacancy : Vacancy requirement lookup rebuilt store) (taken : store.find? (key built) ≠ none) :
    DrawsAgain requester requirement lookup drawn next store := by
  have labeled : requirement.effectiveScope = .labeled := by
    by_contra unlabeled
    rw [Placement.build_of_unlabeled unlabeled defaults operatorNamespace drawn next, isRebuilt,
      Except.ok.injEq] at isBuilt
    exact taken (isBuilt ▸ vacancy.free)
  have isOwn := isBuilt
  have isOwnAgain := isRebuilt
  rw [Placement.build_labeled labeled, Except.ok.injEq] at isOwn isOwnAgain
  have housed := vacancy.housed
  have free := vacancy.free
  rw [← isOwnAgain] at housed free
  rw [← isOwn] at taken
  exact
    { labeled
      agrees := (Placement.matchesCapability_build_iff planned isRebuilt).mp vacancy.matched labeled
      housed
      missed := vacancy.firstIn_initial
      taken
      free }

private theorem exists_plan_of_providable
    (providable : Providable operatorNamespace defaults next requester requirement timeout store) :
    ∃ lookup, Lookup.plan requester requirement = .ok lookup := by
  obtain ⟨_, result, _, goes⟩ := providable
  cases planned : Lookup.plan requester requirement with
  | ok lookup => exact ⟨lookup, rfl⟩
  | error error =>
      rw [provide, planned] at goes
      cases (Program.goes_done_iff.mp goes).2.1

private theorem unqualified_or_crowded_of_failed
    (planned : Lookup.plan requester requirement = .ok lookup)
    (isBuilt : Placement.build requester requirement defaults operatorNamespace drawn = .ok built)
    (failed : (provide operatorNamespace drawn requester requirement timeout).Goes
      (Tended defaults Bustles) start exchanges (.done (.error error)) finish)
    (final : error.isRetryable = false) :
    (Relation.ReflTransGen Bustles start finish ∧
        ∃ found, lookup.firstIn finish = some found ∧ ¬ found.Qualifies requirement) ∨
      Crowded lookup built start finish := by
  have unsettled : built.phase = .requested := by
    rw [Capability.phase, Placement.status_of_build isBuilt]
    rfl
  exact unqualified_or_crowded unsettled (course_of_tended planned isBuilt (isOver_done _) failed)
    rfl final

private theorem bustles_of_failed (planned : Lookup.plan requester requirement = .ok lookup)
    (failed : (provide operatorNamespace drawn requester requirement timeout).Goes
      (Tended defaults Bustles) start exchanges (.done (.error error)) finish)
    (final : error.isRetryable = false) : Relation.ReflTransGen Bustles start finish := by
  obtain ⟨built, isBuilt⟩ := Placement.exists_build planned defaults operatorNamespace drawn
  rcases unqualified_or_crowded_of_failed planned isBuilt failed final with ⟨turns, _⟩ | crowded
  · exact turns
  · exact crowded.turns

private theorem providable_again_iff (planned : Lookup.plan requester requirement = .ok lookup)
    (failed : (provide operatorNamespace drawn requester requirement timeout).Goes
      (Tended defaults Bustles) start exchanges (.done (.error error)) finish)
    (final : error.isRetryable = false) :
    Providable operatorNamespace defaults next requester requirement timeout finish ↔
      Joined requirement lookup start finish ∨
        DrawsAgain requester requirement lookup drawn next finish := by
  obtain ⟨built, isBuilt⟩ := Placement.exists_build planned defaults operatorNamespace drawn
  obtain ⟨rebuilt, isRebuilt⟩ := Placement.exists_build planned defaults operatorNamespace next
  have ways := unqualified_or_crowded_of_failed planned isBuilt failed final
  rw [providable_iff planned isRebuilt]
  constructor
  · rintro (⟨found, isFirst, qualifies⟩ | vacancy)
    · rcases ways with ⟨_, other, isOther, unqualified⟩ | crowded
      · rw [isFirst, Option.some.injEq] at isOther
        exact absurd (isOther ▸ qualifies) unqualified
      · exact Or.inl
          ⟨found, isFirst, crowded.isNew isFirst, qualifies.valid, qualifies.housed⟩
    · rcases ways with ⟨_, other, isOther, _⟩ | ⟨_, _, _, _, taken⟩
      · rw [vacancy.firstIn_initial] at isOther
        cases isOther
      · exact Or.inr (drawsAgain_of_vacancy planned isBuilt isRebuilt vacancy taken)
  · rintro (joined | draws)
    · obtain ⟨found, isFirst, _, qualifies⟩ :=
        joined.qualifies (bustles_of_failed planned failed final)
      exact Or.inl ⟨found, isFirst, qualifies⟩
    · exact Or.inr (draws.vacancy planned isRebuilt)

private theorem not_joined (planned : Lookup.plan requester requirement = .ok lookup)
    (failed : (provide operatorNamespace drawn requester requirement timeout).Goes
      (Tended defaults Tends) start exchanges (.done (.error error)) finish)
    (final : error.isRetryable = false) : ¬ Joined requirement lookup start finish := by
  obtain ⟨built, isBuilt⟩ := Placement.exists_build planned defaults operatorNamespace drawn
  have bustling := failed.mono (Tended.mono fun _ _ => Bustles.tended)
  intro joined
  obtain ⟨found, isFirst, isNew, qualifies⟩ :=
    joined.qualifies (bustles_of_failed planned bustling final)
  exact not_qualifies_of_isNew (course_of_tended planned isBuilt (isOver_done _) failed) rfl final
    isFirst isNew qualifies

/-- After an error that is not retryable, in a cluster in which capabilities are requested and served
and nothing else happens, the same call can end with a result exactly in two cases: its lookup finds
a valid capability that others have requested during the first call, or it finds nothing, the name
that the first call drew is taken, and the next is free.  Where only controllers act, this leaves the
second case. -/
theorem provide_retry_iff
    (failed : (provide operatorNamespace drawn requester requirement timeout).Goes
      (Tended defaults Bustles) start exchanges (.done (.error error)) finish)
    (final : error.isRetryable = false) (next : Serial) :
    (Providable operatorNamespace defaults next requester requirement timeout finish ↔
      ∃ lookup, Lookup.plan requester requirement = .ok lookup ∧
        (Joined requirement lookup start finish ∨
          DrawsAgain requester requirement lookup drawn next finish)) ∧
    ((provide operatorNamespace drawn requester requirement timeout).Goes
        (Tended defaults Tends) start exchanges (.done (.error error)) finish →
      (Providable operatorNamespace defaults next requester requirement timeout finish ↔
        ∃ lookup, Lookup.plan requester requirement = .ok lookup ∧
          DrawsAgain requester requirement lookup drawn next finish)) := by
  have again : ∀ {lookup}, Lookup.plan requester requirement = .ok lookup →
      (Providable operatorNamespace defaults next requester requirement timeout finish ↔
        Joined requirement lookup start finish ∨
          DrawsAgain requester requirement lookup drawn next finish) :=
    fun planned => providable_again_iff planned failed final
  constructor
  · constructor
    · intro providable
      obtain ⟨lookup, planned⟩ := exists_plan_of_providable providable
      exact ⟨lookup, planned, (again planned).mp providable⟩
    · rintro ⟨lookup, planned, ways⟩
      exact (again planned).mpr ways
  · intro quiet
    constructor
    · intro providable
      obtain ⟨lookup, planned⟩ := exists_plan_of_providable providable
      rcases (again planned).mp providable with joined | draws
      · exact absurd joined (not_joined planned quiet final)
      · exact ⟨lookup, planned, draws⟩
    · rintro ⟨lookup, planned, draws⟩
      exact (again planned).mpr (Or.inr draws)

end Retry

/-! ## Two that can succeed after they have failed -/

section Runs

variable {operatorNamespace : String} {defaults : Defaults} {serial : Serial} {requester : Requester}
  {requirement : Requirement} {built existing : Capability} {store : Store Capability}
  {error : ProvisioningError}

private theorem goes_of_clash (timeout : Duration) (lookup : Lookup)
    (isBuilt : Placement.build requester requirement defaults operatorNamespace serial = .ok built)
    (taken : store.find? (key built) = some existing)
    (invalid : existing.validate requirement = .error error) :
    (provideNew operatorNamespace serial requester requirement timeout lookup).run.Goes
      (Replies defaults) store
      [⟨.loadDefaults, .ok defaults⟩,
        ⟨.create built, .error (.server (.refused (Store.takenResponse built.name)))⟩,
        ⟨.get built.home built.name, .ok (some existing)⟩] (.done (.error error)) store := by
  have loaded : Replies defaults store .loadDefaults (.ok defaults) store := ⟨rfl, rfl⟩
  have refused : Replies defaults store (.create built)
      (.error (.server (.refused (Store.takenResponse built.name)))) store :=
    (replies_create_of_taken defaults taken).mpr ⟨rfl, rfl⟩
  have read : Replies defaults store (.get built.home built.name) (.ok (some existing)) store :=
    ⟨congrArg Except.ok taken.symm, rfl⟩
  have saysTaken :
      (Failure.server (.refused (Store.takenResponse built.name))).saysTaken = true :=
    Failure.saysTaken_iff.mpr ⟨_, rfl, rfl⟩
  rw [run_provideNew]
  refine .call loaded ?_
  simp only [isBuilt, run_createOrAdopt_bind]
  refine .call refused ?_
  simp only [if_pos saysTaken, run_adopt_bind]
  refine .call read ?_
  simp only [invalid]
  exact .still _ _

end Runs

private theorem plan_paymentsDatabase (requester : Requester) :
    Lookup.plan requester paymentsDatabase = .ok (.byLabels none paymentsDatabase.selector) :=
  rfl

/-- The only database of the shop's namespace belongs to no team, and has the first of the names. -/
def unlabeledDatabase : Capability where
  metadata := { name := some "dbms-0000", namespaceName := some "retail" }
  spec := { capability := .dbms }
  status := some (.serving "orders")

/-- A shop that draws the name of that database fails, and other names are free. -/
theorem exists_clash :
    ∃ exchanges error, error.isRetryable = false ∧
      (provide "operators" 0 ⟨"shop", "retail"⟩ paymentsDatabase ⟨0⟩).Goes (Tended {} Tends)
        (Store.empty.put unlabeledDatabase) exchanges (.done (.error error))
        (Store.empty.put unlabeledDatabase) ∧
      DrawsAgain ⟨"shop", "retail"⟩ paymentsDatabase (.byLabels none paymentsDatabase.selector) 0 1
        (Store.empty.put unlabeledDatabase) := by
  have missed : (Lookup.byLabels none paymentsDatabase.selector).firstIn
      (Store.empty.put unlabeledDatabase) = none := by decide
  have plain : ∀ name ∈ Conventions.engineLabels, paymentsDatabase.selector.get? name = none := by
    decide
  have isBuilt : Placement.build ⟨"shop", "retail"⟩ paymentsDatabase {} "operators" 0 =
      .ok (Placement.ownCapability ⟨"shop", "retail"⟩ paymentsDatabase 0) :=
    Placement.build_labeled rfl {} "operators"
  have taken : (Store.empty.put unlabeledDatabase).find?
      (key (Placement.ownCapability ⟨"shop", "retail"⟩ paymentsDatabase 0)) =
        some unlabeledDatabase := by
    decide
  obtain ⟨_, missing⟩ := goes_of_miss "operators" 0 ⟨0⟩ {} (plan_paymentsDatabase _) missed
  have clashing := goes_of_clash ⟨0⟩ (.byLabels none paymentsDatabase.selector) isBuilt taken rfl
  refine ⟨_, _, rfl, (missing.trans clashing).mono tended_of_replies, ?_⟩
  exact
    { labeled := rfl
      agrees := Placement.selectorAgrees_of_plain plain
      housed := by decide
      missed
      taken := by decide
      free := by decide }

/-- A shop that creates its database while a desk requests one that is found first fails, as that
one is not settled. -/
theorem exists_joined :
    ∃ exchanges error finish, error.isRetryable = false ∧
      (provide "operators" 0 ⟨"shop", "retail"⟩ paymentsDatabase ⟨0⟩).Goes (Tended {} Bustles) .empty
        exchanges (.done (.error error)) finish ∧
      Joined paymentsDatabase (.byLabels none paymentsDatabase.selector) .empty finish := by
  let own := Placement.ownCapability ⟨"shop", "retail"⟩ paymentsDatabase 0
  let other := Placement.ownCapability ⟨"desk", "billing"⟩ paymentsDatabase 7
  let ready : Capability := { own with status := some (.serving "service") }
  have serving : (CapabilityStatus.serving "service").Serves :=
    CapabilityStatus.serves_serving (by decide)
  have isBuilt : Placement.build ⟨"shop", "retail"⟩ paymentsDatabase {} "operators" 0 = .ok own :=
    Placement.build_labeled rfl {} "operators"
  have requested : Bustles (Store.empty.put own) ((Store.empty.put own).put other) :=
    .requested (by decide) rfl
  have served : Tends ((Store.empty.put own).put other)
      (((Store.empty.put own).put other).put ready) :=
    .served (Store.mem_put_iff.mpr (Or.inr ⟨Store.mem_put_self, by decide⟩)) rfl
      serving
  have isFirst : (Lookup.byLabels none paymentsDatabase.selector).firstIn
      (((Store.empty.put own).put other).put ready) = some other := by
    decide
  have missed : (Lookup.byLabels none paymentsDatabase.selector).firstIn .empty = none := rfl
  obtain ⟨_, missing⟩ := goes_of_miss "operators" 0 ⟨0⟩ {} (plan_paymentsDatabase _) missed
  have creating := goes_of_creation "operators" 0 ⟨0⟩ {} (.byLabels none paymentsDatabase.selector)
    isBuilt (Store.find?_empty _)
  have member : ready ∈ (((Store.empty.put own).put other).put ready).objects :=
    Store.mem_put_self
  obtain ⟨_, waiting⟩ := goes_of_settled ⟨0⟩ {} own member rfl rfl isFirst
  rw [run_awaitCreated] at waiting creating
  have ending := goes_of_turns (isOver_done _) ((Relation.ReflTransGen.single requested).tail
    (.tended served)) (waiting.mono tended_of_replies)
  refine ⟨_, _, _, ?_, ((missing.trans creating).mono tended_of_replies).trans ending, ?_⟩
  · rfl
  · exact ⟨other, isFirst, rfl, by decide, by decide⟩

/-- Both can end with a result when they are made again. -/
theorem provide_retry_payments :
    Providable "operators" {} 1 ⟨"shop", "retail"⟩ paymentsDatabase ⟨0⟩
        (Store.empty.put unlabeledDatabase) ∧
      ∃ exchanges error finish, error.isRetryable = false ∧
        (provide "operators" 0 ⟨"shop", "retail"⟩ paymentsDatabase ⟨0⟩).Goes (Tended {} Bustles)
          .empty exchanges (.done (.error error)) finish ∧
        Providable "operators" {} 0 ⟨"shop", "retail"⟩ paymentsDatabase ⟨0⟩ finish := by
  constructor
  · obtain ⟨_, _, final, quiet, draws⟩ := exists_clash
    have failed := quiet.mono (Tended.mono fun _ _ => Bustles.tended)
    exact ((provide_retry_iff failed final 1).2 quiet).mpr
      ⟨_, plan_paymentsDatabase _, draws⟩
  · obtain ⟨_, _, _, final, failed, joined⟩ := exists_joined
    exact ⟨_, _, _, final, failed,
      (provide_retry_iff failed final 0).1.mpr ⟨_, plan_paymentsDatabase _, Or.inl joined⟩⟩

end Provision

end Provisioning
