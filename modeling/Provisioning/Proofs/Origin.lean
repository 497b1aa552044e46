import Provisioning.Proofs.Interleaving
import Provisioning.Proofs.Ways

/-!
# Where a provided capability comes from

A call that succeeds either used a capability that its lookup had found and that was valid, or
created or adopted a valid one at the canonical place and looked again.  Main statement:
`origin_of_provide`; the theorems about what is provided are read off it.
-/

namespace Provisioning

open ClusterObject

namespace Provision

variable {others : Store Capability → Store Capability → Prop} {before after : History}

/-! ## What a call gets for its requests -/

private theorem listed_of_chosen {answer : Except Failure (List Capability)} {found? : Option Capability}
    (chosen : Except.map first? answer = .ok found?) :
    ∃ objects, answer = .ok objects ∧ first? objects = found? := by
  cases answer with
  | error failure => cases chosen
  | ok objects => exact ⟨objects, rfl, Except.ok.inj chosen⟩

/-- A lookup is answered with the first match of the cluster by then. -/
theorem firstIn_of_answered {lookup : Lookup} {found? : Option Capability}
    {answer : lookup.request.Answer} (answered : Answered others before lookup.request answer after)
    (outcome : lookup.outcome answer = .ok found?) :
    Passes others before after ∧ found? = lookup.firstIn after.now := by
  cases lookup with
  | byName namespaceName name =>
      simpa using ⟨answered.1, answered.2 _ outcome⟩
  | byLabels namespaceName? labels =>
      cases namespaceName? with
      | none =>
          obtain ⟨objects, given, chosen⟩ := listed_of_chosen outcome
          exact ⟨answered.1, chosen.symm.trans (first?_of_perm (answered.2 _ given))⟩
      | some namespaceName =>
          obtain ⟨objects, given, chosen⟩ := listed_of_chosen outcome
          exact ⟨answered.1, chosen.symm.trans (first?_of_perm (answered.2 _ given))⟩

private theorem found_of_answered {lookup : Lookup} {found : Capability} {answer : lookup.request.Answer}
    (answered : Answered others before lookup.request answer after)
    (isFound : lookup.outcome answer = .ok (some found)) :
    found ∈ after.now.objects ∧ lookup.matchesCapability found = true :=
  List.mem_filter.mp (mem_of_first? (firstIn_of_answered answered isFound).2.symm)

theorem passes_of_wait {namespaceName name : String} {timeout : Duration}
    {ended : Wait.End Capability}
    (waited : Answered others before (.awaitSettled namespaceName name timeout) ended after) :
    Passes others before after := by
  obtain ⟨events, run⟩ := waited
  exact passes_of_watchRun run

/-- What a call waits for and gets is settled and was in the cluster under the key asked for. -/
theorem settled_of_answered {capability object : Capability} {timeout : Duration}
    (waited : Answered others before (.awaitSettled capability.home capability.name timeout)
      (.met object) after) :
    object.phase.isTerminal = true ∧ key object = key capability ∧ after.Held object := by
  obtain ⟨events, run⟩ := waited
  obtain ⟨terminal, covered, held⟩ := met_of_settlementWait run
  exact ⟨terminal, covers_named_iff.mp covered, held⟩

/-! ## What its parts get -/

section Parts

variable {requirement : Requirement} {timeout : Duration} {lookup : Lookup}
  {exchanges : List Exchange} {result : ProvisionResult}

/-- What is used of what was found has its key, and is itself unless that had to be awaited. -/
theorem UseWay.used {existing : Capability} (held : before.Held existing)
    (way : UseWay (Answered others) requirement timeout existing before exchanges
      (.done (.ok result)) after) :
    after.Held existing ∧ existing.validate requirement = .ok () ∧
      ∃ capability, ProvisionResult.ofCapability capability = .ok result ∧
        after.Held capability ∧ key capability = key existing ∧
        (capability = existing ∨ existing.phase.isTerminal = false) := by
  cases way with
  | settled valid _ given => exact ⟨held, valid, existing, given, held, rfl, Or.inl rfl⟩
  | awaited valid unsettled waited given =>
      obtain ⟨_, sameKey, heldAfter⟩ := settled_of_answered waited
      exact ⟨(keeps_held existing).answered waited held, valid, _, given, heldAfter, sameKey,
        Or.inr unsettled⟩

/-- What is awaited after a creation is valid if what was to be created is. -/
theorem CreateWay.exists_target {built : Capability} (valid : built.validate requirement = .ok ())
    (way : CreateWay (Answered others) requirement timeout lookup built before exchanges
      (.done (.ok result)) after) :
    ∃ target middle rest, middle.Held target ∧ key target = key built ∧
      target.validate requirement = .ok () ∧
      AwaitWay (Answered others) timeout lookup target middle rest (.done (.ok result)) after := by
  cases way with
  | created created awaits =>
      obtain ⟨_, _, ⟨_, made, rfl⟩ | ⟨_, refused, _⟩⟩ := created
      · obtain ⟨_, rfl⟩ := Store.create_eq_ok_iff.mp made
        exact ⟨built, _, _, History.held_now Store.mem_put_self, rfl, valid, awaits⟩
      · cases refused
  | adopted _ _ read isValid awaits =>
      obtain ⟨member, sameKey⟩ := Store.find?_eq_some_iff.mp (read.2 _ rfl).symm
      exact ⟨_, _, _, History.held_now member, sameKey, isValid, awaits⟩

/-- What is handed out after a wait is what the lookup found then. -/
theorem AwaitWay.firstIn {target : Capability}
    (way : AwaitWay (Answered others) timeout lookup target before exchanges (.done (.ok result))
      after) :
    Passes others before after ∧
      ∃ capability, ProvisionResult.ofCapability capability = .ok result ∧
        lookup.firstIn after.now = some capability := by
  obtain ⟨_, resolved, _, _, waited, answered, found, given⟩ := way.exists_resolved
  obtain ⟨passes, isFirst⟩ := firstIn_of_answered answered found
  exact ⟨(passes_of_wait waited).trans passes, resolved, given, isFirst.symm⟩

end Parts

/-! ## The whole call -/

/-- Where a provided capability comes from.  It is a valid one that the lookup had found, or was kept
under the key of one that had to be awaited; or the lookup found it itself, after a valid one was
created or adopted at the canonical place. -/
inductive Origin (operatorNamespace : String) (serial : Serial) (requester : Requester)
    (requirement : Requirement) (lookup : Lookup) (history : History)
    (capability : Capability) : Prop where
  | existing (found : Capability) (held : history.Held found)
      (matched : lookup.matchesCapability found = true)
      (valid : found.validate requirement = .ok ()) (sameKey : key capability = key found)
      (asFound : capability = found ∨ found.phase.isTerminal = false)
  | created (target built : Capability) (defaults : Defaults) (held : history.Held target)
      (valid : target.validate requirement = .ok ())
      (placed : Placement.build requester requirement defaults operatorNamespace serial =
        .ok built)
      (sameKey : key target = key built) (matched : lookup.matchesCapability capability = true)

theorem origin_of_provide {operatorNamespace : String} {serial : Serial} {requester : Requester}
    {requirement : Requirement} {timeout : Duration} {result : ProvisionResult}
    (run : (provide operatorNamespace serial requester requirement timeout).EndsWith
      (Answered others) before (.ok result) after) :
    ∃ lookup capability, Lookup.plan requester requirement = .ok lookup ∧
      ProvisionResult.ofCapability capability = .ok result ∧ after.Held capability ∧
        Origin operatorNamespace serial requester requirement lookup after capability := by
  obtain ⟨_, goes⟩ := Program.endsWith_iff_goes.mp run
  obtain ⟨lookup, planned, way⟩ := callWay_of_result goes
  cases way with
  | @found found _ _ _ _ _ answered isFound uses =>
      obtain ⟨member, matched⟩ := found_of_answered answered isFound
      obtain ⟨foundHeld, valid, capability, given, held, sameKey, asFound⟩ :=
        uses.used (History.held_now member)
      exact ⟨lookup, capability, planned, given, held,
        .existing found foundHeld matched valid sameKey asFound⟩
  | missed _ _ provides =>
      cases provides with
      | @placed defaults built _ _ _ _ _ placed creates =>
          obtain ⟨target, _, _, held, sameKey, valid, awaits⟩ :=
            creates.exists_target (Placement.validate_build placed)
          obtain ⟨_, capability, given, isFirst⟩ := awaits.firstIn
          obtain ⟨member, matched⟩ := List.mem_filter.mp (mem_of_first? isFirst)
          have targetHeld := (keeps_held target).goes awaits.goes held
          exact ⟨lookup, capability, planned, given, History.held_now member,
            .created target built defaults targetHeld valid placed sameKey matched⟩

/-- Where labels are kept, a capability that comes from a lookup is one that the lookup asks for. -/
theorem Origin.matches {operatorNamespace : String} {serial : Serial} {requester : Requester}
    {requirement : Requirement} {lookup : Lookup} {history : History} {capability : Capability}
    (kept : history.LabelsKept) (held : history.Held capability)
    (origin : Origin operatorNamespace serial requester requirement lookup history capability) :
    lookup.matchesCapability capability = true := by
  cases origin with
  | existing found foundHeld matched _ sameKey _ =>
      have sameLabels := kept capability found held foundHeld sameKey
      rw [Lookup.matchesCapability_congr sameKey sameLabels]
      exact matched
  | created _ _ _ _ _ _ _ matched => exact matched

end Provision

end Provisioning
