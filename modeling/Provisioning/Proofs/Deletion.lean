import Provisioning.Proofs.Interleaving
import Provisioning.Proofs.Ways

/-!
# Deleted capabilities

A wait takes the last state of a deleted object for a state like any other.  A call that created its
capability, or took one whose name was taken, looks it up again after the wait, so that what it hands
out was there when it was last heard of.  A call that found its capability and waits for it does not
look again: it hands out a deleted capability, if the first settled state that it is told of is the
one in which the capability was deleted.

Main statement: `provide_lastReport`.
-/

namespace Provisioning

open ClusterObject

/-! ## What a call is told -/

/-- What was reported about capabilities, in order: that one is there, or that one was deleted. -/
abbrev Reports := List (WatchEvent Capability)

namespace Reports

/-- The last report about a place. -/
def last? (reports : Reports) (place : ObjectKey) : Option (WatchEvent Capability) :=
  (reports.filter fun report => key report.object = place).getLast?

/-- When a place was last heard of, there was a capability. -/
def ShowPresent (reports : Reports) (place : ObjectKey) : Prop :=
  ∃ capability, reports.last? place = some (.applied capability)

/-- The reports that capabilities are there. -/
def present (capabilities : List Capability) : Reports :=
  capabilities.map .applied

@[simp]
theorem last?_append_event (reports : Reports) (event : WatchEvent Capability) :
    (reports ++ [event]).last? (key event.object) = some event := by
  rw [last?, List.filter_append, List.filter_cons_of_pos (by simp), List.filter_nil,
    List.getLast?_concat]

/-- A capability that was listed last is there. -/
theorem showPresent_append {capabilities : List Capability} {capability : Capability}
    (reports : Reports) (member : capability ∈ capabilities) :
    (reports ++ present capabilities).ShowPresent (key capability) := by
  let about : Reports :=
    (present capabilities).filter fun report => key report.object = key capability
  have listed : .applied capability ∈ about :=
    List.mem_filter.mpr ⟨List.mem_map_of_mem member, by simp [WatchEvent.object]⟩
  have filled : about ≠ [] := List.ne_nil_of_mem listed
  obtain ⟨inPresent, _⟩ := List.mem_filter.mp (List.getLast_mem filled)
  obtain ⟨last, _, isLast⟩ := List.mem_map.mp inPresent
  refine ⟨last, ?_⟩
  rw [last?, List.filter_append, List.getLast?_append, List.getLast?_eq_some_getLast filled,
    Option.some_or, isLast]

end Reports

/-- The objects that an answer to a wait shows to be there. -/
def Timely.listed : Timely (Except WaitError (List Capability)) → List Capability
  | .inTime (.ok capabilities) => capabilities
  | .inTime (.error _) => []
  | .late => []

/-- The event that an answer to a wait brings, if any. -/
def Timely.event? : Timely (Option (Except WaitError (WatchEvent Capability))) → Reports
  | .inTime (some (.ok event)) => [event]
  | .inTime (some (.error _)) => []
  | .inTime none => []
  | .late => []

/-- What a wait is told by the answers to its operations, whatever they are. -/
def WatchCall.Reported (before : Reports) :
    (request : WatchCall) → request.Answer → Reports → Prop
  | .now, _, after => after = before
  | .current .., answer, after => after = before ++ Reports.present answer.listed
  | .subscribe .., _, after => after = before
  | .next .., answer, after => after = before ++ answer.event?

namespace CapabilityCall

/-- The capabilities that an answer shows to be there. -/
def shown : (request : CapabilityCall) → request.Answer → List Capability
  | .get .., .ok found? => found?.toList
  | .get .., .error _ => []
  | .listIn .., .ok capabilities => capabilities
  | .listIn .., .error _ => []
  | .listAll .., .ok capabilities => capabilities
  | .listAll .., .error _ => []
  | .create _, .ok created => [created]
  | .create _, .error _ => []
  | .loadDefaults, _ => []
  | .awaitSettled .., _ => []

/-- What a call of provisioning is told by the answers, whatever they are. -/
def Reported (before : Reports) : (request : CapabilityCall) → request.Answer → Reports → Prop
  | .awaitSettled namespaceName name timeout, outcome, after =>
      ∃ events, (settlementWait (.named namespaceName name) timeout events).EndsWith
        WatchCall.Reported before (some outcome) after
  | .get namespaceName name, answer, after =>
      after = before ++ Reports.present (shown (.get namespaceName name) answer)
  | .listIn namespaceName labels, answer, after =>
      after = before ++ Reports.present (shown (.listIn namespaceName labels) answer)
  | .listAll labels, answer, after =>
      after = before ++ Reports.present (shown (.listAll labels) answer)
  | .create capability, answer, after =>
      after = before ++ Reports.present (shown (.create capability) answer)
  | .loadDefaults, _, after => after = before

end CapabilityCall

@[simp]
theorem Lookup.reported_iff {lookup : Lookup} {answer : lookup.request.Answer}
    {before after : Reports} :
    CapabilityCall.Reported before lookup.request answer after ↔
      after = before ++ Reports.present (lookup.request.shown answer) := by
  cases lookup with
  | byName namespaceName name => exact Iff.rfl
  | byLabels namespaceName? labels =>
      cases namespaceName? with
      | none => exact Iff.rfl
      | some namespaceName => exact Iff.rfl

/-- What a lookup finds, it was shown. -/
theorem Lookup.mem_shown {lookup : Lookup} {answer : lookup.request.Answer} {found : Capability}
    (isFound : lookup.outcome answer = .ok (some found)) : found ∈ lookup.request.shown answer := by
  have choice : ∀ {answer : Except Failure (List Capability)},
      answer.map Provision.first? = .ok (some found) →
        ∃ capabilities, answer = .ok capabilities ∧ found ∈ capabilities := by
    intro answer chosen
    cases answer with
    | error failure => cases chosen
    | ok capabilities => exact ⟨capabilities, rfl, Provision.mem_of_first? (Except.ok.inj chosen)⟩
  cases lookup with
  | byName namespaceName name =>
      have isAnswer : answer = .ok (some found) := isFound
      rw [isAnswer]
      exact List.mem_singleton.mpr rfl
  | byLabels namespaceName? labels =>
      cases namespaceName? with
      | none =>
          obtain ⟨capabilities, isAnswer, member⟩ := choice isFound
          rw [isAnswer]
          exact member
      | some namespaceName =>
          obtain ⟨capabilities, isAnswer, member⟩ := choice isFound
          rw [isAnswer]
          exact member

/-! ## What a wait hands on -/

/-- The reports of a wait whose end is an event: the objects that there were, the events that were
passed over, and the event.  Only its object is settled. -/
structure EndsByEvent (told : Reports) (event : WatchEvent Capability) : Prop where
  split : ∃ listed passed, told = Reports.present listed ++ passed ++ [event] ∧
    (∀ capability ∈ listed, capability.phase.isTerminal = false) ∧
    ∀ earlier ∈ passed, earlier.object.phase.isTerminal = false
  settled : event.object.phase.isTerminal = true

section Wait

variable {before after : Reports} {locator : Locator} {object : Capability}

private theorem not_met_of_reported_timedOut {start : Duration} :
    ¬ (some <$> Wait.timedOut watchCalls locator start).EndsWith WatchCall.Reported before
      (some (.met object)) after := by
  intro run
  obtain ⟨_, _, _, ended⟩ := Program.endsWith_perform_bind_iff.mp run
  cases (Program.endsWith_pure_iff.mp ended).1

private theorem event_of_listen {subscription : Locator} {start deadline : Duration} {events : Nat}
    (run : (Wait.listen watchCalls (fun capability => pure capability.phase.isTerminal) locator start
      deadline subscription events).EndsWith WatchCall.Reported before (some (.met object)) after) :
    ∃ passed event, after = before ++ passed ++ [event] ∧ event.object = object ∧
      (∀ earlier ∈ passed, earlier.object.phase.isTerminal = false) ∧
      object.phase.isTerminal = true := by
  induction events generalizing before with
  | zero => cases (Program.endsWith_pure_iff.mp run).1
  | succ events inductionHypothesis =>
      obtain ⟨answer, middle, told, rest⟩ := Program.endsWith_perform_bind_iff.mp run
      match answer, told, rest with
      | .late, _, rest => exact (not_met_of_reported_timedOut rest).elim
      | .inTime none, _, rest => cases (Program.endsWith_pure_iff.mp rest).1
      | .inTime (some (.error error)), _, rest => cases (Program.endsWith_pure_iff.mp rest).1
      | .inTime (some (.ok event)), told, rest =>
          have isMiddle : middle = before ++ [event] := told
          simp only [pure_bind] at rest
          by_cases settled : event.object.phase.isTerminal = true
          · rw [if_pos settled] at rest
            obtain ⟨equal, rfl⟩ := Program.endsWith_pure_iff.mp rest
            cases equal
            exact ⟨[], event, by rw [isMiddle, List.append_nil], rfl, by simp, settled⟩
          · rw [if_neg settled] at rest
            obtain ⟨passed, last, isAfter, isObject, unsettled, isSettled⟩ :=
              inductionHypothesis rest
            refine ⟨event :: passed, last, ?_, isObject, ?_, isSettled⟩
            · rw [isAfter, isMiddle]
              simp
            · exact List.forall_mem_cons.mpr ⟨Bool.eq_false_iff.mpr settled, unsettled⟩

/-- A wait hands on one of the objects that there were, or that of the event that ends it. -/
theorem told_of_settlementWait {timeout : Duration} {events : Nat}
    (run : (settlementWait locator timeout events).EndsWith WatchCall.Reported before
      (some (.met object)) after) :
    (∃ listed, after = before ++ Reports.present listed ∧ object ∈ listed) ∨
      ∃ told event, after = before ++ told ∧ EndsByEvent told event ∧ event.object = object := by
  obtain ⟨start, started, unchanged, rest⟩ := Program.endsWith_perform_bind_iff.mp run
  have isStarted : started = before := unchanged
  cases reach : Wait.deadline? start timeout with
  | none =>
      simp only [reach] at rest
      cases (Program.endsWith_pure_iff.mp rest).1
  | some deadline =>
      simp only [reach] at rest
      obtain ⟨answer, middle, told, rest⟩ := Program.endsWith_perform_bind_iff.mp rest
      match answer, told, rest with
      | .late, _, rest => exact (not_met_of_reported_timedOut rest).elim
      | .inTime (.error error), _, rest => cases (Program.endsWith_pure_iff.mp rest).1
      | .inTime (.ok objects), told, rest =>
          have isMiddle : middle = before ++ Reports.present objects := isStarted ▸ told
          simp only [firstMeeting_pure, pure_bind] at rest
          cases found : objects.find? fun capability => capability.phase.isTerminal with
          | some ready =>
              simp only [found] at rest
              obtain ⟨equal, rfl⟩ := Program.endsWith_pure_iff.mp rest
              cases equal
              exact Or.inl ⟨objects, isMiddle, List.mem_of_find?_eq_some found⟩
          | none =>
              simp only [found] at rest
              have unsettled : ∀ capability ∈ objects, capability.phase.isTerminal = false := by
                simpa using List.find?_eq_none.mp found
              obtain ⟨opened, _, subscribed, rest⟩ := Program.endsWith_perform_bind_iff.mp rest
              match opened, subscribed, rest with
              | .late, _, rest => exact (not_met_of_reported_timedOut rest).elim
              | .inTime (.error error), _, rest => cases (Program.endsWith_pure_iff.mp rest).1
              | .inTime (.ok subscription), subscribed, rest =>
                  obtain ⟨passed, event, isAfter, isObject, passedUnsettled, isSettled⟩ :=
                    event_of_listen rest
                  have sameReports : _ = middle := subscribed
                  refine Or.inr ⟨Reports.present objects ++ passed ++ [event], event, ?_,
                    ⟨⟨objects, passed, rfl, unsettled, passedUnsettled⟩, isObject ▸ isSettled⟩,
                    isObject⟩
                  rw [isAfter, sameReports, isMiddle]
                  simp only [List.append_assoc]

end Wait

/-! ## What a call hands out -/

namespace Provision

/-- A call hands out a deleted capability: it finds a valid one that is not settled, and the first
settled state that it is told of by its wait is the one in which the capability was deleted. -/
def HandsOutDeleted (requester : Requester) (requirement : Requirement) (timeout : Duration)
    (exchanges : List Exchange) (reports : Reports) (capability : Capability) : Prop :=
  ∃ (lookup : Lookup) (answer : lookup.request.Answer) (existing : Capability) (told : Reports),
    Lookup.plan requester requirement = .ok lookup ∧
    lookup.outcome answer = .ok (some existing) ∧
    existing.validate requirement = .ok () ∧
    existing.phase.isTerminal = false ∧
    exchanges = [⟨lookup.request, answer⟩,
      ⟨.awaitSettled existing.home existing.name timeout, .met capability⟩] ∧
    reports = Reports.present (lookup.request.shown answer) ++ told ∧
    EndsByEvent told (.deleted capability)

section Runs

variable {operatorNamespace : String} {serial : Serial} {requester : Requester}
  {requirement : Requirement} {timeout : Duration} {lookup : Lookup} {before reports : Reports}
  {exchanges : List Exchange} {result : ProvisionResult}

private theorem capability_of_ofCapability {capability : Capability}
    (given : ProvisionResult.ofCapability capability = .ok result) :
    result.capability = capability := by
  obtain ⟨_, _, _, _, _, _, rfl⟩ := ProvisionResult.ofCapability_eq_ok_iff.mp given
  rfl

/-- What is used of what was found is there, or was deleted while it was awaited. -/
theorem UseWay.present_or_deleted {existing : Capability} {seen : List Capability}
    (shown : existing ∈ seen)
    (way : UseWay CapabilityCall.Reported requirement timeout existing
      (before ++ Reports.present seen) exchanges (.done (.ok result)) reports) :
    reports.ShowPresent (key result.capability) ∨
      existing.validate requirement = .ok () ∧ existing.phase.isTerminal = false ∧
        exchanges = [⟨.awaitSettled existing.home existing.name timeout,
          .met result.capability⟩] ∧
        ∃ told, reports = before ++ Reports.present seen ++ told ∧
          EndsByEvent told (.deleted result.capability) := by
  cases way with
  | settled _ _ given =>
      rw [capability_of_ofCapability given]
      exact Or.inl (Reports.showPresent_append before shown)
  | @awaited ready _ _ valid unsettled waited given =>
      obtain ⟨events, waited⟩ := waited
      obtain rfl := capability_of_ofCapability given
      rcases told_of_settlementWait waited with
        ⟨listed, rfl, member⟩ | ⟨told, event, rfl, endsByEvent, isReady⟩
      · exact Or.inl (Reports.showPresent_append _ member)
      · cases event with
        | applied object =>
            obtain ⟨⟨listed, passed, rfl, _, _⟩, _⟩ := endsByEvent
            refine Or.inl ⟨object, ?_⟩
            rw [← isReady, ← List.append_assoc]
            exact Reports.last?_append_event _ (.applied object)
        | deleted object =>
            have isObject : object = result.capability := isReady
            rw [isObject] at endsByEvent
            exact Or.inr ⟨valid, unsettled, rfl, told, rfl, endsByEvent⟩

/-- What was created is looked up again. -/
theorem AwaitWay.present {target : Capability}
    (way : AwaitWay CapabilityCall.Reported timeout lookup target before exchanges
      (.done (.ok result)) reports) : reports.ShowPresent (key result.capability) := by
  obtain ⟨_, resolved, _, answer, _, told, found, given⟩ := way.exists_resolved
  rw [capability_of_ofCapability given, Lookup.reported_iff.mp told]
  exact Reports.showPresent_append _ (Lookup.mem_shown found)

theorem CreateWay.present {built : Capability}
    (way : CreateWay CapabilityCall.Reported requirement timeout lookup built before exchanges
      (.done (.ok result)) reports) : reports.ShowPresent (key result.capability) := by
  cases way with
  | created _ awaits => exact awaits.present
  | adopted _ _ _ _ awaits => exact awaits.present

theorem present_or_deleted_of_provide
    (goes : (provide operatorNamespace serial requester requirement timeout).Goes
      CapabilityCall.Reported [] exchanges (.done (.ok result)) reports) :
    reports.ShowPresent (key result.capability) ∨
      HandsOutDeleted requester requirement timeout exchanges reports result.capability := by
  obtain ⟨lookup, planned, way⟩ := callWay_of_result goes
  cases way with
  | @found existing _ _ answer _ _ told found uses =>
      rw [Lookup.reported_iff.mp told] at uses
      rcases uses.present_or_deleted (Lookup.mem_shown found) with
        present | ⟨valid, unsettled, rfl, told, rfl, endsByEvent⟩
      · exact Or.inl present
      · exact Or.inr ⟨lookup, answer, existing, told, planned, found, valid, unsettled, rfl, rfl,
          endsByEvent⟩
  | missed _ _ provides =>
      cases provides with
      | placed _ _ creates => exact Or.inl creates.present

theorem HandsOutDeleted.last? {capability : Capability}
    (handsOut : HandsOutDeleted requester requirement timeout exchanges reports capability) :
    reports.last? (key capability) = some (.deleted capability) := by
  obtain ⟨_, _, _, _, _, _, _, _, _, rfl, ⟨listed, passed, rfl, _, _⟩, _⟩ := handsOut
  rw [← List.append_assoc]
  exact Reports.last?_append_event _ (.deleted capability)

/-- Whatever the answers and the events: when a capability that is handed out was last heard of, it was
there, unless the call found it, had to wait for it, and was told of no settled state before that in
which it was deleted.  In that case a deleted capability is handed out. -/
theorem provide_lastReport
    (goes : (provide operatorNamespace serial requester requirement timeout).Goes
      CapabilityCall.Reported [] exchanges (.done (.ok result)) reports) :
    (reports.ShowPresent (key result.capability) ↔
      ¬ HandsOutDeleted requester requirement timeout exchanges reports result.capability) ∧
    (reports.last? (key result.capability) = some (.deleted result.capability) ↔
      HandsOutDeleted requester requirement timeout exchanges reports result.capability) := by
  have ways := present_or_deleted_of_provide goes
  have apart : reports.ShowPresent (key result.capability) →
      reports.last? (key result.capability) ≠ some (.deleted result.capability) := by
    rintro ⟨present, isPresent⟩ isDeleted
    rw [isPresent] at isDeleted
    cases isDeleted
  refine ⟨⟨?_, ways.resolve_right⟩, ?_, HandsOutDeleted.last?⟩
  · intro present handsOut
    exact apart present handsOut.last?
  · intro isDeleted
    exact ways.resolve_left fun present => apart present isDeleted

end Runs

/-! ### A database that is deleted -/

/-- The database that a shop shares with its namespace, requested and not settled yet. -/
def sharedDatabase : Capability where
  metadata :=
    { name := some "default-dbms-in-namespace"
      namespaceName := some "retail"
      labels := some (Placement.labels { capability := .dbms }) }
  spec := { capability := .dbms, scope := some .namespaced }

/-- The database once it serves. -/
def servingDatabase : Capability :=
  { sharedDatabase with status := some (.serving "orders") }

/-- The database is settled unnoticed and then deleted, and the shop is handed it. -/
theorem provide_lastReport_database :
    ∃ exchanges result reports,
      (provide "operators" 0 ⟨"shop", "retail"⟩ { capability := .dbms } ⟨0⟩).Goes
        CapabilityCall.Reported [] exchanges (.done (.ok result)) reports ∧
      result.capability = servingDatabase ∧
      reports.last? (key result.capability) = some (.deleted result.capability) := by
  let lookup : Lookup :=
    .byLabels (some "retail") (Lookup.sharedLabels { capability := .dbms })
  have planned : Lookup.plan ⟨"shop", "retail"⟩ { capability := .dbms } = .ok lookup := rfl
  have valid : sharedDatabase.validate { capability := .dbms } = .ok () := rfl
  have unsettled : sharedDatabase.phase.isTerminal = false := by decide
  obtain ⟨result, given, isServing⟩ : ∃ result,
      ProvisionResult.ofCapability servingDatabase = .ok result ∧
        result.capability = servingDatabase :=
    ProvisionResult.ofCapability_of_serves sharedDatabase
      (CapabilityStatus.serves_serving (by decide)) (by decide)
  let told : Reports := Reports.present [] ++ [] ++ [.deleted servingDatabase]
  have waited : CapabilityCall.Reported [.applied sharedDatabase]
      (.awaitSettled sharedDatabase.home sharedDatabase.name ⟨0⟩) (.met servingDatabase)
      ([.applied sharedDatabase] ++ told) := by
    refine ⟨1, Program.endsWith_perform_bind_iff.mpr ⟨⟨0⟩, _, rfl, ?_⟩⟩
    refine Program.endsWith_perform_bind_iff.mpr ⟨.inTime (.ok []), _, rfl, ?_⟩
    refine Program.endsWith_perform_bind_iff.mpr
      ⟨.inTime (.ok (.named "retail" "default-dbms-in-namespace")), _, rfl, ?_⟩
    exact Program.endsWith_perform_bind_iff.mpr
      ⟨.inTime (some (.ok (.deleted servingDatabase))), _, rfl, .done _ _⟩
  have goes : (provide "operators" 0 ⟨"shop", "retail"⟩ { capability := .dbms } ⟨0⟩).Goes
      CapabilityCall.Reported [] [⟨lookup.request, Except.ok [sharedDatabase]⟩,
        ⟨.awaitSettled sharedDatabase.home sharedDatabase.name ⟨0⟩, .met servingDatabase⟩]
      (.done (.ok result)) ([.applied sharedDatabase] ++ told) :=
    CallWay.goes planned
      (.found (Lookup.reported_iff.mpr rfl) rfl (.awaited valid unsettled waited given))
  refine ⟨_, result, _, goes, isServing, (provide_lastReport goes).2.mpr ?_⟩
  rw [isServing]
  exact ⟨lookup, Except.ok [sharedDatabase], sharedDatabase, told, planned, rfl, valid,
    unsettled, rfl, rfl, ⟨[], [], rfl, by simp, by simp⟩, rfl⟩

end Provision

end Provisioning
