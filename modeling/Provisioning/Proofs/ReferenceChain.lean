import Provisioning.Proofs.Lockstep
import Provisioning.Proofs.Serving
import Provisioning.Reference.Choice

/-!
# The sources of a reference

A requester gets its reference from one of three sources: what it states itself, what is discovered in
its namespace, and what the operator set.  The first of them that names something decides.  The ones
behind it are not asked, and a source that fails ends the choice with its failure.

Main statement: `choose_follows_sources`, on what is asked and what comes of it, whatever the sources
answer.
-/

namespace Provisioning

/-! ## What a source names -/

namespace Reference

/-- A reference names an object, for a holder in a namespace.  An empty text is as good as none. -/
structure Names (reference : Reference) (holder namespaceName name : String) : Prop where
  named : reference.name = some name
  filled : name ≠ ""
  housed : (reference.namespaceName = some namespaceName ∧ namespaceName ≠ "") ∨
    ((reference.namespaceName = none ∨ reference.namespaceName = some "") ∧
      namespaceName = holder)

/-- The operator's settings for a kind of capability name an object, for a holder in a namespace. -/
structure DefaultNames (defaults : Defaults) (kind : CapabilityKind)
    (holder namespaceName name : String) : Prop where
  named : defaults.Sets s!"default-{kind.hyphenated}-name" name
  housed : defaults.Sets s!"default-{kind.hyphenated}-namespace" namespaceName ∨
    ((∀ text, ¬ defaults.Sets s!"default-{kind.hyphenated}-namespace" text) ∧
      namespaceName = holder)

/-- A source gives no reference, or one without a name. -/
def IsNameless (reference? : Option Reference) : Prop :=
  ∀ reference, reference? = some reference →
    reference.name = none ∨ reference.name = some ""

@[simp]
theorem nonEmpty?_eq_none_iff {text? : Option String} :
    nonEmpty? text? = none ↔ text? = none ∨ text? = some "" := by
  cases text? with
  | none => simp [nonEmpty?]
  | some text => simp [nonEmpty?]

private theorem getD_namespaceName?_eq_iff {reference : Reference} {holder namespaceName : String} :
    reference.namespaceName?.getD holder = namespaceName ↔
      (reference.namespaceName = some namespaceName ∧ namespaceName ≠ "") ∨
        ((reference.namespaceName = none ∨ reference.namespaceName = some "") ∧
          namespaceName = holder) := by
  cases given : reference.namespaceName? with
  | none =>
      have absent := nonEmpty?_eq_none_iff.mp given
      rw [Option.getD_none]
      constructor
      · intro isHolder
        exact Or.inr ⟨absent, isHolder.symm⟩
      · intro housed
        rcases housed with ⟨isGiven, filled⟩ | ⟨_, isHolder⟩
        · have present := nonEmpty?_eq_some_iff.mpr ⟨filled, isGiven⟩
          rw [namespaceName?, present] at given
          cases given
        · exact isHolder.symm
  | some own =>
      have present := nonEmpty?_eq_some_iff.mp given
      rw [Option.getD_some]
      constructor
      · intro isOwn
        subst isOwn
        exact Or.inl ⟨present.2, present.1⟩
      · intro housed
        rcases housed with ⟨isGiven, _⟩ | ⟨absent, _⟩
        · rw [present.2, Option.some.injEq] at isGiven
          exact isGiven
        · have nothing := nonEmpty?_eq_none_iff.mpr absent
          rw [namespaceName?, nothing] at given
          cases given

/-- A source decides exactly if it names an object, and then the reference leads there. -/
theorem qualifiedIn?_eq_some_iff {reference target : Reference} {holder : String} :
    reference.qualifiedIn? holder = some target ↔
      ∃ namespaceName name, reference.Names holder namespaceName name ∧
        target = .qualified namespaceName name := by
  simp only [qualifiedIn?, target?, Option.map_map, Option.map_eq_some_iff, Function.comp_apply]
  constructor
  · intro given
    obtain ⟨name, isName, isTarget⟩ := given
    have named := nonEmpty?_eq_some_iff.mp isName
    exact ⟨_, name, ⟨named.2, named.1, getD_namespaceName?_eq_iff.mp rfl⟩, isTarget.symm⟩
  · intro given
    obtain ⟨namespaceName, name, names, isTarget⟩ := given
    have isNamespace := getD_namespaceName?_eq_iff.mpr names.housed
    refine ⟨name, nonEmpty?_eq_some_iff.mpr ⟨names.filled, names.named⟩, ?_⟩
    rw [isNamespace, isTarget]

@[simp]
theorem bind_qualifiedIn?_eq_none_iff {reference? : Option Reference} {holder : String} :
    reference?.bind (·.qualifiedIn? holder) = none ↔ IsNameless reference? := by
  cases reference? with
  | none => simp [IsNameless]
  | some reference =>
      have nameless : reference.qualifiedIn? holder = none ↔ reference.name? = none := by
        simp [qualifiedIn?, target?]
      simp only [Option.bind_some, nameless, name?, nonEmpty?_eq_none_iff, IsNameless,
        Option.some.injEq, forall_eq']

private theorem bind_referenceFor?_eq_some_iff {defaults : Defaults} {kind : CapabilityKind}
    {holder : String} {target : Reference} :
    (defaults.referenceFor? kind).bind (·.qualifiedIn? holder) = some target ↔
      ∃ namespaceName name, DefaultNames defaults kind holder namespaceName name ∧
        target = .qualified namespaceName name := by
  simp only [Option.bind_eq_some_iff, Defaults.referenceFor?, Option.map_eq_some_iff,
    Defaults.get?_eq_some_iff, qualifiedIn?_eq_some_iff]
  constructor
  · intro given
    obtain ⟨_, ⟨name, named, rfl⟩, namespaceName, _, names, isTarget⟩ := given
    cases names.named
    refine ⟨namespaceName, name, ⟨named, ?_⟩, isTarget⟩
    rcases names.housed with ⟨isSet, _⟩ | ⟨unset | empty, isHolder⟩
    · exact Or.inl (Defaults.get?_eq_some_iff.mp isSet)
    · exact Or.inr ⟨Defaults.get?_eq_none_iff.mp unset, isHolder⟩
    · exact absurd rfl (Defaults.get?_eq_some_iff.mp empty).filled
  · intro given
    obtain ⟨namespaceName, name, names, isTarget⟩ := given
    refine ⟨_, ⟨name, names.named, rfl⟩, namespaceName, name, ⟨rfl, names.named.filled, ?_⟩,
      isTarget⟩
    rcases names.housed with isSet | ⟨unset, isHolder⟩
    · exact Or.inl ⟨Defaults.get?_eq_some_iff.mpr isSet, isSet.filled⟩
    · exact Or.inr ⟨Or.inl (Defaults.get?_eq_none_iff.mpr unset), isHolder⟩

private theorem bind_referenceFor?_eq_none_iff {defaults : Defaults} {kind : CapabilityKind}
    {holder : String} :
    (defaults.referenceFor? kind).bind (·.qualifiedIn? holder) = none ↔
      ∀ text, ¬ defaults.Sets s!"default-{kind.hyphenated}-name" text := by
  rw [bind_qualifiedIn?_eq_none_iff, Defaults.referenceFor?, ← Defaults.get?_eq_none_iff]
  cases given : defaults.get? s!"default-{kind.hyphenated}-name" with
  | none => simp [IsNameless]
  | some name =>
      have filled := (Defaults.get?_eq_some_iff.mp given).filled
      simp [IsNameless, filled]

/-! ## A choice as a tree of calls -/

section Tree

variable {requester : Requester} {kind : CapabilityKind} {stated? : Option Reference}

private theorem choose_of_decided {reference : Reference}
    (decided : stated?.bind (·.qualifiedIn? requester.namespaceName) = some reference) :
    choose requester kind stated? = .done (.ok (some reference)) := by
  rw [choose, decided]
  rfl

private theorem choose_of_open
    (undecided : stated?.bind (·.qualifiedIn? requester.namespaceName) = none) :
    choose requester kind stated? = chooseOpen requester.namespaceName kind := by
  rw [choose, undecided]

private theorem chooseOpen_eq_call (namespaceName : String) :
    chooseOpen namespaceName kind = .call (.discover namespaceName kind) fun answer =>
      match answer with
      | .error failure => .done (.error failure)
      | .ok found? =>
          match found?.bind (·.qualifiedIn? namespaceName) with
          | some reference => .done (.ok (some reference))
          | none => chooseDefault namespaceName kind := by
  refine congrArg (Program.call _) (funext fun answer => ?_)
  cases answer with
  | error failure => rfl
  | ok found? =>
      change Program.bind (.done (Except.ok found?)) _ = _
      simp only [Program.bind]
      cases found?.bind (·.qualifiedIn? namespaceName) with
      | none => rfl
      | some reference => rfl

private theorem chooseDefault_eq_call (namespaceName : String) :
    chooseDefault namespaceName kind = .call .loadDefaults fun answer =>
      .done (answer.map fun defaults =>
        (defaults.referenceFor? kind).bind (·.qualifiedIn? namespaceName)) := by
  refine congrArg (Program.call _) (funext fun answer => ?_)
  cases answer with
  | error failure => rfl
  | ok defaults => rfl

end Tree

/-! ## The course of a choice -/

/-- A request of a choice and its answer. -/
abbrev Exchange := Program.Exchange ReferenceCall ReferenceCall.Answer

section Chain

variable (requester : Requester) (kind : CapabilityKind) (stated? : Option Reference)

/-- What a choice asks for, with the answers, and what it ends with. -/
inductive Chain : List Exchange → Except Failure (Option Reference) → Prop where
  | stated {reference : Reference} {namespaceName name : String}
      (isStated : stated? = some reference)
      (names : reference.Names requester.namespaceName namespaceName name) :
      Chain [] (.ok (some (.qualified namespaceName name)))
  | undiscovered (nothing : IsNameless stated?) (failure : Failure) :
      Chain [⟨.discover requester.namespaceName kind, .error failure⟩] (.error failure)
  | discovered (nothing : IsNameless stated?) {reference : Reference}
      {namespaceName name : String}
      (names : reference.Names requester.namespaceName namespaceName name) :
      Chain [⟨.discover requester.namespaceName kind, .ok (some reference)⟩]
        (.ok (some (.qualified namespaceName name)))
  | unloaded (nothing : IsNameless stated?) {found? : Option Reference}
      (missed : IsNameless found?) (failure : Failure) :
      Chain [⟨.discover requester.namespaceName kind, .ok found?⟩,
        ⟨.loadDefaults, .error failure⟩] (.error failure)
  | default (nothing : IsNameless stated?) {found? : Option Reference}
      (missed : IsNameless found?) (defaults : Defaults) {namespaceName name : String}
      (names : DefaultNames defaults kind requester.namespaceName namespaceName name) :
      Chain [⟨.discover requester.namespaceName kind, .ok found?⟩,
        ⟨.loadDefaults, .ok defaults⟩] (.ok (some (.qualified namespaceName name)))
  | nowhere (nothing : IsNameless stated?) {found? : Option Reference}
      (missed : IsNameless found?) (defaults : Defaults)
      (unset : ∀ text, ¬ defaults.Sets s!"default-{kind.hyphenated}-name" text) :
      Chain [⟨.discover requester.namespaceName kind, .ok found?⟩,
        ⟨.loadDefaults, .ok defaults⟩] (.ok none)


/-- A choice under way waits for the discovery, or, after a discovery that named nothing, for the
operator's defaults.  Neither is asked where the requester states a name. -/
inductive Awaits : List Exchange → ReferenceCall → Prop where
  | discovery (nothing : IsNameless stated?) :
      Awaits [] (.discover requester.namespaceName kind)
  | defaults (nothing : IsNameless stated?) {found? : Option Reference}
      (missed : IsNameless found?) :
      Awaits [⟨.discover requester.namespaceName kind, .ok found?⟩] .loadDefaults

variable {requester kind stated?} {exchanges : List Exchange}
  {result : Except Failure (Option Reference)}

/-- Where neither the requester nor the discovery names anything, the operator's defaults decide. -/
theorem goes_of_missed (nothing : IsNameless stated?) {found? : Option Reference}
    (missed : IsNameless found?) {loaded : Except Failure Defaults}
    (decides : loaded.map (fun defaults => (defaults.referenceFor? kind).bind
      (·.qualifiedIn? requester.namespaceName)) = result) :
    (choose requester kind stated?).Comes
      [⟨.discover requester.namespaceName kind, .ok found?⟩, ⟨.loadDefaults, loaded⟩]
      (.done result) := by
  have undecided : found?.bind (·.qualifiedIn? requester.namespaceName) = none :=
    bind_qualifiedIn?_eq_none_iff.mpr missed
  rw [choose_of_open (bind_qualifiedIn?_eq_none_iff.mpr nothing), chooseOpen_eq_call]
  refine Program.comes_call_done_iff.mpr ⟨_, _, rfl, ?_⟩
  simp only [undecided]
  rw [chooseDefault_eq_call]
  exact Program.comes_call_done_iff.mpr ⟨_, _, rfl, Program.comes_done_done_iff.mpr ⟨rfl, decides.symm⟩⟩

theorem chain_of_goes (goes : (choose requester kind stated?).Comes exchanges (.done result)) :
    Chain requester kind stated? exchanges result := by
  cases given : stated?.bind (·.qualifiedIn? requester.namespaceName) with
  | some reference =>
      rw [choose_of_decided given, Program.comes_done_done_iff] at goes
      obtain ⟨rfl, rfl⟩ := goes
      obtain ⟨stated, isStated, isTarget⟩ := Option.bind_eq_some_iff.mp given
      obtain ⟨_, _, names, rfl⟩ := qualifiedIn?_eq_some_iff.mp isTarget
      exact .stated isStated names
  | none =>
      have nothing := bind_qualifiedIn?_eq_none_iff.mp given
      rw [choose_of_open given, chooseOpen_eq_call, Program.comes_call_done_iff] at goes
      obtain ⟨discovery, rest, rfl, goes⟩ := goes
      cases discovery with
      | error failure =>
          obtain ⟨rfl, rfl⟩ := Program.comes_done_done_iff.mp goes
          exact .undiscovered nothing failure
      | ok found? =>
          cases search : found?.bind (·.qualifiedIn? requester.namespaceName) with
          | some reference =>
              simp only [search] at goes
              obtain ⟨rfl, rfl⟩ := Program.comes_done_done_iff.mp goes
              obtain ⟨found, rfl, isTarget⟩ := Option.bind_eq_some_iff.mp search
              obtain ⟨_, _, names, rfl⟩ := qualifiedIn?_eq_some_iff.mp isTarget
              exact .discovered nothing names
          | none =>
              have missed := bind_qualifiedIn?_eq_none_iff.mp search
              simp only [search] at goes
              rw [chooseDefault_eq_call, Program.comes_call_done_iff] at goes
              obtain ⟨loaded, rest, rfl, goes⟩ := goes
              obtain ⟨rfl, rfl⟩ := Program.comes_done_done_iff.mp goes
              cases loaded with
              | error failure => exact .unloaded nothing missed failure
              | ok defaults =>
                  cases set : (defaults.referenceFor? kind).bind
                      (·.qualifiedIn? requester.namespaceName) with
                  | some reference =>
                      obtain ⟨_, _, names, rfl⟩ := bind_referenceFor?_eq_some_iff.mp set
                      simp only [Except.map, set]
                      exact .default nothing missed defaults names
                  | none =>
                      have unset := bind_referenceFor?_eq_none_iff.mp set
                      simp only [Except.map, set]
                      exact .nowhere nothing missed defaults unset

theorem goes_of_chain (chain : Chain requester kind stated? exchanges result) :
    (choose requester kind stated?).Comes exchanges (.done result) := by
  cases chain with
  | stated isStated names =>
      have decided := qualifiedIn?_eq_some_iff.mpr ⟨_, _, names, rfl⟩
      rw [choose_of_decided (by rw [isStated]; exact decided)]
      simp
  | undiscovered nothing failure =>
      rw [choose_of_open (bind_qualifiedIn?_eq_none_iff.mpr nothing), chooseOpen_eq_call]
      exact Program.comes_call_done_iff.mpr ⟨_, _, rfl, Program.comes_done_done_iff.mpr ⟨rfl, rfl⟩⟩
  | discovered nothing names =>
      have decided := qualifiedIn?_eq_some_iff.mpr ⟨_, _, names, rfl⟩
      rw [choose_of_open (bind_qualifiedIn?_eq_none_iff.mpr nothing), chooseOpen_eq_call]
      refine Program.comes_call_done_iff.mpr ⟨_, _, rfl, ?_⟩
      simp only [Option.bind_some, decided]
      simp
  | unloaded nothing missed failure => exact goes_of_missed nothing missed rfl
  | default nothing missed defaults names =>
      have set := bind_referenceFor?_eq_some_iff.mpr ⟨_, _, names, rfl⟩
      exact goes_of_missed nothing missed (congrArg Except.ok set)
  | nowhere nothing missed defaults unset =>
      exact goes_of_missed nothing missed
        (congrArg Except.ok (bind_referenceFor?_eq_none_iff.mpr unset))

/-- A choice neither breaks off nor asks for anything that the sources before do not call for. -/
theorem left_of_goes {left : ReferenceProgram (Except Failure (Option Reference))}
    (goes : (choose requester kind stated?).Comes exchanges left) :
    (∃ result, left = .done result) ∨
      ∃ request next, left = .call request next ∧
        Awaits requester kind stated? exchanges request := by
  cases given : stated?.bind (·.qualifiedIn? requester.namespaceName) with
  | some reference =>
      rw [choose_of_decided given, Program.comes_done_iff] at goes
      exact Or.inl ⟨_, goes.2⟩
  | none =>
      have nothing := bind_qualifiedIn?_eq_none_iff.mp given
      rw [choose_of_open given, chooseOpen_eq_call, Program.comes_call_iff] at goes
      rcases goes with ⟨rfl, isLeft⟩ | ⟨discovery, rest, rfl, goes⟩
      · exact Or.inr ⟨_, _, isLeft, .discovery nothing⟩
      cases discovery with
      | error failure =>
          have ended := Program.comes_done_iff.mp goes
          exact Or.inl ⟨_, ended.2⟩
      | ok found? =>
          cases search : found?.bind (·.qualifiedIn? requester.namespaceName) with
          | some reference =>
              simp only [search] at goes
              have ended := Program.comes_done_iff.mp goes
              exact Or.inl ⟨_, ended.2⟩
          | none =>
              have missed := bind_qualifiedIn?_eq_none_iff.mp search
              simp only [search] at goes
              rw [chooseDefault_eq_call, Program.comes_call_iff] at goes
              rcases goes with ⟨rfl, isLeft⟩ | ⟨loaded, rest, rfl, goes⟩
              · exact Or.inr ⟨_, _, isLeft, .defaults nothing missed⟩
              have ended := Program.comes_done_iff.mp goes
              exact Or.inl ⟨_, ended.2⟩

/-- Where a choice ends without a reference, all three sources were asked and none names anything. -/
theorem chain_nowhere_iff :
    Chain requester kind stated? exchanges (.ok none) ↔
      ∃ found? defaults,
        exchanges = [⟨.discover requester.namespaceName kind, .ok found?⟩,
          ⟨.loadDefaults, .ok defaults⟩] ∧
        IsNameless stated? ∧ IsNameless found? ∧
        ∀ text, ¬ defaults.Sets s!"default-{kind.hyphenated}-name" text := by
  constructor
  · intro chain
    cases chain with
    | nowhere nothing missed defaults unset =>
        exact ⟨_, defaults, rfl, nothing, missed, unset⟩
  · intro nowhere
    obtain ⟨_, defaults, rfl, nothing, missed, unset⟩ := nowhere
    exact .nowhere nothing missed defaults unset

/-- A reference that leads to an object is the choice of whoever states it. -/
theorem choose_qualified {namespaceName name : String} (homed : namespaceName ≠ "")
    (filled : name ≠ "") :
    choose requester kind (some (.qualified namespaceName name)) =
      .done (.ok (some (.qualified namespaceName name))) := by
  have names : Names (.qualified namespaceName name) requester.namespaceName namespaceName name :=
    ⟨rfl, filled, Or.inl ⟨rfl, homed⟩⟩
  exact choose_of_decided (qualifiedIn?_eq_some_iff.mpr ⟨_, _, names, rfl⟩)

theorem Names.homed {reference : Reference} {holder namespaceName name : String}
    (names : reference.Names holder namespaceName name) (settled : holder ≠ "") :
    namespaceName ≠ "" := by
  rcases names.housed with ⟨_, homed⟩ | ⟨_, isHolder⟩
  · exact homed
  · rw [isHolder]
    exact settled

theorem DefaultNames.homed {defaults : Defaults} {holder namespaceName name : String}
    (names : DefaultNames defaults kind holder namespaceName name) (settled : holder ≠ "") :
    namespaceName ≠ "" := by
  rcases names.housed with isSet | ⟨_, isHolder⟩
  · exact isSet.filled
  · rw [isHolder]
    exact settled

/-- What a choice ends with leads to an object by name. -/
theorem Chain.leads {reference : Reference} (homed : requester.namespaceName ≠ "")
    (chain : Chain requester kind stated? exchanges (.ok (some reference))) :
    ∃ namespaceName name, reference = .qualified namespaceName name ∧
      namespaceName ≠ "" ∧ name ≠ "" := by
  cases chain with
  | stated _ names => exact ⟨_, _, rfl, names.homed homed, names.filled⟩
  | discovered _ names => exact ⟨_, _, rfl, names.homed homed, names.filled⟩
  | default _ _ _ names => exact ⟨_, _, rfl, names.homed homed, names.named.filled⟩

end Chain

/-! ## What a requester gets -/

/-- For every requester with a namespace and whatever the discovery and the operator's defaults
answer: a choice ends as its sources say, and nowhere else; under way, it waits for a source that the
ones before leave it to; it ends without a reference exactly if all three are asked in vain; and a
reference that it ends with leads to an object, and is what anybody who states it gets, unasked. -/
theorem choose_follows_sources (requester : Requester) (kind : CapabilityKind)
    (stated? : Option Reference) (homed : requester.namespaceName ≠ "") :
    (∀ exchanges result, (choose requester kind stated?).Comes exchanges (.done result) ↔
      Chain requester kind stated? exchanges result) ∧
    (∀ exchanges left, (choose requester kind stated?).Comes exchanges left →
      (∃ result, left = .done result) ∨
        ∃ request next, left = .call request next ∧
          Awaits requester kind stated? exchanges request) ∧
    (∀ exchanges, (choose requester kind stated?).Comes exchanges (.done (.ok none)) ↔
      ∃ found? defaults,
        exchanges = [⟨.discover requester.namespaceName kind, .ok found?⟩,
          ⟨.loadDefaults, .ok defaults⟩] ∧
        IsNameless stated? ∧ IsNameless found? ∧
        ∀ text, ¬ defaults.Sets s!"default-{kind.hyphenated}-name" text) ∧
    ∀ exchanges reference,
      (choose requester kind stated?).Comes exchanges (.done (.ok (some reference))) →
      (∃ namespaceName name, reference = .qualified namespaceName name ∧
        namespaceName ≠ "" ∧ name ≠ "") ∧
      ∀ other otherKind, choose other otherKind (some reference) =
        .done (.ok (some reference)) := by
  have follows : ∀ exchanges result,
      (choose requester kind stated?).Comes exchanges (.done result) ↔
        Chain requester kind stated? exchanges result :=
    fun _ _ => ⟨chain_of_goes, goes_of_chain⟩
  refine ⟨follows, fun _ _ => left_of_goes, fun exchanges => ?_, fun exchanges reference goes => ?_⟩
  · rw [follows]
    exact chain_nowhere_iff
  · obtain ⟨_, _, rfl, placed, named⟩ := ((follows _ _).mp goes).leads homed
    exact ⟨⟨_, _, rfl, placed, named⟩, fun _ _ => choose_qualified placed named⟩

/-- Settings with a name in white space, and a namespace that is white space only. -/
def companyDefaults : Defaults where
  values := (StringMap.empty.insert "default-sso-name" " company-sso ").insert
    "default-sso-namespace" "  "

/-- A requester that states an empty name, and in whose namespace there is nothing, gets the
operator's default, in its own namespace; stating that, it gets it again. -/
theorem choose_follows_sources_of_shop :
    (Requester.mk "shop" "retail").namespaceName ≠ "" ∧
      (choose ⟨"shop", "retail"⟩ .sso (some ⟨some "tools", some ""⟩)).Comes
        [⟨.discover "retail" .sso, .ok none⟩, ⟨.loadDefaults, .ok companyDefaults⟩]
        (.done (.ok (some (.qualified "retail" "company-sso")))) ∧
      choose ⟨"till", "market"⟩ .dbms (some (.qualified "retail" "company-sso")) =
        .done (.ok (some (.qualified "retail" "company-sso"))) := by
  have homed : (Requester.mk "shop" "retail").namespaceName ≠ "" := by decide
  have named : companyDefaults.Sets "default-sso-name" "company-sso" :=
    ⟨" company-sso ", by decide +kernel⟩
  have unset : ∀ text, ¬ companyDefaults.Sets "default-sso-namespace" text :=
    Defaults.get?_eq_none_iff.mp (by decide +kernel)
  have nameless : IsNameless (some ⟨some "tools", some ""⟩) := by
    intro reference isStated
    cases isStated
    exact Or.inr rfl
  have missed : IsNameless none := by
    intro reference impossible
    cases impossible
  have chosen := choose_follows_sources ⟨"shop", "retail"⟩ .sso
    (some ⟨some "tools", some ""⟩) homed
  have goes := (chosen.1 _ _).mpr
    (.default nameless missed companyDefaults ⟨named, Or.inr ⟨unset, rfl⟩⟩)
  exact ⟨homed, goes, (chosen.2.2.2 _ _ goes).2 ⟨"till", "market"⟩ .dbms⟩

end Reference

end Provisioning
