import Mathlib.Data.Nat.Digits.Defs
import Provisioning.Proofs.Creation

/-!
# Canonical names

A canonical name is put together from parts that can look alike: a requester may be called what
something else is built under, and the parts of an implementation's name have hyphens between them as
well.  But the last character of a name tells the scope, the last one of a stem tells the kind, and
what is left is the same only where the requesters or the implementations are.

Main statement: what two requests have in common if the same place is canonical for both
(`alike_of_samePlace`).
-/

namespace Provisioning

open ClusterObject

/-! ## Last characters -/

/-- The last character of a text. -/
def Text.last? (text : String) : Option Char :=
  text.toList.getLast?

private theorem Text.last?_append (front : String) {back : String} (filled : back ≠ "") :
    last? (front ++ back) = last? back := by
  rw [last?, String.toList_append, List.getLast?_append_of_ne_nil _ (by simpa using filled)]
  rfl

namespace Serial

@[simp]
theorem length_text (serial : Serial) : serial.text.toList.length = 4 := by
  have fits : (Nat.toDigits 10 serial.val).length ≤ 4 :=
    Nat.toDigits_length 10 serial.val 4 (by decide) serial.isLt
  rw [text, String.toList_ofList, List.length_append, List.length_replicate,
    Nat.sub_add_cancel fits]

private theorem isDigit_of_mem_text {serial : Serial} {character : Char}
    (member : character ∈ serial.text.toList) : character.isDigit = true := by
  rw [text, String.toList_ofList, List.mem_append] at member
  rcases member with isZero | isDigit
  · rw [List.eq_of_mem_replicate isZero]
    decide
  · exact Nat.isDigit_of_mem_toDigits (by decide) (by decide) isDigit

private theorem text_ne_empty (serial : Serial) : serial.text ≠ "" := by
  intro isEmpty
  have length := serial.length_text
  rw [isEmpty] at length
  cases length

private theorem exists_last?_text (serial : Serial) :
    ∃ digit, Text.last? serial.text = some digit ∧ digit.isDigit = true := by
  have filled : serial.text.toList ≠ [] := by simpa using serial.text_ne_empty
  exact ⟨_, List.getLast?_eq_some_getLast filled,
    isDigit_of_mem_text (List.getLast_mem filled)⟩

end Serial

/-! ## Parts of names -/

/-- The kind that the last character of its ending or of its hyphenated form tells. -/
def CapabilityKind.ofLast (character : Char) : CapabilityKind :=
  if character = 'o' then .sso else .dbms

@[simp]
theorem CapabilityKind.ofLast_ending (kind : CapabilityKind) :
    (Text.last? kind.ending).map ofLast = some kind := by
  cases kind <;> decide

@[simp]
theorem CapabilityKind.ofLast_hyphenated (kind : CapabilityKind) :
    (Text.last? kind.hyphenated).map ofLast = some kind := by
  cases kind <;> decide

private theorem CapabilityKind.ending_ne_empty (kind : CapabilityKind) : kind.ending ≠ "" := by
  cases kind <;> decide

theorem CapabilityKind.hyphenated_ne_empty (kind : CapabilityKind) : kind.hyphenated ≠ "" := by
  cases kind <;> decide

private theorem Implementation.hyphenated_injective {implementation other : Implementation}
    (same : implementation.hyphenated = other.hyphenated) : implementation = other := by
  have found (one : Implementation) : all.find? (·.hyphenated = one.hyphenated) = some one := by
    cases one <;> decide
  exact Option.some.inj (by rw [← found, same, found])

/-- The scope that the last character of a canonical name tells. -/
def Scope.ofLast (character : Char) : Scope :=
  if character.isDigit then .labeled
  else if character = 'e' then .namespaced
  else if character = 'r' then .cluster
  else .dedicated

namespace Placement

variable {requirement other : Requirement}

private theorem stem_eq (requirement : Requirement) :
    stem requirement =
      ((requirement.implementation.map fun implementation =>
        implementation.hyphenated ++ "-").getD "") ++ requirement.capability.hyphenated := by
  unfold stem
  cases requirement.implementation with
  | none => simp
  | some implementation => simp

@[simp]
theorem last?_stem (requirement : Requirement) :
    Text.last? (stem requirement) = Text.last? requirement.capability.hyphenated := by
  rw [stem_eq, Text.last?_append _ requirement.capability.hyphenated_ne_empty]

/-- A stem says the kind and the implementation. -/
theorem stem_injective (same : stem requirement = stem other) :
    requirement.capability = other.capability ∧
      requirement.implementation = other.implementation := by
  have sameKind : requirement.capability = other.capability := by
    refine Option.some.inj ?_
    rw [← CapabilityKind.ofLast_hyphenated, ← CapabilityKind.ofLast_hyphenated, ← last?_stem, same,
      last?_stem]
  refine ⟨sameKind, ?_⟩
  rw [stem_eq, stem_eq, sameKind, String.append_left_inj] at same
  cases named : requirement.implementation with
  | none =>
      cases otherNamed : other.implementation with
      | none => rfl
      | some _ => simp [named, otherNamed] at same
  | some _ =>
      cases otherNamed : other.implementation with
      | none => simp [named, otherNamed] at same
      | some _ =>
          simp only [named, otherNamed, Option.map_some, Option.getD_some,
            String.append_left_inj] at same
          rw [Implementation.hyphenated_injective same]

private theorem stem_of_baseName (same : baseName requirement = baseName other) :
    stem requirement = stem other :=
  (String.append_right_inj "default-").mp same

private theorem stem_of_labeledName {serial otherSerial : Serial}
    (same : labeledName requirement serial = labeledName other otherSerial) :
    stem requirement = stem other := by
  have sameCharacters : (stem requirement ++ "-").toList ++ serial.text.toList =
      (stem other ++ "-").toList ++ otherSerial.text.toList := by
    rw [← String.toList_append, ← String.toList_append]
    exact congrArg String.toList same
  have sameLength : serial.text.toList.length = otherSerial.text.toList.length := by
    simp
  have sameFront := (List.append_inj' sameCharacters sameLength).1
  exact (String.append_left_inj "-").mp (String.toList_injective sameFront)

@[simp]
theorem last?_dedicatedName (requester : Requester) (requirement : Requirement) :
    Text.last? (Lookup.dedicatedName requester requirement) =
      Text.last? requirement.capability.ending := by
  rw [Lookup.dedicatedName, Text.last?_append _ requirement.capability.ending_ne_empty]

/-- A dedicated name says the kind and the requester, whatever the requester is called. -/
theorem requester_of_dedicatedName {requester otherRequester : Requester}
    {requirement otherRequirement : Requirement}
    (same : Lookup.dedicatedName requester requirement =
      Lookup.dedicatedName otherRequester otherRequirement) :
    requirement.capability = otherRequirement.capability ∧
      requester.name = otherRequester.name := by
  have sameKind : requirement.capability = otherRequirement.capability := by
    refine Option.some.inj ?_
    rw [← CapabilityKind.ofLast_ending, ← CapabilityKind.ofLast_ending, ← last?_dedicatedName,
      same, last?_dedicatedName]
  rw [Lookup.dedicatedName, Lookup.dedicatedName, sameKind, String.append_left_inj,
    String.append_left_inj] at same
  exact ⟨sameKind, same⟩

/-! ## Requests -/

/-- What the place depends on at which a capability is built. -/
structure Request where
  requester : Requester
  requirement : Requirement
  defaults : Defaults := {}
  operatorNamespace : String
  serial : Serial

namespace Request

/-- A capability is built for a request at a name that nobody chose: neither the requirement nor the
operator. -/
structure Builds (request : Request) (built : Capability) : Prop where
  placed : build request.requester request.requirement request.defaults request.operatorNamespace
    request.serial = .ok built
  unspecified : request.requirement.effectiveScope ≠ .specified
  unset : request.requirement.effectiveScope = .cluster →
    ∀ name, ¬ request.defaults.Sets (baseName request.requirement ++ "-name") name

/-- The canonical name of a scope. -/
def canonicalName (request : Request) : Scope → String
  | .dedicated => Lookup.dedicatedName request.requester request.requirement
  | .specified => ""
  | .labeled => labeledName request.requirement request.serial
  | .namespaced => baseName request.requirement ++ "-in-namespace"
  | .cluster => baseName request.requirement ++ "-in-cluster"

variable {request other : Request} {built taken : Capability}

theorem Builds.name_eq (builds : request.Builds built) :
    (key built).name = request.canonicalName request.requirement.effectiveScope := by
  have placed := key_of_build builds.placed
  unfold place at placed
  cases scope : request.requirement.effectiveScope with
  | dedicated =>
      simp only [scope, Except.ok.injEq, Prod.mk.injEq] at placed
      exact placed.2.symm
  | specified => exact absurd scope builds.unspecified
  | labeled =>
      simp only [scope, Except.ok.injEq, Prod.mk.injEq] at placed
      exact placed.2.symm
  | namespaced =>
      simp only [scope, Except.ok.injEq, Prod.mk.injEq] at placed
      exact placed.2.symm
  | cluster =>
      simp only [scope, Defaults.get?_eq_none_iff.mpr (builds.unset scope), Option.getD_none,
        Except.ok.injEq, Prod.mk.injEq] at placed
      exact placed.2.symm

/-- The last character of a canonical name tells its scope. -/
theorem ofLast_canonicalName (request : Request) {scope : Scope} (unspecified : scope ≠ .specified) :
    (Text.last? (request.canonicalName scope)).map Scope.ofLast = some scope := by
  cases scope with
  | dedicated =>
      rw [canonicalName, last?_dedicatedName]
      cases request.requirement.capability <;> decide
  | specified => exact absurd rfl unspecified
  | labeled =>
      obtain ⟨digit, isLast, isDigit⟩ := request.serial.exists_last?_text
      rw [canonicalName, labeledName, Text.last?_append _ request.serial.text_ne_empty, isLast,
        Option.map_some, Scope.ofLast, if_pos isDigit]
  | namespaced =>
      rw [canonicalName, Text.last?_append _ (by decide)]
      decide
  | cluster =>
      rw [canonicalName, Text.last?_append _ (by decide)]
      decide

/-- What two requests have in common if the same place is canonical for both. -/
structure Alike (request other : Request) : Prop where
  scope : request.requirement.effectiveScope = other.requirement.effectiveScope
  kind : request.requirement.capability = other.requirement.capability
  requester : request.requirement.effectiveScope = .dedicated →
    request.requester.name = other.requester.name
  implementation : request.requirement.effectiveScope ≠ .dedicated →
    request.requirement.implementation = other.requirement.implementation

private theorem alike_of_stem (sameScope :
      request.requirement.effectiveScope = other.requirement.effectiveScope)
    (shared : request.requirement.effectiveScope ≠ .dedicated)
    (sameStem : stem request.requirement = stem other.requirement) : request.Alike other where
  scope := sameScope
  kind := (stem_injective sameStem).1
  requester dedicated := absurd dedicated shared
  implementation _ := (stem_injective sameStem).2

theorem Builds.alike (builds : request.Builds built) (otherBuilds : other.Builds taken)
    (sameName : (key built).name = (key taken).name) : request.Alike other := by
  rw [builds.name_eq, otherBuilds.name_eq] at sameName
  have sameScope : request.requirement.effectiveScope = other.requirement.effectiveScope := by
    refine Option.some.inj ?_
    rw [← ofLast_canonicalName request builds.unspecified, sameName,
      ofLast_canonicalName other otherBuilds.unspecified]
  rw [← sameScope] at sameName
  cases scope : request.requirement.effectiveScope with
  | dedicated =>
      rw [scope] at sameName
      obtain ⟨sameKind, sameRequester⟩ := requester_of_dedicatedName sameName
      exact ⟨sameScope, sameKind, fun _ => sameRequester, fun shared => absurd scope shared⟩
  | specified => exact absurd scope builds.unspecified
  | labeled =>
      rw [scope] at sameName
      exact alike_of_stem sameScope (by simp [scope]) (stem_of_labeledName sameName)
  | namespaced =>
      rw [scope] at sameName
      exact alike_of_stem sameScope (by simp [scope])
        (stem_of_baseName ((String.append_left_inj _).mp sameName))
  | cluster =>
      rw [scope] at sameName
      exact alike_of_stem sameScope (by simp [scope])
        (stem_of_baseName ((String.append_left_inj _).mp sameName))

theorem Builds.scopeLabel?_eq (builds : request.Builds built) :
    built.scopeLabel? = some request.requirement.effectiveScope.label :=
  (Capability.validate_eq_ok_iff.mp (validate_build builds.placed)).1

theorem Builds.kindLabel?_eq (builds : request.Builds built) :
    built.kindLabel? = some request.requirement.capability.label := by
  rw [Capability.kindLabel?, Capability.label?, labels_of_build builds.placed, get?_labels,
    engineLabel?, if_pos rfl, Option.some_or]

theorem Builds.validate_eq_ok (builds : request.Builds built) (alike : other.Alike request)
    (shared : other.requirement.effectiveScope ≠ .dedicated) :
    built.validate other.requirement = .ok () := by
  obtain ⟨ofScope, implemented⟩ := Capability.validate_eq_ok_iff.mp (validate_build builds.placed)
  rw [Capability.validate_eq_ok_iff, alike.scope, alike.implementation shared]
  exact ⟨ofScope, implemented⟩

/-- Where the same place is canonical for two requests, they ask for the same scope and kind, and for
the same implementation, unless they ask for dedicated capabilities: then their requesters have the
same name.  So an object that was built for one and is met by the other carries the labels of the
right scope and kind, and unless it is dedicated nothing is wrong with it. -/
theorem alike_of_samePlace (request other : Request) (built taken : Capability)
    (builds : request.Builds built) (otherBuilds : other.Builds taken)
    (samePlace : key taken = key built) :
    request.Alike other ∧
      taken.scopeLabel? = some request.requirement.effectiveScope.label ∧
      taken.kindLabel? = some request.requirement.capability.label ∧
      (request.requirement.effectiveScope ≠ .dedicated →
        taken.validate request.requirement = .ok ()) := by
  have alike := builds.alike otherBuilds (congrArg ObjectKey.name samePlace.symm)
  refine ⟨alike, ?_, ?_, otherBuilds.validate_eq_ok alike⟩
  · rw [otherBuilds.scopeLabel?_eq, alike.scope]
  · rw [otherBuilds.kindLabel?_eq, alike.kind]

/-- A request for an identity provider of one's own, from someone whose name is the beginning of
names of shared ones. -/
def lookalike (implementation : Implementation) : Request where
  requester := ⟨"default-redhat-sso", "retail"⟩
  requirement :=
    { capability := .sso, implementation := some implementation, scope := some .dedicated }
  operatorNamespace := "operators"
  serial := ⟨7, by decide⟩

private theorem exists_builds_lookalike (implementation : Implementation) :
    ∃ built, (lookalike implementation).Builds built ∧
      key built = ⟨"retail", "default-redhat-sso-sso"⟩ := by
  have isDedicated : (lookalike implementation).requirement.effectiveScope = .dedicated := rfl
  refine ⟨_, ⟨rfl, ?_, ?_⟩, rfl⟩
  · rw [isDedicated]
    decide
  · rw [isDedicated]
    exact fun isCluster => absurd isCluster (by decide)

/-- The implementation is no part of a dedicated name, so an object of another one can be met, but
none that is shared. -/
theorem alike_of_samePlace_lookalike :
    ∃ built taken, (lookalike .keycloak).Builds built ∧ (lookalike .redhatSso).Builds taken ∧
      key taken = key built ∧ (lookalike .keycloak).Alike (lookalike .redhatSso) ∧
      taken.scopeLabel? = some "dedicated" ∧ taken.kindLabel? = some "sso" := by
  obtain ⟨built, builds, place⟩ := exists_builds_lookalike .keycloak
  obtain ⟨taken, otherBuilds, otherPlace⟩ := exists_builds_lookalike .redhatSso
  have samePlace : key taken = key built := otherPlace.trans place.symm
  obtain ⟨alike, ofScope, ofKind, _⟩ :=
    alike_of_samePlace _ _ built taken builds otherBuilds samePlace
  exact ⟨built, taken, builds, otherBuilds, samePlace, alike, ofScope, ofKind⟩

end Request

end Placement

end Provisioning
