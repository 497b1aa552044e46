import Provisioning.Proofs.WrittenNumbers
import Provisioning.Settings

/-!
# Settings as they are written

What the operator's settings are for any values of the variables, each setting with the one variable
that it comes from and its default.

Main statement: the settings for all values of the six variables (`ofVariables_reads`).
-/

namespace Provisioning

namespace Settings

/-- What a setting in words is for the value of its variable. -/
inductive TextFrom (default : String) : Option String → String → Prop
  | kept {value : String} : ¬ Text.Blank value.toList → TextFrom default (some value) value
  | blank {value : String} : Text.Blank value.toList → TextFrom default (some value) default
  | absent : TextFrom default none default

/-- What a timeout is for the value of its variable. -/
inductive TimeoutFrom (default : Duration) : Option String → Duration → Prop
  | written {value : String} {number : Nat} : Text.Denotes value number → number < 2 ^ 64 →
      TimeoutFrom default (some value) (.ofSeconds number)
  | refused {value? : Option String} : Text.Refused value? → TimeoutFrom default value? default

@[simp]
theorem textOr_eq_iff {default text : String} {value? : Option String} :
    textOr default value? = text ↔ TextFrom default value? text := by
  have allBlank : ∀ value : String, Text.isAllBlank value = true ↔ Text.Blank value.toList := by
    intro value
    rw [Text.isAllBlank, List.all_eq_true, Text.blank_iff]
  constructor
  · rintro rfl
    cases value? with
    | none => exact .absent
    | some value =>
        rw [textOr]
        split
        · rename_i blank
          exact .blank ((allBlank value).mp blank)
        · rename_i filled
          exact .kept (mt (allBlank value).mpr filled)
  · intro follows
    cases follows with
    | kept filled => exact if_neg (mt (allBlank text).mp filled)
    | blank blank => exact if_pos ((allBlank _).mpr blank)
    | absent => rfl

@[simp]
theorem secondsOr_eq_iff {default : Nat} {timeout : Duration} {value? : Option String} :
    secondsOr default value? = timeout ↔ TimeoutFrom (.ofSeconds default) value? timeout := by
  constructor
  · rintro rfl
    cases value? with
    | none => exact .refused .absent
    | some value =>
        cases read : Text.readCount (Text.trimChars value.toList) with
        | none =>
            rw [secondsOr, read, Option.getD_none]
            exact .refused (Text.readCount_trimChars_eq_none_iff.mp read)
        | some number =>
            obtain ⟨denotes, fits⟩ := Text.readCount_trimChars_eq_some_iff.mp read
            rw [secondsOr, read, Option.getD_some]
            exact .written denotes fits
  · intro follows
    cases follows with
    | written denotes fits =>
        rw [secondsOr, Text.readCount_trimChars_eq_some_iff.mpr ⟨denotes, fits⟩, Option.getD_some]
    | refused refused =>
        cases value? with
        | none => rfl
        | some value =>
            rw [secondsOr, Text.readCount_trimChars_eq_none_iff.mpr refused, Option.getD_none]

/-- A setting with the name of its variable and its default. -/
structure Source (α : Type) where
  name : String
  setting : Settings → α
  default : α

def textSources : List (Source String) :=
  [⟨"TRELLIS_OPERATOR_NAMESPACE", operatorNamespace, "trellis-system"⟩,
    ⟨"TRELLIS_DEFAULTS_CONFIGMAP", defaultsObject, "trellis-default-capabilities"⟩]

def timeoutSources : List (Source Duration) :=
  [⟨"TRELLIS_CAPABILITY_TIMEOUT_SECONDS", capabilityTimeout, .ofSeconds 600⟩,
    ⟨"TRELLIS_POD_READINESS_TIMEOUT_SECONDS", podReadinessTimeout, .ofSeconds 600⟩,
    ⟨"TRELLIS_POD_COMPLETION_TIMEOUT_SECONDS", podCompletionTimeout, .ofSeconds 600⟩,
    ⟨"TRELLIS_POD_SHUTDOWN_TIMEOUT_SECONDS", podShutdownTimeout, .ofSeconds 120⟩]

/-- Each setting is what its own variable gives. -/
structure Follow (settings : Settings) (setting? : String → Option String) : Prop where
  texts : ∀ source ∈ textSources,
    TextFrom source.default (setting? source.name) (source.setting settings)
  timeouts : ∀ source ∈ timeoutSources,
    TimeoutFrom source.default (setting? source.name) (source.setting settings)

private theorem setting_of_mem_textSources {source : Source String} (member : source ∈ textSources)
    (setting? : String → Option String) :
    source.setting (ofVariables setting?) = textOr source.default (setting? source.name) := by
  simp only [textSources, List.mem_cons, List.not_mem_nil, or_false] at member
  obtain rfl | rfl := member
  all_goals rfl

private theorem setting_of_mem_timeoutSources {source : Source Duration}
    (member : source ∈ timeoutSources) :
    ∃ seconds, source.default = .ofSeconds seconds ∧ ∀ setting?,
      source.setting (ofVariables setting?) = secondsOr seconds (setting? source.name) := by
  simp only [timeoutSources, List.mem_cons, List.not_mem_nil, or_false] at member
  obtain rfl | rfl | rfl | rfl := member
  all_goals exact ⟨_, rfl, fun _ => rfl⟩

/-- Settings that are the same at every source are the same. -/
theorem eq_of_sources {left right : Settings}
    (texts : ∀ source ∈ textSources, source.setting left = source.setting right)
    (timeouts : ∀ source ∈ timeoutSources, source.setting left = source.setting right) :
    left = right := by
  cases left
  cases right
  simp only [textSources, timeoutSources, List.forall_mem_cons, List.not_mem_nil, false_implies,
    implies_true, and_true] at texts timeouts
  rw [mk.injEq]
  exact ⟨texts.1, texts.2, timeouts⟩

private theorem follow_ofVariables (setting? : String → Option String) :
    (ofVariables setting?).Follow setting? where
  texts source member := by
    rw [setting_of_mem_textSources member]
    exact textOr_eq_iff.mp rfl
  timeouts source member := by
    obtain ⟨seconds, isDefault, reads⟩ := setting_of_mem_timeoutSources member
    rw [reads, isDefault]
    exact secondsOr_eq_iff.mp rfl

@[simp]
theorem ofVariables_eq_iff {settings : Settings} {setting? : String → Option String} :
    ofVariables setting? = settings ↔ settings.Follow setting? := by
  constructor
  · rintro rfl
    exact follow_ofVariables setting?
  · intro follow
    refine eq_of_sources (fun source member => ?_) fun source member => ?_
    · rw [setting_of_mem_textSources member]
      exact textOr_eq_iff.mpr (follow.texts source member)
    · obtain ⟨seconds, isDefault, reads⟩ := setting_of_mem_timeoutSources member
      rw [reads]
      exact secondsOr_eq_iff.mpr (isDefault ▸ follow.timeouts source member)

/-- The settings are those that follow the variables, each its own one: a text is the value as it
stands, or the default where there is nothing but white space, and a timeout is the written number of
seconds, or the default where the value is refused.  Refused is exactly what does not denote a number
below `2 ^ 64`, so such a number in decimal is read back with any white space around it. -/
theorem ofVariables_reads (setting? : String → Option String) :
    (∀ settings, ofVariables setting? = settings ↔ settings.Follow setting?) ∧
      (∀ value?, Text.Refused value? ↔
        ¬ ∃ text number, value? = some text ∧ Text.Denotes text number ∧ number < 2 ^ 64) ∧
      (∀ source ∈ timeoutSources, ∀ before after number,
        Text.Blank before → Text.Blank after → number < 2 ^ 64 →
          setting? source.name =
            some (String.ofList before ++ toString number ++ String.ofList after) →
          source.setting (ofVariables setting?) = .ofSeconds number) ∧
      (textSources.map Source.name ++ timeoutSources.map Source.name).Nodup ∧
      ∀ other? : String → Option String,
        (∀ source ∈ textSources, other? source.name = setting? source.name →
          source.setting (ofVariables other?) = source.setting (ofVariables setting?)) ∧
        ∀ source ∈ timeoutSources, other? source.name = setting? source.name →
          source.setting (ofVariables other?) = source.setting (ofVariables setting?) := by
  refine ⟨fun _ => ofVariables_eq_iff, fun _ => Text.refused_iff, ?_, by decide, fun other? =>
    ⟨?_, ?_⟩⟩
  · intro source member before after number blankBefore blankAfter fits printed
    obtain ⟨seconds, -, reads⟩ := setting_of_mem_timeoutSources member
    rw [reads, printed]
    exact secondsOr_eq_iff.mpr
      (.written (Text.denotes_toString blankBefore blankAfter number) fits)
  · intro source member same
    rw [setting_of_mem_textSources member, setting_of_mem_textSources member, same]
  · intro source member same
    obtain ⟨seconds, -, reads⟩ := setting_of_mem_timeoutSources member
    rw [reads, reads, same]

/-- Values at the edge of what is read: the largest number that fits, with all that may stand around
it, and the first that does not fit. -/
def edgeValues : String → Option String
  | "TRELLIS_OPERATOR_NAMESPACE" => some "\t \u2003"
  | "TRELLIS_DEFAULTS_CONFIGMAP" => some " team defaults "
  | "TRELLIS_CAPABILITY_TIMEOUT_SECONDS" => some "\u3000+0018446744073709551615\n"
  | "TRELLIS_POD_READINESS_TIMEOUT_SECONDS" => some "18446744073709551616"
  | "TRELLIS_POD_COMPLETION_TIMEOUT_SECONDS" => some "6 0"
  | _ => none

private theorem follow_edgeValues :
    Follow ⟨"trellis-system", " team defaults ", .ofSeconds 18446744073709551615, .ofSeconds 600,
      .ofSeconds 600, .ofSeconds 120⟩ edgeValues where
  texts := by
    simp only [textSources, List.forall_mem_cons, List.not_mem_nil, false_implies, implies_true,
      and_true]
    exact ⟨.blank (by decide), .kept (by decide)⟩
  timeouts := by
    have largest : Text.Denotes "\u3000+0018446744073709551615\n" 18446744073709551615 :=
      ⟨['\u3000'], ['+'], "0018446744073709551615".toList, ['\n'], by decide, by decide, by decide,
        .inr rfl, by decide, List.all_eq_true.mp (by decide), by decide⟩
    have tooLarge : Text.Denotes "18446744073709551616" 18446744073709551616 :=
      ⟨[], [], "18446744073709551616".toList, [], by decide, by decide, by decide, .inl rfl,
        by decide, List.all_eq_true.mp (by decide), by decide⟩
    have split : "6 0".toList = ['6'] ++ ' ' :: ['0'] := by decide
    have spaced : Text.Refused (some "6 0") :=
      .spaceInside split (by decide) (by decide) (by decide)
    simp only [timeoutSources, List.forall_mem_cons, List.not_mem_nil, false_implies, implies_true,
      and_true]
    exact ⟨.written largest (by decide), .refused (.large tooLarge (by decide)), .refused spaced,
      .refused .absent⟩

/-- The largest number that fits, as it is printed, between white space. -/
def printedLargest : String → Option String := fun _ =>
  some (String.ofList ['\u2003'] ++ toString 18446744073709551615 ++ String.ofList ['\n'])

/-- The largest number that fits is read back, and one more is refused, for its own timeout only. -/
theorem ofVariables_reads_edgeValues :
    ofVariables edgeValues =
        ⟨"trellis-system", " team defaults ", .ofSeconds 18446744073709551615, .ofSeconds 600,
          .ofSeconds 600, .ofSeconds 120⟩ ∧
      podShutdownTimeout (ofVariables printedLargest) = .ofSeconds 18446744073709551615 := by
  have member : ⟨"TRELLIS_POD_SHUTDOWN_TIMEOUT_SECONDS", podShutdownTimeout, .ofSeconds 120⟩ ∈
      timeoutSources := by
    simp [timeoutSources]
  refine ⟨((ofVariables_reads edgeValues).1 _).mpr follow_edgeValues, ?_⟩
  exact (ofVariables_reads printedLargest).2.2.1 _ member ['\u2003'] ['\n'] 18446744073709551615
    (by decide) (by decide) (by decide) rfl

end Settings

end Provisioning
