import Mathlib.Data.Nat.Digits.Defs
import Provisioning.Text.Blank
import Provisioning.Text.Count

/-!
# Written numbers

Which texts denote a number, and which are refused.  A number is written with decimal digits, perhaps
a plus sign before them, and white space around it; a value that is refused is absent, breaks one of
these rules or denotes a number that does not fit into 64 bits.  Both are stated on the text alone,
without the steps in which it is read.

Main statements: what is read of a trimmed text (`readCount_trimChars_eq_some_iff`), and that the
refused values are the others, with nothing left between (`refused_iff`).
-/

namespace Provisioning

namespace Text

variable {text : String} {number : Nat}

/-! ## Written numbers -/

/-- The code points with the Unicode property `White_Space`. -/
def whiteSpace : List Nat :=
  [0x09, 0x0A, 0x0B, 0x0C, 0x0D, 0x20, 0x85, 0xA0, 0x1680, 0x2000, 0x2001, 0x2002, 0x2003, 0x2004,
    0x2005, 0x2006, 0x2007, 0x2008, 0x2009, 0x200A, 0x2028, 0x2029, 0x202F, 0x205F, 0x3000]

/-- No character but white space. -/
def Blank (characters : List Char) : Prop :=
  ∀ character ∈ characters, character.toNat ∈ whiteSpace

/-- The number that decimal digits stand for, each by its place from the end. -/
def numeral (digits : List Char) : Nat :=
  Nat.ofDigits 10 (digits.reverse.map fun digit => digit.toNat - '0'.toNat)

/-- The text is a written number: ASCII digits, at least one of them and zeros at the front allowed,
with perhaps a plus sign before them and white space around them. -/
def Denotes (text : String) (number : Nat) : Prop :=
  ∃ before sign digits after : List Char,
    text.toList = before ++ (sign ++ digits) ++ after ∧ Blank before ∧ Blank after ∧
      (sign = [] ∨ sign = ['+']) ∧ digits ≠ [] ∧ (∀ digit ∈ digits, digit.isDigit) ∧
      numeral digits = number

instance (characters : List Char) : Decidable (Blank characters) :=
  List.decidableBAll (fun character : Char => character.toNat ∈ whiteSpace) characters

private theorem isBlank_iff {character : Char} :
    isBlank character = true ↔ character.toNat ∈ whiteSpace := by
  simp only [isBlank, whiteSpace, Bool.or_eq_true, Bool.and_eq_true, decide_eq_true_eq, beq_iff_eq,
    List.mem_cons, List.not_mem_nil, or_false]
  omega

theorem blank_iff {characters : List Char} :
    Blank characters ↔ ∀ character ∈ characters, isBlank character := by
  simp only [Blank, isBlank_iff]

/-- Carrying the number on from digit to digit gives each digit its place. -/
theorem ofDigitChars_eq_numeral (digits : List Char) :
    Nat.ofDigitChars 10 digits 0 = numeral digits := by
  induction digits with
  | nil => rfl
  | cons first rest inductionHypothesis =>
      rw [Nat.ofDigitChars_cons, Nat.mul_zero, Nat.zero_add, Nat.ofDigitChars_eq_ofDigitChars_zero,
        inductionHypothesis, numeral, numeral, List.map_reverse, List.map_reverse, List.map_cons,
        Nat.ofDigits_reverse_cons, List.length_map, Nat.add_comm]

private theorem withoutPlus_append {sign digits : List Char} (signed : sign = [] ∨ sign = ['+'])
    (allDigits : ∀ digit ∈ digits, digit.isDigit) : withoutPlus (sign ++ digits) = digits := by
  obtain rfl | rfl := signed
  · exact withoutPlus_eq_self allDigits
  · rfl

private theorem exists_append_withoutPlus (characters : List Char) :
    ∃ sign : List Char, (sign = [] ∨ sign = ['+']) ∧ characters = sign ++ withoutPlus characters := by
  unfold withoutPlus
  split
  · exact ⟨['+'], .inr rfl, rfl⟩
  · exact ⟨[], .inl rfl, rfl⟩

/-- Trimming leaves nothing of a written number but its sign and its digits. -/
theorem trimChars_written {before sign digits after : List Char} (blankBefore : Blank before)
    (blankAfter : Blank after) (signed : sign = [] ∨ sign = ['+'])
    (allDigits : ∀ digit ∈ digits, digit.isDigit) :
    trimChars (before ++ (sign ++ digits) ++ after) = sign ++ digits := by
  rw [trimChars_append (blank_iff.mp blankBefore) (blank_iff.mp blankAfter)]
  refine trimChars_eq_self fun character member => ?_
  obtain inSign | inDigits := List.mem_append.mp member
  · obtain rfl | rfl := signed
    · cases inSign
    · rw [List.mem_singleton.mp inSign]
      decide
  · exact isBlank_eq_false_of_isDigit (allDigits character inDigits)

/-- A text is a written number exactly if trimming leaves digits of it, after at most one plus
sign. -/
theorem denotes_iff :
    Denotes text number ↔
      withoutPlus (trimChars text.toList) ≠ [] ∧
        (withoutPlus (trimChars text.toList)).all Char.isDigit ∧
        Nat.ofDigitChars 10 (withoutPlus (trimChars text.toList)) 0 = number := by
  constructor
  · rintro ⟨before, sign, digits, after, whole, blankBefore, blankAfter, signed, filled, allDigits,
      rfl⟩
    rw [whole, trimChars_written blankBefore blankAfter signed allDigits,
      withoutPlus_append signed allDigits]
    exact ⟨filled, List.all_eq_true.mpr allDigits, ofDigitChars_eq_numeral digits⟩
  · rintro ⟨filled, allDigits, rfl⟩
    obtain ⟨before, after, blankBefore, blankAfter, whole⟩ := exists_append_trimChars text.toList
    obtain ⟨sign, signed, core⟩ := exists_append_withoutPlus (trimChars text.toList)
    rw [core] at whole
    exact ⟨before, sign, _, after, whole, blank_iff.mpr blankBefore, blank_iff.mpr blankAfter, signed,
      filled, List.all_eq_true.mp allDigits, (ofDigitChars_eq_numeral _).symm⟩

theorem Denotes.unique {other : Nat} (denotes : Denotes text number)
    (denotesOther : Denotes text other) : number = other :=
  (denotes_iff.mp denotes).2.2.symm.trans (denotes_iff.mp denotesOther).2.2

/-- What is read of a trimmed text is the number that is written there, if it fits. -/
theorem readCount_trimChars_eq_some_iff :
    readCount (trimChars text.toList) = some number ↔ Denotes text number ∧ number < 2 ^ 64 := by
  rw [readCount_eq_some_iff, denotes_iff, and_assoc, and_assoc]
  rfl

/-- A number in decimal, whatever white space is around it, is written. -/
theorem denotes_toString {before after : List Char} (blankBefore : Blank before)
    (blankAfter : Blank after) (number : Nat) :
    Denotes (String.ofList before ++ toString number ++ String.ofList after) number := by
  refine ⟨before, [], Nat.toDigits 10 number, after, ?_, blankBefore, blankAfter, .inl rfl,
    Nat.toDigits_ne_nil, ?_, ?_⟩
  · rw [Nat.toString_eq_ofList_toDigits, String.toList_append, String.toList_append,
      String.toList_ofList, String.toList_ofList, String.toList_ofList, List.nil_append]
  · intro digit member
    exact Nat.isDigit_of_mem_toDigits (by decide) (by decide) member
  · rw [← ofDigitChars_eq_numeral]
    exact Nat.ofDigitChars_toDigits (by decide) (by decide)

/-! ## Refused values -/

/-- The values that give no timeout. -/
inductive Refused : Option String → Prop
  | absent : Refused none
  /-- Nothing, white space only, or no more than a sign. -/
  | digitless {text : String} :
      (∀ character ∈ text.toList, character.isDigit = false) → Refused (some text)
  /-- A minus sign, a point, a letter or a digit of another script. -/
  | foreign {text : String} {character : Char} :
      character ∈ text.toList → character.toNat ∉ whiteSpace → character ≠ '+' →
        character.isDigit = false → Refused (some text)
  /-- A plus sign behind a digit or behind another sign. -/
  | signBehind {text : String} {before after : List Char} :
      text.toList = before ++ '+' :: after → ¬ Blank before → Refused (some text)
  | spaceInside {text : String} {before after : List Char} {space : Char} :
      text.toList = before ++ space :: after → space.toNat ∈ whiteSpace → ¬ Blank before →
        ¬ Blank after → Refused (some text)
  | large {text : String} {number : Nat} :
      Denotes text number → 2 ^ 64 ≤ number → Refused (some text)

/-- Behind a beginning that is more than the white space in front, some of the rest is passed. -/
theorem exists_passed {front written before after : List Char} {character : Char}
    (split : front ++ written = before ++ character :: after) (blankFront : Blank front)
    (begun : ¬ Blank before) : ∃ first passed, written = first :: (passed ++ character :: after) := by
  obtain ⟨reached, reaches, remaining⟩ | ⟨unread, early, -⟩ := List.append_eq_append_iff.mp split
  · cases reached with
    | nil =>
        rw [List.append_nil] at reaches
        exact absurd (reaches ▸ blankFront) begun
    | cons first passed => exact ⟨first, passed, remaining⟩
  · have blankBefore : Blank before := fun space member =>
      blankFront space (early ▸ List.mem_append_left unread member)
    exact absurd blankBefore begun

private theorem mem_or_exists_append {passed after left back : List Char} {character : Char}
    (split : left ++ back = passed ++ character :: after) :
    character ∈ left ∨ ∃ between, back = between ++ character :: after := by
  obtain ⟨between, -, ending⟩ | ⟨inside, goesOn, ending⟩ := List.append_eq_append_iff.mp split
  · exact .inr ⟨between, ending⟩
  · cases inside with
    | nil => exact .inr ⟨[], ending.symm⟩
    | cons first others =>
        left
        rw [goesOn, (List.cons.inj ending).1]
        exact List.mem_append_right passed List.mem_cons_self

/-- Behind something that is no white space a written number goes on with a digit, or there is white
space to its end. -/
theorem Denotes.isDigit_or_blank {before after : List Char} {character : Char}
    (denotes : Denotes text number) (split : text.toList = before ++ character :: after)
    (begun : ¬ Blank before) : character.isDigit ∨ Blank (character :: after) := by
  obtain ⟨front, sign, digits, back, whole, blankFront, blankBack, signed, filled, allDigits, -⟩ :=
    denotes
  rw [whole, List.append_assoc] at split
  obtain ⟨first, passed, remaining⟩ := exists_passed split blankFront begun
  -- What was passed is the sign or the first digit, so no sign is left.
  obtain ⟨left, leftDigits, leftSplit⟩ : ∃ left : List Char, (∀ digit ∈ left, digit.isDigit) ∧
      left ++ back = passed ++ character :: after := by
    obtain rfl | rfl := signed
    · cases digits with
      | nil => exact absurd rfl filled
      | cons digit left =>
          exact ⟨left, fun other member => allDigits other (List.mem_cons_of_mem digit member),
            (List.cons.inj remaining).2⟩
    · exact ⟨digits, allDigits, (List.cons.inj remaining).2⟩
  obtain inLeft | ⟨between, ending⟩ := mem_or_exists_append leftSplit
  · exact .inl (leftDigits character inLeft)
  · right
    exact fun space member => blankBack space (ending ▸ List.mem_append_right between member)

/-- A refused text denotes no number that fits. -/
theorem Refused.le_of_denotes (refused : Refused (some text)) (denotes : Denotes text number) :
    2 ^ 64 ≤ number := by
  cases refused with
  | digitless noDigit =>
      obtain ⟨before, sign, digits, after, whole, -, -, -, filled, allDigits, -⟩ := denotes
      obtain ⟨digit, member⟩ := List.exists_mem_of_ne_nil digits filled
      have inText : digit ∈ text.toList := by simp [whole, member]
      exact absurd (allDigits digit member) (by simp [noDigit digit inText])
  | @foreign _ character member notWhite notPlus notDigit =>
      obtain ⟨before, sign, digits, after, whole, blankBefore, blankAfter, signed, -, allDigits, -⟩ :=
        denotes
      rw [whole] at member
      simp only [List.mem_append] at member
      obtain (inBefore | inSign | inDigits) | inAfter := member
      · exact absurd (blankBefore character inBefore) notWhite
      · obtain rfl | rfl := signed
        · cases inSign
        · exact absurd (List.mem_singleton.mp inSign) notPlus
      · exact absurd (allDigits character inDigits) (by simp [notDigit])
      · exact absurd (blankAfter character inAfter) notWhite
  | signBehind split begun =>
      obtain isDigit | blank := denotes.isDigit_or_blank split begun
      · exact absurd isDigit (by decide)
      · exact absurd (blank '+' List.mem_cons_self) (by decide)
  | spaceInside split isWhite begun goesOn =>
      obtain isDigit | blank := denotes.isDigit_or_blank split begun
      · have notWhite := isBlank_eq_false_of_isDigit isDigit
        rw [isBlank_iff.mpr isWhite] at notWhite
        cases notWhite
      · exact absurd (fun space member => blank space (List.mem_cons_of_mem _ member)) goesOn
  | large denotesLarge isLarge => exact denotes.unique denotesLarge ▸ isLarge

/-- Nothing but digits follows the first character of an accepted text. -/
theorem isDigit_tail_of_accepted {first character : Char} {rest : List Char}
    (accepted : ¬ Refused (some text)) (core : trimChars text.toList = first :: rest)
    (member : character ∈ rest) : character.isDigit := by
  obtain ⟨before, after, blankBefore, blankAfter, whole⟩ := exists_append_trimChars text.toList
  obtain ⟨passed, others, rfl⟩ := List.append_of_mem member
  have split : text.toList = (before ++ first :: passed) ++ character :: (others ++ after) := by
    rw [whole, core]
    simp
  have begun : ¬ Blank (before ++ first :: passed) := by
    intro blank
    have firstBlank := blank_iff.mp blank first (by simp)
    rw [not_isBlank_head_trimChars core] at firstBlank
    cases firstBlank
  by_contra notDigit
  by_cases isPlus : character = '+'
  · subst isPlus
    exact accepted (.signBehind split begun)
  · by_cases isWhite : character.toNat ∈ whiteSpace
    · refine accepted (.spaceInside split isWhite begun fun blank => ?_)
      -- Then trimming would have taken the space away, and all behind it.
      have kept : trimChars text.toList = (first :: passed) ++ (character :: others) := by
        rw [core, List.cons_append]
      have nothing := eq_nil_of_trimChars_append kept fun space member => by
        obtain rfl | inOthers := List.mem_cons.mp member
        · exact isBlank_iff.mpr isWhite
        · exact blank_iff.mp blank space (List.mem_append_left after inOthers)
      cases nothing
    · have inText : character ∈ text.toList := by simp [split]
      exact accepted (.foreign inText isWhite isPlus (Bool.eq_false_of_not_eq_true notDigit))

/-- An accepted text begins with a plus sign or a digit. -/
theorem head_of_accepted {first : Char} {rest : List Char} (accepted : ¬ Refused (some text))
    (core : trimChars text.toList = first :: rest) : first = '+' ∨ first.isDigit := by
  by_contra other
  rw [not_or] at other
  obtain ⟨before, after, -, -, whole⟩ := exists_append_trimChars text.toList
  have inText : first ∈ text.toList := by
    rw [whole, core]
    simp
  have notWhite : first.toNat ∉ whiteSpace := by
    rw [← isBlank_iff, not_isBlank_head_trimChars core]
    decide
  exact accepted (.foreign inText notWhite other.1 (Bool.eq_false_of_not_eq_true other.2))

private theorem exists_isDigit_of_accepted (accepted : ¬ Refused (some text)) :
    ∃ digit ∈ trimChars text.toList, digit.isDigit := by
  by_contra noDigit
  refine accepted (.digitless fun character member => Bool.eq_false_of_not_eq_true ?_)
  intro isDigit
  have kept := mem_trimChars member (isBlank_eq_false_of_isDigit isDigit)
  exact noDigit ⟨character, kept, isDigit⟩

/-- An accepted text is digits behind at most one plus sign, with white space around them. -/
theorem digits_of_accepted (accepted : ¬ Refused (some text)) :
    withoutPlus (trimChars text.toList) ≠ [] ∧
      ∀ digit ∈ withoutPlus (trimChars text.toList), digit.isDigit := by
  obtain ⟨digit, inCore, isDigit⟩ := exists_isDigit_of_accepted accepted
  cases core : trimChars text.toList with
  | nil =>
      rw [core] at inCore
      cases inCore
  | cons first rest =>
      have restDigits : ∀ digit ∈ rest, digit.isDigit := fun _ =>
        isDigit_tail_of_accepted accepted core
      obtain rfl | firstDigit := head_of_accepted accepted core
      · refine ⟨?_, restDigits⟩
        rintro rfl
        rw [core, List.mem_singleton] at inCore
        rw [inCore] at isDigit
        exact absurd isDigit (by decide)
      · have allDigits : ∀ digit ∈ first :: rest, digit.isDigit :=
          List.forall_mem_cons.mpr ⟨firstDigit, restDigits⟩
        rw [withoutPlus_eq_self allDigits]
        exact ⟨List.cons_ne_nil first rest, allDigits⟩

/-- The values that are not refused are those with a written number that fits. -/
theorem refused_iff {value? : Option String} :
    Refused value? ↔
      ¬ ∃ text number, value? = some text ∧ Denotes text number ∧ number < 2 ^ 64 := by
  constructor
  · rintro refused ⟨text, number, rfl, denotes, fits⟩
    exact absurd (refused.le_of_denotes denotes) (Nat.not_le_of_lt fits)
  · intro unwritten
    cases value? with
    | none => exact .absent
    | some text =>
        by_contra accepted
        obtain ⟨filled, allDigits⟩ := digits_of_accepted accepted
        have denotes : Denotes text _ :=
          denotes_iff.mpr ⟨filled, List.all_eq_true.mpr allDigits, rfl⟩
        refine unwritten ⟨text, _, rfl, denotes, ?_⟩
        by_contra large
        exact accepted (.large denotes (Nat.le_of_not_lt large))

theorem readCount_trimChars_eq_none_iff :
    readCount (trimChars text.toList) = none ↔ Refused (some text) := by
  rw [refused_iff, Option.eq_none_iff_forall_ne_some]
  constructor
  · rintro unread ⟨_, number, ⟨⟩, written⟩
    exact unread number (readCount_trimChars_eq_some_iff.mpr written)
  · intro unwritten number read
    exact unwritten ⟨text, number, rfl, readCount_trimChars_eq_some_iff.mp read⟩

end Text

end Provisioning
