/-!
# Counts in decimal

Reading a whole number that fits into 64 bits: an optional plus sign and one or more ASCII digits,
leading zeros allowed.  Digit by digit the number so far is carried on, and reading ends where it no
longer fits.  Main statements: when a number is read (`readCount_eq_some_iff`), and that a number
printed in decimal is read back (`readCount_toDigits`).
-/

namespace Provisioning.Text

/-- The first number that does not fit into 64 bits. -/
def countLimit : Nat := 18446744073709551616

/-- The characters without a leading plus sign. -/
def withoutPlus : List Char → List Char
  | '+' :: rest => rest
  | characters => characters

/-- The number with one more digit behind it, if the character is a digit and the number still
fits. -/
def appendDigit (number : Nat) (character : Char) : Option Nat :=
  let longer := 10 * number + (character.toNat - '0'.toNat)
  if character.isDigit ∧ longer < countLimit then some longer else none

/-- The number below `countLimit` that the characters denote, if they denote one. -/
def readCount (characters : List Char) : Option Nat :=
  match withoutPlus characters with
  | [] => none
  | first :: rest => (first :: rest).foldlM appendDigit 0

private theorem appendDigit_eq_some_iff {number longer : Nat} {character : Char} :
    appendDigit number character = some longer ↔
      character.isDigit ∧ 10 * number + (character.toNat - '0'.toNat) = longer ∧
        longer < countLimit := by
  simp only [appendDigit]
  split
  · rename_i taken
    rw [Option.some.injEq]
    constructor
    · intro equality
      exact ⟨taken.1, equality, equality ▸ taken.2⟩
    · intro conditions
      exact conditions.2.1
  · rename_i refused
    simp only [reduceCtorEq, false_iff]
    rintro ⟨isDigit, rfl, fits⟩
    exact refused ⟨isDigit, fits⟩

/-- Digits behind a number never make it smaller. -/
theorem le_ofDigitChars (digits : List Char) (start : Nat) :
    start ≤ Nat.ofDigitChars 10 digits start := by
  rw [Nat.ofDigitChars_eq_ofDigitChars_zero]
  have scaled : 1 * start ≤ 10 ^ digits.length * start :=
    Nat.mul_le_mul_right start (Nat.pow_pos (by decide))
  omega

/-- All the digits behind a number are taken exactly if the number that they make of it fits: on the
way there it was no larger. -/
theorem foldlM_appendDigit_eq_some_iff {digits : List Char} {start number : Nat}
    (fits : start < countLimit) :
    digits.foldlM appendDigit start = some number ↔
      digits.all Char.isDigit ∧ Nat.ofDigitChars 10 digits start = number ∧
        number < countLimit := by
  induction digits generalizing start with
  | nil =>
      rw [List.foldlM_nil, Nat.ofDigitChars_nil]
      constructor
      · rintro ⟨⟩
        exact ⟨rfl, rfl, fits⟩
      · rintro ⟨_, rfl, _⟩
        rfl
  | cons first rest inductionHypothesis =>
      rw [List.foldlM_cons, Nat.ofDigitChars_cons, List.all_cons, Bool.and_eq_true]
      simp only [bind, Option.bind_eq_some_iff, appendDigit_eq_some_iff]
      constructor
      · rintro ⟨longer, ⟨isDigit, rfl, longerFits⟩, taken⟩
        obtain ⟨allDigits, denoted, numberFits⟩ := (inductionHypothesis longerFits).mp taken
        exact ⟨⟨isDigit, allDigits⟩, denoted, numberFits⟩
      · rintro ⟨⟨isDigit, allDigits⟩, rfl, numberFits⟩
        have longerFits := Nat.lt_of_le_of_lt (le_ofDigitChars rest _) numberFits
        exact ⟨_, ⟨isDigit, rfl, longerFits⟩,
          (inductionHypothesis longerFits).mpr ⟨allDigits, rfl, numberFits⟩⟩

/-- A number is read exactly from digits, after at most one plus sign, that denote it. -/
theorem readCount_eq_some_iff {characters : List Char} {number : Nat} :
    readCount characters = some number ↔
      withoutPlus characters ≠ [] ∧ (withoutPlus characters).all Char.isDigit ∧
        Nat.ofDigitChars 10 (withoutPlus characters) 0 = number ∧ number < countLimit := by
  rw [readCount]
  split
  · rename_i nothing
    simp only [reduceCtorEq, false_iff]
    intro conditions
    exact conditions.1 nothing
  · rename_i first rest digits
    have filled : first :: rest ≠ [] := List.cons_ne_nil first rest
    rw [digits, foldlM_appendDigit_eq_some_iff (by decide)]
    exact (and_iff_right filled).symm

/-- Digits carry no plus sign. -/
theorem withoutPlus_eq_self {digits : List Char} (allDigits : ∀ digit ∈ digits, digit.isDigit) :
    withoutPlus digits = digits := by
  unfold withoutPlus
  split
  · exact absurd (allDigits '+' List.mem_cons_self) (by decide)
  · rfl

/-- A number that fits is read back from its decimal digits. -/
theorem readCount_toDigits {number : Nat} (fits : number < countLimit) :
    readCount (Nat.toDigits 10 number) = some number := by
  have allDigits : ∀ digit ∈ Nat.toDigits 10 number, digit.isDigit :=
    fun _ member => Nat.isDigit_of_mem_toDigits (by decide) (by decide) member
  rw [readCount_eq_some_iff, withoutPlus_eq_self allDigits]
  exact ⟨Nat.toDigits_ne_nil, List.all_eq_true.mpr allDigits,
    Nat.ofDigitChars_toDigits (by decide) (by decide), fits⟩

end Provisioning.Text
