/-!
# White space

The characters with the Unicode property `White_Space`, and the removal of such characters from
both ends of a text.  Main statements: `trimmed` text neither begins nor ends with white space
(`not_isBlank_head_trimChars`, `eq_nil_of_trimChars_append`), what was taken away is white space
(`exists_append_trimChars`), and surrounding white space does not change it (`trimChars_append`).
-/

namespace Provisioning.Text

/-- The 25 characters with the Unicode property `White_Space`. -/
def isBlank (character : Char) : Bool :=
  let code := character.toNat
  (0x09 ≤ code && code ≤ 0x0D) || code == 0x20 || code == 0x85 || code == 0xA0 ||
    code == 0x1680 || (0x2000 ≤ code && code ≤ 0x200A) || code == 0x2028 || code == 0x2029 ||
    code == 0x202F || code == 0x205F || code == 0x3000

/-- The characters without the white space at either end. -/
def trimChars (characters : List Char) : List Char :=
  ((characters.dropWhile isBlank).reverse.dropWhile isBlank).reverse

/-- The text without the white space at either end. -/
def trimmed (text : String) : String :=
  String.ofList (trimChars text.toList)

/-- Text that holds white space only, or nothing at all. -/
def isAllBlank (text : String) : Bool :=
  text.toList.all isBlank

/-- No decimal digit is white space. -/
theorem isBlank_eq_false_of_isDigit {character : Char} (isDigit : character.isDigit) :
    isBlank character = false := by
  simp only [Char.isDigit, Bool.and_eq_true, decide_eq_true_eq] at isDigit
  have above : 48 ≤ character.toNat := isDigit.1
  have below : character.toNat ≤ 57 := isDigit.2
  simp only [isBlank, Bool.or_eq_false_iff, Bool.and_eq_false_iff, decide_eq_false_iff_not,
    beq_eq_false_iff_ne]
  omega

/-! ## What trimming leaves -/

/-- Trimming splits the characters into white space, what it leaves, and white space. -/
theorem exists_append_trimChars (characters : List Char) :
    ∃ before after, (∀ character ∈ before, isBlank character) ∧
      (∀ character ∈ after, isBlank character) ∧
      characters = before ++ trimChars characters ++ after := by
  refine ⟨characters.takeWhile isBlank,
    ((characters.dropWhile isBlank).reverse.takeWhile isBlank).reverse, ?_, ?_, ?_⟩
  · exact List.all_eq_true.mp List.all_takeWhile
  · intro character member
    exact List.all_eq_true.mp List.all_takeWhile character (List.mem_reverse.mp member)
  · rw [trimChars, List.append_assoc, ← List.reverse_append, List.takeWhile_append_dropWhile,
      List.reverse_reverse, List.takeWhile_append_dropWhile]

/-- Trimming takes no other character away. -/
theorem mem_trimChars {characters : List Char} {character : Char} (member : character ∈ characters)
    (filled : isBlank character = false) : character ∈ trimChars characters := by
  obtain ⟨before, after, blankBefore, blankAfter, whole⟩ := exists_append_trimChars characters
  rw [whole, List.mem_append, List.mem_append] at member
  obtain (inBefore | kept) | inAfter := member
  · exact absurd (blankBefore character inBefore) (by simp [filled])
  · exact kept
  · exact absurd (blankAfter character inAfter) (by simp [filled])

/-- The first character that trimming leaves is no white space. -/
theorem not_isBlank_head_trimChars {characters : List Char} {head : Char} {tail : List Char}
    (kept : trimChars characters = head :: tail) : isBlank head = false := by
  unfold trimChars at kept
  cases rest : characters.dropWhile isBlank with
  | nil => simp [rest] at kept
  | cons first others =>
      have firstKept : isBlank first = false := by
        have := List.head_dropWhile_not (p := isBlank) (l := characters) (by simp [rest])
        simpa [rest] using this
      have split := List.takeWhile_append_dropWhile (p := isBlank) (l := (first :: others).reverse)
      rw [rest] at kept
      have reversed : first :: others =
          ((first :: others).reverse.dropWhile isBlank).reverse ++
            ((first :: others).reverse.takeWhile isBlank).reverse := by
        rw [← List.reverse_append, split, List.reverse_reverse]
      rw [kept] at reversed
      simp only [List.cons_append, List.cons.injEq] at reversed
      rw [← reversed.1]
      exact firstKept

/-- What trimming leaves does not end with white space. -/
theorem eq_nil_of_trimChars_append {characters front back : List Char}
    (kept : trimChars characters = front ++ back)
    (blankBack : ∀ character ∈ back, isBlank character) : back = [] := by
  have reversed := congrArg List.reverse kept
  rw [trimChars, List.reverse_reverse, List.reverse_append] at reversed
  cases last : back.reverse with
  | nil => exact List.reverse_eq_nil_iff.mp last
  | cons first others =>
      rw [last] at reversed
      have member : first ∈ back := by
        rw [← List.mem_reverse, last]
        exact List.mem_cons_self
      have firstKept := List.head_dropWhile_not (p := isBlank)
        (l := (characters.dropWhile isBlank).reverse) (by simp [reversed])
      simp [reversed, blankBack first member] at firstKept

/-- White space put before and after leaves the trimmed text as it was. -/
theorem trimChars_append {before after characters : List Char}
    (blankBefore : ∀ character ∈ before, isBlank character)
    (blankAfter : ∀ character ∈ after, isBlank character) :
    trimChars (before ++ characters ++ after) = trimChars characters := by
  have dropBefore : (before ++ characters ++ after).dropWhile isBlank =
      (characters ++ after).dropWhile isBlank := by
    rw [List.append_assoc]
    exact List.dropWhile_append_of_pos blankBefore
  have dropAfter : (after ++ []).dropWhile isBlank = [] :=
    List.dropWhile_append_of_pos blankAfter
  unfold trimChars
  rw [dropBefore, List.dropWhile_append]
  split
  · rename_i nothing
    have empty : characters.dropWhile isBlank = [] := by simpa using nothing
    rw [List.append_nil] at dropAfter
    rw [empty, dropAfter]
  · rw [List.reverse_append, List.dropWhile_append_of_pos]
    intro character member
    exact blankAfter character (List.mem_reverse.mp member)

/-- Text without white space is left as it is. -/
theorem trimChars_eq_self {characters : List Char}
    (filled : ∀ character ∈ characters, isBlank character = false) :
    trimChars characters = characters := by
  have kept : ∀ others : List Char, (∀ character ∈ others, isBlank character = false) →
      others.dropWhile isBlank = others := by
    intro others filled
    cases others with
    | nil => rfl
    | cons head tail => rw [List.dropWhile_cons, filled head List.mem_cons_self]; rfl
  unfold trimChars
  rw [kept characters filled, kept characters.reverse, List.reverse_reverse]
  intro character member
  exact filled character (List.mem_reverse.mp member)

end Provisioning.Text
