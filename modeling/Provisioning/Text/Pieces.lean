/-!
# Pieces of a text

Cutting a text at every separator.  Main statement: the pieces of texts that are written each behind
a separator (`pieces_flatMap`).
-/

namespace Provisioning.Text

def pieces (separator : Char) : List Char → List (List Char)
  | [] => [[]]
  | character :: rest =>
      if character = separator then [] :: pieces separator rest
      else
        match pieces separator rest with
        | first :: others => (character :: first) :: others
        | [] => [[character]]

/-! ## Texts without a separator -/

variable {separator : Char} {piece text : List Char}

@[simp]
theorem pieces_cons_separator (separator : Char) (text : List Char) :
    pieces separator (separator :: text) = [] :: pieces separator text := by
  rw [pieces, if_pos rfl]

/-- The beginning of a text up to its first separator. -/
theorem takeWhile_ne_append (whole : separator ∉ piece) (rest : List Char) :
    (piece ++ separator :: rest).takeWhile (· ≠ separator) = piece := by
  have before : ∀ character ∈ piece, decide (character ≠ separator) = true := fun _ member =>
    decide_eq_true fun isSeparator => whole (isSeparator ▸ member)
  rw [List.takeWhile_append_of_pos before, List.takeWhile_cons_of_neg (by simp), List.append_nil]

/-- What is left of a text from its first separator on. -/
theorem dropWhile_ne_append (whole : separator ∉ piece) (rest : List Char) :
    (piece ++ separator :: rest).dropWhile (· ≠ separator) = separator :: rest := by
  have before : ∀ character ∈ piece, decide (character ≠ separator) = true := fun _ member =>
    decide_eq_true fun isSeparator => whole (isSeparator ▸ member)
  rw [List.dropWhile_append_of_pos before, List.dropWhile_cons_of_neg (by simp)]

/-- What stands before a separator, or before the end, belongs to the first piece. -/
theorem pieces_append {others : List (List Char)} (whole : separator ∉ piece)
    (cut : pieces separator text = [] :: others) :
    pieces separator (piece ++ text) = piece :: others := by
  induction piece with
  | nil => exact cut
  | cons first rest inductionHypothesis =>
      rw [List.mem_cons, not_or] at whole
      rw [List.cons_append, pieces, if_neg (Ne.symm whole.1), inductionHypothesis whole.2]

/-- Texts without a separator are the pieces of what they are written as, each behind a separator. -/
theorem pieces_flatMap {α : Type} {written : α → List Char} {values : List α}
    (whole : ∀ value ∈ values, separator ∉ written value) :
    pieces separator (values.flatMap fun value => separator :: written value) =
      [] :: values.map written := by
  induction values with
  | nil => rfl
  | cons first rest inductionHypothesis =>
      have wholeRest := inductionHypothesis fun value member =>
        whole value (List.mem_cons_of_mem first member)
      rw [List.flatMap_cons, List.cons_append, pieces_cons_separator,
        pieces_append (whole first List.mem_cons_self) wholeRest, List.map_cons]

end Provisioning.Text
