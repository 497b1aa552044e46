import Mathlib.Data.String.Basic
import Provisioning.Cluster.ObjectKey

/-!
# The order of texts is that of their bytes

Texts are compared by code points, character by character.  UTF-8 keeps that order: of two texts the
one that is less has the lesser bytes, compared byte by byte (`Text.lt_iff_bytes_lt`).  So the order of
keys is byte order as well (`ObjectKey.lt_iff_bytes`).
-/

namespace Provisioning

namespace Text

/-- The bytes of a text in UTF-8. -/
def bytes (text : String) : List UInt8 :=
  text.toUTF8.data.toList

@[simp]
theorem bytes_ofList (characters : List Char) :
    bytes (String.ofList characters) = characters.flatMap String.utf8EncodeChar := by
  rw [bytes, String.toUTF8_eq_toByteArray, String.toByteArray_ofList, List.utf8Encode,
    List.data_toByteArray]

private theorem utf8EncodeChar_ne_nil (character : Char) : String.utf8EncodeChar character ≠ [] := by
  unfold String.utf8EncodeChar
  grind

/-- The lesser of two characters has the lesser bytes, whatever bytes follow. -/
theorem utf8EncodeChar_append_lt {lesser greater : Char} (below : lesser < greater)
    (rest others : List UInt8) :
    String.utf8EncodeChar lesser ++ rest < String.utf8EncodeChar greater ++ others := by
  have codes : lesser.val.toNat < greater.val.toNat := UInt32.lt_iff_toNat_lt.mp below
  have bounded : greater.val.toNat < 0x110000 := by
    have valid := greater.valid
    unfold UInt32.isValidChar Nat.isValidChar at valid
    omega
  generalize greaterCode : greater.val.toNat = code at codes bounded
  generalize lesserCode : lesser.val.toNat = lower at codes
  -- The bytes carry the code six bits at a time.
  have twoShifts : ∀ number : Nat, number / 4096 = number / 64 / 64 := by omega
  have threeShifts : ∀ number : Nat, number / 262144 = number / 64 / 64 / 64 := by omega
  simp only [String.utf8EncodeChar, greaterCode, lesserCode, twoShifts, threeShifts]
  split_ifs <;>
    simp only [List.cons_append, List.nil_append, List.cons_lt_cons_iff, UInt8.lt_iff_toNat_lt,
      ← UInt8.toNat_inj, UInt8.toNat_ofNat'] <;>
    omega

private theorem flatMap_utf8EncodeChar_lt {left right : List Char} (below : left < right) :
    left.flatMap String.utf8EncodeChar < right.flatMap String.utf8EncodeChar := by
  induction left generalizing right with
  | nil =>
      cases right with
      | nil => exact absurd below (List.lt_irrefl [])
      | cons head tail =>
          have filled : (head :: tail).flatMap String.utf8EncodeChar ≠ [] := by
            rw [List.flatMap_cons]
            exact List.append_ne_nil_of_left_ne_nil (utf8EncodeChar_ne_nil head) _
          obtain ⟨first, rest, isFirst⟩ := List.exists_cons_of_ne_nil filled
          rw [isFirst]
          exact List.nil_lt_cons first rest
  | cons head tail inductionHypothesis =>
      cases right with
      | nil => exact absurd below (List.not_lt_nil _)
      | cons other others =>
          rw [List.flatMap_cons, List.flatMap_cons]
          rcases List.cons_lt_cons_iff.mp below with lesser | ⟨rfl, rest⟩
          · exact utf8EncodeChar_append_lt lesser _ _
          · exact List.append_left_lt (inductionHypothesis rest)

private theorem bytes_lt_of_lt {left right : String} (below : left < right) : bytes left < bytes right := by
  rw [← String.ofList_toList (s := left), ← String.ofList_toList (s := right), bytes_ofList,
    bytes_ofList]
  exact flatMap_utf8EncodeChar_lt (String.lt_iff_toList_lt.mp below)

/-- Texts are in the order of their bytes. -/
theorem lt_iff_bytes_lt {left right : String} : left < right ↔ bytes left < bytes right := by
  constructor
  · exact bytes_lt_of_lt
  · intro below
    rcases lt_trichotomy left right with lesser | same | greater
    · exact lesser
    · exact absurd (same ▸ below) (List.lt_irrefl _)
    · exact absurd (bytes_lt_of_lt greater) (List.lt_asymm below)

end Text

/-- Keys are in the order of the bytes of the namespaces, and in one namespace of the names. -/
theorem ObjectKey.lt_iff_bytes {left right : ObjectKey} :
    left < right ↔ Text.bytes left.namespaceName < Text.bytes right.namespaceName ∨
      (left.namespaceName = right.namespaceName ∧
        Text.bytes left.name < Text.bytes right.name) := by
  rw [lt_iff, Text.lt_iff_bytes_lt, Text.lt_iff_bytes_lt]

end Provisioning
