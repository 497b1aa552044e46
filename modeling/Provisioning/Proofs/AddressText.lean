import Mathlib.Data.List.TakeWhile
import Mathlib.Tactic.SplitIfs
import Provisioning.Api.Address

/-!
# Addresses are read as they were written

The parameters of an address can be any texts: what has a meaning in an address, and what cannot stand
there, is written by its bytes.  So an address that is not too long is read as the path and the
parameters that it was written from, if the path is one.

Main statement: what is read from an address that was written (`Address.ofText_textOf`).
-/

namespace Provisioning

namespace Text

/-! ## Bytes of characters -/

/-- A byte behind the first one of a character. -/
def laterByte (code : Nat) : UInt8 :=
  UInt8.ofNat (code % 64 + 128)

@[simp]
theorem toNat_laterByte (code : Nat) : (laterByte code).toNat = code % 64 + 128 := by
  rw [laterByte, UInt8.toNat_ofNat']
  omega

private theorem least_le (code : Nat) : (0x80 : UInt8).toNat ≤ code % 64 + 128 :=
  Nat.le_add_left 128 _

private theorem le_greatest (code : Nat) : code % 64 + 128 ≤ (0xBF : UInt8).toNat :=
  Nat.le_of_lt_succ (Nat.add_lt_add_right (Nat.mod_lt code (by decide)) 128)

section Unfinished

variable {unfinished : Unfinished} {code : Nat}

private theorem extend_laterByte (atLeast : unfinished.least.toNat ≤ code % 64 + 128)
    (atMost : code % 64 + 128 ≤ unfinished.greatest.toNat) :
    unfinished.extend (laterByte code) =
      if unfinished.missing = 1 then ([Char.ofNat (unfinished.bits * 64 + code % 64)], none)
      else ([], some
        { bits := unfinished.bits * 64 + code % 64, missing := unfinished.missing - 1 }) := by
  have within : unfinished.least ≤ laterByte code ∧ laterByte code ≤ unfinished.greatest := by
    rw [UInt8.le_iff_toNat_le, UInt8.le_iff_toNat_le, toNat_laterByte]
    exact ⟨atLeast, atMost⟩
  have low : (laterByte code).toNat % 64 = code % 64 := by
    rw [toNat_laterByte]
    omega
  rw [Unfinished.extend, if_pos within, low]

private theorem charactersAfter_laterByte (rest : List UInt8) (goesOn : unfinished.missing ≠ 1)
    (atLeast : unfinished.least.toNat ≤ code % 64 + 128)
    (atMost : code % 64 + 128 ≤ unfinished.greatest.toNat) :
    charactersAfter (some unfinished) (laterByte code :: rest) =
      charactersAfter (some
        { bits := unfinished.bits * 64 + code % 64, missing := unfinished.missing - 1 }) rest := by
  simp only [charactersAfter, extend_laterByte atLeast atMost, if_neg goesOn, List.nil_append]

private theorem charactersAfter_lastByte (rest : List UInt8) (isLast : unfinished.missing = 1)
    (atLeast : unfinished.least.toNat ≤ code % 64 + 128)
    (atMost : code % 64 + 128 ≤ unfinished.greatest.toNat) :
    charactersAfter (some unfinished) (laterByte code :: rest) =
      Char.ofNat (unfinished.bits * 64 + code % 64) :: charactersAfter none rest := by
  simp only [charactersAfter, extend_laterByte atLeast atMost, if_pos isLast, List.cons_append,
    List.nil_append]

end Unfinished

/-! The first bytes of characters, by the bits that they carry. -/

private theorem startingWith_two : ∀ bits < 32, 2 ≤ bits →
    startingWith (UInt8.ofNat (bits % 32 + 192)) = ([], some { bits, missing := 1 }) := by
  decide

private theorem startingWith_three : ∀ bits < 16,
    startingWith (UInt8.ofNat (bits % 16 + 224)) = ([], some
      { bits, missing := 2, least := if bits = 0 then 0xA0 else 0x80,
        greatest := if bits = 13 then 0x9F else 0xBF }) := by
  decide

private theorem startingWith_four : ∀ bits < 5,
    startingWith (UInt8.ofNat (bits % 8 + 240)) = ([], some
      { bits, missing := 3, least := if bits = 0 then 0x90 else 0x80,
        greatest := if bits = 4 then 0x8F else 0xBF }) := by
  decide

private theorem charactersAfter_start {byte : UInt8} {unfinished : Unfinished} (rest : List UInt8)
    (begins : startingWith byte = ([], some unfinished)) :
    charactersAfter none (byte :: rest) = charactersAfter (some unfinished) rest := by
  simp only [charactersAfter, begins, List.nil_append]

/-! Characters of one to four bytes. -/

private theorem charactersAfter_one {code : Nat} (rest : List UInt8) (ascii : code ≤ 0x7F) :
    charactersAfter none (UInt8.ofNat code :: rest) =
      Char.ofNat code :: charactersAfter none rest := by
  have value : (UInt8.ofNat code).toNat = code := by
    rw [UInt8.toNat_ofNat']
    omega
  have low : UInt8.ofNat code < 0x80 := by
    rw [UInt8.lt_iff_toNat_lt, value]
    exact Nat.lt_succ_of_le ascii
  simp only [charactersAfter, startingWith, if_pos low, value, List.cons_append, List.nil_append]

private theorem charactersAfter_two {code : Nat} (rest : List UInt8) (above : 0x7F < code)
    (below : code ≤ 0x7FF) :
    charactersAfter none (UInt8.ofNat (code / 64 % 32 + 192) :: laterByte code :: rest) =
      Char.ofNat code :: charactersAfter none rest := by
  have begins := startingWith_two (code / 64) (by omega) (by omega)
  have whole : code / 64 * 64 + code % 64 = code := by omega
  rw [charactersAfter_start _ begins,
    charactersAfter_lastByte rest rfl (least_le code) (le_greatest code), whole]

/-- The bounds of the second byte keep out what two bytes can say, and the surrogates. -/
theorem charactersAfter_three {code : Nat} (rest : List UInt8) (above : 0x7FF < code)
    (below : code ≤ 0xFFFF) (valid : code < 0xD800 ∨ 0xDFFF < code) :
    charactersAfter none (UInt8.ofNat (code / 4096 % 16 + 224) :: laterByte (code / 64) ::
      laterByte code :: rest) = Char.ofNat code :: charactersAfter none rest := by
  have begins := startingWith_three (code / 4096) (by omega)
  have least : (if code / 4096 = 0 then (0xA0 : UInt8) else 0x80).toNat ≤
      code / 64 % 64 + 128 := by
    split
    · show 160 ≤ _
      omega
    · exact least_le _
  have greatest : code / 64 % 64 + 128 ≤
      (if code / 4096 = 13 then (0x9F : UInt8) else 0xBF).toNat := by
    split
    · show _ ≤ 159
      omega
    · exact le_greatest _
  have whole : (code / 4096 * 64 + code / 64 % 64) * 64 + code % 64 = code := by omega
  rw [charactersAfter_start _ begins, charactersAfter_laterByte _ (by simp) least greatest,
    charactersAfter_lastByte rest rfl (least_le code) (le_greatest code), whole]

/-- The bounds of the second byte keep out what three bytes can say, and what is beyond the last code
point. -/
theorem charactersAfter_four {code : Nat} (rest : List UInt8) (above : 0xFFFF < code)
    (below : code < 0x110000) :
    charactersAfter none (UInt8.ofNat (code / 262144 % 8 + 240) :: laterByte (code / 4096) ::
      laterByte (code / 64) :: laterByte code :: rest) =
        Char.ofNat code :: charactersAfter none rest := by
  have begins := startingWith_four (code / 262144) (by omega)
  have least : (if code / 262144 = 0 then (0x90 : UInt8) else 0x80).toNat ≤
      code / 4096 % 64 + 128 := by
    split
    · show 144 ≤ _
      omega
    · exact least_le _
  have greatest : code / 4096 % 64 + 128 ≤
      (if code / 262144 = 4 then (0x8F : UInt8) else 0xBF).toNat := by
    split
    · show _ ≤ 143
      omega
    · exact le_greatest _
  have whole : ((code / 262144 * 64 + code / 4096 % 64) * 64 + code / 64 % 64) * 64 +
      code % 64 = code := by omega
  rw [charactersAfter_start _ begins, charactersAfter_laterByte _ (by simp) least greatest,
    charactersAfter_laterByte _ (by simp) (least_le _) (le_greatest _),
    charactersAfter_lastByte rest rfl (least_le code) (le_greatest code), whole]

/-- The bytes of a character are read as that character. -/
theorem charactersAfter_utf8EncodeChar (character : Char) (rest : List UInt8) :
    charactersAfter none (String.utf8EncodeChar character ++ rest) =
      character :: charactersAfter none rest := by
  obtain ⟨code, isCode⟩ : ∃ code, character.val.toNat = code := ⟨_, rfl⟩
  have isCharacter : Char.ofNat code = character := by
    rw [← isCode]
    exact Char.ofNat_toNat character
  have valid : code < 0xD800 ∨ 0xDFFF < code ∧ code < 0x110000 := by
    rw [← isCode]
    exact character.valid
  unfold String.utf8EncodeChar
  simp only [isCode]
  rw [← isCharacter]
  split_ifs with one two three
  · exact charactersAfter_one rest one
  · exact charactersAfter_two rest (Nat.lt_of_not_le one) two
  · exact charactersAfter_three rest (Nat.lt_of_not_le two) three (by omega)
  · exact charactersAfter_four rest (Nat.lt_of_not_le three) (by omega)

/-- The bytes of a text are read as that text. -/
theorem ofBytes_flatMap_utf8EncodeChar (characters : List Char) :
    ofBytes (characters.flatMap String.utf8EncodeChar) = String.ofList characters := by
  unfold ofBytes
  congr 1
  induction characters with
  | nil => rfl
  | cons first rest inductionHypothesis =>
      rw [List.flatMap_cons, charactersAfter_utf8EncodeChar, inductionHypothesis]

end Text

namespace Text.Form

/-! ## Form fields -/

private theorem hexValue?_upperHexDigit : ∀ value < 16, hexValue? (upperHexDigit value) = some value := by
  decide

@[simp]
theorem bytes_escapedByte (byte : UInt8) (rest : List Char) :
    bytes (escapedByte byte ++ rest) = byte :: bytes rest := by
  have high := hexValue?_upperHexDigit (byte.toNat / 16) (by have := byte.toNat_lt; omega)
  have low := hexValue?_upperHexDigit (byte.toNat % 16) (by omega)
  rw [escapedByte, List.cons_append, List.cons_append, List.cons_append, List.nil_append, bytes,
    high, low]
  simp only [Nat.div_add_mod', UInt8.ofNat_toNat]

private theorem bytes_cons {character : Char} (noSpace : character ≠ '+') (noEscape : character ≠ '%')
    (rest : List Char) :
    bytes (character :: rest) = String.utf8EncodeChar character ++ bytes rest := by
  rw [bytes]
  · exact noSpace
  · exact fun _ _ _ isEscape _ => noEscape isEscape

@[simp]
theorem bytes_flatMap_escapedByte (written : List UInt8) (rest : List Char) :
    bytes (written.flatMap escapedByte ++ rest) = written ++ bytes rest := by
  induction written with
  | nil => rfl
  | cons first others inductionHypothesis =>
      rw [List.flatMap_cons, List.append_assoc, bytes_escapedByte, inductionHypothesis,
        List.cons_append]

@[simp]
theorem bytes_encodedChar (character : Char) (rest : List Char) :
    bytes (encodedChar character ++ rest) = String.utf8EncodeChar character ++ bytes rest := by
  unfold encodedChar
  split_ifs with plain space
  · have noSpace : character ≠ '+' := fun isSpace => by simp [isSpace, isPlain] at plain
    have noEscape : character ≠ '%' := fun isEscape => by simp [isEscape, isPlain] at plain
    rw [List.cons_append, List.nil_append, bytes_cons noSpace noEscape]
  · rw [space]
    rfl
  · exact bytes_flatMap_escapedByte _ rest

/-- A text is read as it was written. -/
@[simp]
theorem decode_encode (text : String) : decode (encode text).toList = text := by
  have readsBytes : ∀ characters : List Char,
      bytes (characters.flatMap encodedChar) = characters.flatMap String.utf8EncodeChar := by
    intro characters
    induction characters with
    | nil => rfl
    | cons first rest inductionHypothesis =>
        rw [List.flatMap_cons, bytes_encodedChar, inductionHypothesis, List.flatMap_cons]
  rw [decode, encode, String.toList_ofList, readsBytes, ofBytes_flatMap_utf8EncodeChar,
    String.ofList_toList]

/-- Whether a character can stand in a text that was written. -/
def isWritten (character : Char) : Bool :=
  isPlain character || character == '+' || character == '%'

private theorem ne_of_isWritten {character mark : Char} (written : isWritten character = true)
    (unwritten : isWritten mark = false) : character ≠ mark := by
  rintro rfl
  rw [written] at unwritten
  cases unwritten

private theorem isWritten_of_isPlain {character : Char} (plain : isPlain character = true) :
    isWritten character = true := by
  rw [isWritten, plain]
  rfl

private theorem isPlain_upperHexDigit : ∀ value < 16, isPlain (upperHexDigit value) = true := by
  decide

private theorem isWritten_of_mem_encodedChar {character written : Char}
    (member : written ∈ encodedChar character) : isWritten written = true := by
  unfold encodedChar at member
  split_ifs at member with plain
  · rw [List.mem_singleton.mp member]
    exact isWritten_of_isPlain plain
  · rw [List.mem_singleton.mp member]
    rfl
  · obtain ⟨byte, _, inByte⟩ := List.mem_flatMap.mp member
    have inRange := byte.toNat_lt
    simp only [escapedByte, List.mem_cons, List.not_mem_nil, or_false] at inByte
    rcases inByte with rfl | rfl | rfl
    · rfl
    · exact isWritten_of_isPlain (isPlain_upperHexDigit _ (by omega))
    · exact isWritten_of_isPlain (isPlain_upperHexDigit _ (by omega))

private theorem isWritten_of_mem_encode {text : String} {written : Char}
    (member : written ∈ (encode text).toList) : isWritten written = true := by
  rw [encode, String.toList_ofList] at member
  obtain ⟨_, _, inCharacter⟩ := List.mem_flatMap.mp member
  exact isWritten_of_mem_encodedChar inCharacter

private theorem notMem_encode (text : String) {mark : Char} (unwritten : isWritten mark = false) :
    mark ∉ (encode text).toList := fun member =>
  ne_of_isWritten (isWritten_of_mem_encode member) unwritten rfl

@[simp]
theorem toList_encodeField (field : String × String) :
    (encodeField field).toList = (encode field.1).toList ++ '=' :: (encode field.2).toList := by
  rw [encodeField, String.toList_append, String.toList_append, List.append_assoc]
  rfl

private theorem notMem_encodeField (field : String × String) {mark : Char}
    (unwritten : isWritten mark = false) (noEquals : mark ≠ '=') :
    mark ∉ (encodeField field).toList := by
  rw [toList_encodeField, List.mem_append, List.mem_cons]
  rintro (inName | isEquals | inValue)
  · exact notMem_encode _ unwritten inName
  · exact noEquals isEquals
  · exact notMem_encode _ unwritten inValue

@[simp]
theorem decodeField_encodeField (field : String × String) :
    decodeField (encodeField field).toList = field := by
  have whole : '=' ∉ (encode field.1).toList := notMem_encode field.1 rfl
  rw [decodeField, toList_encodeField, takeWhile_ne_append whole, dropWhile_ne_append whole,
    List.drop_succ_cons, List.drop_zero, decode_encode, decode_encode]

/-- Fields are read as they were written, each behind a separator. -/
@[simp]
theorem fields_flatMap (written : List (String × String)) :
    fields (written.flatMap fun field => '&' :: (encodeField field).toList) = written := by
  have whole : ∀ field ∈ written, '&' ∉ (encodeField field).toList := fun field _ =>
    notMem_encodeField field rfl (by decide)
  have filled : (written.map fun field => (encodeField field).toList).filter (! ·.isEmpty) =
      written.map fun field => (encodeField field).toList := by
    refine List.filter_eq_self.mpr fun text member => ?_
    obtain ⟨field, _, rfl⟩ := List.mem_map.mp member
    rw [toList_encodeField]
    simp
  rw [fields, pieces_flatMap whole, List.filter_cons_of_neg (by simp), filled, List.map_map]
  exact List.map_id'' decodeField_encodeField written

end Text.Form

namespace Api.Address

/-! ## Addresses -/

private theorem space_lt_of_isAlphanum {character : Char} (alphanumeric : character.isAlphanum = true) :
    ' ' < character := by
  rcases Bool.or_eq_true_iff.mp alphanumeric with letter | digit
  · rcases Bool.or_eq_true_iff.mp letter with upper | lower
    · exact UInt32.lt_of_lt_of_le (by decide) (of_decide_eq_true upper).1
    · exact UInt32.lt_of_lt_of_le (by decide)
        (of_decide_eq_true (Bool.and_eq_true_iff.mp lower).1)
  · exact UInt32.lt_of_lt_of_le (by decide) (of_decide_eq_true (Bool.and_eq_true_iff.mp digit).1)

private theorem space_lt_of_isWritten {character : Char}
    (written : Text.Form.isWritten character = true) : ' ' < character := by
  simp only [Text.Form.isWritten, Text.Form.isPlain, Bool.or_eq_true, beq_iff_eq] at written
  rcases written with (((((alphanumeric | rfl) | rfl) | rfl) | rfl) | rfl) | rfl
  · exact space_lt_of_isAlphanum alphanumeric
  all_goals decide

private theorem isQueryCharacter_of_isWritten {character : Char}
    (written : Text.Form.isWritten character = true) : isQueryCharacter character = true := by
  have noDelete : character ≠ '\x7f' := Text.Form.ne_of_isWritten written rfl
  have noQuote : character ≠ '"' := Text.Form.ne_of_isWritten written rfl
  have noOpening : character ≠ '<' := Text.Form.ne_of_isWritten written rfl
  have noClosing : character ≠ '>' := Text.Form.ne_of_isWritten written rfl
  simp [isQueryCharacter, space_lt_of_isWritten written, noDelete, noQuote, noOpening, noClosing]

@[simp]
theorem toList_textOf (path : String) (parameters : List (String × String)) :
    (textOf path parameters).toList = path.toList ++ '?' ::
      parameters.flatMap fun parameter => '&' :: (Text.Form.encodeField parameter).toList := by
  rw [textOf, String.toList_append, String.toList_append, String.toList_join, List.flatMap_map,
    List.append_assoc]
  simp only [String.toList_append]
  rfl

private theorem isQueryCharacter_of_mem {parameters : List (String × String)} {character : Char}
    (member : character ∈ parameters.flatMap fun parameter =>
      '&' :: (Text.Form.encodeField parameter).toList) :
    isQueryCharacter character = true ∧ character ≠ '#' := by
  obtain ⟨parameter, _, inField⟩ := List.mem_flatMap.mp member
  rw [Text.Form.toList_encodeField, List.mem_cons, List.mem_append, List.mem_cons] at inField
  have ofWritten (written : Text.Form.isWritten character = true) :
      isQueryCharacter character = true ∧ character ≠ '#' :=
    ⟨isQueryCharacter_of_isWritten written, Text.Form.ne_of_isWritten written rfl⟩
  rcases inField with rfl | inName | rfl | inValue
  · decide
  · exact ofWritten (Text.Form.isWritten_of_mem_encode inName)
  · decide
  · exact ofWritten (Text.Form.isWritten_of_mem_encode inValue)

/-- A path with none of the marks that end it. -/
def Unmarked (path : String) : Prop :=
  '?' ∉ path.toList ∧ '#' ∉ path.toList

/-- An address that was written is read as its path and its parameters, if it is not too long and the
path is one. -/
theorem ofText_textOf {path : String} (unmarked : Unmarked path)
    (parameters : List (String × String)) :
    ofText (textOf path parameters) =
      if maxSize < (textOf path parameters).utf8ByteSize then .error .tooLong
      else if path.toList.all isPathCharacter then .ok ⟨path, parameters⟩
      else .error .invalidCharacter := by
  have sent : (textOf path parameters).toList.takeWhile (· ≠ '#') =
      (textOf path parameters).toList := by
    refine List.takeWhile_eq_self_iff.mpr fun character member => decide_eq_true ?_
    rw [toList_textOf, List.mem_append, List.mem_cons] at member
    rcases member with inPath | rfl | inQuery
    · exact ne_of_mem_of_not_mem inPath unmarked.2
    · decide
    · exact (isQueryCharacter_of_mem inQuery).2
  have query : (parameters.flatMap fun parameter =>
      '&' :: (Text.Form.encodeField parameter).toList).all isQueryCharacter = true :=
    List.all_eq_true.mpr fun _ member => (isQueryCharacter_of_mem member).1
  rw [ofText, sent, toList_textOf]
  dsimp only
  rw [Text.takeWhile_ne_append unmarked.1, Text.dropWhile_ne_append unmarked.1,
    List.drop_succ_cons, List.drop_zero, query, Bool.and_true, Text.Form.fields_flatMap,
    String.ofList_toList]

end Api.Address

end Provisioning
