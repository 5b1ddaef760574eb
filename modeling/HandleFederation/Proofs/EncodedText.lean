/-
This file proves that a text is read back from its bytes, whatever its characters are.
The number of a character is spread over one to four bytes. The first byte tells how many
there are, and what is said about the second one keeps out numbers that have a shorter
form, or are no characters. So each length is one case, in which the bytes are known by
their numbers and the rest is arithmetic. Nothing else is read: where bytes are read as
characters, they are the bytes of these. The bytes of a text are also put back from its
percent-encoded form, in which only a few visible characters of ASCII stand.
-/

import HandleFederation.Url.Percent
import Mathlib.Tactic.SplitIfs

namespace HandleFederation

open Text Unicode

namespace Text.Utf8

/-! ### Pieces by the numbers of their bytes -/

theorem isContinuation_iff (byte : UInt8) :
    isContinuation byte = true ↔ 128 ≤ byte.toNat ∧ byte.toNat ≤ 191 := by
  simp [isContinuation, UInt8.le_iff_toNat_le]

theorem secondAllowed_iff (first second : UInt8) :
    secondAllowed first second = true ↔
      128 ≤ second.toNat ∧ second.toNat ≤ 191 ∧ (first.toNat = 224 → 160 ≤ second.toNat) ∧
        (first.toNat = 237 → second.toNat ≤ 159) ∧ (first.toNat = 240 → 144 ≤ second.toNat) ∧
        (first.toNat = 244 → second.toNat ≤ 143) := by
  simp only [secondAllowed, beq_iff_eq, ← UInt8.toNat_inj, isContinuation, UInt8.le_iff_toNat_le,
    UInt8.reduceToNat]
  split_ifs <;> simp only [Bool.and_eq_true, decide_eq_true_eq] <;> omega

theorem frontPiece_one {first : UInt8} (isFirst : first.toNat < 128) (rest : List UInt8) :
    frontPiece first rest = .letter (Char.ofNat first.toNat) 1 := by
  have small : first < 0x80 := by simpa [UInt8.lt_iff_toNat_lt] using isFirst
  rw [frontPiece.eq_def]
  exact if_pos small

theorem frontPiece_two {first second : UInt8} (isFirst : 194 ≤ first.toNat ∧ first.toNat < 224)
    (continues : isContinuation second = true) (rest : List UInt8) :
    frontPiece first (second :: rest) =
      .letter (Char.ofNat ((first.toNat - 192) * 64 + payload second)) 2 := by
  have notOne : ¬ first < 0x80 := by simp [UInt8.lt_iff_toNat_lt]; omega
  have notBad : ¬ first < 0xC2 := by simp [UInt8.lt_iff_toNat_lt]; omega
  have isTwo : first < 0xE0 := by simp [UInt8.lt_iff_toNat_lt]; omega
  simp only [frontPiece, if_neg notOne, if_neg notBad, if_pos isTwo, continues, if_true]

theorem frontPiece_three {first second third : UInt8} (isFirst : 224 ≤ first.toNat ∧ first.toNat < 240)
    (allowed : secondAllowed first second = true) (continues : isContinuation third = true)
    (rest : List UInt8) :
    frontPiece first (second :: third :: rest) =
      .letter (Char.ofNat (((first.toNat - 224) * 64 + payload second) * 64 + payload third)) 3 := by
  have notOne : ¬ first < 0x80 := by simp [UInt8.lt_iff_toNat_lt]; omega
  have notBad : ¬ first < 0xC2 := by simp [UInt8.lt_iff_toNat_lt]; omega
  have notTwo : ¬ first < 0xE0 := by simp [UInt8.lt_iff_toNat_lt]; omega
  have isThree : first < 0xF0 := by simp [UInt8.lt_iff_toNat_lt]; omega
  simp only [frontPiece, if_neg notOne, if_neg notBad, if_neg notTwo, if_pos isThree, allowed, continues,
    Bool.not_true, Bool.false_eq_true, if_false]

theorem frontPiece_four {first second third fourth : UInt8}
    (isFirst : 240 ≤ first.toNat ∧ first.toNat < 245) (allowed : secondAllowed first second = true)
    (continues : isContinuation third = true) (goesOn : isContinuation fourth = true) (rest : List UInt8) :
    frontPiece first (second :: third :: fourth :: rest) =
      .letter (Char.ofNat ((((first.toNat - 240) * 64 + payload second) * 64 + payload third) * 64
        + payload fourth)) 4 := by
  have notOne : ¬ first < 0x80 := by simp [UInt8.lt_iff_toNat_lt]; omega
  have notBad : ¬ first < 0xC2 := by simp [UInt8.lt_iff_toNat_lt]; omega
  have notTwo : ¬ first < 0xE0 := by simp [UInt8.lt_iff_toNat_lt]; omega
  have notThree : ¬ first < 0xF0 := by simp [UInt8.lt_iff_toNat_lt]; omega
  have isFour : first < 0xF5 := by simp [UInt8.lt_iff_toNat_lt]; omega
  simp only [frontPiece, if_neg notOne, if_neg notBad, if_neg notTwo, if_neg notThree, if_pos isFour, allowed,
    continues, goesOn, Bool.not_true, Bool.false_eq_true, if_false]

/-! ### Characters -/

theorem toNat_ofNat_of_lt {number : Nat} (isByte : number < 256) : (UInt8.ofNat number).toNat = number :=
  UInt8.toNat_ofNat_of_lt' isByte

/-- The byte that holds six digits of a number continues a character, and its payload are the digits. -/
theorem continuation_ofNat (number : Nat) :
    (UInt8.ofNat (number % 64 + 128)).toNat = number % 64 + 128 ∧
      isContinuation (UInt8.ofNat (number % 64 + 128)) = true ∧
      payload (UInt8.ofNat (number % 64 + 128)) = number % 64 := by
  have isByte : (UInt8.ofNat (number % 64 + 128)).toNat = number % 64 + 128 :=
    toNat_ofNat_of_lt (by omega)
  refine ⟨isByte, (isContinuation_iff _).mpr ?_, ?_⟩
  · rw [isByte]
    omega
  · unfold payload
    omega

/-- A character stands at the front of its bytes, whatever follows them. -/
theorem frontPiece_encodeChar (letter : Char) (rest : List UInt8) :
    ∃ first tail, String.utf8EncodeChar letter = first :: tail ∧
      frontPiece first (tail ++ rest) = .letter letter (tail.length + 1) := by
  have isLetter : Char.ofNat letter.val.toNat = letter := Char.ofNat_toNat letter
  have valid : letter.val.toNat < 0xD800 ∨ 0xDFFF < letter.val.toNat ∧ letter.val.toNat < 0x110000 :=
    letter.valid
  unfold String.utf8EncodeChar
  generalize letter.val.toNat = code at isLetter valid
  obtain ⟨fourth, goesOn, last⟩ := continuation_ofNat code
  obtain ⟨third, goesOnThird, thirdLast⟩ := continuation_ofNat (code / 64)
  obtain ⟨second, -, secondLast⟩ := continuation_ofNat (code / 4096)
  dsimp only
  split
  · rename_i low
    have lead : (UInt8.ofNat code).toNat = code := toNat_ofNat_of_lt (by omega)
    refine ⟨_, _, rfl, ?_⟩
    rw [frontPiece_one (by omega), lead, isLetter]
    rfl
  · split
    · have lead : (UInt8.ofNat (code / 64 % 32 + 192)).toNat = code / 64 % 32 + 192 :=
        toNat_ofNat_of_lt (by omega)
      have whole : (code / 64 % 32 + 192 - 192) * 64 + code % 64 = code := by omega
      refine ⟨_, _, rfl, ?_⟩
      rw [List.singleton_append, frontPiece_two (by omega) goesOn, lead, last, whole, isLetter]
      rfl
    · split
      · have lead : (UInt8.ofNat (code / 4096 % 16 + 224)).toNat = code / 4096 % 16 + 224 :=
          toNat_ofNat_of_lt (by omega)
        have whole : ((code / 4096 % 16 + 224 - 224) * 64 + code / 64 % 64) * 64 + code % 64 = code := by
          omega
        have allowed : secondAllowed (UInt8.ofNat (code / 4096 % 16 + 224))
            (UInt8.ofNat (code / 64 % 64 + 128)) = true := by
          rw [secondAllowed_iff, lead, third]
          omega
        refine ⟨_, _, rfl, ?_⟩
        rw [List.cons_append, List.singleton_append, frontPiece_three (by omega) allowed goesOn, lead,
          thirdLast, last, whole, isLetter]
        rfl
      · have lead : (UInt8.ofNat (code / 262144 % 8 + 240)).toNat = code / 262144 % 8 + 240 :=
          toNat_ofNat_of_lt (by omega)
        have whole : (((code / 262144 % 8 + 240 - 240) * 64 + code / 4096 % 64) * 64 + code / 64 % 64) * 64 +
            code % 64 = code := by omega
        have allowed : secondAllowed (UInt8.ofNat (code / 262144 % 8 + 240))
            (UInt8.ofNat (code / 4096 % 64 + 128)) = true := by
          rw [secondAllowed_iff, lead, second]
          omega
        refine ⟨_, _, rfl, ?_⟩
        rw [List.cons_append, List.cons_append, List.singleton_append,
          frontPiece_four (by omega) allowed goesOnThird goesOn, lead, secondLast, thirdLast, last, whole,
          isLetter]
        rfl

/-- A text is read back from its bytes. -/
theorem decode?_encode (letters : List Char) : decode? (encode letters) = some letters := by
  induction letters with
  | nil => simp [decode?, encode]
  | cons letter rest inductionHypothesis =>
    obtain ⟨first, tail, isEncoded, front⟩ := frontPiece_encodeChar letter (encode rest)
    have split : encode (letter :: rest) = first :: (tail ++ encode rest) := by
      rw [encode, List.flatMap_cons, isEncoded]
      rfl
    rw [split, decode?, front]
    dsimp only
    rw [Nat.add_sub_cancel, List.drop_left, inductionHypothesis]
    rfl

/-! ### What is read -/

theorem ofNat_eq_of_eq_toNat {number : Nat} (byte : UInt8) (same : number = byte.toNat) :
    UInt8.ofNat number = byte := by
  rw [same, UInt8.ofNat_toNat]

/-- A number that is no half of a pair and not too large is the number of its character. -/
theorem toNat_ofNat_of_isValidChar {number : Nat} (valid : number.isValidChar) :
    (Char.ofNat number).val.toNat = number := by
  rw [Char.ofNat, dif_pos valid]
  rfl

theorem encodeChar_one {first : UInt8} (isFirst : first.toNat < 128) :
    String.utf8EncodeChar (Char.ofNat first.toNat) = [first] := by
  have code : (Char.ofNat first.toNat).val.toNat = first.toNat :=
    toNat_ofNat_of_isValidChar (Or.inl (by omega))
  simp only [String.utf8EncodeChar, code, if_pos (Nat.le_of_lt_succ isFirst), UInt8.ofNat_toNat]

theorem encodeChar_two {first second : UInt8} (isFirst : 194 ≤ first.toNat ∧ first.toNat < 224)
    (continues : isContinuation second = true) :
    String.utf8EncodeChar (Char.ofNat ((first.toNat - 192) * 64 + payload second)) = [first, second] := by
  rw [isContinuation_iff] at continues
  unfold payload
  generalize number_eq : (first.toNat - 192) * 64 + (second.toNat - 128) = number
  have code : (Char.ofNat number).val.toNat = number := toNat_ofNat_of_isValidChar (Or.inl (by omega))
  have notOne : ¬ number ≤ 127 := by omega
  have isTwo : number ≤ 2047 := by omega
  simp only [String.utf8EncodeChar, code, if_neg notOne, if_pos isTwo]
  rw [ofNat_eq_of_eq_toNat first (by omega), ofNat_eq_of_eq_toNat second (by omega)]

theorem encodeChar_three {first second third : UInt8} (isFirst : 224 ≤ first.toNat ∧ first.toNat < 240)
    (allowed : secondAllowed first second = true) (continues : isContinuation third = true) :
    String.utf8EncodeChar
      (Char.ofNat (((first.toNat - 224) * 64 + payload second) * 64 + payload third)) =
      [first, second, third] := by
  rw [isContinuation_iff] at continues
  rw [secondAllowed_iff] at allowed
  unfold payload
  generalize number_eq : ((first.toNat - 224) * 64 + (second.toNat - 128)) * 64 + (third.toNat - 128) = number
  have valid : number.isValidChar := by
    unfold Nat.isValidChar
    omega
  have code : (Char.ofNat number).val.toNat = number := toNat_ofNat_of_isValidChar valid
  have notOne : ¬ number ≤ 127 := by omega
  have notTwo : ¬ number ≤ 2047 := by omega
  have isThree : number ≤ 65535 := by omega
  simp only [String.utf8EncodeChar, code, if_neg notOne, if_neg notTwo, if_pos isThree]
  rw [ofNat_eq_of_eq_toNat first (by omega), ofNat_eq_of_eq_toNat second (by omega),
    ofNat_eq_of_eq_toNat third (by omega)]

theorem encodeChar_four {first second third fourth : UInt8}
    (isFirst : 240 ≤ first.toNat ∧ first.toNat < 245) (allowed : secondAllowed first second = true)
    (continues : isContinuation third = true) (goesOn : isContinuation fourth = true) :
    String.utf8EncodeChar
      (Char.ofNat ((((first.toNat - 240) * 64 + payload second) * 64 + payload third) * 64
        + payload fourth)) = [first, second, third, fourth] := by
  rw [isContinuation_iff] at continues goesOn
  rw [secondAllowed_iff] at allowed
  unfold payload
  generalize number_eq : (((first.toNat - 240) * 64 + (second.toNat - 128)) * 64 + (third.toNat - 128)) * 64 +
    (fourth.toNat - 128) = number
  have valid : number.isValidChar := by
    unfold Nat.isValidChar
    omega
  have code : (Char.ofNat number).val.toNat = number := toNat_ofNat_of_isValidChar valid
  have notOne : ¬ number ≤ 127 := by omega
  have notTwo : ¬ number ≤ 2047 := by omega
  have notThree : ¬ number ≤ 65535 := by omega
  simp only [String.utf8EncodeChar, code, if_neg notOne, if_neg notTwo, if_neg notThree]
  rw [ofNat_eq_of_eq_toNat first (by omega), ofNat_eq_of_eq_toNat second (by omega),
    ofNat_eq_of_eq_toNat third (by omega), ofNat_eq_of_eq_toNat fourth (by omega)]

/-- The bytes of a character that stands at the front are the ones that it takes there. -/
theorem encodeChar_of_frontPiece {first : UInt8} {rest : List UInt8} {value : Char} {size : Nat}
    (front : frontPiece first rest = .letter value size) :
    String.utf8EncodeChar value = first :: rest.take (size - 1) := by
  revert front
  fun_cases frontPiece first rest with
  | case1 rest lead isOne =>
    intro front
    obtain ⟨rfl, rfl⟩ := Piece.letter.inj front
    exact encodeChar_one (UInt8.lt_iff_toNat_lt.mp isOne)
  | case3 lead notOne notBad isTwo second others continues =>
    intro front
    obtain ⟨rfl, rfl⟩ := Piece.letter.inj front
    simp only [UInt8.lt_iff_toNat_lt, UInt8.reduceToNat, Nat.not_lt] at notBad isTwo
    exact encodeChar_two ⟨notBad, isTwo⟩ continues
  | case8 lead notOne notBad notTwo isThree second third others allowed continues =>
    intro front
    obtain ⟨rfl, rfl⟩ := Piece.letter.inj front
    simp only [UInt8.lt_iff_toNat_lt, UInt8.reduceToNat, Nat.not_lt] at notTwo isThree
    rw [Bool.not_eq_true', Bool.not_eq_false] at allowed continues
    exact encodeChar_three ⟨notTwo, isThree⟩ allowed continues
  | case15 lead notOne notBad notTwo notThree isFour second third fourth others allowed continues goesOn =>
    intro front
    obtain ⟨rfl, rfl⟩ := Piece.letter.inj front
    simp only [UInt8.lt_iff_toNat_lt, UInt8.reduceToNat, Nat.not_lt] at notThree isFour
    rw [Bool.not_eq_true', Bool.not_eq_false] at allowed continues goesOn
    exact encodeChar_four ⟨notThree, isFour⟩ allowed continues goesOn
  | _ => nofun

/-- What is read as a text are the bytes of the text. -/
theorem decode?_eq_some_iff {bytes : List UInt8} {letters : List Char} :
    decode? bytes = some letters ↔ bytes = encode letters := by
  constructor
  · intro isText
    fun_induction decode? bytes generalizing letters with
    | case1 =>
      cases isText
      rfl
    | case2 first rest value size front inductionHypothesis =>
      obtain ⟨others, isRest, rfl⟩ := Option.map_eq_some_iff.mp isText
      have whole := encodeChar_of_frontPiece front
      rw [encode, List.flatMap_cons, whole, ← encode, ← inductionHypothesis isRest, List.cons_append,
        List.take_append_drop]
    | case3 => cases isText
  · rintro rfl
    exact decode?_encode letters

/-- What a strict reading reads is what a lenient one reads. -/
theorem decodeLenient_of_decode? {bytes : List UInt8} {letters : List Char}
    (isText : decode? bytes = some letters) : decodeLenient bytes = letters := by
  fun_induction decode? bytes generalizing letters with
  | case1 =>
    cases isText
    rw [decodeLenient]
  | case2 first rest value size front inductionHypothesis =>
    obtain ⟨others, isRest, rfl⟩ := Option.map_eq_some_iff.mp isText
    rw [decodeLenient, front]
    exact congrArg (value :: ·) (inductionHypothesis isRest)
  | case3 => cases isText

/-! ### Characters of ASCII -/

/-- The numbers of the characters between two others, by which the kinds of characters are told. -/
theorem toNat_of_between (first last letter : Char)
    (within : (decide (letter.val ≥ first.val) && decide (letter.val ≤ last.val)) = true) :
    first.toNat ≤ letter.toNat ∧ letter.toNat ≤ last.toNat :=
  ⟨of_decide_eq_true (Bool.and_eq_true_iff.mp within).1, of_decide_eq_true (Bool.and_eq_true_iff.mp within).2⟩

/-- A character of ASCII is the one byte that has its number. -/
theorem encodeChar_of_ascii {letter : Char} (ascii : letter.toNat < 0x80) :
    String.utf8EncodeChar letter = [UInt8.ofNat letter.toNat] :=
  if_pos (Nat.le_of_lt_succ ascii)

theorem encode_cons_of_ascii {letter : Char} (ascii : letter.toNat < 0x80) (rest : List Char) :
    encode (letter :: rest) = UInt8.ofNat letter.toNat :: encode rest := by
  rw [encode, List.flatMap_cons, encodeChar_of_ascii ascii]
  rfl

end Text.Utf8

/-! ### Percent-encoded text -/

namespace Percent

theorem decode_of_notMem {name : List Char} (noPercent : '%' ∉ name) :
    decode name = Utf8.encode name := by
  induction name with
  | nil => rfl
  | cons letter rest inductionHypothesis =>
    have others := inductionHypothesis fun member => noPercent (List.mem_cons_of_mem _ member)
    have differs : letter ≠ '%' := fun same => noPercent (same ▸ List.mem_cons_self)
    rw [Percent.decode, others]
    · exact List.flatMap_append.symm
    · exact fun _ _ _ same => absurd same differs

/-- A digit is an unreserved character, and stands for the number that it is written for. -/
theorem digit_spec : ∀ value < 16, isUnreserved (digit value) = true ∧ isHexDigit (digit value) = true ∧
    hexDigitValue (digit value) = value := by
  decide

/-- What is written for a byte where only the unreserved characters stand for themselves. -/
def written (byte : UInt8) : List Char :=
  if byte < 0x80 && isUnreserved (Char.ofNat byte.toNat) then [Char.ofNat byte.toNat] else encodeByte byte

theorem encode_isUnreserved (letters : List Char) :
    encode isUnreserved letters = (Utf8.encode letters).flatMap written := rfl

/-- A byte is written as the character that it is, or as a percent sign and two digits. -/
theorem written_cases (byte : UInt8) :
    (∃ letter, isUnreserved letter = true ∧ Utf8.encode [letter] = [byte] ∧ written byte = [letter]) ∨
    ∃ high low, isUnreserved high = true ∧ isUnreserved low = true ∧ isHexDigit high = true ∧
      isHexDigit low = true ∧ byteOfDigits high low = byte ∧ written byte = ['%', high, low] := by
  have isByte := byte.toNat_lt
  by_cases isKept : (byte < 0x80 && isUnreserved (Char.ofNat byte.toNat)) = true
  · obtain ⟨isSmall, isUnreserved⟩ := Bool.and_eq_true_iff.mp isKept
    have ascii : byte.toNat < 0x80 := UInt8.lt_iff_toNat_lt.mp (of_decide_eq_true isSmall)
    have isLetter : (Char.ofNat byte.toNat).toNat = byte.toNat := by
      rw [Char.ofNat, dif_pos (Or.inl (by omega : byte.toNat < 0xD800))]
      rfl
    refine Or.inl ⟨_, isUnreserved, ?_, if_pos isKept⟩
    rw [Utf8.encode_cons_of_ascii (isLetter.symm ▸ ascii), isLetter, UInt8.ofNat_toNat]
    rfl
  · obtain ⟨highKept, isHigh, high⟩ := digit_spec (byte.toNat / 16) (by omega)
    obtain ⟨lowKept, isLow, low⟩ := digit_spec (byte.toNat % 16) (by omega)
    refine Or.inr ⟨_, _, highKept, lowKept, isHigh, isLow, ?_, if_neg isKept⟩
    rw [byteOfDigits, high, low, Nat.div_add_mod']
    exact UInt8.ofNat_toNat

/-- What is written for a byte is read as that byte, whatever follows it. -/
theorem decode_written_append (byte : UInt8) (rest : List Char) :
    decode (written byte ++ rest) = byte :: decode rest := by
  rcases written_cases byte with ⟨letter, isKept, isByte, isWritten⟩ |
    ⟨high, low, -, -, isHigh, isLow, isByte, isWritten⟩
  · rw [isWritten, List.singleton_append, decode, isByte]
    · rfl
    · rintro _ _ _ rfl
      cases isKept
  · rw [isWritten]
    show decode ('%' :: high :: low :: rest) = byte :: decode rest
    rw [decode, isHigh, isLow, isByte]
    rfl

/-- The bytes of a text are put back. -/
theorem decode_encode (letters : List Char) : decode (encode isUnreserved letters) = Utf8.encode letters := by
  rw [encode_isUnreserved]
  induction Utf8.encode letters with
  | nil => rfl
  | cons byte rest inductionHypothesis =>
    rw [List.flatMap_cons, decode_written_append, inductionHypothesis]

/-- The characters that are written: those that stand for themselves, and percent signs. -/
def isWritten (letter : Char) : Bool :=
  isUnreserved letter || letter == '%'

variable {letters : List Char} {letter : Char}

theorem isWritten_of_mem (member : letter ∈ encode isUnreserved letters) : isWritten letter = true := by
  rw [encode_isUnreserved] at member
  obtain ⟨byte, -, ofByte⟩ := List.mem_flatMap.mp member
  rcases written_cases byte with ⟨kept, isKept, -, isWritten⟩ |
    ⟨high, low, highKept, lowKept, -, -, -, isWritten⟩
  · rw [isWritten, List.mem_singleton] at ofByte
    rw [Percent.isWritten, ofByte, isKept, Bool.true_or]
  · rw [isWritten, List.mem_cons, List.mem_cons, List.mem_singleton] at ofByte
    rcases ofByte with rfl | rfl | rfl
    · rfl
    · rw [Percent.isWritten, highKept, Bool.true_or]
    · rw [Percent.isWritten, lowKept, Bool.true_or]

/-- A character that is not among these is not written. -/
theorem ne_of_mem_encode (member : letter ∈ encode isUnreserved letters) {other : Char}
    (notWritten : isWritten other = false) : letter ≠ other := by
  rintro rfl
  rw [isWritten_of_mem member] at notWritten
  cases notWritten

/-- The characters that are written are visible ones of ASCII. -/
theorem toNat_of_mem_encode (member : letter ∈ encode isUnreserved letters) :
    0x20 < letter.toNat ∧ letter.toNat < 0x7F := by
  have isOne := isWritten_of_mem member
  simp only [isWritten, isUnreserved, Char.isAlphanum, Bool.or_eq_true, List.contains_iff_mem, List.mem_cons,
    List.not_mem_nil, or_false, beq_iff_eq] at isOne
  rcases isOne with ((isAlpha | isDigit) | rfl | rfl | rfl | rfl) | rfl
  · rcases Bool.or_eq_true_iff.mp isAlpha with isUpper | isLower
    · have bounds : 'A'.toNat ≤ letter.toNat ∧ letter.toNat ≤ 'Z'.toNat := of_decide_eq_true isUpper
      exact ⟨Nat.lt_of_lt_of_le (by decide) bounds.1, Nat.lt_of_le_of_lt bounds.2 (by decide)⟩
    · have bounds := Utf8.toNat_of_between 'a' 'z' letter isLower
      exact ⟨Nat.lt_of_lt_of_le (by decide) bounds.1, Nat.lt_of_le_of_lt bounds.2 (by decide)⟩
  · have bounds := Utf8.toNat_of_between '0' '9' letter isDigit
    exact ⟨Nat.lt_of_lt_of_le (by decide) bounds.1, Nat.lt_of_le_of_lt bounds.2 (by decide)⟩
  all_goals decide

end Percent

end HandleFederation
