/-
This file says how the smallest parts of a document are spelled, the gaps between others,
strings and numbers, and that the reader takes just what is spelled so. A string spells every
character by itself, by a letter, or by the numbers of one or two code units, none of them half
of a pair that is not there. A number is not delimited, so it is read as it is spelled only
where nothing follows that would go on with it.
-/

import HandleFederation.Json.Reader
import Mathlib.Data.List.TakeDrop
import Mathlib.Data.List.TakeWhile

namespace HandleFederation.Json

open Unicode

/-! ### Gaps -/

/-- Blanks that may stand between the parts of a document, or none. -/
def IsGap (letters : List Char) : Prop :=
  ∀ letter ∈ letters, letter = ' ' ∨ letter = '\n' ∨ letter = '\r' ∨ letter = '\t'

theorem isGap_iff (letter : Char) :
    isGap letter = true ↔ letter = ' ' ∨ letter = '\n' ∨ letter = '\r' ∨ letter = '\t' := by
  simp [isGap, or_assoc]

/-- What is skipped is a gap. -/
theorem exists_gap_append (letters : List Char) : ∃ gap, IsGap gap ∧ letters = gap ++ skipGap letters :=
  ⟨letters.takeWhile isGap, fun letter member => (isGap_iff letter).mp (List.mem_takeWhile_imp member),
    List.takeWhile_append_dropWhile.symm⟩

/-- A gap is skipped, whatever follows it. -/
theorem skipGap_append {gap : List Char} (blank : IsGap gap) (rest : List Char) :
    skipGap (gap ++ rest) = skipGap rest :=
  List.dropWhile_append_of_pos fun letter member => (isGap_iff letter).mpr (blank letter member)

theorem skipGap_eq_nil_iff {letters : List Char} : skipGap letters = [] ↔ IsGap letters := by
  rw [skipGap, List.dropWhile_eq_nil_iff]
  exact forall₂_congr fun letter _ => isGap_iff letter

/-! ### Strings -/

/-- How a character is spelled in a string: by itself, by a letter after a backslash, by the number of its
code unit, or by those of the two halves of a pair. -/
inductive SpellsLetter : Char → List Char → Prop
  | plain {letter : Char} (notMark : letter ≠ '"') (notBackslash : letter ≠ '\\')
    (notControl : 0x20 ≤ letter.toNat) : SpellsLetter letter [letter]
  | short {mark letter : Char} (isShort : shortEscape? mark = some letter) :
    SpellsLetter letter ['\\', mark]
  | unit {first second third fourth : Char} {unit : Nat}
    (isUnit : codeUnit? first second third fourth = some unit)
    (whole : ¬ (0xD800 ≤ unit ∧ unit < 0xE000)) :
    SpellsLetter (Char.ofNat unit) ['\\', 'u', first, second, third, fourth]
  | pair {first second third fourth fifth sixth seventh eighth : Char} {high low : Nat}
    (isHigh : codeUnit? first second third fourth = some high) (high_mem : 0xD800 ≤ high ∧ high < 0xDC00)
    (isLow : codeUnit? fifth sixth seventh eighth = some low) (low_mem : 0xDC00 ≤ low ∧ low < 0xE000) :
    SpellsLetter (ofSurrogates high low)
      ['\\', 'u', first, second, third, fourth, '\\', 'u', fifth, sixth, seventh, eighth]

/-- How the characters of a string are spelled between its marks. -/
inductive SpellsText : List Char → List Char → Prop
  | nil : SpellsText [] []
  | cons {letter : Char} {letters spelling rest : List Char} (first : SpellsLetter letter spelling)
    (others : SpellsText letters rest) : SpellsText (letter :: letters) (spelling ++ rest)

theorem isLowSurrogate_iff (unit : Nat) : isLowSurrogate unit = true ↔ 0xDC00 ≤ unit ∧ unit < 0xE000 := by
  simp [isLowSurrogate]

theorem isHighSurrogate_iff (unit : Nat) : isHighSurrogate unit = true ↔ 0xD800 ≤ unit ∧ unit < 0xDC00 := by
  simp [isHighSurrogate]

/-- A letter after a backslash is none that opens the number of a code unit. -/
theorem ne_of_shortEscape? {mark letter : Char} (isShort : shortEscape? mark = some letter) : mark ≠ 'u' := by
  rintro rfl
  cases isShort

/-- A character is read as it is spelled, whatever follows. -/
theorem SpellsLetter.read {letter : Char} {spelling : List Char} (spells : SpellsLetter letter spelling)
    (rest : List Char) : readStringBody (spelling ++ rest) =
      (readStringBody rest).map fun (body, after) => (letter :: body, after) := by
  cases spells with
  | plain notMark notBackslash notControl =>
    rw [List.singleton_append, readStringBody]
    · rw [beq_eq_false_iff_ne.mpr notBackslash, decide_eq_false (Nat.not_lt.mpr notControl)]
      rfl
    · exact notMark
    · exact fun _ _ _ _ _ isBackslash => absurd isBackslash notBackslash
    · exact fun _ _ isBackslash => absurd isBackslash notBackslash
  | short isShort =>
    rw [List.cons_append, List.singleton_append, readStringBody]
    · rw [isShort]
    · exact fun _ _ _ _ _ isUnit => absurd isUnit (ne_of_shortEscape? isShort)
  | unit isUnit whole =>
    simp only [List.cons_append, List.nil_append]
    rw [readStringBody, isUnit]
    dsimp only
    rw [if_neg, if_neg]
    · rw [isHighSurrogate_iff]
      exact fun isHigh => whole ⟨isHigh.1, by omega⟩
    · rw [isLowSurrogate_iff]
      exact fun isLow => whole ⟨by omega, isLow.2⟩
  | pair isHigh high_mem isLow low_mem =>
    simp only [List.cons_append, List.nil_append]
    rw [readStringBody, isHigh]
    dsimp only
    rw [if_neg, if_pos ((isHighSurrogate_iff _).mpr high_mem)]
    · simp only [isLow, (isLowSurrogate_iff _).mpr low_mem, if_true]
    · rw [isLowSurrogate_iff]
      omega

/-- A string is read as it is spelled, up to its closing mark. -/
theorem SpellsText.read {letters spelling : List Char} (spells : SpellsText letters spelling)
    (rest : List Char) : readStringBody (spelling ++ '"' :: rest) = some (letters, rest) := by
  induction spells with
  | nil => rfl
  | cons first _ inductionHypothesis =>
    rw [List.append_assoc, first.read, inductionHypothesis]
    rfl

/-- Letters start with a spelling of the characters of a string and with its closing mark. -/
def StartsWithText (letters body rest : List Char) : Prop :=
  ∃ spelling, SpellsText body spelling ∧ letters = spelling ++ '"' :: rest

/-- A character that is spelled in front of the rest of a string is one more of the string. -/
theorem startsWithText_of_map {letter : Char} {spelling letters body rest : List Char}
    (spells : SpellsLetter letter spelling)
    (later : ∀ {body}, readStringBody letters = some (body, rest) → StartsWithText letters body rest)
    (reads : (readStringBody letters).map (fun (body, after) => (letter :: body, after)) =
      some (body, rest)) : StartsWithText (spelling ++ letters) body rest := by
  obtain ⟨⟨others, after⟩, isRead, same⟩ := Option.map_eq_some_iff.mp reads
  obtain ⟨rfl, rfl⟩ := Prod.mk.inj same
  obtain ⟨spelt, spellsOthers, rfl⟩ := later isRead
  exact ⟨spelling ++ spelt, .cons spells spellsOthers, (List.append_assoc _ _ _).symm⟩

/-- What is read of a string is spelled there. The cases are those of the reader, of which four go on. -/
theorem startsWithText_of_read {letters body rest : List Char}
    (reads : readStringBody letters = some (body, rest)) : StartsWithText letters body rest := by
  fun_induction readStringBody letters generalizing body with
  | case2 =>
    cases reads
    exact ⟨[], .nil, rfl⟩
  | case6 first second third fourth high isHigh notLow high_mem fifth sixth seventh eighth letters low isLow
      low_mem later =>
    exact startsWithText_of_map (.pair isHigh ((isHighSurrogate_iff _).mp high_mem) isLow
      ((isLowSurrogate_iff _).mp low_mem)) later reads
  | case9 first second third fourth letters unit isUnit notLow notHigh later =>
    rw [isLowSurrogate_iff] at notLow
    rw [isHighSurrogate_iff] at notHigh
    exact startsWithText_of_map (.unit isUnit (by omega)) later reads
  | case11 mark letters notUnit letter isShort later =>
    exact startsWithText_of_map (.short isShort) later reads
  | case13 letter letters notMark notUnit notShort isPlain later =>
    rw [Bool.or_eq_true, beq_iff_eq, decide_eq_true_eq, not_or, Nat.not_lt] at isPlain
    exact startsWithText_of_map (.plain notMark isPlain.1 isPlain.2) later reads
  | _ => cases reads

/-! ### Numbers -/

/-- One or more digits. -/
structure AreDigits (letters : List Char) : Prop where
  notNil : letters ≠ []
  digits : ∀ letter ∈ letters, letter.isDigit = true

/-- The whole part of a number: zero, or digits that do not start with zero. -/
inductive IsWhole : List Char → Prop
  | zero : IsWhole ['0']
  | digits {letters : List Char} (digits : AreDigits letters) (noZero : letters.head? ≠ some '0') :
    IsWhole letters

/-- The fraction of a number, or nothing. -/
inductive IsFraction : List Char → Prop
  | nil : IsFraction []
  | point {letters : List Char} (digits : AreDigits letters) : IsFraction ('.' :: letters)

/-- The exponent of a number, or nothing. -/
inductive IsExponent : List Char → Prop
  | nil : IsExponent []
  | mark {mark : Char} {sign letters : List Char} (isMark : mark = 'e' ∨ mark = 'E')
    (isSign : sign = [] ∨ sign = ['+'] ∨ sign = ['-']) (digits : AreDigits letters) :
    IsExponent (mark :: sign ++ letters)

/-- A number as it is spelled. -/
inductive IsNumber : List Char → Prop
  | parts {minus whole fraction exponent : List Char} (isMinus : minus = [] ∨ minus = ['-'])
    (isWhole : IsWhole whole) (isFraction : IsFraction fraction) (isExponent : IsExponent exponent) :
    IsNumber (minus ++ whole ++ fraction ++ exponent)

/-- Nothing stands in front that would go on with a number. -/
def EndsNumber (rest : List Char) : Prop :=
  ∀ letter ∈ rest.head?, letter.isDigit = false ∧ letter ≠ '.' ∧ letter ≠ 'e' ∧ letter ≠ 'E'

section

variable {letters digits rest : List Char}

theorem readDigitRun_append (areDigits : AreDigits digits)
    (ends : ∀ letter ∈ rest.head?, letter.isDigit = false) :
    readDigitRun (digits ++ rest) = some (digits, rest) := by
  have taken : (digits ++ rest).takeWhile Char.isDigit = digits := by
    rw [List.takeWhile_append_of_pos areDigits.digits]
    cases rest with
    | nil => simp
    | cons letter others => simp [ends letter rfl]
  have left : (digits ++ rest).dropWhile Char.isDigit = rest := by
    rw [List.dropWhile_append_of_pos areDigits.digits]
    cases rest with
    | nil => rfl
    | cons letter others => simp [ends letter rfl]
  simp only [readDigitRun, List.span_eq_takeWhile_dropWhile, taken, left]
  rw [if_neg]
  rw [List.isEmpty_iff]
  exact areDigits.notNil

theorem eq_append_of_readDigitRun (reads : readDigitRun letters = some (digits, rest)) :
    AreDigits digits ∧ letters = digits ++ rest := by
  simp only [readDigitRun, List.span_eq_takeWhile_dropWhile] at reads
  split at reads
  · cases reads
  · rename_i notNil
    cases reads
    rw [List.isEmpty_iff] at notNil
    exact ⟨⟨notNil, fun letter member => List.mem_takeWhile_imp member⟩,
      List.takeWhile_append_dropWhile.symm⟩

end

/-- What holds of the first letter of both parts holds of the first letter of the whole. -/
theorem forall_mem_head?_append {holds : Char → Prop} {front rest : List Char}
    (first : ∀ letter ∈ front.head?, holds letter) (next : ∀ letter ∈ rest.head?, holds letter) :
    ∀ letter ∈ (front ++ rest).head?, holds letter := by
  cases front with
  | nil => exact next
  | cons letter others => exact first

theorem AreDigits.head? {digits : List Char} (areDigits : AreDigits digits) :
    ∃ first others, digits = first :: others ∧ first.isDigit = true := by
  obtain ⟨first, others, rfl⟩ := List.exists_cons_of_ne_nil areDigits.notNil
  exact ⟨first, others, rfl, areDigits.digits first List.mem_cons_self⟩

theorem IsWhole.read {whole rest : List Char} (isWhole : IsWhole whole)
    (ends : ∀ letter ∈ rest.head?, letter.isDigit = false) :
    readWhole (whole ++ rest) = some (whole, rest) := by
  cases isWhole with
  | zero => rfl
  | digits areDigits noZero =>
    have reads := readDigitRun_append areDigits ends
    obtain ⟨first, others, rfl, -⟩ := areDigits.head?
    rw [List.cons_append] at reads ⊢
    rw [readWhole]
    · exact reads
    · exact fun _ isZero => noZero (congrArg some (List.head_eq_of_cons_eq isZero))

theorem IsFraction.read {fraction rest : List Char} (isFraction : IsFraction fraction)
    (ends : ∀ letter ∈ rest.head?, letter.isDigit = false ∧ letter ≠ '.') :
    readFraction (fraction ++ rest) = some (fraction, rest) := by
  cases isFraction with
  | nil =>
    rw [List.nil_append, readFraction]
    rintro others rfl
    exact (ends '.' rfl).2 rfl
  | point areDigits =>
    have reads := readDigitRun_append areDigits fun letter member => (ends letter member).1
    rw [List.cons_append, readFraction, reads]
    rfl

theorem IsExponent.read {exponent rest : List Char} (isExponent : IsExponent exponent)
    (ends : ∀ letter ∈ rest.head?, letter.isDigit = false ∧ letter ≠ 'e' ∧ letter ≠ 'E') :
    readExponent (exponent ++ rest) = some (exponent, rest) := by
  cases isExponent with
  | nil =>
    cases rest with
    | nil => rfl
    | cons letter others =>
      obtain ⟨-, notSmall, notLarge⟩ := ends letter rfl
      simp [readExponent, notSmall, notLarge]
  | mark isMark isSign areDigits =>
    rename_i mark sign digits
    have reads := readDigitRun_append areDigits fun letter member => (ends letter member).1
    have readsSign : readSign (sign ++ (digits ++ rest)) = (sign, digits ++ rest) := by
      rcases isSign with rfl | rfl | rfl
      · obtain ⟨first, others, rfl, isDigit⟩ := areDigits.head?
        rw [List.nil_append, List.cons_append, readSign]
        · rintro _ same
          cases List.head_eq_of_cons_eq same
          cases isDigit
        · rintro _ same
          cases List.head_eq_of_cons_eq same
          cases isDigit
      · rfl
      · rfl
    have marked : (mark == 'e' || mark == 'E') = true := by
      rcases isMark with rfl | rfl <;> rfl
    rw [List.append_assoc, List.cons_append, readExponent, if_pos marked, readsSign]
    dsimp only
    rw [reads]
    rfl

theorem IsWhole.head? {whole : List Char} (isWhole : IsWhole whole) :
    ∃ first others, whole = first :: others ∧ first.isDigit = true := by
  cases isWhole with
  | zero => exact ⟨'0', [], rfl, rfl⟩
  | digits areDigits => exact areDigits.head?

/-- Reads a number after its sign. -/
def readUnsigned (minus letters : List Char) : Option (List Char × List Char) := do
  let (whole, letters) ← readWhole letters
  let (fraction, letters) ← readFraction letters
  let (exponent, letters) ← readExponent letters
  return (minus ++ whole ++ fraction ++ exponent, letters)

theorem readNumber_minus (letters : List Char) :
    readNumber ('-' :: letters) = readUnsigned ['-'] letters := rfl

theorem readNumber_of_ne {letters : List Char} (noMinus : letters.head? ≠ some '-') :
    readNumber letters = readUnsigned [] letters := by
  unfold readNumber
  split
  rename_i isSplit
  split at isSplit
  · exact absurd rfl noMinus
  · cases isSplit
    rfl

/-- After its sign a number is read part by part. -/
theorem readUnsigned_append {whole fraction exponent rest : List Char} (minus : List Char)
    (isWhole : IsWhole whole) (isFraction : IsFraction fraction) (isExponent : IsExponent exponent)
    (ends : EndsNumber rest) :
    readUnsigned minus (whole ++ (fraction ++ (exponent ++ rest))) =
      some (minus ++ whole ++ fraction ++ exponent, rest) := by
  have afterExponent : ∀ letter ∈ (exponent ++ rest).head?, letter.isDigit = false ∧ letter ≠ '.' := by
    refine forall_mem_head?_append (fun letter member => ?_) fun letter member =>
      ⟨(ends letter member).1, (ends letter member).2.1⟩
    cases isExponent with
    | nil => cases member
    | mark isMark =>
      cases member
      rcases isMark with rfl | rfl <;> decide
  have afterFraction : ∀ letter ∈ (fraction ++ (exponent ++ rest)).head?, letter.isDigit = false := by
    refine forall_mem_head?_append (fun letter member => ?_) fun letter member =>
      (afterExponent letter member).1
    cases isFraction with
    | nil => cases member
    | point => cases member; rfl
  have exponentReads := isExponent.read fun letter member =>
    ⟨(ends letter member).1, (ends letter member).2.2⟩
  rw [readUnsigned, isWhole.read afterFraction, Option.bind_eq_bind, Option.bind_some]
  dsimp only
  rw [isFraction.read afterExponent, Option.bind_some]
  dsimp only
  rw [exponentReads]
  rfl

/-- A number is read as it is spelled, if nothing goes on with it. -/
theorem IsNumber.read {literal rest : List Char} (isNumber : IsNumber literal) (ends : EndsNumber rest) :
    readNumber (literal ++ rest) = some (literal, rest) := by
  cases isNumber with
  | parts isMinus isWhole isFraction isExponent =>
    have reads := fun minus => readUnsigned_append minus isWhole isFraction isExponent ends
    simp only [List.append_assoc] at reads ⊢
    rcases isMinus with rfl | rfl
    · rw [List.nil_append, readNumber_of_ne, reads, List.nil_append]
      obtain ⟨first, others, rfl, isDigit⟩ := isWhole.head?
      intro isMinus
      cases Option.some_inj.mp isMinus
      cases isDigit
    · rw [List.singleton_append, readNumber_minus, reads]

theorem eq_append_of_readWhole {letters whole rest : List Char}
    (reads : readWhole letters = some (whole, rest)) : IsWhole whole ∧ letters = whole ++ rest := by
  unfold readWhole at reads
  split at reads
  · cases reads
    exact ⟨.zero, rfl⟩
  · rename_i notZero
    obtain ⟨areDigits, rfl⟩ := eq_append_of_readDigitRun reads
    refine ⟨.digits areDigits fun isZero => ?_, rfl⟩
    obtain ⟨first, others, rfl, -⟩ := areDigits.head?
    cases isZero
    exact notZero _ rfl

theorem eq_append_of_readFraction {letters fraction rest : List Char}
    (reads : readFraction letters = some (fraction, rest)) :
    IsFraction fraction ∧ letters = fraction ++ rest := by
  unfold readFraction at reads
  split at reads
  · obtain ⟨⟨digits, after⟩, isRead, same⟩ := Option.map_eq_some_iff.mp reads
    cases same
    obtain ⟨areDigits, rfl⟩ := eq_append_of_readDigitRun isRead
    exact ⟨.point areDigits, rfl⟩
  · cases reads
    exact ⟨.nil, rfl⟩

theorem readSign_spec (letters : List Char) :
    ((readSign letters).1 = [] ∨ (readSign letters).1 = ['+'] ∨ (readSign letters).1 = ['-']) ∧
      letters = (readSign letters).1 ++ (readSign letters).2 := by
  unfold readSign
  split
  · exact ⟨Or.inr (Or.inl rfl), rfl⟩
  · exact ⟨Or.inr (Or.inr rfl), rfl⟩
  · exact ⟨Or.inl rfl, rfl⟩

theorem eq_append_of_readExponent {letters exponent rest : List Char}
    (reads : readExponent letters = some (exponent, rest)) :
    IsExponent exponent ∧ letters = exponent ++ rest := by
  unfold readExponent at reads
  split at reads
  · rename_i mark others
    split at reads
    · rename_i isMark
      obtain ⟨isSign, isSplit⟩ := readSign_spec others
      generalize readSign others = parts at isSign isSplit reads
      obtain ⟨sign, digitsAndRest⟩ := parts
      obtain ⟨⟨digits, after⟩, isRead, same⟩ := Option.map_eq_some_iff.mp reads
      cases same
      obtain ⟨areDigits, rfl⟩ := eq_append_of_readDigitRun isRead
      rw [Bool.or_eq_true, beq_iff_eq, beq_iff_eq] at isMark
      refine ⟨.mark isMark isSign areDigits, ?_⟩
      rw [isSplit, List.append_assoc, List.cons_append]
    · cases reads
      exact ⟨.nil, rfl⟩
  · cases reads
    exact ⟨.nil, rfl⟩

theorem eq_append_of_readUnsigned {minus letters literal rest : List Char}
    (isMinus : minus = [] ∨ minus = ['-']) (reads : readUnsigned minus letters = some (literal, rest)) :
    IsNumber literal ∧ minus ++ letters = literal ++ rest := by
  obtain ⟨⟨whole, afterWhole⟩, wholeReads, reads⟩ := Option.bind_eq_some_iff.mp reads
  obtain ⟨⟨fraction, afterFraction⟩, fractionReads, reads⟩ := Option.bind_eq_some_iff.mp reads
  obtain ⟨⟨exponent, afterExponent⟩, exponentReads, reads⟩ := Option.bind_eq_some_iff.mp reads
  cases reads
  obtain ⟨isWhole, rfl⟩ := eq_append_of_readWhole wholeReads
  obtain ⟨isFraction, rfl⟩ := eq_append_of_readFraction fractionReads
  obtain ⟨isExponent, rfl⟩ := eq_append_of_readExponent exponentReads
  exact ⟨.parts isMinus isWhole isFraction isExponent, by simp⟩

/-- What is read of a number is spelled as it should be. -/
theorem eq_append_of_readNumber {letters literal rest : List Char}
    (reads : readNumber letters = some (literal, rest)) : IsNumber literal ∧ letters = literal ++ rest := by
  by_cases isMinus : letters.head? = some '-'
  · obtain ⟨others, rfl⟩ := List.head?_eq_some_iff.mp isMinus
    exact eq_append_of_readUnsigned (Or.inr rfl) (readNumber_minus others ▸ reads)
  · exact eq_append_of_readUnsigned (Or.inl rfl) (readNumber_of_ne isMinus ▸ reads)

end HandleFederation.Json
