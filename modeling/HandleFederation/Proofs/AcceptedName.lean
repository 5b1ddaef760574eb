/-
This file follows an acceptable domain through the other notion of a host name, the
one that a URL is read by. There, a name is percent-decoded, prepared character by
character, composed, cut into labels that are checked and put together again, and
taken as an address if its last label is a number. All of that leaves an acceptable
domain as it is, because its characters are small letters, digits, hyphens and dots.
Two things remain that can come between: a label with the mark of foreign characters
may be refused, and a last label may be a hexadecimal number.
-/

import HandleFederation.DomainName
import HandleFederation.Proofs.EncodedText
import HandleFederation.Url.Host
import Mathlib.Data.List.TakeWhile

namespace HandleFederation

open Text

/-! ### Characters and pieces of a text -/

theorem forall_ascii (holds : Char → Prop) (each : ∀ code, code < 0x80 → holds (Char.ofNat code))
    {letter : Char} (ascii : letter.toNat < 0x80) : holds letter := by
  have atCode := each letter.toNat ascii
  rwa [Char.ofNat_toNat] at atCode

/-- Nothing is dropped from the ends of a text that has nothing to drop. -/
theorem Text.stripWhile_eq_self {test : Char → Bool} {letters : List Char}
    (kept : ∀ letter ∈ letters, test letter = false) : stripWhile test letters = letters := by
  have notDropped : ∀ letter ∈ letters, ¬ test letter = true := fun letter member =>
    Bool.eq_false_iff.mp (kept letter member)
  have front : letters.dropWhile test = letters :=
    List.dropWhile_eq_self_iff.mpr fun isShort => notDropped _ (List.getElem_mem isShort)
  have back : letters.reverse.dropWhile test = letters.reverse :=
    List.dropWhile_eq_self_iff.mpr fun isShort =>
      notDropped _ (List.mem_reverse.mp (List.getElem_mem isShort))
  rw [stripWhile, front, dropTrailing, back, List.reverse_reverse]

/-- What stands in a text stands in one of the pieces it is cut into, or is where it is cut. -/
theorem Text.mem_intercalate {Item : Type} {separator item : Item} {pieces : List (List Item)}
    (member : item ∈ [separator].intercalate pieces) :
    item = separator ∨ ∃ piece ∈ pieces, item ∈ piece := by
  induction pieces with
  | nil => simp at member
  | cons first rest inductionHypothesis =>
    cases rest with
    | nil =>
      rw [List.intercalate_singleton] at member
      exact Or.inr ⟨first, List.mem_cons_self, member⟩
    | cons second others =>
      rw [List.intercalate_cons_cons, List.append_assoc, List.mem_append, List.mem_append,
        List.mem_singleton] at member
      rcases member with inFirst | isSeparator | later
      · exact Or.inr ⟨first, List.mem_cons_self, inFirst⟩
      · exact Or.inl isSeparator
      · rcases inductionHypothesis later with isSeparator | ⟨piece, isPiece, inPiece⟩
        · exact Or.inl isSeparator
        · exact Or.inr ⟨piece, List.mem_cons_of_mem _ isPiece, inPiece⟩

/-! ### What an acceptable domain is made of -/

namespace DomainName

/-- A character of an acceptable domain: one of a label, or the dot between two. -/
def isLetter (letter : Char) : Bool :=
  isLabelLetter letter || letter == '.'

theorem toNat_lt_of_isLetter {letter : Char} (isLetter : isLetter letter = true) :
    letter.toNat < 0x80 := by
  simp only [DomainName.isLetter, isLabelLetter, Bool.or_eq_true, beq_iff_eq] at isLetter
  rcases isLetter with ((isLower | isDigit) | rfl) | rfl
  · exact Nat.lt_of_le_of_lt (Utf8.toNat_of_between 'a' 'z' letter isLower).2 (by decide)
  · exact Nat.lt_of_le_of_lt (Utf8.toNat_of_between '0' '9' letter isDigit).2 (by decide)
  · decide
  · decide

/-- The characters of acceptable domains, one by one. -/
def alphabet : List Char :=
  ['a', 'b', 'c', 'd', 'e', 'f', 'g', 'h', 'i', 'j', 'k', 'l', 'm',
    'n', 'o', 'p', 'q', 'r', 's', 't', 'u', 'v', 'w', 'x', 'y', 'z',
    '0', '1', '2', '3', '4', '5', '6', '7', '8', '9', '-', '.']

theorem mem_alphabet {letter : Char} (isLetter : isLetter letter = true) : letter ∈ alphabet := by
  have each : (List.range 0x80).all (fun code =>
      !DomainName.isLetter (Char.ofNat code) || alphabet.contains (Char.ofNat code)) = true := by
    decide +kernel
  have atCode := List.all_eq_true.mp each letter.toNat (List.mem_range.mpr (toNat_lt_of_isLetter isLetter))
  rwa [Char.ofNat_toNat, isLetter, Bool.not_true, Bool.false_or, List.contains_iff_mem] at atCode

/-- A property of each of them is one of every character of an acceptable domain. -/
theorem forall_isLetter (holds : Char → Prop) [DecidablePred holds] (each : alphabet.all (holds ·) = true)
    {letter : Char} (isLetter : isLetter letter = true) : holds letter :=
  of_decide_eq_true (List.all_eq_true.mp each letter (mem_alphabet isLetter))

theorem isUpper_of_isLetter {letter : Char} (isLetter : isLetter letter = true) :
    letter.isUpper = false :=
  forall_isLetter (fun letter => letter.isUpper = false) (by decide) isLetter

theorem toLower_of_isLetter {letter : Char} (isLetter : isLetter letter = true) :
    letter.toLower = letter :=
  forall_isLetter (fun letter => letter.toLower = letter) (by decide) isLetter

/-- What acceptance says about the labels of a domain: all are plain ones, and the last one is not
a decimal number. -/
structure IsPlain (domain : List Char) : Prop where
  labels : ∀ label ∈ labels domain, isLabel label = true
  top : ((DomainName.labels domain).getLast?.getD []).all Char.isDigit = false

theorem isPlain_of_fault? {blocked : List String} {domain : List Char}
    (accepted : fault? blocked domain = none) : IsPlain domain := by
  unfold fault? at accepted
  split at accepted
  · cases accepted
  · split at accepted
    · cases accepted
    · split at accepted
      · cases accepted
      · split at accepted
        · cases accepted
        · rename_i allLabels
          split at accepted
          · cases accepted
          · split at accepted
            · cases accepted
            · rename_i notNumeric
              refine ⟨fun label member => ?_, Bool.eq_false_iff.mpr notNumeric⟩
              simpa using List.find?_eq_none.mp allLabels label member

theorem isPlain_of_validate {blocked : List String} {text domain : String}
    (accepted : validate blocked text = .ok domain) : IsPlain domain.toList := by
  obtain ⟨noFault, rfl⟩ := validate_eq_ok_iff.mp accepted
  rw [toList_normalize]
  exact isPlain_of_fault? noFault

theorem intercalate_labels (domain : List Char) : ['.'].intercalate (labels domain) = domain :=
  List.intercalate_splitOn '.'

theorem ne_nil_of_isLabel {label : List Char} (isLabel : isLabel label = true) : label ≠ [] := by
  rintro rfl
  exact absurd isLabel (by decide)

theorem isLabelLetter_of_isLabel {label : List Char} (isLabel : isLabel label = true) :
    ∀ letter ∈ label, isLabelLetter letter = true := by
  simp only [DomainName.isLabel, Bool.and_eq_true] at isLabel
  exact List.all_eq_true.mp isLabel.2

theorem isLetter_of_isLabel {label : List Char} (isLabel : isLabel label = true) :
    ∀ letter ∈ label, isLetter letter = true := by
  intro letter member
  rw [isLetter, isLabelLetter_of_isLabel isLabel letter member, Bool.true_or]

section Labels

variable {domain : List Char}

theorem letters_of_labels (areLabels : ∀ label ∈ labels domain, isLabel label = true) :
    ∀ letter ∈ domain, isLetter letter = true := by
  intro letter member
  rw [← intercalate_labels domain] at member
  rcases mem_intercalate member with rfl | ⟨label, isLabel, inLabel⟩
  · decide
  · exact isLetter_of_isLabel (areLabels label isLabel) letter inLabel

theorem getLast?_ne_of_labels (areLabels : ∀ label ∈ labels domain, isLabel label = true) :
    domain.getLast? ≠ some '.' := by
  intro endsInDot
  obtain ⟨front, rfl⟩ := List.getLast?_eq_some_iff.mp endsInDot
  have emptyLabel : [] ∈ labels (front ++ ['.']) := by
    rw [labels, List.splitOn_append_cons_self, List.splitOn_nil]
    exact List.mem_append_right _ (List.mem_singleton_self _)
  exact absurd (areLabels [] emptyLabel) (by decide)

end Labels

namespace IsPlain

variable {domain : List Char}

theorem letters (plain : IsPlain domain) : ∀ letter ∈ domain, isLetter letter = true :=
  letters_of_labels plain.labels

theorem exists_last (plain : IsPlain domain) :
    ∃ last ∈ DomainName.labels domain, (DomainName.labels domain).getLast? = some last ∧
      last.all Char.isDigit = false := by
  have notEmpty : DomainName.labels domain ≠ [] := List.splitOn_ne_nil '.' domain
  have top := plain.top
  rw [List.getLast?_eq_some_getLast notEmpty] at top
  exact ⟨_, List.getLast_mem notEmpty, List.getLast?_eq_some_getLast notEmpty, top⟩

theorem ne_nil (plain : IsPlain domain) : domain ≠ [] := by
  rintro rfl
  exact absurd (plain.labels [] (by decide)) (by decide)

theorem isEmpty_eq (plain : IsPlain domain) : domain.isEmpty = false :=
  List.isEmpty_eq_false_iff.mpr plain.ne_nil

theorem map_toLower (plain : IsPlain domain) : domain.map Char.toLower = domain :=
  (List.map_congr_left fun letter member => toLower_of_isLetter (plain.letters letter member)).trans
    (List.map_id domain)

theorem getLast?_ne (plain : IsPlain domain) : domain.getLast? ≠ some '.' :=
  getLast?_ne_of_labels plain.labels

/-- An acceptable domain is in normal form. -/
theorem normalizeLetters_eq (plain : IsPlain domain) : normalizeLetters domain = domain := by
  have noBlank : ∀ letter ∈ domain, isBlank letter = false := by
    intro letter member
    exact forall_isLetter (fun letter => isBlank letter = false) (by decide)
      (plain.letters letter member)
  rw [normalizeLetters, trimLetters, stripWhile_eq_self noBlank, dropTrailingDot,
    if_neg plain.getLast?_ne, plain.map_toLower]

end IsPlain

theorem validate_of_validate {blocked : List String} {text domain : String}
    (accepted : validate blocked text = .ok domain) : validate blocked domain = .ok domain := by
  have normal := (isPlain_of_validate accepted).normalizeLetters_eq
  obtain ⟨noFault, isNormal⟩ := validate_eq_ok_iff.mp accepted
  rw [← toList_normalize, ← isNormal, ← normal] at noFault
  refine validate_eq_ok_iff.mpr ⟨noFault, ?_⟩
  rw [normalize, normal, String.ofList_toList]

end DomainName

/-! ### Preparation and composition -/

namespace Composition

open Unicode

theorem takeApart_of_lt (bound : Nat) {code : Nat} (small : code < 0x80) :
    takeApart bound code = [code] := by
  have isWhole : code < firstComposed := small.trans (by decide)
  cases bound with
  | zero => rfl
  | succ bound => rw [takeApart, parts?, if_pos isWhole]

theorem combiningClass_of_lt {code : Nat} (small : code < 0x80) : combiningClass code = 0 := by
  have isStarter : code < firstCombining := small.trans (by decide)
  rw [combiningClass, if_pos isStarter]

theorem compose?_of_lt (starter : Nat) {code : Nat} (small : code < 0x80) :
    compose? starter code = none := by
  have standsAlone : code < firstCombining := small.trans (by decide)
  rw [compose?, if_pos standsAlone]

/-- Characters that all start anew are in order. -/
theorem order_of_starters (codes : List Nat) :
    order [] (codes.map fun code => (code, 0)) = codes.map fun code => (code, 0) := by
  induction codes with
  | nil => rfl
  | cons code rest inductionHypothesis =>
    rw [List.map_cons, order, if_pos rfl, inductionHypothesis, List.nil_append]

theorem ordered_of_lt {codes : List Nat} (small : ∀ code ∈ codes, code < 0x80) :
    ordered codes = codes.map fun code => (code, 0) := by
  have apart : codes.flatMap (takeApart 4) = codes := by
    induction codes with
    | nil => rfl
    | cons code rest inductionHypothesis =>
      rw [List.flatMap_cons, takeApart_of_lt 4 (small code List.mem_cons_self),
        inductionHypothesis fun other member => small other (List.mem_cons_of_mem _ member)]
      rfl
  have classes : (codes.map fun code => (code, combiningClass code)) =
      codes.map fun code => (code, 0) := by
    refine List.map_congr_left fun code member => ?_
    rw [combiningClass_of_lt (small code member)]
  rw [ordered, apart, classes, order_of_starters]

theorem composeAfter_of_lt {codes : List Nat} (small : ∀ code ∈ codes, code < 0x80)
    (starter : Nat) :
    composeAfter starter [] 0 (codes.map fun code => (code, 0)) = starter :: codes := by
  induction codes generalizing starter with
  | nil => rfl
  | cons code rest inductionHypothesis =>
    have alone := compose?_of_lt starter (small code List.mem_cons_self)
    have after := inductionHypothesis
      (fun other member => small other (List.mem_cons_of_mem _ member)) code
    simp [composeAfter, alone, after]

/-- The composed normal form of a text of ASCII is the text. -/
theorem normalForm_of_ascii {letters : List Char}
    (ascii : ∀ letter ∈ letters, letter.toNat < 0x80) :
    normalForm letters = letters := by
  have small : ∀ code ∈ letters.map Char.toNat, code < 0x80 := by
    simpa using ascii
  have composed : compose ((letters.map Char.toNat).map fun code => (code, 0)) =
      letters.map Char.toNat := by
    cases letters with
    | nil => rfl
    | cons letter rest =>
      rw [List.map_cons, List.map_cons, compose, if_pos rfl]
      exact composeAfter_of_lt (fun code member => small code (List.mem_cons_of_mem _ member)) _
  rw [normalForm, ordered_of_lt small, composed, List.map_map]
  refine (List.map_congr_left fun letter _ => ?_).trans (List.map_id letters)
  exact Char.ofNat_toNat letter

end Composition

/-! ### The form of ASCII -/

namespace HostName

open Unicode

theorem prepare?_of_letters {name : List Char}
    (letters : ∀ letter ∈ name, DomainName.isLetter letter = true) : prepare? name = some name := by
  induction name with
  | nil => rfl
  | cons letter rest inductionHypothesis =>
    have isLetter := letters letter List.mem_cons_self
    have others := inductionHypothesis fun other member => letters other (List.mem_cons_of_mem _ member)
    have fate : hostFate letter = .kept := by
      rw [hostFate, if_pos (DomainName.toNat_lt_of_isLetter isLetter), HostFate.ofAscii,
        DomainName.isUpper_of_isLetter isLetter]
      rfl
    simp [prepare?, others, fate]

/-- A label of ASCII stays as it is, whether or not it stands for other characters. -/
theorem ascii_of_labelForms? {label : List Char} {forms : LabelForms}
    (ascii : label.all isAscii = true) (read : labelForms? label = some forms) : forms.ascii = label := by
  unfold labelForms? at read
  split at read
  · dsimp only at read
    split at read
    · cases read
    · split at read
      · cases read
      · split at read
        · cases read
        · cases read
          rfl
  · cases read
    rfl

theorem ascii_of_mapM_labelForms? {labels : List (List Char)} {forms : List LabelForms}
    (ascii : ∀ label ∈ labels, label.all isAscii = true)
    (read : labels.mapM labelForms? = some forms) : forms.map LabelForms.ascii = labels := by
  induction labels generalizing forms with
  | nil =>
    cases read
    rfl
  | cons label rest inductionHypothesis =>
    rw [List.mapM_cons] at read
    obtain ⟨first, isFirst, others⟩ := Option.bind_eq_some_iff.mp read
    obtain ⟨later, areLater, joined⟩ := Option.bind_eq_some_iff.mp others
    cases joined
    rw [List.map_cons, ascii_of_labelForms? (ascii label List.mem_cons_self) isFirst,
      inductionHypothesis (fun other member => ascii other (List.mem_cons_of_mem _ member)) areLater]

variable {domain : List Char}

theorem all_isAscii_of_isPlain (plain : DomainName.IsPlain domain) : domain.all isAscii = true := by
  rw [List.all_eq_true]
  intro letter member
  exact decide_eq_true (DomainName.toNat_lt_of_isLetter (plain.letters letter member))

theorem any_isForbidden_of_isPlain (plain : DomainName.IsPlain domain) :
    domain.any isForbidden = false := by
  rw [List.any_eq_false]
  intro letter member
  exact DomainName.forall_isLetter (fun letter => ¬ isForbidden letter = true) (by decide)
    (plain.letters letter member)

/-- An acceptable domain is either refused or keeps every character. -/
theorem eq_of_toAscii? (plain : DomainName.IsPlain domain) {name : List Char}
    (brought : toAscii? domain = some name) : name = domain := by
  unfold toAscii? at brought
  split at brought
  · rw [any_isForbidden_of_isPlain plain, plain.map_toLower] at brought
    cases brought
    rfl
  · rw [prepare?_of_letters plain.letters] at brought
    have composed : Composition.normalForm domain = domain :=
      Composition.normalForm_of_ascii fun letter member =>
        DomainName.toNat_lt_of_isLetter (plain.letters letter member)
    simp only [Option.bind_eq_bind, Option.bind_some, composed] at brought
    obtain ⟨forms, read, rest⟩ := Option.bind_eq_some_iff.mp brought
    have ascii : ∀ label ∈ labels domain, label.all isAscii = true := by
      intro label member
      rw [List.all_eq_true]
      intro letter inLabel
      exact decide_eq_true (DomainName.toNat_lt_of_isLetter
        (DomainName.isLetter_of_isLabel (plain.labels label member) letter inLabel))
    split at rest
    · cases rest
    · split at rest
      · cases rest
      · cases rest
        rw [ascii_of_mapM_labelForms? ascii read]
        exact DomainName.intercalate_labels domain

/-- Only a label with the mark of foreign characters can have a domain refused. -/
theorem toAscii?_of_unmarked (plain : DomainName.IsPlain domain)
    (unmarked : ∀ label ∈ labels domain, mark.isPrefixOf label = false) :
    toAscii? domain = some domain := by
  have noMark : (labels domain).any mark.isPrefixOf = false := by
    rw [List.any_eq_false]
    intro label member
    rw [unmarked label member]
    exact Bool.false_ne_true
  have isPlain : isPlain domain = true := by
    rw [HostName.isPlain, all_isAscii_of_isPlain plain, plain.map_toLower, noMark]
    rfl
  rw [toAscii?, if_pos isPlain, any_isForbidden_of_isPlain plain, plain.map_toLower]
  rfl

/-- A validated domain without marked labels can be named. -/
theorem isSome_toAscii?_of_validate {blocked : List String} {text domain : String}
    (accepted : DomainName.validate blocked text = .ok domain)
    (unmarked : ∀ label ∈ labels domain.toList, mark.isPrefixOf label = false) :
    (toAscii? domain.toList).isSome = true := by
  rw [toAscii?_of_unmarked (DomainName.isPlain_of_validate accepted) unmarked]
  rfl

end HostName

/-! ### Numbers -/

open Unicode

/-- A label that is read as a hexadecimal number, such as `0x1f`. -/
def DomainName.isHexadecimal : List Char → Bool
  | '0' :: 'x' :: digits => digits.all isHexDigit
  | _ => false

theorem forall_of_readToBase? {base : Nat} {digits : List Char}
    (read : (readToBase? base digits).isSome = true) :
    ∀ digit ∈ digits, isHexDigit digit = true ∧ hexDigitValue digit < base := by
  unfold readToBase? at read
  split at read
  · rename_i allDigits
    simpa using allDigits
  · cases read

theorem isDigit_of_hexDigitValue_lt {digit : Char} (ascii : digit.toNat < 0x80)
    (isHexDigit : isHexDigit digit = true) (small : hexDigitValue digit < 10) :
    digit.isDigit = true :=
  forall_ascii (fun digit => Unicode.isHexDigit digit = true → hexDigitValue digit < 10 →
    digit.isDigit = true) (by decide +kernel) ascii isHexDigit small

theorem all_isDigit_of_readToBase? {base : Nat} (decimal : base ≤ 10) {digits : List Char}
    (ascii : ∀ digit ∈ digits, digit.toNat < 0x80)
    (read : (readToBase? base digits).isSome = true) : digits.all Char.isDigit = true := by
  rw [List.all_eq_true]
  intro digit member
  obtain ⟨isHexDigit, small⟩ := forall_of_readToBase? read digit member
  exact isDigit_of_hexDigitValue_lt (ascii digit member) isHexDigit (Nat.lt_of_lt_of_le small decimal)

/-- A plain label is read as a number only if it is a decimal or a hexadecimal one. -/
theorem isHexadecimal_of_readAddressNumber? {label : List Char}
    (letters : ∀ letter ∈ label, DomainName.isLetter letter = true)
    (isNumber : (readAddressNumber? label).isSome = true)
    (notDecimal : label.all Char.isDigit = false) :
    DomainName.isHexadecimal label = true := by
  have ascii : ∀ letter ∈ label, letter.toNat < 0x80 := fun letter member =>
    DomainName.toNat_lt_of_isLetter (letters letter member)
  unfold readAddressNumber? at isNumber
  split at isNumber
  · cases isNumber
  · rename_i digits
    rw [DomainName.isHexadecimal, List.all_eq_true]
    exact fun digit member => (forall_of_readToBase? isNumber digit member).1
  · exact absurd (letters 'X' (by simp)) (by decide)
  · rename_i second digits _ _
    have octal := all_isDigit_of_readToBase? (by decide)
      (fun letter member => ascii letter (List.mem_cons_of_mem _ member)) isNumber
    rw [List.all_cons, octal] at notDecimal
    cases notDecimal
  · rw [all_isDigit_of_readToBase? (by decide) ascii isNumber] at notDecimal
    cases notDecimal

/-! ### Hosts -/

namespace DomainName

variable {domain : List Char}

/-- Whether the last label of a domain is read as a hexadecimal number. -/
def endsInHexadecimal (domain : List Char) : Bool :=
  isHexadecimal ((labels domain).getLast?.getD [])

theorem endsInNumber_of_isPlain (plain : IsPlain domain)
    (notHexadecimal : endsInHexadecimal domain = false) : endsInNumber domain = false := by
  obtain ⟨last, member, isLast, notDecimal⟩ := plain.exists_last
  have isLabel := plain.labels last member
  have keepsAll : hostLabels domain = labels domain := by
    refine if_neg fun endsEmpty => ?_
    rw [← labels, isLast] at endsEmpty
    exact ne_nil_of_isLabel isLabel (Option.some.inj endsEmpty)
  rw [endsInHexadecimal, isLast, Option.getD_some] at notHexadecimal
  rw [Bool.eq_false_iff]
  intro isNumber
  simp only [endsInNumber, keepsAll, isLast, notDecimal, Bool.and_false, Bool.false_or] at isNumber
  rw [isHexadecimal_of_readAddressNumber? (isLetter_of_isLabel isLabel) isNumber notDecimal]
    at notHexadecimal
  cases notHexadecimal

/-- An acceptable domain reaches the last step of reading unchanged, or is refused before. -/
theorem readSpecialHost_eq_readPlainHost (plain : IsPlain domain) : readSpecialHost domain =
    if (HostName.toAscii? domain).isSome then readPlainHost domain else .error .invalidName := by
  have notBracketed : domain.head? ≠ some '[' := by
    intro first
    exact absurd (plain.letters '[' (List.mem_of_mem_head? first)) (by decide)
  have noPercent : '%' ∉ domain := fun member => absurd (plain.letters '%' member) (by decide)
  rw [readSpecialHost, if_neg notBracketed, Percent.decode_of_notMem noPercent,
    Utf8.decode?_encode, Option.bind_some]
  cases brought : HostName.toAscii? domain with
  | none => rfl
  | some name =>
    cases HostName.eq_of_toAscii? plain brought
    rfl

/-- A URL names the host of an acceptable domain letter by letter, or has no host for it. -/
theorem readSpecialHost_of_isPlain (plain : IsPlain domain)
    (notHexadecimal : endsInHexadecimal domain = false) :
    readSpecialHost domain =
      if (HostName.toAscii? domain).isSome then .ok (.name domain) else .error .invalidName := by
  rw [readSpecialHost_eq_readPlainHost plain, readPlainHost, plain.isEmpty_eq,
    endsInNumber_of_isPlain plain notHexadecimal]
  rfl

/-- The host of an acceptable domain is the domain or an address of version 4. -/
theorem name_or_v4_of_readSpecialHost (plain : IsPlain domain) {host : Host}
    (read : readSpecialHost domain = .ok host) : host = .name domain ∨ ∃ address, host = .v4 address := by
  rw [readSpecialHost_eq_readPlainHost plain, readPlainHost, plain.isEmpty_eq] at read
  split at read
  · rw [if_neg Bool.false_ne_true] at read
    split at read
    · split at read
      · cases read
        exact .inr ⟨_, rfl⟩
      · cases read
    · cases read
      exact .inl rfl
  · cases read

end DomainName

end HandleFederation
