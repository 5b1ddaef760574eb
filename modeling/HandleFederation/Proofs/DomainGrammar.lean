/-
This file says which domains are accepted, without the order in which the faults are
tried. The grammar speaks of labels only: a domain is well-formed when its labels are,
and it is under a suffix when the labels of the suffix are the last ones of the domain.
Between the two stands an observation on addresses. Their notations are tried before
the labels are looked at, yet none of them is well-formed: one of version 4 ends in a
numeric label, and one of version 6 has a colon in it. So a domain that is well-formed
can only be refused for a suffix, and what is refused for a suffix was well-formed.
-/

import HandleFederation.Proofs.PermittedTarget

namespace HandleFederation

open Text

/-! ### The notations of addresses -/

section Literals

variable {letters rest : List Char}

theorem readMark_eq_some {mark : Char} (read : readMark mark letters = some rest) :
    letters = mark :: rest := by
  cases letters with
  | nil => cases read
  | cons letter others =>
    rw [readMark] at read
    split at read
    · rename_i isMark
      cases read
      rw [beq_iff_eq.mp isMark]
    · cases read

theorem readMark_eq_none {mark : Char} (absent : mark ∉ letters) : readMark mark letters = none := by
  cases read : readMark mark letters with
  | none => rfl
  | some rest =>
    rw [readMark_eq_some read] at absent
    exact absurd List.mem_cons_self absent

theorem exists_digits_of_readOctet {octet : UInt8} (read : readOctet letters = some (octet, rest)) :
    ∃ digits, letters = digits ++ rest ∧ digits.length ≤ 3 ∧ digits ≠ [] ∧
      ∀ digit ∈ digits, digit.isDigit = true := by
  unfold readOctet at read
  dsimp only at read
  split at read
  · cases read
  · rename_i fits
    simp only [Bool.or_eq_true, decide_eq_true_eq, not_or] at fits
    split at read
    · cases read
      refine ⟨letters.takeWhile Char.isDigit, ?_, Nat.le_of_not_lt fits.1.2, fun isEmpty => fits.1.1 ?_,
        fun digit member => List.mem_takeWhile_imp member⟩
      · exact (List.prefix_iff_eq_append.mp (List.takeWhile_prefix _)).symm
      · rw [isEmpty]
        rfl
    · cases read

/-- The notation of version 4: digits and dots, of which the last dot has digits after it. -/
theorem exists_digits_of_read {address : Ipv4} (read : Ipv4.read letters = some (address, rest)) :
    ∃ front digits, letters = front ++ '.' :: (digits ++ rest) ∧
      (front.length ≤ 11 ∧ digits.length ≤ 3) ∧ (∀ letter ∈ front, letter.isDigit = true ∨ letter = '.') ∧
      digits ≠ [] ∧ ∀ digit ∈ digits, digit.isDigit = true := by
  simp only [Ipv4.read, Option.bind_eq_bind, Option.bind_eq_some_iff, Prod.exists, Option.pure_def,
    Option.some.injEq, Prod.mk.injEq] at read
  obtain ⟨_, _, first, _, dot, _, _, second, _, otherDot, _, _, third, _, lastDot, _, _, fourth, -, rfl⟩ :=
    read
  obtain ⟨firstDigits, rfl, fewFirst, -, areFirst⟩ := exists_digits_of_readOctet first
  obtain ⟨secondDigits, rfl, fewSecond, -, areSecond⟩ := exists_digits_of_readOctet second
  obtain ⟨thirdDigits, rfl, fewThird, -, areThird⟩ := exists_digits_of_readOctet third
  obtain ⟨digits, rfl, few, notEmpty, areDigits⟩ := exists_digits_of_readOctet fourth
  rw [readMark_eq_some dot, readMark_eq_some otherDot, readMark_eq_some lastDot]
  refine ⟨firstDigits ++ '.' :: (secondDigits ++ '.' :: thirdDigits), digits, by simp, ⟨?_, few⟩, ?_, notEmpty,
    areDigits⟩
  · simp only [List.length_append, List.length_cons]
    omega
  intro letter member
  simp only [List.mem_append, List.mem_cons] at member
  rcases member with inFirst | rfl | inSecond | rfl | inThird
  · exact Or.inl (areFirst letter inFirst)
  · exact Or.inr rfl
  · exact Or.inl (areSecond letter inSecond)
  · exact Or.inr rfl
  · exact Or.inl (areThird letter inThird)

theorem suffix_of_readSegment {segment : UInt16} (read : readSegment letters = some (segment, rest)) :
    rest <:+ letters := by
  unfold readSegment at read
  dsimp only at read
  split at read
  · cases read
  · cases read
    exact List.drop_suffix _ _

theorem suffix_of_read {address : Ipv4} (read : Ipv4.read letters = some (address, rest)) :
    rest <:+ letters := by
  obtain ⟨front, digits, rfl, -⟩ := exists_digits_of_read read
  exact ⟨front ++ '.' :: digits, by simp⟩

/-- Segments are read from the front. -/
theorem rest_readSegments_suffix (room : Nat) (isFirst : Bool) (letters : List Char) :
    (readSegments room isFirst letters).rest <:+ letters := by
  induction room generalizing isFirst letters with
  | zero => exact List.suffix_rfl
  | succ room inductionHypothesis =>
    rw [readSegments]
    split
    · exact List.suffix_rfl
    · rename_i body isBody
      have bodySuffix : body <:+ letters := by
        cases isFirst with
        | true =>
          cases isBody
          exact List.suffix_rfl
        | false =>
          rw [readMark_eq_some isBody]
          exact List.suffix_cons ':' body
      split
      · rename_i read
        split at read
        · cases read
        · exact (suffix_of_read read).trans bodySuffix
      · split
        · exact List.suffix_rfl
        · rename_i read
          exact ((inductionHypothesis false _).trans (suffix_of_readSegment read)).trans bodySuffix

theorem segments_readSegments_of_noColon (room : Nat) (noColon : ':' ∉ letters) :
    (readSegments room false letters).segments = [] := by
  cases room with
  | zero => rfl
  | succ room =>
    rw [readSegments, if_neg (by decide), readMark_eq_none noColon]

/-- Without a colon there is room for one segment, or for an address of version 4. -/
theorem length_readSegments_of_noColon (room : Nat) (noColon : ':' ∉ letters) :
    (readSegments room true letters).segments.length ≤ 2 := by
  cases room with
  | zero => exact Nat.zero_le 2
  | succ room =>
    rw [readSegments, if_pos rfl]
    dsimp only
    split
    · exact Nat.le_refl 2
    · split
      · exact Nat.zero_le 2
      · rename_i read
        have noneLeft := segments_readSegments_of_noColon room fun member =>
          noColon ((suffix_of_readSegment read).mem member)
        rw [noneLeft]
        exact Nat.le_succ 1

theorem mem_colon_of_read? {address : Ipv6} (read : Ipv6.read? letters = some address) :
    ':' ∈ letters := by
  by_contra noColon
  have few := length_readSegments_of_noColon 8 noColon
  unfold Ipv6.read? at read
  dsimp only at read
  rw [if_neg (by omega), readMark_eq_none fun member =>
    noColon ((rest_readSegments_suffix 8 true letters).mem member)] at read
  split at read <;> cases read

/-- No notation of an address is an acceptable domain. -/
theorem not_isPlain_of_readLetters? {address : Address}
    (read : Address.readLetters? letters = some address) :
    ¬ DomainName.IsPlain (DomainName.normalizeLetters letters) := by
  unfold Address.readLetters? at read
  split at read
  · rename_i readV4
    obtain ⟨front, digits, rfl, -, characters, notEmpty, areDigits⟩ := exists_digits_of_read readV4
    rw [List.append_nil]
    exact DomainName.not_isPlain_of_numericTop characters notEmpty areDigits
  · cases read
  · obtain ⟨inner, readV6, -⟩ := Option.map_eq_some_iff.mp read
    intro plain
    have colon := DomainName.mem_normalizeLetters (mem_colon_of_read? readV6) (by decide) (by decide)
    exact absurd (plain.letters _ colon) (by decide)

end Literals

/-- Pieces with separators between them, cut in two at a separator. -/
theorem Text.intercalate_append {Item : Type} (separator : Item) {front back : List (List Item)}
    (frontNotEmpty : front ≠ []) (backNotEmpty : back ≠ []) :
    [separator].intercalate (front ++ back) =
      [separator].intercalate front ++ separator :: [separator].intercalate back := by
  induction front with
  | nil => exact absurd rfl frontNotEmpty
  | cons first rest inductionHypothesis =>
    cases rest with
    | nil =>
      obtain ⟨second, others, rfl⟩ := List.exists_cons_of_ne_nil backNotEmpty
      simp [List.intercalate_cons_cons]
    | cons second others =>
      rw [List.cons_append, List.cons_append, List.intercalate_cons_cons, List.intercalate_cons_cons,
        ← List.cons_append, inductionHypothesis (List.cons_ne_nil second others)]
      simp

namespace DomainName

/-! ### Suffixes by labels -/

theorem labels_append (front back : List Char) :
    labels (front ++ '.' :: back) = labels front ++ labels back :=
  List.splitOn_append_cons_self front back

theorem labels_intercalate {pieces : List (List Char)} (noDot : ∀ piece ∈ pieces, '.' ∉ piece)
    (notEmpty : pieces ≠ []) : labels (['.'].intercalate pieces) = pieces :=
  List.splitOn_intercalate '.' noDot notEmpty

theorem labels_ne_nil (domain : List Char) : labels domain ≠ [] :=
  List.splitOn_ne_nil '.' domain

/-- A domain lies under a suffix when its last labels are those of the suffix. -/
theorem liesUnder_iff_labels {suffix domain : List Char} :
    liesUnder suffix domain = true ↔ labels suffix <:+ labels domain := by
  rw [liesUnder, Bool.or_eq_true, beq_iff_eq, List.isSuffixOf_iff_suffix]
  constructor
  · rintro (rfl | ⟨front, rfl⟩)
    · exact List.suffix_rfl
    · rw [labels_append]
      exact List.suffix_append _ _
  · rintro ⟨front, joined⟩
    rw [← intercalate_labels domain, ← joined]
    by_cases isEmpty : front = []
    · left
      rw [isEmpty, List.nil_append, intercalate_labels]
    · right
      rw [intercalate_append '.' isEmpty (labels_ne_nil suffix), intercalate_labels]
      exact List.suffix_append _ _

/-! ### The grammar -/

/-- A label of a domain: one to sixty-three small letters, digits and hyphens, with no hyphen at
either end. -/
structure IsLabel (label : List Char) : Prop where
  length : 1 ≤ label.length ∧ label.length ≤ 63
  letters : ∀ letter ∈ label,
    ('a' ≤ letter ∧ letter ≤ 'z') ∨ ('0' ≤ letter ∧ letter ≤ '9') ∨ letter = '-'
  ends : label.head? ≠ some '-' ∧ label.getLast? ≠ some '-'

theorem isLabelLetter_iff {letter : Char} : isLabelLetter letter = true ↔
    ('a' ≤ letter ∧ letter ≤ 'z') ∨ ('0' ≤ letter ∧ letter ≤ '9') ∨ letter = '-' := by
  have isLower : letter.isLower = (decide ('a' ≤ letter) && decide (letter ≤ 'z')) := rfl
  have isDigit : letter.isDigit = (decide ('0' ≤ letter) && decide (letter ≤ '9')) := rfl
  simp only [isLabelLetter, isLower, isDigit, Bool.or_eq_true, Bool.and_eq_true, decide_eq_true_eq,
    beq_iff_eq, or_assoc]

theorem isLabel_iff {label : List Char} : isLabel label = true ↔ IsLabel label := by
  constructor
  · intro isLabel
    exact ⟨length_of_isLabel isLabel, fun letter member =>
      isLabelLetter_iff.mp (isLabelLetter_of_isLabel isLabel letter member), ends_of_isLabel isLabel⟩
  · intro isLabel
    have notEmpty : label.isEmpty = false := by
      rw [List.isEmpty_eq_false_iff]
      exact List.length_pos_iff.mp isLabel.length.1
    simp only [DomainName.isLabel, notEmpty, Bool.not_false, Bool.true_and, Bool.and_eq_true,
      decide_eq_true_eq, bne_iff_ne]
    exact ⟨⟨⟨isLabel.length.2, isLabel.ends.1⟩, isLabel.ends.2⟩, List.all_eq_true.mpr fun letter member =>
      isLabelLetter_iff.mpr (isLabel.letters letter member)⟩

instance (label : List Char) : Decidable (IsLabel label) :=
  decidable_of_iff _ isLabel_iff

theorem IsLabel.noDot {label : List Char} (isLabel : IsLabel label) : '.' ∉ label := by
  intro member
  exact absurd (isLabelLetter_iff.mpr (isLabel.letters '.' member)) (by decide)

/-- A domain of one to 253 bytes and of at least two labels, of which the last one is no number. -/
structure IsWellFormed (domain : List Char) : Prop where
  size : 1 ≤ (Utf8.encode domain).length ∧ (Utf8.encode domain).length ≤ 253
  atLeastTwo : 2 ≤ (labels domain).length
  eachLabel : ∀ label ∈ labels domain, IsLabel label
  top : ¬ ∀ digit ∈ (labels domain).getLast (labels_ne_nil domain), '0' ≤ digit ∧ digit ≤ '9'

/-- A well-formed domain whose last labels are neither those of a reserved name nor those of an entry
of the operator. Entries count in normal form, and empty ones do not count. -/
structure IsAcceptable (entries : List String) (domain : List Char) : Prop extends IsWellFormed domain where
  outside : ∀ suffix ∈ reservedSuffixes ++ entries.map normalize, suffix ≠ "" →
    ¬ labels suffix.toList <:+ labels domain

/-! ### Faults and the grammar -/

section Faults

variable {blocked : List String} {domain : List Char}

theorem length_encode_pos (notEmpty : ¬ domain.isEmpty = true) : 1 ≤ (Utf8.encode domain).length := by
  cases domain with
  | nil => exact absurd rfl notEmpty
  | cons letter rest =>
    rw [Utf8.encode, List.flatMap_cons, List.length_append, String.length_utf8EncodeChar]
    exact Nat.le_add_right_of_le letter.utf8Size_pos

theorem isNumericTop_iff : ((labels domain).getLast?.getD []).all Char.isDigit = true ↔
    ∀ digit ∈ (labels domain).getLast (labels_ne_nil domain), '0' ≤ digit ∧ digit ≤ '9' := by
  rw [List.getLast?_eq_some_getLast (labels_ne_nil domain), Option.getD_some, List.all_eq_true]
  simp only [Char.isDigit, Bool.and_eq_true, decide_eq_true_eq]
  rfl

theorem isPlain_of_isWellFormed (wellFormed : IsWellFormed domain) : IsPlain domain :=
  ⟨fun label member => isLabel_iff.mpr (wellFormed.eachLabel label member),
    Bool.eq_false_iff.mpr fun isNumeric => wellFormed.top (isNumericTop_iff.mp isNumeric)⟩

theorem unbracketed_of_isPlain (plain : IsPlain domain) : unbracketed domain = domain := by
  unfold unbracketed
  split
  · exact absurd (plain.letters '[' List.mem_cons_self) (by decide)
  · rfl

/-- A fault that names the suffix the domain lies under. -/
inductive Fault.NamesSuffix : Fault → Prop
  | reserved (suffix : String) : NamesSuffix (.reserved suffix)
  | blocked (suffix : String) : NamesSuffix (.blocked suffix)

/-- The first suffix that a domain lies under, as a fault. Reserved ones come first. -/
def suffixFault? (blocked : List String) (domain : List Char) : Option Fault :=
  match suffixOver? reservedSuffixes domain with
  | some suffix => some (.reserved suffix)
  | none => (suffixOver? blocked domain).map .blocked

theorem namesSuffix_of_suffixFault? {fault : Fault} (isFault : suffixFault? blocked domain = some fault) :
    fault.NamesSuffix := by
  unfold suffixFault? at isFault
  split at isFault
  · cases isFault
    exact .reserved _
  · obtain ⟨suffix, -, rfl⟩ := Option.map_eq_some_iff.mp isFault
    exact .blocked suffix

theorem suffixFault?_eq_none_iff : suffixFault? blocked domain = none ↔
    ∀ suffix ∈ reservedSuffixes ++ blocked, ¬ labels suffix.toList <:+ labels domain := by
  have none_iff (suffixes : List String) : suffixOver? suffixes domain = none ↔
      ∀ suffix ∈ suffixes, ¬ labels suffix.toList <:+ labels domain := by
    simp only [suffixOver?, List.find?_eq_none, liesUnder_iff_labels]
  rw [List.forall_mem_append, ← none_iff, ← none_iff, suffixFault?]
  cases suffixOver? reservedSuffixes domain <;> simp

/-- All that is left to refuse a well-formed domain are the suffixes. -/
theorem fault?_of_isWellFormed (wellFormed : IsWellFormed domain) :
    fault? blocked domain = suffixFault? blocked domain := by
  have plain := isPlain_of_isWellFormed wellFormed
  have noAddress : Address.readLetters? (unbracketed domain) = none := by
    rw [unbracketed_of_isPlain plain, Option.eq_none_iff_forall_ne_some]
    intro address read
    have notPlain := not_isPlain_of_readLetters? read
    rw [plain.normalizeLetters_eq] at notPlain
    exact notPlain plain
  have allLabels : (labels domain).find? (fun label => !isLabel label) = none :=
    List.find?_eq_none.mpr fun label member => by simp [plain.labels label member]
  have fits : ¬ maxBytes < (Utf8.encode domain).length := Nat.not_lt.mpr wellFormed.size.2
  have notSingle : ¬ (labels domain).length < 2 := Nat.not_lt.mpr wellFormed.atLeastTwo
  simp only [fault?, plain.isEmpty_eq, if_neg fits, noAddress, allLabels, if_neg notSingle, plain.top,
    Bool.false_eq_true, if_false]
  rfl

/-- Only well-formed domains get as far as the suffixes. -/
theorem isWellFormed_iff : IsWellFormed domain ↔
    ∀ fault, fault? blocked domain = some fault → fault.NamesSuffix := by
  constructor
  · intro wellFormed fault isFault
    rw [fault?_of_isWellFormed wellFormed] at isFault
    exact namesSuffix_of_suffixFault? isFault
  · intro onlySuffixes
    unfold fault? at onlySuffixes
    split at onlySuffixes
    · cases onlySuffixes _ rfl
    · rename_i notEmpty
      split at onlySuffixes
      · cases onlySuffixes _ rfl
      · rename_i fits
        split at onlySuffixes
        · cases onlySuffixes _ rfl
        · split at onlySuffixes
          · cases onlySuffixes _ rfl
          · rename_i allLabels
            split at onlySuffixes
            · cases onlySuffixes _ rfl
            · rename_i notSingle
              split at onlySuffixes
              · cases onlySuffixes _ rfl
              · rename_i notNumeric
                refine ⟨⟨length_encode_pos notEmpty, Nat.le_of_not_lt fits⟩, Nat.le_of_not_lt notSingle,
                  fun label member => isLabel_iff.mp ?_,
                  fun isNumeric => notNumeric (isNumericTop_iff.mpr isNumeric)⟩
                simpa using List.find?_eq_none.mp allLabels label member

/-- What is accepted are the acceptable domains. -/
theorem fault?_eq_none_iff {entries : List String} :
    fault? (blockedSuffixes entries) domain = none ↔ IsAcceptable entries domain := by
  have outside_iff : suffixFault? (blockedSuffixes entries) domain = none ↔
      ∀ suffix ∈ reservedSuffixes ++ entries.map normalize, suffix ≠ "" →
        ¬ labels suffix.toList <:+ labels domain := by
    rw [suffixFault?_eq_none_iff, List.forall_mem_append, List.forall_mem_append]
    refine and_congr (forall₂_congr fun suffix member => ?_) ?_
    · have notEmpty : ∀ suffix ∈ reservedSuffixes, suffix ≠ "" := by decide
      exact ⟨fun outside _ => outside, fun outside => outside (notEmpty suffix member)⟩
    · simp [blockedSuffixes]
  constructor
  · intro accepted
    have wellFormed : IsWellFormed domain :=
      isWellFormed_iff.mpr fun fault isFault => by cases accepted.symm.trans isFault
    rw [fault?_of_isWellFormed wellFormed, outside_iff] at accepted
    exact ⟨wellFormed, accepted⟩
  · intro acceptable
    rw [fault?_of_isWellFormed acceptable.toIsWellFormed, outside_iff]
    exact acceptable.outside

end Faults

/-! ### What acceptance means -/

theorem validate_eq_ok_iff_isAcceptable {entries : List String} {text domain : String} :
    validate (blockedSuffixes entries) text = .ok domain ↔
      domain = normalize text ∧ IsAcceptable entries domain.toList := by
  rw [validate_eq_ok_iff, fault?_eq_none_iff, ← toList_normalize, and_comm]
  refine and_congr_right fun isNormal => ?_
  rw [isNormal]

theorem validate_eq_error_iff {blocked : List String} {text : String} {fault : Fault} :
    validate blocked text = .error fault ↔ fault? blocked (normalizeLetters text.toList) = some fault := by
  unfold validate
  cases fault? blocked (normalizeLetters text.toList) <;> simp

/-- Whatever is written like an address, in brackets or not, is refused. -/
theorem exists_fault_of_literal {blocked : List String} {literal text : String}
    (isLiteral : (Address.ofLiteral? literal).isSome = true)
    (written : normalize text = normalize literal ∨ normalize text = normalize ("[" ++ literal ++ "]")) :
    ∃ fault, validate blocked text = .error fault := by
  cases validated : validate blocked text with
  | error fault => exact ⟨fault, rfl⟩
  | ok domain =>
    have plain := isPlain_of_validate validated
    rw [← normalize_of_validate validated] at plain
    rcases written with bare | bracketed
    · obtain ⟨address, read⟩ := Option.isSome_iff_exists.mp isLiteral
      rw [bare, toList_normalize] at plain
      exact absurd plain (not_isPlain_of_readLetters? read)
    · rw [bracketed, toList_normalize] at plain
      have bracket : '[' ∈ ("[" ++ literal ++ "]").toList := by simp
      have kept := mem_normalizeLetters bracket (by decide) (by decide)
      exact absurd (plain.letters _ kept) (by decide)

/-- Labels in front of a well-formed domain leave it well-formed, as long as it is not too long. -/
theorem isWellFormed_prepend {front : List (List Char)} {domain longer : List Char}
    (wellFormed : IsWellFormed domain) (areLabels : ∀ label ∈ front, IsLabel label)
    (sameLabels : labels longer = front ++ labels domain) (fits : (Utf8.encode longer).length ≤ 253) :
    IsWellFormed longer := by
  have atLeastTwo : 2 ≤ (labels longer).length := by
    rw [sameLabels, List.length_append]
    exact Nat.le_add_left_of_le wellFormed.atLeastTwo
  have notEmpty : ¬ longer.isEmpty = true := by
    intro isEmpty
    rw [List.isEmpty_iff.mp isEmpty] at atLeastTwo
    exact absurd atLeastTwo (by decide)
  refine ⟨⟨length_encode_pos notEmpty, fits⟩, atLeastTwo, ?_, ?_⟩
  · rw [sameLabels, List.forall_mem_append]
    exact ⟨areLabels, wellFormed.eachLabel⟩
  · simp only [sameLabels, List.getLast_append_of_ne_nil _ (labels_ne_nil domain)]
    exact wellFormed.top

/-- What a suffix refuses, it refuses below as well. -/
theorem exists_suffixFault_prepend {blocked : List String} {front : List (List Char)}
    {domain longer : List Char} {fault : Fault} (isFault : fault? blocked domain = some fault)
    (namesSuffix : fault.NamesSuffix) (areLabels : ∀ label ∈ front, IsLabel label)
    (written : longer = ['.'].intercalate (front ++ labels domain))
    (fits : (Utf8.encode longer).length ≤ 253) :
    ∃ other, fault? blocked longer = some other ∧ other.NamesSuffix := by
  have wellFormed : IsWellFormed domain := isWellFormed_iff.mpr fun other isOther => by
    cases isFault.symm.trans isOther
    exact namesSuffix
  have sameLabels : labels longer = front ++ labels domain := by
    rw [written]
    refine labels_intercalate (List.forall_mem_append.mpr ⟨?_, ?_⟩) ?_
    · exact fun label member => (areLabels label member).noDot
    · exact fun label member => (wellFormed.eachLabel label member).noDot
    · exact List.append_ne_nil_of_right_ne_nil _ (labels_ne_nil domain)
  have longerIsWellFormed := isWellFormed_prepend wellFormed areLabels sameLabels fits
  have notNone : suffixFault? blocked longer ≠ none := by
    intro isNone
    rw [fault?_of_isWellFormed wellFormed] at isFault
    have outside := suffixFault?_eq_none_iff.mp isNone
    have noFault : suffixFault? blocked domain = none :=
      suffixFault?_eq_none_iff.mpr fun suffix member below => outside suffix member
        (below.trans (sameLabels ▸ List.suffix_append front (labels domain)))
    cases noFault.symm.trans isFault
  obtain ⟨other, isOther⟩ := Option.ne_none_iff_exists'.mp notNone
  exact ⟨other, (fault?_of_isWellFormed longerIsWellFormed).trans isOther,
    namesSuffix_of_suffixFault? isOther⟩

theorem IsAcceptable.mono {entries more : List String} {domain : List Char} (subset : entries ⊆ more)
    (acceptable : IsAcceptable more domain) : IsAcceptable entries domain := by
  refine ⟨acceptable.toIsWellFormed, fun suffix member => acceptable.outside suffix ?_⟩
  rcases List.mem_append.mp member with isReserved | isEntry
  · exact List.mem_append_left _ isReserved
  · exact List.mem_append_right _ (List.map_subset normalize subset isEntry)

/-- A text is accepted, as its normal form, exactly when that is an acceptable domain by its labels.
So what is accepted stays as it is and is accepted again; nothing that is written like an address is
accepted; more entries of the operator accept less; and what is refused for a suffix is refused for one
below as well, as long as it is not too long. -/
theorem validate_follows_grammar (entries : List String) :
    let blocked := blockedSuffixes entries
    (∀ text domain, validate blocked text = .ok domain ↔
      domain = normalize text ∧ IsAcceptable entries domain.toList) ∧
    (∀ text domain, validate blocked text = .ok domain →
      normalize domain = domain ∧ validate blocked domain = .ok domain) ∧
    (∀ literal text, (Address.ofLiteral? literal).isSome = true →
      normalize text = normalize literal ∨ normalize text = normalize ("[" ++ literal ++ "]") →
      ∃ fault, validate blocked text = .error fault) ∧
    (∀ more text domain, entries ⊆ more → validate (blockedSuffixes more) text = .ok domain →
      validate blocked text = .ok domain) ∧
    (∀ text fault, validate blocked text = .error fault → fault.NamesSuffix →
      ∀ (front : List (List Char)) (longer : String), (∀ label ∈ front, IsLabel label) →
        (normalize longer).toList = ['.'].intercalate (front ++ labels (normalize text).toList) →
        (Utf8.bytes (normalize longer)).length ≤ 253 →
        ∃ other, validate blocked longer = .error other ∧ other.NamesSuffix) := by
  refine ⟨fun text domain => validate_eq_ok_iff_isAcceptable, fun text domain accepted => ?_,
    fun literal text isLiteral written => exists_fault_of_literal isLiteral written,
    fun more text domain subset accepted => ?_,
    fun text fault refused namesSuffix front longer areLabels written fits => ?_⟩
  · have again := validate_of_validate accepted
    exact ⟨normalize_of_validate again, again⟩
  · obtain ⟨isNormal, acceptable⟩ := validate_eq_ok_iff_isAcceptable.mp accepted
    exact validate_eq_ok_iff_isAcceptable.mpr ⟨isNormal, acceptable.mono subset⟩
  · rw [validate_eq_error_iff, ← toList_normalize] at refused
    obtain ⟨other, isOther, otherNamesSuffix⟩ :=
      exists_suffixFault_prepend refused namesSuffix areLabels written fits
    rw [toList_normalize] at isOther
    exact ⟨other, validate_eq_error_iff.mpr isOther, otherNamesSuffix⟩

end DomainName

end HandleFederation
