/-
This file says what becomes of an address that stands where a domain is wanted. As a domain it is
refused with a word for its range, and as the name of a host it is looked up and then let through
or not. Both speak of the same address, though a domain is trimmed and brought to lower case before
it is looked at and may be too long to be looked at: the notations of addresses are short, have
nothing to trim and are read the same in lower case. That the two agree is then about the ranges
alone, where the word is found by other tests than the decision.
-/

import HandleFederation.Proofs.AddressRange
import HandleFederation.Proofs.DomainGrammar
import HandleFederation.Proofs.HomeDomain
import HandleFederation.Transport

namespace HandleFederation

open Text Unicode

/-! ### The word for a range -/

theorem Ipv6.lead_of_holds {address : Ipv6} {inner : Ipv4} (holds : address.Holds inner) :
    address.lead = 0 ∧ address.isLoopback = false := by
  have inRow := Ipv6.holds_iff.mp holds
  obtain ⟨second, others, lead, -⟩ := address.exists_toList_segments
  refine ⟨(List.cons.inj (lead.symm.trans inRow)).1, ?_⟩
  rw [isLoopback, inRow, beq_eq_false_iff_ne]
  simp [Ipv4.toSegments]

namespace Address

variable {address : Address}

/-- The tests that come before the last one find no public address. -/
theorem not_isPublic_of_named (named : address.isLoopback = true ∨ address.isLocalNetwork = true ∨
    address.isLinkLocal = true ∨ address.isMulticast = true) : address.isPublic = false := by
  cases address with
  | v4 address =>
    simp only [isLoopback, isLocalNetwork, isLinkLocal, isMulticast] at named
    rcases named with found | found | found | found <;> simp [isPublic, Ipv4.isPublic, found]
  | v6 address =>
    simp only [isLoopback, isLocalNetwork, isLinkLocal, isMulticast] at named
    rw [isPublic, Ipv6.isPublic]
    cases mapped : address.mapped? with
    | none => rcases named with found | found | found | found <;> simp [found]
    | some inner =>
      -- An address that holds another one starts with zeros, so none of the tests finds it.
      obtain ⟨lead, notLoopback⟩ := Ipv6.lead_of_holds (Ipv6.mapped?_eq_some_iff.mp mapped)
      simp [notLoopback, Ipv6.isUniqueLocal, Ipv6.isLinkLocal, Ipv6.isMulticast, lead] at named

/-- Nothing but a public address is called one. -/
theorem reach_eq_anywhere_iff : address.reach = .anywhere ↔ address.isPublic = true := by
  rw [reach]
  split_ifs with isLoopback isLocalNetwork isLinkLocal isMulticast isPublic
  · simp [not_isPublic_of_named (.inl isLoopback)]
  · simp [not_isPublic_of_named (.inr (.inl isLocalNetwork))]
  · simp [not_isPublic_of_named (.inr (.inr (.inl isLinkLocal)))]
  · simp [not_isPublic_of_named (.inr (.inr (.inr isMulticast)))]
  · exact iff_of_true rfl isPublic
  · exact iff_of_false nofun isPublic

theorem Reach.word_eq_public_iff {reach : Reach} : reach.word = "public" ↔ reach = .anywhere := by
  cases reach <;> decide

end Address

/-! ### Reading in lower case -/

/-- What was read, with the rest in lower case. -/
def restInLowerCase {Value : Type} (read : Value × List Char) : Value × List Char :=
  (read.1, read.2.map Char.toLower)

/-- A letter as a part of an address: whether it is a digit, whether it is a hexadecimal one and which, and
whether it is one of the marks. -/
def addressPart (letter : Char) : Bool × Bool × Nat × Bool × Bool :=
  (letter.isDigit, isHexDigit letter, if isHexDigit letter then hexDigitValue letter else 0, letter == '.',
    letter == ':')

/-- The case of a letter does not matter in an address. -/
theorem addressPart_toLower (letter : Char) : addressPart letter.toLower = addressPart letter :=
  apply_toLower addressPart (by decide +kernel) letter

theorem isDigit_toLower (letter : Char) : letter.toLower.isDigit = letter.isDigit :=
  congrArg Prod.fst (addressPart_toLower letter)

theorem isHexDigit_toLower (letter : Char) : isHexDigit letter.toLower = isHexDigit letter :=
  congrArg (fun part => part.2.1) (addressPart_toLower letter)

theorem isDot_toLower (letter : Char) : (letter.toLower == '.') = (letter == '.') :=
  congrArg (fun part => part.2.2.2.1) (addressPart_toLower letter)

theorem isColon_toLower (letter : Char) : (letter.toLower == ':') = (letter == ':') :=
  congrArg (fun part => part.2.2.2.2) (addressPart_toLower letter)

theorem hexDigitValue_toLower {letter : Char} (isDigit : isHexDigit letter = true) :
    hexDigitValue letter.toLower = hexDigitValue letter := by
  have same : (if isHexDigit letter.toLower then hexDigitValue letter.toLower else 0) =
      if isHexDigit letter then hexDigitValue letter else 0 :=
    congrArg (fun part => part.2.2.1) (addressPart_toLower letter)
  rwa [isHexDigit_toLower, if_pos isDigit, if_pos isDigit] at same

section LowerCase

variable {letters : List Char}

theorem takeWhile_toLower {test : Char → Bool} (kept : ∀ letter : Char, test letter.toLower = test letter) :
    (letters.map Char.toLower).takeWhile test = (letters.takeWhile test).map Char.toLower := by
  rw [List.takeWhile_map]
  exact congrArg (fun test => (letters.takeWhile test).map Char.toLower) (funext kept)

theorem digits_toLower :
    (letters.map Char.toLower).takeWhile Char.isDigit = letters.takeWhile Char.isDigit := by
  rw [takeWhile_toLower isDigit_toLower]
  refine (List.map_congr_left fun digit member => ?_).trans (List.map_id _)
  have isDigit : digit.isDigit = true := List.mem_takeWhile_imp member
  exact DomainName.toLower_of_isLetter (by simp [DomainName.isLetter, DomainName.isLabelLetter, isDigit])

theorem readHex_toLower {digits : List Char} (areDigits : ∀ digit ∈ digits, isHexDigit digit = true) :
    readHex (digits.map Char.toLower) = readHex digits := by
  rw [readHex, readHex, List.foldl_map]
  refine List.foldl_ext _ _ 0 fun value digit member => ?_
  rw [hexDigitValue_toLower (areDigits digit member)]

theorem readMark_toLower {mark : Char} (kept : ∀ letter : Char, (letter.toLower == mark) = (letter == mark)) :
    readMark mark (letters.map Char.toLower) = (readMark mark letters).map (List.map Char.toLower) := by
  cases letters with
  | nil => rfl
  | cons letter rest =>
    rw [List.map_cons, readMark, readMark, kept]
    split <;> rfl

theorem readOctet_toLower :
    readOctet (letters.map Char.toLower) = (readOctet letters).map restInLowerCase := by
  unfold readOctet
  rw [digits_toLower]
  dsimp only
  rw [← List.map_drop]
  split
  · rfl
  · split <;> rfl

theorem readSegment_toLower :
    readSegment (letters.map Char.toLower) = (readSegment letters).map restInLowerCase := by
  unfold readSegment
  rw [takeWhile_toLower isHexDigit_toLower]
  dsimp only
  rw [List.isEmpty_map, List.length_map, readHex_toLower fun digit member => List.mem_takeWhile_imp member,
    ← List.map_drop]
  split <;> rfl

theorem read_toLower :
    Ipv4.read (letters.map Char.toLower) = (Ipv4.read letters).map restInLowerCase := by
  have dot (letters : List Char) :
      readMark '.' (letters.map Char.toLower) = (readMark '.' letters).map (List.map Char.toLower) :=
    readMark_toLower isDot_toLower
  simp only [Ipv4.read, Option.bind_eq_bind, readOctet_toLower, dot, Option.bind_map, Option.map_bind,
    Function.comp_def, restInLowerCase, Option.pure_def, Option.map_some]

theorem readColon_toLower :
    readMark ':' (letters.map Char.toLower) = (readMark ':' letters).map (List.map Char.toLower) :=
  readMark_toLower isColon_toLower

/-- A run of segments with the rest in lower case. -/
def SegmentRun.restInLowerCase (run : SegmentRun) : SegmentRun :=
  { run with rest := run.rest.map Char.toLower }

theorem readSegments_toLower (room : Nat) (isFirst : Bool) (letters : List Char) :
    readSegments room isFirst (letters.map Char.toLower) =
      (readSegments room isFirst letters).restInLowerCase := by
  induction room generalizing isFirst letters with
  | zero => rfl
  | succ room inductionHypothesis =>
    have front : (if isFirst then some (letters.map Char.toLower)
        else readMark ':' (letters.map Char.toLower)) =
        (if isFirst then some letters else readMark ':' letters).map (List.map Char.toLower) := by
      cases isFirst
      · exact readColon_toLower
      · rfl
    rw [readSegments, readSegments, front]
    cases if isFirst then some letters else readMark ':' letters with
    | none => rfl
    | some body =>
      have inner : (if room = 0 then none else Ipv4.read (body.map Char.toLower)) =
          (if room = 0 then none else Ipv4.read body).map restInLowerCase := by
        split
        · rfl
        · exact read_toLower
      rw [Option.map_some]
      dsimp only
      rw [inner]
      cases if room = 0 then none else Ipv4.read body with
      | some read => rfl
      | none =>
        rw [Option.map_none]
        dsimp only
        rw [readSegment_toLower]
        cases readSegment body with
        | none => rfl
        | some read =>
          rw [Option.map_some]
          dsimp only [HandleFederation.restInLowerCase]
          rw [inductionHypothesis]
          rfl

theorem read?_toLower : Ipv6.read? (letters.map Char.toLower) = Ipv6.read? letters := by
  unfold Ipv6.read?
  rw [readSegments_toLower]
  dsimp only [SegmentRun.restInLowerCase]
  rw [List.isEmpty_map, readColon_toLower]
  split
  · rfl
  · split
    · rfl
    · simp only [Option.bind_eq_bind, Option.bind_map, Function.comp_def, readColon_toLower, readSegments_toLower,
        SegmentRun.restInLowerCase, List.isEmpty_map]

/-- Addresses are read the same in lower case. -/
theorem readLetters?_toLower :
    Address.readLetters? (letters.map Char.toLower) = Address.readLetters? letters := by
  unfold Address.readLetters?
  rw [read_toLower, read?_toLower]
  rcases Ipv4.read letters with _ | ⟨address, _ | ⟨letter, rest⟩⟩ <;> rfl

end LowerCase

/-! ### How long a notation is -/

/-- A character of an address: a hexadecimal digit, a dot or a colon. -/
def isAddressLetter (letter : Char) : Bool :=
  isHexDigit letter || letter == '.' || letter == ':'

/-- What is taken from the front of some letters to leave the rest: at most so many characters of
addresses, the last of them no dot. -/
def Takes (most : Nat) (letters rest : List Char) : Prop :=
  ∃ front, letters = front ++ rest ∧ front.length ≤ most ∧
    (∀ letter ∈ front, isAddressLetter letter = true) ∧ front.getLast? ≠ some '.'

section Lengths

variable {most more : Nat} {letters between rest : List Char}

theorem Takes.none (most : Nat) (letters : List Char) : Takes most letters letters :=
  ⟨[], rfl, Nat.zero_le most, List.forall_mem_nil _, nofun⟩

theorem Takes.mono (le : most ≤ more) (takes : Takes most letters rest) : Takes more letters rest := by
  obtain ⟨front, written, few, areLetters, noDot⟩ := takes
  exact ⟨front, written, few.trans le, areLetters, noDot⟩

theorem Takes.trans (first : Takes most letters between) (second : Takes more between rest) :
    Takes (most + more) letters rest := by
  obtain ⟨front, rfl, few, areLetters, noDot⟩ := first
  obtain ⟨middle, rfl, fewMore, areLettersToo, noDotEither⟩ := second
  refine ⟨front ++ middle, (List.append_assoc _ _ _).symm, ?_,
    List.forall_mem_append.mpr ⟨areLetters, areLettersToo⟩, ?_⟩
  · rw [List.length_append]
    exact Nat.add_le_add few fewMore
  · rw [List.getLast?_append]
    cases last : middle.getLast? with
    | none => exact noDot
    | some letter =>
      rw [last] at noDotEither
      exact noDotEither

theorem takes_of_readColon (read : readMark ':' letters = some rest) : Takes 1 letters rest :=
  ⟨[':'], readMark_eq_some read, Nat.le_refl 1, List.forall_mem_singleton.mpr (by decide), by decide⟩

theorem isAddressLetter_of_isDigit {letter : Char} (isDigit : letter.isDigit = true) :
    isAddressLetter letter = true := by
  simp [isAddressLetter, isHexDigit, isDigit]

theorem ne_dot_of_getLast? {digits : List Char} (areDigits : ∀ digit ∈ digits, isHexDigit digit = true) :
    digits.getLast? ≠ some '.' := by
  intro isLast
  exact absurd (areDigits '.' (List.mem_of_getLast? isLast)) (by decide)

theorem takes_of_readSegment {segment : UInt16} (read : readSegment letters = some (segment, rest)) :
    Takes 4 letters rest := by
  unfold readSegment at read
  dsimp only at read
  split at read
  · cases read
  · rename_i fits
    cases read
    simp only [Bool.or_eq_true, decide_eq_true_eq, not_or] at fits
    have areDigits : ∀ digit ∈ letters.takeWhile isHexDigit, isHexDigit digit = true := fun digit member =>
      List.mem_takeWhile_imp member
    refine ⟨letters.takeWhile isHexDigit, ?_, Nat.le_of_not_lt fits.2, fun digit member => ?_,
      ne_dot_of_getLast? areDigits⟩
    · exact (List.prefix_iff_eq_append.mp (List.takeWhile_prefix _)).symm
    · simp [isAddressLetter, areDigits digit member]

theorem takes_of_read {address : Ipv4} (read : Ipv4.read letters = some (address, rest)) :
    Takes 15 letters rest := by
  obtain ⟨front, digits, rfl, ⟨few, fewDigits⟩, characters, notEmpty, areDigits⟩ := exists_digits_of_read read
  refine ⟨front ++ '.' :: digits, by simp, ?_, ?_, ?_⟩
  · rw [List.length_append, List.length_cons]
    omega
  · intro letter member
    rcases List.mem_append.mp member with inFront | later
    · rcases characters letter inFront with isDigit | rfl
      · exact isAddressLetter_of_isDigit isDigit
      · decide
    · rcases List.mem_cons.mp later with rfl | inDigits
      · decide
      · exact isAddressLetter_of_isDigit (areDigits letter inDigits)
  · rw [List.getLast?_append_of_ne_nil _ (List.cons_ne_nil _ _), List.getLast?_cons_of_ne_nil notEmpty]
    refine ne_dot_of_getLast? fun digit member => ?_
    simp [isHexDigit, areDigits digit member]

/-- Each segment takes a colon and four digits, and only the last can be an address of version 4. -/
theorem takes_readSegments (room : Nat) (isFirst : Bool) (letters : List Char) :
    Takes (5 * room + 11) letters (readSegments room isFirst letters).rest := by
  induction room generalizing isFirst letters with
  | zero => exact Takes.none _ letters
  | succ room inductionHypothesis =>
    rw [readSegments]
    split
    · exact Takes.none _ letters
    · rename_i body isBody
      have colon : Takes 1 letters body := by
        cases isFirst with
        | true =>
          cases isBody
          exact Takes.none 1 letters
        | false => exact takes_of_readColon isBody
      split
      · rename_i read
        split at read
        · cases read
        · exact (colon.trans (takes_of_read read)).mono (by omega)
      · split
        · exact Takes.none _ letters
        · rename_i read
          exact ((colon.trans (takes_of_readSegment read)).trans (inductionHypothesis false _)).mono (by omega)

theorem takes_of_readLetters? {address : Address} (read : Address.readLetters? letters = some address) :
    Takes 100 letters [] := by
  unfold Address.readLetters? at read
  split at read
  · rename_i readV4
    exact (takes_of_read readV4).mono (by decide)
  · cases read
  · obtain ⟨inner, readV6, -⟩ := Option.map_eq_some_iff.mp read
    unfold Ipv6.read? at readV6
    dsimp only at readV6
    have front := takes_readSegments 8 true letters
    by_cases full : (readSegments 8 true letters).segments.length = 8
    · rw [if_pos full] at readV6
      split at readV6
      · rename_i isEmpty
        rw [List.isEmpty_iff.mp isEmpty] at front
        exact front.mono (by decide)
      · cases readV6
    · rw [if_neg full] at readV6
      split_ifs at readV6
      simp only [Option.bind_eq_bind, Option.bind_eq_some_iff] at readV6
      obtain ⟨_, colon, afterColons, otherColon, readV6⟩ := readV6
      have back := takes_readSegments (7 - (readSegments 8 true letters).segments.length) true afterColons
      split at readV6
      · rename_i isEmpty
        rw [List.isEmpty_iff.mp isEmpty] at back
        exact (((front.trans (takes_of_readColon colon)).trans (takes_of_readColon otherColon)).trans back).mono
          (by omega)
      · cases readV6

end Lengths

/-! ### Domains that are addresses -/

namespace DomainName

variable {blocked : List String} {letters : List Char} {address : Address}

theorem toNat_lt_of_isAddressLetter {letter : Char} (isLetter : isAddressLetter letter = true) :
    letter.toNat < 0x80 := by
  simp only [isAddressLetter, isHexDigit, Bool.or_eq_true, Bool.and_eq_true, decide_eq_true_eq,
    beq_iff_eq] at isLetter
  rcases isLetter with (((isDigit | isSmall) | isCapital) | rfl) | rfl
  · exact Nat.lt_of_le_of_lt (Utf8.toNat_of_between '0' '9' letter isDigit).2 (by decide)
  · exact Nat.lt_of_le_of_lt (show letter.toNat ≤ 'f'.toNat from isSmall.2) (by decide)
  · exact Nat.lt_of_le_of_lt (show letter.toNat ≤ 'F'.toNat from isCapital.2) (by decide)
  · decide
  · decide

theorem isBlank_of_isAddressLetter {letter : Char} (isLetter : isAddressLetter letter = true) :
    isBlank letter = false :=
  forall_ascii (fun letter => isAddressLetter letter = true → isBlank letter = false) (by decide +kernel)
    (toNat_lt_of_isAddressLetter isLetter) isLetter

/-- An address is found if there is room for its notation. -/
theorem fault?_of_unbracketed (fits : (Utf8.encode letters).length ≤ maxBytes)
    (read : Address.readLetters? (unbracketed letters) = some address) :
    fault? blocked letters = some (.addressLiteral address.reach) := by
  have notEmpty : ¬ letters.isEmpty = true := by
    intro isEmpty
    rw [List.isEmpty_iff.mp isEmpty] at read
    cases read
  rw [fault?, if_neg notEmpty, if_neg (Nat.not_lt.mpr fits), read]

/-- A notation with nothing but brackets around it is short and has nothing to trim. -/
theorem fault?_of_readLetters? (read : Address.readLetters? letters = some address) :
    fault? blocked (normalizeLetters letters) = some (.addressLiteral address.reach) ∧
      fault? blocked (normalizeLetters ('[' :: (letters ++ [']']))) =
        some (.addressLiteral address.reach) := by
  obtain ⟨front, written, few, areLetters, noDot⟩ := takes_of_readLetters? read
  rw [List.append_nil] at written
  subst written
  have noBlank : ∀ letter ∈ letters, isBlank letter = false := fun letter member =>
    isBlank_of_isAddressLetter (areLetters letter member)
  have lowerLetters : ∀ letter ∈ letters.map Char.toLower, isAddressLetter letter = true := by
    refine List.forall_mem_map.mpr fun letter member => ?_
    rw [isAddressLetter, isHexDigit_toLower, isDot_toLower, isColon_toLower]
    exact areLetters letter member
  have ascii : ∀ letter ∈ letters.map Char.toLower, letter.toNat < 0x80 := fun letter member =>
    toNat_lt_of_isAddressLetter (lowerLetters letter member)
  have normal : normalizeLetters letters = letters.map Char.toLower := by
    rw [normalizeLetters, trimLetters, stripWhile_eq_self noBlank, dropTrailingDot, if_neg noDot]
  have normalInBrackets :
      normalizeLetters ('[' :: (letters ++ [']'])) = '[' :: (letters.map Char.toLower ++ [']']) := by
    have last : ('[' :: (letters ++ [']'])).getLast? = some ']' := by
      rw [← List.cons_append, List.getLast?_concat]
    have trimmed : trimLetters ('[' :: (letters ++ [']'])) = '[' :: (letters ++ [']']) :=
      trimLetters_eq_self (by simp; decide) (by simp [last]; decide)
    rw [normalizeLetters, trimmed, dropTrailingDot, last, if_neg (by decide)]
    simp
  have bare : unbracketed (letters.map Char.toLower) = letters.map Char.toLower := by
    unfold unbracketed
    split
    · rename_i rest isBracket
      exact absurd (lowerLetters '[' (isBracket ▸ List.mem_cons_self)) (by decide)
    · rfl
  have inside : unbracketed ('[' :: (letters.map Char.toLower ++ [']'])) = letters.map Char.toLower := by
    simp [unbracketed]
  have readLower := readLetters?_toLower.trans read
  constructor
  · rw [normal]
    refine fault?_of_unbracketed ?_ (bare.symm ▸ readLower)
    rw [length_encode_of_ascii ascii, List.length_map]
    exact few.trans (by decide)
  · rw [normalInBrackets]
    refine fault?_of_unbracketed ?_ (inside.symm ▸ readLower)
    rw [length_encode_of_ascii]
    · simp only [List.length_cons, List.length_append, List.length_map, List.length_nil]
      exact (Nat.add_le_add_right (Nat.add_le_add_right few 1) 1).trans (by decide)
    · refine List.forall_mem_cons.mpr ⟨by decide, List.forall_mem_append.mpr ⟨ascii, ?_⟩⟩
      exact List.forall_mem_singleton.mpr (by decide)

/-- A domain that is the notation of an address, in brackets or not, is refused with a word for the range
of the address. -/
theorem validate_of_literal {blocked : List String} {literal text : String} {address : Address}
    (isLiteral : Address.ofLiteral? literal = some address)
    (written : normalize text = normalize literal ∨ normalize text = normalize ("[" ++ literal ++ "]")) :
    validate blocked text = .error (.addressLiteral address.reach) := by
  rw [validate_eq_error_iff, ← toList_normalize]
  have bare : fault? blocked (normalizeLetters literal.toList) = some (.addressLiteral address.reach) :=
    (fault?_of_readLetters? isLiteral).1
  have bracketed : fault? blocked (normalizeLetters ('[' :: (literal.toList ++ [']']))) =
      some (.addressLiteral address.reach) := (fault?_of_readLetters? isLiteral).2
  rcases written with same | same
  · rw [same, toList_normalize, bare]
  · rw [same, toList_normalize, String.toList_append, String.toList_append]
    exact bracketed

end DomainName

/-! ### Hosts that are addresses -/

/-- Looks up a name and lets its addresses through if there are some and every one is public. -/
def guardedLookup (lookup : String → Except String (List Address)) (host : String) :
    Except String (List Address) := do
  guardAddresses host (← lookup host)

/-- A lookup that takes the notation of an address for that address and asks nobody about it. -/
def KnowsLiterals (lookup : String → Except String (List Address)) : Prop :=
  ∀ literal address, Address.ofLiteral? literal = some address → lookup literal = .ok [address]

/-- A lookup that knows nothing but the notations of addresses. -/
def lookupLiteral (name : String) : Except String (List Address) :=
  match Address.ofLiteral? name with
  | some address => .ok [address]
  | none => .error "failed to lookup address information"

theorem knowsLiterals_lookupLiteral : KnowsLiterals lookupLiteral := fun literal address isLiteral => by
  rw [lookupLiteral, isLiteral]

theorem guardedLookup_of_literal {lookup : String → Except String (List Address)} {literal : String}
    {address : Address} (isItself : lookup literal = .ok [address]) :
    guardedLookup lookup literal = if address.isPublic then .ok [address]
      else .error s!"{literal} resolves to internal address {address.literal}" := by
  rw [guardedLookup, isItself]
  cases isPublic : address.isPublic <;> simp [guardAddresses, isPublic, Except.bind, bind]

namespace Address

/-- An address of version 4 is public unless it is in one of the ranges that are set aside, and so is one of
version 6, but that one which holds an address of version 4 counts as that. Where an address stands for a
domain the word it is refused with is `public` exactly for the public ones, and where it stands for the name
of a host exactly these are let through. -/
theorem isPublic_decides :
    (∀ address : Ipv4, address.isPublic = false ↔ ∃ range ∈ Ipv4.setAside, address.IsIn range.1 range.2) ∧
    (∀ (address : Ipv6) (inner : Ipv4), address.Holds inner → address.isPublic = inner.isPublic) ∧
    (∀ address : Ipv6, (∀ inner, ¬ address.Holds inner) →
      (address.isPublic = false ↔ ∃ range ∈ Ipv6.setAside, address.IsIn range.1 range.2)) ∧
    (∀ (blocked : List String) (literal text : String) (address : Address), ofLiteral? literal = some address →
      DomainName.normalize text = DomainName.normalize literal ∨
        DomainName.normalize text = DomainName.normalize ("[" ++ literal ++ "]") →
      ∃ reach, DomainName.validate blocked text = .error (.addressLiteral reach) ∧
        (reach.word = "public" ↔ address.isPublic = true)) ∧
    (∀ lookup, KnowsLiterals lookup → ∀ (literal : String) (address : Address), ofLiteral? literal = some address →
      (guardedLookup lookup literal = .ok [address] ↔ address.isPublic = true) ∧
      (address.isPublic = false → guardedLookup lookup literal =
        .error s!"{literal} resolves to internal address {address.literal}")) := by
  refine ⟨fun address => Ipv4.isPublic_eq_false_iff_isIn, fun address inner => Ipv6.isPublic_of_holds,
    fun address => Ipv6.isPublic_eq_false_iff_isIn, fun blocked literal text address isLiteral written => ?_,
    fun lookup knows literal address isLiteral => ?_⟩
  · exact ⟨address.reach, DomainName.validate_of_literal isLiteral written,
      Reach.word_eq_public_iff.trans reach_eq_anywhere_iff⟩
  · rw [guardedLookup_of_literal (knows literal address isLiteral)]
    cases address.isPublic <;> simp

/-- An address that holds a private one is no more public than that, and one of the local link is neither
accepted as a domain, in whatever case it is written, nor let through as a host. -/
theorem isPublic_decides_inside :
    (⟨#v[0, 0, 0, 0, 0, 0xFFFF, 0x0A00, 1]⟩ : Ipv6).isPublic = (⟨10, 0, 0, 1⟩ : Ipv4).isPublic ∧
    (∃ range ∈ Ipv6.setAside, (⟨#v[0xFE80, 0, 0, 0, 0, 0, 0, 1]⟩ : Ipv6).IsIn range.1 range.2) ∧
    (∃ reach, DomainName.validate [] " [FE80::1]. " = .error (.addressLiteral reach) ∧ reach.word ≠ "public") ∧
    guardedLookup lookupLiteral "fe80::1" = .error "fe80::1 resolves to internal address fe80::1" ∧
    guardedLookup lookupLiteral "::ffff:1.1.1.1" =
      .ok [.v6 ⟨#v[0, 0, 0, 0, 0, 0xFFFF, 0x0101, 0x0101]⟩] := by
  obtain ⟨-, asInner, byRange, asDomain, asHost⟩ := isPublic_decides
  have holdsNone : ∀ inner, ¬ (⟨#v[0xFE80, 0, 0, 0, 0, 0, 0, 1]⟩ : Ipv6).Holds inner := by
    intro inner holds
    have isMapped := Ipv6.mapped?_eq_some_iff.mpr holds
    rw [show (⟨#v[0xFE80, 0, 0, 0, 0, 0, 0, 1]⟩ : Ipv6).mapped? = none by decide] at isMapped
    cases isMapped
  have isLiteral : ofLiteral? "fe80::1" = some (.v6 ⟨#v[0xFE80, 0, 0, 0, 0, 0, 0, 1]⟩) := by decide +kernel
  have isHost := asHost lookupLiteral knowsLiterals_lookupLiteral
  refine ⟨asInner _ _ (by decide +kernel), (byRange _ holdsNone).mp (by decide), ?_, ?_, ?_⟩
  · obtain ⟨reach, refused, word⟩ := asDomain [] "fe80::1" " [FE80::1]. " _ isLiteral (.inr (by decide +kernel))
    exact ⟨reach, refused, fun isPublic => absurd (word.mp isPublic) (by decide)⟩
  · exact (isHost "fe80::1" _ isLiteral).2 (by decide)
  · exact (isHost "::ffff:1.1.1.1" _ (by decide +kernel)).1.mpr (by decide)

end Address

end HandleFederation
