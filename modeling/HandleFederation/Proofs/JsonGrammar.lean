/-
This file says what a document is, and that the reader accepts documents and nothing else. The
grammar tells how every value is spelled, with gaps wherever they may stand, and shares nothing
with the reader but the tables of escapes. The reader takes one part after another off the front
of a text, with a bound on its steps; the proofs go by that bound. In the one direction what was
taken off is spelled as the grammar has it, and in the other the bound is never reached, because
each step takes a letter.
-/

import HandleFederation.Proofs.JsonTokens

namespace HandleFederation.Json

/-! ### The grammar -/

mutual

/-- How a value is spelled, from its first letter to its last one. -/
inductive Spells : Json → List Char → Prop
  | null : Spells .null ['n', 'u', 'l', 'l']
  | true : Spells (.bool true) ['t', 'r', 'u', 'e']
  | false : Spells (.bool false) ['f', 'a', 'l', 's', 'e']
  | number {literal : List Char} (isNumber : IsNumber literal) : Spells (.number literal) literal
  | string {text : String} {letters : List Char} (spells : SpellsText text.toList letters) :
    Spells (.string text) ('"' :: letters ++ ['"'])
  | emptyArray {gap : List Char} (blank : IsGap gap) : Spells (.array []) ('[' :: gap ++ [']'])
  | array {first : Json} {others : List Json} {gap spelling rest : List Char} (blank : IsGap gap)
    (spells : Spells first spelling) (spellsOthers : SpellsElements others rest) :
    Spells (.array (first :: others)) ('[' :: gap ++ spelling ++ rest)
  | emptyObject {gap : List Char} (blank : IsGap gap) : Spells (.object []) ('\x7b' :: gap ++ ['\x7d'])
  | object {first : String × Json} {others : List (String × Json)} {gap spelling rest : List Char}
    (blank : IsGap gap) (spells : SpellsMember first spelling) (spellsOthers : SpellsMembers others rest) :
    Spells (.object (first :: others)) ('\x7b' :: gap ++ spelling ++ rest)

/-- How the elements of an array after its first are spelled, and its end. -/
inductive SpellsElements : List Json → List Char → Prop
  | nil {gap : List Char} (blank : IsGap gap) : SpellsElements [] (gap ++ [']'])
  | cons {next : Json} {others : List Json} {gap gapThen spelling rest : List Char} (blank : IsGap gap)
    (blankThen : IsGap gapThen) (spells : Spells next spelling) (spellsOthers : SpellsElements others rest) :
    SpellsElements (next :: others) (gap ++ ',' :: gapThen ++ spelling ++ rest)

/-- How a member of an object is spelled, from the mark before its name to the end of its value. -/
inductive SpellsMember : String × Json → List Char → Prop
  | intro {name : String} {value : Json} {letters gap gapThen spelling : List Char}
    (spellsName : SpellsText name.toList letters) (blank : IsGap gap) (blankThen : IsGap gapThen)
    (spells : Spells value spelling) :
    SpellsMember (name, value) ('"' :: letters ++ '"' :: gap ++ ':' :: gapThen ++ spelling)

/-- How the members of an object after its first are spelled, and its end. -/
inductive SpellsMembers : List (String × Json) → List Char → Prop
  | nil {gap : List Char} (blank : IsGap gap) : SpellsMembers [] (gap ++ ['\x7d'])
  | cons {next : String × Json} {others : List (String × Json)} {gap gapThen spelling rest : List Char}
    (blank : IsGap gap) (blankThen : IsGap gapThen) (spells : SpellsMember next spelling)
    (spellsOthers : SpellsMembers others rest) :
    SpellsMembers (next :: others) (gap ++ ',' :: gapThen ++ spelling ++ rest)

end

/-- A text is a document with a value: the value is spelled with nothing but gaps around it. -/
inductive IsDocument (value : Json) : List Char → Prop
  | intro {gap spelling gapThen : List Char} (blank : IsGap gap) (spells : Spells value spelling)
    (blankThen : IsGap gapThen) : IsDocument value (gap ++ spelling ++ gapThen)

/-! ### What is read is spelled -/

/-- Letters start with a gap and a spelling, and so much is left of them. -/
def StartsWith (spells : List Char → Prop) (letters rest : List Char) : Prop :=
  ∃ gap spelling, IsGap gap ∧ spells spelling ∧ letters = gap ++ (spelling ++ rest)

/-- What is read within some steps is spelled there. -/
structure ReadsSpelled (bound : Nat) : Prop where
  value : ∀ {letters value rest}, readValue bound letters = some (value, rest) →
    StartsWith (Spells value) letters rest
  elements : ∀ {letters elements rest}, readElements bound letters = some (elements, rest) →
    ∃ spelling, SpellsElements elements spelling ∧ letters = spelling ++ rest
  member : ∀ {letters member rest}, readMember bound letters = some (member, rest) →
    StartsWith (SpellsMember member) letters rest
  members : ∀ {letters members rest}, readMembers bound letters = some (members, rest) →
    ∃ spelling, SpellsMembers members spelling ∧ letters = spelling ++ rest

/-- What stands after a gap stands after the gap of the letters that were skipped. -/
theorem StartsWith.of_skipGap {spells : List Char → Prop} {letters spelling rest : List Char}
    (spelt : spells spelling) (skipped : skipGap letters = spelling ++ rest) :
    StartsWith spells letters rest := by
  obtain ⟨gap, blank, split⟩ := exists_gap_append letters
  rw [skipped] at split
  exact ⟨gap, spelling, blank, spelt, split⟩

theorem eq_append_of_readWord {word letters rest : List Char} {value read : Json}
    (reads : readWord word value letters = some (read, rest)) : read = value ∧ letters = word ++ rest := by
  unfold readWord at reads
  split at reads
  · rename_i isPrefix
    cases reads
    obtain ⟨others, rfl⟩ := List.isPrefixOf_iff_prefix.mp isPrefix
    rw [List.drop_left]
    exact ⟨rfl, rfl⟩
  · cases reads

namespace ReadsSpelled

variable {bound : Nat} {letters after rest : List Char} {value : Json}

theorem array_succ (spelled : ReadsSpelled bound) (opens : skipGap letters = '[' :: after)
    (reads : readValue (bound + 1) letters = some (value, rest)) :
    StartsWith (Spells value) letters rest := by
  simp only [readValue, opens] at reads
  split at reads
  · rename_i closes
    cases reads
    obtain ⟨gap, blank, split⟩ := exists_gap_append after
    refine .of_skipGap (.emptyArray blank) ?_
    rw [opens, split, closes]
    simp
  · obtain ⟨⟨first, afterFirst⟩, firstReads, reads⟩ := Option.bind_eq_some_iff.mp reads
    obtain ⟨⟨others, afterOthers⟩, othersRead, reads⟩ := Option.bind_eq_some_iff.mp reads
    cases reads
    obtain ⟨gap, spelling, blank, spells, rfl⟩ := spelled.value firstReads
    obtain ⟨spellingOthers, spellsOthers, rfl⟩ := spelled.elements othersRead
    refine .of_skipGap (.array blank spells spellsOthers) ?_
    rw [opens]
    simp

theorem object_succ (spelled : ReadsSpelled bound) (opens : skipGap letters = '\x7b' :: after)
    (reads : readValue (bound + 1) letters = some (value, rest)) :
    StartsWith (Spells value) letters rest := by
  simp only [readValue, opens] at reads
  split at reads
  · rename_i closes
    cases reads
    obtain ⟨gap, blank, split⟩ := exists_gap_append after
    refine .of_skipGap (.emptyObject blank) ?_
    rw [opens, split, closes]
    simp
  · obtain ⟨⟨first, afterFirst⟩, firstReads, reads⟩ := Option.bind_eq_some_iff.mp reads
    obtain ⟨⟨others, afterOthers⟩, othersRead, reads⟩ := Option.bind_eq_some_iff.mp reads
    cases reads
    obtain ⟨gap, spelling, blank, spells, rfl⟩ := spelled.member firstReads
    obtain ⟨spellingOthers, spellsOthers, rfl⟩ := spelled.members othersRead
    refine .of_skipGap (.object blank spells spellsOthers) ?_
    rw [opens]
    simp

/-- One case for every letter that a value may open with. -/
theorem value_succ (spelled : ReadsSpelled bound)
    (reads : readValue (bound + 1) letters = some (value, rest)) :
    StartsWith (Spells value) letters rest := by
  have isRead := reads
  unfold readValue at reads
  split at reads
  · rename_i after opens
    obtain ⟨⟨body, left⟩, bodyReads, same⟩ := Option.map_eq_some_iff.mp reads
    cases same
    obtain ⟨spelling, spells, rfl⟩ := startsWithText_of_read bodyReads
    rw [← String.toList_ofList (l := body)] at spells
    refine .of_skipGap (.string spells) ?_
    rw [opens]
    simp
  · rename_i opens
    exact spelled.array_succ opens isRead
  · rename_i opens
    exact spelled.object_succ opens isRead
  · rename_i opens
    obtain ⟨rfl, split⟩ := eq_append_of_readWord reads
    exact .of_skipGap .null (opens.trans split)
  · rename_i opens
    obtain ⟨rfl, split⟩ := eq_append_of_readWord reads
    exact .of_skipGap .true (opens.trans split)
  · rename_i opens
    obtain ⟨rfl, split⟩ := eq_append_of_readWord reads
    exact .of_skipGap .false (opens.trans split)
  · obtain ⟨⟨literal, left⟩, literalReads, same⟩ := Option.map_eq_some_iff.mp reads
    cases same
    obtain ⟨isNumber, split⟩ := eq_append_of_readNumber literalReads
    exact .of_skipGap (.number isNumber) split

theorem elements_succ (spelled : ReadsSpelled bound) {elements : List Json}
    (reads : readElements (bound + 1) letters = some (elements, rest)) :
    ∃ spelling, SpellsElements elements spelling ∧ letters = spelling ++ rest := by
  obtain ⟨gap, blank, split⟩ := exists_gap_append letters
  unfold readElements at reads
  split at reads
  · rename_i closes
    cases reads
    refine ⟨_, .nil blank, ?_⟩
    rw [split, closes]
    simp
  · rename_i continues
    obtain ⟨⟨next, afterNext⟩, nextReads, reads⟩ := Option.bind_eq_some_iff.mp reads
    obtain ⟨⟨others, afterOthers⟩, othersRead, reads⟩ := Option.bind_eq_some_iff.mp reads
    cases reads
    obtain ⟨gapThen, spelling, blankThen, spells, rfl⟩ := spelled.value nextReads
    obtain ⟨spellingOthers, spellsOthers, rfl⟩ := spelled.elements othersRead
    refine ⟨_, .cons blank blankThen spells spellsOthers, ?_⟩
    rw [split, continues]
    simp
  · cases reads

theorem member_succ (spelled : ReadsSpelled bound) {member : String × Json}
    (reads : readMember (bound + 1) letters = some (member, rest)) :
    StartsWith (SpellsMember member) letters rest := by
  unfold readMember at reads
  split at reads
  · rename_i opens
    obtain ⟨⟨name, afterName⟩, nameReads, colonReads⟩ := Option.bind_eq_some_iff.mp reads
    obtain ⟨spellingName, spellsName, rfl⟩ := startsWithText_of_read nameReads
    obtain ⟨gap, blank, split⟩ := exists_gap_append afterName
    dsimp only at colonReads
    split at colonReads
    · rename_i isColon
      obtain ⟨⟨read, afterValue⟩, valueReads, same⟩ := Option.bind_eq_some_iff.mp colonReads
      cases same
      obtain ⟨gapThen, spelling, blankThen, spells, rfl⟩ := spelled.value valueReads
      rw [← String.toList_ofList (l := name)] at spellsName
      refine .of_skipGap (.intro spellsName blank blankThen spells) ?_
      rw [opens, split, isColon]
      simp
    · cases colonReads
  · cases reads

theorem members_succ (spelled : ReadsSpelled bound) {members : List (String × Json)}
    (reads : readMembers (bound + 1) letters = some (members, rest)) :
    ∃ spelling, SpellsMembers members spelling ∧ letters = spelling ++ rest := by
  obtain ⟨gap, blank, split⟩ := exists_gap_append letters
  unfold readMembers at reads
  split at reads
  · rename_i closes
    cases reads
    refine ⟨_, .nil blank, ?_⟩
    rw [split, closes]
    simp
  · rename_i continues
    obtain ⟨⟨next, afterNext⟩, nextReads, reads⟩ := Option.bind_eq_some_iff.mp reads
    obtain ⟨⟨others, afterOthers⟩, othersRead, reads⟩ := Option.bind_eq_some_iff.mp reads
    cases reads
    obtain ⟨gapThen, spelling, blankThen, spells, rfl⟩ := spelled.member nextReads
    obtain ⟨spellingOthers, spellsOthers, rfl⟩ := spelled.members othersRead
    refine ⟨_, .cons blank blankThen spells spellsOthers, ?_⟩
    rw [split, continues]
    simp
  · cases reads

end ReadsSpelled

/-- Whatever is read is spelled. The induction is on the steps, as the reader has it. -/
theorem readsSpelled (bound : Nat) : ReadsSpelled bound := by
  induction bound with
  | zero =>
    refine ⟨fun reads => ?_, fun reads => ?_, fun reads => ?_, fun reads => ?_⟩
    · rw [readValue] at reads
      cases reads
    · rw [readElements] at reads
      cases reads
    · rw [readMember] at reads
      cases reads
    · rw [readMembers] at reads
      cases reads
  | succ bound inductionHypothesis =>
    exact ⟨inductionHypothesis.value_succ, inductionHypothesis.elements_succ,
      inductionHypothesis.member_succ, inductionHypothesis.members_succ⟩

/-! ### What is spelled is read -/

/-- A number opens with a digit or a minus. -/
theorem IsNumber.head? {literal : List Char} (isNumber : IsNumber literal) :
    ∃ first others, literal = first :: others ∧ (first = '-' ∨ first.isDigit = true) := by
  cases isNumber with
  | parts isMinus isWhole =>
    obtain ⟨first, others, rfl, isDigit⟩ := isWhole.head?
    rcases isMinus with rfl | rfl
    · exact ⟨first, _, rfl, Or.inr isDigit⟩
    · exact ⟨'-', _, rfl, Or.inl rfl⟩

/-- A letter that may open a value: it is no blank and ends neither an array nor an object. -/
structure IsOpening (letter : Char) : Prop where
  notGap : isGap letter = false
  notBracket : letter ≠ ']'
  notBrace : letter ≠ '\x7d'

theorem IsOpening.of_number {letter : Char} (opens : letter = '-' ∨ letter.isDigit = true) :
    IsOpening letter := by
  refine ⟨Bool.eq_false_iff.mpr fun isBlank => ?_, ?_, ?_⟩
  · rcases (isGap_iff letter).mp isBlank with rfl | rfl | rfl | rfl <;> exact absurd opens (by decide)
  · rintro rfl
    exact absurd opens (by decide)
  · rintro rfl
    exact absurd opens (by decide)

theorem Spells.head? {value : Json} {spelling : List Char} (spells : Spells value spelling) :
    ∃ first others, spelling = first :: others ∧ IsOpening first := by
  cases spells with
  | number isNumber =>
    obtain ⟨first, others, rfl, opens⟩ := isNumber.head?
    exact ⟨first, others, rfl, .of_number opens⟩
  | _ => exact ⟨_, _, rfl, by decide, by decide, by decide⟩

theorem SpellsMember.head? {member : String × Json} {spelling : List Char}
    (spells : SpellsMember member spelling) :
    ∃ first others, spelling = first :: others ∧ IsOpening first := by
  cases spells with
  | intro => exact ⟨_, _, rfl, by decide, by decide, by decide⟩

/-- A gap is skipped up to the letter that opens a value. -/
theorem skipGap_append_cons {gap : List Char} (blank : IsGap gap) {first : Char}
    (notGap : isGap first = false) (rest : List Char) : skipGap (gap ++ first :: rest) = first :: rest := by
  rw [skipGap_append blank]
  exact List.dropWhile_cons_of_neg (Bool.eq_false_iff.mp notGap)

/-- A gap with a letter behind it that does not go on with a number does not either. -/
theorem endsNumber_gap {gap : List Char} (blank : IsGap gap) {mark : Char} {rest : List Char}
    (ends : mark = ',' ∨ mark = ']' ∨ mark = '\x7d') : EndsNumber (gap ++ mark :: rest) := by
  refine forall_mem_head?_append (fun letter member => ?_) fun letter member => ?_
  · rcases blank letter (List.mem_of_mem_head? member) with rfl | rfl | rfl | rfl <;> decide
  · cases member
    rcases ends with rfl | rfl | rfl <;> decide

theorem SpellsElements.endsNumber {elements : List Json} {spelling : List Char}
    (spells : SpellsElements elements spelling) (rest : List Char) : EndsNumber (spelling ++ rest) := by
  cases spells with
  | nil blank => simpa using endsNumber_gap blank (Or.inr (Or.inl rfl))
  | cons blank => simpa using endsNumber_gap blank (Or.inl rfl)

theorem SpellsMembers.endsNumber {members : List (String × Json)} {spelling : List Char}
    (spells : SpellsMembers members spelling) (rest : List Char) : EndsNumber (spelling ++ rest) := by
  cases spells with
  | nil blank => simpa using endsNumber_gap blank (Or.inr (Or.inr rfl))
  | cons blank => simpa using endsNumber_gap blank (Or.inl rfl)

theorem IsGap.endsNumber {gap : List Char} (blank : IsGap gap) : EndsNumber gap := by
  intro letter member
  rcases blank letter (List.mem_of_mem_head? member) with rfl | rfl | rfl | rfl <;> decide

/-- What is spelled is read, with so many steps, if it has fewer letters than that. A gap takes no
step. -/
structure ReadsSpelling (bound : Nat) : Prop where
  value : ∀ {value spelling}, Spells value spelling → spelling.length < bound → ∀ {gap rest}, IsGap gap →
    EndsNumber rest → readValue bound (gap ++ (spelling ++ rest)) = some (value, rest)
  elements : ∀ {elements spelling}, SpellsElements elements spelling → spelling.length < bound →
    ∀ rest, readElements bound (spelling ++ rest) = some (elements, rest)
  member : ∀ {member spelling}, SpellsMember member spelling → spelling.length < bound → ∀ {gap rest},
    IsGap gap → EndsNumber rest → readMember bound (gap ++ (spelling ++ rest)) = some (member, rest)
  members : ∀ {members spelling}, SpellsMembers members spelling → spelling.length < bound →
    ∀ rest, readMembers bound (spelling ++ rest) = some (members, rest)

theorem readWord_append (word : List Char) (value : Json) (rest : List Char) :
    readWord word value (word ++ rest) = some (value, rest) := by
  simp [readWord]

/-- A letter that opens a number opens nothing else. -/
theorem readValue_of_number {bound : Nat} {letters others : List Char} {first : Char}
    (isStart : first = '-' ∨ first.isDigit = true) (opens : skipGap letters = first :: others) :
    readValue (bound + 1) letters =
      (readNumber (first :: others)).map fun (literal, after) => (.number literal, after) := by
  unfold readValue
  rw [opens]
  split
  case h_7 => rfl
  all_goals
    rename_i same
    cases List.head_eq_of_cons_eq same
    exact absurd isStart (by decide)

namespace ReadsSpelling

variable {bound : Nat} {gap gapThen spelling spellingOthers rest : List Char}

theorem array_succ (reads : ReadsSpelling bound) {first : Json} {others : List Json} (blank : IsGap gap)
    (blankThen : IsGap gapThen) (spells : Spells first spelling)
    (spellsOthers : SpellsElements others spellingOthers)
    (isBound : ('[' :: gapThen ++ spelling ++ spellingOthers).length < bound + 1) :
    readValue (bound + 1) (gap ++ ('[' :: gapThen ++ spelling ++ spellingOthers ++ rest)) =
      some (.array (first :: others), rest) := by
  have notGap : isGap '[' = false := by decide
  simp only [List.cons_append, List.append_assoc, List.length_cons, List.length_append] at isBound ⊢
  have firstReads := reads.value spells (by omega) blankThen (spellsOthers.endsNumber rest)
  have othersRead := reads.elements spellsOthers (by omega) rest
  simp only [readValue, skipGap_append_cons blank notGap]
  obtain ⟨letter, letters, rfl, opening⟩ := spells.head?
  rw [List.cons_append] at firstReads ⊢
  rw [skipGap_append_cons blankThen opening.notGap]
  split
  · rename_i same
    exact absurd (List.head_eq_of_cons_eq same) opening.notBracket
  · rw [firstReads, Option.bind_eq_bind, Option.bind_some]
    dsimp only
    rw [othersRead]
    rfl

theorem object_succ (reads : ReadsSpelling bound) {first : String × Json} {others : List (String × Json)}
    (blank : IsGap gap) (blankThen : IsGap gapThen) (spells : SpellsMember first spelling)
    (spellsOthers : SpellsMembers others spellingOthers)
    (isBound : ('\x7b' :: gapThen ++ spelling ++ spellingOthers).length < bound + 1) :
    readValue (bound + 1) (gap ++ ('\x7b' :: gapThen ++ spelling ++ spellingOthers ++ rest)) =
      some (.object (first :: others), rest) := by
  have notGap : isGap '\x7b' = false := by decide
  simp only [List.cons_append, List.append_assoc, List.length_cons, List.length_append] at isBound ⊢
  have firstReads := reads.member spells (by omega) blankThen (spellsOthers.endsNumber rest)
  have othersRead := reads.members spellsOthers (by omega) rest
  simp only [readValue, skipGap_append_cons blank notGap]
  obtain ⟨letter, letters, rfl, opening⟩ := spells.head?
  rw [List.cons_append] at firstReads ⊢
  rw [skipGap_append_cons blankThen opening.notGap]
  split
  · rename_i same
    exact absurd (List.head_eq_of_cons_eq same) opening.notBrace
  · rw [firstReads, Option.bind_eq_bind, Option.bind_some]
    dsimp only
    rw [othersRead]
    rfl

theorem value_succ (reads : ReadsSpelling bound) {value : Json} (spells : Spells value spelling)
    (isBound : spelling.length < bound + 1) (blank : IsGap gap) (ends : EndsNumber rest) :
    readValue (bound + 1) (gap ++ (spelling ++ rest)) = some (value, rest) := by
  have opens := fun letter (notGap : isGap letter = false) => skipGap_append_cons blank notGap
  cases spells with
  | null =>
    simp only [List.cons_append, readValue, opens 'n' (by decide)]
    exact readWord_append ['n', 'u', 'l', 'l'] .null rest
  | true =>
    simp only [List.cons_append, readValue, opens 't' (by decide)]
    exact readWord_append ['t', 'r', 'u', 'e'] (.bool true) rest
  | false =>
    simp only [List.cons_append, readValue, opens 'f' (by decide)]
    exact readWord_append ['f', 'a', 'l', 's', 'e'] (.bool false) rest
  | number isNumber =>
    have literalReads := isNumber.read ends
    obtain ⟨first, others, rfl, isStart⟩ := isNumber.head?
    rw [List.cons_append] at literalReads ⊢
    rw [readValue_of_number isStart (opens first (IsOpening.of_number isStart).notGap _), literalReads]
    rfl
  | string spells =>
    simp only [List.cons_append, List.append_assoc, List.nil_append, readValue, opens '"' (by decide)]
    rw [spells.read, Option.map_some]
    dsimp only
    rw [String.ofList_toList]
  | emptyArray blankThen =>
    simp only [List.cons_append, List.append_assoc, List.nil_append, readValue, opens '[' (by decide)]
    rw [skipGap_append_cons blankThen (by decide)]
    rfl
  | emptyObject blankThen =>
    simp only [List.cons_append, List.append_assoc, List.nil_append, readValue, opens '\x7b' (by decide)]
    rw [skipGap_append_cons blankThen (by decide)]
    rfl
  | array blankThen spells spellsOthers =>
    exact reads.array_succ blank blankThen spells spellsOthers isBound
  | object blankThen spells spellsOthers =>
    exact reads.object_succ blank blankThen spells spellsOthers isBound

theorem elements_succ (reads : ReadsSpelling bound) {elements : List Json}
    (spells : SpellsElements elements spelling) (isBound : spelling.length < bound + 1)
    (rest : List Char) : readElements (bound + 1) (spelling ++ rest) = some (elements, rest) := by
  cases spells with
  | nil blank =>
    have notGap : isGap ']' = false := by decide
    rw [List.append_assoc, List.singleton_append, readElements, skipGap_append_cons blank notGap]
    rfl
  | cons blank blankThen spells spellsOthers =>
    have notGap : isGap ',' = false := by decide
    simp only [List.cons_append, List.append_assoc, List.length_cons, List.length_append] at isBound ⊢
    have nextReads := reads.value spells (by omega) blankThen (spellsOthers.endsNumber rest)
    have othersRead := reads.elements spellsOthers (by omega) rest
    simp only [readElements, skipGap_append_cons blank notGap]
    rw [nextReads, Option.bind_eq_bind, Option.bind_some]
    dsimp only
    rw [othersRead]
    rfl

theorem member_succ (reads : ReadsSpelling bound) {member : String × Json}
    (spells : SpellsMember member spelling) (isBound : spelling.length < bound + 1) (blank : IsGap gap)
    (ends : EndsNumber rest) :
    readMember (bound + 1) (gap ++ (spelling ++ rest)) = some (member, rest) := by
  cases spells with
  | intro spellsName blankColon blankThen spells =>
    have notGap : isGap '"' = false := by decide
    have colonNotGap : isGap ':' = false := by decide
    simp only [List.cons_append, List.append_assoc, List.length_cons, List.length_append] at isBound ⊢
    have valueReads := reads.value spells (by omega) blankThen ends
    simp only [readMember, skipGap_append_cons blank notGap]
    rw [spellsName.read, Option.bind_eq_bind, Option.bind_some]
    simp only [skipGap_append_cons blankColon colonNotGap]
    rw [valueReads, String.ofList_toList]
    rfl

theorem members_succ (reads : ReadsSpelling bound) {members : List (String × Json)}
    (spells : SpellsMembers members spelling) (isBound : spelling.length < bound + 1)
    (rest : List Char) : readMembers (bound + 1) (spelling ++ rest) = some (members, rest) := by
  cases spells with
  | nil blank =>
    have notGap : isGap '\x7d' = false := by decide
    rw [List.append_assoc, List.singleton_append, readMembers, skipGap_append_cons blank notGap]
    rfl
  | cons blank blankThen spells spellsOthers =>
    have notGap : isGap ',' = false := by decide
    simp only [List.cons_append, List.append_assoc, List.length_cons, List.length_append] at isBound ⊢
    have nextReads := reads.member spells (by omega) blankThen (spellsOthers.endsNumber rest)
    have othersRead := reads.members spellsOthers (by omega) rest
    simp only [readMembers, skipGap_append_cons blank notGap]
    rw [nextReads, Option.bind_eq_bind, Option.bind_some]
    dsimp only
    rw [othersRead]
    rfl

end ReadsSpelling

/-- Whatever is spelled is read with more steps than it has letters. The induction is on the steps, as
the reader has it. -/
theorem readsSpelling (bound : Nat) : ReadsSpelling bound := by
  induction bound with
  | zero =>
    exact ⟨fun _ absurdly => absurd absurdly (Nat.not_lt_zero _),
      fun _ absurdly => absurd absurdly (Nat.not_lt_zero _),
      fun _ absurdly => absurd absurdly (Nat.not_lt_zero _),
      fun _ absurdly => absurd absurdly (Nat.not_lt_zero _)⟩
  | succ bound inductionHypothesis =>
    exact ⟨fun spells isBound _ _ => inductionHypothesis.value_succ spells isBound,
      inductionHypothesis.elements_succ,
      fun spells isBound _ _ => inductionHypothesis.member_succ spells isBound,
      inductionHypothesis.members_succ⟩

/-! ### Documents -/

/-- The reader accepts the documents, each with its value, and nothing else. -/
theorem ofLetters?_eq_some_iff {letters : List Char} {value : Json} :
    ofLetters? letters = some value ↔ IsDocument value letters := by
  constructor
  · intro reads
    rw [ofLetters?] at reads
    split at reads
    · rename_i read rest isRead
      split at reads
      · rename_i isEnd
        cases reads
        obtain ⟨gap, spelling, blank, spells, rfl⟩ := (readsSpelled _).value isRead
        rw [← List.append_assoc]
        exact .intro blank spells (skipGap_eq_nil_iff.mp (List.isEmpty_iff.mp isEnd))
      · cases reads
    · cases reads
  · rintro ⟨blank, spells, blankThen⟩
    rename_i gap spelling gapThen
    have isBound : spelling.length < (gap ++ (spelling ++ gapThen)).length + 1 := by
      simp only [List.length_append]
      omega
    have reads := (readsSpelling _).value spells isBound blank blankThen.endsNumber
    rw [List.append_assoc, ofLetters?, reads]
    simp [skipGap_eq_nil_iff.mpr blankThen]

/-- A document has one value. -/
theorem IsDocument.value_unique {letters : List Char} {value other : Json}
    (isDocument : IsDocument value letters) (isOther : IsDocument other letters) : value = other := by
  rw [← ofLetters?_eq_some_iff] at isDocument isOther
  exact Option.some_inj.mp (isDocument.symm.trans isOther)

end HandleFederation.Json
