/-
This file proves that a document is read as it was written, unless there are numbers in
it: what is written for a value spells it, without a gap anywhere, and the reader takes
what is spelled. A string is spelled letter by letter, and from there the proof follows the
writer. The declaration of an instance and the profile of a user are such documents.
-/

import HandleFederation.Profile
import HandleFederation.Proofs.JsonGrammar
import Mathlib.Tactic.IntervalCases

namespace HandleFederation.Json

open Unicode

/-! ### Strings -/

/-- A control character is written as four digits that give its number. -/
theorem exists_unicodeEscape {letter : Char} (isControl : letter.toNat < 0x20) :
    ∃ first second third fourth, unicodeEscape letter = ['\\', 'u', first, second, third, fourth] ∧
      codeUnit? first second third fourth = some letter.toNat := by
  have digits : ∀ number < 0x20, ∃ first second third fourth,
      unicodeEscape (Char.ofNat number) = ['\\', 'u', first, second, third, fourth] ∧
      codeUnit? first second third fourth = some number := by
    intro number isBelow
    interval_cases number <;> exact ⟨_, _, _, _, rfl, rfl⟩
  have written := digits letter.toNat isControl
  rwa [Char.ofNat_toNat] at written

/-- What is written for a character spells it. -/
theorem spellsLetter_write (letter : Char) : SpellsLetter letter (writeLetter letter) := by
  by_cases isShort : letter ∈ ['"', '\\', '\n', '\r', '\t', '\x08', '\x0C']
  · simp only [List.mem_cons, List.not_mem_nil, or_false] at isShort
    rcases isShort with rfl | rfl | rfl | rfl | rfl | rfl | rfl <;> exact .short rfl
  · simp only [List.mem_cons, List.not_mem_nil, or_false, not_or] at isShort
    obtain ⟨notQuote, notBackslash, notNewline, notReturn, notTab, notBackspace, notFeed⟩ := isShort
    by_cases isControl : letter.toNat < 0x20
    · obtain ⟨first, second, third, fourth, written, isUnit⟩ := exists_unicodeEscape isControl
      have same : writeLetter letter = unicodeEscape letter := by simp [writeLetter, *]
      have spells := SpellsLetter.unit isUnit (by omega)
      rwa [Char.ofNat_toNat, ← written, ← same] at spells
    · have same : writeLetter letter = [letter] := by simp [writeLetter, *]
      rw [same]
      exact .plain notQuote notBackslash (Nat.not_lt.mp isControl)

/-- What is written for the characters of a string spells them. -/
theorem spellsText_flatMap (letters : List Char) : SpellsText letters (letters.flatMap writeLetter) := by
  induction letters with
  | nil => exact .nil
  | cons letter others inductionHypothesis =>
    rw [List.flatMap_cons]
    exact .cons (spellsLetter_write letter) inductionHypothesis

/-! ### Values -/

mutual

/-- No number stands in a document. -/
def isNumberless : Json → Bool
  | .number _ => false
  | .array elements => areNumberless elements
  | .object members => haveNumberless members
  | _ => true

/-- No number stands in any of some documents. -/
def areNumberless : List Json → Bool
  | [] => true
  | first :: others => isNumberless first && areNumberless others

/-- No number stands in the values of some members. -/
def haveNumberless : List (String × Json) → Bool
  | [] => true
  | (_, first) :: others => isNumberless first && haveNumberless others

end

theorem isGap_nil : IsGap [] :=
  nofun

/-- What is written for a member spells it, if this is so of its value. -/
theorem spellsMember_write (name : String) {value : Json} (spells : Spells value value.write) :
    SpellsMember (name, value) (writeString name ++ ':' :: value.write) := by
  simpa [writeString] using SpellsMember.intro (spellsText_flatMap name.toList) isGap_nil isGap_nil spells

mutual

/-- What is written for a value spells it. -/
theorem spells_write : ∀ (value : Json), value.isNumberless = true → Spells value value.write
  | .null, _ => .null
  | .bool true, _ => .true
  | .bool false, _ => .false
  | .string text, _ => .string (spellsText_flatMap text.toList)
  | .array [], _ => .emptyArray isGap_nil
  | .array (first :: others), numberless =>
    have both := (Bool.and_eq_true _ _).mp numberless
    .array isGap_nil (spells_write first both.1) (spellsElements_write others both.2)
  | .object [], _ => .emptyObject isGap_nil
  | .object ((name, first) :: others), numberless => by
    have both := (Bool.and_eq_true _ _).mp numberless
    have spells := Spells.object isGap_nil (spellsMember_write name (spells_write first both.1))
      (spellsMembers_write others both.2)
    simpa [write] using spells

/-- What is written for the elements of an array after its first spells them. -/
theorem spellsElements_write : ∀ (elements : List Json), areNumberless elements = true →
    SpellsElements elements (writeElements elements)
  | [], _ => .nil isGap_nil
  | next :: others, numberless =>
    have both := (Bool.and_eq_true _ _).mp numberless
    .cons isGap_nil isGap_nil (spells_write next both.1) (spellsElements_write others both.2)

/-- What is written for the members of an object after its first spells them. -/
theorem spellsMembers_write : ∀ (members : List (String × Json)), haveNumberless members = true →
    SpellsMembers members (writeMembers members)
  | [], _ => .nil isGap_nil
  | (name, next) :: others, numberless => by
    have both := (Bool.and_eq_true _ _).mp numberless
    have spells := SpellsMembers.cons isGap_nil isGap_nil (spellsMember_write name (spells_write next both.1))
      (spellsMembers_write others both.2)
    simpa [writeMembers] using spells

end

/-- A document without numbers is read as it was written. -/
theorem ofLetters?_write {document : Json} (numberless : document.isNumberless = true) :
    ofLetters? document.write = some document := by
  have isDocument := IsDocument.intro isGap_nil (spells_write document numberless) isGap_nil
  rw [List.nil_append, List.append_nil] at isDocument
  exact ofLetters?_eq_some_iff.mpr isDocument

end HandleFederation.Json

namespace HandleFederation

/-! ### Declarations and profiles -/

theorem FederationMode.ofJson?_word (mode : FederationMode) : ofJson? (.string mode.word) = some mode := by
  cases mode <;> decide

/-- A declaration is read from the document that is made of it. -/
theorem Declaration.ofJson?_toJson (declaration : Declaration) :
    ofJson? declaration.toJson = some declaration := by
  have fields : declaration.toJson.fields? true fieldNames =
      some [some (.string declaration.instanceId), some (.string declaration.domain),
        some (.string declaration.publicKey), some (.string declaration.name),
        some (.string declaration.software), some (.string declaration.mode.word)] := rfl
  rw [ofJson?, fields]
  simp [Json.requiredText?, Json.string?, FederationMode.ofJson?_word]

theorem Json.optionalText?_ofOption (value : Option String) :
    optionalText? (some (ofOption value)) = some value := by
  cases value <;> rfl

/-- A profile is read from the document that is made of it. -/
theorem Profile.ofJson?_toJson (profile : Profile) : ofJson? profile.toJson = some profile := by
  have fields : profile.toJson.fields? true fieldNames =
      some [some (.string profile.id), some (.string profile.username),
        some (Json.ofOption profile.displayName), some (Json.ofOption profile.avatarId),
        some (Json.ofOption profile.bio), some (Json.ofOption profile.createdAt)] := rfl
  rw [ofJson?, fields]
  simp [Json.requiredText?, Json.string?, Json.optionalText?_ofOption]

/-- The document of a declaration is read as it was written. -/
theorem Declaration.ofLetters?_write (declaration : Declaration) :
    (Json.ofLetters? declaration.toJson.write).bind ofJson? = some declaration := by
  rw [Json.ofLetters?_write rfl, Option.bind_some, ofJson?_toJson]

/-- The document of a profile is read as it was written. -/
theorem Profile.ofLetters?_write (profile : Profile) :
    (Json.ofLetters? profile.toJson.write).bind ofJson? = some profile := by
  have numberless : ∀ value, (Json.ofOption value).isNumberless = true := fun value => by
    cases value <;> rfl
  have isNumberless : profile.toJson.isNumberless = true := by
    simp [toJson, Json.isNumberless, Json.haveNumberless, numberless]
  rw [Json.ofLetters?_write isNumberless, Option.bind_some, ofJson?_toJson]

end HandleFederation
