/-
This file says where the case of a name makes no difference. Usernames that differ in
the case of their letters only are valid together, remembered under one key, found in
one row, and answered by one profile; domains with one normal form are accepted
together. So whatever is done for one spelling of a name is done for all of them.
-/

import HandleFederation.Proofs.AcceptedName
import HandleFederation.Resolution

namespace HandleFederation

open Text

/-! ### Usernames -/

/-- A character that is a capital letter belongs to ASCII. -/
theorem toNat_lt_of_toLower_ne {letter : Char} (differs : letter.toLower ≠ letter) :
    letter.toNat < 0x80 := by
  unfold Char.toLower at differs
  split at differs
  · rename_i isUpper
    simp only [UInt32.le_iff_toNat_le] at isUpper
    have bound : letter.toNat ≤ 'Z'.val.toNat := isUpper.2
    exact Nat.lt_of_le_of_lt bound (by decide)
  · exact absurd rfl differs

/-- What does not tell a letter of ASCII from its lower case does not tell any. -/
theorem apply_toLower {Value : Type} (f : Char → Value)
    (each : ∀ code, code < 0x80 → f (Char.ofNat code).toLower = f (Char.ofNat code)) (letter : Char) :
    f letter.toLower = f letter := by
  by_cases same : letter.toLower = letter
  · rw [same]
  · exact forall_ascii (fun letter => f letter.toLower = f letter) each (toNat_lt_of_toLower_ne same)

theorem Username.isLetter_toLower (letter : Char) : isLetter letter.toLower = isLetter letter :=
  apply_toLower isLetter (by decide +kernel) letter

/-- A username is as valid as it is in lower case. -/
theorem Username.validate_lower (username : String) : validate (lower username) = validate username := by
  have sameLength : (lower username).toList.length = username.toList.length := by
    rw [toList_lower, List.length_map]
  have sameLetters : (lower username).toList.all isLetter = username.toList.all isLetter := by
    rw [toList_lower, List.all_map]
    exact congrArg (List.all username.toList) (funext isLetter_toLower)
  have sameEmpty : (lower username).isEmpty = username.isEmpty := by
    rw [Bool.eq_iff_iff, String.isEmpty_iff, String.isEmpty_iff, ← String.toList_eq_nil_iff,
      ← String.toList_eq_nil_iff, toList_lower, List.map_eq_nil_iff]
  rw [validate, validate, fault?, fault?, sameLength, sameLetters, sameEmpty]

theorem Username.validate_eq_of_lower_eq {name username : String} (same : lower name = lower username) :
    validate name = validate username := by
  rw [← validate_lower name, same, validate_lower]

/-- A valid username has some characters, and all of them are those of usernames. -/
theorem Username.letters_of_validate {username : String} (valid : validate username = .ok ()) :
    username.toList ≠ [] ∧ ∀ letter ∈ username.toList, isLetter letter = true := by
  have noFault : fault? username = none := by
    unfold validate at valid
    split at valid
    · cases valid
    · assumption
  unfold fault? at noFault
  split at noFault
  · cases noFault
  · rename_i notEmpty
    split at noFault
    · cases noFault
    · split at noFault
      · cases noFault
      · rename_i allLetters
        exact ⟨fun empty => notEmpty (String.isEmpty_iff.mpr (String.toList_eq_nil_iff.mp empty)),
          List.all_eq_true.mp (by simpa using allLetters)⟩

/-- A valid username is free of NULs. -/
theorem Username.isNulFree_of_validate {username : String} (valid : validate username = .ok ()) :
    IsNulFree username := fun member =>
  absurd ((letters_of_validate valid).2 _ member) (by decide)

/-- A row is named by a valid username if its name is a spelling of it. -/
theorem Username.nameKey_eq_iff {name username : String} (valid : validate username = .ok ()) :
    nameKey name = nameKey username ↔ lower name = lower username :=
  nameKey_eq_iff_of_isNulFree (isNulFree_of_validate valid)

/-- Equality up to case is one with every spelling. -/
theorem Text.sameUpToCase_eq_of_lower_eq {name username : String} (same : lower name = lower username)
    (other : String) : sameUpToCase other name = sameUpToCase other username := by
  rw [sameUpToCase, sameUpToCase, same]

/-- A name is the same as every spelling of another, or as none. -/
theorem Text.sameName_eq_of_lower_eq {name username : String} (same : lower name = lower username)
    (other : String) : sameName other name = sameName other username := by
  rw [sameName, sameName, nameKey_eq_of_lower_eq same]

/-! ### Rows, keys and answers -/

theorem Tables.user?_eq_of_lower_eq {name username : String} (same : lower name = lower username)
    (instanceId : String) (tables : Tables) :
    tables.user? instanceId name = tables.user? instanceId username := by
  have sameTest : isUser instanceId name = isUser instanceId username :=
    funext fun user => by rw [isUser, isUser, sameName_eq_of_lower_eq same]
  rw [user?, user?, sameTest]

theorem Tables.stub?_eq_of_lower_eq {name username : String} (same : lower name = lower username)
    (domain : String) (tables : Tables) : tables.stub? name domain = tables.stub? username domain := by
  unfold stub?
  split
  · rw [user?_eq_of_lower_eq same]
  · rfl

theorem Resolution.missKey_eq_of_lower_eq {name username : String} (same : lower name = lower username)
    (domain : String) : missKey name domain = missKey username domain := by
  rw [missKey, missKey, same]

theorem Profile.ofExchange_eq_of_lower_eq {name username : String} (same : lower name = lower username)
    (exchange : Exchange) : Answer.ofExchange name exchange = Answer.ofExchange username exchange := by
  have sameBody : ∀ body, ofBody? name body = ofBody? username body := by
    intro body
    unfold ofBody?
    split
    · rfl
    · rw [sameUpToCase_eq_of_lower_eq same]
  cases exchange with
  | error fault => rfl
  | ok response =>
    unfold Answer.ofExchange
    dsimp only
    rw [sameBody]

/-! ### Domains -/

/-- An accepted domain is free of NULs. -/
theorem DomainName.isNulFree_of_validate {blocked : List String} {text domain : String}
    (accepted : validate blocked text = .ok domain) : IsNulFree domain := fun member =>
  absurd ((isPlain_of_validate accepted).letters _ member) (by decide)

/-- A row is named by an accepted domain if its name is a spelling of it. -/
theorem DomainName.nameKey_eq_iff {blocked : List String} {name text domain : String}
    (accepted : validate blocked text = .ok domain) :
    nameKey name = nameKey domain ↔ lower name = lower domain :=
  nameKey_eq_iff_of_isNulFree (isNulFree_of_validate accepted)

/-- Domains with one normal form are accepted together. -/
theorem DomainName.validate_eq_of_normalize_eq {blocked : List String} {text domain : String}
    (same : normalize text = normalize domain) : validate blocked text = validate blocked domain := by
  have sameLetters : normalizeLetters text.toList = normalizeLetters domain.toList := by
    rw [← toList_normalize, same, toList_normalize]
  rw [validate, validate, sameLetters, same]

end HandleFederation
