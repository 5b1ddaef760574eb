/-
This file holds the one notion of letter case that texts are compared by. Only
the letters `A` to `Z` have a lower-case form here; every other character stands
for itself. Texts are equal up to case when their folded forms are equal. The names
of rows, which are usernames and domains, are compared in that way too, but only as
far as the first NUL in them; what follows it counts with its size alone. A name
that is free of NULs is compared as any other text. Rows are listed in the order
of their names.
-/

namespace HandleFederation.Text

/-! ### Folding -/

/-- The text with the letters `A` to `Z` in lower case and all else unchanged. -/
def lower (text : String) : String :=
  String.ofList (text.toList.map Char.toLower)

/-- Folding a text folds its characters. -/
@[simp] theorem toList_lower (text : String) : (lower text).toList = text.toList.map Char.toLower := by
  simp [lower]

/-- A letter in lower case is its own lower-case form. -/
theorem toLower_toLower (letter : Char) : letter.toLower.toLower = letter.toLower := by
  unfold Char.toLower
  split
  · rename_i isUpper
    rw [dif_neg]
    simp only [UInt32.le_iff_toNat_le, UInt32.toNat_add] at isUpper ⊢
    grind
  · rfl

/-- Folding a folded text changes nothing. -/
theorem lower_lower (text : String) : lower (lower text) = lower text := by
  rw [lower, toList_lower, List.map_map]
  exact congrArg String.ofList (List.map_congr_left fun letter _ => toLower_toLower letter)

/-- Two texts are equal up to the case of the letters `A` to `Z`. -/
def sameUpToCase (left right : String) : Bool :=
  lower left == lower right

/-- Equality up to case is equality of the folded forms. -/
theorem sameUpToCase_iff (left right : String) :
    sameUpToCase left right = true ↔ lower left = lower right := by
  simp [sameUpToCase]

/-! ### Names of rows -/

/-- The text before the first NUL in it. -/
def untilNul (text : String) : String :=
  String.ofList (text.toList.takeWhile (· != '\x00'))

/-- What a name is compared by: the folded text before the first NUL, and the size of the whole in bytes. -/
def nameKey (name : String) : String × Nat :=
  (lower (untilNul name), name.utf8ByteSize)

/-- Two names are the same for a row: they are of one size, and equal up to case before the first NUL. -/
def sameName (left right : String) : Bool :=
  nameKey left == nameKey right

/-- Names are the same if their keys are. -/
theorem sameName_iff (left right : String) : sameName left right = true ↔ nameKey left = nameKey right := by
  simp [sameName]

/-- A text has the same name as itself. -/
@[simp] theorem sameName_refl (text : String) : sameName text text = true := by
  simp [sameName]

/-- The lower-case form of a character takes as many bytes. -/
theorem utf8Size_toLower (letter : Char) : letter.toLower.utf8Size = letter.utf8Size := by
  unfold Char.toLower
  split
  · rename_i isUpper
    simp only [UInt32.le_iff_toNat_le] at isUpper
    simp only [Char.utf8Size, UInt32.le_iff_toNat_le, UInt32.toNat_add]
    grind
  · rfl

/-- Only NUL is NUL in lower case. -/
theorem toLower_eq_nul_iff (letter : Char) : letter.toLower = '\x00' ↔ letter = '\x00' := by
  unfold Char.toLower
  split
  · rename_i isUpper
    simp only [UInt32.le_iff_toNat_le] at isUpper
    simp only [Char.ext_iff, ← UInt32.toNat_inj, UInt32.toNat_add]
    grind
  · rfl

/-- Folding a text does not change its size. -/
theorem utf8ByteSize_lower (text : String) : (lower text).utf8ByteSize = text.utf8ByteSize := by
  suffices sameSize : ∀ letters : List Char, (String.ofList (letters.map Char.toLower)).utf8ByteSize =
      (String.ofList letters).utf8ByteSize by
    rw [lower, sameSize, String.ofList_toList]
  intro letters
  induction letters with
  | nil => rfl
  | cons letter rest inductionHypothesis =>
    rw [List.map_cons, String.ofList_cons, String.ofList_cons, String.utf8ByteSize_append,
      String.utf8ByteSize_append, String.utf8ByteSize_singleton, String.utf8ByteSize_singleton,
      utf8Size_toLower, inductionHypothesis]

/-- A name has the key of its folded form. -/
@[simp] theorem nameKey_lower (name : String) : nameKey (lower name) = nameKey name := by
  have sameStop : (fun letter : Char => letter != '\x00') ∘ Char.toLower = (· != '\x00') :=
    funext fun letter => by simp [bne, Bool.beq_eq_decide_eq, toLower_eq_nul_iff]
  have sameStart : untilNul (lower name) = lower (untilNul name) := by
    rw [untilNul, toList_lower, List.takeWhile_map, sameStop, lower, untilNul, String.toList_ofList]
  rw [nameKey, sameStart, lower_lower, utf8ByteSize_lower, nameKey]

/-- Names that are equal up to case have one key. -/
theorem nameKey_eq_of_lower_eq {left right : String} (same : lower left = lower right) :
    nameKey left = nameKey right := by
  rw [← nameKey_lower left, same, nameKey_lower]

/-- There is no NUL in a name. -/
def IsNulFree (name : String) : Prop :=
  '\x00' ∉ name.toList

instance (name : String) : Decidable (IsNulFree name) :=
  inferInstanceAs (Decidable (_ ∉ _))

/-- A name that is free of NULs is compared to its end. -/
theorem untilNul_of_isNulFree {name : String} (nulFree : IsNulFree name) : untilNul name = name := by
  have goesOn : ∀ letter ∈ name.toList, (letter != '\x00') = true := fun letter member =>
    bne_iff_ne.mpr fun isNul => nulFree (isNul ▸ member)
  have whole : (name.toList ++ []).takeWhile (· != '\x00') = name.toList ++ [].takeWhile (· != '\x00') :=
    List.takeWhile_append_of_pos goesOn
  rw [List.append_nil, List.takeWhile_nil, List.append_nil] at whole
  rw [untilNul, whole, String.ofList_toList]

/-- A name of which all bytes come before the first NUL is compared to its end. -/
theorem untilNul_eq_of_utf8ByteSize_eq {name : String}
    (sameSize : (untilNul name).utf8ByteSize = name.utf8ByteSize) : untilNul name = name := by
  have parts : untilNul name ++ String.ofList (name.toList.dropWhile (· != '\x00')) = name := by
    rw [untilNul, ← String.ofList_append, List.takeWhile_append_dropWhile, String.ofList_toList]
  have noMore : (String.ofList (name.toList.dropWhile (· != '\x00'))).utf8ByteSize = 0 := by
    have sizes := congrArg String.utf8ByteSize parts
    rw [String.utf8ByteSize_append] at sizes
    omega
  rwa [String.utf8ByteSize_eq_zero_iff.mp noMore, String.append_empty] at parts

/-- Names of one key are equal up to case if one of them is free of NULs. -/
theorem nameKey_eq_iff_of_isNulFree {left right : String} (nulFree : IsNulFree right) :
    nameKey left = nameKey right ↔ lower left = lower right := by
  refine ⟨fun same => ?_, nameKey_eq_of_lower_eq⟩
  obtain ⟨sameStart, sameSize⟩ := Prod.ext_iff.mp same
  simp only [nameKey, untilNul_of_isNulFree nulFree] at sameStart sameSize
  have folded : (untilNul left).utf8ByteSize = left.utf8ByteSize := by
    rw [← utf8ByteSize_lower, sameStart, utf8ByteSize_lower, sameSize]
  rw [← untilNul_eq_of_utf8ByteSize_eq folded, sameStart]

example : sameName "Home.example" "HOME.example" = true ∧ sameName "a\x00b" "A\x00c" = true ∧
    sameName "a\x00b" "a\x00bc" = false := by
  decide +kernel

/-! ### Order -/

/-- Whether one list of characters comes before or equals another, by code points. -/
def precedes : List Char → List Char → Bool
  | [], _ => true
  | _ :: _, [] => false
  | first :: rest, other :: others =>
    if first == other then precedes rest others else first.toNat < other.toNat

/-- Whether one name comes before or equals another; of two that are equal up to case before the first
NUL, the shorter one comes first. -/
def namePrecedes (left right : String) : Bool :=
  if (nameKey left).1 == (nameKey right).1 then (nameKey left).2 ≤ (nameKey right).2
  else precedes (nameKey left).1.toList (nameKey right).1.toList

end HandleFederation.Text
