/-
This file says which addresses are public by the ranges that are set aside. A range is what
all the addresses have in common that start with the same bits, so whether an address lies in
it is a question about its number. An address is written in digits, octets or segments, and a
range fixes some whole digits and the first bits of the next one; the tests of the program
look at just these. Where they mask a digit, the mask leaves the bits that the range fixes.
-/

import HandleFederation.Address.Literal
import Mathlib.Data.Nat.Bitwise

namespace HandleFederation

/-! ### Numbers and their first bits -/

/-- The number that digits of so many bits stand for. -/
def numberOf (bits : Nat) : List Nat → Nat
  | [] => 0
  | digit :: rest => digit * 2 ^ (bits * rest.length) + numberOf bits rest

/-- Two numbers of so many bits start with the same ones. -/
def ShareFront (width shared number other : Nat) : Prop :=
  number / 2 ^ (width - shared) = other / 2 ^ (width - shared)

instance (width shared number other : Nat) : Decidable (ShareFront width shared number other) :=
  inferInstanceAs (Decidable (_ = _))

section Digits

variable {bits digit other shared : Nat} {rest others : List Nat}

theorem numberOf_lt (each : ∀ digit ∈ rest, digit < 2 ^ bits) :
    numberOf bits rest < 2 ^ (bits * rest.length) := by
  induction rest with
  | nil => exact Nat.one_pos
  | cons digit rest inductionHypothesis =>
    obtain ⟨fits, others⟩ := List.forall_mem_cons.mp each
    have below := inductionHypothesis others
    have next : (digit + 1) * 2 ^ (bits * rest.length) ≤ 2 ^ bits * 2 ^ (bits * rest.length) :=
      Nat.mul_le_mul_right _ fits
    rw [numberOf, List.length_cons, Nat.mul_succ, Nat.add_comm (bits * rest.length), Nat.pow_add]
    rw [Nat.add_mul, Nat.one_mul] at next
    omega

/-- A digit in front and what stands behind it can be told from their number. -/
theorem shifted_add_inj {high low otherHigh otherLow size : Nat} (fits : low < size)
    (otherFits : otherLow < size) :
    high * size + low = otherHigh * size + otherLow ↔ high = otherHigh ∧ low = otherLow := by
  constructor
  · intro same
    have sameLow := congrArg (· % size) same
    have sameHigh := congrArg (· / size) same
    simp only [Nat.mul_add_mod_self_right, Nat.mod_eq_of_lt fits, Nat.mod_eq_of_lt otherFits] at sameLow
    simp only [Nat.mul_comm _ size, Nat.mul_add_div (Nat.zero_lt_of_lt fits), Nat.div_eq_of_lt fits,
      Nat.div_eq_of_lt otherFits, Nat.add_zero] at sameHigh
    exact ⟨sameHigh, sameLow⟩
  · rintro ⟨rfl, rfl⟩
    rfl

theorem numberOf_inj (each : ∀ digit ∈ rest, digit < 2 ^ bits)
    (eachOther : ∀ digit ∈ others, digit < 2 ^ bits)
    (sameLength : rest.length = others.length) :
    numberOf bits rest = numberOf bits others ↔ rest = others := by
  induction rest generalizing others with
  | nil =>
    rw [List.length_nil, eq_comm, List.length_eq_zero_iff] at sameLength
    rw [sameLength]
    exact iff_of_true rfl rfl
  | cons digit rest inductionHypothesis =>
    cases others with
    | nil => cases sameLength
    | cons other others =>
      have sameLength := Nat.succ.inj sameLength
      have below := numberOf_lt (List.forall_mem_cons.mp each).2
      have otherBelow := numberOf_lt (List.forall_mem_cons.mp eachOther).2
      rw [← sameLength] at otherBelow
      rw [numberOf, numberOf, ← sameLength, shifted_add_inj below otherBelow, List.cons.injEq,
        inductionHypothesis (List.forall_mem_cons.mp each).2 (List.forall_mem_cons.mp eachOther).2 sameLength]

/-- Numbers share bits of their first digits if these do. -/
theorem shareFront_cons_of_le (each : ∀ digit ∈ rest, digit < 2 ^ bits)
    (eachOther : ∀ digit ∈ others, digit < 2 ^ bits) (sameLength : rest.length = others.length)
    (le : shared ≤ bits) :
    ShareFront (bits * (rest.length + 1)) shared (numberOf bits (digit :: rest))
        (numberOf bits (other :: others)) ↔
      ShareFront bits shared digit other := by
  have firstBits (digit : Nat) {rest : List Nat} (each : ∀ digit ∈ rest, digit < 2 ^ bits) :
      numberOf bits (digit :: rest) / 2 ^ (bits * rest.length + (bits - shared)) =
        digit / 2 ^ (bits - shared) := by
    rw [numberOf, Nat.pow_add, ← Nat.div_div_eq_div_mul, Nat.mul_comm digit,
      Nat.mul_add_div (Nat.two_pow_pos _), Nat.div_eq_of_lt (numberOf_lt each), Nat.add_zero]
  have behind : bits * (rest.length + 1) - shared = bits * rest.length + (bits - shared) := by
    rw [Nat.mul_succ]
    omega
  rw [ShareFront, ShareFront, behind, firstBits digit each, sameLength, firstBits other eachOther]

/-- Numbers share more than a digit if they share the digit and more of the others. -/
theorem shareFront_cons_of_ge (each : ∀ digit ∈ rest, digit < 2 ^ bits)
    (eachOther : ∀ digit ∈ others, digit < 2 ^ bits) (sameLength : rest.length = others.length)
    (ge : bits ≤ shared) :
    ShareFront (bits * (rest.length + 1)) shared (numberOf bits (digit :: rest))
        (numberOf bits (other :: others)) ↔
      digit = other ∧
        ShareFront (bits * rest.length) (shared - bits) (numberOf bits rest) (numberOf bits others) := by
  have behind : bits * (rest.length + 1) - shared = bits * rest.length - (shared - bits) := by
    rw [Nat.mul_succ]
    omega
  obtain ⟨front, isFront⟩ := Nat.exists_eq_add_of_le (Nat.sub_le (bits * rest.length) (shared - bits))
  rw [ShareFront, ShareFront, behind]
  generalize bits * rest.length - (shared - bits) = cut at isFront ⊢
  have below := numberOf_lt each
  have otherBelow := numberOf_lt eachOther
  rw [← sameLength] at otherBelow
  rw [isFront, Nat.pow_add] at below otherBelow
  -- What is cut off reaches into neither of the two first digits.
  have cutOff (digit : Nat) (behind : Nat) :
      (digit * 2 ^ (cut + front) + behind) / 2 ^ cut = digit * 2 ^ front + behind / 2 ^ cut := by
    rw [Nat.pow_add, Nat.mul_left_comm, Nat.mul_add_div (Nat.two_pow_pos cut)]
  rw [numberOf, numberOf, ← sameLength, isFront, cutOff, cutOff]
  exact shifted_add_inj (Nat.div_lt_of_lt_mul below) (Nat.div_lt_of_lt_mul otherBelow)

end Digits

section Masks

variable {number other width shared cut : Nat}

theorem shareFront_all : ShareFront width width number other ↔ number = other := by
  rw [ShareFront, Nat.sub_self, Nat.pow_zero, Nat.div_one, Nat.div_one]

/-- A mask without its last bits leaves the number without them. -/
theorem and_highBits (below : number < 2 ^ width) (le : cut ≤ width) :
    number &&& (2 ^ width - 2 ^ cut) = number / 2 ^ cut * 2 ^ cut := by
  have mask : 2 ^ width - 2 ^ cut = (2 ^ (width - cut) - 1) <<< cut := by
    rw [Nat.shiftLeft_eq, Nat.sub_mul, Nat.one_mul, ← Nat.pow_add, Nat.sub_add_cancel le]
  have fits : number >>> cut < 2 ^ (width - cut) := by
    rw [Nat.shiftRight_eq_div_pow]
    refine Nat.div_lt_of_lt_mul ?_
    rwa [← Nat.pow_add, Nat.add_sub_cancel' le]
  have kept : number >>> cut &&& 2 ^ (width - cut) - 1 = number >>> cut := by
    rw [Nat.and_two_pow_sub_one_eq_mod, Nat.mod_eq_of_lt fits]
  rw [mask, ← Nat.shiftRight_eq_div_pow, ← Nat.shiftLeft_eq]
  refine Nat.eq_of_testBit_eq fun place => ?_
  rw [← kept]
  simp only [Nat.testBit_and, Nat.testBit_shiftLeft, Nat.testBit_shiftRight]
  by_cases isHigh : cut ≤ place
  · rw [Nat.add_sub_cancel' isHigh, decide_eq_true isHigh, Bool.true_and, Bool.true_and]
  · rw [decide_eq_false isHigh, Bool.false_and, Bool.false_and, Bool.and_false]

/-- Numbers share their first bits if a mask of these leaves the same. -/
theorem and_eq_and_iff (below : number < 2 ^ width) (otherBelow : other < 2 ^ width) :
    number &&& (2 ^ width - 2 ^ (width - shared)) = other &&& (2 ^ width - 2 ^ (width - shared)) ↔
      ShareFront width shared number other := by
  rw [and_highBits below (Nat.sub_le width shared), and_highBits otherBelow (Nat.sub_le width shared),
    Nat.mul_left_inj (Nat.two_pow_pos _).ne']
  rfl

end Masks

namespace Ipv4

variable {address start : Ipv4} {shared : Nat}

/-! ### Ranges of version 4 -/

/-- Whether an address starts with the same bits as another, so many of them. -/
def IsIn (address start : Ipv4) (shared : Nat) : Prop :=
  ShareFront 32 shared address.toNat start.toNat

instance (address start : Ipv4) (shared : Nat) : Decidable (address.IsIn start shared) :=
  inferInstanceAs (Decidable (ShareFront ..))

/-- The ranges of version 4 that are set aside, each as its first address and how many bits of it
count. -/
def setAside : List (Ipv4 × Nat) :=
  [(⟨0, 0, 0, 0⟩, 8), (⟨10, 0, 0, 0⟩, 8), (⟨100, 64, 0, 0⟩, 10), (⟨127, 0, 0, 0⟩, 8),
    (⟨169, 254, 0, 0⟩, 16), (⟨172, 16, 0, 0⟩, 12), (⟨192, 0, 0, 0⟩, 24), (⟨192, 0, 2, 0⟩, 24),
    (⟨192, 168, 0, 0⟩, 16), (⟨198, 18, 0, 0⟩, 15), (⟨198, 51, 100, 0⟩, 24), (⟨203, 0, 113, 0⟩, 24),
    (⟨224, 0, 0, 0⟩, 4), (⟨240, 0, 0, 0⟩, 4)]

theorem forall_octet_lt (octets : List UInt8) : ∀ digit ∈ octets.map UInt8.toNat, digit < 2 ^ 8 :=
  List.forall_mem_map.mpr fun octet _ => octet.toNat_lt

theorem toNat_eq_numberOf : address.toNat =
    numberOf 8 ([address.first, address.second, address.third, address.fourth].map UInt8.toNat) := by
  simp only [toNat, numberOf, List.map_cons, List.map_nil, List.length_cons, List.length_nil]
  omega

theorem isIn_of_le_eight (le : shared ≤ 8) :
    address.IsIn start shared ↔ ShareFront 8 shared address.first.toNat start.first.toNat := by
  rw [IsIn, toNat_eq_numberOf, toNat_eq_numberOf]
  exact shareFront_cons_of_le (forall_octet_lt _) (forall_octet_lt _) rfl le

theorem isIn_of_ge_eight (ge : 8 ≤ shared) : address.IsIn start shared ↔
    address.first = start.first ∧
      ShareFront 24 (shared - 8)
        (numberOf 8 ([address.second, address.third, address.fourth].map UInt8.toNat))
        (numberOf 8 ([start.second, start.third, start.fourth].map UInt8.toNat)) := by
  rw [IsIn, toNat_eq_numberOf, toNat_eq_numberOf, ← UInt8.toNat_inj]
  exact shareFront_cons_of_ge (forall_octet_lt _) (forall_octet_lt _) rfl ge

theorem isIn_of_le_sixteen (ge : 8 ≤ shared) (le : shared ≤ 16) : address.IsIn start shared ↔
    address.first = start.first ∧ ShareFront 8 (shared - 8) address.second.toNat start.second.toNat := by
  rw [isIn_of_ge_eight ge]
  refine and_congr_right fun _ => ?_
  exact shareFront_cons_of_le (forall_octet_lt _) (forall_octet_lt _) rfl (Nat.sub_le_iff_le_add.mpr le)

theorem isIn_eight : address.IsIn start 8 ↔ address.first = start.first := by
  rw [isIn_of_le_eight (Nat.le_refl 8), shareFront_all, UInt8.toNat_inj]

theorem isIn_sixteen :
    address.IsIn start 16 ↔ address.first = start.first ∧ address.second = start.second := by
  rw [isIn_of_le_sixteen (by decide) (Nat.le_refl 16), shareFront_all, UInt8.toNat_inj]

theorem isIn_twentyFour : address.IsIn start 24 ↔
    address.first = start.first ∧ address.second = start.second ∧ address.third = start.third := by
  have third : address.third = start.third ↔ ShareFront 8 8 address.third.toNat start.third.toNat := by
    rw [shareFront_all, UInt8.toNat_inj]
  rw [isIn_of_ge_eight (by decide), third, ← UInt8.toNat_inj (a := address.second)]
  refine and_congr_right fun _ => ?_
  refine Iff.trans (shareFront_cons_of_ge (forall_octet_lt [_, _]) (forall_octet_lt [_, _]) rfl (by decide)) ?_
  refine and_congr_right fun _ => ?_
  exact shareFront_cons_of_le (forall_octet_lt _) (forall_octet_lt _) rfl (by decide)

theorem isLoopback_iff : address.isLoopback = true ↔ address.IsIn ⟨127, 0, 0, 0⟩ 8 := by
  rw [isLoopback, beq_iff_eq, isIn_eight]

theorem isPrivate_iff : address.isPrivate = true ↔
    address.IsIn ⟨10, 0, 0, 0⟩ 8 ∨ address.IsIn ⟨172, 16, 0, 0⟩ 12 ∨ address.IsIn ⟨192, 168, 0, 0⟩ 16 := by
  rw [isIn_eight, isIn_of_le_sixteen (by decide) (by decide), isIn_sixteen]
  have between : ShareFront 8 4 address.second.toNat 16 ↔
      16 ≤ address.second.toNat ∧ address.second.toNat ≤ 31 := by
    rw [ShareFront]
    omega
  simp [isPrivate, between, UInt8.le_iff_toNat_le, or_assoc, and_assoc]

theorem isMulticast_iff : address.isMulticast = true ↔ address.IsIn ⟨224, 0, 0, 0⟩ 4 := by
  rw [isIn_of_le_eight (by decide)]
  simp [isMulticast, ShareFront, UInt8.le_iff_toNat_le]
  omega

theorem isShared_iff : address.isShared = true ↔ address.IsIn ⟨100, 64, 0, 0⟩ 10 := by
  rw [isIn_of_le_sixteen (by decide) (by decide),
    ← and_eq_and_iff address.second.toNat_lt (UInt8.toNat_lt _)]
  simp only [isShared, Bool.and_eq_true, beq_iff_eq, ← UInt8.toNat_inj, UInt8.toNat_and]
  rfl

theorem isBenchmark_iff : address.isBenchmark = true ↔ address.IsIn ⟨198, 18, 0, 0⟩ 15 := by
  rw [isIn_of_le_sixteen (by decide) (by decide),
    ← and_eq_and_iff address.second.toNat_lt (UInt8.toNat_lt _)]
  simp only [isBenchmark, Bool.and_eq_true, beq_iff_eq, ← UInt8.toNat_inj, UInt8.toNat_and]
  rfl

theorem isLinkLocal_iff : address.isLinkLocal = true ↔ address.IsIn ⟨169, 254, 0, 0⟩ 16 := by
  rw [isLinkLocal, Bool.and_eq_true, beq_iff_eq, beq_iff_eq, isIn_sixteen]

theorem isDocumentation_iff : address.isDocumentation = true ↔
    address.IsIn ⟨192, 0, 2, 0⟩ 24 ∨ address.IsIn ⟨198, 51, 100, 0⟩ 24 ∨
      address.IsIn ⟨203, 0, 113, 0⟩ 24 := by
  simp only [isDocumentation, isIn_twentyFour, Bool.or_eq_true, Bool.and_eq_true, beq_iff_eq, or_assoc,
    and_assoc]

theorem isProtocolAssignment_iff :
    address.isProtocolAssignment = true ↔ address.IsIn ⟨192, 0, 0, 0⟩ 24 := by
  simp only [isProtocolAssignment, isIn_twentyFour, Bool.and_eq_true, beq_iff_eq, and_assoc]

theorem le_first_iff : 240 ≤ address.first ↔ address.IsIn ⟨240, 0, 0, 0⟩ 4 := by
  have := address.first.toNat_lt
  rw [isIn_of_le_eight (by decide), UInt8.le_iff_toNat_le, ShareFront]
  simp only [UInt8.reduceToNat]
  omega

/-- Any host on the internet may be reached at an address of version 4 unless it is in a range that
is set aside. -/
theorem isPublic_eq_false_iff_isIn :
    address.isPublic = false ↔ ∃ range ∈ setAside, address.IsIn range.1 range.2 := by
  have first : address.first = 0 ↔ address.IsIn ⟨0, 0, 0, 0⟩ 8 := Iff.symm isIn_eight
  simp only [isPublic, Bool.not_eq_false', Bool.or_eq_true, beq_iff_eq, decide_eq_true_eq, isLoopback_iff,
    isPrivate_iff, isLinkLocal_iff, isMulticast_iff, isDocumentation_iff, first, isShared_iff,
    isProtocolAssignment_iff, isBenchmark_iff, le_first_iff, setAside, List.mem_cons,
    List.not_mem_nil, or_false, or_and_right, exists_or, exists_eq_left]
  grind

end Ipv4

namespace Ipv6

variable {address start : Ipv6} {shared : Nat}

/-! ### Ranges of version 6 -/

/-- The address as one number of 128 bits. -/
def toNat (address : Ipv6) : Nat :=
  numberOf 16 (address.segments.toList.map UInt16.toNat)

/-- Whether an address starts with the same bits as another, so many of them. -/
def IsIn (address start : Ipv6) (shared : Nat) : Prop :=
  ShareFront 128 shared address.toNat start.toNat

instance (address start : Ipv6) (shared : Nat) : Decidable (address.IsIn start shared) :=
  inferInstanceAs (Decidable (ShareFront ..))

/-- The ranges of version 6 that are set aside, each as its first address and how many bits of it
count. -/
def setAside : List (Ipv6 × Nat) :=
  [(⟨#v[0, 0, 0, 0, 0, 0, 0, 0]⟩, 128), (⟨#v[0, 0, 0, 0, 0, 0, 0, 1]⟩, 128),
    (⟨#v[0xFC00, 0, 0, 0, 0, 0, 0, 0]⟩, 7), (⟨#v[0xFE80, 0, 0, 0, 0, 0, 0, 0]⟩, 10),
    (⟨#v[0xFF00, 0, 0, 0, 0, 0, 0, 0]⟩, 8), (⟨#v[0x2001, 0x0DB8, 0, 0, 0, 0, 0, 0]⟩, 32)]

/-- Whether an address is `::ffff:a.b.c.d` for an address `a.b.c.d` of version 4. -/
def Holds (address : Ipv6) (inner : Ipv4) : Prop :=
  address.toNat = 0xFFFF * 2 ^ 32 + inner.toNat

instance (address : Ipv6) (inner : Ipv4) : Decidable (address.Holds inner) :=
  inferInstanceAs (Decidable (_ = _))

theorem forall_segment_lt (segments : List UInt16) :
    ∀ digit ∈ segments.map UInt16.toNat, digit < 2 ^ 16 :=
  List.forall_mem_map.mpr fun segment _ => segment.toNat_lt

/-- The segments in a row, of which the first two tell the addresses for documentation. -/
theorem exists_toList_segments : ∃ second others,
    address.segments.toList = address.lead :: second :: others ∧ others.length = 6 ∧
      address.isDocumentation = (address.lead == 0x2001 && second == 0x0DB8) := by
  refine ⟨address.segments[1], address.segments.toList.drop 2, ?_, by simp, rfl⟩
  have length : address.segments.toList.length = 8 := Vector.length_toList
  rw [lead, ← Vector.getElem_toList (by omega), ← Vector.getElem_toList (i := 1) (by omega),
    ← List.drop_eq_getElem_cons, ← List.drop_eq_getElem_cons, List.drop_zero]

theorem isIn_all : address.IsIn start 128 ↔ address.segments.toList = start.segments.toList := by
  rw [IsIn, shareFront_all, toNat, toNat, numberOf_inj (forall_segment_lt _) (forall_segment_lt _) (by simp)]
  exact List.map_inj_right fun _ _ => UInt16.toNat_inj.mp

theorem isIn_of_le_sixteen (le : shared ≤ 16) :
    address.IsIn start shared ↔ ShareFront 16 shared address.lead.toNat start.lead.toNat := by
  obtain ⟨second, others, inRow, length, -⟩ := address.exists_toList_segments
  obtain ⟨startSecond, startOthers, startInRow, startLength, -⟩ := start.exists_toList_segments
  rw [IsIn, toNat, toNat, inRow, startInRow]
  have sixteen : 128 = 16 * ((List.map UInt16.toNat (second :: others)).length + 1) := by
    rw [List.length_map, List.length_cons, length]
  rw [sixteen]
  exact shareFront_cons_of_le (forall_segment_lt _) (forall_segment_lt _) (by simp [length, startLength]) le

theorem isIn_thirtyTwo {first second startFirst startSecond : UInt16} {others startOthers : List UInt16}
    (inRow : address.segments.toList = first :: second :: others) (length : others.length = 6)
    (startInRow : start.segments.toList = startFirst :: startSecond :: startOthers)
    (startLength : startOthers.length = 6) :
    address.IsIn start 32 ↔ first = startFirst ∧ second = startSecond := by
  have sixteen : second = startSecond ↔ ShareFront 16 16 second.toNat startSecond.toNat := by
    rw [shareFront_all, UInt16.toNat_inj]
  have widthOfAll : 128 = 16 * ((List.map UInt16.toNat (second :: others)).length + 1) := by
    rw [List.length_map, List.length_cons, length]
  rw [IsIn, toNat, toNat, inRow, startInRow, sixteen, ← UInt16.toNat_inj]
  rw [widthOfAll]
  refine Iff.trans (shareFront_cons_of_ge (forall_segment_lt (_ :: _)) (forall_segment_lt (_ :: _))
    (by simp [length, startLength]) (by decide)) ?_
  refine and_congr_right fun _ => ?_
  exact shareFront_cons_of_le (forall_segment_lt _) (forall_segment_lt _) (by simp [length, startLength])
    (Nat.le_refl 16)

/-! ### Addresses of version 4 inside those of version 6 -/

theorem toNat_segments (high low : UInt8) :
    (high.toUInt16 * 256 + low.toUInt16).toNat = high.toNat * 256 + low.toNat := by
  have := high.toNat_lt
  have := low.toNat_lt
  simp
  omega

theorem numberOf_toSegments (inner : Ipv4) :
    numberOf 16 (inner.toSegments.map UInt16.toNat) = inner.toNat := by
  simp only [Ipv4.toSegments, List.map_cons, List.map_nil, toNat_segments, numberOf, List.length_cons,
    List.length_nil, Ipv4.toNat]
  omega

theorem holds_iff {inner : Ipv4} : address.Holds inner ↔
    address.segments.toList = [0, 0, 0, 0, 0, 0xFFFF] ++ inner.toSegments := by
  have number : 0xFFFF * 2 ^ 32 + inner.toNat =
      numberOf 16 (([0, 0, 0, 0, 0, 0xFFFF] ++ inner.toSegments).map UInt16.toNat) := by
    rw [← numberOf_toSegments]
    simp [numberOf, Ipv4.toSegments]
  rw [Holds, number, toNat, numberOf_inj (forall_segment_lt _) (forall_segment_lt _)
    (by simp [Ipv4.toSegments])]
  exact List.map_inj_right fun _ _ => UInt16.toNat_inj.mp

theorem toSegments_octets (high low : UInt16) :
    Ipv4.toSegments ⟨(high >>> 8).toUInt8, high.toUInt8, (low >>> 8).toUInt8, low.toUInt8⟩ = [high, low] := by
  have join (whole : UInt16) :
      (whole >>> 8).toUInt8.toUInt16 * 256 + whole.toUInt8.toUInt16 = whole := by
    have := whole.toNat_lt
    rw [← UInt16.toNat_inj]
    simp [Nat.shiftRight_eq_div_pow]
    omega
  rw [Ipv4.toSegments, join, join]

theorem octets_toSegments {inner : Ipv4} {high low : UInt16} (parts : inner.toSegments = [high, low]) :
    ⟨(high >>> 8).toUInt8, high.toUInt8, (low >>> 8).toUInt8, low.toUInt8⟩ = inner := by
  have part (upper lower : UInt8) : ((upper.toUInt16 * 256 + lower.toUInt16) >>> 8).toUInt8 = upper ∧
      (upper.toUInt16 * 256 + lower.toUInt16).toUInt8 = lower := by
    have := upper.toNat_lt
    have := lower.toNat_lt
    rw [← UInt8.toNat_inj, ← UInt8.toNat_inj]
    simp [Nat.shiftRight_eq_div_pow]
    omega
  cases parts
  simp only [part]

theorem mapped?_eq_some_iff {inner : Ipv4} : address.mapped? = some inner ↔ address.Holds inner := by
  rw [holds_iff, mapped?]
  split
  · rename_i high low inRow
    rw [inRow, Option.some.injEq]
    constructor
    · rintro rfl
      rw [toSegments_octets]
      rfl
    · intro same
      have sameParts : [high, low] = inner.toSegments := by simpa using same
      exact octets_toSegments sameParts.symm
  · rename_i otherForm
    exact iff_of_false nofun fun inRow => otherForm _ _ inRow

theorem isLoopback_iff :
    address.isLoopback = true ↔ address.IsIn ⟨#v[0, 0, 0, 0, 0, 0, 0, 1]⟩ 128 := by
  rw [isLoopback, beq_iff_eq, isIn_all]
  rfl

theorem isUnspecified_iff :
    address.isUnspecified = true ↔ address.IsIn ⟨#v[0, 0, 0, 0, 0, 0, 0, 0]⟩ 128 := by
  rw [isUnspecified, beq_iff_eq, isIn_all]
  rfl

/-- A mask of so many bits leaves of the first segment what a range fixes. -/
theorem lead_and_iff {mask lead : UInt16} (isLead : start.lead = lead) (masked : lead &&& mask = lead)
    (isMask : mask.toNat = 2 ^ 16 - 2 ^ (16 - shared)) (le : shared ≤ 16) :
    (address.lead &&& mask == lead) = true ↔ address.IsIn start shared := by
  rw [isIn_of_le_sixteen le, ← and_eq_and_iff address.lead.toNat_lt start.lead.toNat_lt, beq_iff_eq, isLead,
    ← UInt16.toNat_inj, UInt16.toNat_and, ← isMask, ← UInt16.toNat_and, ← UInt16.toNat_and, masked]

theorem isMulticast_iff :
    address.isMulticast = true ↔ address.IsIn ⟨#v[0xFF00, 0, 0, 0, 0, 0, 0, 0]⟩ 8 := by
  rw [isMulticast]
  exact lead_and_iff rfl rfl rfl (by decide)

theorem isUniqueLocal_iff :
    address.isUniqueLocal = true ↔ address.IsIn ⟨#v[0xFC00, 0, 0, 0, 0, 0, 0, 0]⟩ 7 := by
  rw [isUniqueLocal]
  exact lead_and_iff rfl rfl rfl (by decide)

theorem isLinkLocal_iff :
    address.isLinkLocal = true ↔ address.IsIn ⟨#v[0xFE80, 0, 0, 0, 0, 0, 0, 0]⟩ 10 := by
  rw [isLinkLocal]
  exact lead_and_iff rfl rfl rfl (by decide)

theorem isDocumentation_iff :
    address.isDocumentation = true ↔ address.IsIn ⟨#v[0x2001, 0x0DB8, 0, 0, 0, 0, 0, 0]⟩ 32 := by
  obtain ⟨second, others, inRow, length, isDocumentation_eq⟩ := address.exists_toList_segments
  rw [isDocumentation_eq, Bool.and_eq_true, beq_iff_eq, beq_iff_eq, isIn_thirtyTwo inRow length rfl rfl]

theorem isPublic_of_holds {inner : Ipv4} (holds : address.Holds inner) :
    address.isPublic = inner.isPublic := by
  rw [isPublic, mapped?_eq_some_iff.mpr holds]

/-- Any host on the internet may be reached at an address of version 6 that holds none of version 4,
unless it is in a range that is set aside. -/
theorem isPublic_eq_false_iff_isIn (holdsNone : ∀ inner, ¬ address.Holds inner) :
    address.isPublic = false ↔ ∃ range ∈ setAside, address.IsIn range.1 range.2 := by
  have notMapped : address.mapped? = none := by
    rw [Option.eq_none_iff_forall_ne_some]
    exact fun inner isMapped => holdsNone inner (mapped?_eq_some_iff.mp isMapped)
  simp only [isPublic, notMapped, Bool.not_eq_false', Bool.or_eq_true, isLoopback_iff, isUnspecified_iff,
    isMulticast_iff, isUniqueLocal_iff, isLinkLocal_iff, isDocumentation_iff, setAside, List.mem_cons,
    List.not_mem_nil, or_false, or_and_right, exists_or, exists_eq_left]
  grind

end Ipv6

end HandleFederation
