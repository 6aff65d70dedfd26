/-
Whole numbers on a machine with 64-bit integers.

Such a machine has two types of integers, signed and unsigned, and no whole number needs a
third. Two numbers are compared in the signed type if both fit it, else in the unsigned one
if both fit that, and else as reals. The last happens only where a negative number meets
one too large for the signed type. Then a conversion need not be exact, as long as it keeps
the sign. So the comparison is that of the integers (`compareInStages_eq`). Divisibility is
decided on magnitudes, which all fit the unsigned type, that of the least signed number
among them (`dividesMagnitude_eq`).
-/
import Conformance.Proofs.Json.Magnitude
import Mathlib.Order.Compare

namespace Conformance

namespace MachineInteger

/-- The number in the signed type, if it fits. -/
def signed? (n : Int) : Option Int64 :=
  if -2 ^ 63 ≤ n ∧ n < 2 ^ 63 then some (.ofInt n) else none

/-- The number in the unsigned type, if it fits. -/
def unsigned? (n : Int) : Option UInt64 :=
  if 0 ≤ n ∧ n < 2 ^ 64 then some (.ofNat n.toNat) else none

/-- The number fits one of the types. -/
def Fits (n : Int) : Prop := -2 ^ 63 ≤ n ∧ n < 2 ^ 64

/-- The magnitude of the number, in the unsigned type. -/
def magnitude? (n : Int) : Option UInt64 :=
  (unsigned? n).or ((signed? n).map fun x => .ofNat x.toInt.natAbs)

/-- Numbers are compared in a type that both fit, and as reals if there is none. -/
def compareInStages (real : Int → ℚ) (m n : Int) : Ordering :=
  match signed? m, signed? n with
  | some x, some y => compare x y
  | _, _ =>
    match unsigned? m, unsigned? n with
    | some x, some y => compare x y
    | _, _ => compare (real m) (real n)

/-- Whether the magnitude of the step divides that of the number. -/
def dividesMagnitude (step n : Int) : Bool :=
  match magnitude? n, magnitude? step with
  | some x, some y => y != 0 && x % y == 0
  | _, _ => false

/-- A conversion to reals that keeps the sign. -/
structure KeepsSign (real : Int → ℚ) : Prop where
  neg : ∀ n < 0, real n < 0
  zero : real 0 = 0
  pos : ∀ n, 0 < n → 0 < real n

variable {m n : Int}

-- ================================================================ types

/-- A number that is taken into a type is the one that is read from it. -/
theorem toInt_of_signed? {x : Int64} (h : signed? n = some x) : x.toInt = n := by
  obtain ⟨⟨hlow, hhigh⟩, hx⟩ := Option.ite_none_right_eq_some.mp h
  rw [← Option.some.inj hx]
  exact Int64.toInt_ofInt_of_le hlow hhigh

theorem toNat_of_unsigned? {x : UInt64} (h : unsigned? n = some x) : (x.toNat : Int) = n := by
  obtain ⟨⟨hlow, hhigh⟩, hx⟩ := Option.ite_none_right_eq_some.mp h
  have hsize : n.toNat < 2 ^ 64 := by omega
  rw [← Option.some.inj hx, UInt64.toNat_ofNat', Nat.mod_eq_of_lt hsize]
  exact Int.toNat_of_nonneg hlow

/-- It is taken just if it is within the bounds of the type. -/
theorem signed?_eq_none_iff : signed? n = none ↔ ¬ (-2 ^ 63 ≤ n ∧ n < 2 ^ 63) := by
  simp [signed?]

theorem unsigned?_eq_none_iff : unsigned? n = none ↔ ¬ (0 ≤ n ∧ n < 2 ^ 64) := by
  simp [unsigned?]

/-- A number that fits has its magnitude in the unsigned type. -/
theorem exists_magnitude? (h : Fits n) : ∃ x, magnitude? n = some x ∧ x.toNat = n.natAbs := by
  obtain ⟨hlow, hhigh⟩ := h
  unfold magnitude?
  cases hunsigned : unsigned? n with
  | some x =>
      have hx := toNat_of_unsigned? hunsigned
      exact ⟨x, rfl, by omega⟩
  | none =>
      -- it is negative, so it is in the signed type
      have hneg := unsigned?_eq_none_iff.mp hunsigned
      cases hsigned : signed? n with
      | none =>
          have := signed?_eq_none_iff.mp hsigned
          omega
      | some x =>
          have hsize : n.natAbs < 2 ^ 64 := by omega
          refine ⟨_, rfl, ?_⟩
          show (UInt64.ofNat x.toInt.natAbs).toNat = n.natAbs
          rw [toInt_of_signed? hsigned, UInt64.toNat_ofNat', Nat.mod_eq_of_lt hsize]

-- =========================================================== comparison

/-- Within one type the order is that of the integers. -/
theorem compare_signed {x y : Int64} (hx : x.toInt = m) (hy : y.toInt = n) :
    compare x y = compare m n := by
  subst hx hy
  show compareOfLessAndEq x y = compareOfLessAndEq x.toInt y.toInt
  simp only [compareOfLessAndEq, Int64.lt_iff_toInt_lt, Int64.toInt_inj]

theorem compare_unsigned {x y : UInt64} (hx : (x.toNat : Int) = m) (hy : (y.toNat : Int) = n) :
    compare x y = compare m n := by
  subst hx hy
  show compareOfLessAndEq x y = compareOfLessAndEq (x.toNat : Int) (y.toNat : Int)
  simp only [compareOfLessAndEq, UInt64.lt_iff_toNat_lt, Int.ofNat_lt, Int.natCast_inj,
    UInt64.toNat_inj]

section

variable {real : Int → ℚ} (hreal : KeepsSign real)
include hreal

/-- A conversion that keeps signs tells which numbers are positive. -/
theorem KeepsSign.pos_iff (n : Int) : 0 < real n ↔ 0 < n := by
  rcases lt_trichotomy n 0 with hn | rfl | hn
  · exact iff_of_false (hreal.neg n hn).not_gt hn.not_gt
  · rw [hreal.zero]
    exact iff_of_false (lt_irrefl _) (lt_irrefl _)
  · exact iff_of_true (hreal.pos n hn) hn

/-- Numbers on either side of zero are told apart by their signs. -/
theorem compare_real (h : (m < 0 ∧ 0 < n) ∨ (n < 0 ∧ 0 < m)) :
    compare (real m) (real n) = compare m n := by
  rcases h with ⟨hm, hn⟩ | ⟨hn, hm⟩
  · have hlt := (hreal.neg m hm).trans (hreal.pos n hn)
    rw [compare_lt_iff_lt.mpr hlt, compare_lt_iff_lt.mpr (hm.trans hn)]
  · have hgt := (hreal.neg n hn).trans (hreal.pos m hm)
    rw [compare_gt_iff_gt.mpr hgt, compare_gt_iff_gt.mpr (hn.trans hm)]

/-- The stages compare numbers as integers. -/
theorem compareInStages_eq (hm : Fits m) (hn : Fits n) :
    compareInStages real m n = compare m n := by
  unfold compareInStages
  split
  · next hx hy => exact compare_signed (toInt_of_signed? hx) (toInt_of_signed? hy)
  · next hsigned =>
    split
    · next hx hy => exact compare_unsigned (toNat_of_unsigned? hx) (toNat_of_unsigned? hy)
    · next hunsigned =>
      -- one of the two is too large for the signed type, the other is negative
      have hnotSigned : ¬ ((-2 ^ 63 ≤ m ∧ m < 2 ^ 63) ∧ (-2 ^ 63 ≤ n ∧ n < 2 ^ 63)) := by
        rintro ⟨hm, hn⟩
        exact hsigned _ _ (if_pos hm) (if_pos hn)
      have hnotUnsigned : ¬ ((0 ≤ m ∧ m < 2 ^ 64) ∧ (0 ≤ n ∧ n < 2 ^ 64)) := by
        rintro ⟨hm, hn⟩
        exact hunsigned _ _ (if_pos hm) (if_pos hn)
      obtain ⟨hm, hm'⟩ := hm
      obtain ⟨hn, hn'⟩ := hn
      exact compare_real hreal (by omega)

end

-- ========================================================= divisibility

/-- Magnitudes divide one another just as the numbers do. -/
theorem dividesMagnitude_eq (hm : Fits m) (hn : Fits n) :
    dividesMagnitude m n = (Number.whole n).isMultipleOf (.whole m) := by
  obtain ⟨y, hy, hym⟩ := exists_magnitude? hm
  obtain ⟨x, hx, hxn⟩ := exists_magnitude? hn
  unfold dividesMagnitude
  rw [hx, hy]
  show (y != 0 && x % y == 0) = (m != 0 && n % m == 0)
  have hzero : y = 0 ↔ m = 0 := by
    rw [← UInt64.toNat_inj, hym]
    exact Int.natAbs_eq_zero
  have hrest : x % y = 0 ↔ n % m = 0 := by
    rw [← UInt64.toNat_inj, UInt64.toNat_mod, hxn, hym, ← Int.dvd_iff_emod_eq_zero,
      ← Int.natAbs_dvd_natAbs, Nat.dvd_iff_mod_eq_zero]
    rfl
  rw [Bool.eq_iff_iff]
  simp only [Bool.and_eq_true, bne_iff_ne, ne_eq, beq_iff_eq, hzero, hrest]

end MachineInteger

-- ========================================================== binary64

namespace Binary64

/-- Rounding to binary64 keeps the sign: it does not pass zero, one or minus one, which can
be stored. -/
theorem keepsSign_ofInt : MachineInteger.KeepsSign fun n => (ofInt n).value := by
  -- one and minus one can be stored
  have hstored : ∀ negative, (⟨negative, 1, 0⟩ : Binary64).Stored := fun _ => by simp [Stored]
  constructor
  case neg =>
    intro n hn
    have hvalue : (⟨true, 1, 0⟩ : Binary64).value = -1 := by simp [value, signed]
    have hle : (ofInt n).value ≤ -1 := by
      rw [← hvalue]
      refine ofInt_le_value (hstored true) ?_
      rw [hvalue]
      exact_mod_cast Int.le_sub_one_of_lt hn
    exact hle.trans_lt (by norm_num)
  case zero => simp [ofInt, roundRatio, value, signed]
  case pos =>
    intro n hn
    have hvalue : (⟨false, 1, 0⟩ : Binary64).value = 1 := by simp [value, signed]
    have hle : 1 ≤ (ofInt n).value := by
      rw [← hvalue]
      refine value_le_ofInt (hstored false) ?_
      rw [hvalue]
      exact_mod_cast hn
    exact one_pos.trans_le hle

end Binary64

end Conformance
