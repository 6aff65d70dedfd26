/-
What it takes for one number to be a multiple of another.

Among whole numbers it is divisibility. A real is written in decimals, and seldom is the
binary64 number the decimal one that was written, so divisibility of the two values would
be the wrong question: three tenths would not be a multiple of one tenth. What is asked
instead is said in `DividesReal`. The point is moved to the right until both numbers are
whole, and these are divided. Where they would be too large for that, the quotient has to
be near to a whole number, and it is compared to the nearest, for no other is nearer
(`abs_value_sub_nearestWhole_le`).
-/
import Conformance.Proofs.Json.Magnitude
import Mathlib.Algebra.Order.Ring.Abs

namespace Conformance

-- ================================================= nearest whole numbers

/-- Rounded by half a unit, a ratio moves by a half at most. -/
theorem abs_div_sub_rounded {m unit : Nat} (hunit : 0 < unit) :
    |(m : ℚ) / unit - ((2 * m + unit) / (2 * unit) : Nat)| ≤ 1 / 2 := by
  have hpos : (0 : ℚ) < unit := by exact_mod_cast hunit
  have hle : 2 * unit * ((2 * m + unit) / (2 * unit)) ≤ 2 * m + unit := Nat.mul_div_le _ _
  have hlt : 2 * m + unit < 2 * unit * ((2 * m + unit) / (2 * unit) + 1) :=
    Nat.lt_mul_div_succ _ (by omega)
  generalize (2 * m + unit) / (2 * unit) = n at hle hlt ⊢
  have hbelow : 2 * (unit : ℚ) * n ≤ 2 * m + unit := by exact_mod_cast hle
  have habove : 2 * (m : ℚ) + unit < 2 * unit * (n + 1) := by exact_mod_cast hlt
  rw [abs_le, le_sub_iff_add_le, sub_le_iff_le_add, le_div_iff₀ hpos, div_le_iff₀ hpos]
  constructor <;> linarith

namespace Binary64

/-- The nearest whole number is half a unit away at most. -/
theorem abs_value_sub_nearestWhole (x : Binary64) : |x.value - x.nearestWhole| ≤ 1 / 2 := by
  have hmagnitude : ∃ n : Nat, x.nearestWhole = (if x.negative then -(n : Int) else n) ∧
      |x.magnitude - n| ≤ 1 / 2 := by
    refine ⟨_, rfl, ?_⟩
    split
    · next hexponent =>
      have hpower : (2 : ℚ) ^ x.exponent = (2 : ℚ) ^ x.exponent.toNat := by
        rw [← zpow_natCast, Int.toNat_of_nonneg hexponent]
      rw [magnitude, hpower, Nat.pow_eq]
      push_cast
      norm_num
    · next hexponent =>
      have hpower : (2 : ℚ) ^ x.exponent = ((Nat.pow 2 (-x.exponent).toNat : Nat) : ℚ)⁻¹ := by
        rw [Nat.pow_eq, Nat.cast_pow, Nat.cast_ofNat, ← zpow_natCast, ← zpow_neg,
          Int.toNat_of_nonneg (by omega), neg_neg]
      rw [magnitude, hpower, ← div_eq_mul_inv]
      exact abs_div_sub_rounded (Nat.two_pow_pos _)
  obtain ⟨n, hnearest, hclose⟩ := hmagnitude
  rw [hnearest]
  cases hsign : x.negative with
  | false =>
      rw [value_of_not_negative hsign]
      exact hclose
  | true =>
      have hneg : -x.magnitude - ((-(n : Int) : Int) : ℚ) = -(x.magnitude - n) := by
        push_cast
        ring
      rw [value_of_negative hsign, if_pos rfl, hneg, abs_neg]
      exact hclose

/-- No whole number is nearer than the nearest. -/
theorem abs_value_sub_nearestWhole_le (x : Binary64) (k : Int) :
    |x.value - x.nearestWhole| ≤ |x.value - k| := by
  by_cases hk : x.nearestWhole = k
  · rw [hk]
  · have hapart : (1 : ℚ) ≤ |(x.nearestWhole : ℚ) - k| := by
      exact_mod_cast Int.one_le_abs (sub_ne_zero.mpr hk)
    have htriangle : |(x.nearestWhole : ℚ) - k| ≤ |x.nearestWhole - x.value| + |x.value - k| :=
      abs_sub_le _ _ _
    rw [abs_sub_comm _ x.value] at htriangle
    linarith [abs_value_sub_nearestWhole x]

theorem distanceToWhole_snd_pos (x : Binary64) : 0 < x.distanceToWhole.2 := Nat.two_pow_pos _

theorem distanceToWhole_fst (x : Binary64) :
    (x.distanceToWhole.1 : ℚ) = |x.value - x.nearestWhole| * x.distanceToWhole.2 := by
  have hpower : (2 : ℚ) ^ (-x.exponent).toNat * (2 : ℚ) ^ x.exponent
      = (2 : ℚ) ^ x.exponent.toNat := by
    rw [← zpow_natCast _ x.exponent.toNat]
    exact two_pow_mul_two_zpow (by omega)
  have hunit : (0 : ℚ) ≤ (2 : ℚ) ^ (-x.exponent).toNat := by positivity
  simp only [distanceToWhole, Nat.pow_eq, Nat.cast_natAbs, Int.cast_abs]
  push_cast
  rw [← hpower, value]
  nth_rewrite 3 [← abs_of_nonneg hunit]
  rw [← abs_mul]
  ring_nf

end Binary64

namespace Number

-- ========================================================== the quotient

/-- Scaled by its power of two, the tolerance is its mantissa. -/
theorem tolerance_value :
    tolerance.value * ((2 ^ (-tolerance.exponent).toNat : Nat) : ℚ) = tolerance.mantissa := by
  have hexponent : -tolerance.exponent = ((-tolerance.exponent).toNat : Int) := by decide +kernel
  have hsign : tolerance.negative = false := by decide +kernel
  rw [Binary64.value_of_not_negative hsign, Binary64.magnitude, Nat.cast_pow, Nat.cast_ofNat,
    mul_assoc, ← zpow_natCast, ← hexponent, ← zpow_add₀ (by norm_num), add_neg_cancel, zpow_zero,
    mul_one]

/-- A number is found to be nearly whole just if some whole number is within the
tolerance. -/
theorem nearlyWhole_iff (q : Binary64) :
    nearlyWhole q = true ↔ q.isFinite = true ∧ ∃ k : Int, |q.value - k| < tolerance.value := by
  have hunit : (0 : ℚ) < q.distanceToWhole.2 := by exact_mod_cast q.distanceToWhole_snd_pos
  have hpower : (0 : ℚ) < ((2 ^ (-tolerance.exponent).toNat : Nat) : ℚ) := by positivity
  have hnear : q.distanceToWhole.1 * 2 ^ (-tolerance.exponent).toNat
        < tolerance.mantissa * q.distanceToWhole.2 ↔
      |q.value - q.nearestWhole| < tolerance.value := by
    rw [← Nat.cast_lt (α := ℚ), Nat.cast_mul, Nat.cast_mul, Binary64.distanceToWhole_fst,
      ← tolerance_value, mul_right_comm, mul_lt_mul_iff_left₀ hunit, mul_lt_mul_iff_left₀ hpower]
  rw [nearlyWhole, Bool.and_eq_true, decide_eq_true_eq, Nat.pow_eq, hnear]
  refine and_congr_right fun _ => ⟨fun h => ⟨_, h⟩, fun h => ?_⟩
  obtain ⟨k, hk⟩ := h
  exact (q.abs_value_sub_nearestWhole_le k).trans_lt hk

-- ========================================================== divisibility

/-- The real with its point moved to the right, as a whole number. -/
def scaled (decimals : Nat) (x : Binary64) : Int := (x.mul (.powerOfTen decimals)).nearestWhole

/-- The step divides the number as decimals do. Once the point is moved in both behind the
last digit of either, it divides as a whole number. Where these are too large to be exact,
the quotient is a whole number within the tolerance. -/
def DividesReal (step x : Binary64) : Prop :=
  let decimals := max (places x) (places step)
  if decimals ≤ 15 ∧ scaled decimals step ≠ 0 ∧
      (scaled decimals x).natAbs < exactBelow ∧ (scaled decimals step).natAbs < exactBelow then
    scaled decimals step ∣ scaled decimals x
  else (x.div step).isFinite = true ∧ ∃ k : Int, |(x.div step).value - k| < tolerance.value

/-- The step divides the number: as whole numbers do if both are whole, and else as
decimals do. -/
def Divides (step n : Number) : Prop :=
  match step, n with
  | whole k, whole m => k ∣ m
  | step, n => DividesReal step.toBinary64 n.toBinary64

theorem dividesReal_iff {step x : Binary64} :
    dividesReal step x = true ↔ DividesReal step x := by
  unfold dividesReal DividesReal scaled
  dsimp only
  split
  · rw [beq_iff_eq, Int.dvd_iff_emod_eq_zero]
  · exact nearlyWhole_iff _

variable {n step : Number}

/-- A positive number is not rounded to zero. -/
theorem isZero_of_isPositive (h : step.isPositive = true) :
    step.toBinary64.isZero = false := by
  cases step with
  | real x =>
      obtain ⟨-, hzero⟩ := Bool.and_eq_true_iff.mp h
      exact (Bool.not_eq_true' _).mp hzero
  | whole k =>
      have hpos : 0 < k := of_decide_eq_true h
      exact Binary64.isZero_roundRatio (Int.natAbs_pos.mpr hpos.ne') _

/-- A number is found to be a multiple of a positive step just if the step divides it. -/
theorem isMultipleOf_iff (h : step.isPositive = true) :
    n.isMultipleOf step = true ↔ step.Divides n := by
  have hreal : (!step.toBinary64.isZero && dividesReal step.toBinary64 n.toBinary64) = true ↔
      DividesReal step.toBinary64 n.toBinary64 := by
    rw [isZero_of_isPositive h, Bool.not_false, Bool.true_and, dividesReal_iff]
  cases step with
  | whole k =>
      cases n with
      | whole m =>
          have hpos : 0 < k := of_decide_eq_true h
          show (k != 0 && m % k == 0) = true ↔ k ∣ m
          rw [Bool.and_eq_true, bne_iff_ne, beq_iff_eq, Int.dvd_iff_emod_eq_zero]
          exact and_iff_right hpos.ne'
      | real x => exact hreal
  | real y => cases n <;> exact hreal

end Number

end Conformance
