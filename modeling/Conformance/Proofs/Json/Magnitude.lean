/-
The exact values of numbers, and what comparing and rounding do to them.

A binary64 number is a rational, and two of them are compared as rationals. A whole
number that meets a real in a comparison is rounded first. Rounding goes to a
neighbour: it does not pass a number that binary64 can store (`value_le_ofInt`,
`ofInt_le_value`). So a comparison never puts two numbers in the wrong order. At worst it
finds them equal when they are not (`lt_of_compare`, `meets_of_compare`).

What was rounded can be stored itself (`stored_roundRatio`), and every real that is read
was rounded last (`Numeral.stored_of_value?`). So all numbers of a document can be stored
(`Json.stored_of_read?`).
-/
import Conformance.Proofs.Json.Names
import Mathlib.Algebra.Order.Field.Power
import Mathlib.Algebra.Order.Ring.Rat
import Mathlib.Data.Rat.Cast.Order
import Mathlib.Tactic.Linarith
import Mathlib.Tactic.Positivity
import Mathlib.Tactic.Ring

namespace Conformance

namespace Binary64

variable {x y : Binary64}

-- ============================================================== values

/-- The number without its sign, as a rational. -/
def magnitude (x : Binary64) : ℚ := x.mantissa * (2 : ℚ) ^ x.exponent

/-- The number as a rational. -/
def value (x : Binary64) : ℚ := x.signed * (2 : ℚ) ^ x.exponent

/-- The mantissa has no more bits than are stored. -/
def Stored (x : Binary64) : Prop := x.mantissa < 2 ^ 53

/-- The sign is kept apart from the magnitude. -/
theorem magnitude_nonneg (x : Binary64) : 0 ≤ x.magnitude := by
  unfold magnitude
  positivity

theorem value_of_negative (h : x.negative = true) : x.value = -x.magnitude := by
  rw [value, signed, if_pos h, magnitude]
  push_cast
  ring

theorem value_of_not_negative (h : x.negative = false) : x.value = x.magnitude := by
  rw [value, signed, h]
  rfl

/-- The other sign makes the other number. -/
theorem value_withSign_not (x : Binary64) : (x.withSign (!x.negative)).value = -x.value := by
  unfold value signed withSign
  cases x.negative <;> simp

/-- Mantissas are shifted by powers of two, and this puts the shift into the exponent. -/
theorem two_pow_mul_two_zpow {n : Nat} {e f : Int} (h : n + e = f) :
    (2 : ℚ) ^ n * (2 : ℚ) ^ e = (2 : ℚ) ^ f := by
  rw [← zpow_natCast, ← zpow_add₀ (by norm_num), h]

/-- Counted in steps of a smaller power of two, the value is what it is. -/
theorem stepsOf_mul {e : Int} (h : e ≤ x.exponent) :
    (x.stepsOf e : ℚ) * (2 : ℚ) ^ e = x.value := by
  have hpower : ((2 : ℚ) ^ (x.exponent - e).toNat) * (2 : ℚ) ^ e = (2 : ℚ) ^ x.exponent :=
    two_pow_mul_two_zpow (by omega)
  calc (x.stepsOf e : ℚ) * (2 : ℚ) ^ e
      = x.signed * ((2 : ℚ) ^ (x.exponent - e).toNat * (2 : ℚ) ^ e) := by
        rw [stepsOf, Nat.pow_eq]
        push_cast
        ring
    _ = x.value := by rw [hpower, value]

/-- The order of values is that of their counts of common steps. -/
theorem stepsOf_lt_iff {e : Int} (hx : e ≤ x.exponent) (hy : e ≤ y.exponent) :
    x.stepsOf e < y.stepsOf e ↔ x.value < y.value := by
  have hpos : (0 : ℚ) < (2 : ℚ) ^ e := by positivity
  rw [← stepsOf_mul hx, ← stepsOf_mul hy, mul_lt_mul_iff_left₀ hpos, Int.cast_lt]

/-- So numbers are compared by their values. The steps are those of the smaller exponent,
and both are counted in them. -/
theorem compare_eq_lt : x.compare y = .lt ↔ x.value < y.value := by
  rw [compare, Int.compare_eq_lt]
  exact stepsOf_lt_iff (min_le_left ..) (min_le_right ..)

theorem compare_eq_gt : x.compare y = .gt ↔ y.value < x.value := by
  rw [compare, Int.compare_eq_gt]
  exact stepsOf_lt_iff (min_le_right ..) (min_le_left ..)

theorem compare_eq_eq : x.compare y = .eq ↔ x.value = y.value := by
  cases h : x.compare y with
  | lt => simp [(compare_eq_lt.mp h).ne]
  | gt => simp [(compare_eq_gt.mp h).ne']
  | eq =>
      have hlt : ¬ x.value < y.value := fun hlt => nomatch h.symm.trans (compare_eq_lt.mpr hlt)
      have hgt : ¬ y.value < x.value := fun hgt => nomatch h.symm.trans (compare_eq_gt.mpr hgt)
      simp [le_antisymm (not_lt.mp hgt) (not_lt.mp hlt)]

/-- A number with a fraction is no integer. -/
theorem value_ne_of_not_isWhole (h : x.isWhole = false) (k : Int) : x.value ≠ k := by
  obtain ⟨hexponent, hrest⟩ : ¬ 0 ≤ x.exponent ∧ x.mantissa % 2 ^ (-x.exponent).toNat ≠ 0 := by
    simpa [isWhole, Nat.pow_eq] using h
  intro hvalue
  have hpower : (2 : ℚ) ^ x.exponent * (2 : ℚ) ^ (-x.exponent).toNat = 1 := by
    rw [mul_comm]
    exact (two_pow_mul_two_zpow (by omega)).trans (zpow_zero 2)
  have hscaled : (x.signed : ℚ) = k * (2 : ℚ) ^ (-x.exponent).toNat := by
    rw [← hvalue, value, mul_assoc, hpower, mul_one]
  have hsigned : x.signed = k * 2 ^ (-x.exponent).toNat := by exact_mod_cast hscaled
  have hmantissa : x.mantissa = k.natAbs * 2 ^ (-x.exponent).toNat := by
    have habs : x.signed.natAbs = x.mantissa := by
      unfold signed
      split <;> simp
    rw [← habs, hsigned, Int.natAbs_mul, Int.natAbs_pow]
    rfl
  exact hrest (by rw [hmantissa, Nat.mul_mod_left])

-- ============================================================ rounding

/-- Rounding does not pass a whole number, from above. -/
theorem le_nearestEven {a b t : Nat} (hb : 0 < b) (h : t * b ≤ a) : t ≤ nearestEven a b := by
  have hle : t ≤ a / b := (Nat.le_div_iff_mul_le hb).mpr h
  unfold nearestEven
  dsimp only
  split <;> omega

/-- Rounding does not pass a whole number, from below. -/
theorem nearestEven_le {a b t : Nat} (hb : 0 < b) (h : a ≤ t * b) : nearestEven a b ≤ t := by
  have hle : a / b ≤ t := Nat.div_le_of_le_mul (by rwa [Nat.mul_comm])
  -- if something is left over, the next number up is still not above
  have hlt : 0 < a % b → a / b < t := by
    intro hrest
    refine Nat.div_lt_of_lt_mul (Nat.lt_of_le_of_ne (by rwa [Nat.mul_comm]) ?_)
    rintro rfl
    simp at hrest
  unfold nearestEven
  dsimp only
  split
  · exact hle
  · next hgt =>
    have := Nat.compare_eq_gt.mp hgt
    exact hlt (by omega)
  · next heq =>
    have := Nat.compare_eq_eq.mp heq
    have := hlt (by omega)
    omega

/-- Rounding does not depend on the sign. -/
theorem withSign_roundRatio (negative other : Bool) (num den : Nat) :
    (roundRatio other num den).withSign negative = roundRatio negative num den := by
  unfold roundRatio
  split
  · rfl
  · dsimp only
    split <;> rfl

/-- Rounding does not change the sign. -/
theorem negative_roundRatio (negative : Bool) (num den : Nat) :
    (roundRatio negative num den).negative = negative := by
  rw [← withSign_roundRatio negative negative]
  rfl

section

variable {num den t : Nat} {e : Int}

/-- A fraction in steps is a fraction again. -/
theorem inSteps_snd_pos (hden : 0 < den) (num : Nat) (e : Int) : 0 < (inSteps num den e).2 :=
  Nat.mul_pos hden (Nat.two_pow_pos _)

/-- A ratio is what it was, counted in steps. -/
theorem inSteps_mul (num den : Nat) (e : Int) :
    ((inSteps num den e).1 : ℚ) * (den * (2 : ℚ) ^ e) = num * (inSteps num den e).2 := by
  have hpower : (2 : ℚ) ^ (-e).toNat * (2 : ℚ) ^ e = (2 : ℚ) ^ e.toNat := by
    rw [← zpow_natCast _ e.toNat]
    exact two_pow_mul_two_zpow (by omega)
  calc ((inSteps num den e).1 : ℚ) * (den * (2 : ℚ) ^ e)
      = num * (den * ((2 : ℚ) ^ (-e).toNat * (2 : ℚ) ^ e)) := by
        simp only [inSteps, Nat.pow_eq]
        push_cast
        ring
    _ = num * (inSteps num den e).2 := by
        rw [hpower]
        simp only [inSteps, Nat.pow_eq]
        push_cast
        rfl

/-- A count is below the ratio in steps just if so many steps are below the ratio. -/
theorem mul_le_inSteps_iff (hden : 0 < den) :
    t * (inSteps num den e).2 ≤ (inSteps num den e).1 ↔ t * (den * (2 : ℚ) ^ e) ≤ num := by
  have hstep : (0 : ℚ) < den * (2 : ℚ) ^ e := by positivity
  have hsnd : (0 : ℚ) < (inSteps num den e).2 := by exact_mod_cast inSteps_snd_pos hden num e
  rw [← Nat.cast_le (α := ℚ), ← mul_le_mul_iff_left₀ hstep, inSteps_mul, Nat.cast_mul,
    mul_right_comm, mul_le_mul_iff_left₀ hsnd]

/-- It is above so many steps, or below, just if the number is. -/
theorem inSteps_le_mul_iff (hden : 0 < den) :
    (inSteps num den e).1 ≤ t * (inSteps num den e).2 ↔ num ≤ t * (den * (2 : ℚ) ^ e) := by
  have hstep : (0 : ℚ) < den * (2 : ℚ) ^ e := by positivity
  have hsnd : (0 : ℚ) < (inSteps num den e).2 := by exact_mod_cast inSteps_snd_pos hden num e
  rw [← Nat.cast_le (α := ℚ), ← mul_le_mul_iff_left₀ hstep, inSteps_mul, Nat.cast_mul,
    mul_right_comm, mul_le_mul_iff_left₀ hsnd]

/-- In the steps that are chosen for it, a ratio has 53 bits at most. -/
theorem le_mul_exponentFor (hden : 0 < den) (num : Nat) :
    (num : ℚ) ≤ ((2 ^ 53 : Nat) : ℚ) * (den * (2 : ℚ) ^ exponentFor num den) := by
  have hmono : ∀ {e f : Int}, e ≤ f →
      ((2 ^ 53 : Nat) : ℚ) * (den * (2 : ℚ) ^ e) ≤ ((2 ^ 53 : Nat) : ℚ) * (den * (2 : ℚ) ^ f) := by
    intro e f h
    have hpower : (2 : ℚ) ^ e ≤ (2 : ℚ) ^ f := zpow_le_zpow_right₀ (by norm_num) h
    exact mul_le_mul_of_nonneg_left (mul_le_mul_of_nonneg_left hpower (by positivity))
      (by positivity)
  unfold exponentFor
  dsimp only
  refine le_trans ?_ (hmono (le_max_right ..))
  split
  · next hsmall =>
    -- one step fewer, for the ratio has 52 bits at most
    have hlt := (Nat.div_lt_iff_lt_mul (inSteps_snd_pos hden ..)).mp hsmall
    refine ((inSteps_le_mul_iff hden).mp hlt.le).trans_eq ?_
    rw [zpow_sub_one₀ (by norm_num)]
    simp only [Nat.pow_eq]
    push_cast
    ring
  · have hnum : (num : ℚ) ≤ ((2 ^ (num.log2 + 1) : Nat) : ℚ) := by
      exact_mod_cast Nat.lt_log2_self.le
    have hlog : ((2 ^ den.log2 : Nat) : ℚ) ≤ den := by exact_mod_cast Nat.log2_self_le hden.ne'
    have hpower : ((2 ^ (num.log2 + 1) : Nat) : ℚ) = ((2 ^ 53 : Nat) : ℚ) *
        (((2 ^ den.log2 : Nat) : ℚ) * (2 : ℚ) ^ ((num.log2 : Int) - den.log2 - 52)) := by
      rw [← mul_assoc, ← Nat.cast_mul, ← pow_add, Nat.cast_pow, Nat.cast_pow, Nat.cast_ofNat,
        ← zpow_natCast _ (num.log2 + 1)]
      exact (two_pow_mul_two_zpow (by omega)).symm
    rw [hpower] at hnum
    refine hnum.trans (mul_le_mul_of_nonneg_left ?_ (by positivity))
    exact mul_le_mul_of_nonneg_right hlog (by positivity)

/-- What is rounded can be stored. -/
theorem stored_roundRatio (negative : Bool) (num : Nat) (hden : 0 < den) :
    (roundRatio negative num den).Stored := by
  unfold roundRatio
  split
  · exact Nat.two_pow_pos 53
  · have hle := nearestEven_le (inSteps_snd_pos hden num (exponentFor num den))
      ((inSteps_le_mul_iff hden).mpr (le_mul_exponentFor hden num))
    dsimp only
    split
    · exact Nat.pow_lt_pow_right (by decide) (by decide)
    · next hne => exact Nat.lt_of_le_of_ne hle hne

end

/-- The exponent of the steps in which a natural number is counted, so that it has 53
bits. -/
def stepExponent (k : Nat) : Int := (k.log2 : Int) - 52

/-- A natural number in its steps, as a ratio. -/
def stepRatio (k : Nat) : Nat × Nat := inSteps k 1 (stepExponent k)

section

variable {k : Nat}

/-- Integers are the fractions over one. -/
theorem stepRatio_snd_pos (k : Nat) : 0 < (stepRatio k).2 := inSteps_snd_pos one_pos _ _

/-- In their steps they are compared as they are with the denominator gone. -/
theorem mul_le_stepRatio_iff {t : Nat} :
    t * (stepRatio k).2 ≤ (stepRatio k).1 ↔ t * (2 : ℚ) ^ stepExponent k ≤ k := by
  rw [stepRatio, mul_le_inSteps_iff one_pos, Nat.cast_one, one_mul]

theorem stepRatio_le_mul_iff {t : Nat} :
    (stepRatio k).1 ≤ t * (stepRatio k).2 ↔ (k : ℚ) ≤ t * (2 : ℚ) ^ stepExponent k := by
  rw [stepRatio, inSteps_le_mul_iff one_pos, Nat.cast_one, one_mul]

/-- The number has 53 bits in its steps. -/
theorem two_pow_mul_step_le (hk : k ≠ 0) :
    ((2 ^ 52 : Nat) : ℚ) * (2 : ℚ) ^ stepExponent k ≤ k := by
  have hlog : ((2 ^ k.log2 : Nat) : ℚ) ≤ k := by exact_mod_cast Nat.log2_self_le hk
  have hpower : ((2 ^ 52 : Nat) : ℚ) * (2 : ℚ) ^ stepExponent k = ((2 ^ k.log2 : Nat) : ℚ) := by
    rw [Nat.cast_pow, Nat.cast_pow, Nat.cast_ofNat, ← zpow_natCast _ k.log2, stepExponent]
    exact two_pow_mul_two_zpow (by omega)
  rw [hpower]
  exact hlog

/-- Their exponent is known from their length. -/
theorem exponentFor_one (hk : k ≠ 0) : exponentFor k 1 = stepExponent k := by
  have hbits : Nat.pow 2 52 ≤ (stepRatio k).1 / (stepRatio k).2 :=
    (Nat.le_div_iff_mul_le (stepRatio_snd_pos k)).mpr
      (mul_le_stepRatio_iff.mpr (two_pow_mul_step_le hk))
  have hexponent : (k.log2 : Int) - (Nat.log2 1 : Nat) - 52 = stepExponent k := by
    rw [stepExponent, show Nat.log2 1 = 0 from rfl]
    omega
  have hleast : leastExponent ≤ stepExponent k := by
    rw [stepExponent, leastExponent]
    omega
  unfold exponentFor
  rw [hexponent]
  show max leastExponent
    (if (stepRatio k).1 / (stepRatio k).2 < Nat.pow 2 52 then _ else _) = _
  rw [if_neg (Nat.not_lt.mpr hbits), max_eq_right hleast]

/-- A natural number is rounded to a whole number of its steps. -/
theorem magnitude_roundRatio_one (hk : k ≠ 0) (negative : Bool) :
    (roundRatio negative k 1).magnitude
      = nearestEven (stepRatio k).1 (stepRatio k).2 * (2 : ℚ) ^ stepExponent k := by
  rw [roundRatio, if_neg hk, exponentFor_one hk]
  show magnitude (if nearestEven (stepRatio k).1 (stepRatio k).2 = Nat.pow 2 53 then _ else _) = _
  split
  · next hcarry =>
    rw [hcarry, magnitude, zpow_add₀ (by norm_num)]
    simp only [Nat.pow_eq]
    push_cast
    ring
  · rfl

/-- The magnitude of a stored number is a whole number of steps, or below 53 bits of
them. -/
theorem magnitude_cases (hx : x.Stored) (e : Int) :
    (∃ t : Nat, x.magnitude = t * (2 : ℚ) ^ e) ∨
      x.magnitude < ((2 ^ 52 : Nat) : ℚ) * (2 : ℚ) ^ e := by
  by_cases hexponent : e ≤ x.exponent
  · refine .inl ⟨x.mantissa * 2 ^ (x.exponent - e).toNat, ?_⟩
    -- the number has larger steps, each of which is a whole number of these
    have hpower : (2 : ℚ) ^ (x.exponent - e).toNat * (2 : ℚ) ^ e = (2 : ℚ) ^ x.exponent :=
      two_pow_mul_two_zpow (by omega)
    push_cast
    rw [mul_assoc, hpower, magnitude]
  · right
    -- it has smaller steps, and not enough of them
    have hmantissa : (x.mantissa : ℚ) < ((2 ^ 53 : Nat) : ℚ) := by exact_mod_cast hx
    have hstep : (2 : ℚ) ^ x.exponent ≤ (2 : ℚ) ^ (e - 1) :=
      zpow_le_zpow_right₀ (by norm_num) (by omega)
    calc x.magnitude
        < ((2 ^ 53 : Nat) : ℚ) * (2 : ℚ) ^ x.exponent :=
          mul_lt_mul_of_pos_right hmantissa (by positivity)
      _ ≤ ((2 ^ 53 : Nat) : ℚ) * (2 : ℚ) ^ (e - 1) :=
          mul_le_mul_of_nonneg_left hstep (by positivity)
      _ = ((2 ^ 52 : Nat) : ℚ) * (2 : ℚ) ^ e := by
          rw [zpow_sub₀ (by norm_num)]
          push_cast
          ring

/-- Rounding a natural number does not pass a stored number below it. -/
theorem magnitude_le_roundRatio (hx : x.Stored) (h : x.magnitude ≤ k) (negative : Bool) :
    x.magnitude ≤ (roundRatio negative k 1).magnitude := by
  by_cases hk : k = 0
  · subst hk
    exact h.trans (by rw [Nat.cast_zero]; exact magnitude_nonneg _)
  · rw [magnitude_roundRatio_one hk]
    have hstep : (0 : ℚ) < (2 : ℚ) ^ stepExponent k := by positivity
    have hsteps : ∀ t : Nat, t * (2 : ℚ) ^ stepExponent k ≤ k →
        t * (2 : ℚ) ^ stepExponent k
          ≤ nearestEven (stepRatio k).1 (stepRatio k).2 * (2 : ℚ) ^ stepExponent k := by
      intro t ht
      refine mul_le_mul_of_nonneg_right ?_ hstep.le
      exact_mod_cast le_nearestEven (stepRatio_snd_pos k) (mul_le_stepRatio_iff.mpr ht)
    rcases magnitude_cases hx (stepExponent k) with ⟨t, ht⟩ | hlt
    · rw [ht] at h ⊢
      exact hsteps t h
    · exact hlt.le.trans (hsteps _ (two_pow_mul_step_le hk))

/-- Rounding a natural number does not pass a stored number above it. -/
theorem roundRatio_le_magnitude (hx : x.Stored) (h : k ≤ x.magnitude) (negative : Bool) :
    (roundRatio negative k 1).magnitude ≤ x.magnitude := by
  by_cases hk : k = 0
  · subst hk
    have hzero : (roundRatio negative 0 1).magnitude = 0 := by simp [roundRatio, magnitude]
    rw [hzero]
    exact magnitude_nonneg x
  · rw [magnitude_roundRatio_one hk]
    have hstep : (0 : ℚ) < (2 : ℚ) ^ stepExponent k := by positivity
    rcases magnitude_cases hx (stepExponent k) with ⟨t, ht⟩ | hlt
    · rw [ht] at h ⊢
      refine mul_le_mul_of_nonneg_right ?_ hstep.le
      exact_mod_cast nearestEven_le (stepRatio_snd_pos k) (stepRatio_le_mul_iff.mpr h)
    · exact absurd (h.trans_lt hlt) (not_lt.mpr (two_pow_mul_step_le hk))

end

-- =========================================================== whole numbers

section

variable {n : Int}

/-- An integer is rounded by its magnitude and takes its sign back. -/
theorem ofInt_of_neg (h : n < 0) :
    (n : ℚ) = -(n.natAbs : ℚ) ∧
      (ofInt n).value = -(roundRatio true n.natAbs 1).magnitude := by
  constructor
  · rw [Nat.cast_natAbs, abs_of_neg h]
    push_cast
    ring
  · rw [ofInt, decide_eq_true h]
    exact value_of_negative (negative_roundRatio ..)

theorem ofInt_of_nonneg (h : 0 ≤ n) :
    (n : ℚ) = (n.natAbs : ℚ) ∧
      (ofInt n).value = (roundRatio false n.natAbs 1).magnitude := by
  constructor
  · rw [Nat.cast_natAbs, abs_of_nonneg h]
  · rw [ofInt, decide_eq_false (not_lt.mpr h)]
    exact value_of_not_negative (negative_roundRatio ..)

/-- So rounding is the same below zero as above. -/
theorem value_ofInt_neg (n : Int) : (ofInt (-n)).value = -(ofInt n).value := by
  by_cases hn : n = 0
  · subst hn
    simp [ofInt, roundRatio, value, signed]
  · have hsign : decide (-n < 0) = !(ofInt n).negative := by
      rw [ofInt, negative_roundRatio, ← decide_not]
      exact decide_eq_decide.mpr (by omega)
    rw [ofInt, Int.natAbs_neg, ← withSign_roundRatio _ (decide (n < 0)), hsign]
    exact value_withSign_not (ofInt n)

/-- Rounding an integer does not pass a stored number below it. -/
theorem value_le_ofInt (hx : x.Stored) (h : x.value ≤ n) : x.value ≤ (ofInt n).value := by
  have hmagnitude := magnitude_nonneg x
  by_cases hn : n < 0
  · obtain ⟨hcast, hvalue⟩ := ofInt_of_neg hn
    -- below zero the magnitudes are compared the other way round
    have habs : (0 : ℚ) < n.natAbs := by exact_mod_cast Int.natAbs_pos.mpr hn.ne
    rw [hcast] at h
    rw [hvalue]
    cases hsign : x.negative with
    | false =>
        rw [value_of_not_negative hsign] at h
        linarith
    | true =>
        rw [value_of_negative hsign] at h ⊢
        exact neg_le_neg (roundRatio_le_magnitude hx (neg_le_neg_iff.mp h) true)
  · obtain ⟨hcast, hvalue⟩ := ofInt_of_nonneg (not_lt.mp hn)
    rw [hcast] at h
    rw [hvalue]
    cases hsign : x.negative with
    | false =>
        rw [value_of_not_negative hsign] at h ⊢
        exact magnitude_le_roundRatio hx h false
    | true =>
        rw [value_of_negative hsign]
        linarith [magnitude_nonneg (roundRatio false n.natAbs 1)]

/-- Rounding an integer does not pass a stored number above it. -/
theorem ofInt_le_value (hx : x.Stored) (h : n ≤ x.value) : (ofInt n).value ≤ x.value := by
  have hopposite : (x.withSign (!x.negative)).value ≤ ((-n : Int) : ℚ) := by
    rw [value_withSign_not, Int.cast_neg]
    exact neg_le_neg h
  have hle := value_le_ofInt (show (x.withSign (!x.negative)).Stored from hx) hopposite
  rw [value_withSign_not, value_ofInt_neg] at hle
  exact neg_le_neg_iff.mp hle

end

end Binary64

-- ============================================================== numbers

namespace Number

variable {n limit : Number}

/-- The number as a rational. -/
def value : Number → ℚ
  | whole n => n
  | real x => x.value

/-- A real that binary64 can store, or a whole number. -/
def Stored : Number → Prop
  | whole _ => True
  | real x => x.Stored

/-- The numbers cannot be told apart: they are equal, or one is a real and the nearest
to the other. -/
def Meets : Number → Number → Prop
  | whole m, whole n => m = n
  | real x, real y => x.value = y.value
  | whole n, real x => (Binary64.ofInt n).value = x.value
  | real x, whole n => x.value = (Binary64.ofInt n).value

/-- Numbers that compare as less are less. -/
theorem lt_of_compare (hn : n.Stored) (hlimit : limit.Stored) (h : n.compare limit = .lt) :
    n.value < limit.value := by
  cases n with
  | whole m =>
      cases limit with
      | whole k => exact Int.cast_lt.mpr (Int.compare_eq_lt.mp h)
      | real x =>
          have hlt := Binary64.compare_eq_lt.mp h
          exact lt_of_not_ge fun hge => not_le.mpr hlt (Binary64.value_le_ofInt hlimit hge)
  | real x =>
      cases limit with
      | whole k =>
          have hlt := Binary64.compare_eq_lt.mp h
          exact lt_of_not_ge fun hge => not_le.mpr hlt (Binary64.ofInt_le_value hn hge)
      | real y => exact Binary64.compare_eq_lt.mp h

/-- Numbers that compare as greater are greater. -/
theorem gt_of_compare (hn : n.Stored) (hlimit : limit.Stored) (h : n.compare limit = .gt) :
    limit.value < n.value := by
  cases n with
  | whole m =>
      cases limit with
      | whole k => exact Int.cast_lt.mpr (Int.compare_eq_gt.mp h)
      | real x =>
          have hlt := Binary64.compare_eq_gt.mp h
          exact lt_of_not_ge fun hge => not_le.mpr hlt (Binary64.ofInt_le_value hlimit hge)
  | real x =>
      cases limit with
      | whole k =>
          have hlt := Binary64.compare_eq_gt.mp h
          exact lt_of_not_ge fun hge => not_le.mpr hlt (Binary64.value_le_ofInt hn hge)
      | real y => exact Binary64.compare_eq_gt.mp h

/-- Numbers that are compared as equal meet: they have one value, or the real is the
nearest to the integer. -/
theorem meets_of_compare (h : n.compare limit = .eq) : n.Meets limit := by
  cases n with
  | whole m =>
      cases limit with
      | whole k => exact Int.compare_eq_eq.mp h
      | real x => exact Binary64.compare_eq_eq.mp h
  | real x =>
      cases limit with
      | whole k => exact Binary64.compare_eq_eq.mp h
      | real y => exact Binary64.compare_eq_eq.mp h

/-- A number that is not whole is no integer. -/
theorem value_ne_of_not_isWhole (h : n.isWhole = false) (k : Int) : n.value ≠ k := by
  cases n with
  | whole m => cases h
  | real x => exact Binary64.value_ne_of_not_isWhole h k

end Number

-- ================================================================ reading

namespace Binary64

/-- Products and quotients are rounded, so they can be stored. -/
theorem stored_mul (x y : Binary64) : (x.mul y).Stored :=
  stored_roundRatio _ _ (Nat.two_pow_pos _)

theorem stored_div (x : Binary64) {y : Binary64} (hy : y.isZero = false) : (x.div y).Stored := by
  have hmantissa : y.mantissa ≠ 0 := fun h => Bool.eq_false_iff.mp hy (beq_iff_eq.mpr h)
  exact stored_roundRatio _ _ (Nat.mul_pos (Nat.pos_of_ne_zero hmantissa) (Nat.two_pow_pos _))

/-- A natural number other than zero is not rounded to zero: the number one can be
stored, and rounding does not pass it. -/
theorem isZero_roundRatio {k : Nat} (hk : 0 < k) (negative : Bool) :
    (roundRatio negative k 1).isZero = false := by
  have hone : (1 : ℚ) ≤ (roundRatio negative k 1).magnitude := by
    have hmagnitude : (⟨false, 1, 0⟩ : Binary64).magnitude = 1 := by simp [magnitude]
    have hk' : (1 : ℚ) ≤ k := by exact_mod_cast hk
    rw [← hmagnitude] at hk' ⊢
    exact magnitude_le_roundRatio (by simp [Stored]) hk' negative
  refine Bool.eq_false_iff.mpr fun hzero => ?_
  have hmantissa : (roundRatio negative k 1).mantissa = 0 := beq_iff_eq.mp hzero
  rw [magnitude, hmantissa, Nat.cast_zero, zero_mul] at hone
  exact absurd hone (by norm_num)

/-- No power of ten is rounded to zero. -/
theorem isZero_powerOfTen (k : Nat) : (powerOfTen k).isZero = false :=
  isZero_roundRatio (Nat.pow_pos (by decide)) false

end Binary64

namespace Numeral

/-- A numeral is scaled by a product or a quotient, or by nothing. -/
theorem stored_of_scale? {significand : Nat} {exponent : Int} {x : Binary64}
    (h : scale? significand exponent = some x) : x.Stored := by
  unfold scale? at h
  dsimp only at h
  split at h
  · cases h
    exact Binary64.stored_roundRatio _ _ one_pos
  · split at h
    · cases h
    · split at h
      · obtain ⟨-, h⟩ := Option.ite_none_right_eq_some.mp h
        cases h
        exact Binary64.stored_mul _ _
      · cases h
        exact Binary64.stored_div _ (Binary64.isZero_powerOfTen _)

/-- What is read can be stored. -/
theorem stored_of_value? {numeral : Numeral} {n : Number} (h : numeral.value? = some n) :
    n.Stored := by
  -- reals are scaled and then given their sign
  have hreal : ∀ {significand exponent m},
      ((scale? significand exponent).map fun x => Number.real (x.withSign numeral.negative))
        = some m → m.Stored := by
    intro significand exponent m hm
    obtain ⟨x, hx, rfl⟩ := Option.map_eq_some_iff.mp hm
    have hstored : x.Stored := stored_of_scale? hx
    exact hstored
  unfold value? at h
  dsimp only at h
  split at h
  · split at h
    · cases h
      trivial
    · split at h
      · exact hreal h
      · cases h
        trivial
  · exact hreal h

end Numeral

namespace Json

/-- The number stands in the value, at any depth. -/
inductive HasNumber : Json → Number → Prop
  | here (n : Number) : HasNumber (.number n) n
  | item {items : List Json} {x : Json} {n : Number} (hx : x ∈ items) (h : HasNumber x n) :
      HasNumber (.array items) n
  | member {members : Members} {m : String × Json} {n : Number} (hm : m ∈ members)
      (h : HasNumber m.2 n) : HasNumber (.object members) n

/-- Every number of a value that is read from a text can be stored. -/
theorem stored_of_read? {text : String} {x : Json} (h : read? text = some x) :
    ∀ n, x.HasNumber n → n.Stored := by
  have hkept : KeptInReading fun x => ∀ n, x.HasNumber n → n.Stored :=
    { null := nofun
      bool := nofun
      number := by
        intro numeral n hvalue m hm
        cases hm
        exact Numeral.stored_of_value? hvalue
      string := nofun
      array := by
        intro items hitems n hn
        cases hn with
        | item hx hn => exact hitems _ hx n hn
      object := by
        intro members hmembers n hn
        cases hn with
        | member hm hn =>
            -- members are put together one by one, starting from none
            rcases Members.mem_of_mem_merge hm with hm | hm
            · cases hm
            · exact hmembers _ hm n hn }
  exact holds_of_read? hkept h

end Json

end Conformance
