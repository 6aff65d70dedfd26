/-
What belongs to a set of code points.

A search among the boundaries of a set comes to the place that divides those at or below a
code point from those above it (`rank_divides`). The boundaries before that place pair off
into stretches that lie below the code point, unless they are odd in number. Then the last of
them begins the stretch that it lies in. So membership is membership in one of the stretches
(`has_iff`).
-/
import Conformance.Unicode.CodeSet
import Mathlib.Algebra.Group.Nat.Defs
import Mathlib.Data.List.Basic
import Mathlib.Data.Nat.Log

namespace Conformance

namespace CodeSet

variable {bounds : Array Nat} {c : Nat}

/-- A place among the boundaries: those before it are at or below the code point, those from
it on above. -/
structure Divides (bounds : Array Nat) (c k : Nat) : Prop where
  le_size : k ≤ bounds.size
  below : ∀ i < k, bounds.getD i 0 ≤ c
  above : ∀ i, k ≤ i → i < bounds.size → c < bounds.getD i 0

/-- The boundaries ascend. -/
def Ascends (bounds : Array Nat) : Prop :=
  ∀ i j, i < j → j < bounds.size → bounds.getD i 0 < bounds.getD j 0

/-- A search in a stretch that its fuel can halve away comes to the place that divides the
boundaries, if that place is in the stretch. -/
theorem rank_divides (hascends : Ascends bounds) (fuel : Nat) : ∀ lo hi, lo ≤ hi →
    hi ≤ bounds.size → hi - lo < 2 ^ fuel → (∀ i < lo, bounds.getD i 0 ≤ c) →
    (∀ i, hi ≤ i → i < bounds.size → c < bounds.getD i 0) →
    Divides bounds c (rank bounds c fuel lo hi) := by
  induction fuel with
  | zero =>
      intro lo hi hle hsize hfuel hbelow habove
      obtain rfl : lo = hi := by omega
      exact ⟨hsize, hbelow, habove⟩
  | succ fuel ih =>
      intro lo hi hle hsize hfuel hbelow habove
      rw [Nat.pow_succ] at hfuel
      rw [rank]
      by_cases hlt : lo < hi
      · rw [if_pos hlt]
        dsimp only
        have hmid : (lo + hi) / 2 < hi := by omega
        by_cases hc : bounds.getD ((lo + hi) / 2) 0 ≤ c
        · rw [if_pos hc]
          refine ih _ _ hmid hsize (by omega) (fun i hi' => ?_) habove
          rcases Nat.lt_succ_iff_lt_or_eq.mp hi' with hi' | rfl
          · have hsorted := hascends i _ hi' (by omega)
            omega
          · exact hc
        · rw [if_neg hc]
          refine ih _ _ (by omega) (by omega) (by omega) hbelow fun i hi' hisize => ?_
          rcases Nat.lt_or_eq_of_le hi' with hi' | rfl
          · have hsorted := hascends _ i hi' hisize
            omega
          · omega
      · rw [if_neg hlt]
        obtain rfl : lo = hi := by omega
        exact ⟨hsize, hbelow, habove⟩

theorem mem_of_mem_pair {r : Nat × Nat} : ∀ {points : List Nat}, r ∈ ranges.pair points →
    r.1 ∈ points
  | [], h => by cases h
  | [_], h => by cases h
  | a :: b :: rest, h => by
    rcases List.mem_cons.mp h with rfl | h
    · exact List.mem_cons_self ..
    · exact List.mem_cons_of_mem _ (List.mem_cons_of_mem _ (mem_of_mem_pair h))

/-- Of points that ascend and pair off, an odd number is at or below a code point just if it
lies in one of the stretches. -/
theorem odd_iff_mem_pair : ∀ {points : List Nat} {k : Nat}, points.Pairwise (· < ·) →
    points.length % 2 = 0 → k ≤ points.length → (∀ x ∈ points.take k, x ≤ c) →
    (∀ x ∈ points.drop k, c < x) →
    (k % 2 = 1 ↔ ∃ r ∈ ranges.pair points, r.1 ≤ c ∧ c ≤ r.2)
  | [], k, _, _, hk, _, _ => by
    obtain rfl : k = 0 := Nat.eq_zero_of_le_zero hk
    simp [ranges.pair]
  | [a], _, _, heven, _, _, _ => by cases heven
  | a :: b :: rest, 0, _, _, _, _, habove => by
    refine iff_of_false (by decide) ?_
    rintro ⟨r, hr, hle, -⟩
    have hlt := habove r.1 (mem_of_mem_pair hr)
    omega
  | a :: b :: rest, 1, _, _, _, hbelow, habove => by
    have ha : a ≤ c := hbelow a (List.mem_cons_self ..)
    have hb : c < b := habove b (List.mem_cons_self ..)
    exact iff_of_true rfl ⟨(a, b - 1), List.mem_cons_self .., ha, by dsimp only; omega⟩
  | a :: b :: rest, k + 2, hsorted, heven, hk, hbelow, habove => by
    obtain ⟨hfirst, hsorted⟩ := List.pairwise_cons.mp hsorted
    obtain ⟨-, hsorted⟩ := List.pairwise_cons.mp hsorted
    have hab : a < b := hfirst b (List.mem_cons_self ..)
    have hb : b ≤ c := hbelow b (List.mem_cons_of_mem _ (List.mem_cons_self ..))
    simp only [List.length_cons] at heven hk
    have hrest := @odd_iff_mem_pair rest k hsorted (by omega) (by omega)
      (fun x hx => hbelow x (List.mem_cons_of_mem _ (List.mem_cons_of_mem _ hx))) habove
    rw [Nat.add_mod_right, hrest, ranges.pair]
    constructor
    · rintro ⟨r, hr, hin⟩
      exact ⟨r, List.mem_cons_of_mem _ hr, hin⟩
    · rintro ⟨r, hr, hin⟩
      rcases List.mem_cons.mp hr with rfl | hr
      · dsimp only at hin
        omega
      · exact ⟨r, hr, hin⟩

/-- A character belongs to a set just if it lies in one of its stretches. -/
theorem has_iff {s : CodeSet} (hsorted : s.bounds.toList.Pairwise (· < ·))
    (heven : s.bounds.size % 2 = 0) (ch : Char) :
    s.has ch = true ↔ ∃ r ∈ s.ranges, r.1 ≤ ch.toNat ∧ ch.toNat ≤ r.2 := by
  have hget : ∀ i (hi : i < s.bounds.toList.length),
      s.bounds.getD i 0 = s.bounds.toList[i] := by
    intro i hi
    rw [Array.getD_eq_getD_getElem?, ← Array.getElem?_toList, List.getElem?_eq_getElem hi]
    rfl
  have hascends : Ascends s.bounds := by
    intro i j hij hj
    rw [hget i (hij.trans hj), hget j hj]
    exact List.pairwise_iff_getElem.mp hsorted i j _ _ hij
  have hfuel : s.bounds.size - 0 < 2 ^ (s.bounds.size.log2 + 2) := by
    have hlt := Nat.lt_log2_self (n := s.bounds.size)
    rw [Nat.pow_succ]
    omega
  obtain ⟨hsize, hbelow, habove⟩ := rank_divides (c := ch.toNat) hascends _ 0 s.bounds.size
    (Nat.zero_le _) (le_refl _) hfuel (fun i hi => absurd hi (Nat.not_lt_zero i))
    (fun i hi hi' => absurd hi (Nat.not_le.mpr hi'))
  rw [has, contains, beq_iff_eq, ranges]
  generalize rank s.bounds ch.toNat (s.bounds.size.log2 + 2) 0 s.bounds.size = k
    at hsize hbelow habove ⊢
  refine odd_iff_mem_pair hsorted heven hsize (fun x hx => ?_) (fun x hx => ?_)
  · obtain ⟨i, hi, rfl⟩ := List.mem_take_iff_getElem.mp hx
    rw [← hget i (by omega)]
    exact hbelow i (by omega)
  · obtain ⟨i, hi, rfl⟩ := List.mem_drop_iff_getElem.mp hx
    have hi' : k + i < s.bounds.size := by
      rw [Nat.add_comm]
      exact hi
    rw [← hget (k + i) hi']
    exact habove (k + i) (Nat.le_add_right ..) hi'

end CodeSet

end Conformance
