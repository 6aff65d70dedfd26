/-
Running an automaton finds what it accepts.

Between two characters a run explores. What it comes to from the states at hand it enters
once, and when it is done without having accepted, nothing can be reached from there that
has not been entered (`Closed`). For this it must not be cut short: every step takes a state
off the work, and a state leaves its ways on to do only when it is entered, so the work at
hand and the ways on from the states that are not yet entered bound the steps (`toDo`).

Over the characters of a text, the states that wait are those from which the rest is
accepted, if it is accepted from the states at hand (`run_iff`). At every place there is also
a new beginning. So a text is searched for every stretch that the automaton accepts.
-/
import Conformance.Pattern.Basic
import Conformance.Proofs.Pattern.Construction
import Mathlib.Algebra.Order.BigOperators.Group.Finset

namespace Conformance

namespace Automaton

open Place

variable {a : Automaton} {p : Place} {stamp : Nat} {f : Frontier} {work : List Nat} {i j : Nat}

-- ============================================================= ways on

/-- The states that are reached from a state without a character, in one step. -/
def onward (a : Automaton) (p : Place) (i : Nat) : List Nat :=
  match a.states.getD i .accept with
  | .require anchor next => if anchor.holds p.before p.rest.head? then [next] else []
  | .fork nexts => nexts
  | _ => []

/-- What a state waits for, with the state that comes then. -/
def awaited (a : Automaton) (i : Nat) : List (CodeSet × Nat) :=
  match a.states.getD i .accept with
  | .consume s next => [(s, next)]
  | _ => []

/-- How many ways on a state has. -/
def degree : AutomatonState → Nat
  | .fork nexts => nexts.length
  | _ => 1

/-- A state has no more ways on than it has edges. -/
theorem length_onward_le (a : Automaton) (p : Place) (i : Nat) :
    (onward a p i).length ≤ degree (a.states.getD i .accept) := by
  unfold onward
  split
  · next hstate =>
    rw [hstate]
    split <;> simp [degree]
  · next hstate =>
    rw [hstate]
    exact le_refl _
  · exact Nat.zero_le _

/-- Only a state that consumes a character waits for one. -/
theorem mem_awaited {s : CodeSet} {next : Nat} :
    (s, next) ∈ awaited a i ↔ a.states.getD i .accept = .consume s next := by
  unfold awaited
  split
  · next hstate =>
    rw [List.mem_singleton, hstate, Prod.mk.injEq, AutomatonState.consume.injEq, eq_comm,
      eq_comm (a := next)]
  · next hstate => exact iff_of_false List.not_mem_nil (hstate s next)

/-- Where a way on accepts, the state does. -/
theorem Accepts.of_onward (hmem : j ∈ onward a p i) (h : Accepts a.states j p) :
    Accepts a.states i p := by
  obtain ⟨n, hn⟩ := h
  unfold onward at hmem
  split at hmem
  · next anchor next hstate =>
    split at hmem
    · next hholds =>
      cases List.mem_singleton.mp hmem
      exact ⟨n + 1, .require hstate hholds hn⟩
    · cases hmem
  · next nexts hstate => exact ⟨n + 1, .fork hstate hmem hn⟩
  · cases hmem

/-- When the character comes, the run goes on behind it. -/
theorem Accepts.of_awaited {before : Option Char} {c : Char} {rest : List Char}
    {w : CodeSet × Nat} (hmem : w ∈ awaited a i) (hc : w.1.has c = true)
    (h : Accepts a.states w.2 ⟨some c, rest⟩) : Accepts a.states i ⟨before, c :: rest⟩ := by
  obtain ⟨n, hn⟩ := h
  exact ⟨n + 1, .consume (mem_awaited.mp hmem) hc hn⟩

/-- A state that accepts is one to accept in, or there is a way on that accepts, over a
character or without. -/
theorem AcceptsIn.cases_ways {n : Nat} (h : AcceptsIn a.states n i p) :
    a.states.getD i .accept = .accept ∨
    (∃ m, m < n ∧ ∃ j ∈ onward a p i, AcceptsIn a.states m j p) ∨
    ∃ c rest, p.rest = c :: rest ∧
      ∃ w ∈ awaited a i, w.1.has c = true ∧ Accepts a.states w.2 ⟨some c, rest⟩ := by
  cases h with
  | accept h => exact .inl h
  | consume h hc hnext => exact .inr (.inr ⟨_, _, rfl, _, mem_awaited.mpr h, hc, _, hnext⟩)
  | require h hholds hnext =>
      refine .inr (.inl ⟨_, Nat.lt_succ_self _, _, ?_, hnext⟩)
      simp [onward, h, hholds]
  | fork h hmem hnext =>
      refine .inr (.inl ⟨_, Nat.lt_succ_self _, _, ?_, hnext⟩)
      simpa [onward, h] using hmem

-- ============================================================ exploring

/-- What is known once a state has been entered. -/
def enter (a : Automaton) (stamp i : Nat) (f : Frontier) : Frontier :=
  { f with
    entered := f.entered.setIfInBounds i stamp
    waiting := awaited a i ++ f.waiting }

/-- The state has been entered at this place. -/
def Entered (stamp : Nat) (f : Frontier) (i : Nat) : Prop := f.entered.getD i 0 = stamp

section

variable {fuel : Nat}

/-- A state that has been entered is passed over. -/
theorem explore_of_entered (h : Entered stamp f i) :
    explore a stamp p.before p.rest.head? (fuel + 1) (i :: work) f
      = explore a stamp p.before p.rest.head? fuel work f := by
  rw [explore, if_pos (beq_iff_eq.mpr h)]

/-- One to accept in ends the exploration. -/
theorem explore_of_accept (h : ¬ Entered stamp f i)
    (hstate : a.states.getD i .accept = .accept) :
    explore a stamp p.before p.rest.head? (fuel + 1) (i :: work) f
      = { f with entered := f.entered.setIfInBounds i stamp, accepted := true } := by
  rw [explore, if_neg (mt beq_iff_eq.mp h)]
  dsimp only
  rw [hstate]

/-- Any other is entered and leaves its ways on to do. -/
theorem explore_of_ne (h : ¬ Entered stamp f i)
    (hstate : a.states.getD i .accept ≠ .accept) :
    explore a stamp p.before p.rest.head? (fuel + 1) (i :: work) f
      = explore a stamp p.before p.rest.head? fuel (onward a p i ++ work)
          (enter a stamp i f) := by
  rw [explore, if_neg (mt beq_iff_eq.mp h)]
  unfold onward enter awaited
  dsimp only
  cases hcase : a.states.getD i .accept with
  | accept => exact absurd hcase hstate
  | consume s next => rfl
  | require anchor next =>
      dsimp only
      split <;> rfl
  | fork nexts => rfl

end

/-- What is known at a place goes back to states of some kind. -/
structure Founded (a : Automaton) (kind : Nat → Prop) (f : Frontier) : Prop where
  accepted : f.accepted = true → ∃ i, kind i ∧ a.states.getD i .accept = .accept
  waiting : ∀ w ∈ f.waiting, ∃ i, kind i ∧ w ∈ awaited a i

/-- Exploring does not leave a kind of states that no way on leaves. -/
theorem founded_explore {kind : Nat → Prop}
    (hkind : ∀ i, kind i → ∀ j ∈ onward a p i, kind j) (stamp fuel : Nat) :
    ∀ work f, (∀ i ∈ work, kind i) → Founded a kind f →
      Founded a kind (explore a stamp p.before p.rest.head? fuel work f) := by
  induction fuel with
  | zero => exact fun _ _ _ hf => hf
  | succ fuel ih =>
      intro work f hwork hf
      cases work with
      | nil => exact hf
      | cons i work =>
          obtain ⟨hi, hwork⟩ := List.forall_mem_cons.mp hwork
          -- the first state has been entered, or accepts, or is entered now
          by_cases hentered : Entered stamp f i
          · rw [explore_of_entered hentered]
            exact ih work f hwork hf
          · by_cases hstate : a.states.getD i .accept = .accept
            · rw [explore_of_accept hentered hstate]
              exact ⟨fun _ => ⟨i, hi, hstate⟩, hf.waiting⟩
            · rw [explore_of_ne hentered hstate]
              refine ih _ _ ?_ ⟨hf.accepted, fun w hw => ?_⟩
              · intro j hj
                rcases List.mem_append.mp hj with hj | hj
                · exact hkind i hi j hj
                · exact hwork j hj
              · rcases List.mem_append.mp hw with hw | hw
                · exact ⟨i, hi, hw⟩
                · exact hf.waiting w hw

-- ============================================================== fuel

/-- The steps that an exploration can still take. -/
def toDo (a : Automaton) (stamp : Nat) (work : List Nat) (f : Frontier) : Nat :=
  work.length + ∑ i ∈ Finset.range a.states.size,
    if f.entered.getD i 0 = stamp then 0 else degree (a.states.getD i .accept)

/-- The edges are added up one state after the other, and the sum may be taken by number. -/
theorem foldl_degree (states : List AutomatonState) (n : Nat) :
    states.foldl (fun total state => total + degree state) n
      = n + ∑ i ∈ Finset.range states.length, degree (states.getD i .accept) := by
  induction states generalizing n with
  | nil => rfl
  | cons state rest ih =>
      rw [List.foldl_cons, ih, List.length_cons, Finset.sum_range_succ', add_right_comm, add_assoc]
      rfl

theorem edges_eq (a : Automaton) :
    a.edges = ∑ i ∈ Finset.range a.states.size, degree (a.states.getD i .accept) := by
  have hsum := foldl_degree a.states.toList 0
  rw [zero_add, Array.length_toList, Array.foldl_toList] at hsum
  refine Eq.trans ?_ (hsum.trans (Finset.sum_congr rfl fun i _ => ?_))
  · rfl
  · rw [List.getD_eq_getElem?_getD, Array.getElem?_toList, ← Array.getD_eq_getD_getElem?]

/-- The steps are bounded by the work and the edges. -/
theorem toDo_le (a : Automaton) (stamp : Nat) (work : List Nat) (f : Frontier) :
    toDo a stamp work f ≤ work.length + a.edges := by
  rw [toDo, edges_eq]
  refine Nat.add_le_add_left (Finset.sum_le_sum fun i _ => ?_) _
  split
  · exact Nat.zero_le _
  · exact le_refl _

/-- Outside the automaton every state counts as accepting, so the others are within. -/
theorem lt_size_of_ne_accept (h : a.states.getD i .accept ≠ .accept) : i < a.states.size := by
  by_contra hi
  rw [Array.getD_eq_getD_getElem?, Array.getElem?_eq_none (Nat.le_of_not_lt hi)] at h
  exact h rfl

/-- Once a state has been entered there is less to do. -/
theorem toDo_enter (hsize : f.entered.size = a.states.size) (hnew : ¬ Entered stamp f i)
    (hstate : a.states.getD i .accept ≠ .accept) (work : List Nat) :
    toDo a stamp (onward a p i ++ work) (enter a stamp i f) < toDo a stamp (i :: work) f := by
  have hi := lt_size_of_ne_accept hstate
  have hmem : i ∈ Finset.range a.states.size := Finset.mem_range.mpr hi
  -- the other states have as much to do as before
  have hother : ∀ j ∈ (Finset.range a.states.size).erase i,
      (if (f.entered.setIfInBounds i stamp).getD j 0 = stamp then 0
        else degree (a.states.getD j .accept))
      = if f.entered.getD j 0 = stamp then 0 else degree (a.states.getD j .accept) := by
    intro j hj
    have hne : i ≠ j := (Finset.ne_of_mem_erase hj).symm
    rw [Array.getD_eq_getD_getElem?, Array.getElem?_setIfInBounds_ne hne,
      ← Array.getD_eq_getD_getElem?]
  have hself : (f.entered.setIfInBounds i stamp).getD i 0 = stamp := by
    rw [Array.getD_eq_getD_getElem?, Array.getElem?_setIfInBounds_self_of_lt (hsize ▸ hi)]
    rfl
  have hnew' : f.entered.getD i 0 ≠ stamp := hnew
  -- the ways on are put to the work, and there are fewer of them than of the edges that
  -- go away
  have hways := length_onward_le a p i
  unfold toDo enter
  dsimp only
  rw [← Finset.add_sum_erase _ _ hmem, ← Finset.add_sum_erase _ _ hmem,
    Finset.sum_congr rfl hother, if_pos hself, if_neg hnew', List.length_cons, List.length_append]
  omega

-- ============================================================ closure

/-- The state has been entered, or is left to do. -/
def Known (stamp : Nat) (work : List Nat) (f : Frontier) (i : Nat) : Prop :=
  Entered stamp f i ∨ i ∈ work

/-- The states that have been entered are done with, apart from what is left to do. -/
structure Closed (a : Automaton) (p : Place) (stamp : Nat) (work : List Nat) (f : Frontier) :
    Prop where
  size : f.entered.size = a.states.size
  stamps : ∀ i, f.entered.getD i 0 ≤ stamp
  accept : ∀ i, Entered stamp f i → a.states.getD i .accept ≠ .accept
  awaited : ∀ i, Entered stamp f i → awaited a i ⊆ f.waiting
  onward : ∀ i, Entered stamp f i → ∀ j ∈ onward a p i, Known stamp work f j

/-- With nothing left to do, what is known has been entered. -/
theorem Known.entered (h : Known stamp [] f i) : Entered stamp f i :=
  h.resolve_right List.not_mem_nil

/-- A state that has been entered need not be left to do. -/
theorem Known.of_entered (h : Known stamp (i :: work) f j) (hi : Entered stamp f i) :
    Known stamp work f j := by
  rcases h with hj | hj
  · exact .inl hj
  · rcases List.mem_cons.mp hj with rfl | hj
    · exact .inl hi
    · exact .inr hj

/-- To enter a state marks it and no other. -/
theorem entered_enter_iff (hi : i < f.entered.size) :
    Entered stamp (enter a stamp i f) j ↔ j = i ∨ Entered stamp f j := by
  unfold Entered enter
  dsimp only
  rw [Array.getD_eq_getD_getElem?]
  by_cases hj : j = i
  · subst hj
    rw [Array.getElem?_setIfInBounds_self_of_lt hi]
    simp
  · rw [Array.getElem?_setIfInBounds_ne (Ne.symm hj), ← Array.getD_eq_getD_getElem?]
    simp [hj]

/-- What is known stays known when a state is entered, as this one is now marked. -/
theorem known_enter (h : Known stamp (i :: work) f j) (hi : i < f.entered.size)
    (ways : List Nat) : Known stamp (ways ++ work) (enter a stamp i f) j := by
  rw [Known, entered_enter_iff hi, List.mem_append]
  rcases h with hj | hj
  · exact .inl (.inr hj)
  · rcases List.mem_cons.mp hj with rfl | hj
    · exact .inl (.inl rfl)
    · exact .inr (.inr hj)

/-- A state that has been entered need not be done again. -/
theorem Closed.of_entered (h : Closed a p stamp (i :: work) f) (hi : Entered stamp f i) :
    Closed a p stamp work f :=
  ⟨h.size, h.stamps, h.accept, h.awaited, fun j hj k hk => (h.onward j hj k hk).of_entered hi⟩

/-- A state is entered once its ways on are left to do. -/
theorem closed_enter (h : Closed a p stamp (i :: work) f)
    (hstate : a.states.getD i .accept ≠ .accept) :
    Closed a p stamp (onward a p i ++ work) (enter a stamp i f) := by
  have hi : i < f.entered.size := h.size ▸ lt_size_of_ne_accept hstate
  refine ⟨Array.size_setIfInBounds.trans h.size, fun j => ?_, fun j hj => ?_, fun j hj => ?_,
    fun j hj k hk => ?_⟩
  -- marks are not above the stamp
  · by_cases hj : Entered stamp (enter a stamp i f) j
    · exact hj.le
    · have hne : i ≠ j := fun heq => hj ((entered_enter_iff hi).mpr (.inl heq.symm))
      show (f.entered.setIfInBounds i stamp).getD j 0 ≤ stamp
      rw [Array.getD_eq_getD_getElem?, Array.getElem?_setIfInBounds_ne hne,
        ← Array.getD_eq_getD_getElem?]
      exact h.stamps j
  · rcases (entered_enter_iff hi).mp hj with rfl | hj
    · exact hstate
    · exact h.accept j hj
  · rcases (entered_enter_iff hi).mp hj with rfl | hj
    · exact List.subset_append_left ..
    · exact fun w hw => List.mem_append_right _ (h.awaited j hj hw)
  · rcases (entered_enter_iff hi).mp hj with rfl | hj
    · exact .inr (List.mem_append_left _ hk)
    · exact known_enter (h.onward j hj k hk) hi _

/-- Where there is enough fuel, what is known is entered in the end, and nothing is left to
do. -/
theorem closed_explore (fuel : Nat) : ∀ work f, toDo a stamp work f ≤ fuel →
    Closed a p stamp work f →
    (explore a stamp p.before p.rest.head? fuel work f).accepted = false →
    Closed a p stamp [] (explore a stamp p.before p.rest.head? fuel work f) ∧
      ∀ i, Known stamp work f i →
        Entered stamp (explore a stamp p.before p.rest.head? fuel work f) i := by
  induction fuel with
  | zero =>
      intro work f hfuel hclosed _
      -- no fuel means that nothing is left to do
      have hwork : work = [] := List.eq_nil_of_length_eq_zero (by unfold toDo at hfuel; omega)
      subst hwork
      exact ⟨hclosed, fun _ => Known.entered⟩
  | succ fuel ih =>
      intro work f hfuel hclosed haccepted
      cases work with
      | nil => exact ⟨hclosed, fun _ => Known.entered⟩
      | cons i work =>
          by_cases hentered : Entered stamp f i
          -- the state is passed over, with one less to do
          · have hless : toDo a stamp work f ≤ fuel := by
              unfold toDo at hfuel ⊢
              rw [List.length_cons] at hfuel
              omega
            rw [explore_of_entered hentered] at haccepted ⊢
            obtain ⟨hend, hall⟩ := ih work f hless (hclosed.of_entered hentered) haccepted
            exact ⟨hend, fun j hj => hall j (hj.of_entered hentered)⟩
          · by_cases hstate : a.states.getD i .accept = .accept
            · rw [explore_of_accept hentered hstate] at haccepted
              cases haccepted
            -- the state is entered, and its ways on are put to the work
            · have hi : i < f.entered.size := hclosed.size ▸ lt_size_of_ne_accept hstate
              have hless := @toDo_enter a p stamp f i hclosed.size hentered hstate work
              rw [explore_of_ne hentered hstate] at haccepted ⊢
              obtain ⟨hend, hall⟩ := ih _ _ (by omega) (closed_enter hclosed hstate) haccepted
              exact ⟨hend, fun j hj => hall j (known_enter hj hi _)⟩

/-- From a state that has been entered nothing is accepted but over a character that it waits
for, or a state after it. -/
theorem Closed.exists_waiting (h : Closed a p stamp [] f) {n : Nat} :
    ∀ i, Entered stamp f i → AcceptsIn a.states n i p →
      ∃ c rest, p.rest = c :: rest ∧
        ∃ w ∈ f.waiting, w.1.has c = true ∧ Accepts a.states w.2 ⟨some c, rest⟩ := by
  induction n using Nat.strongRecOn with
  | ind n ih =>
      intro i hi haccepts
      rcases haccepts.cases_ways with hstate | ⟨m, hm, j, hj, hgo⟩ | ⟨c, rest, hrest, w, hw, hgo⟩
      · exact absurd hstate (h.accept i hi)
      · exact ih m hm j (h.onward i hi j hj).entered hgo
      · exact ⟨c, rest, hrest, w, h.awaited i hi hw, hgo⟩

-- ============================================================== running

/-- Something is accepted from a state at hand, or from the entry at this place or later. -/
def Found (a : Automaton) (work : List Nat) (p : Place) : Prop :=
  (∃ i ∈ work, Accepts a.states i p) ∨ ∃ passed q, Passes p passed q ∧ Accepts a.states a.entry q

/-- What a run explores at a place, from the states at hand and from the entry. -/
def exploreAt (a : Automaton) (stamp : Nat) (p : Place) (work : List Nat) (entered : Array Nat) :
    Frontier :=
  explore a stamp p.before p.rest.head? (a.edges + work.length + 2) (a.entry :: work) { entered }

/-- The states to go on to over a character, from those that wait. -/
def taking (c : Char) (f : Frontier) : List Nat :=
  (f.waiting.filter fun w => w.1.has c).map (·.2)

/-- The work for the next place is what the waiting states go on to. -/
theorem mem_taking {c : Char} :
    j ∈ taking c f ↔ ∃ w ∈ f.waiting, w.1.has c = true ∧ w.2 = j := by
  simp only [taking, List.mem_map, List.mem_filter, and_assoc]

section

variable {entered : Array Nat}

theorem run_cons (before : Option Char) (c : Char) (rest : List Char) :
    run a a.edges stamp before work entered (c :: rest)
      = if (exploreAt a stamp ⟨before, c :: rest⟩ work entered).accepted then true
        else run a a.edges (stamp + 1) (some c)
          (taking c (exploreAt a stamp ⟨before, c :: rest⟩ work entered))
          (exploreAt a stamp ⟨before, c :: rest⟩ work entered).entered rest := rfl

/-- All that is entered at a place can be reached there, so whatever it accepts is found. -/
theorem founded_exploreAt (a : Automaton) (stamp : Nat) (p : Place) (work : List Nat)
    (entered : Array Nat) :
    Founded a (fun i => Accepts a.states i p → Found a work p)
      (exploreAt a stamp p work entered) := by
  refine founded_explore (fun i hi j hj haccepts => hi (haccepts.of_onward hj)) stamp _ _ _ ?_ ?_
  · refine List.forall_mem_cons.mpr ⟨fun haccepts => .inr ⟨[], p, .nil p, haccepts⟩, ?_⟩
    exact fun i hi haccepts => .inl ⟨i, hi, haccepts⟩
  · constructor
    · intro h
      cases h
    · intro w hw
      cases hw

/-- If it has accepted, something is found. -/
theorem found_of_accepted (h : (exploreAt a stamp p work entered).accepted = true) :
    Found a work p := by
  obtain ⟨i, hi, hstate⟩ := (founded_exploreAt a stamp p work entered).accepted h
  exact hi ⟨0, .accept hstate⟩

/-- If it has not accepted, it has come to all there is. -/
theorem closed_exploreAt (hsize : entered.size = a.states.size)
    (hstamps : ∀ i, entered.getD i 0 < stamp)
    (h : (exploreAt a stamp p work entered).accepted = false) :
    Closed a p stamp [] (exploreAt a stamp p work entered) ∧
      ∀ i ∈ a.entry :: work, Entered stamp (exploreAt a stamp p work entered) i := by
  have hnone : ∀ i, ¬ Entered stamp { entered } i := fun i => (hstamps i).ne
  have hclosed : Closed a p stamp (a.entry :: work) { entered } :=
    ⟨hsize, fun i => (hstamps i).le, fun i hi => absurd hi (hnone i),
      fun i hi => absurd hi (hnone i), fun i hi => absurd hi (hnone i)⟩
  have hfuel : toDo a stamp (a.entry :: work) { entered } ≤ a.edges + work.length + 2 := by
    have hle := toDo_le a stamp (a.entry :: work) { entered }
    rw [List.length_cons] at hle
    omega
  obtain ⟨hend, hall⟩ := closed_explore _ _ _ hfuel hclosed h
  exact ⟨hend, fun i hi => hall i (.inr hi)⟩

/-- Before a character, if nothing has been accepted, what is found is found behind it. -/
theorem found_taking_iff {before : Option Char} {c : Char} {rest : List Char}
    (hclosed : Closed a ⟨before, c :: rest⟩ stamp []
      (exploreAt a stamp ⟨before, c :: rest⟩ work entered))
    (hall : ∀ i ∈ a.entry :: work,
      Entered stamp (exploreAt a stamp ⟨before, c :: rest⟩ work entered) i) :
    Found a (taking c (exploreAt a stamp ⟨before, c :: rest⟩ work entered)) ⟨some c, rest⟩ ↔
      Found a work ⟨before, c :: rest⟩ := by
  constructor
  · rintro (⟨j, hj, haccepts⟩ | ⟨passed, q, hpasses, haccepts⟩)
    · obtain ⟨w, hw, hc, rfl⟩ := mem_taking.mp hj
      obtain ⟨i, hi, hmem⟩ := (founded_exploreAt a stamp _ work entered).waiting w hw
      exact hi (haccepts.of_awaited hmem hc)
    · exact .inr ⟨c :: passed, q, .cons hpasses, haccepts⟩
  -- a state that accepts from here waits for the character, since it has been entered
  · have hwaits : ∀ i ∈ a.entry :: work, Accepts a.states i ⟨before, c :: rest⟩ →
        Found a (taking c (exploreAt a stamp ⟨before, c :: rest⟩ work entered))
          ⟨some c, rest⟩ := by
      rintro i hi ⟨n, hn⟩
      obtain ⟨_, _, hrest, w, hw, hc, haccepts⟩ := hclosed.exists_waiting i (hall i hi) hn
      cases hrest
      exact .inl ⟨w.2, mem_taking.mpr ⟨w, hw, hc, rfl⟩, haccepts⟩
    rintro (⟨i, hi, haccepts⟩ | ⟨passed, q, hpasses, haccepts⟩)
    · exact hwaits i (List.mem_cons_of_mem _ hi) haccepts
    · cases hpasses with
      | nil => exact hwaits a.entry (List.mem_cons_self ..) haccepts
      | cons hpasses => exact .inr ⟨_, q, hpasses, haccepts⟩

/-- At the end of a text, if nothing has been accepted, nothing is found. -/
theorem not_found_of_closed {before : Option Char}
    (hclosed : Closed a ⟨before, []⟩ stamp [] (exploreAt a stamp ⟨before, []⟩ work entered))
    (hall : ∀ i ∈ a.entry :: work,
      Entered stamp (exploreAt a stamp ⟨before, []⟩ work entered) i) :
    ¬ Found a work ⟨before, []⟩ := by
  intro hfound
  obtain ⟨i, hi, n, hn⟩ : ∃ i ∈ a.entry :: work, Accepts a.states i ⟨before, []⟩ := by
    rcases hfound with ⟨i, hi, haccepts⟩ | ⟨_, q, hpasses, haccepts⟩
    · exact ⟨i, List.mem_cons_of_mem _ hi, haccepts⟩
    · cases hpasses
      exact ⟨a.entry, List.mem_cons_self .., haccepts⟩
  obtain ⟨c, rest, hrest, -⟩ := hclosed.exists_waiting i (hall i hi) hn
  cases hrest

end

/-- A run over the rest of a text tells whether something is found. -/
theorem run_iff (a : Automaton) (rest : List Char) : ∀ stamp before work entered,
    entered.size = a.states.size → (∀ i, entered.getD i 0 < stamp) →
    (run a a.edges stamp before work entered rest = true ↔ Found a work ⟨before, rest⟩) := by
  induction rest with
  | nil =>
      intro stamp before work entered hsize hstamps
      show (exploreAt a stamp ⟨before, []⟩ work entered).accepted = true ↔ _
      refine ⟨found_of_accepted, fun hfound => ?_⟩
      -- at the end of the text nothing is waited for, so what is found accepts here
      by_contra hnot
      obtain ⟨hclosed, hall⟩ := closed_exploreAt hsize hstamps (Bool.eq_false_iff.mpr hnot)
      exact not_found_of_closed hclosed hall hfound
  | cons c rest ih =>
      intro stamp before work entered hsize hstamps
      rw [run_cons]
      by_cases haccepted : (exploreAt a stamp ⟨before, c :: rest⟩ work entered).accepted = true
      · rw [if_pos haccepted]
        exact iff_of_true rfl (found_of_accepted haccepted)
      · obtain ⟨hclosed, hall⟩ :=
          closed_exploreAt hsize hstamps (Bool.eq_false_iff.mpr haccepted)
        rw [if_neg haccepted,
          ih _ _ _ _ hclosed.size fun i => Nat.lt_succ_of_le (hclosed.stamps i)]
        exact found_taking_iff hclosed hall

/-- The automaton of an expression finds it just where it occurs. -/
theorem occursIn_ofExpression (e : Expression) (text : String) :
    (ofExpression e).occursIn text = true ↔ e.Occurs text := by
  have hsize : (Array.replicate (ofExpression e).states.size 0).size
      = (ofExpression e).states.size := Array.size_replicate
  have hstamps : ∀ i, (Array.replicate (ofExpression e).states.size 0).getD i 0 < 1 := by
    intro i
    rw [Array.getD_eq_getD_getElem?, Array.getElem?_replicate]
    split <;> exact Nat.one_pos
  rw [occursIn, run_iff _ _ _ _ _ _ hsize hstamps]
  simp only [Found, List.not_mem_nil, false_and, exists_false, false_or, accepts_ofExpression]
  exact exists_congr fun passed => exists_congr fun p => by simp [start]

end Automaton

/-- A pattern that has been read is found in a text just if what it says occurs there. -/
theorem Pattern.occursIn_iff {source : String} {pattern : Pattern} {e : Expression}
    (hread : ofText source = .ok pattern) (he : expression? source = .ok e) (text : String) :
    pattern.occursIn text = true ↔ e.Occurs text := by
  rw [ofText, he] at hread
  cases hread
  exact Automaton.occursIn_ofExpression e text

end Conformance
