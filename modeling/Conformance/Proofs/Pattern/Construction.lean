/-
The automaton of an expression accepts what the expression matches.

Each part of an automaton is built with the state to go on to already there. So what is to
be known of a part is how it leads there (`Realizes`): what accepts from the state to go on
to accepts from the entry as well, at every place that the part leads from, and there is no
other way for the entry to accept. Nothing is said of the states outside the part. They may
still change, as one does when a loop is closed, and the last of them is added when all parts
are done.

That a loop leads nowhere else is shown by induction on the steps. It comes back to its
choice after fewer of them, even where its body matches nothing at all.
-/
import Conformance.Pattern.Automaton
import Conformance.Proofs.Pattern.Matching
import Mathlib.Data.List.Basic
import Mathlib.Data.Nat.Basic
import Mathlib.Order.Basic

namespace Conformance

namespace Automaton

/-- From a state, at a place, a number of steps lead to one that accepts. -/
inductive AcceptsIn (states : Array AutomatonState) : Nat → Nat → Place → Prop
  | accept {i : Nat} {p : Place} (h : states.getD i .accept = .accept) :
      AcceptsIn states 0 i p
  | consume {n i next : Nat} {s : CodeSet} {before : Option Char} {c : Char} {rest : List Char}
      (h : states.getD i .accept = .consume s next) (hc : s.has c = true)
      (hnext : AcceptsIn states n next ⟨some c, rest⟩) :
      AcceptsIn states (n + 1) i ⟨before, c :: rest⟩
  | require {n i next : Nat} {anchor : Anchor} {p : Place}
      (h : states.getD i .accept = .require anchor next)
      (hholds : anchor.holds p.before p.rest.head? = true) (hnext : AcceptsIn states n next p) :
      AcceptsIn states (n + 1) i p
  | fork {n i next : Nat} {nexts : List Nat} {p : Place}
      (h : states.getD i .accept = .fork nexts) (hmem : next ∈ nexts)
      (hnext : AcceptsIn states n next p) : AcceptsIn states (n + 1) i p

/-- From a state, at a place, some steps lead to one that accepts. -/
def Accepts (states : Array AutomatonState) (i : Nat) (p : Place) : Prop :=
  ∃ n, AcceptsIn states n i p

section

variable {states built : Array AutomatonState} {i lo : Nat}

/-- Two arrays hold the same states from some place up to the end of the second. -/
def AgreeFrom (lo : Nat) (states built : Array AutomatonState) : Prop :=
  ∀ i, lo ≤ i → i < built.size → states[i]? = built[i]?

/-- A state that was built is the one that is run. -/
theorem AgreeFrom.getD {state : AutomatonState} (h : AgreeFrom lo states built) (hi : lo ≤ i)
    (hstate : built[i]? = some state) : states.getD i .accept = state := by
  have hlt : i < built.size := (Array.getElem?_eq_some_iff.mp hstate).1
  rw [Array.getD_eq_getD_getElem?, h i hi hlt, hstate, Option.getD_some]

end

-- ================================================================= parts

/-- One array is the beginning of the other. -/
def Extends (states built : Array AutomatonState) : Prop :=
  states.size ≤ built.size ∧ ∀ i < states.size, built[i]? = states[i]?

/-- What is built leads from its entry to the state to go on to, and nowhere else, and what
was there before stays. -/
structure Realizes (part : Builder) (leads : Place → Place → Prop) : Prop where
  keeps : ∀ next states, Extends states (part next states).2
  enters : ∀ next states all, AgreeFrom states.size all (part next states).2 →
    ∀ p q, leads p q → Accepts all next q → Accepts all (part next states).1 p
  leaves : ∀ next states all, AgreeFrom states.size all (part next states).2 →
    ∀ n p, AcceptsIn all n (part next states).1 p →
      ∃ q m, m ≤ n ∧ leads p q ∧ AcceptsIn all m next q

namespace Extends

variable {states built further : Array AutomatonState} {state : AutomatonState}

/-- Building adds states and changes none. -/
theorem refl (states : Array AutomatonState) : Extends states states :=
  ⟨le_refl _, fun _ _ => rfl⟩

theorem trans (h : Extends states built) (h' : Extends built further) :
    Extends states further := by
  obtain ⟨hsize, hget⟩ := h
  obtain ⟨hsize', hget'⟩ := h'
  refine ⟨hsize.trans hsize', fun i hi => ?_⟩
  rw [hget' i (hi.trans_le hsize), hget i hi]

/-- One state that is added is behind all others. -/
theorem push (states : Array AutomatonState) (state : AutomatonState) :
    Extends states (states.push state) := by
  refine ⟨by simp, fun i hi => ?_⟩
  rw [Array.getElem?_push, if_neg hi.ne]

/-- What agrees with the longer array agrees with the shorter. -/
theorem agreeFrom {all : Array AutomatonState} {lo : Nat} (h : Extends states built)
    (hagree : AgreeFrom lo all built) : AgreeFrom lo all states := by
  intro i hlo hi
  rw [hagree i hlo (hi.trans_le h.1), h.2 i hi]

end Extends

namespace AgreeFrom

variable {lo lo' i : Nat} {all mid built : Array AutomatonState} {state : AutomatonState}

/-- Where the later states are left out of account, less is asked. -/
theorem mono (h : AgreeFrom lo all built) (hlo : lo ≤ lo') : AgreeFrom lo' all built :=
  fun i hi => h i (hlo.trans hi)

/-- A state that has been added is found. -/
theorem getD_of_push (h : AgreeFrom lo all built) (hext : Extends (mid.push state) built)
    (hlo : lo ≤ mid.size) : all.getD mid.size .accept = state := by
  refine h.getD hlo ?_
  rw [hext.2 mid.size (by simp), Array.getElem?_push_size]

end AgreeFrom

namespace AcceptsIn

variable {all : Array AutomatonState} {n i next : Nat} {p : Place}

/-- From a state with a choice the run goes on from one of the next states, and nothing
has been read. -/
theorem of_fork {nexts : List Nat} (h : AcceptsIn all n i p)
    (hstate : all.getD i .accept = .fork nexts) :
    ∃ m, m + 1 = n ∧ ∃ next ∈ nexts, AcceptsIn all m next p := by
  cases h with
  | accept h => cases h.symm.trans hstate
  | consume h => cases h.symm.trans hstate
  | require h => cases h.symm.trans hstate
  | @fork m _ next _ _ h hmem hnext =>
      cases h.symm.trans hstate
      exact ⟨m, rfl, next, hmem, hnext⟩

/-- Where an anchor is required, it holds. -/
theorem of_require {anchor : Anchor} (h : AcceptsIn all n i p)
    (hstate : all.getD i .accept = .require anchor next) :
    ∃ m, m + 1 = n ∧ anchor.holds p.before p.rest.head? = true ∧ AcceptsIn all m next p := by
  cases h with
  | accept h => cases h.symm.trans hstate
  | consume h => cases h.symm.trans hstate
  | fork h => cases h.symm.trans hstate
  | @require m _ _ _ _ h hholds hnext =>
      cases h.symm.trans hstate
      exact ⟨m, rfl, hholds, hnext⟩

/-- Where a character is consumed, there is one and the set has it. -/
theorem of_consume {s : CodeSet} (h : AcceptsIn all n i p)
    (hstate : all.getD i .accept = .consume s next) :
    ∃ m c rest, m + 1 = n ∧ p.rest = c :: rest ∧ s.has c = true ∧
      AcceptsIn all m next ⟨some c, rest⟩ := by
  cases h with
  | accept h => cases h.symm.trans hstate
  | require h => cases h.symm.trans hstate
  | fork h => cases h.symm.trans hstate
  | @consume m _ _ _ _ c rest h hc hnext =>
      cases h.symm.trans hstate
      exact ⟨m, c, rest, rfl, rfl, hc, hnext⟩

end AcceptsIn

/-- One of the choices is enough. -/
theorem Accepts.fork {all : Array AutomatonState} {i next : Nat} {nexts : List Nat} {p : Place}
    (h : all.getD i .accept = .fork nexts) (hmem : next ∈ nexts) (hnext : Accepts all next p) :
    Accepts all i p := by
  obtain ⟨n, hn⟩ := hnext
  exact ⟨n + 1, .fork h hmem hn⟩

-- ============================================================ repetition

namespace Realizes

variable {part front back : Builder} {leads leads' : Place → Place → Prop}

/-- What a part leads to may be said in another way. -/
theorem congr (h : Realizes part leads) (hiff : ∀ p q, leads p q ↔ leads' p q) :
    Realizes part leads' := by
  have heq : leads = leads' := by
    funext p q
    exact propext (hiff p q)
  exact heq ▸ h

/-- Nothing leads nowhere else. -/
theorem nothing : Realizes (fun next states => (next, states)) fun p q => p = q where
  keeps := fun _ states => .refl states
  enters := by
    rintro next states all - p q rfl h
    exact h
  leaves := fun next states all _ n p h => ⟨p, n, le_refl n, rfl, h⟩

/-- Parts one after the other, of which the last is built first. -/
theorem follow (hfront : Realizes front leads) (hback : Realizes back leads') :
    Realizes (fun next states => front (back next states).1 (back next states).2)
      fun p r => ∃ q, leads p q ∧ leads' q r where
  keeps := fun next states => (hback.keeps next states).trans (hfront.keeps _ _)
  enters := by
    rintro next states all hagree p r ⟨q, hpq, hqr⟩ h
    have hmid := (hfront.keeps (back next states).1 (back next states).2).agreeFrom hagree
    exact hfront.enters _ _ all (hagree.mono (hback.keeps next states).1) p q hpq
      (hback.enters next states all hmid q r hqr h)
  leaves := by
    intro next states all hagree n p h
    have hmid := (hfront.keeps (back next states).1 (back next states).2).agreeFrom hagree
    obtain ⟨q, m, hm, hpq, h⟩ :=
      hfront.leaves _ _ all (hagree.mono (hback.keeps next states).1) n p h
    obtain ⟨r, o, ho, hqr, h⟩ := hback.leaves next states all hmid m q h
    exact ⟨r, o, ho.trans hm, ⟨q, hpq, hqr⟩, h⟩

/-- A part that is built so many times in a row leads on as often. -/
theorem copies (h : Realizes part leads) : ∀ n, Realizes (copies part n) (Times leads n)
  | 0 => nothing
  | n + 1 => (copies h n).follow h

/-- A part up to `n` times keeps what was there. -/
theorem keeps_optional (h : Realizes part leads) (stop : Nat) : ∀ n next states,
    Extends states (optional part stop n next states).2
  | 0, _, states => .refl states
  | n + 1, next, states => by
    have hpart := h.keeps next states
    have hpush := Extends.push (part next states).2 (.fork [(part next states).1, stop])
    exact (hpart.trans hpush).trans (keeps_optional h stop n _ _)

/-- With the choice to stop before each, a part leads on after all `n` times, and to the
stop after fewer. -/
theorem enters_optional (h : Realizes part leads) {stop : Nat} : ∀ n next states all,
    AgreeFrom states.size all (optional part stop n next states).2 → ∀ p q,
    (Times leads n p q ∧ Accepts all next q) ∨
      (∃ k < n, Times leads k p q ∧ Accepts all stop q) →
    Accepts all (optional part stop n next states).1 p
  | 0, next, states, all, _, p, q, hpaths => by
    rcases hpaths with ⟨rfl, haccepts⟩ | ⟨k, hk, -⟩
    · exact haccepts
    · exact absurd hk (Nat.not_lt_zero k)
  | n + 1, next, states, all, hagree, p, q, hpaths => by
    -- the last part is built first, then the choice before it, then the parts in front
    have hpart := h.keeps next states
    have hpush := Extends.push (part next states).2 (.fork [(part next states).1, stop])
    have hrest := h.keeps_optional stop n (part next states).2.size
      ((part next states).2.push (.fork [(part next states).1, stop]))
    have hbody := (hpush.trans hrest).agreeFrom hagree
    have hchoice := hagree.getD_of_push hrest hpart.1
    have hnext : ∀ {o : Nat} {q : Place}, o ∈ [(part next states).1, stop] →
        Accepts all o q → Accepts all (part next states).2.size q :=
      fun ho haccepts => haccepts.fork hchoice ho
    have hmore := h.enters_optional n _ _ all (hagree.mono (hpart.trans hpush).1) p
    rcases hpaths with ⟨⟨q', hfirst, hlast⟩, haccepts⟩ | ⟨k, hk, hfirst, haccepts⟩
    -- all the way through, and the last part is entered by its choice
    · have hentry := h.enters next states all hbody q' q hlast haccepts
      exact hmore q' (.inl ⟨hfirst, hnext (by simp) hentry⟩)
    · rcases Nat.lt_succ_iff_lt_or_eq.mp hk with hk | rfl
      · exact hmore q (.inr ⟨k, hk, hfirst, haccepts⟩)
      · exact hmore q (.inl ⟨hfirst, hnext (by simp) haccepts⟩)

/-- It leads nowhere else. -/
theorem leaves_optional (h : Realizes part leads) {stop : Nat} : ∀ n next states all,
    AgreeFrom states.size all (optional part stop n next states).2 → ∀ o p,
    AcceptsIn all o (optional part stop n next states).1 p → ∃ q m, m ≤ o ∧
      ((Times leads n p q ∧ AcceptsIn all m next q) ∨
        ∃ k < n, Times leads k p q ∧ AcceptsIn all m stop q)
  | 0, next, states, all, _, o, p, haccepts => ⟨p, o, le_refl o, .inl ⟨rfl, haccepts⟩⟩
  | n + 1, next, states, all, hagree, o, p, haccepts => by
    have hpart := h.keeps next states
    have hpush := Extends.push (part next states).2 (.fork [(part next states).1, stop])
    have hrest := h.keeps_optional stop n (part next states).2.size
      ((part next states).2.push (.fork [(part next states).1, stop]))
    have hbody := (hpush.trans hrest).agreeFrom hagree
    have hchoice := hagree.getD_of_push hrest hpart.1
    -- what is in front leads to the last choice or has stopped before
    obtain ⟨q, m, hm, hpaths⟩ :=
      h.leaves_optional n _ _ all (hagree.mono (hpart.trans hpush).1) o p haccepts
    rcases hpaths with ⟨hfirst, haccepts⟩ | ⟨k, hk, hfirst, haccepts⟩
    · obtain ⟨m', rfl, i, hi, hgo⟩ := haccepts.of_fork hchoice
      rcases List.mem_pair.mp hi with rfl | rfl
      -- the choice was to go on
      · obtain ⟨r, l, hl, hlast, hgo⟩ := h.leaves next states all hbody m' q hgo
        exact ⟨r, l, by omega, .inl ⟨⟨q, hfirst, hlast⟩, hgo⟩⟩
      · exact ⟨q, m', by omega, .inr ⟨n, Nat.lt_succ_self n, hfirst, hgo⟩⟩
    · exact ⟨q, m, hm, .inr ⟨k, Nat.lt_succ_of_lt hk, hfirst, haccepts⟩⟩

/-- A part that may be left before each time leads on any number of times up to the last. -/
theorem upTo (h : Realizes part leads) (n : Nat) :
    Realizes (fun next states => optional part next n next states)
      fun p q => ∃ k ≤ n, Times leads k p q where
  keeps := fun next states => h.keeps_optional next n next states
  enters := by
    rintro next states all hagree p q ⟨k, hk, hpq⟩ haccepts
    rcases Nat.lt_or_eq_of_le hk with hk | rfl
    · exact h.enters_optional n next states all hagree p q (.inr ⟨k, hk, hpq, haccepts⟩)
    · exact h.enters_optional k next states all hagree p q (.inl ⟨hpq, haccepts⟩)
  leaves := by
    intro next states all hagree o p haccepts
    obtain ⟨q, m, hm, hpaths⟩ := h.leaves_optional n next states all hagree o p haccepts
    rcases hpaths with ⟨hpq, haccepts⟩ | ⟨k, hk, hpq, haccepts⟩
    · exact ⟨q, m, hm, ⟨n, le_refl n, hpq⟩, haccepts⟩
    · exact ⟨q, m, hm, ⟨k, hk.le, hpq⟩, haccepts⟩

/-- What is built for a loop: its body comes back to the choice, which is the first of its
states. -/
theorem loop (h : Realizes part leads) :
    Realizes (Automaton.loop part) fun p q => ∃ n, Times leads n p q := by
  -- the choice is there before the body is built, and is changed afterwards
  have hbody : ∀ states : Array AutomatonState, Extends (states.push (.fork []))
      (part states.size (states.push (.fork []))).2 := fun _ => h.keeps _ _
  have hplace : ∀ states : Array AutomatonState,
      states.size < (part states.size (states.push (.fork []))).2.size := by
    intro states
    have hsize := (hbody states).1
    rw [Array.size_push] at hsize
    exact hsize
  have hagrees : ∀ next states all,
      AgreeFrom states.size all (Automaton.loop part next states).2 →
      AgreeFrom (states.push (.fork [])).size all
        (part states.size (states.push (.fork []))).2 ∧
      all.getD states.size .accept
        = .fork [(part states.size (states.push (.fork []))).1, next] := by
    intro next states all hagree
    constructor
    · intro i hlo hi
      rw [Array.size_push] at hlo
      have hset := hagree i (by omega) (by simpa [Automaton.loop, add] using hi)
      rw [hset]
      exact Array.getElem?_setIfInBounds_ne (by omega)
    · exact hagree.getD (le_refl _) (Array.getElem?_setIfInBounds_self_of_lt (hplace states))
  constructor
  case keeps =>
    intro next states
    constructor
    · show _ ≤ (Array.setIfInBounds _ _ _).size
      rw [Array.size_setIfInBounds]
      exact (hplace states).le
    · intro i hi
      refine (Array.getElem?_setIfInBounds_ne hi.ne').trans ?_
      rw [(hbody states).2 i (by simp; omega), (Extends.push states _).2 i hi]
  case enters =>
    rintro next states all hagree p q ⟨n, hpq⟩ haccepts
    obtain ⟨hagree, hchoice⟩ := hagrees next states all hagree
    replace haccepts : Accepts all states.size q := haccepts.fork hchoice (by simp)
    show Accepts all states.size p
    induction n generalizing q with
    | zero =>
        cases hpq
        exact haccepts
    | succ n ih =>
        obtain ⟨r, hpr, hrq⟩ := hpq
        have hentry := h.enters _ _ all hagree r q hrq haccepts
        exact ih r hpr (hentry.fork hchoice (by simp))
  case leaves =>
    intro next states all hagree o
    obtain ⟨hagree, hchoice⟩ := hagrees next states all hagree
    show ∀ p, AcceptsIn all o states.size p → _
    -- on the steps, of which going into the body takes one
    induction o using Nat.strongRecOn with
    | ind o ih =>
        intro p haccepts
        obtain ⟨m, rfl, i, hi, haccepts⟩ := haccepts.of_fork hchoice
        rcases List.mem_pair.mp hi with rfl | rfl
        · obtain ⟨q, l, hl, hpq, haccepts⟩ := h.leaves _ _ all hagree m p haccepts
          obtain ⟨r, k, hk, ⟨n, hqr⟩, haccepts⟩ := ih l (by omega) q haccepts
          have hfirst : Times leads 1 p q := ⟨p, rfl, hpq⟩
          exact ⟨r, k, by omega, ⟨1 + n, Times.add.mpr ⟨q, hfirst, hqr⟩⟩, haccepts⟩
        · exact ⟨p, m, by omega, ⟨0, rfl⟩, haccepts⟩

-- ========================================================= expressions

/-- A set leads past one character that it has. -/
theorem set (s : CodeSet) :
    Realizes (fun next states => add (.consume s next) states) (Expression.set s).Leads where
  keeps := fun _ states => Extends.push states _
  enters := by
    rintro next states all hagree p q ⟨c, hc, hpasses⟩ ⟨n, haccepts⟩
    have hstate := hagree.getD_of_push (.refl _) (le_refl states.size)
    cases hpasses with
    | cons hpasses =>
        cases hpasses
        exact ⟨n + 1, .consume hstate hc haccepts⟩
  leaves := by
    intro next states all hagree n p haccepts
    have hstate := hagree.getD_of_push (.refl _) (le_refl states.size)
    obtain ⟨m, c, rest, rfl, hrest, hc, hgo⟩ := haccepts.of_consume hstate
    obtain ⟨before, _⟩ := p
    cases hrest
    exact ⟨_, m, Nat.le_succ m, ⟨c, hc, .cons (.nil _)⟩, hgo⟩

/-- An anchor leads nowhere else, and only where it holds. -/
theorem anchor (a : Anchor) :
    Realizes (fun next states => add (.require a next) states) (Expression.anchor a).Leads where
  keeps := fun _ states => Extends.push states _
  enters := by
    rintro next states all hagree p q ⟨hholds, rfl⟩ ⟨n, haccepts⟩
    have hstate := hagree.getD_of_push (.refl _) (le_refl states.size)
    exact ⟨n + 1, .require hstate hholds haccepts⟩
  leaves := by
    intro next states all hagree n p haccepts
    have hstate := hagree.getD_of_push (.refl _) (le_refl states.size)
    obtain ⟨m, rfl, hholds, hgo⟩ := haccepts.of_require hstate
    exact ⟨p, m, Nat.le_succ m, ⟨hholds, rfl⟩, hgo⟩

variable {body : Expression}

/-- Without an upper bound there are the copies that must be, and then a loop. -/
theorem repeated_none (h : Realizes (build body) body.Leads) (least : Nat) :
    Realizes (build (.repeated body least none)) (Expression.repeated body least none).Leads := by
  refine ((h.copies least).follow h.loop).congr fun p r => ?_
  constructor
  · rintro ⟨q, hfirst, n, hmore⟩
    exact ⟨least + n, Nat.le_add_right .., fun _ hm => (Option.not_mem_none _ hm).elim,
      Times.add.mpr ⟨q, hfirst, hmore⟩⟩
  · rintro ⟨n, hn, -, htimes⟩
    obtain ⟨m, rfl⟩ := Nat.exists_eq_add_of_le hn
    obtain ⟨q, hfirst, hmore⟩ := Times.add.mp htimes
    exact ⟨q, hfirst, m, hmore⟩

/-- With one there are the copies that must be, and then those that may be. -/
theorem repeated_some (h : Realizes (build body) body.Leads) (least most : Nat) :
    Realizes (build (.repeated body least (some most)))
      (Expression.repeated body least (some most)).Leads := by
  refine ((h.copies least).follow (h.upTo (most - least))).congr fun p r => ?_
  constructor
  · rintro ⟨q, hfirst, k, hk, hmore⟩
    refine ⟨least + k, Nat.le_add_right .., fun m hm => ?_, Times.add.mpr ⟨q, hfirst, hmore⟩⟩
    cases hm
    omega
  · rintro ⟨n, hn, hmost, htimes⟩
    have hbound := hmost most rfl
    obtain ⟨m, rfl⟩ := Nat.exists_eq_add_of_le hn
    obtain ⟨q, hfirst, hmore⟩ := Times.add.mp htimes
    exact ⟨q, hfirst, m, by omega, hmore⟩

end Realizes

/-- Branches are built side by side. Each leads to the state to go on to. -/
structure RealizesEach (branches : List Expression) : Prop where
  keeps : ∀ next states, Extends states (buildEach branches next states).2
  enters : ∀ next states all, AgreeFrom states.size all (buildEach branches next states).2 →
    ∀ p q, Expression.OneLeads branches p q → Accepts all next q →
      ∃ entry ∈ (buildEach branches next states).1, Accepts all entry p
  leaves : ∀ next states all, AgreeFrom states.size all (buildEach branches next states).2 →
    ∀ n p, ∀ entry ∈ (buildEach branches next states).1, AcceptsIn all n entry p →
      ∃ q m, m ≤ n ∧ Expression.OneLeads branches p q ∧ AcceptsIn all m next q

namespace RealizesEach

variable {e : Expression} {branches : List Expression}

/-- No branches, no entries. -/
theorem nil : RealizesEach [] where
  keeps := fun _ states => .refl states
  enters := fun _ _ _ _ _ _ h => h.elim
  leaves := fun _ _ _ _ _ _ _ h => absurd h List.not_mem_nil

/-- One more branch is built behind the first ones, all with the same state to go on from. -/
theorem cons (hfirst : Realizes (build e) e.Leads) (hrest : RealizesEach branches) :
    RealizesEach (e :: branches) where
  keeps := fun next states => (hfirst.keeps next states).trans (hrest.keeps next _)
  enters := by
    intro next states all hagree p q hleads haccepts
    -- the first branch is left as it is while the others are built
    have hmid := (hrest.keeps next (build e next states).2).agreeFrom hagree
    rcases hleads with hleads | hleads
    · exact ⟨_, List.mem_cons_self .., hfirst.enters next states all hmid p q hleads haccepts⟩
    · obtain ⟨entry, hentry, hgo⟩ := hrest.enters next (build e next states).2 all
        (hagree.mono (hfirst.keeps next states).1) p q hleads haccepts
      exact ⟨entry, List.mem_cons_of_mem _ hentry, hgo⟩
  leaves := by
    intro next states all hagree n p entry hentry haccepts
    have hmid := (hrest.keeps next (build e next states).2).agreeFrom hagree
    rcases List.mem_cons.mp hentry with rfl | hentry
    · obtain ⟨q, m, hm, hleads, hgo⟩ := hfirst.leaves next states all hmid n p haccepts
      exact ⟨q, m, hm, .inl hleads, hgo⟩
    · obtain ⟨q, m, hm, hleads, hgo⟩ := hrest.leaves next (build e next states).2 all
        (hagree.mono (hfirst.keeps next states).1) n p entry hentry haccepts
      exact ⟨q, m, hm, .inr hleads, hgo⟩

/-- A choice between the entries leads wherever one of the branches does. -/
theorem alternate (h : RealizesEach branches) :
    Realizes (build (.alternate branches)) (Expression.alternate branches).Leads where
  keeps := fun next states => (h.keeps next states).trans (Extends.push _ _)
  enters := by
    intro next states all hagree p q hleads haccepts
    have hstate := hagree.getD_of_push (.refl _) (h.keeps next states).1
    obtain ⟨entry, hentry, hgo⟩ :=
      h.enters next states all ((Extends.push _ _).agreeFrom hagree) p q hleads haccepts
    exact hgo.fork hstate hentry
  leaves := by
    intro next states all hagree n p haccepts
    have hstate := hagree.getD_of_push (.refl _) (h.keeps next states).1
    obtain ⟨m, rfl, entry, hentry, hgo⟩ := haccepts.of_fork hstate
    obtain ⟨q, l, hl, hleads, hgo⟩ :=
      h.leaves next states all ((Extends.push _ _).agreeFrom hagree) m p entry hentry hgo
    exact ⟨q, l, Nat.le_succ_of_le hl, hleads, hgo⟩

end RealizesEach

mutual

/-- What is built for an expression leads just where the expression does. -/
theorem realizes_build : ∀ e : Expression, Realizes (build e) e.Leads
  | .empty => .nothing
  | .set s => .set s
  | .anchor a => .anchor a
  | .concat parts => realizes_buildAll parts
  | .alternate branches => (realizesEach branches).alternate
  | .repeated body least none => (realizes_build body).repeated_none least
  | .repeated body least (some most) => (realizes_build body).repeated_some least most
  | .group body => realizes_build body

/-- Parts in a row are built one after the other. The three definitions call each other,
and so do the proofs. -/
theorem realizes_buildAll : ∀ parts : List Expression,
    Realizes (buildAll parts) (Expression.LeadAll parts)
  | [] => .nothing
  | e :: rest => (realizes_build e).follow (realizes_buildAll rest)

/-- Branches are built side by side. -/
theorem realizesEach : ∀ branches : List Expression, RealizesEach branches
  | [] => .nil
  | e :: rest => .cons (realizes_build e) (realizesEach rest)

end

/-- The automaton of an expression accepts from a place just if the expression leads on from
there. -/
theorem accepts_ofExpression (e : Expression) (p : Place) :
    Accepts (ofExpression e).states (ofExpression e).entry p ↔ ∃ q, e.Leads p q := by
  have h := realizes_build e
  have hextends := h.keeps 0 #[.accept]
  have hagree : AgreeFrom (#[AutomatonState.accept]).size (ofExpression e).states
      (build e 0 #[.accept]).2 := fun _ _ _ => rfl
  have hlast : (ofExpression e).states.getD 0 .accept = .accept := by
    rw [Array.getD_eq_getD_getElem?]
    exact congrArg (·.getD .accept) (hextends.2 0 Nat.one_pos)
  constructor
  · rintro ⟨n, haccepts⟩
    obtain ⟨q, -, -, hleads, -⟩ := h.leaves 0 _ _ hagree n p haccepts
    exact ⟨q, hleads⟩
  · rintro ⟨q, hleads⟩
    exact h.enters 0 _ _ hagree p q hleads ⟨0, .accept hlast⟩

end Automaton

end Conformance
