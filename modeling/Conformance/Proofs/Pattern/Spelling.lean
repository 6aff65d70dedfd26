/-
Texts that an expression spells.

Without anchors it does not matter where an expression is tried, and it comes down to the
texts that it spells (`leads_iff`): it leads over just these. An expression between an anchor
at each end occurs in a text just if it spells the whole of it (`occurs_anchored_iff`). So
nothing can stand before what it matches, or behind it.
-/
import Conformance.Proofs.Lists
import Conformance.Proofs.Pattern.Matching
import Mathlib.Data.List.Basic

namespace Conformance

namespace Expression

open Place

mutual

/-- No anchor is in the expression. -/
def anchorless : Expression → Bool
  | .empty => true
  | .set _ => true
  | .anchor _ => false
  | .concat parts => allAnchorless parts
  | .alternate branches => allAnchorless branches
  | .repeated body _ _ => anchorless body
  | .group body => anchorless body

/-- No anchor is in any of the expressions. -/
def allAnchorless : List Expression → Bool
  | [] => true
  | e :: rest => anchorless e && allAnchorless rest

end

mutual

/-- An expression spells a text. One with an anchor in it does not spell any over it. -/
def Spells : Expression → List Char → Prop
  | .empty, cs => cs = []
  | .set s, cs => ∃ c, s.has c = true ∧ cs = [c]
  | .anchor _, _ => False
  | .concat parts, cs => SpellAll parts cs
  | .alternate branches, cs => OneSpells branches cs
  | .repeated body least most, cs =>
    ∃ parts : List (List Char), least ≤ parts.length ∧
      (∀ m ∈ most, parts.length ≤ max least m) ∧
      (∀ part ∈ parts, Spells body part) ∧ cs = parts.flatten
  | .group body, cs => Spells body cs

/-- Expressions spell a text one after the other. -/
def SpellAll : List Expression → List Char → Prop
  | [], cs => cs = []
  | e :: rest, cs => ∃ front back, Spells e front ∧ SpellAll rest back ∧ cs = front ++ back

/-- One of several expressions spells a text. -/
def OneSpells : List Expression → List Char → Prop
  | [], _ => False
  | e :: rest, cs => Spells e cs ∨ OneSpells rest cs

end

/-- What leads over the texts of some kind, a number of times over, leads over as many of
them. -/
theorem times_iff {leads : Place → Place → Prop} {kind : List Char → Prop}
    (h : ∀ p q, leads p q ↔ ∃ cs, kind cs ∧ Passes p cs q) {n : Nat} {p q : Place} :
    Times leads n p q ↔ ∃ parts : List (List Char), parts.length = n ∧
      (∀ part ∈ parts, kind part) ∧ Passes p parts.flatten q := by
  induction n generalizing q with
  | zero =>
      constructor
      · rintro rfl
        exact ⟨[], rfl, fun _ hpart => absurd hpart List.not_mem_nil, .nil _⟩
      · rintro ⟨parts, hlength, -, hpasses⟩
        cases List.eq_nil_of_length_eq_zero hlength
        exact Passes.nil_iff.mp hpasses
  | succ n ih =>
      constructor
      · rintro ⟨r, hfirst, hlast⟩
        -- the last time comes behind the parts of the earlier ones
        obtain ⟨parts, rfl, hparts, hpasses⟩ := ih.mp hfirst
        obtain ⟨cs, hcs, hpasses'⟩ := (h r q).mp hlast
        refine ⟨parts ++ [cs], by simp, ?_, ?_⟩
        · exact List.forall_mem_append.mpr ⟨hparts, List.forall_mem_singleton.mpr hcs⟩
        · rw [List.flatten_append, List.flatten_singleton]
          exact hpasses.trans hpasses'
      · rintro ⟨parts, hlength, hparts, hpasses⟩
        rcases List.eq_nil_or_concat parts with rfl | ⟨front, last, rfl⟩
        · cases hlength
        · rw [List.concat_eq_append] at hlength hparts hpasses
          rw [List.flatten_append, List.flatten_singleton] at hpasses
          obtain ⟨hfront, hlast⟩ := List.forall_mem_append.mp hparts
          obtain ⟨r, hfirst, hsecond⟩ := Passes.append_iff.mp hpasses
          have hlength' : front.length = n := by simpa using hlength
          exact ⟨r, ih.mpr ⟨front, hlength', hfront, hfirst⟩,
            (h r q).mpr ⟨last, hlast last (List.mem_singleton_self _), hsecond⟩⟩

mutual

/-- An expression without anchors leads over the texts that it spells. -/
theorem leads_iff : ∀ e : Expression, e.anchorless = true → ∀ p q,
    e.Leads p q ↔ ∃ cs, e.Spells cs ∧ Passes p cs q
  | .empty, _, p, q => by simp [Leads, Spells]
  | .set s, _, p, q => by
    constructor
    · rintro ⟨c, hc, hpasses⟩
      exact ⟨[c], ⟨c, hc, rfl⟩, hpasses⟩
    · rintro ⟨_, ⟨c, hc, rfl⟩, hpasses⟩
      exact ⟨c, hc, hpasses⟩
  | .anchor _, h, _, _ => by cases h
  | .concat parts, h, p, q => leadAll_iff parts h p q
  | .alternate branches, h, p, q => oneLeads_iff branches h p q
  | .repeated body least most, h, p, q => by
    have hbody := leads_iff body h
    constructor
    · rintro ⟨n, hleast, hmost, htimes⟩
      obtain ⟨parts, rfl, hparts, hpasses⟩ := (times_iff hbody).mp htimes
      exact ⟨_, ⟨parts, hleast, hmost, hparts, rfl⟩, hpasses⟩
    · rintro ⟨_, ⟨parts, hleast, hmost, hparts, rfl⟩, hpasses⟩
      exact ⟨_, hleast, hmost, (times_iff hbody).mpr ⟨parts, rfl, hparts, hpasses⟩⟩
  | .group body, h, p, q => leads_iff body h p q

/-- Parts in a row pass over what they spell in a row. -/
theorem leadAll_iff : ∀ parts : List Expression, allAnchorless parts = true → ∀ p q,
    LeadAll parts p q ↔ ∃ cs, SpellAll parts cs ∧ Passes p cs q
  | [], _, p, q => by simp [LeadAll, SpellAll]
  | e :: rest, h, p, r => by
    obtain ⟨he, hrest⟩ := Bool.and_eq_true_iff.mp h
    constructor
    · rintro ⟨q, hfirst, hmore⟩
      obtain ⟨front, hfront, hpasses⟩ := (leads_iff e he p q).mp hfirst
      obtain ⟨back, hback, hpasses'⟩ := (leadAll_iff rest hrest q r).mp hmore
      exact ⟨_, ⟨front, back, hfront, hback, rfl⟩, hpasses.trans hpasses'⟩
    · rintro ⟨_, ⟨front, back, hfront, hback, rfl⟩, hpasses⟩
      obtain ⟨q, hfirst, hmore⟩ := Passes.append_iff.mp hpasses
      exact ⟨q, (leads_iff e he p q).mpr ⟨front, hfront, hfirst⟩,
        (leadAll_iff rest hrest q r).mpr ⟨back, hback, hmore⟩⟩

/-- One of the branches passes over what it spells. -/
theorem oneLeads_iff : ∀ branches : List Expression, allAnchorless branches = true → ∀ p q,
    OneLeads branches p q ↔ ∃ cs, OneSpells branches cs ∧ Passes p cs q
  | [], _, p, q => by simp [OneLeads, OneSpells]
  | e :: rest, h, p, q => by
    obtain ⟨he, hrest⟩ := Bool.and_eq_true_iff.mp h
    show Leads e p q ∨ OneLeads rest p q ↔ _
    rw [leads_iff e he p q, oneLeads_iff rest hrest p q, ← exists_or]
    exact exists_congr fun cs => or_and_right.symm

end

-- ============================================================== anchors

/-- A row may be divided anywhere. -/
theorem leadAll_append {front back : List Expression} {p r : Place} :
    LeadAll (front ++ back) p r ↔ ∃ q, LeadAll front p q ∧ LeadAll back q r := by
  induction front generalizing p with
  | nil => simp [LeadAll]
  | cons e rest ih =>
      simp only [List.cons_append, LeadAll, ih]
      constructor
      · rintro ⟨q, he, o, hfront, hback⟩
        exact ⟨o, ⟨q, he, hfront⟩, hback⟩
      · rintro ⟨o, ⟨q, he, hfront⟩, hback⟩
        exact ⟨q, he, o, hfront, hback⟩

/-- From the start of a text to its end, an expression occurs just if it spells the text. -/
theorem occurs_anchored_iff {parts : List Expression} (h : allAnchorless parts = true)
    (text : String) :
    (Expression.concat (.anchor .textStart :: (parts ++ [.anchor .textEnd]))).Occurs text ↔
      SpellAll parts text.toList := by
  constructor
  · rintro ⟨passed, _, q, hpasses, p, ⟨hstart, rfl⟩, hleads⟩
    -- nothing can have been passed before the start
    have hpassed : passed = [] := by
      cases passed with
      | nil => rfl
      | cons c cs =>
          have hbefore := hpasses.before_isSome
          rw [Option.isSome_iff_ne_none] at hbefore
          exact absurd (Option.isNone_iff_eq_none.mp hstart) hbefore
    subst hpassed
    obtain rfl := Passes.nil_iff.mp hpasses
    obtain ⟨q, hparts, _, ⟨hend, rfl⟩, rfl⟩ := leadAll_append.mp hleads
    obtain ⟨cs, hcs, hpasses⟩ := (leadAll_iff parts h _ _).mp hparts
    -- nothing is left at the end, so all of the text has been spelt
    have hrest : q.rest = [] := List.head?_eq_none_iff.mp (Option.isNone_iff_eq_none.mp hend)
    have htext := hpasses.rest_eq
    rw [hrest, List.append_nil] at htext
    rw [show text.toList = cs from htext]
    exact hcs
  · intro hspells
    obtain ⟨q, hpasses, hrest⟩ :=
      Passes.exists_of_rest_eq (List.append_nil text.toList).symm (p := start text)
    have hend : (Expression.anchor .textEnd).Leads q q := by
      refine ⟨?_, rfl⟩
      rw [hrest]
      rfl
    refine ⟨[], _, q, .nil _, _, ⟨rfl, rfl⟩, leadAll_append.mpr ⟨q, ?_, q, hend, rfl⟩⟩
    exact (leadAll_iff parts h _ _).mpr ⟨_, hspells, hpasses⟩

-- ================================================ rows and repetitions

/-- One part spells what it spells alone. -/
theorem spellAll_singleton {e : Expression} {cs : List Char} : SpellAll [e] cs ↔ e.Spells cs := by
  simp [SpellAll]

/-- What a row spells is divided where the row is. -/
theorem spellAll_append {front back : List Expression} {cs : List Char} :
    SpellAll (front ++ back) cs ↔
      ∃ before after, SpellAll front before ∧ SpellAll back after ∧ cs = before ++ after := by
  induction front generalizing cs with
  | nil => simp [SpellAll]
  | cons e rest ih =>
      simp only [List.cons_append, SpellAll, ih]
      constructor
      · rintro ⟨first, _, he, ⟨before, after, hbefore, hafter, rfl⟩, rfl⟩
        exact ⟨_, after, ⟨first, before, he, hbefore, rfl⟩, hafter, by rw [List.append_assoc]⟩
      · rintro ⟨_, after, ⟨first, before, he, hbefore, rfl⟩, hafter, rfl⟩
        exact ⟨first, _, he, ⟨before, after, hbefore, hafter, rfl⟩, by rw [List.append_assoc]⟩

/-- What spells the texts of some items, repeated, spells those of so many items in a row. -/
theorem spells_repeated_iff {α : Type} {body : Expression} {item : α → Prop}
    {f : α → List Char} (h : ∀ cs, body.Spells cs ↔ ∃ x, item x ∧ cs = f x) {least : Nat}
    {most : Option Nat} {cs : List Char} :
    (Expression.repeated body least most).Spells cs ↔
      ∃ xs : List α, least ≤ xs.length ∧ (∀ m ∈ most, xs.length ≤ max least m) ∧
        (∀ x ∈ xs, item x) ∧ cs = xs.flatMap f := by
  constructor
  · rintro ⟨parts, hleast, hmost, hparts, rfl⟩
    -- each part is the text of an item
    obtain ⟨xs, hxs⟩ := exists_forall₂ fun part hpart => (h part).mp (hparts part hpart)
    rw [hxs.length_eq] at hleast hmost
    refine ⟨xs, hleast, hmost, fun x hx => ?_, ?_⟩
    · obtain ⟨part, -, hitem, -⟩ := exists_left_of_forall₂ hxs x hx
      exact hitem
    · rw [List.flatMap_def, ← map_eq_of_forall₂ hxs (f := id) fun _ _ _ hpart => hpart.2,
        List.map_id]
  · rintro ⟨xs, hleast, hmost, hxs, rfl⟩
    refine ⟨xs.map f, ?_, ?_, ?_, List.flatMap_def⟩
    · rwa [List.length_map]
    · rwa [List.length_map]
    · intro part hpart
      obtain ⟨x, hx, rfl⟩ := List.mem_map.mp hpart
      exact (h _).mpr ⟨x, hxs x hx, rfl⟩

/-- A set that is repeated spells the texts over it of so many characters. -/
theorem spells_repeated_set {s : CodeSet} {least : Nat} {most : Option Nat} {cs : List Char} :
    (Expression.repeated (.set s) least most).Spells cs ↔
      least ≤ cs.length ∧ (∀ m ∈ most, cs.length ≤ max least m) ∧ ∀ c ∈ cs, s.has c = true := by
  rw [spells_repeated_iff (f := fun c => [c]) fun _ => Iff.rfl]
  simp only [List.flatMap_singleton']
  constructor
  · rintro ⟨_, hleast, hmost, hall, rfl⟩
    exact ⟨hleast, hmost, hall⟩
  · rintro ⟨hleast, hmost, hall⟩
    exact ⟨cs, hleast, hmost, hall, rfl⟩

/-- Without an upper bound only the least number of characters counts. -/
theorem spells_repeated_set_none {s : CodeSet} {least : Nat} {cs : List Char} :
    (Expression.repeated (.set s) least none).Spells cs ↔
      least ≤ cs.length ∧ ∀ c ∈ cs, s.has c = true := by
  rw [spells_repeated_set]
  simp

end Expression

end Conformance
