/-
Lists.

Most of this is about lists whose items are related one by one: what each item has on the
other side, and what functions make of both lists. At the end stand two facts about single
lists.
-/
import Mathlib.Data.List.Forall2

namespace Conformance

-- ====================================================== related one by one

variable {α β : Type} {R : α → β → Prop} {as : List α} {bs : List β}

/-- What stands on the right has a partner on the left. -/
theorem exists_left_of_forall₂ (h : List.Forall₂ R as bs) : ∀ b ∈ bs, ∃ a ∈ as, R a b := by
  induction h with
  | nil => exact fun _ hb => absurd hb List.not_mem_nil
  | cons hhead _ ih =>
      intro b hb
      rcases List.mem_cons.mp hb with rfl | hb
      · exact ⟨_, List.mem_cons_self .., hhead⟩
      · obtain ⟨a, ha, hab⟩ := ih b hb
        exact ⟨a, List.mem_cons_of_mem _ ha, hab⟩

/-- The partner stands in the same place. Where names decide what is looked at, this is
what tells which of several partners is meant. -/
theorem exists_mem_zip_of_forall₂ (h : List.Forall₂ R as bs) :
    ∀ b ∈ bs, ∃ a, (a, b) ∈ as.zip bs := by
  induction h with
  | nil => exact fun _ hb => absurd hb List.not_mem_nil
  | cons _ _ ih =>
      intro b hb
      rw [List.zip_cons_cons]
      rcases List.mem_cons.mp hb with rfl | hb
      · exact ⟨_, List.mem_cons_self ..⟩
      · obtain ⟨a, ha⟩ := ih b hb
        exact ⟨a, List.mem_cons_of_mem _ ha⟩

/-- What stands on the left has a partner on the right. -/
theorem exists_right_of_forall₂ (h : List.Forall₂ R as bs) : ∀ a ∈ as, ∃ b ∈ bs, R a b :=
  exists_left_of_forall₂ h.flip

/-- One relation may be put for another that follows from it for the items of the first
list. In an induction over syntax trees these are the ones of which anything is known. -/
theorem forall₂_imp_of_mem {S : α → β → Prop} (h : List.Forall₂ R as bs)
    (himp : ∀ a ∈ as, ∀ b, R a b → S a b) : List.Forall₂ S as bs :=
  ((List.forall₂_and_left (p := (· ∈ as)) as bs).mpr ⟨fun _ ha => ha, h⟩).imp
    fun _ _ h => himp _ h.1 _ h.2

/-- A list of partners, where every item has one. -/
theorem exists_forall₂ {as : List α} (h : ∀ a ∈ as, ∃ b, R a b) :
    ∃ bs, List.Forall₂ R as bs := by
  induction as with
  | nil => exact ⟨[], .nil⟩
  | cons a rest ih =>
      obtain ⟨b, hb⟩ := h a (List.mem_cons_self ..)
      obtain ⟨bs, hbs⟩ := ih fun a ha => h a (List.mem_cons_of_mem _ ha)
      exact ⟨b :: bs, .cons hb hbs⟩

/-- Two functions that agree on partners make the same list of both sides. -/
theorem map_eq_of_forall₂ {γ : Type} {f : α → γ} {g : β → γ} (h : List.Forall₂ R as bs)
    (hfg : ∀ a ∈ as, ∀ b, R a b → f a = g b) : as.map f = bs.map g := by
  induction h with
  | nil => rfl
  | cons hhead _ ih =>
      rw [List.map_cons, List.map_cons, hfg _ (List.mem_cons_self ..) _ hhead,
        ih fun a ha => hfg a (List.mem_cons_of_mem _ ha)]

/-- If the relation is the graph of a function, the right side is the image of the left. -/
theorem map_eq_of_forall₂_eq {f : α → β} (h : List.Forall₂ (fun a b => f a = b) as bs) :
    as.map f = bs := by
  rw [map_eq_of_forall₂ h fun _ _ _ heq => heq, List.map_id']

/-- The same for functions that make several items of each. -/
theorem flatMap_eq_of_forall₂ {γ : Type} {f : α → List γ} {g : β → List γ}
    (h : List.Forall₂ R as bs) (hfg : ∀ a ∈ as, ∀ b, R a b → f a = g b) :
    as.flatMap f = bs.flatMap g := by
  rw [List.flatMap_def, List.flatMap_def, map_eq_of_forall₂ h hfg]

/-- A relation is carried over from two lists to those that correspond to them. -/
theorem forall₂_carried {γ δ : Type} {P : α → γ → Prop} {Q : β → δ → Prop} {S : γ → δ → Prop}
    {cs : List γ} {ds : List δ} (h : List.Forall₂ R as bs) (hcs : List.Forall₂ P as cs)
    (hds : List.Forall₂ Q bs ds) (himp : ∀ a b c d, R a b → P a c → Q b d → S c d) :
    List.Forall₂ S cs ds := by
  induction h generalizing cs ds with
  | nil =>
      cases hcs
      cases hds
      exact .nil
  | cons hab _ ih =>
      cases hcs with
      | cons hc hcs =>
          cases hds with
          | cons hd hds => exact .cons (himp _ _ _ _ hab hc hd) (ih hcs hds)

-- ============================================================ single lists

/-- What is found first depends on what is made of the items. -/
theorem findSome?_congr {f g : α → Option β} (h : ∀ a ∈ as, f a = g a) :
    as.findSome? f = as.findSome? g := by
  induction as with
  | nil => rfl
  | cons a rest ih =>
      rw [List.findSome?_cons, List.findSome?_cons, h a (List.mem_cons_self ..),
        ih fun b hb => h b (List.mem_cons_of_mem _ hb)]

/-- Where nothing is repeated, leaving out repetitions changes nothing. -/
theorem eraseDups_of_nodup [DecidableEq α] (h : as.Nodup) : as.eraseDups = as := by
  induction as with
  | nil => rfl
  | cons a rest ih =>
      obtain ⟨ha, hrest⟩ := List.nodup_cons.mp h
      have hall : ∀ b ∈ rest, (!b == a) = true := by
        intro b hb
        simp only [Bool.not_eq_true', beq_eq_false_iff_ne]
        rintro rfl
        exact ha hb
      rw [List.eraseDups_cons, List.filter_eq_self.mpr hall, ih hrest]

end Conformance
