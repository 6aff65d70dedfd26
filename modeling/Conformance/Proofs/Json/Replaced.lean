/-
Values with what stands at a location replaced.

`replace` puts a value at a location and leaves all else: the number of items, the
names of members and their order, and whatever stands at a location that does not
lie on the way there or below it. Where nothing stands at the location, nothing is
replaced.
-/
import Conformance.Proofs.Json.Pointers

namespace Conformance

/-- Neither location lies at the other or below it. -/
def Location.Apart (l k : Location) : Prop := ¬ l <+: k ∧ ¬ k <+: l

theorem Location.Apart.of_cons {s : String} {l k : Location} (h : Apart (s :: l) (s :: k)) :
    Apart l k := by
  obtain ⟨hl, hk⟩ := h
  simp only [List.prefix_cons_inj] at hl hk
  exact ⟨hl, hk⟩

/-- The members with the value under a name changed. -/
def Members.alter (name : String) (f : Json → Json) (members : Members) : Members :=
  members.map fun m => (m.1, if m.1 = name then f m.2 else m.2)

theorem Members.get?_alter (name : String) (f : Json → Json) (members : Members)
    (other : String) :
    (members.alter name f).get? other
      = (members.get? other).map fun z => if other = name then f z else z :=
  get?_map (fun other z => if other = name then f z else z) members other

namespace Json

/-- The value with another one at the location. -/
def replace : Location → Json → Json → Json
  | [], _, y => y
  | index :: rest, array items, y =>
    array (items.zipIdx.map fun e => if toString e.2 = index then replace rest e.1 y else e.1)
  | name :: rest, object members, y =>
    object (Members.alter name (fun z => replace rest z y) members)
  | _, x, _ => x

section

variable {s : String} {rest : Location} {y : Json}

/-- The replaced items have the numbers that the items had. -/
theorem zipIdx_map_zipIdx (f : Json × Nat → Json) (items : List Json) :
    (items.zipIdx.map f).zipIdx = items.zipIdx.map fun e => (f e, e.2) := by
  apply List.ext_getElem
  · simp
  · intro i h _
    simp

/-- Of what stands right inside a value, all is left but what is on the way. -/
theorem at?_singleton_replace (t : String) (x : Json) :
    (x.replace (s :: rest) y).at? [t]
      = (x.at? [t]).map fun z => if t = s then z.replace rest y else z := by
  cases x with
  | object members =>
      rw [replace, at?, at?, Members.get?_alter]
      cases Members.get? members t <;> rfl
  | array items =>
      rw [replace, at?, at?, zipIdx_map_zipIdx, List.find?_map]
      have hnumber : (items.zipIdx.find? ((fun e => toString e.2 == t) ∘ fun e =>
          (if toString e.2 = s then replace rest e.1 y else e.1, e.2)))
          = items.zipIdx.find? fun e => toString e.2 == t := rfl
      rw [hnumber]
      cases hfound : items.zipIdx.find? fun e => toString e.2 == t with
      | none => rfl
      | some e =>
          obtain ⟨-, rfl⟩ := find?_index_eq_some_iff.mp hfound
          rfl
  | _ => rfl

theorem at?_cons (t : String) (k : Location) (x : Json) :
    x.at? (t :: k) = (x.at? [t]).bind (at? k) :=
  at?_append [t] k x

/-- What is found at the location is what was put there. -/
theorem at?_replace {l : Location} {x : Json} (h : (x.at? l).isSome) :
    (x.replace l y).at? l = some y := by
  induction l generalizing x with
  | nil => rfl
  | cons s rest ih =>
      rw [at?_cons] at h
      rw [at?_cons, at?_singleton_replace]
      cases hfound : x.at? [s] with
      | none =>
          rw [hfound] at h
          cases h
      | some z =>
          rw [hfound] at h
          rw [Option.map_some, if_pos rfl]
          exact ih h

/-- What is found at a location apart from it is what was there. -/
theorem at?_replace_of_apart {l k : Location} (h : l.Apart k) (x : Json) :
    (x.replace l y).at? k = x.at? k := by
  induction l generalizing k x with
  | nil => exact absurd (List.nil_prefix ..) h.1
  | cons s rest ih =>
      cases k with
      | nil => exact absurd (List.nil_prefix ..) h.2
      | cons t k =>
          rw [at?_cons t k, at?_cons t k, at?_singleton_replace, Option.bind_map]
          by_cases hts : t = s
          · subst hts
            simp only [Function.comp_def, if_true, ih h.of_cons]
          · simp only [Function.comp_def, if_neg hts]

end

end Json

end Conformance
