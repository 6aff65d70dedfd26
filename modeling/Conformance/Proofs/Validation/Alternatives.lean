/-
The alternative that parsing uses.

Which alternative accepts a value is found out in two ways. Parsing tries one after the
other and keeps what the first that accepts the value makes of it. Looking for the
alternative passes by whatever wraps the union and checks one after the other. Both come
to the same alternative, and where one of them finds none so does the other
(`matchedVariant_agrees`). There is one exception: an optional node takes null before its
union is asked.

The induction is on what wraps the union. What a deferred reference stands for wraps one
too, so this is not an induction over the tree.
-/
import Conformance.Proofs.Validation.Forms

namespace Conformance

namespace Validator

-- ================================================================ wrappers

/-- Between the first validator and the second there are only optional nodes, shared nodes
and deferred references that can be resolved. -/
inductive Wraps : Validator → Validator → Prop
  | self (v : Validator) : Wraps v v
  | optional {inner w : Validator} (h : Wraps inner w) : Wraps (.optional inner) w
  | shared {number : Nat} {target w : Validator} (h : Wraps target w) :
      Wraps (.shared number target) w
  | deferred {d : Deferred} {t w : Validator} (ht : d.target = .ok t) (h : Wraps t w) :
      Wraps (.deferred d) w

variable {v w : Validator} {variants : List Validator}

/-- A wrapper passes every value on, but for null at an optional node. -/
theorem Wraps.passes_or_null (h : v.Wraps w) (x : Json) :
    (v.parse x = w.parse x ∧ v.matchedVariant x = w.matchedVariant x) ∨
      (x = .null ∧ v.parse x = .ok .null ∧ v.matchedVariant x = none ∧
        ∃ inner, v.Wraps (.optional inner)) := by
  induction h with
  | self v => exact .inl ⟨rfl, rfl⟩
  | @optional inner w h ih =>
      by_cases hnull : x = .null
      · subst hnull
        exact .inr ⟨rfl, rfl, rfl, inner, .self _⟩
      · rcases ih with ⟨hparse, hvariant⟩ | ⟨rfl, -⟩
        · left
          rw [matchedVariant_optional_of_ne hnull, parse_eq, parseAt_optional]
          cases x with
          | null => exact absurd rfl hnull
          | _ => exact ⟨(parse_eq inner _).symm.trans hparse, hvariant⟩
        · exact absurd rfl hnull
  | shared _ ih =>
      rcases ih with h | ⟨hnull, hparse, hvariant, inner, hinner⟩
      · exact .inl h
      · exact .inr ⟨hnull, hparse, hvariant, inner, .shared hinner⟩
  | @deferred d t w ht _ ih =>
      rw [parse_eq, parseAt_deferred x [] ht, ← parse_eq, matchedVariant_deferred x ht]
      rcases ih with h | ⟨hnull, hparse, hvariant, inner, hinner⟩
      · exact .inl h
      · exact .inr ⟨hnull, hparse, hvariant, inner, .deferred ht hinner⟩

/-- What wraps no union has no alternatives. -/
theorem matchedVariant_eq_none (x : Json) (h : ∀ variants, ¬ v.Wraps (.union variants)) :
    v.matchedVariant x = none := by
  induction v using wellFounded_stays.induction with
  | _ v ih =>
      cases v with
      | union variants => exact absurd (.self _) (h variants)
      | optional inner =>
          by_cases hnull : x = .null
          · subst hnull
            rfl
          · rw [matchedVariant_optional_of_ne hnull]
            exact ih inner (.inner inner) fun variants hw => h variants (.optional hw)
      | shared number target =>
          exact ih target (.target number target) fun variants hw => h variants (.shared hw)
      | deferred d =>
          cases ht : d.target with
          | error reason => exact matchedVariant_deferred_error x ht
          | ok t =>
              rw [matchedVariant_deferred x ht]
              exact ih t (.resolved ht) fun variants hw => h variants (.deferred ht hw)
      | _ => rfl

-- ================================================================== unions

/-- The alternative that is found is the first that accepts the value, and the union makes
of the value what this alternative does. -/
theorem parse_of_matchedVariant_union {x : Json} {i : Nat}
    (h : (union variants).matchedVariant x = some i) :
    ∃ hi : i < variants.length, (∀ (j : Nat) (hj : j < i), variants[j].check x = false) ∧
      ∃ y, variants[i].parse x = .ok y ∧ (union variants).parse x = .ok y := by
  rw [matchedVariant_union] at h
  obtain ⟨hi, hcheck, hbefore⟩ := List.findIdx?_eq_some_iff_getElem.mp h
  have hrejects : ∀ (j : Nat) (hj : j < i), variants[j].check x = false :=
    fun j hj => Bool.eq_false_iff.mpr (hbefore j hj)
  obtain ⟨y, hy⟩ := check_iff_form?.mp hcheck
  refine ⟨hi, hrejects, y, parse_eq_ok.mpr hy, parse_eq_ok.mpr ?_⟩
  rw [form?_union]
  refine List.findSome?_eq_some_iff.mpr
    ⟨variants.take i, variants[i], variants.drop (i + 1), by simp, hy, fun u hu => ?_⟩
  obtain ⟨j, hj, rfl⟩ := List.mem_take_iff_getElem.mp hu
  exact form?_eq_none_iff.mpr (hrejects j (by omega))

/-- Where no alternative is found, that is the one issue of the value. -/
theorem parse_of_matchedVariant_union_eq_none {x : Json}
    (h : (union variants).matchedVariant x = none) :
    ∃ issue, issue.kind = .noMatchingVariant variants.length ∧
      (union variants).parse x = .error ⟨[issue]⟩ := by
  rw [matchedVariant_union, List.findIdx?_eq_none_iff] at h
  have hnone : firstParsed? variants x [] = none := firstParsed?_eq_none_iff.mpr h
  refine ⟨.noVariant variants.length (reasons variants x [] 0) [], rfl, ?_⟩
  rw [parse_eq, parseAt_union, hnone]
  rfl

/-- Looking for the alternative that accepts a value and parsing the value agree. What is
found is the place of an alternative, all before it reject the value, and the value is
parsed to just what this alternative parses it to. Where nothing is found, the value is
rejected for want of an alternative, or it is null and has been taken by an optional node
around the union. Where there is no union nothing is found. -/
theorem matchedVariant_agrees (v : Validator) (x : Json) :
    (∀ variants, v.Wraps (.union variants) →
      (∀ i, v.matchedVariant x = some i →
        ∃ hi : i < variants.length, (∀ (j : Nat) (hj : j < i), variants[j].check x = false) ∧
          ∃ y, variants[i].parse x = .ok y ∧ v.parse x = .ok y) ∧
      (v.matchedVariant x = none →
        (∃ issue, issue.kind = .noMatchingVariant variants.length ∧
          v.parse x = .error ⟨[issue]⟩) ∨
        (x = .null ∧ v.parse x = .ok .null ∧ ∃ inner, v.Wraps (.optional inner)))) ∧
    ((∀ variants, ¬ v.Wraps (.union variants)) → v.matchedVariant x = none) := by
  refine ⟨fun variants hwraps => ?_, matchedVariant_eq_none x⟩
  rcases hwraps.passes_or_null x with ⟨hparse, hvariant⟩ | ⟨hnull, hparse, hvariant, hinner⟩
  · rw [hparse, hvariant]
    exact ⟨fun i => parse_of_matchedVariant_union,
      fun hnone => .inl (parse_of_matchedVariant_union_eq_none hnone)⟩
  · rw [hvariant]
    exact ⟨fun i h => (nomatch h), fun _ => .inr ⟨hnull, hparse, hinner⟩⟩

/-- A word or a number by a definition of its own, or null. -/
def wordNumberOrNull : Json :=
  .object
    [("anyOf", .array
      [.object [("$ref", .string "#/$defs/wordOrNumber")], .object [("type", .string "null")]]),
     ("$defs", .object
      [("wordOrNumber", .object [("anyOf", .array
        [.object [("type", .string "string"), ("minLength", .number (.whole 2))],
         .object [("type", .string "integer")]])])])]

theorem matchedVariant_agrees_wordNumberOrNull : ∃ v variants,
    (compile wordNumberOrNull).result = .ok v ∧ v.Wraps (.union variants) ∧
      v.matchedVariant (.number (.whole 7)) = some 1 ∧
      (∃ hi : 1 < variants.length,
        (∀ (j : Nat) (hj : j < 1), variants[j].check (.number (.whole 7)) = false) ∧
        ∃ y, variants[1].parse (.number (.whole 7)) = .ok y ∧
          v.parse (.number (.whole 7)) = .ok y) ∧
      v.matchedVariant (.string "a") = none ∧
      (∃ issue, issue.kind = .noMatchingVariant variants.length ∧
        v.parse (.string "a") = .error ⟨[issue]⟩) ∧
      v.matchedVariant .null = none ∧ v.parse .null = .ok .null := by
  have hcompile : (compile wordNumberOrNull).result = .ok _ := rfl
  have hnull : Json.string "a" ≠ .null := fun h => nomatch h
  refine ⟨_, _, hcompile, .optional (.shared (.self _)), rfl, ?_, rfl, ?_, rfl, rfl⟩
  · exact ((matchedVariant_agrees _ _).1 _ (.optional (.shared (.self _)))).1 1 rfl
  · exact (((matchedVariant_agrees _ _).1 _ (.optional (.shared (.self _)))).2 rfl).resolve_right
      fun h => hnull h.1

end Validator

end Conformance
