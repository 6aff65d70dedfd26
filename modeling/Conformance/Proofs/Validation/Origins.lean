/-
Where issues come from.

An issue is made by one node, about the value that this node was asked about or about a
member of it, and every node above leaves it as it is. The nodes that do so either pass on
the whole value (`LeavesTo`), or they ask about what stands in it under a number or a name
(`AsksAt`). A union is the exception. It passes nothing on, but has an issue of its own
that is made from the first issues of its alternatives. `Raises` says this as one
induction, over the way from the validator to the node that made the issue, and every issue
of a value has such a way (`raises_of_mem_issues`). So what is to be shown of all issues is
shown of those that a node makes (`Says`), and kept along the way.
-/
import Conformance.Proofs.Json.Pointers
import Conformance.Proofs.Validation.Encounters
import Conformance.Proofs.Validation.Equations

namespace Conformance

namespace Validator

-- ================================================================ the way

/-- The node leaves the value to another, and what that one says is all it says. -/
inductive LeavesTo : Validator → Json → Validator → Prop
  | inner (inner : Validator) {x : Json} (hx : x ≠ .null) : LeavesTo (.optional inner) x inner
  | target (number : Nat) (target : Validator) (x : Json) :
      LeavesTo (.shared number target) x target
  | resolved {d : Deferred} {t : Validator} (ht : d.target = .ok t) (x : Json) :
      LeavesTo (.deferred d) x t

/-- To answer about a value, the first validator asks the second about an item or a
member, which stands under a number or a name. -/
inductive AsksAt : Validator → Json → String → Validator → Json → Prop
  | item {items : Validator} {bounds : ItemBounds} {values : List Json} {e : Json × Nat}
      (he : e ∈ values.zipIdx) :
      AsksAt (.array items bounds) (.array values) (toString e.2) items e.1
  | member {properties : List (Property Validator)} {additional : Additional Validator}
      {members : Members} {p : Property Validator} {y : Json} (hp : p ∈ properties)
      (hget : members.get? p.name = some y) :
      AsksAt (.object properties additional) (.object members) p.name p.validator y
  | other {properties : List (Property Validator)} {catchAll : Validator} {members : Members}
      {m : String × Json} (hm : m ∈ undeclared properties members) :
      AsksAt (.object properties (.schema catchAll)) (.object members) m.1 catchAll m.2

section

variable {v w : Validator} {x y : Json} {s : String}

/-- To pass on the whole value is to stay with it. -/
theorem LeavesTo.stays (h : v.LeavesTo x w) : Stays v w := by
  cases h with
  | inner => exact .inner w
  | target number => exact .target number w
  | resolved ht => exact .resolved ht

/-- So it is one of the ways to ask. -/
theorem LeavesTo.asks (h : v.LeavesTo x w) : Asks (v, some x) (w, some x) := .stays h.stays _

/-- To ask about what stands inside is another. -/
theorem AsksAt.asks (h : AsksAt v x s w y) : Asks (v, some x) (w, some y) := by
  cases h with
  | item he => exact .item (List.fst_mem_of_mem_zipIdx he)
  | member hp hget => exact .member hp hget
  | other hm => exact .other (List.mem_filter.mp hm).1

/-- Where names are distinct, what is asked about under a name is what stands there. -/
theorem AsksAt.at?_eq (h : AsksAt v x s w y) (hx : x.Distinct) : x.at? [s] = some y := by
  cases h with
  | item he => exact Json.at?_item he []
  | member _ hget => exact Json.at?_member hget []
  | other hm =>
      have hmembers : Members.Distinct _ := hx
      exact Json.at?_member
        ((Members.get?_eq_some_iff hmembers.names).mpr (List.mem_filter.mp hm).1) []

end

-- ============================================================== the source

/-- What a node says of a value at a location by itself, a union apart. -/
inductive Says : Validator → Json → Location → Issue → Prop
  | wrongType {v : Validator} {x : Json} {expected : PrimitiveType} (location : Location)
      (h : v.Mistyped x expected) : Says v x location (.wrongType expected.name x location)
  | string {rules : StringRules} {s : String} {location : Location} {issue : Issue}
      (h : issue ∈ rules.check s location) : Says (.string rules) (.string s) location issue
  | number {rules : NumberRules} {n : Number} {location : Location} {issue : Issue}
      (h : issue ∈ rules.check n location) : Says (.number rules) (.number n) location issue
  | literal {expected x : Json} (location : Location) (h : ¬ x.same expected = true) :
      Says (.literal expected) x location
        (.about location (.literalMismatch expected)
          ("expected literal " ++ expected.compact ++ ", got " ++ x.compact))
  | stringEnum {allowed : List String} {s : String} (location : Location)
      (h : ¬ allowed.contains s = true) :
      Says (.stringEnum allowed) (.string s) location
        (.about location (.notInEnum allowed)
          ("value " ++ Text.quoted s ++ " is not one of " ++ Text.quotedList allowed))
  | length {items : Validator} {bounds : ItemBounds} {values : List Json} {location : Location}
      {issue : Issue} (h : issue ∈ bounds.check values.length location) :
      Says (.array items bounds) (.array values) location issue
  | missing {properties : List (Property Validator)} {additional : Additional Validator}
      {members : Members} {p : Property Validator} (location : Location) (hp : p ∈ properties)
      (hnone : members.get? p.name = none) :
      Says (.object properties additional) (.object members) location
        (missingMember location p.name)
  | unknown {properties : List (Property Validator)} {members : Members} {m : String × Json}
      (location : Location) (hm : m ∈ undeclared properties members) :
      Says (.object properties .reject) (.object members) location
        (unknownMember location m.1)
  | unresolved {d : Deferred} {reason : String} (x : Json) (location : Location)
      (h : d.target = .error reason) :
      Says (.deferred d) x location (.unresolved d.reference reason location)

/-- The validator has the issue about the value from a node that says it. -/
inductive Raises : Validator → Json → Location → Issue → Prop
  | own {v : Validator} {x : Json} {location : Location} {issue : Issue}
      (h : v.Says x location issue) : Raises v x location issue
  | passed {v w : Validator} {x : Json} {location : Location} {issue : Issue}
      (h : v.LeavesTo x w) (hraises : Raises w x location issue) : Raises v x location issue
  | inside {v w : Validator} {x y : Json} {s : String} {location : Location} {issue : Issue}
      (h : AsksAt v x s w y) (hraises : Raises w y (location ++ [s]) issue) :
      Raises v x location issue
  | noVariant {variants : List Validator} {x : Json} {location : Location}
      (hnone : firstParsed? variants x location = none)
      (h : ∀ w ∈ variants, ∀ issue ∈ (w.parseAt x location).issues, Raises w x location issue) :
      Raises (.union variants) x location
        (.noVariant variants.length (reasons variants x location 0) location)

-- =============================================================== all issues

section

variable {x : Json} {location : Location} {issue : Issue}

/-- The issues of an object are raised if those of its members are. -/
theorem raises_object {properties : List (Property Validator)} {additional : Additional Validator}
    {members : Members}
    (hinside : ∀ {s w y}, AsksAt (.object properties additional) (.object members) s w y →
      issue ∈ (w.parseAt y (location ++ [s])).issues → w.Raises y (location ++ [s]) issue)
    (hissue : issue ∈ ((object properties additional).parseAt (.object members) location).issues) :
    Raises (.object properties additional) (.object members) location issue := by
  rcases mem_issues_object.mp hissue with ⟨p, hp, hissue⟩ | hissue
  -- inside the value of a property, or for want of one
  · rcases mem_issues_parsedProperty.mp hissue with ⟨y, hget, hissue⟩ | ⟨hnone, -, -, rfl⟩
    · have hask : AsksAt (.object properties additional) (.object members) p.name p.validator y :=
        .member hp hget
      exact .inside hask (hinside hask hissue)
    · exact .own (.missing location hp hnone)
  · cases additional with
    | ignore => cases hissue
    | reject =>
        obtain ⟨m, hm, rfl⟩ := List.mem_map.mp hissue
        exact .own (.unknown location hm)
    | schema catchAll =>
        obtain ⟨m, hm, hissue⟩ := List.mem_flatMap.mp hissue
        have hask : AsksAt (.object properties (.schema catchAll)) (.object members) m.1
            catchAll m.2 := .other hm
        exact .inside hask (hinside hask hissue)

end

/-- Every issue is said by a node, and comes from there. -/
theorem raises_of_mem_issues (v : Validator) (x : Json) : ∀ {location issue},
    issue ∈ (v.parseAt x location).issues → v.Raises x location issue := by
  induction v, x using ask_induction with
  | step v x ih =>
      intro location issue hissue
      cases faces v x with
      -- these accept whatever they are asked about
      | any | null | boolean | optionalNull => cases hissue
      -- a node that looks at the value itself says what its rules do
      | string rules s =>
          rw [parseAt_string, issues_accepted] at hissue
          exact .own (.string hissue)
      | number rules n =>
          rw [parseAt_number, issues_accepted] at hissue
          exact .own (.number hissue)
      | literal expected =>
          rw [parseAt_literal] at hissue
          split at hissue
          · cases hissue
          · next hsame =>
            cases List.mem_singleton.mp hissue
            exact .own (.literal location hsame)
      | stringEnum allowed s =>
          rw [parseAt_stringEnum] at hissue
          replace hissue : issue ∈ Parsed.issues (ite _ _ _) := hissue
          split at hissue
          · cases hissue
          · next hallowed =>
            cases List.mem_singleton.mp hissue
            exact .own (.stringEnum location hallowed)
      -- of an array the length is its own, the rest is inside
      | array items bounds values =>
          rcases mem_issues_array.mp hissue with hissue | ⟨e, he, hissue⟩
          · exact .own (.length hissue)
          · have hask : AsksAt (.array items bounds) (.array values) (toString e.2) items e.1 :=
              .item he
            exact .inside hask (ih _ _ hask.asks hissue)
      | object properties additional members =>
          exact raises_object (fun hask => ih _ _ hask.asks) hissue
      -- the one issue of a union stands for those of all alternatives
      | union variants =>
          rw [parseAt_union] at hissue
          split at hissue
          · cases hissue
          · next hnone =>
            cases List.mem_singleton.mp hissue
            exact .noVariant hnone fun w hw _ hmem => ih w x (.stays (.variant hw) _) hmem
      -- the rest pass the value on
      | optional inner hx =>
          rw [parseAt_optional_of_ne hx] at hissue
          have hleaves : (optional inner).LeavesTo x inner := .inner inner hx
          exact .passed hleaves (ih _ _ hleaves.asks hissue)
      | shared number target =>
          have hleaves : (shared number target).LeavesTo x target := .target number target x
          exact .passed hleaves (ih _ _ hleaves.asks hissue)
      | deferred d =>
          cases ht : d.target with
          | error reason =>
              rw [parseAt_deferred_error x location ht] at hissue
              cases List.mem_singleton.mp hissue
              exact .own (.unresolved x location ht)
          | ok t =>
              rw [parseAt_deferred x location ht] at hissue
              have hleaves : (deferred d).LeavesTo x t := .resolved ht x
              exact .passed hleaves (ih _ _ hleaves.asks hissue)
      | mistyped expected h =>
          rw [h.parseAt_eq] at hissue
          cases List.mem_singleton.mp hissue
          exact .own (.wrongType location h)

/-- So does every issue of a failure. -/
theorem raises_of_parse {v : Validator} {x : Json} {failure : Failure}
    (h : v.parse x = .error failure) : ∀ issue ∈ failure.issues, v.Raises x [] issue :=
  fun _ hissue => raises_of_mem_issues v x (mem_issues_of_parse h hissue)

end Validator

end Conformance
