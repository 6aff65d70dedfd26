/-
Answers of validators that are built alike.

A relation that leads from every pair of validators to a step of `Alike` is
followed here along the questions that they ask. Whether absence is acceptable
is answered alike in any case, and so is the question for the alternative when
values are accepted alike. Where not even the order of members differs, all that
is made of a value is the same, down to each issue: `parseAt_eq_of_alike`.
-/
import Conformance.Proofs.Compiler.Counterparts
import Conformance.Proofs.Validation.Acceptance

namespace Conformance

namespace Validator

variable {R : Validator → Validator → Prop} {v w : Validator}

-- ============================================ absence and alternatives

section

variable {l : Likeness} (hR : ∀ v w, R v w → v.Alike l R w)

include hR

/-- Validators that are alike accept absence alike. The induction is on what a question
about absence goes on to, which is finite even through deferred references. -/
theorem acceptsAbsent_eq_of_alike (h : R v w) : v.acceptsAbsent = w.acceptsAbsent := by
  induction v using wellFounded_stays.induction generalizing w with
  | _ v ih =>
      cases hR v w h with
      | @union vs ws hvs =>
          -- the answers of the alternatives are the same list
          have hmap := map_eq_of_forall₂ hvs fun v hv _ => ih v (.variant hv)
          rw [acceptsAbsent_union, acceptsAbsent_union]
          calc vs.any acceptsAbsent
              = (vs.map acceptsAbsent).any id := by rw [List.any_map]; rfl
            _ = ws.any acceptsAbsent := by rw [hmap, List.any_map]; rfl
      | shared ht =>
          rw [acceptsAbsent_shared, acceptsAbsent_shared]
          exact ih _ (.target ..) ht
      | deferred hd he ht =>
          rw [acceptsAbsent_deferred hd, acceptsAbsent_deferred he]
          exact ih _ (.resolved hd) ht
      | unresolved _ hd he =>
          rw [acceptsAbsent_deferred_error hd, acceptsAbsent_deferred_error he]
      | _ => rfl

/-- Where two values are accepted alike, the first alternatives that accept them
have the same place. -/
theorem matchedVariant_eq_of_alike {x y : Json} (hcheck : ∀ v w, R v w → v.check x = w.check y)
    (hnull : x = .null ↔ y = .null) (h : R v w) : v.matchedVariant x = w.matchedVariant y := by
  induction v using wellFounded_stays.induction generalizing w with
  | _ v ih =>
      cases hR v w h with
      | @union vs ws hvs =>
          -- the same alternatives accept the value, so the first of them has the same
          -- place
          have hmap := map_eq_of_forall₂ hvs fun v _ w => hcheck v w
          rw [matchedVariant_union, matchedVariant_union]
          calc vs.findIdx? (fun v => v.check x)
              = (vs.map fun v => v.check x).findIdx? id := by rw [List.findIdx?_map]; rfl
            _ = ws.findIdx? (fun w => w.check y) := by rw [hmap, List.findIdx?_map]; rfl
      | optional ht =>
          by_cases hx : x = .null
          · rw [hx, hnull.mp hx]
            rfl
          · rw [matchedVariant_optional_of_ne hx,
              matchedVariant_optional_of_ne fun hy => hx (hnull.mpr hy)]
            exact ih _ (.inner _) ht
      | shared ht =>
          rw [matchedVariant_shared, matchedVariant_shared]
          exact ih _ (.target ..) ht
      | deferred hd he ht =>
          rw [matchedVariant_deferred _ hd, matchedVariant_deferred _ he]
          exact ih _ (.resolved hd) ht
      | unresolved _ hd he =>
          rw [matchedVariant_deferred_error _ hd, matchedVariant_deferred_error _ he]
      | _ => rfl

end

-- =============================================================== what is made

section

variable {x : Json} {location : Location}

/-- What a union makes of a value depends on what its alternatives make of it. -/
theorem parseAt_union_congr {vs ws : List Validator}
    (h : vs.map (fun v => v.parseAt x location) = ws.map fun w => w.parseAt x location) :
    (union vs).parseAt x location = (union ws).parseAt x location := by
  have hfirst : ∀ us : List Validator, firstParsed? us x location
      = (us.map fun u => u.parseAt x location).findSome? Except.toOption := fun us => by
    rw [List.findSome?_map]
    rfl
  have hreasons : ∀ us : List Validator, reasons us x location 0
      = ((us.map fun u => u.parseAt x location).zipIdx.flatMap fun e =>
          (e.1.issues.head?.map fun first => s!"variant {e.2}: " ++ first.message).toList) :=
    fun us => by
      rw [List.zipIdx_map, List.flatMap_map]
      rfl
  have hlength : vs.length = ws.length := by simpa using congrArg List.length h
  rw [parseAt_union, parseAt_union, hfirst, hfirst, hreasons, hreasons, h, hlength]

/-- Which members are left over depends on the declared names alone. -/
theorem undeclared_congr {ps qs : List (Property Validator)}
    (h : ps.map Property.name = qs.map Property.name) (members : Members) :
    undeclared ps members = undeclared qs members := by
  have hany : ∀ (rs : List (Property Validator)) (name : String),
      rs.any (·.name == name) = (rs.map Property.name).any (· == name) := fun rs name => by
    rw [List.any_map]
    rfl
  unfold undeclared
  simp only [hany, h]

/-- What the schema for the others makes of them depends on what it makes of each. -/
theorem parsedOthers_congr {catchAll catchAll' : Validator} {others : Members}
    (h : ∀ m ∈ others, catchAll.parseAt m.2 (location.member m.1)
      = catchAll'.parseAt m.2 (location.member m.1)) :
    parsedOthers (.schema catchAll) others location
      = parsedOthers (.schema catchAll') others location := by
  refine congrArg₂ Prod.mk ?_ ?_
  · exact List.flatMap_congr fun m hm => by rw [h m hm]
  · exact List.filterMap_congr fun m hm => by rw [h m hm]

end

/-- Validators that do not even differ in an order make the same of a value, and
raise the same issues. -/
theorem parseAt_eq_of_alike (hR : ∀ v w, R v w → v.Alike .same R w) (v : Validator) (x : Json) :
    ∀ {w : Validator}, R v w → ∀ location, v.parseAt x location = w.parseAt x location := by
  induction v, x using ask_induction with
  | step v x ih =>
      intro w h location
      cases hR v w h with
      | any | null | boolean | string | number | stringEnum => rfl
      | literal heq =>
          cases heq
          rfl
      | @array items items' ht bounds =>
          cases x with
          | array values =>
              have hitems : parsedItems items values location 0
                  = parsedItems items' values location 0 :=
                List.map_congr_left fun e he =>
                  ih _ _ (.item (List.fst_mem_of_mem_zipIdx he)) ht _
              simp only [parseAt_array, hitems]
          | _ => rfl
      | @object ps qs a b hps ha =>
          cases x with
          | object members =>
              -- declared members, and what is said of those that are missing
              have hproperty : ∀ p ∈ ps, ∀ q, Property.Rel R p q →
                  parsedProperty members location p = parsedProperty members location q := by
                intro p hp q hpq
                obtain ⟨hname, hrequired, ht⟩ := hpq
                unfold parsedProperty
                rw [← hname, ← hrequired, acceptsAbsent_eq_of_alike hR ht]
                cases hget : Members.get? members p.name with
                | some x => simp only [ih _ _ (.member hp hget) ht]
                | none => rfl
              -- the members that are left over, which are the same ones on both sides
              have hothers : parsedOthers a (undeclared ps members) location
                  = parsedOthers b (undeclared ps members) location := by
                cases ha with
                | ignore => rfl
                | reject => rfl
                | schema ht =>
                    have hparsed : ∀ m ∈ undeclared ps members, _ := fun m hm =>
                      ih _ _ (.other (mem_undeclared.mp hm).1) ht (location.member m.1)
                    exact parsedOthers_congr hparsed
              simp only [parseAt_object, ← undeclared_congr (names_eq_of_forall₂ hps), hothers,
                flatMap_eq_of_forall₂ hps fun p hp q hpq =>
                  congrArg Prod.fst (hproperty p hp q hpq),
                flatMap_eq_of_forall₂ hps fun p hp q hpq =>
                  congrArg Prod.snd (hproperty p hp q hpq)]
          | _ => rfl
      | union hvs =>
          exact parseAt_union_congr (map_eq_of_forall₂ hvs fun v hv w ht =>
            ih v x (.stays (.variant hv) _) ht location)
      | optional ht =>
          rw [parseAt_optional, parseAt_optional]
          cases x with
          | null => rfl
          | _ => exact ih _ _ (.stays (.inner _) _) ht location
      | shared ht =>
          rw [parseAt_shared, parseAt_shared]
          exact ih _ _ (.stays (.target ..) _) ht location
      | deferred hd he ht =>
          rw [parseAt_deferred _ _ hd, parseAt_deferred _ _ he]
          exact ih _ _ (.stays (.resolved hd) _) ht location
      | unresolved hreference hd he =>
          rw [parseAt_deferred_error _ _ hd, parseAt_deferred_error _ _ he, hreference]

end Validator

end Conformance
