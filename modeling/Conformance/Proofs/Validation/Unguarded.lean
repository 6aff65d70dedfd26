/-
Deferred references without their guards.

The walk behind a deferred reference goes on only where there is less data, or
as much data and fewer marks. `Deferred.parse`, `absent` and `variant` test for
this at each step, and that is why they are defined at all. But nothing the
compiler makes ever fails the test: at the same data the walk comes to heads
only, and heads have fewer marks. So the guards can be taken out, and a deferred
reference does just what its definition does.

First the walk itself, which depends on its answers for deferred references
only at the heads, and at smaller data.
-/
import Conformance.Proofs.Validation.Heads
import Conformance.Proofs.Validator.Basic

namespace Conformance

namespace Validator

variable {σ : Type}

-- ================================================================ lists

section

variable {parse parse' : Json → Location → StateM σ Parsed}

/-- The walks over lists ask about what is in the list and about nothing else. -/
theorem parseItems_congr {location : Location} {values : List Json}
    (h : ∀ x ∈ values, ∀ place, parse x place = parse' x place) (i : Nat) :
    parseItems parse location i values = parseItems parse' location i values := by
  induction values generalizing i with
  | nil => rfl
  | cons x rest ih =>
      have hrest : ∀ x ∈ rest, ∀ place, parse x place = parse' x place :=
        fun x hx => h x (List.mem_cons_of_mem _ hx)
      rw [parseItems, parseItems, h x (List.mem_cons_self ..), ih hrest]

/-- The same for members, which are asked about under their names. -/
theorem parseMembers_congr {location : Location} {members : List (String × Json)}
    (h : ∀ m ∈ members, ∀ place, parse m.2 place = parse' m.2 place) :
    parseMembers parse location members = parseMembers parse' location members := by
  induction members with
  | nil => rfl
  | cons m rest ih =>
      have hrest : ∀ m ∈ rest, ∀ place, parse m.2 place = parse' m.2 place :=
        fun m hm => h m (List.mem_cons_of_mem _ hm)
      rw [parseMembers, parseMembers, h m (List.mem_cons_self ..), ih hrest]

end

-- ============================================================== the walk

/-- Alternatives are asked about absence one after the other. -/
theorem someAbsentWith_congr {enter enter' : Deferred → StateM σ Bool} {variants : List Validator}
    (h : ∀ v ∈ variants, absentWith enter v = absentWith enter' v) :
    someAbsentWith enter variants = someAbsentWith enter' variants := by
  induction variants with
  | nil => rfl
  | cons v rest ih =>
      rw [someAbsentWith, someAbsentWith, h v (List.mem_cons_self ..),
        ih fun w hw => h w (List.mem_cons_of_mem _ hw)]

/-- Whether absence is acceptable depends on the heads. -/
theorem absentWith_congr {enter enter' : Deferred → StateM σ Bool} {v : Validator}
    (h : ∀ e, v.Heads e → enter e = enter' e) : absentWith enter v = absentWith enter' v := by
  induction v using Validator.induction with
  | union variants ih =>
      rw [absentWith, absentWith]
      exact someAbsentWith_congr fun v hv => ih v hv fun e he => h e (.union hv he)
  | shared number target ih =>
      rw [absentWith, absentWith]
      exact ih fun e he => h e (.shared he)
  | deferred d =>
      rw [absentWith, absentWith]
      exact h d (.deferred d)
  | _ => rfl

section

variable {absent : Deferred → StateM σ Bool}
variable {enter enter' : Deferred → Json → Location → StateM σ Parsed}

/-- Each alternative is asked about the value itself, where it stands. -/
theorem parseVariants_congr {value : Json} {location : Location} {variants : List Validator}
    (h : ∀ v ∈ variants, parseWith absent enter v value location
      = parseWith absent enter' v value location) (tried : Nat) (reasons : List String) :
    parseVariants absent enter variants tried reasons value location
      = parseVariants absent enter' variants tried reasons value location := by
  induction variants generalizing tried reasons with
  | nil => rfl
  | cons v rest ih =>
      rw [parseVariants, parseVariants, h v (List.mem_cons_self ..)]
      refine congrArg _ (funext fun found => ?_)
      cases found with
      | ok parsed => rfl
      | error issues => exact ih (fun v hv => h v (List.mem_cons_of_mem _ hv)) _ _

/-- Each property is asked about its member, if there is one. -/
theorem parseProperties_congr {members : Members} {location : Location}
    {properties : List (Property Validator)}
    (h : ∀ p ∈ properties, ∀ x, members.get? p.name = some x → ∀ place,
      parseWith absent enter p.validator x place = parseWith absent enter' p.validator x place) :
    parseProperties absent enter properties members location
      = parseProperties absent enter' properties members location := by
  induction properties with
  | nil => rfl
  | cons p rest ih =>
      obtain ⟨name, required, v⟩ := p
      have hhead := h ⟨name, required, v⟩ (List.mem_cons_self ..)
      rw [parseProperties, parseProperties, ih fun p hp => h p (List.mem_cons_of_mem _ hp)]
      cases hfound : members.get? name with
      | none => rfl
      | some x => simp only [hhead x hfound]

variable (enter enter') in
/-- Two ways of answering for deferred references agree on all that a validator
asks at a value: the heads at the value itself, and anything at smaller ones. -/
structure AgreeAt (v : Validator) (value : Json) : Prop where
  heads : ∀ e, v.Heads e → ∀ place, enter e value place = enter' e value place
  below : ∀ e x place, x.height < value.height → enter e x place = enter' e x place

/-- Within a value everything is lower than it, so there the heads need not be considered. -/
theorem AgreeAt.inside {v w : Validator} {value x : Json} (h : AgreeAt enter enter' v value)
    (hx : x.height < value.height) : AgreeAt enter enter' w x where
  heads := fun e _ place => h.below e x place hx
  below := fun e y place hy => h.below e y place (Nat.lt_trans hy hx)

/-- What comes of a value depends on no other answers. -/
theorem parseWith_congr {v : Validator} : ∀ {value : Json}, AgreeAt enter enter' v value →
    ∀ location, parseWith absent enter v value location
      = parseWith absent enter' v value location := by
  induction v using Validator.induction with
  | array items bounds ih =>
      intro value h location
      cases value with
      | array values =>
          have hitems : ∀ x ∈ values, ∀ place,
              parseWith absent enter items x place = parseWith absent enter' items x place :=
            fun x hx => ih (h.inside (Json.height_lt_of_item hx))
          rw [parseWith, parseWith, parseItems_congr hitems]
      | _ => rfl
  | object properties additional ihproperties ihadditional =>
      intro value h location
      cases value with
      | object members =>
          -- what is asked about stands in the object and is lower
          have hdeclared : parseProperties absent enter properties members location
              = parseProperties absent enter' properties members location :=
            parseProperties_congr fun p hp x hx =>
              ihproperties p hp (h.inside (Json.height_lt_of_member (Members.mem_of_get? hx)))
          have hadditional : ∀ others, (∀ m ∈ others, m ∈ members) →
              parseOthers absent enter additional others location
                = parseOthers absent enter' additional others location := by
            intro others hothers
            cases additional with
            | ignore => rfl
            | reject => rfl
            | schema catchAll =>
                exact parseMembers_congr fun m hm => ihadditional catchAll rfl
                  (h.inside (Json.height_lt_of_member (hothers m hm)))
          rw [parseWith, parseWith, hdeclared]
          simp only [hadditional _ fun m hm => (List.mem_filter.mp hm).1]
      | _ => rfl
  | union variants ih =>
      intro value h location
      rw [parseWith, parseWith]
      exact parseVariants_congr
        (fun v hv => ih v hv ⟨fun e he => h.heads e (.union hv he), h.below⟩ location) 0 []
  | optional inner ih =>
      intro value h location
      have hinner : parseWith absent enter inner value location
          = parseWith absent enter' inner value location :=
        ih ⟨fun e he => h.heads e (.optional he), h.below⟩ location
      cases value with
      | null => rfl
      | _ => exact hinner
  | deferred d =>
      intro value h location
      rw [parseWith, parseWith]
      exact h.heads d (.deferred d) location
  | shared number target ih =>
      intro value h location
      rw [parseWith, parseWith]
      exact ih ⟨fun e he => h.heads e (.shared he), h.below⟩ location
  | _ => exact fun _ _ => rfl

end

/-- The alternative that accepts a value depends on the heads. -/
theorem variantWith_congr {parse : Validator → Json → StateM σ Parsed}
    {enter enter' : Deferred → Json → StateM σ (Option Nat)} {v : Validator} {value : Json}
    (h : ∀ e, v.Heads e → enter e value = enter' e value) :
    variantWith parse enter v value = variantWith parse enter' v value := by
  induction v using Validator.induction with
  | optional inner ih =>
      have hinner : variantWith parse enter inner value = variantWith parse enter' inner value :=
        ih fun e he => h e (.optional he)
      cases value with
      | null => rfl
      | _ => exact hinner
  | shared number target ih =>
      rw [variantWith, variantWith]
      exact ih fun e he => h e (.shared he)
  | deferred d =>
      rw [variantWith, variantWith]
      exact h d (.deferred d)
  | _ => rfl

end Validator

-- =================================================== without the guards

namespace Deferred

/-- Ways of answering for deferred references that pass every question on to what
the reference stands for, without a guard. -/
structure Unguarded (absent : Deferred → StateM Unit Bool)
    (parse : Deferred → Json → Location → StateM Unit Parsed)
    (variant : Deferred → Json → StateM Unit (Option Nat)) : Prop where
  absent_eq : ∀ d, absent d = match d.target with
    | .ok t => Validator.absentWith absent t
    | .error _ => return false
  parse_eq : ∀ d value location, parse d value location = match d.target with
    | .ok t => Validator.parseWith absent parse t value location
    | .error reason => return .error [.unresolved d.reference reason location]
  variant_eq : ∀ d value, variant d value = match d.target with
    | .ok t =>
      Validator.variantWith (fun v x => Validator.parseWith absent parse v x []) variant t value
    | .error _ => return none

/-- The guards are never felt. -/
theorem unguarded_direct : Unguarded (absent direct) (parse direct) (variant direct) where
  absent_eq := fun d => by
    rw [absent]
    simp only [direct, pure_bind]
    cases htarget : d.target with
    | error reason => rfl
    | ok t =>
        refine Validator.absentWith_congr fun e he => ?_
        rw [if_pos (marks_lt_of_heads htarget he)]
  parse_eq := fun d value location => by
    rw [parse]
    simp only [direct, pure_bind]
    cases htarget : d.target with
    | error reason => rfl
    | ok t =>
        refine Validator.parseWith_congr ⟨fun e he place => ?_, fun e x place hx => ?_⟩ location
        -- a head is asked about the same value, and it has fewer marks
        · rw [if_pos (.inr ⟨rfl, marks_lt_of_heads htarget he⟩)]
        -- anything else is asked about a lower value
        · rw [if_pos (.inl hx)]
  variant_eq := fun d value => by
    rw [variant]
    simp only [direct, pure_bind]
    cases htarget : d.target with
    | error reason => rfl
    | ok t =>
        refine Validator.variantWith_congr fun e he => ?_
        rw [if_pos (marks_lt_of_heads htarget he)]

end Deferred

end Conformance
