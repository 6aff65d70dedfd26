/-
Validators as trees: induction over them, and validators up to the names of
their nodes.

Shared nodes carry a number and deferred references a key, so that two of them
can be told apart. Neither says anything about data. `forget` drops both, and
builds shared nodes anew by a function of the target: `anonymous` keeps them,
all under one number, and `unshared` puts the target in their place.
-/
import Conformance.Proofs.Lists
import Conformance.Validator

namespace Conformance

/-- A property with its validator replaced. -/
def Property.map {α β : Type} (f : α → β) (p : Property α) : Property β :=
  ⟨p.name, p.required, f p.validator⟩

/-- A treatment of other members with its validator replaced. -/
def Additional.map {α β : Type} (f : α → β) : Additional α → Additional β
  | .ignore => .ignore
  | .reject => .reject
  | .schema validator => .schema (f validator)

/-- Properties alike but for their validators, which are related. -/
def Property.Rel {α β : Type} (R : α → β → Prop) (p : Property α) (q : Property β) : Prop :=
  p.name = q.name ∧ p.required = q.required ∧ R p.validator q.validator

/-- The same treatment of other members, with related validators. -/
inductive Additional.Rel {α β : Type} (R : α → β → Prop) : Additional α → Additional β → Prop
  | ignore : Rel R .ignore .ignore
  | reject : Rel R .reject .reject
  | schema {a : α} {b : β} (h : R a b) : Rel R (.schema a) (.schema b)

section

variable {α β : Type} {R : α → β → Prop}

/-- Relations between properties can be turned round. -/
theorem Property.Rel.flip {p : Property α} {q : Property β} (h : Property.Rel R p q) :
    Property.Rel (fun b a => R a b) q p :=
  ⟨h.1.symm, h.2.1.symm, h.2.2⟩

theorem Additional.Rel.flip {a : Additional α} {b : Additional β} (h : Additional.Rel R a b) :
    Additional.Rel (fun b a => R a b) b a := by
  cases h with
  | ignore => exact .ignore
  | reject => exact .reject
  | schema h => exact .schema h

/-- What is related by a function is the function's value. -/
theorem Property.map_eq_of_forall₂ {f : α → β} {ps : List (Property α)} {qs : List (Property β)}
    (h : List.Forall₂ (Property.Rel fun a b => f a = b) ps qs) :
    ps.map (Property.map f) = qs := by
  induction h with
  | nil => rfl
  | cons hp _ ih =>
      obtain ⟨hname, hrequired, hvalidator⟩ := hp
      rw [List.map_cons, ih, Property.map, hname, hrequired, hvalidator]

/-- If the relation is the graph of a function, the right side is the image of the left. -/
theorem Additional.map_eq_of_rel {f : α → β} {a : Additional α} {b : Additional β}
    (h : Additional.Rel (fun a b => f a = b) a b) : a.map f = b := by
  cases h with
  | ignore => rfl
  | reject => rfl
  | schema h => exact congrArg _ h

end

namespace Validator

-- =========================================================== induction

/-- Induction over a validator: what holds of a node if it holds of the nodes
beneath it, holds of every node. -/
@[elab_as_elim]
theorem induction {motive : Validator → Prop}
    (any : motive any) (null : motive null) (boolean : motive boolean)
    (string : ∀ rules, motive (string rules))
    (number : ∀ rules, motive (number rules))
    (literal : ∀ value, motive (literal value))
    (stringEnum : ∀ allowed, motive (stringEnum allowed))
    (array : ∀ items bounds, motive items → motive (array items bounds))
    (object : ∀ properties additional, (∀ p ∈ properties, motive p.validator) →
      (∀ catchAll, additional = .schema catchAll → motive catchAll) →
      motive (object properties additional))
    (union : ∀ variants, (∀ v ∈ variants, motive v) → motive (union variants))
    (optional : ∀ inner, motive inner → motive (optional inner))
    (deferred : ∀ target, motive (deferred target))
    (shared : ∀ number target, motive target → motive (shared number target))
    (v : Validator) : motive v := by
  refine @Validator.rec motive (fun properties => ∀ p ∈ properties, motive p.validator)
    (fun additional => ∀ catchAll, additional = .schema catchAll → motive catchAll)
    (fun variants => ∀ v ∈ variants, motive v) (fun p => motive p.validator)
    any null boolean string number literal stringEnum array object union optional deferred shared
    ?noProperty ?property ?ignore ?reject ?schema ?noVariant ?variant ?named v
  case noProperty => exact fun _ hp => absurd hp List.not_mem_nil
  case property =>
    intro head tail hhead htail p hp
    rcases List.mem_cons.mp hp with rfl | hp
    · exact hhead
    · exact htail p hp
  case ignore => exact fun _ h => nomatch h
  case reject => exact fun _ h => nomatch h
  case schema =>
    intro validator h catchAll heq
    cases heq
    exact h
  case noVariant => exact fun _ hv => absurd hv List.not_mem_nil
  case variant =>
    intro head tail hhead htail v hv
    rcases List.mem_cons.mp hv with rfl | hv
    · exact hhead
    · exact htail v hv
  case named => exact fun _ _ _ h => h

/-- The second validator is a node right beneath the first. -/
inductive Part : Validator → Validator → Prop
  | items {items : Validator} {bounds : ItemBounds} : Part (.array items bounds) items
  | property {properties : List (Property Validator)} {additional : Additional Validator}
      {p : Property Validator} (hp : p ∈ properties) :
      Part (.object properties additional) p.validator
  | other {properties : List (Property Validator)} {catchAll : Validator} :
      Part (.object properties (.schema catchAll)) catchAll
  | variant {variants : List Validator} {v : Validator} (hv : v ∈ variants) :
      Part (.union variants) v
  | inner {inner : Validator} : Part (.optional inner) inner
  | target {number : Nat} {target : Validator} : Part (.shared number target) target

/-- The same induction with the nodes beneath as parts, for proofs that do not go by the
kind of node alone. -/
@[elab_as_elim]
theorem part_induction {motive : Validator → Prop}
    (step : ∀ v, (∀ w, v.Part w → motive w) → motive v) (v : Validator) : motive v := by
  induction v using Validator.induction with
  | any | null | boolean | string | number | literal | stringEnum | deferred =>
      exact step _ fun _ hpart => nomatch hpart
  | array items bounds h =>
      refine step _ fun w hpart => ?_
      cases hpart with
      | items => exact h
  | object properties additional hproperties hadditional =>
      refine step _ fun w hpart => ?_
      cases hpart with
      | property hp => exact hproperties _ hp
      | other => exact hadditional w rfl
  | union variants h =>
      refine step _ fun w hpart => ?_
      cases hpart with
      | variant hv => exact h w hv
  | optional inner h | shared number target h =>
      refine step _ fun w hpart => ?_
      cases hpart
      exact h

/-- The deferred reference is one of the validator's nodes. -/
inductive Holds : Validator → Deferred → Prop
  | here (d : Deferred) : Holds (.deferred d) d
  | beneath {v w : Validator} {d : Deferred} (hpart : Part v w) (h : Holds w d) : Holds v d

-- =============================================================== names

section

variable (share : Validator → Validator)

mutual

/-- The validator without the keys of its deferred references and the numbers of
its shared nodes, which are built anew from their targets. -/
def forget : Validator → Validator
  | array items bounds => array (forget items) bounds
  | object properties additional =>
    object (forgetProperties properties) (forgetAdditional additional)
  | union variants => union (forgetVariants variants)
  | optional inner => optional (forget inner)
  | deferred d => deferred { d with key := [] }
  | shared _ target => share (forget target)
  | v => v

/-- Properties keep their names and whether they are required. -/
def forgetProperties : List (Property Validator) → List (Property Validator)
  | [] => []
  | ⟨name, required, v⟩ :: rest => ⟨name, required, forget v⟩ :: forgetProperties rest

/-- A policy without a schema has nothing to forget. -/
def forgetAdditional : Additional Validator → Additional Validator
  | .ignore => .ignore
  | .reject => .reject
  | .schema v => .schema (forget v)

/-- Alternatives are gone through one by one. -/
def forgetVariants : List Validator → List Validator
  | [] => []
  | v :: rest => forget v :: forgetVariants rest

end

/-- The lists are gone through as by `map`, which is how the rest of the theory speaks of
them. -/
@[simp] theorem forgetVariants_eq (variants : List Validator) :
    forgetVariants share variants = variants.map (forget share) := by
  induction variants with
  | nil => rfl
  | cons v rest ih => rw [forgetVariants, ih, List.map_cons]

@[simp] theorem forgetProperties_eq (properties : List (Property Validator)) :
    forgetProperties share properties = properties.map (Property.map (forget share)) := by
  induction properties with
  | nil => rfl
  | cons p rest ih => rw [forgetProperties, ih, List.map_cons]; rfl

@[simp] theorem forgetAdditional_eq (additional : Additional Validator) :
    forgetAdditional share additional = additional.map (forget share) := by
  cases additional <;> rfl

end

/-- The validator with all shared nodes under one number and all deferred
references under one key. -/
def anonymous (v : Validator) : Validator := v.forget (shared 0)

@[simp] theorem anonymous_array (items : Validator) (bounds : ItemBounds) :
    (array items bounds).anonymous = array items.anonymous bounds := rfl

@[simp] theorem anonymous_object (properties : List (Property Validator))
    (additional : Additional Validator) :
    (object properties additional).anonymous
      = object (properties.map (Property.map anonymous)) (additional.map anonymous) := by
  unfold anonymous
  rw [forget, forgetProperties_eq, forgetAdditional_eq]

@[simp] theorem anonymous_union (variants : List Validator) :
    (union variants).anonymous = union (variants.map anonymous) := by
  unfold anonymous
  rw [forget, forgetVariants_eq]

@[simp] theorem anonymous_optional (inner : Validator) :
    (optional inner).anonymous = optional inner.anonymous := rfl

/-- A deferred node keeps what it stands for, and loses its place among the nodes. -/
@[simp] theorem anonymous_deferred (d : Deferred) :
    (deferred d).anonymous = deferred { d with key := [] } := rfl

/-- A shared node keeps its target, so that it can still be told apart from one that is
not shared. -/
@[simp] theorem anonymous_shared (number : Nat) (target : Validator) :
    (shared number target).anonymous = shared 0 target.anonymous := rfl

/-- The validator with the target of every shared node in the node's place. -/
def unshared (v : Validator) : Validator := v.forget id

/-- What is forgotten first does not show in the validator without sharing. -/
theorem unshared_anonymous (v : Validator) : v.anonymous.unshared = v.unshared := by
  unfold anonymous unshared
  induction v using Validator.induction with
  | array items bounds ih => simp only [forget, ih]
  | object properties additional hproperties hadditional =>
      -- property by property, since `map` is not seen through
      have hmap : ∀ p ∈ properties, (Property.map (forget id) ∘ Property.map (forget (shared 0))) p
          = Property.map (forget id) p := by
        intro p hp
        simp only [Function.comp_apply, Property.map, hproperties p hp]
      simp only [forget, forgetProperties_eq, forgetAdditional_eq, List.map_map,
        List.map_congr_left hmap]
      cases additional with
      | ignore => rfl
      | reject => rfl
      | schema catchAll => simp only [Additional.map, hadditional catchAll rfl]
  | union variants ih =>
      simp only [forget, forgetVariants_eq, List.map_map]
      exact congrArg union (List.map_congr_left ih)
  | optional inner ih => simp only [forget, ih]
  | shared number target ih => simp only [forget, ih]
  | _ => rfl

end Validator

end Conformance
