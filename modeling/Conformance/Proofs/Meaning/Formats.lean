/-
Ignoring formats.

Nothing in a compilation turns on formats. They are not looked at before data are,
so ignoring them changes no error (`matches_compileNode`). What changes is what
string schemas ask for, and that only becomes less: `Shape.lenient` is a shape
without its format, and a schema object has the lenient shape where formats are
ignored. Whatever meets a shape meets the lenient one. The absence of a value is no
string, so of absence both ask the same.
-/
import Conformance.Proofs.Compiler.Retold
import Conformance.Proofs.Meaning.Compiled

namespace Conformance

-- ======================================================= lenient shapes

/-- The rules without their format. -/
def StringRules.lenient (rules : StringRules) : StringRules := { rules with format := none }

theorem StringRules.Allows.lenient {rules : StringRules} {s : String} (h : rules.Allows s) :
    rules.lenient.Allows s := by
  intro kind hbreaks
  cases hbreaks with
  | tooShort hleast hs => exact h _ (.tooShort hleast hs)
  | tooLong hmost hs => exact h _ (.tooLong hmost hs)
  | patternMismatch hpattern hs => exact h _ (.patternMismatch hpattern hs)
  | invalidFormat hformat => cases hformat

/-- What is asked for where formats are ignored. -/
def Shape.lenient : Shape → Shape
  | string rules => string rules.lenient
  | shape => shape

/-- Where formats are ignored, a schema object has the lenient shape. -/
theorem shape?_ignore (members : Members) :
    shape? .ignore members = (shape? .enforce members).map Shape.lenient := by
  have htyped : ∀ type, Shape.typed? .ignore members type
      = (Shape.typed? .enforce members type).map Shape.lenient := by
    intro type
    cases type with
    | string =>
        unfold Shape.typed? Shape.stringRules?
        cases Shape.pattern? members with
        | none => rfl
        | some pattern => rfl
    | _ => rfl
  have hunion : ∀ variants, (Shape.ofVariants members variants).lenient
      = Shape.ofVariants members variants := by
    intro variants
    unfold Shape.ofVariants
    split <;> rfl
  have hnames : ∀ names, (Shape.ofNames members names).lenient
      = Shape.ofNames members names := by
    intro names
    unfold Shape.ofNames
    split <;> rfl
  unfold shape?
  split
  · rfl
  · rw [Option.map_some, hunion]
  · rw [Option.map_some, hnames]
  · rfl
  · rfl
  · exact htyped _
  · exact htyped _
  · rfl

namespace Meets

variable {pool : Definitions} {holds : Json → Data → Prop} {shape : Shape}

/-- Whatever meets a shape meets the lenient one. -/
theorem lenient {data : Data} (h : Meets pool holds shape data) :
    Meets pool holds shape.lenient data := by
  cases h with
  | string h => exact .string h.lenient
  | anything => exact .anything data
  | reference hresolve h => exact .reference hresolve h
  | absent inner => exact .absent inner
  | null inner => exact .null inner
  | inner h => exact .inner h
  | alternative hschema h => exact .alternative hschema h
  | value hy h => exact .value hy h
  | number h => exact .number h
  | boolean b => exact .boolean b
  | nullType => exact .nullType
  | array hbounds hitems => exact .array hbounds hitems
  | object h => exact .object h

/-- Absence meets a shape if it meets the lenient one. What lies beneath the shape
is then asked about absence only. -/
theorem of_lenient_none {holds' : Json → Data → Prop}
    (himp : ∀ schema, holds schema none → holds' schema none)
    (h : Meets pool holds shape.lenient none) : Meets pool holds' shape none := by
  cases shape with
  | anything => exact .anything none
  | reference target =>
      cases h with
      | reference hresolve h => exact .reference hresolve (himp _ h)
  | optional inner => exact .absent inner
  | union alternatives =>
      cases h with
      | alternative hschema h => exact .alternative hschema (himp _ h)
  | values | string | number | boolean | null | array | object => cases h

end Meets

-- ============================================================== meaning

/-- Data satisfy a schema still when formats are ignored. -/
theorem Satisfies.ignore {pool : Definitions} {schema : Json} {data : Data}
    (h : Satisfies .enforce pool schema data) : Satisfies .ignore pool schema data := by
  refine h.least (R := fun pool schema data => Satisfies .ignore pool schema data)
    (fun _ _ hschema data => .free hschema data) ?_
  intro pool members shape data hshape hmeets
  exact satisfies_object_iff.mpr ⟨shape.lenient, by rw [shape?_ignore, hshape]; rfl, hmeets.lenient⟩

/-- Absence satisfies a schema with formats enforced if it does with formats
ignored. -/
theorem Satisfies.enforce_none {pool : Definitions} {schema : Json}
    (h : Satisfies .ignore pool schema none) : Satisfies .enforce pool schema none := by
  refine h.least (R := fun pool schema data => data = none → Satisfies .enforce pool schema none)
    (fun _ _ hschema _ _ => .free hschema none) ?_ rfl
  intro pool members shape data hshape hmeets hnone
  subst hnone
  rw [shape?_ignore] at hshape
  obtain ⟨strict, hstrict, rfl⟩ := Option.map_eq_some_iff.mp hshape
  exact satisfies_object_iff.mpr ⟨strict, hstrict, hmeets.of_lenient_none fun _ h => h rfl⟩

-- ============================================================= policies

/-- Whatever the formats, a schema compiles with the same errors. -/
theorem matches_compile_formats (schema : Json) (options options' : CompileOptions)
    (hdepth : options.maxDepth = options'.maxDepth) :
    Compiler.Matches (fun v w => (compile schema options).result = .ok v ∧
        (compile schema options').result = .ok w)
      (compile schema options).result (compile schema options').result := by
  exact Compiler.matches_compileNode Retelling.pools_same hdepth schema rfl .empty

/-- Ignoring formats only ever accepts more. With formats enforced and with formats
ignored a schema compiles with the same error, or it compiles with both. Then every
value accepted with formats enforced is accepted with formats ignored, and absence is
accepted by both or by neither. -/
theorem ignoring_formats_accepts_more (schema : Json) (maxDepth : Nat) :
    Compiler.Matches
      (fun v w => (∀ value, v.check value = true → w.check value = true) ∧
        v.acceptsAbsent = w.acceptsAbsent)
      (compile schema ⟨maxDepth, .enforce⟩).result
      (compile schema ⟨maxDepth, .ignore⟩).result := by
  refine (matches_compile_formats schema ⟨maxDepth, .enforce⟩ ⟨maxDepth, .ignore⟩ rfl).imp
    fun v w h => ?_
  obtain ⟨hv, hw⟩ := h
  obtain ⟨hstrict, hstrictAbsent⟩ := check_iff_satisfies hv
  obtain ⟨hlenient, hlenientAbsent⟩ := check_iff_satisfies hw
  constructor
  · intro value hchecked
    exact (hlenient value).mpr ((hstrict value).mp hchecked).ignore
  · refine Bool.eq_iff_iff.mpr ⟨fun h => ?_, fun h => ?_⟩
    · exact hlenientAbsent.mpr (hstrictAbsent.mp h).ignore
    · exact hstrictAbsent.mpr (hlenientAbsent.mp h).enforce_none

end Conformance
