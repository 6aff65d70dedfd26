/-
What is reported of a value is true of it.

An issue has a path and a kind, and both come from where in the data it was found. The
path leads to a value, or for a member that is missing to the object that lacks it. The
kind makes a statement about that value, which can be checked without the validator
(`IssueKind.TrueOf`): its type is not the one that was expected, its length is not within
the bound, it is not among the values that are allowed.

With numbers there is a reserve. A whole number and a real are compared as binary64
numbers, so a large whole number may be taken for the real that is nearest to it. Then it
is reported as out of a range that excludes its bound, though it lies within, or as no
multiple of a real that divides it (`out_of_range_beyond`). A comparison is never wrong
about which number is the greater. So `Bound.Broken` says how a number that breaks a bound
lies to it, and `Number.Divides` says what it takes to be a multiple of a real.

The induction is on the way that an issue comes from the node that says it. Each step leads
from a value to one that it is in or leaves it where it is, and what is warranted there is
warranted here at the longer path (`Warranted.inside`).
-/
import Conformance.Proofs.Json.Divisibility
import Conformance.Proofs.Validation.Involved
import Conformance.Proofs.Validation.Origins

namespace Conformance

-- =============================================================== truth

/-- How a number lies to a bound that it breaks. It is on the wrong side of it. Where the
bound itself is excluded it may also be the bound, or the nearest to it. -/
def Bound.Broken : Bound → Number → Number → Prop
  | minimum, n, limit => n.value < limit.value
  | exclusiveMinimum, n, limit => n.value < limit.value ∨ n.Meets limit
  | maximum, n, limit => limit.value < n.value
  | exclusiveMaximum, n, limit => limit.value < n.value ∨ n.Meets limit

/-- What an issue of the kind says of a value is true. With the bounds of a range it is
enough that this holds of numbers that can be stored, as all numbers can that are read
(`Json.stored_of_read?`). -/
inductive IssueKind.TrueOf : Json → IssueKind → Prop
  | invalidType {expected : PrimitiveType} {x : Json} (h : ¬ expected.Of x) :
      TrueOf x (.invalidType expected.name x.typeName)
  | tooShort {s : String} {least : Nat} (h : s.length < least) :
      TrueOf (.string s) (.tooShort least)
  | tooLong {s : String} {most : Nat} (h : most < s.length) :
      TrueOf (.string s) (.tooLong most)
  | patternMismatch {s : String} {pattern : Pattern}
      (hpattern : Pattern.ofText pattern.source = .ok pattern)
      (h : ¬ pattern.occursIn s = true) : TrueOf (.string s) (.patternMismatch pattern.source)
  | invalidFormat {s : String} {format : StringFormat} (h : ¬ format.accepts s = true) :
      TrueOf (.string s) (.invalidFormat format.name)
  | notInteger {n : Number} (h : ∀ k : Int, n.value ≠ k) : TrueOf (.number n) .notInteger
  | outOfRange {n limit : Number} {bound : Bound}
      (h : n.Stored → limit.Stored → bound.Broken n limit) :
      TrueOf (.number n) (.outOfRange bound.keyword (.number limit))
  | notMultipleOf {n step : Number} (h : ¬ step.Divides n) :
      TrueOf (.number n) (.notMultipleOf (.number step))
  | tooFewItems {items : List Json} {least : Nat} (h : items.length < least) :
      TrueOf (.array items) (.tooFewItems least)
  | tooManyItems {items : List Json} {most : Nat} (h : most < items.length) :
      TrueOf (.array items) (.tooManyItems most)
  | literalMismatch {x expected : Json} (h : x.same expected = false) :
      TrueOf x (.literalMismatch expected)
  | notInEnum {s : String} {allowed : List String} (h : s ∉ allowed) :
      TrueOf (.string s) (.notInEnum allowed)

/-- A report of the kind at the location is true of the value that the validator was asked
about. It is not said what would make a report of an unresolved reference true, so there
is none. -/
inductive Warranted (v : Validator) (x : Json) : Location → IssueKind → Prop
  | missing {front : Location} {name : String} {members : Members}
      (hat : x.at? front = some (.object members)) (hname : members.get? name = none) :
      Warranted v x (front ++ [name]) .missing
  | unknownProperty {front : Location} {name : String} {members : Members} {y : Json}
      (hat : x.at? front = some (.object members)) (hname : members.get? name = some y) :
      Warranted v x (front ++ [name]) (.unknownProperty name)
  | value {location : Location} {y : Json} {kind : IssueKind} (hat : x.at? location = some y)
      (h : kind.TrueOf y) : Warranted v x location kind
  | noMatchingVariant {location : Location} {y : Json} {variants : List Validator}
      (hat : x.at? location = some y) (hunion : v.Involves (.union variants))
      (h : ∀ w ∈ variants, w.check y = false) :
      Warranted v x location (.noMatchingVariant variants.length)

-- ============================================================ numbers

/-- A number that does not keep a bound lies to it as the bound says. -/
theorem Bound.broken_of_not_keeps {bound : Bound} {n limit : Number} (hn : n.Stored)
    (hlimit : limit.Stored) (h : ¬ bound.keeps (n.compare limit) = true) :
    bound.Broken n limit := by
  have hlt := Number.lt_of_compare hn hlimit
  have hgt := Number.gt_of_compare hn hlimit
  have heq : n.compare limit = .eq → n.Meets limit := Number.meets_of_compare
  cases bound with
  | minimum =>
      cases hcompare : n.compare limit with
      | lt => exact hlt hcompare
      | _ => rw [hcompare] at h; exact absurd rfl h
  | exclusiveMinimum =>
      cases hcompare : n.compare limit with
      | lt => exact .inl (hlt hcompare)
      | eq => exact .inr (heq hcompare)
      | gt => rw [hcompare] at h; exact absurd rfl h
  | maximum =>
      cases hcompare : n.compare limit with
      | gt => exact hgt hcompare
      | _ => rw [hcompare] at h; exact absurd rfl h
  | exclusiveMaximum =>
      cases hcompare : n.compare limit with
      | gt => exact .inl (hgt hcompare)
      | eq => exact .inr (heq hcompare)
      | lt => rw [hcompare] at h; exact absurd rfl h

-- ========================================================= sound rules

/-- The pattern has been read from the text that it is reported by. -/
def StringRules.Sound (rules : StringRules) : Prop :=
  ∀ pattern, rules.pattern = some pattern → Pattern.ofText pattern.source = .ok pattern

/-- The step is above zero. -/
def NumberRules.Sound (rules : NumberRules) : Prop :=
  ∀ step, rules.multipleOf = some step → step.isPositive = true

/-- The rules of the shape are sound. -/
def Shape.Sound : Shape → Prop
  | .string rules => rules.Sound
  | .number rules => rules.Sound
  | _ => True

/-- The rules of the validator are sound. -/
def Validator.Sound : Validator → Prop
  | .string rules => rules.Sound
  | .number rules => rules.Sound
  | _ => True

namespace StringRules

/-- A rule that a string breaks is reported truly. -/
theorem trueOf_of_breaks {rules : StringRules} {s : String} {kind : IssueKind}
    (hrules : rules.Sound) (h : rules.Breaks s kind) : kind.TrueOf (.string s) := by
  cases h with
  | tooShort _ hs => exact .tooShort hs
  | tooLong _ hs => exact .tooLong hs
  | patternMismatch h hs => exact .patternMismatch (hrules _ h) hs
  | invalidFormat _ hs => exact .invalidFormat hs

end StringRules

namespace NumberRules

/-- A rule that a number breaks is reported truly. -/
theorem trueOf_of_breaks {rules : NumberRules} {n : Number} {kind : IssueKind}
    (hrules : rules.Sound) (h : rules.Breaks n kind) : kind.TrueOf (.number n) := by
  cases h with
  | notInteger _ hn => exact .notInteger (Number.value_ne_of_not_isWhole hn)
  | outOfRange _ hn =>
      exact .outOfRange fun hstored hlimit => Bound.broken_of_not_keeps hstored hlimit hn
  | notMultipleOf h hn => exact .notMultipleOf (mt (Number.isMultipleOf_iff (hrules _ h)).mpr hn)

end NumberRules

/-- A bound that a length breaks is reported truly. -/
theorem ItemBounds.trueOf_of_breaks {bounds : ItemBounds} {items : List Json} {kind : IssueKind}
    (h : bounds.Breaks items.length kind) : kind.TrueOf (.array items) := by
  cases h with
  | tooFewItems _ h => exact .tooFewItems h
  | tooManyItems _ h => exact .tooManyItems h

theorem Pattern.source_of_ofText {source : String} {pattern : Pattern}
    (h : ofText source = .ok pattern) : pattern.source = source := by
  unfold ofText at h
  cases hexpression : expression? source with
  | error e =>
      rw [hexpression] at h
      cases h
  | ok e =>
      rw [hexpression] at h
      cases h
      rfl

theorem Constraint.sound_numberRules (members : Members) (integer : Bool) (path : String) :
    (numberRules members integer path).1.Sound := by
  intro step h
  unfold numberRules at h
  cases hread : (number members "multipleOf" path).1 with
  | none => simp [hread] at h
  | some found =>
      cases hpositive : found.isPositive with
      | false => simp [hread, hpositive] at h
      | true =>
          have heq : found = step := by simpa [hread, hpositive] using h
          rw [← heq, hpositive]

namespace Shape

variable {formats : FormatPolicy} {members : Members} {shape : Shape}

theorem sound_stringRules? {rules : StringRules} (h : stringRules? formats members = some rules) :
    rules.Sound := by
  obtain ⟨found, hfound, rfl⟩ := Option.map_eq_some_iff.mp h
  rintro pattern rfl
  unfold pattern? at hfound
  split at hfound
  · cases hfound
  · next source hsource =>
    split at hfound
    · next read hread =>
      cases hfound
      rw [Pattern.source_of_ofText hread, hread]
    · cases hfound

theorem sound_typed? {type : PrimitiveType} (h : typed? formats members type = some shape) :
    shape.Sound := by
  cases type with
  | string =>
      obtain ⟨rules, hrules, rfl⟩ := Option.map_eq_some_iff.mp h
      exact sound_stringRules? hrules
  | number | integer =>
      cases h
      exact Constraint.sound_numberRules _ _ _
  | boolean | null | array | object =>
      cases h
      trivial

/-- The rules that keywords ask for are sound. -/
theorem sound_of_shape? (h : shape? formats members = some shape) : shape.Sound := by
  unfold shape? at h
  split at h
  · cases h; trivial
  · cases h
    unfold ofVariants
    split <;> trivial
  · cases h
    unfold ofNames
    split <;> trivial
  · cases h; trivial
  · cases h; trivial
  · exact sound_typed? h
  · exact sound_typed? h
  · cases h; trivial

theorem Sound.leaf {v : Validator} (h : shape.Sound) (hleaf : shape.leaf? = some v) : v.Sound := by
  cases shape with
  | anything | boolean | null =>
      cases hleaf
      trivial
  | string rules | number rules =>
      cases hleaf
      exact h
  | values list =>
      cases hleaf
      unfold Compiler.enumeration
      split <;> trivial
  | reference | optional | union | array | object => cases hleaf

end Shape

-- ============================================================ compiled

namespace Validator

/-- The validator has been compiled from some schema, or it is a value of an
enumeration. -/
def Stood (v : Validator) : Prop :=
  (∃ options pool visited schema, Stands options pool visited schema v) ∨ ∃ x, v = .literal x

namespace Stood

variable {v w : Validator}

theorem sound (h : v.Stood) : v.Sound := by
  rcases h with ⟨options, pool, visited, schema, h⟩ | ⟨x, rfl⟩
  · by_cases hany : v = .any
    · subst hany
      trivial
    · obtain ⟨members, rfl⟩ := h.exists_members hany
      obtain ⟨shape, hshape, hlayer⟩ := h.layer
      cases hlayer with
      | leaf hleaf => exact (Shape.sound_of_shape? hshape).leaf hleaf
      | _ => trivial
  · trivial

theorem of_part (h : v.Stood) (hpart : v.Part w) : w.Stood := by
  rcases h with ⟨options, pool, visited, schema, h⟩ | ⟨x, rfl⟩
  · rcases h.part hpart with ⟨pool, visited, schema, h⟩ | hliteral
    · exact .inl ⟨_, _, _, _, h⟩
    · exact .inr hliteral
  · cases hpart

theorem exists_target {d : Deferred} (h : (deferred d).Stood) :
    ∃ t, d.target = .ok t ∧ t.Stood := by
  rcases h with ⟨options, pool, visited, schema, h⟩ | ⟨x, h⟩
  · obtain ⟨t, ht⟩ := h.settled.exists_target
    obtain ⟨definition, -, hstands⟩ := h.settled.stands_target ht
    exact ⟨t, ht, .inl ⟨_, _, _, _, hstands⟩⟩
  · cases h

/-- Who is asked has been compiled too. -/
theorem of_asks {data inside : Data} (h : v.Stood) (hask : Asks (v, data) (w, inside)) :
    w.Stood := by
  rcases hask.part_or_target with hpart | ⟨d, rfl, ht⟩
  · exact h.of_part hpart
  · obtain ⟨t, ht', hstood⟩ := h.exists_target
    cases ht.symm.trans ht'
    exact hstood

end Stood

end Validator

-- ============================================================= reports

/-- The issue is about a location inside the value that the validator was asked about at
the given one, and true of it. -/
def Issue.Warranted (issue : Issue) (v : Validator) (x : Json) (location : Location) : Prop :=
  ∃ back, issue.path = Location.text (location ++ back) ∧
    Conformance.Warranted v x back issue.kind

section

variable {v w : Validator} {x y : Json} {location back : Location} {issue : Issue}
variable {kind : IssueKind}

/-- What is true of a value in another is true of it at the longer location. -/
theorem Warranted.inside (h : Warranted w y back kind) (hw : v.Involves w) {front : Location}
    (hat : x.at? front = some y) : Warranted v x (front ++ back) kind := by
  have hinside : ∀ rest, x.at? (front ++ rest) = y.at? rest := fun rest => by
    rw [Json.at?_append, hat, Option.bind_some]
  cases h with
  | @missing back name members hback hname =>
      rw [← List.append_assoc]
      exact .missing ((hinside back).trans hback) hname
  | @unknownProperty back name members z hback hname =>
      rw [← List.append_assoc]
      exact .unknownProperty ((hinside back).trans hback) hname
  | value hback h => exact .value ((hinside _).trans hback) h
  | noMatchingVariant hback hunion h =>
      exact .noMatchingVariant ((hinside _).trans hback) (hw.trans hunion) h

namespace Issue.Warranted

/-- The issue is about the value itself. -/
theorem here (hpath : issue.path = location.text) (h : issue.kind.TrueOf x) :
    issue.Warranted v x location :=
  ⟨[], by rw [List.append_nil, hpath], .value rfl h⟩

theorem inside (h : issue.Warranted w y (location ++ back)) (hw : v.Involves w)
    (hat : x.at? back = some y) : issue.Warranted v x location := by
  obtain ⟨rest, hpath, h⟩ := h
  exact ⟨back ++ rest, by rw [hpath, List.append_assoc], h.inside hw hat⟩

/-- The validator has passed the value on. -/
theorem of_involves (h : issue.Warranted w x location) (hw : v.Involves w) :
    issue.Warranted v x location := by
  obtain ⟨rest, hpath, h⟩ := h
  exact ⟨rest, hpath, h.inside hw (show x.at? [] = some x from rfl)⟩

/-- What a node says by itself is true. -/
theorem of_own (h : v.Says x location issue) (hstood : v.Stood) (hx : x.Distinct) :
    issue.Warranted v x location := by
  cases h with
  | wrongType _ h => exact .here rfl (.invalidType h.not_of)
  | string h =>
      obtain ⟨kind, message, hbreaks, rfl⟩ := StringRules.exists_breaks_of_mem_check h
      exact .here rfl (StringRules.trueOf_of_breaks hstood.sound hbreaks)
  | number h =>
      obtain ⟨kind, message, hbreaks, rfl⟩ := NumberRules.exists_breaks_of_mem_check h
      exact .here rfl (NumberRules.trueOf_of_breaks hstood.sound hbreaks)
  | literal _ hsame => exact .here rfl (.literalMismatch (Bool.eq_false_iff.mpr hsame))
  | stringEnum _ hallowed =>
      exact .here rfl (.notInEnum (mt List.contains_iff_mem.mpr hallowed))
  | length h =>
      obtain ⟨kind, message, hbreaks, rfl⟩ := ItemBounds.exists_breaks_of_mem_check h
      exact .here rfl (ItemBounds.trueOf_of_breaks hbreaks)
  | @missing _ _ members p _ _ hnone =>
      have hroot : (Json.object members).at? [] = some (.object members) := rfl
      exact ⟨[p.name], rfl, Warranted.missing hroot hnone⟩
  | @unknown _ members m _ hm =>
      -- the member is the first of its name, as names are distinct
      have hmembers : Members.Distinct members := hx
      have hfound : members.get? m.1 = some m.2 :=
        (Members.get?_eq_some_iff hmembers.names).mpr (List.mem_filter.mp hm).1
      have hroot : (Json.object members).at? [] = some (.object members) := rfl
      exact ⟨[m.1], rfl, Warranted.unknownProperty hroot hfound⟩
  | unresolved _ _ ht =>
      obtain ⟨t, ht', -⟩ := hstood.exists_target
      rw [ht] at ht'
      cases ht'

end Issue.Warranted

end

namespace Validator

/-- What a compiled validator reports is true of the value it was asked about. The
induction is on the way that an issue comes from the node that says it. -/
theorem Raises.warranted {v : Validator} {x : Json} {location : Location} {issue : Issue}
    (h : v.Raises x location issue) : v.Stood → x.Distinct → issue.Warranted v x location := by
  induction h with
  | own h => exact .of_own h
  | passed h _ ih =>
      intro hstood hx
      exact (ih (hstood.of_asks h.asks) hx).of_involves h.asks.involves
  | inside h _ ih =>
      intro hstood hx
      have hat := h.at?_eq hx
      exact (ih (hstood.of_asks h.asks) (hx.at? hat)).inside h.asks.involves hat
  | noVariant hnone =>
      intro _ _
      have hvariants := firstParsed?_eq_none_iff.mp hnone
      exact ⟨[], by rw [List.append_nil]; rfl, .noMatchingVariant rfl .self hvariants⟩

/-- What is reported of a value is true of it. Each issue has the path of a location. For
what is missing, an object of the value lacks the name that the location ends in. For all
else there is a value at the location, and what the kind of the issue says of it is
true. -/
theorem reports_warranted {schema : Json} {pool : Definitions} {options : CompileOptions}
    {v : Validator} {x : Json} {failure : Failure} (hx : x.Distinct)
    (h : (compileNode schema pool .empty options).result = .ok v)
    (hfailure : v.parse x = .error failure) :
    ∀ issue ∈ failure.issues, ∃ location : Location,
      issue.path = location.text ∧ Warranted v x location issue.kind := by
  intro issue hissue
  have hstood : v.Stood := .inl ⟨_, _, _, _, Stands.of_compileNode h⟩
  exact (raises_of_parse hfailure issue hissue).warranted hstood hx

/-- A number of an order, and words that describe it. -/
def orderSchema : Json :=
  .object
    [("type", .string "object"), ("required", .array [.string "id"]),
     ("properties", .object
       [("id", .object [("type", .string "integer")]),
        ("tags", .object
          [("type", .string "array"), ("items", .object [("type", .string "string")])])])]

/-- An order without a number, and with a number among its words. -/
def order : Json := .object [("tags", .array [.string "new", .number (.whole 7)])]

theorem reports_warranted_order : ∃ v failure, (compile orderSchema).result = .ok v ∧
    v.parse order = .error failure ∧ failure.issues.map Issue.path = ["/id", "/tags/1"] ∧
    ∀ issue ∈ failure.issues, ∃ location : Location,
      issue.path = location.text ∧ Warranted v order location issue.kind := by
  have hdistinct : order.Distinct := by simp [order, Members.names]
  have hcompile : (compile orderSchema).result = .ok _ := rfl
  refine ⟨_, _, hcompile, rfl, rfl, ?_⟩
  exact reports_warranted hdistinct hcompile rfl

/-- The real `2^53`. -/
def largeReal : Number := .real ⟨false, 2 ^ 52, 1⟩

/-- The real three. -/
def threeReal : Number := .real ⟨false, 3 * 2 ^ 51, -51⟩

/-- Multiples of three above `2^53`, by reals. -/
def largeMultiples : Json :=
  .object [("type", .string "integer"), ("exclusiveMinimum", .number largeReal),
    ("multipleOf", .number threeReal)]

/-- A whole number may be reported as out of a range that it is in, and as no multiple of
what divides it. The reals next to `2^53 + 1` are even, and it is compared as one of
them. -/
theorem out_of_range_beyond : ∃ v failure, (compile largeMultiples).result = .ok v ∧
    v.parse (.number (.whole (2 ^ 53 + 1))) = .error failure ∧
    failure.issues.map Issue.kind =
      [.outOfRange "exclusiveMinimum" (.number largeReal), .notMultipleOf (.number threeReal)] ∧
    largeReal.value < (Number.whole (2 ^ 53 + 1)).value ∧
    (Number.whole (2 ^ 53 + 1)).value = 3002399751580331 * threeReal.value := by
  refine ⟨_, _, rfl, rfl, rfl, ?_, ?_⟩
  · simp only [largeReal, Number.value, Binary64.value, Binary64.signed]
    norm_num
  · simp only [threeReal, Number.value, Binary64.value, Binary64.signed]
    norm_num

end Validator

end Conformance
