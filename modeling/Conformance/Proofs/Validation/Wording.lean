/-
What the words of an issue hold.

An issue has a path and a message, and both are put together from fixed words and from what
is in the data and the schema. Values, patterns and the members of enumerations are quoted or
written as JSON. The names of members are not: a path has them as its segments, and what is
said of a member that is missing or unknown names it as it is. So an issue ends a line only
where such a name does, one of a member of the data or of a property that is declared
(`Raises.brokenOnlyBy`).

What is said of an unresolved reference would be another matter, but a compiled validator has
no such reference. And a union repeats what its alternatives say, so for its own issue the
induction speaks of all of theirs at once.
-/
import Conformance.Proofs.Text.Lines
import Conformance.Proofs.Validation.DeclaredNames

namespace Conformance

open Text

-- ================================================================ names

/-- An object in the value, at any depth, has a member of the name. -/
inductive Json.HasName : Json → String → Prop
  | here {members : Members} {name : String} (h : name ∈ members.names) :
      HasName (.object members) name
  | item {items : List Json} {x : Json} {name : String} (hx : x ∈ items) (h : HasName x name) :
      HasName (.array items) name
  | member {members : Members} {m : String × Json} {name : String} (hm : m ∈ members)
      (h : HasName m.2 name) : HasName (.object members) name

/-- What the issue says ends a line only where one of the names does. -/
structure Issue.BrokenOnlyBy (names : String → Prop) (issue : Issue) : Prop where
  path : Text.BrokenOnlyBy names issue.path
  message : Text.BrokenOnlyBy names issue.message

section

variable {names : String → Prop} {location : Location} {kind : IssueKind} {issue : Issue}

/-- The text of an issue is put together from its path and its message. -/
theorem Issue.BrokenOnlyBy.text (h : issue.BrokenOnlyBy names) :
    Text.BrokenOnlyBy names issue.text :=
  (h.path.append (brokenOnlyBy_of_isUnbroken (by decide))).append h.message

/-- The segments of the location end a line only where one of the names does. -/
def Location.BrokenOnlyBy (names : String → Prop) (location : Location) : Prop :=
  ∀ segment ∈ location, Text.BrokenOnlyBy names segment

namespace Location.BrokenOnlyBy

/-- The number of an item adds no line end. -/
theorem item (h : location.BrokenOnlyBy names) (i : Nat) :
    (location.item i).BrokenOnlyBy names := by
  intro segment hsegment
  rcases List.mem_append.mp hsegment with hsegment | hsegment
  · exact h segment hsegment
  · rw [List.mem_singleton.mp hsegment]
    exact brokenOnlyBy_toString i

/-- The name of a member may add one, being a name. -/
theorem member (h : location.BrokenOnlyBy names) {name : String} (hname : names name) :
    (location.member name).BrokenOnlyBy names := by
  intro segment hsegment
  rcases List.mem_append.mp hsegment with hsegment | hsegment
  · exact h segment hsegment
  · rw [List.mem_singleton.mp hsegment]
    exact .of_name hname

/-- In a pointer, what a character is escaped by ends no line. -/
theorem mem_of_mem_escapeChar {c d : Char} (h : d ∈ Pointer.escapeChar c) (hends : EndsLine d) :
    d = c := by
  unfold Pointer.escapeChar at h
  split at h
  · exact absurd hends (not_endsLine_of_keepsLine (by decide) d h)
  · exact absurd hends (not_endsLine_of_keepsLine (by decide) d h)
  · exact List.mem_singleton.mp h

/-- The path shows the location, and escaping adds no line end to the names in it. -/
theorem text (h : location.BrokenOnlyBy names) : Text.BrokenOnlyBy names location.text := by
  unfold Location.text
  split
  · exact brokenOnlyBy_of_isUnbroken (by decide)
  · intro d hd hends
    rw [Pointer.toList_extend] at hd
    obtain ⟨segment, hsegment, hd⟩ := List.mem_flatMap.mp hd
    rcases List.mem_cons.mp hd with rfl | hd
    · exact absurd hends (by decide)
    · obtain ⟨c, hc, hd⟩ := List.mem_flatMap.mp hd
      cases mem_of_mem_escapeChar hd hends
      exact h segment hsegment d hc hends

/-- An issue about the location, with a message that ends no other line. -/
theorem about (h : location.BrokenOnlyBy names) {message : String}
    (hmessage : Text.BrokenOnlyBy names message) :
    (Issue.about location kind message).BrokenOnlyBy names :=
  ⟨h.text, hmessage⟩

end Location.BrokenOnlyBy

end

-- ================================================================ rules

section

variable {names : String → Prop} {location : Location} {issue : Issue}

/-- Two numbers with words before them. -/
theorem brokenOnlyBy_counts {words more : String} (m n : Nat)
    (hwords : isUnbroken words = true) (hmore : isUnbroken more = true) :
    Text.BrokenOnlyBy names (words ++ toString m ++ more ++ toString n) :=
  ((brokenOnlyBy_toString m).between hwords hmore).append (brokenOnlyBy_toString n)

/-- The words of the messages are on one line. -/
theorem StringFormat.brokenOnlyBy_name (format : StringFormat) :
    Text.BrokenOnlyBy names format.name := by
  cases format <;> exact brokenOnlyBy_of_isUnbroken (by decide)

theorem Bound.brokenOnlyBy_phrase (bound : Bound) : Text.BrokenOnlyBy names bound.phrase := by
  cases bound <;> exact brokenOnlyBy_of_isUnbroken (by decide)

variable (hlocation : location.BrokenOnlyBy names)
include hlocation

/-- The messages about a string show lengths and what is set down in the rules, a pattern
among it, and that between quotes. -/
theorem StringRules.brokenOnlyBy_of_mem_check {rules : StringRules} {s : String}
    (h : issue ∈ rules.check s location) : issue.BrokenOnlyBy names := by
  simp only [check, mem_filterMap_id, List.mem_cons, List.not_mem_nil, or_false,
    eq_comm (a := some _), bind_some_iff, bind_none_iff] at h
  have hvalue : Text.BrokenOnlyBy names ("value " ++ quoted s) :=
    (brokenOnlyBy_of_isUnbroken (by decide)).append (brokenOnlyBy_quoted s)
  rcases h with ⟨_, -, -, rfl⟩ | ⟨_, -, -, rfl⟩ | ⟨pattern, -, -, rfl⟩ | ⟨format, -, -, rfl⟩
  · exact hlocation.about (brokenOnlyBy_counts _ _ (by decide) (by decide))
  · exact hlocation.about (brokenOnlyBy_counts _ _ (by decide) (by decide))
  · have hwords := hvalue.append
      (brokenOnlyBy_of_isUnbroken (s := " does not match pattern ") (by decide))
    exact hlocation.about (hwords.append (brokenOnlyBy_quoted pattern.source))
  · have hwords := hvalue.append (brokenOnlyBy_of_isUnbroken (s := " is not a valid ") (by decide))
    exact hlocation.about (hwords.append format.brokenOnlyBy_name)

/-- Those about a number show numbers. -/
theorem NumberRules.brokenOnlyBy_of_mem_check {rules : NumberRules} {n : Number}
    (h : issue ∈ rules.check n location) : issue.BrokenOnlyBy names := by
  have hvalue : Text.BrokenOnlyBy names ("value " ++ n.text) :=
    (brokenOnlyBy_of_isUnbroken (by decide)).append (brokenOnlyBy_number n)
  rcases mem_check.mp h with ⟨-, -, rfl⟩ | ⟨bound, h⟩ | ⟨step, -, -, rfl⟩
  · exact hlocation.about ((brokenOnlyBy_of_isUnbroken (by decide)).append (brokenOnlyBy_number n))
  · obtain ⟨limit, -, -, rfl⟩ := bind_none_iff.mp h
    have hwords := (hvalue.append (brokenOnlyBy_of_isUnbroken (s := " ") (by decide))).append
      bound.brokenOnlyBy_phrase
    have hspace := hwords.append (brokenOnlyBy_of_isUnbroken (s := " ") (by decide))
    exact hlocation.about (hspace.append (brokenOnlyBy_number limit))
  · have hwords := hvalue.append
      (brokenOnlyBy_of_isUnbroken (s := " is not a multiple of ") (by decide))
    exact hlocation.about (hwords.append (brokenOnlyBy_number step))

/-- Those about a length show two counts. -/
theorem ItemBounds.brokenOnlyBy_of_mem_check {bounds : ItemBounds} {length : Nat}
    (h : issue ∈ bounds.check length location) : issue.BrokenOnlyBy names := by
  simp only [check, mem_filterMap_id, List.mem_cons, List.not_mem_nil, or_false,
    eq_comm (a := some _), bind_some_iff] at h
  rcases h with ⟨_, -, -, rfl⟩ | ⟨_, -, -, rfl⟩
  · exact hlocation.about (brokenOnlyBy_counts _ _ (by decide) (by decide))
  · exact hlocation.about (brokenOnlyBy_counts _ _ (by decide) (by decide))

/-- A message about the type names two types. -/
theorem Issue.brokenOnlyBy_wrongType (expected : PrimitiveType) (x : Json) :
    (Issue.wrongType expected.name x location).BrokenOnlyBy names := by
  have hexpected : isUnbroken expected.name = true := by
    cases expected <;> decide
  have hgot : Text.BrokenOnlyBy names x.typeName := by
    refine brokenOnlyBy_of_isUnbroken ?_
    cases x <;> simp only [Json.typeName] <;> decide
  have hwords : Text.BrokenOnlyBy names ("expected " ++ expected.name ++ ", got ") :=
    (brokenOnlyBy_of_isUnbroken hexpected).between (by decide) (by decide)
  exact hlocation.about (hwords.append hgot)

/-- A member is named as it is, in the path and in the message. -/
theorem Validator.brokenOnlyBy_missingMember {name : String} (hname : names name) :
    (missingMember location name).BrokenOnlyBy names :=
  (hlocation.member hname).about ((BrokenOnlyBy.of_name hname).between (by decide) (by decide))

/-- One about a member that is not expected shows its name as it is. -/
theorem Validator.brokenOnlyBy_unknownMember {name : String} (hname : names name) :
    (unknownMember location name).BrokenOnlyBy names :=
  (hlocation.member hname).about ((BrokenOnlyBy.of_name hname).between (by decide) (by decide))

/-- A union says what its alternatives say. -/
theorem Issue.brokenOnlyBy_noVariant (variants : Nat) {reasons : List String}
    (h : ∀ reason ∈ reasons, Text.BrokenOnlyBy names reason) :
    (Issue.noVariant variants reasons location).BrokenOnlyBy names := by
  have hwords : Text.BrokenOnlyBy names s!"value matched none of {variants} variants" :=
    (brokenOnlyBy_toString variants).between (by decide) (by decide)
  refine hlocation.about (hwords.append ?_)
  split
  · exact brokenOnlyBy_of_isUnbroken (by decide)
  · have hsemicolon : Text.BrokenOnlyBy names "; " := brokenOnlyBy_of_isUnbroken (by decide)
    exact (hsemicolon.intercalate h).between (by decide) (by decide)

end

-- ================================================================ issues

namespace Validator

section

variable {names : String → Prop} {v w : Validator} {x y : Json} {location : Location}
variable {issue : Issue}

/-- What is asked about inside a value has no names that the value does not have. -/
theorem AsksAt.hasName {s : String} (h : AsksAt v x s w y) {name : String}
    (hname : y.HasName name) : x.HasName name := by
  cases h with
  | item he => exact .item (List.fst_mem_of_mem_zipIdx he) hname
  | member _ hget => exact .member (Members.mem_of_get? hget) hname
  | other hm => exact .member (List.mem_filter.mp hm).1 hname

variable (hx : ∀ name, x.HasName name → names name) (hv : ∀ name, v.Declares name → names name)
variable (hlocation : location.BrokenOnlyBy names)
include hx hv hlocation

/-- Where it is asked about, the location is longer by a number or by such a name. -/
theorem AsksAt.brokenOnlyBy {s : String} (h : AsksAt v x s w y) :
    Location.BrokenOnlyBy names (location ++ [s]) := by
  cases h with
  | item => exact hlocation.item _
  | @member properties additional _ p _ hp =>
      exact hlocation.member (hv _ ⟨properties, additional, .self, p, hp, rfl⟩)
  | other hm =>
      have hmember := Members.mem_names_of_mem (List.mem_filter.mp hm).1
      exact hlocation.member (hx _ (.here hmember))

/-- What a node says by itself ends a line only where a name does that it declares or that
the value has. -/
theorem Says.brokenOnlyBy (h : v.Says x location issue) (hresolves : v.Resolves) :
    issue.BrokenOnlyBy names := by
  cases h with
  | @wrongType _ _ expected => exact Issue.brokenOnlyBy_wrongType hlocation expected x
  | string h => exact StringRules.brokenOnlyBy_of_mem_check hlocation h
  | number h => exact NumberRules.brokenOnlyBy_of_mem_check hlocation h
  | @literal expected =>
      have hwords : Text.BrokenOnlyBy names ("expected literal " ++ expected.compact ++ ", got ") :=
        (brokenOnlyBy_compact expected).between (by decide) (by decide)
      exact hlocation.about (hwords.append (brokenOnlyBy_compact x))
  | @stringEnum allowed s =>
      have hwords : Text.BrokenOnlyBy names ("value " ++ quoted s ++ " is not one of ") :=
        (brokenOnlyBy_quoted s).between (by decide) (by decide)
      exact hlocation.about (hwords.append (brokenOnlyBy_quotedList allowed))
  | length h => exact ItemBounds.brokenOnlyBy_of_mem_check hlocation h
  | @missing properties additional _ p _ hp =>
      exact brokenOnlyBy_missingMember hlocation (hv _ ⟨properties, additional, .self, p, hp, rfl⟩)
  | unknown _ hm =>
      have hmember := Members.mem_names_of_mem (List.mem_filter.mp hm).1
      exact brokenOnlyBy_unknownMember hlocation (hx _ (.here hmember))
  | @unresolved d _ _ _ ht =>
      -- the reason could hold anything, but there is none
      obtain ⟨t, ht'⟩ := hresolves d (.held (.here d))
      rw [ht] at ht'
      cases ht'

end

/-- The issues of a value end a line only where a name does that a member of the value has
or that the validator declares, or where the location does. -/
theorem Raises.brokenOnlyBy {names : String → Prop} {v : Validator} {x : Json}
    {location : Location} {issue : Issue} (h : v.Raises x location issue) :
    v.Resolves → (∀ name, x.HasName name → names name) → (∀ name, v.Declares name → names name) →
      location.BrokenOnlyBy names → issue.BrokenOnlyBy names := by
  induction h with
  | own h => exact fun hresolves hx hv hlocation => h.brokenOnlyBy hx hv hlocation hresolves
  | passed h _ ih =>
      intro hresolves hx hv hlocation
      exact ih (hresolves.of_asks h.asks) hx
        (fun name hname => hv name (hname.of_involves h.asks.involves)) hlocation
  | inside h _ ih =>
      intro hresolves hx hv hlocation
      exact ih (hresolves.of_asks h.asks) (fun name hname => hx name (h.hasName hname))
        (fun name hname => hv name (hname.of_involves h.asks.involves))
        (h.brokenOnlyBy hx hv hlocation)
  | @noVariant variants x _ _ _ ih =>
      intro hresolves hx hv hlocation
      -- a reason is the first issue of an alternative, behind the number of that one
      refine Issue.brokenOnlyBy_noVariant hlocation _ fun reason hreason => ?_
      obtain ⟨e, he, hreason⟩ := List.mem_flatMap.mp hreason
      obtain ⟨first, hfirst, rfl⟩ := Option.map_eq_some_iff.mp (Option.mem_toList.mp hreason)
      have hvariant := List.fst_mem_of_mem_zipIdx he
      have hasks : Asks (.union variants, some x) (e.1, some x) := .stays (.variant hvariant) _
      have hmessage := ih e.1 hvariant first (List.mem_of_mem_head? hfirst)
        (hresolves.of_asks hasks) hx
        (fun name hname => hv name (hname.of_involves hasks.involves)) hlocation
      exact ((brokenOnlyBy_toString e.2).between (by decide) (by decide)).append hmessage.message

end Validator

end Conformance
