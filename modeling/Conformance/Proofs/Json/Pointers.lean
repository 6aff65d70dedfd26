/-
Pointers, read back and followed.

A pointer is written segment by segment, a slash before each, with the slashes and
the tildes of a segment escaped. So the slashes of a written pointer are its
separators, and what it was written from can be read back (`segments_extend`).

The pointer of an issue is written in the same way, with one exception: the root is
a single slash. That is also how the member of the root is written whose name is
empty, and these two locations are the only ones that share a path
(`path_eq_iff`).
-/
import Conformance.Proofs.Json.Names
import Conformance.Session
import Conformance.Text.Split

namespace Conformance

-- ============================================================= splitting

namespace Text

variable {separator : Char} {part : List Char}

theorem split_of_not_mem (h : separator ∉ part) : split separator part = [part] := by
  induction part with
  | nil => rfl
  | cons c rest ih =>
      obtain ⟨hc, hrest⟩ := not_or.mp fun hmem => h (List.mem_cons.mpr hmem)
      rw [split, if_neg (Ne.symm hc), ih hrest]

/-- What stands before the first separator is the first part. -/
theorem split_append_cons (h : separator ∉ part) (rest : List Char) :
    split separator (part ++ separator :: rest) = part :: split separator rest := by
  induction part with
  | nil => rw [List.nil_append, split, if_pos rfl]
  | cons c others ih =>
      obtain ⟨hc, hothers⟩ := not_or.mp fun hmem => h (List.mem_cons.mpr hmem)
      rw [List.cons_append, split, if_neg (Ne.symm hc), ih hothers]

end Text

-- ============================================================== segments

namespace Pointer

/-- The written form of the characters of a segment. -/
def escapeChars (cs : List Char) : List Char := cs.flatMap escapeChar

/-- The segments that a pointer was written from. What stands before the first slash
is not one of them. -/
def segments (pointer : String) : List String :=
  (Text.split '/' pointer.toList).tail.map fun cs => String.ofList (unescapeChars cs)

theorem slash_not_mem_escapeChars (cs : List Char) : '/' ∉ escapeChars cs := by
  intro h
  obtain ⟨c, -, hc⟩ := List.mem_flatMap.mp h
  unfold escapeChar at hc
  split at hc
  · simp at hc
  · simp at hc
  · next hslash => exact hslash (List.mem_singleton.mp hc).symm

/-- A character other than the tilde stands for itself. -/
theorem unescapeChars_cons_of_ne {c : Char} (h : c ≠ '~') (rest : List Char) :
    unescapeChars (c :: rest) = c :: unescapeChars rest := by
  rw [unescapeChars.eq_def]
  split <;> simp_all

/-- What was escaped is read back as it was. -/
theorem unescapeChars_escapeChars (cs : List Char) : unescapeChars (escapeChars cs) = cs := by
  induction cs with
  | nil => rfl
  | cons c rest ih =>
      rw [escapeChars, List.flatMap_cons, ← escapeChars]
      by_cases htilde : c = '~'
      · subst htilde
        exact congrArg ('~' :: ·) ih
      · by_cases hslash : c = '/'
        · subst hslash
          exact congrArg ('/' :: ·) ih
        · have hself : escapeChar c = [c] := escapeChar.eq_3 c htilde hslash
          rw [hself, List.singleton_append, unescapeChars_cons_of_ne htilde, ih]

theorem toList_escape (segment : String) : (escape segment).toList = escapeChars segment.toList :=
  String.toList_ofList

theorem toList_extend (base : String) (segments : List String) :
    (extend base segments).toList
      = base.toList ++ segments.flatMap fun s => '/' :: escapeChars s.toList := by
  induction segments generalizing base with
  | nil => simp [extend]
  | cons s rest ih =>
      have hrest : extend base (s :: rest) = extend (base ++ "/" ++ escape s) rest := rfl
      rw [hrest, ih]
      simp [toList_escape]

theorem extend_append (base : String) (front back : List String) :
    extend base (front ++ back) = extend (extend base front) back :=
  List.foldl_append

theorem split_written {part : List Char} (h : '/' ∉ part) (segments : List String) :
    Text.split '/' (part ++ segments.flatMap fun s => '/' :: escapeChars s.toList)
      = part :: segments.map fun s => escapeChars s.toList := by
  induction segments generalizing part with
  | nil => rw [List.flatMap_nil, List.append_nil, Text.split_of_not_mem h, List.map_nil]
  | cons s rest ih =>
      rw [List.flatMap_cons, List.cons_append, Text.split_append_cons h,
        ih (slash_not_mem_escapeChars _), List.map_cons]

/-- A pointer is read back as it was written. -/
theorem segments_extend {base : String} (h : '/' ∉ base.toList) (path : List String) :
    segments (extend base path) = path := by
  rw [segments, toList_extend, split_written h, List.tail_cons, List.map_map]
  refine List.map_id'' (fun s => ?_) path
  rw [Function.comp_apply, unescapeChars_escapeChars, String.ofList_toList]

end Pointer

-- ============================================================= following

namespace Json

/-- What stands at a location of a value: members go by their names, items by their
numbers in decimal digits. -/
def at? : Location → Json → Option Json
  | [], x => some x
  | name :: rest, object members => (Members.get? members name).bind (at? rest)
  | index :: rest, array items =>
    (items.zipIdx.find? fun e => toString e.2 == index).bind fun e => at? rest e.1
  | _, _ => none

theorem at?_append (front back : Location) (x : Json) :
    at? (front ++ back) x = (at? front x).bind (at? back) := by
  induction front generalizing x with
  | nil => rfl
  | cons s rest ih =>
      cases x with
      | object members =>
          rw [List.cons_append, at?, at?, Option.bind_assoc]
          exact congrArg _ (funext ih)
      | array items =>
          rw [List.cons_append, at?, at?, Option.bind_assoc]
          exact congrArg _ (funext fun e => ih e.1)
      | _ => rfl

/-- A number can be read back from its digits. -/
theorem eq_of_toString_eq {i j : Nat} (h : toString i = toString j) : i = j := by
  have hdigits : Nat.toDigits 10 i = Nat.toDigits 10 j := String.ofList_injective h
  rw [← Nat.ofDigitChars_toDigits (b := 10) (n := i) (by decide) (by decide), hdigits,
    Nat.ofDigitChars_toDigits (by decide) (by decide)]

/-- An item has one number, and a number is written in one way. -/
theorem find?_index_eq_some_iff {items : List Json} {index : String} {e : Json × Nat} :
    (items.zipIdx.find? fun e => toString e.2 == index) = some e ↔
      e ∈ items.zipIdx ∧ toString e.2 = index := by
  constructor
  · intro h
    exact ⟨List.mem_of_find?_eq_some h, by simpa using List.find?_some h⟩
  · rintro ⟨hmem, rfl⟩
    have hsome : (items.zipIdx.find? fun other => toString other.2 == toString e.2).isSome :=
      List.find?_isSome.mpr ⟨e, hmem, beq_self_eq_true _⟩
    obtain ⟨other, hother⟩ := Option.isSome_iff_exists.mp hsome
    have hplace : other.2 = e.2 := eq_of_toString_eq (by simpa using List.find?_some hother)
    have hat := List.mem_zipIdx_iff_getElem?.mp hmem
    rw [← hplace, List.mem_zipIdx_iff_getElem?.mp (List.mem_of_find?_eq_some hother)] at hat
    rw [hother, Prod.ext (Option.some.inj hat) hplace]

/-- An item is what stands at its number. -/
theorem at?_item {items : List Json} {e : Json × Nat} (h : e ∈ items.zipIdx)
    (rest : Location) : (array items).at? (toString e.2 :: rest) = e.1.at? rest := by
  rw [at?, find?_index_eq_some_iff.mpr ⟨h, rfl⟩]
  rfl

/-- A member is what stands under its name. -/
theorem at?_member {members : Members} {name : String} {x : Json}
    (h : members.get? name = some x) (rest : Location) :
    (object members).at? (name :: rest) = x.at? rest := by
  rw [at?, h]
  rfl

theorem Distinct.at? {x y : Json} {location : Location} (hx : x.Distinct)
    (h : x.at? location = some y) : y.Distinct := by
  induction location generalizing x with
  | nil =>
      cases h
      exact hx
  | cons s rest ih =>
      cases x with
      | object members =>
          obtain ⟨z, hget, hz⟩ := Option.bind_eq_some_iff.mp h
          exact ih (Members.Distinct.get? hx hget) hz
      | array items =>
          obtain ⟨e, hfind, he⟩ := Option.bind_eq_some_iff.mp h
          have hmem := List.fst_mem_of_mem_zipIdx (List.mem_of_find?_eq_some hfind)
          exact ih (distinct_array.mp hx e.1 hmem) he
      | _ => cases h

end Json

-- ======================================================== paths of issues

namespace Location

/-- The root, and the member of the root whose name is empty. -/
def IsSlash (location : Location) : Prop := location = [] ∨ location = [""]

theorem segments_text (location : Location) :
    Pointer.segments location.text = if location = [] then [""] else location := by
  cases location with
  | nil => rfl
  | cons s rest => exact Pointer.segments_extend List.not_mem_nil (s :: rest)

end Location

/-- Locations that are written alike are the same, or they are the root and its member
without a name. -/
theorem Location.text_eq_text_iff {l k : Location} :
    l.text = k.text ↔ l = k ∨ l.IsSlash ∧ k.IsSlash := by
  constructor
  · intro h
    have hsegments := congrArg Pointer.segments h
    rw [segments_text, segments_text] at hsegments
    unfold IsSlash
    split at hsegments <;> split at hsegments <;> simp_all
  · intro h
    rcases h with rfl | ⟨rfl | rfl, rfl | rfl⟩ <;> rfl

/-- The path of an issue identifies one location, but for the root and its member
without a name: different locations have different paths, and an issue that is found
at the path of a location is an issue of that location. -/
theorem path_eq_iff (reports : List (Location × IssueKind × String)) :
    (∀ l k kind kind' message message',
      (Issue.about l kind message).path = (Issue.about k kind' message').path ↔
        l = k ∨ l.IsSlash ∧ k.IsSlash) ∧
    ∀ l, (Failure.mk (reports.map fun r => .about r.1 r.2.1 r.2.2)).hasIssueAt l.text = true ↔
      ∃ r ∈ reports, r.1 = l ∨ r.1.IsSlash ∧ l.IsSlash := by
  refine ⟨fun l k _ _ _ _ => Location.text_eq_text_iff, fun l => ?_⟩
  simp only [Failure.hasIssueAt, List.any_map, List.any_eq_true, Function.comp_apply,
    beq_iff_eq, Issue.about, Location.text_eq_text_iff]

/-- An object with a count under the empty name. -/
def namelessCount : Json :=
  .object [("properties", .object [("", .object [("type", .string "integer")])])]

/-- An issue of the member without a name is found at the path of the root, where there
is none. -/
theorem issue_at_root_of_nameless : ([] : Location) ≠ [""] ∧
    (Issue.about [] .missing "").path = (Issue.about [""] .missing "").path ∧
    ∃ v failure, (compile namelessCount).result = .ok v ∧
      v.parse (.object [("", .string "x")]) = .error failure ∧
      failure.issues = [.wrongType "integer" (.string "x") [""]] ∧
      failure.hasIssueAt (Location.text []) = true :=
  ⟨by decide, rfl, _, _, rfl, rfl, rfl, rfl⟩

end Conformance
