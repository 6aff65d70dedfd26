/-
Escaped segments, and the definitions that references by them point at.

A segment is escaped in one pass over its characters and read back in one pass. The
texts that escaping yields are easy to tell: they hold no slash, and after every tilde
comes a zero or a one (`IsEscaped`). Between segments and these texts the two passes
are inverse to one another (`unescape_escape`, `escape_unescape`).

It is more usual to replace the tildes first and then the slashes, and to put them back
in the opposite order. Either order of work comes to the same. What the first replacement
puts in is no part of what the second looks for, and it takes no character away from it
(`unescapeChars_eq_replace`).

A reference names a definition by its last segment. Since an escaped name is a single
segment, and is read back as it was, every definition has references that find it, with
any text before the last slash (`references_find_definitions`).
-/
import Conformance.Proofs.Compiler.Sharing
import Conformance.Proofs.Json.Pointers
import Mathlib.Data.List.Infix

namespace Conformance

-- =========================================================== replacement

namespace Text

/-- The text with every occurrence of another replaced, from left to right. What is looked
for is given by its first character and the rest; what is put in is not looked at again. -/
def replace (first : Char) (more new : List Char) : List Char → List Char
  | [] => []
  | c :: rest =>
    if c = first ∧ more <+: rest then new ++ replace first more new (rest.drop more.length)
    else c :: replace first more new rest
termination_by cs => cs.length
decreasing_by all_goals simp only [List.length_drop, List.length_cons]; omega

variable {first c : Char} {more new cs rest : List Char}

/-- A character with which the part does not begin is passed over. -/
theorem replace_cons_of_ne (h : c ≠ first) :
    replace first more new (c :: rest) = c :: replace first more new rest := by
  rw [replace, if_neg fun hmatch => h hmatch.1]

/-- Where the part stands, the new one is put, and what has been put is not looked at
again. -/
theorem replace_found (rest : List Char) :
    replace first more new (first :: (more ++ rest)) = new ++ replace first more new rest := by
  rw [replace, if_pos ⟨rfl, List.prefix_append more rest⟩, List.drop_left]

/-- Where only its first character stands, that one is passed over as well. -/
theorem replace_cons_of_not_prefix (h : ¬ more <+: rest) :
    replace first more new (c :: rest) = c :: replace first more new rest := by
  rw [replace, if_neg fun hmatch => h hmatch.2]

/-- A text in which nothing is found stays as it is. -/
theorem replace_of_not_infix (h : ¬ (first :: more) <:+: cs) :
    replace first more new cs = cs := by
  induction cs with
  | nil => rw [replace]
  | cons c rest ih =>
      have hhere : ¬ (c = first ∧ more <+: rest) := by
        rintro ⟨rfl, hmore⟩
        exact h (List.IsPrefix.isInfix (List.cons_prefix_cons.mpr ⟨rfl, hmore⟩))
      have hrest : ¬ (first :: more) <:+: rest := fun hrest =>
        h (hrest.trans (List.suffix_cons c rest).isInfix)
      rw [replace, if_neg hhere, ih hrest]

/-- A single character is replaced wherever it stands. -/
theorem replace_char_eq_flatMap :
    replace first [] new cs = cs.flatMap fun c => if c = first then new else [c] := by
  induction cs with
  | nil => rw [replace]; rfl
  | cons c rest ih =>
      rw [List.flatMap_cons]
      by_cases h : c = first
      · subst h
        rw [if_pos rfl, ← ih]
        exact replace_found rest
      · rw [replace_cons_of_ne h, if_neg h, ih]
        rfl

end Text

-- ============================================================ escaped texts

namespace Pointer

/-- There is no slash in the text, and after every tilde comes a zero or a one. -/
def IsEscaped (cs : List Char) : Prop :=
  '/' ∉ cs ∧ ∀ front back, cs = front ++ '~' :: back → ['0'] <+: back ∨ ['1'] <+: back

variable {c : Char} {cs : List Char}

/-- The empty text is escaped. -/
theorem isEscaped_nil : IsEscaped [] := by
  refine ⟨List.not_mem_nil, fun front back h => ?_⟩
  simp at h

/-- Of the first character two things are asked, and the same of the others. In this form
inductions go along the text. -/
theorem isEscaped_cons_iff :
    IsEscaped (c :: cs) ↔
      c ≠ '/' ∧ (c = '~' → ['0'] <+: cs ∨ ['1'] <+: cs) ∧ IsEscaped cs := by
  constructor
  · intro h
    obtain ⟨hslash, htilde⟩ := h
    obtain ⟨hc, hcs⟩ := not_or.mp fun hmem => hslash (List.mem_cons.mpr hmem)
    refine ⟨Ne.symm hc, fun heq => htilde [] cs (by rw [heq]; rfl), hcs,
      fun front back hsplit => ?_⟩
    exact htilde (c :: front) back (by rw [hsplit]; rfl)
  · intro h
    obtain ⟨hc, hhead, hslash, htilde⟩ := h
    constructor
    · intro hmem
      rcases List.mem_cons.mp hmem with heq | hmem
      · exact hc heq.symm
      · exact hslash hmem
    · intro front back hsplit
      -- the tilde in question is the first character or a later one
      cases front with
      | nil =>
          obtain ⟨rfl, rfl⟩ := List.cons.inj hsplit
          exact hhead rfl
      | cons d front =>
          obtain ⟨-, hsplit⟩ := List.cons.inj hsplit
          exact htilde front back hsplit

/-- What escaping yields is escaped. -/
theorem isEscaped_escapeChars (cs : List Char) : IsEscaped (escapeChars cs) := by
  induction cs with
  | nil => exact isEscaped_nil
  | cons c rest ih =>
      rw [escapeChars, List.flatMap_cons, ← escapeChars]
      by_cases htilde : c = '~'
      · subst htilde
        refine isEscaped_cons_iff.mpr ⟨by decide, fun _ => .inl ⟨_, rfl⟩, ?_⟩
        exact isEscaped_cons_iff.mpr ⟨by decide, fun h => absurd h (by decide), ih⟩
      · by_cases hslash : c = '/'
        · subst hslash
          refine isEscaped_cons_iff.mpr ⟨by decide, fun _ => .inr ⟨_, rfl⟩, ?_⟩
          exact isEscaped_cons_iff.mpr ⟨by decide, fun h => absurd h (by decide), ih⟩
        · rw [escapeChar.eq_3 c htilde hslash, List.singleton_append]
          exact isEscaped_cons_iff.mpr ⟨hslash, fun h => absurd h htilde, ih⟩

/-- A tilde that starts no escape stands for itself. -/
theorem unescapeChars_tilde (hzero : ¬ ['0'] <+: cs) (hone : ¬ ['1'] <+: cs) :
    unescapeChars ('~' :: cs) = '~' :: unescapeChars cs := by
  rw [unescapeChars.eq_def]
  split
  · next h =>
    obtain ⟨-, rfl⟩ := List.cons.inj h
    exact absurd ⟨_, rfl⟩ hzero
  · next h =>
    obtain ⟨-, rfl⟩ := List.cons.inj h
    exact absurd ⟨_, rfl⟩ hone
  · next h =>
    obtain ⟨rfl, rfl⟩ := List.cons.inj h
    rfl
  · next h => cases h

/-- What is escaped comes from what it is read as. -/
theorem escapeChars_unescapeChars (h : IsEscaped cs) : escapeChars (unescapeChars cs) = cs := by
  induction cs using unescapeChars.induct with
  | case1 rest ih =>
      obtain ⟨-, -, h⟩ := isEscaped_cons_iff.mp h
      obtain ⟨-, -, h⟩ := isEscaped_cons_iff.mp h
      show '~' :: '0' :: escapeChars (unescapeChars rest) = _
      rw [ih h]
  | case2 rest ih =>
      obtain ⟨-, -, h⟩ := isEscaped_cons_iff.mp h
      obtain ⟨-, -, h⟩ := isEscaped_cons_iff.mp h
      show '~' :: '1' :: escapeChars (unescapeChars rest) = _
      rw [ih h]
  | case3 c rest hzero hone ih =>
      obtain ⟨hslash, htilde, hrest⟩ := isEscaped_cons_iff.mp h
      -- a tilde would begin an escape, and the first two cases have those
      have hc : c ≠ '~' := by
        intro heq
        rcases htilde heq with ⟨more, rfl⟩ | ⟨more, rfl⟩
        · exact hzero more heq rfl
        · exact hone more heq rfl
      rw [unescapeChars_cons_of_ne hc, escapeChars, List.flatMap_cons, ← escapeChars, ih hrest,
        escapeChar.eq_3 c hc hslash]
      rfl
  | case4 => rfl

-- ========================================================== in two passes

/-- Escaping as two replacements, of the tilde and then of the slash. Where there is neither,
nothing is done. -/
def escapeInPasses (cs : List Char) : List Char :=
  if '~' ∈ cs ∨ '/' ∈ cs then Text.replace '/' [] ['~', '1'] (Text.replace '~' [] ['~', '0'] cs)
  else cs

/-- Reading back as two replacements, of the slash's escape and then of the tilde's. Where
there is neither, nothing is done. -/
def unescapeInPasses (cs : List Char) : List Char :=
  if ['~', '0'] <:+: cs ∨ ['~', '1'] <:+: cs then
    Text.replace '~' ['0'] ['~'] (Text.replace '~' ['1'] ['/'] cs)
  else cs

/-- To escape character by character is to replace tildes first and slashes then. In this
order no tilde of an escape is replaced again. -/
theorem escapeChars_eq_replace (cs : List Char) :
    escapeChars cs = Text.replace '/' [] ['~', '1'] (Text.replace '~' [] ['~', '0'] cs) := by
  rw [Text.replace_char_eq_flatMap, Text.replace_char_eq_flatMap, List.flatMap_assoc, escapeChars]
  refine List.flatMap_congr fun c _ => ?_
  by_cases htilde : c = '~'
  · subst htilde
    rfl
  · by_cases hslash : c = '/'
    · subst hslash
      rfl
    · rw [escapeChar.eq_3 c htilde hslash, if_neg htilde, List.flatMap_singleton, if_neg hslash]

/-- Putting slashes back brings no zero to the front. -/
theorem zero_prefix_of_replace (h : ['0'] <+: Text.replace '~' ['1'] ['/'] cs) :
    ['0'] <+: cs := by
  cases cs with
  | nil => rwa [Text.replace] at h
  | cons c rest =>
      rw [Text.replace] at h
      split at h
      · obtain ⟨more, hmore⟩ := h
        cases hmore
      · obtain ⟨hc, -⟩ := List.cons_prefix_cons.mp h
        exact List.cons_prefix_cons.mpr ⟨hc, List.nil_prefix⟩

/-- To read back is to do it the other way round. A tilde that comes from an escape might
be taken for the beginning of another, and the order of the passes is what prevents it. -/
theorem unescapeChars_eq_replace (cs : List Char) :
    unescapeChars cs = Text.replace '~' ['0'] ['~'] (Text.replace '~' ['1'] ['/'] cs) := by
  induction cs using unescapeChars.induct with
  | case1 rest ih =>
      -- the first pass leaves the escape of a tilde alone, and the second reads it
      have hone : ¬ ['1'] <+: '0' :: rest := by simp
      have hzero : Text.replace '~' ['1'] ['/'] ('0' :: rest) = _ :=
        Text.replace_cons_of_ne (by decide)
      rw [Text.replace_cons_of_not_prefix hone, hzero, unescapeChars, ih]
      show _ = Text.replace '~' ['0'] ['~'] ('~' :: (['0'] ++ _))
      rw [Text.replace_found]
      rfl
  | case2 rest ih =>
      -- the first pass reads the escape of a slash, and the second leaves the slash alone
      have hfound : Text.replace '~' ['1'] ['/'] ('~' :: '1' :: rest) = _ := Text.replace_found rest
      rw [hfound, unescapeChars, ih]
      exact (Text.replace_cons_of_ne (by decide)).symm
  | case3 c rest hzero hone ih =>
      by_cases hc : c = '~'
      · subst hc
        -- a tilde that begins no escape stays, and the first pass does not put a zero
        -- behind it
        have hzero' : ¬ ['0'] <+: rest := by
          rintro ⟨more, hmore⟩
          exact hzero more rfl hmore.symm
        have hone' : ¬ ['1'] <+: rest := by
          rintro ⟨more, hmore⟩
          exact hone more rfl hmore.symm
        rw [unescapeChars_tilde hzero' hone', Text.replace_cons_of_not_prefix hone',
          Text.replace_cons_of_not_prefix (mt zero_prefix_of_replace hzero'), ih]
      · rw [unescapeChars_cons_of_ne hc, Text.replace_cons_of_ne hc, Text.replace_cons_of_ne hc, ih]
  | case4 => rw [unescapeChars, Text.replace, Text.replace]

theorem escapeChars_eq_escapeInPasses (cs : List Char) : escapeChars cs = escapeInPasses cs := by
  rw [escapeInPasses]
  split
  · exact escapeChars_eq_replace cs
  · next h =>
    obtain ⟨htilde, hslash⟩ := not_or.mp h
    have hnoTilde : ¬ ['~'] <:+: cs := fun hfound =>
      htilde (hfound.subset (List.mem_singleton_self _))
    have hnoSlash : ¬ ['/'] <:+: cs := fun hfound =>
      hslash (hfound.subset (List.mem_singleton_self _))
    rw [escapeChars_eq_replace, Text.replace_of_not_infix hnoTilde,
      Text.replace_of_not_infix hnoSlash]

theorem unescapeChars_eq_unescapeInPasses (cs : List Char) :
    unescapeChars cs = unescapeInPasses cs := by
  rw [unescapeInPasses]
  split
  · exact unescapeChars_eq_replace cs
  · next h =>
    obtain ⟨hzero, hone⟩ := not_or.mp h
    rw [unescapeChars_eq_replace, Text.replace_of_not_infix hone, Text.replace_of_not_infix hzero]

-- ================================================================ texts

/-- What has been shown of characters, for texts. -/
theorem toList_unescape (t : String) : (unescape t).toList = unescapeChars t.toList :=
  String.toList_ofList

theorem unescape_escape (s : String) : unescape (escape s) = s := by
  rw [unescape, toList_escape, unescapeChars_escapeChars, String.ofList_toList]

/-- A text that is escaped is the only one to be read as it is read. -/
theorem escape_unescape {t : String} (h : IsEscaped t.toList) : escape (unescape t) = t := by
  apply String.toList_injective
  rw [toList_escape, toList_unescape, escapeChars_unescapeChars h]

/-- Without a slash in it, the part behind the last slash is the last segment. -/
theorem lastSegment_append {part : List Char} (h : '/' ∉ part) (front : List Char) :
    lastSegment (front ++ '/' :: part) = part := by
  have hall : ∀ c ∈ part.reverse, decide (c ≠ '/') = true := by
    intro c hc
    refine decide_eq_true fun heq => h ?_
    rw [← heq]
    exact List.mem_reverse.mp hc
  rw [lastSegment, List.reverse_append, List.reverse_cons, List.append_assoc,
    List.takeWhile_append_of_pos hall]
  simp

end Pointer

-- ============================================================ references

namespace Definitions

/-- The reference to a name that is written behind some text: a slash, and the name
escaped. -/
def referenceTo (front name : String) : String := front ++ "/" ++ Pointer.escape name

variable {pool : Definitions} {front name : String}

/-- A reference to a name ends in the escaped name. -/
theorem toList_referenceTo (front name : String) :
    (referenceTo front name).toList = front.toList ++ '/' :: Pointer.escapeChars name.toList := by
  rw [referenceTo, String.toList_append, String.toList_append, Pointer.toList_escape,
    List.append_assoc]
  rfl

/-- The reference names what it was written for. -/
theorem targetName_referenceTo (front name : String) :
    targetName (referenceTo front name) = name := by
  rw [targetName, toList_referenceTo,
    Pointer.lastSegment_append (Pointer.slash_not_mem_escapeChars _),
    Pointer.unescapeChars_escapeChars, String.ofList_toList]

/-- So it resolves to whatever stands under the name. -/
theorem resolve?_referenceTo (pool : Definitions) (front name : String) :
    pool.resolve? (referenceTo front name) = pool.get? name := by
  rw [resolve?, targetName_referenceTo]

theorem isEmpty_referenceTo (front name : String) : (referenceTo front name).isEmpty = false := by
  rw [Bool.eq_false_iff, ne_eq, String.isEmpty_iff, ← String.toList_eq_nil_iff, toList_referenceTo]
  simp

end Definitions

/-- A schema that is nothing but a reference. -/
def referenceSchema (reference : String) : Json := .object [("$ref", .string reference)]

section

variable {pool : Definitions} {reference : String}

/-- A node of a reference alone declares nothing. -/
theorem inForce_reference (pool : Definitions) (reference : String) :
    pool.inForce [("$ref", .string reference)] = pool := by
  obtain ⟨members⟩ := pool
  cases members <;> rfl

/-- A reference that finds nothing, compiled afresh, is an error that names it. -/
theorem unfoldNode_reference {visited : VisitedPath} (hnonempty : reference.isEmpty = false)
    (hvisited : visited.contains reference = false) (hnone : pool.resolve? reference = none)
    (options : CompileOptions) :
    unfoldNode (referenceSchema reference) pool visited options
      = .error (.unresolvedReference reference (Definitions.targetName reference)) := by
  have hkind : SchemaKind.of [("$ref", .string reference)] = (.reference reference, []) := by
    show (if reference.isEmpty then _ else _) = _
    rw [hnonempty]
    rfl
  show Compiler.schema options _ _ [("$ref", .string reference)] _ = _
  rw [Compiler.schema, hkind]
  show Compiler.referenceAfresh options _ reference ⟨⟨pool.inForce _, 0⟩, visited, "#"⟩ = _
  rw [Compiler.referenceAfresh, inForce_reference, hvisited, hnone]
  rfl

/-- A reference that finds nothing is refused when it is compiled. -/
theorem compileNode_reference {visited : VisitedPath} (hnonempty : reference.isEmpty = false)
    (hvisited : visited.contains reference = false) (hnone : pool.resolve? reference = none)
    (options : CompileOptions) :
    (compileNode (referenceSchema reference) pool visited options).result
      = .error (.unresolvedReference reference (Definitions.targetName reference)) := by
  have hresult := result_compileNode (referenceSchema reference) pool visited options
  rw [unfoldNode_reference hnonempty hvisited hnone] at hresult
  cases hcompile : (compileNode (referenceSchema reference) pool visited options).result with
  | ok v =>
      rw [hcompile] at hresult
      cases hresult
  | error e =>
      rw [hcompile] at hresult
      cases hresult
      rfl

/-- A reference that finds nothing is refused when it was deferred. -/
theorem Deferred.compile_of_resolve?_eq_none {d : Deferred}
    (hnone : d.pool.resolve? d.reference = none) :
    d.compile.result
      = .error (.unresolvedReference d.reference (Definitions.targetName d.reference)) := by
  unfold Deferred.compile
  rw [hnone]

/-- Wherever the reference is followed in the pool, that it finds nothing is reported with
the name. -/
structure Definitions.Misses (pool : Definitions) (reference name : String) : Prop where
  compiled : ∀ (visited : VisitedPath) options, visited.contains reference = false →
    (compileNode (referenceSchema reference) pool visited options).result
      = .error (.unresolvedReference reference name)
  deferred : ∀ d : Deferred, d.pool = pool → d.reference = reference →
    d.compile.result = .error (.unresolvedReference reference name)

/-- Where there is no such definition, the name is reported. -/
theorem Definitions.misses_referenceTo {front name : String} (h : pool.get? name = none) :
    pool.Misses (referenceTo front name) name := by
  have hnone : pool.resolve? (referenceTo front name) = none := by
    rw [resolve?_referenceTo, h]
  have htarget := targetName_referenceTo front name
  constructor
  · intro visited options hvisited
    rw [compileNode_reference (isEmpty_referenceTo front name) hvisited hnone, htarget]
  · intro d hpool hreference
    rw [Deferred.compile_of_resolve?_eq_none (by rw [hpool, hreference, hnone]), hreference,
      htarget]

end

/-- Escaping and reading back are inverse to one another between all texts and those that
are escaped, and either comes to the same when it is done in two passes. So a reference to a
name finds the definition of that name, or is reported with it. -/
theorem references_find_definitions :
    (∀ s, Pointer.IsEscaped (Pointer.escape s).toList ∧ Pointer.unescape (Pointer.escape s) = s) ∧
    (∀ t, Pointer.IsEscaped t.toList → Pointer.escape (Pointer.unescape t) = t) ∧
    (∀ s, (Pointer.escape s).toList = Pointer.escapeInPasses s.toList ∧
      (Pointer.unescape s).toList = Pointer.unescapeInPasses s.toList) ∧
    ∀ (pool : Definitions) (front name : String),
      let reference := front ++ "/" ++ Pointer.escape name
      Definitions.targetName reference = name ∧ pool.resolve? reference = pool.get? name ∧
        (pool.get? name = none → pool.Misses reference name) := by
  refine ⟨fun s => ⟨?_, Pointer.unescape_escape s⟩, fun t => Pointer.escape_unescape,
    fun s => ⟨?_, ?_⟩, fun pool front name => ⟨?_, ?_, ?_⟩⟩
  · rw [Pointer.toList_escape]
    exact Pointer.isEscaped_escapeChars s.toList
  · rw [Pointer.toList_escape, Pointer.escapeChars_eq_escapeInPasses]
  · rw [Pointer.toList_unescape, Pointer.unescapeChars_eq_unescapeInPasses]
  · exact Definitions.targetName_referenceTo front name
  · exact Definitions.resolve?_referenceTo pool front name
  · exact Definitions.misses_referenceTo

/-- Definitions under names that look like escapes. -/
def tildeNames : Definitions := ⟨[("~01", .bool true), ("", .bool false)]⟩

/-- The name `~1` is escaped as `~01`. Read in the wrong order of passes it would be a
slash. -/
theorem references_find_definitions_tilde :
    Pointer.IsEscaped "~01~1".toList ∧ Pointer.escape (Pointer.unescape "~01~1") = "~01~1" ∧
    tildeNames.get? "~1" = none ∧
    (compileNode (referenceSchema "#/$defs/~01") tildeNames .empty {}).result
      = .error (.unresolvedReference "#/$defs/~01" "~1") := by
  have hescaped : Pointer.IsEscaped "~01~1".toList := Pointer.isEscaped_escapeChars ['~', '1', '/']
  obtain ⟨-, hinverse, -, hreference⟩ := references_find_definitions
  have hmisses := (hreference tildeNames "#/$defs" "~1").2.2 rfl
  exact ⟨hescaped, hinverse _ hescaped, rfl, hmisses.compiled .empty {} rfl⟩

end Conformance
