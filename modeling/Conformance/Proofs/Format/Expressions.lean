/-
The expressions for mail addresses and for unique identifiers.

Both formats are also known by a pattern. The pattern is read to an expression, which is put
together below part by part. What each part spells is what the grammar has in its place; the
repetitions of a part are where a text could be divided in more than one way, and there the
grammar asks for no more than that one such division exists. So a pattern occurs in just the
texts that its format accepts (`email_and_uuid_accept_their_grammars`).
-/
import Conformance.Proofs.Format.Grammar
import Conformance.Proofs.Pattern.Search
import Conformance.Proofs.Pattern.Spelling
import Conformance.Proofs.Unicode.CodeSet

namespace Conformance

open Ascii

-- ============================================================= characters

namespace CodeSet

/-- A set of one character. -/
theorem has_single {c d : Char} : (single d.toNat).has c = true ↔ c = d := by
  have hsingle : single d.toNat = ⟨#[d.toNat, d.toNat + 1]⟩ := if_pos (Nat.le_refl _)
  have hsorted : [d.toNat, d.toNat + 1].Pairwise (· < ·) :=
    List.pairwise_pair.mpr (Nat.lt_succ_self _)
  rw [hsingle, has_iff (s := ⟨#[d.toNat, d.toNat + 1]⟩) hsorted (Nat.mod_self 2), ← Char.toNat_inj]
  simp only [ranges, ranges.pair, Nat.add_sub_cancel, List.mem_singleton, exists_eq_left]
  omega

end CodeSet

namespace Expression

open CodeSet

/-- The expression of one character. -/
def char (c : Char) : Expression := .set (.single c.toNat)

/-- It spells the character and nothing else. -/
theorem spells_char {c : Char} {cs : List Char} : (char c).Spells cs ↔ cs = [c] := by
  simp [char, Spells, has_single]

/-- A separator in a sequence of parts is the first character of what they spell. -/
theorem spellAll_char_cons {c : Char} {rest : List Expression} {cs : List Char} :
    SpellAll (char c :: rest) cs ↔ ∃ back, SpellAll rest back ∧ cs = c :: back := by
  simp [SpellAll, spells_char]

/-- From the start of a text to its end, a pattern occurs just if what it was read to spells
the text. -/
theorem occursIn_anchored_iff {source : String} {parts : List Expression}
    (hread : Pattern.expression? source =
      .ok (.concat (.anchor .textStart :: (parts ++ [.anchor .textEnd]))))
    (hparts : allAnchorless parts = true) :
    ∃ pattern, Pattern.ofText source = .ok pattern ∧
      ∀ text, pattern.occursIn text = true ↔ SpellAll parts text.toList := by
  have hpattern : Pattern.ofText source =
      .ok ⟨source, Automaton.ofExpression (.concat (.anchor .textStart ::
        (parts ++ [.anchor .textEnd])))⟩ := by
    rw [Pattern.ofText, hread]
    rfl
  refine ⟨_, hpattern, fun text => ?_⟩
  rw [Pattern.occursIn_iff hpattern hread, occurs_anchored_iff hparts]

end Expression

-- ========================================================= mail addresses

namespace Email

open Expression

/-- The pattern of mail addresses. -/
def pattern : String :=
  "^[A-Za-z0-9_'+\\-]+(\\.[A-Za-z0-9_'+\\-]+)*@([A-Za-z0-9][A-Za-z0-9\\-]*\\.)+[A-Za-z]{2,}$"

-- sets by their boundaries, each first code followed by the first that is out again
def wordCodes : CodeSet := ⟨#[39, 40, 43, 44, 45, 46, 48, 58, 65, 91, 95, 96, 97, 123]⟩

def headCodes : CodeSet := ⟨#[48, 58, 65, 91, 97, 123]⟩

def labelCodes : CodeSet := ⟨#[45, 46, 48, 58, 65, 91, 97, 123]⟩

def letterCodes : CodeSet := ⟨#[65, 91, 97, 123]⟩

/-- The characters between two dots of the local part. -/
def word : Expression := .repeated (.set wordCodes) 1 none

/-- A label, with the dot behind it. -/
def label : Expression :=
  .concat [.set headCodes, .repeated (.set labelCodes) 0 none, char '.']

/-- What stands before the sign: a word, then more of them, each behind a dot. -/
def localParts : List Expression :=
  [word, .repeated (.group (.concat [char '.', word])) 0 none]

/-- What stands behind it: labels with their dots, then the letters of the last one. -/
def domainParts : List Expression :=
  [.repeated (.group label) 1 none, .repeated (.set letterCodes) 2 none]

/-- Both, with the sign between them. -/
def addressParts : List Expression := localParts ++ char '@' :: domainParts

set_option maxRecDepth 10000 in
/-- This is what the pattern is read to. The reader runs on the text of the pattern, so
the expression is not only meant to be the pattern's. -/
theorem pattern_read : Pattern.expression? pattern =
    .ok (.concat (.anchor .textStart :: (addressParts ++ [.anchor .textEnd]))) := by
  with_unfolding_all rfl

variable {c : Char} {cs : List Char}

/-- The first of the sets are the characters of a word. Both sides are bounds on the
code, and so are those of the other sets. -/
theorem has_wordCodes : wordCodes.has c = true ↔ WordChar c := by
  have hranges : wordCodes.ranges =
      [(39, 39), (43, 43), (45, 45), (48, 57), (65, 90), (95, 95), (97, 122)] := rfl
  rw [CodeSet.has_iff (by decide) (by decide), hranges, WordChar, isLetter_iff_toNat,
    isDigit_iff_toNat]
  simp only [List.mem_cons, List.not_mem_nil, or_false, exists_eq_or_imp, exists_eq_left,
    ← Char.toNat_inj, Char.reduceToNat]
  omega

theorem has_headCodes : headCodes.has c = true ↔ IsLetter c ∨ IsDigit c := by
  have hranges : headCodes.ranges = [(48, 57), (65, 90), (97, 122)] := rfl
  rw [CodeSet.has_iff (by decide) (by decide), hranges, isLetter_iff_toNat, isDigit_iff_toNat]
  simp only [List.mem_cons, List.not_mem_nil, or_false, exists_eq_or_imp, exists_eq_left]
  omega

theorem has_labelCodes : labelCodes.has c = true ↔ IsLetter c ∨ IsDigit c ∨ c = '-' := by
  have hranges : labelCodes.ranges = [(45, 45), (48, 57), (65, 90), (97, 122)] := rfl
  rw [CodeSet.has_iff (by decide) (by decide), hranges, isLetter_iff_toNat, isDigit_iff_toNat]
  simp only [List.mem_cons, List.not_mem_nil, or_false, exists_eq_or_imp, exists_eq_left,
    ← Char.toNat_inj, Char.reduceToNat]
  omega

theorem has_letterCodes : letterCodes.has c = true ↔ IsLetter c := by
  have hranges : letterCodes.ranges = [(65, 90), (97, 122)] := rfl
  rw [CodeSet.has_iff (by decide) (by decide), hranges, isLetter_iff_toNat]
  simp only [List.mem_cons, List.not_mem_nil, or_false, exists_eq_or_imp, exists_eq_left]

theorem spells_word : word.Spells cs ↔ Word cs := by
  rw [word, spells_repeated_set_none, Word, Nat.one_le_iff_ne_zero, Ne, List.length_eq_zero_iff]
  simp only [has_wordCodes]

/-- A label and its dot. The first character and the others are of different sets, so
the text is divided behind the first. -/
theorem spells_label : label.Spells cs ↔ ∃ name, Label name ∧ cs = name ++ ['.'] := by
  have hrest : ∀ {rest : List Char}, (Expression.repeated (.set labelCodes) 0 none).Spells rest ↔
      ∀ c ∈ rest, IsLetter c ∨ IsDigit c ∨ c = '-' := by
    intro rest
    rw [spells_repeated_set_none]
    simp only [has_labelCodes, Nat.zero_le, true_and]
  constructor
  · rintro ⟨_, _, ⟨first, hfirst, rfl⟩, ⟨rest, _, hall, hdot, rfl⟩, rfl⟩
    rw [spells_char.mp (spellAll_singleton.mp hdot)]
    exact ⟨first :: rest, ⟨first, rest, rfl, has_headCodes.mp hfirst, hrest.mp hall⟩, rfl⟩
  · rintro ⟨_, ⟨first, rest, rfl, hfirst, hall⟩, rfl⟩
    exact ⟨[first], rest ++ ['.'], ⟨first, has_headCodes.mpr hfirst, rfl⟩,
      ⟨rest, ['.'], hrest.mpr hall, spellAll_singleton.mpr (spells_char.mpr rfl), rfl⟩, rfl⟩

/-- The first word stands alone and each of the others with the dot before it, where the
grammar has words and puts dots between them. -/
theorem spellAll_localParts : SpellAll localParts cs ↔ LocalPart cs := by
  -- the part that is repeated, a dot and a word
  have hmore : ∀ cs, (Expression.group (.concat [char '.', word])).Spells cs ↔
      ∃ more, Word more ∧ cs = '.' :: more := by
    intro cs
    show SpellAll [char '.', word] cs ↔ _
    simp only [spellAll_char_cons, spellAll_singleton, spells_word]
  constructor
  · rintro ⟨first, back, hfirst, hback, rfl⟩
    obtain ⟨words, -, -, hwords, rfl⟩ :=
      (spells_repeated_iff hmore).mp (spellAll_singleton.mp hback)
    exact ⟨first :: words, List.cons_ne_nil _ _,
      List.forall_mem_cons.mpr ⟨spells_word.mp hfirst, hwords⟩,
      (Text.intercalate_cons first words).symm⟩
  · rintro ⟨words, hne, hwords, rfl⟩
    -- the grammar has at least one word, and that one has no dot before it
    cases words with
    | nil => exact absurd rfl hne
    | cons first words =>
        obtain ⟨hfirst, hwords⟩ := List.forall_mem_cons.mp hwords
        refine ⟨first, _, spells_word.mpr hfirst, spellAll_singleton.mpr ?_,
          Text.intercalate_cons first words⟩
        exact (spells_repeated_iff hmore).mpr ⟨words, Nat.zero_le _, nofun, hwords, rfl⟩

/-- Labels bring their dots with them here, and the grammar says it the same way. The
last part is the one that no dot follows. -/
theorem spellAll_domainParts : SpellAll domainParts cs ↔ Domain cs := by
  -- at least two letters, and as many more as there are
  have htop : ∀ {top : List Char}, (Expression.repeated (.set letterCodes) 2 none).Spells top ↔
      TopLevel top := by
    intro top
    rw [spells_repeated_set_none, TopLevel]
    simp only [has_letterCodes]
  have hlabel : ∀ cs, (Expression.group label).Spells cs ↔
      ∃ name, Label name ∧ cs = name ++ ['.'] := fun _ => spells_label
  constructor
  · rintro ⟨front, top, hfront, htop', rfl⟩
    obtain ⟨labels, hne, -, hlabels, rfl⟩ := (spells_repeated_iff hlabel).mp hfront
    exact ⟨labels, top, List.ne_nil_of_length_pos hne, hlabels,
      htop.mp (spellAll_singleton.mp htop'), rfl⟩
  · rintro ⟨labels, top, hne, hlabels, htop', rfl⟩
    refine ⟨_, top, (spells_repeated_iff hlabel).mpr ⟨labels, ?_, nofun, hlabels, rfl⟩,
      spellAll_singleton.mpr (htop.mpr htop'), rfl⟩
    exact List.length_pos_iff.mpr hne

/-- Together this is an address. -/
theorem spellAll_addressParts : SpellAll addressParts cs ↔ Address cs := by
  rw [addressParts, spellAll_append, Address]
  simp only [spellAll_localParts, spellAll_char_cons, spellAll_domainParts]
  constructor
  · rintro ⟨front, _, hfront, ⟨back, hback, rfl⟩, rfl⟩
    exact ⟨front, back, hfront, hback, rfl⟩
  · rintro ⟨front, back, hfront, hback, rfl⟩
    exact ⟨front, _, hfront, ⟨back, hback, rfl⟩, rfl⟩

end Email

-- ===================================================== unique identifiers

namespace Uuid

open Expression

/-- The pattern of unique identifiers. -/
def pattern : String :=
  "^[0-9a-fA-F]{8}-[0-9a-fA-F]{4}-[0-9a-fA-F]{4}-[0-9a-fA-F]{4}-[0-9a-fA-F]{12}$"

def digitCodes : CodeSet := ⟨#[48, 58, 65, 71, 97, 103]⟩

/-- A group of so many digits. -/
def group (count : Nat) : Expression := .repeated (.set digitCodes) count (some count)

/-- Groups of so many digits each, with hyphens between them. -/
def identifierParts (counts : List Nat) : List Expression :=
  (counts.map group).intersperse (char '-')

set_option maxRecDepth 10000 in
/-- The pattern is read to the five groups. -/
theorem pattern_read : Pattern.expression? pattern = .ok (.concat (.anchor .textStart ::
    (identifierParts groupLengths ++ [.anchor .textEnd]))) := by
  with_unfolding_all rfl

variable {cs : List Char}

theorem has_digitCodes {c : Char} : digitCodes.has c = true ↔ IsHexDigit c := by
  have hranges : digitCodes.ranges = [(48, 57), (65, 70), (97, 102)] := rfl
  rw [CodeSet.has_iff (by decide) (by decide), hranges, isHexDigit_iff_toNat]
  simp only [List.mem_cons, List.not_mem_nil, or_false, exists_eq_or_imp, exists_eq_left]

/-- A group spells the texts of so many digits. -/
theorem spells_group {count : Nat} :
    (group count).Spells cs ↔ cs.length = count ∧ ∀ c ∈ cs, IsHexDigit c := by
  rw [group, spells_repeated_set]
  simp only [has_digitCodes, Option.mem_def, Option.some.injEq, forall_eq', Nat.max_self]
  rw [← and_assoc, and_comm (a := count ≤ cs.length), Nat.le_antisymm_iff]

/-- What groups of given lengths spell, whatever the lengths are. Only the hyphen before
the next group makes the last group different, so lists of one length are a case of
their own. -/
theorem spellAll_identifierParts {counts : List Nat} :
    SpellAll (identifierParts counts) cs ↔ ∃ groups : List (List Char),
      groups.map List.length = counts ∧ (∀ group ∈ groups, ∀ c ∈ group, IsHexDigit c) ∧
        cs = List.intercalate ['-'] groups := by
  induction counts generalizing cs with
  | nil =>
      constructor
      · rintro rfl
        exact ⟨[], rfl, fun _ hgroup => absurd hgroup List.not_mem_nil, rfl⟩
      · rintro ⟨groups, hlengths, -, rfl⟩
        cases List.map_eq_nil_iff.mp hlengths
        rfl
  | cons count rest ih =>
      cases rest with
      | nil =>
          -- the last group, which no hyphen follows
          rw [show identifierParts [count] = [group count] from rfl, spellAll_singleton,
            spells_group]
          constructor
          · rintro ⟨rfl, hdigits⟩
            exact ⟨[cs], rfl, List.forall_mem_singleton.mpr hdigits,
              List.intercalate_singleton.symm⟩
          · rintro ⟨groups, hlengths, hdigits, rfl⟩
            obtain ⟨only, rfl, hlength⟩ := List.map_eq_singleton_iff.mp hlengths
            rw [List.intercalate_singleton]
            exact ⟨hlength, List.forall_mem_singleton.mp hdigits⟩
      | cons second rest =>
          -- a hyphen and at least one more group follow, so there is something to put
          -- it before
          have hparts : identifierParts (count :: second :: rest) =
              group count :: char '-' :: identifierParts (second :: rest) := rfl
          have hne : ∀ {groups : List (List Char)},
              groups.map List.length = second :: rest → groups ≠ [] := by
            rintro _ hlengths rfl
            cases hlengths
          rw [hparts]
          constructor
          · rintro ⟨first, _, hfirst, hmore, rfl⟩
            obtain ⟨back, hback, rfl⟩ := spellAll_char_cons.mp hmore
            obtain ⟨groups, hlengths, hdigits, rfl⟩ := ih.mp hback
            obtain ⟨hlength, hfirst⟩ := spells_group.mp hfirst
            refine ⟨first :: groups, ?_, List.forall_mem_cons.mpr ⟨hfirst, hdigits⟩, ?_⟩
            · rw [List.map_cons, hlength, hlengths]
            · rw [List.intercalate_cons_of_ne_nil (hne hlengths), List.append_assoc,
                List.singleton_append]
          · rintro ⟨groups, hlengths, hdigits, rfl⟩
            obtain ⟨first, groups, rfl, hlength, hlengths⟩ := List.map_eq_cons_iff.mp hlengths
            obtain ⟨hfirst, hdigits⟩ := List.forall_mem_cons.mp hdigits
            refine ⟨first, _, spells_group.mpr ⟨hlength, hfirst⟩,
              spellAll_char_cons.mpr ⟨_, ih.mpr ⟨groups, hlengths, hdigits, rfl⟩, rfl⟩, ?_⟩
            rw [List.intercalate_cons_of_ne_nil (hne hlengths), List.append_assoc,
              List.singleton_append]

end Uuid

-- ========================================================== both formats

/-- The mail addresses have the one format and the identifiers the other, and no other text
has it. No character outside visible ASCII is in such a text, neither at its ends nor within.
The pattern of each format occurs in just the texts that have it. -/
theorem email_and_uuid_accept_their_grammars (text : String) :
    (StringFormat.email.accepts text = true ↔ Email.Address text.toList) ∧
    (StringFormat.uuid.accepts text = true ↔ Uuid.Identifier text.toList) ∧
    (StringFormat.email.accepts text = true ∨ StringFormat.uuid.accepts text = true →
      ∀ c ∈ text.toList, IsVisible c) ∧
    (∃ pattern, Pattern.ofText Email.pattern = .ok pattern ∧
      pattern.occursIn text = StringFormat.email.accepts text) ∧
    (∃ pattern, Pattern.ofText Uuid.pattern = .ok pattern ∧
      pattern.occursIn text = StringFormat.uuid.accepts text) := by
  -- both formats are decided by what the grammars say
  have hemail : StringFormat.email.accepts text = true ↔ Email.Address text.toList :=
    Email.isValid_iff text
  have huuid : StringFormat.uuid.accepts text = true ↔ Uuid.Identifier text.toList :=
    Uuid.isValid_iff text
  refine ⟨hemail, huuid, ?_, ?_, ?_⟩
  · rintro (haccepts | haccepts)
    · exact (hemail.mp haccepts).isVisible
    · exact (huuid.mp haccepts).isVisible
  -- the patterns stand between anchors, so all of the text has to be spelt
  · obtain ⟨pattern, hpattern, hoccurs⟩ :=
      Expression.occursIn_anchored_iff Email.pattern_read rfl
    refine ⟨pattern, hpattern, ?_⟩
    rw [Bool.eq_iff_iff, hoccurs, Email.spellAll_addressParts, hemail]
  · obtain ⟨pattern, hpattern, hoccurs⟩ :=
      Expression.occursIn_anchored_iff Uuid.pattern_read rfl
    refine ⟨pattern, hpattern, ?_⟩
    rw [Bool.eq_iff_iff, hoccurs, Uuid.spellAll_identifierParts, huuid]
    rfl

end Conformance
