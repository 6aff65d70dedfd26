/-
The grammars of mail addresses and of unique identifiers.

Both formats are decided by splitting a text at a separator and looking at the parts. A text
is split into the parts that it was joined from, if none of them holds the separator
(`split_intercalate`). So it is enough that such parts exist, and the grammars below say what
they are, character by character. All characters are ASCII, and none is a blank.
-/
import Conformance.Format.Basic
import Conformance.Proofs.Json.Pointers
import Mathlib.Data.List.Basic

namespace Conformance

-- ============================================================ characters

namespace Ascii

/-- A letter of either case. There are no others in ASCII. -/
def IsLetter (c : Char) : Prop := ('A' ≤ c ∧ c ≤ 'Z') ∨ ('a' ≤ c ∧ c ≤ 'z')

/-- A decimal digit. -/
def IsDigit (c : Char) : Prop := '0' ≤ c ∧ c ≤ '9'

/-- A hexadecimal digit, in either case. -/
def IsHexDigit (c : Char) : Prop := IsDigit c ∨ ('A' ≤ c ∧ c ≤ 'F') ∨ ('a' ≤ c ∧ c ≤ 'f')

/-- The character is printed, and no blank. -/
def IsVisible (c : Char) : Prop := '!' ≤ c ∧ c ≤ '~'

variable {c : Char}

instance : Decidable (IsLetter c) := inferInstanceAs (Decidable (_ ∨ _))

instance : Decidable (IsDigit c) := inferInstanceAs (Decidable (_ ∧ _))

/-- The classes are bounds on the code of a character, which is what remains to be shown
of most of what follows. -/
theorem isLetter_iff_toNat :
    IsLetter c ↔ (65 ≤ c.toNat ∧ c.toNat ≤ 90) ∨ (97 ≤ c.toNat ∧ c.toNat ≤ 122) := Iff.rfl

theorem isDigit_iff_toNat : IsDigit c ↔ 48 ≤ c.toNat ∧ c.toNat ≤ 57 := Iff.rfl

theorem isHexDigit_iff_toNat :
    IsHexDigit c ↔ (48 ≤ c.toNat ∧ c.toNat ≤ 57) ∨ (65 ≤ c.toNat ∧ c.toNat ≤ 70) ∨
      (97 ≤ c.toNat ∧ c.toNat ≤ 102) := Iff.rfl

theorem isVisible_iff_toNat : IsVisible c ↔ 33 ≤ c.toNat ∧ c.toNat ≤ 126 := Iff.rfl

/-- Neither letters nor digits are spaces or controls. -/
theorem IsLetter.isVisible (h : IsLetter c) : IsVisible c := by
  rw [isLetter_iff_toNat] at h
  rw [isVisible_iff_toNat]
  omega

theorem IsDigit.isVisible (h : IsDigit c) : IsVisible c := by
  rw [isDigit_iff_toNat] at h
  rw [isVisible_iff_toNat]
  omega

theorem IsHexDigit.isLetter_or_isDigit (h : IsHexDigit c) : IsLetter c ∨ IsDigit c := by
  rw [isHexDigit_iff_toNat] at h
  rw [isLetter_iff_toNat, isDigit_iff_toNat]
  omega

/-- The classes are those that the two formats test for. -/
theorem isAlpha_iff : c.isAlpha = true ↔ IsLetter c := by
  show (decide ('A'.val ≤ c.val ∧ c.val ≤ 'Z'.val) ||
    (decide ('a'.val ≤ c.val) && decide (c.val ≤ 'z'.val))) = true ↔ _
  simp only [Bool.or_eq_true, Bool.and_eq_true, decide_eq_true_eq]
  exact Iff.rfl

theorem isDigit_iff : c.isDigit = true ↔ IsDigit c := Char.isDigit_iff_toNat

theorem isAlphanum_iff : c.isAlphanum = true ↔ IsLetter c ∨ IsDigit c := by
  rw [Char.isAlphanum, Bool.or_eq_true, isAlpha_iff, isDigit_iff]

theorem isHexDigit_iff : Text.isHexDigit c = true ↔ IsHexDigit c := by
  unfold Text.isHexDigit Text.hexDigit? IsHexDigit IsDigit
  split
  · next h => simp [h]
  · next hdigit =>
    split
    · next h => simp [h]
    · next hsmall =>
      split
      · next h => simp [h]
      · next hcapital => simp [hdigit, hsmall, hcapital]

end Ascii

open Ascii

-- ============================================================== joining

namespace Text

variable {separator : Char}

/-- What is joined from parts that do not hold the separator is split into them. -/
theorem split_intercalate {parts : List (List Char)} (hne : parts ≠ [])
    (h : ∀ part ∈ parts, separator ∉ part) :
    split separator (List.intercalate [separator] parts) = parts := by
  induction parts with
  | nil => exact absurd rfl hne
  | cons part rest ih =>
      obtain ⟨hpart, hrest⟩ := List.forall_mem_cons.mp h
      cases rest with
      | nil => rw [List.intercalate_singleton, split_of_not_mem hpart]
      | cons second rest =>
          rw [List.intercalate_cons_cons, List.append_assoc, List.singleton_append,
            split_append_cons hpart, ih (List.cons_ne_nil _ _) hrest]

/-- Parts that are joined, with one more before them: each follows a separator. -/
theorem intercalate_cons (first : List Char) (parts : List (List Char)) :
    List.intercalate [separator] (first :: parts)
      = first ++ parts.flatMap (separator :: ·) := by
  induction parts generalizing first with
  | nil => rw [List.intercalate_singleton, List.flatMap_nil, List.append_nil]
  | cons part rest ih =>
      rw [List.intercalate_cons_cons, ih, List.flatMap_cons, List.append_assoc,
        List.singleton_append, List.cons_append]

/-- Parts that are joined, with one more behind them: each is followed by a separator. -/
theorem intercalate_concat (parts : List (List Char)) (last : List Char) :
    List.intercalate [separator] (parts ++ [last])
      = parts.flatMap (· ++ [separator]) ++ last := by
  induction parts with
  | nil => exact List.intercalate_singleton
  | cons part rest ih =>
      have hne : rest ++ [last] ≠ [] := by simp
      rw [List.cons_append, List.intercalate_cons_of_ne_nil hne, ih, List.flatMap_cons,
        List.append_assoc (part ++ [separator])]

/-- A property of the separator and of the characters of all parts is one of the joined text. -/
theorem forall_mem_intercalate {holds : Char → Prop} (hseparator : holds separator)
    {parts : List (List Char)} (h : ∀ part ∈ parts, ∀ c ∈ part, holds c) :
    ∀ c ∈ List.intercalate [separator] parts, holds c := by
  induction parts with
  | nil => exact fun c hc => absurd hc List.not_mem_nil
  | cons part rest ih =>
      obtain ⟨hpart, hrest⟩ := List.forall_mem_cons.mp h
      cases rest with
      | nil => rwa [List.intercalate_singleton]
      | cons second rest =>
          rw [List.intercalate_cons_cons]
          exact List.forall_mem_append.mpr ⟨List.forall_mem_append.mpr
            ⟨hpart, List.forall_mem_singleton.mpr hseparator⟩, ih hrest⟩

end Text

-- ========================================================= mail addresses

namespace Email

/-- A character of the local part between its dots. -/
def WordChar (c : Char) : Prop := IsLetter c ∨ IsDigit c ∨ c ∈ ['_', '\'', '+', '-']

/-- A run of the local part. -/
def Word (cs : List Char) : Prop := cs ≠ [] ∧ ∀ c ∈ cs, WordChar c

/-- A label of the domain. -/
def Label (cs : List Char) : Prop :=
  ∃ first rest, cs = first :: rest ∧ (IsLetter first ∨ IsDigit first) ∧
    ∀ c ∈ rest, IsLetter c ∨ IsDigit c ∨ c = '-'

/-- The last label of a domain: two letters at least, and nothing but letters. -/
def TopLevel (cs : List Char) : Prop := 2 ≤ cs.length ∧ ∀ c ∈ cs, IsLetter c

/-- Runs joined by single dots. -/
def LocalPart (cs : List Char) : Prop :=
  ∃ words, words ≠ [] ∧ (∀ word ∈ words, Word word) ∧ cs = List.intercalate ['.'] words

/-- One label or more, each with a dot behind it, and a top-level domain. -/
def Domain (cs : List Char) : Prop :=
  ∃ labels top, labels ≠ [] ∧ (∀ label ∈ labels, Label label) ∧ TopLevel top ∧
    cs = labels.flatMap (· ++ ['.']) ++ top

/-- A mail address. -/
def Address (cs : List Char) : Prop :=
  ∃ front back, LocalPart front ∧ Domain back ∧ cs = front ++ '@' :: back

variable {cs : List Char}

/-- Character by character and part by part, the test is the grammar. -/
theorem isWordChar_iff {c : Char} : isWordChar c = true ↔ WordChar c := by
  unfold isWordChar WordChar
  simp only [Bool.or_eq_true, isAlphanum_iff, beq_iff_eq, List.mem_cons, List.not_mem_nil,
    or_false, or_assoc]

theorem isWord_iff : isWord cs = true ↔ Word cs := by
  unfold isWord Word
  rw [Bool.and_eq_true, List.all_eq_true]
  simp only [isWordChar_iff]
  cases cs <;> simp

/-- A label is tested by its first character and the others. -/
theorem isLabel_iff : isLabel cs = true ↔ Label cs := by
  unfold Label
  cases cs with
  | nil => simp [isLabel]
  | cons first rest =>
      rw [isLabel, Bool.and_eq_true, isAlphanum_iff, List.all_eq_true]
      simp only [Bool.or_eq_true, isAlphanum_iff, beq_iff_eq, or_assoc]
      constructor
      · rintro ⟨hfirst, hrest⟩
        exact ⟨first, rest, rfl, hfirst, hrest⟩
      · rintro ⟨_, _, heq, hfirst, hrest⟩
        cases heq
        exact ⟨hfirst, hrest⟩

theorem isTopLevel_iff : isTopLevel cs = true ↔ TopLevel cs := by
  unfold isTopLevel TopLevel
  rw [Bool.and_eq_true, decide_eq_true_eq, List.all_eq_true]
  simp only [isAlpha_iff]

instance {c : Char} : Decidable (WordChar c) := inferInstanceAs (Decidable (_ ∨ _))

/-- No character of a word is outside visible ASCII. -/
theorem WordChar.isVisible {c : Char} (h : WordChar c) : IsVisible c := by
  rcases h with hletter | hdigit | hother
  · exact hletter.isVisible
  · exact hdigit.isVisible
  · simp only [List.mem_cons, List.not_mem_nil, or_false] at hother
    rcases hother with rfl | rfl | rfl | rfl
    all_goals exact ⟨by decide, by decide⟩

/-- The characters of a label are among those of a word. -/
theorem Label.wordChar (h : Label cs) : ∀ c ∈ cs, WordChar c := by
  obtain ⟨first, rest, rfl, hfirst, hrest⟩ := h
  refine List.forall_mem_cons.mpr ⟨hfirst.imp_right .inl, fun c hc => ?_⟩
  rcases hrest c hc with hletter | hdigit | rfl
  · exact .inl hletter
  · exact .inr (.inl hdigit)
  · decide

/-- Those of the last label are too, being letters. -/
theorem TopLevel.wordChar (h : TopLevel cs) : ∀ c ∈ cs, WordChar c := fun c hc => .inl (h.2 c hc)

/-- What is made of characters of words does not hold a dot. -/
theorem dot_not_mem (h : ∀ c ∈ cs, WordChar c) : '.' ∉ cs :=
  fun hmem => absurd (h _ hmem) (by decide)

-- ============================================================== the parts

/-- The local part is divided at its dots. No word has one, so this is the only division. -/
theorem isLocalPart_iff : isLocalPart cs = true ↔ LocalPart cs := by
  unfold isLocalPart LocalPart
  simp only [List.all_eq_true, isWord_iff]
  constructor
  · intro h
    exact ⟨_, Text.split_ne_nil _ _, h, (Text.intercalate_split _ _).symm⟩
  · rintro ⟨words, hne, hwords, rfl⟩
    rwa [Text.split_intercalate hne fun word hword => dot_not_mem (hwords word hword).2]

/-- The domain is divided at its dots too, and its last part is tested otherwise than the
others. So the parts are looked at from the end. -/
theorem isDomain_iff : isDomain cs = true ↔ Domain cs := by
  unfold isDomain Domain
  constructor
  · intro h
    split at h
    -- the parts have been reversed, so the last comes first
    · next top labels hsplit =>
      simp only [Bool.and_eq_true, Bool.not_eq_true', List.isEmpty_eq_false_iff,
        List.all_eq_true, isLabel_iff, isTopLevel_iff] at h
      obtain ⟨⟨htop, hne⟩, hlabels⟩ := h
      refine ⟨labels.reverse, top, by simpa using hne, by simpa using hlabels, htop, ?_⟩
      rw [← Text.intercalate_concat, ← List.reverse_eq_cons_iff.mp hsplit,
        Text.intercalate_split]
    · cases h
  · rintro ⟨labels, top, hne, hlabels, htop, rfl⟩
    -- no part has a dot, so the text is divided into just these
    have hdot : ∀ part ∈ labels ++ [top], '.' ∉ part := List.forall_mem_append.mpr
      ⟨fun label hlabel => dot_not_mem (hlabels label hlabel).wordChar,
        List.forall_mem_singleton.mpr (dot_not_mem htop.wordChar)⟩
    rw [← Text.intercalate_concat, Text.split_intercalate (by simp) hdot,
      List.reverse_append, List.reverse_singleton, List.singleton_append]
    simp only [Bool.and_eq_true, Bool.not_eq_true', List.isEmpty_eq_false_iff,
      List.all_eq_true, isLabel_iff, isTopLevel_iff]
    exact ⟨⟨htop, by simpa using hne⟩, by simpa using hlabels⟩

/-- Neither side of an address has the sign in it, since all of their characters are
known. -/
theorem LocalPart.wordChar_or_dot (h : LocalPart cs) : ∀ c ∈ cs, WordChar c ∨ c = '.' := by
  obtain ⟨words, -, hwords, rfl⟩ := h
  exact Text.forall_mem_intercalate (.inr rfl) fun word hword c hc =>
    .inl ((hwords word hword).2 c hc)

theorem Domain.wordChar_or_dot (h : Domain cs) : ∀ c ∈ cs, WordChar c ∨ c = '.' := by
  obtain ⟨labels, top, -, hlabels, htop, rfl⟩ := h
  rw [← Text.intercalate_concat]
  refine Text.forall_mem_intercalate (.inr rfl) (List.forall_mem_append.mpr ⟨?_, ?_⟩)
  · exact fun label hlabel c hc => .inl ((hlabels label hlabel).wordChar c hc)
  · exact List.forall_mem_singleton.mpr fun c hc => .inl (htop.wordChar c hc)

/-- Neither part of an address holds an at sign. -/
theorem at_not_mem (h : ∀ c ∈ cs, WordChar c ∨ c = '.') : '@' ∉ cs :=
  fun hmem => absurd (h _ hmem) (by decide)

/-- The texts that have the format are the mail addresses. -/
theorem isValid_iff (text : String) : isValid text = true ↔ Address text.toList := by
  unfold isValid Address
  simp only [← isLocalPart_iff, ← isDomain_iff]
  constructor
  · intro h
    split at h
    · next front back hsplit =>
      obtain ⟨hfront, hback⟩ := Bool.and_eq_true_iff.mp h
      refine ⟨front, back, hfront, hback, ?_⟩
      rw [← Text.intercalate_split '@' text.toList, hsplit, List.intercalate_cons_cons,
        List.intercalate_singleton, List.append_assoc, List.singleton_append]
    · cases h
  · rintro ⟨front, back, hfront, hback, htext⟩
    have hat : '@' ∉ front := at_not_mem (isLocalPart_iff.mp hfront).wordChar_or_dot
    have hat' : '@' ∉ back := at_not_mem (isDomain_iff.mp hback).wordChar_or_dot
    rw [htext, Text.split_append_cons hat, Text.split_of_not_mem hat']
    exact Bool.and_eq_true_iff.mpr ⟨hfront, hback⟩

/-- An address has no character outside visible ASCII. -/
theorem Address.isVisible (h : Address cs) : ∀ c ∈ cs, IsVisible c := by
  have hpart : ∀ c, WordChar c ∨ c = '.' → IsVisible c := by
    rintro c (hword | rfl)
    · exact hword.isVisible
    · exact ⟨by decide, by decide⟩
  obtain ⟨front, back, hfront, hback, rfl⟩ := h
  refine List.forall_mem_append.mpr ⟨?_, List.forall_mem_cons.mpr ⟨⟨by decide, by decide⟩, ?_⟩⟩
  · exact fun c hc => hpart c (hfront.wordChar_or_dot c hc)
  · exact fun c hc => hpart c (hback.wordChar_or_dot c hc)

end Email

-- ==================================================== unique identifiers

namespace Uuid

/-- An identifier: groups of hexadecimal digits, joined by single hyphens. -/
def Identifier (cs : List Char) : Prop :=
  ∃ groups : List (List Char), groups.map List.length = [8, 4, 4, 4, 12] ∧
    (∀ group ∈ groups, ∀ c ∈ group, IsHexDigit c) ∧ cs = List.intercalate ['-'] groups

variable {cs : List Char}

/-- No group has a hyphen, so a text is divided at its hyphens in one way. -/
theorem hyphen_not_mem (h : ∀ c ∈ cs, IsHexDigit c) : '-' ∉ cs :=
  fun hmem => absurd (h _ hmem).isLetter_or_isDigit (by decide)

/-- The texts that have the format are the identifiers. -/
theorem isValid_iff (text : String) : isValid text = true ↔ Identifier text.toList := by
  unfold isValid Identifier
  simp only [Bool.and_eq_true, beq_iff_eq, List.all_eq_true, isHexDigit_iff]
  constructor
  · rintro ⟨hlengths, hdigits⟩
    exact ⟨_, hlengths, hdigits, (Text.intercalate_split _ _).symm⟩
  · rintro ⟨groups, hlengths, hdigits, htext⟩
    have hne : groups ≠ [] := by
      rintro rfl
      cases hlengths
    rw [htext, Text.split_intercalate hne fun group hgroup => hyphen_not_mem (hdigits group hgroup)]
    exact ⟨hlengths, hdigits⟩

/-- Digits and hyphens are visible. -/
theorem Identifier.isVisible (h : Identifier cs) : ∀ c ∈ cs, IsVisible c := by
  obtain ⟨groups, -, hdigits, rfl⟩ := h
  refine Text.forall_mem_intercalate ⟨by decide, by decide⟩ fun group hgroup c hc => ?_
  rcases (hdigits group hgroup c hc).isLetter_or_isDigit with hletter | hdigit
  · exact hletter.isVisible
  · exact hdigit.isVisible

end Uuid

end Conformance
