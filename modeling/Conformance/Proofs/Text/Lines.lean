/-
Texts on lines.

A text that is put together from others ends a line where one of them does. What a message
is put together from is for the most part written so that it cannot: numbers are digits with
a few signs among them, and of what is quoted the line ends are written as letters. Names
are not quoted. They are shown as they are, so it takes a name with a line end in it to
break a message (`BrokenOnlyBy`).

Texts of which none ends a line can be printed one after the other, each with a line feed
after it. Then what is printed consists of them and of nothing else, for there is only one
way to tell the lines of a text (`Consists.unique`).
-/
import Conformance.Json.Writer
import Conformance.Proofs.Json.Names
import Conformance.Proofs.Json.Pointers
import Conformance.Text.Quoted

namespace Conformance

namespace Text

-- ============================================================ line ends

/-- The character ends a line, or takes it back to its start. -/
def EndsLine (c : Char) : Prop := c = '\n' ∨ c = '\r'

instance (c : Char) : Decidable (EndsLine c) := inferInstanceAs (Decidable (_ ∨ _))

/-- None of the characters ends a line. -/
def keepsLine (cs : List Char) : Bool := cs.all fun c => !decide (EndsLine c)

/-- No character of the text ends a line. -/
def isUnbroken (s : String) : Bool := keepsLine s.toList

/-- What can be decided of given characters, in the form in which it is put together. -/
theorem not_endsLine_of_keepsLine {cs : List Char} (h : keepsLine cs = true) :
    ∀ c ∈ cs, ¬ EndsLine c := by
  intro c hc
  have hline := List.all_eq_true.mp h c hc
  rwa [Bool.not_eq_true', decide_eq_false_iff_not] at hline

/-- The text ends a line only where one of the names does. -/
def BrokenOnlyBy (names : String → Prop) (s : String) : Prop :=
  ∀ c ∈ s.toList, EndsLine c → ∃ name, names name ∧ c ∈ name.toList

section

variable {names : String → Prop} {s t : String}

/-- A name may stand in a text as it is. -/
theorem BrokenOnlyBy.of_name (h : names s) : BrokenOnlyBy names s := fun _ hc _ => ⟨s, h, hc⟩

/-- A text of one line is broken by nothing. -/
theorem brokenOnlyBy_of_forall (h : ∀ c ∈ s.toList, ¬ EndsLine c) : BrokenOnlyBy names s :=
  fun c hc hends => absurd hends (h c hc)

/-- For given words this is decided. -/
theorem brokenOnlyBy_of_isUnbroken (h : isUnbroken s = true) : BrokenOnlyBy names s :=
  brokenOnlyBy_of_forall (not_endsLine_of_keepsLine h)

/-- Of the characters only those count that end a line, so a part of a text will do, in
whatever order. -/
theorem BrokenOnlyBy.subset (h : BrokenOnlyBy names s) (ht : t.toList ⊆ s.toList) :
    BrokenOnlyBy names t :=
  fun c hc => h c (ht hc)

/-- Two such texts may stand behind each other. -/
theorem BrokenOnlyBy.append (hs : BrokenOnlyBy names s) (ht : BrokenOnlyBy names t) :
    BrokenOnlyBy names (s ++ t) := by
  intro c hc
  rw [String.toList_append] at hc
  rcases List.mem_append.mp hc with hc | hc
  · exact hs c hc
  · exact ht c hc

/-- What stands around it does not break a text. -/
theorem BrokenOnlyBy.between (h : BrokenOnlyBy names s) {opening closing : String}
    (hopening : isUnbroken opening = true) (hclosing : isUnbroken closing = true) :
    BrokenOnlyBy names (opening ++ s ++ closing) :=
  ((brokenOnlyBy_of_isUnbroken hopening).append h).append (brokenOnlyBy_of_isUnbroken hclosing)

/-- Parts may be put together by a separator, as the items of a value are. -/
theorem BrokenOnlyBy.intercalate (hs : BrokenOnlyBy names s) {parts : List String}
    (h : ∀ part ∈ parts, BrokenOnlyBy names part) : BrokenOnlyBy names (s.intercalate parts) := by
  induction parts with
  | nil =>
      rw [String.intercalate_nil]
      exact brokenOnlyBy_of_isUnbroken (by decide)
  | cons part rest ih =>
      obtain ⟨hpart, hrest⟩ := List.forall_mem_cons.mp h
      by_cases hnil : rest = []
      · subst hnil
        rwa [String.intercalate_singleton]
      · rw [String.intercalate_cons_of_ne_nil hnil]
        exact (hpart.append hs).append (ih hrest)

/-- Where no name ends a line, neither does the text. -/
theorem BrokenOnlyBy.not_mem (h : BrokenOnlyBy names s)
    (hnames : ∀ name, names name → '\n' ∉ name.toList) : '\n' ∉ s.toList := by
  intro hmem
  obtain ⟨name, hname, hbreak⟩ := h _ hmem (.inl rfl)
  exact hnames name hname hbreak

end

-- ============================================================== numbers

section

variable {names : String → Prop}

/-- No digit ends a line, in any base. -/
theorem not_endsLine_digitChar (n : Nat) : ¬ EndsLine n.digitChar := by
  rintro (h | h)
  · exact Nat.digitChar_ne '\n' (by decide) h
  · exact Nat.digitChar_ne '\r' (by decide) h

/-- A natural number is written in digits only. -/
theorem not_endsLine_of_mem_toDigits {base : Nat} (hbase : 1 < base) (n : Nat) :
    ∀ c ∈ Nat.toDigits base n, ¬ EndsLine c := by
  induction n using Nat.strongRecOn with
  | _ n ih =>
      intro c hc
      rw [Nat.toDigits_eq_if hbase] at hc
      split at hc
      · rw [List.mem_singleton.mp hc]
        exact not_endsLine_digitChar n
      · next hle =>
        rcases List.mem_append.mp hc with hc | hc
        · have hlt : n / base < n := Nat.div_lt_self (by omega) hbase
          exact ih (n / base) hlt c hc
        · rw [List.mem_singleton.mp hc]
          exact not_endsLine_digitChar _

theorem brokenOnlyBy_toString (n : Nat) : BrokenOnlyBy names (toString n) := by
  rw [Nat.toString_eq_ofList_toDigits]
  refine brokenOnlyBy_of_forall ?_
  rw [String.toList_ofList]
  exact not_endsLine_of_mem_toDigits (by decide) n

/-- An integer has a sign before them. -/
theorem brokenOnlyBy_toString_int (n : Int) : BrokenOnlyBy names (toString n) := by
  cases n with
  | ofNat n => exact brokenOnlyBy_toString n
  | negSucc n =>
      exact (brokenOnlyBy_of_isUnbroken (by decide)).append (brokenOnlyBy_toString (n + 1))

theorem brokenOnlyBy_zeros (n : Nat) : BrokenOnlyBy names (RealLayout.zeros n) := by
  rw [RealLayout.zeros, String.pushn_eq_repeat_push]
  induction n with
  | zero => exact brokenOnlyBy_of_isUnbroken (by decide)
  | succ n ih =>
      rw [Nat.repeat, ← String.append_singleton]
      exact ih.append (brokenOnlyBy_of_isUnbroken (by decide))

/-- The digits of a real are cut where the point is put. -/
theorem BrokenOnlyBy.take {s : String} (h : BrokenOnlyBy names s) (n : Nat) :
    BrokenOnlyBy names (s.take n).toString := by
  refine h.subset ?_
  show (s.take n).copy.toList ⊆ _
  rw [String.toList_copy_take]
  exact List.take_subset n _

theorem BrokenOnlyBy.drop {s : String} (h : BrokenOnlyBy names s) (n : Nat) :
    BrokenOnlyBy names (s.drop n).toString := by
  refine h.subset ?_
  show (s.drop n).copy.toList ⊆ _
  rw [String.toList_copy_drop]
  exact List.drop_subset n _

/-- A real may be laid out as digits and zeros with a point among them. -/
theorem brokenOnlyBy_plain {digits : String} (h : BrokenOnlyBy names digits) (exponent : Int) :
    BrokenOnlyBy names (RealLayout.plain digits exponent) := by
  unfold RealLayout.plain
  dsimp only
  split
  · exact (h.append (brokenOnlyBy_zeros _)).append (brokenOnlyBy_of_isUnbroken (by decide))
  · split
    · exact ((h.take _).append (brokenOnlyBy_of_isUnbroken (by decide))).append (h.drop _)
    · exact ((brokenOnlyBy_of_isUnbroken (by decide)).append (brokenOnlyBy_zeros _)).append h

/-- It may also be laid out with an exponent behind the digits. -/
theorem brokenOnlyBy_scientific {digits : String} (h : BrokenOnlyBy names digits) (first : Int) :
    BrokenOnlyBy names (RealLayout.scientific digits first) := by
  unfold RealLayout.scientific
  dsimp only
  have htail : BrokenOnlyBy names
      (if (digits.drop 1).toString.isEmpty then "" else "." ++ (digits.drop 1).toString) := by
    split
    · exact brokenOnlyBy_of_isUnbroken (by decide)
    · exact (brokenOnlyBy_of_isUnbroken (by decide)).append (h.drop 1)
  have hmark : BrokenOnlyBy names (if first < 0 then "e-" else "e+") := by
    split <;> exact brokenOnlyBy_of_isUnbroken (by decide)
  exact (((h.take 1).append htail).append hmark).append (brokenOnlyBy_toString _)

/-- In either layout, and also where the number is written by a word. -/
theorem brokenOnlyBy_real (layout : RealLayout) (x : Binary64) :
    BrokenOnlyBy names (layout.text x) := by
  unfold RealLayout.text
  dsimp only
  have hsign : BrokenOnlyBy names (if x.negative then "-" else "") := by
    split <;> exact brokenOnlyBy_of_isUnbroken (by decide)
  refine hsign.append ?_
  split
  · exact brokenOnlyBy_plain (brokenOnlyBy_toString _) _
  · exact brokenOnlyBy_scientific (brokenOnlyBy_toString _) _

/-- So a number of any kind stands on one line. -/
theorem brokenOnlyBy_number (n : Number) : BrokenOnlyBy names n.text := by
  cases n with
  | whole n => exact brokenOnlyBy_toString_int n
  | real x => exact brokenOnlyBy_real RealLayout.json x

-- =============================================================== quotes

/-- Between quotes a line end is written as a letter. -/
theorem not_endsLine_of_mem_quoteChar (c : Char) : ∀ d ∈ quoteChar c, ¬ EndsLine d := by
  unfold quoteChar
  split
  · exact not_endsLine_of_keepsLine (by decide)
  · exact not_endsLine_of_keepsLine (by decide)
  · exact not_endsLine_of_keepsLine (by decide)
  · exact not_endsLine_of_keepsLine (by decide)
  · exact not_endsLine_of_keepsLine (by decide)
  · exact not_endsLine_of_keepsLine (by decide)
  -- the rest stand for themselves or are written by their code
  · next hnewline hreturn _ _ =>
    split
    · intro d hd
      rw [List.mem_singleton.mp hd]
      exact not_or.mpr ⟨hnewline, hreturn⟩
    · intro d hd
      rcases List.mem_append.mp hd with hd | hd
      · rcases List.mem_append.mp hd with hd | hd
        · exact not_endsLine_of_keepsLine (by decide) d hd
        · exact not_endsLine_of_mem_toDigits (by decide) _ d hd
      · rw [List.mem_singleton.mp hd]
        decide

/-- A text is quoted character by character. -/
theorem brokenOnlyBy_quotes {write : Char → List Char} (h : ∀ c, ∀ d ∈ write c, ¬ EndsLine d)
    (s : String) :
    BrokenOnlyBy names (String.ofList ('"' :: s.toList.flatMap write ++ ['"'])) := by
  refine brokenOnlyBy_of_forall fun d hd => ?_
  rw [String.toList_ofList] at hd
  rcases List.mem_append.mp hd with hd | hd
  · rcases List.mem_cons.mp hd with rfl | hd
    · decide
    · obtain ⟨c, -, hd⟩ := List.mem_flatMap.mp hd
      exact h c d hd
  · rw [List.mem_singleton.mp hd]
    decide

/-- A text that is shown between quotes stands on one line, whatever it holds. -/
theorem brokenOnlyBy_quoted (s : String) : BrokenOnlyBy names (quoted s) :=
  brokenOnlyBy_quotes not_endsLine_of_mem_quoteChar s

/-- So does a list of them. -/
theorem brokenOnlyBy_quotedList (texts : List String) : BrokenOnlyBy names (quotedList texts) := by
  have hparts : ∀ part ∈ texts.map quoted, BrokenOnlyBy names part := by
    intro part hpart
    obtain ⟨s, -, rfl⟩ := List.mem_map.mp hpart
    exact brokenOnlyBy_quoted s
  have hcomma : BrokenOnlyBy names ", " := brokenOnlyBy_of_isUnbroken (by decide)
  exact (hcomma.intercalate hparts).between (by decide) (by decide)

-- =============================================================== values

/-- A character that cannot be shown is written in hexadecimal. -/
theorem not_endsLine_hexDigit (n : Nat) : ¬ EndsLine (hexDigit n) := by
  have hdigits : ∀ c ∈ '0' :: "0123456789abcdef".toList, ¬ EndsLine c :=
    not_endsLine_of_keepsLine (by decide)
  refine hdigits _ ?_
  rw [hexDigit, List.getD_eq_getElem?_getD]
  cases hfound : "0123456789abcdef".toList[n]? with
  | none => exact List.mem_cons_self ..
  | some c => exact List.mem_cons_of_mem _ (List.mem_of_getElem? hfound)

/-- A string of a value is written in a way of its own, with other escapes. No line end is
left there either. -/
theorem not_endsLine_of_mem_escape (c : Char) : ∀ d ∈ Json.escape c, ¬ EndsLine d := by
  unfold Json.escape
  split
  · exact not_endsLine_of_keepsLine (by decide)
  · exact not_endsLine_of_keepsLine (by decide)
  · exact not_endsLine_of_keepsLine (by decide)
  · exact not_endsLine_of_keepsLine (by decide)
  · exact not_endsLine_of_keepsLine (by decide)
  · exact not_endsLine_of_keepsLine (by decide)
  · exact not_endsLine_of_keepsLine (by decide)
  -- controls are written by their code, and the rest stand for themselves
  · next hnewline hreturn _ _ _ =>
    split
    · intro d hd
      rcases List.mem_append.mp (show d ∈ ['\\', 'u', '0', '0'] ++ [_, _] from hd) with hd | hd
      · exact not_endsLine_of_keepsLine (by decide) d hd
      · rcases List.mem_pair.mp hd with rfl | rfl
        · exact not_endsLine_hexDigit _
        · exact not_endsLine_hexDigit _
    · intro d hd
      rw [List.mem_singleton.mp hd]
      exact not_or.mpr ⟨hnewline, hreturn⟩

/-- So a string stands on one line. -/
theorem brokenOnlyBy_quote (s : String) : BrokenOnlyBy names (Json.quote s) :=
  brokenOnlyBy_quotes not_endsLine_of_mem_escape s

/-- The items of a value are written one by one. -/
theorem compactItems_eq (items : List Json) : Json.compactItems items = items.map Json.compact := by
  induction items with
  | nil => rfl
  | cons x rest ih => rw [Json.compactItems, ih, List.map_cons]

/-- Members are, too, with their names before them. -/
theorem compactMembers_eq (members : Members) :
    Json.compactMembers members
      = members.map fun m => Json.quote m.1 ++ ":" ++ Json.compact m.2 := by
  induction members with
  | nil => rfl
  | cons m rest ih =>
      obtain ⟨name, x⟩ := m
      rw [Json.compactMembers, ih, List.map_cons]

/-- A value without any space stands on one line. -/
theorem brokenOnlyBy_compact (x : Json) : BrokenOnlyBy names x.compact := by
  have hcomma : BrokenOnlyBy names "," := brokenOnlyBy_of_isUnbroken (by decide)
  induction x using Json.induction with
  | null => exact brokenOnlyBy_of_isUnbroken (by decide)
  | bool b => cases b <;> exact brokenOnlyBy_of_isUnbroken (by decide)
  | number n => exact brokenOnlyBy_number n
  | string s => exact brokenOnlyBy_quote s
  | array items ih =>
      -- the parts stand between brackets, with commas between them
      have hparts : ∀ part ∈ Json.compactItems items, BrokenOnlyBy names part := by
        intro part hpart
        rw [compactItems_eq] at hpart
        obtain ⟨x, hx, rfl⟩ := List.mem_map.mp hpart
        exact ih x hx
      exact (hcomma.intercalate hparts).between (by decide) (by decide)
  | object members ih =>
      have hparts : ∀ part ∈ Json.compactMembers members, BrokenOnlyBy names part := by
        intro part hpart
        rw [compactMembers_eq] at hpart
        obtain ⟨m, hm, rfl⟩ := List.mem_map.mp hpart
        have hname : BrokenOnlyBy names (Json.quote m.1 ++ ":") :=
          (brokenOnlyBy_quote m.1).append (brokenOnlyBy_of_isUnbroken (by decide))
        exact hname.append (ih m hm)
      exact (hcomma.intercalate hparts).between (by decide) (by decide)

end

-- ================================================================ lines

/-- The text consists of these lines, each with a line feed after it. -/
structure Consists (text : String) (lines : List String) : Prop where
  eq_join : text = String.join (lines.map (· ++ "\n"))
  single : ∀ line ∈ lines, '\n' ∉ line.toList

variable {text : String} {lines others : List String}

/-- Where each line keeps to itself, the text is divided into just these lines, and the
last line feed leaves an empty rest. -/
theorem Consists.split_eq (h : Consists text lines) :
    split '\n' text.toList = lines.map String.toList ++ [[]] := by
  obtain ⟨rfl, hsingle⟩ := h
  induction lines with
  | nil => rfl
  | cons line rest ih =>
      obtain ⟨hline, hrest⟩ := List.forall_mem_cons.mp hsingle
      have htext : (String.join ((line :: rest).map (· ++ "\n"))).toList
          = line.toList ++ '\n' :: (String.join (rest.map (· ++ "\n"))).toList := by
        simp
      rw [htext, split_append_cons hline, ih hrest, List.map_cons, List.cons_append]

/-- A text consists of lines in one way only. -/
theorem Consists.unique (h : Consists text lines) (h' : Consists text others) : lines = others := by
  have hsplit := h.split_eq.symm.trans h'.split_eq
  have hinjective : Function.Injective String.toList := fun _ _ h => String.toList_injective h
  exact List.map_injective_iff.mpr hinjective (List.append_cancel_right hsplit)

end Text

end Conformance
