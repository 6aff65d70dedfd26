/-
Canonical composition.

Texts that differ only in how their marks are put to their letters have one
composed form. A text is taken apart, the marks that follow a letter are brought
into the order of their combining classes, and what can be put together again
is. Hangul syllables are taken apart and put together by arithmetic.
-/
import Conformance.Unicode.Decomposition

namespace Conformance

namespace Normalization

open Decomposition (combiningClass)

-- ============================================================== Hangul

/-- The first Hangul syllable. -/
def syllableBase : Nat := 0xAC00

/-- One below the first final consonant, which stands for having none. -/
def finalBase : Nat := 0x11A7

/-- The syllables with a given initial consonant. -/
def perInitial : Nat := 21 * 28

/-- Whether a code point is a Hangul syllable. -/
def isSyllable (c : Nat) : Bool := syllableBase ≤ c && c < syllableBase + 19 * perInitial

/-- The letters of a syllable. -/
def letters (c : Nat) : List Nat :=
  let index := c - syllableBase
  let unclosed := [0x1100 + index / perInitial, 0x1161 + index % perInitial / 28]
  if index % 28 = 0 then unclosed else unclosed ++ [finalBase + index % 28]

/-- The syllable of an initial consonant and a vowel, or of a syllable without
a final consonant and that consonant. -/
def syllable? (a b : Nat) : Option Nat :=
  if 0x1100 ≤ a ∧ a < 0x1100 + 19 ∧ 0x1161 ≤ b ∧ b < 0x1161 + 21 then
    some (syllableBase + (a - 0x1100) * perInitial + (b - 0x1161) * 28)
  else if isSyllable a ∧ (a - syllableBase) % 28 = 0 ∧ finalBase < b ∧ b < finalBase + 28 then
    some (a + (b - finalBase))
  else none

-- ========================================================= taking apart

/-- No decomposition has parts that can be taken apart more often. -/
def depth : Nat := 4

/-- The parts of a code point, taken apart as far as they go. -/
def parts : Nat → Nat → List Nat
  | 0, c => [c]
  | fuel + 1, c =>
    if isSyllable c then letters c
    else
      match Decomposition.of? c with
      | none => [c]
      | some d => parts fuel d.first ++ (d.second.map (parts fuel)).getD []

/-- Lets a code point pass those of greater class that stand before it. What
stands before is given backwards. -/
def settle (c : Nat) : List Nat → List Nat
  | [] => [c]
  | p :: before =>
    if combiningClass c ≠ 0 ∧ combiningClass c < combiningClass p then p :: settle c before
    else c :: p :: before

/-- A text taken apart, its marks in order. -/
def decomposed (codes : List Nat) : List Nat :=
  ((codes.flatMap (parts depth)).foldl (fun before c => settle c before) []).reverse

-- ===================================================== putting together

/-- What two code points make together. Nothing below U+0300 attaches itself
to what stands before it. -/
def composite? (a b : Nat) : Option Nat :=
  if b < 0x300 then none
  else
    match syllable? a b with
    | some c => some c
    | none =>
      (Decomposition.composites.find? fun d => d.first == a && d.second == some b).map (·.whole)

/-- Puts together what follows a starter. `passed` holds, backwards, what stands
between and did not attach itself, and `last` is the class of its last member:
a mark of no greater class cannot reach the starter over it. -/
def attach (starter : Nat) (passed : List Nat) (last : Nat) : List Nat → List Nat
  | [] => starter :: passed.reverse
  | c :: rest =>
    let k := combiningClass c
    match if passed.isEmpty || last < k then composite? starter c else none with
    | some whole => attach whole passed last rest
    | none =>
      if k = 0 then starter :: passed.reverse ++ attach c [] 0 rest
      else attach starter (c :: passed) k rest

/-- Puts together a text in which marks are in order. -/
def recomposed : List Nat → List Nat
  | [] => []
  | c :: rest => if combiningClass c = 0 then attach c [] 0 rest else c :: recomposed rest

/-- The composed form of a text. -/
def composed (cs : List Char) : List Char :=
  (recomposed (decomposed (cs.map Char.toNat))).map Char.ofNat

end Normalization

end Conformance
