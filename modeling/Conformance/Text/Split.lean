/-
Splitting text at a separator.

The parts are what stands between the separators, so there is one more part
than there are separators, and joining the parts gives the text back.
-/

namespace Conformance

namespace Text

/-- The parts of a text between the occurrences of a separator. -/
def split (separator : Char) : List Char → List (List Char)
  | [] => [[]]
  | c :: rest =>
    if c = separator then [] :: split separator rest
    else
      match split separator rest with
      | part :: parts => (c :: part) :: parts
      | [] => [[c]]

theorem split_ne_nil (separator : Char) (cs : List Char) : split separator cs ≠ [] := by
  cases cs with
  | nil => simp [split]
  | cons c rest => grind [split]

/-- Nothing is lost in splitting. -/
theorem intercalate_split (separator : Char) (cs : List Char) :
    List.intercalate [separator] (split separator cs) = cs := by
  induction cs with
  | nil => rfl
  | cons c rest ih =>
    unfold split
    split
    · next h =>
      subst h
      cases hs : split c rest with
      | nil => exact absurd hs (split_ne_nil c rest)
      | cons part parts => rw [← ih, hs]; simp [List.intercalate, List.intersperse]
    · cases hs : split separator rest with
      | nil => exact absurd hs (split_ne_nil separator rest)
      | cons part parts =>
        rw [← ih, hs]
        cases parts <;> simp [List.intercalate, List.intersperse]

end Text

end Conformance
