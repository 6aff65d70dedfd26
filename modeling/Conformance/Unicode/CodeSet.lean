/-
Sets of code points.

A set is kept as its boundaries: the ascending list of the code points at which
membership changes, starting from "not a member". A code point belongs to the
set exactly when an odd number of boundaries is at or below it, so membership
is one binary search and complement is one step at the front.

Tables of sets are written as texts. A number is written in digits and lower
case letters to base 36 followed by one upper case letter to base 26, which
also ends it; a set is the list of the distances between its boundaries.
-/

namespace Conformance

/-- A set of code points, as the ascending list of its boundaries. -/
structure CodeSet where
  bounds : Array Nat
  deriving DecidableEq, Repr, Inhabited

namespace CodeSet

/-- One above the largest code point. -/
def limit : Nat := 0x110000

-- ========================================================== membership

/-- How many of the boundaries from `lo` on are at or below `c`, counted from
the first. Each step halves the stretch up to `hi`. -/
def rank (bounds : Array Nat) (c : Nat) : Nat → Nat → Nat → Nat
  | 0, lo, _ => lo
  | fuel + 1, lo, hi =>
    if lo < hi then
      let mid := (lo + hi) / 2
      if bounds.getD mid 0 ≤ c then rank bounds c fuel (mid + 1) hi
      else rank bounds c fuel lo mid
    else lo

/-- Whether a code point belongs to the set. -/
def contains (s : CodeSet) (c : Nat) : Bool :=
  rank s.bounds c (s.bounds.size.log2 + 2) 0 s.bounds.size % 2 == 1

/-- Whether a character belongs to the set. -/
def has (s : CodeSet) (c : Char) : Bool := s.contains c.toNat

-- ======================================================== construction

def empty : CodeSet := ⟨#[]⟩

def all : CodeSet := ⟨#[0, limit]⟩

/-- The code points from `lo` to `hi`, both included. -/
def range (lo hi : Nat) : CodeSet := if lo ≤ hi then ⟨#[lo, hi + 1]⟩ else empty

def single (c : Nat) : CodeSet := range c c

/-- Sweeps over two lists of boundaries. `inA`, `inB` say where the sweep
stands, and a boundary is kept where the combination changes. -/
def sweep (f : Bool → Bool → Bool) (inA inB : Bool) : List Nat → List Nat → List Nat
  | [], [] => []
  | a :: as, [] => mark a (!inA) inB (sweep f (!inA) inB as [])
  | [], b :: bs => mark b inA (!inB) (sweep f inA (!inB) [] bs)
  | a :: as, b :: bs =>
    if a < b then mark a (!inA) inB (sweep f (!inA) inB as (b :: bs))
    else if b < a then mark b inA (!inB) (sweep f inA (!inB) (a :: as) bs)
    else mark a (!inA) (!inB) (sweep f (!inA) (!inB) as bs)
termination_by as bs => as.length + bs.length
where
  mark (point : Nat) (nowA nowB : Bool) (rest : List Nat) : List Nat :=
    if f inA inB == f nowA nowB then rest else point :: rest

/-- The set of the code points for which the combination of their memberships
holds. It must not hold of a code point that is in neither. -/
def combine (f : Bool → Bool → Bool) (s t : CodeSet) : CodeSet :=
  ⟨(sweep f false false s.bounds.toList t.bounds.toList).toArray⟩

def union (s t : CodeSet) : CodeSet := combine (· || ·) s t

def inter (s t : CodeSet) : CodeSet := combine (· && ·) s t

def diff (s t : CodeSet) : CodeSet := combine (fun a b => a && !b) s t

/-- The members of exactly one of the two. -/
def symmDiff (s t : CodeSet) : CodeSet := combine (· != ·) s t

def complement (s : CodeSet) : CodeSet := symmDiff s all

/-- The union of many sets, pairing them off so that each is merged only a
logarithmic number of times. -/
def unionAll : Nat → List CodeSet → CodeSet
  | 0, sets => sets.foldl union empty
  | fuel + 1, sets =>
    match sets with
    | [] => empty
    | [s] => s
    | sets => unionAll fuel (pairs sets)
where
  pairs : List CodeSet → List CodeSet
    | s :: t :: rest => union s t :: pairs rest
    | rest => rest

/-- The union of a list of sets. -/
def ofList (sets : List CodeSet) : CodeSet := unionAll 64 sets

/-- The stretches of members, both ends included. -/
def ranges (s : CodeSet) : List (Nat × Nat) := pair s.bounds.toList
where
  pair : List Nat → List (Nat × Nat)
    | a :: b :: rest => (a, b - 1) :: pair rest
    | _ => []

-- ============================================================== tables

/-- Takes in one character of a written table: the number so far and the
numbers before it. -/
def readChar (state : Nat × Array Nat) (c : Char) : Nat × Array Nat :=
  if 'A' ≤ c ∧ c ≤ 'Z' then
    (0, state.2.push (state.1 * 26 + (c.toNat - 'A'.toNat)))
  else if '0' ≤ c ∧ c ≤ '9' then (state.1 * 36 + (c.toNat - '0'.toNat), state.2)
  else (state.1 * 36 + (c.toNat - 'a'.toNat + 10), state.2)

/-- The numbers of a written table. -/
def numbers (lines : List String) : Array Nat :=
  (lines.foldl (fun state line => line.toList.foldl readChar state) (0, #[])).2

/-- The set whose boundaries lie at the given distances. -/
def ofDistances (distances : Array Nat) : CodeSet :=
  ⟨(distances.foldl (fun (state : Nat × Array Nat) d =>
    (state.1 + d, state.2.push (state.1 + d))) (0, #[])).2⟩

/-- The set written in a table. -/
def decode (lines : List String) : CodeSet := ofDistances (numbers lines)

end CodeSet

end Conformance
