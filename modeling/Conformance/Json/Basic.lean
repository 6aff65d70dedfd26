/-
JSON values.

An object is a list of members in the order they were written. Reading keeps
its names distinct; every operation here preserves that, and equality of
objects does not see the order.
-/
import Conformance.Json.Number

namespace Conformance

/-- A JSON value. -/
inductive Json where
  | null
  | bool (b : Bool)
  | number (n : Number)
  | string (s : String)
  | array (items : List Json)
  | object (members : List (String × Json))
  deriving Inhabited, Repr

/-- The members of an object, in order. -/
abbrev Members := List (String × Json)

namespace Members

/-- The value under a name. -/
def get? (members : Members) (name : String) : Option Json := members.lookup name

/-- What is found under a name is a member. -/
theorem mem_of_get? {members : Members} {name : String} {value : Json}
    (h : members.get? name = some value) : (name, value) ∈ members := by
  obtain ⟨before, after, rfl, -⟩ := List.lookup_eq_some_iff.mp h
  exact List.mem_append_right _ (List.mem_cons_self ..)

/-- Puts a value under a name. A name that is already there keeps its place. -/
def insert (members : Members) (name : String) (value : Json) : Members :=
  match members with
  | [] => [(name, value)]
  | (n, v) :: rest =>
    if n = name then (n, value) :: rest else (n, v) :: insert rest name value

/-- The members without one name. -/
def erase (members : Members) (name : String) : Members :=
  members.filter (·.1 ≠ name)

/-- Inserts a list of members one after the other: a repeated name keeps its
first place and takes its last value. -/
def ofList (entries : List (String × Json)) : Members :=
  entries.foldl (fun members e => insert members e.1 e.2) []

/-- The fields of `top` laid over `base`. -/
def merge (base top : Members) : Members :=
  top.foldl (fun members e => insert members e.1 e.2) base

/-- The names, in order. -/
def names (members : Members) : List String := members.map (·.1)

end Members

namespace Json

mutual

/-- Equality of values: items in order, members by name. -/
def same : Json → Json → Bool
  | null, null => true
  | bool a, bool b => a == b
  | number m, number n => m.same n
  | string s, string t => s == t
  | array xs, array ys => sameItems xs ys
  | object ms, object ns => ms.length == ns.length && sameMembers ms ns
  | _, _ => false

def sameItems : List Json → List Json → Bool
  | [], [] => true
  | x :: xs, y :: ys => same x y && sameItems xs ys
  | _, _ => false

/-- Every member of the first has an equal one of its name in the second. -/
def sameMembers : List (String × Json) → List (String × Json) → Bool
  | [], _ => true
  | (name, v) :: rest, ns =>
    (match ns.lookup name with
      | some w => same v w
      | none => false) && sameMembers rest ns

end

/-- Nothing but the text itself is equal to a text. -/
theorem same_string_iff {x : Json} {s : String} : x.same (string s) = true ↔ x = string s := by
  cases x <;> simp [same]

mutual

/-- How many values the value consists of, itself included. -/
def size : Json → Nat
  | array items => sizeItems items + 1
  | object members => sizeMembers members + 1
  | _ => 1

def sizeItems : List Json → Nat
  | [] => 0
  | x :: xs => size x + sizeItems xs

def sizeMembers : List (String × Json) → Nat
  | [] => 0
  | (_, v) :: rest => size v + sizeMembers rest

end

mutual

/-- How many arrays and objects enclose one another at most. -/
def height : Json → Nat
  | array items => heightItems items + 1
  | object members => heightMembers members + 1
  | _ => 0

def heightItems : List Json → Nat
  | [] => 0
  | x :: xs => max (height x) (heightItems xs)

def heightMembers : List (String × Json) → Nat
  | [] => 0
  | (_, v) :: rest => max (height v) (heightMembers rest)

end

theorem height_le_heightItems {x : Json} {items : List Json} (h : x ∈ items) :
    x.height ≤ heightItems items := by
  induction items with
  | nil => cases h
  | cons y rest ih =>
    rw [heightItems]
    rcases List.mem_cons.mp h with rfl | h
    · exact Nat.le_max_left ..
    · exact Nat.le_trans (ih h) (Nat.le_max_right ..)

theorem height_le_heightMembers {m : String × Json} {members : List (String × Json)}
    (h : m ∈ members) : m.2.height ≤ heightMembers members := by
  induction members with
  | nil => cases h
  | cons n rest ih =>
    rw [heightMembers]
    rcases List.mem_cons.mp h with rfl | h
    · exact Nat.le_max_left ..
    · exact Nat.le_trans (ih h) (Nat.le_max_right ..)

/-- An item is less high than its array. -/
theorem height_lt_of_item {x : Json} {items : List Json} (h : x ∈ items) :
    x.height < (array items).height := by
  rw [height]
  exact Nat.lt_succ_of_le (height_le_heightItems h)

/-- A member is less high than its object. -/
theorem height_lt_of_member {m : String × Json} {members : List (String × Json)}
    (h : m ∈ members) : m.2.height < (object members).height := by
  rw [height]
  exact Nat.lt_succ_of_le (height_le_heightMembers h)

/-- The value under a name, if the value is an object that has it. -/
def member? : Json → String → Option Json
  | object members, name => Members.get? members name
  | _, _ => none

/-- The text of a string value. -/
def string? : Json → Option String
  | string s => some s
  | _ => none

/-- The name of the value's type. -/
def typeName : Json → String
  | null => "null"
  | bool _ => "boolean"
  | number _ => "number"
  | string _ => "string"
  | array _ => "array"
  | object _ => "object"

end Json

end Conformance
