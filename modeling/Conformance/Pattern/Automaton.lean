/-
Nondeterministic automata for regular expressions.

An expression is built from its end backwards: each part is given the state to
go on to and yields the state to enter by. Running an automaton keeps the set
of states that are waiting for a character. Between two characters it follows
forks and the anchors that hold there, entering each state once, so a run takes
time proportional to the text times the automaton whatever the expression.
-/
import Conformance.Pattern.Expression

namespace Conformance

/-- A state: wait for a character of a set, require an anchor, go on in several
ways, or accept. -/
inductive AutomatonState where
  | consume (s : CodeSet) (next : Nat)
  | require (a : Anchor) (next : Nat)
  | fork (nexts : List Nat)
  | accept
  deriving Inhabited

/-- States, numbered by their place, and the one to begin with. -/
structure Automaton where
  states : Array AutomatonState
  entry : Nat
  deriving Inhabited

namespace Automaton

-- =========================================================== building

/-- A part under construction: given the state to go on to and the states so
far, the state to enter by and the states after. -/
abbrev Builder := Nat → Array AutomatonState → Nat × Array AutomatonState

/-- Adds one state. -/
def add (state : AutomatonState) (states : Array AutomatonState) :
    Nat × Array AutomatonState :=
  (states.size, states.push state)

/-- A part, `n` times over. -/
def copies (part : Builder) : Nat → Builder
  | 0, next, states => (next, states)
  | n + 1, next, states =>
    let (entry, states) := part next states
    copies part n entry states

/-- A part up to `n` times, each time with the choice to stop. -/
def optional (part : Builder) (stop : Nat) : Nat → Builder
  | 0, next, states => (next, states)
  | n + 1, next, states =>
    let (entry, states) := part next states
    let (choice, states) := add (.fork [entry, stop]) states
    optional part stop n choice states

/-- A part any number of times. -/
def loop (part : Builder) : Builder := fun next states =>
  let (choice, states) := add (.fork []) states
  let (entry, states) := part choice states
  (choice, states.setIfInBounds choice (.fork [entry, next]))

mutual

/-- The states of an expression. -/
def build : Expression → Builder
  | .empty, next, states => (next, states)
  | .set s, next, states => add (.consume s next) states
  | .anchor a, next, states => add (.require a next) states
  | .concat parts, next, states => buildAll parts next states
  | .alternate branches, next, states =>
    let (entries, states) := buildEach branches next states
    add (.fork entries) states
  | .repeated body least none, next, states =>
    let (entry, states) := loop (build body) next states
    copies (build body) least entry states
  | .repeated body least (some most), next, states =>
    let (entry, states) := optional (build body) next (most - least) next states
    copies (build body) least entry states
  | .group body, next, states => build body next states

/-- Parts one after the other. -/
def buildAll : List Expression → Builder
  | [], next, states => (next, states)
  | e :: rest, next, states =>
    let (entry, states) := buildAll rest next states
    build e entry states

/-- Parts beside one another. -/
def buildEach : List Expression → Nat → Array AutomatonState →
    List Nat × Array AutomatonState
  | [], _, states => ([], states)
  | e :: rest, next, states =>
    let (entry, states) := build e next states
    let (entries, states) := buildEach rest next states
    (entry :: entries, states)

end

/-- The automaton of an expression. -/
def ofExpression (e : Expression) : Automaton :=
  let (entry, states) := build e 0 #[.accept]
  ⟨states, entry⟩

-- ============================================================ running

/-- How many ways on the states have together. -/
def edges (a : Automaton) : Nat :=
  a.states.foldl (fun total state =>
    total + match state with
      | .fork nexts => nexts.length
      | _ => 1) 0

/-- What is known between two characters: when each state was last entered,
whether the automaton has accepted, and the sets it waits for. -/
structure Frontier where
  entered : Array Nat
  accepted : Bool := false
  waiting : List (CodeSet × Nat) := []

/-- Enters the states that can be reached without a character, each once; the
stamp tells this position from earlier ones. Every step takes one off the work
list, and a state adds to it at most once, so `fuel` bounds the steps by the
work at hand and the edges. -/
def explore (a : Automaton) (stamp : Nat) (before after : Option Char) :
    Nat → List Nat → Frontier → Frontier
  | 0, _, f => f
  | _, [], f => f
  | fuel + 1, i :: work, f =>
    if f.entered.getD i 0 == stamp then explore a stamp before after fuel work f
    else
      let f := { f with entered := f.entered.setIfInBounds i stamp }
      match a.states.getD i .accept with
      | .accept => { f with accepted := true }
      | .consume s next =>
        explore a stamp before after fuel work { f with waiting := (s, next) :: f.waiting }
      | .require anchor next =>
        explore a stamp before after fuel
          (if anchor.holds before after then next :: work else work) f
      | .fork nexts => explore a stamp before after fuel (nexts ++ work) f

/-- Runs over the rest of a text. At every position a new attempt begins. -/
def run (a : Automaton) (edges : Nat) (stamp : Nat) (before : Option Char)
    (work : List Nat) (entered : Array Nat) : List Char → Bool
  | [] =>
    (explore a stamp before none (edges + work.length + 2) (a.entry :: work)
      { entered }).accepted
  | c :: rest =>
    let f := explore a stamp before (some c) (edges + work.length + 2) (a.entry :: work)
      { entered }
    if f.accepted then true
    else
      let work := (f.waiting.filter fun w => w.1.has c).map (·.2)
      run a edges (stamp + 1) (some c) work f.entered rest

/-- Whether the automaton accepts some stretch of a text. -/
def occursIn (a : Automaton) (text : String) : Bool :=
  run a a.edges 1 none [] (Array.replicate a.states.size 0) text.toList

end Automaton

end Conformance
