/-
Reading patterns.

The notation is that of regular expressions without look-around and
back-references: literals, classes in brackets with set operations, classes by
name, anchors, groups, alternatives, repetition, and flags that hold to the end
of their group. Reading yields the expression a pattern means, or the first
fault found.

All readers work on the characters that are left and give back what they did
not read. Every step of a loop or a nested group reads at least one character,
so the length of the pattern bounds them all.
-/
import Conformance.Pattern.Named
import Conformance.Text.Digit
import Conformance.Unicode.CaseFolding

namespace Conformance

/-- What can be wrong with a pattern. -/
inductive PatternError where
  | unclosedGroup
  | unopenedGroup
  | lookAround
  | badGroupName
  | repeatedGroupName
  | badFlag
  | nothingToRepeat
  | badCount
  | countsReversed
  | danglingEscape
  | unknownEscape
  | backReference
  | badCodePoint
  | badWordAnchor
  | unclosedClass
  | badClassItem
  | rangeReversed
  | unknownClass
  | needsUnicode
  | nestedTooDeeply
  | tooLarge
  deriving DecidableEq, Repr

namespace PatternError

/-- What is wrong, in words. -/
def message : PatternError → String
  | unclosedGroup => "a group is not closed"
  | unopenedGroup => "a group is closed that was not opened"
  | lookAround => "look-around is not supported"
  | badGroupName => "a group name is malformed"
  | repeatedGroupName => "a group name is used twice"
  | badFlag => "a flag is unknown, repeated or missing"
  | nothingToRepeat => "there is nothing to repeat"
  | badCount => "a repetition count is malformed"
  | countsReversed => "a repetition count ends below its start"
  | danglingEscape => "the pattern ends in an escape"
  | unknownEscape => "an escape is unknown"
  | backReference => "back-references are not supported"
  | badCodePoint => "a code point is malformed"
  | badWordAnchor => "a word anchor is malformed"
  | unclosedClass => "a class is not closed"
  | badClassItem => "a class item is malformed"
  | rangeReversed => "a range ends below its start"
  | unknownClass => "a class name is unknown"
  | needsUnicode => "a class needs the Unicode flag"
  | nestedTooDeeply => "the pattern nests too deeply"
  | tooLarge => "the pattern is too large"

end PatternError

namespace Pattern

-- =============================================================== state

/-- The flags in force. -/
structure Flags where
  ignoreCase : Bool := false
  multiLine : Bool := false
  dotAll : Bool := false
  unicode : Bool := true
  spaced : Bool := false
  crlf : Bool := false

/-- Where a reader stands: the characters left, the flags in force and the
group names used so far. -/
structure Cursor where
  rest : List Char
  flags : Flags := {}
  names : List String := []

abbrev Reader := StateT Cursor (Except PatternError)

/-- Something read, with the height of its tree. -/
structure Sized (α : Type) where
  value : α
  height : Nat := 0

/-- The deepest tree that is accepted. -/
def heightLimit : Nat := 250

def fail {α : Type} (e : PatternError) : Reader α := throw e

/-- The next character. -/
def peek? : Reader (Option Char) := return (← get).rest.head?

/-- Passes over `n` characters. -/
def skip (n : Nat) : Reader Unit := modify fun c => { c with rest := c.rest.drop n }

/-- Passes over a text if it comes next. -/
def accept (text : String) : Reader Bool := do
  if text.toList.isPrefixOf (← get).rest then
    skip text.length
    return true
  else return false

def isSpace (c : Char) : Bool := spaceCodes.has c

/-- The characters after blanks and comments, each of which a number sign opens
and a line feed closes. -/
def afterBlanks : Bool → List Char → List Char
  | true, c :: rest => afterBlanks (c != '\n') rest
  | false, c :: rest =>
    if isSpace c then afterBlanks false rest
    else if c == '#' then afterBlanks true rest
    else c :: rest
  | _, [] => []

/-- Passes over blanks and comments where the flags say that they do not
count. -/
def skipBlanks : Reader Unit := modify fun c =>
  if c.flags.spaced then { c with rest := afterBlanks false c.rest } else c

/-- Passes over one character and the blanks after it. -/
def step : Reader Unit := do
  skip 1
  skipBlanks

/-- The characters for as long as they satisfy a condition, passing over blanks
between them. -/
def takeSpaced (p : Char → Bool) : Nat → List Char → Reader (List Char)
  | 0, taken => return taken.reverse
  | fuel + 1, taken => do
    match ← peek? with
    | some c =>
      if p c then
        step
        takeSpaced p fuel (c :: taken)
      else return taken.reverse
    | none => return taken.reverse

/-- A bound on the number of steps still to come. -/
def left : Reader Nat := return (← get).rest.length + 1

-- ================================================================ sets

/-- The set with the other case of its members, where case is ignored. Without
the Unicode flag only ASCII letters have one. -/
def folded (s : CodeSet) : Reader CodeSet := do
  let flags := (← get).flags
  if !flags.ignoreCase then return s
  else if flags.unicode then return CaseFolding.close s
  else
    let moved (lo hi start : Nat) : CodeSet :=
      CodeSet.ofList ((s.inter (CodeSet.range lo hi)).ranges.map fun r =>
        CodeSet.range (r.1 - lo + start) (r.2 - lo + start))
    return (s.union (moved 0x41 0x5A 0x61)).union (moved 0x61 0x7A 0x41)

/-- The complement, where asked for. Without the Unicode flag a complement would
hold bytes that are no text. -/
def negatedIf (negated : Bool) (s : CodeSet) : Reader CodeSet := do
  if !negated then return s
  else if (← get).flags.unicode then return s.complement
  else fail .needsUnicode

/-- The class that one of the letters `d`, `s` and `w` stands for. -/
def letterClass (letter : Char) : Reader CodeSet := do
  let unicode := (← get).flags.unicode
  let s := match letter.toLower with
    | 'd' => if unicode then digitCodes else asciiDigits
    | 's' => if unicode then spaceCodes else asciiSpaces
    | _ => if unicode then wordCodes else asciiWord
  negatedIf letter.isUpper s

/-- Splits a class name at the first of the marks that separate a name from a
value; tells whether the mark negates. -/
def splitName (cs : List Char) : Option (String × String × Bool) :=
  let find (mark : List Char) : Option (String × String) :=
    let starts := (List.range cs.length).find? fun i => mark.isPrefixOf (cs.drop i)
    starts.map fun i =>
      (String.ofList (cs.take i), String.ofList (cs.drop (i + mark.length)))
  match find ['!', '='], find [':'], find ['='] with
  | some (name, value), _, _ => some (name, value, true)
  | none, some (name, value), _ => some (name, value, false)
  | none, none, some (name, value) => some (name, value, false)
  | none, none, none => none

/-- A class by name, after its letter. A single letter needs no braces. -/
def namedClass (negated : Bool) : Reader CodeSet := do
  let (found, flipped) ← match ← peek? with
    | none => fail .danglingEscape
    | some '{' => do
      step
      let name ← takeSpaced (· != '}') (← left) []
      if (← peek?).isNone then fail .danglingEscape
      skip 1
      match splitName name with
      | some (name, value, flipped) => pure (classValued? name value, flipped)
      | none => pure (classNamed? (String.ofList name), false)
    | some c => do
      if c == '\\' then fail .unknownClass
      step
      pure (classNamed? c.toString, false)
  if !(← get).flags.unicode then fail .needsUnicode
  match found with
  | none => fail .unknownClass
  | some s => negatedIf (negated != flipped) (← folded s)

-- ============================================================= escapes

/-- What an escape can stand for. A character written by two hexadecimal digits
is a byte where the Unicode flag is off. -/
inductive Escape where
  | char (c : Char) (byte : Bool := false)
  | set (s : CodeSet)
  | anchor (a : Anchor)

/-- The character of a code point given by hexadecimal digits. -/
def charOfHex (digits : List Char) : Reader Char := do
  match Text.natural? 16 digits with
  | some n =>
    if !digits.isEmpty && n.isValidChar then return Char.ofNat n else fail .badCodePoint
  | none => fail .badCodePoint

/-- Exactly `n` hexadecimal digits. -/
def fixedHex : Nat → List Char → Reader (List Char)
  | 0, taken => return taken.reverse
  | n + 1, taken => do
    match ← peek? with
    | none => fail .danglingEscape
    | some c =>
      if !Text.isHexDigit c then fail .badCodePoint
      step
      fixedHex n (c :: taken)

/-- A code point in braces or by a fixed number of digits, after its letter. -/
def codePoint (letter : Char) : Reader Escape := do
  match ← peek? with
  | none => fail .danglingEscape
  | some '{' =>
    step
    let digits ← takeSpaced (· != '}') (← left) []
    if (← peek?).isNone then fail .danglingEscape
    step
    return .char (← charOfHex digits)
  | some _ =>
    let n := match letter with
      | 'x' => 2
      | 'u' => 4
      | _ => 8
    let c ← charOfHex (← fixedHex n [])
    return .char c (letter == 'x')

/-- Whether an escaped character stands for itself. -/
def escapable (c : Char) : Bool :=
  c.toNat < 0x80 && !c.isAlphanum && c != '<' && c != '>'

/-- The side that a name in braces gives to a word anchor. -/
def wordSide? : String → Option WordSide
  | "start" => some .start
  | "end" => some .finish
  | "start-half" => some .startHalf
  | "end-half" => some .finishHalf
  | _ => none

/-- What follows `\b`: a name in braces, or nothing. Braces that do not hold a
name are left for a repetition. -/
def wordAnchor : Reader WordSide := do
  let before ← get
  let named (c : Char) : Bool := c.isAlpha || c == '-'
  match before.rest with
  | '{' :: _ =>
    step
    match ← peek? with
    | none => fail .badWordAnchor
    | some c =>
      if !named c then
        set before
        return .boundary
      let name ← takeSpaced named (← left) []
      match ← peek?, wordSide? (String.ofList name) with
      | some '}', some side =>
        skip 1
        return side
      | _, _ => fail .badWordAnchor
  | _ => return .boundary

/-- An escape, from its backslash. -/
def escape : Reader Escape := do
  skip 1
  let ascii := !(← get).flags.unicode
  match ← peek? with
  | none => fail .danglingEscape
  | some c =>
    if c.isDigit then fail .backReference
    else if c == 'x' || c == 'u' || c == 'U' then
      step
      codePoint c
    else if c == 'p' || c == 'P' then
      step
      return .set (← namedClass (c == 'P'))
    else
      skip 1
      match c with
      | 'd' | 's' | 'w' | 'D' | 'S' | 'W' => return .set (← letterClass c)
      | 'a' => return .char '\x07'
      | 'f' => return .char '\x0c'
      | 't' => return .char '\t'
      | 'n' => return .char '\n'
      | 'r' => return .char '\r'
      | 'v' => return .char '\x0b'
      | 'A' => return .anchor .textStart
      | 'z' => return .anchor .textEnd
      | 'b' => return .anchor (.word ascii (← wordAnchor))
      | 'B' => return .anchor (.word ascii .inside)
      | '<' => return .anchor (.word ascii .start)
      | '>' => return .anchor (.word ascii .finish)
      | _ => if escapable c then return .char c else fail .unknownEscape

-- ============================================================= classes

/-- A character as a member of a class. Without the Unicode flag it must be
ASCII. -/
def classChar (c : Char) : Reader Nat := do
  if (← get).flags.unicode || c.toNat < 0x80 then return c.toNat else fail .needsUnicode

/-- One end of a range, or an item on its own. -/
def classItem : Reader Escape := do
  match ← peek? with
  | some '\\' => escape
  | some c =>
    skip 1
    return .char c
  | none => fail .unclosedClass

/-- An item or a range of a class. A hyphen before the closing bracket or
another hyphen makes no range. -/
def classRange : Reader CodeSet := do
  let first ← classItem
  skipBlanks
  let rest := (← get).rest
  let spaced := (← get).flags.spaced
  let ahead := (if spaced then afterBlanks false (rest.drop 1) else rest.drop 1).head?
  match rest.head? with
  | none => fail .unclosedClass
  | some h =>
    if h != '-' || ahead == some ']' || ahead == some '-' then
      match first with
      | .char c _ => return CodeSet.single (← classChar c)
      | .set s => return s
      | .anchor _ => fail .badClassItem
    else
      step
      if (← peek?).isNone then fail .unclosedClass
      match first, ← classItem with
      | .char a _, .char b _ =>
        let lo ← classChar a
        let hi ← classChar b
        if lo ≤ hi then return CodeSet.range lo hi else fail .rangeReversed
      | _, _ => fail .badClassItem

/-- An ASCII class `[:name:]`, if that is what comes next. -/
def asciiClass : Reader (Option CodeSet) := do
  let before ← get
  match before.rest with
  | '[' :: ':' :: rest =>
    let (negated, rest) := match rest with
      | '^' :: rest => (true, rest)
      | _ => (false, rest)
    let name := rest.takeWhile (· != ':')
    match rest.dropWhile (· != ':'), asciiClass? (String.ofList name) with
    | ':' :: ']' :: rest, some s =>
      set { before with rest }
      return some (← negatedIf negated (← folded s))
    | _, _ => return none
  | _ => return none

/-- The operations between the parts of a class. -/
inductive ClassOperator where
  | inter
  | diff
  | symmDiff

namespace ClassOperator

def apply : ClassOperator → CodeSet → CodeSet → CodeSet
  | inter, s, t => s.inter t
  | diff, s, t => s.diff t
  | symmDiff, s, t => s.symmDiff t

/-- The operator that comes next, if one does. -/
def next? : Reader (Option ClassOperator) := do
  if ← accept "&&" then return some inter
  else if ← accept "--" then return some diff
  else if ← accept "~~" then return some symmDiff
  else return none

end ClassOperator

/-- The items read so far on one side of an operator, and what stands on its
other side. -/
structure ClassState where
  items : List (Sized CodeSet) := []
  pending : Option (ClassOperator × Sized CodeSet) := none

namespace ClassState

def add (state : ClassState) (item : Sized CodeSet) : ClassState :=
  { state with items := item :: state.items }

/-- The union of the items. One item alone needs no node of its own. -/
def union (state : ClassState) : Sized CodeSet :=
  match state.items with
  | [item] => item
  | [] => ⟨CodeSet.empty, 0⟩
  | items =>
    ⟨CodeSet.ofList (items.map (·.value)), 1 + items.foldl (fun h i => max h i.height) 0⟩

/-- Applies the pending operator. Where case is ignored it sees both sides with
both cases. -/
def close (state : ClassState) : Reader (Sized CodeSet) := do
  let right := state.union
  match state.pending with
  | none => return right
  | some (operator, left) =>
    let value := operator.apply (← folded left.value) (← folded right.value)
    return ⟨value, 1 + max left.height right.height⟩

end ClassState

/-- The hyphens at the start of a class, which stand for themselves. -/
def leadingHyphens : Nat → ClassState → Reader ClassState
  | 0, state => return state
  | fuel + 1, state => do
    match ← peek? with
    | some '-' =>
      step
      leadingHyphens fuel (state.add ⟨CodeSet.single '-'.toNat, 0⟩)
    | none => fail .unclosedClass
    | some _ => return state

/-- The opening of a class up to its first proper item: a caret, hyphens, and a
bracket that stands for itself if it comes first. Tells whether the class is
negated. -/
def classOpening : Reader (Bool × ClassState) := do
  step
  let negated := (← peek?) == some '^'
  if negated then step
  if (← peek?).isNone then fail .unclosedClass
  let state ← leadingHyphens (← left) {}
  if state.items.isEmpty && (← peek?) == some ']' then
    step
    return (negated, state.add ⟨CodeSet.single ']'.toNat, 0⟩)
  else return (negated, state)

mutual

/-- A class in brackets, from its opening bracket. -/
def bracketed : Nat → Reader (Sized CodeSet)
  | 0 => fail .unclosedClass
  | fuel + 1 => do
    let (negated, state) ← classOpening
    let inner ← classItems fuel state
    return ⟨← negatedIf negated (← folded inner.value), inner.height + 1⟩

/-- The items of a class up to its closing bracket. -/
def classItems : Nat → ClassState → Reader (Sized CodeSet)
  | 0, _ => fail .unclosedClass
  | fuel + 1, state => do
    skipBlanks
    match ← peek? with
    | none => fail .unclosedClass
    | some '[' =>
      match ← asciiClass with
      | some s => classItems fuel (state.add ⟨s, 0⟩)
      | none =>
        let nested ← bracketed fuel
        classItems fuel (state.add nested)
    | some ']' =>
      let whole ← state.close
      skip 1
      return whole
    | some _ =>
      match ← ClassOperator.next? with
      | some operator =>
        let left ← state.close
        classItems fuel { pending := some (operator, left) }
      | none =>
        let s ← classRange
        classItems fuel (state.add ⟨s, 0⟩)

end

-- ============================================================== groups

/-- The names of flags with what they do. Greediness makes no difference to
whether a pattern occurs. -/
def flag? (c : Char) (on : Bool) : Option (Flags → Flags) :=
  match c with
  | 'i' => some fun f => { f with ignoreCase := on }
  | 'm' => some fun f => { f with multiLine := on }
  | 's' => some fun f => { f with dotAll := on }
  | 'u' => some fun f => { f with unicode := on }
  | 'x' => some fun f => { f with spaced := on }
  | 'R' => some fun f => { f with crlf := on }
  | 'U' => some id
  | _ => none

/-- Flags up to a colon or a closing parenthesis: how they change those in
force, and whether there were any. No flag may come twice, nor the minus sign,
and a flag must follow that. -/
def flagList : Nat → List Char → (Flags → Flags) → Reader ((Flags → Flags) × Bool)
  | 0, _, _ => fail .badFlag
  | fuel + 1, seen, change => do
    match ← peek? with
    | none => fail .badFlag
    | some c =>
      if c == ':' || c == ')' then
        if seen.head? == some '-' then fail .badFlag
        return (change, !seen.isEmpty)
      if seen.contains c then fail .badFlag
      skip 1
      if c == '-' then flagList fuel (c :: seen) change
      else
        match flag? c (!seen.contains '-') with
        | some f => flagList fuel (c :: seen) (f ∘ change)
        | none => fail .badFlag

/-- Whether a character may stand in a group name; the first must be a letter
or an underscore. -/
def nameChar (first : Bool) (c : Char) : Bool :=
  let letters := CodeSet.decode Property.alphabetic
  let digits := Category.codes [.decimalNumber, .letterNumber, .otherNumber]
  c == '_' || letters.has c ||
    (!first && (c == '.' || c == '[' || c == ']' || digits.has c))

/-- A group name up to its closing angle bracket. -/
def groupName : Reader Unit := do
  let cursor ← get
  let name := cursor.rest.takeWhile (· != '>')
  match name, cursor.rest.drop name.length with
  | [], _ => fail .badGroupName
  | _, [] => fail .badGroupName
  | c :: more, _ :: rest =>
    if !nameChar true c || !more.all (nameChar false) then fail .badGroupName
    let name := String.ofList name
    if cursor.names.contains name then fail .repeatedGroupName
    set { cursor with rest, names := name :: cursor.names }

/-- What opens a group: flags for what follows, or a group, with the flags that
hold inside and whether it captures. -/
inductive Opening where
  | flags (change : Flags → Flags)
  | group (change : Flags → Flags) (captures : Bool)

/-- The opening of a group, from its parenthesis. -/
def opening : Reader Opening := do
  step
  for mark in ["?=", "?!", "?<=", "?<!"] do
    if mark.toList.isPrefixOf (← get).rest then fail .lookAround
  if (← accept "?P<") || (← accept "?<") then
    groupName
    return .group id true
  else if ← accept "?" then
    if (← peek?).isNone then fail .unclosedGroup
    let (change, any) ← flagList (← left) [] id
    let closing ← peek?
    skip 1
    if closing == some ')' then
      if !any then fail .nothingToRepeat
      return .flags change
    else return .group change false
  else return .group id true

-- ========================================================= repetitions

/-- A decimal number that fits 32 bits. Blanks may surround it. -/
def decimal? : Reader (Option Nat) := do
  modify fun c => { c with rest := c.rest.dropWhile isSpace }
  let digits ← takeSpaced Char.isDigit (← left) []
  modify fun c => { c with rest := c.rest.dropWhile isSpace }
  skipBlanks
  match Text.natural? 10 digits with
  | some n =>
    if digits.isEmpty then return none
    else if n < Nat.pow 2 32 then return some n
    else fail .badCount
  | none => return none

/-- A number that must be there. -/
def count (n : Option Nat) : Reader Nat :=
  match n with
  | some n => return n
  | none => fail .badCount

/-- Counts in braces, from the opening one. -/
def counts : Reader (Nat × Option Nat) := do
  step
  if (← peek?).isNone then fail .badCount
  let least ← decimal?
  let bounds ← match ← peek? with
    | some ',' => do
      step
      match ← peek? with
      | none => fail .badCount
      | some '}' => do
        let least ← count least
        pure (least, none)
      | some _ => do
        let least ← count least
        let most ← count (← decimal?)
        pure (least, some most)
    | _ => do
      let least ← count least
      pure (least, some least)
  if (← peek?) != some '}' then fail .badCount
  step
  match bounds with
  | (least, some most) => if most < least then fail .countsReversed else return bounds
  | _ => return bounds

-- ========================================================= expressions

/-- An item of a sequence: an expression, or flags, which cannot be
repeated. -/
inductive Item where
  | flags
  | expression (e : Sized Expression)

/-- The sequence of the items, given last to first. -/
def sequence (items : List Item) : Sized Expression :=
  let parts := items.reverse.filterMap fun
    | .expression e => some e
    | .flags => none
  let tallest := parts.foldl (fun h p => max h p.height) 0
  match items, parts with
  | [], _ => ⟨.empty, 0⟩
  | [_], [e] => e
  | [_], _ => ⟨.empty, 0⟩
  | _, parts => ⟨.concat (parts.map (·.value)), tallest + 1⟩

/-- The alternatives, given last to first. -/
def alternatives (branches : List (Sized Expression)) : Sized Expression :=
  match branches with
  | [e] => e
  | branches =>
    ⟨.alternate (branches.reverse.map (·.value)),
      branches.foldl (fun h b => max h b.height) 0 + 1⟩

/-- A character that stands for itself, in both cases where case is ignored. A
byte above 0x7F is no text. -/
def literal (c : Char) (byte : Bool) : Reader Expression := do
  let unicode := (← get).flags.unicode
  if byte && !unicode && c.toNat ≥ 0x80 then fail .needsUnicode
  return .set (← folded (CodeSet.single c.toNat))

/-- The full stop: any character but those that end a line, or any at all. -/
def fullStop : Reader Expression := do
  let flags := (← get).flags
  if !flags.unicode then fail .needsUnicode
  if flags.dotAll then return .set CodeSet.all
  let ends :=
    if flags.crlf then (CodeSet.single '\n'.toNat).union (CodeSet.single '\r'.toNat)
    else CodeSet.single '\n'.toNat
  return .set ends.complement

/-- A single character, class or anchor. -/
def primitive (c : Char) : Reader Expression := do
  let flags := (← get).flags
  match c with
  | '\\' =>
    match ← escape with
    | .char c byte => literal c byte
    | .set s => return .set s
    | .anchor a => return .anchor a
  | _ =>
    skip 1
    match c with
    | '.' => fullStop
    | '^' => return .anchor (if flags.multiLine then .lineStart flags.crlf else .textStart)
    | '$' => return .anchor (if flags.multiLine then .lineEnd flags.crlf else .textEnd)
    | _ => literal c false

/-- Repeats the item that was read last. A question mark after the operator
only changes which match is found. -/
def repeatLast (items : List Item) (least : Nat) (most : Option Nat) :
    Reader (List Item) := do
  match items with
  | .expression e :: before =>
    let _ ← accept "?"
    return .expression ⟨.repeated e.value least most, e.height + 1⟩ :: before
  | _ => fail .nothingToRepeat

/-- Reads alternatives up to the end of their group, which is left to be read.
Items and branches are collected last to first. -/
def branches : Nat → List Item → List (Sized Expression) → Reader (Sized Expression)
  | 0, _, _ => fail .unclosedGroup
  | fuel + 1, items, done => do
    skipBlanks
    match ← peek? with
    | none => return alternatives (sequence items :: done)
    | some ')' => return alternatives (sequence items :: done)
    | some '|' =>
      skip 1
      branches fuel [] (sequence items :: done)
    | some '(' =>
      let outer := (← get).flags
      match ← opening with
      | .flags change =>
        modify fun c => { c with flags := change c.flags }
        branches fuel (.flags :: items) done
      | .group change captures =>
        modify fun c => { c with flags := change c.flags }
        let inner ← branches fuel [] []
        if (← peek?).isNone then fail .unclosedGroup
        skip 1
        modify fun c => { c with flags := outer }
        let body := if captures then .group inner.value else inner.value
        branches fuel (.expression ⟨body, inner.height + 1⟩ :: items) done
    | some '[' =>
      let s ← bracketed (← left)
      branches fuel (.expression ⟨.set s.value, s.height⟩ :: items) done
    | some '?' =>
      skip 1
      branches fuel (← repeatLast items 0 (some 1)) done
    | some '*' =>
      skip 1
      branches fuel (← repeatLast items 0 none) done
    | some '+' =>
      skip 1
      branches fuel (← repeatLast items 1 none) done
    | some '{' =>
      match items with
      | .expression _ :: _ =>
        let (least, most) ← counts
        branches fuel (← repeatLast items least most) done
      | _ => fail .nothingToRepeat
    | some c =>
      let e ← primitive c
      branches fuel (.expression ⟨e, 0⟩ :: items) done

/-- Reads a whole pattern. -/
def whole : Reader (Sized Expression) := do
  let e ← branches (← left) [] []
  if (← peek?).isSome then fail .unopenedGroup
  return e

/-- The expression that a pattern means. -/
def expression? (pattern : String) : Except PatternError Expression := do
  let (e, _) ← whole.run { rest := pattern.toList }
  if e.height > heightLimit then throw .nestedTooDeeply
  if e.value.weight > Expression.weightLimit then throw .tooLarge
  return e.value

end Pattern

end Conformance
