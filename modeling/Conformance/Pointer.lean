/-
JSON pointers.

A pointer is a list of segments, each written after a slash. Inside a segment
the tilde is written `~0` and the slash `~1`, so the slashes of a written
pointer are exactly its separators and different segment lists are written
differently.
-/

namespace Conformance

namespace Pointer

/-- The written form of one character of a segment. -/
def escapeChar : Char → List Char
  | '~' => ['~', '0']
  | '/' => ['~', '1']
  | c => [c]

/-- Reads the two escapes back. A tilde that starts neither stands for
itself. -/
def unescapeChars : List Char → List Char
  | '~' :: '0' :: rest => '~' :: unescapeChars rest
  | '~' :: '1' :: rest => '/' :: unescapeChars rest
  | c :: rest => c :: unescapeChars rest
  | [] => []

/-- The written form of a segment. -/
def escape (segment : String) : String :=
  String.ofList (segment.toList.flatMap escapeChar)

/-- The segment that a written form stands for. -/
def unescape (segment : String) : String :=
  String.ofList (unescapeChars segment.toList)

/-- A location one or more segments below another. -/
def extend (base : String) (segments : List String) : String :=
  segments.foldl (fun path segment => path ++ "/" ++ escape segment) base

/-- What follows the last slash, or everything if there is none. -/
def lastSegment (cs : List Char) : List Char :=
  (cs.reverse.takeWhile (· ≠ '/')).reverse

end Pointer

end Conformance
