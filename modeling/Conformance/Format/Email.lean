/-
Mail addresses.

An address is a local part, an at sign and a domain. The local part is words
joined by single dots; the domain is labels, each followed by a dot, and a top
level of two letters or more. Only ASCII takes part.
-/
import Conformance.Text.Split

namespace Conformance

namespace Email

/-- The characters of a word of the local part. -/
def isWordChar (c : Char) : Bool :=
  c.isAlphanum || c == '_' || c == '\'' || c == '+' || c == '-'

/-- A word of the local part. -/
def isWord (cs : List Char) : Bool := !cs.isEmpty && cs.all isWordChar

/-- A label of the domain: a letter or a digit, then letters, digits and
hyphens. -/
def isLabel : List Char → Bool
  | c :: rest => c.isAlphanum && rest.all fun c => c.isAlphanum || c == '-'
  | [] => false

/-- A top-level domain. -/
def isTopLevel (cs : List Char) : Bool := 2 ≤ cs.length && cs.all Char.isAlpha

/-- Whether a text is words joined by dots. -/
def isLocalPart (cs : List Char) : Bool := (Text.split '.' cs).all isWord

/-- Whether a text is one label or more and a top-level domain, joined by
dots. -/
def isDomain (cs : List Char) : Bool :=
  match (Text.split '.' cs).reverse with
  | top :: labels => isTopLevel top && !labels.isEmpty && labels.all isLabel
  | [] => false

/-- Whether a text is a mail address. -/
def isValid (text : String) : Bool :=
  match Text.split '@' text.toList with
  | [localPart, domain] => isLocalPart localPart && isDomain domain
  | _ => false

end Email

end Conformance
