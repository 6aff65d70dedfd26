/-
Absolute URIs.

A URI starts with a scheme and a colon. What follows depends on the scheme: the
schemes of the web always name a host, whatever slashes there are; a file may
name one; any other scheme names one only after two slashes. Only the host and
its port can be wrong, since everything after them can be escaped.

Blanks around a URI and line ends and tabs within it do not count.
-/
import Conformance.Format.Uri.Address
import Conformance.Format.Uri.Domain

namespace Conformance

namespace Uri

-- =============================================================== scheme

/-- What a scheme expects after its colon. -/
inductive Scheme where
  | web
  | file
  | other
  deriving DecidableEq, Repr

/-- The kind of a scheme, by its name in any case. -/
def Scheme.ofName (name : List Char) : Scheme :=
  match String.ofList (name.map Char.toLower) with
  | "http" | "https" | "ws" | "wss" | "ftp" => .web
  | "file" => .file
  | _ => .other

/-- The characters of a scheme after its first letter. -/
def isSchemeChar (c : Char) : Bool := c.isAlphanum || c == '+' || c == '-' || c == '.'

/-- The scheme, and what follows its colon. -/
def scheme? : List Char → Option (Scheme × List Char)
  | [] => none
  | c :: cs =>
    match cs.dropWhile isSchemeChar with
    | ':' :: rest =>
      if c.isAlpha then some (.ofName (c :: cs.takeWhile isSchemeChar), rest) else none
    | _ => none

/-- Whether a character counts as a slash. A backslash does in some schemes. -/
def isSlash (c : Char) : Bool := c == '/' || c == '\\'

-- ================================================================= host

/-- The bytes of a text in which a percent sign and two hexadecimal digits stand
for one byte. -/
def unescaped : List Char → List UInt8
  | [] => []
  | '%' :: a :: b :: rest =>
    match Text.hexDigit? a, Text.hexDigit? b with
    | some m, some n => UInt8.ofNat (m * 16 + n) :: unescaped rest
    | _, _ => '%'.toUInt8 :: unescaped (a :: b :: rest)
  | c :: rest => (c.toString.toUTF8.toList) ++ unescaped rest

/-- Whether a text between brackets is a host. -/
def isBracketed (cs : List Char) : Bool :=
  match cs.reverse with
  | ']' :: inner => Address.isLong inner.reverse
  | _ => false

/-- Whether a text is a domain name, or an address if it has the look of one. -/
def isName (cs : List Char) : Bool :=
  match String.fromUTF8? ⟨(unescaped cs).toArray⟩ with
  | none => false
  | some text =>
    match Domain.ofText? text.toList with
    | none => false
    | some name => !name.isEmpty && (!Address.endsInNumber name || Address.isShort name)

/-- Whether a text is a host that can be looked up. -/
def isHost : List Char → Bool
  | '[' :: rest => isBracketed rest
  | cs => isName cs

/-- The characters that no host may hold. -/
def isForbidden (c : Char) : Bool :=
  c == '\x00' || "\t\n\r #/:<>?@[\\]^|".contains c

/-- Whether a text is a host that is only named. -/
def isOpaqueHost : List Char → Bool
  | '[' :: rest => isBracketed rest
  | cs => !cs.any isForbidden

/-- A host, and the text after the colon that ends it. No colon between brackets
does. -/
def atPort (bracketed : Bool) : List Char → List Char × Option (List Char)
  | [] => ([], none)
  | c :: rest =>
    if c = ':' ∧ !bracketed then ([], some rest)
    else
      let bracketed := if c = '[' then true else if c = ']' then false else bracketed
      let (host, port) := atPort bracketed rest
      (c :: host, port)

/-- Whether a text starts with a port: digits that make less than 2^16, which a
backslash may end. None at all will do. -/
def isPort (cs : List Char) : Bool :=
  ((Text.natural? 10 (cs.takeWhile Char.isDigit)).any (· < Nat.pow 2 16)) &&
    match cs.dropWhile Char.isDigit with
    | [] => true
    | c :: _ => c == '\\'

-- ============================================================ authority

/-- Who asks, if someone does, and the host with its port: the text before and
after the last at sign. -/
def atHost (cs : List Char) : Option (List Char) × List Char :=
  match cs.reverse.dropWhile (· != '@') with
  | _ :: user => (some user.reverse, (cs.reverse.takeWhile (· != '@')).reverse)
  | [] => (none, cs)

/-- Whether a text may follow the slashes that announce a host. On the web there
has to be one; elsewhere it may be empty if nothing belongs to it. -/
def isAuthority (web : Bool) (cs : List Char) : Bool :=
  let ends (c : Char) : Bool := c == '/' || c == '?' || c == '#' || (web && c == '\\')
  let (user, hostAndPort) := atHost (cs.takeWhile fun c => !ends c)
  let (host, port) := atPort false hostAndPort
  port.all isPort &&
    if host.isEmpty then
      !web && port.isNone &&
        match user with
        | none => true
        | some [] => (cs.dropWhile fun c => !ends c).isEmpty
        | some user => user == [':']
    else if web then isHost host
    else isOpaqueHost host

/-- Whether a text is the letter of a drive. -/
def isDrive : List Char → Bool
  | [letter, c] => letter.isAlpha && (c == ':' || c == '|')
  | _ => false

/-- Whether a text may follow the colon of a file. -/
def isFile : List Char → Bool
  | a :: b :: rest =>
    let host := rest.takeWhile fun c => !(isSlash c || c == '?' || c == '#')
    !(isSlash a && isSlash b) || host.isEmpty || isDrive host || isHost host
  | _ => true

-- ================================================================== URI

/-- The characters that count. -/
def essential (text : String) : List Char :=
  let inner := ((text.toList.dropWhile (· ≤ ' ')).reverse.dropWhile (· ≤ ' ')).reverse
  inner.filter fun c => c != '\t' && c != '\n' && c != '\r'

/-- Whether a text is an absolute URI. -/
def isValid (text : String) : Bool :=
  match scheme? (essential text) with
  | none => false
  | some (.web, rest) => isAuthority true (rest.dropWhile isSlash)
  | some (.file, rest) => isFile rest
  | some (.other, '/' :: '/' :: rest) => isAuthority false rest
  | some (.other, _) => true

end Uri

end Conformance
