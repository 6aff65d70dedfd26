/-
String formats.

Four formats are known, by five keywords. A format accepts a text or does not;
it never changes it.
-/
import Conformance.Format.Email
import Conformance.Format.Timestamp
import Conformance.Format.Uri
import Conformance.Format.Uuid

namespace Conformance

/-- A known format. -/
inductive StringFormat where
  | email
  | uuid
  | uri
  | dateTime
  deriving DecidableEq, Repr

namespace StringFormat

/-- The format that a keyword asks for. -/
def ofKeyword? : String → Option StringFormat
  | "email" => some email
  | "uuid" => some uuid
  | "uri" => some uri
  | "url" => some uri
  | "date-time" => some dateTime
  | _ => none

/-- The keyword that reports name. -/
def name : StringFormat → String
  | email => "email"
  | uuid => "uuid"
  | uri => "uri"
  | dateTime => "date-time"

/-- Whether a text has the format. -/
def accepts (format : StringFormat) (text : String) : Bool :=
  match format with
  | email => Email.isValid text
  | uuid => Uuid.isValid text
  | uri => Uri.isValid text
  | dateTime => Timestamp.isValid text

end StringFormat

end Conformance
