/-
Named character classes.

Classes of Unicode are named by a category, a script or a property, loosely:
case, blanks, hyphens, underscores and a leading `is` do not matter. Classes of
ASCII are named exactly.
-/
import Conformance.Pattern.Expression
import Conformance.Unicode.Script

namespace Conformance

namespace Pattern

/-- The form of a name in which spellings that do not differ in substance are
equal. -/
def looseName (name : String) : String :=
  let lower (c : Char) : Char := if 'A' ≤ c ∧ c ≤ 'Z' then .ofNat (c.toNat + 32) else c
  let strip (cs : List Char) : List Char :=
    (cs.filter fun c => c.toNat < 0x80 && !" _-".contains c).map lower
  let cs := name.toList
  match cs.map lower with
  | 'i' :: 's' :: _ =>
    let rest := strip (cs.drop 2)
    if rest == ['c'] then "isc" else String.ofList rest
  | _ => String.ofList (strip cs)

/-- The long names of the general categories and groups of them, with the short
names that mean the same. -/
def categoryNames : List (String × String) := [
  ("other", "C"), ("control", "Cc"), ("cntrl", "Cc"), ("format", "Cf"),
  ("unassigned", "Cn"), ("privateuse", "Co"), ("letter", "L"),
  ("lowercaseletter", "Ll"), ("modifierletter", "Lm"), ("otherletter", "Lo"),
  ("titlecaseletter", "Lt"), ("uppercaseletter", "Lu"), ("mark", "M"),
  ("combiningmark", "M"), ("spacingmark", "Mc"), ("enclosingmark", "Me"),
  ("nonspacingmark", "Mn"), ("number", "N"), ("decimalnumber", "Nd"), ("digit", "Nd"),
  ("letternumber", "Nl"), ("othernumber", "No"), ("punctuation", "P"), ("punct", "P"),
  ("connectorpunctuation", "Pc"), ("dashpunctuation", "Pd"), ("closepunctuation", "Pe"),
  ("finalpunctuation", "Pf"), ("initialpunctuation", "Pi"), ("otherpunctuation", "Po"),
  ("openpunctuation", "Ps"), ("symbol", "S"), ("currencysymbol", "Sc"),
  ("modifiersymbol", "Sk"), ("mathsymbol", "Sm"), ("othersymbol", "So"),
  ("separator", "Z"), ("lineseparator", "Zl"), ("paragraphseparator", "Zp"),
  ("spaceseparator", "Zs")]

/-- The short names, in their loose form. Surrogates have no class. -/
def shortCategoryNames : List (String × String) :=
  (["C", "L", "M", "N", "P", "S", "Z"] ++ (Category.all.map (·.2)).filter (· != "Cs")).map
    fun name => (looseName name, name)

/-- The class of a general category, by its loose name. -/
def categoryClass? (name : String) : Option CodeSet :=
  match name with
  | "any" => some CodeSet.all
  | "assigned" => some (Category.codes [.unassigned]).complement
  | "ascii" => some (CodeSet.range 0 0x7F)
  | "lc" | "casedletter" =>
    some (Category.codes [.uppercaseLetter, .lowercaseLetter, .titlecaseLetter])
  | _ =>
    ((categoryNames ++ shortCategoryNames).lookup name).map fun short =>
      Category.codes (Category.named short)

/-- A script, by the loose form of its name or of another name for it. -/
def script? (name : String) : Option Script :=
  Script.all.find? fun script =>
    (script.name :: script.aliases).any fun n => looseName n == name

/-- Other names for properties, in their loose form. -/
def propertyAliases : List (String × String) := [
  ("ahex", "ASCII_Hex_Digit"), ("alpha", "Alphabetic"), ("bidic", "Bidi_Control"),
  ("bidim", "Bidi_Mirrored"), ("ci", "Case_Ignorable"), ("cwcf", "Changes_When_Casefolded"),
  ("cwcm", "Changes_When_Casemapped"), ("cwl", "Changes_When_Lowercased"),
  ("cwt", "Changes_When_Titlecased"), ("cwu", "Changes_When_Uppercased"),
  ("dep", "Deprecated"), ("di", "Default_Ignorable_Code_Point"), ("dia", "Diacritic"),
  ("ebase", "Emoji_Modifier_Base"), ("ecomp", "Emoji_Component"), ("emod", "Emoji_Modifier"),
  ("epres", "Emoji_Presentation"), ("ext", "Extender"), ("extpict", "Extended_Pictographic"),
  ("grbase", "Grapheme_Base"), ("grext", "Grapheme_Extend"), ("hex", "Hex_Digit"),
  ("idc", "ID_Continue"), ("ideo", "Ideographic"), ("ids", "ID_Start"),
  ("idsb", "IDS_Binary_Operator"), ("idst", "IDS_Trinary_Operator"), ("joinc", "Join_Control"),
  ("loe", "Logical_Order_Exception"), ("lower", "Lowercase"),
  ("nchar", "Noncharacter_Code_Point"), ("patsyn", "Pattern_Syntax"),
  ("patws", "Pattern_White_Space"), ("qmark", "Quotation_Mark"),
  ("ri", "Regional_Indicator"), ("sd", "Soft_Dotted"), ("space", "White_Space"),
  ("sterm", "Sentence_Terminal"), ("term", "Terminal_Punctuation"),
  ("uideo", "Unified_Ideograph"), ("upper", "Uppercase"), ("vs", "Variation_Selector"),
  ("wspace", "White_Space"), ("xidc", "XID_Continue"), ("xids", "XID_Start")]

/-- The class of a property, by its loose name. -/
def propertyClass? (name : String) : Option CodeSet :=
  let full := (propertyAliases.lookup name).getD ""
  (Property.tables.find? fun t => looseName t.1 == name || t.1 == full).map fun t =>
    CodeSet.decode t.2

/-- The class of a single name: a property, else a category, else a script. -/
def classNamed? (name : String) : Option CodeSet :=
  let name := looseName name
  propertyClass? name <|> categoryClass? name <|> (script? name).map Script.codes

/-- The class of a name and a value. -/
def classValued? (name value : String) : Option CodeSet :=
  let value := looseName value
  match looseName name with
  | "gc" | "generalcategory" => categoryClass? value
  | "sc" | "script" => (script? value).map Script.codes
  | "scx" | "scriptextensions" => (script? value).map Script.extendedCodes
  | _ => none

/-- The ASCII class of a name in `[:name:]`. -/
def asciiClass? (name : String) : Option CodeSet :=
  let upper := CodeSet.range 'A'.toNat 'Z'.toNat
  let lower := CodeSet.range 'a'.toNat 'z'.toNat
  match name with
  | "alnum" => some (asciiDigits.union asciiLetters)
  | "alpha" => some asciiLetters
  | "ascii" => some (CodeSet.range 0 0x7F)
  | "blank" => some ((CodeSet.single 9).union (CodeSet.single 0x20))
  | "cntrl" => some ((CodeSet.range 0 0x1F).union (CodeSet.single 0x7F))
  | "digit" => some asciiDigits
  | "graph" => some (CodeSet.range 0x21 0x7E)
  | "lower" => some lower
  | "print" => some (CodeSet.range 0x20 0x7E)
  | "punct" => some ((CodeSet.range 0x21 0x7E).diff (asciiDigits.union asciiLetters))
  | "space" => some asciiSpaces
  | "upper" => some upper
  | "word" => some asciiWord
  | "xdigit" =>
    some (CodeSet.ofList [asciiDigits, CodeSet.range 0x41 0x46, CodeSet.range 0x61 0x66])
  | _ => none

end Pattern

end Conformance
