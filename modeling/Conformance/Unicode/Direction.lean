/-
Directions.

The bidirectional class of a code point says which way it is written, or how it
leans on its neighbours. The classes that only lay out paragraphs are one here.
The table lists the stretches of equal class from zero up, each as its length
and the index of its class.
-/
import Conformance.Unicode.Stretches

namespace Conformance

/-- The bidirectional class of a code point. -/
inductive Direction where
  | leftToRight
  | rightToLeft
  | arabicLetter
  | europeanNumber
  | arabicNumber
  | europeanSeparator
  | europeanTerminator
  | commonSeparator
  | nonspacingMark
  | boundaryNeutral
  | otherNeutral
  | layout
  deriving DecidableEq, Repr, Inhabited

namespace Direction

/-- The classes in the order of the table. -/
def all : Array Direction :=
  #[.leftToRight, .rightToLeft, .arabicLetter, .europeanNumber, .arabicNumber,
    .europeanSeparator, .europeanTerminator, .commonSeparator, .nonspacingMark,
    .boundaryNeutral, .otherNeutral, .layout]

/-- The stretches of equal class. -/
def table : List String := [
  "JJFLOJFLCKDGFKBFBHBFCHKDBHGK1AAGK1AAEKGJBL1AJBHBKEGEKBACKBJCKCGCDBKBADKBDBAFKXABK1FABKhHAC",
  "KHAOKCAOKFAJKBARK4IIEACKIABKFACKBABK4GABK5KAHI9WABKCACKBGBB1TIBBBIBBCIBBCIBBBI2EBGECKBCCGB",
  "CBHBCCKLI1WCVIKEBGCEDCBI3XCHIBEBKGICCCIBKEICCKDXCBI1EC1BI3NCLIPC1RBJICBEKDBBIYBEIBBJIBBDIB",
  "BFI1RBDIEB1WCCEFCJI1QCYIBE1GI2DABIBABIEAIIEABIDAHIKACI1DABI2GABIEAEIIABIUACIOACGHABGCABICA",
  "CI2FABIEACIEACICADIDABI1EACIDABILACI2FABIEAFIBACIEABIUACINABGIAGIBABI2GABICABIBAEIIABIHACI",
  "LACI1EABI2JABIMABI1LAGKBGBKFABIDABI2DABIBADIFADIBAEIHACILACIUAHKCABI2GABIPACIUACI1CACI2FAC",
  "IEAEIIABIUACI1DABI2UABIHADIBABI3MABICAHIEABGHAII3UABICAJILAHI2VACI1BABIBABIBABIEK1ZAOIBAFI",
  "BACIFALIBA1KIJABI3YAEIBAGIBACICACIZACIEADIQAEINABICACIGABIPABIrBADI1WAKK3YABKoPABL1AACK4NA",
  "DI1DACI1EACI1EACI2MACIBAHIIABICALIHABGBABISAKKGALKDIBJBI4NACI1IABI4OADIEACIJABIGADIEABKDAC",
  "K5WA1IKXACICABI2GABIBAHIBABIBABICAIIGAKICABI1WA1UICAMIUAEI1WABIBAFIBABIFABI1OAJIMACI1GAEIC",
  "ACIBADI2EABIBACIDABIBADI2GAIICACI5WADIBANIBAHIEABIGABIDACI7QA2MIhDABKBADKLADKNADKNADKNACKB",
  "ALLDJBABBYKHLBHFGPKBH1AKBLGJELGJBDDAGDCFDKBAKDCFDKRA1WG1HIPACKBAEKBACKKABKBADKFAGKBABKBABK",
  "BABKEABGLACKEAFKFAEKCAQK1PADKEA5AKBFBGbEK2RA1AKBA5SKWALKVA1OKUD3AAhIKBAdBK9WAoEKCA5IK8VAGK",
  "EADIHAHK4XABI3SA1GI3QK1IA1AKBA3LKMA8GK1AAQKBLEKDAZKJAEICABKFACKFADK3LACICKDABK3MABK7OA1MKJ",
  "ABK1TACK1XAQK1CADK1YAPKMAEK6LAEK3VACK1FABK71OA2MKnoIA2DKcOADK3RAEIBKKICK1EACI3CACIOA1IK3YA",
  "BK4RABIDABIEABIZACIBAEKBILACG2GAEK2YACI1AASINABI1MAIIZALI1UADI1WABICAEICACI1NABI2PAGICACIC",
  "ACIMABIIABI1VABI1ZABIBADICACIFACIBABI1QACIIABI4LACK4RABICABIEABIlnRABBBIKBBF1MB4LCQKdZCSK",
  "2MCCK2CCIK1GJNCDKQIKKGAQI1GKBHBKBHBABKBHJKBGCKCFDKBABKCGBKEA5NCBJBACKDGFKBFBHBFCHKDBHGK1AA",
  "GK1AALK4SACGDKCGBAHKBAJJFKCJ9XABK2KA2ZKDANKDABK3OABI8SABI1BD4SAFI18NAbBBBK8RBDIBBCIFBEI1OB",
  "DIEBBI6JBCI3EBHKhGB1KCEIICKEGCKE1FBFIBK9HB1FE1SBCITBQCJK1HCGI1WBWCLI1FCSBEI4SBBABI2CAPILAU",
  "KKABICACIKADI1XAEICACIHABI2JADI1KAFIBAII2KABIMACI2AAJIKAEICABI3RADICABIBACIGABICABI6BABIDA",
  "IIVACI2FACIDABI1LAHIDAFI2SAGINABIBABIBABIOACI3HAIICADIBABIXABI3GAGIBABIEACIBACI9EAEIGACIBA",
  "CI1BACI3HAIICABIBACI1FANK2KABIBABICAGIBABI3XADICAEIBAFI9ZAJIBACI9WACIBABIEABI5OAEICACIEABI",
  "1GAGICACI1OAGICAEIIABIJAGICADI1UANIBACI7QABIBADIBABI7TAHIBAGI3GAWICAHIBACIBACI4SAGIDABIBAC",
  "IBAHIBABI2UACIDABIBABIdJACILACI2AAFIFABIBABIXABI4SAIKEGRK5jYABIGAPIc8YAMIDADI2oAAFI2HAHI",
  "14IABI2LAEI3BABKBABIkzKACIBAEJ47GA9GKKDDKDAgUKGAXKPARKPA1UICAXIkYADIJAIJIICAHI1EAEI2HACKVA",
  "2OKDIBK7EA3JKyQABK2FABK2FABK2FABK2FABKKA1YDjSA2DIEA1YIIABIOABIWAFIBAPI1gIAHIBARICAHIBACIBA",
  "FI3WABI6EAHIeLABI2JAEIPABGiYAEI9UACI9JABICABIHACIFABIaGA8ABHI4FBHIuZB3CC2MB3CC6UB9GCCKOC9W",
  "B1SKEA3WKMAPKCAPKBAPKBA1LKKALDFK1FABK2GAGK2JABK6WAGK5YA11XKDARKDANKDA8KKGAMKEABKPAMKEA2EKI",
  "AKKGA1OKIA1EKCAMKEACKOAJK1NAdGKIAOKCANKDALKDA2FKBABKEAQKCAMKEAKKHA5RKBA3OKKDBK13NACJ1y0OAC",
  "J1y0OACJ1y0OACJ1y0OACJ1y0OACJ1y0OACJ1y0OACJ1y0OACJ1y0OACJ1y0OACJ1y0OACJ1y0OA9YJ9GI3uMJ1tnA",
  "ACJ1y0OACJ1y0OACJ"]

/-- Pairs the lengths of the table with their classes. -/
def pairs : List Nat → List (Nat × Direction)
  | length :: index :: rest => (length, all.getD index .layout) :: pairs rest
  | _ => []

def stretches : Stretches Direction := .ofLengths (pairs (CodeSet.numbers table).toList)

/-- The class of a character. -/
def of (c : Char) : Direction := stretches.get c.toNat .layout

end Direction

end Conformance
