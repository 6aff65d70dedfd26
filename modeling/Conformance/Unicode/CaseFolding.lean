/-
Simple case folding.

Code points that differ only in case form orbits. The table lists the orbits
by their least members: the size of the orbit, how far its least member lies
above that of the orbit before, and the distances between its members.
-/
import Conformance.Unicode.CodeSet

namespace Conformance

namespace CaseFolding

/-- The orbits of two members and more. -/
def table : List String := [
  "C2N1GCB1GCB1GCB1GCB1GCB1GCB1GCB1GCB1GCB1GDB1G8yLCB1GCB1GCB1GCB1GCB1GCB1GCB1GDB1GaICB1GCB1G",
  "CB1GCB1GCB1GCB1GCB1GD3NsP1GCL1GCB1GCB1GCB1GCB1GDB1G8tUCB1GCB1GCB1GCB1GCB1GCB1GCB1GCB1GCB1G",
  "CB1GCB1GCB1GCB1GCB1GCB1GCB1GCB1GCC1GCB1GCB1GCB1GCB1GCB1GCB1GCB84XC1G4RCBBCCBCCBCCBCCBCCBCC",
  "BCCBCCBCCBCCBCCBCCBCCBCCBCCBCCBCCBCCBCCBCCBCCBCCBCCBCEBCCBCCBCDBCCBCCBCCBCCBCCBCCBCCBCDBCC",
  "BCCBCCBCCBCCBCCBCCBCCBCCBCCBCCBCCBCCBCCBCCBCCBCCBCCBCCBCCBCCBCCBCDBCCBCCBCD7NCB8CCBBCCBCC",
  "7YCBBCC7XCB7XCBBCD3BCB7UCB7VCBBCC7XCB7ZCB3TCB8DCB8BCBBCC6HCB19gZCB8DCB8FCB5ACB8GCBBCCBCCBC",
  "C8KCBBCC8KCDBCC8KCBBCC8JCB8JCBBCCBCC8LCBBCEBCD2EDFBBDDBBDDBBCDBCCBCCBCCBCCBCCBCCBCCBCDBCCB",
  "CCBCCBCCBCCBCCBCCBCCBDDBBCDBCEBCCBCCBCCBCCBCCBCCBCCBCCBCCBCCBCCBCCBCCBCCBCCBCCBCCBCCBCCBCE",
  "BCCBCCBCCBCCBCCBCCBCCBCCBCIbjFCBBCDbjCCBbjZCBbjZCBBCD2RCB2TCBBCCBCCBCCBCCBCCbiTCBbiQCBbiSC",
  "K197RCF197NCD198PCB196ECB197GCE197GCBbhFCB197DCFbhLCMbgPCF197FCF196GCW195LCB195IE6L3G1G7nX",
  "C1RBCCBCEBCF5ACB5ACB5ACC4MCH1MCC1LCB1LCB1LCC2MCC2LCB2LCB7qHCB1GDB1G1ECB1GCB1GDB1G2MCB1GCB",
  "1GEB1GZ1JDC1G2CCB1GCC1GCB1GCB1GDB1GWDB1G1WDC1FBCB1GCB1GDB1GPCB1GCB1GDB1G81DCB1GCB1GCF7pRC",
  "1FICJBCCBCCBCCBCCBCCBCCBCCBCCBCCBCCBCCBCEHCFBCDBCG3CCB3CCB3CCB3CCB3CCB3CCB3CCB3CCB3CCB3CCB",
  "3CCB3CCB3CCB3CCB3CCB3CCB1GCB1GDB1G6nICB1GDB1G6nHCB1GCB1GCB1GCB1GCB1GCB1GCB1GCB1GCB1GDB1G",
  "6mYCB1GCB1GDB1G6mWEB1G6mWBCB1GCB1GCB1GCB1GCB1GCB1GCB1GDB1G6mQCB1GCB1GCB1GCB1GCB1GC1XBDCB",
  "6lSCCBCCBCCBCCBCCBCCBCCBCCBCCBCCBCCBCCBCCBCCBCCBCKBCCBCCBCCBCCBCCBCCBCCBCCBCCBCCBCCBCCBCCB",
  "CCBCCBCCBCCBCCBCCBCCBCCBCCBCCBCCBCCBCCBCCPCBBCCBCCBCCBCCBCCBCCBCDBCCBCCBCCBCCBCCBCCBCCBCCB",
  "CCBCCBCCBCCBCCBCCBCCBCCBCCBCCBCCBCCBCCBCCBCCBCCBCCBCCBCCBCCBCCBCCBCCBCCBCCBCCBCCBCCBCCBCCB",
  "CCBCCBCCBCCBCCBCCBCCBCCBCCBCD1WCB1WCB1WCB1WCB1WCB1WCB1WCB1WCB1WCB1WCB1WCB1WCB1WCB1WCB1WCB",
  "1WCB1WCB1WCB1WCB1WCB1WCB1WCB1WCB1WCB1WCB1WCB1WCB1WCB1WCB1WCB1WCB1WCB1WCB1WCB1WCB1WCB1WCB1W",
  "C33E7rKCB7rKCB7rKCB7rKCB7rKCB7rKCB7rKCB7rKCB7rKCB7rKCB7rKCB7rKCB7rKCB7rKCB7rKCB7rKCB7rKCB",
  "7rKCB7rKCB7rKCB7rKCB7rKCB7rKCB7rKCB7rKCB7rKCB7rKCB7rKCB7rKCB7rKCB7rKCB7rKCB7rKCB7rKCB7rKCB",
  "7rKCB7rKCB7rKCC7rKCG7rKCD37SCB37SCB37SCB37SCB37SCB37SCB37SCB37SCB37SCB37SCB37SCB37SCB37SCB",
  "37SCB37SCB37SCB37SCB37SCB37SCB37SCB37SCB37SCB37SCB37SCB37SCB37SCB37SCB37SCB37SCB37SCB37SCB",
  "37SCB37SCB37SCB37SCB37SCB37SCB37SCB37SCB37SCB37SCB37SCB37SCD37SCB37SCB37SCpX15iUCB15iUCB",
  "15iUCB15iUCB15iUCB15iUCB15iUCB15iUCB15iUCB15iUCB15iUCB15iUCB15iUCB15iUCB15iUCB15iUCB15iUCB",
  "15iUCB15iUCB15iUCB15iUCB15iUCB15iUCB15iUCB15iUCB15iUCB15iUCB15iUCB15iUCB15iUCB15iUCB15iUCB",
  "15iUCB15iUCB15iUCB15iUCB15iUCB15iUCB15iUCB15iUCB15iUCB15iUCB15iUCB15iUCB15iUCB15iUCB15iUCB",
  "15iUCB15iUCB15iUCB15iUCB15iUCB15iUCB15iUCB15iUCB15iUCB15iUCB15iUCB15iUCB15iUCB15iUCB15iUCB",
  "15iUCB15iUCB15iUCB15iUCB15iUCB15iUCB15iUCB15iUCB15iUCB15iUCB15iUCB15iUCB15iUCB15iUCB15iUCB",
  "15iUCB15iUCB15iUCBICBICBICBICBICBID2cL11oKBCBBC9G11qYCE42SCR11sYC4KBCCBCCBCCBCCBCCBCCBCCBC",
  "CBCCBCCBCCBCCBCCBCCBCCBCCBCCBCCBCCBCCBCCBCCBCCBCCBCCBCCBCCBCCBCCBCCBCCBCCBCCBCCBCCBCCBCCBC",
  "CBCCBCCBCCBCCBCCBCCBCCBCCBCCBDCB2GCCBCCBCCBCCBCCBCCBCCBCCBCCBCCBCCBCCBCCBCCBCCBCCBCCBCCBCC",
  "BCCBCCBCCBCCBCCBCCBCCBCMBCCBCCBCCBCCBCCBCCBCCBCCBCCBCCBCCBCCBCCBCCBCCBCCBCCBCCBCCBCCBCCBCC",
  "BCCBCCBCCBCCBCCBCCBCCBCCBCCBCCBCCBCCBCCBCCBCCBCCBCCBCCBCCBCCBCCBCCBCCBCCBCCBCCICBICBICBICB",
  "ICBICBICBICJICBICBICBICBICBICLICBICBICBICBICBICBICBICJICBICBICBICBICBICBICBICJICBICBICBICB",
  "ICBICMICCICCICCICJICBICBICBICBICBICBICBICJ2WCB2WCB3ICB3ICB3ICB3ICB3WCB3WCB4YCB4YCB4ICB4ICB",
  "4WCB4WCDICBICBICBICBICBICBICBICJICBICBICBICBICBICBICBICJICBICBICBICBICBICBICBICJICBICCJCQJ",
  "CNICBICPICBICEHCOJCcH1CC1UQCBQCBQCBQCBQCBQCBQCBQCBQCBQCBQCBQCBQCBQCBQCBQCUBCvN1ACB1ACB1ACB",
  "1ACB1ACB1ACB1ACB1ACB1ACB1ACB1ACB1ACB1ACB1ACB1ACB1ACB1ACB1ACB1ACB1ACB1ACB1ACB1ACB1ACB1ACB1A",
  "C1yV1WCB1WCB1WCB1WCB1WCB1WCB1WCB1WCB1WCB1WCB1WCB1WCB1WCB1WCB1WCB1WCB1WCB1WCB1WCB1WCB1WCB1W",
  "CB1WCB1WCB1WCB1WCB1WCB1WCB1WCB1WCB1WCB1WCB1WCB1WCB1WCB1WCB1WCB1WCB1WCB1WCB1WCB1WCB1WCB1WCB",
  "1WCB1WCB1WCB1WC1XBCHBCCBCCBCHBCDBCLBCCBCCBCCBCCBCCBCCBCCBCCBCCBCCBCCBCCBCCBCCBCCBCCBCCBCCB",
  "CCBCCBCCBCCBCCBCCBCCBCCBCCBCCBCCBCCBCCBCCBCCBCCBCCBCCBCCBCCBCCBCCBCCBCCBCCBCCBCCBCCBCCBCCB",
  "CCBCJBCCBCFBCx6KBCCBCCBCCBCCBCEBCCBCCBCCBCCBCCBCCBCCBCCBCCBCCBCCBCCBCCBCCBCCBCCBCUBCCBCCBC",
  "CBCCBCCBCCBCCBCCBCCBCCBCCBCCBCCBC5GBCCBCCBCCBCCBCCBCCBCEBCCBCCBCCBCCBCCBCCBCCBCCBCCBCCBCCB",
  "CCBCCBCCBCCBCCBCCBCCBCCBCCBCCBCCBCCBCCBCCBCCBCCBCCBCCBCCBCLBCCBCDBCCBCCBCCBCCBCFBCFBCCBCC",
  "1WCCBCCBCCBCCBCCBCCBCCBCCBCCBCCBCLzSCBBCCBCCBCCBCCBCCBCCBCCBCFBCCBCDBCCBCCBCCBCCBCCBCCBCCB",
  "C1BBCmpWBC14M1GCB1GCB1GCB1GCB1GCB1GCB1GCB1GCB1GCB1GCB1GCB1GCB1GCB1GCB1GCB1GCB1GCB1GCB1GCB",
  "1GCB1GCB1GCB1GCB1GCB1GCB1GC1bA1OCB1OCB1OCB1OCB1OCB1OCB1OCB1OCB1OCB1OCB1OCB1OCB1OCB1OCB1OCB",
  "1OCB1OCB1OCB1OCB1OCB1OCB1OCB1OCB1OCB1OCB1OCB1OCB1OCB1OCB1OCB1OCB1OCB1OCB1OCB1OCB1OCB1OCB1O",
  "CB1OCB1OC5H1OCB1OCB1OCB1OCB1OCB1OCB1OCB1OCB1OCB1OCB1OCB1OCB1OCB1OCB1OCB1OCB1OCB1OCB1OCB1OC",
  "B1OCB1OCB1OCB1OCB1OCB1OCB1OCB1OCB1OCB1OCB1OCB1OCB1OCB1OCB1OCB1OC6B1NCB1NCB1NCB1NCB1NCB1NCB",
  "1NCB1NCB1NCB1NCB1NCC1NCB1NCB1NCB1NCB1NCB1NCB1NCB1NCB1NCB1NCB1NCB1NCB1NCB1NCB1NCC1NCB1NCB1N",
  "CB1NCB1NCB1NCB1NCC1NCB1NC1wD2MCB2MCB2MCB2MCB2MCB2MCB2MCB2MCB2MCB2MCB2MCB2MCB2MCB2MCB2MCB2M",
  "CB2MCB2MCB2MCB2MCB2MCB2MCB2MCB2MCB2MCB2MCB2MCB2MCB2MCB2MCB2MCB2MCB2MCB2MCB2MCB2MCB2MCB2MCB",
  "2MCB2MCB2MCB2MCB2MCB2MCB2MCB2MCB2MCB2MCB2MCB2MCB2MC6C1GCB1GCB1GCB1GCB1GCB1GCB1GCB1GCB1GCB",
  "1GCB1GCB1GCB1GCB1GCB1GCB1GCB1GCB1GCB1GCB1GCB1GCB1GC32P1GCB1GCB1GCB1GCB1GCB1GCB1GCB1GCB1GCB",
  "1GCB1GCB1GCB1GCB1GCB1GCB1GCB1GCB1GCB1GCB1GCB1GCB1GCB1GCB1GCB1GCB1GCB1GCB1GCB1GCB1GCB1GCB1G",
  "CndX1GCB1GCB1GCB1GCB1GCB1GCB1GCB1GCB1GCB1GCB1GCB1GCB1GCB1GCB1GCB1GCB1GCB1GCB1GCB1GCB1GCB1G",
  "CB1GCB1GCB1GCB1GCB1GCB1GCB1GCB1GCB1GCB1GC2N1BCB1BCB1BCB1BCB1BCB1BCB1BCB1BCB1BCB1BCB1BCB1BC",
  "B1BCB1BCB1BCB1BCB1BCB1BCB1BCB1BCB1BCB1BCB1BCB1BCB1BCxgA1ICB1ICB1ICB1ICB1ICB1ICB1ICB1ICB1IC",
  "B1ICB1ICB1ICB1ICB1ICB1ICB1ICB1ICB1ICB1ICB1ICB1ICB1ICB1ICB1ICB1ICB1ICB1ICB1ICB1ICB1ICB1ICB",
  "1ICB1ICB1I"]

/-- The `count` code points at the given distances from `start` on, and what
follows them. -/
def members (start : Nat) : Nat → List Nat → List Nat × List Nat
  | count + 1, d :: rest =>
    let (found, rest) := members (start + d) count rest
    ((start + d) :: found, rest)
  | _, rest => ([], rest)

/-- Reads orbits; `fuel` bounds how many there are. -/
def read : Nat → Nat → List Nat → List (List Nat)
  | fuel + 1, last, count :: rest =>
    match members last count rest with
    | (least :: others, rest) => (least :: others) :: read fuel least rest
    | ([], _) => []
  | _, _, _ => []

/-- The orbits of code points that differ only in case. -/
def orbits : List (List Nat) :=
  let numbers := (CodeSet.numbers table).toList
  read numbers.length 0 numbers

/-- The set with every orbit it meets. -/
def close (s : CodeSet) : CodeSet :=
  let met := orbits.filter fun orbit => orbit.any s.contains && !orbit.all s.contains
  CodeSet.ofList (s :: met.flatMap fun orbit => orbit.map CodeSet.single)

end CaseFolding

end Conformance
