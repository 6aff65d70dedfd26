/-
Joining of letters.

In cursive scripts a letter takes a form that depends on what it joins to on
either side. Letters join on both sides, on the left or on the right; others
are looked through.
-/
import Conformance.Unicode.CodeSet

namespace Conformance

namespace Joining

/-- The letters that join on both sides. -/
def both : CodeSet := CodeSet.decode [
  "1oIBFBBBBFENBHBC1JCIQS1MBCJBBBBC1ODCBSDFEBJBBBBBC1FLDPCEBBCDCG2W1H3IFCBBKBBKBBECB1DBCFBBQK",
  "FCCGBP46CBY3LO1IBB139T1YqvYFOEBFBDKE5PBBBDDBCBBCB1CCdA1HBBfZCBC4ADBRMD1CECM1UBBCEBCCBCBBCB",
  "FB1neR2Q"]

/-- The letters that join only on the left. -/
def left : CodeSet := CodeSet.decode ["1a2OBqwKBJBlGBrMB"]

/-- The letters that join only on the right. -/
def right : CodeSet := CodeSet.decode [
  "1oKEBBBBFEVB1ODBDQS1MBCJBBBBCCBBYC1GBEFEBJBBBBBCB1DBLDPCEBBCDC7QBFCBBKBBDOBBCFTLB1BDBBCCGB",
  "1ykTBBBBCDFKBDBCBKB5PBBDDBCBBCBBXEeJBfZB4IB1GB1FC2KDCCCBECFB"]

/-- The code points that joining looks through. -/
def transparent : CodeSet := CodeSet.decode [
  "6RBmW4IaPHaD1TBBBCBCBB2ULBB1UVQB3XHCGCCBE1HBBB1E1B3NL2GJJBYEBJBDBF1RD2HJ1QYB1G2DBBBEIEBDHK",
  "C1DB2GBEEIBUC1ABCC2FBECECCDDB1ECDBLC2FBEFBCEBUCWGBB2GBCBBEIBHCLC1EB2JBMB1YBDB2DBBDFDBEHCLC",
  "1DB2GBCBGBFCUC1CC2FCEEIBUC1DB2UBHDBB3MBCHMI3UBCJLH2VC1BBBBBB2DOBFBCFLB1KJB3YEBGBCCCZCEDQEN",
  "BCCGBPBrBD10KD1DC1EC1EC2MCBHIBCLJB1TDBB4NC1IB4ODECJBGD8LCCB2GBBHBBBBCIGKCB1W1UCMUE1WBBFBBF",
  "B1OJMC1GECCBD2EBBCDBBD2GICC5WDBNBHEBGBDC7Q2MkDBCC1AF1XFFG3S1H3aCD5LB3S1GlIE4DCw8EEBK1GC3CC",
  "aMBDBEBZCFB5VC1ASNB1MIZL1UD1WBCECC1NB2PGCCCCMBIB1VB1ZBBDCCFCBB1QCIB9EBCBEBlnSBsJQQQ7ZB9PD",
  "jTB8SB5TF1sGDBCFE1ODEB6JCmBE2NFcFC2ZG2SL1XE4TB2CP1PBCCKD1XECCHB2JD1KFBI2KBMC2AJKECB3RDCBBC",
  "GBCB6BBDIVC2FCDB1LHDF2SGNBBBBBOC3HICDBBXB3GGBBECBC9EEGCBC1BC3HICBBC4CBBBCGBB3XBBBCEBF9ZJBC",
  "9WCBBEB5OECCEB1GK1OGCEIBJGCD1UNBC7QBBDBB7THBGBB3EWCHBCBC4SGDBBCBHBB2UCDBBBdJCLC2AFFBBBXB",
  "5pDRGPc8YMDD2oAF2HH14IB2LE3DBkzKCBE50U1UCXkYDJQCH1EE5SD24D2DE1YIBOBWFBP1gIHBRCHBCBF3WB6EH",
  "eLB2JEjOE9UC9JBCBHCFBiGH4FInieZB1E3S4Y9G"]

/-- Whether a letter joins what follows it. -/
def joinsNext (c : Char) : Bool := left.has c || both.has c

/-- Whether a letter joins what stands before it. -/
def joinsPrevious (c : Char) : Bool := right.has c || both.has c

end Joining

end Conformance
