/-
Binary properties of code points.

Each property is a set, written as a table, and the tables are kept by name.
-/
import Conformance.Unicode.CodeSet

namespace Conformance

namespace Property

/-- The table of the property `ASCII_Hex_Digit`. -/
def asciiHexDigit : List String := ["1WKHG1AG"]

/-- The table of the property `Alphabetic`. -/
def alphabetic : List String := [
  "2N1AG1A1VBKBEBFXB1FBhQEMOFHBBB3IB1DSBCCEBBGBBDBBBUB3FB5JI6KB1MCBG1P1NOBBBCBCBBI1BEE1DLF2EB",
  "HO3YBIEIEDKDCBQ1WN3XY1HJCEBFYCTTZHLFYBHHBI1QKMDHG2YBQBDEPNTBICCCWBHBBDEDICCCCBBIBECBFMCKBE",
  "DBGECCWBHBCBCBCEFECCCEBHEBBRGLDBJBDBWBHBCBFDJBDBCDBPEVEEDBICCCWBHBCBFDICCCCJCECBFNBQCBGDDB",
  "EDCBBBCDCDDDMEFDDBDDBGB1ONBDBXBQDIBDBDICBDBCCE1CEBIBDBXBKBFDIBDBDICFDBENDMNBDB1PCIBDBDBBFE",
  "HFWGBDBSDYBJBBCHIGBBBISCN2GFHGB1ZCBBBFBYBBBTBDCFBBGBOE1GB2LIB1KETEQB1K2P2DBBCFQ2MKEC1MBBFB",
  "C1RBcVBECHBBBEC1PBEC1HBECHBBBECPB2FBEC2P1LQQ3ICGDnWCRB1AF2XDLHULVMUMNBDBCM2ACTOBEB2P3LH1RF",
  "2SK1FBMEJX1ECFL1SE1A2C1CE2LCU1YBXCLD1X2ABPBI1Z1QCEK1SBLO2DWDK1KCLF1RCD1PEBGBCDBF7KT1ILaSCG",
  "C1MCGCIBBBBBBB1FC2BBHBBDDBHDECGENFDBH4MBNBQN3XBEBCKBBDFGBBBBBBEBLCEFFEBR1PvH2A1xU8VGEDCM1M",
  "BBFBC2EHBQXJHBHBHBHBHBHBHBHB1G1VBiBDZJHFCFE3IGDB3MBEF1RB3QR1G1WQjS71O2MnoF2P1UCaJDQKCU1VFI",
  "D4J1NJC3ZC3EUVB1HY2AM2QBB1SGDBBDK1HF1JN1DD1ZBMPBQQKFB2DJOSXD2RBBBBYDCQCELGCGCGJHBHB1RBOG4T",
  "VbxSMXE1X91CeCC4C1MHMFFMBNBFBBBCBCB4E1HdZS2MC2C1OM4MFB5F1K1AG1AL3LDGCGCGCD1JMB1ABTBCBPCO1I",
  "4T2R2BaH1DD1X1V1GN1EF1RF1EC1KEIBF1Q6CS1KE1KE1OI2AMLBPBHBCBLBPBHBCD2AMbZJWKIYGB1QBJ2RGCBB1S",
  "BCDBCXKXJ1F2NTBCKWK1AG1A1M2EGC2MEBCFIBDB1D1Q1DD1D1JIB1C1B2CKWKTNS4G2V2D1ZN1ZN1O1I1CDBFX9Q",
  "1QBCDCQG1YDD1DKBIW1QS1UV1BXJ2S1RFK2FJBNZX1ZREI1JDBJ2MBEJCKBBB1JSB1ICBGE2KHBBBEBPBKH2FXEBIC",
  "CCWBHBCBFDICCCCDBGBFH1CKBBCBB1MBKBBCBBEBCDBBB1S2OBDBEUD1E2OCCBB7C2CCHZG1I2LBBDB2H2CCB2T1BC",
  "OVH7D2F3Z2M1FICBCIBCB1EBCCCCE3PIC1UCGBBBC1B1ZCKR2UFBS2V3ZI3K1H1FJB1TBHBB1X1ECWBO2VHBCB1SDB",
  "BCBDBBCCYGBCB1LBCBEBBX1SaAXJRB1PDD4HB3BzM3Y4HR7O2tK3TP15GRGZ49RFmL7bD1V1vDlXH1FR3BR1ES1WQE",
  "1FVFTgQ1T8D2M1GZCZ1S2XE2FHR2MCBBMHJ7vY1P1G3T4L9aREBHBCBbFPB1DDCBOEIfG2gU4DFNDJHKEB6eF3HB2T",
  "BCCBCCCEBMBBBHB2NBECIBHB1CBEBFBBDHBdCCZBZB1FBZB1FBZB1FBZB1FBZBI1yY1FGG8FHBRCHBCBFF2K1HB4I",
  "1TKHQBcJ1ES1SiQ1C8U1ECB7Z1FBWIC8QHBEBCBPB7P2H2QDBDB1aIEB1BBCBBCBBKBEBBBBGBEBBBBBBDBCBBCBBB",
  "BBBBBBBCBBCEBHBEBEBBBKBRFDBFBRoE1AG1AG1A3yK19nC1G4oOC66CC7zLPnY2mWkW1lY59ZF92O"]

/-- The table of the property `Bidi_Control`. -/
def bidiControl : List String := ["1oEB73LC1AF2DE"]

/-- The table of the property `Bidi_Mirrored`. -/
def bidiMirrored : List String := [
  "1OCSBBB1CBBB1DBBB1TBPB3ySE20NC2mQCKC2CCOC6VB7KEDGDBDCDEBEBBBBEJFBBSFEJCBBBIB1GCEFBJCCTFCJF",
  "CCEYCQIEUCHC15TO2WBCEBCBDFEFDDOfNWCGBOIBHGDBEFBCCFEBBDCCKGCCMTBECBBBCBBEFCGDYCLCEEBCCCE1RC",
  "IB1OFBBBDFFDEBDFBB9WBjVEDCBCOCCK1RIgLKCI1keRGFC6GCSBBB1CBBB1DBBBBCBC1mxNB2FB2FB2FB2FB"]

/-- The table of the property `Case_Ignorable`. -/
def caseIgnorable : List String := [
  "1NBGBLB1JBBB2TBEBBBEBCCjJ7KECEBJCBB9RH7ZBFB1X1TBBBCBCBB1SBLGKLBB1JBKVQB3XIBKBE1HBBB1E1B3NL",
  "2GLEBCBYY1RD1SBHCFJ1P2G2DBBBEIEBDHKCNBPB2GBEEIBUC1ABCC2FBECECCDDB1ECDBLC2FBEFBCEBUCWGBB2GB",
  "CBBEIBHCLC1EB2JBMB1YBDB2DBBDFDBEHCLC1DB2GBCBGBFCUC1CC2FCEEIBUC1DB2UBHDBB3MBCHLJ3UBCJJBBH2V",
  "C1BBBBBB2DOBFBCFLB1KJB3YEBGBCCCZCEDQENBCCGBPB3QBnKD10KD1DC1EC1EC2MCBHIBCLDBFB1TF1ZB2NC1IB",
  "4ODECJBGD8LCCB2GBBHBBBBCIGKCB1NBI1UCMUE1WBBFBBFB1OJMC1GECCBD2EBBCDBBD2GICC2MG3EDBNBHEBGBDC",
  "1Y2LNB1I3XhDBBDLDNDNDNCMFICKBCBCF1XFBKBBNBQN1Z1H35RC4JD4VBPB3S1G1VBiBB1KEDFFB3PG3PDudUB1cC",
  "GaKB3UEBKBB1CE3CCO1I3ABXD3YEDCIBDBEBZCFB5VC1ASNB1MIZL1UD1WBCECCRBVC2OGCCCCMBIB1JBLB1ZBBDCC",
  "FCBB1BBOCFCBB3WFJD4RBCBEBlnSB5RRmBQDBMQ1IBCB6NBHBGBLB1JBBB1VB1TC2PBVDjTB8SB5TF13PGB1QBJmKD",
  "BCFE1ODEB6JCmBE1MB1AFBBcDCYB2AG2SL1XE4TB2CP1PBCCKD1XECCCBEBKB1YD1KFBI2KBMC2AJKECB3RDCBBCGB",
  "CB6BBDIVC2FCDB1LHDF2SGNBBBBBOC3HICDBBXB3GGBBECBC9EEGCBC1BC3HICBBC4CBBBCGBB3XBBBCEBF9ZJBC9W",
  "CBBEB5OECCEB1GK1OGCEIBJGCD1UNBC7QBBDBB7THBGBB3EWCHBCBC4SGDBBCBHBB2UCDBBB2NBaVCLC2AFFBBBXB",
  "5pDRGPc8YMDD2oAF2HHJEjOD1OCiOB2LR2MCBCNChiAEBHBC3gGCBE50U1UCXkYDJQCH1EE5SD24D2DE1YIBOBWFBP",
  "1gIHBRCHBCBFF2K1HB6EOeEB2JEjNF9UC9JBCBHCFBJBhWH4FI2xFFnfhPB1E3S4Y9G"]

/-- The table of the property `Cased`. -/
def cased : List String := [
  "2N1AG1A1VBKBEBFXB1FB7NBEE8AC1JHC1EF3SB1QECCCEBBGBBDBBBUB3FB5JI6KB1MJ1P31F1MBBFBC1RBEpW3ICG",
  "2bULF1RCD2M7K2MaSCGC1MCGCIBBBBBBB1FC2BBHBBDDBHDECGENFDBH4MBNBQN3XBEBCKBBDFGBBBBBBEBGEBCEFF",
  "EBR1GDCvL2A1xU8VGEDCM1MBBFBx4C1US1E5C3YDEB2ZUGBDvP1RBOG3CloIHMF13T1AG1A19T3C3S1KE1K4MLBPBH",
  "BCBLBPBHBChJBCDB1QBJ1aZ1ZN1Z3PWKW31I2MncQ2M1GZCZroE3HB2TBCCBCCCEBMBBBHB2NBECIBHB1CBEBFBBDH",
  "BdCCZBZB1FBZB1FBZB1FBZB1FBZBI1yYKBUGGaB2K2cK2Q26A1AG1AG1A"]

/-- The table of the property `Changes_When_Casefolded`. -/
def changesWhenCasefolded : List String := [
  "2N1A3MBKXBI1GBBBBBBBBBBBBBBBBBBBBBBBBBBBBBBBBBBBBBBBBBBBBBBBBBBBBBBBCBBBBBBBBBBBBBBBBCBBBB",
  "BBBBBBBBBBBBBBBBBBBBBBBBBBBBBBBBBBBBBBBBBCBBBBBBBCBBBCBDCEBCBDDCBCBBBBBCBBCBBCBDBBBCDBHCBC",
  "BCBBBBBBBBBBBBBBBBCBBBBBBBBBBBBBBBBBCCBBBDBBBBBBBBBBBBBBBBBBBBBBBBBBBBBBBBBBBBBBBBBBBBBBBB",
  "BBBBBBBBBBHCBCCBBEBBBBBBBB9MB1QBBBDBIBGBBDBBBCBRBJWBMDDCBBBBBBBBBBBBBBBBBBBBBBBBBCCCBBBCC",
  "1Z1WBBBBBBBBBBBBBBBBBBBBBBBBBBBBBBBBBJBBBBBBBBBBBBBBBBBBBBBBBBBBBBBBBBBBBBBBBBBBBBBBBBBBBB",
  "BBCBBBBBBBBBBBBCBBBBBBBBBBBBBBBBBBBBBBBBBBBBBBBBBBBBBBBBBBBBBBBBBBBBBBBBBBBBBBBBBBBBBBBBBB",
  "BBBBBBBBBBBBBBBBBBBBBC1M1WB31G1MBBFBvEG2bUKG1RCDcIBBBBBBBBBBBBBBBBBBBBBBBBBBBBBBBBBBBBBBBB",
  "BBBBBBBBBBBBBBBBBBBBBBBBBBBBBBBBBBBBBBBBBBBBBBBBBBBBBBBBBBBBBBBBBBBBBBBBBBBBBBBBBBBBBBBBBB",
  "BBBBBBBBBBBBBBBBBBBFCCBBBBBBBBBBBBBBBBBBBBBBBBBBBBBBBBBBBBBBBBBBBBBBBBBBBBBBBBBBBBBBBBBBBB",
  "BBBBBBBBBBBBBBBBBBBBBBBBBBBBBJIIGKIIIIGLBBBBBBBIIQ1WCDCGFDCGLEMFFDCGbLBDCGB1TQTBvM1A1yU1W",
  "1WBBDCBBBBBBEBBCBIDBBBBBBBBBBBBBBBBBBBBBBBBBBBBBBBBBBBBBBBBBBBBBBBBBBBBBBBBBBBBBBBBBBBBBBB",
  "BBBBBBBBBBBBBBBBBBBBBBBBBBBIBBBEBx6JBBBBBBBBBBBBBBBBBBBBBBBBBBBBBBBBBBBBBBBBBBBBBTBBBBBBBB",
  "BBBBBBBBBBBBBBBBBBB5FBBBBBBBBBBBBBDBBBBBBBBBBBBBBBBBBBBBBBBBBBBBBBBBBBBBBBBBBBBBBBBBBBBBBB",
  "BBBBBBKBBBBCBBBBBBBBEBBBCBBBDBBBBBBBBBBBBBBBBBBBBFBFBBBBBBBBBBBBBBBEBBBCBBBBBBBBBBBBBBBBYB",
  "yG3CloIHMF13T1A1aZ1O5G1K6ALBPBHBC1wC1Z6BW32O1GndW1G2MZxfZ1I"]

/-- The table of the property `Changes_When_Casemapped`. -/
def changesWhenCasemapped : List String := [
  "2N1AG1A2GBKXB1FB2MB3GB1CCOCCBBE3PBSG1BBCBBBCDCBEBFCBBCCBHBCBBCDGFBKC6KB1QECCDDBBGBBDBBBUB",
  "1VD1HBFB5DI6KB1MK1N31G1MBBFBC1RCDpW3ICG2bULF1RCD7DBDBQB4J6ACBB4OCGC1MCGCIBBBBBBB1FC2BBHBBD",
  "DBHDECGENFDBHbLBDCGB1BBR1GDCvL2A1xU4JBCBCH3YHEDCM1MBBFBx4C1US1C5EOC2KJPDDCFBZB1TYCxCB1C3C",
  "loIHMF13T1AG1A19T3C3S1KE1K4MLBPBHBCBLBPBHBC1uP1ZN1Z3PWKW31I2MncQ2M1GZCZxeY2Q"]

/-- The table of the property `Changes_When_Lowercased`. -/
def changesWhenLowercased : List String := [
  "2N1A3XXBH1HBBBBBBBBBBBBBBBBBBBBBBBBBBBBBBBBBBBBBBBBBBBBBBBBBBBBBBBCBBBBBBBBBBBBBBBCBBBBBBB",
  "BBBBBBBBBBBBBBBBBBBBBBBBBBBBBBBBBBBBBBBCBBBBDCBBBCBDCEBCBDDCBCBBBBBCBBCBBCBDBBBCDBHCBCBCBB",
  "BBBBBBBBBBBBBBCBBBBBBBBBBBBBBBBBCCBBBDBBBBBBBBBBBBBBBBBBBBBBBBBBBBBBBBBBBBBBBBBBBBBBBBBBBB",
  "BBBBBBHCBCCBBEBBBBBBBBbDBBBDBIBGBBDBBBCBRBJ1JBIBBBBBBBBBBBBBBBBBBBBBBBFBCBBCC1Z1WBBBBBBBBB",
  "BBBBBBBBBBBBBBBBBBBBBBBBJBBBBBBBBBBBBBBBBBBBBBBBBBBBBBBBBBBBBBBBBBBBBBBBBBBBBBBCBBBBBBBBBB",
  "BBCBBBBBBBBBBBBBBBBBBBBBBBBBBBBBBBBBBBBBBBBBBBBBBBBBBBBBBBBBBBBBBBBBBBBBBBBBBBBBBBBBBBBBBB",
  "BBBBBBBBC1M33D1MBBFBrU3I2cLBG1RCDcIBBBBBBBBBBBBBBBBBBBBBBBBBBBBBBBBBBBBBBBBBBBBBBBBBBBBBBB",
  "BBBBBBBBBBBBBBBBBBBBBBBBBBBBBBBBBBBBBBBBBBBBBBBBBBBBBBBBBBBBBBBBBBBBBBBBBBBBBBBBBBBBBBBBBB",
  "BBBBJBBBBBBBBBBBBBBBBBBBBBBBBBBBBBBBBBBBBBBBBBBBBBBBBBBBBBBBBBBBBBBBBBBBBBBBBBBBBBBBBBBBBB",
  "BBBBBBBBBBBBJIIGKIIIIGLBBBBBBBIIYIIIIIIFLFLEMFLFbLBDCGB1TQTBvM1A1yU1W1WBBDCBBBBBBEBBCBIDBB",
  "BBBBBBBBBBBBBBBBBBBBBBBBBBBBBBBBBBBBBBBBBBBBBBBBBBBBBBBBBBBBBBBBBBBBBBBBBBBBBBBBBBBBBBBBBB",
  "BBBBBBIBBBEBx6JBBBBBBBBBBBBBBBBBBBBBBBBBBBBBBBBBBBBBBBBBBBBBTBBBBBBBBBBBBBBBBBBBBBBBBBBB5F",
  "BBBBBBBBBBBBBDBBBBBBBBBBBBBBBBBBBBBBBBBBBBBBBBBBBBBBBBBBBBBBBBBBBBBBBBBBBBBKBBBBCBBBBBBBBE",
  "BBBCBBBDBBBBBBBBBBBBBBBBBBBBFBFBBBBBBBBBBBBBBBEBBBCBBBBBBBBBBBBBBBBYBnuH1A1aZ1O5G1K6ALBPBH",
  "BC1wC1Z6BW32O1GndW1G2MZxfZ1I"]

/-- The table of the property `Changes_When_Titlecased`. -/
def changesWhenTitlecased : List String := [
  "3T1A2GB1PYBIBBBBBBBBBBBBBBBBBBBBBBBBBBBBBBBBBBBBBBBBBBBBBBBBBBBBBBBBCBBBBBBBBBBBBBBCBBBBBB",
  "BBBBBBBBBBBBBBBBBBBBBBBBBBBBBBBBBBBBBBBBCBBBBDCBBBCBDBFBCBDDCBCBBBBBCBEBCBDBBBCBDBBBEBBCBC",
  "BBBBBBBBBBBBBBBBBCBBBBBBBBBBBBBBBBBDBBBBDBBBBBBBBBBBBBBBBBBBBBBBBBBBBBBBBBBBBBBBDBBBBBBBBB",
  "BBBBBBBBIBCCBBEBBBBBBBBGBCBBBCDCBEBFCBBCCBHBCBBCDGFBKC6KB1RBBBDBDDSB1B1JBCDDBBBBBBBBBBBBBB",
  "BBBBBBBBBFBBCBCB2A1WBBBBBBBBBBBBBBBBBBBBBBBBBBBBBBBBBBJBBBBBBBBBBBBBBBBBBBBBBBBBBBBBBBBBBB",
  "BBBBBBBBBBBBBBBBBBCBBBBBBBBBBBBCBBBBBBBBBBBBBBBBBBBBBBBBBBBBBBBBBBBBBBBBBBBBBBBBBBBBBBBBBB",
  "BBBBBBBBBBBBBBBBBBBBBBBBBBBBBBBBBBBBBB1X1N3yEG2bUJBB9EBDBQB4KBBBBBBBBBBBBBBBBBBBBBBBBBBBBB",
  "BBBBBBBBBBBBBBBBBBBBBBBBBBBBBBBBBBBBBBBBBBBBBBBBBBBBBBBBBBBBBBBBBBBBBBBBBBBBBBBBBBBBBBBBBB",
  "BBBBBBBBBBBBBBBBBBBBBBBBBBBBBHFBBBBBBBBBBBBBBBBBBBBBBBBBBBBBBBBBBBBBBBBBBBBBBBBBBBBBBBBBBB",
  "BBBBBBBBBBBBBBBBBBBBBBBBBBBBBBBBBBBJIGKIIIIGKIIIIOCIIIIIIFBCGBDDBCIECCIIKDBCdEB1HQEBwL1A",
  "1zQ1WBBDCBBBBBBGBCBKBBBBBBBBBBBBBBBBBBBBBBBBBBBBBBBBBBBBBBBBBBBBBBBBBBBBBBBBBBBBBBBBBBBBBB",
  "BBBBBBBBBBBBBBBBBBBBBBBBBBBBBIBBBEBM1MBBFBx4DBBBBBBBBBBBBBBBBBBBBBBBBBBBBBBBBBBBBBBBBBBBBB",
  "TBBBBBBBBBBBBBBBBBBBBBBBBBBB5FBBBBBBBBBBBBBDBBBBBBBBBBBBBBBBBBBBBBBBBBBBBBBBBBBBBBBBBBBBBB",
  "BBBBBBBBBBBBBBBKBBBCBBBBBBBBBEBEBBCCBBBBBBBBBBBBBBBBBBBLBBBBBBBBBBBBBBBEBBBCBBBBBBBBBBBBBB",
  "B1ABxCB1C3CloIHMF14Z1A1bH1O5G1K5ZLBPBHBC1xB1Z4VW32O1GndW1G2HZxgG1I"]

/-- The table of the property `Changes_When_Uppercased`. -/
def changesWhenUppercased : List String := [
  "3T1A2GB1PYBIBBBBBBBBBBBBBBBBBBBBBBBBBBBBBBBBBBBBBBBBBBBBBBBBBBBBBBBBCBBBBBBBBBBBBBBCBBBBBB",
  "BBBBBBBBBBBBBBBBBBBBBBBBBBBBBBBBBBBBBBBBCBBBBDCBBBCBDBFBCBDDCBCBBBBBCBEBCBDBBBCBDBBBFCBCBC",
  "BBBBBBBBBBBBBBBCBBBBBBBBBBBBBBBBBCBCBBDBBBBBBBBBBBBBBBBBBBBBBBBBBBBBBBBBBBBBBBDBBBBBBBBBBB",
  "BBBBBBIBCCBBEBBBBBBBBGBCBBBCDCBEBFCBBCCBHBCBBCDGFBKC6KB1RBBBDBDDSB1B1JBCDDBBBBBBBBBBBBBBBB",
  "BBBBBBBFBBCBCB2A1WBBBBBBBBBBBBBBBBBBBBBBBBBBBBBBBBBBJBBBBBBBBBBBBBBBBBBBBBBBBBBBBBBBBBBBBB",
  "BBBBBBBBBBBBBBBBCBBBBBBBBBBBBCBBBBBBBBBBBBBBBBBBBBBBBBBBBBBBBBBBBBBBBBBBBBBBBBBBBBBBBBBBBB",
  "BBBBBBBBBBBBBBBBBBBBBBBBBBBBBBBBBBBB1X1N33C1RCDtGG2bUJBB9EBDBQB4KBBBBBBBBBBBBBBBBBBBBBBBBB",
  "BBBBBBBBBBBBBBBBBBBBBBBBBBBBBBBBBBBBBBBBBBBBBBBBBBBBBBBBBBBBBBBBBBBBBBBBBBBBBBBBBBBBBBBBBB",
  "BBBBBBBBBBBBBBBBBBBBBBBBBBBBBBBBBHFBBBBBBBBBBBBBBBBBBBBBBBBBBBBBBBBBBBBBBBBBBBBBBBBBBBBBBB",
  "BBBBBBBBBBBBBBBBBBBBBBBBBBBBBBBBBBBBBBBJIGKIIIIGKIIIIOC2BBCEBBBDDBCEBDECCIIKDBCEBcZB1HQEB",
  "wL1A1zQ1WBBDCBBBBBBGBCBKBBBBBBBBBBBBBBBBBBBBBBBBBBBBBBBBBBBBBBBBBBBBBBBBBBBBBBBBBBBBBBBBBB",
  "BBBBBBBBBBBBBBBBBBBBBBBBBBBBBBBBBIBBBEBM1MBBFBx4DBBBBBBBBBBBBBBBBBBBBBBBBBBBBBBBBBBBBBBBBB",
  "BBBBTBBBBBBBBBBBBBBBBBBBBBBBBBBB5FBBBBBBBBBBBBBDBBBBBBBBBBBBBBBBBBBBBBBBBBBBBBBBBBBBBBBBBB",
  "BBBBBBBBBBBBBBBBBBBKBBBCBBBBBBBBBEBEBBCCBBBBBBBBBBBBBBBBBBBLBBBBBBBBBBBBBBBEBBBCBBBBBBBBBB",
  "BBBBB1ABxCB1C3CloIHMF14Z1A1bH1O5G1K5ZLBPBHBC1xB1Z4VW32O1GndW1G2HZxgG1I"]

/-- The table of the property `Dash`. -/
def dash : List String :=
  ["1TB1gUB1ZB3wJB13PB27DG2JB1NBPBfAB3aIBCB1FCEB1CBhEBTB4HB1k8AC1LBKB6NB3xOBcGB"]

/-- The table of the property `Default_Ignorable_Code_Point`. -/
def defaultIgnorableCodePoint : List String :=
  ["6RBpXBrOB32WC1qHC3HF26PF1AF1XQ4mYB1jyPQ9FB6EB3BJ1flNE5oXInoxL4dO"]

/-- The table of the property `Deprecated`. -/
def deprecated : List String := ["cRB1eVB2gTBBB28JC2eJGqVCqymKB"]

/-- The table of the property `Diacritic`. -/
def diacritic : List String := [
  "3QBBB2TBGBEBCCjJ6DBIFGRCEBJC9TF8BB2D1TBBBCBCBB5BIEC5ECECDD2P1B3NL2GL1IC4WI1PKQ1C2JBQBDE1CB",
  "2WBQB4GBQB4GBQB1VD2IBQBHB4PB4GBQB4GBQB4FCQB4UB4HBMGBB4DBNF2XC1BBBBBBEC2ODBC2KB4IBBC1OCEFZH",
  "BBKCrDD10MC1EB5SLJBdJDbGBUICB1WPCLDPCM2UBPB1MJ2CC2GBLC2OC2MG3EZEBGBCD1Y2L1W1KFM1LLhDBBDLDN",
  "DNDNC3jKDcFBjMG4BE3RBw4KBMCBB1CC3ECO1I3YD3YBGCMB1LB5VB1BS2FE1KB3RBMB1KB5TD2NE1ZB3WFJD4YC",
  "lnSBtPQaKBBB1VB1TC2PBtKB19NGB1QBJoNDEB6JClZG1MB1AFfGBCD2SL1XE7KB1PB2UC4QC2KB2YBJD4AC6WC3CC",
  "QBYHDF3LDBCNC3RBDB4TC9RC4WB4OC4LBaJC9YCEB6AB3FBSB3DBgFB9YBBC3DB2NBdVCXB5qAPc9PB2oAF2HHlSC",
  "lAR3CChiCEBHBC8hH1UCXkYDDGIICH1EE3yW2K7MHeLB2JEtMCsIH4FDBD"]

/-- The table of the property `Emoji`. -/
def emoji : List String := [
  "1JBGBFK4HBEB8mRBMB8IBWB3MGPCeDCMB6KBZLED7RB8XCKBJB2GEBFJBCBCCCBEBCBBCCBDBDCIDFBBBFMLCCBBCB",
  "BSBCCSGBBBCDCFBCCECLCFCCBFCBBBCUCFGBECBEBCBCGBBCBBBBBGBDBGBKCPBCBEBBBEDBBLC1WDJBOBOBeIChVD",
  "TC1ZBEB1bUBMBnDBBB3dtQB7UB6ECMCOBCK2X1ABCXBUBCJVC6S1IC4ICCBDC3FCDBaDB2LLGBYHCCIMBCECBECNCC",
  "BICJBFDMDIDCBBBEBGBDBG3I1W2SFICEDKDBBCDBCK8TMEBaX1VBKB7D4INDLD2FBBEQCMEK"]

/-- The table of the property `Emoji_Component`. -/
def emojiComponent : List String := ["1JBGBFK8pJB8FB1ohRB1uoW1AjNF1kAEndyQ3S"]

/-- The table of the property `Emoji_Modifier`. -/
def emojiModifier : List String := ["3sqXF"]

/-- The table of the property `Emoji_Modifier_Base`. -/
def emojiModifierBase : List String := [
  "afHB8LBQE3hxVB2IDCBCD4NCCLVTDBEDBDHBBBYB7TCEBVBEC6SDDF3FBQDJBLBmDBCBIIGBJKCD2EB2JCBCBBRDBN",
  "8VD1QJ"]

/-- The table of the property `Emoji_Presentation`. -/
def emojiPresentation : List String := [
  "9lQC7XEDBCBkBCVC1YM1RBTBNBICRCFCIBFBVBHCBBEBCBHBEC1CB1JBBBEDBB2JDYBOBxBC1ZBEB3ftEB7UB7IBCK",
  "2X1ABBYBUBCFBDVC6S1HMJB2SBWM1REFMRDBD2TBBB7FC2LNEBYSB1ACNB3I3H1W2SGBDDCEDELCHJ8TMEBaX1VBKB",
  "7D4INDLD2FBBEQCMEK"]

/-- The table of the property `Extended_Pictographic`. -/
def extendedPictographic : List String := [
  "6NBEB8mRBMB8IBWB3MGPCeDCMB6KBZLED7RB8XCKBJB2GEBFJBCBCCCBEBCBBCCBDBDCIDFBBBFMLCCBBCBBSBCCSG",
  "BBBCDCFBCCECLCFCCBFCBBBCUCFGBECBEBCBCGBBCBBBBBGBDBGBKCPBCBEBBBEDBBLC1WDJBOBOBeIChVDTC1ZBEB",
  "1bUBMBnDBBB3dtQB1NE3WMPCPBOC1LK4ICMCOBCKT2E1BPKBUBCJBEJXG7GC4ICCBDC3FCDBEF9UB2LLGBYHCCIMBC",
  "ECBECNCCBICJBFDMDIDCBBBEBGBDBG3I1W2SFICRDBBGCN8K1MME2EIKG1OI1ECMECOJ1NM1VBKB7D3KIO5Q9W13I"]

/-- The table of the property `Extender`. -/
def extender : List String := [
  "7BBkQCxUBgZBoGB5HB3LBsYB4XB2jFB2EBnNBfIB2QB5cJB1RF3ZC3PDudUB1mSB11ABWB5HB4EBVCn3VB27KC1lBB",
  "1BBEB1bBBbHB4MCjED1bJBwABl6EC19KCBBOCuzKC1aFBwUD"]

/-- The table of the property `Grapheme_Base`. -/
def graphemeBase : List String := [
  "1G3R1HNBmW4IICGEHBBBUB8QH6KB1MC1YCD1UBBBCBCBJ1BEGRKLBB1UVQB3XIBGCCBE1GCBB1E1D3LLBO1RJHDYEB",
  "JBDBHPBZFBBLF1GQ1Q2F2DBBBEIEBDHKC1DBCBICCCWBHBBDEDBBCGCCCBBNCBDEYFBBGECCWBHBCBCBCEDYEBBHKC",
  "DBBMBBJBDBWBHBCBFDEIBBCDBPCEMHBICBICCCWBHBCBFDBCBGCCCPCBDESLBBGDDBEDCBBBCDCDDDMFBBCDDBDDBV",
  "VGDBIBDBXBQDBDETDBCCCEKHKBLBDBXBKBFDCCBBCXDBCEKBDOLBDB1PCBBCFDBDBCEDBKE1ACCBSDYBJBBCHJCGHH",
  "KCDM1WBCLIIN1LCBBBFBYBBBKBCJBCFBBJKCE1GYC1BBBBBBOB1KSBFBCF1XIBGBN1L1TEBGBCCCZCEDQENBCCGBPB",
  "1OBBFBCeNBECHBBBEC1PBEC1HBECHBBBECPB2FBEC2PF1DD1AG3ICGCpTD3LHSNTDCJSONBDP2ACBHIBCLJDKGKGLF",
  "KG3LHFC1IBBF2SK1FEECDECBGHBD1QCFL1SE1AGLD2FCCD2EBBJBBCIGNKGKGO3I1WKEDIB1DJMC1GECG2EBBCDBBN",
  "1WICFPD2KF1RCLLBNBHEBGBDCBF7K2MaSCGC1MCGCIBBBBBBB1FC2BBPBOCGBTCDBJBLFYH1XQCC1BBND1I2K5KEpQ",
  "WLV1xSCeNDCF1TBBFBC2EHCPXJHBHBHBHBHBHBHBH1H3Q1I1AB3LM8G1A2GGQB3IE3XF1RB3QB3IJ1WBvaRD2DJdKU",
  "1VEBK1GC3CCGI8NURBDBEBZCFEKG2EI2QKMYNB1MIZLBM1EG1WBCECCCBNBLEHBZB1PGCCCLDBIBBCKC1GB1ZBBDCC",
  "FCBBBYRCILGCGCGJHBHB2IE4NBCBEDKGbxSMXE1X91CeCC4C1MHMFFBBYBFBBBCBCBpA1GQQKW1JBTBEEFB5FE6BC",
  "1FDGCGCGCDDHBHNCCMB1ABTBCBPCO1I4TFDE1TD3KBNDB1V1T5B1DD1XQ1BE1KJ1EF1MK1EB1LEO1Q6CCKG1KE1KE",
  "1OI2ALMBPBHBCBLBPBHBCD2AMbZJWKIYGB1QBJ2RGCBB1SBCDBCXB2UIJ1WTBCF1HD1BF1B1M2EEUC1VPEBDB1DKJH",
  "JH2M1G1LGMJ2CD1DC1BF1AHEMH3C2V2D1ZN1ZH1QMKG1MIYIC8A1FB1QDBCCQGIJ1N1OIWLJWSEE1M1CUXJBB2CPHE",
  "1EBCCBM1XECCCBEOZHKJ1KFBJSI1JBDL2AJBBIECBQBULSB1CDCEGBC2LHBBBEBPBLG1VBDNKICBICCCWBHBCBFDBB",
  "BBECCCCDBMH1CKBBCBB1MBBBCPBBCDBBDBC1N2EICDBBVBBBD1E1WBCGBBCBBCBCEIK6K1VBCGECBC1B1K1ZICBBCE",
  "LKGNT1RBBBCICGKGU1C1BDBBCEBJX7D1VJBCB3W3FMICBCIBCBYBFBCGEBDJK2SIC1QIEBE1BBK1OGCEIJBGCD1UNB",
  "CJN2VHK3JBDBBB3K1IOKGJB1MOBBGK1DD1GZBHBCB2XHBCB1MVBJKGGBCB1LECBBBBHKG1SEK9MTCEJPB1KICDX3IB",
  "P1YNzN3Y4HBFL7O2tK3VN15GRGZ49RFmL7bD1EMDDK1uSlXH1FBKE3DBKG1EHBK1WHPKKBHBVFTgQ2G7Q3NFZCZ1S",
  "2XF2ELN2MEOFJ7vY1P1G3T4L9aREBHBCBbFPB1DDCBOEIfG2gU4DFNDJHKCBCB47K9TDgUGXPR3R4M2I9MK1NC2IFD",
  "WCH1EE2JV2ODB4SUMUM3JJZ5F3HB2TBCCBCCCEBMBBBHB2NBECIBHB1CBEBFBBDHBdCCbGClQ2DE1YIBOBH17W1FGG",
  "aB2K5Q1TKHCKECcI1ES1SEKFBhW1CEK8G1ECLEB7K1FBDBCBHCFJC8QHBEBCBPB7PCJ1W2QHBEKECuF2Q2Y2J7MEB",
  "1BBCBBCBBKBEBBBBGBEBBBBBBDBCBBCBBBBBBBBBBCBBCEBHBEBEBBBKBRFDBFBR2ACaK1SE3WMPCPBPB1LK6S2E1D",
  "N1SEJHCOG5Y11XDRDND8KGMEBPME2EIKG1OI1ECMECOJ1NdGIOCNDLD2FBBEQCMEKH5RB3Z13P19nC1G4oOC66CC",
  "7zLPnY2mWkW1lY59ZF92O"]

/-- The table of the property `Grapheme_Extend`. -/
def graphemeExtend : List String := [
  "tO4IaPHaD1TBBBCBCBB2UL1WVQB3XHCGCCBE1JB1E1B3NL2GJJBYEBJBDBF1RD2HJ1QYB1G2DBBBEIEBDHKC1DB2GB",
  "BBCEIBJBKC1ABCC2FBECECCDDB1ECDBLC2FBEFBCEBUCWGBB2GBBCBEIBHDKC1EB2HBBBMBJB1OBDB2DBBDFDBEHCL",
  "C1DB2GBCCBBDDBEHCLC1CC2FCBBCEIBJBKC1DB2UBEBCDBBIB3DBCHMI3UBCJLH2VC1BBBBBB2DOBFBCFLB1KJB3YE",
  "BGBCCCZCEDQENBCCGBPBrBD10KE1CD1DC1EC2MCBHIBCLJB1TDBB4NC1IB4ODECJBGD8LCCB2GBBHBBBBCIGKCB1W",
  "1UCMUE1WKED1MJMC1GECG2EBBCDBBF2EICC5WDBNBHEBGBDC7Q2MkEB7N1H3aCD5LB3S1GlIG4BCw8EEBK1GC3CCaM",
  "BDBEBZCFB5VC1ASNB1MIZLBB1SD1WBCECCCB1KB2PGCCCCMBIB1VB1ZBBDCCFCBB1QCIB9EBCBEBlnSBsJQQQeCCnH",
  "B8SB5TF1sGDBCFE1ODEB6JCmBE2NFcFC2ZG2SL1XE4TB2CP1PBCCKD1XECCHB2JD1KFBI2KBMC2AJBBIECB3RDCEGB",
  "CB6BBDIVC2FCBBBBMBJBOHDF2PBCGBBCBBDEDBBOC3HICDBBXB3DBCGBBCBBCBC9BBCEGCBC1BC3HICBBC4CBBBCI",
  "3XBBBCEBF9ZJBC9LBKEEB5OECCEB1GK1OGCEIBJGCD1UNBC7QBBDBB7THBGBB3EWCHBCBC4SGDBBCBHBB2UCDBBBdJ",
  "CLC2AFFDXB5pTBGPc8YMDD2oAF2HH14IB2LE3DBLCkyXC50Z1UCXkWFDGIICH1EE5SD24D2DE1YIBOBWFBP1gIHBRC",
  "HBCBF3WB6EHeLB2JEjOE9UC9JBCBHCFBiGH4FHnigF3S4Y9G"]

/-- The table of the property `Hex_Digit`. -/
def hexDigit : List String := ["1WKHG1AG1xnLKHG1AG"]

/-- The table of the property `IDS_Binary_Operator`. -/
def idsBinaryOperator : List String := ["d4ACCKjDB"]

/-- The table of the property `IDS_Trinary_Operator`. -/
def idsTrinaryOperator : List String := ["d4CC"]

/-- The table of the property `ID_Continue`. -/
def idContinue : List String := [
  "1WKH1AEBB1A1VBKBBBCBFXB1FBhQEMOFHBBBR4NBCCEBBGFBBBUB3FB5JBFC6KB1MCBG1PI1TBBBCBCBBI1BEE1DLF",
  "2WE3YBICKBTCBQ2HC3XO2CEBCBC1US1CELFYBHH2XB4ZCKBTBICCCWBHBBDECJCCCEIBECBFCMKBBBCDBGECCWBHBC",
  "BCBCCBBFECCDDBHEBBHQLDBJBDBWBHBCBFCKBDBDCBPECKJHBDBICCCWBHBCBFCJCCCDHDECBFCKBBQCBGDDBEDCBB",
  "BCDCDDDMEFDDBECBGBOKQNBDBXBQCJBDBEHCBDBCCECKQEBIBDBXBKBFCJBDBEHCFDBECKBDMNBDB1ZBDBFFEHFCKK",
  "GBDBSDYBJBBCHDBEGBBBIGKCCN2GFPBK1NCBBBFBYBBBXCFBBBHBKCE1GBXCGKLBBBBBEKB1KEUBSB1KJB2F2WG3AC",
  "1MBBFBC1RBcVBECHBBBEC1PBEC1HBECHBBBECPB2FBEC2PCDJJOQQ3ICGDnWCRB1AF2XDLHWJWLUMNBDBCM3GDBECC",
  "K1HDBLG3LH1RF2SK1FBMEMK1OCFL1SE1AGL1L1CE2LB1DCLGKNBIOB1FCMU2ZDKRJM4MM2EIKD1XCLF1RCDQDB1NF",
  "kOCGC1MCGCIBBBBBBB1FC2BBHBBDDBHDECGENFDBHPC1XCTB1CBNBQN1ZNEBDMRBEBCKBBCGGBBBBBBQCEFFEBR1P",
  "2vB8VGJM1MBBFBC2EHBPYJHBHBHBHBHBHBHBHB1GjXDZPBFCFE3ICHB3RF1RB3QR1G1WQjS71O2MnoF2P1UCaJD1CU",
  "1WEKB4L1LJC3ZC3EU2DEBT2AM2SKKGYDBB1XC1KM1DD2NOLG1FB2DJOCKGXD2VYDCQCFKGCGCGJHBHB1RBOG4TBCCK",
  "GbxSMXE1X91CeCC4C1MHMFFMBNBFBBBCBCB4E1HdZS2MC2C1OMEQQQDCYD1GFB5FTKH1AEBB1AK3MDGCGCGCD1JMB",
  "1ABTBCBPCO1I4T2R2B5GB5A1DD1XPB1F1GN1EF1RF1EC1KEIBF1Q6CCKG1KE1KE1OI2AMLBPBHBCBLBPBHBCD2AMbZ",
  "JWKIYGB1QBJ2RGCBB1SBCDBCXKXJ1F2NTBCKWK1AG1A1M2EGC2MEBCFIBDB1DCDEB1G1DD1D1JIB1EZ2CKWKTNS4G",
  "2V2D1ZN1ZN1OIKG1MDFBX9Q1QBCDCQG1Y1JKBI1H1FW1QV1BXJ2T1FQJ2IHBNZHKG2BBKEEI1KCBJ2REEBNBB1JSB",
  "1LGE2KHBBBEBPBKH2HFKGEBICCCWBHBCBFBKCCCDCBGBFHCHDFLKBBCBB1MBKBBCBBEBINC1D2XFKEE1E2SBBIK6K",
  "2CCJXG1I2NDBLK1M2FHKGU1C1BCPEKGH7D2H3X2WVICBCIBCB1EBCCJMK2SIC1UCIBC1B2LIBI2WDBS2V3ZI3K1HPK",
  "GJB1TBJPKY1ECWBO2VHBCB1SDBBCBJIKGGBCB1LBCBGHKG1SEK9MXJRB1PDFNL3HB3BzM3Y4HR7O2tK3TP15GQWK",
  "49RFmL7bD2G1uSlXH1FBKG3BBKG1ECFL2DJEMKJVFTgQ1TDK7Q2M1GZCZ1S2XE2FHR2MCBCLHJ7vY1P1G3T4L9aREB",
  "HBCBbFPB1DDCBOEIfG2gU4DFNDJHKDC4gRKjY1UCXkWFDGIICH1EE5SDhB3HB2TBCCBCCCEBMBBBHB2NBECIBHB1CB",
  "EBFBBDHBdCCZBZB1FBZB1FBZB1FBZB1FBZBIC1YjS2DE1YIBOBWFBP16M1FGG8FHBRCHBCBFF2K1HB4I1TDOCKEBcJ",
  "1FR2GiC1Q8G1R7P1FBWIC8QHBEBCBPB7PLH1P2YEK19UEB1BBCBBCBBKBEBBBBGBEBBBBBBDBCBBCBBBBBBBBBBCBB",
  "CEBHBEBEBBBKBRFDBFBR3mAK13Q19nC1G4oOC66CC7zLPnY2mWkW1lY59ZF92Ol03Y9G"]

/-- The table of the property `ID_Start`. -/
def idStart : List String := [
  "2N1AG1A1VBKBEBFXB1FBhQEMOFHBBB4ZFBCCEBBGBBDBBBUB3FB5JI6KB1MCBG1P2T1BEE1T1R1JCB3VBBPCHCKDCB",
  "QBB1E1D3LLBY1HJCEBFWEBJBDBXZHLFYBHQ1Q2G2CDBSBHKPQEICCCWBHBBDEDBQBNCBDOCKBIGECCWBHBCBCBC1FE",
  "BBTDQJBDBWBHBCBFDBSBPCXBLICCCWBHBCBFDB1ECBDPBRBBGDDBEDCBBBCDCDDDMWB2AIBDBXBQDB1ADBCCC1EBEI",
  "BDBXBKBFDB1EDBCPCRJBDB1PCBQBFDIDYGFSDYBJBBCH2G1WBCMH2GCBBBFBYBBBKBCJBCFBBVE1GB2LIB1K1BF4L",
  "1RUBQGEEDBDCHDENMBR1MBBFBC1RBcVBECHBBBEC1PBEC1HBECHBBBECPB2FBEC2P1LQQ3ICGDnWCRB1AF2XDLHSNT",
  "OSONBDP2A1JBEB2P3LH1PBBF2SK1F1X1ECFL1SE1A2CXJ2B3EB3P1VRI2C1ENCK1S1A1K1PDK1KCLF1RCD1PEBGBCD",
  "BF7K2MaSCGC1MCGCIBBBBBBB1FC2BBHBBDDBHDECGENFDBH4MBNBQN3XBEBCKBBCGGBBBBBBQCEFFEBR1P2vB8VGED",
  "CM1MBBFBC2EHBQXJHBHBHBHBHBHBHBHlEDZJHFCFE3IEFB3MBEF1RB3QR1G1WQjS71O2MnoF2P1UCaJDQKCU1VQ1FC",
  "3C1NJC3ZC3EURBDBEBX1D2AO1Y2KGDBBCL1CKXZ1DH1V1CBQFBKKFB1PXDBIUXDBD1YBBDCCFCBBBYDCLHDMGCGCGJ",
  "HBHB1RBOG4L1DbxSMXE1X91CeCC4C1MHMFFBBKBNBFBBBCBCB4E1HdZS2MC2C1OM4MFB5F1K1AG1AL3LDGCGCGCD1J",
  "MB1ABTBCBPCO1I4T2R2BaH1DD1X1V1GN1EF1MK1EC1KEIBF1Q6CS1KE1KE1OI2AMLBPBHBCBLBPBHBCD2AMbZJWKIY",
  "GB1QBJ2RGCBB1SBCDBCXKXJ1F2NTBCKWK1AG1A1M2EGC2MBPEBDB1D1Q1DD1D1JIB1C1B2CKWKTNS4G2V2D1ZN1ZN",
  "1K1M1CJX9Q1QGCQG2E1DKBIW1QS1UV1BXM2B2FCCBN1T1GZ1A1K1DBCBI1JDBM1WOEVBBB1JSBZTC2LHBBBEBPBKH",
  "1V1MICCCWBHBCBFDBSBMF1EKBBCBB1MBBZBBB1S2BSEUD1E1WUCBB7C1V1PE1K1WUB2H1RNB2T1B1LH7D1S4M2M1FI",
  "CBCIBCBYPBBB3QIC1NQBBB1CBK1OHBVBL1UTBS2V7R1H1FJB1LRB1X1E4IHBCB1MVBZGBCB1GOBX1SaATPBBNB1I4U",
  "B3BzM3Y4HR7O2tK3TP15GRGZ49RFmL7bD1E1vUlXH1FR3BR1ES1WQE1FVFTgQ1T8D2M1GZCZ1S2XFB2ON2MCBBOFJ",
  "7vY1P1G3T4L9aREBHBCBbFPB1DDCBOEIfG2gU4DFNDJHK6eK3HB2TBCCBCCCEBMBBBHB2NBECIBHB1CBEBFBBDHBdC",
  "CZBZB1FBZB1FBZB1FBZB1FBZBI1yY1FGGaB2K5Q1TKHQBcJ1ES1SiQ1C8U1ECB7Z1FBDBCBHCFJC8QHBEBCBPB7P2H",
  "2QHB1aIEB1BBCBBCBBKBEBBBBGBEBBBBBBDBCBBCBBBBBBBBBBCBBCEBHBEBEBBBKBRFDBFBR4qA19nC1G4oOC66CC",
  "7zLPnY2mWkW1lY59ZF92O"]

/-- The table of the property `Ideographic`. -/
def ideographic : List String :=
  ["d4WCZJOD11D71O2MmfKocIeCC4Cw0KBNFJ7vY1P1G3T4L9pLfGl2I19nC1G4oOC66CC7zLPnY2mWkW1lY59ZF92O"]

/-- The table of the property `Join_Control`. -/
def joinControl : List String := ["8rOC"]

/-- The table of the property `Logical_Order_Exception`. -/
def logicalOrderException : List String := ["3wIF4TF2zSDCB13nMCCBBC"]

/-- The table of the property `Lowercase`. -/
def lowercase : List String := [
  "3T1A1VBKBEB1KYBIBBBBBBBBBBBBBBBBBBBBBBBBBBBBBBBBBBBBBBBBBBBBBBBBBBBBBBBCBBBBBBBBBBBBBBBCBB",
  "BBBBBBBBBBBBBBBBBBBBBBBBBBBBBBBBBBBBBBBBBBBBCBBBBDCBBBCBDCEBCBDDCBCBBBBBCBBCBBCBDBBBCCCDGB",
  "CBCBBBBBBBBBBBBBBBBCBBBBBBBBBBBBBBBBBCCBBBDBBBBBBBBBBBBBBBBBBBBBBBBBBBBBBBBBBBBBBBBBBBBBBB",
  "BBBBBBBBBBBHCBCCBBEBBBBBBBB2RC1JHC1EF3SB1RBBBDBCESB1B1JBCDDBBBBBBBBBBBBBBBBBBBBBBBFBBCBCC",
  "1Z1WBBBBBBBBBBBBBBBBBBBBBBBBBBBBBBBBBBJBBBBBBBBBBBBBBBBBBBBBBBBBBBBBBBBBBBBBBBBBBBBBBBBBBB",
  "BBCBBBBBBBBBBBBCBBBBBBBBBBBBBBBBBBBBBBBBBBBBBBBBBBBBBBBBBBBBBBBBBBBBBBBBBBBBBBBBBBBBBBBBBB",
  "BBBBBBBBBBBBBBBBBBBBBB1W1P33B1RBEtGG2bUJBB4N7K2NBBBBBBBBBBBBBBBBBBBBBBBBBBBBBBBBBBBBBBBBBB",
  "BBBBBBBBBBBBBBBBBBBBBBBBBBBBBBBBBBBBBBBBBBBBBBBBBBBBBBBBBBBBBBBBBBBBBBBBBBBBBBBBBBBBBBBBBB",
  "BBBBBBBBBBBBBBBBJBBBBBBBBBBBBBBBBBBBBBBBBBBBBBBBBBBBBBBBBBBBBBBBBBBBBBBBBBBBBBBBBBBBBBBBBB",
  "BBBBBBBBBBBBBBBBBBBBBBBBJIGKIIIIGKIIIIOCIIIIIIFBCGBDDBCIECCIIKDBC4RBNBQN4FBDCDB1BBEBEBCCIE",
  "EB1HQEBwL1A1zQ1WBBDCBBBBBBEBBCBIDBBBBBBBBBBBBBBBBBBBBBBBBBBBBBBBBBBBBBBBBBBBBBBBBBBBBBBBBB",
  "BBBBBBBBBBBBBBBBBBBBBBBBBBBBBBBBBBBBBBBBBCHBBBEBM1MBBFBx4DBBBBBBBBBBBBBBBBBBBBBBBBBBBBBBBB",
  "BBBBBBBBBBBBBTBBBBBBBBBBBBBBBBBBBBBBBBBBD5DBBBBBBBBBBBBDBBBBBBBBBBBBBBBBBBBBBBBBBBBBBBBBBB",
  "BBBBBBBBBBBBBBBBBBBBBBBBBBBKBBBBCBBBBBBBBBEBBBCBBDBBBBBBBBBBBBBBBBBBBBFBFBBBBBBBBBBBBBBBEB",
  "BBCBBBBBBBBBBBBBBBVEBBBDvP1RBOG3CloIHMF14Z1A1bH1O5G1K5ZLBPBHBChJBCDB1QBJ1dL1Z4VW32O1GndW1G",
  "2HZrpE1A1AHBS1A1A1AEBBBHBL1A1A1A1A1A1A1A1A1A1A1A1A1A1A1A1A1A1C1CZBG1AZBG1AZBG1AZBG1AZBGBB",
  "1yYKBUGGaB2K2dS1I"]

/-- The table of the property `Math`. -/
def math : List String := [
  "1RBQD1FB1DBBB1TBEB1LB1FBsADCB1ACCDkHD74NB1BDLBDBNBOEVFLF2NNEBDCEFSBEBCKBBCGGBDCCCBDBGDOBB",
  "2QYBGBCECE1GBBGCOaIIEUC3MB1E1BBBYBLHhDCMKEGECCCDFOBBBCGLIFC2FBBB1DEJDcY2M9WjS1WVCG1kuQBvRG",
  "BB6GBQD1DBBB1DBBB5BBGE3qFC1gwAB1dV3HB2TBCCBCCCEBMBBBHB2NBECIBHB1CBEBFBBDHBdCCbGC1Y60QEB1BB",
  "CBBCBBKBEBBBBGBEBBBBBBDBCBBCBBBBBBBBBBCBBCEBHBEBEBBBKBRFDBFBR2AC2pEJ"]

/-- The table of the property `Noncharacter_Code_Point`. -/
def noncharacterCodePoint : List String :=
  ["1xfC1GkGC1y0OC1y0OC1y0OC1y0OC1y0OC1y0OC1y0OC1y0OC1y0OC1y0OC1y0OC1y0OC1y0OC1y0OC1y0OC1y0OC"]

/-- The table of the property `Pattern_Syntax`. -/
def patternSyntax : List String :=
  ["1HPKH1AEBB1AE1IHBBBCBBBCEBEBDBXB1FB8iEYIPCTBKbTrS6EoG1E17OjS4YeVDEZPB1k2ZCaBC"]

/-- The table of the property `Pattern_White_Space`. -/
def patternWhiteSpace : List String := ["JFSB3WB8mMCYC"]

/-- The table of the property `Quotation_Mark`. -/
def quotationMark : List String := ["1IBEB5BBPB8kUIZC3uDBhPEND1kdPE7HBEB3MC"]

/-- The table of the property `Radical`. -/
def radical : List String := ["cpW1AB3LM8G"]

/-- The table of the property `Regional_Indicator`. -/
def regionalIndicator : List String := ["3s6K1A"]

/-- The table of the property `Sentence_Terminal`. -/
def sentenceTerminal : List String := [
  "1HBMBQB1gBB5RD6YB1RD9MB2JBBBDCbHC1vWCuKBECtTB7QC6BC1TBFBcCCdQE6GCKCCC1DD7FC2NCzWBXCJD3gXD",
  "bUBNBWCgNBvzWBaKC8TBDBeSC3IC3RB5WC5RD5OC9PBmgWBCC2HBDC6NBMBQB2NB2zWC1dDF1SE7HC4NE4XD4ZCGBQ",
  "C3KCBC4EBbMC4NCeJCFP4BC9PDjXBBB9RC3JCgECqQC2WCkkBC5DB2NCLBlHCbKBlcGB86MB"]

/-- The table of the property `Soft_Dotted`. -/
def softDotted : List String := [
  "4BC7OBaVB1EB2ABUBcIB3UBBB6uNB1ZBNBDB5CB6BBgFB8GC32GB37vHC1YC1YC1YC1YC1YC1YC1YC1YC1YC1YC1YC",
  "1YC2bYBbTC1AB"]

/-- The table of the property `Terminal_Punctuation`. -/
def terminalPunctuation : List String := [
  "1HBKBBBLCDBvYBIBjTB2FB2UBOBBD6YB1RLBB9BC2CGBI1FBaBC1cUC6QBEGbZCuJItTB4UD2TC6BDDB1NECCcCCdQ",
  "E6GCKCBD1DD7FF2KCzWBXCJD3gXDbUBNBEBKBBCDCgMCvzVCaJD8TFeSC3IC3RB5VD5RD4XBQC9PBmgWBCC2FDBE6N",
  "BKBBBLCDB2NBCB15QB1WB18OB7RBbYC5WG2QG3LE10QF1SE7HH4IE4XD4ZCGBQC3KF4EBbMC4NDMCdUEDP4BC9PDjX",
  "BBB9RC3JCECfYD1TBoVC2WC1eXFj4ZC5DB2NDKBlHCbJClcGB86LE"]

/-- The table of the property `Unified_Ideograph`. -/
def unifiedIdeograph : List String :=
  ["e8A71O2MmfKomSCBBBCKBBBBCCD1zmC19nC1G4oOC66CC7zLPnY4tQ59ZF92O"]

/-- The table of the property `Uppercase`. -/
def uppercase : List String := [
  "2N1A3XXBH1HBBBBBBBBBBBBBBBBBBBBBBBBBBBBBBBBBBBBBBBBBBBBBBBBBBBBBBBCBBBBBBBBBBBBBBBCBBBBBBB",
  "BBBBBBBBBBBBBBBBBBBBBBBBBBBBBBBBBBBBBBBCBBBBDCBBBCBDCEBCBDDCBCBBBBBCBBCBBCBDBBBCDBHBCBCBCB",
  "BBBBBBBBBBBBBBCBBBBBBBBBBBBBBBBBCBCBBDBBBBBBBBBBBBBBBBBBBBBBBBBBBBBBBBBBBBBBBBBBBBBBBBBBBB",
  "BBBBBBHCBCCBBEBBBBBBBBbDBBBDBIBGBBDBBBCBRBJ1JBCDDBBBBBBBBBBBBBBBBBBBBBBBFBCBBCC1Z1WBBBBBBB",
  "BBBBBBBBBBBBBBBBBBBBBBBBBBJBBBBBBBBBBBBBBBBBBBBBBBBBBBBBBBBBBBBBBBBBBBBBBBBBBBBBBCBBBBBBBB",
  "BBBBCBBBBBBBBBBBBBBBBBBBBBBBBBBBBBBBBBBBBBBBBBBBBBBBBBBBBBBBBBBBBBBBBBBBBBBBBBBBBBBBBBBBBB",
  "BBBBBBBBBBC1M33D1MBBFBrU3I2cLBG1RCDcIBBBBBBBBBBBBBBBBBBBBBBBBBBBBBBBBBBBBBBBBBBBBBBBBBBBBB",
  "BBBBBBBBBBBBBBBBBBBBBBBBBBBBBBBBBBBBBBBBBBBBBBBBBBBBBBBBBBBBBBBBBBBBBBBBBBBBBBBBBBBBBBBBBB",
  "BBBBBBJBBBBBBBBBBBBBBBBBBBBBBBBBBBBBBBBBBBBBBBBBBBBBBBBBBBBBBBBBBBBBBBBBBBBBBBBBBBBBBBBBBB",
  "BBBBBBBBBBBBBBJIIGKIIIIGLBBBBBBBII2UEMEMEMFLEaCBEBDDCDCBDFGBBBBBBECEKCFB1AQTBvM1A1yU1W1WBB",
  "DCBBBBBBEBBCBIDBBBBBBBBBBBBBBBBBBBBBBBBBBBBBBBBBBBBBBBBBBBBBBBBBBBBBBBBBBBBBBBBBBBBBBBBBBB",
  "BBBBBBBBBBBBBBBBBBBBBBBIBBBEBx6JBBBBBBBBBBBBBBBBBBBBBBBBBBBBBBBBBBBBBBBBBBBBBTBBBBBBBBBBBB",
  "BBBBBBBBBBBBBBB5FBBBBBBBBBBBBBDBBBBBBBBBBBBBBBBBBBBBBBBBBBBBBBBBBBBBBBBBBBBBBBBBBBBBBBBBBB",
  "BBKBBBBCBBBBBBBBEBBBCBBBDBBBBBBBBBBBBBBBBBBBBFBFBBBBBBBBBBBBBBBEBBBCBBBBBBBBBBBBBBBBYBnuH",
  "1A1aZ1O5G1K6ALBPBHBC1wC1Z6BW32O1GndW1G2MZrpF1A1A1A1A1A1ABBCCBCCCEBI1A1A1ACBECIBH1BCBEBFBBD",
  "H1B1A1A1A1A1A1A1A1A1A1A1A1EZ1HZ1HZ1HZ1HZ1HB4pL1I27I1AG1AG1A"]

/-- The table of the property `Variation_Selector`. -/
def variationSelector : List String := ["6kTDBB1qwAQpb0Y9G"]

/-- The table of the property `White_Space`. -/
def whiteSpace : List String := ["JFSB3WB1AB5zJB2lNL1DCFB1VB49WB"]

/-- The table of the property `XID_Continue`. -/
def xidContinue : List String := [
  "1WKH1AEBB1A1VBKBBBCBFXB1FBhQEMOFHBBBR4NBCDDBBGFBBBUB3FB5JBFC6KB1MCBG1PI1TBBBCBCBBI1BEE1DLF",
  "2WE3YBICKBTCBQ2HC3XO2CEBCBC1US1CELFYBHH2XB4ZCKBTBICCCWBHBBDECJCCCEIBECBFCMKBBBCDBGECCWBHBC",
  "BCBCCBBFECCDDBHEBBHQLDBJBDBWBHBCBFCKBDBDCBPECKJHBDBICCCWBHBCBFCJCCCDHDECBFCKBBQCBGDDBEDCBB",
  "BCDCDDDMEFDDBECBGBOKQNBDBXBQCJBDBEHCBDBCCECKQEBIBDBXBKBFCJBDBEHCFDBECKBDMNBDB1ZBDBFFEHFCKK",
  "GBDBSDYBJBBCHDBEGBBBIGKCCN2GFPBK1NCBBBFBYBBBXCFBBBHBKCE1GBXCGKLBBBBBEKB1KEUBSB1KJB2F2WG3AC",
  "1MBBFBC1RBcVBECHBBBEC1PBEC1HBECHBBBECPB2FBEC2PCDJJOQQ3ICGDnWCRB1AF2XDLHWJWLUMNBDBCM3GDBECC",
  "K1HDBLG3LH1RF2SK1FBMEMK1OCFL1SE1AGL1L1CE2LB1DCLGKNBIOB1FCMU2ZDKRJM4MM2EIKD1XCLF1RCDQDB1NF",
  "kOCGC1MCGCIBBBBBBB1FC2BBHBBDDBHDECGENFDBHPC1XCTB1CBNBQN1ZNEBDMRBEBCKBBCGGBBBBBBQCEFFEBR1P",
  "2vB8VGJM1MBBFBC2EHBPYJHBHBHBHBHBHBHBHB1GjXDZPBFCFE3ICCCDB3RF1RB3QR1G1WQjS71O2MnoF2P1UCaJD",
  "1CU1WEKB4L1LJC3ZC3EU2DEBT2AM2SKKGYDBB1XC1KM1DD2NOLG1FB2DJOCKGXD2VYDCQCFKGCGCGJHBHB1RBOG4TB",
  "CCKGbxSMXE1X91CeCC4C1MHMFFMBNBFBBBCBCB4E1H5JG8KS2MC2C1OKGQQQDCYD1HBBBDBBBBBBBB4WTKH1AEBB1A",
  "K3MDGCGCGCD1JMB1ABTBCBPCO1I4T2R2B5GB5A1DD1XPB1F1GN1EF1RF1EC1KEIBF1Q6CCKG1KE1KE1OI2AMLBPBHB",
  "CBLBPBHBCD2AMbZJWKIYGB1QBJ2RGCBB1SBCDBCXKXJ1F2NTBCKWK1AG1A1M2EGC2MEBCFIBDB1DCDEB1G1DD1D1JI",
  "B1EZ2CKWKTNS4G2V2D1ZN1ZN1OIKG1MDFBX9Q1QBCDCQG1Y1JKBI1H1FW1QV1BXJ2T1FQJ2IHBNZHKG2BBKEEI1KCB",
  "J2REEBNBB1JSB1LGE2KHBBBEBPBKH2HFKGEBICCCWBHBCBFBKCCCDCBGBFHCHDFLKBBCBB1MBKBBCBBEBINC1D2XFK",
  "EE1E2SBBIK6K2CCJXG1I2NDBLK1M2FHKGU1C1BCPEKGH7D2H3X2WVICBCIBCB1EBCCJMK2SIC1UCIBC1B2LIBI2WDB",
  "S2V3ZI3K1HPKGJB1TBJPKY1ECWBO2VHBCB1SDBBCBJIKGGBCB1LBCBGHKG1SEK9MXJRB1PDFNL3HB3BzM3Y4HR7O",
  "2tK3TP15GQWK49RFmL7bD2G1uSlXH1FBKG3BBKG1ECFL2DJEMKJVFTgQ1TDK7Q2M1GZCZ1S2XE2FHR2MCBCLHJ7vY",
  "1P1G3T4L9aREBHBCBbFPB1DDCBOEIfG2gU4DFNDJHKDC4gRKjY1UCXkWFDGIICH1EE5SDhB3HB2TBCCBCCCEBMBBBH",
  "B2NBECIBHB1CBEBFBBDHBdCCZBZB1FBZB1FBZB1FBZB1FBZBIC1YjS2DE1YIBOBWFBP16M1FGG8FHBRCHBCBFF2K1H",
  "B4I1TDOCKEBcJ1FR2GiC1Q8G1R7P1FBWIC8QHBEBCBPB7PLH1P2YEK19UEB1BBCBBCBBKBEBBBBGBEBBBBBBDBCBBC",
  "BBBBBBBBBBCBBCEBHBEBEBBBKBRFDBFBR3mAK13Q19nC1G4oOC66CC7zLPnY2mWkW1lY59ZF92Ol03Y9G"]

/-- The table of the property `XID_Start`. -/
def xidStart : List String := [
  "2N1AG1A1VBKBEBFXB1FBhQEMOFHBBB4ZFBCDDBBGBBDBBBUB3FB5JI6KB1MCBG1P2T1BEE1T1R1JCB3VBBPCHCKDCB",
  "QBB1E1D3LLBY1HJCEBFWEBJBDBXZHLFYBHQ1Q2G2CDBSBHKPQEICCCWBHBBDEDBQBNCBDOCKBIGECCWBHBCBCBC1FE",
  "BBTDQJBDBWBHBCBFDBSBPCXBLICCCWBHBCBFDB1ECBDPBRBBGDDBEDCBBBCDCDDDMWB2AIBDBXBQDB1ADBCCC1EBEI",
  "BDBXBKBFDB1EDBCPCRJBDB1PCBQBFDIDYGFSDYBJBBCH2G1WBBNH2GCBBBFBYBBBKBBKBCFBBVE1GB2LIB1K1BF4L",
  "1RUBQGEEDBDCHDENMBR1MBBFBC1RBcVBECHBBBEC1PBEC1HBECHBBBECPB2FBEC2P1LQQ3ICGDnWCRB1AF2XDLHSNT",
  "OSONBDP2A1JBEB2P3LH1PBBF2SK1F1X1ECFL1SE1A2CXJ2B3EB3P1VRI2C1ENCK1S1A1K1PDK1KCLF1RCD1PEBGBCD",
  "BF7K2MaSCGC1MCGCIBBBBBBB1FC2BBHBBDDBHDECGENFDBH4MBNBQN3XBEBCKBBCGGBBBBBBQCEFFEBR1P2vB8VGED",
  "CM1MBBFBC2EHBQXJHBHBHBHBHBHBHBHlEDZJHFCFE3IGDB3MBEF1RB3QR1G1WQjS71O2MnoF2P1UCaJDQKCU1VQ1FC",
  "3C1NJC3ZC3EURBDBEBX1D2AO1Y2KGDBBCL1CKXZ1DH1V1CBQFBKKFB1PXDBIUXDBD1YBBDCCFCBBBYDCLHDMGCGCGJ",
  "HBHB1RBOG4L1DbxSMXE1X91CeCC4C1MHMFFBBKBNBFBBBCBCB4E1H5JG8KS2MC2C1OK4PBBBDBBBBBBBB4W1K1AG1A",
  "L2EC1FDGCGCGCD1JMB1ABTBCBPCO1I4T2R2BaH1DD1X1V1GN1EF1MK1EC1KEIBF1Q6CS1KE1KE1OI2AMLBPBHBCBLB",
  "PBHBCD2AMbZJWKIYGB1QBJ2RGCBB1SBCDBCXKXJ1F2NTBCKWK1AG1A1M2EGC2MBPEBDB1D1Q1DD1D1JIB1C1B2CKWK",
  "TNS4G2V2D1ZN1ZN1K1M1CJX9Q1QGCQG2E1DKBIW1QS1UV1BXM2B2FCCBN1T1GZ1A1K1DBCBI1JDBM1WOEVBBB1JSBZ",
  "TC2LHBBBEBPBKH1V1MICCCWBHBCBFDBSBMF1EKBBCBB1MBBZBBB1S2BSEUD1E1WUCBB7C1V1PE1K1WUB2H1RNB2T1B",
  "1LH7D1S4M2M1FICBCIBCBYPBBB3QIC1NQBBB1CBK1OHBVBL1UTBS2V7R1H1FJB1LRB1X1E4IHBCB1MVBZGBCB1GOBX",
  "1SaATPBBNB1I4UB3BzM3Y4HR7O2tK3TP15GRGZ49RFmL7bD1E1vUlXH1FR3BR1ES1WQE1FVFTgQ1T8D2M1GZCZ1S2X",
  "FB2ON2MCBBOFJ7vY1P1G3T4L9aREBHBCBbFPB1DDCBOEIfG2gU4DFNDJHK6eK3HB2TBCCBCCCEBMBBBHB2NBECIBHB",
  "1CBEBFBBDHBdCCZBZB1FBZB1FBZB1FBZB1FBZBI1yY1FGGaB2K5Q1TKHQBcJ1ES1SiQ1C8U1ECB7Z1FBDBCBHCFJC",
  "8QHBEBCBPB7P2H2QHB1aIEB1BBCBBCBBKBEBBBBGBEBBBBBBDBCBBCBBBBBBBBBBCBBCEBHBEBEBBBKBRFDBFBR4qA",
  "19nC1G4oOC66CC7zLPnY2mWkW1lY59ZF92O"]

/-- The tables by the name of their property. -/
def tables : List (String × List String) := [
  ("ASCII_Hex_Digit", asciiHexDigit),
  ("Alphabetic", alphabetic),
  ("Bidi_Control", bidiControl),
  ("Bidi_Mirrored", bidiMirrored),
  ("Case_Ignorable", caseIgnorable),
  ("Cased", cased),
  ("Changes_When_Casefolded", changesWhenCasefolded),
  ("Changes_When_Casemapped", changesWhenCasemapped),
  ("Changes_When_Lowercased", changesWhenLowercased),
  ("Changes_When_Titlecased", changesWhenTitlecased),
  ("Changes_When_Uppercased", changesWhenUppercased),
  ("Dash", dash),
  ("Default_Ignorable_Code_Point", defaultIgnorableCodePoint),
  ("Deprecated", deprecated),
  ("Diacritic", diacritic),
  ("Emoji", emoji),
  ("Emoji_Component", emojiComponent),
  ("Emoji_Modifier", emojiModifier),
  ("Emoji_Modifier_Base", emojiModifierBase),
  ("Emoji_Presentation", emojiPresentation),
  ("Extended_Pictographic", extendedPictographic),
  ("Extender", extender),
  ("Grapheme_Base", graphemeBase),
  ("Grapheme_Extend", graphemeExtend),
  ("Hex_Digit", hexDigit),
  ("IDS_Binary_Operator", idsBinaryOperator),
  ("IDS_Trinary_Operator", idsTrinaryOperator),
  ("ID_Continue", idContinue),
  ("ID_Start", idStart),
  ("Ideographic", ideographic),
  ("Join_Control", joinControl),
  ("Logical_Order_Exception", logicalOrderException),
  ("Lowercase", lowercase),
  ("Math", math),
  ("Noncharacter_Code_Point", noncharacterCodePoint),
  ("Pattern_Syntax", patternSyntax),
  ("Pattern_White_Space", patternWhiteSpace),
  ("Quotation_Mark", quotationMark),
  ("Radical", radical),
  ("Regional_Indicator", regionalIndicator),
  ("Sentence_Terminal", sentenceTerminal),
  ("Soft_Dotted", softDotted),
  ("Terminal_Punctuation", terminalPunctuation),
  ("Unified_Ideograph", unifiedIdeograph),
  ("Uppercase", uppercase),
  ("Variation_Selector", variationSelector),
  ("White_Space", whiteSpace),
  ("XID_Continue", xidContinue),
  ("XID_Start", xidStart)]

end Property

end Conformance
