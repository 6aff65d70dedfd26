/-
Scripts.

Every code point has one script, and some are used in further ones: those
belong to the extensions of each script that uses them. A script's extensions
are kept as the code points by which they differ from the script itself.
-/
import Conformance.Unicode.CodeSet

namespace Conformance

/-- A script: its name, its other names, the table of its code points and the
table of those by which its extensions differ. -/
structure Script where
  name : String
  aliases : List String
  table : List String
  extended : List String

namespace Script

def adlam : Script where
  name := "Adlam"
  aliases := ["Adlm"]
  table := ["3pqU2YEKEC"]
  extended := ["1oHB1GB74OB3tHB"]

def ahom : Script where
  name := "Ahom"
  aliases := []
  table := ["24bC1BCPEX"]
  extended := []

def anatolianHieroglyphs : Script where
  name := "Anatolian_Hieroglyphs"
  aliases := ["Hluw"]
  table := ["2gmEmL"]
  extended := []

def arabic : Script where
  name := "Arabic"
  aliases := ["Arab"]
  table := [
    "1nCFBGBOBDB1GBKL1AB4EB1I3C1W9G1IF2XB1D1u9WjAC5O1GQ4IFB5F47N1F2PGIJ1HG1ozSEB1BBCBBCBBKBEB",
    "BBBGBEBBBBBBDBCBBCBBBBBBBBBBCBBCEBHBEBEBBBKBRFDBFBR2AC"]
  extended := ["1nOBOBDB1GBKL1AB72SB3tHB1kmAC1jK1C"]

def armenian : Script where
  name := "Armenian"
  aliases := ["Armn"]
  table := ["1fD1MC1YCD1v5JF"]
  extended := ["tWB"]

def avestan : Script where
  name := "Avestan"
  aliases := ["Avst"]
  table := ["210Y2CDH"]
  extended := ["7BBcfSC"]

def balinese : Script where
  name := "Balinese"
  aliases := ["Bali"]
  table := ["7dW2ZB1Y"]
  extended := []

def bamum : Script where
  name := "Bamum"
  aliases := ["Bamu"]
  table := ["19kQ3K1gsQlX"]
  extended := []

def bassaVah : Script where
  name := "Bassa_Vah"
  aliases := ["Bass"]
  table := ["2r8I1ECG"]
  extended := []

def batak : Script where
  name := "Batak"
  aliases := ["Batk"]
  table := ["7lG2AIE"]
  extended := []

def bengali : Script where
  name := "Bengali"
  aliases := ["Beng"]
  table := ["2lOEBICCCWBHBBDECJCCCEIBECBFCZ"]
  extended := ["qYB1sUCRC5bEBBBCCBBIBIBCBEBCD12aFB"]

def beriaErfe : Script where
  name := "Beria_Erfe"
  aliases := ["Berf"]
  table := ["2s9WZCZ"]
  extended := []

def bhaiksuki : Script where
  name := "Bhaiksuki"
  aliases := ["Bhks"]
  table := ["25oIJB1TBOK1D"]
  extended := []

def bopomofo : Script where
  name := "Bopomofo"
  aliases := ["Bopo"]
  table := ["sSCclX1R4I1G"]
  extended := ["rJBBDNBccPDEKBNKECBGB7NB1k5HCaWF"]

def brahmi : Script where
  name := "Brahmi"
  aliases := ["Brah"]
  table := ["22eE3AE1KJB"]
  extended := []

def braille : Script where
  name := "Braille"
  aliases := ["Brai"]
  table := ["axW9W"]
  extended := []

def buginese : Script where
  name := "Buginese"
  aliases := ["Bugi"]
  table := ["74A1CCC"]
  extended := ["1afZB"]

def buhid : Script where
  name := "Buhid"
  aliases := ["Buhd"]
  table := ["6cYU"]
  extended := ["6cNC"]

def canadianAboriginal : Script where
  name := "Canadian_Aboriginal"
  aliases := ["Cans"]
  table := ["5gYoQlO2S1yhQQ"]
  extended := []

def carian : Script where
  name := "Carian"
  aliases := ["Cari"]
  table := ["1yqM1X"]
  extended := ["7BB8nMBCB3sDB"]

def caucasianAlbanian : Script where
  name := "Caucasian_Albanian"
  aliases := ["Aghb"]
  table := ["1zfS2ALB"]
  extended := ["tSB1SB1SB"]

def chakma : Script where
  name := "Chakma"
  aliases := ["Cakm"]
  table := ["22oA2BBS"]
  extended := ["2pMK1qEK"]

def cham : Script where
  name := "Cham"
  aliases := []
  table := ["1ahW2DJOCKCE"]
  extended := []

def cherokee : Script where
  name := "Cherokee"
  aliases := ["Cher"]
  table := ["5dG3ICG15fE3C"]
  extended := ["tODBBGCWCLC"]

def chorasmian : Script where
  name := "Chorasmian"
  aliases := ["Chrs"]
  table := ["22bC1C"]
  extended := []

def common : Script where
  name := "Common"
  aliases := ["Zyyy"]
  table := [
    "A2N1AG1A1VBPBFXB1FBhH1NFFCU4MBJBGBBBoNBGBOBDB1GB6ABjWB4ZC1bTBfPEbEB1mLD2TC7VCBB1bHBNBHEB",
    "GBDCBtTMC3JBLDLBPR1I2K1MBDCGB1BBR1PDEpQWLVzS9WoEC5IjS3QfMVBBBZPIEE3NCDB3MC5RQ1G1MJB1W2M",
    "1F3D1VB3K6M71O2MocI1I3YD6JK9KB6EBfFBOCmdQC8AKW1JBTBE5RBB1G1AG1ALKB1TC2MHBHKF9YDE1TDJ3CN",
    "1Z1T8U1B1erWE47G9TDgUGXPR3R4M2I9MK1NC2KDRICH1EE2J8FUMUM3JJZ5F3HB2TBCCBCCCEBMBBBHB2NBECIB",
    "HB1CBEBFBBDHBdCCbGC1Y5lH2Q2Y2JrE1SE3WMPCPBPB1LK6S2E1ABCN1SEJHCOG5Y11XDRDND8KGMEBPME2EIKG",
    "1OI1ECMECOJ1NdGIOCNDLD2FBBEQCMEKH5RB3ZndbAB1E3S"]
  extended := [
    "7BBjWBKBBDBBJBBB5YBpNBOBDB1GBuXC22RB1mLD2TC7VCBB1bHBNBHEBGBDCBvOB1FBKBCB3rDBYCKBEBBBgMQB",
    "DCBBKBNQGBBEE3NCDB3MC5RQ1G1MJB1W1O2E1XPM1ZB3KZKF3S1FvgJIbKK9KB6EBmtMCaBCaWFKB1TCdODE1TDJ",
    "gB1B1erWE67WS8fYC"]

def coptic : Script where
  name := "Coptic"
  aliases := ["Copt", "Qaac"]
  table := ["12GOb3K4MFH"]
  extended := ["7BBmMBDCBB4ECbnTB1m7C1C"]

def cuneiform : Script where
  name := "Cuneiform"
  aliases := ["Xsux"]
  table := ["26rSzM3Y4HBFL7O"]
  extended := []

def cypriot : Script where
  name := "Cypriot"
  aliases := ["Cprt"]
  table := ["207KGCBB1SBCDBCB"]
  extended := ["1yaMDE1TDJ"]

def cyproMinoan : Script where
  name := "Cypro_Minoan"
  aliases := ["Cpmn"]
  table := ["2b0Y3V"]
  extended := ["1yaMC"]

def cyrillic : Script where
  name := "Cyrillic"
  aliases := ["Cyrl"]
  table := ["13K5DC6N6dOL6EB2YB4hN1GwwA3SnyCC1ptG2K1HB"]
  extended := ["qYB2PDBBBBBBCBFBeHC6yNB4gKB"]

def deseret : Script where
  name := "Deseret"
  aliases := ["Dsrt"]
  table := ["1z4A3C"]
  extended := []

def devanagari : Script where
  name := "Devanagari"
  aliases := ["Deva"]
  table := ["2gQ3DEPC1A17lG1Gv6MK"]
  extended := ["qYB1sUCRC5bE1NBC13AB10zRK"]

def divesAkuru : Script where
  name := "Dives_Akuru"
  aliases := ["Diak"]
  table := ["24uUHCBCIBCB1EBCCMJK"]
  extended := []

def dogra : Script where
  name := "Dogra"
  aliases := ["Dogr"]
  table := ["24kY2I"]
  extended := ["2kMM17fCK"]

def duployan : Script where
  name := "Duployan"
  aliases := ["Dupl"]
  table := ["3dfS4DFNDJHKCE"]
  extended := ["7BBmTCBBYCbsHB30yPE"]

def egyptianHieroglyphs : Script where
  name := "Egyptian_Hieroglyphs"
  aliases := ["Egyp"]
  table := ["2b5G16SK49R"]
  extended := []

def elbasan : Script where
  name := "Elbasan"
  aliases := ["Elba"]
  table := ["1zdW1O"]
  extended := ["7BBmRB"]

def elymaic : Script where
  name := "Elymaic"
  aliases := ["Elym"]
  table := ["22cYX"]
  extended := []

def ethiopic : Script where
  name := "Ethiopic"
  aliases := ["Ethi"]
  table :=
    ["4xG2VBECHBBBEC1PBEC1HBECHBBBECPB2FBEC2PC1GD1A73AXJHBHBHBHBHBHBHBHy8CGCGCGJHBH2emFHBEBCBP"]
  extended := ["uCB"]

def garay : Script where
  name := "Garay"
  aliases := ["Gara"]
  table := ["21nC1MD1DIC"]
  extended := ["1nOBOBDB"]

def georgian : Script where
  name := "Georgian"
  aliases := ["Geor"]
  table := ["4jS1MBBFBC1RBE35W1RCD4gA1MBBFB"]
  extended := ["7BB1bLB34RB47IB3sGB"]

def glagolitic : Script where
  name := "Glagolitic"
  aliases := ["Glag"]
  table := ["c1G3S3b5GHBRCHBCBF"]
  extended := ["7BBmPBBBeSBCB9XB34RB47IB3sYBwvFB"]

def gothic : Script where
  name := "Gothic"
  aliases := ["Goth"]
  table := ["1ywA1B"]
  extended := ["7BBmQCCB1OB"]

def grantha : Script where
  name := "Grantha"
  aliases := ["Gran"]
  table := ["237SEBICCCWBHBCBFCJCCCDCBGBFHCHDF"]
  extended := ["2jTCRCoQO4mABBC1EDDC13AB1u9QB3fWCBB"]

def greek : Script where
  name := "Greek"
  aliases := ["Grek"]
  table := [
    "xWEBDCEBBEBBBBDBBBUB2LOQ6vQF1YFEF3GBcIWCGC1MCGCIBBBBBBB1FC2BBPBOCGBTCDBJbJB11tEBnhI3BRB",
    "1kzR2S"]
  extended := ["7BBmMCCBBBBBKB1UBCB1UB76XCpRB"]

def gujarati : Script where
  name := "Gujarati"
  aliases := ["Gujr"]
  table := ["2vLDBJBDBWBHBCBFCKBDBDCBPECMHH"]
  extended := ["2jTCRC17fMK"]

def gunjalaGondi : Script where
  name := "Gunjala_Gondi"
  aliases := ["Gong"]
  table := ["261WGBCB1LBCBGHK"]
  extended := ["7BB2dKC"]

def gurmukhi : Script where
  name := "Gurmukhi"
  aliases := ["Guru"]
  table := ["2qNDBGECCWBHBCBCBCCBBFECCDDBHEBBHR"]
  extended := ["2jTCRC17fMK"]

def gurungKhema : Script where
  name := "Gurung_Khema"
  aliases := ["Gukh"]
  table := ["2ojS2G"]
  extended := ["2kNB"]

def han : Script where
  name := "Han"
  aliases := ["Hani"]
  table := ["cpW1AB3LM8G1VBBBZJOE11C71O2MmfKocIeCC4Cw0ICMH13eF19nC1G4oOC66CC7zLPnY2mWkW1lY59ZF92O"]
  extended := ["7BBcwYQBDCBBKBNKECBGBEE7FB5SQ1G1MJB1W1O2E1XPM1ZB3KZKF3S1FvgJInuZCaWF1lzES8fYC"]

def hangul : Script where
  name := "Hangul"
  aliases := ["Hang"]
  table := ["4nK9W89EC9X3Q4J1F2N1FwiN1DoTbxSMXE1XauI1FDGCGCGCD"]
  extended := ["d4RDEKBNQBGB7NB1k5HCaWF"]

def hanifiRohingya : Script where
  name := "Hanifi_Rohingya"
  aliases := ["Rohg"]
  table := ["21kQ1OIK"]
  extended := ["1nOBOBDB1GB5RB"]

def hanunoo : Script where
  name := "Hanunoo"
  aliases := ["Hano"]
  table := ["6bSV"]
  extended := ["6cNC"]

def hatran : Script where
  name := "Hatran"
  aliases := ["Hatr"]
  table := ["20gATBCFF"]
  extended := []

def hebrew : Script where
  name := "Hebrew"
  aliases := ["Hebr"]
  table := ["1iV2DI1BEG1v1W1ABFBBBCBCBK"]
  extended := ["tVC"]

def hiragana : Script where
  name := "Hiragana"
  aliases := ["Hira"]
  table := ["d7D3IGD2wuVbBSB1DDhoVB"]
  extended := ["d4RDEKBNQGBBEC3NEDB3MC1k5GCaWFKB1TC"]

def imperialAramaic : Script where
  name := "Imperial_Aramaic"
  aliases := ["Armi"]
  table := ["209WWBJ"]
  extended := []

def inherited : Script where
  name := "Inherited"
  aliases := ["Zinh", "Qaai"]
  table := [
    "tO4IaRChKL1ABsIE4qX1UCMiQDBNBHEBGBDC7Q2MkEC7M1H45XE4DC1k6JQQO11NB8SB4hAB1fcU1UCXkYDRICH",
    "1EEnp5I9G"]
  extended := ["tOPBCBBPDHCBCQBCBSBFBENaRChKL1ABsIC5bXDBNBHEBGBDC7QC2CBBBtDB45XE4DC1liJB4hAB"]

def inscriptionalPahlavi : Script where
  name := "Inscriptional_Pahlavi"
  aliases := ["Phli"]
  table := ["214QTFI"]
  extended := []

def inscriptionalParthian : Script where
  name := "Inscriptional_Parthian"
  aliases := ["Prti"]
  table := ["213KWCI"]
  extended := []

def javanese : Script where
  name := "Javanese"
  aliases := ["Java"]
  table := ["1acY3ACKEC"]
  extended := ["1afZB"]

def kaithi : Script where
  name := "Kaithi"
  aliases := ["Kthi"]
  table := ["22jC2PKB"]
  extended := ["2kOKa1XBxdEK"]

def kannada : Script where
  name := "Kannada"
  aliases := ["Knda"]
  table := ["3fCNBDBXBKBFCJBDBEHCFDBECKBD"]
  extended := ["2jTCRC5bEBBCGBXBBB122XG"]

def katakana : Script where
  name := "Katakana"
  aliases := ["Kana"]
  table := ["daV3MCD9GQ8A1VB3K1jtEKB1T1c8CEBHBCBBbBD1YBOE"]
  extended := ["tTB1DBc9TDEKBNQGBBEC3NEDB3MC1k5GCaWFKB1TC"]

def kawi : Script where
  name := "Kawi"
  aliases := []
  table := ["26hWRB1PD1D"]
  extended := []

def kayahLi : Script where
  name := "Kayah_Li"
  aliases := ["Kali"]
  table := ["1a8A1UBB"]
  extended := ["1a9UB"]

def kharoshthi : Script where
  name := "Kharoshthi"
  aliases := ["Khar"]
  table := ["20rCEBCFIBDB1DCDEKHJ"]
  extended := []

def khitanSmallScript : Script where
  name := "Khitan_Small_Script"
  aliases := ["Kits"]
  table := ["2smIB7eXiC1PB"]
  extended := []

def khmer : Script where
  name := "Khmer"
  aliases := ["Khmr"]
  table := ["6fK3QCKGKiS1G"]
  extended := []

def khojki : Script where
  name := "Khojki"
  aliases := ["Khoj"]
  table := ["22xWSB1V"]
  extended := ["2zIK170IK"]

def khudawadi : Script where
  name := "Khudawadi"
  aliases := ["Sind"]
  table := ["234Q2HFK"]
  extended := ["2kMC17fMK"]

def kiratRai : Script where
  name := "Kirat_Rai"
  aliases := ["Krai"]
  table := ["2rwI2G"]
  extended := []

def lao : Script where
  name := "Lao"
  aliases := ["Laoo"]
  table := ["3yVCBBBFBYBBBXCFBBBHBKCE"]
  extended := []

def latin : Script where
  name := "Latin"
  aliases := ["Latn"]
  table := [
    "2N1AG1A1VBPBFXB1FBhH1NF75B1MG1XFEFNB2S2N9WeFBNBQN5LCGB1BBR1P2yT1GxjM3YD3EUPvK1RBJBElrQH",
    "14K1AG1A28FGB1QBJ1mvP1FGG"]
  extended := ["7BBjWBKBBDBBJBBB1MPBCBBPDHCBC1MBFBENaRC1bEC23KB3jWBlUB7KB3lMBx2MIlEB"]

def lepcha : Script where
  name := "Lepcha"
  aliases := ["Lepc"]
  table := ["7nS2EDPDD"]
  extended := []

def limbu : Script where
  name := "Limbu"
  aliases := ["Limb"]
  table := ["6uE1FBMEMEBDM"]
  extended := ["2kNB"]

def linearA : Script where
  name := "Linear_A"
  aliases := ["Lina"]
  table := ["1znSbZJWKI"]
  extended := ["1yaT1T"]

def linearB : Script where
  name := "Linear_B"
  aliases := ["Linb"]
  table := ["1y0QMB1ABTBCBPCO1I4T"]
  extended := ["1yaMDE1TDJ"]

def lisu : Script where
  name := "Lisu"
  aliases := []
  table := ["192U1WxkAB"]
  extended := ["qYBQBcdKC"]

def lycian : Script where
  name := "Lycian"
  aliases := ["Lyci"]
  table := ["1ypG1D"]
  extended := ["8uOB"]

def lydian : Script where
  name := "Lydian"
  aliases := ["Lydi"]
  table := ["20iM1AFB"]
  extended := ["7BBcfTB"]

def mahajani : Script where
  name := "Mahajani"
  aliases := ["Mahj"]
  table := ["22rC1N"]
  extended := ["7BB2dKM17fCK"]

def makasar : Script where
  name := "Makasar"
  aliases := ["Maka"]
  table := ["26gQZ"]
  extended := []

def malayalam : Script where
  name := "Malayalam"
  aliases := ["Mlym"]
  table := ["3kANBDB1ZBDBGEQC1A"]
  extended := ["2jTCRC5bOBXB122ZD"]

def mandaic : Script where
  name := "Mandaic"
  aliases := ["Mand"]
  table := ["29G1CCB"]
  extended := ["1pOB"]

def manichaean : Script where
  name := "Manichaean"
  aliases := ["Mani"]
  table := ["20yM1NEM"]
  extended := ["1pOB"]

def marchen : Script where
  name := "Marchen"
  aliases := ["Marc"]
  table := ["25sQ1GCWBO"]
  extended := []

def masaramGondi : Script where
  name := "Masaram_Gondi"
  aliases := ["Gonm"]
  table := ["25yEHBCB1SDBBCBJIK"]
  extended := ["2kMC"]

def medefaidrin : Script where
  name := "Medefaidrin"
  aliases := ["Medf"]
  table := ["2s6E3N"]
  extended := []

def meeteiMayek : Script where
  name := "Meetei_Mayek"
  aliases := ["Mtei"]
  table := ["1aqMX7T1UCK"]
  extended := []

def mendeKikakui : Script where
  name := "Mende_Kikakui"
  aliases := ["Mend"]
  table := ["3pgY7PCQ"]
  extended := []

def meroiticCursive : Script where
  name := "Meroitic_Cursive"
  aliases := ["Merc"]
  table := ["20nKYEUC1U"]
  extended := []

def meroiticHieroglyphs : Script where
  name := "Meroitic_Hieroglyphs"
  aliases := ["Mero"]
  table := ["20mE1G"]
  extended := ["8uRB"]

def miao : Script where
  name := "Miao"
  aliases := ["Plrd"]
  table := ["2sdO2XE2FHR"]
  extended := []

def modi : Script where
  name := "Modi"
  aliases := []
  table := ["241G2RLK"]
  extended := ["1a0AK"]

def mongolian : Script where
  name := "Mongolian"
  aliases := ["Mong"]
  table := ["6kICCBBUG3LH1R1xeBN"]
  extended := ["6kKCBB28JB4bTCFE"]

def mro : Script where
  name := "Mro"
  aliases := ["Mroo"]
  table := ["2r2U1FBKEC"]
  extended := []

def multani : Script where
  name := "Multani"
  aliases := ["Mult"]
  table := ["232UHBBBEBPBL"]
  extended := ["2uKK"]

def myanmar : Script where
  name := "Myanmar"
  aliases := ["Mymr"]
  table := ["4dO6E15wY1F3T1GtmMU"]
  extended := ["1a9UB"]

def nabataean : Script where
  name := "Nabataean"
  aliases := ["Nbat"]
  table := ["20cI1FIJ"]
  extended := []

def nagMundari : Script where
  name := "Nag_Mundari"
  aliases := ["Nagm"]
  table := ["3olO1Q"]
  extended := []

def nandinagari : Script where
  name := "Nandinagari"
  aliases := ["Nand"]
  table := ["250YIC1UCL"]
  extended := ["2jTBSCyMK4dHBIBHB122RG"]

def newTaiLue : Script where
  name := "New_Tai_Lue"
  aliases := ["Talu"]
  table := ["6zC1SE1AGLDC"]
  extended := []

def newa : Script where
  name := "Newa"
  aliases := []
  table := ["23hO3OBF"]
  extended := ["2jTC5cCBBCJBGBBBBB"]

def nko : Script where
  name := "Nko"
  aliases := ["Nkoo"]
  table := ["24I2HCD"]
  extended := ["1nOBOBDB1vlEC"]

def nushu : Script where
  name := "Nushu"
  aliases := ["Nshu"]
  table := ["2smFBhxMfG"]
  extended := []

def nyiakengPuachueHmong : Script where
  name := "Nyiakeng_Puachue_Hmong"
  aliases := ["Hmnp"]
  table := ["3nkA1TDOCKEC"]
  extended := []

def ogham : Script where
  name := "Ogham"
  aliases := ["Ogam"]
  table := ["65O1D"]
  extended := []

def olChiki : Script where
  name := "Ol_Chiki"
  aliases := ["Olck"]
  table := ["7qU1W"]
  extended := []

def olOnal : Script where
  name := "Ol_Onal"
  aliases := ["Onao"]
  table := ["3ovK1REB"]
  extended := ["2kMC"]

def oldHungarian : Script where
  name := "Old_Hungarian"
  aliases := ["Hung"]
  table := ["21fS1ZN1ZHG"]
  extended := ["8uOBCB3sDBPB"]

def oldItalic : Script where
  name := "Old_Italic"
  aliases := ["Ital"]
  table := ["1yuE1KJD"]
  extended := []

def oldNorthArabian : Script where
  name := "Old_North_Arabian"
  aliases := ["Narb"]
  table := ["20wA1G"]
  extended := []

def oldPermic : Script where
  name := "Old_Permic"
  aliases := ["Perm"]
  table := ["1yxG1R"]
  extended := ["7BBmMBFDKBeDB"]

def oldPersian : Script where
  name := "Old_Persian"
  aliases := ["Xpeo"]
  table := ["1z0I1KEO"]
  extended := []

def oldSogdian : Script where
  name := "Old_Sogdian"
  aliases := ["Sogo"]
  table := ["224I1O"]
  extended := []

def oldSouthArabian : Script where
  name := "Old_South_Arabian"
  aliases := ["Sarb"]
  table := ["20uU1G"]
  extended := []

def oldTurkic : Script where
  name := "Old_Turkic"
  aliases := ["Orkh"]
  table := ["21aU2V"]
  extended := ["8uOB3sFB"]

def oldUyghur : Script where
  name := "Old_Uyghur"
  aliases := ["Ougr"]
  table := ["228Q1A"]
  extended := ["1pOB1zaVB"]

def oriya : Script where
  name := "Oriya"
  aliases := ["Orya"]
  table := ["30JDBICCCWBHBCBFCJCCCDHDECBFCS"]
  extended := ["2jTCRC5bOBXB"]

def osage : Script where
  name := "Osage"
  aliases := ["Osge"]
  table := ["1zaU1KE1K"]
  extended := ["tPBCBGB2YB"]

def osmanya : Script where
  name := "Osmanya"
  aliases := ["Osma"]
  table := ["1z8Y1ECK"]
  extended := []

def pahawhHmong : Script where
  name := "Pahawh_Hmong"
  aliases := ["Hmng"]
  table := ["2raE2SKKBHBVFT"]
  extended := []

def palmyrene : Script where
  name := "Palmyrene"
  aliases := ["Palm"]
  table := ["20bC1G"]
  extended := []

def pauCinHau : Script where
  name := "Pau_Cin_Hau"
  aliases := ["Pauc"]
  table := ["25cA2F"]
  extended := []

def phagsPa : Script where
  name := "Phags_Pa"
  aliases := ["Phag"]
  table := ["1a0Q2E"]
  extended := ["6kKCBB28JB4bUB"]

def phoenician : Script where
  name := "Phoenician"
  aliases := ["Phnx"]
  table := ["20hG1CDB"]
  extended := []

def psalterPahlavi : Script where
  name := "Psalter_Pahlavi"
  aliases := ["Phlp"]
  table := ["215WSHEMH"]
  extended := ["1pOB"]

def rejang : Script where
  name := "Rejang"
  aliases := ["Rjng"]
  table := ["1a9W1KLB"]
  extended := []

def runic : Script where
  name := "Runic"
  aliases := ["Runr"]
  table := ["66U2XDL"]
  extended := ["69RD"]

def samaritan : Script where
  name := "Samaritan"
  aliases := ["Samr"]
  table := ["26U1UCP"]
  extended := ["cmVB"]

def saurashtra : Script where
  name := "Saurashtra"
  aliases := ["Saur"]
  table := ["1a3C2SIM"]
  extended := []

def sharada : Script where
  name := "Sharada"
  aliases := ["Shrd"]
  table := ["22sY3S2lOI"]
  extended := ["2jTB5cFBBBCCCBJBCB123EGCB"]

def shavian : Script where
  name := "Shavian"
  aliases := ["Shaw"]
  table := ["1z7C1W"]
  extended := ["7BB"]

def siddham : Script where
  name := "Siddham"
  aliases := ["Sidd"]
  table := ["23wI2CC1M"]
  extended := []

def sidetic : Script where
  name := "Sidetic"
  aliases := ["Sidt"]
  table := ["20jS1A"]
  extended := []

def signWriting : Script where
  name := "SignWriting"
  aliases := ["Sgnw"]
  table := ["3l3KpCPFBP"]
  extended := []

def sinhala : Script where
  name := "Sinhala"
  aliases := ["Sinh"]
  table := ["3oZDBSDYBJBBCHDBEGBBBIGKCD1z3GU"]
  extended := ["2kMC5cMB"]

def sogdian : Script where
  name := "Sogdian"
  aliases := ["Sogd"]
  table := ["226E1Q"]
  extended := ["1pOB"]

def soraSompeng : Script where
  name := "Sora_Sompeng"
  aliases := ["Sora"]
  table := ["22mEZHK"]
  extended := []

def soyombo : Script where
  name := "Soyombo"
  aliases := ["Soyo"]
  table := ["257S3F"]
  extended := []

def sundanese : Script where
  name := "Sundanese"
  aliases := ["Sund"]
  table := ["7iU2M9WI"]
  extended := []

def sunuwar : Script where
  name := "Sunuwar"
  aliases := ["Sunu"]
  table := ["25lW1IOK"]
  extended := ["tOCBBJBCB1CBDB"]

def sylotiNagri : Script where
  name := "Syloti_Nagri"
  aliases := ["Sylo"]
  table := ["19yE1T"]
  extended := ["2kMC4YK"]

def syriac : Script where
  name := "Syriac"
  aliases := ["Syrc"]
  table := ["1wYOB2ICDaML"]
  extended := ["tRCCCBBYDHCBCsCBOCCB1GBKL1AB6fRBBB"]

def tagalog : Script where
  name := "Tagalog"
  aliases := ["Tglg"]
  table := ["6aMWJB"]
  extended := ["6cNC"]

def tagbanwa : Script where
  name := "Tagbanwa"
  aliases := ["Tagb"]
  table := ["6eENBDBC"]
  extended := ["6cNC"]

def taiLe : Script where
  name := "Tai_Le"
  aliases := ["Tale"]
  table := ["6xG1ECF"]
  extended := ["tOCFCDB3lZK"]

def taiTham : Script where
  name := "Tai_Tham"
  aliases := ["Lana"]
  table := ["75G2LB1DCLGKGO"]
  extended := []

def taiViet : Script where
  name := "Tai_Viet"
  aliases := ["Tavt"]
  table := ["1amU2PYF"]
  extended := []

def taiYo : Script where
  name := "Tai_Yo"
  aliases := ["Tayo"]
  table := ["3p4Q1FBWIC"]
  extended := []

def takri : Script where
  name := "Takri"
  aliases := ["Takr"]
  table := ["246E2GGK"]
  extended := ["2kMC17fMK"]

def tamil : Script where
  name := "Tamil"
  aliases := ["Taml"]
  table := ["35ICBGDDBEDCBBBCDCDDDMEFDDBECBGBOV23fH1YNB"]
  extended := ["2jTCRC5bOB12bKBt0FBBB2DC"]

def tangsa : Script where
  name := "Tangsa"
  aliases := ["Tnsa"]
  table := ["2r4Q3BBK"]
  extended := []

def tangut : Script where
  name := "Tangut"
  aliases := ["Tang"]
  table := ["2smEB1F7dWjS1F3T4L"]
  extended := ["d4AQjBB"]

def telugu : Script where
  name := "Telugu"
  aliases := ["Telu"]
  table := ["3aENBDBXBQCJBDBEHCBDBCCECKHJ"]
  extended := ["2jTCRC5bJCBBBBXB"]

def thaana : Script where
  name := "Thaana"
  aliases := ["Thaa"]
  table := ["21W1Y"]
  extended := ["1nOBOCCB2MK1vpGBKB"]

def thai : Script where
  name := "Thai"
  aliases := []
  table := ["3tX2GF1C"]
  extended := ["qYB1AB1RB1TB"]

def tibetan : Script where
  name := "Tibetan"
  aliases := ["Tibt"]
  table := ["43S2UB1KE1NB1KBPBHEC"]
  extended := ["d4YE"]

def tifinagh : Script where
  name := "Tifinagh"
  aliases := ["Tfng"]
  table := ["ccY2EHCOB"]
  extended := ["tQBBBBEZB"]

def tirhuta : Script where
  name := "Tirhuta"
  aliases := ["Tirh"]
  table := ["23mM2UIK"]
  extended := ["2jTCRC5bJBMBPB122ZK"]

def todhri : Script where
  name := "Todhri"
  aliases := ["Todr"]
  table := ["1zlG2A"]
  extended := ["tPBCBCBJBBB2WB"]

def tolongSiki : Script where
  name := "Tolong_Siki"
  aliases := ["Tols"]
  table := ["264Y1SEK"]
  extended := []

def toto : Script where
  name := "Toto"
  aliases := []
  table := ["3nzK1F"]
  extended := ["qYB"]

def tuluTigalari : Script where
  name := "Tulu_Tigalari"
  aliases := ["Tutg"]
  table := ["23cQKBBCBB1MBKBBCBBEBKBCIC"]
  extended := ["3jAK4dQBBB122XG7FB"]

def ugaritic : Script where
  name := "Ugaritic"
  aliases := ["Ugar"]
  table := ["1yzC1EBB"]
  extended := []

def unknownScript : Script where
  name := "Unknown"
  aliases := ["Zzzz"]
  table := [
    "yECGEHBBBUBfHB1MC1YCDB2DI1BEGLaKB2IC3XO2HC1XCPB1CCBBLF1IF9DBICCCWBHBBDECJCCCEIBECBFCZCDB",
    "GECCWBHBCBCBCCBBFECCDDBHEBBHRKDBJBDBWBHBCBFCKBDBDCBPECMHHBDBICCCWBHBCBFCJCCCDHDECBFCSKCB",
    "GDDBEDCBBBCDCDDDMEFDDBECBGBOVFNBDBXBQCJBDBEHCBDBCCECKHWBDBXBKBFCJBDBEHCFDBECKBDMNBDB1ZBD",
    "BGEQC1ABDBSDYBJBBCHDBEGBBBIGKCDM2GE1D1LCBBBFBYBBBXCFBBBHBKCE1G2UB1KE1NB1KBPBN1L7QBBFBCeN",
    "BECHBBBEC1PBEC1HBECHBBBECPB2FBEC2PC1GD1AG3ICGCpTD3LHWJYJUMNBDBCM3QCKGKG1AG3LH1RF2SK1FBME",
    "MEBD1QCFL1SE1AGLD2KC2NB1DCLGKGOC1UCMU2ZB6KI2IDPD2KF1RCLI1RFkOCGC1MCGCIBBBBBBB1FC2BBPBOCG",
    "BTCDBJB3XBMC1BBND1IO1HP5KEpQWLV1xSCeSF1TBBFBC2EHCOYJHBHBHBHBHBHBHBHB4W1I1AB3LM8G1A3CB3IC",
    "3ZF1RB3QB3IJ1WBvaRD2DJdKU7CI8NU2IDKG2EI2SIMG4ML1ED3ABLE1HB2DJOCKC3ZY1CKGCGCGJHBHB2IE4WCK",
    "GbxSMXE1X91CeCC4C1MHMFF1ABFBBBCBCBpA1G1QG1ZBTBEEFB5FCBB7IDGCGCGCDDHBHKFCMB1ABTBCBPCO1I4T",
    "FDE1TD3KBNDB1V1U5A1DD1XP1CE1KJ1EF1RF1EB1LEO1Q6CCKG1KE1KE1OI2ALMBPBHBCBLBPBHBCD2AMbZJWKIY",
    "GB1QBJ2RGCBB1SBCDBCXB2UIJ1WTBCF1HD1BF1B1M2EEUC1YBCFIBDB1DCDEKHJH2M1G1NEMJ2CD1DC1BF1AHEMH",
    "3C2V2D1ZN1ZH1UIKG1MD1DIC8A1FB1QBDCCQGIJ1H1UI1QW1A1M1CUXJ3AE1KJ2QKBCZHKG2BBSI1NJ3SBULSB1V",
    "2KHBBBEBPBLG2HFKGEBICCCWBHBCBFBKCCCDCBGBFHCHDFLKBBCBB1MBKBBCBBEBKBCIC1D3OBF1E2UIK6K2CC1M",
    "1I2RLKGNT2GGKGU1C1BCPEX7D2I3W3FMICBCIBCB1EBCCMJK2SIC1UCL1B2UI3FN2VHK3II3K1IOKGJB1TBOK1DD",
    "1GCWBO2VHBCB1SDBBCBJIKGGBCB1LBCBGHKG1SEK9MZHRB1PD1D3HBP1YNzN3Y4HBFL7O2tK3VN16SK49RFmL7bD",
    "2G1uSlXH1FBKE3DBKG1ECGK2SKKBHBVFTgQ2G7Q3NFZCZ1S2XE2FHR2MFLHJ7vY1P1G3T4L9aREBHBCBbFPB1DDC",
    "BOEIfG2gU4DFNDJHKCI47G9TDgUGXPRP1UCXJ4M2I9MK1NC7MV2S4SUMUM3JJZ5F3HB2TBCCBCCCEBMBBBHB2NBE",
    "CIBHB1CBEBFBBDHBdCCbGCrAPFBP16M1FGG8FHBRCHBCBFF2K1HB4I1TDOCKECcI1FR2GFBhW1Q8G1REB7K1FBWI",
    "C8QHBEBCBPB7PCQ1P2YEKECuF2Q2Y2J7MEB1BBCBBCBBKBEBBBBGBEBBBBBBDBCBBCBBBBBBBBBBCBBCEBHBEBEB",
    "BBKBRFDBFBR2ACaK1SE3WMPCPBPB1LK6S2E1DN1SEJHCOG5Y11XDRDND8KGMEBPME2EIKG1OI1ECMECOJ1NdGIOC",
    "NDLD2FBBEQCMEKH5RB3Z13P19nC1G4oOC66CC7zLPnY2mWkW1lY59ZF92OkzuDB1E3S4Y9G5tiU"]
  extended := []

def vai : Script where
  name := "Vai"
  aliases := ["Vaii"]
  table := ["194QbO"]
  extended := []

def vithkuqi : Script where
  name := "Vithkuqi"
  aliases := ["Vith"]
  table := ["1ziELBPBHBCBLBPBHBC"]
  extended := []

def wancho : Script where
  name := "Wancho"
  aliases := ["Wcho"]
  table := ["3o1G2GFB"]
  extended := []

def warangCiti : Script where
  name := "Warang_Citi"
  aliases := ["Wara"]
  table := ["24rC3FMB"]
  extended := []

def yezidi : Script where
  name := "Yezidi"
  aliases := ["Yezi"]
  table := ["21zK1QBDCC"]
  extended := ["1nOBOBDB2MK"]

def yi : Script where
  name := "Yi"
  aliases := ["Yiii"]
  table := ["17rK18VD2D"]
  extended := ["d4RCFKCI8PB1kgFF"]

def zanabazarSquare : Script where
  name := "Zanabazar_Square"
  aliases := ["Zanb"]
  table := ["254Q2U"]
  extended := []

/-- Every script. -/
def all : List Script := [
  adlam, ahom, anatolianHieroglyphs, arabic, armenian, avestan, balinese, bamum, bassaVah,
  batak, bengali, beriaErfe, bhaiksuki, bopomofo, brahmi, braille, buginese, buhid,
  canadianAboriginal, carian, caucasianAlbanian, chakma, cham, cherokee, chorasmian, common,
  coptic, cuneiform, cypriot, cyproMinoan, cyrillic, deseret, devanagari, divesAkuru, dogra,
  duployan, egyptianHieroglyphs, elbasan, elymaic, ethiopic, garay, georgian, glagolitic,
  gothic, grantha, greek, gujarati, gunjalaGondi, gurmukhi, gurungKhema, han, hangul,
  hanifiRohingya, hanunoo, hatran, hebrew, hiragana, imperialAramaic, inherited,
  inscriptionalPahlavi, inscriptionalParthian, javanese, kaithi, kannada, katakana, kawi,
  kayahLi, kharoshthi, khitanSmallScript, khmer, khojki, khudawadi, kiratRai, lao, latin,
  lepcha, limbu, linearA, linearB, lisu, lycian, lydian, mahajani, makasar, malayalam, mandaic,
  manichaean, marchen, masaramGondi, medefaidrin, meeteiMayek, mendeKikakui, meroiticCursive,
  meroiticHieroglyphs, miao, modi, mongolian, mro, multani, myanmar, nabataean, nagMundari,
  nandinagari, newTaiLue, newa, nko, nushu, nyiakengPuachueHmong, ogham, olChiki, olOnal,
  oldHungarian, oldItalic, oldNorthArabian, oldPermic, oldPersian, oldSogdian, oldSouthArabian,
  oldTurkic, oldUyghur, oriya, osage, osmanya, pahawhHmong, palmyrene, pauCinHau, phagsPa,
  phoenician, psalterPahlavi, rejang, runic, samaritan, saurashtra, sharada, shavian, siddham,
  sidetic, signWriting, sinhala, sogdian, soraSompeng, soyombo, sundanese, sunuwar,
  sylotiNagri, syriac, tagalog, tagbanwa, taiLe, taiTham, taiViet, taiYo, takri, tamil, tangsa,
  tangut, telugu, thaana, thai, tibetan, tifinagh, tirhuta, todhri, tolongSiki, toto,
  tuluTigalari, ugaritic, unknownScript, vai, vithkuqi, wancho, warangCiti, yezidi, yi,
  zanabazarSquare]

/-- The code points of the script. -/
def codes (script : Script) : CodeSet := CodeSet.decode script.table

/-- The code points used in the script. -/
def extendedCodes (script : Script) : CodeSet :=
  script.codes.symmDiff (CodeSet.decode script.extended)

end Script

end Conformance
