/-
General categories.

Every code point has exactly one of thirty categories. The table lists the
stretches of equal category from zero up, each as its length and the index of
its category, so it covers every code point by construction.
-/
import Conformance.Unicode.CodeSet

namespace Conformance

/-- The general category of a code point. -/
inductive Category where
  | uppercaseLetter
  | lowercaseLetter
  | titlecaseLetter
  | modifierLetter
  | otherLetter
  | nonspacingMark
  | spacingMark
  | enclosingMark
  | decimalNumber
  | letterNumber
  | otherNumber
  | connectorPunctuation
  | dashPunctuation
  | openPunctuation
  | closePunctuation
  | initialPunctuation
  | finalPunctuation
  | otherPunctuation
  | mathSymbol
  | currencySymbol
  | modifierSymbol
  | otherSymbol
  | spaceSeparator
  | lineSeparator
  | paragraphSeparator
  | control
  | format
  | surrogate
  | privateUse
  | unassigned
  deriving DecidableEq, Repr, Inhabited

namespace Category

/-- The categories in the order of the table, with their short names. -/
def all : List (Category × String) := [
  (uppercaseLetter, "Lu"),
  (lowercaseLetter, "Ll"),
  (titlecaseLetter, "Lt"),
  (modifierLetter, "Lm"),
  (otherLetter, "Lo"),
  (nonspacingMark, "Mn"),
  (spacingMark, "Mc"),
  (enclosingMark, "Me"),
  (decimalNumber, "Nd"),
  (letterNumber, "Nl"),
  (otherNumber, "No"),
  (connectorPunctuation, "Pc"),
  (dashPunctuation, "Pd"),
  (openPunctuation, "Ps"),
  (closePunctuation, "Pe"),
  (initialPunctuation, "Pi"),
  (finalPunctuation, "Pf"),
  (otherPunctuation, "Po"),
  (mathSymbol, "Sm"),
  (currencySymbol, "Sc"),
  (modifierSymbol, "Sk"),
  (otherSymbol, "So"),
  (spaceSeparator, "Zs"),
  (lineSeparator, "Zl"),
  (paragraphSeparator, "Zp"),
  (control, "Cc"),
  (format, "Cf"),
  (surrogate, "Cs"),
  (privateUse, "Co"),
  (unassigned, "Cn")]

/-- The categories under a short name of one letter or two. One letter stands
for all that start with it. -/
def named (name : String) : List Category :=
  (all.filter fun c => c.2 == name || (c.2.take 1).toString == name).map (·.1)

/-- The stretches of equal category. -/
def table : List String := [
  "1GZBWDRBTDRBNBOBRBSBRBMCRKICRDSCR1AABNBRBOBUBLBU1ABBNBSBOBS1HZBWBRETBVBRBUBVBEBPBSB1ABVBUB",
  "VBSCKBUBBCRBUBKBEBQDKBRXABSHAYBBSIBBABBBABBBABBBABBBABBBABBBABBBABBBABBBABBBABBBABBBABBBAB",
  "BBABBBABBBABBBABBBABBBABBBABBBABBBABBBABBBABBBABBBABBBACBBABBBABBBABBBABBBABBBABBBABBBACBB",
  "ABBBABBBABBBABBBABBBABBBABBBABBBABBBABBBABBBABBBABBBABBBABBBABBBABBBABBBABBBABBBABBBABBBAB",
  "BCABBBABBBADBCABBBABBCABBDACBEABBCABBDADBCABBCABBBABBBABBCABBBACBBABBCABBDABBBABBCACBBEBAD",
  "BEEBABCBBBABCBBBABCBBBABBBABBBABBBABBBABBBABBBABBBACBBABBBABBBABBBABBBABBBABBBABBBABBBACBB",
  "ABCBBBABBDABBBABBBABBBABBBABBBABBBABBBABBBABBBABBBABBBABBBABBBABBBABBBABBBABBBABBBABBBABBB",
  "ABBBABBBABBBABBBABBBABBBABBBABBBABBBAHBCABBCACBBABBEABBBABBBABBBABBBA2RBCE1ABSDEUMDOUFDHUB",
  "DBUBDRU4IFBABBBABBBDBUBABBC1DBDDBBRBAE1DCUBABRDAB1DBAB1DCABBRAB1DJA1JBBACBDADBBABBBABBBABB",
  "BABBBABBBABBBABBBABBBABBBABBBABBBAFBBABBBSBABBCACB1ZA1WBBABBBABBBABBBABBBABBBABBBABBBABBBA",
  "BBBABBBABBBABBBABBBABBBABBBABBBABBBVFFCHBABBBABBBABBBABBBABBBABBBABBBABBBABBBABBBABBBABBBA",
  "BBBABBBABBBABBBABBBABBBABBBABBBABBBABBBABBBABBBABBBABBBABBCABBBABBBABBBABBBABBBABBBACBBABB",
  "BABBBABBBABBBABBBABBBABBBABBBABBBABBBABBBABBBABBBABBBABBBABBBABBBABBBABBBABBBABBBABBBABBBA",
  "BBBABBBABBBABBBABBBABBBABBBABBBABBBABBBABBBABBBABBBABBBABBBABBBABBBABBBABBBABBBABBBABBBABB",
  "BABBBABBB1D1MAC1DBDGR1PBBRBMC1DCVBTB1D1TFBMBFBRCFBRCFBRBFI1D1BEE1DEECRL1DG1ADSCRBTCRCVLFBR",
  "B1ADR1GEBDKEVFKIERCEBF3VEBRBEHFB1ABVGFCDCFBVEFCEKIDECVBEORB1DB1ABEBF1EE1BFC1D3LELFBEO1DKI",
  "1HEJFCDBVDRBDC1DBFCTWEEFBDJFBDDFBDFFC1DPRB1DZEDFC1DBRB1DLEF1DYEBUHEC1AF1DJF1PEBDYFB1A1GFBG",
  "2CEBFBGBFBEDGIFEGBFCGBEHFKECFCRKIBRBDPEBFCGB1DIEC1DCEC1DWEB1DHEB1DBED1DEEC1DBFBEDGEFC1DCGC",
  "1DCGBFBEI1DBGE1DCEB1DDECFC1DKICECTGKBVBTBEBRBFC1DCFBGB1DGEE1DCEC1DWEB1DHEB1DCEB1DCEB1DCEC",
  "1DBFB1DDGCFE1DCFC1DDFD1DBFH1DEEB1DBEH1DKICFDEBFBRK1DCFBGB1DJEB1DDEB1DWEB1DHEB1DCEB1DFEC1DB",
  "FBEDGFFB1DCFBGB1DCGBFC1DBEP1DCECFC1DKIBRBTH1DBEGFB1DBFCGB1DIEC1DCEC1DWEB1DHEB1DCEB1DFEC1DB",
  "FBEBGBFBGEFC1DCGC1DCGBFH1DCFBGE1DCEB1DDECFC1DKIBVBEGKK1DBFBEB1DGED1DDEB1DEED1DCEB1DBEB1DCE",
  "D1DCED1DDED1DMEE1DCGBFCGD1DDGB1DDGBFC1DBEG1DBGO1DKIDKGVBTBVF1DBFDGBFIEB1DDEB1DXEB1DQEC1DBF",
  "BEDFEGB1DDFB1DEFH1DCFB1DDEB1DCEC1DCECFC1DKIH1DBRHKBVBEBFCGBRIEB1DDEB1DXEB1DKEB1DFEC1DBFBEB",
  "GBFFGB1DBFCGB1DCGCFH1DCGF1DDEB1DCECFC1DKIB1DCEBGM1DCFCGJEB1DDEB1D1PECFBEDGEFB1DDGB1DDGBFBE",
  "BVE1DDEBGHKDECFC1DKIJKBVGEB1DBFCGB1DSED1DYEB1DJEB1DBEC1DHED1DBFE1DDGDFB1DBFB1DIGG1DKIC1DCG",
  "BRM1D1WEBFCEHFE1DBTGEBDIFBRKICR1L1DCEB1DBEB1DFEB1DYEB1DBEB1DKEBFCEJFBEC1DFEB1DBDB1DHFB1DKI",
  "C1DEE1G1DBEDVPRBVBRDVCFGVKIKKBVBFBVBFBVBFBNBOBNBOCGIEB1D1KEE1DOFBGFFBRCFFELFB1D1KFB1DIVBFG",
  "VB1DCVFREVCR1L1D1RECGEFBGGFBGCFCGCFBEKIGRGECGCFEEDFBEDGCEHGDEEFNEBFCGCFGGBFBEBGKIDGBFCV1MA",
  "B1DBAF1DBAC1D1RBBRBDDBcREB1DEEC1DHEB1DBEB1DEEC1D1PEB1DEEC1D1HEB1DEEC1DHEB1DBEB1DEEC1DPEB1D",
  "2FEB1DEEC1D2PEC1DDFJRUKD1DQEKVG1D3IAC1DGBC1DBMnWEBVBRREBW1AEBNBOD1D2XEDRDJIEH1DSEDFBGJ1DTE",
  "CFBGCRJ1DSECFM1DNEB1DDEB1DCFM1D2AECFBGHFIGBFCGLFDRBDDRBTBEBFC1DKIG1DKKG1DGRBMERDFB1ABFKIG",
  "1D1JEBD2BEH1DFECF1IEBFBEF1D2SEK1D1FEB1DDFEGCFDGE1DCGBFGGDFE1DBVD1DCRKI1EEC1DFEL1D1SEE1D1AE",
  "G1DKIBKD1D1IVXECFCGBFC1DCR2BEBGBFBGHFB1DBFBGBFCGIFGGKFC1DBFKIG1DKIG1DHRBDGRC1DOFBH1FFC1DMF",
  "U1DEFBG1VEBFBGFFBGBFFGBFCGIEB1DCRKIHRKVJFJVDRCFBG1EEBGEFCGCFBGDFCEKI1SEBFBGCFDGBFBGDFCGI1D",
  "ER1KEIGIFCGCFD1DFRKID1DDEKI1EEGDCRJBBABBF1D1RAC1DDAIRI1DDFBRNFBGHFEEBFGEBFCEBGCFBEF1D1SB2L",
  "DNBBD1IB1LD2MFBABBBABBBABBBABBBABBBABBBABBBABBBABBBABBBABBBABBBABBBABBBABBBABBBABBBABBBABB",
  "BABBBABBBABBBABBBABBBABBBABBBABBBABBBABBBABBBABBBABBBABBBABBBABBBABBBABBBABBBABBBABBBABBBA",
  "BBBABBBABBBABBBABBBABBBABBBABBBABBBABBBABBBABBBABBBABBBABBBABBBABBBABBBABBBABBBABBBABBBABB",
  "BABBBABBBABBBABBBABBBABBBABBBABBBABBBABBBAJBBABBBABBBABBBABBBABBBABBBABBBABBBABBBABBBABBBA",
  "BBBABBBABBBABBBABBBABBBABBBABBBABBBABBBABBBABBBABBBABBBABBBABBBABBBABBBABBBABBBABBBABBBABB",
  "BABBBABBBABBBABBBABBBABBBABBBABBBABBBABBBABBBABBBABBBABBBAJBIAGBC1DGAC1DIBIAIBIAGBC1DGAC1D",
  "IBB1DBAB1DBAB1DBAB1DBAIBIAOBC1DIBICIBICIBICFBB1DCBEABCBUBBDUDBB1DCBEABCDUEBC1DCBEAB1DDUIBF",
  "ADUC1DDBB1DCBEABCCUB1DLWF1AGMCRBPBQBNCPBQBNBPIRBXBYF1ABWJRBPBQERCLDRBSBNBOLRBSBRBLKRBWF1AB",
  "1DK1ABKBDC1DGKDSBNBOBDKKDSBNBOB1DNDD1D1ITO1DNFEHBFDHMFP1DCVBAEVBACVBBDACBDABBBVBACVBSFAGVB",
  "ABVBABVBABVEABVBBEABBEEBBCVCBCAFSBAEBBVBSCVBBBVQK1JJBABBEJBKCVE1DFSFVCSEVBSCVBSCVBSHVBS1FV",
  "CSCVBSBVBS1FVaISIVBNBOBNBOUVCSHVBNBO3DVBS1EVZS1OVGS2UVW1DLVV1D2IK3AVWK7BVBSJVBS2CVIS4HVBS",
  "9OVBNBOBNBOBNBOBNBOBNBOBNBOBNBO1EK1SVFSBNBO1FSBNBOBNBOBNBOBNBOBNBOQS9WV5BSBNBOBNBOBNBOBNBO",
  "BNBOBNBOBNBOBNBOBNBOBNBOBNBO2LSBNBOBNBO1GSBNBO9YS1WVVSCVGS1NVC1D5IV1WA1WBBABBDACBBABBBABBB",
  "ABBEABBBACBBAGBCDDABBBABBBABBBABBBABBBABBBABBBABBBABBBABBBABBBABBBABBBABBBABBBABBBABBBABBB",
  "ABBBABBBABBBABBBABBBABBBABBBABBBABBBABBBABBBABBBABBBABBBABBBABBBABBBABBBABBBABBBABBBABBBAB",
  "BBABBBABBBABBBABBBABBBABBBABBBABBBACBGVBABBBABBDFBABBF1DERBKCR1MBB1DBBF1DBBC1D2EEH1DBDBRO",
  "1DBFXEJ1DHEB1DHEB1DHEB1DHEB1DHEB1DHEB1DHEB1DHEB1D1GFCRBPBQBPBQDRBPBQBRBPBQJRBMCRBMBRBPBQCR",
  "BPBQBNBOBNBOBNBOBNBOFRBDKRCMERBMBRBNNRCVDRBNBOBNBOBNBOBNBOBM1I1D1AVB1D3LVM1D8GV1A1DQVBWDRB",
  "VBDBEBJBNBOBNBOBNBOBNBOBNBOCVBNBOBNBOBNBOBNBOBMBNCOBVJJEFCGBMFDCVDJBDBEBRCVB1D3IEC1DCFCUCD",
  "BEBM3MEBRDDBEF1D1REB1D3QEB1DCVEKKV1GE1MVJ1DBVQE1FVB1DKK1EVIKBVPK1GVKK1NVPKcIV71OE2MVmgFEBD",
  "17ZED1D2DVJ1D1OEGDCRaIEBDDRQEKICEU1DBABBBABBBABBBABBBABBBABBBABBBABBBABBBABBBABBBABBBABBBA",
  "BBBABBBABBBABBBABBBABBBABBBABBBABBBABBBEBFDHBRKFBRBDBABBBABBBABBBABBBABBBABBBABBBABBBABBBA",
  "BBBABBBABBBABBBABBCDCF2SEKJCFGRI1DXUJDCUBABBBABBBABBBABBBABBBABBBADBBABBBABBBABBBABBBABBBA",
  "BBBABBBABBBABBBABBBABBBABBBABBBABBBABBBABBBABBBABBBABBBABBBABBBABBBABBBABBBABBBABBBABBBABB",
  "BABBBABBBABBBDIBBABBBABBCABBBABBBABBBABBBABBBDCUBABBBABBBEBABBBADBBABBBABBBABBBABBBABBBABB",
  "BABBBABBBABBBABBFABBFABBBABBBABBBABBBABBBABBBABBBABBEABBBABBCABBBABBBABBBABBBABBBABBBABBBA",
  "BBBAU1DEDBABBBECDBBHEBFDEBFEEBFXECGCFBGEVBFD1DGKCVBTBVG1D2AEERI1DCG1YEQGCFI1DCRKIG1DSFGEDR",
  "BEBRCEBFKI1CEIFCRXELFCGL1DBR1DED1DDFBG1VEBFCGEFCGCFDGNRB1DBDKIE1DCRFEBFBDJEKIFEB1D1PEGFCGC",
  "FCGCFJ1DDEBFIEBFBGC1DKIC1DERQEBDGEDVBEBGBFBG1YEBFBEDFCECFFECFBEBFBEY1DCEBDCRLEBGCFCGCRBECD",
  "BGBFK1DGEC1DGEC1DGEJ1DHEB1DHEB1D1RBBUEDJBBDCUE1D3CB1JECGBFCGBFCGBRBGBFC1DKIG1DbxSEM1DXEE1D",
  "1XEE1D26U1B6uE1CeCEC1D4CE1M1DHBM1DFBF1DBEBFKEBSNEB1DFEB1DBEB1DCEB1DCEB1D4EERUQVdZEBOBNQV2M",
  "ECV2CEIV1G1DMEBTDVQFHRBNBOBRG1DQFBRCMCLBNBOBNBOBNBOBNBOBNBOBNBOBNBOBNBOCRBNBOERDLDRB1DERBM",
  "BNBOBNBOBNBODRBSBMDSB1DBRBTCRE1DFEB1D5FEC1DB1AB1DDRBTDRBNBOBRBSBRBMCRKICRDSCR1AABNBRBOBUBL",
  "BU1ABBNBSBOBSBNBOBRBNBOCRKEBD1TECD1FED1DGEC1DGEC1DGEC1DDED1DCTBSBUBVCTB1DBVESCVK1DD1ACVC1D",
  "MEB1D1AEB1DTEB1DCEB1DPEC1DOE1I1D4TEF1DDRE1D1TKD1DJV2BJEKRVCKDVB1DNVD1DBV1V1D1TVBF5A1D1DED",
  "1D1XEP1DBF1BKE1D1GEEKJ1DUEBJIEBJF1D1MEFFF1D1EEB1DBR1KEE1DIEBRFJ1Q1D1OA1OB3AEC1DKIG1D1KAE1D",
  "1KBE1D1OEI1D2AEL1DBRLAB1DPAB1DHAB1DCAB1DLBB1DPBB1DHBB1DCBD1D2AEM1DbZEJ1DWEK1DIEY1DGDB1D1QD",
  "B1DJD2R1DGEC1DBEB1D1SEB1DCED1DBEC1DXEB1DBRIKXECVHK1FEI1DJK1W1DTEB1DCEF1DFKWEGKD1DBR1AEF1DB",
  "R1AE1M1D2EEE1DCKCEQKC1D1UKBEDFB1DCFF1DEFEEB1DDEB1D1DEC1DDFE1DBFJKH1DJRH1D1DECKBR1DEDK1G1DI",
  "EBV1CECFE1DFKHRJ1D2CED1DHRWEC1DIKTEF1DIKSEH1DERM1DHK3C1D2VE2D1D1ZAN1D1ZBH1DGK1KEEFI1DKIG1D",
  "KIEEBDBEWAD1DFFBMBDWBI1DCS8A1D1FKB1D1QEB1DCFBMC1DCEQ1DDEBDCEI1DBRIV1H1DGF1DEKKBEI1DWELFEKF",
  "RW1DSEEFER1M1DVEHKU1DXEJ1DBGBFBG2BEPFHRE1DUKKIBFCECFBEJ1DDFBG1TEDGEFCGCFCRB1AERBFK1DB1AC1D",
  "ZEH1DKIG1DDF1KEFFBGIFB1DKIERBECGBEI1D1JEBFCRBEJ1DCFBG1WEDGJFCGEEEREFBRBGBFKIBEBRBEDRB1DUKL",
  "1DSEB1DZEDGDFCGBFBGCFGRBFCEBF2K1DHEB1DBEB1DEEB1DPEB1DKEBRG1D1VEBFDGIFF1DKIG1DCFCGB1DIEC1DC",
  "EC1DWEB1DHEB1DCEB1DFEB1DCFBECGBFEGC1DCGC1DDGC1DBEG1DBGF1DFECGC1DHFD1DFFL1DKEB1DBEC1DBEB1D",
  "1MEB1DBEDGGFB1DBGC1DBGB1DEGB1DCGBFBGBFBEBFBECRB1DCRI1DCF1D1D2BEDGIFCGDFBGBFEEFRKICRB1DBRBF",
  "DE1E1D1WEDGGFBGBFEGCFBGCFCEBRBEI1DKI6K1D1VEDGEFC1DEGCFBGCFXREECF1I1D1WEDGIFCGBFBGCFDRBEL1D",
  "KIG1DNRT1D1REBFBGBFCGGFBGBFBEBRG1DKIG1DUI1C1D1BEC1DBFBGBFCGEFBGFFE1DKICKDRBVHE7D1D1SEDGJFB",
  "GCFBR3W1D1GA1GBKIJKM1DIEC1DBEC1DIEB1DCEB1DYEGGB1DCGC1DCFBGBFBEBGBEBGBFDRJ1DKI2S1DIEC1D1NED",
  "GEFC1DCFEGBFBEBRBEBG1B1DBEKF1OEGFBGBEEFIRBFI1DBEGFCGDF1UENFBGCFDRBEFRN1D2VEH1DKR3I1DBFBGDF",
  "BGBFBG3K1D1HEBRO1DKIG1DJEB1D1LEBGHFB1DGFBGBFBEFRK1DKITKD1DCR1EEC1DWFB1DBGHFBGCFBGCF2V1DHEB",
  "1DCEB1D1MEGFD1DBFB1DCFB1DHFBEBFI1DKIG1DGEB1DCEB1D1GEFGB1DCFB1DCGBFBGBFBEH1DKIG1D1PEBDCEE1D",
  "KI9M1DTECFCGCRH1DCFBEBGNEB1D1IECGFFD1DCGBFBGBFNRKIBF3H1DBEP1DVKIVETRVN1DBRzME3Y1D4HJB1DFRL",
  "1D7OE2tK1D3TECRN1D15GEQ1ABFGEPFK1D49REF1DmLE7bD1D1EEMFDGDFKI1uS1DlXEH1D1FEB1DKIE1DCR3BEB1D",
  "KIG1D1EEC1DFFBRK1D1WEHFFREVEDBRBVK1DKIB1DHKB1DVEF1DTEgQ1DDD1OECDDRKI7Q1D1GA1GBXKERF1DZAC1D",
  "ZB1S1D2XEE1DBFBE2DGH1DEFND2M1DCDBRBDBFL1DCGCDDJJ1D7vYE1P1D1GE3T1D4LE9aR1DEDB1DHDB1DCDB1DbF",
  "EP1DBE1D1DDEC1DBEO1DEEI1DfGE2gU1D4DEF1DNED1DJEH1DKEC1DBVCFBRE1A47G1D9GVKIDVD1DgUVG1DXVP1DQ",
  "VBSP1D1UFC1DXFJ1D4MV2I1D9MVK1D1NVC1D2IVCGDFDVGGI1AIFCVHF1EVEF2JVV1D2OVDFBV4S1DUKM1DUKM1D3J",
  "VJ1DZK5F1D1AA1AB1AAHBB1DSB1AA1ABBAB1DCAC1DBAC1DCAC1DEAB1DIAEBB1DBBB1DHBB1DLB1AA1ABCAB1DEAC",
  "1DIAB1DHAB1D1ABCAB1DEAB1DFAB1DBAD1DHAB1D1AB1AA1AB1AA1AB1AA1AB1AA1AB1AA1AB1AA1CBC1DZABSZBBS",
  "GBZABSZBBSGBZABSZBBSGBZABSZBBSGBZABSZBBSGBBABBC1D1YIjSV2DFEV1YFIVBFOVBFCVFRP1DFFB1DPF16M1D",
  "KBBEUBG1DGB8F1DHFB1DRFC1DHFB1DCFB1DFFF1D2KD1H1DBF4I1D1TED1DHFHDC1DKIE1DBEBVcI1D1EEBFR1D1SE",
  "EFKIF1DBThW1D1BEBDEFKI8G1D1EECFBEKIE1DBR7K1D1FEB1DDEBFCEBFHECFFEBFI1DBEBD8Q1DHEB1DEEB1DCEB",
  "1DPEB1D7PEC1DJKHF1P1D1IA1IBHFBDE1DKIE1DCRuF1D2HKBVDKBTEK2Y1D1TKBVPK7M1DEEB1D1BEB1DCEB1DBEC",
  "1DBEB1DKEB1DEEB1DBEB1DBEG1DBEE1DBEB1DBEB1DBEB1DDEB1DCEB1DBEC1DBEB1DBEB1DBEB1DBEB1DBEB1DCEB",
  "1DBEC1DEEB1DHEB1DEEB1DEEB1DBEB1DKEB1DREF1DDEB1DFEB1DRE2A1DCSaK1D1SVE1D3WVM1DPVC1DPVB1DPVB",
  "1D1LVK1DNK6FV2E1D1DVN1D1SVE1DJVH1DCVO1DGV5Y1D9RVFUsBVD1DRVD1DNVD1D8KVG1DMVE1DBVP1DMVE1D2EV",
  "I1DKVG1D1OVI1D1EVC1DMVE1DCVO1DJS1N1DdGVI1DOVC1DNVD1DLVD1D2FVB1DBVE1DQVC1DMVE1DKVH1D5RVB1D",
  "3OVKIBV13P1D19nCE1G1D4oOEC1D66CEC1D7zLEP1DnYE2mW1DkWE1lY1D59ZEF1D92OEkzuD1DB1A1E1D3S1A4Y1D",
  "9GF1xhO1D1y0O1CC1D1y0O1CC1D"]

/-- The code points of the given categories. -/
def codes (categories : List Category) : CodeSet :=
  let wanted := all.map fun c => categories.contains c.1
  go wanted.toArray 0 false (CodeSet.numbers table).toList #[]
where
  /-- Walks over the stretches, noting where membership changes. -/
  go (wanted : Array Bool) (start : Nat) (inside : Bool) :
      List Nat → Array Nat → CodeSet
    | length :: index :: rest, bounds =>
      let now := wanted.getD index false
      go wanted (start + length) now rest (if now == inside then bounds else bounds.push start)
    | _, bounds => ⟨if inside then bounds.push start else bounds⟩

end Category

end Conformance
