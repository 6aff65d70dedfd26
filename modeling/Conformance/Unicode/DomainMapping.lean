/-
Mapping of domain names.

Before a domain name is looked up its letters are brought to one form: capital
letters to small ones, compatibility forms to plain ones. Some code points are
dropped on the way and some do not belong in a name at all.

The table lists stretches from zero up, each as its length and a kind: 0 not
allowed, 1 kept, 2 dropped, 3 each moved by a distance (twice it upwards, one
less than twice it downwards), above that each replaced by that many less three
code points, which follow.
-/
import Conformance.Unicode.Stretches

namespace Conformance

/-- What becomes of a code point in a domain name. -/
inductive DomainMapping where
  | refused
  | kept
  | dropped
  | moved (distance : Int)
  | replaced (codes : List Nat)
  deriving Repr, Inhabited

namespace DomainMapping

/-- The stretches of equal treatment. -/
def table : List String := [
  "2NB1AD2M1LB1GABD9VHBBF1GtWBBBD5PCBBCBBBF1GtSCBCD9VBF1GtPBD1nQCBBF1GvBBDaLBD5TBBBG1X8tS2ABG",
  "1X8tS1YBG1Z8tS2ABBXD2MBBHD2M1HBBDCBBBDCBBBDCBBBDCBBBDCBBBDCBBBDCBBBDCBBBDCBBBDCBBBDCBBBDCB",
  "BBDCBBBDCBBBDCBBBDCBBBDCBBBDCBBBDCBBBDCBBBDCBBBDCBBBDCBBBDCBBBF4BtVBBCF4B4CBDCBBBDCCBBDCBB",
  "BDCBBBDCBBCF4E7BBDCBBBDCBBBDCBBBDCBBBFqY4GBDCBBBDCBBBDCBBBDCBBBDCBBBDCBBBDCBBBDCBBBDCBBBDC",
  "BBBDCBBBDCBBBDCBBBDCBBBDCBBBDCBBBDCBBBDCBBBDCBBBDCBBBDCBBBDCBBBDCBBBD9HBDCBBBDCBBBDCBBBDkP",
  "BBBDgEBDCBBBDCBBBDfWBDCBBCDfUBDCCBBD6CBDfOBDfQBDCBBBDfUBDfYBBBDgGBDgCBDCDBBDgGBDgKBBBDgMBD",
  "CBBBDCBBBDCBBBDgUBDCBBBDgUCBBDCBBBDgUBDCBBCDgSBDCBBBDCBBBDgWBDCDBBDCHBDF3WeSDF4E4CDF4G4CBD",
  "CBBBDCBBBDCBBBDCBBBDCBBBDCBBBDCBBBDCCBBDCBBBDCBBBDCBBBDCBBBDCBBBDCBBBDCBBBDCBBBDCCBDF3W4SB",
  "DCBBBD7LBD4HBDCBBBDCBBBDCBBBDCBBBDCBBBDCBBBDCBBBDCBBBDCBBBDCBBBDCBBBDCBBBDCBBBDCBBBDCBBBDC",
  "BBBDCBBBDCBBBDCBBBDCBBBD9ZBBBDCBBBDCBBBDCBBBDCBBBDCBBBDCBBBDCBBBDCBBBDCHBBDn2KBDCBBBDcNBD",
  "n2ECBBDCBBBDeZBD5IBD5MBDCBBBDCBBBDCBBBDCBBBDC3TBBD18XBD5TBD18XBD18JBD4NBD4LBD4BBD18HBD18F",
  "1FBBF1GtUBF1GtVBF1GtYBF1GvCBF1GtRBF1GtZCBBD9PBD1cJBD1bXBD1bPBD6B3NBCD4XBBBD3RBFtWtPBD8YJBB",
  "C1GBBDCBBBDCBBBDeJBBBDCBBCABF1G10RDBBD1sFBD8YEABF1GtPBG1GtWtPBD2YBD1jJDD2WBABD4YBACD4WBBRD",
  "2MBAJD2M1JBBDQBD2HBD1XBDZBDLBDRBD1DBD1RBBBDCBBBDCBBBDCBBBDCBBBDCBBBDCBBBDCBBBDCBBBDCBBBDCB",
  "BBDCBBBDCBBBD4DBD3RBD3PBBBD4PBD4XBBBDCBBBD4DBDCCBDD9ZQD6E1GD2M1WBBDCBBBDCBBBDCBBBDCBBBDCBB",
  "BDCBBBDCBBBDCBBBDCBBBDCBBBDCBBBDCBBBDCBBBDCBBBDCBBBDCBBBDCJBBDCBBBDCBBBDCBBBDCBBBDCBBBDCBB",
  "BDCBBBDCBBBDCBBBDCBBBDCBBBDCBBBDCBBBDCBBBDCBBBDCBBBDCBBBDCBBBDCBBBDCBBBDCBBBDCBBBDCBBBDCBB",
  "BDCBBBDCBBBDCBBBD1EBDCBBBDCBBBDCBBBDCBBBDCBBBDCBBBDCCBBDCBBBDCBBBDCBBBDCBBBDCBBBDCBBBDCBBB",
  "DCBBBDCBBBDCBBBDCBBBDCBBBDCBBBDCBBBDCBBBDCBBBDCBBBDCBBBDCBBBDCBBBDCBBBDCBBBDCBBBDCBBBDCBBB",
  "DCBBBDCBBBDCBBBDCBBBDCBBBDCBBBDCBBBDCBBBDCBBBDCBBBDCBBBDCBBBDCBBBDCBBBDCBBBDCBBBDCBBBDCBBB",
  "DCBBBDCBBBDCBBBDCBBBDCBBBA1MD3SCA1UBBF1hD1iGDBCADBBA2DBIA1BBEAGBRAWBBA3KBBF1oP1rOBF1pW1rOB",
  "F1uT1rOBF1pY1rO3WBBA1WBCA2HBCA3XBOA2HBCA1XBCAPBBA1CBCABBBALBFA1GBHA2XBBA4NBBF2hL2iYBF2hM",
  "2iYBF2hN2iYBF2hS2iYBF2hX2iYBF2hY2iYBF2iH2iYBF2iL2iY1KBBAIBCACBCAWBBAHBBABBDAEBCAJBCACBCAEB",
  "IABBEABF2mV2nWBF2mW2nWBABF2nJ2nWEBCAZBCADBBAGBEACBCAWBBAHBBABBBF2sK2sUBABBBF2sQ2sUBACBCABB",
  "BAFBEACBCADBDABBHABF2rI2sUBF2rJ2sUBF2rO2sUBBBABF2sD2sUHARBKADBBAJBBADBBAWBBAHBBACBBAFBCAKB",
  "BADBBADBCABBPAEBCAMBHAHBBADBBAIBCACBCAWBBAHBBACBBAFBCAJBCACBCADBHADBEABF31P32QBF31Q32QBAFB",
  "CASBKACBBAGBDADBBAEBDACBBABBBACBDACBDADBDAMBEAFBDADBBAEBCABBGABBOAVBFANBBADBBAXBBAQBCAJBBA",
  "DBBAEBHACBBADBBACBCAEBCAKBHAWBBADBBAXBBAKBBAFBCAJBBADBBAEBHACBFADBBAEBCAKBBADBMANBBADBBA1Z",
  "BBADBBAGBEAQBCA1ABBADBBASBDAYBBAJBBABBCAHBDABBEAGBBABBBAIBGAKBCADBMA1YBBF3wV3vUHBEA1DB1LAC",
  "BBABBBAFBBAYBBABBBAMBBF41T40SKBCAFBBABBBAHBBAKBCABF40L3zTBF40L40BCB1GAMBBDB2CBBF46G4aTEBBA",
  "EBBF46Q4aTEBBF46V4aTEBBF47A4aTEBBF47F4aTMBBF46E4aRDBEACBBF48B48CBBBF48B48EBF4aO48QBG4aO48B",
  "48QBF4aP48QBG4aP48B48QHBBF48B48QRBBF49I4aTEBBAEBBF49S4aTEBBF49X4aTEBBF4aC4aTEBBF4aH4aTMBBF",
  "49G4aRDBBAPBBANB1LA6EB1MDfiUBABDfiUFABDfiUCA1SBBD2L3UBCC8YBBAEBCAHBBABBBAEBCA1PBBAEBCA1HBB",
  "AEBCAHBBABBBAEBCAPBBA2FBBAEBCA2PBCA1GBDA1ABGA3IBCAGDPCAoQBBA1CBDA3LBHAWBJAYBJAUBMANBBADBBA",
  "CBMA2ABCC1OBCAKBGAKBGALBFCKBGA3LBHA1RBFA2SBKA1FBBAMBEAMBEABBDA1QBCAFBLA1SBEA1ABGALBDA2KBCA",
  "2NBBA1DBCALBGAKBGAOBCA1UBCAMBUA2ZBBA6KBIA2IBDAPBDA1ZBBDdaPBDdaNBDd9VBDd9RCE15YBDd9FBDd7JBD",
  "23cWBDCBBFA1RD6fJCADD6fJIBIA1RBFA1SBBDfqZBDfgVBDfrBBBCDfrBBDeyFIDfrBBBBDfrDBDetRBDfrFBDfrD",
  "CDfrBBDfqZBDfsTCDeqTBD5FBDfsZCDfsXBDeqNCDeqLBDftBBBBDfsXBDfsVBDfbVBDfsVBDerPCD4TBDftBCDfsV",
  "BD4PBDeqBBDfsZBD4FDDe1LCDe0DBDfuNBDftXCDftTCDe2DBDe1DCDe0VNBBDdsV1IBBDexHBDfzLBDexFBDfoTBD",
  "ewVBDfzNBDewTBDewRBDewLDDewHBD3JBDesNBDewHBD2VBDesPBDewFBDewJEDewHBDewDCDevLBDfcDCDevDBDbZ",
  "CDevFBDg0BDDevBBDe8N2MBBDCBBBDCBBBDCBBBDCBBBDCBBBDCBBBDCBBBDCBBBDCBBBDCBBBDCBBBDCBBBDCBBBD",
  "CBBBDCBBBDCBBBDCBBBDCBBBDCBBBDCBBBDCBBBDCBBBDCBBBDCBBBDCBBBDCBBBDCBBBDCBBBDCBBBDCBBBDCBBBD",
  "CBBBDCBBBDCBBBDCBBBDCBBBDCBBBDCBBBDCBBBDCBBBDCBBBDCBBBDCBBBDCBBBDCBBBDCBBBDCBBBDCBBBDCBBBD",
  "CBBBDCBBBDCBBBDCBBBDCBBBDCBBBDCBBBDCBBBDCBBBDCBBBDCBBBDCBBBDCBBBDCBBBDCBBBDCBBBDCBBBDCBBBD",
  "CBBBDCBBBDCBBBDCBBBDCBBBDCBBBDCBBBDCFBBF3TrABD4LCBBDg9TBBBDCBBBDCBBBDCBBBDCBBBDCBBBDCBBBDC",
  "BBBDCBBBDCBBBDCBBBDCBBBDCBBBDCBBBDCBBBDCBBBDCBBBDCBBBDCBBBDCBBBDCBBBDCBBBDCBBBDCBBBDCBBBDC",
  "BBBDCBBBDCBBBDCBBBDCBBBDCBBBDCBBBDCBBBDCBBBDCBBBDCBBBDCBBBDCBBBDCBBBDCBBBDCBBBDCBBBDCBBBDC",
  "BBBDCBBBDCBBBDCBBBDCBBBDCJBIDPGBCAGDPCAIBIDPIBIDPGBCAGDPCAIBBABDPBABDPBABDPBABDPIBIDPBBBD",
  "f6VBBBDf6XBBBDf6ZBBBDf7BBBBDf4ZBBBDf5BBBBDf5DCABF8hG10RBF8hH10RBF8hI10RBF8hJ10RBF8hK10RBF",
  "8hL10RBF8hM10RBF8hN10RBF8hG10RBF8hH10RBF8hI10RBF8hJ10RBF8hK10RBF8hL10RBF8hM10RBF8hN10RBF",
  "8iM10RBF8iN10RBF8iO10RBF8iP10RBF8iQ10RBF8iR10RBF8iS10RBF8iT10RBF8iM10RBF8iN10RBF8iO10RBF",
  "8iP10RBF8iQ10RBF8iR10RBF8iS10RBF8iT10RBF8kY10RBF8kZ10RBF8lA10RBF8lB10RBF8lC10RBF8lD10RBF",
  "8lE10RBF8lF10RBF8kY10RBF8kZ10RBF8lA10RBF8lB10RBF8lC10RBF8lD10RBF8lE10RBF8lF10RCBBF8lO10RBF",
  "10J10RBF10E10RBABBBF8oG10RCDPBD5RBDfcNBF10J10RBF1GuHBDfbTBF1GuHBF1GwCBG1GtWwCBF8lS10RBF10P",
  "10RBF10G10RBABBBF8oW10RBD6PBDfdNBD6PBDfdPBF10P10RBG1GuHtOBG1GuHtPBG1GuHwCDBBDfgNCACBCDPBD",
  "7RBDfeTBABG1GuItOBG1GuItPBG1GuIwCDBBDffHEBCDPBD8PBDfdRBDNBG1GtWtOBG1GtWtPBDh9LCABF8mA10RBF",
  "11H10RBF11M10RBABBBF8qS10RBD9VBDfeVBD9RBDfeVBF11H10RBF1GtPBF1GuIBALE1GBCCBCABBBDBFBBF1GvNM",
  "BDABBHABDhjHDBBF8tA8tABG8tA8tA8tABBBF8tD8tDBG8tD8tD8tDEBBF1H1HBBBF1GtTIBBF2L2LBF2L1HBF1H2L",
  "NBBH8tA8tA8tA8tAHBBDhmZFCFAGCBDhnBBDhiTCAGDhnBBDhoFBDvIBDhmZCDhoRBDhjLKDhoHBDhpLBDuCBDhoFC",
  "DhpXBABDhlTBDhlNBDhkVBDhkFBDgjHBDhlPEDhlLBDhlJCDhlFDAIBBF4K4LZBOA1HBPABG3T1V3VBG3T1V4LBD",
  "huJBF6U3VBBBG3V1V4HBG3V1V4NBDgrZBBBF6U3YBDhuREE4ABDhgHCE4BCE4EBBBDhuZBF4G4HCBCDhvDDE4KCBBF",
  "4L4FBG4M3X4EBF4M4FBBBDhvFBBBDg2FBBBDhvNBBBDhwVBDhnNCDhxRBBCE3XBDhxTBD2EBDhxJBDhxHEDezLBD",
  "hyDBBBG3Y3T4QBDg4PCE10LBDg4VBDgCEBCE3WBDhzNCDhzHGBBG1X8tS2DBG1X8tS2FBH1X8tS1X1WBG1X8tS1ZBG",
  "1Y8tS1ZBG1X8tS2BBG1Y8tS2BBG1Z8tS2BBG2A8tS2BBG1X8tS2CBG2B8tS2CBG1X8tS2EBG1Z8tS2EBG2B8tS2EBG",
  "2D8tS2EBF1X8tSBDi1DBF4B4BBG4B4B4BBF4B4OBDi0LBF4O4BBG4O4B4BBH4O4B4B4BBF4B4QBDi0RBF4Q4BBG4Q",
  "4B4BBDi1VCDi2PBDi1ZBDi2JBF4B4BBG4B4B4BBF4B4OBDi1RBF4O4BBG4O4B4BBH4O4B4B4BBF4B4QBDi1XBF4Q4B",
  "BG4Q4B4BBDi3BCDi3VBDi3FDBBDCFBBG1W8tS1ZCBEA6ABBF9cL9cLBG9cL9cL9cLBBBF9cO9cOBG9cO9cO9cO9OBC",
  "D71M9VBWALBVAJDjsNBF1X1WBF1X1XBF1X1YBF1X1ZBF1X2ABF1X2BBF1X2CBF1X2DBF1X2EBF1X2FBF1Y1WBG1O1X",
  "1PBG1O1Y1PBG1O1Z1PBG1O2A1PBG1O2B1PBG1O2C1PBG1O2D1PBG1O2E1PBG1O2F1PBH1O1X1W1PBH1O1X1X1PBH1O",
  "1X1Y1PBH1O1X1Z1PBH1O1X2A1PBH1O1X2B1PBH1O1X2C1PBH1O1X2D1PBH1O1X2E1PBH1O1X2F1PBH1O1Y1W1PUABG",
  "1O3T1PBG1O3U1PBG1O3V1PBG1O3W1PBG1O3X1PBG1O3Y1PBG1O3Z1PBG1O4A1PBG1O4B1PBG1O4C1PBG1O4D1PBG1O",
  "4E1PBG1O4F1PBG1O4G1PBG1O4H1PBG1O4I1PBG1O4J1PBG1O4K1PBG1O4L1PBG1O4M1PBG1O4N1PBG1O4O1PBG1O4P",
  "1PBG1O4Q1PBG1O4R1PBG1O4S1P1ADjvL1ADjxLBDk3F1eNBBH9cL9cL9cL9cL3ZBBG2G2G2JBF2J2JBG2J2J2J3XBB",
  "FbqBvS5VBCA5IB1WD3S1WBBDCBBBDmyJBD85JBDmxDCBBDCBBBDCBBBDCBBBDn1FBDmyVBDn1LBDn1JBBBDCCBBDCG",
  "BBDo3VBDo2ZCDn3XBDCBBBDCBBBDCBBBDCBBBDCBBBDCBBBDCBBBDCBBBDCBBBDCBBBDCBBBDCBBBDCBBBDCBBBDCB",
  "BBDCBBBDCBBBDCBBBDCBBBDCBBBDCBBBDCBBBDCBBBDCBBBDCBBBDCBBBDCBBBDCBBBDCBBBDCBBBDCBBBDCBBBDCB",
  "BBDCBBBDCBBBDCBBBDCBBBDCBBBDCBBBDCBBBDCBBBDCBBBDCBBBDCBBBDCBBBDCBBBDCBBBDCBBBDCBBBDCIBBDCB",
  "BBDCEBBDCBBFA1TBBABBFABBCA2EBHABD1BBBOAYBJAHBBAHBBAHBBAHBBAHBBAHBBAHBBAHBBA4WB1IA1ABBAEBBD",
  "xgU3FBBD1pmUMABDgyMBDh1MBDh2MBDh3CBDh5ABDh8IBDh8UBDhaGBDhcEBDipSBDisOBDisYBDiuQBDiwCBDixQB",
  "Dj1QBDj3EBDj3YBDjfUBDjmYBDjpABDjpIBDjrOBDjsEBDjuEBDjvCBDjwYBDk0WBDk2EBDk4EBDlqGBDlvSBDmvAB",
  "DmwSBDmxGBDmyABDmzIBDn5CBDo5SBDo9IBDoiMBDokEBDolOBDonEBDorGBDorKBDpjEBDpjWBDpkSBDplQBDpuMB",
  "DpvABDpvIBDq4GBDq4YBDq5WBDq6KBDqbABDqcGBDqdOBDqjQBDrsGBDrvSBDrxGBDtiCBDtiKBDtoSBDtpWBDtqUB",
  "DtsIBDtvGBDtvOBDugABDuhUBDukEBDwqGBDwvGBDwwYBDx1IBDx3CBDx3SBDx4EBDx8CBDx8KBDxaUBDzlSBD10kA",
  "BD10kWBD10lEBD10lKBD10lYBD10nGBD10nIBD10tMBD11aABD11aIBD120IBD121ABD124UBD125GBD125WBD126K",
  "BD12dIBD12dUBD12vGBD12vSBD12zKBD130QBD134EBD13mIBD13mUBD13oABD14dCBD14mSBD14nCBD151ABD157Q",
  "BD15bCBD164CBD16eGBD17mIBD17oIBD17sQBD17wMBD181QBD182KBD182UBD185GBD18bABD18bSBD192GBD192S",
  "BD193IBD193YBD195CBD196EBD196KBD19cKBD19cQBD19dABD1bgKBD1biQBD1ciQBD1cjMBD1clEBD1d6WBD1d7U",
  "BD1ddEBD1dgQBD1eoEBD1epGBD1eqIBD1esYBD1evSBD1faYBD1fbUBD1fgWBD1fzWBD1g2EBD1giEBD1gjSBD1gkA",
  "BD1h0WBD1heYBD1hoMBD1hoWBD1hpEBD1joYBD1jpOBD1k1MBD1kdGBD1kdKBD1kgYBD1koYBD1kpWBD1kqCBD1kqO",
  "BD1kyABD1l0OBD1l0YBD1l1YBD1leSBD1liOBD1liUBD1lwUBD1lwYBD1lyIBD1mhQBD1mlGBD1mlSBD1mrABD1mrS",
  "BD1mrWBD1msOBD1muUBD1npCBD1ojUBD1okMBD1onIBD1ooYBD1opMBD1oqEBD1oqKBD1otKBD1otQBD1ouWBD1ovE",
  "BD1owCBD1oyCBD1ozEBD1ozSBD1p4EBD1p5GBD1p5M1QABDq6TBBBDq5V1ZBBD2TBBBDj5YCDj6CFBBA3IBCACBBF",
  "1GdaNBF1GdaOCBBFd9Wd9Y3RBBFdbNdcIFA1RBBACDhlXBDh8ZBDhlZCDh8ZDDhmDGDh9BBDhlBDDhmRBDhkVKDhmT",
  "VDhgTBCCDhoJCDhaTBDhaNBDhaLBDhaDBDh9XBDh9VBDhoLBDh9RBDh9PCDhoPBDhoNCDhoLBDhoFBDhoDFDhoBBD",
  "hnXBDhnRBDhmZBDhmNBDhmFCDh9PDDhlPCDhiJBDhiFCDhhPBDhhNBDhgVBDhgRBACBBDfjWBDfuOBDfkKBDkeABD",
  "fkIBDfmYBDfkGBD10zEBDfqCBDflCBDfjEBDlmUBDkjWBDfxE2SBKAQBBG1O4nK1PBG1O4nM1PBG1O4nN1PBG1O4nP",
  "1PBG1O4nQ1PBG1O4nR1PBG1O4nT1PBG1O4nV1PBG1O4nW1PBG1O4nY1PBG1O4nZ1PBG1O4oA1PBG1O4oB1PBG1O4oC",
  "1PBG1O1b1O1PBG1O1caU1PBG1O1cxK1PBG1O1e6Q1PBG1O1etG1PBG1O1ffW1PBG1O1gpC1PBG1O1hyI1PBG1O1ikY",
  "1PBG1O1juE1PBG1O1kgU1PBG1O1l3K1PBG1O1lqA1PBG1O1mcQ1PBG1O1iyY1PBH1O1i6Y1ipK1PBH1O1i6Y1mqQ1P",
  "BABG1OlcA1PBG1OlhK1PBG1OlcJ1PBG1OnrF1PBG1OlhS1PBG1Om9T1PBG1OlcD1PBG1Om9R1PBG1OlfP1PBG1OmrT",
  "1PBG1Os6M1PBG1OuqX1PBG1OtlK1PBG1Os7S1PBG1O13vT1PBG1OntV1PBG1OrvH1PBG1OshQ1PBG1Os6N1PBG1O",
  "x5U1PBG1OmzP1PBG1OvbD1PBG1O12gR1PBG1Ox6Z1PBG1OmmI1PBG1OlkT1PBG1On3W1PBG1OozY1PBG1OwiP1PBG",
  "1OllX1PBG1O12iD1PBG1OmsM1PBG1Ox7P1PBG1OlmN1PBG1OzjE1PBG1OzjN1PBDj6CBDo6SBDs1IBD143CIBBG4I",
  "4M3XBF1Y1XBF1Y1YBF1Y1ZBF1Y2ABF1Y2BBF1Y2CBF1Y2DBF1Y2EBF1Y2FBF1Z1WBF1Z1XBF1Z1YBF1Z1ZBF1Z2ABF",
  "1Z2BBDi9FCDi9DDDi9BBDi8ZCDi8XFDi8VBD1uiABD1x0KBD1y9OBD20rYBD221CBD23aGBD25sQBD28bABD29kEBD",
  "2c2OBD2dbSBD2ekWBD2fuABD2h3EBF1juU1baEBF1iyY1iiUBD292IBBBDf1OBDfcGBDf2CBDjvSBDfcQBDgwQBD",
  "f1IBDgwIBDf8CBDhwIBDspSBDxuMBDvjKBDsrYBD1g3YBDk0ABDs2WBDtbMBDspEBD12nQBDibEBDyyEBD1d9EBD",
  "12pSBDhkIBD12zABD10fUBDl8YBD1fbEBDgpQBDhyIBDvvUBD1jgSBDfkABDgxUBDv1OBDezOBDf2EBDezMBDnnQBD",
  "i7QBDhtKBDmdYBDmaCBD11bIBDfhWBD1daGBDhuWBDl0QBF1Z2CBF1Z2DBF1Z2EBF1Z2FBF2A1WBF2A1XBF2A1YBF",
  "2A1ZBF2A2ABF2A2BBF2A2CBF2A2DBF2A2EBF2A2FBF2B1WBF1Xs6MBF1Ys6MBF1Zs6MBF2As6MBF2Bs6MBF2Cs6MBF",
  "2Ds6MBF2Es6MBF2Fs6MBG1X1Ws6MBG1X1Xs6MBG1X1Ys6MBF4A3ZBG3X4K3ZBF3X4OBG4E4M3WBD16XBD16VBD16TB",
  "D16RCD16PBD16NBD16LBD16JBD16HBD16FBD16DBD16BBD15ZBD15XBD15VBD15TBD15PBD15NBD15LGD15JBD15FB",
  "D15BBD14XBD14TFD14PBD14NBD14LGD14JED14HBFlkUn4MBHdaWdcRdeIdcIBHdaWddRdcVdaVBHdaWddZddAdaWB",
  "GdaWdeIddRBHdaYdcLddZdbKBGdaYddZdcBBGdbAdbDddZBIdbCdbTdbJdeIdcJBHdbCdeIdbFdeIBGdbEddZdbTBG",
  "dbEdeIddGBGdbFdaYddQBHdbFddPdcDdcIBHdbFddTddQdeIBGdbGddTddZBGdbGddZddEBFdbIdbGBGdbIdcLdeIB",
  "HdbHddLddQdeIBHdbIddRdcAdeIBFdbHddTBIdbHddTdbKddPddGBJdbHddTddHdeIdcIddRBIdbHddTddVdcDdcIB",
  "GdbKddPddGBIdbKddPddGdcIddZBIdbJddRdbWdaYddTBHdbJddTdeIdcNBGdbLdeIdbTBGdbNddRdcKBGdbNdeI",
  "ddDBHdbPdaYdbJddRBIdbPddZdcBdeIddGBHdbRddQddZdbKBGdbVddZdcBBGdbVddZdcIBGdcAdeIdbTBFdcHdbRB",
  "FdcJddRBFdcIddZBFdcKdcOBGdcOdcDdcIBGdcPdaYdcEBIdcRdeIdbVddZdcIBGdcRdeIdcEBHdcQdeIddSddRBI",
  "dcUdaWdbTdcIddRBGdcUdbJddRBFdcUdbNBFdcTddRBIdcVdaVddPdcDdcJBHdcVdaXdeIdcIBIdcWdcDdbRdbBddR",
  "BGdcVddPddZBIdcYdbJdbZdeIddRBFddAdbXBGddAdcLdcSBGdcYddRdcEBGddAddZdbTBGddAdeIdbSBGdcZdeI",
  "dbZBHddDdaYddZdcIBGddCddRdcIBFddBddZBGddDddZdcJBGddBdeIddRBGddBdeIddZBHddEdaYdbJddTBGddE",
  "daYddRBGddEdcDdcPBGddEddRdbJBIddEddZdbRddNddZBHddFdbJddTddZBFddFddQBIddFddQdcQdeIddRBFddH",
  "dbGBHddHdbGdcIddZBHddHdeIdcIddRBGddKdeIdcJBGddKdeIddRBGddMdaWddZBHddQdcDdcIddRBFddQddPBG",
  "ddRdcUdeIBHddRdeIdcWddRBFddSddGBIddSddZdcIdbMddZBGddVdcDdcIBF1WutXBF1XutXBF1YutXBF1ZutXBF",
  "2AutXBF2ButXBF2CutXBF2DutXBF2EutXBF2FutXBG1X1WutXBG1X1XutXBG1X1YutXBG1X1ZutXBG1X2AutXBG1X",
  "2ButXBG1X2CutXBG1X2DutXBG1X2EutXBG1X2FutXBG1Y1WutXBG1Y1XutXBG1Y1YutXBG1Y1ZutXBG1Y2AutXBG4A",
  "4I3TBF3W3TBF3T4NBG3U3T4KBF4H4OBF4I3VBF3W4FBG3W4F1YBG3W4F1ZBF4B4NBFptZqtOBFryBn4MBFodVtdJBF",
  "rwWtqPBHshQpzZlmWx5UBF4I3TBF4G3TBF10U3TBF4F3TBF4D3TBF4D3UBF4F3UBF3Z3UBG3V3T4EBH4D3V3T4EBF",
  "4I3YBF4G3YBF10U3YBF10U3ZBF4F3ZBF4D3ZBF4A4SBG4D4A4SBG4F4A4SBG3Z4A4SBG4M4A4SBF10U4EBF4F4EBF",
  "3W4EBF4D4EBF3Y4FBF4G4FBF10U4FBF4F4FBF3V4FBF4D4FBG4F4F1YBG3V4F1YBF4F1YBG4D4F1YBG4F4F1ZBG3V",
  "4F1ZBF4F1ZBG4D4F1ZBG4F9bP4LBH4F9bP4L1YBF4I3TBG4D4I3TBG4F4I3TBG3Z4I3TBG4K3T3WBI4K3T3W9bP4LB",
  "J4K3T3W9bP4L1YBF4I4LBF4G4LBF10U4LBF4F4LBF4I4OBF4G4OBF10U4OBF4F4OBF4D4OBF4F4OBF4I4PBF4G4PBF",
  "10U4PBF4F4PBF4D4PBF4F4PBF4D11HBF4F11HBABF3U4JBF3V3VBF3V3WBH3V9bP4D3ZBABF3W3UBF3Z4RBF4A3TBF",
  "4A4IBF4B4GBF4D4DBF4D4FBF4D4MBF4E4FBF4E4GBG4E4H3ZBF4E4QBF4F3UBG4F4B4EBG4F4H4EBF4I4ABABG4I4I",
  "4FBF4I4KBF4L4KBF4L4OBF4P3UBG4O9bP4FBG3T9bP4FBF1XrvHBF1YrvHBF1ZrvHBF2ArvHBF2BrvHBF2CrvHBF2D",
  "rvHBF2ErvHBF2FrvHBG1X1WrvHBG1X1XrvHBG1X1YrvHBG1X1ZrvHBG1X2ArvHBG1X2BrvHBG1X2CrvHBG1X2DrvHB",
  "G1X2ErvHBG1X2FrvHBG1Y1WrvHBG1Y1XrvHBG1Y1YrvHBG1Y1ZrvHBG1Y2ArvHBG1Y2BrvHBG1Y2CrvHBG1Y2DrvHB",
  "G1Y2ErvHBG1Y2FrvHBG1Z1WrvHBG1Z1XrvHBG3Z3T4EusFBDA2DBJAdKBUABDCBBBDCBBBDCBBBDCBBBDCBBBDCBBB",
  "DCBBBDCBBBDCBBBDCBBBDCBBBDCBBBDCBBBDCBBBDCBBBDCBBBDCBBBDCBBBDCBBBDCBBBDCBBBDCBBBDCTBBDCBBB",
  "DCBBBDCBBBDCBBBDCBBBDCBBBDCBBBDCBBBDCBBBDCBBBDCBBBDCBBBDCBBBDCBBBD2gsLBD2gsJ3MBIA1IBBDCBBB",
  "DCBBBDCBBBDCBBBDCBBBDCBBBDCDBBDCBBBDCBBBDCBBBDCBBBDCBBBDCBBBDCBBBDCBBBDCBBBDCBBBDCBBBDCBBB",
  "DCBBBDCBBBDCBBBDCBBBDCBBBDCBBBDCBBBDCBBBDCBBBDCBBBDCBBBDCBBBDCBBBDCBBBDCBBBDCBBBDCBBBDCBBB",
  "DCBBBDBIBBDCBBBDCBBBD23hVBDCBBBDCBBBDCBBBDCBBBDCEBBDCBBBD2icHCBBDCBBBDCDBBDCBBBDCBBBDCBBBD",
  "CBBBDCBBBDCBBBDCBBBDCBBBDCBBBDCBBBD2ieLBD2ifHBD2ieZBD2ieFBD2ieLBBBD2iaPBD2icLBD2iaVBD1zKBD",
  "CBBBDCBBBDCBBBDCBBBDCBBBDCBBBDCBBBDCBBBD3RBD2ieJBD23lVBDCBBBDCBBBD2ihDBDCBBBDCBBBDCBBBDCBB",
  "BDCBBBDCBBBDCBBBDCBBBD2ixXUABD2jmHBD2jnPBD2jnLBD2jmRBDCCBBD2j8ZBD2j5R1ZBDAKBGA2EBIA2SBIAMB",
  "GA4MBLA1EBDA3ABBALBEA1HBBA2DBJAOBCAKBCA3ZBYA1CBKAGBCAGBCAGBJAHBBAHBBA1SBBD2aVBD2XBD2keZBDZ",
  "JBBD2kdFCBEA3CD2b1N1UBCAKBGAbxSBMAXBEA1XB91CABD1ngXBD27wBBD1m3RBD1n7HBD23lLBD2lfXBD2ibTCE",
  "17nOBD2fdFBD1kgRBD2hfZBD2feDBD2anHBD1zgRBD1uhJBD1qsZBD1pzXBD1pbNBD1l6DBD269JBD24kLBD22iVBD",
  "20vLBD1rxDBD1kpTBD1g1XBD2lbLBD2imBBD25qFBD21uRBD1qvNBD1dsDBD2d8JBD232BBD1r3FBD1p4PBD2a8XBD",
  "1t9JBD1ptVBD2cfVBD27wLBD24fZBD21eJBD1l3FBD2ksVBD2jlTBD2izDBD296TBD25vNBD21xBBD1z9VBD1uaRBD",
  "1r0FBD1qtRBD1moPBD1hmHBD1faXBD1dwXBD1yeBBD1xvLBD1vmFBD1s8ZBD1jxDBD1dnDBD1oeJBD2fqJBD2cdLBD",
  "1wbJBD1u2JBD21sHBD1yaFBD1ndBBD1hsDBD2frNBD2dtXBD26cJBD24aBBD23mJBD1vwHBD1vcBBD1i5ZBD2j2TBD",
  "1u2LBD2jlVBD2jnDBD1xlJBD1vlXBD1s7XBD1i3JBD1o3FBD2acPBD26eXBD1odLBD2lmFBD2e4XBD2buXBD217VBD",
  "206HBD2iyTBD1y8RBD2ksTBD2c3LBD2lqHBD24wXBD28xHBD1vzJBD2imDBD2g3NBD1zcHBD1s2VBD1olHBD25iPBD",
  "1luNBD252XBD2aaVBD1suRBD29yNBD208RBD2lfDBD2jxLBD2jqDBD27aVBD1w5FBD1t4JBD1ojHBD1kpTBD2j3NBD",
  "2idZBD2fjVBD2ckDBD28tJBD238DBD1y7PBD1imFBD1g0ZBD1dqVBD1dmRBD2jbHBD28aFBD25pXBD1m2RBD2cuHBD",
  "2b5DBD2awPBD29hLBD23qBBD22jVBD20rXBD1xwNBD1vmPBD1u9VBD1m8DBD1rtLBD1loVBD1jyVBD2jmVBD2jcDBD",
  "2i6VBD22uRBD1pqPBD1opDBD2cpHBD2c2HBD2a4ZBD25nPBD1wlNBD21ePBD2leTBD2gzRBD2eaRBD2daVBD2bzZBD",
  "21aJBD20wJBD1usBBD1ueXBD1klXBD1i0HBD1huBBD1heDBD2l2XBD1y1FBD1kwFBD1i5NBD2blVBD2lnJBD2kdPBD",
  "2ebNBD2e5JBD291HBD26mNBD22dBBD1zxLBD1rvNBD1llDBD1dcNBD28jLBD1ihFBD2jhJBD280ZBD27rVBD24vLBD",
  "244VBD216BBD20gHBD1yrXBD1w8NBD1haXBD2k3ZBD2ayDBD1icNBD2ksZBD2dqLBD24jJBD1mcRBD2ceNBD2bgRBD",
  "27qJBD21hFBD1icDBD2jqLBD2ipDBD2e5BBD28uNBD286JBD27fVBD254LBD218DBD207PBD1uyVBD1pvBBD1ptTBD",
  "1kyFBD1i6DBD2j6DBD245BBD2ipFBD22gLBD20xTBD1rfNBD1ibNBD1f7HBD1dyLBD282FBD24oDBD1toDBD1xkHBD",
  "1xdVBD1wlLBD21yXBD235JBD1oiTBD2loBBD1szBBD2jrTBD2jvTBD2czHBD2apDBD1wgZBD2epDBD252RBD28lBBD",
  "1mfBBD1q7RBD1ijZBD1pjHBD2cwPBD2kbZBD2hvLCBBD2ggLBBBD28qXCBBD2k0NBD21sXBD1ztPBD1yhNBD1yeZBD",
  "1yeNBD1ybJBD1i1BBD1wkVBD1uxXBBBD1rhJBBBD1otBCBBD1lxXBD1liVDBBD1h6RBD1h5TBD1h2LBD1ekZBD1llV",
  "BD1ieTBD2l9RBD2klRBD2kdXBD2jkTBD2jiTBD2jaLBD2i1HBD2htHBD2hlVBD2glPBD2gdRBD2ecFBD2ebNBD2c1X",
  "BD2blRBD2biVBD2bbFBD29hBBD295VBD28sLBD27qBBD250TBD24oHBD244BBD22uXBD22gLBD21dVBD1yyPBD1ylJ",
  "BD1ykPBD1ykTBD1ykFBD1yjVBD1yjJCD1yfTBD1y2DBD1xxFBD1x8TBD1w1LBD1vzXBD1vvRBD1v8HBD1uxBBD1tvP",
  "CEzoRBD1skHBD1pzJBD1ppDBD1oxHBD1otBBD1nxPBD1ntPBD1mcXBD1m2ZBD1ifTBD1htZBD1hpLBD2c7VBD4zpCB",
  "D1ttPCABD2m8TBD2kaTBD2kgTBD2liJBD2kjPBD2kfDBD2jqBBD2jmFBD2i6JBD2ibZBD2i6VBD2i1HBD2goTBD",
  "2ghZBD2g6XBD2g5TBD2flBBD2f5XBD2d5VBD2d5JBD2cuJBD2cpFBD2c2HBD2btHBD2byTBD2boNBD2bsDBD2bgZBD",
  "2bbZBD2ahHBD2aaPBD2a6NBD29mPBD290RBD28oFBD28nZBD28jNBD26aDBD265FBD25bFBD24fTBD24hBBD24aLBD",
  "23rDBD231JBD1zmXBD22mFBD22cXBD223NBD21eLBD213BBD20zBBD20hTBD20hRBD204PBD203JBD201NBD1zuZBD",
  "1zvVBD1z1LBD1y0FBD1xfLBD1x1DBD1wjZBD1w8HBD1viZBD1v3TBD1taVBD1syVBD1r1FBD1q2FBD1pwZBD1pvVBD",
  "1p9BBD1p4TBD1p8HBD1p4FBD1p4NBD1p5XBD1p0DBD1otZBD1o0RBD1mtRBD1m5PBD1liZBD1l2BBD1iuXBD1inBBD",
  "1ieHBD1i4DBD1i1LBD1i0PBD1hwZBD1gdDBD1dvVBD4kwWBD4kwIBD4r8ABD2wlHBD2u5DBD2u2RBD57vKBD5dmQBD",
  "5w8IBD1e3LBD1dxT1MABF3Y3YBF3Y4BBF3Y4EBG3Y3Y4BBG3Y3Y4ECF4L4MMABF1hS1hUBF1hS1hDBF1hS1hJBF1iC",
  "1hUBF1hS1hLFABF1lP1kEBBBF1mO1kHBD3q5JBD3q6VCD3q6RDD3q6FBD3q5LBD3q5JBD3taPBF1mF1kRBF1mF1kSB",
  "G1mF1kM1kRBG1mF1kM1kSBF1lG1kHBF1lG1kIBF1lG1kMBF1lH1kMBF1lI1kMBF1lJ1kMBF1lK1kMBF1lL1kMBF1lM",
  "1kMBABF1lO1kMBF1lP1kMBF1lQ1kMBF1lR1kMBF1lS1kMBABF1lU1kMBABF1lW1kMBF1lX1kMBABF1lZ1kMBF1mA",
  "1kMBABF1mC1kMBF1mD1kMBF1mE1kMBF1mF1kMBF1mG1kMBF1lL1kJBF1lH1kPBF1lR1kPBF1mA1kPBF1lG1lSCE1rL",
  "EE1rVEE1rYEE1sAEE1rUEE1rZEE1rTEE1tKEE1tMEE1sEEE1sDEE1sGEE1sHCE1sNCE1sMCE1sOCE1sICE1sYCE1sR",
  "EE1tPEE1tVEE1tZEE1tXCE1uGEE1uHCE1uMEE1uNEE1uKCE1vECE1vF1HBEE1tTCE1uTCE1uSCE1uUBF1uT1rOCE",
  "1uXCE1uRCE1uVEE1vCCE1pXCF1oO1oPCF1oO1vHCF1oO1pWCF1oO1uTCF1oO1uSCF1oO1uUDF1oO1vCDF1oO1pXEE",
  "1uYBF1oO1oUBF1oO1oVBF1oO1pTBF1oO1pXBF1oO1pYBF1oQ1oUBF1oQ1oVBF1oQ1oWBF1oQ1pTBF1oQ1pXBF1oQ",
  "1pYBF1oS1oUBF1oS1oVBF1oS1oWBF1oS1pTBF1oS1pXBF1oS1pYBF1oT1oUBF1oT1pTBF1oT1pXBF1oT1pYBF1oU",
  "1oVBF1oU1pTBF1oV1oUBF1oV1pTBF1oW1oUBF1oW1oVBF1oW1pTBF1pB1oUBF1pB1oVBF1pB1oWBF1pB1pTBF1pD",
  "1oVBF1pD1pTBF1pE1oUBF1pE1oVBF1pE1oWBF1pE1pTBF1pF1oVBF1pF1pTBF1pG1pTBF1pH1oUBF1pH1pTBF1pI",
  "1oUBF1pI1pTBF1pP1oUBF1pP1oVBF1pP1oWBF1pP1pTBF1pP1pXBF1pP1pYBF1pQ1oVBF1pQ1pTBF1pQ1pXBF1pQ",
  "1pYBF1pR1oPBF1pR1oUBF1pR1oVBF1pR1oWBF1pR1pSBF1pR1pTBF1pR1pXBF1pR1pYBF1pS1oUBF1pS1oVBF1pS",
  "1oWBF1pS1pTBF1pS1pXBF1pS1pYBF1pT1oUBF1pT1oVBF1pT1oWBF1pT1pTBF1pT1pXBF1pT1pYBF1pU1oUBF1pU",
  "1oVBF1pU1oWBF1pU1pTBF1pU1pXBF1pU1pYBF1pV1oUBF1pV1pTBF1pV1pXBF1pV1pYBF1pY1oUBF1pY1oVBF1pY",
  "1oWBF1pY1pTBF1pY1pXBF1pY1pYBF1oY1rKBF1oZ1rKBF1pX1rKBG1G1qA1qFBG1G1qB1qFBG1G1qC1qFBG1G1qD",
  "1qFBG1G1qE1qFBG1G1qF1rKBF1oO1oZBF1oO1pABF1oO1pTBF1oO1pUBF1oO1pXBF1oO1pYBF1oQ1oZBF1oQ1pABF",
  "1oQ1pTBF1oQ1pUBF1oQ1pXBF1oQ1pYBF1oS1oZBF1oS1pABF1oS1pTBF1oS1pUBF1oS1pXBF1oS1pYBF1oT1oZBF",
  "1oT1pABF1oT1pTBF1oT1pUBF1oT1pXBF1oT1pYBF1pP1pXBF1pP1pYBF1pQ1pXBF1pQ1pYBF1pR1oPBF1pR1pSBF",
  "1pR1pTBF1pR1pXBF1pR1pYBF1pS1pTBF1pS1pXBF1pS1pYBF1pT1oPBF1pT1pTBF1pU1oZBF1pU1pABF1pU1pTBF",
  "1pU1pUBF1pU1pXBF1pU1pYBF1pX1rKBF1pY1oZBF1pY1pABF1pY1pTBF1pY1pUBF1pY1pXBF1pY1pYBF1oO1oUBF",
  "1oO1oVBF1oO1oWBF1oO1pTBF1oO1pVBF1oQ1oUBF1oQ1oVBF1oQ1oWBF1oQ1pTBF1oQ1pVBF1oS1oUBF1oS1oVBF",
  "1oS1oWBF1oS1pTBF1oS1pVBF1oT1pTBF1oU1oVBF1oU1pTBF1oV1oUBF1oV1pTBF1oW1oUBF1oW1pTBF1pB1oUBF",
  "1pB1oVBF1pB1oWBF1pB1pTBF1pD1oVBF1pD1oWBF1pD1pTBF1pE1oUBF1pE1oVBF1pE1oWBF1pE1pTBF1pF1oVBF",
  "1pG1pTBF1pH1oUBF1pH1pTBF1pI1oUBF1pI1pTBF1pP1oUBF1pP1oVBF1pP1oWBF1pP1pTBF1pQ1oVBF1pQ1pTBF",
  "1pR1oUBF1pR1oVBF1pR1oWBF1pR1pSBF1pR1pTBF1pS1oUBF1pS1oVBF1pS1oWBF1pS1pTBF1pS1pVBF1pT1oUBF",
  "1pT1oVBF1pT1oWBF1pT1pTBF1pU1oUBF1pU1oVBF1pU1oWBF1pU1pTBF1pU1pVBF1pV1oUBF1pV1pTBF1pV1rKBF",
  "1pY1oUBF1pY1oVBF1pY1oWBF1pY1pTBF1pY1pVBF1oO1pTBF1oO1pVBF1oQ1pTBF1oQ1pVBF1oS1pTBF1oS1pVBF",
  "1oT1pTBF1oT1pVBF1pB1pTBF1pB1pVBF1pC1pTBF1pC1pVBF1pR1pSBF1pR1pTBF1pS1pTBF1pU1pTBF1pU1pVBF",
  "1pY1pTBF1pY1pVBG1pO1qC1qFBG1pO1qD1qFBG1pO1qE1qFBF1pF1pXBF1pF1pYBF1pH1pXBF1pH1pYBF1pI1pXBF",
  "1pI1pYBF1pB1pXBF1pB1pYBF1pC1pXBF1pC1pYBF1oV1pXBF1oV1pYBF1oU1pXBF1oU1pYBF1oW1pXBF1oW1pYBF",
  "1pD1pXBF1pD1pYBF1pE1pXBF1pE1pYBF1pC1oUBF1pC1oVBF1pC1oWBF1pC1pTBF1pC1oZBF1pB1oZBF1pD1oZBF",
  "1pE1oZBF1pF1pXBF1pF1pYBF1pH1pXBF1pH1pYBF1pI1pXBF1pI1pYBF1pB1pXBF1pB1pYBF1pC1pXBF1pC1pYBF",
  "1oV1pXBF1oV1pYBF1oU1pXBF1oU1pYBF1oW1pXBF1oW1pYBF1pD1pXBF1pD1pYBF1pE1pXBF1pE1pYBF1pC1oUBF",
  "1pC1oVBF1pC1oWBF1pC1pTBF1pC1oZBF1pB1oZBF1pD1oZBF1pE1oZBF1pC1oUBF1pC1oVBF1pC1oWBF1pC1pTBF",
  "1pB1pVBF1pC1pVBF1pF1pTBF1pB1oUBF1pB1oVBF1pB1oWBF1pC1oUBF1pC1oVBF1pC1oWBF1pF1pTBF1pG1pTCF",
  "1oP1pZSBBG1oS1oU1pTCG1oS1oV1oUBG1oS1oV1pTBG1oS1oW1pTBG1oS1pT1oUBG1oS1pT1oVBG1oS1pT1oWCG1oU",
  "1pT1oVBG1oV1pT1pYBG1oV1pT1pXBG1pB1oV1oUBG1pB1oU1oVBG1pB1oU1pXCG1pB1pT1oVBG1pB1pT1oUCG1pB",
  "1pT1pTCG1pD1oV1oVBG1pD1pT1pTCG1pC1oV1pTBG1pC1oU1pYCG1pC1pT1oWCG1pC1pT1pTBG1pE1oV1pXCG1pE",
  "1oW1pTCG1pF1pT1oVBG1pF1pT1pTBG1pF1pT1pYBG1pH1oU1pTCG1pH1pT1pTBG1pH1pT1pXBG1pI1pT1pTBG1pI",
  "1pT1pYBG1pI1pT1pXCG1pP1oW1pTBG1pQ1pT1oVBG1pQ1pT1pTBG1pS1oV1pTBG1pS1oV1pYBG1pS1oV1pXCG1pS",
  "1oU1oUCG1pS1oW1pTCG1pS1pT1oVBG1pT1oV1oUBG1pT1oV1pTBG1pT1oV1pYBG1pT1oU1oVBG1pT1oU1pTBG1pT",
  "1oW1oUBG1pT1oW1pTCBBG1pT1oU1oWBG1pV1pT1oUBG1pV1pT1pTBG1pU1oV1pTBG1pU1oV1pXCG1pU1oU1pTBG1pU",
  "1oU1pXBG1pU1pT1pYBG1pU1pT1pXCG1pY1pT1pTBG1oQ1oW1pYBG1oS1oU1pYBG1oS1oU1pXBG1oS1oW1pYBG1oS",
  "1oW1pXBG1oS1pT1pYBG1oS1pT1pXBG1oU1pT1pYBG1oU1oV1pXBG1oU1pT1pXBG1pB1oW1pXBG1pD1oV1pYBG1pC",
  "1oV1pYBG1pE1oV1pYBG1pS1oU1pYBG1pS1pT1pYBG1pY1oV1pYBG1pY1oU1pYBG1pY1pT1pYBG1pT1pT1pYBG1pQ",
  "1pT1pYBG1pU1oV1pYBG1pQ1pT1oVBG1pS1oV1pTBG1pH1pT1pYBG1pR1pT1pYBG1pU1oU1oVBG1pT1oW1pYBG1pS",
  "1oU1pTBG1pR1pT1pTBG1pS1oU1pTBG1pU1oU1oVBG1oU1oV1pYBG1oV1oU1pYBG1pT1oU1pYBG1pP1pT1pYBG1oQ",
  "1oV1pYBG1pR1pT1pTBG1pH1oU1pTBG1pD1pT1pTBG1pB1oW1pYBG1pU1oU1pYIB1GABG1pD1pS1vEBG1pQ1pS1vEBH",
  "1oP1pS1pS1pVBH1oP1pR1oQ1oZBH1pT1oV1pT1oXBH1pD1pS1pH1pTBH1oZ1pB1pW1pSBH1pH1pS1pY1pVBH1pW1pB",
  "1pS1pTBG1pD1pS1pXBV1pD1pS1pX1G1oP1pS1pS1pV1G1pH1pS1pY1pV1G1pW1pB1pS1pTBL1oU1pS1G1oU1pS1oP",
  "1pS1pVBH1oZ1uY1oP1pSDBQCBD3uvRBD34pVBACD3uuVBD3uwXBD3uuRCD34oRHAQBBABD3dhXBD3diBCE3RCD3uyV",
  "BD3usPBD3usNCD34rLCD34rXCD34sNCD34sVED34sRCBBD3uwHBD3uwFEF1GtTDE3RBD3v0PBD34uTCABD3uzTBD",
  "3uzXBD3uzPBD3v1ZBD3dkXCD3v1PBD3uvJBD3uvHCD34uFBD3v2LBD3v2HCD3v2BBD3v1ZBD3v0XBD3v0VBD3v0ZBA",
  "BD3uyTCD3v3DBD3v1DEABF1G1pZBF1pO1pZBF1G1qABBBF1G1qBBABF1G1qCBF1pO1qCBF1G1qDBF1pO1qDBF1G1qE",
  "BF1pO1qEBF1G1qFBF1pO1qFBF1G1qGBF1pO1qGBD3ruZCE1oKCE1oLCE1oMCE1oNEE1oOCE1oPEE1oQCE1oREE1oSE",
  "E1oTEE1oUEE1oVEE1oWCE1oXCE1oYCE1oZCE1pAEE1pBEE1pCEE1pDEE1pEEE1pFEE1pGEE1pHEE1pIEE1pPEE1pQE",
  "E1pREE1pSEE1pTEE1pUEE1pVCE1pWCE1pXEE1pYCF1pS1oKCF1pS1oLCF1pS1oNCF1pS1oPCABCBA1GD3vfB1AD",
  "3vcP1KD3vfBCD38zFBD3vlLCD35eXBD35fXBD34wTBD34xNBD353VBD353TBD353RBD353PBD353NBD34zDBD34zBB",
  "D34yZBD351VBD34xNBD354NBD354LBD354JBD354HCD354FBD354DBD354BBD353ZBD353XBD353VBD353TBD353RB",
  "D353PBD353NBD353LBD353JBD353FBD353DBD353BGD352ZBD352VBD352RBD352NBD352JFD352FBD352DBD352BG",
  "D351ZBD351XBD351RCD358RBCCD3mjDBD3m6FBD3mjFCD3m6FDD3mjJGD3m6HBD3miHDD3mjXBD3miBKD3mjZDAGD",
  "3meFCAGD3meJCAGD3meNCADD3meRDACD3vmHBD3vlRBF1GtSBD3vmHBD3vmLBD3e4BBABD3bqPED3dmNBD3beVBD",
  "3bbPRAMBBA1ABBATBBACBBAPBCAOB1IA4TBFADBEA1TBDA3KBBANBDABB1VA1UB5AA1DBDA1XBPA1CBEA1KBJA1EBF",
  "A1RBFA1EBBA1LBEAOB1QA1OD3C4OBCAKBGA1KD3CEA1KBEA1OBIA2ABLABBLD3ABAPD3ABAHD3ABACD3ABALBBAPBB",
  "AHBBACBDA2ABMAbZBJAWBKAIBYABBCD3ylPBD3znLBD3yqBBD3yvNBABD3ypNBD1eeHBD3ypNBD3ypRCD3yvTBD",
  "3jzRBD3yvVBD3yvLBD3ypTBD3yvDBD3yvJBD3yvPBD3yrDBD3zjVBD3yrFBD3yvJBD3ytFCD3yqJBD3yvHBD39tWBD",
  "1gjPBD3yvJBD39tSBD3ytBBD39tQBD3zoLCD3yvDBD3zzBBD3yvBBD39tICD3yuZBD3yuXBD3yrXBD3ysDBD1ehBBD",
  "3ysFBD3yuRBD3bxLBABD3yuJCD3ytBBD3ytXDD3zaPBD39sCBD39tO2RAGBCABBBA1SBBACBDABBCAXBBA2UBIAJB",
  "1WATBBACBFA1HBDA1BBFA1BB1MA2EBEAUBCA1YBBACBFAIBBADBBA1DBCADBEAKBHAJBHA2MB1GA1NBEAMBJA2CBDA",
  "1DBCA1BBFA1ABHAEBMAHB3CA2VB2DA1ZD4YNA1ZBHA1UBIAKBGAQBWD2MDA1DBIACB8AA1FBBA1QBBADBCACBQAGBI",
  "AJB1HA1UBIA1QBWA1AB1MA1CBUAXBJA3ABEA1KBJA2KBBAFBNAZBHAKBGA2BBBASBIA1NBJA3SBBAUBLASBBA1VB2K",
  "AHBBABBBAEBBAPBBALBGA2HBFAKBGAEBBAIBCACBCAWBBAHBBACBBAFBBAKBCACBCADBCABBGABBFAHBCAHBDAFBLA",
  "KBBABBCABBBA1MBBAKBBABBCABBBAEBBAKBBACBIACB1DA3OBBAFB1EA2UBIAKB6KA2CBCA1MB1IA2RBLAKBGANBTA",
  "2GBGAKBGAUB1CA1BBCAPBEAXB7DA2IB3WA1GD2M1ZBMAIBCABBCAIBBACBBA1EBBACBCAMBJAKB2SAIBCA1UBCALB",
  "1BA2UBIA3FBNA2VBHAKB3IAIB3KA1IBOAKBGAJBBA1TBBAOBKA1DBDA1GBCAWBBAOB2VAHBBACBBA1SBDABBBACBBA",
  "JBIAKBGAGBBACBBA1LBBACBBAGBHAKBGA1SBEAKB9MAZBHARBBA1PBDA1DB3HABBPA1YBNAzNB3YA4HBBAFBLA7OB",
  "2tKA3VBNA15GBQAWBKA49RBFAmLB7bDA2GB1uSAlXBHA1FBBAKBEA3DBBAKBGA1EBCAGBKA2SBKAKBBAHBBAVBFATB",
  "gQA2GB7QA1GD2M2HBFAZD2CCAZB1SA2XBEA2FBHARB2MAFBLAHBJA7vYB1PA1GB3TA4LB9aRAEBBAHBBACBBAbFBPA",
  "BB1DADBCABBOAEBIAfGB2gUA4DBFANBDAJBHAKBCAEBEC47GA8GB1AD6zvLKD701FDBDAgUBGAXBPARBPA1UBCAXBJ",
  "A4MB2IA9MBKA1NBCA2BBBF3j9V3jaJBF3j9W3jaJBG3j9W3jaJ3jaSBG3j9W3jaJ3jaTBG3j9W3jaJ3jaUBG3j9W",
  "3jaJ3jaVBG3j9W3jaJ3jaWOBIC2MBBF3jdP3jaJBF3jdQ3jaJBG3jdP3jaJ3jaSBG3jdQ3jaJ3jaSBG3jdP3jaJ",
  "3jaTBG3jdQ3jaJ3jaT1QBVA2SB4SAUBMAUBMA3JBJAZB5FA1AD73sN1AD73uN1AD73wNHD73yNBASD73yN1AD740N",
  "1AD742NBD744NBACD744NCABD744NCACD744NCAED744NBAID744NED746NBABD746NBAHD746NBALD746N1AD748N",
  "1AD74aNCD74cNBAED74cNCAID74cNBAHD74cNBA1AD74eNCD74gNBAED74gNBAFD74gNBABD74gNDAHD74gNBA1AD",
  "74iN1AD74kN1AD74mN1AD74oN1AD74qN1AD74sN1AD74uN1AD74wN1AD74yN1AD750N1AD752N1AD754N1AD756NBD",
  "74sNBD748LCARD73fPBD73gJHD73fPBD6mwDRD73hPCE11BGD73hPBD6myNBD73jHBD73jDBD73jBBD73iFBD73iRB",
  "D73iVRD73kBBD73kVHD73kBBD6n0PRD73mBCE11BGD73mBBD6n2ZBD73nTBD73nPBD73nNBD73mRBD73nDBD73nHRD",
  "73oNBD73pHHD73oNBD6n5BRD73qNCE11BGD73qNBD6n7LBD73sFBD73sBBD73rZBD73rDBD73rPBD73rTRD73sZBD",
  "73tTHD73sZBD6n9NRD73uZCE11BGD73uZBD6nbXBD73wRBD73wNBD73wLBD73vPBD73wBBD73wFRD73xLBD73yFHD",
  "73xLBD6ndZRD73zLCE11BGD73zLBD6ngJBD741DBD740ZBD740XBD740BBD740NBD740RCE12BCAKD75zFKD75zZKD",
  "760TKD761NKD762HpCBPAFBBAPB16MA1FBGAGB8FAHBBARBCAHBBACBBAFBFAJD78dNDD78dLLD78dJBD78dFCD",
  "78dDBD4rmNBD782PBD78cTBD78cRBD781PBD786DBD783TJD78gBCD78fZCD78fVBD78fTGD78fRCD78fPBD78aHBD",
  "78eXBD78fBBD78eJBD788PBD4rtLBD788H1HABB4IA1TBDAOBCAKBEACBcIA1FBRA2GBFABBhWA1QB8GA1RBEABB7K",
  "A1FBBAWBIACB8QAHBBAEBBACBBAPBBA7PBCAQB1PA1ID2Q1QBEAKBEACBuFA2QB2YA2JB7MACD7euVBD7euPBD7euL",
  "BABD7esRBD7euLBD7euXBD7euFBD7esVED7etLBD7euZBD7euPBD7euBBD7evBBD7euDBD7evNBD7evJCD7ewFBD",
  "7ewBBD7evZBD7evPBD7evNBD7evLBD7erNBD7elTBD7enTBD7erRBABD7exHBD7exBBABD7evDCABD7exJBABD7evH",
  "ED7evXBD7exLBD7exBBD7ewNBD7exNBD7ewPBABD7exVCD7eyRBD7eyNBABD7eyBBABD7exXGABD7ezNEABD7ezVBA",
  "BD7exTBABD7eyJBABD7eyJBD7ezXBD7ezNBABD7ezZBD7ezBBABD7f0HCABD7f0ZBABD7f0NBABD7f0JBABD7eqRBA",
  "BD7ewPBABD7f2FBD7f1ZBABD7f0BCABD7f2HBD7f1PBD7f0FBD7f0VBACD7f0VBD7f2JBD7f1ZBD7f1LBD7f2LBD",
  "7f1NBABD7f2TCD7f3PBD7f3LBABD7f2ZBD7f2XBD7f2VBD7eyXBABD7evDBACD7f4RBD7f4LBD7f4HCD7f2NBD7f4H",
  "BD7f4TBD7f4BBD7f2RBADD7f3HBD7f4VBD7f4LBD7f3XBD7f4XBD7f3ZBD7f5JBD7f5FCD7f6BBD7f5XBD7f5VBD",
  "7f5LBD7f5JBD7f5HFABD7f7DBD7f6XBD7f6TBABD7f4ZBD7f6TBD7f7FBD7f6NBD7f5DBADD7f5TBD7f7HBD7f6XBD",
  "7f6JBD7f7JBD7f6LBD7f7VBD7f7RCD7f8NBD7f8JBD7f8HBD7f7XBD7f7VBD7f7T2AACBaKA1SBEA3WBMAPBCAPBBA",
  "PBBA1LBLABF1W1SBF1X1SBF1Y1SBF1Z1SBF2A1SBF2B1SBF2C1SBF2D1SBF2E1SBF2F1SFBBG1O3T1PBG1O3U1PBG",
  "1O3V1PBG1O3W1PBG1O3X1PBG1O3Y1PBG1O3Z1PBG1O4A1PBG1O4B1PBG1O4C1PBG1O4D1PBG1O4E1PBG1O4F1PBG1O",
  "4G1PBG1O4H1PBG1O4I1PBG1O4J1PBG1O4K1PBG1O4L1PBG1O4M1PBG1O4N1PBG1O4O1PBG1O4P1PBG1O4Q1PBG1O4R",
  "1PBG1O4S1PBGd5K4Ld5LBD7jqTBD7jpRBF3V3WBF4P4SBB1AD7jrHBF4A4OBF4F4OBF4L3WBF4L4LBG4I4I4OBF4P",
  "3V1ABBF4F3VBF4F3WBF4F4K1JBBF3W4C1DB2EA1ABBFd9Jd7NBFdbNdbNBD6trTNABD62oJBD66hJBD6alZBD6trRB",
  "D6dhNBD67pTBD5h1DBD67oTBD6dfZBD60lPBD5ukZBD60wDBD6bgFBD647LBD6bvDBD60uRBD6bkFBD5nyRBD5seZB",
  "D5fjNBD67uDBD6afBBD5vqHBD62kLBD625TBD6dtXBD6dtHBD5dkRBD655BBD6dqTBD6alDBD62cHBD5f5FBD62qHB",
  "D5q1XBD5piVBD6ajZBD5w2VBD605XBD606BBD5sfDBD6bfPBD69nJBD5d1ZEABGd5Ks7Wd5LBGd5KlcJd5LBGd5K",
  "lhKd5LBGd5Kp1Hd5LBGd5KutXd5LBGd5KqwDd5LBGd5KwiDd5LBGd5KmnXd5LBGd5KrpVd5LHABD64aNBD6aoDOAGB",
  "5YA11XBDARBDANBDA8KBGAMBEABBPAMBEA2EBIAKBGA1OBIA1EBCAMBEACBOAJB1NAdGBIAOBCANBDALBDA2FBBABB",
  "EAQBCAMBEAKBHA5RBBA3OBKD7pqTBB13PA19nCB1GA4oOBCA66CBCA7zLBPAnYB2mWABDacxLBDacxXBDacxHBD",
  "3r1PBDacbJBDac5LBDac4NBDabzDBDabpZBDabnRBDabhTBDabjRBDaqyXBD3oaBBDabaFBDab9TBDab8PBDab7FBD",
  "3owLBDaqxJBDab8RBDab5VBD3otDBDab5FBDab4HBDacoJBDab3VBDab3FBD1jxHBDaayLBDaaxLBDaqvJBDaatHBD",
  "aasNBDaapFBDaaoXBDaqrPBDaaiXBDaaiVBDaagVBDaafFCDaaeLBDaadFBDaa9LBDaa8XBDaa8HBDaa6LBDaa5TDE",
  "muDBD3m7JBD9ucBBDaa0HBDa9yTBD3ljTBDa9xZBDa9xPBDa9wBBDa9kLBDa9sJBDa9rFBDa9oVBDa9kLBDa9eBBD",
  "a9cDBDa97BBDa95XCEneABDa91ZBDa90RBDa90DBDa8zBBDa88ZBDa8tZBDa89BBDa8oJBDa8lTBDab0ZBDa79DBD",
  "a7vJBDa7sNBDa7qRBDa80TBDa7nZBDa7oDBDa7eTBD3gfDBDa79NBDa79FBDa78DBDa76RBDa76DBDa71HBD3fgXBD",
  "3fbXBDa6qXBDa6nJBDa6mNBDa6sRBDa6hVBDapwJBDapvJBDa65PCEoyKBD3dsHBDa5rNBDa5pZBDa5oXBDa5oBBD",
  "3d2VBDa5nHBDa5mVBDa3tXBDa5kVBDapmFBDa5gFBDa5fFBDa58ZBDa5cZBD3bkNBDa4zDBD3bkNBDa4vZBDa4wHBD",
  "a4vBCDa4nJBDap9VBDa4lLBDa4iFBDa4gRBDa4dJBDap6HBD39mHBDap4LBDa48FBDa48BBDa47XBDa46LBD1ahPBD",
  "a42PCE45nTBD9kxJCEq0SBDaozPBD308NBD2agLBDa3vPBDa3uZBDaoxVBDa3rNBDa3nRBDa3mZBDa3kLBDa3aBBD",
  "aorPBDaotZBDa38VBD36rRBDa35BBDa2vFBDa2uZBDa2uXBDa2vDBDa2rRBDa2qFBDa2nNBDa2oRBDa2nXBDa2kJBD",
  "a2iXBDa2iRBDa2gTBDa2fZBDa2aZBDa24PBDa21ZBDa1sNBD34iDBDa1uDBDa1zFBDa1qZBDa1oZBDa1hPBD340ZBD",
  "a1cZBDa1kFBDa1mLBDaobJBDa17VBDa16HBDa13ZBDa16ZBDao6ZBDa0qNBDa0oJBD31tFBDa0fJBD9zuDBDa07RBD",
  "anuFBDa02HBDanvRBDanyNBDabjZBDabjVBD9zuDBDa01XBD9lsRBDaj2PBD9zsRBD9zsLBD9zsBBD9znLBD9zoJBD",
  "2ztJBDanrTBD9zbTBD9zkVBD9z5DBD9z1HBD2zgTBD9z0TBD9z9JBD9yqPBDanlZBD9ynFBD9yfVBD9yaLBD9xvXBD",
  "2y9XBD9xsDBDandBBD9xmXBD2x6NBD9xjDBDan9FBD9xgZBD9xdPCD9xbPBD2w5RBD3caVBD2vxLBD9x0PBD2uyZBD",
  "9wsBBD9wrBBD9wyZBD9wlPBD9wiPBD9weHBD9wiNBD9wfNBD9weLBD9wdNBD2usHBD9wjXBD9w0RBD9vvXBDamtLBD",
  "9voXBD9vpHBD2tvJBD9w5HBD9vcRBD2tkTBD2thDBD9v6DBD9uxJBD9uzNBD9uzVBDammTBD9uwJBD9usNBD9utBBD",
  "9uoZBD3pgDBD9udLBD2ryHBD9u6XBD2r9FBD9twHBD9tvJBD9ttJBD2pyZBD9tpVBD9toHBD2pcBBD2ouZBD9t6XBD",
  "9t5RBDam2XBD9t3VCEh5OBD9srPBD9sqBBD9soNBD9snBBD9shVBDalvBBD9sbBBD2mmRBD9s9FBD2mfTBD9s5NBD",
  "39xRBD9rtJBD2krVBD2kqDBD2kfLBDalePBDaldTBD9rcHBD2k2HBD2k2LBD2jzNBD2jxPBD9r9LCEwkXBD9r6HBD",
  "alaTBD9r1LBDal9XBDal3VBD2icXBD9qmTBD9qiBBD9qdFBDakyHBD2h9FBD9q2VBD2h0LBD2gxFBD9pyRBD9prRBD",
  "aksZBD9plHBD9pkPBD9pkHBD2fgHCE4ktVBD9p8JBDakdJBD2e9RBD9orZBD9orVBDakaVBD2dtPBD9o7RBDak1TBD",
  "9o6DBD9o6PBD9o4LBD2c6NBD9nwZBDajuTBD9npLBD9nkZBD9nfXBDajrDBD2arFBD2aoXBDajoNBD2adVBD9msPBD",
  "2a6FBD9mqRBD9miZBD9miFBD29aVBD295HBD9mbLBD28vFBD9maJBD30dPBDajfZBD9m5NBD9lzJBDajcBBD9luZBD",
  "a6xXBD27sPBD27rPBD30aHBD309RBD9lgLBD9lgHBD9e0NBDaj5LBD9l5RBD9l6FBD9l4XBDabcNBD9l3NBD9l3LBD",
  "9l2TBD9kzRBD25vHBD9kzXBD9kvRBD9kqJBD9kkTBD9kvLBD9kjRBD9kgNBD9k7ZBD9ksBBD9kiZBD9kiXBD9khTBD",
  "25dBBD24pJBD250ZBDaisPBD9jwVBD9jwTBD9juDBD218JBD9joHBD23rLBDaipHBDaipBBD23hLBD22vHBDaioNBD",
  "9j6RBD9j5VBD9j5BBD9j4ZBD9j0DBD9j2TBD9isNBD9ivZBD9ikLBD9iqTBD9ilRBD9ijRBDaihFBD9icVBD9iaLBD",
  "aieVBD9i3HBD9i3DBD1zuXBD9huJBD9htXBDaiaRBD9hrXBDaruZBD1ymNBD1y8LBDai0NBDahzXBD9gvXBD9gqBBD",
  "9geBBD9fyNBD1wgVBD9fsBBD9fqLBD9fjPBD9fcPBD1v3LBD3oaFBD9f6JBD9f7PBD9f3RBD3ntTBD9emHBD9eeRBD",
  "1rhJBD1rfJBD9doDBD9dhBBD9deRBD1qqZBD9deBBD9csFCD9cgBBD9cnFBD9btZBD9brXBD1o5DBD9azHBDagjFBD",
  "9awBBD1ncDBDagdFBD9abRBDa5jNBD9a4LBD1l9PBD1ktHBDag3FBDag2RBD99qHBD1jrLBDafyHBD1jgVCE15lBBD",
  "99lDBD1iuZBD997BBDafoXBD991TBD98sDBD98qDBD98lPBDafdJBD1fvTBD980PBD97dLBD96yZBDaeuBBDaerTBD",
  "96rBBD1ctRBDaerDBD1cpPBD1c5HBD1bvHBD961JBDaekHBD95wTBD95wLBD95vZBD95vHBD95uVBD95sBBD1a0J",
  "1lYA59ZBFA92OBl03YA9GC5tiUA"]

/-- The distance that a number of the table stands for. -/
def distance (n : Nat) : Int := if n % 2 = 0 then n / 2 else -((n + 1) / 2 : Nat)

/-- Pairs the lengths of the table with what they say; `fuel` bounds how many
there are. -/
def pairs : Nat → List Nat → List (Nat × DomainMapping)
  | fuel + 1, length :: kind :: rest =>
    match kind, rest with
    | 0, rest => (length, refused) :: pairs fuel rest
    | 1, rest => (length, kept) :: pairs fuel rest
    | 2, rest => (length, dropped) :: pairs fuel rest
    | 3, n :: rest => (length, moved (distance n)) :: pairs fuel rest
    | kind, rest => (length, replaced (rest.take (kind - 3))) :: pairs fuel (rest.drop (kind - 3))
  | _, _ => []

def stretches : Stretches DomainMapping :=
  let numbers := (CodeSet.numbers table).toList
  .ofLengths (pairs numbers.length numbers)

/-- What becomes of a character. -/
def of (c : Char) : DomainMapping := stretches.get c.toNat .refused

/-- Whether a character may stand in a name as it is. -/
def keeps (c : Char) : Bool :=
  match of c with
  | .kept => true
  | _ => false

/-- What a character is replaced by, if it may stand in a name. -/
def replacement? (c : Char) : Option (List Char) :=
  match of c with
  | .refused => none
  | .kept => some [c]
  | .dropped => some []
  | .moved distance => some [Char.ofNat (c.toNat + distance).toNat]
  | .replaced codes => some (codes.map Char.ofNat)

end DomainMapping

end Conformance
