/-
Canonical decompositions.

A code point may stand for one or two others, which may be decomposed further.
The first table lists, for each that does, how far it lies above the one before,
the number of its parts, and the parts; a pair that is never put together again
counts as three. The second lists the stretches of equal combining class, each
as its length and the class.
-/
import Conformance.Unicode.Stretches

namespace Conformance

/-- A code point with its parts, and whether two parts may be put together. -/
structure Decomposition where
  whole : Nat
  first : Nat
  second : Option Nat
  recomposes : Bool
  deriving Repr, Inhabited

namespace Decomposition

/-- The decompositions by their wholes. -/
def table : List String := [
  "7KC2NtOBC2NtPBC2NtQBC2NtRBC2NtWBC2NtYCC2PvBBC2RtOBC2RtPBC2RtQBC2RtWBC2VtOBC2VtPBC2VtQBC2V",
  "tWCC3AtRBC3BtOBC3BtPBC3BtQBC3BtRBC3BtWDC3HtOBC3HtPBC3HtQBC3HtWBC3LtPDC3TtOBC3TtPBC3TtQBC3T",
  "tRBC3TtWBC3TtYCC3VvBBC3XtOBC3XtPBC3XtQBC3XtWBC4BtOBC4BtPBC4BtQBC4BtWCC4GtRBC4HtOBC4HtPBC4H",
  "tQBC4HtRBC4HtWDC4NtOBC4NtPBC4NtQBC4NtWBC4RtPCC4RtWBC2NtSBC3TtSBC2NtUBC3TtUBC2NvCBC3TvCBC2P",
  "tPBC3VtPBC2PtQBC3VtQBC2PtVBC3VtVBC2PuABC3VuABC2QuABC3WuADC2RtSBC3XtSBC2RtUBC3XtUBC2RtVBC3X",
  "tVBC2RvCBC3XvCBC2RuABC3XuABC2TtQBC3ZtQBC2TtUBC3ZtUBC2TtVBC3ZtVBC2TvBBC3ZvBBC2UtQBC4AtQDC2V",
  "tRBC4BtRBC2VtSBC4BtSBC2VtUBC4BtUBC2VvCBC4BvCBC2VtVEC2WtQBC4CtQBC2XvBBC4DvBCC2YtPBC4EtPBC2Y",
  "vBBC4EvBBC2YuABC4EuAFC3AtPBC4GtPBC3AvBBC4GvBBC3AuABC4GuAEC3BtSBC4HtSBC3BtUBC4HtUBC3BtZBC4H",
  "tZDC3EtPBC4KtPBC3EvBBC4KvBBC3EuABC4KuABC3FtPBC4LtPBC3FtQBC4LtQBC3FvBBC4LvBBC3FuABC4LuABC3G",
  "vBBC4MvBBC3GuABC4MuADC3HtRBC4NtRBC3HtSBC4NtSBC3HtUBC4NtUBC3HtYBC4NtYBC3HtZBC4NtZBC3HvCBC4N",
  "vCBC3JtQBC4PtQBC3LtQBC4RtQBC3LtWBC3MtPBC4StPBC3MtVBC4StVBC3MuABC4SuA1IC3BuPBC4HuPOC3HuPBC",
  "4NuP1DC2NuABC3TuABC2VuABC4BuABC3BuABC4HuABC3HuABC4NuABC8MtSBC9StSBC8MtPBC9StPBC8MuABC9SuAB",
  "C8MtOBC9StOCC7OtSBC8UtSBClEtSBClFtSBC7QtSBC8WtSDC2TuABC3ZuABC2XuABC4DuABC3BvCBC4HvCBCiWtSB",
  "CiXtSBCgXuABCpIuABC4CuAEC2TtPBC3ZtPDC3AtOBC4GtOBC7PtPBC8VtPBC7QtPBC8WtPBC8ItPBC9OtPBC2NuDB",
  "C3TuDBC2NuFBC3TuFBC2RuDBC3XuDBC2RuFBC3XuFBC2VuDBC4BuDBC2VuFBC4BuFBC3BuDBC4HuDBC3BuFBC4HuFB",
  "C3EuDBC4KuDBC3EuFBC4KuFBC3HuDBC4NuDBC3HuFBC4NuFBC3FvABC4LvABC3GvABC4MvADC2UuABC4AuAHC2NtVB",
  "C3TtVBC2RvBBC3XvBBC8GtSBC9MtSBC8FtSBC9LtSBC3BtVBC4HtVBClMtSBClNtSBC3LtSBC4RtSaJBtOBBtPCBuH",
  "BDtWtP1WBqVKB2HHC6MtPBCzDtPBB7BBCzHtPBCzJtPBCzLtPCCzRtPCCzXtPBC10BtPBC11ItP1ACzLtWBCzXtWBC",
  "10JtPBC10NtPBC10PtPBC10RtPBC11JtP1AC10RtWBC11DtWBC10XtPBC11DtPBC11HtPFC11QtPBC11QtW1SC14F",
  "tOBC14FtWCC14DtPEC13QtWFC14KtPBC14ItOBC14TtULC14ItU1GC15OtUXC15LtOBC15LtWCC15JtPEC16StWFC",
  "15QtPBC15OtOBC15ZtUYC17WuDBC17XuD2WC14GtUBC15MtUOC14AtUBC15GtUBC14AtWBC15GtWDC14FtUBC15LtU",
  "DC1bStWBC1bTtWBC14GtWBC15MtWBC14HtWBC15NtWDC14ItSBC15OtSBC14ItWBC15OtWBC14OtWBC15UtWDC1cI",
  "tWBC1cJtWBC15DtWBC16JtWBC14TtSBC15ZtSBC14TtWBC15ZtWBC14TtZBC15ZtZBC14XtWBC16DtWDC15BtWBC",
  "16HtWbLC1oP1qHBC1oP1qIBC1pW1qIBC1oP1qJBC1pY1qI5YC1vH1qICC1uN1qIRC1vE1qInAC2iE2iYIC2iM2iYDC",
  "2iP2iY1KD2hL2iYBD2hM2iYBD2hN2iYBD2hS2iYBD2hX2iYBD2hY2iYBD2iH2iYBD2iL2iY4EC2oH2nYBC2oH2oXQD",
  "2mV2nWBD2mW2nWCD2nJ2nW3GD2sK2sUDD2sQ2sU1JD2rI2sUBD2rJ2sUBD2rO2sUDD2sD2sU9AC33B33QDC33B32SB",
  "C33B33RQD31P32QBD31Q32Q2DC35Y38P2CC37Y37QBC37Z37QBC37Y38P4UC3cW3dM4QC3hN3iJHC3hU3iJBC3hU",
  "3iKCC3hU3hQBC3hY3iJ4XC3mS3mKBC3mT3mKBC3mS3nJ5MC3sJ3rUCC3sJ3rZBC3sM3rUBC3sJ3sPdTD46G4aTKD",
  "46Q4aTFD46V4aTFD47A4aTFD47F4aTND46E4aRKD48B48CCD48B48EBD4aO48QCD4aP48QJD48B48QSD49I4aTKD",
  "49S4aTFD49X4aTFD4aC4aTFD4aH4aTND49G4aR4FC4eZ4fI2zCC7eB7fXCC7eD7fXCC7eF7fXCC7eH7fXCC7eJ7fXE",
  "C7eN7fX1PC7gC7fXCC7gE7fXDC7gG7fXBC7gH7fXCC7gK7fXqZC2NuZBC3TuZBC2OtVBC3UtVBC2OuXBC3UuXBC2O",
  "vLBC3UvLBC7RtPBC8XtPBC2QtVBC3WtVBC2QuXBC3WuXBC2QvLBC3WvLBC2QvBBC3WvBBC2QvHBC3WvHBCaOtOBCaP",
  "tOBCaOtPBCaPtPBC2RvHBC3XvHBC2RvKBC3XvKBClGtUBClHtUBC2StVBC3YtVBC2TtSBC3ZtSBC2UtVBC4AtVBC2U",
  "uXBC4AuXBC2UtWBC4AtWBC2UvBBC4AvBBC2UvIBC4AvIBC2VvKBC4BvKBC7ZtPBC9FtPBC2XtPBC4DtPBC2XuXBC4D",
  "uXBC2XvLBC4DvLBC2YuXBC4EuXBC89MtSBC89NtSBC2YvLBC4EvLBC2YvHBC4EvHBC2ZtPBC4FtPBC2ZtVBC4FtVBC",
  "2ZuXBC4FuXBC3AtVBC4GtVBC3AuXBC4GuXBC3AvLBC4GvLBC3AvHBC4GvHBC8FtPBC9LtPBC8FtWBC9LtWBCcUtOBC",
  "cVtOBCcUtPBCcVtPBC3CtPBC4ItPBC3CtVBC4ItVBC3EtVBC4KtVBC3EuXBC4KuXBC8aWtSBC8aXtSBC3EvLBC4KvL",
  "BC3FtVBC4LtVBC3FuXBC4LuXBCdItVBCdJtVBCdOtVBCdPtVBC8bEtVBC8bFtVBC3GtVBC4MtVBC3GuXBC4MuXBC3G",
  "vLBC4MvLBC3GvHBC4MvHBC3HuYBC4NuYBC3HvKBC4NvKBC3HvHBC4NvHBCdWtPBCdXtPBCdYtWBCdZtWBC3ItRBC4O",
  "tRBC3IuXBC4OuXBC3JtOBC4PtOBC3JtPBC4PtPBC3JtWBC4PtWBC3JtVBC4PtVBC3JuXBC4PuXBC3KtVBC4QtVBC3K",
  "tWBC4QtWBC3LtVBC4RtVBC3MtQBC4StQBC3MuXBC4SuXBC3MvLBC4SvLBC4AvLBC4MtWBC4PtYBC4RtYCCeTtVFC2N",
  "uXBC3TuXBC2NtXBC3TtXBC7MtPBC8StPBC7MtOBC8StOBC7MtXBC8StXBC7MtRBC8StRBC8dOtQBC8dPtQBC9YtPBC",
  "9ZtPBC9YtOBC9ZtOBC9YtXBC9ZtXBC9YtRBC9ZtRBC8dOtUBC8dPtUBC2RuXBC3XuXBC2RtXBC3XtXBC2RtRBC3XtR",
  "BC7UtPBC9AtPBC7UtOBC9AtOBC7UtXBC9AtXBC7UtRBC9AtRBC8eMtQBC8eNtQBC2VtXBC4BtXBC2VuXBC4BuXBC3B",
  "uXBC4HuXBC3BtXBC4HtXBC8EtPBC9KtPBC8EtOBC9KtOBC8EtXBC9KtXBC8EtRBC9KtRBC8fGtQBC8fHtQBCgAtPBC",
  "gBtPBCgAtOBCgBtOBCgAtXBCgBtXBCgAtRBCgBtRBCgAuXBCgBuXBC3HuXBC4NuXBC3HtXBC4NtXBCgPtPBCgQtPBC",
  "gPtOBCgQtOBCgPtXBCgQtXBCgPtRBCgQtRBCgPuXBCgQuXBC3LtOBC4RtOBC3LuXBC4RuXBC3LtXBC4RtXBC3LtRBC",
  "4RtRHC10JuHBC10JuIBC8hGtOBC8hHtOBC8hGtPBC8hHtPBC8hGwCBC8hHwCBCzDuHBCzDuIBC8hOtOBC8hPtOBC",
  "8hOtPBC8hPtPBC8hOwCBC8hPwCBC10NuHBC10NuIBC8hWtOBC8hXtOBC8hWtPBC8hXtPDCzHuHBCzHuIBC8iEtOBC",
  "8iFtOBC8iEtPBC8iFtPDC10PuHBC10PuIBC8iMtOBC8iNtOBC8iMtPBC8iNtPBC8iMwCBC8iNwCBCzJuHBCzJuIBC",
  "8iUtOBC8iVtOBC8iUtPBC8iVtPBC8iUwCBC8iVwCBC10RuHBC10RuIBC8jCtOBC8jDtOBC8jCtPBC8jDtPBC8jCwCB",
  "C8jDwCBCzLuHBCzLuIBC8jKtOBC8jLtOBC8jKtPBC8jLtPBC8jKwCBC8jLwCBC10XuHBC10XuIBC8jStOBC8jTtOBC",
  "8jStPBC8jTtPDCzRuHBCzRuIBC8kAtOBC8kBtOBC8kAtPBC8kBtPDC11DuHBC11DuIBC8kItOBC8kJtOBC8kItPBC",
  "8kJtPBC8kIwCBC8kJwCCCzXuICC8kRtOCC8kRtPCC8kRwCBC11HuHBC11HuIBC8kYtOBC8kZtOBC8kYtPBC8kZtPBC",
  "8kYwCBC8kZwCBC10BuHBC10BuIBC8lGtOBC8lHtOBC8lGtPBC8lHtPBC8lGwCBC8lHwCBC10JtOBB10EBC10NtOBB",
  "10FBC10PtOBB10GBC10RtOBB10HBC10XtOBB11KBC11DtOBB11LBC11HtOBB11MDC8hGwFBC8hHwFBC8hIwFBC8hJ",
  "wFBC8hKwFBC8hLwFBC8hMwFBC8hNwFBC8hOwFBC8hPwFBC8hQwFBC8hRwFBC8hSwFBC8hTwFBC8hUwFBC8hVwFBC",
  "8iMwFBC8iNwFBC8iOwFBC8iPwFBC8iQwFBC8iRwFBC8iSwFBC8iTwFBC8iUwFBC8iVwFBC8iWwFBC8iXwFBC8iYwFB",
  "C8iZwFBC8jAwFBC8jBwFBC8kYwFBC8kZwFBC8lAwFBC8lBwFBC8lCwFBC8lDwFBC8lEwFBC8lFwFBC8lGwFBC8lHwF",
  "BC8lIwFBC8lJwFBC8lKwFBC8lLwFBC8lMwFBC8lNwFBC10JtUBC10JtSBC8lOwFBC10JwFBC10EwFCC10JwCBC8oG",
  "wFBCzDtUBCzDtSBCzDtOBBySBCzDwFCB10RDC6MwCBC8lSwFBC10PwFBC10GwFCC10PwCBC8oWwFBCzHtOBByUBCzJ",
  "tOBByVBCzJwFBC8oPtOBC8oPtPBC8oPwCBC10RtUBC10RtSBC11ItOBBzCDC10RwCBC11IwCBCzLtUBCzLtSBCzLtO",
  "BByWCC8rAtOBC8rAtPBC8rAwCBC11DtUBC11DtSBC11JtOBB10IBC10ZuHBC10ZuIBC11DwCBC11JwCBCzXtUBCzX",
  "tSBCzXtOBBzABCzTuIBC6MtOBByRBB3SDC8mAwFBC11HwFBC11MwFCC11HwCBC8qSwFBCzRtOBByYBC10BtOBBzBBC",
  "10BwFBB6YDB8rEBB8rFbHB10BEB2XBB7P4HC96MvSBC96OvSTC96QvS1FC98YvSBC99CvSBC99AvS2BC9aXvSFC9bC",
  "vSDC9bFvSYC9cDvSCC9cFvS1BC9dCvSDC9dJvSDC9dLvSCC9dOvSXC2JvSCC9eNvSLC9dTvSBC2IvSBC2KvSBC9eQ",
  "vSBC9eRvSDC9fEvSBC9fFvSDC9fIvSBC9fJvSHC9fMvSBC9fNvSDC9fUvSBC9fVvSDC9fYvSBC9fZvS1JC9hAvSBC",
  "9hGvSBC9hHvSBC9hJvS1XC9fOvSBC9fPvSBC9gJvSBC9gKvSHC9hQvSBC9hRvSBC9hSvSBC9hTvS2IBd4YBBd4Z23U",
  "DbqBvS1hOCd7NdaNCCd7PdaNCCd7RdaNCCd7TdaNCCd7VdaNCCd7XdaNCCd7ZdaNCCd8BdaNCCd8DdaNCCd8FdaNCC",
  "d8HdaNCCd8JdaNDCd8MdaNCCd8OdaNCCd8QdaNHCd8XdaNBCd8XdaOCCd9AdaNBCd9AdaOCCd9DdaNBCd9DdaOCC",
  "d9GdaNBCd9GdaOCCd9JdaNBCd9JdaOXCd7IdaNKCdaRdaNOCdbFdaNCCdbHdaNCCdbJdaNCCdbLdaNCCdbNdaNCC",
  "dbPdaNCCdbRdaNCCdbTdaNCCdbVdaNCCdbXdaNCCdbZdaNCCdcBdaNDCdcEdaNCCdcGdaNCCdcIdaNHCdcPdaNBC",
  "dcPdaOCCdcSdaNBCdcSdaOCCdcVdaNBCdcVdaOCCdcYdaNBCdcYdaOCCddBdaNBCddBdaOXCdbAdaNDCddVdaNBC",
  "ddWdaNBCddXdaNBCddYdaNECdeJdaN1ipIB12dGBBs5SBB131YBB12iEBBubDBBldYBBmyBBB17nOBB17nOBBofLBB",
  "13vTBBneDBBofCBBqsOBBwdXBByvPBB10pVBB114KBB11gQBB13jJBBszUBBtuHBBuvDBBvoWBB106BBB13rUBB",
  "163TBBlhABBmtTBBt9SBBv7NBB10pDBB178WBBpiUBBulZBB10lLBB11kUBBr0RBBziMBB118HBBpxIBBs7BBBtxIB",
  "BvgEBB13lUBBlrABBmcPBBmnYBBrkEBBt7VBBv7CBBwiTBBz0JBB10nQBB10qYBB12tNBB15cSBB16iLBB177MBB",
  "wyYBBx8HBBycYBB101PBB147OBB17cPBB11zABBobBBBpzOBBy0QBBz5EBBvaGBBx1IBB12hYBB15aLBBoaUBBp9QB",
  "Bt0LBBu1QBBudNBBy8PBByiTBB153VBBmnMBBz5RBBmeABBmdKBBxeIBByeCBB103DBB155LBB125OBBr0XBBszUBB",
  "120OBBleFBBp4XBBq9YBBvlNBBw4IBBmqDBBx3FBBltFBBq5XBBlcNBBtrGBBrrCBBy8CBBmwTBBo6CBBwjTBB106N",
  "BB11xIBBtgSBB13aUBBtoQBBr2SBBzsVBBr8YBBw3XBBliSBBm9PBBmdHBBskZBBy5VBBzoHBB11yWBB13vRBBmoVB",
  "Bn1QBBogTBBpyQBBruBBBumSBBx5ABB14xTBB168KBB17dNBB17fQBBmlJBBs3YBBteDBB137UBBpuABBqoQBBqsYB",
  "BriOBBueHBBuzLBBvvLBBxbEBBygEBBz4PBB135MBB10cWBB13fFBB14aGBBmgHBBmlRBBn6JBBuuMBB11eOBB11xI",
  "BBpxHBBq8VBBr7NBBtgGBBxzIBBvkVBBlkUBBnsJBBp4XBBpmWBBqaIBBvnEBBvuFBBywKBBz3ABB13zOBB15aKBB",
  "15dOBB15lOBBlrFBBxaCBB13uQBB158ABBqhXBBlhEBBm4CBBp5EBBp8HBBrsJBBszUBBv4OBBwcKBB10dKBB13iQB",
  "B17mZBBs1OBB152SBBmkRBBsaXBBsfNBBtvTBBu9CBBvqNBBw3LBBwxRBBy7KBB15oGBBm9TBBquSBB155OBBlxJBB",
  "pgRBBu2GBB135QBBq4TBBqlSBBsgXBBvlNBB156CBBmgZBBmzRBBp9TBBrxBBBs9EBBsmMBBtsFBBvqKBBw8SBByvD",
  "BB11fBBB11fTBB13vOBB159QBBmrRBBuaGBBn0FBBv4QBBvwABB10nEBB157FBB16rJBB17dVBBsbZBBu1BBBzjCBB",
  "xlBBBxoIBBy2OBBvdWBBusRBB124ABBljKBBzvYBBmhQBBmfRBBpvYBBr1BBBy5EBBp1DBBtuKBBs3GBB136HBB",
  "11aABB153XBB11mHBBpxRBBm8ABBngIDBo5YCBs0UDBmeCBBvhYBBwhQBBx5SBBx7ABBx7HBBx8XBB15eCBBy4GBB",
  "yxTCB10oCCB120IDB13gABB13nPEB15tVBB15uIBB15wABB174UBB13mKBB157ZBBlsOBBm4PBBm8NBBmnDBBmoEBB",
  "msJBBneZBBnjABBnmUBBo4YBBo8YBBp9SBBpaCBBqeYBBqnCBBqoOBBqsKBBrpNBBrvEBBs1XBBslDBBtxVBBu4CBB",
  "ueGBBv0WBBv8DBBvrMBBwzDBBx5UBBx6FBBx6EBBx6MBBx6SBBx6ZBBx8VBBx8WBBxfSBBxiFBBxuMBBygEBBygZBB",
  "yjDBByuWBBz0NBBzjHBBzoRBBzoRBB107BBB11hOBB11mSBB120RBB122VBB12iPBB12kQBB13bABB13gABB159RBB",
  "15kPBB15mXBBqdTBB4ecGBBzkYDBldMBBmcNBBm9OBBlqUBBm8FBBmaMBBmnBBBmpABBneZBBncFBBneVBBnhQBB",
  "o5YBBo9JBBoeYBBofOBBopYBBoxOBBpxQBBpxXBBq3LBBq6BBBqhOBBqmCBBqjKBBqoOBBqmUBBqsKBBquYBBraIBB",
  "rdSBBrfUBBrpUBBs0UBBs7BBBs7FBBs9MBBteFBBtgSBBtvTBBubNBBuaXBBueGBBunYBBv0WBBwqDBBv8NBBvdFBB",
  "vhYBBvuNBBw0GBBw2HBBwaZBBwbBBBwhQBBwiHBBwjGBBwmOBBwmEBBx1KBBxkBBBxuMBBy1RBByaHBBygEBBysWBB",
  "z0NBBzxABB103BBB111XBB11jLBB11mCBB11mSBB11yDBB120IBB11yPBB120RBB120OBB11zXBB122VBB125YBB",
  "12kQBB136EBB13iGBB13tPBB142CBB155SBB159RBB15eCBB15jFBB15kPBB15lBBB15mXBB16eWBB17nOBB471YBB",
  "471SBB4a7PBBgaZBBhjCBBhkJBB4ijLBB4lfCBB4upZBB17kDBB17nA2QD1lP1kECD1mO1kHLD1mF1kRBD1mF1kSBD",
  "1wqF1kRBD1wqF1kSBD1lG1kHBD1lG1kIBD1lG1kMBD1lH1kMBD1lI1kMBD1lJ1kMBD1lK1kMBD1lL1kMBD1lM1kMCD",
  "1lO1kMBD1lP1kMBD1lQ1kMBD1lR1kMBD1lS1kMCD1lU1kMCD1lW1kMBD1lX1kMCD1lZ1kMBD1mA1kMCD1mC1kMBD",
  "1mD1kMBD1mE1kMBD1mF1kMBD1mG1kMBD1lL1kJBD1lH1kPBD1lR1kPBD1mA1kP2vFC1zlYtV1BC1zmGtV2xMC22kB",
  "22lICC22kD22lIPC22kN22lI5BC22pX22pNBC22pY22pNkUC23aL23aCBC23aL23bB2DC23cS23fLCC23cU23eXJC",
  "23dB23fEDC23dG23fL2AC23fE23fECC23fE23eUBC23fE23fL9JC23oR23oSBC23oR23oICC23oR23oV9SC23yM",
  "23yDBC23yN23yDyJC24wV24wQjoBC2okW2okWBC2okW2olHBC2okW2okXBC2olH2okXBC2okW2okYBC2okZ2okXBC",
  "2olA2okXBC2okZ2okY3cQC2rxV2rxVBC2rxR2rxVBC2rxX2rxVrcED3j9V3jaJBD3j9W3jaJBD3jaD3jaSBD3jaD",
  "3jaTBD3jaD3jaUBD3jaD3jaVBD3jaD3jaW3JD3jdP3jaJBD3jdQ3jaJBD3jdR3jaSBD3jdS3jaSBD3jdR3jaTBD",
  "3jdS3jaT28hGBleJBBleEBBleNBB3wcKBBlpOBBlsOBBltBBBlvUBBm0KBBm1PBBm4PBBm3RBBeeCBB3xqOBBm8NBB",
  "m8UBBm9KBBmaDBB3xfOBBefDBBm9NBBmaZBB3xhJBBmbJBBmbWBBljWBBmcEBBmcNBB4zxNBBmeZBBmfNBBegPBB",
  "mhRBBmiCBBmjUBBmjZBBeiRBBmnBBBmnDBBmoEBBmpABBmpLBBmpMBBmqDBBmsBBBmsJBBmsSBBmtRBBmuBBBmuDBB",
  "muDBBmuDBB3ytKBBurCBBmxABBmxVBB3z5JBBmyHBBmyNBBmzIBBn5EBBn1GBBn1WBBn3CBBn5IBBn8OBBn9OBBncD",
  "BBncTBBneABBneABBneVBBnfNBBnfVBBngKBBntMBBnjABBntNBBnlXBBnnGBBmfRBBobQBBo0OBBo2ABBo2ZBBnxZ",
  "BBo4KBBo4JBBo9CBB41qYBBobUBBobZBBocOBBodIBBodQBBogCBB428IBB42aWBBolKBBonFBBonRBBokQBBoqCBB",
  "f0WBBf1KBBowIBBoyKBBoyKBB433CBBp3NBBp4IBBp4XBBp5JBB43gABBp5VBBp6CBBq2PBBp7EBBf6NBBp9OBBpaC",
  "BBpdGBBpbHBB447OBBpiHBB447QBBpjYBBpjVBBpkMBBpoJBBpoKBBfdFBBppLBBprCBBprXBBptPBBffEBB457FBB",
  "fgEBBpwIBBpwLBBpwOBBpxIBB54rUBBpzIBB45nTBB45nTBBzkBBBq0SBBq0SBBfjBBB49wQBB4msSBBq3EBBq3NBB",
  "fkDBBq5IBBq7HBBq7RBBq8ZBBqeFBBfnMBBfmIBBqeYBB46nOBBqgXBBqlWBBqmABBqmCBBqmABBqnUBBqoOBBqpYB",
  "BqpKBBqpVBBqrQBBqsKBBqsOBBqtOBBqtZBBqwNBBqzTBBr1CBBr5WBB47tCBBr5DBBr2QBBr6UBBr7VBBrbOBB",
  "481XBBrdYBBraJBBr9HBBfwWBBrgRBBrhMBBriRBBrhFBBfzGBBrpNBBrqQBB496GBBrvFBBs5WBBrzDBBg5XBBs1X",
  "BBg5GBBg3WBBmbEBBmbHBBs6EBBs2IBBz6ZBBikBBBs7BBBs7FBBs7LBBs9UBBs9JBB4a6XBBg7TBBsfUBBsbHBB",
  "sjEBBslDBB4adLBBslMBBshFBBsqQBBgaZBBssKBBswDBBsyWBBt6EBB4azFBBt8DBBgfSBBtaVBB4bjBBBtcUBB",
  "ghUBBtdYBBtfRBBtgSBBtgTBB4c1TBB43zFBB4c5YBBtmKBB4cnGBBtqTBBtrHBBtnJBBtuCBBtvQBBtxVBBtvTBB",
  "txHBBtxWBBtyJBB4crABBtvGBBu4XBBu7IBBgqPBBuaXBBuaTBB4d7TBBu2VBBuhEBB4ddEBB4dfABBukOBBuoZBB",
  "unYBBunVBBguKBBupQBBurPBBurJBButLBB3xfXBBuzHBB4e6XBBv2QBB4ejNBBv8ABBv8NBBv9OBB4f6UBBvbKBB",
  "vcFBB4fiJBB4fqYBBvlABBvlRBBh5CBBvmRBBh5OBBh5OBBvsXBBvtSBBvuNBBvvHBBvxYBBh9JBBw1KBB4gvQBB",
  "w2KBB4gzEBBw4IBB458HBBwaMBB4htHBB4huEBB4hzOBBhiABBhiMBBwjGBB4i6HBB4i6GBB4i7TBB4i8TBBwkWBB",
  "wkXBBwkXBBwmOBBhkJBBwpBBBhkWBBhnYBB4j1LBBwwOBBwyYBBx1KBBhqXBB4jlMBBx6SBB4jpYBB4jrPBBx8XBB",
  "xcLBBhtVBBxfSBBxgCBBxgHBB4kiIBB4ktVBB4ktVBBxmKBBi1YBB4l3VBBxuSBBxuVBBi3JBB4lcABBy5ABBi8ABB",
  "y5WBBy5RBBy6UBB4m5UBByaPBBibTBByeLBBygSBByjHBBidSBB4mvSBB4mwXBBifDBB4n2NBByvEBB4n6KBBywFBB",
  "z0CBBz0NBB4nmGBB4npBBBz4ABB4nuEBBz4QBB4a3BBBijXBBz7EBBzaHBBilZBBzcOBBotDBB4odVBB4oeJBB4a5B",
  "BB4a5KBBzkBBBzkEBB13aCBBipRBBzpPBBzpJBBzqBBBmmHBBzqVBBzqXBBzrHBBzsWBB4pdCBBzsVBBzuZBBzxRBB",
  "100NBBzvFBB101DBB102TBB107BBBzxBBB101QBB101SBB102IBB4pmSBB4pyPBB4psVBBixBBB10cZBB10dBBB",
  "10eKBB4rpIBB10hKBB4qfWBBiyZBBizDBB4qkZBB4qwCBBizNBB10qMBB10qYBB10rJBB10rLBB10tXBB10sQBB",
  "10xUBB10wCBB111XBB10yUBB111JBB112KBBj3RBB115XBB117DBBj4ZBB11aUBB11aXBB4sfBBB11fJBB11fQBB",
  "j7HBB11gSBBefFBB4t1MBB4t8OBBjcOBBjcXBB11wYBB11zXBB125YBB12dTBB4u4QBB12hBBB12hXBB12lJBB12oX",
  "BB4utNBB3y8EBB12sDBB12rOBB12tOBB3ygOBB132IBB136EBB4wmWBB4wnXBB13jOBB13nDBB13oJBB4x0GBB13oT",
  "BB13zSBB145VBB145WBB142IBB14gZBB14iBBB4ybMBB14wLBBk4NBB14yDBB4yqDBBk7QBB158LBBpmOBB15cDBB",
  "4zrPBB4zzUBBkcWBBkdEBB15jKBB50iWBBkfMBB50oGBB15lBBB15lBBB15mFBB50zIBB15tIBBkkLBB15wBBB160X",
  "BB161YBB164GBBkqKBB52hGBB16eWBB16qMBB16xTBBl0GBBl1LBB171VBB540OBBl1WBB542RBB54cWBB54hXBB",
  "17eXBBl5MBB17hHBB17hMBB17hTBB17iDBB17iKBB17jVBB55fS"]

/-- The combining classes. -/
def classTable : List String := [
  "tOAV8WB8YE8MB8YB8IF8MC7UE8MC7UL8MFBE8MI8WB9GB8WD8MD8WC8MBAD8WE8MB8WB8YC8MB8WB8ZC9AB8ZC9AB",
  "8ZN8WaPAF8WaFAB8ME8WB8MD8WB8OB8MG8WG8MC8WB8MC8WB8OB8UB8WBKBLBMBNBOBPBQBRBSCTBUBVBWBABXBABY",
  "BZBAB8WB8MBABS2UAI8WB1EB1FB1G1WAB1BB1CB1DB1EB1FB1GB1HB1IC8WC8MF8WB8MC8WB8MQAB1J3XAH8WCAE8W",
  "B8MB8WCAC8WBAB8MC8WB8M1JAB1K1EAB8WB8MC8WB8MC8WD8MB8WC8MB8WB8MD8WB8MB8WB8MB8WB8MB8WB8MC8W6E",
  "AH8WB8MB8WJAB8MYAE8WBAJ8WBAD8WBAF8W1RAD8M2HAC8WD8ME8W1QAF8WF8MO8WBAB8MC8WB8MC8WB8MD8WD8MB",
  "1BB1CB1DD8WB8MC8WC8MF8W2IABHQABJDAB8WB8MC8W3ZABHQABJ1WAB8W2JABHQABJ4GABHQABJ4GABHQABJ4XABJ",
  "4GABHQABJHAB3GB3N3XABHQABJ4FACJQABJ4UABJ4FAC3ZBJNAE4D4EAC4OBJNAE4S2YAC8M1BAB8MBAB8MBAB8I2D",
  "AB4ZB5ABAB5CFAE5ACAB5ABAC8WBJBAC8W2KAB8M4IABHBACJ3EAB8MrRAD8W10MACJ1EABJ6BABJKAB8W7VAB8U5N",
  "AB8OB8WB8M8LAB8WB8M2TABJUAI8WCAB8M1WAF8WG8MC8WB8MBAC8MC8WC8MF8WB8MS8WB8MCAG8WB8ME8WB9A2UAB",
  "HPABJ1MAB8WB8MH8W2CACJ2GABHLACJ2PABH5WAD8WBABBF8MC8WE8MB8WBAHBEAB8MGAB8WDAC8W7QAC8WB8MH8WB",
  "8MC8WB9AB8GB8MB7U1L8WB8YC8UB8MB8KB8WB8ZB8MB8WB8MrSAC8WCBE8WDBC8WEAB8WDACBB8WB8MB8WCBE8MB8W",
  "3aCAD8W5LABJ3SA1G8WlIAB8KB8UB8YB8OC8Q4BACIw8EAB8WEAK8W1GAC8W3CAC8WaQABJ1LABJ5VABJ1BAS8W2FA",
  "D8M1LABJ3RABHMABJ9FAB8WBAC8WB8MCAC8WFAC8WBAB8W2AABJ9MABJlnSAB1AtPAH8WH8MC8W11LAB8M8SAB8M5T",
  "AF8W1sSAB8MBAB8W1OAB8WBBB8MEABJ6JAB8WB8MmBAE8W2NAF8WcFAC8W2ZAC8MBAD8M2SAC8MD8WB8MB8WE8M1XA",
  "B8WB8MB8WB8M7KABJ1PABJOABJ2FABJBH2RAD8W1WACJ2KABH2YABJJABH4CABJBH6WABHBJ3CACHQABJYAH8WDAF",
  "8W3LADJ4JABJDABHXAB8W3VABJBH9RABJBH4WABJ4OABJBH4LABJaJABJBH9YACJEABH6AABJ3FABJSABJ3DABJgFA",
  "BJ9YABHBACJ3DABJgJACJi1CABJ2oAAFB2HAH8W1aNACGkyYABB5oOAC8IDBDAB8SF8IIAI8MCAF8WC8M1EAE8W5SA",
  "D8W3rFAH8WBAR8WCAH8WBAC8WBAF8W3WAB8W6EAH8WeLAB8W2JAE8WjOAC8YB8MB8W9UAB8WB8M9JAB8WCAB8WHAC",
  "8WFAB8WiGAH8M4FAG8WBHtcgVA"]

/-- Reads decompositions that follow the code point `last`. -/
def read : Nat → List Nat → List Decomposition
  | last, d :: 1 :: first :: rest => ⟨last + d, first, none, false⟩ :: read (last + d) rest
  | last, d :: kind :: first :: second :: rest =>
    ⟨last + d, first, some second, kind == 2⟩ :: read (last + d) rest
  | _, _ => []

/-- Every decomposition, by ascending wholes. -/
def all : Array Decomposition := (read 0 (CodeSet.numbers table).toList).toArray

/-- The wholes alone. -/
def wholes : Array Nat := all.map (·.whole)

/-- The decomposition of a code point, if it has one. -/
def of? (c : Nat) : Option Decomposition :=
  let next := CodeSet.rank wholes c (wholes.size.log2 + 2) 0 wholes.size
  all[next - 1]?.filter (·.whole == c)

/-- The decompositions that may be undone. -/
def composites : Array Decomposition := all.filter (·.recomposes)

/-- Pairs the lengths of a table with their classes. -/
def pairs : List Nat → List (Nat × Nat)
  | length :: k :: rest => (length, k) :: pairs rest
  | _ => []

def classes : Stretches Nat := .ofLengths (pairs (CodeSet.numbers classTable).toList)

/-- The combining class of a code point: zero for a starter; marks of one class
keep their order, those of two may change it. -/
def combiningClass (c : Nat) : Nat := classes.get c 0

end Decomposition

end Conformance
