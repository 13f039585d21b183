/-!
# Other names

The names that some characters have beside their own, and those of the control characters.
-/

namespace ContentModel.Text.CharName

/-- The table of these names, as `CharName.find?` reads it. -/
def aliases : List String := [
  "@0aNULL@0aNULaSTART OF HEADING@1aSOHaSTART OF TEXT@2aSTXaEND OF TEXT@3aETXaEND OF TRANSMISSION",
  "@4aEOTaENQUIRY@5aENQaACKNOWLEDGE@6aACKaALERT@7aBELaBACKSPACE@8aBSaCHARACTER TABULATION",
  "@9a[ TABULATION@9aHT@9aTABaLINE FEED@AaNEW LINE@AaEND OF LINE@AaLF@AaNL@AaEOLaLINE TABULATION",
  "@Ba* TABULATION@BaVTaq FEED@CaFFaCARRIAGE RETURN@DaCRaSHIFT OUT@EaLOCKING-SHIFT|@EaSOaSHIFT IN",
  "@FaLOCKING-SHIFT ZERO@FaSIaDATA LINK ESCAPE@10aDLEaDEVICE CONTROL|@11aDC1aDEVICE CONTROL^",
  "@12aDC2aDEVICE CONTROL&@13aDC3aDEVICE CONTROL FOUR@14aDC4aNEGATIVE ACKNOWLEDGE@15aNAK",
  "aSYNCHRONOUS IDLE@16aSYNaEND OF TRANSMISSION BLOCK@17aETBaCANCEL@18aCANaEND OF MEDIUM@19aEOM",
  "aSUBSTITUTE@1AaSUBaESCAPE@1BaESCaINFORMATION SEPARATOR FOUR@1CaFILE SEPARATOR@1CaFS",
  "aINFORMATION SEPARATOR&@1DaGROUP SEPARATOR@1DaGSaINFORMATION SEPARATOR^@1EaRECORD SEPARATOR",
  "@1EaRSaINFORMATION SEPARATOR|@1FaUNIT SEPARATOR@1FaUSaSP@7FaDELETE@7FaDELaPADDING CHARACTER",
  "@80aPADaHIGH OCTET PRESET@81aHOPaBREAK PERMITTED HERE@82aBPHaNO BREAK HERE@83aNBHaINDEX@84aIND",
  "aNEXT LINE@85aNELaSTART OF SELECTED AREA@86aSSAaEND OF SELECTED AREA@87aESA",
  "aCHARACTER TABULATION SET@88a[ TABULATION SET@88aHTSaCHARACTER TABULATIONn JUSTIFICATION",
  "@89a[ TABULATIONn JUSTIFICATION@89aHTJaLINE TABULATION SET@8Aa* TABULATION SET@8AaVTS",
  "aPARTIAL LINE FORWARD@8BcDOWN@8BaPLDaPARTIAL LINE BACKWARD@8CcUP@8CaPLUaREVERSE LINE FEED",
  "@8DbINDEX@8DaRIaSINGLE SHIFT^@8Eb-SHIFT-2@8EaSS2aSINGLE SHIFT&@8Fb-SHIFT-3@8FaSS3",
  "aDEVICE CONTROL STRING@90aDCSaPRIVATE USE|@91c-1@91aPU1aPRIVATE USE^@92c-2@92aPU2",
  "aSET TRANSMIT STATE@93aSTSaCANCEL CHARACTER@94aCCHaMESSAGE WAITING@95aMWaSTART OF GUARDED AREA",
  "@96cPROTECTED AREA@96aSPAaEND OF GUARDED AREA@97cPROTECTED AREA@97aEPAaSTART OF STRING@98aSOS",
  "aSINGLE GRAPHIC CHARACTER INTRODUCER@99aSGCaSINGLE CHARACTER INTRODUCER@9AaSCI",
  "aCONTROL SEQUENCE INTRODUCER@9BaCSIaSTRING TERMINATOR@9CaSTaOPERATING SYSTEM COMMAND@9DaOSC",
  "aPRIVACY MESSAGE@9EaPMaAPPLICATION PROGRAM COMMAND@9FaAPCaNBSP@ADaSHY@1A2aLATINom GHAbpm GHA",
  "@34FaCGJ@61CaALM@709aSYRIAC SUBLINEAR COLON SKEWEDx@CDEaKANNADAm LLLA@E9DaLAOm FO FON@E9FdFAY",
  "@EA3cRO@EA5cLO@FD0aTIBETAN> BKA- SHOG GI MGO RGYAN@11ECaHANGUL JONGSEONG YESIEUNG-KIYEOK",
  "d-SSANGKIYEOKcSSANGYESIEUNGcYESIEUNG-KHIEUKH@180BaFVS1aFVS2aFVS3aMVSaFVS4@200BaZWSPaZWNJaZWJ",
  "aLRMaRLM@202AaLREaRLEaPDFaLROaRLOaNNBSP@205FaMMSPaWJ@2066aLRIaRLIaFSIaPDI",
  "@2118aWEIERSTRASS ELLIPTIC FUNCTION@2448aMICR ON US;bDASH;@2B7Aa+%-HEADEDrnv*.",
  "@2B7Cay%-HEADEDrnv*.@A015aYI SYLLABLE ITERATION>@AA6EaMYANMARm KHAMTI LLA@FE00aVS1aVS2aVS3aVS4",
  "aVS5aVS6aVS7aVS8aVS9aVS10aVS11aVS12aVS13aVS14aVS15aVS16@FE18aPRESENTATIONq FOR*t? LENTICULAR~",
  "@FEFFaBYTE ORDER>@FEFFaBOM@FEFFaZWNBSP@122D4aCUNEIFORMs NU11 TENUdOVER NU11 BUR OVER BUR",
  "@16E56aMEDEFAIDRINom HdNG@16E76bpm HdNG@1B001aHENTAIGANAm E-1",
  "@1D0C5aBYZANTINE MUSICAL; FTHORA SKLIRON CHROMA VASIS@E0100aVS17aVS18aVS19aVS20aVS21aVS22aVS23",
  "aVS24aVS25aVS26aVS27aVS28aVS29aVS30aVS31aVS32aVS33aVS34aVS35aVS36aVS37aVS38aVS39aVS40aVS41",
  "aVS42aVS43aVS44aVS45aVS46aVS47aVS48aVS49aVS50aVS51aVS52aVS53aVS54aVS55aVS56aVS57aVS58aVS59",
  "aVS60aVS61aVS62aVS63aVS64aVS65aVS66aVS67aVS68aVS69aVS70aVS71aVS72aVS73aVS74aVS75aVS76aVS77",
  "aVS78aVS79aVS80aVS81aVS82aVS83aVS84aVS85aVS86aVS87aVS88aVS89aVS90aVS91aVS92aVS93aVS94aVS95",
  "aVS96aVS97aVS98aVS99aVS100aVS101aVS102aVS103aVS104aVS105aVS106aVS107aVS108aVS109aVS110aVS111",
  "aVS112aVS113aVS114aVS115aVS116aVS117aVS118aVS119aVS120aVS121aVS122aVS123aVS124aVS125aVS126",
  "aVS127aVS128aVS129aVS130aVS131aVS132aVS133aVS134aVS135aVS136aVS137aVS138aVS139aVS140aVS141",
  "aVS142aVS143aVS144aVS145aVS146aVS147aVS148aVS149aVS150aVS151aVS152aVS153aVS154aVS155aVS156",
  "aVS157aVS158aVS159aVS160aVS161aVS162aVS163aVS164aVS165aVS166aVS167aVS168aVS169aVS170aVS171",
  "aVS172aVS173aVS174aVS175aVS176aVS177aVS178aVS179aVS180aVS181aVS182aVS183aVS184aVS185aVS186",
  "aVS187aVS188aVS189aVS190aVS191aVS192aVS193aVS194aVS195aVS196aVS197aVS198aVS199aVS200aVS201",
  "aVS202aVS203aVS204aVS205aVS206aVS207aVS208aVS209aVS210aVS211aVS212aVS213aVS214aVS215aVS216",
  "aVS217aVS218aVS219aVS220aVS221aVS222aVS223aVS224aVS225aVS226aVS227aVS228aVS229aVS230aVS231",
  "aVS232aVS233aVS234aVS235aVS236aVS237aVS238aVS239aVS240aVS241aVS242aVS243aVS244aVS245aVS246",
  "aVS247aVS248aVS249aVS250aVS251aVS252aVS253aVS254aVS255aVS256"]

end ContentModel.Text.CharName
