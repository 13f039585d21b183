/-!
# Names of pictographs

The names of the characters from U+1E000 on: recent alphabets, game pieces, pictographs, tags and
variation selectors.
-/

namespace ContentModel.Text.CharName

/-- The table of these names, as `CharName.find?` reads it. -/
def pictographs : List String := [
  "@1E000aCOMBINING GLAGOLITICm AZUdBUKYdVEDEdGLAGOLIdDOBROdYESTUdZHIVETE@1E008dZEMLJAdIZHE",
  "d, IZHEdIdDJERVIdKAKOdLJUDIJEdMYSLITEdNASHIdONUdPOKOJIdRITSIdSLOVOdTVRIDOdUKUdFRITUdHERU",
  "@1E01BdSHTAdTSIdCHRIVIdSHAdYERUdYERIdYATI@1E023dYUdp YUS@1E026dYOdIOTATEDp YUSdBIG YUS",
  "dIOTATED BIG YUSdFITA@1E100aNYIAKENG PUACHUE HMONGm MAeTSAeNTAeTAeHAeNAeXAeNKAeCAeLAeSAeZAeNCA",
  "eNTSAeKAeDAeNYAeNRAeVAeNTXAeTXAeFAeRAeQAeYAeNQAePAeXYAeNPAeDLAeNPLAeHAHeMLAePLAeGAeRRAeAeAAeI",
  "eUeOeOOeEeEEeW@1E130dTONE-Be-Me-Je-Ve-Se-Ge-Dds FOR PERSONfTHINGfLOCATIONfANIMALfINVERTEBRATE",
  "eXW XWdSYLLABLE LENGTHENER@1E140dDIGIT ZEROe|e^e&eFOUReFIVEeSIXeSEVENeEIGHTeNINE",
  "@1E14EdLOGOGRAM NYAJdCIRCLED CA@1E290aTOTOm PAcBAcTAcDAcKAcGAcMAcNAcNGAcSAcCHAcYAcWAcJAcHAcRA",
  "cLAcIcBREATHY IcIUcBREATHY IUcUcEcBREATHY EcEOcBREATHY EOcOcAEcBREATHY AEcAbs RISING TONE",
  "@1E2C0aWANCHOm AAcAcBAcCAcDAcGAcYAcPHAcLAcNAcPAcTAcTHAcFAcSAcSHAcJAcZAcWAcVAcKAcOcAUcRAcMAcKHA",
  "cHAcEcIcNGAcUcLLHAcTSAcTRAcONGcAANGcANGcINGcONcENcAANcNYAcUENcYIHbTONE TUPcTUPNIcKOIcKOINI",
  "bDIGIT ZEROc|c^c&cFOURcFIVEcSIXcSEVENcEIGHTcNINE@1E2FFbNGUNs@1E7E0aETHIOPIC SYLLABLE HHYAcHHYU",
  "cHHYIcHHYAAcHHYEEcHHYEcHHYO@1E7E8cGURAGE HHWAcHHWIcHHWEEcHHWE@1E7EDcGURAGE MWIdMWEE@1E7F0dQWI",
  "dQWEEdQWEdBWIdBWEEdKWIdKWEEdKWEdGWIdGWEEdGWEdFWIdFWEEdPWIdPWEE",
  "@1E800aMENDE KIKAKUI SYLLABLE M001 KIdM002 KAdM003 KUdM065 KEEdM095 KEdM076 KOOdM048 KO",
  "dM179 KUAdM004 WIdM005 WAdM006 WUdM126 WEEdM118 WEdM114 WOOdM045 WOdM194 WUIdM143 WEIdM061 WVI",
  "dM049 WVAdM139 WVEdM007 MINdM008 MANdM009 MUNdM059 MENdM094 MONdM154 MUANdM189 MUENdM010 BI",
  "dM011 BAdM012 BUdM150 BEEdM097 BEdM103 BOOdM138 BOdM013 IdM014 AdM015 UdM163 EEdM100 EdM165 OO",
  "dM147 OdM137 EIdM131 INdM135 INdM195 ANdM178 ENdM019 SIdM020 SAdM021 SUdM162 SEEdM116 SE",
  "dM136 SOOdM079 SOdM196 SIAdM025 LIdM026 LAdM027 LUdM084 LEEdM073 LEdM054 LOOdM153 LO",
  "dM110 LONG LEdM016 DIdM017 DAdM018 DUdM089 DEEdM180 DOOdM181 DOdM022 TIdM023 TAdM024 TU",
  "dM091 TEEdM055 TEdM104 TOOdM069 TOdM028 JIdM029 JAdM030 JUdM157 JEEdM113 JEdM160 JOOdM063 JO",
  "dM175 LONG JOdM031 YIdM032 YAdM033 YUdM109 YEEdM080 YEdM141 YOOdM121 YOdM034 FIdM035 FA",
  "dM036 FUdM078 FEEdM075 FEdM133 FOOdM088 FOdM197 FUAdM101 FANdM037 NINdM038 NANdM039 NUN",
  "dM117 NENdM169 NONdM176 HIdM041 HAdM186 HUdM040 HEEdM096 HEdM042 HOOdM140 HOdM083 HEEI",
  "dM128 HOOUdM053 HINdM130 HANdM087 HUNdM052 HENdM193 HONdM046 HUANdM090 NGGIdM043 NGGA",
  "dM082 NGGUdM115 NGGEEdM146 NGGEdM156 NGGOOdM120 NGGOdM159 NGGAAdM127 NGGUAdM086 LONG NGGE",
  "dM106 LONG NGGOOdM183 LONG NGGOdM155 GIdM111 GAdM168 GUdM190 GEEdM166 GUEIdM167 GUANdM184 NGEN",
  "dM057 NGONdM177 NGUANdM068 PIdM099 PAdM050 PUdM081 PEEdM051 PEdM102 POOdM066 POdM145 MBI",
  "dM062 MBAdM122 MBUdM047 MBEEdM188 MBEEdM072 MBEdM172 MBOOdM174 MBOdM187 MBUUdM161 LONG MBE",
  "dM105 LONG MBOOdM142 LONG MBOdM132 KPIdM092 KPAdM074 KPUdM044 KPEEdM108 KPEdM112 KPOOdM158 KPO",
  "dM124 GBIdM056 GBAdM148 GBUdM093 GBEEdM107 GBEdM071 GBOOdM070 GBOdM171 RAdM123 NDIdM129 NDA",
  "dM125 NDUdM191 NDEEdM119 NDEdM067 NDOOdM064 NDOdM152 NJAdM192 NJUdM149 NJEEdM134 NJOOdM182 VI",
  "dM185 VAdM151 VUdM173 VEEdM085 VEdM144 VOOdM077 VOdM164 NYINdM058 NYANdM170 NYUNdM098 NYEN",
  "dM060 NYON@1E8C7cDIGIT|d^d&dFOURdFIVEdSIXdSEVENdEIGHTdNINEcCOMBINING NUMBER TEENSeTENS",
  "eHUNDREDSeTHOUSANDSeTEN THOUSANDSe_ THOUSANDSeMILLIONS@1E900aADLAMom ALIFdDAALIdLAAMdMIIMdBA",
  "dSINNYIIYHEdPEdBHEdRAdEdFAdIdOdDHAdYHEdWAWdNUNdKAFdYAdUdJIIMdCHIdHAdQAAFdGAdNYAdTUdNHAdVAdKHA",
  "dGBEdZALdKPOdSHAbpm ALIFdDAALIdLAAMdMIIMdBAdSINNYIIYHEdPEdBHEdRAdEdFAdIdOdDHAdYHEdWAWdNUNdKAF",
  "dYAdUdJIIMdCHIdHAdQAAFdGAdNYAdTUdNHAdVAdKHAdGBEdZALdKPOdSHAbALIF LENGTHENERbVOWEL LENGTHENER",
  "bGEMINATION>bHAMZAbCONSONANT MODIFIERbGEMINATE CONSONANT MODIFIERbNUKTAbNASALIZATION>",
  "@1E950bDIGIT ZEROc|c^c&cFOURcFIVEcSIXcSEVENcEIGHTcNINE@1E95Eb, EXCLAMATION>cQUESTION>",
  "@1EC71aINDIC SIYAQ NUMBER|d^d&dFOURdFIVEdSIXdSEVENdEIGHTdNINEdTENdTWENTYdTHIRTYdFORTYdFIFTY",
  "dSIXTYdSEVENTYdEIGHTYdNINETYd|_d^_d&_dFOUR_dFIVE_dSIX_dSEVEN_dEIGHT_dNINE_d| THOUSAND",
  "d^ THOUSANDd& THOUSANDdFOUR THOUSANDdFIVE THOUSANDdSIX THOUSANDdSEVEN THOUSANDdEIGHT THOUSAND",
  "dNINE THOUSANDdTEN THOUSANDdTWENTY THOUSANDdTHIRTY THOUSANDdFORTY THOUSANDdFIFTY THOUSAND",
  "dSIXTY THOUSANDdSEVENTY THOUSANDdEIGHTY THOUSANDdNINETY THOUSANDdLAKHdLAKHANcLAKH>",
  "cNUMBER KARORdKARORANdPREFIXED|e^e&eFOUReFIVEeSIXeSEVENeEIGHTeNINEcPLACEHOLDER",
  "cFRACTION| QUARTEReHALFd& QUARTERScRUPEE>cNUMBER ALTERNATE|e^eTEN THOUSANDcALTERNATE LAKH>",
  "@1ED01aOTTOMAN SIYAQ NUMBER|d^d&dFOURdFIVEdSIXdSEVENdEIGHTdNINEdTENdTWENTYdTHIRTYdFORTYdFIFTY",
  "dSIXTYdSEVENTYdEIGHTYdNINETYd|_d^_d&_dFOUR_dFIVE_dSIX_dSEVEN_dEIGHT_dNINE_d| THOUSAND",
  "d^ THOUSANDd& THOUSANDdFOUR THOUSANDdFIVE THOUSANDdSIX THOUSANDdSEVEN THOUSANDdEIGHT THOUSAND",
  "dNINE THOUSANDdTEN THOUSANDdTWENTY THOUSANDdTHIRTY THOUSANDdFORTY THOUSANDdFIFTY THOUSAND",
  "dSIXTY THOUSANDdSEVENTY THOUSANDdEIGHTY THOUSANDdNINETY THOUSANDcMARRATANcALTERNATE NUMBER^e&",
  "eFOUReFIVEeSIXeSEVENeEIGHTeNINEeTENeFOUR_eSIX_e^ THOUSANDeTEN THOUSANDcFRACTION| HALFeSIXTH",
  "@1EE00aARABIC MATHEMATICAL ALEFcBEHcJEEMcDAL@1EE05cWAWcZAINcHAHcTAHcYEHcKAFcLAMcMEEMcNOONcSEEN",
  "cAINcFEHcSADcQAFcREHcSHEENcTEHcTHEHcKHAHcTHALcDADcZAHcGHAINcDOTLESS BEHdNOONdFEHdQAF",
  "@1EE21c, BEHdJEEM@1EE24dHEH@1EE27dHAH@1EE29dYEHdKAFdLAMdMEEMdNOONdSEENdAINdFEHdSADdQAF",
  "@1EE34dSHEENdTEHdTHEHdKHAH@1EE39dDAD@1EE3BdGHAIN@1EE42cTAILED JEEM@1EE47dHAH@1EE49dYEH",
  "@1EE4BdLAM@1EE4DdNOONdSEENdAIN@1EE51dSADdQAF@1EE54dSHEEN@1EE57dKHAH@1EE59dDAD@1EE5BdGHAIN",
  "@1EE5DdDOTLESS NOON@1EE5FeQAF@1EE61cSTRETCHED BEHdJEEM@1EE64dHEH@1EE67dHAHdTAHdYEHdKAF",
  "@1EE6CdMEEMdNOONdSEENdAINdFEHdSADdQAF@1EE74dSHEENdTEHdTHEHdKHAH@1EE79dDADdZAHdGHAIN",
  "dDOTLESS BEH@1EE7EeFEH@1EE80cLOOPED ALEFdBEHdJEEMdDALdHEHdWAWdZAINdHAHdTAHdYEH@1EE8BdLAMdMEEM",
  "dNOONdSEENdAINdFEHdSADdQAFdREHdSHEENdTEHdTHEHdKHAHdTHALdDADdZAHdGHAIN@1EEA1cv-STRUCK BEHeJEEM",
  "eDAL@1EEA5eWAWeZAINeHAHeTAHeYEH@1EEABeLAMeMEEMeNOONeSEENeAINeFEHeSADeQAFeREHeSHEENeTEHeTHEH",
  "eKHAHeTHALeDADeZAHeGHAIN@1EEF0cOPERATOR MEEMn HAHn TATWEELdHAHn DAL",
  "@1F000aMAHJONG TILE EAST WINDcSOUTH WINDcWEST WINDcNORTH WINDcRED DRAGONcGREEN DRAGONc? DRAGON",
  "c| OF CHARACTERSc^ OF CHARACTERSc& OF CHARACTERScFOUR OF CHARACTERScFIVE OF CHARACTERS",
  "cSIX OF CHARACTERScSEVEN OF CHARACTERScEIGHT OF CHARACTERScNINE OF CHARACTERSc| OF BAMBOOS",
  "c^ OF BAMBOOSc& OF BAMBOOScFOUR OF BAMBOOScFIVE OF BAMBOOScSIX OF BAMBOOScSEVEN OF BAMBOOS",
  "cEIGHT OF BAMBOOScNINE OF BAMBOOSc| OF CIRCLESc^ OF CIRCLESc& OF CIRCLEScFOUR OF CIRCLES",
  "cFIVE OF CIRCLEScSIX OF CIRCLEScSEVEN OF CIRCLEScEIGHT OF CIRCLEScNINE OF CIRCLEScPLUMcORCHID",
  "cBAMBOOcCHRYSANTHEMUMcSPRINGcSUMMERcAUTUMNcWINTERcJOKERcBACK@1F030aDOMINO TILE[ BACKd-00-00",
  "e-01e-02e-03e-04e-05e-06d-01-00e-01e-02e-03e-04e-05e-06d-02-00e-01e-02e-03e-04e-05e-06d-03-00",
  "e-01e-02e-03e-04e-05e-06d-04-00e-01e-02e-03e-04e-05e-06d-05-00e-01e-02e-03e-04e-05e-06d-06-00",
  "e-01e-02e-03e-04e-05e-06c* BACKd-00-00e-01e-02e-03e-04e-05e-06d-01-00e-01e-02e-03e-04e-05e-06",
  "d-02-00e-01e-02e-03e-04e-05e-06d-03-00e-01e-02e-03e-04e-05e-06d-04-00e-01e-02e-03e-04e-05e-06",
  "d-05-00e-01e-02e-03e-04e-05e-06d-06-00e-01e-02e-03e-04e-05e-06@1F0A0aPLAYING CARD BACK",
  "cACE OF SPADESc^ OF SPADESc& OF SPADEScFOUR OF SPADEScFIVE OF SPADEScSIX OF SPADES",
  "cSEVEN OF SPADEScEIGHT OF SPADEScNINE OF SPADEScTEN OF SPADEScJACK OF SPADEScKNIGHT OF SPADES",
  "cQUEEN OF SPADEScKING OF SPADES@1F0B1cACE OF HEARTSc^ OF HEARTSc& OF HEARTScFOUR OF HEARTS",
  "cFIVE OF HEARTScSIX OF HEARTScSEVEN OF HEARTScEIGHT OF HEARTScNINE OF HEARTScTEN OF HEARTS",
  "cJACK OF HEARTScKNIGHT OF HEARTScQUEEN OF HEARTScKING OF HEARTScRED JOKER",
  "@1F0C1cACE OF DIAMONDSc^ OF DIAMONDSc& OF DIAMONDScFOUR OF DIAMONDScFIVE OF DIAMONDS",
  "cSIX OF DIAMONDScSEVEN OF DIAMONDScEIGHT OF DIAMONDScNINE OF DIAMONDScTEN OF DIAMONDS",
  "cJACK OF DIAMONDScKNIGHT OF DIAMONDScQUEEN OF DIAMONDScKING OF DIAMONDSc< JOKER",
  "@1F0D1cACE OF CLUBSc^ OF CLUBSc& OF CLUBScFOUR OF CLUBScFIVE OF CLUBScSIX OF CLUBS",
  "cSEVEN OF CLUBScEIGHT OF CLUBScNINE OF CLUBScTEN OF CLUBScJACK OF CLUBScKNIGHT OF CLUBS",
  "cQUEEN OF CLUBScKING OF CLUBSc? JOKERcFOOLcTRUMP-1d-2d-3d-4d-5d-6d-7d-8d-9d-10d-11d-12d-13d-14",
  "d-15d-16d-17d-18d-19d-20d-21@1F100aDIGIT ZERO FULL STOPcCOMMAb| COMMAb^ COMMAb& COMMA",
  "bFOUR COMMAbFIVE COMMAbSIX COMMAbSEVEN COMMAbEIGHT COMMAbNINE COMMA",
  "aDINGBAT CIRCLED SANS-SERIF DIGIT ZERObNEGATIVE CIRCLED SANS-SERIF DIGIT ZERO",
  "aCIRCLED ZEROn SLASHbANTICLOCKWISErbDOLLARsn OVERLAID BACKSLASHaPARENTHESIZED LATINom AeBeCeD",
  "eEeFeGeHeIeJeKeLeMeNeOePeQeReSeTeUeVeWeXeYeZaTORTOISE SHELL BRACKETED LATINom S",
  "aCIRCLED ITALIC LATINom CfRbCDbWZaCOPYLEFT;aSQUARED LATINom AeBeCeDeEeFeGeHeIeJeKeLeMeNeOePeQ",
  "eReSeTeUeVeWeXeYeZbHVbMVbSDbSSbPPVbWCaNEGATIVE CIRCLED LATINom AfBfCfDfEfFfGfHfIfJfKfLfMfNfOfP",
  "fQfRfSfTfUfVfWfXfYfZaRAISED MCsbMDsbMRsaCIRCLED CCbCn OVERLAID BACKSLASHbHUMAN FIGURE",
  "aNEGATIVE SQUARED LATINom AfBfCfDfEfFfGfHfIfJfKfLfMfNfOfPfQfRfSfTfUfVfWfXfYfZ",
  "aCROSSED NEGATIVE SQUARED LATINom PaNEGATIVE SQUARED ICcPAcSAcABcWCaSQUARE DJaSQUARED CLbCOOL",
  "bFREEbIDbNEWbNGbOKbSOSbUPn EXCLAMATION>bVSb& DbSECOND SCREENb^ KbFOUR KbEIGHT KbFIVE POINT|",
  "bSEVEN POINT|bTWENTY-TWO POINT^bSIXTY Pb|_ TWENTY PbLATINpm DbHCbHDRbHI-RESbLOSSLESSbSHVbUHD",
  "bVODaMASK WORK;@1F1E6aREGIONAL INDICATOR;m AeBeCeDeEeFeGeHeIeJeKeLeMeNeOePeQeReSeTeUeVeWeXeYeZ",
  "aSQUARE HIRAGANA HOKAaSQUARED KATAKANA KOKOcSA@1F210bCJK UNIFIED IDEOGRAPH-624Be-5B57e-53CC",
  "bKATAKANA DEbCJK UNIFIED IDEOGRAPH-4E8Ce-591Ae-89E3e-5929e-4EA4e-6620e-7121e-6599e-524De-5F8C",
  "e-518De-65B0e-521De-7D42e-751Fe-8CA9e-58F0e-5439e-6F14e-6295e-6355e-4E00e-4E09e-904Ae-5DE6",
  "e-4E2De-53F3e-6307e-8D70e-6253e-7981e-7A7Ae-5408e-6E80e-6709e-6708e-7533e-5272e-55B6e-914D",
  "@1F240aTORTOISE SHELL BRACKETED CJK UNIFIED IDEOGRAPH-672Cg-4E09g-4E8Cg-5B89g-70B9g-6253g-76D7",
  "g-52DDg-6557@1F250aCIRCLED IDEOGRAPH ADVANTAGEcACCEPT@1F260aROUNDED; FOR FUdLUdSHOUdXI",
  "dSHUANGXIdCAI@1F300aCYCLONEaFOGGYaCLOSED UMBRELLAaNIGHTn STARSaSUNRISE OVER MOUNTAINSb",
  "aCITYSCAPE AT DUSKaSUNSET OVER BUILDINGSaRAINBOWaBRIDGE AT NIGHTaWATER WAVEaVOLCANOaMILKY WAY",
  "aEARTH GLOBE EUROPE-AFRICAcAMERICAScASIA-AUSTRALIAaGLOBEn MERIDIANSaNEW MOON;",
  "aWAXING CRESCENT MOON;aFIRST QUARTER MOON;aWAXING GIBBOUS MOON;aFULL MOON;",
  "aWANING GIBBOUS MOON;aLAST QUARTER MOON;aWANING CRESCENT MOON;aCRESCENT MOONaNEW MOONn FACE",
  "aFIRST QUARTER MOONn FACEaLAST QUARTER MOONn FACEaFULL MOONn FACEaSUNn FACEaGLOWING STAR",
  "aSHOOTING STARaTHERMOMETERa< DROPLETa? SUNcnp CLOUDcBEHIND CLOUDen RAINaCLOUDn RAINcSNOW",
  "cLIGHTNINGcTORNADOaFOGaWIND BLOWING FACEaHOT DOGaTACOaBURRITOaCHESTNUTaSEEDLINGaEVERGREEN TREE",
  "aDECIDUOUS TREEaPALM TREEaCACTUSaHOT PEPPERaTULIPaCHERRY BLOSSOMaROSEaHIBISCUSaSUNFLOWER",
  "aBLOSSOMaEAR OF MAIZEcRICEaHERBaFOUR LEAF CLOVERaMAPLE LEAFaFALLEN LEAF",
  "aLEAF FLUTTERING IN WINDaMUSHROOMaTOMATOaAUBERGINEaGRAPESaMELONaWATERMELONaTANGERINEaLEMON",
  "aBANANAaPINEAPPLEaRED APPLEaGREEN APPLEaPEARaPEACHaCHERRIESaSTRAWBERRYaHAMBURGER",
  "aSLICE OF PIZZAaMEAT ON BONEaPOULTRY LEGaRICE CRACKERbBALLaCOOKED RICEaCURRYz RICE",
  "aSTEAMING BOWLaSPAGHETTIaBREADaFRENCH FRIESaROASTED SWEET POTATOaDANGOaODENaSUSHIaFRIED SHRIMP",
  "aFISH CAKEn SWIRL DESIGNaSOFT ICE CREAMaSHAVED ICEaICE CREAMaDOUGHNUTaCOOKIEaCHOCOLATE BAR",
  "aCANDYaLOLLIPOPaCUSTARDaHONEY POTaSHORTCAKEaBENTO BOXaPOT OF FOODaCOOKINGaFORKz KNIFE",
  "aTEACUP WITHOUT HANDLEaSAKE BOTTLEz CUPaWINE GLASSaCOCKTAIL GLASSaTROPICAL DRINKaBEER MUG",
  "aCLINKING BEER MUGSaBABY BOTTLEaFORKz KNIFEn PLATEaBOTTLEn POPPING CORKaPOPCORNaRIBBON",
  "aWRAPPED PRESENTaBIRTHDAY CAKEaJACK-O-LANTERNaCHRISTMAS TREEaFATHER CHRISTMASaFIREWORKS",
  "aFIREWORK SPARKLERaBALLOONaPARTY POPPERaCONFETTI BALLaTANABATA TREEaCROSSED FLAGS",
  "aPINE DECORATIONaJAPANESE DOLLSaCARP STREAMERaWIND CHIMEaMOON VIEWING CEREMONYaSCHOOL SATCHEL",
  "aGRADUATION CAPaHEARTn TIP ON THExaBOUQUET OF FLOWERSaMILITARY MEDALaREMINDER RIBBON",
  "aMUSICAL KEYBOARDn JACKSaSTUDIO MICROPHONEaLEVEL SLIDERaCONTROL KNOBS",
  "aBEAMED ASCENDING MUSICAL NOTESbDESCENDING MUSICAL NOTESaFILM FRAMESaADMISSION TICKETS",
  "aCAROUSEL HORSEaFERRIS WHEELaROLLER COASTERaFISHING POLEz FISHaMICROPHONEaMOVIE CAMERAaCINEMA",
  "aHEADPHONEaARTIST PALETTEaTOP HATaCIRCUS TENTaTICKETaCLAPPER BOARDaPERFORMING ARTSaVIDEO GAME",
  "aDIRECT HITaSLOT MACHINEaBILLIARDSaGAME DIEaBOWLINGaFLOWER PLAYING CARDSaMUSICAL NOTE",
  "aMULTIPLE MUSICAL NOTESaSAXOPHONEaGUITARaMUSICAL KEYBOARDaTRUMPETaVIOLINaMUSICAL SCORE",
  "aRUNNING SHIRTn SASHaTENNIS RACQUETz BALLaSKIz SKI BOOTaBASKETBALLz HOOPaCHEQUERED FLAG",
  "aSNOWBOARDERaRUNNERaSURFERaSPORTS MEDALaTROPHYaHORSE RACINGaAMERICAN FOOTBALLaRUGBY FOOTBALL",
  "aSWIMMERaWEIGHT LIFTERaGOLFERaRACING MOTORCYCLEbCARaCRICKET BATz BALLaVOLLEYBALL",
  "aFIELD HOCKEY STICKz BALLaICE HOCKEY STICKz PUCKaTABLE TENNIS PADDLEz BALL",
  "aSNOW CAPPED MOUNTAINaCAMPINGaBEACHn UMBRELLAaBUILDING CONSTRUCTIONaHOUSE BUILDINGSaCITYSCAPE",
  "aDERELICT HOUSE BUILDINGaCLASSICAL BUILDINGaDESERTbISLANDaNATIONAL PARKaSTADIUMaHOUSE BUILDING",
  "bn GARDENaOFFICE BUILDINGaJAPANESE POST OFFICEaEUROPEAN POST OFFICEaHOSPITALaBANK",
  "aAUTOMATED TELLER MACHINEaHOTELaLOVE HOTELaCONVENIENCE STOREaSCHOOLaDEPARTMENT STOREaFACTORY",
  "aIZAKAYA LANTERNaJAPANESE CASTLEaEUROPEAN CASTLEa? PENNANTa< PENNANTaWAVING? FLAGb< FLAG",
  "aROSETTEa< ROSETTEaLABELaBADMINTON RACQUETz SHUTTLECOCKaBOWzraAMPHORA",
  "aEMOJI MODIFIER FITZPATRICK TYPE-1-2e-3e-4e-5e-6aRATaMOUSEaOXaWATER BUFFALOaCOWaTIGERaLEOPARD",
  "aRABBITaCATaDRAGONaCROCODILEaWHALEaSNAILaSNAKEaHORSEaRAMaGOATaSHEEPaMONKEYaROOSTERaCHICKENaDOG",
  "aPIGaBOARaELEPHANTaOCTOPUSaSPIRAL SHELLaBUGaANTaHONEYBEEaLADY BEETLEaFISHaTROPICAL FISH",
  "aBLOWFISHaTURTLEaHATCHING CHICKaBABY CHICKaFRONT-FACING BABY CHICKaBIRDaPENGUINaKOALAaPOODLE",
  "aDROMEDARY CAMELaBACTRIAN CAMELaDOLPHINaMOUSE FACEaCOW FACEaTIGER FACEaRABBIT FACEaCAT FACE",
  "aDRAGON FACEaSPOUTING WHALEaHORSE FACEaMONKEY FACEaDOG FACEaPIG FACEaFROG FACEaHAMSTER FACE",
  "aWOLF FACEaBEAR FACEaPANDA FACEaPIG NOSEaPAW PRINTSaCHIPMUNKaEYESaEYEaEARaNOSEaMOUTHaTONGUE",
  "a? UP POINTING BACKHAND INDEXbDOWN POINTING BACKHAND INDEXbx POINTING BACKHAND INDEX",
  "bt POINTING BACKHAND INDEXaFISTED HANDsaWAVING HANDsaOK HANDsaTHUMBS UPsbDOWNsaCLAPPING HANDSs",
  "aOPEN HANDSsaCROWNaWOMANS HATaEYEGLASSESaNECKTIEaT-SHIRTaJEANSaDRESSaKIMONOaBIKINI",
  "aWOMANS CLOTHESaPURSEaHANDBAGaPOUCHaMANS SHOEaATHLETIC SHOEaHIGH-HEELED SHOEaWOMANS SANDAL",
  "bBOOTSaFOOTPRINTSaBUST IN SILHOUETTEaBUSTS IN SILHOUETTEaBOYaGIRLaMANaWOMANaFAMILY",
  "aMANz WOMAN HOLDING HANDSa^ MEN HOLDING HANDSbWOMEN HOLDING HANDSaPOLICE OFFICER",
  "aWOMANn BUNNY EARSaBRIDEn VEILaPERSONn BLOND HAIRaMANn GUA PI MAOcTURBANaOLDER MANbWOMANaBABY",
  "aCONSTRUCTION WORKERaPRINCESSaJAPANESE OGREbGOBLINaGHOSTaBABY ANGELaEXTRATERRESTRIAL ALIEN",
  "aALIEN MONSTERaIMPaSKULLaINFORMATION DESK PERSONaGUARDSMANaDANCERaLIPSTICKaNAIL POLISH",
  "aFACE MASSAGEaHAIRCUTaBARBER POLEaSYRINGEaPILLaKISS>aLOVEmaRINGaGEM STONEaKISSaBOUQUET",
  "aCOUPLEn HEARTaWEDDINGaBEATING HEARTaBROKEN HEARTa^ HEARTSaSPARKLING HEARTaGROWING HEART",
  "aHEARTnraBLUE HEARTaGREEN HEARTaYELLOW HEARTaPURPLE HEARTaHEARTn RIBBONaREVOLVING HEARTS",
  "aHEART DECORATIONaDIAMOND SHAPEn A DOT INSIDEaELECTRIC LIGHT BULBaANGER;aBOMBaSLEEPING;",
  "aCOLLISION;aSPLASHING SWEAT;aDROPLETaDASH;aPILE OF POOaFLEXED BICEPSaDIZZY;aSPEECH BALLOON",
  "aTHOUGHT BALLOONa? FLOWERa_ POINTS;aMONEY BAGaCURRENCY EXCHANGEaHEAVY DOLLARsaCREDIT CARD",
  "aBANKNOTEn YENscDOLLARscEUROscPOUNDsaMONEYn WINGSaCHARTn UPWARDS TRENDz YENsaSEAT",
  "aPERSONAL COMPUTERaBRIEFCASEaMINIDISCaFLOPPY DISKaOPTICAL DISCaDVDaFILE FOLDER",
  "aOPEN FILE FOLDERaPAGEn CURLbFACING UPaCALENDARaTEAR-OFF CALENDARaCARD INDEX",
  "aCHARTn UPWARDS TRENDcDOWNWARDS TRENDaBAR CHARTaCLIPBOARDaPUSHPINaROUND PUSHPINaPAPERCLIP",
  "aSTRAIGHT RULERaTRIANGULAR RULERaBOOKMARK TABSaLEDGERaNOTEBOOKbn DECORATIVE COVERaCLOSED BOOK",
  "aOPEN BOOKaGREEN BOOKaBLUE BOOKaORANGE BOOKaBOOKSaNAME BADGEaSCROLLaMEMOaTELEPHONE RECEIVER",
  "aPAGERaFAX MACHINEaSATELLITE ANTENNAaPUBLIC ADDRESS LOUDSPEAKERaCHEERING MEGAPHONEaOUTBOX TRAY",
  "aINBOX TRAYaPACKAGEaE-MAIL;aINCOMING ENVELOPEaENVELOPEn DOWNWARDSru",
  "aCLOSED MAILBOXn LOWERED FLAGdRAISED FLAGaOPEN MAILBOXn RAISED FLAGdLOWERED FLAGaPOSTBOX",
  "aPOSTAL HORNaNEWSPAPERaMOBILE PHONEcnyr ATxaVIBRATION MODEaMOBILE PHONE OFFaNO MOBILE PHONES",
  "aANTENNAn BARSaCAMERAbn FLASHaVIDEO CAMERAaTELEVISIONaRADIOaVIDEOCASSETTEaFILM PROJECTOR",
  "aPORTABLE STEREOaPRAYER BEADSaTWISTEDy ARROWSaCLOCKWISEyz+ OPEN CIRCLE ARROWS",
  "hn CIRCLED| OVERLAYbDOWNWARDSz UPWARDS OPEN CIRCLE ARROWS",
  "aANTICLOCKWISE DOWNWARDSz UPWARDS OPEN CIRCLE ARROWSaLOW BRIGHTNESS;aHIGH BRIGHTNESS;",
  "aSPEAKERn CANCELLATION.bbn| SOUND WAVEc& SOUND WAVESaBATTERYaELECTRIC PLUG",
  "ax-POINTING MAGNIFYING GLASSat-POINTING MAGNIFYING GLASSaLOCKn INK PENaCLOSED LOCKn KEYaKEY",
  "aLOCKaOPEN LOCKaBELLbn CANCELLATION.aBOOKMARKaLINK;aRADIO BUTTONaBACKn+ruaENDn+ru",
  "aONn EXCLAMATION>nxtruaSOONnyruaTOPn UPWARDSruaNO| UNDER EIGHTEEN;aKEYCAP TEN",
  "aINPUT; FOR LATINo LETTERSep LETTERSdNUMBERSdSYMBOLSdLATIN LETTERSaFIREaELECTRIC TORCHaWRENCH",
  "aHAMMERaNUTz BOLTaHOCHOaPISTOLaMICROSCOPEaTELESCOPEaCRYSTAL BALLaSIX POINTED STARn] DOT",
  "aJAPANESE; FOR BEGINNERaTRIDENT EMBLEMa< SQUARE BUTTONa? SQUARE BUTTONaLARGE RED CIRCLE",
  "bBLUE CIRCLEbORANGE DIAMONDbBLUE DIAMONDap ORANGE DIAMONDbBLUE DIAMONDaUP-POINTING RED%",
  "aDOWN-POINTING RED%aUP-POINTINGp RED%aDOWN-POINTINGp RED%aLOWERt SHADOWED? CIRCLE",
  "aUPPERt SHADOWED? CIRCLEaCIRCLED CROSS POMMEEaCROSS POMMEEn HALF-CIRCLE!c",
  "aNOTCHEDx SEMICIRCLEn& DOTSbt SEMICIRCLEn& DOTSa; FOR MARKS CHAPTERa? LATIN CROSS",
  "aHEAVY LATIN CROSSaCELTIC CROSSaOM;aDOVE OF PEACEaKAABAaMOSQUEaSYNAGOGUE",
  "aMENORAHn NINE BRANCHESaBOWL OF HYGIEIAaCLOCK FACE| OCLOCKc^ OCLOCKc& OCLOCKcFOUR OCLOCK",
  "cFIVE OCLOCKcSIX OCLOCKcSEVEN OCLOCKcEIGHT OCLOCKcNINE OCLOCKcTEN OCLOCKcELEVEN OCLOCK",
  "cTWELVE OCLOCKc|-THIRTYc^-THIRTYc&-THIRTYcFOUR-THIRTYcFIVE-THIRTYcSIX-THIRTYcSEVEN-THIRTY",
  "cEIGHT-THIRTYcNINE-THIRTYcTEN-THIRTYcELEVEN-THIRTYcTWELVE-THIRTYat SPEAKERcn| SOUND WAVE",
  "d& SOUND WAVESaBULLHORNbn SOUND WAVESaRINGING BELLaBOOKaCANDLEaMANTELPIECE CLOCK",
  "a< SKULLz CROSSBONESaNO PIRACYaHOLEaMAN IN BUSINESS SUIT LEVITATINGaSLEUTH OR SPY",
  "aDARK SUNGLASSESaSPIDERbWEBaJOYSTICKaMAN DANCINGax HAND TELEPHONE RECEIVER",
  "aTELEPHONE RECEIVERn PAGEat HAND TELEPHONE RECEIVERa? TOUCHTONE TELEPHONE",
  "a< TOUCHTONE TELEPHONEaTELEPHONE ON TOP OF MODEMaCLAMSHELL MOBILE PHONEaBACK OF ENVELOPE",
  "aSTAMPED ENVELOPEaENVELOPEn LIGHTNINGaFLYING ENVELOPEaPEN OVER STAMPED ENVELOPE",
  "aLINKED PAPERCLIPSa< PUSHPINaLOWERx PENCILcBALLPOINT PENcFOUNTAIN PENcPAINTBRUSHcCRAYON",
  "ax WRITING HANDaTURNED OK HANDsaRAISED HANDn FINGERS SPLAYED",
  "aREVERSED RAISED HANDn FINGERS SPLAYEDbTHUMBS UPscDOWNsbVICTORY HANDbHANDn] FINGER EXTENDED",
  "aRAISED HANDn PART BETWEEN]z RING FINGERSa? DOWN POINTINGx HAND INDEX",
  "aSIDEWAYS?x POINTING INDEXct POINTING INDEXb<x POINTING INDEXct POINTING INDEX",
  "a<x POINTING BACKHAND INDEXbt POINTING BACKHAND INDEXaSIDEWAYS? UP POINTING INDEX",
  "cDOWN POINTING INDEXb< UP POINTING INDEXcDOWN POINTING INDEXa< UP POINTING BACKHAND INDEX",
  "bDOWN POINTING BACKHAND INDEXbHEARTaDESKTOP COMPUTERaKEYBOARDz MOUSEa& NETWORKED COMPUTERS",
  "aPRINTERaPOCKET CALCULATORa< HARD SHELL FLOPPY DISKa? HARD SHELL FLOPPY DISK",
  "aSOFT SHELL FLOPPY DISKaTAPE CARTRIDGEaWIRED KEYBOARDa| BUTTON MOUSEa^ BUTTON MOUSE",
  "a& BUTTON MOUSEaTRACKBALLaOLD PERSONAL COMPUTERaHARD DISKaSCREENaPRINTER ICONaFAX ICON",
  "aOPTICAL DISC ICONaDOCUMENTn TEXTdz PICTUREcPICTUREaFRAMEn PICTUREcTILEScAN Xa< FOLDERaFOLDER",
  "aOPEN FOLDERaCARD INDEX DIVIDERSbFILE BOXaFILE CABINETaEMPTY NOTEcPAGEcPADaNOTEbPAGEbPAD",
  "aEMPTY DOCUMENTbPAGEbPAGESaDOCUMENTaPAGEaPAGESaWASTEBASKETaSPIRAL NOTE PADbCALENDAR PAD",
  "aDESKTOP WINDOWaMINIMIZEaMAXIMIZEaOVERLAPaCLOCKWISEtzx SEMICIRCLE ARROWSaCANCELLATION X",
  "aINCREASE FONT SIZE;aDECREASE FONT SIZE;aCOMPRESSIONaOLD KEYaROLLED-UP NEWSPAPER",
  "aPAGEn CIRCLED TEXTaSTOCK CHARTaDAGGER KNIFEaLIPSaSPEAKING HEAD IN SILHOUETTEa& RAYSuc!cxct",
  "ax SPEECH BUBBLEat SPEECH BUBBLEa^ SPEECH BUBBLESa& SPEECH BUBBLESax THOUGHT BUBBLE",
  "at THOUGHT BUBBLEax ANGER BUBBLEat ANGER BUBBLEaMOOD BUBBLEaLIGHTNING MOOD BUBBLEc",
  "aBALLOT BOXn BALLOTbSCRIPT XbBOXn SCRIPT XbBOLD SCRIPT XbBOXn BOLD SCRIPT XaLIGHT CHECK>",
  "aBALLOT BOXn BOLD CHECKaWORLD MAPaMOUNT FUJIaTOKYO TOWERaSTATUE OF LIBERTYaSILHOUETTE OF JAPAN",
  "aMOYAIaGRINNING FACEcn SMILING EYESaFACEn TEARS OF JOYaSMILING FACEn OPEN MOUTHfz SMILING EYES",
  "gCOLD SWEATgTIGHTLY-CLOSED EYESdHALOdHORNSaWINKING FACEaSMILING FACEn SMILING EYES",
  "aFACE SAVOURING DELICIOUS FOODaRELIEVED FACEaSMILING FACEn HEART-SHAPED EYESdSUNGLASSES",
  "aSMIRKING FACEaNEUTRAL FACEaEXPRESSIONLESS FACEaUNAMUSED FACEaFACEn COLD SWEATaPENSIVE FACE",
  "aCONFUSED FACEaCONFOUNDED FACEaKISSING FACEaFACE THROWING A KISSaKISSING FACEn SMILING EYES",
  "dCLOSED EYESaFACEn STUCK-OUT TONGUEfz WINKING EYEgTIGHTLY-CLOSED EYESaDISAPPOINTED FACE",
  "aWORRIED FACEaANGRY FACEaPOUTING FACEaCRYING FACEaPERSEVERING FACEaFACEn LOOK OF TRIUMPH",
  "aDISAPPOINTED BUT RELIEVED FACEaFROWNING FACEn OPEN MOUTHaANGUISHED FACEaFEARFUL FACE",
  "aWEARY FACEaSLEEPY FACEaTIRED FACEaGRIMACING FACEaLOUDLY CRYING FACEaFACEn OPEN MOUTH",
  "aHUSHED FACEaFACEn OPEN MOUTHz COLD SWEATbSCREAMING IN FEARaASTONISHED FACEaFLUSHED FACE",
  "aSLEEPING FACEaDIZZY FACEaFACE WITHOUT MOUTHbn MEDICAL MASKaGRINNING CAT FACEn SMILING EYES",
  "aCAT FACEn TEARS OF JOYaSMILING CAT FACEn OPEN MOUTHeHEART-SHAPED EYESaCAT FACEn WRY SMILE",
  "aKISSING CAT FACEn CLOSED EYESaPOUTING CAT FACEaCRYING CAT FACEaWEARY CAT FACE",
  "aSLIGHTLY FROWNING FACEbSMILING FACEaUPSIDE-DOWN FACEaFACEn ROLLING EYEScNO GOOD GESTURE",
  "cOK GESTUREaPERSON BOWING DEEPLYaSEE-NO-EVIL MONKEYaHEAR-NO-EVIL MONKEYaSPEAK-NO-EVIL MONKEY",
  "aHAPPY PERSON RAISING| HANDaPERSON RAISING BOTH HANDS IN CELEBRATIONbFROWNINGbn POUTING FACE",
  "cFOLDED HANDSaNORTH WEST POINTING LEAFaSOUTH WEST POINTING LEAFaNORTH EAST POINTING LEAF",
  "aSOUTH EAST POINTING LEAFaTURNED NORTH WEST POINTING LEAFbSOUTH WEST POINTING LEAF",
  "bNORTH EAST POINTING LEAFbSOUTH EAST POINTING LEAFaNORTH WEST POINTING VINE LEAF",
  "aSOUTH WEST POINTING VINE LEAFaNORTH EAST POINTING VINE LEAFaSOUTH EAST POINTING VINE LEAF",
  "aHEAVY NORTH WEST POINTING VINE LEAFbSOUTH WEST POINTING VINE LEAF",
  "bNORTH EAST POINTING VINE LEAFbSOUTH EAST POINTING VINE LEAFaNORTH WEST POINTING BUD",
  "aSOUTH WEST POINTING BUDaNORTH EAST POINTING BUDaSOUTH EAST POINTING BUD",
  "aHEAVY NORTH WEST POINTING BUDbSOUTH WEST POINTING BUDbNORTH EAST POINTING BUD",
  "bSOUTH EAST POINTING BUDaHOLLOW QUILT SQUARE ORNAMENTeIN< SQUAREaSOLID QUILT SQUARE ORNAMENT",
  "eIN< SQUAREa+ ROCKETaUPWARDS ROCKETay ROCKETaDOWNWARDS ROCKETaSCRIPT LIGATURE ET ORNAMENT",
  "aHEAVY SCRIPT LIGATURE ET ORNAMENTaLIGATURE OPEN ET ORNAMENTaHEAVY LIGATURE OPEN ET ORNAMENT",
  "bAMPERSAND ORNAMENTaSWASH AMPERSAND ORNAMENT",
  "aSANS-SERIF HEAVYv TURNED COMMA QUOTATION> ORNAMENTeCOMMA QUOTATION> ORNAMENT",
  "dLOWv COMMA QUOTATION> ORNAMENTaHEAVY INTERROBANG ORNAMENTaSANS-SERIF INTERROBANG ORNAMENT",
  "aHEAVY SANS-SERIF INTERROBANG ORNAMENTaVERY HEAVY SOLIDUScREVERSE SOLIDUSaCHECKER BOARD",
  "aREVERSE CHECKER BOARDaROCKETaHELICOPTERaSTEAM LOCOMOTIVEaRAILWAY CARaHIGH-SPEED TRAIN",
  "dn BULLET NOSEaTRAINaMETROaLIGHT RAILaSTATIONaTRAMbCARaBUSaONCOMING BUSaTROLLEYBUSaBUS STOP",
  "aMINIBUSaAMBULANCEaFIRE ENGINEaPOLICE CARaONCOMING POLICE CARaTAXIaONCOMING TAXIaAUTOMOBILE",
  "aONCOMING AUTOMOBILEaRECREATIONAL VEHICLEaDELIVERY TRUCKaARTICULATED LORRYaTRACTORaMONORAIL",
  "aMOUNTAIN RAILWAYaSUSPENSION RAILWAYaMOUNTAIN CABLEWAYaAERIAL TRAMWAYaSHIPaROWBOATaSPEEDBOAT",
  "a[ TRAFFIC LIGHTa* TRAFFIC LIGHTaCONSTRUCTIONsaPOLICE CARS REVOLVING LIGHT",
  "aTRIANGULAR FLAG ON POSTaDOORaNO ENTRYsaSMOKING;aNO SMOKING;aPUT LITTER IN ITS PLACE;",
  "aDO NOT LITTER;aPOTABLE WATER;aNON-POTABLE WATER;aBICYCLEaNO BICYCLESaBICYCLIST",
  "aMOUNTAIN BICYCLISTaPEDESTRIANaNO PEDESTRIANSaCHILDREN CROSSINGaMENS;aWOMENS;aRESTROOMaBABY;",
  "aTOILETaWATER CLOSETaSHOWERaBATHaBATHTUBaPASSPORT CONTROLaCUSTOMSaBAGGAGE CLAIMax LUGGAGE",
  "a%n ROUNDED CORNERSaPROHIBITEDsaCIRCLED INFORMATION SOURCEaBOYS;aGIRLS;aCOUCHz LAMP",
  "aSLEEPING ACCOMMODATIONaSHOPPING BAGSaBELLHOP BELLaBEDaPLACE OF WORSHIPaOCTAGONALs",
  "aSHOPPING TROLLEYaSTUPAaPAGODAaHINDU TEMPLEaHUTaELEVATOR@1F6DDaPLAYGROUND SLIDEaWHEEL",
  "aRING BUOYaHAMMERz WRENCHaSHIELDaOIL DRUMaMOTORWAYaRAILWAY TRACKaMOTOR BOAT",
  "aUP-POINTING MILITARY AIRPLANEcAIRPLANEcp AIRPLANEap AIRPLANEaNORTHEAST-POINTING AIRPLANE",
  "aAIRPLANE DEPARTUREbARRIVING@1F6F0aSATELLITEaONCOMING FIRE ENGINEaDIESEL LOCOMOTIVE",
  "aPASSENGER SHIPaSCOOTERaMOTOR SCOOTERaCANOEaSLEDaFLYING SAUCERaSKATEBOARDaAUTO RICKSHAW",
  "aPICKUP TRUCKaROLLER SKATE@1F700aALCHEMICAL; FOR QUINTESSENCEdAIRdFIREdEARTHdWATERdAQUAFORTIS",
  "dAQUA REGIAf-2eVITAEf-2dVINEGARe-2e-3dSULFURdPHILOSOPHERS SULFURd< SULFURdMERCURY SUBLIMATEf-2",
  "f-3dCINNABARdSALTdNITREdVITRIOLe-2dROCK SALTf-2dGOLDdSILVERdIRON OREf-2dCROCUS OF IRON",
  "dREGULUS OF IRONdCOPPER OREdIRON-COPPER OREdSUBLIMATE OF COPPERdCROCUS OF COPPERg-2",
  "dCOPPER ANTIMONIATEdSALT OF COPPER ANTIMONIATEdSUBLIMATE OF SALT OF COPPERdVERDIGRISdTIN ORE",
  "dLEAD OREdANTIMONY OREdSUBLIMATE OF ANTIMONYdSALT OF ANTIMONYdSUBLIMATE OF SALT OF ANTIMONY",
  "dVINEGAR OF ANTIMONYdREGULUS OF ANTIMONYg-2ee-2e-3e-4dALKALIe-2dMARCASITEdSAL-AMMONIACdARSENIC",
  "dREALGARe-2dAURIPIGMENTdBISMUTH OREdTARTARe-2dQUICK LIMEdBORAXe-2e-3dALUMdOILdSPIRITdTINCTURE",
  "dGUMdWAXdPOWDERdCALXdTUTTYdCAPUT MORTUUMdSCEPTER OF JOVEdCADUCEUSdTRIDENTdSTARRED TRIDENT",
  "dLODESTONEdSOAPdURINEdHORSE DUNGdASHESdPOT ASHESdBRICKdPOWDERED BRICKdAMALGAM",
  "dSTRATUM SUPER STRATUMg-2dSUBLIMATIONdPRECIPITATEdDISTILLdDISSOLVEe-2dPURIFYdPUTREFACTION",
  "dCRUCIBLEe-2e-3e-4e-5dALEMBICdBATH OF MARYfVAPOURSdRETORTdHOURdNIGHTdDAY-NIGHTdMONTHdHALF DRAM",
  "eOUNCE@1F780a<x-POINTING ISOSCELESt%bUP-POINTING ISOSCELESt%bt-POINTING ISOSCELESt%",
  "bDOWN-POINTING ISOSCELESt%bSLIGHTLYp CIRCLEaMEDIUM BOLD? CIRCLEaBOLD? CIRCLEaHEAVY? CIRCLE",
  "aVERY HEAVY? CIRCLEaEXTREMELY HEAVY? CIRCLEa? CIRCLE CONTAINING<p CIRCLEaROUND TARGET",
  "a< TINY SQUAREbSLIGHTLYp SQUAREaLIGHT? SQUAREaMEDIUM? SQUAREaBOLD? SQUAREaHEAVY? SQUARE",
  "aVERY HEAVY? SQUAREaEXTREMELY HEAVY? SQUAREa? SQUARE CONTAINING< VERYp SQUAREeMEDIUM SQUARE",
  "aSQUARE TARGETa< TINY DIAMONDbVERYp DIAMONDbMEDIUMp DIAMOND",
  "a? DIAMOND CONTAINING< VERYp DIAMONDeMEDIUM DIAMONDaDIAMOND TARGETa< TINY LOZENGE",
  "bVERYp LOZENGEbMEDIUMp LOZENGEa? LOZENGE CONTAINING<p LOZENGEaTHIN GREEK CROSS",
  "aLIGHT GREEK CROSSaMEDIUM GREEK CROSSaBOLD GREEK CROSSaVERY BOLD GREEK CROSSbHEAVY GREEK CROSS",
  "aEXTREMELY HEAVY GREEK CROSSaTHIN SALTIREaLIGHT SALTIREaMEDIUM SALTIREaBOLD SALTIRE",
  "aHEAVY SALTIREaVERY HEAVY SALTIREaEXTREMELY HEAVY SALTIREaLIGHT FIVE SPOKED ASTERISK",
  "aMEDIUM FIVE SPOKED ASTERISKaBOLD FIVE SPOKED ASTERISKaHEAVY FIVE SPOKED ASTERISK",
  "aVERY HEAVY FIVE SPOKED ASTERISKaEXTREMELY HEAVY FIVE SPOKED ASTERISK",
  "aLIGHT SIX SPOKED ASTERISKaMEDIUM SIX SPOKED ASTERISKaBOLD SIX SPOKED ASTERISK",
  "aHEAVY SIX SPOKED ASTERISKaVERY HEAVY SIX SPOKED ASTERISKaEXTREMELY HEAVY SIX SPOKED ASTERISK",
  "aLIGHT EIGHT SPOKED ASTERISKaMEDIUM EIGHT SPOKED ASTERISKaBOLD EIGHT SPOKED ASTERISK",
  "aHEAVY EIGHT SPOKED ASTERISKaVERY HEAVY EIGHT SPOKED ASTERISKaLIGHT& POINTED< STAR",
  "aMEDIUM& POINTED< STARa& POINTED< STARaMEDIUM& POINTED PINWHEEL STARaLIGHT FOUR POINTED< STAR",
  "aMEDIUM FOUR POINTED< STARaFOUR POINTED< STARaMEDIUM FOUR POINTED PINWHEEL STAR",
  "aREVERSE LIGHT FOUR POINTED PINWHEEL STARaLIGHT FIVE POINTED< STARaHEAVY FIVE POINTED< STAR",
  "aMEDIUM SIX POINTED< STARaHEAVY SIX POINTED< STARaSIX POINTED PINWHEEL STAR",
  "aMEDIUM EIGHT POINTED< STARaHEAVY EIGHT POINTED< STARaVERY HEAVY EIGHT POINTED< STAR",
  "aHEAVY EIGHT POINTED PINWHEEL STARaLIGHT TWELVE POINTED< STARaHEAVY TWELVE POINTED< STAR",
  "dPINWHEEL STARaCIRCLED%aNEGATIVE CIRCLED%aCIRCLED SQUAREaNEGATIVE CIRCLED SQUARE",
  "@1F7E0aLARGE ORANGE CIRCLEbYELLOW CIRCLEbGREEN CIRCLEbPURPLE CIRCLEbBROWN CIRCLEbRED SQUARE",
  "bBLUE SQUAREbORANGE SQUAREbYELLOW SQUAREbGREEN SQUAREbPURPLE SQUAREbBROWN SQUARE",
  "@1F7F0aHEAVY EQUALSs@1F800a+rnp% ARROWHEADaUPWARDSrnp% ARROWHEADayrnp% ARROWHEAD",
  "aDOWNWARDSrnp% ARROWHEADa+rn MEDIUM% ARROWHEADaUPWARDSrn MEDIUM% ARROWHEAD",
  "ayrn MEDIUM% ARROWHEADaDOWNWARDSrn MEDIUM% ARROWHEADa+rn LARGE% ARROWHEAD",
  "aUPWARDSrn LARGE% ARROWHEADayrn LARGE% ARROWHEADaDOWNWARDSrn LARGE% ARROWHEAD",
  "@1F810a+rnp EQUILATERAL ARROWHEADaUPWARDSrnp EQUILATERAL ARROWHEADayrnp EQUILATERAL ARROWHEAD",
  "aDOWNWARDSrnp EQUILATERAL ARROWHEADa+rn EQUILATERAL ARROWHEADaUPWARDSrn EQUILATERAL ARROWHEAD",
  "ayrn EQUILATERAL ARROWHEADaDOWNWARDSrn EQUILATERAL ARROWHEADaHEAVY+rn EQUILATERAL ARROWHEAD",
  "bUPWARDSrn EQUILATERAL ARROWHEADbyrn EQUILATERAL ARROWHEADbDOWNWARDSrn EQUILATERAL ARROWHEAD",
  "b+rn LARGE EQUILATERAL ARROWHEADbUPWARDSrn LARGE EQUILATERAL ARROWHEAD",
  "byrn LARGE EQUILATERAL ARROWHEADbDOWNWARDSrn LARGE EQUILATERAL ARROWHEAD",
  "a+%-HEADEDrn NARROW SHAFTaUPWARDS%-HEADEDrn NARROW SHAFTay%-HEADEDrn NARROW SHAFT",
  "aDOWNWARDS%-HEADEDrn NARROW SHAFTa+%-HEADEDrn MEDIUM SHAFTaUPWARDS%-HEADEDrn MEDIUM SHAFT",
  "ay%-HEADEDrn MEDIUM SHAFTaDOWNWARDS%-HEADEDrn MEDIUM SHAFTa+%-HEADEDrn BOLD SHAFT",
  "aUPWARDS%-HEADEDrn BOLD SHAFTay%-HEADEDrn BOLD SHAFTaDOWNWARDS%-HEADEDrn BOLD SHAFT",
  "a+%-HEADEDrn HEAVY SHAFTaUPWARDS%-HEADEDrn HEAVY SHAFTay%-HEADEDrn HEAVY SHAFT",
  "aDOWNWARDS%-HEADEDrn HEAVY SHAFTa+%-HEADEDrn VERY HEAVY SHAFT",
  "aUPWARDS%-HEADEDrn VERY HEAVY SHAFTay%-HEADEDrn VERY HEAVY SHAFT",
  "aDOWNWARDS%-HEADEDrn VERY HEAVY SHAFTa+ FINGER-POSTraUPWARDS FINGER-POSTray FINGER-POSTr",
  "aDOWNWARDS FINGER-POSTra+ SQUAREDraUPWARDS SQUAREDray SQUAREDraDOWNWARDS SQUAREDr",
  "a+ COMPRESSEDraUPWARDS COMPRESSEDray COMPRESSEDraDOWNWARDS COMPRESSEDra+ HEAVY COMPRESSEDr",
  "aUPWARDS HEAVY COMPRESSEDray HEAVY COMPRESSEDraDOWNWARDS HEAVY COMPRESSEDra+ HEAVYr",
  "aUPWARDS HEAVYray HEAVYraDOWNWARDS HEAVYr@1F850a+ SANS-SERIFraUPWARDS SANS-SERIFr",
  "ay SANS-SERIFraDOWNWARDS SANS-SERIFraNORTH WEST SANS-SERIFrbEAST SANS-SERIFr",
  "aSOUTH EAST SANS-SERIFrbWEST SANS-SERIFraxt SANS-SERIFraUP DOWN SANS-SERIFr",
  "@1F860aWIDE-HEADED+ LIGHT BARBrcUPWARDS LIGHT BARBrcy LIGHT BARBrcDOWNWARDS LIGHT BARBr",
  "cNORTH WEST LIGHT BARBrdEAST LIGHT BARBrcSOUTH EAST LIGHT BARBrdWEST LIGHT BARBrc+ BARBr",
  "cUPWARDS BARBrcy BARBrcDOWNWARDS BARBrcNORTH WEST BARBrdEAST BARBrcSOUTH EAST BARBrdWEST BARBr",
  "c+ MEDIUM BARBrcUPWARDS MEDIUM BARBrcy MEDIUM BARBrcDOWNWARDS MEDIUM BARBr",
  "cNORTH WEST MEDIUM BARBrdEAST MEDIUM BARBrcSOUTH EAST MEDIUM BARBrdWEST MEDIUM BARBr",
  "c+ HEAVY BARBrcUPWARDS HEAVY BARBrcy HEAVY BARBrcDOWNWARDS HEAVY BARBrcNORTH WEST HEAVY BARBr",
  "dEAST HEAVY BARBrcSOUTH EAST HEAVY BARBrdWEST HEAVY BARBrc+ VERY HEAVY BARBr",
  "cUPWARDS VERY HEAVY BARBrcy VERY HEAVY BARBrcDOWNWARDS VERY HEAVY BARBr",
  "cNORTH WEST VERY HEAVY BARBrdEAST VERY HEAVY BARBrcSOUTH EAST VERY HEAVY BARBr",
  "dWEST VERY HEAVY BARBr@1F890a+% ARROWHEADaUPWARDS% ARROWHEADay% ARROWHEADaDOWNWARDS% ARROWHEAD",
  "a+?r WITHIN% ARROWHEADaUPWARDS?r WITHIN% ARROWHEADay?r WITHIN% ARROWHEAD",
  "aDOWNWARDS?r WITHIN% ARROWHEADa+rn NOTCHED TAILaUPWARDSrn NOTCHED TAILayrn NOTCHED TAIL",
  "aDOWNWARDSrn NOTCHED TAILaHEAVYr SHAFT WIDTH|e^ THIRDSe| HALFfTHIRDa+ BOTTOM-SHADED?r",
  "ay BOTTOM SHADED?ra+ TOP SHADED?ray TOP SHADED?ra+x-SHADED?rayt-SHADED?ra+t-SHADED?r",
  "ayx-SHADED?ra+ BACK-TILTED SHADOWED?ray BACK-TILTED SHADOWED?ra+ FRONT-TILTED SHADOWED?r",
  "ay FRONT-TILTED SHADOWED?ra?r SHAFT WIDTH|e^ THIRDS@1F8B0ar POINTING UPWARDS THEN NORTH WEST",
  "cy THEN CURVING SOUTH WEST@1F900aCIRCLED CROSS FORMEEn FOUR DOTSe^ DOTSd",
  "ax HALF CIRCLEn FOUR DOTSe& DOTSe^ DOTSeDOTdaDOWNWARD FACING HOOKcNOTCHED HOOKcHOOKn DOT",
  "cNOTCHED HOOKn DOTaPINCHED FINGERSa? HEARTaBROWN HEARTaPINCHING HANDaZIPPER-MOUTH FACE",
  "aMONEY-MOUTH FACEaFACEn THERMOMETERaNERD FACEaTHINKING FACEaFACEn HEAD-BANDAGEaROBOT FACE",
  "aHUGGING FACEas OF THE HORNSaCALL ME HANDaRAISED BACK OF HANDax-FACING FISTat-FACING FIST",
  "aHANDSHAKEaHANDn INDEXz] FINGERS CROSSEDaI LOVE YOU HANDsaFACEn COWBOY HATaCLOWN FACE",
  "aNAUSEATED FACEaROLLING ON THE FLOOR LAUGHINGaDROOLING FACEaLYING FACEaFACE PALMaSNEEZING FACE",
  "aFACEn| EYEBROW RAISEDaGRINNING FACEn STAR EYESd| LARGEz|p EYE",
  "aFACEn FINGER COVERING CLOSED LIPSaSERIOUS FACEn SYMBOLS COVERING MOUTH",
  "aSMILING FACEn SMILING EYESz HAND COVERING MOUTHaFACEn OPEN MOUTH VOMITING",
  "aSHOCKED FACEn EXPLODING HEADaPREGNANT WOMANaBREAST-FEEDINGaPALMS UP TOGETHERaSELFIEaPRINCE",
  "aMAN IN TUXEDOaMOTHER CHRISTMASaSHRUGaPERSON DOING CARTWHEELaJUGGLINGaFENCERaMODERN PENTATHLON",
  "aWRESTLERSaWATER POLOaHANDBALLaDIVING MASKaWILTED FLOWERaDRUMn DRUMSTICKSaCLINKING GLASSES",
  "aTUMBLER GLASSaSPOONaGOAL NETaRIFLEaFIRST PLACE MEDALaSECOND PLACE MEDALaTHIRD PLACE MEDAL",
  "aBOXING GLOVEaMARTIAL ARTS UNIFORMaCURLING STONEaLACROSSE STICKz BALLaSOFTBALLaFLYING DISC",
  "aCROISSANTaAVOCADOaCUCUMBERaBACONaPOTATOaCARROTaBAGUETTE BREADaGREEN SALADaSHALLOW PAN OF FOOD",
  "aSTUFFED FLATBREADaEGGaGLASS OF MILKaPEANUTSaKIWIFRUITaPANCAKESaDUMPLINGaFORTUNE COOKIE",
  "aTAKEOUT BOXaCHOPSTICKSaBOWLn SPOONaCUPn STRAWaCOCONUTaBROCCOLIaPIEaPRETZELaCUT OF MEAT",
  "aSANDWICHaCANNED FOODaLEAFY GREENaMANGOaMOON CAKEaBAGELaSMILING FACEn SMILING EYESz& HEARTS",
  "aYAWNING FACEaSMILING FACEn TEARaFACEn PARTY HORNz PARTY HATcUNEVEN EYESz WAVY MOUTH",
  "aOVERHEATED FACEaFREEZING FACEaNINJAaDISGUISED FACEaFACE HOLDING BACK TEARSbn PLEADING EYES",
  "aSARIaLAB COATaGOGGLESaHIKING BOOTaFLAT SHOEaCRABaLION FACEaSCORPIONaTURKEYaUNICORN FACEaEAGLE",
  "aDUCKaBATaSHARKaOWLaFOX FACEaBUTTERFLYaDEERaGORILLAaLIZARDaRHINOCEROSaSHRIMPaSQUID",
  "aGIRAFFE FACEaZEBRA FACEaHEDGEHOGaSAUROPODaT-REXaCRICKETaKANGAROOaLLAMAaPEACOCKaHIPPOPOTAMUS",
  "aPARROTaRACCOONaLOBSTERaMOSQUITOaMICROBEaBADGERaSWANaMAMMOTHaDODOaSLOTHaOTTERaORANGUTANaSKUNK",
  "aFLAMINGOaOYSTERaBEAVERaBISONaSEALaGUIDE DOGaPROBING CANEaEMOJI COMPONENT RED HAIRcCURLY HAIR",
  "cBALDc? HAIRaBONEaLEGaFOOTaTOOTHaSUPERHEROaSUPERVILLAINaSAFETY VESTaEARn HEARING AID",
  "aMOTORIZED WHEELCHAIRaMANUAL WHEELCHAIRaMECHANICAL ARMbLEGaCHEESE WEDGEaCUPCAKEaSALT SHAKER",
  "aBEVERAGE BOXaGARLICaONIONaFALAFELaWAFFLEaBUTTERaMATE DRINKaICE CUBEaBUBBLE TEAaTROLL",
  "aSTANDING PERSONaKNEELING PERSONaDEAF PERSONaFACEn MONOCLEaADULTaCHILDaOLDER ADULT",
  "aBEARDED PERSONaPERSONn HEADSCARFbIN STEAMY ROOMbCLIMBINGbIN LOTUS POSITIONaMAGEaFAIRYaVAMPIRE",
  "aMERPERSONaELFaGENIEaZOMBIEaBRAINaORANGE HEARTaBILLED CAPaSCARFaGLOVESaCOATaSOCKS",
  "aRED GIFT ENVELOPEaFIRECRACKERaJIGSAW PUZZLE PIECEaTEST TUBEaPETRI DISHaDNAv HELIXaCOMPASS",
  "aABACUSaFIRE EXTINGUISHERaTOOLBOXaBRICKaMAGNETaLUGGAGEaLOTION BOTTLEaSPOOL OF THREAD",
  "aBALL OF YARNaSAFETY PINaTEDDY BEARaBROOMaBASKETaROLL OF PAPERaBAR OF SOAPaSPONGEaRECEIPT",
  "aNAZAR AMULETaNEUTRAL CHESS KINGcQUEENcROOKcBISHOPcKNIGHTcPAWN",
  "a? CHESS KNIGHT ROTATED FORTY-FIVE DEGREESa< CHESS KNIGHT ROTATED FORTY-FIVE DEGREES",
  "aNEUTRAL CHESS KNIGHT ROTATED FORTY-FIVE DEGREESa? CHESS KING ROTATED NINETY DEGREES",
  "cQUEEN ROTATED NINETY DEGREEScROOK ROTATED NINETY DEGREEScBISHOP ROTATED NINETY DEGREES",
  "cKNIGHT ROTATED NINETY DEGREEScPAWN ROTATED NINETY DEGREESa< CHESS KING ROTATED NINETY DEGREES",
  "cQUEEN ROTATED NINETY DEGREEScROOK ROTATED NINETY DEGREEScBISHOP ROTATED NINETY DEGREES",
  "cKNIGHT ROTATED NINETY DEGREEScPAWN ROTATED NINETY DEGREES",
  "aNEUTRAL CHESS KING ROTATED NINETY DEGREEScQUEEN ROTATED NINETY DEGREES",
  "cROOK ROTATED NINETY DEGREEScBISHOP ROTATED NINETY DEGREEScKNIGHT ROTATED NINETY DEGREES",
  "cPAWN ROTATED NINETY DEGREESa? CHESS KNIGHT ROTATED|_ THIRTY-FIVE DEGREES",
  "a< CHESS KNIGHT ROTATED|_ THIRTY-FIVE DEGREES",
  "aNEUTRAL CHESS KNIGHT ROTATED|_ THIRTY-FIVE DEGREESa? CHESS TURNED KINGdQUEENdROOKdBISHOP",
  "dKNIGHTdPAWNa< CHESS TURNED KINGdQUEENdROOKdBISHOPdKNIGHTdPAWNaNEUTRAL CHESS TURNED KINGdQUEEN",
  "dROOKdBISHOPdKNIGHTdPAWNa? CHESS KNIGHT ROTATED^_ TWENTY-FIVE DEGREES",
  "a< CHESS KNIGHT ROTATED^_ TWENTY-FIVE DEGREES",
  "aNEUTRAL CHESS KNIGHT ROTATED^_ TWENTY-FIVE DEGREESa? CHESS KING ROTATED^_ SEVENTY DEGREES",
  "cQUEEN ROTATED^_ SEVENTY DEGREEScROOK ROTATED^_ SEVENTY DEGREES",
  "cBISHOP ROTATED^_ SEVENTY DEGREEScKNIGHT ROTATED^_ SEVENTY DEGREES",
  "cPAWN ROTATED^_ SEVENTY DEGREESa< CHESS KING ROTATED^_ SEVENTY DEGREES",
  "cQUEEN ROTATED^_ SEVENTY DEGREEScROOK ROTATED^_ SEVENTY DEGREES",
  "cBISHOP ROTATED^_ SEVENTY DEGREEScKNIGHT ROTATED^_ SEVENTY DEGREES",
  "cPAWN ROTATED^_ SEVENTY DEGREESaNEUTRAL CHESS KING ROTATED^_ SEVENTY DEGREES",
  "cQUEEN ROTATED^_ SEVENTY DEGREEScROOK ROTATED^_ SEVENTY DEGREES",
  "cBISHOP ROTATED^_ SEVENTY DEGREEScKNIGHT ROTATED^_ SEVENTY DEGREES",
  "cPAWN ROTATED^_ SEVENTY DEGREESa? CHESS KNIGHT ROTATED&_ FIFTEEN DEGREES",
  "a< CHESS KNIGHT ROTATED&_ FIFTEEN DEGREESaNEUTRAL CHESS KNIGHT ROTATED&_ FIFTEEN DEGREES",
  "a? CHESS EQUIHOPPERa< CHESS EQUIHOPPERaNEUTRAL CHESS EQUIHOPPER",
  "a? CHESS EQUIHOPPER ROTATED NINETY DEGREESa< CHESS EQUIHOPPER ROTATED NINETY DEGREES",
  "aNEUTRAL CHESS EQUIHOPPER ROTATED NINETY DEGREESa? CHESS KNIGHT-QUEENd-ROOKd-BISHOP",
  "a< CHESS KNIGHT-QUEENd-ROOKd-BISHOP@1FA60aXIANGQI RED GENERALcMANDARINcELEPHANTcHORSEcCHARIOT",
  "cCANNONcSOLDIERb< GENERALcMANDARINcELEPHANTcHORSEcCHARIOTcCANNONcSOLDIER@1FA70aBALLET SHOES",
  "a|-PIECE SWIMSUITaBRIEFSaSHORTSaTHONG SANDAL@1FA78aDROP OF BLOODaADHESIVE BANDAGEaSTETHOSCOPE",
  "aX-RAYaCRUTCH@1FA80aYO-YOaKITEaPARACHUTEaBOOMERANGaMAGIC WANDaPINATAaNESTING DOLLS",
  "@1FA90aRINGED PLANETaCHAIRaRAZORaAXEaDIYA LAMPaBANJOaMILITARY HELMETaACCORDIONaLONG DRUMaCOIN",
  "aCARPENTRY SAWaSCREWDRIVERaLADDERaHOOKaMIRRORaWINDOWaPLUNGERaSEWING NEEDLEaKNOTaBUCKET",
  "aMOUSE TRAPaTOOTHBRUSHaHEADSTONEaPLACARDaROCKaMIRROR BALLaIDENTIFICATION CARDaLOW BATTERY",
  "aHAMSA@1FAB0aFLYaWORMaBEETLEaCOCKROACHaPOTTED PLANTaWOODaFEATHERaLOTUSaCORALaEMPTY NEST",
  "aNESTn EGGS@1FAC0aANATOMICAL HEARTaLUNGSaPEOPLE HUGGINGaPREGNANT MANbPERSONaPERSONn CROWN",
  "@1FAD0aBLUEBERRIESaBELL PEPPERaOLIVEaFLATBREADaTAMALEaFONDUEaTEAPOTaPOURING LIQUIDaBEANSaJAR",
  "@1FAE0aMELTING FACEaSALUTING FACEaFACEn OPEN EYESz HAND OVER MOUTHcPEEKING EYEcDIAGONAL MOUTH",
  "aDOTTED LINE FACEaBITING LIPaBUBBLES@1FAF0aHANDn INDEX FINGERz THUMB CROSSEDay HANDa+ HAND",
  "aPALM DOWN HANDbUP HANDaINDEX POINTING AT THE VIEWERaHEART HANDS@1FB00aBLOCK SEXTANT-1c-2c-12",
  "c-3c-13c-23c-123c-4c-14c-24c-124c-34c-134c-234c-1234c-5c-15c-25c-125c-35c-235c-1235c-45c-145",
  "c-245c-1245c-345c-1345c-2345c-12345c-6c-16c-26c-126c-36c-136c-236c-1236c-46c-146c-1246c-346",
  "c-1346c-2346c-12346c-56c-156c-256c-1256c-356c-1356c-2356c-12356c-456c-1456c-2456c-12456c-3456",
  "c-13456c-23456aLOWERx BLOCK DIAGONAL LOWER]x TO LOWER CENTREjteUPPER]x TO LOWER CENTREjt",
  "fx TO LOWER CENTREbt BLOCK DIAGONAL UPPER]x TO UPPER CENTREjteLOWER]x TO UPPER CENTREjt",
  "fx TO UPPER CENTREf]x TO UPPER]tfCENTRE TO LOWER]tfx TO LOWER]tfCENTRE TO UPPER]tfx TO UPPER]t",
  "fCENTRE TO UPPERtbx BLOCK DIAGONAL UPPER CENTRE TO UPPER]tfx TO UPPER]tfCENTRE TO LOWER]t",
  "fx TO LOWER]tfCENTRE TO LOWERtf]x TO LOWER]taUPPERt BLOCK DIAGONAL LOWER]x TO LOWER CENTREjt",
  "eUPPER]x TO LOWER CENTREjtfx TO LOWER CENTREbx BLOCK DIAGONAL UPPER]x TO UPPER CENTREjt",
  "eLOWER]x TO UPPER CENTREjtfx TO UPPER CENTREf]x TO UPPER]tfCENTRE TO LOWER]tfx TO LOWER]t",
  "fCENTRE TO UPPER]tfx TO UPPER]tfCENTRE TO UPPERtbt BLOCK DIAGONAL UPPER CENTRE TO UPPER]t",
  "fx TO UPPER]tfCENTRE TO LOWER]tfx TO LOWER]tfCENTRE TO LOWERtf]x TO LOWER]t",
  "bztz LOWER TRIANGULAR& QUARTERS BLOCKaxz LOWERzt TRIANGULAR& QUARTERS BLOCK",
  "aUPPERzxz LOWER TRIANGULAR& QUARTERS BLOCKaxz UPPERzt TRIANGULAR& QUARTERS BLOCK",
  "bTRIANGULAR| QUARTER BLOCKaUPPER TRIANGULAR| QUARTER BLOCKat TRIANGULAR| QUARTER BLOCK",
  "aLOWER TRIANGULAR| QUARTER BLOCKa*| EIGHTH BLOCK-2e-3e-4e-5e-6e-7a[| EIGHTH BLOCK-2e-3e-4e-5",
  "e-6e-7axz LOWER| EIGHTH BLOCKcUPPER| EIGHTH BLOCKatz UPPER| EIGHTH BLOCKcLOWER| EIGHTH BLOCK",
  "aUPPERz LOWER| EIGHTH BLOCKa[| EIGHTH BLOCK-1358aUPPER| QUARTER BLOCKb& EIGHTHS BLOCK",
  "bFIVE EIGHTHS BLOCKb& QUARTERS BLOCKbSEVEN EIGHTHS BLOCKat| QUARTER BLOCKb& EIGHTHS BLOCK",
  "bFIVE EIGHTHS BLOCKb& QUARTERS BLOCKbSEVEN EIGHTHS BLOCKax HALF MEDIUM SHADE",
  "at HALF MEDIUM SHADEaUPPER HALF MEDIUM SHADEaLOWER HALF MEDIUM SHADEaINVERSE MEDIUM SHADE",
  "aUPPER HALF BLOCKz LOWER HALF INVERSE MEDIUM SHADEcINVERSE MEDIUM SHADEz LOWER HALF BLOCK",
  "@1FB94ax HALF INVERSE MEDIUM SHADEzt HALF BLOCKaCHECKER BOARD FILLaINVERSE CHECKER BOARD FILL",
  "aHEAVY[ FILLaUPPERx TO LOWERt FILLbt TO LOWERx FILLbz LOWER TRIANGULAR HALF BLOCK",
  "axzt TRIANGULAR HALF BLOCKaUPPERx TRIANGULAR MEDIUM SHADEbt TRIANGULAR MEDIUM SHADE",
  "aLOWERt TRIANGULAR MEDIUM SHADEbx TRIANGULAR MEDIUM SHADE",
  "aBOX DRAWINGS LIGHT DIAGONAL UPPER CENTRE TO]xite]x TO LOWER CENTREft TO LOWER CENTRE",
  "eUPPER CENTRE TO]x TO LOWER CENTREit TO LOWER CENTREe]x TO LOWER CENTRE TO]thUPPER CENTRE TO]t",
  "eUPPER CENTRE TO]xz]t TO LOWER CENTREitz]x TO LOWER CENTREjTO LOWER CENTRE TO]x",
  "ix TO LOWER CENTRE TO]te]x TO UPPER CENTRE TO]t TO LOWER CENTRE",
  "ft TO UPPER CENTRE TO]x TO LOWER CENTREeDIAMONDd[n*.aARROWHEAD-SHAPED POINTERaINVERSE CHECK>",
  "ax HALF RUNNING MANat HALF RUNNING MANaINVERSE DOWNWARDSrn TIP+a+rz UPPERz LOWER| EIGHTH BLOCK",
  "ayrz UPPERz LOWER| EIGHTH BLOCKaDOWNWARDSrzt| EIGHTH BLOCKaUPWARDSrzt| EIGHTH BLOCK",
  "ax HALF FOLDERat HALF FOLDERaVOIDED GREEK CROSSat OPEN SQUARED DOTaNEGATIVE DIAGONAL CROSS",
  "c]t TO LOWER CENTREcDIAMONDa? HEAVY SALTIREn ROUNDED CORNERSax THIRD?t POINTING INDEX",
  "a] THIRD?t POINTING INDEXat THIRD?t POINTING INDEXaNEGATIVE SQUARED QUESTION>aSTICK FIGURE",
  "cn ARMS RAISEDcLEANINGxdtcn DRESSa? UP-POINTING CHEVRON@1FBF0aSEGMENTED DIGIT ZEROc|c^c&cFOUR",
  "cFIVEcSIXcSEVENcEIGHTcNINE@2F800aCJK COMPATIBILITY IDEOGRAPH-2F800d-2F801d-2F802d-2F803d-2F804",
  "d-2F805d-2F806d-2F807d-2F808d-2F809d-2F80Ad-2F80Bd-2F80Cd-2F80Dd-2F80Ed-2F80Fd-2F810d-2F811",
  "d-2F812d-2F813d-2F814d-2F815d-2F816d-2F817d-2F818d-2F819d-2F81Ad-2F81Bd-2F81Cd-2F81Dd-2F81E",
  "d-2F81Fd-2F820d-2F821d-2F822d-2F823d-2F824d-2F825d-2F826d-2F827d-2F828d-2F829d-2F82Ad-2F82B",
  "d-2F82Cd-2F82Dd-2F82Ed-2F82Fd-2F830d-2F831d-2F832d-2F833d-2F834d-2F835d-2F836d-2F837d-2F838",
  "d-2F839d-2F83Ad-2F83Bd-2F83Cd-2F83Dd-2F83Ed-2F83Fd-2F840d-2F841d-2F842d-2F843d-2F844d-2F845",
  "d-2F846d-2F847d-2F848d-2F849d-2F84Ad-2F84Bd-2F84Cd-2F84Dd-2F84Ed-2F84Fd-2F850d-2F851d-2F852",
  "d-2F853d-2F854d-2F855d-2F856d-2F857d-2F858d-2F859d-2F85Ad-2F85Bd-2F85Cd-2F85Dd-2F85Ed-2F85F",
  "d-2F860d-2F861d-2F862d-2F863d-2F864d-2F865d-2F866d-2F867d-2F868d-2F869d-2F86Ad-2F86Bd-2F86C",
  "d-2F86Dd-2F86Ed-2F86Fd-2F870d-2F871d-2F872d-2F873d-2F874d-2F875d-2F876d-2F877d-2F878d-2F879",
  "d-2F87Ad-2F87Bd-2F87Cd-2F87Dd-2F87Ed-2F87Fd-2F880d-2F881d-2F882d-2F883d-2F884d-2F885d-2F886",
  "d-2F887d-2F888d-2F889d-2F88Ad-2F88Bd-2F88Cd-2F88Dd-2F88Ed-2F88Fd-2F890d-2F891d-2F892d-2F893",
  "d-2F894d-2F895d-2F896d-2F897d-2F898d-2F899d-2F89Ad-2F89Bd-2F89Cd-2F89Dd-2F89Ed-2F89Fd-2F8A0",
  "d-2F8A1d-2F8A2d-2F8A3d-2F8A4d-2F8A5d-2F8A6d-2F8A7d-2F8A8d-2F8A9d-2F8AAd-2F8ABd-2F8ACd-2F8AD",
  "d-2F8AEd-2F8AFd-2F8B0d-2F8B1d-2F8B2d-2F8B3d-2F8B4d-2F8B5d-2F8B6d-2F8B7d-2F8B8d-2F8B9d-2F8BA",
  "d-2F8BBd-2F8BCd-2F8BDd-2F8BEd-2F8BFd-2F8C0d-2F8C1d-2F8C2d-2F8C3d-2F8C4d-2F8C5d-2F8C6d-2F8C7",
  "d-2F8C8d-2F8C9d-2F8CAd-2F8CBd-2F8CCd-2F8CDd-2F8CEd-2F8CFd-2F8D0d-2F8D1d-2F8D2d-2F8D3d-2F8D4",
  "d-2F8D5d-2F8D6d-2F8D7d-2F8D8d-2F8D9d-2F8DAd-2F8DBd-2F8DCd-2F8DDd-2F8DEd-2F8DFd-2F8E0d-2F8E1",
  "d-2F8E2d-2F8E3d-2F8E4d-2F8E5d-2F8E6d-2F8E7d-2F8E8d-2F8E9d-2F8EAd-2F8EBd-2F8ECd-2F8EDd-2F8EE",
  "d-2F8EFd-2F8F0d-2F8F1d-2F8F2d-2F8F3d-2F8F4d-2F8F5d-2F8F6d-2F8F7d-2F8F8d-2F8F9d-2F8FAd-2F8FB",
  "d-2F8FCd-2F8FDd-2F8FEd-2F8FFd-2F900d-2F901d-2F902d-2F903d-2F904d-2F905d-2F906d-2F907d-2F908",
  "d-2F909d-2F90Ad-2F90Bd-2F90Cd-2F90Dd-2F90Ed-2F90Fd-2F910d-2F911d-2F912d-2F913d-2F914d-2F915",
  "d-2F916d-2F917d-2F918d-2F919d-2F91Ad-2F91Bd-2F91Cd-2F91Dd-2F91Ed-2F91Fd-2F920d-2F921d-2F922",
  "d-2F923d-2F924d-2F925d-2F926d-2F927d-2F928d-2F929d-2F92Ad-2F92Bd-2F92Cd-2F92Dd-2F92Ed-2F92F",
  "d-2F930d-2F931d-2F932d-2F933d-2F934d-2F935d-2F936d-2F937d-2F938d-2F939d-2F93Ad-2F93Bd-2F93C",
  "d-2F93Dd-2F93Ed-2F93Fd-2F940d-2F941d-2F942d-2F943d-2F944d-2F945d-2F946d-2F947d-2F948d-2F949",
  "d-2F94Ad-2F94Bd-2F94Cd-2F94Dd-2F94Ed-2F94Fd-2F950d-2F951d-2F952d-2F953d-2F954d-2F955d-2F956",
  "d-2F957d-2F958d-2F959d-2F95Ad-2F95Bd-2F95Cd-2F95Dd-2F95Ed-2F95Fd-2F960d-2F961d-2F962d-2F963",
  "d-2F964d-2F965d-2F966d-2F967d-2F968d-2F969d-2F96Ad-2F96Bd-2F96Cd-2F96Dd-2F96Ed-2F96Fd-2F970",
  "d-2F971d-2F972d-2F973d-2F974d-2F975d-2F976d-2F977d-2F978d-2F979d-2F97Ad-2F97Bd-2F97Cd-2F97D",
  "d-2F97Ed-2F97Fd-2F980d-2F981d-2F982d-2F983d-2F984d-2F985d-2F986d-2F987d-2F988d-2F989d-2F98A",
  "d-2F98Bd-2F98Cd-2F98Dd-2F98Ed-2F98Fd-2F990d-2F991d-2F992d-2F993d-2F994d-2F995d-2F996d-2F997",
  "d-2F998d-2F999d-2F99Ad-2F99Bd-2F99Cd-2F99Dd-2F99Ed-2F99Fd-2F9A0d-2F9A1d-2F9A2d-2F9A3d-2F9A4",
  "d-2F9A5d-2F9A6d-2F9A7d-2F9A8d-2F9A9d-2F9AAd-2F9ABd-2F9ACd-2F9ADd-2F9AEd-2F9AFd-2F9B0d-2F9B1",
  "d-2F9B2d-2F9B3d-2F9B4d-2F9B5d-2F9B6d-2F9B7d-2F9B8d-2F9B9d-2F9BAd-2F9BBd-2F9BCd-2F9BDd-2F9BE",
  "d-2F9BFd-2F9C0d-2F9C1d-2F9C2d-2F9C3d-2F9C4d-2F9C5d-2F9C6d-2F9C7d-2F9C8d-2F9C9d-2F9CAd-2F9CB",
  "d-2F9CCd-2F9CDd-2F9CEd-2F9CFd-2F9D0d-2F9D1d-2F9D2d-2F9D3d-2F9D4d-2F9D5d-2F9D6d-2F9D7d-2F9D8",
  "d-2F9D9d-2F9DAd-2F9DBd-2F9DCd-2F9DDd-2F9DEd-2F9DFd-2F9E0d-2F9E1d-2F9E2d-2F9E3d-2F9E4d-2F9E5",
  "d-2F9E6d-2F9E7d-2F9E8d-2F9E9d-2F9EAd-2F9EBd-2F9ECd-2F9EDd-2F9EEd-2F9EFd-2F9F0d-2F9F1d-2F9F2",
  "d-2F9F3d-2F9F4d-2F9F5d-2F9F6d-2F9F7d-2F9F8d-2F9F9d-2F9FAd-2F9FBd-2F9FCd-2F9FDd-2F9FEd-2F9FF",
  "d-2FA00d-2FA01d-2FA02d-2FA03d-2FA04d-2FA05d-2FA06d-2FA07d-2FA08d-2FA09d-2FA0Ad-2FA0Bd-2FA0C",
  "d-2FA0Dd-2FA0Ed-2FA0Fd-2FA10d-2FA11d-2FA12d-2FA13d-2FA14d-2FA15d-2FA16d-2FA17d-2FA18d-2FA19",
  "d-2FA1Ad-2FA1Bd-2FA1Cd-2FA1D@E0001aLANGUAGE TAG@E0020aTAG SPACEbEXCLAMATION>bQUOTATION>",
  "bNUMBERsbDOLLARsbPERCENTsbAMPERSANDbAPOSTROPHEbx PARENTHESISbt PARENTHESISbASTERISKbPLUSs",
  "bCOMMAbHYPHEN-MINUSbFULL STOPbSOLIDUSbDIGIT ZEROc|c^c&cFOURcFIVEcSIXcSEVENcEIGHTcNINEbCOLON",
  "bSEMICOLONbLESS-THANsbEQUALSsbGREATER-THANsbQUESTION>bCOMMERCIAL ATbLATINom AeBeCeDeEeFeGeHeI",
  "eJeKeLeMeNeOePeQeReSeTeUeVeWeXeYeZbx SQUARE~bREVERSE SOLIDUSbt SQUARE~bCIRCUMFLEX ACCENT",
  "bLOW LINEbGRAVE ACCENTbLATINpm AeBeCeDeEeFeGeHeIeJeKeLeMeNeOePeQeReSeTeUeVeWeXeYeZbx CURLY~",
  "b* LINEbt CURLY~bTILDEaCANCEL TAG@E0100aVARIATION SELECTOR-17c-18c-19c-20c-21c-22c-23c-24c-25",
  "c-26c-27c-28c-29c-30c-31c-32c-33c-34c-35c-36c-37c-38c-39c-40c-41c-42c-43c-44c-45c-46c-47c-48",
  "c-49c-50c-51c-52c-53c-54c-55c-56c-57c-58c-59c-60c-61c-62c-63c-64c-65c-66c-67c-68c-69c-70c-71",
  "c-72c-73c-74c-75c-76c-77c-78c-79c-80c-81c-82c-83c-84c-85c-86c-87c-88c-89c-90c-91c-92c-93c-94",
  "c-95c-96c-97c-98c-99c-100c-101c-102c-103c-104c-105c-106c-107c-108c-109c-110c-111c-112c-113",
  "c-114c-115c-116c-117c-118c-119c-120c-121c-122c-123c-124c-125c-126c-127c-128c-129c-130c-131",
  "c-132c-133c-134c-135c-136c-137c-138c-139c-140c-141c-142c-143c-144c-145c-146c-147c-148c-149",
  "c-150c-151c-152c-153c-154c-155c-156c-157c-158c-159c-160c-161c-162c-163c-164c-165c-166c-167",
  "c-168c-169c-170c-171c-172c-173c-174c-175c-176c-177c-178c-179c-180c-181c-182c-183c-184c-185",
  "c-186c-187c-188c-189c-190c-191c-192c-193c-194c-195c-196c-197c-198c-199c-200c-201c-202c-203",
  "c-204c-205c-206c-207c-208c-209c-210c-211c-212c-213c-214c-215c-216c-217c-218c-219c-220c-221",
  "c-222c-223c-224c-225c-226c-227c-228c-229c-230c-231c-232c-233c-234c-235c-236c-237c-238c-239",
  "c-240c-241c-242c-243c-244c-245c-246c-247c-248c-249c-250c-251c-252c-253c-254c-255c-256"]

end ContentModel.Text.CharName
