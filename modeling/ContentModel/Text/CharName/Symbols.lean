/-!
# Names of symbols

The names of the characters from U+2000 to U+2FFF: punctuation, symbols, Braille patterns, and
the letters among them.
-/

namespace ContentModel.Text.CharName

/-- The table of these names, as `CharName.find?` reads it. -/
def symbols : List String := [
  "@2000aEN QUADaEM QUADaEN SPACEaEM SPACEa&-PER-EM SPACEaFOUR-PER-EM SPACEaSIX-PER-EM SPACE",
  "aFIGURE SPACEaPUNCTUATION SPACEaTHIN SPACEaHAIR SPACEaZERO WIDTH SPACEcNON-JOINERcJOINER",
  "ax-TO-RIGHT>at-TO-LEFT>aHYPHENaNON-BREAKING HYPHENaFIGURE DASHaEN DASHaEM DASHa[ BARav* LINE",
  "bLOW LINEax SINGLE QUOTATION>at SINGLE QUOTATION>aSINGLE LOW-9 QUOTATION>",
  "bHIGH-REVERSED-9 QUOTATION>axv QUOTATION>atv QUOTATION>av LOW-9 QUOTATION>",
  "bHIGH-REVERSED-9 QUOTATION>aDAGGERav DAGGERaBULLETaTRIANGULAR BULLETa| DOT LEADERa^ DOT LEADER",
  "a[ ELLIPSISaHYPHENATION POINTaLINE SEPARATORaPARAGRAPH SEPARATORax-TO-RIGHT EMBEDDING",
  "at-TO-LEFT EMBEDDINGaPOP DIRECTIONAL FORMATTINGax-TO-RIGHT OVERRIDEat-TO-LEFT OVERRIDE",
  "aNARROW NO-BREAK SPACEaPER MILLEsbTEN THOUSANDsaPRIMEav PRIMEaTRIPLE PRIMEaREVERSED PRIME",
  "bv PRIMEbTRIPLE PRIMEaCARETaSINGLEx-POINTING ANGLE QUOTATION>bt-POINTING ANGLE QUOTATION>",
  "aREFERENCE>av EXCLAMATION>aINTERROBANGaOVERLINEaUNDERTIEaCHARACTER TIEaCARET INSERTION POINT",
  "aASTERISMaHYPHEN BULLETaFRACTION SLASHax SQUARE~n QUILLat SQUARE~n QUILLav QUESTION>",
  "aQUESTION EXCLAMATION>aEXCLAMATION QUESTION>aTIRONIANs ETaREVERSED PILCROWsa<+ BULLETby BULLET",
  "aLOW ASTERISKaREVERSED SEMICOLONaCLOSE UPa^ ASTERISKS ALIGNED VERTICALLYaCOMMERCIAL MINUSs",
  "aSWUNG DASHaINVERTED UNDERTIEaFLOWER PUNCTUATION>a& DOT PUNCTUATIONaQUADRUPLE PRIME",
  "aFOUR DOT PUNCTUATIONaFIVE DOT PUNCTUATIONa^ DOT PUNCTUATIONaFOUR DOT>aDOTTED CROSSaTRICOLON",
  "a* FOUR DOTSaMEDIUM MATHEMATICAL SPACEaWORD JOINERaFUNCTION APPLICATIONaINVISIBLE TIMES",
  "bSEPARATORbPLUS@2066ax-TO-RIGHT ISOLATEat-TO-LEFT ISOLATEaFIRST STRONG ISOLATE",
  "aPOP DIRECTIONAL ISOLATEaINHIBIT SYMMETRIC SWAPPINGaACTIVATE SYMMETRIC SWAPPING",
  "aINHIBIT ARABICq SHAPINGaACTIVATE ARABICq SHAPINGaNATIONAL DIGIT SHAPESaNOMINAL DIGIT SHAPES",
  "aSUPERSCRIPT ZERObLATINpm I@2074bFOURbFIVEbSIXbSEVENbEIGHTbNINEbPLUSsbMINUSbEQUALSs",
  "bx PARENTHESISbt PARENTHESISbLATINpm NaSUBSCRIPT ZEROb|b^b&bFOURbFIVEbSIXbSEVENbEIGHTbNINE",
  "bPLUSsbMINUSbEQUALSsbx PARENTHESISbt PARENTHESIS@2090aLATIN SUBSCRIPTpm AeEeOeXeSCHWAeHeKeLeM",
  "eNePeSeT@20A0aEURO-CURRENCYsaCOLONsaCRUZEIROsaFRENCH FRANCsaLIRAsaMILLsaNAIRAsaPESETAsaRUPEEs",
  "aWONsaNEW SHEQELsaDONGsaEUROsaKIPsaTUGRIKsaDRACHMAsaGERMAN PENNYsaPESOsaGUARANIsaAUSTRALs",
  "aHRYVNIAsaCEDIsaLIVRE TOURNOISsaSPESMILOsaTENGEsaINDIAN RUPEEsaTURKISH LIRAsaNORDIC>saMANATs",
  "aRUBLEsaLARIsaBITCOINsaSOMs@20D0aCOMBININGx HARPOONubt HARPOONubLONG* LINE OVERLAY",
  "bSHORT* LINE OVERLAYbANTICLOCKWISErubCLOCKWISErubxrubtrubRING OVERLAYbCLOCKWISE RING OVERLAY",
  "bANTICLOCKWISE RING OVERLAYb& DOTSubFOUR DOTSubENCLOSING CIRCLEcSQUAREcDIAMOND",
  "cCIRCLE BACKSLASHbxtrubENCLOSING SCREENcKEYCAPcUPWARD POINTING%bREVERSE SOLIDUS OVERLAY",
  "bv*. OVERLAYbANNUITY;bTRIPLE UNDERDOTbWIDE BRIDGEub+r OVERLAYbLONGv SOLIDUS OVERLAY",
  "by HARPOONn BARB DOWNWARDSb+ HARPOONn BARB DOWNWARDSbxr!btr!bASTERISKu@2100aACCOUNT OF",
  "aADDRESSED TO THE SUBJECTav-STRUCKo CaDEGREE CELSIUSaCENTRE LINE;aCARE OFaCADA UNA",
  "aEULER CONSTANTaSCRUPLEaDEGREE FAHRENHEITaSCRIPTp Gbo Ha<-LETTERo Hav-STRUCKo H",
  "aPLANCK CONSTANTcOVER^ PIaSCRIPTo Ia<-LETTERo IaSCRIPTo Lbp LaL B BAR;av-STRUCKo NaNUMEROs",
  "aSOUND RECORDING COPYRIGHTaSCRIPTo Pav-STRUCKo PdQaSCRIPTo Ra<-LETTERo Rav-STRUCKo R",
  "aPRESCRIPTION TAKEaRESPONSEaSERVICE>aTELEPHONEsaTRADE>saVERSICLEav-STRUCKo ZaOUNCEsaOHMs",
  "aINVERTED OHMsa<-LETTERo ZaTURNED GREEKpm IOTAaKELVINsaANGSTROMsaSCRIPTo Ba<-LETTERo C",
  "aESTIMATED;aSCRIPTp Ebo EcFaTURNEDo FaSCRIPTo Mbp OaALEF;aBET;aGIMEL;aDALET;",
  "aINFORMATION SOURCEaROTATEDo QaFACSIMILEsav-STRUCKp PIdGAMMAco GAMMAdPIcN-ARY SUMMATION",
  "aTURNED SANS-SERIFo GeLaREVERSED SANS-SERIFo LaTURNED SANS-SERIFo Yav-STRUCK ITALICo Ddp DeEeI",
  "eJaPROPERTY LINEaTURNED AMPERSANDaPERsaAKTIESELSKABaTURNEDp Fa; FOR SAMARITAN SOURCE",
  "aVULGAR FRACTION| SEVENTHdNINTHdTENTHdTHIRDc^ THIRDSc| FIFTHc^ FIFTHSc& FIFTHScFOUR FIFTHS",
  "c| SIXTHcFIVE SIXTHSc| EIGHTHc& EIGHTHScFIVE EIGHTHScSEVEN EIGHTHSaFRACTION NUMERATOR|",
  "aROMAN NUMERAL|c^c&cFOURcFIVEcSIXcSEVENcEIGHTcNINEcTENcELEVENcTWELVEcFIFTYc|_cFIVE_c| THOUSAND",
  "ap ROMAN NUMERAL|d^d&dFOURdFIVEdSIXdSEVENdEIGHTdNINEdTENdELEVENdTWELVEdFIFTYd|_dFIVE_",
  "d| THOUSANDaROMAN NUMERAL| THOUSAND C DcFIVE THOUSANDcTEN THOUSANDcREVERSED|_",
  "aLATINpm REVERSED CaROMAN NUMERAL SIX LATEqcFIFTY EARLYqdTHOUSANDc|_ THOUSAND",
  "aVULGAR FRACTION ZERO THIRDSaTURNED DIGIT^c&@2190a+raUPWARDSrayraDOWNWARDSraxtraUP DOWNr",
  "aNORTH WESTrbEASTraSOUTH EASTrbWESTra+rn.ayrn.a+ WAVEray WAVEra+^ HEADEDraUPWARDS^ HEADEDr",
  "ay^ HEADEDraDOWNWARDS^ HEADEDra+rn TAILayrn TAILa+r FROM BARaUPWARDSr FROM BARayr FROM BAR",
  "aDOWNWARDSr FROM BARaUP DOWNrn BASEa+rn HOOKayrn HOOKa+rn LOOPayrn LOOPaxt WAVErcrn.",
  "aDOWNWARDS ZIGZAGraUPWARDSrn TIP+eyaDOWNWARDSrn TIP+eyayrn CORNER DOWNWARDS",
  "aDOWNWARDSrn CORNER+aANTICLOCKWISE TOP SEMICIRCLEraCLOCKWISE TOP SEMICIRCLEr",
  "aNORTH WESTr TO LONG BARa+r TO BAR OVERyr TO BARaANTICLOCKWISE OPEN CIRCLEr",
  "aCLOCKWISE OPEN CIRCLEra+ HARPOONn BARB UPWARDSeDOWNWARDSaUPWARDS HARPOONn BARBye+",
  "ay HARPOONn BARB UPWARDSeDOWNWARDSaDOWNWARDS HARPOONn BARBye+ayr OVER+r",
  "aUPWARDSr+ OF DOWNWARDSra+r OVERyrbPAIRED ARROWSaUPWARDS PAIRED ARROWSay PAIRED ARROWS",
  "aDOWNWARDS PAIRED ARROWSa+ HARPOON OVERy HARPOONay HARPOON OVER+ HARPOONa+vrn.axtvrn.ayvrn.",
  "a+vraUPWARDSvrayvraDOWNWARDSvraxtvraUP DOWNvraNORTH WESTvrbEASTvraSOUTH EASTvrbWESTvr",
  "a+ TRIPLEray TRIPLEra+ SQUIGGLEray SQUIGGLEraUPWARDSrnv.aDOWNWARDSrnv.a+ DASHEDr",
  "aUPWARDS DASHEDray DASHEDraDOWNWARDS DASHEDra+r TO BARayr TO BARa+?raUPWARDS?ray?raDOWNWARDS?r",
  "aUPWARDS?r FROM BARdON PEDESTALfn[ BARg* BARcvreON PEDESTALay?r FROM WALL",
  "aNORTH WESTr TO CORNERaSOUTH EASTr TO CORNERaUP DOWN?ratrnp CIRCLEaDOWNWARDSr+ OF UPWARDSr",
  "a&y ARROWSa+rn*.ayrn*.axtrn*.a+rnv*.ayrnv*.axtrnv*.a+ OPEN-HEADEDray OPEN-HEADEDr",
  "axt OPEN-HEADEDraFOR ALLaCOMPLEMENTaPARTIAL DIFFERENTIALaTHERE EXISTSbDOES NOT EXISTaEMPTY SET",
  "aINCREMENTaNABLAaELEMENT OFaNOT AN ELEMENT OFap ELEMENT OFaCONTAINS AS MEMBER",
  "aDOES NOT CONTAIN AS MEMBERap CONTAINS AS MEMBERaEND OF PROOFaN-ARY PRODUCTcCOPRODUCT",
  "cSUMMATIONaMINUSsb-OR-PLUSsaDOT PLUSaDIVISION SLASHaSET MINUSaASTERISK OPERATORaRING OPERATOR",
  "aBULLET OPERATORaSQUARE ROOTaCUBE ROOTaFOURTH ROOTaPROPORTIONAL TOaINFINITYat ANGLEaANGLE",
  "aMEASURED ANGLEaSPHERICAL ANGLEaDIVIDESaDOES NOT DIVIDEaPARALLEL TOaNOT PARALLEL TOaLOGICALz",
  "bORaINTERSECTIONaUNIONaINTEGRALav INTEGRALaTRIPLE INTEGRALaCONTOUR INTEGRALaSURFACE INTEGRAL",
  "aVOLUME INTEGRALaCLOCKWISE INTEGRALbCONTOUR INTEGRALaANTICLOCKWISE CONTOUR INTEGRALaTHEREFORE",
  "aBECAUSEaRATIOaPROPORTIONaDOT MINUSaEXCESSaGEOMETRIC PROPORTIONaHOMOTHETICaTILDE OPERATOR",
  "aREVERSED TILDEaINVERTED LAZY SaSINE WAVEaWREATH PRODUCTaNOT TILDEaMINUS TILDE",
  "aASYMPTOTICALLY EQUAL TOaNOT ASYMPTOTICALLY EQUAL TOaAPPROXIMATELY EQUAL TO",
  "bBUT NOT ACTUALLY EQUAL TOaNEITHER APPROXIMATELY NOR ACTUALLY EQUAL TOaALMOST EQUAL TO",
  "aNOT ALMOST EQUAL TOaALMOST EQUAL OR EQUAL TOaTRIPLE TILDEaALL EQUAL TOaEQUIVALENT TO",
  "aGEOMETRICALLY EQUIVALENT TOaDIFFERENCE BETWEENaAPPROACHES THE LIMITaGEOMETRICALLY EQUAL TO",
  "aAPPROXIMATELY EQUAL TO OR THE IMAGE OFaIMAGE OF OR APPROXIMATELY EQUAL TOaCOLON EQUALS",
  "aEQUALS COLONaRING IN EQUAL TObEQUAL TOaCORRESPONDS TOaESTIMATESaEQUIANGULAR TOaSTAR EQUALS",
  "aDELTA EQUAL TOaEQUAL TO BY DEFINITIONaMEASURED BYaQUESTIONED EQUAL TOaNOT EQUAL TO",
  "aIDENTICAL TOaNOT IDENTICAL TOaSTRICTLY EQUIVALENT TOaLESS-THAN OR EQUAL TO",
  "aGREATER-THAN OR EQUAL TOaLESS-THAN OVER EQUAL TOaGREATER-THAN OVER EQUAL TO",
  "aLESS-THAN BUT NOT EQUAL TOaGREATER-THAN BUT NOT EQUAL TOaMUCH LESS-THANbGREATER-THANaBETWEEN",
  "aNOT EQUIVALENT TObLESS-THANbGREATER-THANaNEITHER LESS-THAN NOR EQUAL TO",
  "bGREATER-THAN NOR EQUAL TOaLESS-THAN OR EQUIVALENT TOaGREATER-THAN OR EQUIVALENT TO",
  "aNEITHER LESS-THAN NOR EQUIVALENT TObGREATER-THAN NOR EQUIVALENT TOaLESS-THAN OR GREATER-THAN",
  "aGREATER-THAN OR LESS-THANaNEITHER LESS-THAN NOR GREATER-THANbGREATER-THAN NOR LESS-THAN",
  "aPRECEDESaSUCCEEDSaPRECEDES OR EQUAL TOaSUCCEEDS OR EQUAL TOaPRECEDES OR EQUIVALENT TO",
  "aSUCCEEDS OR EQUIVALENT TOaDOES NOT PRECEDEcSUCCEEDaSUBSET OFaSUPERSET OFaNOT A SUBSET OF",
  "cSUPERSET OFaSUBSET OF OR EQUAL TOaSUPERSET OF OR EQUAL TOaNEITHER A SUBSET OF NOR EQUAL TO",
  "cSUPERSET OF NOR EQUAL TOaSUBSET OFn NOT EQUAL TOaSUPERSET OFn NOT EQUAL TOaMULTISET",
  "bMULTIPLICATIONbUNIONaSQUARE IMAGE OFbORIGINAL OFbIMAGE OF OR EQUAL TObORIGINAL OF OR EQUAL TO",
  "bCAPbCUPaCIRCLED PLUSbMINUSbTIMESbDIVISION SLASHbDOT OPERATORbRING OPERATORbASTERISK OPERATOR",
  "bEQUALSbDASHaSQUARED PLUSbMINUSbTIMESbDOT OPERATORat TACKax TACKaDOWN TACKaUP TACKaASSERTION",
  "aMODELSaTRUEaFORCESaTRIPLE* BARt TURNSTILEav* BARvt TURNSTILEaDOES NOT PROVEaNOT TRUE",
  "aDOES NOT FORCEaNEGATEDv* BARvt TURNSTILEaPRECEDES UNDER RELATIONaSUCCEEDS UNDER RELATION",
  "aNORMAL SUBGROUP OFaCONTAINS AS NORMAL SUBGROUPaNORMAL SUBGROUP OF OR EQUAL TO",
  "aCONTAINS AS NORMAL SUBGROUP OR EQUAL TOaORIGINAL OFaIMAGE OFaMULTIMAP",
  "aHERMITIAN CONJUGATE MATRIXaINTERCALATEaXORaNANDaNORat ANGLEn ARCb%aN-ARY LOGICALzdOR",
  "cINTERSECTIONcUNIONaDIAMOND OPERATORaDOT OPERATORaSTAR OPERATORaDIVISION TIMESaBOWTIE",
  "ax NORMAL FACTOR SEMIDIRECT PRODUCTat NORMAL FACTOR SEMIDIRECT PRODUCTax SEMIDIRECT PRODUCT",
  "at SEMIDIRECT PRODUCTaREVERSED TILDE EQUALSaCURLY LOGICAL ORczav SUBSETbSUPERSETbINTERSECTION",
  "bUNIONaPITCHFORKaEQUALz PARALLEL TOaLESS-THANn DOTaGREATER-THANn DOTaVERY MUCH LESS-THAN",
  "cGREATER-THANaLESS-THAN EQUAL TO OR GREATER-THANaGREATER-THAN EQUAL TO OR LESS-THAN",
  "aEQUAL TO OR LESS-THANdGREATER-THANdPRECEDESdSUCCEEDSaDOES NOT PRECEDE OR EQUAL",
  "cSUCCEED OR EQUALaNOT SQUARE IMAGE OF OR EQUAL TOcORIGINAL OF OR EQUAL TO",
  "aSQUARE IMAGE OF OR NOT EQUAL TObORIGINAL OF OR NOT EQUAL TOaLESS-THAN BUT NOT EQUIVALENT TO",
  "aGREATER-THAN BUT NOT EQUIVALENT TOaPRECEDES BUT NOT EQUIVALENT TO",
  "aSUCCEEDS BUT NOT EQUIVALENT TOaNOT NORMAL SUBGROUP OFaDOES NOT CONTAIN AS NORMAL SUBGROUP",
  "aNOT NORMAL SUBGROUP OF OR EQUAL TOaDOES NOT CONTAIN AS NORMAL SUBGROUP OR EQUALa* ELLIPSIS",
  "aMIDLINE[ ELLIPSISaUPt DIAGONAL ELLIPSISaDOWNt DIAGONAL ELLIPSISaELEMENT OFn LONG[.",
  "d* BAR AT END OF[.ap ELEMENT OFn* BAR AT END OF[.aELEMENT OFn DOTudOVERBAR",
  "ap ELEMENT OFn OVERBARaELEMENT OFn UNDERBARd^[ STROKESaCONTAINSn LONG[.c* BAR AT END OF[.",
  "ap CONTAINSn* BAR AT END OF[.aCONTAINSn OVERBARap CONTAINSn OVERBARaZ NOTATION BAG MEMBERSHIP",
  "aDIAMETERsaELECTRICraHOUSEaUP ARROWHEADaDOWN ARROWHEADaPROJECTIVEaPERSPECTIVEaWAVY LINE",
  "ax CEILINGat CEILINGax FLOORat FLOORaBOTTOMt CROPbx CROPaTOPt CROPbx CROPaREVERSED NOTs",
  "aSQUARE LOZENGEaARCaSEGMENTaSECTORaTELEPHONE RECORDERaPOSITION INDICATORaVIEWDATA SQUARE",
  "aPLACE OF INTERESTsaTURNED NOTsaWATCHaHOURGLASSaTOPx CORNERbt CORNERaBOTTOMx CORNERbt CORNER",
  "aTOP HALF INTEGRALaBOTTOM HALF INTEGRALaFROWNaSMILEaUP ARROWHEAD BETWEEN^[ BARSaOPTION KEY",
  "aERASE TO THEtaX IN A RECTANGLE BOXaKEYBOARDax-POINTING ANGLE~at-POINTING ANGLE~aERASE TO THEx",
  "aBENZENE RINGaCYLINDRICITYaALL AROUND-PROFILEaSYMMETRYaTOTAL RUNOUTaDIMENSION ORIGIN",
  "aCONICAL TAPERaSLOPEaCOUNTERBOREaCOUNTERSINKaAPL FUNCTIONAL; I-BEAMdSQUISH QUADdQUAD EQUAL",
  "eDIVIDEeDIAMONDeJOTeCIRCLEdCIRCLE STILEeJOTdSLASH BARdBACKSLASH BARdQUAD SLASHeBACKSLASH",
  "eLESS-THANeGREATER-THANd+ VANEdy VANEdQUAD+reyrdCIRCLE BACKSLASHdDOWN TACK UNDERBAR",
  "dDELTA STILEdQUAD DOWN CARETeDELTAdDOWN TACK JOTdUPWARDS VANEdQUAD UPWARDSrdUP TACK OVERBAR",
  "dDEL STILEdQUAD UP CARETeDELdUP TACK JOTdDOWNWARDS VANEdQUAD DOWNWARDSrdQUOTE UNDERBAR",
  "dDELTA UNDERBARdDIAMOND UNDERBARdJOT UNDERBARdCIRCLE UNDERBARdUP SHOE JOTdQUOTE QUAD",
  "dCIRCLE STARdQUAD COLONdUP TACK DIAERESISdDEL DIAERESISdSTAR DIAERESISdJOT DIAERESIS",
  "dCIRCLE DIAERESISdDOWN SHOE STILEdx SHOE STILEdTILDE DIAERESISdGREATER-THAN DIAERESIS",
  "dCOMMA BARdDEL TILDEdZILDEdSTILE TILDEdSEMICOLON UNDERBARdQUAD NOT EQUALeQUESTION",
  "dDOWN CARET TILDEdUP CARET TILDEdIOTAdRHOdOMEGAdALPHA UNDERBARdEPSILON UNDERBARdIOTA UNDERBAR",
  "dOMEGA UNDERBARdALPHAaNOT CHECK>at ANGLEn DOWNWARDS ZIGZAGraSHOULDERED OPEN BOXaBELL;",
  "a* LINEn] DOTaINSERTION;aCONTINUOUS UNDERLINE;aDISCONTINUOUS UNDERLINE;aEMPHASIS;aCOMPOSITION;",
  "a? SQUAREn CENTRE* LINEaENTER;aALTERNATIVE KEY;aHELM;aCIRCLED[ BARn NOTCHb% DOWN",
  "aBROKEN CIRCLEn NORTHWESTraUNDO;aMONOSTABLE;aHYSTERESIS;aOPEN-CIRCUIT-OUTPUT H-TYPE;dL-TYPE;",
  "aPASSIVE-PULL-DOWN-OUTPUT;c-UP-OUTPUT;aDIRECT CURRENT;q^aSOFTWARE-FUNCTION;",
  "aAPL FUNCTIONAL; QUADaDECIMAL SEPARATOR KEY;aPREVIOUS PAGEaNEXT PAGEaPRINT SCREEN;",
  "aCLEAR SCREEN;ax PARENTHESIS UPPER HOOKcEXTENSIONcLOWER HOOKat PARENTHESIS UPPER HOOK",
  "cEXTENSIONcLOWER HOOKax SQUARE~ UPPER CORNERdEXTENSIONdLOWER CORNERat SQUARE~ UPPER CORNER",
  "dEXTENSIONdLOWER CORNERax CURLY~ UPPER HOOKd] PIECEdLOWER HOOKaCURLY~ EXTENSION",
  "at CURLY~ UPPER HOOKd] PIECEdLOWER HOOKaINTEGRAL EXTENSIONa[ LINE EXTENSION",
  "aUPPERx OR LOWERt CURLY~ SECTIONbt OR LOWERx CURLY~ SECTIONaSUMMATION TOPbBOTTOMaTOP SQUARE~",
  "aBOTTOM SQUARE~dOVER TOP SQUARE~aRADICAL; BOTTOMax* BOX LINEat* BOX LINEa[ SCAN LINE-1d-3d-7",
  "d-9aDENTISTRY; LIGHT*z TOPtfBOTTOMten CIRCLEdDOWNz[n CIRCLEdUPz[n CIRCLEd*n%dDOWNz[n%dUPz[n%",
  "d*z WAVEdDOWNz[n WAVEdUPz[n WAVEdDOWNz[dUPz[d*z TOPxfBOTTOMxaSQUARE FOOTaRETURN;aEJECT;",
  "a* LINE EXTENSIONaMETRICAL BREVEbLONG OVER SHORTbSHORT OVER LONGbLONG OVER^ SHORTS",
  "b^ SHORTS OVER LONGdJOINEDbTRISEMEbTETRASEMEbPENTASEMEaEARTH GROUNDaFUSEaTOP PARENTHESIS",
  "aBOTTOM PARENTHESISaTOP CURLY~aBOTTOM CURLY~aTOP TORTOISE SHELL~aBOTTOM TORTOISE SHELL~",
  "a? TRAPEZIUMaBENZENE RINGn CIRCLEaSTRAIGHTNESSaFLATNESSaAC CURRENTaELECTRICAL INTERSECTION",
  "aDECIMAL EXPONENT;a<t-POINTINGv%bx-POINTINGv%bUP-POINTINGv%bDOWN-POINTINGv%bt-POINTINGv%n* BAR",
  "bx-POINTINGv%n* BARbt-POINTING%nv* BARaALARM CLOCKaSTOPWATCHaTIMER CLOCK",
  "aHOURGLASSn FLOWING SANDa< MEDIUMx-POINTING%ct-POINTING%cUP-POINTING%cDOWN-POINTING%av* BAR",
  "a< SQUARE FOR STOPbCIRCLE FOR RECORDaPOWER;bON-OFF;c;bSLEEP;aOBSERVER EYE;a; FOR NULL",
  "cSTART OF HEADINGeTEXTcEND OF TEXTeTRANSMISSIONcENQUIRYcACKNOWLEDGEcBELLcBACKSPACE",
  "c[ TABULATIONcLINE FEEDc* TABULATIONcq FEEDcCARRIAGE RETURNcSHIFT OUTdINcDATA LINK ESCAPE",
  "cDEVICE CONTROL|e^e&eFOURcNEGATIVE ACKNOWLEDGEcSYNCHRONOUS IDLEcEND OF TRANSMISSION BLOCK",
  "cCANCELcEND OF MEDIUMcSUBSTITUTEcESCAPEcFILE SEPARATORcGROUP SEPARATORcRECORD SEPARATOR",
  "cUNIT SEPARATORcSPACEcDELETEaBLANK;aOPEN BOXa; FOR NEWLINEcDELETEq^cSUBSTITUTEq^@2440aOCR HOOK",
  "bCHAIRbFORKbINVERTED FORKbBELT BUCKLEbBOW TIEbBRANCH BANK IDENTIFICATIONbAMOUNT OF CHECKbDASH",
  "bCUSTOMER ACCOUNT NUMBERbv BACKSLASH@2460aCIRCLED DIGIT|c^c&cFOURcFIVEcSIXcSEVENcEIGHTcNINE",
  "bNUMBER TENcELEVENcTWELVEcTHIRTEENcFOURTEENcFIFTEENcSIXTEENcSEVENTEENcEIGHTEENcNINETEENcTWENTY",
  "aPARENTHESIZED DIGIT|c^c&cFOURcFIVEcSIXcSEVENcEIGHTcNINEbNUMBER TENcELEVENcTWELVEcTHIRTEEN",
  "cFOURTEENcFIFTEENcSIXTEENcSEVENTEENcEIGHTEENcNINETEENcTWENTYaDIGIT| FULL STOPb^ FULL STOP",
  "b& FULL STOPbFOUR FULL STOPbFIVE FULL STOPbSIX FULL STOPbSEVEN FULL STOPbEIGHT FULL STOP",
  "bNINE FULL STOPaNUMBER TEN FULL STOPbELEVEN FULL STOPbTWELVE FULL STOPbTHIRTEEN FULL STOP",
  "bFOURTEEN FULL STOPbFIFTEEN FULL STOPbSIXTEEN FULL STOPbSEVENTEEN FULL STOPbEIGHTEEN FULL STOP",
  "bNINETEEN FULL STOPbTWENTY FULL STOPaPARENTHESIZED LATINpm AeBeCeDeEeFeGeHeIeJeKeLeMeNeOePeQeR",
  "eSeTeUeVeWeXeYeZaCIRCLED LATINom AeBeCeDeEeFeGeHeIeJeKeLeMeNeOePeQeReSeTeUeVeWeXeYeZcpm AeBeC",
  "eDeEeFeGeHeIeJeKeLeMeNeOePeQeReSeTeUeVeWeXeYeZbDIGIT ZEROaNEGATIVE CIRCLED NUMBER ELEVEN",
  "dTWELVEdTHIRTEENdFOURTEENdFIFTEENdSIXTEENdSEVENTEENdEIGHTEENdNINETEENdTWENTYav CIRCLED DIGIT|",
  "d^d&dFOURdFIVEdSIXdSEVENdEIGHTdNINEcNUMBER TENaNEGATIVE CIRCLED DIGIT ZEROaBOX DRAWINGS LIGHT[",
  "cHEAVY[cLIGHT*cHEAVY*cLIGHT TRIPLE DASH[cHEAVY TRIPLE DASH[cLIGHT TRIPLE DASH*",
  "cHEAVY TRIPLE DASH*cLIGHT QUADRUPLE DASH[cHEAVY QUADRUPLE DASH[cLIGHT QUADRUPLE DASH*",
  "cHEAVY QUADRUPLE DASH*cLIGHT DOWNztcDOWN LIGHTzt HEAVYdHEAVYzt LIGHTcHEAVY DOWNztcLIGHT DOWNzx",
  "cDOWN LIGHTzx HEAVYdHEAVYzx LIGHTcHEAVY DOWNzxcLIGHT UPztcUP LIGHTzt HEAVYdHEAVYzt LIGHT",
  "cHEAVY UPztcLIGHT UPzxcUP LIGHTzx HEAVYdHEAVYzx LIGHTcHEAVY UPzxcLIGHT*ztc* LIGHTzt HEAVY",
  "cUP HEAVYzt DOWN LIGHTcDOWN HEAVYzt UP LIGHTc* HEAVYzt LIGHTcDOWN LIGHTzt UP HEAVY",
  "cUP LIGHTzt DOWN HEAVYcHEAVY*ztcLIGHT*zxc* LIGHTzx HEAVYcUP HEAVYzx DOWN LIGHT",
  "cDOWN HEAVYzx UP LIGHTc* HEAVYzx LIGHTcDOWN LIGHTzx UP HEAVYcUP LIGHTzx DOWN HEAVYcHEAVY*zx",
  "cLIGHT DOWNz[cx HEAVYzt DOWN LIGHTct HEAVYzx DOWN LIGHTcDOWN LIGHTz[ HEAVYdHEAVYz[ LIGHT",
  "ct LIGHTzx DOWN HEAVYcx LIGHTzt DOWN HEAVYcHEAVY DOWNz[cLIGHT UPz[cx HEAVYzt UP LIGHT",
  "ct HEAVYzx UP LIGHTcUP LIGHTz[ HEAVYdHEAVYz[ LIGHTct LIGHTzx UP HEAVYcx LIGHTzt UP HEAVY",
  "cHEAVY UPz[cLIGHT*z[cx HEAVYzt* LIGHTct HEAVYzx* LIGHTc* LIGHTz[ HEAVYcUP HEAVYz DOWN[ LIGHT",
  "cDOWN HEAVYz UP[ LIGHTc* HEAVYz[ LIGHTcx UP HEAVYzt DOWN LIGHTct UP HEAVYzx DOWN LIGHT",
  "cx DOWN HEAVYzt UP LIGHTct DOWN HEAVYzx UP LIGHTcDOWN LIGHTz UP[ HEAVYcUP LIGHTz DOWN[ HEAVY",
  "ct LIGHTzx* HEAVYcx LIGHTzt* HEAVYcHEAVY*z[cLIGHTv DASH[cHEAVYv DASH[cLIGHTv DASH*",
  "cHEAVYv DASH*cv[d*cDOWN SINGLEztvdvzt SINGLEcv DOWNztcDOWN SINGLEzxvdvzx SINGLEcv DOWNzx",
  "cUP SINGLEztvdvzt SINGLEcv UPztcUP SINGLEzxvdvzx SINGLEcv UPzxc* SINGLEztvdvzt SINGLEcv*zt",
  "c* SINGLEzxvdvzx SINGLEcv*zxcDOWN SINGLEz[vdvz[ SINGLEcv DOWNz[cUP SINGLEz[vdvz[ SINGLEcv UPz[",
  "c* SINGLEz[vdvz[ SINGLEcv*z[cLIGHT ARC DOWNztgxeUPzxgtdDIAGONAL UPPERt TO LOWERxfx TO LOWERt",
  "eCROSSdxdUPdtdDOWNcHEAVYxdUPdtdDOWNcLIGHTxz HEAVYtdUPz HEAVY DOWNcHEAVYxz LIGHTt",
  "dUPz LIGHT DOWNaUPPER HALF BLOCKaLOWER| EIGHTH BLOCKcQUARTER BLOCKb& EIGHTHS BLOCKbHALF BLOCK",
  "bFIVE EIGHTHS BLOCKb& QUARTERS BLOCKbSEVEN EIGHTHS BLOCKaFULL BLOCKax SEVEN EIGHTHS BLOCK",
  "b& QUARTERS BLOCKbFIVE EIGHTHS BLOCKbHALF BLOCKb& EIGHTHS BLOCKb| QUARTER BLOCKcEIGHTH BLOCK",
  "at HALF BLOCKaLIGHT SHADEaMEDIUM SHADEaDARK SHADEaUPPER| EIGHTH BLOCKat| EIGHTH BLOCK",
  "aQUADRANT LOWERxctbUPPERxdz LOWERxz LOWERtfteUPPERtz LOWERxitctdz LOWERxgz LOWERta< SQUARE",
  "a? SQUAREcn ROUNDED CORNERScCONTAINING<p SQUAREaSQUAREn[ FILLc* FILL",
  "cORTHOGONAL CROSSHATCH FILLcUPPERx TO LOWERt FILLdt TO LOWERx FILLcDIAGONAL CROSSHATCH FILL",
  "a<p SQUAREa?p SQUAREa< RECTANGLEa? RECTANGLEa<* RECTANGLEa?* RECTANGLEa< PARALLELOGRAM",
  "a? PARALLELOGRAMa< UP-POINTING%a? UP-POINTING%a< UP-POINTINGp%a? UP-POINTINGp%a<t-POINTING%",
  "a?t-POINTING%a<t-POINTINGp%a?t-POINTINGp%a<t-POINTING POINTERa?t-POINTING POINTER",
  "a< DOWN-POINTING%a? DOWN-POINTING%a< DOWN-POINTINGp%a? DOWN-POINTINGp%a<x-POINTING%",
  "a?x-POINTING%a<x-POINTINGp%a?x-POINTINGp%a<x-POINTING POINTERa?x-POINTING POINTERa< DIAMOND",
  "a? DIAMONDcCONTAINING<p DIAMONDaFISHEYEaLOZENGEa? CIRCLEaDOTTED CIRCLEaCIRCLEn* FILLaBULLSEYE",
  "a< CIRCLEaCIRCLEnx HALF<ct HALF<cLOWER HALF<cUPPER HALF<dt QUADRANT<cALL BUT UPPERx QUADRANT<",
  "ax HALF< CIRCLEat HALF< CIRCLEaINVERSE BULLETb? CIRCLEaUPPER HALF INVERSE? CIRCLE",
  "aLOWER HALF INVERSE? CIRCLEaUPPERx QUADRANT CIRCULAR ARCbt QUADRANT CIRCULAR ARC",
  "aLOWERt QUADRANT CIRCULAR ARCbx QUADRANT CIRCULAR ARCaUPPER HALF CIRCLEaLOWER HALF CIRCLE",
  "a< LOWERt%cx%bUPPERx%ct%a? BULLETaSQUAREnx HALF<ct HALF<cUPPERx DIAGONAL HALF<",
  "cLOWERt DIAGONAL HALF<a? SQUAREn* BISECTING LINEbUP-POINTING%n DOTaUP-POINTING%nx HALF<",
  "et HALF<aLARGE CIRCLEa? SQUAREn UPPERx QUADRANTdLOWERx QUADRANTet QUADRANTdUPPERt QUADRANT",
  "bCIRCLEn UPPERx QUADRANTdLOWERx QUADRANTet QUADRANTdUPPERt QUADRANTaUPPERx%bt%aLOWERx%",
  "a? MEDIUM SQUAREa< MEDIUM SQUAREa? MEDIUMp SQUAREa< MEDIUMp SQUAREaLOWERt%a< SUNn RAYSaCLOUD",
  "aUMBRELLAaSNOWMANaCOMETa< STARa? STARaLIGHTNINGaTHUNDERSTORMaSUNaASCENDING NODE",
  "aDESCENDING NODEaCONJUNCTIONaOPPOSITIONa< TELEPHONEa? TELEPHONEaBALLOT BOXcn CHECKdXaSALTIRE",
  "aUMBRELLAn RAIN DROPSaHOT BEVERAGEa? SHOGI PIECEa< SHOGI PIECEaSHAMROCK",
  "aREVERSED ROTATED FLORAL HEART BULLETa<x POINTING INDEXbt POINTING INDEXa?x POINTING INDEX",
  "bUP POINTING INDEXbt POINTING INDEXbDOWN POINTING INDEXaSKULLz CROSSBONESaCAUTIONs",
  "aRADIOACTIVEsaBIOHAZARDsaCADUCEUSaANKHaORTHODOX CROSSaCHI RHOaCROSS OF LORRAINEcJERUSALEM",
  "aSTARz CRESCENTaFARSI;aADI SHAKTIaHAMMERz SICKLEaPEACE;aYIN YANGaTRIGRAM FOR HEAVENcLAKEcFIRE",
  "cTHUNDERcWINDcWATERcMOUNTAINcEARTHaWHEEL OF DHARMAa? FROWNING FACEbSMILING FACEa< SMILING FACE",
  "a? SUNn RAYSaFIRST QUARTER MOONaLAST QUARTER MOONaMERCURYaFEMALEsaEARTHaMALEsaJUPITERaSATURN",
  "aURANUSaNEPTUNEaPLUTOaARIESaTAURUSaGEMINIaCANCERaLEOaVIRGOaLIBRAaSCORPIUSaSAGITTARIUS",
  "aCAPRICORNaAQUARIUSaPISCESa? CHESS KINGcQUEENcROOKcBISHOPcKNIGHTcPAWNa< CHESS KINGcQUEENcROOK",
  "cBISHOPcKNIGHTcPAWNbSPADE SUITa? HEART SUITbDIAMOND SUITa< CLUB SUITa? SPADE SUITa< HEART SUIT",
  "bDIAMOND SUITa? CLUB SUITaHOT SPRINGSaQUARTER NOTEaEIGHTH NOTEaBEAMED EIGHTH NOTES",
  "bSIXTEENTH NOTESaMUSIC FLATsbNATURALsbSHARPsaWEST SYRIAC CROSSaEAST SYRIAC CROSS",
  "aUNIVERSAL RECYCLING;aRECYCLING; FOR TYPE-1 PLASTICSe-2 PLASTICSe-3 PLASTICSe-4 PLASTICS",
  "e-5 PLASTICSe-6 PLASTICSe-7 PLASTICSdGENERIC MATERIALSa< UNIVERSAL RECYCLING;aRECYCLED PAPER;",
  "aPARTIALLY-RECYCLED PAPER;aPERMANENT PAPERsaWHEELCHAIR;aDIE FACE-1c-2c-3c-4c-5c-6",
  "a? CIRCLEn DOTtd^ DOTSa< CIRCLEn? DOTtd^? DOTSaMONOGRAM FOR YANGcYINaDIGRAM FOR GREATER YANG",
  "cLESSER YINdYANGcGREATER YINa? FLAGa< FLAGaHAMMERz PICKaANCHORaCROSSED SWORDS",
  "aSTAFF OF AESCULAPIUSaSCALESaALEMBICaFLOWERaGEARaSTAFF OF HERMESaATOM;aFLEUR-DE-LIS",
  "aOUTLINED? STARa& LINES CONVERGINGtdxaWARNINGsaHIGH VOLTAGEsaDOUBLED FEMALEsbMALEs",
  "aINTERLOCKED FEMALEz MALEsaMALEz FEMALEsbn.sdz MALEz FEMALEsa* MALEn.sa[ MALEn.s",
  "aMEDIUM? CIRCLEb< CIRCLEbp? CIRCLEaMARRIAGE;aDIVORCE;aUNMARRIED PARTNERSHIP;aCOFFIN",
  "aFUNERAL URNaNEUTERaCERESaPALLASaJUNOaVESTAaCHIRONa< MOON LILITHaSEXTILEaSEMISEXTILEaQUINCUNX",
  "aSESQUIQUADRATEaSOCCER BALLaBASEBALLaSQUARED KEYa? DRAUGHTS MANcKINGa< DRAUGHTS MANcKING",
  "aSNOWMAN WITHOUT SNOWaSUN BEHIND CLOUDaRAINa< SNOWMANaTHUNDER CLOUDz RAINaTURNED? SHOGI PIECE",
  "b< SHOGI PIECEa? DIAMOND IN SQUAREaCROSSING LANESaDISABLED CARaOPHIUCHUSaPICKaCAR SLIDING",
  "aHELMETn? CROSSaCIRCLED CROSSING LANESaCHAINSaNO ENTRYaALTERNATE|-WAYx WAY TRAFFIC",
  "a<^-WAYx WAY TRAFFICa?^-WAYx WAY TRAFFICa<x LANE MERGEa?x LANE MERGEaDRIVE SLOWs",
  "aHEAVY? DOWN-POINTING%ax CLOSED ENTRYaSQUARED SALTIREaFALLING DIAGONAL IN? CIRCLE IN< SQUARE",
  "a< TRUCKaRESTRICTEDx ENTRY-1d-2aASTRONOMICAL; FOR URANUSaHEAVY CIRCLEn.z^ DOTSuaPENTAGRAM",
  "at-HANDED INTERLACED PENTAGRAMax-HANDED INTERLACED PENTAGRAMaINVERTED PENTAGRAM",
  "a< CROSS ON SHIELDaSHINTO SHRINEaCHURCHaCASTLEaHISTORIC SITEaGEAR WITHOUT HUBbn HANDLES",
  "aMAP; FOR LIGHTHOUSEaMOUNTAINaUMBRELLA ON GROUNDaFOUNTAINaFLAG IN HOLEaFERRYaSAILBOAT",
  "aSQUARE FOUR CORNERSaSKIERaICE SKATEaPERSONn BALLaTENTaJAPANESE BANK;aHEADSTONE GRAVEYARD;",
  "aFUEL PUMPaCUP ON< SQUAREa? FLAGn[]< STRIPEa< SAFETY SCISSORSaUPPER BLADE SCISSORSa< SCISSORS",
  "aLOWER BLADE SCISSORSa? SCISSORSbHEAVY CHECK>aTELEPHONE LOCATIONsaTAPE DRIVEaAIRPLANEaENVELOPE",
  "aRAISED FISTbHANDaVICTORY HANDaWRITING HANDaLOWERt PENCILaPENCILaUPPERt PENCILa? NIBa< NIB",
  "aCHECK>aHEAVY CHECK>aMULTIPLICATION XaHEAVY MULTIPLICATION XaBALLOT XaHEAVY BALLOT X",
  "aOUTLINED GREEK CROSSaHEAVY GREEK CROSSaOPEN CENTRE CROSSaHEAVY OPEN CENTRE CROSSaLATIN CROSS",
  "aSHADOWED? LATIN CROSSaOUTLINED LATIN CROSSaMALTESE CROSSaSTAR OF DAVID",
  "aFOUR TEARDROP-SPOKED ASTERISKbBALLOON-SPOKED ASTERISKaHEAVY FOUR BALLOON-SPOKED ASTERISK",
  "aFOUR CLUB-SPOKED ASTERISKa< FOUR POINTED STARa? FOUR POINTED STARaSPARKLES",
  "aSTRESS OUTLINED? STARaCIRCLED? STARaOPEN CENTRE< STARa< CENTRE? STARaOUTLINED< STAR",
  "aHEAVY OUTLINED< STARaPINWHEEL STARaSHADOWED? STARaHEAVY ASTERISKaOPEN CENTRE ASTERISK",
  "aEIGHT SPOKED ASTERISKbPOINTED< STARcPINWHEEL STARaSIX POINTED< STAR",
  "aEIGHT POINTED RECTILINEAR< STARaHEAVY EIGHT POINTED RECTILINEAR< STARaTWELVE POINTED< STAR",
  "aSIXTEEN POINTED ASTERISKaTEARDROP-SPOKED ASTERISKaOPEN CENTRE TEARDROP-SPOKED ASTERISK",
  "aHEAVY TEARDROP-SPOKED ASTERISKaSIX PETALLED<z? FLORETTEa< FLORETTEa? FLORETTE",
  "aEIGHT PETALLED OUTLINED< FLORETTEaCIRCLED OPEN CENTRE EIGHT POINTED STAR",
  "aHEAVY TEARDROP-SPOKED PINWHEEL ASTERISKaSNOWFLAKEaTIGHT TRIFOLIATE SNOWFLAKE",
  "aHEAVY CHEVRON SNOWFLAKEaSPARKLEaHEAVY SPARKLEaBALLOON-SPOKED ASTERISK",
  "aEIGHT TEARDROP-SPOKED PROPELLER ASTERISKaHEAVY EIGHT TEARDROP-SPOKED PROPELLER ASTERISK",
  "aCROSS>aSHADOWED? CIRCLEaNEGATIVE SQUARED CROSS>aLOWERt DROP-SHADOWED? SQUARE",
  "aUPPERt DROP-SHADOWED? SQUAREaLOWERt SHADOWED? SQUAREaUPPERt SHADOWED? SQUARE",
  "a< QUESTION> ORNAMENTa? QUESTION> ORNAMENTbEXCLAMATION> ORNAMENTa< DIAMOND MINUS? X",
  "aHEAVY EXCLAMATION>;aLIGHT* BARaMEDIUM* BARaHEAVY* BARbSINGLE TURNED COMMA QUOTATION> ORNAMENT",
  "cCOMMA QUOTATION> ORNAMENTbv TURNED COMMA QUOTATION> ORNAMENTcCOMMA QUOTATION> ORNAMENT",
  "bLOW SINGLE COMMA QUOTATION> ORNAMENTcv COMMA QUOTATION> ORNAMENT",
  "aCURVED STEM PARAGRAPHs ORNAMENTaHEAVY EXCLAMATION> ORNAMENTbHEART EXCLAMATION> ORNAMENT",
  "b< HEARTaROTATED HEAVY< HEART BULLETaFLORAL HEARTaROTATED FLORAL HEART BULLET",
  "aMEDIUMx PARENTHESIS ORNAMENTbt PARENTHESIS ORNAMENTbFLATTENEDx PARENTHESIS ORNAMENT",
  "ct PARENTHESIS ORNAMENTbx-POINTING ANGLE~ ORNAMENTbt-POINTING ANGLE~ ORNAMENT",
  "aHEAVYx-POINTING ANGLE QUOTATION> ORNAMENTbt-POINTING ANGLE QUOTATION> ORNAMENT",
  "bx-POINTING ANGLE~ ORNAMENTbt-POINTING ANGLE~ ORNAMENTaLIGHTx TORTOISE SHELL~ ORNAMENT",
  "bt TORTOISE SHELL~ ORNAMENTaMEDIUMx CURLY~ ORNAMENTbt CURLY~ ORNAMENT",
  "aDINGBAT NEGATIVE CIRCLED DIGIT|e^e&eFOUReFIVEeSIXeSEVENeEIGHTeNINEdNUMBER TEN",
  "bCIRCLED SANS-SERIF DIGIT|f^f&fFOURfFIVEfSIXfSEVENfEIGHTfNINEeNUMBER TEN",
  "bNEGATIVE CIRCLED SANS-SERIF DIGIT|g^g&gFOURgFIVEgSIXgSEVENgEIGHTgNINEfNUMBER TEN",
  "aHEAVY WIDE-HEADEDyrbPLUSsbMINUSsbDIVISIONsbSOUTH EASTrbyrbNORTH EASTraDRAFTING POINTyr",
  "aHEAVY ROUND-TIPPEDyra%-HEADEDyraHEAVY%-HEADEDyraDASHED%-HEADEDyraHEAVY DASHED%-HEADEDyra<yr",
  "a&-D TOP-LIGHTEDy ARROWHEADcBOTTOM-LIGHTEDy ARROWHEADa<y ARROWHEADaHEAVY< CURVED DOWNWARDSzyr",
  "dUPWARDSzyraSQUAT<yraHEAVY CONCAVE-POINTED<yrat-SHADED?yrax-SHADED?yraBACK-TILTED SHADOWED?yr",
  "aFRONT-TILTED SHADOWED?yraHEAVY LOWERt-SHADOWED?yrbUPPERt-SHADOWED?yr",
  "aNOTCHED LOWERt-SHADOWED?yraCURLY LOOPaNOTCHED UPPERt-SHADOWED?yraCIRCLED HEAVY?yr",
  "a?-FEATHEREDyra<-FEATHERED SOUTH EASTrcyrcNORTH EASTraHEAVY<-FEATHERED SOUTH EASTrdyr",
  "dNORTH EASTraTEARDROP-BARBEDyraHEAVY TEARDROP-SHANKEDyraWEDGE-TAILEDyraHEAVY WEDGE-TAILEDyr",
  "aOPEN-OUTLINEDyrav CURLY LOOPa& DIMENSIONAL ANGLEa?% CONTAININGp?%aPERPENDICULARaOPEN SUBSET",
  "bSUPERSETax S-SHAPED BAG DELIMITERat S-SHAPED BAG DELIMITERaORn DOT INSIDE",
  "aREVERSE SOLIDUS PRECEDING SUBSETaSUPERSET PRECEDING SOLIDUSa* BARn[.",
  "aMATHEMATICAL RISING DIAGONALaLONG DIVISIONaMATHEMATICAL FALLING DIAGONALaSQUARED LOGICALzcOR",
  "a? DIAMONDn CENTRED DOTazn DOTaELEMENT OF OPENING UPWARDSaLOWERt CORNERn DOT",
  "aUPPERx CORNERn DOTax OUTER JOINat OUTER JOINaFULL OUTER JOINaLARGE UP TACKbDOWN TACK",
  "axztv TURNSTILEdTACKbMULTIMAPaLONGt TACKbx TACKaUP TACKn CIRCLEuaLOZENGE DIVIDED BY[ RULE",
  "a? CONCAVE-SIDED DIAMONDen+ TICKfy TICKbSQUAREn+ TICKdy TICKaMATHEMATICALx? SQUARE~bt? SQUARE~",
  "bx ANGLE~bt ANGLE~bxv ANGLE~btv ANGLE~bx? TORTOISE SHELL~bt? TORTOISE SHELL~",
  "bx FLATTENED PARENTHESISbt FLATTENED PARENTHESISaUPWARDS QUADRUPLEraDOWNWARDS QUADRUPLEr",
  "aANTICLOCKWISE GAPPED CIRCLEraCLOCKWISE GAPPED CIRCLEratrn CIRCLED PLUSaLONG+rbyrbxtrb+vrbyvr",
  "bxtvrb+r FROM BARbyr FROM BARb+vr FROM BARbyvr FROM BARcSQUIGGLEraBRAILLE PATTERN BLANKcDOTS-1",
  "d-2d-12d-3d-13d-23d-123d-4d-14d-24d-124d-34d-134d-234d-1234d-5d-15d-25d-125d-35d-135d-235",
  "d-1235d-45d-145d-245d-1245d-345d-1345d-2345d-12345d-6d-16d-26d-126d-36d-136d-236d-1236d-46",
  "d-146d-246d-1246d-346d-1346d-2346d-12346d-56d-156d-256d-1256d-356d-1356d-2356d-12356d-456",
  "d-1456d-2456d-12456d-3456d-13456d-23456d-123456d-7d-17d-27d-127d-37d-137d-237d-1237d-47d-147",
  "d-247d-1247d-347d-1347d-2347d-12347d-57d-157d-257d-1257d-357d-1357d-2357d-12357d-457d-1457",
  "d-2457d-12457d-3457d-13457d-23457d-123457d-67d-167d-267d-1267d-367d-1367d-2367d-12367d-467",
  "d-1467d-2467d-12467d-3467d-13467d-23467d-123467d-567d-1567d-2567d-12567d-3567d-13567d-23567",
  "d-123567d-4567d-14567d-24567d-124567d-34567d-134567d-234567d-1234567d-8d-18d-28d-128d-38d-138",
  "d-238d-1238d-48d-148d-248d-1248d-348d-1348d-2348d-12348d-58d-158d-258d-1258d-358d-1358d-2358",
  "d-12358d-458d-1458d-2458d-12458d-3458d-13458d-23458d-123458d-68d-168d-268d-1268d-368d-1368",
  "d-2368d-12368d-468d-1468d-2468d-12468d-3468d-13468d-23468d-123468d-568d-1568d-2568d-12568",
  "d-3568d-13568d-23568d-123568d-4568d-14568d-24568d-124568d-34568d-134568d-234568d-1234568d-78",
  "d-178d-278d-1278d-378d-1378d-2378d-12378d-478d-1478d-2478d-12478d-3478d-13478d-23478d-123478",
  "d-578d-1578d-2578d-12578d-3578d-13578d-23578d-123578d-4578d-14578d-24578d-124578d-34578",
  "d-134578d-234578d-1234578d-678d-1678d-2678d-12678d-3678d-13678d-23678d-123678d-4678d-14678",
  "d-24678d-124678d-34678d-134678d-234678d-1234678d-5678d-15678d-25678d-125678d-35678d-135678",
  "d-235678d-1235678d-45678d-145678d-245678d-1245678d-345678d-1345678d-2345678d-12345678",
  "ay^-HEADEDrn*.fv*.a+vrn*.ayvrn*.axtvrn*.ay^-HEADEDr FROM BARa+vr FROM BARayvr FROM BAR",
  "aDOWNWARDSrn[.aUPWARDSrn[.bTRIPLEraDOWNWARDS TRIPLEra+v DASHrayv DASHra+ TRIPLE DASHr",
  "ay TRIPLE DASHrb^-HEADED TRIPLE DASHrbrn DOTTED STEMaUPWARDSr TO BARaDOWNWARDSr TO BAR",
  "ayrn TAILn*.fv*.b^-HEADEDrn TAILgn*.hv*.a+r-TAILayr-TAILa+vr-TAILayvr-TAILa+r TO< DIAMOND",
  "ayr TO< DIAMONDa+r FROM BAR TO< DIAMONDayr FROM BAR TO< DIAMONDaNORTH WESTz SOUTH EASTr",
  "bEASTz SOUTH WESTrbWESTrn HOOKbEASTrn HOOKaSOUTH EASTrn HOOKbWESTrn HOOK",
  "aNORTH WESTrz NORTH EASTrbEASTrz SOUTH EASTraSOUTH EASTrz SOUTH WESTrbWESTrz NORTH WESTr",
  "aRISING DIAGONAL CROSSING FALLING DIAGONALaFALLING DIAGONAL CROSSING RISING DIAGONAL",
  "aSOUTH EASTr CROSSING NORTH EASTraNORTH EASTr CROSSING SOUTH EASTr",
  "aFALLING DIAGONAL CROSSING NORTH EASTraRISING DIAGONAL CROSSING SOUTH EASTr",
  "aNORTH EASTr CROSSING NORTH WESTrbWESTr CROSSING NORTH EASTraWAVEr POINTING DIRECTLYt",
  "ar POINTINGy THEN CURVING UPWARDSfDOWNWARDScDOWNWARDS THEN CURVING+fyat-SIDE ARC CLOCKWISEr",
  "ax-SIDE ARC ANTICLOCKWISEraTOP ARC ANTICLOCKWISEraBOTTOM ARC ANTICLOCKWISEr",
  "aTOP ARC CLOCKWISErn MINUScANTICLOCKWISErn PLUSaLOWERt SEMICIRCULAR CLOCKWISEr",
  "bx SEMICIRCULAR ANTICLOCKWISEraANTICLOCKWISE CLOSED CIRCLEraCLOCKWISE CLOSED CIRCLEr",
  "ayru SHORT+ra+ru SHORTyraSHORTyru+rayrn PLUS!a+rn PLUS!ayr THROUGH Xaxtr THROUGHp CIRCLE",
  "aUPWARDS^-HEADEDr FROMp CIRCLEax BARB UPt BARB DOWN HARPOONcDOWNt BARB UP HARPOON",
  "aUP BARBt DOWN BARBx HARPOONcx DOWN BARBt HARPOONax BARB UPt BARB UP HARPOON",
  "aUP BARBt DOWN BARBt HARPOONax BARB DOWNt BARB DOWN HARPOONaUP BARBx DOWN BARBx HARPOON",
  "a+ HARPOONn BARB UP TO BARay HARPOONn BARB UP TO BARaUPWARDS HARPOONn BARBt TO BAR",
  "aDOWNWARDS HARPOONn BARBt TO BARa+ HARPOONn BARB DOWN TO BARay HARPOONn BARB DOWN TO BAR",
  "aUPWARDS HARPOONn BARBx TO BARaDOWNWARDS HARPOONn BARBx TO BARa+ HARPOONn BARB UP FROM BAR",
  "ay HARPOONn BARB UP FROM BARaUPWARDS HARPOONn BARBt FROM BARaDOWNWARDS HARPOONn BARBt FROM BAR",
  "a+ HARPOONn BARB DOWN FROM BARay HARPOONn BARB DOWN FROM BARaUPWARDS HARPOONn BARBx FROM BAR",
  "aDOWNWARDS HARPOONn BARBx FROM BARa+ HARPOONn BARB UPu+ HARPOONn BARB DOWN",
  "aUPWARDS HARPOONn BARBx BESIDE UPWARDS HARPOONn BARBtay HARPOONn BARB UPuy HARPOONn BARB DOWN",
  "aDOWNWARDS HARPOONn BARBx BESIDE DOWNWARDS HARPOONn BARBt",
  "a+ HARPOONn BARB UPuy HARPOONn BARB UPeDOWNuy HARPOONn BARB DOWN",
  "ay HARPOONn BARB UPu+ HARPOONn BARB UPeDOWNu+ HARPOONn BARB DOWNa+ HARPOONn BARB UPu LONG DASH",
  "eDOWN! LONG DASHay HARPOONn BARB UPu LONG DASHeDOWN! LONG DASH",
  "aUPWARDS HARPOONn BARBx BESIDE DOWNWARDS HARPOONn BARBt",
  "aDOWNWARDS HARPOONn BARBx BESIDE UPWARDS HARPOONn BARBtatvrn ROUNDED HEADaEQUALSsuyr",
  "aTILDE OPERATORuyra+ru TILDE OPERATORayru TILDE OPERATORdALMOST EQUAL TOaLESS-THANu+r",
  "a+r THROUGH LESS-THANaGREATER-THANuyraSUBSETuyra+r THROUGH SUBSETaSUPERSETu+rax FISH TAIL",
  "at FISH TAILaUP FISH TAILaDOWN FISH TAILaTRIPLE* BAR DELIMITERaZ NOTATION SPOTcTYPE COLON",
  "ax? CURLY~at? CURLY~ax? PARENTHESISat? PARENTHESISaZ NOTATIONx IMAGE~ct IMAGE~cx BINDING~",
  "ct BINDING~ax SQUARE~n UNDERBARat SQUARE~n UNDERBARax SQUARE~n TICK IN TOP CORNER",
  "at SQUARE~n TICK IN BOTTOM CORNERax SQUARE~n TICK IN BOTTOM CORNER",
  "at SQUARE~n TICK IN TOP CORNERax ANGLE~n DOTat ANGLE~n DOTax ARC LESS-THAN~",
  "at ARC GREATER-THAN~avx ARC GREATER-THAN~bt ARC LESS-THAN~ax< TORTOISE SHELL~",
  "at< TORTOISE SHELL~aDOTTED FENCEa* ZIGZAG LINEaMEASURED ANGLE OPENINGxat ANGLE VARIANTn SQUARE",
  "aMEASUREDt ANGLEn DOTaANGLEn S INSIDEaACUTE ANGLEaSPHERICAL ANGLE OPENINGxdUPaTURNED ANGLE",
  "aREVERSED ANGLEaANGLEn UNDERBARaREVERSED ANGLEn UNDERBARaOBLIQUE ANGLE OPENING UPdDOWN",
  "aMEASURED ANGLEn OPEN ARM ENDING INr POINTING UPztlxjDOWNztlxjtz UPjxz UPjtz DOWNjxz DOWN",
  "aREVERSED EMPTY SETaEMPTY SETn OVERBARdp CIRCLEudtrudxruaCIRCLEn[ BARaCIRCLED* BARbPARALLEL",
  "bREVERSE SOLIDUSbPERPENDICULARaCIRCLE DIVIDED BY[ BARz TOP HALF DIVIDED BY* BAR",
  "bn SUPERIMPOSED XaCIRCLED ANTICLOCKWISE-ROTATED DIVISIONsaUPr THROUGH CIRCLEaCIRCLED? BULLET",
  "bBULLETbLESS-THANbGREATER-THANaCIRCLEnp CIRCLE TO THEtc^[ STROKES TO THEt",
  "aSQUARED RISING DIAGONAL SLASHbFALLING DIAGONAL SLASHbASTERISKbp CIRCLEbSQUARE",
  "a^ JOINED SQUARESa%n DOTucUNDERBARaS IN%a%n SERIFS AT BOTTOMat%ux%ax% BESIDE* BAR",
  "a* BAR BESIDEt%aBOWTIEnx HALF<ct HALF<a< BOWTIEaTIMESnx HALF<ct HALF<a? HOURGLASSa< HOURGLASS",
  "ax WIGGLY FENCEat WIGGLY FENCEaxv WIGGLY FENCEatv WIGGLY FENCEaINCOMPLETE INFINITY",
  "aTIE OVER INFINITYaINFINITY NEGATEDn* BARav-ENDED MULTIMAPaSQUAREn CONTOURED OUTLINE",
  "aINCREASES ASaSHUFFLE PRODUCTaEQUALSsz SLANTED PARALLELfn TILDEu",
  "aIDENTICAL TOz SLANTED PARALLELaGLEICH STARKaTHERMODYNAMICaDOWN-POINTING%nx HALF<et HALF<",
  "a< DIAMONDn DOWNrbLOZENGEa? CIRCLEn DOWNra< CIRCLEn DOWNraERROR-BARRED? SQUAREc< SQUARE",
  "c? DIAMONDc< DIAMONDc? CIRCLEc< CIRCLEaRULE-DELAYEDaREVERSE SOLIDUS OPERATORaSOLIDUSn OVERBAR",
  "aREVERSE SOLIDUSn[.aBIG SOLIDUSbREVERSE SOLIDUSav PLUSaTRIPLE PLUSax-POINTING CURVED ANGLE~",
  "at-POINTING CURVED ANGLE~aTINYaMINYaN-ARY CIRCLED DOT OPERATORdPLUS OPERATORdTIMES OPERATOR",
  "cUNION OPERATORn DOTfPLUScSQUARE INTERSECTION OPERATORdUNION OPERATORa^ LOGICALz OPERATOR",
  "cOR OPERATORaN-ARY TIMES OPERATORaMODULO^ SUMaSUMMATIONn INTEGRALaQUADRUPLE INTEGRAL OPERATOR",
  "aFINITE PART INTEGRALaINTEGRALnv.bAVERAGEn SLASHaCIRCULATION FUNCTION",
  "aANTICLOCKWISE INTEGRATIONaLINE INTEGRATIONn RECTANGULAR PATH AROUND POLE",
  "dSEMICIRCULAR PATH AROUND POLEcNOT INCLUDING THE POLEaINTEGRAL AROUND A POINT OPERATOR",
  "aQUATERNION INTEGRAL OPERATORaINTEGRALn+rn HOOKcTIMESscINTERSECTIONcUNIONcOVERBARcUNDERBAR",
  "aJOINaLARGEx% OPERATORaZ NOTATION SCHEMA COMPOSITIONdPIPINGdPROJECTIONaPLUSsnp CIRCLEu",
  "dCIRCUMFLEX ACCENTudTILDEudDOT!dTILDE!dSUBSCRIPT^d<%aMINUSsn COMMAudDOT!dFALLING DOTS",
  "dRISING DOTSaPLUSs INx HALF CIRCLEdt HALF CIRCLEaVECTOR OR CROSS PRODUCTaMULTIPLICATIONsn DOTu",
  "dUNDERBARaSEMIDIRECT PRODUCTn BOTTOM CLOSEDaSMASH PRODUCTaMULTIPLICATIONs INx HALF CIRCLE",
  "dt HALF CIRCLEaCIRCLED MULTIPLICATIONsn CIRCUMFLEX ACCENTaMULTIPLICATIONs INv CIRCLE",
  "aCIRCLED DIVISIONsaPLUSs IN%aMINUSs IN%aMULTIPLICATIONs IN%aINTERIOR PRODUCT",
  "aRIGHTHAND INTERIOR PRODUCTaZ NOTATION RELATIONAL COMPOSITIONaAMALGAMATION OR COPRODUCT",
  "aINTERSECTIONn DOTaUNIONn MINUSscOVERBARaINTERSECTIONn OVERBARcLOGICALzaUNIONn LOGICAL OR",
  "bu INTERSECTIONaINTERSECTIONu UNIONaUNIONu BARu INTERSECTIONaINTERSECTIONu BARu UNION",
  "aUNION BESIDEz JOINEDn UNIONaINTERSECTION BESIDEz JOINEDn INTERSECTIONaCLOSED UNIONn SERIFS",
  "bINTERSECTIONn SERIFSav SQUARE INTERSECTIONcUNIONaCLOSED UNIONn SERIFSz SMASH PRODUCT",
  "aLOGICALzn DOTubORn DOTuav LOGICALzcORa^ INTERSECTING LOGICALzdORaSLOPING LARGE ORcz",
  "aLOGICAL OR OVERLAPPING LOGICALzbzn] STEMbORn] STEMbzn[ DASHbORn[ DASHbznv OVERBARdUNDERBAR",
  "dv UNDERBARap VEEn UNDERBARaLOGICAL ORnv OVERBAReUNDERBARaZ NOTATION DOMAIN ANTIRESTRICTION",
  "cRANGE ANTIRESTRICTIONaEQUALSsn DOT!aIDENTICALn DOTuaTRIPLE[ BARnv*.eTRIPLE*.",
  "aTILDE OPERATORn DOTudRISING DOTSaSIMILAR MINUS SIMILARaCONGRUENTn DOTuaEQUALSn ASTERISK",
  "aALMOST EQUAL TOn CIRCUMFLEX ACCENTaAPPROXIMATELY EQUAL OR EQUAL TOaEQUALSsu PLUSs",
  "aPLUSsu EQUALSsaEQUALSsu TILDE OPERATORav COLON EQUALa^ CONSECUTIVE EQUALS SIGNS",
  "a& CONSECUTIVE EQUALS SIGNSaEQUALSsn^ DOTSuz^ DOTS!aEQUIVALENTn FOUR DOTSu",
  "aLESS-THANn CIRCLE INSIDEaGREATER-THANn CIRCLE INSIDEaLESS-THANn QUESTION>u",
  "aGREATER-THANn QUESTION>uaLESS-THAN OR SLANTED EQUAL TOaGREATER-THAN OR SLANTED EQUAL TO",
  "aLESS-THAN OR SLANTED EQUAL TOn DOT INSIDEaGREATER-THAN OR SLANTED EQUAL TOn DOT INSIDE",
  "aLESS-THAN OR SLANTED EQUAL TOn DOTuaGREATER-THAN OR SLANTED EQUAL TOn DOTu",
  "aLESS-THAN OR SLANTED EQUAL TOn DOTutaGREATER-THAN OR SLANTED EQUAL TOn DOTux",
  "aLESS-THAN OR APPROXIMATEaGREATER-THAN OR APPROXIMATEaLESS-THANz SINGLE-LINE NOT EQUAL TO",
  "aGREATER-THANz SINGLE-LINE NOT EQUAL TOaLESS-THANz NOT APPROXIMATE",
  "aGREATER-THANz NOT APPROXIMATEaLESS-THANuv-LINE EQUALu GREATER-THAN",
  "aGREATER-THANuv-LINE EQUALu LESS-THANaLESS-THANu SIMILAR OR EQUAL",
  "aGREATER-THANu SIMILAR OR EQUALaLESS-THANu SIMILARu GREATER-THAN",
  "aGREATER-THANu SIMILARu LESS-THANaLESS-THANu GREATER-THANuv-LINE EQUAL",
  "aGREATER-THANu LESS-THANuv-LINE EQUALaLESS-THANu SLANTED EQUALu GREATER-THANu SLANTED EQUAL",
  "aGREATER-THANu SLANTED EQUALu LESS-THANu SLANTED EQUALaSLANTED EQUAL TO OR LESS-THAN",
  "eGREATER-THANeLESS-THANn DOT INSIDEeGREATER-THANn DOT INSIDEav-LINE EQUAL TO OR LESS-THAN",
  "fGREATER-THANcSLANTED EQUAL TO OR LESS-THANgGREATER-THANaSIMILAR OR LESS-THANcGREATER-THAN",
  "bu LESS-THANu EQUALSscGREATER-THANu EQUALSsav NESTED LESS-THANcGREATER-THAN",
  "cLESS-THANn UNDERBARaGREATER-THAN OVERLAPPING LESS-THANcBESIDE LESS-THAN",
  "aLESS-THAN CLOSED BY CURVEaGREATER-THAN CLOSED BY CURVE",
  "aLESS-THAN CLOSED BY CURVEu SLANTED EQUALaGREATER-THAN CLOSED BY CURVEu SLANTED EQUAL",
  "aSMALLER THANaLARGER THANaSMALLER THAN OR EQUAL TOaLARGER THAN OR EQUAL TOaEQUALSsn BUMPYu",
  "aPRECEDESu SINGLE-LINE EQUALSsaSUCCEEDSu SINGLE-LINE EQUALSs",
  "aPRECEDESu SINGLE-LINE NOT EQUAL TOaSUCCEEDSu SINGLE-LINE NOT EQUAL TOaPRECEDESu EQUALSs",
  "aSUCCEEDSu EQUALSsaPRECEDESu NOT EQUAL TOaSUCCEEDSu NOT EQUAL TOaPRECEDESu ALMOST EQUAL TO",
  "aSUCCEEDSu ALMOST EQUAL TOaPRECEDESu NOT ALMOST EQUAL TOaSUCCEEDSu NOT ALMOST EQUAL TO",
  "av PRECEDESbSUCCEEDSaSUBSETn DOTaSUPERSETn DOTaSUBSETn PLUSs!aSUPERSETn PLUSs!",
  "aSUBSETn MULTIPLICATIONs!aSUPERSETn MULTIPLICATIONs!aSUBSET OF OR EQUAL TOn DOTu",
  "aSUPERSET OF OR EQUAL TOn DOTuaSUBSET OFu EQUALSsaSUPERSET OFu EQUALSs",
  "aSUBSET OFu TILDE OPERATORaSUPERSET OFu TILDE OPERATORaSUBSET OFu ALMOST EQUAL TO",
  "aSUPERSET OFu ALMOST EQUAL TOaSUBSET OFu NOT EQUAL TOaSUPERSET OFu NOT EQUAL TO",
  "aSQUAREx OPEN BOX OPERATORbt OPEN BOX OPERATORaCLOSED SUBSETbSUPERSETbSUBSET OR EQUAL TO",
  "bSUPERSET OR EQUAL TOaSUBSETu SUPERSETaSUPERSETu SUBSETaSUBSETu SUBSETaSUPERSETu SUPERSET",
  "bBESIDE SUBSETcz JOINED BY DASHn SUBSETaELEMENT OF OPENING DOWNWARDSaPITCHFORKn TEE TOP",
  "aTRANSVERSAL INTERSECTIONaFORKINGaNONFORKINGaSHORTx TACKbDOWN TACKbUP TACKaPERPENDICULARn S",
  "a* BAR TRIPLEt TURNSTILEav* BARx TURNSTILEa* BARvx TURNSTILEav* BARvx TURNSTILE",
  "aLONG DASH FROMx MEMBER OFv*aSHORT DOWN TACKn OVERBARbUP TACKn UNDERBARdu SHORT DOWN TACK",
  "av DOWN TACKbUP TACKb. NOTsaREVERSEDv. NOTsaDOES NOT DIVIDEn REVERSED NEGATION SLASH",
  "a* LINEn CIRCLEue!aDOWN TACKn CIRCLE!aPARALLELn[.cTILDE OPERATORaTRIPLE* BAR BINARY RELATION",
  "dn[.bCOLON OPERATORbNESTED LESS-THANcGREATER-THANav-LINE SLANTED LESS-THAN OR EQUAL TO",
  "dGREATER-THAN OR EQUAL TOaTRIPLE SOLIDUS BINARY RELATIONaLARGE TRIPLE* BAR OPERATOR",
  "av SOLIDUS OPERATORa?* BARaN-ARY?* BARaNORTH EAST?rbWEST?raSOUTH EAST?rbWEST?raxt?ra+<r",
  "aUPWARDS<raDOWNWARDS<raNORTH EAST<rbWEST<raSOUTH EAST<rbWEST<raxt<raUP DOWN<r",
  "ayrn TIP DOWNWARDSeUPWARDSa+rn TIP DOWNWARDSeUPWARDSaSQUAREn TOP HALF<cBOTTOM HALF<",
  "cUPPERt DIAGONAL HALF<cLOWERx DIAGONAL HALF<aDIAMONDnx HALF<ct HALF<cTOP HALF<cBOTTOM HALF<",
  "aDOTTED SQUAREa< LARGE SQUAREa? LARGE SQUAREa< VERYp SQUAREa? VERYp SQUAREa< PENTAGON",
  "a? PENTAGONbHEXAGONa< HEXAGONa[< HEXAGONa< LARGE CIRCLEbMEDIUM DIAMONDa? MEDIUM DIAMOND",
  "a< MEDIUM LOZENGEa? MEDIUM LOZENGEa<p DIAMONDcLOZENGEa?p LOZENGEa<[ ELLIPSEa?[ ELLIPSE",
  "a<* ELLIPSEa?* ELLIPSEaxrnp CIRCLEa&+ ARROWSaxrn CIRCLED PLUSaLONG+ SQUIGGLEra+^-HEADEDrn*.",
  "fv*.eFROM BARdTRIPLE DASHrbrn DOTTED STEMdTAILn*.fv*.b^-HEADEDrn TAILgn*.hv*.br THROUGH X",
  "aWAVEr POINTING DIRECTLYxaEQUALSsu+raREVERSE TILDE OPERATORu+ra+ru REVERSE ALMOST EQUAL TO",
  "ayr THROUGH GREATER-THANdSUPERSETa+ QUADRUPLEray QUADRUPLEraREVERSE TILDE OPERATORuyr",
  "ayru REVERSE ALMOST EQUAL TOaTILDE OPERATORu+ra+ru ALMOST EQUAL TOdREVERSE TILDE OPERATOR",
  "ayru REVERSE TILDE OPERATORaDOWNWARDS%-HEADED ZIGZAGraSHORT SLANTED NORTHrbBACKSLANTED SOUTHr",
  "a? MEDIUM STARa<p STARa?p STARa<t-POINTING PENTAGONa?t-POINTING PENTAGONaHEAVY LARGE CIRCLE",
  "bOVALn OVAL INSIDEbCIRCLEn CIRCLE INSIDEcbCIRCLED SALTIREaSLANTED NORTHrn HOOKED HEAD",
  "aBACKSLANTED SOUTHrn HOOKED TAILaSLANTED NORTHrn[ TAILaBACKSLANTED SOUTHrn[ TAIL",
  "aBENTr POINTING DOWNWARDS THEN NORTH EASTaSHORT BENTr POINTING DOWNWARDS THEN NORTH EAST",
  "a+%-HEADEDraUPWARDS%-HEADEDray%-HEADEDraDOWNWARDS%-HEADEDraxt%-HEADEDraUP DOWN%-HEADEDr",
  "aNORTH WEST%-HEADEDrbEAST%-HEADEDraSOUTH EAST%-HEADEDrbWEST%-HEADEDra+%-HEADED DASHEDr",
  "aUPWARDS%-HEADED DASHEDray%-HEADED DASHEDraDOWNWARDS%-HEADED DASHEDr",
  "aCLOCKWISE%-HEADED OPEN CIRCLEraANTICLOCKWISE%-HEADED OPEN CIRCLEra+%-HEADEDr TO BAR",
  "aUPWARDS%-HEADEDr TO BARay%-HEADEDr TO BARaDOWNWARDS%-HEADEDr TO BAR",
  "@2B76aNORTH WEST%-HEADEDr TO BARbEAST%-HEADEDr TO BARaSOUTH EAST%-HEADEDr TO BAR",
  "bWEST%-HEADEDr TO BARa+%-HEADEDrnv[.aUPWARDS%-HEADEDrnv[.ay%-HEADEDrnv[.",
  "aDOWNWARDS%-HEADEDrnv[.a[ TAB KEYa* TAB KEYa+%-HEADEDr OVERy%-HEADEDr",
  "aUPWARDS%-HEADEDr+ OF DOWNWARDS%-HEADEDray%-HEADEDr OVER+%-HEADEDr",
  "aDOWNWARDS%-HEADEDr+ OF UPWARDS%-HEADEDra+%-HEADED PAIRED ARROWSaUPWARDS%-HEADED PAIRED ARROWS",
  "ay%-HEADED PAIRED ARROWSaDOWNWARDS%-HEADED PAIRED ARROWSa+< CIRCLED?raUPWARDS< CIRCLED?r",
  "ay< CIRCLED?raDOWNWARDS< CIRCLED?raANTICLOCKWISE%-HEADEDt U-SHAPEDrdBOTTOM U-SHAPEDr",
  "dx U-SHAPEDrdTOP U-SHAPEDraRETURNxbtaNEWLINExbtaFOUR CORNER ARROWS CIRCLING ANTICLOCKWISEay<r",
  "@2B97a; FOR TYPE A ELECTRONICSa&-D TOP-LIGHTED+ EQUILATERAL ARROWHEAD",
  "ct-LIGHTED UPWARDS EQUILATERAL ARROWHEADcTOP-LIGHTEDy EQUILATERAL ARROWHEAD",
  "cx-LIGHTED DOWNWARDS EQUILATERAL ARROWHEADa<+ EQUILATERAL ARROWHEAD",
  "bUPWARDS EQUILATERAL ARROWHEADby EQUILATERAL ARROWHEADbDOWNWARDS EQUILATERAL ARROWHEAD",
  "aDOWNWARDS%-HEADEDrn LONG TIP+hyaUPWARDS%-HEADEDrn LONG TIP+hya+%-HEADEDrn LONG TIP UPWARDS",
  "ay%-HEADEDrn LONG TIP UPWARDSa+%-HEADEDrn LONG TIP DOWNWARDSay%-HEADEDrn LONG TIP DOWNWARDS",
  "a< CURVED DOWNWARDSz+reyrcUPWARDSz+reyrc+z UPWARDSrcyz UPWARDSrc+z DOWNWARDSrcyz DOWNWARDSr",
  "aRIBBONr DOWNxdtcUPxdtcx UPct UPcx DOWNct DOWNaUPWARDS?r FROM BARn[ BAR",
  "aUP ARROWHEAD IN A RECTANGLE BOXaOVERLAPPING? SQUAREScz< SQUARESb< SQUARESaBALLOT BOXn LIGHT X",
  "aCIRCLED XbBOLD Xa< SQUARE CENTREDbDIAMOND CENTREDaTURNED< PENTAGONa[< OCTAGONa< OCTAGON",
  "bMEDIUM UP-POINTING% CENTREDcDOWN-POINTING% CENTREDcx-POINTING% CENTREDct-POINTING% CENTRED",
  "aNEPTUNEq^aTOP HALF< CIRCLEaBOTTOM HALF< CIRCLEaLIGHT FOUR POINTED< CUSP",
  "aROTATED LIGHT FOUR POINTED< CUSPa? FOUR POINTED CUSPaROTATED? FOUR POINTED CUSP",
  "aSQUARE POSITION INDICATORaUNCERTAINTYsaGROUP>aPLUTOq^c&cFOURcFIVEaTRANSPLUTOaPROSERPINA",
  "aASTRAEAaHYGIEAaPHOLUSaNESSUSa? MOON SELENAa< DIAMOND ON CROSSaTRUE LIGHT MOON ARTAaCUPIDO",
  "aHADESaZEUSaKRONOSaAPOLLONaADMETOSaVULCANUSaPOSEIDONax HALF< STARat HALF< STARaSTARnx HALF<",
  "ct HALF<a+^-HEADEDrn% ARROWHEADSaUPWARDS^-HEADEDrn% ARROWHEADSay^-HEADEDrn% ARROWHEADS",
  "aDOWNWARDS^-HEADEDrn% ARROWHEADSaERISq|c^aSEDNAaRUSSIAN ASTROLOGICAL; VIGINTILEdNOVILE",
  "dQUINTILEdBINOVILEdSENTAGONdTREDECILEaEQUALSsn INFINITY!aUNITED;aSEPARATED;aDOUBLED;aPASSED;",
  "aREVERSEDt ANGLEaHELLSCHREIBER PAUSE;aGLAGOLITICom AZUdBUKYdVEDEdGLAGOLIdDOBROdYESTUdZHIVETE",
  "dDZELOdZEMLJAdIZHEd, IZHEdIdDJERVIdKAKOdLJUDIJEdMYSLITEdNASHIdONUdPOKOJIdRITSIdSLOVOdTVRIDO",
  "dUKUdFRITUdHERUdOTUdPEdSHTAdTSIdCHRIVIdSHAdYERUdYERIdYATIdSPIDERY HAdYUdp YUSfn TAILdYO",
  "dIOTATEDp YUSdBIG YUSdIOTATED BIG YUSdFITAdIZHITSAdSHTAPICdTROKUTASTI AdLATINATE MYSLITE",
  "dCAUDATE CHRIVIbpm AZUdBUKYdVEDEdGLAGOLIdDOBROdYESTUdZHIVETEdDZELOdZEMLJAdIZHEd, IZHEdIdDJERVI",
  "dKAKOdLJUDIJEdMYSLITEdNASHIdONUdPOKOJIdRITSIdSLOVOdTVRIDOdUKUdFRITUdHERUdOTUdPEdSHTAdTSI",
  "dCHRIVIdSHAdYERUdYERIdYATIdSPIDERY HAdYUdp YUSfn TAILdYOdIOTATEDp YUSdBIG YUSdIOTATED BIG YUS",
  "dFITAdIZHITSAdSHTAPICdTROKUTASTI AdLATINATE MYSLITEdCAUDATE CHRIVIaLATINom Lnv BARbpm Lnv BAR",
  "bom Ln] TILDEdPn.dRn TAILbpm An.dTn DIAGONAL.bom Hn DESCENDERbpm Hn DESCENDERbom Kn DESCENDER",
  "bpm Kn DESCENDERbom Zn DESCENDERbpm Zn DESCENDERbom ALPHAdMn HOOKdTURNED AeALPHAbpm Vnt HOOK",
  "bom Wn HOOKbpm Wn HOOKdVn CURLbom HALF Hbpm HALF HdTAILLESS PHIdEn NOTCHdTURNED Rn TAIL",
  "dOn LOW RING INSIDEbmpo TURNED EbSUBSCRIPTpm JaMODIFIERmo VaLATINom Sn SWASH TAIL",
  "dZn SWASH TAILaCOPTICom ALFAbpm ALFAbom VIDAbpm VIDAbom GAMMAbpm GAMMAbom DALDAbpm DALDA",
  "bom EIEbpm EIEbom SOUbpm SOUbom ZATAbpm ZATAbom HATEbpm HATEbom THETHEbpm THETHEbom IAUDA",
  "bpm IAUDAbom KAPAbpm KAPAbom LAULAbpm LAULAbom MIbpm MIbom NIbpm NIbom KSIbpm KSIbom Obpm O",
  "bom PIbpm PIbom RObpm RObom SIMAbpm SIMAbom TAUbpm TAUbom UAbpm UAbom FIbpm FIbom KHIbpm KHI",
  "bom PSIbpm PSIbom OOUbpm OOUbom DIALECT-P ALEFbpm DIALECT-P ALEFbom OLD COPTIC AIN",
  "bpm OLD COPTIC AINbom CRYPTOGRAMMIC EIEbpm CRYPTOGRAMMIC EIEbom DIALECT-P KAPA",
  "bpm DIALECT-P KAPAbom DIALECT-P NIbpm DIALECT-P NIbom CRYPTOGRAMMIC NIbpm CRYPTOGRAMMIC NI",
  "bom OLD COPTIC OOUbpm OLD COPTIC OOUbom SAMPIbpm SAMPIbom CROSSED SHEIbpm CROSSED SHEI",
  "bom OLD COPTIC SHEIbpm OLD COPTIC SHEIbom OLD COPTIC ESHbpm OLD COPTIC ESHbom AKHMIMIC KHEI",
  "bpm AKHMIMIC KHEIbom DIALECT-P HORIbpm DIALECT-P HORIbom OLD COPTIC HORIbpm OLD COPTIC HORI",
  "bom OLD COPTIC HAbpm OLD COPTIC HAbom L-SHAPED HAbpm L-SHAPED HAbom OLD COPTIC HEI",
  "bpm OLD COPTIC HEIbom OLD COPTIC HATbpm OLD COPTIC HATbom OLD COPTIC GANGIA",
  "bpm OLD COPTIC GANGIAbom OLD COPTIC DJAbpm OLD COPTIC DJAbom OLD COPTIC SHIMA",
  "bpm OLD COPTIC SHIMAbom OLD NUBIAN SHIMAbpm OLD NUBIAN SHIMAbom OLD NUBIAN NGI",
  "bpm OLD NUBIAN NGIbom OLD NUBIAN NYIbpm OLD NUBIAN NYIbom OLD NUBIAN WAUbpm OLD NUBIAN WAU",
  "b; KAIcMI ROcPI ROcSTAUROScTAU ROcKHI ROcSHIMA SIMAbom CRYPTOGRAMMIC SHEI",
  "bpm CRYPTOGRAMMIC SHEIbom CRYPTOGRAMMIC GANGIAbpm CRYPTOGRAMMIC GANGIAbCOMBINING NIu",
  "cSPIRITUS ASPERdLENISbom BOHAIRIC KHEIbpm BOHAIRIC KHEI@2CF9bOLD NUBIAN FULL STOP",
  "dDIRECT QUESTION>dINDIRECT QUESTION>dVERSE DIVIDERbFRACTION| HALFbFULL STOP",
  "bMORPHOLOGICAL DIVIDERaGEORGIANpm ANdBANdGANdDONdENdVINdZENdTANdINdKANdLASdMANdNARdONdPARdZHAR",
  "dRAEdSANdTARdUNdPHARdKHARdGHANdQARdSHINdCHINdCANdJILdCILdCHARdXANdJHANdHAEdHEdHIEdWEdHARdHOE",
  "@2D27dYN@2D2DdAEN@2D30aTIFINAGHm YAcYABcYABHcYAGcYAGHHcBERBER ACADEMY YAJcYAJcYADcYADHcYADD",
  "cYADDHcYEYcYAFcYAKcTUAREG YAKcYAKHHcYAHcBERBER ACADEMY YAHcTUAREG YAHcYAHHcYAAcYAKH",
  "cTUAREG YAKHcYAQcTUAREG YAQcYIcYAZHcAHAGGAR YAZHcTUAREG YAZHcYALcYAMcYANcTUAREG YAGNdYANGcYAP",
  "cYUcYARcYARRcYAGHcTUAREG YAGHcAYER YAGHcYAScYASScYASHcYATcYATHcYACHcYATTcYAVcYAWcYAYcYAZ",
  "cTAWELLEMET YAZcYAZZcYEcYO@2D6FbMODIFIERm LABIALIZATION>bSEPARATOR>@2D7FbCONSONANT JOINER",
  "aETHIOPIC SYLLABLE LOAcMOAcROAcSOAcSHOAcBOAcTOAcCOAcNOAcNYOAcGLOTTAL OAcZOAcDOAcDDOAcJOAcTHOA",
  "cCHOAcPHOAcPOAcGGWAcGGWIcGGWEEcGGWE@2DA0cSSAcSSUcSSIcSSAAcSSEEcSSEcSSO@2DA8cCCAcCCUcCCIcCCAA",
  "cCCEEcCCEcCCO@2DB0cZZAcZZUcZZIcZZAAcZZEEcZZEcZZO@2DB8cCCHAcCCHUcCCHIcCCHAAcCCHEEcCCHEcCCHO",
  "@2DC0cQYAcQYUcQYIcQYAAcQYEEcQYEcQYO@2DC8cKYAcKYUcKYIcKYAAcKYEEcKYEcKYO@2DD0cXYAcXYUcXYIcXYAA",
  "cXYEEcXYEcXYO@2DD8cGYAcGYUcGYIcGYAAcGYEEcGYEcGYO@2DE0aCOMBINING CYRILLICm BEdVEdGHEdDEdZHEdZE",
  "dKAdELdEMdENdOdPEdERdESdTEdHAdTSEdCHEdSHAdSHCHAdFITAdES-TEdAdIEdDJERVdMONOGRAPH UKdYATdYU",
  "dIOTIFIED AdLITTLE YUSdBIG YUSdIOTIFIED BIG YUSat ANGLE SUBSTITUTION MARKER",
  "cDOTTED SUBSTITUTION MARKERax SUBSTITUTION~at SUBSTITUTION~ax DOTTED SUBSTITUTION~",
  "at DOTTED SUBSTITUTION~aRAISED INTERPOLATION MARKERbDOTTED INTERPOLATION MARKER",
  "aDOTTED TRANSPOSITION MARKERax TRANSPOSITION~at TRANSPOSITION~aRAISED SQUARE",
  "ax RAISED OMISSION~at RAISED OMISSION~aEDITORIAL CORONISaPARAGRAPHOSaFORKED PARAGRAPHOS",
  "aREVERSED FORKED PARAGRAPHOSaHYPODIASTOLEaDOTTED OBELOSaDOWNWARDS ANCORAaUPWARDS ANCORA",
  "aDOTTEDt-POINTING ANGLEav OBLIQUE HYPHENaINVERTED INTERROBANGaPALM BRANCHaHYPHENn DIAERESIS",
  "aTILDEn RINGuax LOW PARAPHRASE~at LOW PARAPHRASE~aTILDEn DOTud!ax* BARn QUILLat* BARn QUILL",
  "aTOPx HALF~bt HALF~aBOTTOMx HALF~bt HALF~ax SIDEWAYS U~at SIDEWAYS U~axv PARENTHESIS",
  "atv PARENTHESISa^ DOTS OVER| DOT PUNCTUATIONa| DOT OVER^ DOTS PUNCTUATION",
  "aSQUARED FOUR DOT PUNCTUATIONaFIVE DOT>aREVERSED QUESTION>a* TILDEaRING POINT",
  "aWORD SEPARATOR] DOTaTURNED COMMAaRAISED DOTbCOMMAaTURNED SEMICOLONaDAGGERnx GUARDct GUARD",
  "aTURNED DAGGERaTOP HALF SECTIONsa^-EM DASHa&-EM DASHaSTENOGRAPHIC FULL STOPa* SIX DOTS",
  "aWIGGLY* LINEaCAPITULUMav HYPHENaREVERSED COMMAav LOW-REVERSED-9 QUOTATION>aDASHnx UPTURN",
  "av SUSPENSION>aINVERTED LOW KAVYKAdn KAVYKAuaLOW KAVYKAcn DOTav STACKED COMMAaDOTTED SOLIDUS",
  "aTRIPLE DAGGERaMEDIEVAL COMMAaPARAGRAPHUS>aPUNCTUS ELEVATUS>aCORNISH VERSE DIVIDER",
  "aCROSS PATTYnt CROSSBARdx CROSSBARaTIRONIANso ETaMEDIEVAL EXCLAMATION>bQUESTION>ax SQUARE~n.",
  "at SQUARE~n.ax SQUARE~nv.at SQUARE~nv.aTOP HALFx PARENTHESISct PARENTHESIS",
  "aBOTTOM HALFx PARENTHESISct PARENTHESISaOBLIQUE HYPHEN@2E80aCJK RADICAL REPEATcCLIFFcSECOND|d^",
  "d&cPERSONcBOXcTABLEcKNIFE|d^cDIVINATIONcSEALcp|d^cLAME|d^d&dFOURcSNAKEcTHREADcSNOUT|d^cHEART|",
  "d^cHANDcRAP@2E9BcCHOKEcSUNcMOONcDEATHcMOTHERcCIVILIANcWATER|d^cFIREcPAW|d^",
  "cSIMPLIFIED HALF TREE TRUNKcCOWcDOGcJADEcBOLT OF CLOTHcEYEcSPIRIT|d^cBAMBOOcSILK",
  "cC-SIMPLIFIED SILKcNET|d^d&dFOURcMESHcSHEEPcRAMcEWEcOLDcBRUSH|d^cMEATcMORTARcGRASS|d^d&cTIGER",
  "cCLOTHEScWEST|d^cC-SIMPLIFIED SEEcSIMPLIFIED HORNcHORNcC-SIMPLIFIED SPEECHeSHELLcFOOT",
  "cC-SIMPLIFIED CARTcSIMPLIFIED WALKcWALK|d^cCITYcC-SIMPLIFIED GOLDcLONG|d^cC-SIMPLIFIED LONG",
  "eGATEcMOUND|d^cRAINcBLUEcC-SIMPLIFIED TANNED LEATHEReLEAFeWINDeFLYcEAT|d^d&cC-SIMPLIFIED EAT",
  "cHEADcC-SIMPLIFIED HORSEcBONEcGHOSTcC-SIMPLIFIED FISHeBIRDeSALTcSIMPLIFIED WHEATdYELLOW",
  "cC-SIMPLIFIED FROGcJ-SIMPLIFIED EVENcC-SIMPLIFIED EVENcJ-SIMPLIFIED TOOTHcC-SIMPLIFIED TOOTH",
  "cJ-SIMPLIFIED DRAGONcC-SIMPLIFIED DRAGONcTURTLEcJ-SIMPLIFIED TURTLEcC-SIMPLIFIED TURTLE",
  "@2F00aKANGXI RADICAL|cLINEcDOTcSLASHcSECONDcHOOKc^cLIDcMANcLEGScENTERcEIGHTcDOWN BOXcCOVERcICE",
  "cTABLEcOPEN BOXcKNIFEcPOWERcWRAPcSPOONct OPEN BOXcHIDING ENCLOSUREcTENcDIVINATIONcSEALcCLIFF",
  "cPRIVATEcAGAINcMOUTHcENCLOSUREcEARTHcSCHOLARcGOdSLOWLYcEVENINGcBIGcWOMANcCHILDcROOFcINCHcp",
  "cLAMEcCORPSEcSPROUTcMOUNTAINcRIVERcWORKcONESELFcTURBANcDRYcSHORT THREADcDOTTED CLIFF",
  "cLONG STRIDEc^ HANDScSHOOTcBOWcSNOUTcBRISTLEcSTEPcHEARTcHALBERDcDOORcHANDcBRANCHcRAPcSCRIPT",
  "cDIPPERcAXEcSQUAREcNOTcSUNcSAYcMOONcTREEcLACKcSTOPcDEATHcWEAPONcDO NOTcCOMPAREcFURcCLANcSTEAM",
  "cWATERcFIREcCLAWcFATHERcv XcHALF TREE TRUNKcSLICEcFANGcCOWcDOGcPROFOUNDcJADEcMELONcTILEcSWEET",
  "cLIFEcUSEcFIELDcBOLT OF CLOTHcSICKNESScDOTTED TENTc?cSKINcDISHcEYEcSPEARcrcSTONEcSPIRITcTRACK",
  "cGRAINcCAVEcSTANDcBAMBOOcRICEcSILKcJARcNETcSHEEPcFEATHERcOLDczcPLOWcEARcBRUSHcMEATcMINISTER",
  "cSELFcARRIVEcMORTARcTONGUEcOPPOSEcBOATcSTOPPINGcCOLORcGRASScTIGERcINSECTcBLOODcWALK ENCLOSURE",
  "cCLOTHEScWESTcSEEcHORNcSPEECHcVALLEYcBEANcPIGcBADGERcSHELLcREDcRUNcFOOTcBODYcCARTcBITTER",
  "cMORNINGcWALKcCITYcWINEcDISTINGUISHcVILLAGEcGOLDcLONGcGATEcMOUNDcSLAVEcSHORT TAILED BIRDcRAIN",
  "cBLUEcWRONGcFACEcLEATHERcTANNED LEATHERcLEEKcSOUNDcLEAFcWINDcFLYcEATcHEADcFRAGRANTcHORSEcBONE",
  "cTALLcHAIRcFIGHTcSACRIFICIAL WINEcCAULDRONcGHOSTcFISHcBIRDcSALTcDEERcWHEATcHEMPcYELLOWcMILLET",
  "c<cEMBROIDERYcFROGcTRIPODcDRUMcRATcNOSEcEVENcTOOTHcDRAGONcTURTLEcFLUTE",
  "@2FF0aIDEOGRAPHIC DESCRIPTION CHARACTERx TOtdu TO!dx TO]ztdu TO]z!dFULL SURROUND",
  "dSURROUND FROMuf!fxfUPPERxgtfLOWERxdOVERLAID"]

end ContentModel.Text.CharName
