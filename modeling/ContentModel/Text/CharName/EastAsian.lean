/-!
# Names of characters of the basic plane

The names of the characters from U+3000 to U+FFFF: the syllables of East Asia, the alphabets of
small communities, and compatibility forms.
-/

namespace ContentModel.Text.CharName

/-- The table of these names, as `CharName.find?` reads it. -/
def eastAsian : List String := [
  "@3000aIDEOGRAPHIC SPACEbCOMMAbFULL STOPaDITTO>aJAPANESE INDUSTRIAL STANDARD;",
  "aIDEOGRAPHIC ITERATION>bCLOSING>bNUMBER ZEROax ANGLE~at ANGLE~axv ANGLE~atv ANGLE~ax CORNER~",
  "at CORNER~ax? CORNER~at? CORNER~ax< LENTICULAR~at< LENTICULAR~aPOSTAL>aGETA>ax TORTOISE SHELL~",
  "at TORTOISE SHELL~ax? LENTICULAR~at? LENTICULAR~ax? TORTOISE SHELL~at? TORTOISE SHELL~",
  "ax? SQUARE~at? SQUARE~aWAVE DASHaREVERSEDv PRIME QUOTATION>av PRIME QUOTATION>",
  "aLOWv PRIME QUOTATION>aPOSTAL> FACEaHANGZHOU NUMERAL|c^c&cFOURcFIVEcSIXcSEVENcEIGHTcNINE",
  "aIDEOGRAPHIC LEVEL TONE>bRISING TONE>bDEPARTING TONE>bENTERING TONE>aHANGUL SINGLE DOT TONE>",
  "bv DOT TONE>aWAVY DASHa* KANA REPEAT>dn VOICED SOUND>d> UPPER HALFdn VOICED SOUND> UPPER HALF",
  "d> LOWER HALFaCIRCLED POSTAL>aIDEOGRAPHIC TELEGRAPH LINE FEED SEPARATOR;aHANGZHOU NUMERAL TEN",
  "cTWENTYcTHIRTYa* IDEOGRAPHIC ITERATION>aMASU>aPART ALTERNATION>",
  "aIDEOGRAPHIC VARIATION INDICATORbHALF FILL SPACE@3041aHIRAGANAmp AcAcp IcIcp UcUcp EcEcp OcO",
  "cKAcGAcKIcGIcKUcGUcKEcGEcKOcGOcSAcZAcSIcZIcSUcZUcSEcZEcSOcZOcTAcDAcTIcDIcp TUcTUcDUcTEcDEcTO",
  "cDOcNAcNIcNUcNEcNOcHAcBAcPAcHIcBIcPIcHUcBUcPUcHEcBEcPEcHOcBOcPOcMAcMIcMUcMEcMOcp YAcYAcp YUcYU",
  "cp YOcYOcRAcRIcRUcREcROcp WAcWAcWIcWEcWOcNcVUcp KAdKE",
  "@3099aCOMBINING KATAKANA-HIRAGANA VOICED SOUND>dSEMI-VOICED SOUND>",
  "aKATAKANA-HIRAGANA VOICED SOUND>cSEMI-VOICED SOUND>aHIRAGANA ITERATION>bVOICED ITERATION>",
  "bDIGRAPH YORIaKATAKANA-HIRAGANAv HYPHENbmp AcAcp IcIcp UcUcp EcEcp OcOcKAcGAcKIcGIcKUcGUcKEcGE",
  "cKOcGOcSAcZAcSIcZIcSUcZUcSEcZEcSOcZOcTAcDAcTIcDIcp TUcTUcDUcTEcDEcTOcDOcNAcNIcNUcNEcNOcHAcBA",
  "cPAcHIcBIcPIcHUcBUcPUcHEcBEcPEcHOcBOcPOcMAcMIcMUcMEcMOcp YAcYAcp YUcYUcp YOcYOcRAcRIcRUcREcRO",
  "cp WAcWAcWIcWEcWOcNcVUcp KAdKEcVAcVIcVEcVOb] DOTb-HIRAGANA PROLONGED SOUND>bITERATION>",
  "bVOICED ITERATION>bDIGRAPH KOTO@3105aBOPOMOFOm BcPcMcFcDcTcNcLcGcKcHcJcQcXcZHcCHcSHcRcZcCcScA",
  "cOcEcEHcAIcEIcAUcOUcANcENcANGcENGcERcIcUcIUcVcNGcGNcIHcOn DOTucNN@3131aHANGULm KIYEOK",
  "cSSANGKIYEOKcKIYEOK-SIOScNIEUNd-CIEUCd-HIEUHcTIKEUTcSSANGTIKEUTcRIEULd-KIYEOKd-MIEUMd-PIEUP",
  "d-SIOSd-THIEUTHd-PHIEUPHd-HIEUHcMIEUMcPIEUPcSSANGPIEUPcPIEUP-SIOScSIOScSSANGSIOScIEUNGcCIEUC",
  "cSSANGCIEUCcCHIEUCHcKHIEUKHcTHIEUTHcPHIEUPHcHIEUHcAcAEcYAcYAEcEOcEcYEOcYEcOcWAcWAEcOEcYOcUcWEO",
  "cWEcWIcYUcEUcYIcIbFILLERbm SSANGNIEUNcNIEUN-TIKEUTd-SIOSd-PANSIOScRIEUL-KIYEOK-SIOSd-TIKEUT",
  "d-PIEUP-SIOSd-PANSIOSd-YEORINHIEUHcMIEUM-PIEUPd-SIOSd-PANSIOScKAPYEOUNMIEUMcPIEUP-KIYEOK",
  "d-TIKEUTd-SIOS-KIYEOKe-TIKEUTd-CIEUCd-THIEUTHcKAPYEOUNPIEUPcKAPYEOUNSSANGPIEUPcSIOS-KIYEOK",
  "d-NIEUNd-TIKEUTd-PIEUPd-CIEUCcPANSIOScSSANGIEUNGcYESIEUNGd-SIOSd-PANSIOScKAPYEOUNPHIEUPH",
  "cSSANGHIEUHcYEORINHIEUHcYO-YAd-YAEd-IcYU-YEOd-YEd-IcARAEAcARAEAE",
  "@3190aIDEOGRAPHIC ANNOTATION LINKING>cREVERSE>c|>c^>c&>cFOUR>cTOP>c]>cBOTTOM>cFIRST>cSECOND>",
  "cTHIRD>cFOURTH>cHEAVEN>cEARTH>cMAN>aBOPOMOFOm BUcZIcJIcGUcEEcENNcOOcONNcIRcANNcINNcUNNcIMcNGG",
  "cAINNcAUNNcAMcOMcONGcINNNb$m PdTdKdHbm GHcLHcZYb$m Gbm GWcKWcOEcAHaCJK. TcWGcXGcBXGcSWcHZZcHZG",
  "cHPcHZWGcSZWGcHZTcHZZPcHPWGcHZWcHZZZcNcHcScPcSPcDcHZcHGcSZcSWZcSTcSGcPDcPZcTNcSZZcSWGcHXWG",
  "cHZZZGcPGcQ@31F0aKATAKANAmp KUdSIdSUdTOdNUdHAdHIdHUdHEdHOdMUdRAdRIdRUdREdRO",
  "aPARENTHESIZED HANGUL KIYEOKcNIEUNcTIKEUTcRIEULcMIEUMcPIEUPcSIOScIEUNGcCIEUCcCHIEUCHcKHIEUKH",
  "cTHIEUTHcPHIEUPHcHIEUHcKIYEOK AcNIEUN AcTIKEUT AcRIEUL AcMIEUM AcPIEUP AcSIOS AcIEUNG A",
  "cCIEUC AcCHIEUCH AcKHIEUKH AcTHIEUTH AcPHIEUPH AcHIEUH AcCIEUC UbKOREAN CHARACTER OJEONdO HU",
  "@3220bIDEOGRAPH|c^c&cFOURcFIVEcSIXcSEVENcEIGHTcNINEcTENcMOONcFIREcWATERcWOODcMETALcEARTHcSUN",
  "cSTOCKcHAVEcSOCIETYcNAMEcSPECIALcFINANCIALcCONGRATULATIONcLABORcREPRESENTcCALLcSTUDYcSUPERVISE",
  "cENTERPRISEcRESOURCEcALLIANCEcFESTIVALcRESTcSELFcREACHaCIRCLED IDEOGRAPH QUESTIONcKINDERGARTEN",
  "cSCHOOLcKOTObNUMBER TEN ON< SQUAREcTWENTY ON< SQUAREcTHIRTY ON< SQUAREcFORTY ON< SQUARE",
  "cFIFTY ON< SQUAREcSIXTY ON< SQUAREcSEVENTY ON< SQUAREcEIGHTY ON< SQUAREaPARTNERSHIPs",
  "aCIRCLED NUMBER TWENTY|d^d&dFOURdFIVEdSIXdSEVENdEIGHTdNINEcTHIRTYd|d^d&dFOURdFIVE",
  "bHANGUL KIYEOKcNIEUNcTIKEUTcRIEULcMIEUMcPIEUPcSIOScIEUNGcCIEUCcCHIEUCHcKHIEUKHcTHIEUTHcPHIEUPH",
  "cHIEUHcKIYEOK AcNIEUN AcTIKEUT AcRIEUL AcMIEUM AcPIEUP AcSIOS AcIEUNG AcCIEUC AcCHIEUCH A",
  "cKHIEUKH AcTHIEUTH AcPHIEUPH AcHIEUH AbKOREAN CHARACTER CHAMKOdJUEUIbHANGUL IEUNG U",
  "aKOREAN STANDARD;aCIRCLED IDEOGRAPH|c^c&cFOURcFIVEcSIXcSEVENcEIGHTcNINEcTENcMOONcFIREcWATER",
  "cWOODcMETALcEARTHcSUNcSTOCKcHAVEcSOCIETYcNAMEcSPECIALcFINANCIALcCONGRATULATIONcLABORcSECRET",
  "cMALEcFEMALEcSUITABLEcEXCELLENTcPRINTcATTENTIONcITEMcRESTcCOPYcCORRECTcHIGHcCENTREcLOWcxct",
  "cMEDICINEcRELIGIONcSTUDYcSUPERVISEcENTERPRISEcRESOURCEcALLIANCEcNIGHTbNUMBER THIRTY SIXdSEVEN",
  "dEIGHTdNINEcFORTYd|d^d&dFOURdFIVEdSIXdSEVENdEIGHTdNINEcFIFTY",
  "aIDEOGRAPHIC TELEGRAPH; FOR JANUARYeFEBRUARYeMARCHeAPRILeMAYeJUNEeJULYeAUGUSTeSEPTEMBER",
  "eOCTOBEReNOVEMBEReDECEMBERaSQUARE HGbERGbEVaLIMITED LIABILITYsaCIRCLED KATAKANA AcIcUcEcOcKA",
  "cKIcKUcKEcKOcSAcSIcSUcSEcSOcTAcTIcTUcTEcTOcNAcNIcNUcNEcNOcHAcHIcHUcHEcHOcMAcMIcMUcMEcMOcYAcYU",
  "cYOcRAcRIcRUcREcROcWAcWIcWEcWOaSQUARE ERA NAME REIWAbAPAATObARUHUAbANPEAbAARUbININGUbINTIbUON",
  "bESUKUUDObEEKAAbONSUbOOMUbKAIRIbKARATTObKARORIIbGARONbGANMAbGIGAbGINIIbKYURIIbGIRUDAAbKIRO",
  "bKIROGURAMUbKIROMEETORUbKIROWATTObGURAMUbGURAMUTONbKURUZEIRObKUROONEbKEESUbKORUNAbKOOPO",
  "bSAIKURUbSANTIIMUbSIRINGUbSENTIbSENTObDAASUbDESIbDORUbTONbNANObNOTTObHAITUbPAASENTObPAATU",
  "bBAARERUbPIASUTORUbPIKURUbPIKObBIRUbHUARADDObHUIITObBUSSYERUbHURANbHEKUTAARUbPESObPENIHI",
  "bHERUTUbPENSUbPEEZIbBEETAbPOINTObBORUTObHONbPONDObHOORUbHOONbMAIKURObMAIRUbMAHHAbMARUKU",
  "bMANSYONbMIKURONbMIRIbMIRIBAARUbMEGAbMEGATONbMEETORUbYAADObYAARUbYUANbRITTORUbRIRAbRUPII",
  "bRUUBURUbREMUbRENTOGENbWATTOaIDEOGRAPHIC TELEGRAPH; FOR HOUR ZEROf|f^f&fFOURfFIVEfSIXfSEVEN",
  "fEIGHTfNINEfTENfELEVENfTWELVEfTHIRTEENfFOURTEENfFIFTEENfSIXTEENfSEVENTEENfEIGHTEENfNINETEEN",
  "fTWENTYg-ONEg-TWOg-THREEg-FOURaSQUARE HPAbDAbAUbBARbOVbPCbDMcSQUAREDcCUBEDbIUbERA NAME HEISEI",
  "dSYOUWAdTAISYOUdMEIZIbCORPORATIONbPA AMPSbNAbMU AbMAbKAbKBbMBbGBbCALbKCALbPFbNFbMU FcGbMGbKG",
  "bHZbKHZbMHZbGHZbTHZbMU LbMLbDLbKLbFMbNMbMU MbMMbCMbKMbMM SQUAREDbCM SQUAREDbM SQUARED",
  "bKM SQUAREDbMM CUBEDbCM CUBEDbM CUBEDbKM CUBEDbM OVER SeSQUAREDbPAbKPAbMPAbGPAbRADcOVER S",
  "eSQUAREDbPSbNSbMU SbMSbPVbNVbMU VbMVbKVbMV MEGAbPWbNWbMU WbMWbKWbMW MEGAbK OHMbM OHMbAMbBQbCC",
  "bCDbC OVER KGbCObDBbGYbHAbHPbINbKKbKMobKTbLMbLNbLOGbLXbMBpbMILbMOLbPHbPMbPPMbPRbSRbSVbWB",
  "bV OVER MbA OVER MaIDEOGRAPHIC TELEGRAPH; FOR DAY|f^f&fFOURfFIVEfSIXfSEVENfEIGHTfNINEfTEN",
  "fELEVENfTWELVEfTHIRTEENfFOURTEENfFIFTEENfSIXTEENfSEVENTEENfEIGHTEENfNINETEENfTWENTYg-ONEg-TWO",
  "g-THREEg-FOURg-FIVEg-SIXg-SEVENg-EIGHTg-NINEfTHIRTYg-ONEaSQUARE GAL",
  "@4DC0aHEXAGRAM FOR THE CREATIVE HEAVENdRECEPTIVE EARTHcDIFFICULTY AT THE BEGINNING",
  "cYOUTHFUL FOLLYcWAITINGcCONFLICTcTHE ARMYcHOLDING TOGETHERcp TAMINGcTREADINGcPEACEcSTANDSTILL",
  "cFELLOWSHIPcGREAT POSSESSIONcMODESTYcENTHUSIASMcFOLLOWINGcWORK ON THE DECAYEDcAPPROACH",
  "cCONTEMPLATIONcBITING THROUGHcGRACEcSPLITTING APARTcRETURNcINNOCENCEcGREAT TAMING",
  "cMOUTH CORNERScGREAT PREPONDERANCEcTHE ABYSMAL WATERdCLINGING FIREcINFLUENCEcDURATIONcRETREAT",
  "cGREAT POWERcPROGRESScDARKENING OF THE LIGHTcTHE FAMILYcOPPOSITIONcOBSTRUCTIONcDELIVERANCE",
  "cDECREASEcINCREASEcBREAKTHROUGHcCOMING TO MEETcGATHERING TOGETHERcPUSHING UPWARDcOPPRESSION",
  "cTHE WELLcREVOLUTIONcTHE CAULDRONdAROUSING THUNDERdKEEPING STILL MOUNTAINcDEVELOPMENT",
  "cTHE MARRYING MAIDENcABUNDANCEcTHE WANDERERdGENTLE WINDdJOYOUS LAKEcDISPERSIONcLIMITATION",
  "cINNER TRUTHcp PREPONDERANCEcAFTER COMPLETIONcBEFORE COMPLETION@A000aYI SYLLABLE ITcIXcIcIP",
  "cIETcIEXcIEcIEPcATcAXcAcAPcUOXcUOcUOPcOTcOXcOcOPcEXcEcWUcBITcBIXcBIcBIPcBIETcBIEXcBIEcBIEPcBAT",
  "cBAXcBAcBAPcBUOXcBUOcBUOPcBOTcBOXcBOcBOPcBEXcBEcBEPcBUTcBUXcBUcBUPcBURXcBURcBYTcBYXcBYcBYP",
  "cBYRXcBYRcPITcPIXcPIcPIPcPIEXcPIEcPIEPcPATcPAXcPAcPAPcPUOXcPUOcPUOPcPOTcPOXcPOcPOPcPUTcPUXcPU",
  "cPUPcPURXcPURcPYTcPYXcPYcPYPcPYRXcPYRcBBITcBBIXcBBIcBBIPcBBIETcBBIEXcBBIEcBBIEPcBBATcBBAXcBBA",
  "cBBAPcBBUOXcBBUOcBBUOPcBBOTcBBOXcBBOcBBOPcBBEXcBBEcBBEPcBBUTcBBUXcBBUcBBUPcBBURXcBBURcBBYT",
  "cBBYXcBBYcBBYPcNBITcNBIXcNBIcNBIPcNBIEXcNBIEcNBIEPcNBATcNBAXcNBAcNBAPcNBOTcNBOXcNBOcNBOPcNBUT",
  "cNBUXcNBUcNBUPcNBURXcNBURcNBYTcNBYXcNBYcNBYPcNBYRXcNBYRcHMITcHMIXcHMIcHMIPcHMIEXcHMIEcHMIEP",
  "cHMATcHMAXcHMAcHMAPcHMUOXcHMUOcHMUOPcHMOTcHMOXcHMOcHMOPcHMUTcHMUXcHMUcHMUPcHMURXcHMURcHMYXcHMY",
  "cHMYPcHMYRXcHMYRcMITcMIXcMIcMIPcMIEXcMIEcMIEPcMATcMAXcMAcMAPcMUOTcMUOXcMUOcMUOPcMOTcMOXcMOcMOP",
  "cMEXcMEcMUTcMUXcMUcMUPcMURXcMURcMYTcMYXcMYcMYPcFITcFIXcFIcFIPcFATcFAXcFAcFAPcFOXcFOcFOPcFUT",
  "cFUXcFUcFUPcFURXcFURcFYTcFYXcFYcFYPcVITcVIXcVIcVIPcVIETcVIEXcVIEcVIEPcVATcVAXcVAcVAPcVOTcVOX",
  "cVOcVOPcVEXcVEPcVUTcVUXcVUcVUPcVURXcVURcVYTcVYXcVYcVYPcVYRXcVYRcDITcDIXcDIcDIPcDIEXcDIEcDIEP",
  "cDATcDAXcDAcDAPcDUOXcDUOcDOTcDOXcDOcDOPcDEXcDEcDEPcDUTcDUXcDUcDUPcDURXcDURcTITcTIXcTIcTIPcTIEX",
  "cTIEcTIEPcTATcTAXcTAcTAPcTUOTcTUOXcTUOcTUOPcTOTcTOXcTOcTOPcTEXcTEcTEPcTUTcTUXcTUcTUPcTURXcTUR",
  "cDDITcDDIXcDDIcDDIPcDDIEXcDDIEcDDIEPcDDATcDDAXcDDAcDDAPcDDUOXcDDUOcDDUOPcDDOTcDDOXcDDOcDDOP",
  "cDDEXcDDEcDDEPcDDUTcDDUXcDDUcDDUPcDDURXcDDURcNDITcNDIXcNDIcNDIPcNDIEXcNDIEcNDATcNDAXcNDAcNDAP",
  "cNDOTcNDOXcNDOcNDOPcNDEXcNDEcNDEPcNDUTcNDUXcNDUcNDUPcNDURXcNDURcHNITcHNIXcHNIcHNIPcHNIETcHNIEX",
  "cHNIEcHNIEPcHNATcHNAXcHNAcHNAPcHNUOXcHNUOcHNOTcHNOXcHNOPcHNEXcHNEcHNEPcHNUTcNITcNIXcNIcNIP",
  "cNIEXcNIEcNIEPcNAXcNAcNAPcNUOXcNUOcNUOPcNOTcNOXcNOcNOPcNEXcNEcNEPcNUTcNUXcNUcNUPcNURXcNURcHLIT",
  "cHLIXcHLIcHLIPcHLIEXcHLIEcHLIEPcHLATcHLAXcHLAcHLAPcHLUOXcHLUOcHLUOPcHLOXcHLOcHLOPcHLEXcHLE",
  "cHLEPcHLUTcHLUXcHLUcHLUPcHLURXcHLURcHLYTcHLYXcHLYcHLYPcHLYRXcHLYRcLITcLIXcLIcLIPcLIETcLIEXcLIE",
  "cLIEPcLATcLAXcLAcLAPcLUOTcLUOXcLUOcLUOPcLOTcLOXcLOcLOPcLEXcLEcLEPcLUTcLUXcLUcLUPcLURXcLURcLYT",
  "cLYXcLYcLYPcLYRXcLYRcGITcGIXcGIcGIPcGIETcGIEXcGIEcGIEPcGATcGAXcGAcGAPcGUOTcGUOXcGUOcGUOPcGOT",
  "cGOXcGOcGOPcGETcGEXcGEcGEPcGUTcGUXcGUcGUPcGURXcGURcKITcKIXcKIcKIPcKIEXcKIEcKIEPcKATcKAXcKAcKAP",
  "cKUOXcKUOcKUOPcKOTcKOXcKOcKOPcKETcKEXcKEcKEPcKUTcKUXcKUcKUPcKURXcKURcGGITcGGIXcGGIcGGIEXcGGIE",
  "cGGIEPcGGATcGGAXcGGAcGGAPcGGUOTcGGUOXcGGUOcGGUOPcGGOTcGGOXcGGOcGGOPcGGETcGGEXcGGEcGGEPcGGUT",
  "cGGUXcGGUcGGUPcGGURXcGGURcMGIEXcMGIEcMGATcMGAXcMGAcMGAPcMGUOXcMGUOcMGUOPcMGOTcMGOXcMGOcMGOP",
  "cMGEXcMGEcMGEPcMGUTcMGUXcMGUcMGUPcMGURXcMGURcHXITcHXIXcHXIcHXIPcHXIETcHXIEXcHXIEcHXIEPcHXAT",
  "cHXAXcHXAcHXAPcHXUOTcHXUOXcHXUOcHXUOPcHXOTcHXOXcHXOcHXOPcHXEXcHXEcHXEPcNGIEXcNGIEcNGIEPcNGAT",
  "cNGAXcNGAcNGAPcNGUOTcNGUOXcNGUOcNGOTcNGOXcNGOcNGOPcNGEXcNGEcNGEPcHITcHIEXcHIEcHATcHAXcHAcHAP",
  "cHUOTcHUOXcHUOcHUOPcHOTcHOXcHOcHOPcHEXcHEcHEPcWATcWAXcWAcWAPcWUOXcWUOcWUOPcWOXcWOcWOPcWEXcWE",
  "cWEPcZITcZIXcZIcZIPcZIEXcZIEcZIEPcZATcZAXcZAcZAPcZUOXcZUOcZUOPcZOTcZOXcZOcZOPcZEXcZEcZEPcZUT",
  "cZUXcZUcZUPcZURXcZURcZYTcZYXcZYcZYPcZYRXcZYRcCITcCIXcCIcCIPcCIETcCIEXcCIEcCIEPcCATcCAXcCAcCAP",
  "cCUOXcCUOcCUOPcCOTcCOXcCOcCOPcCEXcCEcCEPcCUTcCUXcCUcCUPcCURXcCURcCYTcCYXcCYcCYPcCYRXcCYRcZZIT",
  "cZZIXcZZIcZZIPcZZIETcZZIEXcZZIEcZZIEPcZZATcZZAXcZZAcZZAPcZZOXcZZOcZZOPcZZEXcZZEcZZEPcZZUXcZZU",
  "cZZUPcZZURXcZZURcZZYTcZZYXcZZYcZZYPcZZYRXcZZYRcNZITcNZIXcNZIcNZIPcNZIEXcNZIEcNZIEPcNZATcNZAX",
  "cNZAcNZAPcNZUOXcNZUOcNZOXcNZOPcNZEXcNZEcNZUXcNZUcNZUPcNZURXcNZURcNZYTcNZYXcNZYcNZYPcNZYRXcNZYR",
  "cSITcSIXcSIcSIPcSIEXcSIEcSIEPcSATcSAXcSAcSAPcSUOXcSUOcSUOPcSOTcSOXcSOcSOPcSEXcSEcSEPcSUTcSUX",
  "cSUcSUPcSURXcSURcSYTcSYXcSYcSYPcSYRXcSYRcSSITcSSIXcSSIcSSIPcSSIEXcSSIEcSSIEPcSSATcSSAXcSSA",
  "cSSAPcSSOTcSSOXcSSOcSSOPcSSEXcSSEcSSEPcSSUTcSSUXcSSUcSSUPcSSYTcSSYXcSSYcSSYPcSSYRXcSSYRcZHAT",
  "cZHAXcZHAcZHAPcZHUOXcZHUOcZHUOPcZHOTcZHOXcZHOcZHOPcZHETcZHEXcZHEcZHEPcZHUTcZHUXcZHUcZHUPcZHURX",
  "cZHURcZHYTcZHYXcZHYcZHYPcZHYRXcZHYRcCHATcCHAXcCHAcCHAPcCHUOTcCHUOXcCHUOcCHUOPcCHOTcCHOXcCHO",
  "cCHOPcCHETcCHEXcCHEcCHEPcCHUXcCHUcCHUPcCHURXcCHURcCHYTcCHYXcCHYcCHYPcCHYRXcCHYRcRRAXcRRAcRRUOX",
  "cRRUOcRROTcRROXcRROcRROPcRRETcRREXcRREcRREPcRRUTcRRUXcRRUcRRUPcRRURXcRRURcRRYTcRRYXcRRYcRRYP",
  "cRRYRXcRRYRcNRATcNRAXcNRAcNRAPcNROXcNROcNROPcNRETcNREXcNREcNREPcNRUTcNRUXcNRUcNRUPcNRURXcNRUR",
  "cNRYTcNRYXcNRYcNRYPcNRYRXcNRYRcSHATcSHAXcSHAcSHAPcSHUOXcSHUOcSHUOPcSHOTcSHOXcSHOcSHOPcSHET",
  "cSHEXcSHEcSHEPcSHUTcSHUXcSHUcSHUPcSHURXcSHURcSHYTcSHYXcSHYcSHYPcSHYRXcSHYRcRATcRAXcRAcRAPcRUOX",
  "cRUOcRUOPcROTcROXcROcROPcREXcREcREPcRUTcRUXcRUcRUPcRURXcRURcRYTcRYXcRYcRYPcRYRXcRYRcJITcJIXcJI",
  "cJIPcJIETcJIEXcJIEcJIEPcJUOTcJUOXcJUOcJUOPcJOTcJOXcJOcJOPcJUTcJUXcJUcJUPcJURXcJURcJYTcJYXcJY",
  "cJYPcJYRXcJYRcQITcQIXcQIcQIPcQIETcQIEXcQIEcQIEPcQUOTcQUOXcQUOcQUOPcQOTcQOXcQOcQOPcQUTcQUXcQU",
  "cQUPcQURXcQURcQYTcQYXcQYcQYPcQYRXcQYRcJJITcJJIXcJJIcJJIPcJJIETcJJIEXcJJIEcJJIEPcJJUOXcJJUO",
  "cJJUOPcJJOTcJJOXcJJOcJJOPcJJUTcJJUXcJJUcJJUPcJJURXcJJURcJJYTcJJYXcJJYcJJYPcNJITcNJIXcNJIcNJIP",
  "cNJIETcNJIEXcNJIEcNJIEPcNJUOXcNJUOcNJOTcNJOXcNJOcNJOPcNJUXcNJUcNJUPcNJURXcNJURcNJYTcNJYXcNJY",
  "cNJYPcNJYRXcNJYRcNYITcNYIXcNYIcNYIPcNYIETcNYIEXcNYIEcNYIEPcNYUOXcNYUOcNYUOPcNYOTcNYOXcNYOcNYOP",
  "cNYUTcNYUXcNYUcNYUPcXITcXIXcXIcXIPcXIETcXIEXcXIEcXIEPcXUOXcXUOcXOTcXOXcXOcXOPcXYTcXYXcXYcXYP",
  "cXYRXcXYRcYITcYIXcYIcYIPcYIETcYIEXcYIEcYIEPcYUOTcYUOXcYUOcYUOPcYOTcYOXcYOcYOPcYUTcYUXcYUcYUP",
  "cYURXcYURcYYTcYYXcYYcYYPcYYRXcYYR@A490bRADICAL QOTcLIcKITcNYIPcCYPcSSIcGGOPcGEPcMIcHXITcLYR",
  "cBBUTcMOPcYOcPUTcHXUOcTATcGAcZUPcCYTcDDURcBURcGGUOcNYOPcTUcOPcJJUTcZOTcPYTcHMOcYITcVURcSHYcVEP",
  "cZAcJOcNZUPcJJYcGOTcJJIEcWOcDUcSHURcLIEcCYcCUOPcCIPcHXOPcSHATcZURcSHOPcCHEcZZIETcNBIEcKE",
  "@A4D0aLISUm BAcPAcPHAcDAcTAcTHAcGAcKAcKHAcJAcCAcCHAcDZAcTSAcTSHAcMAcNAcLAcSAcZHAcZAcNGAcHAcXA",
  "cHHAcFAcWAcSHAcYAcGHAcAcAEcEcEUcIcOcUcUEcUHcOEcTONE MYA TIdNA POdMYA CYAeBOeNAeJEU",
  "bPUNCTUATION COMMAcFULL STOPaVAI SYLLABLE EEcEENcHEEcWEEcWEENcPEEcBHEEcBEEcMBEEcKPEEcMGBEE",
  "cGBEEcFEEcVEEcTEEcTHEEcDHEEcDHHEEcLEEcREEcDEEcNDEEcSEEcSHEEcZEEcZHEEcCEEcJEEcNJEEcYEEcKEE",
  "cNGGEEcGEEcMEEcNEEcNYEEcIcINcHIcHINcWIcWINcPIcBHIcBIcMBIcKPIcMGBIcGBIcFIcVIcTIcTHIcDHIcDHHIcLI",
  "cRIcDIcNDIcSIcSHIcZIcZHIcCIcJIcNJIcYIcKIcNGGIcGIcMIcNIcNYIcAcANcNGANcHAcHANcWAcWANcPAcBHAcBA",
  "cMBAcKPAcKPANcMGBAcGBAcFAcVAcTAcTHAcDHAcDHHAcLAcRAcDAcNDAcSAcSHAcZAcZHAcCAcJAcNJAcYAcKAcKAN",
  "cNGGAcGAcMAcNAcNYAcOOcOONcHOOcWOOcWOONcPOOcBHOOcBOOcMBOOcKPOOcMGBOOcGBOOcFOOcVOOcTOOcTHOOcDHOO",
  "cDHHOOcLOOcROOcDOOcNDOOcSOOcSHOOcZOOcZHOOcCOOcJOOcNJOOcYOOcKOOcNGGOOcGOOcMOOcNOOcNYOOcUcUNcHU",
  "cHUNcWUcWUNcPUcBHUcBUcMBUcKPUcMGBUcGBUcFUcVUcTUcTHUcDHUcDHHUcLUcRUcDUcNDUcSUcSHUcZUcZHUcCUcJU",
  "cNJUcYUcKUcNGGUcGUcMUcNUcNYUcOcONcNGONcHOcHONcWOcWONcPOcBHOcBOcMBOcKPOcMGBOcGBOcGBONcFOcVOcTO",
  "cTHOcDHOcDHHOcLOcROcDOcNDOcSOcSHOcZOcZHOcCOcJOcNJOcYOcKOcNGGOcGOcMOcNOcNYOcEcENcNGENcHEcHENcWE",
  "cWENcPEcBHEcBEcMBEcKPEcKPENcMGBEcGBEcGBENcFEcVEcTEcTHEcDHEcDHHEcLEcREcDEcNDEcSEcSHEcZEcZHEcCE",
  "cJEcNJEcYEcKEcNGGEcNGGENcGEcGENcMEcNEcNYEcNGcLENGTHENERbCOMMAbFULL STOPbQUESTION>",
  "bSYLLABLE NDOLE FAdKAdSOOb; FEENGcKEENGcTINGcNIIcBANGcFAAcTAAcDANGcDOONGcKUNGcTONGcDO-OcJONG",
  "bDIGIT ZEROc|c^c&cFOURcFIVEcSIXcSEVENcEIGHTcNINEbSYLLABLE NDOLE MAdDO@A640aCYRILLICom ZEMLYA",
  "bpm ZEMLYAbom DZELObpm DZELObom REVERSED DZEbpm REVERSED DZEbom IOTAbpm IOTAbom DJERVbpm DJERV",
  "bom MONOGRAPH UKbpm MONOGRAPH UKbom BROAD OMEGAbpm BROAD OMEGAbom NEUTRAL YERbpm NEUTRAL YER",
  "bom YERUn BACK YERbpm YERUn BACK YERbom IOTIFIED YATbpm IOTIFIED YATbom REVERSED YU",
  "bpm REVERSED YUbom IOTIFIED Abpm IOTIFIED Abom CLOSED LITTLE YUSbpm CLOSED LITTLE YUS",
  "bom BLENDED YUSbpm BLENDED YUSbom IOTIFIED CLOSED LITTLE YUSbpm IOTIFIED CLOSED LITTLE YUS",
  "bom YNbpm YNbom REVERSED TSEbpm REVERSED TSEbom SOFT DEbpm SOFT DEbom SOFT ELbpm SOFT EL",
  "bom SOFT EMbpm SOFT EMbom MONOCULAR Obpm MONOCULAR Obom BINOCULAR Obpm BINOCULAR O",
  "bomv MONOCULAR Obpmv MONOCULAR Obm MULTIOCULAR OaCOMBINING CYRILLIC VZMETcTEN MILLIONSs",
  "c_ MILLIONSscTHOUSAND MILLIONSsaSLAVONIC ASTERISKaCOMBINING CYRILLICm UKRAINIAN IEdIdYIdU",
  "dHARDsdYERUdSOFTsdOMEGAcKAVYKAcPAYEROKaCYRILLIC KAVYKAbPAYEROKbom DWEbpm DWEbom DZWEbpm DZWE",
  "bom ZHWEbpm ZHWEbom CCHEbpm CCHEbom DZZEbpm DZZEbom TEn] HOOKbpm TEn] HOOKbom TWEbpm TWE",
  "bom TSWEbpm TSWEbom TSSEbpm TSSEbom TCHEbpm TCHEbom HWEbpm HWEbom SHWEbpm SHWEbomv Obpmv O",
  "bom CROSSED Obpm CROSSED OaMODIFIERm CYRILLIC HARDsdSOFTsaCOMBINING CYRILLICm EFdIOTIFIED E",
  "aBAMUMm AcKAcUcKUcEEcREEcTAEcOcNYIcIcLAcPAcRIIcRIEEcLEEEEcMEEEEcTAAcNDAAcNJAEMcMcSUUcMUcSHII",
  "cSIcSHEUXcSEUXcKYEEcKETcNUAEcNUcNJUAEcYOQcSHUcYUQcYAcNSHAcKEUXcPEUXcNJEEcNTEEcPUEcWUEcPEEcFEE",
  "cRUcLUcMIcNIcREUXcRAEcKENcNGKWAENcNGGAcNGAcSHOcPUAEcFUcFOMcWAcNAcLIcPIcLOQcKOcMBENcRENcMENcMA",
  "cTIcKIcMOcMBAAcTETcKPAcTENcNTUUcSAMBAcFAAMAEcKOVUUcKOGHOMbCOMBINING> KOQNDONdTUKWENTISbNJAEMLI",
  "bFULL STOPbCOLONbCOMMAbSEMICOLONbQUESTION>@A700aMODIFIERm CHINESE TONE YIN PINGeYANG PING",
  "eYIN SHANGeYANG SHANGeYIN QUeYANG QUeYIN RUeYANG RUcEXTRA-HIGH DOTTED TONE BAR",
  "cHIGH DOTTED TONE BARcMID DOTTED TONE BARcLOW DOTTED TONE BARcEXTRA-LOW DOTTED TONE BAR",
  "d-HIGH DOTTEDx-STEM TONE BARcHIGH DOTTEDx-STEM TONE BARcMID DOTTEDx-STEM TONE BAR",
  "cLOW DOTTEDx-STEM TONE BARcEXTRA-LOW DOTTEDx-STEM TONE BARd-HIGHx-STEM TONE BAR",
  "cHIGHx-STEM TONE BARcMIDx-STEM TONE BARcLOWx-STEM TONE BARcEXTRA-LOWx-STEM TONE BARcDOT* BAR",
  "dSLASHd[ BARcLOWERt CORNER ANGLEcRAISED UPrdDOWNrdEXCLAMATION>dINVERTED EXCLAMATION>",
  "cLOW INVERTED EXCLAMATION>cSTRESSz HIGH TONEeLOW TONEaLATINom EGYPTOLOGICAL ALEF",
  "bpm EGYPTOLOGICAL ALEFbom EGYPTOLOGICAL AINbpm EGYPTOLOGICAL AINbom HENGbpm HENGbom TZbpm TZ",
  "bom TRESILLObpm TRESILLObom CUATRILLObpm CUATRILLObom CUATRILLOn COMMAbpm CUATRILLOn COMMA",
  "bmpo FeSbom AAbpm AAbom AObpm AObom AUbpm AUbom AVbpm AVbom AVn[ BARbpm AVn[ BARbom AYbpm AY",
  "bom REVERSED Cn DOTbpm REVERSED Cn DOTbom Kn.bpm Kn.bom Kn DIAGONAL.bpm Kn DIAGONAL.",
  "bom Kn.z DIAGONAL.bpm Kn.z DIAGONAL.bom BROKEN Lbpm BROKEN Lbom Ln HIGH.bpm Ln HIGH.",
  "bom On LONG. OVERLAYbpm On LONG. OVERLAYbom On LOOPbpm On LOOPbom OObpm OO",
  "bom Pn. THROUGH DESCENDERbpm Pn. THROUGH DESCENDERbom Pn FLOURISHbpm Pn FLOURISH",
  "bom Pn SQUIRREL TAILbpm Pn SQUIRREL TAILbom Qn. THROUGH DESCENDERbpm Qn. THROUGH DESCENDER",
  "bom Qn DIAGONAL.bpm Qn DIAGONAL.bom R ROTUNDAbpm R ROTUNDAbom RUM ROTUNDAbpm RUM ROTUNDA",
  "bom Vn DIAGONAL.bpm Vn DIAGONAL.bom VYbpm VYbom VISIGOTHIC Zbpm VISIGOTHIC Zbom THORNn.",
  "bpm THORNn.bom THORNn. THROUGH DESCENDERbpm THORNn. THROUGH DESCENDERbom VENDbpm VENDbom ET",
  "bpm ETbom ISbpm ISbom CONbpm CONaMODIFIERm USaLATINpm DUMdLUMdMUMdNUMdRUMbmpo RUMbpm TUMdUM",
  "bom INSULAR Dbpm INSULAR Dbom INSULAR Fbpm INSULAR Fbom INSULAR GdTURNED INSULAR G",
  "bpm TURNED INSULAR Gbom TURNED Lbpm TURNED Lbom INSULAR Rbpm INSULAR Rbom INSULAR S",
  "bpm INSULAR Sbom INSULAR Tbpm INSULAR TaMODIFIERm LOW CIRCUMFLEX ACCENTcCOLONcSHORT EQUALSs",
  "aLATINom SALTILLObpm SALTILLObom TURNED Hbpm Ln RETROFLEX HOOKz BELTbm SINOLOGICAL DOT",
  "bom Nn DESCENDERbpm Nn DESCENDERbom Cn BARbpm Cn BARfPALATAL HOOKdHn PALATAL HOOK",
  "bom Bn FLOURISHbpm Bn FLOURISHbom Fn.bpm Fn.bom VOLAPUK AEbpm VOLAPUK AEbom VOLAPUK OE",
  "bpm VOLAPUK OEbom VOLAPUK UEbpm VOLAPUK UEbom Gn OBLIQUE.bpm Gn OBLIQUE.bom Kn OBLIQUE.",
  "bpm Kn OBLIQUE.bom Nn OBLIQUE.bpm Nn OBLIQUE.bom Rn OBLIQUE.bpm Rn OBLIQUE.bom Sn OBLIQUE.",
  "bpm Sn OBLIQUE.bom Hn HOOKdREVERSED OPEN EdSCRIPT GdLn BELTdpo Ibmpo Qbom TURNED KeT",
  "dJn CROSSED-TAILdCHIdBETAbpm BETAbom OMEGAbpm OMEGAbom Un.bpm Un.bom GLOTTAL Abpm GLOTTAL A",
  "bom GLOTTAL Ibpm GLOTTAL Ibom GLOTTAL Ubpm GLOTTAL Ubom OLD POLISH Obpm OLD POLISH O",
  "bom ANGLICANA Wbpm ANGLICANA Wbom Cn PALATAL HOOKdSn HOOKdZn PALATAL HOOKdDn SHORT. OVERLAY",
  "bpm Dn SHORT. OVERLAYbom Sn SHORT. OVERLAYbpm Sn SHORT. OVERLAY@A7D0bom CLOSED INSULAR G",
  "bpm CLOSED INSULAR G@A7D3dv THORN@A7D5eWYNNbom] SCOTS Sbpm] SCOTS Sbom SIGMOID Sbpm SIGMOID S",
  "@A7F2aMODIFIERmo CdFdQaLATINom REVERSED HALF Hbpm REVERSED HALF HbEPIGRAPHICm SIDEWAYS I",
  "aMODIFIERmo Hn.cp LIGATURE OEaLATINmpo TURNED MbEPIGRAPHICm REVERSED FePdINVERTED MdI LONGA",
  "dARCHAIC MaSYLOTI NAGRIm AdIcs DVISVARAcm UdEdOcs HASANTAcm KOdKHOdGOdGHOcs ANUSVARAcm COdCHO",
  "dJOdJHOdTTOdTTHOdDDOdDDHOdTOdTHOdDOdDHOdNOdPOdPHOdBOdBHOdMOdROdLOdRROdSOdHOcVOWELs AeIeUeEeOO",
  "cPOETRY>-1e-2e-3e-4cs ALTERNATE HASANTA@A830aNORTH INDIC FRACTION| QUARTEReHALFd& QUARTERS",
  "d| SIXTEENTHeEIGHTHd& SIXTEENTHScQUARTER>cPLACEHOLDER>cRUPEE>cQUANTITY>@A840aPHAGS-PAm KAdKHA",
  "dGAdNGAdCAdCHAdJAdNYAdTAdTHAdDAdNAdPAdPHAdBAdMAdTSAdTSHAdDZAdWAdZHAdZAdp AdYAdRAdLAdSHAdSAdHA",
  "dAdIdUdEdOdQAdXAdFAdGGAdEEcSUBJOINEDm WAeYAcm TTAdTTHAdDDAdNNAdALTERNATE YAdVOICELESS SHA",
  "dVOICED HAdASPIRATED FAcSUBJOINEDm RAcSUPERFIXEDm RAcm CANDRABINDUcSINGLE HEAD>cv HEAD>c> SHAD",
  "dv SHAD@A880aSAURASHTRAs ANUSVARAcVISARGAbm AcAAcIcIIcUcUUcVOCALIC RdRRdLdLLcEcEEcAIcOcOOcAU",
  "cKAcKHAcGAcGHAcNGAcCAcCHAcJAcJHAcNYAcTTAcTTHAcDDAcDDHAcNNAcTAcTHAcDAcDHAcNAcPAcPHAcBAcBHAcMA",
  "cYAcRAcLAcVAcSHAcSSAcSAcHAcLLAbCONSONANTs HAARUbVOWELs AAdIdIIdUdUUdVOCALIC ReRReLeLLdEdEEdAI",
  "dOdOOdAUbs VIRAMAcCANDRABINDU@A8CEbDANDAbv DANDAbDIGIT ZEROc|c^c&cFOURcFIVEcSIXcSEVENcEIGHT",
  "cNINE@A8E0aCOMBINING DEVANAGARI DIGIT ZEROd|d^d&dFOURdFIVEdSIXdSEVENdEIGHTdNINEcm AdUdKAdNAdPA",
  "dRAdVIcs AVAGRAHAaDEVANAGARIs SPACING CANDRABINDUcCANDRABINDU VIRAMAcv CANDRABINDU VIRAMA",
  "cCANDRABINDU^d&dAVAGRAHAcPUSHPIKAbGAP FILLERbCARETbHEADSTROKEbs SIDDHAMbJAIN OMbm AYbVOWELs AY",
  "aKAYAH LI DIGIT ZEROd|d^d&dFOURdFIVEdSIXdSEVENdEIGHTdNINEcm KAdKHAdGAdNGAdSAdSHAdZAdNYAdTAdHTA",
  "dNAdPAdPHAdMAdDAdBAdRAdYAdLAdWAdTHAdHAdVAdCAdAdOEdIdOOcVOWEL UEdEdUdEEdOcTONE PLOPHUdCALYA",
  "ePLOPHUcs CWIdSHYAaREJANGm KAcGAcNGAcTAcDAcNAcPAcBAcMAcCAcJAcNYAcSAcRAcLAcYAcWAcHAcMBAcNGGA",
  "cNDAcNYJAcAbVOWELs IdUdEdAIdOdAUdEUdEAbCONSONANTs NGdNdRdHbVIRAMA@A95FbSECTION>",
  "aHANGUL CHOSEONG TIKEUT-MIEUMd-PIEUPd-SIOSd-CIEUCcRIEUL-KIYEOKd-SSANGKIYEOKd-TIKEUT",
  "d-SSANGTIKEUTd-MIEUMd-PIEUPd-SSANGPIEUPd-KAPYEOUNPIEUPd-SIOSd-CIEUCd-KHIEUKHcMIEUM-KIYEOK",
  "d-TIKEUTd-SIOScPIEUP-SIOS-THIEUTHd-KHIEUKHd-HIEUHcSSANGSIOS-PIEUPcIEUNG-RIEULd-HIEUH",
  "cSSANGCIEUC-HIEUHcSSANGTHIEUTHcPHIEUPH-HIEUHcHIEUH-SIOScSSANGYEORINHIEUH",
  "@A980aJAVANESEs PANYANGGAcCECAKcLAYARcWIGNYANbm AcI KAWIdcIIcUcPA CEREKcNGA LELETeRASWADIcEcAI",
  "cOcKAdSASAKdMURDAcGAdMURDAcNGAcCAdMURDAcJAcNYA MURDAcJA MAHAPRANAcNYAcTTAdMAHAPRANAcDDA",
  "dMAHAPRANAcNA MURDAcTAdMURDAcDAdMAHAPRANAcNAcPAdMURDAcBAdMURDAcMAcYAcRAdAGUNGcLAcWAcSA MURDA",
  "dMAHAPRANAdcHAbs CECAK TELUbVOWELs TARUNGdTOLONGdWULUeMELIKdSUKUeMENDUTdTALINGdDIRGA MURE",
  "dPEPETbCONSONANTs KERETdPENGKALdCAKRAbPANGKONbx RERENGGANbt RERENGGANbPADA ANDAPcMADYAcLUHUR",
  "cWINDUcPANGKATcLINGSAcLUNGSIcADEGdADEGcPISELEHbTURNED PADA PISELEH@A9CFbPANGRANGKEPbDIGIT ZERO",
  "c|c^c&cFOURcFIVEcSIXcSEVENcEIGHTcNINE@A9DEbPADA TIRTA TUMETEScISEN-ISENaMYANMARm SHAN GHAdCHA",
  "dJHAdNNAdBHAbs SHAN SAWbMODIFIERm SHAN REDUPLICATIONbm TAI LAING NYAeFAeGAeGHAeJAeJHAeDDAeDDHA",
  "eNNAbTAI LAING DIGIT ZEROe|e^e&eFOUReFIVEeSIXeSEVENeEIGHTeNINEbm TAI LAING LLAeDAeDHAeBAeBHA",
  "@AA00aCHAMm AcIcUcEcAIcOcKAcKHAcGAcGHAcNGUEcNGAcCHAcCHHAcJAcJHAcNHUEcNHAcNHJAcTAcTHAcDAcDHA",
  "cNUEcNAcDDAcPAcPPAcPHAcBAcBHAcMUEcMAcBBAcYAcRAcLAcVAcSSAcSAcHAbVOWELs AAdIdIIdEIdUdOEdOdAIdAU",
  "dUEbCONSONANTs YAdRAdLAdWA@AA40bm$ KdGdNGbCONSONANTs$ NGbm$ CHdTdNdPdYdRdLdSSbCONSONANTs$ MeH",
  "@AA50bDIGIT ZEROc|c^c&cFOURcFIVEcSIXcSEVENcEIGHTcNINE@AA5CbPUNCTUATION SPIRALcDANDAcv DANDA",
  "cTRIPLE DANDAaMYANMARm KHAMTI GAdCAdCHAdJAdJHAdNYAdTTAdTTHAdDDAdDDHAdDHAdNAdSAdHAdHHAdFA",
  "bMODIFIERm KHAMTI REDUPLICATIONbm KHAMTI XAdZAdRAbLOGOGRAM KHAMTI OAYdQNdHM",
  "b; AITON EXCLAMATIONd|d^bm AITON RAbs PAO KAREN TONEcTAI LAING TONE-2f-5bm SHWE PALAUNG CHA",
  "eSHAaTAI VIETm LOW KOdHIGH KOdLOW KHOdHIGH KHOdLOW KHHOdHIGH KHHOdLOW GOdHIGH GOdLOW NGO",
  "dHIGH NGOdLOW COdHIGH COdLOW CHOdHIGH CHOdLOW SOdHIGH SOdLOW NYOdHIGH NYOdLOW DOdHIGH DO",
  "dLOW TOdHIGH TOdLOW THOdHIGH THOdLOW NOdHIGH NOdLOW BOdHIGH BOdLOW POdHIGH POdLOW PHOdHIGH PHO",
  "dLOW FOdHIGH FOdLOW MOdHIGH MOdLOW YOdHIGH YOdLOW ROdHIGH ROdLOW LOdHIGH LOdLOW VOdHIGH VO",
  "dLOW HOdHIGH HOdLOW OdHIGH OcMAI KANGcVOWEL AAdIdUEdUdEdOcMAI KHITcVOWEL IAdUEAdUAdAUEdAYdAN",
  "dAMcTONE MAI EKeNUENGeTHOeSONG@AADBc; KONdNUENGdSAMdHO HOIdKOI KOIaMEETEI MAYEKm EdOdCHAdNYA",
  "dTTAdTTHAdDDAdDDHAdNNAdSHAdSSAcVOWELs IIeUUeAAIeAUeAAUcCHEIKHANcAHANG KHUDAMcANJI",
  "cSYLLABLE REPETITION>cWORD REPETITION>cVOWELs VISARGAcVIRAMA@AB01aETHIOPIC SYLLABLE TTHUcTTHI",
  "cTTHAAcTTHEEcTTHEcTTHO@AB09cDDHUcDDHIcDDHAAcDDHEEcDDHEcDDHO@AB11cDZUcDZIcDZAAcDZEEcDZEcDZO",
  "@AB20cCCHHAcCCHHUcCCHHIcCCHHAAcCCHHEEcCCHHEcCCHHO@AB28cBBAcBBUcBBIcBBAAcBBEEcBBEcBBO",
  "@AB30aLATINpm BARRED ALPHAdA REVERSED-SCHWAdBLACKLETTER EdBARRED EdEn FLOURISHdLENIS F",
  "dSCRIPT Gn CROSSED-TAILdLn INVERTED LAZY Sfv] TILDEf] RINGdMn CROSSED-TAILdNn CROSSED-TAIL",
  "dENGn CROSSED-TAILdBLACKLETTER Ofn.dOPEN On.dINVERTED OEdTURNED OEn.g[.eO OPEN-Ohn.dSTIRRUP R",
  "bmpo Rnt LEGbpm R WITHOUT HANDLEdv RdRn CROSSED-TAILdv Rn CROSSED-TAILdSCRIPT Rfn RING",
  "dBASELINE ESHdUn SHORTt LEGeBARn SHORTt LEGdUIdTURNED UIdUnx HOOKdCHIen LOWt RINGgx SERIF",
  "dXn LOWt RINGfLONGx LEGiz LOWt RINGin SERIFdYn SHORTt LEGaMODIFIER BREVEn INVERTED BREVE",
  "bmp HENGdLn INVERTED LAZY Sf] TILDEdUnx HOOKaLATINpm SAKHA YATdIOTIFIED EdOPEN OEdUO",
  "dINVERTED ALPHAaGREEKmpo OMEGAaLATINpm DZ DIGRAPHn RETROFLEX HOOKdTS DIGRAPHn RETROFLEX HOOK",
  "dTURNED Rn] TILDEaMODIFIERmp TURNED Wcx TACKct TACK@AB70aCHEROKEEpm AdEdIdOdUdVdGAdKAdGEdGIdGO",
  "dGUdGVdHAdHEdHIdHOdHUdHVdLAdLEdLIdLOdLUdLVdMAdMEdMIdMOdMUdNAdHNAdNAHdNEdNIdNOdNUdNVdQUAdQUE",
  "dQUIdQUOdQUUdQUVdSAdSdSEdSIdSOdSUdSVdDAdTAdDEdTEdDIdTIdDOdDUdDVdDLAdTLAdTLEdTLIdTLOdTLUdTLV",
  "dTSAdTSEdTSIdTSOdTSUdTSVdWAdWEdWIdWOdWUdWVdYAaMEETEI MAYEKm KOKdSAMdLAIdMITdPAdNAdCHILdTIL",
  "dKHOUdNGOUdTHOUdWAIdYANGdHUKdUNdIdPHAMdATIYAdGOKdJHAMdRAIdBAdJILdDILdGHOUdDHOUdBHAMdKOK LONSUM",
  "dLAI LONSUMdMIT LONSUMdPA LONSUMdNA LONSUMdTIL LONSUMdNGOU LONSUMdI LONSUMcVOWELs ONAPeINAP",
  "eANAPeYENAPeSOUNAPeUNAPeCHEINAPeNUNGcCHEIKHEIcLUM IYEKcAPUN IYEK@ABF0cDIGIT ZEROd|d^d&dFOUR",
  "dFIVEdSIXdSEVENdEIGHTdNINE@D7B0aHANGUL JUNGSEONG O-YEOd-O-IcYO-Ad-AEd-EOcU-YEOd-I-IcYU-AEd-O",
  "cEU-Ad-EOd-Ed-OcI-YA-Od-YAEd-YEOd-YEd-O-Id-YOd-YUd-IcARAEA-Ad-E@D7CBbJONGSEONG NIEUN-RIEUL",
  "d-CHIEUCHcSSANGTIKEUTd-PIEUPcTIKEUT-PIEUPd-SIOSe-KIYEOKd-CIEUCd-CHIEUCHd-THIEUTH",
  "cRIEUL-SSANGKIYEOKd-KIYEOK-HIEUHcSSANGRIEUL-KHIEUKHcRIEUL-MIEUM-HIEUHd-PIEUP-TIKEUTe-PHIEUPH",
  "d-YESIEUNGd-YEORINHIEUH-HIEUHcKAPYEOUNRIEULcMIEUM-NIEUNd-SSANGNIEUNcSSANGMIEUM",
  "cMIEUM-PIEUP-SIOSd-CIEUCcPIEUP-TIKEUTd-RIEUL-PHIEUPHd-MIEUMcSSANGPIEUPcPIEUP-SIOS-TIKEUT",
  "d-CIEUCd-CHIEUCHcSIOS-MIEUMd-KAPYEOUNPIEUPcSSANGSIOS-KIYEOKd-TIKEUTcSIOS-PANSIOSd-CIEUC",
  "d-CHIEUCHd-THIEUTHd-HIEUHcPANSIOS-PIEUPd-KAPYEOUNPIEUPcYESIEUNG-MIEUMd-HIEUHcCIEUC-PIEUP",
  "d-SSANGPIEUPcSSANGCIEUCcPHIEUPH-SIOSd-THIEUTH@F900aCJK COMPATIBILITY IDEOGRAPH-F900d-F901",
  "d-F902d-F903d-F904d-F905d-F906d-F907d-F908d-F909d-F90Ad-F90Bd-F90Cd-F90Dd-F90Ed-F90Fd-F910",
  "d-F911d-F912d-F913d-F914d-F915d-F916d-F917d-F918d-F919d-F91Ad-F91Bd-F91Cd-F91Dd-F91Ed-F91F",
  "d-F920d-F921d-F922d-F923d-F924d-F925d-F926d-F927d-F928d-F929d-F92Ad-F92Bd-F92Cd-F92Dd-F92E",
  "d-F92Fd-F930d-F931d-F932d-F933d-F934d-F935d-F936d-F937d-F938d-F939d-F93Ad-F93Bd-F93Cd-F93D",
  "d-F93Ed-F93Fd-F940d-F941d-F942d-F943d-F944d-F945d-F946d-F947d-F948d-F949d-F94Ad-F94Bd-F94C",
  "d-F94Dd-F94Ed-F94Fd-F950d-F951d-F952d-F953d-F954d-F955d-F956d-F957d-F958d-F959d-F95Ad-F95B",
  "d-F95Cd-F95Dd-F95Ed-F95Fd-F960d-F961d-F962d-F963d-F964d-F965d-F966d-F967d-F968d-F969d-F96A",
  "d-F96Bd-F96Cd-F96Dd-F96Ed-F96Fd-F970d-F971d-F972d-F973d-F974d-F975d-F976d-F977d-F978d-F979",
  "d-F97Ad-F97Bd-F97Cd-F97Dd-F97Ed-F97Fd-F980d-F981d-F982d-F983d-F984d-F985d-F986d-F987d-F988",
  "d-F989d-F98Ad-F98Bd-F98Cd-F98Dd-F98Ed-F98Fd-F990d-F991d-F992d-F993d-F994d-F995d-F996d-F997",
  "d-F998d-F999d-F99Ad-F99Bd-F99Cd-F99Dd-F99Ed-F99Fd-F9A0d-F9A1d-F9A2d-F9A3d-F9A4d-F9A5d-F9A6",
  "d-F9A7d-F9A8d-F9A9d-F9AAd-F9ABd-F9ACd-F9ADd-F9AEd-F9AFd-F9B0d-F9B1d-F9B2d-F9B3d-F9B4d-F9B5",
  "d-F9B6d-F9B7d-F9B8d-F9B9d-F9BAd-F9BBd-F9BCd-F9BDd-F9BEd-F9BFd-F9C0d-F9C1d-F9C2d-F9C3d-F9C4",
  "d-F9C5d-F9C6d-F9C7d-F9C8d-F9C9d-F9CAd-F9CBd-F9CCd-F9CDd-F9CEd-F9CFd-F9D0d-F9D1d-F9D2d-F9D3",
  "d-F9D4d-F9D5d-F9D6d-F9D7d-F9D8d-F9D9d-F9DAd-F9DBd-F9DCd-F9DDd-F9DEd-F9DFd-F9E0d-F9E1d-F9E2",
  "d-F9E3d-F9E4d-F9E5d-F9E6d-F9E7d-F9E8d-F9E9d-F9EAd-F9EBd-F9ECd-F9EDd-F9EEd-F9EFd-F9F0d-F9F1",
  "d-F9F2d-F9F3d-F9F4d-F9F5d-F9F6d-F9F7d-F9F8d-F9F9d-F9FAd-F9FBd-F9FCd-F9FDd-F9FEd-F9FFd-FA00",
  "d-FA01d-FA02d-FA03d-FA04d-FA05d-FA06d-FA07d-FA08d-FA09d-FA0Ad-FA0Bd-FA0Cd-FA0Dd-FA0Ed-FA0F",
  "d-FA10d-FA11d-FA12d-FA13d-FA14d-FA15d-FA16d-FA17d-FA18d-FA19d-FA1Ad-FA1Bd-FA1Cd-FA1Dd-FA1E",
  "d-FA1Fd-FA20d-FA21d-FA22d-FA23d-FA24d-FA25d-FA26d-FA27d-FA28d-FA29d-FA2Ad-FA2Bd-FA2Cd-FA2D",
  "d-FA2Ed-FA2Fd-FA30d-FA31d-FA32d-FA33d-FA34d-FA35d-FA36d-FA37d-FA38d-FA39d-FA3Ad-FA3Bd-FA3C",
  "d-FA3Dd-FA3Ed-FA3Fd-FA40d-FA41d-FA42d-FA43d-FA44d-FA45d-FA46d-FA47d-FA48d-FA49d-FA4Ad-FA4B",
  "d-FA4Cd-FA4Dd-FA4Ed-FA4Fd-FA50d-FA51d-FA52d-FA53d-FA54d-FA55d-FA56d-FA57d-FA58d-FA59d-FA5A",
  "d-FA5Bd-FA5Cd-FA5Dd-FA5Ed-FA5Fd-FA60d-FA61d-FA62d-FA63d-FA64d-FA65d-FA66d-FA67d-FA68d-FA69",
  "d-FA6Ad-FA6Bd-FA6Cd-FA6D@FA70d-FA70d-FA71d-FA72d-FA73d-FA74d-FA75d-FA76d-FA77d-FA78d-FA79",
  "d-FA7Ad-FA7Bd-FA7Cd-FA7Dd-FA7Ed-FA7Fd-FA80d-FA81d-FA82d-FA83d-FA84d-FA85d-FA86d-FA87d-FA88",
  "d-FA89d-FA8Ad-FA8Bd-FA8Cd-FA8Dd-FA8Ed-FA8Fd-FA90d-FA91d-FA92d-FA93d-FA94d-FA95d-FA96d-FA97",
  "d-FA98d-FA99d-FA9Ad-FA9Bd-FA9Cd-FA9Dd-FA9Ed-FA9Fd-FAA0d-FAA1d-FAA2d-FAA3d-FAA4d-FAA5d-FAA6",
  "d-FAA7d-FAA8d-FAA9d-FAAAd-FAABd-FAACd-FAADd-FAAEd-FAAFd-FAB0d-FAB1d-FAB2d-FAB3d-FAB4d-FAB5",
  "d-FAB6d-FAB7d-FAB8d-FAB9d-FABAd-FABBd-FABCd-FABDd-FABEd-FABFd-FAC0d-FAC1d-FAC2d-FAC3d-FAC4",
  "d-FAC5d-FAC6d-FAC7d-FAC8d-FAC9d-FACAd-FACBd-FACCd-FACDd-FACEd-FACFd-FAD0d-FAD1d-FAD2d-FAD3",
  "d-FAD4d-FAD5d-FAD6d-FAD7d-FAD8d-FAD9@FB00aLATINp LIGATURE FFdFIdFLdFFIdFFLdLONG S TdST",
  "@FB13aARMENIANp LIGATURE MEN NOWeECHeINIdVEW NOWdMEN XEH@FB1DaHEBREWm YODn HIRIQ",
  "bPOINT JUDEO-SPANISH VARIKAbLIGATURE YIDDISH YOD YOD PATAHbm ALTERNATIVE AYINcWIDE ALEFdDALET",
  "dHEdKAFdLAMEDd$ MEMdRESHdTAVcALTERNATIVE PLUSscSHINn SHIN DOTeSIN DOTeDAGESHz SHIN DOTgSIN DOT",
  "cALEFn PATAHeQAMATSeMAPIQcBETn DAGESHcGIMELn DAGESHcDALETn DAGESHcHEn MAPIQcVAVn DAGESH",
  "cZAYINn DAGESH@FB38cTETn DAGESHcYODn DAGESHc$ KAFn DAGESHcKAFn DAGESHcLAMEDn DAGESH",
  "@FB3EcMEMn DAGESH@FB40cNUNn DAGESHcSAMEKHn DAGESH@FB43c$ PEn DAGESHcPEn DAGESH",
  "@FB46cTSADIn DAGESHcQOFn DAGESHcRESHn DAGESHcSHINn DAGESHcTAVn DAGESHcVAVn HOLAMcBETn RAFE",
  "cKAFn RAFEcPEn RAFEbLIGATURE ALEF LAMEDaARABICm ALEF WASLAwqe$qcBEEHwqd$qd,qdMEDIALqcPEHwqd$q",
  "d,qdMEDIALqcBEHEHwqd$qd,qdMEDIALqcTTEHEHwqd$qd,qdMEDIALqcTEHEHwqd$qd,qdMEDIALqcTTEHwqd$qd,q",
  "dMEDIALqcVEHwqd$qd,qdMEDIALqcPEHEHwqd$qd,qdMEDIALqcDYEHwqd$qd,qdMEDIALqcNYEHwqd$qd,qdMEDIALq",
  "cTCHEHwqd$qd,qdMEDIALqcTCHEHEHwqd$qd,qdMEDIALqcDDAHALwqd$qcDAHALwqd$qcDULwqd$qcDDALwqd$qcJEHwq",
  "d$qcRREHwqd$qcKEHEHwqd$qd,qdMEDIALqcGAFwqd$qd,qdMEDIALqcGUEHwqd$qd,qdMEDIALqcNGOEHwqd$qd,q",
  "dMEDIALqcNOON GHUNNAwqe$qcRNOONwqd$qd,qdMEDIALqcHEHn YEHuwqg$qdGOALwqe$qe,qeMEDIALq",
  "dDOACHASHMEEwqe$qe,qeMEDIALqcYEH BARREEwqe$qen HAMZAuwqh$qb; DOTud!c^ DOTSue!c& DOTSue!",
  "ePOINTING DOWNWARDSug!cFOUR DOTSue!cv* BAR!c^ DOTS VERTICALLYuf!cRINGcp TAHue!cWASLAu",
  "@FBD3bm NGwqd$qd,qdMEDIALqcUwqd$qcOEwqd$qcYUwqd$qcUn HAMZAuwqcVEwqd$qcKIRGHIZ OEwqe$qdYUwqe$q",
  "cEwqd$qd,qdMEDIALqcUIGHUR KAZAKH KIRGHIZ ALEF MAKSURA,qhMEDIALqbLIGATURE YEHn HAMZAun ALEFwq",
  "i$qhAEwqi$qhWAWwqi$qhUwqi$qhOEwqi$qhYUwqi$qhEwqi$qi,q",
  "cUIGHUR KIRGHIZ YEHn HAMZAun ALEF MAKSURAwql$ql,qbm FARSI YEHwqe$qe,qeMEDIALq",
  "bLIGATURE YEHn HAMZAun JEEMwqhHAHwqhMEEMwqhALEF MAKSURAwqhYEHwqcBEHn JEEMwqeHAHwqeKHAHwq",
  "eMEEMwqeALEF MAKSURAwqeYEHwqcTEHn JEEMwqeHAHwqeKHAHwqeMEEMwqeALEF MAKSURAwqeYEHwqcTHEHn JEEMwq",
  "eMEEMwqeALEF MAKSURAwqeYEHwqcJEEMn HAHwqeMEEMwqcHAHn JEEMwqeMEEMwqcKHAHn JEEMwqeHAHwqeMEEMwq",
  "cSEENn JEEMwqeHAHwqeKHAHwqeMEEMwqcSADn HAHwqeMEEMwqcDADn JEEMwqeHAHwqeKHAHwqeMEEMwqcTAHn HAHwq",
  "eMEEMwqcZAHn MEEMwqcAINn JEEMwqeMEEMwqcGHAINn JEEMwqeMEEMwqcFEHn JEEMwqeHAHwqeKHAHwqeMEEMwq",
  "eALEF MAKSURAwqeYEHwqcQAFn HAHwqeMEEMwqeALEF MAKSURAwqeYEHwqcKAFn ALEFwqeJEEMwqeHAHwqeKHAHwq",
  "eLAMwqeMEEMwqeALEF MAKSURAwqeYEHwqcLAMn JEEMwqeHAHwqeKHAHwqeMEEMwqeALEF MAKSURAwqeYEHwq",
  "cMEEMn JEEMwqeHAHwqeKHAHwqeMEEMwqeALEF MAKSURAwqeYEHwqcNOONn JEEMwqeHAHwqeKHAHwqeMEEMwq",
  "eALEF MAKSURAwqeYEHwqcHEHn JEEMwqeMEEMwqeALEF MAKSURAwqeYEHwqcYEHn JEEMwqeHAHwqeKHAHwqeMEEMwq",
  "eALEF MAKSURAwqeYEHwqcTHALn SUPERSCRIPT ALEFwqcREHn SUPERSCRIPT ALEFwq",
  "cALEF MAKSURAn SUPERSCRIPT ALEFwqcSHADDAn DAMMATANwqeKASRATANwqeFATHAwqeDAMMAwqeKASRAwq",
  "eSUPERSCRIPT ALEFwqcYEHn HAMZAun REH$qhZAIN$qhMEEM$qhNOON$qhALEF MAKSURA$qhYEH$qcBEHn REH$q",
  "eZAIN$qeMEEM$qeNOON$qeALEF MAKSURA$qeYEH$qcTEHn REH$qeZAIN$qeMEEM$qeNOON$qeALEF MAKSURA$q",
  "eYEH$qcTHEHn REH$qeZAIN$qeMEEM$qeNOON$qeALEF MAKSURA$qeYEH$qcFEHn ALEF MAKSURA$qeYEH$q",
  "cQAFn ALEF MAKSURA$qeYEH$qcKAFn ALEF$qeLAM$qeMEEM$qeALEF MAKSURA$qeYEH$qcLAMn MEEM$q",
  "eALEF MAKSURA$qeYEH$qcMEEMn ALEF$qeMEEM$qcNOONn REH$qeZAIN$qeMEEM$qeNOON$qeALEF MAKSURA$q",
  "eYEH$qcALEF MAKSURAn SUPERSCRIPT ALEF$qcYEHn REH$qeZAIN$qeMEEM$qeNOON$qeALEF MAKSURA$qeYEH$q",
  "eHAMZAun JEEM,qhHAH,qhKHAH,qhMEEM,qhHEH,qcBEHn JEEM,qeHAH,qeKHAH,qeMEEM,qeHEH,qcTEHn JEEM,q",
  "eHAH,qeKHAH,qeMEEM,qeHEH,qcTHEHn MEEM,qcJEEMn HAH,qeMEEM,qcHAHn JEEM,qeMEEM,qcKHAHn JEEM,q",
  "eMEEM,qcSEENn JEEM,qeHAH,qeKHAH,qeMEEM,qcSADn HAH,qeKHAH,qeMEEM,qcDADn JEEM,qeHAH,qeKHAH,q",
  "eMEEM,qcTAHn HAH,qcZAHn MEEM,qcAINn JEEM,qeMEEM,qcGHAINn JEEM,qeMEEM,qcFEHn JEEM,qeHAH,q",
  "eKHAH,qeMEEM,qcQAFn HAH,qeMEEM,qcKAFn JEEM,qeHAH,qeKHAH,qeLAM,qeMEEM,qcLAMn JEEM,qeHAH,q",
  "eKHAH,qeMEEM,qeHEH,qcMEEMn JEEM,qeHAH,qeKHAH,qeMEEM,qcNOONn JEEM,qeHAH,qeKHAH,qeMEEM,qeHEH,q",
  "cHEHn JEEM,qeMEEM,qeSUPERSCRIPT ALEF,qcYEHn JEEM,qeHAH,qeKHAH,qeMEEM,qeHEH,q",
  "eHAMZAun MEEM MEDIALqhHEH MEDIALqcBEHn MEEM MEDIALqeHEH MEDIALqcTEHn MEEM MEDIALqeHEH MEDIALq",
  "cTHEHn MEEM MEDIALqeHEH MEDIALqcSEENn MEEM MEDIALqeHEH MEDIALqcSHEENn MEEM MEDIALqeHEH MEDIALq",
  "cKAFn LAM MEDIALqeMEEM MEDIALqcLAMn MEEM MEDIALqcNOONn MEEM MEDIALqeHEH MEDIALq",
  "cYEHn MEEM MEDIALqeHEH MEDIALqcSHADDAn FATHA MEDIALqeDAMMA MEDIALqeKASRA MEDIALq",
  "cTAHn ALEF MAKSURAwqeYEHwqcAINn ALEF MAKSURAwqeYEHwqcGHAINn ALEF MAKSURAwqeYEHwq",
  "cSEENn ALEF MAKSURAwqeYEHwqcSHEENn ALEF MAKSURAwqeYEHwqcHAHn ALEF MAKSURAwqeYEHwq",
  "cJEEMn ALEF MAKSURAwqeYEHwqcKHAHn ALEF MAKSURAwqeYEHwqcSADn ALEF MAKSURAwqeYEHwq",
  "cDADn ALEF MAKSURAwqeYEHwqcSHEENn JEEMwqeHAHwqeKHAHwqeMEEMwqeREHwqcSEENn REHwqcSADn REHwq",
  "cDADn REHwqcTAHn ALEF MAKSURA$qeYEH$qcAINn ALEF MAKSURA$qeYEH$qcGHAINn ALEF MAKSURA$qeYEH$q",
  "cSEENn ALEF MAKSURA$qeYEH$qcSHEENn ALEF MAKSURA$qeYEH$qcHAHn ALEF MAKSURA$qeYEH$q",
  "cJEEMn ALEF MAKSURA$qeYEH$qcKHAHn ALEF MAKSURA$qeYEH$qcSADn ALEF MAKSURA$qeYEH$q",
  "cDADn ALEF MAKSURA$qeYEH$qcSHEENn JEEM$qeHAH$qeKHAH$qeMEEM$qeREH$qcSEENn REH$qcSADn REH$q",
  "cDADn REH$qcSHEENn JEEM,qeHAH,qeKHAH,qeMEEM,qcSEENn HEH,qcSHEENn HEH,qcTAHn MEEM,q",
  "cSEENn JEEM MEDIALqeHAH MEDIALqeKHAH MEDIALqcSHEENn JEEM MEDIALqeHAH MEDIALqeKHAH MEDIALq",
  "cTAHn MEEM MEDIALqcZAHn MEEM MEDIALqcALEFn FATHATAN$qfwqaORNATEx PARENTHESISbt PARENTHESIS",
  "aARABIC LIGATURE RAHIMAHU ALLAAHcRADI ALLAAHU ANHeANHAAeANHUMeANHUMAAeANHUNNA",
  "cSALLALLAAHU ALAYHI WA-AALIHcALAYHI AS-SALAAMcALAYHIM AS-SALAAMcALAYHIMAA AS-SALAAM",
  "cALAYHI AS-SALAATU WAS-SALAAMcQUDDISA SIRRAHcSALLALLAHU ALAYHI WAAALIHEE WA-SALLAM",
  "cALAYHAA AS-SALAAMcTABAARAKA WA-TAAALAAcRAHIMAHUM ALLAAHcTEHn JEEMn MEEM,qeHAHn JEEM$qh,q",
  "gMEEM,qeKHAHn MEEM,qeMEEMn JEEM,qgHAH,qgKHAH,qcJEEMn MEEMn HAH$qh,qcHAHn MEEMn YEH$q",
  "gALEF MAKSURA$qcSEENn HAHn JEEM,qeJEEMn HAH,qgALEF MAKSURA$qeMEEMn HAH$qh,qgJEEM,qgMEEM$qh,q",
  "cSADn HAHn HAH$qh,qeMEEMn MEEM$qcSHEENn HAHn MEEM$qh,qeJEEMn YEH$qeMEEMn KHAH$qh,qgMEEM$qh,q",
  "cDADn HAHn ALEF MAKSURA$qeKHAHn MEEM$qh,qcTAHn MEEMn HAH$qh,qgMEEM,qgYEH$qcAINn JEEMn MEEM$q",
  "eMEEMn MEEM$qh,qgALEF MAKSURA$qcGHAINn MEEMn MEEM$qgYEH$qgALEF MAKSURA$qcFEHn KHAHn MEEM$qh,q",
  "cQAFn MEEMn HAH$qgMEEM$qcLAMn HAHn MEEM$qgYEH$qgALEF MAKSURA$qeJEEMn JEEM,qh$qeKHAHn MEEM$qh,q",
  "eMEEMn HAH$qh,qcMEEMn HAHn JEEM,qgMEEM,qgYEH$qeJEEMn HAH,qgMEEM,qeKHAHn JEEM,qgMEEM,q",
  "@FD92eJEEMn KHAH,qcHEHn MEEMn JEEM,qgMEEM,qcNOONn HAHn MEEM,qgALEF MAKSURA$qeJEEMn MEEM$qh,q",
  "gALEF MAKSURA$qeMEEMn YEH$qgALEF MAKSURA$qcYEHn MEEMn MEEM$qh,qcBEHn KHAHn YEH$q",
  "cTEHn JEEMn YEH$qgALEF MAKSURA$qeKHAHn YEH$qgALEF MAKSURA$qeMEEMn YEH$qgALEF MAKSURA$q",
  "cJEEMn MEEMn YEH$qeHAHn ALEF MAKSURA$qeMEEMn ALEF MAKSURA$qcSEENn KHAHn ALEF MAKSURA$q",
  "cSADn HAHn YEH$qcSHEENn HAHn YEH$qcDADn HAHn YEH$qcLAMn JEEMn YEH$qeMEEMn YEH$q",
  "cYEHn HAHn YEH$qeJEEMn YEH$qeMEEMn YEH$qcMEEMn MEEMn YEH$qcQAFn MEEMn YEH$qcNOONn HAHn YEH$q",
  "cQAFn MEEMn HAH,qcLAMn HAHn MEEM,qcAINn MEEMn YEH$qcKAFn MEEMn YEH$qcNOONn JEEMn HAH,q",
  "cMEEMn KHAHn YEH$qcLAMn JEEMn MEEM,qcKAFn MEEMn MEEM$qcLAMn JEEMn MEEM$qcNOONn JEEMn HAH$q",
  "cJEEMn HAHn YEH$qcHAHn JEEMn YEH$qcMEEMn JEEMn YEH$qcFEHn MEEMn YEH$qcBEHn HAHn YEH$q",
  "cKAFn MEEMn MEEM,qcAINn JEEMn MEEM,qcSADn MEEMn MEEM,qcSEENn KHAHn YEH$qcNOONn JEEMn YEH$q",
  "@FDCFcSALAAMUHU ALAYNAA@FDF0cSALLA USED AS KORANIC STOPswqcQALA USED AS KORANIC STOPswq",
  "cALLAHwqcAKBARwqcMOHAMMADwqcSALAMwqcRASOULwqcALAYHEwqcWASALLAMwqcSALLAwq",
  "cSALLALLAHOU ALAYHE WASALLAMcJALLAJALALOUHOUaRIALs",
  "aARABIC LIGATURE BISMILLAH AR-RAHMAN AR-RAHEEMcSUBHAANAHU WA TAAALAAcAZZA WA JALL",
  "aVARIATION SELECTOR-1c-2c-3c-4c-5c-6c-7c-8c-9c-10c-11c-12c-13c-14c-15c-16",
  "aPRESENTATIONq FOR* COMMAeIDEOGRAPHIC COMMAfFULL STOPeCOLONeSEMICOLONeEXCLAMATION>eQUESTION>",
  "ex? LENTICULAR~et? LENTICULAR BRAKCETe[ ELLIPSIS@FE20aCOMBINING LIGATUREx HALFct HALF",
  "bv TILDEx HALFdt HALFbMACRONx HALFct HALFbCONJOINING MACRONbLIGATUREx HALF!ct HALF!",
  "bTILDEx HALF!ct HALF!bMACRONx HALF!ct HALF!bCONJOINING MACRON!bCYRILLIC TITLOx HALFdt HALF",
  "aPRESENTATIONq FOR*^ DOT LEADEReEM DASHeEN DASHeLOW LINEeWAVY LOW LINEex PARENTHESIS",
  "et PARENTHESISex CURLY~et CURLY~ex TORTOISE SHELL~et TORTOISE SHELL~ex< LENTICULAR~",
  "et< LENTICULAR~exv ANGLE~etv ANGLE~ex ANGLE~et ANGLE~ex CORNER~et CORNER~ex? CORNER~",
  "et? CORNER~aSESAME DOTa? SESAME DOTaPRESENTATIONq FOR*x SQUARE~et SQUARE~aDASHED OVERLINE",
  "aCENTRELINE OVERLINEaWAVY OVERLINEav WAVY OVERLINEaDASHED LOW LINEaCENTRELINE LOW LINE",
  "aWAVY LOW LINEap COMMAbIDEOGRAPHIC COMMAbFULL STOP@FE54bSEMICOLONbCOLONbQUESTION>bEXCLAMATION>",
  "bEM DASHbx PARENTHESISbt PARENTHESISbx CURLY~bt CURLY~bx TORTOISE SHELL~bt TORTOISE SHELL~",
  "bNUMBERsbAMPERSANDbASTERISKbPLUSsbHYPHEN-MINUSbLESS-THANsbGREATER-THANsbEQUALSs",
  "@FE68bREVERSE SOLIDUSbDOLLARsbPERCENTsbCOMMERCIAL AT@FE70aARABIC FATHATANwqbTATWEELn FATHATANu",
  "bDAMMATANwqbTAIL FRAGMENTbKASRATANwq@FE76bFATHAwqcMEDIALqbDAMMAwqcMEDIALqbKASRAwqcMEDIALq",
  "bSHADDAwqcMEDIALqbSUKUNwqcMEDIALqbm HAMZAwqcALEFn MADDAuwqg$qeHAMZAuwqg$qcWAWn HAMZAuwqg$q",
  "cALEFn HAMZA!wqg$qcYEHn HAMZAuwqg$qg,qgMEDIALqcALEFwqd$qcBEHwqd$qd,qdMEDIALqcTEH MARBUTAwqe$q",
  "dwqd$qd,qdMEDIALqcTHEHwqd$qd,qdMEDIALqcJEEMwqd$qd,qdMEDIALqcHAHwqd$qd,qdMEDIALqcKHAHwqd$qd,q",
  "dMEDIALqcDALwqd$qcTHALwqd$qcREHwqd$qcZAINwqd$qcSEENwqd$qd,qdMEDIALqcSHEENwqd$qd,qdMEDIALq",
  "cSADwqd$qd,qdMEDIALqcDADwqd$qd,qdMEDIALqcTAHwqd$qd,qdMEDIALqcZAHwqd$qd,qdMEDIALqcAINwqd$qd,q",
  "dMEDIALqcGHAINwqd$qd,qdMEDIALqcFEHwqd$qd,qdMEDIALqcQAFwqd$qd,qdMEDIALqcKAFwqd$qd,qdMEDIALq",
  "cLAMwqd$qd,qdMEDIALqcMEEMwqd$qd,qdMEDIALqcNOONwqd$qd,qdMEDIALqcHEHwqd$qd,qdMEDIALqcWAWwqd$q",
  "cALEF MAKSURAwqe$qcYEHwqd$qd,qdMEDIALqbLIGATURE LAMn ALEFn MADDAuwqi$qgHAMZAuwqi$qh!wqi$qfwq",
  "f$q@FEFFaZERO WIDTH NO-BREAK SPACE@FF01aFULLWIDTH EXCLAMATION>bQUOTATION>bNUMBERsbDOLLARs",
  "bPERCENTsbAMPERSANDbAPOSTROPHEbx PARENTHESISbt PARENTHESISbASTERISKbPLUSsbCOMMAbHYPHEN-MINUS",
  "bFULL STOPbSOLIDUSbDIGIT ZEROc|c^c&cFOURcFIVEcSIXcSEVENcEIGHTcNINEbCOLONbSEMICOLONbLESS-THANs",
  "bEQUALSsbGREATER-THANsbQUESTION>bCOMMERCIAL ATbLATINom AeBeCeDeEeFeGeHeIeJeKeLeMeNeOePeQeReSeT",
  "eUeVeWeXeYeZbx SQUARE~bREVERSE SOLIDUSbt SQUARE~bCIRCUMFLEX ACCENTbLOW LINEbGRAVE ACCENT",
  "bLATINpm AeBeCeDeEeFeGeHeIeJeKeLeMeNeOePeQeReSeTeUeVeWeXeYeZbx CURLY~b* LINEbt CURLY~bTILDE",
  "bx? PARENTHESISbt? PARENTHESISaHALFWIDTH IDEOGRAPHIC FULL STOPbx CORNER~bt CORNER~",
  "bIDEOGRAPHIC COMMAbKATAKANA] DOTcm WOdp AeIeUeEeOeYAeYUeYOeTUc-HIRAGANA PROLONGED SOUND>cm AdI",
  "dUdEdOdKAdKIdKUdKEdKOdSAdSIdSUdSEdSOdTAdTIdTUdTEdTOdNAdNIdNUdNEdNOdHAdHIdHUdHEdHOdMAdMIdMUdME",
  "dMOdYAdYUdYOdRAdRIdRUdREdROdWAdNcVOICED SOUND>cSEMI-VOICED SOUND>bHANGUL FILLERcm KIYEOK",
  "dSSANGKIYEOKdKIYEOK-SIOSdNIEUNe-CIEUCe-HIEUHdTIKEUTdSSANGTIKEUTdRIEULe-KIYEOKe-MIEUMe-PIEUP",
  "e-SIOSe-THIEUTHe-PHIEUPHe-HIEUHdMIEUMdPIEUPdSSANGPIEUPdPIEUP-SIOSdSIOSdSSANGSIOSdIEUNGdCIEUC",
  "dSSANGCIEUCdCHIEUCHdKHIEUKHdTHIEUTHdPHIEUPHdHIEUH@FFC2dAdAEdYAdYAEdEOdE@FFCAdYEOdYEdOdWAdWAE",
  "dOE@FFD2dYOdUdWEOdWEdWIdYU@FFDAdEUdYIdI@FFE0aFULLWIDTH CENTsbPOUNDsbNOTsbMACRONbBROKEN BAR",
  "bYENsbWONs@FFE8aHALFWIDTH FORMS LIGHT*b+rbUPWARDSrbyrbDOWNWARDSrb< SQUAREb? CIRCLE",
  "@FFF9aINTERLINEAR ANNOTATION ANCHORcSEPARATORcTERMINATORaOBJECT REPLACEMENT CHARACTER",
  "aREPLACEMENT CHARACTER"]

end ContentModel.Text.CharName
