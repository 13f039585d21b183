/-!
# Names of letters

The names of the characters up to U+1FFF: the alphabets in use.
-/

namespace ContentModel.Text.CharName

/-- The table of these names, as `CharName.find?` reads it. -/
def alphabets : List String := [
  "@20aSPACEaEXCLAMATION>aQUOTATION>aNUMBERsaDOLLARsaPERCENTsaAMPERSANDaAPOSTROPHEax PARENTHESIS",
  "at PARENTHESISaASTERISKaPLUSsaCOMMAaHYPHEN-MINUSaFULL STOPaSOLIDUSaDIGIT ZEROb|b^b&bFOURbFIVE",
  "bSIXbSEVENbEIGHTbNINEaCOLONaSEMICOLONaLESS-THANsaEQUALSsaGREATER-THANsaQUESTION>aCOMMERCIAL AT",
  "aLATINom AdBdCdDdEdFdGdHdIdJdKdLdMdNdOdPdQdRdSdTdUdVdWdXdYdZax SQUARE~aREVERSE SOLIDUS",
  "at SQUARE~aCIRCUMFLEX ACCENTaLOW LINEaGRAVE ACCENTaLATINpm AdBdCdDdEdFdGdHdIdJdKdLdMdNdOdPdQdR",
  "dSdTdUdVdWdXdYdZax CURLY~a* LINEat CURLY~aTILDE@A0aNO-BREAK SPACEaINVERTED EXCLAMATION>aCENTs",
  "aPOUNDsaCURRENCYsaYENsaBROKEN BARaSECTIONsaDIAERESISaCOPYRIGHTsaFEMININE ORDINAL INDICATOR",
  "ax-POINTINGv ANGLE QUOTATION>aNOTsaSOFT HYPHENaREGISTEREDsaMACRONaDEGREEsaPLUS-MINUSs",
  "aSUPERSCRIPT^b&aACUTE ACCENTaMICROsaPILCROWsa] DOTaCEDILLAaSUPERSCRIPT|",
  "aMASCULINE ORDINAL INDICATORat-POINTINGv ANGLE QUOTATION>aVULGAR FRACTION| QUARTERdHALF",
  "c& QUARTERSaINVERTED QUESTION>aLATINom An GRAVEfACUTEfCIRCUMFLEXfTILDEfDIAERESISfRINGudAE",
  "dCn CEDILLAdEn GRAVEfACUTEfCIRCUMFLEXfDIAERESISdIn GRAVEfACUTEfCIRCUMFLEXfDIAERESISdETH",
  "dNn TILDEdOn GRAVEfACUTEfCIRCUMFLEXfTILDEfDIAERESISaMULTIPLICATIONsaLATINom On.dUn GRAVEfACUTE",
  "fCIRCUMFLEXfDIAERESISdYn ACUTEdTHORNbpm SHARP SdAn GRAVEfACUTEfCIRCUMFLEXfTILDEfDIAERESIS",
  "fRINGudAEdCn CEDILLAdEn GRAVEfACUTEfCIRCUMFLEXfDIAERESISdIn GRAVEfACUTEfCIRCUMFLEXfDIAERESIS",
  "dETHdNn TILDEdOn GRAVEfACUTEfCIRCUMFLEXfTILDEfDIAERESISaDIVISIONsaLATINpm On.dUn GRAVEfACUTE",
  "fCIRCUMFLEXfDIAERESISdYn ACUTEdTHORNdYn DIAERESISbom An MACRONbpm An MACRONbom An BREVE",
  "bpm An BREVEbom An OGONEKbpm An OGONEKbom Cn ACUTEbpm Cn ACUTEbom Cn CIRCUMFLEX",
  "bpm Cn CIRCUMFLEXbom Cn DOTubpm Cn DOTubom Cn CARONbpm Cn CARONbom Dn CARONbpm Dn CARONbom Dn.",
  "bpm Dn.bom En MACRONbpm En MACRONbom En BREVEbpm En BREVEbom En DOTubpm En DOTubom En OGONEK",
  "bpm En OGONEKbom En CARONbpm En CARONbom Gn CIRCUMFLEXbpm Gn CIRCUMFLEXbom Gn BREVE",
  "bpm Gn BREVEbom Gn DOTubpm Gn DOTubom Gn CEDILLAbpm Gn CEDILLAbom Hn CIRCUMFLEX",
  "bpm Hn CIRCUMFLEXbom Hn.bpm Hn.bom In TILDEbpm In TILDEbom In MACRONbpm In MACRONbom In BREVE",
  "bpm In BREVEbom In OGONEKbpm In OGONEKbom In DOTubpm DOTLESS Ibo LIGATURE IJbp LIGATURE IJ",
  "bom Jn CIRCUMFLEXbpm Jn CIRCUMFLEXbom Kn CEDILLAbpm Kn CEDILLAdKRAbom Ln ACUTEbpm Ln ACUTE",
  "bom Ln CEDILLAbpm Ln CEDILLAbom Ln CARONbpm Ln CARONbom Ln] DOTbpm Ln] DOTbom Ln.bpm Ln.",
  "bom Nn ACUTEbpm Nn ACUTEbom Nn CEDILLAbpm Nn CEDILLAbom Nn CARONbpm Nn CARON",
  "ePRECEDED BY APOSTROPHEbom ENGbpm ENGbom On MACRONbpm On MACRONbom On BREVEbpm On BREVE",
  "bom Onv ACUTEbpm Onv ACUTEbo LIGATURE OEbp LIGATURE OEbom Rn ACUTEbpm Rn ACUTEbom Rn CEDILLA",
  "bpm Rn CEDILLAbom Rn CARONbpm Rn CARONbom Sn ACUTEbpm Sn ACUTEbom Sn CIRCUMFLEX",
  "bpm Sn CIRCUMFLEXbom Sn CEDILLAbpm Sn CEDILLAbom Sn CARONbpm Sn CARONbom Tn CEDILLA",
  "bpm Tn CEDILLAbom Tn CARONbpm Tn CARONbom Tn.bpm Tn.bom Un TILDEbpm Un TILDEbom Un MACRON",
  "bpm Un MACRONbom Un BREVEbpm Un BREVEbom Un RINGubpm Un RINGubom Unv ACUTEbpm Unv ACUTE",
  "bom Un OGONEKbpm Un OGONEKbom Wn CIRCUMFLEXbpm Wn CIRCUMFLEXbom Yn CIRCUMFLEXbpm Yn CIRCUMFLEX",
  "bom Yn DIAERESISdZn ACUTEbpm Zn ACUTEbom Zn DOTubpm Zn DOTubom Zn CARONbpm Zn CARONdLONG SdBn.",
  "bom Bn HOOKfTOPBARbpm Bn TOPBARbom TONE SIXbpm TONE SIXbom OPEN OdCn HOOKbpm Cn HOOK",
  "bom AFRICAN DdDn HOOKfTOPBARbpm Dn TOPBARdTURNED DELTAbom REVERSED EdSCHWAdOPEN EdFn HOOK",
  "bpm Fn HOOKbom Gn HOOKdGAMMAbpm HVbom IOTAdIn.dKn HOOKbpm Kn HOOKdLn BARdLAMBDAn.bom TURNED M",
  "dNnx HOOKbpm Nn LONGt LEGbom On] TILDEfHORNbpm On HORNbom OIbpm OIbom Pn HOOKbpm Pn HOOKbm YR",
  "bom TONE^bpm TONE^bom ESHbm REVERSED ESH LOOPbpm Tn PALATAL HOOKbom Tn HOOKbpm Tn HOOK",
  "bom Tn RETROFLEX HOOKdUn HORNbpm Un HORNbom UPSILONdVn HOOKdYn HOOKbpm Yn HOOKbom Zn.bpm Zn.",
  "bom EZHeREVERSEDbpm EZH REVERSEDen TAILbm^n.bom TONE FIVEbpm TONE FIVE",
  "bm INVERTED GLOTTAL STOPn.cWYNNcDENTAL CLICKcLATERAL CLICKcALVEOLAR CLICKcRETROFLEX CLICK",
  "bom DZn CARONdDnpm Zn CARONbpm DZn CARONbom LJdLnpm Jbpm LJbom NJdNnpm Jbpm NJbom An CARON",
  "bpm An CARONbom In CARONbpm In CARONbom On CARONbpm On CARONbom Un CARONbpm Un CARON",
  "bom Un DIAERESISz MACRONbpm Un DIAERESISz MACRONbom Un DIAERESISz ACUTEbpm Un DIAERESISz ACUTE",
  "bom Un DIAERESISz CARONbpm Un DIAERESISz CARONbom Un DIAERESISz GRAVEbpm Un DIAERESISz GRAVE",
  "dTURNED Ebom An DIAERESISz MACRONbpm An DIAERESISz MACRONbom An DOTuz MACRON",
  "bpm An DOTuz MACRONbom AEn MACRONbpm AEn MACRONbom Gn.bpm Gn.bom Gn CARONbpm Gn CARON",
  "bom Kn CARONbpm Kn CARONbom On OGONEKbpm On OGONEKbom On OGONEKz MACRONbpm On OGONEKz MACRON",
  "bom EZHn CARONbpm EZHn CARONdJn CARONbom DZdDnpm Zbpm DZbom Gn ACUTEbpm Gn ACUTEbom HWAIRdWYNN",
  "dNn GRAVEbpm Nn GRAVEbom An RINGuz ACUTEbpm An RINGuz ACUTEbom AEn ACUTEbpm AEn ACUTE",
  "bom On.z ACUTEbpm On.z ACUTEbom Anv GRAVEbpm Anv GRAVEbom An INVERTED BREVE",
  "bpm An INVERTED BREVEbom Env GRAVEbpm Env GRAVEbom En INVERTED BREVEbpm En INVERTED BREVE",
  "bom Inv GRAVEbpm Inv GRAVEbom In INVERTED BREVEbpm In INVERTED BREVEbom Onv GRAVEbpm Onv GRAVE",
  "bom On INVERTED BREVEbpm On INVERTED BREVEbom Rnv GRAVEbpm Rnv GRAVEbom Rn INVERTED BREVE",
  "bpm Rn INVERTED BREVEbom Unv GRAVEbpm Unv GRAVEbom Un INVERTED BREVEbpm Un INVERTED BREVE",
  "bom Sn COMMA!bpm Sn COMMA!bom Tn COMMA!bpm Tn COMMA!bom YOGHbpm YOGHbom Hn CARONbpm Hn CARON",
  "bom Nn LONGt LEGbpm Dn CURLbom OUbpm OUbom Zn HOOKbpm Zn HOOKbom An DOTubpm An DOTu",
  "bom En CEDILLAbpm En CEDILLAbom On DIAERESISz MACRONbpm On DIAERESISz MACRON",
  "bom On TILDEz MACRONbpm On TILDEz MACRONbom On DOTubpm On DOTubom On DOTuz MACRON",
  "bpm On DOTuz MACRONbom Yn MACRONbpm Yn MACRONdLn CURLdNn CURLdTn CURLdDOTLESS JdDB DIGRAPH",
  "dQP DIGRAPHbom An.dCn.bpm Cn.bom Ln BARdTn DIAGONAL.bpm Sn SWASH TAILdZn SWASH TAIL",
  "bom GLOTTAL STOPbpm GLOTTAL STOPbom Bn.dU BARdTURNED VdEn.bpm En.bom Jn.bpm Jn.",
  "bomp Qn HOOK TAILbpm Qn HOOK TAILbom Rn.bpm Rn.bom Yn.bpm Yn.dTURNED AdALPHAdTURNED ALPHA",
  "dBn HOOKdOPEN OdCn CURLdDn TAILfHOOKdREVERSED EdSCHWAen HOOKdOPEN EdREVERSED OPEN Egn HOOK",
  "dCLOSED REVERSED OPEN EdDOTLESS Jn.dGn HOOKdSCRIPT Gbmpo Gbpm GAMMAdRAMS HORNdTURNED HdHn HOOK",
  "dHENGn HOOKdIn.dIOTAbmpo Ibpm Ln] TILDEfBELTfRETROFLEX HOOKdLEZHdTURNED Mfn LONG LEGdMn HOOK",
  "dNnx HOOKfRETROFLEX HOOKbmpo Nbpm BARRED Obmpo OEbpm CLOSED OMEGAdPHIdTURNED Rfn LONG LEGgHOOK",
  "dRn LONG LEGfTAILfFISHHOOKdREVERSED Rn FISHHOOKbmpo ReINVERTED Rbpm Sn HOOKdESH",
  "dDOTLESS Jn.z HOOKdSQUAT REVERSED ESHdESHn CURLdTURNED TdTn RETROFLEX HOOKdU BARdUPSILON",
  "dVn HOOKdTURNED VeWeYbmpo Ybpm Zn RETROFLEX HOOKfCURLdEZHen CURLbm GLOTTAL STOP",
  "cPHARYNGEAL VOICED FRICATIVEcINVERTED GLOTTAL STOPcSTRETCHED CcBILABIAL CLICKcpo B",
  "bpm CLOSED OPEN Ebmpo Gn HOOKeHbpm Jn CROSSED-TAILdTURNED Kbmpo Lbpm Qn HOOKbm GLOTTAL STOPn.",
  "cREVERSED GLOTTAL STOPn.bpm DZ DIGRAPHdDEZH DIGRAPHdDZ DIGRAPHn CURLdTS DIGRAPHdTESH DIGRAPH",
  "dTC DIGRAPHn CURLdFENG DIGRAPHdLS DIGRAPHdLZ DIGRAPHbm BILABIAL PERCUSSIVEcBIDENTAL PERCUSSIVE",
  "bpm TURNED Hn FISHHOOKhz TAILaMODIFIERmp Hen HOOKdJdRdTURNED Rfn HOOKdo INVERTED RdWdYcPRIME",
  "cv PRIMEcTURNED COMMAcAPOSTROPHEcREVERSED COMMAct HALF RINGcx HALF RINGcGLOTTAL STOP",
  "cREVERSED GLOTTAL STOPcx ARROWHEADct ARROWHEADcUP ARROWHEADcDOWN ARROWHEADcCIRCUMFLEX ACCENT",
  "aCARONaMODIFIERm* LINEcMACRONcACUTE ACCENTcGRAVE ACCENTcLOW* LINEdMACRONdGRAVE ACCENT",
  "dACUTE ACCENTcTRIANGULAR COLONcHALF TRIANGULAR COLONcCENTREDt HALF RINGdx HALF RINGcUP TACK",
  "cDOWN TACKcPLUSscMINUSsaBREVEaDOTuaRINGuaOGONEKap TILDEav ACUTE ACCENTaMODIFIERm RHOTIC HOOK",
  "cCROSS ACCENTcp GAMMAdLdSdXdREVERSED GLOTTAL STOPcEXTRA-HIGH TONE BARcHIGH TONE BAR",
  "cMID TONE BARcLOW TONE BARcEXTRA-LOW TONE BARcYIN DEPARTING TONE>cYANG DEPARTING TONE>cVOICING",
  "cUNASPIRATEDcv APOSTROPHEcLOW DOWN ARROWHEADdUP ARROWHEADdx ARROWHEADdt ARROWHEADdRING",
  "c] GRAVE ACCENTdv GRAVE ACCENTeACUTE ACCENTcLOW TILDEcRAISED COLONcBEGIN HIGH TONE",
  "cEND HIGH TONEcBEGIN LOW TONEcEND LOW TONEcSHELFcOPEN SHELFcLOWxraCOMBINING GRAVE ACCENT",
  "bACUTE ACCENTbCIRCUMFLEX ACCENTbTILDEbMACRONbOVERLINEbBREVEbDOTubDIAERESISbHOOKubRINGu",
  "bv ACUTE ACCENTbCARONb* LINEubv* LINEucGRAVE ACCENTbCANDRABINDUbINVERTED BREVEbTURNED COMMAu",
  "bCOMMAubREVERSED COMMAubCOMMAutbGRAVE ACCENT!bACUTE ACCENT!bx TACK!bt TACK!bx ANGLEubHORN",
  "bx HALF RING!bUP TACK!bDOWN TACK!bPLUSs!bMINUSs!bPALATALIZED HOOK!bRETROFLEX HOOK!bDOT!",
  "bDIAERESIS!bRING!bCOMMA!bCEDILLAbOGONEKb* LINE!bBRIDGE!bINVERTEDv ARCH!bCARON!",
  "bCIRCUMFLEX ACCENT!bBREVE!bINVERTED BREVE!bTILDE!bMACRON!bLOW LINEbv LOW LINEbTILDE OVERLAY",
  "bSHORT. OVERLAYbLONG. OVERLAYbSHORT SOLIDUS OVERLAYbLONG SOLIDUS OVERLAYbt HALF RING!",
  "bINVERTED BRIDGE!bSQUARE!bSEAGULL!bXub* TILDEbv OVERLINEbGRAVE TONE>bACUTE TONE>",
  "bGREEK PERISPOMENIcKORONIScDIALYTIKA TONOScYPOGEGRAMMENIbBRIDGEubEQUALSs!bv* LINE!bx ANGLE!",
  "bNOT TILDEubHOMOTHETICubALMOST EQUAL TOubxtr!bUPWARDSr!bGRAPHEME JOINERbt ARROWHEADu",
  "bx HALF RINGubFERMATAbX!bx ARROWHEAD!bt ARROWHEAD!dz UP ARROWHEAD!cHALF RINGubDOTutbASTERISK!",
  "bv RING!bZIGZAGubv BREVE!dcMACRONd!cTILDEcINVERTED BREVEcyr!bLATINpm AeEeIeOeUeCeDeHeMeReTeVeX",
  "aGREEKom HETAbpm HETAbom ARCHAIC SAMPIbpm ARCHAIC SAMPIbNUMERALsbLOWER NUMERALs",
  "bom PAMPHYLIAN DIGAMMAbpm PAMPHYLIAN DIGAMMA@37AbYPOGEGRAMMENIbp REVERSED LUNATE SIGMA;",
  "cDOTTED LUNATE SIGMA;cREVERSED DOTTED LUNATE SIGMA;bQUESTION>bom YOT@384bTONOSbDIALYTIKA TONOS",
  "bom ALPHAn TONOSbANO TELEIAbom EPSILONn TONOSdETAn TONOSdIOTAn TONOS@38CdOMICRONn TONOS",
  "@38EdUPSILONn TONOSdOMEGAn TONOSbpm IOTAn DIALYTIKAz TONOSbom ALPHAdBETAdGAMMAdDELTAdEPSILON",
  "dZETAdETAdTHETAdIOTAdKAPPAdLAMDAdMUdNUdXIdOMICRONdPIdRHO@3A3dSIGMAdTAUdUPSILONdPHIdCHIdPSI",
  "dOMEGAdIOTAn DIALYTIKAdUPSILONn DIALYTIKAbpm ALPHAn TONOSdEPSILONn TONOSdETAn TONOS",
  "dIOTAn TONOSdUPSILONn DIALYTIKAz TONOSdALPHAdBETAdGAMMAdDELTAdEPSILONdZETAdETAdTHETAdIOTA",
  "dKAPPAdLAMDAdMUdNUdXIdOMICRONdPIdRHOd$ SIGMAdSIGMAdTAUdUPSILONdPHIdCHIdPSIdOMEGA",
  "dIOTAn DIALYTIKAdUPSILONn DIALYTIKAdOMICRONn TONOSdUPSILONn TONOSdOMEGAn TONOSbo KAI;bBETA;",
  "bTHETA;bUPSILONn HOOK;dACUTEz HOOK;dDIAERESISz HOOK;bPHI;bPI;bKAI;bm ARCHAIC KOPPA",
  "bpm ARCHAIC KOPPAbm STIGMAbpm STIGMAbm DIGAMMAbpm DIGAMMAbm KOPPAbpm KOPPAbm SAMPIbpm SAMPI",
  "aCOPTICom SHEIbpm SHEIbom FEIbpm FEIbom KHEIbpm KHEIbom HORIbpm HORIbom GANGIAbpm GANGIA",
  "bom SHIMAbpm SHIMAbom DEIbpm DEIaGREEK KAPPA;bRHO;bLUNATE SIGMA;bm YOTbo THETA;",
  "bLUNATE EPSILON;bREVERSED LUNATE EPSILON;bom SHObpm SHObo LUNATE SIGMA;cm SANbpm SANbRHOn.;",
  "bo REVERSED LUNATE SIGMA;cDOTTED LUNATE SIGMA;cREVERSED DOTTED LUNATE SIGMA;",
  "aCYRILLICom IEn GRAVEdIOdDJEdGJEdUKRAINIAN IEdDZEdBYELORUSSIAN-UKRAINIAN IdYIdJEdLJEdNJEdTSHE",
  "dKJEdIn GRAVEdSHORT UdDZHEdAdBEdVEdGHEdDEdIEdZHEdZEdIdSHORT IdKAdELdEMdENdOdPEdERdESdTEdUdEF",
  "dHAdTSEdCHEdSHAdSHCHAdHARDsdYERUdSOFTsdEdYUdYAbpm AdBEdVEdGHEdDEdIEdZHEdZEdIdSHORT IdKAdELdEM",
  "dENdOdPEdERdESdTEdUdEFdHAdTSEdCHEdSHAdSHCHAdHARDsdYERUdSOFTsdEdYUdYAdIEn GRAVEdIOdDJEdGJE",
  "dUKRAINIAN IEdDZEdBYELORUSSIAN-UKRAINIAN IdYIdJEdLJEdNJEdTSHEdKJEdIn GRAVEdSHORT UdDZHE",
  "bom OMEGAbpm OMEGAbom YATbpm YATbom IOTIFIED Ebpm IOTIFIED Ebom LITTLE YUSbpm LITTLE YUS",
  "bom IOTIFIED LITTLE YUSbpm IOTIFIED LITTLE YUSbom BIG YUSbpm BIG YUSbom IOTIFIED BIG YUS",
  "bpm IOTIFIED BIG YUSbom KSIbpm KSIbom PSIbpm PSIbom FITAbpm FITAbom IZHITSAbpm IZHITSA",
  "bom IZHITSAnv GRAVE ACCENTbpm IZHITSAnv GRAVE ACCENTbom UKbpm UKbom ROUND OMEGAbpm ROUND OMEGA",
  "bom OMEGAn TITLObpm OMEGAn TITLObom OTbpm OTbom KOPPAbpm KOPPAbTHOUSANDSs",
  "aCOMBINING CYRILLIC TITLOcPALATALIZATIONcDASIA PNEUMATAcPSILI PNEUMATAcPOKRYTIEc_ THOUSANDSs",
  "cMILLIONSsaCYRILLICom SHORT In TAILbpm SHORT In TAILbom SEMISOFTsbpm SEMISOFTsbom ERn TICK",
  "bpm ERn TICKbom GHEn UPTURNbpm GHEn UPTURNbom GHEn.bpm GHEn.bom GHEn] HOOKbpm GHEn] HOOK",
  "bom ZHEn DESCENDERbpm ZHEn DESCENDERbom ZEn DESCENDERbpm ZEn DESCENDERbom KAn DESCENDER",
  "bpm KAn DESCENDERbom KAn*.bpm KAn*.bom KAn.bpm KAn.bom BASHKIR KAbpm BASHKIR KA",
  "bom ENn DESCENDERbpm ENn DESCENDERbo LIGATURE EN GHEbp LIGATURE EN GHEbom PEn] HOOK",
  "bpm PEn] HOOKbom ABKHASIAN HAbpm ABKHASIAN HAbom ESn DESCENDERbpm ESn DESCENDER",
  "bom TEn DESCENDERbpm TEn DESCENDERbom STRAIGHT Ubpm STRAIGHT Ubom STRAIGHT Un.bpm STRAIGHT Un.",
  "bom HAn DESCENDERbpm HAn DESCENDERbo LIGATURE TE TSEbp LIGATURE TE TSEbom CHEn DESCENDER",
  "bpm CHEn DESCENDERbom CHEn*.bpm CHEn*.bom SHHAbpm SHHAbom ABKHASIAN CHEbpm ABKHASIAN CHE",
  "bom ABKHASIAN CHEn DESCENDERbpm ABKHASIAN CHEn DESCENDERbm PALOCHKAbom ZHEn BREVE",
  "bpm ZHEn BREVEbom KAn HOOKbpm KAn HOOKbom ELn TAILbpm ELn TAILbom ENn HOOKbpm ENn HOOK",
  "bom ENn TAILbpm ENn TAILbom KHAKASSIAN CHEbpm KHAKASSIAN CHEbom EMn TAILbpm EMn TAILdPALOCHKA",
  "bom An BREVEbpm An BREVEbom An DIAERESISbpm An DIAERESISbo LIGATURE A IEbp LIGATURE A IE",
  "bom IEn BREVEbpm IEn BREVEbom SCHWAbpm SCHWAbom SCHWAn DIAERESISbpm SCHWAn DIAERESIS",
  "bom ZHEn DIAERESISbpm ZHEn DIAERESISbom ZEn DIAERESISbpm ZEn DIAERESISbom ABKHASIAN DZE",
  "bpm ABKHASIAN DZEbom In MACRONbpm In MACRONbom In DIAERESISbpm In DIAERESISbom On DIAERESIS",
  "bpm On DIAERESISbom BARRED Obpm BARRED Obom BARRED On DIAERESISbpm BARRED On DIAERESIS",
  "bom En DIAERESISbpm En DIAERESISbom Un MACRONbpm Un MACRONbom Un DIAERESISbpm Un DIAERESIS",
  "bom Unv ACUTEbpm Unv ACUTEbom CHEn DIAERESISbpm CHEn DIAERESISbom GHEn DESCENDER",
  "bpm GHEn DESCENDERbom YERUn DIAERESISbpm YERUn DIAERESISbom GHEn.z HOOKbpm GHEn.z HOOK",
  "bom HAn HOOKbpm HAn HOOKbom HAn.bpm HAn.bom KOMI DEbpm KOMI DEbom KOMI DJEbpm KOMI DJE",
  "bom KOMI ZJEbpm KOMI ZJEbom KOMI DZJEbpm KOMI DZJEbom KOMI LJEbpm KOMI LJEbom KOMI NJE",
  "bpm KOMI NJEbom KOMI SJEbpm KOMI SJEbom KOMI TJEbpm KOMI TJEbom REVERSED ZEbpm REVERSED ZE",
  "bom ELn HOOKbpm ELn HOOKbom LHAbpm LHAbom RHAbpm RHAbom YAEbpm YAEbom QAbpm QAbom WEbpm WE",
  "bom ALEUT KAbpm ALEUT KAbom ELn] HOOKbpm ELn] HOOKbom ENn] HOOKbpm ENn] HOOKbom PEn DESCENDER",
  "bpm PEn DESCENDERbom SHHAn DESCENDERbpm SHHAn DESCENDERbom ENnx HOOKbpm ENnx HOOKbom DZZHE",
  "bpm DZZHEbom DCHEbpm DCHEbom ELn DESCENDERbpm ELn DESCENDER@531aARMENIANom AYBdBENdGIMdDAdECH",
  "dZAdEHdETdTOdZHEdINIdLIWNdXEHdCAdKENdHOdJAdGHADdCHEHdMENdYIdNOWdSHAdVOdCHAdPEHdJHEHdRAdSEHdVEW",
  "dTIWNdREHdCOdYIWNdPIWRdKEHdOHdFEH@559bMODIFIERmx HALF RINGbAPOSTROPHEbEMPHASIS>bEXCLAMATION>",
  "bCOMMAbQUESTION>bABBREVIATION>bpm TURNED AYBdAYBdBENdGIMdDAdECHdZAdEHdETdTOdZHEdINIdLIWNdXEH",
  "dCAdKENdHOdJAdGHADdCHEHdMENdYIdNOWdSHAdVOdCHAdPEHdJHEHdRAdSEHdVEWdTIWNdREHdCOdYIWNdPIWRdKEHdOH",
  "dFEHcLIGATURE ECH YIWNcm YIn.bFULL STOPbHYPHEN@58Dat-FACING ARMENIAN ETERNITYs",
  "ax-FACING ARMENIAN ETERNITYsaARMENIAN DRAMs@591aHEBREW ACCENT ETNAHTAcSEGOLcSHALSHELET",
  "cZAQEF QATANdGADOLcTIPEHAcREVIAcZARQAcPASHTAcYETIVcTEVIRcGERESHdMUQDAMcGERSHAYIMcQARNEY PARA",
  "cTELISHA GEDOLAcPAZERcATNAH HAFUKHcMUNAHcMAHAPAKHcMERKHAdKEFULAcDARGAcQADMAcTELISHA QETANA",
  "cYERAH BEN YOMOcOLEcILUYcDEHIcZINORb> MASORA CIRCLEbPOINT SHEVAcHATAF SEGOLdPATAHdQAMATScHIRIQ",
  "cTSEREcSEGOLcPATAHcQAMATScHOLAMdHASER FOR VAVcQUBUTScDAGESH OR MAPIQcMETEGbPUNCTUATION MAQAF",
  "bPOINT RAFEbPUNCTUATION PASEQbPOINT SHIN DOTcSIN DOTbPUNCTUATION SOF PASUQb> UPPER DOT",
  "cLOWER DOTbPUNCTUATION NUN HAFUKHAbPOINT QAMATS QATAN@5D0bm ALEFcBETcGIMELcDALETcHEcVAVcZAYIN",
  "cHETcTETcYODc$ KAFcKAFcLAMEDc$ MEMcMEMc$ NUNcNUNcSAMEKHcAYINc$ PEcPEc$ TSADIcTSADIcQOFcRESH",
  "cSHINcTAV@5EFbYOD%bLIGATURE YIDDISHv VAVdVAV YODdv YODbPUNCTUATION GERESHcGERSHAYIM",
  "@600aARABIC NUMBERsbs SANAHbFOOTNOTE MARKERbs SAFHAcSAMVATbNUMBER>ub-INDIC CUBE ROOT",
  "cFOURTH ROOTbRAYb-INDIC PER MILLEsdTEN THOUSANDsaAFGHANIsaARABIC COMMAbDATE SEPARATOR",
  "bPOETIC VERSEsbs MISRAcSALLALLAHOU ALAYHE WASSALLAMcALAYHE ASSALLAMcRAHMATULLAH ALAYHE",
  "cRADI ALLAHOU ANHUcTAKHALLUSbp HIGH TAHdLIGATURE ALEFn LAMn YEHdZAINcFATHAcDAMMAcKASRA",
  "bSEMICOLONbm>bEND OF TEXT>bTRIPLE DOT PUNCTUATION>bQUESTION>bm KASHMIRI YEHcHAMZAcALEFn MADDAu",
  "eHAMZAucWAWn HAMZAucALEFn HAMZA!cYEHn HAMZAucALEFcBEHcTEH MARBUTAdcTHEHcJEEMcHAHcKHAHcDALcTHAL",
  "cREHcZAINcSEENcSHEENcSADcDADcTAHcZAHcAINcGHAINcKEHEHn^ DOTSue& DOTS!cFARSI YEHn INVERTED V",
  "f^ DOTSuf& DOTSubTATWEELbm FEHcQAFcKAFcLAMcMEEMcNOONcHEHcWAWcALEF MAKSURAcYEHbFATHATAN",
  "bDAMMATANbKASRATANbFATHAbDAMMAbKASRAbSHADDAbSUKUNbMADDAHubHAMZAuc!bSUBSCRIPT ALEF",
  "bINVERTED DAMMAb> NOON GHUNNAbZWARAKAYbVOWELsp VudINVERTEDp VudDOT!bREVERSED DAMMA",
  "bFATHAn^ DOTSbWAVY HAMZA!b-INDIC DIGIT ZEROd|d^d&dFOURdFIVEdSIXdSEVENdEIGHTdNINEbPERCENTs",
  "bDECIMAL SEPARATORbTHOUSANDS SEPARATORbFIVE POINTED STARbm DOTLESS BEHdQAFcSUPERSCRIPT ALEF",
  "cALEF WASLAdn WAVY HAMZAug!cHIGH HAMZAeALEFeWAWcUn HAMZAucHIGH HAMZA YEHcTTEHcTTEHEHcBEEH",
  "cTEHn RINGe& DOTSu DOWNWARDScPEHcTEHEHcBEHEHcHAHn HAMZAue^ DOTS*ucNYEHcDYEHcHAHn& DOTSucTCHEH",
  "cTCHEHEHcDDALcDALn RINGeDOT!gzp TAHcDAHALcDDAHALcDULcDALn& DOTSu DOWNWARDSeFOUR DOTSucRREH",
  "cREHnp VeRINGeDOT!ep V!eDOT!z DOTue^ DOTSucJEHcREHn FOUR DOTSucSEENn DOT!z DOTue& DOTS!",
  "hz& DOTSucSADn^ DOTS!e& DOTSucTAHn& DOTSucAINn& DOTSucDOTLESS FEHcFEHn DOT MOVED!f!cVEH",
  "cFEHn& DOTS!cPEHEHcQAFn DOTue& DOTSucKEHEHcSWASH KAFcKAFn RINGeDOTucNGcKAFn& DOTS!cGAFdn RING",
  "cNGOEHcGAFn^ DOTS!cGUEHcGAFn& DOTSucLAMnp VeDOTue& DOTSug!cNOONn DOT!dGHUNNAcRNOONcNOONn RING",
  "e& DOTSucHEH DOACHASHMEEcTCHEHn DOTucHEHn YEHudGOALen HAMZAucTEH MARBUTA GOALcWAWn RING",
  "cKIRGHIZ OEcOEcUcYUcKIRGHIZ YUcWAWn^ DOTSucVEcFARSI YEHcYEHn TAILep VcWAWn DOTucEcYEHn& DOTS!",
  "dBARREEen HAMZAubFULL STOPbm AEbp HIGH LIGATURE SADn LAMn ALEF MAKSURAeQAFn LAMn ALEF MAKSURA",
  "dMEEM,qdLAM ALEFdJEEMd& DOTSdSEENbEND OF AYAHbSTART OF RUB EL HIZBbp HIGH ROUNDED ZERO",
  "dUPRIGHT RECTANGULAR ZEROdDOTLESS HEAD OF KHAHdMEEMwqcLOW SEENcHIGH MADDAcWAWcYEHcHIGH YEH",
  "dNOONbPLACE OF SAJDAHbEMPTY CENTRE LOW STOPdHIGH STOPbROUNDED HIGH STOPn FILLED CENTRE",
  "bp LOW MEEMbm DALn INVERTED VcREHn INVERTED VaEXTENDED ARABIC-INDIC DIGIT ZEROe|e^e&eFOUReFIVE",
  "eSIXeSEVENeEIGHTeNINEaARABICm SHEENn DOT!cDADn DOT!cGHAINn DOT!bs SINDHI AMPERSAND",
  "dPOSTPOSITION MENbm HEHn INVERTED VaSYRIAC END OF PARAGRAPHbSUPRALINEAR FULL STOP",
  "bSUBLINEAR FULL STOPbSUPRALINEAR COLONbSUBLINEAR COLONb[ COLONbCOLON SKEWEDxdt",
  "bSUPRALINEAR COLON SKEWEDxbSUBLINEAR COLON SKEWEDtbCONTRACTIONbHARKLEAN OBELUScMETOBELUS",
  "cASTERISCUS@70FbABBREVIATION>bm ALAPHcSUPERSCRIPT ALAPHcBETHcGAMALdGARSHUNIcDALATH",
  "cDOTLESS DALATH RISHcHEcWAWcZAINcHETHcTETHdGARSHUNIcYUDHdHEcKAPHcLAMADHcMIMcNUNcSEMKATH",
  "c$ SEMKATHcEcPEcREVERSED PEcSADHEcQAPHcRISHcSHINcTAWcPERSIAN BHETHdGHAMALdDHALATHbPTHAHAuc!",
  "cDOTTEDbZQAPHAuc!cDOTTEDbRBASAuc!bDOTTED ZLAMA[dANGULARbHBASAuc!c-ESASA DOTTEDbESASAuc!bRWAHA",
  "bFEMININE DOTbQUSHSHAYAbRUKKAKHAb^* DOTSue!b& DOTSud!bOBLIQUE LINEud!bMUSICbBARREKH",
  "@74Dbm SOGDIAN ZHAINdKHAPHdFEaARABICm BEHn& DOTS HORIZONTALLY!eDOT!z& DOTSu",
  "e& DOTS POINTING UPWARDS!jz^ DOTSue^ DOTS!z DOTueINVERTEDp V!ep VcHAHn^ DOTSu",
  "e& DOTS POINTING UPWARDS!cDALn^ DOTS VERTICALLY!zp TAHeINVERTEDp V!cREHn.cSEENn FOUR DOTSu",
  "cAINn^ DOTSue& DOTS POINTING DOWNWARDSue^ DOTS VERTICALLYucFEHn^ DOTS!",
  "e& DOTS POINTING UPWARDS!cKEHEHn DOTue& DOTSugPOINTING UPWARDS!cMEEMn DOTuf!cNOONn^ DOTS!",
  "ep TAHfVcLAMn BARcREHn^ DOTS VERTICALLYueHAMZAucSEENn^ DOTS VERTICALLYucHAHnp ARABICm TAH!",
  "iz^ DOTScSEENnp ARABICm TAHz^ DOTScREHnp ARABICm TAHz^ DOTScHAHnp ARABICm TAHu",
  "cALEFn EXTENDED ARABIC-INDIC DIGIT^ui&ucFARSI YEHn EXTENDED ARABIC-INDIC DIGIT^uj&ujFOUR!",
  "cWAWn EXTENDED ARABIC-INDIC DIGIT^ui&ucYEH BARREEn EXTENDED ARABIC-INDIC DIGIT^uj&u",
  "cHAHn EXTENDED ARABIC-INDIC DIGIT FOUR!cSEENn EXTENDED ARABIC-INDIC DIGIT FOURueINVERTED V",
  "cKAFn^ DOTSuaTHAANAm HAAcSHAVIYANIcNOONUcRAAcBAAcLHAVIYANIcKAAFUcALIFUcVAAVUcMEEMUcFAAFU",
  "cDHAALUcTHAAcLAAMUcGAAFUcGNAVIYANIcSEENUcDAVIYANIcZAVIYANIcTAVIYANIcYAAcPAVIYANIcJAVIYANI",
  "cCHAVIYANIcTTAAcHHAAcKHAAcTHAALUcZAAcSHEENUcSAADHUcDAADHUcTOcZOcAINUcGHAINUcQAAFUcWAAVU",
  "bABAFILIbAABAAFILIbIBIFILIbEEBEEFILIbUBUFILIbOOBOOFILIbEBEFILIbEYBEYFILIbOBOFILIbOABOAFILI",
  "bSUKUNbm NAA@7C0aNKO DIGIT ZEROc|c^c&cFOURcFIVEcSIXcSEVENcEIGHTcNINEbm AcEEcIcEcUcOOcO",
  "cDAGBASINNAcNcBAcPAcTAcJAcCHAcDAcRAcRRAcSAcGBAcFAcKAcLAcNA WOLOSOcMAcNYAcNAcHAcWAcYA",
  "cNYA WOLOSOcJONA JAdCHAdRAbCOMBINING SHORT HIGH TONEdLOW TONEdRISING TONEcLONG DESCENDING TONE",
  "dHIGH TONEdLOW TONEdRISING TONEcNASALIZATION>cv DOTubHIGH TONE APOSTROPHEbLOW TONE APOSTROPHE",
  "b; OO DENNENcGBAKURUNENbCOMMAbEXCLAMATION>bLAJANYALAN@7FDbDANTAYALANbDOROMEsbTAMANs",
  "aSAMARITANm ALAFcBITcGAMANcDALATcIYcBAAcZENcITcTITcYUTcKAAFcLABATcMIMcNUNcSINGAATcINcFI",
  "cTSAADIYcQUFcRISHcSHANcTAAFb> INd-ALAFcOCCLUSIONcDAGESHbMODIFIERm EPENTHETIC YUT",
  "b> EPENTHETIC YUTbVOWELs LONG EdEdOVERLONG AAdLONG AAdAAdOVERLONG AdLONG AdAbMODIFIERm SHORT A",
  "bVOWELs SHORT AdLONG UdUbMODIFIERm IbVOWELs LONG IdIdOdSUKUNb> NEQUDAA@830bPUNCTUATION NEQUDAA",
  "cAFSAAQcANGEDcBAUcATMAAUcSHIYYAALAAbABBREVIATION>bPUNCTUATION MELODIC QITSAcZIQAAcQITSAcZAEF",
  "cTURUcARKAANUcSOF MASHFAATcANNAAU@840aMANDAICm HALQAcABcAGcADcAHcUSHENNAcAZcITcATTcAKSAcAKcAL",
  "cAMcANcAScINcAPcASZcAQcARcASHcATcDUSHENNAcKADcAINbAFFRICATION>bVOCALIZATION>bGEMINATION>",
  "@85EbPUNCTUATION@860aSYRIACm MALAYALAM NGAdJAdNYAdTTAdNNAdNNNAdBHAdRAdLLAdLLLAdSSA",
  "@870aARABICm ALEFn ATTACHED FATHAfTOPt FATHAet].ex].eATTACHED KASRAfBOTTOMt KASRAfROUND DOTu",
  "ft ROUND DOTfx ROUND DOTfROUND DOT!eDOTueATTACHED TOPt FATHAz DOTuet].z DOTu",
  "eATTACHED BOTTOMt KASRAz DOTufTOPt FATHAzx RINGet].zx RINGeATTACHED BOTTOMt KASRAzx RING",
  "ft HAMZAfx HAMZAbTATWEELn OVERSTRUCK HAMZAeWAWd^ DOTS!bm THIN YEHbBASELINE ROUND DOT",
  "bRAISED ROUND DOTbm NOONn INVERTEDp VcHAHn INVERTEDp V!cTAHn DOT!e& DOTS!",
  "cKEHEHn^ DOTS VERTICALLY!b* TAIL@890bPOUND>ubPIASTRE>u@898bp HIGH WORD AL-JUZcLOW WORD ISHMAAM",
  "eIMAALAeTASHEELbMADDA WAAJIBbSUPERSCRIPT ALEF MOKHASSASbDOUBLED MADDAbHALF MADDA OVER MADDA",
  "bm BEHnp V!eHAMZAucJEEMn^ DOTSucTAHn^ DOTSucFEHn DOT!z& DOTSucQAFn DOT!cLAMnv BARcMEEMn& DOTSu",
  "cYEHn^ DOTS!z HAMZAuiDOTucREHn LOOPcWAWn DOT WITHINcROHINGYA YEHcLOW ALEFcDALn& DOTS!",
  "cSADn& DOTS!cGAFn INVERTED.cSTRAIGHT WAWcZAINn INVERTED VucAINn& DOTS!cKAFn DOT!",
  "cQAFn DOT!z NO DOTSucBEHnp MEEMucPEHnp MEEMucTEHnp TEHucREHnp NOONucYEHn^ DOTS!zp NOONu",
  "cAFRICAN FEHdQAFdNOONcPEHnp VcTEHnp VcTTEHnp VcTCHEHnp VcKEHEHnp VcGHAINn& DOTSu",
  "cAFRICAN QAFn& DOTSucJEEMn& DOTSug!cLAMnp ARABICm TAHucGRAFbp FARSI YEHcHIGH FARSI YEH",
  "dYEH BARREEn^ DOTS!dWORD SAHdZAHbLARGE ROUND DOTue!bSUKUN!bLARGE CIRCLE!",
  "cROUND DOT INSIDE CIRCLE!bp LOW WAWcHIGH WORD AR-RUBdSADdAINdQAFdNOONn KASRAcLOW NOONn KASRA",
  "cHIGH WORD ATH-THALATHAeAS-SAJDAeAN-NISFeSAKTAeQIFeWAQFAdFOOTNOTE MARKERds SAFHA",
  "bDISPUTED END OF AYAHbTURNED DAMMA!bCURLY FATHAcDAMMAcKASRAcFATHATANcDAMMATANcKASRATAN",
  "bTONE| DOTuc^ DOTSucLOOPuc| DOT!c^ DOTS!cLOOP!bOPEN FATHATANcDAMMATANcKASRATANbp HIGH WAW",
  "bFATHAn RINGdDOTubKASRAn DOT!bx ARROWHEADubt ARROWHEADubx ARROWHEAD!bt ARROWHEAD!",
  "bvt ARROWHEADufn DOTbt ARROWHEADun DOTbDAMMAn DOTb> SIDEWAYS NOON GHUNNA",
  "aDEVANAGARIs INVERTED CANDRABINDUcCANDRABINDUcANUSVARAcVISARGAbm SHORT AcAcAAcIcIIcUcUU",
  "cVOCALIC RdLcCANDRA EcSHORT EcEcAIcCANDRA OcSHORT OcOcAUcKAcKHAcGAcGHAcNGAcCAcCHAcJAcJHAcNYA",
  "cTTAcTTHAcDDAcDDHAcNNAcTAcTHAcDAcDHAcNAcNNNAcPAcPHAcBAcBHAcMAcYAcRAcRRAcLAcLLAcLLLAcVAcSHAcSSA",
  "cSAcHAbVOWELs OEdOOEbs NUKTAcAVAGRAHAbVOWELs AAdIdIIdUdUUdVOCALIC ReRRdCANDRA EdSHORT EdEdAI",
  "dCANDRA OdSHORT OdOdAUbs VIRAMAbVOWELs PRISHTHAMATRA EdAWbOMbSTRESSs UDATTAdANUDATTA",
  "bGRAVE ACCENTbACUTE ACCENTbVOWELs CANDRA LONG EdUEdUUEbm QAcKHHAcGHHAcZAcDDDHAcRHAcFAcYYA",
  "cVOCALIC RRdLLbVOWELs VOCALIC LeLLbDANDAbv DANDAbDIGIT ZEROc|c^c&cFOURcFIVEcSIXcSEVENcEIGHT",
  "cNINEbABBREVIATIONsbs HIGH SPACING DOTbm CANDRA AcOEcOOEcAWcUEcUUEcMARWARI DDAcZHAcHEAVY YA",
  "cGGAcJJAcGLOTTAL STOPcDDDAcBBAaBENGALI ANJIbs CANDRABINDUcANUSVARAcVISARGA@985bm AcAAcIcIIcU",
  "cUUcVOCALIC RdL@98FcEcAI@993cOcAUcKAcKHAcGAcGHAcNGAcCAcCHAcJAcJHAcNYAcTTAcTTHAcDDAcDDHAcNNAcTA",
  "cTHAcDAcDHAcNA@9AAcPAcPHAcBAcBHAcMAcYAcRA@9B2cLA@9B6cSHAcSSAcSAcHA@9BCbs NUKTAcAVAGRAHA",
  "bVOWELs AAdIdIIdUdUUdVOCALIC ReRR@9C7dEdAI@9CBdOdAUbs VIRAMAbm KHANDA TA@9D7bAU LENGTH>",
  "@9DCbm RRAcRHA@9DFcYYAcVOCALIC RRdLLbVOWELs VOCALIC LeLL@9E6bDIGIT ZEROc|c^c&cFOURcFIVEcSIX",
  "cSEVENcEIGHTcNINEbm RAn] DIAGONALeLOWER DIAGONALbRUPEE>csbCURRENCY NUMERATOR|d^d&dFOUR",
  "d| LESS THAN THE DENOMINATORcDENOMINATOR SIXTEENbISSHARbGANDA>bm VEDIC ANUSVARAbABBREVIATIONs",
  "bSANDHI>@A01aGURMUKHIs ADAK BINDIcBINDIcVISARGA@A05bm AcAAcIcIIcUcUU@A0FcEEcAI@A13cOOcAUcKA",
  "cKHAcGAcGHAcNGAcCAcCHAcJAcJHAcNYAcTTAcTTHAcDDAcDDHAcNNAcTAcTHAcDAcDHAcNA@A2AcPAcPHAcBAcBHAcMA",
  "cYAcRA@A32cLAcLLA@A35cVAcSHA@A38cSAcHA@A3Cbs NUKTA@A3EbVOWELs AAdIdIIdUdUU@A47dEEdAI@A4BdOOdAU",
  "bs VIRAMA@A51cUDAAT@A59bm KHHAcGHHAcZAcRRA@A5EcFA@A66bDIGIT ZEROc|c^c&cFOURcFIVEcSIXcSEVEN",
  "cEIGHTcNINEbTIPPIbADDAKbIRIbURAbEK ONKARbs YAKASHbABBREVIATIONs@A81aGUJARATIs CANDRABINDU",
  "cANUSVARAcVISARGA@A85bm AcAAcIcIIcUcUUcVOCALIC RdLbVOWEL CANDRA E@A8Fbm EcAIbVOWEL CANDRA O",
  "@A93bm OcAUcKAcKHAcGAcGHAcNGAcCAcCHAcJAcJHAcNYAcTTAcTTHAcDDAcDDHAcNNAcTAcTHAcDAcDHAcNA@AAAcPA",
  "cPHAcBAcBHAcMAcYAcRA@AB2cLAcLLA@AB5cVAcSHAcSSAcSAcHA@ABCbs NUKTAcAVAGRAHAbVOWELs AAdIdIIdUdUU",
  "dVOCALIC ReRRdCANDRA E@AC7dEdAIdCANDRA O@ACBdOdAUbs VIRAMA@AD0bOM@AE0bm VOCALIC RRdLL",
  "bVOWELs VOCALIC LeLL@AE6bDIGIT ZEROc|c^c&cFOURcFIVEcSIXcSEVENcEIGHTcNINEbABBREVIATIONsbRUPEEs",
  "@AF9bm ZHAbs SUKUNcSHADDAcMADDAHc&-DOT NUKTAucCIRCLE NUKTAuc^-CIRCLE NUKTAu",
  "@B01aORIYAs CANDRABINDUcANUSVARAcVISARGA@B05bm AcAAcIcIIcUcUUcVOCALIC RdL@B0FcEcAI@B13cOcAUcKA",
  "cKHAcGAcGHAcNGAcCAcCHAcJAcJHAcNYAcTTAcTTHAcDDAcDDHAcNNAcTAcTHAcDAcDHAcNA@B2AcPAcPHAcBAcBHAcMA",
  "cYAcRA@B32cLAcLLA@B35cVAcSHAcSSAcSAcHA@B3Cbs NUKTAcAVAGRAHAbVOWELs AAdIdIIdUdUUdVOCALIC ReRR",
  "@B47dEdAI@B4BdOdAUbs VIRAMA@B55cOVERLINEbAI LENGTH>bAU LENGTH>@B5Cbm RRAcRHA@B5FcYYA",
  "cVOCALIC RRdLLbVOWELs VOCALIC LeLL@B66bDIGIT ZEROc|c^c&cFOURcFIVEcSIXcSEVENcEIGHTcNINEbISSHAR",
  "bm WAbFRACTION| QUARTERdHALFc& QUARTERSc| SIXTEENTHdEIGHTHc& SIXTEENTHS@B82aTAMILs ANUSVARA",
  "cVISARGA@B85bm AcAAcIcIIcUcUU@B8EcEcEEcAI@B92cOcOOcAUcKA@B99cNGAcCA@B9CcJA@B9EcNYAcTTA@BA3cNNA",
  "cTA@BA8cNAcNNNAcPA@BAEcMAcYAcRAcRRAcLAcLLAcLLLAcVAcSHAcSSAcSAcHA@BBEbVOWELs AAdIdIIdUdUU@BC6dE",
  "dEEdAI@BCAdOdOOdAUbs VIRAMA@BD0bOM@BD7bAU LENGTH>@BE6bDIGIT ZEROc|c^c&cFOURcFIVEcSIXcSEVEN",
  "cEIGHTcNINEbNUMBER TENc|_dTHOUSANDbDAYsbMONTHsbYEARsbDEBITsbCREDITsbASusbRUPEEsbNUMBERs",
  "@C00aTELUGUs COMBINING CANDRABINDUucCANDRABINDUcANUSVARAcVISARGAcCOMBINING ANUSVARAubm AcAAcI",
  "cIIcUcUUcVOCALIC RdL@C0EcEcEEcAI@C12cOcOOcAUcKAcKHAcGAcGHAcNGAcCAcCHAcJAcJHAcNYAcTTAcTTHAcDDA",
  "cDDHAcNNAcTAcTHAcDAcDHAcNA@C2AcPAcPHAcBAcBHAcMAcYAcRAcRRAcLAcLLAcLLLAcVAcSHAcSSAcSAcHA",
  "@C3Cbs NUKTAcAVAGRAHAbVOWELs AAdIdIIdUdUUdVOCALIC ReRR@C46dEdEEdAI@C4AdOdOOdAUbs VIRAMA",
  "@C55bLENGTH>bAI LENGTH>@C58bm TSAcDZAcRRRA@C5DcNAKAARA POLLU@C60cVOCALIC RRdLL",
  "bVOWELs VOCALIC LeLL@C66bDIGIT ZEROc|c^c&cFOURcFIVEcSIXcSEVENcEIGHTcNINE@C77bs SIDDHAM",
  "bFRACTION DIGIT ZERO FOR ODD POWERS OF FOURd| FOR ODD POWERS OF FOURd^ FOR ODD POWERS OF FOUR",
  "d& FOR ODD POWERS OF FOURd| FOR EVEN POWERS OF FOURd^ FOR EVEN POWERS OF FOUR",
  "d& FOR EVEN POWERS OF FOURbs TUUMUaKANNADAs SPACING CANDRABINDUcCANDRABINDUcANUSVARAcVISARGA",
  "cSIDDHAMbm AcAAcIcIIcUcUUcVOCALIC RdL@C8EcEcEEcAI@C92cOcOOcAUcKAcKHAcGAcGHAcNGAcCAcCHAcJAcJHA",
  "cNYAcTTAcTTHAcDDAcDDHAcNNAcTAcTHAcDAcDHAcNA@CAAcPAcPHAcBAcBHAcMAcYAcRAcRRAcLAcLLA@CB5cVAcSHA",
  "cSSAcSAcHA@CBCbs NUKTAcAVAGRAHAbVOWELs AAdIdIIdUdUUdVOCALIC ReRR@CC6dEdEEdAI@CCAdOdOOdAU",
  "bs VIRAMA@CD5bLENGTH>bAI LENGTH>@CDDbm NAKAARA POLLUcFA@CE0cVOCALIC RRdLLbVOWELs VOCALIC LeLL",
  "@CE6bDIGIT ZEROc|c^c&cFOURcFIVEcSIXcSEVENcEIGHTcNINE@CF1bs JIHVAMULIYAcUPADHMANIYA",
  "@D00aMALAYALAMs COMBINING ANUSVARAucCANDRABINDUcANUSVARAcVISARGAbm VEDIC ANUSVARAcAcAAcIcIIcU",
  "cUUcVOCALIC RdL@D0EcEcEEcAI@D12cOcOOcAUcKAcKHAcGAcGHAcNGAcCAcCHAcJAcJHAcNYAcTTAcTTHAcDDAcDDHA",
  "cNNAcTAcTHAcDAcDHAcNAcNNNAcPAcPHAcBAcBHAcMAcYAcRAcRRAcLAcLLAcLLLAcVAcSHAcSSAcSAcHAcTTTA",
  "bs* BAR VIRAMAcCIRCULAR VIRAMAcAVAGRAHAbVOWELs AAdIdIIdUdUUdVOCALIC ReRR@D46dEdEEdAI@D4AdOdOO",
  "dAUbs VIRAMAbm DOT REPHbs PARA@D54bm CHILLU MdYdLLLbAU LENGTH>bFRACTION||-HUNDRED-AND-SIXTIETH",
  "dFORTIETHc& EIGHTIETHSc| TWENTIETHdTENTHc& TWENTIETHSc| FIFTHbm ARCHAIC IIcVOCALIC RRdLL",
  "bVOWELs VOCALIC LeLL@D66bDIGIT ZEROc|c^c&cFOURcFIVEcSIXcSEVENcEIGHTcNINEbNUMBER TENc|_",
  "dTHOUSANDbFRACTION| QUARTERdHALFc& QUARTERSc| SIXTEENTHdEIGHTHc& SIXTEENTHSbDATE>bm CHILLU NN",
  "dNdRRdLdLLdK@D81aSINHALAs CANDRABINDUcANUSVARAYAcVISARGAYA@D85bm AYANNAcAAYANNAcAEYANNA",
  "cAEEYANNAcIYANNAcIIYANNAcUYANNAcUUYANNAcIRUYANNAcIRUUYANNAcILUYANNAcILUUYANNAcEYANNAcEEYANNA",
  "cAIYANNAcOYANNAcOOYANNAcAUYANNA@D9AcALPAPRAANA KAYANNAcMAHAAPRAANA KAYANNAcALPAPRAANA GAYANNA",
  "cMAHAAPRAANA GAYANNAcKANTAJA NAASIKYAYAcSANYAKA GAYANNAcALPAPRAANA CAYANNAcMAHAAPRAANA CAYANNA",
  "cALPAPRAANA JAYANNAcMAHAAPRAANA JAYANNAcTAALUJA NAASIKYAYAdSANYOOGA NAAKSIKYAYA",
  "cSANYAKA JAYANNAcALPAPRAANA TTAYANNAcMAHAAPRAANA TTAYANNAcALPAPRAANA DDAYANNA",
  "cMAHAAPRAANA DDAYANNAcMUURDHAJA NAYANNAcSANYAKA DDAYANNAcALPAPRAANA TAYANNA",
  "cMAHAAPRAANA TAYANNAcALPAPRAANA DAYANNAcMAHAAPRAANA DAYANNAcDANTAJA NAYANNA",
  "@DB3cSANYAKA DAYANNAcALPAPRAANA PAYANNAcMAHAAPRAANA PAYANNAcALPAPRAANA BAYANNA",
  "cMAHAAPRAANA BAYANNAcMAYANNAcAMBA BAYANNAcYAYANNAcRAYANNA@DBDcDANTAJA LAYANNA@DC0cVAYANNA",
  "cTAALUJA SAYANNAcMUURDHAJA SAYANNAcDANTAJA SAYANNAcHAYANNAcMUURDHAJA LAYANNAcFAYANNA",
  "@DCAbs AL-LAKUNA@DCFbVOWELs AELA-PILLAdKETTI AEDA-PILLAdDIGA AEDA-PILLAdKETTI IS-PILLA",
  "dDIGA IS-PILLAdKETTI PAA-PILLA@DD6dDIGA PAA-PILLA@DD8dGAETTA-PILLAdKOMBUVAdDIGA KOMBUVA",
  "dKOMBU DEKAdKOMBUVA HAA AELA-PILLAfDIGA AELA-PILLAfGAYANUKITTAdGAYANUKITTA@DE6bLITH DIGIT ZERO",
  "d|d^d&dFOURdFIVEdSIXdSEVENdEIGHTdNINE@DF2bVOWELs DIGA GAETTA-PILLAeGAYANUKITTA",
  "bPUNCTUATION KUNDDALIYA@E01aTHAI CHARACTER KO KAIcKHO KHAIdKHUATdKHWAIdKHONdRAKHANGcNGO NGU",
  "cCHO CHANdCHINGdCHANGcSO SOcCHO CHOEcYO YINGcDO CHADAcTO PATAKcTHO THANdNANGMONTHOdPHUTHAO",
  "cNO NENcDO DEKcTO TAOcTHO THUNGdTHAHANdTHONGcNO NUcBO BAIMAIcPO PLAcPHO PHUNGcFO FAcPHO PHAN",
  "cFO FANcPHO SAMPHAOcMO MAcYO YAKcRO RUAcRUcLO LINGcLUcWO WAENcSO SALAdRUSIdSUAcHO HIPcLO CHULA",
  "cO ANGcHO NOKHUKcPAIYANNOIcSARA AcMAI HAN-AKATcSARA AAdAMdIdIIdUEdUEEdUdUUcPHINTHU",
  "@E3FbCURRENCY; BAHTbCHARACTER SARA EdAEdOdAI MAIMUANeMAIMALAIcLAKKHANGYAOcMAIYAMOKcMAITAIKHU",
  "cMAI EKdTHOdTRIdCHATTAWAcTHANTHAKHATcNIKHAHITcYAMAKKANcFONGMANbDIGIT ZEROc|c^c&cFOURcFIVEcSIX",
  "cSEVENcEIGHTcNINEbCHARACTER ANGKHANKHUcKHOMUT@E81aLAOm KOcKHO SUNG@E84dTAM@E86cPALI GHAcNGOcCO",
  "cPALI CHAcSO TAM@E8CcPALI JHAcNYOcPALI NYAdTTAdTTHAdDDAdDDHAdNNAcDOcTOcTHO SUNGdTAMcPALI DHA",
  "cNOcBOcPOcPHO SUNGcFO TAMcPHO TAMcFO SUNGcPALI BHAcMOcYOcLO LING@EA5dLOOT@EA7cWOcSANSKRIT SHA",
  "dSSAcSO SUNGcHO SUNGcPALI LLAcOcHO TAMbELLIPSISbVOWELs AdMAI KANdAAdAMdIdIIdYdYYdUdUU",
  "bs PALI VIRAMAbVOWELs MAI KONbSEMIVOWELs LOdNYO@EC0bVOWELs EdEIdOdAYdAI@EC6bKO LA",
  "@EC8bTONE MAI EKdTHOdTIdCATAWAbCANCELLATION>bNIGGAHITA@ED0bDIGIT ZEROc|c^c&cFOURcFIVEcSIX",
  "cSEVENcEIGHTcNINE@EDCbHO NOcMObm KHMU GOdNYO@F00aTIBETAN SYLLABLE OM",
  "b> GTER YIG MGO TRUNCATED Af -UM RNAM BCAD MAhGTER TSHEG MAc, YIG MGO MDUN MA",
  "cCLOSING YIG MGO SGAB MAcCARET YIG MGO PHUR SHAD MAcYIG MGO TSHEG SHAD MAcSBRUL SHAD",
  "cBSKUR YIG MGOcBKA- SHOG YIG MGOcINTERSYLLABIC TSHEGcDELIMITER TSHEG BSTARcSHADcNYIS SHAD",
  "cTSHEG SHADcNYIS TSHEG SHADcRIN CHEN SPUNGS SHADcRGYA GRAM SHADcCARET -DZUD RTAGS ME LONG CAN",
  "cGTER TSHEGbLOGOTYPEs CHAD RTAGSdLHAG RTAGSbASTROLOGICALs SGRA GCAN -CHAR RTAGSd -KHYUD PA",
  "dSDONG TSHUGSbs RDEL DKAR GCIGeGNYISeGSUMdNAG GCIGeGNYISdDKAR RDEL NAGbDIGIT ZEROc|c^c&cFOUR",
  "cFIVEcSIXcSEVENcEIGHTcNINEcHALF|d^d&dFOURdFIVEdSIXdSEVENdEIGHTdNINEdZEROb> BSDUS RTAGS",
  "cNGAS BZUNG NYI ZLAcCARET -DZUD RTAGS BZHI MIG CANcNGAS BZUNG SGOR RTAGScCHE MGOcTSA -PHRU",
  "cGUG RTAGS GYONeGYAScANG KHANG GYONeGYASbs YAR TSHEScMAR TSHESbm KAcKHAcGAcGHAcNGAcCAcCHAcJA",
  "@F49cNYAcTTAcTTHAcDDAcDDHAcNNAcTAcTHAcDAcDHAcNAcPAcPHAcBAcBHAcMAcTSAcTSHAcDZAcDZHAcWAcZHAcZA",
  "c -AcYAcRAcLAcSHAcSSAcSAcHAcAcKSSAcFIXED-FORM RAcKKAcRRA@F71bVOWELs AAdIdIIdUdUUdVOCALIC ReRR",
  "eLeLLdEdEEdOdOObs RJES SU NGA ROcRNAM BCADbVOWELs REVERSED IeIIbs NYI ZLA NAA DAcSNA LDAN",
  "b> HALANTAcPALUTAbs LCI RTAGScYANG RTAGScLCE TSA CANcMCHU CANcGRU CAN RGYINGSdMED RGYINGS",
  "cINVERTED MCHU CANbSUBJOINEDs LCE TSA CANdMCHU CANdINVERTED MCHU CANcm KAdKHAdGAdGHAdNGAdCA",
  "dCHAdJA@F99dNYAdTTAdTTHAdDDAdDDHAdNNAdTAdTHAdDAdDHAdNAdPAdPHAdBAdBHAdMAdTSAdTSHAdDZAdDZHAdWA",
  "dZHAdZAd -AdYAdRAdLAdSHAdSSAdSAdHAdAdKSSAdFIXED-FORM WAfYAfRA@FBEbKU RU KHAeBZHI MIG CAN",
  "bCANTILLATIONs HEAVY BEATdLIGHT BEATdCANG TE-UdSBUB -CHALb; DRIL BUcRDO RJEcPADMA GDAN",
  "cRDO RJE RGYA GRAMcPHUR PAcNOR BUeNYIS -KHYILeGSUM -KHYILeBZHI -KHYIL@FCEbs RDEL NAG RDEL DKAR",
  "eGSUMb> BSKA- SHOG GI MGO RGYANcMNYAM YIG GI MGO RGYANcNYIS TSHEG",
  "c, BRDA RNYING YIG MGO MDUN MAcCLOSING BRDA RNYING YIG MGO SGAB MAat-FACING SVASTIs",
  "ax-FACING SVASTIsat-FACING SVASTIsn DOTSax-FACING SVASTIsn DOTSaTIBETAN> LEADING MCHAN RTAGS",
  "cTRAILING MCHAN RTAGS@1000aMYANMARm KAcKHAcGAcGHAcNGAcCAcCHAcJAcJHAcNYAcNNYAcTTAcTTHAcDDAcDDHA",
  "cNNAcTAcTHAcDAcDHAcNAcPAcPHAcBAcBHAcMAcYAcRAcLAcWAcSAcHAcLLAcAcSHAN AcIcIIcUcUUcEcMON EcOcAU",
  "bVOWELs TALL AAdAAdIdIIdUdUUdEdAIdMON IIeOdEubs ANUSVARAcDOT!cVISARGAcVIRAMAcASAT",
  "bCONSONANTs MEDIAL YAeRAeWAeHAbm GREAT SAbDIGIT ZEROc|c^c&cFOURcFIVEcSIXcSEVENcEIGHTcNINE",
  "bs LITTLE SECTIONcSECTIONb; LOCATIVEcCOMPLETEDcAFOREMENTIONEDcGENITIVEbm SHAcSSAcVOCALIC RdRR",
  "dLdLLbVOWELs VOCALIC ReRReLeLLbm MON NGAdJHAdBBAdBBEbCONSONANTs MON MEDIAL NAfMAfLA",
  "bm SGAW KAREN SHAbVOWELs SGAW KAREN EUbTONE> SGAW KAREN HATHIfKE PHObm WESTERN PWO KAREN THA",
  "fPWAbVOWELs WESTERN PWO KAREN EUgUEbs WESTERN PWO KAREN TONE-1g-2g-3g-4g-5",
  "bm EASTERN PWO KAREN NNAfYWAfGHWAbVOWELs GEBA KAREN IdKAYAH OEeUeEEbm SHAN KAdKHAdGAdCAdZAdNYA",
  "dDAdNAdPHAdFAdBAdTHAdHAbCONSONANTs SHAN MEDIAL WAbVOWELs SHAN AAeEfue$ Ybs SHAN TONE-2e-3e-5",
  "e-6dCOUNCIL TONE-2f-3eEMPHATIC TONEbm RUMAI PALAUNG FAbs RUMAI PALAUNG TONE-5bSHAN DIGIT ZERO",
  "d|d^d&dFOURdFIVEdSIXdSEVENdEIGHTdNINEbs KHAMTI TONE-1e-3bVOWELs AITON AeAIb; SHAN|dEXCLAMATION",
  "aGEORGIANom ANdBANdGANdDONdENdVINdZENdTANdINdKANdLASdMANdNARdONdPARdZHARdRAEdSANdTARdUNdPHAR",
  "dKHARdGHANdQARdSHINdCHINdCANdJILdCILdCHARdXANdJHANdHAEdHEdHIEdWEdHARdHOE@10C7dYN@10CDdAEN",
  "@10D0bm ANcBANcGANcDONcENcVINcZENcTANcINcKANcLAScMANcNARcONcPARcZHARcRAEcSANcTARcUNcPHARcKHAR",
  "cGHANcQARcSHINcCHINcCANcJILcCILcCHARcXANcJHANcHAEcHEcHIEcWEcHARcHOEcFIcYNcELIFIcTURNED GANcAIN",
  "bPARAGRAPH SEPARATORaMODIFIERm GEORGIAN NARaGEORGIANm AENcHARDscLABIALsaHANGUL CHOSEONG KIYEOK",
  "cSSANGKIYEOKcNIEUNcTIKEUTcSSANGTIKEUTcRIEULcMIEUMcPIEUPcSSANGPIEUPcSIOScSSANGSIOScIEUNGcCIEUC",
  "cSSANGCIEUCcCHIEUCHcKHIEUKHcTHIEUTHcPHIEUPHcHIEUHcNIEUN-KIYEOKcSSANGNIEUNcNIEUN-TIKEUTd-PIEUP",
  "cTIKEUT-KIYEOKcRIEUL-NIEUNcSSANGRIEULcRIEUL-HIEUHcKAPYEOUNRIEULcMIEUM-PIEUPcKAPYEOUNMIEUM",
  "cPIEUP-KIYEOKd-NIEUNd-TIKEUTd-SIOSe-KIYEOKe-TIKEUTe-PIEUPd-SSANGSIOSd-SIOS-CIEUCd-CIEUC",
  "d-CHIEUCHd-THIEUTHd-PHIEUPHcKAPYEOUNPIEUPcKAPYEOUNSSANGPIEUPcSIOS-KIYEOKd-NIEUNd-TIKEUTd-RIEUL",
  "d-MIEUMd-PIEUPe-KIYEOKd-SSANGSIOSd-IEUNGd-CIEUCd-CHIEUCHd-KHIEUKHd-THIEUTHd-PHIEUPHd-HIEUH",
  "cCHITUEUMSIOScCHITUEUMSSANGSIOScCEONGCHIEUMSIOScCEONGCHIEUMSSANGSIOScPANSIOScIEUNG-KIYEOK",
  "d-TIKEUTd-MIEUMd-PIEUPd-SIOSd-PANSIOScSSANGIEUNGcIEUNG-CIEUCd-CHIEUCHd-THIEUTHd-PHIEUPH",
  "cYESIEUNGcCIEUC-IEUNGcCHITUEUMCIEUCcCHITUEUMSSANGCIEUCcCEONGCHIEUMCIEUCcCEONGCHIEUMSSANGCIEUC",
  "cCHIEUCH-KHIEUKHd-HIEUHcCHITUEUMCHIEUCHcCEONGCHIEUMCHIEUCHcPHIEUPH-PIEUPcKAPYEOUNPHIEUPH",
  "cSSANGHIEUHcYEORINHIEUHcKIYEOK-TIKEUTcNIEUN-SIOSd-CIEUCd-HIEUHcTIKEUT-RIEULcFILLER",
  "bJUNGSEONG FILLERcAcAEcYAcYAEcEOcEcYEOcYEcOcWAcWAEcOEcYOcUcWEOcWEcWIcYUcEUcYIcIcA-Od-UcYA-O",
  "d-YOcEO-Od-Ud-EUcYEO-Od-UcO-EOd-Ed-YEd-Od-UcYO-YAd-YAEd-YEOd-Od-IcU-Ad-AEd-EO-EUd-YEd-UcYU-A",
  "d-EOd-Ed-YEOd-YEd-Ud-IcEU-Ud-EUcYI-UcI-Ad-YAd-Od-Ud-EUd-ARAEAcARAEAd-EOd-Ud-IcSSANGARAEAcA-EU",
  "cYA-UcYEO-YAcO-YAd-YAEbJONGSEONG KIYEOKcSSANGKIYEOKcKIYEOK-SIOScNIEUNd-CIEUCd-HIEUHcTIKEUT",
  "cRIEULd-KIYEOKd-MIEUMd-PIEUPd-SIOSd-THIEUTHd-PHIEUPHd-HIEUHcMIEUMcPIEUPd-SIOScSIOScSSANGSIOS",
  "cIEUNGcCIEUCcCHIEUCHcKHIEUKHcTHIEUTHcPHIEUPHcHIEUHcKIYEOK-RIEULd-SIOS-KIYEOKcNIEUN-KIYEOK",
  "d-TIKEUTd-SIOSd-PANSIOSd-THIEUTHcTIKEUT-KIYEOKd-RIEULcRIEUL-KIYEOK-SIOSd-NIEUNd-TIKEUTe-HIEUH",
  "cSSANGRIEULcRIEUL-MIEUM-KIYEOKe-SIOSd-PIEUP-SIOSe-HIEUHd-KAPYEOUNPIEUPd-SSANGSIOSd-PANSIOS",
  "d-KHIEUKHd-YEORINHIEUHcMIEUM-KIYEOKd-RIEULd-PIEUPd-SIOSd-SSANGSIOSd-PANSIOSd-CHIEUCHd-HIEUH",
  "cKAPYEOUNMIEUMcPIEUP-RIEULd-PHIEUPHd-HIEUHcKAPYEOUNPIEUPcSIOS-KIYEOKd-TIKEUTd-RIEULd-PIEUP",
  "cPANSIOScIEUNG-KIYEOKd-SSANGKIYEOKcSSANGIEUNGcIEUNG-KHIEUKHcYESIEUNGd-SIOSd-PANSIOS",
  "cPHIEUPH-PIEUPcKAPYEOUNPHIEUPHcHIEUH-NIEUNd-RIEULd-MIEUMd-PIEUPcYEORINHIEUHcKIYEOK-NIEUN",
  "d-PIEUPd-CHIEUCHd-KHIEUKHd-HIEUHcSSANGNIEUNaETHIOPIC SYLLABLE HAcHUcHIcHAAcHEEcHEcHOcHOAcLAcLU",
  "cLIcLAAcLEEcLEcLOcLWAcHHAcHHUcHHIcHHAAcHHEEcHHEcHHOcHHWAcMAcMUcMIcMAAcMEEcMEcMOcMWAcSZAcSZU",
  "cSZIcSZAAcSZEEcSZEcSZOcSZWAcRAcRUcRIcRAAcREEcREcROcRWAcSAcSUcSIcSAAcSEEcSEcSOcSWAcSHAcSHUcSHI",
  "cSHAAcSHEEcSHEcSHOcSHWAcQAcQUcQIcQAAcQEEcQEcQOcQOAcQWA@124AcQWIcQWAAcQWEEcQWE@1250cQHAcQHUcQHI",
  "cQHAAcQHEEcQHEcQHO@1258cQHWA@125AcQHWIcQHWAAcQHWEEcQHWE@1260cBAcBUcBIcBAAcBEEcBEcBOcBWAcVAcVU",
  "cVIcVAAcVEEcVEcVOcVWAcTAcTUcTIcTAAcTEEcTEcTOcTWAcCAcCUcCIcCAAcCEEcCEcCOcCWAcXAcXUcXIcXAAcXEE",
  "cXEcXOcXOAcXWA@128AcXWIcXWAAcXWEEcXWE@1290cNAcNUcNIcNAAcNEEcNEcNOcNWAcNYAcNYUcNYIcNYAAcNYEE",
  "cNYEcNYOcNYWAcGLOTTAL AdUdIdAAdEEdEdOdWAcKAcKUcKIcKAAcKEEcKEcKOcKOAcKWA@12B2cKWIcKWAAcKWEEcKWE",
  "@12B8cKXAcKXUcKXIcKXAAcKXEEcKXEcKXO@12C0cKXWA@12C2cKXWIcKXWAAcKXWEEcKXWE@12C8cWAcWUcWIcWAAcWEE",
  "cWEcWOcWOAcPHARYNGEAL AdUdIdAAdEEdEdO@12D8cZAcZUcZIcZAAcZEEcZEcZOcZWAcZHAcZHUcZHIcZHAAcZHEE",
  "cZHEcZHOcZHWAcYAcYUcYIcYAAcYEEcYEcYOcYOAcDAcDUcDIcDAAcDEEcDEcDOcDWAcDDAcDDUcDDIcDDAAcDDEEcDDE",
  "cDDOcDDWAcJAcJUcJIcJAAcJEEcJEcJOcJWAcGAcGUcGIcGAAcGEEcGEcGOcGOAcGWA@1312cGWIcGWAAcGWEEcGWE",
  "@1318cGGAcGGUcGGIcGGAAcGGEEcGGEcGGOcGGWAAcTHAcTHUcTHIcTHAAcTHEEcTHEcTHOcTHWAcCHAcCHUcCHIcCHAA",
  "cCHEEcCHEcCHOcCHWAcPHAcPHUcPHIcPHAAcPHEEcPHEcPHOcPHWAcTSAcTSUcTSIcTSAAcTSEEcTSEcTSOcTSWAcTZA",
  "cTZUcTZIcTZAAcTZEEcTZEcTZOcTZOAcFAcFUcFIcFAAcFEEcFEcFOcFWAcPAcPUcPIcPAAcPEEcPEcPOcPWAcRYAcMYA",
  "cFYA@135DbCOMBINING GEMINATIONz VOWEL LENGTH>cVOWEL LENGTH>cGEMINATION>bSECTION>bWORDSPACE",
  "bFULL STOPbCOMMAbSEMICOLONbCOLONbPREFACE COLONbQUESTION>bPARAGRAPH SEPARATORbDIGIT|c^c&cFOUR",
  "cFIVEcSIXcSEVENcEIGHTcNINEbNUMBER TENcTWENTYcTHIRTYcFORTYcFIFTYcSIXTYcSEVENTYcEIGHTYcNINETYc_",
  "cTEN THOUSAND@1380bSYLLABLE SEBATBEIT MWAcMWIcMWEEcMWEcSEBATBEIT BWAcBWIcBWEEcBWE",
  "cSEBATBEIT FWAcFWIcFWEEcFWEcSEBATBEIT PWAcPWIcPWEEcPWEbTONAL> YIZETdDERETdRIKRIKdSHORT RIKRIK",
  "dDIFATdKENATdCHIRETdHIDETdDERET-HIDETdKURT@13A0aCHEROKEEm AcEcIcOcUcVcGAcKAcGEcGIcGOcGUcGVcHA",
  "cHEcHIcHOcHUcHVcLAcLEcLIcLOcLUcLVcMAcMEcMIcMOcMUcNAcHNAcNAHcNEcNIcNOcNUcNVcQUAcQUEcQUIcQUOcQUU",
  "cQUVcSAcScSEcSIcSOcSUcSVcDAcTAcDEcTEcDIcTIcDOcDUcDVcDLAcTLAcTLEcTLIcTLOcTLUcTLVcTSAcTSEcTSI",
  "cTSOcTSUcTSVcWAcWEcWIcWOcWUcWVcYAcYEcYIcYOcYUcYVcMV@13F8bpm YEdYIdYOdYUdYVdMV",
  "@1400aCANADIAN SYLLABICS HYPHENcEcAAIcIcIIcOcOOcY-CREE OOcCARRIER EEdIcAcAAcWEcWEST-CREE WEcWI",
  "cWEST-CREE WIcWIIcWEST-CREE WIIcWOcWEST-CREE WOcWOOcWEST-CREE WOOcNASKAPI WOOcWAcWEST-CREE WA",
  "cWAAcWEST-CREE WAAcNASKAPI WAAcAIcY-CREE WcGLOTTAL STOPc$ ACUTEdGRAVEdBOTTOM HALF RING",
  "dTOP HALF RINGdt HALF RINGdRINGdv ACUTEeSHORT* STROKESd] DOTdSHORT[.dPLUSdDOWN TACKcENcINcON",
  "cANcPEcPAAIcPIcPIIcPOcPOOcY-CREE POOcCARRIER HEEdHIcPAcPAAcPWEcWEST-CREE PWEcPWIcWEST-CREE PWI",
  "cPWIIcWEST-CREE PWIIcPWOcWEST-CREE PWOcPWOOcWEST-CREE PWOOcPWAcWEST-CREE PWAcPWAA",
  "cWEST-CREE PWAAcY-CREE PWAAcPcWEST-CREE PcCARRIER HcTEcTAAIcTIcTIIcTOcTOOcY-CREE TOO",
  "cCARRIER DEEdDIcTAcTAAcTWEcWEST-CREE TWEcTWIcWEST-CREE TWIcTWIIcWEST-CREE TWIIc^cWEST-CREE^",
  "cTWOOcWEST-CREE TWOOcTWAcWEST-CREE TWAcTWAAcWEST-CREE TWAAcNASKAPI TWAAcTcTTEcTTIcTTOcTTAcKE",
  "cKAAIcKIcKIIcKOcKOOcY-CREE KOOcKAcKAAcKWEcWEST-CREE KWEcKWIcWEST-CREE KWIcKWIIcWEST-CREE KWII",
  "cKWOcWEST-CREE KWOcKWOOcWEST-CREE KWOOcKWAcWEST-CREE KWAcKWAAcWEST-CREE KWAAcNASKAPI KWAAcKcKW",
  "cSOUTH-SLAVEY KEHeKIHeKOHeKAHcCEcCAAIcCIcCIIcCOcCOOcY-CREE COOcCAcCAAcCWEcWEST-CREE CWEcCWI",
  "cWEST-CREE CWIcCWIIcWEST-CREE CWIIcCWOcWEST-CREE CWOcCWOOcWEST-CREE CWOOcCWAcWEST-CREE CWA",
  "cCWAAcWEST-CREE CWAAcNASKAPI CWAAcCcSAYISI THcMEcMAAIcMIcMIIcMOcMOOcY-CREE MOOcMAcMAAcMWE",
  "cWEST-CREE MWEcMWIcWEST-CREE MWIcMWIIcWEST-CREE MWIIcMWOcWEST-CREE MWOcMWOOcWEST-CREE MWOOcMWA",
  "cWEST-CREE MWAcMWAAcWEST-CREE MWAAcNASKAPI MWAAcMcWEST-CREE McMHcATHAPASCAN McSAYISI McNEcNAAI",
  "cNIcNIIcNOcNOOcY-CREE NOOcNAcNAAcNWEcWEST-CREE NWEcNWAcWEST-CREE NWAcNWAAcWEST-CREE NWAA",
  "cNASKAPI NWAAcNcCARRIER NGcNHcLEcLAAIcLIcLIIcLOcLOOcY-CREE LOOcLAcLAAcLWEcWEST-CREE LWEcLWI",
  "cWEST-CREE LWIcLWIIcWEST-CREE LWIIcLWOcWEST-CREE LWOcLWOOcWEST-CREE LWOOcLWAcWEST-CREE LWA",
  "cLWAAcWEST-CREE LWAAcLcWEST-CREE LcMEDIAL LcSEcSAAIcSIcSIIcSOcSOOcY-CREE SOOcSAcSAAcSWE",
  "cWEST-CREE SWEcSWIcWEST-CREE SWIcSWIIcWEST-CREE SWIIcSWOcWEST-CREE SWOcSWOOcWEST-CREE SWOOcSWA",
  "cWEST-CREE SWAcSWAAcWEST-CREE SWAAcNASKAPI SWAAcScATHAPASCAN ScSWcBLACKFOOT ScMOOSE-CREE SK",
  "cNASKAPI SKWdS-WdSPWAdSTWAdSKWAdSCWAcSHEcSHIcSHIIcSHOcSHOOcSHAcSHAAcSHWEcWEST-CREE SHWEcSHWI",
  "cWEST-CREE SHWIcSHWIIcWEST-CREE SHWIIcSHWOcWEST-CREE SHWOcSHWOOcWEST-CREE SHWOOcSHWA",
  "cWEST-CREE SHWAcSHWAAcWEST-CREE SHWAAcSHcYEcYAAIcYIcYIIcYOcYOOcY-CREE YOOcYAcYAAcYWE",
  "cWEST-CREE YWEcYWIcWEST-CREE YWIcYWIIcWEST-CREE YWIIcYWOcWEST-CREE YWOcYWOOcWEST-CREE YWOOcYWA",
  "cWEST-CREE YWAcYWAAcWEST-CREE YWAAcNASKAPI YWAAcYcBIBLE-CREE YcWEST-CREE YcSAYISI YIcRE",
  "cR-CREE REcWEST-CREE LEcRAAIcRIcRIIcROcROOcWEST-CREE LOcRAcRAAcWEST-CREE LAcRWAA",
  "cWEST-CREE RWAAcRcWEST-CREE RcMEDIAL RcFEcFAAIcFIcFIIcFOcFOOcFAcFAAcFWAAcWEST-CREE FWAAcFcTHE",
  "cN-CREE THEcTHIcN-CREE THIcTHIIcN-CREE THIIcTHOcTHOOcTHAcTHAAcTHWAAcWEST-CREE THWAAcTHcTTHE",
  "cTTHIcTTHOcTTHAcTTHcTYEcTYIcTYOcTYAcNUNAVIK HEdHIdHIIdHOdHOOdHAdHAAdHcNUNAVUT HcHKcQAAIcQIcQII",
  "cQOcQOOcQAcQAAcQcTLHEcTLHIcTLHOcTLHAcWEST-CREE REeRIeROeRAcNGAAIcNGIcNGIIcNGOcNGOOcNGAcNGAAcNG",
  "cNNGcSAYISI SHEdSHIdSHOdSHAcWOODS-CREE THEeTHIeTHOeTHAeTHcLHIcLHIIcLHOcLHOOcLHAcLHAAcLH",
  "cTH-CREE THEeTHIeTHIIeTHOeTHOOeTHAeTHAAeTHcAIVILIK BcBLACKFOOT EdIdOdAdWEdWIdWOdWAdNEdNIdNOdNA",
  "dKEdKIdKOdKAcSAYISI HEdHIdHOdHAcCARRIER GHUdGHOdGHEdGHEEdGHIdGHAdRUdROdREdREEdRIdRAdWUdWOdWE",
  "dWEEdWIdWAdHWUdHWOdHWEdHWEEdHWIdHWAdTHUdTHOdTHEdTHEEdTHIdTHAdTTUdTTOdTTEdTTEEdTTIdTTAdPUdPOdPE",
  "dPEEdPIdPAdPdGUdGOdGEdGEEdGIdGAdKHUdKHOdKHEdKHEEdKHIdKHAdKKUdKKOdKKEdKKEEdKKIdKKAdKKdNUdNOdNE",
  "dNEEdNIdNAdMUdMOdMEdMEEdMIdMAdYUdYOdYEdYEEdYIdYAdJUcSAYISI JUcCARRIER JOdJEdJEEdJIcSAYISI JI",
  "cCARRIER JAdJJUdJJOdJJEdJJEEdJJIdJJAdLUdLOdLEdLEEdLIdLAdDLUdDLOdDLEdDLEEdDLIdDLAdLHUdLHOdLHE",
  "dLHEEdLHIdLHAdTLHUdTLHOdTLHEdTLHEEdTLHIdTLHAdTLUdTLOdTLEdTLEEdTLIdTLAdZUdZOdZEdZEEdZIdZAdZd, Z",
  "dDZUdDZOdDZEdDZEEdDZIdDZAdSUdSOdSEdSEEdSIdSAdSHUdSHOdSHEdSHEEdSHIdSHAdSHdTSUdTSOdTSEdTSEEdTSI",
  "dTSAdCHUdCHOdCHEdCHEEdCHIdCHAdTTSUdTTSOdTTSEdTTSEEdTTSIdTTSAcCHIscFULL STOPcQAIcNGAIcNNGI",
  "cNNGIIcNNGOcNNGOOcNNGAcNNGAAcWOODS-CREE THWEEeTHWIeTHWIIeTHWOeTHWOOeTHWAeTHWAAe$ TH",
  "cBLACKFOOT WaOGHAM SPACE>bm BEITHcLUIScFEARNcSAILcNIONcUATHcDAIRcTINNEcCOLLcCEIRTcMUINcGORT",
  "cNGEADALcSTRAIFcRUIScAILMcONNcURcEADHADHcIODHADHcEABHADHcORcUILLEANNcIFINcEAMHANCHOLLcPEITH",
  "bFEATHER>bREVERSED FEATHER>@16A0aRUNICm FEHU FEOH FE FcVcURUZ UR UcYRcYcWcTHURISAZ THURS THORN",
  "cETHcANSUZ AcOS OcAC AcAESCcLONG-BRANCH-OSS OcSHORT-TWIG-OSS OcOcOEcONcRAIDO RAD REID RcKAUNA",
  "cCENcKAUN KcGcENGcGEBO GYFU GcGARcWUNJO WYNN WcHAGLAZ HcHAEGL HcLONG-BRANCH-HAGALL H",
  "cSHORT-TWIG-HAGALL HcNAUDIZ NYD NAUD NcSHORT-TWIG-NAUD NcDOTTED-NcISAZ IS ISS IcEcJERAN JcGER",
  "cLONG-BRANCH-AR AEcSHORT-TWIG-AR AcIWAZ EOHcPERTHO PEORTH PcALGIZ EOLHXcSOWILO S",
  "cSIGEL LONG-BRANCH-SOL ScSHORT-TWIG-SOL ScCcZcTIWAZ TIR TYR TcSHORT-TWIG-TYR TcD",
  "cBERKANAN BEORC BJARKAN BcSHORT-TWIG-BJARKAN BcDOTTED-PcOPEN-PcEHWAZ EH EcMANNAZ MAN M",
  "cLONG-BRANCH-MADR McSHORT-TWIG-MADR McLAUKAZ LAGU LOGR LcDOTTED-LcINGWAZcINGcDAGAZ DAEG D",
  "cOTHALAN ETHEL OcEARcIORcCWEORTHcCALCcCEALCcSTANcLONG-BRANCH-YRcSHORT-TWIG-YRcICELANDIC-YRcQcX",
  "bSINGLE PUNCTUATIONbMULTIPLE PUNCTUATIONbCROSS PUNCTUATIONbARLAUG;bTVIMADUR;bBELGTHOR;bm KcSH",
  "cOOcFRANKS CASKET OSeISeEHeACeAESC@1700aTAGALOGm AcIcUcKAcGAcNGAcTAcDAcNAcPAcBAcMAcYAcRAcLAcWA",
  "cSAcHAbVOWELs IdUbs VIRAMAcPAMUDPOD@171Fbm ARCHAIC RAaHANUNOOm AcIcUcKAcGAcNGAcTAcDAcNAcPAcBA",
  "cMAcYAcRAcLAcWAcSAcHAbVOWELs IdUbs PAMUDPODaPHILIPPINE SINGLE PUNCTUATIONbv PUNCTUATION",
  "@1740aBUHIDm AcIcUcKAcGAcNGAcTAcDAcNAcPAcBAcMAcYAcRAcLAcWAcSAcHAbVOWELs IdU@1760aTAGBANWAm AcI",
  "cUcKAcGAcNGAcTAcDAcNAcPAcBAcMAcYA@176EcLAcWAcSA@1772bVOWELs IdU@1780aKHMERm KAcKHAcKOcKHOcNGO",
  "cCAcCHAcCOcCHOcNYOcDAcTTHAcDOcTTHOcNNOcTAcTHAcTOcTHOcNOcBAcPHAcPOcPHOcMOcYOcROcLOcVOcSHAcSSO",
  "cSAcHAcLAcQAbINDEPENDENT VOWEL QAQdQAAdQIdQIIdQUdQUKdQUUdQUUVdRYdRYYdLYdLYYdQEdQAIdQOO TYPE|f^",
  "dQAUbVOWEL INHERENT AQdAAcs AAdIdIIdYdYYdUdUUdUAdOEdYAdIEdEdAEdAIdOOdAUbs NIKAHITcREAHMUK",
  "cYUUKALEAPINTUcMUUSIKATOANcTRIISAPcBANTOCcROBATcTOANDAKHIATcKAKABATcAHSDAcSAMYOK SANNYAcVIRIAM",
  "cCOENGcBATHAMASATcKHANcBARIYOOSANcCAMNUC PII KUUHcLEK TOOcBEYYALcPHNAEK MUANcKOOMUUT",
  "bCURRENCY; RIELbs AVAKRAHASANYAcATTHACAN@17E0bDIGIT ZEROc|c^c&cFOURcFIVEcSIXcSEVENcEIGHTcNINE",
  "@17F0b; LEK ATTAK SONeMUOYePIIeBEIeBUONePRAMf-MUOYf-PIIf-BEIf-BUON@1800aMONGOLIAN BIRGA",
  "bELLIPSISbCOMMAbFULL STOPbCOLONbFOUR DOTSbTODO SOFT HYPHENbSIBE SYLLABLE BOUNDARY MARKER",
  "bMANCHU COMMAcFULL STOPbNIRUGUbFREE VARIATION SELECTOR|e^e&bVOWEL SEPARATOR",
  "bFREE VARIATION SELECTOR FOURbDIGIT ZEROc|c^c&cFOURcFIVEcSIXcSEVENcEIGHTcNINE@1820bm AcEcIcOcU",
  "cOEcUEcEEcNAcANGcBAcPAcQAcGAcMAcLAcSAcSHAcTAcDAcCHAcJAcYAcRAcWAcFAcKAcKHAcTSAcZAcHAAcZRAcLHA",
  "cZHIcCHIcTODO LONG VOWELsdEdIdOdUdOEdUEdANGdBAdPAdQAdGAdMAdTAdDAdCHAdJAdTSAdYAdWAdKAdGAAdHAA",
  "dJIAdNIAdDZAcSIBE EdIdIYdUEdUdANGdKAdGAdHAdPAdSHAdTAdDAdJAdFAdGAAdHAAdTSAdZAdRAAdCHAdZHA",
  "cMANCHU IdKAdRAdFAdZHAcCHAn^ DOTS@1880cALI GALI ANUSVARA|eVISARGA|eDAMARUeUBADAMA",
  "eINVERTED UBADAMAeBALUDAe& BALUDAeAeIeKAeNGAeCAeTTAeTTHAeDDAeNNAeTAeDAePAePHAeSSAeZHAeZAeAH",
  "cTODO ALI GALI TAfZHAcMANCHU ALI GALI GHAfNGAfCAfJHAfTTAfDDHAfTAfDHAfSSAfCYAfZHAfZA",
  "cALI GALI HALF UfYAcMANCHU ALI GALI BHAcALI GALI DAGALGAcMANCHU ALI GALI LHA",
  "@18B0aCANADIAN SYLLABICS OYcAYcAAYcWAYcPOYcPAYcPWOYcTAYcKAYcKWAYcMAYcNOYcNAYcLAYcSOYcSAYcSHOY",
  "cSHAYcSHWOYcYOYcYAYcRAYcNWIcOJIBWAY NWIcNWIIcOJIBWAY NWIIcNWOcOJIBWAY NWOcNWOOcOJIBWAY NWOO",
  "cRWEEcRWIcRWIIcRWOcRWOOcRWAcOJIBWAY PdTdKdCdMdNdSdSHcEASTERN WcWESTERN Wc$p RINGdRAISED DOT",
  "cR-CREE RWEcWEST-CREE LOOeLAAcTHWEcTHWAcTTHWEcTTHOOcTTHAAcTLHWEcTLHOOcSAYISI SHWEdSHOOdHOO",
  "cCARRIER GWUdDENE GEEdGAAdGWAcSAYISI JUUcCARRIER JWAcBEAVER DENE LeRcCARRIER DENTAL S",
  "@1900aLIMBU VOWEL-CARRIERmbm KAcKHAcGAcGHAcNGAcCAcCHAcJAcJHAcYANcTAcTHAcDAcDHAcNAcPAcPHAcBA",
  "cBHAcMAcYAcRAcLAcWAcSHAcSSAcSAcHAcGYANcTRA@1920bVOWELs AdIdUdEEdAIdOOdAUdEdObSUBJOINEDm YAdRA",
  "dWA@1930bpm KAdNGAdANUSVARAdTAdNAdPAdMAdRAdLAbs MUKPHRENGcKEMPHRENGcSA-I@1940cLOO",
  "@1944bEXCLAMATION>bQUESTION>bDIGIT ZEROc|c^c&cFOURcFIVEcSIXcSEVENcEIGHTcNINEaTAI LEm KAdXAdNGA",
  "dTSAdSAdYAdTAdTHAdLAdPAdPHAdMAdFAdVAdHAdQAdKHAdTSHAdNAdAdIdEEdEHdUdOOdOdUEdEdAUEdAI",
  "@1970dTONE-2e-3e-4e-5e-6@1980aNEW TAI LUEm HIGH QAeLOW QAeHIGH KAfXAfNGAeLOW KAfXAfNGA",
  "eHIGH TSAfSAfYAeLOW TSAfSAfYAeHIGH TAfTHAfNAeLOW TAfTHAfNAeHIGH PAfPHAfMAeLOW PAfPHAfMA",
  "eHIGH FAfVAfLAeLOW FAfVAfLAeHIGH HAfDAfBAeLOW HAfDAfBAeHIGH KVAfXVAeLOW KVAfXVAeHIGH SUA",
  "eLOW SUA@19B0dVOWELs VOWEL SHORTENERfAAfIIfUfUUfEfAEfOfOAfUEfAYfAAYfUYfOYfOAYfUEYfIYdm$ VfNGfN",
  "fMfKfDfBdTONE>-1f-2@19D0dDIGIT ZEROe|e^e&eFOUReFIVEeSIXeSEVENeEIGHTeNINEdTHAM DIGIT|",
  "@19DEds LAEeLAEVaKHMER; PATHAMASATcMUOY KOETcPII KOETcBEI KOETcBUON KOETcPRAM KOETd-MUOY KOET",
  "d-PII KOETd-BEI KOETd-BUON KOETcDAP KOETd-MUOY KOETd-PII KOETd-BEI KOETd-BUON KOETd-PRAM KOET",
  "cTUTEYASATcMUOY ROCcPII ROCcBEI ROCcBUON ROCcPRAM ROCd-MUOY ROCd-PII ROCd-BEI ROCd-BUON ROC",
  "cDAP ROCd-MUOY ROCd-PII ROCd-BEI ROCd-BUON ROCd-PRAM ROCaBUGINESEm KAcGAcNGAcNGKAcPAcBAcMAcMPA",
  "cTAcDAcNAcNRAcCAcJAcNYAcNYCAcYAcRAcLAcVAcSAcAcHAbVOWELs IdUdEdOdAE@1A1EbPALLAWAbEND OF SECTION",
  "aTAI THAMm HIGH KAeKHAeKXAdLOW KAeKXAeKHAdNGAdHIGH CAeCHAdLOW CAeSAeCHAdNYAdRATAdHIGH RATHAdDA",
  "dLOW RATHAdRANAdHIGH TAeTHAdLOW TAeTHAdNAdBAdHIGH PAePHAeFAdLOW PAeFAePHAdMAdLOW YAdHIGH YAdRA",
  "dRUEdLAdLUEdWAdHIGH SHAeSSAeSAeHAdLLAdAdLOW HAdIdIIdUdUUdEEdOOdLAEdGREAT SA",
  "cCONSONANTs MEDIAL RAfLAeLA TANG LAIcs MAI KANG LAIcCONSONANTs$ NGAeLOW PA",
  "eHIGH RATHA OR LOW PAeMAeBAeSA@1A60cs SAKOTcVOWELs AeMAI SATeAAeTALL AAeIeIIeUEeUUEeUeUUeOeOA!",
  "eOYeEeAEeOOeAIeTHAM AIeOAucs MAI KANGdTONE-1e-2dKHUEN TONE-3f-4f-5dRA HAAMdMAI SAM",
  "dKHUEN-LUE KARAN@1A7FcCOMBINING CRYPTOGRAMMIC DOTcHORA DIGIT ZEROe|e^e&eFOUReFIVEeSIXeSEVEN",
  "eEIGHTeNINE@1A90cTHAM DIGIT ZEROe|e^e&eFOUReFIVEeSIXeSEVENeEIGHTeNINE@1AA0cs WIANGdWIANGWAAK",
  "dSAWANdKEOWdHOYdDOKMAIdREVERSED ROTATED RANAdMAI YAMOKdKAANdKAANKUUdSATKAANdSATKAANKUUdHANG",
  "dCAANG@1AB0aCOMBINING DOUBLED CIRCUMFLEX ACCENTbDIAERESIS-RINGbINFINITYbDOWNWARDSrbTRIPLE DOT",
  "bX-X!bWIGGLY LINE!bOPEN>!bv OPEN>!bLIGHT CENTRALIZATION.!bSTRONG CENTRALIZATION.!bPARENTHESESu",
  "bv PARENTHESESubPARENTHESES!cOVERLAYbLATINpm W!eTURNED W!bx PARENTHESISuxbt PARENTHESISut",
  "bx PARENTHESIS!xbt PARENTHESIS!tbSQUARE BRACKETSubNUMBERsubINVERTEDv ARCHubPLUSsubv PLUSsue!",
  "bTRIPLE ACUTE ACCENTbLATINpm INSULAR GfRfT@1B00aBALINESEs ULU RICEMdCANDRAcCECEKcSURANGcBISAH",
  "bm AKARAdTEDUNGcIKARAdTEDUNGcUKARAdTEDUNGcRA REPAeTEDUNGcLA LENGAeTEDUNGcEKARAcAIKARAcOKARA",
  "dTEDUNGcKAdMAHAPRANAcGAdGORAcNGAcCAdLACAcJAdJERAcNYAcTA LATIKdMURDA MAHAPRANA",
  "cDA MURDA ALPAPRANAeMAHAPRANAcNA RAMBATcTAdTAWAcDAdMADUcNAcPAdKAPALcBAdKEMBANGcMAcYAcRAcLAcWA",
  "cSA SAGAdSAPAdcHAbs REREKANbVOWELs TEDUNGdULUeSARIdSUKUeILUTdRA REPAfTEDUNGdLA LENGAfTEDUNG",
  "dTALINGeREPAeTEDUNGeREPA TEDUNGdPEPETeTEDUNGbADEG ADEGbm KAF SASAKcKHOT SASAKcTZIR SASAK",
  "cEF SASAKcVE SASAKcZAL SASAKcASYURA SASAKcARCHAIC JNYA@1B50bDIGIT ZEROc|c^c&cFOURcFIVEcSIX",
  "cSEVENcEIGHTcNINEbPANTIbPAMADAbWINDUbCARIK PAMUNGKAHcSIKIcPARERENbPAMENENGbMUSICAL; DONGdDENG",
  "dDUNGdDANGeSURANGdDINGdDAENGdDEUNGdDAINGdDANG GEDEdCOMBINING TEGEHeENDEPeKEMPULeKEMPLIeJEGOGAN",
  "eKEMPULn JEGOGANeKEMPLIn JEGOGANeBENDEeGONGdt-HAND OPEN DUGgDAGfCLOSED TUKgTAK",
  "dx-HAND OPEN PANGgPUNGfCLOSED PLAKgPLUKfOPEN PINGbPANTI LANTANGbPAMADA LANTANG",
  "@1B80aSUNDANESEs PANYECEKcPANGLAYARcPANGWISADbm AcIcUcAEcOcEcEUcKAcQAcGAcNGAcCAcJAcZAcNYAcTA",
  "cDAcNAcPAcFAcVAcBAcMAcYAcRAcLAcWAcSAcXAcHAbCONSONANTs PAMINGKALdPANYAKRAdPANYIKU",
  "bVOWELs PANGHULUdPANYUKUdPANAELAENGdPANOLONGdPAMEPETdPANEULEUNGbs PAMAAEHcVIRAMA",
  "bCONSONANTs PASANGAN MAeWAbm KHAcSYAbDIGIT ZEROc|c^c&cFOURcFIVEcSIXcSEVENcEIGHTcNINEbAVAGRAHA",
  "bm REUcLEUcBHAc$ KdMaBATAKm AcSIMALUNGUN AcHAcSIMALUNGUN HAcMANDAILING HAcBAcKARO BAcPA",
  "cSIMALUNGUN PAcNAcMANDAILING NAcWAcSIMALUNGUN WAcPAKPAK WAcGAcSIMALUNGUN GAcJAcDAcRA",
  "cSIMALUNGUN RAcMAcSIMALUNGUN MAcSOUTHERN TAcNORTHERN TAcSAcSIMALUNGUN SAcMANDAILING SAcYA",
  "cSIMALUNGUN YAcNGAcLAcSIMALUNGUN LAcNYAcCAcNDAcMBAcIcUbs TOMPIbVOWELs EdPAKPAK EdEEdIdKARO IdO",
  "dKARO OdUeFOR SIMALUNGUN SAbCONSONANTs NGdHbPANGOLATbPANONGONAN@1BFCb; BINDU NA METEK",
  "dPINARBORASdJUDULdPANGOLATaLEPCHAm KAcKLAcKHAcGAcGLAcNGAcCAcCHAcJAcNYAcTAcTHAcDAcNAcPAcPLAcPHA",
  "cFAcFLAcBAcBLAcMAcMLAcTSAcTSHAcDZAcYAcRAcLAcHAcHLAcVAcSAcSHAcWAcAbSUBJOINEDm YAdRAbVOWELs AAdI",
  "dOdOOdUdUUdEbCONSONANTs KdMdLdNdPdRdTdNYIN-DOdKANGbs RANcNUKTA@1C3BbPUNCTUATION TA-ROL",
  "cNYET THYOOM TA-ROLcCER-WAcTSHOOK CER-WAdbDIGIT ZEROc|c^c&cFOURcFIVEcSIXcSEVENcEIGHTcNINE",
  "@1C4Dbm TTAcTTHAcDDAaOL CHIKI DIGIT ZEROd|d^d&dFOURdFIVEdSIXdSEVENdEIGHTdNINEcm LAdATdAGdANG",
  "dALdLAAdAAKdAAJdAAMdAAWdLIdISdIHdINYdIRdLUdUCdUDdUNNdUYdLEdEPdEDDdENdERRdLOdOTTdOBdOVdOH",
  "cMU TTUDDAGcGAAHLAA TTUDDAAGcMU-GAAHLAA TTUDDAAGcRELAAcPHAARKAAcAHADcPUNCTUATION MUCAAD",
  "dv MUCAADaCYRILLICpm ROUNDED VEdLONG-LEGGED DEdNARROW OdWIDE ESdTALL TEd&-LEGGED TEdTALL HARDs",
  "eYATdUNBLENDED UK@1C90aGEORGIAN MTAVRULIom ANeBANeGANeDONeENeVINeZENeTANeINeKANeLASeMANeNAReON",
  "ePAReZHAReRAEeSANeTAReUNePHAReKHAReGHANeQAReSHINeCHINeCANeJILeCILeCHAReXANeJHANeHAEeHEeHIEeWE",
  "eHAReHOEeFIeYNeELIFIeTURNED GANeAIN@1CBDeAENeHARDseLABIALsaSUNDANESE PUNCTUATION BINDU SURYA",
  "dPANGLONGdPURNAMAdCAKRAdLEU SATANGAdKA SATANGAdDA SATANGAdBA SATANGA@1CD0aVEDIC TONE KARSHANA",
  "cSHARAcPRENKHAbs NIHSHVASAcYAJURVEDIC MIDLINE SVARITA",
  "bTONE YAJURVEDIC AGGRAVATED INDEPENDENT SVARITAdINDEPENDENT SVARITA",
  "dKATHAKA INDEPENDENT SVARITAcCANDRA!cYAJURVEDIC KATHAKA INDEPENDENT SVARITA SCHROEDER",
  "cv SVARITAcTRIPLE SVARITAcKATHAKA ANUDATTAcDOT!c^ DOTS!c& DOTS!",
  "cRIGVEDIC KASHMIRI INDEPENDENT SVARITAcATHARVAVEDIC INDEPENDENT SVARITAbs VISARGA SVARITA",
  "dUDATTAcREVERSED VISARGA UDATTAcVISARGA ANUDATTAcREVERSED VISARGA ANUDATTA",
  "cVISARGA UDATTAn TAILdANUDATTAn TAILcANUSVARA ANTARGOMUKHAdBAHIRGOMUKHAdVAMAGOMUKHAen TAIL",
  "cTIRYAKcHEXIFORM LONG ANUSVARAcLONG ANUSVARAcRTHANG LONG ANUSVARAcANUSVARA UBHAYATO MUKHA",
  "cARDHAVISARGAcROTATED ARDHAVISARGAbTONE CANDRAubs JIHVAMULIYAcUPADHMANIYAcATIKRAMAbTONE RINGu",
  "cv RINGubsv ANUSVARA ANTARGOMUKHA@1D00aLATINmpo AeAEbpm TURNED AEbmpo BARRED BeCeDeETHeE",
  "bpm TURNED OPEN EeIbmpo JeKeLn.eMeREVERSED NeOeOPEN Obpm SIDEWAYS OeOPEN OeOn.dTURNED OE",
  "bmpo OUbpm TOP HALF OdBOTTOM HALF Obmpo PeREVERSED ReTURNED ReTeUbpm SIDEWAYS UeDIAERESIZED U",
  "eTURNED Mbmpo VeWeZeEZHcVOICED LARYNGEAL SPIRANTcAINaGREEKmpo GAMMAeLAMDAePIeRHOePSI",
  "aCYRILLICmpo ELaMODIFIERmo AdAEdBdBARRED BdDdEdREVERSED EdGdHdIdJdKdLdMdNdREVERSED NdOdOUdPdR",
  "dTdUdWcp AdTURNED AdALPHAdTURNED AEdBdDdEdSCHWAdOPEN EdTURNED OPEN EdGdTURNED IdKdMdENGdO",
  "dOPEN OdTOP HALF OdBOTTOM HALF OdPdTdUdSIDEWAYS UdTURNED MdVdAINdBETAdGREEK GAMMAdDELTA",
  "dGREEK PHIdCHIaLATIN SUBSCRIPTpm IeReUeVaGREEK SUBSCRIPTpm BETAeGAMMAeRHOePHIeCHIaLATINpm UE",
  "dBn] TILDEdDn] TILDEdFn] TILDEdMn] TILDEdNn] TILDEdPn] TILDEdRn] TILDEfFISHHOOKz] TILDE",
  "dSn] TILDEdTn] TILDEdZn] TILDEdTURNED GaMODIFIERm CYRILLIC ENaLATINpm INSULAR G",
  "dTHn STRIKETHROUGHcom In.cm IOTAn.dPn.com Un.cm UPSILONn.dBn PALATAL HOOKdDn PALATAL HOOK",
  "dFn PALATAL HOOKdGn PALATAL HOOKdKn PALATAL HOOKdLn PALATAL HOOKdMn PALATAL HOOK",
  "dNn PALATAL HOOKdPn PALATAL HOOKdRn PALATAL HOOKdSn PALATAL HOOKdESHn PALATAL HOOK",
  "dVn PALATAL HOOKdXn PALATAL HOOKdZn PALATAL HOOKdAn RETROFLEX HOOKdALPHAn RETROFLEX HOOK",
  "dDn HOOKz TAILdEn RETROFLEX HOOKdOPEN En RETROFLEX HOOKdREVERSED OPEN En RETROFLEX HOOK",
  "dSCHWAn RETROFLEX HOOKdIn RETROFLEX HOOKdOPEN On RETROFLEX HOOKdESHn RETROFLEX HOOK",
  "dUn RETROFLEX HOOKdEZHn RETROFLEX HOOKaMODIFIERmp TURNED ALPHAdCen CURLdETHdREVERSED OPEN EdF",
  "dDOTLESS Jn.dSCRIPT GdTURNED HdIn.dIOTAdo Ifn.dJn CROSSED-TAILdLn RETROFLEX HOOKfPALATAL HOOK",
  "do LdMn HOOKdTURNED Mn LONG LEGdNnx HOOKfRETROFLEX HOOKdo NdBARRED OdPHIdSn HOOKdESH",
  "dTn PALATAL HOOKdU BARdUPSILONdo UdVn HOOKdTURNED VdZen RETROFLEX HOOKfCURLdEZHdTHETA",
  "aCOMBINING DOTTED GRAVE ACCENTcACUTE ACCENTbSNAKE!bSUSPENSION>bMACRON-ACUTEbGRAVE-MACRON",
  "bMACRON-GRAVEbACUTE-MACRONbGRAVE-ACUTE-GRAVEbACUTE-GRAVE-ACUTEbLATINpm R!bBREVE-MACRON",
  "bMACRON-BREVEbv CIRCUMFLEXubOGONEKubZIGZAG!bIS!bURubUSubLATINpm FLATTENED OPEN AueAEeAOeAV",
  "eC CEDILLAeINSULAR DeETHeGcmpo Gcpm KeLcmpo LfMcpm Ncmpo NfRcpm R ROTUNDAeSeLONG SeZeALPHAeB",
  "eBETAeSCHWAeFeLnv] TILDEeOn LIGHT CENTRALIZATION.ePeESHeUn LIGHT CENTRALIZATION.eW",
  "eAn DIAERESISeOn DIAERESISeUn DIAERESISbUP TACKubKAVYKAutdxbDOTuxbWIDE INVERTED BRIDGE!bDOT!x",
  "bDELETION>bv INVERTED BREVE!bALMOST EQUAL TO!bx ARROWHEADubt ARROWHEADz DOWN ARROWHEAD!",
  "aLATINom An RING!bpm An RING!bom Bn DOTubpm Bn DOTubom Bn DOT!bpm Bn DOT!bom Bn LINE!",
  "bpm Bn LINE!bom Cn CEDILLAz ACUTEbpm Cn CEDILLAz ACUTEbom Dn DOTubpm Dn DOTubom Dn DOT!",
  "bpm Dn DOT!bom Dn LINE!bpm Dn LINE!bom Dn CEDILLAbpm Dn CEDILLAbom Dn CIRCUMFLEX!",
  "bpm Dn CIRCUMFLEX!bom En MACRONz GRAVEbpm En MACRONz GRAVEbom En MACRONz ACUTE",
  "bpm En MACRONz ACUTEbom En CIRCUMFLEX!bpm En CIRCUMFLEX!bom En TILDE!bpm En TILDE!",
  "bom En CEDILLAz BREVEbpm En CEDILLAz BREVEbom Fn DOTubpm Fn DOTubom Gn MACRONbpm Gn MACRON",
  "bom Hn DOTubpm Hn DOTubom Hn DOT!bpm Hn DOT!bom Hn DIAERESISbpm Hn DIAERESISbom Hn CEDILLA",
  "bpm Hn CEDILLAbom Hn BREVE!bpm Hn BREVE!bom In TILDE!bpm In TILDE!bom In DIAERESISz ACUTE",
  "bpm In DIAERESISz ACUTEbom Kn ACUTEbpm Kn ACUTEbom Kn DOT!bpm Kn DOT!bom Kn LINE!bpm Kn LINE!",
  "bom Ln DOT!bpm Ln DOT!bom Ln DOT!z MACRONbpm Ln DOT!z MACRONbom Ln LINE!bpm Ln LINE!",
  "bom Ln CIRCUMFLEX!bpm Ln CIRCUMFLEX!bom Mn ACUTEbpm Mn ACUTEbom Mn DOTubpm Mn DOTubom Mn DOT!",
  "bpm Mn DOT!bom Nn DOTubpm Nn DOTubom Nn DOT!bpm Nn DOT!bom Nn LINE!bpm Nn LINE!",
  "bom Nn CIRCUMFLEX!bpm Nn CIRCUMFLEX!bom On TILDEz ACUTEbpm On TILDEz ACUTE",
  "bom On TILDEz DIAERESISbpm On TILDEz DIAERESISbom On MACRONz GRAVEbpm On MACRONz GRAVE",
  "bom On MACRONz ACUTEbpm On MACRONz ACUTEbom Pn ACUTEbpm Pn ACUTEbom Pn DOTubpm Pn DOTu",
  "bom Rn DOTubpm Rn DOTubom Rn DOT!bpm Rn DOT!bom Rn DOT!z MACRONbpm Rn DOT!z MACRONbom Rn LINE!",
  "bpm Rn LINE!bom Sn DOTubpm Sn DOTubom Sn DOT!bpm Sn DOT!bom Sn ACUTEz DOTubpm Sn ACUTEz DOTu",
  "bom Sn CARONz DOTubpm Sn CARONz DOTubom Sn DOT!z DOTubpm Sn DOT!z DOTubom Tn DOTubpm Tn DOTu",
  "bom Tn DOT!bpm Tn DOT!bom Tn LINE!bpm Tn LINE!bom Tn CIRCUMFLEX!bpm Tn CIRCUMFLEX!",
  "bom Un DIAERESIS!bpm Un DIAERESIS!bom Un TILDE!bpm Un TILDE!bom Un CIRCUMFLEX!",
  "bpm Un CIRCUMFLEX!bom Un TILDEz ACUTEbpm Un TILDEz ACUTEbom Un MACRONz DIAERESIS",
  "bpm Un MACRONz DIAERESISbom Vn TILDEbpm Vn TILDEbom Vn DOT!bpm Vn DOT!bom Wn GRAVEbpm Wn GRAVE",
  "bom Wn ACUTEbpm Wn ACUTEbom Wn DIAERESISbpm Wn DIAERESISbom Wn DOTubpm Wn DOTubom Wn DOT!",
  "bpm Wn DOT!bom Xn DOTubpm Xn DOTubom Xn DIAERESISbpm Xn DIAERESISbom Yn DOTubpm Yn DOTu",
  "bom Zn CIRCUMFLEXbpm Zn CIRCUMFLEXbom Zn DOT!bpm Zn DOT!bom Zn LINE!bpm Zn LINE!dHn LINE!",
  "dTn DIAERESISdWn RINGudYn RINGudAnt HALF RINGdLONG Sn DOTugDIAGONAL.gHIGH.bom SHARP Sbpm DELTA",
  "bom An DOT!bpm An DOT!bom An HOOKubpm An HOOKubom An CIRCUMFLEXz ACUTEbpm An CIRCUMFLEXz ACUTE",
  "bom An CIRCUMFLEXz GRAVEbpm An CIRCUMFLEXz GRAVEbom An CIRCUMFLEXz HOOKu",
  "bpm An CIRCUMFLEXz HOOKubom An CIRCUMFLEXz TILDEbpm An CIRCUMFLEXz TILDE",
  "bom An CIRCUMFLEXz DOT!bpm An CIRCUMFLEXz DOT!bom An BREVEz ACUTEbpm An BREVEz ACUTE",
  "bom An BREVEz GRAVEbpm An BREVEz GRAVEbom An BREVEz HOOKubpm An BREVEz HOOKu",
  "bom An BREVEz TILDEbpm An BREVEz TILDEbom An BREVEz DOT!bpm An BREVEz DOT!bom En DOT!",
  "bpm En DOT!bom En HOOKubpm En HOOKubom En TILDEbpm En TILDEbom En CIRCUMFLEXz ACUTE",
  "bpm En CIRCUMFLEXz ACUTEbom En CIRCUMFLEXz GRAVEbpm En CIRCUMFLEXz GRAVE",
  "bom En CIRCUMFLEXz HOOKubpm En CIRCUMFLEXz HOOKubom En CIRCUMFLEXz TILDE",
  "bpm En CIRCUMFLEXz TILDEbom En CIRCUMFLEXz DOT!bpm En CIRCUMFLEXz DOT!bom In HOOKubpm In HOOKu",
  "bom In DOT!bpm In DOT!bom On DOT!bpm On DOT!bom On HOOKubpm On HOOKubom On CIRCUMFLEXz ACUTE",
  "bpm On CIRCUMFLEXz ACUTEbom On CIRCUMFLEXz GRAVEbpm On CIRCUMFLEXz GRAVE",
  "bom On CIRCUMFLEXz HOOKubpm On CIRCUMFLEXz HOOKubom On CIRCUMFLEXz TILDE",
  "bpm On CIRCUMFLEXz TILDEbom On CIRCUMFLEXz DOT!bpm On CIRCUMFLEXz DOT!bom On HORNz ACUTE",
  "bpm On HORNz ACUTEbom On HORNz GRAVEbpm On HORNz GRAVEbom On HORNz HOOKubpm On HORNz HOOKu",
  "bom On HORNz TILDEbpm On HORNz TILDEbom On HORNz DOT!bpm On HORNz DOT!bom Un DOT!bpm Un DOT!",
  "bom Un HOOKubpm Un HOOKubom Un HORNz ACUTEbpm Un HORNz ACUTEbom Un HORNz GRAVE",
  "bpm Un HORNz GRAVEbom Un HORNz HOOKubpm Un HORNz HOOKubom Un HORNz TILDEbpm Un HORNz TILDE",
  "bom Un HORNz DOT!bpm Un HORNz DOT!bom Yn GRAVEbpm Yn GRAVEbom Yn DOT!bpm Yn DOT!bom Yn HOOKu",
  "bpm Yn HOOKubom Yn TILDEbpm Yn TILDEbom]-WELSH LLbpm]-WELSH LLbom]-WELSH Vbpm]-WELSH V",
  "bom Yn LOOPbpm Yn LOOPaGREEKpm ALPHAn PSILIfDASIAfPSILIz VARIAfDASIAz VARIAfPSILIz OXIA",
  "fDASIAz OXIAfPSILIz PERISPOMENIfDASIAz PERISPOMENIbom ALPHAn PSILIfDASIAfPSILIz VARIA",
  "fDASIAz VARIAfPSILIz OXIAfDASIAz OXIAfPSILIz PERISPOMENIfDASIAz PERISPOMENIbpm EPSILONn PSILI",
  "fDASIAfPSILIz VARIAfDASIAz VARIAfPSILIz OXIAfDASIAz OXIA@1F18bom EPSILONn PSILIfDASIA",
  "fPSILIz VARIAfDASIAz VARIAfPSILIz OXIAfDASIAz OXIA@1F20bpm ETAn PSILIfDASIAfPSILIz VARIA",
  "fDASIAz VARIAfPSILIz OXIAfDASIAz OXIAfPSILIz PERISPOMENIfDASIAz PERISPOMENIbom ETAn PSILI",
  "fDASIAfPSILIz VARIAfDASIAz VARIAfPSILIz OXIAfDASIAz OXIAfPSILIz PERISPOMENIfDASIAz PERISPOMENI",
  "bpm IOTAn PSILIfDASIAfPSILIz VARIAfDASIAz VARIAfPSILIz OXIAfDASIAz OXIAfPSILIz PERISPOMENI",
  "fDASIAz PERISPOMENIbom IOTAn PSILIfDASIAfPSILIz VARIAfDASIAz VARIAfPSILIz OXIAfDASIAz OXIA",
  "fPSILIz PERISPOMENIfDASIAz PERISPOMENIbpm OMICRONn PSILIfDASIAfPSILIz VARIAfDASIAz VARIA",
  "fPSILIz OXIAfDASIAz OXIA@1F48bom OMICRONn PSILIfDASIAfPSILIz VARIAfDASIAz VARIAfPSILIz OXIA",
  "fDASIAz OXIA@1F50bpm UPSILONn PSILIfDASIAfPSILIz VARIAfDASIAz VARIAfPSILIz OXIAfDASIAz OXIA",
  "fPSILIz PERISPOMENIfDASIAz PERISPOMENI@1F59bom UPSILONn DASIA@1F5Bgz VARIA@1F5DhOXIA",
  "@1F5FhPERISPOMENIbpm OMEGAn PSILIfDASIAfPSILIz VARIAfDASIAz VARIAfPSILIz OXIAfDASIAz OXIA",
  "fPSILIz PERISPOMENIfDASIAz PERISPOMENIbom OMEGAn PSILIfDASIAfPSILIz VARIAfDASIAz VARIA",
  "fPSILIz OXIAfDASIAz OXIAfPSILIz PERISPOMENIfDASIAz PERISPOMENIbpm ALPHAn VARIAfOXIA",
  "dEPSILONn VARIAfOXIAdETAn VARIAfOXIAdIOTAn VARIAfOXIAdOMICRONn VARIAfOXIAdUPSILONn VARIAfOXIA",
  "dOMEGAn VARIAfOXIA@1F80dALPHAn PSILIz YPOGEGRAMMENIfDASIAz YPOGEGRAMMENI",
  "fPSILIz VARIAz YPOGEGRAMMENIfDASIAz VARIAz YPOGEGRAMMENIfPSILIz OXIAz YPOGEGRAMMENI",
  "fDASIAz OXIAz YPOGEGRAMMENIfPSILIz PERISPOMENIz YPOGEGRAMMENI",
  "fDASIAz PERISPOMENIz YPOGEGRAMMENIbom ALPHAn PSILIz PROSGEGRAMMENIfDASIAz PROSGEGRAMMENI",
  "fPSILIz VARIAz PROSGEGRAMMENIfDASIAz VARIAz PROSGEGRAMMENIfPSILIz OXIAz PROSGEGRAMMENI",
  "fDASIAz OXIAz PROSGEGRAMMENIfPSILIz PERISPOMENIz PROSGEGRAMMENI",
  "fDASIAz PERISPOMENIz PROSGEGRAMMENIbpm ETAn PSILIz YPOGEGRAMMENIfDASIAz YPOGEGRAMMENI",
  "fPSILIz VARIAz YPOGEGRAMMENIfDASIAz VARIAz YPOGEGRAMMENIfPSILIz OXIAz YPOGEGRAMMENI",
  "fDASIAz OXIAz YPOGEGRAMMENIfPSILIz PERISPOMENIz YPOGEGRAMMENI",
  "fDASIAz PERISPOMENIz YPOGEGRAMMENIbom ETAn PSILIz PROSGEGRAMMENIfDASIAz PROSGEGRAMMENI",
  "fPSILIz VARIAz PROSGEGRAMMENIfDASIAz VARIAz PROSGEGRAMMENIfPSILIz OXIAz PROSGEGRAMMENI",
  "fDASIAz OXIAz PROSGEGRAMMENIfPSILIz PERISPOMENIz PROSGEGRAMMENI",
  "fDASIAz PERISPOMENIz PROSGEGRAMMENIbpm OMEGAn PSILIz YPOGEGRAMMENIfDASIAz YPOGEGRAMMENI",
  "fPSILIz VARIAz YPOGEGRAMMENIfDASIAz VARIAz YPOGEGRAMMENIfPSILIz OXIAz YPOGEGRAMMENI",
  "fDASIAz OXIAz YPOGEGRAMMENIfPSILIz PERISPOMENIz YPOGEGRAMMENI",
  "fDASIAz PERISPOMENIz YPOGEGRAMMENIbom OMEGAn PSILIz PROSGEGRAMMENIfDASIAz PROSGEGRAMMENI",
  "fPSILIz VARIAz PROSGEGRAMMENIfDASIAz VARIAz PROSGEGRAMMENIfPSILIz OXIAz PROSGEGRAMMENI",
  "fDASIAz OXIAz PROSGEGRAMMENIfPSILIz PERISPOMENIz PROSGEGRAMMENI",
  "fDASIAz PERISPOMENIz PROSGEGRAMMENIbpm ALPHAn VRACHYfMACRONfVARIAz YPOGEGRAMMENIfYPOGEGRAMMENI",
  "fOXIAz YPOGEGRAMMENI@1FB6fPERISPOMENIgz YPOGEGRAMMENIbom ALPHAn VRACHYfMACRONfVARIAfOXIA",
  "fPROSGEGRAMMENIbKORONISbPROSGEGRAMMENIbPSILIbPERISPOMENIbDIALYTIKAz PERISPOMENI",
  "bpm ETAn VARIAz YPOGEGRAMMENIfYPOGEGRAMMENIfOXIAz YPOGEGRAMMENI@1FC6fPERISPOMENI",
  "gz YPOGEGRAMMENIbom EPSILONn VARIAfOXIAdETAn VARIAfOXIAfPROSGEGRAMMENIbPSILIz VARIAdOXIA",
  "dPERISPOMENIbpm IOTAn VRACHYfMACRONfDIALYTIKAz VARIAhOXIA@1FD6fPERISPOMENI",
  "fDIALYTIKAz PERISPOMENIbom IOTAn VRACHYfMACRONfVARIAfOXIA@1FDDbDASIAz VARIAdOXIAdPERISPOMENI",
  "bpm UPSILONn VRACHYfMACRONfDIALYTIKAz VARIAhOXIAdRHOn PSILIfDASIAdUPSILONn PERISPOMENI",
  "fDIALYTIKAz PERISPOMENIbom UPSILONn VRACHYfMACRONfVARIAfOXIAdRHOn DASIAbDIALYTIKAz VARIAdOXIA",
  "bVARIA@1FF2bpm OMEGAn VARIAz YPOGEGRAMMENIfYPOGEGRAMMENIfOXIAz YPOGEGRAMMENI@1FF6fPERISPOMENI",
  "gz YPOGEGRAMMENIbom OMICRONn VARIAfOXIAdOMEGAn VARIAfOXIAfPROSGEGRAMMENIbOXIAbDASIA"]

end ContentModel.Text.CharName
