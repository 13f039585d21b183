/-!
# Names of ancient letters

The names of the characters from U+10000 to U+1AFFF: the scripts that are no longer in use.
-/

namespace ContentModel.Text.CharName

/-- The table of these names, as `CharName.find?` reads it. -/
def ancient : List String := [
  "@10000aLINEAR B SYLLABLE B008 AdB038 EdB028 IdB061 OdB010 UdB001 DAdB045 DEdB007 DIdB014 DO",
  "dB051 DUdB057 JAdB046 JE@1000DdB036 JOdB065 JUdB077 KAdB044 KEdB067 KIdB070 KOdB081 KUdB080 MA",
  "dB013 MEdB073 MIdB015 MOdB023 MUdB006 NAdB024 NEdB030 NIdB052 NOdB055 NUdB003 PAdB072 PE",
  "dB039 PIdB011 POdB050 PUdB016 QAdB078 QEdB021 QIdB032 QO@10028dB060 RAdB027 REdB053 RIdB002 RO",
  "dB026 RUdB031 SAdB009 SEdB041 SIdB012 SOdB058 SUdB059 TAdB004 TEdB037 TIdB005 TOdB069 TU",
  "dB054 WAdB075 WEdB040 WIdB042 WO@1003CdB017 ZAdB074 ZE@1003FdB020 ZOdB025 A2dB043 A3dB085 AU",
  "dB071 DWEdB090 DWOdB048 NWAdB029 PU2dB062 PTEdB076 RA2dB033 RA3dB068 RO2dB066 TA2dB087 TWE",
  "dB091^@10050c; B018dB019dB022dB034dB047dB049dB056dB063dB064dB079dB082dB083dB086dB089",
  "@10080cIDEOGRAM B100 MANdB102 WOMANdB104 DEERdB105 EQUIDdB105F MAREdB105M STALLIONdB106F EWE",
  "dB106M RAMdB107F SHE-GOATdB107M HE-GOATdB108F SOWdB108M BOARdB109F COWdB109M BULLdB120 WHEAT",
  "dB121 BARLEYdB122 OLIVEdB123 SPICEdB125 CYPERUScMONOGRAM B127 KAPOdB128 KANAKO",
  "cIDEOGRAM B130 OILdB131 WINEdB132cMONOGRAM B133 AREPAdB135 MERIcIDEOGRAM B140 BRONZEdB141 GOLD",
  "dB142dB145 WOOLdB146dB150dB151 HORNdB152dB153dB154cMONOGRAM B156 TURO2cIDEOGRAM B157dB158",
  "dB159 CLOTHdB160dB161dB162 GARMENTdB163 ARMOURdB164dB165dB166dB167dB168dB169dB170dB171dB172",
  "dB173 MONTHdB174dB176 TREEdB177dB178dB179dB180dB181dB182dB183dB184dB185dB189dB190dB191 HELMET",
  "dB220 FOOTSTOOLdB225 BATHTUBdB230 SPEARdB231rdB232dB233 SWORDdB234dB236dB240 WHEELED CHARIOT",
  "dB241 CHARIOTdB242 CHARIOT FRAMEdB243 WHEELdB245dB246cMONOGRAM B247 DIPTEcIDEOGRAM B248dB249",
  "dB251dB252dB253dB254 DARTdB255dB256dB257dB258dB259dVESSEL B155eB200eB201eB202eB203eB204eB205",
  "eB206eB207eB208eB209eB210eB211eB212eB213eB214eB215eB216eB217eB218eB219eB221eB222eB226eB227",
  "eB228eB229eB250eB305@10100aAEGEAN WORD SEPARATOR LINEdDOTbCHECK>@10107bNUMBER|c^c&cFOURcFIVE",
  "cSIXcSEVENcEIGHTcNINEcTENcTWENTYcTHIRTYcFORTYcFIFTYcSIXTYcSEVENTYcEIGHTYcNINETYc|_c^_c&_cFOUR_",
  "cFIVE_cSIX_cSEVEN_cEIGHT_cNINE_c| THOUSANDc^ THOUSANDc& THOUSANDcFOUR THOUSANDcFIVE THOUSAND",
  "cSIX THOUSANDcSEVEN THOUSANDcEIGHT THOUSANDcNINE THOUSANDcTEN THOUSANDcTWENTY THOUSAND",
  "cTHIRTY THOUSANDcFORTY THOUSANDcFIFTY THOUSANDcSIXTY THOUSANDcSEVENTY THOUSANDcEIGHTY THOUSAND",
  "cNINETY THOUSAND@10137bWEIGHT BASE UNITcFIRST SUBUNITcSECOND SUBUNITcTHIRD SUBUNIT",
  "cFOURTH SUBUNITbDRY MEASURE FIRST SUBUNITbLIQUID MEASURE FIRST SUBUNITbMEASURE SECOND SUBUNIT",
  "cTHIRD SUBUNITaGREEK ACROPHONIC ATTIC| QUARTEReHALFeDRACHMAdFIVEdFIFTYdFIVE_eTHOUSAND",
  "dFIFTY THOUSANDdFIVE TALENTSdTEN TALENTSdFIFTY TALENTSd|_ TALENTSdFIVE_ TALENTS",
  "d| THOUSAND TALENTSdFIVE THOUSAND TALENTSeSTATERSdTEN STATERSdFIFTY STATERSd|_ STATERS",
  "dFIVE_ STATERSd| THOUSAND STATERSdTEN THOUSAND STATERSdFIFTY THOUSAND STATERSdTEN MNAS",
  "cHERAEUM| PLETHRONcTHESPIAN|cHERMIONIAN|cEPIDAUREAN^cTHESPIAN^cCYRENAIC^ DRACHMAS",
  "cEPIDAUREAN^ DRACHMAScTROEZENIAN FIVEdTENeALTERNATEqcHERMIONIAN TENcMESSENIAN TENcTHESPIAN TEN",
  "dTHIRTYcTROEZENIAN FIFTYeALTERNATEqcHERMIONIAN FIFTYcTHESPIAN FIFTYd|_d&_cEPIDAUREAN FIVE_",
  "cTROEZENIAN FIVE_cTHESPIAN FIVE_cCARYSTIAN FIVE_cNAXIAN FIVE_cTHESPIAN| THOUSANDdFIVE THOUSAND",
  "cDELPHIC FIVE MNAScSTRATIAN FIFTY MNASb| HALFseALTERNATEqb^ THIRDSsb& QUARTERSsbYEARsbTALENTs",
  "bDRACHMAsbOBOLsb^ OBOLSsb& OBOLSsbFOUR OBOLSsbFIVE OBOLSsbMETRETESsbKYATHOS BASEsbLITRAs",
  "bOUNKIAsbXESTESsbARTABEsbAROURAsbGRAMMAsbTRYBLION BASEsbZEROsb| QUARTERsbSINUSOIDsbINDICTIONs",
  "aNOMISMAs@10190aROMAN SEXTANSsbUNCIAsbSEMUNCIAsbSEXTULAsbDIMIDIA SEXTULAsbSILIQUAsbDENARIUSs",
  "bQUINARIUSsbSESTERTIUSsbDUPONDIUSsbASsbCENTURIALsaASCIA;@101A0aGREEK; TAU RHO",
  "@101D0aPHAISTOS DISCs PEDESTRIANdPLUMED HEADdTATTOOED HEADdCAPTIVEdCHILDdWOMANdHELMETdGAUNTLET",
  "dTIARAdrdBOWdSHIELDdCLUBdMANACLESdMATTOCKdSAWdLIDdBOOMERANGdCARPENTRY PLANEdDOLIUMdCOMBdSLING",
  "dCOLUMNdBEEHIVEdSHIPdHORNdHIDEdBULLS LEGdCATdRAMdEAGLEdDOVEdTUNNYdBEEdPLANE TREEdVINEdPAPYRUS",
  "dROSETTEdLILYdOX BACKdFLUTEdGRATERdSTRAINERdp AXEdWAVY BANDdCOMBINING OBLIQUE.@10280aLYCIANm A",
  "cEcBcBHcGcDcIcWcZcTHcJcKcQcLcMcNcMMcNNcUcPcKKcRcScTcTTcANcENcHcX@102A0aCARIANm AcP2cDcLcUUUcR",
  "cLDcA2cQcBcMcOcD2cTcSHcSH2cScC-18cUcNNcXcNcTT2cPcSScIcEcUUUUcKcK2cNDcUUcGcG2cSTcST2cNGcIIcC-39",
  "cTTcUUU2cRRcMBcMB2cMB3cMB4cLD2cE2cUUU3@102E0aCOPTIC EPACT THOUSANDS>cDIGIT|d^d&dFOURdFIVEdSIX",
  "dSEVENdEIGHTdNINEcNUMBER TENdTWENTYdTHIRTYdFORTYdFIFTYdSIXTYdSEVENTYdEIGHTYdNINETYd|_d^_d&_",
  "dFOUR_dFIVE_dSIX_dSEVEN_dEIGHT_dNINE_@10300aOLD ITALICm AdBEdKEdDEdEdVEdZEdHEdTHEdIdKAdELdEM",
  "dENdESHdOdPEdSHEdKUdERdESdTEdUdEKSdPHEdKHEdEFdERSdCHEdIIdUUdESScNUMERAL|dFIVEdTENdFIFTY",
  "@1032Dcm YEdNORTHERN TSEdSOUTHERN TSEaGOTHICm AHSAcBAIRKANcGIBAcDAGScAIHVUScQAIRTHRAcIUJAcHAGL",
  "cTHIUTHcEIScKUSMAcLAGUScMANNAcNAUTHScJERcURUScPAIRTHRAcNINETYcRAIDAcSAUILcTEIWScWINJAcFAIHU",
  "cIGGWScHWAIRcOTHALcNINE_@10350aOLD PERMICm ANdBURdGAIdDOIdEdZHOIdDZHOIdZATAdDZITAdIdKOKEdLEI",
  "dMENOEdNENOEdVOOIdPEEIdREIdSIIdTAIdUdCHERYdSHOOIdSHCHOOIdYRYdYERUdOdOOdEFdHAdTSIUdVERdYERdYERI",
  "dYATdIEdYUdYAdIAaCOMBINING OLD PERMICm ANeDOIeZATAeNENOEeSII@10380aUGARITICm ALPAcBETAcGAMLA",
  "cKHAcDELTAcHOcWOcZETAcHOTAcTETcYODcKAFcSHINcLAMDAcMEMcDHALcNUNcZUcSAMKAcAINcPUcSADEcQOPAcRASHA",
  "cTHANNAcGHAINcTOcIcUcSSU@1039FbWORD DIVIDERaOLD PERSIANs AdIdUdKAdKUdGAdGUdXAdCAdJAdJIdTAdTU",
  "dDAdDIdDUdTHAdPAdBAdFAdNAdNUdMAdMIdMUdYAdVAdVIdRAdRUdLAdSAdZAdSHAdSSAdHA@103C8dAURAMAZDAAe-2",
  "dAURAMAZDAAHAdXSHAAYATHIYAdDAHYAAUSHe-2dBAGAdBUUMISHcWORD DIVIDERcNUMBER|d^dTENdTWENTYd_",
  "@10400aDESERETom LONG IeEeAeAHeOeOOdSHORT IeEeAeAHeOeOOdAYdOWdWUdYEEdHdPEEdBEEdTEEdDEEdCHEE",
  "dJEEdKAYdGAYdEFdVEEdETHdTHEEdESdZEEdESHdZHEEdERdELdEMdENdENGdOIdEWbpm LONG IeEeAeAHeOeOO",
  "dSHORT IeEeAeAHeOeOOdAYdOWdWUdYEEdHdPEEdBEEdTEEdDEEdCHEEdJEEdKAYdGAYdEFdVEEdETHdTHEEdESdZEE",
  "dESHdZHEEdERdELdEMdENdENGdOIdEWaSHAVIANm PEEPcTOTcKICKcFEEcTHIGHcSOcSUREcCHURCHcYEAcHUNGcBIB",
  "cDEADcGAGcVOWcTHEYcZOOcMEASUREcJUDGEcWOEcHA-HAcLOLLcMIMEcIFcEGGcASHcADOcONcWOOLcOUTcAHcROAR",
  "cNUNcEATcAGEcICEcUPcOAKcOOZEcOILcAWEcAREcORcAIRcERRcARRAYcEARcIANcYEWaOSMANYAm ALEFcBAcTAcJA",
  "cXAcKHAcDEELcRAcSAcSHIINcDHAcCAYNcGAcFAcQAAFcKAAFcLAANcMIINcNUUNcWAWcHAcYAcAcEcIcOcUcAAcEEcOO",
  "@104A0bDIGIT ZEROc|c^c&cFOURcFIVEcSIXcSEVENcEIGHTcNINE@104B0aOSAGEom AdAIdAINdAHdBRAdCHAdEHCHA",
  "dEdEINdHAdHYAdIdKAdEHKAdKYAdLAdMAdNAdOdOINdPAdEHPAdSAdSHAdTAdEHTAdTSAdEHTSAdTSHAdDHAdUdWAdKHA",
  "dGHAdZAdZHA@104D8bpm AdAIdAINdAHdBRAdCHAdEHCHAdEdEINdHAdHYAdIdKAdEHKAdKYAdLAdMAdNAdOdOINdPA",
  "dEHPAdSAdSHAdTAdEHTAdTSAdEHTSAdTSHAdDHAdUdWAdKHAdGHAdZAdZHA@10500aELBASANm AcBEcCEcCHEcDEcNDE",
  "cDHEcEIcEcFEcGEcGJEcHEcIcJEcKEcLEcLLEcMEcNEcNAcNJEcOcPEcQEcREcRREcSEcSHEcTEcTHEcUcVEcXEcYcZE",
  "cZHEcGHEcGHAMMAcKHE@10530aCAUCASIAN ALBANIANm ALTdBETdGIMdDATdEBdZARLdEYNdZHILdTASdCHAdYOWD",
  "dZHAdIRBdSHAdLANdINYAdXEYNdDYANdCARdJHOXdKARdLYITdHEYTdQAYdAORdCHOYdCHIdCYAYdMAQdQARdNOWC",
  "dDZYAYdSHAKdJAYNdONdTYAYdFAMdDZAYdCHATdPENdGHEYSdRATdSEYKdVEYZdTIWRdSHOYdIWNdCYAWdCAYNdYAYD",
  "dPIWRdKIW@1056FcCITATION>aVITHKUQIom AdBBEdBEdCEdCHEdDEdDHEdEIdEdFEdGA@1057CdHAdHHAdIdIJEdJE",
  "dKAdLAdLLAdMEdNEdNJEdOdPEdQAdRE@1058CdSEdSHEdTEdTHEdUdVEdXE@10594dYdZE@10597bpm AdBBEdBEdCE",
  "dCHEdDEdDHEdEIdEdFEdGA@105A3dHAdHHAdIdIJEdJEdKAdLAdLLAdMEdNEdNJEdOdPEdQAdRE@105B3dSEdSHEdTE",
  "dTHEdUdVEdXE@105BBdYdZE@10600aLINEAR As AB001dAB002dAB003dAB004dAB005dAB006dAB007dAB008dAB009",
  "dAB010dAB011dAB013dAB016dAB017dAB020dAB021dAB021FdAB021MdAB022dAB022FdAB022MdAB023dAB023M",
  "dAB024dAB026dAB027dAB028dA028BdAB029dAB030dAB031dAB034dAB037dAB038dAB039dAB040dAB041dAB044",
  "dAB045dAB046dAB047dAB048dAB049dAB050dAB051dAB053dAB054dAB055dAB056dAB057dAB058dAB059dAB060",
  "dAB061dAB065dAB066dAB067dAB069dAB070dAB073dAB074dAB076dAB077dAB078dAB079dAB080dAB081dAB082",
  "dAB085dAB086dAB087dA100-102dAB118dAB120dA120BdAB122dAB123dAB131AdAB131BdA131CdAB164dAB171",
  "dAB180dAB188dAB191dA301dA302dA303dA304dA305dA306dA307dA308dA309AdA309BdA309CdA310dA311dA312",
  "dA313AdA313BdA313CdA314dA315dA316dA317dA318dA319dA320dA321dA322dA323dA324dA325dA326dA327dA328",
  "dA329dA330dA331dA332dA333dA334dA335dA336dA337dA338dA339dA340dA341dA342dA343dA344dA345dA346",
  "dA347dA348dA349dA350dA351dA352dA353dA354dA355dA356dA357dA358dA359dA360dA361dA362dA363dA364",
  "dA365dA366dA367dA368dA369dA370dA371dA400-VASdA401-VASdA402-VASdA403-VASdA404-VASdA405-VAS",
  "dA406-VASdA407-VASdA408-VASdA409-VASdA410-VASdA411-VASdA412-VASdA413-VASdA414-VASdA415-VAS",
  "dA416-VASdA417-VASdA418-VASdA501dA502dA503dA504dA505dA506dA508dA509dA510dA511dA512dA513dA515",
  "dA516dA520dA521dA523dA524dA525dA526dA527dA528dA529dA530dA531dA532dA534dA535dA536dA537dA538",
  "dA539dA540dA541dA542dA545dA547dA548dA549dA550dA551dA552dA553dA554dA555dA556dA557dA559dA563",
  "dA564dA565dA566dA568dA569dA570dA571dA572dA573dA574dA575dA576dA577dA578dA579dA580dA581dA582",
  "dA583dA584dA585dA586dA587dA588dA589dA591dA592dA594dA595dA596dA598dA600dA601dA602dA603dA604",
  "dA606dA608dA609dA610dA611dA612dA613dA614dA615dA616dA617dA618dA619dA620dA621dA622dA623dA624",
  "dA626dA627dA628dA629dA634dA637dA638dA640dA642dA643dA644dA645dA646dA648dA649dA651dA652dA653",
  "dA654dA655dA656dA657dA658dA659dA660dA661dA662dA663dA664@10740dA701 AdA702 BdA703 DdA704 E",
  "dA705 FdA706 HdA707 JdA708 KdA709 Le-2 L2e-3 L3e-4 L4e-6 L6dA710 WdA711 XdA712 YdA713 OMEGA",
  "dA714 ABBdA715 BBdA717 DDdA726 EYYYdA732 JE@10760dA800dA801dA802dA803dA804dA805dA806dA807",
  "@10780aMODIFIERmpo AAcSUPERSCRIPT TRIANGULAR COLONdHALF TRIANGULAR COLONcp AEdo BdBn HOOK",
  "@10787dDZ DIGRAPHfn RETROFLEX HOOKgCURLdDEZH DIGRAPHdDn TAILfHOOKgz TAILdREVERSED E",
  "dCLOSED REVERSED OPEN EdFENG DIGRAPHdRAMS HORNdo GdGn HOOKdo Gn HOOKdHn.do HdHENGn HOOK",
  "dDOTLESS Jn.z HOOKdLS DIGRAPHdLZ DIGRAPHdLn BELTdo Ln BELTdLn RETROFLEX HOOKz BELTdLEZH",
  "en RETROFLEX HOOKdTURNED Yfn BELTdOn.do OEdCLOSED OMEGAdQdTURNED Rn LONG LEGiz RETROFLEX HOOK",
  "dRn TAILfFISHHOOKdo RdTC DIGRAPHn CURLdTS DIGRAPHfn RETROFLEX HOOKdTESH DIGRAPH",
  "dTn RETROFLEX HOOKdVnt HOOK@107B2do YcGLOTTAL STOPn.cREVERSED GLOTTAL STOPn.cBILABIAL CLICK",
  "cDENTAL CLICKcLATERAL CLICKcALVEOLAR CLICKcRETROFLEX CLICKn RETROFLEX HOOKcp Sn CURL",
  "@10800aCYPRIOT SYLLABLE AcEcIcOcUcJA@10808cJO@1080AcKAcKEcKIcKOcKUcLAcLEcLIcLOcLUcMAcMEcMIcMO",
  "cMUcNAcNEcNIcNOcNUcPAcPEcPIcPOcPUcRAcREcRIcROcRUcSAcSEcSIcSOcSUcTAcTEcTIcTOcTUcWAcWEcWIcWO",
  "@10837cXAcXE@1083CcZA@1083FcZOaIMPERIAL ARAMAICm ALEPHdBETHdGIMELdDALETHdHEdWAWdZAYINdHETH",
  "dTETHdYODHdKAPHdLAMEDHdMEMdNUNdSAMEKHdAYINdPEdSADHEdQOPHdRESHdSHINdTAW@10857cSECTIONscNUMBER|",
  "d^d&dTENdTWENTYd|_eTHOUSANDdTEN THOUSANDaPALMYRENEm ALEPHcBETHcGIMELcDALETHcHEcWAWcZAYINcHETH",
  "cTETHcYODHcKAPHcLAMEDHcMEMc$ NUNcNUNcSAMEKHcAYINcPEcSADHEcQOPHcRESHcSHINcTAW",
  "bx-POINTING FLEURONbt-POINTING FLEURONbNUMBER|c^c&cFOURcFIVEcTENcTWENTYaNABATAEANm$ ALEPH",
  "cALEPHc$ BETHcBETHcGIMELcDALETHc$ HEcHEcWAWcZAYINcHETHcTETHc$ YODHcYODHc$ KAPHcKAPHc$ LAMEDH",
  "cLAMEDHc$ MEMcMEMc$ NUNcNUNcSAMEKHcAYINcPEcSADHEcQOPHcRESHc$ SHINcSHINcTAW@108A7bNUMBER|c^c&",
  "cFOURbCRUCIFORM NUMBER FOURbNUMBER FIVEcTENcTWENTYc|_@108E0aHATRANm ALEPHcBETHcGIMEL",
  "cDALETH-RESHcHEcWAWcZAYNcHETHcTETHcYODHcKAPHcLAMEDHcMEMcNUNcSAMEKHcAYNcPEcSADHEcQOPH",
  "@108F4cSHINcTAW@108FBbNUMBER|cFIVEcTENcTWENTYc|_aPHOENICIANm ALFcBETcGAMLcDELTcHEcWAUcZAIcHET",
  "cTETcYODcKAFcLAMDcMEMcNUNcSEMKcAINcPEcSADEcQOFcROSHcSHINcTAUbNUMBER|cTENcTWENTYc|_c^c&",
  "@1091FbWORD SEPARATORaLYDIANm AcBcGcDcEcVcIcYcKcLcMcNcOcRcSScTcUcFcQcScTTcANcENcLYcNNcC",
  "@1093FbTRIANGULAR>@10980aMEROITIC HIEROGLYPHICm AdEdIdOdYAdWAdBAe-2dPAdMAdNAe-2dNEe-2dRAe-2dLA",
  "dKHAdHHAdSAe-2dSEdKAdQAdTAe-2dTEe-2dTOdDAc; VIDJe-2bCURSIVEm AdEdIdOdYAdWAdBAdPAdMAdNAdNEdRA",
  "dLAdKHAdHHAdSAdARCHAIC SAdSEdKAdQAdTAdTEdTOdDA@109BCcFRACTION ELEVEN TWELFTHSd| HALF",
  "cLOGOGRAM RMTdIMNcNUMBER|d^d&dFOURdFIVEdSIXdSEVENdEIGHTdNINEdTENdTWENTYdTHIRTYdFORTYdFIFTY",
  "dSIXTYdSEVENTY@109D2d|_d^_d&_dFOUR_dFIVE_dSIX_dSEVEN_dEIGHT_dNINE_d| THOUSANDd^ THOUSAND",
  "d& THOUSANDdFOUR THOUSANDdFIVE THOUSANDdSIX THOUSANDdSEVEN THOUSANDdEIGHT THOUSAND",
  "dNINE THOUSANDdTEN THOUSANDdTWENTY THOUSANDdTHIRTY THOUSANDdFORTY THOUSANDdFIFTY THOUSAND",
  "dSIXTY THOUSANDdSEVENTY THOUSANDdEIGHTY THOUSANDdNINETY THOUSANDd|_ THOUSANDd^_ THOUSAND",
  "d&_ THOUSANDdFOUR_ THOUSANDdFIVE_ THOUSANDdSIX_ THOUSANDdSEVEN_ THOUSANDdEIGHT_ THOUSAND",
  "dNINE_ THOUSANDcFRACTION| TWELFTHd^ TWELFTHSd& TWELFTHSdFOUR TWELFTHSdFIVE TWELFTHS",
  "dSIX TWELFTHSdSEVEN TWELFTHSdEIGHT TWELFTHSdNINE TWELFTHSdTEN TWELFTHSaKHAROSHTHIm AbVOWELs I",
  "dUdVOCALIC R@10A05dEdO@10A0CcLENGTH>bsv RING!cANUSVARAcVISARGAbm KAcKHAcGAcGHA@10A15cCAcCHAcJA",
  "@10A19cNYAcTTAcTTHAcDDAcDDHAcNNAcTAcTHAcDAcDHAcNAcPAcPHAcBAcBHAcMAcYAcRAcLAcVAcSHAcSSAcSAcZA",
  "cHAcKKAcTTTHAcTTTAcVHA@10A38bs BARucCAUDAcDOT!@10A3FbVIRAMAbDIGIT|c^c&cFOURbNUMBER TENcTWENTY",
  "c|_dTHOUSANDbFRACTION| HALF@10A50bPUNCTUATION DOTcp CIRCLEcCIRCLEcCRESCENT BARcMANGALAMcLOTUS",
  "cDANDAcv DANDAcLINES@10A60aOLD SOUTH ARABIANm HEeLAMEDHeHETHeMEMeQOPHeWAWeSHINeRESHeBETHeTAW",
  "eSATeKAPHeNUNeKHETHeSADHEeSAMEKHeFEeALEFeAYNeDHADHEeGIMELeDALETHeGHAYNeTETHeZAYNeDHALETHeYODH",
  "eTHAWeTHETHdNUMBER|eFIFTYdNUMERIC INDICATORbNORTH ARABIANm HEHeLAMeHAHeMEEMeQAFeWAWeES-2eREH",
  "eBEHeTEHeES-1eKAFeNOONeKHAHeSADeES-3eFEHeALEFeAINeDADeGEEMeDALeGHAINeTAHeZAINeTHALeYEHeTHEH",
  "eZAHdNUMBER|eTENeTWENTY@10AC0aMANICHAEANm ALEPHcBETHcBHETHcGIMELcGHIMELcDALETHcHEcWAWbs UD",
  "bm ZAYINcZHAYINcJAYINcJHAYINcHETHcTETHcYODHcKAPHcXAPHcKHAPHcLAMEDHcDHAMEDHcTHAMEDHcMEMcNUN",
  "cSAMEKHcAYINcAAYINcPEcFEcSADHEcQOPHcXOPHcQHOPHcRESHcSHINcSSHINcTAWbABBREVIATION>ud!",
  "@10AEBbNUMBER|cFIVEcTENcTWENTYc|_bPUNCTUATION STARcFLEURONcv DOT WITHIN DOTcDOT WITHIN DOTd",
  "c^ DOTScLINE FILLER@10B00aAVESTANm AcAAcAOcAAOcANcAANcAEcAEEcEcEEcOcOOcIcIIcUcUUcKEcXEcXYEcXVE",
  "cGEcGGEcGHEcCEcJEcTEcTHEcDEcDHEcTTEcPEcFEcBEcBHEcNGEcNGYEcNGVEcNEcNYEcNNEcMEcHMEcYYEcYEcVEcRE",
  "cLEcSEcZEcSHEcZHEcSHYEcSSHEcHE@10B39bABBREVIATION>aTINY^ DOTS OVER| DOT PUNCTUATION",
  "ap^ DOTS OVER| DOT PUNCTUATIONaLARGE^ DOTS OVER| DOT PUNCTUATIONb| DOT OVER^ DOTS PUNCTUATION",
  "b^ RINGS OVER| RING PUNCTUATIONb| RING OVER^ RINGS PUNCTUATIONaINSCRIPTIONAL PARTHIANm ALEPH",
  "dBETHdGIMELdDALETHdHEdWAWdZAYINdHETHdTETHdYODHdKAPHdLAMEDHdMEMdNUNdSAMEKHdAYINdPEdSADHEdQOPH",
  "dRESHdSHINdTAW@10B58cNUMBER|d^d&dFOURdTENdTWENTYd|_eTHOUSANDbPAHLAVIm ALEPHdBETHdGIMELdDALETH",
  "dHEdWAW-AYIN-RESHdZAYINdHETHdTETHdYODHdKAPHdLAMEDHdMEM-QOPHdNUNdSAMEKHdPEdSADHEdSHINdTAW",
  "@10B78cNUMBER|d^d&dFOURdTENdTWENTYd|_eTHOUSANDaPSALTER PAHLAVIm ALEPHdBETHdGIMELdDALETHdHE",
  "dWAW-AYIN-RESHdZAYINdHETHdYODHdKAPHdLAMEDHdMEM-QOPHdNUNdSAMEKHdPEdSADHEdSHINdTAW",
  "@10B99cSECTION>cTURNED SECTION>cFOUR DOTSn CROSSfDOT@10BA9cNUMBER|d^d&dFOURdTENdTWENTYd|_",
  "@10C00aOLD TURKICm ORKHON AdYENISEI AeAEdORKHON IdYENISEI IeEdORKHON OeOEdYENISEI OEdORKHON AB",
  "dYENISEI ABdORKHON AEBdYENISEI AEBdORKHON AGdYENISEI AGdORKHON AEGdYENISEI AEGdORKHON AD",
  "dYENISEI ADdORKHON AEDeEZdYENISEI EZdORKHON AYdYENISEI AYdORKHON AEYdYENISEI AEYdORKHON AEK",
  "dYENISEI AEKdORKHON OEKdYENISEI OEKdORKHON ALdYENISEI ALdORKHON AELeELTeEMeANeAENdYENISEI AEN",
  "dORKHON ENTdYENISEI ENTdORKHON ENCdYENISEI ENCdORKHON ENYdYENISEI ENYeANGdORKHON ENG",
  "dYENISEI AENGdORKHON EPeOPeICeECdYENISEI ECdORKHON AQdYENISEI AQdORKHON IQdYENISEI IQ",
  "dORKHON OQdYENISEI OQdORKHON ARdYENISEI ARdORKHON AEReASeAESeASHdYENISEI ASHdORKHON ESH",
  "dYENISEI ESHdORKHON ATdYENISEI ATdORKHON AETdYENISEI AETdORKHON OTeBASH@10C80bHUNGARIANom AeAA",
  "eEBeAMBeECeENCeECSeEDezeEeCLOSE EeEEeEFeEGeEGYeEHeIeIIeEJeEKeAKeUNKeELeELYeEMeENeENYeOeOO",
  "eNIKOLSBURG OEeRUDIMENTA OEeOEEeEPeEMPeEReSHORT EReESeESZeETeENTeETYeECHeUeUUeNIKOLSBURG UE",
  "eRUDIMENTA UEeEVeEZeEZSeENT-SHAPEDseUS@10CC0cpm AeAAeEBeAMBeECeENCeECSeEDezeEeCLOSE EeEEeEFeEG",
  "eEGYeEHeIeIIeEJeEKeAKeUNKeELeELYeEMeENeENYeOeOOeNIKOLSBURG OEeRUDIMENTA OEeOEEeEPeEMPeER",
  "eSHORT EReESeESZeETeENTeETYeECHeUeUUeNIKOLSBURG UEeRUDIMENTA UEeEVeEZeEZSeENT-SHAPEDseUS",
  "@10CFAcNUMBER|dFIVEdTENdFIFTYd|_eTHOUSANDaHANIFI ROHINGYAm AdBAdPAdTAdTTAdJAdCAdHAdKHAdFAdDA",
  "dDDAdRAdRRAdZAdSAdSHAdKAdGAdLAdMAdNAdWAdKINNA WAdYAdKINNA YAdNGAdNYAdVAcVOWEL AdIdUdEdO",
  "c> SAKINdNA KHONNAcs HARBAHAYdTAHALAdTANAdTASSI@10D30cDIGIT ZEROd|d^d&dFOURdFIVEdSIXdSEVEN",
  "dEIGHTdNINE@10E60aRUMI DIGIT|c^c&cFOURcFIVEcSIXcSEVENcEIGHTcNINEbNUMBER TENcTWENTYcTHIRTY",
  "cFORTYcFIFTYcSIXTYcSEVENTYcEIGHTYcNINETYc|_c^_c&_cFOUR_cFIVE_cSIX_cSEVEN_cEIGHT_cNINE_",
  "bFRACTION| HALFdQUARTERdTHIRDc^ THIRDS@10E80aYEZIDIm ELIFcBEcPEcPHEcTHEcSEcCIMcCHIMcCHHIMcHHA",
  "cXAcDALcZALcRAcRHAcZAcJAcSINcSHINcSADcDADcTAcZEcEYNcXHEYNcFAcVAdALTERNATEqcQAFcKAFcKHAFcGAF",
  "cLAMcMIMcNUNcUMcWAWcOWcEWcHAYcYOTcET@10EABbCOMBINING HAMZA>cMADDA>bHYPHENATION>",
  "@10EB0bm LAMn DOTucYOTn CIRCUMFLEXu@10F00aOLD SOGDIANm ALEPHd$ ALEPHdBETHd$ BETHdGIMELdHEd$ HE",
  "dWAWdZAYINdHETHdYODHdKAPHdLAMEDHdMEMdNUNd$ NUNfn* TAILdSAMEKHdAYINdALTERNATE AYINdPEdSADHE",
  "d$ SADHEfn* TAILdRESH-AYIN-DALETHdSHINdTAWd$ TAWfn* TAILcNUMBER|d^d&dFOURdFIVEdTENdTWENTY",
  "dTHIRTYd|_cFRACTION| HALFcLIGATURE AYIN-DALETH@10F30aSOGDIANm ALEPHcBETHcGIMELcHEcWAWcZAYIN",
  "cHETHcYODHcKAPHcLAMEDHcMEMcNUNcSAMEKHcAYINcPEcSADHEcRESH-AYINcSHINcTAWcFETHcLESH",
  "bINDEPENDENT SHINbCOMBINING DOT!c^ DOTS!cDOTuc^ DOTSucCURVEud!cHOOKud!cLONG HOOK!cRESH!c.!",
  "bNUMBER|cTENcTWENTYc|_bPUNCTUATION^* BARSfn DOTScCIRCLEn DOTc^ CIRCLESn DOTScHALF CIRCLEn DOT",
  "@10F70aOLD UYGHURm ALEPHdBETHdGIMEL-HETHdWAWdZAYINd$ HETHdYODHdKAPHdLAMEDHdMEMdNUNdSAMEKHdPE",
  "dSADHEdRESHdSHINdTAWdLESHcCOMBINING DOTue!d^ DOTSuf!cPUNCTUATION BARd^ BARSeDOTSdFOUR DOTS",
  "@10FB0aCHORASMIANm ALEPHcp ALEPHcBETHcGIMELcDALETHcHEcWAWcCURLED WAWcZAYINcHETHcYODHcKAPH",
  "cLAMEDHcMEMcNUNcSAMEKHcAYINcPEcRESHcSHINcTAWbNUMBER|c^c&cFOURcTENcTWENTYc|_",
  "@10FE0aELYMAICm ALEPHcBETHcGIMELcDALETHcHEcWAWcZAYINcHETHcTETHcYODHcKAPHcLAMEDHcMEMcNUNcSAMEKH",
  "cAYINcPEcSADHEcQOPHcRESHcSHINcTAWbLIGATURE ZAYIN-YODH@11000aBRAHMIs CANDRABINDUcANUSVARA",
  "cVISARGAcJIHVAMULIYAcUPADHMANIYAbm AcAAcIcIIcUcUUcVOCALIC RdRRdLdLLcEcAIcOcAUcKAcKHAcGAcGHA",
  "cNGAcCAcCHAcJAcJHAcNYAcTTAcTTHAcDDAcDDHAcNNAcTAcTHAcDAcDHAcNAcPAcPHAcBAcBHAcMAcYAcRAcLAcVAcSHA",
  "cSSAcSAcHAcLLAcOLD TAMIL LLLAeRRAeNNNAbVOWELs AAdBHATTIPROLU AAdIdIIdUdUUdVOCALIC ReRReLeLLdE",
  "dAIdOdAUbVIRAMAbDANDAbv DANDAbPUNCTUATION DOTcv DOTcLINEcCRESCENT BARcLOTUS@11052bNUMBER|c^c&",
  "cFOURcFIVEcSIXcSEVENcEIGHTcNINEcTENcTWENTYcTHIRTYcFORTYcFIFTYcSIXTYcSEVENTYcEIGHTYcNINETYc|_",
  "dTHOUSANDbDIGIT ZEROc|c^c&cFOURcFIVEcSIXcSEVENcEIGHTcNINEbs OLD TAMIL VIRAMA",
  "bm OLD TAMIL SHORT EfObVOWELs OLD TAMIL SHORT EgObm OLD TAMIL LLA@1107FbNUMBER JOINER",
  "aKAITHIs CANDRABINDUcANUSVARAcVISARGAbm AcAAcIcIIcUcUUcEcAIcOcAUcKAcKHAcGAcGHAcNGAcCAcCHAcJA",
  "cJHAcNYAcTTAcTTHAcDDAcDDDHAcDDHAcRHAcNNAcTAcTHAcDAcDHAcNAcPAcPHAcBAcBHAcMAcYAcRAcLAcVAcSHAcSSA",
  "cSAcHAbVOWELs AAdIdIIdUdUUdEdAIdOdAUbs VIRAMAcNUKTAbABBREVIATIONsbENUMERATIONsbNUMBERs",
  "bSECTION>bv SECTION>bDANDAbv DANDAbVOWELs VOCALIC R@110CDbNUMBERsu@110D0aSORA SOMPENGm SAHdTAH",
  "dBAHdCAHdDAHdGAHdMAHdNGAHdLAHdNAHdVAHdPAHdYAHdRAHdHAHdKAHdJAHdNYAHdAHdEEHdIHdUHdOHdEHdMAE",
  "@110F0cDIGIT ZEROd|d^d&dFOURdFIVEdSIXdSEVENdEIGHTdNINE@11100aCHAKMAs CANDRABINDUcANUSVARA",
  "cVISARGAbm AAcIcUcEcKAAcKHAAcGAAcGHAAcNGAAcCAAcCHAAcJAAcJHAAcNYAAcTTAAcTTHAAcDDAAcDDHAAcNNAA",
  "cTAAcTHAAcDAAcDHAAcNAAcPAAcPHAAcBAAcBHAAcMAAcYYAAcYAAcRAAcLAAcWAAcSAAcHAAbVOWELs AdIdIIdUdUUdE",
  "dAIdOdAUdOIbO>bAU>bVIRAMAbMAAYYAA@11136bDIGIT ZEROc|c^c&cFOURcFIVEcSIXcSEVENcEIGHTcNINE",
  "bSECTION>bDANDAbv DANDAbQUESTION>bm LHAAbVOWELs AAdEIbm VAA@11150aMAHAJANIm AcIcUcEcOcKAcKHA",
  "cGAcGHAcCAcCHAcJAcJHAcNYAcTTAcTTHAcDDAcDDHAcNNAcTAcTHAcDAcDHAcNAcPAcPHAcBAcBHAcMAcRAcLAcVAcSA",
  "cHAcRRAbs NUKTAbABBREVIATIONsbSECTION>bLIGATURE SHRI@11180aSHARADAs CANDRABINDUcANUSVARA",
  "cVISARGAbm AcAAcIcIIcUcUUcVOCALIC RdRRdLdLLcEcAIcOcAUcKAcKHAcGAcGHAcNGAcCAcCHAcJAcJHAcNYAcTTA",
  "cTTHAcDDAcDDHAcNNAcTAcTHAcDAcDHAcNAcPAcPHAcBAcBHAcMAcYAcRAcLAcLLAcVAcSHAcSSAcSAcHAbVOWELs AAdI",
  "dIIdUdUUdVOCALIC ReRReLeLLdEdAIdOdAUbs VIRAMAcAVAGRAHAcJIHVAMULIYAcUPADHMANIYAbOMbDANDA",
  "bv DANDAbABBREVIATIONsbSEPARATORbSANDHI>bs NUKTAbVOWEL MODIFIER>bEXTRA SHORT VOWEL>bSUTRA>",
  "bVOWELs PRISHTHAMATRA Ebs INVERTED CANDRABINDUbDIGIT ZEROc|c^c&cFOURcFIVEcSIXcSEVENcEIGHTcNINE",
  "bEKAMbs SIDDHAMbHEADSTROKEbCONTINUATIONsbSECTION>-1d-2@111E1aSINHALA ARCHAIC DIGIT|d^d&dFOUR",
  "dFIVEdSIXdSEVENdEIGHTdNINEcNUMBER TENdTWENTYdTHIRTYdFORTYdFIFTYdSIXTYdSEVENTYdEIGHTYdNINETYd|_",
  "eTHOUSAND@11200aKHOJKIm AcAAcIcUcEcAIcOcAUcKAcKHAcGAcGGAcGHAcNGAcCAcCHAcJAcJJA@11213cNYAcTTA",
  "cTTHAcDDAcDDHAcNNAcTAcTHAcDAcDDDAcDHAcNAcPAcPHAcBAcBBAcBHAcMAcYAcRAcLAcVAcSAcHAcLLAbVOWELs AA",
  "dIdIIdUdEdAIdOdAUbs ANUSVARAcVIRAMAcNUKTAcSHADDAbDANDAbv DANDAbWORD SEPARATORbSECTION>",
  "bv SECTION>bABBREVIATIONsbs SUKUN@11280aMULTANIm AcIcUcEcKAcKHAcGA@11288cGHA@1128AcCAcCHAcJA",
  "cJJA@1128FcNYAcTTAcTTHAcDDAcDDDAcDDHAcNNAcTAcTHAcDAcDHAcNAcPAcPHAcBA@1129FcBHAcMAcYAcRAcLAcVA",
  "cSAcHAcRRAcRHAbSECTION>@112B0aKHUDAWADIm AcAAcIcIIcUcUUcEcAIcOcAUcKAcKHAcGAcGGAcGHAcNGAcCAcCHA",
  "cJAcJJAcJHAcNYAcTTAcTTHAcDDAcDDDAcRRAcDDHAcNNAcTAcTHAcDAcDHAcNAcPAcPHAcBAcBBAcBHAcMAcYAcRAcLA",
  "cVAcSHAcSAcHAbs ANUSVARAbVOWELs AAdIdIIdUdUUdEdAIdOdAUbs NUKTAcVIRAMA@112F0bDIGIT ZEROc|c^c&",
  "cFOURcFIVEcSIXcSEVENcEIGHTcNINE@11300aGRANTHAs COMBINING ANUSVARAucCANDRABINDUcANUSVARA",
  "cVISARGA@11305bm AcAAcIcIIcUcUUcVOCALIC RdL@1130FcEEcAI@11313cOOcAUcKAcKHAcGAcGHAcNGAcCAcCHA",
  "cJAcJHAcNYAcTTAcTTHAcDDAcDDHAcNNAcTAcTHAcDAcDHAcNA@1132AcPAcPHAcBAcBHAcMAcYAcRA@11332cLAcLLA",
  "@11335cVAcSHAcSSAcSAcHA@1133BaCOMBINING BINDU!aGRANTHAs NUKTAcAVAGRAHAbVOWELs AAdIdIIdUdUU",
  "dVOCALIC ReRR@11347dEEdAI@1134BdOOdAUbs VIRAMA@11350bOM@11357bAU LENGTH>@1135Dbs PLUTA",
  "bm VEDIC ANUSVARAdv ANUSVARAcVOCALIC RRdLLbVOWELs VOCALIC LeLL",
  "@11366aCOMBINING GRANTHA DIGIT ZEROd|d^d&dFOURdFIVEdSIX@11370cm AdKAdNAdVIdPA@11400aNEWAm AcAA",
  "cIcIIcUcUUcVOCALIC RdRRdLdLLcEcAIcOcAUcKAcKHAcGAcGHAcNGAcNGHAcCAcCHAcJAcJHAcNYAcNYHAcTTAcTTHA",
  "cDDAcDDHAcNNAcTAcTHAcDAcDHAcNAcNHAcPAcPHAcBAcBHAcMAcMHAcYAcRAcRHAcLAcLHAcWAcSHAcSSAcSAcHA",
  "bVOWELs AAdIdIIdUdUUdVOCALIC ReRReLeLLdEdAIdOdAUbs VIRAMAcCANDRABINDUcANUSVARAcVISARGAcNUKTA",
  "cAVAGRAHAc$ ANUSVARAbOMbSIDDHIbDANDAbv DANDAbCOMMAbGAP FILLERbABBREVIATIONsbDIGIT ZEROc|c^c&",
  "cFOURcFIVEcSIXcSEVENcEIGHTcNINEbv COMMAbPLACEHOLDER>@1145DbINSERTIONsbSANDHI>bm VEDIC ANUSVARA",
  "bs JIHVAMULIYAcUPADHMANIYA@11480aTIRHUTA ANJIbm AcAAcIcIIcUcUUcVOCALIC RdRRdLdLLcEcAIcOcAUcKA",
  "cKHAcGAcGHAcNGAcCAcCHAcJAcJHAcNYAcTTAcTTHAcDDAcDDHAcNNAcTAcTHAcDAcDHAcNAcPAcPHAcBAcBHAcMAcYA",
  "cRAcLAcVAcSHAcSSAcSAcHAbVOWELs AAdIdIIdUdUUdVOCALIC ReRReLeLLdEdSHORT EdAIdOdSHORT OdAU",
  "bs CANDRABINDUcANUSVARAcVISARGAcVIRAMAcNUKTAcAVAGRAHAbGVANGbABBREVIATIONsbOM@114D0bDIGIT ZERO",
  "c|c^c&cFOURcFIVEcSIXcSEVENcEIGHTcNINE@11580aSIDDHAMm AcAAcIcIIcUcUUcVOCALIC RdRRdLdLLcEcAIcO",
  "cAUcKAcKHAcGAcGHAcNGAcCAcCHAcJAcJHAcNYAcTTAcTTHAcDDAcDDHAcNNAcTAcTHAcDAcDHAcNAcPAcPHAcBAcBHA",
  "cMAcYAcRAcLAcVAcSHAcSSAcSAcHAbVOWELs AAdIdIIdUdUUdVOCALIC ReRR@115B8dEdAIdOdAUbs CANDRABINDU",
  "cANUSVARAcVISARGAcVIRAMAcNUKTAcSIDDHAMbDANDAbv DANDAbSEPARATOR DOTcBARbREPETITION>-1d-2d-3",
  "bEND OF TEXT>bSECTION>n TRIDENTz U-SHAPED ORNAMENTSgDOTTED CRESCENTSeRAYSz DOTTED CRESCENTS",
  "hv CRESCENTShTRIPLE CRESCENTSdv RINGfn RAYSdnv CRESCENTSeTRIPLE CRESCENTSeQUADRUPLE CRESCENTS",
  "eSEPTUPLE CRESCENTSeCIRCLESz RAYSg^ ENCLOSURESgFOUR ENCLOSURESbm&-CIRCLE ALTERNATE I",
  "c^-CIRCLE ALTERNATE IfIIcALTERNATE UbVOWELs ALTERNATE UeUU@11600aMODIm AcAAcIcIIcUcUU",
  "cVOCALIC RdRRdLdLLcEcAIcOcAUcKAcKHAcGAcGHAcNGAcCAcCHAcJAcJHAcNYAcTTAcTTHAcDDAcDDHAcNNAcTAcTHA",
  "cDAcDHAcNAcPAcPHAcBAcBHAcMAcYAcRAcLAcVAcSHAcSSAcSAcHAcLLAbVOWELs AAdIdIIdUdUUdVOCALIC ReRReL",
  "eLLdEdAIdOdAUbs ANUSVARAcVISARGAcVIRAMAcARDHACANDRAbDANDAbv DANDAbABBREVIATIONsbs HUVA",
  "@11650bDIGIT ZEROc|c^c&cFOURcFIVEcSIXcSEVENcEIGHTcNINE@11660aMONGOLIAN BIRGAn ORNAMENT",
  "bROTATED BIRGAbv BIRGAn ORNAMENTbTRIPLE BIRGAn ORNAMENTbBIRGAnv ORNAMENT",
  "bROTATED BIRGAn ORNAMENTev ORNAMENTbINVERTED BIRGAdnv ORNAMENTbSWIRL BIRGAdn ORNAMENT",
  "ev ORNAMENTbTURNED SWIRL BIRGAnv ORNAMENT@11680aTAKRIm AcAAcIcIIcUcUUcEcAIcOcAUcKAcKHAcGAcGHA",
  "cNGAcCAcCHAcJAcJHAcNYAcTTAcTTHAcDDAcDDHAcNNAcTAcTHAcDAcDHAcNAcPAcPHAcBAcBHAcMAcYAcRAcLAcVAcSHA",
  "cSAcHAcRRAbs ANUSVARAcVISARGAbVOWELs AAdIdIIdUdUUdEdAIdOdAUbs VIRAMAcNUKTAbm ARCHAIC KHA",
  "bABBREVIATIONs@116C0bDIGIT ZEROc|c^c&cFOURcFIVEcSIXcSEVENcEIGHTcNINE@11700aAHOMm KAcKHAcNGAcNA",
  "cTAcALTERNATE TAcPAcPHAcBAcMAcJAcCHAcTHAcRAcLAcSAcNYAcHAcAcDAcDHAcGAcALTERNATE GAcGHAcBHAcJHA",
  "cALTERNATE BA@1171DbCONSONANTs MEDIAL LAeRAeLIGATING RAbVOWELs AdAAdIdIIdUdUUdEdAWdOdAIdAM",
  "bs KILLER@11730bDIGIT ZEROc|c^c&cFOURcFIVEcSIXcSEVENcEIGHTcNINEbNUMBER TENcTWENTYbsp SECTION",
  "cSECTIONcRULAIb; VIbm CAcTTAcTTHAcDDAcDDHAcNNAcLLA@11800aDOGRAm AcAAcIcIIcUcUUcEcAIcOcAUcKA",
  "cKHAcGAcGHAcNGAcCAcCHAcJAcJHAcNYAcTTAcTTHAcDDAcDDHAcNNAcTAcTHAcDAcDHAcNAcPAcPHAcBAcBHAcMAcYA",
  "cRAcLAcVAcSHAcSSAcSAcHAcRRAbVOWELs AAdIdIIdUdUUdVOCALIC ReRRdEdAIdOdAUbs ANUSVARAcVISARGA",
  "cVIRAMAcNUKTAbABBREVIATIONs@118A0aWARANG CITIom NGAAeAeWIeYUeYAeYOeIIeUUeEeOeANGeGAeKOeENYeYUJ",
  "eUCeENNeODDeTTEeNUNGeDAeATeAMeBUePUeHIYOeHOLOeHORReHAReSSUUeSIIeVIYOcpm NGAAeAeWIeYUeYAeYOeII",
  "eUUeEeOeANGeGAeKOeENYeYUJeUCeENNeODDeTTEeNUNGeDAeATeAMeBUePUeHIYOeHOLOeHORReHAReSSUUeSIIeVIYO",
  "cDIGIT ZEROd|d^d&dFOURdFIVEdSIXdSEVENdEIGHTdNINEcNUMBER TENdTWENTYdTHIRTYdFORTYdFIFTYdSIXTY",
  "dSEVENTYdEIGHTYdNINETY@118FFcOMaDIVES AKURUm AdAAdIdIIdUdUUdE@11909dO@1190CdKAdKHAdGAdGHAdNGA",
  "dCAdCHAdJA@11915dNYAdTTA@11918dDDAdDDHAdNNAdTAdTHAdDAdDHAdNAdPAdPHAdBAdBHAdMAdYAdYYAdRAdLAdVA",
  "dSHAdSSAdSAdHAdLLAdZAcVOWELs AAeIeIIeUeUUeE@11937eAIeO@1193Bcs ANUSVARAdCANDRABINDUdHALANTA",
  "cVIRAMAcPREFIXED NASALscMEDIAL YAc, RAcMEDIAL RAcs NUKTAcv DANDAcGAP FILLERcEND OF TEXT>",
  "@11950cDIGIT ZEROd|d^d&dFOURdFIVEdSIXdSEVENdEIGHTdNINE@119A0aNANDINAGARIm AcAAcIcIIcUcUU",
  "cVOCALIC RdRR@119AAcEcAIcOcAUcKAcKHAcGAcGHAcNGAcCAcCHAcJAcJHAcNYAcTTAcTTHAcDDAcDDHAcNNAcTAcTHA",
  "cDAcDHAcNAcPAcPHAcBAcBHAcMAcYAcRAcLAcVAcSHAcSSAcSAcHAcLLAcRRAbVOWELs AAdIdIIdUdUUdVOCALIC ReRR",
  "@119DAdEdAIdOdAUbs ANUSVARAcVISARGAcVIRAMAcAVAGRAHAcSIDDHAMbHEADSTROKEbVOWELs PRISHTHAMATRA E",
  "@11A00aZANABAZAR SQUAREm AcVOWELs IeUEeUeEeOEeOeAIeAUeREVERSED IdLENGTH>cm KAdKHAdGAdGHAdNGA",
  "dCAdCHAdJAdNYAdTTAdTTHAdDDAdDDHAdNNAdTAdTHAdDAdDHAdNAdPAdPHAdBAdBHAdMAdTSAdTSHAdDZAdDZHAdZHA",
  "dZAd -AdYAdRAdLAdVAdSHAdSSAdSAdHAdKSSAc$ CONSONANT>cs VIRAMAdCANDRABINDUen ORNAMENT",
  "dCANDRAn ORNAMENTdANUSVARAdVISARGAcCLUSTER-INITIALm RAd-FINALm YAfRAfLAfVAc, HEAD>",
  "cCLOSING HEAD>c> TSHEGdSHADdv SHADdLONG TSHEGc,v-LINED HEAD>cCLOSINGv-LINED HEAD>cSUBJOINER",
  "@11A50aSOYOMBOm AbVOWELs IdUEdUdEdOdOEdAIdAUdVOCALIC ReLcLENGTH>bm KAcKHAcGAcGHAcNGAcCAcCHAcJA",
  "cJHAcNYAcTTAcTTHAcDDAcDDHAcNNAcTAcTHAcDAcDHAcNAcPAcPHAcBAcBHAcMAcTSAcTSHAcDZAcZHAcZAc -AcYAcRA",
  "cLAcVAcSHAcSSAcSAcHAcKSSAbs JIHVAMULIYAcUPADHMANIYAbCLUSTER-INITIALm RAeLAeSHAeSA",
  "b$ CONSONANTs GeKeNGeDeNeBeMeReLeSHeSe -Abs ANUSVARAcVISARGAbGEMINATION>bSUBJOINERb> TSHEG",
  "cSHADcv SHADcPLUTAbHEAD>n MOONz SUNz TRIPLE FLAMEiFLAMEhbTERMINAL>-1d-2",
  "@11AB0aCANADIAN SYLLABICS NATTILIK HIdHIIdHOdHOOdHAdHAAdSHRIdSHRIIdSHROdSHROOdSHRAdSHRAAcSPE",
  "cSPIcSPOcSPAaPAU CIN HAUm PAeKAeLAeMAeDAeZAeVAeNGAeHAeGAeKHAeSAeBAeCAeTAeTHAeNAePHAeRAeFAeCHA",
  "eAeEeIeOeUeUAeIAe$ PfKfTfMfNfLfWfNGfYdRISING TONE LONGfdSANDHI GLOTTAL STOPdRISING TONE LONG$",
  "f$dSANDHI GLOTTAL STOP$eTONE LONGffLONG$f$dMID-LEVEL TONEdGLOTTAL STOP VARIANT",
  "dMID-LEVEL TONE LONG$g$dLOW-FALLING TONE LONGgdGLOTTAL STOPdLOW-FALLING TONE LONG$g$",
  "dGLOTTAL STOP$@11C00aBHAIKSUKIm AcAAcIcIIcUcUUcVOCALIC RdRRdL@11C0AcEcAIcOcAUcKAcKHAcGAcGHA",
  "cNGAcCAcCHAcJAcJHAcNYAcTTAcTTHAcDDAcDDHAcNNAcTAcTHAcDAcDHAcNAcPAcPHAcBAcBHAcMAcYAcRAcLAcVAcSHA",
  "cSSAcSAcHAbVOWELs AAdIdIIdUdUUdVOCALIC ReRReL@11C38dEdAIdOdAUbs CANDRABINDUcANUSVARAcVISARGA",
  "cVIRAMAcAVAGRAHAbDANDAbv DANDAbWORD SEPARATORbGAP FILLER-1d-2@11C50bDIGIT ZEROc|c^c&cFOURcFIVE",
  "cSIXcSEVENcEIGHTcNINEbNUMBER|c^c&cFOURcFIVEcSIXcSEVENcEIGHTcNINEcTENcTWENTYcTHIRTYcFORTYcFIFTY",
  "cSIXTYcSEVENTYcEIGHTYcNINETYbHUNDREDS UNIT>@11C70aMARCHEN HEAD>b> SHADbm KAcKHAcGAcNGAcCAcCHA",
  "cJAcNYAcTAcTHAcDAcNAcPAcPHAcBAcMAcTSAcTSHAcDZAcWAcZHAcZAc -AcYAcRAcLAcSHAcSAcHAcA",
  "@11C92bSUBJOINEDm KAdKHAdGAdNGAdCAdCHAdJAdNYAdTAdTHAdDAdNAdPAdPHAdBAdMAdTSAdTSHAdDZAdWAdZHAdZA",
  "@11CA9dYAdRAdLAdSHAdSAdHAdAbVOWELs AAdIdUdEdObs ANUSVARAcCANDRABINDU@11D00aMASARAM GONDIm AdAA",
  "dIdIIdUdUUdE@11D08dAIdO@11D0BdAUdKAdKHAdGAdGHAdNGAdCAdCHAdJAdJHAdNYAdTTAdTTHAdDDAdDDHAdNNAdTA",
  "dTHAdDAdDHAdNAdPAdPHAdBAdBHAdMAdYAdRAdLAdVAdSHAdSSAdSAdHAdLLAdKSSAdJNYAdTRAcVOWELs AAeIeIIeU",
  "eUUeVOCALIC R@11D3AeE@11D3CeAIeO@11D3FeAUcs ANUSVARAdVISARGAdNUKTAdCANDRAdHALANTAcVIRAMAcREPHA",
  "cRA-KARA@11D50cDIGIT ZEROd|d^d&dFOURdFIVEdSIXdSEVENdEIGHTdNINE@11D60aGUNJALA GONDIm AdAAdIdII",
  "dUdUU@11D67dEEdAI@11D6AdOOdAUdYAdVAdBAdBHAdMAdKAdKHAdTAdTHAdLAdGAdGHAdDAdDHAdNAdCAdCHAdTTA",
  "dTTHAdLLAdJAdJHAdDDAdDDHAdNGAdPAdPHAdHAdRAdSAcVOWELs AAeIeIIeUeUU@11D90eEEeAI@11D93eOOeAU",
  "cs ANUSVARAdVISARGAcVIRAMAcOM@11DA0cDIGIT ZEROd|d^d&dFOURdFIVEdSIXdSEVENdEIGHTdNINE",
  "@11EE0aMAKASARm KAcGAcNGAcPAcBAcMAcTAcDAcNAcCAcJAcNYAcYAcRAcLAcVAcSAcAbANGKAbVOWELs IdUdEdO",
  "bPASSIMBANGbEND OF SECTION@11FB0aLISUm YHA@11FC0aTAMIL FRACTION|&-HUNDRED-AND-TWENTIETH",
  "d|-HUNDRED-AND-SIXTIETHdEIGHTIETHdSIXTY-FOURTHdFORTIETHdTHIRTY-SECONDc& EIGHTIETHS",
  "dSIXTY-FOURTHSc| TWENTIETHdSIXTEENTH-1e-2dTENTHdEIGHTHc& TWENTIETHSdSIXTEENTHSc| FIFTHdQUARTER",
  "dHALF-1e-2c& QUARTERScDOWNSCALING FACTOR KIIZHbs NELcCEVITUcAAZHAAKKUcUZHAKKUcMUUVUZHAKKU",
  "cKURUNIcPATHAKKUcMUKKURUNIcKAACUcPANAMcPONcVARAAKANcPAARAMcKUZHIcVELIbWET CULTIVATIONs",
  "bDRY CULTIVATIONsbLANDsbSALT PANsbTRADITIONAL CREDITscNUMBERsbCURRENTsbz ODDsbSPENTsbTOTALs",
  "bIN POSSESSIONsbSTARTING FROMsbs MUTHALIYAcVAKAIYARAA@11FFFbPUNCTUATION END OF TEXT",
  "aCUNEIFORMs AdTIMES AeBADeGAN2 TENUeHAeIGIeLAGAR GUNUeMUSHeSAGcA2cABdTIMES ASH2eDUN3 GUNUeGAL",
  "eGAN2 TENUeHAeIGI GUNUeIMINeLAGABeSHESHeU PLUS U PLUS UdGUNUcAB2dTIMES BALAGeGAN2 TENU",
  "eME PLUS ENeSHA3eTAK4cADcAKdTIMES ERIN2eSHITA PLUS GISHcALdTIMES ALeDIM2eGISHeHAeKAD3eKIeSHE",
  "eUSHcALANcALEPHcAMARdTIMES SHEcANdOVER ANd& TIMESdPLUS NAGA OPPOSING AN PLUS NAGAfSQUARED",
  "cANSHEcAPINcARADdTIMES KURcARKABcASAL2cASHdZIDA TENUdKABA TENU",
  "dOVER ASH TUG2 OVER TUG2 TUG2 OVER TUG2 PAPfOVER ASHhCROSSING ASH OVER ASH OVER ASHcASH2",
  "cASHGABcBAcBADcBAG3cBAHAR2cBALdOVER BALcBALAGcBARcBARA2cBIdTIMES AeGAReIGI GUNUcBUdOVER BU AB",
  "fUNdCROSSING BUcBULUGdOVER BULUGcBURcBUR2cDAcDAGdKISIM5 TIMES A PLUS MASHfAMARfBALAGfBIfGA",
  "gPLUS MASHfGIfGIR2fGUDfHAfIRgPLUS LUfKAKfLAfLUgPLUS MASH2fLUMfNEfPAP PLUS PAPfSIfTAK4",
  "fU2 PLUS GIR2fUSHcDAMcDARcDARA3cDARA4cDIcDIBcDIMdTIMES SHEcDIM2cDINdKASKAL U GUNU DISHcDISHcDU",
  "dOVER DUdGUNUdSHESHIGcDUBdTIMES ESH2cDUB2cDUGcDUGUDcDUHcDUNcDUN3dGUNUeGUNUcDUN4cDUR2cE",
  "dTIMES PAPdOVER E NUN OVER NUNcE2dTIMES A PLUS HA PLUS DAeGAReMIeSALeSHEeUcEDINcEGIRcELcEN",
  "dTIMES GAN2fTENUeMEdCROSSING ENdOPPOSING ENdSQUAREDcERENcERIN2cESH2cEZENdTIMES AfPLUS LAL",
  "hTIMES LALeANeBADeDUN3 GUNUgGUNUeHAfGUNUeIGI GUNUeKASKALfSQUAREDeKU3eLAeLAL TIMES LALeLIeLUeU2",
  "eUDcGAdGUNUcGA2dTIMES A PLUS DA PLUS HAgHAgIGIeAB2 TENU PLUS TABeANeASHeASH2 PLUS GALeBAD",
  "eBAR PLUS RAeBURfPLUS RAeDAeDIeDIM TIMES SHEeDUBeELfPLUS LAeENfTIMES GAN2 TENUeGAN2 TENUeGAR",
  "eGIeGI4fPLUS AeGIR2 PLUS SUeHA PLUS LU PLUS ESH2eHALfPLUS LAeHI PLUS LIeHUB2eIGI GUNU",
  "eISH PLUS HU PLUS ASHeKAKeKASKALeKIDfPLUS LALeKU3 PLUS ANeLAeME PLUS ENeMIeNUNfOVER NUNePAeSAL",
  "eSAReSHEfPLUS TUReSHIDeSUMeTAK4eUeUDfPLUS DUdOVER GA2cGABAdCROSSING GABAcGAD",
  "dOVER GAD GAR OVER GARcGALdGAD OVER GAD GAR OVER GARcGALAMcGAMcGANcGAN2dTENUdOVER GAN2",
  "dCROSSING GAN2cGARcGAR3cGASHANcGESHTINdTIMES KURcGIdTIMES EeUdCROSSING GIcGI4dOVER GI4",
  "dCROSSING GI4cGIDIMcGIR2dGUNUcGIR3dTIMES A PLUS IGIeGAN2 TENUeIGIeLU PLUS IGIePAcGISALcGISH",
  "dCROSSING GISHdTIMES BADeTAK4dTENUcGUdCROSSING GUcGU2dTIMES KAKfTIMES IGI GUNUeNUN",
  "eSAL PLUS TUG2dGUNUcGUDdTIMES A PLUS KUReKURdOVER GUD LUGALcGULcGUMdTIMES SHEcGURcGUR7cGURUN",
  "cGURUSHcHAdTENUdGUNUcHALcHIdTIMES ASHeASH2eBADeDISHeGADeKINeNUNeSHEeUcHUcHUB2dTIMES ANeHAL",
  "eKASKALeLISHeUDcHUL2cIdAcIBcIDIMdOVER IDIM BURfSQUAREDcIGcIGIdDIBdRI",
  "dOVER IGI SHIR OVER SHIR UD OVER UDdGUNUcILdTIMES GAN2 TENUcIL2cIMdTIMES TAK4dCROSSING IM",
  "dOPPOSING IMdSQUAREDcIMINcINcIRcISHcKAdTIMES AeADfPLUS KU3eASH2eBADeBALAGeBAReBIeERIN2eESH2eGA",
  "eGALeGAN2 TENUeGARfPLUS SHA3 PLUS AeGIeGIR2eGISH PLUS SARfCROSSING GISHeGUeGUR7eIGIeIMeKAKeKI",
  "eKIDeLIeLUeMEfPLUS DUgGIgTEeMIfPLUS NUNUZeNEeNUNePIeRUeSAeSAReSHAeSHEeSHIDeSHUeSIGeSUHUReTAReU",
  "eU2eUDeUMUM TIMES PAeUSHeZIcKA2dCROSSING KA2cKABcKAD2cKAD3cKAD4cKAD5dOVER KAD5cKAK",
  "dTIMES IGI GUNUcKALdTIMES BADdCROSSING KALcKAM2cKAM4cKASKALdLAGAB TIMES U OVER LAGAB TIMES U",
  "dOVER KASKAL LAGAB TIMES U OVER LAGAB TIMES UcKESH2cKIdTIMES BADeUeUDcKIDcKINcKISALcKISH",
  "cKISIM5dOVER KISIM5cKUdOVER HI TIMES ASH2 KU OVER HI TIMES ASH2cKU3cKU4dVARIANTqcKU7cKULdGUNU",
  "cKUNcKURdOPPOSING KURcKUSHU2cKWU318cLAcLAGABdTIMES AfPLUS DA PLUS HAgGARgLALeALeAN",
  "eASH ZIDA TENUeBADeBIeDAReENeGAeGAReGUDfPLUS GUDeHAeHALeHI TIMES NUNeIGI GUNUeIMfPLUS HAgLUeKI",
  "eKINeKU3eKULfPLUS HI PLUS AeLAGABeLISHeLUeLULeMEfPLUS ENeMUSHeNEeSHE PLUS SUM",
  "eSHITA PLUS GISH PLUS ERIN2hTENUeSHU2fPLUS SHU2eSUMeTAGeTAK4eTE PLUS A PLUS SU PLUS NAeU",
  "fPLUS AgU PLUS UeU2 PLUS ASHeUDeUSHdSQUAREDcLAGARdTIMES SHEfPLUS SUMdGUNUeOVER LAGAR GUNU SHE",
  "cLAHSHUcLALdTIMES LALcLAMdTIMES KURfPLUS RUcLIcLILcLIMMU2cLISHcLUdTIMES BADcLU2dTIMES ALeBAD",
  "eESH2fTENUeGAN2 TENUeHI TIMES BADeIMeKAD2eKAD3fPLUS ASHeKIeLA PLUS ASHeLAGABeME PLUS ENeNEeNU",
  "eSI PLUS ASHeSIK2 PLUS BUeTUG2dTENUdCROSSING LU2dOPPOSING LU2dSQUAREDdSHESHIGcLU3cLUGAL",
  "dOVER LUGALdOPPOSING LUGALdSHESHIGcLUHcLULcLUMdOVER LUMfGAR OVER GARcMAdTIMES TAK4dGUNUcMA2",
  "cMAHcMARcMASHcMASH2cMEcMEScMIcMINcMUdOVER MUcMUGdGUNUcMUNSUBcMURGU2cMUSHdTIMES AeKUReZA",
  "dOVER MUSHfTIMES A PLUS NAdCROSSING MUSHcMUSH3dTIMES AfPLUS DIeDIdGUNUcNAcNA2cNAGAdINVERTED",
  "dTIMES SHU TENUdOPPOSING NAGAcNAGARcNAM NUTILLUdcNAM2cNEdTIMES AeUDdSHESHIGcNIdTIMES EcNI2cNIM",
  "dTIMES GAN2 TENUeGAR PLUS GAN2 TENUcNINDA2dTIMES ANeASHfPLUS ASHeGUDeME PLUS GAN2 TENUeNEeNUN",
  "eSHEfPLUS A ANgASHhPLUS ASHeU2 PLUS ASHeUSHcNISAGcNUcNU11cNUNdLAGAR TIMES GARfMASHfSAL",
  "gOVER NUN LAGAR TIMES SALfUSHdTENUdOVER NUNdCROSSING NUNfLAGAR OVER LAGARcNUNUZ",
  "dAB2 TIMES ASHGABfBIfDUGfGUDfIGI GUNUfKAD3fLAfNEfSILA3fU2dKISIM5 TIMES BIgUcPAcPADcPANcPAP",
  "cPESH2cPIdTIMES AeABeBIeBUeEeIeIBeUeU2dCROSSING PIcPIRIGdTIMES KALeUDeZAdOPPOSING PIRIGcRAcRAB",
  "cRIcRUcSAcSAG NUTILLUddTIMES AeDUeDUBeHAeKAKeKUReLUMeMIeNUNeSALeSHIDeTABeU2eUBeUMeUReUSH",
  "dOVER SAGdGUNUcSALdLAGAB TIMES ASH2cSANGA2cSARcSHAcSHA3dTIMES AeBADeGISHeNEeSHU2eTUReUfPLUS A",
  "cSHA6cSHAB6cSHAR2cSHEdHUdOVER SHE GAD OVER GAD GAR OVER GARfTAB OVER TAB GAR OVER GARcSHEG9",
  "cSHENcSHESHcSHESH2cSHESHLAMcSHIDdTIMES AeIMcSHIMdTIMES AeBALeBULUGeDINeGAReIGIfGUNUeKUSHU2eLUL",
  "eMUGeSALcSHINIGcSHIRdTENUdOVER SHIR BUR OVER BURcSHITAcSHUdOVER INVERTED SHUcSHU2cSHUBURcSI",
  "dGUNUcSIGcSIG4dOVER SIG4 SHU2cSIK2cSILA3cSUdOVER SUcSUDcSUD2cSUHURcSUMcSUMASHcSURcSUR9cTA",
  "dASTERISKdTIMES HIeMIdGUNUcTABdOVER TAB NI OVER NI DISH OVER DISHdSQUAREDcTAGdTIMES BIeGUDeSHE",
  "eSHUeTUG2eUDcTAK4cTARcTEdGUNUcTIdTENUcTILcTIRdTIMES TAK4dOVER TIRfGAD OVER GAD GAR OVER GARcTU",
  "cTUG2cTUKcTUMcTURdOVER TUR ZA OVER ZAcUdGUDdU UdOVER U PA OVER PA GAR OVER GARfSUR OVER SUR",
  "fU REVERSED OVER U REVERSEDcU2cUBcUDdKUSHU2dTIMES BADeMIeU PLUS U PLUS UjGUNUdGUNUdSHESHIG",
  "eTIMES BADcUDUGcUMdTIMES LAGABeME PLUS DAeSHA3eUcUMBINcUMUMdTIMES KASKALePAcUNdGUNUcUR",
  "dCROSSING URdSHESHIGcUR2dTIMES A PLUS HAgNAeALeHAeNUNeU2fPLUS ASHgBIcUR4cURIcURI3cURUdTIMES A",
  "eASHGABeBAReDUNeGAeGALeGAN2 TENUeGAReGUeHAeIGIeIMeISHeKIeLUMeMINePAeSHEeSIG4eTUeU PLUS GUDeUD",
  "eURUDAcURUDAdTIMES UcUSHdTIMES AeKUeKUReTAK4cUSHXcUSH2cUSHUMXcUTUKIcUZ3dTIMES KASKALcUZUcZA",
  "dTENUdSQUARED TIMES KURcZAGcZAMXcZE2cZIdOVER ZIcZI3cZIBdKABA TENUcZIGcZIZ2cZUcZU5dTIMES A",
  "cZUBURcZUMcKAP ELAMITEcAB TIMES NUNcAB2 TIMES AcAMAR TIMES KUGcDAG KISIM5 TIMES U2 PLUS MASH",
  "cDAG3cDISH PLUS SHUcDUB TIMES SHEcEZEN TIMES GUDeSHEcGA2 TIMES AN PLUS KAK PLUS AeASH2cGE22",
  "cGIGcHUSHcKA TIMES ANSHEeASH3eGISHeGUDeHI TIMES ASH2eLUMePAeSHULeTUeUR2cLAGAB TIMES GI",
  "cLU2 SHESHIG TIMES BADdTIMES ESH2 PLUS LALeSHUcMESHcMUSH3 TIMES ZAcNA4cNINcNIN9",
  "cNINDA2 TIMES BALeGIcNU11 ROTATED NINETY DEGREEScPESH2 ASTERISKcPIR2cSAG TIMES IGI GUNUcTI2",
  "cUM TIMES MEcU U@12400bNUMERICs^ ASHd& ASHdFOUR ASHdFIVE ASHdSIX ASHdSEVEN ASHdEIGHT ASH",
  "dNINE ASHd& DISHdFOUR DISHdFIVE DISHdSIX DISHdSEVEN DISHdEIGHT DISHdNINE DISHdFOUR UdFIVE U",
  "dSIX UdSEVEN UdEIGHT UdNINE Ud| GESH2d^ GESH2d& GESH2dFOUR GESH2dFIVE GESH2dSIX GESH2",
  "dSEVEN GESH2dEIGHT GESH2dNINE GESH2d| GESHUd^ GESHUd& GESHUdFOUR GESHUdFIVE GESHUd^ SHAR2",
  "d& SHAR2fVARIANTqdFOUR SHAR2dFIVE SHAR2dSIX SHAR2dSEVEN SHAR2dEIGHT SHAR2dNINE SHAR2d| SHARU",
  "d^ SHARUd& SHARUfVARIANTqdFOUR SHARUdFIVE SHARUdSHAR2 TIMES GAL PLUS DISHhMINd| BURUd^ BURU",
  "d& BURUfVARIANTqdFOUR BURUdFIVE BURUd& VARIANTq ESH16gESH21dFOUR VARIANTq LIMMUgLIMMU4gLIMMU A",
  "hBdSIX VARIANTq ASH9dSEVEN VARIANTq IMIN3gIMIN AhBdEIGHT VARIANTq USSUgUSSU3",
  "dNINE VARIANTq ILIMMUgILIMMU3gILIMMU4gILIMMU Ad^ ASH TENUd& ASH TENUdFOUR ASH TENU",
  "dFIVE ASH TENUdSIX ASH TENUd| BAN2d^ BAN2d& BAN2dFOUR BAN2fVARIANTqdFIVE BAN2fVARIANTq",
  "dNIGIDAMINdNIGIDAESHd| ESHE3d^ ESHE3d| THIRD DISHd^ THIRDS DISHdFIVE SIXTHS DISH",
  "d| THIRD VARIANTq Ad^ THIRDS VARIANTq Ad| EIGHTH ASHeQUARTER ASHdOLD ASSYRIAN| SIXTHgQUARTER",
  "d| QUARTER GUReHALF GURdELAMITE| THIRDe^ THIRDSeFORTYeFIFTYdFOUR U VARIANTqdFIVE U VARIANTq",
  "dSIX U VARIANTqdSEVEN U VARIANTqdEIGHT U VARIANTqdNINE U VARIANTq",
  "@12470bPUNCTUATIONs OLD ASSYRIAN WORD DIVIDERd* COLONdDIAGONAL COLONeTRICOLONeQUADCOLON",
  "@12480bs AB TIMES NUN TENUeSHU2cAD TIMES ESH2cBAD TIMES DISH TENUcBAHAR2 TIMES AB2eNIeZA",
  "cBU OVER BU TIMES NA2cDA TIMES TAK4cDAG TIMES KURcDIM TIMES IGIeU U UcDIM2 TIMES UD",
  "cDUG TIMES ANSHEeASHfATxeDINeDUNeERIN2eGAeGIeGIR2 GUNUeGISHeHAeHIeIGI GUNUeKASKALeKUReKUSHU2",
  "fPLUS KASKALeLAK-020eLAMfTIMES KUReLUH PLUS GISHeMASHeMESeMIeNIePIeSHEeSI GUNUcE2 TIMES KUR",
  "ePAPcERIN2 XcESH2 CROSSING ESH2cEZEN SHESHIG TIMES ASHfHIfIGI GUNUfLAfLALfMEfMESfSUdTIMES SU",
  "cGA2 TIMES BAHAR2eDIM GUNUeDUG TIMES IGI GUNUgKASKALeERENeGAeGAR PLUS DIgNEeHA PLUS A",
  "eKUSHU2 PLUS KASKALeLAMfTIMES KUReLUHeMUSHeNEfPLUS E2gGIeSHIMeZIZ2cGABA ROTATED NINETY DEGREES",
  "cGESHTIN TIMES UcGISH TIMES GISH CROSSING GISHcGU2 TIMES IGI GUNUcGUD PLUS GISH TIMES TAK4",
  "cHA TENU GUNUcHI TIMES ASH OVER HI TIMES ASHcKA TIMES BUeKAeU U UeURcLAGAB TIMES ZU OVER ZU",
  "cLAK-003d-021d-025d-030d-050d-051d-062d-079 OVER LAK-079 GUNUd-080d-081 OVER LAK-081d-092d-130",
  "d-142d-210d-219d-220d-225d-228d-238d-265d-266d-343d-347d-348d-383d-384d-390d-441d-449eTIMES GU",
  "fIGIfPAP PLUS LU3hPAP PLUS LU3fU2 PLUS BAd-450d-457d-470d-483d-490d-492d-493d-495d-550d-608",
  "d-617eTIMES ASHfBADfDUN3 GUNU GUNUfKU3fLAfTARfTEfU2fUDfURUDAd-636d-648eTIMES DUBfGAfIGIgGUNU",
  "fNIfPAP PLUS PAP PLUS LU3fSHESH PLUS KIfUDfURUDAd-724d-749cLU2 GUNU TIMES ASHdTIMES DISHeHAL",
  "ePAPfPLUS PAP PLUS LU3eTAK4cMI PLUS ZA7cMUSH OVER MUSH TIMES GAgKAKcNINDA2 TIMES DIM GUNUeGISH",
  "eGULeHIeKESH2eLAK-050eMASHePAP PLUS PAPeUfPLUS UeURUDAcSAG GUNU TIMES HAdTIMES ENeSHE ATxeTAK4",
  "cSHA6 TENUcSHE OVER SHEdPLUS HUB2eNAM2eSARcSHU2 PLUS DUG TIMES NIeE2 TIMES ANcSI TIMES TAK4",
  "cTAK4 PLUS SAGcTUM TIMES GAN2 TENUe& DISHcUR2 INVERTEDdTIMES UDcURU TIMES DARA3eLAK-668eLU3",
  "cZA7cZU OVER ZU PLUS SARcZU5 TIMES& DISH TENU@12F90aCYPRO-MINOANs CM001dCM002dCM004dCM005",
  "dCM006dCM007dCM008dCM009dCM010dCM011dCM012dCM012BdCM013dCM015dCM017dCM019dCM021dCM023dCM024",
  "dCM025dCM026dCM027dCM028dCM029dCM030dCM033dCM034dCM035dCM036dCM037dCM038dCM039dCM040dCM041",
  "dCM044dCM046dCM047dCM049dCM050dCM051dCM052dCM053dCM054dCM055dCM056dCM058dCM059dCM060dCM061",
  "dCM062dCM063dCM064dCM066dCM067dCM068dCM069dCM070dCM071dCM072dCM073dCM074dCM075dCM075BdCM076",
  "dCM078dCM079dCM080dCM081dCM082dCM083dCM084dCM085dCM086dCM087dCM088dCM089dCM090dCM091dCM092",
  "dCM094dCM095dCM096dCM097dCM098dCM099dCM100dCM101dCM102dCM103dCM104dCM105dCM107dCM108dCM109",
  "dCM110dCM112dCM114dCM301dCM302@13000aEGYPTIAN HIEROGLYPH A001cA002cA003cA004cA005cA005AcA006",
  "cA006AcA006BcA007cA008cA009cA010cA011cA012cA013cA014cA014AcA015cA016cA017cA017AcA018cA019cA020",
  "cA021cA022cA023cA024cA025cA026cA027cA028cA029cA030cA031cA032cA032AcA033cA034cA035cA036cA037",
  "cA038cA039cA040cA040AcA041cA042cA042AcA043cA043AcA044cA045cA045AcA046cA047cA048cA049cA050cA051",
  "cA052cA053cA054cA055cA056cA057cA058cA059cA060cA061cA062cA063cA064cA065cA066cA067cA068cA069",
  "cA070cB001cB002cB003cB004cB005cB005AcB006cB007cB008cB009cC001cC002cC002AcC002BcC002CcC003cC004",
  "cC005cC006cC007cC008cC009cC010cC010AcC011cC012cC013cC014cC015cC016cC017cC018cC019cC020cC021",
  "cC022cC023cC024cD001cD002cD003cD004cD005cD006cD007cD008cD008AcD009cD010cD011cD012cD013cD014",
  "cD015cD016cD017cD018cD019cD020cD021cD022cD023cD024cD025cD026cD027cD027AcD028cD029cD030cD031",
  "cD031AcD032cD033cD034cD034AcD035cD036cD037cD038cD039cD040cD041cD042cD043cD044cD045cD046cD046A",
  "cD047cD048cD048AcD049cD050cD050AcD050BcD050CcD050DcD050EcD050FcD050GcD050HcD050IcD051cD052",
  "cD052AcD053cD054cD054AcD055cD056cD057cD058cD059cD060cD061cD062cD063cD064cD065cD066cD067cD067A",
  "cD067BcD067CcD067DcD067EcD067FcD067GcD067HcE001cE002cE003cE004cE005cE006cE007cE008cE008AcE009",
  "cE009AcE010cE011cE012cE013cE014cE015cE016cE016AcE017cE017AcE018cE019cE020cE020AcE021cE022cE023",
  "cE024cE025cE026cE027cE028cE028AcE029cE030cE031cE032cE033cE034cE034AcE036cE037cE038cF001cF001A",
  "cF002cF003cF004cF005cF006cF007cF008cF009cF010cF011cF012cF013cF013AcF014cF015cF016cF017cF018",
  "cF019cF020cF021cF021AcF022cF023cF024cF025cF026cF027cF028cF029cF030cF031cF031AcF032cF033cF034",
  "cF035cF036cF037cF037AcF038cF038AcF039cF040cF041cF042cF043cF044cF045cF045AcF046cF046AcF047",
  "cF047AcF048cF049cF050cF051cF051AcF051BcF051CcF052cF053cG001cG002cG003cG004cG005cG006cG006A",
  "cG007cG007AcG007BcG008cG009cG010cG011cG011AcG012cG013cG014cG015cG016cG017cG018cG019cG020cG020A",
  "cG021cG022cG023cG024cG025cG026cG026AcG027cG028cG029cG030cG031cG032cG033cG034cG035cG036cG036A",
  "cG037cG037AcG038cG039cG040cG041cG042cG043cG043AcG044cG045cG045AcG046cG047cG048cG049cG050cG051",
  "cG052cG053cG054cH001cH002cH003cH004cH005cH006cH006AcH007cH008cI001cI002cI003cI004cI005cI005A",
  "cI006cI007cI008cI009cI009AcI010cI010AcI011cI011AcI012cI013cI014cI015cK001cK002cK003cK004cK005",
  "cK006cK007cK008cL001cL002cL002AcL003cL004cL005cL006cL006AcL007cL008cM001cM001AcM001BcM002cM003",
  "cM003AcM004cM005cM006cM007cM008cM009cM010cM010AcM011cM012cM012AcM012BcM012CcM012DcM012EcM012F",
  "cM012GcM012HcM013cM014cM015cM015AcM016cM016AcM017cM017AcM018cM019cM020cM021cM022cM022AcM023",
  "cM024cM024AcM025cM026cM027cM028cM028AcM029cM030cM031cM031AcM032cM033cM033AcM033BcM034cM035",
  "cM036cM037cM038cM039cM040cM040AcM041cM042cM043cM044cN001cN002cN003cN004cN005cN006cN007cN008",
  "cN009cN010cN011cN012cN013cN014cN015cN016cN017cN018cN018AcN018BcN019cN020cN021cN022cN023cN024",
  "cN025cN025AcN026cN027cN028cN029cN030cN031cN032cN033cN033AcN034cN034AcN035cN035AcN036cN037",
  "cN037AcN038cN039cN040cN041cN042cNL001cNL002cNL003cNL004cNL005cNL005AcNL006cNL007cNL008cNL009",
  "cNL010cNL011cNL012cNL013cNL014cNL015cNL016cNL017cNL017AcNL018cNL019cNL020cNU001cNU002cNU003",
  "cNU004cNU005cNU006cNU007cNU008cNU009cNU010cNU010AcNU011cNU011AcNU012cNU013cNU014cNU015cNU016",
  "cNU017cNU018cNU018AcNU019cNU020cNU021cNU022cNU022AcO001cO001AcO002cO003cO004cO005cO005AcO006",
  "cO006AcO006BcO006CcO006DcO006EcO006FcO007cO008cO009cO010cO010AcO010BcO010CcO011cO012cO013cO014",
  "cO015cO016cO017cO018cO019cO019AcO020cO020AcO021cO022cO023cO024cO024AcO025cO025AcO026cO027cO028",
  "cO029cO029AcO030cO030AcO031cO032cO033cO033AcO034cO035cO036cO036AcO036BcO036CcO036DcO037cO038",
  "cO039cO040cO041cO042cO043cO044cO045cO046cO047cO048cO049cO050cO050AcO050BcO051cP001cP001AcP002",
  "cP003cP003AcP004cP005cP006cP007cP008cP009cP010cP011cQ001cQ002cQ003cQ004cQ005cQ006cQ007cR001",
  "cR002cR002AcR003cR003AcR003BcR004cR005cR006cR007cR008cR009cR010cR010AcR011cR012cR013cR014cR015",
  "cR016cR016AcR017cR018cR019cR020cR021cR022cR023cR024cR025cR026cR027cR028cR029cS001cS002cS002A",
  "cS003cS004cS005cS006cS006AcS007cS008cS009cS010cS011cS012cS013cS014cS014AcS014BcS015cS016cS017",
  "cS017AcS018cS019cS020cS021cS022cS023cS024cS025cS026cS026AcS026BcS027cS028cS029cS030cS031cS032",
  "cS033cS034cS035cS035AcS036cS037cS038cS039cS040cS041cS042cS043cS044cS045cS046cT001cT002cT003",
  "cT003AcT004cT005cT006cT007cT007AcT008cT008AcT009cT009AcT010cT011cT011AcT012cT013cT014cT015",
  "cT016cT016AcT017cT018cT019cT020cT021cT022cT023cT024cT025cT026cT027cT028cT029cT030cT031cT032",
  "cT032AcT033cT033AcT034cT035cT036cU001cU002cU003cU004cU005cU006cU006AcU006BcU007cU008cU009cU010",
  "cU011cU012cU013cU014cU015cU016cU017cU018cU019cU020cU021cU022cU023cU023AcU024cU025cU026cU027",
  "cU028cU029cU029AcU030cU031cU032cU032AcU033cU034cU035cU036cU037cU038cU039cU040cU041cU042cV001",
  "cV001AcV001BcV001CcV001DcV001EcV001FcV001GcV001HcV001IcV002cV002AcV003cV004cV005cV006cV007",
  "cV007AcV007BcV008cV009cV010cV011cV011AcV011BcV011CcV012cV012AcV012BcV013cV014cV015cV016cV017",
  "cV018cV019cV020cV020AcV020BcV020CcV020DcV020EcV020FcV020GcV020HcV020IcV020JcV020KcV020LcV021",
  "cV022cV023cV023AcV024cV025cV026cV027cV028cV028AcV029cV029AcV030cV030AcV031cV031AcV032cV033",
  "cV033AcV034cV035cV036cV037cV037AcV038cV039cV040cV040AcW001cW002cW003cW003AcW004cW005cW006cW007",
  "cW008cW009cW009AcW010cW010AcW011cW012cW013cW014cW014AcW015cW016cW017cW017AcW018cW018AcW019",
  "cW020cW021cW022cW023cW024cW024AcW025cX001cX002cX003cX004cX004AcX004BcX005cX006cX006AcX007cX008",
  "cX008AcY001cY001AcY002cY003cY004cY005cY006cY007cY008cZ001cZ002cZ002AcZ002BcZ002CcZ002DcZ003",
  "cZ003AcZ003BcZ004cZ004AcZ005cZ005AcZ006cZ007cZ008cZ009cZ010cZ011cZ012cZ013cZ014cZ015cZ015A",
  "cZ015BcZ015CcZ015DcZ015EcZ015FcZ015GcZ015HcZ015IcZ016cZ016AcZ016BcZ016CcZ016DcZ016EcZ016F",
  "cZ016GcZ016HcAA001cAA002cAA003cAA004cAA005cAA006cAA007cAA007AcAA007BcAA008cAA009cAA010cAA011",
  "cAA012cAA013cAA014cAA015cAA016cAA017cAA018cAA019cAA020cAA021cAA022cAA023cAA024cAA025cAA026",
  "cAA027cAA028cAA029cAA030cAA031cAA032@13430c* JOINERc[ JOINERcINSERT AT TOP STARTeBOTTOM START",
  "eTOP ENDeBOTTOM ENDcOVERLAY]cBEGIN SEGMENTcEND SEGMENT@14400aANATOLIAN HIEROGLYPH A001cA002",
  "cA003cA004cA005cA006cA007cA008cA009cA010cA010AcA011cA012cA013cA014cA015cA016cA017cA018cA019",
  "cA020cA021cA022cA023cA024cA025cA026cA026AcA027cA028cA029cA030cA031cA032cA033cA034cA035cA036",
  "cA037cA038cA039cA039AcA040cA041cA041AcA042cA043cA044cA045cA045AcA046cA046AcA046BcA047cA048",
  "cA049cA050cA051cA052cA053cA054cA055cA056cA057cA058cA059cA060cA061cA062cA063cA064cA065cA066",
  "cA066AcA066BcA066CcA067cA068cA069cA070cA071cA072cA073cA074cA075cA076cA077cA078cA079cA080cA081",
  "cA082cA083cA084cA085cA086cA087cA088cA089cA090cA091cA092cA093cA094cA095cA096cA097cA097AcA098",
  "cA098AcA099cA100cA100AcA101cA101AcA102cA102AcA103cA104cA104AcA104BcA104CcA105cA105AcA105BcA106",
  "cA107cA107AcA107BcA107CcA108cA109cA110cA110AcA110BcA111cA112cA113cA114cA115cA115AcA116cA117",
  "cA118cA119cA120cA121cA122cA123cA124cA125cA125AcA126cA127cA128cA129cA130cA131cA132cA133cA134",
  "cA135cA135AcA136cA137cA138cA139cA140cA141cA142cA143cA144cA145cA146cA147cA148cA149cA150cA151",
  "cA152cA153cA154cA155cA156cA157cA158cA159cA160cA161cA162cA163cA164cA165cA166cA167cA168cA169",
  "cA170cA171cA172cA173cA174cA175cA176cA177cA178cA179cA180cA181cA182cA183cA184cA185cA186cA187",
  "cA188cA189cA190cA191cA192cA193cA194cA195cA196cA197cA198cA199cA200cA201cA202cA202AcA202BcA203",
  "cA204cA205cA206cA207cA207AcA208cA209cA209AcA210cA211cA212cA213cA214cA215cA215AcA216cA216AcA217",
  "cA218cA219cA220cA221cA222cA223cA224cA225cA226cA227cA227AcA228cA229cA230cA231cA232cA233cA234",
  "cA235cA236cA237cA238cA239cA240cA241cA242cA243cA244cA245cA246cA247cA248cA249cA250cA251cA252",
  "cA253cA254cA255cA256cA257cA258cA259cA260cA261cA262cA263cA264cA265cA266cA267cA267AcA268cA269",
  "cA270cA271cA272cA273cA274cA275cA276cA277cA278cA279cA280cA281cA282cA283cA284cA285cA286cA287",
  "cA288cA289cA289AcA290cA291cA292cA293cA294cA294AcA295cA296cA297cA298cA299cA299AcA300cA301cA302",
  "cA303cA304cA305cA306cA307cA308cA309cA309AcA310cA311cA312cA313cA314cA315cA316cA317cA318cA319",
  "cA320cA321cA322cA323cA324cA325cA326cA327cA328cA329cA329AcA330cA331cA332AcA332BcA332CcA333cA334",
  "cA335cA336cA336AcA336BcA336CcA337cA338cA339cA340cA341cA342cA343cA344cA345cA346cA347cA348cA349",
  "cA350cA351cA352cA353cA354cA355cA356cA357cA358cA359cA359AcA360cA361cA362cA363cA364cA364AcA365",
  "cA366cA367cA368cA368AcA369cA370cA371cA371AcA372cA373cA374cA375cA376cA377cA378cA379cA380cA381",
  "cA381AcA382cA383 RA OR RIcA383AcA384cA385cA386cA386AcA387cA388cA389cA390cA391cA392cA393 EIGHT",
  "cA394cA395cA396cA397cA398cA399cA400cA401cA402cA403cA404cA405cA406cA407cA408cA409",
  "cA410 BEGIN LOGOGRAM>cA410A END LOGOGRAM>cA411cA412cA413cA414cA415cA416cA417cA418cA419cA420",
  "cA421cA422cA423cA424cA425cA426cA427cA428cA429cA430cA431cA432cA433cA434cA435cA436cA437cA438",
  "cA439cA440cA441cA442cA443cA444cA445cA446cA447cA448cA449cA450cA450AcA451cA452cA453cA454cA455",
  "cA456cA457cA457AcA458cA459cA460cA461cA462cA463cA464cA465cA466cA467cA468cA469cA470cA471cA472",
  "cA473cA474cA475cA476cA477cA478cA479cA480cA481cA482cA483cA484cA485cA486cA487cA488cA489cA490",
  "cA491cA492cA493cA494cA495cA496cA497cA501cA502cA503cA504cA505cA506cA507cA508cA509cA510cA511",
  "cA512cA513cA514cA515cA516cA517cA518cA519cA520cA521cA522cA523cA524cA525cA526cA527cA528cA529",
  "cA530@16800aBAMUMm PHASE-A NGKUE MFONeGBIEE FONePON MFON PIPAEMGBIEEgPIPAEMBAeNAA MFON",
  "eSHUENSHUETeTITA MFONeNZA MFONeSHINDA PA NJIePON PA NJI PIPAEMGBIEEhPIPAEMBAeMAEMBGBIEE",
  "eTU MAEMBAeNGANGUeMAEMVEUXeMANSUAEeMVEUAENGAMeSEUNYAMeNTOQPENeKEUKEUTNDAeNKINDIeSUUeNGKUENZEUM",
  "eLAPAQeLET KUTeNTAP MFAAeMAEKEUPePASHAEeGHEUAERAEePAMSHAEeMON NGGEUAETeNZUN MEUTeU YUQ NAE",
  "eGHEUAEGHEUAEeNTAP NTAAeSISAeMGBASAeMEUNJOMNDEUQeMOOMPUQeKAFAePA LEERAEWAeNDA LEERAEWAePET",
  "eMAEMKPENeNIKAePUPeTUAEPeLUAEPeSONJAMeTEUTEUWENeMAENYIeKETeNDAANGGEUAETeKUOQeMOOMEUTeSHUM",
  "eLOMMAEeFIRIeROMeKPOQeSOQeMAP PIEETeSHIRAEeNTAPeSHOQ NSHUT YUMeNYIT MONGKEUAEQePAARAEeNKAARAE",
  "eUNKNOWNeNGGENeMAESIeNJAMeMBANYIeNYETeTEUAENeSOTePAAMeNSHIEEeMAEMeNYIeKAQeNSHAeVEEeLUeNENeNAQ",
  "eMBAQd-B NSHUETeTU MAEMGBIEEeSIEEeSET TUeLOM NTEUMeMBA MAELEEeKIEEMeYEURAEeMBAARAEeKAMePEESHI",
  "eYAFU LEERAEWAeLAM NSHUT NYAMeNTIEE SHEUOQeNDU NJAAeGHEUGHEUAEMePITeTU NSIEEeSHET NJAQ",
  "eSHEUAEQTUeMFON TEUAEQeMBIT MBAAKETeNYI NTEUMeKEUPUQeGHEUGHENeKEUYEUXeLAANAEePARUMeVEUM",
  "eNGKINDI MVOPeNGGEU MBUeWUAETeSAKEUAEeTAAMeMEUQeNGGUOQfLARGEeMFIYAQeSUEeMBEURIeMONTIEEN",
  "eNYAEMAEePUNGAAMeMEUT NGGEETeFEUXeMBUOQeFEEeKEUAEMeMA NJEUAENAfNJUQAeLETeNGGAAMeNSENeMAeKIQ",
  "eNGOMd-C NGKUE MAEMBAeNZAeYUMeWANGKUOQeNGGENeNDEUAEREEeNGKAQeGHARAEeMBEEKEETeGBAYI",
  "eNYIR MKPARAQ MEUNeNTU MBITeMBEUMePIRIEENeNDOMBUeMBAA CABBAGE-TREEeKEUSHEUAEPeGHAPeKEUKAQ",
  "eYU MUOMAEeNZEUMeMBUEeNSEUAENeMBITeYEUQeKPARAQeKAAeSEUXeNDIDAeTAASHAEeNJUEQeTITA YUEeSUAET",
  "eNGGUAEN NYAMeVEUXeNANSANAQeMA KEUAERIeNTAAeNGGUONeLAPeMBIRIEENeMGBASAQeNTEUNGBAeTEUTEUXeNGGUM",
  "eFUEeNDEUTeNSAeNSHAQeBUNGeVEUAEPENeMBERAEeRUeNJAEMeLAMeTITUAEPeNSUOT NGOMeNJEEEEeKETeNGGU",
  "eMAESIeMBUAEMeLUeKUTeNJAMeNGOMeWUPeNGGUEETeNSOMeNTENeKUOP NKAARAEeNSUNeNDAMeMA NSIEEeYAAeNDAP",
  "eSHUEQeSETFONeMBIeMAEMBAeMBANYIeKEUSEUXeMBEUXeKEUMeMBAA PICKETeYUWOQeNJEUXeMIEEeMUAEeSHIQ",
  "eKEN LAWfFATIGUEeNGAQeNAQeLIQePINePENeTETd-D MBUOeWAPeNJIeMFONeNJIEEeLIEEeNJEUTeNSHEEeNGGAAMAE",
  "eNYAMeWUAENeNGKUNeSHEEeNGKAPeKEUAETMEUNeTEUTeSHEUAEeNJAPeSUEeKETeYAEMMAEeKUOMeSAPeMFEUTeNDEUX",
  "eMALEERIeMEUTeSEUAEQeYENeNJEUAEMeKEUOT MBUAEeNGKEURIeTUeGHAAeNGKYEEeFEUFEUAETeNDEEeMGBOFUM",
  "eLEUAEPeNDONeMONIeMGBEUNePUUTeMGBIEEeMFOeLUMeNSIEEPeMBAAeKWAETeNYETeTEUAENeSOTeYUWOQeKEUMeRAEM",
  "eTEEEEeNGKEUAEQeMFEUAEeNSIEETeKEUPePIPePEUTAEeNYUEeLETeNGGAAMeMFIEEeNGGWAENeYUOMePAPeYUOPeNDAM",
  "eNTEUMeSUAEeKUNeNGGEUXeNGKIEEeTUOTeMEUNeKUQeNSUMeTEUNeMAENJETeNGGAPeLEUMeNGGUOMeNSHUTeNJUEQ",
  "eGHEUAEeKUeREN OLDeTAEeTOQeNYIeRIIeLEEEEeMEEEEeMeSUUeMUeSHIIeSHEUXeKYEEeNUeSHUeNTEEePEEeNI",
  "eSHOQePUQeMVOPeLOQeREN MUCHeTIeNTUUeMBAA SEVENeSAQeFAAd-E NDAPeTOONeMBEUMeLAPeVOMeLOONePAAeSOM",
  "eRAQeNSHUOPeNDUNePUAEeTAMeNGKAeKPEUXeWUOeSEEeNGGEUAETePAAMeTOOeKUOPeLOMeNSHIEEeNGOPeMAEM",
  "eNGKEUXeNGOQeNSHUEeRIMGBAeNJEUXePEEMeSAAeNGGURAEeMGBAeGHEUXeNGKEUAEMeNJAEMLIeMAPeLOOTeNGGEEEE",
  "eNDIQeTAEN NTEUMeSETePUMeNDAA SOFTNESSeNGGUAESHAE NYAMeYIEEeGHEUNeTUAEeYEUAEePOeTUMAEeKEUAE",
  "eSUAENeTEUAEQeVEUAEeWEUXeLAAMePUeTAAQeGHAAMAEeNGEUREUTeSHEUAEQeMGBENeMBEEeNZAQeNKOMeGBETeTUM",
  "eKUETeYAPeNYI CLEAVEReYITeMFEUQeNDIAQePIEEQeYUEQeLEUAEMeFUEeGBEUXeNGKUPeKETeMAEeNGKAAMIeGHET",
  "eFAeNTUMePEUTeYEUMeNGGEUAEeNYI BETWEENeNZUQePOONeMIEEeFUETeNAEeMUAEeGHEUAEeFU IeMVIePUAQeNGKUM",
  "eKUTePIETeNTAPeYEUAETeNGGUPePA PEOPLEeFU CALLeFOMeNJEEeAeTOQeOeIeLAQePA PLURALeTAAeTAQ",
  "eNDAA MY HOUSEeSHIQeYEUXeNGUAEeYUAENeYOQ SWIMMINGfCOVEReYUQeYUNeKEUXePEUXeNJEE EPOCHePUEeWUE",
  "eFEEeVEEeLUeMIeREUXeRAEeNGUAETeNGAeSHOeSHOQeFU REMEDYeNAePIeLOQeKOeMENeMAeMAQeTEUeKIeMONeTEN",
  "eFAQeGHOMd-F KAeUeKUeEEeREEeTAEeNYIeLAeRIIeRIEEeMEEEEeTAAeNDAAeNJAEMeMeSUUeSHIIeSIeSEUXeKYEE",
  "eKETeNUAEeNUeNJUAEeYOQeSHUeYAeNSHAePEUXeNTEEeWUEePEEeRUeNIeREUXeKENeNGKWAENeNGGAeSHOePUAEeFOM",
  "eWAeLIeLOQeKOeMBENeRENeMAeMOeMBAAeTETeKPAeSAMBAeVUEQ@16A40aMROm TAcNGIcYOcMIMcBAcDAcAcPHIcKHAI",
  "cHAOcDAIcCHUcKEAAEcOLcMAEMcNINcPAcOOcOcROcSHIcTHEAcEAcWAcEcKOcLANcLAcHAIcRIcTEK",
  "@16A60bDIGIT ZEROc|c^c&cFOURcFIVEcSIXcSEVENcEIGHTcNINE@16A6EbDANDAbv DANDAaTANGSAm OZcOCcOQcOX",
  "cAZcACcAQcAXcVZcVCcVQcVXcEZcECcEQcEXcIZcICcIQcIXcUZcUCcUQcUXcAWZcAWCcAWQcAWXcUIZcUICcUIQcUIX",
  "c$ NGcLONG UEXcSHORT UEZdAWXcUECcUEZcUEQcUEXcUIUZcUIUCcUIUQcUIUXcMZcMCcMQcMXcKAcKHAcGAcNGAcSA",
  "cYAcWAcPAcNYAcPHAcBAcMAcNAcHAcLAcHTAcTAcDAcRAcNHAcSHAcCAcTSAcGHAcHTTAcTHAcXAcFAcDHAcCHAcZA",
  "@16AC0bDIGIT ZEROc|c^c&cFOURcFIVEcSIXcSEVENcEIGHTcNINE@16AD0aBASSA VAHm ENNIdKAdSEdFAdMBEdYIE",
  "dGAHdDHIIdKPAHdJOdHWAHdWAdZOdGBUdDOdCEdUWUdTOdBAdVUdYEINdPAdWADDAdAdOdOOdUdEEdEdI",
  "@16AF0cCOMBINING HIGH TONEdLOW TONEdMID TONEdLOW-MID TONEdHIGH-LOW TONEcFULL STOP",
  "@16B00aPAHAWH HMONG VOWEL KEEBdKEEVdKIBdKIVdKAUBdKAUVdKUBdKUVdKEBdKEVdKAIBdKAIVdKOOBdKOOVdKAWB",
  "dKAWVdKUABdKUAVdKOBdKOVdKIABdKIAVdKABdKAVdKWBdKWVdKAABdKAAVcCONSONANT VAUdNTSAUdLAUdHAUdNLAU",
  "dRAUdNKAUdQHAUdYAUdHLAUdMAUdCHAUdNCHAUdHNAUdPLHAUdNTHAUdNAUdAUdXAUdCAUc> CIM TUBeSOeKESeKHAV",
  "eSUAMeHOMeTAUMcs VOS THOMeTSHAB CEEBdCIM CHEEMdVOS THIABeFEEMdXYEEM NTXIVeRHOeTOVeFAIB",
  "dVOS SEEVdMEEJ SUABdVOS NRUAdIB YAMdXAUSdCIM TSOV ROG@16B50cDIGIT ZEROd|d^d&dFOURdFIVEdSIX",
  "dSEVENdEIGHTdNINE@16B5BcNUMBER TENSdHUNDREDSdTEN THOUSANDSdMILLIONSd_ MILLIONSdTEN BILLIONS",
  "dTRILLIONS@16B63cs VOS LUBdXYOOdHLIdTHIRD-STAGE HLIdZWJ THAJdHNUBdNQIGdXIABdNTUJdAV",
  "dTXHEEJ CEEVdMEEJ TSEEBdTAUdLOSdMUSdCIM HAIS LUS NTOG NTOGeCUAM TSHOOJeTXWVfCHWVePUB DAWB",
  "eNRES TOS@16B7DcCLANs TSHEEJeYEEGeLISeLAUJeXYOOJeKOOeHAWJeMUASeTHOJeTSABePHABeKHABeHAMeVAJeFAJ",
  "eYAJeTSWBeKWMeVWJ@16E40aMEDEFAIDRINom MdSdVdWdATIUdZdKPdPdTdGdFdIdKdAdJdEdBdCdUdYUdLdQdHPdNYdX",
  "dDdOEdNdRdOdAIdYbpm MdSdVdWdATIUdZdKPdPdTdGdFdIdKdAdJdEdBdCdUdYUdLdQdHPdNYdXdDdOEdNdRdOdAIdY",
  "bDIGIT ZEROc|c^c&cFOURcFIVEcSIXcSEVENcEIGHTcNINEbNUMBER TENcELEVENcTWELVEcTHIRTEENcFOURTEEN",
  "cFIFTEENcSIXTEENcSEVENTEENcEIGHTEENcNINETEENbDIGIT| ALTERNATEqc^ ALTERNATEqc& ALTERNATEqbCOMMA",
  "bFULL STOPb; AIVAbEXCLAMATION OH@16F00aMIAOm PAcBAcYI PAcPLAcMAcMHAcARCHAIC MAcFAcVAcVFAcTAcDA",
  "cYI TTAdTAcTTAcDDAcNAcNHAcYI NNAcARCHAIC NAcNNAcNNHAcLAcLYAcLHAcLHYAcTLHAcDLHAcTLHYAcDLHYAcKA",
  "cGAcYI KAcQAcQGAcNGAcNGHAcARCHAIC NGAcHAcXAcGHAcGHHAcTSSAcDZZAcNYAcNYHAcTSHAcDZHAcYI TSHAdDZHA",
  "cREFORMED TSHAcSHAcSSAcZHAcZSHAcTSAcDZAcYI TSAcSAcZAcZSAcZZAcZZSAcARCHAIC ZZAcZZYAcZZSYAcWAcAH",
  "cHHAcBRIcSYIcDZYIcTEcTSEcRTE@16F4Fbs CONSONANT MODIFIER BARbm NASALIZATIONbs ASPIRATION",
  "cREFORMED VOICINGdASPIRATIONbVOWELs AdAAdAHHdANdANGdOdOOdWOdWdEdENdENGdOEYdIdIAdIANdIANGdIOdIE",
  "dIIdIUdINGdUdUAdUANdUANGdUUdUEIdUNGdYdYIdAEdAEEdERRdROUNDED ERRdERdROUNDED ERdAIdEIdAUdOUdNdNG",
  "dUOGdYUIdOGdOERdVWdIGdEAdIONGdUI@16F8FbTONEtcTOPtcuc!bm TONE-2d-3d-4d-5d-6d-7d-8",
  "cREFORMED TONE-1e-2e-4e-5e-6e-8@16FE0aTANGUT ITERATION>aNUSHU ITERATION>aOLD CHINESE HOOK>",
  "cITERATION>aKHITANp SCRIPT FILLER@16FF0aVIETNAMESE ALTERNATE READING> CAeNHAY",
  "@18800aTANGUT COMPONENT-001c-002c-003c-004c-005c-006c-007c-008c-009c-010c-011c-012c-013c-014",
  "c-015c-016c-017c-018c-019c-020c-021c-022c-023c-024c-025c-026c-027c-028c-029c-030c-031c-032",
  "c-033c-034c-035c-036c-037c-038c-039c-040c-041c-042c-043c-044c-045c-046c-047c-048c-049c-050",
  "c-051c-052c-053c-054c-055c-056c-057c-058c-059c-060c-061c-062c-063c-064c-065c-066c-067c-068",
  "c-069c-070c-071c-072c-073c-074c-075c-076c-077c-078c-079c-080c-081c-082c-083c-084c-085c-086",
  "c-087c-088c-089c-090c-091c-092c-093c-094c-095c-096c-097c-098c-099c-100c-101c-102c-103c-104",
  "c-105c-106c-107c-108c-109c-110c-111c-112c-113c-114c-115c-116c-117c-118c-119c-120c-121c-122",
  "c-123c-124c-125c-126c-127c-128c-129c-130c-131c-132c-133c-134c-135c-136c-137c-138c-139c-140",
  "c-141c-142c-143c-144c-145c-146c-147c-148c-149c-150c-151c-152c-153c-154c-155c-156c-157c-158",
  "c-159c-160c-161c-162c-163c-164c-165c-166c-167c-168c-169c-170c-171c-172c-173c-174c-175c-176",
  "c-177c-178c-179c-180c-181c-182c-183c-184c-185c-186c-187c-188c-189c-190c-191c-192c-193c-194",
  "c-195c-196c-197c-198c-199c-200c-201c-202c-203c-204c-205c-206c-207c-208c-209c-210c-211c-212",
  "c-213c-214c-215c-216c-217c-218c-219c-220c-221c-222c-223c-224c-225c-226c-227c-228c-229c-230",
  "c-231c-232c-233c-234c-235c-236c-237c-238c-239c-240c-241c-242c-243c-244c-245c-246c-247c-248",
  "c-249c-250c-251c-252c-253c-254c-255c-256c-257c-258c-259c-260c-261c-262c-263c-264c-265c-266",
  "c-267c-268c-269c-270c-271c-272c-273c-274c-275c-276c-277c-278c-279c-280c-281c-282c-283c-284",
  "c-285c-286c-287c-288c-289c-290c-291c-292c-293c-294c-295c-296c-297c-298c-299c-300c-301c-302",
  "c-303c-304c-305c-306c-307c-308c-309c-310c-311c-312c-313c-314c-315c-316c-317c-318c-319c-320",
  "c-321c-322c-323c-324c-325c-326c-327c-328c-329c-330c-331c-332c-333c-334c-335c-336c-337c-338",
  "c-339c-340c-341c-342c-343c-344c-345c-346c-347c-348c-349c-350c-351c-352c-353c-354c-355c-356",
  "c-357c-358c-359c-360c-361c-362c-363c-364c-365c-366c-367c-368c-369c-370c-371c-372c-373c-374",
  "c-375c-376c-377c-378c-379c-380c-381c-382c-383c-384c-385c-386c-387c-388c-389c-390c-391c-392",
  "c-393c-394c-395c-396c-397c-398c-399c-400c-401c-402c-403c-404c-405c-406c-407c-408c-409c-410",
  "c-411c-412c-413c-414c-415c-416c-417c-418c-419c-420c-421c-422c-423c-424c-425c-426c-427c-428",
  "c-429c-430c-431c-432c-433c-434c-435c-436c-437c-438c-439c-440c-441c-442c-443c-444c-445c-446",
  "c-447c-448c-449c-450c-451c-452c-453c-454c-455c-456c-457c-458c-459c-460c-461c-462c-463c-464",
  "c-465c-466c-467c-468c-469c-470c-471c-472c-473c-474c-475c-476c-477c-478c-479c-480c-481c-482",
  "c-483c-484c-485c-486c-487c-488c-489c-490c-491c-492c-493c-494c-495c-496c-497c-498c-499c-500",
  "c-501c-502c-503c-504c-505c-506c-507c-508c-509c-510c-511c-512c-513c-514c-515c-516c-517c-518",
  "c-519c-520c-521c-522c-523c-524c-525c-526c-527c-528c-529c-530c-531c-532c-533c-534c-535c-536",
  "c-537c-538c-539c-540c-541c-542c-543c-544c-545c-546c-547c-548c-549c-550c-551c-552c-553c-554",
  "c-555c-556c-557c-558c-559c-560c-561c-562c-563c-564c-565c-566c-567c-568c-569c-570c-571c-572",
  "c-573c-574c-575c-576c-577c-578c-579c-580c-581c-582c-583c-584c-585c-586c-587c-588c-589c-590",
  "c-591c-592c-593c-594c-595c-596c-597c-598c-599c-600c-601c-602c-603c-604c-605c-606c-607c-608",
  "c-609c-610c-611c-612c-613c-614c-615c-616c-617c-618c-619c-620c-621c-622c-623c-624c-625c-626",
  "c-627c-628c-629c-630c-631c-632c-633c-634c-635c-636c-637c-638c-639c-640c-641c-642c-643c-644",
  "c-645c-646c-647c-648c-649c-650c-651c-652c-653c-654c-655c-656c-657c-658c-659c-660c-661c-662",
  "c-663c-664c-665c-666c-667c-668c-669c-670c-671c-672c-673c-674c-675c-676c-677c-678c-679c-680",
  "c-681c-682c-683c-684c-685c-686c-687c-688c-689c-690c-691c-692c-693c-694c-695c-696c-697c-698",
  "c-699c-700c-701c-702c-703c-704c-705c-706c-707c-708c-709c-710c-711c-712c-713c-714c-715c-716",
  "c-717c-718c-719c-720c-721c-722c-723c-724c-725c-726c-727c-728c-729c-730c-731c-732c-733c-734",
  "c-735c-736c-737c-738c-739c-740c-741c-742c-743c-744c-745c-746c-747c-748c-749c-750c-751c-752",
  "c-753c-754c-755c-756c-757c-758c-759c-760c-761c-762c-763c-764c-765c-766c-767c-768",
  "aKHITANp SCRIPT CHARACTER-18B00e-18B01e-18B02e-18B03e-18B04e-18B05e-18B06e-18B07e-18B08e-18B09",
  "e-18B0Ae-18B0Be-18B0Ce-18B0De-18B0Ee-18B0Fe-18B10e-18B11e-18B12e-18B13e-18B14e-18B15e-18B16",
  "e-18B17e-18B18e-18B19e-18B1Ae-18B1Be-18B1Ce-18B1De-18B1Ee-18B1Fe-18B20e-18B21e-18B22e-18B23",
  "e-18B24e-18B25e-18B26e-18B27e-18B28e-18B29e-18B2Ae-18B2Be-18B2Ce-18B2De-18B2Ee-18B2Fe-18B30",
  "e-18B31e-18B32e-18B33e-18B34e-18B35e-18B36e-18B37e-18B38e-18B39e-18B3Ae-18B3Be-18B3Ce-18B3D",
  "e-18B3Ee-18B3Fe-18B40e-18B41e-18B42e-18B43e-18B44e-18B45e-18B46e-18B47e-18B48e-18B49e-18B4A",
  "e-18B4Be-18B4Ce-18B4De-18B4Ee-18B4Fe-18B50e-18B51e-18B52e-18B53e-18B54e-18B55e-18B56e-18B57",
  "e-18B58e-18B59e-18B5Ae-18B5Be-18B5Ce-18B5De-18B5Ee-18B5Fe-18B60e-18B61e-18B62e-18B63e-18B64",
  "e-18B65e-18B66e-18B67e-18B68e-18B69e-18B6Ae-18B6Be-18B6Ce-18B6De-18B6Ee-18B6Fe-18B70e-18B71",
  "e-18B72e-18B73e-18B74e-18B75e-18B76e-18B77e-18B78e-18B79e-18B7Ae-18B7Be-18B7Ce-18B7De-18B7E",
  "e-18B7Fe-18B80e-18B81e-18B82e-18B83e-18B84e-18B85e-18B86e-18B87e-18B88e-18B89e-18B8Ae-18B8B",
  "e-18B8Ce-18B8De-18B8Ee-18B8Fe-18B90e-18B91e-18B92e-18B93e-18B94e-18B95e-18B96e-18B97e-18B98",
  "e-18B99e-18B9Ae-18B9Be-18B9Ce-18B9De-18B9Ee-18B9Fe-18BA0e-18BA1e-18BA2e-18BA3e-18BA4e-18BA5",
  "e-18BA6e-18BA7e-18BA8e-18BA9e-18BAAe-18BABe-18BACe-18BADe-18BAEe-18BAFe-18BB0e-18BB1e-18BB2",
  "e-18BB3e-18BB4e-18BB5e-18BB6e-18BB7e-18BB8e-18BB9e-18BBAe-18BBBe-18BBCe-18BBDe-18BBEe-18BBF",
  "e-18BC0e-18BC1e-18BC2e-18BC3e-18BC4e-18BC5e-18BC6e-18BC7e-18BC8e-18BC9e-18BCAe-18BCBe-18BCC",
  "e-18BCDe-18BCEe-18BCFe-18BD0e-18BD1e-18BD2e-18BD3e-18BD4e-18BD5e-18BD6e-18BD7e-18BD8e-18BD9",
  "e-18BDAe-18BDBe-18BDCe-18BDDe-18BDEe-18BDFe-18BE0e-18BE1e-18BE2e-18BE3e-18BE4e-18BE5e-18BE6",
  "e-18BE7e-18BE8e-18BE9e-18BEAe-18BEBe-18BECe-18BEDe-18BEEe-18BEFe-18BF0e-18BF1e-18BF2e-18BF3",
  "e-18BF4e-18BF5e-18BF6e-18BF7e-18BF8e-18BF9e-18BFAe-18BFBe-18BFCe-18BFDe-18BFEe-18BFFe-18C00",
  "e-18C01e-18C02e-18C03e-18C04e-18C05e-18C06e-18C07e-18C08e-18C09e-18C0Ae-18C0Be-18C0Ce-18C0D",
  "e-18C0Ee-18C0Fe-18C10e-18C11e-18C12e-18C13e-18C14e-18C15e-18C16e-18C17e-18C18e-18C19e-18C1A",
  "e-18C1Be-18C1Ce-18C1De-18C1Ee-18C1Fe-18C20e-18C21e-18C22e-18C23e-18C24e-18C25e-18C26e-18C27",
  "e-18C28e-18C29e-18C2Ae-18C2Be-18C2Ce-18C2De-18C2Ee-18C2Fe-18C30e-18C31e-18C32e-18C33e-18C34",
  "e-18C35e-18C36e-18C37e-18C38e-18C39e-18C3Ae-18C3Be-18C3Ce-18C3De-18C3Ee-18C3Fe-18C40e-18C41",
  "e-18C42e-18C43e-18C44e-18C45e-18C46e-18C47e-18C48e-18C49e-18C4Ae-18C4Be-18C4Ce-18C4De-18C4E",
  "e-18C4Fe-18C50e-18C51e-18C52e-18C53e-18C54e-18C55e-18C56e-18C57e-18C58e-18C59e-18C5Ae-18C5B",
  "e-18C5Ce-18C5De-18C5Ee-18C5Fe-18C60e-18C61e-18C62e-18C63e-18C64e-18C65e-18C66e-18C67e-18C68",
  "e-18C69e-18C6Ae-18C6Be-18C6Ce-18C6De-18C6Ee-18C6Fe-18C70e-18C71e-18C72e-18C73e-18C74e-18C75",
  "e-18C76e-18C77e-18C78e-18C79e-18C7Ae-18C7Be-18C7Ce-18C7De-18C7Ee-18C7Fe-18C80e-18C81e-18C82",
  "e-18C83e-18C84e-18C85e-18C86e-18C87e-18C88e-18C89e-18C8Ae-18C8Be-18C8Ce-18C8De-18C8Ee-18C8F",
  "e-18C90e-18C91e-18C92e-18C93e-18C94e-18C95e-18C96e-18C97e-18C98e-18C99e-18C9Ae-18C9Be-18C9C",
  "e-18C9De-18C9Ee-18C9Fe-18CA0e-18CA1e-18CA2e-18CA3e-18CA4e-18CA5e-18CA6e-18CA7e-18CA8e-18CA9",
  "e-18CAAe-18CABe-18CACe-18CADe-18CAEe-18CAFe-18CB0e-18CB1e-18CB2e-18CB3e-18CB4e-18CB5e-18CB6",
  "e-18CB7e-18CB8e-18CB9e-18CBAe-18CBBe-18CBCe-18CBDe-18CBEe-18CBFe-18CC0e-18CC1e-18CC2e-18CC3",
  "e-18CC4e-18CC5e-18CC6e-18CC7e-18CC8e-18CC9e-18CCAe-18CCBe-18CCCe-18CCDe-18CCEe-18CCFe-18CD0",
  "e-18CD1e-18CD2e-18CD3e-18CD4e-18CD5@1AFF0aKATAKANAm MINNAN TONE-2e-3e-4e-5@1AFF5e-7e-8",
  "dNASALIZED TONE-1f-2f-3f-4f-5@1AFFDf-7f-8"]

end ContentModel.Text.CharName
