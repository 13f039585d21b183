/-!
# Names of notations

The names of the characters from U+1B000 to U+1DFFF: those of shorthand, music, mathematics and
sign writing.
-/

namespace ContentModel.Text.CharName

/-- The table of these names, as `CharName.find?` reads it. -/
def notations : List String := [
  "@1B000aKATAKANAm ARCHAIC EaHIRAGANAm ARCHAIC YEaHENTAIGANAm A-1d-2d-3d-WOcI-1d-2d-3d-4cU-1d-2",
  "d-3d-4d-5cE-2d-3d-4d-5d-6cO-1d-2d-3cKA-1d-2d-3d-4d-5d-6d-7d-8d-9d-10d-11d-KEcKI-1d-2d-3d-4d-5",
  "d-6d-7d-8cKU-1d-2d-3d-4d-5d-6d-7cKE-1d-2d-3d-4d-5d-6cKO-1d-2d-3d-KIcSA-1d-2d-3d-4d-5d-6d-7d-8",
  "cSI-1d-2d-3d-4d-5d-6cSU-1d-2d-3d-4d-5d-6d-7d-8cSE-1d-2d-3d-4d-5cSO-1d-2d-3d-4d-5d-6d-7cTA-1d-2",
  "d-3d-4cTI-1d-2d-3d-4d-5d-6d-7cTU-1d-2d-3d-4d-TOcTE-1d-2d-3d-4d-5d-6d-7d-8d-9cTO-1d-2d-3d-4d-5",
  "d-6d-RAcNA-1d-2d-3d-4d-5d-6d-7d-8d-9cNI-1d-2d-3d-4d-5d-6d-7d-TEcNU-1d-2d-3cNE-1d-2d-3d-4d-5d-6",
  "d-KOcNO-1d-2d-3d-4d-5cHA-1d-2d-3d-4d-5d-6d-7d-8d-9d-10d-11cHI-1d-2d-3d-4d-5d-6d-7cHU-1d-2d-3",
  "cHE-1d-2d-3d-4d-5d-6d-7cHO-1d-2d-3d-4d-5d-6d-7d-8cMA-1d-2d-3d-4d-5d-6d-7cMI-1d-2d-3d-4d-5d-6",
  "d-7cMU-1d-2d-3d-4cME-1d-2d-MAcMO-1d-2d-3d-4d-5d-6cYA-1d-2d-3d-4d-5d-YOcYU-1d-2d-3d-4cYO-1d-2",
  "d-3d-4d-5d-6cRA-1d-2d-3d-4cRI-1d-2d-3d-4d-5d-6d-7cRU-1d-2d-3d-4d-5d-6cRE-1d-2d-3d-4cRO-1d-2d-3",
  "d-4d-5d-6cWA-1d-2d-3d-4d-5cWI-1d-2d-3d-4d-5cWE-1d-2d-3d-4cWO-1d-2d-3d-4d-5d-6d-7cN-MU-MO-1f-2",
  "aHIRAGANAm ARCHAIC WUaKATAKANAm ARCHAIC YIdYEdWU@1B150aHIRAGANAmp WIdWEdWO@1B164aKATAKANAmp WI",
  "dWEdWOdN@1B170aNUSHU CHARACTER-1B170c-1B171c-1B172c-1B173c-1B174c-1B175c-1B176c-1B177c-1B178",
  "c-1B179c-1B17Ac-1B17Bc-1B17Cc-1B17Dc-1B17Ec-1B17Fc-1B180c-1B181c-1B182c-1B183c-1B184c-1B185",
  "c-1B186c-1B187c-1B188c-1B189c-1B18Ac-1B18Bc-1B18Cc-1B18Dc-1B18Ec-1B18Fc-1B190c-1B191c-1B192",
  "c-1B193c-1B194c-1B195c-1B196c-1B197c-1B198c-1B199c-1B19Ac-1B19Bc-1B19Cc-1B19Dc-1B19Ec-1B19F",
  "c-1B1A0c-1B1A1c-1B1A2c-1B1A3c-1B1A4c-1B1A5c-1B1A6c-1B1A7c-1B1A8c-1B1A9c-1B1AAc-1B1ABc-1B1AC",
  "c-1B1ADc-1B1AEc-1B1AFc-1B1B0c-1B1B1c-1B1B2c-1B1B3c-1B1B4c-1B1B5c-1B1B6c-1B1B7c-1B1B8c-1B1B9",
  "c-1B1BAc-1B1BBc-1B1BCc-1B1BDc-1B1BEc-1B1BFc-1B1C0c-1B1C1c-1B1C2c-1B1C3c-1B1C4c-1B1C5c-1B1C6",
  "c-1B1C7c-1B1C8c-1B1C9c-1B1CAc-1B1CBc-1B1CCc-1B1CDc-1B1CEc-1B1CFc-1B1D0c-1B1D1c-1B1D2c-1B1D3",
  "c-1B1D4c-1B1D5c-1B1D6c-1B1D7c-1B1D8c-1B1D9c-1B1DAc-1B1DBc-1B1DCc-1B1DDc-1B1DEc-1B1DFc-1B1E0",
  "c-1B1E1c-1B1E2c-1B1E3c-1B1E4c-1B1E5c-1B1E6c-1B1E7c-1B1E8c-1B1E9c-1B1EAc-1B1EBc-1B1ECc-1B1ED",
  "c-1B1EEc-1B1EFc-1B1F0c-1B1F1c-1B1F2c-1B1F3c-1B1F4c-1B1F5c-1B1F6c-1B1F7c-1B1F8c-1B1F9c-1B1FA",
  "c-1B1FBc-1B1FCc-1B1FDc-1B1FEc-1B1FFc-1B200c-1B201c-1B202c-1B203c-1B204c-1B205c-1B206c-1B207",
  "c-1B208c-1B209c-1B20Ac-1B20Bc-1B20Cc-1B20Dc-1B20Ec-1B20Fc-1B210c-1B211c-1B212c-1B213c-1B214",
  "c-1B215c-1B216c-1B217c-1B218c-1B219c-1B21Ac-1B21Bc-1B21Cc-1B21Dc-1B21Ec-1B21Fc-1B220c-1B221",
  "c-1B222c-1B223c-1B224c-1B225c-1B226c-1B227c-1B228c-1B229c-1B22Ac-1B22Bc-1B22Cc-1B22Dc-1B22E",
  "c-1B22Fc-1B230c-1B231c-1B232c-1B233c-1B234c-1B235c-1B236c-1B237c-1B238c-1B239c-1B23Ac-1B23B",
  "c-1B23Cc-1B23Dc-1B23Ec-1B23Fc-1B240c-1B241c-1B242c-1B243c-1B244c-1B245c-1B246c-1B247c-1B248",
  "c-1B249c-1B24Ac-1B24Bc-1B24Cc-1B24Dc-1B24Ec-1B24Fc-1B250c-1B251c-1B252c-1B253c-1B254c-1B255",
  "c-1B256c-1B257c-1B258c-1B259c-1B25Ac-1B25Bc-1B25Cc-1B25Dc-1B25Ec-1B25Fc-1B260c-1B261c-1B262",
  "c-1B263c-1B264c-1B265c-1B266c-1B267c-1B268c-1B269c-1B26Ac-1B26Bc-1B26Cc-1B26Dc-1B26Ec-1B26F",
  "c-1B270c-1B271c-1B272c-1B273c-1B274c-1B275c-1B276c-1B277c-1B278c-1B279c-1B27Ac-1B27Bc-1B27C",
  "c-1B27Dc-1B27Ec-1B27Fc-1B280c-1B281c-1B282c-1B283c-1B284c-1B285c-1B286c-1B287c-1B288c-1B289",
  "c-1B28Ac-1B28Bc-1B28Cc-1B28Dc-1B28Ec-1B28Fc-1B290c-1B291c-1B292c-1B293c-1B294c-1B295c-1B296",
  "c-1B297c-1B298c-1B299c-1B29Ac-1B29Bc-1B29Cc-1B29Dc-1B29Ec-1B29Fc-1B2A0c-1B2A1c-1B2A2c-1B2A3",
  "c-1B2A4c-1B2A5c-1B2A6c-1B2A7c-1B2A8c-1B2A9c-1B2AAc-1B2ABc-1B2ACc-1B2ADc-1B2AEc-1B2AFc-1B2B0",
  "c-1B2B1c-1B2B2c-1B2B3c-1B2B4c-1B2B5c-1B2B6c-1B2B7c-1B2B8c-1B2B9c-1B2BAc-1B2BBc-1B2BCc-1B2BD",
  "c-1B2BEc-1B2BFc-1B2C0c-1B2C1c-1B2C2c-1B2C3c-1B2C4c-1B2C5c-1B2C6c-1B2C7c-1B2C8c-1B2C9c-1B2CA",
  "c-1B2CBc-1B2CCc-1B2CDc-1B2CEc-1B2CFc-1B2D0c-1B2D1c-1B2D2c-1B2D3c-1B2D4c-1B2D5c-1B2D6c-1B2D7",
  "c-1B2D8c-1B2D9c-1B2DAc-1B2DBc-1B2DCc-1B2DDc-1B2DEc-1B2DFc-1B2E0c-1B2E1c-1B2E2c-1B2E3c-1B2E4",
  "c-1B2E5c-1B2E6c-1B2E7c-1B2E8c-1B2E9c-1B2EAc-1B2EBc-1B2ECc-1B2EDc-1B2EEc-1B2EFc-1B2F0c-1B2F1",
  "c-1B2F2c-1B2F3c-1B2F4c-1B2F5c-1B2F6c-1B2F7c-1B2F8c-1B2F9c-1B2FAc-1B2FB@1BC00aDUPLOYANm HcXcPcT",
  "cFcKcLcBcDcVcGcRcP NcD ScF NcK McR ScTHcSLOAN DHcDHcKKcSLOAN JcHLcLHcRHcMcNcJcScM NcN McJ M",
  "cS JcMn DOTcNn DOTcJn DOTeDOTS INSIDEzucSn DOTf!cM ScN ScJ ScS ScM N ScN M ScJ M ScS J S",
  "cJ Sn DOTdNeScS TeRdPeRcT SdR ScWcWHcW RcS NdMcK R ScG R ScS KeRcAcSLOAN OWcOAcOcAOUcIcEcIE",
  "cSHORT IcUIcEEcSLOAN EHcROMANIAN IcSLOAN EEcLONG IcYEcUcEUcXWcU NcLONG UcROMANIAN UcUHcSLOAN U",
  "cOOHcOWcOUcWAcWOcWIcWEIcWOWcNASAL UdOdIdAcPERNIN ANdAMcSLOAN ENdANdONcVOCALIC M",
  "@1BC70bAFFIXx[ SECANTcMID[ SECANTct[ SECANTcLOW* SECANTcMID* SECANTcHIGH* SECANT",
  "cATTACHED SECANTdx-TO-RIGHT SECANTdTANGENTdTAILdE HOOKdI HOOKdTANGENT HOOK@1BC80cHIGH ACUTE",
  "dTIGHT ACUTEdGRAVEdLONG GRAVEdDOTdCIRCLEdLINEdWAVEd*@1BC90cLOW ACUTEdTIGHT ACUTEdGRAVE",
  "dLONG GRAVEdDOTdCIRCLEdLINEdWAVEd*dr@1BC9Cbs On CROSSbTHICKm SELECTORbv>",
  "bPUNCTUATION CHINOOK FULL STOPaSHORTHAND FORMATm OVERLAPcCONTINUING OVERLAPcDOWN STEPcUP STEP",
  "@1CF00aZNAMENNY COMBINING> GORAZDO NIZKO S KRYZHEM ONxdNIZKO S KRYZHEM ONxdTSATA ONx",
  "dGORAZDO NIZKO ONxdNIZKO ONxdSREDNE ONxdMALO POVYSHE ONxdPOVYSHE ONxdVYSOKO ONx",
  "dMALO POVYSHE S KHOKHLOM ONxdPOVYSHE S KHOKHLOM ONxdVYSOKO S KHOKHLOM ONx",
  "dGORAZDO NIZKO S KRYZHEM ONtdNIZKO S KRYZHEM ONtdTSATA ONtdGORAZDO NIZKO ONtdNIZKO ONt",
  "dSREDNE ONtdMALO POVYSHE ONtdPOVYSHE ONtdVYSOKO ONtdMALO POVYSHE S KHOKHLOM ONt",
  "dPOVYSHE S KHOKHLOM ONtdVYSOKO S KHOKHLOM ONtdTSATA S KRYZHEMdMALO POVYSHE S KRYZHEM",
  "dSTRANNO MALO POVYSHEdPOVYSHE S KRYZHEMeSTRANNOdVYSOKO S KRYZHEMdMALO POVYSHE STRANNO",
  "dGORAZDO VYSOKOdZELOdONdRAVNOdTIKHAYAdBORZAYAdUDARKAdPODVERTKAdLOMKAdKUPNAYAdKACHKAdZEVOK",
  "dSKOBAdRAZSEKAdKRYZH ONx@1CF30cTONAL RANGE> MRACHNOfSVETLOfTRESVETLOc> ZADERZHKA",
  "dDEMESTVENNY ZADERZHKAdOTSECHKAdPODCHASHIEen*.dCHASHKAePOLNAYAdOBLACHKOdSOROCHYA NOZHKAdTOCHKA",
  "dDVOETOCHIEcATTACHING* OMETc> CURVED OMETdKRYZHcLOWER TONAL RANGE INDICATOR",
  "bPRIZNAK MODIFIER LEVEL-2e-3dDIRECTION FLIPdKRYZHdROG@1CF50bNEUME KRYUKdTIKHYcPARAKLIT",
  "cDVA V CHELNUcKLYUCHcZANOZHEKcSTOPITSAdS OCHKOMcPEREVODKAdNEPOSTOYANNAYA",
  "cSTOPITSAn SOROCHYA NOZHKAcCHELYUSTKAcPALKAcZAPYATAYAcGOLUBCHIK BORZYdTIKHYdMRACHNYdSVETLY",
  "dTRESVETLYcVRAKHIYA PROSTAYAdMRACHNAYAdSVETLAYAdTRESVETLAYAdKLYUCHEVAYA PROSTAYAeMRACHNAYA",
  "eSVETLAYAeTRESVETLAYAcv ZAPYATAYAcREVERSED CHELYUSTKAcDERBITSAcKHAMILOcCHASHKAcPODCHASHIE",
  "cSKAMEYTSA MRACHNAYAdSVETLAYAdTRESVETLAYAdTIKHAYAcDEMESTVENNY KLYUCH",
  "cSKAMEYTSA KLYUCHEVAYA SVETLAYAdKLYUCHENEPOSTOYANNAYAdKLYUCHEVAYA TIKHAYA",
  "dDVOECHELNAYA PROSTAYAeSVETLAYAeNEPOSTOYANNAYAeKLYUCHEVAYAcSLOZHITIEdS ZAPYATOYdZAKRYTOE",
  "dS KRYZHEMcKRYZHcROGcFITAcKOBYLAcZMEYTSAcSTATYAdS ZAPYATOYeKRYZHEMeZAPYATOY I KRYZHEM",
  "eKRYZHEM I ZAPYATOYdZAKRYTAYAeS ZAPYATOYdS ROGOMeDVUMYA ZAPYATYMIeZAPYATOY I PODCHASHIEM",
  "cPOLKULIZMYcSTATYA NEPOSTOYANNAYAcSTRELA PROSTAYAdMRACHNOTIKHAYAdKRYZHEVAYAdPOLUPOVODNAYA",
  "dPOVODNAYAdNEPOSTOYANNAYAdKLYUCHEPOVODNAYAdKLYUCHENEPOSTOYANNAYAdTIKHAYA PUTNAYAdDVOECHELNAYA",
  "dDVOECHELNOKRYZHEVAYAdDVOECHELNOPOVODNAYAdDVOECHELNAYA KLYUCHEVAYA",
  "dDVOECHELNOPOVODNAYA KLYUCHEVAYAdGROMNAYAn SINGLE ZAPYATAYAdGROMOPOVODNAYAn SINGLE ZAPYATAYA",
  "dGROMNAYAdGROMOPOVODNAYAenv ZAPYATAYAdGROMOKRYZHEVAYAePOVODNAYAcMECHIKdPOVODNYdKLYUCHEVOY",
  "dKLYUCHEPOVODNYdKLYUCHENEPOSTOYANNYcSTRELA TRYASOGLASNAYAdTRYASOPOVODNAYAdTRYASOSTRELNAYA",
  "cOSOKAdSVETLAYAdTRESVETLAYAdKRYUKOVAYA SVETLAYAdKLYUCHEVAYA SVETLAYAeNEPOSTOYANNAYA",
  "cSTRELA KRYUKOVAYAePOVODNAYAeGROMNAYAn SINGLE ZAPYATAYAeGROMOPOVODNAYAn SINGLE ZAPYATAYA",
  "eGROMNAYAeGROMOPOVODNAYAfnv ZAPYATAYAeGROMOKRYZHEVAYAfPOVODNAYAeTRYASKAcKUFISMAcOBLAKOcDUDA",
  "cNEMKAcPAUK@1D000aBYZANTINE MUSICAL; PSILIdDASEIAdPERISPOMENIdOXEIA EKFONITIKONeDIPLI",
  "dVAREIA EKFONITIKONeDIPLIdKATHISTIdSYRMATIKIdPARAKLITIKIdYPOKRISISeDIPLIdKREMASTI",
  "dAPESO EKFONITIKONdEXO EKFONITIKONdTELEIAdKENTIMATAdAPOSTROFOSeDIPLIdSYNEVMAdTHITA",
  "dOLIGON ARCHAIONdGORGON ARCHAIONdPSILONdCHAMILONdVATHYdISON ARCHAIONdKENTIMA ARCHAION",
  "dKENTIMATA ARCHAIONdSAXIMATAdPARICHONdSTAVROS APODEXIAdOXEIAI ARCHAIONdVAREIAI ARCHAION",
  "dAPODERMA ARCHAIONdAPOTHEMAdKLASMAdREVMAdPIASMA ARCHAIONdTINAGMAdANATRICHISMAdSEISMA",
  "dSYNAGMA ARCHAIONeMETA STAVROUdOYRANISMA ARCHAIONdTHEMAdLEMOIdDYOdTRIAdTESSERAdKRATIMATA",
  "dAPESO EXO NEOdFTHORA ARCHAIONdIMIFTHORAdTROMIKON ARCHAIONdKATAVA TROMIKONdPELASTONdPSIFISTON",
  "dKONTEVMAdCHOREVMA ARCHAIONdRAPISMAdPARAKALESMA ARCHAIONdPARAKLITIKI ARCHAIONdICHADINdNANA",
  "dPETASMAdKONTEVMA ALLOdTROMIKON ALLOdSTRAGGISMATAdGRONTHISMATAdISON NEOdOLIGON NEOdOXEIA NEO",
  "dPETASTIdKOUFISMAdPETASTOKOUFISMAdKRATIMOKOUFISMAdPELASTON NEOdKENTIMATA NEO ANO",
  "dKENTIMA NEO ANOdYPSILIdAPOSTROFOS NEOdAPOSTROFOI SYNDESMOS NEOdYPORROIdKRATIMOYPORROON",
  "dELAFRONdCHAMILIdMIKRON ISONdVAREIA NEOdPIASMA NEOdPSIFISTON NEOdOMALONdANTIKENOMAdLYGISMA",
  "dPARAKLITIKI NEOdPARAKALESMA NEOdETERON PARAKALESMAdKYLISMAdANTIKENOKYLISMAdTROMIKON NEO",
  "dEKSTREPTONdSYNAGMA NEOdSYRMAdCHOREVMA NEOdEPEGERMAdSEISMA NEOdXIRON KLASMAdTROMIKOPSIFISTON",
  "dPSIFISTOLYGISMAdTROMIKOLYGISMAdTROMIKOPARAKALESMAdPSIFISTOPARAKALESMAdTROMIKOSYNAGMA",
  "dPSIFISTOSYNAGMAdGORGOSYNTHETONdARGOSYNTHETONdETERON ARGOSYNTHETONdOYRANISMA NEO",
  "dTHEMATISMOS ESOeEXOdTHEMA APLOUNdTHES KAI APOTHESdKATAVASMAdENDOFONONdYFEN KATOeANOdSTAVROS",
  "dKLASMA ANOdDIPLI ARCHAIONdKRATIMA ARCHAIONeALLOeNEOdAPODERMA NEOdAPLIdDIPLIdTRIPLIdTETRAPLI",
  "dKORONISdLEIMMA ENOS CHRONOUeDYO CHRONONeTRION CHRONONeTESSARON CHRONONeIMISEOS CHRONOU",
  "dGORGON NEO ANOePARESTIGMENON ARISTERAfDEXIAdDIGORGONePARESTIGMENON ARISTERA KATOgANOfDEXIA",
  "dTRIGORGONdARGONdIMIDIARGONdDIARGONdAGOGI POLI ARGIeARGOTERIeARGIeMETRIAeMESIeGORGIeGORGOTERI",
  "ePOLI GORGIdMARTYRIA PROTOS ICHOSeALLI PROTOS ICHOSeDEYTEROS ICHOSeALLI DEYTEROS ICHOS",
  "eTRITOS ICHOSeTRIFONIASeTETARTOS ICHOSfLEGETOS ICHOSeLEGETOS ICHOSePLAGIOS ICHOS",
  "dISAKIA TELOUS ICHIMATOSdAPOSTROFOI TELOUS ICHIMATOSdFANEROSIS TETRAFONIASeMONOFONIASeDIFONIAS",
  "dMARTYRIA VARYS ICHOSePROTOVARYS ICHOSePLAGIOS TETARTOS ICHOSdGORTHMIKON N APLOUNfDIPLOUN",
  "dENARXIS KAI FTHORA VOUdIMIFONONdIMIFTHORONdFTHORA ARCHAION DEYTEROU ICHOUeDIATONIKI PAfNANA",
  "eNAOS ICHOSeDIATONIKI DIeSKLIRON DIATONON DIeDIATONIKI KEfZOfNI KATOgANO",
  "eMALAKON CHROMA DIFONIASgMONOFONIASdFHTORA SKLIRON CHROMA VASISdFTHORA SKLIRON CHROMA SYNAFI",
  "eNENANOdCHROA ZYGOSeKLITONeSPATHIdFTHORA I YFESIS TETARTIMORIONeENARMONIOS ANTIFONIA",
  "dYFESIS TRITIMORIONdDIESIS TRITIMORIONeTETARTIMORIONeAPLI DYO DODEKATA",
  "eMONOGRAMMOS TESSERA DODEKATAeDIGRAMMOS EX DODEKATAeTRIGRAMMOS OKTO DODEKATA",
  "dYFESIS APLI DYO DODEKATAeMONOGRAMMOS TESSERA DODEKATAeDIGRAMMOS EX DODEKATA",
  "eTRIGRAMMOS OKTO DODEKATAdGENIKI DIESISeYFESISdDIASTOLI APLI MIKRIfMEGALIeDIPLIeTHESEOS",
  "dSIMANSIS THESEOSfDISIMOUfTRISIMOUfTETRASIMOUeARSEOSfDISIMOUfTRISIMOUfTETRASIMOUdDIGRAMMA GG",
  "dDIFTOGGOS OUdSTIGMAdARKTIKO PAeVOUeGAeDIeKEeZOeNIdKENTIMATA NEO MESOdKENTIMA NEO MESO",
  "dKENTIMATA NEO KATOdKENTIMA NEO KATOdKLASMA KATOdGORGON NEO KATO@1D100aMUSICAL; SINGLE BARLINE",
  "cv BARLINEc$ BARLINEcREVERSE$ BARLINEcDASHED BARLINEcSHORT BARLINEcx REPEATsct REPEATs",
  "cREPEAT DOTScDAL SEGNOcDA CAPOcSEGNOcCODAcREPEATED FIGURE-1e-2e-3cFERMATAd!cBREATH>cCAESURA",
  "cBRACEc~c|-LINE STAFFc^-LINE STAFFc&-LINE STAFFcFOUR-LINE STAFFcFIVE-LINE STAFFcSIX-LINE STAFF",
  "d-STRING FRETBOARDcFOUR-STRING FRETBOARDcG CLEFeOTTAVA ALTAfBASSAcC CLEFcF CLEFeOTTAVA ALTA",
  "fBASSAcDRUM CLEF-1e-2@1D129cMULTIPLE MEASURE RESTcv SHARPdFLATcFLAT UPdDOWNcNATURAL UPdDOWN",
  "cSHARP UPdDOWNcQUARTER TONE SHARPeFLATcCOMMON TIMEcCUT TIMEcOTTAVA ALTAdBASSA",
  "cQUINDICESIMA ALTAdBASSAcMULTI RESTcWHOLE RESTcHALF RESTcQUARTER RESTcEIGHTH REST",
  "cSIXTEENTH RESTcTHIRTY-SECOND RESTcSIXTY-FOURTH RESTc|_ TWENTY-EIGHTH RESTcX NOTEHEAD",
  "cPLUS NOTEHEADcCIRCLE X NOTEHEADcSQUARE NOTEHEAD?e<c% NOTEHEAD UP?f<ex?f<et?f<eDOWN?f<eUPt?g<",
  "cMOON NOTEHEAD?e<c%-ROUND NOTEHEAD DOWN?g<cPARENTHESIS NOTEHEADcVOID NOTEHEADcNOTEHEAD<",
  "cNULL NOTEHEADcCLUSTER NOTEHEAD?e<cBREVEcWHOLE NOTEcHALF NOTEcQUARTER NOTEcEIGHTH NOTE",
  "cSIXTEENTH NOTEcTHIRTY-SECOND NOTEcSIXTY-FOURTH NOTEc|_ TWENTY-EIGHTH NOTEcCOMBINING STEM",
  "dSPRECHGESANG STEMdTREMOLO-1e-2e-3cFINGERED TREMOLO-1e-2e-3cCOMBINING AUGMENTATION DOTdFLAG-1",
  "e-2e-3e-4e-5cBEGIN BEAMcEND BEAMcBEGIN TIEcEND TIEcBEGIN SLURcEND SLURcBEGIN PHRASEcEND PHRASE",
  "cCOMBINING ACCENTdSTACCATOdTENUTOdSTACCATISSIMOdMARCATOe-STACCATOdACCENT-STACCATOdLOURE",
  "cARPEGGIATO UPdDOWNcCOMBINING DOITdRIPdFLIPdSMEARdBENDdv TONGUEdTRIPLE TONGUEcRINFORZANDO",
  "cSUBITOcZcPIANOcMEZZOcFORTEcCRESCENDOcDECRESCENDOcGRACE NOTE SLASHeNO SLASHcTRcTURN",
  "cINVERTED TURNcTURN SLASHdUPcORNAMENT.-1e-2e-3e-4e-5e-6e-7e-8e-9e-10e-11cHAUPTSTIMME",
  "cNEBENSTIMMEcEND OF STIMMEcDEGREE SLASHcCOMBINING DOWN BOWdUP BOWdHARMONICdSNAP PIZZICATO",
  "cPEDAL>dUP>cHALF PEDAL>cGLISSANDO UPdDOWNcn FINGERNAILScDAMPdALLcMAXIMAcLONGAcBREVIS",
  "cSEMIBREVIS?d<cMINIMAd<cSEMIMINIMA?d<cFUSA?d<cLONGA PERFECTA RESTdIMPERFECTA RESTcBREVIS REST",
  "cSEMIBREVIS RESTcMINIMA RESTcSEMIMINIMA RESTcTEMPUS PERFECTUM CUM PROLATIONE PERFECTA",
  "gIMPERFECTAgPERFECTA DIMINUTION-1dIMPERFECTUM CUM PROLATIONE PERFECTAgIMPERFECTAhDIMINUTION-1",
  "i-2i-3cCROIXcGREGORIAN C CLEFdF CLEFcSQUARE BcVIRGAcPODATUScCLIVIScSCANDICUScCLIMACUScTORCULUS",
  "cPORRECTUSdFLEXUScSCANDICUS FLEXUScTORCULUS RESUPINUScPES SUBPUNCTIScKIEVAN C CLEF",
  "dEND OF PIECEd$ NOTEdRECITATIVE>dWHOLE NOTEdHALF NOTEdQUARTER NOTE STEM DOWNgUP",
  "dEIGHTH NOTE STEM DOWNgUPdFLATscSORIcKORON@1D200aGREEK VOCAL NOTATION;-1e-2e-3e-4e-5e-6e-7e-8",
  "e-9e-10e-11e-12e-13e-14e-15e-16e-17e-18e-19e-20e-21e-22e-23e-24e-50e-51e-52e-53e-54",
  "bINSTRUMENTAL NOTATION;-1e-2e-4e-5e-7e-8e-11e-12e-13e-14e-17e-18e-19e-23e-24e-25e-26e-27e-29",
  "e-30e-32e-36e-37e-38e-39e-40e-42e-43e-45e-47e-48e-49e-50e-51e-52e-53e-54",
  "aCOMBINING GREEK MUSICAL TRISEMEdTETRASEMEdPENTASEMEaGREEK MUSICAL LEIMMA",
  "@1D2E0aMAYAN NUMERAL ZEROc|c^c&cFOURcFIVEcSIXcSEVENcEIGHTcNINEcTENcELEVENcTWELVEcTHIRTEEN",
  "cFOURTEENcFIFTEENcSIXTEENcSEVENTEENcEIGHTEENcNINETEEN@1D300aMONOGRAM FOR EARTH",
  "aDIGRAM FOR HEAVENLY EARTHcHUMAN EARTHcEARTHLY HEAVENdHUMANcEARTHaTETRAGRAM FOR CENTRE",
  "cFULL CIRCLEcMIREDcBARRIERcKEEPINGpcCONTRARIETYcASCENTcOPPOSITIONcBRANCHING OUT",
  "cDEFECTIVENESS OR DISTORTIONcDIVERGENCEcYOUTHFULNESScINCREASEcPENETRATIONcREACHcCONTACT",
  "cHOLDING BACKcWAITINGcFOLLOWINGcADVANCEcRELEASEcRESISTANCEcEASEcJOYcCONTENTIONcENDEAVOUR",
  "cDUTIEScCHANGEcDECISIVENESScBOLD RESOLUTIONcPACKINGcLEGIONcCLOSENESScKINSHIPcGATHERING",
  "cSTRENGTHcPURITYcFULLNESScRESIDENCEcLAW OR MODELcRESPONSEcGOING TO MEETcENCOUNTERScSTOVE",
  "cGREATNESScENLARGEMENTcPATTERNcRITUALcFLIGHTcVASTNESS OR WASTINGcCONSTANCYcMEASUREcETERNITY",
  "cUNITYcDIMINISHMENTcCLOSED MOUTHcGUARDEDNESScGATHERING INcMASSINGcACCUMULATIONcEMBELLISHMENT",
  "cDOUBTcWATCHcSINKINGcINNERcDEPARTUREcDARKENINGcDIMMINGcEXHAUSTIONcSEVERANCEcSTOPPAGEcHARDNESS",
  "cCOMPLETIONcCLOSUREcFAILUREcAGGRAVATIONcCOMPLIANCEcON THE VERGEcDIFFICULTIEScLABOURING",
  "cFOSTERING@1D360aCOUNTING ROD UNIT DIGIT|e^e&eFOUReFIVEeSIXeSEVENeEIGHTeNINEcTENS DIGIT|e^e&",
  "eFOUReFIVEeSIXeSEVENeEIGHTeNINEaIDEOGRAPHIC TALLY>|d^d&dFOURdFIVEaTALLY>|cFIVE",
  "@1D400aMATHEMATICAL BOLDo AdBdCdDdEdFdGdHdIdJdKdLdMdNdOdPdQdRdSdTdUdVdWdXdYdZcp AdBdCdDdEdFdG",
  "dHdIdJdKdLdMdNdOdPdQdRdSdTdUdVdWdXdYdZbITALICo AdBdCdDdEdFdGdHdIdJdKdLdMdNdOdPdQdRdSdTdUdVdWdX",
  "dYdZcp AdBdCdDdEdFdG@1D456dIdJdKdLdMdNdOdPdQdRdSdTdUdVdWdXdYdZbBOLD ITALICo AeBeCeDeEeFeGeHeI",
  "eJeKeLeMeNeOePeQeReSeTeUeVeWeXeYeZdp AeBeCeDeEeFeGeHeIeJeKeLeMeNeOePeQeReSeTeUeVeWeXeYeZ",
  "bSCRIPTo A@1D49EdCdD@1D4A2dG@1D4A5dJdK@1D4A9dNdOdPdQ@1D4AEdSdTdUdVdWdXdYdZcp AdBdCdD@1D4BBdF",
  "@1D4BDdHdIdJdKdLdMdN@1D4C5dPdQdRdSdTdUdVdWdXdYdZbBOLD SCRIPTo AeBeCeDeEeFeGeHeIeJeKeLeMeNeOeP",
  "eQeReSeTeUeVeWeXeYeZdp AeBeCeDeEeFeGeHeIeJeKeLeMeNeOePeQeReSeTeUeVeWeXeYeZbFRAKTURo AdB",
  "@1D507dDdEdFdG@1D50DdJdKdLdMdNdOdPdQ@1D516dSdTdUdVdWdXdY@1D51Ecp AdBdCdDdEdFdGdHdIdJdKdLdMdNdO",
  "dPdQdRdSdTdUdVdWdXdYdZbv-STRUCKo AeB@1D53BeDeEeFeG@1D540eIeJeKeLeM@1D546eO@1D54AeSeTeUeVeWeXeY",
  "@1D552dp AeBeCeDeEeFeGeHeIeJeKeLeMeNeOePeQeReSeTeUeVeWeXeYeZbBOLD FRAKTURo AeBeCeDeEeFeGeHeIeJ",
  "eKeLeMeNeOePeQeReSeTeUeVeWeXeYeZdp AeBeCeDeEeFeGeHeIeJeKeLeMeNeOePeQeReSeTeUeVeWeXeYeZ",
  "bSANS-SERIFo AeBeCeDeEeFeGeHeIeJeKeLeMeNeOePeQeReSeTeUeVeWeXeYeZdp AeBeCeDeEeFeGeHeIeJeKeLeMeN",
  "eOePeQeReSeTeUeVeWeXeYeZdBOLDo AfBfCfDfEfFfGfHfIfJfKfLfMfNfOfPfQfRfSfTfUfVfWfXfYfZep AfBfCfDfE",
  "fFfGfHfIfJfKfLfMfNfOfPfQfRfSfTfUfVfWfXfYfZdITALICo AfBfCfDfEfFfGfHfIfJfKfLfMfNfOfPfQfRfSfTfUfV",
  "fWfXfYfZep AfBfCfDfEfFfGfHfIfJfKfLfMfNfOfPfQfRfSfTfUfVfWfXfYfZdBOLD ITALICo AgBgCgDgEgFgGgHgI",
  "gJgKgLgMgNgOgPgQgRgSgTgUgVgWgXgYgZfp AgBgCgDgEgFgGgHgIgJgKgLgMgNgOgPgQgRgSgTgUgVgWgXgYgZ",
  "bMONOSPACEo AdBdCdDdEdFdGdHdIdJdKdLdMdNdOdPdQdRdSdTdUdVdWdXdYdZcp AdBdCdDdEdFdGdHdIdJdKdLdMdN",
  "dOdPdQdRdSdTdUdVdWdXdYdZbITALICp DOTLESS IeJ@1D6A8bBOLDo ALPHAdBETAdGAMMAdDELTAdEPSILONdZETA",
  "dETAdTHETAdIOTAdKAPPAdLAMDAdMUdNUdXIdOMICRONdPIdRHOdTHETA;dSIGMAdTAUdUPSILONdPHIdCHIdPSIdOMEGA",
  "cNABLAcp ALPHAdBETAdGAMMAdDELTAdEPSILONdZETAdETAdTHETAdIOTAdKAPPAdLAMDAdMUdNUdXIdOMICRONdPI",
  "dRHOd$ SIGMAdSIGMAdTAUdUPSILONdPHIdCHIdPSIdOMEGAcPARTIAL DIFFERENTIALcEPSILON;cTHETA;cKAPPA;",
  "cPHI;cRHO;cPI;bITALICo ALPHAdBETAdGAMMAdDELTAdEPSILONdZETAdETAdTHETAdIOTAdKAPPAdLAMDAdMUdNUdXI",
  "dOMICRONdPIdRHOdTHETA;dSIGMAdTAUdUPSILONdPHIdCHIdPSIdOMEGAcNABLAcp ALPHAdBETAdGAMMAdDELTA",
  "dEPSILONdZETAdETAdTHETAdIOTAdKAPPAdLAMDAdMUdNUdXIdOMICRONdPIdRHOd$ SIGMAdSIGMAdTAUdUPSILONdPHI",
  "dCHIdPSIdOMEGAcPARTIAL DIFFERENTIALcEPSILON;cTHETA;cKAPPA;cPHI;cRHO;cPI;bBOLD ITALICo ALPHA",
  "eBETAeGAMMAeDELTAeEPSILONeZETAeETAeTHETAeIOTAeKAPPAeLAMDAeMUeNUeXIeOMICRONePIeRHOeTHETA;eSIGMA",
  "eTAUeUPSILONePHIeCHIePSIeOMEGAdNABLAdp ALPHAeBETAeGAMMAeDELTAeEPSILONeZETAeETAeTHETAeIOTA",
  "eKAPPAeLAMDAeMUeNUeXIeOMICRONePIeRHOe$ SIGMAeSIGMAeTAUeUPSILONePHIeCHIePSIeOMEGA",
  "dPARTIAL DIFFERENTIALdEPSILON;dTHETA;dKAPPA;dPHI;dRHO;dPI;bSANS-SERIF BOLDo ALPHAfBETAfGAMMA",
  "fDELTAfEPSILONfZETAfETAfTHETAfIOTAfKAPPAfLAMDAfMUfNUfXIfOMICRONfPIfRHOfTHETA;fSIGMAfTAU",
  "fUPSILONfPHIfCHIfPSIfOMEGAeNABLAep ALPHAfBETAfGAMMAfDELTAfEPSILONfZETAfETAfTHETAfIOTAfKAPPA",
  "fLAMDAfMUfNUfXIfOMICRONfPIfRHOf$ SIGMAfSIGMAfTAUfUPSILONfPHIfCHIfPSIfOMEGA",
  "ePARTIAL DIFFERENTIALeEPSILON;eTHETA;eKAPPA;ePHI;eRHO;ePI;eITALICo ALPHAgBETAgGAMMAgDELTA",
  "gEPSILONgZETAgETAgTHETAgIOTAgKAPPAgLAMDAgMUgNUgXIgOMICRONgPIgRHOgTHETA;gSIGMAgTAUgUPSILONgPHI",
  "gCHIgPSIgOMEGAfNABLAfp ALPHAgBETAgGAMMAgDELTAgEPSILONgZETAgETAgTHETAgIOTAgKAPPAgLAMDAgMUgNUgXI",
  "gOMICRONgPIgRHOg$ SIGMAgSIGMAgTAUgUPSILONgPHIgCHIgPSIgOMEGAfPARTIAL DIFFERENTIALfEPSILON;",
  "fTHETA;fKAPPA;fPHI;fRHO;fPI;bBOLDo DIGAMMAcp DIGAMMA@1D7CEcDIGIT ZEROd|d^d&dFOURdFIVEdSIX",
  "dSEVENdEIGHTdNINEbv-STRUCK DIGIT ZEROe|e^e&eFOUReFIVEeSIXeSEVENeEIGHTeNINE",
  "bSANS-SERIF DIGIT ZEROe|e^e&eFOUReFIVEeSIXeSEVENeEIGHTeNINEdBOLD DIGIT ZEROf|f^f&fFOURfFIVE",
  "fSIXfSEVENfEIGHTfNINEbMONOSPACE DIGIT ZEROd|d^d&dFOURdFIVEdSIXdSEVENdEIGHTdNINE",
  "aSIGNWRITING HAND-FIST INDEXc-CIRCLE INDEXc-CUP INDEXc-OVAL INDEXc-HINGE INDEXc-ANGLE INDEX",
  "c-FIST INDEX BENTc-CIRCLE INDEX BENTc-FIST THUMB UNDER INDEX BENTdINDEX RAISED KNUCKLEeCUPPED",
  "eHINGEDfLOWc-CIRCLE INDEX HINGEc-FIST INDEX]c-CIRCLE INDEX]c-FIST INDEX] BENTfRAISED KNUCKLES",
  "fHINGEDeUP] HINGEDeHINGED] UPe] CONJOINEDgINDEX BENTg] BENTgCUPPEDgHINGEDfCROSSED",
  "c-CIRCLE INDEX] CROSSEDc-FIST] BENT OVER INDEXdINDEX BENT OVER]e] THUMBc-CIRCLE INDEX] THUMB",
  "c-FIST INDEX] STRAIGHT THUMB BENTfBENT THUMB STRAIGHTfTHUMB BENTfHINGED SPREAD THUMB SIDE",
  "eUP] HINGED THUMB SIDEiCONJOINEDeHINGED] UP THUMB SIDEe] UP SPREAD THUMB FORWARDfTHUMB CUPPED",
  "gCIRCLEDgHOOKEDgHINGEDdTHUMB BETWEEN INDEX] STRAIGHTdINDEX] CONJOINED THUMB SIDEiCONJOINED",
  "iBENTd] THUMB HOOKED INDEX UPdINDEX THUMB HOOKED] UPe] CONJOINED HINGED THUMB SIDE",
  "fCROSSED THUMB SIDEfCONJOINED THUMB FORWARDgCUPPED THUMB FORWARDd] THUMB CUPPED INDEX UP",
  "dINDEX THUMB CUPPED] UPd] THUMB CIRCLED INDEX UPhHINGEDdINDEX THUMB ANGLED OUT] UPgIN] UP",
  "fCIRCLED] UPe] THUMB CONJOINED HINGEDgANGLED OUThd] THUMB ANGLED OUT INDEX UPiCROSSEDgINDEX UP",
  "dINDEX THUMB HOOKED] HINGEDc-FLAT FOUR FINGERSfBENTfHINGEDfCONJOINEDgSPLIT",
  "c-CLAW FOUR FINGERS CONJOINEDc-FIST FOUR FINGERS CONJOINED BENTc-HINGE FOUR FINGERS CONJOINED",
  "c-FLAT FIVE FINGERS SPREADdHEEL FIVE FINGERS SPREADdFIVE FINGERS SPREAD FOUR BENT",
  "dHEEL FIVE FINGERS SPREAD FOUR BENTdFIVE FINGERS SPREAD BENTdHEEL FIVE FINGERS SPREAD BENT",
  "dFIVE FINGERS SPREAD THUMB FORWARDc-CUP FIVE FINGERS SPREADgOPEN",
  "c-HINGE FIVE FINGERS SPREAD OPENc-OVAL FIVE FINGERS SPREADc-FLAT FIVE FINGERS SPREAD HINGED",
  "hTHUMB SIDEhNO THUMBddBETWEEN PALM FACINGSdHEELdTHUMB SIDEdHEEL THUMB SIDEdTHUMB BENTeFORWARD",
  "dSPLIT INDEX THUMB SIDEeCENTREfTHUMB SIDEhBENTeLITTLEc-CLAWdTHUMB SIDEdNO THUMBdTHUMB FORWARD",
  "c-HOOK CURLICUEdc-CUP OPENddOPEN THUMB SIDEdTHUMB SIDEdOPEN NO THUMBdNO THUMB",
  "dOPEN THUMB FORWARDdTHUMB FORWARDc-CURLICUE OPENdc-CIRCLEc-OVALdTHUMB SIDEdNO THUMB",
  "dTHUMB FORWARDc-HINGE OPENeTHUMB FORWARDddpdOPEN THUMB SIDEdTHUMB SIDEdOPEN NO THUMBdNO THUMB",
  "dTHUMB SIDE TOUCHING INDEXeBETWEEN] RINGc-ANGLEc-FIST INDEX] RINGc-CIRCLE INDEX] RING",
  "c-HINGE INDEX] RINGc-ANGLE INDEX] RINGc-HINGE LITTLEc-FIST INDEX] RING BENTgCONJOINED",
  "c-HINGE INDEX] RING CONJOINEDc-FIST LITTLE DOWNfRIPPLE STRAIGHTgCURVEDfOTHERS CIRCLEDeUP",
  "dTHUMB UNDER LITTLE UPc-CIRCLE LITTLE UPc-OVAL LITTLE UPc-ANGLE LITTLE UP",
  "c-FIST LITTLE RAISED KNUCKLEeBENTeTOUCHES THUMBeTHUMBc-HINGE LITTLE THUMB",
  "c-FIST LITTLE INDEX THUMBc-HINGE LITTLE INDEX THUMBc-ANGLE LITTLE INDEX THUMB INDEX THUMB OUTi",
  "c-FIST LITTLE INDEXc-CIRCLE LITTLE INDEXc-HINGE LITTLE INDEXc-ANGLE LITTLE INDEX",
  "c-FIST INDEX] LITTLEc-CIRCLE INDEX] LITTLEc-HINGE INDEX] LITTLEdRINGc-ANGLE INDEX] LITTLE",
  "c-FIST INDEX] CROSS LITTLEc-CIRCLE INDEX] CROSS LITTLEc-FIST RING DOWN",
  "c-HINGE RING DOWN INDEX THUMB HOOK]c-ANGLE RING DOWN] THUMB INDEX CROSSc-FIST RING UP",
  "eRAISED KNUCKLEeLITTLEc-CIRCLE RING LITTLEc-OVAL RING LITTLEc-ANGLE RING LITTLEc-FIST RING]",
  "fCONJOINEDfRAISED KNUCKLESeINDEXeTHUMBc-HOOK RING THUMBc-FIST INDEX RING LITTLE",
  "c-CIRCLE INDEX RING LITTLEc-CURLICUE INDEX RING LITTLE ONc-HOOK INDEX RING LITTLE OUTgINgUNDER",
  "c-CUP INDEX RING LITTLEc-HINGE INDEX RING LITTLEc-ANGLE INDEX RING LITTLE OUTgc-FIST] DOWN",
  "c-HINGE]c-FIST] UPc-CIRCLE] UPc-FIST] RAISED KNUCKLEeUP THUMB SIDEc-HOOK] THUMB",
  "c-FIST] THUMB LITTLEeLITTLEeRING LITTLEc-CIRCLE] RING LITTLEc-CURLICUE] RING LITTLE ON",
  "c-CUP] RING LITTLEc-HINGE] RING LITTLEc-ANGLE] RING LITTLE OUTgINgc-CIRCLE] RING LITTLE BENT",
  "c-CLAW] RING LITTLE CONJOINEDhSIDEc-HOOK] RING LITTLE CONJOINED OUThINhc-HINGE INDEX HINGED",
  "c-FIST INDEX THUMB SIDEc-HINGE INDEX THUMB SIDEc-FIST INDEX THUMB SIDE THUMB DIAGONAL",
  "hCONJOINEDhBENTgINDEX BENTgBOTH BENTgINDEX HINGEfFORWARD INDEX STRAIGHThBENTfHOOKfCURLICUE",
  "fCURVE THUMB INSIDEc-CLAW INDEX THUMB CURVE THUMB INSIDEc-FIST INDEX THUMB CURVE THUMB UNDER",
  "fCIRCLEc-CUP INDEX THUMBfOPENc-HINGE INDEX THUMB OPENfLARGEffpc-ANGLE INDEX THUMB OUTfINf",
  "c-FIST THUMBeHEELeSIDE DIAGONALfCONJOINEDfBENTeFORWARDeBETWEEN INDEX]f] RINGfRING LITTLE",
  "eUNDER^ FINGERSeOVER^ FINGERSeUNDER& FINGERSfFOUR FINGERSeOVER FOUR RAISED KNUCKLESddHEEL",
  "bTOUCH SINGLEcMULTIPLEcBETWEENbGRASP SINGLEcMULTIPLEcBETWEENbSTRIKE SINGLEcMULTIPLEcBETWEEN",
  "bBRUSH SINGLEcMULTIPLEcBETWEENbRUB SINGLEcMULTIPLEcBETWEENbSURFACE SYMBOLScBETWEEN",
  "bSQUEEZE LARGE SINGLEcp SINGLEcLARGE MULTIPLEcp MULTIPLEcSEQUENTIALbFLICK LARGE SINGLE",
  "cp SINGLEcLARGE MULTIPLEcp MULTIPLEcSEQUENTIALbSQUEEZE FLICK ALTERNATING",
  "bMOVEMENT-HINGE UP DOWN LARGEfpeSEQUENTIALdDOWN SEQUENTIALdUP DOWN ALTERNATING LARGEgp",
  "dSIDE TO SIDE SCISSORSc-WALLPLANE FINGER CONTACTc-FLOORPLANE FINGER CONTACT",
  "c-WALLPLANE SINGLE STRAIGHTpfMEDIUMfLARGEfLARGESTeWRIST FLEXdv STRAIGHTeWRIST FLEXeALTERNATING",
  "fWRIST FLEXdCROSSdTRIPLE STRAIGHT MOVEMENTeWRIST FLEXeALTERNATINGfWRIST FLEXdBENDpeMEDIUM",
  "eLARGEdCORNERpeMEDIUMeLARGEeROTATIONdCHECKpeMEDIUMeLARGEdBOXpeMEDIUMeLARGEdZIGZAGpeMEDIUM",
  "eLARGEdPEAKSpeMEDIUMeLARGEbTRAVEL-WALLPLANE ROTATION-WALLPLANE SINGLEfvfALTERNATING",
  "e-FLOORPLANE SINGLEfvfALTERNATINGdSHAKINGdARM SPIRAL SINGLEfvfTRIPLEbMOVEMENT-DIAGONAL AWAYp",
  "eMEDIUMeLARGEeLARGESTdTOWARDSpeMEDIUMeLARGEeLARGESTdBETWEEN AWAYpfMEDIUMfLARGEfLARGEST",
  "eTOWARDSpfMEDIUMfLARGEfLARGESTc-FLOORPLANE SINGLE STRAIGHTpfMEDIUMfLARGEfLARGESTeWRIST FLEX",
  "dv STRAIGHTeWRIST FLEXeALTERNATINGfWRIST FLEXdCROSSdTRIPLE STRAIGHT MOVEMENTeWRIST FLEX",
  "eALTERNATING MOVEMENTfWRIST FLEXdBENDdCORNERpeMEDIUMeLARGEdCHECKdBOXpeMEDIUMeLARGEdZIGZAGp",
  "eMEDIUMeLARGEdPEAKSpeMEDIUMeLARGEbTRAVEL-FLOORPLANE ROTATION-FLOORPLANE SINGLEfvfALTERNATING",
  "e-WALLPLANE SINGLEfvfALTERNATINGdSHAKINGbMOVEMENT-WALLPLANE CURVE QUARTERpfMEDIUMfLARGE",
  "fLARGESTeHALF-CIRCLEpgMEDIUMgLARGEgLARGESTe&-QUARTER CIRCLEphMEDIUMdHUMPpeMEDIUMeLARGEdLOOPp",
  "eMEDIUMeLARGEepvdWAVE CURVEvpgMEDIUMgLARGEfTRIPLEpgMEDIUMgLARGEdCURVE THEN STRAIGHT",
  "dCURVED CROSSpfMEDIUMbROTATION-WALLPLANE SINGLEdvdALTERNATEbMOVEMENT-WALLPLANE SHAKING",
  "dCURVE HITTING FRONT WALLdHUMP HITTING FRONT WALLdLOOP HITTING FRONT WALL",
  "dWAVE HITTING FRONT WALLbROTATION-WALLPLANE SINGLE HITTING FRONT WALLdv HITTING FRONT WALL",
  "dALTERNATING HITTING FRONT WALLbMOVEMENT-WALLPLANE CURVE HITTING CHESTdHUMP HITTING CHEST",
  "dLOOP HITTING CHESTdWAVE HITTING CHESTbROTATION-WALLPLANE SINGLE HITTING CHESTdv HITTING CHEST",
  "dALTERNATING HITTING CHESTbMOVEMENT-WALLPLANE WAVE DIAGONAL PATHpgMEDIUMgLARGE",
  "c-FLOORPLANE CURVE HITTING CEILINGpgLARGEdHUMP HITTING CEILINGpvgLARGEvgp TRIPLEgLARGE TRIPLE",
  "dLOOP HITTING CEILINGp SINGLEgLARGE SINGLEgpvgLARGEvdWAVE HITTING CEILINGpgLARGE",
  "bROTATION-FLOORPLANE SINGLE HITTING CEILINGdv HITTING CEILINGdALTERNATING HITTING CEILING",
  "bMOVEMENT-FLOORPLANE CURVE HITTING FLOORpgLARGEdHUMP HITTING FLOORpvgLARGEvgTRIPLEp TRIPLE",
  "hLARGE TRIPLEdLOOP HITTING FLOORp SINGLEgLARGE SINGLEgpvgLARGEvdWAVE HITTING FLOORpgLARGE",
  "bROTATION-FLOORPLANE SINGLE HITTING FLOORdv HITTING FLOORdALTERNATING HITTING FLOOR",
  "bMOVEMENT-FLOORPLANE CURVEpeMEDIUMeLARGEeLARGESTeCOMBINEDdHUMPpdLOOPpdWAVE SNAKEepeLARGE",
  "bROTATION-FLOORPLANE SINGLEdvdALTERNATINGbMOVEMENT-FLOORPLANE SHAKING PARALLEL",
  "c-WALLPLANE ARM CIRCLEp SINGLEfMEDIUM SINGLEfpvfMEDIUMv",
  "c-FLOORPLANE ARM CIRCLE HITTING WALLp SINGLEhMEDIUM SINGLEhLARGE SINGLEhpvhMEDIUMvhLARGEv",
  "c-WALLPLANE WRIST CIRCLE FRONT SINGLEgvc-FLOORPLANE WRIST CIRCLE HITTING WALL SINGLEhv",
  "c-WALLPLANE FINGER CIRCLES SINGLEfvc-FLOORPLANE FINGER CIRCLES HITTING WALL SINGLEhv",
  "bDYNAMIC ARROWHEADpdLARGEcFASTcSLOWcTENSEcRELAXEDcSIMULTANEOUSdALTERNATINGcEVERY OTHER TIME",
  "cGRADUALbHEADcRIMcMOVEMENT-WALLPLANE STRAIGHTeTILTd-FLOORPLANE STRAIGHTd-WALLPLANE CURVE",
  "d-FLOORPLANE CURVEdCIRCLEbFACE DIRECTION POSITION NOSE FORWARD TILTINGfUP OR DOWNiTILTING",
  "bEYEBROWS STRAIGHT UPdNEUTRALdDOWNbDREAMY EYEBROWS NEUTRAL DOWNdDOWN NEUTRALdUP NEUTRAL",
  "dNEUTRAL UPbFOREHEAD NEUTRALcCONTACTcWRINKLEDbEYES OPENcSQUEEZEDcCLOSEDbEYE BLINK SINGLE",
  "dMULTIPLEbEYES HALF OPENcWIDE OPENcHALF CLOSEDcWIDENING MOVEMENTbEYE WINKbEYELASHES UPcDOWN",
  "cFLUTTERINGbEYEGAZE-WALLPLANE STRAIGHTeveALTERNATINGc-FLOORPLANE STRAIGHTeveALTERNATING",
  "c-WALLPLANE CURVEDc-FLOORPLANE CURVEDc-WALLPLANE CIRCLINGbCHEEKS PUFFEDcNEUTRALcSUCKED",
  "bTENSE CHEEKS HIGHd]dLOWbEARSbNOSE NEUTRALcCONTACTcWRINKLEScWIGGLESbAIR BLOWING OUTcSUCKING IN",
  "cBLOWp ROTATIONScSUCKp ROTATIONSbBREATH INHALEcEXHALEbMOUTH CLOSED NEUTRALdFORWARDdCONTACT",
  "cSMILEdWRINKLEDdOPENcFROWNdWRINKLEDdOPENcOPEN CIRCLEdFORWARDdWRINKLEDdOVALeWRINKLEDeYAWN",
  "dRECTANGLEeWRINKLEDeYAWNcKISSdFORWARDdWRINKLEDcTENSEdFORWARDdSUCKEDbLIPS PRESSED TOGETHER",
  "bLIP LOWER OVER UPPERcUPPER OVER LOWERbMOUTH CORNERScWRINKLES SINGLEdvbTONGUE STICKING OUT FAR",
  "cLICKING LIPScTIP BETWEEN LIPSdTOUCHING INSIDE MOUTHcINSIDE MOUTH RELAXEDcMOVES AGAINST CHEEK",
  "cCENTRE STICKING OUTdINSIDE MOUTHbTEETHcMOVEMENTcON TONGUEeMOVEMENTdLIPSeMOVEMENTcBITE LIPS",
  "bMOVEMENT-WALLPLANE JAWc-FLOORPLANE JAWbNECKbHAIRbEXCITEMENTbSHOULDER HIP SPINEdPOSITIONS",
  "bWALLPLANE SHOULDER HIP MOVEbFLOORPLANE SHOULDER HIP MOVEbSHOULDER TILTING FROM WAIST",
  "bTORSO-WALLPLANE STRAIGHT STRETCHdCURVED BENDc-FLOORPLANE TWISTING",
  "bUPPER BODY TILTING FROM HIP JOINTSbLIMB COMBINATIONcLENGTH-1d-2d-3d-4d-5d-6d-7bFINGER",
  "bLOCATION-WALLPLANE SPACEc-FLOORPLANE SPACEcHEIGHTcWIDTHcDEPTHcHEAD NECKcTORSOcLIMBS DIGITS",
  "bCOMMAbFULL STOPbSEMICOLONbCOLONbPARENTHESIS@1DA9BbFILL MODIFIER-2d-3d-4d-5d-6",
  "@1DAA1bROTATION MODIFIER-2d-3d-4d-5d-6d-7d-8d-9d-10d-11d-12d-13d-14d-15d-16",
  "@1DF00aLATINpm FENG DIGRAPHn TRILLdREVERSED SCRIPT Gbmpo TURNED Gbpm REVERSED Kbmpo Ln BELT",
  "bpm LEZHn RETROFLEX HOOKdTURNED Yn BELTdREVERSED ENGdTURNED Rn LONG LEGz RETROFLEX HOOK",
  "dTn HOOKz RETROFLEX HOOKbm RETROFLEX CLICKn RETROFLEX HOOKbpm ESHnv BARhz CURLdTURNED Tn CURL",
  "bm INVERTED GLOTTAL STOPn CURLcSTRETCHED Cn CURLcpo TURNED Kbpm Ln FISHHOOK",
  "dDEZH DIGRAPHn PALATAL HOOKdLn BELTz PALATAL HOOKdENGn PALATAL HOOKdTURNED Rn PALATAL HOOK",
  "dRn FISHHOOKz PALATAL HOOKdTESH DIGRAPHn PALATAL HOOKdEZHn PALATAL HOOK",
  "dDEZH DIGRAPHn RETROFLEX HOOKdIn.z RETROFLEX HOOKdOn RETROFLEX HOOK",
  "dTESH DIGRAPHn RETROFLEX HOOKdCn RETROFLEX HOOKdSn CURL"]

end ContentModel.Text.CharName
