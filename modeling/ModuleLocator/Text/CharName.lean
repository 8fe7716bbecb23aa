import Std.Data.HashSet
/-!
Names of characters, as Unicode 14 gives them, for looking a character up
by its name.
-/

namespace ModuleLocator.Text

/-- The listed names, stored as the module says, in rows. -/
def nameRows : List String := [
  "aaABACUSabC CURRENTacCORDIONaeUNT OFacKadNOWLEDGEacTIVATE ARABIC FORM SHAPING",
  "ajSYMMETRIC SWAPPINGacUTE ACCENTahNGLEabDDRESSED TO THE SUBJECTacHESIVE BANDAGEacI SHAKTI",
  "acLAM ALIF LENGTHENERagCAPITAL LETTER ALIFavBAawHEavCHIavDAALIawHAavEavFAavGAawBEavHAavIavJIIM",
  "avKAFawHAawPOavLAAMavMIIMavNHAawUNawYAavOavPEavQAAFavRAavSHAawINNYIIYHEavTUavUavVAavWAWavYAawHE",
  "avZALahONSONANT MODIFIERagDIGIT EIGHTamFIVEanOURamNINEamONEamSEVENanIXamTHREEanWOamZERO",
  "agGEMINATE CONSONANT MODIFIERanION MARKagHAMZAagINITIAL EXCLAMATION MARKaoQUESTION MARK",
  "agNASALIZATION MARKahUKTAagSMALL LETTER ALIFatBAauHEatCHIatDAALIauHAatEatFAatGAauBEatHAatIatJIIM",
  "atKAFauHAauPOatLAAMatMIIMatNHAauUNauYAatOatPEatQAAFatRAatSHAauINNYIIYHEatTUatUatVAatWAWatYAauHE",
  "atZALagVOWEL LENGTHENERacMETOSadISSION TICKETSacULTabEGEAN CHECK MARKahDRY MEASURE FIRST SUBUNIT",
  "ahLIQUID MEASURE FIRST SUBUNITahMEASURE SECOND SUBUNITapTHIRD SUBUNITahNUMBER EIGHTat HUNDRED",
  "auTHOUSANDatYau THOUSANDaoFIFTYat THOUSANDaqVEas HUNDREDatTHOUSANDapORTYat THOUSANDaqUR",
  "as HUNDREDatTHOUSANDaoNINEas HUNDREDatTHOUSANDasTYau THOUSANDaoONEar HUNDREDasTHOUSANDaoSEVEN",
  "at HUNDREDauTHOUSANDatTYav THOUSANDapIXar HUNDREDasTHOUSANDarTYat THOUSANDaoTENar THOUSAND",
  "apHIRTYau THOUSANDaqREEat HUNDREDauTHOUSANDapWENTYau THOUSANDaqOar HUNDREDasTHOUSAND",
  "ahWEIGHT BASE UNITaoFIRST SUBUNITapOURTH SUBUNITaoSECOND SUBUNITaoTHIRD SUBUNIT",
  "aiORD SEPARATOR DOTawLINEacRIAL TRAMWAYabFGHANI SIGNabHOM CONSONANT SIGN MEDIAL LAbcIGATING RA",
  "bbRAafDIGIT EIGHTalFIVEamOURalNINEalONEalSEVENamIXalTHREEamWOalZEROafLETTER AanLTERNATE BAawGA",
  "awTAamBAanHAamCAanHAamDAanDAaoHAanHAamGAanHAamHAamJAanHAamKAanHAamLAanLAamMAamNAanGAanNAanYAamPA",
  "anHAamRAamSAamTAanHAanTAaoHAafNUMBER TENanWENTYafSIGN KILLERakRULAIakSECTIONalMALL SECTION",
  "agYMBOL VIafVOWEL SIGN AarAarIarMarWaqEaqIarIaqOaqUarUabIRPLANEai ARRIVINGajDEPARTURE",
  "abKTIESELSKABabLARM CLOCKacCHEMICAL SYMBOL FOR AIRaxLEMBICayKALIbc-2ayUMaxMALGAMaxNTIMONY ORE",
  "axQUA REGIAbg-2bbVITAEbg-2baFORTISaxRSENICaxSHESaxURIPIGMENTawBATH OF MARYbeVAPOURSaxISMUTH ORE",
  "axLACK SULFURaxORAXbb-2bc3axRICKawCADUCEUSayLXayPUT MORTUUMaxINNABARaxOPPER ANTIMONIATEbdORE",
  "axROCUS OF COPPERbm-2bgIRONayUCIBLEbe-2bf3bf4bf5awDAY-NIGHTaxISSOLVEbe-2azTILLawEARTHawFIRE",
  "awGOLDaxUMawHALF DRAMbbOUNCEaxORSE DUNGayURawIRON OREbe-2ba-COPPER OREawLEAD OREaxODESTONE",
  "awMARCASITEaxERCURY SUBLIMATEbn-2bo3axONTHawNIGHTayTREawOILawPHILOSOPHERS SULFURaxOT ASHESayWDER",
  "bcED BRICKaxRECIPITATEaxURIFYayTREFACTIONawQUICK LIMEazNTESSENCEawREALGARbd-2ayGULUS",
  "bd OF ANTIMONYbp-2bhIRONbd-2be3be4ayTORTaxOCK SALTbf-2awSAL-AMMONIACazTba OF ANTIMONY",
  "beCOPPER ANTIMONIATEaxCEPTER OF JOVEaxILVERaxOAPaxPIRITaxTARRED TRIDENTayRATUM SUPER STRATUMbr-2",
  "axUBLIMATE OF ANTIMONYbjCOPPERbjSALT OF ANTIMONYbrCOPPERbeIONayLFURawTARTARbc-2axIN OREazCTURE",
  "axRIDENTaxUTTYawURINEawVERDIGRISaxINEGARbd OF ANTIMONYbd-2be3ayTRIOLbd-2awWATERayXacEF SYMBOL",
  "adMBICadRTacIEN MONSTERacL AROUND-PROFILEaeEQUAL TOacMadOST EQUAL OR EQUAL TOanTO",
  "ap WITH CIRCUMFLEX ACCENTacTERNATE ONE-WAY LEFT WAY TRAFFICaiIVE KEY SYMBOL",
  "abMALGAMATION OR COPRODUCTacBULANCEacERICAN FOOTBALLacPERSANDadHORAabNATOLIAN HIEROGLYPH A001ay2",
  "ay3ay4ay5ay6ay7ay8ay9ax10azAay1ay2ay3ay4ay5ay6ay7ay8ay9ax20ay1ay2ay3ay4ay5ay6azAay7ay8ay9ax30ay1",
  "ay2ay3ay4ay5ay6ay7ay8ay9azAax40ay1azAay2ay3ay4ay5azAay6azAazBay7ay8ay9ax50ay1ay2ay3ay4ay5ay6ay7",
  "ay8ay9ax60ay1ay2ay3ay4ay5ay6azAazBazCay7ay8ay9ax70ay1ay2ay3ay4ay5ay6ay7ay8ay9ax80ay1ay2ay3ay4ay5",
  "ay6ay7ay8ay9ax90ay1ay2ay3ay4ay5ay6ay7azAay8azAay9aw100azAay1azAay2azAay3ay4azAazBazCay5azAazBay6",
  "ay7azAazBazCay8ay9ax10azAazBay1ay2ay3ay4ay5azAay6ay7ay8ay9ax20ay1ay2ay3ay4ay5azAay6ay7ay8ay9ax30",
  "ay1ay2ay3ay4ay5azAay6ay7ay8ay9ax40ay1ay2ay3ay4ay5ay6ay7ay8ay9ax50ay1ay2ay3ay4ay5ay6ay7ay8ay9ax60",
  "ay1ay2ay3ay4ay5ay6ay7ay8ay9ax70ay1ay2ay3ay4ay5ay6ay7ay8ay9ax80ay1ay2ay3ay4ay5ay6ay7ay8ay9ax90ay1",
  "ay2ay3ay4ay5ay6ay7ay8ay9aw200ay1ay2azAazBay3ay4ay5ay6ay7azAay8ay9azAax10ay1ay2ay3ay4ay5azAay6azA",
  "ay7ay8ay9ax20ay1ay2ay3ay4ay5ay6ay7azAay8ay9ax30ay1ay2ay3ay4ay5ay6ay7ay8ay9ax40ay1ay2ay3ay4ay5ay6",
  "ay7ay8ay9ax50ay1ay2ay3ay4ay5ay6ay7ay8ay9ax60ay1ay2ay3ay4ay5ay6ay7azAay8ay9ax70ay1ay2ay3ay4ay5ay6",
  "ay7ay8ay9ax80ay1ay2ay3ay4ay5ay6ay7ay8ay9azAax90ay1ay2ay3ay4azAay5ay6ay7ay8ay9azAaw300ay1ay2ay3",
  "ay4ay5ay6ay7ay8ay9azAax10ay1ay2ay3ay4ay5ay6ay7ay8ay9ax20ay1ay2ay3ay4ay5ay6ay7ay8ay9azAax30ay1",
  "ay2AazBazCay3ay4ay5ay6azAazBazCay7ay8ay9ax40ay1ay2ay3ay4ay5ay6ay7ay8ay9ax50ay1ay2ay3ay4ay5ay6ay7",
  "ay8ay9azAax60ay1ay2ay3ay4azAay5ay6ay7ay8azAay9ax70ay1azAay2ay3ay4ay5ay6ay7ay8ay9ax80ay1azAay2",
  "ay3 RA OR RIazAay4ay5ay6azAay7ay8ay9ax90ay1ay2ay3 EIGHTay4ay5ay6ay7ay8ay9aw400ay1ay2ay3ay4ay5ay6",
  "ay7ay8ay9ax10 BEGIN LOGOGRAM MARKazA END LOGOGRAM MARKay1ay2ay3ay4ay5ay6ay7ay8ay9ax20ay1ay2ay3",
  "ay4ay5ay6ay7ay8ay9ax30ay1ay2ay3ay4ay5ay6ay7ay8ay9ax40ay1ay2ay3ay4ay5ay6ay7ay8ay9ax50azAay1ay2ay3",
  "ay4ay5ay6ay7azAay8ay9ax60ay1ay2ay3ay4ay5ay6ay7ay8ay9ax70ay1ay2ay3ay4ay5ay6ay7ay8ay9ax80ay1ay2ay3",
  "ay4ay5ay6ay7ay8ay9ax90ay1ay2ay3ay4ay5ay6ay7aw501ay2ay3ay4ay5ay6ay7ay8ay9ax10ay1ay2ay3ay4ay5ay6",
  "ay7ay8ay9ax20ay1ay2ay3ay4ay5ay6ay7ay8ay9ax30afMICAL HEARTacCHORacD WITH DOTacGER SYMBOLadLE",
  "af WITH S INSIDEalUNDERBARadRY FACEadSTROM SIGNadUISHED FACEacKHacTadENNA WITH BARS",
  "adICLOCKWISE CLOSED CIRCLE ARROWapONTOUR INTEGRALaoDOWNWARDS AND UPWARDS OPEN CIRCLE ARROWS",
  "aoGAPPED CIRCLE ARROWaoINTEGRATIONaoOPEN CIRCLE ARROWaoTOP SEMICIRCLE ARROW",
  "apRIANGLE-HEADED BOTTOM U-SHAPED ARROWbeLEFT U-SHAPED ARROWbeOPEN CIRCLE ARROW",
  "beRIGHT U-SHAPED ARROWbeTOP U-SHAPED ARROWabPCacL FUNCTIONAL SYMBOL ALPHAbb UNDERBAR",
  "awBACKSLASH BARawCIRCLE BACKSLASHbdDIAERESISbdJOTbdSTARbfILEbdUNDERBARaxOMMA BARawDEL DIAERESIS",
  "baSTILEbaTILDEazTA STILEbcUNDERBARaxIAMOND UNDERBARaxOWN CARET TILDEbbSHOE STILEbbTACK JOT",
  "bgUNDERBARbaWARDS VANEawEPSILON UNDERBARawGREATER-THAN DIAERESISawI-BEAMaxOTAba UNDERBAR",
  "awJOT DIAERESISbaUNDERBARawLEFT SHOE STILEbaWARDS VANEawOMEGAbb UNDERBARawQUADba BACKSLASH",
  "bbCIRCLEbcOLONbbDELbeTAbcIAMONDbdVIDEbcOWN CARETbfWARDS ARROWbbEQUALbbGREATER-THANbbJOT",
  "bbLEFTWARDS ARROWbdSS-THANbbNOT EQUALbbQUESTIONbbRIGHTWARDS ARROWbbSLASHbbUP CARETbdWARDS ARROW",
  "ayOTE QUADbcUNDERBARawRHOaxIGHTWARDS VANEawSEMICOLON UNDERBARaxLASH BARaxQUISH QUAD",
  "axTAR DIAERESISayILE TILDEawTILDE DIAERESISawUP CARET TILDEazSHOE JOTazTACK DIAERESISbeJOT",
  "beOVERBARayWARDS VANEawZILDEacOLLONadSTROPHEacPLICATION PROGRAM COMMANDadROACHES THE LIMIT",
  "afXIMATELY BUT NOT ACTUALLY EQUAL TOaoEQUAL OR EQUAL TOauTOaw OR THE IMAGE OFabQUARIUS",
  "abRABIC BASELINE ROUND DOTahCOMMAaiURLY DAMMAasTANanFATHAasTANanKASRAasTANahDAMMA",
  "am ISOLATED FORManMEDIAL FORManWITH DOTamTANap ISOLATED FORMajTE SEPARATORaiECIMAL SEPARATOR",
  "aiISPUTED END OF AYAHaiOUBLE RIGHT ARROWHEAD ABOVEbj WITH DOTanD MADDAahEMPTY CENTRE HIGH STOP",
  "auLOW STOPaiND OF AYAHaoTEXT MARKahFATHAam ISOLATED FORManMEDIAL FORManWITH DOT ABOVEasRING",
  "asTWO DOTSamTANap ISOLATED FORMaiIVE POINTED STARaiOOTNOTE MARKERaiULL STOP",
  "ahHALF MADDA OVER MADDAajMZA ABOVEanBELOWahINVERTED DAMMAahKASRAam ISOLATED FORManMEDIAL FORM",
  "anWITH DOT BELOWamTANap ISOLATED FORMahLARGE CIRCLE BELOWanROUND DOT ABOVEaxBELOW",
  "axINSIDE CIRCLE BELOWaiEFT ARROWHEAD ABOVEawBELOWajTTER AEapFRICAN FEHawNOONawQAF",
  "az WITH THREE DOTS ABOVEapINar FINAL FORMasINITIAL FORMatSOLATED FORMasMEDIAL FORM",
  "asWITH THREE DOTS ABOVEbiBELOWbiPOINTING DOWNWARDS ABOVEayWO DOTS ABOVEbgVERTICALLY ABOVEapLEF",
  "as FINAL FORMatISOLATED FORMatMAKSURAba FINAL FORMbbISOLATED FORMatWASLAay FINAL FORM",
  "azISOLATED FORMauITH ATTACHED BOTTOM RIGHT KASRAbz AND DOT ABOVEceLEFT RINGbhFATHAbhKASRA",
  "bhLEFT HAMZAbmROUND DOTbhRIGHT HAMZAbnROUND DOTbiOUND DOT ABOVEbrBELOWbhTOP RIGHT FATHA",
  "bw AND DOT ABOVEcbLEFT RINGayDOT ABOVEayEXTENDED ARABIC-INDIC DIGIT THREE ABOVEcbWO ABOVE",
  "ayHAMZA ABOVEbj FINAL FORMbkISOLATED FORMbeBELOWbj FINAL FORMbkISOLATED FORMayLEFT MIDDLE STROKE",
  "ayMADDA ABOVEbj FINAL FORMbkISOLATED FORMayRIGHT MIDDLE STROKEbr AND DOT ABOVEbwLEFT RING",
  "ayWAVY HAMZA ABOVEbjBELOWaoBEEHas FINAL FORMatINITIAL FORMauSOLATED FORMatMEDIAL FORMaqH",
  "ar FINAL FORMasINITIAL FORMatSOLATED FORMasMEDIAL FORMasWITH DOT BELOW AND THREE DOTS ABOVE",
  "axHAMZA ABOVEaxINVERTED SMALL V BELOWaxSMALL MEEM ABOVEbdVbe BELOW",
  "axTHREE DOTS HORIZONTALLY BELOWbiPOINTING UPWARDS BELOWce AND TWO DOTS ABOVE",
  "ayWO DOTS BELOW AND DOT ABOVEarEHat FINAL FORMauINITIAL FORMavSOLATED FORMauMEDIAL FORMaoDAD",
  "ar FINAL FORMasINITIAL FORMatSOLATED FORMasMEDIAL FORMasWITH DOT BELOWaqHALat FINAL FORM",
  "auISOLATED FORMaqLar FINAL FORMasISOLATED FORMasWITH DOT BELOWbg AND SMALL TAHaxFOUR DOTS ABOVE",
  "axINVERTED SMALL V BELOWbgVaxRINGaxTHREE DOTS ABOVE DOWNWARDSbiBELOW",
  "ayWO DOTS VERTICALLY BELOW AND SMALL TAHapDAHALau FINAL FORMavISOLATED FORMarLas FINAL FORM",
  "atISOLATED FORMapOTLESS BEHawFEHawQAFapULar FINAL FORMasISOLATED FORMapYEHas FINAL FORM",
  "atINITIAL FORMauSOLATED FORMatMEDIAL FORMaoEap FINAL FORMaqINITIAL FORMarSOLATED FORM",
  "aqMEDIAL FORMaoFARSI YEHax FINAL FORMayINITIAL FORMazSOLATED FORMayMEDIAL FORM",
  "ayWITH EXTENDED ARABIC-INDIC DIGIT FOUR BELOWcfTHREE ABOVEcgWO ABOVEbdINVERTED V",
  "bdTHREE DOTS ABOVEbeWO DOTS ABOVEapEHar FINAL FORMasINITIAL FORMatSOLATED FORMasMEDIAL FORM",
  "asWITH DOT BELOWbg AND THREE DOTS ABOVEbbMOVED BELOWaxTHREE DOTS BELOWbiPOINTING UPWARDS BELOW",
  "ayWO DOTS BELOWaoGAFar FINAL FORMasINITIAL FORMatSOLATED FORMasMEDIAL FORMasWITH INVERTED STROKE",
  "axRINGaxTHREE DOTS ABOVEayWO DOTS BELOWapHAINat FINAL FORMauINITIAL FORMavSOLATED FORM",
  "auMEDIAL FORMauWITH DOT BELOWazTHREE DOTS ABOVEapRAFapUEHas FINAL FORMatINITIAL FORM",
  "auSOLATED FORMatMEDIAL FORMaoHAHar FINAL FORMasINITIAL FORMatSOLATED FORMasMEDIAL FORM",
  "asWITH EXTENDED ARABIC-INDIC DIGIT FOUR BELOWaxHAMZA ABOVEaxINVERTED SMALL V BELOW",
  "axSMALL ARABIC LETTER TAH ABOVEbwND TWO DOTSbvBELOWaxTHREE DOTS ABOVEbiPOINTING UPWARDS BELOW",
  "ayWO DOTS ABOVEbgVERTICAL ABOVEaqMZAat ISOLATED FORMapEHar DOACHASHMEEbd FINAL FORM",
  "beINITIAL FORMbfSOLATED FORMbeMEDIAL FORMasFINAL FORMasGOALaw FINAL FORMaxINITIAL FORM",
  "aySOLATED FORMaxMEDIAL FORMaxWITH HAMZA ABOVEasINITIAL FORMatSOLATED FORMasMEDIAL FORM",
  "asWITH INVERTED VaxYEH ABOVEbg FINAL FORMbhISOLATED FORMapIGH HAMZAay ALEFazWAWazYEHaoJEEM",
  "as FINAL FORMatINITIAL FORMauSOLATED FORMatMEDIAL FORMatWITH THREE DOTS ABOVEbjBELOW",
  "azWO DOTS ABOVEaqHar FINAL FORMasISOLATED FORMaoKAFar FINAL FORMasINITIAL FORMatSOLATED FORM",
  "asMEDIAL FORMasWITH DOT ABOVEbbBELOWaxRINGaxTHREE DOTS BELOWayWO DOTS ABOVEaqSHMIRI YEHapEHEH",
  "at FINAL FORMauINITIAL FORMavSOLATED FORMauMEDIAL FORMauWITH DOT ABOVEazSMALL V",
  "azTHREE DOTS ABOVEbkBELOWbkPOINTING UPWARDS BELOWbaWO DOTS ABOVEbiVERTICALLY BELOWapHAH",
  "as FINAL FORMatINITIAL FORMauSOLATED FORMatMEDIAL FORMapIRGHIZ OEay FINAL FORMazISOLATED FORM",
  "awYUay FINAL FORMazISOLATED FORMaoLAMar FINAL FORMasINITIAL FORMatSOLATED FORMasMEDIAL FORM",
  "asWITH BARaxDOT ABOVEazUBLE BARaxSMALL ARABIC LETTER TAH ABOVEbdVaxTHREE DOTS ABOVEbiBELOW",
  "apOW ALEFaoMARKapEEMas FINAL FORMatINITIAL FORMauSOLATED FORMatMEDIAL FORMatWITH DOT ABOVE",
  "bcBELOWayTHREE DOTS ABOVEaoNGaq FINAL FORMarINITIAL FORMasSOLATED FORMarMEDIAL FORMaqOEH",
  "at FINAL FORMauINITIAL FORMavSOLATED FORMauMEDIAL FORMapOONas FINAL FORMatGHUNNAaz FINAL FORM",
  "baISOLATED FORMatINITIAL FORMauSOLATED FORMatMEDIAL FORMatWITH DOT BELOWayINVERTED SMALL VayRING",
  "aySMALL TAHbeVayTHREE DOTS ABOVEazWO DOTS BELOWapYEHas FINAL FORMatINITIAL FORMauSOLATED FORM",
  "atMEDIAL FORMaoOEaq FINAL FORMarISOLATED FORMaoPEHar FINAL FORMasINITIAL FORMatSOLATED FORM",
  "asMEDIAL FORMasWITH SMALL MEEM ABOVEbdVarEHat FINAL FORMauINITIAL FORMavSOLATED FORM",
  "auMEDIAL FORMaoQAFar FINAL FORMasINITIAL FORMatSOLATED FORMasMEDIAL FORMasWITH DOT ABOVEbbBELOW",
  "bg AND NO DOTS ABOVEaxTHREE DOTS ABOVEaoREHar FINAL FORMasISOLATED FORMasWITH DOT BELOW",
  "bg AND DOT ABOVEaxFOUR DOTS ABOVEaxHAMZA ABOVEaxINVERTED VaxLOOPaxRING",
  "axSMALL ARABIC LETTER TAH AND TWO DOTSbdNOON ABOVEbdVbe BELOWayTROKEaxTWO DOTS ABOVE",
  "bgVERTICALLY ABOVEapNOONat FINAL FORMauINITIAL FORMavSOLATED FORMauMEDIAL FORMapOHINGYA YEHapREH",
  "as FINAL FORMatISOLATED FORMaoSADar FINAL FORMasINITIAL FORMatSOLATED FORMasMEDIAL FORM",
  "asWITH THREE DOTS ABOVEbiBELOWayWO DOTS BELOWapEENas FINAL FORMatINITIAL FORMauSOLATED FORM",
  "atMEDIAL FORMatWITH DOT BELOW AND DOT ABOVEayEXTENDED ARABIC-INDIC DIGIT FOUR ABOVE",
  "ayFOUR DOTS ABOVEayINVERTED VaySMALL ARABIC LETTER TAH AND TWO DOTSayTHREE DOTS BELOW",
  "bo AND THREE DOTS ABOVEazWO DOTS VERTICALLY ABOVEapHEENat FINAL FORMauINITIAL FORMavSOLATED FORM",
  "auMEDIAL FORMauWITH DOT BELOWapTRAIGHT WAWapUPERSCRIPT ALEFapWASH KAFaoTAHar FINAL FORM",
  "asINITIAL FORMatSOLATED FORMasMEDIAL FORMasWITH DOT BELOWaxTHREE DOTS ABOVEbiBELOW",
  "ayWO DOTS ABOVEapCHEHat FINAL FORMauINITIAL FORMavSOLATED FORMauMEDIAL FORMauWITH DOT ABOVE",
  "azSMALL VatEHav FINAL FORMawINITIAL FORMaxSOLATED FORMawMEDIAL FORMapEHar FINAL FORM",
  "asINITIAL FORMatSOLATED FORMasMARBUTAaz FINAL FORMbaGOALbaISOLATED FORMatEDIAL FORMasWITH RING",
  "axSMALL TEH ABOVEbdVaxTHREE DOTS ABOVE DOWNWARDSarEHat FINAL FORMauINITIAL FORMavSOLATED FORM",
  "auMEDIAL FORMapHALas FINAL FORMatISOLATED FORMaqEHas FINAL FORMatINITIAL FORMauSOLATED FORM",
  "atMEDIAL FORMaqIN YEHapTEHas FINAL FORMatINITIAL FORMauSOLATED FORMatMEDIAL FORMatWITH SMALL V",
  "asEHau FINAL FORMavINITIAL FORMawSOLATED FORMavMEDIAL FORMaoUap FINAL FORMaqISOLATED FORM",
  "aqWITH HAMZA ABOVEbg ISOLATED FORMapIGHUR KAZAKH KIRGHIZ ALEF MAKSURA INITIAL FORMbxMEDIAL FORM",
  "aoVEaq FINAL FORMarISOLATED FORMaqHar FINAL FORMasINITIAL FORMatSOLATED FORMasMEDIAL FORMaoWAW",
  "ar FINAL FORMasISOLATED FORMasWITH DOT ABOVEbbWITHINaxEXTENDED ARABIC-INDIC DIGIT THREE ABOVE",
  "caWO ABOVEaxHAMZA ABOVEbi FINAL FORMbjISOLATED FORMaxRINGaxTWO DOTS ABOVEaoYEHar BARREE",
  "ay FINAL FORMazISOLATED FORMazWITH EXTENDED ARABIC-INDIC DIGIT THREE ABOVEchWO ABOVE",
  "beHAMZA ABOVEbp FINAL FORMbqISOLATED FORMasFINAL FORMasINITIAL FORMatSOLATED FORMasMEDIAL FORM",
  "asWITH HAMZA ABOVEbi FINAL FORMbjINITIAL FORMbkSOLATED FORMbjMEDIAL FORMaxSMALL VaxTAIL",
  "ayHREE DOTS BELOWayWO DOTS BELOW AND DOT ABOVEbqHAMZA ABOVEbqSMALL NOON ABOVEapUaq FINAL FORM",
  "arISOLATED FORMaoZAHar FINAL FORMasINITIAL FORMatSOLATED FORMasMEDIAL FORMaqINas FINAL FORM",
  "atISOLATED FORMatWITH INVERTED V ABOVEaiIGATURE AIN WITH ALEF MAKSURA FINAL FORMbmISOLATED FORM",
  "azJEEM INITIAL FORMbfSOLATED FORMbeWITH MEEM FINAL FORMboINITIAL FORMazMEEM INITIAL FORM",
  "bfSOLATED FORMbeWITH ALEF MAKSURA FINAL FORMbjMEEM FINAL FORMboINITIAL FORMbjYEH FINAL FORM",
  "azYEH FINAL FORMbdISOLATED FORMarKBAR ISOLATED FORMarLAYHAA AS-SALAAMavE ISOLATED FORM",
  "avI AS-SALAAMbfTU WAS-SALAAMawM AS-SALAAMaxAA AS-SALAAM",
  "asEF MAKSURA WITH SUPERSCRIPT ALEF FINAL FORMbzISOLATED FORMavWITH FATHATAN FINAL FORM",
  "bjISOLATED FORMasLAH ISOLATED FORMarZZA WA JALLaqBEH WITH ALEF MAKSURA FINAL FORMbmISOLATED FORM",
  "azHAH INITIAL FORMbeSOLATED FORMbdWITH YEH FINAL FORMbaEH INITIAL FORMbdMEDIAL FORM",
  "azJEEM INITIAL FORMbfSOLATED FORMazKHAH INITIAL FORMbfSOLATED FORMbeWITH YEH FINAL FORM",
  "azMEEM FINAL FORMbeINITIAL FORMbfSOLATED FORMbeMEDIAL FORMazNOON FINAL FORMazREH FINAL FORM",
  "azYEH FINAL FORMbdISOLATED FORMazZAIN FINAL FORMarISMILLAH AR-RAHMAN AR-RAHEEM",
  "aqDAD WITH ALEF MAKSURA FINAL FORMbmISOLATED FORMazHAH INITIAL FORMbeSOLATED FORM",
  "bdWITH ALEF MAKSURA FINAL FORMbiYEH FINAL FORMazJEEM INITIAL FORMbfSOLATED FORM",
  "azKHAH INITIAL FORMbfSOLATED FORMbeWITH MEEM FINAL FORMboINITIAL FORMazMEEM INITIAL FORM",
  "bfSOLATED FORMazREH FINAL FORMbdISOLATED FORMazYEH FINAL FORMbdISOLATED FORM",
  "aqFEH WITH ALEF MAKSURA FINAL FORMbmISOLATED FORMazHAH INITIAL FORMbeSOLATED FORM",
  "azJEEM INITIAL FORMbfSOLATED FORMazKHAH INITIAL FORMbfSOLATED FORMbeWITH MEEM FINAL FORM",
  "boINITIAL FORMazMEEM INITIAL FORMbfSOLATED FORMbeWITH YEH FINAL FORMazYEH FINAL FORM",
  "bdISOLATED FORMaqGHAIN WITH ALEF MAKSURA FINAL FORMboISOLATED FORMbbJEEM INITIAL FORM",
  "bhSOLATED FORMbbMEEM INITIAL FORMbhSOLATED FORMbgWITH ALEF MAKSURA FINAL FORMblMEEM FINAL FORM",
  "blYEH FINAL FORMbbYEH FINAL FORMbfISOLATED FORMaqHAH WITH ALEF MAKSURA FINAL FORMbmISOLATED FORM",
  "azJEEM INITIAL FORMbfSOLATED FORMbeWITH YEH FINAL FORMazMEEM INITIAL FORMbfSOLATED FORM",
  "beWITH ALEF MAKSURA FINAL FORMbjYEH FINAL FORMazYEH FINAL FORMbdISOLATED FORM",
  "arEH WITH ALEF MAKSURA ISOLATED FORMazJEEM INITIAL FORMbfSOLATED FORMazMEEM INITIAL FORM",
  "bfSOLATED FORMbeWITH JEEM INITIAL FORMbjMEEM INITIAL FORMazSUPERSCRIPT ALEF INITIAL FORM",
  "azYEH ISOLATED FORMaqJALLAJALALOUHOUarEEM WITH ALEF MAKSURA FINAL FORMbnISOLATED FORM",
  "baHAH INITIAL FORMbfSOLATED FORMbeWITH ALEF MAKSURA FINAL FORMbjYEH FINAL FORM",
  "baMEEM INITIAL FORMbgSOLATED FORMbfWITH ALEF MAKSURA FINAL FORMbkHAH FINAL FORMboINITIAL FORM",
  "bkYEH FINAL FORMbaYEH FINAL FORMbeISOLATED FORMaqKAF WITH ALEF FINAL FORMbeISOLATED FORM",
  "beMAKSURA FINAL FORMbmISOLATED FORMazHAH INITIAL FORMbeSOLATED FORMazJEEM INITIAL FORM",
  "bfSOLATED FORMazKHAH INITIAL FORMbfSOLATED FORMazLAM FINAL FORMbdINITIAL FORMbeSOLATED FORM",
  "bdMEDIAL FORMazMEEM FINAL FORMbeINITIAL FORMbfSOLATED FORMbeMEDIAL FORMbeWITH MEEM FINAL FORM",
  "boINITIAL FORMbjYEH FINAL FORMazYEH FINAL FORMbdISOLATED FORMarHAH WITH ALEF MAKSURA FINAL FORM",
  "bnISOLATED FORMbaHAH ISOLATED FORMbaJEEM INITIAL FORMbgSOLATED FORMbaMEEM INITIAL FORM",
  "bgSOLATED FORMbaYEH FINAL FORMbeISOLATED FORMaqLAM WITH ALEF FINAL FORMbeISOLATED FORM",
  "beMAKSURA FINAL FORMbmISOLATED FORMbeWITH HAMZA ABOVE FINAL FORMbvISOLATED FORM",
  "bpBELOW FINAL FORMbvISOLATED FORMbjMADDA ABOVE FINAL FORMbvISOLATED FORMazHAH INITIAL FORM",
  "beSOLATED FORMbdWITH ALEF MAKSURA FINAL FORMbiMEEM FINAL FORMbnINITIAL FORMbiYEH FINAL FORM",
  "baEH INITIAL FORMazJEEM INITIAL FORMbfSOLATED FORMbeWITH JEEM FINAL FORMboINITIAL FORM",
  "bjMEEM FINAL FORMboINITIAL FORMbjYEH FINAL FORMazKHAH INITIAL FORMbfSOLATED FORM",
  "beWITH MEEM FINAL FORMboINITIAL FORMazMEEM FINAL FORMbeINITIAL FORMbfSOLATED FORMbeMEDIAL FORM",
  "beWITH HAH FINAL FORMbnINITIAL FORMbjYEH FINAL FORMazYEH FINAL FORMbdISOLATED FORM",
  "aqMEEM WITH ALEF FINAL FORMbfMAKSURA ISOLATED FORMbaHAH INITIAL FORMbfSOLATED FORM",
  "beWITH JEEM INITIAL FORMbjMEEM INITIAL FORMbjYEH FINAL FORMbaJEEM INITIAL FORMbgSOLATED FORM",
  "bfWITH HAH INITIAL FORMbkKHAH INITIAL FORMbkMEEM INITIAL FORMbkYEH FINAL FORMbaKHAH INITIAL FORM",
  "bgSOLATED FORMbfWITH JEEM INITIAL FORMbkMEEM INITIAL FORMbkYEH FINAL FORMbaMEEM FINAL FORM",
  "bfINITIAL FORMbgSOLATED FORMbfWITH YEH FINAL FORMbaYEH ISOLATED FORMarOHAMMAD ISOLATED FORM",
  "aqNOON WITH ALEF MAKSURA FINAL FORMbnISOLATED FORMbaHAH INITIAL FORMbfSOLATED FORM",
  "beWITH ALEF MAKSURA FINAL FORMbjMEEM INITIAL FORMbjYEH FINAL FORMbbEH INITIAL FORMbeMEDIAL FORM",
  "baJEEM INITIAL FORMbgSOLATED FORMbfWITH ALEF MAKSURA FINAL FORMbkHAH FINAL FORMboINITIAL FORM",
  "bkMEEM FINAL FORMbpINITIAL FORMbkYEH FINAL FORMbaKHAH INITIAL FORMbgSOLATED FORM",
  "baMEEM FINAL FORMbfINITIAL FORMbgSOLATED FORMbfMEDIAL FORMbfWITH ALEF MAKSURA FINAL FORM",
  "bkYEH FINAL FORMbaNOON FINAL FORMbaREH FINAL FORMbaYEH FINAL FORMbeISOLATED FORM",
  "baZAIN FINAL FORMaqQAF WITH ALEF MAKSURA FINAL FORMbmISOLATED FORMazHAH INITIAL FORM",
  "beSOLATED FORMazMEEM INITIAL FORMbfSOLATED FORMbeWITH HAH FINAL FORMbnINITIAL FORM",
  "bjMEEM FINAL FORMbjYEH FINAL FORMazYEH FINAL FORMbdISOLATED FORM",
  "asLA USED AS KORANIC STOP SIGN ISOLATED FORMarUDDISA SIRRAHaqRADI ALLAAHU ANHbgAAbgUMbiAAbhNNA",
  "asHIMAHU ALLAAHayM ALLAAHasSOUL ISOLATED FORMarEH WITH SUPERSCRIPT ALEF ISOLATED FORM",
  "aqSAD WITH ALEF MAKSURA FINAL FORMbmISOLATED FORMazHAH INITIAL FORMbeSOLATED FORM",
  "bdWITH HAH FINAL FORMbmINITIAL FORMbiYEH FINAL FORMazKHAH INITIAL FORMazMEEM INITIAL FORM",
  "bfSOLATED FORMbeWITH MEEM FINAL FORMboINITIAL FORMazREH FINAL FORMbdISOLATED FORM",
  "azYEH FINAL FORMbdISOLATED FORMasLAAMUHU ALAYNAAauM ISOLATED FORMatLA ISOLATED FORM",
  "awUSED AS KORANIC STOP SIGN ISOLATED FORMavLLAAHU ALAYHI WA-AALIHayHOU ALAYHE WASALLAM",
  "azU ALAYHI WAAALIHEE WA-SALLAMarEEN WITH ALEF MAKSURA FINAL FORMbnISOLATED FORM",
  "baHAH INITIAL FORMbfSOLATED FORMbeMEDIAL FORMbeWITH JEEM INITIAL FORMbbEH INITIAL FORM",
  "beMEDIAL FORMbaJEEM INITIAL FORMbgSOLATED FORMbfMEDIAL FORMbfWITH ALEF MAKSURA FINAL FORM",
  "bkHAH INITIAL FORMbaKHAH INITIAL FORMbgSOLATED FORMbfMEDIAL FORMbfWITH ALEF MAKSURA FINAL FORM",
  "bkYEH FINAL FORMbaMEEM INITIAL FORMbgSOLATED FORMbfMEDIAL FORMbfWITH HAH FINAL FORM",
  "boINITIAL FORMbkJEEM INITIAL FORMbkMEEM FINAL FORMbpINITIAL FORMbaREH FINAL FORMbeISOLATED FORM",
  "baYEH FINAL FORMbeISOLATED FORMarHADDA WITH DAMMA ISOLATED FORMbiMEDIAL FORMbhTAN ISOLATED FORM",
  "bcFATHA ISOLATED FORMbiMEDIAL FORMbcKASRA ISOLATED FORMbiMEDIAL FORMbhTAN ISOLATED FORM",
  "bcSUPERSCRIPT ALEF ISOLATED FORMasEEN WITH ALEF MAKSURA FINAL FORMboISOLATED FORM",
  "bbHAH FINAL FORMbfINITIAL FORMbgSOLATED FORMbfMEDIAL FORMbfWITH MEEM FINAL FORMbpINITIAL FORM",
  "bkYEH FINAL FORMbcEH INITIAL FORMbfMEDIAL FORMbbJEEM FINAL FORMbgINITIAL FORMbhSOLATED FORM",
  "bgMEDIAL FORMbgWITH YEH FINAL FORMbbKHAH FINAL FORMbgINITIAL FORMbhSOLATED FORMbgMEDIAL FORM",
  "bbMEEM FINAL FORMbgINITIAL FORMbhSOLATED FORMbgMEDIAL FORMbgWITH KHAH FINAL FORMbqINITIAL FORM",
  "blMEEM FINAL FORMbqINITIAL FORMbbREH FINAL FORMbfISOLATED FORMbbYEH FINAL FORMbfISOLATED FORM",
  "arUBHAANAHU WA TAAALAAaqTABAARAKA WA-TAAALAAasH WITH ALEF MAKSURA FINAL FORMbmISOLATED FORM",
  "azHAH INITIAL FORMbeSOLATED FORMazMEEM INITIAL FORMbfSOLATED FORMbeMEDIAL FORM",
  "beWITH HAH FINAL FORMbnINITIAL FORMbjMEEM INITIAL FORMbjYEH FINAL FORMazYEH FINAL FORM",
  "bdISOLATED FORMarEH WITH ALEF MAKSURA FINAL FORMbmISOLATED FORMazHAH INITIAL FORMbeSOLATED FORM",
  "bdWITH JEEM FINAL FORMbnINITIAL FORMbiMEEM INITIAL FORMbaEH INITIAL FORMbdMEDIAL FORM",
  "azJEEM INITIAL FORMbfSOLATED FORMbeWITH ALEF MAKSURA FINAL FORMbjMEEM INITIAL FORM",
  "bjYEH FINAL FORMazKHAH INITIAL FORMbfSOLATED FORMbeWITH ALEF MAKSURA FINAL FORM",
  "bjMEEM INITIAL FORMbjYEH FINAL FORMazMEEM FINAL FORMbeINITIAL FORMbfSOLATED FORMbeMEDIAL FORM",
  "beWITH ALEF MAKSURA FINAL FORMbjHAH INITIAL FORMbjJEEM INITIAL FORMbjKHAH INITIAL FORM",
  "bjYEH FINAL FORMazNOON FINAL FORMazREH FINAL FORMazYEH FINAL FORMbdISOLATED FORM",
  "azZAIN FINAL FORMarHAL WITH SUPERSCRIPT ALEF ISOLATED FORMasEH WITH ALEF MAKSURA FINAL FORM",
  "bnISOLATED FORMbaHEH MEDIAL FORMbaJEEM ISOLATED FORMbaMEEM FINAL FORMbfINITIAL FORM",
  "bgSOLATED FORMbfMEDIAL FORMbaNOON FINAL FORMbaREH FINAL FORMbaYEH FINAL FORMbeISOLATED FORM",
  "baZAIN FINAL FORMaqUIGHUR KIRGHIZ YEH WITH HAMZA ABOVE WITH ALEF MAKSURA FINAL FORM",
  "csINITIAL FORMctSOLATED FORMaqWASALLAM ISOLATED FORMaqYEH WITH ALEF MAKSURA FINAL FORM",
  "bmISOLATED FORMazHAH INITIAL FORMbeSOLATED FORMbdWITH YEH FINAL FORM",
  "bbMZA ABOVE WITH AE FINAL FORMbtISOLATED FORMbrLEF FINAL FORMbvISOLATED FORMbvMAKSURA FINAL FORM",
  "cdISOLATED FORMbqE FINAL FORMbsINITIAL FORMbtSOLATED FORMbqHAH INITIAL FORMbvSOLATED FORM",
  "brEH INITIAL FORMbuMEDIAL FORMbqJEEM INITIAL FORMbwSOLATED FORMbqKHAH INITIAL FORM",
  "bqMEEM FINAL FORMbvINITIAL FORMbwSOLATED FORMbvMEDIAL FORMbqNOON FINAL FORMbqOE FINAL FORM",
  "btISOLATED FORMbqREH FINAL FORMbqU FINAL FORMbsISOLATED FORMbqWAW FINAL FORMbuISOLATED FORM",
  "bqYEH FINAL FORMbuISOLATED FORMbrU FINAL FORMbtISOLATED FORMbqZAIN FINAL FORMbaEH INITIAL FORM",
  "bdMEDIAL FORMazJEEM INITIAL FORMbfSOLATED FORMbeWITH YEH FINAL FORMazKHAH INITIAL FORM",
  "bfSOLATED FORMazMEEM FINAL FORMbeINITIAL FORMbfSOLATED FORMbeMEDIAL FORMbeWITH MEEM FINAL FORM",
  "boINITIAL FORMbjYEH FINAL FORMazNOON FINAL FORMazREH FINAL FORMazYEH FINAL FORMbdISOLATED FORM",
  "azZAIN FINAL FORMaqZAH WITH MEEM INITIAL FORMbfSOLATED FORMbeMEDIAL FORMahMADDA WAAJIBamH ABOVE",
  "ajRK NOON GHUNNAamSIDEWAYS NOON GHUNNAajTHEMATICAL AINavLEFauBEHauDADawLavOTLESS BEHbcFEHbcNOON",
  "bcQAFawUBLE-STRUCK AINbiBEHbiDADbkLbiFEHbiGHAINbiHAHbiJEEMbiKHAHbiLAMbiMEEMbiNOONbiQAFbiREHbiSAD",
  "bjEENbjHEENbiTAHbjEHbjHALbkEHbiWAWbiYEHbiZAHbkINauFEHauGHAINauHAHauINITIAL AINbcBEHbcDADbcFEH",
  "bcGHAINbcHAHbdEHbcJEEMbcKAFbdHAHbcLAMbcMEEMbcNOONbcQAFbcSADbdEENbdHEENbcTEHbdHEHbcYEHauJEEMauKAF",
  "avHAHauLAMavOOPED AINbcLEFbbBEHbbDADbdLbbFEHbbGHAINbbHAHbcEHbbJEEMbbKHAHbbLAMbbMEEMbbNOONbbQAF",
  "bbREHbbSADbcEENbcHEENbbTAHbcEHbcHALbdEHbbWAWbbYEHbbZAHbdINauMEEMauNOONauOPERATOR HAH WITH DAL",
  "bdMEEM WITH HAH WITH TATWEELauQAFauREHauSADavEENavHEENavTRETCHED AINbeBEHbeDADbfOTLESS BEHbmFEH",
  "beFEHbeGHAINbeHAHbfEHbeJEEMbeKAFbfHAHbeMEEMbeNOONbeQAFbeSADbfEENbfHEENbeTAHbfEHbfHEHbeYEHbeZAH",
  "auTAHawILED AINbbDADbcOTLESS NOONbjQAFbbGHAINbbHAHbbJEEMbbKHAHbbLAMbbNOONbbQAFbbSADbcEENbcHEEN",
  "bbYEHavEHavHALawEHauWAWauYEHauZAHawINahNUMBER MARK ABOVEaoSIGNahOPEN DAMMATANamFATHATAN",
  "amKASRATANahPERCENT SIGNaiIASTRE MARK ABOVEaiLACE OF SAJDAHaiOETIC VERSE SIGNajUND MARK ABOVE",
  "ahQUESTION MARKahRAISED ROUND DOTajYaiEVERSED DAMMAaiIGHT ARROWHEAD ABOVEbc WITH DOTaxBELOW",
  "aiOUNDED HIGH STOP WITH FILLED CENTREahSEMICOLONaiHADDAan ISOLATED FORMaoMEDIAL FORM",
  "aiIGN ALAYHE ASSALLAMamMISRAamRADI ALLAHOU ANHUaoHMATULLAH ALAYHEamSAFHA",
  "aoLLALLAHOU ALAYHE WASSALLAMaoMVATaoNAHanINDHI AMPERSANDatPOSTPOSITION MENamTAKHALLUS",
  "aiMALL DAMMAanFARSI YEHapTHAanHIGH AINasDOTLESS HEAD OF KHAHasFARSI YEHatOOTNOTE MARKERasJEEM",
  "asLAM ALEFatIGATURE ALEF WITH LAM WITH YEHbbQAF WITH LAM WITH ALEF MAKSURA",
  "bbSAD WITH LAM WITH ALEF MAKSURAasMADDAatEEM INITIAL FORMaySOLATED FORMasNOONaw WITH KASRAasQAF",
  "asROUNDED ZEROasSADatEENatIGN SAFHAasTAHatHREE DOTSasUPRIGHT RECTANGULAR ZEROasWAWatORD AL-JUZ",
  "ayN-NISFayR-RUBayS-SAJDAayTH-THALATHAaxQIFaxSAHazKTAaxWAQFAasYEHav BARREE WITH TWO DOTS BELOW",
  "asZAHauINanKASRAanLOW MEEMarNOON WITH KASRAarSEENarWAWasORD IMAALAaxSHMAAMawTASHEELanWAWanYEH",
  "aiTART OF RUB EL HIZBaiUBSCRIPT ALEFajKUNam BELOWanISOLATED FORManMEDIAL FORM",
  "ajPERSCRIPT ALEF MOKHASSASaiYMBOL DOT ABOVEasBELOWaqUBLE VERTICAL BAR BELOWaoFOUR DOTS ABOVE",
  "ayBELOWaoRINGaoSMALL TAH ABOVEayBELOWaoTHREE DOTS ABOVEazBELOWazPOINTING DOWNWARDS ABOVEbsBELOW",
  "apWO DOTS ABOVEaxBELOWaxVERTICALLY ABOVEbiBELOWaoWASLA ABOVEahTAIL FRAGMENTajTWEEL",
  "ao WITH FATHATAN ABOVEauOVERSTRUCK HAMZAbfWAWauTWO DOTS BELOWaiHOUSANDS SEPARATOR",
  "aiONE LOOP ABOVEarBELOWamONE DOT ABOVEauBELOWamTWO DOTS ABOVEavBELOWaiRIPLE DOT PUNCTUATION MARK",
  "aiURNED DAMMA BELOWahVERTICAL TAILaiOWEL SIGN DOT BELOWasINVERTED SMALL V ABOVEasSMALL V ABOVE",
  "ahWAVY HAMZA BELOWahZWARAKAYag-INDIC CUBE ROOTanDIGIT EIGHTatFIVEauOURatNINEatONEatSEVENauIX",
  "atTHREEauWOatZEROanFOURTH ROOTanPER MILLE SIGNarTEN THOUSAND SIGNacCacIES",
  "acMENIAN ABBREVIATION MARKakPOSTROPHEajCAPITAL LETTER AYBayBENayCAazHAbaEHazOayDAayECHazHazT",
  "ayFEHayGHADazIMayHOayINIayJAazHEHayKEHbaNayLIWNayMENayNOWayOHayPEHazIWRayRAazEHaySEHazHAayTIWN",
  "azOayVEWazOayXEHayYIbaWNayZAazHEakOMMAajDRAM SIGNajEMPHASIS MARKakXCLAMATION MARKajFULL STOP",
  "ajHYPHENajMODIFIER LETTER LEFT HALF RINGajQUESTION MARKajSMALL LETTER AYBawBENawCAaxHAayEHaxO",
  "awDAawECHaxHaxTawFEHawGHADaxIMawHOawINIawJAaxHEHawKEHayNawLIWNawMENawNOWawOHawPEHaxIWRawRAaxEH",
  "awSEHaxHAawTIWNaxOaxURNED AYBawVEWaxOawXEHawYIay WITH STROKEayWNawZAaxHEaqIGATURE ECH YIWN",
  "ayMEN ECHbcINIbcNOWbcXEHayVEW NOWacROW POINTING DOWNWARDS THEN CURVING LEFTWARDSbmRIGHTWARDS",
  "apRIGHTWARDS THEN CURVING DOWNWARDSbnSOUTH WESTbnUPWARDSapUPWARDS THEN NORTH WEST",
  "afHEAD-SHAPED POINTERacTICULATED LORRYaeST PALETTEabSCENDING NODEadIA SYMBOLacSERTIONacTERISK",
  "ai OPERATORahMadONISHED FACEadRAEAaeONOMICAL SYMBOL FOR URANUSacYMPTOTICALLY EQUAL TO",
  "abTHLETIC SHOEacOM SYMBOLabUBERGINEacSTRAL SIGNacTO RICKSHAWaeMATED TELLER MACHINEafOBILE",
  "abVESTAN ABBREVIATION MARKaiLETTER AaqAarNarOaqEarEaqNaqOapBEaqHEapCEapDEaqHEapEaqEapFEapGEaqGE",
  "aqHEapHEaqMEapIaqIapJEapKEapLEapMEapNEaqGEarVEarYEaqNEaqYEapOaqOapPEapREapSEaqHEarYEaqSHEapTE",
  "aqHEaqTEapUaqUapVEapXEaqVEaqYEapYEaqYEapZEaqHEacOCADOabXEaaBABYae ANGELafBOTTLEafCHICKafSYMBOL",
  "acCK OF ENVELOPEafWITH LEFTWARDS ARROW ABOVEae-TILTED SHADOWED WHITE RIGHTWARDS ARROW",
  "aeSLANTED SOUTH ARROW WITH HOOKED TAILbfRIZONTAL TAILafPACEadONadTRIAN CAMELacDGER",
  "adMINTON RACQUET AND SHUTTLECOCKacGELadGAGE CLAIMadUETTE BREADacLINESE ADEG ADEG",
  "ajCARIK PAMUNGKAHarRERENapSIKIajDIGIT EIGHTapFIVEaqOURapNINEapONEapSEVENaqIXapTHREEaqWOapZERO",
  "ajLETTER AIKARAarKARAav TEDUNGarRCHAIC JNYAarSYURA SASAKaqBAas KEMBANGaqCAas LACAaqDAas MADU",
  "auURDA ALPAPRANAazMAHAPRANAaqEF SASAKarKARAaqGAas GORAaqHAaqIKARAav TEDUNGaqJAas JERAaqKA",
  "as MAHAPRANAasF SASAKarHOT SASAKaqLAas LENGAay TEDUNGaqMAaqNAas RAMBATarGAarYAaqOKARAav TEDUNG",
  "aqPAas KAPALaqRAas REPAax TEDUNGaqSAas SAGAavPAaqTAas LATIKatMURDA MAHAPRANAatTAWAarZIR SASAK",
  "aqUKARAav TEDUNGaqVE SASAKaqWAaqYAaqZAL SASAKajMUSICAL SYMBOL COMBINING BENDEbiENDEPbiGONG",
  "biJEGOGANbiKEMPLIbo WITH JEGOGANbmULbo WITH JEGOGANbiTEGEHayDAENGbaINGbaNGbc GEDEbdSURANGazENG",
  "baUNGazINGazONGazUNGayLEFT-HAND CLOSED PLAKbrUKbiOPEN PANGboINGboUNGayRIGHT-HAND CLOSED TAKbrUK",
  "bjOPEN DAGbpUGajPAMADAap LANTANGamENENGalNTIao LANTANGajSIGN BISAHaoCECEKaoREREKANaoSURANG",
  "aoULU CANDRAasRICEMajVOWEL SIGN LA LENGAbc TEDUNGauPEPETaz TEDUNGauRA REPAbb TEDUNGauSUKUay ILUT",
  "auTALINGba REPAbf TEDUNGbbTEDUNGavEDUNGauULUax SARIajWINDUadL OF YARNaeET SHOESaeOON",
  "ah-SPOKED ASTERISKafT BOLD SCRIPT XajXak WITH BALLOTarOLD CHECKavSCRIPT XaqCHECKaqLIGHT X",
  "aqSCRIPT XaqXahSCRIPT XahXacMUM COLONaiMBINING MARK KOQNDONavTUKWENTISajMAagFULL STOPagLETTER A",
  "anEEanFAAMAEaoEEaoOMaoUanIanKAaoENapTapUXaoIaoOapGHOMapVUUaoPAaoUaoYEEanLAaoEEEEaoIaoOQaoUanMaoA",
  "aoBAAapENaoEEEEapNaoIaoOaoUanNAaoDAAaoGAapGAapKWAENaoIaoJAEMapEEapUAEaoSHAaoTEEapUUaoUapAEaoYI",
  "anOanPAaoEEapUXaoHASE-A FIRIavGBIEE FONawHEUAEGHEUAEbbRAEavKAFAaxQawETaxUKEUTNDAawPOQawUOQ",
  "avLAPAQawET KUTawOMMAEawUaxAEPavMAEKEUPayMazBGBIEEazKPENazVEUXayNYIaySIaxNSUAEaxP PIEETawBANYI",
  "ayQawEUNJOMNDEUQawGBASAawON NGGEUAETaxOMEUTazPUQawVEUAENGAMavNAA MFONaxQawDA LEERAEWAayANGGEUAET",
  "awENawGANGUaxGENaxKUE MFONbaNZEUMawIKAawJAMawKAARAEaxINDIawSHAayIEEawTAPaz MFAAbaNTAAaxOQPEN",
  "awYETaxIayT MONGKEUAEQawZA MFONaxUN MEUTavPA LEERAEWAaxAMayRAEaxMSHAEaxSHAEawET",
  "awON MFON PIPAEMBAbkGBIEEazPA NJI PIPAEMBAbmGBIEEawUPavROMavSEUNYAMawHINDA PA NJIayRAE",
  "axOQ NSHUT YUMaxUENSHUETayMawISAawONJAMaxQaxTawUUavTEUAENayTEUWENawITA MFONawU MAEMBAaxAEP",
  "avU YUQ NAEawNKNOWNavVEEatB FEEaxUXavGHEUGHENbcUAEMavKAMawEUAEMayPUQayYEUXawIEEMaxQavLAANAE",
  "axM NSHUT NYAMawETawOM NTEUMavMAax NJEUAENAbaUQAawBA MAELEEayARAEaxEURIaxIT MBAAKETaxUOQawEUQ",
  "ayT NGGEETawFIYAQaxON TEUAEQawONTIEENavNDU NJAAawGGAAMayEU MBUayUOQbb LARGEaxKINDI MVOPaxOMawSEN",
  "axHUETawTIEE SHEUOQawYAEMAEaxI NTEUMavPARUMawEESHIawITawUNGAAMavSAKEUAEawET TUawHET NJAQayUAEQTU",
  "awIEEawUEavTAAMawU MAEMGBIEEayNSIEEavVEUMavWUAETavYAFU LEERAEWAawEURAEatC BUNGavFUEavGBAYIawHAP",
  "ayRAEavKAAawEN FATIGUEazLAWaxTaxUKAQayMaySEUXazHEUAEPawPARAQawUOP NKAARAEaxTavLAMaxPawIQawU",
  "avMA KEUAERIayNSIEEaxEMBAaySIawBAA CABBAGE-TREEbaPICKETayNYIaxEEKEETayRAEayUMazXaxIayRIEENayT",
  "axUAEMayEawGBASAQawIEEawUAEavNANSANAQaxQawDAMayPaxEUAEREEazTaxIDAaxOMBUawGAQaxGENayUazAEN NYAM",
  "azEETazMazONaxKAQayUE MAEMBAaxOMawJAEMayMaxEEEEayUXaxUEQawSAaxEUAENaxHAQaxOMaxUNayOT NGOMawTAA",
  "axENayUNGBAaxU MBITawYIR MKPARAQ MEUNawZAaxEUMavPENawINaxRIEENavRUavSETFONaxUXawHIQaxUEQawUAET",
  "avTAASHAEawETaxUTEUXawITA YUEayUAEPavVEUAEPENayXavWANGKUOQawUPavYAAawEUQawU MUOMAEaxMaxWOQ",
  "atD FAAawEUFEUAETavGHAAaxEUAEavKETaxUAETMEUNayMayOT MBUAEayPawUaxNaxOMaxQawWAETawYEEavLEEEEaxT",
  "axUAEPayMawIEEawOQawUMavMawAENJETaxLEERIawBAAaz SEVENaxUOawEEEEaxUNayTawFEUAEazTaxIEEaxOayN",
  "awGBEUNayIEEayOFUMawONIawUawVOPavNDAMaxEEayUXaxONawGGAAMbbAEazPayEUXayUOMayWAENaxKAPayEUAEQbaRI",
  "ayIEEayUNayYEEawIawJAPaxEUAEMazTaxIayEEaxUEQawSHEEayUTaxIEEPbaTaxUMawTEEayUMaxUUawUawYAMaxETaxI",
  "axUEavPAPawEEaxUTAEawIPawUQaxUTavRAEMawEN MUCHazOLDawIIavSAPaxQawEUAEQawHEEayUAEazXaxIIaxOQaxU",
  "awOTawUAEaxEaxUavTAEawEEEEaxUAENayNayTawIawOQawUaxOTavWAPawUAENavYAEMMAEawENawUOMayPaxWOQatE A",
  "avFAaxQawEEawOMawU CALLayIayREMEDYaxEayTavGBETayUXawHAAMAEaxETayUAEazNazXaxOMavIavKETaxUAEayXawI",
  "awOawPEUXawUETaxOPaxTavLAAMaxPaxQawEUAEMawOMaxONayTaxQawUavMAaxEayMaxPaxQawBEEayUMawENawFEUQ",
  "awGBAayENawIaxEEawONawUAEawVIavNAaxEawDAA MY HOUSEbaSOFTNESSayPaxIAQayQaxUNawGAaxEUREUTaxGEEEE",
  "azUAEbcTayUAESHAE NYAMazPazRAEaxKAazAMIayEUAEMbaXayUMazPaxOPayQaxUAEbaTawJAEMLIaxEEaz EPOCHayUX",
  "awKOMawSHIEEayUEazOPawTAPaxUMawYI BETWEENazCLEAVERawZAQaxUQavOavPA PEOPLEazLURALaxAayMawEEMaxUT",
  "ayXawIaxEEQayTawOaxONawUaxAEayQaxEaxMavRAEaxQawEUXawIMGBAavSAAawEEaxTawHEUAEQaxIQaxOayQawOM",
  "awUAENavTAAayQaxEN NTEUMaxMaxQawENaxUayAEQawOOayNaxQawUAEaxMayAEavVEEaxUAEawOMavWEUXawUEaxOavYAP",
  "awEUAEbaTayMayXawIEEaxTawOQ COVERazSWIMMINGawUAENaxEQaxNaxQatF EEavFOMavKAawENaxTawOawPAawUawYEE",
  "avLAawIawOQavMawAawBAAaxENawEEEEawOavNDAAawGGAaxKWAENawIawJAEMaxUAEawSHAawTEEawUaxAEawYIavPEE",
  "axUXawUAEavREEaxNaxUXawIEEaxIawUavSAMBAawEUXawHIIaxOaxUawIawUUavTAAaxEawETavUavVUEQavWAawUEavYA",
  "awOQaoIaoUAEapEanRAEaoEEapNapUXaoIEEapIaoUanSAMBAaoEUXaoHEUXapIIapOapUaoIaoUUanTAAapEaoENapTaoI",
  "anUanWAaoUEanYAaoOQaoUQagNJAEMLIagQUESTION MARKagSEMICOLONacNANAadJOadKaeNOTE WITH DOLLAR SIGN",
  "aoEURO SIGNaoPOUND SIGNaoYEN SIGNacR CHARTaeOF SOAPadBER POLEacSEBALLadKETagBALL AND HOOP",
  "adSA VAH COMBINING HIGH TONEay-LOW TONEauLOW TONEax-MID TONEauMID TONEakFULL STOPakLETTER AarBA",
  "arCEarDHIIasOarEasEasNNIarFAarGAHasBUarHWAHarIarJOarKAasPAHarMBEarOasOarPAarSEarTOarUasWUarVU",
  "arWAatDDAarYEINasIEarZOacTadAK CONSONANT SIGN HavNGagLETTER AanBAanCAanDAanGAanHAanIanJA",
  "anKARO BAanLAanMAapNDAILING HAayNAaySAaoBAanNAaoDAaoGAaoORTHERN TAaoYAanPAapKPAK WAanRAanSA",
  "aoIMALUNGUN AayGAayHAayLAayMAayPAayRAaySAayWAayYAaoOUTHERN TAanUanWAanYAagPANGOLATajONGONAN",
  "agSIGN TOMPIahYMBOL BINDU JUDULatNA METEKatPANGOLATauINARBORASagVOWEL SIGN EasEarIarKARO IawOarO",
  "arPAKPAK EarUas FOR SIMALUNGUN SAadHaeTUBadTERYabEACH WITH UMBRELLAadMED ASCENDING MUSICAL NOTES",
  "ahDESCENDING MUSICAL NOTESahEIGHTH NOTESahSIXTEENTH NOTESadNSadR FACEaeDED PERSONadTING HEART",
  "adVERacCAUSEacDacER MUGadTLEacLadLae PEPPERafSYMBOLafWITH CANCELLATION STROKEaeHOP BELL",
  "acNGALI ABBREVIATION SIGNajNJIajU LENGTH MARKaiCURRENCY DENOMINATOR SIXTEENarNUMERATOR FOURbbONE",
  "be LESS THAN THE DENOMINATORbbTHREEbcWOaiDIGIT EIGHTaoFIVEapOURaoNINEaoONEaoSEVENapIXaoTHREEapWO",
  "aoZEROaiGANDA MARKaiISSHARaiLETTER AaqAaqIaqUapBAaqHAapCAaqHAapDAaqDAarHAaqHAapEapGAaqHAapHAapI",
  "aqIapJAaqHAapKAaqHAasNDA TAapLAapMAapNAaqGAaqNAaqYAapOapPAaqHAapRAar WITH LOWER DIAGONAL",
  "axMIDDLE DIAGONALaqHAaqRAapSAaqHAaqSAapTAaqHAaqTAarHAapUaqUapVEDIC ANUSVARAaqOCALIC LayLaxRayR",
  "apYAaqYAaiRUPEE MARKaoSIGNaiSANDHI MARKajIGN ANUSVARAaoVAGRAHAanCANDRABINDUanNUKTAanVIRAMA",
  "apSARGAaiVOWEL SIGN AAauIauUatEatIauIatOatUauUatVOCALIC LbcLbbRbcR",
  "adT ARROW POINTING DOWNWARDS THEN NORTH EASTaeO BOXadZENE RINGam WITH CIRCLEacT SYMBOLadWEEN",
  "acVERAGE BOXabHAIKSUKI DANDAalIGIT EIGHTaqFIVEarOURaqNINEaqONEaqSEVENarIXaqTHREEarWOaqZERO",
  "alOUBLE DANDAakGAP FILLER-1av2akHUNDREDS UNIT MARKakLETTER AasAasIasUarBAasHAarCAasHAarDAasDA",
  "atHAasHAarEarGAasHAarHAarIasIarJAasHAarKAasHAarLAarMAarNAasGAasNAasYAarOarPAasHAarRAarSAasHAasSA",
  "arTAasHAasTAatHAarUasUarVAasOCALIC LazRbaRarYAakNUMBER EIGHTawYarFIFTYatVEasORTYatURarNINEavTY",
  "arONEarSEVENawTYasIXauTYarTENasHIRTYatREEasWENTYatOakSIGN ANUSVARAaqVAGRAHAapCANDRABINDUapVIRAMA",
  "arSARGAakVOWEL SIGN AAawIawUavEavIawIavOavUawUavVOCALIC LbdRbeRakWORD SEPARATORabICYCLEagIST",
  "acG REVERSE SOLIDUSaeSOLIDUSacKINIacLLED CAPaeIARDSacOHAZARD SIGNacRDadTHDAY CAKEacSON",
  "acTCOIN SIGNadING LIPabLACK BOWTIEagCENTRE WHITE STARahHESS BISHOPas ROTATED NINETY DEGREES",
  "bbTWO HUNDRED SEVENTY DEGREESamEQUIHOPPERaw ROTATED NINETY DEGREESamKING",
  "aq ROTATED NINETY DEGREESazTWO HUNDRED SEVENTY DEGREESanNIGHTas ROTATED FORTY-FIVE DEGREES",
  "bbNINETY DEGREESbbONE HUNDRED THIRTY-FIVE DEGREESbbTHREE HUNDRED FIFTEEN DEGREES",
  "bcWO HUNDRED SEVENTY DEGREESbnTWENTY-FIVE DEGREESas-BISHOPatQUEENatROOKamPAWN",
  "aq ROTATED NINETY DEGREESazTWO HUNDRED SEVENTY DEGREESamQUEENar ROTATED NINETY DEGREES",
  "baTWO HUNDRED SEVENTY DEGREESamROOKaq ROTATED NINETY DEGREESazTWO HUNDRED SEVENTY DEGREES",
  "amTURNED BISHOPatKINGauNIGHTatPAWNatQUEENatROOKahIRCLEam FOR RECORDanWITH DOWN ARROW",
  "asTWO WHITE DOTSasWHITE DOT RIGHTahLUB SUITahROSS ON SHIELDahURVED DOWNWARDS AND LEFTWARDS ARROW",
  "bbRIGHTWARDS ARROWanLEFTWARDS AND DOWNWARDS ARROWbbUPWARDS ARROWanRIGHTWARDS AND DOWNWARDS ARROW",
  "bcUPWARDS ARROWanUPWARDS AND LEFTWARDS ARROWazRIGHTWARDS ARROWagDIAMONDan CENTREDaoMINUS WHITE X",
  "aoON CROSSaoSUITaoWITH DOWN ARROWahOWN POINTING BACKHAND INDEXak-POINTING DOUBLE TRIANGLE",
  "auISOSCELES RIGHT TRIANGLEauSMALL TRIANGLEauTRIANGLEakWARDS EQUILATERAL ARROWHEADahRAUGHTS KING",
  "apMANaiOPLETagFLAGaiORETTEahOLDERaiUR POINTED STARagHARD SHELL FLOPPY DISKahEARTal SUITaiXAGON",
  "ahORIZONTAL ELLIPSEaiURGLASSagLARGE CIRCLEamSQUAREahEFT LANE MERGEalPOINTING BACKHAND INDEX",
  "auINDEXak-POINTING DOUBLE TRIANGLEbj WITH VERTICAL BARauISOSCELES RIGHT TRIANGLEauPOINTER",
  "auSMALL TRIANGLEauTRIANGLEakWARDS BULLETaqEQUILATERAL ARROWHEADahOWER LEFT TRIANGLE",
  "amRIGHT TRIANGLEaiZENGEagMEDIUM DIAMONDaoOWN-POINTING TRIANGLEbj CENTREDanLEFT-POINTING TRIANGLE",
  "bj CENTREDaoOZENGEanRIGHT-POINTING TRIANGLEbk CENTREDanSMALL DIAMONDatLOZENGEatSQUAREaoQUARE",
  "anUP-POINTING TRIANGLEbh CENTREDahOON LILITHagNIBagOCTAGONagPARALLELOGRAMahENNANTajTAGONahUSHPIN",
  "agQUESTION MARK ORNAMENTagRECTANGLEahIGHT POINTING BACKHAND INDEXavINDEX",
  "al-POINTING DOUBLE TRIANGLEbk WITH VERTICAL BARavISOSCELES RIGHT TRIANGLEavPENTAGONawOINTER",
  "avSMALL TRIANGLEavTRIANGLEbd WITH DOUBLE VERTICAL BARalWARDS ARROWawHEADarBULLET",
  "arEQUILATERAL ARROWHEADahOSETTEagSAFETY SCISSORSahCISSORSahHOGI PIECEahKULL AND CROSSBONES",
  "ahLIGHTLY SMALL CIRCLEavSQUAREahMALL DIAMONDamLOZENGEamSQUAREanTARaiILING FACEahNOWMAN",
  "ahPADE SUITahQUAREam BUTTONanCENTREDanFOR STOPahTARahUN WITH RAYSagTELEPHONEahINY DIAMOND",
  "alLOZENGEalSQUAREahOUCHTONE TELEPHONEahRUCKahWO-WAY LEFT WAY TRAFFICagUNIVERSAL RECYCLING SYMBOL",
  "ahP POINTING BACKHAND INDEXai-POINTING DOUBLE TRIANGLEasISOSCELES RIGHT TRIANGLEasSMALL TRIANGLE",
  "asTRIANGLEaiPER LEFT TRIANGLEamRIGHT TRIANGLEaiWARDS EQUILATERAL ARROWHEADagVERTICAL ELLIPSE",
  "apRECTANGLEajY SMALL DIAMONDarLOZENGEarSQUAREaf-FEATHERED NORTH EAST ARROWaqRIGHTWARDS ARROW",
  "aqSOUTH EAST ARROWagLETTER CAPITAL CavHavIavRavZadNK SYMBOLacOCK SEXTANT-1ap2aq3ar4as5as6ar5as6",
  "ar6aq4ar5as6ar6aq5ar6aq6ap3aq4ar5as6ar6aq56aq6ap4aq5ar6aq6ap5aq6ap6ao2ap3aq4ar5as6ar6aq5ar6aq6",
  "ap4aq5ar6ap5aq6ap6ao3ap4aq5ar6aq6ap5aq6ap6ao4ap5aq6ap6ao5ap6ao6adSSOMadWFISHacUE BOOKafHEART",
  "aeBERRIESabOARacLD EIGHT SPOKED ASTERISKafFIVE SPOKED ASTERISKafGREEK CROSSafSALTIRE",
  "agIX SPOKED ASTERISKafWHITE CIRCLEalSQUAREacMadBacNEacOKaeMARKai TABSaeSadMERANG",
  "acPOMOFO FINAL LETTER GawHawKawPawTajLETTER AarHarIasNNarMarNasGasNarUasNNaqBarUaqCarHaqDaqEarE",
  "arHarIarNasGasNarRaqFaqGarHarNarUarWaqHaqIarHarMarNNatNarRarUaqJarIaqKarWaqLarHaqMaqNarGasGarN",
  "aqOar WITH DOT ABOVEarEarMarNGasNarOarUaqPaqQaqRaqSarHaqTaqUarNNaqVaqXaqZarHarIarY",
  "acTTLE WITH POPPING CORKaeOM ARC ANTICLOCKWISE ARROWahCURLY BRACKETahHALF BLACK CIRCLEamINTEGRAL",
  "amLEFT PARENTHESISamRIGHT PARENTHESISahLEFT CORNERanROPamHALF BRACKETahPARENTHESISahRIGHT CORNER",
  "aoROPanHALF BRACKETahSQUARE BRACKETav OVER TOP SQUARE BRACKETahTORTOISE SHELL BRACKETacUQUET",
  "ah OF FLOWERSacW AND ARROWadL OF HYGIEIAafWITH SPOONaeINGadTIEag WITH LEFT HALF BLACK",
  "amRIGHT HALF BLACKacX DRAWINGS DOUBLE DOWN AND HORIZONTALbdLEFTbdRIGHTauHORIZONTAL",
  "auUP AND HORIZONTALbbLEFTbbRIGHTauVERTICALbc AND HORIZONTALbhLEFTbhRIGHT",
  "apWN DOUBLE AND HORIZONTAL SINGLEbdLEFT SINGLEbdRIGHT SINGLEasHEAVY AND HORIZONTAL LIGHT",
  "bcLEFT LIGHTbhUP LIGHTbcRIGHT LIGHTbiUP LIGHTbcUP HORIZONTAL LIGHTasLIGHT AND HORIZONTAL HEAVY",
  "bcLEFT HEAVYbhUP HEAVYbcRIGHT HEAVYbiUP HEAVYbcUP HORIZONTAL HEAVYasSINGLE AND HORIZONTAL DOUBLE",
  "bdLEFT DOUBLEbdRIGHT DOUBLEanHEAVY DOUBLE DASH HORIZONTALbfVERTICALavWNax AND HORIZONTALbcLEFT",
  "bcRIGHTatHORIZONTALatLEFTax AND LIGHT RIGHTatQUADRUPLE DASH HORIZONTALbiVERTICALatRIGHT",
  "atTRIPLE DASH HORIZONTALbfVERTICALatUPav AND HORIZONTALbaLEFTbbIGHT DOWNbaRIGHTatVERTICAL",
  "bb AND HORIZONTALbgLEFTbgRIGHTanLEFT DOWN HEAVY AND RIGHT UP LIGHTasHEAVY AND RIGHT DOWN LIGHT",
  "biUP LIGHTbiVERTICAL LIGHTasLIGHT AND RIGHT DOWN HEAVYbiUP HEAVYbiVERTICAL HEAVY",
  "asUP HEAVY AND RIGHT DOWN LIGHTaoIGHT ARC DOWN AND LEFTbgRIGHTaxUP AND LEFTbeRIGHT",
  "atDIAGONAL CROSSbcDIAMONDbcMIDDLE LEFT TO LOWER CENTREcd TO MIDDLE RIGHT",
  "brUPPER CENTRE TO MIDDLE RIGHTct TO LOWER CENTREbjRIGHT TO LOWER CENTRE",
  "bsUPPER CENTRE TO MIDDLE LEFT TO LOWER CENTREbcUPPER CENTRE TO MIDDLE LEFT",
  "cd AND MIDDLE RIGHT TO LOWER CENTREceTO LOWER CENTREct TO MIDDLE RIGHTbzRIGHT",
  "ce AND MIDDLE LEFT TO LOWER CENTREcfTO LOWER CENTREcu TO MIDDLE LEFTbiLEFT TO LOWER RIGHT",
  "biRIGHT TO LOWER LEFTauOUBLE DASH HORIZONTALbfVERTICALavWNax AND HORIZONTALbcLEFTbcRIGHT",
  "atHORIZONTALbd WITH VERTICAL STROKEatLEFTax AND HEAVY RIGHTatQUADRUPLE DASH HORIZONTALbiVERTICAL",
  "atRIGHTatTRIPLE DASH HORIZONTALbfVERTICALatUPav AND HEAVY DOWNbbORIZONTALbaLEFTbaRIGHTatVERTICAL",
  "bb AND HORIZONTALbgLEFTbgRIGHTanRIGHT DOWN HEAVY AND LEFT UP LIGHTatHEAVY AND LEFT DOWN LIGHT",
  "biUP LIGHTbiVERTICAL LIGHTatLIGHT AND LEFT DOWN HEAVYbiUP HEAVYbiVERTICAL HEAVY",
  "atUP HEAVY AND LEFT DOWN LIGHTanUP DOUBLE AND HORIZONTAL SINGLEbbLEFT SINGLEbbRIGHT SINGLE",
  "aqHEAVY AND DOWN HORIZONTAL LIGHTbaHORIZONTAL LIGHTbaLEFT DOWN LIGHTbfLIGHTbaRIGHT DOWN LIGHT",
  "bgLIGHTaqLIGHT AND DOWN HORIZONTAL HEAVYbaHORIZONTAL HEAVYbaLEFT DOWN HEAVYbfHEAVY",
  "baRIGHT DOWN HEAVYbgHEAVYaqSINGLE AND HORIZONTAL DOUBLEbbLEFT DOUBLEbbRIGHT DOUBLE",
  "anVERTICAL DOUBLE AND HORIZONTAL SINGLEbhLEFT SINGLEbhRIGHT SINGLEawHEAVY AND HORIZONTAL LIGHT",
  "bgLEFT LIGHTbgRIGHT LIGHTawLIGHT AND HORIZONTAL HEAVYbgLEFT HEAVYbgRIGHT HEAVY",
  "awSINGLE AND HORIZONTAL DOUBLEbhLEFT DOUBLEbhRIGHT DOUBLEadING GLOVEacYadS SYMBOLabPH",
  "abRAHMI DANDAaiIGIT EIGHTanFIVEaoOURanNINEanONEanSEVENaoIXanTHREEaoWOanZEROaiOUBLE DANDA",
  "ahLETTER AapAapIapUaoBAapHAaoCAapHAaoDAapDAaqHAapHAaoEaoGAapHAaoHAaoIapIaoJAapHAaoKAapHAaoLAapLA",
  "aoMAaoNAapGAapNAapYAaoOapLD TAMIL LLAbaLAayNNNAayRRAaySHORT EbeOaoPAapHAaoRAaoSAapHAapSAaoTAapHA",
  "apTAaqHAaoUapUaoVAapOCALIC LaxLawRaxRaoYAahNUMBER EIGHTatYaoFIFTYaqVEapORTYaqURaoJOINERaoNINE",
  "asTYaoONEar HUNDREDasTHOUSANDaoSEVENatTYapIXarTYaoTENapHIRTYaqREEapWENTYaqO",
  "ahPUNCTUATION CRESCENT BARatDOTavUBLE DOTatLINEauOTUSahSIGN ANUSVARAamCANDRABINDUamJIHVAMULIYA",
  "amOLD TAMIL VIRAMAamUPADHMANIYAamVISARGAahVIRAMAaiOWEL SIGN AAatIatUasBHATTIPROLU AAasEasIatIasO",
  "atLD TAMIL SHORT EbiOasUatUasVOCALIC LbbLbaRbbRadILLE PATTERN BLANKaqDOTS-1aw2ax3ay4az5ba6bb7bc8",
  "bb8ba7bb8ba8az6ba7bb8ba8az7ba8az8ay5az6ba7bb8ba8az7ba8az8ay6az7ba8az8ay7az8ay8ax4ay5az6ba7bb8ba8",
  "az7ba8az8ay6az7ba8az8ay7az8ay8ax5ay6az7ba8az8ay7az8ay8ax6ay7az8ay8ax7ay8ax8aw3ax4ay5az6ba7bb8ba8",
  "az7ba8az8ay6az7ba8az8ay7az8ay8ax5ay6az7ba8az8ay7az8ay8ax6ay7az8ay8ax7ay8ax8aw4ax5ay6az7ba8az8ay7",
  "az8ay8ax6ay7az8ay8ax7ay8ax8aw5ax6ay7az8ay8ax7ay8ax8aw6ax7ay8ax8aw7ax8aw8av2aw3ax4ay5az6ba7bb8ba8",
  "az7ba8az8ay6az7ba8az8ay7az8ay8ax5ay6az7ba8az8ay7az8ay8ax6ay7az8ay8ax7ay8ax8aw4ax5ay6az7ba8az8ay7",
  "az8ay8ax6ay7az8ay8ax7ay8ax8aw5ax6ay7az8ay8ax7ay8ax8aw6ax7ay8ax8aw7ax8aw8av3aw4ax5ay6az7ba8az8ay7",
  "az8ay8ax6ay7az8ay8ax7ay8ax8aw5ax6ay7az8ay8ax7ay8ax8aw6ax7ay8ax8aw7ax8aw8av4aw5ax6ay7az8ay8ax7ay8",
  "ax8aw6ax7ay8ax8aw7ax8aw8av5aw6ax7ay8ax8aw7ax8aw8av6aw7ax8aw8av7aw8av8aeNacEADaeK PERMITTED HERE",
  "aeST-FEEDINGadVEacICKadDE WITH VEILaeGE AT NIGHTadEFCASEafSacOCCOLIadKEN BAR",
  "ahCIRCLE WITH NORTHWEST ARROWahHEARTadOMadWN HEARTabSabUBBLE TEAagSacCKETacG",
  "adINESE END OF SECTIONajLETTER AaqBAaqCAaqDAaqGAaqHAaqJAaqKAaqLAaqMAarPAaqNAarGAasKAarRAarYAasCA",
  "aqPAaqRAaqSAaqTAaqVAaqYAajPALLAWAajVOWEL SIGN AEauEauIauOauUacHID LETTER AanBAanDAanGAanHAanI",
  "anKAanLAanMAanNAaoGAanPAanRAanSAanTAanUanWAanYAagVOWEL SIGN IarUacILDING CONSTRUCTIONacLLET",
  "ag OPERATORaeHORNai WITH SOUND WAVESaeSEYEacRRITOacSad STOPadT IN SILHOUETTEaeS IN SILHOUETTE",
  "acTTERagFLYabYTE ORDER MARKacZANTINE MUSICAL SYMBOL AGOGI ARGIbiOTERIbfGORGIbjOTERIbfMESIbhTRIA",
  "bfPOLI ARGIbkGORGIbaNATRICHISMAbbTIKENOKYLISMAbhMAbaPESO EKFONITIKONbgXO NEObbLI",
  "bbODERMA ARCHAIONbiNEObcSTROFOI SYNDESMOS NEObkTELOUS ICHIMATOSbiSbj DIPLIbkNEObcTHEMAbaRGON",
  "bdSYNTHETONbbKTIKO DIbhGAbhKEbhNIbhPAbhVOUbhZOazCHAMILIbfONbbOREVMA ARCHAIONbiNEObbROA KLITON",
  "bfSPATHIbfZYGOSazDASEIAbaIARGONbcSTOLI APLI MEGALIboIKRIbiDIPLIbiTHESEOSbbESIS APLI DYO DODEKATA",
  "bgDIGRAMMOS EX DODEKATAbgMONOGRAMMOS TESSERA DODEKATAbgTETARTIMORIONbhRIGRAMMOS OKTO DODEKATA",
  "bjTIMORIONbbFTOGGOS OUbbGORGONbh PARESTIGMENON ARISTERA ANOcfKATObwDEXIAbcRAMMA GGbbPLI",
  "be ARCHAIONbaYOazEKSTREPTONbaLAFRONbaNARXIS KAI FTHORA VOUbbDOFONONbaPEGERMA",
  "baTERON ARGOSYNTHETONbgPARAKALESMAbaXO EKFONITIKONazFANEROSIS DIFONIASbjMONOFONIASbjTETRAFONIAS",
  "baHTORA SKLIRON CHROMA VASISbaTHORA ARCHAIONbo DEYTEROU ICHOUbgDIATONIKI DIbqKEbqNANAbrI ANO",
  "btKATObqPAbqZObgENARMONIOS ANTIFONIAbgI YFESIS TETARTIMORIONbgMALAKON CHROMA DIFONIAS",
  "bvMONOFONIASbgNAOS ICHOSbhENANObgSKLIRON CHROMA SYNAFIbvVASISboDIATONON DIazGENIKI DIESIS",
  "bgYFESISbaORGON ARCHAIONbgNEO ANObkKATObgPARESTIGMENON ARISTERAbuDEXIAbeSYNTHETON",
  "bcTHMIKON N APLOUNbmDIPLOUNbaRONTHISMATAazICHADINbaMIDIARGONbcFONONbdTHORAbhON",
  "baSAKIA TELOUS ICHIMATOSbbON ARCHAIONbeNEOazKATAVA TROMIKONbfSMAbcHISTIbaENTIMA ARCHAION",
  "bhNEO ANOblKATOblMESObgTAbi ARCHAIONbjNEO ANObnKATObnMESObaLASMAbf ANObgKATObaONTEVMAbh ALLO",
  "bbRONISbbUFISMAbaRATIMA ALLObiRCHAIONbhNEObgTAbfOKOUFISMAbgYPORROONbbEMASTIbaYLISMA",
  "azLEIMMA DYO CHRONONbgENOS CHRONOUbgIMISEOS CHRONOUbgTESSARON CHRONONbhRION CHRONONbbMOIbaYGISMA",
  "azMARTYRIA ALLI DEYTEROS ICHOSbnPROTOS ICHOSbiDEYTEROS ICHOSbiLEGETOS ICHOSbiPLAGIOS ICHOS",
  "bqTETARTOS ICHOSbjROTOS ICHOSbnVARYS ICHOSbiTETARTOS ICHOSbrLEGETOS ICHOSbjRIFONIASblTOS ICHOS",
  "biVARYS ICHOSbaIKRON ISONazNANAazOLIGON ARCHAIONbgNEObaMALONbaXEIA DIPLIbfEKFONITIKONbfNEO",
  "beI ARCHAIONbaYRANISMA ARCHAIONbjNEOazPARAKALESMA ARCHAIONblNEObeLITIKIbk ARCHAIONblNEObcICHON",
  "baELASTONbh NEObbRISPOMENIbbTASMAbeTIbfOKOUFISMAbaIASMA ARCHAIONbgNEObaSIFISTOLYGISMAbhNbi NEO",
  "bhPARAKALESMAbhSYNAGMAbcLIbdONazRAPISMAbaEVMAazSAXIMATAbaEISMAbf NEObaIMANSIS ARSEOSbo DISIMOU",
  "bpTETRASIMOUbqRISIMOUbiTHESEOSbp DISIMOUbqTETRASIMOUbrRISIMOUbaTAVROSbg APODEXIAbbIGMA",
  "bbRAGGISMATAbaYNAGMA ARCHAIONbhMETA STAVROUbhNEObcEVMAbbRMAbeTIKIazTELEIAbbSSERAbbTRAPLIbaHEMA",
  "be APLOUNbeTISMOS ESObmXObcS KAI APOTHESbbITAbaINAGMAbaRIAbcGORGONbcPLIbbOMIKOLYGISMAbgN ALLO",
  "bjRCHAIONbiNEObgPARAKALESMAbhSIFISTONbgSYNAGMAazVAREIA DIPLIbgEKFONITIKONbgNEObfI ARCHAIONbbTHY",
  "azXIRON KLASMAazYFEN ANObeKATObcSIS APLI DYO DODEKATAbgDIGRAMMOS EX DODEKATA",
  "bgMONOGRAMMOS TESSERA DODEKATAbgTRIGRAMMOS OKTO DODEKATAbjTIMORIONbaPOKRISISbi DIPLIbcRROIbbSILI",
  "aaCACTUSacDA UNAadUCEUSacLENDARadL ME HANDacMERAag WITH FLASHadPINGacNadADIAN SYLLABICS AauAavI",
  "avYauIavVILIK BauNauTHAPASCAN MbeSauYatBEAVER DENE LbfRauIBLE-CREE YauLACKFOOT AbdEbdIbdKAbeEbeI",
  "beObdNAbeEbeIbeObdObdSbdWbeAbeEbeIbeOatCauAavAawIavRRIER CHAbdEbeEbdIbdObdUbbDEEbdNE GEEbeTAL S",
  "bcIbcLAbdEbeEbdIbdObdUbcZAbdEbeEbdIbdObdUbbEEbbGAbdAbcEbdEbcHAbdEbeEbdIbdObdUbcIbcObcUbcWAbdUbbH",
  "bcEEbcIbcWAbdEbeEbdIbdObdUbbIbcNITIAL ZbbJAbcEbdEbcIbcJAbdEbeEbdIbdObdUbcObcUbcWAbbKHAbdEbeEbdI",
  "bdObdUbcKbdAbdEbeEbdIbdObdUbbLAbcEbdEbcHAbdEbeEbdIbdObdUbcIbcObcUbbMAbcEbdEbcIbcObcUbbNAbcEbdE",
  "bcGbcIbcObcUbbPbcAbcEbdEbcIbcObcUbbRAbcEbdEbcIbcObcUbbSAbcEbdEbcHbdAbdEbeEbdIbdObdUbcIbcObcU",
  "bbTHAbdEbeEbdIbdObdUbcLAbdEbeEbdHAbeEbfEbeIbeObeUbdIbdObdUbcSAbdEbeEbdIbdObdUbcTAbdEbeEbdIbdO",
  "bdSAbeEbfEbeIbeObeUbdUbbWAbcEbdEbcIbcObcUbbYAbcEbdEbcIbcObcUbbZbcAbcEbdEbcIbcObcUauEauHI SIGNauI",
  "avIauOavOauWAawAavEavIawIavOawOatEauASTERN WauNatFauAavAawIauEauIavIavNAL ACUTE",
  "azBOTTOM HALF RINGazDOUBLE ACUTEbgSHORT VERTICAL STROKESbbWN TACKazGRAVEazMIDDLE DOTazPLUS",
  "azRAISED DOTbaIGHT HALF RINGbbNGazSHORT HORIZONTAL STROKEbaMALL RINGazTOP HALF RINGauOavO",
  "auULL STOPauWAAatGLOTTAL STOPatHKauYPHENatIauIauNatKauAavAawIavYauEauIavIauOavOauWavAawAawYavE",
  "avIawIavOawOatLauAavAawIavYauEauHavAawAavIawIavOawOauIavIauOavOauWAawAavEavIawIavOawOatMauAavA",
  "awIavYauEavDIAL LbaRauHauIavIauOavOawSE-CREE SKauWAawAavEavIawIavOawOatNau-CREE THEbcIbdIauAavA",
  "awIavSKAPI CWAAbbKWAAbbMWAAbbNWAAbbS-WbcCWAbcKWbeAbcPWAbcTWAbcWAAbbTWAAbbWAAbcOObbYWAA",
  "avTTILIK HAbeAbdIbeIbdObeObcSHRAbgAbfIbgIbfObgOavYauEauGavAawAaxIawIavIawIavOawOauHauIavIauNGawA",
  "axAawIaxIawOaxOauOavOavYauUNAVIK HbcAbdAbcEbcIbdIbcObdOayUT HauWAawAavEavIawIavOawOatOauJIBWAY C",
  "bbKbbMbbNbcWIbeIbdObeObbPbbSbcHbbTauNauOauYatPauAavAawIavYauEauIavIauOavOavYauWAawAavEavIawIavO",
  "awOawYatQauAavAawIavIauIavIauOavOatRau-CREE REbbWEauAavAawIavYauEauIavIauOavOauWAawAavEEavIawI",
  "avOawOatSauAavAawIavYawISI HAbbEbbIbbObcObaJIbbUbcUbaMbaSHAbcEbcIbcObdObcWEbaTHbaYIauEauHavAawA",
  "awYavEavIawIavOawOawYavWAaxAawEawIaxIawOaxOaxYauIavIauOavOavUTH-SLAVEY KAHbhEHbhIHbhOHavYauPAavE",
  "avIavOauWavAawAavEavIawIavOawOatTauAavAawIavYauEauHav-CREE THbdAbeAbdEbdIbeIbdObeOavAawAavEavI",
  "awIavOawOavWAaxAawEauIavIauLHAawEawIawOaxOawWEauOavOauTAavEavHawAaxAawEawIawOaxOawWEavIavOauWA",
  "awAavEavIawIavOawOauYAavEavIavOatWAavAavYauEavST-CREE CWAbgAbfEbfIbgIbfObgObdFWAAbdKWAbgAbfEbfI",
  "bgIbfObgObdLbeAbfAbeEbeObfObeWAbgAbfEbfIbgIbfObgObdMbeWAbgAbfEbfIbgIbfObgObdNWAbgAbfEbdPbeWAbgA",
  "bfEbfIbgIbfObgObdRbeAbeEbeIbeObeWAAbdSHWAbhAbgEbgIbhIbgObhObeWAbgAbfEbfIbgIbfObgObdTHWAAbeWAbgA",
  "bfEbfIbgIbfObgObdWAbfAbeEbeIbfIbeObfObdYbeWAbgAbfEbfIbgIbfObgOaxERN WauIavIauOavO",
  "awDS-CREE FINAL THbeTHbgAbgEbgIbgObgWAbiAbhEEbhIbiIbhObiOatYau-CREE COObaKOObaLOObaMOObaNOObaOO",
  "baPOObbWAAbaSOObaTOObaWbaYOOauAavAawIavYauEauIavIauOavOavYauWAawAavEavIawIavOawOadCEL",
  "ag CHARACTERahTAGagLATION XafRadDLEaeYadNED FOODadOEacPITULUMadRICORNacR SLIDINGadD FILE BOX",
  "afINDEXak DIVIDERSadE OFaeTaf INSERTION POINTadIAN LETTER Aap2aoBaoC-18aq39aoDap2aoEap2aoGap2aoI",
  "apIaoKap2aoLapDaq2aoMapBaq2aq3aq4aoNapDapGapNaoOaoPap2aoQaoRapRaoSapHaq2apSapTaq2aoTapTaq2aoUapU",
  "aqUar2ar3arUaoXadONaeUSEL HORSEadP STREAMERaeENTRY SAWadRIAGE RETURNaeOTacSTLEacTad FACE",
  "ai WITH TEARS OF JOYaoWRY SMILEacUCASIAN ALBANIAN CITATION MARKatLETTER ALTbbORbaBETbaCARbcYN",
  "bbHAbdTbcIbcOYbbYAWbdYbaDATbbYANbbZAYbcYAYbaEBbbYNbaFAMbaGHEYSbbIMbaHEYTbaINYAbbRBbbWNbaJAYN",
  "bbHOXbaKARbbIWbaLANbbYITbaMAQbaNOWCbaONbaPENbbIWRbaQARbcYbaRATbaSEYKbbHAbdKbcOYbaTASbbIWRbbYAY",
  "baVEYZbaXEYNbaYAYDbbOWDbaZARLbbHAbcILadTION SIGNabCHabEDI SIGNaeLLAacLTIC CROSSacNT SIGN",
  "aeRE LINE SYMBOLagLINE LOW LINEalOVERLINEacRESabGJabHAINSaeRadKMA AU MARKahDANDAaiIGIT EIGHT",
  "anFIVEaoOURanNINEanONEanSEVENaoIXanTHREEaoWOanZEROaiOUBLE DANDAahLETTER AAaoBAAapHAAaoCAAapHAA",
  "aoDAAapDAAaqHAAapHAAaoEaoGAAapHAAaoHAAaoIaoJAAapHAAaoKAAapHAAaoLAAapHAAaoMAAaoNAAapGAAapNAAapYAA",
  "aoPAAapHAAaoRAAaoSAAaoTAAapHAAapTAAaqHAAaoUaoVAAaoWAAaoYAAapYAAahMAAYYAAahO MARKahQUESTION MARK",
  "ahSECTION MARKaiIGN ANUSVARAamCANDRABINDUamVISARGAahVIRAMAaiOWEL SIGN AatAatIatUasEatIasIatIasO",
  "atIasUatUadM CONSONANT SIGN FINAL HbaMbaNGauLAauRAauWAauYAafDIGIT EIGHTalFIVEamOURalNINEalONE",
  "alSEVENamIXalTHREEamWOalZEROafLETTER AanIamBAanBAanHAamCHAaoHAamDAanDAanHAamEamFINAL CHasGasKasL",
  "asNatGasPasRasSSasTasYamGAanHAamHAamIamJAanHAamKAanHAamLAamMAanUEamNAanGAaoUEanHAaoJAaoUEanUEamO",
  "amPAanHAanPAamRAamSAanSAamTAanHAamUamVAamYAafPUNCTUATION DANDAasOUBLE DANDAarSPIRAL",
  "arTRIPLE DANDAafVOWEL SIGN AAarIarUaqEIaqIarIaqOarEaqUarEadRACTER TABULATIONau SET",
  "avWITH JUSTIFICATIONalIEaeT WITH DOWNWARDS TRENDalUPWARDS TRENDay AND YEN SIGNacECK MARK",
  "afER BOARDan FILLadERING MEGAPHONEaeSE WEDGEadQUERED FLAGadROKEE LETTER AaqDAarEarIarLAarOarUarV",
  "aqEaqGAarEarIarOarUarVaqHAarEarIarNAarOarUarVaqIaqKAaqLAarEarIarOarUarVaqMAarEarIarOarUarVaqNA",
  "asHarEarIarOarUarVaqOaqQUAasEasIasOasUasVaqSarAarEarIarOarUarVaqTAarEarIarLAasEasIasOasUasVarSA",
  "asEasIasOasUasVaqUaqVaqWAarEarIarOarUarVaqYAarEarIarOarUarVajSMALL LETTER AawDAaxEaxIaxLAaxOaxU",
  "axVawEawGAaxEaxIaxOaxUaxVawHAaxEaxIaxNAaxOaxUaxVawIawKAawLAaxEaxIaxOaxUaxVawMAaxEaxIaxOaxUaxV",
  "awNAayHaxEaxIaxOaxUaxVawOawQUAayEayIayOayUayVawSaxAaxEaxIaxOaxUaxVawTAaxEaxIaxLAayEayIayOayUayV",
  "axSAayEayIayOayUayVawUawVawWAaxEaxIaxOaxUaxVawYAaxEaxIaxOaxUaxVaeRIESafY BLOSSOMadSTNUTacI RHO",
  "adCKENadLDafREN CROSSINGadPMUNKadRONacOCOLATE BARadPSTICKSadRASMIAN LETTER ALEPHatYINasBETH",
  "asCURLED WAWasDALETHasGIMELasHEauTHasKAPHasLAMEDHasMEMasNUNasPEasRESHasSAMEKHatHINatMALL ALEPH",
  "asTAWasWAWasYODHasZAYINalNUMBER FOURasONEav HUNDREDasTENatHREEatWENTYauOacRISTMAS TREEacURCH",
  "abINEMAacRCLE DIVIDED BY HORIZONTAL BAR AND TOP HALF DIVIDED BY VERTICAL BAR",
  "ahWITH ALL BUT UPPER LEFT QUADRANT BLACKamHORIZONTAL BARamLEFT HALF BLACKanOWER HALF BLACK",
  "amRIGHT HALF BLACKamSMALL CIRCLE TO THE RIGHTanUPERIMPOSED X",
  "amTWO HORIZONTAL STROKES TO THE RIGHTamUPPER HALF BLACKasRIGHT QUADRANT BLACKamVERTICAL FILL",
  "agD ANTICLOCKWISE ARROWav-ROTATED DIVISION SIGNajSTERISK OPERATORaiBOLD XajULLET",
  "aiC WITH OVERLAID BACKSLASHajCajDajROSS FORMEEau WITH FOUR DOTSbaTWO DOTSaoPOMMEEanING LANES",
  "aiDASHajIGIT EIGHTaoFIVEapOURaoNINEaoONEaoSEVENapIXaoTHREEapWOaoZEROakVISION SIGNasLASH",
  "ajOLLAR SIGN WITH OVERLAID BACKSLASHakT OPERATORaiEQUALSaiGREATER-THANaiHANGUL CHIEUCHaw AaqIEUC",
  "au AapHIEUHau AapIEUNGau AavUapKHIEUKHaw AaqIYEOKav AapMIEUMau AapNIEUNau AapPHIEUPHaw AaqIEUP",
  "au AapRIEULau AapSIOSat AapTHIEUTHaw AaqIKEUTav AajEAVY WHITE RIGHTWARDS ARROW",
  "ajORIZONTAL BAR WITH NOTCHajUMAN FIGUREaiIDEOGRAPH ACCEPTatDVANTAGEatLLIANCEatTTENTIONasCENTRE",
  "atONGRATULATIONauPYauRRECTasEARTHatIGHTatNTERPRISEatXCELLENTasFEMALEatINANCIALauREauVEatOUR",
  "asHAVEatIGHasITEMasKINDERGARTENatOTOasLABORatEFTatOWasMALEatEDICINEauTALatOONasNAMEatIGHTauNE",
  "asONEasPRINTasQUESTIONasRELIGIONauSOURCEavTatIGHTasSCHOOLatECRETauVENatIXatOCIETYatPECIALatTOCK",
  "auUDYatUITABLEauNauPERVISEasTENatHREEatWOasWATERatOODajNFORMATION SOURCE",
  "ajTALIC LATIN CAPITAL LETTER CbkRaiKATAKANA AarEarHAasEasIasOasUarIarKAasEasIasOasUarMAasEasIasO",
  "asUarNAasEasIasOasUarOarRAasEasIasOasUarSAasEasIasOasUarTAasEasIasOasUarUarWAasEasIasOarYAasOasU",
  "ajOREAN CHARACTER CHAMKOazJUEUIaiLATIN CAPITAL LETTER AbdBbdCbdDbdEbdFbdGbdHbdIbdJbdKbdLbdMbdN",
  "bdObdPbdQbdRbdSbdTbdUbdVbdWbdXbdYbdZaoSMALL LETTER AbbBbbCbbDbbEbbFbbGbbHbbIbbJbbKbbLbbMbbNbbO",
  "bbPbbQbbRbbSbbTbbUbbVbbWbbXbbYbbZajESS-THANaiMINUSajULTIPLICATION SIGN WITH CIRCUMFLEX ACCENT",
  "aiNUMBER EIGHTEENauY ON BLACK SQUAREaqLEVENapFIFTEENatYau ON BLACK SQUAREaqORTYau EIGHTavFIVE",
  "awOURavNINEavON BLACK SQUAREaxEavSEVENawIXavTHREEawWOarURTEENapNINETEENapSEVENTEEN",
  "avY ON BLACK SQUAREaqIXTEENatY ON BLACK SQUAREapTENas ON BLACK SQUAREaqHIRTEENauYav EIGHTawFIVE",
  "axOURawNINEawON BLACK SQUAREayEawSEVENaxIXawTHREEaxWOaqWELVEasNTYav EIGHTawFIVEaxOURawNINE",
  "awON BLACK SQUAREayEawSEVENaxIXawTHREEaxWOaiOPEN CENTRE EIGHT POINTED STARaiPARALLEL",
  "ajERPENDICULARajLUSajOSTAL MARKaiREVERSE SOLIDUSajING OPERATORaiSQUAREaiTIMESajRIANGLEaq DOWN",
  "aiVERTICAL BARaiWHITE BULLETaoSTARajZaiXaiZERO WITH SLASHaeULATION FUNCTIONafMFLEX ACCENT",
  "afS TENTacTYSCAPEaj AT DUSKabJK COMPATIBILITY IDEOGRAPH-2F800bg1bg2bg3bg4bg5bg6bg7bg8bg9bgAbgB",
  "bgCbgDbgEbgFbf10bg1bg2bg3bg4bg5bg6bg7bg8bg9bgAbgBbgCbgDbgEbgFbf20bg1bg2bg3bg4bg5bg6bg7bg8bg9bgA",
  "bgBbgCbgDbgEbgFbf30bg1bg2bg3bg4bg5bg6bg7bg8bg9bgAbgBbgCbgDbgEbgFbf40bg1bg2bg3bg4bg5bg6bg7bg8bg9",
  "bgAbgBbgCbgDbgEbgFbf50bg1bg2bg3bg4bg5bg6bg7bg8bg9bgAbgBbgCbgDbgEbgFbf60bg1bg2bg3bg4bg5bg6bg7bg8",
  "bg9bgAbgBbgCbgDbgEbgFbf70bg1bg2bg3bg4bg5bg6bg7bg8bg9bgAbgBbgCbgDbgEbgFbf80bg1bg2bg3bg4bg5bg6bg7",
  "bg8bg9bgAbgBbgCbgDbgEbgFbf90bg1bg2bg3bg4bg5bg6bg7bg8bg9bgAbgBbgCbgDbgEbgFbfA0bg1bg2bg3bg4bg5bg6",
  "bg7bg8bg9bgAbgBbgCbgDbgEbgFbfB0bg1bg2bg3bg4bg5bg6bg7bg8bg9bgAbgBbgCbgDbgEbgFbfC0bg1bg2bg3bg4bg5",
  "bg6bg7bg8bg9bgAbgBbgCbgDbgEbgFbfD0bg1bg2bg3bg4bg5bg6bg7bg8bg9bgAbgBbgCbgDbgEbgFbfE0bg1bg2bg3bg4",
  "bg5bg6bg7bg8bg9bgAbgBbgCbgDbgEbgFbfF0bg1bg2bg3bg4bg5bg6bg7bg8bg9bgAbgBbgCbgDbgEbgFbe900bg1bg2bg3",
  "bg4bg5bg6bg7bg8bg9bgAbgBbgCbgDbgEbgFbf10bg1bg2bg3bg4bg5bg6bg7bg8bg9bgAbgBbgCbgDbgEbgFbf20bg1bg2",
  "bg3bg4bg5bg6bg7bg8bg9bgAbgBbgCbgDbgEbgFbf30bg1bg2bg3bg4bg5bg6bg7bg8bg9bgAbgBbgCbgDbgEbgFbf40bg1",
  "bg2bg3bg4bg5bg6bg7bg8bg9bgAbgBbgCbgDbgEbgFbf50bg1bg2bg3bg4bg5bg6bg7bg8bg9bgAbgBbgCbgDbgEbgFbf60",
  "bg1bg2bg3bg4bg5bg6bg7bg8bg9bgAbgBbgCbgDbgEbgFbf70bg1bg2bg3bg4bg5bg6bg7bg8bg9bgAbgBbgCbgDbgEbgF",
  "bf80bg1bg2bg3bg4bg5bg6bg7bg8bg9bgAbgBbgCbgDbgEbgFbf90bg1bg2bg3bg4bg5bg6bg7bg8bg9bgAbgBbgCbgDbgE",
  "bgFbfA0bg1bg2bg3bg4bg5bg6bg7bg8bg9bgAbgBbgCbgDbgEbgFbfB0bg1bg2bg3bg4bg5bg6bg7bg8bg9bgAbgBbgCbgD",
  "bgEbgFbfC0bg1bg2bg3bg4bg5bg6bg7bg8bg9bgAbgBbgCbgDbgEbgFbfD0bg1bg2bg3bg4bg5bg6bg7bg8bg9bgAbgBbgC",
  "bgDbgEbgFbfE0bg1bg2bg3bg4bg5bg6bg7bg8bg9bgAbgBbgCbgDbgEbgFbfF0bg1bg2bg3bg4bg5bg6bg7bg8bg9bgAbgB",
  "bgCbgDbgEbgFbeA00bg1bg2bg3bg4bg5bg6bg7bg8bg9bgAbgBbgCbgDbgEbgFbf10bg1bg2bg3bg4bg5bg6bg7bg8bg9bgA",
  "bgBbgCbgDbcF900bf1bf2bf3bf4bf5bf6bf7bf8bf9bfAbfBbfCbfDbfEbfFbe10bf1bf2bf3bf4bf5bf6bf7bf8bf9bfA",
  "bfBbfCbfDbfEbfFbe20bf1bf2bf3bf4bf5bf6bf7bf8bf9bfAbfBbfCbfDbfEbfFbe30bf1bf2bf3bf4bf5bf6bf7bf8bf9",
  "bfAbfBbfCbfDbfEbfFbe40bf1bf2bf3bf4bf5bf6bf7bf8bf9bfAbfBbfCbfDbfEbfFbe50bf1bf2bf3bf4bf5bf6bf7bf8",
  "bf9bfAbfBbfCbfDbfEbfFbe60bf1bf2bf3bf4bf5bf6bf7bf8bf9bfAbfBbfCbfDbfEbfFbe70bf1bf2bf3bf4bf5bf6bf7",
  "bf8bf9bfAbfBbfCbfDbfEbfFbe80bf1bf2bf3bf4bf5bf6bf7bf8bf9bfAbfBbfCbfDbfEbfFbe90bf1bf2bf3bf4bf5bf6",
  "bf7bf8bf9bfAbfBbfCbfDbfEbfFbeA0bf1bf2bf3bf4bf5bf6bf7bf8bf9bfAbfBbfCbfDbfEbfFbeB0bf1bf2bf3bf4bf5",
  "bf6bf7bf8bf9bfAbfBbfCbfDbfEbfFbeC0bf1bf2bf3bf4bf5bf6bf7bf8bf9bfAbfBbfCbfDbfEbfFbeD0bf1bf2bf3bf4",
  "bf5bf6bf7bf8bf9bfAbfBbfCbfDbfEbfFbeE0bf1bf2bf3bf4bf5bf6bf7bf8bf9bfAbfBbfCbfDbfEbfFbeF0bf1bf2bf3",
  "bf4bf5bf6bf7bf8bf9bfAbfBbfCbfDbfEbfFbdA00bf1bf2bf3bf4bf5bf6bf7bf8bf9bfAbfBbfCbfDbfEbfFbe10bf1bf2",
  "bf3bf4bf5bf6bf7bf8bf9bfAbfBbfCbfDbfEbfFbe20bf1bf2bf3bf4bf5bf6bf7bf8bf9bfAbfBbfCbfDbfEbfFbe30bf1",
  "bf2bf3bf4bf5bf6bf7bf8bf9bfAbfBbfCbfDbfEbfFbe40bf1bf2bf3bf4bf5bf6bf7bf8bf9bfAbfBbfCbfDbfEbfFbe50",
  "bf1bf2bf3bf4bf5bf6bf7bf8bf9bfAbfBbfCbfDbfEbfFbe60bf1bf2bf3bf4bf5bf6bf7bf8bf9bfAbfBbfCbfDbe70bf1",
  "bf2bf3bf4bf5bf6bf7bf8bf9bfAbfBbfCbfDbfEbfFbe80bf1bf2bf3bf4bf5bf6bf7bf8bf9bfAbfBbfCbfDbfEbfFbe90",
  "bf1bf2bf3bf4bf5bf6bf7bf8bf9bfAbfBbfCbfDbfEbfFbeA0bf1bf2bf3bf4bf5bf6bf7bf8bf9bfAbfBbfCbfDbfEbfF",
  "beB0bf1bf2bf3bf4bf5bf6bf7bf8bf9bfAbfBbfCbfDbfEbfFbeC0bf1bf2bf3bf4bf5bf6bf7bf8bf9bfAbfBbfCbfDbfE",
  "bfFbeD0bf1bf2bf3bf4bf5bf6bf7bf8bf9aeRADICAL BAMBOOanLUEanOLT OF CLOTHaoNEaoXanRUSH ONEasTWO",
  "amC-SIMPLIFIED BIRDazCARTazDRAGONazEATbaVENazFISHbaLYbaROGazGATEbaOLDazHORSEazLEAFbaONGazSALT",
  "baEEbaHELLbaILKbaPEECHazTANNED LEATHERbaOOTHbaURTLEazWINDanHOKEanITYaoVILIANanLIFFaoOTHESanOW",
  "amDEATHanIVINATIONanOGamEAT ONEaqTHREEarWOanWEanYEamFIREanOOTamGHOSTanRASS ONEasTHREEatWOamHAND",
  "anEADapRT ONEasTWOanORNamJ-SIMPLIFIED DRAGONazEVENazTOOTHbaURTLEanADEamKNIFE ONEasTWOamLAME FOUR",
  "arONEarTHREEasWOanONG ONEarTWOamMEATaoSHanOONaoRTARaoTHERaoUND ONEasTWOamNET FOURaqONEaqTHREE",
  "arWOamOLDamPAW ONEaqTWOanERSONamRAINaoMaoPanEPEATamSEALaoCOND ONEatTHREEauWOanHEEPanILK",
  "aoMPLIFIED HALF TREE TRUNKayORNaxWALKayHEATaxYELLOWanMALL ONEasTWOanNAKEaoOUT ONEasTWO",
  "anPIRIT ONEatTWOanUNamTABLEanHREADanIGERanURTLEamWALK ONEarTWOaoTER ONEasTWOanEST ONEarTWO",
  "aeSTROKE BXGalDalHamGamPanWGamXWGamZanGanTanWaoGanZaoPaoZapGalNalPamDamGamZalQalSamGamPamTamWanG",
  "anZamZanWGanZalTamNalWGalXGabLAMSHELL MOBILE PHONEadPPER BOARDafING HANDS SIGNadSSICAL BUILDING",
  "acEAR SCREEN SYMBOLacINKING BEER MUGSajGLASSESadPBOARDacOCK FACE EIGHT OCLOCKaq-THIRTY",
  "amLEVEN OCLOCKar-THIRTYalFIVE OCLOCKap-THIRTYamOUR OCLOCKap-THIRTYalNINE OCLOCKap-THIRTY",
  "alONE OCLOCKao-THIRTYalSEVEN OCLOCKaq-THIRTYamIX OCLOCKao-THIRTYalTEN OCLOCKao-THIRTY",
  "amHREE OCLOCKaq-THIRTYamWELVE OCLOCKar-THIRTYanO OCLOCKao-THIRTYafWISE CLOSED CIRCLE ARROW",
  "alONTOUR INTEGRALakDOWNWARDS AND UPWARDS OPEN CIRCLE ARROWSakGAPPED CIRCLE ARROWakINTEGRAL",
  "akOPEN CIRCLE ARROWakRIGHT AND LEFT SEMICIRCLE ARROWSapWARDS AND LEFTWARDS OPEN CIRCLE ARROWS",
  "cb WITH CIRCLED ONE OVERLAYakTOP SEMICIRCLE ARROWalRIANGLE-HEADED OPEN CIRCLE ARROWadSE UP",
  "afD BOOKahINTERSECTION WITH SERIFSahLOCK WITH KEYahMAILBOX WITH LOWERED FLAGauRAISED FLAG",
  "ahSUBSETan OR EQUAL TOajPERSETap OR EQUAL TOahUMBRELLAaiNION WITH SERIFSay AND SMASH PRODUCTadUD",
  "af WITH LIGHTNINGalRAINalSNOWalTORNADOadWN FACEabOATacCKROACHaeTAIL GLASSadONUTacFFINacIN",
  "acLLISION SYMBOLadONaf EQUALSagSIGNacMBINING ACUTE ACCENTaw BELOWaqTONE MARKap-GRAVE-ACUTE",
  "aqMACRONalLMOST EQUAL TO ABOVEbaBELOWalNNUITY SYMBOLamTICLOCKWISE ARROW ABOVEayRING OVERLAY",
  "alSTERISK ABOVEatBELOWakBINDU BELOWalREVEap BELOWap-MACRONamIDGE ABOVEarBELOWakCANDRABINDUamRON",
  "ap BELOWalEDILLAalIRCUMFLEX ACCENTbb BELOWalLOCKWISE ARROW ABOVEauRING OVERLAYalOMMA ABOVE",
  "av RIGHTaqBELOWamNJOINING MACRONbb BELOWalYRILLIC DASIA PNEUMATAatHUNDRED MILLIONS SIGN",
  "bbTHOUSANDS SIGNatKAVYKAatLETTER AbaBEbbIG YUSbaCHEbaDEbbJERVbaEFbbLbbMbbNbbRbbSbc-TEbaFITAbaGHE",
  "baHAbcRD SIGNbaIbbEbbOTIFIED AbjBIG YUSbjEbaKAbaLITTLE YUSbaMONOGRAPH UKbaObbMEGAbaPEbaSHAbcCHA",
  "bbOFT SIGNbaTEbbSEbaUbbKRAINIAN IEbaVEbaYATbbERUbbIbbUbaZEbbHEatMILLIONS SIGNatPALATALIZATION",
  "avYEROKauOKRYTIEauSILI PNEUMATAatTEN MILLIONS SIGNauHOUSAND MILLIONS SIGNauITLOay LEFT HALF",
  "azRIGHT HALFatVZMETakDELETION MARKamVANAGARI DIGIT EIGHTbbFIVEbcOURbbNINEbbONEbbSEVENbcIXbbTHREE",
  "bcWObbZEROavLETTER AbcKAbcNAbcPAbcRAbcUbcVIavSIGN AVAGRAHAalIAERESISat BELOWat-RINGalOT ABOVE",
  "at LEFTauRIGHTaoBELOWat LEFTanTED ACUTE ACCENTarGRAVE ACCENTamUBLE ACUTE ACCENTarBREVEaw BELOW",
  "arCIRCUMFLEX ABOVEarGRAVE ACCENTarINVERTED BREVEbf BELOWarLOW LINEarMACRONax BELOW",
  "arOPEN MARK BELOWasVERLINEarPARENTHESES ABOVEasLUS SIGN ABOVEbbBELOWarRIGHTWARDS ARROW BELOW",
  "atNG BELOWarTILDEaw LEFT HALFaxRIGHT HALFarVERTICAL LINE ABOVEbfBELOWbaSTROKE OVERLAY",
  "aqD CIRCUMFLEX ACCENTamWN TACK BELOWaoWARDS ARROWakENCLOSING CIRCLEba BACKSLASHauDIAMONDauKEYCAP",
  "auSCREENavQUAREauUPWARD POINTING TRIANGLEalQUALS SIGN BELOWakFERMATAalOUR DOTS ABOVE",
  "akGLAGOLITIC LETTER AZUbcBIG YUSbdUKYbcCHRIVIbcDJERVIbdOBRObcFITAbdRITUbcGLAGOLIbcHERUbcI",
  "bdNITIAL IZHEbdOTATED BIG YUSbkSMALL YUSbdZHEbcKAKObcLJUDIJEbcMYSLITEbcNASHIbcONUbcPOKOJIbcRITSI",
  "bcSHAbeTAbdLOVObdMALL YUSbcTSIbdVRIDObcUKUbcVEDEbcYATIbdERIbfUbeSTUbdObdUbcZEMLJAbdHIVETE",
  "alRANTHA DIGIT FIVEazOURayONEaySIXayTHREEazWOayZEROasLETTER AazKAazNAazPAazVIanPHEME JOINER",
  "anVE ACCENTaw BELOWaqTONE MARKap-ACUTE-GRAVEaqMACRONamEEK DIALYTIKA TONOSaqKORONIS",
  "aqMUSICAL PENTASEMEayTETRASEMEazRISEMEaqPERISPOMENIaqYPOGEGRAMMENIakHOMOTHETIC ABOVEamOK ABOVE",
  "amRNakINFINITYamVERTED BREVEay BELOWavIDGE BELOWatDOUBLE ARCH ABOVEbfBELOWalS BELOW",
  "akKATAKANA-HIRAGANA SEMI-VOICED SOUND MARKbcVOICED SOUND MARKamVYKA ABOVE LEFTaxRIGHT",
  "akLATIN LETTER SMALL CAPITAL GblLblMblNblRaqSMALL LETTER Abe WITH DIAERESISbeEbeLPHAbeObeVbdB",
  "beETAbdCbe CEDILLAbdDbdEbeSHbeTHbdFbeLATTENED OPEN A ABOVEbdGbdHbdIbeNSULAR DblGblRblTbdKbdL",
  "be WITH DOUBLE MIDDLE TILDEbeONG SbdMbdNbdObe WITH DIAERESISbkLIGHT CENTRALIZATION STROKEbdPbdR",
  "be BELOWbfROTUNDAbdSbeCHWAbdTbeURNED W BELOWbdUbe WITH DIAERESISbkLIGHT CENTRALIZATION STROKEbdV",
  "bdWbe BELOWbdXbdZalEFT ANGLE ABOVEavBELOWaqRROW ABOVEavBELOWauHEAD ABOVEazBELOWapHALF RING ABOVE",
  "azBELOWarRPOON ABOVEapPARENTHESIS ABOVE LEFTbbBELOW LEFTapRIGHT ARROW ABOVEbbBELOWapTACK BELOW",
  "aoWARDS ARROW OVERLAYauHARPOON WITH BARB DOWNWARDSalIGATURE LEFT HALFbc BELOWatRIGHT HALF",
  "bd BELOWanHT CENTRALIZATION STROKE BELOWalONG DOUBLE SOLIDUS OVERLAYapSOLIDUS OVERLAY",
  "aqTROKE OVERLAYapVERTICAL LINE OVERLAYamW LINEakMACRONaq BELOWarLEFT HALFba BELOWarRIGHT HALF",
  "bb BELOWaq-ACUTEarBREVEarGRAVEalINUS SIGN BELOWakNOT TILDE ABOVEalUMBER SIGN ABOVEakOGONEK",
  "aq ABOVEalLD PERMIC LETTER ANbcDOIbcNENOEbcSIIbcZATAalPEN MARK BELOWalVERLINE",
  "akPALATALIZED HOOK BELOWamRENTHESES ABOVEawBELOWawOVERLAYalLUS SIGN ABOVEauBELOW",
  "akRETROFLEX HOOK BELOWamVERSE SOLIDUS OVERLAYarD COMMA ABOVEalIGHT ARROW ABOVEawBELOW",
  "avHEAD ABOVEbbND DOWN ARROWHEAD BELOWbeUP ARROWHEAD BELOWbaBELOWaqHALF RING ABOVEbaBELOW",
  "asRPOON ABOVEaqPARENTHESIS ABOVE RIGHTbcBELOW RIGHTaqTACK BELOW",
  "apWARDS HARPOON WITH BARB DOWNWARDSamNG ABOVEapBELOWapOVERLAYakSEAGULL BELOW",
  "alHORT SOLIDUS OVERLAYarTROKE OVERLAYaqVERTICAL LINE OVERLAYalNAKE BELOWalQUARE BELOW",
  "asRACKETS ABOVEalTRONG CENTRALIZATION STROKE BELOWalUSPENSION MARKakTHREE DOTS ABOVEalILDE",
  "ap BELOWaqLEFT HALF BELOWaqOVERLAYaqRIGHT HALF BELOWalRIPLE ACUTE ACCENTarDOTarUNDERDOT",
  "alURNED COMMA ABOVEakUP TACK ABOVEasBELOWamWARDS ARROW BELOWalR ABOVEalS ABOVE",
  "akVERTICAL LINE ABOVEayBELOWatTILDEakWIDE BRIDGE ABOVEapINVERTED BRIDGE BELOWamGGLY LINE BELOW",
  "akX ABOVEamBELOWal-X BELOWakZIGZAG ABOVEarBELOWadETadMAaeERCIAL ATalMINUS SIGNadPASSaeLEMENT",
  "aeOSITION SYMBOLaeRESSIONacNFETTI BALLaeOUNDED FACEaeUSED FACEadGRUENT WITH DOT ABOVE",
  "adICAL TAPERadJUNCTIONadSTRUCTION SIGNanWORKERadTAINS AS MEMBERamNORMAL SUBGROUPbb OR EQUAL TO",
  "ajWITH LONG HORIZONTAL STROKEaoOVERBARaoVERTICAL BAR AT END OF HORIZONTAL STROKE",
  "aeINUOUS UNDERLINE SYMBOLaeOUR INTEGRALaeROL KNOBSaiSEQUENCE INTRODUCERadVENIENCE STORE",
  "acOKED RICEaeIEafNGacPTIC CAPITAL LETTER AKHMIMIC KHEIaxLFAawBOHAIRIC KHEIawCROSSED SHEI",
  "ayYPTOGRAMMIC EIEbkGANGIAbkNIbkSHEIawDALDAaxEIaxIALECT-P ALEFbgHORIbgKAPAbgNIawEIEawFEIaxI",
  "awGAMMAayNGIAawHATEaxORIawIAUDAawKAPAaxHEIayIaxSIawL-SHAPED HAaxAULAawMIawNIawOaxLD COPTIC AIN",
  "bhDJAbhESHbhGANGIAbhHAbjTbiEIbiORIbhOOUbhSHEIbjIMAbaNUBIAN NGIbiYIbhSHIMAbhWAUaxOUawPIaxSIawRO",
  "awSAMPIaxHEIayIMAaxIMAaxOUawTAUaxHETHEawUAawVIDAawZATAaiOMBINING NI ABOVEarSPIRITUS ASPERbaLENIS",
  "ahEPACT DIGIT EIGHTatFIVEauOURatNINEatONEatSEVENauIXatTHREEauWOanNUMBER EIGHT HUNDREDazYauFIFTY",
  "awVE HUNDREDavORTYawUR HUNDREDauNINE HUNDREDayTYauONE HUNDREDauSEVEN HUNDREDazTYavIX HUNDREDaxTY",
  "auTENavHIRTYawREE HUNDREDavWENTYawO HUNDREDanTHOUSANDS MARKahFRACTION ONE HALFaiULL STOP",
  "ahMORPHOLOGICAL DIVIDERahOLD NUBIAN DIRECT QUESTION MARKasFULL STOPasINDIRECT QUESTION MARK",
  "asVERSE DIVIDERahSMALL LETTER AKHMIMIC KHEIavLFAauBOHAIRIC KHEIauCROSSED SHEIawYPTOGRAMMIC EIE",
  "biGANGIAbiNIbiSHEIauDALDAavEIavIALECT-P ALEFbeHORIbeKAPAbeNIauEIEauFEIavIauGAMMAawNGIAauHATE",
  "avORIauIAUDAauKAPAavHEIawIavSIauL-SHAPED HAavAULAauMIauNIauOavLD COPTIC AINbfDJAbfESHbfGANGIA",
  "bfHAbhTbgEIbgORIbfOOUbfSHEIbhIMAayNUBIAN NGIbgYIbfSHIMAbfWAUavOUauPIavSIauROauSAMPIavHEIawIMA",
  "avIMAavOUauTAUavHETHEauUAauVIDAauZATAaiYMBOL KAIapHI ROaoMI ROaoPI ROaoSHIMA SIMAapTAUROS",
  "aoTAU ROadYLEFT SYMBOLaeRIGHT SIGNacRALadNISH VERSE DIVIDERadRESPONDS TOacUCH AND LAMPadNTERBORE",
  "ahSINKafING ROD TENS DIGIT EIGHTayFIVEazOURayNINEayONEaySEVENazIXayTHREEazWOanUNIT DIGIT EIGHT",
  "ayFIVEazOURayNINEayONEaySEVENazIXayTHREEazWOadPLE WITH HEARTacWad FACEabRacABacEDIT CARD",
  "adSCENT MOONacICKETah BAT AND BALLacOCODILEadISSANTadSS MARKagOF JERUSALEMajLORRAINE",
  "agPATTY WITH LEFT CROSSBARarRIGHT CROSSBARahOMMEEam WITH HALF-CIRCLE BELOWafED FLAGS",
  "aiNEGATIVE SQUARED LATIN CAPITAL LETTER PaiSWORDSafING LANESadWNacUTCHadZEIRO SIGN",
  "acYING CAT FACEahFACEadSTAL BALLabSIabUBE ROOTacCUMBERacNEIFORM NUMERIC SIGN EIGHT ASHbdDISH",
  "bdGESH2bdSHAR2bdUbe VARIANT FORMbdVARIANT FORM USSUbu3ayLAMITE FIFTYbgORTYbfONE THIRD",
  "bfTWO THIRDSaxFIVE ASHbf TENUbcBAN2bg VARIANT FORMbdURUbcDISHbcGESH2bgUbcSHAR2bgUbdIXTHS DISHbcU",
  "bd VARIANT FORMayOUR ASHbf TENUbcBAN2bg VARIANT FORMbdURUbcDISHbcGESH2bgUbcSHAR2bgUbcU",
  "bd VARIANT FORMbcVARIANT FORM LIMMUbu AbvBbu4axNIGIDAESHbdMINazNE ASHbcDISHbcGESH2bcSHAR2bcU",
  "bd VARIANT FORMbcVARIANT FORM ILIMMUbv Abv3bv4axOLD ASSYRIAN ONE QUARTERboSIXTHayNE BAN2bcURU",
  "bbEIGHTH ASHbcSHE3bbGESH2bfUbbHALF GURbbQUARTER ASHbjGURbbSHARUbbTHIRD DISHbhVARIANT FORM A",
  "axSEVEN ASHbdDISHbdGESH2bdSHAR2bdUbe VARIANT FORMbdVARIANT FORM IMIN AbvBbu3",
  "ayHAR2 TIMES GAL PLUS DISHbsMINayIX ASHbe TENUbbDISHbbGESH2bbSHAR2bbUbc VARIANT FORM",
  "bbVARIANT FORM ASH9axTHREE ASHbg TENUbdBAN2beURUbh VARIANT FORMbdDISHbdGESH2bhUbdSHAR2",
  "bi VARIANT FORMbhUbi VARIANT FORMbdVARIANT FORM ESH16bt21ayWO ASHbe TENUbbBAN2bcURUbbESHE3",
  "bbGESH2bfUbbSHAR2bfUbbTHIRDS DISHbiVARIANT FORM AakPUNCTUATION SIGN DIAGONAL COLONbkQUADCOLON",
  "bkTRICOLONbbOLD ASSYRIAN WORD DIVIDERbbVERTICAL COLONakSIGN Aaq TIMES AaxBADaxGAN2 TENUaxHAaxIGI",
  "axLAGAR GUNUaxMUSHaxSAGaq2aqBar GUNUasTIMES ASH2ayDUN3 GUNUayGALbaN2 TENUayHAayIGI GUNUazMIN",
  "ayLAGABayNUNbb TENUaySHESHbaU2ayU PLUS U PLUS Uar2as TIMES AazBALAGazGAN2 TENUazME PLUS ENazSHA3",
  "azTAK4aqDar TIMES ESH2aqKar TIMES ERIN2aySHITA PLUS GISHaqLar TIMES ALayDIM2ayGISHayHAayKAD3azI",
  "aySHEayUSHarANarEPHaqMARat TIMES KUGbaSHEaqNar OVER ANasPLUS NAGA OPPOSING AN PLUS NAGAbcSQUARED",
  "asTHREE TIMESarSHEaqPINaqRADat TIMES KURarKABaqSAL2arHas KABA TENUatOVER ASH OVER ASH",
  "bk CROSSING ASH OVER ASH OVER ASHbcTUG2 OVER TUG2 TUG2 OVER TUG2 PAPatZIDA TENUas2asGABapBAarD",
  "as TIMES DISH TENUarG3arHAR2av TIMES AB2bcNIbcZAarLas OVER BALasAGarRasA2aqIar TIMES AayGAR",
  "ayIGI GUNUaqUar CROSSING BUasOVER BU ABbaTIMES NA2baUNarLUGau OVER BULUGarRas2apDAar TIMES TAK4",
  "arGas KISIM5 TIMES A PLUS MASHbhMARbgBALAGbhIbgGAbi PLUS MASHbhIbiR2bhUDbgHAbgIRbi PLUS LUbgKAK",
  "bgLAbhUbi PLUS MASH2biMbgNEbgPAP PLUS PAPbgSIbgTAK4bgU2 PLUS GIR2boMASHbhSHatTIMES KURas3arMarR",
  "asA3at4aqIarBarMas TIMES IGIazSHEazU U Uas2at TIMES UDarNas KASKAL U GUNU DISHarSHat PLUS SHUaqU",
  "ar GUNUasOVER DUasSHESHIGarBas TIMES ESH2azSHEas2arGas TIMES ANSHEbaSHbc AT LEFTazDINbaUNazERIN2",
  "azGAbaIbbR2 GUNUbbSHazHAbaIazIGI GUNUazKASKALbaURbbSHU2bf PLUS KASKALazLAK-020bbMbc TIMES KUR",
  "baUH PLUS GISHazMASHbaESbaIazNIazPIazSHEbaI GUNUasUDarHarNas3at GUNUay GUNUas4arR2apE",
  "aq OVER E NUN OVER NUNarTIMES PAPaq2ar TIMES A PLUS HA PLUS DAayGARayKURayMIayPAPaySALazHEayU",
  "aqDINaqGIRaqLaqNar CROSSING ENasOPPOSING ENasSQUAREDasTIMES GAN2bc TENUayMEaqRENarIN2au XaqSH2",
  "at CROSSING ESH2aqZENat SHESHIG TIMES ASHbiHIbiIGI GUNUbiLAbkLbiMEbkSbiSUauTIMES Abb PLUS LAL",
  "bk TIMES LALbbNbaBADbaDUN3 GUNUbj GUNUbaGUDbaHAbc GUNUbaIGI GUNUbaKASKALbg SQUAREDbbU3baLA",
  "bcL TIMES LALbbIbbUbaSHEbbUbaU2bbDapGAar GUNUar2as OVER GA2atTIMES A PLUS DA PLUS HAbgHAbgIGI",
  "baB2 TENU PLUS TABbaNbb PLUS KAK PLUS AbaSHbc2bd PLUS GALazBADbbHAR2bbR PLUS RAbaURbc PLUS RA",
  "azDAbaIbbM GUNUbdTIMES SHEbaUBbbG TIMES IGI GUNUbjKASKALazELbb PLUS LAbaNbb TIMES GAN2 TENUbaREN",
  "azGAbbN2 TENUbbRbc PLUS DIbiNEbaIbb4bc PLUS AbbR2 PLUS SUazHA PLUS AbhLU PLUS ESH2bbLbc PLUS LA",
  "baI PLUS LIbaUB2azIGI GUNUbaSH PLUS HU PLUS ASHazKAKbbSKALbaIDbc PLUS LALbaU3 PLUS AN",
  "bbSHU2 PLUS KASKALazLAbbMbc TIMES KURbaUHazME PLUS ENbaIbaUSHazNEbb PLUS E2bhGIbaUNbc OVER NUN",
  "azPAazSALbbRbaHEbc PLUS TURbbIDbcMbaUMazTAK4azUbaDbb PLUS DUazZIZ2arBAat CROSSING GABA",
  "auROTATED NINETY DEGREESarDas OVER GAD GAR OVER GARarLas GAD OVER GAD GAR OVER GARasAMarMarNas2",
  "at CROSSING GAN2auOVER GAN2auTENUarRas3arSHANaqE22arSHTINaw TIMES KURbdUaqIar CROSSING GI",
  "asTIMES EayUar4as CROSSING GI4atOVER GI4arDIMarGarR2at GUNUas3at TIMES A PLUS IGIbaGAN2 TENU",
  "baIGIbaLU PLUS IGIbaPAarSALasHat CROSSING GISHauTENUavIMES BADbaGISH CROSSING GISHbaTAK4aqU",
  "ar CROSSING GUar2as GUNUatTIMES IGI GUNUazKAKbc TIMES IGI GUNUazNUNazSAL PLUS TUG2arD",
  "as OVER GUD LUGALatPLUS GISH TIMES TAK4atTIMES A PLUS KURazKURarLarMas TIMES SHEarRas7asUNatSH",
  "apHAar GUNUasTENUaw GUNUarLaqIar TIMES ASHbb OVER HI TIMES ASHbb2ayBADayDISHayGADayKINayNUNaySHE",
  "ayUaqUarB2at TIMES ANbaHALbaKASKALbaLISHbaUDarL2arSHapIaq AaqBaqDIMat OVER IDIM BURbeSQUAREDaqG",
  "arIas DIBatGUNUatOVER IGI SHIR OVER SHIR UD OVER UDatRIaqLar TIMES GAN2 TENUar2aqMar CROSSING IM",
  "asOPPOSING IMasSQUAREDasTIMES TAK4arINaqNaqRaqSHapKAar TIMES AazDba PLUS KU3azNSHEazSH2bb3ayBAD",
  "baLAGbaRazIazUayERIN2azSH2ayGAbaLbaN2 TENUbaRbb PLUS SHA3 PLUS AazIbaR2baSHbc CROSSING GISH",
  "bdPLUS SARazUbaDbaR7ayHI TIMES ASH2ayIGIazMayKAbaKazIbaDayLIazUbaMayMEba PLUS DUbgGIbgTEazI",
  "ba PLUS NUNUZayNEazUNayPAazIayRUaySAbaRazHAbaEbaIDbaUbbLazIGazUHURayTARazUayUaz U Uaz2azD",
  "azMUM TIMES PAazRba2azSHayZIar2as CROSSING KA2arBarD2as3as4as5at OVER KAD5arKas TIMES IGI GUNU",
  "arLas CROSSING KALatTIMES BADarM2as4arP ELAMITEarSKALav LAGAB TIMES U OVER LAGAB TIMES U",
  "awOVER KASKAL LAGAB TIMES U OVER LAGAB TIMES UaqESH2aqIar TIMES BADayUazDarDarNarSALasHasIM5",
  "av OVER KISIM5aqUar OVER HI TIMES ASH2 KU OVER HI TIMES ASH2ar3ar4as VARIANT FORMar7arLas GUNU",
  "arNarRas OPPOSING KURarSHU2aqWU318apLAarGABau SQUAREDavTIMES Abc PLUS DA PLUS HAbiGARbiLALbcLbcN",
  "bcSH ZIDA TENUbbBADbcIbbDARbbENbbGAbdRbcIbcUDbe PLUS GUDbbHAbdLbcI TIMES NUNbbIGI GUNUbcM",
  "bd PLUS HAbjLUbbKIbdNbcU3bdLbe PLUS HI PLUS AbbLAGABbcISHbcUbdLbbMEbd PLUS ENbcUSHbbNE",
  "bbSHE PLUS SUMbdITA PLUS GISH PLUS ERIN2brTENUbdU2bf PLUS SHU2bcUMbbTAGbdK4",
  "bcE PLUS A PLUS SU PLUS NAbbUbc PLUS AbiU PLUS Ubc2 PLUS ASHbcDbcSHbbZU OVER ZUatRau GUNU",
  "az OVER LAGAR GUNU SHEavTIMES SHEbe PLUS SUMarHSHUarK-003au21av5au30au50av1au62",
  "au79 OVER LAK-079 GUNUau80av1 OVER LAK-081au92at130au42at210av9au20av5av8au38au65av6at343av7av8",
  "au83av4au90at441av9aw TIMES GUbdIGIbdPAP PLUS LU3bmPAP PLUS LU3bdU2 PLUS BAau50av7au70au83au90",
  "av2av3av5at550at608au17aw TIMES ASHbdBADbdDUN3 GUNU GUNUbdKU3bdLAbdTARbeEbdU2beDbeRUDAau36au48",
  "aw TIMES DUBbdGAbdIGIbg GUNUbdNIbdPAP PLUS PAP PLUS LU3bdSHESH PLUS KIbdUDbeRUDAat724au49arL",
  "as TIMES LALarMas TIMES KURbc PLUS RUaqIarLarMMU2arSHaqUar TIMES BADar2as CROSSING LU2",
  "atGUNU TIMES ASHatOPPOSING LU2atSHESHIGba TIMES BADauQUAREDatTENUauIMES ALazBADazDISHazESH2",
  "bd PLUS LALbeTENUazGAN2 TENUazHALbaI TIMES BADazIMazKAD2bc3bd PLUS ASHbaIazLA PLUS ASHbbGAB",
  "azME PLUS ENazNEbaUazPAPbc PLUS PAP PLUS LU3azSHUbaI PLUS ASHbbK2 PLUS BUazTAK4baUG2ar3arGAL",
  "au OPPOSING LUGALawVER LUGALavSHESHIGarHarLarMas OVER LUMbb GAR OVER GARapMAar GUNUasTIMES TAK4",
  "ar2arHarRarSHat2aqEarSasHaqIar PLUS ZA7arNaqUar OVER MUarGas GUNUarNSUBarRGU2arSH",
  "at CROSSING MUSHauOVER MUSHbd TIMES A PLUS NAbkGAbkKAKauTIMES AbaKURbaZAat3au GUNUavTIMES A",
  "bc PLUS DIbbDIbbZAapNAar2ar4arGAat INVERTEDauOPPOSING NAGAauTIMES SHU TENUatRarMas NUTILLUas2aqE",
  "ar SHESHIGasTIMES AayUDaqIar TIMES Ear2arMas TIMES GAN2 TENUbbR PLUS GAN2 TENUarNas9asDA2",
  "av TIMES ANbdSHbf PLUS ASHbcBALbcDIM GUNUbcGIbeSHbdUDbeLbcHIbcKESH2bcLAK-050bcMASH",
  "bdE PLUS GAN2 TENUbcNEbdUNbcPAP PLUS PAPbcSHEbf PLUS A ANbmSHbo PLUS ASHbcUbd PLUS Ubd2 PLUS ASH",
  "bdRUDAbdSHarSAGaqUar11at OVER NU11 BUR OVER BURauROTATED NINETY DEGREESauTENUarNas CROSSING NUN",
  "bf LAGAR OVER LAGARatLAGAR TIMES GARbfMASHbfSALbi OVER NUN LAGAR TIMES SALbfUSHatOVER NUNatTENU",
  "asUZau AB2 TIMES ASHGABbfBIbfDUGbfGUDbfIGI GUNUbfKAD3bfLAbfNEbfSILA3bfU2avKISIM5 TIMES BIbk U",
  "apPAarDarNarPaqESH2au ASTERISKaqIar CROSSING PIasTIMES AazBayBIazUayEayIazBayUaz2arR2asIG",
  "au OPPOSING PIRIGavTIMES KALbbUDbbZAapRAarBaqIaqUapSAarGas GUNUax TIMES HAatNUTILLUatOVER SAG",
  "atTIMES AazDUbbBazENazHAazIGI GUNUazKAKbaURazLUMazMIazNUNazSALbaHE AT LEFTbbIDazTABbbK4azU2baB",
  "baMbaRbaSHarLas LAGAB TIMES ASH2arNGA2arRaqHAas3at TIMES AbaBADbaGISHbaNEbaSHU2baTURbaUbb PLUS A",
  "as6at TENUasB6asR2arEas HUatOVER SHEbb GAD OVER GAD GAR OVER GARbcTAB OVER TAB GAR OVER GAR",
  "atPLUS HUB2ayNAM2aySARasG9asNasSHau2auLAMarIDat TIMES AbaIMasMat TIMES AbaBALbbULUGbaDINbaGAR",
  "baIGIbd GUNUbaKUSHU2baLULbaMUGbaSALasNIGasRat OVER SHIR BUR OVER BURauTENUasTAarU",
  "as OVER INVERTED SHUas2at PLUS DUG TIMES NIazE2 TIMES ANasBURaqIar GUNUasTIMES TAK4arGas4",
  "at OVER SIG4 SHU2arK2arLA3aqUar OVER SUarDas2arHURarMasASHarRas9apTAar ASTERISKasGUNUasTIMES HI",
  "ayMIarBas OVER TAB NI OVER NI DISH OVER DISHatSQUAREDarGas TIMES BIazGUDazSHEbbUazTUG2azUDarK4",
  "at PLUS SAGarRaqEar GUNUaqIar TENUar2arLarRas OVER TIRbb GAD OVER GAD GAR OVER GARatTIMES TAK4",
  "aqUarG2arKarMas TIMES GAN2 TENUazTHREE DISHarRas OVER TUR ZA OVER ZAapUaq GUD",
  "arOVER U PA OVER PA GAR OVER GARaySUR OVER SURayU REVERSED OVER U REVERSEDarUas Uaq2aqBaqD",
  "ar GUNUasKUSHU2asSHESHIGaz TIMES BADasTIMES BADayMIayU PLUS U PLUS Ubn GUNUarUGaqMar TIMES LAGAB",
  "ayMEba PLUS DAaySHA3ayUarBINarUMat TIMES KASKALbaPAaqNar GUNUaqRar CROSSING URasSHESHIGar2",
  "as INVERTEDatTIMES A PLUS HAbgNAbaLazHAazNUNazU2bb PLUS ASHbhBIbaDar4arIas3arUas TIMES AbaSHGAB",
  "azBARazDARA3baUNazGAbbLbbN2 TENUbbRbaUazHAazIGIbaMbaSHazKIazLAK-668baU3bbMazMINazPAazSHEbaIG4",
  "azTUazU PLUS GUDbaDbaRUDAasDAau TIMES UaqSHas TIMES AazKUbbRazTAK4as2asUMXasXaqTUKIaqZ3",
  "as TIMES KASKALarUapZAar SQUARED TIMES KURasTENUar7arGarMXaqE2aqIar OVER ZIar3arBas KABA TENUarG",
  "arZ2aqUar OVER ZU PLUS SARar5as TIMES AazTHREE DISH TENUarBURarMacP ON BLACK SQUAREaeWITH STRAW",
  "adCAKEadIDOacRLING STONEaeY BRACKET EXTENSIONagLOGICAL ANDaoORaiOPadRENCY EXCHANGEajSIGN",
  "aeY AND RICEadVED STEM PARAGRAPH SIGN ORNAMENTacSTARDaeOMSacT OF MEATabYCLONEacLINDRICITY",
  "acPRIOT SYLLABLE AarEarIarJAasOarKAasEasIasOasUarLAasEasIasOasUarMAasEasIasOasUarNAasEasIasOasU",
  "arOarPAasEasIasOasUarRAasEasIasOasUarSAasEasIasOasUarTAasEasIasOasUarUarWAasEasIasOarXAasEarZA",
  "asOaeO-MINOAN SIGN CM001aw2aw4aw5aw6aw7aw8aw9av10aw1aw2axBaw3aw5aw7aw9av21aw3aw4aw5aw6aw7aw8aw9",
  "av30aw3aw4aw5aw6aw7aw8aw9av40aw1aw4aw6aw7aw9av50aw1aw2aw3aw4aw5aw6aw8aw9av60aw1aw2aw3aw4aw6aw7",
  "aw8aw9av70aw1aw2aw3aw4aw5axBaw6aw8aw9av80aw1aw2aw3aw4aw5aw6aw7aw8aw9av90aw1aw2aw4aw5aw6aw7aw8aw9",
  "au100aw1aw2aw3aw4aw5aw7aw8aw9av10aw2aw4au301aw2acRILLIC CAPITAL LETTER Aaz WITH BREVEbfDIAERESIS",
  "azBKHASIAN CHEbl WITH DESCENDERbiDZEbiHAazLEUT KAayBARRED Obg WITH DIAERESISbaSHKIR KAazE",
  "azIG YUSbaNOCULAR OazLENDED YUSazROAD OMEGAazYELORUSSIAN-UKRAINIAN IayCCHEazHEbb WITH DESCENDER",
  "biIAERESISbhVERTICAL STROKEazLOSED LITTLE YUSazROSSED OayDCHEazEazJEbbRVazOUBLE MONOCULAR ObfO",
  "azWEazZEbbLObaHEbaWEbaZEbbHEayEaz WITH DIAERESISazFazLba WITH DESCENDERbgHOOKbgMIDDLE HOOKbgTAIL",
  "azMba WITH TAILazNba WITH DESCENDERbgHOOKbgLEFT HOOKbgMIDDLE HOOKbgTAILazRba WITH TICKazS",
  "ba WITH DESCENDERayFITAayGHEbb WITH DESCENDERbhMIDDLE HOOKbhSTROKEbn AND HOOKbhUPTURNazJEayHA",
  "ba WITH DESCENDERbgHOOKbgSTROKEbaRD SIGNazWEayIaz WITH DIAERESISbfGRAVEbfMACRONazEba WITH BREVE",
  "bgGRAVEazObaTAbbIFIED AbhBIG YUSbhCLOSED LITTLE YUSbhEbhLITTLE YUSbhYATazZHITSA",
  "bf WITH DOUBLE GRAVE ACCENTayJEayKAba WITH DESCENDERbgHOOKbgSTROKEbgVERTICAL STROKE",
  "azHAKASSIAN CHEazJEazOMI DEbeJEbeZJEbdLJEbdNJEbdSJEbdTJEbdZJEbaPPAazSIayLHAazITTLE YUSazJE",
  "ayMONOCULAR ObcGRAPH UKayNEUTRAL YERazJEayOaz WITH DIAERESISazMEGAbd WITH TITLOazTayPE",
  "ba WITH DESCENDERbgMIDDLE HOOKazSIayQAayREVERSED DZEbhTSEbhYUbhZEazHAazOUND OMEGAaySCHWA",
  "bd WITH DIAERESISazEMISOFT SIGNazHAbaCHAbaHAbc WITH DESCENDERbaORT Ibf WITH TAILbeUbaWEazOFT DE",
  "bdELbeMbdSIGNazTRAIGHT Ubi WITH STROKEayTCHEazEba WITH DESCENDERbgMIDDLE HOOKazSEbaHEbaSEbaWE",
  "azWEayUaz WITH DIAERESISbgOUBLE ACUTEbfMACRONazKbaRAINIAN IEayVEayWEayYAbaEbaTazERU",
  "bc WITH BACK YERbiDIAERESISazIazNazUayZEba WITH DESCENDERbhIAERESISbaMLYAazHEbb WITH BREVE",
  "bhDESCENDERbiIAERESISbaWEasIGATURE A IEbaEN GHEbaTE TSEajKAVYKAajLETTER MULTIOCULAR OaqPALOCHKA",
  "aqSMALL CAPITAL ELajPAYEROKajSMALL LETTER Aax WITH BREVEbdDIAERESISaxBKHASIAN CHE",
  "bj WITH DESCENDERbgDZEbgHAaxLEUT KAawBARRED Obe WITH DIAERESISaySHKIR KAaxEaxIG YUSayNOCULAR O",
  "axLENDED YUSaxROAD OMEGAaxYELORUSSIAN-UKRAINIAN IawCCHEaxHEaz WITH DESCENDERbgIAERESIS",
  "bfVERTICAL STROKEaxLOSED LITTLE YUSaxROSSED OawDCHEaxEaxJEazRVaxOUBLE MONOCULAR ObdOaxWEaxZEazLO",
  "ayHEayWEayZEazHEawEax WITH DIAERESISaxFaxLay WITH DESCENDERbeHOOKbeMIDDLE HOOKbeTAILaxM",
  "ay WITH TAILaxNay WITH DESCENDERbeHOOKbeLEFT HOOKbeMIDDLE HOOKbeTAILaxRay WITH TICKaxS",
  "ay WITH DESCENDERawFITAawGHEaz WITH DESCENDERbfMIDDLE HOOKbfSTROKEbl AND HOOKbfUPTURNaxJEawHA",
  "ay WITH DESCENDERbeHOOKbeSTROKEayRD SIGNaxWEawIax WITH DIAERESISbdGRAVEbdMACRONaxEay WITH BREVE",
  "beGRAVEaxOayTAazIFIED AbfBIG YUSbfCLOSED LITTLE YUSbfEbfLITTLE YUSbfYATaxZHITSA",
  "bd WITH DOUBLE GRAVE ACCENTawJEawKAay WITH DESCENDERbeHOOKbeSTROKEbeVERTICAL STROKE",
  "axHAKASSIAN CHEaxJEaxOMI DEbcJEbcZJEbbLJEbbNJEbbSJEbbTJEbbZJEayPPAaxSIawLHAaxITTLE YUSaxJE",
  "axONG-LEGGED DEawMONOCULAR ObaGRAPH UKawNARROW OaxEUTRAL YERaxJEawOax WITH DIAERESISaxMEGA",
  "bb WITH TITLOaxTawPALOCHKAaxEay WITH DESCENDERbeMIDDLE HOOKaxSIawQAawREVERSED DZEbfTSEbfYUbfZE",
  "axHAaxOUND OMEGAbbED VEawSCHWAbb WITH DIAERESISaxEMISOFT SIGNaxHAayCHAayHAba WITH DESCENDER",
  "ayORT Ibd WITH TAILbcUayWEaxOFT DEbbELbcMbbSIGNaxTRAIGHT Ubg WITH STROKEawTALL HARD SIGNbbTE",
  "bbYATaxCHEaxEay WITH DESCENDERbeMIDDLE HOOKaxHREE-LEGGED TEaxSEayHEaySEayWEaxWEawU",
  "ax WITH DIAERESISbeOUBLE ACUTEbdMACRONaxKayRAINIAN IEaxNBLENDED UKawVEawWEaxIDE ESawYAayEayT",
  "axERUba WITH BACK YERbgDIAERESISaxIaxNaxUawZEay WITH DESCENDERbfIAERESISayMLYAaxHEaz WITH BREVE",
  "bfDESCENDERbgIAERESISayWEaqIGATURE A IEayEN GHEayTE TSEajTHOUSANDS SIGNaaDAGGERag KNIFE",
  "ahWITH LEFT GUARDamRIGHT GUARDacLET SYMBOLacNCERadGOacRK SHADEagUNGLASSESacSH SYMBOL",
  "afWITH LEFT UPTURNaeED LOW LINEahOVERLINEahTRIANGLE-HEADED RIGHTWARDS ARROWacTA LINK ESCAPEabC1",
  "ac2ac3ac4acSabEAF PERSONacCIDUOUS TREEaeMAL EXPONENT SYMBOLaiSEPARATOR KEY SYMBOL",
  "adREASE FONT SIZE SYMBOLacERacGREE CELSIUSahFAHRENHEITahSIGNacLadETEadIVERY TRUCKadTA EQUAL TO",
  "acNTISTRY SYMBOL LIGHT DOWN AND HORIZONTALbq WITH CIRCLEbwTRIANGLEbwWAVEaxUP AND HORIZONTAL",
  "bo WITH CIRCLEbuTRIANGLEbuWAVEaxVERTICAL AND BOTTOM LEFTbrRIGHTbkTOP LEFTboRIGHTbkWAVE",
  "bgWITH CIRCLEblTRIANGLEacPARTMENT STOREacRELICT HOUSE BUILDINGacSCENDING NODE",
  "adERET CAPITAL LETTER AYaxBEEaxCHEEaxDEEaxEFayLayMayNazGayRaySazHayTHayWaxGAYaxHaxJEEaxKAY",
  "axLONG AbdHbcEbcIbcObdOaxOIayWaxPEEaxSHORT AbeHbdEbdIbdObeOaxTEEayHEEaxVEEaxWUaxYEEaxZEEayHEE",
  "aiSMALL LETTER AYavBEEavCHEEavDEEavEFawLawMawNaxGawRawSaxHawTHawWavGAYavHavJEEavKAYavLONG AbbH",
  "baEbaIbaObbOavOIawWavPEEavSHORT AbcHbbEbbIbbObcOavTEEawHEEavVEEavWUavYEEavZEEawHEEafTag ISLAND",
  "adKTOP COMPUTERaiWINDOWacVANAGARI ABBREVIATION SIGNamCUTE ACCENTalCARETalDANDAamIGIT EIGHTarFIVE",
  "asOURarNINEarONEarSEVENasIXarTHREEasWOarZEROamOUBLE DANDAalGAP FILLERamRAVE ACCENTalHEADSTROKE",
  "alJAIN OMalLETTER AatAatIatUatWatYasBAatBAatHAasCAauNDRA AazEazOatHAasDAatDAauDAavHAauHAatHAasE",
  "asFAasGAatGAatHAauHAatLOTTAL STOPasHAatEAVY YAasIatIasJAatHAatJAasKAatHAauHAasLAatLAauLAasMA",
  "auRWARI DDAasNAatGAatNAauNAatYAasOatEatOEasPAatHAasQAasRAatHAatRAasSAatHAauORT AayEayOatSAasTA",
  "atHAatTAauHAasUatEatUauEasVAatOCALIC LbbLbaRbbRasYAatYAasZAatHAalOMalSIGN ANUSVARAarVAGRAHA",
  "aqCANDRABINDUbb AVAGRAHAbcTHREEbdWObcVIRAMAaqDOUBLE CANDRABINDU VIRAMAaqHIGH SPACING DOT",
  "aqINVERTED CANDRABINDUaqNUKTAaqPUSHPIKAaqSIDDHAMarPACING CANDRABINDUaqVIRAMAasSARGA",
  "amTRESS SIGN ANUDATTAaxUDATTAalVOWEL SIGN AAaxIaxUaxWaxYawCANDRA EbdLONG EbdOawEawIaxIawOaxEaxOE",
  "awPRISHTHAMATRA EawSHORT EbcOawUaxEaxUayEawVOCALIC LbfLbeRbfRadICE CONTROL FOURapONEapSTRING",
  "apTHREEaqWOabIAERESISadMETER SIGNaeOND OPERATORaiSHAPE WITH A DOT INSIDEaiTARGET",
  "aiWITH BOTTOM HALF BLACKanLEFT HALF BLACKanRIGHT HALF BLACKanTOP HALF BLACKacE FACE-1aj2aj3aj4",
  "aj5aj6adSEL LOCOMOTIVEacFFERENCE BETWEENacGIT EIGHTal COMMAamFULL STOPagFIVEak COMMAalFULL STOP",
  "ahOURak COMMAalFULL STOPagNINEak COMMAalFULL STOPagONEaj COMMAakFULL STOPagSEVENal COMMA",
  "amFULL STOPahIXaj COMMAakFULL STOPagTHREEal COMMAamFULL STOPahWOaj COMMAakFULL STOPagZERO",
  "ak COMMAalFULL STOPadRAM FOR EARTHaqLY HEAVENauUMANalGREATER YANGauINalHEAVENLY EARTH",
  "amUMAN EARTHalLESSER YANGatINacMENSION ORIGINacNGBAT CIRCLED SANS-SERIF DIGIT EIGHTbhFIVEbiOUR",
  "bhNINEbhONEbhSEVENbiIXbhTHREEbiWObhZERObbNUMBER TENaiNEGATIVE CIRCLED DIGIT EIGHTbfFIVEbgOUR",
  "bfNINEbfONEbfSEVENbgIXbfTHREEbgWOazNUMBER TENazSANS-SERIF DIGIT EIGHTbqFIVEbrOURbqNINEbqONE",
  "bqSEVENbrIXbqTHREEbrWObqZERObkNUMBER TENacRECT CURRENT SYMBOL FORM TWOahHITacSABLED CAR",
  "aePPOINTED BUT RELIEVED FACEanFACEadCONTINUOUS UNDERLINE SYMBOLadGUISED FACEacTTO MARK",
  "acVES AKURU DIGIT EIGHTasFIVEatOURasNINEasONEasSEVENatIXasTHREEatWOasZEROanOUBLE DANDA",
  "amEND OF TEXT MARKamGAP FILLERamINITIAL RAamLETTER AauAatBAauHAatCAauHAatDAauDAavHAauHAatEatGA",
  "auHAatHAatIauIatJAatKAauHAatLAauLAatMAatNAauGAauNAauYAatOatPAauHAatRAatSAauHAauSAatTAauHAauTAatU",
  "auUatVAatYAauYAatZAamMEDIAL RAatYAamPREFIXED NASAL SIGNamSIGN ANUSVARAarCANDRABINDUarHALANTA",
  "arNUKTAamVIRAMAanOWEL SIGN AAayIaxEaxIayIaxOaxUayUadIDESaeNG MASKaeSION SIGNakLASHajTIMES",
  "adORCE SYMBOLacYA LAMPacZZY FACEagSYMBOLabLEabNA DOUBLE HELIXabO NOT LITTER SYMBOLacCUMENT",
  "ai WITH PICTUREaoTEXTas AND PICTUREacDOacES NOT CONTAIN AS MEMBERauNORMAL SUBGROUPbj OR EQUAL",
  "ajDIVIDEap WITH REVERSED NEGATION SLASHajFORCEajPRECEDEaq OR EQUALalOVEajSUCCEEDaq OR EQUALacG",
  "ad FACEadRA ABBREVIATION SIGNagLETTER AaoAaoIaoUanBAaoHAanCAaoHAanDAaoDAapHAaoHAanEanGAaoHAanHA",
  "anIaoIanJAaoHAanKAaoHAanLAanMAanNAaoGAaoNAaoYAanOanPAaoHAanRAaoRAanSAaoHAaoSAanTAaoHAaoTAapHAanU",
  "aoUanVAanYAagSIGN ANUSVARAalNUKTAalVIRAMAanSARGAagVOWEL SIGN AAasIasUarEarIasIarOarUasU",
  "arVOCALIC RbaRacLLAR SIGNadPHINacMINO TILE HORIZONTAL BACKaw-00-00bb1bb2bb3bb4bb5bb6ay1-00bb1bb2",
  "bb3bb4bb5bb6ay2-00bb1bb2bb3bb4bb5bb6ay3-00bb1bb2bb3bb4bb5bb6ay4-00bb1bb2bb3bb4bb5bb6ay5-00bb1bb2",
  "bb3bb4bb5bb6ay6-00bb1bb2bb3bb4bb5bb6amVERTICAL BACKau-00-00az1az2az3az4az5az6aw1-00az1az2az3az4",
  "az5az6aw2-00az1az2az3az4az5az6aw3-00az1az2az3az4az5az6aw4-00az1az2az3az4az5az6aw5-00az1az2az3az4",
  "az5az6aw6-00az1az2az3az4az5az6acNG SIGNacORacT ABOVEaeMINUSaeOPERATORaePLUSadTED CIRCLEaiROSS",
  "ahFENCEahLINE FACEahOBELOSahRIGHT-POINTING ANGLEahSOLIDUSaiQUAREahTRANSPOSITION MARKER",
  "acUBLE ACUTE ACCENTahCIRCLED DIGIT EIGHTavFIVEawOURavNINEavONEavSEVENawIXavTHREEawWOapNUMBER TEN",
  "aiOLON EQUALaiURLY LOOPahDAGGERaiOWN TACKahEXCLAMATION MARKahHIGH-REVERSED-9 QUOTATION MARK",
  "aiYPHENahINTEGRALalRSECTIONahLEFT ARC GREATER-THAN BRACKETaiOGICAL ANDapORajW LINE",
  "ak-9 QUOTATION MARKalREVERSED-9 QUOTATION MARKahNESTED GREATER-THANaoLESS-THANax WITH UNDERBAR",
  "ahOBLIQUE HYPHENahPLUSaiRECEDESajIMEam QUOTATION MARKahQUESTION MARK",
  "ahRIGHT ARC LESS-THAN BRACKETahSOLIDUS OPERATORaiQUARE INTERSECTIONaoUNIONaiTACKED COMMA",
  "ajROKE NOT SIGNaiUBSETajCCEEDSajPERSETajSPENSION MARKahUNIONaiP TACKahVERTICAL BAR",
  "at DOUBLE LEFT TURNSTILEbbRIGHT TURNSTILEauLEFT TURNSTILEaqLINEahWAVY OVERLINEag-ENDED MULTIMAP",
  "ahLINE EQUAL TO OR GREATER-THANayLESS-THANamSLANTED EQUAL TO OR GREATER-THANbgLESS-THAN",
  "auGREATER-THAN OR EQUAL TOauLESS-THAN OR EQUAL TOahSTRUCK CAPITAL CawGAMMAawHawNawPaxIawQawRawZ",
  "aoITALIC CAPITAL DavSMALL DbbEbbIbbJaoN-ARY SUMMATIONaoSMALL GAMMAauPIagD FEMALE SIGNaiMALE SIGN",
  "aiSYMBOLadGHNUTacVE OF PEACEacWN ARROWHEADafFISH TAILafRIGHT DIAGONAL ELLIPSISafTACK",
  "aj WITH CIRCLE BELOWae-POINTING RED TRIANGLEaoSMALL RED TRIANGLEaoTRIANGLE WITH LEFT HALF BLACK",
  "bcRIGHT HALF BLACKaeWARD FACING HOOKau WITH DOTaqNOTCHED HOOKbc WITH DOTaiS ANCORAalRROW",
  "ap AND RIGHT ONE EIGHTH BLOCKaqFROM BARaqLEFTWARDS OF UPWARDS ARROWaqTO BAR",
  "aqWITH CORNER LEFTWARDSavDOUBLE STROKEavEQUILATERAL ARROWHEADavHORIZONTAL STROKE",
  "avLARGE TRIANGLE ARROWHEADavMEDIUM TRIANGLE ARROWHEADavNOTCHED TAILavSMALL EQUILATERAL ARROWHEAD",
  "bbTRIANGLE ARROWHEADavTIP LEFTWARDSazRIGHTWARDSakBLACK ARROWaqCIRCLED WHITE ARROW",
  "akCOMPRESSED ARROWakDASHED ARROWalOUBLE ARROWakFINGER-POST ARROW",
  "akHARPOON WITH BARB LEFT BESIDE DOWNWARDS HARPOON WITH BARB RIGHT",
  "boUPWARDS HARPOON WITH BARB RIGHTbhFROM BARbhTO BARbgWARDSbcRIGHT FROM BARbiTO BARbhWARDS",
  "alEAVY ARROWaqCOMPRESSED ARROWakPAIRED ARROWSakQUADRUPLE ARROWakROCKETakSANS-SERIF ARROW",
  "alQUARED ARROWakTRIANGLE ARROWHEADas-HEADED ARROWbf LEFTWARDS OF UPWARDS TRIANGLE-HEADED ARROW",
  "bgTO BARbgWITH BOLD SHAFTblDOUBLE HORIZONTAL STROKEblHEAVY SHAFTblLONG TIP LEFTWARDSbuRIGHTWARDS",
  "blMEDIUM SHAFTblNARROW SHAFTblVERY HEAVY SHAFTbaDASHED ARROWbaPAIRED ARROWSbaZIGZAG ARROW",
  "anPLE ARROWalWO HEADED ARROWan-HEADED ARROW WITH TRIANGLE ARROWHEADSakWHITE ARROW",
  "av WITHIN TRIANGLE ARROWHEADakZIGZAG ARROWabRACHMA SIGNadFTING POINT RIGHTWARDS ARROWadGON",
  "ag FACEacESSacIVE SLOW SIGNacOMEDARY CAMELadOLING FACEadP OF BLOODaeLETacUM WITH DRUMSTICKSabUCK",
  "acMPLINGacPLOYAN AFFIX ATTACHED E HOOKayI HOOKayLEFT-TO-RIGHT SECANTaySECANTayTAILbaNGENTbf HOOK",
  "apHIGH ACUTEauCIRCLEauDOTauGRAVEauLINEavONG GRAVEauTIGHT ACUTEauVERTICALbc SECANTauWAVE",
  "apLEFT HORIZONTAL SECANTaqOW ACUTEauRROWatCIRCLEatDOTatGRAVEatLINEauONG GRAVEatTIGHT ACUTE",
  "atVERTICALbb SECANTatWAVEapMID HORIZONTAL SECANTatVERTICAL SECANTapRIGHT HORIZONTAL SECANT",
  "ajDOUBLE MARKajLETTER AarOUaqBaqDar SarHaqEarEarUaqFar NaqGar R SaqHarLaqIarEaqJar Mat SasNat S",
  "asSat WITH DOTasWITH DOTbaS INSIDE AND ABOVEaqKar MasR SarKaqLarHarONG IavUaqMar Nat SasS",
  "asWITH DOTaqNar Mat SasSasWITH DOTarASAL AawIawOawUaqOarAarOHarUarWaqPar NarERNIN AMayNaqRar S",
  "arHarOMANIAN IazUaqSar Jat SasKat RasMasNasPat RasSasTat RasWITH DOTba BELOWarHORT IarLOAN AN",
  "awDHawEEaxHaxNawJawONaxWawUaqTar R SasSarHaqUar NarHarIaqVarOCALIC MaqWar RarAarEIarHarIarOasW",
  "aqXarWaqYEajPUNCTUATION CHINOOK FULL STOPajSIGN O WITH CROSSajTHICK LETTER SELECTORabVD",
  "aaE-MAIL SYMBOLabAGLEacRad OF MAIZEahRICEaeWITH HEARING AIDadTHaf GLOBE AMERICASanSIA-AUSTRALIA",
  "amEUROPE-AFRICAahROUNDacST SYRIAC CROSSabDITORIAL CORONISabGGacYPTIAN HIEROGLYPH A001ax2ax3ax4",
  "ax5ayAax6ayAayBax7ax8ax9aw10ax1ax2ax3ax4ayAax5ax6ax7ayAax8ax9aw20ax1ax2ax3ax4ax5ax6ax7ax8ax9aw30",
  "ax1ax2ayAax3ax4ax5ax6ax7ax8ax9aw40ayAax1ax2ayAax3ayAax4ax5ayAax6ax7ax8ax9aw50ax1ax2ax3ax4ax5ax6",
  "ax7ax8ax9aw60ax1ax2ax3ax4ax5ax6ax7ax8ax9aw70avA001ay2ay3ay4ay5ay6ay7azAazBay8ay9ax10ay1ay2ay3ay4",
  "ay5ay6ay7ay8ay9ax20ay1ay2ay3ay4ay5ay6ay7ay8ay9ax30ay1ay2auB001ax2ax3ax4ax5ayAax6ax7ax8ax9",
  "avEGIN SEGMENTauC001ax2ayAayBayCax3ax4ax5ax6ax7ax8ax9aw10ayAax1ax2ax3ax4ax5ax6ax7ax8ax9aw20ax1",
  "ax2ax3ax4auD001ax2ax3ax4ax5ax6ax7ax8ayAax9aw10ax1ax2ax3ax4ax5ax6ax7ax8ax9aw20ax1ax2ax3ax4ax5ax6",
  "ax7ayAax8ax9aw30ax1ayAax2ax3ax4ayAax5ax6ax7ax8ax9aw40ax1ax2ax3ax4ax5ax6ayAax7ax8ayAax9aw50ayAayB",
  "ayCayDayEayFayGayHayIax1ax2ayAax3ax4ayAax5ax6ax7ax8ax9aw60ax1ax2ax3ax4ax5ax6ax7ayAayBayCayDayE",
  "ayFayGayHauE001ax2ax3ax4ax5ax6ax7ax8ayAax9ayAaw10ax1ax2ax3ax4ax5ax6ayAax7ayAax8ax9aw20ayAax1ax2",
  "ax3ax4ax5ax6ax7ax8ayAax9aw30ax1ax2ax3ax4ayAax6ax7ax8avND SEGMENTauF001ayAax2ax3ax4ax5ax6ax7ax8",
  "ax9aw10ax1ax2ax3ayAax4ax5ax6ax7ax8ax9aw20ax1ayAax2ax3ax4ax5ax6ax7ax8ax9aw30ax1ayAax2ax3ax4ax5ax6",
  "ax7ayAax8ayAax9aw40ax1ax2ax3ax4ax5ayAax6ayAax7ayAax8ax9aw50ax1ayAayBayCax2ax3auG001ax2ax3ax4ax5",
  "ax6ayAax7ayAayBax8ax9aw10ax1ayAax2ax3ax4ax5ax6ax7ax8ax9aw20ayAax1ax2ax3ax4ax5ax6ayAax7ax8ax9aw30",
  "ax1ax2ax3ax4ax5ax6ayAax7ayAax8ax9aw40ax1ax2ax3ayAax4ax5ayAax6ax7ax8ax9aw50ax1ax2ax3ax4auH001ax2",
  "ax3ax4ax5ax6ayAax7ax8avORIZONTAL JOINERauI001ax2ax3ax4ax5ayAax6ax7ax8ax9ayAaw10ayAax1ayAax2ax3",
  "ax4ax5avNSERT AT BOTTOM ENDblSTARTbeTOP ENDbiSTARTauK001ax2ax3ax4ax5ax6ax7ax8auL001ax2ayAax3ax4",
  "ax5ax6ayAax7ax8auM001ayAayBax2ax3ayAax4ax5ax6ax7ax8ax9aw10ayAax1ax2ayAayBayCayDayEayFayGayHax3",
  "ax4ax5ayAax6ayAax7ayAax8ax9aw20ax1ax2ayAax3ax4ayAax5ax6ax7ax8ayAax9aw30ax1ayAax2ax3ayAayBax4ax5",
  "ax6ax7ax8ax9aw40ayAax1ax2ax3ax4auN001ax2ax3ax4ax5ax6ax7ax8ax9aw10ax1ax2ax3ax4ax5ax6ax7ax8ayAayB",
  "ax9aw20ax1ax2ax3ax4ax5ayAax6ax7ax8ax9aw30ax1ax2ax3ayAax4ayAax5ayAax6ax7ayAax8ax9aw40ax1ax2avL001",
  "ay2ay3ay4ay5azAay6ay7ay8ay9ax10ay1ay2ay3ay4ay5ay6ay7azAay8ay9ax20avU001ay2ay3ay4ay5ay6ay7ay8ay9",
  "ax10azAay1azAay2ay3ay4ay5ay6ay7ay8azAay9ax20ay1ay2azAauO001ayAax2ax3ax4ax5ayAax6ayAayBayCayDayE",
  "ayFax7ax8ax9aw10ayAayBayCax1ax2ax3ax4ax5ax6ax7ax8ax9ayAaw20ayAax1ax2ax3ax4ayAax5ayAax6ax7ax8ax9",
  "ayAaw30ayAax1ax2ax3ayAax4ax5ax6ayAayBayCayDax7ax8ax9aw40ax1ax2ax3ax4ax5ax6ax7ax8ax9aw50ayAayBax1",
  "avVERLAY MIDDLEauP001ayAax2ax3ayAax4ax5ax6ax7ax8ax9aw10ax1auQ001ax2ax3ax4ax5ax6ax7auR001ax2ayA",
  "ax3ayAayBax4ax5ax6ax7ax8ax9aw10ayAax1ax2ax3ax4ax5ax6ayAax7ax8ax9aw20ax1ax2ax3ax4ax5ax6ax7ax8ax9",
  "auS001ax2ayAax3ax4ax5ax6ayAax7ax8ax9aw10ax1ax2ax3ax4ayAayBax5ax6ax7ayAax8ax9aw20ax1ax2ax3ax4ax5",
  "ax6ayAayBax7ax8ax9aw30ax1ax2ax3ax4ax5ayAax6ax7ax8ax9aw40ax1ax2ax3ax4ax5ax6auT001ax2ax3ayAax4ax5",
  "ax6ax7ayAax8ayAax9ayAaw10ax1ayAax2ax3ax4ax5ax6ayAax7ax8ax9aw20ax1ax2ax3ax4ax5ax6ax7ax8ax9aw30ax1",
  "ax2ayAax3ayAax4ax5ax6auU001ax2ax3ax4ax5ax6ayAayBax7ax8ax9aw10ax1ax2ax3ax4ax5ax6ax7ax8ax9aw20ax1",
  "ax2ax3ayAax4ax5ax6ax7ax8ax9ayAaw30ax1ax2ayAax3ax4ax5ax6ax7ax8ax9aw40ax1ax2auV001ayAayBayCayDayE",
  "ayFayGayHayIax2ayAax3ax4ax5ax6ax7ayAayBax8ax9aw10ax1ayAayBayCax2ayAayBax3ax4ax5ax6ax7ax8ax9aw20",
  "ayAayBayCayDayEayFayGayHayIayJayKayLax1ax2ax3ayAax4ax5ax6ax7ax8ayAax9ayAaw30ayAax1ayAax2ax3ayA",
  "ax4ax5ax6ax7ayAax8ax9aw40ayAavERTICAL JOINERauW001ax2ax3ayAax4ax5ax6ax7ax8ax9ayAaw10ayAax1ax2ax3",
  "ax4ayAax5ax6ax7ayAax8ayAax9aw20ax1ax2ax3ax4ayAax5auX001ax2ax3ax4ayAayBax5ax6ayAax7ax8ayAauY001",
  "ayAax2ax3ax4ax5ax6ax7ax8auZ001ax2ayAayBayCayDax3ayAayBax4ayAax5ayAax6ax7ax8ax9aw10ax1ax2ax3ax4",
  "ax5ayAayBayCayDayEayFayGayHayIax6ayAayBayCayDayEayFayGayHabIGHT PETALLED OUTLINED BLACK FLORETTE",
  "ahOINTED BLACK STARaoPINWHEEL STARaoRECTILINEAR BLACK STARagSPOKED ASTERISK",
  "agTEARDROP-SPOKED PROPELLER ASTERISKafH NOTEabJECT SYMBOLabLBASAN LETTER AapBEapCEaqHEapDEaqHE",
  "apEaqIapFEapGEaqHAMMAarEaqJEapHEapIapJEapKEaqHEapLEaqLEapMEapNAaqDEaqEaqJEapOapPEapQEapREaqRE",
  "apSEaqHEapTEaqHEapUapVEapXEapYapZEaqHEacECTRIC ARROWajLIGHT BULBajPLUGajTORCHaiAL INTERSECTION",
  "adMENT OFak OPENING DOWNWARDSatUPWARDSalWITH DOT ABOVEaqLONG HORIZONTAL STROKEaqOVERBAR",
  "aqTWO HORIZONTAL STROKESaqUNDERBARaqVERTICAL BAR AT END OF HORIZONTAL STROKEadPHANTadVATORacF",
  "acYMAIC LETTER ALEPHaqYINapBETHapDALETHapGIMELapHEarTHapKAPHapLAMEDHapMEMapNUNapPEapQOPHapRESH",
  "apSADHEarMEKHaqHINapTAWaqETHapWAWapYODHapZAYINajIGATURE ZAYIN-YODHabM DASHadQUADadSPACE",
  "acOJI COMPONENT BALDaqCURLY HAIRaqRED HAIRaqWHITE HAIRagMODIFIER FITZPATRICK TYPE-1-2bg3bg4bg5",
  "bg6acPHASIS SYMBOLadTY DOCUMENTagNESTahOTEak PADanGEagPAGEakSagSETaj WITH LEFT ARROW ABOVE",
  "apOVERBARapRIGHT ARROW ABOVEapSMALL CIRCLE ABOVEabN DASHadQUADadSPACEacD OF GUARDED AREAahLINE",
  "ahMEDIUMahPROOFakTECTED AREAahSELECTED AREAahTEXTaiRANSMISSIONat BLOCK",
  "aeWITH LEFTWARDS ARROW ABOVEacQadUIRYacTER SYMBOLacVELOPEai WITH DOWNWARDS ARROW ABOVE",
  "aoLIGHTNINGabOLacMacTabPAabQUAL AND PARALLEL TOagTO BY DEFINITIONajOR GREATER-THANamLESS-THAN",
  "amPRECEDESamSUCCEEDSafS COLONahSIGNal ABOVE LEFTWARDS ARROWasPLUS SIGNasRIGHTWARDS ARROW",
  "asTILDE OPERATORanND SLANTED PARALLELbg WITH TILDE ABOVEamWITH BUMPY ABOVEarDOT BELOW",
  "arINFINITY BELOWarTWO DOTS ABOVE AND TWO DOTS BELOWahWITH ASTERISKadIANGULAR TOaeVALENT TO",
  "alWITH FOUR DOTS ABOVEabRASE TO THE LEFTanRIGHTacIS FORM ONEakTWOacROR-BARRED BLACK CIRCLE",
  "atDIAMONDatSQUAREanWHITE CIRCLEatDIAMONDatSQUAREabSAacCadAPEacTIMATED SYMBOLaiSabTB",
  "acHIOPIC COLONalMBINING GEMINATION AND VOWEL LENGTH MARKbeMARKatVOWEL LENGTH MARKamMA",
  "ajDIGIT EIGHTapFIVEaqOURapNINEapONEapSEVENaqIXapTHREEaqWOajFULL STOPajNUMBER EIGHTYaqFIFTYarORTY",
  "aqHUNDREDaqNINETYaqSEVENTYarIXTYaqTENat THOUSANDarHIRTYarWENTYajPARAGRAPH SEPARATOR",
  "akREFACE COLONajQUESTION MARKajSECTION MARKalMICOLONakYLLABLE BAauAatBAavAauEavEauIauOauUatEauE",
  "atIatOauAatUatWAauEavEauIasCAauAatCAavAauEavEauHAawAavEawEavHAaxAawEaxEawIawOawUavIavOavUauIauO",
  "auUatEauEatHAavAauEavEauIauOavAauUauWAatIatOauAatUatWAasDAauAatDAavAauEavEauHAAavEawEavIavOavU",
  "auIauOavAauUauWAatEauEatIatOauAatUatWAatZAAauEavEauIauOauUasFAauAatEauEatIatOatUatWAauEavEauI",
  "atYAasGAauAatEauEatGAavAauEavEauIauOauUauWAawAavEawEavIatIatLOTTAL AbbAbaEbbEbaIbaObbAbaUbaWAatO",
  "auAatUauRAGE BWEEbbIazFWEEbbIazGWEbcEbbIazHHWAazKWEbcEbbIazMWEEbbIazPWEEbbIazQWEbcEbbIatWAavAauE",
  "avEauIatYAavAauEavEauIauOauUasHAauAatEauEatHAavAauEavEauIauOauUauWAavEawEavIauYAawAavEawEavIavO",
  "avUatIatOauAatUasJAauAatEauEatIatOauAatUatWAasKAauAatEauEatIatOauAatUatWAavAauEavEauIatXAavAauE",
  "avEauIauOauUauWAawAavEawEavIatYAavAauEavEauIauOauUasLAauAatEauEatIatOauAatUatWAasMAauAatEauEatI",
  "atOauAatUatWAauEavEauIatYAasNAauAatEauEatIatOauAatUatWAatYAavAauEavEauIauOavAauUauWAasPAauAatE",
  "auEatHAavAavRYNGEAL AbeAbdEbeEbdIbdObdUauEavEauIauOavAauUauWAatIatOauAatUatWAauEavEauIasQAauAatE",
  "auEatHAavAauEavEauIauOauUauWAawAavEawEavIatIatOauAatUatWAavAauEavEauIatYAavAauEavEauIauOauUasRA",
  "auAatEauEatIatOauAatUatWAatYAasSAauAatEauBATBEIT BWAbcFWAbcMWAbcPWAauEatHAavAauEavEauIauOavAauU",
  "auWAatIatOauAatSAavAauEavEauIauOauUatUatWAatZAavAauEavEauIauOauUauWAasTAauAatEauEatHAavAauEavE",
  "auIauOavAauUauWAatIatOauAatSAavAauEavEauIauOauUauWAatTHAAavEawEavIavOavUatUatWAatZAavAauEavEauI",
  "auOavAauUasVAauAatEauEatIatOatUatWAasWAauAatEauEatIatOauAatUasXAauAatEauEatIatOauAatUatWAavAauE",
  "avEauIatYAavAauEavEauIauOauUasYAauAatEauEatIatOauAatUasZAauAatEauEatHAavAauEavEauIauOauUauWAatI",
  "atOauAatUatWAatZAavAauEavEauIauOauUajTONAL MARK CHIRETauDERETaz-HIDETavIFATauHIDETauKENATavURT",
  "auRIKRIKauSHORT RIKRIKauYIZETajWORDSPACEacXabULER CONSTANTacRO SIGNae-CURRENCY SIGNaePEAN CASTLE",
  "ajPOST OFFICEabVERGREEN TREEabXCESSadLAMATION MARKamQUESTION MARKacPRESSIONLESS FACE",
  "acTENDED ARABIC-INDIC DIGIT EIGHTbcFIVEbdOURbcNINEbcONEbcSEVENbdIXbcTHREEbdWObcZERO",
  "adRATERRESTRIAL ALIENaeEMELY HEAVY FIVE SPOKED ASTERISKaqGREEK CROSSaqSALTIRE",
  "arIX SPOKED ASTERISKaqWHITE CIRCLEawSQUAREabYEadGLASSESadSaaFACE HOLDING BACK TEARSafMASSAGE",
  "afPALMafSAVOURING DELICIOUS FOODagCREAMING IN FEARafTHROWING A KISSafWITH COLD SWEATamWBOY HAT",
  "akDIAGONAL MOUTHakFINGER COVERING CLOSED LIPSakHEAD-BANDAGEakLOOK OF TRIUMPHakMEDICAL MASK",
  "alONOCLEakNO GOOD GESTUREakOK GESTUREalNE EYEBROW RAISEDalPEN EYES AND HAND OVER MOUTHapMOUTH",
  "au AND COLD SWEATavVOMITINGakPARTY HORN AND PARTY HATalEEKING EYEalLEADING EYESakROLLING EYES",
  "akSTUCK-OUT TONGUEba AND TIGHTLY-CLOSED EYESbfWINKING EYEakTEARS OF JOYalHERMOMETER",
  "akUNEVEN EYES AND WAVY MOUTHajOUT MOUTHadSIMILE SIGNadTORYacIRYacLAFELadLEN LEAF",
  "aeING DIAGONAL CROSSING NORTH EAST ARROWbaRISING DIAGONALarIN WHITE CIRCLE IN BLACK SQUAREacMILY",
  "acRSI SYMBOLacTHER CHRISTMASacX ICONaeMACHINEabEARFUL FACEadTHERacMALE SIGN",
  "adININE ORDINAL INDICATORacNCERacRRIS WHEELaeYabFabIELD HOCKEY STICK AND BALLacGURE DASHahSPACE",
  "acLE CABINETafFOLDERafSEPARATORadM FRAMESafPROJECTORacNITE PART INTEGRALacREae ENGINE",
  "agXTINGUISHERaeCRACKERaeWORK SPARKLERaiSadST PLACE MEDALagQUARTER MOONas SYMBOLatWITH FACE",
  "agSTRONG ISOLATEacSHae CAKE WITH SWIRL DESIGNaeEYEaeING POLE AND FISHadTED HAND SIGN",
  "acVE DOT MARKajPUNCTUATIONabLAG IN HOLEadMINGOadT SHOEaeBREADaeNESSacEUR-DE-LISadXED BICEPS",
  "acOPPY DISKadRAL HEARTadWERag PLAYING CARDSaiUNCTUATION MARKacUSHED FACEacYadING DISCahENVELOPE",
  "ahSAUCERabOGadGYacLDERacNDUEacOTaePRINTSacR ALLadCESadK AND KNIFEao WITH PLATEaeED PARAGRAPHOS",
  "aeINGadM FEEDadTUNE COOKIEacUNTAINadR BALLOON-SPOKED ASTERISKafCLUB-SPOKED ASTERISK",
  "agORNER ARROWS CIRCLING ANTICLOCKWISEafDOT MARKajPUNCTUATIONafLEAF CLOVERafPOINTED BLACK STAR",
  "afTEARDROP-SPOKED ASTERISKae-PER-EM SPACEaeTH ROOTacX FACEabRACTION NUMERATOR ONEajSLASH",
  "adME WITH AN XalPICTUREalTILESacEEZING FACEadNCH FRANC SIGNajIESacIED SHRIMPacOG FACE",
  "adNT-FACING BABY CHICKagTILTED SHADOWED WHITE RIGHTWARDS ARROWadWNafING FACE WITH OPEN MOUTHabS",
  "acIabUEL PUMPacLL BLOCKafMOON SYMBOLakWITH FACEafOUTER JOINafSTOPaeWIDTH AMPERSANDalPOSTROPHE",
  "alSTERISKakBROKEN BARakCENT SIGNalIRCUMFLEX ACCENTalOLONamMMAaoERCIAL ATakDIGIT EIGHTaqFIVEarOUR",
  "aqNINEaqONEaqSEVENarIXaqTHREEarWOaqZEROalOLLAR SIGNakEQUALS SIGNalXCLAMATION MARKakFULL STOP",
  "akGRAVE ACCENTamEATER-THAN SIGNakHYPHEN-MINUSakLATIN CAPITAL LETTER AbfBbfCbfDbfEbfFbfGbfHbfIbfJ",
  "bfKbfLbfMbfNbfObfPbfQbfRbfSbfTbfUbfVbfWbfXbfYbfZaqSMALL LETTER AbdBbdCbdDbdEbdFbdGbdHbdIbdJbdK",
  "bdLbdMbdNbdObdPbdQbdRbdSbdTbdUbdVbdWbdXbdYbdZalEFT CURLY BRACKETapPARENTHESISapSQUARE BRACKET",
  "apWHITE PARENTHESISamSS-THAN SIGNalOW LINEakMACRONakNOT SIGNalUMBER SIGNakPERCENT SIGNalLUS SIGN",
  "alOUND SIGNakQUESTION MARKamOTATION MARKakREVERSE SOLIDUSalIGHT CURLY BRACKETaqPARENTHESIS",
  "aqSQUARE BRACKETaqWHITE PARENTHESISakSEMICOLONalOLIDUSakTILDEakVERTICAL LINEakWON SIGNakYEN SIGN",
  "acNCTION APPLICATIONadERAL URNacSEabVS1ad2ad3ad4aaGAME DIEacRLICabEARae WITH HANDLESajOUT HUB",
  "acM STONEadINIacNIEacOMETRIC PROPORTIONajALLY EQUAL TOarIVALENT TOadRGIAN CAPITAL LETTER AENazN",
  "ayBANayCANazHARbaINazILayDONayENayGANazHANayHAEbaRazEazIEazOEayINayJHANazILayKANazHARayLASayMAN",
  "ayNARayONayPARazHARayQARayRAEaySANazHINayTANbaRayUNayVINayWEayXANayYNayZENazHARajLETTER AENarIN",
  "arNaqBANaqCANarHARasINarILaqDONaqELIFIarNaqFIaqGANarHANaqHAEasRatD SIGNarEarIEarOEaqINaqJHANarIL",
  "aqKANarHARaqLABIAL SIGNasSaqMANaqNARaqONaqPARarHARaqQARaqRAEaqSANarHINaqTANasRarURNED GANaqUN",
  "aqVINaqWEaqXANaqYNaqZENarHARajMTAVRULI CAPITAL LETTER AENbiINbiNbhBANbhCANbiHARbjINbiILbhDON",
  "bhELIFIbiNbhFIbhGANbiHANbhHAEbjRbkD SIGNbiEbiIEbiOEbhINbhJHANbiILbhKANbiHARbhLABIAL SIGNbjSbhMAN",
  "bhNARbhONbhPARbiHARbhQARbhRAEbhSANbiHINbhTANbjRbiURNED GANbhUNbhVINbhWEbhXANbhYNbhZENbiHAR",
  "ajPARAGRAPH SEPARATORajSMALL LETTER AENaxNawBANawCANaxHARayINaxILawDONawENawGANaxHANawHAEayRaxE",
  "axIEaxOEawINawJHANaxILawKANaxHARawLASawMANawNARawONawPARaxHARawQARawRAEawSANaxHINawTANayRawUN",
  "awVINawWEawXANawYNawZENaxHARacRMAN PENNY SIGNacTA MARKabHOSTabIMEL SYMBOLacRAFFE FACEadL",
  "aeS SYMBOLabLAGOLITIC CAPITAL LETTER AZUbaBIG YUSbbUKYbaCAUDATE CHRIVIbbHRIVIbaDJERVIbbOBRO",
  "bbZELObaFITAbbRITUbaGLAGOLIbaHERUbaIbbNITIAL IZHEbbOTATED BIG YUSbiSMALL YUSbbZHEbdITSAbaKAKO",
  "baLATINATE MYSLITEbbJUDIJEbaMYSLITEbaNASHIbaONUbbTUbaPEbbOKOJIbaRITSIbaSHAbcTAbePICbbLOVO",
  "bbMALL YUSbj WITH TAILbbPIDERY HAbaTROKUTASTI AbbSIbbVRIDObaUKUbaVEDEbaYATIbbERIbdUbcSTUbbObbU",
  "baZEMLJAbbHIVETEalSMALL LETTER AZUayBIG YUSazUKYayCAUDATE CHRIVIazHRIVIayDJERVIazOBROazZELO",
  "ayFITAazRITUayGLAGOLIayHERUayIazNITIAL IZHEazOTATED BIG YUSbgSMALL YUSazZHEbbITSAayKAKO",
  "ayLATINATE MYSLITEazJUDIJEayMYSLITEayNASHIayONUazTUayPEazOKOJIayRITSIaySHAbaTAbcPICazLOVO",
  "azMALL YUSbh WITH TAILazPIDERY HAayTROKUTASTI AazSIazVRIDOayUKUayVEDEayYATIazERIbbUbaSTUazOazU",
  "ayZEMLJAazHIVETEadSS OF MILKacEICH STARKacOBE WITH MERIDIANSadVESadWING STARabOAL NETadTacGGLES",
  "acLFERacRILLAacTHIC LETTER AHSAapIHVUSaoBAIRKANaoDAGSaoEISaoFAIHUaoGIBAaoHAGLapWAIRaoIGGWSapUJA",
  "aoJERaoKUSMAaoLAGUSaoMANNAaoNAUTHSapINE HUNDREDasTYaoOTHALaoPAIRTHRAaoQAIRTHRAaoRAIDAaoSAUIL",
  "aoTEIWSapHIUTHaoURUSaoWINJAabRADUATION CAPadNTHA AU LENGTH MARKaiLETTER AaqAaqIaqUapBAaqHAapCA",
  "aqHAapDAaqDAarHAaqHAapEEapGAaqHAapHAapIaqIapJAaqHAapKAaqHAapLAaqLAapMAapNAaqGAaqNAaqYAapOOapPA",
  "aqHAapRAapSAaqHAaqSAapTAaqHAaqTAarHAapUaqUapVAaqEDIC ANUSVARAavDOUBLE ANUSVARAaqOCALIC LayLaxR",
  "ayRapYAaiOMaiSIGN ANUSVARAaoVAGRAHAanCANDRABINDUaoOMBINING ANUSVARA ABOVEanNUKTAanPLUTAanVIRAMA",
  "apSARGAaiVOWEL SIGN AAauIauUatEEatIauIatOOatUauUatVOCALIC LbcLbbRbcRadPESadVE ACCENT",
  "acEATER-THAN ABOVE DOUBLE-LINE EQUAL ABOVE LESS-THANatLESS-THAN ABOVE DOUBLE-LINE EQUAL",
  "atRIGHTWARDS ARROWatSIMILAR ABOVE LESS-THANbbOR EQUAL",
  "auLANTED EQUAL ABOVE LESS-THAN ABOVE SLANTED EQUALaoND NOT APPROXIMATEarSINGLE-LINE NOT EQUAL TO",
  "anBESIDE LESS-THANaoUT NOT EQUAL TOayIVALENT TOanCLOSED BY CURVEbc ABOVE SLANTED EQUAL",
  "anEQUAL TO OR LESS-THANanOR APPROXIMATEaqEQUAL TOatIVALENT TOaqLESS-THANaqSLANTED EQUAL TO",
  "bg WITH DOT ABOVEbv LEFTbqINSIDEaoVER EQUAL TOarLAPPING LESS-THANanSIGNanWITH CIRCLE INSIDEasDOT",
  "asQUESTION MARK ABOVEadEK ACROPHONIC ATTIC FIFTYbc STATERSbdTALENTSbeHOUSANDbl STATERSazVE",
  "bb HUNDREDbj STATERSbkTALENTSbcSTATERSbcTALENTSbdHOUSANDbk TALENTSaxONE DRACHMAbbHALF",
  "bcUNDRED STATERSbjTALENTSbbQUARTERbbTHOUSAND STATERSbkTALENTSaxTEN MNASbbSTATERSbbTALENTS",
  "bcHOUSAND STATERSarCARYSTIAN FIVE HUNDREDasYRENAIC TWO DRACHMASarDELPHIC FIVE MNAS",
  "arEPIDAUREAN FIVE HUNDREDbcTWObf DRACHMASarHERAEUM ONE PLETHRONauMIONIAN FIFTYbcONEbcTEN",
  "arMESSENIAN TENarNAXIAN FIVE HUNDREDarSTRATIAN FIFTY MNASarTHESPIAN FIFTYbcVE HUNDREDbfTHOUSAND",
  "baONEbd HUNDREDbeTHOUSANDbaTENbbHIRTYbcREE HUNDREDbbWOasROEZENIAN FIFTYbh ALTERNATE FORMbeVE",
  "bg HUNDREDbcTENbf ALTERNATE FORMahNO TELEIAahROURA SIGNaiTABE SIGNagBETA SYMBOL",
  "agCAPITAL DOTTED LUNATE SIGMA SYMBOLaoKAI SYMBOLaoLETTER ALPHAba WITH DASIAbl AND OXIA",
  "bu AND PROSGEGRAMMENIbqPERISPOMENIcb AND PROSGEGRAMMENIbrROSGEGRAMMENIbqVARIA",
  "bv AND PROSGEGRAMMENIbgMACRONbgOXIAbgPROSGEGRAMMENIbhSILIbl AND OXIAbu AND PROSGEGRAMMENI",
  "bqPERISPOMENIcb AND PROSGEGRAMMENIbrROSGEGRAMMENIbqVARIAbv AND PROSGEGRAMMENIbgTONOSbgVARIA",
  "bhRACHYawRCHAIC SAMPIavBETAavCHIavDELTAavEPSILONbc WITH DASIAbn AND OXIAbsVARIAbiOXIAbiPSILI",
  "bn AND OXIAbsVARIAbiTONOSbiVARIAawTAay WITH DASIAbj AND OXIAbs AND PROSGEGRAMMENIboPERISPOMENI",
  "bz AND PROSGEGRAMMENIbpROSGEGRAMMENIboVARIAbt AND PROSGEGRAMMENIbeOXIAbePROSGEGRAMMENIbfSILI",
  "bj AND OXIAbs AND PROSGEGRAMMENIboPERISPOMENIbz AND PROSGEGRAMMENIbpROSGEGRAMMENIboVARIA",
  "bt AND PROSGEGRAMMENIbeTONOSbeVARIAavGAMMAavHETAavIOTAaz WITH DASIAbk AND OXIAbpPERISPOMENI",
  "bpVARIAbgIALYTIKAbfMACRONbfOXIAbfPSILIbk AND OXIAbpPERISPOMENIbpVARIAbfTONOSbfVARIAbgRACHY",
  "avKAPPAavLAMDAavMUavNUavOMEGAba WITH DASIAbl AND OXIAbu AND PROSGEGRAMMENIbqPERISPOMENI",
  "cb AND PROSGEGRAMMENIbrROSGEGRAMMENIbqVARIAbv AND PROSGEGRAMMENIbgOXIAbgPROSGEGRAMMENIbhSILI",
  "bl AND OXIAbu AND PROSGEGRAMMENIbqPERISPOMENIcb AND PROSGEGRAMMENIbrROSGEGRAMMENIbqVARIA",
  "bv AND PROSGEGRAMMENIbgTONOSbgVARIAaxICRONbc WITH DASIAbn AND OXIAbsVARIAbiOXIAbiPSILI",
  "bn AND OXIAbsVARIAbiTONOSbiVARIAavPAMPHYLIAN DIGAMMAawHIawIawSIavRHOay WITH DASIAavSANawHOawIGMA",
  "avTAUawHETAavUPSILONbc WITH DASIAbn AND OXIAbsPERISPOMENIbsVARIAbjIALYTIKAbiMACRONbiOXIAbiTONOS",
  "biVARIAbjRACHYavXIavYOTavZETAapUNATE SIGMA SYMBOLaoREVERSED DOTTED LUNATE SIGMA SYMBOL",
  "axLUNATE SIGMA SYMBOLaoTHETA SYMBOLagDASIAal AND OXIAaqPERISPOMENIaqVARIAahIALYTIKA AND OXIA",
  "auPERISPOMENIauVARIAaqTONOSahRACHMA SIGNagFIVE OBOLS SIGNahOUR OBOLS SIGNagGRAMMA SIGN",
  "agINDICTION SIGNaiSTRUMENTAL NOTATION SYMBOL-1bk1bk2bk3bk4bk7bk8bk9bj2bk3bk4bk5bk6bk7bk9bj30bk2",
  "bk6bk7bk8bk9bj4bk0bk2bk3bk5bk7bk8bk9bj5bk0bk1bk2bk3bk4bj7bj8agKAI SYMBOLaiPPA SYMBOLahORONIS",
  "ahYATHOS BASE SIGNagLETTER ARCHAIC KOPPAanDIGAMMAanKOPPAanSAMPIaoMALL CAPITAL GAMMAbbLAMDA",
  "bbOMEGAbbPIbcSIbbRHOaoTIGMAanYOTahITRA SIGNahOWER NUMERAL SIGNahUNATE EPSILON SYMBOL",
  "anSIGMA SYMBOLagMETRETES SIGNahUSICAL LEIMMAagNUMERAL SIGNagOBOL SIGNahNE HALF SIGN",
  "at ALTERNATE FORMakQUARTER SIGNahUNKIA SIGNahXIAagPERISPOMENIahHI SYMBOLahI SYMBOL",
  "ahROSGEGRAMMENIahSILIal AND OXIAaqPERISPOMENIaqVARIAagQUESTION MARK",
  "agREVERSED LUNATE EPSILON SYMBOLahHO SYMBOLakWITH STROKE SYMBOLagSINUSOID SIGN",
  "ahMALL DOTTED LUNATE SIGMA SYMBOLamLETTER ALPHAay WITH DASIAbj AND OXIAbs AND YPOGEGRAMMENI",
  "boPERISPOMENIbz AND YPOGEGRAMMENIboVARIAbt AND YPOGEGRAMMENIboYPOGEGRAMMENIbeMACRONbeOXIA",
  "bi AND YPOGEGRAMMENIbePERISPOMENIbp AND YPOGEGRAMMENIbfSILIbj AND OXIAbs AND YPOGEGRAMMENI",
  "boPERISPOMENIbz AND YPOGEGRAMMENIboVARIAbt AND YPOGEGRAMMENIboYPOGEGRAMMENIbeTONOSbeVARIA",
  "bj AND YPOGEGRAMMENIbfRACHYbeYPOGEGRAMMENIauRCHAIC KOPPAbbSAMPIatBETAatCHIatDELTAauIGAMMA",
  "atEPSILONba WITH DASIAbl AND OXIAbqVARIAbgOXIAbgPSILIbl AND OXIAbqVARIAbgTONOSbgVARIAauTA",
  "aw WITH DASIAbh AND OXIAbq AND YPOGEGRAMMENIbmPERISPOMENIbx AND YPOGEGRAMMENIbmVARIA",
  "br AND YPOGEGRAMMENIbmYPOGEGRAMMENIbcOXIAbg AND YPOGEGRAMMENIbcPERISPOMENIbn AND YPOGEGRAMMENI",
  "bdSILIbh AND OXIAbq AND YPOGEGRAMMENIbmPERISPOMENIbx AND YPOGEGRAMMENIbmVARIA",
  "br AND YPOGEGRAMMENIbmYPOGEGRAMMENIbcTONOSbcVARIAbh AND YPOGEGRAMMENIbcYPOGEGRAMMENI",
  "atFINAL SIGMAatGAMMAatHETAatIOTAax WITH DASIAbi AND OXIAbnPERISPOMENIbnVARIAbeIALYTIKA",
  "bm AND OXIAbrPERISPOMENIbrTONOSbrVARIAbdMACRONbdOXIAbdPERISPOMENIbeSILIbi AND OXIAbnPERISPOMENI",
  "bnVARIAbdTONOSbdVARIAbeRACHYatKAPPAauOPPAatLAMDAatMUatNUatOMEGAay WITH DASIAbj AND OXIA",
  "bs AND YPOGEGRAMMENIboPERISPOMENIbz AND YPOGEGRAMMENIboVARIAbt AND YPOGEGRAMMENIboYPOGEGRAMMENI",
  "beOXIAbi AND YPOGEGRAMMENIbePERISPOMENIbp AND YPOGEGRAMMENIbfSILIbj AND OXIAbs AND YPOGEGRAMMENI",
  "boPERISPOMENIbz AND YPOGEGRAMMENIboVARIAbt AND YPOGEGRAMMENIboYPOGEGRAMMENIbeTONOSbeVARIA",
  "bj AND YPOGEGRAMMENIbeYPOGEGRAMMENIavICRONba WITH DASIAbl AND OXIAbqVARIAbgOXIAbgPSILI",
  "bl AND OXIAbqVARIAbgTONOSbgVARIAatPAMPHYLIAN DIGAMMAauHIauIauSIatRHOaw WITH DASIAbcPSILIatSAMPI",
  "avNauHOauIGMAauTIGMAatTAUauHETAatUPSILONba WITH DASIAbl AND OXIAbqPERISPOMENIbqVARIAbhIALYTIKA",
  "bp AND OXIAbuPERISPOMENIbuTONOSbuVARIAbgMACRONbgOXIAbgPERISPOMENIbhSILIbl AND OXIAbqPERISPOMENI",
  "bqVARIAbgTONOSbgVARIAbhRACHYatXIatZETAamREVERSED DOTTED LUNATE SIGMA SYMBOLavLUNATE SIGMA SYMBOL",
  "ahUBSCRIPT SMALL LETTER BETAbdCHIbdGAMMAbdPHIbdRHOahYMBOL TAU RHOagTALENT SIGNahHETA SYMBOL",
  "aiREE OBOLS SIGNamQUARTERS SIGNahONOSahRYBLION BASE SIGNahWO OBOLS SIGNakTHIRDS SIGN",
  "agUPSILON WITH ACUTE AND HOOK SYMBOLatDIAERESIS AND HOOK SYMBOLatHOOK SYMBOLagVARIA",
  "ahOCAL NOTATION SYMBOL-1bd0bd1bd2bd3bd4bd5bd6bd7bd8bd9bc2bd0bd1bd2bd3bd4bc3bc4bc5bd0bd1bd2bd3bd4",
  "bc6bc7bc8bc9agXESTES SIGNagYEAR SIGNahPOGEGRAMMENIagZERO SIGNaeN APPLEagBOOKagHEARTagSALAD",
  "acIMACING FACEadNNING CAT FACE WITH SMILING EYESajFACEan WITH ONE LARGE AND ONE SMALL EYE",
  "atSMILING EYESauTAR EYESacOUP MARKagSEPARATORadWING HEARTabSabUARANI SIGNaeDSMANacIDE DOGadTAR",
  "acJARATI ABBREVIATION SIGNajDIGIT EIGHTapFIVEaqOURapNINEapONEapSEVENaqIXapTHREEaqWOapZERO",
  "ajLETTER AarAarIarUaqBAarHAaqCAarHAaqDAarDAasHAarHAaqEaqGAarHAaqHAaqIarIaqJAarHAaqKAarHAaqLAarLA",
  "aqMAaqNAarGAarNAarYAaqOaqPAarHAaqRAaqSAarHAarSAaqTAarHAarTAasHAaqUarUaqVAarOCALIC LazLayRazRaqYA",
  "aqZHAajOMajRUPEE SIGNajSIGN ANUSVARAapVAGRAHAaoCANDRABINDUapIRCLE NUKTA ABOVEaoMADDAHaoNUKTA",
  "aoSHADDAapUKUNaoTHREE-DOT NUKTA ABOVEapWO-CIRCLE NUKTA ABOVEaoVIRAMAaqSARGAajVOWEL CANDRA EawO",
  "apSIGN AAavIavUauCANDRA EbbOauEauIavIauOauUavUauVOCALIC LbdLbcRbdRacNJALA GONDI DIGIT EIGHT",
  "auFIVEavOURauNINEauONEauSEVENavIXauTHREEavWOauZEROaoLETTER AawAawIawUavBAawHAavCAawHAavDAawDA",
  "axHAawHAavEEavGAawHAavHAavIawIavJAawHAavKAawHAavLAawLAavMAavNAawGAavOOavPAawHAavRAavSAavTAawHA",
  "awTAaxHAavUawUavVAavYAaoOMaoSIGN ANUSVARAatVISARGAaoVIRAMAapOWEL SIGN AAbaIbaUazEEazIbaIazOOazU",
  "baUacRMUKHI ABBREVIATION SIGNakDDAKajDIGIT EIGHTapFIVEaqOURapNINEapONEapSEVENaqIXapTHREEaqWO",
  "apZEROajEK ONKARajIRIajLETTER AarAarIarUaqBAarHAaqCAarHAaqDAarDAasHAarHAaqEEaqFAaqGAarHAasHAaqHA",
  "aqIarIaqJAarHAaqKAarHAasHAaqLAarLAaqMAaqNAarGAarNAarYAaqOOaqPAarHAaqRAarRAaqSAarHAaqTAarHAarTA",
  "asHAaqUarUaqVAaqYAaqZAajSIGN ADAK BINDIaoBINDIaoNUKTAaoUDAATaoVIRAMAaqSARGAaoYAKASHajTIPPIajURA",
  "ajVOWEL SIGN AAavIavUauEEauIavIauOOauUavUaaHADESacIR SPACEaeCUTacLFWIDTH BLACK SQUARE",
  "akDOWNWARDS ARROWakFORMS LIGHT VERTICALakHANGUL FILLERarLETTER AazEayCHIEUCHazIEUCayEazOazU",
  "ayHIEUHayIazEUNGayKHIEUKHazIYEOKbe-SIOSayMIEUMayNIEUNbd-CIEUCbeHIEUHayOazEayPHIEUPHazIEUPbd-SIOS",
  "ayRIEULbd-HIEUHbeKIYEOKbeMIEUMbePHIEUPHbfIEUPbeSIOSbeTHIEUTHaySIOSazSANGCIEUCbdKIYEOKbdPIEUP",
  "bdSIOSbdTIKEUTayTHIEUTHazIKEUTayUayWAbaEazEbaOazIayYAbaEazEbaOazIazOazUakIDEOGRAPHIC COMMA",
  "awFULL STOPakKATAKANA LETTER AbaEbaHAbbEbbIbbObbUbaIbaKAbbEbbIbbObbUbaMAbbEbbIbbObbUbaNbbAbbEbbI",
  "bbObbUbaObaRAbbEbbIbbObbUbaSAbbEbbIbbMALL AbgEbgIbgObgTUbgUbgYAbhObhUbbObbUbaTAbbEbbIbbObbUbaU",
  "baWAbbObaYAbbObbUatMIDDLE DOTatSEMI-VOICED SOUND MARKatVOICED SOUND MARK",
  "as-HIRAGANA PROLONGED SOUND MARKakLEFT CORNER BRACKETaoWARDS ARROWakRIGHT CORNER BRACKET",
  "apWARDS ARROWakUPWARDS ARROWakWHITE CIRCLEacMBURGERadMERag AND PICKalSICKLEalWRENCHadSA",
  "aeTER FACEacND WITH INDEX AND MIDDLE FINGERS CROSSEDaqFINGER AND THUMB CROSSEDaeBAGagLLaeSHAKE",
  "adGUL CHOSEONG CEONGCHIEUMCHIEUCHbcIEUCbbSIOSbcSANGCIEUCbgSIOSarHIEUCHax-HIEUHayKHIEUKH",
  "atTUEUMCHIEUCHazIEUCaySIOSazSANGCIEUCbdSIOSarIEUCav-IEUNGaqFILLERaqHIEUHav-SIOSaqIEUNGav-CHIEUCH",
  "axIEUCawHIEUHawKIYEOKawMIEUMawPANSIOSaxHIEUPHaxIEUPawRIEULawSIOSawTHIEUTHaxIKEUTaqKAPYEOUNMIEUM",
  "ayPHIEUPHazIEUPayRIEULaySSANGPIEUParHIEUKHarIYEOKaw-TIKEUTaqMIEUMav-KIYEOKawPIEUPawSIOSawTIKEUT",
  "aqNIEUNav-CIEUCawHIEUHawKIYEOKawPIEUPawSIOSawTIKEUTaqPANSIOSarHIEUPHax-HIEUHayPIEUParIEUP",
  "av-CHIEUCHaxIEUCawHIEUHawKHIEUKHaxIYEOKawNIEUNawPHIEUPHawSIOSba-CIEUCbbKIYEOKbbPIEUPbbTHIEUTH",
  "bcIKEUTaxSANGSIOSawTHIEUTHaxIKEUTaqRIEULav-CIEUCawHIEUHawKAPYEOUNPIEUPaxHIEUKHaxIYEOKawMIEUM",
  "awNIEUNawPIEUPawSIOSaxSANGKIYEOKbbPIEUPbbTIKEUTawTIKEUTaqSIOSau-CHIEUCHawIEUCavHIEUHavIEUNG",
  "avKHIEUKHawIYEOKavMIEUMavNIEUNavPHIEUPHawIEUPba-KIYEOKavRIEULavSSANGSIOSavTHIEUTHawIKEUT",
  "arSANGCIEUCba-HIEUHavHIEUHavIEUNGavKIYEOKavNIEUNavPIEUPavRIEULavSIOSaz-PIEUPavTHIEUTHawIKEUT",
  "avYEORINHIEUHaqTHIEUTHarIKEUTaw-CIEUCaxKIYEOKaxMIEUMaxPIEUPaxRIEULaxSIOSaqYEORINHIEUHasSIEUNG",
  "ahDOUBLE DOT TONE MARKahFILLERahJONGSEONG CHIEUCHasIEUCaw-PIEUPaxSSANGPIEUParHIEUHaw-MIEUM",
  "axNIEUNaxPIEUPaxRIEULarIEUNGaw-KHIEUKHayIYEOKaxSSANGKIYEOKarKAPYEOUNMIEUMazPHIEUPHbaIEUPazRIEUL",
  "asHIEUKHasIYEOKax-CHIEUCHayHIEUHayKHIEUKHayNIEUNayPIEUPayRIEULaySIOSbc-KIYEOKarMIEUMaw-CHIEUCH",
  "ayIEUCaxHIEUHaxKIYEOKaxNIEUNaxPANSIOSayIEUPbc-SIOSaxRIEULaxSIOSaySANGNIEUNbcSIOSarNIEUN",
  "aw-CHIEUCHayIEUCaxHIEUHaxKIYEOKaxPANSIOSaxRIEULaxSIOSaxTHIEUTHayIKEUTarPANSIOSay-KAPYEOUNPIEUP",
  "azPIEUPasHIEUPHay-PIEUPazSIOSazTHIEUTHasIEUPaw-CHIEUCHayIEUCaxHIEUHaxMIEUMaxPHIEUPHaxRIEUL",
  "bc-PHIEUPHaxSIOSbb-TIKEUTaxTIKEUTarRIEULaw-HIEUHaxKAPYEOUNPIEUPayHIEUKHayIYEOKbd-HIEUHbeSIOS",
  "axMIEUMbc-HIEUHbdKIYEOKbdSIOSaxNIEUNaxPANSIOSayHIEUPHayIEUPbc-HIEUHbdPHIEUPHbdSIOSbdTIKEUTaxSIOS",
  "aySANGKIYEOKbcSIOSaxTHIEUTHayIKEUTbd-HIEUHaxYEORINHIEUHbi-HIEUHazSIEUNGarSIOSav-CHIEUCHaxIEUC",
  "awHIEUHawKAPYEOUNPIEUPaxIYEOKawMIEUMawPANSIOSaxIEUPawRIEULawTHIEUTHaxIKEUTasSANGCIEUCawIEUNG",
  "awKIYEOKawMIEUMawNIEUNawPIEUPawRIEULbb-KHIEUKHawSIOSba-KIYEOKbbTIKEUTawTIKEUTbc-PIEUPawYESIEUNG",
  "arTHIEUTHasIKEUTax-CHIEUCHazIEUCayKIYEOKayPIEUPayRIEULaySIOSbc-KIYEOKayTHIEUTHarYEORINHIEUH",
  "atSIEUNGaz-HIEUHbaKHIEUKHbbIYEOKbaMIEUMbaPANSIOSbaSIOSbbSANGKIYEOKaiUNGSEONG Aas-EUatOatUasE",
  "asRAEAaw-AaxEayOaxIaxUarEasOat-EUauOauUasUat-AauEavOavUauOauUarFILLERarIas-AauRAEAatEUatIatOau-I",
  "atUatYAav-OavEauEavOauOauUarOas-EauOatOau-IatUatYAavEauEavOasEarSSANGARAEAarUas-AauEatEO-EUatI-I",
  "atUatYEavOarWAatEasEatOasIarYAat-OauUauYOatEasEatOau-OavUavYAasIat-UasOat-AavEauEOauIauOauYAawE",
  "avEOasUat-AavEauEavOauIauOauUauYEawOahLETTER AapEapRAEAatEaoCHIEUCHapIEUCaoEapOapUaoHIEUHaoI",
  "apEUNGaoKAPYEOUNMIEUMawPHIEUPHaxIEUPawSSANGPIEUPapHIEUKHapIYEOKau-SIOSaoMIEUMat-PANSIOSavIEUP",
  "auSIOSaoNIEUNat-CIEUCauHIEUHauPANSIOSauSIOSauTIKEUTaoOapEaoPANSIOSapHIEUPHapIEUPat-CIEUCauKIYEOK",
  "auSIOSay-KIYEOKazTIKEUTauTHIEUTHavIKEUTaoRIEULat-HIEUHauKIYEOKba-SIOSauMIEUMauPANSIOSavHIEUPH",
  "avIEUPaz-SIOSauSIOSauTHIEUTHavIKEUTauYEORINHIEUHaoSIOSas-CIEUCatKIYEOKatNIEUNatPIEUPatTIKEUT",
  "apSANGCIEUCatHIEUHatIEUNGatKIYEOKatNIEUNatPIEUPatSIOSatTIKEUTaoTHIEUTHapIKEUTaoUaoWAaqEapEaqOapI",
  "aoYAaqEapEaqOarRINHIEUHaqSIEUNGaw-PANSIOSaxSIOSapIapOaq-IarYAatEapUaq-IarYEatO",
  "ahSINGLE DOT TONE MARKaeZHOU NUMERAL EIGHTarFIVEasOURarNINEarONEarSEVENasIXarTENasHIRTYatREE",
  "asWENTYatOadIFI ROHINGYA DIGIT EIGHTawFIVEaxOURawNINEawONEawSEVENaxIXawTHREEaxWOawZEROaqLETTER A",
  "axBAaxCAaxDAayDAaxFAaxGAaxHAaxJAaxKAayHAayINNA WAbdYAaxLAaxMAaxNAayGAayYAaxPAaxRAayRAaxSAayHA",
  "axTAayTAaxVAaxWAaxYAaxZAaqMARK NA KHONNAavSAKINaqSIGN HARBAHAYavTAHALAaxNAaxSSIaqVOWEL AawEawI",
  "awOawUadUNOO LETTER AapBAapDAapGAapHAapIapKAapLAapMAapNAaqGAapPAapRAapSAapTAapUapWAapYA",
  "aiSIGN PAMUDPODaiVOWEL SIGN IatUacPPY PERSON RAISING ONE HANDacRD DISKacTCHING CHICK",
  "adRAN LETTER ALEPHapYNaoBETHaoDALETH-RESHaoGIMELaoHEaqTHaoKAPHaoLAMEDHaoMEMaoNUNaoPEaoQOPH",
  "aoSADHEaqMEKHapHINaoTAWapETHaoWAWaoYODHaoZAYNahNUMBER FIVEaoONEar HUNDREDaoTENapWENTYabEADPHONE",
  "aeSTONEaj GRAVEYARD SYMBOLadR-NO-EVIL MONKEYaeT DECORATIONagHANDSagWITH ARROWalRIBBON",
  "alTIP ON THE LEFTadVY AMPERSAND ORNAMENTahRROW SHAFT WIDTH ONEbb HALFbcTHIRDayTWO THIRDS",
  "ahSTERISKagBALLOT XahLACK CURVED DOWNWARDS AND RIGHTWARDS ARROWatUPWARDS AND RIGHTWARDS ARROW",
  "amHEARTal-FEATHERED NORTH EAST ARROWawRIGHTWARDS ARROWawSOUTH EAST ARROWagCHECK MARK",
  "ajVRON SNOWFLAKEahIRCLEam WITH CIRCLE INSIDEasSTROKE AND TWO DOTS ABOVEamD SALTIRE",
  "ahONCAVE-POINTED BLACK RIGHTWARDS ARROWagDASHED TRIANGLE-HEADED RIGHTWARDS ARROWahIVISION SIGN",
  "ahOLLAR SIGNaiUBLE COMMA QUOTATION MARK ORNAMENTanTURNED COMMA QUOTATION MARK ORNAMENT",
  "aiWNWARDS ARROW WITH EQUILATERAL ARROWHEADbbLARGE EQUILATERAL ARROWHEAD",
  "agEIGHT POINTED BLACK STARauPINWHEEL STARauRECTILINEAR BLACK STARamSPOKED ASTERISK",
  "amTEARDROP-SPOKED PROPELLER ASTERISKahQUALS SIGNahXCLAMATION MARK ORNAMENTaxSYMBOL",
  "agFIVE POINTED BLACK STARalSPOKED ASTERISKahOUR BALLOON-SPOKED ASTERISKagGREEK CROSS",
  "agHEART EXCLAMATION MARK ORNAMENTahORIZONTAL FILLagINTERROBANG ORNAMENTagLARGE CIRCLEaiTIN CROSS",
  "ahEFT-POINTING ANGLE BRACKET ORNAMENTbaQUOTATION MARK ORNAMENT",
  "akWARDS ARROW WITH EQUILATERAL ARROWHEADbbLARGE EQUILATERAL ARROWHEADahIGATURE OPEN ET ORNAMENT",
  "ahOW DOUBLE COMMA QUOTATION MARK ORNAMENTakSINGLE COMMA QUOTATION MARK ORNAMENT",
  "ajER RIGHT-SHADOWED WHITE RIGHTWARDS ARROWagMINUS SIGNahULTIPLICATION XagNORTH EAST ARROW",
  "arPOINTING BUDbaVINE LEAFamWEST POINTING BUDbaVINE LEAFagOPEN CENTRE CROSSahUTLINED BLACK STAR",
  "ahVAL WITH OVAL INSIDEagPLUS SIGNagRIGHT-POINTING ANGLE BRACKET ORNAMENT",
  "bbQUOTATION MARK ORNAMENTalWARDS ARROWaw WITH EQUILATERAL ARROWHEADbcLARGE EQUILATERAL ARROWHEAD",
  "ahOUND-TIPPED RIGHTWARDS ARROWagSALTIREaiNS-SERIF INTERROBANG ORNAMENT",
  "ahCRIPT LIGATURE ET ORNAMENTahINGLE COMMA QUOTATION MARK ORNAMENT",
  "anTURNED COMMA QUOTATION MARK ORNAMENTaiX POINTED BLACK STARakSPOKED ASTERISKahOUTH EAST ARROW",
  "arPOINTING BUDbaVINE LEAFamWEST POINTING BUDbaVINE LEAFahPARKLE",
  "agTEARDROP-SHANKED RIGHTWARDS ARROWaqPOKED ASTERISKawPINWHEEL ASTERISK",
  "ahRIANGLE-HEADED RIGHTWARDS ARROWahWELVE POINTED BLACK STARavPINWHEEL STAR",
  "agUPPER RIGHT-SHADOWED WHITE RIGHTWARDS ARROWaiWARDS ARROW WITH EQUILATERAL ARROWHEAD",
  "azLARGE EQUILATERAL ARROWHEADagVERTICAL BARagWEDGE-TAILED RIGHTWARDS ARROWahHITE CIRCLE",
  "amDOWN-POINTING TRIANGLEamSQUAREahIDE-HEADED RIGHTWARDS ARROWacBREW ACCENT ATNAH HAFUKHaoDARGA",
  "apEHIaoETNAHTAaoGERESHau MUQDAMarSHAYIMaoILUYaoMAHAPAKHapERKHAau KEFULAapUNAHaoOLEaoPASHTAaqZER",
  "aoQADMAaqRNEY PARAaoREVIAaoSEGOLapHALSHELETaoTELISHA GEDOLAawQETANAaqVIRapIPEHAaoYERAH BEN YOMO",
  "aqTIVaoZAQEF GADOLauQATANaqRQAapINORahLETTER ALEFas WITH MAPIQayPATAHayQAMATSaqTERNATIVE AYIN",
  "baPLUS SIGNapYINaoBETar WITH DAGESHaxRAFEaoDALETat WITH DAGESHaoFINAL KAFax WITH DAGESHauMEM",
  "auNUNauPEaw WITH DAGESHauTSADIaoGIMELat WITH DAGESHaoHEaq WITH MAPIQaqTaoKAFar WITH DAGESHaxRAFE",
  "aoLAMEDat WITH DAGESHaoMEMar WITH DAGESHaoNUNar WITH DAGESHaoPEaq WITH DAGESHawRAFEaoQOF",
  "ar WITH DAGESHaoRESHas WITH DAGESHaoSAMEKHau WITH DAGESHapHINas WITH DAGESHbe AND SHIN DOT",
  "bkIN DOTaySHIN DOTazIN DOTaoTAVar WITH DAGESHapETar WITH DAGESHapSADIat WITH DAGESHaoVAV",
  "ar WITH DAGESHaxHOLAMaoWIDE ALEFatDALETatFINAL MEMatHEatKAFatLAMEDatRESHatTAVaoYODar WITH DAGESH",
  "axHIRIQaoZAYINat WITH DAGESHaiIGATURE ALEF LAMEDaqYIDDISH DOUBLE VAVbfYODayVAV YOD",
  "ayYOD YOD PATAHahMARK LOWER DOTamMASORA CIRCLEamUPPER DOTahPOINT DAGESH OR MAPIQanHATAF PATAH",
  "atQAMATSatSEGOLaoIRIQaoOLAMas HASER FOR VAVanJUDEO-SPANISH VARIKAanMETEGanPATAHanQAMATSat QATAN",
  "aoUBUTSanRAFEanSEGOLaoHEVAapIN DOTaoIN DOTanTSEREaiUNCTUATION GERESHawSHAYIMatMAQAFatNUN HAFUKHA",
  "atPASEQatSOF PASUQahYOD TRIANGLEacDGEHOGacLICOPTERadLSCHREIBER PAUSE SYMBOLadM SYMBOL",
  "aeET WITH WHITE CROSSacNTAIGANA LETTER A-1au2au3auWOasE-1au2au3au4au5au6asHA-1aw0aw1av2av3av4av5",
  "av6av7av8av9atE-1av2av3av4av5av6av7atI-1av2av3av4av5av6av7atO-1av2av3av4av5av6av7av8atU-1av2av3",
  "asI-1au2au3au4asKA-1aw0aw1av2av3av4av5av6av7av8av9avKEatE-1av2av3av4av5av6atI-1av2av3av4av5av6",
  "av7av8atO-1av2av3avKIatU-1av2av3av4av5av6av7asMA-1av2av3av4av5av6av7atE-1av2avMAatI-1av2av3av4",
  "av5av6av7atO-1av2av3av4av5av6atU-1av2av3av4asN-MU-MO-1ba2atA-1av2av3av4av5av6av7av8av9atE-1av2",
  "av3av4av5av6avKOatI-1av2av3av4av5av6av7avTEatO-1av2av3av4av5atU-1av2av3asO-1au2au3asRA-1av2av3",
  "av4atE-1av2av3av4atI-1av2av3av4av5av6av7atO-1av2av3av4av5av6atU-1av2av3av4av5av6asSA-1av2av3av4",
  "av5av6av7av8atE-1av2av3av4av5atI-1av2av3av4av5av6atO-1av2av3av4av5av6av7atU-1av2av3av4av5av6av7",
  "av8asTA-1av2av3av4atE-1av2av3av4av5av6av7av8av9atI-1av2av3av4av5av6av7atO-1av2av3av4av5av6avRA",
  "atU-1av2av3av4avTOasU-1au2au3au4au5asWA-1av2av3av4av5atE-1av2av3av4atI-1av2av3av4av5atO-1av2av3",
  "av4av5av6av7asYA-1av2av3av4av5avYOatO-1av2av3av4av5av6atU-1av2av3av4acRB",
  "adMITIAN CONJUGATE MATRIXacXAGRAM FOR ABUNDANCEaoFTER COMPLETIONaoPPROACHanBEFORE COMPLETION",
  "aoITING THROUGHaoREAKTHROUGHanCOMING TO MEETapNFLICTaqTEMPLATIONanDARKENING OF THE LIGHT",
  "aoECREASEapLIVERANCEapVELOPMENTaoIFFICULTY AT THE BEGINNINGapSPERSIONaoURATIONanENTHUSIASM",
  "anFELLOWSHIPaoOLLOWINGanGATHERING TOGETHERaoRACEapEAT POSSESSIONavWERauREPONDERANCEatTAMING",
  "anHOLDING TOGETHERanINCREASEapFLUENCEapNER TRUTHaqOCENCEanLIMITATIONanMODESTYapUTH CORNERS",
  "anOBSTRUCTIONaoPPOSITIONaqRESSIONanPEACEaoROGRESSaoUSHING UPWARDanRETREATaqURNapVOLUTION",
  "anSMALL PREPONDERANCEatTAMINGaoPLITTING APARTaoTANDSTILLanTHE ABYSMAL WATERasRMYatOUSING THUNDER",
  "arCAULDRONasLINGING FIREasREATIVE HEAVENarFAMILYarGENTLE WINDarJOYOUS LAKE",
  "arKEEPING STILL MOUNTAINarMARRYING MAIDENarRECEPTIVE EARTHarWANDERERasELLaoREADINGanWAITING",
  "aoORK ON THE DECAYEDanYOUTHFUL FOLLYabIBISCUSacGH BRIGHTNESS SYMBOLafOCTET PRESETafVOLTAGE SIGN",
  "ae-HEELED SHOEafSPEED TRAINaq WITH BULLET NOSEacKING BOOTacNDU TEMPLEacPPOPOTAMUS",
  "acRAGANA DIGRAPH YORIajITERATION MARKajLETTER AarRCHAIC WUayYEaqBAarEarIarOarUaqDAarEarIarOarU",
  "aqEaqGAarEarIarOarUaqHAarEarIarOarUaqIaqKAarEarIarOarUaqMAarEarIarOarUaqNarAarEarIarOarUaqOaqPA",
  "arEarIarOarUaqRAarEarIarOarUaqSAarEarIarMALL AawEawIawKAaxEawOawTUawUawWAaxEaxIaxOawYAaxOaxUarO",
  "arUaqTAarEarIarOarUaqUaqVUaqWAarEarIarOaqYAarOarUaqZAarEarIarOarUajVOICED ITERATION MARK",
  "acSTORIC SITEabOCHOacLEadLOW QUILT SQUARE ORNAMENTbc IN BLACK SQUAREacMOTHETICacNEY POTafBEEacOK",
  "acPacRIZONTAL BARamLACK HEXAGONarOCTAGONalELLIPSISalLINE EXTENSIONalMALE WITH STROKE SIGN",
  "alONE EIGHTH BLOCK-1358bc2bc3bc4bc5bc6bc7alSCAN LINE-1av3av7av9alTAB KEYaoULATIONav SET",
  "awWITH JUSTIFICATIONamRAFFIC LIGHTadSEaf FACEagRACINGacSPITALacT BEVERAGEaeDOGaePEPPERaeSPRINGS",
  "adELacURGLASSaj WITH FLOWING SANDadSEaf BUILDINGaoSagWITH GARDENabRYVNIA SIGNabTacJacS",
  "abUGGING FACEacNDRED POINTS SYMBOLacSHED FACEacTabYGIEAacPHENag BULLETahWITH DIAERESISag-MINUS",
  "agATION POINTadODIASTOLEacSTERESIS SYMBOLaaI LOVE YOU HAND SIGNabCE CREAMafUBE",
  "aeHOCKEY STICK AND PUCKaeSKATEabDENTICAL TOam AND SLANTED PARALLELakWITH DOT ABOVE",
  "agFICATION CARDadOGRAPHIC ANNOTATION BOTTOM MARKaxEARTH MARKaxFIRST MARKayOUR MARKbbTH MARK",
  "axHEAVEN MARKaxLINKING MARKaxMAN MARKayIDDLE MARKaxONE MARKaxREVERSE MARKaxSECOND MARK",
  "axTHIRD MARKazREE MARKayOP MARKayWO MARKamCLOSING MARKanOMMAamDEPARTING TONE MARK",
  "aoSCRIPTION CHARACTER ABOVE TO BELOWbrMIDDLE AND BELOWbiFULL SURROUNDbiLEFT TO MIDDLE AND RIGHT",
  "bqRIGHTbiOVERLAIDbiSURROUND FROM ABOVEbwBELOWbwLEFTbxOWER LEFTbwUPPER LEFTccRIGHT",
  "amENTERING TONE MARKamFULL STOPamHALF FILL SPACEamITERATION MARKamLEVEL TONE MARKamNUMBER ZERO",
  "amRISING TONE MARKamSPACEamTALLY MARK FIVEayOURaxONEaxTHREEayWO",
  "anELEGRAPH LINE FEED SEPARATOR SYMBOLawSYMBOL FOR APRILbiUGUSTbhDAY EIGHTbqEENbmLEVENblFIFTEEN",
  "bnVEbmOURbpTEENblNINEbpTEENblONEblSEVENbqTEENbmIXboTEENblTENbmHIRTEENbqYbr-ONEbnREEbmWELVEboNTY",
  "br-EIGHTbsFIVEbtOURbsNINEbsONEbsSEVENbtIXbsTHREEbtWObnObiECEMBERbhFEBRUARYbhHOUR EIGHTbrEEN",
  "bnLEVENbmFIFTEENboVEbnOURbqTEENbmNINEbqTEENbmONEbmSEVENbrTEENbnIXbpTEENbmTENbnHIRTEENboREE",
  "bnWELVEbpNTYbs-FOURbtONEbtTHREEbuWOboObmZERObhJANUARYbiULYbjNEbhMARCHbjYbhNOVEMBERbhOCTOBER",
  "bhSEPTEMBERamVARIATION INDICATORabMAGE OFai OR APPROXIMATELY EQUAL TOacP",
  "adERIAL ARAMAIC LETTER ALEPHazYINayBETHayDALETHayGIMELayHEbaTHayKAPHayLAMEDHayMEMayNUNayPEayQOPH",
  "ayRESHaySADHEbaMEKHazHINayTAWazETHayWAWayYODHayZAYINarNUMBER ONEbb HUNDREDbcTHOUSANDayTEN",
  "bb THOUSANDazHREEazWENTYbaOarSECTION SIGNabNBOX TRAYacCOMING ENVELOPEafPLETE INFINITY",
  "adREASE FONT SIZE SYMBOLaiS ASafMENTacDadEXaf POINTING AT THE VIEWERadIAN RUPEE SIGN",
  "aeC SIYAQ ALTERNATE LAKH MARKamFRACTION ONE HALFazQUARTERavTHREE QUARTERSamLAKH MARK",
  "amNUMBER ALTERNATE ONEbdTEN THOUSANDbeWOatEIGHTay HUNDREDazTHOUSANDayYaz THOUSANDatFIFTY",
  "ay THOUSANDavVEax HUNDREDayTHOUSANDauORTYay THOUSANDavURax HUNDREDayTHOUSANDatKARORayANatLAKH",
  "axANatNINEax HUNDREDayTHOUSANDaxTYaz THOUSANDatONEaw HUNDREDaxTHOUSANDatPREFIXED EIGHTbcFIVE",
  "bdOURbcNINEbcONEbcSEVENbdIXbcTHREEbdWOatSEVENay HUNDREDazTHOUSANDayTYba THOUSANDauIXaw HUNDRED",
  "axTHOUSANDawTYay THOUSANDatTENaw THOUSANDauHIRTYaz THOUSANDavREEay HUNDREDazTHOUSANDauWENTY",
  "az THOUSANDavOaw HUNDREDaxTHOUSANDamPLACEHOLDERamRUPEE MARKacFINITYai NEGATED WITH VERTICAL BAR",
  "adORMATION DESK PERSONamSEPARATOR FOURawONEawTHREEaxWOanOURCEacHIBIT ARABIC FORM SHAPING",
  "aiSYMMETRIC SWAPPINGacPUT SYMBOL FOR LATIN CAPITAL LETTERSaxLETTERSaxSMALL LETTERSarNUMBERS",
  "arSYMBOLSacSCRIPTIONAL PAHLAVI LETTER ALEPHbdBETHbdDALETHbdGIMELbdHEbfTHbdKAPHbdLAMEDHbdMEM-QOPH",
  "bdNUNbdPEbdSADHEbfMEKHbeHINbdTAWbeETHbdWAW-AYIN-RESHbdYODHbdZAYINawNUMBER FOURbdONEbg HUNDRED",
  "bhTHOUSANDbdTENbeHREEbeWENTYbfOaqRTHIAN LETTER ALEPHbfYINbeBETHbeDALETHbeGIMELbeHEbgTHbeKAPH",
  "beLAMEDHbeMEMbeNUNbePEbeQOPHbeRESHbeSADHEbgMEKHbfHINbeTAWbfETHbeWAWbeYODHbeZAYINaxNUMBER FOUR",
  "beONEbh HUNDREDbiTHOUSANDbeTENbfHREEbfWENTYbgOadERTION SYMBOLacTEGRALai AROUND A POINT OPERATOR",
  "akVERAGE WITH SLASHajEXTENSIONajWITH DOUBLE STROKEaoINTERSECTIONaoLEFTWARDS ARROW WITH HOOK",
  "aoOVERBARaoTIMES SIGNaoUNDERBARaqIONaeRCALATEafIOR PRODUCTafLINEAR ANNOTATION ANCHORaxSEPARATOR",
  "axTERMINATORagOCKED FEMALE AND MALE SIGNafROBANGafSECTIONam ABOVE BAR ABOVE UNIONatUNION",
  "anBESIDE AND JOINED WITH INTERSECTIONanWITH DOTasLOGICAL ANDasOVERBARacVERSE BULLETaiCHECK MARK",
  "anER BOARD FILLaiDOWNWARDS ARROW WITH TIP LEFTWARDSaiMEDIUM SHADEaiWHITE CIRCLE",
  "afTED EXCLAMATION MARKajINTERROBANGajLAZY SakOW KAVYKAat WITH KAVYKA ABOVEajOHM SIGNajPENTAGRAM",
  "ajQUESTION MARKajUNDERTIEadISIBLE PLUSakSEPARATORakTIMESabZAKAYA LANTERNaaJACK-O-LANTERN",
  "acPANESE BANK SYMBOLajCASTLEajDOLLSajGOBLINajINDUSTRIAL STANDARD SYMBOLajOGREajPOST OFFICE",
  "ajSYMBOL FOR BEGINNERacRacVANESE CONSONANT SIGN CAKRAayKERETayPENGKALajDIGIT EIGHTapFIVEaqOUR",
  "apNINEapONEapSEVENaqIXapTHREEaqWOapZEROajLEFT RERENGGANalTTER AarIaqBAas MURDAaqCAas MURDAaqDA",
  "as MAHAPRANAarDAat MAHAPRANAaqEaqGAas MURDAaqHAaqIar KAWIarIaqJAas MAHAPRANAaqKAas MURDAatSASAK",
  "aqLAaqMAaqNAas MURDAarGAat LELETaz RASWADIarYAat MURDAaqOaqPAas CEREKatMURDAaqRAas AGUNGaqSA",
  "as MAHAPRANAauURDAaqTAas MURDAarTAat MAHAPRANAaqUaqWAaqYAajPADA ADEGas ADEGapNDAPaoISEN-ISEN",
  "aoLINGSAapUHURaqNGSIaoMADYAaoPANGKATapISELEHaoTIRTA TUMETESaoWINDUalNGKONanRANGKEP",
  "ajRIGHT RERENGGANajSIGN CECAKat TELUaoLAYARaoPANYANGGAaoWIGNYANajTURNED PADA PISELEH",
  "ajVOWEL SIGN DIRGA MUREauPEPETauSUKUay MENDUTauTALINGawRUNGavOLONGauWULUay MELIKabEANS",
  "abIGSAW PUZZLE PIECEabOINacYSTICKabUGGLINGacNOacPITERaaKAABAacITHI ABBREVIATION SIGNahDANDA",
  "aiOUBLE DANDAaoSECTION MARKahENUMERATION SIGNahLETTER AapAapIapUaoBAapHAaoCAapHAaoDAapDAaqDHA",
  "aqHAapHAaoEaoGAapHAaoHAaoIapIaoJAapHAaoKAapHAaoLAaoMAaoNAapGAapNAapYAaoOaoPAapHAaoRAapHAaoSAapHA",
  "apSAaoTAapHAapTAaqHAaoUapUaoVAaoYAahNUMBER SIGNas ABOVEahSECTION MARKaiIGN ANUSVARAamCANDRABINDU",
  "amNUKTAamVIRAMAaoSARGAahVOWEL SIGN AAatIatUasEasIatIasOasUatUasVOCALIC RacNGAROO",
  "aeXI RADICAL AGAINaqNDaqRRIVEasOWaqXEapBADGERarMBOOaqEANaqIGarRDarTTERaqLACKarOODarUEaqOATarDY",
  "arLT OF CLOTHarNEarWaqRANCHarISTLEarUSHapCARTarULDRONarVEaqHILDaqITYaqLANasWarIFFarOTHESaqOLOR",
  "arMPAREarRPSEarVERarWapDEATHarERaqIPPERarSHasTINGUISHarVINATIONaqO NOTarGarORarTasTED CLIFF",
  "awTENTarUBLE XarWN BOXaqRAGONarUMarYapEARasTHarTaqIGHTaqMBROIDERYaqNCLOSUREarTERaqVENatINGaqYE",
  "apFACEarNGarTHERaqEATHERaqIELDarGHTarREarSHaqLUTEarYaqOOTaqRAGRANTarOGaqURapGATEaqHOSTaqO",
  "ar SLOWLYarLDaqRAINasSSapHAIRarLBERDasF TREE TRUNKarNDaqEADasRTarMPaqIDING ENCLOSUREaqOOKarRN",
  "asSEapICEaqNCHarSECTapJADEarRapKNIFEapLACKarMEaqEAFasTHERarEKarGSaqIDarFEarNEaqONGat STRIDEapMAN",
  "aqEATarLONaqILLETarNISTERaqOONarRNINGasTARarUNDatTAINasTHapNETaqOSEarTapOLDaqNEasSELFaqPEN BOX",
  "arPOSEapPIGaqLOWaqOWERaqRIVATEarOFOUNDapRAINarParTaqEDaqICEarGHT OPEN BOXarVERaqOOFaqUN",
  "apSACRIFICIAL WINEarLTarYaqCHOLARarRIPTaqEALarCONDarEarLFaqHEEPasLLarOOTasRT TAILED BIRDawHREAD",
  "aqICKNESSarLKaqKINaqLASHasVEarICEaqMALLaqNOUTaqOUNDaqPEARasECHarIRITarOONarROUTaqQUAREaqTAND",
  "arEAMasParONEasPatPINGaqUNaqWEETapTABLEarLLarNNED LEATHERaqENaqIGERarLEaqONGUEarOTHaqRACKarEE",
  "arIPODaqURBANasTLEaqWOas HANDSapUSEapVALLEYaqILLAGEapWALKat ENCLOSUREarTERaqEAPONarSTaqHEATarITE",
  "aqINDasEaqOMANarRKaqRAParONGapYELLOWadNADA AI LENGTH MARKaiDIGIT EIGHTaoFIVEapOURaoNINEaoONE",
  "aoSEVENapIXaoTHREEapWOaoZEROaiLENGTH MARKakTTER AaqAaqIaqUapBAaqHAapCAaqHAapDAaqDAarHAaqHAapEaqE",
  "apFAapGAaqHAapHAapIaqIapJAaqHAapKAaqHAapLAaqLAarLAapMAapNAarKAARA POLLUaqGAaqNAaqYAapOaqOapPA",
  "aqHAapRAaqRAapSAaqHAaqSAapTAaqHAaqTAarHAapUaqUapVAaqOCALIC LayLaxRayRapYAaiSIGN ANUSVARA",
  "aoVAGRAHAanCANDRABINDUanJIHVAMULIYAanNUKTAanSIDDHAMaoPACING CANDRABINDUanUPADHMANIYAanVIRAMA",
  "apSARGAaiVOWEL SIGN AAauIauUatEauEatIauIatOauOatUauUatVOCALIC LbcLbbRbcRacTAKANA DIGRAPH KOTO",
  "ajITERATION MARKajLETTER AarRCHAIC EayWUayYEazIaqBAarEarIarOarUaqDAarEarIarOarUaqEaqGAarEarIarO",
  "arUaqHAarEarIarOarUaqIaqKAarEarIarOarUaqMAarEarIasNNAN NASALIZED TONE-1bm2bm3bm4bm5bm7bm8",
  "axTONE-2bc3bc4bc5bc7bc8arOarUaqNarAarEarIarOarUaqOaqPAarEarIarOarUaqRAarEarIarOarUaqSAarEarI",
  "arMALL AawEawHAaxEaxIaxOaxUawIawKAaxEaxUawMUawNaxUawOawRAaxEaxIaxOaxUawSIaxUawTOaxUawUawWAaxEaxI",
  "axOawYAaxOaxUarOarUaqTAarEarIarOarUaqUaqVAarEarIarOarUaqWAarEarIarOaqYAarOarUaqZAarEarIarOarU",
  "ajMIDDLE DOTajVOICED ITERATION MARKai-HIRAGANA DOUBLE HYPHENasPROLONGED SOUND MARK",
  "asSEMI-VOICED SOUND MARKasVOICED SOUND MARKacYAH LI DIGIT EIGHTapFIVEaqOURapNINEapONEapSEVENaqIX",
  "apTHREEaqWOapZEROajLETTER AaqBAaqCAaqDAaqGAaqHAarTAaqIaqKAarHAaqLAaqMAaqNAarGAarYAaqOEarOaqPA",
  "arHAaqRAaqSAarHAaqTAarHAaqVAaqWAaqYAaqZAajSIGN CWIaoSHYAajTONE CALYAat PLOPHUaoPLOPHUajVOWEL E",
  "aqEapOapUaqEabELVIN SIGNacYadBOARDai AND MOUSEadCAP TENabHAROSHTHI DIGIT FOURarONEarTHREEasWO",
  "alFRACTION ONE HALFalLETTER AasBAatHAasCAatHAasDAatDAauHAatHAasGAatHAasHAasJAasKAatHAatKAasLA",
  "asMAasNAatNAatYAasPAatHAasRAasSAatHAatSAasTAatHAatTAauHAauTAavHAasVAatHAasYAasZA",
  "alNUMBER ONE HUNDREDawTHOUSANDasTENatWENTYalPUNCTUATION CIRCLEayRESCENT BARaxDANDAayOT",
  "azUBLE DANDAaxLINESayOTUSaxMANGALAMaxSMALL CIRCLEalSIGN ANUSVARAaqBAR ABOVEaqCAUDAaqDOT BELOW",
  "asUBLE RING BELOWaqVISARGAalVIRAMAamOWEL LENGTH MARKarSIGN EawIawOawUawVOCALIC R",
  "acITAN SMALL SCRIPT CHARACTER-18B00bi1bi2bi3bi4bi5bi6bi7bi8bi9biAbiBbiCbiDbiEbiFbh10bi1bi2bi3bi4",
  "bi5bi6bi7bi8bi9biAbiBbiCbiDbiEbiFbh20bi1bi2bi3bi4bi5bi6bi7bi8bi9biAbiBbiCbiDbiEbiFbh30bi1bi2bi3",
  "bi4bi5bi6bi7bi8bi9biAbiBbiCbiDbiEbiFbh40bi1bi2bi3bi4bi5bi6bi7bi8bi9biAbiBbiCbiDbiEbiFbh50bi1bi2",
  "bi3bi4bi5bi6bi7bi8bi9biAbiBbiCbiDbiEbiFbh60bi1bi2bi3bi4bi5bi6bi7bi8bi9biAbiBbiCbiDbiEbiFbh70bi1",
  "bi2bi3bi4bi5bi6bi7bi8bi9biAbiBbiCbiDbiEbiFbh80bi1bi2bi3bi4bi5bi6bi7bi8bi9biAbiBbiCbiDbiEbiFbh90",
  "bi1bi2bi3bi4bi5bi6bi7bi8bi9biAbiBbiCbiDbiEbiFbhA0bi1bi2bi3bi4bi5bi6bi7bi8bi9biAbiBbiCbiDbiEbiF",
  "bhB0bi1bi2bi3bi4bi5bi6bi7bi8bi9biAbiBbiCbiDbiEbiFbhC0bi1bi2bi3bi4bi5bi6bi7bi8bi9biAbiBbiCbiDbiE",
  "biFbhD0bi1bi2bi3bi4bi5bi6bi7bi8bi9biAbiBbiCbiDbiEbiFbhE0bi1bi2bi3bi4bi5bi6bi7bi8bi9biAbiBbiCbiD",
  "biEbiFbhF0bi1bi2bi3bi4bi5bi6bi7bi8bi9biAbiBbiCbiDbiEbiFbgC00bi1bi2bi3bi4bi5bi6bi7bi8bi9biAbiBbiC",
  "biDbiEbiFbh10bi1bi2bi3bi4bi5bi6bi7bi8bi9biAbiBbiCbiDbiEbiFbh20bi1bi2bi3bi4bi5bi6bi7bi8bi9biAbiB",
  "biCbiDbiEbiFbh30bi1bi2bi3bi4bi5bi6bi7bi8bi9biAbiBbiCbiDbiEbiFbh40bi1bi2bi3bi4bi5bi6bi7bi8bi9biA",
  "biBbiCbiDbiEbiFbh50bi1bi2bi3bi4bi5bi6bi7bi8bi9biAbiBbiCbiDbiEbiFbh60bi1bi2bi3bi4bi5bi6bi7bi8bi9",
  "biAbiBbiCbiDbiEbiFbh70bi1bi2bi3bi4bi5bi6bi7bi8bi9biAbiBbiCbiDbiEbiFbh80bi1bi2bi3bi4bi5bi6bi7bi8",
  "bi9biAbiBbiCbiDbiEbiFbh90bi1bi2bi3bi4bi5bi6bi7bi8bi9biAbiBbiCbiDbiEbiFbhA0bi1bi2bi3bi4bi5bi6bi7",
  "bi8bi9biAbiBbiCbiDbiEbiFbhB0bi1bi2bi3bi4bi5bi6bi7bi8bi9biAbiBbiCbiDbiEbiFbhC0bi1bi2bi3bi4bi5bi6",
  "bi7bi8bi9biAbiBbiCbiDbiEbiFbhD0bi1bi2bi3bi4bi5auFILLERacMER CURRENCY SYMBOL RIELagDIGIT EIGHT",
  "amFIVEanOURamNINEamONEamSEVENanIXamTHREEanWOamZEROagINDEPENDENT VOWEL LYbaYayQAAbaIbaQbaUazEazI",
  "baIazOO TYPE ONEbhTWOazUbaKbaUbbVayRYbaYagLETTER BAanCAaoHAapOaoOanDAaoOanHAanKAaoHAapOaoOanLA",
  "aoOanMOanNGOaoNOaoOaoYOanPHAapOaoOanQAanROanSAaoHAaoSOanTAaoHAapOaoOaoTHAaqOanVOanYOagSIGN AHSDA",
  "amTTHACANamVAKRAHASANYAalBANTOCanRIYOOSANanTHAMASATamEYYALalCAMNUC PII KUUHamOENGalKAKABATamHAN",
  "amOOMUUTalLEK TOOalMUUSIKATOANalNIKAHITalPHNAEK MUANalREAHMUKamOBATalSAMYOK SANNYAalTOANDAKHIAT",
  "amRIISAPalVIRIAMalYUUKALEAPINTUahYMBOL BEI KOETarROCaoUON KOETasROCanDAP KOETarROCaq-BEI KOET",
  "avROCasUON KOETawROCarMUOY KOETawROCarPII KOETavROCasRAM KOETawROCanLEK ATTAK BEIayUONaxMUOY",
  "axPIIayRAMbb-BEIbdUONbcMUOYbcPIIaxSONanMUOY KOETasROCanPATHAMASATaoII KOETarROCaoRAM KOETasROC",
  "ar-BEI KOETawROCatUON KOETaxROCasMUOY KOETaxROCasPII KOETawROCanTUTEYASATagVOWEL INHERENT AAawQ",
  "amSIGN AAasEasIasUarEarIasEasIarOEasOarUasAasUarYasAasYacOJKI ABBREVIATION SIGNahDANDA",
  "aiOUBLE DANDAaoSECTION MARKahLETTER AapAapIapUaoBAapBAapHAaoCAapHAaoDAapDAaqDAaqHAapHAaoEaoGA",
  "apGAapHAaoHAaoIaoJAapJAaoKAapHAaoLAapLAaoMAaoNAapGAapNAapYAaoOaoPAapHAaoRAaoSAaoTAapHAapTAaqHA",
  "aoUaoVAaoYAahSECTION MARKaiIGN ANUSVARAamNUKTAamSHADDAanUKUNamVIRAMAahVOWEL SIGN AAatIatUasEasI",
  "atIasOasUahWORD SEPARATORacUDAWADI DIGIT EIGHTaqFIVEarOURaqNINEaqONEaqSEVENarIXaqTHREEarWOaqZERO",
  "akLETTER AasAasIasUarBAasBAasHAarCAasHAarDAasDAatDAatHAasHAarEarGAasGAasHAarHAarIasIarJAasHAasJA",
  "arKAasHAarLAarMAarNAasGAasNAasYAarOarPAasHAarRAasRAarSAasHAarTAasHAasTAatHAarUasUarVAarYA",
  "akSIGN ANUSVARAapNUKTAapVIRAMAakVOWEL SIGN AAawIawUavEavIawIavOavUawUabIMONOacP SIGNacSSae MARK",
  "aeING CAT FACE WITH CLOSED EYESaiFACEam WITH CLOSED EYESasSMILING EYESacTEacWIFRUIT",
  "abNEELING PERSONacOTabOALAacREAN STANDARD SYMBOLabRONOSaaL B BAR SYMBOLabAB COATadEL",
  "acCROSSE STICK AND BALLacDDERadY BEETLEacNGUAGE TAGacO CANCELLATION MARKaeDIGIT EIGHTakFIVEalOUR",
  "akNINEakONEakSEVENalIXakTHREEalWOakZEROaeELLIPSISaeHO MOahNOaeKO LAaeLETTER BOalCOalDOalFO FAY",
  "apONaoSUNGaoTAMalHO SUNGaoTAMalKHMU GOaqNYOanO SUNGapTAMamOalLOan LINGapOOTalMOalNGOamOamYOalO",
  "alPALI BHAaqCHAaqDDAasHAarHAaqGHAaqJHAaqLLAaqNNAarYAaqTTAasHAamHO SUNGapTAMamOalROalSANSKRIT SHA",
  "avSAamO SUNGaoTAMalTHO SUNGapTAMamOalWOalYOaeNIGGAHITAaeSEMIVOWEL SIGN LOatNYOafIGN PALI VIRAMA",
  "aeTONE MAI CATAWAanEKanTHOaoIaeVOWEL SIGN AaqAaqIaqMaqYapEaqIapIaqIapMAI KANauONapOapUaqUapYaqY",
  "acRGE BLUE CIRCLEalDIAMONDalSQUAREahROWN CIRCLEamSQUAREagCIRCLEagDOWN TACKagGREEN CIRCLEamSQUARE",
  "agLEFT TRIANGLE OPERATORagONE DOT OVER TWO DOTS PUNCTUATIONakRING OVER TWO RINGS PUNCTUATION",
  "ahRANGE CIRCLEanDIAMONDanSQUAREagPURPLE CIRCLEanSQUAREagRED CIRCLEakSQUARE",
  "agTRIPLE VERTICAL BAR OPERATORahWO DOTS OVER ONE DOT PUNCTUATION",
  "akRINGS OVER ONE RING PUNCTUATIONagUP TACKagYELLOW CIRCLEanSQUAREafR THANal OR EQUAL TOadI SIGN",
  "acST QUARTER MOONar SYMBOLasWITH FACEacTIN CAPITAL LETTER Aaw WITH ACUTEbcBREVEbh AND ACUTE",
  "bmDOT BELOWbmGRAVEbmHOOK ABOVEbmTILDEbcCARONbdIRCUMFLEXbm AND ACUTEbrDOT BELOWbrGRAVE",
  "brHOOK ABOVEbrTILDEbcDIAERESISbl AND MACRONbdOT ABOVEbl AND MACRONbgBELOWbeUBLE GRAVEbcGRAVE",
  "bcHOOK ABOVEbcINVERTED BREVEbcMACRONbcOGONEKbcRING ABOVEbm AND ACUTEbhBELOWbcSTROKEbcTILDEawAawE",
  "ax WITH ACUTEbdMACRONawFRICAN DawLPHAawNGLICANA WawOawUawVax WITH HORIZONTAL BARawYavB",
  "aw WITH DOT ABOVEbgBELOWbcFLOURISHbcHOOKbcLINE BELOWbcSTROKEbcTOPBARawETAawROKEN LavC",
  "aw WITH ACUTEbcBARbcCARONbdEDILLAbj AND ACUTEbdIRCUMFLEXbcDOT ABOVEbcHOOKbcPALATAL HOOKbcSTROKE",
  "awHIawLOSED INSULAR GawONawUATRILLObe WITH COMMAavDaw WITH CARONbdEDILLAbdIRCUMFLEX BELOW",
  "bcDOT ABOVEbgBELOWbcHOOKbcLINE BELOWbcSHORT STROKE OVERLAYbdMALL LETTER Zbq WITH CARONbdTROKE",
  "bcTOPBARawZax WITH CARONavEaw WITH ACUTEbcBREVEbcCARONbdEDILLAbj AND BREVEbdIRCUMFLEX",
  "bm AND ACUTEbrDOT BELOWbrGRAVEbrHOOK ABOVEbrTILDEbnBELOWbcDIAERESISbdOT ABOVEbgBELOWbeUBLE GRAVE",
  "bcGRAVEbcHOOK ABOVEbcINVERTED BREVEbcMACRONbi AND ACUTEbnGRAVEbcOGONEKbcSTROKEbcTILDEbh BELOW",
  "awGYPTOLOGICAL AINbkLEFawNGawSHawTaxHawZHay REVERSEDazWITH CARONavFaw WITH DOT ABOVEbcHOOK",
  "bcSTROKEavGaw WITH ACUTEbcBREVEbcCARONbdEDILLAbdIRCUMFLEXbcDOT ABOVEbcHOOKbcMACRON",
  "bcOBLIQUE STROKEbcSTROKEawAMMAawHAawLOTTAL AbdIbdSTOPbdUavHaw WITH BREVE BELOWbcCARONbdEDILLA",
  "bdIRCUMFLEXbcDESCENDERbdIAERESISbdOT ABOVEbgBELOWbcHOOKbcSTROKEawALF HawENGawWAIRavI",
  "aw WITH ACUTEbcBREVEbcCARONbdIRCUMFLEXbcDIAERESISbl AND ACUTEbdOT ABOVEbgBELOWbeUBLE GRAVE",
  "bcGRAVEbcHOOK ABOVEbcINVERTED BREVEbcMACRONbcOGONEKbcSTROKEbcTILDEbh BELOWawNSULAR DbdFbdGbdRbdS",
  "bdTawOTAawSavJaw WITH CIRCUMFLEXbdROSSED-TAILbcSTROKEavKaw WITH ACUTEbcCARONbdEDILLAbcDESCENDER",
  "bdIAGONAL STROKEbdOT BELOWbcHOOKbcLINE BELOWbcOBLIQUE STROKEbcSTROKEbi AND DIAGONAL STROKEavL",
  "aw WITH ACUTEbcBARbdELTbcCARONbdEDILLAbdIRCUMFLEX BELOWbcDOT BELOWbl AND MACRONbeUBLE BAR",
  "bcHIGH STROKEbcLINE BELOWbcMIDDLE DOTbjTILDEbcSMALL LETTER JbdTROKEawJavMaw WITH ACUTE",
  "bcDOT ABOVEbgBELOWbcHOOKawIDDLE SCOTS Sbb-WELSH LLbiVavNaw WITH ACUTEbcCARONbdEDILLA",
  "bdIRCUMFLEX BELOWbcDESCENDERbdOT ABOVEbgBELOWbcGRAVEbcLEFT HOOKbdINE BELOWbdONG RIGHT LEG",
  "bcOBLIQUE STROKEbcSMALL LETTER JbcTILDEawJavOaw WITH ACUTEbcBREVEbcCARONbdIRCUMFLEXbm AND ACUTE",
  "brDOT BELOWbrGRAVEbrHOOK ABOVEbrTILDEbcDIAERESISbl AND MACRONbdOT ABOVEbl AND MACRONbgBELOW",
  "beUBLE ACUTEbjGRAVEbcGRAVEbcHOOK ABOVEbeRNbg AND ACUTEblDOT BELOWblGRAVEblHOOK ABOVEblTILDE",
  "bcINVERTED BREVEbcLONG STROKE OVERLAYbeOPbcMACRONbi AND ACUTEbnGRAVEbdIDDLE TILDEbcOGONEK",
  "bi AND MACRONbcSTROKEbi AND ACUTEbcTILDEbh AND ACUTEbmDIAERESISbmMACRONawIawLD POLISH OawMEGAawO",
  "awPEN EbaOawUavPaw WITH ACUTEbcDOT ABOVEbcFLOURISHbcHOOKbcSQUIRREL TAILbdTROKE",
  "bi THROUGH DESCENDERavQaw WITH DIAGONAL STROKEbcSTROKE THROUGH DESCENDERavRaw ROTUNDA",
  "axWITH ACUTEbcCARONbdEDILLAbcDOT ABOVEbgBELOWbl AND MACRONbeUBLE GRAVEbcINVERTED BREVE",
  "bcLINE BELOWbcOBLIQUE STROKEbcSTROKEbcTAILawEVERSED C WITH DOTbeEbeHALF HbeOPEN EawUM ROTUNDAavS",
  "aw WITH ACUTEbh AND DOT ABOVEbcCARONbh AND DOT ABOVEbdEDILLAbdIRCUMFLEXbdOMMA BELOWbcDOT ABOVE",
  "bgBELOWbl AND DOT ABOVEbcHOOKbcOBLIQUE STROKEbcSHORT STROKE OVERLAYbdWASH TAILawALTILLOawCHWA",
  "axRIPT GawHARP SawIGMOID SawMALL CAPITAL IbbQ WITH HOOK TAILavTaw WITH CARONbdEDILLA",
  "bdIRCUMFLEX BELOWbdOMMA BELOWbcDIAGONAL STROKEbdOT ABOVEbgBELOWbcHOOKbcLINE BELOW",
  "bcRETROFLEX HOOKbcSTROKEawHORNba WITH STROKEbm THROUGH DESCENDERawONE FIVEbaSIXbaTWOawRESILLO",
  "awURNED AbdLPHAbcHbcINSULAR GbcKbcLbcMbcTbcVawZavUaw BARaxWITH ACUTEbcBREVEbcCARONbdIRCUMFLEX",
  "bm BELOWbcDIAERESISbl AND ACUTEbqCARONbqGRAVEbqMACRONbmBELOWbdOT BELOWbeUBLE ACUTEbjGRAVEbcGRAVE",
  "bcHOOK ABOVEbeRNbg AND ACUTEblDOT BELOWblGRAVEblHOOK ABOVEblTILDEbcINVERTED BREVEbcMACRON",
  "bi AND DIAERESISbcOGONEKbcRING ABOVEbcSTROKEbcTILDEbh AND ACUTEbiBELOWawPSILONavV",
  "aw WITH DIAGONAL STROKEbdOT BELOWbcHOOKbcTILDEawENDawISIGOTHIC ZawOLAPUK AEbdOEbdUEawYavW",
  "aw WITH ACUTEbcCIRCUMFLEXbcDIAERESISbdOT ABOVEbgBELOWbcGRAVEbcHOOKawYNNavXaw WITH DIAERESIS",
  "bdOT ABOVEavYaw WITH ACUTEbcCIRCUMFLEXbcDIAERESISbdOT ABOVEbgBELOWbcGRAVEbcHOOKbg ABOVEbcLOOP",
  "bcMACRONbcSTROKEbcTILDEawOGHavZaw WITH ACUTEbcCARONbdIRCUMFLEXbcDESCENDERbdOT ABOVEbgBELOWbcHOOK",
  "bcLINE BELOWbcPALATAL HOOKbcSTROKEbdWASH TAILapIGATURE IJaxOEahROSSagEPIGRAPHIC LETTER ARCHAIC M",
  "ayI LONGAazNVERTED MayREVERSED FbhPaySIDEWAYS IagLETTER AINaoLVEOLAR CLICKanBIDENTAL PERCUSSIVE",
  "apLABIAL CLICKawPERCUSSIVEanDENTAL CLICKanGLOTTAL STOPaz WITH STROKEanINVERTED GLOTTAL STOP",
  "bi WITH CURLboSTROKEanLATERAL CLICKanPHARYNGEAL VOICED FRICATIVEanRETROFLEX CLICK",
  "bc WITH RETROFLEX HOOKapVERSED ESH LOOPawGLOTTAL STOP WITH STROKEanSINOLOGICAL DOT",
  "aoMALL CAPITAL AbcEbbBbcARRED BbbCbbDbbEbcTHbcZHbbFbbGbc WITH HOOKbbHbbIbcNVERTED RbbJbbKbbL",
  "bc WITH BELTbiSTROKEbbMbbNbbObcEbcPEN ObcUbbPbbQbbRbc WITH RIGHT LEGbcEVERSED NbkRbcUMbbSbbT",
  "bcURNED EbiGbiKbiMbiRbbUbbVbbWbbYbbZaoTRETCHED Cay WITH CURLanTWO WITH STROKE",
  "anVOICED LARYNGEAL SPIRANTanWYNNanYRagSMALL CAPITAL LETTER I WITH STROKEbbU WITH STROKE",
  "amLETTER Aau REVERSED-SCHWAavWITH ACUTEbaBREVEbf AND ACUTEbkDOT BELOWbkGRAVEbkHOOK ABOVEbkTILDE",
  "baCARONbbIRCUMFLEXbk AND ACUTEbpDOT BELOWbpGRAVEbpHOOK ABOVEbpTILDEbaDIAERESISbj AND MACRON",
  "bbOT ABOVEbj AND MACRONbeBELOWbcUBLE GRAVEbaGRAVEbaHOOK ABOVEbaINVERTED BREVEbaMACRONbaOGONEK",
  "baRETROFLEX HOOKbbIGHT HALF RINGbcNG ABOVEbk AND ACUTEbfBELOWbaSTROKEbaTILDEauAauEav WITH ACUTE",
  "bbMACRONauLPHAay WITH RETROFLEX HOOKauNGLICANA WauOauUauVav WITH HORIZONTAL BARauYatB",
  "au WITH DOT ABOVEbeBELOWbaFLOURISHbaHOOKbaLINE BELOWbaMIDDLE TILDEbaPALATAL HOOKbaSTROKEbaTOPBAR",
  "auARRED ALPHAbaEbaOavSELINE ESHauETAauLACKLETTER EbfObg WITH STROKEauOTTOM HALF OauROKEN LatC",
  "au WITH ACUTEbaBARbaCARONbbEDILLAbh AND ACUTEbbIRCUMFLEXbbURLbaDOT ABOVEbaHOOKbaPALATAL HOOK",
  "baRETROFLEX HOOKbaSTROKEauHIaw WITH LOW LEFT SERIFbgRIGHT RINGauLOSED INSULAR GbaOMEGAbbPEN E",
  "baREVERSED OPEN EauONauUATRILLObc WITH COMMAatDau WITH CARONbbEDILLAbbIRCUMFLEX BELOWbbURL",
  "baDOT ABOVEbeBELOWbaHOOKbe AND TAILbaLINE BELOWbaMIDDLE TILDEbaPALATAL HOOK",
  "baSHORT STROKE OVERLAYbbTROKEbaTAILbbOPBARauB DIGRAPHauELTAavZH DIGRAPHbf WITH PALATAL HOOK",
  "blRETROFLEX HOOKauOTLESS IbbJbc WITH STROKEbo AND HOOKavUBLE Rbb WITH CROSSED-TAILbaTHORNbaWYNN",
  "auUMauZav DIGRAPHbd WITH CURLbjRETROFLEX HOOKawWITH CARONatEau WITH ACUTEbaBREVEbaCARONbbEDILLA",
  "bh AND BREVEbbIRCUMFLEXbk AND ACUTEbpDOT BELOWbpGRAVEbpHOOK ABOVEbpTILDEblBELOWbaDIAERESIS",
  "bbOT ABOVEbeBELOWbcUBLE GRAVEbaFLOURISHbaGRAVEbaHOOK ABOVEbaINVERTED BREVEbaMACRONbg AND ACUTE",
  "blGRAVEbaNOTCHbaOGONEKbaRETROFLEX HOOKbaSTROKEbaTILDEbf BELOWauGYPTOLOGICAL AINbiLEFauNG",
  "aw WITH CROSSED-TAILbcPALATAL HOOKauSHaw WITH CURLbcDOUBLE BARbm AND CURLbcPALATAL HOOK",
  "bcRETROFLEX HOOKauTavHauZHaw REVERSEDaxWITH CARONbdURLbcPALATAL HOOKbcRETROFLEX HOOKbcTAILatF",
  "au WITH DOT ABOVEbaHOOKbaMIDDLE TILDEbaPALATAL HOOKbaSTROKEauENG DIGRAPHbf WITH TRILLatG",
  "au WITH ACUTEbaBREVEbaCARONbbEDILLAbbIRCUMFLEXbaDOT ABOVEbaHOOKbaMACRONbaOBLIQUE STROKE",
  "baPALATAL HOOKbaSTROKEauAMMAauHAauLOTTAL AbbIbbSTOPbbUatHau WITH BREVE BELOWbaCARONbbEDILLA",
  "bbIRCUMFLEXbaDESCENDERbbIAERESISbbOT ABOVEbeBELOWbaHOOKbaLINE BELOWbaPALATAL HOOKbaSTROKEauALF H",
  "auENGax WITH HOOKauVatIau WITH ACUTEbaBREVEbaCARONbbIRCUMFLEXbaDIAERESISbj AND ACUTEbbOT BELOW",
  "bcUBLE GRAVEbaGRAVEbaHOOK ABOVEbaINVERTED BREVEbaMACRONbaOGONEKbaRETROFLEX HOOKbaSTROKE",
  "bg AND RETROFLEX HOOKbaTILDEbf BELOWauNSULAR DbbFbbGbbRbbSbbTavVERTED ALPHAbcOEauOTA",
  "ax WITH STROKEawIFIED EauSatJau WITH CARONbbIRCUMFLEXbbROSSED-TAILbaSTROKEatKau WITH ACUTE",
  "baCARONbbEDILLAbaDESCENDERbbIAGONAL STROKEbbOT BELOWbaHOOKbaLINE BELOWbaOBLIQUE STROKE",
  "baPALATAL HOOKbaSTROKEbg AND DIAGONAL STROKEauRAatLau WITH ACUTEbaBARbbELTbe AND PALATAL HOOK",
  "baCARONbbEDILLAbbIRCUMFLEX BELOWbbURLbaDOT BELOWbj AND MACRONbcUBLE BARbhMIDDLE TILDEbaFISHHOOK",
  "baHIGH STROKEbaINVERTED LAZY SbaLINE BELOWbaMIDDLE DOTbhRINGbhTILDEbaPALATAL HOOK",
  "baRETROFLEX HOOKbo AND BELTbaSTROKEauAMBDA WITH STROKEauENIS FavZHax WITH RETROFLEX HOOKauJ",
  "auONG Saz WITH DIAGONAL STROKEbgOT ABOVEbfHIGH STROKEauS DIGRAPHauUMauZ DIGRAPHatMau WITH ACUTE",
  "baCROSSED-TAILbaDOT ABOVEbeBELOWbaHOOKbaMIDDLE TILDEbaPALATAL HOOKauIDDLE SCOTS Saz-WELSH LLbgV",
  "auUMatNau PRECEDED BY APOSTROPHEavWITH ACUTEbaCARONbbEDILLAbbIRCUMFLEX BELOWbbROSSED-TAILbbURL",
  "baDESCENDERbbOT ABOVEbeBELOWbaGRAVEbaLEFT HOOKbbINE BELOWbbONG RIGHT LEGbaMIDDLE TILDE",
  "baOBLIQUE STROKEbaPALATAL HOOKbaRETROFLEX HOOKbaTILDEauJauUMatOau WITH ACUTEbaBREVEbaCARON",
  "bbIRCUMFLEXbk AND ACUTEbpDOT BELOWbpGRAVEbpHOOK ABOVEbpTILDEbaDIAERESISbj AND MACRONbbOT ABOVE",
  "bj AND MACRONbeBELOWbcUBLE ACUTEbhGRAVEbaGRAVEbaHOOK ABOVEbcRNbe AND ACUTEbjDOT BELOWbjGRAVE",
  "bjHOOK ABOVEbjTILDEbaINVERTED BREVEbaLONG STROKE OVERLAYbcOPbcW RING INSIDEbaMACRONbg AND ACUTE",
  "blGRAVEbaOGONEKbg AND MACRONbaRETROFLEX HOOKbaSTROKEbg AND ACUTEbaTILDEbf AND ACUTEbkDIAERESIS",
  "bkMACRONauIauLD POLISH OauMEGAauOauPEN Eaz WITH RETROFLEX HOOKayOaz WITH RETROFLEX HOOKbfSTROKE",
  "azEauUatPau WITH ACUTEbaDOT ABOVEbaFLOURISHbaHOOKbaMIDDLE TILDEbaPALATAL HOOKbaSQUIRREL TAIL",
  "bbTROKEbg THROUGH DESCENDERauHIatQau WITH DIAGONAL STROKEbaHOOKbe TAILbaSTROKE THROUGH DESCENDER",
  "auP DIGRAPHatRau ROTUNDAavWITH ACUTEbaCARONbbEDILLAbbROSSED-TAILbaDOT ABOVEbeBELOWbj AND MACRON",
  "bcUBLE GRAVEbaFISHHOOKbi AND MIDDLE TILDEbnPALATAL HOOKbaINVERTED BREVEbaLINE BELOWbbONG LEG",
  "baMIDDLE TILDEbaOBLIQUE STROKEbaPALATAL HOOKbaSTROKEbaTAILazOUT HANDLEauAMS HORNauEVERSED C",
  "bd WITH DOTbcEbdNGbcHALF HbcKbcOPEN Ebi WITH HOOKboRETROFLEX HOOKbcR WITH FISHHOOKbcSCRIPT GauUM",
  "aw ROTUNDAatSau WITH ACUTEbf AND DOT ABOVEbaCARONbf AND DOT ABOVEbbEDILLAbbIRCUMFLEXbbOMMA BELOW",
  "bbURLbaDOT ABOVEbeBELOWbj AND DOT ABOVEbaHOOKbaMIDDLE TILDEbaOBLIQUE STROKEbaPALATAL HOOK",
  "baSHORT STROKE OVERLAYbbWASH TAILauAKHA YATavLTILLOauCHWAay WITH HOOKbeRETROFLEX HOOKavRIPT G",
  "bb WITH CROSSED-TAILbaRbb WITH RINGauHARP SauIDEWAYS DIAERESIZED UbcObd WITH STROKEbdPEN O",
  "bcTURNED MbcUavGMOID SauQUAT REVERSED ESHauTIRRUP RatTau WITH CARONbbEDILLAbbIRCUMFLEX BELOW",
  "bbOMMA BELOWbbURLbaDIAERESISbdGONAL STROKEbbOT ABOVEbeBELOWbaHOOKbe AND RETROFLEX HOOK",
  "baLINE BELOWbaMIDDLE TILDEbaPALATAL HOOKbaRETROFLEX HOOKbaSTROKEauAILLESS PHI",
  "auC DIGRAPH WITH CURLauESH DIGRAPHbf WITH PALATAL HOOKblRETROFLEX HOOKauH WITH STRIKETHROUGH",
  "avORNay WITH STROKEbk THROUGH DESCENDERauONE FIVEaySIXayTWOavP HALF OauRESILLOauS DIGRAPH",
  "bd WITH RETROFLEX HOOKauUMavRNED AbbEbbLPHAbaDELTAbaEbaGbaHbb WITH FISHHOOKbp AND TAILbaI",
  "bbNSULAR GbaKbaLbaMbb WITH LONG LEGbaO OPEN-Obi WITH STROKEbbEbc WITH HORIZONTAL STROKEbiSTROKE",
  "bbPEN EbaRbb WITH HOOKbhLONG LEGbp AND RETROFLEX HOOKbhMIDDLE TILDEbhPALATAL HOOKbhTAILbaT",
  "bb WITH CURLbaUIbaVbaWbaYbb WITH BELTauZatUau BARay WITH SHORT RIGHT LEGavWITH ACUTEbaBREVE",
  "baCARONbbIRCUMFLEXbk BELOWbaDIAERESISbj AND ACUTEboCARONboGRAVEboMACRONbkBELOWbbOT BELOW",
  "bcUBLE ACUTEbhGRAVEbaGRAVEbaHOOK ABOVEbcRNbe AND ACUTEbjDOT BELOWbjGRAVEbjHOOK ABOVEbjTILDE",
  "baINVERTED BREVEbaLEFT HOOKbaMACRONbg AND DIAERESISbaOGONEKbaRETROFLEX HOOKbbING ABOVE",
  "baSHORT RIGHT LEGbbTROKEbaTILDEbf AND ACUTEbgBELOWauEauIauMauOauPSILONba WITH STROKEatV",
  "au WITH CURLbaDIAGONAL STROKEbbOT BELOWbaHOOKbaPALATAL HOOKbaRIGHT HOOKbaTILDEauENDauISIGOTHIC Z",
  "auOLAPUK AEbbOEbbUEauYatWau WITH ACUTEbaCIRCUMFLEXbaDIAERESISbbOT ABOVEbeBELOWbaGRAVEbaHOOK",
  "baRING ABOVEatXau WITH DIAERESISbbOT ABOVEbaLONG LEFT LEGbn AND LOW RIGHT RINGboWITH SERIF",
  "bcW RIGHT RINGbaPALATAL HOOKatYau WITH ACUTEbaCIRCUMFLEXbaDIAERESISbbOT ABOVEbeBELOWbaGRAVE",
  "baHOOKbe ABOVEbaLOOPbaMACRONbaRING ABOVEbaSHORT RIGHT LEGbbTROKEbaTILDEauOGHatZau WITH ACUTE",
  "baCARONbbIRCUMFLEXbbURLbaDESCENDERbbOT ABOVEbeBELOWbaHOOKbaLINE BELOWbaMIDDLE TILDE",
  "baPALATAL HOOKbaRETROFLEX HOOKbaSTROKEbbWASH TAILanIGATURE FFaxIaxLawIawLavIJavLONG S TavOEavST",
  "ahUBSCRIPT SMALL LETTER AbdEbdHbdIbdJbdKbdLbdMbdNbdObdPbdRbdSbeCHWAbdTbdUbdVbdX",
  "abEAF FLUTTERING IN WINDaeY GREENacDGERacFT AND LOWER AND RIGHT TRIANGULAR THREE QUARTERS BLOCK",
  "apONE EIGHTH BLOCKajRIGHT DOUBLE TURNSTILEapTACKaqRIANGULAR HALF BLOCK",
  "ajUPPER AND RIGHT TRIANGULAR THREE QUARTERS BLOCKapONE EIGHTH BLOCKahGER BUBBLEaiLE BRACKET",
  "as WITH DOTagRC LESS-THAN BRACKETahROW WITH CIRCLED PLUSaqSMALL CIRCLE",
  "afBARB DOWN RIGHT BARB DOWN HARPOONbaUP HARPOONakUP RIGHT BARB DOWN HARPOONayUP HARPOON",
  "agLACK LENTICULAR BRACKETalTORTOISE SHELL BRACKETafCEILINGagLOSED ENTRYagORNER BRACKET",
  "agURLY BRACKETas LOWER HOOKatMIDDLE PIECEatUPPER HOOKafDOTTED SUBSTITUTION BRACKET",
  "ahUBLE ANGLE BRACKETamPARENTHESISamQUOTATION MARKamWIGGLY FENCEafFISH TAILahVE EIGHTHS BLOCK",
  "agLOORafHALF BLACK CIRCLEaqSTARamOCKakCIRCLEaq WITH DOTawFOUR DOTSawTHREE DOTSaxWO DOTSakFOLDER",
  "akINVERSE MEDIUM SHADE AND RIGHT HALF BLOCKakMEDIUM SHADEakRUNNING MANahND TELEPHONE RECEIVER",
  "afLOW PARAPHRASE BRACKETagUGGAGEafMULTIMAPafNORMAL FACTOR SEMIDIRECT PRODUCTafONE EIGHTH BLOCK",
  "ajQUARTER BLOCKagUTER JOINafPARENTHESISaq EXTENSIONarLOWER HOOKarUPPER HOOK",
  "afRAISED OMISSION BRACKETagIGHT ARROWaq THROUGH SMALL CIRCLEarWITH DOUBLE VERTICAL STROKE",
  "awSTROKEawVERTICAL STROKEalBLACK ARROWalDOUBLE ARROWax WITH STROKEbdVERTICAL STROKE",
  "alOPEN-HEADED ARROWalSANS-SERIF ARROWalTRIANGLE-HEADED ARROWalWAVE ARROWamHITE ARROW",
  "afS-SHAPED BAG DELIMITERagEMIDIRECT PRODUCTahVEN EIGHTHS BLOCKagIDEWAYS U BRACKET",
  "ahNGLE QUOTATION MARKagPEECH BUBBLEagQUARE BRACKETat EXTENSIONauLOWER CORNERauUPPER CORNER",
  "auWITH DOUBLE STROKEazQUILLazSTROKEazTICK IN BOTTOM CORNERbhTOP CORNERazUNDERBAR",
  "agUBSTITUTION BRACKETafTACKagHIRD WHITE RIGHT POINTING INDEXahOUGHT BUBBLEahREE EIGHTHS BLOCK",
  "alQUARTERS BLOCKagORTOISE SHELL BRACKETagRANSPOSITION BRACKETahIANGLE BESIDE VERTICAL BAR",
  "alULAR ONE QUARTER BLOCKafVERTICAL BAR WITH QUILLapOX LINEafWHITE CORNER BRACKETamURLY BRACKET",
  "alLENTICULAR BRACKETalPARENTHESISalSQUARE BRACKETalTORTOISE SHELL BRACKETagIGGLY FENCE",
  "agRITING HANDae-FACING ARMENIAN ETERNITY SIGNamFISTamSVASTI SIGNax WITH DOTS",
  "afHANDED INTERLACED PENTAGRAMafPOINTING ANGLE BRACKETaoCURVED ANGLE BRACKET",
  "aoDOUBLE ANGLE QUOTATION MARKaoMAGNIFYING GLASSafSHADED WHITE RIGHTWARDS ARROW",
  "agIDE ARC ANTICLOCKWISE ARROWafTO-RIGHT EMBEDDINGaoISOLATEaoMARKaoOVERRIDEaeWARDS ARROW",
  "ap ABOVE ALMOST EQUAL TOawREVERSE ALMOST EQUAL TObeTILDE OPERATORawSHORT RIGHTWARDS ARROW",
  "awTILDE OPERATORarND UPPER AND LOWER ONE EIGHTH BLOCKaqFROM BARay TO BLACK DIAMOND",
  "aqOVER RIGHTWARDS ARROWaqTHROUGH LESS-THANaySUBSETayXarO BARaw OVER RIGHTWARDS ARROW TO BAR",
  "auLACK DIAMONDaqWITH DOTTED STEMaxUBLE VERTICAL STROKEavEQUILATERAL ARROWHEADavHOOK",
  "avLARGE TRIANGLE ARROWHEADawOOPavMEDIUM TRIANGLE ARROWHEADavNOTCHED TAILavPLUS BELOW",
  "avSMALL EQUILATERAL ARROWHEADbbTRIANGLE ARROWHEADawTROKEavTAILaz WITH DOUBLE VERTICAL STROKE",
  "bfVERTICAL STROKEawIP DOWNWARDSazUPWARDSavVERTICAL STROKEap-TAIL",
  "akBACK-TILTED SHADOWED WHITE ARROWalLACK ARROWaqCIRCLED WHITE ARROWalOTTOM-SHADED WHITE ARROW",
  "akCOMPRESSED ARROWakDASHED ARROWalOUBLE ARROWaw FROM BARaxWITH STROKEbcVERTICAL STROKEaw-TAIL",
  "arDASH ARROWakFINGER-POST ARROWalRONT-TILTED SHADOWED WHITE ARROWakHAND",
  "amRPOON OVER RIGHTWARDS HARPOONasWITH BARB DOWN ABOVE RIGHTWARDS HARPOON WITH BARB DOWN",
  "bhBELOW LONG DASHbhFROM BARbhTO BARbgWARDSbcUP ABOVE LEFTWARDS HARPOON WITH BARB DOWNbmONG DASH",
  "blRIGHTWARDS HARPOON WITH BARB UPbfFROM BARbfTO BARbeWARDSalEAVY ARROWaqCOMPRESSED ARROW",
  "akLEFT-SHADED WHITE ARROWakOPEN-HEADED ARROWakPAIRED ARROWSakQUADRUPLE ARROW",
  "akRIGHT-SHADED WHITE ARROWalOCKETakSANS-SERIF ARROWalQUARED ARROWanIGGLE ARROW",
  "akTOP SHADED WHITE ARROWalRIANGLE ARROWHEADas-HEADED ARROW",
  "bf OVER RIGHTWARDS TRIANGLE-HEADED ARROWbgTO BARbgWITH BOLD SHAFTblDOUBLE HORIZONTAL STROKE",
  "bsVERTICAL STROKEblHEAVY SHAFTblLONG TIP DOWNWARDSbuUPWARDSblMEDIUM SHAFTblNARROW SHAFT",
  "blVERY HEAVY SHAFTbaDASHED ARROWbaPAIRED ARROWSanPLE ARROWarDASH ARROWalWO HEADED ARROW",
  "an-HEADED ARROW FROM BARbbWITH DOUBLE VERTICAL STROKEbgTAILbk WITH DOUBLE VERTICAL STROKE",
  "bqVERTICAL STROKEbhRIANGLE ARROWHEADSbgVERTICAL STROKEavTRIPLE DASH ARROWakWAVE ARROW",
  "alHITE ARROWav WITHIN TRIANGLE ARROWHEADacGacMONacOadPARDacPCHA CONSONANT SIGN KaxANGawLawMawN",
  "axYIN-DOawPawRawTahDIGIT EIGHTanFIVEaoOURanNINEanONEanSEVENaoIXanTHREEaoWOanZEROahLETTER AaoBA",
  "apLAaoCAapHAaoDAapDAapZAaoFAapLAaoGAapLAaoHAapLAaoJAaoKAapHAapLAaoLAaoMAapLAaoNAapGAapYAaoPAapHA",
  "apLAaoRAaoSAapHAaoTAapHAapSAaqHAapTAaqHAaoVAaoWAaoYAahPUNCTUATION CER-WAatNYET THYOOM TA-ROL",
  "atTA-ROLauSHOOKaz CER-WAahSIGN NUKTAamRANaiUBJOINED LETTER RAayYAahVOWEL SIGN AAasEasIasOatOasU",
  "atUacSS-THAN ABOVE DOUBLE-LINE EQUAL ABOVE GREATER-THANaqGREATER-THAN ABOVE DOUBLE-LINE EQUAL",
  "aqLEFTWARDS ARROWaqSIMILAR ABOVE GREATER-THANayOR EQUAL",
  "arLANTED EQUAL ABOVE GREATER-THAN ABOVE SLANTED EQUALalND NOT APPROXIMATE",
  "aoSINGLE-LINE NOT EQUAL TOakBUT NOT EQUAL TOavIVALENT TOakCLOSED BY CURVEaz ABOVE SLANTED EQUAL",
  "akEQUAL TO OR GREATER-THANakOR APPROXIMATEanEQUAL TOaqIVALENT TOanGREATER-THANanSLANTED EQUAL TO",
  "bd WITH DOT ABOVEbs RIGHTbnINSIDEalVER EQUAL TOakSIGNakWITH CIRCLE INSIDEapDOT",
  "apQUESTION MARK ABOVEacVEL SLIDERabFabIBRAacGATURE OPEN ET ORNAMENTadHT CHECK MARK",
  "agEIGHT SPOKED ASTERISKagFIVE POINTED BLACK STARalSPOKED ASTERISKahOUR POINTED BLACK CUSPazSTAR",
  "agGREEK CROSSagLEFT TORTOISE SHELL BRACKET ORNAMENTagRAILahIGHT TORTOISE SHELL BRACKET ORNAMENT",
  "agSALTIREahHADEahIX SPOKED ASTERISKagTHREE POINTED BLACK STARahWELVE POINTED BLACK STAR",
  "agVERTICAL BARagWHITE SQUAREafNINGaj MOODao BUBBLEacMBU DIGIT EIGHTamFIVEanOURamNINEamONEamSEVEN",
  "anIXamTHREEanWOamZEROagEXCLAMATION MARKagLETTER BAaoHAanCAaoHAanDAaoHAanGAaoHAaoYANanHAanJAaoHA",
  "anKAaoHAanLAanMAanNAaoGAanPAaoHAanRAanSAaoHAaoSAanTAaoHAaoRAanWAanYAapNagQUESTION MARK",
  "agSIGN KEMPHRENGalLOOalMUKPHRENGalSA-IahMALL LETTER ANUSVARAatKAatLAatMAatNAauGAatPAatRAatTA",
  "ahUBJOINED LETTER RAaxWAaxYAagVOWEL SIGN AasIasUarEasEarIarOasOarUal-CARRIER LETTER",
  "adITED LIABILITY SIGNacNE FEEDafINTEGRATION NOT INCLUDING THE POLE",
  "arWITH RECTANGULAR PATH AROUND POLEawSEMICIRCULAR PATH AROUND POLEafSEPARATORafTABULATIONap SET",
  "aeAR A SIGN A028Bap100-102aq20Baq31Cap301ar2ar3ar4ar5ar6ar7ar8ar9AasBasCaq10ar1ar2ar3AasBasCar4",
  "ar5ar6ar7ar8ar9aq20ar1ar2ar3ar4ar5ar6ar7ar8ar9aq30ar1ar2ar3ar4ar5ar6ar7ar8ar9aq40ar1ar2ar3ar4ar5",
  "ar6ar7ar8ar9aq50ar1ar2ar3ar4ar5ar6ar7ar8ar9aq60ar1ar2ar3ar4ar5ar6ar7ar8ar9aq70ar1ap400-VAS",
  "ar1-VASar2-VASar3-VASar4-VASar5-VASar6-VASar7-VASar8-VASar9-VASaq10-VASar1-VASar2-VASar3-VAS",
  "ar4-VASar5-VASar6-VASar7-VASar8-VASap501ar2ar3ar4ar5ar6ar8ar9aq10ar1ar2ar3ar5ar6aq20ar1ar3ar4ar5",
  "ar6ar7ar8ar9aq30ar1ar2ar4ar5ar6ar7ar8ar9aq40ar1ar2ar5ar7ar8ar9aq50ar1ar2ar3ar4ar5ar6ar7ar9aq63",
  "ar4ar5ar6ar8ar9aq70ar1ar2ar3ar4ar5ar6ar7ar8ar9aq80ar1ar2ar3ar4ar5ar6ar7ar8ar9aq91ar2ar4ar5ar6ar8",
  "ap600ar1ar2ar3ar4ar6ar8ar9aq10ar1ar2ar3ar4ar5ar6ar7ar8ar9aq20ar1ar2ar3ar4ar6ar7ar8ar9aq34ar7ar8",
  "aq40ar2ar3ar4ar5ar6ar8ar9aq51ar2ar3ar4ar5ar6ar7ar8ar9aq60ar1ar2ar3ar4ap701 Aar2 Bar3 Dar4 Ear5 F",
  "ar6 Har7 Jar8 Kar9 Las-2 L2at3 L3at4 L4at6 L6aq10 War1 Xar2 Yar3 OMEGAar4 ABBar5 BBar7 DD",
  "aq26 EYYYaq32 JEap800ar1ar2ar3ar4ar5ar6ar7apB001as2as3as4as5as6as7as8as9ar10as1as3as6as7ar20as1",
  "atFatMas2atFatMas3atMas4as6as7as8as9ar30as1as4as7as8as9ar40as1as4as5as6as7as8as9ar50as1as3as4as5",
  "as6as7as8as9ar60as1as5as6as7as9ar70as3as4as6as7as8as9ar80as1as2as5as6as7aq118ar20as2as3ar31AatB",
  "ar64ar71ar80as8ar91ahB IDEOGRAM B100 MANav2 WOMANav4 DEERav5 EQUIDawF MAREawM STALLIONav6F EWE",
  "awM RAMav7F SHE-GOATawM HE-GOATav8F SOWawM BOARav9F COWawM BULLau20 WHEATav1 BARLEYav2 OLIVE",
  "av3 SPICEav5 CYPERUSau30 OILav1 WINEav2au40 BRONZEav1 GOLDav2av5 WOOLav6au50av1 HORNav2av3av4av7",
  "av8av9 CLOTHau60av1av2 GARMENTav3 ARMOURav4av5av6av7av8av9au70av1av2av3 MONTHav4av6 TREEav7av8",
  "av9au80av1av2av3av4av5av9au90av1 HELMETat220 FOOTSTOOLav5 BATHTUBau30 SPEARav1 ARROWav2av3 SWORD",
  "av4av6au40 WHEELED CHARIOTav1 CHARIOTav2 CHARIOT FRAMEav3 WHEELav5av6av8av9au51av2av3av4 DARTav5",
  "av6av7av8av9asVESSEL B155ba200bc1bc2bc3bc4bc5bc6bc7bc8bc9bb10bc1bc2bc3bc4bc5bc6bc7bc8bc9bb21bc2",
  "bc6bc7bc8bc9bb50ba305ajMONOGRAM B127 KAPOav8 KANAKOau33 AREPAav5 MERIau56 TURO2at247 DIPTE",
  "ajSYLLABLE B001 DAav2 ROav3 PAav4 TEav5 TOav6 NAav7 DIav8 Aav9 SEau10 Uav1 POav2 SOav3 MEav4 DO",
  "av5 MOav6 QAav7 ZAau20 ZOav1 QIav3 MUav4 NEav5 A2av6 RUav7 REav8 Iav9 PU2au30 NIav1 SAav2 QO",
  "av3 RA3av6 JOav7 TIav8 Eav9 PIau40 WIav1 SIav2 WOav3 A3av4 KEav5 DEav6 JEav8 NWAau50 PUav1 DU",
  "av2 NOav3 RIav4 WAav5 NUav7 JAav8 SUav9 TAau60 RAav1 Oav2 PTEav5 JUav6 TA2av7 KIav8 RO2av9 TU",
  "au70 KOav1 DWEav2 PEav3 MIav4 ZEav5 WEav6 RA2av7 KAav8 QEau80 MAav1 KUav5 AUav7 TWEau90 DWO",
  "av1 TWOalMBOL B018at9as22as34as47at9as56as63at4as79as82at3at6at9adK SYMBOLaeED PAPERCLIPS",
  "acON FACEacPSaeTICKacRA SIGNacSU LETTER AanEamBAamCAanHAamDAanZAamEanUamFAamGAanHAamHAanHAamI",
  "amJAamKAanHAamLAamMAamNAanGAamOanEamPAanHAamSAanHAamTAanHAanONE MYA BOavCYAavJEUavNAavTIarNA PO",
  "anSAaoHAamUanEanHamWAamXAamYAanHAamZAanHAafPUNCTUATION COMMAarFULL STOPacVRE TOURNOIS SIGNacZARD",
  "abLAMAabOBSTERacCKae WITH INK PENaeING-SHIFT ONEaoZEROacGICAL ANDal WITH DOT ABOVEatUBLE OVERBAR",
  "ayUNDERBARarHORIZONTAL DASHarMIDDLE STEMarUNDERBARaiORak OVERLAPPING LOGICAL ANDalWITH DOT ABOVE",
  "asUBLE OVERBARaxUNDERBARaqHORIZONTAL DASHaqMIDDLE STEMacLLIPOP",
  "acNG DASH FROM LEFT MEMBER OF DOUBLE VERTICALagIVISIONagRUMafLEFT RIGHT ARROWaqDOUBLE ARROW",
  "akTACKajWARDS ARROWau FROM BARapDOUBLE ARROWbb FROM BARapSQUIGGLE ARROWafRIGHT TACKakWARDS ARROW",
  "av FROM BARaqDOUBLE ARROWbc FROM BARaqSQUIGGLE ARROWacTION BOTTLEadUSacUDLY CRYING FACE",
  "acVE HOTELafLETTERacW ASTERISKaeBATTERYafRIGHTNESS SYMBOLaeDOUBLE PRIME QUOTATION MARKaeKAVYKA",
  "ak WITH DOTaeLINEadER BLADE SCISSORSagFIVE EIGHTHS BLOCKagHALF BLOCKalCIRCLE",
  "alINVERSE WHITE CIRCLEalMEDIUM SHADEagLEFT BALLPOINT PEN",
  "amLOCK DIAGONAL LOWER MIDDLE LEFT TO LOWER CENTREcbRIGHTbaUPPER CENTRE TO LOWER MIDDLE RIGHT",
  "bwRIGHTbqUPPER MIDDLE RIGHTbgLEFT TO LOWER CENTREbuMIDDLE RIGHTboUPPER MIDDLE RIGHT",
  "bgMIDDLE LEFT TO LOWER CENTREcbMIDDLE RIGHTcbRIGHTalCRAYONalFOUNTAIN PENalPAINTBRUSHamENCIL",
  "alQUADRANT CIRCULAR ARCalSEMICIRCULAR ANTICLOCKWISE ARROWalTRIANGLEarULAR MEDIUM SHADE",
  "agONE EIGHTH BLOCKakQUARTER BLOCKagRIGHT BLOCK DIAGONAL LOWER CENTRE TO LOWER MIDDLE RIGHT",
  "brUPPER MIDDLE RIGHTbxRIGHTbhLEFT TO LOWER MIDDLE RIGHTbpUPPER CENTREbvMIDDLE RIGHT",
  "bhMIDDLE LEFT TO UPPER CENTREccMIDDLE RIGHTccRIGHTbbUPPER MIDDLE LEFT TO UPPER CENTREccRIGHT",
  "amCORNER WITH DOTamDROP-SHADOWED WHITE SQUAREamPENCILamQUADRANT CIRCULAR ARC",
  "amSEMICIRCULAR CLOCKWISE ARROWanHADOWED WHITE CIRCLEbbSQUAREamTRIANGLEasULAR MEDIUM SHADE",
  "agSEVEN EIGHTHS BLOCKagTHREE EIGHTHS BLOCKamQUARTERS BLOCKahRIANGULAR ONE QUARTER BLOCKacZENGE",
  "ah DIVIDED BY HORIZONTAL RULEabREacIacMacOabUGGAGEacNGSabYCIAN LETTER AapNaoBapHaoDaoEapNaoGaoH",
  "aoIaoJaoKapKaoLaoMapMaoNapNaoPaoQaoRaoSaoTapHapTaoUaoWaoXaoZacDIAN LETTER AapNaoBaoCaoDaoEapNaoF",
  "aoGaoIaoKaoLapYaoMaoNapNaoOaoQaoRaoSapSaoTapTaoUaoVaoYahTRIANGULAR MARKacING FACEaaMACRONacGE",
  "adIC WANDadNETacHAJANI ABBREVIATION SIGNajLETTER AaqBAarHAaqCAarHAaqDAarDAasHAarHAaqEaqGAarHA",
  "aqHAaqIaqJAarHAaqKAarHAaqLAaqMAaqNAarNAarYAaqOaqPAarHAaqRAarRAaqSAaqTAarHAarTAasHAaqUaqVA",
  "akIGATURE SHRIajSECTION MARKakIGN NUKTAadJONG TILE AUTUMNanBACKapMBOOanCHRYSANTHEMUManEAST WIND",
  "aoIGHT OF BAMBOOSawCHARACTERSaxIRCLESanFIVE OF BAMBOOSavCHARACTERSawIRCLESaoOUR OF BAMBOOS",
  "avCHARACTERSawIRCLESanGREEN DRAGONanJOKERanNINE OF BAMBOOSavCHARACTERSawIRCLESaoORTH WIND",
  "anONE OF BAMBOOSauCHARACTERSavIRCLESaoRCHIDanPLUManRED DRAGONanSEVEN OF BAMBOOSawCHARACTERS",
  "axIRCLESaoIX OF BAMBOOSauCHARACTERSavIRCLESaoOUTH WINDaoPRINGaoUMMERanTHREE OF BAMBOOS",
  "awCHARACTERSaxIRCLESaoWO OF BAMBOOSauCHARACTERSavIRCLESanWEST WINDaoHITE DRAGONaoINTER",
  "acKASAR ANGKAaiEND OF SECTIONaiLETTER AapBAapCAapDAapGAapJAapKAapLAapMAapNAaqGAaqYAapPAapRAapSA",
  "apTAapVAapYAaiPASSIMBANGaiVOWEL SIGN EatIatOatUacLAYALAM AU LENGTH MARKakDATE MARKalIGIT EIGHT",
  "aqFIVEarOURaqNINEaqONEaqSEVENarIXaqTHREEarWOaqZEROakFRACTION ONE EIGHTHaxFIFTHayORTIETHaxHALF",
  "axONE-HUNDRED-AND-SIXTIETHaxQUARTERaxSIXTEENTHaxTENTHayWENTIETHatTHREE EIGHTIETHSazQUARTERS",
  "azSIXTEENTHSazTWENTIETHSakLETTER AasAasIasRCHAIC IIasUarBAasHAarCAasHAatILLU KayLazLbaLayMayNazN",
  "ayRRayYarDAasDAatHAasHAasOT REPHarEasEarGAasHAarHAarIasIarJAasHAarKAasHAarLAasLAatLAarMAarNAasGA",
  "asNAatNAasYAarOasOarPAasHAarRAasRAarSAasHAasSAarTAasHAasTAatHAatTAarUasUarVAasEDIC ANUSVARA",
  "asOCALIC LbaLazRbaRarYAakNUMBER ONE HUNDREDavTHOUSANDarTENakSIGN ANUSVARAaqVAGRAHAapCANDRABINDU",
  "aqIRCULAR VIRAMAaqOMBINING ANUSVARA ABOVEapPARAapVERTICAL BAR VIRAMAaqIRAMAarSARGA",
  "akVOWEL SIGN AAawIawUavEawEavIawIavOawOavUawUavVOCALIC LbeLbdRbeRadE AND FEMALE SIGNafSIGN",
  "afWITH STROKE AND MALE AND FEMALE SIGNarSIGNadTESE CROSSacMMOTHacNad AND WOMAN HOLDING HANDS",
  "aeDANCINGaeIN BUSINESS SUIT LEVITATINGahTUXEDOaeWITH GUA PI MAOajTURBANadAT SIGN",
  "adDAIC AFFRICATION MARKaiGEMINATION MARKaiLETTER ABaqDaqGaqHaqINaqKarSAaqLaqMaqNaqPaqQaqRaqSarH",
  "arZaqTarTaqZapDUSHENNAapHALQAapINaqTapKADapUSHENNAaiPUNCTUATIONaiVOCALIZATION MARKadGO",
  "adICHAEAN ABBREVIATION MARK ABOVEbdBELOWalLETTER AAYINatLEPHatYINasBETHatHETHasDALETHatHAMEDH",
  "asFEasGHIMELatIMELasHEauTHasJAYINatHAYINasKAPHatHAPHasLAMEDHasMEMasNUNasPEasQHOPHatOPHasRESH",
  "asSADHEauMEKHatHINatSHINasTAWatETHatHAMEDHasWAWasXAPHatOPHasYODHasZAYINatHAYINalNUMBER FIVEasONE",
  "av HUNDREDasTENatWENTYalPUNCTUATION DOTba WITHIN DOTazUBLE DOT WITHIN DOTaxFLEURONaxLINE FILLER",
  "axSTARaxTWO DOTSalSIGN UDadS SHOEadTELPIECE CLOCKadUAL WHEELCHAIRacP SYMBOL FOR LIGHTHOUSE",
  "adLE LEAFacRCHEN HEAD MARKaiLETTER -AapAapBAapCAaqHAapDAaqZAapGAapHAapJAapKAaqHAapLAapMAapNAaqGA",
  "aqYAapPAaqHAapRAapSAaqHAapTAaqHAaqSAarHAapWAapYAapZAaqHAaiMARK SHADaiSIGN ANUSVARAanCANDRABINDU",
  "ajUBJOINED LETTER AazBAazCAbaHAazDAbaZAazGAazHAazJAazKAbaHAazLAazMAazNAbaGAbaYAazPAbaHAazRAazSA",
  "baHAazTAbaHAbaSAbbHAazWAazYAazZAbaHAaiVOWEL SIGN AAatEatIatOatUadRIAGE SYMBOLadTIAL ARTS UNIFORM",
  "acSARAM GONDI DIGIT EIGHTauFIVEavOURauNINEauONEauSEVENavIXauTHREEavWOauZEROaoLETTER AawAawIawU",
  "avBAawHAavCAawHAavDAawDAaxHAawHAavEavGAawHAavHAavIawIavJAawHAawNYAavKAawHAawSSAavLAawLAavMAavNA",
  "awGAawNAawYAavOavPAawHAavRAavSAawHAawSAavTAawHAawRAawTAaxHAavUawUavVAavYAaoRA-KARAapEPHA",
  "aoSIGN ANUSVARAatCANDRAatHALANTAatNUKTAatVISARGAaoVIRAMAapOWEL SIGN AAbaIbaUazEazIbaIazOazUbaU",
  "azVOCALIC RadCULINE ORDINAL INDICATORadK WORK SYMBOLadU MARKacTE DRINKadHEMATICAL BOLD CAPITAL A",
  "bbLPHAbaBbbETAbaCbbHIbaDbbELTAbbIGAMMAbaEbbPSILONbbTAbaFbaGbbAMMAbaHbaIbbOTAbaJbaKbbAPPAbaL",
  "bbAMDAbaMbbUbaNbbUbaObbMEGAbcICRONbaPbbHIbbIbbSIbaQbaRbbHObaSbbIGMAbaTbbAUbbHETAbf SYMBOLbaU",
  "bbPSILONbaVbaWbaXbbIbaYbaZbbETAasDIGIT EIGHTayFIVEazOURayNINEayONEaySEVENazIXayTHREEazWOayZERO",
  "asEPSILON SYMBOLasFRAKTUR CAPITAL AbiBbiCbiDbiEbiFbiGbiHbiIbiJbiKbiLbiMbiNbiObiPbiQbiRbiSbiTbiU",
  "biVbiWbiXbiYbiZbaSMALL AbgBbgCbgDbgEbgFbgGbgHbgIbgJbgKbgLbgMbgNbgObgPbgQbgRbgSbgTbgUbgVbgWbgXbgY",
  "bgZasITALIC CAPITAL AbiLPHAbhBbiETAbhCbiHIbhDbiELTAbhEbiPSILONbiTAbhFbhGbiAMMAbhHbhIbiOTAbhJbhK",
  "biAPPAbhLbiAMDAbhMbiUbhNbiUbhObiMEGAbjICRONbhPbiHIbiIbiSIbhQbhRbiHObhSbiIGMAbhTbiAUbiHETA",
  "bm SYMBOLbhUbiPSILONbhVbhWbhXbiIbhYbhZbiETAazEPSILON SYMBOLazKAPPA SYMBOLazNABLA",
  "azPARTIAL DIFFERENTIALbaHI SYMBOLbaI SYMBOLazRHO SYMBOLazSMALL AbgLPHAbfBbgETAbfCbgHIbfDbgELTA",
  "bfEbgPSILONbgTAbfFbgINAL SIGMAbfGbgAMMAbfHbfIbgOTAbfJbfKbgAPPAbfLbgAMDAbfMbgUbfNbgUbfObgMEGA",
  "bhICRONbfPbgHIbgIbgSIbfQbfRbgHObfSbgIGMAbfTbgAUbgHETAbfUbgPSILONbfVbfWbfXbgIbfYbfZbgETA",
  "azTHETA SYMBOLasKAPPA SYMBOLasNABLAasPARTIAL DIFFERENTIALatHI SYMBOLatI SYMBOLasRHO SYMBOL",
  "asSCRIPT CAPITAL AbhBbhCbhDbhEbhFbhGbhHbhIbhJbhKbhLbhMbhNbhObhPbhQbhRbhSbhTbhUbhVbhWbhXbhYbhZ",
  "azSMALL AbfBbfCbfDbfEbfFbfGbfHbfIbfJbfKbfLbfMbfNbfObfPbfQbfRbfSbfTbfUbfVbfWbfXbfYbfZatMALL A",
  "azLPHAayBazETAayCazHIayDazELTAazIGAMMAayEazPSILONazTAayFazINAL SIGMAayGazAMMAayHayIazOTAayJayK",
  "azAPPAayLazAMDAayMazUayNazUayOazMEGAbaICRONayPazHIazIazSIayQayRazHOaySazIGMAayTazAUazHETAayU",
  "azPSILONayVayWayXazIayYayZazETAasTHETA SYMBOLanDOUBLE-STRUCK CAPITAL AbjBbjDbjEbjFbjGbjIbjJbjK",
  "bjLbjMbjObjSbjTbjUbjVbjWbjXbjYbbDIGIT EIGHTbhFIVEbiOURbhNINEbhONEbhSEVENbiIXbhTHREEbiWObhZERO",
  "bbSMALL AbhBbhCbhDbhEbhFbhGbhHbhIbhJbhKbhLbhMbhNbhObhPbhQbhRbhSbhTbhUbhVbhWbhXbhYbhZ",
  "anFALLING DIAGONALaoRAKTUR CAPITAL AbdBbdDbdEbdFbdGbdJbdKbdLbdMbdNbdObdPbdQbdSbdTbdUbdVbdWbdXbdY",
  "avSMALL AbbBbbCbbDbbEbbFbbGbbHbbIbbJbbKbbLbbMbbNbbObbPbbQbbRbbSbbTbbUbbVbbWbbXbbYbbZ",
  "anITALIC CAPITAL AbdLPHAbcBbdETAbcCbdHIbcDbdELTAbcEbdPSILONbdTAbcFbcGbdAMMAbcHbcIbdOTAbcJbcK",
  "bdAPPAbcLbdAMDAbcMbdUbcNbdUbcObdMEGAbeICRONbcPbdHIbdIbdSIbcQbcRbdHObcSbdIGMAbcTbdAUbdHETA",
  "bh SYMBOLbcUbdPSILONbcVbcWbcXbdIbcYbcZbdETAauEPSILON SYMBOLauKAPPA SYMBOLauNABLA",
  "auPARTIAL DIFFERENTIALavHI SYMBOLavI SYMBOLauRHO SYMBOLauSMALL AbbLPHAbaBbbETAbaCbbHIbaDbbELTA",
  "bbOTLESS IbiJbaEbbPSILONbbTAbaFbbINAL SIGMAbaGbbAMMAbaIbbOTAbaJbaKbbAPPAbaLbbAMDAbaMbbUbaNbbUbaO",
  "bbMEGAbcICRONbaPbbHIbbIbbSIbaQbaRbbHObaSbbIGMAbaTbbAUbbHETAbaUbbPSILONbaVbaWbaXbbIbaYbaZbbETA",
  "auTHETA SYMBOLanLEFT ANGLE BRACKETasDOUBLE ANGLE BRACKETasFLATTENED PARENTHESIS",
  "asWHITE SQUARE BRACKETayTORTOISE SHELL BRACKETanMONOSPACE CAPITAL AbfBbfCbfDbfEbfFbfGbfHbfIbfJ",
  "bfKbfLbfMbfNbfObfPbfQbfRbfSbfTbfUbfVbfWbfXbfYbfZaxDIGIT EIGHTbdFIVEbeOURbdNINEbdONEbdSEVENbeIX",
  "bdTHREEbeWObdZEROaxSMALL AbdBbdCbdDbdEbdFbdGbdHbdIbdJbdKbdLbdMbdNbdObdPbdQbdRbdSbdTbdUbdVbdWbdX",
  "bdYbdZanRIGHT ANGLE BRACKETatDOUBLE ANGLE BRACKETatFLATTENED PARENTHESISatWHITE SQUARE BRACKET",
  "azTORTOISE SHELL BRACKETapSING DIAGONALanSANS-SERIF BOLD CAPITAL AbmLPHAblBbmETAblCbmHIblDbmELTA",
  "blEbmPSILONbmTAblFblGbmAMMAblHblIbmOTAblJblKbmAPPAblLbmAMDAblMbmUblNbmUblObmMEGAbnICRONblPbmHI",
  "bmIbmSIblQblRbmHOblSbmIGMAblTbmAUbmHETAbq SYMBOLblUbmPSILONblVblWblXbmIblYblZbmETAbdDIGIT EIGHT",
  "bjFIVEbkOURbjNINEbjONEbjSEVENbkIXbjTHREEbkWObjZERObdEPSILON SYMBOLbdITALIC CAPITAL AbtLPHAbsB",
  "btETAbsCbtHIbsDbtELTAbsEbtPSILONbtTAbsFbsGbtAMMAbsHbsIbtOTAbsJbsKbtAPPAbsLbtAMDAbsMbtUbsNbtUbsO",
  "btMEGAbuICRONbsPbtHIbtIbtSIbsQbsRbtHObsSbtIGMAbsTbtAUbtHETAbx SYMBOLbsUbtPSILONbsVbsWbsXbtIbsY",
  "bsZbtETAbkEPSILON SYMBOLbkKAPPA SYMBOLbkNABLAbkPARTIAL DIFFERENTIALblHI SYMBOLblI SYMBOL",
  "bkRHO SYMBOLbkSMALL AbrLPHAbqBbrETAbqCbrHIbqDbrELTAbqEbrPSILONbrTAbqFbrINAL SIGMAbqGbrAMMAbqHbqI",
  "brOTAbqJbqKbrAPPAbqLbrAMDAbqMbrUbqNbrUbqObrMEGAbsICRONbqPbrHIbrIbrSIbqQbqRbrHObqSbrIGMAbqTbrAU",
  "brHETAbqUbrPSILONbqVbqWbqXbrIbqYbqZbrETAbkTHETA SYMBOLbdKAPPA SYMBOLbdNABLA",
  "bdPARTIAL DIFFERENTIALbeHI SYMBOLbeI SYMBOLbdRHO SYMBOLbdSMALL AbkLPHAbjBbkETAbjCbkHIbjDbkELTA",
  "bjEbkPSILONbkTAbjFbkINAL SIGMAbjGbkAMMAbjHbjIbkOTAbjJbjKbkAPPAbjLbkAMDAbjMbkUbjNbkUbjObkMEGA",
  "blICRONbjPbkHIbkIbkSIbjQbjRbkHObjSbkIGMAbjTbkAUbkHETAbjUbkPSILONbjVbjWbjXbkIbjYbjZbkETA",
  "bdTHETA SYMBOLayCAPITAL AbgBbgCbgDbgEbgFbgGbgHbgIbgJbgKbgLbgMbgNbgObgPbgQbgRbgSbgTbgUbgVbgWbgX",
  "bgYbgZayDIGIT EIGHTbeFIVEbfOURbeNINEbeONEbeSEVENbfIXbeTHREEbfWObeZEROayITALIC CAPITAL AbnBbnCbnD",
  "bnEbnFbnGbnHbnIbnJbnKbnLbnMbnNbnObnPbnQbnRbnSbnTbnUbnVbnWbnXbnYbnZbfSMALL AblBblCblDblEblFblGblH",
  "blIblJblKblLblMblNblOblPblQblRblSblTblUblVblWblXblYblZaySMALL AbeBbeCbeDbeEbeFbeGbeHbeIbeJbeKbeL",
  "beMbeNbeObePbeQbeRbeSbeTbeUbeVbeWbeXbeYbeZaoCRIPT CAPITAL AbcCbcDbcGbcJbcKbcNbcObcPbcQbcSbcTbcU",
  "bcVbcWbcXbcYbcZauSMALL AbaBbaCbaDbaFbaHbaIbaJbaKbaLbaMbaNbaPbaQbaRbaSbaTbaUbaVbaWbaXbaYbaZ",
  "acXIMIZEacYAN NUMERAL EIGHTatEENapLEVENaoFIFTEENaqVEapOURasTEENaoNINEasTEENaoONEaoSEVENatTEEN",
  "apIXarTEENaoTENapHIRTEENaqREEapWELVEaqOaoZEROabEASURED ANGLEao OPENING LEFT",
  "apWITH OPEN ARM ENDING IN ARROW POINTING DOWN AND LEFTclRIGHTccLEFT AND DOWNclUPccRIGHT AND DOWN",
  "cmUPccUP AND LEFTcjRIGHTajBYajRIGHT ANGLE WITH DOTadT ON BONEacCHANICAL ARMalLEG",
  "acDEFAIDRIN CAPITAL LETTER AbcIbcTIUbbBbbCbbDbbEbbFbbGbbHbcPbbIbbJbbKbcPbbLbbMbbNbcGbcYbbObcEbbP",
  "bbQbbRbbSbbTbbUbbVbbWbbXbbYbcUbbZanOMMAamDIGIT EIGHTasFIVEatOURasNINEasONEav ALTERNATE FORM",
  "asSEVENatIXasTHREEax ALTERNATE FORMatWOav ALTERNATE FORMasZEROamEXCLAMATION OHamFULL STOP",
  "amNUMBER EIGHTEENauLEVENatFIFTEENauOURTEENatNINETEENatSEVENTEENauIXTEENatTENauHIRTEENauWELVE",
  "amSMALL LETTER AbaIbaTIUazBazCazDazEazFazGazHbaPazIazJazKbaPazLazMazNbaGbaYazObaEazPazQazRazSazT",
  "azUazVazWazXazYbaUazZanYMBOL AIVAadIEVAL COMMAajEXCLAMATION MARKajQUESTION MARKaeUM BLACK CIRCLE",
  "aiOLD WHITE CIRCLEahEIGHT POINTED BLACK STARanSPOKED ASTERISKahFIVE SPOKED ASTERISK",
  "aiLATTENED LEFT PARENTHESIS ORNAMENTarRIGHT PARENTHESIS ORNAMENTaiOUR POINTED BLACK STAR",
  "auPINWHEEL STARahGREEK CROSSahLEFT CURLY BRACKET ORNAMENTamPARENTHESIS ORNAMENT",
  "al-POINTING ANGLE BRACKET ORNAMENTahMATHEMATICAL SPACEahRIGHT CURLY BRACKET ORNAMENT",
  "anPARENTHESIS ORNAMENTam-POINTING ANGLE BRACKET ORNAMENTahSALTIREaiHADEaiIX POINTED BLACK STAR",
  "alSPOKED ASTERISKaiMALL WHITE CIRCLEahTHREE POINTED BLACK STARavPINWHEEL STARahVERTICAL BAR",
  "ahWHITE CIRCLEanSQUAREacETEI MAYEK AHANG KHUDAMaoNJIaoPUN IYEKanCHEIKHANatEIanDIGIT EIGHTatFIVE",
  "auOURatNINEatONEatSEVENauIXatTHREEauWOatZEROanLETTER ATIYAauBAavHAMauCHAawILauDDAawHAavHOUavIL",
  "auEauGHOUavOKauHUKauIav LONSUMauJHAMavILauKHOUavOKax LONSUMauLAIax LONSUMauMITax LONSUMauNA",
  "aw LONSUMavGOUay LONSUMavNAavYAauOauPAaw LONSUMavHAMauRAIauSAMavHAavSAauTHOUavILax LONSUMavTA",
  "awHAauUNauWAIauYANGaoUM IYEKanSYLLABLE REPETITION MARKanVIRAMAaoOWEL SIGN AAIbaUazNAPazU",
  "ayCHEINAPayIIazNAPayNUNGayONAPaySOUNAPayUNAPazUayVISARGAayYENAPanWORD REPETITION MARKacLON",
  "adTING FACEacMOacNDE KIKAKUI COMBINING NUMBER HUNDRED THOUSANDSbmSbfMILLIONSbfTEENSbhN THOUSANDS",
  "biSbgHOUSANDSaoDIGIT EIGHTauFIVEavOURauNINEauONEauSEVENavIXauTHREEavWOaoSYLLABLE M001 KIba2 KA",
  "ba3 KUba4 WIba5 WAba6 WUba7 MINba8 MANba9 MUNaz10 BIba1 BAba2 BUba3 Iba4 Aba5 Uba6 DIba7 DA",
  "ba8 DUba9 SIaz20 SAba1 SUba2 TIba3 TAba4 TUba5 LIba6 LAba7 LUba8 JIba9 JAaz30 JUba1 YIba2 YA",
  "ba3 YUba4 FIba5 FAba6 FUba7 NINba8 NANba9 NUNaz40 HEEba1 HAba2 HOOba3 NGGAba4 KPEEba5 WOba6 HUAN",
  "ba7 MBEEba8 KOba9 WVAaz50 PUba1 PEba2 HENba3 HINba4 LOOba5 TEba6 GBAba7 NGONba8 NYANba9 MEN",
  "az60 NYONba1 WVIba2 MBAba3 JOba4 NDOba5 KEEba6 POba7 NDOOba8 PIba9 TOaz70 GBOba1 GBOOba2 MBE",
  "ba3 LEba4 KPUba5 FEba6 KOOba7 VOba8 FEEba9 SOaz80 YEba1 PEEba2 NGGUba3 HEEIba4 LEEba5 VE",
  "ba6 LONG NGGEba7 HUNba8 FOba9 DEEaz90 NGGIba1 TEEba2 KPAba3 GBEEba4 MONba5 KEba6 HEba7 BE",
  "ba8 NYENba9 PAay100 Eba1 FANba2 POOba3 BOOba4 TOOba5 LONG MBOOba6 LONG NGGOOba7 GBEba8 KPE",
  "ba9 YEEaz10 LONG LEba1 GAba2 KPOOba3 JEba4 WOOba5 NGGEEba6 SEba7 NENba8 WEba9 NDEaz20 NGGOba1 YO",
  "ba2 MBUba3 NDIba4 GBIba5 NDUba6 WEEba7 NGGUAba8 HOOUba9 NDAaz30 HANba1 INba2 KPIba3 FOOba4 NJOO",
  "ba5 INba6 SOOba7 EIba8 BOba9 WVEaz40 HOba1 YOOba2 LONG MBOba3 WEIba4 VOOba5 MBIba6 NGGEba7 O",
  "ba8 GBUba9 NJEEaz50 BEEba1 VUba2 NJAba3 LOba4 MUANba5 GIba6 NGGOOba7 JEEba8 KPOba9 NGGAAaz60 JOO",
  "ba1 LONG MBEba2 SEEba3 EEba4 NYINba5 OOba6 GUEIba7 GUANba8 GUba9 NONaz70 NYUNba1 RAba2 MBOO",
  "ba3 VEEba4 MBOba5 LONG JOba6 HIba7 NGUANba8 ENba9 KUAaz80 DOOba1 DOba2 VIba3 LONG NGGOba4 NGEN",
  "ba5 VAba6 HUba7 MBUUba8 MBEEba9 MUENaz90 GEEba1 NDEEba2 NJUba3 HONba4 WUIba5 ANba6 SIAba7 FUA",
  "adORAH WITH NINE BRANCHESadS SYMBOLacRCURYadOITIC CURSIVE FRACTION EIGHT TWELFTHS",
  "bbLEVEN TWELFTHSbaFIVE TWELFTHSbbOUR TWELFTHSbaNINE TWELFTHSbaONE HALFbeTWELFTHbaSEVEN TWELFTHS",
  "bbIX TWELFTHSbaTEN TWELFTHSbbHREE TWELFTHSbbWO TWELFTHSarLETTER AazRCHAIC SAayBAayDAayEayHHAayI",
  "ayKAazHAayLAayMAayNAazEayOayPAayQAayRAaySAazEayTAazEazOayWAayYAasOGOGRAM IMNbaRMTarNUMBER EIGHT",
  "bd HUNDREDbl THOUSANDbeTHOUSANDbdY THOUSANDayFIFTYbd THOUSANDbaVEbc HUNDREDbk THOUSANDbdTHOUSAND",
  "azORTYbd THOUSANDbaURbc HUNDREDbk THOUSANDbdTHOUSANDayNINEbc HUNDREDbk THOUSANDbdTHOUSAND",
  "bcTY THOUSANDayONEbb HUNDREDbj THOUSANDbcTHOUSANDaySEVENbd HUNDREDbl THOUSANDbeTHOUSANDbdTY",
  "bf THOUSANDazIXbb HUNDREDbj THOUSANDbcTHOUSANDbbTYbd THOUSANDayTENbb THOUSANDazHIRTYbe THOUSAND",
  "baREEbd HUNDREDbl THOUSANDbeTHOUSANDazWENTYbe THOUSANDbaObb HUNDREDbj THOUSANDbcTHOUSAND",
  "ajHIEROGLYPHIC LETTER AbdBAbf-2bdDAbdEbdHHAbdIbdKAbeHAbdLAbdMAbdNAbf-2beEbf-2bdObdPAbdQAbdRAbf-2",
  "bdSAbf-2beEbdTAbf-2beEbf-2beObdWAbdYAawSYMBOL VIDJbh-2adPERSONacSSAGE WAITINGacTRICAL BREVE",
  "ajLONG OVER SHORTatTWO SHORTSajPENTASEMEajSHORT OVER LONGajTETRASEMEakRISEMEakWO SHORTS JOINED",
  "auOVER LONGaeOabIAO LETTER AHanRCHAIC MAauNAavGAauZZAamBAanRIamDAanDAanLHAapYAanZAaoHAaoYIaoZA",
  "amFAamGAanHAaoHAamHAanHAamKAamLAanHAaoYAanYAamMAanHAamNAaoSALIZATIONanGAaoHAanHAanNAaoHAanYAaoHA",
  "amPAanLAamQAanGAamREFORMED TONE-1ba2ba4ba5ba6ba8awSHAanTEamSAanHAanSAanYIamTAanEanLHAapYAanONE-2",
  "ar3ar4ar5ar6ar7ar8anSAaoEaoHAaoSAanTAamVAanFAamWAamXAamYI DZHAapKAapNNAapPAapTAaqSAarHAaqTAamZA",
  "anHAanSAaoHAanZAaoSAapYAaoYAafSIGN ASPIRATIONakCONSONANT MODIFIER BARakREFORMED ASPIRATION",
  "atVOICINGafTONE ABOVEakBELOWakRIGHTakTOP RIGHTafVOWEL SIGN AarAarEasEarHHarIarNasGarUaqEarAarI",
  "arNasGarRasRaqIarAasNatGarEarGarIarNGarOasNGarUaqNarGaqOarERasYarGarOarUaqROUNDED ERbaRaqUarAasN",
  "atGarEIarIarNGarOGarUaqVWaqWarOaqYarIarUIacCR DASH SYMBOLafON US SYMBOLaeO SIGNafBEafPHONE",
  "afSCOPEacDDLE DOTahTHIRD WHITE RIGHT POINTING INDEXadLINE HORIZONTAL ELLIPSISacLITARY HELMET",
  "ajMEDALadKY WAYadL SIGNacNIBUSaeDISCaeMIZEadUS SIGNak IN TRIANGLEalWITH COMMA ABOVEaqDOT BELOW",
  "aqFALLING DOTSaqRISING DOTSagTILDEaf-OR-PLUS SIGNadYacRRORag BALLabMSPabOBILE PHONEam OFF",
  "anWITH RIGHTWARDS ARROW AT LEFTacDELSaeRN PENTATHLONadI ABBREVIATION SIGNafDANDAagIGIT EIGHT",
  "alFIVEamOURalNINEalONEalSEVENamIXalTHREEamWOalZEROagOUBLE DANDAafLETTER AanAanIanUamBAanHAamCA",
  "anHAamDAanDAaoHAanHAamEamGAanHAamHAamIanIamJAanHAamKAanHAamLAanLAamMAamNAanGAanNAanYAamOamPAanHA",
  "amRAamSAanHAanSAamTAanHAanTAaoHAamUanUamVAanOCALIC LavLauRavRamYAafSIGN ANUSVARAalRDHACANDRA",
  "akHUVAakVIRAMAamSARGAafVOWEL SIGN AAarIarUaqEaqIarIaqOaqUarUaqVOCALIC LazLayRazR",
  "aeFIER BREVE WITH INVERTED BREVEajLETTER ACUTE ACCENTarLVEOLAR CLICKarPOSTROPHEaqBEGIN HIGH TONE",
  "awLOW TONEarILABIAL CLICKaqCAPITAL AazEayBazARRED BayCayDayEayFayGayHaz WITH STROKEayIayJayKayL",
  "ayMayNayOazUayPayQayRazEVERSED EbhNayTayUayVayWarENTRED LEFT HALF RINGayRIGHT HALF RING",
  "arHINESE TONE YANG PINGbiQUbiRUbiSHANGbeIN PINGbhQUbhRUbhSHANGarIRCUMFLEX ACCENTarOLON",
  "arROSS ACCENTarYRILLIC ENazHARD SIGNazSOFT SIGNaqDENTAL CLICKarOT HORIZONTAL BARauSLASH",
  "auVERTICAL BARasUBLE APOSTROPHEaxPRIMEasWN ARROWHEADavTACKaqEND HIGH TONEauLOW TONE",
  "arXTRA-HIGH DOTTED LEFT-STEM TONE BARbiTONE BARbbLEFT-STEM TONE BARbbTONE BAR",
  "awLOW DOTTED LEFT-STEM TONE BARbhTONE BARbaLEFT-STEM TONE BARbaTONE BARaqGEORGIAN NAR",
  "arLOTTAL STOPbc WITH STROKEarRAVE ACCENTaqHALF TRIANGULAR COLONarIGH DOTTED LEFT-STEM TONE BAR",
  "bcTONE BARavLEFT-STEM TONE BARavTONE BARaqLATERAL CLICKarEFT ARROWHEADavHALF RINGavTACK",
  "arOW ACUTE ACCENTauCIRCUMFLEX ACCENTauDOTTED LEFT-STEM TONE BARbbTONE BARawWN ARROWHEAD",
  "auGRAVE ACCENTauINVERTED EXCLAMATION MARKauLEFT ARROWbeHEADay-STEM TONE BARauMACRON",
  "auRIGHT ARROWHEADawNGauTILDEavONE BARauUP ARROWHEADauVERTICAL LINEatER RIGHT CORNER ANGLE",
  "aqMACRONarID DOTTED LEFT-STEM TONE BARbbTONE BARauLEFT-STEM TONE BARauTONE BAR",
  "atDLE DOUBLE ACUTE ACCENTbeGRAVE ACCENTaxGRAVE ACCENTasNUS SIGNaqOPEN SHELFaqPLUS SIGNarRIME",
  "aqRAISED COLONaxDOWN ARROWaxEXCLAMATION MARKaxINVERTED EXCLAMATION MARKaxUP ARROW",
  "arETROFLEX CLICK WITH RETROFLEX HOOKasVERSED COMMAazGLOTTAL STOPbl WITH STROKEarHOTIC HOOK",
  "arIGHT ARROWHEADawHALF RINGawTACKaqSHELFasORT EQUALS SIGNarMALL AaxEaxINaxLPHAawBax WITH HOOK",
  "axARRED OaxETAaxOTTOM HALF OawCax WITH CURLaxAPITAL AAbeBbeGbf WITH HOOKbeHbeIbf WITH STROKE",
  "bfNVERTED RbeLbf WITH BELTbeNbeOEbeRbeUbeYaxHIaxLOSED OMEGAbdREVERSED OPEN EawDax WITH HOOK",
  "bh AND TAILbdTAILaxELTAayZH DIGRAPHaxOTLESS J WITH STROKEbr AND HOOKaxZ DIGRAPHbg WITH CURL",
  "bmRETROFLEX HOOKawEaxNGaxSHaxTHaxZHawFaxENG DIGRAPHawGax WITH HOOKaxAMMAaxREEK GAMMAbcPHIawH",
  "ax WITH HOOKbdSTROKEaxENGba WITH HOOKawI WITH STROKEaxOTAawJax WITH CROSSED-TAILawKawL",
  "ax WITH BELTbdINVERTED LAZY SbdMIDDLE TILDEbdPALATAL HOOKbdRETROFLEX HOOKbr AND BELTaxEZH",
  "ba WITH RETROFLEX HOOKaxIGATURE OEaxS DIGRAPHaxZ DIGRAPHawMax WITH HOOKawN WITH LEFT HOOK",
  "bdRETROFLEX HOOKawOax WITH STROKEaxPEN EbbOawPaxHIawQawRax WITH FISHHOOKbdTAILaxAMS HORN",
  "axEVERSED EbfGLOTTAL STOPbfOPEN EawSax WITH CURLbdHOOKaxCHWAayRIPT GaxIDEWAYS UawT",
  "ax WITH PALATAL HOOKbdRETROFLEX HOOKaxC DIGRAPH WITH CURLaxESH DIGRAPHaxHETAaxOP HALF O",
  "axS DIGRAPHbg WITH RETROFLEX HOOKaxURNED AbeEbeLPHAbdHbdIbdMbe WITH LONG LEGbdOPEN EbdR",
  "be WITH HOOKbkLONG LEGbs AND RETROFLEX HOOKbdVbdWbdYbe WITH BELTawUax BARayWITH LEFT HOOK",
  "axPSILONawVax WITH HOOKbdRIGHT HOOKawWawXawYawZax WITH CURLbdRETROFLEX HOOKarTRESS AND HIGH TONE",
  "bbLOW TONEarUPERSCRIPT HALF TRIANGULAR COLONbcTRIANGULAR COLONaqTRIANGULAR COLONarURNED COMMA",
  "aqUNASPIRATEDarP ARROWHEADatTACKarSaqVERTICAL LINEarOICINGaqYANG DEPARTING TONE MARK",
  "arIN DEPARTING TONE MARKadULO TWO SUMacNEY BAGagWITH WINGSaf-MOUTH FACEadGOLIAN BIRGA",
  "ap WITH DOUBLE ORNAMENTavORNAMENTakCOLONamMMAakDIGIT EIGHTaqFIVEarOURaqNINEaqONEaqSEVENarIX",
  "aqTHREEarWOaqZEROalOUBLE BIRGA WITH ORNAMENTakELLIPSISakFOUR DOTSalREE VARIATION SELECTOR FOUR",
  "biONEbiTHREEbjWOalULL STOPakINVERTED BIRGAay WITH DOUBLE ORNAMENTakLETTER AasLI GALI AbbH",
  "bbNUSVARA ONEbaBALUDAbaCAbaDAbcGALGAbcMARUbbDAbaHALF UbfYAbaIbbNVERTED UBADAMAbaKAbaNGAbbNAbaPA",
  "bbHAbaSSAbaTAbbHREE BALUDAbbTAbcHAbaUBADAMAbaVISARGA ONEbaZAbbHAasNGarBAarCHAau WITH TWO DOTSatI",
  "arDAarEasEarFAarGAarHAAarIarJAarKAasHAarLAasHAarMAatNCHU ALI GALI BHAbhCAbiYAbhDDHAbiHAbhGHA",
  "bhJHAbhLHAbhNGAbhSSAbhTAbiTAbhZAbiHAayFAayIayKAayRAayZHAarNAarOasEarPAarQAarRAarSAasHAasIBE ANG",
  "awCHAawDAawEawFAawGAayAawHAayAawIaxYawJAawKAawPAawRAAawSHAawTAaxSAawUaxEawZAaxHAarTA",
  "asODO ALI GALI TAbfZHAaxNGawBAawCHAawDAaxZAawEawGAayAawHAAawIawJAaxIAawKAawLONG VOWEL SIGNawMA",
  "awNIAawOaxEawPAawQAawTAaxSAawUaxEawWAawYAasSAarUasEarWAarYAarZAasHIasRAakMANCHU COMMAarFULL STOP",
  "akNIRUGUakROTATED BIRGAax WITH DOUBLE ORNAMENTbdORNAMENTakSIBE SYLLABLE BOUNDARY MARKER",
  "alWIRL BIRGAav WITH DOUBLE ORNAMENTbbORNAMENTakTODO SOFT HYPHENalRIPLE BIRGA WITH ORNAMENT",
  "alURNED SWIRL BIRGA WITH DOUBLE ORNAMENTakVOWEL SEPARATORadKEYag FACEadOGRAM FOR EARTHanYANGaoIN",
  "aeRAILaeSTABLE SYMBOLacOD BUBBLEadN CAKEafVIEWING CEREMONYacSQUEafITOacTHER CHRISTMASadOR BOAT",
  "agSCOOTERafIZED WHEELCHAIRafWAYacUNT FUJIafAINai BICYCLISTajCABLEWAYajRAILWAYadSEaf FACEagTRAP",
  "adTHacVIE CAMERAacYAIabRO DANDAafIGIT EIGHTakFIVEalOURakNINEakONEakSEVENalIXakTHREEalWOakZERO",
  "afOUBLE DANDAaeLETTER AalBAalCHUalDAanIalEamAalHAIanOalKEAAEamHAIamOalLAanNalMAEMamIMalNGIamIN",
  "alOamLamOalPAamHIalRIamOalSHIalTAamEKamHEAalWAalYOabUCH GREATER-THANafLESS-THANacLTANI LETTER A",
  "apBAaqHAapCAaqHAapDAaqDAarDAarHAaqHAapEapGAaqHAapHAapIapJAaqJAapKAaqHAapLAapMAapNAaqNAaqYAapPA",
  "aqHAapRAaqHAaqRAapSAapTAaqHAaqTAarHAapUapVAapYAaiSECTION MARKaeIMAPafPLE MUSICAL NOTES",
  "ahICATION SIGNat IN DOUBLE CIRCLEaxLEFT HALF CIRCLEaxRIGHT HALF CIRCLEaxTRIANGLEauWITH DOT ABOVE",
  "azUNDERBARapXafSETai MULTIPLICATIONajUNIONacSHROOMadIC FLAT SIGNagNATURAL SIGNagSHARP SIGN",
  "afAL KEYBOARDaq WITH JACKSaiNOTEaiSCOREajYMBOL ARPEGGIATO DOWNbaUPapBEGIN BEAMavPHRASEavSLUR",
  "avTIEaqRACEatKETarEATH MARKasVEatISav RESTapC CLEFaqAESURAaqIRCLE X NOTEHEADaqLIMACUSasVIS",
  "arUSTER NOTEHEAD BLACKbgWHITEaqODAarMBINING ACCENTbf-STACCATObaUGMENTATION DOTazBENDazDOIT",
  "bbUBLE TONGUEbbWN BOWazFLAG-1be2be3be4be5bbIPazHARMONICazLOUREazMARCATObg-STACCATOazRIPazSMEAR",
  "baNAP PIZZICATObaPRECHGESANG STEMbaTACCATISSIMObgObbEMazTENUTObaREMOLO-1bh2bh3bbIPLE TONGUE",
  "azUP BOWasMON TIMEaqRESCENDOarOIXaqUT TIMEapDA CAPOarL SEGNOarMPat ALLarSHED BARLINEaqECRESCENDO",
  "arGREE SLASHaqOUBLE BARLINEawFLATawSHARPaqRUM CLEF-1az2apEIGHTH NOTEawRESTaqND BEAMatOF STIMME",
  "atPHRASEatSLURatTIEapF CLEFav OTTAVA ALTAbdBASSAaqERMATAaw BELOWaqINAL BARLINEasGERED TREMOLO-1",
  "bg2bg3arVE-LINE STAFFaqLAT DOWNauUPaqORTEarUR-LINE STAFFauSTRING FRETBOARDaqUSA BLACKauWHITE",
  "apG CLEFav OTTAVA ALTAbdBASSAaqLISSANDO DOWNazUPaqRACE NOTE NO SLASHbaSLASHarEGORIAN C CLEF",
  "azF CLEFapHALF NOTEauPEDAL MARKauRESTarUPTSTIMMEapINVERTED TURNapKIEVAN C CLEF",
  "awEIGHTH NOTE STEM DOWNbnUPaxND OF PIECEawFINAL NOTEaxLAT SIGNawHALF NOTE",
  "awQUARTER NOTE STEM DOWNboUPawRECITATIVE MARKawWHOLE NOTEaqORONapLEFT REPEAT SIGNaqONGA",
  "au IMPERFECTA RESTavPERFECTA RESTapMAXIMAaqEZZOaqINIMAav BLACKawRESTaqOON NOTEHEAD BLACKbdWHITE",
  "aqULTI RESTauPLE MEASURE RESTapNATURAL DOWNaxUPaqEBENSTIMMEaqOTEHEAD BLACKaqULL NOTEHEAD",
  "apONE HUNDRED TWENTY-EIGHTH NOTEbpRESTas-LINE STAFFaqRNAMENT STROKE-1bg0bg1bf2bf3bf4bf5bf6bf7bf8",
  "bf9aqTTAVA ALTAawBASSAapPARENTHESIS NOTEHEADaqEDAL MARKavUP MARKarS SUBPUNCTISaqIANO",
  "aqLUS NOTEHEADaqODATUSarRRECTUSay FLEXUSapQUARTER NOTEaxRESTaxTONE FLATbcSHARParINDICESIMA ALTA",
  "bcBASSAapREPEAT DOTSavED FIGURE-1bf2bf3arVERSE FINAL BARLINEaqIGHT REPEAT SIGNarNFORZANDO",
  "apSCANDICUSay FLEXUSaqEGNOarMIBREVIS BLACKbaRESTbaWHITEatMINIMA BLACKbaRESTbaWHITEaqHARP DOWN",
  "avUParORT BARLINEaqINGLE BARLINEarX-LINE STAFFatSTRING FRETBOARDasTEENTH NOTEazREST",
  "atY-FOURTH NOTEbcRESTaqORIaqQUARE BawNOTEHEAD BLACKbfWHITEaqUBITO",
  "apTEMPUS IMPERFECTUM CUM PROLATIONE IMPERFECTAch DIMINUTION-1ct2ct3bxPERFECTA",
  "awPERFECTUM CUM PROLATIONE IMPERFECTAbvPERFECTAcd DIMINUTION-1aqHIRTY-SECOND NOTEbdREST",
  "arREE-LINE STAFFaqORCULUSax RESUPINUSaqRarIANGLE NOTEHEAD DOWN BLACKbmWHITEbhLEFT BLACKbmWHITE",
  "bhRIGHT BLACKbnWHITEbhUP BLACKbkRIGHT BLACKbqWHITEbkWHITEax-ROUND NOTEHEAD DOWN BLACKbsWHITE",
  "aqURNat SLASHauUPaqWO-LINE STAFFapVIRGAaqOID NOTEHEADapWHOLE NOTEavRESTaqITH FINGERNAILS",
  "apX NOTEHEADapZabVSabWabYANMAR CONSONANT SIGN MEDIAL HAbeRAbeWAbeYAayON MEDIAL LAbiMAbiNA",
  "axSHAN MEDIAL WAaiDIGIT EIGHTaoFIVEapOURaoNINEaoONEaoSEVENapIXaoTHREEapWOaoZEROaiLETTER A",
  "aqITON RAaqUapBAaqHAapCAaqHAapDAaqDAarHAaqHAapEaqASTERN PWO KAREN GHWAbhNNAbhYWAapGAaqHA",
  "aqREAT SAapHAapIaqIapJAaqHAapKAaqHAasMTI CAaxHAawDDAayHAaxHAawFAawGAawHAaxHAawJAaxHAawLLAawNA",
  "axYAawRAawSAawTTAayHAawXAawZAapLAaqLAapMAaqON BBAavEatEatJHAatNGAapNAaqGAaqNAarYAaqYAapOapPAaqHA",
  "apRAaqUMAI PALAUNG FAapSAaqGAW KAREN SHAaqHAasN AauBAavHAauCAavHAauDAauFAauGAavHAauHAauJHAauKA",
  "avHAauNAavNAavYAauPHAauTHAauZAarWE PALAUNG CHAbcSHAaqSAapTAarI LAING BAbaHAazDAbaDAbbHAbaHAazFA",
  "azGAbaHAazJAbaHAazLLAazNNAbaYAaqHAaqTAarHAapUaqUapVOCALIC LayLaxRayRapWAaqESTERN PWO KAREN PWA",
  "bhTHAapYAajOGOGRAM KHAMTI HMayOAYayQNaiMODIFIER LETTER KHAMTI REDUPLICATIONaySHAN REDUPLICATION",
  "aiSHAN DIGIT EIGHTatFIVEauOURatNINEatONEatSEVENauIXatTHREEauWOatZEROajIGN ANUSVARAaoSAT",
  "anDOT BELOWanKHAMTI TONE-1az3anLITTLE SECTIONanPAO KAREN TONEanRUMAI PALAUNG TONE-5anSECTION",
  "aoHAN COUNCIL EMPHATIC TONEbaTONE-2bf3asSAWasTONE-2ax3ax5ax6anTAI LAING TONE-2bc5anVIRAMAapSARGA",
  "anWESTERN PWO KAREN TONE-1bk2bk3bk4bk5ajYMBOL AFOREMENTIONEDaqITON EXCLAMATIONavONEavTWO",
  "apCOMPLETEDapGENITIVEapLOCATIVEapSHAN EXCLAMATIONauONEaiTAI LAING DIGIT EIGHTayFIVEazOURayNINE",
  "ayONEaySEVENazIXayTHREEazWOayZEROajONE MARK SGAW KAREN HATHIbdKE PHOaiVOWEL SIGN AAauIavTON AbaI",
  "atEau ABOVEatGEBA KAREN IatIauIatKAYAH EEazOEazUatMON IIaxOatSGAW KAREN EUauHAN AAayEaz ABOVE",
  "ayFINAL YatTALL AAatUauUatVOCALIC LbcLbbRbcRatWESTERN PWO KAREN EUblUE",
  "aaN-ARY CIRCLED DOT OPERATORaoPLUS OPERATORaoTIMES OPERATORahOPRODUCTagINTERSECTIONagLOGICAL AND",
  "aoORagPRODUCTagSQUARE INTERSECTION OPERATORanUNION OPERATORahUMMATIONagTIMES OPERATORagUNION",
  "al OPERATOR WITH DOTbaPLUSagWHITE VERTICAL BARabABATAEAN CRUCIFORM NUMBER FOURakLETTER ALEPH",
  "asYINarBETHarDALETHarFINAL ALEPHaxBETHaxHEaxKAPHaxLAMEDHaxMEMaxNUNaxSHINaxYODHarGIMELarHEatTH",
  "arKAPHarLAMEDHarMEMarNUNarPEarQOPHarRESHarSADHEatMEKHasHINarTAWasETHarWAWarYODHarZAYIN",
  "akNUMBER FIVEasOURarONEau HUNDREDarTENasHREEasWENTYatOadLAacIL POLISHadRA SIGNacKacME BADGEacND",
  "aeINAGARI HEADSTROKEamLETTER AauAauIauUatBAauHAatCAauHAatDAauDAavHAauHAatEatGAauHAatHAatIauIatJA",
  "auHAatKAauHAatLAauLAatMAatNAauGAauNAauYAatOatPAauHAatRAauRAatSAauHAauSAatTAauHAauTAavHAatUauU",
  "atVAauOCALIC RbcRatYAamSIGN ANUSVARAasVAGRAHAarSIDDHAMarVIRAMAatSARGAamVOWEL SIGN AAayIayUaxEaxI",
  "ayIaxOaxPRISHTHAMATRA EaxUayUaxVOCALIC RbgRacRROW NO-BREAK SPACEacTIONAL DIGIT SHAPESajPARK",
  "acUSEATED FACEacZAR AMULETabBHacSPabECKTIEacGATED DOUBLE VERTICAL BAR DOUBLE RIGHT TURNSTILE",
  "afIVE ACKNOWLEDGEajCIRCLED DIGIT ZEROarLATIN CAPITAL LETTER AbmBbmCbmDbmEbmFbmGbmHbmIbmJbmKbmL",
  "bmMbmNbmObmPbmQbmRbmSbmTbmUbmVbmWbmXbmYbmZarNUMBER EIGHTEENazLEVENayFIFTEENazOURTEENayNINETEEN",
  "aySEVENTEENazIXTEENayTHIRTEENazWELVEbbNTYarSQUAREarTRIANGLEajDIAGONAL CROSSasDIAMOND",
  "asMIDDLE RIGHT TO LOWER CENTREajSQUARED ABarCROSS MARKarICarLATIN CAPITAL LETTER AbmBbmCbmDbmE",
  "bmFbmGbmHbmIbmJbmKbmLbmMbmNbmObmPbmQbmRbmSbmTbmUbmVbmWbmXbmYbmZarPAarQUESTION MARKarSAarWC",
  "acITHER A SUBSET OF NOR EQUAL TOamPERSET OF NOR EQUAL TOajPPROXIMATELY NOR ACTUALLY EQUAL TO",
  "aiGREATER-THAN NOR EQUAL TObcIVALENT TOazLESS-THANaiLESS-THAN NOR EQUAL TOazIVALENT TO",
  "awGREATER-THANacLacPTUNEah FORM TWOacRD FACEacSSUSadT WITH EGGSaeING DOLLSacUTER",
  "aeRAL CHESS BISHOPau ROTATED NINETY DEGREESbdTWO HUNDRED SEVENTY DEGREESaoEQUIHOPPER",
  "ay ROTATED NINETY DEGREESaoKINGas ROTATED NINETY DEGREESbbTWO HUNDRED SEVENTY DEGREESapNIGHT",
  "au ROTATED FORTY-FIVE DEGREESbdNINETY DEGREESbdONE HUNDRED THIRTY-FIVE DEGREES",
  "bdTHREE HUNDRED FIFTEEN DEGREESbeWO HUNDRED SEVENTY DEGREESbpTWENTY-FIVE DEGREESaoPAWN",
  "as ROTATED NINETY DEGREESbbTWO HUNDRED SEVENTY DEGREESaoQUEENat ROTATED NINETY DEGREES",
  "bcTWO HUNDRED SEVENTY DEGREESaoROOKas ROTATED NINETY DEGREESbbTWO HUNDRED SEVENTY DEGREES",
  "aoTURNED BISHOPavKINGawNIGHTavPAWNavQUEENavROOKaiFACEacW LINEaeMOON SYMBOLajWITH FACE",
  "aeSHEQEL SIGNaeTAI LUE DIGIT EIGHTasFIVEatOURasNINEasONEasSEVENatIXasTHREEatWOasZERO",
  "amLETTER FINAL BazDazKazMazNbaGazVatHIGH BAayDAayFAayHAayKAazVAayLAayMAayNAazGAayPAazHAayQAaySA",
  "azUAayTAazHAazSAayVAayXAazVAayYAatLOW BAaxDAaxFAaxHAaxKAayVAaxLAaxMAaxNAayGAaxPAayHAaxQAaxSAayUA",
  "axTAayHAaySAaxVAaxXAayVAaxYAamSIGN LAEauVamTHAM DIGIT ONEanONE MARK-1aw2amVOWEL SIGN AAazYayEayY",
  "axEaxIIayYaxOayAazYayYaxUayEazYayUayYaxVOWEL SHORTENERadA ABBREVIATION SIGNafCOMMAafDANDA",
  "agIGIT EIGHTalFIVEamOURalNINEalONEalSEVENamIXalTHREEamWOalZEROagOUBLE COMMAamDANDAafGAP FILLER",
  "afINSERTION SIGNafLETTER AanAanIanUamBAanHAamCAanHAamDAanDAaoHAanHAamEamGAanHAamHAamIanIamJAanHA",
  "amKAanHAamLAanHAamMAanHAamNAanGAaoHAanHAanNAanYAaoHAamOamPAanHAamRAanHAamSAanHAanSAamTAanHAanTA",
  "aoHAamUanUamVEDIC ANUSVARAanOCALIC LavLauRavRamWAamYAafOMafPLACEHOLDER MARKafSANDHI MARKagIDDHI",
  "ahGN ANUSVARAalVAGRAHAakCANDRABINDUakFINAL ANUSVARAakJIHVAMULIYAakNUKTAakUPADHMANIYAakVIRAMA",
  "amSARGAafVOWEL SIGN AAarIarUaqEaqIarIaqOaqUarUaqVOCALIC LazLayRazRadLINE LEFTaiRIGHTadSPAPER",
  "acXT LINEafPAGEabIGHT WITH STARSacNJAabKO COMBINING DOUBLE DOT ABOVEaoLONG DESCENDING TONE",
  "atHIGH TONEatLOW TONEatRISING TONEaoNASALIZATION MARKaoSHORT HIGH TONEauLOW TONEauRISING TONE",
  "ahMAaeDANTAYALANafIGIT EIGHTakFIVEalOURakNINEakONEakSEVENalIXakTHREEalWOakZEROafOROME SIGN",
  "aeEXCLAMATION MARKaeHIGH TONE APOSTROPHEaeLAJANYALANafETTER AalBAalCHAalDAanGBASINNAalEamEalFA",
  "alGBAalHAalIalJAamONA CHAaqJAaqRAalKAalLAalMAalNamAan WOLOSOamYAao WOLOSOalOamOalPAalRAamRAalSA",
  "alTAalUalWAalYAafOW TONE APOSTROPHEaeSYMBOL GBAKURUNENalOO DENNENaeTAMAN SIGNabLabNBSP",
  "abO BICYCLESaeREAK HEREadENTRYai SIGNadMOBILE PHONESadONE UNDER EIGHTEEN SYMBOLadPEDESTRIANS",
  "aeIRACYadSMOKING SYMBOLac-BREAK SPACEacMINAL DIGIT SHAPESaeSMA SIGNacN-BREAKING HYPHEN",
  "aePOTABLE WATER SYMBOLadFORKINGacRadDIC MARK SIGNadMAL SUBGROUP OFas OR EQUAL TO",
  "adTH EAST AND SOUTH WEST ARROWamRROWaq AND SOUTH EAST ARROWarCROSSING NORTH WEST ARROW",
  "baSOUTH EAST ARROWarWITH HOOKalBLACK ARROWalDOUBLE ARROWalPOINTING BUDauLEAFauVINE LEAF",
  "alSANS-SERIF ARROWalTRIANGLE-HEADED ARROWbg TO BARalWHITE ARROWagINDIC FRACTION ONE EIGHTHazHALF",
  "azQUARTERazSIXTEENTHavTHREE QUARTERSbbSIXTEENTHSamPLACEHOLDER MARKamQUANTITY MARKapRTER MARK",
  "amRUPEE MARKagWEST AND SOUTH EAST ARROWamRROWaq AND NORTH EAST ARROWarCROSSING NORTH EAST ARROW",
  "arTO CORNERauLONG BARarWITH HOOKalBLACK ARROWalDOUBLE ARROWalPOINTING BUDauLEAFauVINE LEAF",
  "alSANS-SERIF ARROWalTRIANGLE-HEADED ARROWbg TO BARalWHITE ARROWafEAST-POINTING AIRPLANEacSE",
  "acT A SUBSET OFaiPERSET OFafLMOST EQUAL TOafN ELEMENT OFafSYMPTOTICALLY EQUAL TOaeCHECK MARK",
  "aeEQUAL TOahIVALENT TOaeGREATER-THANaeIDENTICAL TOaeLESS-THANaeNORMAL SUBGROUP OFaw OR EQUAL TO",
  "aePARALLEL TOaeSIGNafQUARE IMAGE OF OR EQUAL TOalORIGINAL OF OR EQUAL TOaeTILDEafRUE",
  "adCHED LEFT SEMICIRCLE WITH THREE DOTSajOWER RIGHT-SHADOWED WHITE RIGHTWARDS ARROW",
  "aiRIGHT SEMICIRCLE WITH THREE DOTSaiUPPER RIGHT-SHADOWED WHITE RIGHTWARDS ARROWadEae PADahGE",
  "aeBOOKai WITH DECORATIVE COVERabULadLacMBER EIGHTEEN FULL STOPaiLEVEN FULL STOP",
  "ahFIFTEEN FULL STOPaiOURTEEN FULL STOPahNINETEEN FULL STOPahSEVENTEEN FULL STOPaiIGN",
  "ajXTEEN FULL STOPahTEN FULL STOPaiHIRTEEN FULL STOPaiWELVE FULL STOPakNTY FULL STOPadERO SIGN",
  "acSHU CHARACTER-1B170au1au2au3au4au5au6au7au8au9auAauBauCauDauEauFat80au1au2au3au4au5au6au7au8",
  "au9auAauBauCauDauEauFat90au1au2au3au4au5au6au7au8au9auAauBauCauDauEauFatA0au1au2au3au4au5au6au7",
  "au8au9auAauBauCauDauEauFatB0au1au2au3au4au5au6au7au8au9auAauBauCauDauEauFatC0au1au2au3au4au5au6",
  "au7au8au9auAauBauCauDauEauFatD0au1au2au3au4au5au6au7au8au9auAauBauCauDauEauFatE0au1au2au3au4au5",
  "au6au7au8au9auAauBauCauDauEauFatF0au1au2au3au4au5au6au7au8au9auAauBauCauDauEauFas200au1au2au3au4",
  "au5au6au7au8au9auAauBauCauDauEauFat10au1au2au3au4au5au6au7au8au9auAauBauCauDauEauFat20au1au2au3",
  "au4au5au6au7au8au9auAauBauCauDauEauFat30au1au2au3au4au5au6au7au8au9auAauBauCauDauEauFat40au1au2",
  "au3au4au5au6au7au8au9auAauBauCauDauEauFat50au1au2au3au4au5au6au7au8au9auAauBauCauDauEauFat60au1",
  "au2au3au4au5au6au7au8au9auAauBauCauDauEauFat70au1au2au3au4au5au6au7au8au9auAauBauCauDauEauFat80",
  "au1au2au3au4au5au6au7au8au9auAauBauCauDauEauFat90au1au2au3au4au5au6au7au8au9auAauBauCauDauEauF",
  "atA0au1au2au3au4au5au6au7au8au9auAauBauCauDauEauFatB0au1au2au3au4au5au6au7au8au9auAauBauCauDauE",
  "auFatC0au1au2au3au4au5au6au7au8au9auAauBauCauDauEauFatD0au1au2au3au4au5au6au7au8au9auAauBauCauD",
  "auEauFatE0au1au2au3au4au5au6au7au8au9auAauBauCauDauEauFatF0au1au2au3au4au5au6au7au8au9auAauB",
  "agITERATION MARKacT AND BOLTabYIAKENG PUACHUE HMONG CIRCLED CAaxDIGIT EIGHTbdFIVEbeOURbdNINE",
  "bdONEbdSEVENbeIXbdTHREEbeWObdZEROaxLETTER AbfAbeCAbeDAbfLAbeEbfEbeFAbeGAbeHAbgHbeIbeKAbeLAbeMA",
  "bfLAbeNAbfCAbfKAbfPAbgLAbfQAbfRAbfTAbgSAbgXAbfYAbeObfObePAbfLAbeQAbeRAbfRAbeSAbeTAbfSAbfXAbeU",
  "beVAbeWbeXAbfYAbeYAbeZAayOGOGRAM NYAJaxSIGN FOR ANIMALbgINVERTEBRATEbgLOCATIONbgPERSONbgTHING",
  "bcXW XWayYLLABLE LENGTHENERaxTONE-BbcDbcGbcJbcMbcSbcVaaOBJECT REPLACEMENT CHARACTER",
  "acLIQUE ANGLE OPENING DOWNawUPaiHYPHENacSERVER EYE SYMBOLabCR AMOUNT OF CHECKaeBELT BUCKLE",
  "afOW TIEafRANCH BANK IDENTIFICATIONaeCHAIRafUSTOMER ACCOUNT NUMBERaeDASHafOUBLE BACKSLASHaeFORK",
  "aeHOOKaeINVERTED FORKacTAGONAL SIGNadOPUSabDENabFFICE BUILDINGabGHAM FEATHER MARKagLETTER AILM",
  "anBEITHanCEIRTaoOLLanDAIRanEABHADHapDHADHapMHANCHOLLanFEARNanGORTanIFINaoODHADHanLUISanMUIN",
  "anNGEADALaoIONanONNaoRanPEITHanRUISanSAILaoTRAIFanTINNEanUATHaoILLEANNaoRagREVERSED FEATHER MARK",
  "agSPACE MARKacONEKabHM SIGNabIL DRUMabK HAND SIGNabL CHIKI AHADajDIGIT EIGHTapFIVEaqOURapNINE",
  "apONEapSEVENaqIXapTHREEaqWOapZEROajGAAHLAA TTUDDAAGajLETTER AAJasKasMasWarGarLarNGarTaqEDDarNarP",
  "arRRaqIHarNYarRarSaqLAasAarEarIarOarUaqOBarHarTTarVaqUCarDarNNarYajMU TTUDDAGal-GAAHLAA TTUDDAAG",
  "ajPHAARKAAakUNCTUATION DOUBLE MUCAADavMUCAADajRELAAacD CHINESE HOOK MARKamITERATION MARK",
  "aeHUNGARIAN CAPITAL LETTER AbeAbeKbeMBbeNDbdCLOSE EbdEbeBbeCbfHbfSbeDbeEbeFbeGbfYbeHbeJbeKbeLbfY",
  "beMbfPbeNbfCbfTbg-SHAPED SIGNbfYbePbeRbeSbfZbeTbfYbeVbeZbfSbdIbeIbdNIKOLSBURG OEboUEbdObeEEbeO",
  "bdRUDIMENTA OEbnUEbdSHORT ERbdUbeNKbeSbeUaoNUMBER FIFTYaxVEavONEay HUNDREDazTHOUSANDavTEN",
  "aoSMALL LETTER AbcAbcKbcMBbcNDbbCLOSE EbbEbcBbcCbdHbdSbcDbcEbcFbcGbdYbcHbcJbcKbcLbdYbcMbdPbcNbdC",
  "bdTbe-SHAPED SIGNbdYbcPbcRbcSbdZbcTbdYbcVbcZbdSbbIbcIbbNIKOLSBURG OEbmUEbbObcEEbcObbRUDIMENTA OE",
  "blUEbbSHORT ERbbUbcNKbcSbcUaeITALIC LETTER AasBEasCHEasDEasEatFatKSatLatMatNatRauSatSauHauSasHE",
  "asIatIasKAatEatHEatUasNORTHERN TSEasOasPEatHEasSHEatOUTHERN TSEasTEatHEasUatUasVEasYEasZE",
  "alNUMERAL FIFTYavVEatONEatTENaeKEYaeNORTH ARABIAN LETTER AINbaLEFazBEHazDADbbLazES-1bc2bc3azFEH",
  "azGEEMbaHAINazHAHbaEHazKAFbaHAHazLAMazMEEMazNOONazQAFazREHazSADazTAHbaEHbaHALbbEHazWAWazYEHazZAH",
  "bbINasNUMBER ONEazTENbaWENTYaePERMIC LETTER ANasBURasCHERYasDOIatZHOIauITAasEatFasGAIasHAasIatA",
  "atEasKOKEasLEIasMENOEasNENOEasOatOasPEEIasREIasSHCHOOIauOOIatIIasTAIatSIUasUasVERatOOIasYAauT",
  "atERavIavUatRYatUasZATAatHOIahSIAN NUMBER HUNDREDatONEatTENauWENTYavOamSIGN AasURAMAZDAAbb-2bbHA",
  "arBAatGAasUUMISHarCAarDAatHYAAUSHba-2asIasUarFAarGAasUarHAarIarJAasIarKAasUarLAarMAasIasUarNAasU",
  "arPAarRAasUarSAasHAasSAarTAasHAasUarUarVAasIarXAasSHAAYATHIYAarYAarZAamWORD DIVIDER",
  "aiONAL COMPUTERaeSOGDIAN FRACTION ONE HALFamLETTER ALEPHavTERNATE AYINauYINatBETHatFINAL ALEPH",
  "azBETHazHEazNUNbc WITH VERTICAL TAILazSADHEbe WITH VERTICAL TAILazTAWbc WITH VERTICAL TAIL",
  "atGIMELatHEavTHatKAPHatLAMEDHatMEMatNUNatPEatRESH-AYIN-DALETHatSADHEavMEKHauHINatTAWatWAWatYODH",
  "atZAYINanIGATURE AYIN-DALETHamNUMBER FIVEauOURatONEaw HUNDREDatTENauHIRTYavREEauWENTYavO",
  "agUTH ARABIAN LETTER ALEFbaYNazBETHazDALETHbaHADHEbcLETHazFEazGHAYNbaIMELazHEbbTHazKAPHbaHETH",
  "azLAMEDHazMEMazNUNazQOPHazRESHazSADHEbbMEKHbbTbaHINazTAWbaETHbaHAWbbETHazWAWazYODHazZAYN",
  "asNUMBER FIFTYazONEavERIC INDICATORaeTURKIC LETTER ORKHON AbaBbaDbaEBbbDbbGbbKbbLbbNbbRbbSbbTbbY",
  "baGbaLbaNbaQbaRbaSbbHbaTbaYazBASHazECbaLTbaMbaNCbbGbbTbbYbaPbaSHbaZazIbaCbaQazObaEbbKbaPbaQbaT",
  "asYENISEI AbbBbbDbbEbcBbcGbcKbcNbdGbcTbcYbbGbbLbbNGbbQbbRbbSHbbTbbYbaEbbCbbNCbcTbcYbbSHbbZbaIbbQ",
  "baOEbcKbbQaeUYGHUR COMBINING DOT ABOVEazBELOWavTWO DOTS ABOVEbeBELOWalLETTER ALEPHasBETH",
  "asFINAL HETHasGIMEL-HETHasKAPHasLAMEDHatESHasMEMasNUNasPEasRESHasSADHEauMEKHatHINasTAWasWAW",
  "asYODHasZAYINalPUNCTUATION BARaxFOUR DOTSaxTWO BARSbbDOTSadER ADULTagMANagWOMANacIVEabM SYMBOL",
  "abN WITH EXCLAMATION MARK WITH LEFT RIGHT ARROW ABOVEacCOMING AUTOMOBILEajBUSajFIRE ENGINE",
  "ajPOLICE CARajTAXIacE BUTTON MOUSEaeDOT LEADERaiOVER TWO DOTS PUNCTUATIONad-PIECE SWIMSUITacION",
  "abPEN BOOKahXafCENTRE ASTERISKamBLACK STARamCROSSamTEARDROP-SPOKED ASTERISKafFILE FOLDERagOLDER",
  "afHANDS SIGNafLOCKafMAILBOX WITH LOWERED FLAGasRAISED FLAGafSUBSETahPERSET",
  "ae-CIRCUIT-OUTPUT H-TYPE SYMBOLauL-TYPE SYMBOLafOUTLINED RIGHTWARDS ARROWadRATING SYSTEM COMMAND",
  "acHIUCHUSacPOSITIONacTICAL DISCam ICONaeON KEYabR WITH DOT INSIDEacANGE BOOKahHEARTafUTAN",
  "acIGINAL OFadYA AI LENGTH MARKahU LENGTH MARKagDIGIT EIGHTamFIVEanOURamNINEamONEamSEVENanIX",
  "amTHREEanWOamZEROagFRACTION ONE EIGHTHatHALFatQUARTERatSIXTEENTHapTHREE QUARTERSavSIXTEENTHS",
  "agISSHARagLETTER AaoAaoIaoUanBAaoHAanCAaoHAanDAaoDAapHAaoHAanEanGAaoHAanHAanIaoIanJAaoHAanKAaoHA",
  "anLAaoLAanMAanNAaoGAaoNAaoYAanOanPAaoHAanRAaoHAaoRAanSAaoHAaoSAanTAaoHAaoTAapHAanUaoUanVA",
  "aoOCALIC LawLavRawRanWAanYAaoYAagSIGN ANUSVARAamVAGRAHAalCANDRABINDUalNUKTAalOVERLINEalVIRAMA",
  "anSARGAagVOWEL SIGN AAasIasUarEarIasIarOarUasUarVOCALIC LbaLazRbaRacNATE LEFT PARENTHESIS",
  "ahRIGHT PARENTHESISacTHODOX CROSSabSAGE CAPITAL LETTER AawHawIaxNavBRAavCHAavDHAavEawHCHAaxKA",
  "axPAaxTAaySAawINavGHAavHAawYAavIavKAawHAawYAavLAavMAavNAavOawINavPAavSAawHAavTAawSAaxHAavUavWA",
  "avZAawHAagSMALL LETTER AauHauIavNatBRAatCHAatDHAatEauHCHAavKAavPAavTAawSAauINatGHAatHAauYAatI",
  "atKAauHAauYAatLAatMAatNAatOauINatPAatSAauHAatTAauSAavHAatUatWAatZAauHAacCacMANYA DIGIT EIGHT",
  "aoFIVEapOURaoNINEaoONEaoSEVENapIXaoTHREEapWOaoZEROaiLETTER AaqAaqLEFapBAapCAYNapDEELaqHAapEaqE",
  "apFAapGAapHAapIapJAapKAAFaqHAapLAANapMIINapNUUNapOaqOapQAAFapRAapSAaqHIINapTAapUapWAWapXAapYA",
  "abTTERadOMAN SIYAQ ALTERNATE NUMBER EIGHTbfFIVEbgOURbj HUNDREDbfNINEbfSEVENbgIXbi HUNDREDbfTEN",
  "bi THOUSANDbgHREEbgWObi THOUSANDaoFRACTION ONE HALFbbSIXTHaoMARRATANaoNUMBER EIGHTba HUNDRED",
  "bbTHOUSANDbaYbb THOUSANDavFIFTYba THOUSANDaxVEaz HUNDREDbaTHOUSANDawORTYba THOUSANDaxUR",
  "az HUNDREDbaTHOUSANDavNINEaz HUNDREDbaTHOUSANDazTYbb THOUSANDavONEay HUNDREDazTHOUSANDavSEVEN",
  "ba HUNDREDbbTHOUSANDbaTYbc THOUSANDawIXay HUNDREDazTHOUSANDayTYba THOUSANDavTENay THOUSAND",
  "awHIRTYbb THOUSANDaxREEba HUNDREDbbTHOUSANDawWENTYbb THOUSANDaxOay HUNDREDazTHOUSANDabUNCE SIGN",
  "acTBOX TRAYadLINED BLACK STARajGREEK CROSSajLATIN CROSSajWHITE STARabVERHEATED FACEaeLAP",
  "ahPING BLACK SQUARESamWHITE AND BLACK SQUARESasSQUARESafINEabWLabXabYSTERaaPACKAGEacD",
  "adDING CHARACTERacGEae FACING UPafWITH CIRCLED TEXTalURLaeRaeSadODAacHAWH HMONG CLAN SIGN FAJ",
  "axHAMazWJaxKHABayOOayWMaxLAUJayISaxMUASaxPHABaxTHOJaySABazHEEJazWBaxVAJayWJaxXYOOJaxYAJayEEG",
  "aoONSONANT AUaxCAUayHAUaxHAUayLAUayNAUaxLAUaxMAUaxNAUayCHAUayKAUayLAUayTHAUazSAUaxPLHAUaxQHAU",
  "axRAUaxVAUaxXAUaxYAUanDIGIT EIGHTatFIVEauOURatNINEatONEatSEVENauIXatTHREEauWOatZERO",
  "anMARK CIM HOMawKESaxHAVawSOaxUAMawTAUMaxUBanNUMBER HUNDRED MILLIONSbbSauMILLIONSauTEN BILLIONS",
  "ayTHOUSANDSaxSavRILLIONSanSIGN AVasCIM CHEEMaxUAM TSHOOJawHAIS LUS NTOG NTOGawNRES TOSawPUB DAWB",
  "awTSOV ROGaxXWVba CHWVasHLIatNUBasIB YAMasLOSasMEEJ SUABaxTSEEBatUSasNQIGatTUJasTAU",
  "atHIRD-STAGE HLIatXHEEJ CEEVasVOS FEEMawLUBawNRUAawSEEVawTHIABayOMaxSHAB CEEBasXAUSatIAB",
  "atYEEM FAIBayNTXIVayRHOayTOVauOOasZWJ THAJanVOWEL KAABawVavBavIBawVavUBawVavVavWBawVauEBavEBawV",
  "avVauIABawVavBavVauOBavOBawVavVauUABawVavBavVauWBavVacLLASadM BRANCHafDOWN HANDafTREEafUP HAND",
  "aeS UP TOGETHERaeYRENE LEFT-POINTING FLEURONamTTER ALEPHasYINarBETHarDALETHarFINAL NUNarGIMEL",
  "arHEatTHarKAPHarLAMEDHarMEMarNUNarPEarQOPHarRESHarSADHEatMEKHasHINarTAWasETHarWAWarYODHarZAYIN",
  "akNUMBER FIVEasOURarONEarTENasHREEasWENTYatOakRIGHT-POINTING FLEURONacNCAKESadDA FACEacPERCLIP",
  "acRACHUTEaeGRAPH SEPARATORajOSajUS MARKaeLLEL TOajWITH HORIZONTAL STROKEaoTILDE OPERATOR",
  "adENTHESIZED DIGIT EIGHTauFIVEavOURauNINEauONEauSEVENavIXauTHREEavWOaoHANGUL CHIEUCHbc AawIEUC",
  "ba AbbUavHIEUHba AavIEUNGba AavKHIEUKHbc AawIYEOKbb AavMIEUMba AavNIEUNba AavPHIEUPHbc AawIEUP",
  "ba AavRIEULba AavSIOSaz AavTHIEUTHbc AawIKEUTbb AaoIDEOGRAPH ALLIANCEayCALLazONGRATULATION",
  "ayEARTHazIGHTazNTERPRISEayFESTIVALazINANCIALbaREbaVEazOURayHAVEayLABORayMETALazOONayNAMEazINE",
  "ayONEayREACHbaPRESENTbaSOURCEbbTaySELFbaVENazIXazOCIETYazPECIALazTOCKbaUDYazUNbaPERVISEayTEN",
  "azHREEazWOayWATERazOODaoKOREAN CHARACTER O HUbgJEONaoLATIN CAPITAL LETTER AbjBbjCbjDbjEbjFbjGbjH",
  "bjIbjJbjKbjLbjMbjNbjObjPbjQbjRbjSbjTbjUbjVbjWbjXbjYbjZauSMALL LETTER AbhBbhCbhDbhEbhFbhGbhHbhI",
  "bhJbhKbhLbhMbhNbhObhPbhQbhRbhSbhTbhUbhVbhWbhXbhYbhZaoNUMBER EIGHTEENawLEVENavFIFTEENawOURTEEN",
  "avNINETEENavSEVENTEENawIXTEENavTENawHIRTEENawWELVEayNTYadROTadT ALTERNATION MARK",
  "aeIAL DIFFERENTIALaiLINE BACKWARDanDOWNanFORWARDanUPahLY-RECYCLED PAPER SYMBOLaeNERSHIP SIGN",
  "aeY POPPERacSSED SYMBOLafNGER SHIPaeIVE-PULL-DOWN-OUTPUT SYMBOLanUP-OUTPUT SYMBOLaePORT CONTROL",
  "acU CIN HAU GLOTTAL STOPay FINALazVARIANTamLETTER AatBAatCAauHAatDAatEatFAauINAL KazLazMazNbaG",
  "azPazTazWazYatGAatHAatIauAatKAauHAatLAatMAatNAauGAatOatPAauHAatRAatSAatTAauHAatUauAatVAatZA",
  "anOW-FALLING TONEbc FINALbdLONGbh FINALamMID-LEVEL TONEba FINALbbLONG FINALamRISING TONEax FINAL",
  "ayLONGbc FINALamSANDHI GLOTTAL STOPbf FINALatTONEax FINALayLONGbc FINALacW PRINTSabDFacI",
  "abEACE SYMBOLaeHaeOCKadNUTSadRacDESTRIANacN OVER STAMPED ENVELOPEadCILadGUINadSIVE FACEadTAGRAM",
  "acOPLE HUGGINGacR MILLE SIGNaeSIGNaeTEN THOUSAND SIGNadCENT SIGNadFORMING ARTS",
  "adMANENT PAPER SIGNadPENDICULARan WITH SadSEVERING FACEaeON BOWING DEEPLYahCLIMBING",
  "ahDOING CARTWHEELahFROWNINGahIN LOTUS POSITIONakSTEAMY ROOMahRAISING BOTH HANDS IN CELEBRATION",
  "ahWITH BALLanLOND HAIRamCROWNamFOLDED HANDSamHEADSCARFamPOUTING FACEagAL COMPUTERaePECTIVE",
  "acSETA SIGNadO SIGNacTRI DISHabHAGS-PA DOUBLE HEAD MARKajLETTER AarLTERNATE YAarSPIRATED FAaqBA",
  "aqCAasNDRABINDUarHAaqDAarDAarZAaqEarEaqFAaqGAarGAaqHAaqIaqJAaqKAarHAaqLAaqMAaqNAarGAarNAarYAaqO",
  "aqPAarHAaqQAaqRAaqSAarHAarMALL AaqTAarHAarSAasHAarTAasHAaqUaqVOICED HAavLESS SHAaqWAaqXAaqYAaqZA",
  "arHAajMARK DOUBLE SHADaoSHADajSINGLE HEAD MARKakUBJOINED LETTER RAbaWAbaYAalPERFIXED LETTER RA",
  "adISTOS DISC SIGN ARROWatBEEawHIVEauOOMERANGavWauULLS LEGatCAPTIVEavRPENTRY PLANEavTauHILDauLUB",
  "auOLUMNavMBaxINING OBLIQUE STROKEatDOLIUMavVEatEAGLEatFLUTEatGAUNTLETauRATERatHELMETauIDEauORN",
  "atLIDavLYatMANACLESavTTOCKatOX BACKatPAPYRUSauEDESTRIANauLANE TREEavUMED HEADatRAMauOSETTEatSAW",
  "auHIELDawPauLINGauMALL AXEauTRAINERatTATTOOED HEADauIARAauUNNYatVINEatWAVY BANDauOMAN",
  "acILIPPINE DOUBLE PUNCTUATIONalSINGLE PUNCTUATIONacOENICIAN LETTER AINatLFasBETasDELTasGAMLasHE",
  "auTasKAFasLAMDasMEMasNUNasPEasQOFasROSHasSADEatEMKatHINasTAUatETasWAUasYODasZAIalNUMBER ONE",
  "av HUNDREDasTENatHREEatWENTYauOalWORD SEPARATORadLUSabICKaeUP TRUCKacEacGad FACEaeNOSE",
  "acLCROW SIGNadE OF POOadLacNATAadCHED FINGERSafING HANDadE DECORATIONaeAPPLEadWHEEL STARacSCES",
  "adTOLacTCHFORKaj WITH TEE TOPabLACARDaeE OF INTEREST SIGNajWORSHIPadNCK CONSTANTap OVER TWO PI",
  "adYGROUND SLIDEaeING CARD ACE OF CLUBSauDIAMONDSauHEARTSauSPADESanBACKaoLACK JOKER",
  "anEIGHT OF CLUBSawDIAMONDSawHEARTSawSPADESanFIVE OF CLUBSavDIAMONDSavHEARTSavSPADESaoOOL",
  "apUR OF CLUBSavDIAMONDSavHEARTSavSPADESanJACK OF CLUBSavDIAMONDSavHEARTSavSPADESanKING OF CLUBS",
  "avDIAMONDSavHEARTSavSPADESaoNIGHT OF CLUBSaxDIAMONDSaxHEARTSaxSPADESanNINE OF CLUBSavDIAMONDS",
  "avHEARTSavSPADESanQUEEN OF CLUBSawDIAMONDSawHEARTSawSPADESanRED JOKERanSEVEN OF CLUBSawDIAMONDS",
  "awHEARTSawSPADESaoIX OF CLUBSauDIAMONDSauHEARTSauSPADESanTEN OF CLUBSauDIAMONDSauHEARTSauSPADES",
  "aoHREE OF CLUBSawDIAMONDSawHEARTSawSPADESaoRUMP-1au0au1au2au3au4au5au6au7au8au9at2au0au1at3at4",
  "at5at6at7at8at9aoWO OF CLUBSauDIAMONDSauHEARTSauSPADESanWHITE JOKERacDacUadNGERadS SIGN",
  "aj ABOVE EQUALS SIGNakIN LEFT HALF CIRCLEanRIGHT HALF CIRCLEanTRIANGLEakWITH BLACK TRIANGLE",
  "apCIRCUMFLEX ACCENT ABOVEapDOT BELOWapSMALL CIRCLE ABOVEaqUBSCRIPT TWOapTILDE ABOVEavBELOW",
  "ae-MINUS SIGNadTOaf FORM FIVEamOURalTHREEamWOabMabOCKET CALCULATORacLICE CARakS REVOLVING LIGHT",
  "ahOFFICERacODLEacP DIRECTIONAL FORMATTINGaqISOLATEadCORNacRTABLE STEREOacSEIDONadITION INDICATOR",
  "adTAL HORNahMARKal FACEaeBOXacT OF FOODadABLE WATER SYMBOLaeTOadTED PLANTacUCHadLTRY LEG",
  "adND SIGNadRING LIQUIDadTING CAT FACEaiFACEacWER ON SYMBOLai-OFF SYMBOLagSLEEP SYMBOLahYMBOL",
  "abRAYER BEADSacECEDESai ABOVE ALMOST EQUAL TOapEQUALS SIGNapNOT ALMOST EQUAL TOatEQUAL TO",
  "apSINGLE-LINE EQUALS SIGNbbNOT EQUAL TOajBUT NOT EQUIVALENT TOajOR EQUAL TOapIVALENT TO",
  "ajUNDER RELATIONadGNANT MANajPERSONajWOMANadSCRIPTION TAKEaeENTATION FORM FOR VERTICAL COLON",
  "bhMMAbfEM DASHbgN DASHbgXCLAMATION MARKbfHORIZONTAL ELLIPSISbfIDEOGRAPHIC COMMAbrFULL STOP",
  "bfLEFT ANGLE BRACKETbkBLACK LENTICULAR BRACKETbkCORNER BRACKETblURLY BRACKET",
  "bkDOUBLE ANGLE BRACKETbkPARENTHESISbkSQUARE BRACKETbkTORTOISE SHELL BRACKET",
  "bkWHITE CORNER BRACKETbqLENTICULAR BRACKETbgOW LINEbfQUESTION MARKbfRIGHT ANGLE BRACKET",
  "blBLACK LENTICULAR BRACKETblCORNER BRACKETbmURLY BRACKETblDOUBLE ANGLE BRACKETblPARENTHESIS",
  "blSQUARE BRACKETblTORTOISE SHELL BRACKETblWHITE CORNER BRACKETbrLENTICULAR BRACKETcfKCET",
  "bfSEMICOLONbfTWO DOT LEADERbfWAVY LOW LINEadTZELadVIOUS PAGEacIMEadNCEagSSaeT SCREEN SYMBOLafER",
  "ah ICONadVACY MESSAGEafTE USE ONEamTWOal-1am2acOBING CANEadHIBITED SIGNadJECTIVEadPERTY LINE",
  "aeORTIONakAL TOadSERPINAabSALTER PAHLAVI FOUR DOTS WITH CROSSbfDOTaqLETTER ALEPHaxBETHaxDALETH",
  "axGIMELaxHEazTHaxKAPHaxLAMEDHaxMEM-QOPHaxNUNaxPEaxSADHEazMEKHayHINaxTAWaxWAW-AYIN-RESHaxYODH",
  "axZAYINaqNUMBER FOURaxONEba HUNDREDaxTENayHREEayWENTYazOaqSECTION MARKaqTURNED SECTION MARKabU1",
  "ac2acBLIC ADDRESS LOUDSPEAKERacNCTUATION SPACEagS ELEVATUS MARKacRPLE HEARTadSEacSHPIN",
  "acT LITTER IN ITS PLACE SYMBOLaaQUADRANT LOWER LEFTapRIGHTajUPPER LEFT",
  "at AND LOWER LEFT AND LOWER RIGHTbeRIGHTayUPPER RIGHT AND LOWER LEFTbuRIGHTapRIGHT",
  "au AND LOWER LEFTbj AND LOWER RIGHTafUPLE INTEGRAL OPERATORakPRIMEadRTER NOTE",
  "adTERNION INTEGRAL OPERATORacESTION EXCLAMATION MARKajMARKaiED EQUAL TOacINCUNXacOTATION MARK",
  "aaRABBITag FACEacCCOONadING CARahMOTORCYCLEacDICAL SYMBOL BOTTOMaeOaf BUTTONafACTIVE SIGN",
  "acILWAY CARaiTRACKadNaeBOWadSED BACK OF HANDahCOMMAahDOTakTED INTERPOLATION MARKERahFISTahHAND",
  "al WITH FINGERS SPLAYEDarPART BETWEEN MIDDLE AND RING FINGERSahINTERPOLATION MARKERahMC SIGN",
  "aiD SIGNaiR SIGNahSQUAREacMacTadIOacZORabECEIPTadORD SEPARATORadREATIONAL VEHICLE",
  "adYCLED PAPER SYMBOLagING SYMBOL FOR GENERIC MATERIALSavTYPE-1 PLASTICSba2 PLASTICSba3 PLASTICS",
  "ba4 PLASTICSba5 PLASTICSba6 PLASTICSba7 PLASTICSacD APPLEaeGIFT ENVELOPEacFERENCE MARK",
  "acGIONAL INDICATOR SYMBOL LETTER AbhBbhCbhDbhEbhFbhGbhHbhIbhJbhKbhLbhMbhNbhObhPbhQbhRbhSbhTbhU",
  "bhVbhWbhXbhYbhZaeSTERED SIGNacJANG CONSONANT SIGN HawNaxGawRahLETTER AaoBAaoCAaoDAaoGAaoHAaoJA",
  "aoKAaoLAaoMAapBAaoNAapDAapGAaqGAapYAaqJAaoPAaoRAaoSAaoTAaoWAaoYAahSECTION MARKahVIRAMA",
  "aiOWEL SIGN AIatUasEatAatUasIasOasUacLIEVED FACEacMINDER RIBBONacPLACEMENT CHARACTERacSPONSE",
  "adTRICTED LEFT ENTRY-1aw2afOOMacTURN LEFTahRIGHTahSYMBOLacVERSE CHECKER BOARDaiINDEX",
  "aiLIGHT FOUR POINTED PINWHEEL STARakNE FEEDaiSOLIDUSap OPERATORaqPRECEDING SUBSET",
  "aqWITH HORIZONTAL STROKEaiTILDE OPERATOR ABOVE LEFTWARDS ARROWbdRIGHTWARDS ARROWahD ANGLE",
  "ao WITH UNDERBARajCOMMAajDOUBLE PRIMEav QUOTATION MARKaqSTROKE NOT SIGNajEMPTY SET",
  "ajFORKED PARAGRAPHOSajHAND WITH MIDDLE FINGER EXTENDEDajNOT SIGNajPILCROW SIGNakRIME",
  "ajQUESTION MARKajRAISED HAND WITH FINGERS SPLAYEDakIGHT ANGLEakOTATED FLORAL HEART BULLET",
  "ajSANS-SERIF CAPITAL LakEMICOLONajTHUMBS DOWN SIGNaqUP SIGNakILDEao EQUALSakRIPLE PRIME",
  "ajVICTORY HANDadOLVING HEARTSabHINOCEROSabIacAL SIGNacBBONag ARROW DOWN LEFTasRIGHTanLEFT DOWN",
  "asUPanRIGHT DOWNatUPanUP LEFTaqRIGHTacCE BALLafCRACKERacFLEacGHT AND LOWER ONE EIGHTH BLOCK",
  "akUPPER ONE EIGHTH BLOCKaiGER BUBBLEajLEal BRACKETat WITH DOTamDOTTED SUBSTITUTION MARKER",
  "amSUBSTITUTION MARKERamVARIANT WITH SQUAREamWITH ARCarDOWNWARDS ZIGZAG ARROW",
  "ahRC GREATER-THAN BRACKETaiROW WITH CIRCLED PLUSarSMALL CIRCLEagBLACK LENTICULAR BRACKET",
  "amTORTOISE SHELL BRACKETagCEILINGahORNER BRACKETahURLY BRACKETat LOWER HOOKauMIDDLE PIECE",
  "auUPPER HOOKagDOTTED SUBSTITUTION BRACKETaiUBLE ANGLE BRACKETaoRROW WITH ROUNDED HEAD",
  "anPARENTHESISanQUOTATION MARKanWIGGLY FENCEagFISH TAILaiVE EIGHTHS BLOCKahLOOR",
  "agHALF BLACK CIRCLEarSTARanOCKalFOLDERalMEDIUM SHADEalRUNNING MANaiND TELEPHONE RECEIVER",
  "agLOW PARAPHRASE BRACKETagNORMAL FACTOR SEMIDIRECT PRODUCTagONE EIGHTH BLOCKakQUARTER BLOCK",
  "ahPEN SQUARED DOTahUTER JOINagPARENTHESISar EXTENSIONasLOWER HOOKasUPPER HOOK",
  "agRAISED OMISSION BRACKETagS-SHAPED BAG DELIMITERahEMIDIRECT PRODUCTaiVEN EIGHTHS BLOCK",
  "ahIDEWAYS U BRACKETaiNGLE QUOTATION MARKahPEAKERan WITH ONE SOUND WAVEatTHREE SOUND WAVES",
  "ajECH BUBBLEahQUARE BRACKETau EXTENSIONavLOWER CORNERavUPPER CORNERavWITH DOUBLE STROKEbaQUILL",
  "baSTROKEbaTICK IN BOTTOM CORNERbiTOP CORNERbaUNDERBARahUBSTITUTION BRACKETagTACK",
  "ahHIRD WHITE RIGHT POINTING INDEXaiOUGHT BUBBLEaiREE EIGHTHS BLOCKamQUARTERS BLOCK",
  "ahORTOISE SHELL BRACKETahRANSPOSITION BRACKETaiIANGLEao ABOVE LEFT TRIANGLE",
  "amULAR ONE QUARTER BLOCKagVERTICAL BAR WITH QUILLaqOX LINEagWHITE CORNER BRACKETanURLY BRACKET",
  "amLENTICULAR BRACKETamPARENTHESISamSQUARE BRACKETamTORTOISE SHELL BRACKETahIGGLY FENCE",
  "af-FACING ARMENIAN ETERNITY SIGNanFISTanSVASTI SIGNay WITH DOTSagHANDED INTERLACED PENTAGRAM",
  "agPOINTING ANGLE BRACKETapCURVED ANGLE BRACKETapDOUBLE ANGLE QUOTATION MARKapMAGNIFYING GLASS",
  "agSHADED WHITE RIGHTWARDS ARROWahIDE ARC CLOCKWISE ARROWagTO-LEFT EMBEDDINGaoISOLATEaoMARK",
  "aoOVERRIDEafHAND INTERIOR PRODUCTafWARDS ARROWaq ABOVE ALMOST EQUAL TOaxREVERSE ALMOST EQUAL TO",
  "bfTILDE OPERATORaxSHORT LEFTWARDS ARROWaxTILDE OPERATORasND UPPER AND LOWER ONE EIGHTH BLOCK",
  "arFROM BARaz TO BLACK DIAMONDarOVER LEFTWARDS ARROWarTHROUGH GREATER-THANazSUPERSETazXasO BAR",
  "avLACK DIAMONDarWITH CORNER DOWNWARDSawDOTTED STEMayUBLE VERTICAL STROKEawEQUILATERAL ARROWHEAD",
  "awHOOKawLARGE TRIANGLE ARROWHEADaxOOPawMEDIUM TRIANGLE ARROWHEADawNOTCHED TAILawPLUS BELOW",
  "awSMALL EQUILATERAL ARROWHEADbcTRIANGLE ARROWHEADaxTROKEawTAILba WITH DOUBLE VERTICAL STROKE",
  "bgVERTICAL STROKEaxIP DOWNWARDSbaUPWARDSawVERTICAL STROKEaq-TAIL",
  "alBACK-TILTED SHADOWED WHITE ARROWamLACK ARROWarCIRCLED WHITE ARROWamOTTOM SHADED WHITE ARROW",
  "alCOMPRESSED ARROWalDASHED ARROWamOUBLE ARROWax FROM BARayWITH STROKEbdVERTICAL STROKEax-TAIL",
  "asDASH ARROWalFINGER-POST ARROWamRONT-TILTED SHADOWED WHITE ARROWalHAND",
  "anRPOON OVER LEFTWARDS HARPOONatWITH BARB DOWN ABOVE LEFTWARDS HARPOON WITH BARB DOWN",
  "biBELOW LONG DASHbiFROM BARbiTO BARbhWARDSbdUP ABOVE LEFTWARDS HARPOON WITH BARB UPbnONG DASH",
  "bmRIGHTWARDS HARPOON WITH BARB DOWNbgFROM BARbgTO BARbfWARDSamEAVY ARROWarCOMPRESSED ARROW",
  "alLEFT-SHADED WHITE ARROWalOPEN-HEADED ARROWalPAIRED ARROWSalQUADRUPLE ARROW",
  "alRIGHT-SHADED WHITE ARROWamOCKETalSANS-SERIF ARROWamQUARED ARROWaoIGGLE ARROW",
  "alTOP SHADED WHITE ARROWamRIANGLE ARROWHEADat-HEADED ARROW",
  "bg OVER LEFTWARDS TRIANGLE-HEADED ARROWbhTO BARbhWITH BOLD SHAFTbmDOUBLE HORIZONTAL STROKE",
  "btVERTICAL STROKEbmHEAVY SHAFTbmLONG TIP DOWNWARDSbvUPWARDSbmMEDIUM SHAFTbmNARROW SHAFT",
  "bmVERY HEAVY SHAFTbbDASHED ARROWbbPAIRED ARROWSaoPLE ARROWasDASH ARROWamWO HEADED ARROW",
  "ao-HEADED ARROW FROM BARbcWITH DOUBLE VERTICAL STROKEbhTAILbl WITH DOUBLE VERTICAL STROKE",
  "brVERTICAL STROKEbiRIANGLE ARROWHEADSbhVERTICAL STROKEawTRIPLE DASH ARROWalWAVE ARROW",
  "amHITE ARROWaw FROM WALLaxWITHIN TRIANGLE ARROWHEADacNGae ABOVEafBUOYafEQUAL TOafIN EQUAL TO",
  "afOPERATORafPOINTaeED PLANETaeING BELLacSING DIAGONAL CROSSING FALLING DIAGONAL",
  "azSOUTH EAST ARROWabLEacIacMacOabOASTED SWEET POTATOacBOT FACEacCKaeETacLL OF PAPER",
  "aeED-UP NEWSPAPERafR COASTERahSKATEaeING ON THE FLOOR LAUGHINGacMAN AS SIGNagCENTURIAL SIGN",
  "agDENARIUS SIGNahIMIDIA SEXTULA SIGNahUPONDIUS SIGNagNUMERAL EIGHTapLEVENaoFIFTYat EARLY FORM",
  "auTHOUSANDaqVEas HUNDREDatTHOUSANDapOURaoNINEaoONEar HUNDREDaz THOUSANDasTHOUSANDba C D",
  "aoREVERSED ONE HUNDREDaoSEVENapIXar LATE FORMaoTENar THOUSANDapHREEapWELVEaqOagQUINARIUS SIGN",
  "agSEMUNCIA SIGNaiSTERTIUS SIGNaiXTANS SIGNakULA SIGNahILIQUA SIGNagUNCIA SIGNacOSTERacSEaeTTE",
  "acTATED CAPITAL QaiFLORAL HEART BULLETaiHEAVY BLACK HEART BULLETaiLIGHT FOUR POINTED BLACK CUSP",
  "aiWHITE FOUR POINTED CUSPacUND PUSHPINagTARGETafED SYMBOL FOR CAIatFUatLUatSHOUavUANGXIatXI",
  "acWBOATabSabUBLE SIGNacGBY FOOTBALLacLE-DELAYEDacMI DIGIT EIGHTalFIVEamOURalNINEalONEalSEVENamIX",
  "alTHREEamWOafFRACTION ONE HALFasQUARTERasTHIRDaoTWO THIRDSafNUMBER EIGHT HUNDREDarYamFIFTY",
  "aoVE HUNDREDanORTYaoUR HUNDREDamNINE HUNDREDaqTYamONE HUNDREDamSEVEN HUNDREDarTYanIX HUNDREDapTY",
  "amTENanHIRTYaoREE HUNDREDanWENTYaoO HUNDREDacNIC ARLAUG SYMBOLagBELGTHOR SYMBOL",
  "agCROSS PUNCTUATIONagLETTER AC AaoESCaoLGIZ EOLHXaoNSUZ AanBERKANAN BEORC BJARKAN BanCaoALC",
  "aoEALCapNaoWEORTHanDaoAGAZ DAEG DaoOTTED-LauNauPanEaoARaoHWAZ EH EaoNGaoTHanFEHU FEOH FE F",
  "aoRANKS CASKET ACbcESCbbEHbbISbbOSanGaoARaoEBO GYFU GapRanHAEGL HapGLAZ HanICELANDIC-YRaoNGaqWAZ",
  "aoORaoSAZ IS ISS IaoWAZ EOHanJERAN JanKaoAUN KarAanLAUKAZ LAGU LOGR LaoONG-BRANCH-AR AE",
  "azHAGALL HazMADR MazOSS OazYRanMANNAZ MAN ManNAUDIZ NYD NAUD NanOaoEaoNaoOaoPEN-PaoS O",
  "aoTHALAN ETHEL OanPERTHO PEORTH PanQanRAIDO RAD REID RanSHapORT-TWIG-AR AayBJARKAN BayHAGALL H",
  "ayMADR MayNAUD NayOSS OaySOL SayTYR TayYRaoIGEL LONG-BRANCH-SOL SaoOWILO SaoTAN",
  "anTHURISAZ THURS THORNaoIWAZ TIR TYR TanURUZ UR UanVanWaoUNJO WYNN WanXanYaoRanZ",
  "agMULTIPLE PUNCTUATIONagSINGLE PUNCTUATIONagTVIMADUR SYMBOLadNERaeING SHIRT WITH SASHacPEE SIGN",
  "acSSIAN ASTROLOGICAL SYMBOL BINOVILEbcNOVILEbcQUINTILEbcSENTAGONbcTREDECILEbcVIGINTILE",
  "aaS IN TRIANGLEabAFETY PINahVESTacGITTARIUSacILBOATacKE BOTTLE AND CUPacLT SHAKERaeIRE",
  "adUTING FACEacMARITAN ABBREVIATION MARKakLETTER ALAFarBAAasITarDALATarFIarGAMANarINasTasYarKAAF",
  "arLABATarMIMarNUNarQUFarRISHarSHANasINGAATarTAAFasITasSAADIYarYUTarZENakMARK DAGESH",
  "apEPENTHETIC YUTapINar-ALAFapNEQUDAAapOCCLUSIONalODIFIER LETTER EPENTHETIC YUTbaIbaSHORT A",
  "akPUNCTUATION AFSAAQaxNGEDayNAAUaxRKAANUaxTMAAUawBAUawMELODIC QITSAawNEQUDAAawQITSAawSHIYYAALAA",
  "axOF MASHFAATawTURUawZAEFaxIQAAakVOWEL SIGN AawAavEavIavLONG AbbAbaEbaIbaUavOawVERLONG AbfA",
  "avSHORT AawUKUNavUacNDWICHadS-SERIF HEAVY DOUBLE COMMA QUOTATION MARK ORNAMENT",
  "ayTURNED COMMA QUOTATION MARK ORNAMENTarLOW DOUBLE COMMA QUOTATION MARK ORNAMENT",
  "alINTERROBANG ORNAMENTacRIacTELLITEaj ANTENNAadURNacURASHTRA CONSONANT SIGN HAARUalDANDA",
  "amIGIT EIGHTarFIVEasOURarNINEarONEarSEVENasIXarTHREEasWOarZEROamOUBLE DANDAalLETTER AatAatIatU",
  "asBAatHAasCAatHAasDAatDAauHAatHAasEatEasGAatHAasHAasIatIasJAatHAasKAatHAasLAatLAasMAasNAatGAatNA",
  "atYAasOatOasPAatHAasRAasSAatHAatSAasTAatHAatTAauHAasUatUasVAatOCALIC LbbLbaRbbRasYA",
  "alSIGN ANUSVARAaqCANDRABINDUaqVIRAMAasSARGAalVOWEL SIGN AAaxIaxUawEaxEawIaxIawOaxOawUaxU",
  "awVOCALIC LbfLbeRbfRaeOPODacXOPHONEabCALESadRFacHOOLag SATCHELacIacOOTERadRPIONagUSacREEN",
  "aeWDRIVERadIPT CAPITAL BapEapFapHapIapLapMapPapRahLIGATURE ET ORNAMENTahSMALL EanGanLanOadOLL",
  "adUPLEabEALadTacCOND PLACE MEDALadTION SIGNaeORacDNAacE-NO-EVIL MONKEYadDLINGacGMENT",
  "ahED DIGIT EIGHTaqFIVEarOURaqNINEaqONEaqSEVENarIXaqTHREEarWOaqZEROacLFIEacMICOLON",
  "aeDIRECT PRODUCT WITH BOTTOM CLOSEDaeSEXTILEacPARATED SYMBOL",
  "acRIOUS FACE WITH SYMBOLS COVERING MOUTHadVICE MARKacSAME DOTadQUIQUADRATEacT MINUS",
  "aeTRANSMIT STATEacWING NEEDLEacXTILEabGCabHADOWED WHITE CIRCLEapLATIN CROSSapSTAR",
  "adLLOW PAN OF FOODadMROCKadRADA ABBREVIATION SIGNaiCONTINUATION SIGNaiDANDAajIGIT EIGHTaoFIVE",
  "apOURaoNINEaoONEaoSEVENapIXaoTHREEapWOaoZEROajOUBLE DANDAaiEKAMajXTRA SHORT VOWEL MARK",
  "aiHEADSTROKEaiLETTER AaqAaqIaqUapBAaqHAapCAaqHAapDAaqDAarHAaqHAapEapGAaqHAapHAapIaqIapJAaqHAapKA",
  "aqHAapLAaqLAapMAapNAaqGAaqNAaqYAapOapPAaqHAapRAapSAaqHAaqSAapTAaqHAaqTAarHAapUaqUapVAaqOCALIC L",
  "ayLaxRayRapYAaiOMaiSANDHI MARKajECTION MARK-1av2akPARATORajIGN ANUSVARAaoVAGRAHAanCANDRABINDU",
  "anINVERTED CANDRABINDUanJIHVAMULIYAanNUKTAanSIDDHAManUPADHMANIYAanVIRAMAapSARGAajUTRA MARK",
  "aiVOWEL MODIFIER MARKaoSIGN AAauIauUatEatIauIatOatPRISHTHAMATRA EatUauUatVOCALIC LbcLbbRbcRaeK",
  "adVED ICEaeIAN LETTER ADOaqGEaqHaqIRaqREarRAYaqSHaqWEapBIBapCHURCHapDEADapEARarTaqGGaqRRapFEE",
  "apGAGapHA-HAaqUNGapIANaqCEaqFapJUDGEapKICKapLOLLapMEASUREaqIMEapNUNapOAKaqILaqNaqOZEaqRaqUT",
  "apPEEPapROARapSOaqUREapTHEYarIGHaqOTapUPapVOWapWOEarOLapYEAarWapZOOacEEPacIELDadFT INagOUT",
  "adNTO SHRINEadPacOCKED FACE WITH EXPLODING HEADadOTING STARadPPING BAGSajTROLLEY",
  "adRT BACKSLANTED SOUTH ARROWahENT ARROW POINTING DOWNWARDS THEN NORTH EASTagDOWN TACK",
  "ap WITH OVERBARagLEFT TACKagRIGHTWARDS ARROW ABOVE LEFTWARDS ARROWagSLANTED NORTH ARROWagUP TACK",
  "an ABOVE SHORT DOWN TACKaoWITH UNDERBARafCAKEafHAND FORMAT CONTINUING OVERLAParDOWN STEP",
  "arLETTER OVERLAParUP STEPafSadULDERED OPEN BOXadWERacRIMPadUGacUFFLE PRODUCTacYabIacDDHAM DANDA",
  "ajOUBLE DANDAaiEND OF TEXT MARKaiLETTER AaqAaqIaqLTERNATE UaqUapBAaqHAapCAaqHAapDAaqDAarHAaqHA",
  "apEapGAaqHAapHAapIaqIapJAaqHAapKAaqHAapLAapMAapNAaqGAaqNAaqYAapOapPAaqHAapRAapSAaqHAaqSAapTAaqHA",
  "arREE-CIRCLE ALTERNATE IaqTAarHAaqWO-CIRCLE ALTERNATE IblIapUaqUapVAaqOCALIC LayLaxRayRapYA",
  "aiREPETITION MARK-1ay2ay3aiSECTION MARK DOUBLE RINGbg WITH RAYS",
  "avWITH CIRCLES AND FOUR ENCLOSURESbmRAYSbmTWO ENCLOSURESbaDOUBLE CRESCENTSbaQUADRUPLE CRESCENTS",
  "baRAYS AND DOTTED CRESCENTSbqDOUBLE CRESCENTSbqTRIPLE CRESCENTSbaSEPTUPLE CRESCENTS",
  "baTRIDENT AND DOTTED CRESCENTSbmU-SHAPED ORNAMENTSbdPLE CRESCENTSakPARATOR BARasDOT",
  "ajIGN ANUSVARAanCANDRABINDUanNUKTAanSIDDHAManVIRAMAapSARGAaiVOWEL SIGN AAauIauLTERNATE UbeUauU",
  "atEatIauIatOatUauUatVOCALIC RbcRadEWAYS BLACK DOWN POINTING INDEXapLEFT POINTING INDEX",
  "apRIGHT POINTING INDEXapUP POINTING INDEXajWHITE DOWN POINTING INDEXapLEFT POINTING INDEX",
  "apRIGHT POINTING INDEXapUP POINTING INDEXacGN OF THE HORNSaeWRITING AIR BLOW SMALL ROTATIONS",
  "auING OUTaqSUCK SMALL ROTATIONSauING INamBREATH EXHALEatINHALEaoUSH BETWEENasMULTIPLEasSINGLE",
  "amCHEEKS NEUTRALatPUFFEDatSUCKEDanOLONaoMMAamDREAMY EYEBROWS DOWN NEUTRALbcNEUTRAL DOWNbkUP",
  "bcUP NEUTRALanYNAMIC ARROWHEAD LARGEbeSMALLauEVERY OTHER TIMEauFASTauGRADUALauRELAXED",
  "auSIMULTANEOUSbg ALTERNATINGavLOWauTENSEamEARSanXCITEMENTanYE BLINK MULTIPLEawSINGLEaqWINK",
  "apBROWS STRAIGHT DOWNbeNEUTRALbeUPapGAZE-FLOORPLANE CURVEDbfSTRAIGHTbn ALTERNATINGboDOUBLE",
  "auWALLPLANE CIRCLINGbfURVEDbeSTRAIGHTbm ALTERNATINGbnDOUBLEapLASHES DOWNawFLUTTERINGawUP",
  "apS CLOSEDarHALF CLOSEDawOPENarOPENarSQUEEZEDarWIDE OPENavNING MOVEMENT",
  "amFACE DIRECTION POSITION NOSE FORWARD TILTINGbpUP OR DOWNbz TILTINGanILL MODIFIER-2ba3ba4ba5ba6",
  "aoNGERanLICK LARGE MULTIPLEaySINGLEasSEQUENTIALatMALL MULTIPLEaySINGLE",
  "aoOORPLANE SHOULDER HIP MOVEanOREHEAD CONTACTavNEUTRALavWRINKLEDanULL STOPamGRASP BETWEEN",
  "asMULTIPLEasSINGLEamHAIRaoND-ANGLEaw INDEXbc MIDDLE LITTLEbkRINGbdRING LITTLEbo OUTbdTHUMBbi IN",
  "bjOUTaxLITTLE INDEXbj THUMB INDEX THUMBcb OUTbeUPaxMIDDLE RING LITTLEbp INbqOUT",
  "axRING DOWN MIDDLE THUMB INDEX CROSSbcLITTLEarCIRCLEax INDEXbd BENTbeHINGEbeMIDDLE",
  "bk CROSS LITTLEbqEDblLITTLEblRINGblTHUMBbeRING LITTLEayLITTLE INDEXbfUPayMIDDLE RING LITTLE",
  "bq BENTbfUPayRING LITTLEasLAWav FOUR FINGERS CONJOINEDawINDEX THUMB CURVE THUMB INSIDE",
  "awMIDDLE RING LITTLE CONJOINEDby SIDEawNO THUMBawTHUMB FORWARDbcSIDEasUPau FIVE FINGERS SPREAD",
  "bo OPENavINDEXba RING LITTLEbbTHUMBbg OPENavMIDDLE RING LITTLEavNO THUMBavOPENaz NO THUMB",
  "baTHUMB FORWARDbgSIDEavTHUMB FORWARDbbSIDEatRLICUEaz INDEX RING LITTLE ONbaMIDDLE RING LITTLE ON",
  "baOPENarFISTav FOUR FINGERS CONJOINED BENTawHEELawINDEXbb BENTbg OVER MIDDLEbcCUPPEDbcHINGED",
  "bi LOWbjMIDDLE UPbs THUMB SIDEbcMIDDLEbi BENTbn THUMB STRAIGHTbjCONJOINEDbs CUPPED",
  "bz THUMB FORWARDbtHINGEDbz THUMB SIDEbtINDEX BENTbtMIDDLE BENTbtTHUMB FORWARDbzSIDEcd BENT",
  "ceCONJOINEDbkROSS LITTLEboEDbq THUMB SIDEbjHINGEDbp SPREAD THUMB SIDEbjLITTLEbjRAISED KNUCKLES",
  "bkINGbn BENTboCONJOINEDbjSTRAIGHT THUMB BENTbjTHUMBbo ANGLEDbv OUTbpBENTbpCIRCLED",
  "bqONJOINED HINGEDbqUPPEDbpHINGEDbqOOKEDbjUP SPREAD THUMB FORWARDbcRAISED KNUCKLEbdING LITTLE",
  "bcTHUMB ANGLED IN MIDDLE UPbpOUT MIDDLE UPbiCIRCLEboD MIDDLE UPbjUPPED MIDDLE UPbkRLICUE",
  "blVE THUMB INSIDEbuUNDERbiFORWARD INDEX BENTbwSTRAIGHTbiHOOKbmED MIDDLE HINGEDbwUPbiSIDE",
  "bm BOTH BENTbnINDEX BENTbtHINGEbnTHUMB BENTbtCONJOINEDbtDIAGONALbcUP MIDDLE HINGED",
  "bs THUMB CONJOINEDbzSIDEawLITTLE BENTbdDOWNbh OTHERS CIRCLEDbiRIPPLE CURVEDbpSTRAIGHTbdINDEX",
  "bi THUMBbdRAISED KNUCKLEbdTHUMBbeOUCHES THUMBbdUPawMIDDLE BENT OVER INDEXbdDOWNbdLITTLE",
  "bdRAISED KNUCKLEbeING LITTLEbdTHUMB ANGLED INDEX UPbqOUT INDEX CROSSEDcaUPbjCIRCLED INDEX HINGED",
  "bxUPbkUPPED INDEX UPbjHOOKED INDEX UPbjLITTLEbdUPbf THUMB SIDEawRING DOWNbbINDEXbbLITTLEbbMIDDLE",
  "bh CONJOINEDbiRAISED KNUCKLESbbRAISED KNUCKLEbbTHUMBbbUPawTHUMBbb BETWEEN INDEX MIDDLE",
  "bw STRAIGHTbkMIDDLE RINGbkRING LITTLEbcFORWARDbcHEELbcOVER FOUR RAISED KNUCKLESbhTWO FINGERS",
  "bcSIDE BENTbhCONJOINEDbhDIAGONALbcUNDER FOUR FINGERSbiINDEX BENTbiLITTLE UPbiTHREE FINGERS",
  "bjWO FINGERSasLATav BETWEEN PALM FACINGSawFIVE FINGERS SPREADbp BENTbqFOUR BENTbqHINGED",
  "bw NO THUMBbxTHUMB SIDEbqTHUMB FORWARDaxOUR FINGERSbi BENTbjCONJOINEDbs SPLITbjHINGEDawHEEL",
  "ba FIVE FINGERS SPREADbu BENTbvFOUR BENTbbTHUMB SIDEawSPLIT CENTREbi THUMB SIDEbt BENT",
  "bcINDEX THUMB SIDEbcLITTLEawTHUMB BENTbcFORWARDbcSIDEarHINGEaw FIVE FINGERS SPREAD OPEN",
  "ayOUR FINGERS CONJOINEDaxINDEXbc HINGEDbdMIDDLE LITTLEbkRINGbo CONJOINEDbdRING LITTLEbdTHUMB",
  "bi LARGEbjOPENbjSIDEbkMALLaxLITTLEbd INDEXbj THUMBbeTHUMBaxMIDDLEbd RING LITTLEaxNO THUMBaxOPEN",
  "bb NO THUMBbcTHUMB FORWARDbiSIDEaxRINGbb DOWN INDEX THUMB HOOK MIDDLEaxSMALL",
  "axTHUMB BETWEEN MIDDLE RINGbdSIDEbh TOUCHING INDEXasOOKav CURLICUEawINDEX RING LITTLE INboOUT",
  "boUNDERawMIDDLE RING LITTLE CONJOINEDby INbzOUTbdTHUMBawRING THUMBarOVALav FIVE FINGERS SPREAD",
  "awINDEXawLITTLE UPawNO THUMBawRING LITTLEawTHUMB FORWARDbcSIDEanEADaq MOVEMENT CIRCLE",
  "az-FLOORPLANE CURVEblSTRAIGHTbaWALLPLANE CURVEbkSTRAIGHTbkTILTarRIMamLIMB COMBINATIONarLENGTH-1",
  "ay2ay3ay4ay5ay6ay7aoP LOWER OVER UPPERaqUPPER OVER LOWERapS PRESSED TOGETHERanOCATION DEPTH",
  "avHEAD NECKaxIGHTavLIMBS DIGITSavTORSOavWIDTHau-FLOORPLANE SPACEavWALLPLANE SPACE",
  "amMOUTH CLOSED CONTACTazFORWARDazNEUTRALatORNERSasFROWNax OPENayWRINKLEDasKISSaw FORWARD",
  "axWRINKLEDasOPEN CIRCLEaxFORWARDaxOVALbb WRINKLEDbcYAWNaxRECTANGLEbg WRINKLEDbhYAWNaxWRINKLED",
  "asSMILEax OPENayWRINKLEDasTENSEax FORWARDaySUCKEDasWRINKLES DOUBLEbbSINGLE",
  "aoVEMENT-DIAGONAL AWAY LARGEboSTbjMEDIUMbjSMALLbeBETWEEN AWAY LARGEbwSTbrMEDIUMbrSMALL",
  "bmTOWARDS LARGEbzSTbuMEDIUMbuSMALLbeTOWARDS LARGEbrSTbmMEDIUMbmSMALL",
  "avFLOORPLANE ARM CIRCLE HITTING WALL LARGE DOUBLEckSINGLEceMEDIUM DOUBLEclSINGLEceSMALL DOUBLE",
  "ckSINGLEbgBENDbhOX LARGEbkMEDIUMbkSMALLbgCHECKbhORNER LARGEbnMEDIUMbnSMALLbhROSSbhURVE COMBINED",
  "bmHITTING CEILING LARGEccSMALLbuFLOOR LARGEcaSMALLbmLARGEbrSTbmMEDIUMbmSMALLbgDOUBLE ALTERNATING",
  "by WRIST FLEXbnSTRAIGHTbnWRIST FLEXbgFINGER CIRCLES HITTING WALL DOUBLEciSINGLEboONTACT",
  "bgHUMP HITTING CEILING LARGE DOUBLEchTRIPLEcbSMALL DOUBLEchTRIPLEbtFLOOR LARGE DOUBLE",
  "bzSMALL DOUBLEbzTRIPLE LARGE TRIPLEcgSMALL TRIPLEblSMALLbgJAWbgLOOP HITTING CEILING LARGE DOUBLE",
  "chSINGLEcbSMALL DOUBLEchSINGLEbtFLOOR LARGE DOUBLEcfSINGLEbzSMALL DOUBLEcfSINGLEblSMALL",
  "bgPEAKS LARGEbmMEDIUMbmSMALLbgSHAKING PARALLELbhINGLE STRAIGHT LARGEcbSTbwMEDIUMbwSMALL",
  "bnWRIST FLEXbgTRIPLE ALTERNATING MOVEMENTbzWRIST FLEXbnSTRAIGHT MOVEMENTbnWRIST FLEX",
  "bgWAVE HITTING CEILING LARGEcbSMALLbtFLOOR LARGEbzSMALLblLARGEblSMALLbmNAKE",
  "bhRIST CIRCLE HITTING WALL DOUBLEcgSINGLEbgZIGZAG LARGEbnMEDIUMbnSMALLavHINGE DOWN SEQUENTIAL",
  "bbSIDE TO SIDE SCISSORSbbUP DOWN ALTERNATING LARGEbvSMALLbjLARGEbjSMALLbeSEQUENTIAL",
  "avWALLPLANE ARM CIRCLE MEDIUM DOUBLEbxSINGLEbqSMALL DOUBLEbwSINGLEbfBEND LARGEbkMEDIUMbkSMALL",
  "bgOX LARGEbjMEDIUMbjSMALLbfCHECK LARGEblMEDIUMblSMALLbgORNER LARGEbmMEDIUMbmROTATIONbmSMALL",
  "bgROSSbgURVE HALF-CIRCLE LARGEccSTbxMEDIUMbxSMALLbmITTING CHESTbtFRONT WALLblQUARTER LARGEbyST",
  "btMEDIUMbtSMALLblTHEN STRAIGHTbnREE-QUARTER CIRCLE MEDIUMcgSMALLbkD CROSS MEDIUMbsSMALL",
  "bfDOUBLE ALTERNATINGbx WRIST FLEXbmSTRAIGHTbmWRIST FLEXbfFINGER CIRCLES DOUBLEbuSINGLEbnONTACT",
  "bfHUMP HITTING CHESTbsFRONT WALLbkLARGEbkMEDIUMbkSMALLbfJAWbfLOOP HITTING CHESTbsFRONT WALL",
  "bkLARGEbkMEDIUMbkSMALLbp DOUBLEbfPEAKS LARGEblMEDIUMblSMALLbfSHAKINGbgINGLE STRAIGHT LARGEcaST",
  "bvMEDIUMbvSMALLbmWRIST FLEXbfTRIPLE ALTERNATINGbx WRIST FLEXbmSTRAIGHT MOVEMENTbmWRIST FLEX",
  "bfWAVE CURVE DOUBLE LARGEbxMEDIUMbxSMALLbqTRIPLE LARGEbxMEDIUMbxSMALLbkDIAGONAL PATH LARGE",
  "byMEDIUMbySMALLbkHITTING CHESTbsFRONT WALLbgRIST CIRCLE FRONT DOUBLEbySINGLEbfZIGZAG LARGE",
  "bmMEDIUMbmSMALLamNECKanOSE CONTACTarNEUTRALarWIGGLESasRINKLESamPARENTHESISamROTATION MODIFIER-10",
  "bf1bf2bf3bf4bf5bf6be2be3be4be5be6be7be8be9au-FLOORPLANE ALTERNATINGbr HITTING CEILINGcaFLOOR",
  "bgDOUBLEbm HITTING CEILINGbvFLOORbgSINGLEbm HITTING CEILINGbvFLOORavWALLPLANE ALTERNATE",
  "bnING HITTING CHESTbzFRONT WALLbfDOUBLEbl HITTING CHESTbuFRONT WALLbfSINGLEbl HITTING CHEST",
  "buFRONT WALLanUB BETWEENaqMULTIPLEaqSINGLEamSEMICOLONanHOULDER HIP POSITIONSazSPINE",
  "avTILTING FROM WAISTanQUEEZE FLICK ALTERNATINGauLARGE MULTIPLEbaSINGLEauSEQUENTIAL",
  "avMALL MULTIPLEbaSINGLEanTRIKE BETWEENatMULTIPLEatSINGLEanURFACE BETWEENauSYMBOLSamTEETH",
  "ar BITE LIPSasMOVEMENTasON LIPSaz MOVEMENTavTONGUEbb MOVEMENTaoNSE CHEEKS HIGHazLOWazMIDDLE",
  "anONGUE CENTRE INSIDE MOUTHbaSTICKING OUTatINSIDE MOUTH RELAXEDatLICKING LIPS",
  "atMOVES AGAINST CHEEKatSTICKING OUT FARatTIP BETWEEN LIPSaxTOUCHING INSIDE MOUTH",
  "aoRSO-FLOORPLANE TWISTINGasWALLPLANE CURVED BENDbcSTRAIGHT STRETCHaoUCH BETWEENasMULTIPLE",
  "asSINGLEanRAVEL-FLOORPLANE ROTATION-FLOORPLANE ALTERNATINGbyDOUBLEbySINGLE",
  "bnWALLPLANE ALTERNATINGbxDOUBLEbxSINGLEbeSHAKINGatWALLPLANE ARM SPIRAL DOUBLEboSINGLEboTRIPLE",
  "bdROTATION-FLOORPLANE ALTERNATINGbxDOUBLEbxSINGLEbmWALLPLANE ALTERNATINGbwDOUBLEbwSINGLE",
  "bdSHAKINGamUPPER BODY TILTING FROM HIP JOINTSamWALLPLANE SHOULDER HIP MOVEacLHOUETTE OF JAPAN",
  "acMILAR ABOVE GREATER-THAN ABOVE EQUALS SIGNaoLESS-THAN ABOVE EQUALS SIGNaiMINUS SIMILAR",
  "aiOR GREATER-THANalLESS-THANacNE WAVEadGLE CHARACTER INTRODUCERahGRAPHIC CHARACTER INTRODUCER",
  "ahHIGH-REVERSED-9 QUOTATION MARKahLEFT-POINTING ANGLE QUOTATION MARKaiOW-9 QUOTATION MARK",
  "ahRIGHT-POINTING ANGLE QUOTATION MARKahSHIFT THREEaoWOag-SHIFT-2an3adHALA ARCHAIC DIGIT EIGHT",
  "awFIVEaxOURawNINEawONEawSEVENaxIXawTHREEaxWOaqNUMBER EIGHTYaxFIFTYayORTYaxNINETYaxONE HUNDRED",
  "bbTHOUSANDaxSEVENTYayIXTYaxTENayHIRTYayWENTYaiLETTER AAYANNAaqEEYANNAarYANNAaqIYANNA",
  "aqLPAPRAANA BAYANNAbaCAYANNAbaDAYANNAbbDAYANNAbaGAYANNAbaJAYANNAbaKAYANNAbaPAYANNAbaTAYANNA",
  "bbTAYANNAaqMBA BAYANNAaqUYANNAaqYANNAapDANTAJA LAYANNAaxNAYANNAaxSAYANNAapEEYANNAaqYANNA",
  "apFAYANNAapHAYANNAapIIYANNAaqLUUYANNAasYANNAaqRUUYANNAasYANNAaqYANNAapKANTAJA NAASIKYAYA",
  "apMAHAAPRAANA BAYANNAbbCAYANNAbbDAYANNAbcDAYANNAbbGAYANNAbbJAYANNAbbKAYANNAbbPAYANNAbbTAYANNA",
  "bcTAYANNAarYANNAaqUURDHAJA LAYANNAazNAYANNAazSAYANNAapOOYANNAaqYANNAapRAYANNAapSANYAKA DAYANNA",
  "ayDAYANNAaxGAYANNAaxJAYANNAapTAALUJA NAASIKYAYAaxSANYOOGA NAAKSIKYAYAazYANNAapUUYANNAaqYANNA",
  "apVAYANNAapYAYANNAajITH DIGIT EIGHTatFIVEauOURatNINEatONEatSEVENauIXatTHREEauWOatZERO",
  "aiPUNCTUATION KUNDDALIYAaiSIGN AL-LAKUNAaoNUSVARAYAanCANDRABINDUanVISARGAYA",
  "aiVOWEL SIGN AELA-PILLAatDIGA AEDA-PILLAayGAETTA-PILLAbaYANUKITTAayIS-PILLAayKOMBUVAayPAA-PILLA",
  "atGAETTA-PILLAavYANUKITTAatKETTI AEDA-PILLAazIS-PILLAazPAA-PILLAauOMBU DEKAayVAba HAA AELA-PILLA",
  "bfDIGA AELA-PILLAbfGAYANUKITTAacX PETALLED BLACK AND WHITE FLORETTEafOINTED BLACK STAR",
  "amPINWHEEL STARamSTAR WITH MIDDLE DOTad-PER-EM SPACEadTEEN POINTED ASTERISKabKATEBOARD",
  "acI AND SKI BOOTadERacULLaf AND CROSSBONESadNKabLANTED EQUAL TO OR GREATER-THAN",
  "bg WITH DOT INSIDEauLESS-THANbd WITH DOT INSIDEaiNORTH ARROW WITH HOOKED HEADbbRIZONTAL TAIL",
  "adVONIC ASTERISKacEDadEPING ACCOMMODATIONajFACEajSYMBOLafY FACEadUTH OR SPYacICE OF PIZZA",
  "adGHTLY FROWNING FACEajSMILING FACEacOPEaeING LARGE ANDaoORadT MACHINEaeHabMALL AIRPLANE",
  "ahMPERSANDahSTERISKagBLUE DIAMONDagCOLONaiMMAakERCIAL ATaiNTAINS AS MEMBERapWITH OVERBAR",
  "auVERTICAL BAR AT END OF HORIZONTAL STROKEagDOLLAR SIGNagELEMENT OFaq WITH OVERBAR",
  "awVERTICAL BAR AT END OF HORIZONTAL STROKEahM DASHahQUALS SIGNahXCLAMATION MARKagFULL STOP",
  "agGREATER-THAN SIGNagHYPHEN-MINUSagIDEOGRAPHIC COMMAagLEFT CURLY BRACKETalPARENTHESIS",
  "alTORTOISE SHELL BRACKETaiSS-THAN SIGNagNUMBER SIGNagORANGE DIAMONDagPERCENT SIGNahLUS SIGN",
  "agQUESTION MARKagREVERSE SOLIDUSahIGHT CURLY BRACKETamPARENTHESISamTORTOISE SHELL BRACKET",
  "ahOMAN NUMERAL EIGHTavLEVENauFIFTYawVEay HUNDREDavOURauNINEauONEax HUNDREDayTHOUSANDauSEVENavIX",
  "auTENavHREEavWELVEawOagSEMICOLONagTILDEahWO DOTS OVER ONE DOT PUNCTUATIONagVEE WITH UNDERBAR",
  "afER THANam OR EQUAL TOadSH PRODUCTacILEaeING CAT FACE WITH HEART-SHAPED EYESawOPEN MOUTH",
  "aiFACE WITH HALOatEART-SHAPED EYESatORNSasOPEN MOUTHbc AND COLD SWEATbhSMILING EYES",
  "bhTIGHTLY-CLOSED EYESasSMILING EYESbe AND HAND COVERING MOUTHbjTHREE HEARTSatUNGLASSESasTEAR",
  "adRKING FACEacOKING SYMBOLabNAILadKEacEEZING FACEacOW CAPPED MOUNTAINaeBOARDERaeFLAKEaeMAN",
  "ah WITHOUT SNOWabOacCCER BALLadKSacFT HYPHENafICE CREAMafSHELL FLOPPY DISKaeBALL",
  "aeWARE-FUNCTION SYMBOLacGDIAN COMBINING CURVE ABOVEayBELOWasDOT ABOVEawBELOWasHOOK ABOVEaxBELOW",
  "asLONG HOOK BELOWasRESH BELOWasSTROKE BELOWasTWO DOTS ABOVEbbBELOWaiINDEPENDENT SHIN",
  "aiLETTER ALEPHaqYINapBETHapFETHapGIMELapHEarTHapKAPHapLAMEDHaqESHapMEMapNUNapPEapRESH-AYIN",
  "apSADHEarMEKHaqHINapTAWapWAWapYODHapZAYINaiNUMBER ONEas HUNDREDapTENaqWENTY",
  "aiPUNCTUATION CIRCLE WITH DOTauHALF CIRCLE WITH DOTauTWO CIRCLES WITH DOTSayVERTICAL BARS",
  "bl WITH DOTSacHacLID QUILT SQUARE ORNAMENTbb IN BLACK SQUAREafUSah WITH OVERBARacM SIGN",
  "acON WITH RIGHTWARDS ARROW ABOVEacRA SOMPENG DIGIT EIGHTatFIVEauOURatNINEatONEatSEVENauIXatTHREE",
  "auWOatZEROanLETTER AHauBAHauCAHauDAHauEEHavHauGAHauHAHauIHauJAHauKAHauLAHauMAEawHauNAHavGAHavYAH",
  "auOHauPAHauRAHauSAHauTAHauUHauVAHauYAHacSacUND RECORDING COPYRIGHTadTH EAST ARROW",
  "aq AND SOUTH WEST ARROWarCROSSING NORTH EAST ARROWarTO CORNERarWITH HOOKalBLACK ARROW",
  "alDOUBLE ARROWalPOINTING BUDauLEAFauVINE LEAFalSANS-SERIF ARROWalTRIANGLE-HEADED ARROWbg TO BAR",
  "alWHITE ARROWagWEST ARROWaq AND NORTH WEST ARROWarWITH HOOKalBLACK ARROWalDOUBLE ARROW",
  "alPOINTING BUDauLEAFauVINE LEAFalSANS-SERIF ARROWalTRIANGLE-HEADED ARROWbg TO BARalWHITE ARROW",
  "acYOMBO CLUSTER-INITIAL LETTER LAbfRAbfSAbgHAaiFINAL CONSONANT SIGN -AbdBbdDbdGbdKbdLbdMbdNbeG",
  "bdRbdSbeHaiGEMINATION MARKaiHEAD MARK WITH MOON AND SUNbj AND FLAMEboTRIPLE FLAMEaiLETTER -AapA",
  "apBAaqHAapCAaqHAapDAaqDAarHAaqHAaqZAapGAaqHAapHAapJAaqHAapKAaqHAaqSSAapLAapMAapNAaqGAaqNAaqYA",
  "apPAaqHAapRAapSAaqHAaqSAapTAaqHAaqSAarHAaqTAarHAapVAapYAapZAaqHAaiMARK DOUBLE SHADanPLUTAanSHAD",
  "anTSHEGaiSIGN ANUSVARAanJIHVAMULIYAanUPADHMANIYAanVISARGAajUBJOINERaiTERMINAL MARK-1aw2",
  "aiVOWEL LENGTH MARKaoSIGN AIauUatEatIatOauEatUauEatVOCALIC LbbRabPacAadCEadGHETTIadRKLEahS",
  "agING HEARTacEAK-NO-EVIL MONKEYafERah WITH CANCELLATION STROKEanONE SOUND WAVE",
  "anTHREE SOUND WAVESafING HEAD IN SILHOUETTEadECH BALLOONaeDBOATadSMILO SIGNacHERICAL ANGLE",
  "ap OPENING LEFTayUPacIDERag WEBadRAL CALENDAR PADahNOTE PADahSHELLacLASHING SWEAT SYMBOLacONGE",
  "adOL OF THREADaeNadRTS MEDALadUTING WHALEabQUARE A OVER MaiARUaiMaiNPEAaiPAATOaiRUHUAaiU",
  "ahBAARERUajRaiEETAaiIRUaiORUTOaiQaiUSSYERUahC OVER KGaiALajPaiCaiDaiMaj CUBEDakSQUAREDaiO",
  "ajRPORATIONaiUPahDAajASUaiBaiESIaiJaiLaiMaj CUBEDakSQUAREDaiORUahEEKAAaiRA NAME HEISEIaqMEIZI",
  "aqREIWAaqSYOUWAaqTAISYOUajGaiSUKUUDOaiVahFMaiOOTajUR CORNERSahGALajNMAajRONaiBaiHZaiIGAajNII",
  "ajRUDAAaiPAaiURAMUanTONaiYahHAajITUaiEKUTAARUajRUTUaiGaiIRAGANA HOKAaiONajONakRUaiPajAaiUARADDO",
  "ajIITOajRANaiZahIMAGE OFap OR EQUAL TOatNOT EQUAL TOaiNajINGUajTIaiUahK OHMaiAajIRIajRATTOakORII",
  "aiBaiCALaiEESUaiGaiHZaiIROalGURAMUalMEETORUalWATTOaiKaiLaiMaj CAPITALalUBEDakSQUAREDaiOOPOajRUNA",
  "aiPAaiTaiUROONEakUZEIROaiVaiWaiYURIIahLEFT OPEN BOX OPERATORaiMaiNaiOGajZENGEaiXahM CUBEDajOHM",
  "akVER Sap SQUAREDajSQUAREDaiAajHHAajIKUROakRUajNSYONajRUKUaiBaj SMALLaiEETORUajGAalTONaiGaiHZ",
  "aiIKURONajLajRIalBAARUaiLaiMaj CUBEDakSQUAREDaiOLaiPAaiSaiU AakFakGakLakMakSakVakWaiVaj MEGAaiW",
  "aj MEGAahNAajNOaiFaiMaiOTTOaiSaiVaiWahONSUaiOMUaiRIGINAL OFas OR EQUAL TOawNOT EQUAL TOaiVahPA",
  "aj AMPSajASENTOakTUaiCaiEEZIajNIHIakSUajSOaiFaiHaiIASUTORUajKOakURUaiMaiOINTOajNDO",
  "ajSITION INDICATORaiPMaiRaiSaiVaiWahRADak OVER Sar SQUAREDaiEMUajNTOGENaiIGHT OPEN BOX OPERATOR",
  "ajRAajTTORUaiOOTaiUPIIajUBURUahSAIKURUajNTIIMUaiENTIalOaiIRINGUaiRaiVahTARGETaiHZaiONahUON",
  "ahV OVER MahWATTOaiBaiITH BOTTOM HALF BLACKamCONTOURED OUTLINEamDIAGONAL CROSSHATCH FILL",
  "amHORIZONTAL FILLamLEFT HALF BLACKanOWER LEFT DIAGONAL HALF BLACKasRIGHT DIAGONAL HALF BLACK",
  "amORTHOGONAL CROSSHATCH FILLamRIGHT HALF BLACKamTOP HALF BLACKamUPPER LEFT DIAGONAL HALF BLACK",
  "axTO LOWER RIGHT FILLasRIGHT DIAGONAL HALF BLACKayTO LOWER LEFT FILLamVERTICAL FILLahYAADOakRU",
  "aiUANagD ASTERISKaiCJK UNIFIED IDEOGRAPH-4E00bh9bg2Dbg8CbgA4be518Dbf21Dbg4Dbg72bf3CCbgF3bf408",
  "bg39bf5B6bf8F0bf91Abg29bfB57bfDE6bfF8Cbe624Bbg53bg95bf307bg55bf599bgB0bf620bf708bh9bfE80bfF14",
  "be7121bf51Fbg33bf981bfA7AbfD42be89E3bfCA9bfD70be904Abf14DajLajOOLaiDOT OPERATORaiEIGHT K",
  "aiFALLING DIAGONAL SLASHajIVE POINT ONEajOUR DOT PUNCTUATIONanKajREEaiHCajDRajI-RESajVaiID",
  "aiKATAKANA DEarKOKOarSAajEYaiLATIN CAPITAL LETTER AbdBbdCbdDbdEbdFbdGbdHbdIbdJbdKbdLbdMbdNbdObdP",
  "bdQbdRbdSbdTbdUbdVbdWbdXbdYbdZaoSMALL LETTER DajOGICAL ANDaqORakSSLESSaiMINUSajVaiNEWajGaiOK",
  "ajNE HUNDRED TWENTY PaiPLUSajPVaiRISING DIAGONAL SLASHaiSALTIREajDajECOND SCREENakVEN POINT ONE",
  "ajHVajIXTY PajMALL CIRCLEajOSajQUAREajSaiTHREE DajIMESajWENTY-TWO POINT TWOakO KaiUHD",
  "ajP WITH EXCLAMATION MARKaiVODajSaiWCaeT BLACK RIGHTWARDS ARROWadIDabS2ac3acAabTacADIUM",
  "adFF OF AESCULAPIUSajHERMESadMPED ENVELOPEadNDING PERSONadR AND CRESCENTafEQUALSafOF DAVID",
  "agPERATORafWITH LEFT HALF BLACKakRIGHT HALF BLACKaeT OF GUARDED AREAajHEADINGajPROTECTED AREA",
  "ajSELECTED AREAakTRINGajTEXTadTIONaeUE OF LIBERTYacEAM LOCOMOTIVEafING BOWLadNOGRAPHIC FULL STOP",
  "adTHOSCOPEacICK FIGUREam LEANING LEFTavRIGHTanWITH ARMS RAISEDasDRESSacOCK CHARTadPWATCH",
  "acRAIGHT RULERaiNESSaeWBERRYadESS OUTLINED WHITE STARadICTLY EQUIVALENT TOaeNG TERMINATORacS",
  "acUDIO MICROPHONEadFFED FLATBREADadPAacXabUBadSCRIPT EIGHTalQUALS SIGNakFIVEalOUR",
  "akLEFT PARENTHESISakMINUSakNINEakONEakPLUS SIGNakRIGHT PARENTHESISakSEVENalIXakTHREEalWOakZERO",
  "aeET ABOVE RIGHTWARDS ARROWanSUBSETapPERSETahOFaj ABOVE ALMOST EQUAL TOaqEQUALS SIGN",
  "aqNOT EQUAL TOaqTILDE OPERATORakOR EQUAL TOav WITH DOT ABOVEakWITH NOT EQUAL TOahWITH DOT",
  "amMULTIPLICATION SIGN BELOWamPLUS SIGN BELOWaeTITUTEacCCEEDSai ABOVE ALMOST EQUAL TO",
  "apEQUALS SIGNapNOT ALMOST EQUAL TOatEQUAL TOapSINGLE-LINE EQUALS SIGNbbNOT EQUAL TO",
  "ajBUT NOT EQUIVALENT TOajOR EQUAL TOapIVALENT TOajUNDER RELATIONacMMATION BOTTOMakTOP",
  "akWITH INTEGRALacNad BEHIND CLOUDaeWITH FACEadDANESE AVAGRAHAakCONSONANT SIGN PAMINGKALbbNYAKRA",
  "bdIKUbbSANGAN MAbiWAakDIGIT EIGHTaqFIVEarOURaqNINEaqONEaqSEVENarIXaqTHREEarWOaqZEROakLETTER AasE",
  "arBAasHAarCAarDAarEasUarFAasINAL KaxMarGAarHAarIarJAarKAasHAarLAasEUarMAarNAasGAasYAarOarPAarQA",
  "arRAasEUarSAasYAarTAarUarVAarWAarXAarYAarZAakPUNCTUATION BINDU BA SATANGAbcCAKRAbcDA SATANGA",
  "bcKA SATANGAbcLEU SATANGAbcPANGLONGbdURNAMAbcSURYAakSIGN PAMAAEHarNGLAYARatWISADasYECEKapVIRAMA",
  "akVOWEL SIGN PAMEPETaxNAELAENGayEULEUNGayGHULUayOLONGayYUKUadFLOWERadRISEah OVER MOUNTAINS",
  "adSET OVER BUILDINGSacPERHEROafSCRIPT EIGHTanQUALS SIGNamFIVEanOURamLATIN SMALL LETTER IbfN",
  "anEFT PARENTHESISamMINUSamNINEamONEamPLUS SIGNamRIGHT PARENTHESISamSEVENanIXamTHREEanWOamZERO",
  "agET ABOVE LEFTWARDS ARROWapSUBSETarPERSETajBESIDE AND JOINED BY DASH WITH SUBSETaqSUBSETajOF",
  "al ABOVE ALMOST EQUAL TOasEQUALS SIGNasNOT EQUAL TOasTILDE OPERATORamOR EQUAL TO",
  "ax WITH DOT ABOVEamWITH NOT EQUAL TOajPRECEDING SOLIDUSajWITH DOTaoMULTIPLICATION SIGN BELOW",
  "aoPLUS SIGN BELOWafVILLAINacRFACE INTEGRALaeERacSHIadPENSION RAILWAYabWANadSH AMPERSAND ORNAMENT",
  "acIMMERacUNG DASHabYLOTI NAGRI LETTER AauBHOavOauCHOavOauDDHOawOavHOavOauEauGHOavOauHOauIauJHO",
  "avOauKHOavOauLOauMOauNOauOauPHOavOauROavROauSOauTHOavOavTHOawOauUanPOETRY MARK-1az2az3az4",
  "anSIGN ALTERNATE HASANTAatNUSVARAasDVISVARAasHASANTAanVOWEL SIGN AayEayIayOOayU",
  "acMBOL FOR ACKNOWLEDGEalBACKSPACEamELLalCANCELanRRIAGE RETURNalDATA LINK ESCAPEamELETE",
  "ar FORM TWOanVICE CONTROL FOURbaONEbaTHREEbbWOalEND OF MEDIUMasTEXTatRANSMISSIONbe BLOCKanQUIRY",
  "amSCAPEalFILE SEPARATORamORM FEEDalGROUP SEPARATORalHORIZONTAL TABULATIONalLINE FEED",
  "alMARKS CHAPTERalNEGATIVE ACKNOWLEDGEanWLINEamULLalRECORD SEPARATORalSAMARITAN SOURCEamHIFT IN",
  "arOUTamPACEamTART OF HEADINGauTEXTamUBSTITUTEav FORM TWOamYNCHRONOUS IDLEalTYPE A ELECTRONICS",
  "alUNIT SEPARATORalVERTICAL TABULATIONadMETRYacNadAGOGUEadCHRONOUS IDLEacRIAC ABBREVIATION MARK",
  "ahBARREKHahCOLON SKEWED LEFTauRIGHTajNTRACTIONahDOTTED ZLAMA ANGULARauHORIZONTAL",
  "ahEND OF PARAGRAPHaiSASA ABOVEanBELOWahFEMININE DOTahHARKLEAN ASTERISCUSaqMETOBELUSaqOBELUS",
  "aiBASA ABOVEanBELOWam-ESASA DOTTEDaiORIZONTAL COLONahLETTER ALAPHaoBETHaoDALATH",
  "apOTLESS DALATH RISHaoEaoFINAL SEMKATHaoGAMALat GARSHUNIaoHEaqTHaoKAPHaoLAMADHaoMALAYALAM BHA",
  "ayJAayLLAbaLAayNGAazNAbaNAazYAayRAaySSAayTTAapIMaoNUNaoPEaqRSIAN BHETHawDHALATHawGHAMALaoQAPH",
  "aoREVERSED PEapISHaoSADHEapEMKATHapHINapOGDIAN FEawKHAPHawZHAINapUPERSCRIPT ALAPHaoTAWapETH",
  "as GARSHUNIaoWAWaoYUDHas HEaoZAINahMUSICahOBLIQUE LINE ABOVEauBELOWahPTHAHA ABOVEaoBELOWaoDOTTED",
  "ahQUSHSHAYAahRBASA ABOVEanBELOWaiUKKAKHAaiWAHAahSUBLINEAR COLONaw SKEWED LEFTbeRIGHTarFULL STOP",
  "ajPRALINEAR COLONay SKEWED LEFTatFULL STOPahTHREE DOTS ABOVEasBELOWaiWO VERTICAL DOTS ABOVE",
  "azBELOWahZQAPHA ABOVEaoBELOWaoDOTTEDaeNGEaaT-REXacSHIRTabABadLE TENNIS PADDLE AND BALLacCO",
  "acG AMPERSANDafPOSTROPHEafSTERISKaeCIRCUMFLEX ACCENTafOLONagMMAaiERCIAL ATaeDIGIT EIGHTakFIVE",
  "alOURakNINEakONEakSEVENalIXakTHREEalWOakZEROafOLLAR SIGNaeEQUALS SIGNafXCLAMATION MARK",
  "aeFULL STOPaeGRAVE ACCENTagEATER-THAN SIGNaeHYPHEN-MINUSaeLATIN CAPITAL LETTER AazBazCazDazEazF",
  "azGazHazIazJazKazLazMazNazOazPazQazRazSazTazUazVazWazXazYazZakSMALL LETTER AaxBaxCaxDaxEaxFaxG",
  "axHaxIaxJaxKaxLaxMaxNaxOaxPaxQaxRaxSaxTaxUaxVaxWaxXaxYaxZafEFT CURLY BRACKETajPARENTHESIS",
  "ajSQUARE BRACKETagSS-THAN SIGNafOW LINEaeNUMBER SIGNaePERCENT SIGNafLUS SIGNaeQUESTION MARK",
  "agOTATION MARKaeREVERSE SOLIDUSafIGHT CURLY BRACKETakPARENTHESISakSQUARE BRACKETaeSEMICOLON",
  "afOLIDUSafPACEaeTILDEaeVERTICAL LINEadALOG LETTER AaqRCHAIC RAapBAapDAapGAapHAapIapKAapLAapMA",
  "apNAaqGAapPAapRAapSAapTAapUapWAapYAaiSIGN PAMUDPODanVIRAMAaiVOWEL SIGN IatUadBANWA LETTER AaqBA",
  "aqDAaqGAaqIaqKAaqLAaqMAaqNAarGAaqPAaqSAaqTAaqUaqWAaqYAajVOWEL SIGN IauUacI LE LETTER AapIapUEaoE",
  "apEapHaoFAaoHAaoIaoKAapHAaoLAaoMAaoNAapGAaoOapOaoPAapHAaoQAaoSAaoTAapHAapONE-2at3at4at5at6apSA",
  "aqHAaoUapEaoVAaoXAaoYAaeTHAM COMBINING CRYPTOGRAMMIC DOTalNSONANT SIGN BAayFINAL NGA",
  "ayHIGH RATHA OR LOW PAayLA TANG LAIazOW PAayMAazEDIAL LAbfRAaySAajHORA DIGIT EIGHTauFIVEavOUR",
  "auNINEauONEauSEVENavIXauTHREEavWOauZEROajLETTER AaqBAaqDAaqEEaqGREAT SAaqHIGH CAawHAavFAavHAavKA",
  "awHAawXAavPAawHAavRATHAavSAawHAawSAavTAawHAavYAaqIarIaqLAasEarLAarOW CAavHAauFAauHAauKAavHAavXA",
  "auPAavHAauRATHAauSAauTAavHAauYAarUEaqMAaqNAarGAarYAaqOOaqRAasNAasTAarUEaqUarUaqWAajSIGN CAANG",
  "aoDOKMAIaoHANGapOYaoKAANasKUUapEOWapHUEN TONE-3az4az5at-LUE KARANaoMAI KANGaw LAIasSAMasYAMOK",
  "aoRA HAAMapEVERSED ROTATED RANAaoSAKOTaqTKAANavKUUaqWANaoTONE-1at2aoWIANGatWAAK",
  "ajTHAM DIGIT EIGHTauFIVEavOURauNINEauONEauSEVENavIXauTHREEavWOauZEROajVOWEL SIGN AavAavEavIauE",
  "auIavIauMAI SATauOavA ABOVEaxBELOWavOavYauTALL AAavHAM AIauUavEavUawEaeVIET LETTER HIGH BOavCHO",
  "awOavDOavFOavGOavHOavKHHOaxOawOavLOavMOavNGOawOawYOavOavPHOawOavROavSOavTHOawOavVOavYOaqLOW BO",
  "auCHOavOauDOauFOauGOauHOauKHHOawOavOauLOauMOauNGOavOavYOauOauPHOavOauROauSOauTHOavOauVOauYO",
  "ajMAI KANGaoHITajSYMBOL HO HOIaqKOI KOIasNaqNUENGaqSAMajTONE MAI EKasNUENGasSONGasTHOajVOWEL AA",
  "aqMaqNaqUEaqYapEapIaqAapOapUaqAaqEarAacKEOUT BOXadRI ABBREVIATION SIGNagDIGIT EIGHTamFIVEanOUR",
  "amNINEamONEamSEVENanIXamTHREEanWOamZEROagLETTER AaoAaoIaoRCHAIC KHAaoUanBAaoHAanCAaoHAanDAaoDA",
  "apHAaoHAanEanGAaoHAanHAanIaoIanJAaoHAanKAaoHAanLAanMAanNAaoGAaoNAaoYAanOanPAaoHAanRAaoRAanSAaoHA",
  "anTAaoHAaoTAapHAanUaoUanVAanYAagSIGN ANUSVARAalNUKTAalVIRAMAanSARGAagVOWEL SIGN AAasIasUarEarI",
  "asIarOarUasUacLLY MARK FIVEalONEacMALEadIL AND ODD SIGNahS ABOVE SIGNahU LENGTH MARK",
  "agCREDIT SIGNahURRENT SIGNagDAY SIGNahEBIT SIGNahIGIT EIGHTamFIVEanOURamNINEamONEamSEVENanIX",
  "amTHREEanWOamZEROahRY CULTIVATION SIGNagFRACTION DOWNSCALING FACTOR KIIZHapONE EIGHTHayIETH",
  "atFIFTHauORTIETHatHALF-1ay2atONE-HUNDRED-AND-SIXTIETHatQUARTERatSIXTEENTH-1bd2axY-FOURTHatTENTH",
  "auHIRTY-SECONDavREE-HUNDRED-AND-TWENTIETHauWENTIETHapTHREE EIGHTIETHSavQUARTERSavSIXTEENTHS",
  "azY-FOURTHSavTWENTIETHSagIN POSSESSION SIGNagLAND SIGNahETTER AaoAaoIaoUanCAanEaoEanHAanIaoIanJA",
  "anKAanLAaoLAapLAanMAanNAaoGAaoNAapNAaoYAanOaoOanPAanRAaoRAanSAaoHAaoSAanTAaoTAanUaoUanVAanYA",
  "agMONTH SIGNagNUMBER ONE HUNDREDarTHOUSANDanSIGNanTENagOMagPUNCTUATION END OF TEXTagRUPEE SIGN",
  "agSALT PAN SIGNahIGN AAZHAAKKUamNUSVARAalCEVITUalKAACUamURUNIanZHIalMUKKURUNIanTHALIYA",
  "anUVUZHAKKUalNELalPAARAManNAManTHAKKUamONalUZHAKKUalVAKAIYARAAanRAAKANamELIamIRAMAanSARGA",
  "ahPENT SIGNahTARTING FROM SIGNagTOTAL SIGNahRADITIONAL CREDIT SIGNasNUMBER SIGNagVOWEL SIGN AA",
  "asIasUarEasEarIasIarOasOarUasUagWET CULTIVATION SIGNagYEAR SIGNacNABATA TREEadGERINE",
  "aeSA DIGIT EIGHTanFIVEaoOURanNINEanONEanSEVENaoIXanTHREEaoWOanZEROahLETTER ACapQapWCaqQaqXaqZapX",
  "apZaoBAaoCAapHAaoDAapHAaoECapQapXapZaoFAapINAL NGaoGAapHAaoHAapTAaqTAaoICapQapXapZaoKAapHAaoLA",
  "apONG UEXaoMAapCapQapXapZaoNAapGAapHAapYAaoOCapQapXapZaoPAapHAaoRAaoSAapHAaqORT AWXauUEZaoTAapHA",
  "apSAaoUCapECaqQaqXaqZapICaqQaqUCarQarXarZaqXaqZapQapXapZaoVCapQapXapZaoWAaoXAaoYAaoZA",
  "aeUT COMPONENT-001at2at3at4at5at6at7at8at9as10at1at2at3at4at5at6at7at8at9as20at1at2at3at4at5at6",
  "at7at8at9as30at1at2at3at4at5at6at7at8at9as40at1at2at3at4at5at6at7at8at9as50at1at2at3at4at5at6at7",
  "at8at9as60at1at2at3at4at5at6at7at8at9as70at1at2at3at4at5at6at7at8at9as80at1at2at3at4at5at6at7at8",
  "at9as90at1at2at3at4at5at6at7at8at9ar100at1at2at3at4at5at6at7at8at9as10at1at2at3at4at5at6at7at8",
  "at9as20at1at2at3at4at5at6at7at8at9as30at1at2at3at4at5at6at7at8at9as40at1at2at3at4at5at6at7at8at9",
  "as50at1at2at3at4at5at6at7at8at9as60at1at2at3at4at5at6at7at8at9as70at1at2at3at4at5at6at7at8at9",
  "as80at1at2at3at4at5at6at7at8at9as90at1at2at3at4at5at6at7at8at9ar200at1at2at3at4at5at6at7at8at9",
  "as10at1at2at3at4at5at6at7at8at9as20at1at2at3at4at5at6at7at8at9as30at1at2at3at4at5at6at7at8at9",
  "as40at1at2at3at4at5at6at7at8at9as50at1at2at3at4at5at6at7at8at9as60at1at2at3at4at5at6at7at8at9",
  "as70at1at2at3at4at5at6at7at8at9as80at1at2at3at4at5at6at7at8at9as90at1at2at3at4at5at6at7at8at9",
  "ar300at1at2at3at4at5at6at7at8at9as10at1at2at3at4at5at6at7at8at9as20at1at2at3at4at5at6at7at8at9",
  "as30at1at2at3at4at5at6at7at8at9as40at1at2at3at4at5at6at7at8at9as50at1at2at3at4at5at6at7at8at9",
  "as60at1at2at3at4at5at6at7at8at9as70at1at2at3at4at5at6at7at8at9as80at1at2at3at4at5at6at7at8at9",
  "as90at1at2at3at4at5at6at7at8at9ar400at1at2at3at4at5at6at7at8at9as10at1at2at3at4at5at6at7at8at9",
  "as20at1at2at3at4at5at6at7at8at9as30at1at2at3at4at5at6at7at8at9as40at1at2at3at4at5at6at7at8at9",
  "as50at1at2at3at4at5at6at7at8at9as60at1at2at3at4at5at6at7at8at9as70at1at2at3at4at5at6at7at8at9",
  "as80at1at2at3at4at5at6at7at8at9as90at1at2at3at4at5at6at7at8at9ar500at1at2at3at4at5at6at7at8at9",
  "as10at1at2at3at4at5at6at7at8at9as20at1at2at3at4at5at6at7at8at9as30at1at2at3at4at5at6at7at8at9",
  "as40at1at2at3at4at5at6at7at8at9as50at1at2at3at4at5at6at7at8at9as60at1at2at3at4at5at6at7at8at9",
  "as70at1at2at3at4at5at6at7at8at9as80at1at2at3at4at5at6at7at8at9as90at1at2at3at4at5at6at7at8at9",
  "ar600at1at2at3at4at5at6at7at8at9as10at1at2at3at4at5at6at7at8at9as20at1at2at3at4at5at6at7at8at9",
  "as30at1at2at3at4at5at6at7at8at9as40at1at2at3at4at5at6at7at8at9as50at1at2at3at4at5at6at7at8at9",
  "as60at1at2at3at4at5at6at7at8at9as70at1at2at3at4at5at6at7at8at9as80at1at2at3at4at5at6at7at8at9",
  "as90at1at2at3at4at5at6at7at8at9ar700at1at2at3at4at5at6at7at8at9as10at1at2at3at4at5at6at7at8at9",
  "as20at1at2at3at4at5at6at7at8at9as30at1at2at3at4at5at6at7at8at9as40at1at2at3at4at5at6at7at8at9",
  "as50at1at2at3at4at5at6at7at8at9as60at1at2at3at4at5at6at7at8ahITERATION MARKacPE CARTRIDGEafDRIVE",
  "acURUSacXIabEACUP WITHOUT HANDLEadPOTadR-OFF CALENDARaeDROP-BARBED RIGHTWARDS ARROW",
  "ajSPOKED ASTERISKacDDY BEARacLEPHONE LOCATION SIGNakON TOP OF MODEMakRECEIVERas WITH PAGEanORDER",
  "akSIGNaeSCOPEaeVISIONadUGU AI LENGTH MARKahDIGIT EIGHTanFIVEaoOURanNINEanONEanSEVENaoIXanTHREE",
  "aoWOanZEROahFRACTION DIGIT ONE FOR EVEN POWERS OF FOURbeODD POWERS OF FOUR",
  "awTHREE FOR EVEN POWERS OF FOURbgODD POWERS OF FOURaxWO FOR EVEN POWERS OF FOUR",
  "beODD POWERS OF FOURawZERO FOR ODD POWERS OF FOURahLENGTH MARKajTTER AapAapIapUaoBAapHAaoCAapHA",
  "aoDAapDAaqHAapHAapZAaoEapEaoGAapHAaoHAaoIapIaoJAapHAaoKAapHAaoLAapLAaqLAaoMAaoNAaqKAARA POLLU",
  "apGAapNAapYAaoOapOaoPAapHAaoRAapRAaqRAaoSAapHAapSAaoTAapHAapSAapTAaqHAaoUapUaoVAapOCALIC LaxLawR",
  "axRaoYAahSIGN ANUSVARAanVAGRAHAamCANDRABINDUanOMBINING ANUSVARA ABOVEawCANDRABINDU ABOVEamNUKTA",
  "amSIDDHAMamTUUMUamVIRAMAaoSARGAahVOWEL SIGN AAatIatUasEatEasIatIasOatOasUatUasVOCALIC LbbLbaRbbR",
  "acNGE SIGNadNIS RACQUET AND BALLadTacST TUBEacTRAGRAM FOR ACCUMULATIONapDVANCEapGGRAVATION",
  "apSCENTaoBARRIERapOLD RESOLUTIONapRANCHING OUTaoCENTREapHANGEapLOSED MOUTHatNESSasUREapOMPLETION",
  "atIANCEaqNSTANCYarTACTasENTIONasRARIETYaoDARKENINGapECISIVENESSaqFECTIVENESS OR DISTORTION",
  "aqPARTUREapIFFICULTIESaqMINISHMENTarMINGaqVERGENCEapOUBTapUTIESaoEASEapMBELLISHMENTapNCOUNTERS",
  "aqDEAVOURaqLARGEMENTapTERNITYapXHAUSTIONaoFAILUREapLIGHTapOLLOWINGaqSTERINGapULL CIRCLEasNESS",
  "aoGATHERINGax INapOING TO MEETapREATNESSapUARDEDNESSaoHARDNESSapOLDING BACKaoINCREASEaqNERaoJOY",
  "aoKEEPING SMALLapINSHIPaoLABOURINGaqW OR MODELapEGIONaoMASSINGapEASUREapIREDaoON THE VERGE",
  "apPPOSITIONaoPACKINGaqTTERNapENETRATIONapURITYaoREACHaqLEASEaqSIDENCEasSTANCEarPONSEapITUAL",
  "aoSEVERANCEapINKINGapTOPPAGEarVEaqRENGTHaoUNITYaoVASTNESS OR WASTINGaoWAITINGaqTCHaoYOUTHFULNESS",
  "abHAANA AABAAFILIaiBAFILIahEBEFILIaiEBEEFILIaiYBEYFILIahIBIFILIahLETTER AINUapLIFUaoBAA",
  "aoCHAVIYANIaoDAADHUaqVIYANIapHAALUaoFAAFUaoGAAFUapHAINUapNAVIYANIaoHAAapHAAaoJAVIYANIaoKAAFU",
  "apHAAaoLAAMUapHAVIYANIaoMEEMUaoNAAapOONUaoPAVIYANIaoQAAFUaoRAAaoSAADHUapEENUapHAVIYANIaqEENU",
  "aoTAVIYANIapHAAasLUapOapTAAaoVAAVUaoWAAVUaoYAAaoZAAaqVIYANIapOahOABOAFILIaiBOFILIaiOBOOFILI",
  "ahSUKUNahUBUFILIadI CHARACTER ANGKHANKHUapBO BAIMAIapCHO CHANaxGavINGavOEapDO CHADAasDEKapFO FA",
  "auNarNGMANapHO HIPasNOKHUKapKHO KHAIavONavUATavWAIatRAKHANGasMUTaqO KAIapLAKKHANGYAOaqO CHULA",
  "asLINGaqUapMAI CHATTAWAatEKatHAN-AKATatTHOauRIasTAIKHUasYAMOKaqO MAapNGO NGUaqIKHAHITaqO NENatU",
  "apO ANGapPAIYANNOIaqHINTHUarO PHANavUNGatSAMPHAOaqO PLAapRO RUAaqUapSARA AavAavEavI MAIMALAI",
  "bbUANavMauEauIavIauOauUavEawEavUaqO RUSIasSALAatOatUAapTHANTHAKHATarO NANGMONTHOatPHUTHAO",
  "atTHAHANawNavONGavUNGaqO PATAKasTAOapWO WAENapYAMAKKANaqO YAKatINGagURRENCY SYMBOL BAHT",
  "afDIGIT EIGHTalFIVEamOURalNINEalONEalSEVENamIXalTHREEamWOalZEROacERE DOES NOT EXISTagEXISTS",
  "afFOREaeMODYNAMICagMETERacIN GREEK CROSSafSALTIREagPACEaeKING FACEadRD PLACE MEDALacONG SANDAL",
  "adUGHT BALLOONacREE BUTTON MOUSEagCONSECUTIVE EQUALS SIGNSagDIMENSIONAL ANGLEahOT PUNCTUATION",
  "agLEFTWARDS ARROWSahINES CONVERGING LEFTaxRIGHTagNETWORKED COMPUTERSagPOINTED BLACK STAR",
  "agRAYS ABOVEalBELOWalLEFTalRIGHTahIGHTWARDS ARROWSagSPEECH BUBBLES",
  "af-D BOTTOM-LIGHTED RIGHTWARDS ARROWHEADaiLEFT-LIGHTED DOWNWARDS EQUILATERAL ARROWHEAD",
  "aiRIGHT-LIGHTED UPWARDS EQUILATERAL ARROWHEADaiTOP-LIGHTED LEFTWARDS EQUILATERAL ARROWHEAD",
  "auRIGHTWARDS ARROWHEADbfEQUILATERAL ARROWHEADagEM DASHagPER-EM SPACEacUMBS DOWN SIGNahUP SIGN",
  "adNDER CLOUD AND RAINahSTORMabIBETAN ASTROLOGICAL SIGN -KHYUD PAbaSDONG TSHUGS",
  "bbGRA GCAN -CHAR RTAGSaiCANTILLATION SIGN CANG TE-UbaHEAVY BEATbaLIGHT BEATbaSBUB -CHAL",
  "aiDIGIT EIGHTaoFIVEapOURaoHALF EIGHTatFIVEauOURatNINEatONEatSEVENauIXatTHREEauWOatZEROaoNINE",
  "aoONEaoSEVENapIXaoTHREEapWOaoZEROaiKU RU KHAar BZHI MIG CANaiLETTER -AapAapBAaqHAapCAaqHAapDA",
  "aqDAarHAaqHAaqZAarHAapFIXED-FORM RAapGAaqHAapHAapJAapKAaqHAaqKAaqSSAapLAapMAapNAaqGAaqNAaqYAapPA",
  "aqHAapRAaqRAapSAaqHAaqSAapTAaqHAaqSAarHAaqTAarHAapWAapYAapZAaqHAajOGOTYPE SIGN CHAD RTAGS",
  "awLHAG RTAGSaiMARK ANG KHANG GYASazONanBKA- SHOG GI MGO RGYANaxYIG MGOaoSDUS RTAGS",
  "apKA- SHOG GI MGO RGYANaqUR YIG MGOanCARET -DZUD RTAGS BZHI MIG CANbfME LONG CAN",
  "atYIG MGO PHUR SHAD MAaoHE MGOaoLOSING BRDA RNYING YIG MGO SGAB MAavYIG MGO SGAB MA",
  "anDELIMITER TSHEG BSTARanGTER TSHEGasYIG MGO -UM GTER TSHEG MAbeRNAM BCAD MAbaTRUNCATED A",
  "aoUG RTAGS GYASazONanHALANTAanINITIAL BRDA RNYING YIG MGO MDUN MAavYIG MGO MDUN MA",
  "apTERSYLLABIC TSHEGanLEADING MCHAN RTAGSanMNYAM YIG GI MGO RGYANanNGAS BZUNG NYI ZLAaySGOR RTAGS",
  "aoYIS SHADasTSHEGax SHADanPALUTAanRGYA GRAM SHADaoIN CHEN SPUNGS SHADanSBRUL SHADaoHAD",
  "anTRAILING MCHAN RTAGSaoSA -PHRUapHEG SHADanYIG MGO TSHEG SHAD MAaiSIGN GRU CAN RGYINGS",
  "arMED RGYINGSanINVERTED MCHU CANanLCE TSA CANapI RTAGSanMAR TSHESaoCHU CANanNYI ZLA NAA DA",
  "anRDEL DKAR GCIGayNYISaySUMaxRDEL NAGasNAG GCIGaxNYISaxSUMawRDEL DKARaoJES SU NGA ROaoNAM BCAD",
  "anSNA LDANanYANG RTAGSapR TSHESajUBJOINED LETTER -AazAazBAbaHAazCAbaHAazDAbaDAbbHAbaHAbaZAbbHA",
  "azFIXED-FORM RAbkWAbkYAazGAbaHAazHAazJAazKAbaHAbaSSAazLAazMAazNAbaGAbaNAbaYAazPAbaHAazRAazSAbaHA",
  "baSAazTAbaHAbaSAbbHAbaTAbbHAazWAazYAazZAbaHAasSIGN INVERTED MCHU CANaxLCE TSA CANaxMCHU CAN",
  "ajYLLABLE OMakMBOL DRIL BUapNOR BUav BZHI -KHYILawGSUM -KHYILawNYIS -KHYILapPADMA GDANaqHUR PA",
  "apRDO RJEaw RGYA GRAMaiVOWEL SIGN AAatEauEatIauIatOauOatREVERSED IbdIatUauUatVOCALIC LbcLbbRbcR",
  "acCKETacE OVER INFINITYacFINAGH CONSONANT JOINERajLETTER AHAGGAR YAZHarYER YAGH",
  "aqBERBER ACADEMY YAHbhJaqTAWELLEMET YAZarUAREG YAGHbaNazHazKbaHazNGazQazZHaqYAasAasBatHasCHasD",
  "atDauHatHasFasGatHauHasHatHasJasKatHauHasLasMasNasPasQasRatRasSatHatSasTatHatTasVasWasYasZatHatZ",
  "arEasYarIarOarUajMODIFIER LETTER LABIALIZATION MARKajSEPARATOR MARKacGERaf FACE",
  "adHT TRIFOLIATE SNOWFLAKEacLDEaf OPERATORao ABOVE LEFTWARDS ARROWavRIGHTWARDS ARROW",
  "apWITH DOT ABOVEauRISING DOTSagWITH DOT ABOVEapBELOWalRING ABOVEacMER CLOCK",
  "aeS WITH LEFT HALF BLACKalRIGHT HALF BLACKacNYae TWO DOTS OVER ONE DOT PUNCTUATIONacRED FACE",
  "adHUTA ABBREVIATION SIGNajNJIaiDIGIT EIGHTaoFIVEapOURaoNINEaoONEaoSEVENapIXaoTHREEapWOaoZERO",
  "aiGVANGaiLETTER AaqAaqIaqUapBAaqHAapCAaqHAapDAaqDAarHAaqHAapEapGAaqHAapHAapIaqIapJAaqHAapKAaqHA",
  "apLAapMAapNAaqGAaqNAaqYAapOapPAaqHAapRAapSAaqHAaqSAapTAaqHAaqTAarHAapUaqUapVAaqOCALIC LayLaxRayR",
  "apYAaiOMaiSIGN ANUSVARAaoVAGRAHAanCANDRABINDUanNUKTAanVIRAMAapSARGAaiVOWEL SIGN AAauIauUatEatI",
  "auIatOatSHORT EazOatUauUatVOCALIC LbcLbbRbcRadONIAN SIGN CAPITAL ETaoETabOILETacKYO TOWERacMATO",
  "acNGUEacOLBOXadTHafBRUSHacP ARC ANTICLOCKWISE ARROWbb WITH PLUSaiCLOCKWISE ARROW WITH MINUS",
  "aeCURLY BRACKETaeHALF BLACK CIRCLEajINTEGRALajLEFT PARENTHESISajRIGHT PARENTHESISajSECTION SIGN",
  "agTaeLEFT CORNERakROPajHALF BRACKETaePARENTHESISaeRIGHT CORNERalROPakHALF BRACKET",
  "aeSQUARE BRACKETaeTORTOISE SHELL BRACKETaeWITH UPWARDS ARROW ABOVE",
  "acRTOISE SHELL BRACKETED CJK UNIFIED IDEOGRAPH-4E09bx8Cbv52DDbwB89bv6253bw557bw72Cbv70B9bw6D7",
  "azLATIN CAPITAL LETTER SacTAL RUNOUTadO LETTER AanEamBAanREATHY AEauEavOauIavUamCHAamDAamEanO",
  "amGAamHAamIanUamJAamKAamLAamMAamNAanGAamOamPAamRAamSAamTAamUamWAamYAafSIGN RISING TONEabRACKBALL",
  "aeTORadDE MARK SIGNadINadMae CARadNSPLUTOafVERSAL INTERSECTIONacIANGLE WITH DOT ABOVE",
  "aoROUNDED CORNERSaoSERIFS AT BOTTOMaoUNDERBARai-HEADED RIGHTWARDS ARROWagULAR BULLET",
  "alFLAG ON POSTalRULERadCOLONadDENT EMBLEMadGRAM FOR EARTHamFIREamHEAVENamLAKEamMOUNTAINamTHUNDER",
  "amWATERanINDadPLE COLON OPERATORahDAGGERahHORIZONTAL BAR WITH DOUBLE VERTICAL STROKE",
  "bbTRIPLE VERTICAL STROKEahINTEGRALahNESTED GREATER-THANaoLESS-THANahPLUSaiRIME",
  "ahSOLIDUS BINARY RELATIONahTILDEahVERTICAL BAR BINARY RELATIONauDELIMITERauRIGHT TURNSTILE",
  "auWITH HORIZONTAL STROKEacOLLafEYBUSadPHYaeICAL DRINKajFISHacUEae LIGHT MOON ARTAadMPET",
  "abUGRIK SIGNacLIPacMBLER GLASSacRKEYaeISH LIRA SIGNadNED AMPERSANDaiNGLEahBLACK PENTAGON",
  "anSHOGI PIECEahCAPITAL FaiOMMAahDAGGERaiIGIT THREEaoWOahGREEK SMALL LETTER IOTA",
  "ahNORTH EAST POINTING LEAFanWEST POINTING LEAFajT SIGNahOK HAND SIGNahSANS-SERIF CAPITAL GbaLbaY",
  "aiEMICOLONaiMALL FaiOUTH EAST POINTING LEAFanWEST POINTING LEAFahWHITE SHOGI PIECEadTLE",
  "abWELVE POINTED BLACK STARacISTED RIGHTWARDS ARROWSacO ASTERISKS ALIGNED VERTICALLY",
  "aeBUTTON MOUSEaeCONSECUTIVE EQUALS SIGNSaeDOT LEADERaiPUNCTUATIONahS OVER ONE DOT PUNCTUATION",
  "aeHEARTSaeINTERSECTING LOGICAL ANDazORaeJOINED SQUARESaeLOGICAL AND OPERATORamOR OPERATOR",
  "aeMEN HOLDING HANDSaeSPEECH BUBBLESaeWOMEN HOLDING HANDSad-EM DASHaaUGARITIC LETTER AINarLPA",
  "aqBETAaqDELTAarHALaqGAMLAarHAINaqHOasTAaqIaqKAFarHAaqLAMDAaqMEMaqNUNaqPUaqQOPAaqRASHAaqSADEasMKA",
  "arHINarSUaqTETarHANNAarOaqUaqWOaqYODaqZETAarUajWORD DIVIDERabMBRELLAai ON GROUND",
  "ajWITH RAIN DROPSabNAMUSED FACEacCERTAINTY SIGNacDERTIEadO SYMBOLacICORN FACEadON",
  "af ABOVE BAR ABOVE INTERSECTIONamINTERSECTIONagBESIDE AND JOINED WITH UNIONagWITH LOGICAL OR",
  "alMINUS SIGNalOVERBARadT SEPARATORaeED SYMBOLadVERSAL RECYCLING SYMBOL",
  "acMARRIED PARTNERSHIP SYMBOLabP ARROW THROUGH CIRCLEaiHEADam BETWEEN TWO HORIZONTAL BARS",
  "anIN A RECTANGLE BOXadBARB LEFT DOWN BARB LEFT HARPOONaxRIGHT HARPOON",
  "aiRIGHT DOWN BARB LEFT HARPOONayRIGHT HARPOONadDOWN ARROWan WITH BASEaiBLACK ARROWaiDOUBLE ARROW",
  "aiSANS-SERIF ARROWaiTRIANGLE-HEADED ARROWaiWHITE ARROWadFISH TAILadRIGHT DIAGONAL ELLIPSISadTACK",
  "ah WITH CIRCLE ABOVEac-POINTING AIRPLANEamMILITARY AIRPLANEamRED TRIANGLEamSMALL AIRPLANE",
  "asRED TRIANGLEamTRIANGLE WITH LEFT HALF BLACKbaRIGHT HALF BLACK",
  "acPER AND LEFT AND LOWER TRIANGULAR THREE QUARTERS BLOCKalOWER ONE EIGHTH BLOCK",
  "aqTRIANGULAR HALF BLOCKakRIGHT AND LOWER TRIANGULAR THREE QUARTERS BLOCKagBLADE SCISSORS",
  "agFIVE EIGHTHS BLOCKagHALF BLOCKaq AND LOWER HALF INVERSE MEDIUM SHADEalCIRCLE",
  "alINVERSE MEDIUM SHADE AND LOWER HALF BLOCKatWHITE CIRCLEalMEDIUM SHADE",
  "agLEFT BLOCK DIAGONAL LOWER CENTRE TO LOWER MIDDLE RIGHTbqUPPER MIDDLE RIGHTbwRIGHT",
  "bgLEFT TO LOWER MIDDLE RIGHTboUPPER CENTREbuMIDDLE RIGHTbgMIDDLE LEFT TO UPPER CENTRE",
  "cbMIDDLE RIGHTcbRIGHTbaUPPER MIDDLE LEFT TO UPPER CENTREcbRIGHTalCORNER WITH DOT",
  "alOR LOWER RIGHT CURLY BRACKET SECTIONalQUADRANT CIRCULAR ARCalTO LOWER RIGHT FILLamRIANGLE",
  "arULAR MEDIUM SHADEagONE EIGHTH BLOCKakQUARTER BLOCK",
  "agRIGHT BLOCK DIAGONAL LOWER MIDDLE LEFT TO LOWER CENTREccRIGHT",
  "bbUPPER CENTRE TO LOWER MIDDLE RIGHTbxRIGHTbrUPPER MIDDLE RIGHTbhLEFT TO LOWER CENTRE",
  "bvMIDDLE RIGHTbpUPPER MIDDLE RIGHTbhMIDDLE LEFT TO LOWER CENTREccMIDDLE RIGHTccRIGHT",
  "amDROP-SHADOWED WHITE SQUAREamOR LOWER LEFT CURLY BRACKET SECTIONamPENCILamQUADRANT CIRCULAR ARC",
  "amSHADOWED WHITE CIRCLEbbSQUAREamTO LOWER LEFT FILLanRIANGLEasULAR MEDIUM SHADE",
  "agSEVEN EIGHTHS BLOCKagTHREE EIGHTHS BLOCKamQUARTERS BLOCKahRIANGULAR ONE QUARTER BLOCK",
  "acSIDE-DOWN FACEacWARDS ANCORAajRROWan AND RIGHT ONE EIGHTH BLOCKaoFROM BAR",
  "aoLEFTWARDS OF DOWNWARDS ARROWaoTO BARaoWITH DOUBLE STROKEatEQUILATERAL ARROWHEAD",
  "atHORIZONTAL STROKEatLARGE TRIANGLE ARROWHEADatMEDIUM TRIANGLE ARROWHEADatNOTCHED TAIL",
  "atSMALL EQUILATERAL ARROWHEADazTRIANGLE ARROWHEADatTIP LEFTWARDSaxRIGHTWARDSaiBLACK ARROW",
  "aoCIRCLED WHITE ARROWaiCOMPRESSED ARROWaiDASHED ARROWajOUBLE ARROWaiFINGER-POST ARROW",
  "aiHARPOON WITH BARB LEFT BESIDE DOWNWARDS HARPOON WITH BARB RIGHT",
  "bmUPWARDS HARPOON WITH BARB RIGHTbfFROM BARbfTO BARbeWARDSbaRIGHT FROM BARbgTO BARbfWARDS",
  "ajEAVY ARROWaoCOMPRESSED ARROWaiPAIRED ARROWSaiQUADRUPLE ARROWaiROCKETaiSANS-SERIF ARROW",
  "ajQUARED ARROWaiTRIANGLE ARROWHEADaq-HEADED ARROWbd LEFTWARDS OF DOWNWARDS TRIANGLE-HEADED ARROW",
  "beTO BARbeWITH BOLD SHAFTbjDOUBLE HORIZONTAL STROKEbjHEAVY SHAFTbjLONG TIP LEFTWARDSbsRIGHTWARDS",
  "bjMEDIUM SHAFTbjNARROW SHAFTbjVERY HEAVY SHAFTayDASHED ARROWayPAIRED ARROWSalPLE ARROW",
  "ajWO HEADED ARROWal-HEADED ARROW FROM SMALL CIRCLEazWITH TRIANGLE ARROWHEADSaiWHITE ARROW",
  "at FROM BARbc WITH HORIZONTAL BARauON PEDESTALbf WITH HORIZONTAL BARblVERTICAL BAR",
  "auWITHIN TRIANGLE ARROWHEADaoDOUBLE ARROWba ON PEDESTALabRANUSabSaaVAI COMMAaeDIGIT EIGHTakFIVE",
  "alOURakNINEakONEakSEVENalIXakTHREEalWOakZEROaeFULL STOPaeQUESTION MARKaeSYLLABLE AaoNanBAaoEapE",
  "aoHAapEaqEapIapOaqOapUaoIaoOapOaoUanCAaoEapEaoIaoOapOaoUanDAaoEapEaoHAapEaqEapHAaqEarEaqIaqOarO",
  "aqUapIapOaqOapUaoIaoOapOaoUanEaoEapNaoNanFAaoEapEaoIaoOapOaoUanGAaoBAapEaqEaqNapIapOaqNaqOapUaoE",
  "apEapNaoIaoOapOaoUanHAapNaoEapEapNaoIapNaoOapNapOaoUapNanIaoNanJAaoEapEaoIaoOapOaoUanKAapNaoEapE",
  "aoIaoOapOaoPAaqNapEaqEaqNapIapOaqOapUaoUanLAaoEapEapNGTHENERaoIaoOapOaoUanMAaoBAapEaqEapIapOaqO",
  "apUaoEapEaoGBAaqEarEaqIaqOarOaqUaoIaoOapOaoUanNAaoDAapEaqEapIapOaqLE DOatFAatKAatMAatSOOaqOapU",
  "aoEapEaoGapANapENapGAaqEarEarNaqIaqOarOaqUapONaoIaoJAapEaqEapIapOaqOapUaoOapOaoUaoYAapEaqEapIapO",
  "aqOapUanOaoNaoOapNanPAaoEapEaoIaoOapOaoUanRAaoEapEaoIaoOapOaoUanSAaoEapEaoHAapEaqEapIapOaqOapU",
  "aoIaoOapOaoUanTAaoEapEaoHAapEaqEapIapOaqOapUaoIaoOapOaoUanUaoNanVAaoEapEaoIaoOapOaoUanWAapNaoE",
  "apEaqNapNaoIapNaoOapNapOaqNaoUapNanYAaoEapEaoIaoOapOaoUanZAaoEapEaoHAapEaqEapIapOaqOapUaoIaoOapO",
  "aoUagMBOL BANGalDANGamO-OanONGalFAAamEENGalJONGalKEENGamUNGalNIIalTAAamINGamONGacMPIRE",
  "acRIATION SELECTOR-1au0av0av1av2av3av4av5av6av7av8av9au1av0av1av2av3av4av5av6av7av8av9au2av0av1",
  "av2av3av4av5av6av7av8av9au3av0av1av2av3av4av5av6av7av8av9au4av0av1av2av3av4av5av6av7av8av9au5av0",
  "av1av2av3av4av5av6av7av8av9au6av0av1av2av3av4av5av6av7av8av9au7av0av1av2av3av4av5av6av7av8av9au8",
  "av0av1av2av3av4av5av6av7av8av9au9av0av1av2av3av4av5av6av7av8av9at2au0av0av1av2av3av4av5av6av7av8",
  "av9au1av0av1av2av3av4av5av6av7av8av9au2av0av1av2av3av4av5av6av7av8av9au3av0av1av2av3av4av5av6av7",
  "av8av9au4av0av1av2av3av4av5av6av7av8av9au5av0av1av2av3av4av5av6au6au7au8au9at3au0au1au2au3au4au5",
  "au6au7au8au9at4au0au1au2au3au4au5au6au7au8au9at5au0au1au2au3au4au5au6au7au8au9at6au0au1au2au3au4",
  "au5au6au7au8au9at7au0au1au2au3au4au5au6au7au8au9at8au0au1au2au3au4au5au6au7au8au9at9au0au1au2au3",
  "au4au5au6au7au8au9abECTOR OR CROSS PRODUCTacDIC SIGN ANUSVARA ANTARGOMUKHAauBAHIRGOMUKHA",
  "auUBHAYATO MUKHAauVAMAGOMUKHAbf WITH TAILamRDHAVISARGAamTIKRAMAalDOUBLE ANUSVARA ANTARGOMUKHA",
  "alHEXIFORM LONG ANUSVARAalJIHVAMULIYAalLONG ANUSVARAalNIHSHVASAalREVERSED VISARGA ANUDATTA",
  "bcUDATTAamOTATED ARDHAVISARGAamTHANG LONG ANUSVARAalTIRYAKalUPADHMANIYAalVISARGA ANUDATTA",
  "bb WITH TAILatSVARITAatUDATTAaz WITH TAILalYAJURVEDIC MIDLINE SVARITA",
  "agTONE ATHARVAVEDIC INDEPENDENT SVARITAalCANDRA ABOVEasBELOWalDOT BELOWanUBLE RING ABOVE",
  "asSVARITAalKARSHANAanTHAKA ANUDATTAalPRENKHAalRIGVEDIC KASHMIRI INDEPENDENT SVARITAanNG ABOVE",
  "alSHARAalTHREE DOTS BELOWamRIPLE SVARITAamWO DOTS BELOW",
  "alYAJURVEDIC AGGRAVATED INDEPENDENT SVARITAawINDEPENDENT SVARITAawKATHAKA INDEPENDENT SVARITA",
  "bx SCHROEDERacRSICLEadTICAL BAR BESIDE RIGHT TRIANGLEanDOUBLE LEFT TURNSTILE",
  "anTRIPLE RIGHT TURNSTILEanWITH HORIZONTAL STROKEajELLIPSISajFOUR DOTS",
  "ajIDEOGRAPHIC ITERATION MARKajKANA REPEAT MARKaz LOWER HALFbaUPPER HALFavWITH VOICED SOUND MARK",
  "br UPPER HALFajLINEan EXTENSIONaoWITH CIRCLE ABOVEbaBELOWatMIDDLE DOTajMALE WITH STROKE SIGN",
  "ajONE EIGHTH BLOCK-2ba3ba4ba5ba6ba7ajSIX DOTSajTAB KEYamULATIONat SETakILDEakRAFFIC LIGHT",
  "ajZIGZAG LINEadY BOLD GREEK CROSSafHEAVY EIGHT POINTED BLACK STARarSPOKED ASTERISK",
  "alFIVE SPOKED ASTERISKalGREEK CROSSalREVERSE SOLIDUSalSALTIREamIX SPOKED ASTERISKamOLIDUS",
  "alWHITE CIRCLEarSQUAREafMUCH GREATER-THANakLESS-THANacSTAabIBRATION MODEacCTORY HANDacDEO CAMERA",
  "agGAMEafCASSETTEacETNAMESE ALTERNATE READING MARK CAbiNHAYadWDATA SQUAREacOLINacRGO",
  "acTHKUQI CAPITAL LETTER AayBBEazEayCEazHEayDEazHEayEazIayFEayGAayHAazHAayIazJEayJEayKAayLAazLA",
  "ayMEayNEazJEayOayPEayQAayREaySEazHEayTEazHEayUayVEayXEayYayZEajSMALL LETTER AawBBEaxEawCEaxHE",
  "awDEaxHEawEaxIawFEawGAawHAaxHAawIaxJEawJEawKAawLAaxLAawMEawNEaxJEawOawPEawQAawREawSEaxHEawTEaxHE",
  "awUawVEawXEawYawZEabOIDED GREEK CROSSacLCANOadLEYBALLadUME INTEGRALabS1ad0ae0ae1ae2ae3ae4ae5ae6",
  "ae7ae8ae9ad1ae0ae1ae2ae3ae4ae5ae6ae7ae8ae9ad2ae0ae1ae2ae3ae4ae5ae6ae7ae8ae9ad3ae0ae1ae2ae3ae4ae5",
  "ae6ae7ae8ae9ad4ae0ae1ae2ae3ae4ae5ae6ae7ae8ae9ad5ae0ae1ae2ae3ae4ae5ae6ae7ae8ae9ad6ae0ae1ae2ae3ae4",
  "ae5ae6ae7ae8ae9ad7ae0ae1ae2ae3ae4ae5ae6ae7ae8ae9ad8ae0ae1ae2ae3ae4ae5ae6ae7ae8ae9ad9ae0ae1ae2ae3",
  "ae4ae5ae6ae7ae8ae9ac2ad0ae0ae1ae2ae3ae4ae5ae6ae7ae8ae9ad1ae0ae1ae2ae3ae4ae5ae6ae7ae8ae9ad2ae0ae1",
  "ae2ae3ae4ae5ae6ae7ae8ae9ad3ae0ae1ae2ae3ae4ae5ae6ae7ae8ae9ad4ae0ae1ae2ae3ae4ae5ae6ae7ae8ae9ad5ae0",
  "ae1ae2ae3ae4ae5ae6ad6ad7ad8ad9ac3ad0ad1ad2ad3ad4ad5ad6ad7ad8ad9ac4ad0ad1ad2ad3ad4ad5ad6ad7ad8ad9",
  "ac5ad0ad1ad2ad3ad4ad5ad6ad7ad8ad9ac6ad0ad1ad2ad3ad4ad5ad6ad7ad8ad9ac7ad0ad1ad2ad3ad4ad5ad6ad7ad8",
  "ad9ac8ad0ad1ad2ad3ad4ad5ad6ad7ad8ad9ac9ad0ad1ad2ad3ad4ad5ad6ad7ad8ad9abTacSabULCANUS",
  "adGAR FRACTION FIVE EIGHTHSavSIXTHSarOUR FIFTHSaqONE EIGHTHauFIFTHauHALFauNINTHauQUARTER",
  "auSEVENTHavIXTHauTENTHavHIRDaqSEVEN EIGHTHSaqTHREE EIGHTHSawFIFTHSawQUARTERSarWO FIFTHSauTHIRDS",
  "aqZERO THIRDSaaWAFFLEacNCHO DIGIT EIGHTanFIVEaoOURanNINEanONEanSEVENaoIXanTHREEaoWOanZERO",
  "ahLETTER AapAaqNarGapNGapUaoBAaoCAaoDAaoEapNaoFAaoGAaoHAaoIapNGaoJAaoKAapHAaoLAapLHAaoMAaoNAapGA",
  "apYAaoOapNaqGaoPAapHAaoRAaoSAapHAaoTAapHAapRAapSAaoUapENaoVAaoWAaoYAapIHaoZAahNGUN SIGN",
  "ahTONE KOIapNIamTUPapNIadING CRESCENT MOON SYMBOLahGIBBOUS MOON SYMBOL",
  "acRANG CITI CAPITAL LETTER AbcMbcNGbcTbbBUbbDAbbEbcNNbdYbbGAbbHARbcIYObcOLObdRRbbIIbbKObbNGAA",
  "bcUNGbbObcDDbbPUbbSIIbcSUUbbTTEbbUCbcUbbVIYObbWIbbYAbcObcUbdJamDIGIT EIGHTasFIVEatOURasNINEasONE",
  "asSEVENatIXasTHREEatWOasZEROamNUMBER EIGHTYatFIFTYauORTYatNINETYatSEVENTYauIXTYatTENauHIRTY",
  "auWENTYamOMamSMALL LETTER AbaMbaNGbaTazBUazDAazEbaNNbbYazGAazHARbaIYObaOLObbRRazIIazKOazNGAA",
  "baUNGazObaDDazPUazSIIbaSUUazTTEazUCbaUazVIYOazWIazYAbaObaUbbJadNING SIGNacSTEBASKETacTCH",
  "adER BUFFALOagCLOSETagPOLOagWAVEafMELONacVE ARROW POINTING DIRECTLY LEFTbdRIGHTafDASH",
  "adING BLACK FLAGahHAND SIGNahWHITE FLAGadY DASHafLINEagOW LINEafOVERLINE",
  "acXING CRESCENT MOON SYMBOLahGIBBOUS MOON SYMBOLabEARY CAT FACEagFACEacDDING",
  "adGE-TAILED RIGHTWARDS ARROWacIERSTRASS ELLIPTIC FUNCTIONadGHT LIFTERacST SYRIAC CROSSabHALE",
  "acEELaf OF DHARMAafCHAIR SYMBOLacITE ARROW SHAFT WIDTH ONEayTWO THIRDSagBULLETagCHESS BISHOP",
  "as ROTATED NINETY DEGREESbbTWO HUNDRED SEVENTY DEGREESamEQUIHOPPERaw ROTATED NINETY DEGREES",
  "amKINGaq ROTATED NINETY DEGREESazTWO HUNDRED SEVENTY DEGREESanNIGHTas ROTATED FORTY-FIVE DEGREES",
  "bbNINETY DEGREESbbONE HUNDRED THIRTY-FIVE DEGREESbbTHREE HUNDRED FIFTEEN DEGREES",
  "bcWO HUNDRED SEVENTY DEGREESbnTWENTY-FIVE DEGREESas-BISHOPatQUEENatROOKamPAWN",
  "aq ROTATED NINETY DEGREESazTWO HUNDRED SEVENTY DEGREESamQUEENar ROTATED NINETY DEGREES",
  "baTWO HUNDRED SEVENTY DEGREESamROOKaq ROTATED NINETY DEGREESazTWO HUNDRED SEVENTY DEGREES",
  "amTURNED BISHOPatKINGauNIGHTatPAWNatQUEENatROOKahIRCLEam CONTAINING BLACK SMALL CIRCLE",
  "anWITH DOT RIGHTauWN ARROWasLOWER LEFT QUADRANTayRIGHT QUADRANTasTWO DOTSasUPPER LEFT QUADRANT",
  "ayRIGHT QUADRANTahLUB SUITahONCAVE-SIDED DIAMONDbb WITH LEFTWARDS TICKbhRIGHTWARDS TICKagDIAMOND",
  "an CONTAINING BLACK MEDIUM DIAMONDbfSMALL DIAMONDbfVERY SMALL DIAMONDaoIN SQUAREaoSUIT",
  "aoWITH CENTRED DOTahOWN POINTING BACKHAND INDEXauINDEXauLEFT HAND INDEX",
  "ak-POINTING SMALL TRIANGLEauTRIANGLEahRAUGHTS KINGapMANagEXCLAMATION MARK ORNAMENTagFLAG",
  "ak WITH HORIZONTAL MIDDLE BLACK STRIPEaiORETTEajWERahOUR POINTED CUSPatSTARahROWNING FACE",
  "agHARD SHELL FLOPPY DISKahEARTal SUITajVY CHECK MARKamSALTIRE WITH ROUNDED CORNERSaiXAGON",
  "ahORIZONTAL ELLIPSEaiURGLASSagLARGE SQUAREaiTIN CROSSahEFT LANE MERGEalPOINTING BACKHAND INDEX",
  "auINDEXak-POINTING POINTERauSMALL TRIANGLEauTRIANGLEahOZENGE CONTAINING BLACK SMALL LOZENGE",
  "agMEDIUM DIAMONDanLOZENGEanSMALL SQUAREaoQUAREaoTARahOON SELENAagNIBagPARALLELOGRAMahENNANT",
  "ajTAGONagQUESTION MARK ORNAMENTagRECTANGLEahIGHT POINTING BACKHAND INDEXavINDEX",
  "al-POINTING PENTAGONawOINTERavSMALL TRIANGLEavTRIANGLEagSCISSORSahESAME DOTahHOGI PIECE",
  "ahMALL LOZENGEamSQUAREanTARaiILING FACEahPADE SUITahQUAREam BUTTON",
  "anCONTAINING BLACK MEDIUM SQUAREbeSMALL SQUAREbeVERY SMALL SQUAREanWITH CENTRE VERTICAL LINE",
  "asLEFTWARDS TICKatOWER LEFT QUADRANTayRIGHT QUADRANTasRIGHTWARDS TICKatOUNDED CORNERS",
  "asUPPER LEFT QUADRANTayRIGHT QUADRANTasVERTICAL BISECTING LINEahTARahUNaj BEHIND CLOUD",
  "aw WITH RAINakWITH RAYSapSMALL CLOUDagTELEPHONEahOUCHTONE TELEPHONEahRAPEZIUM",
  "aiIANGLE CONTAINING SMALL WHITE TRIANGLEahWO-WAY LEFT WAY TRAFFICagUP POINTING BACKHAND INDEX",
  "asINDEXai-POINTING CHEVRONasSMALL TRIANGLEasTRIANGLEba WITH DOTagVERTICAL BARapELLIPSE",
  "apRECTANGLEajY SMALL SQUAREaf-FEATHERED RIGHTWARDS ARROWabIDE-HEADED DOWNWARDS BARB ARROW",
  "awHEAVY BARB ARROWawLIGHT BARB ARROWawMEDIUM BARB ARROWawVERY HEAVY BARB ARROW",
  "amLEFTWARDS BARB ARROWawHEAVY BARB ARROWawLIGHT BARB ARROWawMEDIUM BARB ARROW",
  "awVERY HEAVY BARB ARROWamNORTH EAST BARB ARROWaxHEAVY BARB ARROWaxLIGHT BARB ARROW",
  "axMEDIUM BARB ARROWaxVERY HEAVY BARB ARROWasWEST BARB ARROWaxHEAVY BARB ARROWaxLIGHT BARB ARROW",
  "axMEDIUM BARB ARROWaxVERY HEAVY BARB ARROWamRIGHTWARDS BARB ARROWaxHEAVY BARB ARROW",
  "axLIGHT BARB ARROWaxMEDIUM BARB ARROWaxVERY HEAVY BARB ARROWamSOUTH EAST BARB ARROW",
  "axHEAVY BARB ARROWaxLIGHT BARB ARROWaxMEDIUM BARB ARROWaxVERY HEAVY BARB ARROWasWEST BARB ARROW",
  "axHEAVY BARB ARROWaxLIGHT BARB ARROWaxMEDIUM BARB ARROWaxVERY HEAVY BARB ARROW",
  "amUPWARDS BARB ARROWauHEAVY BARB ARROWauLIGHT BARB ARROWauMEDIUM BARB ARROW",
  "auVERY HEAVY BARB ARROWacGGLY VERTICAL LINEacLTED FLOWERacND BLOWING FACEafCHIMEaeOWadE GLASS",
  "adKING FACEacRED KEYBOARDabJabOLF FACEacMANaf WITH BUNNY EARSafS BOOTSahCLOTHESahHATahSANDAL",
  "adENS SYMBOLacN SIGNacODacRD JOINERafSEPARATOR MIDDLE DOTadLD MAPadMadRIED FACEabRAPPED PRESENT",
  "acEATH PRODUCTadNCHadSTLERSacITING HANDaaX IN A RECTANGLE BOXab-RAYabIANGQI BLACK CANNONapHARIOT",
  "aoELEPHANTaoGENERALaoHORSEaoMANDARINaoSOLDIERaiRED CANNONanHARIOTamELEPHANTamGENERALamHORSE",
  "amMANDARINamSOLDIERabORaaYAWNING FACEabELLOW HEARTacN SIGNacZIDI COMBINING HAMZA MARK",
  "arMADDA MARKahHYPHENATION MARKahLETTER BEaoCHHIMaqIMapIMaoDADaqLaoELIFapTapWapYNaoFAaoGAFaoHAY",
  "apHAaoJAaoKAFapHAFaoLAMar WITH DOT ABOVEaoMIMaoNUNaoOWaoPEapHEaoQAFaoRAapHAaoSADapEapHINapINaoTA",
  "apHEaoUMaoVAaq ALTERNATE FORMaoWAWaoXAapHEYNaoYOTar WITH CIRCUMFLEX ABOVEaoZAaqLapE",
  "abI RADICAL BBUTamURalCHEamIPamUOPamYanPanTalDDURamUalGAamEPamGOPanUOamOTalHMOamXITanOPanUO",
  "alJJIEanUTanYamOalKEamITalLIanEamYRalMIamOPalNBIEamYIPanOPamZUPalOPalPUTamYTalQOTalSHATanOPanUR",
  "anYamSIalTATamUalVEPamURalWOalYITamOalZAamOTamUPanRamZIETadSYLLABLE AanPanTanXamBAaoPaoTaoXanBA",
  "apPapTapXaoEapPapXaoIapEaqPaqTaqXapPapTapXaoOapPapTapXaoUapOaqPaqXapPapRaqXapTapXaoYapPapTapXanE",
  "aoPaoXanIaoEapPapTapXaoPaoTaoXanOaoPaoTaoXanUaoOapPapXaoPaoRapXaoTaoXanYaoPaoRapXaoTaoXamCAaoP",
  "aoTaoXanEaoPaoXanHAapPapTapXaoEapPapTapXaoOapPapTapXaoUapOaqPaqTaqXapPapRaqXapXaoYapPapRaqXapT",
  "apXanIaoEapPapTapXaoPaoTaoXanOaoPaoTaoXanUaoOapPapXaoPaoRapXaoTaoXanYaoPaoRapXaoTaoXamDAaoPaoT",
  "aoXanDAapPapTapXaoEapPapXaoIapEaqPaqXapPapTapXaoOapPapTapXaoUapOaqPaqXapPapRaqXapTapXanEaoPaoX",
  "anIaoEapPapXaoPaoTaoXanOaoPaoTaoXanUaoOapXaoPaoRapXaoTaoXamEanXamFAaoPaoTaoXanIaoPaoTaoXanOaoP",
  "aoXanUaoPaoRapXaoTaoXanYaoPaoTaoXamGAaoPaoTaoXanEaoPaoTaoXanGAapPapTapXaoEapPapTapXaoIapEaqPaqX",
  "apTapXaoOapPapTapXaoUapOaqPaqTaqXapPapRaqXapTapXanIaoEapPapTapXaoPaoTaoXanOaoPaoTaoXanUaoOapPapT",
  "apXaoPaoRapXaoTaoXamHAaoPaoTaoXanEaoPaoXanIEapXaoTanLAapPapTapXaoEapPapXaoIapEaqPaqXapPapTapXaoO",
  "apPapXaoUapOaqPaqXapPapRaqXapTapXaoYapPapRaqXapTapXanMAapPapTapXaoIapEaqPaqXapPapTapXaoOapPapT",
  "apXaoUapOaqPaqXapPapRaqXapTapXaoYapPapRaqXapXanNAapPapTapXaoEapPapXaoIapEaqPaqTaqXapPapTapXaoOP",
  "apTapXaoUOaqXapTanOaoPaoTaoXanUOapPapTapXanXAapPapTapXaoEapPapXaoIapEaqPaqTaqXapPapTapXaoOapPapT",
  "apXaoUOaqPaqTaqXamIanEaoPaoTaoXanPanTaoERATION MARKanXamJIaoEapPapTapXaoPaoTaoXanJIapEaqPaqTaqX",
  "apPapTapXaoOapPapTapXaoUapOaqPaqXapPapRaqXapTapXaoYapPapTapXanOaoPaoTaoXanUaoOapPapTapXaoPaoRapX",
  "aoTaoXanYaoPaoRapXaoTaoXamKAaoPaoTaoXanEaoPaoTaoXanIaoEapPapXaoPaoTaoXanOaoPaoTaoXanUaoOapPapX",
  "aoPaoRapXaoTaoXamLAaoPaoTaoXanEaoPaoXanIaoEapPapTapXaoPaoTaoXanOaoPaoTaoXanUaoOapPapTapXaoPaoR",
  "apXaoTaoXanYaoPaoRapXaoTaoXamMAaoPaoTaoXanEaoXanGAapPapTapXaoEapPapXaoIEaqXaoOapPapTapXaoUapOaqP",
  "aqXapPapRaqXapTapXanIaoEapPapXaoPaoTaoXanOaoPaoTaoXanUaoOapPapTapXaoPaoRapXaoTaoXanYaoPaoTaoX",
  "amNAaoPaoXanBAapPapTapXaoIapEaqPaqXapPapTapXaoOapPapTapXaoUapPapRaqXapTapXaoYapPapRaqXapTapXanDA",
  "apPapTapXaoEapPapXaoIapEaqXapPapTapXaoOapPapTapXaoUapPapRaqXapTapXanEaoPaoXanGAapPapTapXaoEapP",
  "apXaoIEaqPaqXaoOapPapTapXaoUOaqTaqXanIaoEapPapXaoPaoTaoXanJIapEaqPaqTaqXapPapTapXaoOapPapTapXaoU",
  "apOaqXapPapRaqXapXaoYapPapRaqXapTapXanOaoPaoTaoXanRAapPapTapXaoEapPapTapXaoOapPapXaoUapPapRaqX",
  "apTapXaoYapPapRaqXapTapXanUaoOapPapXaoPaoRapXaoTaoXanYIapEaqPaqTaqXapPapTapXaoOapPapTapXaoUapO",
  "aqPaqXapPapTapXanZAapPapTapXaoEapXaoIapEaqPaqXapPapTapXaoOPapXaoUapOaqXapPapRaqXapXaoYapPapRaqX",
  "apTapXamOanPanTanXamPAaoPaoTaoXanIaoEapPapXaoPaoTaoXanOaoPaoTaoXanUaoOapPapXaoPaoRapXaoTaoXanY",
  "aoPaoRapXaoTaoXamQIaoEapPapTapXaoPaoTaoXanOaoPaoTaoXanUaoOapPapTapXaoPaoRapXaoTaoXanYaoPaoRapX",
  "aoTaoXamRAaoPaoTaoXanEaoPaoXanOaoPaoTaoXanRAapXaoEapPapTapXaoOapPapTapXaoUapOaqXapPapRaqXapTapX",
  "aoYapPapRaqXapTapXanUaoOapPapXaoPaoRapXaoTaoXanYaoPaoRapXaoTaoXamSAaoPaoTaoXanEaoPaoXanHAapPapT",
  "apXaoEapPapTapXaoOapPapTapXaoUapOaqPaqXapPapRaqXapTapXaoYapPapRaqXapTapXanIaoEapPapXaoPaoTaoXanO",
  "aoPaoTaoXanSAapPapTapXaoEapPapXaoIapEaqPaqXapPapTapXaoOapPapTapXaoUapPapTapXaoYapPapRaqXapTapX",
  "anUaoOapPapXaoPaoRapXaoTaoXanYaoPaoRapXaoTaoXamTAaoPaoTaoXanEaoPaoXanIaoEapPapXaoPaoTaoXanOaoP",
  "aoTaoXanUaoOapPapTapXaoPaoRapXaoTaoXamUOaoPaoXamVAaoPaoTaoXanEPaoXanIaoEapPapTapXaoPaoTaoXanOaoP",
  "aoTaoXanUaoPaoRapXaoTaoXanYaoPaoRapXaoTaoXamWAaoPaoTaoXanEaoPaoXanOaoPaoXanUaoOapPapXamXIaoEapP",
  "apTapXaoPaoTaoXanOaoPaoTaoXanUOapXanYaoPaoRapXaoTaoXamYIaoEapPapTapXaoPaoTaoXanOaoPaoTaoXanUaoO",
  "apPapTapXaoPaoRapXaoTaoXanYaoPaoRapXaoTaoXamZAaoPaoTaoXanEaoPaoXanHAapPapTapXaoEapPapTapXaoOapP",
  "apTapXaoUapOaqPaqXapPapRaqXapTapXaoYapPapRaqXapTapXanIaoEapPapXaoPaoTaoXanOaoPaoTaoXanUaoOapPapX",
  "aoPaoRapXaoTaoXanYaoPaoRapXaoTaoXanZAapPapTapXaoEapPapXaoIapEaqPaqTaqXapPapTapXaoOapPapXaoUapP",
  "apRaqXapXaoYapPapRaqXapTapXacN YANGabO-YOaaZ NOTATION BAG MEMBERSHIPalDOMAIN ANTIRESTRICTION",
  "alLEFT BINDING BRACKETaqIMAGE BRACKETalRANGE ANTIRESTRICTIONamELATIONAL COMPOSITION",
  "amIGHT BINDING BRACKETarIMAGE BRACKETalSCHEMA COMPOSITIONasPIPINGatROJECTIONamPOTalTYPE COLON",
  "abANABAZAR SQUARE CLOSING DOUBLE-LINED HEAD MARKazHEAD MARKatUSTER-FINAL LETTER LAbmRAbmVAbmYA",
  "azINITIAL LETTER RAarFINAL CONSONANT MARKarINITIAL DOUBLE-LINED HEAD MARKazHEAD MARKarLETTER -A",
  "ayAayBAazHAayCAazHAayDAazDAbaHAazHAazZAbaHAayGAazHAayHAayJAayKAazHAazSSAayLAayMAayNAazGAazNAazYA",
  "ayPAazHAayRAaySAazHAazSAayTAazHAazSAbaHAazTAbaHAayVAayYAayZAazHAarMARK DOUBLE SHADawLONG TSHEG",
  "awSHADawTSHEGarSIGN ANUSVARAawCANDRA WITH ORNAMENTbcBINDUbh WITH ORNAMENTawVIRAMAaySARGA",
  "asUBJOINERarVOWEL LENGTH MARKaxSIGN AIbdUbcEbcIbcObdEbcREVERSED IbcUbdEabEBRA FACE",
  "acRO WIDTH JOINERalNO-BREAK SPACEanN-JOINERalSPACEacUSabIPPER-MOUTH FACE",
  "abNAMENNY COMBINING ATTACHING VERTICAL OMETatLOWER TONAL RANGE INDICATORatMARK BORZAYAayCHASHKA",
  "bf POLNAYAazURVED OMETayDEMESTVENNY ZADERZHKAazVOETOCHIEayGORAZDO NIZKO ON LEFTbpRIGHT",
  "bmS KRYZHEM ON LEFTbzRIGHTbgVYSOKOayKACHKAazRYZHbd ON LEFTazUPNAYAayLOMKAayMALO POVYSHE ON LEFT",
  "boRIGHTblS KHOKHLOM ON LEFTbzRIGHTboRYZHEMbmTRANNOayNIZKO ON LEFTbhRIGHTbeS KRYZHEM ON LEFT",
  "brRIGHTayOBLACHKOazNazTSECHKAayPODCHASHIEbi WITH VERTICAL STROKEbbVERTKAbaVYSHE ON LEFTbjRIGHT",
  "bgS KHOKHLOM ON LEFTbuRIGHTbjRYZHEMbhTRANNOayRAVNObaZSEKAaySKOBAazOROCHYA NOZHKAazREDNE ON LEFT",
  "biRIGHTazTRANNO MALO POVYSHEayTIKHAYAazOCHKAazSATA ON LEFTbhRIGHTbeS KRYZHEMayUDARKA",
  "ayVYSOKO ON LEFTbiRIGHTbfS KHOKHLOM ON LEFTbtRIGHTbiRYZHEMayZADERZHKAazELObaVOK",
  "atTONAL RANGE MARK MRACHNObkSVETLObkTRESVETLOajNEUME CHASHKAarELYUSTKAapDEMESTVENNY KLYUCH",
  "arRBITSAaqOUBLE ZAPYATAYAaqUDAaqVA V CHELNUapFITAapGOLUBCHIK BORZYazMRACHNYazSVETLYazTIKHY",
  "baRESVETLYapKHAMILOaqLYUCHaqOBYLAaqRYUKau TIKHYasZHaqUFISMAapMECHIKav KLYUCHENEPOSTOYANNY",
  "bdPOVODNYbdVOYawPOVODNYapNEMKAapOBLAKOaqSOKAau KLYUCHEVAYA NEPOSTOYANNAYAbhSVETLAYA",
  "awRYUKOVAYA SVETLAYAavSVETLAYAavTRESVETLAYAapPALKAarRAKLITarUKaqEREVODKAay NEPOSTOYANNAYA",
  "aqODCHASHIEarLKULIZMYapREVERSED CHELYUSTKAaqOGapSKAMEYTSA DVOECHELNAYA KLYUCHEVAYA",
  "bmNEPOSTOYANNAYAbmPROSTAYAbmSVETLAYAazKLYUCHENEPOSTOYANNAYAbgVAYA SVETLAYAblTIKHAYAazMRACHNAYA",
  "azSVETLAYAazTIKHAYAbaRESVETLAYAaqLOZHITIEay S KRYZHEMbbZAPYATOYazZAKRYTOEaqTATYA",
  "av NEPOSTOYANNAYAawS DVUMYA ZAPYATYMIayKRYZHEMbf I ZAPYATOYayROGOMayZAPYATOYbg I KRYZHEM",
  "bjPODCHASHIEMawZAKRYTAYAbf S ZAPYATOYarOPITSAax S OCHKOMayWITH SOROCHYA NOZHKA",
  "arRELA DVOECHELNAYAbi KLYUCHEVAYAbfOKRYZHEVAYAbgPOVODNAYAbp KLYUCHEVAYAawGROMNAYA",
  "be WITH SINGLE ZAPYATAYAbaOKRYZHEVAYAbl POVODNAYAbbPOVODNAYAbk WITH DOUBLE ZAPYATAYA",
  "bqSINGLE ZAPYATAYAawKLYUCHENEPOSTOYANNAYAbdPOVODNAYAaxRYUKOVAYAbg GROMNAYA",
  "bp WITH SINGLE ZAPYATAYAblOKRYZHEVAYAbw POVODNAYAbmPOVODNAYAbv WITH DOUBLE ZAPYATAYA",
  "cbSINGLE ZAPYATAYAbhPOVODNAYAbhTRYASKAazZHEVAYAawMRACHNOTIKHAYAawNEPOSTOYANNAYAawPOLUPOVODNAYA",
  "ayVODNAYAaxROSTAYAawTIKHAYA PUTNAYAaxRYASOGLASNAYAbcPOVODNAYAbcSTRELNAYA",
  "apVRAKHIYA KLYUCHEVAYA MRACHNAYAbkPROSTAYAbkSVETLAYAbkTRESVETLAYAayMRACHNAYAayPROSTAYAaySVETLAYA",
  "ayTRESVETLAYAapZANOZHEKarPYATAYAaqMEYTSAajPRIZNAK MODIFIER DIRECTION FLIPbaKRYZHbaLEVEL-2bg3",
  "baROGabOMBIEabWJacNBSPadJacSP"
]

/-- The shared length that two letters write. -/
def sharedLength (x y : Char) : Nat := (x.toNat - 97) * 26 + (y.toNat - 97)

/-- Whether a character is one of the letters that write a shared length. -/
def isLengthLetter (c : Char) : Bool := 'a' ≤ c && c ≤ 'z'

/-- The names of the rest of a stored list, onto `acc`: `prev` is the name
before, of which `keep` characters start the name being read, and `cur`
holds the rest of that name read so far, in reverse. -/
def namesFrom (acc : Array String) (prev : List Char) (keep : Nat) (cur : List Char) :
    List Char → Array String
  | [] => acc.push (String.ofList (prev.take keep ++ cur.reverse))
  | c :: rest =>
    if isLengthLetter c then
      match rest with
      | d :: more =>
        let name := prev.take keep ++ cur.reverse
        namesFrom (acc.push (String.ofList name)) name (sharedLength c d) [] more
      | [] => acc
    else namesFrom acc prev keep (c :: cur) rest

/-- The names a stored list holds. -/
def namesOf : List Char → Array String
  | c :: d :: rest => namesFrom #[] [] (sharedLength c d) [] rest
  | _ => #[]

/-- The listed names. -/
def listedNames : Std.HashSet String := (namesOf (nameRows.flatMap String.toList)).foldl (·.insert ·) {}

/-- The code points whose names are made by the rule for CJK unified
ideographs. -/
def unifiedIdeographs : List (Nat × Nat) :=
  [(0x3400, 0x4DBF), (0x4E00, 0x9FFF), (0x20000, 0x2A6DF), (0x2A700, 0x2B738),
    (0x2B740, 0x2B81D), (0x2B820, 0x2CEA1), (0x2CEB0, 0x2EBE0), (0x30000, 0x3134A)]

/-- The value of an upper-case hexadecimal digit. -/
def upperHexValue (c : Char) : Option Nat :=
  if '0' ≤ c && c ≤ '9' then some (c.toNat - 48)
  else if 'A' ≤ c && c ≤ 'F' then some (c.toNat - 55)
  else none

/-- Whether the rest of a name after `CJK UNIFIED IDEOGRAPH-` names a
unified ideograph. -/
def isIdeographCode (cs : List Char) : Bool :=
  (cs.length = 4 || cs.length = 5) &&
    match cs.mapM upperHexValue with
    | some ds =>
      let n := ds.foldl (fun v d => v * 16 + d) 0
      unifiedIdeographs.any fun (lo, hi) => lo ≤ n && n ≤ hi
    | none => false

/-- The short names of the leading consonants of Hangul syllables. -/
def leadingParts : List String :=
  ["G", "GG", "N", "D", "DD", "R", "M", "B", "BB", "S", "SS", "", "J", "JJ", "C", "K", "T", "P", "H"]

/-- The short names of the vowels of Hangul syllables. -/
def vowelParts : List String :=
  ["A", "AE", "YA", "YAE", "EO", "E", "YEO", "YE", "O", "WA", "WAE", "OE", "YO", "U", "WEO", "WE",
    "WI", "YU", "EU", "YI", "I"]

/-- The short names of the trailing consonants of Hangul syllables. -/
def trailingParts : List String :=
  ["", "G", "GG", "GS", "N", "NJ", "NH", "D", "L", "LG", "LM", "LB", "LS", "LT", "LP", "LH", "M",
    "B", "BS", "S", "SS", "NG", "J", "C", "K", "T", "P", "H"]

/-- The length of the longest short name that starts the characters, the
first of equally long ones. -/
def longestPart (parts : List String) (cs : List Char) : Option Nat :=
  parts.foldl (fun best p =>
    if p.toList.isPrefixOf cs && best.all (· < p.length) then some p.length else best) none

/-- Whether the rest of a name after `HANGUL SYLLABLE ` names a syllable:
a leading consonant, a vowel and a trailing consonant, each the longest
that fits, and nothing after them. -/
def isSyllableCode (cs : List Char) : Bool :=
  match longestPart leadingParts cs with
  | none => false
  | some l =>
    match longestPart vowelParts (cs.drop l) with
    | none => false
    | some v =>
      match longestPart trailingParts (cs.drop (l + v)) with
      | none => false
      | some t => l + v + t = cs.length

/-- Whether a text is the name of a character. -/
def isCharName (name : String) : Bool :=
  let cs := name.toList
  let ideograph := "CJK UNIFIED IDEOGRAPH-".toList
  let syllable := "HANGUL SYLLABLE ".toList
  if ideograph.isPrefixOf cs then isIdeographCode (cs.drop ideograph.length)
  else if syllable.isPrefixOf cs then isSyllableCode (cs.drop syllable.length)
  else listedNames.contains (String.map Char.toUpper name)

end ModuleLocator.Text
