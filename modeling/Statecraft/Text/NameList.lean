/-!
# Names of characters

The names that characters have, and the other names that some of them go by, in the order
of their letters. Names of syllables and ideographs that are made by rules are not listed.
A name is written as a small letter and capitals: the letter tells how many characters are
those that the name before begins with, from `a` for none to `z` for twenty-five, and the
capitals, digits, spaces and hyphens behind it are the others. Lines end between names.
-/

namespace Statecraft.Text

def characterNames : String := "aABACUSbC CURRENTcCORDIONeUNT OFcKdNOWLEDGEcTIVATE ARABIC FORM SHAPINGjSYMMETRIC SWAPPINGcUTE ACCENT
hNGLEbDDRESSED TO THE SUBJECTcHESIVE BANDAGEcI SHAKTIcLAM ALIF LENGTHENERgCAPITAL LETTER ALIFvBAwHE
vCHIvDAALIwHAvEvFAvGAwBEvHAvIvJIIMvKAFwHAwPOvLAAMvMIIMvNHAwUNwYAvOvPEvQAAFvRAvSHAwINNYIIYHEvTUvUvVA
vWAWvYAwHEvZALhONSONANT MODIFIERgDIGIT EIGHTmFIVEnOURmNINEmONEmSEVENnIXmTHREEnWOmZERO
gGEMINATE CONSONANT MODIFIERnION MARKgHAMZAgINITIAL EXCLAMATION MARKoQUESTION MARKgNASALIZATION MARK
hUKTAgSMALL LETTER ALIFtBAuHEtCHItDAALIuHAtEtFAtGAuBEtHAtItJIIMtKAFuHAuPOtLAAMtMIIMtNHAuUNuYAtOtPE
tQAAFtRAtSHAuINNYIIYHEtTUtUtVAtWAWtYAuHEtZALgVOWEL LENGTHENERcMETOSdISSION TICKETScULT
bEGEAN CHECK MARKhDRY MEASURE FIRST SUBUNIThLIQUID MEASURE FIRST SUBUNIThMEASURE SECOND SUBUNIT
pTHIRD SUBUNIThNUMBER EIGHTt HUNDREDuTHOUSANDtYu THOUSANDoFIFTYt THOUSANDqVEs HUNDREDtTHOUSANDpORTY
t THOUSANDqURs HUNDREDtTHOUSANDoNINEs HUNDREDtTHOUSANDsTYu THOUSANDoONEr HUNDREDsTHOUSANDoSEVEN
t HUNDREDuTHOUSANDtTYv THOUSANDpIXr HUNDREDsTHOUSANDrTYt THOUSANDoTENr THOUSANDpHIRTYu THOUSANDqREE
t HUNDREDuTHOUSANDpWENTYu THOUSANDqOr HUNDREDsTHOUSANDhWEIGHT BASE UNIToFIRST SUBUNITpOURTH SUBUNIT
oSECOND SUBUNIToTHIRD SUBUNITiORD SEPARATOR DOTwLINEcRIAL TRAMWAYbFGHANI SIGN
bHOM CONSONANT SIGN MEDIAL LAzL LIGATING RAzL RAfDIGIT EIGHTlFIVEmOURlNINElONElSEVENmIXlTHREEmWO
lZEROfLETTER AnLTERNATE BAwGAwTAmBAnHAmCAnHAmDAnDAoHAnHAmGAnHAmHAmJAnHAmKAnHAmLAnLAmMAmNAnGAnNAnYA
mPAnHAmRAmSAmTAnHAnTAoHAfNUMBER TENnWENTYfSIGN KILLERkRULAIkSECTIONlMALL SECTIONgYMBOL VI
fVOWEL SIGN ArArIrMrWqEqIrIqOqUrUbIRPLANEi ARRIVINGjDEPARTUREbKTIESELSKABbLARM CLOCK
cCHEMICAL SYMBOL FOR AIRxLEMBICyKALIzALI-2yUMxMALGAMxNTIMONY ORExQUA REGIAzA REGIA-2zA VITAE
zA VITAE-2zAFORTISxRSENICxSHESxURIPIGMENTwBATH OF MARYzH OF VAPOURSxISMUTH ORExLACK SULFURxORAXzAX-2
zAX-3xRICKwCADUCEUSyLXyPUT MORTUUMxINNABARxOPPER ANTIMONIATEzPER ORExROCUS OF COPPERzCUS OF COPPER-2
zCUS OF IRONyUCIBLEzCIBLE-2zCIBLE-3zCIBLE-4zCIBLE-5wDAY-NIGHTxISSOLVEzSOLVE-2zTILLwEARTHwFIREwGOLD
xUMwHALF DRAMzF OUNCExORSE DUNGyURwIRON OREzN ORE-2zN-COPPER OREwLEAD ORExODESTONEwMARCASITE
xERCURY SUBLIMATEzCURY SUBLIMATE-2zCURY SUBLIMATE-3xONTHwNIGHTyTREwOILwPHILOSOPHERS SULFURxOT ASHES
yWDERzDERED BRICKxRECIPITATExURIFYyTREFACTIONwQUICK LIMEzNTESSENCEwREALGARzLGAR-2yGULUS
zULUS OF ANTIMONYzULUS OF ANTIMONY-2zULUS OF IRONzULUS-2zULUS-3zULUS-4yTORTxOCK SALTzK SALT-2
wSAL-AMMONIACzTzT OF ANTIMONYzT OF COPPER ANTIMONIATExCEPTER OF JOVExILVERxOAPxPIRITxTARRED TRIDENT
yRATUM SUPER STRATUMzATUM SUPER STRATUM-2xUBLIMATE OF ANTIMONYzLIMATE OF COPPER
zLIMATE OF SALT OF ANTIMONYzLIMATE OF SALT OF COPPERzLIMATIONyLFURwTARTARzTAR-2xIN OREzCTURExRIDENT
xUTTYwURINEwVERDIGRISxINEGARzEGAR OF ANTIMONYzEGAR-2zEGAR-3yTRIOLzRIOL-2wWATERyXcEF SYMBOLdMBICdRT
cIEN MONSTERcL AROUND-PROFILEeEQUAL TOcMdOST EQUAL OR EQUAL TOnTOp WITH CIRCUMFLEX ACCENT
cTERNATE ONE-WAY LEFT WAY TRAFFICiIVE KEY SYMBOLbMALGAMATION OR COPRODUCTcBULANCEcERICAN FOOTBALL
cPERSANDdHORAbNATOLIAN HIEROGLYPH A001y2y3y4y5y6y7y8y9x10zAy1y2y3y4y5y6y7y8y9x20y1y2y3y4y5y6zAy7y8y9
x30y1y2y3y4y5y6y7y8y9zAx40y1zAy2y3y4y5zAy6zAzBy7y8y9x50y1y2y3y4y5y6y7y8y9x60y1y2y3y4y5y6zAzBzCy7y8y9
x70y1y2y3y4y5y6y7y8y9x80y1y2y3y4y5y6y7y8y9x90y1y2y3y4y5y6y7zAy8zAy9w100zAy1zAy2zAy3y4zAzBzCy5zAzBy6
y7zAzBzCy8y9x10zAzBy1y2y3y4y5zAy6y7y8y9x20y1y2y3y4y5zAy6y7y8y9x30y1y2y3y4y5zAy6y7y8y9x40y1y2y3y4y5y6
y7y8y9x50y1y2y3y4y5y6y7y8y9x60y1y2y3y4y5y6y7y8y9x70y1y2y3y4y5y6y7y8y9x80y1y2y3y4y5y6y7y8y9x90y1y2y3
y4y5y6y7y8y9w200y1y2zAzBy3y4y5y6y7zAy8y9zAx10y1y2y3y4y5zAy6zAy7y8y9x20y1y2y3y4y5y6y7zAy8y9x30y1y2y3
y4y5y6y7y8y9x40y1y2y3y4y5y6y7y8y9x50y1y2y3y4y5y6y7y8y9x60y1y2y3y4y5y6y7zAy8y9x70y1y2y3y4y5y6y7y8y9
x80y1y2y3y4y5y6y7y8y9zAx90y1y2y3y4zAy5y6y7y8y9zAw300y1y2y3y4y5y6y7y8y9zAx10y1y2y3y4y5y6y7y8y9x20y1y2
y3y4y5y6y7y8y9zAx30y1y2AzBzCy3y4y5y6zAzBzCy7y8y9x40y1y2y3y4y5y6y7y8y9x50y1y2y3y4y5y6y7y8y9zAx60y1y2
y3y4zAy5y6y7y8zAy9x70y1zAy2y3y4y5y6y7y8y9x80y1zAy2y3 RA OR RIzAy4y5y6zAy7y8y9x90y1y2y3 EIGHTy4y5y6y7
y8y9w400y1y2y3y4y5y6y7y8y9x10 BEGIN LOGOGRAM MARKzA END LOGOGRAM MARKy1y2y3y4y5y6y7y8y9x20y1y2y3y4y5
y6y7y8y9x30y1y2y3y4y5y6y7y8y9x40y1y2y3y4y5y6y7y8y9x50zAy1y2y3y4y5y6y7zAy8y9x60y1y2y3y4y5y6y7y8y9x70
y1y2y3y4y5y6y7y8y9x80y1y2y3y4y5y6y7y8y9x90y1y2y3y4y5y6y7w501y2y3y4y5y6y7y8y9x10y1y2y3y4y5y6y7y8y9x20
y1y2y3y4y5y6y7y8y9x30fMICAL HEARTcCHORcD WITH DOTcGER SYMBOLdLEf WITH S INSIDElUNDERBARdRY FACE
dSTROM SIGNdUISHED FACEcKHcTdENNA WITH BARSdICLOCKWISE CLOSED CIRCLE ARROWpONTOUR INTEGRAL
oDOWNWARDS AND UPWARDS OPEN CIRCLE ARROWSoGAPPED CIRCLE ARROWoINTEGRATIONoOPEN CIRCLE ARROW
oTOP SEMICIRCLE ARROWpRIANGLE-HEADED BOTTOM U-SHAPED ARROWzADED LEFT U-SHAPED ARROW
zADED OPEN CIRCLE ARROWzADED RIGHT U-SHAPED ARROWzADED TOP U-SHAPED ARROWbPC
cL FUNCTIONAL SYMBOL ALPHAzHA UNDERBARwBACKSLASH BARwCIRCLE BACKSLASHzCLE DIAERESISzCLE JOTzCLE STAR
zCLE STILEzCLE UNDERBARxOMMA BARwDEL DIAERESISz STILEz TILDEzTA STILEzTA UNDERBARxIAMOND UNDERBAR
xOWN CARET TILDEzN SHOE STILEzN TACK JOTzN TACK UNDERBARzNWARDS VANEwEPSILON UNDERBAR
wGREATER-THAN DIAERESISwI-BEAMxOTAzA UNDERBARwJOT DIAERESISz UNDERBARwLEFT SHOE STILEzTWARDS VANE
wOMEGAzGA UNDERBARwQUADzD BACKSLASHzD CIRCLEzD COLONzD DELzD DELTAzD DIAMONDzD DIVIDEzD DOWN CARET
zD DOWNWARDS ARROWzD EQUALzD GREATER-THANzD JOTzD LEFTWARDS ARROWzD LESS-THANzD NOT EQUALzD QUESTION
zD RIGHTWARDS ARROWzD SLASHzD UP CARETzD UPWARDS ARROWyOTE QUADzTE UNDERBARwRHOxIGHTWARDS VANE
wSEMICOLON UNDERBARxLASH BARxQUISH QUADxTAR DIAERESISyILE TILDEwTILDE DIAERESISwUP CARET TILDE
zSHOE JOTzTACK DIAERESISzTACK JOTzTACK OVERBARyWARDS VANEwZILDEcOLLONdSTROPHE
cPLICATION PROGRAM COMMANDdROACHES THE LIMITfXIMATELY BUT NOT ACTUALLY EQUAL TOoEQUAL OR EQUAL TOuTO
w OR THE IMAGE OFbQUARIUSbRABIC BASELINE ROUND DOThCOMMAiURLY DAMMAsTANnFATHAsTANnKASRAsTANhDAMMA
m ISOLATED FORMnMEDIAL FORMnWITH DOTmTANp ISOLATED FORMjTE SEPARATORiECIMAL SEPARATOR
iISPUTED END OF AYAHiOUBLE RIGHT ARROWHEAD ABOVEzHEAD ABOVE WITH DOTnD MADDAhEMPTY CENTRE HIGH STOP
uLOW STOPiND OF AYAHoTEXT MARKhFATHAm ISOLATED FORMnMEDIAL FORMnWITH DOT ABOVEsRINGsTWO DOTSmTAN
p ISOLATED FORMiIVE POINTED STARiOOTNOTE MARKERiULL STOPhHALF MADDA OVER MADDAjMZA ABOVEnBELOW
hINVERTED DAMMAhKASRAm ISOLATED FORMnMEDIAL FORMnWITH DOT BELOWmTANp ISOLATED FORM
hLARGE CIRCLE BELOWnROUND DOT ABOVExBELOWxINSIDE CIRCLE BELOWiEFT ARROWHEAD ABOVEwBELOWjTTER AE
pFRICAN FEHwNOONwQAFz WITH THREE DOTS ABOVEpINr FINAL FORMsINITIAL FORMtSOLATED FORMsMEDIAL FORM
sWITH THREE DOTS ABOVEzREE DOTS BELOWzREE DOTS POINTING DOWNWARDS ABOVEyWO DOTS ABOVE
zO DOTS VERTICALLY ABOVEpLEFs FINAL FORMtISOLATED FORMtMAKSURAzA FINAL FORMzA ISOLATED FORMtWASLA
y FINAL FORMzISOLATED FORMuITH ATTACHED BOTTOM RIGHT KASRAzTTACHED BOTTOM RIGHT KASRA AND DOT ABOVE
zTTACHED BOTTOM RIGHT KASRA AND LEFT RINGzTTACHED FATHAzTTACHED KASRAzTTACHED LEFT HAMZA
zTTACHED LEFT ROUND DOTzTTACHED RIGHT HAMZAzTTACHED RIGHT ROUND DOTzTTACHED ROUND DOT ABOVE
zTTACHED ROUND DOT BELOWzTTACHED TOP RIGHT FATHAzTTACHED TOP RIGHT FATHA AND DOT ABOVE
zTTACHED TOP RIGHT FATHA AND LEFT RINGyDOT ABOVEyEXTENDED ARABIC-INDIC DIGIT THREE ABOVE
zXTENDED ARABIC-INDIC DIGIT TWO ABOVEyHAMZA ABOVEzAMZA ABOVE FINAL FORMzAMZA ABOVE ISOLATED FORM
zAMZA BELOWzAMZA BELOW FINAL FORMzAMZA BELOW ISOLATED FORMyLEFT MIDDLE STROKEyMADDA ABOVE
zADDA ABOVE FINAL FORMzADDA ABOVE ISOLATED FORMyRIGHT MIDDLE STROKEzIGHT MIDDLE STROKE AND DOT ABOVE
zIGHT MIDDLE STROKE AND LEFT RINGyWAVY HAMZA ABOVEzAVY HAMZA BELOWoBEEHs FINAL FORMtINITIAL FORM
uSOLATED FORMtMEDIAL FORMqHr FINAL FORMsINITIAL FORMtSOLATED FORMsMEDIAL FORM
sWITH DOT BELOW AND THREE DOTS ABOVExHAMZA ABOVExINVERTED SMALL V BELOWxSMALL MEEM ABOVEzALL V
zALL V BELOWxTHREE DOTS HORIZONTALLY BELOWzREE DOTS POINTING UPWARDS BELOW
zREE DOTS POINTING UPWARDS BELOW AND TWO DOTS ABOVEyWO DOTS BELOW AND DOT ABOVErEHt FINAL FORM
uINITIAL FORMvSOLATED FORMuMEDIAL FORMoDADr FINAL FORMsINITIAL FORMtSOLATED FORMsMEDIAL FORM
sWITH DOT BELOWqHALt FINAL FORMuISOLATED FORMqLr FINAL FORMsISOLATED FORMsWITH DOT BELOW
zT BELOW AND SMALL TAHxFOUR DOTS ABOVExINVERTED SMALL V BELOWzVERTED VxRING
xTHREE DOTS ABOVE DOWNWARDSzREE DOTS BELOWyWO DOTS VERTICALLY BELOW AND SMALL TAHpDAHALu FINAL FORM
vISOLATED FORMrLs FINAL FORMtISOLATED FORMpOTLESS BEHwFEHwQAFpULr FINAL FORMsISOLATED FORMpYEH
s FINAL FORMtINITIAL FORMuSOLATED FORMtMEDIAL FORMoEp FINAL FORMqINITIAL FORMrSOLATED FORM
qMEDIAL FORMoFARSI YEHx FINAL FORMyINITIAL FORMzSOLATED FORMyMEDIAL FORM
yWITH EXTENDED ARABIC-INDIC DIGIT FOUR BELOWzITH EXTENDED ARABIC-INDIC DIGIT THREE ABOVE
zITH EXTENDED ARABIC-INDIC DIGIT TWO ABOVEzITH INVERTED VzITH THREE DOTS ABOVEzITH TWO DOTS ABOVEpEH
r FINAL FORMsINITIAL FORMtSOLATED FORMsMEDIAL FORMsWITH DOT BELOWzT BELOW AND THREE DOTS ABOVE
zT MOVED BELOWxTHREE DOTS BELOWzREE DOTS POINTING UPWARDS BELOWyWO DOTS BELOWoGAFr FINAL FORM
sINITIAL FORMtSOLATED FORMsMEDIAL FORMsWITH INVERTED STROKExRINGxTHREE DOTS ABOVEyWO DOTS BELOWpHAIN
t FINAL FORMuINITIAL FORMvSOLATED FORMuMEDIAL FORMuWITH DOT BELOWzTHREE DOTS ABOVEpRAFpUEH
s FINAL FORMtINITIAL FORMuSOLATED FORMtMEDIAL FORMoHAHr FINAL FORMsINITIAL FORMtSOLATED FORM
sMEDIAL FORMsWITH EXTENDED ARABIC-INDIC DIGIT FOUR BELOWxHAMZA ABOVExINVERTED SMALL V BELOW
xSMALL ARABIC LETTER TAH ABOVEzALL ARABIC LETTER TAH AND TWO DOTSzALL ARABIC LETTER TAH BELOW
xTHREE DOTS ABOVEzREE DOTS POINTING UPWARDS BELOWyWO DOTS ABOVEzO DOTS VERTICAL ABOVEqMZA
t ISOLATED FORMpEHr DOACHASHMEEzHMEE FINAL FORMzHMEE INITIAL FORMzHMEE ISOLATED FORM
zHMEE MEDIAL FORMsFINAL FORMsGOALw FINAL FORMxINITIAL FORMySOLATED FORMxMEDIAL FORMxWITH HAMZA ABOVE
sINITIAL FORMtSOLATED FORMsMEDIAL FORMsWITH INVERTED VxYEH ABOVEzH ABOVE FINAL FORM
zH ABOVE ISOLATED FORMpIGH HAMZAy ALEFzWAWzYEHoJEEMs FINAL FORMtINITIAL FORMuSOLATED FORM
tMEDIAL FORMtWITH THREE DOTS ABOVEzHREE DOTS BELOWzWO DOTS ABOVEqHr FINAL FORMsISOLATED FORMoKAF
r FINAL FORMsINITIAL FORMtSOLATED FORMsMEDIAL FORMsWITH DOT ABOVEzT BELOWxRINGxTHREE DOTS BELOW
yWO DOTS ABOVEqSHMIRI YEHpEHEHt FINAL FORMuINITIAL FORMvSOLATED FORMuMEDIAL FORMuWITH DOT ABOVE
zSMALL VzTHREE DOTS ABOVEzTHREE DOTS BELOWzTHREE DOTS POINTING UPWARDS BELOWzTWO DOTS ABOVE
zTWO DOTS VERTICALLY BELOWpHAHs FINAL FORMtINITIAL FORMuSOLATED FORMtMEDIAL FORMpIRGHIZ OE
y FINAL FORMzISOLATED FORMwYUy FINAL FORMzISOLATED FORMoLAMr FINAL FORMsINITIAL FORMtSOLATED FORM
sMEDIAL FORMsWITH BARxDOT ABOVEzUBLE BARxSMALL ARABIC LETTER TAH ABOVEzALL VxTHREE DOTS ABOVE
zREE DOTS BELOWpOW ALEFoMARKpEEMs FINAL FORMtINITIAL FORMuSOLATED FORMtMEDIAL FORMtWITH DOT ABOVE
zOT BELOWyTHREE DOTS ABOVEoNGq FINAL FORMrINITIAL FORMsSOLATED FORMrMEDIAL FORMqOEHt FINAL FORM
uINITIAL FORMvSOLATED FORMuMEDIAL FORMpOONs FINAL FORMtGHUNNAz FINAL FORMz ISOLATED FORM
tINITIAL FORMuSOLATED FORMtMEDIAL FORMtWITH DOT BELOWyINVERTED SMALL VyRINGySMALL TAHzMALL V
yTHREE DOTS ABOVEzWO DOTS BELOWpYEHs FINAL FORMtINITIAL FORMuSOLATED FORMtMEDIAL FORMoOEq FINAL FORM
rISOLATED FORMoPEHr FINAL FORMsINITIAL FORMtSOLATED FORMsMEDIAL FORMsWITH SMALL MEEM ABOVEzALL VrEH
t FINAL FORMuINITIAL FORMvSOLATED FORMuMEDIAL FORMoQAFr FINAL FORMsINITIAL FORMtSOLATED FORM
sMEDIAL FORMsWITH DOT ABOVEzT BELOWzT BELOW AND NO DOTS ABOVExTHREE DOTS ABOVEoREHr FINAL FORM
sISOLATED FORMsWITH DOT BELOWzT BELOW AND DOT ABOVExFOUR DOTS ABOVExHAMZA ABOVExINVERTED VxLOOPxRING
xSMALL ARABIC LETTER TAH AND TWO DOTSzALL NOON ABOVEzALL VzALL V BELOWyTROKExTWO DOTS ABOVE
zO DOTS VERTICALLY ABOVEpNOONt FINAL FORMuINITIAL FORMvSOLATED FORMuMEDIAL FORMpOHINGYA YEHpREH
s FINAL FORMtISOLATED FORMoSADr FINAL FORMsINITIAL FORMtSOLATED FORMsMEDIAL FORM
sWITH THREE DOTS ABOVEzREE DOTS BELOWyWO DOTS BELOWpEENs FINAL FORMtINITIAL FORMuSOLATED FORM
tMEDIAL FORMtWITH DOT BELOW AND DOT ABOVEyEXTENDED ARABIC-INDIC DIGIT FOUR ABOVEyFOUR DOTS ABOVE
yINVERTED VySMALL ARABIC LETTER TAH AND TWO DOTSyTHREE DOTS BELOW
zHREE DOTS BELOW AND THREE DOTS ABOVEzWO DOTS VERTICALLY ABOVEpHEENt FINAL FORMuINITIAL FORM
vSOLATED FORMuMEDIAL FORMuWITH DOT BELOWpTRAIGHT WAWpUPERSCRIPT ALEFpWASH KAFoTAHr FINAL FORM
sINITIAL FORMtSOLATED FORMsMEDIAL FORMsWITH DOT BELOWxTHREE DOTS ABOVEzREE DOTS BELOWyWO DOTS ABOVE
pCHEHt FINAL FORMuINITIAL FORMvSOLATED FORMuMEDIAL FORMuWITH DOT ABOVEzSMALL VtEHv FINAL FORM
wINITIAL FORMxSOLATED FORMwMEDIAL FORMpEHr FINAL FORMsINITIAL FORMtSOLATED FORMsMARBUTAz FINAL FORM
z GOALz ISOLATED FORMtEDIAL FORMsWITH RINGxSMALL TEH ABOVEzALL VxTHREE DOTS ABOVE DOWNWARDSrEH
t FINAL FORMuINITIAL FORMvSOLATED FORMuMEDIAL FORMpHALs FINAL FORMtISOLATED FORMqEHs FINAL FORM
tINITIAL FORMuSOLATED FORMtMEDIAL FORMqIN YEHpTEHs FINAL FORMtINITIAL FORMuSOLATED FORMtMEDIAL FORM
tWITH SMALL VsEHu FINAL FORMvINITIAL FORMwSOLATED FORMvMEDIAL FORMoUp FINAL FORMqISOLATED FORM
qWITH HAMZA ABOVEzA ABOVE ISOLATED FORMpIGHUR KAZAKH KIRGHIZ ALEF MAKSURA INITIAL FORM
zKH KIRGHIZ ALEF MAKSURA MEDIAL FORMoVEq FINAL FORMrISOLATED FORMqHr FINAL FORMsINITIAL FORM
tSOLATED FORMsMEDIAL FORMoWAWr FINAL FORMsISOLATED FORMsWITH DOT ABOVEzT WITHIN
xEXTENDED ARABIC-INDIC DIGIT THREE ABOVEzTENDED ARABIC-INDIC DIGIT TWO ABOVExHAMZA ABOVE
zMZA ABOVE FINAL FORMzMZA ABOVE ISOLATED FORMxRINGxTWO DOTS ABOVEoYEHr BARREEy FINAL FORM
zISOLATED FORMzWITH EXTENDED ARABIC-INDIC DIGIT THREE ABOVE
zWITH EXTENDED ARABIC-INDIC DIGIT TWO ABOVEzWITH HAMZA ABOVEzWITH HAMZA ABOVE FINAL FORM
zWITH HAMZA ABOVE ISOLATED FORMsFINAL FORMsINITIAL FORMtSOLATED FORMsMEDIAL FORMsWITH HAMZA ABOVE
zMZA ABOVE FINAL FORMzMZA ABOVE INITIAL FORMzMZA ABOVE ISOLATED FORMzMZA ABOVE MEDIAL FORMxSMALL V
xTAILyHREE DOTS BELOWyWO DOTS BELOW AND DOT ABOVEzO DOTS BELOW AND HAMZA ABOVE
zO DOTS BELOW AND SMALL NOON ABOVEpUq FINAL FORMrISOLATED FORMoZAHr FINAL FORMsINITIAL FORM
tSOLATED FORMsMEDIAL FORMqINs FINAL FORMtISOLATED FORMtWITH INVERTED V ABOVE
iIGATURE AIN WITH ALEF MAKSURA FINAL FORMzALEF MAKSURA ISOLATED FORMzJEEM INITIAL FORM
zJEEM ISOLATED FORMzJEEM WITH MEEM FINAL FORMzJEEM WITH MEEM INITIAL FORMzMEEM INITIAL FORM
zMEEM ISOLATED FORMzMEEM WITH ALEF MAKSURA FINAL FORMzMEEM WITH MEEM FINAL FORM
zMEEM WITH MEEM INITIAL FORMzMEEM WITH YEH FINAL FORMzYEH FINAL FORMzYEH ISOLATED FORM
rKBAR ISOLATED FORMrLAYHAA AS-SALAAMvE ISOLATED FORMvI AS-SALAAMz-SALAATU WAS-SALAAMwM AS-SALAAM
xAA AS-SALAAMsEF MAKSURA WITH SUPERSCRIPT ALEF FINAL FORMzURA WITH SUPERSCRIPT ALEF ISOLATED FORM
vWITH FATHATAN FINAL FORMz FATHATAN ISOLATED FORMsLAH ISOLATED FORMrZZA WA JALL
qBEH WITH ALEF MAKSURA FINAL FORMzALEF MAKSURA ISOLATED FORMzHAH INITIAL FORMzHAH ISOLATED FORM
zHAH WITH YEH FINAL FORMzHEH INITIAL FORMzHEH MEDIAL FORMzJEEM INITIAL FORMzJEEM ISOLATED FORM
zKHAH INITIAL FORMzKHAH ISOLATED FORMzKHAH WITH YEH FINAL FORMzMEEM FINAL FORMzMEEM INITIAL FORM
zMEEM ISOLATED FORMzMEEM MEDIAL FORMzNOON FINAL FORMzREH FINAL FORMzYEH FINAL FORMzYEH ISOLATED FORM
zZAIN FINAL FORMrISMILLAH AR-RAHMAN AR-RAHEEMqDAD WITH ALEF MAKSURA FINAL FORM
zALEF MAKSURA ISOLATED FORMzHAH INITIAL FORMzHAH ISOLATED FORMzHAH WITH ALEF MAKSURA FINAL FORM
zHAH WITH YEH FINAL FORMzJEEM INITIAL FORMzJEEM ISOLATED FORMzKHAH INITIAL FORMzKHAH ISOLATED FORM
zKHAH WITH MEEM FINAL FORMzKHAH WITH MEEM INITIAL FORMzMEEM INITIAL FORMzMEEM ISOLATED FORM
zREH FINAL FORMzREH ISOLATED FORMzYEH FINAL FORMzYEH ISOLATED FORMqFEH WITH ALEF MAKSURA FINAL FORM
zALEF MAKSURA ISOLATED FORMzHAH INITIAL FORMzHAH ISOLATED FORMzJEEM INITIAL FORMzJEEM ISOLATED FORM
zKHAH INITIAL FORMzKHAH ISOLATED FORMzKHAH WITH MEEM FINAL FORMzKHAH WITH MEEM INITIAL FORM
zMEEM INITIAL FORMzMEEM ISOLATED FORMzMEEM WITH YEH FINAL FORMzYEH FINAL FORMzYEH ISOLATED FORM
qGHAIN WITH ALEF MAKSURA FINAL FORMzH ALEF MAKSURA ISOLATED FORMzH JEEM INITIAL FORM
zH JEEM ISOLATED FORMzH MEEM INITIAL FORMzH MEEM ISOLATED FORMzH MEEM WITH ALEF MAKSURA FINAL FORM
zH MEEM WITH MEEM FINAL FORMzH MEEM WITH YEH FINAL FORMzH YEH FINAL FORMzH YEH ISOLATED FORM
qHAH WITH ALEF MAKSURA FINAL FORMzALEF MAKSURA ISOLATED FORMzJEEM INITIAL FORMzJEEM ISOLATED FORM
zJEEM WITH YEH FINAL FORMzMEEM INITIAL FORMzMEEM ISOLATED FORMzMEEM WITH ALEF MAKSURA FINAL FORM
zMEEM WITH YEH FINAL FORMzYEH FINAL FORMzYEH ISOLATED FORMrEH WITH ALEF MAKSURA ISOLATED FORM
zJEEM INITIAL FORMzJEEM ISOLATED FORMzMEEM INITIAL FORMzMEEM ISOLATED FORM
zMEEM WITH JEEM INITIAL FORMzMEEM WITH MEEM INITIAL FORMzSUPERSCRIPT ALEF INITIAL FORM
zYEH ISOLATED FORMqJALLAJALALOUHOUrEEM WITH ALEF MAKSURA FINAL FORMz ALEF MAKSURA ISOLATED FORM
z HAH INITIAL FORMz HAH ISOLATED FORMz HAH WITH ALEF MAKSURA FINAL FORMz HAH WITH YEH FINAL FORM
z MEEM INITIAL FORMz MEEM ISOLATED FORMz MEEM WITH ALEF MAKSURA FINAL FORMz MEEM WITH HAH FINAL FORM
z MEEM WITH HAH INITIAL FORMz MEEM WITH YEH FINAL FORMz YEH FINAL FORMz YEH ISOLATED FORM
qKAF WITH ALEF FINAL FORMzALEF ISOLATED FORMzALEF MAKSURA FINAL FORMzALEF MAKSURA ISOLATED FORM
zHAH INITIAL FORMzHAH ISOLATED FORMzJEEM INITIAL FORMzJEEM ISOLATED FORMzKHAH INITIAL FORM
zKHAH ISOLATED FORMzLAM FINAL FORMzLAM INITIAL FORMzLAM ISOLATED FORMzLAM MEDIAL FORM
zMEEM FINAL FORMzMEEM INITIAL FORMzMEEM ISOLATED FORMzMEEM MEDIAL FORMzMEEM WITH MEEM FINAL FORM
zMEEM WITH MEEM INITIAL FORMzMEEM WITH YEH FINAL FORMzYEH FINAL FORMzYEH ISOLATED FORM
rHAH WITH ALEF MAKSURA FINAL FORMz ALEF MAKSURA ISOLATED FORMz HAH ISOLATED FORMz JEEM INITIAL FORM
z JEEM ISOLATED FORMz MEEM INITIAL FORMz MEEM ISOLATED FORMz YEH FINAL FORMz YEH ISOLATED FORM
qLAM WITH ALEF FINAL FORMzALEF ISOLATED FORMzALEF MAKSURA FINAL FORMzALEF MAKSURA ISOLATED FORM
zALEF WITH HAMZA ABOVE FINAL FORMzALEF WITH HAMZA ABOVE ISOLATED FORM
zALEF WITH HAMZA BELOW FINAL FORMzALEF WITH HAMZA BELOW ISOLATED FORM
zALEF WITH MADDA ABOVE FINAL FORMzALEF WITH MADDA ABOVE ISOLATED FORMzHAH INITIAL FORM
zHAH ISOLATED FORMzHAH WITH ALEF MAKSURA FINAL FORMzHAH WITH MEEM FINAL FORM
zHAH WITH MEEM INITIAL FORMzHAH WITH YEH FINAL FORMzHEH INITIAL FORMzJEEM INITIAL FORM
zJEEM ISOLATED FORMzJEEM WITH JEEM FINAL FORMzJEEM WITH JEEM INITIAL FORMzJEEM WITH MEEM FINAL FORM
zJEEM WITH MEEM INITIAL FORMzJEEM WITH YEH FINAL FORMzKHAH INITIAL FORMzKHAH ISOLATED FORM
zKHAH WITH MEEM FINAL FORMzKHAH WITH MEEM INITIAL FORMzMEEM FINAL FORMzMEEM INITIAL FORM
zMEEM ISOLATED FORMzMEEM MEDIAL FORMzMEEM WITH HAH FINAL FORMzMEEM WITH HAH INITIAL FORM
zMEEM WITH YEH FINAL FORMzYEH FINAL FORMzYEH ISOLATED FORMqMEEM WITH ALEF FINAL FORM
z ALEF MAKSURA ISOLATED FORMz HAH INITIAL FORMz HAH ISOLATED FORMz HAH WITH JEEM INITIAL FORM
z HAH WITH MEEM INITIAL FORMz HAH WITH YEH FINAL FORMz JEEM INITIAL FORMz JEEM ISOLATED FORM
z JEEM WITH HAH INITIAL FORMz JEEM WITH KHAH INITIAL FORMz JEEM WITH MEEM INITIAL FORM
z JEEM WITH YEH FINAL FORMz KHAH INITIAL FORMz KHAH ISOLATED FORMz KHAH WITH JEEM INITIAL FORM
z KHAH WITH MEEM INITIAL FORMz KHAH WITH YEH FINAL FORMz MEEM FINAL FORMz MEEM INITIAL FORM
z MEEM ISOLATED FORMz MEEM WITH YEH FINAL FORMz YEH ISOLATED FORMrOHAMMAD ISOLATED FORM
qNOON WITH ALEF MAKSURA FINAL FORMz ALEF MAKSURA ISOLATED FORMz HAH INITIAL FORMz HAH ISOLATED FORM
z HAH WITH ALEF MAKSURA FINAL FORMz HAH WITH MEEM INITIAL FORMz HAH WITH YEH FINAL FORM
z HEH INITIAL FORMz HEH MEDIAL FORMz JEEM INITIAL FORMz JEEM ISOLATED FORM
z JEEM WITH ALEF MAKSURA FINAL FORMz JEEM WITH HAH FINAL FORMz JEEM WITH HAH INITIAL FORM
z JEEM WITH MEEM FINAL FORMz JEEM WITH MEEM INITIAL FORMz JEEM WITH YEH FINAL FORM
z KHAH INITIAL FORMz KHAH ISOLATED FORMz MEEM FINAL FORMz MEEM INITIAL FORMz MEEM ISOLATED FORM
z MEEM MEDIAL FORMz MEEM WITH ALEF MAKSURA FINAL FORMz MEEM WITH YEH FINAL FORMz NOON FINAL FORM
z REH FINAL FORMz YEH FINAL FORMz YEH ISOLATED FORMz ZAIN FINAL FORM
qQAF WITH ALEF MAKSURA FINAL FORMzALEF MAKSURA ISOLATED FORMzHAH INITIAL FORMzHAH ISOLATED FORM
zMEEM INITIAL FORMzMEEM ISOLATED FORMzMEEM WITH HAH FINAL FORMzMEEM WITH HAH INITIAL FORM
zMEEM WITH MEEM FINAL FORMzMEEM WITH YEH FINAL FORMzYEH FINAL FORMzYEH ISOLATED FORM
sLA USED AS KORANIC STOP SIGN ISOLATED FORMrUDDISA SIRRAHqRADI ALLAAHU ANHzAHU ANHAAzAHU ANHUM
zAHU ANHUMAAzAHU ANHUNNAsHIMAHU ALLAAHyM ALLAAHsSOUL ISOLATED FORM
rEH WITH SUPERSCRIPT ALEF ISOLATED FORMqSAD WITH ALEF MAKSURA FINAL FORMzALEF MAKSURA ISOLATED FORM
zHAH INITIAL FORMzHAH ISOLATED FORMzHAH WITH HAH FINAL FORMzHAH WITH HAH INITIAL FORM
zHAH WITH YEH FINAL FORMzKHAH INITIAL FORMzMEEM INITIAL FORMzMEEM ISOLATED FORM
zMEEM WITH MEEM FINAL FORMzMEEM WITH MEEM INITIAL FORMzREH FINAL FORMzREH ISOLATED FORM
zYEH FINAL FORMzYEH ISOLATED FORMsLAAMUHU ALAYNAAuM ISOLATED FORMtLA ISOLATED FORM
wUSED AS KORANIC STOP SIGN ISOLATED FORMvLLAAHU ALAYHI WA-AALIHyHOU ALAYHE WASALLAM
zU ALAYHI WAAALIHEE WA-SALLAMrEEN WITH ALEF MAKSURA FINAL FORMz ALEF MAKSURA ISOLATED FORM
z HAH INITIAL FORMz HAH ISOLATED FORMz HAH MEDIAL FORMz HAH WITH JEEM INITIAL FORMz HEH INITIAL FORM
z HEH MEDIAL FORMz JEEM INITIAL FORMz JEEM ISOLATED FORMz JEEM MEDIAL FORM
z JEEM WITH ALEF MAKSURA FINAL FORMz JEEM WITH HAH INITIAL FORMz KHAH INITIAL FORM
z KHAH ISOLATED FORMz KHAH MEDIAL FORMz KHAH WITH ALEF MAKSURA FINAL FORMz KHAH WITH YEH FINAL FORM
z MEEM INITIAL FORMz MEEM ISOLATED FORMz MEEM MEDIAL FORMz MEEM WITH HAH FINAL FORM
z MEEM WITH HAH INITIAL FORMz MEEM WITH JEEM INITIAL FORMz MEEM WITH MEEM FINAL FORM
z MEEM WITH MEEM INITIAL FORMz REH FINAL FORMz REH ISOLATED FORMz YEH FINAL FORMz YEH ISOLATED FORM
rHADDA WITH DAMMA ISOLATED FORMzTH DAMMA MEDIAL FORMzTH DAMMATAN ISOLATED FORM
zTH FATHA ISOLATED FORMzTH FATHA MEDIAL FORMzTH KASRA ISOLATED FORMzTH KASRA MEDIAL FORM
zTH KASRATAN ISOLATED FORMzTH SUPERSCRIPT ALEF ISOLATED FORMsEEN WITH ALEF MAKSURA FINAL FORM
zH ALEF MAKSURA ISOLATED FORMzH HAH FINAL FORMzH HAH INITIAL FORMzH HAH ISOLATED FORM
zH HAH MEDIAL FORMzH HAH WITH MEEM FINAL FORMzH HAH WITH MEEM INITIAL FORMzH HAH WITH YEH FINAL FORM
zH HEH INITIAL FORMzH HEH MEDIAL FORMzH JEEM FINAL FORMzH JEEM INITIAL FORMzH JEEM ISOLATED FORM
zH JEEM MEDIAL FORMzH JEEM WITH YEH FINAL FORMzH KHAH FINAL FORMzH KHAH INITIAL FORM
zH KHAH ISOLATED FORMzH KHAH MEDIAL FORMzH MEEM FINAL FORMzH MEEM INITIAL FORMzH MEEM ISOLATED FORM
zH MEEM MEDIAL FORMzH MEEM WITH KHAH FINAL FORMzH MEEM WITH KHAH INITIAL FORM
zH MEEM WITH MEEM FINAL FORMzH MEEM WITH MEEM INITIAL FORMzH REH FINAL FORMzH REH ISOLATED FORM
zH YEH FINAL FORMzH YEH ISOLATED FORMrUBHAANAHU WA TAAALAAqTABAARAKA WA-TAAALAA
sH WITH ALEF MAKSURA FINAL FORMzALEF MAKSURA ISOLATED FORMzHAH INITIAL FORMzHAH ISOLATED FORM
zMEEM INITIAL FORMzMEEM ISOLATED FORMzMEEM MEDIAL FORMzMEEM WITH HAH FINAL FORM
zMEEM WITH HAH INITIAL FORMzMEEM WITH MEEM INITIAL FORMzMEEM WITH YEH FINAL FORMzYEH FINAL FORM
zYEH ISOLATED FORMrEH WITH ALEF MAKSURA FINAL FORMzALEF MAKSURA ISOLATED FORMzHAH INITIAL FORM
zHAH ISOLATED FORMzHAH WITH JEEM FINAL FORMzHAH WITH JEEM INITIAL FORMzHAH WITH MEEM INITIAL FORM
zHEH INITIAL FORMzHEH MEDIAL FORMzJEEM INITIAL FORMzJEEM ISOLATED FORM
zJEEM WITH ALEF MAKSURA FINAL FORMzJEEM WITH MEEM INITIAL FORMzJEEM WITH YEH FINAL FORM
zKHAH INITIAL FORMzKHAH ISOLATED FORMzKHAH WITH ALEF MAKSURA FINAL FORMzKHAH WITH MEEM INITIAL FORM
zKHAH WITH YEH FINAL FORMzMEEM FINAL FORMzMEEM INITIAL FORMzMEEM ISOLATED FORMzMEEM MEDIAL FORM
zMEEM WITH ALEF MAKSURA FINAL FORMzMEEM WITH HAH INITIAL FORMzMEEM WITH JEEM INITIAL FORM
zMEEM WITH KHAH INITIAL FORMzMEEM WITH YEH FINAL FORMzNOON FINAL FORMzREH FINAL FORMzYEH FINAL FORM
zYEH ISOLATED FORMzZAIN FINAL FORMrHAL WITH SUPERSCRIPT ALEF ISOLATED FORM
sEH WITH ALEF MAKSURA FINAL FORMz ALEF MAKSURA ISOLATED FORMz HEH MEDIAL FORMz JEEM ISOLATED FORM
z MEEM FINAL FORMz MEEM INITIAL FORMz MEEM ISOLATED FORMz MEEM MEDIAL FORMz NOON FINAL FORM
z REH FINAL FORMz YEH FINAL FORMz YEH ISOLATED FORMz ZAIN FINAL FORM
qUIGHUR KIRGHIZ YEH WITH HAMZA ABOVE WITH ALEF MAKSURA FINAL FORM
zRGHIZ YEH WITH HAMZA ABOVE WITH ALEF MAKSURA INITIAL FORM
zRGHIZ YEH WITH HAMZA ABOVE WITH ALEF MAKSURA ISOLATED FORMqWASALLAM ISOLATED FORM
qYEH WITH ALEF MAKSURA FINAL FORMzALEF MAKSURA ISOLATED FORMzHAH INITIAL FORMzHAH ISOLATED FORM
zHAH WITH YEH FINAL FORMzHAMZA ABOVE WITH AE FINAL FORMzHAMZA ABOVE WITH AE ISOLATED FORM
zHAMZA ABOVE WITH ALEF FINAL FORMzHAMZA ABOVE WITH ALEF ISOLATED FORM
zHAMZA ABOVE WITH ALEF MAKSURA FINAL FORMzHAMZA ABOVE WITH ALEF MAKSURA ISOLATED FORM
zHAMZA ABOVE WITH E FINAL FORMzHAMZA ABOVE WITH E INITIAL FORMzHAMZA ABOVE WITH E ISOLATED FORM
zHAMZA ABOVE WITH HAH INITIAL FORMzHAMZA ABOVE WITH HAH ISOLATED FORM
zHAMZA ABOVE WITH HEH INITIAL FORMzHAMZA ABOVE WITH HEH MEDIAL FORM
zHAMZA ABOVE WITH JEEM INITIAL FORMzHAMZA ABOVE WITH JEEM ISOLATED FORM
zHAMZA ABOVE WITH KHAH INITIAL FORMzHAMZA ABOVE WITH MEEM FINAL FORM
zHAMZA ABOVE WITH MEEM INITIAL FORMzHAMZA ABOVE WITH MEEM ISOLATED FORM
zHAMZA ABOVE WITH MEEM MEDIAL FORMzHAMZA ABOVE WITH NOON FINAL FORMzHAMZA ABOVE WITH OE FINAL FORM
zHAMZA ABOVE WITH OE ISOLATED FORMzHAMZA ABOVE WITH REH FINAL FORMzHAMZA ABOVE WITH U FINAL FORM
zHAMZA ABOVE WITH U ISOLATED FORMzHAMZA ABOVE WITH WAW FINAL FORMzHAMZA ABOVE WITH WAW ISOLATED FORM
zHAMZA ABOVE WITH YEH FINAL FORMzHAMZA ABOVE WITH YEH ISOLATED FORMzHAMZA ABOVE WITH YU FINAL FORM
zHAMZA ABOVE WITH YU ISOLATED FORMzHAMZA ABOVE WITH ZAIN FINAL FORMzHEH INITIAL FORMzHEH MEDIAL FORM
zJEEM INITIAL FORMzJEEM ISOLATED FORMzJEEM WITH YEH FINAL FORMzKHAH INITIAL FORMzKHAH ISOLATED FORM
zMEEM FINAL FORMzMEEM INITIAL FORMzMEEM ISOLATED FORMzMEEM MEDIAL FORMzMEEM WITH MEEM FINAL FORM
zMEEM WITH MEEM INITIAL FORMzMEEM WITH YEH FINAL FORMzNOON FINAL FORMzREH FINAL FORMzYEH FINAL FORM
zYEH ISOLATED FORMzZAIN FINAL FORMqZAH WITH MEEM INITIAL FORMzMEEM ISOLATED FORMzMEEM MEDIAL FORM
hMADDA WAAJIBmH ABOVEjRK NOON GHUNNAmSIDEWAYS NOON GHUNNAjTHEMATICAL AINvLEFuBEHuDADwLvOTLESS BEH
zSS FEHzSS NOONzSS QAFwUBLE-STRUCK AINzE-STRUCK BEHzE-STRUCK DADzE-STRUCK DALzE-STRUCK FEH
zE-STRUCK GHAINzE-STRUCK HAHzE-STRUCK JEEMzE-STRUCK KHAHzE-STRUCK LAMzE-STRUCK MEEMzE-STRUCK NOON
zE-STRUCK QAFzE-STRUCK REHzE-STRUCK SADzE-STRUCK SEENzE-STRUCK SHEENzE-STRUCK TAHzE-STRUCK TEH
zE-STRUCK THALzE-STRUCK THEHzE-STRUCK WAWzE-STRUCK YEHzE-STRUCK ZAHzE-STRUCK ZAINuFEHuGHAINuHAH
uINITIAL AINzAL BEHzAL DADzAL FEHzAL GHAINzAL HAHzAL HEHzAL JEEMzAL KAFzAL KHAHzAL LAMzAL MEEM
zAL NOONzAL QAFzAL SADzAL SEENzAL SHEENzAL TEHzAL THEHzAL YEHuJEEMuKAFvHAHuLAMvOOPED AINzD ALEF
zD BEHzD DADzD DALzD FEHzD GHAINzD HAHzD HEHzD JEEMzD KHAHzD LAMzD MEEMzD NOONzD QAFzD REHzD SAD
zD SEENzD SHEENzD TAHzD TEHzD THALzD THEHzD WAWzD YEHzD ZAHzD ZAINuMEEMuNOONuOPERATOR HAH WITH DAL
zTOR MEEM WITH HAH WITH TATWEELuQAFuREHuSADvEENvHEENvTRETCHED AINzCHED BEHzCHED DADzCHED DOTLESS BEH
zCHED DOTLESS FEHzCHED FEHzCHED GHAINzCHED HAHzCHED HEHzCHED JEEMzCHED KAFzCHED KHAHzCHED MEEM
zCHED NOONzCHED QAFzCHED SADzCHED SEENzCHED SHEENzCHED TAHzCHED TEHzCHED THEHzCHED YEHzCHED ZAHuTAH
wILED AINzD DADzD DOTLESS NOONzD DOTLESS QAFzD GHAINzD HAHzD JEEMzD KHAHzD LAMzD NOONzD QAFzD SAD
zD SEENzD SHEENzD YEHvEHvHALwEHuWAWuYEHuZAHwINhNUMBER MARK ABOVEoSIGNhOPEN DAMMATANmFATHATAN
mKASRATANhPERCENT SIGNiIASTRE MARK ABOVEiLACE OF SAJDAHiOETIC VERSE SIGNjUND MARK ABOVE
hQUESTION MARKhRAISED ROUND DOTjYiEVERSED DAMMAiIGHT ARROWHEAD ABOVEzOVE WITH DOTxBELOW
iOUNDED HIGH STOP WITH FILLED CENTREhSEMICOLONiHADDAn ISOLATED FORMoMEDIAL FORMiIGN ALAYHE ASSALLAM
mMISRAmRADI ALLAHOU ANHUoHMATULLAH ALAYHEmSAFHAoLLALLAHOU ALAYHE WASSALLAMoMVAToNAHnINDHI AMPERSAND
tPOSTPOSITION MENmTAKHALLUSiMALL DAMMAnFARSI YEHpTHAnHIGH AINsDOTLESS HEAD OF KHAHsFARSI YEH
tOOTNOTE MARKERsJEEMsLAM ALEFtIGATURE ALEF WITH LAM WITH YEHzE QAF WITH LAM WITH ALEF MAKSURA
zE SAD WITH LAM WITH ALEF MAKSURAsMADDAtEEM INITIAL FORMySOLATED FORMsNOONw WITH KASRAsQAF
sROUNDED ZEROsSADtEENtIGN SAFHAsTAHtHREE DOTSsUPRIGHT RECTANGULAR ZEROsWAWtORD AL-JUZyN-NISFyR-RUB
yS-SAJDAyTH-THALATHAxQIFxSAHzKTAxWAQFAsYEHv BARREE WITH TWO DOTS BELOWsZAHuINnKASRAnLOW MEEM
rNOON WITH KASRArSEENrWAWsORD IMAALAxSHMAAMwTASHEELnWAWnYEHiTART OF RUB EL HIZBiUBSCRIPT ALEFjKUN
m BELOWnISOLATED FORMnMEDIAL FORMjPERSCRIPT ALEF MOKHASSASiYMBOL DOT ABOVEsBELOW
qUBLE VERTICAL BAR BELOWoFOUR DOTS ABOVEyBELOWoRINGoSMALL TAH ABOVEyBELOWoTHREE DOTS ABOVEzBELOW
zPOINTING DOWNWARDS ABOVEzPOINTING DOWNWARDS BELOWpWO DOTS ABOVExBELOWxVERTICALLY ABOVE
zRTICALLY BELOWoWASLA ABOVEhTAIL FRAGMENTjTWEELo WITH FATHATAN ABOVEuOVERSTRUCK HAMZAzTRUCK WAW
uTWO DOTS BELOWiHOUSANDS SEPARATORiONE LOOP ABOVErBELOWmONE DOT ABOVEuBELOWmTWO DOTS ABOVEvBELOW
iRIPLE DOT PUNCTUATION MARKiURNED DAMMA BELOWhVERTICAL TAILiOWEL SIGN DOT BELOW
sINVERTED SMALL V ABOVEsSMALL V ABOVEhWAVY HAMZA BELOWhZWARAKAYg-INDIC CUBE ROOTnDIGIT EIGHTtFIVE
uOURtNINEtONEtSEVENuIXtTHREEuWOtZEROnFOURTH ROOTnPER MILLE SIGNrTEN THOUSAND SIGNcCcIES
cMENIAN ABBREVIATION MARKkPOSTROPHEjCAPITAL LETTER AYByBENyCAzHAzHEHzOyDAyECHzHzTyFEHyGHADzIMyHOyINI
yJAzHEHyKEHzENyLIWNyMENyNOWyOHyPEHzIWRyRAzEHySEHzHAyTIWNzOyVEWzOyXEHyYIzIWNyZAzHEkOMMAjDRAM SIGN
jEMPHASIS MARKkXCLAMATION MARKjFULL STOPjHYPHENjMODIFIER LETTER LEFT HALF RINGjQUESTION MARK
jSMALL LETTER AYBwBENwCAxHAyEHxOwDAwECHxHxTwFEHwGHADxIMwHOwINIwJAxHEHwKEHyNwLIWNwMENwNOWwOHwPEHxIWR
wRAxEHwSEHxHAwTIWNxOxURNED AYBwVEWxOwXEHwYIy WITH STROKEyWNwZAxHEqIGATURE ECH YIWNyMEN ECHzEN INI
zEN NOWzEN XEHyVEW NOWcROW POINTING DOWNWARDS THEN CURVING LEFTWARDSzTHEN CURVING RIGHTWARDS
pRIGHTWARDS THEN CURVING DOWNWARDSz THEN CURVING SOUTH WESTz THEN CURVING UPWARDS
pUPWARDS THEN NORTH WESTfHEAD-SHAPED POINTERcTICULATED LORRYeST PALETTEbSCENDING NODEdIA SYMBOL
cSERTIONcTERISKi OPERATORhMdONISHED FACEdRAEAeONOMICAL SYMBOL FOR URANUScYMPTOTICALLY EQUAL TO
bTHLETIC SHOEcOM SYMBOLbUBERGINEcSTRAL SIGNcTO RICKSHAWeMATED TELLER MACHINEfOBILE
bVESTAN ABBREVIATION MARKiLETTER AqArNrOqErEqNqOpBEqHEpCEpDEqHEpEqEpFEpGEqGEqHEpHEqMEpIqIpJEpKEpLE
pMEpNEqGErVErYEqNEqYEpOqOpPEpREpSEqHErYEqSHEpTEqHEqTEpUqUpVEpXEqVEqYEpYEqYEpZEqHEcOCADObXEaBABY
e ANGELfBOTTLEfCHICKfSYMBOLcCK OF ENVELOPEfWITH LEFTWARDS ARROW ABOVE
e-TILTED SHADOWED WHITE RIGHTWARDS ARROWeSLANTED SOUTH ARROW WITH HOOKED TAILzITH HORIZONTAL TAIL
fPACEdONdTRIAN CAMELcDGERdMINTON RACQUET AND SHUTTLECOCKcGELdGAGE CLAIMdUETTE BREADcLINESE ADEG ADEG
jCARIK PAMUNGKAHrRERENpSIKIjDIGIT EIGHTpFIVEqOURpNINEpONEpSEVENqIXpTHREEqWOpZEROjLETTER AIKARArKARA
v TEDUNGrRCHAIC JNYArSYURA SASAKqBAs KEMBANGqCAs LACAqDAs MADUuURDA ALPAPRANAzMAHAPRANAqEF SASAK
rKARAqGAs GORAqHAqIKARAv TEDUNGqJAs JERAqKAs MAHAPRANAsF SASAKrHOT SASAKqLAs LENGAy TEDUNGqMAqNA
s RAMBATrGArYAqOKARAv TEDUNGqPAs KAPALqRAs REPAx TEDUNGqSAs SAGAvPAqTAs LATIKtMURDA MAHAPRANAtTAWA
rZIR SASAKqUKARAv TEDUNGqVE SASAKqWAqYAqZAL SASAKjMUSICAL SYMBOL COMBINING BENDEzOMBINING ENDEP
zOMBINING GONGzOMBINING JEGOGANzOMBINING KEMPLIzOMBINING KEMPLI WITH JEGOGANzOMBINING KEMPUL
zOMBINING KEMPUL WITH JEGOGANzOMBINING TEGEHyDAENGzAINGzANGzANG GEDEzANG SURANGzENGzEUNGzINGzONGzUNG
yLEFT-HAND CLOSED PLAKzEFT-HAND CLOSED PLUKzEFT-HAND OPEN PANGzEFT-HAND OPEN PINGzEFT-HAND OPEN PUNG
yRIGHT-HAND CLOSED TAKzIGHT-HAND CLOSED TUKzIGHT-HAND OPEN DAGzIGHT-HAND OPEN DUGjPAMADAp LANTANG
mENENGlNTIo LANTANGjSIGN BISAHoCECEKoREREKANoSURANGoULU CANDRAsRICEMjVOWEL SIGN LA LENGAzNGA TEDUNG
uPEPETz TEDUNGuRA REPAzPA TEDUNGuSUKUy ILUTuTALINGzG REPAzG REPA TEDUNGzG TEDUNGvEDUNGuULUx SARI
jWINDUdL OF YARNeET SHOESeOONh-SPOKED ASTERISKfT BOLD SCRIPT XjXk WITH BALLOTrOLD CHECKvSCRIPT X
qCHECKqLIGHT XqSCRIPT XqXhSCRIPT XhXcMUM COLONiMBINING MARK KOQNDONvTUKWENTISjMAgFULL STOPgLETTER A
nEEnFAAMAEoEEoOMoUnInKAoENpTpUXoIoOpGHOMpVUUoPAoUoYEEnLAoEEEEoIoOQoUnMoAoBAApENoEEEEpNoIoOoUnNAoDAA
oGApGApKWAENoIoJAEMpEEpUAEoSHAoTEEpUUoUpAEoYInOnPAoEEpUXoHASE-A FIRIvGBIEE FONwHEUAEGHEUAEzAERAE
vKAFAxQwETxUKEUTNDAwPOQwUOQvLAPAQwET KUTwOMMAEwUxAEPvMAEKEUPyMzBGBIEEzKPENzVEUXyNYIySIxNSUAExP PIEET
wBANYIyQwEUNJOMNDEUQwGBASAwON NGGEUAETxOMEUTzPUQwVEUAENGAMvNAA MFONxQwDA LEERAEWAyANGGEUAETwENwGANGU
xGENxKUE MFONzENZEUMwIKAwJAMwKAARAExINDIwSHAyIEEwTAPz MFAAz NTAAxOQPENwYETxIyT MONGKEUAEQwZA MFON
xUN MEUTvPA LEERAEWAxAMyRAExMSHAExSHAEwETwON MFON PIPAEMBAzMFON PIPAEMGBIEEzPA NJI PIPAEMBA
zPA NJI PIPAEMGBIEEwUPvROMvSEUNYAMwHINDA PA NJIyRAExOQ NSHUT YUMxUENSHUETyMwISAwONJAMxQxTwUUvTEUAEN
yTEUWENwITA MFONwU MAEMBAxAEPvU YUQ NAEwNKNOWNvVEEtB FEExUXvGHEUGHENzGHEUAEMvKAMwEUAEMyPUQyYEUXwIEEM
xQvLAANAExM NSHUT NYAMwETwOM NTEUMvMAx NJEUAENAzJUQAwBA MAELEEyARAExEURIxIT MBAAKETxUOQwEUQyT NGGEET
wFIYAQxON TEUAEQwONTIEENvNDU NJAAwGGAAMyEU MBUyUOQzOQ LARGExKINDI MVOPxOMwSENxHUETwTIEE SHEUOQ
wYAEMAExI NTEUMvPARUMwEESHIwITwUNGAAMvSAKEUAEwET TUwHET NJAQyUAEQTUwIEEwUEvTAAMwU MAEMGBIEEyNSIEE
vVEUMvWUAETvYAFU LEERAEWAwEURAEtC BUNGvFUEvGBAYIwHAPyRAEvKAAwEN FATIGUEzLAWxTxUKAQyMySEUXzHEUAEP
wPARAQwUOP NKAARAExTvLAMxPwIQwUvMA KEUAERIyNSIEExEMBAySIwBAA CABBAGE-TREEz PICKETyNYIxEEKEETyRAEyUM
zXxIyRIEENyTxUAEMyEwGBASAQwIEEwUAEvNANSANAQxQwDAMyPxEUAEREEzTxIDAxOMBUwGAQxGENyUzAEN NYAMzEETzMzON
xKAQyUE MAEMBAxOMwJAEMyMxEEEEyUXxUEQwSAxEUAENxHAQxOMxUNyOT NGOMwTAAxENyUNGBAxU MBITwYIR MKPARAQ MEUN
wZAxEUMvPENwINxRIEENvRUvSETFONxUXwHIQxUEQwUAETvTAASHAEwETxUTEUXwITA YUEyUAEPvVEUAEPENyXvWANGKUOQwUP
vYAAwEUQwU MUOMAExMxWOQtD FAAwEUFEUAETvGHAAxEUAEvKETxUAETMEUNyMyOT MBUAEyPwUxNxOMxQwWAETwYEEvLEEEExT
xUAEPyMwIEEwOQwUMvMwAENJETxLEERIwBAAz SEVENxUOwEEEExUNyTwFEUAEzTxIEExOyNwGBEUNyIEEyOFUMwONIwUwVOP
vNDAMxEEyUXxONwGGAAMzAMAEzPyEUXyUOMyWAENxKAPyEUAEQzURIyIEEyUNyYEEwIwJAPxEUAEMzTxIyEExUEQwSHEEyUT
xIEEPzETxUMwTEEyUMxUUwUwYAMxETxIxUEvPAPwEExUTAEwIPwUQxUTvRAEMwEN MUCHzOLDwIIvSAPxQwEUAEQwHEEyUAEzX
xIIxOQxUwOTwUAExExUvTAEwEEEExUAENyNyTwIwOQwUxOTvWAPwUAENvYAEMMAEwENwUOMyPxWOQtE AvFAxQwEEwOMwU CALL
yIyREMEDYxEyTvGBETyUXwHAAMAExETyUAEzNzXxOMvIvKETxUAEyXwIwOwPEUXwUETxOPxTvLAAMxPxQwEUAEMwOMxONyTxQwU
vMAxEyMxPxQwBEEyUMwENwFEUQwGBAyENwIxEEwONwUAEwVIvNAxEwDAA MY HOUSEz SOFTNESSyPxIAQyQxUNwGAxEUREUT
xGEEEEzUAEzUAETyUAESHAE NYAMzPzRAExKAzAMIyEUAEMzUXyUMzPxOPyQxUAEzETwJAEMLIxEEz EPOCHyUXwKOMwSHIEEyUE
zOPwTAPxUMwYI BETWEENzCLEAVERwZAQxUQvOvPA PEOPLEzLURALxAyMwEEMxUTyXwIxEEQyTwOxONwUxAEyQxExMvRAExQ
wEUXwIMGBAvSAAwEExTwHEUAEQxIQxOyQwOMwUAENvTAAyQxEN NTEUMxMxQwENxUyAEQwOOyNxQwUAExMyAEvVEExUAEwOM
vWEUXwUExOvYAPwEUAEzETyMyXwIEExTwOQ COVERzSWIMMINGwUAENxEQxNxQtF EEvFOMvKAwENxTwOwPAwUwYEEvLAwIwOQvM
wAwBAAxENwEEEEwOvNDAAwGGAxKWAENwIwJAEMxUAEwSHAwTEEwUxAEwYIvPEExUXwUAEvREExNxUXwIEExIwUvSAMBAwEUXwHII
xOxUwIwUUvTAAxEwETvUvVUEQvWAwUEvYAwOQoIoUAEpEnRAEoEEpNpUXoIEEpIoUnSAMBAoEUXoHEUXpIIpOpUoIoUUnTAApE
oENpToInUnWAoUEnYAoOQoUQgNJAEMLIgQUESTION MARKgSEMICOLONcNANAdJOdKeNOTE WITH DOLLAR SIGNoEURO SIGN
oPOUND SIGNoYEN SIGNcR CHARTeOF SOAPdBER POLEcSEBALLdKETgBALL AND HOOPdSA VAH COMBINING HIGH TONE
y-LOW TONEuLOW TONEx-MID TONEuMID TONEkFULL STOPkLETTER ArBArCErDHIIsOrEsEsNNIrFArGAHsBUrHWAHrIrJO
rKAsPAHrMBErOsOrPArSErTOrUsWUrVUrWAtDDArYEINsIErZOcTdAK CONSONANT SIGN HvNGgLETTER AnBAnCAnDAnGAnHA
nInJAnKARO BAnLAnMApNDAILING HAyNAySAoBAnNAoDAoGAoORTHERN TAoYAnPApKPAK WAnRAnSAoIMALUNGUN AyGAyHA
yLAyMAyPAyRAySAyWAyYAoOUTHERN TAnUnWAnYAgPANGOLATjONGONANgSIGN TOMPIhYMBOL BINDU JUDULtNA METEK
tPANGOLATuINARBORASgVOWEL SIGN EsErIrKARO IwOrOrPAKPAK ErUs FOR SIMALUNGUN SAdHeTUBdTERY
bEACH WITH UMBRELLAdMED ASCENDING MUSICAL NOTEShDESCENDING MUSICAL NOTEShEIGHTH NOTES
hSIXTEENTH NOTESdNSdR FACEeDED PERSONdTING HEARTdVERcCAUSEcDcER MUGdTLEcLdLe PEPPERfSYMBOL
fWITH CANCELLATION STROKEeHOP BELLcNGALI ABBREVIATION SIGNjNJIjU LENGTH MARK
iCURRENCY DENOMINATOR SIXTEENrNUMERATOR FOURzR ONEzR ONE LESS THAN THE DENOMINATORzR THREEzR TWO
iDIGIT EIGHToFIVEpOURoNINEoONEoSEVENpIXoTHREEpWOoZEROiGANDA MARKiISSHARiLETTER AqAqIqUpBAqHApCAqHA
pDAqDArHAqHApEpGAqHApHApIqIpJAqHApKAqHAsNDA TApLApMApNAqGAqNAqYApOpPAqHApRAr WITH LOWER DIAGONAL
xMIDDLE DIAGONALqHAqRApSAqHAqSApTAqHAqTArHApUqUpVEDIC ANUSVARAqOCALIC LyLxRyRpYAqYAiRUPEE MARKoSIGN
iSANDHI MARKjIGN ANUSVARAoVAGRAHAnCANDRABINDUnNUKTAnVIRAMApSARGAiVOWEL SIGN AAuIuUtEtIuItOtUuU
tVOCALIC LzC LLzC RzC RRdT ARROW POINTING DOWNWARDS THEN NORTH EASTeO BOXdZENE RINGm WITH CIRCLE
cT SYMBOLdWEENcVERAGE BOXbHAIKSUKI DANDAlIGIT EIGHTqFIVErOURqNINEqONEqSEVENrIXqTHREErWOqZERO
lOUBLE DANDAkGAP FILLER-1v2kHUNDREDS UNIT MARKkLETTER AsAsIsUrBAsHArCAsHArDAsDAtHAsHArErGAsHArHArIsI
rJAsHArKAsHArLArMArNAsGAsNAsYArOrPAsHArRArSAsHAsSArTAsHAsTAtHArUsUrVAsOCALIC LzRzRRrYAkNUMBER EIGHT
wYrFIFTYtVEsORTYtURrNINEvTYrONErSEVENwTYsIXuTYrTENsHIRTYtREEsWENTYtOkSIGN ANUSVARAqVAGRAHA
pCANDRABINDUpVIRAMArSARGAkVOWEL SIGN AAwIwUvEvIwIvOvUwUvVOCALIC LzLIC RzLIC RRkWORD SEPARATORbICYCLE
gISTcG REVERSE SOLIDUSeSOLIDUScKINIcLLED CAPeIARDScOHAZARD SIGNcRDdTHDAY CAKEcSONcTCOIN SIGNdING LIP
bLACK BOWTIEgCENTRE WHITE STARhHESS BISHOPs ROTATED NINETY DEGREESzD TWO HUNDRED SEVENTY DEGREES
mEQUIHOPPERw ROTATED NINETY DEGREESmKINGq ROTATED NINETY DEGREESzTWO HUNDRED SEVENTY DEGREESnNIGHT
s ROTATED FORTY-FIVE DEGREESzD NINETY DEGREESzD ONE HUNDRED THIRTY-FIVE DEGREES
zD THREE HUNDRED FIFTEEN DEGREESzD TWO HUNDRED SEVENTY DEGREESzD TWO HUNDRED TWENTY-FIVE DEGREES
s-BISHOPtQUEENtROOKmPAWNq ROTATED NINETY DEGREESzTWO HUNDRED SEVENTY DEGREESmQUEEN
r ROTATED NINETY DEGREESz TWO HUNDRED SEVENTY DEGREESmROOKq ROTATED NINETY DEGREES
zTWO HUNDRED SEVENTY DEGREESmTURNED BISHOPtKINGuNIGHTtPAWNtQUEENtROOKhIRCLEm FOR RECORD
nWITH DOWN ARROWsTWO WHITE DOTSsWHITE DOT RIGHThLUB SUIThROSS ON SHIELD
hURVED DOWNWARDS AND LEFTWARDS ARROWzD RIGHTWARDS ARROWnLEFTWARDS AND DOWNWARDS ARROW
zD UPWARDS ARROWnRIGHTWARDS AND DOWNWARDS ARROWzND UPWARDS ARROWnUPWARDS AND LEFTWARDS ARROW
zRIGHTWARDS ARROWgDIAMONDn CENTREDoMINUS WHITE XoON CROSSoSUIToWITH DOWN ARROW
hOWN POINTING BACKHAND INDEXk-POINTING DOUBLE TRIANGLEuISOSCELES RIGHT TRIANGLEuSMALL TRIANGLE
uTRIANGLEkWARDS EQUILATERAL ARROWHEADhRAUGHTS KINGpMANiOPLETgFLAGiORETTEhOLDERiUR POINTED STAR
gHARD SHELL FLOPPY DISKhEARTl SUITiXAGONhORIZONTAL ELLIPSEiURGLASSgLARGE CIRCLEmSQUARE
hEFT LANE MERGElPOINTING BACKHAND INDEXuINDEXk-POINTING DOUBLE TRIANGLEzE TRIANGLE WITH VERTICAL BAR
uISOSCELES RIGHT TRIANGLEuPOINTERuSMALL TRIANGLEuTRIANGLEkWARDS BULLETqEQUILATERAL ARROWHEAD
hOWER LEFT TRIANGLEmRIGHT TRIANGLEiZENGEgMEDIUM DIAMONDoOWN-POINTING TRIANGLEzG TRIANGLE CENTRED
nLEFT-POINTING TRIANGLEzG TRIANGLE CENTREDoOZENGEnRIGHT-POINTING TRIANGLEzNG TRIANGLE CENTRED
nSMALL DIAMONDtLOZENGEtSQUAREoQUAREnUP-POINTING TRIANGLEzTRIANGLE CENTREDhOON LILITHgNIBgOCTAGON
gPARALLELOGRAMhENNANTjTAGONhUSHPINgQUESTION MARK ORNAMENTgRECTANGLEhIGHT POINTING BACKHAND INDEX
vINDEXl-POINTING DOUBLE TRIANGLEzLE TRIANGLE WITH VERTICAL BARvISOSCELES RIGHT TRIANGLEvPENTAGON
wOINTERvSMALL TRIANGLEvTRIANGLEzNGLE WITH DOUBLE VERTICAL BARlWARDS ARROWwHEADrBULLET
rEQUILATERAL ARROWHEADhOSETTEgSAFETY SCISSORShCISSORShHOGI PIECEhKULL AND CROSSBONES
hLIGHTLY SMALL CIRCLEvSQUAREhMALL DIAMONDmLOZENGEmSQUAREnTARiILING FACEhNOWMANhPADE SUIThQUARE
m BUTTONnCENTREDnFOR STOPhTARhUN WITH RAYSgTELEPHONEhINY DIAMONDlLOZENGElSQUAREhOUCHTONE TELEPHONE
hRUCKhWO-WAY LEFT WAY TRAFFICgUNIVERSAL RECYCLING SYMBOLhP POINTING BACKHAND INDEX
i-POINTING DOUBLE TRIANGLEsISOSCELES RIGHT TRIANGLEsSMALL TRIANGLEsTRIANGLEiPER LEFT TRIANGLE
mRIGHT TRIANGLEiWARDS EQUILATERAL ARROWHEADgVERTICAL ELLIPSEpRECTANGLEjY SMALL DIAMONDrLOZENGE
rSQUAREf-FEATHERED NORTH EAST ARROWqRIGHTWARDS ARROWqSOUTH EAST ARROWgLETTER CAPITAL CvHvIvRvZ
dNK SYMBOLcOCK SEXTANT-1p2q3r4s5s6r5s6r6q4r5s6r6q5r6q6p3q4r5s6r6q56q6p4q5r6q6p5q6p6o2p3q4r5s6r6q5r6
q6p4q5r6p5q6p6o3p4q5r6q6p5q6p6o4p5q6p6o5p6o6dSSOMdWFISHcUE BOOKfHEARTeBERRIESbOAR
cLD EIGHT SPOKED ASTERISKfFIVE SPOKED ASTERISKfGREEK CROSSfSALTIREgIX SPOKED ASTERISKfWHITE CIRCLE
lSQUAREcMdBcNEcOKeMARKi TABSeSdMERANGcPOMOFO FINAL LETTER GwHwKwPwTjLETTER ArHrIsNNrMrNsGsNrUsNNqBrU
qCrHqDqErErHrIrNsGsNrRqFqGrHrNrUrWqHqIrHrMrNNtNrRrUqJrIqKrWqLrHqMqNrGsGrNqOr WITH DOT ABOVErErMrNGsN
rOrUqPqQqRqSrHqTqUrNNqVqXqZrHrIrYcTTLE WITH POPPING CORKeOM ARC ANTICLOCKWISE ARROWhCURLY BRACKET
hHALF BLACK CIRCLEmINTEGRALmLEFT PARENTHESISmRIGHT PARENTHESIShLEFT CORNERnROPmHALF BRACKET
hPARENTHESIShRIGHT CORNERoROPnHALF BRACKEThSQUARE BRACKETv OVER TOP SQUARE BRACKET
hTORTOISE SHELL BRACKETcUQUETh OF FLOWERScW AND ARROWdL OF HYGIEIAfWITH SPOONeINGdTIE
g WITH LEFT HALF BLACKmRIGHT HALF BLACKcX DRAWINGS DOUBLE DOWN AND HORIZONTALzAND LEFTzAND RIGHT
uHORIZONTALuUP AND HORIZONTALzD LEFTzD RIGHTuVERTICALzCAL AND HORIZONTALzCAL AND LEFTzCAL AND RIGHT
pWN DOUBLE AND HORIZONTAL SINGLEzAND LEFT SINGLEzAND RIGHT SINGLEsHEAVY AND HORIZONTAL LIGHT
zND LEFT LIGHTzND LEFT UP LIGHTzND RIGHT LIGHTzND RIGHT UP LIGHTzND UP HORIZONTAL LIGHT
sLIGHT AND HORIZONTAL HEAVYzND LEFT HEAVYzND LEFT UP HEAVYzND RIGHT HEAVYzND RIGHT UP HEAVY
zND UP HORIZONTAL HEAVYsSINGLE AND HORIZONTAL DOUBLEzAND LEFT DOUBLEzAND RIGHT DOUBLE
nHEAVY DOUBLE DASH HORIZONTALz DASH VERTICALvWNx AND HORIZONTALzND LEFTzND RIGHTtHORIZONTALtLEFT
x AND LIGHT RIGHTtQUADRUPLE DASH HORIZONTALzPLE DASH VERTICALtRIGHTtTRIPLE DASH HORIZONTAL
z DASH VERTICALtUPv AND HORIZONTALz LEFTz LIGHT DOWNz RIGHTtVERTICALzAL AND HORIZONTALzAL AND LEFT
zAL AND RIGHTnLEFT DOWN HEAVY AND RIGHT UP LIGHTsHEAVY AND RIGHT DOWN LIGHTzND RIGHT UP LIGHT
zND RIGHT VERTICAL LIGHTsLIGHT AND RIGHT DOWN HEAVYzND RIGHT UP HEAVYzND RIGHT VERTICAL HEAVY
sUP HEAVY AND RIGHT DOWN LIGHToIGHT ARC DOWN AND LEFTzWN AND RIGHTxUP AND LEFTz AND RIGHT
tDIAGONAL CROSSzAL DIAMONDzAL MIDDLE LEFT TO LOWER CENTRE
zAL MIDDLE LEFT TO LOWER CENTRE TO MIDDLE RIGHTzAL MIDDLE LEFT TO UPPER CENTRE TO MIDDLE RIGHT
zAL MIDDLE LEFT TO UPPER CENTRE TO MIDDLE RIGHT TO LOWER CENTREzAL MIDDLE RIGHT TO LOWER CENTRE
zAL MIDDLE RIGHT TO UPPER CENTRE TO MIDDLE LEFT TO LOWER CENTREzAL UPPER CENTRE TO MIDDLE LEFT
zAL UPPER CENTRE TO MIDDLE LEFT AND MIDDLE RIGHT TO LOWER CENTRE
zAL UPPER CENTRE TO MIDDLE LEFT TO LOWER CENTRE
zAL UPPER CENTRE TO MIDDLE LEFT TO LOWER CENTRE TO MIDDLE RIGHTzAL UPPER CENTRE TO MIDDLE RIGHT
zAL UPPER CENTRE TO MIDDLE RIGHT AND MIDDLE LEFT TO LOWER CENTRE
zAL UPPER CENTRE TO MIDDLE RIGHT TO LOWER CENTRE
zAL UPPER CENTRE TO MIDDLE RIGHT TO LOWER CENTRE TO MIDDLE LEFTzAL UPPER LEFT TO LOWER RIGHT
zAL UPPER RIGHT TO LOWER LEFTuOUBLE DASH HORIZONTALz DASH VERTICALvWNx AND HORIZONTALzND LEFT
zND RIGHTtHORIZONTALzNTAL WITH VERTICAL STROKEtLEFTx AND HEAVY RIGHTtQUADRUPLE DASH HORIZONTAL
zPLE DASH VERTICALtRIGHTtTRIPLE DASH HORIZONTALz DASH VERTICALtUPv AND HEAVY DOWNz HORIZONTALz LEFT
z RIGHTtVERTICALzAL AND HORIZONTALzAL AND LEFTzAL AND RIGHTnRIGHT DOWN HEAVY AND LEFT UP LIGHT
tHEAVY AND LEFT DOWN LIGHTzAND LEFT UP LIGHTzAND LEFT VERTICAL LIGHTtLIGHT AND LEFT DOWN HEAVY
zAND LEFT UP HEAVYzAND LEFT VERTICAL HEAVYtUP HEAVY AND LEFT DOWN LIGHT
nUP DOUBLE AND HORIZONTAL SINGLEzD LEFT SINGLEzD RIGHT SINGLEqHEAVY AND DOWN HORIZONTAL LIGHT
z HORIZONTAL LIGHTz LEFT DOWN LIGHTz LEFT LIGHTz RIGHT DOWN LIGHTz RIGHT LIGHT
qLIGHT AND DOWN HORIZONTAL HEAVYz HORIZONTAL HEAVYz LEFT DOWN HEAVYz LEFT HEAVYz RIGHT DOWN HEAVY
z RIGHT HEAVYqSINGLE AND HORIZONTAL DOUBLEzD LEFT DOUBLEzD RIGHT DOUBLE
nVERTICAL DOUBLE AND HORIZONTAL SINGLEzBLE AND LEFT SINGLEzBLE AND RIGHT SINGLE
wHEAVY AND HORIZONTAL LIGHTzVY AND LEFT LIGHTzVY AND RIGHT LIGHTwLIGHT AND HORIZONTAL HEAVY
zHT AND LEFT HEAVYzHT AND RIGHT HEAVYwSINGLE AND HORIZONTAL DOUBLEzGLE AND LEFT DOUBLE
zGLE AND RIGHT DOUBLEdING GLOVEcYdS SYMBOLbPHbRAHMI DANDAiIGIT EIGHTnFIVEoOURnNINEnONEnSEVENoIX
nTHREEoWOnZEROiOUBLE DANDAhLETTER ApApIpUoBApHAoCApHAoDApDAqHApHAoEoGApHAoHAoIpIoJApHAoKApHAoLApLA
oMAoNApGApNApYAoOpLD TAMIL LLAzLLAyNNNAyRRAySHORT EzHORT OoPApHAoRAoSApHApSAoTApHApTAqHAoUpUoVA
pOCALIC LxLwRxRoYAhNUMBER EIGHTtYoFIFTYqVEpORTYqURoJOINERoNINEsTYoONEr HUNDREDsTHOUSANDoSEVENtTYpIX
rTYoTENpHIRTYqREEpWENTYqOhPUNCTUATION CRESCENT BARtDOTvUBLE DOTtLINEuOTUShSIGN ANUSVARAmCANDRABINDU
mJIHVAMULIYAmOLD TAMIL VIRAMAmUPADHMANIYAmVISARGAhVIRAMAiOWEL SIGN AAtItUsBHATTIPROLU AAsEsItIsO
tLD TAMIL SHORT EzIL SHORT OsUtUsVOCALIC Lz LLz Rz RRdILLE PATTERN BLANKqDOTS-1w2x3y4z5z56z567z5678
z568z57z578z58z6z67z678z68z7z78z8y5z6z67z678z68z7z78z8y6z7z78z8y7z8y8x4y5z6z67z678z68z7z78z8y6z7z78
z8y7z8y8x5y6z7z78z8y7z8y8x6y7z8y8x7y8x8w3x4y5z6z67z678z68z7z78z8y6z7z78z8y7z8y8x5y6z7z78z8y7z8y8x6y7
z8y8x7y8x8w4x5y6z7z78z8y7z8y8x6y7z8y8x7y8x8w5x6y7z8y8x7y8x8w6x7y8x8w7x8w8v2w3x4y5z6z67z678z68z7z78z8
y6z7z78z8y7z8y8x5y6z7z78z8y7z8y8x6y7z8y8x7y8x8w4x5y6z7z78z8y7z8y8x6y7z8y8x7y8x8w5x6y7z8y8x7y8x8w6x7
y8x8w7x8w8v3w4x5y6z7z78z8y7z8y8x6y7z8y8x7y8x8w5x6y7z8y8x7y8x8w6x7y8x8w7x8w8v4w5x6y7z8y8x7y8x8w6x7y8
x8w7x8w8v5w6x7y8x8w7x8w8v6w7x8w8v7w8v8eNcEADeK PERMITTED HEREeST-FEEDINGdVEcICKdDE WITH VEIL
eGE AT NIGHTdEFCASEfScOCCOLIdKEN BARhCIRCLE WITH NORTHWEST ARROWhHEARTdOMdWN HEARTbSbUBBLE TEAgS
cCKETcGdINESE END OF SECTIONjLETTER AqBAqCAqDAqGAqHAqJAqKAqLAqMArPAqNArGAsKArRArYAsCAqPAqRAqSAqTAqVA
qYAjPALLAWAjVOWEL SIGN AEuEuIuOuUcHID LETTER AnBAnDAnGAnHAnInKAnLAnMAnNAoGAnPAnRAnSAnTAnUnWAnYA
gVOWEL SIGN IrUcILDING CONSTRUCTIONcLLETg OPERATOReHORNi WITH SOUND WAVESeSEYEcRRITOcSd STOP
dT IN SILHOUETTEeS IN SILHOUETTEcTTERgFLYbYTE ORDER MARKcZANTINE MUSICAL SYMBOL AGOGI ARGI
zAGOGI ARGOTERIzAGOGI GORGIzAGOGI GORGOTERIzAGOGI MESIzAGOGI METRIAzAGOGI POLI ARGIzAGOGI POLI GORGI
zANATRICHISMAzANTIKENOKYLISMAzANTIKENOMAzAPESO EKFONITIKONzAPESO EXO NEOzAPLIzAPODERMA ARCHAION
zAPODERMA NEOzAPOSTROFOI SYNDESMOS NEOzAPOSTROFOI TELOUS ICHIMATOSzAPOSTROFOSzAPOSTROFOS DIPLI
zAPOSTROFOS NEOzAPOTHEMAzARGONzARGOSYNTHETONzARKTIKO DIzARKTIKO GAzARKTIKO KEzARKTIKO NIzARKTIKO PA
zARKTIKO VOUzARKTIKO ZOzCHAMILIzCHAMILONzCHOREVMA ARCHAIONzCHOREVMA NEOzCHROA KLITONzCHROA SPATHI
zCHROA ZYGOSzDASEIAzDIARGONzDIASTOLI APLI MEGALIzDIASTOLI APLI MIKRIzDIASTOLI DIPLIzDIASTOLI THESEOS
zDIESIS APLI DYO DODEKATAzDIESIS DIGRAMMOS EX DODEKATAzDIESIS MONOGRAMMOS TESSERA DODEKATA
zDIESIS TETARTIMORIONzDIESIS TRIGRAMMOS OKTO DODEKATAzDIESIS TRITIMORIONzDIFTOGGOS OUzDIGORGON
zDIGORGON PARESTIGMENON ARISTERA ANOzDIGORGON PARESTIGMENON ARISTERA KATO
zDIGORGON PARESTIGMENON DEXIAzDIGRAMMA GGzDIPLIzDIPLI ARCHAIONzDYOzEKSTREPTONzELAFRON
zENARXIS KAI FTHORA VOUzENDOFONONzEPEGERMAzETERON ARGOSYNTHETONzETERON PARAKALESMAzEXO EKFONITIKON
zFANEROSIS DIFONIASzFANEROSIS MONOFONIASzFANEROSIS TETRAFONIASzFHTORA SKLIRON CHROMA VASIS
zFTHORA ARCHAIONzFTHORA ARCHAION DEYTEROU ICHOUzFTHORA DIATONIKI DIzFTHORA DIATONIKI KE
zFTHORA DIATONIKI NANAzFTHORA DIATONIKI NI ANOzFTHORA DIATONIKI NI KATOzFTHORA DIATONIKI PA
zFTHORA DIATONIKI ZOzFTHORA ENARMONIOS ANTIFONIAzFTHORA I YFESIS TETARTIMORION
zFTHORA MALAKON CHROMA DIFONIASzFTHORA MALAKON CHROMA MONOFONIASzFTHORA NAOS ICHOSzFTHORA NENANO
zFTHORA SKLIRON CHROMA SYNAFIzFTHORA SKLIRON CHROMA VASISzFTHORA SKLIRON DIATONON DIzGENIKI DIESIS
zGENIKI YFESISzGORGON ARCHAIONzGORGON NEO ANOzGORGON NEO KATOzGORGON PARESTIGMENON ARISTERA
zGORGON PARESTIGMENON DEXIAzGORGOSYNTHETONzGORTHMIKON N APLOUNzGORTHMIKON N DIPLOUNzGRONTHISMATA
zICHADINzIMIDIARGONzIMIFONONzIMIFTHORAzIMIFTHORONzISAKIA TELOUS ICHIMATOSzISON ARCHAIONzISON NEO
zKATAVA TROMIKONzKATAVASMAzKATHISTIzKENTIMA ARCHAIONzKENTIMA NEO ANOzKENTIMA NEO KATO
zKENTIMA NEO MESOzKENTIMATAzKENTIMATA ARCHAIONzKENTIMATA NEO ANOzKENTIMATA NEO KATO
zKENTIMATA NEO MESOzKLASMAzKLASMA ANOzKLASMA KATOzKONTEVMAzKONTEVMA ALLOzKORONISzKOUFISMA
zKRATIMA ALLOzKRATIMA ARCHAIONzKRATIMA NEOzKRATIMATAzKRATIMOKOUFISMAzKRATIMOYPORROONzKREMASTI
zKYLISMAzLEIMMA DYO CHRONONzLEIMMA ENOS CHRONOUzLEIMMA IMISEOS CHRONOUzLEIMMA TESSARON CHRONON
zLEIMMA TRION CHRONONzLEMOIzLYGISMAzMARTYRIA ALLI DEYTEROS ICHOSzMARTYRIA ALLI PROTOS ICHOS
zMARTYRIA DEYTEROS ICHOSzMARTYRIA LEGETOS ICHOSzMARTYRIA PLAGIOS ICHOS
zMARTYRIA PLAGIOS TETARTOS ICHOSzMARTYRIA PROTOS ICHOSzMARTYRIA PROTOVARYS ICHOS
zMARTYRIA TETARTOS ICHOSzMARTYRIA TETARTOS LEGETOS ICHOSzMARTYRIA TRIFONIASzMARTYRIA TRITOS ICHOS
zMARTYRIA VARYS ICHOSzMIKRON ISONzNANAzOLIGON ARCHAIONzOLIGON NEOzOMALONzOXEIA DIPLI
zOXEIA EKFONITIKONzOXEIA NEOzOXEIAI ARCHAIONzOYRANISMA ARCHAIONzOYRANISMA NEOzPARAKALESMA ARCHAION
zPARAKALESMA NEOzPARAKLITIKIzPARAKLITIKI ARCHAIONzPARAKLITIKI NEOzPARICHONzPELASTONzPELASTON NEO
zPERISPOMENIzPETASMAzPETASTIzPETASTOKOUFISMAzPIASMA ARCHAIONzPIASMA NEOzPSIFISTOLYGISMAzPSIFISTON
zPSIFISTON NEOzPSIFISTOPARAKALESMAzPSIFISTOSYNAGMAzPSILIzPSILONzRAPISMAzREVMAzSAXIMATAzSEISMA
zSEISMA NEOzSIMANSIS ARSEOSzSIMANSIS ARSEOS DISIMOUzSIMANSIS ARSEOS TETRASIMOU
zSIMANSIS ARSEOS TRISIMOUzSIMANSIS THESEOSzSIMANSIS THESEOS DISIMOUzSIMANSIS THESEOS TETRASIMOU
zSIMANSIS THESEOS TRISIMOUzSTAVROSzSTAVROS APODEXIAzSTIGMAzSTRAGGISMATAzSYNAGMA ARCHAION
zSYNAGMA META STAVROUzSYNAGMA NEOzSYNEVMAzSYRMAzSYRMATIKIzTELEIAzTESSERAzTETRAPLIzTHEMAzTHEMA APLOUN
zTHEMATISMOS ESOzTHEMATISMOS EXOzTHES KAI APOTHESzTHITAzTINAGMAzTRIAzTRIGORGONzTRIPLIzTROMIKOLYGISMA
zTROMIKON ALLOzTROMIKON ARCHAIONzTROMIKON NEOzTROMIKOPARAKALESMAzTROMIKOPSIFISTONzTROMIKOSYNAGMA
zVAREIA DIPLIzVAREIA EKFONITIKONzVAREIA NEOzVAREIAI ARCHAIONzVATHYzXIRON KLASMAzYFEN ANOzYFEN KATO
zYFESIS APLI DYO DODEKATAzYFESIS DIGRAMMOS EX DODEKATAzYFESIS MONOGRAMMOS TESSERA DODEKATA
zYFESIS TRIGRAMMOS OKTO DODEKATAzYFESIS TRITIMORIONzYPOKRISISzYPOKRISIS DIPLIzYPORROIzYPSILIaCACTUS
cDA UNAdUCEUScLENDARdL ME HANDcMERAg WITH FLASHdPINGcNdADIAN SYLLABICS AuAvIvYuIvVILIK BuN
uTHAPASCAN MzSCAN SuYtBEAVER DENE Lz DENE RuIBLE-CREE YuLACKFOOT AzOOT EzOOT IzOOT KAzOOT KEzOOT KI
zOOT KOzOOT NAzOOT NEzOOT NIzOOT NOzOOT OzOOT SzOOT WzOOT WAzOOT WEzOOT WIzOOT WOtCuAvAwIvRRIER CHA
zR CHEzR CHEEzR CHIzR CHOzR CHUzR DEEzR DENE GEEzR DENTAL SzR DIzR DLAzR DLEzR DLEEzR DLIzR DLO
zR DLUzR DZAzR DZEzR DZEEzR DZIzR DZOzR DZUzR EEzR GAzR GAAzR GEzR GEEzR GHAzR GHEzR GHEEzR GHI
zR GHOzR GHUzR GIzR GOzR GUzR GWAzR GWUzR HzR HEEzR HIzR HWAzR HWEzR HWEEzR HWIzR HWOzR HWUzR I
zR INITIAL ZzR JAzR JEzR JEEzR JIzR JJAzR JJEzR JJEEzR JJIzR JJOzR JJUzR JOzR JUzR JWAzR KHAzR KHE
zR KHEEzR KHIzR KHOzR KHUzR KKzR KKAzR KKEzR KKEEzR KKIzR KKOzR KKUzR LAzR LEzR LEEzR LHAzR LHE
zR LHEEzR LHIzR LHOzR LHUzR LIzR LOzR LUzR MAzR MEzR MEEzR MIzR MOzR MUzR NAzR NEzR NEEzR NGzR NI
zR NOzR NUzR PzR PAzR PEzR PEEzR PIzR POzR PUzR RAzR REzR REEzR RIzR ROzR RUzR SAzR SEzR SEEzR SH
zR SHAzR SHEzR SHEEzR SHIzR SHOzR SHUzR SIzR SOzR SUzR THAzR THEzR THEEzR THIzR THOzR THUzR TLA
zR TLEzR TLEEzR TLHAzR TLHEzR TLHEEzR TLHIzR TLHOzR TLHUzR TLIzR TLOzR TLUzR TSAzR TSEzR TSEEzR TSI
zR TSOzR TSUzR TTAzR TTEzR TTEEzR TTIzR TTOzR TTSAzR TTSEzR TTSEEzR TTSIzR TTSOzR TTSUzR TTUzR WA
zR WEzR WEEzR WIzR WOzR WUzR YAzR YEzR YEEzR YIzR YOzR YUzR ZzR ZAzR ZEzR ZEEzR ZIzR ZOzR ZUuE
uHI SIGNuIvIuOvOuWAwAvEvIwIvOwOtEuASTERN WuNtFuAvAwIuEuIvIvNAL ACUTEzBOTTOM HALF RINGzDOUBLE ACUTE
zDOUBLE SHORT VERTICAL STROKESzDOWN TACKzGRAVEzMIDDLE DOTzPLUSzRAISED DOTzRIGHT HALF RINGzRING
zSHORT HORIZONTAL STROKEzSMALL RINGzTOP HALF RINGuOvOuULL STOPuWAAtGLOTTAL STOPtHKuYPHENtIuIuNtKuAvA
wIvYuEuIvIuOvOuWvAwAwYvEvIwIvOwOtLuAvAwIvYuEuHvAwAvIwIvOwOuIvIuOvOuWAwAvEvIwIvOwOtMuAvAwIvYuEvDIAL L
z RuHuIvIuOvOwSE-CREE SKuWAwAvEvIwIvOwOtNu-CREE THEz THIz THIIuAvAwIvSKAPI CWAAzI KWAAzI MWAAzI NWAA
zI S-WzI SCWAzI SKWzI SKWAzI SPWAzI STWAzI SWAAzI TWAAzI WAAzI WOOzI YWAAvTTILIK HAzIK HAAzIK HI
zIK HIIzIK HOzIK HOOzIK SHRAzIK SHRAAzIK SHRIzIK SHRIIzIK SHROzIK SHROOvYuEuGvAwAxIwIvIwIvOwOuHuIvI
uNGwAxAwIxIwOxOuOvOvYuUNAVIK HzK HAzK HAAzK HEzK HIzK HIIzK HOzK HOOyUT HuWAwAvEvIwIvOwOtOuJIBWAY C
zY KzY MzY NzY NWIzY NWIIzY NWOzY NWOOzY PzY SzY SHzY TuNuOuYtPuAvAwIvYuEuIvIuOvOvYuWAwAvEvIwIvOwOwY
tQuAvAwIvIuIvIuOvOtRu-CREE REz RWEuAvAwIvYuEuIvIuOvOuWAwAvEEvIwIvOwOtSuAvAwIvYwISI HAz HEz HIz HO
z HOOz JIz JUz JUUz Mz SHAz SHEz SHIz SHOz SHOOz SHWEz THz YIuEuHvAwAwYvEvIwIvOwOwYvWAxAwEwIxIwOxOxY
uIvIuOvOvUTH-SLAVEY KAHzSLAVEY KEHzSLAVEY KIHzSLAVEY KOHvYuPAvEvIvOuWvAwAvEvIwIvOwOtTuAvAwIvYuEuH
v-CREE THzE THAzE THAAzE THEzE THIzE THIIzE THOzE THOOvAwAvEvIwIvOwOvWAxAwEuIvIuLHAwEwIwOxOwWEuOvO
uTAvEvHwAxAwEwIwOxOwWEvIvOuWAwAvEvIwIvOwOuYAvEvIvOtWAvAvYuEvST-CREE CWAzREE CWAAzREE CWEzREE CWI
zREE CWIIzREE CWOzREE CWOOzREE FWAAzREE KWAzREE KWAAzREE KWEzREE KWIzREE KWIIzREE KWOzREE KWOOzREE L
zREE LAzREE LAAzREE LEzREE LOzREE LOOzREE LWAzREE LWAAzREE LWEzREE LWIzREE LWIIzREE LWOzREE LWOO
zREE MzREE MWAzREE MWAAzREE MWEzREE MWIzREE MWIIzREE MWOzREE MWOOzREE NWAzREE NWAAzREE NWEzREE P
zREE PWAzREE PWAAzREE PWEzREE PWIzREE PWIIzREE PWOzREE PWOOzREE RzREE RAzREE REzREE RIzREE RO
zREE RWAAzREE SHWAzREE SHWAAzREE SHWEzREE SHWIzREE SHWIIzREE SHWOzREE SHWOOzREE SWAzREE SWAAzREE SWE
zREE SWIzREE SWIIzREE SWOzREE SWOOzREE THWAAzREE TWAzREE TWAAzREE TWEzREE TWIzREE TWIIzREE TWO
zREE TWOOzREE WAzREE WAAzREE WEzREE WIzREE WIIzREE WOzREE WOOzREE YzREE YWAzREE YWAAzREE YWEzREE YWI
zREE YWIIzREE YWOzREE YWOOxERN WuIvIuOvOwDS-CREE FINAL THzCREE THzCREE THAzCREE THEzCREE THI
zCREE THOzCREE THWAzCREE THWAAzCREE THWEEzCREE THWIzCREE THWIIzCREE THWOzCREE THWOOtYu-CREE COOz KOO
z LOOz MOOz NOOz OOz POOz PWAAz SOOz TOOz Wz YOOuAvAwIvYuEuIvIuOvOvYuWAwAvEvIwIvOwOdCELg CHARACTER
hTAGgLATION XfRdDLEeYdNED FOODdOEcPITULUMdRICORNcR SLIDINGdD FILE BOXfINDEXk DIVIDERSdE OFeT
f INSERTION POINTdIAN LETTER Ap2oBoC-18q39oDp2oEp2oGp2oIpIoKp2oLpDq2oMpBq2q3q4oNpDpGpNoOoPp2oQoRpRoS
pHq2pSpTq2oTpTq2oUpUqUr2r3rUoXdONeUSEL HORSEdP STREAMEReENTRY SAWdRIAGE RETURNeOTcSTLEcTd FACE
i WITH TEARS OF JOYoWRY SMILEcUCASIAN ALBANIAN CITATION MARKtLETTER ALTz AORz BETz CARz CAYNz CHA
z CHATz CHIz CHOYz CYAWz CYAYz DATz DYANz DZAYz DZYAYz EBz EYNz FAMz GHEYSz GIMz HEYTz INYAz IRB
z IWNz JAYNz JHOXz KARz KIWz LANz LYITz MAQz NOWCz ONz PENz PIWRz QARz QAYz RATz SEYKz SHAz SHAK
z SHOYz TASz TIWRz TYAYz VEYZz XEYNz YAYDz YOWDz ZARLz ZHAz ZHILdTION SIGNbCHbEDI SIGNeLLA
cLTIC CROSScNT SIGNeRE LINE SYMBOLgLINE LOW LINElOVERLINEcRESbGJbHAINSeRdKMA AU MARKhDANDA
iIGIT EIGHTnFIVEoOURnNINEnONEnSEVENoIXnTHREEoWOnZEROiOUBLE DANDAhLETTER AAoBAApHAAoCAApHAAoDAApDAA
qHAApHAAoEoGAApHAAoHAAoIoJAApHAAoKAApHAAoLAApHAAoMAAoNAApGAApNAApYAAoPAApHAAoRAAoSAAoTAApHAApTAAqHAA
oUoVAAoWAAoYAApYAAhMAAYYAAhO MARKhQUESTION MARKhSECTION MARKiIGN ANUSVARAmCANDRABINDUmVISARGAhVIRAMA
iOWEL SIGN AtAtItUsEtIsItIsOtIsUtUdM CONSONANT SIGN FINAL Hz Mz NGuLAuRAuWAuYAfDIGIT EIGHTlFIVEmOUR
lNINElONElSEVENmIXlTHREEmWOlZEROfLETTER AnImBAnBAnHAmCHAoHAmDAnDAnHAmEmFINAL CHsGsKsLsNtGsPsRsSSsTsY
mGAnHAmHAmImJAnHAmKAnHAmLAmMAnUEmNAnGAoUEnHAoJAoUEnUEmOmPAnHAnPAmRAmSAnSAmTAnHAmUmVAmYA
fPUNCTUATION DANDAsOUBLE DANDArSPIRALrTRIPLE DANDAfVOWEL SIGN AArIrUqEIqIrIqOrEqUrE
dRACTER TABULATIONu SETvWITH JUSTIFICATIONlIEeT WITH DOWNWARDS TRENDlUPWARDS TRENDy AND YEN SIGN
cECK MARKfER BOARDn FILLdERING MEGAPHONEeSE WEDGEdQUERED FLAGdROKEE LETTER AqDArErIrLArOrUrVqEqGArE
rIrOrUrVqHArErIrNArOrUrVqIqKAqLArErIrOrUrVqMArErIrOrUrVqNAsHrErIrOrUrVqOqQUAsEsIsOsUsVqSrArErIrOrUrV
qTArErIrLAsEsIsOsUsVrSAsEsIsOsUsVqUqVqWArErIrOrUrVqYArErIrOrUrVjSMALL LETTER AwDAxExIxLAxOxUxVwEwGA
xExIxOxUxVwHAxExIxNAxOxUxVwIwKAwLAxExIxOxUxVwMAxExIxOxUxVwNAyHxExIxOxUxVwOwQUAyEyIyOyUyVwSxAxExIxOxU
xVwTAxExIxLAyEyIyOyUyVxSAyEyIyOyUyVwUwVwWAxExIxOxUxVwYAxExIxOxUxVeRIESfY BLOSSOMdSTNUTcI RHOdCKENdLD
fREN CROSSINGdPMUNKdRONcOCOLATE BARdPSTICKSdRASMIAN LETTER ALEPHtYINsBETHsCURLED WAWsDALETHsGIMELsHE
uTHsKAPHsLAMEDHsMEMsNUNsPEsRESHsSAMEKHtHINtMALL ALEPHsTAWsWAWsYODHsZAYINlNUMBER FOURsONEv HUNDRED
sTENtHREEtWENTYuOcRISTMAS TREEcURCHbINEMA
cRCLE DIVIDED BY HORIZONTAL BAR AND TOP HALF DIVIDED BY VERTICAL BAR
hWITH ALL BUT UPPER LEFT QUADRANT BLACKmHORIZONTAL BARmLEFT HALF BLACKnOWER HALF BLACK
mRIGHT HALF BLACKmSMALL CIRCLE TO THE RIGHTnUPERIMPOSED XmTWO HORIZONTAL STROKES TO THE RIGHT
mUPPER HALF BLACKsRIGHT QUADRANT BLACKmVERTICAL FILLgD ANTICLOCKWISE ARROWv-ROTATED DIVISION SIGN
jSTERISK OPERATORiBOLD XjULLETiC WITH OVERLAID BACKSLASHjCjDjROSS FORMEEu WITH FOUR DOTSz TWO DOTS
oPOMMEEnING LANESiDASHjIGIT EIGHToFIVEpOURoNINEoONEoSEVENpIXoTHREEpWOoZEROkVISION SIGNsLASH
jOLLAR SIGN WITH OVERLAID BACKSLASHkT OPERATORiEQUALSiGREATER-THANiHANGUL CHIEUCHw AqIEUCu ApHIEUH
u ApIEUNGu AvUpKHIEUKHw AqIYEOKv ApMIEUMu ApNIEUNu ApPHIEUPHw AqIEUPu ApRIEULu ApSIOSt ApTHIEUTHw A
qIKEUTv AjEAVY WHITE RIGHTWARDS ARROWjORIZONTAL BAR WITH NOTCHjUMAN FIGUREiIDEOGRAPH ACCEPTtDVANTAGE
tLLIANCEtTTENTIONsCENTREtONGRATULATIONuPYuRRECTsEARTHtIGHTtNTERPRISEtXCELLENTsFEMALEtINANCIALuREuVE
tOURsHAVEtIGHsITEMsKINDERGARTENtOTOsLABORtEFTtOWsMALEtEDICINEuTALtOONsNAMEtIGHTuNEsONEsPRINT
sQUESTIONsRELIGIONuSOURCEvTtIGHTsSCHOOLtECRETuVENtIXtOCIETYtPECIALtTOCKuUDYtUITABLEuNuPERVISEsTEN
tHREEtWOsWATERtOODjNFORMATION SOURCEjTALIC LATIN CAPITAL LETTER CzTAL LETTER RiKATAKANA ArErHAsEsIsO
sUrIrKAsEsIsOsUrMAsEsIsOsUrNAsEsIsOsUrOrRAsEsIsOsUrSAsEsIsOsUrTAsEsIsOsUrUrWAsEsIsOrYAsOsU
jOREAN CHARACTER CHAMKOzJUEUIiLATIN CAPITAL LETTER AzTER BzTER CzTER DzTER EzTER FzTER GzTER HzTER I
zTER JzTER KzTER LzTER MzTER NzTER OzTER PzTER QzTER RzTER SzTER TzTER UzTER VzTER WzTER XzTER Y
zTER ZoSMALL LETTER AzR BzR CzR DzR EzR FzR GzR HzR IzR JzR KzR LzR MzR NzR OzR PzR QzR RzR SzR T
zR UzR VzR WzR XzR YzR ZjESS-THANiMINUSjULTIPLICATION SIGN WITH CIRCUMFLEX ACCENTiNUMBER EIGHTEEN
uY ON BLACK SQUAREqLEVENpFIFTEENtYu ON BLACK SQUAREqORTYu EIGHTvFIVEwOURvNINEvON BLACK SQUARExE
vSEVENwIXvTHREEwWOrURTEENpNINETEENpSEVENTEENvY ON BLACK SQUAREqIXTEENtY ON BLACK SQUAREpTEN
s ON BLACK SQUAREqHIRTEENuYv EIGHTwFIVExOURwNINEwON BLACK SQUAREyEwSEVENxIXwTHREExWOqWELVEsNTY
v EIGHTwFIVExOURwNINEwON BLACK SQUAREyEwSEVENxIXwTHREExWOiOPEN CENTRE EIGHT POINTED STARiPARALLEL
jERPENDICULARjLUSjOSTAL MARKiREVERSE SOLIDUSjING OPERATORiSQUAREiTIMESjRIANGLEq DOWNiVERTICAL BAR
iWHITE BULLEToSTARjZiXiZERO WITH SLASHeULATION FUNCTIONfMFLEX ACCENTfS TENTcTYSCAPEj AT DUSK
bJK COMPATIBILITY IDEOGRAPH-2F800zPH-2F801zPH-2F802zPH-2F803zPH-2F804zPH-2F805zPH-2F806zPH-2F807
zPH-2F808zPH-2F809zPH-2F80AzPH-2F80BzPH-2F80CzPH-2F80DzPH-2F80EzPH-2F80FzPH-2F810zPH-2F811zPH-2F812
zPH-2F813zPH-2F814zPH-2F815zPH-2F816zPH-2F817zPH-2F818zPH-2F819zPH-2F81AzPH-2F81BzPH-2F81CzPH-2F81D
zPH-2F81EzPH-2F81FzPH-2F820zPH-2F821zPH-2F822zPH-2F823zPH-2F824zPH-2F825zPH-2F826zPH-2F827zPH-2F828
zPH-2F829zPH-2F82AzPH-2F82BzPH-2F82CzPH-2F82DzPH-2F82EzPH-2F82FzPH-2F830zPH-2F831zPH-2F832zPH-2F833
zPH-2F834zPH-2F835zPH-2F836zPH-2F837zPH-2F838zPH-2F839zPH-2F83AzPH-2F83BzPH-2F83CzPH-2F83DzPH-2F83E
zPH-2F83FzPH-2F840zPH-2F841zPH-2F842zPH-2F843zPH-2F844zPH-2F845zPH-2F846zPH-2F847zPH-2F848zPH-2F849
zPH-2F84AzPH-2F84BzPH-2F84CzPH-2F84DzPH-2F84EzPH-2F84FzPH-2F850zPH-2F851zPH-2F852zPH-2F853zPH-2F854
zPH-2F855zPH-2F856zPH-2F857zPH-2F858zPH-2F859zPH-2F85AzPH-2F85BzPH-2F85CzPH-2F85DzPH-2F85EzPH-2F85F
zPH-2F860zPH-2F861zPH-2F862zPH-2F863zPH-2F864zPH-2F865zPH-2F866zPH-2F867zPH-2F868zPH-2F869zPH-2F86A
zPH-2F86BzPH-2F86CzPH-2F86DzPH-2F86EzPH-2F86FzPH-2F870zPH-2F871zPH-2F872zPH-2F873zPH-2F874zPH-2F875
zPH-2F876zPH-2F877zPH-2F878zPH-2F879zPH-2F87AzPH-2F87BzPH-2F87CzPH-2F87DzPH-2F87EzPH-2F87FzPH-2F880
zPH-2F881zPH-2F882zPH-2F883zPH-2F884zPH-2F885zPH-2F886zPH-2F887zPH-2F888zPH-2F889zPH-2F88AzPH-2F88B
zPH-2F88CzPH-2F88DzPH-2F88EzPH-2F88FzPH-2F890zPH-2F891zPH-2F892zPH-2F893zPH-2F894zPH-2F895zPH-2F896
zPH-2F897zPH-2F898zPH-2F899zPH-2F89AzPH-2F89BzPH-2F89CzPH-2F89DzPH-2F89EzPH-2F89FzPH-2F8A0zPH-2F8A1
zPH-2F8A2zPH-2F8A3zPH-2F8A4zPH-2F8A5zPH-2F8A6zPH-2F8A7zPH-2F8A8zPH-2F8A9zPH-2F8AAzPH-2F8ABzPH-2F8AC
zPH-2F8ADzPH-2F8AEzPH-2F8AFzPH-2F8B0zPH-2F8B1zPH-2F8B2zPH-2F8B3zPH-2F8B4zPH-2F8B5zPH-2F8B6zPH-2F8B7
zPH-2F8B8zPH-2F8B9zPH-2F8BAzPH-2F8BBzPH-2F8BCzPH-2F8BDzPH-2F8BEzPH-2F8BFzPH-2F8C0zPH-2F8C1zPH-2F8C2
zPH-2F8C3zPH-2F8C4zPH-2F8C5zPH-2F8C6zPH-2F8C7zPH-2F8C8zPH-2F8C9zPH-2F8CAzPH-2F8CBzPH-2F8CCzPH-2F8CD
zPH-2F8CEzPH-2F8CFzPH-2F8D0zPH-2F8D1zPH-2F8D2zPH-2F8D3zPH-2F8D4zPH-2F8D5zPH-2F8D6zPH-2F8D7zPH-2F8D8
zPH-2F8D9zPH-2F8DAzPH-2F8DBzPH-2F8DCzPH-2F8DDzPH-2F8DEzPH-2F8DFzPH-2F8E0zPH-2F8E1zPH-2F8E2zPH-2F8E3
zPH-2F8E4zPH-2F8E5zPH-2F8E6zPH-2F8E7zPH-2F8E8zPH-2F8E9zPH-2F8EAzPH-2F8EBzPH-2F8ECzPH-2F8EDzPH-2F8EE
zPH-2F8EFzPH-2F8F0zPH-2F8F1zPH-2F8F2zPH-2F8F3zPH-2F8F4zPH-2F8F5zPH-2F8F6zPH-2F8F7zPH-2F8F8zPH-2F8F9
zPH-2F8FAzPH-2F8FBzPH-2F8FCzPH-2F8FDzPH-2F8FEzPH-2F8FFzPH-2F900zPH-2F901zPH-2F902zPH-2F903zPH-2F904
zPH-2F905zPH-2F906zPH-2F907zPH-2F908zPH-2F909zPH-2F90AzPH-2F90BzPH-2F90CzPH-2F90DzPH-2F90EzPH-2F90F
zPH-2F910zPH-2F911zPH-2F912zPH-2F913zPH-2F914zPH-2F915zPH-2F916zPH-2F917zPH-2F918zPH-2F919zPH-2F91A
zPH-2F91BzPH-2F91CzPH-2F91DzPH-2F91EzPH-2F91FzPH-2F920zPH-2F921zPH-2F922zPH-2F923zPH-2F924zPH-2F925
zPH-2F926zPH-2F927zPH-2F928zPH-2F929zPH-2F92AzPH-2F92BzPH-2F92CzPH-2F92DzPH-2F92EzPH-2F92FzPH-2F930
zPH-2F931zPH-2F932zPH-2F933zPH-2F934zPH-2F935zPH-2F936zPH-2F937zPH-2F938zPH-2F939zPH-2F93AzPH-2F93B
zPH-2F93CzPH-2F93DzPH-2F93EzPH-2F93FzPH-2F940zPH-2F941zPH-2F942zPH-2F943zPH-2F944zPH-2F945zPH-2F946
zPH-2F947zPH-2F948zPH-2F949zPH-2F94AzPH-2F94BzPH-2F94CzPH-2F94DzPH-2F94EzPH-2F94FzPH-2F950zPH-2F951
zPH-2F952zPH-2F953zPH-2F954zPH-2F955zPH-2F956zPH-2F957zPH-2F958zPH-2F959zPH-2F95AzPH-2F95BzPH-2F95C
zPH-2F95DzPH-2F95EzPH-2F95FzPH-2F960zPH-2F961zPH-2F962zPH-2F963zPH-2F964zPH-2F965zPH-2F966zPH-2F967
zPH-2F968zPH-2F969zPH-2F96AzPH-2F96BzPH-2F96CzPH-2F96DzPH-2F96EzPH-2F96FzPH-2F970zPH-2F971zPH-2F972
zPH-2F973zPH-2F974zPH-2F975zPH-2F976zPH-2F977zPH-2F978zPH-2F979zPH-2F97AzPH-2F97BzPH-2F97CzPH-2F97D
zPH-2F97EzPH-2F97FzPH-2F980zPH-2F981zPH-2F982zPH-2F983zPH-2F984zPH-2F985zPH-2F986zPH-2F987zPH-2F988
zPH-2F989zPH-2F98AzPH-2F98BzPH-2F98CzPH-2F98DzPH-2F98EzPH-2F98FzPH-2F990zPH-2F991zPH-2F992zPH-2F993
zPH-2F994zPH-2F995zPH-2F996zPH-2F997zPH-2F998zPH-2F999zPH-2F99AzPH-2F99BzPH-2F99CzPH-2F99DzPH-2F99E
zPH-2F99FzPH-2F9A0zPH-2F9A1zPH-2F9A2zPH-2F9A3zPH-2F9A4zPH-2F9A5zPH-2F9A6zPH-2F9A7zPH-2F9A8zPH-2F9A9
zPH-2F9AAzPH-2F9ABzPH-2F9ACzPH-2F9ADzPH-2F9AEzPH-2F9AFzPH-2F9B0zPH-2F9B1zPH-2F9B2zPH-2F9B3zPH-2F9B4
zPH-2F9B5zPH-2F9B6zPH-2F9B7zPH-2F9B8zPH-2F9B9zPH-2F9BAzPH-2F9BBzPH-2F9BCzPH-2F9BDzPH-2F9BEzPH-2F9BF
zPH-2F9C0zPH-2F9C1zPH-2F9C2zPH-2F9C3zPH-2F9C4zPH-2F9C5zPH-2F9C6zPH-2F9C7zPH-2F9C8zPH-2F9C9zPH-2F9CA
zPH-2F9CBzPH-2F9CCzPH-2F9CDzPH-2F9CEzPH-2F9CFzPH-2F9D0zPH-2F9D1zPH-2F9D2zPH-2F9D3zPH-2F9D4zPH-2F9D5
zPH-2F9D6zPH-2F9D7zPH-2F9D8zPH-2F9D9zPH-2F9DAzPH-2F9DBzPH-2F9DCzPH-2F9DDzPH-2F9DEzPH-2F9DFzPH-2F9E0
zPH-2F9E1zPH-2F9E2zPH-2F9E3zPH-2F9E4zPH-2F9E5zPH-2F9E6zPH-2F9E7zPH-2F9E8zPH-2F9E9zPH-2F9EAzPH-2F9EB
zPH-2F9ECzPH-2F9EDzPH-2F9EEzPH-2F9EFzPH-2F9F0zPH-2F9F1zPH-2F9F2zPH-2F9F3zPH-2F9F4zPH-2F9F5zPH-2F9F6
zPH-2F9F7zPH-2F9F8zPH-2F9F9zPH-2F9FAzPH-2F9FBzPH-2F9FCzPH-2F9FDzPH-2F9FEzPH-2F9FFzPH-2FA00zPH-2FA01
zPH-2FA02zPH-2FA03zPH-2FA04zPH-2FA05zPH-2FA06zPH-2FA07zPH-2FA08zPH-2FA09zPH-2FA0AzPH-2FA0BzPH-2FA0C
zPH-2FA0DzPH-2FA0EzPH-2FA0FzPH-2FA10zPH-2FA11zPH-2FA12zPH-2FA13zPH-2FA14zPH-2FA15zPH-2FA16zPH-2FA17
zPH-2FA18zPH-2FA19zPH-2FA1AzPH-2FA1BzPH-2FA1CzPH-2FA1DzPH-F900zPH-F901zPH-F902zPH-F903zPH-F904
zPH-F905zPH-F906zPH-F907zPH-F908zPH-F909zPH-F90AzPH-F90BzPH-F90CzPH-F90DzPH-F90EzPH-F90FzPH-F910
zPH-F911zPH-F912zPH-F913zPH-F914zPH-F915zPH-F916zPH-F917zPH-F918zPH-F919zPH-F91AzPH-F91BzPH-F91C
zPH-F91DzPH-F91EzPH-F91FzPH-F920zPH-F921zPH-F922zPH-F923zPH-F924zPH-F925zPH-F926zPH-F927zPH-F928
zPH-F929zPH-F92AzPH-F92BzPH-F92CzPH-F92DzPH-F92EzPH-F92FzPH-F930zPH-F931zPH-F932zPH-F933zPH-F934
zPH-F935zPH-F936zPH-F937zPH-F938zPH-F939zPH-F93AzPH-F93BzPH-F93CzPH-F93DzPH-F93EzPH-F93FzPH-F940
zPH-F941zPH-F942zPH-F943zPH-F944zPH-F945zPH-F946zPH-F947zPH-F948zPH-F949zPH-F94AzPH-F94BzPH-F94C
zPH-F94DzPH-F94EzPH-F94FzPH-F950zPH-F951zPH-F952zPH-F953zPH-F954zPH-F955zPH-F956zPH-F957zPH-F958
zPH-F959zPH-F95AzPH-F95BzPH-F95CzPH-F95DzPH-F95EzPH-F95FzPH-F960zPH-F961zPH-F962zPH-F963zPH-F964
zPH-F965zPH-F966zPH-F967zPH-F968zPH-F969zPH-F96AzPH-F96BzPH-F96CzPH-F96DzPH-F96EzPH-F96FzPH-F970
zPH-F971zPH-F972zPH-F973zPH-F974zPH-F975zPH-F976zPH-F977zPH-F978zPH-F979zPH-F97AzPH-F97BzPH-F97C
zPH-F97DzPH-F97EzPH-F97FzPH-F980zPH-F981zPH-F982zPH-F983zPH-F984zPH-F985zPH-F986zPH-F987zPH-F988
zPH-F989zPH-F98AzPH-F98BzPH-F98CzPH-F98DzPH-F98EzPH-F98FzPH-F990zPH-F991zPH-F992zPH-F993zPH-F994
zPH-F995zPH-F996zPH-F997zPH-F998zPH-F999zPH-F99AzPH-F99BzPH-F99CzPH-F99DzPH-F99EzPH-F99FzPH-F9A0
zPH-F9A1zPH-F9A2zPH-F9A3zPH-F9A4zPH-F9A5zPH-F9A6zPH-F9A7zPH-F9A8zPH-F9A9zPH-F9AAzPH-F9ABzPH-F9AC
zPH-F9ADzPH-F9AEzPH-F9AFzPH-F9B0zPH-F9B1zPH-F9B2zPH-F9B3zPH-F9B4zPH-F9B5zPH-F9B6zPH-F9B7zPH-F9B8
zPH-F9B9zPH-F9BAzPH-F9BBzPH-F9BCzPH-F9BDzPH-F9BEzPH-F9BFzPH-F9C0zPH-F9C1zPH-F9C2zPH-F9C3zPH-F9C4
zPH-F9C5zPH-F9C6zPH-F9C7zPH-F9C8zPH-F9C9zPH-F9CAzPH-F9CBzPH-F9CCzPH-F9CDzPH-F9CEzPH-F9CFzPH-F9D0
zPH-F9D1zPH-F9D2zPH-F9D3zPH-F9D4zPH-F9D5zPH-F9D6zPH-F9D7zPH-F9D8zPH-F9D9zPH-F9DAzPH-F9DBzPH-F9DC
zPH-F9DDzPH-F9DEzPH-F9DFzPH-F9E0zPH-F9E1zPH-F9E2zPH-F9E3zPH-F9E4zPH-F9E5zPH-F9E6zPH-F9E7zPH-F9E8
zPH-F9E9zPH-F9EAzPH-F9EBzPH-F9ECzPH-F9EDzPH-F9EEzPH-F9EFzPH-F9F0zPH-F9F1zPH-F9F2zPH-F9F3zPH-F9F4
zPH-F9F5zPH-F9F6zPH-F9F7zPH-F9F8zPH-F9F9zPH-F9FAzPH-F9FBzPH-F9FCzPH-F9FDzPH-F9FEzPH-F9FFzPH-FA00
zPH-FA01zPH-FA02zPH-FA03zPH-FA04zPH-FA05zPH-FA06zPH-FA07zPH-FA08zPH-FA09zPH-FA0AzPH-FA0BzPH-FA0C
zPH-FA0DzPH-FA0EzPH-FA0FzPH-FA10zPH-FA11zPH-FA12zPH-FA13zPH-FA14zPH-FA15zPH-FA16zPH-FA17zPH-FA18
zPH-FA19zPH-FA1AzPH-FA1BzPH-FA1CzPH-FA1DzPH-FA1EzPH-FA1FzPH-FA20zPH-FA21zPH-FA22zPH-FA23zPH-FA24
zPH-FA25zPH-FA26zPH-FA27zPH-FA28zPH-FA29zPH-FA2AzPH-FA2BzPH-FA2CzPH-FA2DzPH-FA2EzPH-FA2FzPH-FA30
zPH-FA31zPH-FA32zPH-FA33zPH-FA34zPH-FA35zPH-FA36zPH-FA37zPH-FA38zPH-FA39zPH-FA3AzPH-FA3BzPH-FA3C
zPH-FA3DzPH-FA3EzPH-FA3FzPH-FA40zPH-FA41zPH-FA42zPH-FA43zPH-FA44zPH-FA45zPH-FA46zPH-FA47zPH-FA48
zPH-FA49zPH-FA4AzPH-FA4BzPH-FA4CzPH-FA4DzPH-FA4EzPH-FA4FzPH-FA50zPH-FA51zPH-FA52zPH-FA53zPH-FA54
zPH-FA55zPH-FA56zPH-FA57zPH-FA58zPH-FA59zPH-FA5AzPH-FA5BzPH-FA5CzPH-FA5DzPH-FA5EzPH-FA5FzPH-FA60
zPH-FA61zPH-FA62zPH-FA63zPH-FA64zPH-FA65zPH-FA66zPH-FA67zPH-FA68zPH-FA69zPH-FA6AzPH-FA6BzPH-FA6C
zPH-FA6DzPH-FA70zPH-FA71zPH-FA72zPH-FA73zPH-FA74zPH-FA75zPH-FA76zPH-FA77zPH-FA78zPH-FA79zPH-FA7A
zPH-FA7BzPH-FA7CzPH-FA7DzPH-FA7EzPH-FA7FzPH-FA80zPH-FA81zPH-FA82zPH-FA83zPH-FA84zPH-FA85zPH-FA86
zPH-FA87zPH-FA88zPH-FA89zPH-FA8AzPH-FA8BzPH-FA8CzPH-FA8DzPH-FA8EzPH-FA8FzPH-FA90zPH-FA91zPH-FA92
zPH-FA93zPH-FA94zPH-FA95zPH-FA96zPH-FA97zPH-FA98zPH-FA99zPH-FA9AzPH-FA9BzPH-FA9CzPH-FA9DzPH-FA9E
zPH-FA9FzPH-FAA0zPH-FAA1zPH-FAA2zPH-FAA3zPH-FAA4zPH-FAA5zPH-FAA6zPH-FAA7zPH-FAA8zPH-FAA9zPH-FAAA
zPH-FAABzPH-FAACzPH-FAADzPH-FAAEzPH-FAAFzPH-FAB0zPH-FAB1zPH-FAB2zPH-FAB3zPH-FAB4zPH-FAB5zPH-FAB6
zPH-FAB7zPH-FAB8zPH-FAB9zPH-FABAzPH-FABBzPH-FABCzPH-FABDzPH-FABEzPH-FABFzPH-FAC0zPH-FAC1zPH-FAC2
zPH-FAC3zPH-FAC4zPH-FAC5zPH-FAC6zPH-FAC7zPH-FAC8zPH-FAC9zPH-FACAzPH-FACBzPH-FACCzPH-FACDzPH-FACE
zPH-FACFzPH-FAD0zPH-FAD1zPH-FAD2zPH-FAD3zPH-FAD4zPH-FAD5zPH-FAD6zPH-FAD7zPH-FAD8zPH-FAD9
eRADICAL BAMBOOnLUEnOLT OF CLOTHoNEoXnRUSH ONEsTWOmC-SIMPLIFIED BIRDzCARTzDRAGONzEATzEVENzFISHzFLY
zFROGzGATEzGOLDzHORSEzLEAFzLONGzSALTzSEEzSHELLzSILKzSPEECHzTANNED LEATHERzTOOTHzTURTLEzWINDnHOKEnITY
oVILIANnLIFFoOTHESnOWmDEATHnIVINATIONnOGmEAT ONEqTHREErWOnWEnYEmFIREnOOTmGHOSTnRASS ONEsTHREEtWO
mHANDnEADpRT ONEsTWOnORNmJ-SIMPLIFIED DRAGONzEVENzTOOTHzTURTLEnADEmKNIFE ONEsTWOmLAME FOURrONErTHREE
sWOnONG ONErTWOmMEAToSHnOONoRTARoTHERoUND ONEsTWOmNET FOURqONEqTHREErWOmOLDmPAW ONEqTWOnERSONmRAINoM
oPnEPEATmSEALoCOND ONEtTHREEuWOnHEEPnILKoMPLIFIED HALF TREE TRUNKyORNxWALKyHEATxYELLOWnMALL ONEsTWO
nNAKEoOUT ONEsTWOnPIRIT ONEtTWOnUNmTABLEnHREADnIGERnURTLEmWALK ONErTWOoTER ONEsTWOnEST ONErTWO
eSTROKE BXGlDlHmGmPnWGmXWGmZnGnTnWoGnZoPoZpGlNlPmDmGmZlQlSmGmPmTmWnGnZmZnWGnZlTmNlWGlXG
bLAMSHELL MOBILE PHONEdPPER BOARDfING HANDS SIGNdSSICAL BUILDINGcEAR SCREEN SYMBOLcINKING BEER MUGS
jGLASSESdPBOARDcOCK FACE EIGHT OCLOCKq-THIRTYmLEVEN OCLOCKr-THIRTYlFIVE OCLOCKp-THIRTYmOUR OCLOCK
p-THIRTYlNINE OCLOCKp-THIRTYlONE OCLOCKo-THIRTYlSEVEN OCLOCKq-THIRTYmIX OCLOCKo-THIRTYlTEN OCLOCK
o-THIRTYmHREE OCLOCKq-THIRTYmWELVE OCLOCKr-THIRTYnO OCLOCKo-THIRTYfWISE CLOSED CIRCLE ARROW
lONTOUR INTEGRALkDOWNWARDS AND UPWARDS OPEN CIRCLE ARROWSkGAPPED CIRCLE ARROWkINTEGRAL
kOPEN CIRCLE ARROWkRIGHT AND LEFT SEMICIRCLE ARROWSpWARDS AND LEFTWARDS OPEN CIRCLE ARROWS
zLEFTWARDS OPEN CIRCLE ARROWS WITH CIRCLED ONE OVERLAYkTOP SEMICIRCLE ARROW
lRIANGLE-HEADED OPEN CIRCLE ARROWdSE UPfD BOOKhINTERSECTION WITH SERIFShLOCK WITH KEY
hMAILBOX WITH LOWERED FLAGuRAISED FLAGhSUBSETn OR EQUAL TOjPERSETp OR EQUAL TOhUMBRELLA
iNION WITH SERIFSy AND SMASH PRODUCTdUDf WITH LIGHTNINGlRAINlSNOWlTORNADOdWN FACEbOATcCKROACH
eTAIL GLASSdONUTcFFINcINcLLISION SYMBOLdONf EQUALSgSIGNcMBINING ACUTE ACCENTw BELOWqTONE MARK
p-GRAVE-ACUTEqMACRONlLMOST EQUAL TO ABOVEz BELOWlNNUITY SYMBOLmTICLOCKWISE ARROW ABOVEyRING OVERLAY
lSTERISK ABOVEtBELOWkBINDU BELOWlREVEp BELOWp-MACRONmIDGE ABOVErBELOWkCANDRABINDUmRONp BELOWlEDILLA
lIRCUMFLEX ACCENTzNT BELOWlLOCKWISE ARROW ABOVEuRING OVERLAYlOMMA ABOVEv RIGHTqBELOWmNJOINING MACRON
zON BELOWlYRILLIC DASIA PNEUMATAtHUNDRED MILLIONS SIGNzD THOUSANDS SIGNtKAVYKAtLETTER Az BEz BIG YUS
z CHEz DEz DJERVz EFz ELz EMz ENz ERz ESz ES-TEz FITAz GHEz HAz HARD SIGNz Iz IEz IOTIFIED A
z IOTIFIED BIG YUSz IOTIFIED Ez KAz LITTLE YUSz MONOGRAPH UKz Oz OMEGAz PEz SHAz SHCHAz SOFT SIGN
z TEz TSEz Uz UKRAINIAN IEz VEz YATz YERUz YIz YUz ZEz ZHEtMILLIONS SIGNtPALATALIZATIONvYEROK
uOKRYTIEuSILI PNEUMATAtTEN MILLIONS SIGNuHOUSAND MILLIONS SIGNuITLOy LEFT HALFzRIGHT HALFtVZMET
kDELETION MARKmVANAGARI DIGIT EIGHTzT FIVEzT FOURzT NINEzT ONEzT SEVENzT SIXzT THREEzT TWOzT ZERO
vLETTER AzER KAzER NAzER PAzER RAzER UzER VIvSIGN AVAGRAHAlIAERESISt BELOWt-RINGlOT ABOVEt LEFT
uRIGHToBELOWt LEFTnTED ACUTE ACCENTrGRAVE ACCENTmUBLE ACUTE ACCENTrBREVEw BELOWrCIRCUMFLEX ABOVE
rGRAVE ACCENTrINVERTED BREVEz BREVE BELOWrLOW LINErMACRONx BELOWrOPEN MARK BELOWsVERLINE
rPARENTHESES ABOVEsLUS SIGN ABOVEzN BELOWrRIGHTWARDS ARROW BELOWtNG BELOWrTILDEw LEFT HALF
xRIGHT HALFrVERTICAL LINE ABOVEz LINE BELOWz STROKE OVERLAYqD CIRCUMFLEX ACCENTmWN TACK BELOW
oWARDS ARROWkENCLOSING CIRCLEzE BACKSLASHuDIAMONDuKEYCAPuSCREENvQUAREuUPWARD POINTING TRIANGLE
lQUALS SIGN BELOWkFERMATAlOUR DOTS ABOVEkGLAGOLITIC LETTER AZUzER BIG YUSzER BUKYzER CHRIVI
zER DJERVIzER DOBROzER FITAzER FRITUzER GLAGOLIzER HERUzER IzER INITIAL IZHEzER IOTATED BIG YUS
zER IOTATED SMALL YUSzER IZHEzER KAKOzER LJUDIJEzER MYSLITEzER NASHIzER ONUzER POKOJIzER RITSI
zER SHAzER SHTAzER SLOVOzER SMALL YUSzER TSIzER TVRIDOzER UKUzER VEDEzER YATIzER YERIzER YERU
zER YESTUzER YOzER YUzER ZEMLJAzER ZHIVETElRANTHA DIGIT FIVEzOURyONEySIXyTHREEzWOyZEROsLETTER AzKA
zNAzPAzVInPHEME JOINERnVE ACCENTw BELOWqTONE MARKp-ACUTE-GRAVEqMACRONmEEK DIALYTIKA TONOSqKORONIS
qMUSICAL PENTASEMEyTETRASEMEzRISEMEqPERISPOMENIqYPOGEGRAMMENIkHOMOTHETIC ABOVEmOK ABOVEmRNkINFINITY
mVERTED BREVEy BELOWvIDGE BELOWtDOUBLE ARCH ABOVEz ARCH BELOWlS BELOW
kKATAKANA-HIRAGANA SEMI-VOICED SOUND MARKzNA VOICED SOUND MARKmVYKA ABOVE LEFTxRIGHT
kLATIN LETTER SMALL CAPITAL GzALL CAPITAL LzALL CAPITAL MzALL CAPITAL NzALL CAPITAL RqSMALL LETTER A
zTER A WITH DIAERESISzTER AEzTER ALPHAzTER AOzTER AVzTER BzTER BETAzTER CzTER C CEDILLAzTER DzTER E
zTER ESHzTER ETHzTER FzTER FLATTENED OPEN A ABOVEzTER GzTER HzTER IzTER INSULAR DzTER INSULAR G
zTER INSULAR RzTER INSULAR TzTER KzTER LzTER L WITH DOUBLE MIDDLE TILDEzTER LONG SzTER MzTER NzTER O
zTER O WITH DIAERESISzTER O WITH LIGHT CENTRALIZATION STROKEzTER PzTER RzTER R BELOWzTER R ROTUNDA
zTER SzTER SCHWAzTER TzTER TURNED W BELOWzTER UzTER U WITH DIAERESIS
zTER U WITH LIGHT CENTRALIZATION STROKEzTER VzTER WzTER W BELOWzTER XzTER ZlEFT ANGLE ABOVEvBELOW
qRROW ABOVEvBELOWuHEAD ABOVEzBELOWpHALF RING ABOVEzBELOWrRPOON ABOVEpPARENTHESIS ABOVE LEFT
zS BELOW LEFTpRIGHT ARROW ABOVEzW BELOWpTACK BELOWoWARDS ARROW OVERLAYuHARPOON WITH BARB DOWNWARDS
lIGATURE LEFT HALFzALF BELOWtRIGHT HALFzHALF BELOWnHT CENTRALIZATION STROKE BELOW
lONG DOUBLE SOLIDUS OVERLAYpSOLIDUS OVERLAYqTROKE OVERLAYpVERTICAL LINE OVERLAYmW LINEkMACRONq BELOW
rLEFT HALFzF BELOWrRIGHT HALFzLF BELOWq-ACUTErBREVErGRAVElINUS SIGN BELOWkNOT TILDE ABOVE
lUMBER SIGN ABOVEkOGONEKq ABOVElLD PERMIC LETTER ANzER DOIzER NENOEzER SIIzER ZATAlPEN MARK BELOW
lVERLINEkPALATALIZED HOOK BELOWmRENTHESES ABOVEwBELOWwOVERLAYlLUS SIGN ABOVEuBELOW
kRETROFLEX HOOK BELOWmVERSE SOLIDUS OVERLAYrD COMMA ABOVElIGHT ARROW ABOVEwBELOWvHEAD ABOVE
z AND DOWN ARROWHEAD BELOWz AND UP ARROWHEAD BELOWz BELOWqHALF RING ABOVEz BELOWsRPOON ABOVE
qPARENTHESIS ABOVE RIGHTzIS BELOW RIGHTqTACK BELOWpWARDS HARPOON WITH BARB DOWNWARDSmNG ABOVEpBELOW
pOVERLAYkSEAGULL BELOWlHORT SOLIDUS OVERLAYrTROKE OVERLAYqVERTICAL LINE OVERLAYlNAKE BELOW
lQUARE BELOWsRACKETS ABOVElTRONG CENTRALIZATION STROKE BELOWlUSPENSION MARKkTHREE DOTS ABOVElILDE
p BELOWqLEFT HALF BELOWqOVERLAYqRIGHT HALF BELOWlRIPLE ACUTE ACCENTrDOTrUNDERDOTlURNED COMMA ABOVE
kUP TACK ABOVEsBELOWmWARDS ARROW BELOWlR ABOVElS ABOVEkVERTICAL LINE ABOVEyBELOWtTILDE
kWIDE BRIDGE ABOVEpINVERTED BRIDGE BELOWmGGLY LINE BELOWkX ABOVEmBELOWl-X BELOWkZIGZAG ABOVErBELOW
dETdMAeERCIAL ATlMINUS SIGNdPASSeLEMENTeOSITION SYMBOLeRESSIONcNFETTI BALLeOUNDED FACEeUSED FACE
dGRUENT WITH DOT ABOVEdICAL TAPERdJUNCTIONdSTRUCTION SIGNnWORKERdTAINS AS MEMBERmNORMAL SUBGROUP
zUP OR EQUAL TOjWITH LONG HORIZONTAL STROKEoOVERBARoVERTICAL BAR AT END OF HORIZONTAL STROKE
eINUOUS UNDERLINE SYMBOLeOUR INTEGRALeROL KNOBSiSEQUENCE INTRODUCERdVENIENCE STOREcOKED RICEeIEfNG
cPTIC CAPITAL LETTER AKHMIMIC KHEIxLFAwBOHAIRIC KHEIwCROSSED SHEIyYPTOGRAMMIC EIEzPTOGRAMMIC GANGIA
zPTOGRAMMIC NIzPTOGRAMMIC SHEIwDALDAxEIxIALECT-P ALEFzLECT-P HORIzLECT-P KAPAzLECT-P NIwEIEwFEIxI
wGAMMAyNGIAwHATExORIwIAUDAwKAPAxHEIyIxSIwL-SHAPED HAxAULAwMIwNIwOxLD COPTIC AINz COPTIC DJA
z COPTIC ESHz COPTIC GANGIAz COPTIC HAz COPTIC HATz COPTIC HEIz COPTIC HORIz COPTIC OOUz COPTIC SHEI
z COPTIC SHIMAz NUBIAN NGIz NUBIAN NYIz NUBIAN SHIMAz NUBIAN WAUxOUwPIxSIwROwSAMPIxHEIyIMAxIMAxOU
wTAUxHETHEwUAwVIDAwZATAiOMBINING NI ABOVErSPIRITUS ASPERz LENIShEPACT DIGIT EIGHTtFIVEuOURtNINEtONE
tSEVENuIXtTHREEuWOnNUMBER EIGHT HUNDREDzYuFIFTYwVE HUNDREDvORTYwUR HUNDREDuNINE HUNDREDyTY
uONE HUNDREDuSEVEN HUNDREDzTYvIX HUNDREDxTYuTENvHIRTYwREE HUNDREDvWENTYwO HUNDREDnTHOUSANDS MARK
hFRACTION ONE HALFiULL STOPhMORPHOLOGICAL DIVIDERhOLD NUBIAN DIRECT QUESTION MARKsFULL STOP
sINDIRECT QUESTION MARKsVERSE DIVIDERhSMALL LETTER AKHMIMIC KHEIvLFAuBOHAIRIC KHEIuCROSSED SHEI
wYPTOGRAMMIC EIEzOGRAMMIC GANGIAzOGRAMMIC NIzOGRAMMIC SHEIuDALDAvEIvIALECT-P ALEFzCT-P HORI
zCT-P KAPAzCT-P NIuEIEuFEIvIuGAMMAwNGIAuHATEvORIuIAUDAuKAPAvHEIwIvSIuL-SHAPED HAvAULAuMIuNIuO
vLD COPTIC AINzOPTIC DJAzOPTIC ESHzOPTIC GANGIAzOPTIC HAzOPTIC HATzOPTIC HEIzOPTIC HORIzOPTIC OOU
zOPTIC SHEIzOPTIC SHIMAyNUBIAN NGIzUBIAN NYIzUBIAN SHIMAzUBIAN WAUvOUuPIvSIuROuSAMPIvHEIwIMAvIMAvOU
uTAUvHETHEuUAuVIDAuZATAiYMBOL KAIpHI ROoMI ROoPI ROoSHIMA SIMApTAUROSoTAU ROdYLEFT SYMBOLeRIGHT SIGN
cRALdNISH VERSE DIVIDERdRESPONDS TOcUCH AND LAMPdNTERBOREhSINKfING ROD TENS DIGIT EIGHTyFIVEzOUR
yNINEyONEySEVENzIXyTHREEzWOnUNIT DIGIT EIGHTyFIVEzOURyNINEyONEySEVENzIXyTHREEzWOdPLE WITH HEARTcW
d FACEbRcABcEDIT CARDdSCENT MOONcICKETh BAT AND BALLcOCODILEdISSANTdSS MARKgOF JERUSALEMjLORRAINE
gPATTY WITH LEFT CROSSBARrRIGHT CROSSBARhOMMEEm WITH HALF-CIRCLE BELOWfED FLAGS
iNEGATIVE SQUARED LATIN CAPITAL LETTER PiSWORDSfING LANESdWNcUTCHdZEIRO SIGNcYING CAT FACEhFACE
dSTAL BALLbSIbUBE ROOTcCUMBERcNEIFORM NUMERIC SIGN EIGHT ASHzGHT DISHzGHT GESH2zGHT SHAR2zGHT U
zGHT U VARIANT FORMzGHT VARIANT FORM USSUzGHT VARIANT FORM USSU3yLAMITE FIFTYzAMITE FORTY
zAMITE ONE THIRDzAMITE TWO THIRDSxFIVE ASHzVE ASH TENUzVE BAN2zVE BAN2 VARIANT FORMzVE BURUzVE DISH
zVE GESH2zVE GESHUzVE SHAR2zVE SHARUzVE SIXTHS DISHzVE UzVE U VARIANT FORMyOUR ASHzUR ASH TENU
zUR BAN2zUR BAN2 VARIANT FORMzUR BURUzUR DISHzUR GESH2zUR GESHUzUR SHAR2zUR SHARUzUR U
zUR U VARIANT FORMzUR VARIANT FORM LIMMUzUR VARIANT FORM LIMMU AzUR VARIANT FORM LIMMU B
zUR VARIANT FORM LIMMU4xNIGIDAESHzGIDAMINzNE ASHzNE DISHzNE GESH2zNE SHAR2zNE UzNE U VARIANT FORM
zNE VARIANT FORM ILIMMUzNE VARIANT FORM ILIMMU AzNE VARIANT FORM ILIMMU3zNE VARIANT FORM ILIMMU4
xOLD ASSYRIAN ONE QUARTERzD ASSYRIAN ONE SIXTHyNE BAN2zE BURUzE EIGHTH ASHzE ESHE3zE GESH2zE GESHU
zE HALF GURzE QUARTER ASHzE QUARTER GURzE SHARUzE THIRD DISHzE THIRD VARIANT FORM AxSEVEN ASH
zVEN DISHzVEN GESH2zVEN SHAR2zVEN UzVEN U VARIANT FORMzVEN VARIANT FORM IMIN A
zVEN VARIANT FORM IMIN BzVEN VARIANT FORM IMIN3yHAR2 TIMES GAL PLUS DISHzAR2 TIMES GAL PLUS MIN
yIX ASHzX ASH TENUzX DISHzX GESH2zX SHAR2zX UzX U VARIANT FORMzX VARIANT FORM ASH9xTHREE ASH
zREE ASH TENUzREE BAN2zREE BURUzREE BURU VARIANT FORMzREE DISHzREE GESH2zREE GESHUzREE SHAR2
zREE SHAR2 VARIANT FORMzREE SHARUzREE SHARU VARIANT FORMzREE VARIANT FORM ESH16
zREE VARIANT FORM ESH21yWO ASHzO ASH TENUzO BAN2zO BURUzO ESHE3zO GESH2zO GESHUzO SHAR2zO SHARU
zO THIRDS DISHzO THIRDS VARIANT FORM AkPUNCTUATION SIGN DIAGONAL COLONzN DIAGONAL QUADCOLON
zN DIAGONAL TRICOLONzN OLD ASSYRIAN WORD DIVIDERzN VERTICAL COLONkSIGN Aq TIMES AxBADxGAN2 TENUxHA
xIGIxLAGAR GUNUxMUSHxSAGq2qBr GUNUsTIMES ASH2yDUN3 GUNUyGALzAN2 TENUyHAyIGI GUNUzMINyLAGAByNUN
zUN TENUySHESHzHU2yU PLUS U PLUS Ur2s TIMES AzBALAGzGAN2 TENUzME PLUS ENzSHA3zTAK4qDr TIMES ESH2qK
r TIMES ERIN2ySHITA PLUS GISHqLr TIMES ALyDIM2yGISHyHAyKAD3zIySHEyUSHrANrEPHqMARt TIMES KUGz SHEqN
r OVER ANsPLUS NAGA OPPOSING AN PLUS NAGAzGA SQUAREDsTHREE TIMESrSHEqPINqRADt TIMES KURrKABqSAL2rH
s KABA TENUtOVER ASH OVER ASHzSH OVER ASH CROSSING ASH OVER ASH OVER ASH
zSH TUG2 OVER TUG2 TUG2 OVER TUG2 PAPtZIDA TENUs2sGABpBArDs TIMES DISH TENUrG3rHAR2v TIMES AB2zES NI
zES ZArLs OVER BALsAGrRsA2qIr TIMES AyGARyIGI GUNUqUr CROSSING BUsOVER BU ABz TIMES NA2z UNrLUG
u OVER BULUGrRs2pDAr TIMES TAK4rGs KISIM5 TIMES A PLUS MASHz TIMES AMARz TIMES BALAGz TIMES BI
z TIMES GAz TIMES GA PLUS MASHz TIMES GIz TIMES GIR2z TIMES GUDz TIMES HAz TIMES IR
z TIMES IR PLUS LUz TIMES KAKz TIMES LAz TIMES LUz TIMES LU PLUS MASH2z TIMES LUMz TIMES NE
z TIMES PAP PLUS PAPz TIMES SIz TIMES TAK4z TIMES U2 PLUS GIR2z TIMES U2 PLUS MASHz TIMES USH
tTIMES KURs3rMrRsA3t4qIrBrMs TIMES IGIzSHEzU U Us2t TIMES UDrNs KASKAL U GUNU DISHrSHt PLUS SHUqU
r GUNUsOVER DUsSHESHIGrBs TIMES ESH2zSHEs2rGs TIMES ANSHEzASHzASH AT LEFTzDINzDUNzERIN2zGAzGI
zGIR2 GUNUzGISHzHAzHIzIGI GUNUzKASKALzKURzKUSHU2zKUSHU2 PLUS KASKALzLAK-020zLAMzLAM TIMES KUR
zLUH PLUS GISHzMASHzMESzMIzNIzPIzSHEzSI GUNUsUDrHrNs3t GUNUy GUNUs4rR2pEq OVER E NUN OVER NUN
rTIMES PAPq2r TIMES A PLUS HA PLUS DAyGARyKURyMIyPAPySALzHEyUqDINqGIRqLqNr CROSSING ENsOPPOSING EN
sSQUAREDsTIMES GAN2zAN2 TENUyMEqRENrIN2u XqSH2t CROSSING ESH2qZENt SHESHIG TIMES ASHzIG TIMES HI
zIG TIMES IGI GUNUzIG TIMES LAzIG TIMES LALzIG TIMES MEzIG TIMES MESzIG TIMES SUuTIMES Az A PLUS LAL
z A PLUS LAL TIMES LALz ANz BADz DUN3 GUNUz DUN3 GUNU GUNUz GUDz HAz HA GUNUz IGI GUNUz KASKAL
z KASKAL SQUAREDz KU3z LAz LAL TIMES LALz LIz LUz SHEz SUz U2z UDpGAr GUNUr2s OVER GA2
tTIMES A PLUS DA PLUS HAzA PLUS HAzA PLUS IGIzAB2 TENU PLUS TABzANzAN PLUS KAK PLUS AzASHzASH2
zASH2 PLUS GALzBADzBAHAR2zBAR PLUS RAzBURzBUR PLUS RAzDAzDIzDIM GUNUzDIM TIMES SHEzDUB
zDUG TIMES IGI GUNUzDUG TIMES KASKALzELzEL PLUS LAzENzEN TIMES GAN2 TENUzERENzGAzGAN2 TENUzGAR
zGAR PLUS DIzGAR PLUS NEzGIzGI4zGI4 PLUS AzGIR2 PLUS SUzHA PLUS AzHA PLUS LU PLUS ESH2zHAL
zHAL PLUS LAzHI PLUS LIzHUB2zIGI GUNUzISH PLUS HU PLUS ASHzKAKzKASKALzKIDzKID PLUS LALzKU3 PLUS AN
zKUSHU2 PLUS KASKALzLAzLAMzLAM TIMES KURzLUHzME PLUS ENzMIzMUSHzNEzNE PLUS E2zNE PLUS GIzNUN
zNUN OVER NUNzPAzSALzSARzSHEzSHE PLUS TURzSHIDzSHIMzSUMzTAK4zUzUDzUD PLUS DUzZIZ2rBAt CROSSING GABA
uROTATED NINETY DEGREESrDs OVER GAD GAR OVER GARrLs GAD OVER GAD GAR OVER GARsAMrMrNs2
t CROSSING GAN2uOVER GAN2uTENUrRs3rSHANqE22rSHTINw TIMES KURzMES UqIr CROSSING GIsTIMES EyUr4
s CROSSING GI4tOVER GI4rDIMrGrR2t GUNUs3t TIMES A PLUS IGIz GAN2 TENUz IGIz LU PLUS IGIz PArSALsH
t CROSSING GISHuTENUvIMES BADz GISH CROSSING GISHz TAK4qUr CROSSING GUr2s GUNUtTIMES IGI GUNUzKAK
zKAK TIMES IGI GUNUzNUNzSAL PLUS TUG2rDs OVER GUD LUGALtPLUS GISH TIMES TAK4tTIMES A PLUS KURzKURrL
rMs TIMES SHErRs7sUNtSHpHAr GUNUsTENUw GUNUrLqIr TIMES ASHzSH OVER HI TIMES ASHzSH2yBADyDISHyGADyKIN
yNUNySHEyUqUrB2t TIMES ANz HALz KASKALz LISHz UDrL2rSHpIq AqBqDIMt OVER IDIM BURzIDIM SQUAREDqGrI
s DIBtGUNUtOVER IGI SHIR OVER SHIR UD OVER UDtRIqLr TIMES GAN2 TENUr2qMr CROSSING IMsOPPOSING IM
sSQUAREDsTIMES TAK4rINqNqRqSHpKAr TIMES AzDzD PLUS KU3zNSHEzSH2zSH3yBADzALAGzARzIzUyERIN2zSH2yGAzAL
zAN2 TENUzARzAR PLUS SHA3 PLUS AzIzIR2zISHzISH CROSSING GISHzISH PLUS SARzUzUDzUR7yHI TIMES ASH2yIGI
zMyKAzAKzIzIDyLIzUzUMyMEzE PLUS DUzE PLUS GIzE PLUS TEzIzI PLUS NUNUZyNEzUNyPAzIyRUySAzARzHAzHEzHID
zHUzHULzIGzUHURyTARzUyUz U Uz2zDzMUM TIMES PAzRzR2zSHyZIr2s CROSSING KA2rBrD2s3s4s5t OVER KAD5rK
s TIMES IGI GUNUrLs CROSSING KALtTIMES BADrM2s4rP ELAMITErSKALv LAGAB TIMES U OVER LAGAB TIMES U
wOVER KASKAL LAGAB TIMES U OVER LAGAB TIMES UqESH2qIr TIMES BADyUzDrDrNrSALsHsIM5v OVER KISIM5qU
r OVER HI TIMES ASH2 KU OVER HI TIMES ASH2r3r4s VARIANT FORMr7rLs GUNUrNrRs OPPOSING KURrSHU2qWU318
pLArGABu SQUAREDvTIMES AzS A PLUS DA PLUS HAzS A PLUS GARzS A PLUS LALzS ALzS ANzS ASH ZIDA TENU
zS BADzS BIzS DARzS ENzS GAzS GARzS GIzS GUDzS GUD PLUS GUDzS HAzS HALzS HI TIMES NUNzS IGI GUNU
zS IMzS IM PLUS HAzS IM PLUS LUzS KIzS KINzS KU3zS KULzS KUL PLUS HI PLUS AzS LAGABzS LISHzS LU
zS LULzS MEzS ME PLUS ENzS MUSHzS NEzS SHE PLUS SUMzS SHITA PLUS GISH PLUS ERIN2
zS SHITA PLUS GISH TENUzS SHU2zS SHU2 PLUS SHU2zS SUMzS TAGzS TAK4zS TE PLUS A PLUS SU PLUS NAzS U
zS U PLUS AzS U PLUS U PLUS UzS U2 PLUS ASHzS UDzS USHzS ZU OVER ZUtRu GUNUz OVER LAGAR GUNU SHE
vTIMES SHEzS SHE PLUS SUMrHSHUrK-003u21v5u30u50v1u62u79 OVER LAK-079 GUNUu80v1 OVER LAK-081u92t130
u42t210v9u20v5v8u38u65v6t343v7v8u83v4u90t441v9w TIMES GUzMES IGIzMES PAP PLUS LU3
zMES PAP PLUS PAP PLUS LU3zMES U2 PLUS BAu50v7u70u83u90v2v3v5t550t608u17w TIMES ASHzMES BAD
zMES DUN3 GUNU GUNUzMES KU3zMES LAzMES TARzMES TEzMES U2zMES UDzMES URUDAu36u48w TIMES DUBzMES GA
zMES IGIzMES IGI GUNUzMES NIzMES PAP PLUS PAP PLUS LU3zMES SHESH PLUS KIzMES UDzMES URUDAt724u49rL
s TIMES LALrMs TIMES KURzKUR PLUS RUqIrLrMMU2rSHqUr TIMES BADr2s CROSSING LU2tGUNU TIMES ASH
tOPPOSING LU2tSHESHIGzG TIMES BADuQUAREDtTENUuIMES ALzBADzDISHzESH2zESH2 PLUS LALzESH2 TENU
zGAN2 TENUzHALzHI TIMES BADzIMzKAD2zKAD3zKAD3 PLUS ASHzKIzLA PLUS ASHzLAGABzME PLUS ENzNEzNUzPAP
zPAP PLUS PAP PLUS LU3zSHUzSI PLUS ASHzSIK2 PLUS BUzTAK4zTUG2r3rGALu OPPOSING LUGALwVER LUGAL
vSHESHIGrHrLrMs OVER LUMzUM GAR OVER GARpMAr GUNUsTIMES TAK4r2rHrRrSHt2qErSsHqIr PLUS ZA7rNqU
r OVER MUrGs GUNUrNSUBrRGU2rSHt CROSSING MUSHuOVER MUSHzMUSH TIMES A PLUS NAzMUSH TIMES GA
zMUSH TIMES KAKuTIMES Az KURz ZAt3u GUNUvTIMES AzS A PLUS DIzS DIzS ZApNAr2r4rGAt INVERTED
uOPPOSING NAGAuTIMES SHU TENUtRrMs NUTILLUs2qEr SHESHIGsTIMES AyUDqIr TIMES Er2rMs TIMES GAN2 TENU
zGAR PLUS GAN2 TENUrNs9sDA2v TIMES ANzES ASHzES ASH PLUS ASHzES BALzES DIM GUNUzES GIzES GISHzES GUD
zES GULzES HIzES KESH2zES LAK-050zES MASHzES ME PLUS GAN2 TENUzES NEzES NUNzES PAP PLUS PAPzES SHE
zES SHE PLUS A ANzES SHE PLUS ASHzES SHE PLUS ASH PLUS ASHzES UzES U PLUS UzES U2 PLUS ASHzES URUDA
zES USHrSAGqUr11t OVER NU11 BUR OVER BURuROTATED NINETY DEGREESuTENUrNs CROSSING NUN
zNG NUN LAGAR OVER LAGARtLAGAR TIMES GARzTIMES MASHzTIMES SALzTIMES SAL OVER NUN LAGAR TIMES SAL
zTIMES USHtOVER NUNtTENUsUZu AB2 TIMES ASHGABzTIMES BIzTIMES DUGzTIMES GUDzTIMES IGI GUNUzTIMES KAD3
zTIMES LAzTIMES NEzTIMES SILA3zTIMES U2vKISIM5 TIMES BIzM5 TIMES BI UpPArDrNrPqESH2u ASTERISKqI
r CROSSING PIsTIMES AzByBIzUyEyIzByUz2rR2sIGu OPPOSING PIRIGvTIMES KALzS UDzS ZApRArBqIqUpSArGs GUNU
x TIMES HAtNUTILLUtOVER SAGtTIMES AzDUzDUBzENzHAzIGI GUNUzKAKzKURzLUMzMIzNUNzSALzSHE AT LEFTzSHID
zTABzTAK4zU2zUBzUMzURzUSHrLs LAGAB TIMES ASH2rNGA2rRqHAs3t TIMES Az BADz GISHz NEz SHU2z TURz U
z U PLUS As6t TENUsB6sR2rEs HUtOVER SHEzHE GAD OVER GAD GAR OVER GARzHE TAB OVER TAB GAR OVER GAR
tPLUS HUB2yNAM2ySARsG9sNsSHu2uLAMrIDt TIMES Az IMsMt TIMES Az BALz BULUGz DINz GARz IGIz IGI GUNU
z KUSHU2z LULz MUGz SALsNIGsRt OVER SHIR BUR OVER BURuTENUsTArUs OVER INVERTED SHUs2
t PLUS DUG TIMES NIzE2 TIMES ANsBURqIr GUNUsTIMES TAK4rGs4t OVER SIG4 SHU2rK2rLA3qUr OVER SUrDs2rHUR
rMsASHrRs9pTAr ASTERISKsGUNUsTIMES HIyMIrBs OVER TAB NI OVER NI DISH OVER DISHtSQUAREDrGs TIMES BI
zGUDzSHEzSHUzTUG2zUDrK4t PLUS SAGrRqEr GUNUqIr TENUr2rLrRs OVER TIRzIR GAD OVER GAD GAR OVER GAR
tTIMES TAK4qUrG2rKrMs TIMES GAN2 TENUzTHREE DISHrRs OVER TUR ZA OVER ZApUq GUD
rOVER U PA OVER PA GAR OVER GARySUR OVER SURyU REVERSED OVER U REVERSEDrUs Uq2qBqDr GUNUsKUSHU2
sSHESHIGz TIMES BADsTIMES BADyMIyU PLUS U PLUS Uz PLUS U PLUS U GUNUrUGqMr TIMES LAGAByMEzE PLUS DA
ySHA3yUrBINrUMt TIMES KASKALz PAqNr GUNUqRr CROSSING URsSHESHIGr2s INVERTEDtTIMES A PLUS HA
zA PLUS NAzALzHAzNUNzU2zU2 PLUS ASHzU2 PLUS BIzUDr4rIs3rUs TIMES AzASHGABzBARzDARA3zDUNzGAzGAL
zGAN2 TENUzGARzGUzHAzIGIzIMzISHzKIzLAK-668zLU3zLUMzMINzPAzSHEzSIG4zTUzU PLUS GUDzUDzURUDAsDA
u TIMES UqSHs TIMES AzKUzKURzTAK4s2sUMXsXqTUKIqZ3s TIMES KASKALrUpZAr SQUARED TIMES KURsTENUr7rGrMX
qE2qIr OVER ZIr3rBs KABA TENUrGrZ2qUr OVER ZU PLUS SARr5s TIMES AzTHREE DISH TENUrBURrM
cP ON BLACK SQUAREeWITH STRAWdCAKEdIDOcRLING STONEeY BRACKET EXTENSIONgLOGICAL ANDoORiOP
dRENCY EXCHANGEjSIGNeY AND RICEdVED STEM PARAGRAPH SIGN ORNAMENTcSTARDeOMScT OF MEATbYCLONE
cLINDRICITYcPRIOT SYLLABLE ArErIrJAsOrKAsEsIsOsUrLAsEsIsOsUrMAsEsIsOsUrNAsEsIsOsUrOrPAsEsIsOsUrRAsE
sIsOsUrSAsEsIsOsUrTAsEsIsOsUrUrWAsEsIsOrXAsErZAsOeO-MINOAN SIGN CM001w2w4w5w6w7w8w9v10w1w2xBw3w5w7w9
v21w3w4w5w6w7w8w9v30w3w4w5w6w7w8w9v40w1w4w6w7w9v50w1w2w3w4w5w6w8w9v60w1w2w3w4w6w7w8w9v70w1w2w3w4w5xB
w6w8w9v80w1w2w3w4w5w6w7w8w9v90w1w2w4w5w6w7w8w9u100w1w2w3w4w5w7w8w9v10w2w4u301w2
cRILLIC CAPITAL LETTER Az WITH BREVEz WITH DIAERESISzBKHASIAN CHEzBKHASIAN CHE WITH DESCENDER
zBKHASIAN DZEzBKHASIAN HAzLEUT KAyBARRED OzARRED O WITH DIAERESISzASHKIR KAzEzIG YUSzINOCULAR O
zLENDED YUSzROAD OMEGAzYELORUSSIAN-UKRAINIAN IyCCHEzHEzHE WITH DESCENDERzHE WITH DIAERESIS
zHE WITH VERTICAL STROKEzLOSED LITTLE YUSzROSSED OyDCHEzEzJEzJERVzOUBLE MONOCULAR OzOUBLE OzWEzZE
zZELOzZHEzZWEzZZEzZZHEyEz WITH DIAERESISzFzLzL WITH DESCENDERzL WITH HOOKzL WITH MIDDLE HOOK
zL WITH TAILzMzM WITH TAILzNzN WITH DESCENDERzN WITH HOOKzN WITH LEFT HOOKzN WITH MIDDLE HOOK
zN WITH TAILzRzR WITH TICKzSzS WITH DESCENDERyFITAyGHEzHE WITH DESCENDERzHE WITH MIDDLE HOOK
zHE WITH STROKEzHE WITH STROKE AND HOOKzHE WITH UPTURNzJEyHAzA WITH DESCENDERzA WITH HOOK
zA WITH STROKEzARD SIGNzWEyIz WITH DIAERESISz WITH GRAVEz WITH MACRONzEzE WITH BREVEzE WITH GRAVEzO
zOTAzOTIFIED AzOTIFIED BIG YUSzOTIFIED CLOSED LITTLE YUSzOTIFIED EzOTIFIED LITTLE YUSzOTIFIED YAT
zZHITSAzZHITSA WITH DOUBLE GRAVE ACCENTyJEyKAzA WITH DESCENDERzA WITH HOOKzA WITH STROKE
zA WITH VERTICAL STROKEzHAKASSIAN CHEzJEzOMI DEzOMI DJEzOMI DZJEzOMI LJEzOMI NJEzOMI SJEzOMI TJE
zOMI ZJEzOPPAzSIyLHAzITTLE YUSzJEyMONOCULAR OzONOGRAPH UKyNEUTRAL YERzJEyOz WITH DIAERESISzMEGA
zMEGA WITH TITLOzTyPEzE WITH DESCENDERzE WITH MIDDLE HOOKzSIyQAyREVERSED DZEzEVERSED TSEzEVERSED YU
zEVERSED ZEzHAzOUND OMEGAySCHWAzCHWA WITH DIAERESISzEMISOFT SIGNzHAzHCHAzHHAzHHA WITH DESCENDER
zHORT IzHORT I WITH TAILzHORT UzHWEzOFT DEzOFT ELzOFT EMzOFT SIGNzTRAIGHT UzTRAIGHT U WITH STROKE
yTCHEzEzE WITH DESCENDERzE WITH MIDDLE HOOKzSEzSHEzSSEzSWEzWEyUz WITH DIAERESISz WITH DOUBLE ACUTE
z WITH MACRONzKzKRAINIAN IEyVEyWEyYAzAEzATzERUzERU WITH BACK YERzERU WITH DIAERESISzIzNzUyZE
zE WITH DESCENDERzE WITH DIAERESISzEMLYAzHEzHE WITH BREVEzHE WITH DESCENDERzHE WITH DIAERESISzHWE
sIGATURE A IEz EN GHEz TE TSEjKAVYKAjLETTER MULTIOCULAR OqPALOCHKAqSMALL CAPITAL ELjPAYEROK
jSMALL LETTER Ax WITH BREVEzITH DIAERESISxBKHASIAN CHEzHASIAN CHE WITH DESCENDERzHASIAN DZE
zHASIAN HAxLEUT KAwBARRED OzRED O WITH DIAERESISySHKIR KAxExIG YUSyNOCULAR OxLENDED YUSxROAD OMEGA
xYELORUSSIAN-UKRAINIAN IwCCHExHEz WITH DESCENDERz WITH DIAERESISz WITH VERTICAL STROKE
xLOSED LITTLE YUSxROSSED OwDCHExExJEzRVxOUBLE MONOCULAR OzBLE OxWExZEzLOyHEyWEyZEzHEwE
x WITH DIAERESISxFxLy WITH DESCENDERzWITH HOOKzWITH MIDDLE HOOKzWITH TAILxMy WITH TAILxN
y WITH DESCENDERzWITH HOOKzWITH LEFT HOOKzWITH MIDDLE HOOKzWITH TAILxRy WITH TICKxSy WITH DESCENDER
wFITAwGHEz WITH DESCENDERz WITH MIDDLE HOOKz WITH STROKEz WITH STROKE AND HOOKz WITH UPTURNxJEwHA
y WITH DESCENDERzWITH HOOKzWITH STROKEyRD SIGNxWEwIx WITH DIAERESISzITH GRAVEzITH MACRONxE
y WITH BREVEzWITH GRAVExOyTAzIFIED AzIFIED BIG YUSzIFIED CLOSED LITTLE YUSzIFIED EzIFIED LITTLE YUS
zIFIED YATxZHITSAzITSA WITH DOUBLE GRAVE ACCENTwJEwKAy WITH DESCENDERzWITH HOOKzWITH STROKE
zWITH VERTICAL STROKExHAKASSIAN CHExJExOMI DEzI DJEzI DZJEzI LJEzI NJEzI SJEzI TJEzI ZJEyPPAxSIwLHA
xITTLE YUSxJExONG-LEGGED DEwMONOCULAR OzOGRAPH UKwNARROW OxEUTRAL YERxJEwOx WITH DIAERESISxMEGA
zGA WITH TITLOxTwPALOCHKAxEy WITH DESCENDERzWITH MIDDLE HOOKxSIwQAwREVERSED DZEzERSED TSEzERSED YU
zERSED ZExHAxOUND OMEGAzNDED VEwSCHWAzWA WITH DIAERESISxEMISOFT SIGNxHAyCHAyHAzA WITH DESCENDER
yORT IzRT I WITH TAILzRT UyWExOFT DEzT ELzT EMzT SIGNxTRAIGHT UzAIGHT U WITH STROKEwTALL HARD SIGN
zL TEzL YATxCHExEy WITH DESCENDERzWITH MIDDLE HOOKxHREE-LEGGED TExSEyHEySEyWExWEwUx WITH DIAERESIS
zITH DOUBLE ACUTEzITH MACRONxKyRAINIAN IExNBLENDED UKwVEwWExIDE ESwYAyEyTxERUzU WITH BACK YER
zU WITH DIAERESISxIxNxUwZEy WITH DESCENDERzWITH DIAERESISyMLYAxHEz WITH BREVEz WITH DESCENDER
z WITH DIAERESISyWEqIGATURE A IEyEN GHEyTE TSEjTHOUSANDS SIGNaDAGGERg KNIFEhWITH LEFT GUARD
mRIGHT GUARDcLET SYMBOLcNCERdGOcRK SHADEgUNGLASSEScSH SYMBOLfWITH LEFT UPTURNeED LOW LINEhOVERLINE
hTRIANGLE-HEADED RIGHTWARDS ARROWcTA LINK ESCAPEbC1c2c3c4cSbEAF PERSONcCIDUOUS TREE
eMAL EXPONENT SYMBOLiSEPARATOR KEY SYMBOLdREASE FONT SIZE SYMBOLcERcGREE CELSIUShFAHRENHEIThSIGNcL
dETEdIVERY TRUCKdTA EQUAL TOcNTISTRY SYMBOL LIGHT DOWN AND HORIZONTALzWN AND HORIZONTAL WITH CIRCLE
zWN AND HORIZONTAL WITH TRIANGLEzWN AND HORIZONTAL WITH WAVExUP AND HORIZONTAL
z AND HORIZONTAL WITH CIRCLEz AND HORIZONTAL WITH TRIANGLEz AND HORIZONTAL WITH WAVE
xVERTICAL AND BOTTOM LEFTzRTICAL AND BOTTOM RIGHTzRTICAL AND TOP LEFTzRTICAL AND TOP RIGHT
zRTICAL AND WAVEzRTICAL WITH CIRCLEzRTICAL WITH TRIANGLEcPARTMENT STOREcRELICT HOUSE BUILDING
cSCENDING NODEdERET CAPITAL LETTER AYxBEExCHEExDEExEFyLyMyNzGyRySzHyTHyWxGAYxHxJEExKAYxLONG AzNG AH
zNG EzNG IzNG OzNG OOxOIyWxPEExSHORT AzORT AHzORT EzORT IzORT OzORT OOxTEEyHEExVEExWUxYEExZEEyHEE
iSMALL LETTER AYvBEEvCHEEvDEEvEFwLwMwNxGwRwSxHwTHwWvGAYvHvJEEvKAYvLONG Az AHz Ez Iz Oz OOvOIwWvPEE
vSHORT AzT AHzT EzT IzT OzT OOvTEEwHEEvVEEvWUvYEEvZEEwHEEfTg ISLANDdKTOP COMPUTERiWINDOW
cVANAGARI ABBREVIATION SIGNmCUTE ACCENTlCARETlDANDAmIGIT EIGHTrFIVEsOURrNINErONErSEVENsIXrTHREEsWO
rZEROmOUBLE DANDAlGAP FILLERmRAVE ACCENTlHEADSTROKElJAIN OMlLETTER AtAtItUtWtYsBAtBAtHAsCAuNDRA AzE
zOtHAsDAtDAuDAvHAuHAtHAsEsFAsGAtGAtHAuHAtLOTTAL STOPsHAtEAVY YAsItIsJAtHAtJAsKAtHAuHAsLAtLAuLAsMA
uRWARI DDAsNAtGAtNAuNAtYAsOtEtOEsPAtHAsQAsRAtHAtRAsSAtHAuORT AyEyOtSAsTAtHAtTAuHAsUtEtUuEsVA
tOCALIC Lz LLz Rz RRsYAtYAsZAtHAlOMlSIGN ANUSVARArVAGRAHAqCANDRABINDUzDU AVAGRAHAzDU THREEzDU TWO
zDU VIRAMAqDOUBLE CANDRABINDU VIRAMAqHIGH SPACING DOTqINVERTED CANDRABINDUqNUKTAqPUSHPIKAqSIDDHAM
rPACING CANDRABINDUqVIRAMAsSARGAmTRESS SIGN ANUDATTAxUDATTAlVOWEL SIGN AAxIxUxWxYwCANDRA E
zDRA LONG EzDRA OwEwIxIwOxExOEwPRISHTHAMATRA EwSHORT EzRT OwUxExUyEwVOCALIC LzALIC LLzALIC RzALIC RR
dICE CONTROL FOURpONEpSTRINGpTHREEqWObIAERESISdMETER SIGNeOND OPERATORiSHAPE WITH A DOT INSIDE
iTARGETiWITH BOTTOM HALF BLACKnLEFT HALF BLACKnRIGHT HALF BLACKnTOP HALF BLACKcE FACE-1j2j3j4j5j6
dSEL LOCOMOTIVEcFFERENCE BETWEENcGIT EIGHTl COMMAmFULL STOPgFIVEk COMMAlFULL STOPhOURk COMMA
lFULL STOPgNINEk COMMAlFULL STOPgONEj COMMAkFULL STOPgSEVENl COMMAmFULL STOPhIXj COMMAkFULL STOP
gTHREEl COMMAmFULL STOPhWOj COMMAkFULL STOPgZEROk COMMAlFULL STOPdRAM FOR EARTHqLY HEAVENuUMAN
lGREATER YANGuINlHEAVENLY EARTHmUMAN EARTHlLESSER YANGtINcMENSION ORIGIN
cNGBAT CIRCLED SANS-SERIF DIGIT EIGHTzF DIGIT FIVEzF DIGIT FOURzF DIGIT NINEzF DIGIT ONE
zF DIGIT SEVENzF DIGIT SIXzF DIGIT THREEzF DIGIT TWOzF DIGIT ZEROzF NUMBER TEN
iNEGATIVE CIRCLED DIGIT EIGHTzDIGIT FIVEzDIGIT FOURzDIGIT NINEzDIGIT ONEzDIGIT SEVENzDIGIT SIX
zDIGIT THREEzDIGIT TWOzNUMBER TENzSANS-SERIF DIGIT EIGHTzSANS-SERIF DIGIT FIVEzSANS-SERIF DIGIT FOUR
zSANS-SERIF DIGIT NINEzSANS-SERIF DIGIT ONEzSANS-SERIF DIGIT SEVENzSANS-SERIF DIGIT SIX
zSANS-SERIF DIGIT THREEzSANS-SERIF DIGIT TWOzSANS-SERIF DIGIT ZEROzSANS-SERIF NUMBER TEN
cRECT CURRENT SYMBOL FORM TWOhHITcSABLED CARePPOINTED BUT RELIEVED FACEnFACE
dCONTINUOUS UNDERLINE SYMBOLdGUISED FACEcTTO MARKcVES AKURU DIGIT EIGHTsFIVEtOURsNINEsONEsSEVENtIX
sTHREEtWOsZEROnOUBLE DANDAmEND OF TEXT MARKmGAP FILLERmINITIAL RAmLETTER AuAtBAuHAtCAuHAtDAuDAvHAuHA
tEtGAuHAtHAtIuItJAtKAuHAtLAuLAtMAtNAuGAuNAuYAtOtPAuHAtRAtSAuHAuSAtTAuHAuTAtUuUtVAtYAuYAtZAmMEDIAL RA
tYAmPREFIXED NASAL SIGNmSIGN ANUSVARArCANDRABINDUrHALANTArNUKTAmVIRAMAnOWEL SIGN AAyIxExIyIxOxUyU
dIDESeNG MASKeSION SIGNkLASHjTIMESdORCE SYMBOLcYA LAMPcZZY FACEgSYMBOLbLEbNA DOUBLE HELIX
bO NOT LITTER SYMBOLcCUMENTi WITH PICTUREoTEXTs AND PICTUREcDOcES NOT CONTAIN AS MEMBER
uNORMAL SUBGROUPzL SUBGROUP OR EQUALjDIVIDEp WITH REVERSED NEGATION SLASHjFORCEjPRECEDEq OR EQUAL
lOVEjSUCCEEDq OR EQUALcGd FACEdRA ABBREVIATION SIGNgLETTER AoAoIoUnBAoHAnCAoHAnDAoDApHAoHAnEnGAoHA
nHAnIoInJAoHAnKAoHAnLAnMAnNAoGAoNAoYAnOnPAoHAnRAoRAnSAoHAoSAnTAoHAoTApHAnUoUnVAnYAgSIGN ANUSVARA
lNUKTAlVIRAMAnSARGAgVOWEL SIGN AAsIsUrErIsIrOrUsUrVOCALIC RzRRcLLAR SIGNdPHIN
cMINO TILE HORIZONTAL BACKw-00-00z-01z-02z-03z-04z-05z-06y1-00z-01z-02z-03z-04z-05z-06y2-00z-01z-02
z-03z-04z-05z-06y3-00z-01z-02z-03z-04z-05z-06y4-00z-01z-02z-03z-04z-05z-06y5-00z-01z-02z-03z-04z-05
z-06y6-00z-01z-02z-03z-04z-05z-06mVERTICAL BACKu-00-00z1z2z3z4z5z6w1-00z1z2z3z4z5z6w2-00z1z2z3z4z5z6
w3-00z1z2z3z4z5z6w4-00z1z2z3z4z5z6w5-00z1z2z3z4z5z6w6-00z1z2z3z4z5z6cNG SIGNcORcT ABOVEeMINUS
eOPERATORePLUSdTED CIRCLEiROSShFENCEhLINE FACEhOBELOShRIGHT-POINTING ANGLEhSOLIDUSiQUARE
hTRANSPOSITION MARKERcUBLE ACUTE ACCENThCIRCLED DIGIT EIGHTvFIVEwOURvNINEvONEvSEVENwIXvTHREEwWO
pNUMBER TENiOLON EQUALiURLY LOOPhDAGGERiOWN TACKhEXCLAMATION MARKhHIGH-REVERSED-9 QUOTATION MARK
iYPHENhINTEGRALlRSECTIONhLEFT ARC GREATER-THAN BRACKETiOGICAL ANDpORjW LINEk-9 QUOTATION MARK
lREVERSED-9 QUOTATION MARKhNESTED GREATER-THANoLESS-THANx WITH UNDERBARhOBLIQUE HYPHENhPLUSiRECEDES
jIMEm QUOTATION MARKhQUESTION MARKhRIGHT ARC LESS-THAN BRACKEThSOLIDUS OPERATORiQUARE INTERSECTION
oUNIONiTACKED COMMAjROKE NOT SIGNiUBSETjCCEEDSjPERSETjSPENSION MARKhUNIONiP TACKhVERTICAL BAR
t DOUBLE LEFT TURNSTILEzE RIGHT TURNSTILEuLEFT TURNSTILEqLINEhWAVY OVERLINEg-ENDED MULTIMAP
hLINE EQUAL TO OR GREATER-THANyLESS-THANmSLANTED EQUAL TO OR GREATER-THANz TO OR LESS-THAN
uGREATER-THAN OR EQUAL TOuLESS-THAN OR EQUAL TOhSTRUCK CAPITAL CwGAMMAwHwNwPxIwQwRwZ
oITALIC CAPITAL DvSMALL DzL EzL IzL JoN-ARY SUMMATIONoSMALL GAMMAuPIgD FEMALE SIGNiMALE SIGNiSYMBOL
dGHNUTcVE OF PEACEcWN ARROWHEADfFISH TAILfRIGHT DIAGONAL ELLIPSISfTACKj WITH CIRCLE BELOW
e-POINTING RED TRIANGLEoSMALL RED TRIANGLEoTRIANGLE WITH LEFT HALF BLACKzTH RIGHT HALF BLACK
eWARD FACING HOOKu WITH DOTqNOTCHED HOOKzOOK WITH DOTiS ANCORAlRROWp AND RIGHT ONE EIGHTH BLOCK
qFROM BARqLEFTWARDS OF UPWARDS ARROWqTO BARqWITH CORNER LEFTWARDSvDOUBLE STROKE
vEQUILATERAL ARROWHEADvHORIZONTAL STROKEvLARGE TRIANGLE ARROWHEADvMEDIUM TRIANGLE ARROWHEAD
vNOTCHED TAILvSMALL EQUILATERAL ARROWHEADzL TRIANGLE ARROWHEADvTIP LEFTWARDSzRIGHTWARDSkBLACK ARROW
qCIRCLED WHITE ARROWkCOMPRESSED ARROWkDASHED ARROWlOUBLE ARROWkFINGER-POST ARROW
kHARPOON WITH BARB LEFT BESIDE DOWNWARDS HARPOON WITH BARB RIGHT
zRB LEFT BESIDE UPWARDS HARPOON WITH BARB RIGHTzRB LEFT FROM BARzRB LEFT TO BARzRB LEFTWARDS
zRB RIGHT FROM BARzRB RIGHT TO BARzRB RIGHTWARDSlEAVY ARROWqCOMPRESSED ARROWkPAIRED ARROWS
kQUADRUPLE ARROWkROCKETkSANS-SERIF ARROWlQUARED ARROWkTRIANGLE ARROWHEADs-HEADED ARROW
z ARROW LEFTWARDS OF UPWARDS TRIANGLE-HEADED ARROWz ARROW TO BARz ARROW WITH BOLD SHAFT
z ARROW WITH DOUBLE HORIZONTAL STROKEz ARROW WITH HEAVY SHAFTz ARROW WITH LONG TIP LEFTWARDS
z ARROW WITH LONG TIP RIGHTWARDSz ARROW WITH MEDIUM SHAFTz ARROW WITH NARROW SHAFT
z ARROW WITH VERY HEAVY SHAFTz DASHED ARROWz PAIRED ARROWSz ZIGZAG ARROWnPLE ARROWlWO HEADED ARROW
n-HEADED ARROW WITH TRIANGLE ARROWHEADSkWHITE ARROWv WITHIN TRIANGLE ARROWHEADkZIGZAG ARROW
bRACHMA SIGNdFTING POINT RIGHTWARDS ARROWdGONg FACEcESScIVE SLOW SIGNcOMEDARY CAMELdOLING FACE
dP OF BLOODeLETcUM WITH DRUMSTICKSbUCKcMPLINGcPLOYAN AFFIX ATTACHED E HOOKyI HOOK
yLEFT-TO-RIGHT SECANTySECANTyTAILzANGENTzANGENT HOOKpHIGH ACUTEuCIRCLEuDOTuGRAVEuLINEvONG GRAVE
uTIGHT ACUTEuVERTICALzCAL SECANTuWAVEpLEFT HORIZONTAL SECANTqOW ACUTEuRROWtCIRCLEtDOTtGRAVEtLINE
uONG GRAVEtTIGHT ACUTEtVERTICALzAL SECANTtWAVEpMID HORIZONTAL SECANTtVERTICAL SECANT
pRIGHT HORIZONTAL SECANTjDOUBLE MARKjLETTER ArOUqBqDr SrHqErErUqFr NqGr R SqHrLqIrEqJr Mt SsNt SsS
t WITH DOTsWITH DOTzTS INSIDE AND ABOVEqKr MsR SrKqLrHrONG IvUqMr Nt SsSsWITH DOTqNr Mt SsSsWITH DOT
rASAL AwIwOwUqOrArOHrUrWqPr NrERNIN AMyNqRr SrHrOMANIAN IzUqSr Jt SsKt RsMsNsPt RsSsTt RsWITH DOT
zT BELOWrHORT IrLOAN ANwDHwEExHxNwJwONxWwUqTr R SsSrHqUr NrHrIqVrOCALIC MqWr RrArEIrHrIrOsWqXrWqYE
jPUNCTUATION CHINOOK FULL STOPjSIGN O WITH CROSSjTHICK LETTER SELECTORbVDaE-MAIL SYMBOLbAGLEcR
d OF MAIZEhRICEeWITH HEARING AIDdTHf GLOBE AMERICASnSIA-AUSTRALIAmEUROPE-AFRICAhROUND
cST SYRIAC CROSSbDITORIAL CORONISbGGcYPTIAN HIEROGLYPH A001x2x3x4x5yAx6yAyBx7x8x9w10x1x2x3x4yAx5x6x7
yAx8x9w20x1x2x3x4x5x6x7x8x9w30x1x2yAx3x4x5x6x7x8x9w40yAx1x2yAx3yAx4x5yAx6x7x8x9w50x1x2x3x4x5x6x7x8x9
w60x1x2x3x4x5x6x7x8x9w70vA001y2y3y4y5y6y7zAzBy8y9x10y1y2y3y4y5y6y7y8y9x20y1y2y3y4y5y6y7y8y9x30y1y2
uB001x2x3x4x5yAx6x7x8x9vEGIN SEGMENTuC001x2yAyByCx3x4x5x6x7x8x9w10yAx1x2x3x4x5x6x7x8x9w20x1x2x3x4
uD001x2x3x4x5x6x7x8yAx9w10x1x2x3x4x5x6x7x8x9w20x1x2x3x4x5x6x7yAx8x9w30x1yAx2x3x4yAx5x6x7x8x9w40x1x2
x3x4x5x6yAx7x8yAx9w50yAyByCyDyEyFyGyHyIx1x2yAx3x4yAx5x6x7x8x9w60x1x2x3x4x5x6x7yAyByCyDyEyFyGyHuE001
x2x3x4x5x6x7x8yAx9yAw10x1x2x3x4x5x6yAx7yAx8x9w20yAx1x2x3x4x5x6x7x8yAx9w30x1x2x3x4yAx6x7x8vND SEGMENT
uF001yAx2x3x4x5x6x7x8x9w10x1x2x3yAx4x5x6x7x8x9w20x1yAx2x3x4x5x6x7x8x9w30x1yAx2x3x4x5x6x7yAx8yAx9w40
x1x2x3x4x5yAx6yAx7yAx8x9w50x1yAyByCx2x3uG001x2x3x4x5x6yAx7yAyBx8x9w10x1yAx2x3x4x5x6x7x8x9w20yAx1x2x3
x4x5x6yAx7x8x9w30x1x2x3x4x5x6yAx7yAx8x9w40x1x2x3yAx4x5yAx6x7x8x9w50x1x2x3x4uH001x2x3x4x5x6yAx7x8
vORIZONTAL JOINERuI001x2x3x4x5yAx6x7x8x9yAw10yAx1yAx2x3x4x5vNSERT AT BOTTOM ENDzT AT BOTTOM START
zT AT TOP ENDzT AT TOP STARTuK001x2x3x4x5x6x7x8uL001x2yAx3x4x5x6yAx7x8uM001yAyBx2x3yAx4x5x6x7x8x9w10
yAx1x2yAyByCyDyEyFyGyHx3x4x5yAx6yAx7yAx8x9w20x1x2yAx3x4yAx5x6x7x8yAx9w30x1yAx2x3yAyBx4x5x6x7x8x9w40
yAx1x2x3x4uN001x2x3x4x5x6x7x8x9w10x1x2x3x4x5x6x7x8yAyBx9w20x1x2x3x4x5yAx6x7x8x9w30x1x2x3yAx4yAx5yAx6
x7yAx8x9w40x1x2vL001y2y3y4y5zAy6y7y8y9x10y1y2y3y4y5y6y7zAy8y9x20vU001y2y3y4y5y6y7y8y9x10zAy1zAy2y3y4
y5y6y7y8zAy9x20y1y2zAuO001yAx2x3x4x5yAx6yAyByCyDyEyFx7x8x9w10yAyByCx1x2x3x4x5x6x7x8x9yAw20yAx1x2x3x4
yAx5yAx6x7x8x9yAw30yAx1x2x3yAx4x5x6yAyByCyDx7x8x9w40x1x2x3x4x5x6x7x8x9w50yAyBx1vVERLAY MIDDLEuP001yA
x2x3yAx4x5x6x7x8x9w10x1uQ001x2x3x4x5x6x7uR001x2yAx3yAyBx4x5x6x7x8x9w10yAx1x2x3x4x5x6yAx7x8x9w20x1x2
x3x4x5x6x7x8x9uS001x2yAx3x4x5x6yAx7x8x9w10x1x2x3x4yAyBx5x6x7yAx8x9w20x1x2x3x4x5x6yAyBx7x8x9w30x1x2x3
x4x5yAx6x7x8x9w40x1x2x3x4x5x6uT001x2x3yAx4x5x6x7yAx8yAx9yAw10x1yAx2x3x4x5x6yAx7x8x9w20x1x2x3x4x5x6x7
x8x9w30x1x2yAx3yAx4x5x6uU001x2x3x4x5x6yAyBx7x8x9w10x1x2x3x4x5x6x7x8x9w20x1x2x3yAx4x5x6x7x8x9yAw30x1
x2yAx3x4x5x6x7x8x9w40x1x2uV001yAyByCyDyEyFyGyHyIx2yAx3x4x5x6x7yAyBx8x9w10x1yAyByCx2yAyBx3x4x5x6x7x8
x9w20yAyByCyDyEyFyGyHyIyJyKyLx1x2x3yAx4x5x6x7x8yAx9yAw30yAx1yAx2x3yAx4x5x6x7yAx8x9w40yA
vERTICAL JOINERuW001x2x3yAx4x5x6x7x8x9yAw10yAx1x2x3x4yAx5x6x7yAx8yAx9w20x1x2x3x4yAx5uX001x2x3x4yAyB
x5x6yAx7x8yAuY001yAx2x3x4x5x6x7x8uZ001x2yAyByCyDx3yAyBx4yAx5yAx6x7x8x9w10x1x2x3x4x5yAyByCyDyEyFyGyH
yIx6yAyByCyDyEyFyGyHbIGHT PETALLED OUTLINED BLACK FLORETTEhOINTED BLACK STARoPINWHEEL STAR
oRECTILINEAR BLACK STARgSPOKED ASTERISKgTEARDROP-SPOKED PROPELLER ASTERISKfH NOTEbJECT SYMBOL
bLBASAN LETTER ApBEpCEqHEpDEqHEpEqIpFEpGEqHAMMArEqJEpHEpIpJEpKEqHEpLEqLEpMEpNAqDEqEqJEpOpPEpQEpREqRE
pSEqHEpTEqHEpUpVEpXEpYpZEqHEcECTRIC ARROWjLIGHT BULBjPLUGjTORCHiAL INTERSECTIONdMENT OF
k OPENING DOWNWARDStUPWARDSlWITH DOT ABOVEqLONG HORIZONTAL STROKEqOVERBARqTWO HORIZONTAL STROKES
qUNDERBARqVERTICAL BAR AT END OF HORIZONTAL STROKEdPHANTdVATORcFcYMAIC LETTER ALEPHqYINpBETHpDALETH
pGIMELpHErTHpKAPHpLAMEDHpMEMpNUNpPEpQOPHpRESHpSADHErMEKHqHINpTAWqETHpWAWpYODHpZAYIN
jIGATURE ZAYIN-YODHbM DASHdQUADdSPACEcOJI COMPONENT BALDqCURLY HAIRqRED HAIRqWHITE HAIR
gMODIFIER FITZPATRICK TYPE-1-2zK TYPE-3zK TYPE-4zK TYPE-5zK TYPE-6cPHASIS SYMBOLdTY DOCUMENTgNEST
hOTEk PADnGEgPAGEkSgSETj WITH LEFT ARROW ABOVEpOVERBARpRIGHT ARROW ABOVEpSMALL CIRCLE ABOVEbN DASH
dQUADdSPACEcD OF GUARDED AREAhLINEhMEDIUMhPROOFkTECTED AREAhSELECTED AREAhTEXTiRANSMISSIONt BLOCK
eWITH LEFTWARDS ARROW ABOVEcQdUIRYcTER SYMBOLcVELOPEi WITH DOWNWARDS ARROW ABOVEoLIGHTNINGbOLcMcTbPA
bQUAL AND PARALLEL TOgTO BY DEFINITIONjOR GREATER-THANmLESS-THANmPRECEDESmSUCCEEDSfS COLONhSIGN
l ABOVE LEFTWARDS ARROWsPLUS SIGNsRIGHTWARDS ARROWsTILDE OPERATORnND SLANTED PARALLEL
zARALLEL WITH TILDE ABOVEmWITH BUMPY ABOVErDOT BELOWrINFINITY BELOW
rTWO DOTS ABOVE AND TWO DOTS BELOWhWITH ASTERISKdIANGULAR TOeVALENT TOlWITH FOUR DOTS ABOVE
bRASE TO THE LEFTnRIGHTcIS FORM ONEkTWOcROR-BARRED BLACK CIRCLEtDIAMONDtSQUAREnWHITE CIRCLEtDIAMOND
tSQUAREbSAcCdAPEcTIMATED SYMBOLiSbTBcHIOPIC COLONlMBINING GEMINATION AND VOWEL LENGTH MARKzTION MARK
tVOWEL LENGTH MARKmMAjDIGIT EIGHTpFIVEqOURpNINEpONEpSEVENqIXpTHREEqWOjFULL STOPjNUMBER EIGHTYqFIFTY
rORTYqHUNDREDqNINETYqSEVENTYrIXTYqTENt THOUSANDrHIRTYrWENTYjPARAGRAPH SEPARATORkREFACE COLON
jQUESTION MARKjSECTION MARKlMICOLONkYLLABLE BAuAtBAvAuEvEuIuOuUtEuEtItOuAtUtWAuEvEuIsCAuAtCAvAuEvE
uHAwAvEwEvHAxAwExEwIwOwUvIvOvUuIuOuUtEuEtHAvAuEvEuIuOvAuUuWAtItOuAtUtWAsDAuAtDAvAuEvEuHAAvEwEvIvOvU
uIuOvAuUuWAtEuEtItOuAtUtWAtZAAuEvEuIuOuUsFAuAtEuEtItOtUtWAuEvEuItYAsGAuAtEuEtGAvAuEvEuIuOuUuWAwAvEwE
vItItLOTTAL Az AAz Ez EEz Iz Oz OAz Uz WAtOuAtUuRAGE BWEEzBWIzFWEEzFWIzGWEzGWEEzGWIzHHWAzKWEzKWEE
zKWIzMWEEzMWIzPWEEzPWIzQWEzQWEEzQWItWAvAuEvEuItYAvAuEvEuIuOuUsHAuAtEuEtHAvAuEvEuIuOuUuWAvEwEvIuYAwA
vEwEvIvOvUtItOuAtUsJAuAtEuEtItOuAtUtWAsKAuAtEuEtItOuAtUtWAvAuEvEuItXAvAuEvEuIuOuUuWAwAvEwEvItYAvAuE
vEuIuOuUsLAuAtEuEtItOuAtUtWAsMAuAtEuEtItOuAtUtWAuEvEuItYAsNAuAtEuEtItOuAtUtWAtYAvAuEvEuIuOvAuUuWAsPA
uAtEuEtHAvAvRYNGEAL AzEAL AAzEAL EzEAL EEzEAL IzEAL OzEAL UuEvEuIuOvAuUuWAtItOuAtUtWAuEvEuIsQAuAtEuE
tHAvAuEvEuIuOuUuWAwAvEwEvItItOuAtUtWAvAuEvEuItYAvAuEvEuIuOuUsRAuAtEuEtItOuAtUtWAtYAsSAuAtE
uBATBEIT BWAzIT FWAzIT MWAzIT PWAuEtHAvAuEvEuIuOvAuUuWAtItOuAtSAvAuEvEuIuOuUtUtWAtZAvAuEvEuIuOuUuWA
sTAuAtEuEtHAvAuEvEuIuOvAuUuWAtItOuAtSAvAuEvEuIuOuUuWAtTHAAvEwEvIvOvUtUtWAtZAvAuEvEuIuOvAuUsVAuAtEuE
tItOtUtWAsWAuAtEuEtItOuAtUsXAuAtEuEtItOuAtUtWAvAuEvEuItYAvAuEvEuIuOuUsYAuAtEuEtItOuAtUsZAuAtEuEtHAvA
uEvEuIuOuUuWAtItOuAtUtWAtZAvAuEvEuIuOuUjTONAL MARK CHIRETuDERETz-HIDETvIFATuHIDETuKENATvURTuRIKRIK
uSHORT RIKRIKuYIZETjWORDSPACEcXbULER CONSTANTcRO SIGNe-CURRENCY SIGNePEAN CASTLEjPOST OFFICE
bVERGREEN TREEbXCESSdLAMATION MARKmQUESTION MARKcPRESSIONLESS FACEcTENDED ARABIC-INDIC DIGIT EIGHT
zIT FIVEzIT FOURzIT NINEzIT ONEzIT SEVENzIT SIXzIT THREEzIT TWOzIT ZEROdRATERRESTRIAL ALIEN
eEMELY HEAVY FIVE SPOKED ASTERISKqGREEK CROSSqSALTIRErIX SPOKED ASTERISKqWHITE CIRCLEwSQUAREbYE
dGLASSESdSaFACE HOLDING BACK TEARSfMASSAGEfPALMfSAVOURING DELICIOUS FOODgCREAMING IN FEAR
fTHROWING A KISSfWITH COLD SWEATmWBOY HATkDIAGONAL MOUTHkFINGER COVERING CLOSED LIPSkHEAD-BANDAGE
kLOOK OF TRIUMPHkMEDICAL MASKlONOCLEkNO GOOD GESTUREkOK GESTURElNE EYEBROW RAISED
lPEN EYES AND HAND OVER MOUTHpMOUTHu AND COLD SWEATvVOMITINGkPARTY HORN AND PARTY HATlEEKING EYE
lLEADING EYESkROLLING EYESkSTUCK-OUT TONGUEzE AND TIGHTLY-CLOSED EYESzE AND WINKING EYEkTEARS OF JOY
lHERMOMETERkUNEVEN EYES AND WAVY MOUTHjOUT MOUTHdSIMILE SIGNdTORYcIRYcLAFELdLEN LEAF
eING DIAGONAL CROSSING NORTH EAST ARROWz RISING DIAGONALrIN WHITE CIRCLE IN BLACK SQUAREcMILY
cRSI SYMBOLcTHER CHRISTMAScX ICONeMACHINEbEARFUL FACEdTHERcMALE SIGNdININE ORDINAL INDICATORcNCER
cRRIS WHEELeYbFbIELD HOCKEY STICK AND BALLcGURE DASHhSPACEcLE CABINETfFOLDERfSEPARATORdM FRAMES
fPROJECTORcNITE PART INTEGRALcREe ENGINEgXTINGUISHEReCRACKEReWORK SPARKLERiSdST PLACE MEDAL
gQUARTER MOONs SYMBOLtWITH FACEgSTRONG ISOLATEcSHe CAKE WITH SWIRL DESIGNeEYEeING POLE AND FISH
dTED HAND SIGNcVE DOT MARKjPUNCTUATIONbLAG IN HOLEdMINGOdT SHOEeBREADeNESScEUR-DE-LISdXED BICEPS
cOPPY DISKdRAL HEARTdWERg PLAYING CARDSiUNCTUATION MARKcUSHED FACEcYdING DISChENVELOPEhSAUCERbOGdGY
cLDERcNDUEcOTePRINTScR ALLdCESdK AND KNIFEo WITH PLATEeED PARAGRAPHOSeINGdM FEEDdTUNE COOKIEcUNTAIN
dR BALLOON-SPOKED ASTERISKfCLUB-SPOKED ASTERISKgORNER ARROWS CIRCLING ANTICLOCKWISEfDOT MARK
jPUNCTUATIONfLEAF CLOVERfPOINTED BLACK STARfTEARDROP-SPOKED ASTERISKe-PER-EM SPACEeTH ROOTcX FACE
bRACTION NUMERATOR ONEjSLASHdME WITH AN XlPICTURElTILEScEEZING FACEdNCH FRANC SIGNjIEScIED SHRIMP
cOG FACEdNT-FACING BABY CHICKgTILTED SHADOWED WHITE RIGHTWARDS ARROWdWNfING FACE WITH OPEN MOUTHbScI
bUEL PUMPcLL BLOCKfMOON SYMBOLkWITH FACEfOUTER JOINfSTOPeWIDTH AMPERSANDlPOSTROPHElSTERISK
kBROKEN BARkCENT SIGNlIRCUMFLEX ACCENTlOLONmMMAoERCIAL ATkDIGIT EIGHTqFIVErOURqNINEqONEqSEVENrIX
qTHREErWOqZEROlOLLAR SIGNkEQUALS SIGNlXCLAMATION MARKkFULL STOPkGRAVE ACCENTmEATER-THAN SIGN
kHYPHEN-MINUSkLATIN CAPITAL LETTER AzETTER BzETTER CzETTER DzETTER EzETTER FzETTER GzETTER HzETTER I
zETTER JzETTER KzETTER LzETTER MzETTER NzETTER OzETTER PzETTER QzETTER RzETTER SzETTER TzETTER U
zETTER VzETTER WzETTER XzETTER YzETTER ZqSMALL LETTER AzTER BzTER CzTER DzTER EzTER FzTER GzTER H
zTER IzTER JzTER KzTER LzTER MzTER NzTER OzTER PzTER QzTER RzTER SzTER TzTER UzTER VzTER WzTER X
zTER YzTER ZlEFT CURLY BRACKETpPARENTHESISpSQUARE BRACKETpWHITE PARENTHESISmSS-THAN SIGNlOW LINE
kMACRONkNOT SIGNlUMBER SIGNkPERCENT SIGNlLUS SIGNlOUND SIGNkQUESTION MARKmOTATION MARK
kREVERSE SOLIDUSlIGHT CURLY BRACKETqPARENTHESISqSQUARE BRACKETqWHITE PARENTHESISkSEMICOLONlOLIDUS
kTILDEkVERTICAL LINEkWON SIGNkYEN SIGNcNCTION APPLICATIONdERAL URNcSEbVS1d2d3d4aGAME DIEcRLICbEAR
e WITH HANDLESjOUT HUBcM STONEdINIcNIEcOMETRIC PROPORTIONjALLY EQUAL TOrIVALENT TO
dRGIAN CAPITAL LETTER AENzNyBANyCANzHARzHINzILyDONyENyGANzHANyHAEzARzEzIEzOEyINyJHANzILyKANzHARyLAS
yMANyNARyONyPARzHARyQARyRAEySANzHINyTANzARyUNyVINyWEyXANyYNyZENzHARjLETTER AENrINrNqBANqCANrHARsIN
rILqDONqELIFIrNqFIqGANrHANqHAEsRtD SIGNrErIErOEqINqJHANrILqKANrHARqLABIAL SIGNsSqMANqNARqONqPARrHAR
qQARqRAEqSANrHINqTANsRrURNED GANqUNqVINqWEqXANqYNqZENrHARjMTAVRULI CAPITAL LETTER AENz LETTER AIN
z LETTER ANz LETTER BANz LETTER CANz LETTER CHARz LETTER CHINz LETTER CILz LETTER DONz LETTER ELIFI
z LETTER ENz LETTER FIz LETTER GANz LETTER GHANz LETTER HAEz LETTER HARz LETTER HARD SIGNz LETTER HE
z LETTER HIEz LETTER HOEz LETTER INz LETTER JHANz LETTER JILz LETTER KANz LETTER KHAR
z LETTER LABIAL SIGNz LETTER LASz LETTER MANz LETTER NARz LETTER ONz LETTER PARz LETTER PHAR
z LETTER QARz LETTER RAEz LETTER SANz LETTER SHINz LETTER TANz LETTER TARz LETTER TURNED GAN
z LETTER UNz LETTER VINz LETTER WEz LETTER XANz LETTER YNz LETTER ZENz LETTER ZHAR
jPARAGRAPH SEPARATORjSMALL LETTER AENxNwBANwCANxHARyINxILwDONwENwGANxHANwHAEyRxExIExOEwINwJHANxIL
wKANxHARwLASwMANwNARwONwPARxHARwQARwRAEwSANxHINwTANyRwUNwVINwWEwXANwYNwZENxHARcRMAN PENNY SIGN
cTA MARKbHOSTbIMEL SYMBOLcRAFFE FACEdLeS SYMBOLbLAGOLITIC CAPITAL LETTER AZUz BIG YUSz BUKY
z CAUDATE CHRIVIz CHRIVIz DJERVIz DOBROz DZELOz FITAz FRITUz GLAGOLIz HERUz Iz INITIAL IZHE
z IOTATED BIG YUSz IOTATED SMALL YUSz IZHEz IZHITSAz KAKOz LATINATE MYSLITEz LJUDIJEz MYSLITEz NASHI
z ONUz OTUz PEz POKOJIz RITSIz SHAz SHTAz SHTAPICz SLOVOz SMALL YUSz SMALL YUS WITH TAILz SPIDERY HA
z TROKUTASTI Az TSIz TVRIDOz UKUz VEDEz YATIz YERIz YERUz YESTUz YOz YUz ZEMLJAz ZHIVETE
lSMALL LETTER AZUyBIG YUSzUKYyCAUDATE CHRIVIzHRIVIyDJERVIzOBROzZELOyFITAzRITUyGLAGOLIyHERUyI
zNITIAL IZHEzOTATED BIG YUSzOTATED SMALL YUSzZHEzZHITSAyKAKOyLATINATE MYSLITEzJUDIJEyMYSLITEyNASHI
yONUzTUyPEzOKOJIyRITSIySHAzHTAzHTAPICzLOVOzMALL YUSzMALL YUS WITH TAILzPIDERY HAyTROKUTASTI AzSI
zVRIDOyUKUyVEDEyYATIzERIzERUzESTUzOzUyZEMLJAzHIVETEdSS OF MILKcEICH STARKcOBE WITH MERIDIANSdVES
dWING STARbOAL NETdTcGGLEScLFERcRILLAcTHIC LETTER AHSApIHVUSoBAIRKANoDAGSoEISoFAIHUoGIBAoHAGLpWAIR
oIGGWSpUJAoJERoKUSMAoLAGUSoMANNAoNAUTHSpINE HUNDREDsTYoOTHALoPAIRTHRAoQAIRTHRAoRAIDAoSAUILoTEIWS
pHIUTHoURUSoWINJAbRADUATION CAPdNTHA AU LENGTH MARKiLETTER AqAqIqUpBAqHApCAqHApDAqDArHAqHApEEpGAqHA
pHApIqIpJAqHApKAqHApLAqLApMApNAqGAqNAqYApOOpPAqHApRApSAqHAqSApTAqHAqTArHApUqUpVAqEDIC ANUSVARA
vDOUBLE ANUSVARAqOCALIC LyLxRyRpYAiOMiSIGN ANUSVARAoVAGRAHAnCANDRABINDUoOMBINING ANUSVARA ABOVE
nNUKTAnPLUTAnVIRAMApSARGAiVOWEL SIGN AAuIuUtEEtIuItOOtUuUtVOCALIC LzC LLzC RzC RRdPESdVE ACCENT
cEATER-THAN ABOVE DOUBLE-LINE EQUAL ABOVE LESS-THANtLESS-THAN ABOVE DOUBLE-LINE EQUAL
tRIGHTWARDS ARROWtSIMILAR ABOVE LESS-THANzR OR EQUAL
uLANTED EQUAL ABOVE LESS-THAN ABOVE SLANTED EQUALoND NOT APPROXIMATErSINGLE-LINE NOT EQUAL TO
nBESIDE LESS-THANoUT NOT EQUAL TOyIVALENT TOnCLOSED BY CURVEzRVE ABOVE SLANTED EQUAL
nEQUAL TO OR LESS-THANnOR APPROXIMATEqEQUAL TOtIVALENT TOqLESS-THANqSLANTED EQUAL TO
zQUAL TO WITH DOT ABOVEzQUAL TO WITH DOT ABOVE LEFTzQUAL TO WITH DOT INSIDEoVER EQUAL TO
rLAPPING LESS-THANnSIGNnWITH CIRCLE INSIDEsDOTsQUESTION MARK ABOVEdEK ACROPHONIC ATTIC FIFTY
zFTY STATERSzFTY TALENTSzFTY THOUSANDzFTY THOUSAND STATERSzVEzVE HUNDREDzVE HUNDRED STATERS
zVE HUNDRED TALENTSzVE STATERSzVE TALENTSzVE THOUSANDzVE THOUSAND TALENTSxONE DRACHMAzE HALF
zE HUNDRED STATERSzE HUNDRED TALENTSzE QUARTERzE THOUSAND STATERSzE THOUSAND TALENTSxTEN MNAS
zN STATERSzN TALENTSzN THOUSAND STATERSrCARYSTIAN FIVE HUNDREDsYRENAIC TWO DRACHMAS
rDELPHIC FIVE MNASrEPIDAUREAN FIVE HUNDREDzAN TWOzAN TWO DRACHMASrHERAEUM ONE PLETHRONuMIONIAN FIFTY
zAN ONEzAN TENrMESSENIAN TENrNAXIAN FIVE HUNDREDrSTRATIAN FIFTY MNASrTHESPIAN FIFTYz FIVE HUNDRED
z FIVE THOUSANDz ONEz ONE HUNDREDz ONE THOUSANDz TENz THIRTYz THREE HUNDREDz TWOsROEZENIAN FIFTY
zAN FIFTY ALTERNATE FORMzAN FIVEzAN FIVE HUNDREDzAN TENzAN TEN ALTERNATE FORMhNO TELEIAhROURA SIGN
iTABE SIGNgBETA SYMBOLgCAPITAL DOTTED LUNATE SIGMA SYMBOLoKAI SYMBOLoLETTER ALPHAzA WITH DASIA
zA WITH DASIA AND OXIAzA WITH DASIA AND OXIA AND PROSGEGRAMMENIzA WITH DASIA AND PERISPOMENI
zA WITH DASIA AND PERISPOMENI AND PROSGEGRAMMENIzA WITH DASIA AND PROSGEGRAMMENI
zA WITH DASIA AND VARIAzA WITH DASIA AND VARIA AND PROSGEGRAMMENIzA WITH MACRONzA WITH OXIA
zA WITH PROSGEGRAMMENIzA WITH PSILIzA WITH PSILI AND OXIAzA WITH PSILI AND OXIA AND PROSGEGRAMMENI
zA WITH PSILI AND PERISPOMENIzA WITH PSILI AND PERISPOMENI AND PROSGEGRAMMENI
zA WITH PSILI AND PROSGEGRAMMENIzA WITH PSILI AND VARIAzA WITH PSILI AND VARIA AND PROSGEGRAMMENI
zA WITH TONOSzA WITH VARIAzA WITH VRACHYwRCHAIC SAMPIvBETAvCHIvDELTAvEPSILONzLON WITH DASIA
zLON WITH DASIA AND OXIAzLON WITH DASIA AND VARIAzLON WITH OXIAzLON WITH PSILI
zLON WITH PSILI AND OXIAzLON WITH PSILI AND VARIAzLON WITH TONOSzLON WITH VARIAwTAy WITH DASIA
zWITH DASIA AND OXIAzWITH DASIA AND OXIA AND PROSGEGRAMMENIzWITH DASIA AND PERISPOMENI
zWITH DASIA AND PERISPOMENI AND PROSGEGRAMMENIzWITH DASIA AND PROSGEGRAMMENIzWITH DASIA AND VARIA
zWITH DASIA AND VARIA AND PROSGEGRAMMENIzWITH OXIAzWITH PROSGEGRAMMENIzWITH PSILI
zWITH PSILI AND OXIAzWITH PSILI AND OXIA AND PROSGEGRAMMENIzWITH PSILI AND PERISPOMENI
zWITH PSILI AND PERISPOMENI AND PROSGEGRAMMENIzWITH PSILI AND PROSGEGRAMMENIzWITH PSILI AND VARIA
zWITH PSILI AND VARIA AND PROSGEGRAMMENIzWITH TONOSzWITH VARIAvGAMMAvHETAvIOTAz WITH DASIA
z WITH DASIA AND OXIAz WITH DASIA AND PERISPOMENIz WITH DASIA AND VARIAz WITH DIALYTIKAz WITH MACRON
z WITH OXIAz WITH PSILIz WITH PSILI AND OXIAz WITH PSILI AND PERISPOMENIz WITH PSILI AND VARIA
z WITH TONOSz WITH VARIAz WITH VRACHYvKAPPAvLAMDAvMUvNUvOMEGAzA WITH DASIAzA WITH DASIA AND OXIA
zA WITH DASIA AND OXIA AND PROSGEGRAMMENIzA WITH DASIA AND PERISPOMENI
zA WITH DASIA AND PERISPOMENI AND PROSGEGRAMMENIzA WITH DASIA AND PROSGEGRAMMENI
zA WITH DASIA AND VARIAzA WITH DASIA AND VARIA AND PROSGEGRAMMENIzA WITH OXIAzA WITH PROSGEGRAMMENI
zA WITH PSILIzA WITH PSILI AND OXIAzA WITH PSILI AND OXIA AND PROSGEGRAMMENI
zA WITH PSILI AND PERISPOMENIzA WITH PSILI AND PERISPOMENI AND PROSGEGRAMMENI
zA WITH PSILI AND PROSGEGRAMMENIzA WITH PSILI AND VARIAzA WITH PSILI AND VARIA AND PROSGEGRAMMENI
zA WITH TONOSzA WITH VARIAxICRONzRON WITH DASIAzRON WITH DASIA AND OXIAzRON WITH DASIA AND VARIA
zRON WITH OXIAzRON WITH PSILIzRON WITH PSILI AND OXIAzRON WITH PSILI AND VARIAzRON WITH TONOS
zRON WITH VARIAvPAMPHYLIAN DIGAMMAwHIwIwSIvRHOy WITH DASIAvSANwHOwIGMAvTAUwHETAvUPSILON
zLON WITH DASIAzLON WITH DASIA AND OXIAzLON WITH DASIA AND PERISPOMENIzLON WITH DASIA AND VARIA
zLON WITH DIALYTIKAzLON WITH MACRONzLON WITH OXIAzLON WITH TONOSzLON WITH VARIAzLON WITH VRACHYvXI
vYOTvZETApUNATE SIGMA SYMBOLoREVERSED DOTTED LUNATE SIGMA SYMBOLxLUNATE SIGMA SYMBOLoTHETA SYMBOL
gDASIAl AND OXIAqPERISPOMENIqVARIAhIALYTIKA AND OXIAuPERISPOMENIuVARIAqTONOShRACHMA SIGN
gFIVE OBOLS SIGNhOUR OBOLS SIGNgGRAMMA SIGNgINDICTION SIGNiSTRUMENTAL NOTATION SYMBOL-1zON SYMBOL-11
zON SYMBOL-12zON SYMBOL-13zON SYMBOL-14zON SYMBOL-17zON SYMBOL-18zON SYMBOL-19zON SYMBOL-2
zON SYMBOL-23zON SYMBOL-24zON SYMBOL-25zON SYMBOL-26zON SYMBOL-27zON SYMBOL-29zON SYMBOL-30
zON SYMBOL-32zON SYMBOL-36zON SYMBOL-37zON SYMBOL-38zON SYMBOL-39zON SYMBOL-4zON SYMBOL-40
zON SYMBOL-42zON SYMBOL-43zON SYMBOL-45zON SYMBOL-47zON SYMBOL-48zON SYMBOL-49zON SYMBOL-5
zON SYMBOL-50zON SYMBOL-51zON SYMBOL-52zON SYMBOL-53zON SYMBOL-54zON SYMBOL-7zON SYMBOL-8gKAI SYMBOL
iPPA SYMBOLhORONIShYATHOS BASE SIGNgLETTER ARCHAIC KOPPAnDIGAMMAnKOPPAnSAMPIoMALL CAPITAL GAMMA
zL LAMDAzL OMEGAzL PIzL PSIzL RHOoTIGMAnYOThITRA SIGNhOWER NUMERAL SIGNhUNATE EPSILON SYMBOL
nSIGMA SYMBOLgMETRETES SIGNhUSICAL LEIMMAgNUMERAL SIGNgOBOL SIGNhNE HALF SIGNt ALTERNATE FORM
kQUARTER SIGNhUNKIA SIGNhXIAgPERISPOMENIhHI SYMBOLhI SYMBOLhROSGEGRAMMENIhSILIl AND OXIAqPERISPOMENI
qVARIAgQUESTION MARKgREVERSED LUNATE EPSILON SYMBOLhHO SYMBOLkWITH STROKE SYMBOLgSINUSOID SIGN
hMALL DOTTED LUNATE SIGMA SYMBOLmLETTER ALPHAy WITH DASIAzWITH DASIA AND OXIA
zWITH DASIA AND OXIA AND YPOGEGRAMMENIzWITH DASIA AND PERISPOMENI
zWITH DASIA AND PERISPOMENI AND YPOGEGRAMMENIzWITH DASIA AND VARIA
zWITH DASIA AND VARIA AND YPOGEGRAMMENIzWITH DASIA AND YPOGEGRAMMENIzWITH MACRONzWITH OXIA
zWITH OXIA AND YPOGEGRAMMENIzWITH PERISPOMENIzWITH PERISPOMENI AND YPOGEGRAMMENIzWITH PSILI
zWITH PSILI AND OXIAzWITH PSILI AND OXIA AND YPOGEGRAMMENIzWITH PSILI AND PERISPOMENI
zWITH PSILI AND PERISPOMENI AND YPOGEGRAMMENIzWITH PSILI AND VARIA
zWITH PSILI AND VARIA AND YPOGEGRAMMENIzWITH PSILI AND YPOGEGRAMMENIzWITH TONOSzWITH VARIA
zWITH VARIA AND YPOGEGRAMMENIzWITH VRACHYzWITH YPOGEGRAMMENIuRCHAIC KOPPAzC SAMPItBETAtCHItDELTA
uIGAMMAtEPSILONzN WITH DASIAzN WITH DASIA AND OXIAzN WITH DASIA AND VARIAzN WITH OXIAzN WITH PSILI
zN WITH PSILI AND OXIAzN WITH PSILI AND VARIAzN WITH TONOSzN WITH VARIAuTAw WITH DASIA
zTH DASIA AND OXIAzTH DASIA AND OXIA AND YPOGEGRAMMENIzTH DASIA AND PERISPOMENI
zTH DASIA AND PERISPOMENI AND YPOGEGRAMMENIzTH DASIA AND VARIAzTH DASIA AND VARIA AND YPOGEGRAMMENI
zTH DASIA AND YPOGEGRAMMENIzTH OXIAzTH OXIA AND YPOGEGRAMMENIzTH PERISPOMENI
zTH PERISPOMENI AND YPOGEGRAMMENIzTH PSILIzTH PSILI AND OXIAzTH PSILI AND OXIA AND YPOGEGRAMMENI
zTH PSILI AND PERISPOMENIzTH PSILI AND PERISPOMENI AND YPOGEGRAMMENIzTH PSILI AND VARIA
zTH PSILI AND VARIA AND YPOGEGRAMMENIzTH PSILI AND YPOGEGRAMMENIzTH TONOSzTH VARIA
zTH VARIA AND YPOGEGRAMMENIzTH YPOGEGRAMMENItFINAL SIGMAtGAMMAtHETAtIOTAx WITH DASIA
zITH DASIA AND OXIAzITH DASIA AND PERISPOMENIzITH DASIA AND VARIAzITH DIALYTIKA
zITH DIALYTIKA AND OXIAzITH DIALYTIKA AND PERISPOMENIzITH DIALYTIKA AND TONOS
zITH DIALYTIKA AND VARIAzITH MACRONzITH OXIAzITH PERISPOMENIzITH PSILIzITH PSILI AND OXIA
zITH PSILI AND PERISPOMENIzITH PSILI AND VARIAzITH TONOSzITH VARIAzITH VRACHYtKAPPAuOPPAtLAMDAtMUtNU
tOMEGAy WITH DASIAzWITH DASIA AND OXIAzWITH DASIA AND OXIA AND YPOGEGRAMMENI
zWITH DASIA AND PERISPOMENIzWITH DASIA AND PERISPOMENI AND YPOGEGRAMMENIzWITH DASIA AND VARIA
zWITH DASIA AND VARIA AND YPOGEGRAMMENIzWITH DASIA AND YPOGEGRAMMENIzWITH OXIA
zWITH OXIA AND YPOGEGRAMMENIzWITH PERISPOMENIzWITH PERISPOMENI AND YPOGEGRAMMENIzWITH PSILI
zWITH PSILI AND OXIAzWITH PSILI AND OXIA AND YPOGEGRAMMENIzWITH PSILI AND PERISPOMENI
zWITH PSILI AND PERISPOMENI AND YPOGEGRAMMENIzWITH PSILI AND VARIA
zWITH PSILI AND VARIA AND YPOGEGRAMMENIzWITH PSILI AND YPOGEGRAMMENIzWITH TONOSzWITH VARIA
zWITH VARIA AND YPOGEGRAMMENIzWITH YPOGEGRAMMENIvICRONzN WITH DASIAzN WITH DASIA AND OXIA
zN WITH DASIA AND VARIAzN WITH OXIAzN WITH PSILIzN WITH PSILI AND OXIAzN WITH PSILI AND VARIA
zN WITH TONOSzN WITH VARIAtPAMPHYLIAN DIGAMMAuHIuIuSItRHOw WITH DASIAzTH PSILItSAMPIvNuHOuIGMAuTIGMA
tTAUuHETAtUPSILONzN WITH DASIAzN WITH DASIA AND OXIAzN WITH DASIA AND PERISPOMENI
zN WITH DASIA AND VARIAzN WITH DIALYTIKAzN WITH DIALYTIKA AND OXIAzN WITH DIALYTIKA AND PERISPOMENI
zN WITH DIALYTIKA AND TONOSzN WITH DIALYTIKA AND VARIAzN WITH MACRONzN WITH OXIAzN WITH PERISPOMENI
zN WITH PSILIzN WITH PSILI AND OXIAzN WITH PSILI AND PERISPOMENIzN WITH PSILI AND VARIAzN WITH TONOS
zN WITH VARIAzN WITH VRACHYtXItZETAmREVERSED DOTTED LUNATE SIGMA SYMBOLvLUNATE SIGMA SYMBOL
hUBSCRIPT SMALL LETTER BETAzTER CHIzTER GAMMAzTER PHIzTER RHOhYMBOL TAU RHOgTALENT SIGNhHETA SYMBOL
iREE OBOLS SIGNmQUARTERS SIGNhONOShRYBLION BASE SIGNhWO OBOLS SIGNkTHIRDS SIGN
gUPSILON WITH ACUTE AND HOOK SYMBOLtDIAERESIS AND HOOK SYMBOLtHOOK SYMBOLgVARIA
hOCAL NOTATION SYMBOL-1zOL-10zOL-11zOL-12zOL-13zOL-14zOL-15zOL-16zOL-17zOL-18zOL-19zOL-2zOL-20zOL-21
zOL-22zOL-23zOL-24zOL-3zOL-4zOL-5zOL-50zOL-51zOL-52zOL-53zOL-54zOL-6zOL-7zOL-8zOL-9gXESTES SIGN
gYEAR SIGNhPOGEGRAMMENIgZERO SIGNeN APPLEgBOOKgHEARTgSALADcIMACING FACE
dNNING CAT FACE WITH SMILING EYESjFACEn WITH ONE LARGE AND ONE SMALL EYEtSMILING EYESuTAR EYES
cOUP MARKgSEPARATORdWING HEARTbSbUARANI SIGNeDSMANcIDE DOGdTARcJARATI ABBREVIATION SIGNjDIGIT EIGHT
pFIVEqOURpNINEpONEpSEVENqIXpTHREEqWOpZEROjLETTER ArArIrUqBArHAqCArHAqDArDAsHArHAqEqGArHAqHAqIrIqJA
rHAqKArHAqLArLAqMAqNArGArNArYAqOqPArHAqRAqSArHArSAqTArHArTAsHAqUrUqVArOCALIC LzLyRzRqYAqZHAjOM
jRUPEE SIGNjSIGN ANUSVARApVAGRAHAoCANDRABINDUpIRCLE NUKTA ABOVEoMADDAHoNUKTAoSHADDApUKUN
oTHREE-DOT NUKTA ABOVEpWO-CIRCLE NUKTA ABOVEoVIRAMAqSARGAjVOWEL CANDRA EwOpSIGN AAvIvUuCANDRA EzA O
uEuIvIuOuUvUuVOCALIC LzIC LLzIC RzIC RRcNJALA GONDI DIGIT EIGHTuFIVEvOURuNINEuONEuSEVENvIXuTHREEvWO
uZEROoLETTER AwAwIwUvBAwHAvCAwHAvDAwDAxHAwHAvEEvGAwHAvHAvIwIvJAwHAvKAwHAvLAwLAvMAvNAwGAvOOvPAwHAvRA
vSAvTAwHAwTAxHAvUwUvVAvYAoOMoSIGN ANUSVARAtVISARGAoVIRAMApOWEL SIGN AAzAIzAUzEEzIzIIzOOzUzUU
cRMUKHI ABBREVIATION SIGNkDDAKjDIGIT EIGHTpFIVEqOURpNINEpONEpSEVENqIXpTHREEqWOpZEROjEK ONKARjIRI
jLETTER ArArIrUqBArHAqCArHAqDArDAsHArHAqEEqFAqGArHAsHAqHAqIrIqJArHAqKArHAsHAqLArLAqMAqNArGArNArYAqOO
qPArHAqRArRAqSArHAqTArHArTAsHAqUrUqVAqYAqZAjSIGN ADAK BINDIoBINDIoNUKTAoUDAAToVIRAMAqSARGAoYAKASH
jTIPPIjURAjVOWEL SIGN AAvIvUuEEuIvIuOOuUvUaHADEScIR SPACEeCUTcLFWIDTH BLACK SQUAREkDOWNWARDS ARROW
kFORMS LIGHT VERTICALkHANGUL FILLERrLETTER AzEyCHIEUCHzIEUCyEzOzUyHIEUHyIzEUNGyKHIEUKHzIYEOK
zIYEOK-SIOSyMIEUMyNIEUNzIEUN-CIEUCzIEUN-HIEUHyOzEyPHIEUPHzIEUPzIEUP-SIOSyRIEULzIEUL-HIEUH
zIEUL-KIYEOKzIEUL-MIEUMzIEUL-PHIEUPHzIEUL-PIEUPzIEUL-SIOSzIEUL-THIEUTHySIOSzSANGCIEUCzSANGKIYEOK
zSANGPIEUPzSANGSIOSzSANGTIKEUTyTHIEUTHzIKEUTyUyWAzAEzEzEOzIyYAzAEzEzEOzIzOzUkIDEOGRAPHIC COMMA
wFULL STOPkKATAKANA LETTER Az Ez HAz HEz HIz HOz HUz Iz KAz KEz KIz KOz KUz MAz MEz MIz MOz MUz N
z NAz NEz NIz NOz NUz Oz RAz REz RIz ROz RUz SAz SEz SIz SMALL Az SMALL Ez SMALL Iz SMALL O
z SMALL TUz SMALL Uz SMALL YAz SMALL YOz SMALL YUz SOz SUz TAz TEz TIz TOz TUz Uz WAz WOz YAz YOz YU
tMIDDLE DOTtSEMI-VOICED SOUND MARKtVOICED SOUND MARKs-HIRAGANA PROLONGED SOUND MARK
kLEFT CORNER BRACKEToWARDS ARROWkRIGHT CORNER BRACKETpWARDS ARROWkUPWARDS ARROWkWHITE CIRCLEcMBURGER
dMERg AND PICKlSICKLElWRENCHdSAeTER FACEcND WITH INDEX AND MIDDLE FINGERS CROSSED
qFINGER AND THUMB CROSSEDeBAGgLLeSHAKEdGUL CHOSEONG CEONGCHIEUMCHIEUCHzUMCIEUCzUMSIOSzUMSSANGCIEUC
zUMSSANGSIOSrHIEUCHx-HIEUHyKHIEUKHtTUEUMCHIEUCHzIEUCySIOSzSANGCIEUCzSANGSIOSrIEUCv-IEUNGqFILLER
qHIEUHv-SIOSqIEUNGv-CHIEUCHxIEUCwHIEUHwKIYEOKwMIEUMwPANSIOSxHIEUPHxIEUPwRIEULwSIOSwTHIEUTHxIKEUT
qKAPYEOUNMIEUMyPHIEUPHzIEUPyRIEULySSANGPIEUPrHIEUKHrIYEOKw-TIKEUTqMIEUMv-KIYEOKwPIEUPwSIOSwTIKEUT
qNIEUNv-CIEUCwHIEUHwKIYEOKwPIEUPwSIOSwTIKEUTqPANSIOSrHIEUPHx-HIEUHyPIEUPrIEUPv-CHIEUCHxIEUCwHIEUH
wKHIEUKHxIYEOKwNIEUNwPHIEUPHwSIOSzS-CIEUCzS-KIYEOKzS-PIEUPzS-THIEUTHzS-TIKEUTxSANGSIOSwTHIEUTHxIKEUT
qRIEULv-CIEUCwHIEUHwKAPYEOUNPIEUPxHIEUKHxIYEOKwMIEUMwNIEUNwPIEUPwSIOSxSANGKIYEOKzNGPIEUPzNGTIKEUT
wTIKEUTqSIOSu-CHIEUCHwIEUCvHIEUHvIEUNGvKHIEUKHwIYEOKvMIEUMvNIEUNvPHIEUPHwIEUPzP-KIYEOKvRIEUL
vSSANGSIOSvTHIEUTHwIKEUTrSANGCIEUCzC-HIEUHvHIEUHvIEUNGvKIYEOKvNIEUNvPIEUPvRIEULvSIOSz-PIEUPvTHIEUTH
wIKEUTvYEORINHIEUHqTHIEUTHrIKEUTw-CIEUCxKIYEOKxMIEUMxPIEUPxRIEULxSIOSqYEORINHIEUHsSIEUNG
hDOUBLE DOT TONE MARKhFILLERhJONGSEONG CHIEUCHsIEUCw-PIEUPxSSANGPIEUPrHIEUHw-MIEUMxNIEUNxPIEUPxRIEUL
rIEUNGw-KHIEUKHyIYEOKxSSANGKIYEOKrKAPYEOUNMIEUMzPHIEUPHzPIEUPzRIEULsHIEUKHsIYEOKx-CHIEUCHyHIEUH
yKHIEUKHyNIEUNyPIEUPyRIEULySIOSzIOS-KIYEOKrMIEUMw-CHIEUCHyIEUCxHIEUHxKIYEOKxNIEUNxPANSIOSyIEUP
zEUP-SIOSxRIEULxSIOSySANGNIEUNzANGSIOSrNIEUNw-CHIEUCHyIEUCxHIEUHxKIYEOKxPANSIOSxRIEULxSIOSxTHIEUTH
yIKEUTrPANSIOSy-KAPYEOUNPIEUPzPIEUPsHIEUPHy-PIEUPzSIOSzTHIEUTHsIEUPw-CHIEUCHyIEUCxHIEUHxMIEUM
xPHIEUPHxRIEULzEUL-PHIEUPHxSIOSzOS-TIKEUTxTIKEUTrRIEULw-HIEUHxKAPYEOUNPIEUPyHIEUKHyIYEOKzYEOK-HIEUH
zYEOK-SIOSxMIEUMzEUM-HIEUHzEUM-KIYEOKzEUM-SIOSxNIEUNxPANSIOSyHIEUPHyIEUPzEUP-HIEUHzEUP-PHIEUPH
zEUP-SIOSzEUP-TIKEUTxSIOSySANGKIYEOKzANGSIOSxTHIEUTHyIKEUTzKEUT-HIEUHxYEORINHIEUHzORINHIEUH-HIEUH
zSIEUNGrSIOSv-CHIEUCHxIEUCwHIEUHwKAPYEOUNPIEUPxIYEOKwMIEUMwPANSIOSxIEUPwRIEULwTHIEUTHxIKEUT
sSANGCIEUCwIEUNGwKIYEOKwMIEUMwNIEUNwPIEUPwRIEULzUL-KHIEUKHwSIOSzS-KIYEOKzS-TIKEUTwTIKEUTzEUT-PIEUP
wYESIEUNGrTHIEUTHsIKEUTx-CHIEUCHzIEUCyKIYEOKyPIEUPyRIEULySIOSzIOS-KIYEOKyTHIEUTHrYEORINHIEUHtSIEUNG
z-HIEUHz-KHIEUKHz-KIYEOKz-MIEUMz-PANSIOSz-SIOSz-SSANGKIYEOKiUNGSEONG As-EUtOtUsEsRAEAw-AxEyOxIxUrEsO
t-EUuOuUsUt-AuEvOvUuOuUrFILLERrIs-AuRAEAtEUtItOu-ItUtYAv-OvEuEvOuOuUrOs-EuOtOu-ItUtYAvEuEvOsE
rSSANGARAEArUs-AuEtEO-EUtI-ItUtYEvOrWAtEsEtOsIrYAt-OuUuYOtEsEtOu-OvUvYAsIt-UsOt-AvEuEOuIuOuYAwEvEOsU
t-AvEuEvOuIuOuUuYEwOhLETTER ApEpRAEAtEoCHIEUCHpIEUCoEpOpUoHIEUHoIpEUNGoKAPYEOUNMIEUMwPHIEUPHxIEUP
wSSANGPIEUPpHIEUKHpIYEOKu-SIOSoMIEUMt-PANSIOSvIEUPuSIOSoNIEUNt-CIEUCuHIEUHuPANSIOSuSIOSuTIKEUToOpE
oPANSIOSpHIEUPHpIEUPt-CIEUCuKIYEOKuSIOSy-KIYEOKzTIKEUTuTHIEUTHvIKEUToRIEULt-HIEUHuKIYEOKzK-SIOS
uMIEUMuPANSIOSvHIEUPHvIEUPz-SIOSuSIOSuTHIEUTHvIKEUTuYEORINHIEUHoSIOSs-CIEUCtKIYEOKtNIEUNtPIEUP
tTIKEUTpSANGCIEUCtHIEUHtIEUNGtKIYEOKtNIEUNtPIEUPtSIOStTIKEUToTHIEUTHpIKEUToUoWAqEpEqOpIoYAqEpEqO
rRINHIEUHqSIEUNGw-PANSIOSxSIOSpIpOq-IrYAtEpUq-IrYEtOhSINGLE DOT TONE MARKeZHOU NUMERAL EIGHTrFIVE
sOURrNINErONErSEVENsIXrTENsHIRTYtREEsWENTYtOdIFI ROHINGYA DIGIT EIGHTwFIVExOURwNINEwONEwSEVENxIX
wTHREExWOwZEROqLETTER AxBAxCAxDAyDAxFAxGAxHAxJAxKAyHAyINNA WAzNNA YAxLAxMAxNAyGAyYAxPAxRAyRAxSAyHA
xTAyTAxVAxWAxYAxZAqMARK NA KHONNAvSAKINqSIGN HARBAHAYvTAHALAxNAxSSIqVOWEL AwEwIwOwUdUNOO LETTER ApBA
pDApGApHApIpKApLApMApNAqGApPApRApSApTApUpWApYAiSIGN PAMUDPODiVOWEL SIGN ItU
cPPY PERSON RAISING ONE HANDcRD DISKcTCHING CHICKdRAN LETTER ALEPHpYNoBETHoDALETH-RESHoGIMELoHEqTH
oKAPHoLAMEDHoMEMoNUNoPEoQOPHoSADHEqMEKHpHINoTAWpETHoWAWoYODHoZAYNhNUMBER FIVEoONEr HUNDREDoTENpWENTY
bEADPHONEeSTONEj GRAVEYARD SYMBOLdR-NO-EVIL MONKEYeT DECORATIONgHANDSgWITH ARROWlRIBBON
lTIP ON THE LEFTdVY AMPERSAND ORNAMENThRROW SHAFT WIDTH ONEzNE HALFzNE THIRDyTWO THIRDShSTERISK
gBALLOT XhLACK CURVED DOWNWARDS AND RIGHTWARDS ARROWtUPWARDS AND RIGHTWARDS ARROWmHEART
l-FEATHERED NORTH EAST ARROWwRIGHTWARDS ARROWwSOUTH EAST ARROWgCHECK MARKjVRON SNOWFLAKEhIRCLE
m WITH CIRCLE INSIDEsSTROKE AND TWO DOTS ABOVEmD SALTIREhONCAVE-POINTED BLACK RIGHTWARDS ARROW
gDASHED TRIANGLE-HEADED RIGHTWARDS ARROWhIVISION SIGNhOLLAR SIGNiUBLE COMMA QUOTATION MARK ORNAMENT
nTURNED COMMA QUOTATION MARK ORNAMENTiWNWARDS ARROW WITH EQUILATERAL ARROWHEAD
zH LARGE EQUILATERAL ARROWHEADgEIGHT POINTED BLACK STARuPINWHEEL STARuRECTILINEAR BLACK STAR
mSPOKED ASTERISKmTEARDROP-SPOKED PROPELLER ASTERISKhQUALS SIGNhXCLAMATION MARK ORNAMENTxSYMBOL
gFIVE POINTED BLACK STARlSPOKED ASTERISKhOUR BALLOON-SPOKED ASTERISKgGREEK CROSS
gHEART EXCLAMATION MARK ORNAMENThORIZONTAL FILLgINTERROBANG ORNAMENTgLARGE CIRCLEiTIN CROSS
hEFT-POINTING ANGLE BRACKET ORNAMENTz QUOTATION MARK ORNAMENTkWARDS ARROW WITH EQUILATERAL ARROWHEAD
zH LARGE EQUILATERAL ARROWHEADhIGATURE OPEN ET ORNAMENThOW DOUBLE COMMA QUOTATION MARK ORNAMENT
kSINGLE COMMA QUOTATION MARK ORNAMENTjER RIGHT-SHADOWED WHITE RIGHTWARDS ARROWgMINUS SIGN
hULTIPLICATION XgNORTH EAST ARROWrPOINTING BUDz VINE LEAFmWEST POINTING BUDz VINE LEAF
gOPEN CENTRE CROSShUTLINED BLACK STARhVAL WITH OVAL INSIDEgPLUS SIGN
gRIGHT-POINTING ANGLE BRACKET ORNAMENTzE QUOTATION MARK ORNAMENTlWARDS ARROW
w WITH EQUILATERAL ARROWHEADzTH LARGE EQUILATERAL ARROWHEADhOUND-TIPPED RIGHTWARDS ARROWgSALTIRE
iNS-SERIF INTERROBANG ORNAMENThCRIPT LIGATURE ET ORNAMENThINGLE COMMA QUOTATION MARK ORNAMENT
nTURNED COMMA QUOTATION MARK ORNAMENTiX POINTED BLACK STARkSPOKED ASTERISKhOUTH EAST ARROW
rPOINTING BUDz VINE LEAFmWEST POINTING BUDz VINE LEAFhPARKLEgTEARDROP-SHANKED RIGHTWARDS ARROW
qPOKED ASTERISKwPINWHEEL ASTERISKhRIANGLE-HEADED RIGHTWARDS ARROWhWELVE POINTED BLACK STAR
vPINWHEEL STARgUPPER RIGHT-SHADOWED WHITE RIGHTWARDS ARROWiWARDS ARROW WITH EQUILATERAL ARROWHEAD
zLARGE EQUILATERAL ARROWHEADgVERTICAL BARgWEDGE-TAILED RIGHTWARDS ARROWhHITE CIRCLE
mDOWN-POINTING TRIANGLEmSQUAREhIDE-HEADED RIGHTWARDS ARROWcBREW ACCENT ATNAH HAFUKHoDARGApEHI
oETNAHTAoGERESHu MUQDAMrSHAYIMoILUYoMAHAPAKHpERKHAu KEFULApUNAHoOLEoPASHTAqZERoQADMAqRNEY PARAoREVIA
oSEGOLpHALSHELEToTELISHA GEDOLAwQETANAqVIRpIPEHAoYERAH BEN YOMOqTIVoZAQEF GADOLuQATANqRQApINOR
hLETTER ALEFs WITH MAPIQyPATAHyQAMATSqTERNATIVE AYINz PLUS SIGNpYINoBETr WITH DAGESHxRAFEoDALET
t WITH DAGESHoFINAL KAFx WITH DAGESHuMEMuNUNuPEw WITH DAGESHuTSADIoGIMELt WITH DAGESHoHEq WITH MAPIQ
qToKAFr WITH DAGESHxRAFEoLAMEDt WITH DAGESHoMEMr WITH DAGESHoNUNr WITH DAGESHoPEq WITH DAGESHwRAFE
oQOFr WITH DAGESHoRESHs WITH DAGESHoSAMEKHu WITH DAGESHpHINs WITH DAGESHzAGESH AND SHIN DOT
zAGESH AND SIN DOTySHIN DOTzIN DOToTAVr WITH DAGESHpETr WITH DAGESHpSADIt WITH DAGESHoVAV
r WITH DAGESHxHOLAMoWIDE ALEFtDALETtFINAL MEMtHEtKAFtLAMEDtRESHtTAVoYODr WITH DAGESHxHIRIQoZAYIN
t WITH DAGESHiIGATURE ALEF LAMEDqYIDDISH DOUBLE VAVzOUBLE YODyVAV YODyYOD YOD PATAHhMARK LOWER DOT
mMASORA CIRCLEmUPPER DOThPOINT DAGESH OR MAPIQnHATAF PATAHtQAMATStSEGOLoIRIQoOLAMs HASER FOR VAV
nJUDEO-SPANISH VARIKAnMETEGnPATAHnQAMATSt QATANoUBUTSnRAFEnSEGOLoHEVApIN DOToIN DOTnTSERE
iUNCTUATION GERESHwSHAYIMtMAQAFtNUN HAFUKHAtPASEQtSOF PASUQhYOD TRIANGLEcDGEHOGcLICOPTER
dLSCHREIBER PAUSE SYMBOLdM SYMBOLeET WITH WHITE CROSScNTAIGANA LETTER A-1u2u3uWOsE-1u2u3u4u5u6sHA-1
w0w1v2v3v4v5v6v7v8v9tE-1v2v3v4v5v6v7tI-1v2v3v4v5v6v7tO-1v2v3v4v5v6v7v8tU-1v2v3sI-1u2u3u4sKA-1w0w1v2
v3v4v5v6v7v8v9vKEtE-1v2v3v4v5v6tI-1v2v3v4v5v6v7v8tO-1v2v3vKItU-1v2v3v4v5v6v7sMA-1v2v3v4v5v6v7tE-1v2
vMAtI-1v2v3v4v5v6v7tO-1v2v3v4v5v6tU-1v2v3v4sN-MU-MO-1z-2tA-1v2v3v4v5v6v7v8v9tE-1v2v3v4v5v6vKOtI-1v2
v3v4v5v6v7vTEtO-1v2v3v4v5tU-1v2v3sO-1u2u3sRA-1v2v3v4tE-1v2v3v4tI-1v2v3v4v5v6v7tO-1v2v3v4v5v6tU-1v2v3
v4v5v6sSA-1v2v3v4v5v6v7v8tE-1v2v3v4v5tI-1v2v3v4v5v6tO-1v2v3v4v5v6v7tU-1v2v3v4v5v6v7v8sTA-1v2v3v4tE-1
v2v3v4v5v6v7v8v9tI-1v2v3v4v5v6v7tO-1v2v3v4v5v6vRAtU-1v2v3v4vTOsU-1u2u3u4u5sWA-1v2v3v4v5tE-1v2v3v4
tI-1v2v3v4v5tO-1v2v3v4v5v6v7sYA-1v2v3v4v5vYOtO-1v2v3v4v5v6tU-1v2v3v4cRBdMITIAN CONJUGATE MATRIX
cXAGRAM FOR ABUNDANCEoFTER COMPLETIONoPPROACHnBEFORE COMPLETIONoITING THROUGHoREAKTHROUGH
nCOMING TO MEETpNFLICTqTEMPLATIONnDARKENING OF THE LIGHToECREASEpLIVERANCEpVELOPMENT
oIFFICULTY AT THE BEGINNINGpSPERSIONoURATIONnENTHUSIASMnFELLOWSHIPoOLLOWINGnGATHERING TOGETHERoRACE
pEAT POSSESSIONvWERuREPONDERANCEtTAMINGnHOLDING TOGETHERnINCREASEpFLUENCEpNER TRUTHqOCENCE
nLIMITATIONnMODESTYpUTH CORNERSnOBSTRUCTIONoPPOSITIONqRESSIONnPEACEoROGRESSoUSHING UPWARDnRETREAT
qURNpVOLUTIONnSMALL PREPONDERANCEtTAMINGoPLITTING APARToTANDSTILLnTHE ABYSMAL WATERsRMY
tOUSING THUNDERrCAULDRONsLINGING FIREsREATIVE HEAVENrFAMILYrGENTLE WINDrJOYOUS LAKE
rKEEPING STILL MOUNTAINrMARRYING MAIDENrRECEPTIVE EARTHrWANDERERsELLoREADINGnWAITING
oORK ON THE DECAYEDnYOUTHFUL FOLLYbIBISCUScGH BRIGHTNESS SYMBOLfOCTET PRESETfVOLTAGE SIGN
e-HEELED SHOEfSPEED TRAINq WITH BULLET NOSEcKING BOOTcNDU TEMPLEcPPOPOTAMUScRAGANA DIGRAPH YORI
jITERATION MARKjLETTER ArRCHAIC WUyYEqBArErIrOrUqDArErIrOrUqEqGArErIrOrUqHArErIrOrUqIqKArErIrOrUqMA
rErIrOrUqNrArErIrOrUqOqPArErIrOrUqRArErIrOrUqSArErIrMALL AwEwIwKAxEwOwTUwUwWAxExIxOwYAxOxUrOrUqTArE
rIrOrUqUqVUqWArErIrOqYArOrUqZArErIrOrUjVOICED ITERATION MARKcSTORIC SITEbOCHOcLE
dLOW QUILT SQUARE ORNAMENTzENT IN BLACK SQUAREcMOTHETICcNEY POTfBEEcOKcPcRIZONTAL BARmLACK HEXAGON
rOCTAGONlELLIPSISlLINE EXTENSIONlMALE WITH STROKE SIGNlONE EIGHTH BLOCK-1358zCK-2zCK-3zCK-4zCK-5
zCK-6zCK-7lSCAN LINE-1v3v7v9lTAB KEYoULATIONv SETwWITH JUSTIFICATIONmRAFFIC LIGHTdSEf FACEgRACING
cSPITALcT BEVERAGEeDOGePEPPEReSPRINGSdELcURGLASSj WITH FLOWING SANDdSEf BUILDINGoSgWITH GARDEN
bRYVNIA SIGNbTcJcSbUGGING FACEcNDRED POINTS SYMBOLcSHED FACEcTbYGIEAcPHENg BULLEThWITH DIAERESIS
g-MINUSgATION POINTdODIASTOLEcSTERESIS SYMBOLaI LOVE YOU HAND SIGNbCE CREAMfUBE
eHOCKEY STICK AND PUCKeSKATEbDENTICAL TOm AND SLANTED PARALLELkWITH DOT ABOVEgFICATION CARD
dOGRAPHIC ANNOTATION BOTTOM MARKxEARTH MARKxFIRST MARKyOUR MARKzURTH MARKxHEAVEN MARKxLINKING MARK
xMAN MARKyIDDLE MARKxONE MARKxREVERSE MARKxSECOND MARKxTHIRD MARKzREE MARKyOP MARKyWO MARK
mCLOSING MARKnOMMAmDEPARTING TONE MARKoSCRIPTION CHARACTER ABOVE TO BELOW
zHARACTER ABOVE TO MIDDLE AND BELOWzHARACTER FULL SURROUNDzHARACTER LEFT TO MIDDLE AND RIGHT
zHARACTER LEFT TO RIGHTzHARACTER OVERLAIDzHARACTER SURROUND FROM ABOVEzHARACTER SURROUND FROM BELOW
zHARACTER SURROUND FROM LEFTzHARACTER SURROUND FROM LOWER LEFTzHARACTER SURROUND FROM UPPER LEFT
zHARACTER SURROUND FROM UPPER RIGHTmENTERING TONE MARKmFULL STOPmHALF FILL SPACEmITERATION MARK
mLEVEL TONE MARKmNUMBER ZEROmRISING TONE MARKmSPACEmTALLY MARK FIVEyOURxONExTHREEyWO
nELEGRAPH LINE FEED SEPARATOR SYMBOLwSYMBOL FOR APRILzBOL FOR AUGUSTzBOL FOR DAY EIGHT
zBOL FOR DAY EIGHTEENzBOL FOR DAY ELEVENzBOL FOR DAY FIFTEENzBOL FOR DAY FIVEzBOL FOR DAY FOUR
zBOL FOR DAY FOURTEENzBOL FOR DAY NINEzBOL FOR DAY NINETEENzBOL FOR DAY ONEzBOL FOR DAY SEVEN
zBOL FOR DAY SEVENTEENzBOL FOR DAY SIXzBOL FOR DAY SIXTEENzBOL FOR DAY TENzBOL FOR DAY THIRTEEN
zBOL FOR DAY THIRTYzBOL FOR DAY THIRTY-ONEzBOL FOR DAY THREEzBOL FOR DAY TWELVEzBOL FOR DAY TWENTY
zBOL FOR DAY TWENTY-EIGHTzBOL FOR DAY TWENTY-FIVEzBOL FOR DAY TWENTY-FOURzBOL FOR DAY TWENTY-NINE
zBOL FOR DAY TWENTY-ONEzBOL FOR DAY TWENTY-SEVENzBOL FOR DAY TWENTY-SIXzBOL FOR DAY TWENTY-THREE
zBOL FOR DAY TWENTY-TWOzBOL FOR DAY TWOzBOL FOR DECEMBERzBOL FOR FEBRUARYzBOL FOR HOUR EIGHT
zBOL FOR HOUR EIGHTEENzBOL FOR HOUR ELEVENzBOL FOR HOUR FIFTEENzBOL FOR HOUR FIVEzBOL FOR HOUR FOUR
zBOL FOR HOUR FOURTEENzBOL FOR HOUR NINEzBOL FOR HOUR NINETEENzBOL FOR HOUR ONEzBOL FOR HOUR SEVEN
zBOL FOR HOUR SEVENTEENzBOL FOR HOUR SIXzBOL FOR HOUR SIXTEENzBOL FOR HOUR TENzBOL FOR HOUR THIRTEEN
zBOL FOR HOUR THREEzBOL FOR HOUR TWELVEzBOL FOR HOUR TWENTYzBOL FOR HOUR TWENTY-FOUR
zBOL FOR HOUR TWENTY-ONEzBOL FOR HOUR TWENTY-THREEzBOL FOR HOUR TWENTY-TWOzBOL FOR HOUR TWO
zBOL FOR HOUR ZEROzBOL FOR JANUARYzBOL FOR JULYzBOL FOR JUNEzBOL FOR MARCHzBOL FOR MAY
zBOL FOR NOVEMBERzBOL FOR OCTOBERzBOL FOR SEPTEMBERmVARIATION INDICATORbMAGE OF
i OR APPROXIMATELY EQUAL TOcPdERIAL ARAMAIC LETTER ALEPHzYINyBETHyDALETHyGIMELyHEzETHyKAPHyLAMEDH
yMEMyNUNyPEyQOPHyRESHySADHEzAMEKHzHINyTAWzETHyWAWyYODHyZAYINrNUMBER ONEzNE HUNDREDzNE THOUSANDyTEN
zEN THOUSANDzHREEzWENTYzWOrSECTION SIGNbNBOX TRAYcCOMING ENVELOPEfPLETE INFINITY
dREASE FONT SIZE SYMBOLiS ASfMENTcDdEXf POINTING AT THE VIEWERdIAN RUPEE SIGN
eC SIYAQ ALTERNATE LAKH MARKmFRACTION ONE HALFzQUARTERvTHREE QUARTERSmLAKH MARKmNUMBER ALTERNATE ONE
zATE TEN THOUSANDzATE TWOtEIGHTy HUNDREDzTHOUSANDyYz THOUSANDtFIFTYy THOUSANDvVEx HUNDREDyTHOUSAND
uORTYy THOUSANDvURx HUNDREDyTHOUSANDtKARORyANtLAKHxANtNINEx HUNDREDyTHOUSANDxTYz THOUSANDtONE
w HUNDREDxTHOUSANDtPREFIXED EIGHTzED FIVEzED FOURzED NINEzED ONEzED SEVENzED SIXzED THREEzED TWO
tSEVENy HUNDREDzTHOUSANDyTYzY THOUSANDuIXw HUNDREDxTHOUSANDwTYy THOUSANDtTENw THOUSANDuHIRTY
z THOUSANDvREEy HUNDREDzTHOUSANDuWENTYz THOUSANDvOw HUNDREDxTHOUSANDmPLACEHOLDERmRUPEE MARKcFINITY
i NEGATED WITH VERTICAL BARdORMATION DESK PERSONmSEPARATOR FOURwONEwTHREExWOnOURCE
cHIBIT ARABIC FORM SHAPINGiSYMMETRIC SWAPPINGcPUT SYMBOL FOR LATIN CAPITAL LETTERSxLETTERS
xSMALL LETTERSrNUMBERSrSYMBOLScSCRIPTIONAL PAHLAVI LETTER ALEPHzTER BETHzTER DALETHzTER GIMELzTER HE
zTER HETHzTER KAPHzTER LAMEDHzTER MEM-QOPHzTER NUNzTER PEzTER SADHEzTER SAMEKHzTER SHINzTER TAW
zTER TETHzTER WAW-AYIN-RESHzTER YODHzTER ZAYINwNUMBER FOURzBER ONEzBER ONE HUNDREDzBER ONE THOUSAND
zBER TENzBER THREEzBER TWENTYzBER TWOqRTHIAN LETTER ALEPHzTTER AYINzTTER BETHzTTER DALETHzTTER GIMEL
zTTER HEzTTER HETHzTTER KAPHzTTER LAMEDHzTTER MEMzTTER NUNzTTER PEzTTER QOPHzTTER RESHzTTER SADHE
zTTER SAMEKHzTTER SHINzTTER TAWzTTER TETHzTTER WAWzTTER YODHzTTER ZAYINxNUMBER FOURzMBER ONE
zMBER ONE HUNDREDzMBER ONE THOUSANDzMBER TENzMBER THREEzMBER TWENTYzMBER TWOdERTION SYMBOLcTEGRAL
i AROUND A POINT OPERATORkVERAGE WITH SLASHjEXTENSIONjWITH DOUBLE STROKEoINTERSECTION
oLEFTWARDS ARROW WITH HOOKoOVERBARoTIMES SIGNoUNDERBARqIONeRCALATEfIOR PRODUCT
fLINEAR ANNOTATION ANCHORxSEPARATORxTERMINATORgOCKED FEMALE AND MALE SIGNfROBANGfSECTION
m ABOVE BAR ABOVE UNIONtUNIONnBESIDE AND JOINED WITH INTERSECTIONnWITH DOTsLOGICAL ANDsOVERBAR
cVERSE BULLETiCHECK MARKnER BOARD FILLiDOWNWARDS ARROW WITH TIP LEFTWARDSiMEDIUM SHADEiWHITE CIRCLE
fTED EXCLAMATION MARKjINTERROBANGjLAZY SkOW KAVYKAt WITH KAVYKA ABOVEjOHM SIGNjPENTAGRAM
jQUESTION MARKjUNDERTIEdISIBLE PLUSkSEPARATORkTIMESbZAKAYA LANTERNaJACK-O-LANTERNcPANESE BANK SYMBOL
jCASTLEjDOLLSjGOBLINjINDUSTRIAL STANDARD SYMBOLjOGREjPOST OFFICEjSYMBOL FOR BEGINNERcR
cVANESE CONSONANT SIGN CAKRAyKERETyPENGKALjDIGIT EIGHTpFIVEqOURpNINEpONEpSEVENqIXpTHREEqWOpZERO
jLEFT RERENGGANlTTER ArIqBAs MURDAqCAs MURDAqDAs MAHAPRANArDAt MAHAPRANAqEqGAs MURDAqHAqIr KAWIrIqJA
s MAHAPRANAqKAs MURDAtSASAKqLAqMAqNAs MURDArGAt LELETz RASWADIrYAt MURDAqOqPAs CEREKtMURDAqRAs AGUNG
qSAs MAHAPRANAuURDAqTAs MURDArTAt MAHAPRANAqUqWAqYAjPADA ADEGs ADEGpNDAPoISEN-ISENoLINGSApUHURqNGSI
oMADYAoPANGKATpISELEHoTIRTA TUMETESoWINDUlNGKONnRANGKEPjRIGHT RERENGGANjSIGN CECAKt TELUoLAYAR
oPANYANGGAoWIGNYANjTURNED PADA PISELEHjVOWEL SIGN DIRGA MUREuPEPETuSUKUy MENDUTuTALINGwRUNGvOLONG
uWULUy MELIKbEANSbIGSAW PUZZLE PIECEbOINcYSTICKbUGGLINGcNOcPITERaKAABAcITHI ABBREVIATION SIGNhDANDA
iOUBLE DANDAoSECTION MARKhENUMERATION SIGNhLETTER ApApIpUoBApHAoCApHAoDApDAqDHAqHApHAoEoGApHAoHAoIpI
oJApHAoKApHAoLAoMAoNApGApNApYAoOoPApHAoRApHAoSApHApSAoTApHApTAqHAoUpUoVAoYAhNUMBER SIGNs ABOVE
hSECTION MARKiIGN ANUSVARAmCANDRABINDUmNUKTAmVIRAMAoSARGAhVOWEL SIGN AAtItUsEsItIsOsUtUsVOCALIC R
cNGAROOeXI RADICAL AGAINqNDqRRIVEsOWqXEpBADGERrMBOOqEANqIGrRDrTTERqLACKrOODrUEqOATrDYrLT OF CLOTHrNE
rWqRANCHrISTLErUSHpCARTrULDRONrVEqHILDqITYqLANsWrIFFrOTHESqOLORrMPARErRPSErVERrWpDEATHrERqIPPERrSH
sTINGUISHrVINATIONqO NOTrGrORrTsTED CLIFFwTENTrUBLE XrWN BOXqRAGONrUMrYpEARsTHrTqIGHTqMBROIDERY
qNCLOSURErTERqVENtINGqYEpFACErNGrTHERqEATHERqIELDrGHTrRErSHqLUTErYqOOTqRAGRANTrOGqURpGATEqHOSTqO
r SLOWLYrLDqRAINsSSpHAIRrLBERDsF TREE TRUNKrNDqEADsRTrMPqIDING ENCLOSUREqOOKrRNsSEpICEqNCHrSECTpJADE
rRpKNIFEpLACKrMEqEAFsTHERrEKrGSqIDrFErNEqONGt STRIDEpMANqEATrLONqILLETrNISTERqOONrRNINGsTARrUNDtTAIN
sTHpNETqOSErTpOLDqNEsSELFqPEN BOXrPOSEpPIGqLOWqOWERqRIVATErOFOUNDpRAINrPrTqEDqICErGHT OPEN BOXrVER
qOOFqUNpSACRIFICIAL WINErLTrYqCHOLARrRIPTqEALrCONDrErLFqHEEPsLLrOOTsRT TAILED BIRDwHREADqICKNESSrLK
qKINqLASHsVErICEqMALLqNOUTqOUNDqPEARsECHrIRITrOONrROUTqQUAREqTANDrEAMsPrONEsPtPINGqUNqWEETpTABLErLL
rNNED LEATHERqENqIGERrLEqONGUErOTHqRACKrEErIPODqURBANsTLEqWOs HANDSpUSEpVALLEYqILLAGEpWALK
t ENCLOSURErTERqEAPONrSTqHEATrITEqINDsEqOMANrRKqRAPrONGpYELLOWdNADA AI LENGTH MARKiDIGIT EIGHToFIVE
pOURoNINEoONEoSEVENpIXoTHREEpWOoZEROiLENGTH MARKkTTER AqAqIqUpBAqHApCAqHApDAqDArHAqHApEqEpFApGAqHA
pHApIqIpJAqHApKAqHApLAqLArLApMApNArKAARA POLLUqGAqNAqYApOqOpPAqHApRAqRApSAqHAqSApTAqHAqTArHApUqUpVA
qOCALIC LyLxRyRpYAiSIGN ANUSVARAoVAGRAHAnCANDRABINDUnJIHVAMULIYAnNUKTAnSIDDHAMoPACING CANDRABINDU
nUPADHMANIYAnVIRAMApSARGAiVOWEL SIGN AAuIuUtEuEtIuItOuOtUuUtVOCALIC LzC LLzC RzC RR
cTAKANA DIGRAPH KOTOjITERATION MARKjLETTER ArRCHAIC EyWUyYEzIqBArErIrOrUqDArErIrOrUqEqGArErIrOrUqHA
rErIrOrUqIqKArErIrOrUqMArErIsNNAN NASALIZED TONE-1zSALIZED TONE-2zSALIZED TONE-3zSALIZED TONE-4
zSALIZED TONE-5zSALIZED TONE-7zSALIZED TONE-8xTONE-2zNE-3zNE-4zNE-5zNE-7zNE-8rOrUqNrArErIrOrUqOqPArE
rIrOrUqRArErIrOrUqSArErIrMALL AwEwHAxExIxOxUwIwKAxExUwMUwNxUwOwRAxExIxOxUwSIxUwTOxUwUwWAxExIxOwYAxO
xUrOrUqTArErIrOrUqUqVArErIrOrUqWArErIrOqYArOrUqZArErIrOrUjMIDDLE DOTjVOICED ITERATION MARK
i-HIRAGANA DOUBLE HYPHENsPROLONGED SOUND MARKsSEMI-VOICED SOUND MARKsVOICED SOUND MARK
cYAH LI DIGIT EIGHTpFIVEqOURpNINEpONEpSEVENqIXpTHREEqWOpZEROjLETTER AqBAqCAqDAqGAqHArTAqIqKArHAqLA
qMAqNArGArYAqOErOqPArHAqRAqSArHAqTArHAqVAqWAqYAqZAjSIGN CWIoSHYAjTONE CALYAt PLOPHUoPLOPHUjVOWEL EqE
pOpUqEbELVIN SIGNcYdBOARDi AND MOUSEdCAP TENbHAROSHTHI DIGIT FOURrONErTHREEsWOlFRACTION ONE HALF
lLETTER AsBAtHAsCAtHAsDAtDAuHAtHAsGAtHAsHAsJAsKAtHAtKAsLAsMAsNAtNAtYAsPAtHAsRAsSAtHAtSAsTAtHAtTAuHA
uTAvHAsVAtHAsYAsZAlNUMBER ONE HUNDREDwTHOUSANDsTENtWENTYlPUNCTUATION CIRCLEyRESCENT BARxDANDAyOT
zUBLE DANDAxLINESyOTUSxMANGALAMxSMALL CIRCLElSIGN ANUSVARAqBAR ABOVEqCAUDAqDOT BELOWsUBLE RING BELOW
qVISARGAlVIRAMAmOWEL LENGTH MARKrSIGN EwIwOwUwVOCALIC RcITAN SMALL SCRIPT CHARACTER-18B00zCTER-18B01
zCTER-18B02zCTER-18B03zCTER-18B04zCTER-18B05zCTER-18B06zCTER-18B07zCTER-18B08zCTER-18B09zCTER-18B0A
zCTER-18B0BzCTER-18B0CzCTER-18B0DzCTER-18B0EzCTER-18B0FzCTER-18B10zCTER-18B11zCTER-18B12zCTER-18B13
zCTER-18B14zCTER-18B15zCTER-18B16zCTER-18B17zCTER-18B18zCTER-18B19zCTER-18B1AzCTER-18B1BzCTER-18B1C
zCTER-18B1DzCTER-18B1EzCTER-18B1FzCTER-18B20zCTER-18B21zCTER-18B22zCTER-18B23zCTER-18B24zCTER-18B25
zCTER-18B26zCTER-18B27zCTER-18B28zCTER-18B29zCTER-18B2AzCTER-18B2BzCTER-18B2CzCTER-18B2DzCTER-18B2E
zCTER-18B2FzCTER-18B30zCTER-18B31zCTER-18B32zCTER-18B33zCTER-18B34zCTER-18B35zCTER-18B36zCTER-18B37
zCTER-18B38zCTER-18B39zCTER-18B3AzCTER-18B3BzCTER-18B3CzCTER-18B3DzCTER-18B3EzCTER-18B3FzCTER-18B40
zCTER-18B41zCTER-18B42zCTER-18B43zCTER-18B44zCTER-18B45zCTER-18B46zCTER-18B47zCTER-18B48zCTER-18B49
zCTER-18B4AzCTER-18B4BzCTER-18B4CzCTER-18B4DzCTER-18B4EzCTER-18B4FzCTER-18B50zCTER-18B51zCTER-18B52
zCTER-18B53zCTER-18B54zCTER-18B55zCTER-18B56zCTER-18B57zCTER-18B58zCTER-18B59zCTER-18B5AzCTER-18B5B
zCTER-18B5CzCTER-18B5DzCTER-18B5EzCTER-18B5FzCTER-18B60zCTER-18B61zCTER-18B62zCTER-18B63zCTER-18B64
zCTER-18B65zCTER-18B66zCTER-18B67zCTER-18B68zCTER-18B69zCTER-18B6AzCTER-18B6BzCTER-18B6CzCTER-18B6D
zCTER-18B6EzCTER-18B6FzCTER-18B70zCTER-18B71zCTER-18B72zCTER-18B73zCTER-18B74zCTER-18B75zCTER-18B76
zCTER-18B77zCTER-18B78zCTER-18B79zCTER-18B7AzCTER-18B7BzCTER-18B7CzCTER-18B7DzCTER-18B7EzCTER-18B7F
zCTER-18B80zCTER-18B81zCTER-18B82zCTER-18B83zCTER-18B84zCTER-18B85zCTER-18B86zCTER-18B87zCTER-18B88
zCTER-18B89zCTER-18B8AzCTER-18B8BzCTER-18B8CzCTER-18B8DzCTER-18B8EzCTER-18B8FzCTER-18B90zCTER-18B91
zCTER-18B92zCTER-18B93zCTER-18B94zCTER-18B95zCTER-18B96zCTER-18B97zCTER-18B98zCTER-18B99zCTER-18B9A
zCTER-18B9BzCTER-18B9CzCTER-18B9DzCTER-18B9EzCTER-18B9FzCTER-18BA0zCTER-18BA1zCTER-18BA2zCTER-18BA3
zCTER-18BA4zCTER-18BA5zCTER-18BA6zCTER-18BA7zCTER-18BA8zCTER-18BA9zCTER-18BAAzCTER-18BABzCTER-18BAC
zCTER-18BADzCTER-18BAEzCTER-18BAFzCTER-18BB0zCTER-18BB1zCTER-18BB2zCTER-18BB3zCTER-18BB4zCTER-18BB5
zCTER-18BB6zCTER-18BB7zCTER-18BB8zCTER-18BB9zCTER-18BBAzCTER-18BBBzCTER-18BBCzCTER-18BBDzCTER-18BBE
zCTER-18BBFzCTER-18BC0zCTER-18BC1zCTER-18BC2zCTER-18BC3zCTER-18BC4zCTER-18BC5zCTER-18BC6zCTER-18BC7
zCTER-18BC8zCTER-18BC9zCTER-18BCAzCTER-18BCBzCTER-18BCCzCTER-18BCDzCTER-18BCEzCTER-18BCFzCTER-18BD0
zCTER-18BD1zCTER-18BD2zCTER-18BD3zCTER-18BD4zCTER-18BD5zCTER-18BD6zCTER-18BD7zCTER-18BD8zCTER-18BD9
zCTER-18BDAzCTER-18BDBzCTER-18BDCzCTER-18BDDzCTER-18BDEzCTER-18BDFzCTER-18BE0zCTER-18BE1zCTER-18BE2
zCTER-18BE3zCTER-18BE4zCTER-18BE5zCTER-18BE6zCTER-18BE7zCTER-18BE8zCTER-18BE9zCTER-18BEAzCTER-18BEB
zCTER-18BECzCTER-18BEDzCTER-18BEEzCTER-18BEFzCTER-18BF0zCTER-18BF1zCTER-18BF2zCTER-18BF3zCTER-18BF4
zCTER-18BF5zCTER-18BF6zCTER-18BF7zCTER-18BF8zCTER-18BF9zCTER-18BFAzCTER-18BFBzCTER-18BFCzCTER-18BFD
zCTER-18BFEzCTER-18BFFzCTER-18C00zCTER-18C01zCTER-18C02zCTER-18C03zCTER-18C04zCTER-18C05zCTER-18C06
zCTER-18C07zCTER-18C08zCTER-18C09zCTER-18C0AzCTER-18C0BzCTER-18C0CzCTER-18C0DzCTER-18C0EzCTER-18C0F
zCTER-18C10zCTER-18C11zCTER-18C12zCTER-18C13zCTER-18C14zCTER-18C15zCTER-18C16zCTER-18C17zCTER-18C18
zCTER-18C19zCTER-18C1AzCTER-18C1BzCTER-18C1CzCTER-18C1DzCTER-18C1EzCTER-18C1FzCTER-18C20zCTER-18C21
zCTER-18C22zCTER-18C23zCTER-18C24zCTER-18C25zCTER-18C26zCTER-18C27zCTER-18C28zCTER-18C29zCTER-18C2A
zCTER-18C2BzCTER-18C2CzCTER-18C2DzCTER-18C2EzCTER-18C2FzCTER-18C30zCTER-18C31zCTER-18C32zCTER-18C33
zCTER-18C34zCTER-18C35zCTER-18C36zCTER-18C37zCTER-18C38zCTER-18C39zCTER-18C3AzCTER-18C3BzCTER-18C3C
zCTER-18C3DzCTER-18C3EzCTER-18C3FzCTER-18C40zCTER-18C41zCTER-18C42zCTER-18C43zCTER-18C44zCTER-18C45
zCTER-18C46zCTER-18C47zCTER-18C48zCTER-18C49zCTER-18C4AzCTER-18C4BzCTER-18C4CzCTER-18C4DzCTER-18C4E
zCTER-18C4FzCTER-18C50zCTER-18C51zCTER-18C52zCTER-18C53zCTER-18C54zCTER-18C55zCTER-18C56zCTER-18C57
zCTER-18C58zCTER-18C59zCTER-18C5AzCTER-18C5BzCTER-18C5CzCTER-18C5DzCTER-18C5EzCTER-18C5FzCTER-18C60
zCTER-18C61zCTER-18C62zCTER-18C63zCTER-18C64zCTER-18C65zCTER-18C66zCTER-18C67zCTER-18C68zCTER-18C69
zCTER-18C6AzCTER-18C6BzCTER-18C6CzCTER-18C6DzCTER-18C6EzCTER-18C6FzCTER-18C70zCTER-18C71zCTER-18C72
zCTER-18C73zCTER-18C74zCTER-18C75zCTER-18C76zCTER-18C77zCTER-18C78zCTER-18C79zCTER-18C7AzCTER-18C7B
zCTER-18C7CzCTER-18C7DzCTER-18C7EzCTER-18C7FzCTER-18C80zCTER-18C81zCTER-18C82zCTER-18C83zCTER-18C84
zCTER-18C85zCTER-18C86zCTER-18C87zCTER-18C88zCTER-18C89zCTER-18C8AzCTER-18C8BzCTER-18C8CzCTER-18C8D
zCTER-18C8EzCTER-18C8FzCTER-18C90zCTER-18C91zCTER-18C92zCTER-18C93zCTER-18C94zCTER-18C95zCTER-18C96
zCTER-18C97zCTER-18C98zCTER-18C99zCTER-18C9AzCTER-18C9BzCTER-18C9CzCTER-18C9DzCTER-18C9EzCTER-18C9F
zCTER-18CA0zCTER-18CA1zCTER-18CA2zCTER-18CA3zCTER-18CA4zCTER-18CA5zCTER-18CA6zCTER-18CA7zCTER-18CA8
zCTER-18CA9zCTER-18CAAzCTER-18CABzCTER-18CACzCTER-18CADzCTER-18CAEzCTER-18CAFzCTER-18CB0zCTER-18CB1
zCTER-18CB2zCTER-18CB3zCTER-18CB4zCTER-18CB5zCTER-18CB6zCTER-18CB7zCTER-18CB8zCTER-18CB9zCTER-18CBA
zCTER-18CBBzCTER-18CBCzCTER-18CBDzCTER-18CBEzCTER-18CBFzCTER-18CC0zCTER-18CC1zCTER-18CC2zCTER-18CC3
zCTER-18CC4zCTER-18CC5zCTER-18CC6zCTER-18CC7zCTER-18CC8zCTER-18CC9zCTER-18CCAzCTER-18CCBzCTER-18CCC
zCTER-18CCDzCTER-18CCEzCTER-18CCFzCTER-18CD0zCTER-18CD1zCTER-18CD2zCTER-18CD3zCTER-18CD4zCTER-18CD5
uFILLERcMER CURRENCY SYMBOL RIELgDIGIT EIGHTmFIVEnOURmNINEmONEmSEVENnIXmTHREEnWOmZERO
gINDEPENDENT VOWEL LYzYYyQAAzAIzAQzAUzEzIzIIzOO TYPE ONEzOO TYPE TWOzUzUKzUUzUUVyRYzYYgLETTER BAnCA
oHApOoOnDAoOnHAnKAoHApOoOnLAoOnMOnNGOoNOoOoYOnPHApOoOnQAnROnSAoHAoSOnTAoHApOoOoTHAqOnVOnYO
gSIGN AHSDAmTTHACANmVAKRAHASANYAlBANTOCnRIYOOSANnTHAMASATmEYYALlCAMNUC PII KUUHmOENGlKAKABATmHAN
mOOMUUTlLEK TOOlMUUSIKATOANlNIKAHITlPHNAEK MUANlREAHMUKmOBATlSAMYOK SANNYAlTOANDAKHIATmRIISAPlVIRIAM
lYUUKALEAPINTUhYMBOL BEI KOETrROCoUON KOETsROCnDAP KOETrROCq-BEI KOETvROCsUON KOETwROCrMUOY KOETwROC
rPII KOETvROCsRAM KOETwROCnLEK ATTAK BEIyUONxMUOYxPIIyRAMzAM-BEIzAM-BUONzAM-MUOYzAM-PIIxSON
nMUOY KOETsROCnPATHAMASAToII KOETrROCoRAM KOETsROCr-BEI KOETwROCtUON KOETxROCsMUOY KOETxROCsPII KOET
wROCnTUTEYASATgVOWEL INHERENT AAwQmSIGN AAsEsIsUrErIsEsIrOEsOrUsAsUrYsAsYcOJKI ABBREVIATION SIGN
hDANDAiOUBLE DANDAoSECTION MARKhLETTER ApApIpUoBApBApHAoCApHAoDApDAqDAqHApHAoEoGApGApHAoHAoIoJApJA
oKApHAoLApLAoMAoNApGApNApYAoOoPApHAoRAoSAoTApHApTAqHAoUoVAoYAhSECTION MARKiIGN ANUSVARAmNUKTAmSHADDA
nUKUNmVIRAMAhVOWEL SIGN AAtItUsEsItIsOsUhWORD SEPARATORcUDAWADI DIGIT EIGHTqFIVErOURqNINEqONEqSEVEN
rIXqTHREErWOqZEROkLETTER AsAsIsUrBAsBAsHArCAsHArDAsDAtDAtHAsHArErGAsGAsHArHArIsIrJAsHAsJArKAsHArLA
rMArNAsGAsNAsYArOrPAsHArRAsRArSAsHArTAsHAsTAtHArUsUrVArYAkSIGN ANUSVARApNUKTApVIRAMAkVOWEL SIGN AAwI
wUvEvIwIvOvUwUbIMONOcP SIGNcSSe MARKeING CAT FACE WITH CLOSED EYESiFACEm WITH CLOSED EYES
sSMILING EYEScTEcWIFRUITbNEELING PERSONcOTbOALAcREAN STANDARD SYMBOLbRONOSaL B BAR SYMBOLbAB COATdEL
cCROSSE STICK AND BALLcDDERdY BEETLEcNGUAGE TAGcO CANCELLATION MARKeDIGIT EIGHTkFIVElOURkNINEkONE
kSEVENlIXkTHREElWOkZEROeELLIPSISeHO MOhNOeKO LAeLETTER BOlCOlDOlFO FAYpONoSUNGoTAMlHO SUNGoTAM
lKHMU GOqNYOnO SUNGpTAMmOlLOn LINGpOOTlMOlNGOmOmYOlOlPALI BHAqCHAqDDAsHArHAqGHAqJHAqLLAqNNArYAqTTA
sHAmHO SUNGpTAMmOlROlSANSKRIT SHAvSAmO SUNGoTAMlTHO SUNGpTAMmOlWOlYOeNIGGAHITAeSEMIVOWEL SIGN LOtNYO
fIGN PALI VIRAMAeTONE MAI CATAWAnEKnTHOoIeVOWEL SIGN AqAqIqMqYpEqIpIqIpMAI KANuONpOpUqUpYqY
cRGE BLUE CIRCLElDIAMONDlSQUAREhROWN CIRCLEmSQUAREgCIRCLEgDOWN TACKgGREEN CIRCLEmSQUARE
gLEFT TRIANGLE OPERATORgONE DOT OVER TWO DOTS PUNCTUATIONkRING OVER TWO RINGS PUNCTUATION
hRANGE CIRCLEnDIAMONDnSQUAREgPURPLE CIRCLEnSQUAREgRED CIRCLEkSQUAREgTRIPLE VERTICAL BAR OPERATOR
hWO DOTS OVER ONE DOT PUNCTUATIONkRINGS OVER ONE RING PUNCTUATIONgUP TACKgYELLOW CIRCLEnSQUARE
fR THANl OR EQUAL TOdI SIGNcST QUARTER MOONr SYMBOLsWITH FACEcTIN CAPITAL LETTER Aw WITH ACUTE
zTH BREVEzTH BREVE AND ACUTEzTH BREVE AND DOT BELOWzTH BREVE AND GRAVEzTH BREVE AND HOOK ABOVE
zTH BREVE AND TILDEzTH CARONzTH CIRCUMFLEXzTH CIRCUMFLEX AND ACUTEzTH CIRCUMFLEX AND DOT BELOW
zTH CIRCUMFLEX AND GRAVEzTH CIRCUMFLEX AND HOOK ABOVEzTH CIRCUMFLEX AND TILDEzTH DIAERESIS
zTH DIAERESIS AND MACRONzTH DOT ABOVEzTH DOT ABOVE AND MACRONzTH DOT BELOWzTH DOUBLE GRAVEzTH GRAVE
zTH HOOK ABOVEzTH INVERTED BREVEzTH MACRONzTH OGONEKzTH RING ABOVEzTH RING ABOVE AND ACUTE
zTH RING BELOWzTH STROKEzTH TILDEwAwEx WITH ACUTEzITH MACRONwFRICAN DwLPHAwNGLICANA WwOwUwV
x WITH HORIZONTAL BARwYvBw WITH DOT ABOVEzTH DOT BELOWzTH FLOURISHzTH HOOKzTH LINE BELOWzTH STROKE
zTH TOPBARwETAwROKEN LvCw WITH ACUTEzTH BARzTH CARONzTH CEDILLAzTH CEDILLA AND ACUTEzTH CIRCUMFLEX
zTH DOT ABOVEzTH HOOKzTH PALATAL HOOKzTH STROKEwHIwLOSED INSULAR GwONwUATRILLOzRILLO WITH COMMAvD
w WITH CARONzTH CEDILLAzTH CIRCUMFLEX BELOWzTH DOT ABOVEzTH DOT BELOWzTH HOOKzTH LINE BELOW
zTH SHORT STROKE OVERLAYzTH SMALL LETTER ZzTH SMALL LETTER Z WITH CARONzTH STROKEzTH TOPBARwZ
x WITH CARONvEw WITH ACUTEzTH BREVEzTH CARONzTH CEDILLAzTH CEDILLA AND BREVEzTH CIRCUMFLEX
zTH CIRCUMFLEX AND ACUTEzTH CIRCUMFLEX AND DOT BELOWzTH CIRCUMFLEX AND GRAVE
zTH CIRCUMFLEX AND HOOK ABOVEzTH CIRCUMFLEX AND TILDEzTH CIRCUMFLEX BELOWzTH DIAERESISzTH DOT ABOVE
zTH DOT BELOWzTH DOUBLE GRAVEzTH GRAVEzTH HOOK ABOVEzTH INVERTED BREVEzTH MACRONzTH MACRON AND ACUTE
zTH MACRON AND GRAVEzTH OGONEKzTH STROKEzTH TILDEzTH TILDE BELOWwGYPTOLOGICAL AINzTOLOGICAL ALEFwNG
wSHwTxHwZHy REVERSEDzWITH CARONvFw WITH DOT ABOVEzTH HOOKzTH STROKEvGw WITH ACUTEzTH BREVEzTH CARON
zTH CEDILLAzTH CIRCUMFLEXzTH DOT ABOVEzTH HOOKzTH MACRONzTH OBLIQUE STROKEzTH STROKEwAMMAwHA
wLOTTAL AzTAL IzTAL STOPzTAL UvHw WITH BREVE BELOWzTH CARONzTH CEDILLAzTH CIRCUMFLEXzTH DESCENDER
zTH DIAERESISzTH DOT ABOVEzTH DOT BELOWzTH HOOKzTH STROKEwALF HwENGwWAIRvIw WITH ACUTEzTH BREVE
zTH CARONzTH CIRCUMFLEXzTH DIAERESISzTH DIAERESIS AND ACUTEzTH DOT ABOVEzTH DOT BELOW
zTH DOUBLE GRAVEzTH GRAVEzTH HOOK ABOVEzTH INVERTED BREVEzTH MACRONzTH OGONEKzTH STROKEzTH TILDE
zTH TILDE BELOWwNSULAR DzLAR FzLAR GzLAR RzLAR SzLAR TwOTAwSvJw WITH CIRCUMFLEXzTH CROSSED-TAIL
zTH STROKEvKw WITH ACUTEzTH CARONzTH CEDILLAzTH DESCENDERzTH DIAGONAL STROKEzTH DOT BELOWzTH HOOK
zTH LINE BELOWzTH OBLIQUE STROKEzTH STROKEzTH STROKE AND DIAGONAL STROKEvLw WITH ACUTEzTH BAR
zTH BELTzTH CARONzTH CEDILLAzTH CIRCUMFLEX BELOWzTH DOT BELOWzTH DOT BELOW AND MACRONzTH DOUBLE BAR
zTH HIGH STROKEzTH LINE BELOWzTH MIDDLE DOTzTH MIDDLE TILDEzTH SMALL LETTER JzTH STROKEwJvM
w WITH ACUTEzTH DOT ABOVEzTH DOT BELOWzTH HOOKwIDDLE SCOTS SzLE-WELSH LLzLE-WELSH VvNw WITH ACUTE
zTH CARONzTH CEDILLAzTH CIRCUMFLEX BELOWzTH DESCENDERzTH DOT ABOVEzTH DOT BELOWzTH GRAVE
zTH LEFT HOOKzTH LINE BELOWzTH LONG RIGHT LEGzTH OBLIQUE STROKEzTH SMALL LETTER JzTH TILDEwJvO
w WITH ACUTEzTH BREVEzTH CARONzTH CIRCUMFLEXzTH CIRCUMFLEX AND ACUTEzTH CIRCUMFLEX AND DOT BELOW
zTH CIRCUMFLEX AND GRAVEzTH CIRCUMFLEX AND HOOK ABOVEzTH CIRCUMFLEX AND TILDEzTH DIAERESIS
zTH DIAERESIS AND MACRONzTH DOT ABOVEzTH DOT ABOVE AND MACRONzTH DOT BELOWzTH DOUBLE ACUTE
zTH DOUBLE GRAVEzTH GRAVEzTH HOOK ABOVEzTH HORNzTH HORN AND ACUTEzTH HORN AND DOT BELOW
zTH HORN AND GRAVEzTH HORN AND HOOK ABOVEzTH HORN AND TILDEzTH INVERTED BREVEzTH LONG STROKE OVERLAY
zTH LOOPzTH MACRONzTH MACRON AND ACUTEzTH MACRON AND GRAVEzTH MIDDLE TILDEzTH OGONEK
zTH OGONEK AND MACRONzTH STROKEzTH STROKE AND ACUTEzTH TILDEzTH TILDE AND ACUTE
zTH TILDE AND DIAERESISzTH TILDE AND MACRONwIwLD POLISH OwMEGAwOwPEN Ez OwUvPw WITH ACUTE
zTH DOT ABOVEzTH FLOURISHzTH HOOKzTH SQUIRREL TAILzTH STROKEzTH STROKE THROUGH DESCENDERvQ
w WITH DIAGONAL STROKEzTH STROKE THROUGH DESCENDERvRw ROTUNDAxWITH ACUTEzTH CARONzTH CEDILLA
zTH DOT ABOVEzTH DOT BELOWzTH DOT BELOW AND MACRONzTH DOUBLE GRAVEzTH INVERTED BREVEzTH LINE BELOW
zTH OBLIQUE STROKEzTH STROKEzTH TAILwEVERSED C WITH DOTzRSED EzRSED HALF HzRSED OPEN EwUM ROTUNDAvS
w WITH ACUTEzTH ACUTE AND DOT ABOVEzTH CARONzTH CARON AND DOT ABOVEzTH CEDILLAzTH CIRCUMFLEX
zTH COMMA BELOWzTH DOT ABOVEzTH DOT BELOWzTH DOT BELOW AND DOT ABOVEzTH HOOKzTH OBLIQUE STROKE
zTH SHORT STROKE OVERLAYzTH SWASH TAILwALTILLOwCHWAxRIPT GwHARP SwIGMOID SwMALL CAPITAL I
zL Q WITH HOOK TAILvTw WITH CARONzTH CEDILLAzTH CIRCUMFLEX BELOWzTH COMMA BELOWzTH DIAGONAL STROKE
zTH DOT ABOVEzTH DOT BELOWzTH HOOKzTH LINE BELOWzTH RETROFLEX HOOKzTH STROKEwHORNzN WITH STROKE
zN WITH STROKE THROUGH DESCENDERwONE FIVEz SIXz TWOwRESILLOwURNED AzED ALPHAzED HzED INSULAR GzED K
zED LzED MzED TzED VwZvUw BARxWITH ACUTEzTH BREVEzTH CARONzTH CIRCUMFLEXzTH CIRCUMFLEX BELOW
zTH DIAERESISzTH DIAERESIS AND ACUTEzTH DIAERESIS AND CARONzTH DIAERESIS AND GRAVE
zTH DIAERESIS AND MACRONzTH DIAERESIS BELOWzTH DOT BELOWzTH DOUBLE ACUTEzTH DOUBLE GRAVEzTH GRAVE
zTH HOOK ABOVEzTH HORNzTH HORN AND ACUTEzTH HORN AND DOT BELOWzTH HORN AND GRAVE
zTH HORN AND HOOK ABOVEzTH HORN AND TILDEzTH INVERTED BREVEzTH MACRONzTH MACRON AND DIAERESIS
zTH OGONEKzTH RING ABOVEzTH STROKEzTH TILDEzTH TILDE AND ACUTEzTH TILDE BELOWwPSILONvV
w WITH DIAGONAL STROKEzTH DOT BELOWzTH HOOKzTH TILDEwENDwISIGOTHIC ZwOLAPUK AEzPUK OEzPUK UEwYvW
w WITH ACUTEzTH CIRCUMFLEXzTH DIAERESISzTH DOT ABOVEzTH DOT BELOWzTH GRAVEzTH HOOKwYNNvX
w WITH DIAERESISzTH DOT ABOVEvYw WITH ACUTEzTH CIRCUMFLEXzTH DIAERESISzTH DOT ABOVEzTH DOT BELOW
zTH GRAVEzTH HOOKzTH HOOK ABOVEzTH LOOPzTH MACRONzTH STROKEzTH TILDEwOGHvZw WITH ACUTEzTH CARON
zTH CIRCUMFLEXzTH DESCENDERzTH DOT ABOVEzTH DOT BELOWzTH HOOKzTH LINE BELOWzTH PALATAL HOOK
zTH STROKEzTH SWASH TAILpIGATURE IJxOEhROSSgEPIGRAPHIC LETTER ARCHAIC MyI LONGAzNVERTED MyREVERSED F
zEVERSED PySIDEWAYS IgLETTER AINoLVEOLAR CLICKnBIDENTAL PERCUSSIVEpLABIAL CLICKwPERCUSSIVE
nDENTAL CLICKnGLOTTAL STOPz WITH STROKEnINVERTED GLOTTAL STOPzTTAL STOP WITH CURL
zTTAL STOP WITH STROKEnLATERAL CLICKnPHARYNGEAL VOICED FRICATIVEnRETROFLEX CLICK
zICK WITH RETROFLEX HOOKpVERSED ESH LOOPwGLOTTAL STOP WITH STROKEnSINOLOGICAL DOToMALL CAPITAL A
zL AEzL BzL BARRED BzL CzL DzL EzL ETHzL EZHzL FzL GzL G WITH HOOKzL HzL IzL INVERTED RzL JzL KzL L
zL L WITH BELTzL L WITH STROKEzL MzL NzL OzL OEzL OPEN OzL OUzL PzL QzL RzL R WITH RIGHT LEG
zL REVERSED NzL REVERSED RzL RUMzL SzL TzL TURNED EzL TURNED GzL TURNED KzL TURNED MzL TURNED RzL U
zL VzL WzL YzL ZoTRETCHED Cy WITH CURLnTWO WITH STROKEnVOICED LARYNGEAL SPIRANTnWYNNnYR
gSMALL CAPITAL LETTER I WITH STROKEzR U WITH STROKEmLETTER Au REVERSED-SCHWAvWITH ACUTEz BREVE
z BREVE AND ACUTEz BREVE AND DOT BELOWz BREVE AND GRAVEz BREVE AND HOOK ABOVEz BREVE AND TILDE
z CARONz CIRCUMFLEXz CIRCUMFLEX AND ACUTEz CIRCUMFLEX AND DOT BELOWz CIRCUMFLEX AND GRAVE
z CIRCUMFLEX AND HOOK ABOVEz CIRCUMFLEX AND TILDEz DIAERESISz DIAERESIS AND MACRONz DOT ABOVE
z DOT ABOVE AND MACRONz DOT BELOWz DOUBLE GRAVEz GRAVEz HOOK ABOVEz INVERTED BREVEz MACRONz OGONEK
z RETROFLEX HOOKz RIGHT HALF RINGz RING ABOVEz RING ABOVE AND ACUTEz RING BELOWz STROKEz TILDEuAuE
v WITH ACUTEzH MACRONuLPHAy WITH RETROFLEX HOOKuNGLICANA WuOuUuVv WITH HORIZONTAL BARuYtB
u WITH DOT ABOVEz DOT BELOWz FLOURISHz HOOKz LINE BELOWz MIDDLE TILDEz PALATAL HOOKz STROKEz TOPBAR
uARRED ALPHAz Ez OvSELINE ESHuETAuLACKLETTER EzETTER OzETTER O WITH STROKEuOTTOM HALF OuROKEN LtC
u WITH ACUTEz BARz CARONz CEDILLAz CEDILLA AND ACUTEz CIRCUMFLEXz CURLz DOT ABOVEz HOOK
z PALATAL HOOKz RETROFLEX HOOKz STROKEuHIw WITH LOW LEFT SERIFzTH LOW RIGHT RINGuLOSED INSULAR G
z OMEGAz OPEN Ez REVERSED OPEN EuONuUATRILLOzLLO WITH COMMAtDu WITH CARONz CEDILLAz CIRCUMFLEX BELOW
z CURLz DOT ABOVEz DOT BELOWz HOOKz HOOK AND TAILz LINE BELOWz MIDDLE TILDEz PALATAL HOOK
z SHORT STROKE OVERLAYz STROKEz TAILz TOPBARuB DIGRAPHuELTAvZH DIGRAPHzIGRAPH WITH PALATAL HOOK
zIGRAPH WITH RETROFLEX HOOKuOTLESS IzS JzS J WITH STROKEzS J WITH STROKE AND HOOKvUBLE R
z R WITH CROSSED-TAILz THORNz WYNNuUMuZv DIGRAPHzRAPH WITH CURLzRAPH WITH RETROFLEX HOOKwWITH CARON
tEu WITH ACUTEz BREVEz CARONz CEDILLAz CEDILLA AND BREVEz CIRCUMFLEXz CIRCUMFLEX AND ACUTE
z CIRCUMFLEX AND DOT BELOWz CIRCUMFLEX AND GRAVEz CIRCUMFLEX AND HOOK ABOVEz CIRCUMFLEX AND TILDE
z CIRCUMFLEX BELOWz DIAERESISz DOT ABOVEz DOT BELOWz DOUBLE GRAVEz FLOURISHz GRAVEz HOOK ABOVE
z INVERTED BREVEz MACRONz MACRON AND ACUTEz MACRON AND GRAVEz NOTCHz OGONEKz RETROFLEX HOOKz STROKE
z TILDEz TILDE BELOWuGYPTOLOGICAL AINzLOGICAL ALEFuNGw WITH CROSSED-TAILzTH PALATAL HOOKuSH
w WITH CURLzTH DOUBLE BARzTH DOUBLE BAR AND CURLzTH PALATAL HOOKzTH RETROFLEX HOOKuTvHuZHw REVERSED
xWITH CARONzTH CURLzTH PALATAL HOOKzTH RETROFLEX HOOKzTH TAILtFu WITH DOT ABOVEz HOOKz MIDDLE TILDE
z PALATAL HOOKz STROKEuENG DIGRAPHzIGRAPH WITH TRILLtGu WITH ACUTEz BREVEz CARONz CEDILLA
z CIRCUMFLEXz DOT ABOVEz HOOKz MACRONz OBLIQUE STROKEz PALATAL HOOKz STROKEuAMMAuHAuLOTTAL AzL I
zL STOPzL UtHu WITH BREVE BELOWz CARONz CEDILLAz CIRCUMFLEXz DESCENDERz DIAERESISz DOT ABOVE
z DOT BELOWz HOOKz LINE BELOWz PALATAL HOOKz STROKEuALF HuENGx WITH HOOKuVtIu WITH ACUTEz BREVE
z CARONz CIRCUMFLEXz DIAERESISz DIAERESIS AND ACUTEz DOT BELOWz DOUBLE GRAVEz GRAVEz HOOK ABOVE
z INVERTED BREVEz MACRONz OGONEKz RETROFLEX HOOKz STROKEz STROKE AND RETROFLEX HOOKz TILDE
z TILDE BELOWuNSULAR DzR FzR GzR RzR SzR TvVERTED ALPHAzED OEuOTAx WITH STROKEwIFIED EuStJ
u WITH CARONz CIRCUMFLEXz CROSSED-TAILz STROKEtKu WITH ACUTEz CARONz CEDILLAz DESCENDER
z DIAGONAL STROKEz DOT BELOWz HOOKz LINE BELOWz OBLIQUE STROKEz PALATAL HOOKz STROKE
z STROKE AND DIAGONAL STROKEuRAtLu WITH ACUTEz BARz BELTz BELT AND PALATAL HOOKz CARONz CEDILLA
z CIRCUMFLEX BELOWz CURLz DOT BELOWz DOT BELOW AND MACRONz DOUBLE BARz DOUBLE MIDDLE TILDEz FISHHOOK
z HIGH STROKEz INVERTED LAZY Sz LINE BELOWz MIDDLE DOTz MIDDLE RINGz MIDDLE TILDEz PALATAL HOOK
z RETROFLEX HOOKz RETROFLEX HOOK AND BELTz STROKEuAMBDA WITH STROKEuENIS FvZHx WITH RETROFLEX HOOKuJ
uONG Sz WITH DIAGONAL STROKEz WITH DOT ABOVEz WITH HIGH STROKEuS DIGRAPHuUMuZ DIGRAPHtMu WITH ACUTE
z CROSSED-TAILz DOT ABOVEz DOT BELOWz HOOKz MIDDLE TILDEz PALATAL HOOKuIDDLE SCOTS Sz-WELSH LL
z-WELSH VuUMtNu PRECEDED BY APOSTROPHEvWITH ACUTEz CARONz CEDILLAz CIRCUMFLEX BELOWz CROSSED-TAIL
z CURLz DESCENDERz DOT ABOVEz DOT BELOWz GRAVEz LEFT HOOKz LINE BELOWz LONG RIGHT LEGz MIDDLE TILDE
z OBLIQUE STROKEz PALATAL HOOKz RETROFLEX HOOKz TILDEuJuUMtOu WITH ACUTEz BREVEz CARONz CIRCUMFLEX
z CIRCUMFLEX AND ACUTEz CIRCUMFLEX AND DOT BELOWz CIRCUMFLEX AND GRAVEz CIRCUMFLEX AND HOOK ABOVE
z CIRCUMFLEX AND TILDEz DIAERESISz DIAERESIS AND MACRONz DOT ABOVEz DOT ABOVE AND MACRONz DOT BELOW
z DOUBLE ACUTEz DOUBLE GRAVEz GRAVEz HOOK ABOVEz HORNz HORN AND ACUTEz HORN AND DOT BELOW
z HORN AND GRAVEz HORN AND HOOK ABOVEz HORN AND TILDEz INVERTED BREVEz LONG STROKE OVERLAYz LOOP
z LOW RING INSIDEz MACRONz MACRON AND ACUTEz MACRON AND GRAVEz OGONEKz OGONEK AND MACRON
z RETROFLEX HOOKz STROKEz STROKE AND ACUTEz TILDEz TILDE AND ACUTEz TILDE AND DIAERESIS
z TILDE AND MACRONuIuLD POLISH OuMEGAuOuPEN Ez WITH RETROFLEX HOOKyOz WITH RETROFLEX HOOK
z WITH STROKEzEuUtPu WITH ACUTEz DOT ABOVEz FLOURISHz HOOKz MIDDLE TILDEz PALATAL HOOK
z SQUIRREL TAILz STROKEz STROKE THROUGH DESCENDERuHItQu WITH DIAGONAL STROKEz HOOKz HOOK TAIL
z STROKE THROUGH DESCENDERuP DIGRAPHtRu ROTUNDAvWITH ACUTEz CARONz CEDILLAz CROSSED-TAILz DOT ABOVE
z DOT BELOWz DOT BELOW AND MACRONz DOUBLE GRAVEz FISHHOOKz FISHHOOK AND MIDDLE TILDE
z FISHHOOK AND PALATAL HOOKz INVERTED BREVEz LINE BELOWz LONG LEGz MIDDLE TILDEz OBLIQUE STROKE
z PALATAL HOOKz STROKEz TAILzOUT HANDLEuAMS HORNuEVERSED CzED C WITH DOTzED EzED ENGzED HALF HzED K
zED OPEN EzED OPEN E WITH HOOKzED OPEN E WITH RETROFLEX HOOKzED R WITH FISHHOOKzED SCRIPT GuUM
w ROTUNDAtSu WITH ACUTEz ACUTE AND DOT ABOVEz CARONz CARON AND DOT ABOVEz CEDILLAz CIRCUMFLEX
z COMMA BELOWz CURLz DOT ABOVEz DOT BELOWz DOT BELOW AND DOT ABOVEz HOOKz MIDDLE TILDE
z OBLIQUE STROKEz PALATAL HOOKz SHORT STROKE OVERLAYz SWASH TAILuAKHA YATvLTILLOuCHWAy WITH HOOK
zWITH RETROFLEX HOOKvRIPT Gz G WITH CROSSED-TAILz Rz R WITH RINGuHARP SuIDEWAYS DIAERESIZED UzYS O
zYS O WITH STROKEzYS OPEN OzYS TURNED MzYS UvGMOID SuQUAT REVERSED ESHuTIRRUP RtTu WITH CARON
z CEDILLAz CIRCUMFLEX BELOWz COMMA BELOWz CURLz DIAERESISz DIAGONAL STROKEz DOT ABOVEz DOT BELOW
z HOOKz HOOK AND RETROFLEX HOOKz LINE BELOWz MIDDLE TILDEz PALATAL HOOKz RETROFLEX HOOKz STROKE
uAILLESS PHIuC DIGRAPH WITH CURLuESH DIGRAPHzIGRAPH WITH PALATAL HOOKzIGRAPH WITH RETROFLEX HOOK
uH WITH STRIKETHROUGHvORNy WITH STROKEzWITH STROKE THROUGH DESCENDERuONE FIVEySIXyTWOvP HALF O
uRESILLOuS DIGRAPHzRAPH WITH RETROFLEX HOOKuUMvRNED Az AEz ALPHAz DELTAz Ez Gz Hz H WITH FISHHOOK
z H WITH FISHHOOK AND TAILz Iz INSULAR Gz Kz Lz Mz M WITH LONG LEGz O OPEN-Oz O OPEN-O WITH STROKE
z OEz OE WITH HORIZONTAL STROKEz OE WITH STROKEz OPEN Ez Rz R WITH HOOKz R WITH LONG LEG
z R WITH LONG LEG AND RETROFLEX HOOKz R WITH MIDDLE TILDEz R WITH PALATAL HOOKz R WITH TAILz T
z T WITH CURLz UIz Vz Wz Yz Y WITH BELTuZtUu BARy WITH SHORT RIGHT LEGvWITH ACUTEz BREVEz CARON
z CIRCUMFLEXz CIRCUMFLEX BELOWz DIAERESISz DIAERESIS AND ACUTEz DIAERESIS AND CARON
z DIAERESIS AND GRAVEz DIAERESIS AND MACRONz DIAERESIS BELOWz DOT BELOWz DOUBLE ACUTEz DOUBLE GRAVE
z GRAVEz HOOK ABOVEz HORNz HORN AND ACUTEz HORN AND DOT BELOWz HORN AND GRAVEz HORN AND HOOK ABOVE
z HORN AND TILDEz INVERTED BREVEz LEFT HOOKz MACRONz MACRON AND DIAERESISz OGONEKz RETROFLEX HOOK
z RING ABOVEz SHORT RIGHT LEGz STROKEz TILDEz TILDE AND ACUTEz TILDE BELOWuEuIuMuOuPSILON
zN WITH STROKEtVu WITH CURLz DIAGONAL STROKEz DOT BELOWz HOOKz PALATAL HOOKz RIGHT HOOKz TILDEuEND
uISIGOTHIC ZuOLAPUK AEzK OEzK UEuYtWu WITH ACUTEz CIRCUMFLEXz DIAERESISz DOT ABOVEz DOT BELOWz GRAVE
z HOOKz RING ABOVEtXu WITH DIAERESISz DOT ABOVEz LONG LEFT LEGz LONG LEFT LEG AND LOW RIGHT RING
z LONG LEFT LEG WITH SERIFz LOW RIGHT RINGz PALATAL HOOKtYu WITH ACUTEz CIRCUMFLEXz DIAERESIS
z DOT ABOVEz DOT BELOWz GRAVEz HOOKz HOOK ABOVEz LOOPz MACRONz RING ABOVEz SHORT RIGHT LEGz STROKE
z TILDEuOGHtZu WITH ACUTEz CARONz CIRCUMFLEXz CURLz DESCENDERz DOT ABOVEz DOT BELOWz HOOK
z LINE BELOWz MIDDLE TILDEz PALATAL HOOKz RETROFLEX HOOKz STROKEz SWASH TAILnIGATURE FFxIxLwIwLvIJ
vLONG S TvOEvSThUBSCRIPT SMALL LETTER AzTER EzTER HzTER IzTER JzTER KzTER LzTER MzTER NzTER OzTER P
zTER RzTER SzTER SCHWAzTER TzTER UzTER VzTER XbEAF FLUTTERING IN WINDeY GREENcDGER
cFT AND LOWER AND RIGHT TRIANGULAR THREE QUARTERS BLOCKpONE EIGHTH BLOCKjRIGHT DOUBLE TURNSTILEpTACK
qRIANGULAR HALF BLOCKjUPPER AND RIGHT TRIANGULAR THREE QUARTERS BLOCKpONE EIGHTH BLOCKhGER BUBBLE
iLE BRACKETs WITH DOTgRC LESS-THAN BRACKEThROW WITH CIRCLED PLUSqSMALL CIRCLE
fBARB DOWN RIGHT BARB DOWN HARPOONz UP HARPOONkUP RIGHT BARB DOWN HARPOONyUP HARPOON
gLACK LENTICULAR BRACKETlTORTOISE SHELL BRACKETfCEILINGgLOSED ENTRYgORNER BRACKETgURLY BRACKET
s LOWER HOOKtMIDDLE PIECEtUPPER HOOKfDOTTED SUBSTITUTION BRACKEThUBLE ANGLE BRACKETmPARENTHESIS
mQUOTATION MARKmWIGGLY FENCEfFISH TAILhVE EIGHTHS BLOCKgLOORfHALF BLACK CIRCLEqSTARmOCKkCIRCLE
q WITH DOTwFOUR DOTSwTHREE DOTSxWO DOTSkFOLDERkINVERSE MEDIUM SHADE AND RIGHT HALF BLOCK
kMEDIUM SHADEkRUNNING MANhND TELEPHONE RECEIVERfLOW PARAPHRASE BRACKETgUGGAGEfMULTIMAP
fNORMAL FACTOR SEMIDIRECT PRODUCTfONE EIGHTH BLOCKjQUARTER BLOCKgUTER JOINfPARENTHESISq EXTENSION
rLOWER HOOKrUPPER HOOKfRAISED OMISSION BRACKETgIGHT ARROWq THROUGH SMALL CIRCLE
rWITH DOUBLE VERTICAL STROKEwSTROKEwVERTICAL STROKElBLACK ARROWlDOUBLE ARROWx WITH STROKE
zITH VERTICAL STROKElOPEN-HEADED ARROWlSANS-SERIF ARROWlTRIANGLE-HEADED ARROWlWAVE ARROWmHITE ARROW
fS-SHAPED BAG DELIMITERgEMIDIRECT PRODUCThVEN EIGHTHS BLOCKgIDEWAYS U BRACKEThNGLE QUOTATION MARK
gPEECH BUBBLEgQUARE BRACKETt EXTENSIONuLOWER CORNERuUPPER CORNERuWITH DOUBLE STROKEzQUILLzSTROKE
zTICK IN BOTTOM CORNERzTICK IN TOP CORNERzUNDERBARgUBSTITUTION BRACKETfTACK
gHIRD WHITE RIGHT POINTING INDEXhOUGHT BUBBLEhREE EIGHTHS BLOCKlQUARTERS BLOCKgORTOISE SHELL BRACKET
gRANSPOSITION BRACKEThIANGLE BESIDE VERTICAL BARlULAR ONE QUARTER BLOCKfVERTICAL BAR WITH QUILL
pOX LINEfWHITE CORNER BRACKETmURLY BRACKETlLENTICULAR BRACKETlPARENTHESISlSQUARE BRACKET
lTORTOISE SHELL BRACKETgIGGLY FENCEgRITING HANDe-FACING ARMENIAN ETERNITY SIGNmFISTmSVASTI SIGN
x WITH DOTSfHANDED INTERLACED PENTAGRAMfPOINTING ANGLE BRACKEToCURVED ANGLE BRACKET
oDOUBLE ANGLE QUOTATION MARKoMAGNIFYING GLASSfSHADED WHITE RIGHTWARDS ARROW
gIDE ARC ANTICLOCKWISE ARROWfTO-RIGHT EMBEDDINGoISOLATEoMARKoOVERRIDEeWARDS ARROW
p ABOVE ALMOST EQUAL TOwREVERSE ALMOST EQUAL TOzERSE TILDE OPERATORwSHORT RIGHTWARDS ARROW
wTILDE OPERATORrND UPPER AND LOWER ONE EIGHTH BLOCKqFROM BARy TO BLACK DIAMONDqOVER RIGHTWARDS ARROW
qTHROUGH LESS-THANySUBSETyXrO BARw OVER RIGHTWARDS ARROW TO BARuLACK DIAMONDqWITH DOTTED STEM
xUBLE VERTICAL STROKEvEQUILATERAL ARROWHEADvHOOKvLARGE TRIANGLE ARROWHEADwOOP
vMEDIUM TRIANGLE ARROWHEADvNOTCHED TAILvPLUS BELOWvSMALL EQUILATERAL ARROWHEADzL TRIANGLE ARROWHEAD
wTROKEvTAILz WITH DOUBLE VERTICAL STROKEz WITH VERTICAL STROKEwIP DOWNWARDSzUPWARDSvVERTICAL STROKE
p-TAILkBACK-TILTED SHADOWED WHITE ARROWlLACK ARROWqCIRCLED WHITE ARROWlOTTOM-SHADED WHITE ARROW
kCOMPRESSED ARROWkDASHED ARROWlOUBLE ARROWw FROM BARxWITH STROKEzTH VERTICAL STROKEw-TAILrDASH ARROW
kFINGER-POST ARROWlRONT-TILTED SHADOWED WHITE ARROWkHANDmRPOON OVER RIGHTWARDS HARPOON
sWITH BARB DOWN ABOVE RIGHTWARDS HARPOON WITH BARB DOWNzRB DOWN BELOW LONG DASHzRB DOWN FROM BAR
zRB DOWN TO BARzRB DOWNWARDSzRB UP ABOVE LEFTWARDS HARPOON WITH BARB DOWNzRB UP ABOVE LONG DASH
zRB UP ABOVE RIGHTWARDS HARPOON WITH BARB UPzRB UP FROM BARzRB UP TO BARzRB UPWARDSlEAVY ARROW
qCOMPRESSED ARROWkLEFT-SHADED WHITE ARROWkOPEN-HEADED ARROWkPAIRED ARROWSkQUADRUPLE ARROW
kRIGHT-SHADED WHITE ARROWlOCKETkSANS-SERIF ARROWlQUARED ARROWnIGGLE ARROWkTOP SHADED WHITE ARROW
lRIANGLE ARROWHEADs-HEADED ARROWz ARROW OVER RIGHTWARDS TRIANGLE-HEADED ARROWz ARROW TO BAR
z ARROW WITH BOLD SHAFTz ARROW WITH DOUBLE HORIZONTAL STROKEz ARROW WITH DOUBLE VERTICAL STROKE
z ARROW WITH HEAVY SHAFTz ARROW WITH LONG TIP DOWNWARDSz ARROW WITH LONG TIP UPWARDS
z ARROW WITH MEDIUM SHAFTz ARROW WITH NARROW SHAFTz ARROW WITH VERY HEAVY SHAFTz DASHED ARROW
z PAIRED ARROWSnPLE ARROWrDASH ARROWlWO HEADED ARROWn-HEADED ARROW FROM BAR
zW WITH DOUBLE VERTICAL STROKEzW WITH TAILzW WITH TAIL WITH DOUBLE VERTICAL STROKE
zW WITH TAIL WITH VERTICAL STROKEzW WITH TRIANGLE ARROWHEADSzW WITH VERTICAL STROKE
vTRIPLE DASH ARROWkWAVE ARROWlHITE ARROWv WITHIN TRIANGLE ARROWHEADcGcMONcOdPARD
cPCHA CONSONANT SIGN KxANGwLwMwNxYIN-DOwPwRwThDIGIT EIGHTnFIVEoOURnNINEnONEnSEVENoIXnTHREEoWOnZERO
hLETTER AoBApLAoCApHAoDApDApZAoFApLAoGApLAoHApLAoJAoKApHApLAoLAoMApLAoNApGApYAoPApHApLAoRAoSApHAoTA
pHApSAqHApTAqHAoVAoWAoYAhPUNCTUATION CER-WAtNYET THYOOM TA-ROLtTA-ROLuSHOOKz CER-WAhSIGN NUKTAmRAN
iUBJOINED LETTER RAyYAhVOWEL SIGN AAsEsIsOtOsUtUcSS-THAN ABOVE DOUBLE-LINE EQUAL ABOVE GREATER-THAN
qGREATER-THAN ABOVE DOUBLE-LINE EQUALqLEFTWARDS ARROWqSIMILAR ABOVE GREATER-THANyOR EQUAL
rLANTED EQUAL ABOVE GREATER-THAN ABOVE SLANTED EQUALlND NOT APPROXIMATEoSINGLE-LINE NOT EQUAL TO
kBUT NOT EQUAL TOvIVALENT TOkCLOSED BY CURVEz ABOVE SLANTED EQUALkEQUAL TO OR GREATER-THAN
kOR APPROXIMATEnEQUAL TOqIVALENT TOnGREATER-THANnSLANTED EQUAL TOzL TO WITH DOT ABOVE
zL TO WITH DOT ABOVE RIGHTzL TO WITH DOT INSIDElVER EQUAL TOkSIGNkWITH CIRCLE INSIDEpDOT
pQUESTION MARK ABOVEcVEL SLIDERbFbIBRAcGATURE OPEN ET ORNAMENTdHT CHECK MARKgEIGHT SPOKED ASTERISK
gFIVE POINTED BLACK STARlSPOKED ASTERISKhOUR POINTED BLACK CUSPzSTARgGREEK CROSS
gLEFT TORTOISE SHELL BRACKET ORNAMENTgRAILhIGHT TORTOISE SHELL BRACKET ORNAMENTgSALTIREhHADE
hIX SPOKED ASTERISKgTHREE POINTED BLACK STARhWELVE POINTED BLACK STARgVERTICAL BARgWHITE SQUAREfNING
j MOODo BUBBLEcMBU DIGIT EIGHTmFIVEnOURmNINEmONEmSEVENnIXmTHREEnWOmZEROgEXCLAMATION MARKgLETTER BA
oHAnCAoHAnDAoHAnGAoHAoYANnHAnJAoHAnKAoHAnLAnMAnNAoGAnPAoHAnRAnSAoHAoSAnTAoHAoRAnWAnYApN
gQUESTION MARKgSIGN KEMPHRENGlLOOlMUKPHRENGlSA-IhMALL LETTER ANUSVARAtKAtLAtMAtNAuGAtPAtRAtTA
hUBJOINED LETTER RAxWAxYAgVOWEL SIGN AsIsUrEsErIrOsOrUl-CARRIER LETTERdITED LIABILITY SIGNcNE FEED
fINTEGRATION NOT INCLUDING THE POLErWITH RECTANGULAR PATH AROUND POLEwSEMICIRCULAR PATH AROUND POLE
fSEPARATORfTABULATIONp SETeAR A SIGN A028Bp100-102q20Bq31Cp301r2r3r4r5r6r7r8r9AsBsCq10r1r2r3AsBsCr4
r5r6r7r8r9q20r1r2r3r4r5r6r7r8r9q30r1r2r3r4r5r6r7r8r9q40r1r2r3r4r5r6r7r8r9q50r1r2r3r4r5r6r7r8r9q60r1
r2r3r4r5r6r7r8r9q70r1p400-VASr1-VASr2-VASr3-VASr4-VASr5-VASr6-VASr7-VASr8-VASr9-VASq10-VASr1-VAS
r2-VASr3-VASr4-VASr5-VASr6-VASr7-VASr8-VASp501r2r3r4r5r6r8r9q10r1r2r3r5r6q20r1r3r4r5r6r7r8r9q30r1r2
r4r5r6r7r8r9q40r1r2r5r7r8r9q50r1r2r3r4r5r6r7r9q63r4r5r6r8r9q70r1r2r3r4r5r6r7r8r9q80r1r2r3r4r5r6r7r8
r9q91r2r4r5r6r8p600r1r2r3r4r6r8r9q10r1r2r3r4r5r6r7r8r9q20r1r2r3r4r6r7r8r9q34r7r8q40r2r3r4r5r6r8r9q51
r2r3r4r5r6r7r8r9q60r1r2r3r4p701 Ar2 Br3 Dr4 Er5 Fr6 Hr7 Jr8 Kr9 Ls-2 L2t3 L3t4 L4t6 L6q10 Wr1 Xr2 Y
r3 OMEGAr4 ABBr5 BBr7 DDq26 EYYYq32 JEp800r1r2r3r4r5r6r7pB001s2s3s4s5s6s7s8s9r10s1s3s6s7r20s1tFtMs2
tFtMs3tMs4s6s7s8s9r30s1s4s7s8s9r40s1s4s5s6s7s8s9r50s1s3s4s5s6s7s8s9r60s1s5s6s7s9r70s3s4s6s7s8s9r80s1
s2s5s6s7q118r20s2s3r31AtBr64r71r80s8r91hB IDEOGRAM B100 MANv2 WOMANv4 DEERv5 EQUIDwF MAREwM STALLION
v6F EWEwM RAMv7F SHE-GOATwM HE-GOATv8F SOWwM BOARv9F COWwM BULLu20 WHEATv1 BARLEYv2 OLIVEv3 SPICE
v5 CYPERUSu30 OILv1 WINEv2u40 BRONZEv1 GOLDv2v5 WOOLv6u50v1 HORNv2v3v4v7v8v9 CLOTHu60v1v2 GARMENT
v3 ARMOURv4v5v6v7v8v9u70v1v2v3 MONTHv4v6 TREEv7v8v9u80v1v2v3v4v5v9u90v1 HELMETt220 FOOTSTOOL
v5 BATHTUBu30 SPEARv1 ARROWv2v3 SWORDv4v6u40 WHEELED CHARIOTv1 CHARIOTv2 CHARIOT FRAMEv3 WHEELv5v6v8
v9u51v2v3v4 DARTv5v6v7v8v9sVESSEL B155zB200zB201zB202zB203zB204zB205zB206zB207zB208zB209zB210zB211
zB212zB213zB214zB215zB216zB217zB218zB219zB221zB222zB226zB227zB228zB229zB250zB305jMONOGRAM B127 KAPO
v8 KANAKOu33 AREPAv5 MERIu56 TURO2t247 DIPTEjSYLLABLE B001 DAv2 ROv3 PAv4 TEv5 TOv6 NAv7 DIv8 Av9 SE
u10 Uv1 POv2 SOv3 MEv4 DOv5 MOv6 QAv7 ZAu20 ZOv1 QIv3 MUv4 NEv5 A2v6 RUv7 REv8 Iv9 PU2u30 NIv1 SA
v2 QOv3 RA3v6 JOv7 TIv8 Ev9 PIu40 WIv1 SIv2 WOv3 A3v4 KEv5 DEv6 JEv8 NWAu50 PUv1 DUv2 NOv3 RIv4 WA
v5 NUv7 JAv8 SUv9 TAu60 RAv1 Ov2 PTEv5 JUv6 TA2v7 KIv8 RO2v9 TUu70 KOv1 DWEv2 PEv3 MIv4 ZEv5 WE
v6 RA2v7 KAv8 QEu80 MAv1 KUv5 AUv7 TWEu90 DWOv1 TWOlMBOL B018t9s22s34s47t9s56s63t4s79s82t3t6t9
dK SYMBOLeED PAPERCLIPScON FACEcPSeTICKcRA SIGNcSU LETTER AnEmBAmCAnHAmDAnZAmEnUmFAmGAnHAmHAnHAmImJA
mKAnHAmLAmMAmNAnGAmOnEmPAnHAmSAnHAmTAnHAnONE MYA BOvCYAvJEUvNAvTIrNA POnSAoHAmUnEnHmWAmXAmYAnHAmZA
nHAfPUNCTUATION COMMArFULL STOPcVRE TOURNOIS SIGNcZARDbLAMAbOBSTERcCKe WITH INK PENeING-SHIFT ONE
oZEROcGICAL ANDl WITH DOT ABOVEtUBLE OVERBARyUNDERBARrHORIZONTAL DASHrMIDDLE STEMrUNDERBARiOR
k OVERLAPPING LOGICAL ANDlWITH DOT ABOVEsUBLE OVERBARxUNDERBARqHORIZONTAL DASHqMIDDLE STEMcLLIPOP
cNG DASH FROM LEFT MEMBER OF DOUBLE VERTICALgIVISIONgRUMfLEFT RIGHT ARROWqDOUBLE ARROWkTACK
jWARDS ARROWu FROM BARpDOUBLE ARROWzOW FROM BARpSQUIGGLE ARROWfRIGHT TACKkWARDS ARROWv FROM BAR
qDOUBLE ARROWzROW FROM BARqSQUIGGLE ARROWcTION BOTTLEdUScUDLY CRYING FACEcVE HOTELfLETTERcW ASTERISK
eBATTERYfRIGHTNESS SYMBOLeDOUBLE PRIME QUOTATION MARKeKAVYKAk WITH DOTeLINEdER BLADE SCISSORS
gFIVE EIGHTHS BLOCKgHALF BLOCKlCIRCLElINVERSE WHITE CIRCLElMEDIUM SHADEgLEFT BALLPOINT PEN
mLOCK DIAGONAL LOWER MIDDLE LEFT TO LOWER CENTREz LOWER MIDDLE LEFT TO LOWER RIGHT
z UPPER CENTRE TO LOWER MIDDLE RIGHTz UPPER CENTRE TO LOWER RIGHT
z UPPER CENTRE TO UPPER MIDDLE RIGHTz UPPER LEFT TO LOWER CENTREz UPPER LEFT TO LOWER MIDDLE RIGHT
z UPPER LEFT TO UPPER MIDDLE RIGHTz UPPER MIDDLE LEFT TO LOWER CENTRE
z UPPER MIDDLE LEFT TO LOWER MIDDLE RIGHTz UPPER MIDDLE LEFT TO LOWER RIGHTlCRAYONlFOUNTAIN PEN
lPAINTBRUSHmENCILlQUADRANT CIRCULAR ARClSEMICIRCULAR ANTICLOCKWISE ARROWlTRIANGLErULAR MEDIUM SHADE
gONE EIGHTH BLOCKkQUARTER BLOCKgRIGHT BLOCK DIAGONAL LOWER CENTRE TO LOWER MIDDLE RIGHT
zL LOWER CENTRE TO UPPER MIDDLE RIGHTzL LOWER CENTRE TO UPPER RIGHT
zL LOWER LEFT TO LOWER MIDDLE RIGHTzL LOWER LEFT TO UPPER CENTREzL LOWER LEFT TO UPPER MIDDLE RIGHT
zL LOWER MIDDLE LEFT TO UPPER CENTREzL LOWER MIDDLE LEFT TO UPPER MIDDLE RIGHT
zL LOWER MIDDLE LEFT TO UPPER RIGHTzL UPPER MIDDLE LEFT TO UPPER CENTRE
zL UPPER MIDDLE LEFT TO UPPER RIGHTmCORNER WITH DOTmDROP-SHADOWED WHITE SQUAREmPENCIL
mQUADRANT CIRCULAR ARCmSEMICIRCULAR CLOCKWISE ARROWnHADOWED WHITE CIRCLEzE SQUAREmTRIANGLE
sULAR MEDIUM SHADEgSEVEN EIGHTHS BLOCKgTHREE EIGHTHS BLOCKmQUARTERS BLOCK
hRIANGULAR ONE QUARTER BLOCKcZENGEh DIVIDED BY HORIZONTAL RULEbREcIcMcObUGGAGEcNGSbYCIAN LETTER ApN
oBpHoDoEpNoGoHoIoJoKpKoLoMpMoNpNoPoQoRoSoTpHpToUoWoXoZcDIAN LETTER ApNoBoCoDoEpNoFoGoIoKoLpYoMoNpNoO
oQoRoSpSoTpToUoVoYhTRIANGULAR MARKcING FACEaMACRONcGEdIC WANDdNETcHAJANI ABBREVIATION SIGNjLETTER A
qBArHAqCArHAqDArDAsHArHAqEqGArHAqHAqIqJArHAqKArHAqLAqMAqNArNArYAqOqPArHAqRArRAqSAqTArHArTAsHAqUqVA
kIGATURE SHRIjSECTION MARKkIGN NUKTAdJONG TILE AUTUMNnBACKpMBOOnCHRYSANTHEMUMnEAST WIND
oIGHT OF BAMBOOSwCHARACTERSxIRCLESnFIVE OF BAMBOOSvCHARACTERSwIRCLESoOUR OF BAMBOOSvCHARACTERS
wIRCLESnGREEN DRAGONnJOKERnNINE OF BAMBOOSvCHARACTERSwIRCLESoORTH WINDnONE OF BAMBOOSuCHARACTERS
vIRCLESoRCHIDnPLUMnRED DRAGONnSEVEN OF BAMBOOSwCHARACTERSxIRCLESoIX OF BAMBOOSuCHARACTERSvIRCLES
oOUTH WINDoPRINGoUMMERnTHREE OF BAMBOOSwCHARACTERSxIRCLESoWO OF BAMBOOSuCHARACTERSvIRCLESnWEST WIND
oHITE DRAGONoINTERcKASAR ANGKAiEND OF SECTIONiLETTER ApBApCApDApGApJApKApLApMApNAqGAqYApPApRApSApTA
pVApYAiPASSIMBANGiVOWEL SIGN EtItOtUcLAYALAM AU LENGTH MARKkDATE MARKlIGIT EIGHTqFIVErOURqNINEqONE
qSEVENrIXqTHREErWOqZEROkFRACTION ONE EIGHTHxFIFTHyORTIETHxHALFxONE-HUNDRED-AND-SIXTIETHxQUARTER
xSIXTEENTHxTENTHyWENTIETHtTHREE EIGHTIETHSzQUARTERSzSIXTEENTHSzTWENTIETHSkLETTER AsAsIsRCHAIC IIsU
rBAsHArCAsHAtILLU KyLzLzLLyMyNzNyRRyYrDAsDAtHAsHAsOT REPHrEsErGAsHArHArIsIrJAsHArKAsHArLAsLAtLArMA
rNAsGAsNAtNAsYArOsOrPAsHArRAsRArSAsHAsSArTAsHAsTAtHAtTArUsUrVAsEDIC ANUSVARAsOCALIC LzLLzRzRRrYA
kNUMBER ONE HUNDREDvTHOUSANDrTENkSIGN ANUSVARAqVAGRAHApCANDRABINDUqIRCULAR VIRAMA
qOMBINING ANUSVARA ABOVEpPARApVERTICAL BAR VIRAMAqIRAMArSARGAkVOWEL SIGN AAwIwUvEwEvIwIvOwOvUwU
vVOCALIC LzLIC LLzLIC RzLIC RRdE AND FEMALE SIGNfSIGNfWITH STROKE AND MALE AND FEMALE SIGNrSIGN
dTESE CROSScMMOTHcNd AND WOMAN HOLDING HANDSeDANCINGeIN BUSINESS SUIT LEVITATINGhTUXEDO
eWITH GUA PI MAOjTURBANdAT SIGNdDAIC AFFRICATION MARKiGEMINATION MARKiLETTER ABqDqGqHqINqKrSAqLqMqN
qPqQqRqSrHrZqTrTqZpDUSHENNApHALQApINqTpKADpUSHENNAiPUNCTUATIONiVOCALIZATION MARKdGO
dICHAEAN ABBREVIATION MARK ABOVEzARK BELOWlLETTER AAYINtLEPHtYINsBETHtHETHsDALETHtHAMEDHsFEsGHIMEL
tIMELsHEuTHsJAYINtHAYINsKAPHtHAPHsLAMEDHsMEMsNUNsPEsQHOPHtOPHsRESHsSADHEuMEKHtHINtSHINsTAWtETH
tHAMEDHsWAWsXAPHtOPHsYODHsZAYINtHAYINlNUMBER FIVEsONEv HUNDREDsTENtWENTYlPUNCTUATION DOT
zT WITHIN DOTzUBLE DOT WITHIN DOTxFLEURONxLINE FILLERxSTARxTWO DOTSlSIGN UDdS SHOEdTELPIECE CLOCK
dUAL WHEELCHAIRcP SYMBOL FOR LIGHTHOUSEdLE LEAFcRCHEN HEAD MARKiLETTER -ApApBApCAqHApDAqZApGApHApJA
pKAqHApLApMApNAqGAqYApPAqHApRApSAqHApTAqHAqSArHApWApYApZAqHAiMARK SHADiSIGN ANUSVARAnCANDRABINDU
jUBJOINED LETTER AzBAzCAzCHAzDAzDZAzGAzHAzJAzKAzKHAzLAzMAzNAzNGAzNYAzPAzPHAzRAzSAzSHAzTAzTHAzTSA
zTSHAzWAzYAzZAzZHAiVOWEL SIGN AAtEtItOtUdRIAGE SYMBOLdTIAL ARTS UNIFORMcSARAM GONDI DIGIT EIGHTuFIVE
vOURuNINEuONEuSEVENvIXuTHREEvWOuZEROoLETTER AwAwIwUvBAwHAvCAwHAvDAwDAxHAwHAvEvGAwHAvHAvIwIvJAwHAwNYA
vKAwHAwSSAvLAwLAvMAvNAwGAwNAwYAvOvPAwHAvRAvSAwHAwSAvTAwHAwRAwTAxHAvUwUvVAvYAoRA-KARApEPHA
oSIGN ANUSVARAtCANDRAtHALANTAtNUKTAtVISARGAoVIRAMApOWEL SIGN AAzAIzAUzEzIzIIzOzUzUUzVOCALIC R
dCULINE ORDINAL INDICATORdK WORK SYMBOLdU MARKcTE DRINKdHEMATICAL BOLD CAPITAL Az ALPHAz Bz BETAz C
z CHIz Dz DELTAz DIGAMMAz Ez EPSILONz ETAz Fz Gz GAMMAz Hz Iz IOTAz Jz Kz KAPPAz Lz LAMDAz Mz MUz N
z NUz Oz OMEGAz OMICRONz Pz PHIz PIz PSIz Qz Rz RHOz Sz SIGMAz Tz TAUz THETAz THETA SYMBOLz U
z UPSILONz Vz Wz Xz XIz Yz Zz ZETAsDIGIT EIGHTyFIVEzOURyNINEyONEySEVENzIXyTHREEzWOyZERO
sEPSILON SYMBOLsFRAKTUR CAPITAL Az CAPITAL Bz CAPITAL Cz CAPITAL Dz CAPITAL Ez CAPITAL Fz CAPITAL G
z CAPITAL Hz CAPITAL Iz CAPITAL Jz CAPITAL Kz CAPITAL Lz CAPITAL Mz CAPITAL Nz CAPITAL Oz CAPITAL P
z CAPITAL Qz CAPITAL Rz CAPITAL Sz CAPITAL Tz CAPITAL Uz CAPITAL Vz CAPITAL Wz CAPITAL Xz CAPITAL Y
z CAPITAL Zz SMALL Az SMALL Bz SMALL Cz SMALL Dz SMALL Ez SMALL Fz SMALL Gz SMALL Hz SMALL I
z SMALL Jz SMALL Kz SMALL Lz SMALL Mz SMALL Nz SMALL Oz SMALL Pz SMALL Qz SMALL Rz SMALL Sz SMALL T
z SMALL Uz SMALL Vz SMALL Wz SMALL Xz SMALL Yz SMALL ZsITALIC CAPITAL AzCAPITAL ALPHAzCAPITAL B
zCAPITAL BETAzCAPITAL CzCAPITAL CHIzCAPITAL DzCAPITAL DELTAzCAPITAL EzCAPITAL EPSILONzCAPITAL ETA
zCAPITAL FzCAPITAL GzCAPITAL GAMMAzCAPITAL HzCAPITAL IzCAPITAL IOTAzCAPITAL JzCAPITAL K
zCAPITAL KAPPAzCAPITAL LzCAPITAL LAMDAzCAPITAL MzCAPITAL MUzCAPITAL NzCAPITAL NUzCAPITAL O
zCAPITAL OMEGAzCAPITAL OMICRONzCAPITAL PzCAPITAL PHIzCAPITAL PIzCAPITAL PSIzCAPITAL QzCAPITAL R
zCAPITAL RHOzCAPITAL SzCAPITAL SIGMAzCAPITAL TzCAPITAL TAUzCAPITAL THETAzCAPITAL THETA SYMBOL
zCAPITAL UzCAPITAL UPSILONzCAPITAL VzCAPITAL WzCAPITAL XzCAPITAL XIzCAPITAL YzCAPITAL ZzCAPITAL ZETA
zEPSILON SYMBOLzKAPPA SYMBOLzNABLAzPARTIAL DIFFERENTIALzPHI SYMBOLzPI SYMBOLzRHO SYMBOLzSMALL A
zSMALL ALPHAzSMALL BzSMALL BETAzSMALL CzSMALL CHIzSMALL DzSMALL DELTAzSMALL EzSMALL EPSILON
zSMALL ETAzSMALL FzSMALL FINAL SIGMAzSMALL GzSMALL GAMMAzSMALL HzSMALL IzSMALL IOTAzSMALL JzSMALL K
zSMALL KAPPAzSMALL LzSMALL LAMDAzSMALL MzSMALL MUzSMALL NzSMALL NUzSMALL OzSMALL OMEGAzSMALL OMICRON
zSMALL PzSMALL PHIzSMALL PIzSMALL PSIzSMALL QzSMALL RzSMALL RHOzSMALL SzSMALL SIGMAzSMALL T
zSMALL TAUzSMALL THETAzSMALL UzSMALL UPSILONzSMALL VzSMALL WzSMALL XzSMALL XIzSMALL YzSMALL Z
zSMALL ZETAzTHETA SYMBOLsKAPPA SYMBOLsNABLAsPARTIAL DIFFERENTIALtHI SYMBOLtI SYMBOLsRHO SYMBOL
sSCRIPT CAPITAL AzCAPITAL BzCAPITAL CzCAPITAL DzCAPITAL EzCAPITAL FzCAPITAL GzCAPITAL HzCAPITAL I
zCAPITAL JzCAPITAL KzCAPITAL LzCAPITAL MzCAPITAL NzCAPITAL OzCAPITAL PzCAPITAL QzCAPITAL RzCAPITAL S
zCAPITAL TzCAPITAL UzCAPITAL VzCAPITAL WzCAPITAL XzCAPITAL YzCAPITAL ZzSMALL AzSMALL BzSMALL C
zSMALL DzSMALL EzSMALL FzSMALL GzSMALL HzSMALL IzSMALL JzSMALL KzSMALL LzSMALL MzSMALL NzSMALL O
zSMALL PzSMALL QzSMALL RzSMALL SzSMALL TzSMALL UzSMALL VzSMALL WzSMALL XzSMALL YzSMALL ZtMALL AzLPHA
yBzETAyCzHIyDzELTAzIGAMMAyEzPSILONzTAyFzINAL SIGMAyGzAMMAyHyIzOTAyJyKzAPPAyLzAMDAyMzUyNzUyOzMEGA
zMICRONyPzHIzIzSIyQyRzHOySzIGMAyTzAUzHETAyUzPSILONyVyWyXzIyYyZzETAsTHETA SYMBOL
nDOUBLE-STRUCK CAPITAL AzK CAPITAL BzK CAPITAL DzK CAPITAL EzK CAPITAL FzK CAPITAL GzK CAPITAL I
zK CAPITAL JzK CAPITAL KzK CAPITAL LzK CAPITAL MzK CAPITAL OzK CAPITAL SzK CAPITAL TzK CAPITAL U
zK CAPITAL VzK CAPITAL WzK CAPITAL XzK CAPITAL YzK DIGIT EIGHTzK DIGIT FIVEzK DIGIT FOUR
zK DIGIT NINEzK DIGIT ONEzK DIGIT SEVENzK DIGIT SIXzK DIGIT THREEzK DIGIT TWOzK DIGIT ZEROzK SMALL A
zK SMALL BzK SMALL CzK SMALL DzK SMALL EzK SMALL FzK SMALL GzK SMALL HzK SMALL IzK SMALL JzK SMALL K
zK SMALL LzK SMALL MzK SMALL NzK SMALL OzK SMALL PzK SMALL QzK SMALL RzK SMALL SzK SMALL TzK SMALL U
zK SMALL VzK SMALL WzK SMALL XzK SMALL YzK SMALL ZnFALLING DIAGONALoRAKTUR CAPITAL AzTAL BzTAL D
zTAL EzTAL FzTAL GzTAL JzTAL KzTAL LzTAL MzTAL NzTAL OzTAL PzTAL QzTAL SzTAL TzTAL UzTAL VzTAL W
zTAL XzTAL YvSMALL AzL BzL CzL DzL EzL FzL GzL HzL IzL JzL KzL LzL MzL NzL OzL PzL QzL RzL SzL TzL U
zL VzL WzL XzL YzL ZnITALIC CAPITAL AzAL ALPHAzAL BzAL BETAzAL CzAL CHIzAL DzAL DELTAzAL E
zAL EPSILONzAL ETAzAL FzAL GzAL GAMMAzAL HzAL IzAL IOTAzAL JzAL KzAL KAPPAzAL LzAL LAMDAzAL MzAL MU
zAL NzAL NUzAL OzAL OMEGAzAL OMICRONzAL PzAL PHIzAL PIzAL PSIzAL QzAL RzAL RHOzAL SzAL SIGMAzAL T
zAL TAUzAL THETAzAL THETA SYMBOLzAL UzAL UPSILONzAL VzAL WzAL XzAL XIzAL YzAL ZzAL ZETA
uEPSILON SYMBOLuKAPPA SYMBOLuNABLAuPARTIAL DIFFERENTIALvHI SYMBOLvI SYMBOLuRHO SYMBOLuSMALL Az ALPHA
z Bz BETAz Cz CHIz Dz DELTAz DOTLESS Iz DOTLESS Jz Ez EPSILONz ETAz Fz FINAL SIGMAz Gz GAMMAz I
z IOTAz Jz Kz KAPPAz Lz LAMDAz Mz MUz Nz NUz Oz OMEGAz OMICRONz Pz PHIz PIz PSIz Qz Rz RHOz Sz SIGMA
z Tz TAUz THETAz Uz UPSILONz Vz Wz Xz XIz Yz Zz ZETAuTHETA SYMBOLnLEFT ANGLE BRACKET
sDOUBLE ANGLE BRACKETsFLATTENED PARENTHESISsWHITE SQUARE BRACKETyTORTOISE SHELL BRACKET
nMONOSPACE CAPITAL AzPITAL BzPITAL CzPITAL DzPITAL EzPITAL FzPITAL GzPITAL HzPITAL IzPITAL JzPITAL K
zPITAL LzPITAL MzPITAL NzPITAL OzPITAL PzPITAL QzPITAL RzPITAL SzPITAL TzPITAL UzPITAL VzPITAL W
zPITAL XzPITAL YzPITAL ZxDIGIT EIGHTzGIT FIVEzGIT FOURzGIT NINEzGIT ONEzGIT SEVENzGIT SIXzGIT THREE
zGIT TWOzGIT ZEROxSMALL AzALL BzALL CzALL DzALL EzALL FzALL GzALL HzALL IzALL JzALL KzALL LzALL M
zALL NzALL OzALL PzALL QzALL RzALL SzALL TzALL UzALL VzALL WzALL XzALL YzALL ZnRIGHT ANGLE BRACKET
tDOUBLE ANGLE BRACKETtFLATTENED PARENTHESIStWHITE SQUARE BRACKETzTORTOISE SHELL BRACKET
pSING DIAGONALnSANS-SERIF BOLD CAPITAL AzOLD CAPITAL ALPHAzOLD CAPITAL BzOLD CAPITAL BETA
zOLD CAPITAL CzOLD CAPITAL CHIzOLD CAPITAL DzOLD CAPITAL DELTAzOLD CAPITAL EzOLD CAPITAL EPSILON
zOLD CAPITAL ETAzOLD CAPITAL FzOLD CAPITAL GzOLD CAPITAL GAMMAzOLD CAPITAL HzOLD CAPITAL I
zOLD CAPITAL IOTAzOLD CAPITAL JzOLD CAPITAL KzOLD CAPITAL KAPPAzOLD CAPITAL LzOLD CAPITAL LAMDA
zOLD CAPITAL MzOLD CAPITAL MUzOLD CAPITAL NzOLD CAPITAL NUzOLD CAPITAL OzOLD CAPITAL OMEGA
zOLD CAPITAL OMICRONzOLD CAPITAL PzOLD CAPITAL PHIzOLD CAPITAL PIzOLD CAPITAL PSIzOLD CAPITAL Q
zOLD CAPITAL RzOLD CAPITAL RHOzOLD CAPITAL SzOLD CAPITAL SIGMAzOLD CAPITAL TzOLD CAPITAL TAU
zOLD CAPITAL THETAzOLD CAPITAL THETA SYMBOLzOLD CAPITAL UzOLD CAPITAL UPSILONzOLD CAPITAL V
zOLD CAPITAL WzOLD CAPITAL XzOLD CAPITAL XIzOLD CAPITAL YzOLD CAPITAL ZzOLD CAPITAL ZETA
zOLD DIGIT EIGHTzOLD DIGIT FIVEzOLD DIGIT FOURzOLD DIGIT NINEzOLD DIGIT ONEzOLD DIGIT SEVEN
zOLD DIGIT SIXzOLD DIGIT THREEzOLD DIGIT TWOzOLD DIGIT ZEROzOLD EPSILON SYMBOLzOLD ITALIC CAPITAL A
zOLD ITALIC CAPITAL ALPHAzOLD ITALIC CAPITAL BzOLD ITALIC CAPITAL BETAzOLD ITALIC CAPITAL C
zOLD ITALIC CAPITAL CHIzOLD ITALIC CAPITAL DzOLD ITALIC CAPITAL DELTAzOLD ITALIC CAPITAL E
zOLD ITALIC CAPITAL EPSILONzOLD ITALIC CAPITAL ETAzOLD ITALIC CAPITAL FzOLD ITALIC CAPITAL G
zOLD ITALIC CAPITAL GAMMAzOLD ITALIC CAPITAL HzOLD ITALIC CAPITAL IzOLD ITALIC CAPITAL IOTA
zOLD ITALIC CAPITAL JzOLD ITALIC CAPITAL KzOLD ITALIC CAPITAL KAPPAzOLD ITALIC CAPITAL L
zOLD ITALIC CAPITAL LAMDAzOLD ITALIC CAPITAL MzOLD ITALIC CAPITAL MUzOLD ITALIC CAPITAL N
zOLD ITALIC CAPITAL NUzOLD ITALIC CAPITAL OzOLD ITALIC CAPITAL OMEGAzOLD ITALIC CAPITAL OMICRON
zOLD ITALIC CAPITAL PzOLD ITALIC CAPITAL PHIzOLD ITALIC CAPITAL PIzOLD ITALIC CAPITAL PSI
zOLD ITALIC CAPITAL QzOLD ITALIC CAPITAL RzOLD ITALIC CAPITAL RHOzOLD ITALIC CAPITAL S
zOLD ITALIC CAPITAL SIGMAzOLD ITALIC CAPITAL TzOLD ITALIC CAPITAL TAUzOLD ITALIC CAPITAL THETA
zOLD ITALIC CAPITAL THETA SYMBOLzOLD ITALIC CAPITAL UzOLD ITALIC CAPITAL UPSILON
zOLD ITALIC CAPITAL VzOLD ITALIC CAPITAL WzOLD ITALIC CAPITAL XzOLD ITALIC CAPITAL XI
zOLD ITALIC CAPITAL YzOLD ITALIC CAPITAL ZzOLD ITALIC CAPITAL ZETAzOLD ITALIC EPSILON SYMBOL
zOLD ITALIC KAPPA SYMBOLzOLD ITALIC NABLAzOLD ITALIC PARTIAL DIFFERENTIALzOLD ITALIC PHI SYMBOL
zOLD ITALIC PI SYMBOLzOLD ITALIC RHO SYMBOLzOLD ITALIC SMALL AzOLD ITALIC SMALL ALPHA
zOLD ITALIC SMALL BzOLD ITALIC SMALL BETAzOLD ITALIC SMALL CzOLD ITALIC SMALL CHIzOLD ITALIC SMALL D
zOLD ITALIC SMALL DELTAzOLD ITALIC SMALL EzOLD ITALIC SMALL EPSILONzOLD ITALIC SMALL ETA
zOLD ITALIC SMALL FzOLD ITALIC SMALL FINAL SIGMAzOLD ITALIC SMALL GzOLD ITALIC SMALL GAMMA
zOLD ITALIC SMALL HzOLD ITALIC SMALL IzOLD ITALIC SMALL IOTAzOLD ITALIC SMALL JzOLD ITALIC SMALL K
zOLD ITALIC SMALL KAPPAzOLD ITALIC SMALL LzOLD ITALIC SMALL LAMDAzOLD ITALIC SMALL M
zOLD ITALIC SMALL MUzOLD ITALIC SMALL NzOLD ITALIC SMALL NUzOLD ITALIC SMALL O
zOLD ITALIC SMALL OMEGAzOLD ITALIC SMALL OMICRONzOLD ITALIC SMALL PzOLD ITALIC SMALL PHI
zOLD ITALIC SMALL PIzOLD ITALIC SMALL PSIzOLD ITALIC SMALL QzOLD ITALIC SMALL RzOLD ITALIC SMALL RHO
zOLD ITALIC SMALL SzOLD ITALIC SMALL SIGMAzOLD ITALIC SMALL TzOLD ITALIC SMALL TAU
zOLD ITALIC SMALL THETAzOLD ITALIC SMALL UzOLD ITALIC SMALL UPSILONzOLD ITALIC SMALL V
zOLD ITALIC SMALL WzOLD ITALIC SMALL XzOLD ITALIC SMALL XIzOLD ITALIC SMALL YzOLD ITALIC SMALL Z
zOLD ITALIC SMALL ZETAzOLD ITALIC THETA SYMBOLzOLD KAPPA SYMBOLzOLD NABLAzOLD PARTIAL DIFFERENTIAL
zOLD PHI SYMBOLzOLD PI SYMBOLzOLD RHO SYMBOLzOLD SMALL AzOLD SMALL ALPHAzOLD SMALL BzOLD SMALL BETA
zOLD SMALL CzOLD SMALL CHIzOLD SMALL DzOLD SMALL DELTAzOLD SMALL EzOLD SMALL EPSILONzOLD SMALL ETA
zOLD SMALL FzOLD SMALL FINAL SIGMAzOLD SMALL GzOLD SMALL GAMMAzOLD SMALL HzOLD SMALL I
zOLD SMALL IOTAzOLD SMALL JzOLD SMALL KzOLD SMALL KAPPAzOLD SMALL LzOLD SMALL LAMDAzOLD SMALL M
zOLD SMALL MUzOLD SMALL NzOLD SMALL NUzOLD SMALL OzOLD SMALL OMEGAzOLD SMALL OMICRONzOLD SMALL P
zOLD SMALL PHIzOLD SMALL PIzOLD SMALL PSIzOLD SMALL QzOLD SMALL RzOLD SMALL RHOzOLD SMALL S
zOLD SMALL SIGMAzOLD SMALL TzOLD SMALL TAUzOLD SMALL THETAzOLD SMALL UzOLD SMALL UPSILONzOLD SMALL V
zOLD SMALL WzOLD SMALL XzOLD SMALL XIzOLD SMALL YzOLD SMALL ZzOLD SMALL ZETAzOLD THETA SYMBOL
yCAPITAL AzAPITAL BzAPITAL CzAPITAL DzAPITAL EzAPITAL FzAPITAL GzAPITAL HzAPITAL IzAPITAL JzAPITAL K
zAPITAL LzAPITAL MzAPITAL NzAPITAL OzAPITAL PzAPITAL QzAPITAL RzAPITAL SzAPITAL TzAPITAL UzAPITAL V
zAPITAL WzAPITAL XzAPITAL YzAPITAL ZyDIGIT EIGHTzIGIT FIVEzIGIT FOURzIGIT NINEzIGIT ONEzIGIT SEVEN
zIGIT SIXzIGIT THREEzIGIT TWOzIGIT ZEROyITALIC CAPITAL AzTALIC CAPITAL BzTALIC CAPITAL C
zTALIC CAPITAL DzTALIC CAPITAL EzTALIC CAPITAL FzTALIC CAPITAL GzTALIC CAPITAL HzTALIC CAPITAL I
zTALIC CAPITAL JzTALIC CAPITAL KzTALIC CAPITAL LzTALIC CAPITAL MzTALIC CAPITAL NzTALIC CAPITAL O
zTALIC CAPITAL PzTALIC CAPITAL QzTALIC CAPITAL RzTALIC CAPITAL SzTALIC CAPITAL TzTALIC CAPITAL U
zTALIC CAPITAL VzTALIC CAPITAL WzTALIC CAPITAL XzTALIC CAPITAL YzTALIC CAPITAL ZzTALIC SMALL A
zTALIC SMALL BzTALIC SMALL CzTALIC SMALL DzTALIC SMALL EzTALIC SMALL FzTALIC SMALL GzTALIC SMALL H
zTALIC SMALL IzTALIC SMALL JzTALIC SMALL KzTALIC SMALL LzTALIC SMALL MzTALIC SMALL NzTALIC SMALL O
zTALIC SMALL PzTALIC SMALL QzTALIC SMALL RzTALIC SMALL SzTALIC SMALL TzTALIC SMALL UzTALIC SMALL V
zTALIC SMALL WzTALIC SMALL XzTALIC SMALL YzTALIC SMALL ZySMALL AzMALL BzMALL CzMALL DzMALL EzMALL F
zMALL GzMALL HzMALL IzMALL JzMALL KzMALL LzMALL MzMALL NzMALL OzMALL PzMALL QzMALL RzMALL SzMALL T
zMALL UzMALL VzMALL WzMALL XzMALL YzMALL ZoCRIPT CAPITAL AzAL CzAL DzAL GzAL JzAL KzAL NzAL OzAL P
zAL QzAL SzAL TzAL UzAL VzAL WzAL XzAL YzAL ZuSMALL Az Bz Cz Dz Fz Hz Iz Jz Kz Lz Mz Nz Pz Qz Rz S
z Tz Uz Vz Wz Xz Yz ZcXIMIZEcYAN NUMERAL EIGHTtEENpLEVENoFIFTEENqVEpOURsTEENoNINEsTEENoONEoSEVEN
tTEENpIXrTEENoTENpHIRTEENqREEpWELVEqOoZERObEASURED ANGLEo OPENING LEFT
pWITH OPEN ARM ENDING IN ARROW POINTING DOWN AND LEFTzARM ENDING IN ARROW POINTING DOWN AND RIGHT
zARM ENDING IN ARROW POINTING LEFT AND DOWNzARM ENDING IN ARROW POINTING LEFT AND UP
zARM ENDING IN ARROW POINTING RIGHT AND DOWNzARM ENDING IN ARROW POINTING RIGHT AND UP
zARM ENDING IN ARROW POINTING UP AND LEFTzARM ENDING IN ARROW POINTING UP AND RIGHTjBY
jRIGHT ANGLE WITH DOTdT ON BONEcCHANICAL ARMlLEGcDEFAIDRIN CAPITAL LETTER AzR AIzR ATIUzR BzR CzR D
zR EzR FzR GzR HzR HPzR IzR JzR KzR KPzR LzR MzR NzR NGzR NYzR OzR OEzR PzR QzR RzR SzR TzR UzR V
zR WzR XzR YzR YUzR ZnOMMAmDIGIT EIGHTsFIVEtOURsNINEsONEv ALTERNATE FORMsSEVENtIXsTHREE
x ALTERNATE FORMtWOv ALTERNATE FORMsZEROmEXCLAMATION OHmFULL STOPmNUMBER EIGHTEENuLEVENtFIFTEEN
uOURTEENtNINETEENtSEVENTEENuIXTEENtTENuHIRTEENuWELVEmSMALL LETTER AzAIzATIUzBzCzDzEzFzGzHzHPzIzJzK
zKPzLzMzNzNGzNYzOzOEzPzQzRzSzTzUzVzWzXzYzYUzZnYMBOL AIVAdIEVAL COMMAjEXCLAMATION MARKjQUESTION MARK
eUM BLACK CIRCLEiOLD WHITE CIRCLEhEIGHT POINTED BLACK STARnSPOKED ASTERISKhFIVE SPOKED ASTERISK
iLATTENED LEFT PARENTHESIS ORNAMENTrRIGHT PARENTHESIS ORNAMENTiOUR POINTED BLACK STARuPINWHEEL STAR
hGREEK CROSShLEFT CURLY BRACKET ORNAMENTmPARENTHESIS ORNAMENTl-POINTING ANGLE BRACKET ORNAMENT
hMATHEMATICAL SPACEhRIGHT CURLY BRACKET ORNAMENTnPARENTHESIS ORNAMENT
m-POINTING ANGLE BRACKET ORNAMENThSALTIREiHADEiIX POINTED BLACK STARlSPOKED ASTERISK
iMALL WHITE CIRCLEhTHREE POINTED BLACK STARvPINWHEEL STARhVERTICAL BARhWHITE CIRCLEnSQUARE
cETEI MAYEK AHANG KHUDAMoNJIoPUN IYEKnCHEIKHANtEInDIGIT EIGHTtFIVEuOURtNINEtONEtSEVENuIXtTHREEuWO
tZEROnLETTER ATIYAuBAvHAMuCHAwILuDDAwHAvHOUvILuEuGHOUvOKuHUKuIv LONSUMuJHAMvILuKHOUvOKx LONSUMuLAI
x LONSUMuMITx LONSUMuNAw LONSUMvGOUy LONSUMvNAvYAuOuPAw LONSUMvHAMuRAIuSAMvHAvSAuTHOUvILx LONSUMvTA
wHAuUNuWAIuYANGoUM IYEKnSYLLABLE REPETITION MARKnVIRAMAoOWEL SIGN AAIzAUzNAPzUyCHEINAPyIIzNAPyNUNG
yONAPySOUNAPyUNAPzUyVISARGAyYENAPnWORD REPETITION MARKcLONdTING FACEcMO
cNDE KIKAKUI COMBINING NUMBER HUNDRED THOUSANDSzUMBER HUNDREDSzUMBER MILLIONSzUMBER TEENS
zUMBER TEN THOUSANDSzUMBER TENSzUMBER THOUSANDSoDIGIT EIGHTuFIVEvOURuNINEuONEuSEVENvIXuTHREEvWO
oSYLLABLE M001 KIz02 KAz03 KUz04 WIz05 WAz06 WUz07 MINz08 MANz09 MUNz10 BIz11 BAz12 BUz13 Iz14 A
z15 Uz16 DIz17 DAz18 DUz19 SIz20 SAz21 SUz22 TIz23 TAz24 TUz25 LIz26 LAz27 LUz28 JIz29 JAz30 JU
z31 YIz32 YAz33 YUz34 FIz35 FAz36 FUz37 NINz38 NANz39 NUNz40 HEEz41 HAz42 HOOz43 NGGAz44 KPEEz45 WO
z46 HUANz47 MBEEz48 KOz49 WVAz50 PUz51 PEz52 HENz53 HINz54 LOOz55 TEz56 GBAz57 NGONz58 NYANz59 MEN
z60 NYONz61 WVIz62 MBAz63 JOz64 NDOz65 KEEz66 POz67 NDOOz68 PIz69 TOz70 GBOz71 GBOOz72 MBEz73 LE
z74 KPUz75 FEz76 KOOz77 VOz78 FEEz79 SOz80 YEz81 PEEz82 NGGUz83 HEEIz84 LEEz85 VEz86 LONG NGGE
z87 HUNz88 FOz89 DEEz90 NGGIz91 TEEz92 KPAz93 GBEEz94 MONz95 KEz96 HEz97 BEz98 NYENz99 PAy100 E
z01 FANz02 POOz03 BOOz04 TOOz05 LONG MBOOz06 LONG NGGOOz07 GBEz08 KPEz09 YEEz10 LONG LEz11 GA
z12 KPOOz13 JEz14 WOOz15 NGGEEz16 SEz17 NENz18 WEz19 NDEz20 NGGOz21 YOz22 MBUz23 NDIz24 GBIz25 NDU
z26 WEEz27 NGGUAz28 HOOUz29 NDAz30 HANz31 INz32 KPIz33 FOOz34 NJOOz35 INz36 SOOz37 EIz38 BOz39 WVE
z40 HOz41 YOOz42 LONG MBOz43 WEIz44 VOOz45 MBIz46 NGGEz47 Oz48 GBUz49 NJEEz50 BEEz51 VUz52 NJAz53 LO
z54 MUANz55 GIz56 NGGOOz57 JEEz58 KPOz59 NGGAAz60 JOOz61 LONG MBEz62 SEEz63 EEz64 NYINz65 OOz66 GUEI
z67 GUANz68 GUz69 NONz70 NYUNz71 RAz72 MBOOz73 VEEz74 MBOz75 LONG JOz76 HIz77 NGUANz78 ENz79 KUA
z80 DOOz81 DOz82 VIz83 LONG NGGOz84 NGENz85 VAz86 HUz87 MBUUz88 MBEEz89 MUENz90 GEEz91 NDEEz92 NJU
z93 HONz94 WUIz95 ANz96 SIAz97 FUAdORAH WITH NINE BRANCHESdS SYMBOLcRCURY
dOITIC CURSIVE FRACTION EIGHT TWELFTHSz ELEVEN TWELFTHSz FIVE TWELFTHSz FOUR TWELFTHSz NINE TWELFTHS
z ONE HALFz ONE TWELFTHz SEVEN TWELFTHSz SIX TWELFTHSz TEN TWELFTHSz THREE TWELFTHSz TWO TWELFTHS
rLETTER AzRCHAIC SAyBAyDAyEyHHAyIyKAzHAyLAyMAyNAzEyOyPAyQAyRAySAzEyTAzEzOyWAyYAsOGOGRAM IMNz RMT
rNUMBER EIGHTzIGHT HUNDREDzIGHT HUNDRED THOUSANDzIGHT THOUSANDzIGHTY THOUSANDyFIFTYzIFTY THOUSAND
zIVEzIVE HUNDREDzIVE HUNDRED THOUSANDzIVE THOUSANDzORTYzORTY THOUSANDzOURzOUR HUNDRED
zOUR HUNDRED THOUSANDzOUR THOUSANDyNINEzINE HUNDREDzINE HUNDRED THOUSANDzINE THOUSANDzINETY THOUSAND
yONEzNE HUNDREDzNE HUNDRED THOUSANDzNE THOUSANDySEVENzEVEN HUNDREDzEVEN HUNDRED THOUSAND
zEVEN THOUSANDzEVENTYzEVENTY THOUSANDzIXzIX HUNDREDzIX HUNDRED THOUSANDzIX THOUSANDzIXTY
zIXTY THOUSANDyTENzEN THOUSANDzHIRTYzHIRTY THOUSANDzHREEzHREE HUNDREDzHREE HUNDRED THOUSAND
zHREE THOUSANDzWENTYzWENTY THOUSANDzWOzWO HUNDREDzWO HUNDRED THOUSANDzWO THOUSAND
jHIEROGLYPHIC LETTER AzTER BAzTER BA-2zTER DAzTER EzTER HHAzTER IzTER KAzTER KHAzTER LAzTER MA
zTER NAzTER NA-2zTER NEzTER NE-2zTER OzTER PAzTER QAzTER RAzTER RA-2zTER SAzTER SA-2zTER SEzTER TA
zTER TA-2zTER TEzTER TE-2zTER TOzTER WAzTER YAwSYMBOL VIDJzBOL VIDJ-2dPERSONcSSAGE WAITING
cTRICAL BREVEjLONG OVER SHORTtTWO SHORTSjPENTASEMEjSHORT OVER LONGjTETRASEMEkRISEMEkWO SHORTS JOINED
uOVER LONGeObIAO LETTER AHnRCHAIC MAuNAvGAuZZAmBAnRImDAnDAnLHApYAnZAoHAoYIoZAmFAmGAnHAoHAmHAnHAmKA
mLAnHAoYAnYAmMAnHAmNAoSALIZATIONnGAoHAnHAnNAoHAnYAoHAmPAnLAmQAnGAmREFORMED TONE-1z-2z-4z-5z-6z-8wSHA
nTEmSAnHAnSAnYImTAnEnLHApYAnONE-2r3r4r5r6r7r8nSAoEoHAoSAnTAmVAnFAmWAmXAmYI DZHApKApNNApPApTAqSArHA
qTAmZAnHAnSAoHAnZAoSApYAoYAfSIGN ASPIRATIONkCONSONANT MODIFIER BARkREFORMED ASPIRATIONtVOICING
fTONE ABOVEkBELOWkRIGHTkTOP RIGHTfVOWEL SIGN ArArEsErHHrIrNsGrUqErArIrNsGrRsRqIrAsNtGrErGrIrNGrOsNG
rUqNrGqOrERsYrGrOrUqROUNDED ERzRRqUrAsNtGrEIrIrNGrOGrUqVWqWrOqYrIrUIcCR DASH SYMBOLfON US SYMBOL
eO SIGNfBEfPHONEfSCOPEcDDLE DOThTHIRD WHITE RIGHT POINTING INDEXdLINE HORIZONTAL ELLIPSIS
cLITARY HELMETjMEDALdKY WAYdL SIGNcNIBUSeDISCeMIZEdUS SIGNk IN TRIANGLElWITH COMMA ABOVEqDOT BELOW
qFALLING DOTSqRISING DOTSgTILDEf-OR-PLUS SIGNdYcRRORg BALLbMSPbOBILE PHONEm OFF
nWITH RIGHTWARDS ARROW AT LEFTcDELSeRN PENTATHLONdI ABBREVIATION SIGNfDANDAgIGIT EIGHTlFIVEmOURlNINE
lONElSEVENmIXlTHREEmWOlZEROgOUBLE DANDAfLETTER AnAnInUmBAnHAmCAnHAmDAnDAoHAnHAmEmGAnHAmHAmInImJAnHA
mKAnHAmLAnLAmMAmNAnGAnNAnYAmOmPAnHAmRAmSAnHAnSAmTAnHAnTAoHAmUnUmVAnOCALIC LvLuRvRmYAfSIGN ANUSVARA
lRDHACANDRAkHUVAkVIRAMAmSARGAfVOWEL SIGN AArIrUqEqIrIqOqUrUqVOCALIC LzLyRzR
eFIER BREVE WITH INVERTED BREVEjLETTER ACUTE ACCENTrLVEOLAR CLICKrPOSTROPHEqBEGIN HIGH TONEwLOW TONE
rILABIAL CLICKqCAPITAL AzEyBzARRED ByCyDyEyFyGyHz WITH STROKEyIyJyKyLyMyNyOzUyPyQyRzEVERSED E
zEVERSED NyTyUyVyWrENTRED LEFT HALF RINGyRIGHT HALF RINGrHINESE TONE YANG PINGzONE YANG QU
zONE YANG RUzONE YANG SHANGzONE YIN PINGzONE YIN QUzONE YIN RUzONE YIN SHANGrIRCUMFLEX ACCENTrOLON
rROSS ACCENTrYRILLIC ENzHARD SIGNzSOFT SIGNqDENTAL CLICKrOT HORIZONTAL BARuSLASHuVERTICAL BAR
sUBLE APOSTROPHExPRIMEsWN ARROWHEADvTACKqEND HIGH TONEuLOW TONErXTRA-HIGH DOTTED LEFT-STEM TONE BAR
zH DOTTED TONE BARzH LEFT-STEM TONE BARzH TONE BARwLOW DOTTED LEFT-STEM TONE BARz DOTTED TONE BAR
z LEFT-STEM TONE BARz TONE BARqGEORGIAN NARrLOTTAL STOPzTOP WITH STROKErRAVE ACCENT
qHALF TRIANGULAR COLONrIGH DOTTED LEFT-STEM TONE BARzED TONE BARvLEFT-STEM TONE BARvTONE BAR
qLATERAL CLICKrEFT ARROWHEADvHALF RINGvTACKrOW ACUTE ACCENTuCIRCUMFLEX ACCENT
uDOTTED LEFT-STEM TONE BARzD TONE BARwWN ARROWHEADuGRAVE ACCENTuINVERTED EXCLAMATION MARKuLEFT ARROW
zARROWHEADy-STEM TONE BARuMACRONuRIGHT ARROWHEADwNGuTILDEvONE BARuUP ARROWHEADuVERTICAL LINE
tER RIGHT CORNER ANGLEqMACRONrID DOTTED LEFT-STEM TONE BARzD TONE BARuLEFT-STEM TONE BARuTONE BAR
tDLE DOUBLE ACUTE ACCENTzUBLE GRAVE ACCENTxGRAVE ACCENTsNUS SIGNqOPEN SHELFqPLUS SIGNrRIME
qRAISED COLONxDOWN ARROWxEXCLAMATION MARKxINVERTED EXCLAMATION MARKxUP ARROW
rETROFLEX CLICK WITH RETROFLEX HOOKsVERSED COMMAzGLOTTAL STOPzGLOTTAL STOP WITH STROKErHOTIC HOOK
rIGHT ARROWHEADwHALF RINGwTACKqSHELFsORT EQUALS SIGNrMALL AxExINxLPHAwBx WITH HOOKxARRED OxETA
xOTTOM HALF OwCx WITH CURLxAPITAL AAzITAL BzITAL GzITAL G WITH HOOKzITAL HzITAL IzITAL I WITH STROKE
zITAL INVERTED RzITAL LzITAL L WITH BELTzITAL NzITAL OEzITAL RzITAL UzITAL YxHIxLOSED OMEGA
zSED REVERSED OPEN EwDx WITH HOOKzITH HOOK AND TAILzITH TAILxELTAyZH DIGRAPHxOTLESS J WITH STROKE
zLESS J WITH STROKE AND HOOKxZ DIGRAPHzDIGRAPH WITH CURLzDIGRAPH WITH RETROFLEX HOOKwExNGxSHxTHxZHwF
xENG DIGRAPHwGx WITH HOOKxAMMAxREEK GAMMAzEK PHIwHx WITH HOOKzITH STROKExENGzG WITH HOOK
wI WITH STROKExOTAwJx WITH CROSSED-TAILwKwLx WITH BELTzITH INVERTED LAZY SzITH MIDDLE TILDE
zITH PALATAL HOOKzITH RETROFLEX HOOKzITH RETROFLEX HOOK AND BELTxEZHzH WITH RETROFLEX HOOK
xIGATURE OExS DIGRAPHxZ DIGRAPHwMx WITH HOOKwN WITH LEFT HOOKzITH RETROFLEX HOOKwOx WITH STROKE
xPEN EzN OwPxHIwQwRx WITH FISHHOOKzITH TAILxAMS HORNxEVERSED EzERSED GLOTTAL STOPzERSED OPEN EwS
x WITH CURLzITH HOOKxCHWAyRIPT GxIDEWAYS UwTx WITH PALATAL HOOKzITH RETROFLEX HOOK
xC DIGRAPH WITH CURLxESH DIGRAPHxHETAxOP HALF OxS DIGRAPHzDIGRAPH WITH RETROFLEX HOOKxURNED AzNED AE
zNED ALPHAzNED HzNED IzNED MzNED M WITH LONG LEGzNED OPEN EzNED RzNED R WITH HOOK
zNED R WITH LONG LEGzNED R WITH LONG LEG AND RETROFLEX HOOKzNED VzNED WzNED YzNED Y WITH BELTwUx BAR
yWITH LEFT HOOKxPSILONwVx WITH HOOKzITH RIGHT HOOKwWwXwYwZx WITH CURLzITH RETROFLEX HOOK
rTRESS AND HIGH TONEzD LOW TONErUPERSCRIPT HALF TRIANGULAR COLONzPT TRIANGULAR COLON
qTRIANGULAR COLONrURNED COMMAqUNASPIRATEDrP ARROWHEADtTACKrSqVERTICAL LINErOICING
qYANG DEPARTING TONE MARKrIN DEPARTING TONE MARKdULO TWO SUMcNEY BAGgWITH WINGSf-MOUTH FACE
dGOLIAN BIRGAp WITH DOUBLE ORNAMENTvORNAMENTkCOLONmMMAkDIGIT EIGHTqFIVErOURqNINEqONEqSEVENrIXqTHREE
rWOqZEROlOUBLE BIRGA WITH ORNAMENTkELLIPSISkFOUR DOTSlREE VARIATION SELECTOR FOURzSELECTOR ONE
zSELECTOR THREEzSELECTOR TWOlULL STOPkINVERTED BIRGAy WITH DOUBLE ORNAMENTkLETTER AsLI GALI Az AH
z ANUSVARA ONEz BALUDAz CAz DAz DAGALGAz DAMARUz DDAz HALF Uz HALF YAz Iz INVERTED UBADAMAz KAz NGA
z NNAz PAz PHAz SSAz TAz THREE BALUDAz TTAz TTHAz UBADAMAz VISARGA ONEz ZAz ZHAsNGrBArCHA
u WITH TWO DOTStIrDArEsErFArGArHAArIrJArKAsHArLAsHArMAtNCHU ALI GALI BHAzLI GALI CAzLI GALI CYA
zLI GALI DDHAzLI GALI DHAzLI GALI GHAzLI GALI JHAzLI GALI LHAzLI GALI NGAzLI GALI SSAzLI GALI TA
zLI GALI TTAzLI GALI ZAzLI GALI ZHAyFAyIyKAyRAyZHArNArOsErPArQArRArSAsHAsIBE ANGwCHAwDAwEwFAwGAyAwHA
yAwIxYwJAwKAwPAwRAAwSHAwTAxSAwUxEwZAxHArTAsODO ALI GALI TAz GALI ZHAxNGwBAwCHAwDAxZAwEwGAyAwHAAwIwJA
xIAwKAwLONG VOWEL SIGNwMAwNIAwOxEwPAwQAwTAxSAwUxEwWAwYAsSArUsErWArYArZAsHIsRAkMANCHU COMMArFULL STOP
kNIRUGUkROTATED BIRGAx WITH DOUBLE ORNAMENTzITH ORNAMENTkSIBE SYLLABLE BOUNDARY MARKERlWIRL BIRGA
v WITH DOUBLE ORNAMENTzH ORNAMENTkTODO SOFT HYPHENlRIPLE BIRGA WITH ORNAMENT
lURNED SWIRL BIRGA WITH DOUBLE ORNAMENTkVOWEL SEPARATORdKEYg FACEdOGRAM FOR EARTHnYANGoINeRAIL
eSTABLE SYMBOLcOD BUBBLEdN CAKEfVIEWING CEREMONYcSQUEfITOcTHER CHRISTMASdOR BOATgSCOOTER
fIZED WHEELCHAIRfWAYcUNT FUJIfAINi BICYCLISTjCABLEWAYjRAILWAYdSEf FACEgTRAPdTHcVIE CAMERAcYAI
bRO DANDAfIGIT EIGHTkFIVElOURkNINEkONEkSEVENlIXkTHREElWOkZEROfOUBLE DANDAeLETTER AlBAlCHUlDAnIlEmA
lHAInOlKEAAEmHAImOlLAnNlMAEMmIMlNGImINlOmLmOlPAmHIlRImOlSHIlTAmEKmHEAlWAlYObUCH GREATER-THAN
fLESS-THANcLTANI LETTER ApBAqHApCAqHApDAqDArDArHAqHApEpGAqHApHApIpJAqJApKAqHApLApMApNAqNAqYApPAqHA
pRAqHAqRApSApTAqHAqTArHApUpVApYAiSECTION MARKeIMAPfPLE MUSICAL NOTEShICATION SIGNt IN DOUBLE CIRCLE
xLEFT HALF CIRCLExRIGHT HALF CIRCLExTRIANGLEuWITH DOT ABOVEzUNDERBARpXfSETi MULTIPLICATIONjUNION
cSHROOMdIC FLAT SIGNgNATURAL SIGNgSHARP SIGNfAL KEYBOARDq WITH JACKSiNOTEiSCORE
jYMBOL ARPEGGIATO DOWNz UPpBEGIN BEAMvPHRASEvSLURvTIEqRACEtKETrEATH MARKsVEtISv RESTpC CLEFqAESURA
qIRCLE X NOTEHEADqLIMACUSsVISrUSTER NOTEHEAD BLACKzTEHEAD WHITEqODArMBINING ACCENTzACCENT-STACCATO
zAUGMENTATION DOTzBENDzDOITzDOUBLE TONGUEzDOWN BOWzFLAG-1zFLAG-2zFLAG-3zFLAG-4zFLAG-5zFLIPzHARMONIC
zLOUREzMARCATOzMARCATO-STACCATOzRIPzSMEARzSNAP PIZZICATOzSPRECHGESANG STEMzSTACCATISSIMOzSTACCATO
zSTEMzTENUTOzTREMOLO-1zTREMOLO-2zTREMOLO-3zTRIPLE TONGUEzUP BOWsMON TIMEqRESCENDOrOIXqUT TIME
pDA CAPOrL SEGNOrMPt ALLrSHED BARLINEqECRESCENDOrGREE SLASHqOUBLE BARLINEwFLATwSHARPqRUM CLEF-1z2
pEIGHTH NOTEwRESTqND BEAMtOF STIMMEtPHRASEtSLURtTIEpF CLEFv OTTAVA ALTAzAVA BASSAqERMATAw BELOW
qINAL BARLINEsGERED TREMOLO-1zREMOLO-2zREMOLO-3rVE-LINE STAFFqLAT DOWNuUPqORTErUR-LINE STAFF
uSTRING FRETBOARDqUSA BLACKuWHITEpG CLEFv OTTAVA ALTAzAVA BASSAqLISSANDO DOWNzUPqRACE NOTE NO SLASH
z SLASHrEGORIAN C CLEFzF CLEFpHALF NOTEuPEDAL MARKuRESTrUPTSTIMMEpINVERTED TURNpKIEVAN C CLEF
wEIGHTH NOTE STEM DOWNzHTH NOTE STEM UPxND OF PIECEwFINAL NOTExLAT SIGNwHALF NOTE
wQUARTER NOTE STEM DOWNzRTER NOTE STEM UPwRECITATIVE MARKwWHOLE NOTEqORONpLEFT REPEAT SIGNqONGA
u IMPERFECTA RESTvPERFECTA RESTpMAXIMAqEZZOqINIMAv BLACKwRESTqOON NOTEHEAD BLACKzEAD WHITEqULTI REST
uPLE MEASURE RESTpNATURAL DOWNxUPqEBENSTIMMEqOTEHEAD BLACKqULL NOTEHEAD
pONE HUNDRED TWENTY-EIGHTH NOTEzD TWENTY-EIGHTH RESTs-LINE STAFFqRNAMENT STROKE-1zTROKE-10zTROKE-11
zTROKE-2zTROKE-3zTROKE-4zTROKE-5zTROKE-6zTROKE-7zTROKE-8zTROKE-9qTTAVA ALTAwBASSA
pPARENTHESIS NOTEHEADqEDAL MARKvUP MARKrS SUBPUNCTISqIANOqLUS NOTEHEADqODATUSrRRECTUSy FLEXUS
pQUARTER NOTExRESTxTONE FLATzNE SHARPrINDICESIMA ALTAzMA BASSApREPEAT DOTSvED FIGURE-1zIGURE-2
zIGURE-3rVERSE FINAL BARLINEqIGHT REPEAT SIGNrNFORZANDOpSCANDICUSy FLEXUSqEGNOrMIBREVIS BLACKz REST
z WHITEtMINIMA BLACKz RESTz WHITEqHARP DOWNvUPrORT BARLINEqINGLE BARLINErX-LINE STAFF
tSTRING FRETBOARDsTEENTH NOTEzRESTtY-FOURTH NOTEzTH RESTqORIqQUARE BwNOTEHEAD BLACKzEHEAD WHITE
qUBITOpTEMPUS IMPERFECTUM CUM PROLATIONE IMPERFECTAzERFECTUM CUM PROLATIONE IMPERFECTA DIMINUTION-1
zERFECTUM CUM PROLATIONE IMPERFECTA DIMINUTION-2zERFECTUM CUM PROLATIONE IMPERFECTA DIMINUTION-3
zERFECTUM CUM PROLATIONE PERFECTAwPERFECTUM CUM PROLATIONE IMPERFECTAzFECTUM CUM PROLATIONE PERFECTA
zFECTUM CUM PROLATIONE PERFECTA DIMINUTION-1qHIRTY-SECOND NOTEzOND RESTrREE-LINE STAFFqORCULUS
x RESUPINUSqRrIANGLE NOTEHEAD DOWN BLACKzOTEHEAD DOWN WHITEzOTEHEAD LEFT BLACKzOTEHEAD LEFT WHITE
zOTEHEAD RIGHT BLACKzOTEHEAD RIGHT WHITEzOTEHEAD UP BLACKzOTEHEAD UP RIGHT BLACK
zOTEHEAD UP RIGHT WHITEzOTEHEAD UP WHITEx-ROUND NOTEHEAD DOWN BLACKzOUND NOTEHEAD DOWN WHITEqURN
t SLASHuUPqWO-LINE STAFFpVIRGAqOID NOTEHEADpWHOLE NOTEvRESTqITH FINGERNAILSpX NOTEHEADpZbVSbW
bYANMAR CONSONANT SIGN MEDIAL HAzDIAL RAzDIAL WAzDIAL YAyON MEDIAL LAzN MEDIAL MAzN MEDIAL NA
xSHAN MEDIAL WAiDIGIT EIGHToFIVEpOURoNINEoONEoSEVENpIXoTHREEpWOoZEROiLETTER AqITON RAqUpBAqHApCAqHA
pDAqDArHAqHApEqASTERN PWO KAREN GHWAzO KAREN NNAzO KAREN YWApGAqHAqREAT SApHApIqIpJAqHApKAqHAsMTI CA
xHAwDDAyHAxHAwFAwGAwHAxHAwJAxHAwLLAwNAxYAwRAwSAwTTAyHAwXAwZApLAqLApMAqON BBAvEtEtJHAtNGApNAqGAqNArYA
qYApOpPAqHApRAqUMAI PALAUNG FApSAqGAW KAREN SHAqHAsN AuBAvHAuCAvHAuDAuFAuGAvHAuHAuJHAuKAvHAuNAvNAvYA
uPHAuTHAuZArWE PALAUNG CHAzNG SHAqSApTArI LAING BAzBHAzDAzDDAzDDHAzDHAzFAzGAzGHAzJAzJHAzLLAzNNAzNYA
qHAqTArHApUqUpVOCALIC LyLxRyRpWAqESTERN PWO KAREN PWAzO KAREN THApYAjOGOGRAM KHAMTI HMyOAYyQN
iMODIFIER LETTER KHAMTI REDUPLICATIONySHAN REDUPLICATIONiSHAN DIGIT EIGHTtFIVEuOURtNINEtONEtSEVENuIX
tTHREEuWOtZEROjIGN ANUSVARAoSATnDOT BELOWnKHAMTI TONE-1z3nLITTLE SECTIONnPAO KAREN TONE
nRUMAI PALAUNG TONE-5nSECTIONoHAN COUNCIL EMPHATIC TONEz TONE-2z TONE-3sSAWsTONE-2x3x5x6
nTAI LAING TONE-2zNE-5nVIRAMApSARGAnWESTERN PWO KAREN TONE-1zKAREN TONE-2zKAREN TONE-3zKAREN TONE-4
zKAREN TONE-5jYMBOL AFOREMENTIONEDqITON EXCLAMATIONvONEvTWOpCOMPLETEDpGENITIVEpLOCATIVE
pSHAN EXCLAMATIONuONEiTAI LAING DIGIT EIGHTyFIVEzOURyNINEyONEySEVENzIXyTHREEzWOyZERO
jONE MARK SGAW KAREN HATHIzREN KE PHOiVOWEL SIGN AAuIvTON AzAItEu ABOVEtGEBA KAREN ItIuItKAYAH EEzOE
zUtMON IIxOtSGAW KAREN EUuHAN AAyEz ABOVEyFINAL YtTALL AAtUuUtVOCALIC LzC LLzC RzC RR
tWESTERN PWO KAREN EUzN PWO KAREN UEaN-ARY CIRCLED DOT OPERATORoPLUS OPERATORoTIMES OPERATOR
hOPRODUCTgINTERSECTIONgLOGICAL ANDoORgPRODUCTgSQUARE INTERSECTION OPERATORnUNION OPERATORhUMMATION
gTIMES OPERATORgUNIONl OPERATOR WITH DOTz PLUSgWHITE VERTICAL BARbABATAEAN CRUCIFORM NUMBER FOUR
kLETTER ALEPHsYINrBETHrDALETHrFINAL ALEPHxBETHxHExKAPHxLAMEDHxMEMxNUNxSHINxYODHrGIMELrHEtTHrKAPH
rLAMEDHrMEMrNUNrPErQOPHrRESHrSADHEtMEKHsHINrTAWsETHrWAWrYODHrZAYINkNUMBER FIVEsOURrONEu HUNDREDrTEN
sHREEsWENTYtOdLAcIL POLISHdRA SIGNcKcME BADGEcNDeINAGARI HEADSTROKEmLETTER AuAuIuUtBAuHAtCAuHAtDAuDA
vHAuHAtEtGAuHAtHAtIuItJAuHAtKAuHAtLAuLAtMAtNAuGAuNAuYAtOtPAuHAtRAuRAtSAuHAuSAtTAuHAuTAvHAtUuUtVA
uOCALIC RzC RRtYAmSIGN ANUSVARAsVAGRAHArSIDDHAMrVIRAMAtSARGAmVOWEL SIGN AAyIyUxExIyIxO
xPRISHTHAMATRA ExUyUxVOCALIC RzCALIC RRcRROW NO-BREAK SPACEcTIONAL DIGIT SHAPESjPARKcUSEATED FACE
cZAR AMULETbBHcSPbECKTIEcGATED DOUBLE VERTICAL BAR DOUBLE RIGHT TURNSTILEfIVE ACKNOWLEDGE
jCIRCLED DIGIT ZEROrLATIN CAPITAL LETTER AzPITAL LETTER BzPITAL LETTER CzPITAL LETTER D
zPITAL LETTER EzPITAL LETTER FzPITAL LETTER GzPITAL LETTER HzPITAL LETTER IzPITAL LETTER J
zPITAL LETTER KzPITAL LETTER LzPITAL LETTER MzPITAL LETTER NzPITAL LETTER OzPITAL LETTER P
zPITAL LETTER QzPITAL LETTER RzPITAL LETTER SzPITAL LETTER TzPITAL LETTER UzPITAL LETTER V
zPITAL LETTER WzPITAL LETTER XzPITAL LETTER YzPITAL LETTER ZrNUMBER EIGHTEENzLEVENyFIFTEENzOURTEEN
yNINETEENySEVENTEENzIXTEENyTHIRTEENzWELVEzWENTYrSQUARErTRIANGLEjDIAGONAL CROSSsDIAMOND
sMIDDLE RIGHT TO LOWER CENTREjSQUARED ABrCROSS MARKrICrLATIN CAPITAL LETTER AzPITAL LETTER B
zPITAL LETTER CzPITAL LETTER DzPITAL LETTER EzPITAL LETTER FzPITAL LETTER GzPITAL LETTER H
zPITAL LETTER IzPITAL LETTER JzPITAL LETTER KzPITAL LETTER LzPITAL LETTER MzPITAL LETTER N
zPITAL LETTER OzPITAL LETTER PzPITAL LETTER QzPITAL LETTER RzPITAL LETTER SzPITAL LETTER T
zPITAL LETTER UzPITAL LETTER VzPITAL LETTER WzPITAL LETTER XzPITAL LETTER YzPITAL LETTER ZrPA
rQUESTION MARKrSArWCcITHER A SUBSET OF NOR EQUAL TOmPERSET OF NOR EQUAL TO
jPPROXIMATELY NOR ACTUALLY EQUAL TOiGREATER-THAN NOR EQUAL TOzEQUIVALENT TOzLESS-THAN
iLESS-THAN NOR EQUAL TOzIVALENT TOwGREATER-THANcLcPTUNEh FORM TWOcRD FACEcSSUSdT WITH EGGSeING DOLLS
cUTEReRAL CHESS BISHOPu ROTATED NINETY DEGREESzTED TWO HUNDRED SEVENTY DEGREESoEQUIHOPPER
y ROTATED NINETY DEGREESoKINGs ROTATED NINETY DEGREESzD TWO HUNDRED SEVENTY DEGREESpNIGHT
u ROTATED FORTY-FIVE DEGREESzTED NINETY DEGREESzTED ONE HUNDRED THIRTY-FIVE DEGREES
zTED THREE HUNDRED FIFTEEN DEGREESzTED TWO HUNDRED SEVENTY DEGREES
zTED TWO HUNDRED TWENTY-FIVE DEGREESoPAWNs ROTATED NINETY DEGREESzD TWO HUNDRED SEVENTY DEGREES
oQUEENt ROTATED NINETY DEGREESzED TWO HUNDRED SEVENTY DEGREESoROOKs ROTATED NINETY DEGREES
zD TWO HUNDRED SEVENTY DEGREESoTURNED BISHOPvKINGwNIGHTvPAWNvQUEENvROOKiFACEcW LINEeMOON SYMBOL
jWITH FACEeSHEQEL SIGNeTAI LUE DIGIT EIGHTsFIVEtOURsNINEsONEsSEVENtIXsTHREEtWOsZEROmLETTER FINAL BzD
zKzMzNzNGzVtHIGH BAyDAyFAyHAyKAzVAyLAyMAyNAzGAyPAzHAyQAySAzUAyTAzHAzSAyVAyXAzVAyYAtLOW BAxDAxFAxHA
xKAyVAxLAxMAxNAyGAxPAyHAxQAxSAyUAxTAyHAySAxVAxXAyVAxYAmSIGN LAEuVmTHAM DIGIT ONEnONE MARK-1w2
mVOWEL SIGN AAzYyEyYxExIIyYxOyAzYyYxUyEzYyUyYxVOWEL SHORTENERdA ABBREVIATION SIGNfCOMMAfDANDA
gIGIT EIGHTlFIVEmOURlNINElONElSEVENmIXlTHREEmWOlZEROgOUBLE COMMAmDANDAfGAP FILLERfINSERTION SIGN
fLETTER AnAnInUmBAnHAmCAnHAmDAnDAoHAnHAmEmGAnHAmHAmInImJAnHAmKAnHAmLAnHAmMAnHAmNAnGAoHAnHAnNAnYAoHA
mOmPAnHAmRAnHAmSAnHAnSAmTAnHAnTAoHAmUnUmVEDIC ANUSVARAnOCALIC LvLuRvRmWAmYAfOMfPLACEHOLDER MARK
fSANDHI MARKgIDDHIhGN ANUSVARAlVAGRAHAkCANDRABINDUkFINAL ANUSVARAkJIHVAMULIYAkNUKTAkUPADHMANIYA
kVIRAMAmSARGAfVOWEL SIGN AArIrUqEqIrIqOqUrUqVOCALIC LzLyRzRdLINE LEFTiRIGHTdSPAPERcXT LINEfPAGE
bIGHT WITH STARScNJAbKO COMBINING DOUBLE DOT ABOVEoLONG DESCENDING TONEtHIGH TONEtLOW TONE
tRISING TONEoNASALIZATION MARKoSHORT HIGH TONEuLOW TONEuRISING TONEhMAeDANTAYALANfIGIT EIGHTkFIVE
lOURkNINEkONEkSEVENlIXkTHREElWOkZEROfOROME SIGNeEXCLAMATION MARKeHIGH TONE APOSTROPHEeLAJANYALAN
fETTER AlBAlCHAlDAnGBASINNAlEmElFAlGBAlHAlIlJAmONA CHAqJAqRAlKAlLAlMAlNmAn WOLOSOmYAo WOLOSOlOmOlPA
lRAmRAlSAlTAlUlWAlYAfOW TONE APOSTROPHEeSYMBOL GBAKURUNENlOO DENNENeTAMAN SIGNbLbNBSPbO BICYCLES
eREAK HEREdENTRYi SIGNdMOBILE PHONESdONE UNDER EIGHTEEN SYMBOLdPEDESTRIANSeIRACYdSMOKING SYMBOL
c-BREAK SPACEcMINAL DIGIT SHAPESeSMA SIGNcN-BREAKING HYPHENePOTABLE WATER SYMBOLdFORKINGcR
dDIC MARK SIGNdMAL SUBGROUP OFs OR EQUAL TOdTH EAST AND SOUTH WEST ARROWmRROWq AND SOUTH EAST ARROW
rCROSSING NORTH WEST ARROWz SOUTH EAST ARROWrWITH HOOKlBLACK ARROWlDOUBLE ARROWlPOINTING BUDuLEAF
uVINE LEAFlSANS-SERIF ARROWlTRIANGLE-HEADED ARROWzD ARROW TO BARlWHITE ARROW
gINDIC FRACTION ONE EIGHTHzHALFzQUARTERzSIXTEENTHvTHREE QUARTERSzE SIXTEENTHSmPLACEHOLDER MARK
mQUANTITY MARKpRTER MARKmRUPEE MARKgWEST AND SOUTH EAST ARROWmRROWq AND NORTH EAST ARROW
rCROSSING NORTH EAST ARROWrTO CORNERuLONG BARrWITH HOOKlBLACK ARROWlDOUBLE ARROWlPOINTING BUDuLEAF
uVINE LEAFlSANS-SERIF ARROWlTRIANGLE-HEADED ARROWzD ARROW TO BARlWHITE ARROWfEAST-POINTING AIRPLANE
cSEcT A SUBSET OFiPERSET OFfLMOST EQUAL TOfN ELEMENT OFfSYMPTOTICALLY EQUAL TOeCHECK MARKeEQUAL TO
hIVALENT TOeGREATER-THANeIDENTICAL TOeLESS-THANeNORMAL SUBGROUP OFw OR EQUAL TOePARALLEL TOeSIGN
fQUARE IMAGE OF OR EQUAL TOlORIGINAL OF OR EQUAL TOeTILDEfRUEdCHED LEFT SEMICIRCLE WITH THREE DOTS
jOWER RIGHT-SHADOWED WHITE RIGHTWARDS ARROWiRIGHT SEMICIRCLE WITH THREE DOTS
iUPPER RIGHT-SHADOWED WHITE RIGHTWARDS ARROWdEe PADhGEeBOOKi WITH DECORATIVE COVERbULdL
cMBER EIGHTEEN FULL STOPiLEVEN FULL STOPhFIFTEEN FULL STOPiOURTEEN FULL STOPhNINETEEN FULL STOP
hSEVENTEEN FULL STOPiIGNjXTEEN FULL STOPhTEN FULL STOPiHIRTEEN FULL STOPiWELVE FULL STOP
kNTY FULL STOPdERO SIGNcSHU CHARACTER-1B170u1u2u3u4u5u6u7u8u9uAuBuCuDuEuFt80u1u2u3u4u5u6u7u8u9uAuBuC
uDuEuFt90u1u2u3u4u5u6u7u8u9uAuBuCuDuEuFtA0u1u2u3u4u5u6u7u8u9uAuBuCuDuEuFtB0u1u2u3u4u5u6u7u8u9uAuBuC
uDuEuFtC0u1u2u3u4u5u6u7u8u9uAuBuCuDuEuFtD0u1u2u3u4u5u6u7u8u9uAuBuCuDuEuFtE0u1u2u3u4u5u6u7u8u9uAuBuC
uDuEuFtF0u1u2u3u4u5u6u7u8u9uAuBuCuDuEuFs200u1u2u3u4u5u6u7u8u9uAuBuCuDuEuFt10u1u2u3u4u5u6u7u8u9uAuBuC
uDuEuFt20u1u2u3u4u5u6u7u8u9uAuBuCuDuEuFt30u1u2u3u4u5u6u7u8u9uAuBuCuDuEuFt40u1u2u3u4u5u6u7u8u9uAuBuC
uDuEuFt50u1u2u3u4u5u6u7u8u9uAuBuCuDuEuFt60u1u2u3u4u5u6u7u8u9uAuBuCuDuEuFt70u1u2u3u4u5u6u7u8u9uAuBuC
uDuEuFt80u1u2u3u4u5u6u7u8u9uAuBuCuDuEuFt90u1u2u3u4u5u6u7u8u9uAuBuCuDuEuFtA0u1u2u3u4u5u6u7u8u9uAuBuC
uDuEuFtB0u1u2u3u4u5u6u7u8u9uAuBuCuDuEuFtC0u1u2u3u4u5u6u7u8u9uAuBuCuDuEuFtD0u1u2u3u4u5u6u7u8u9uAuBuC
uDuEuFtE0u1u2u3u4u5u6u7u8u9uAuBuCuDuEuFtF0u1u2u3u4u5u6u7u8u9uAuBgITERATION MARKcT AND BOLT
bYIAKENG PUACHUE HMONG CIRCLED CAxDIGIT EIGHTzGIT FIVEzGIT FOURzGIT NINEzGIT ONEzGIT SEVENzGIT SIX
zGIT THREEzGIT TWOzGIT ZEROxLETTER AzTTER AAzTTER CAzTTER DAzTTER DLAzTTER EzTTER EEzTTER FAzTTER GA
zTTER HAzTTER HAHzTTER IzTTER KAzTTER LAzTTER MAzTTER MLAzTTER NAzTTER NCAzTTER NKAzTTER NPA
zTTER NPLAzTTER NQAzTTER NRAzTTER NTAzTTER NTSAzTTER NTXAzTTER NYAzTTER OzTTER OOzTTER PAzTTER PLA
zTTER QAzTTER RAzTTER RRAzTTER SAzTTER TAzTTER TSAzTTER TXAzTTER UzTTER VAzTTER WzTTER XAzTTER XYA
zTTER YAzTTER ZAyOGOGRAM NYAJxSIGN FOR ANIMALzGN FOR INVERTEBRATEzGN FOR LOCATIONzGN FOR PERSON
zGN FOR THINGzGN XW XWyYLLABLE LENGTHENERxTONE-BzNE-DzNE-GzNE-JzNE-MzNE-SzNE-V
aOBJECT REPLACEMENT CHARACTERcLIQUE ANGLE OPENING DOWNwUPiHYPHENcSERVER EYE SYMBOL
bCR AMOUNT OF CHECKeBELT BUCKLEfOW TIEfRANCH BANK IDENTIFICATIONeCHAIRfUSTOMER ACCOUNT NUMBEReDASH
fOUBLE BACKSLASHeFORKeHOOKeINVERTED FORKcTAGONAL SIGNdOPUSbDENbFFICE BUILDINGbGHAM FEATHER MARK
gLETTER AILMnBEITHnCEIRToOLLnDAIRnEABHADHpDHADHpMHANCHOLLnFEARNnGORTnIFINoODHADHnLUISnMUINnNGEADAL
oIONnONNoRnPEITHnRUISnSAILoTRAIFnTINNEnUATHoILLEANNoRgREVERSED FEATHER MARKgSPACE MARKcONEKbHM SIGN
bIL DRUMbK HAND SIGNbL CHIKI AHADjDIGIT EIGHTpFIVEqOURpNINEpONEpSEVENqIXpTHREEqWOpZERO
jGAAHLAA TTUDDAAGjLETTER AAJsKsMsWrGrLrNGrTqEDDrNrPrRRqIHrNYrRrSqLAsArErIrOrUqOBrHrTTrVqUCrDrNNrY
jMU TTUDDAGl-GAAHLAA TTUDDAAGjPHAARKAAkUNCTUATION DOUBLE MUCAADvMUCAADjRELAAcD CHINESE HOOK MARK
mITERATION MARKeHUNGARIAN CAPITAL LETTER AzTER AAzTER AKzTER AMBzTER ANDzTER CLOSE EzTER EzTER EB
zTER ECzTER ECHzTER ECSzTER EDzTER EEzTER EFzTER EGzTER EGYzTER EHzTER EJzTER EKzTER ELzTER ELY
zTER EMzTER EMPzTER ENzTER ENCzTER ENTzTER ENT-SHAPED SIGNzTER ENYzTER EPzTER ERzTER ESzTER ESZ
zTER ETzTER ETYzTER EVzTER EZzTER EZSzTER IzTER IIzTER NIKOLSBURG OEzTER NIKOLSBURG UEzTER OzTER OEE
zTER OOzTER RUDIMENTA OEzTER RUDIMENTA UEzTER SHORT ERzTER UzTER UNKzTER USzTER UUoNUMBER FIFTYxVE
vONEy HUNDREDzTHOUSANDvTENoSMALL LETTER AzR AAzR AKzR AMBzR ANDzR CLOSE EzR EzR EBzR ECzR ECHzR ECS
zR EDzR EEzR EFzR EGzR EGYzR EHzR EJzR EKzR ELzR ELYzR EMzR EMPzR ENzR ENCzR ENTzR ENT-SHAPED SIGN
zR ENYzR EPzR ERzR ESzR ESZzR ETzR ETYzR EVzR EZzR EZSzR IzR IIzR NIKOLSBURG OEzR NIKOLSBURG UEzR O
zR OEEzR OOzR RUDIMENTA OEzR RUDIMENTA UEzR SHORT ERzR UzR UNKzR USzR UUeITALIC LETTER AsBEsCHEsDEsE
tFtKStLtMtNtRuStSuHuSsHEsItIsKAtEtHEtUsNORTHERN TSEsOsPEtHEsSHEtOUTHERN TSEsTEtHEsUtUsVEsYEsZE
lNUMERAL FIFTYvVEtONEtTENeKEYeNORTH ARABIAN LETTER AINzALEFzBEHzDADzDALzES-1zES-2zES-3zFEHzGEEM
zGHAINzHAHzHEHzKAFzKHAHzLAMzMEEMzNOONzQAFzREHzSADzTAHzTEHzTHALzTHEHzWAWzYEHzZAHzZAINsNUMBER ONEzTEN
zTWENTYePERMIC LETTER ANsBURsCHERYsDOItZHOIuITAsEtFsGAIsHAsItAtEsKOKEsLEIsMENOEsNENOEsOtOsPEEIsREI
sSHCHOOIuOOItIIsTAItSIUsUsVERtOOIsYAuTtERvIvUtRYtUsZATAtHOIhSIAN NUMBER HUNDREDtONEtTENuWENTYvO
mSIGN AsURAMAZDAAzAA-2zAAHArBAtGAsUUMISHrCArDAtHYAAUSHzH-2sIsUrFArGAsUrHArIrJAsIrKAsUrLArMAsIsUrNAsU
rPArRAsUrSAsHAsSArTAsHAsUrUrVAsIrXAsSHAAYATHIYArYArZAmWORD DIVIDERiONAL COMPUTER
eSOGDIAN FRACTION ONE HALFmLETTER ALEPHvTERNATE AYINuYINtBETHtFINAL ALEPHzBETHzHEzNUN
zNUN WITH VERTICAL TAILzSADHEzSADHE WITH VERTICAL TAILzTAWzTAW WITH VERTICAL TAILtGIMELtHEvTHtKAPH
tLAMEDHtMEMtNUNtPEtRESH-AYIN-DALETHtSADHEvMEKHuHINtTAWtWAWtYODHtZAYINnIGATURE AYIN-DALETH
mNUMBER FIVEuOURtONEw HUNDREDtTENuHIRTYvREEuWENTYvOgUTH ARABIAN LETTER ALEFzAYNzBETHzDALETHzDHADHE
zDHALETHzFEzGHAYNzGIMELzHEzHETHzKAPHzKHETHzLAMEDHzMEMzNUNzQOPHzRESHzSADHEzSAMEKHzSATzSHINzTAWzTETH
zTHAWzTHETHzWAWzYODHzZAYNsNUMBER FIFTYzONEvERIC INDICATOReTURKIC LETTER ORKHON AzABzADzAEBzAEDzAEG
zAEKzAELzAENzAERzAESzAETzAEYzAGzALzANzAQzARzASzASHzATzAYzBASHzECzELTzEMzENCzENGzENTzENYzEPzESHzEZzI
zICzIQzOzOEzOEKzOPzOQzOTsYENISEI Az ABz ADz AEz AEBz AEGz AEKz AENz AENGz AETz AEYz AGz ALz ANGz AQ
z ARz ASHz ATz AYz Ez ECz ENCz ENTz ENYz ESHz EZz Iz IQz OEz OEKz OQeUYGHUR COMBINING DOT ABOVE
zBELOWvTWO DOTS ABOVEzDOTS BELOWlLETTER ALEPHsBETHsFINAL HETHsGIMEL-HETHsKAPHsLAMEDHtESHsMEMsNUNsPE
sRESHsSADHEuMEKHtHINsTAWsWAWsYODHsZAYINlPUNCTUATION BARxFOUR DOTSxTWO BARSzO DOTSdER ADULTgMANgWOMAN
cIVEbM SYMBOLbN WITH EXCLAMATION MARK WITH LEFT RIGHT ARROW ABOVEcCOMING AUTOMOBILEjBUSjFIRE ENGINE
jPOLICE CARjTAXIcE BUTTON MOUSEeDOT LEADERiOVER TWO DOTS PUNCTUATIONd-PIECE SWIMSUITcIONbPEN BOOKhX
fCENTRE ASTERISKmBLACK STARmCROSSmTEARDROP-SPOKED ASTERISKfFILE FOLDERgOLDERfHANDS SIGNfLOCK
fMAILBOX WITH LOWERED FLAGsRAISED FLAGfSUBSEThPERSETe-CIRCUIT-OUTPUT H-TYPE SYMBOLuL-TYPE SYMBOL
fOUTLINED RIGHTWARDS ARROWdRATING SYSTEM COMMANDcHIUCHUScPOSITIONcTICAL DISCm ICONeON KEY
bR WITH DOT INSIDEcANGE BOOKhHEARTfUTANcIGINAL OFdYA AI LENGTH MARKhU LENGTH MARKgDIGIT EIGHTmFIVE
nOURmNINEmONEmSEVENnIXmTHREEnWOmZEROgFRACTION ONE EIGHTHtHALFtQUARTERtSIXTEENTHpTHREE QUARTERS
vSIXTEENTHSgISSHARgLETTER AoAoIoUnBAoHAnCAoHAnDAoDApHAoHAnEnGAoHAnHAnIoInJAoHAnKAoHAnLAoLAnMAnNAoGA
oNAoYAnOnPAoHAnRAoHAoRAnSAoHAoSAnTAoHAoTApHAnUoUnVAoOCALIC LwLvRwRnWAnYAoYAgSIGN ANUSVARAmVAGRAHA
lCANDRABINDUlNUKTAlOVERLINElVIRAMAnSARGAgVOWEL SIGN AAsIsUrErIsIrOrUsUrVOCALIC LzLLzRzRR
cNATE LEFT PARENTHESIShRIGHT PARENTHESIScTHODOX CROSSbSAGE CAPITAL LETTER AwHwIxNvBRAvCHAvDHAvEwHCHA
xKAxPAxTAySAwINvGHAvHAwYAvIvKAwHAwYAvLAvMAvNAvOwINvPAvSAwHAvTAwSAxHAvUvWAvZAwHAgSMALL LETTER AuHuIvN
tBRAtCHAtDHAtEuHCHAvKAvPAvTAwSAuINtGHAtHAuYAtItKAuHAuYAtLAtMAtNAtOuINtPAtSAuHAtTAuSAvHAtUtWAtZAuHAcC
cMANYA DIGIT EIGHToFIVEpOURoNINEoONEoSEVENpIXoTHREEpWOoZEROiLETTER AqAqLEFpBApCAYNpDEELqHApEqEpFApGA
pHApIpJApKAAFqHApLAANpMIINpNUUNpOqOpQAAFpRApSAqHIINpTApUpWAWpXApYAbTTER
dOMAN SIYAQ ALTERNATE NUMBER EIGHTzUMBER FIVEzUMBER FOURzUMBER FOUR HUNDREDzUMBER NINEzUMBER SEVEN
zUMBER SIXzUMBER SIX HUNDREDzUMBER TENzUMBER TEN THOUSANDzUMBER THREEzUMBER TWOzUMBER TWO THOUSAND
oFRACTION ONE HALFzE SIXTHoMARRATANoNUMBER EIGHTzT HUNDREDzT THOUSANDzTYzTY THOUSANDvFIFTY
zY THOUSANDxVEz HUNDREDz THOUSANDwORTYzY THOUSANDxURz HUNDREDz THOUSANDvNINEz HUNDREDz THOUSANDzTY
zTY THOUSANDvONEy HUNDREDzTHOUSANDvSEVENzN HUNDREDzN THOUSANDzNTYzNTY THOUSANDwIXy HUNDREDzTHOUSAND
yTYzY THOUSANDvTENy THOUSANDwHIRTYzTY THOUSANDxREEzE HUNDREDzE THOUSANDwWENTYzTY THOUSANDxOy HUNDRED
zTHOUSANDbUNCE SIGNcTBOX TRAYdLINED BLACK STARjGREEK CROSSjLATIN CROSSjWHITE STARbVERHEATED FACEeLAP
hPING BLACK SQUARESmWHITE AND BLACK SQUARESsSQUARESfINEbWLbXbYSTERaPACKAGEcDdDING CHARACTERcGE
e FACING UPfWITH CIRCLED TEXTlURLeReSdODAcHAWH HMONG CLAN SIGN FAJxHAMzWJxKHAByOOyWMxLAUJyISxMUAS
xPHABxTHOJySABzHEEJzWBxVAJyWJxXYOOJxYAJyEEGoONSONANT AUxCAUyHAUxHAUyLAUyNAUxLAUxMAUxNAUyCHAUyKAUyLAU
yTHAUzSAUxPLHAUxQHAUxRAUxVAUxXAUxYAUnDIGIT EIGHTtFIVEuOURtNINEtONEtSEVENuIXtTHREEuWOtZERO
nMARK CIM HOMwKESxHAVwSOxUAMwTAUMxUBnNUMBER HUNDRED MILLIONSzEDSuMILLIONSuTEN BILLIONSyTHOUSANDSxS
vRILLIONSnSIGN AVsCIM CHEEMxUAM TSHOOJwHAIS LUS NTOG NTOGwNRES TOSwPUB DAWBwTSOV ROGxXWVzV CHWVsHLI
tNUBsIB YAMsLOSsMEEJ SUABxTSEEBtUSsNQIGtTUJsTAUtHIRD-STAGE HLItXHEEJ CEEVsVOS FEEMwLUBwNRUAwSEEV
wTHIAByOMxSHAB CEEBsXAUStIABtYEEM FAIByNTXIVyRHOyTOVuOOsZWJ THAJnVOWEL KAABwVvBvIBwVvUBwVvVvWBwVuEB
vEBwVvVuIABwVvBvVuOBvOBwVvVuUABwVvBvVuWBvVcLLASdM BRANCHfDOWN HANDfTREEfUP HANDeS UP TOGETHER
eYRENE LEFT-POINTING FLEURONmTTER ALEPHsYINrBETHrDALETHrFINAL NUNrGIMELrHEtTHrKAPHrLAMEDHrMEMrNUNrPE
rQOPHrRESHrSADHEtMEKHsHINrTAWsETHrWAWrYODHrZAYINkNUMBER FIVEsOURrONErTENsHREEsWENTYtO
kRIGHT-POINTING FLEURONcNCAKESdDA FACEcPERCLIPcRACHUTEeGRAPH SEPARATORjOSjUS MARKeLLEL TO
jWITH HORIZONTAL STROKEoTILDE OPERATORdENTHESIZED DIGIT EIGHTuFIVEvOURuNINEuONEuSEVENvIXuTHREEvWO
oHANGUL CHIEUCHzUCH AwIEUCzC AzC UvHIEUHzH AvIEUNGzG AvKHIEUKHzUKH AwIYEOKzOK AvMIEUMzM AvNIEUNzN A
vPHIEUPHzUPH AwIEUPzP AvRIEULzL AvSIOSz AvTHIEUTHzUTH AwIKEUTzUT AoIDEOGRAPH ALLIANCEyCALL
zONGRATULATIONyEARTHzIGHTzNTERPRISEyFESTIVALzINANCIALzIREzIVEzOURyHAVEyLABORyMETALzOONyNAMEzINEyONE
yREACHzEPRESENTzESOURCEzESTySELFzEVENzIXzOCIETYzPECIALzTOCKzTUDYzUNzUPERVISEyTENzHREEzWOyWATERzOOD
oKOREAN CHARACTER O HUzACTER OJEONoLATIN CAPITAL LETTER AzAL LETTER BzAL LETTER CzAL LETTER D
zAL LETTER EzAL LETTER FzAL LETTER GzAL LETTER HzAL LETTER IzAL LETTER JzAL LETTER KzAL LETTER L
zAL LETTER MzAL LETTER NzAL LETTER OzAL LETTER PzAL LETTER QzAL LETTER RzAL LETTER SzAL LETTER T
zAL LETTER UzAL LETTER VzAL LETTER WzAL LETTER XzAL LETTER YzAL LETTER ZuSMALL LETTER Az LETTER B
z LETTER Cz LETTER Dz LETTER Ez LETTER Fz LETTER Gz LETTER Hz LETTER Iz LETTER Jz LETTER Kz LETTER L
z LETTER Mz LETTER Nz LETTER Oz LETTER Pz LETTER Qz LETTER Rz LETTER Sz LETTER Tz LETTER Uz LETTER V
z LETTER Wz LETTER Xz LETTER Yz LETTER ZoNUMBER EIGHTEENwLEVENvFIFTEENwOURTEENvNINETEENvSEVENTEEN
wIXTEENvTENwHIRTEENwWELVEyNTYdROTdT ALTERNATION MARKeIAL DIFFERENTIALiLINE BACKWARDnDOWNnFORWARDnUP
hLY-RECYCLED PAPER SYMBOLeNERSHIP SIGNeY POPPERcSSED SYMBOLfNGER SHIPeIVE-PULL-DOWN-OUTPUT SYMBOL
nUP-OUTPUT SYMBOLePORT CONTROLcU CIN HAU GLOTTAL STOPy FINALzVARIANTmLETTER AtBAtCAuHAtDAtEtFA
uINAL KzLzMzNzNGzPzTzWzYtGAtHAtIuAtKAuHAtLAtMAtNAuGAtOtPAuHAtRAtSAtTAuHAtUuAtVAtZAnOW-FALLING TONE
zONE FINALzONE LONGzONE LONG FINALmMID-LEVEL TONEzE FINALzE LONG FINALmRISING TONEx FINALyLONG
zONG FINALmSANDHI GLOTTAL STOPzL STOP FINALtTONEx FINALyLONGzONG FINALcW PRINTSbDFcIbEACE SYMBOLeH
eOCKdNUTSdRcDESTRIANcN OVER STAMPED ENVELOPEdCILdGUINdSIVE FACEdTAGRAMcOPLE HUGGINGcR MILLE SIGN
eSIGNeTEN THOUSAND SIGNdCENT SIGNdFORMING ARTSdMANENT PAPER SIGNdPENDICULARn WITH SdSEVERING FACE
eON BOWING DEEPLYhCLIMBINGhDOING CARTWHEELhFROWNINGhIN LOTUS POSITIONkSTEAMY ROOM
hRAISING BOTH HANDS IN CELEBRATIONhWITH BALLnLOND HAIRmCROWNmFOLDED HANDSmHEADSCARFmPOUTING FACE
gAL COMPUTERePECTIVEcSETA SIGNdO SIGNcTRI DISHbHAGS-PA DOUBLE HEAD MARKjLETTER ArLTERNATE YA
rSPIRATED FAqBAqCAsNDRABINDUrHAqDArDArZAqErEqFAqGArGAqHAqIqJAqKArHAqLAqMAqNArGArNArYAqOqPArHAqQAqRA
qSArHArMALL AqTArHArSAsHArTAsHAqUqVOICED HAvLESS SHAqWAqXAqYAqZArHAjMARK DOUBLE SHADoSHAD
jSINGLE HEAD MARKkUBJOINED LETTER RAz WAz YAlPERFIXED LETTER RAdISTOS DISC SIGN ARROWtBEEwHIVE
uOOMERANGvWuULLS LEGtCAPTIVEvRPENTRY PLANEvTuHILDuLUBuOLUMNvMBxINING OBLIQUE STROKEtDOLIUMvVEtEAGLE
tFLUTEtGAUNTLETuRATERtHELMETuIDEuORNtLIDvLYtMANACLESvTTOCKtOX BACKtPAPYRUSuEDESTRIANuLANE TREE
vUMED HEADtRAMuOSETTEtSAWuHIELDwPuLINGuMALL AXEuTRAINERtTATTOOED HEADuIARAuUNNYtVINEtWAVY BANDuOMAN
cILIPPINE DOUBLE PUNCTUATIONlSINGLE PUNCTUATIONcOENICIAN LETTER AINtLFsBETsDELTsGAMLsHEuTsKAFsLAMD
sMEMsNUNsPEsQOFsROSHsSADEtEMKtHINsTAUtETsWAUsYODsZAIlNUMBER ONEv HUNDREDsTENtHREEtWENTYuO
lWORD SEPARATORdLUSbICKeUP TRUCKcEcGd FACEeNOSEcLCROW SIGNdE OF POOdLcNATAdCHED FINGERSfING HAND
dE DECORATIONeAPPLEdWHEEL STARcSCESdTOLcTCHFORKj WITH TEE TOPbLACARDeE OF INTEREST SIGNjWORSHIP
dNCK CONSTANTp OVER TWO PIdYGROUND SLIDEeING CARD ACE OF CLUBSuDIAMONDSuHEARTSuSPADESnBACK
oLACK JOKERnEIGHT OF CLUBSwDIAMONDSwHEARTSwSPADESnFIVE OF CLUBSvDIAMONDSvHEARTSvSPADESoOOL
pUR OF CLUBSvDIAMONDSvHEARTSvSPADESnJACK OF CLUBSvDIAMONDSvHEARTSvSPADESnKING OF CLUBSvDIAMONDS
vHEARTSvSPADESoNIGHT OF CLUBSxDIAMONDSxHEARTSxSPADESnNINE OF CLUBSvDIAMONDSvHEARTSvSPADES
nQUEEN OF CLUBSwDIAMONDSwHEARTSwSPADESnRED JOKERnSEVEN OF CLUBSwDIAMONDSwHEARTSwSPADESoIX OF CLUBS
uDIAMONDSuHEARTSuSPADESnTEN OF CLUBSuDIAMONDSuHEARTSuSPADESoHREE OF CLUBSwDIAMONDSwHEARTSwSPADES
oRUMP-1u0u1u2u3u4u5u6u7u8u9t2u0u1t3t4t5t6t7t8t9oWO OF CLUBSuDIAMONDSuHEARTSuSPADESnWHITE JOKERcDcU
dNGERdS SIGNj ABOVE EQUALS SIGNkIN LEFT HALF CIRCLEnRIGHT HALF CIRCLEnTRIANGLEkWITH BLACK TRIANGLE
pCIRCUMFLEX ACCENT ABOVEpDOT BELOWpSMALL CIRCLE ABOVEqUBSCRIPT TWOpTILDE ABOVEvBELOWe-MINUS SIGNdTO
f FORM FIVEmOURlTHREEmWObMbOCKET CALCULATORcLICE CARkS REVOLVING LIGHThOFFICERcODLE
cP DIRECTIONAL FORMATTINGqISOLATEdCORNcRTABLE STEREOcSEIDONdITION INDICATORdTAL HORNhMARKl FACEeBOX
cT OF FOODdABLE WATER SYMBOLeTOdTED PLANTcUCHdLTRY LEGdND SIGNdRING LIQUIDdTING CAT FACEiFACE
cWER ON SYMBOLi-OFF SYMBOLgSLEEP SYMBOLhYMBOLbRAYER BEADScECEDESi ABOVE ALMOST EQUAL TOpEQUALS SIGN
pNOT ALMOST EQUAL TOtEQUAL TOpSINGLE-LINE EQUALS SIGNzE NOT EQUAL TOjBUT NOT EQUIVALENT TO
jOR EQUAL TOpIVALENT TOjUNDER RELATIONdGNANT MANjPERSONjWOMANdSCRIPTION TAKE
eENTATION FORM FOR VERTICAL COLONzTICAL COMMAzTICAL EM DASHzTICAL EN DASHzTICAL EXCLAMATION MARK
zTICAL HORIZONTAL ELLIPSISzTICAL IDEOGRAPHIC COMMAzTICAL IDEOGRAPHIC FULL STOP
zTICAL LEFT ANGLE BRACKETzTICAL LEFT BLACK LENTICULAR BRACKETzTICAL LEFT CORNER BRACKET
zTICAL LEFT CURLY BRACKETzTICAL LEFT DOUBLE ANGLE BRACKETzTICAL LEFT PARENTHESIS
zTICAL LEFT SQUARE BRACKETzTICAL LEFT TORTOISE SHELL BRACKETzTICAL LEFT WHITE CORNER BRACKET
zTICAL LEFT WHITE LENTICULAR BRACKETzTICAL LOW LINEzTICAL QUESTION MARKzTICAL RIGHT ANGLE BRACKET
zTICAL RIGHT BLACK LENTICULAR BRACKETzTICAL RIGHT CORNER BRACKETzTICAL RIGHT CURLY BRACKET
zTICAL RIGHT DOUBLE ANGLE BRACKETzTICAL RIGHT PARENTHESISzTICAL RIGHT SQUARE BRACKET
zTICAL RIGHT TORTOISE SHELL BRACKETzTICAL RIGHT WHITE CORNER BRACKET
zTICAL RIGHT WHITE LENTICULAR BRACKETzTICAL RIGHT WHITE LENTICULAR BRAKCETzTICAL SEMICOLON
zTICAL TWO DOT LEADERzTICAL WAVY LOW LINEdTZELdVIOUS PAGEcIMEdNCEgSSeT SCREEN SYMBOLfERh ICON
dVACY MESSAGEfTE USE ONEmTWOl-1m2cOBING CANEdHIBITED SIGNdJECTIVEdPERTY LINEeORTIONkAL TOdSERPINA
bSALTER PAHLAVI FOUR DOTS WITH CROSSz WITH DOTqLETTER ALEPHxBETHxDALETHxGIMELxHEzTHxKAPHxLAMEDH
xMEM-QOPHxNUNxPExSADHEzMEKHyHINxTAWxWAW-AYIN-RESHxYODHxZAYINqNUMBER FOURxONEzE HUNDREDxTENyHREE
yWENTYzOqSECTION MARKqTURNED SECTION MARKbU1c2cBLIC ADDRESS LOUDSPEAKERcNCTUATION SPACE
gS ELEVATUS MARKcRPLE HEARTdSEcSHPINcT LITTER IN ITS PLACE SYMBOLaQUADRANT LOWER LEFTpRIGHT
jUPPER LEFTt AND LOWER LEFT AND LOWER RIGHTzOWER RIGHTyUPPER RIGHT AND LOWER LEFT
zPPER RIGHT AND LOWER RIGHTpRIGHTu AND LOWER LEFTzLOWER LEFT AND LOWER RIGHTfUPLE INTEGRAL OPERATOR
kPRIMEdRTER NOTEdTERNION INTEGRAL OPERATORcESTION EXCLAMATION MARKjMARKiED EQUAL TOcINCUNX
cOTATION MARKaRABBITg FACEcCCOONdING CARhMOTORCYCLEcDICAL SYMBOL BOTTOMeOf BUTTONfACTIVE SIGN
cILWAY CARiTRACKdNeBOWdSED BACK OF HANDhCOMMAhDOTkTED INTERPOLATION MARKERhFISThHAND
l WITH FINGERS SPLAYEDrPART BETWEEN MIDDLE AND RING FINGERShINTERPOLATION MARKERhMC SIGNiD SIGN
iR SIGNhSQUAREcMcTdIOcZORbECEIPTdORD SEPARATORdREATIONAL VEHICLEdYCLED PAPER SYMBOL
gING SYMBOL FOR GENERIC MATERIALSvTYPE-1 PLASTICSz-2 PLASTICSz-3 PLASTICSz-4 PLASTICSz-5 PLASTICS
z-6 PLASTICSz-7 PLASTICScD APPLEeGIFT ENVELOPEcFERENCE MARKcGIONAL INDICATOR SYMBOL LETTER A
z LETTER Bz LETTER Cz LETTER Dz LETTER Ez LETTER Fz LETTER Gz LETTER Hz LETTER Iz LETTER Jz LETTER K
z LETTER Lz LETTER Mz LETTER Nz LETTER Oz LETTER Pz LETTER Qz LETTER Rz LETTER Sz LETTER Tz LETTER U
z LETTER Vz LETTER Wz LETTER Xz LETTER Yz LETTER ZeSTERED SIGNcJANG CONSONANT SIGN HwNxGwRhLETTER A
oBAoCAoDAoGAoHAoJAoKAoLAoMApBAoNApDApGAqGApYAqJAoPAoRAoSAoTAoWAoYAhSECTION MARKhVIRAMAiOWEL SIGN AI
tUsEtAtUsIsOsUcLIEVED FACEcMINDER RIBBONcPLACEMENT CHARACTERcSPONSEdTRICTED LEFT ENTRY-1w2fOOM
cTURN LEFThRIGHThSYMBOLcVERSE CHECKER BOARDiINDEXiLIGHT FOUR POINTED PINWHEEL STARkNE FEEDiSOLIDUS
p OPERATORqPRECEDING SUBSETqWITH HORIZONTAL STROKEiTILDE OPERATOR ABOVE LEFTWARDS ARROW
zOVE RIGHTWARDS ARROWhD ANGLEo WITH UNDERBARjCOMMAjDOUBLE PRIMEv QUOTATION MARKqSTROKE NOT SIGN
jEMPTY SETjFORKED PARAGRAPHOSjHAND WITH MIDDLE FINGER EXTENDEDjNOT SIGNjPILCROW SIGNkRIME
jQUESTION MARKjRAISED HAND WITH FINGERS SPLAYEDkIGHT ANGLEkOTATED FLORAL HEART BULLET
jSANS-SERIF CAPITAL LkEMICOLONjTHUMBS DOWN SIGNqUP SIGNkILDEo EQUALSkRIPLE PRIMEjVICTORY HAND
dOLVING HEARTSbHINOCEROSbIcAL SIGNcBBONg ARROW DOWN LEFTsRIGHTnLEFT DOWNsUPnRIGHT DOWNtUPnUP LEFT
qRIGHTcCE BALLfCRACKERcFLEcGHT AND LOWER ONE EIGHTH BLOCKkUPPER ONE EIGHTH BLOCKiGER BUBBLEjLE
l BRACKETt WITH DOTmDOTTED SUBSTITUTION MARKERmSUBSTITUTION MARKERmVARIANT WITH SQUAREmWITH ARC
rDOWNWARDS ZIGZAG ARROWhRC GREATER-THAN BRACKETiROW WITH CIRCLED PLUSrSMALL CIRCLE
gBLACK LENTICULAR BRACKETmTORTOISE SHELL BRACKETgCEILINGhORNER BRACKEThURLY BRACKETt LOWER HOOK
uMIDDLE PIECEuUPPER HOOKgDOTTED SUBSTITUTION BRACKETiUBLE ANGLE BRACKEToRROW WITH ROUNDED HEAD
nPARENTHESISnQUOTATION MARKnWIGGLY FENCEgFISH TAILiVE EIGHTHS BLOCKhLOORgHALF BLACK CIRCLErSTARnOCK
lFOLDERlMEDIUM SHADElRUNNING MANiND TELEPHONE RECEIVERgLOW PARAPHRASE BRACKET
gNORMAL FACTOR SEMIDIRECT PRODUCTgONE EIGHTH BLOCKkQUARTER BLOCKhPEN SQUARED DOThUTER JOIN
gPARENTHESISr EXTENSIONsLOWER HOOKsUPPER HOOKgRAISED OMISSION BRACKETgS-SHAPED BAG DELIMITER
hEMIDIRECT PRODUCTiVEN EIGHTHS BLOCKhIDEWAYS U BRACKETiNGLE QUOTATION MARKhPEAKER
n WITH ONE SOUND WAVEtTHREE SOUND WAVESjECH BUBBLEhQUARE BRACKETu EXTENSIONvLOWER CORNER
vUPPER CORNERvWITH DOUBLE STROKEz QUILLz STROKEz TICK IN BOTTOM CORNERz TICK IN TOP CORNERz UNDERBAR
hUBSTITUTION BRACKETgTACKhHIRD WHITE RIGHT POINTING INDEXiOUGHT BUBBLEiREE EIGHTHS BLOCK
mQUARTERS BLOCKhORTOISE SHELL BRACKEThRANSPOSITION BRACKETiIANGLEo ABOVE LEFT TRIANGLE
mULAR ONE QUARTER BLOCKgVERTICAL BAR WITH QUILLqOX LINEgWHITE CORNER BRACKETnURLY BRACKET
mLENTICULAR BRACKETmPARENTHESISmSQUARE BRACKETmTORTOISE SHELL BRACKEThIGGLY FENCE
f-FACING ARMENIAN ETERNITY SIGNnFISTnSVASTI SIGNy WITH DOTSgHANDED INTERLACED PENTAGRAM
gPOINTING ANGLE BRACKETpCURVED ANGLE BRACKETpDOUBLE ANGLE QUOTATION MARKpMAGNIFYING GLASS
gSHADED WHITE RIGHTWARDS ARROWhIDE ARC CLOCKWISE ARROWgTO-LEFT EMBEDDINGoISOLATEoMARKoOVERRIDE
fHAND INTERIOR PRODUCTfWARDS ARROWq ABOVE ALMOST EQUAL TOxREVERSE ALMOST EQUAL TO
zVERSE TILDE OPERATORxSHORT LEFTWARDS ARROWxTILDE OPERATORsND UPPER AND LOWER ONE EIGHTH BLOCK
rFROM BARz TO BLACK DIAMONDrOVER LEFTWARDS ARROWrTHROUGH GREATER-THANzSUPERSETzXsO BARvLACK DIAMOND
rWITH CORNER DOWNWARDSwDOTTED STEMyUBLE VERTICAL STROKEwEQUILATERAL ARROWHEADwHOOK
wLARGE TRIANGLE ARROWHEADxOOPwMEDIUM TRIANGLE ARROWHEADwNOTCHED TAILwPLUS BELOW
wSMALL EQUILATERAL ARROWHEADzLL TRIANGLE ARROWHEADxTROKEwTAILzL WITH DOUBLE VERTICAL STROKE
zL WITH VERTICAL STROKExIP DOWNWARDSz UPWARDSwVERTICAL STROKEq-TAILlBACK-TILTED SHADOWED WHITE ARROW
mLACK ARROWrCIRCLED WHITE ARROWmOTTOM SHADED WHITE ARROWlCOMPRESSED ARROWlDASHED ARROWmOUBLE ARROW
x FROM BARyWITH STROKEzITH VERTICAL STROKEx-TAILsDASH ARROWlFINGER-POST ARROW
mRONT-TILTED SHADOWED WHITE ARROWlHANDnRPOON OVER LEFTWARDS HARPOON
tWITH BARB DOWN ABOVE LEFTWARDS HARPOON WITH BARB DOWNzARB DOWN BELOW LONG DASHzARB DOWN FROM BAR
zARB DOWN TO BARzARB DOWNWARDSzARB UP ABOVE LEFTWARDS HARPOON WITH BARB UPzARB UP ABOVE LONG DASH
zARB UP ABOVE RIGHTWARDS HARPOON WITH BARB DOWNzARB UP FROM BARzARB UP TO BARzARB UPWARDSmEAVY ARROW
rCOMPRESSED ARROWlLEFT-SHADED WHITE ARROWlOPEN-HEADED ARROWlPAIRED ARROWSlQUADRUPLE ARROW
lRIGHT-SHADED WHITE ARROWmOCKETlSANS-SERIF ARROWmQUARED ARROWoIGGLE ARROWlTOP SHADED WHITE ARROW
mRIANGLE ARROWHEADt-HEADED ARROWzD ARROW OVER LEFTWARDS TRIANGLE-HEADED ARROWzD ARROW TO BAR
zD ARROW WITH BOLD SHAFTzD ARROW WITH DOUBLE HORIZONTAL STROKEzD ARROW WITH DOUBLE VERTICAL STROKE
zD ARROW WITH HEAVY SHAFTzD ARROW WITH LONG TIP DOWNWARDSzD ARROW WITH LONG TIP UPWARDS
zD ARROW WITH MEDIUM SHAFTzD ARROW WITH NARROW SHAFTzD ARROW WITH VERY HEAVY SHAFTzD DASHED ARROW
zD PAIRED ARROWSoPLE ARROWsDASH ARROWmWO HEADED ARROWo-HEADED ARROW FROM BAR
zOW WITH DOUBLE VERTICAL STROKEzOW WITH TAILzOW WITH TAIL WITH DOUBLE VERTICAL STROKE
zOW WITH TAIL WITH VERTICAL STROKEzOW WITH TRIANGLE ARROWHEADSzOW WITH VERTICAL STROKE
wTRIPLE DASH ARROWlWAVE ARROWmHITE ARROWw FROM WALLxWITHIN TRIANGLE ARROWHEADcNGe ABOVEfBUOY
fEQUAL TOfIN EQUAL TOfOPERATORfPOINTeED PLANETeING BELLcSING DIAGONAL CROSSING FALLING DIAGONAL
zSOUTH EAST ARROWbLEcIcMcObOASTED SWEET POTATOcBOT FACEcCKeETcLL OF PAPEReED-UP NEWSPAPERfR COASTER
hSKATEeING ON THE FLOOR LAUGHINGcMAN AS SIGNgCENTURIAL SIGNgDENARIUS SIGNhIMIDIA SEXTULA SIGN
hUPONDIUS SIGNgNUMERAL EIGHTpLEVENoFIFTYt EARLY FORMuTHOUSANDqVEs HUNDREDtTHOUSANDpOURoNINEoONE
r HUNDREDz THOUSANDsTHOUSANDzD C DoREVERSED ONE HUNDREDoSEVENpIXr LATE FORMoTENr THOUSANDpHREEpWELVE
qOgQUINARIUS SIGNgSEMUNCIA SIGNiSTERTIUS SIGNiXTANS SIGNkULA SIGNhILIQUA SIGNgUNCIA SIGNcOSTERcSE
eTTEcTATED CAPITAL QiFLORAL HEART BULLETiHEAVY BLACK HEART BULLETiLIGHT FOUR POINTED BLACK CUSP
iWHITE FOUR POINTED CUSPcUND PUSHPINgTARGETfED SYMBOL FOR CAItFUtLUtSHOUvUANGXItXIcWBOATbSbUBLE SIGN
cGBY FOOTBALLcLE-DELAYEDcMI DIGIT EIGHTlFIVEmOURlNINElONElSEVENmIXlTHREEmWOfFRACTION ONE HALF
sQUARTERsTHIRDoTWO THIRDSfNUMBER EIGHT HUNDREDrYmFIFTYoVE HUNDREDnORTYoUR HUNDREDmNINE HUNDREDqTY
mONE HUNDREDmSEVEN HUNDREDrTYnIX HUNDREDpTYmTENnHIRTYoREE HUNDREDnWENTYoO HUNDREDcNIC ARLAUG SYMBOL
gBELGTHOR SYMBOLgCROSS PUNCTUATIONgLETTER AC AoESCoLGIZ EOLHXoNSUZ AnBERKANAN BEORC BJARKAN BnCoALC
oEALCpNoWEORTHnDoAGAZ DAEG DoOTTED-LuNuPnEoARoHWAZ EH EoNGoTHnFEHU FEOH FE FoRANKS CASKET ACzT AESC
zT EHzT ISzT OSnGoARoEBO GYFU GpRnHAEGL HpGLAZ HnICELANDIC-YRoNGqWAZoORoSAZ IS ISS IoWAZ EOHnJERAN J
nKoAUN KrAnLAUKAZ LAGU LOGR LoONG-BRANCH-AR AEzHAGALL HzMADR MzOSS OzYRnMANNAZ MAN M
nNAUDIZ NYD NAUD NnOoEoNoOoPEN-PoS OoTHALAN ETHEL OnPERTHO PEORTH PnQnRAIDO RAD REID RnSH
pORT-TWIG-AR AyBJARKAN ByHAGALL HyMADR MyNAUD NyOSS OySOL SyTYR TyYRoIGEL LONG-BRANCH-SOL SoOWILO S
oTANnTHURISAZ THURS THORNoIWAZ TIR TYR TnURUZ UR UnVnWoUNJO WYNN WnXnYoRnZgMULTIPLE PUNCTUATION
gSINGLE PUNCTUATIONgTVIMADUR SYMBOLdNEReING SHIRT WITH SASHcPEE SIGN
cSSIAN ASTROLOGICAL SYMBOL BINOVILEzOL NOVILEzOL QUINTILEzOL SENTAGONzOL TREDECILEzOL VIGINTILE
aS IN TRIANGLEbAFETY PINhVESTcGITTARIUScILBOATcKE BOTTLE AND CUPcLT SHAKEReIREdUTING FACE
cMARITAN ABBREVIATION MARKkLETTER ALAFrBAAsITrDALATrFIrGAMANrINsTsYrKAAFrLABATrMIMrNUNrQUFrRISHrSHAN
sINGAATrTAAFsITsSAADIYrYUTrZENkMARK DAGESHpEPENTHETIC YUTpINr-ALAFpNEQUDAApOCCLUSION
lODIFIER LETTER EPENTHETIC YUTz Iz SHORT AkPUNCTUATION AFSAAQxNGEDyNAAUxRKAANUxTMAAUwBAU
wMELODIC QITSAwNEQUDAAwQITSAwSHIYYAALAAxOF MASHFAATwTURUwZAEFxIQAAkVOWEL SIGN AwAvEvIvLONG Az AAz E
z Iz UvOwVERLONG AzLONG AAvSHORT AwUKUNvUcNDWICHdS-SERIF HEAVY DOUBLE COMMA QUOTATION MARK ORNAMENT
yTURNED COMMA QUOTATION MARK ORNAMENTrLOW DOUBLE COMMA QUOTATION MARK ORNAMENTlINTERROBANG ORNAMENT
cRIcTELLITEj ANTENNAdURNcURASHTRA CONSONANT SIGN HAARUlDANDAmIGIT EIGHTrFIVEsOURrNINErONErSEVENsIX
rTHREEsWOrZEROmOUBLE DANDAlLETTER AtAtItUsBAtHAsCAtHAsDAtDAuHAtHAsEtEsGAtHAsHAsItIsJAtHAsKAtHAsLAtLA
sMAsNAtGAtNAtYAsOtOsPAtHAsRAsSAtHAtSAsTAtHAtTAuHAsUtUsVAtOCALIC Lz LLz Rz RRsYAlSIGN ANUSVARA
qCANDRABINDUqVIRAMAsSARGAlVOWEL SIGN AAxIxUwExEwIxIwOxOwUxUwVOCALIC LzALIC LLzALIC RzALIC RReOPOD
cXOPHONEbCALESdRFcHOOLg SATCHELcIcOOTERdRPIONgUScREENeWDRIVERdIPT CAPITAL BpEpFpHpIpLpMpPpR
hLIGATURE ET ORNAMENThSMALL EnGnLnOdOLLdUPLEbEALdTcCOND PLACE MEDALdTION SIGNeORcDNA
cE-NO-EVIL MONKEYdDLINGcGMENThED DIGIT EIGHTqFIVErOURqNINEqONEqSEVENrIXqTHREErWOqZEROcLFIEcMICOLON
eDIRECT PRODUCT WITH BOTTOM CLOSEDeSEXTILEcPARATED SYMBOLcRIOUS FACE WITH SYMBOLS COVERING MOUTH
dVICE MARKcSAME DOTdQUIQUADRATEcT MINUSeTRANSMIT STATEcWING NEEDLEcXTILEbGCbHADOWED WHITE CIRCLE
pLATIN CROSSpSTARdLLOW PAN OF FOODdMROCKdRADA ABBREVIATION SIGNiCONTINUATION SIGNiDANDAjIGIT EIGHT
oFIVEpOURoNINEoONEoSEVENpIXoTHREEpWOoZEROjOUBLE DANDAiEKAMjXTRA SHORT VOWEL MARKiHEADSTROKEiLETTER A
qAqIqUpBAqHApCAqHApDAqDArHAqHApEpGAqHApHApIqIpJAqHApKAqHApLAqLApMApNAqGAqNAqYApOpPAqHApRApSAqHAqSA
pTAqHAqTArHApUqUpVAqOCALIC LyLxRyRpYAiOMiSANDHI MARKjECTION MARK-1v2kPARATORjIGN ANUSVARAoVAGRAHA
nCANDRABINDUnINVERTED CANDRABINDUnJIHVAMULIYAnNUKTAnSIDDHAMnUPADHMANIYAnVIRAMApSARGAjUTRA MARK
iVOWEL MODIFIER MARKoSIGN AAuIuUtEtIuItOtPRISHTHAMATRA EtUuUtVOCALIC LzC LLzC RzC RReKdVED ICE
eIAN LETTER ADOqGEqHqIRqRErRAYqSHqWEpBIBpCHURCHpDEADpEARrTqGGqRRpFEEpGAGpHA-HAqUNGpIANqCEqFpJUDGE
pKICKpLOLLpMEASUREqIMEpNUNpOAKqILqNqOZEqRqUTpPEEPpROARpSOqUREpTHEYrIGHqOTpUPpVOWpWOErOLpYEArWpZOO
cEEPcIELDdFT INgOUTdNTO SHRINEdPcOCKED FACE WITH EXPLODING HEADdOTING STARdPPING BAGSjTROLLEY
dRT BACKSLANTED SOUTH ARROWhENT ARROW POINTING DOWNWARDS THEN NORTH EASTgDOWN TACKp WITH OVERBAR
gLEFT TACKgRIGHTWARDS ARROW ABOVE LEFTWARDS ARROWgSLANTED NORTH ARROWgUP TACKn ABOVE SHORT DOWN TACK
oWITH UNDERBARfCAKEfHAND FORMAT CONTINUING OVERLAPrDOWN STEPrLETTER OVERLAPrUP STEPfS
dULDERED OPEN BOXdWERcRIMPdUGcUFFLE PRODUCTcYbIcDDHAM DANDAjOUBLE DANDAiEND OF TEXT MARKiLETTER AqA
qIqLTERNATE UqUpBAqHApCAqHApDAqDArHAqHApEpGAqHApHApIqIpJAqHApKAqHApLApMApNAqGAqNAqYApOpPAqHApRApSA
qHAqSApTAqHArREE-CIRCLE ALTERNATE IqTArHAqWO-CIRCLE ALTERNATE Iz ALTERNATE IIpUqUpVAqOCALIC LyLxRyR
pYAiREPETITION MARK-1y2y3iSECTION MARK DOUBLE RINGzLE RING WITH RAYS
vWITH CIRCLES AND FOUR ENCLOSURESz CIRCLES AND RAYSz CIRCLES AND TWO ENCLOSURESz DOUBLE CRESCENTS
z QUADRUPLE CRESCENTSz RAYS AND DOTTED CRESCENTSz RAYS AND DOTTED DOUBLE CRESCENTS
z RAYS AND DOTTED TRIPLE CRESCENTSz SEPTUPLE CRESCENTSz TRIDENT AND DOTTED CRESCENTS
z TRIDENT AND U-SHAPED ORNAMENTSz TRIPLE CRESCENTSkPARATOR BARsDOTjIGN ANUSVARAnCANDRABINDUnNUKTA
nSIDDHAMnVIRAMApSARGAiVOWEL SIGN AAuIuLTERNATE UzATE UUuUtEtIuItOtUuUtVOCALIC RzC RR
dEWAYS BLACK DOWN POINTING INDEXpLEFT POINTING INDEXpRIGHT POINTING INDEXpUP POINTING INDEX
jWHITE DOWN POINTING INDEXpLEFT POINTING INDEXpRIGHT POINTING INDEXpUP POINTING INDEX
cGN OF THE HORNSeWRITING AIR BLOW SMALL ROTATIONSuING OUTqSUCK SMALL ROTATIONSuING INmBREATH EXHALE
tINHALEoUSH BETWEENsMULTIPLEsSINGLEmCHEEKS NEUTRALtPUFFEDtSUCKEDnOLONoMMA
mDREAMY EYEBROWS DOWN NEUTRALzWS NEUTRAL DOWNzWS NEUTRAL UPzWS UP NEUTRALnYNAMIC ARROWHEAD LARGE
zHEAD SMALLuEVERY OTHER TIMEuFASTuGRADUALuRELAXEDuSIMULTANEOUSzTANEOUS ALTERNATINGvLOWuTENSEmEARS
nXCITEMENTnYE BLINK MULTIPLEwSINGLEqWINKpBROWS STRAIGHT DOWNzIGHT NEUTRALzIGHT UP
pGAZE-FLOORPLANE CURVEDzPLANE STRAIGHTzPLANE STRAIGHT ALTERNATINGzPLANE STRAIGHT DOUBLE
uWALLPLANE CIRCLINGzLANE CURVEDzLANE STRAIGHTzLANE STRAIGHT ALTERNATINGzLANE STRAIGHT DOUBLE
pLASHES DOWNwFLUTTERINGwUPpS CLOSEDrHALF CLOSEDwOPENrOPENrSQUEEZEDrWIDE OPENvNING MOVEMENT
mFACE DIRECTION POSITION NOSE FORWARD TILTINGzN POSITION NOSE UP OR DOWN
zN POSITION NOSE UP OR DOWN TILTINGnILL MODIFIER-2z-3z-4z-5z-6oNGERnLICK LARGE MULTIPLEySINGLE
sSEQUENTIALtMALL MULTIPLEySINGLEoOORPLANE SHOULDER HIP MOVEnOREHEAD CONTACTvNEUTRALvWRINKLED
nULL STOPmGRASP BETWEENsMULTIPLEsSINGLEmHAIRoND-ANGLEw INDEXzDEX MIDDLE LITTLEzDEX MIDDLE RING
zDEX RING LITTLEzDEX RING LITTLE OUTzDEX THUMBzDEX THUMB INzDEX THUMB OUTxLITTLE INDEX
zTTLE INDEX THUMB INDEX THUMBzTTLE INDEX THUMB INDEX THUMB OUTzTTLE UPxMIDDLE RING LITTLE
zDDLE RING LITTLE INzDDLE RING LITTLE OUTxRING DOWN MIDDLE THUMB INDEX CROSSzNG LITTLErCIRCLEx INDEX
zNDEX BENTzNDEX HINGEzNDEX MIDDLEzNDEX MIDDLE CROSS LITTLEzNDEX MIDDLE CROSSEDzNDEX MIDDLE LITTLE
zNDEX MIDDLE RINGzNDEX MIDDLE THUMBzNDEX RING LITTLEyLITTLE INDEXzITTLE UPyMIDDLE RING LITTLE
zIDDLE RING LITTLE BENTzIDDLE UPyRING LITTLEsLAWv FOUR FINGERS CONJOINED
wINDEX THUMB CURVE THUMB INSIDEwMIDDLE RING LITTLE CONJOINEDzDLE RING LITTLE CONJOINED SIDEwNO THUMB
wTHUMB FORWARDzMB SIDEsUPu FIVE FINGERS SPREADz FINGERS SPREAD OPENvINDEXzX RING LITTLEzX THUMB
zX THUMB OPENvMIDDLE RING LITTLEvNO THUMBvOPENz NO THUMBz THUMB FORWARDz THUMB SIDEvTHUMB FORWARD
zB SIDEtRLICUEz INDEX RING LITTLE ONz MIDDLE RING LITTLE ONz OPENrFISTv FOUR FINGERS CONJOINED BENT
wHEELwINDEXzEX BENTzEX BENT OVER MIDDLEzEX CUPPEDzEX HINGEDzEX HINGED LOWzEX HINGED MIDDLE UP
zEX HINGED MIDDLE UP THUMB SIDEzEX MIDDLEzEX MIDDLE BENTzEX MIDDLE BENT THUMB STRAIGHT
zEX MIDDLE CONJOINEDzEX MIDDLE CONJOINED CUPPEDzEX MIDDLE CONJOINED CUPPED THUMB FORWARD
zEX MIDDLE CONJOINED HINGEDzEX MIDDLE CONJOINED HINGED THUMB SIDEzEX MIDDLE CONJOINED INDEX BENT
zEX MIDDLE CONJOINED MIDDLE BENTzEX MIDDLE CONJOINED THUMB FORWARDzEX MIDDLE CONJOINED THUMB SIDE
zEX MIDDLE CONJOINED THUMB SIDE BENTzEX MIDDLE CONJOINED THUMB SIDE CONJOINEDzEX MIDDLE CROSS LITTLE
zEX MIDDLE CROSSEDzEX MIDDLE CROSSED THUMB SIDEzEX MIDDLE HINGEDzEX MIDDLE HINGED SPREAD THUMB SIDE
zEX MIDDLE LITTLEzEX MIDDLE RAISED KNUCKLESzEX MIDDLE RINGzEX MIDDLE RING BENT
zEX MIDDLE RING CONJOINEDzEX MIDDLE STRAIGHT THUMB BENTzEX MIDDLE THUMBzEX MIDDLE THUMB ANGLED
zEX MIDDLE THUMB ANGLED OUTzEX MIDDLE THUMB BENTzEX MIDDLE THUMB CIRCLED
zEX MIDDLE THUMB CONJOINED HINGEDzEX MIDDLE THUMB CUPPEDzEX MIDDLE THUMB HINGED
zEX MIDDLE THUMB HOOKEDzEX MIDDLE UP SPREAD THUMB FORWARDzEX RAISED KNUCKLEzEX RING LITTLE
zEX THUMB ANGLED IN MIDDLE UPzEX THUMB ANGLED OUT MIDDLE UPzEX THUMB CIRCLE
zEX THUMB CIRCLED MIDDLE UPzEX THUMB CUPPED MIDDLE UPzEX THUMB CURLICUEzEX THUMB CURVE THUMB INSIDE
zEX THUMB CURVE THUMB UNDERzEX THUMB FORWARD INDEX BENTzEX THUMB FORWARD INDEX STRAIGHT
zEX THUMB HOOKzEX THUMB HOOKED MIDDLE HINGEDzEX THUMB HOOKED MIDDLE UPzEX THUMB SIDE
zEX THUMB SIDE BOTH BENTzEX THUMB SIDE INDEX BENTzEX THUMB SIDE INDEX HINGEzEX THUMB SIDE THUMB BENT
zEX THUMB SIDE THUMB CONJOINEDzEX THUMB SIDE THUMB DIAGONALzEX UP MIDDLE HINGED
zEX UP MIDDLE HINGED THUMB CONJOINEDzEX UP MIDDLE HINGED THUMB SIDEwLITTLE BENTzTLE DOWN
zTLE DOWN OTHERS CIRCLEDzTLE DOWN RIPPLE CURVEDzTLE DOWN RIPPLE STRAIGHTzTLE INDEXzTLE INDEX THUMB
zTLE RAISED KNUCKLEzTLE THUMBzTLE TOUCHES THUMBzTLE UPwMIDDLE BENT OVER INDEXzDLE DOWNzDLE LITTLE
zDLE RAISED KNUCKLEzDLE RING LITTLEzDLE THUMB ANGLED INDEX UPzDLE THUMB ANGLED OUT INDEX CROSSED
zDLE THUMB ANGLED OUT INDEX UPzDLE THUMB CIRCLED INDEX HINGEDzDLE THUMB CIRCLED INDEX UP
zDLE THUMB CUPPED INDEX UPzDLE THUMB HOOKED INDEX UPzDLE THUMB LITTLEzDLE UPzDLE UP THUMB SIDE
wRING DOWNzG INDEXzG LITTLEzG MIDDLEzG MIDDLE CONJOINEDzG MIDDLE RAISED KNUCKLESzG RAISED KNUCKLE
zG THUMBzG UPwTHUMBzMB BETWEEN INDEX MIDDLEzMB BETWEEN INDEX MIDDLE STRAIGHTzMB BETWEEN MIDDLE RING
zMB BETWEEN RING LITTLEzMB FORWARDzMB HEELzMB OVER FOUR RAISED KNUCKLESzMB OVER TWO FINGERS
zMB SIDE BENTzMB SIDE CONJOINEDzMB SIDE DIAGONALzMB UNDER FOUR FINGERSzMB UNDER INDEX BENT
zMB UNDER LITTLE UPzMB UNDER THREE FINGERSzMB UNDER TWO FINGERSsLATv BETWEEN PALM FACINGS
wFIVE FINGERS SPREADzE FINGERS SPREAD BENTzE FINGERS SPREAD FOUR BENTzE FINGERS SPREAD HINGED
zE FINGERS SPREAD HINGED NO THUMBzE FINGERS SPREAD HINGED THUMB SIDEzE FINGERS SPREAD THUMB FORWARD
xOUR FINGERSzR FINGERS BENTzR FINGERS CONJOINEDzR FINGERS CONJOINED SPLITzR FINGERS HINGEDwHEEL
zL FIVE FINGERS SPREADzL FIVE FINGERS SPREAD BENTzL FIVE FINGERS SPREAD FOUR BENTzL THUMB SIDE
wSPLIT CENTREzIT CENTRE THUMB SIDEzIT CENTRE THUMB SIDE BENTzIT INDEX THUMB SIDEzIT LITTLE
wTHUMB BENTzMB FORWARDzMB SIDErHINGEw FIVE FINGERS SPREAD OPENyOUR FINGERS CONJOINEDxINDEX
zDEX HINGEDzDEX MIDDLE LITTLEzDEX MIDDLE RINGzDEX MIDDLE RING CONJOINEDzDEX RING LITTLEzDEX THUMB
zDEX THUMB LARGEzDEX THUMB OPENzDEX THUMB SIDEzDEX THUMB SMALLxLITTLEzTTLE INDEXzTTLE INDEX THUMB
zTTLE THUMBxMIDDLEzDDLE RING LITTLExNO THUMBxOPENzEN NO THUMBzEN THUMB FORWARDzEN THUMB SIDExRING
zNG DOWN INDEX THUMB HOOK MIDDLExSMALLxTHUMB BETWEEN MIDDLE RINGzUMB SIDEzUMB SIDE TOUCHING INDEX
sOOKv CURLICUEwINDEX RING LITTLE INzEX RING LITTLE OUTzEX RING LITTLE UNDER
wMIDDLE RING LITTLE CONJOINEDzDLE RING LITTLE CONJOINED INzDLE RING LITTLE CONJOINED OUTzDLE THUMB
wRING THUMBrOVALv FIVE FINGERS SPREADwINDEXwLITTLE UPwNO THUMBwRING LITTLEwTHUMB FORWARDzMB SIDEnEAD
q MOVEMENT CIRCLEz-FLOORPLANE CURVEz-FLOORPLANE STRAIGHTz-WALLPLANE CURVEz-WALLPLANE STRAIGHT
z-WALLPLANE TILTrRIMmLIMB COMBINATIONrLENGTH-1y2y3y4y5y6y7oP LOWER OVER UPPERqUPPER OVER LOWER
pS PRESSED TOGETHERnOCATION DEPTHvHEAD NECKxIGHTvLIMBS DIGITSvTORSOvWIDTHu-FLOORPLANE SPACE
vWALLPLANE SPACEmMOUTH CLOSED CONTACTzFORWARDzNEUTRALtORNERSsFROWNx OPENyWRINKLEDsKISSw FORWARD
xWRINKLEDsOPEN CIRCLExFORWARDxOVALzAL WRINKLEDzAL YAWNxRECTANGLEzCTANGLE WRINKLEDzCTANGLE YAWN
xWRINKLEDsSMILEx OPENyWRINKLEDsTENSEx FORWARDySUCKEDsWRINKLES DOUBLEzS SINGLE
oVEMENT-DIAGONAL AWAY LARGEzONAL AWAY LARGESTzONAL AWAY MEDIUMzONAL AWAY SMALL
zONAL BETWEEN AWAY LARGEzONAL BETWEEN AWAY LARGESTzONAL BETWEEN AWAY MEDIUMzONAL BETWEEN AWAY SMALL
zONAL BETWEEN TOWARDS LARGEzONAL BETWEEN TOWARDS LARGESTzONAL BETWEEN TOWARDS MEDIUM
zONAL BETWEEN TOWARDS SMALLzONAL TOWARDS LARGEzONAL TOWARDS LARGESTzONAL TOWARDS MEDIUM
zONAL TOWARDS SMALLvFLOORPLANE ARM CIRCLE HITTING WALL LARGE DOUBLE
zRPLANE ARM CIRCLE HITTING WALL LARGE SINGLEzRPLANE ARM CIRCLE HITTING WALL MEDIUM DOUBLE
zRPLANE ARM CIRCLE HITTING WALL MEDIUM SINGLEzRPLANE ARM CIRCLE HITTING WALL SMALL DOUBLE
zRPLANE ARM CIRCLE HITTING WALL SMALL SINGLEzRPLANE BENDzRPLANE BOX LARGEzRPLANE BOX MEDIUM
zRPLANE BOX SMALLzRPLANE CHECKzRPLANE CORNER LARGEzRPLANE CORNER MEDIUMzRPLANE CORNER SMALL
zRPLANE CROSSzRPLANE CURVE COMBINEDzRPLANE CURVE HITTING CEILING LARGE
zRPLANE CURVE HITTING CEILING SMALLzRPLANE CURVE HITTING FLOOR LARGE
zRPLANE CURVE HITTING FLOOR SMALLzRPLANE CURVE LARGEzRPLANE CURVE LARGESTzRPLANE CURVE MEDIUM
zRPLANE CURVE SMALLzRPLANE DOUBLE ALTERNATINGzRPLANE DOUBLE ALTERNATING WRIST FLEX
zRPLANE DOUBLE STRAIGHTzRPLANE DOUBLE WRIST FLEXzRPLANE FINGER CIRCLES HITTING WALL DOUBLE
zRPLANE FINGER CIRCLES HITTING WALL SINGLEzRPLANE FINGER CONTACT
zRPLANE HUMP HITTING CEILING LARGE DOUBLEzRPLANE HUMP HITTING CEILING LARGE TRIPLE
zRPLANE HUMP HITTING CEILING SMALL DOUBLEzRPLANE HUMP HITTING CEILING SMALL TRIPLE
zRPLANE HUMP HITTING FLOOR LARGE DOUBLEzRPLANE HUMP HITTING FLOOR SMALL DOUBLE
zRPLANE HUMP HITTING FLOOR TRIPLE LARGE TRIPLEzRPLANE HUMP HITTING FLOOR TRIPLE SMALL TRIPLE
zRPLANE HUMP SMALLzRPLANE JAWzRPLANE LOOP HITTING CEILING LARGE DOUBLE
zRPLANE LOOP HITTING CEILING LARGE SINGLEzRPLANE LOOP HITTING CEILING SMALL DOUBLE
zRPLANE LOOP HITTING CEILING SMALL SINGLEzRPLANE LOOP HITTING FLOOR LARGE DOUBLE
zRPLANE LOOP HITTING FLOOR LARGE SINGLEzRPLANE LOOP HITTING FLOOR SMALL DOUBLE
zRPLANE LOOP HITTING FLOOR SMALL SINGLEzRPLANE LOOP SMALLzRPLANE PEAKS LARGEzRPLANE PEAKS MEDIUM
zRPLANE PEAKS SMALLzRPLANE SHAKING PARALLELzRPLANE SINGLE STRAIGHT LARGE
zRPLANE SINGLE STRAIGHT LARGESTzRPLANE SINGLE STRAIGHT MEDIUMzRPLANE SINGLE STRAIGHT SMALL
zRPLANE SINGLE WRIST FLEXzRPLANE TRIPLE ALTERNATING MOVEMENTzRPLANE TRIPLE ALTERNATING WRIST FLEX
zRPLANE TRIPLE STRAIGHT MOVEMENTzRPLANE TRIPLE WRIST FLEXzRPLANE WAVE HITTING CEILING LARGE
zRPLANE WAVE HITTING CEILING SMALLzRPLANE WAVE HITTING FLOOR LARGEzRPLANE WAVE HITTING FLOOR SMALL
zRPLANE WAVE LARGEzRPLANE WAVE SMALLzRPLANE WAVE SNAKEzRPLANE WRIST CIRCLE HITTING WALL DOUBLE
zRPLANE WRIST CIRCLE HITTING WALL SINGLEzRPLANE ZIGZAG LARGEzRPLANE ZIGZAG MEDIUM
zRPLANE ZIGZAG SMALLvHINGE DOWN SEQUENTIALzE SIDE TO SIDE SCISSORSzE UP DOWN ALTERNATING LARGE
zE UP DOWN ALTERNATING SMALLzE UP DOWN LARGEzE UP DOWN SMALLzE UP SEQUENTIAL
vWALLPLANE ARM CIRCLE MEDIUM DOUBLEzPLANE ARM CIRCLE MEDIUM SINGLEzPLANE ARM CIRCLE SMALL DOUBLE
zPLANE ARM CIRCLE SMALL SINGLEzPLANE BEND LARGEzPLANE BEND MEDIUMzPLANE BEND SMALLzPLANE BOX LARGE
zPLANE BOX MEDIUMzPLANE BOX SMALLzPLANE CHECK LARGEzPLANE CHECK MEDIUMzPLANE CHECK SMALL
zPLANE CORNER LARGEzPLANE CORNER MEDIUMzPLANE CORNER ROTATIONzPLANE CORNER SMALLzPLANE CROSS
zPLANE CURVE HALF-CIRCLE LARGEzPLANE CURVE HALF-CIRCLE LARGESTzPLANE CURVE HALF-CIRCLE MEDIUM
zPLANE CURVE HALF-CIRCLE SMALLzPLANE CURVE HITTING CHESTzPLANE CURVE HITTING FRONT WALL
zPLANE CURVE QUARTER LARGEzPLANE CURVE QUARTER LARGESTzPLANE CURVE QUARTER MEDIUM
zPLANE CURVE QUARTER SMALLzPLANE CURVE THEN STRAIGHTzPLANE CURVE THREE-QUARTER CIRCLE MEDIUM
zPLANE CURVE THREE-QUARTER CIRCLE SMALLzPLANE CURVED CROSS MEDIUMzPLANE CURVED CROSS SMALL
zPLANE DOUBLE ALTERNATINGzPLANE DOUBLE ALTERNATING WRIST FLEXzPLANE DOUBLE STRAIGHT
zPLANE DOUBLE WRIST FLEXzPLANE FINGER CIRCLES DOUBLEzPLANE FINGER CIRCLES SINGLE
zPLANE FINGER CONTACTzPLANE HUMP HITTING CHESTzPLANE HUMP HITTING FRONT WALLzPLANE HUMP LARGE
zPLANE HUMP MEDIUMzPLANE HUMP SMALLzPLANE JAWzPLANE LOOP HITTING CHESTzPLANE LOOP HITTING FRONT WALL
zPLANE LOOP LARGEzPLANE LOOP MEDIUMzPLANE LOOP SMALLzPLANE LOOP SMALL DOUBLEzPLANE PEAKS LARGE
zPLANE PEAKS MEDIUMzPLANE PEAKS SMALLzPLANE SHAKINGzPLANE SINGLE STRAIGHT LARGE
zPLANE SINGLE STRAIGHT LARGESTzPLANE SINGLE STRAIGHT MEDIUMzPLANE SINGLE STRAIGHT SMALL
zPLANE SINGLE WRIST FLEXzPLANE TRIPLE ALTERNATINGzPLANE TRIPLE ALTERNATING WRIST FLEX
zPLANE TRIPLE STRAIGHT MOVEMENTzPLANE TRIPLE WRIST FLEXzPLANE WAVE CURVE DOUBLE LARGE
zPLANE WAVE CURVE DOUBLE MEDIUMzPLANE WAVE CURVE DOUBLE SMALLzPLANE WAVE CURVE TRIPLE LARGE
zPLANE WAVE CURVE TRIPLE MEDIUMzPLANE WAVE CURVE TRIPLE SMALLzPLANE WAVE DIAGONAL PATH LARGE
zPLANE WAVE DIAGONAL PATH MEDIUMzPLANE WAVE DIAGONAL PATH SMALLzPLANE WAVE HITTING CHEST
zPLANE WAVE HITTING FRONT WALLzPLANE WRIST CIRCLE FRONT DOUBLEzPLANE WRIST CIRCLE FRONT SINGLE
zPLANE ZIGZAG LARGEzPLANE ZIGZAG MEDIUMzPLANE ZIGZAG SMALLmNECKnOSE CONTACTrNEUTRALrWIGGLESsRINKLES
mPARENTHESISmROTATION MODIFIER-10zFIER-11zFIER-12zFIER-13zFIER-14zFIER-15zFIER-16zFIER-2zFIER-3
zFIER-4zFIER-5zFIER-6zFIER-7zFIER-8zFIER-9u-FLOORPLANE ALTERNATING
zRPLANE ALTERNATING HITTING CEILINGzRPLANE ALTERNATING HITTING FLOORzRPLANE DOUBLE
zRPLANE DOUBLE HITTING CEILINGzRPLANE DOUBLE HITTING FLOORzRPLANE SINGLE
zRPLANE SINGLE HITTING CEILINGzRPLANE SINGLE HITTING FLOORvWALLPLANE ALTERNATE
zPLANE ALTERNATING HITTING CHESTzPLANE ALTERNATING HITTING FRONT WALLzPLANE DOUBLE
zPLANE DOUBLE HITTING CHESTzPLANE DOUBLE HITTING FRONT WALLzPLANE SINGLEzPLANE SINGLE HITTING CHEST
zPLANE SINGLE HITTING FRONT WALLnUB BETWEENqMULTIPLEqSINGLEmSEMICOLONnHOULDER HIP POSITIONSzSPINE
vTILTING FROM WAISTnQUEEZE FLICK ALTERNATINGuLARGE MULTIPLEz SINGLEuSEQUENTIALvMALL MULTIPLEz SINGLE
nTRIKE BETWEENtMULTIPLEtSINGLEnURFACE BETWEENuSYMBOLSmTEETHr BITE LIPSsMOVEMENTsON LIPSz MOVEMENT
vTONGUEzUE MOVEMENToNSE CHEEKS HIGHzLOWzMIDDLEnONGUE CENTRE INSIDE MOUTHz STICKING OUT
tINSIDE MOUTH RELAXEDtLICKING LIPStMOVES AGAINST CHEEKtSTICKING OUT FARtTIP BETWEEN LIPS
xTOUCHING INSIDE MOUTHoRSO-FLOORPLANE TWISTINGsWALLPLANE CURVED BENDzNE STRAIGHT STRETCHoUCH BETWEEN
sMULTIPLEsSINGLEnRAVEL-FLOORPLANE ROTATION-FLOORPLANE ALTERNATINGzLANE ROTATION-FLOORPLANE DOUBLE
zLANE ROTATION-FLOORPLANE SINGLEzLANE ROTATION-WALLPLANE ALTERNATINGzLANE ROTATION-WALLPLANE DOUBLE
zLANE ROTATION-WALLPLANE SINGLEzLANE SHAKINGtWALLPLANE ARM SPIRAL DOUBLEzANE ARM SPIRAL SINGLE
zANE ARM SPIRAL TRIPLEzANE ROTATION-FLOORPLANE ALTERNATINGzANE ROTATION-FLOORPLANE DOUBLE
zANE ROTATION-FLOORPLANE SINGLEzANE ROTATION-WALLPLANE ALTERNATINGzANE ROTATION-WALLPLANE DOUBLE
zANE ROTATION-WALLPLANE SINGLEzANE SHAKINGmUPPER BODY TILTING FROM HIP JOINTS
mWALLPLANE SHOULDER HIP MOVEcLHOUETTE OF JAPANcMILAR ABOVE GREATER-THAN ABOVE EQUALS SIGN
oLESS-THAN ABOVE EQUALS SIGNiMINUS SIMILARiOR GREATER-THANlLESS-THANcNE WAVE
dGLE CHARACTER INTRODUCERhGRAPHIC CHARACTER INTRODUCERhHIGH-REVERSED-9 QUOTATION MARK
hLEFT-POINTING ANGLE QUOTATION MARKiOW-9 QUOTATION MARKhRIGHT-POINTING ANGLE QUOTATION MARK
hSHIFT THREEoWOg-SHIFT-2n3dHALA ARCHAIC DIGIT EIGHTwFIVExOURwNINEwONEwSEVENxIXwTHREExWO
qNUMBER EIGHTYxFIFTYyORTYxNINETYxONE HUNDREDzE THOUSANDxSEVENTYyIXTYxTENyHIRTYyWENTYiLETTER AAYANNA
qEEYANNArYANNAqIYANNAqLPAPRAANA BAYANNAz CAYANNAz DAYANNAz DDAYANNAz GAYANNAz JAYANNAz KAYANNA
z PAYANNAz TAYANNAz TTAYANNAqMBA BAYANNAqUYANNAqYANNApDANTAJA LAYANNAxNAYANNAxSAYANNApEEYANNAqYANNA
pFAYANNApHAYANNApIIYANNAqLUUYANNAsYANNAqRUUYANNAsYANNAqYANNApKANTAJA NAASIKYAYApMAHAAPRAANA BAYANNA
zA CAYANNAzA DAYANNAzA DDAYANNAzA GAYANNAzA JAYANNAzA KAYANNAzA PAYANNAzA TAYANNAzA TTAYANNArYANNA
qUURDHAJA LAYANNAzNAYANNAzSAYANNApOOYANNAqYANNApRAYANNApSANYAKA DAYANNAyDAYANNAxGAYANNAxJAYANNA
pTAALUJA NAASIKYAYAxSANYOOGA NAAKSIKYAYAzYANNApUUYANNAqYANNApVAYANNApYAYANNAjITH DIGIT EIGHTtFIVE
uOURtNINEtONEtSEVENuIXtTHREEuWOtZEROiPUNCTUATION KUNDDALIYAiSIGN AL-LAKUNAoNUSVARAYAnCANDRABINDU
nVISARGAYAiVOWEL SIGN AELA-PILLAtDIGA AEDA-PILLAyGAETTA-PILLAzAYANUKITTAyIS-PILLAyKOMBUVAyPAA-PILLA
tGAETTA-PILLAvYANUKITTAtKETTI AEDA-PILLAzIS-PILLAzPAA-PILLAuOMBU DEKAyVAzA HAA AELA-PILLA
zA HAA DIGA AELA-PILLAzA HAA GAYANUKITTAcX PETALLED BLACK AND WHITE FLORETTEfOINTED BLACK STAR
mPINWHEEL STARmSTAR WITH MIDDLE DOTd-PER-EM SPACEdTEEN POINTED ASTERISKbKATEBOARDcI AND SKI BOOTdER
cULLf AND CROSSBONESdNKbLANTED EQUAL TO OR GREATER-THANzER-THAN WITH DOT INSIDEuLESS-THAN
zTHAN WITH DOT INSIDEiNORTH ARROW WITH HOOKED HEADzHORIZONTAL TAILdVONIC ASTERISKcED
dEPING ACCOMMODATIONjFACEjSYMBOLfY FACEdUTH OR SPYcICE OF PIZZAdGHTLY FROWNING FACEjSMILING FACEcOPE
eING LARGE ANDoORdT MACHINEeHbMALL AIRPLANEhMPERSANDhSTERISKgBLUE DIAMONDgCOLONiMMAkERCIAL AT
iNTAINS AS MEMBERpWITH OVERBARuVERTICAL BAR AT END OF HORIZONTAL STROKEgDOLLAR SIGNgELEMENT OF
q WITH OVERBARwVERTICAL BAR AT END OF HORIZONTAL STROKEhM DASHhQUALS SIGNhXCLAMATION MARKgFULL STOP
gGREATER-THAN SIGNgHYPHEN-MINUSgIDEOGRAPHIC COMMAgLEFT CURLY BRACKETlPARENTHESIS
lTORTOISE SHELL BRACKETiSS-THAN SIGNgNUMBER SIGNgORANGE DIAMONDgPERCENT SIGNhLUS SIGNgQUESTION MARK
gREVERSE SOLIDUShIGHT CURLY BRACKETmPARENTHESISmTORTOISE SHELL BRACKEThOMAN NUMERAL EIGHTvLEVEN
uFIFTYwVEy HUNDREDvOURuNINEuONEx HUNDREDyTHOUSANDuSEVENvIXuTENvHREEvWELVEwOgSEMICOLONgTILDE
hWO DOTS OVER ONE DOT PUNCTUATIONgVEE WITH UNDERBARfER THANm OR EQUAL TOdSH PRODUCTcILE
eING CAT FACE WITH HEART-SHAPED EYESwOPEN MOUTHiFACE WITH HALOtEART-SHAPED EYEStORNSsOPEN MOUTH
zUTH AND COLD SWEATzUTH AND SMILING EYESzUTH AND TIGHTLY-CLOSED EYESsSMILING EYES
z EYES AND HAND COVERING MOUTHz EYES AND THREE HEARTStUNGLASSESsTEARdRKING FACEcOKING SYMBOLbNAILdKE
cEEZING FACEcOW CAPPED MOUNTAINeBOARDEReFLAKEeMANh WITHOUT SNOWbOcCCER BALLdKScFT HYPHENfICE CREAM
fSHELL FLOPPY DISKeBALLeWARE-FUNCTION SYMBOLcGDIAN COMBINING CURVE ABOVEyBELOWsDOT ABOVEwBELOW
sHOOK ABOVExBELOWsLONG HOOK BELOWsRESH BELOWsSTROKE BELOWsTWO DOTS ABOVEzS BELOWiINDEPENDENT SHIN
iLETTER ALEPHqYINpBETHpFETHpGIMELpHErTHpKAPHpLAMEDHqESHpMEMpNUNpPEpRESH-AYINpSADHErMEKHqHINpTAWpWAW
pYODHpZAYINiNUMBER ONEs HUNDREDpTENqWENTYiPUNCTUATION CIRCLE WITH DOTuHALF CIRCLE WITH DOT
uTWO CIRCLES WITH DOTSyVERTICAL BARSzERTICAL BARS WITH DOTScHcLID QUILT SQUARE ORNAMENT
zNT IN BLACK SQUAREfUSh WITH OVERBARcM SIGNcON WITH RIGHTWARDS ARROW ABOVEcRA SOMPENG DIGIT EIGHT
tFIVEuOURtNINEtONEtSEVENuIXtTHREEuWOtZEROnLETTER AHuBAHuCAHuDAHuEEHvHuGAHuHAHuIHuJAHuKAHuLAHuMAEwH
uNAHvGAHvYAHuOHuPAHuRAHuSAHuTAHuUHuVAHuYAHcScUND RECORDING COPYRIGHTdTH EAST ARROW
q AND SOUTH WEST ARROWrCROSSING NORTH EAST ARROWrTO CORNERrWITH HOOKlBLACK ARROWlDOUBLE ARROW
lPOINTING BUDuLEAFuVINE LEAFlSANS-SERIF ARROWlTRIANGLE-HEADED ARROWzD ARROW TO BARlWHITE ARROW
gWEST ARROWq AND NORTH WEST ARROWrWITH HOOKlBLACK ARROWlDOUBLE ARROWlPOINTING BUDuLEAFuVINE LEAF
lSANS-SERIF ARROWlTRIANGLE-HEADED ARROWzD ARROW TO BARlWHITE ARROWcYOMBO CLUSTER-INITIAL LETTER LA
zETTER RAzETTER SAzETTER SHAiFINAL CONSONANT SIGN -AzIGN BzIGN DzIGN GzIGN KzIGN LzIGN MzIGN N
zIGN NGzIGN RzIGN SzIGN SHiGEMINATION MARKiHEAD MARK WITH MOON AND SUNzON AND SUN AND FLAME
zON AND SUN AND TRIPLE FLAMEiLETTER -ApApBAqHApCAqHApDAqDArHAqHAqZApGAqHApHApJAqHApKAqHAqSSApLApMA
pNAqGAqNAqYApPAqHApRApSAqHAqSApTAqHAqSArHAqTArHApVApYApZAqHAiMARK DOUBLE SHADnPLUTAnSHADnTSHEG
iSIGN ANUSVARAnJIHVAMULIYAnUPADHMANIYAnVISARGAjUBJOINERiTERMINAL MARK-1w2iVOWEL LENGTH MARKoSIGN AI
uUtEtItOuEtUuEtVOCALIC LzC RbPcAdCEdGHETTIdRKLEhSgING HEARTcEAK-NO-EVIL MONKEYfER
h WITH CANCELLATION STROKEnONE SOUND WAVEnTHREE SOUND WAVESfING HEAD IN SILHOUETTEdECH BALLOONeDBOAT
dSMILO SIGNcHERICAL ANGLEp OPENING LEFTyUPcIDERg WEBdRAL CALENDAR PADhNOTE PADhSHELL
cLASHING SWEAT SYMBOLcONGEdOL OF THREADeNdRTS MEDALdUTING WHALEbQUARE A OVER MiARUiMiNPEAiPAATO
iRUHUAiUhBAARERUjRiEETAiIRUiORUTOiQiUSSYERUhC OVER KGiALjPiCiDiMj CUBEDkSQUAREDiOjRPORATIONiUPhDA
jASUiBiESIiJiLiMj CUBEDkSQUAREDiORUhEEKAAiRA NAME HEISEIqMEIZIqREIWAqSYOUWAqTAISYOUjGiSUKUUDOiVhFM
iOOTjUR CORNERShGALjNMAjRONiBiHZiIGAjNIIjRUDAAiPAiURAMUnTONiYhHAjITUiEKUTAARUjRUTUiGiIRAGANA HOKAiON
jONkRUiPjAiUARADDOjIITOjRANiZhIMAGE OFp OR EQUAL TOtNOT EQUAL TOiNjINGUjTIiUhK OHMiAjIRIjRATTOkORII
iBiCALiEESUiGiHZiIROlGURAMUlMEETORUlWATTOiKiLiMj CAPITALlUBEDkSQUAREDiOOPOjRUNAiPAiTiUROONEkUZEIROiV
iWiYURIIhLEFT OPEN BOX OPERATORiMiNiOGjZENGEiXhM CUBEDjOHMkVER Sp SQUAREDjSQUAREDiAjHHAjIKUROkRU
jNSYONjRUKUiBj SMALLiEETORUjGAlTONiGiHZiIKURONjLjRIlBAARUiLiMj CUBEDkSQUAREDiOLiPAiSiU AkFkGkLkMkSkV
kWiVj MEGAiWj MEGAhNAjNOiFiMiOTTOiSiViWhONSUiOMUiRIGINAL OFs OR EQUAL TOwNOT EQUAL TOiVhPAj AMPS
jASENTOkTUiCiEEZIjNIHIkSUjSOiFiHiIASUTORUjKOkURUiMiOINTOjNDOjSITION INDICATORiPMiRiSiViWhRADk OVER S
r SQUAREDiEMUjNTOGENiIGHT OPEN BOX OPERATORjRAjTTORUiOOTiUPIIjUBURUhSAIKURUjNTIIMUiENTIlOiIRINGUiRiV
hTARGETiHZiONhUONhV OVER MhWATTOiBiITH BOTTOM HALF BLACKmCONTOURED OUTLINEmDIAGONAL CROSSHATCH FILL
mHORIZONTAL FILLmLEFT HALF BLACKnOWER LEFT DIAGONAL HALF BLACKsRIGHT DIAGONAL HALF BLACK
mORTHOGONAL CROSSHATCH FILLmRIGHT HALF BLACKmTOP HALF BLACKmUPPER LEFT DIAGONAL HALF BLACK
xTO LOWER RIGHT FILLsRIGHT DIAGONAL HALF BLACKyTO LOWER LEFT FILLmVERTICAL FILLhYAADOkRUiUAN
gD ASTERISKiCJK UNIFIED IDEOGRAPH-4E00zRAPH-4E09zRAPH-4E2DzRAPH-4E8CzRAPH-4EA4zRAPH-518DzRAPH-521D
zRAPH-524DzRAPH-5272zRAPH-53CCzRAPH-53F3zRAPH-5408zRAPH-5439zRAPH-55B6zRAPH-58F0zRAPH-591AzRAPH-5929
zRAPH-5B57zRAPH-5DE6zRAPH-5F8CzRAPH-624BzRAPH-6253zRAPH-6295zRAPH-6307zRAPH-6355zRAPH-6599zRAPH-65B0
zRAPH-6620zRAPH-6708zRAPH-6709zRAPH-6E80zRAPH-6F14zRAPH-7121zRAPH-751FzRAPH-7533zRAPH-7981zRAPH-7A7A
zRAPH-7D42zRAPH-89E3zRAPH-8CA9zRAPH-8D70zRAPH-904AzRAPH-914DjLjOOLiDOT OPERATORiEIGHT K
iFALLING DIAGONAL SLASHjIVE POINT ONEjOUR DOT PUNCTUATIONnKjREEiHCjDRjI-RESjViIDiKATAKANA DErKOKOrSA
jEYiLATIN CAPITAL LETTER AzTER BzTER CzTER DzTER EzTER FzTER GzTER HzTER IzTER JzTER KzTER LzTER M
zTER NzTER OzTER PzTER QzTER RzTER SzTER TzTER UzTER VzTER WzTER XzTER YzTER ZoSMALL LETTER D
jOGICAL ANDqORkSSLESSiMINUSjViNEWjGiOKjNE HUNDRED TWENTY PiPLUSjPViRISING DIAGONAL SLASHiSALTIREjD
jECOND SCREENkVEN POINT ONEjHVjIXTY PjMALL CIRCLEjOSjQUAREjSiTHREE DjIMESjWENTY-TWO POINT TWOkO K
iUHDjP WITH EXCLAMATION MARKiVODjSiWCeT BLACK RIGHTWARDS ARROWdIDbS2c3cAbTcADIUMdFF OF AESCULAPIUS
jHERMESdMPED ENVELOPEdNDING PERSONdR AND CRESCENTfEQUALSfOF DAVIDgPERATORfWITH LEFT HALF BLACK
kRIGHT HALF BLACKeT OF GUARDED AREAjHEADINGjPROTECTED AREAjSELECTED AREAkTRINGjTEXTdTION
eUE OF LIBERTYcEAM LOCOMOTIVEfING BOWLdNOGRAPHIC FULL STOPdTHOSCOPEcICK FIGUREm LEANING LEFTvRIGHT
nWITH ARMS RAISEDsDRESScOCK CHARTdPWATCHcRAIGHT RULERiNESSeWBERRYdESS OUTLINED WHITE STAR
dICTLY EQUIVALENT TOeNG TERMINATORcScUDIO MICROPHONEdFFED FLATBREADdPAcXbUBdSCRIPT EIGHTlQUALS SIGN
kFIVElOURkLEFT PARENTHESISkMINUSkNINEkONEkPLUS SIGNkRIGHT PARENTHESISkSEVENlIXkTHREElWOkZERO
eET ABOVE RIGHTWARDS ARROWnSUBSETpPERSEThOFj ABOVE ALMOST EQUAL TOqEQUALS SIGNqNOT EQUAL TO
qTILDE OPERATORkOR EQUAL TOv WITH DOT ABOVEkWITH NOT EQUAL TOhWITH DOTmMULTIPLICATION SIGN BELOW
mPLUS SIGN BELOWeTITUTEcCCEEDSi ABOVE ALMOST EQUAL TOpEQUALS SIGNpNOT ALMOST EQUAL TOtEQUAL TO
pSINGLE-LINE EQUALS SIGNzE NOT EQUAL TOjBUT NOT EQUIVALENT TOjOR EQUAL TOpIVALENT TOjUNDER RELATION
cMMATION BOTTOMkTOPkWITH INTEGRALcNd BEHIND CLOUDeWITH FACEdDANESE AVAGRAHAkCONSONANT SIGN PAMINGKAL
zPANYAKRAzPANYIKUzPASANGAN MAzPASANGAN WAkDIGIT EIGHTqFIVErOURqNINEqONEqSEVENrIXqTHREErWOqZERO
kLETTER AsErBAsHArCArDArEsUrFAsINAL KxMrGArHArIrJArKAsHArLAsEUrMArNAsGAsYArOrPArQArRAsEUrSAsYArTArU
rVArWArXArYArZAkPUNCTUATION BINDU BA SATANGAzDU CAKRAzDU DA SATANGAzDU KA SATANGAzDU LEU SATANGA
zDU PANGLONGzDU PURNAMAzDU SURYAkSIGN PAMAAEHrNGLAYARtWISADsYECEKpVIRAMAkVOWEL SIGN PAMEPETxNAELAENG
yEULEUNGyGHULUyOLONGyYUKUdFLOWERdRISEh OVER MOUNTAINSdSET OVER BUILDINGScPERHEROfSCRIPT EIGHT
nQUALS SIGNmFIVEnOURmLATIN SMALL LETTER IzETTER NnEFT PARENTHESISmMINUSmNINEmONEmPLUS SIGN
mRIGHT PARENTHESISmSEVENnIXmTHREEnWOmZEROgET ABOVE LEFTWARDS ARROWpSUBSETrPERSET
jBESIDE AND JOINED BY DASH WITH SUBSETqSUBSETjOFl ABOVE ALMOST EQUAL TOsEQUALS SIGNsNOT EQUAL TO
sTILDE OPERATORmOR EQUAL TOx WITH DOT ABOVEmWITH NOT EQUAL TOjPRECEDING SOLIDUSjWITH DOT
oMULTIPLICATION SIGN BELOWoPLUS SIGN BELOWfVILLAINcRFACE INTEGRALeERcSHIdPENSION RAILWAYbWAN
dSH AMPERSAND ORNAMENTcIMMERcUNG DASHbYLOTI NAGRI LETTER AuBHOvOuCHOvOuDDHOwOvHOvOuEuGHOvOuHOuIuJHO
vOuKHOvOuLOuMOuNOuOuPHOvOuROvROuSOuTHOvOvTHOwOuUnPOETRY MARK-1z2z3z4nSIGN ALTERNATE HASANTAtNUSVARA
sDVISVARAsHASANTAnVOWEL SIGN AyEyIyOOyUcMBOL FOR ACKNOWLEDGElBACKSPACEmELLlCANCELnRRIAGE RETURN
lDATA LINK ESCAPEmELETEr FORM TWOnVICE CONTROL FOURz ONEz THREEz TWOlEND OF MEDIUMsTEXTtRANSMISSION
zSSION BLOCKnQUIRYmSCAPElFILE SEPARATORmORM FEEDlGROUP SEPARATORlHORIZONTAL TABULATIONlLINE FEED
lMARKS CHAPTERlNEGATIVE ACKNOWLEDGEnWLINEmULLlRECORD SEPARATORlSAMARITAN SOURCEmHIFT INrOUTmPACE
mTART OF HEADINGuTEXTmUBSTITUTEv FORM TWOmYNCHRONOUS IDLElTYPE A ELECTRONICSlUNIT SEPARATOR
lVERTICAL TABULATIONdMETRYcNdAGOGUEdCHRONOUS IDLEcRIAC ABBREVIATION MARKhBARREKHhCOLON SKEWED LEFT
uRIGHTjNTRACTIONhDOTTED ZLAMA ANGULARuHORIZONTALhEND OF PARAGRAPHiSASA ABOVEnBELOWhFEMININE DOT
hHARKLEAN ASTERISCUSqMETOBELUSqOBELUSiBASA ABOVEnBELOWm-ESASA DOTTEDiORIZONTAL COLONhLETTER ALAPH
oBETHoDALATHpOTLESS DALATH RISHoEoFINAL SEMKATHoGAMALt GARSHUNIoHEqTHoKAPHoLAMADHoMALAYALAM BHAyJA
yLLAzLLAyNGAzNAzNNAzYAyRAySSAyTTApIMoNUNoPEqRSIAN BHETHwDHALATHwGHAMALoQAPHoREVERSED PEpISHoSADHE
pEMKATHpHINpOGDIAN FEwKHAPHwZHAINpUPERSCRIPT ALAPHoTAWpETHs GARSHUNIoWAWoYUDHs HEoZAINhMUSIC
hOBLIQUE LINE ABOVEuBELOWhPTHAHA ABOVEoBELOWoDOTTEDhQUSHSHAYAhRBASA ABOVEnBELOWiUKKAKHAiWAHA
hSUBLINEAR COLONw SKEWED LEFTzEWED RIGHTrFULL STOPjPRALINEAR COLONy SKEWED LEFTtFULL STOP
hTHREE DOTS ABOVEsBELOWiWO VERTICAL DOTS ABOVEzBELOWhZQAPHA ABOVEoBELOWoDOTTEDeNGEaT-REXcSHIRTbAB
dLE TENNIS PADDLE AND BALLcCOcG AMPERSANDfPOSTROPHEfSTERISKeCIRCUMFLEX ACCENTfOLONgMMAiERCIAL AT
eDIGIT EIGHTkFIVElOURkNINEkONEkSEVENlIXkTHREElWOkZEROfOLLAR SIGNeEQUALS SIGNfXCLAMATION MARK
eFULL STOPeGRAVE ACCENTgEATER-THAN SIGNeHYPHEN-MINUSeLATIN CAPITAL LETTER AzBzCzDzEzFzGzHzIzJzKzLzM
zNzOzPzQzRzSzTzUzVzWzXzYzZkSMALL LETTER AxBxCxDxExFxGxHxIxJxKxLxMxNxOxPxQxRxSxTxUxVxWxXxYxZ
fEFT CURLY BRACKETjPARENTHESISjSQUARE BRACKETgSS-THAN SIGNfOW LINEeNUMBER SIGNePERCENT SIGNfLUS SIGN
eQUESTION MARKgOTATION MARKeREVERSE SOLIDUSfIGHT CURLY BRACKETkPARENTHESISkSQUARE BRACKETeSEMICOLON
fOLIDUSfPACEeTILDEeVERTICAL LINEdALOG LETTER AqRCHAIC RApBApDApGApHApIpKApLApMApNAqGApPApRApSApTApU
pWApYAiSIGN PAMUDPODnVIRAMAiVOWEL SIGN ItUdBANWA LETTER AqBAqDAqGAqIqKAqLAqMAqNArGAqPAqSAqTAqUqWAqYA
jVOWEL SIGN IuUcI LE LETTER ApIpUEoEpEpHoFAoHAoIoKApHAoLAoMAoNApGAoOpOoPApHAoQAoSAoTApHApONE-2t3t4t5
t6pSAqHAoUpEoVAoXAoYAeTHAM COMBINING CRYPTOGRAMMIC DOTlNSONANT SIGN BAyFINAL NGA
yHIGH RATHA OR LOW PAyLA TANG LAIzOW PAyMAzEDIAL LAzEDIAL RAySAjHORA DIGIT EIGHTuFIVEvOURuNINEuONE
uSEVENvIXuTHREEvWOuZEROjLETTER AqBAqDAqEEqGREAT SAqHIGH CAwHAvFAvHAvKAwHAwXAvPAwHAvRATHAvSAwHAwSAvTA
wHAvYAqIrIqLAsErLArOW CAvHAuFAuHAuKAvHAvXAuPAvHAuRATHAuSAuTAvHAuYArUEqMAqNArGArYAqOOqRAsNAsTArUEqUrU
qWAjSIGN CAANGoDOKMAIoHANGpOYoKAANsKUUpEOWpHUEN TONE-3z4z5t-LUE KARANoMAI KANGw LAIsSAMsYAMOK
oRA HAAMpEVERSED ROTATED RANAoSAKOTqTKAANvKUUqWANoTONE-1t2oWIANGtWAAKjTHAM DIGIT EIGHTuFIVEvOURuNINE
uONEuSEVENvIXuTHREEvWOuZEROjVOWEL SIGN AvAvEvIuEuIvIuMAI SATuOvA ABOVExBELOWvOvYuTALL AAvHAM AIuUvE
vUwEeVIET LETTER HIGH BOvCHOwOvDOvFOvGOvHOvKHHOxOwOvLOvMOvNGOwOwYOvOvPHOwOvROvSOvTHOwOvVOvYOqLOW BO
uCHOvOuDOuFOuGOuHOuKHHOwOvOuLOuMOuNGOvOvYOuOuPHOvOuROuSOuTHOvOuVOuYOjMAI KANGoHITjSYMBOL HO HOI
qKOI KOIsNqNUENGqSAMjTONE MAI EKsNUENGsSONGsTHOjVOWEL AAqMqNqUEqYpEpIqApOpUqAqErAcKEOUT BOX
dRI ABBREVIATION SIGNgDIGIT EIGHTmFIVEnOURmNINEmONEmSEVENnIXmTHREEnWOmZEROgLETTER AoAoIoRCHAIC KHAoU
nBAoHAnCAoHAnDAoDApHAoHAnEnGAoHAnHAnIoInJAoHAnKAoHAnLAnMAnNAoGAoNAoYAnOnPAoHAnRAoRAnSAoHAnTAoHAoTA
pHAnUoUnVAnYAgSIGN ANUSVARAlNUKTAlVIRAMAnSARGAgVOWEL SIGN AAsIsUrErIsIrOrUsUcLLY MARK FIVElONEcMALE
dIL AND ODD SIGNhS ABOVE SIGNhU LENGTH MARKgCREDIT SIGNhURRENT SIGNgDAY SIGNhEBIT SIGNhIGIT EIGHT
mFIVEnOURmNINEmONEmSEVENnIXmTHREEnWOmZEROhRY CULTIVATION SIGNgFRACTION DOWNSCALING FACTOR KIIZH
pONE EIGHTHyIETHtFIFTHuORTIETHtHALF-1y2tONE-HUNDRED-AND-SIXTIETHtQUARTERtSIXTEENTH-1zNTH-2xY-FOURTH
tTENTHuHIRTY-SECONDvREE-HUNDRED-AND-TWENTIETHuWENTIETHpTHREE EIGHTIETHSvQUARTERSvSIXTEENTHS
zY-FOURTHSvTWENTIETHSgIN POSSESSION SIGNgLAND SIGNhETTER AoAoIoUnCAnEoEnHAnIoInJAnKAnLAoLApLAnMAnNA
oGAoNApNAoYAnOoOnPAnRAoRAnSAoHAoSAnTAoTAnUoUnVAnYAgMONTH SIGNgNUMBER ONE HUNDREDrTHOUSANDnSIGNnTEN
gOMgPUNCTUATION END OF TEXTgRUPEE SIGNgSALT PAN SIGNhIGN AAZHAAKKUmNUSVARAlCEVITUlKAACUmURUNInZHI
lMUKKURUNInTHALIYAnUVUZHAKKUlNELlPAARAMnNAMnTHAKKUmONlUZHAKKUlVAKAIYARAAnRAAKANmELImIRAMAnSARGA
hPENT SIGNhTARTING FROM SIGNgTOTAL SIGNhRADITIONAL CREDIT SIGNsNUMBER SIGNgVOWEL SIGN AAsIsUrEsErIsI
rOsOrUsUgWET CULTIVATION SIGNgYEAR SIGNcNABATA TREEdGERINEeSA DIGIT EIGHTnFIVEoOURnNINEnONEnSEVENoIX
nTHREEoWOnZEROhLETTER ACpQpWCqQqXqZpXpZoBAoCApHAoDApHAoECpQpXpZoFApINAL NGoGApHAoHApTAqTAoICpQpXpZ
oKApHAoLApONG UEXoMApCpQpXpZoNApGApHApYAoOCpQpXpZoPApHAoRAoSApHAqORT AWXuUEZoTApHApSAoUCpECqQqXqZpIC
qQqUCrQrXrZqXqZpQpXpZoVCpQpXpZoWAoXAoYAoZAeUT COMPONENT-001t2t3t4t5t6t7t8t9s10t1t2t3t4t5t6t7t8t9s20
t1t2t3t4t5t6t7t8t9s30t1t2t3t4t5t6t7t8t9s40t1t2t3t4t5t6t7t8t9s50t1t2t3t4t5t6t7t8t9s60t1t2t3t4t5t6t7t8
t9s70t1t2t3t4t5t6t7t8t9s80t1t2t3t4t5t6t7t8t9s90t1t2t3t4t5t6t7t8t9r100t1t2t3t4t5t6t7t8t9s10t1t2t3t4t5
t6t7t8t9s20t1t2t3t4t5t6t7t8t9s30t1t2t3t4t5t6t7t8t9s40t1t2t3t4t5t6t7t8t9s50t1t2t3t4t5t6t7t8t9s60t1t2
t3t4t5t6t7t8t9s70t1t2t3t4t5t6t7t8t9s80t1t2t3t4t5t6t7t8t9s90t1t2t3t4t5t6t7t8t9r200t1t2t3t4t5t6t7t8t9
s10t1t2t3t4t5t6t7t8t9s20t1t2t3t4t5t6t7t8t9s30t1t2t3t4t5t6t7t8t9s40t1t2t3t4t5t6t7t8t9s50t1t2t3t4t5t6
t7t8t9s60t1t2t3t4t5t6t7t8t9s70t1t2t3t4t5t6t7t8t9s80t1t2t3t4t5t6t7t8t9s90t1t2t3t4t5t6t7t8t9r300t1t2t3
t4t5t6t7t8t9s10t1t2t3t4t5t6t7t8t9s20t1t2t3t4t5t6t7t8t9s30t1t2t3t4t5t6t7t8t9s40t1t2t3t4t5t6t7t8t9s50
t1t2t3t4t5t6t7t8t9s60t1t2t3t4t5t6t7t8t9s70t1t2t3t4t5t6t7t8t9s80t1t2t3t4t5t6t7t8t9s90t1t2t3t4t5t6t7t8
t9r400t1t2t3t4t5t6t7t8t9s10t1t2t3t4t5t6t7t8t9s20t1t2t3t4t5t6t7t8t9s30t1t2t3t4t5t6t7t8t9s40t1t2t3t4t5
t6t7t8t9s50t1t2t3t4t5t6t7t8t9s60t1t2t3t4t5t6t7t8t9s70t1t2t3t4t5t6t7t8t9s80t1t2t3t4t5t6t7t8t9s90t1t2
t3t4t5t6t7t8t9r500t1t2t3t4t5t6t7t8t9s10t1t2t3t4t5t6t7t8t9s20t1t2t3t4t5t6t7t8t9s30t1t2t3t4t5t6t7t8t9
s40t1t2t3t4t5t6t7t8t9s50t1t2t3t4t5t6t7t8t9s60t1t2t3t4t5t6t7t8t9s70t1t2t3t4t5t6t7t8t9s80t1t2t3t4t5t6
t7t8t9s90t1t2t3t4t5t6t7t8t9r600t1t2t3t4t5t6t7t8t9s10t1t2t3t4t5t6t7t8t9s20t1t2t3t4t5t6t7t8t9s30t1t2t3
t4t5t6t7t8t9s40t1t2t3t4t5t6t7t8t9s50t1t2t3t4t5t6t7t8t9s60t1t2t3t4t5t6t7t8t9s70t1t2t3t4t5t6t7t8t9s80
t1t2t3t4t5t6t7t8t9s90t1t2t3t4t5t6t7t8t9r700t1t2t3t4t5t6t7t8t9s10t1t2t3t4t5t6t7t8t9s20t1t2t3t4t5t6t7
t8t9s30t1t2t3t4t5t6t7t8t9s40t1t2t3t4t5t6t7t8t9s50t1t2t3t4t5t6t7t8t9s60t1t2t3t4t5t6t7t8
hITERATION MARKcPE CARTRIDGEfDRIVEcURUScXIbEACUP WITHOUT HANDLEdPOTdR-OFF CALENDAR
eDROP-BARBED RIGHTWARDS ARROWjSPOKED ASTERISKcDDY BEARcLEPHONE LOCATION SIGNkON TOP OF MODEM
kRECEIVERs WITH PAGEnORDERkSIGNeSCOPEeVISIONdUGU AI LENGTH MARKhDIGIT EIGHTnFIVEoOURnNINEnONEnSEVEN
oIXnTHREEoWOnZEROhFRACTION DIGIT ONE FOR EVEN POWERS OF FOURz FOR ODD POWERS OF FOUR
wTHREE FOR EVEN POWERS OF FOURzEE FOR ODD POWERS OF FOURxWO FOR EVEN POWERS OF FOUR
z FOR ODD POWERS OF FOURwZERO FOR ODD POWERS OF FOURhLENGTH MARKjTTER ApApIpUoBApHAoCApHAoDApDAqHA
pHApZAoEpEoGApHAoHAoIpIoJApHAoKApHAoLApLAqLAoMAoNAqKAARA POLLUpGApNApYAoOpOoPApHAoRApRAqRAoSApHApSA
oTApHApSApTAqHAoUpUoVApOCALIC LxLwRxRoYAhSIGN ANUSVARAnVAGRAHAmCANDRABINDUnOMBINING ANUSVARA ABOVE
wCANDRABINDU ABOVEmNUKTAmSIDDHAMmTUUMUmVIRAMAoSARGAhVOWEL SIGN AAtItUsEtEsItIsOtOsUtUsVOCALIC Lz LL
z Rz RRcNGE SIGNdNIS RACQUET AND BALLdTcST TUBEcTRAGRAM FOR ACCUMULATIONpDVANCEpGGRAVATIONpSCENT
oBARRIERpOLD RESOLUTIONpRANCHING OUToCENTREpHANGEpLOSED MOUTHtNESSsUREpOMPLETIONtIANCEqNSTANCYrTACT
sENTIONsRARIETYoDARKENINGpECISIVENESSqFECTIVENESS OR DISTORTIONqPARTUREpIFFICULTIESqMINISHMENTrMING
qVERGENCEpOUBTpUTIESoEASEpMBELLISHMENTpNCOUNTERSqDEAVOURqLARGEMENTpTERNITYpXHAUSTIONoFAILUREpLIGHT
pOLLOWINGqSTERINGpULL CIRCLEsNESSoGATHERINGx INpOING TO MEETpREATNESSpUARDEDNESSoHARDNESS
pOLDING BACKoINCREASEqNERoJOYoKEEPING SMALLpINSHIPoLABOURINGqW OR MODELpEGIONoMASSINGpEASUREpIRED
oON THE VERGEpPPOSITIONoPACKINGqTTERNpENETRATIONpURITYoREACHqLEASEqSIDENCEsSTANCErPONSEpITUAL
oSEVERANCEpINKINGpTOPPAGErVEqRENGTHoUNITYoVASTNESS OR WASTINGoWAITINGqTCHoYOUTHFULNESS
bHAANA AABAAFILIiBAFILIhEBEFILIiEBEEFILIiYBEYFILIhIBIFILIhLETTER AINUpLIFUoBAAoCHAVIYANIoDAADHU
qVIYANIpHAALUoFAAFUoGAAFUpHAINUpNAVIYANIoHAApHAAoJAVIYANIoKAAFUpHAAoLAAMUpHAVIYANIoMEEMUoNAApOONU
oPAVIYANIoQAAFUoRAAoSAADHUpEENUpHAVIYANIqEENUoTAVIYANIpHAAsLUpOpTAAoVAAVUoWAAVUoYAAoZAAqVIYANIpO
hOABOAFILIiBOFILIiOBOOFILIhSUKUNhUBUFILIdI CHARACTER ANGKHANKHUpBO BAIMAIpCHO CHANxGvINGvOEpDO CHADA
sDEKpFO FAuNrNGMANpHO HIPsNOKHUKpKHO KHAIvONvUATvWAItRAKHANGsMUTqO KAIpLAKKHANGYAOqO CHULAsLINGqU
pMAI CHATTAWAtEKtHAN-AKATtTHOuRIsTAIKHUsYAMOKqO MApNGO NGUqIKHAHITqO NENtUpO ANGpPAIYANNOIqHINTHU
rO PHANvUNGtSAMPHAOqO PLApRO RUAqUpSARA AvAvEvI MAIMALAIzIMUANvMuEuIvIuOuUvEwEvUqO RUSIsSALAtOtUA
pTHANTHAKHATrO NANGMONTHOtPHUTHAOtTHAHANwNvONGvUNGqO PATAKsTAOpWO WAENpYAMAKKANqO YAKtING
gURRENCY SYMBOL BAHTfDIGIT EIGHTlFIVEmOURlNINElONElSEVENmIXlTHREEmWOlZEROcERE DOES NOT EXISTgEXISTS
fFOREeMODYNAMICgMETERcIN GREEK CROSSfSALTIREgPACEeKING FACEdRD PLACE MEDALcONG SANDALdUGHT BALLOON
cREE BUTTON MOUSEgCONSECUTIVE EQUALS SIGNSgDIMENSIONAL ANGLEhOT PUNCTUATIONgLEFTWARDS ARROWS
hINES CONVERGING LEFTxRIGHTgNETWORKED COMPUTERSgPOINTED BLACK STARgRAYS ABOVElBELOWlLEFTlRIGHT
hIGHTWARDS ARROWSgSPEECH BUBBLESf-D BOTTOM-LIGHTED RIGHTWARDS ARROWHEAD
iLEFT-LIGHTED DOWNWARDS EQUILATERAL ARROWHEADiRIGHT-LIGHTED UPWARDS EQUILATERAL ARROWHEAD
iTOP-LIGHTED LEFTWARDS EQUILATERAL ARROWHEADuRIGHTWARDS ARROWHEADzWARDS EQUILATERAL ARROWHEAD
gEM DASHgPER-EM SPACEcUMBS DOWN SIGNhUP SIGNdNDER CLOUD AND RAINhSTORM
bIBETAN ASTROLOGICAL SIGN -KHYUD PAz SDONG TSHUGSz SGRA GCAN -CHAR RTAGSiCANTILLATION SIGN CANG TE-U
z HEAVY BEATz LIGHT BEATz SBUB -CHALiDIGIT EIGHToFIVEpOURoHALF EIGHTtFIVEuOURtNINEtONEtSEVENuIX
tTHREEuWOtZEROoNINEoONEoSEVENpIXoTHREEpWOoZEROiKU RU KHAr BZHI MIG CANiLETTER -ApApBAqHApCAqHApDAqDA
rHAqHAqZArHApFIXED-FORM RApGAqHApHApJApKAqHAqKAqSSApLApMApNAqGAqNAqYApPAqHApRAqRApSAqHAqSApTAqHAqSA
rHAqTArHApWApYApZAqHAjOGOTYPE SIGN CHAD RTAGSwLHAG RTAGSiMARK ANG KHANG GYASzON
nBKA- SHOG GI MGO RGYANxYIG MGOoSDUS RTAGSpKA- SHOG GI MGO RGYANqUR YIG MGO
nCARET -DZUD RTAGS BZHI MIG CANzRTAGS ME LONG CANtYIG MGO PHUR SHAD MAoHE MGO
oLOSING BRDA RNYING YIG MGO SGAB MAvYIG MGO SGAB MAnDELIMITER TSHEG BSTARnGTER TSHEG
sYIG MGO -UM GTER TSHEG MAz -UM RNAM BCAD MAz TRUNCATED AoUG RTAGS GYASzONnHALANTA
nINITIAL BRDA RNYING YIG MGO MDUN MAvYIG MGO MDUN MApTERSYLLABIC TSHEGnLEADING MCHAN RTAGS
nMNYAM YIG GI MGO RGYANnNGAS BZUNG NYI ZLAySGOR RTAGSoYIS SHADsTSHEGx SHADnPALUTAnRGYA GRAM SHAD
oIN CHEN SPUNGS SHADnSBRUL SHADoHADnTRAILING MCHAN RTAGSoSA -PHRUpHEG SHADnYIG MGO TSHEG SHAD MA
iSIGN GRU CAN RGYINGSrMED RGYINGSnINVERTED MCHU CANnLCE TSA CANpI RTAGSnMAR TSHESoCHU CAN
nNYI ZLA NAA DAnRDEL DKAR GCIGyNYISySUMxRDEL NAGsNAG GCIGxNYISxSUMwRDEL DKARoJES SU NGA ROoNAM BCAD
nSNA LDANnYANG RTAGSpR TSHESjUBJOINED LETTER -AzAzBAzBHAzCAzCHAzDAzDDAzDDHAzDHAzDZAzDZHA
zFIXED-FORM RAzFIXED-FORM WAzFIXED-FORM YAzGAzGHAzHAzJAzKAzKHAzKSSAzLAzMAzNAzNGAzNNAzNYAzPAzPHAzRA
zSAzSHAzSSAzTAzTHAzTSAzTSHAzTTAzTTHAzWAzYAzZAzZHAsSIGN INVERTED MCHU CANxLCE TSA CANxMCHU CAN
jYLLABLE OMkMBOL DRIL BUpNOR BUv BZHI -KHYILwGSUM -KHYILwNYIS -KHYILpPADMA GDANqHUR PApRDO RJE
w RGYA GRAMiVOWEL SIGN AAtEuEtIuItOuOtREVERSED IzED IItUuUtVOCALIC LzC LLzC RzC RRcCKET
cE OVER INFINITYcFINAGH CONSONANT JOINERjLETTER AHAGGAR YAZHrYER YAGHqBERBER ACADEMY YAHzADEMY YAJ
qTAWELLEMET YAZrUAREG YAGHzGNzHzKzKHzNGzQzZHqYAsAsBtHsCHsDtDuHtHsFsGtHuHsHtHsJsKtHuHsLsMsNsPsQsRtRsS
tHtSsTtHtTsVsWsYsZtHtZrEsYrIrOrUjMODIFIER LETTER LABIALIZATION MARKjSEPARATOR MARKcGERf FACE
dHT TRIFOLIATE SNOWFLAKEcLDEf OPERATORo ABOVE LEFTWARDS ARROWvRIGHTWARDS ARROWpWITH DOT ABOVE
uRISING DOTSgWITH DOT ABOVEpBELOWlRING ABOVEcMER CLOCKeS WITH LEFT HALF BLACKlRIGHT HALF BLACKcNY
e TWO DOTS OVER ONE DOT PUNCTUATIONcRED FACEdHUTA ABBREVIATION SIGNjNJIiDIGIT EIGHToFIVEpOURoNINE
oONEoSEVENpIXoTHREEpWOoZEROiGVANGiLETTER AqAqIqUpBAqHApCAqHApDAqDArHAqHApEpGAqHApHApIqIpJAqHApKAqHA
pLApMApNAqGAqNAqYApOpPAqHApRApSAqHAqSApTAqHAqTArHApUqUpVAqOCALIC LyLxRyRpYAiOMiSIGN ANUSVARAoVAGRAHA
nCANDRABINDUnNUKTAnVIRAMApSARGAiVOWEL SIGN AAuIuUtEtIuItOtSHORT EzOtUuUtVOCALIC LzC LLzC RzC RR
dONIAN SIGN CAPITAL EToETbOILETcKYO TOWERcMATOcNGUEcOLBOXdTHfBRUSHcP ARC ANTICLOCKWISE ARROW
zOW WITH PLUSiCLOCKWISE ARROW WITH MINUSeCURLY BRACKETeHALF BLACK CIRCLEjINTEGRALjLEFT PARENTHESIS
jRIGHT PARENTHESISjSECTION SIGNgTeLEFT CORNERkROPjHALF BRACKETePARENTHESISeRIGHT CORNERlROP
kHALF BRACKETeSQUARE BRACKETeTORTOISE SHELL BRACKETeWITH UPWARDS ARROW ABOVE
cRTOISE SHELL BRACKETED CJK UNIFIED IDEOGRAPH-4E09zCJK UNIFIED IDEOGRAPH-4E8C
zCJK UNIFIED IDEOGRAPH-52DDzCJK UNIFIED IDEOGRAPH-5B89zCJK UNIFIED IDEOGRAPH-6253
zCJK UNIFIED IDEOGRAPH-6557zCJK UNIFIED IDEOGRAPH-672CzCJK UNIFIED IDEOGRAPH-70B9
zCJK UNIFIED IDEOGRAPH-76D7zLATIN CAPITAL LETTER ScTAL RUNOUTdO LETTER AnEmBAnREATHY AEuEvOuIvUmCHA
mDAmEnOmGAmHAmInUmJAmKAmLAmMAmNAnGAmOmPAmRAmSAmTAmUmWAmYAfSIGN RISING TONEbRACKBALLeTORdDE MARK SIGN
dINdMe CARdNSPLUTOfVERSAL INTERSECTIONcIANGLE WITH DOT ABOVEoROUNDED CORNERSoSERIFS AT BOTTOM
oUNDERBARi-HEADED RIGHTWARDS ARROWgULAR BULLETlFLAG ON POSTlRULERdCOLONdDENT EMBLEMdGRAM FOR EARTH
mFIREmHEAVENmLAKEmMOUNTAINmTHUNDERmWATERnINDdPLE COLON OPERATORhDAGGER
hHORIZONTAL BAR WITH DOUBLE VERTICAL STROKEzH TRIPLE VERTICAL STROKEhINTEGRALhNESTED GREATER-THAN
oLESS-THANhPLUSiRIMEhSOLIDUS BINARY RELATIONhTILDEhVERTICAL BAR BINARY RELATIONuDELIMITER
uRIGHT TURNSTILEuWITH HORIZONTAL STROKEcOLLfEYBUSdPHYeICAL DRINKjFISHcUEe LIGHT MOON ARTAdMPET
bUGRIK SIGNcLIPcMBLER GLASScRKEYeISH LIRA SIGNdNED AMPERSANDiNGLEhBLACK PENTAGONnSHOGI PIECE
hCAPITAL FiOMMAhDAGGERiIGIT THREEoWOhGREEK SMALL LETTER IOTAhNORTH EAST POINTING LEAF
nWEST POINTING LEAFjT SIGNhOK HAND SIGNhSANS-SERIF CAPITAL Gz Lz YiEMICOLONiMALL F
iOUTH EAST POINTING LEAFnWEST POINTING LEAFhWHITE SHOGI PIECEdTLEbWELVE POINTED BLACK STAR
cISTED RIGHTWARDS ARROWScO ASTERISKS ALIGNED VERTICALLYeBUTTON MOUSEeCONSECUTIVE EQUALS SIGNS
eDOT LEADERiPUNCTUATIONhS OVER ONE DOT PUNCTUATIONeHEARTSeINTERSECTING LOGICAL ANDzOReJOINED SQUARES
eLOGICAL AND OPERATORmOR OPERATOReMEN HOLDING HANDSeSPEECH BUBBLESeWOMEN HOLDING HANDSd-EM DASH
aUGARITIC LETTER AINrLPAqBETAqDELTArHALqGAMLArHAINqHOsTAqIqKAFrHAqLAMDAqMEMqNUNqPUqQOPAqRASHAqSADE
sMKArHINrSUqTETrHANNArOqUqWOqYODqZETArUjWORD DIVIDERbMBRELLAi ON GROUNDjWITH RAIN DROPSbNAMUSED FACE
cCERTAINTY SIGNcDERTIEdO SYMBOLcICORN FACEdONf ABOVE BAR ABOVE INTERSECTIONmINTERSECTION
gBESIDE AND JOINED WITH UNIONgWITH LOGICAL ORlMINUS SIGNlOVERBARdT SEPARATOReED SYMBOL
dVERSAL RECYCLING SYMBOLcMARRIED PARTNERSHIP SYMBOLbP ARROW THROUGH CIRCLEiHEAD
m BETWEEN TWO HORIZONTAL BARSnIN A RECTANGLE BOXdBARB LEFT DOWN BARB LEFT HARPOONxRIGHT HARPOON
iRIGHT DOWN BARB LEFT HARPOONyRIGHT HARPOONdDOWN ARROWn WITH BASEiBLACK ARROWiDOUBLE ARROW
iSANS-SERIF ARROWiTRIANGLE-HEADED ARROWiWHITE ARROWdFISH TAILdRIGHT DIAGONAL ELLIPSISdTACK
h WITH CIRCLE ABOVEc-POINTING AIRPLANEmMILITARY AIRPLANEmRED TRIANGLEmSMALL AIRPLANEsRED TRIANGLE
mTRIANGLE WITH LEFT HALF BLACKz RIGHT HALF BLACK
cPER AND LEFT AND LOWER TRIANGULAR THREE QUARTERS BLOCKlOWER ONE EIGHTH BLOCKqTRIANGULAR HALF BLOCK
kRIGHT AND LOWER TRIANGULAR THREE QUARTERS BLOCKgBLADE SCISSORSgFIVE EIGHTHS BLOCKgHALF BLOCK
q AND LOWER HALF INVERSE MEDIUM SHADElCIRCLElINVERSE MEDIUM SHADE AND LOWER HALF BLOCKtWHITE CIRCLE
lMEDIUM SHADEgLEFT BLOCK DIAGONAL LOWER CENTRE TO LOWER MIDDLE RIGHT
z LOWER CENTRE TO UPPER MIDDLE RIGHTz LOWER CENTRE TO UPPER RIGHTz LOWER LEFT TO LOWER MIDDLE RIGHT
z LOWER LEFT TO UPPER CENTREz LOWER LEFT TO UPPER MIDDLE RIGHTz LOWER MIDDLE LEFT TO UPPER CENTRE
z LOWER MIDDLE LEFT TO UPPER MIDDLE RIGHTz LOWER MIDDLE LEFT TO UPPER RIGHT
z UPPER MIDDLE LEFT TO UPPER CENTREz UPPER MIDDLE LEFT TO UPPER RIGHTlCORNER WITH DOT
lOR LOWER RIGHT CURLY BRACKET SECTIONlQUADRANT CIRCULAR ARClTO LOWER RIGHT FILLmRIANGLE
rULAR MEDIUM SHADEgONE EIGHTH BLOCKkQUARTER BLOCK
gRIGHT BLOCK DIAGONAL LOWER MIDDLE LEFT TO LOWER CENTREzL LOWER MIDDLE LEFT TO LOWER RIGHT
zL UPPER CENTRE TO LOWER MIDDLE RIGHTzL UPPER CENTRE TO LOWER RIGHT
zL UPPER CENTRE TO UPPER MIDDLE RIGHTzL UPPER LEFT TO LOWER CENTRE
zL UPPER LEFT TO LOWER MIDDLE RIGHTzL UPPER LEFT TO UPPER MIDDLE RIGHT
zL UPPER MIDDLE LEFT TO LOWER CENTREzL UPPER MIDDLE LEFT TO LOWER MIDDLE RIGHT
zL UPPER MIDDLE LEFT TO LOWER RIGHTmDROP-SHADOWED WHITE SQUAREmOR LOWER LEFT CURLY BRACKET SECTION
mPENCILmQUADRANT CIRCULAR ARCmSHADOWED WHITE CIRCLEzE SQUAREmTO LOWER LEFT FILLnRIANGLE
sULAR MEDIUM SHADEgSEVEN EIGHTHS BLOCKgTHREE EIGHTHS BLOCKmQUARTERS BLOCK
hRIANGULAR ONE QUARTER BLOCKcSIDE-DOWN FACEcWARDS ANCORAjRROWn AND RIGHT ONE EIGHTH BLOCKoFROM BAR
oLEFTWARDS OF DOWNWARDS ARROWoTO BARoWITH DOUBLE STROKEtEQUILATERAL ARROWHEADtHORIZONTAL STROKE
tLARGE TRIANGLE ARROWHEADtMEDIUM TRIANGLE ARROWHEADtNOTCHED TAILtSMALL EQUILATERAL ARROWHEAD
zTRIANGLE ARROWHEADtTIP LEFTWARDSxRIGHTWARDSiBLACK ARROWoCIRCLED WHITE ARROWiCOMPRESSED ARROW
iDASHED ARROWjOUBLE ARROWiFINGER-POST ARROW
iHARPOON WITH BARB LEFT BESIDE DOWNWARDS HARPOON WITH BARB RIGHT
z LEFT BESIDE UPWARDS HARPOON WITH BARB RIGHTz LEFT FROM BARz LEFT TO BARz LEFTWARDSz RIGHT FROM BAR
z RIGHT TO BARz RIGHTWARDSjEAVY ARROWoCOMPRESSED ARROWiPAIRED ARROWSiQUADRUPLE ARROWiROCKET
iSANS-SERIF ARROWjQUARED ARROWiTRIANGLE ARROWHEADq-HEADED ARROW
zRROW LEFTWARDS OF DOWNWARDS TRIANGLE-HEADED ARROWzRROW TO BARzRROW WITH BOLD SHAFT
zRROW WITH DOUBLE HORIZONTAL STROKEzRROW WITH HEAVY SHAFTzRROW WITH LONG TIP LEFTWARDS
zRROW WITH LONG TIP RIGHTWARDSzRROW WITH MEDIUM SHAFTzRROW WITH NARROW SHAFT
zRROW WITH VERY HEAVY SHAFTyDASHED ARROWyPAIRED ARROWSlPLE ARROWjWO HEADED ARROW
l-HEADED ARROW FROM SMALL CIRCLEzWITH TRIANGLE ARROWHEADSiWHITE ARROWt FROM BAR
zBAR WITH HORIZONTAL BARuON PEDESTALzDESTAL WITH HORIZONTAL BARzDESTAL WITH VERTICAL BAR
uWITHIN TRIANGLE ARROWHEADoDOUBLE ARROWzW ON PEDESTALbRANUSbSaVAI COMMAeDIGIT EIGHTkFIVElOURkNINE
kONEkSEVENlIXkTHREElWOkZEROeFULL STOPeQUESTION MARKeSYLLABLE AoNnBAoEpEoHApEqEpIpOqOpUoIoOpOoUnCAoE
pEoIoOpOoUnDAoEpEoHApEqEpHAqErEqIqOrOqUpIpOqOpUoIoOpOoUnEoEpNoNnFAoEpEoIoOpOoUnGAoBApEqEqNpIpOqNqOpU
oEpEpNoIoOpOoUnHApNoEpEpNoIpNoOpNpOoUpNnIoNnJAoEpEoIoOpOoUnKApNoEpEoIoOpOoPAqNpEqEqNpIpOqOpUoUnLAoE
pEpNGTHENERoIoOpOoUnMAoBApEqEpIpOqOpUoEpEoGBAqErEqIqOrOqUoIoOpOoUnNAoDApEqEpIpOqLE DOtFAtKAtMAtSOOqO
pUoEpEoGpANpENpGAqErErNqIqOrOqUpONoIoJApEqEpIpOqOpUoOpOoUoYApEqEpIpOqOpUnOoNoOpNnPAoEpEoIoOpOoUnRAoE
pEoIoOpOoUnSAoEpEoHApEqEpIpOqOpUoIoOpOoUnTAoEpEoHApEqEpIpOqOpUoIoOpOoUnUoNnVAoEpEoIoOpOoUnWApNoEpEqN
pNoIpNoOpNpOqNoUpNnYAoEpEoIoOpOoUnZAoEpEoHApEqEpIpOqOpUoIoOpOoUgMBOL BANGlDANGmO-OnONGlFAAmEENGlJONG
lKEENGmUNGlNIIlTAAmINGmONGcMPIREcRIATION SELECTOR-1u0v0v1v2v3v4v5v6v7v8v9u1v0v1v2v3v4v5v6v7v8v9u2v0
v1v2v3v4v5v6v7v8v9u3v0v1v2v3v4v5v6v7v8v9u4v0v1v2v3v4v5v6v7v8v9u5v0v1v2v3v4v5v6v7v8v9u6v0v1v2v3v4v5v6
v7v8v9u7v0v1v2v3v4v5v6v7v8v9u8v0v1v2v3v4v5v6v7v8v9u9v0v1v2v3v4v5v6v7v8v9t2u0v0v1v2v3v4v5v6v7v8v9u1v0
v1v2v3v4v5v6v7v8v9u2v0v1v2v3v4v5v6v7v8v9u3v0v1v2v3v4v5v6v7v8v9u4v0v1v2v3v4v5v6v7v8v9u5v0v1v2v3v4v5v6
u6u7u8u9t3u0u1u2u3u4u5u6u7u8u9t4u0u1u2u3u4u5u6u7u8u9t5u0u1u2u3u4u5u6u7u8u9t6u0u1u2u3u4u5u6u7u8u9t7u0
u1u2u3u4u5u6u7u8u9t8u0u1u2u3u4u5u6u7u8u9t9u0u1u2u3u4u5u6u7u8u9bECTOR OR CROSS PRODUCT
cDIC SIGN ANUSVARA ANTARGOMUKHAuBAHIRGOMUKHAuUBHAYATO MUKHAuVAMAGOMUKHAzOMUKHA WITH TAILmRDHAVISARGA
mTIKRAMAlDOUBLE ANUSVARA ANTARGOMUKHAlHEXIFORM LONG ANUSVARAlJIHVAMULIYAlLONG ANUSVARAlNIHSHVASA
lREVERSED VISARGA ANUDATTAzGA UDATTAmOTATED ARDHAVISARGAmTHANG LONG ANUSVARAlTIRYAKlUPADHMANIYA
lVISARGA ANUDATTAzTA WITH TAILtSVARITAtUDATTAz WITH TAILlYAJURVEDIC MIDLINE SVARITA
gTONE ATHARVAVEDIC INDEPENDENT SVARITAlCANDRA ABOVEsBELOWlDOT BELOWnUBLE RING ABOVEsSVARITAlKARSHANA
nTHAKA ANUDATTAlPRENKHAlRIGVEDIC KASHMIRI INDEPENDENT SVARITAnNG ABOVElSHARAlTHREE DOTS BELOW
mRIPLE SVARITAmWO DOTS BELOWlYAJURVEDIC AGGRAVATED INDEPENDENT SVARITAwINDEPENDENT SVARITA
wKATHAKA INDEPENDENT SVARITAzHAKA INDEPENDENT SVARITA SCHROEDERcRSICLE
dTICAL BAR BESIDE RIGHT TRIANGLEnDOUBLE LEFT TURNSTILEnTRIPLE RIGHT TURNSTILEnWITH HORIZONTAL STROKE
jELLIPSISjFOUR DOTSjIDEOGRAPHIC ITERATION MARKjKANA REPEAT MARKz LOWER HALFz UPPER HALF
vWITH VOICED SOUND MARKz VOICED SOUND MARK UPPER HALFjLINEn EXTENSIONoWITH CIRCLE ABOVEz BELOW
tMIDDLE DOTjMALE WITH STROKE SIGNjONE EIGHTH BLOCK-2z-3z-4z-5z-6z-7jSIX DOTSjTAB KEYmULATIONt SET
kILDEkRAFFIC LIGHTjZIGZAG LINEdY BOLD GREEK CROSSfHEAVY EIGHT POINTED BLACK STARrSPOKED ASTERISK
lFIVE SPOKED ASTERISKlGREEK CROSSlREVERSE SOLIDUSlSALTIREmIX SPOKED ASTERISKmOLIDUSlWHITE CIRCLE
rSQUAREfMUCH GREATER-THANkLESS-THANcSTAbIBRATION MODEcCTORY HANDcDEO CAMERAgGAMEfCASSETTE
cETNAMESE ALTERNATE READING MARK CAzING MARK NHAYdWDATA SQUAREcOLINcRGOcTHKUQI CAPITAL LETTER AyBBE
zEyCEzHEyDEzHEyEzIyFEyGAyHAzHAyIzJEyJEyKAyLAzLAyMEyNEzJEyOyPEyQAyREySEzHEyTEzHEyUyVEyXEyYyZE
jSMALL LETTER AwBBExEwCExHEwDExHEwExIwFEwGAwHAxHAwIxJEwJEwKAwLAxLAwMEwNExJEwOwPEwQAwREwSExHEwTExHEwU
wVEwXEwYwZEbOIDED GREEK CROSScLCANOdLEYBALLdUME INTEGRALbS1d0e0e1e2e3e4e5e6e7e8e9d1e0e1e2e3e4e5e6e7
e8e9d2e0e1e2e3e4e5e6e7e8e9d3e0e1e2e3e4e5e6e7e8e9d4e0e1e2e3e4e5e6e7e8e9d5e0e1e2e3e4e5e6e7e8e9d6e0e1e2
e3e4e5e6e7e8e9d7e0e1e2e3e4e5e6e7e8e9d8e0e1e2e3e4e5e6e7e8e9d9e0e1e2e3e4e5e6e7e8e9c2d0e0e1e2e3e4e5e6e7
e8e9d1e0e1e2e3e4e5e6e7e8e9d2e0e1e2e3e4e5e6e7e8e9d3e0e1e2e3e4e5e6e7e8e9d4e0e1e2e3e4e5e6e7e8e9d5e0e1e2
e3e4e5e6d6d7d8d9c3d0d1d2d3d4d5d6d7d8d9c4d0d1d2d3d4d5d6d7d8d9c5d0d1d2d3d4d5d6d7d8d9c6d0d1d2d3d4d5d6d7
d8d9c7d0d1d2d3d4d5d6d7d8d9c8d0d1d2d3d4d5d6d7d8d9c9d0d1d2d3d4d5d6d7d8d9bTcSbULCANUS
dGAR FRACTION FIVE EIGHTHSvSIXTHSrOUR FIFTHSqONE EIGHTHuFIFTHuHALFuNINTHuQUARTERuSEVENTHvIXTHuTENTH
vHIRDqSEVEN EIGHTHSqTHREE EIGHTHSwFIFTHSwQUARTERSrWO FIFTHSuTHIRDSqZERO THIRDSaWAFFLE
cNCHO DIGIT EIGHTnFIVEoOURnNINEnONEnSEVENoIXnTHREEoWOnZEROhLETTER ApAqNrGpNGpUoBAoCAoDAoEpNoFAoGAoHA
oIpNGoJAoKApHAoLApLHAoMAoNApGApYAoOpNqGoPApHAoRAoSApHAoTApHApRApSAoUpENoVAoWAoYApIHoZAhNGUN SIGN
hTONE KOIpNImTUPpNIdING CRESCENT MOON SYMBOLhGIBBOUS MOON SYMBOLcRANG CITI CAPITAL LETTER AzR AM
zR ANGzR ATzR BUzR DAzR EzR ENNzR ENYzR GAzR HARzR HIYOzR HOLOzR HORRzR IIzR KOzR NGAAzR NUNGzR O
zR ODDzR PUzR SIIzR SSUUzR TTEzR UCzR UUzR VIYOzR WIzR YAzR YOzR YUzR YUJmDIGIT EIGHTsFIVEtOURsNINE
sONEsSEVENtIXsTHREEtWOsZEROmNUMBER EIGHTYtFIFTYuORTYtNINETYtSEVENTYuIXTYtTENuHIRTYuWENTYmOM
mSMALL LETTER AzAMzANGzATzBUzDAzEzENNzENYzGAzHARzHIYOzHOLOzHORRzIIzKOzNGAAzNUNGzOzODDzPUzSIIzSSUU
zTTEzUCzUUzVIYOzWIzYAzYOzYUzYUJdNING SIGNcSTEBASKETcTCHdER BUFFALOgCLOSETgPOLOgWAVEfMELON
cVE ARROW POINTING DIRECTLY LEFTzTLY RIGHTfDASHdING BLACK FLAGhHAND SIGNhWHITE FLAGdY DASHfLINE
gOW LINEfOVERLINEcXING CRESCENT MOON SYMBOLhGIBBOUS MOON SYMBOLbEARY CAT FACEgFACEcDDING
dGE-TAILED RIGHTWARDS ARROWcIERSTRASS ELLIPTIC FUNCTIONdGHT LIFTERcST SYRIAC CROSSbHALEcEEL
f OF DHARMAfCHAIR SYMBOLcITE ARROW SHAFT WIDTH ONEyTWO THIRDSgBULLETgCHESS BISHOP
s ROTATED NINETY DEGREESzD TWO HUNDRED SEVENTY DEGREESmEQUIHOPPERw ROTATED NINETY DEGREESmKING
q ROTATED NINETY DEGREESzTWO HUNDRED SEVENTY DEGREESnNIGHTs ROTATED FORTY-FIVE DEGREES
zD NINETY DEGREESzD ONE HUNDRED THIRTY-FIVE DEGREESzD THREE HUNDRED FIFTEEN DEGREES
zD TWO HUNDRED SEVENTY DEGREESzD TWO HUNDRED TWENTY-FIVE DEGREESs-BISHOPtQUEENtROOKmPAWN
q ROTATED NINETY DEGREESzTWO HUNDRED SEVENTY DEGREESmQUEENr ROTATED NINETY DEGREES
z TWO HUNDRED SEVENTY DEGREESmROOKq ROTATED NINETY DEGREESzTWO HUNDRED SEVENTY DEGREESmTURNED BISHOP
tKINGuNIGHTtPAWNtQUEENtROOKhIRCLEm CONTAINING BLACK SMALL CIRCLEnWITH DOT RIGHTuWN ARROW
sLOWER LEFT QUADRANTyRIGHT QUADRANTsTWO DOTSsUPPER LEFT QUADRANTyRIGHT QUADRANThLUB SUIT
hONCAVE-SIDED DIAMONDzND WITH LEFTWARDS TICKzND WITH RIGHTWARDS TICKgDIAMOND
n CONTAINING BLACK MEDIUM DIAMONDzBLACK SMALL DIAMONDzBLACK VERY SMALL DIAMONDoIN SQUAREoSUIT
oWITH CENTRED DOThOWN POINTING BACKHAND INDEXuINDEXuLEFT HAND INDEXk-POINTING SMALL TRIANGLE
uTRIANGLEhRAUGHTS KINGpMANgEXCLAMATION MARK ORNAMENTgFLAGk WITH HORIZONTAL MIDDLE BLACK STRIPE
iORETTEjWERhOUR POINTED CUSPtSTARhROWNING FACEgHARD SHELL FLOPPY DISKhEARTl SUITjVY CHECK MARK
mSALTIRE WITH ROUNDED CORNERSiXAGONhORIZONTAL ELLIPSEiURGLASSgLARGE SQUAREiTIN CROSShEFT LANE MERGE
lPOINTING BACKHAND INDEXuINDEXk-POINTING POINTERuSMALL TRIANGLEuTRIANGLE
hOZENGE CONTAINING BLACK SMALL LOZENGEgMEDIUM DIAMONDnLOZENGEnSMALL SQUAREoQUAREoTARhOON SELENAgNIB
gPARALLELOGRAMhENNANTjTAGONgQUESTION MARK ORNAMENTgRECTANGLEhIGHT POINTING BACKHAND INDEXvINDEX
l-POINTING PENTAGONwOINTERvSMALL TRIANGLEvTRIANGLEgSCISSORShESAME DOThHOGI PIECEhMALL LOZENGEmSQUARE
nTARiILING FACEhPADE SUIThQUAREm BUTTONnCONTAINING BLACK MEDIUM SQUAREzLACK SMALL SQUARE
zLACK VERY SMALL SQUAREnWITH CENTRE VERTICAL LINEsLEFTWARDS TICKtOWER LEFT QUADRANTyRIGHT QUADRANT
sRIGHTWARDS TICKtOUNDED CORNERSsUPPER LEFT QUADRANTyRIGHT QUADRANTsVERTICAL BISECTING LINEhTARhUN
j BEHIND CLOUDw WITH RAINkWITH RAYSpSMALL CLOUDgTELEPHONEhOUCHTONE TELEPHONEhRAPEZIUM
iIANGLE CONTAINING SMALL WHITE TRIANGLEhWO-WAY LEFT WAY TRAFFICgUP POINTING BACKHAND INDEXsINDEX
i-POINTING CHEVRONsSMALL TRIANGLEsTRIANGLEzE WITH DOTgVERTICAL BARpELLIPSEpRECTANGLEjY SMALL SQUARE
f-FEATHERED RIGHTWARDS ARROWbIDE-HEADED DOWNWARDS BARB ARROWwHEAVY BARB ARROWwLIGHT BARB ARROW
wMEDIUM BARB ARROWwVERY HEAVY BARB ARROWmLEFTWARDS BARB ARROWwHEAVY BARB ARROWwLIGHT BARB ARROW
wMEDIUM BARB ARROWwVERY HEAVY BARB ARROWmNORTH EAST BARB ARROWxHEAVY BARB ARROWxLIGHT BARB ARROW
xMEDIUM BARB ARROWxVERY HEAVY BARB ARROWsWEST BARB ARROWxHEAVY BARB ARROWxLIGHT BARB ARROW
xMEDIUM BARB ARROWxVERY HEAVY BARB ARROWmRIGHTWARDS BARB ARROWxHEAVY BARB ARROWxLIGHT BARB ARROW
xMEDIUM BARB ARROWxVERY HEAVY BARB ARROWmSOUTH EAST BARB ARROWxHEAVY BARB ARROWxLIGHT BARB ARROW
xMEDIUM BARB ARROWxVERY HEAVY BARB ARROWsWEST BARB ARROWxHEAVY BARB ARROWxLIGHT BARB ARROW
xMEDIUM BARB ARROWxVERY HEAVY BARB ARROWmUPWARDS BARB ARROWuHEAVY BARB ARROWuLIGHT BARB ARROW
uMEDIUM BARB ARROWuVERY HEAVY BARB ARROWcGGLY VERTICAL LINEcLTED FLOWERcND BLOWING FACEfCHIMEeOW
dE GLASSdKING FACEcRED KEYBOARDbJbOLF FACEcMANf WITH BUNNY EARSfS BOOTShCLOTHEShHAThSANDAL
dENS SYMBOLcN SIGNcODcRD JOINERfSEPARATOR MIDDLE DOTdLD MAPdMdRIED FACEbRAPPED PRESENTcEATH PRODUCT
dNCHdSTLERScITING HANDaX IN A RECTANGLE BOXb-RAYbIANGQI BLACK CANNONpHARIOToELEPHANToGENERALoHORSE
oMANDARINoSOLDIERiRED CANNONnHARIOTmELEPHANTmGENERALmHORSEmMANDARINmSOLDIERbORaYAWNING FACE
bELLOW HEARTcN SIGNcZIDI COMBINING HAMZA MARKrMADDA MARKhHYPHENATION MARKhLETTER BEoCHHIMqIMpIMoDAD
qLoELIFpTpWpYNoFAoGAFoHAYpHAoJAoKAFpHAFoLAMr WITH DOT ABOVEoMIMoNUNoOWoPEpHEoQAFoRApHAoSADpEpHINpIN
oTApHEoUMoVAq ALTERNATE FORMoWAWoXApHEYNoYOTr WITH CIRCUMFLEX ABOVEoZAqLpEbI RADICAL BBUTmURlCHEmIP
mUOPmYnPnTlDDURmUlGAmEPmGOPnUOmOTlHMOmXITnOPnUOlJJIEnUTnYmOlKEmITlLInEmYRlMImOPlNBIEmYIPnOPmZUPlOP
lPUTmYTlQOTlSHATnOPnURnYmSIlTATmUlVEPmURlWOlYITmOlZAmOTmUPnRmZIETdSYLLABLE AnPnTnXmBAoPoToXnBApPpTpX
oEpPpXoIpEqPqTqXpPpTpXoOpPpTpXoUpOqPqXpPpRqXpTpXoYpPpTpXnEoPoXnIoEpPpTpXoPoToXnOoPoToXnUoOpPpXoPoRpX
oToXnYoPoRpXoToXmCAoPoToXnEoPoXnHApPpTpXoEpPpTpXoOpPpTpXoUpOqPqTqXpPpRqXpXoYpPpRqXpTpXnIoEpPpTpXoPoT
oXnOoPoToXnUoOpPpXoPoRpXoToXnYoPoRpXoToXmDAoPoToXnDApPpTpXoEpPpXoIpEqPqXpPpTpXoOpPpTpXoUpOqPqXpPpRqX
pTpXnEoPoXnIoEpPpXoPoToXnOoPoToXnUoOpXoPoRpXoToXmEnXmFAoPoToXnIoPoToXnOoPoXnUoPoRpXoToXnYoPoToXmGAoP
oToXnEoPoToXnGApPpTpXoEpPpTpXoIpEqPqXpTpXoOpPpTpXoUpOqPqTqXpPpRqXpTpXnIoEpPpTpXoPoToXnOoPoToXnUoOpP
pTpXoPoRpXoToXmHAoPoToXnEoPoXnIEpXoTnLApPpTpXoEpPpXoIpEqPqXpPpTpXoOpPpXoUpOqPqXpPpRqXpTpXoYpPpRqXpT
pXnMApPpTpXoIpEqPqXpPpTpXoOpPpTpXoUpOqPqXpPpRqXpTpXoYpPpRqXpXnNApPpTpXoEpPpXoIpEqPqTqXpPpTpXoOPpTpX
oUOqXpTnOoPoToXnUOpPpTpXnXApPpTpXoEpPpXoIpEqPqTqXpPpTpXoOpPpTpXoUOqPqTqXmInEoPoToXnPnToERATION MARK
nXmJIoEpPpTpXoPoToXnJIpEqPqTqXpPpTpXoOpPpTpXoUpOqPqXpPpRqXpTpXoYpPpTpXnOoPoToXnUoOpPpTpXoPoRpXoToXnY
oPoRpXoToXmKAoPoToXnEoPoToXnIoEpPpXoPoToXnOoPoToXnUoOpPpXoPoRpXoToXmLAoPoToXnEoPoXnIoEpPpTpXoPoToXnO
oPoToXnUoOpPpTpXoPoRpXoToXnYoPoRpXoToXmMAoPoToXnEoXnGApPpTpXoEpPpXoIEqXoOpPpTpXoUpOqPqXpPpRqXpTpXnI
oEpPpXoPoToXnOoPoToXnUoOpPpTpXoPoRpXoToXnYoPoToXmNAoPoXnBApPpTpXoIpEqPqXpPpTpXoOpPpTpXoUpPpRqXpTpXoY
pPpRqXpTpXnDApPpTpXoEpPpXoIpEqXpPpTpXoOpPpTpXoUpPpRqXpTpXnEoPoXnGApPpTpXoEpPpXoIEqPqXoOpPpTpXoUOqTqX
nIoEpPpXoPoToXnJIpEqPqTqXpPpTpXoOpPpTpXoUpOqXpPpRqXpXoYpPpRqXpTpXnOoPoToXnRApPpTpXoEpPpTpXoOpPpXoUpP
pRqXpTpXoYpPpRqXpTpXnUoOpPpXoPoRpXoToXnYIpEqPqTqXpPpTpXoOpPpTpXoUpOqPqXpPpTpXnZApPpTpXoEpXoIpEqPqXpP
pTpXoOPpXoUpOqXpPpRqXpXoYpPpRqXpTpXmOnPnTnXmPAoPoToXnIoEpPpXoPoToXnOoPoToXnUoOpPpXoPoRpXoToXnYoPoRpX
oToXmQIoEpPpTpXoPoToXnOoPoToXnUoOpPpTpXoPoRpXoToXnYoPoRpXoToXmRAoPoToXnEoPoXnOoPoToXnRApXoEpPpTpXoO
pPpTpXoUpOqXpPpRqXpTpXoYpPpRqXpTpXnUoOpPpXoPoRpXoToXnYoPoRpXoToXmSAoPoToXnEoPoXnHApPpTpXoEpPpTpXoOpP
pTpXoUpOqPqXpPpRqXpTpXoYpPpRqXpTpXnIoEpPpXoPoToXnOoPoToXnSApPpTpXoEpPpXoIpEqPqXpPpTpXoOpPpTpXoUpPpT
pXoYpPpRqXpTpXnUoOpPpXoPoRpXoToXnYoPoRpXoToXmTAoPoToXnEoPoXnIoEpPpXoPoToXnOoPoToXnUoOpPpTpXoPoRpXoT
oXmUOoPoXmVAoPoToXnEPoXnIoEpPpTpXoPoToXnOoPoToXnUoPoRpXoToXnYoPoRpXoToXmWAoPoToXnEoPoXnOoPoXnUoOpPpX
mXIoEpPpTpXoPoToXnOoPoToXnUOpXnYoPoRpXoToXmYIoEpPpTpXoPoToXnOoPoToXnUoOpPpTpXoPoRpXoToXnYoPoRpXoToX
mZAoPoToXnEoPoXnHApPpTpXoEpPpTpXoOpPpTpXoUpOqPqXpPpRqXpTpXoYpPpRqXpTpXnIoEpPpXoPoToXnOoPoToXnUoOpPpX
oPoRpXoToXnYoPoRpXoToXnZApPpTpXoEpPpXoIpEqPqTqXpPpTpXoOpPpXoUpPpRqXpXoYpPpRqXpTpXcN YANGbO-YO
aZ NOTATION BAG MEMBERSHIPlDOMAIN ANTIRESTRICTIONlLEFT BINDING BRACKETqIMAGE BRACKET
lRANGE ANTIRESTRICTIONmELATIONAL COMPOSITIONmIGHT BINDING BRACKETrIMAGE BRACKETlSCHEMA COMPOSITION
sPIPINGtROJECTIONmPOTlTYPE COLONbANABAZAR SQUARE CLOSING DOUBLE-LINED HEAD MARKzHEAD MARK
tUSTER-FINAL LETTER LAzFINAL LETTER RAzFINAL LETTER VAzFINAL LETTER YAzINITIAL LETTER RA
rFINAL CONSONANT MARKrINITIAL DOUBLE-LINED HEAD MARKzHEAD MARKrLETTER -AyAyBAzHAyCAzHAyDAzDAzDHAzHA
zZAzZHAyGAzHAyHAyJAyKAzHAzSSAyLAyMAyNAzGAzNAzYAyPAzHAyRAySAzHAzSAyTAzHAzSAzSHAzTAzTHAyVAyYAyZAzHA
rMARK DOUBLE SHADwLONG TSHEGwSHADwTSHEGrSIGN ANUSVARAwCANDRA WITH ORNAMENTzDRABINDU
zDRABINDU WITH ORNAMENTwVIRAMAySARGAsUBJOINERrVOWEL LENGTH MARKxSIGN AIzGN AUzGN EzGN IzGN OzGN OE
zGN REVERSED IzGN UzGN UEbEBRA FACEcRO WIDTH JOINERlNO-BREAK SPACEnN-JOINERlSPACEcUS
bIPPER-MOUTH FACEbNAMENNY COMBINING ATTACHING VERTICAL OMETtLOWER TONAL RANGE INDICATORtMARK BORZAYA
yCHASHKAzHASHKA POLNAYAzURVED OMETyDEMESTVENNY ZADERZHKAzVOETOCHIEyGORAZDO NIZKO ON LEFT
zORAZDO NIZKO ON RIGHTzORAZDO NIZKO S KRYZHEM ON LEFTzORAZDO NIZKO S KRYZHEM ON RIGHTzORAZDO VYSOKO
yKACHKAzRYZHzRYZH ON LEFTzUPNAYAyLOMKAyMALO POVYSHE ON LEFTzALO POVYSHE ON RIGHT
zALO POVYSHE S KHOKHLOM ON LEFTzALO POVYSHE S KHOKHLOM ON RIGHTzALO POVYSHE S KRYZHEM
zALO POVYSHE STRANNOyNIZKO ON LEFTzIZKO ON RIGHTzIZKO S KRYZHEM ON LEFTzIZKO S KRYZHEM ON RIGHT
yOBLACHKOzNzTSECHKAyPODCHASHIEzODCHASHIE WITH VERTICAL STROKEzODVERTKAzOVYSHE ON LEFT
zOVYSHE ON RIGHTzOVYSHE S KHOKHLOM ON LEFTzOVYSHE S KHOKHLOM ON RIGHTzOVYSHE S KRYZHEM
zOVYSHE STRANNOyRAVNOzAZSEKAySKOBAzOROCHYA NOZHKAzREDNE ON LEFTzREDNE ON RIGHTzTRANNO MALO POVYSHE
yTIKHAYAzOCHKAzSATA ON LEFTzSATA ON RIGHTzSATA S KRYZHEMyUDARKAyVYSOKO ON LEFTzYSOKO ON RIGHT
zYSOKO S KHOKHLOM ON LEFTzYSOKO S KHOKHLOM ON RIGHTzYSOKO S KRYZHEMyZADERZHKAzELOzEVOK
tTONAL RANGE MARK MRACHNOzRANGE MARK SVETLOzRANGE MARK TRESVETLOjNEUME CHASHKArELYUSTKA
pDEMESTVENNY KLYUCHrRBITSAqOUBLE ZAPYATAYAqUDAqVA V CHELNUpFITApGOLUBCHIK BORZYzMRACHNYzSVETLYzTIKHY
zTRESVETLYpKHAMILOqLYUCHqOBYLAqRYUKu TIKHYsZHqUFISMApMECHIKv KLYUCHENEPOSTOYANNYzUCHEPOVODNYzUCHEVOY
wPOVODNYpNEMKApOBLAKOqSOKAu KLYUCHEVAYA NEPOSTOYANNAYAzCHEVAYA SVETLAYAwRYUKOVAYA SVETLAYAvSVETLAYA
vTRESVETLAYApPALKArRAKLITrUKqEREVODKAy NEPOSTOYANNAYAqODCHASHIErLKULIZMYpREVERSED CHELYUSTKAqOG
pSKAMEYTSA DVOECHELNAYA KLYUCHEVAYAzDVOECHELNAYA NEPOSTOYANNAYAzDVOECHELNAYA PROSTAYA
zDVOECHELNAYA SVETLAYAzKLYUCHENEPOSTOYANNAYAzKLYUCHEVAYA SVETLAYAzKLYUCHEVAYA TIKHAYAzMRACHNAYA
zSVETLAYAzTIKHAYAzTRESVETLAYAqLOZHITIEy S KRYZHEMzS ZAPYATOYzZAKRYTOEqTATYAv NEPOSTOYANNAYA
wS DVUMYA ZAPYATYMIyKRYZHEMzRYZHEM I ZAPYATOYyROGOMyZAPYATOYzAPYATOY I KRYZHEMzAPYATOY I PODCHASHIEM
wZAKRYTAYAzRYTAYA S ZAPYATOYrOPITSAx S OCHKOMyWITH SOROCHYA NOZHKArRELA DVOECHELNAYA
zECHELNAYA KLYUCHEVAYAzECHELNOKRYZHEVAYAzECHELNOPOVODNAYAzECHELNOPOVODNAYA KLYUCHEVAYAwGROMNAYA
zMNAYA WITH SINGLE ZAPYATAYAzMOKRYZHEVAYAzMOKRYZHEVAYA POVODNAYAzMOPOVODNAYA
zMOPOVODNAYA WITH DOUBLE ZAPYATAYAzMOPOVODNAYA WITH SINGLE ZAPYATAYAwKLYUCHENEPOSTOYANNAYA
zUCHEPOVODNAYAxRYUKOVAYAzUKOVAYA GROMNAYAzUKOVAYA GROMNAYA WITH SINGLE ZAPYATAYA
zUKOVAYA GROMOKRYZHEVAYAzUKOVAYA GROMOKRYZHEVAYA POVODNAYAzUKOVAYA GROMOPOVODNAYA
zUKOVAYA GROMOPOVODNAYA WITH DOUBLE ZAPYATAYAzUKOVAYA GROMOPOVODNAYA WITH SINGLE ZAPYATAYA
zUKOVAYA POVODNAYAzUKOVAYA TRYASKAzZHEVAYAwMRACHNOTIKHAYAwNEPOSTOYANNAYAwPOLUPOVODNAYAyVODNAYA
xROSTAYAwTIKHAYA PUTNAYAxRYASOGLASNAYAzASOPOVODNAYAzASOSTRELNAYApVRAKHIYA KLYUCHEVAYA MRACHNAYA
zLYUCHEVAYA PROSTAYAzLYUCHEVAYA SVETLAYAzLYUCHEVAYA TRESVETLAYAyMRACHNAYAyPROSTAYAySVETLAYA
yTRESVETLAYApZANOZHEKrPYATAYAqMEYTSAjPRIZNAK MODIFIER DIRECTION FLIPz KRYZHz LEVEL-2z LEVEL-3z ROG
bOMBIEbWJcNBSPdJcSP"

end Statecraft.Text
