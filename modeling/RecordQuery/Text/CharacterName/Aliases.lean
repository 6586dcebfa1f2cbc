/-!
Further names of characters: those of controls, abbreviations and corrections.
-/

namespace RecordQuery.Text

/-- Rows of further names. -/
def aliasNames : String := "
  0;;NUL,START OF HEADING,START OF TEXT,END OF TEXT.
  4;;END OF TRANSMISSION,ENQUIRY,ACKNOWLEDGE,ALERT,BACKSPACE.
  9;;CHARACTER TABULATION,END OF LINE,LINE TABULATION,FORM FEED,CARRIAGE RETURN.
  E;LOCKING-SHIFT ;ONE,ZERO.
  10;;DATA LINK ESCAPE.
  11;DEVICE CONTROL ;ONE,TWO,THREE,FOUR.
  15;;NEGATIVE ACKNOWLEDGE,SYNCHRONOUS IDLE,END OF TRANSMISSION BLOCK,CANCEL.
  19;;END OF MEDIUM,SUBSTITUTE,ESCAPE,FILE SEPARATOR,GROUP SEPARATOR.
  1E;INFORMATION SEPARATOR ;TWO,ONE.
  20;;SP.
  7F;;DELETE,PADDING CHARACTER,HIGH OCTET PRESET,BREAK PERMITTED HERE.
  83;;NO BREAK HERE,IND,NEXT LINE,START OF SELECTED AREA,END OF SELECTED AREA.
  88;CHARACTER TABULATION ;SET,WITH JUSTIFICATION.
  8A;;LINE TABULATION SET.
  8B;PARTIAL LINE ;DOWN,BACKWARD.
  8D;;REVERSE INDEX,SINGLE SHIFT TWO,SINGLE SHIFT THREE,DEVICE CONTROL STRING.
  91;PRIVATE USE ;ONE,TWO.
  93;;SET TRANSMIT STATE,CANCEL CHARACTER,MESSAGE WAITING,START OF GUARDED AREA.
  97;;END OF GUARDED AREA,START OF STRING,SINGLE GRAPHIC CHARACTER INTRODUCER,
  SINGLE CHARACTER INTRODUCER,CONTROL SEQUENCE INTRODUCER.
  9C;;STRING TERMINATOR,OPERATING SYSTEM COMMAND,PRIVACY MESSAGE,APPLICATION PROGRAM COMMAND,NBSP.
  AD;;SHY.
  1A2;LATIN ;CAPITAL LETTER GHA,SMALL LETTER GHA.
  34F;;CGJ.
  61C;;ALM.
  709;;SYRIAC SUBLINEAR COLON SKEWED LEFT.
  CDE;;KANNADA LETTER LLLA.
  E9D;;LAO LETTER FO FON.
  E9F;;LAO LETTER FO FAY.
  EA3;;LAO LETTER RO.
  EA5;;LAO LETTER LO.
  FD0;;TIBETAN MARK BKA- SHOG GI MGO RGYAN.
  11EC;HANGUL JONGSEONG ;YESIEUNG-KIYEOK,YESIEUNG-SSANGKIYEOK,SSANGYESIEUNG,YESIEUNG-KHIEUKH.
  180B;;FVS1,FVS2,FVS3,MVS,FVS4.
  200B;;ZWSP,ZWNJ,ZWJ,LRM,RLM.
  202A;;LRE.
  202B;;RLE,PDF,LRO,RLO,NNBSP.
  205F;;MMSP,WJ.
  2066;;LRI,RLI,FSI,PDI.
  2118;;WEIERSTRASS ELLIPTIC FUNCTION.
  2448;MICR ;ON US SYMBOL,DASH SYMBOL.
  2B7A;;LEFTWARDS TRIANGLE-HEADED ARROW WITH DOUBLE VERTICAL STROKE.
  2B7C;;RIGHTWARDS TRIANGLE-HEADED ARROW WITH DOUBLE VERTICAL STROKE.
  A015;;YI SYLLABLE ITERATION MARK.
  AA6E;;MYANMAR LETTER KHAMTI LLA.
  FE00;VS;1,2,3,4,5,6,7,8,9,10,11,12,13,14,15,16.
  FE18;;PRESENTATION FORM FOR VERTICAL RIGHT WHITE LENTICULAR BRACKET.
  FEFF;;BYTE ORDER MARK.
  122D4;CUNEIFORM SIGN NU11 ;TENU,OVER NU11 BUR OVER BUR.
  16E56;MEDEFAIDRIN CAPITAL LETTER ;H,NG.
  16E76;MEDEFAIDRIN SMALL LETTER ;H,NG.
  1B001;;HENTAIGANA LETTER E-1.
  1D0C5;;BYZANTINE MUSICAL SYMBOL FTHORA SKLIRON CHROMA VASIS.
  E0100;VS;17,18,19,20,21,22,23,24,25,26,27,28,29,30,31,32,33,34,35,36,37,38,39,40,41,42,43,44,45,
  46,47,48,49,50,51,52,53,54,55,56,57,58,59,60,61,62,63,64,65,66,67,68,69,70,71,72,73,74,75,76,77,
  78,79,80,81,82,83,84,85,86,87,88,89,90,91,92,93,94,95,96,97,98,99,100,101,102,103,104,105,106,107,
  108,109,110,111,112,113,114,115,116,117,118,119,120,121,122,123,124,125,126,127,128,129,130,131,
  132,133,134,135,136,137,138,139,140,141,142,143,144,145,146,147,148,149,150,151,152,153,154,155,
  156,157,158,159,160,161,162,163,164,165,166,167,168,169,170,171,172,173,174,175,176,177,178,179,
  180,181,182,183,184,185,186,187,188,189,190,191,192,193,194,195,196,197,198,199,200,201,202,203,
  204,205,206,207,208,209,210,211,212,213,214,215,216,217,218,219,220,221,222,223,224,225,226,227,
  228,229,230,231,232,233,234,235,236,237,238,239,240,241,242,243,244,245,246,247,248,249,250,251,
  252,253,254,255,256.
  0;;NULL,SOH,STX.
  3;;ETX,EOT,ENQ,ACK,BEL.
  8;;BS,HORIZONTAL TABULATION,LINE FEED,VERTICAL TABULATION,FF.
  D;;CR,SHIFT OUT,SHIFT IN,DLE,DC1.
  12;;DC2,DC3,DC4,NAK,SYN.
  17;;ETB,CAN,EOM,SUB,ESC.
  1C;INFORMATION SEPARATOR ;FOUR,THREE.
  1E;;RECORD SEPARATOR,UNIT SEPARATOR.
  7F;;DEL,PAD,HOP,BPH.
  83;;NBH,INDEX,NEL,SSA,ESA.
  88;HORIZONTAL TABULATION ;SET,WITH JUSTIFICATION.
  8A;;VERTICAL TABULATION SET.
  8B;PARTIAL LINE ;FORWARD,UP.
  8D;;REVERSE LINE FEED,SINGLE-SHIFT-2,SINGLE-SHIFT-3,DCS.
  91;PRIVATE USE-;1,2.
  93;;STS,CCH,MW.
  96;;START OF PROTECTED AREA,END OF PROTECTED AREA,SOS,SGC,SCI.
  9B;;CSI,ST,OSC,PM,APC.
  FEFF;;ZWNBSP.
  9;;HT,NEW LINE,VT.
  E;;SO,SI.
  1C;;FS,GS,RS,US.
  88;;HTS,HTJ,VTS.
  8B;;PLD,PLU,RI,SS2,SS3.
  91;PU;1,2.
  96;;SPA,EPA.
  FEFF;;BOM.
  9;;TAB,EOL.
  A;;LF.
  A;;NL.
  "

end RecordQuery.Text
