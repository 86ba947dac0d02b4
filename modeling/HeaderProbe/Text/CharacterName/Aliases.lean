namespace HeaderProbe.Text.CharacterName

def aliases : String :=
  "@0, =NUL, =NULL, @1, =SOH, =START OF HEADING, @2, =START OF TEXT, =STX, @3, =END OF TEXT, =ETX,
@4, =END OF TRANSMISSION, =EOT, @5, =ENQ, =ENQUIRY, @6, =ACK, =ACKNOWLEDGE, @7, =ALERT, =BEL, @8,
=BACKSPACE, =BS, @9, =CHARACTER TABULATION, =HORIZONTAL TABULATION, =HT, =TAB, @A, =END OF LINE,
=EOL, =LF, =LINE FEED, =NEW LINE, =NL, @B, =LINE TABULATION, =VERTICAL TABULATION, =VT, @C, =FF,
=FORM FEED, @D, =CARRIAGE RETURN, =CR, @E, =LOCKING-SHIFT ONE, =SHIFT OUT, =SO, @F,
=LOCKING-SHIFT ZERO, =SHIFT IN, =SI, @10, =DATA LINK ESCAPE, =DLE, @11, =DC1, =DEVICE CONTROL ONE,
@12, =DC2, =DEVICE CONTROL TWO, @13, =DC3, =DEVICE CONTROL THREE, @14, =DC4, =DEVICE CONTROL FOUR,
@15, =NAK, =NEGATIVE ACKNOWLEDGE, @16, =SYN, =SYNCHRONOUS IDLE, @17, =END OF TRANSMISSION BLOCK,
=ETB, @18, =CAN, =CANCEL, @19, =END OF MEDIUM, =EOM, @1A, =SUB, =SUBSTITUTE, @1B, =ESC, =ESCAPE,
@1C, =FILE SEPARATOR, =FS, =INFORMATION SEPARATOR FOUR, @1D, =GROUP SEPARATOR, =GS,
=INFORMATION SEPARATOR THREE, @1E, =INFORMATION SEPARATOR TWO, =RECORD SEPARATOR, =RS, @1F,
=INFORMATION SEPARATOR ONE, =UNIT SEPARATOR, =US, @20, =SP, @7F, =DEL, =DELETE, @80, =PAD,
=PADDING CHARACTER, @81, =HIGH OCTET PRESET, =HOP, @82, =BPH, =BREAK PERMITTED HERE, @83, =NBH,
=NO BREAK HERE, @84, =IND, =INDEX, @85, =NEL, =NEXT LINE, @86, =SSA, =START OF SELECTED AREA, @87,
=END OF SELECTED AREA, =ESA, @88, =CHARACTER TABULATION SET, =HORIZONTAL TABULATION SET, =HTS,
@89, =CHARACTER TABULATION WITH JUSTIFICATION, =HORIZONTAL TABULATION WITH JUSTIFICATION, =HTJ,
@8A, =LINE TABULATION SET, =VERTICAL TABULATION SET, =VTS, @8B, =PARTIAL LINE DOWN,
=PARTIAL LINE FORWARD, =PLD, @8C, =PARTIAL LINE BACKWARD, =PARTIAL LINE UP, =PLU, @8D,
=REVERSE INDEX, =REVERSE LINE FEED, =RI, @8E, =SINGLE SHIFT TWO, =SINGLE-SHIFT-2, =SS2, @8F,
=SINGLE SHIFT THREE, =SINGLE-SHIFT-3, =SS3, @90, =DCS, =DEVICE CONTROL STRING, @91,
=PRIVATE USE ONE, =PRIVATE USE-1, =PU1, @92, =PRIVATE USE TWO, =PRIVATE USE-2, =PU2, @93,
=SET TRANSMIT STATE, =STS, @94, =CANCEL CHARACTER, =CCH, @95, =MESSAGE WAITING, =MW, @96, =SPA,
=START OF GUARDED AREA, =START OF PROTECTED AREA, @97, =END OF GUARDED AREA,
=END OF PROTECTED AREA, =EPA, @98, =SOS, =START OF STRING, @99, =SGC,
=SINGLE GRAPHIC CHARACTER INTRODUCER, @9A, =SCI, =SINGLE CHARACTER INTRODUCER, @9B,
=CONTROL SEQUENCE INTRODUCER, =CSI, @9C, =ST, =STRING TERMINATOR, @9D, =OPERATING SYSTEM COMMAND,
=OSC, @9E, =PM, =PRIVACY MESSAGE, @9F, =APC, =APPLICATION PROGRAM COMMAND, @A0, =NBSP, @AD, =SHY,
@1A2, =LATIN CAPITAL LETTER GHA, @1A3, =LATIN SMALL LETTER GHA, @34F, =CGJ, @61C, =ALM, @709,
=SYRIAC SUBLINEAR COLON SKEWED LEFT, @CDE, =KANNADA LETTER LLLA, @E9D, =LAO LETTER FO FON, @E9F,
=LAO LETTER FO FAY, @EA3, =LAO LETTER RO, @EA5, =LAO LETTER LO, @FD0,
=TIBETAN MARK BKA- SHOG GI MGO RGYAN, @11EC, =HANGUL JONGSEONG YESIEUNG-KIYEOK, @11ED,
=HANGUL JONGSEONG YESIEUNG-SSANGKIYEOK, @11EE, =HANGUL JONGSEONG SSANGYESIEUNG, @11EF,
=HANGUL JONGSEONG YESIEUNG-KHIEUKH, @180B, =FVS1, @180C, =FVS2, @180D, =FVS3, @180E, =MVS, @180F,
=FVS4, @200B, =ZWSP, @200C, =ZWNJ, @200D, =ZWJ, @200E, =LRM, @200F, =RLM, @202A, =LRE, @202B,
=RLE, @202C, =PDF, @202D, =LRO, @202E, =RLO, @202F, =NNBSP, @205F, =MMSP, @2060, =WJ, @2066, =LRI,
@2067, =RLI, @2068, =FSI, @2069, =PDI, @2118, =WEIERSTRASS ELLIPTIC FUNCTION, @2448,
=MICR ON US SYMBOL, @2449, =MICR DASH SYMBOL, @2B7A,
=LEFTWARDS TRIANGLE-HEADED ARROW WITH DOUBLE VERTICAL STROKE, @2B7C,
=RIGHTWARDS TRIANGLE-HEADED ARROW WITH DOUBLE VERTICAL STROKE, @A015, =YI SYLLABLE ITERATION MARK,
@AA6E, =MYANMAR LETTER KHAMTI LLA, @FE18,
=PRESENTATION FORM FOR VERTICAL RIGHT WHITE LENTICULAR BRACKET, @FEFF, =BOM, =BYTE ORDER MARK,
=ZWNBSP, @122D4, =CUNEIFORM SIGN NU11 TENU, @122D5, =CUNEIFORM SIGN NU11 OVER NU11 BUR OVER BUR,
@16E56, =MEDEFAIDRIN CAPITAL LETTER H, @16E57, =MEDEFAIDRIN CAPITAL LETTER NG, @16E76,
=MEDEFAIDRIN SMALL LETTER H, @16E77, =MEDEFAIDRIN SMALL LETTER NG, @1B001, =HENTAIGANA LETTER E-1,
@1D0C5, =BYZANTINE MUSICAL SYMBOL FTHORA SKLIRON CHROMA VASIS"

end HeaderProbe.Text.CharacterName
