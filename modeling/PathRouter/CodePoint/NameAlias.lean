import PathRouter.CodePoint.NameRun

/-!
# Aliases of characters

Control characters have no name of their own, only aliases. Some other characters have an alias
beside their name: an abbreviation, or a correction of a name that was a mistake.
-/

namespace PathRouter.CodePoint
set_option autoImplicit false

/-- The aliases of characters. -/
def nameAliases : List (CodePoint × String) :=
  [(0x00, "NULL"), (0x00, "NUL"), (0x01, "START OF HEADING"), (0x01, "SOH"),
   (0x02, "START OF TEXT"), (0x02, "STX"), (0x03, "END OF TEXT"), (0x03, "ETX"),
   (0x04, "END OF TRANSMISSION"), (0x04, "EOT"), (0x05, "ENQUIRY"), (0x05, "ENQ"),
   (0x06, "ACKNOWLEDGE"), (0x06, "ACK"), (0x07, "ALERT"), (0x07, "BEL"), (0x08, "BACKSPACE"),
   (0x08, "BS"), (0x09, "CHARACTER TABULATION"), (0x09, "HORIZONTAL TABULATION"), (0x09, "HT"),
   (0x09, "TAB"), (0x0A, "LINE FEED"), (0x0A, "NEW LINE"), (0x0A, "END OF LINE"), (0x0A, "LF"),
   (0x0A, "NL"), (0x0A, "EOL"), (0x0B, "LINE TABULATION"), (0x0B, "VERTICAL TABULATION"),
   (0x0B, "VT"), (0x0C, "FORM FEED"), (0x0C, "FF"), (0x0D, "CARRIAGE RETURN"), (0x0D, "CR"),
   (0x0E, "SHIFT OUT"), (0x0E, "LOCKING-SHIFT ONE"), (0x0E, "SO"), (0x0F, "SHIFT IN"),
   (0x0F, "LOCKING-SHIFT ZERO"), (0x0F, "SI"), (0x10, "DATA LINK ESCAPE"), (0x10, "DLE"),
   (0x11, "DEVICE CONTROL ONE"), (0x11, "DC1"), (0x12, "DEVICE CONTROL TWO"), (0x12, "DC2"),
   (0x13, "DEVICE CONTROL THREE"), (0x13, "DC3"), (0x14, "DEVICE CONTROL FOUR"), (0x14, "DC4"),
   (0x15, "NEGATIVE ACKNOWLEDGE"), (0x15, "NAK"), (0x16, "SYNCHRONOUS IDLE"), (0x16, "SYN"),
   (0x17, "END OF TRANSMISSION BLOCK"), (0x17, "ETB"), (0x18, "CANCEL"), (0x18, "CAN"),
   (0x19, "END OF MEDIUM"), (0x19, "EOM"), (0x1A, "SUBSTITUTE"), (0x1A, "SUB"), (0x1B, "ESCAPE"),
   (0x1B, "ESC"), (0x1C, "INFORMATION SEPARATOR FOUR"), (0x1C, "FILE SEPARATOR"), (0x1C, "FS"),
   (0x1D, "INFORMATION SEPARATOR THREE"), (0x1D, "GROUP SEPARATOR"), (0x1D, "GS"),
   (0x1E, "INFORMATION SEPARATOR TWO"), (0x1E, "RECORD SEPARATOR"), (0x1E, "RS"),
   (0x1F, "INFORMATION SEPARATOR ONE"), (0x1F, "UNIT SEPARATOR"), (0x1F, "US"), (0x20, "SP"),
   (0x7F, "DELETE"), (0x7F, "DEL"), (0x80, "PADDING CHARACTER"), (0x80, "PAD"),
   (0x81, "HIGH OCTET PRESET"), (0x81, "HOP"), (0x82, "BREAK PERMITTED HERE"), (0x82, "BPH"),
   (0x83, "NO BREAK HERE"), (0x83, "NBH"), (0x84, "INDEX"), (0x84, "IND"), (0x85, "NEXT LINE"),
   (0x85, "NEL"), (0x86, "START OF SELECTED AREA"), (0x86, "SSA"), (0x87, "END OF SELECTED AREA"),
   (0x87, "ESA"), (0x88, "CHARACTER TABULATION SET"), (0x88, "HORIZONTAL TABULATION SET"),
   (0x88, "HTS"), (0x89, "CHARACTER TABULATION WITH JUSTIFICATION"),
   (0x89, "HORIZONTAL TABULATION WITH JUSTIFICATION"), (0x89, "HTJ"),
   (0x8A, "LINE TABULATION SET"), (0x8A, "VERTICAL TABULATION SET"), (0x8A, "VTS"),
   (0x8B, "PARTIAL LINE FORWARD"), (0x8B, "PARTIAL LINE DOWN"), (0x8B, "PLD"),
   (0x8C, "PARTIAL LINE BACKWARD"), (0x8C, "PARTIAL LINE UP"), (0x8C, "PLU"),
   (0x8D, "REVERSE LINE FEED"), (0x8D, "REVERSE INDEX"), (0x8D, "RI"), (0x8E, "SINGLE SHIFT TWO"),
   (0x8E, "SINGLE-SHIFT-2"), (0x8E, "SS2"), (0x8F, "SINGLE SHIFT THREE"),
   (0x8F, "SINGLE-SHIFT-3"), (0x8F, "SS3"), (0x90, "DEVICE CONTROL STRING"), (0x90, "DCS"),
   (0x91, "PRIVATE USE ONE"), (0x91, "PRIVATE USE-1"), (0x91, "PU1"), (0x92, "PRIVATE USE TWO"),
   (0x92, "PRIVATE USE-2"), (0x92, "PU2"), (0x93, "SET TRANSMIT STATE"), (0x93, "STS"),
   (0x94, "CANCEL CHARACTER"), (0x94, "CCH"), (0x95, "MESSAGE WAITING"), (0x95, "MW"),
   (0x96, "START OF GUARDED AREA"), (0x96, "START OF PROTECTED AREA"), (0x96, "SPA"),
   (0x97, "END OF GUARDED AREA"), (0x97, "END OF PROTECTED AREA"), (0x97, "EPA"),
   (0x98, "START OF STRING"), (0x98, "SOS"), (0x99, "SINGLE GRAPHIC CHARACTER INTRODUCER"),
   (0x99, "SGC"), (0x9A, "SINGLE CHARACTER INTRODUCER"), (0x9A, "SCI"),
   (0x9B, "CONTROL SEQUENCE INTRODUCER"), (0x9B, "CSI"), (0x9C, "STRING TERMINATOR"),
   (0x9C, "ST"), (0x9D, "OPERATING SYSTEM COMMAND"), (0x9D, "OSC"), (0x9E, "PRIVACY MESSAGE"),
   (0x9E, "PM"), (0x9F, "APPLICATION PROGRAM COMMAND"), (0x9F, "APC"), (0xA0, "NBSP"),
   (0xAD, "SHY"), (0x1A2, "LATIN CAPITAL LETTER GHA"), (0x1A3, "LATIN SMALL LETTER GHA"),
   (0x34F, "CGJ"), (0x61C, "ALM"), (0x709, "SYRIAC SUBLINEAR COLON SKEWED LEFT"),
   (0xCDE, "KANNADA LETTER LLLA"), (0xE9D, "LAO LETTER FO FON"), (0xE9F, "LAO LETTER FO FAY"),
   (0xEA3, "LAO LETTER RO"), (0xEA5, "LAO LETTER LO"),
   (0xFD0, "TIBETAN MARK BKA- SHOG GI MGO RGYAN"), (0x11EC, "HANGUL JONGSEONG YESIEUNG-KIYEOK"),
   (0x11ED, "HANGUL JONGSEONG YESIEUNG-SSANGKIYEOK"), (0x11EE, "HANGUL JONGSEONG SSANGYESIEUNG"),
   (0x11EF, "HANGUL JONGSEONG YESIEUNG-KHIEUKH"), (0x180B, "FVS1"), (0x180C, "FVS2"),
   (0x180D, "FVS3"), (0x180E, "MVS"), (0x180F, "FVS4"), (0x200B, "ZWSP"), (0x200C, "ZWNJ"),
   (0x200D, "ZWJ"), (0x200E, "LRM"), (0x200F, "RLM"), (0x202A, "LRE"), (0x202B, "RLE"),
   (0x202C, "PDF"), (0x202D, "LRO"), (0x202E, "RLO"), (0x202F, "NNBSP"), (0x205F, "MMSP"),
   (0x2060, "WJ"), (0x2066, "LRI"), (0x2067, "RLI"), (0x2068, "FSI"), (0x2069, "PDI"),
   (0x2118, "WEIERSTRASS ELLIPTIC FUNCTION"), (0x2448, "MICR ON US SYMBOL"),
   (0x2449, "MICR DASH SYMBOL"),
   (0x2B7A, "LEFTWARDS TRIANGLE-HEADED ARROW WITH DOUBLE VERTICAL STROKE"),
   (0x2B7C, "RIGHTWARDS TRIANGLE-HEADED ARROW WITH DOUBLE VERTICAL STROKE"),
   (0xA015, "YI SYLLABLE ITERATION MARK"), (0xAA6E, "MYANMAR LETTER KHAMTI LLA"),
   (0xFE18, "PRESENTATION FORM FOR VERTICAL RIGHT WHITE LENTICULAR BRACKET"),
   (0xFEFF, "BYTE ORDER MARK"), (0xFEFF, "BOM"), (0xFEFF, "ZWNBSP"),
   (0x122D4, "CUNEIFORM SIGN NU11 TENU"), (0x122D5, "CUNEIFORM SIGN NU11 OVER NU11 BUR OVER BUR"),
   (0x16E56, "MEDEFAIDRIN CAPITAL LETTER H"), (0x16E57, "MEDEFAIDRIN CAPITAL LETTER NG"),
   (0x16E76, "MEDEFAIDRIN SMALL LETTER H"), (0x16E77, "MEDEFAIDRIN SMALL LETTER NG"),
   (0x1B001, "HENTAIGANA LETTER E-1"),
   (0x1D0C5, "BYZANTINE MUSICAL SYMBOL FTHORA SKLIRON CHROMA VASIS")]

/-- The abbreviations of the variation selectors. -/
def variationSelectors : List NameRun :=
  [⟨0xFE00, "VS", ["1,2,3,4,5,6,7,8,9,10,11,12,13,14,15,16"]⟩,
   ⟨0xE0100, "VS",
    ["17,18,19,20,21,22,23,24,25,26,27,28,29,30,31,32,33,34,35,36,37,38,39,40,41,42,43,44,45",
     "46,47,48,49,50,51,52,53,54,55,56,57,58,59,60,61,62,63,64,65,66,67,68,69,70,71,72,73,74",
     "75,76,77,78,79,80,81,82,83,84,85,86,87,88,89,90,91,92,93,94,95,96,97,98,99,100,101,102",
     "103,104,105,106,107,108,109,110,111,112,113,114,115,116,117,118,119,120,121,122,123,124",
     "125,126,127,128,129,130,131,132,133,134,135,136,137,138,139,140,141,142,143,144,145,146",
     "147,148,149,150,151,152,153,154,155,156,157,158,159,160,161,162,163,164,165,166,167,168",
     "169,170,171,172,173,174,175,176,177,178,179,180,181,182,183,184,185,186,187,188,189,190",
     "191,192,193,194,195,196,197,198,199,200,201,202,203,204,205,206,207,208,209,210,211,212",
     "213,214,215,216,217,218,219,220,221,222,223,224,225,226,227,228,229,230,231,232,233,234",
     "235,236,237,238,239,240,241,242,243,244,245,246,247,248,249,250,251,252,253,254,255,256"]⟩]

end PathRouter.CodePoint
