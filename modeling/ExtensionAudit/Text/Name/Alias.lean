import ExtensionAudit.Text.Basic

/-!
# Other names

Names that characters have beside their own: the names of control characters, which have no
other, abbreviations, and corrections of names that were given by mistake.
-/

namespace ExtensionAudit.Text

/-- Other names of characters in a row, from the first one on.  The names of one character are
divided by slashes. -/
def otherNames : List (Nat × List String) :=
  [(0, ["NUL/NULL", "SOH/START OF HEADING", "START OF TEXT/STX", "END OF TEXT/ETX",
   "END OF TRANSMISSION/EOT", "ENQ/ENQUIRY", "ACK/ACKNOWLEDGE", "ALERT/BEL", "BACKSPACE/BS",
   "CHARACTER TABULATION/HORIZONTAL TABULATION/HT/TAB", "END OF LINE/EOL/LF/LINE FEED/NEW LINE/NL",
   "LINE TABULATION/VERTICAL TABULATION/VT", "FF/FORM FEED", "CARRIAGE RETURN/CR",
   "LOCKING-SHIFT ONE/SHIFT OUT/SO", "LOCKING-SHIFT ZERO/SHIFT IN/SI", "DATA LINK ESCAPE/DLE",
   "DC1/DEVICE CONTROL ONE", "DC2/DEVICE CONTROL TWO", "DC3/DEVICE CONTROL THREE",
   "DC4/DEVICE CONTROL FOUR", "NAK/NEGATIVE ACKNOWLEDGE", "SYN/SYNCHRONOUS IDLE",
   "END OF TRANSMISSION BLOCK/ETB", "CAN/CANCEL", "END OF MEDIUM/EOM", "SUB/SUBSTITUTE",
   "ESC/ESCAPE", "FILE SEPARATOR/FS/INFORMATION SEPARATOR FOUR",
   "GROUP SEPARATOR/GS/INFORMATION SEPARATOR THREE",
   "INFORMATION SEPARATOR TWO/RECORD SEPARATOR/RS", "INFORMATION SEPARATOR ONE/UNIT SEPARATOR/US",
   "SP"]), (127, ["DEL/DELETE", "PAD/PADDING CHARACTER", "HIGH OCTET PRESET/HOP",
   "BPH/BREAK PERMITTED HERE", "NBH/NO BREAK HERE", "IND/INDEX", "NEL/NEXT LINE",
   "SSA/START OF SELECTED AREA", "END OF SELECTED AREA/ESA",
   "CHARACTER TABULATION SET/HORIZONTAL TABULATION SET/HTS",
   "CHARACTER TABULATION WITH JUSTIFICATION/HORIZONTAL TABULATION WITH JUSTIFICATION/HTJ",
   "LINE TABULATION SET/VERTICAL TABULATION SET/VTS", "PARTIAL LINE DOWN/PARTIAL LINE FORWARD/PLD",
   "PARTIAL LINE BACKWARD/PARTIAL LINE UP/PLU", "REVERSE INDEX/REVERSE LINE FEED/RI",
   "SINGLE SHIFT TWO/SINGLE-SHIFT-2/SS2", "SINGLE SHIFT THREE/SINGLE-SHIFT-3/SS3",
   "DCS/DEVICE CONTROL STRING", "PRIVATE USE ONE/PRIVATE USE-1/PU1",
   "PRIVATE USE TWO/PRIVATE USE-2/PU2", "SET TRANSMIT STATE/STS", "CANCEL CHARACTER/CCH",
   "MESSAGE WAITING/MW", "SPA/START OF GUARDED AREA/START OF PROTECTED AREA",
   "END OF GUARDED AREA/END OF PROTECTED AREA/EPA", "SOS/START OF STRING",
   "SGC/SINGLE GRAPHIC CHARACTER INTRODUCER", "SCI/SINGLE CHARACTER INTRODUCER",
   "CONTROL SEQUENCE INTRODUCER/CSI", "ST/STRING TERMINATOR", "OPERATING SYSTEM COMMAND/OSC",
   "PM/PRIVACY MESSAGE", "APC/APPLICATION PROGRAM COMMAND", "NBSP"]), (173, ["SHY"]),
   (0x1a2, ["LATIN CAPITAL LETTER GHA", "LATIN SMALL LETTER GHA"]), (0x34f, ["CGJ"]),
   (0x61c, ["ALM"]), (0x709, ["SYRIAC SUBLINEAR COLON SKEWED LEFT"]),
   (0xcde, ["KANNADA LETTER LLLA"]), (0xe9d, ["LAO LETTER FO FON"]), (0xe9f, ["LAO LETTER FO FAY"]),
   (0xea3, ["LAO LETTER RO"]), (0xea5, ["LAO LETTER LO"]),
   (0xfd0, ["TIBETAN MARK BKA- SHOG GI MGO RGYAN"]), (0x11ec, ["HANGUL JONGSEONG YESIEUNG-KIYEOK",
   "HANGUL JONGSEONG YESIEUNG-SSANGKIYEOK", "HANGUL JONGSEONG SSANGYESIEUNG",
   "HANGUL JONGSEONG YESIEUNG-KHIEUKH"]), (0x180b, ["FVS1", "FVS2", "FVS3", "MVS", "FVS4"]),
   (0x200b, ["ZWSP", "ZWNJ", "ZWJ", "LRM", "RLM"]), (0x202a, ["LRE", "RLE", "PDF", "LRO", "RLO",
   "NNBSP"]), (0x205f, ["MMSP", "WJ"]), (0x2066, ["LRI", "RLI", "FSI", "PDI"]),
   (0x2118, ["WEIERSTRASS ELLIPTIC FUNCTION"]), (0x2448, ["MICR ON US SYMBOL", "MICR DASH SYMBOL"]),
   (0x2b7a, ["LEFTWARDS TRIANGLE-HEADED ARROW WITH DOUBLE VERTICAL STROKE"]),
   (0x2b7c, ["RIGHTWARDS TRIANGLE-HEADED ARROW WITH DOUBLE VERTICAL STROKE"]),
   (0xa015, ["YI SYLLABLE ITERATION MARK"]), (0xaa6e, ["MYANMAR LETTER KHAMTI LLA"]),
   (0xfe18, ["PRESENTATION FORM FOR VERTICAL RIGHT WHITE LENTICULAR BRACKET"]),
   (0xfeff, ["BOM/BYTE ORDER MARK/ZWNBSP"]), (0x122d4, ["CUNEIFORM SIGN NU11 TENU",
   "CUNEIFORM SIGN NU11 OVER NU11 BUR OVER BUR"]), (0x16e56, ["MEDEFAIDRIN CAPITAL LETTER H",
   "MEDEFAIDRIN CAPITAL LETTER NG"]), (0x16e76, ["MEDEFAIDRIN SMALL LETTER H",
   "MEDEFAIDRIN SMALL LETTER NG"]), (0x1b001, ["HENTAIGANA LETTER E-1"]),
   (0x1d0c5, ["BYZANTINE MUSICAL SYMBOL FTHORA SKLIRON CHROMA VASIS"])]

/-- The character of another name. -/
def otherNamed? (name : Text) : Option Nat :=
  otherNames.findSome? fun (first, names) =>
    (names.findIdx? fun s => (splitAt '/' s.toList).contains name).map (first + ·)

end ExtensionAudit.Text
