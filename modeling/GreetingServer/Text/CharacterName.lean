import GreetingServer.Text.Basic

/-! Names of characters, in capital letters: those of ASCII and Latin-1 and of the blank characters
behind them, in Unicode 14. A character may have several names. -/
namespace GreetingServer
namespace Text

def namedCharacters : List (Char × String) :=
  [('\x00', "NULL"), ('\x00', "NUL"), ('\x01', "START OF HEADING"), ('\x01', "SOH"),
    ('\x02', "START OF TEXT"), ('\x02', "STX"), ('\x03', "END OF TEXT"), ('\x03', "ETX"),
    ('\x04', "END OF TRANSMISSION"), ('\x04', "EOT"), ('\x05', "ENQUIRY"), ('\x05', "ENQ"),
    ('\x06', "ACKNOWLEDGE"), ('\x06', "ACK"), ('\x07', "ALERT"), ('\x07', "BEL"),
    ('\x08', "BACKSPACE"), ('\x08', "BS"), ('\x09', "CHARACTER TABULATION"),
    ('\x09', "HORIZONTAL TABULATION"), ('\x09', "HT"), ('\x09', "TAB"), ('\x0a', "LINE FEED"),
    ('\x0a', "NEW LINE"), ('\x0a', "END OF LINE"), ('\x0a', "LF"), ('\x0a', "NL"), ('\x0a', "EOL"),
    ('\x0b', "LINE TABULATION"), ('\x0b', "VERTICAL TABULATION"), ('\x0b', "VT"),
    ('\x0c', "FORM FEED"), ('\x0c', "FF"), ('\x0d', "CARRIAGE RETURN"), ('\x0d', "CR"),
    ('\x0e', "SHIFT OUT"), ('\x0e', "LOCKING-SHIFT ONE"), ('\x0e', "SO"), ('\x0f', "SHIFT IN"),
    ('\x0f', "LOCKING-SHIFT ZERO"), ('\x0f', "SI"), ('\x10', "DATA LINK ESCAPE"), ('\x10', "DLE"),
    ('\x11', "DEVICE CONTROL ONE"), ('\x11', "DC1"), ('\x12', "DEVICE CONTROL TWO"),
    ('\x12', "DC2"), ('\x13', "DEVICE CONTROL THREE"), ('\x13', "DC3"),
    ('\x14', "DEVICE CONTROL FOUR"), ('\x14', "DC4"), ('\x15', "NEGATIVE ACKNOWLEDGE"),
    ('\x15', "NAK"), ('\x16', "SYNCHRONOUS IDLE"), ('\x16', "SYN"),
    ('\x17', "END OF TRANSMISSION BLOCK"), ('\x17', "ETB"), ('\x18', "CANCEL"), ('\x18', "CAN"),
    ('\x19', "END OF MEDIUM"), ('\x19', "EOM"), ('\x1a', "SUBSTITUTE"), ('\x1a', "SUB"),
    ('\x1b', "ESCAPE"), ('\x1b', "ESC"), ('\x1c', "INFORMATION SEPARATOR FOUR"),
    ('\x1c', "FILE SEPARATOR"), ('\x1c', "FS"), ('\x1d', "INFORMATION SEPARATOR THREE"),
    ('\x1d', "GROUP SEPARATOR"), ('\x1d', "GS"), ('\x1e', "INFORMATION SEPARATOR TWO"),
    ('\x1e', "RECORD SEPARATOR"), ('\x1e', "RS"), ('\x1f', "INFORMATION SEPARATOR ONE"),
    ('\x1f', "UNIT SEPARATOR"), ('\x1f', "US"), ('\x20', "SPACE"), ('\x20', "SP"),
    ('!', "EXCLAMATION MARK"), ('\x22', "QUOTATION MARK"), ('#', "NUMBER SIGN"),
    ('$', "DOLLAR SIGN"), ('%', "PERCENT SIGN"), ('&', "AMPERSAND"), ('\x27', "APOSTROPHE"),
    ('(', "LEFT PARENTHESIS"), (')', "RIGHT PARENTHESIS"), ('*', "ASTERISK"), ('+', "PLUS SIGN"),
    (',', "COMMA"), ('\x2d', "HYPHEN-MINUS"), ('.', "FULL STOP"), ('/', "SOLIDUS"),
    ('0', "DIGIT ZERO"), ('1', "DIGIT ONE"), ('2', "DIGIT TWO"), ('3', "DIGIT THREE"),
    ('4', "DIGIT FOUR"), ('5', "DIGIT FIVE"), ('6', "DIGIT SIX"), ('7', "DIGIT SEVEN"),
    ('8', "DIGIT EIGHT"), ('9', "DIGIT NINE"), (':', "COLON"), (';', "SEMICOLON"),
    ('<', "LESS-THAN SIGN"), ('=', "EQUALS SIGN"), ('>', "GREATER-THAN SIGN"),
    ('?', "QUESTION MARK"), ('@', "COMMERCIAL AT"), ('[', "LEFT SQUARE BRACKET"),
    ('\x5c', "REVERSE SOLIDUS"), (']', "RIGHT SQUARE BRACKET"), ('^', "CIRCUMFLEX ACCENT"),
    ('_', "LOW LINE"), ('\x60', "GRAVE ACCENT"), ('\x7b', "LEFT CURLY BRACKET"),
    ('|', "VERTICAL LINE"), ('\x7d', "RIGHT CURLY BRACKET"), ('~', "TILDE"), ('\x7f', "DELETE"),
    ('\x7f', "DEL"), ('\x80', "PADDING CHARACTER"), ('\x80', "PAD"), ('\x81', "HIGH OCTET PRESET"),
    ('\x81', "HOP"), ('\x82', "BREAK PERMITTED HERE"), ('\x82', "BPH"), ('\x83', "NO BREAK HERE"),
    ('\x83', "NBH"), ('\x84', "INDEX"), ('\x84', "IND"), ('\x85', "NEXT LINE"), ('\x85', "NEL"),
    ('\x86', "START OF SELECTED AREA"), ('\x86', "SSA"), ('\x87', "END OF SELECTED AREA"),
    ('\x87', "ESA"), ('\x88', "CHARACTER TABULATION SET"), ('\x88', "HORIZONTAL TABULATION SET"),
    ('\x88', "HTS"), ('\x89', "CHARACTER TABULATION WITH JUSTIFICATION"),
    ('\x89', "HORIZONTAL TABULATION WITH JUSTIFICATION"), ('\x89', "HTJ"),
    ('\x8a', "LINE TABULATION SET"), ('\x8a', "VERTICAL TABULATION SET"), ('\x8a', "VTS"),
    ('\x8b', "PARTIAL LINE FORWARD"), ('\x8b', "PARTIAL LINE DOWN"), ('\x8b', "PLD"),
    ('\x8c', "PARTIAL LINE BACKWARD"), ('\x8c', "PARTIAL LINE UP"), ('\x8c', "PLU"),
    ('\x8d', "REVERSE LINE FEED"), ('\x8d', "REVERSE INDEX"), ('\x8d', "RI"),
    ('\x8e', "SINGLE SHIFT TWO"), ('\x8e', "SINGLE-SHIFT-2"), ('\x8e', "SS2"),
    ('\x8f', "SINGLE SHIFT THREE"), ('\x8f', "SINGLE-SHIFT-3"), ('\x8f', "SS3"),
    ('\x90', "DEVICE CONTROL STRING"), ('\x90', "DCS"), ('\x91', "PRIVATE USE ONE"),
    ('\x91', "PRIVATE USE-1"), ('\x91', "PU1"), ('\x92', "PRIVATE USE TWO"),
    ('\x92', "PRIVATE USE-2"), ('\x92', "PU2"), ('\x93', "SET TRANSMIT STATE"), ('\x93', "STS"),
    ('\x94', "CANCEL CHARACTER"), ('\x94', "CCH"), ('\x95', "MESSAGE WAITING"), ('\x95', "MW"),
    ('\x96', "START OF GUARDED AREA"), ('\x96', "START OF PROTECTED AREA"), ('\x96', "SPA"),
    ('\x97', "END OF GUARDED AREA"), ('\x97', "END OF PROTECTED AREA"), ('\x97', "EPA"),
    ('\x98', "START OF STRING"), ('\x98', "SOS"), ('\x99', "SINGLE GRAPHIC CHARACTER INTRODUCER"),
    ('\x99', "SGC"), ('\x9a', "SINGLE CHARACTER INTRODUCER"), ('\x9a', "SCI"),
    ('\x9b', "CONTROL SEQUENCE INTRODUCER"), ('\x9b', "CSI"), ('\x9c', "STRING TERMINATOR"),
    ('\x9c', "ST"), ('\x9d', "OPERATING SYSTEM COMMAND"), ('\x9d', "OSC"),
    ('\x9e', "PRIVACY MESSAGE"), ('\x9e', "PM"), ('\x9f', "APPLICATION PROGRAM COMMAND"),
    ('\x9f', "APC"), ('\xa0', "NO-BREAK SPACE"), ('\xa0', "NBSP"),
    ('¡', "INVERTED EXCLAMATION MARK"), ('¢', "CENT SIGN"), ('£', "POUND SIGN"),
    ('¤', "CURRENCY SIGN"), ('¥', "YEN SIGN"), ('¦', "BROKEN BAR"), ('§', "SECTION SIGN"),
    ('¨', "DIAERESIS"), ('©', "COPYRIGHT SIGN"), ('ª', "FEMININE ORDINAL INDICATOR"),
    ('«', "LEFT-POINTING DOUBLE ANGLE QUOTATION MARK"), ('¬', "NOT SIGN"), ('\xad', "SOFT HYPHEN"),
    ('\xad', "SHY"), ('®', "REGISTERED SIGN"), ('¯', "MACRON"), ('°', "DEGREE SIGN"),
    ('±', "PLUS-MINUS SIGN"), ('²', "SUPERSCRIPT TWO"), ('³', "SUPERSCRIPT THREE"),
    ('´', "ACUTE ACCENT"), ('µ', "MICRO SIGN"), ('¶', "PILCROW SIGN"), ('·', "MIDDLE DOT"),
    ('¸', "CEDILLA"), ('¹', "SUPERSCRIPT ONE"), ('º', "MASCULINE ORDINAL INDICATOR"),
    ('»', "RIGHT-POINTING DOUBLE ANGLE QUOTATION MARK"), ('¼', "VULGAR FRACTION ONE QUARTER"),
    ('½', "VULGAR FRACTION ONE HALF"), ('¾', "VULGAR FRACTION THREE QUARTERS"),
    ('¿', "INVERTED QUESTION MARK"), ('À', "LATIN CAPITAL LETTER A WITH GRAVE"),
    ('Á', "LATIN CAPITAL LETTER A WITH ACUTE"), ('Â', "LATIN CAPITAL LETTER A WITH CIRCUMFLEX"),
    ('Ã', "LATIN CAPITAL LETTER A WITH TILDE"), ('Ä', "LATIN CAPITAL LETTER A WITH DIAERESIS"),
    ('Å', "LATIN CAPITAL LETTER A WITH RING ABOVE"), ('Æ', "LATIN CAPITAL LETTER AE"),
    ('Ç', "LATIN CAPITAL LETTER C WITH CEDILLA"), ('È', "LATIN CAPITAL LETTER E WITH GRAVE"),
    ('É', "LATIN CAPITAL LETTER E WITH ACUTE"), ('Ê', "LATIN CAPITAL LETTER E WITH CIRCUMFLEX"),
    ('Ë', "LATIN CAPITAL LETTER E WITH DIAERESIS"), ('Ì', "LATIN CAPITAL LETTER I WITH GRAVE"),
    ('Í', "LATIN CAPITAL LETTER I WITH ACUTE"), ('Î', "LATIN CAPITAL LETTER I WITH CIRCUMFLEX"),
    ('Ï', "LATIN CAPITAL LETTER I WITH DIAERESIS"), ('Ð', "LATIN CAPITAL LETTER ETH"),
    ('Ñ', "LATIN CAPITAL LETTER N WITH TILDE"), ('Ò', "LATIN CAPITAL LETTER O WITH GRAVE"),
    ('Ó', "LATIN CAPITAL LETTER O WITH ACUTE"), ('Ô', "LATIN CAPITAL LETTER O WITH CIRCUMFLEX"),
    ('Õ', "LATIN CAPITAL LETTER O WITH TILDE"), ('Ö', "LATIN CAPITAL LETTER O WITH DIAERESIS"),
    ('×', "MULTIPLICATION SIGN"), ('Ø', "LATIN CAPITAL LETTER O WITH STROKE"),
    ('Ù', "LATIN CAPITAL LETTER U WITH GRAVE"), ('Ú', "LATIN CAPITAL LETTER U WITH ACUTE"),
    ('Û', "LATIN CAPITAL LETTER U WITH CIRCUMFLEX"), ('Ü', "LATIN CAPITAL LETTER U WITH DIAERESIS"),
    ('Ý', "LATIN CAPITAL LETTER Y WITH ACUTE"), ('Þ', "LATIN CAPITAL LETTER THORN"),
    ('ß', "LATIN SMALL LETTER SHARP S"), ('à', "LATIN SMALL LETTER A WITH GRAVE"),
    ('á', "LATIN SMALL LETTER A WITH ACUTE"), ('â', "LATIN SMALL LETTER A WITH CIRCUMFLEX"),
    ('ã', "LATIN SMALL LETTER A WITH TILDE"), ('ä', "LATIN SMALL LETTER A WITH DIAERESIS"),
    ('å', "LATIN SMALL LETTER A WITH RING ABOVE"), ('æ', "LATIN SMALL LETTER AE"),
    ('ç', "LATIN SMALL LETTER C WITH CEDILLA"), ('è', "LATIN SMALL LETTER E WITH GRAVE"),
    ('é', "LATIN SMALL LETTER E WITH ACUTE"), ('ê', "LATIN SMALL LETTER E WITH CIRCUMFLEX"),
    ('ë', "LATIN SMALL LETTER E WITH DIAERESIS"), ('ì', "LATIN SMALL LETTER I WITH GRAVE"),
    ('í', "LATIN SMALL LETTER I WITH ACUTE"), ('î', "LATIN SMALL LETTER I WITH CIRCUMFLEX"),
    ('ï', "LATIN SMALL LETTER I WITH DIAERESIS"), ('ð', "LATIN SMALL LETTER ETH"),
    ('ñ', "LATIN SMALL LETTER N WITH TILDE"), ('ò', "LATIN SMALL LETTER O WITH GRAVE"),
    ('ó', "LATIN SMALL LETTER O WITH ACUTE"), ('ô', "LATIN SMALL LETTER O WITH CIRCUMFLEX"),
    ('õ', "LATIN SMALL LETTER O WITH TILDE"), ('ö', "LATIN SMALL LETTER O WITH DIAERESIS"),
    ('÷', "DIVISION SIGN"), ('ø', "LATIN SMALL LETTER O WITH STROKE"),
    ('ù', "LATIN SMALL LETTER U WITH GRAVE"), ('ú', "LATIN SMALL LETTER U WITH ACUTE"),
    ('û', "LATIN SMALL LETTER U WITH CIRCUMFLEX"), ('ü', "LATIN SMALL LETTER U WITH DIAERESIS"),
    ('ý', "LATIN SMALL LETTER Y WITH ACUTE"), ('þ', "LATIN SMALL LETTER THORN"),
    ('ÿ', "LATIN SMALL LETTER Y WITH DIAERESIS"), ('\u1680', "OGHAM SPACE MARK"),
    ('\u2000', "EN QUAD"), ('\u2001', "EM QUAD"), ('\u2002', "EN SPACE"), ('\u2003', "EM SPACE"),
    ('\u2004', "THREE-PER-EM SPACE"), ('\u2005', "FOUR-PER-EM SPACE"),
    ('\u2006', "SIX-PER-EM SPACE"), ('\u2007', "FIGURE SPACE"), ('\u2008', "PUNCTUATION SPACE"),
    ('\u2009', "THIN SPACE"), ('\u200a', "HAIR SPACE"), ('\u2028', "LINE SEPARATOR"),
    ('\u2029', "PARAGRAPH SEPARATOR"), ('\u202f', "NARROW NO-BREAK SPACE"), ('\u202f', "NNBSP"),
    ('\u205f', "MEDIUM MATHEMATICAL SPACE"), ('\u205f', "MMSP"), ('\u3000', "IDEOGRAPHIC SPACE")]

def letterName (c : Char) : Text :=
  (if c.isUpper then "LATIN CAPITAL LETTER ".toList else "LATIN SMALL LETTER ".toList) ++ [c.toUpper]

def letters : Text := "ABCDEFGHIJKLMNOPQRSTUVWXYZabcdefghijklmnopqrstuvwxyz".toList

def ofName? (name : Text) : Option Char :=
  let name := name.map Char.toUpper
  match letters.find? fun c => letterName c = name with
  | some c => some c
  | none => (namedCharacters.find? fun entry => entry.2.toList = name).map (·.1)

end Text
end GreetingServer
