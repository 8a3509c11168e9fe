/-
# `CharacterName` — names of characters

Letters of Latin and Greek have names that are put together from words; signs have names of their
own.  The tables hold what is in ASCII and Latin-1, and of the rest of Unicode 14.0 what is common;
a name that is in none of them counts as the name of nothing.  The case of letters does not matter.
-/

namespace TemplateRun.Text

/-! ## Tables -/

def signNames : List String :=
  ["SPACE", "EXCLAMATION MARK", "QUOTATION MARK", "NUMBER SIGN", "DOLLAR SIGN", "PERCENT SIGN",
   "AMPERSAND", "APOSTROPHE", "LEFT PARENTHESIS", "RIGHT PARENTHESIS", "ASTERISK", "PLUS SIGN",
   "COMMA", "HYPHEN-MINUS", "FULL STOP", "SOLIDUS", "COLON", "SEMICOLON", "LESS-THAN SIGN",
   "EQUALS SIGN", "GREATER-THAN SIGN", "QUESTION MARK", "COMMERCIAL AT", "LEFT SQUARE BRACKET",
   "REVERSE SOLIDUS", "RIGHT SQUARE BRACKET", "CIRCUMFLEX ACCENT", "LOW LINE", "GRAVE ACCENT",
   "LEFT CURLY BRACKET", "VERTICAL LINE", "RIGHT CURLY BRACKET", "TILDE", "NO-BREAK SPACE",
   "INVERTED EXCLAMATION MARK", "CENT SIGN", "POUND SIGN", "CURRENCY SIGN", "YEN SIGN",
   "BROKEN BAR", "SECTION SIGN", "DIAERESIS", "COPYRIGHT SIGN", "FEMININE ORDINAL INDICATOR",
   "LEFT-POINTING DOUBLE ANGLE QUOTATION MARK", "NOT SIGN", "SOFT HYPHEN", "REGISTERED SIGN",
   "MACRON", "DEGREE SIGN", "PLUS-MINUS SIGN", "SUPERSCRIPT TWO", "SUPERSCRIPT THREE",
   "ACUTE ACCENT", "MICRO SIGN", "PILCROW SIGN", "MIDDLE DOT", "CEDILLA", "SUPERSCRIPT ONE",
   "MASCULINE ORDINAL INDICATOR", "RIGHT-POINTING DOUBLE ANGLE QUOTATION MARK",
   "VULGAR FRACTION ONE QUARTER", "VULGAR FRACTION ONE HALF", "VULGAR FRACTION THREE QUARTERS",
   "INVERTED QUESTION MARK", "MULTIPLICATION SIGN", "DIVISION SIGN"]

/-- Control characters and blanks, which have names only by custom. -/
def controlNames : List String :=
  ["NULL", "NUL", "START OF HEADING", "SOH", "START OF TEXT", "STX", "END OF TEXT", "ETX",
   "END OF TRANSMISSION", "EOT", "ENQUIRY", "ENQ", "ACKNOWLEDGE", "ACK", "ALERT", "BEL",
   "BACKSPACE", "BS", "CHARACTER TABULATION", "HORIZONTAL TABULATION", "HT", "TAB", "LINE FEED",
   "NEW LINE", "END OF LINE", "LF", "NL", "EOL", "LINE TABULATION", "VERTICAL TABULATION", "VT",
   "FORM FEED", "FF", "CARRIAGE RETURN", "CR", "SHIFT OUT", "SO", "LOCKING-SHIFT ONE", "SHIFT IN",
   "SI", "LOCKING-SHIFT ZERO", "DATA LINK ESCAPE", "DLE", "ESCAPE", "ESC", "DELETE", "DEL", "SPACE",
   "SP", "NEXT LINE", "NEL", "NBSP", "SHY", "ZWSP", "ZWNJ", "ZWJ", "LRM", "RLM", "BYTE ORDER MARK",
   "BOM", "ZWNBSP"]

/-- Common signs of other scripts. -/
def commonNames : List String :=
  ["HYPHEN", "NON-BREAKING HYPHEN", "FIGURE DASH", "EN DASH", "EM DASH", "HORIZONTAL BAR",
   "DOUBLE VERTICAL LINE", "DOUBLE LOW LINE", "LEFT SINGLE QUOTATION MARK",
   "RIGHT SINGLE QUOTATION MARK", "SINGLE LOW-9 QUOTATION MARK",
   "SINGLE HIGH-REVERSED-9 QUOTATION MARK", "LEFT DOUBLE QUOTATION MARK",
   "RIGHT DOUBLE QUOTATION MARK", "DOUBLE LOW-9 QUOTATION MARK",
   "DOUBLE HIGH-REVERSED-9 QUOTATION MARK", "DAGGER", "DOUBLE DAGGER", "BULLET",
   "TRIANGULAR BULLET", "ONE DOT LEADER", "TWO DOT LEADER", "HORIZONTAL ELLIPSIS",
   "HYPHENATION POINT", "PER MILLE SIGN", "PER TEN THOUSAND SIGN", "PRIME", "DOUBLE PRIME",
   "TRIPLE PRIME", "REVERSED PRIME", "REVERSED DOUBLE PRIME", "REVERSED TRIPLE PRIME", "CARET",
   "SINGLE LEFT-POINTING ANGLE QUOTATION MARK", "SINGLE RIGHT-POINTING ANGLE QUOTATION MARK",
   "REFERENCE MARK", "DOUBLE EXCLAMATION MARK", "EURO SIGN", "BITCOIN SIGN", "NUMERO SIGN",
   "TRADE MARK SIGN", "OHM SIGN", "LEFTWARDS ARROW", "UPWARDS ARROW", "RIGHTWARDS ARROW",
   "DOWNWARDS ARROW", "LEFT RIGHT ARROW", "UP DOWN ARROW", "NORTH WEST ARROW", "NORTH EAST ARROW",
   "SOUTH EAST ARROW", "SOUTH WEST ARROW", "LEFTWARDS DOUBLE ARROW", "UPWARDS DOUBLE ARROW",
   "RIGHTWARDS DOUBLE ARROW", "DOWNWARDS DOUBLE ARROW", "LEFT RIGHT DOUBLE ARROW",
   "UP DOWN DOUBLE ARROW", "FOR ALL", "COMPLEMENT", "PARTIAL DIFFERENTIAL", "THERE EXISTS",
   "THERE DOES NOT EXIST", "EMPTY SET", "INCREMENT", "NABLA", "ELEMENT OF", "NOT AN ELEMENT OF",
   "SMALL ELEMENT OF", "CONTAINS AS MEMBER", "DOES NOT CONTAIN AS MEMBER",
   "SMALL CONTAINS AS MEMBER", "END OF PROOF", "N-ARY PRODUCT", "N-ARY COPRODUCT",
   "N-ARY SUMMATION", "MINUS SIGN", "MINUS-OR-PLUS SIGN", "DOT PLUS", "DIVISION SLASH", "SET MINUS",
   "ASTERISK OPERATOR", "RING OPERATOR", "BULLET OPERATOR", "SQUARE ROOT", "CUBE ROOT",
   "FOURTH ROOT", "PROPORTIONAL TO", "INFINITY", "LOGICAL AND", "LOGICAL OR", "INTERSECTION",
   "UNION", "INTEGRAL", "ALMOST EQUAL TO", "NOT EQUAL TO", "IDENTICAL TO", "NOT IDENTICAL TO",
   "STRICTLY EQUIVALENT TO", "LESS-THAN OR EQUAL TO", "GREATER-THAN OR EQUAL TO", "SUBSET OF",
   "SUPERSET OF", "NOT A SUBSET OF", "NOT A SUPERSET OF", "SUBSET OF OR EQUAL TO",
   "SUPERSET OF OR EQUAL TO", "BOX DRAWINGS LIGHT HORIZONTAL", "BOX DRAWINGS HEAVY HORIZONTAL",
   "BOX DRAWINGS LIGHT VERTICAL", "BOX DRAWINGS HEAVY VERTICAL", "UPPER HALF BLOCK",
   "LOWER ONE EIGHTH BLOCK", "LOWER ONE QUARTER BLOCK", "LOWER THREE EIGHTHS BLOCK",
   "LOWER HALF BLOCK", "LOWER FIVE EIGHTHS BLOCK", "LOWER THREE QUARTERS BLOCK",
   "LOWER SEVEN EIGHTHS BLOCK", "FULL BLOCK", "LEFT SEVEN EIGHTHS BLOCK",
   "LEFT THREE QUARTERS BLOCK", "LEFT FIVE EIGHTHS BLOCK", "LEFT HALF BLOCK",
   "LEFT THREE EIGHTHS BLOCK", "LEFT ONE QUARTER BLOCK", "LEFT ONE EIGHTH BLOCK", "BLACK SQUARE",
   "WHITE SQUARE", "BLACK UP-POINTING TRIANGLE", "BLACK RIGHT-POINTING TRIANGLE",
   "BLACK DOWN-POINTING TRIANGLE", "BLACK LEFT-POINTING TRIANGLE", "BLACK DIAMOND", "WHITE CIRCLE",
   "BLACK CIRCLE", "BLACK SUN WITH RAYS", "CLOUD", "UMBRELLA", "SNOWMAN", "COMET", "BLACK STAR",
   "WHITE STAR", "BLACK TELEPHONE", "BALLOT BOX", "BALLOT BOX WITH CHECK", "BALLOT BOX WITH X",
   "SALTIRE", "UMBRELLA WITH RAIN DROPS", "HOT BEVERAGE", "SKULL AND CROSSBONES",
   "RADIOACTIVE SIGN", "BIOHAZARD SIGN", "PEACE SYMBOL", "YIN YANG", "WHITE FROWNING FACE",
   "WHITE SMILING FACE", "BLACK SMILING FACE", "BLACK SPADE SUIT", "WHITE HEART SUIT",
   "WHITE DIAMOND SUIT", "BLACK CLUB SUIT", "WHITE SPADE SUIT", "BLACK HEART SUIT",
   "BLACK DIAMOND SUIT", "WHITE CLUB SUIT", "QUARTER NOTE", "EIGHTH NOTE", "BEAMED EIGHTH NOTES",
   "BEAMED SIXTEENTH NOTES", "MUSIC FLAT SIGN", "MUSIC NATURAL SIGN", "MUSIC SHARP SIGN", "ANCHOR",
   "WARNING SIGN", "HIGH VOLTAGE SIGN", "WHITE HEAVY CHECK MARK", "AIRPLANE", "ENVELOPE",
   "CHECK MARK", "HEAVY CHECK MARK", "MULTIPLICATION X", "HEAVY MULTIPLICATION X", "BALLOT X",
   "HEAVY BALLOT X", "SPARKLES", "SNOWFLAKE", "CROSS MARK", "HEAVY BLACK HEART",
   "BLACK RIGHTWARDS ARROW", "WHITE MEDIUM STAR", "IDEOGRAPHIC SPACE", "IDEOGRAPHIC COMMA",
   "IDEOGRAPHIC FULL STOP", "VARIATION SELECTOR-16", "ZERO WIDTH NO-BREAK SPACE",
   "OBJECT REPLACEMENT CHARACTER", "REPLACEMENT CHARACTER", "SNAKE", "GRINNING FACE",
   "GRINNING FACE WITH SMILING EYES", "FACE WITH TEARS OF JOY", "SMILING FACE WITH OPEN MOUTH",
   "SMILING FACE WITH OPEN MOUTH AND SMILING EYES", "WINKING FACE",
   "SMILING FACE WITH SMILING EYES", "SMILING FACE WITH HEART-SHAPED EYES",
   "SMILING FACE WITH SUNGLASSES", "CRYING FACE", "LOUDLY CRYING FACE", "PARTY POPPER",
   "MUSICAL NOTE", "THUMBS UP SIGN", "THUMBS DOWN SIGN", "CLAPPING HANDS SIGN", "PILE OF POO",
   "FIRE", "ROCKET", "CAT FACE", "DOG FACE", "ELECTRIC LIGHT BULB", "ROBOT FACE",
   "ZERO WIDTH SPACE", "ZERO WIDTH NON-JOINER", "ZERO WIDTH JOINER", "LEFT-TO-RIGHT MARK",
   "RIGHT-TO-LEFT MARK", "LINE SEPARATOR", "PARAGRAPH SEPARATOR", "NARROW NO-BREAK SPACE",
   "WORD JOINER", "EM SPACE", "EN SPACE", "THIN SPACE", "COMBINING GRAVE ACCENT",
   "COMBINING ACUTE ACCENT", "COMBINING CIRCUMFLEX ACCENT", "COMBINING TILDE",
   "COMBINING DIAERESIS", "COMBINING RING ABOVE", "COMBINING CEDILLA"]

def digitNames : List String :=
  ["ZERO", "ONE", "TWO", "THREE", "FOUR", "FIVE", "SIX", "SEVEN", "EIGHT", "NINE"]

/-- The names of the Greek letters that come in two sizes. -/
def greekNames : List String :=
  ["ALPHA", "BETA", "GAMMA", "DELTA", "EPSILON", "ZETA", "ETA", "THETA", "IOTA", "KAPPA", "LAMDA",
   "MU", "NU", "XI", "OMICRON", "PI", "RHO", "SIGMA", "TAU", "UPSILON", "PHI", "CHI", "PSI",
   "OMEGA"]

/-- Marks on Latin letters, and the letters that have them in two sizes. -/
def latinMarks : List (String × List String) :=
  [("ACUTE", ["A", "E", "I", "O", "U", "Y"]), ("CEDILLA", ["C"]),
   ("CIRCUMFLEX", ["A", "E", "I", "O", "U"]), ("DIAERESIS", ["A", "E", "I", "O", "U", "Y"]),
   ("GRAVE", ["A", "E", "I", "O", "U"]), ("RING ABOVE", ["A"]), ("STROKE", ["O"]),
   ("TILDE", ["A", "N", "O"])]

/-! ## Names -/

/-- Whether a word is the name of a Latin letter that comes in two sizes. -/
def isLatinName (word : String) : Bool :=
  (word.length = 1 && word.toList.all Char.isUpper) || word ∈ ["AE", "ETH", "THORN"]

/-- Whether words, given in capital letters, are the name of a letter or a digit. -/
def isLetterName : List String → Bool
  | ["DIGIT", digit] => digit ∈ digitNames
  | ["LATIN", "SMALL", "LETTER", "SHARP", "S"] => true
  | ["GREEK", "SMALL", "LETTER", "FINAL", "SIGMA"] => true
  | [script, size, "LETTER", letter] =>
    (size = "SMALL" || size = "CAPITAL") &&
      ((script = "LATIN" && isLatinName letter) || (script = "GREEK" && letter ∈ greekNames))
  | "LATIN" :: size :: "LETTER" :: letter :: "WITH" :: mark =>
    (size = "SMALL" || size = "CAPITAL") &&
      ((latinMarks.lookup (" ".intercalate mark)).getD []).contains letter
  | _ => false

def isCharacterName (name : List Char) : Bool :=
  let name := name.map Char.toUpper
  let text := String.ofList name
  text ∈ signNames || text ∈ controlNames || text ∈ commonNames ||
    isLetterName ((name.splitOn ' ').map String.ofList)

end TemplateRun.Text
