/-!
# Names of symbols

The names of the punctuation, currency signs, arrows, mathematical and technical symbols, shapes and
dingbats, and of the characters of East Asian punctuation, kana and forms (Unicode 14), written as
those of letters are.
-/

namespace GeneticRepair.Text

def symbolNames : List String := [
    "#2000/0EN QUAD/0EM QUAD/0EN SPACE/0EM SPACE/0THREE-PER-EM SPACE/0FOUR-PER-EM SPACE",
    "0SIX-PER-EM SPACE/0FIGURE SPACE/0PUNCTUATION SPACE/0THIN SPACE/0HAIR SPACE/0ZERO WIDTH SPACE",
    "2NON-JOINER/2JOINER/0LEFT-TO-RIGHT MARK/0RIGHT-TO-LEFT MARK/0HYPHEN/0NON-BREAKING HYPHEN",
    "0FIGURE DASH/0EN DASH/0EM DASH/0HORIZONTAL BAR/0DOUBLE VERTICAL LINE/1LOW LINE",
    "0LEFT SINGLE QUOTATION MARK/0RIGHT SINGLE QUOTATION MARK/0SINGLE LOW-9 QUOTATION MARK",
    "1HIGH-REVERSED-9 QUOTATION MARK/0LEFT DOUBLE QUOTATION MARK/0RIGHT DOUBLE QUOTATION MARK",
    "0DOUBLE LOW-9 QUOTATION MARK/1HIGH-REVERSED-9 QUOTATION MARK/0DAGGER/0DOUBLE DAGGER/0BULLET",
    "0TRIANGULAR BULLET/0ONE DOT LEADER/0TWO DOT LEADER/0HORIZONTAL ELLIPSIS/0HYPHENATION POINT",
    "0LINE SEPARATOR/0PARAGRAPH SEPARATOR/0LEFT-TO-RIGHT EMBEDDING/0RIGHT-TO-LEFT EMBEDDING",
    "0POP DIRECTIONAL FORMATTING/0LEFT-TO-RIGHT OVERRIDE/0RIGHT-TO-LEFT OVERRIDE",
    "0NARROW NO-BREAK SPACE/0PER MILLE SIGN/1TEN THOUSAND SIGN/0PRIME/0DOUBLE PRIME/0TRIPLE PRIME",
    "0REVERSED PRIME/1DOUBLE PRIME/1TRIPLE PRIME/0CARET",
    "0SINGLE LEFT-POINTING ANGLE QUOTATION MARK/1RIGHT-POINTING ANGLE QUOTATION MARK",
    "0REFERENCE MARK/0DOUBLE EXCLAMATION MARK/0INTERROBANG/0OVERLINE/0UNDERTIE/0CHARACTER TIE",
    "0CARET INSERTION POINT/0ASTERISM/0HYPHEN BULLET/0FRACTION SLASH",
    "0LEFT SQUARE BRACKET WITH QUILL/0RIGHT SQUARE BRACKET WITH QUILL/0DOUBLE QUESTION MARK",
    "0QUESTION EXCLAMATION MARK/0EXCLAMATION QUESTION MARK/0TIRONIAN SIGN ET",
    "0REVERSED PILCROW SIGN/0BLACK LEFTWARDS BULLET/1RIGHTWARDS BULLET/0LOW ASTERISK",
    "0REVERSED SEMICOLON/0CLOSE UP/0TWO ASTERISKS ALIGNED VERTICALLY/0COMMERCIAL MINUS SIGN",
    "0SWUNG DASH/0INVERTED UNDERTIE/0FLOWER PUNCTUATION MARK/0THREE DOT PUNCTUATION",
    "0QUADRUPLE PRIME/0FOUR DOT PUNCTUATION/0FIVE DOT PUNCTUATION/0TWO DOT PUNCTUATION",
    "0FOUR DOT MARK/0DOTTED CROSS/0TRICOLON/0VERTICAL FOUR DOTS/0MEDIUM MATHEMATICAL SPACE",
    "0WORD JOINER/0FUNCTION APPLICATION/0INVISIBLE TIMES/1SEPARATOR/1PLUS/#2066",
    "0LEFT-TO-RIGHT ISOLATE/0RIGHT-TO-LEFT ISOLATE/0FIRST STRONG ISOLATE/0POP DIRECTIONAL ISOLATE",
    "0INHIBIT SYMMETRIC SWAPPING/0ACTIVATE SYMMETRIC SWAPPING/0INHIBIT ARABIC FORM SHAPING",
    "0ACTIVATE ARABIC FORM SHAPING/0NATIONAL DIGIT SHAPES/0NOMINAL DIGIT SHAPES/0SUPERSCRIPT ZERO",
    "1LATIN SMALL LETTER I/#2074/1FOUR/1FIVE/1SIX/1SEVEN/1EIGHT/1NINE/1PLUS SIGN/1MINUS",
    "1EQUALS SIGN/1LEFT PARENTHESIS/1RIGHT PARENTHESIS/1LATIN SMALL LETTER N/0SUBSCRIPT ZERO/1ONE",
    "1TWO/1THREE/1FOUR/1FIVE/1SIX/1SEVEN/1EIGHT/1NINE/1PLUS SIGN/1MINUS/1EQUALS SIGN",
    "1LEFT PARENTHESIS/1RIGHT PARENTHESIS/#2090/0LATIN SUBSCRIPT SMALL LETTER A/4E/4O/4X/4SCHWA",
    "4H/4K/4L/4M/4N/4P/4S/4T/#20a0/0EURO-CURRENCY SIGN/0COLON SIGN/0CRUZEIRO SIGN",
    "0FRENCH FRANC SIGN/0LIRA SIGN/0MILL SIGN/0NAIRA SIGN/0PESETA SIGN/0RUPEE SIGN/0WON SIGN",
    "0NEW SHEQEL SIGN/0DONG SIGN/0EURO SIGN/0KIP SIGN/0TUGRIK SIGN/0DRACHMA SIGN",
    "0GERMAN PENNY SIGN/0PESO SIGN/0GUARANI SIGN/0AUSTRAL SIGN/0HRYVNIA SIGN/0CEDI SIGN",
    "0LIVRE TOURNOIS SIGN/0SPESMILO SIGN/0TENGE SIGN/0INDIAN RUPEE SIGN/0TURKISH LIRA SIGN",
    "0NORDIC MARK SIGN/0MANAT SIGN/0RUBLE SIGN/0LARI SIGN/0BITCOIN SIGN/0SOM SIGN/#20d0",
    "0COMBINING LEFT HARPOON ABOVE/1RIGHT HARPOON ABOVE/1LONG VERTICAL LINE OVERLAY",
    "1SHORT VERTICAL LINE OVERLAY/1ANTICLOCKWISE ARROW ABOVE/1CLOCKWISE ARROW ABOVE",
    "1LEFT ARROW ABOVE/1RIGHT ARROW ABOVE/1RING OVERLAY/1CLOCKWISE RING OVERLAY",
    "1ANTICLOCKWISE RING OVERLAY/1THREE DOTS ABOVE/1FOUR DOTS ABOVE/1ENCLOSING CIRCLE/2SQUARE",
    "2DIAMOND/2CIRCLE BACKSLASH/1LEFT RIGHT ARROW ABOVE/1ENCLOSING SCREEN/2KEYCAP",
    "2UPWARD POINTING TRIANGLE/1REVERSE SOLIDUS OVERLAY/1DOUBLE VERTICAL STROKE OVERLAY",
    "1ANNUITY SYMBOL/1TRIPLE UNDERDOT/1WIDE BRIDGE ABOVE/1LEFTWARDS ARROW OVERLAY",
    "1LONG DOUBLE SOLIDUS OVERLAY/1RIGHTWARDS HARPOON WITH BARB DOWNWARDS",
    "1LEFTWARDS HARPOON WITH BARB DOWNWARDS/1LEFT ARROW BELOW/1RIGHT ARROW BELOW/1ASTERISK ABOVE",
    "#2100/0ACCOUNT OF/0ADDRESSED TO THE SUBJECT/0DOUBLE-STRUCK CAPITAL C/0DEGREE CELSIUS",
    "0CENTRE LINE SYMBOL/0CARE OF/0CADA UNA/0EULER CONSTANT/0SCRUPLE/0DEGREE FAHRENHEIT",
    "0SCRIPT SMALL G/1CAPITAL H/0BLACK-LETTER CAPITAL H/0DOUBLE-STRUCK CAPITAL H/0PLANCK CONSTANT",
    "2OVER TWO PI/0SCRIPT CAPITAL I/0BLACK-LETTER CAPITAL I/0SCRIPT CAPITAL L/1SMALL L",
    "0L B BAR SYMBOL/0DOUBLE-STRUCK CAPITAL N/0NUMERO SIGN/0SOUND RECORDING \x43OPYRIGHT",
    "0SCRIPT CAPITAL P/0DOUBLE-STRUCK CAPITAL P/2Q/0SCRIPT CAPITAL R/0BLACK-LETTER CAPITAL R",
    "0DOUBLE-STRUCK CAPITAL R/0PRESCRIPTION TAKE/0RESPONSE/0SERVICE MARK/0TELEPHONE SIGN",
    "0TRADE MARK SIGN/0VERSICLE/0DOUBLE-STRUCK CAPITAL Z/0OUNCE SIGN/0OHM SIGN/0INVERTED OHM SIGN",
    "0BLACK-LETTER CAPITAL Z/0TURNED GREEK SMALL LETTER IOTA/0KELVIN SIGN/0ANGSTROM SIGN",
    "0SCRIPT CAPITAL B/0BLACK-LETTER CAPITAL C/0ESTIMATED SYMBOL/0SCRIPT SMALL E/1CAPITAL E/2F",
    "0TURNED CAPITAL F/0SCRIPT CAPITAL M/1SMALL O/0ALEF SYMBOL/0BET SYMBOL/0GIMEL SYMBOL",
    "0DALET SYMBOL/0INFORMATION SOURCE/0ROTATED CAPITAL Q/0FACSIMILE SIGN/0DOUBLE-STRUCK SMALL PI",
    "2GAMMA/1CAPITAL GAMMA/2PI/1N-ARY SUMMATION/0TURNED SANS-SERIF CAPITAL G/3L",
    "0REVERSED SANS-SERIF CAPITAL L/0TURNED SANS-SERIF CAPITAL Y/0DOUBLE-STRUCK ITALIC CAPITAL D",
    "2SMALL D/3E/3I/3J/0PROPERTY LINE/0TURNED AMPERSAND/0PER SIGN/0AKTIESELSKAB/0TURNED SMALL F",
    "0SYMBOL FOR SAMARITAN SOURCE/0VULGAR FRACTION ONE SEVENTH/3NINTH/3TENTH/3THIRD/2TWO THIRDS",
    "2ONE FIFTH/2TWO FIFTHS/2THREE FIFTHS/2FOUR FIFTHS/2ONE SIXTH/2FIVE SIXTHS/2ONE EIGHTH",
    "2THREE EIGHTHS/2FIVE EIGHTHS/2SEVEN EIGHTHS/0FRACTION NUMERATOR ONE/0ROMAN NUMERAL ONE/2TWO",
    "2THREE/2FOUR/2FIVE/2SIX/2SEVEN/2EIGHT/2NINE/2TEN/2ELEVEN/2TWELVE/2FIFTY/2ONE HUNDRED",
    "2FIVE HUNDRED/2ONE THOUSAND/0SMALL ROMAN NUMERAL ONE/3TWO/3THREE/3FOUR/3FIVE/3SIX/3SEVEN",
    "3EIGHT/3NINE/3TEN/3ELEVEN/3TWELVE/3FIFTY/3ONE HUNDRED/3FIVE HUNDRED/3ONE THOUSAND",
    "0ROMAN NUMERAL ONE THOUSAND C D/2FIVE THOUSAND/2TEN THOUSAND/2REVERSED ONE HUNDRED",
    "0LATIN SMALL LETTER REVERSED C/0ROMAN NUMERAL SIX LATE FORM/2FIFTY EARLY FORM/3THOUSAND",
    "2ONE HUNDRED THOUSAND/0VULGAR FRACTION ZERO THIRDS/0TURNED DIGIT TWO/2THREE/#2190",
    "0LEFTWARDS ARROW/0UPWARDS ARROW/0RIGHTWARDS ARROW/0DOWNWARDS ARROW/0LEFT RIGHT ARROW",
    "0UP DOWN ARROW/0NORTH WEST ARROW/1EAST ARROW/0SOUTH EAST ARROW/1WEST ARROW",
    "0LEFTWARDS ARROW WITH STROKE/0RIGHTWARDS ARROW WITH STROKE/0LEFTWARDS WAVE ARROW",
    "0RIGHTWARDS WAVE ARROW/0LEFTWARDS TWO HEADED ARROW/0UPWARDS TWO HEADED ARROW",
    "0RIGHTWARDS TWO HEADED ARROW/0DOWNWARDS TWO HEADED ARROW/0LEFTWARDS ARROW WITH TAIL",
    "0RIGHTWARDS ARROW WITH TAIL/0LEFTWARDS ARROW FROM BAR/0UPWARDS ARROW FROM BAR",
    "0RIGHTWARDS ARROW FROM BAR/0DOWNWARDS ARROW FROM BAR/0UP DOWN ARROW WITH BASE",
    "0LEFTWARDS ARROW WITH HOOK/0RIGHTWARDS ARROW WITH HOOK/0LEFTWARDS ARROW WITH LOOP",
    "0RIGHTWARDS ARROW WITH LOOP/0LEFT RIGHT WAVE ARROW/2ARROW WITH STROKE",
    "0DOWNWARDS ZIGZAG ARROW/0UPWARDS ARROW WITH TIP LEFTWARDS/4RIGHTWARDS",
    "0DOWNWARDS ARROW WITH TIP LEFTWARDS/4RIGHTWARDS/0RIGHTWARDS ARROW WITH CORNER DOWNWARDS",
    "0DOWNWARDS ARROW WITH CORNER LEFTWARDS/0ANTICLOCKWISE TOP SEMICIRCLE ARROW",
    "0CLOCKWISE TOP SEMICIRCLE ARROW/0NORTH WEST ARROW TO LONG BAR",
    "0LEFTWARDS ARROW TO BAR OVER RIGHTWARDS ARROW TO BAR/0ANTICLOCKWISE OPEN CIRCLE ARROW",
    "0CLOCKWISE OPEN CIRCLE ARROW/0LEFTWARDS HARPOON WITH BARB UPWARDS/4DOWNWARDS",
    "0UPWARDS HARPOON WITH BARB RIGHTWARDS/4LEFTWARDS/0RIGHTWARDS HARPOON WITH BARB UPWARDS",
    "4DOWNWARDS/0DOWNWARDS HARPOON WITH BARB RIGHTWARDS/4LEFTWARDS",
    "0RIGHTWARDS ARROW OVER LEFTWARDS ARROW/0UPWARDS ARROW LEFTWARDS OF DOWNWARDS ARROW",
    "0LEFTWARDS ARROW OVER RIGHTWARDS ARROW/1PAIRED ARROWS/0UPWARDS PAIRED ARROWS",
    "0RIGHTWARDS PAIRED ARROWS/0DOWNWARDS PAIRED ARROWS",
    "0LEFTWARDS HARPOON OVER RIGHTWARDS HARPOON/0RIGHTWARDS HARPOON OVER LEFTWARDS HARPOON",
    "0LEFTWARDS DOUBLE ARROW WITH STROKE/0LEFT RIGHT DOUBLE ARROW WITH STROKE",
    "0RIGHTWARDS DOUBLE ARROW WITH STROKE/0LEFTWARDS DOUBLE ARROW/0UPWARDS DOUBLE ARROW",
    "0RIGHTWARDS DOUBLE ARROW/0DOWNWARDS DOUBLE ARROW/0LEFT RIGHT DOUBLE ARROW",
    "0UP DOWN DOUBLE ARROW/0NORTH WEST DOUBLE ARROW/1EAST DOUBLE ARROW/0SOUTH EAST DOUBLE ARROW",
    "1WEST DOUBLE ARROW/0LEFTWARDS TRIPLE ARROW/0RIGHTWARDS TRIPLE ARROW",
    "0LEFTWARDS SQUIGGLE ARROW/0RIGHTWARDS SQUIGGLE ARROW/0UPWARDS ARROW WITH DOUBLE STROKE",
    "0DOWNWARDS ARROW WITH DOUBLE STROKE/0LEFTWARDS DASHED ARROW/0UPWARDS DASHED ARROW",
    "0RIGHTWARDS DASHED ARROW/0DOWNWARDS DASHED ARROW/0LEFTWARDS ARROW TO BAR",
    "0RIGHTWARDS ARROW TO BAR/0LEFTWARDS WHITE ARROW/0UPWARDS WHITE ARROW/0RIGHTWARDS WHITE ARROW",
    "0DOWNWARDS WHITE ARROW/0UPWARDS WHITE ARROW FROM BAR/3ON PEDESTAL/5WITH HORIZONTAL BAR",
    "6VERTICAL BAR/2DOUBLE ARROW/4ON PEDESTAL/0RIGHTWARDS WHITE ARROW FROM WALL",
    "0NORTH WEST ARROW TO CORNER/0SOUTH EAST ARROW TO CORNER/0UP DOWN WHITE ARROW",
    "0RIGHT ARROW WITH SMALL CIRCLE/0DOWNWARDS ARROW LEFTWARDS OF UPWARDS ARROW",
    "0THREE RIGHTWARDS ARROWS/0LEFTWARDS ARROW WITH VERTICAL STROKE",
    "0RIGHTWARDS ARROW WITH VERTICAL STROKE/0LEFT RIGHT ARROW WITH VERTICAL STROKE",
    "0LEFTWARDS ARROW WITH DOUBLE VERTICAL STROKE/0RIGHTWARDS ARROW WITH DOUBLE VERTICAL STROKE",
    "0LEFT RIGHT ARROW WITH DOUBLE VERTICAL STROKE/0LEFTWARDS OPEN-HEADED ARROW",
    "0RIGHTWARDS OPEN-HEADED ARROW/0LEFT RIGHT OPEN-HEADED ARROW/0FOR ALL/0COMPLEMENT",
    "0PARTIAL DIFFERENTIAL/0THERE EXISTS/1DOES NOT EXIST/0EMPTY SET/0INCREMENT/0NABLA/0ELEMENT OF",
    "0NOT AN ELEMENT OF/0SMALL ELEMENT OF/0CONTAINS AS MEMBER/0DOES NOT CONTAIN AS MEMBER",
    "0SMALL CONTAINS AS MEMBER/0END OF PROOF/0N-ARY PRODUCT/1COPRODUCT/1SUMMATION/0MINUS SIGN",
    "0MINUS-OR-PLUS SIGN/0DOT PLUS/0DIVISION SLASH/0SET MINUS/0ASTERISK OPERATOR/0RING OPERATOR",
    "0BULLET OPERATOR/0SQUARE ROOT/0CUBE ROOT/0FOURTH ROOT/0PROPORTIONAL TO/0INFINITY",
    "0RIGHT ANGLE/0ANGLE/0MEASURED ANGLE/0SPHERICAL ANGLE/0DIVIDES/0DOES NOT DIVIDE/0PARALLEL TO",
    "0NOT PARALLEL TO/0LOGICAL AND/1OR/0INTERSECTION/0UNION/0INTEGRAL/0DOUBLE INTEGRAL",
    "0TRIPLE INTEGRAL/0CONTOUR INTEGRAL/0SURFACE INTEGRAL/0VOLUME INTEGRAL/0CLOCKWISE INTEGRAL",
    "1CONTOUR INTEGRAL/0ANTICLOCKWISE CONTOUR INTEGRAL/0THEREFORE/0BECAUSE/0RATIO/0PROPORTION",
    "0DOT MINUS/0EXCESS/0GEOMETRIC PROPORTION/0HOMOTHETIC/0TILDE OPERATOR/0REVERSED TILDE",
    "0INVERTED LAZY S/0SINE WAVE/0WREATH PRODUCT/0NOT TILDE/0MINUS TILDE/0ASYMPTOTICALLY EQUAL TO",
    "0NOT ASYMPTOTICALLY EQUAL TO/0APPROXIMATELY EQUAL TO/1BUT NOT ACTUALLY EQUAL TO",
    "0NEITHER APPROXIMATELY NOR ACTUALLY EQUAL TO/0ALMOST EQUAL TO/0NOT ALMOST EQUAL TO",
    "0ALMOST EQUAL OR EQUAL TO/0TRIPLE TILDE/0ALL EQUAL TO/0EQUIVALENT TO",
    "0GEOMETRICALLY EQUIVALENT TO/0DIFFERENCE BETWEEN/0APPROACHES THE LIMIT",
    "0GEOMETRICALLY EQUAL TO/0APPROXIMATELY EQUAL TO OR THE IMAGE OF",
    "0IMAGE OF OR APPROXIMATELY EQUAL TO/0COLON EQUALS/0EQUALS COLON/0RING IN EQUAL TO/1EQUAL TO",
    "0CORRESPONDS TO/0ESTIMATES/0EQUIANGULAR TO/0STAR EQUALS/0DELTA EQUAL TO",
    "0EQUAL TO BY DEFINITION/0MEASURED BY/0QUESTIONED EQUAL TO/0NOT EQUAL TO/0IDENTICAL TO",
    "0NOT IDENTICAL TO/0STRICTLY EQUIVALENT TO/0LESS-THAN OR EQUAL TO/0GREATER-THAN OR EQUAL TO",
    "0LESS-THAN OVER EQUAL TO/0GREATER-THAN OVER EQUAL TO/0LESS-THAN BUT NOT EQUAL TO",
    "0GREATER-THAN BUT NOT EQUAL TO/0MUCH LESS-THAN/1GREATER-THAN/0BETWEEN/0NOT EQUIVALENT TO",
    "1LESS-THAN/1GREATER-THAN/0NEITHER LESS-THAN NOR EQUAL TO/1GREATER-THAN NOR EQUAL TO",
    "0LESS-THAN OR EQUIVALENT TO/0GREATER-THAN OR EQUIVALENT TO",
    "0NEITHER LESS-THAN NOR EQUIVALENT TO/1GREATER-THAN NOR EQUIVALENT TO",
    "0LESS-THAN OR GREATER-THAN/0GREATER-THAN OR LESS-THAN/0NEITHER LESS-THAN NOR GREATER-THAN",
    "1GREATER-THAN NOR LESS-THAN/0PRECEDES/0SUCCEEDS/0PRECEDES OR EQUAL TO/0SUCCEEDS OR EQUAL TO",
    "0PRECEDES OR EQUIVALENT TO/0SUCCEEDS OR EQUIVALENT TO/0DOES NOT PRECEDE/2SUCCEED/0SUBSET OF",
    "0SUPERSET OF/0NOT A SUBSET OF/2SUPERSET OF/0SUBSET OF OR EQUAL TO/0SUPERSET OF OR EQUAL TO",
    "0NEITHER A SUBSET OF NOR EQUAL TO/2SUPERSET OF NOR EQUAL TO/0SUBSET OF WITH NOT EQUAL TO",
    "0SUPERSET OF WITH NOT EQUAL TO/0MULTISET/1MULTIPLICATION/1UNION/0SQUARE IMAGE OF",
    "1ORIGINAL OF/1IMAGE OF OR EQUAL TO/1ORIGINAL OF OR EQUAL TO/1CAP/1CUP/0CIRCLED PLUS/1MINUS",
    "1TIMES/1DIVISION SLASH/1DOT OPERATOR/1RING OPERATOR/1ASTERISK OPERATOR/1EQUALS/1DASH",
    "0SQUARED PLUS/1MINUS/1TIMES/1DOT OPERATOR/0RIGHT TACK/0LEFT TACK/0DOWN TACK/0UP TACK",
    "0ASSERTION/0MODELS/0TRUE/0FORCES/0TRIPLE VERTICAL BAR RIGHT TURNSTILE",
    "0DOUBLE VERTICAL BAR DOUBLE RIGHT TURNSTILE/0DOES NOT PROVE/0NOT TRUE/0DOES NOT FORCE",
    "0NEGATED DOUBLE VERTICAL BAR DOUBLE RIGHT TURNSTILE/0PRECEDES UNDER RELATION",
    "0SUCCEEDS UNDER RELATION/0NORMAL SUBGROUP OF/0CONTAINS AS NORMAL SUBGROUP",
    "0NORMAL SUBGROUP OF OR EQUAL TO/0CONTAINS AS NORMAL SUBGROUP OR EQUAL TO/0ORIGINAL OF",
    "0IMAGE OF/0MULTIMAP/0HERMITIAN CONJUGATE MATRIX/0INTERCALATE/0XOR/0NAND/0NOR",
    "0RIGHT ANGLE WITH ARC/1TRIANGLE/0N-ARY LOGICAL AND/2OR/1INTERSECTION/1UNION",
    "0DIAMOND OPERATOR/0DOT OPERATOR/0STAR OPERATOR/0DIVISION TIMES/0BOWTIE",
    "0LEFT NORMAL FACTOR SEMIDIRECT PRODUCT/0RIGHT NORMAL FACTOR SEMIDIRECT PRODUCT",
    "0LEFT SEMIDIRECT PRODUCT/0RIGHT SEMIDIRECT PRODUCT/0REVERSED TILDE EQUALS/0CURLY LOGICAL OR",
    "2AND/0DOUBLE SUBSET/1SUPERSET/1INTERSECTION/1UNION/0PITCHFORK/0EQUAL AND PARALLEL TO",
    "0LESS-THAN WITH DOT/0GREATER-THAN WITH DOT/0VERY MUCH LESS-THAN/2GREATER-THAN",
    "0LESS-THAN EQUAL TO OR GREATER-THAN/0GREATER-THAN EQUAL TO OR LESS-THAN",
    "0EQUAL TO OR LESS-THAN/3GREATER-THAN/3PRECEDES/3SUCCEEDS/0DOES NOT PRECEDE OR EQUAL",
    "2SUCCEED OR EQUAL/0NOT SQUARE IMAGE OF OR EQUAL TO/2ORIGINAL OF OR EQUAL TO",
    "0SQUARE IMAGE OF OR NOT EQUAL TO/1ORIGINAL OF OR NOT EQUAL TO",
    "0LESS-THAN BUT NOT EQUIVALENT TO/0GREATER-THAN BUT NOT EQUIVALENT TO",
    "0PRECEDES BUT NOT EQUIVALENT TO/0SUCCEEDS BUT NOT EQUIVALENT TO/0NOT NORMAL SUBGROUP OF",
    "0DOES NOT CONTAIN AS NORMAL SUBGROUP/0NOT NORMAL SUBGROUP OF OR EQUAL TO",
    "0DOES NOT CONTAIN AS NORMAL SUBGROUP OR EQUAL/0VERTICAL ELLIPSIS",
    "0MIDLINE HORIZONTAL ELLIPSIS/0UP RIGHT DIAGONAL ELLIPSIS/0DOWN RIGHT DIAGONAL ELLIPSIS",
    "0ELEMENT OF WITH LONG HORIZONTAL STROKE/3VERTICAL BAR AT END OF HORIZONTAL STROKE",
    "0SMALL ELEMENT OF WITH VERTICAL BAR AT END OF HORIZONTAL STROKE/0ELEMENT OF WITH DOT ABOVE",
    "3OVERBAR/0SMALL ELEMENT OF WITH OVERBAR/0ELEMENT OF WITH UNDERBAR/3TWO HORIZONTAL STROKES",
    "0CONTAINS WITH LONG HORIZONTAL STROKE/2VERTICAL BAR AT END OF HORIZONTAL STROKE",
    "0SMALL CONTAINS WITH VERTICAL BAR AT END OF HORIZONTAL STROKE/0CONTAINS WITH OVERBAR",
    "0SMALL CONTAINS WITH OVERBAR/0Z NOTATION BAG MEMBERSHIP/0DIAMETER SIGN/0ELECTRIC ARROW",
    "0HOUSE/0UP ARROWHEAD/0DOWN ARROWHEAD/0PROJECTIVE/0PERSPECTIVE/0WAVY LINE/0LEFT CEILING",
    "0RIGHT CEILING/0LEFT FLOOR/0RIGHT FLOOR/0BOTTOM RIGHT CROP/1LEFT CROP/0TOP RIGHT CROP",
    "1LEFT CROP/0REVERSED NOT SIGN/0SQUARE LOZENGE/0ARC/0SEGMENT/0SECTOR/0TELEPHONE RECORDER",
    "0POSITION INDICATOR/0VIEWDATA SQUARE/0PLACE OF INTEREST SIGN/0TURNED NOT SIGN/0WATCH",
    "0HOURGLASS/0TOP LEFT CORNER/1RIGHT CORNER/0BOTTOM LEFT CORNER/1RIGHT CORNER",
    "0TOP HALF INTEGRAL/0BOTTOM HALF INTEGRAL/0FROWN/0SMILE",
    "0UP ARROWHEAD BETWEEN TWO HORIZONTAL BARS/0OPTION KEY/0ERASE TO THE RIGHT",
    "0X IN A RECTANGLE BOX/0KEYBOARD/0LEFT-POINTING ANGLE BRACKET/0RIGHT-POINTING ANGLE BRACKET",
    "0ERASE TO THE LEFT/0BENZENE RING/0CYLINDRICITY/0ALL AROUND-PROFILE/0SYMMETRY/0TOTAL RUNOUT",
    "0DIMENSION ORIGIN/0CONICAL TAPER/0SLOPE/0COUNTERBORE/0COUNTERSINK",
    "0APL FUNCTIONAL SYMBOL I-BEAM/3SQUISH QUAD/3QUAD EQUAL/4DIVIDE/4DIAMOND/4JOT/4CIRCLE",
    "3CIRCLE STILE/4JOT/3SLASH BAR/3BACKSLASH BAR/3QUAD SLASH/4BACKSLASH/4LESS-THAN/4GREATER-THAN",
    "3LEFTWARDS VANE/3RIGHTWARDS VANE/3QUAD LEFTWARDS ARROW/4RIGHTWARDS ARROW/3CIRCLE BACKSLASH",
    "3DOWN TACK UNDERBAR/3DELTA STILE/3QUAD DOWN CARET/4DELTA/3DOWN TACK JOT/3UPWARDS VANE",
    "3QUAD UPWARDS ARROW/3UP TACK OVERBAR/3DEL STILE/3QUAD UP CARET/4DEL/3UP TACK JOT",
    "3DOWNWARDS VANE/3QUAD DOWNWARDS ARROW/3QUOTE UNDERBAR/3DELTA UNDERBAR/3DIAMOND UNDERBAR",
    "3JOT UNDERBAR/3CIRCLE UNDERBAR/3UP SHOE JOT/3QUOTE QUAD/3CIRCLE STAR/3QUAD COLON",
    "3UP TACK DIAERESIS/3DEL DIAERESIS/3STAR DIAERESIS/3JOT DIAERESIS/3CIRCLE DIAERESIS",
    "3DOWN SHOE STILE/3LEFT SHOE STILE/3TILDE DIAERESIS/3GREATER-THAN DIAERESIS/3COMMA BAR",
    "3DEL TILDE/3ZILDE/3STILE TILDE/3SEMICOLON UNDERBAR/3QUAD NOT EQUAL/4QUESTION",
    "3DOWN CARET TILDE/3UP CARET TILDE/3IOTA/3RHO/3OMEGA/3ALPHA UNDERBAR/3EPSILON UNDERBAR",
    "3IOTA UNDERBAR/3OMEGA UNDERBAR/3ALPHA/0NOT CHECK MARK",
    "0RIGHT ANGLE WITH DOWNWARDS ZIGZAG ARROW/0SHOULDERED OPEN BOX/0BELL SYMBOL",
    "0VERTICAL LINE WITH MIDDLE DOT/0INSERTION SYMBOL/0CONTINUOUS UNDERLINE SYMBOL",
    "0DISCONTINUOUS UNDERLINE SYMBOL/0EMPHASIS SYMBOL/0COMPOSITION SYMBOL",
    "0WHITE SQUARE WITH CENTRE VERTICAL LINE/0ENTER SYMBOL/0ALTERNATIVE KEY SYMBOL/0HELM SYMBOL",
    "0CIRCLED HORIZONTAL BAR WITH NOTCH/1TRIANGLE DOWN/0BROKEN CIRCLE WITH NORTHWEST ARROW",
    "0UNDO SYMBOL/0MONOSTABLE SYMBOL/0HYSTERESIS SYMBOL/0OPEN-CIRCUIT-OUTPUT H-TYPE SYMBOL",
    "1L-TYPE SYMBOL/0PASSIVE-PULL-DOWN-OUTPUT SYMBOL/0PASSIVE-PULL-UP-OUTPUT SYMBOL",
    "0DIRECT CURRENT SYMBOL FORM TWO/0SOFTWARE-FUNCTION SYMBOL/0APL FUNCTIONAL SYMBOL QUAD",
    "0DECIMAL SEPARATOR KEY SYMBOL/0PREVIOUS PAGE/0NEXT PAGE/0PRINT SCREEN SYMBOL",
    "0CLEAR SCREEN SYMBOL/0LEFT PARENTHESIS UPPER HOOK/2EXTENSION/2LOWER HOOK",
    "0RIGHT PARENTHESIS UPPER HOOK/2EXTENSION/2LOWER HOOK/0LEFT SQUARE BRACKET UPPER CORNER",
    "3EXTENSION/3LOWER CORNER/0RIGHT SQUARE BRACKET UPPER CORNER/3EXTENSION/3LOWER CORNER",
    "0LEFT CURLY BRACKET UPPER HOOK/3MIDDLE PIECE/3LOWER HOOK/0CURLY BRACKET EXTENSION",
    "0RIGHT CURLY BRACKET UPPER HOOK/3MIDDLE PIECE/3LOWER HOOK/0INTEGRAL EXTENSION",
    "0HORIZONTAL LINE EXTENSION/0UPPER LEFT OR LOWER RIGHT CURLY BRACKET SECTION",
    "1RIGHT OR LOWER LEFT CURLY BRACKET SECTION/0SUMMATION TOP/1BOTTOM/0TOP SQUARE BRACKET",
    "0BOTTOM SQUARE BRACKET/3OVER TOP SQUARE BRACKET/0RADICAL SYMBOL BOTTOM",
    "0LEFT VERTICAL BOX LINE/0RIGHT VERTICAL BOX LINE/0HORIZONTAL SCAN LINE-1/2LINE-3/2LINE-7",
    "2LINE-9/0DENTISTRY SYMBOL LIGHT VERTICAL AND TOP RIGHT/5BOTTOM RIGHT/4WITH CIRCLE",
    "3DOWN AND HORIZONTAL WITH CIRCLE/3UP AND HORIZONTAL WITH CIRCLE/3VERTICAL WITH TRIANGLE",
    "3DOWN AND HORIZONTAL WITH TRIANGLE/3UP AND HORIZONTAL WITH TRIANGLE/3VERTICAL AND WAVE",
    "3DOWN AND HORIZONTAL WITH WAVE/3UP AND HORIZONTAL WITH WAVE/3DOWN AND HORIZONTAL",
    "3UP AND HORIZONTAL/3VERTICAL AND TOP LEFT/5BOTTOM LEFT/0SQUARE FOOT/0RETURN SYMBOL",
    "0EJECT SYMBOL/0VERTICAL LINE EXTENSION/0METRICAL BREVE/1LONG OVER SHORT/1SHORT OVER LONG",
    "1LONG OVER TWO SHORTS/1TWO SHORTS OVER LONG/3JOINED/1TRISEME/1TETRASEME/1PENTASEME",
    "0EARTH GROUND/0FUSE/0TOP PARENTHESIS/0BOTTOM PARENTHESIS/0TOP CURLY BRACKET",
    "0BOTTOM CURLY BRACKET/0TOP TORTOISE SHELL BRACKET/0BOTTOM TORTOISE SHELL BRACKET",
    "0WHITE TRAPEZIUM/0BENZENE RING WITH CIRCLE/0STRAIGHTNESS/0FLATNESS/0AC CURRENT",
    "0ELECTRICAL INTERSECTION/0DECIMAL EXPONENT SYMBOL/0BLACK RIGHT-POINTING DOUBLE TRIANGLE",
    "1LEFT-POINTING DOUBLE TRIANGLE/1UP-POINTING DOUBLE TRIANGLE/1DOWN-POINTING DOUBLE TRIANGLE",
    "1RIGHT-POINTING DOUBLE TRIANGLE WITH VERTICAL BAR",
    "1LEFT-POINTING DOUBLE TRIANGLE WITH VERTICAL BAR",
    "1RIGHT-POINTING TRIANGLE WITH DOUBLE VERTICAL BAR/0ALARM CLOCK/0STOPWATCH/0TIMER CLOCK",
    "0HOURGLASS WITH FLOWING SAND/0BLACK MEDIUM LEFT-POINTING TRIANGLE/2RIGHT-POINTING TRIANGLE",
    "2UP-POINTING TRIANGLE/2DOWN-POINTING TRIANGLE/0DOUBLE VERTICAL BAR/0BLACK SQUARE FOR STOP",
    "1CIRCLE FOR RECORD/0POWER SYMBOL/1ON-OFF SYMBOL/1ON SYMBOL/1SLEEP SYMBOL",
    "0OBSERVER EYE SYMBOL/0SYMBOL FOR NULL/2START OF HEADING/4TEXT/2END OF TEXT/4TRANSMISSION",
    "2ENQUIRY/2ACKNOWLEDGE/2BELL/2BACKSPACE/2HORIZONTAL TABULATION/2LINE FEED",
    "2VERTICAL TABULATION/2FORM FEED/2CARRIAGE RETURN/2SHIFT OUT/3IN/2DATA LINK ESCAPE",
    "2DEVICE CONTROL ONE/4TWO/4THREE/4FOUR/2NEGATIVE ACKNOWLEDGE/2SYNCHRONOUS IDLE",
    "2END OF TRANSMISSION BLOCK/2CANCEL/2END OF MEDIUM/2SUBSTITUTE/2ESCAPE/2FILE SEPARATOR",
    "2GROUP SEPARATOR/2RECORD SEPARATOR/2UNIT SEPARATOR/2SPACE/2DELETE/0BLANK SYMBOL/0OPEN BOX",
    "0SYMBOL FOR NEWLINE/2DELETE FORM TWO/2SUBSTITUTE FORM TWO/#2440/0OCR HOOK/1CHAIR/1FORK",
    "1INVERTED FORK/1BELT BUCKLE/1BOW TIE/1BRANCH BANK IDENTIFICATION/1AMOUNT OF CHECK/1DASH",
    "1CUSTOMER ACCOUNT NUMBER/1DOUBLE BACKSLASH/#2460/0CIRCLED DIGIT ONE/2TWO/2THREE/2FOUR/2FIVE",
    "2SIX/2SEVEN/2EIGHT/2NINE/1NUMBER TEN/2ELEVEN/2TWELVE/2THIRTEEN/2FOURTEEN/2FIFTEEN/2SIXTEEN",
    "2SEVENTEEN/2EIGHTEEN/2NINETEEN/2TWENTY/0PARENTHESIZED DIGIT ONE/2TWO/2THREE/2FOUR/2FIVE/2SIX",
    "2SEVEN/2EIGHT/2NINE/1NUMBER TEN/2ELEVEN/2TWELVE/2THIRTEEN/2FOURTEEN/2FIFTEEN/2SIXTEEN",
    "2SEVENTEEN/2EIGHTEEN/2NINETEEN/2TWENTY/0DIGIT ONE FULL STOP/1TWO FULL STOP/1THREE FULL STOP",
    "1FOUR FULL STOP/1FIVE FULL STOP/1SIX FULL STOP/1SEVEN FULL STOP/1EIGHT FULL STOP",
    "1NINE FULL STOP/0NUMBER TEN FULL STOP/1ELEVEN FULL STOP/1TWELVE FULL STOP",
    "1THIRTEEN FULL STOP/1FOURTEEN FULL STOP/1FIFTEEN FULL STOP/1SIXTEEN FULL STOP",
    "1SEVENTEEN FULL STOP/1EIGHTEEN FULL STOP/1NINETEEN FULL STOP/1TWENTY FULL STOP",
    "0PARENTHESIZED LATIN SMALL LETTER A/4B/4C/4D/4E/4F/4G/4H/4I/4J/4K/4L/4M/4N/4O/4P/4Q/4R/4S/4T",
    "4U/4V/4W/4X/4Y/4Z/0CIRCLED LATIN CAPITAL LETTER A/4B/4C/4D/4E/4F/4G/4H/4I/4J/4K/4L/4M/4N/4O",
    "4P/4Q/4R/4S/4T/4U/4V/4W/4X/4Y/4Z/2SMALL LETTER A/4B/4C/4D/4E/4F/4G/4H/4I/4J/4K/4L/4M/4N/4O",
    "4P/4Q/4R/4S/4T/4U/4V/4W/4X/4Y/4Z/1DIGIT ZERO/0NEGATIVE CIRCLED NUMBER ELEVEN/3TWELVE",
    "3THIRTEEN/3FOURTEEN/3FIFTEEN/3SIXTEEN/3SEVENTEEN/3EIGHTEEN/3NINETEEN/3TWENTY",
    "0DOUBLE CIRCLED DIGIT ONE/3TWO/3THREE/3FOUR/3FIVE/3SIX/3SEVEN/3EIGHT/3NINE/2NUMBER TEN",
    "0NEGATIVE CIRCLED DIGIT ZERO/0BOX DRAWINGS LIGHT HORIZONTAL/2HEAVY HORIZONTAL",
    "2LIGHT VERTICAL/2HEAVY VERTICAL/2LIGHT TRIPLE DASH HORIZONTAL/2HEAVY TRIPLE DASH HORIZONTAL",
    "2LIGHT TRIPLE DASH VERTICAL/2HEAVY TRIPLE DASH VERTICAL/2LIGHT QUADRUPLE DASH HORIZONTAL",
    "2HEAVY QUADRUPLE DASH HORIZONTAL/2LIGHT QUADRUPLE DASH VERTICAL",
    "2HEAVY QUADRUPLE DASH VERTICAL/2LIGHT DOWN AND RIGHT/2DOWN LIGHT AND RIGHT HEAVY",
    "3HEAVY AND RIGHT LIGHT/2HEAVY DOWN AND RIGHT/2LIGHT DOWN AND LEFT/2DOWN LIGHT AND LEFT HEAVY",
    "3HEAVY AND LEFT LIGHT/2HEAVY DOWN AND LEFT/2LIGHT UP AND RIGHT/2UP LIGHT AND RIGHT HEAVY",
    "3HEAVY AND RIGHT LIGHT/2HEAVY UP AND RIGHT/2LIGHT UP AND LEFT/2UP LIGHT AND LEFT HEAVY",
    "3HEAVY AND LEFT LIGHT/2HEAVY UP AND LEFT/2LIGHT VERTICAL AND RIGHT",
    "2VERTICAL LIGHT AND RIGHT HEAVY/2UP HEAVY AND RIGHT DOWN LIGHT",
    "2DOWN HEAVY AND RIGHT UP LIGHT/2VERTICAL HEAVY AND RIGHT LIGHT",
    "2DOWN LIGHT AND RIGHT UP HEAVY/2UP LIGHT AND RIGHT DOWN HEAVY/2HEAVY VERTICAL AND RIGHT",
    "2LIGHT VERTICAL AND LEFT/2VERTICAL LIGHT AND LEFT HEAVY/2UP HEAVY AND LEFT DOWN LIGHT",
    "2DOWN HEAVY AND LEFT UP LIGHT/2VERTICAL HEAVY AND LEFT LIGHT/2DOWN LIGHT AND LEFT UP HEAVY",
    "2UP LIGHT AND LEFT DOWN HEAVY/2HEAVY VERTICAL AND LEFT/2LIGHT DOWN AND HORIZONTAL",
    "2LEFT HEAVY AND RIGHT DOWN LIGHT/2RIGHT HEAVY AND LEFT DOWN LIGHT",
    "2DOWN LIGHT AND HORIZONTAL HEAVY/3HEAVY AND HORIZONTAL LIGHT",
    "2RIGHT LIGHT AND LEFT DOWN HEAVY/2LEFT LIGHT AND RIGHT DOWN HEAVY/2HEAVY DOWN AND HORIZONTAL",
    "2LIGHT UP AND HORIZONTAL/2LEFT HEAVY AND RIGHT UP LIGHT/2RIGHT HEAVY AND LEFT UP LIGHT",
    "2UP LIGHT AND HORIZONTAL HEAVY/3HEAVY AND HORIZONTAL LIGHT/2RIGHT LIGHT AND LEFT UP HEAVY",
    "2LEFT LIGHT AND RIGHT UP HEAVY/2HEAVY UP AND HORIZONTAL/2LIGHT VERTICAL AND HORIZONTAL",
    "2LEFT HEAVY AND RIGHT VERTICAL LIGHT/2RIGHT HEAVY AND LEFT VERTICAL LIGHT",
    "2VERTICAL LIGHT AND HORIZONTAL HEAVY/2UP HEAVY AND DOWN HORIZONTAL LIGHT",
    "2DOWN HEAVY AND UP HORIZONTAL LIGHT/2VERTICAL HEAVY AND HORIZONTAL LIGHT",
    "2LEFT UP HEAVY AND RIGHT DOWN LIGHT/2RIGHT UP HEAVY AND LEFT DOWN LIGHT",
    "2LEFT DOWN HEAVY AND RIGHT UP LIGHT/2RIGHT DOWN HEAVY AND LEFT UP LIGHT",
    "2DOWN LIGHT AND UP HORIZONTAL HEAVY/2UP LIGHT AND DOWN HORIZONTAL HEAVY",
    "2RIGHT LIGHT AND LEFT VERTICAL HEAVY/2LEFT LIGHT AND RIGHT VERTICAL HEAVY",
    "2HEAVY VERTICAL AND HORIZONTAL/2LIGHT DOUBLE DASH HORIZONTAL/2HEAVY DOUBLE DASH HORIZONTAL",
    "2LIGHT DOUBLE DASH VERTICAL/2HEAVY DOUBLE DASH VERTICAL/2DOUBLE HORIZONTAL/3VERTICAL",
    "2DOWN SINGLE AND RIGHT DOUBLE/3DOUBLE AND RIGHT SINGLE/2DOUBLE DOWN AND RIGHT",
    "2DOWN SINGLE AND LEFT DOUBLE/3DOUBLE AND LEFT SINGLE/2DOUBLE DOWN AND LEFT",
    "2UP SINGLE AND RIGHT DOUBLE/3DOUBLE AND RIGHT SINGLE/2DOUBLE UP AND RIGHT",
    "2UP SINGLE AND LEFT DOUBLE/3DOUBLE AND LEFT SINGLE/2DOUBLE UP AND LEFT",
    "2VERTICAL SINGLE AND RIGHT DOUBLE/3DOUBLE AND RIGHT SINGLE/2DOUBLE VERTICAL AND RIGHT",
    "2VERTICAL SINGLE AND LEFT DOUBLE/3DOUBLE AND LEFT SINGLE/2DOUBLE VERTICAL AND LEFT",
    "2DOWN SINGLE AND HORIZONTAL DOUBLE/3DOUBLE AND HORIZONTAL SINGLE/2DOUBLE DOWN AND HORIZONTAL",
    "2UP SINGLE AND HORIZONTAL DOUBLE/3DOUBLE AND HORIZONTAL SINGLE/2DOUBLE UP AND HORIZONTAL",
    "2VERTICAL SINGLE AND HORIZONTAL DOUBLE/3DOUBLE AND HORIZONTAL SINGLE",
    "2DOUBLE VERTICAL AND HORIZONTAL/2LIGHT ARC DOWN AND RIGHT/6LEFT/4UP AND LEFT/6RIGHT",
    "3DIAGONAL UPPER RIGHT TO LOWER LEFT/5LEFT TO LOWER RIGHT/4CROSS/3LEFT/3UP/3RIGHT/3DOWN",
    "2HEAVY LEFT/3UP/3RIGHT/3DOWN/2LIGHT LEFT AND HEAVY RIGHT/3UP AND HEAVY DOWN",
    "2HEAVY LEFT AND LIGHT RIGHT/3UP AND LIGHT DOWN/0UPPER HALF BLOCK/0LOWER ONE EIGHTH BLOCK",
    "2QUARTER BLOCK/1THREE EIGHTHS BLOCK/1HALF BLOCK/1FIVE EIGHTHS BLOCK/1THREE QUARTERS BLOCK",
    "1SEVEN EIGHTHS BLOCK/0FULL BLOCK/0LEFT SEVEN EIGHTHS BLOCK/1THREE QUARTERS BLOCK",
    "1FIVE EIGHTHS BLOCK/1HALF BLOCK/1THREE EIGHTHS BLOCK/1ONE QUARTER BLOCK/2EIGHTH BLOCK",
    "0RIGHT HALF BLOCK/0LIGHT SHADE/0MEDIUM SHADE/0DARK SHADE/0UPPER ONE EIGHTH BLOCK",
    "0RIGHT ONE EIGHTH BLOCK/0QUADRANT LOWER LEFT/2RIGHT/1UPPER LEFT",
    "3AND LOWER LEFT AND LOWER RIGHT/5RIGHT/4UPPER RIGHT AND LOWER LEFT/8RIGHT/2RIGHT",
    "3AND LOWER LEFT/6AND LOWER RIGHT/0BLACK SQUARE/0WHITE SQUARE/2WITH ROUNDED CORNERS",
    "2CONTAINING BLACK SMALL SQUARE/0SQUARE WITH HORIZONTAL FILL/2VERTICAL FILL",
    "2ORTHOGONAL CROSSHATCH FILL/2UPPER LEFT TO LOWER RIGHT FILL/3RIGHT TO LOWER LEFT FILL",
    "2DIAGONAL CROSSHATCH FILL/0BLACK SMALL SQUARE/0WHITE SMALL SQUARE/0BLACK RECTANGLE",
    "0WHITE RECTANGLE/0BLACK VERTICAL RECTANGLE/0WHITE VERTICAL RECTANGLE/0BLACK PARALLELOGRAM",
    "0WHITE PARALLELOGRAM/0BLACK UP-POINTING TRIANGLE/0WHITE UP-POINTING TRIANGLE",
    "0BLACK UP-POINTING SMALL TRIANGLE/0WHITE UP-POINTING SMALL TRIANGLE",
    "0BLACK RIGHT-POINTING TRIANGLE/0WHITE RIGHT-POINTING TRIANGLE",
    "0BLACK RIGHT-POINTING SMALL TRIANGLE/0WHITE RIGHT-POINTING SMALL TRIANGLE",
    "0BLACK RIGHT-POINTING POINTER/0WHITE RIGHT-POINTING POINTER/0BLACK DOWN-POINTING TRIANGLE",
    "0WHITE DOWN-POINTING TRIANGLE/0BLACK DOWN-POINTING SMALL TRIANGLE",
    "0WHITE DOWN-POINTING SMALL TRIANGLE/0BLACK LEFT-POINTING TRIANGLE",
    "0WHITE LEFT-POINTING TRIANGLE/0BLACK LEFT-POINTING SMALL TRIANGLE",
    "0WHITE LEFT-POINTING SMALL TRIANGLE/0BLACK LEFT-POINTING POINTER",
    "0WHITE LEFT-POINTING POINTER/0BLACK DIAMOND/0WHITE DIAMOND/2CONTAINING BLACK SMALL DIAMOND",
    "0FISHEYE/0LOZENGE/0WHITE CIRCLE/0DOTTED CIRCLE/0CIRCLE WITH VERTICAL FILL/0BULLSEYE",
    "0BLACK CIRCLE/0CIRCLE WITH LEFT HALF BLACK/2RIGHT HALF BLACK/2LOWER HALF BLACK",
    "2UPPER HALF BLACK/3RIGHT QUADRANT BLACK/2ALL BUT UPPER LEFT QUADRANT BLACK",
    "0LEFT HALF BLACK CIRCLE/0RIGHT HALF BLACK CIRCLE/0INVERSE BULLET/1WHITE CIRCLE",
    "0UPPER HALF INVERSE WHITE CIRCLE/0LOWER HALF INVERSE WHITE CIRCLE",
    "0UPPER LEFT QUADRANT CIRCULAR ARC/1RIGHT QUADRANT CIRCULAR ARC",
    "0LOWER RIGHT QUADRANT CIRCULAR ARC/1LEFT QUADRANT CIRCULAR ARC/0UPPER HALF CIRCLE",
    "0LOWER HALF CIRCLE/0BLACK LOWER RIGHT TRIANGLE/2LEFT TRIANGLE/1UPPER LEFT TRIANGLE",
    "2RIGHT TRIANGLE/0WHITE BULLET/0SQUARE WITH LEFT HALF BLACK/2RIGHT HALF BLACK",
    "2UPPER LEFT DIAGONAL HALF BLACK/2LOWER RIGHT DIAGONAL HALF BLACK",
    "0WHITE SQUARE WITH VERTICAL BISECTING LINE/1UP-POINTING TRIANGLE WITH DOT",
    "0UP-POINTING TRIANGLE WITH LEFT HALF BLACK/3RIGHT HALF BLACK/0LARGE CIRCLE",
    "0WHITE SQUARE WITH UPPER LEFT QUADRANT/3LOWER LEFT QUADRANT/4RIGHT QUADRANT",
    "3UPPER RIGHT QUADRANT/1CIRCLE WITH UPPER LEFT QUADRANT/3LOWER LEFT QUADRANT/4RIGHT QUADRANT",
    "3UPPER RIGHT QUADRANT/0UPPER LEFT TRIANGLE/1RIGHT TRIANGLE/0LOWER LEFT TRIANGLE",
    "0WHITE MEDIUM SQUARE/0BLACK MEDIUM SQUARE/0WHITE MEDIUM SMALL SQUARE",
    "0BLACK MEDIUM SMALL SQUARE/0LOWER RIGHT TRIANGLE/0BLACK SUN WITH RAYS/0CLOUD/0UMBRELLA",
    "0SNOWMAN/0COMET/0BLACK STAR/0WHITE STAR/0LIGHTNING/0THUNDERSTORM/0SUN/0ASCENDING NODE",
    "0DESCENDING NODE/0CONJUNCTION/0OPPOSITION/0BLACK TELEPHONE/0WHITE TELEPHONE/0BALLOT BOX",
    "2WITH CHECK/3X/0SALTIRE/0UMBRELLA WITH RAIN DROPS/0HOT BEVERAGE/0WHITE SHOGI PIECE",
    "0BLACK SHOGI PIECE/0SHAMROCK/0REVERSED ROTATED FLORAL HEART BULLET",
    "0BLACK LEFT POINTING INDEX/1RIGHT POINTING INDEX/0WHITE LEFT POINTING INDEX",
    "1UP POINTING INDEX/1RIGHT POINTING INDEX/1DOWN POINTING INDEX/0SKULL AND CROSSBONES",
    "0CAUTION SIGN/0RADIOACTIVE SIGN/0BIOHAZARD SIGN/0CADUCEUS/0ANKH/0ORTHODOX CROSS/0CHI RHO",
    "0CROSS OF LORRAINE/2JERUSALEM/0STAR AND CRESCENT/0FARSI SYMBOL/0ADI SHAKTI",
    "0HAMMER AND SICKLE/0PEACE SYMBOL/0YIN YANG/0TRIGRAM FOR HEAVEN/2LAKE/2FIRE/2THUNDER/2WIND",
    "2WATER/2MOUNTAIN/2EARTH/0WHEEL OF DHARMA/0WHITE FROWNING FACE/1SMILING FACE",
    "0BLACK SMILING FACE/0WHITE SUN WITH RAYS/0FIRST QUARTER MOON/0LAST QUARTER MOON/0MERCURY",
    "0FEMALE SIGN/0EARTH/0MALE SIGN/0JUPITER/0SATURN/0URANUS/0NEPTUNE/0PLUTO/0ARIES/0TAURUS",
    "0GEMINI/0CANCER/0LEO/0VIRGO/0LIBRA/0SCORPIUS/0SAGITTARIUS/0CAPRICORN/0AQUARIUS/0PISCES",
    "0WHITE CHESS KING/2QUEEN/2ROOK/2BISHOP/2KNIGHT/2PAWN/0BLACK CHESS KING/2QUEEN/2ROOK/2BISHOP",
    "2KNIGHT/2PAWN/1SPADE SUIT/0WHITE HEART SUIT/1DIAMOND SUIT/0BLACK CLUB SUIT/0WHITE SPADE SUIT",
    "0BLACK HEART SUIT/1DIAMOND SUIT/0WHITE CLUB SUIT/0HOT SPRINGS/0QUARTER NOTE/0EIGHTH NOTE",
    "0BEAMED EIGHTH NOTES/1SIXTEENTH NOTES/0MUSIC FLAT SIGN/1NATURAL SIGN/1SHARP SIGN",
    "0WEST SYRIAC CROSS/0EAST SYRIAC CROSS/0UNIVERSAL RECYCLING SYMBOL",
    "0RECYCLING SYMBOL FOR TYPE-1 PLASTICS/3TYPE-2 PLASTICS/3TYPE-3 PLASTICS/3TYPE-4 PLASTICS",
    "3TYPE-5 PLASTICS/3TYPE-6 PLASTICS/3TYPE-7 PLASTICS/3GENERIC MATERIALS",
    "0BLACK UNIVERSAL RECYCLING SYMBOL/0RECYCLED PAPER SYMBOL/0PARTIALLY-RECYCLED PAPER SYMBOL",
    "0PERMANENT PAPER SIGN/0WHEELCHAIR SYMBOL/0DIE FACE-1/1FACE-2/1FACE-3/1FACE-4/1FACE-5/1FACE-6",
    "0WHITE CIRCLE WITH DOT RIGHT/3TWO DOTS/0BLACK CIRCLE WITH WHITE DOT RIGHT/3TWO WHITE DOTS",
    "0MONOGRAM FOR YANG/2YIN/0DIGRAM FOR GREATER YANG/2LESSER YIN/3YANG/2GREATER YIN/0WHITE FLAG",
    "0BLACK FLAG/0HAMMER AND PICK/0ANCHOR/0CROSSED SWORDS/0STAFF OF AESCULAPIUS/0SCALES/0ALEMBIC",
    "0FLOWER/0GEAR/0STAFF OF HERMES/0ATOM SYMBOL/0FLEUR-DE-LIS/0OUTLINED WHITE STAR",
    "0THREE LINES CONVERGING RIGHT/3LEFT/0WARNING SIGN/0HIGH VOLTAGE SIGN/0DOUBLED FEMALE SIGN",
    "1MALE SIGN/0INTERLOCKED FEMALE AND MALE SIGN/0MALE AND FEMALE SIGN/1WITH STROKE SIGN",
    "3AND MALE AND FEMALE SIGN/0VERTICAL MALE WITH STROKE SIGN/0HORIZONTAL MALE WITH STROKE SIGN",
    "0MEDIUM WHITE CIRCLE/1BLACK CIRCLE/1SMALL WHITE CIRCLE/0MARRIAGE SYMBOL/0DIVORCE SYMBOL",
    "0UNMARRIED PARTNERSHIP SYMBOL/0COFFIN/0FUNERAL URN/0NEUTER/0CERES/0PALLAS/0JUNO/0VESTA",
    "0CHIRON/0BLACK MOON LILITH/0SEXTILE/0SEMISEXTILE/0QUINCUNX/0SESQUIQUADRATE/0SOCCER BALL",
    "0BASEBALL/0SQUARED KEY/0WHITE DRAUGHTS MAN/2KING/0BLACK DRAUGHTS MAN/2KING",
    "0SNOWMAN WITHOUT SNOW/0SUN BEHIND CLOUD/0RAIN/0BLACK SNOWMAN/0THUNDER CLOUD AND RAIN",
    "0TURNED WHITE SHOGI PIECE/1BLACK SHOGI PIECE/0WHITE DIAMOND IN SQUARE/0CROSSING LANES",
    "0DISABLED CAR/0OPHIUCHUS/0PICK/0CAR SLIDING/0HELMET WITH WHITE CROSS/0CIRCLED CROSSING LANES",
    "0CHAINS/0NO ENTRY/0ALTERNATE ONE-WAY LEFT WAY TRAFFIC/0BLACK TWO-WAY LEFT WAY TRAFFIC",
    "0WHITE TWO-WAY LEFT WAY TRAFFIC/0BLACK LEFT LANE MERGE/0WHITE LEFT LANE MERGE",
    "0DRIVE SLOW SIGN/0HEAVY WHITE DOWN-POINTING TRIANGLE/0LEFT CLOSED ENTRY/0SQUARED SALTIRE",
    "0FALLING DIAGONAL IN WHITE CIRCLE IN BLACK SQUARE/0BLACK TRUCK/0RESTRICTED LEFT ENTRY-1",
    "2ENTRY-2/0ASTRONOMICAL SYMBOL FOR URANUS/0HEAVY CIRCLE WITH STROKE AND TWO DOTS ABOVE",
    "0PENTAGRAM/0RIGHT-HANDED INTERLACED PENTAGRAM/0LEFT-HANDED INTERLACED PENTAGRAM",
    "0INVERTED PENTAGRAM/0BLACK CROSS ON SHIELD/0SHINTO SHRINE/0CHURCH/0CASTLE/0HISTORIC SITE",
    "0GEAR WITHOUT HUB/1WITH HANDLES/0MAP SYMBOL FOR LIGHTHOUSE/0MOUNTAIN/0UMBRELLA ON GROUND",
    "0FOUNTAIN/0FLAG IN HOLE/0FERRY/0SAILBOAT/0SQUARE FOUR CORNERS/0SKIER/0ICE SKATE",
    "0PERSON WITH BALL/0TENT/0JAPANESE BANK SYMBOL/0HEADSTONE GRAVEYARD SYMBOL/0FUEL PUMP",
    "0CUP ON BLACK SQUARE/0WHITE FLAG WITH HORIZONTAL MIDDLE BLACK STRIPE/0BLACK SAFETY SCISSORS",
    "0UPPER BLADE SCISSORS/0BLACK SCISSORS/0LOWER BLADE SCISSORS/0WHITE SCISSORS",
    "1HEAVY CHECK MARK/0TELEPHONE LOCATION SIGN/0TAPE DRIVE/0AIRPLANE/0ENVELOPE/0RAISED FIST",
    "1HAND/0VICTORY HAND/0WRITING HAND/0LOWER RIGHT PENCIL/0PENCIL/0UPPER RIGHT PENCIL/0WHITE NIB",
    "0BLACK NIB/0CHECK MARK/0HEAVY CHECK MARK/0MULTIPLICATION X/0HEAVY MULTIPLICATION X/0BALLOT X",
    "0HEAVY BALLOT X/0OUTLINED GREEK CROSS/0HEAVY GREEK CROSS/0OPEN CENTRE CROSS",
    "0HEAVY OPEN CENTRE CROSS/0LATIN CROSS/0SHADOWED WHITE LATIN CROSS/0OUTLINED LATIN CROSS",
    "0MALTESE CROSS/0STAR OF DAVID/0FOUR TEARDROP-SPOKED ASTERISK/1BALLOON-SPOKED ASTERISK",
    "0HEAVY FOUR BALLOON-SPOKED ASTERISK/0FOUR CLUB-SPOKED ASTERISK/0BLACK FOUR POINTED STAR",
    "0WHITE FOUR POINTED STAR/0SPARKLES/0STRESS OUTLINED WHITE STAR/0CIRCLED WHITE STAR",
    "0OPEN CENTRE BLACK STAR/0BLACK CENTRE WHITE STAR/0OUTLINED BLACK STAR",
    "0HEAVY OUTLINED BLACK STAR/0PINWHEEL STAR/0SHADOWED WHITE STAR/0HEAVY ASTERISK",
    "0OPEN CENTRE ASTERISK/0EIGHT SPOKED ASTERISK/1POINTED BLACK STAR/2PINWHEEL STAR",
    "0SIX POINTED BLACK STAR/0EIGHT POINTED RECTILINEAR BLACK STAR",
    "0HEAVY EIGHT POINTED RECTILINEAR BLACK STAR/0TWELVE POINTED BLACK STAR",
    "0SIXTEEN POINTED ASTERISK/0TEARDROP-SPOKED ASTERISK/0OPEN CENTRE TEARDROP-SPOKED ASTERISK",
    "0HEAVY TEARDROP-SPOKED ASTERISK/0SIX PETALLED BLACK AND WHITE FLORETTE/0BLACK FLORETTE",
    "0WHITE FLORETTE/0EIGHT PETALLED OUTLINED BLACK FLORETTE",
    "0CIRCLED OPEN CENTRE EIGHT POINTED STAR/0HEAVY TEARDROP-SPOKED PINWHEEL ASTERISK/0SNOWFLAKE",
    "0TIGHT TRIFOLIATE SNOWFLAKE/0HEAVY CHEVRON SNOWFLAKE/0SPARKLE/0HEAVY SPARKLE",
    "0BALLOON-SPOKED ASTERISK/0EIGHT TEARDROP-SPOKED PROPELLER ASTERISK",
    "0HEAVY EIGHT TEARDROP-SPOKED PROPELLER ASTERISK/0CROSS MARK/0SHADOWED WHITE CIRCLE",
    "0NEGATIVE SQUARED CROSS MARK/0LOWER RIGHT DROP-SHADOWED WHITE SQUARE",
    "0UPPER RIGHT DROP-SHADOWED WHITE SQUARE/0LOWER RIGHT SHADOWED WHITE SQUARE",
    "0UPPER RIGHT SHADOWED WHITE SQUARE/0BLACK QUESTION MARK ORNAMENT",
    "0WHITE QUESTION MARK ORNAMENT/1EXCLAMATION MARK ORNAMENT/0BLACK DIAMOND MINUS WHITE X",
    "0HEAVY EXCLAMATION MARK SYMBOL/0LIGHT VERTICAL BAR/0MEDIUM VERTICAL BAR/0HEAVY VERTICAL BAR",
    "1SINGLE TURNED COMMA QUOTATION MARK ORNAMENT/2COMMA QUOTATION MARK ORNAMENT",
    "1DOUBLE TURNED COMMA QUOTATION MARK ORNAMENT/2COMMA QUOTATION MARK ORNAMENT",
    "1LOW SINGLE COMMA QUOTATION MARK ORNAMENT/2DOUBLE COMMA QUOTATION MARK ORNAMENT",
    "0CURVED STEM PARAGRAPH SIGN ORNAMENT/0HEAVY EXCLAMATION MARK ORNAMENT",
    "1HEART EXCLAMATION MARK ORNAMENT/1BLACK HEART/0ROTATED HEAVY BLACK HEART BULLET",
    "0FLORAL HEART/0ROTATED FLORAL HEART BULLET/0MEDIUM LEFT PARENTHESIS ORNAMENT",
    "1RIGHT PARENTHESIS ORNAMENT/1FLATTENED LEFT PARENTHESIS ORNAMENT/2RIGHT PARENTHESIS ORNAMENT",
    "1LEFT-POINTING ANGLE BRACKET ORNAMENT/1RIGHT-POINTING ANGLE BRACKET ORNAMENT",
    "0HEAVY LEFT-POINTING ANGLE QUOTATION MARK ORNAMENT",
    "1RIGHT-POINTING ANGLE QUOTATION MARK ORNAMENT/1LEFT-POINTING ANGLE BRACKET ORNAMENT",
    "1RIGHT-POINTING ANGLE BRACKET ORNAMENT/0LIGHT LEFT TORTOISE SHELL BRACKET ORNAMENT",
    "1RIGHT TORTOISE SHELL BRACKET ORNAMENT/0MEDIUM LEFT CURLY BRACKET ORNAMENT",
    "1RIGHT CURLY BRACKET ORNAMENT/0DINGBAT NEGATIVE CIRCLED DIGIT ONE/4TWO/4THREE/4FOUR/4FIVE",
    "4SIX/4SEVEN/4EIGHT/4NINE/3NUMBER TEN/1CIRCLED SANS-SERIF DIGIT ONE/4TWO/4THREE/4FOUR/4FIVE",
    "4SIX/4SEVEN/4EIGHT/4NINE/3NUMBER TEN/1NEGATIVE CIRCLED SANS-SERIF DIGIT ONE/5TWO/5THREE",
    "5FOUR/5FIVE/5SIX/5SEVEN/5EIGHT/5NINE/4NUMBER TEN/0HEAVY WIDE-HEADED RIGHTWARDS ARROW",
    "1PLUS SIGN/1MINUS SIGN/1DIVISION SIGN/1SOUTH EAST ARROW/1RIGHTWARDS ARROW/1NORTH EAST ARROW",
    "0DRAFTING POINT RIGHTWARDS ARROW/0HEAVY ROUND-TIPPED RIGHTWARDS ARROW",
    "0TRIANGLE-HEADED RIGHTWARDS ARROW/0HEAVY TRIANGLE-HEADED RIGHTWARDS ARROW",
    "0DASHED TRIANGLE-HEADED RIGHTWARDS ARROW/0HEAVY DASHED TRIANGLE-HEADED RIGHTWARDS ARROW",
    "0BLACK RIGHTWARDS ARROW/0THREE-D TOP-LIGHTED RIGHTWARDS ARROWHEAD",
    "1BOTTOM-LIGHTED RIGHTWARDS ARROWHEAD/0BLACK RIGHTWARDS ARROWHEAD",
    "0HEAVY BLACK CURVED DOWNWARDS AND RIGHTWARDS ARROW/3UPWARDS AND RIGHTWARDS ARROW",
    "0SQUAT BLACK RIGHTWARDS ARROW/0HEAVY CONCAVE-POINTED BLACK RIGHTWARDS ARROW",
    "0RIGHT-SHADED WHITE RIGHTWARDS ARROW/0LEFT-SHADED WHITE RIGHTWARDS ARROW",
    "0BACK-TILTED SHADOWED WHITE RIGHTWARDS ARROW/0FRONT-TILTED SHADOWED WHITE RIGHTWARDS ARROW",
    "0HEAVY LOWER RIGHT-SHADOWED WHITE RIGHTWARDS ARROW",
    "1UPPER RIGHT-SHADOWED WHITE RIGHTWARDS ARROW",
    "0NOTCHED LOWER RIGHT-SHADOWED WHITE RIGHTWARDS ARROW/0CURLY LOOP",
    "0NOTCHED UPPER RIGHT-SHADOWED WHITE RIGHTWARDS ARROW/0CIRCLED HEAVY WHITE RIGHTWARDS ARROW",
    "0WHITE-FEATHERED RIGHTWARDS ARROW/0BLACK-FEATHERED SOUTH EAST ARROW/1RIGHTWARDS ARROW",
    "1NORTH EAST ARROW/0HEAVY BLACK-FEATHERED SOUTH EAST ARROW/2RIGHTWARDS ARROW",
    "2NORTH EAST ARROW/0TEARDROP-BARBED RIGHTWARDS ARROW/0HEAVY TEARDROP-SHANKED RIGHTWARDS ARROW",
    "0WEDGE-TAILED RIGHTWARDS ARROW/0HEAVY WEDGE-TAILED RIGHTWARDS ARROW",
    "0OPEN-OUTLINED RIGHTWARDS ARROW/0DOUBLE CURLY LOOP/0THREE DIMENSIONAL ANGLE",
    "0WHITE TRIANGLE CONTAINING SMALL WHITE TRIANGLE/0PERPENDICULAR/0OPEN SUBSET/1SUPERSET",
    "0LEFT S-SHAPED BAG DELIMITER/0RIGHT S-SHAPED BAG DELIMITER/0OR WITH DOT INSIDE",
    "0REVERSE SOLIDUS PRECEDING SUBSET/0SUPERSET PRECEDING SOLIDUS",
    "0VERTICAL BAR WITH HORIZONTAL STROKE/0MATHEMATICAL RISING DIAGONAL/0LONG DIVISION",
    "0MATHEMATICAL FALLING DIAGONAL/0SQUARED LOGICAL AND/2OR/0WHITE DIAMOND WITH CENTRED DOT",
    "0AND WITH DOT/0ELEMENT OF OPENING UPWARDS/0LOWER RIGHT CORNER WITH DOT",
    "0UPPER LEFT CORNER WITH DOT/0LEFT OUTER JOIN/0RIGHT OUTER JOIN/0FULL OUTER JOIN",
    "0LARGE UP TACK/1DOWN TACK/0LEFT AND RIGHT DOUBLE TURNSTILE/3TACK/1MULTIMAP/0LONG RIGHT TACK",
    "1LEFT TACK/0UP TACK WITH CIRCLE ABOVE/0LOZENGE DIVIDED BY HORIZONTAL RULE",
    "0WHITE CONCAVE-SIDED DIAMOND/3WITH LEFTWARDS TICK/4RIGHTWARDS TICK",
    "1SQUARE WITH LEFTWARDS TICK/3RIGHTWARDS TICK/0MATHEMATICAL LEFT WHITE SQUARE BRACKET",
    "1RIGHT WHITE SQUARE BRACKET/1LEFT ANGLE BRACKET/1RIGHT ANGLE BRACKET",
    "1LEFT DOUBLE ANGLE BRACKET/1RIGHT DOUBLE ANGLE BRACKET/1LEFT WHITE TORTOISE SHELL BRACKET",
    "1RIGHT WHITE TORTOISE SHELL BRACKET/1LEFT FLATTENED PARENTHESIS/1RIGHT FLATTENED PARENTHESIS",
    "0UPWARDS QUADRUPLE ARROW/0DOWNWARDS QUADRUPLE ARROW/0ANTICLOCKWISE GAPPED CIRCLE ARROW",
    "0CLOCKWISE GAPPED CIRCLE ARROW/0RIGHT ARROW WITH CIRCLED PLUS/0LONG LEFTWARDS ARROW",
    "1RIGHTWARDS ARROW/1LEFT RIGHT ARROW/1LEFTWARDS DOUBLE ARROW/1RIGHTWARDS DOUBLE ARROW",
    "1LEFT RIGHT DOUBLE ARROW/1LEFTWARDS ARROW FROM BAR/1RIGHTWARDS ARROW FROM BAR",
    "1LEFTWARDS DOUBLE ARROW FROM BAR/1RIGHTWARDS DOUBLE ARROW FROM BAR/2SQUIGGLE ARROW",
    "0BRAILLE PATTERN BLANK/2DOTS-1/2DOTS-2/2DOTS-12/2DOTS-3/2DOTS-13/2DOTS-23/2DOTS-123/2DOTS-4",
    "2DOTS-14/2DOTS-24/2DOTS-124/2DOTS-34/2DOTS-134/2DOTS-234/2DOTS-1234/2DOTS-5/2DOTS-15",
    "2DOTS-25/2DOTS-125/2DOTS-35/2DOTS-135/2DOTS-235/2DOTS-1235/2DOTS-45/2DOTS-145/2DOTS-245",
    "2DOTS-1245/2DOTS-345/2DOTS-1345/2DOTS-2345/2DOTS-12345/2DOTS-6/2DOTS-16/2DOTS-26/2DOTS-126",
    "2DOTS-36/2DOTS-136/2DOTS-236/2DOTS-1236/2DOTS-46/2DOTS-146/2DOTS-246/2DOTS-1246/2DOTS-346",
    "2DOTS-1346/2DOTS-2346/2DOTS-12346/2DOTS-56/2DOTS-156/2DOTS-256/2DOTS-1256/2DOTS-356",
    "2DOTS-1356/2DOTS-2356/2DOTS-12356/2DOTS-456/2DOTS-1456/2DOTS-2456/2DOTS-12456/2DOTS-3456",
    "2DOTS-13456/2DOTS-23456/2DOTS-123456/2DOTS-7/2DOTS-17/2DOTS-27/2DOTS-127/2DOTS-37/2DOTS-137",
    "2DOTS-237/2DOTS-1237/2DOTS-47/2DOTS-147/2DOTS-247/2DOTS-1247/2DOTS-347/2DOTS-1347/2DOTS-2347",
    "2DOTS-12347/2DOTS-57/2DOTS-157/2DOTS-257/2DOTS-1257/2DOTS-357/2DOTS-1357/2DOTS-2357",
    "2DOTS-12357/2DOTS-457/2DOTS-1457/2DOTS-2457/2DOTS-12457/2DOTS-3457/2DOTS-13457/2DOTS-23457",
    "2DOTS-123457/2DOTS-67/2DOTS-167/2DOTS-267/2DOTS-1267/2DOTS-367/2DOTS-1367/2DOTS-2367",
    "2DOTS-12367/2DOTS-467/2DOTS-1467/2DOTS-2467/2DOTS-12467/2DOTS-3467/2DOTS-13467/2DOTS-23467",
    "2DOTS-123467/2DOTS-567/2DOTS-1567/2DOTS-2567/2DOTS-12567/2DOTS-3567/2DOTS-13567/2DOTS-23567",
    "2DOTS-123567/2DOTS-4567/2DOTS-14567/2DOTS-24567/2DOTS-124567/2DOTS-34567/2DOTS-134567",
    "2DOTS-234567/2DOTS-1234567/2DOTS-8/2DOTS-18/2DOTS-28/2DOTS-128/2DOTS-38/2DOTS-138/2DOTS-238",
    "2DOTS-1238/2DOTS-48/2DOTS-148/2DOTS-248/2DOTS-1248/2DOTS-348/2DOTS-1348/2DOTS-2348",
    "2DOTS-12348/2DOTS-58/2DOTS-158/2DOTS-258/2DOTS-1258/2DOTS-358/2DOTS-1358/2DOTS-2358",
    "2DOTS-12358/2DOTS-458/2DOTS-1458/2DOTS-2458/2DOTS-12458/2DOTS-3458/2DOTS-13458/2DOTS-23458",
    "2DOTS-123458/2DOTS-68/2DOTS-168/2DOTS-268/2DOTS-1268/2DOTS-368/2DOTS-1368/2DOTS-2368",
    "2DOTS-12368/2DOTS-468/2DOTS-1468/2DOTS-2468/2DOTS-12468/2DOTS-3468/2DOTS-13468/2DOTS-23468",
    "2DOTS-123468/2DOTS-568/2DOTS-1568/2DOTS-2568/2DOTS-12568/2DOTS-3568/2DOTS-13568/2DOTS-23568",
    "2DOTS-123568/2DOTS-4568/2DOTS-14568/2DOTS-24568/2DOTS-124568/2DOTS-34568/2DOTS-134568",
    "2DOTS-234568/2DOTS-1234568/2DOTS-78/2DOTS-178/2DOTS-278/2DOTS-1278/2DOTS-378/2DOTS-1378",
    "2DOTS-2378/2DOTS-12378/2DOTS-478/2DOTS-1478/2DOTS-2478/2DOTS-12478/2DOTS-3478/2DOTS-13478",
    "2DOTS-23478/2DOTS-123478/2DOTS-578/2DOTS-1578/2DOTS-2578/2DOTS-12578/2DOTS-3578/2DOTS-13578",
    "2DOTS-23578/2DOTS-123578/2DOTS-4578/2DOTS-14578/2DOTS-24578/2DOTS-124578/2DOTS-34578",
    "2DOTS-134578/2DOTS-234578/2DOTS-1234578/2DOTS-678/2DOTS-1678/2DOTS-2678/2DOTS-12678",
    "2DOTS-3678/2DOTS-13678/2DOTS-23678/2DOTS-123678/2DOTS-4678/2DOTS-14678/2DOTS-24678",
    "2DOTS-124678/2DOTS-34678/2DOTS-134678/2DOTS-234678/2DOTS-1234678/2DOTS-5678/2DOTS-15678",
    "2DOTS-25678/2DOTS-125678/2DOTS-35678/2DOTS-135678/2DOTS-235678/2DOTS-1235678/2DOTS-45678",
    "2DOTS-145678/2DOTS-245678/2DOTS-1245678/2DOTS-345678/2DOTS-1345678/2DOTS-2345678",
    "2DOTS-12345678/#2b00/0NORTH EAST WHITE ARROW/1WEST WHITE ARROW/0SOUTH EAST WHITE ARROW",
    "1WEST WHITE ARROW/0LEFT RIGHT WHITE ARROW/0LEFTWARDS BLACK ARROW/0UPWARDS BLACK ARROW",
    "0DOWNWARDS BLACK ARROW/0NORTH EAST BLACK ARROW/1WEST BLACK ARROW/0SOUTH EAST BLACK ARROW",
    "1WEST BLACK ARROW/0LEFT RIGHT BLACK ARROW/0UP DOWN BLACK ARROW",
    "0RIGHTWARDS ARROW WITH TIP DOWNWARDS/4UPWARDS/0LEFTWARDS ARROW WITH TIP DOWNWARDS/4UPWARDS",
    "0SQUARE WITH TOP HALF BLACK/2BOTTOM HALF BLACK/2UPPER RIGHT DIAGONAL HALF BLACK",
    "2LOWER LEFT DIAGONAL HALF BLACK/0DIAMOND WITH LEFT HALF BLACK/2RIGHT HALF BLACK",
    "2TOP HALF BLACK/2BOTTOM HALF BLACK/0DOTTED SQUARE/0BLACK LARGE SQUARE/0WHITE LARGE SQUARE",
    "0BLACK VERY SMALL SQUARE/0WHITE VERY SMALL SQUARE/0BLACK PENTAGON/0WHITE PENTAGON/1HEXAGON",
    "0BLACK HEXAGON/0HORIZONTAL BLACK HEXAGON/0BLACK LARGE CIRCLE/1MEDIUM DIAMOND",
    "0WHITE MEDIUM DIAMOND/0BLACK MEDIUM LOZENGE/0WHITE MEDIUM LOZENGE/0BLACK SMALL DIAMOND",
    "2LOZENGE/0WHITE SMALL LOZENGE/0BLACK HORIZONTAL ELLIPSE/0WHITE HORIZONTAL ELLIPSE",
    "0BLACK VERTICAL ELLIPSE/0WHITE VERTICAL ELLIPSE/0LEFT ARROW WITH SMALL CIRCLE",
    "0THREE LEFTWARDS ARROWS/0LEFT ARROW WITH CIRCLED PLUS/0LONG LEFTWARDS SQUIGGLE ARROW",
    "0LEFTWARDS TWO-HEADED ARROW WITH VERTICAL STROKE/4DOUBLE VERTICAL STROKE/3FROM BAR",
    "2TRIPLE DASH ARROW/1ARROW WITH DOTTED STEM/3TAIL WITH VERTICAL STROKE",
    "5DOUBLE VERTICAL STROKE/1TWO-HEADED ARROW WITH TAIL/5WITH VERTICAL STROKE",
    "6DOUBLE VERTICAL STROKE/1ARROW THROUGH X/0WAVE ARROW POINTING DIRECTLY LEFT",
    "0EQUALS SIGN ABOVE LEFTWARDS ARROW/0REVERSE TILDE OPERATOR ABOVE LEFTWARDS ARROW",
    "0LEFTWARDS ARROW ABOVE REVERSE ALMOST EQUAL TO/0RIGHTWARDS ARROW THROUGH GREATER-THAN",
    "3SUPERSET/0LEFTWARDS QUADRUPLE ARROW/0RIGHTWARDS QUADRUPLE ARROW",
    "0REVERSE TILDE OPERATOR ABOVE RIGHTWARDS ARROW",
    "0RIGHTWARDS ARROW ABOVE REVERSE ALMOST EQUAL TO/0TILDE OPERATOR ABOVE LEFTWARDS ARROW",
    "0LEFTWARDS ARROW ABOVE ALMOST EQUAL TO/3REVERSE TILDE OPERATOR",
    "0RIGHTWARDS ARROW ABOVE REVERSE TILDE OPERATOR/0DOWNWARDS TRIANGLE-HEADED ZIGZAG ARROW",
    "0SHORT SLANTED NORTH ARROW/1BACKSLANTED SOUTH ARROW/0WHITE MEDIUM STAR/0BLACK SMALL STAR",
    "0WHITE SMALL STAR/0BLACK RIGHT-POINTING PENTAGON/0WHITE RIGHT-POINTING PENTAGON",
    "0HEAVY LARGE CIRCLE/1OVAL WITH OVAL INSIDE/1CIRCLE WITH CIRCLE INSIDE/1CIRCLE",
    "1CIRCLED SALTIRE/0SLANTED NORTH ARROW WITH HOOKED HEAD",
    "0BACKSLANTED SOUTH ARROW WITH HOOKED TAIL/0SLANTED NORTH ARROW WITH HORIZONTAL TAIL",
    "0BACKSLANTED SOUTH ARROW WITH HORIZONTAL TAIL/0BENT ARROW POINTING DOWNWARDS THEN NORTH EAST",
    "0SHORT BENT ARROW POINTING DOWNWARDS THEN NORTH EAST/0LEFTWARDS TRIANGLE-HEADED ARROW",
    "0UPWARDS TRIANGLE-HEADED ARROW/0RIGHTWARDS TRIANGLE-HEADED ARROW",
    "0DOWNWARDS TRIANGLE-HEADED ARROW/0LEFT RIGHT TRIANGLE-HEADED ARROW",
    "0UP DOWN TRIANGLE-HEADED ARROW/0NORTH WEST TRIANGLE-HEADED ARROW/1EAST TRIANGLE-HEADED ARROW",
    "0SOUTH EAST TRIANGLE-HEADED ARROW/1WEST TRIANGLE-HEADED ARROW",
    "0LEFTWARDS TRIANGLE-HEADED DASHED ARROW/0UPWARDS TRIANGLE-HEADED DASHED ARROW",
    "0RIGHTWARDS TRIANGLE-HEADED DASHED ARROW/0DOWNWARDS TRIANGLE-HEADED DASHED ARROW",
    "0CLOCKWISE TRIANGLE-HEADED OPEN CIRCLE ARROW",
    "0ANTICLOCKWISE TRIANGLE-HEADED OPEN CIRCLE ARROW/0LEFTWARDS TRIANGLE-HEADED ARROW TO BAR",
    "0UPWARDS TRIANGLE-HEADED ARROW TO BAR/0RIGHTWARDS TRIANGLE-HEADED ARROW TO BAR",
    "0DOWNWARDS TRIANGLE-HEADED ARROW TO BAR/#2b76/0NORTH WEST TRIANGLE-HEADED ARROW TO BAR",
    "1EAST TRIANGLE-HEADED ARROW TO BAR/0SOUTH EAST TRIANGLE-HEADED ARROW TO BAR",
    "1WEST TRIANGLE-HEADED ARROW TO BAR",
    "0LEFTWARDS TRIANGLE-HEADED ARROW WITH DOUBLE HORIZONTAL STROKE",
    "0UPWARDS TRIANGLE-HEADED ARROW WITH DOUBLE HORIZONTAL STROKE",
    "0RIGHTWARDS TRIANGLE-HEADED ARROW WITH DOUBLE HORIZONTAL STROKE",
    "0DOWNWARDS TRIANGLE-HEADED ARROW WITH DOUBLE HORIZONTAL STROKE/0HORIZONTAL TAB KEY",
    "0VERTICAL TAB KEY/0LEFTWARDS TRIANGLE-HEADED ARROW OVER RIGHTWARDS TRIANGLE-HEADED ARROW",
    "0UPWARDS TRIANGLE-HEADED ARROW LEFTWARDS OF DOWNWARDS TRIANGLE-HEADED ARROW",
    "0RIGHTWARDS TRIANGLE-HEADED ARROW OVER LEFTWARDS TRIANGLE-HEADED ARROW",
    "0DOWNWARDS TRIANGLE-HEADED ARROW LEFTWARDS OF UPWARDS TRIANGLE-HEADED ARROW",
    "0LEFTWARDS TRIANGLE-HEADED PAIRED ARROWS/0UPWARDS TRIANGLE-HEADED PAIRED ARROWS",
    "0RIGHTWARDS TRIANGLE-HEADED PAIRED ARROWS/0DOWNWARDS TRIANGLE-HEADED PAIRED ARROWS",
    "0LEFTWARDS BLACK CIRCLED WHITE ARROW/0UPWARDS BLACK CIRCLED WHITE ARROW",
    "0RIGHTWARDS BLACK CIRCLED WHITE ARROW/0DOWNWARDS BLACK CIRCLED WHITE ARROW",
    "0ANTICLOCKWISE TRIANGLE-HEADED RIGHT U-SHAPED ARROW/2BOTTOM U-SHAPED ARROW",
    "2LEFT U-SHAPED ARROW/2TOP U-SHAPED ARROW/0RETURN LEFT/1RIGHT/0NEWLINE LEFT/1RIGHT",
    "0FOUR CORNER ARROWS CIRCLING ANTICLOCKWISE/0RIGHTWARDS BLACK ARROW/#2b97",
    "0SYMBOL FOR TYPE A ELECTRONICS/0THREE-D TOP-LIGHTED LEFTWARDS EQUILATERAL ARROWHEAD",
    "1RIGHT-LIGHTED UPWARDS EQUILATERAL ARROWHEAD/1TOP-LIGHTED RIGHTWARDS EQUILATERAL ARROWHEAD",
    "1LEFT-LIGHTED DOWNWARDS EQUILATERAL ARROWHEAD/0BLACK LEFTWARDS EQUILATERAL ARROWHEAD",
    "1UPWARDS EQUILATERAL ARROWHEAD/1RIGHTWARDS EQUILATERAL ARROWHEAD",
    "1DOWNWARDS EQUILATERAL ARROWHEAD/0DOWNWARDS TRIANGLE-HEADED ARROW WITH LONG TIP LEFTWARDS",
    "6RIGHTWARDS/0UPWARDS TRIANGLE-HEADED ARROW WITH LONG TIP LEFTWARDS/6RIGHTWARDS",
    "0LEFTWARDS TRIANGLE-HEADED ARROW WITH LONG TIP UPWARDS",
    "0RIGHTWARDS TRIANGLE-HEADED ARROW WITH LONG TIP UPWARDS",
    "0LEFTWARDS TRIANGLE-HEADED ARROW WITH LONG TIP DOWNWARDS",
    "0RIGHTWARDS TRIANGLE-HEADED ARROW WITH LONG TIP DOWNWARDS",
    "0BLACK CURVED DOWNWARDS AND LEFTWARDS ARROW/4RIGHTWARDS ARROW/2UPWARDS AND LEFTWARDS ARROW",
    "4RIGHTWARDS ARROW/2LEFTWARDS AND UPWARDS ARROW/2RIGHTWARDS AND UPWARDS ARROW",
    "2LEFTWARDS AND DOWNWARDS ARROW/2RIGHTWARDS AND DOWNWARDS ARROW/0RIBBON ARROW DOWN LEFT",
    "3RIGHT/2UP LEFT/3RIGHT/2LEFT UP/2RIGHT UP/2LEFT DOWN/2RIGHT DOWN",
    "0UPWARDS WHITE ARROW FROM BAR WITH HORIZONTAL BAR/0UP ARROWHEAD IN A RECTANGLE BOX",
    "0OVERLAPPING WHITE SQUARES/2AND BLACK SQUARES/1BLACK SQUARES/0BALLOT BOX WITH LIGHT X",
    "0CIRCLED X/1BOLD X/0BLACK SQUARE CENTRED/1DIAMOND CENTRED/0TURNED BLACK PENTAGON",
    "0HORIZONTAL BLACK OCTAGON/0BLACK OCTAGON/1MEDIUM UP-POINTING TRIANGLE CENTRED",
    "2DOWN-POINTING TRIANGLE CENTRED/2LEFT-POINTING TRIANGLE CENTRED",
    "2RIGHT-POINTING TRIANGLE CENTRED/0NEPTUNE FORM TWO/0TOP HALF BLACK CIRCLE",
    "0BOTTOM HALF BLACK CIRCLE/0LIGHT FOUR POINTED BLACK CUSP",
    "0ROTATED LIGHT FOUR POINTED BLACK CUSP/0WHITE FOUR POINTED CUSP",
    "0ROTATED WHITE FOUR POINTED CUSP/0SQUARE POSITION INDICATOR/0UNCERTAINTY SIGN/0GROUP MARK",
    "0PLUTO FORM TWO/2THREE/2FOUR/2FIVE/0TRANSPLUTO/0PROSERPINA/0ASTRAEA/0HYGIEA/0PHOLUS/0NESSUS",
    "0WHITE MOON SELENA/0BLACK DIAMOND ON CROSS/0TRUE LIGHT MOON ARTA/0CUPIDO/0HADES/0ZEUS",
    "0KRONOS/0APOLLON/0ADMETOS/0VULCANUS/0POSEIDON/0LEFT HALF BLACK STAR/0RIGHT HALF BLACK STAR",
    "0STAR WITH LEFT HALF BLACK/2RIGHT HALF BLACK",
    "0LEFTWARDS TWO-HEADED ARROW WITH TRIANGLE ARROWHEADS",
    "0UPWARDS TWO-HEADED ARROW WITH TRIANGLE ARROWHEADS",
    "0RIGHTWARDS TWO-HEADED ARROW WITH TRIANGLE ARROWHEADS",
    "0DOWNWARDS TWO-HEADED ARROW WITH TRIANGLE ARROWHEADS/0ERIS FORM ONE/2TWO/0SEDNA",
    "0RUSSIAN ASTROLOGICAL SYMBOL VIGINTILE/3NOVILE/3QUINTILE/3BINOVILE/3SENTAGON/3TREDECILE",
    "0EQUALS SIGN WITH INFINITY BELOW/0UNITED SYMBOL/0SEPARATED SYMBOL/0DOUBLED SYMBOL",
    "0PASSED SYMBOL/0REVERSED RIGHT ANGLE/0HELLSCHREIBER PAUSE SYMBOL/#3000/0IDEOGRAPHIC SPACE",
    "1COMMA/1FULL STOP/0DITTO MARK/0JAPANESE INDUSTRIAL STANDARD SYMBOL",
    "0IDEOGRAPHIC ITERATION MARK/1CLOSING MARK/1NUMBER ZERO/0LEFT ANGLE BRACKET",
    "0RIGHT ANGLE BRACKET/0LEFT DOUBLE ANGLE BRACKET/0RIGHT DOUBLE ANGLE BRACKET",
    "0LEFT CORNER BRACKET/0RIGHT CORNER BRACKET/0LEFT WHITE CORNER BRACKET",
    "0RIGHT WHITE CORNER BRACKET/0LEFT BLACK LENTICULAR BRACKET/0RIGHT BLACK LENTICULAR BRACKET",
    "0POSTAL MARK/0GETA MARK/0LEFT TORTOISE SHELL BRACKET/0RIGHT TORTOISE SHELL BRACKET",
    "0LEFT WHITE LENTICULAR BRACKET/0RIGHT WHITE LENTICULAR BRACKET",
    "0LEFT WHITE TORTOISE SHELL BRACKET/0RIGHT WHITE TORTOISE SHELL BRACKET",
    "0LEFT WHITE SQUARE BRACKET/0RIGHT WHITE SQUARE BRACKET/0WAVE DASH",
    "0REVERSED DOUBLE PRIME QUOTATION MARK/0DOUBLE PRIME QUOTATION MARK",
    "0LOW DOUBLE PRIME QUOTATION MARK/0POSTAL MARK FACE/0HANGZHOU NUMERAL ONE/2TWO/2THREE/2FOUR",
    "2FIVE/2SIX/2SEVEN/2EIGHT/2NINE/0IDEOGRAPHIC LEVEL TONE MARK/1RISING TONE MARK",
    "1DEPARTING TONE MARK/1ENTERING TONE MARK/0HANGUL SINGLE DOT TONE MARK/1DOUBLE DOT TONE MARK",
    "0WAVY DASH/0VERTICAL KANA REPEAT MARK/3WITH VOICED SOUND MARK/3MARK UPPER HALF",
    "3WITH VOICED SOUND MARK UPPER HALF/3MARK LOWER HALF/0CIRCLED POSTAL MARK",
    "0IDEOGRAPHIC TELEGRAPH LINE FEED SEPARATOR SYMBOL/0HANGZHOU NUMERAL TEN/2TWENTY/2THIRTY",
    "0VERTICAL IDEOGRAPHIC ITERATION MARK/0MASU MARK/0PART ALTERNATION MARK",
    "0IDEOGRAPHIC VARIATION INDICATOR/1HALF FILL SPACE/#3041/0HIRAGANA LETTER SMALL A/2A/2SMALL I",
    "2I/2SMALL U/2U/2SMALL E/2E/2SMALL O/2O/2KA/2GA/2KI/2GI/2KU/2GU/2KE/2GE/2KO/2GO/2SA/2ZA/2SI",
    "2ZI/2SU/2ZU/2SE/2ZE/2SO/2ZO/2TA/2DA/2TI/2DI/2SMALL TU/2TU/2DU/2TE/2DE/2TO/2DO/2NA/2NI/2NU",
    "2NE/2NO/2HA/2BA/2PA/2HI/2BI/2PI/2HU/2BU/2PU/2HE/2BE/2PE/2HO/2BO/2PO/2MA/2MI/2MU/2ME/2MO",
    "2SMALL YA/2YA/2SMALL YU/2YU/2SMALL YO/2YO/2RA/2RI/2RU/2RE/2RO/2SMALL WA/2WA/2WI/2WE/2WO/2N",
    "2VU/2SMALL KA/3KE/#3099/0COMBINING KATAKANA-HIRAGANA VOICED SOUND MARK",
    "2SEMI-VOICED SOUND MARK/0KATAKANA-HIRAGANA VOICED SOUND MARK/1SEMI-VOICED SOUND MARK",
    "0HIRAGANA ITERATION MARK/1VOICED ITERATION MARK/1DIGRAPH YORI",
    "0KATAKANA-HIRAGANA DOUBLE HYPHEN/0KATAKANA LETTER SMALL A/2A/2SMALL I/2I/2SMALL U/2U",
    "2SMALL E/2E/2SMALL O/2O/2KA/2GA/2KI/2GI/2KU/2GU/2KE/2GE/2KO/2GO/2SA/2ZA/2SI/2ZI/2SU/2ZU/2SE",
    "2ZE/2SO/2ZO/2TA/2DA/2TI/2DI/2SMALL TU/2TU/2DU/2TE/2DE/2TO/2DO/2NA/2NI/2NU/2NE/2NO/2HA/2BA",
    "2PA/2HI/2BI/2PI/2HU/2BU/2PU/2HE/2BE/2PE/2HO/2BO/2PO/2MA/2MI/2MU/2ME/2MO/2SMALL YA/2YA",
    "2SMALL YU/2YU/2SMALL YO/2YO/2RA/2RI/2RU/2RE/2RO/2SMALL WA/2WA/2WI/2WE/2WO/2N/2VU/2SMALL KA",
    "3KE/2VA/2VI/2VE/2VO/1MIDDLE DOT/0KATAKANA-HIRAGANA PROLONGED SOUND MARK",
    "0KATAKANA ITERATION MARK/1VOICED ITERATION MARK/1DIGRAPH KOTO/#fe00/0VARIATION SELECTOR-1",
    "1SELECTOR-2/1SELECTOR-3/1SELECTOR-4/1SELECTOR-5/1SELECTOR-6/1SELECTOR-7/1SELECTOR-8",
    "1SELECTOR-9/1SELECTOR-10/1SELECTOR-11/1SELECTOR-12/1SELECTOR-13/1SELECTOR-14/1SELECTOR-15",
    "1SELECTOR-16/0PRESENTATION FORM FOR VERTICAL COMMA/4IDEOGRAPHIC COMMA/5FULL STOP/4COLON",
    "4SEMICOLON/4EXCLAMATION MARK/4QUESTION MARK/4LEFT WHITE LENTICULAR BRACKET",
    "4RIGHT WHITE LENTICULAR BRAKCET/4HORIZONTAL ELLIPSIS/#fe20/0COMBINING LIGATURE LEFT HALF",
    "2RIGHT HALF/1DOUBLE TILDE LEFT HALF/3RIGHT HALF/1MACRON LEFT HALF/2RIGHT HALF",
    "1CONJOINING MACRON/1LIGATURE LEFT HALF BELOW/2RIGHT HALF BELOW/1TILDE LEFT HALF BELOW",
    "2RIGHT HALF BELOW/1MACRON LEFT HALF BELOW/2RIGHT HALF BELOW/1CONJOINING MACRON BELOW",
    "1CYRILLIC TITLO LEFT HALF/3RIGHT HALF/0PRESENTATION FORM FOR VERTICAL TWO DOT LEADER",
    "4EM DASH/4EN DASH/4LOW LINE/4WAVY LOW LINE/4LEFT PARENTHESIS/4RIGHT PARENTHESIS",
    "4LEFT CURLY BRACKET/4RIGHT CURLY BRACKET/4LEFT TORTOISE SHELL BRACKET",
    "4RIGHT TORTOISE SHELL BRACKET/4LEFT BLACK LENTICULAR BRACKET/4RIGHT BLACK LENTICULAR BRACKET",
    "4LEFT DOUBLE ANGLE BRACKET/4RIGHT DOUBLE ANGLE BRACKET/4LEFT ANGLE BRACKET",
    "4RIGHT ANGLE BRACKET/4LEFT CORNER BRACKET/4RIGHT CORNER BRACKET/4LEFT WHITE CORNER BRACKET",
    "4RIGHT WHITE CORNER BRACKET/0SESAME DOT/0WHITE SESAME DOT",
    "0PRESENTATION FORM FOR VERTICAL LEFT SQUARE BRACKET/4RIGHT SQUARE BRACKET/0DASHED OVERLINE",
    "0CENTRELINE OVERLINE/0WAVY OVERLINE/0DOUBLE WAVY OVERLINE/0DASHED LOW LINE",
    "0CENTRELINE LOW LINE/0WAVY LOW LINE/0SMALL COMMA/1IDEOGRAPHIC COMMA/1FULL STOP/#fe54",
    "1SEMICOLON/1COLON/1QUESTION MARK/1EXCLAMATION MARK/1EM DASH/1LEFT PARENTHESIS",
    "1RIGHT PARENTHESIS/1LEFT CURLY BRACKET/1RIGHT CURLY BRACKET/1LEFT TORTOISE SHELL BRACKET",
    "1RIGHT TORTOISE SHELL BRACKET/1NUMBER SIGN/1AMPERSAND/1ASTERISK/1PLUS SIGN/1HYPHEN-MINUS",
    "1LESS-THAN SIGN/1GREATER-THAN SIGN/1EQUALS SIGN/#fe68/1REVERSE SOLIDUS/1DOLLAR SIGN",
    "1PERCENT SIGN/1COMMERCIAL AT/#ff01/0FULLWIDTH EXCLAMATION MARK/1QUOTATION MARK/1NUMBER SIGN",
    "1DOLLAR SIGN/1PERCENT SIGN/1AMPERSAND/1APOSTROPHE/1LEFT PARENTHESIS/1RIGHT PARENTHESIS",
    "1ASTERISK/1PLUS SIGN/1COMMA/1HYPHEN-MINUS/1FULL STOP/1SOLIDUS/1DIGIT ZERO/2ONE/2TWO/2THREE",
    "2FOUR/2FIVE/2SIX/2SEVEN/2EIGHT/2NINE/1COLON/1SEMICOLON/1LESS-THAN SIGN/1EQUALS SIGN",
    "1GREATER-THAN SIGN/1QUESTION MARK/1COMMERCIAL AT/1LATIN CAPITAL LETTER A/4B/4C/4D/4E/4F/4G",
    "4H/4I/4J/4K/4L/4M/4N/4O/4P/4Q/4R/4S/4T/4U/4V/4W/4X/4Y/4Z/1LEFT SQUARE BRACKET",
    "1REVERSE SOLIDUS/1RIGHT SQUARE BRACKET/1CIRCUMFLEX ACCENT/1LOW LINE/1GRAVE ACCENT",
    "1LATIN SMALL LETTER A/4B/4C/4D/4E/4F/4G/4H/4I/4J/4K/4L/4M/4N/4O/4P/4Q/4R/4S/4T/4U/4V/4W/4X",
    "4Y/4Z/1LEFT CURLY BRACKET/1VERTICAL LINE/1RIGHT CURLY BRACKET/1TILDE/1LEFT WHITE PARENTHESIS",
    "1RIGHT WHITE PARENTHESIS/0HALFWIDTH IDEOGRAPHIC FULL STOP/1LEFT CORNER BRACKET",
    "1RIGHT CORNER BRACKET/1IDEOGRAPHIC COMMA/1KATAKANA MIDDLE DOT/2LETTER WO/3SMALL A/4I/4U/4E",
    "4O/4YA/4YU/4YO/4TU/1KATAKANA-HIRAGANA PROLONGED SOUND MARK/1KATAKANA LETTER A/3I/3U/3E/3O",
    "3KA/3KI/3KU/3KE/3KO/3SA/3SI/3SU/3SE/3SO/3TA/3TI/3TU/3TE/3TO/3NA/3NI/3NU/3NE/3NO/3HA/3HI/3HU",
    "3HE/3HO/3MA/3MI/3MU/3ME/3MO/3YA/3YU/3YO/3RA/3RI/3RU/3RE/3RO/3WA/3N/2VOICED SOUND MARK",
    "2SEMI-VOICED SOUND MARK/1HANGUL FILLER/2LETTER KIYEOK/3SSANGKIYEOK/3KIYEOK-SIOS/3NIEUN",
    "3NIEUN-CIEUC/3NIEUN-HIEUH/3TIKEUT/3SSANGTIKEUT/3RIEUL/3RIEUL-KIYEOK/3RIEUL-MIEUM",
    "3RIEUL-PIEUP/3RIEUL-SIOS/3RIEUL-THIEUTH/3RIEUL-PHIEUPH/3RIEUL-HIEUH/3MIEUM/3PIEUP",
    "3SSANGPIEUP/3PIEUP-SIOS/3SIOS/3SSANGSIOS/3IEUNG/3CIEUC/3SSANGCIEUC/3CHIEUCH/3KHIEUKH",
    "3THIEUTH/3PHIEUPH/3HIEUH/#ffc2/3A/3AE/3YA/3YAE/3EO/3E/#ffca/3YEO/3YE/3O/3WA/3WAE/3OE/#ffd2",
    "3YO/3U/3WEO/3WE/3WI/3YU/#ffda/3EU/3YI/3I/#ffe0/0FULLWIDTH CENT SIGN/1POUND SIGN/1NOT SIGN",
    "1MACRON/1BROKEN BAR/1YEN SIGN/1WON SIGN/#ffe8/0HALFWIDTH FORMS LIGHT VERTICAL",
    "1LEFTWARDS ARROW/1UPWARDS ARROW/1RIGHTWARDS ARROW/1DOWNWARDS ARROW/1BLACK SQUARE",
    "1WHITE CIRCLE/#fff9/0INTERLINEAR ANNOTATION ANCHOR/2SEPARATOR/2TERMINATOR",
    "0OBJECT REPLACEMENT CHARACTER/0REPLACEMENT CHARACTER/#1d400/0MATHEMATICAL BOLD CAPITAL A/3B",
    "3C/3D/3E/3F/3G/3H/3I/3J/3K/3L/3M/3N/3O/3P/3Q/3R/3S/3T/3U/3V/3W/3X/3Y/3Z/2SMALL A/3B/3C/3D/3E",
    "3F/3G/3H/3I/3J/3K/3L/3M/3N/3O/3P/3Q/3R/3S/3T/3U/3V/3W/3X/3Y/3Z/1ITALIC CAPITAL A/3B/3C/3D/3E",
    "3F/3G/3H/3I/3J/3K/3L/3M/3N/3O/3P/3Q/3R/3S/3T/3U/3V/3W/3X/3Y/3Z/2SMALL A/3B/3C/3D/3E/3F/3G",
    "#1d456/3I/3J/3K/3L/3M/3N/3O/3P/3Q/3R/3S/3T/3U/3V/3W/3X/3Y/3Z/1BOLD ITALIC CAPITAL A/4B/4C/4D",
    "4E/4F/4G/4H/4I/4J/4K/4L/4M/4N/4O/4P/4Q/4R/4S/4T/4U/4V/4W/4X/4Y/4Z/3SMALL A/4B/4C/4D/4E/4F/4G",
    "4H/4I/4J/4K/4L/4M/4N/4O/4P/4Q/4R/4S/4T/4U/4V/4W/4X/4Y/4Z/1SCRIPT CAPITAL A/#1d49e/3C/3D",
    "#1d4a2/3G/#1d4a5/3J/3K/#1d4a9/3N/3O/3P/3Q/#1d4ae/3S/3T/3U/3V/3W/3X/3Y/3Z/2SMALL A/3B/3C/3D",
    "#1d4bb/3F/#1d4bd/3H/3I/3J/3K/3L/3M/3N/#1d4c5/3P/3Q/3R/3S/3T/3U/3V/3W/3X/3Y/3Z",
    "1BOLD SCRIPT CAPITAL A/4B/4C/4D/4E/4F/4G/4H/4I/4J/4K/4L/4M/4N/4O/4P/4Q/4R/4S/4T/4U/4V/4W/4X",
    "4Y/4Z/3SMALL A/4B/4C/4D/4E/4F/4G/4H/4I/4J/4K/4L/4M/4N/4O/4P/4Q/4R/4S/4T/4U/4V/4W/4X/4Y/4Z",
    "1FRAKTUR CAPITAL A/3B/#1d507/3D/3E/3F/3G/#1d50d/3J/3K/3L/3M/3N/3O/3P/3Q/#1d516/3S/3T/3U/3V",
    "3W/3X/3Y/#1d51e/2SMALL A/3B/3C/3D/3E/3F/3G/3H/3I/3J/3K/3L/3M/3N/3O/3P/3Q/3R/3S/3T/3U/3V/3W",
    "3X/3Y/3Z/1DOUBLE-STRUCK CAPITAL A/3B/#1d53b/3D/3E/3F/3G/#1d540/3I/3J/3K/3L/3M/#1d546/3O",
    "#1d54a/3S/3T/3U/3V/3W/3X/3Y/#1d552/2SMALL A/3B/3C/3D/3E/3F/3G/3H/3I/3J/3K/3L/3M/3N/3O/3P/3Q",
    "3R/3S/3T/3U/3V/3W/3X/3Y/3Z/1BOLD FRAKTUR CAPITAL A/4B/4C/4D/4E/4F/4G/4H/4I/4J/4K/4L/4M/4N/4O",
    "4P/4Q/4R/4S/4T/4U/4V/4W/4X/4Y/4Z/3SMALL A/4B/4C/4D/4E/4F/4G/4H/4I/4J/4K/4L/4M/4N/4O/4P/4Q/4R",
    "4S/4T/4U/4V/4W/4X/4Y/4Z/1SANS-SERIF CAPITAL A/3B/3C/3D/3E/3F/3G/3H/3I/3J/3K/3L/3M/3N/3O/3P",
    "3Q/3R/3S/3T/3U/3V/3W/3X/3Y/3Z/2SMALL A/3B/3C/3D/3E/3F/3G/3H/3I/3J/3K/3L/3M/3N/3O/3P/3Q/3R/3S",
    "3T/3U/3V/3W/3X/3Y/3Z/2BOLD CAPITAL A/4B/4C/4D/4E/4F/4G/4H/4I/4J/4K/4L/4M/4N/4O/4P/4Q/4R/4S",
    "4T/4U/4V/4W/4X/4Y/4Z/3SMALL A/4B/4C/4D/4E/4F/4G/4H/4I/4J/4K/4L/4M/4N/4O/4P/4Q/4R/4S/4T/4U/4V",
    "4W/4X/4Y/4Z/2ITALIC CAPITAL A/4B/4C/4D/4E/4F/4G/4H/4I/4J/4K/4L/4M/4N/4O/4P/4Q/4R/4S/4T/4U/4V",
    "4W/4X/4Y/4Z/3SMALL A/4B/4C/4D/4E/4F/4G/4H/4I/4J/4K/4L/4M/4N/4O/4P/4Q/4R/4S/4T/4U/4V/4W/4X/4Y",
    "4Z/2BOLD ITALIC CAPITAL A/5B/5C/5D/5E/5F/5G/5H/5I/5J/5K/5L/5M/5N/5O/5P/5Q/5R/5S/5T/5U/5V/5W",
    "5X/5Y/5Z/4SMALL A/5B/5C/5D/5E/5F/5G/5H/5I/5J/5K/5L/5M/5N/5O/5P/5Q/5R/5S/5T/5U/5V/5W/5X/5Y/5Z",
    "1MONOSPACE CAPITAL A/3B/3C/3D/3E/3F/3G/3H/3I/3J/3K/3L/3M/3N/3O/3P/3Q/3R/3S/3T/3U/3V/3W/3X/3Y",
    "3Z/2SMALL A/3B/3C/3D/3E/3F/3G/3H/3I/3J/3K/3L/3M/3N/3O/3P/3Q/3R/3S/3T/3U/3V/3W/3X/3Y/3Z",
    "1ITALIC SMALL DOTLESS I/4J/#1d6a8/1BOLD CAPITAL ALPHA/3BETA/3GAMMA/3DELTA/3EPSILON/3ZETA",
    "3ETA/3THETA/3IOTA/3KAPPA/3LAMDA/3MU/3NU/3XI/3OMICRON/3PI/3RHO/3THETA SYMBOL/3SIGMA/3TAU",
    "3UPSILON/3PHI/3CHI/3PSI/3OMEGA/2NABLA/2SMALL ALPHA/3BETA/3GAMMA/3DELTA/3EPSILON/3ZETA/3ETA",
    "3THETA/3IOTA/3KAPPA/3LAMDA/3MU/3NU/3XI/3OMICRON/3PI/3RHO/3FINAL SIGMA/3SIGMA/3TAU/3UPSILON",
    "3PHI/3CHI/3PSI/3OMEGA/2PARTIAL DIFFERENTIAL/2EPSILON SYMBOL/2THETA SYMBOL/2KAPPA SYMBOL",
    "2PHI SYMBOL/2RHO SYMBOL/2PI SYMBOL/1ITALIC CAPITAL ALPHA/3BETA/3GAMMA/3DELTA/3EPSILON/3ZETA",
    "3ETA/3THETA/3IOTA/3KAPPA/3LAMDA/3MU/3NU/3XI/3OMICRON/3PI/3RHO/3THETA SYMBOL/3SIGMA/3TAU",
    "3UPSILON/3PHI/3CHI/3PSI/3OMEGA/2NABLA/2SMALL ALPHA/3BETA/3GAMMA/3DELTA/3EPSILON/3ZETA/3ETA",
    "3THETA/3IOTA/3KAPPA/3LAMDA/3MU/3NU/3XI/3OMICRON/3PI/3RHO/3FINAL SIGMA/3SIGMA/3TAU/3UPSILON",
    "3PHI/3CHI/3PSI/3OMEGA/2PARTIAL DIFFERENTIAL/2EPSILON SYMBOL/2THETA SYMBOL/2KAPPA SYMBOL",
    "2PHI SYMBOL/2RHO SYMBOL/2PI SYMBOL/1BOLD ITALIC CAPITAL ALPHA/4BETA/4GAMMA/4DELTA/4EPSILON",
    "4ZETA/4ETA/4THETA/4IOTA/4KAPPA/4LAMDA/4MU/4NU/4XI/4OMICRON/4PI/4RHO/4THETA SYMBOL/4SIGMA",
    "4TAU/4UPSILON/4PHI/4CHI/4PSI/4OMEGA/3NABLA/3SMALL ALPHA/4BETA/4GAMMA/4DELTA/4EPSILON/4ZETA",
    "4ETA/4THETA/4IOTA/4KAPPA/4LAMDA/4MU/4NU/4XI/4OMICRON/4PI/4RHO/4FINAL SIGMA/4SIGMA/4TAU",
    "4UPSILON/4PHI/4CHI/4PSI/4OMEGA/3PARTIAL DIFFERENTIAL/3EPSILON SYMBOL/3THETA SYMBOL",
    "3KAPPA SYMBOL/3PHI SYMBOL/3RHO SYMBOL/3PI SYMBOL/1SANS-SERIF BOLD CAPITAL ALPHA/4BETA/4GAMMA",
    "4DELTA/4EPSILON/4ZETA/4ETA/4THETA/4IOTA/4KAPPA/4LAMDA/4MU/4NU/4XI/4OMICRON/4PI/4RHO",
    "4THETA SYMBOL/4SIGMA/4TAU/4UPSILON/4PHI/4CHI/4PSI/4OMEGA/3NABLA/3SMALL ALPHA/4BETA/4GAMMA",
    "4DELTA/4EPSILON/4ZETA/4ETA/4THETA/4IOTA/4KAPPA/4LAMDA/4MU/4NU/4XI/4OMICRON/4PI/4RHO",
    "4FINAL SIGMA/4SIGMA/4TAU/4UPSILON/4PHI/4CHI/4PSI/4OMEGA/3PARTIAL DIFFERENTIAL",
    "3EPSILON SYMBOL/3THETA SYMBOL/3KAPPA SYMBOL/3PHI SYMBOL/3RHO SYMBOL/3PI SYMBOL",
    "3ITALIC CAPITAL ALPHA/5BETA/5GAMMA/5DELTA/5EPSILON/5ZETA/5ETA/5THETA/5IOTA/5KAPPA/5LAMDA/5MU",
    "5NU/5XI/5OMICRON/5PI/5RHO/5THETA SYMBOL/5SIGMA/5TAU/5UPSILON/5PHI/5CHI/5PSI/5OMEGA/4NABLA",
    "4SMALL ALPHA/5BETA/5GAMMA/5DELTA/5EPSILON/5ZETA/5ETA/5THETA/5IOTA/5KAPPA/5LAMDA/5MU/5NU/5XI",
    "5OMICRON/5PI/5RHO/5FINAL SIGMA/5SIGMA/5TAU/5UPSILON/5PHI/5CHI/5PSI/5OMEGA",
    "4PARTIAL DIFFERENTIAL/4EPSILON SYMBOL/4THETA SYMBOL/4KAPPA SYMBOL/4PHI SYMBOL/4RHO SYMBOL",
    "4PI SYMBOL/1BOLD CAPITAL DIGAMMA/2SMALL DIGAMMA/#1d7ce/2DIGIT ZERO/3ONE/3TWO/3THREE/3FOUR",
    "3FIVE/3SIX/3SEVEN/3EIGHT/3NINE/1DOUBLE-STRUCK DIGIT ZERO/3ONE/3TWO/3THREE/3FOUR/3FIVE/3SIX",
    "3SEVEN/3EIGHT/3NINE/1SANS-SERIF DIGIT ZERO/3ONE/3TWO/3THREE/3FOUR/3FIVE/3SIX/3SEVEN/3EIGHT",
    "3NINE/2BOLD DIGIT ZERO/4ONE/4TWO/4THREE/4FOUR/4FIVE/4SIX/4SEVEN/4EIGHT/4NINE",
    "1MONOSPACE DIGIT ZERO/3ONE/3TWO/3THREE/3FOUR/3FIVE/3SIX/3SEVEN/3EIGHT/3NINE"]

end GeneticRepair.Text
