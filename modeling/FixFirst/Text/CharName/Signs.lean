import FixFirst.Text.CharName.Group

/-!
# Names of signs

The names of the characters for general punctuation, currencies, shapes, numbers in circles and
technical signs.
-/

namespace FixFirst.Text

/-- Names of signs. -/
def signNames : List NameGroup := [
  ⟨"", "
    EN QUAD; EM QUAD; EN SPACE; EM SPACE; THREE-PER-EM SPACE; FOUR-PER-EM SPACE; SIX-PER-EM SPACE;
    FIGURE SPACE; PUNCTUATION SPACE; THIN SPACE; HAIR SPACE; ZWSP; ZWNJ; ZWJ; LRM; RLM; HYPHEN;
    NON-BREAKING HYPHEN; FIGURE DASH; EN DASH; EM DASH; DAGGER; BULLET; TRIANGULAR BULLET;
    ONE DOT LEADER; HYPHENATION POINT; LINE SEPARATOR; PARAGRAPH SEPARATOR; LRE; RLE; PDF; LRO; RLO;
    NARROW NO-BREAK SPACE; NNBSP; PER MILLE SIGN; PER TEN THOUSAND SIGN; PRIME; TRIPLE PRIME; CARET;
    REFERENCE MARK; INTERROBANG; OVERLINE; UNDERTIE; CHARACTER TIE; CARET INSERTION POINT; ASTERISM;
    HYPHEN BULLET; FRACTION SLASH; QUESTION EXCLAMATION MARK; EXCLAMATION QUESTION MARK;
    LOW ASTERISK; CLOSE UP; COMMERCIAL MINUS SIGN; SWUNG DASH; FLOWER PUNCTUATION MARK;
    THREE DOT PUNCTUATION; QUADRUPLE PRIME; FIVE DOT PUNCTUATION; TRICOLON; MMSP; WJ; WORD JOINER;
    FUNCTION APPLICATION; LRI; RLI; FIRST STRONG ISOLATE; FSI; PDI; INHIBIT SYMMETRIC SWAPPING;
    ACTIVATE SYMMETRIC SWAPPING; INHIBIT ARABIC FORM SHAPING; ACTIVATE ARABIC FORM SHAPING;
    NATIONAL DIGIT SHAPES; NOMINAL DIGIT SHAPES; EURO-CURRENCY SIGN; COLON SIGN; CRUZEIRO SIGN;
    FRENCH FRANC SIGN; LIRA SIGN; MILL SIGN; NAIRA SIGN; PESETA SIGN; RUPEE SIGN; WON SIGN;
    NEW SHEQEL SIGN; DONG SIGN; EURO SIGN; KIP SIGN; TUGRIK SIGN; DRACHMA SIGN; GERMAN PENNY SIGN;
    PESO SIGN; GUARANI SIGN; AUSTRAL SIGN; HRYVNIA SIGN; CEDI SIGN; LIVRE TOURNOIS SIGN;
    SPESMILO SIGN; TENGE SIGN; INDIAN RUPEE SIGN; TURKISH LIRA SIGN; NORDIC MARK SIGN; MANAT SIGN;
    RUBLE SIGN; LARI SIGN; BITCOIN SIGN; SOM SIGN; ACCOUNT OF; ADDRESSED TO THE SUBJECT;
    DEGREE CELSIUS; CENTRE LINE SYMBOL; CARE OF; CADA UNA; EULER CONSTANT; SCRUPLE;
    DEGREE FAHRENHEIT; PLANCK CONSTANT; PLANCK CONSTANT OVER TWO PI; L B BAR SYMBOL; NUMERO SIGN;
    SOUND RECORDING COPYRIGHT; WEIERSTRASS ELLIPTIC FUNCTION; PRESCRIPTION TAKE; RESPONSE;
    SERVICE MARK; TRADE MARK SIGN; VERSICLE; OUNCE SIGN; OHM SIGN; KELVIN SIGN; ANGSTROM SIGN;
    ESTIMATED SYMBOL; ALEF SYMBOL; BET SYMBOL; GIMEL SYMBOL; DALET SYMBOL; INFORMATION SOURCE;
    FACSIMILE SIGN; PROPERTY LINE; PER SIGN; AKTIESELSKAB; FRACTION NUMERATOR ONE;
    LATIN SMALL LETTER REVERSED C; DIAMETER SIGN; ELECTRIC ARROW; HOUSE; UP ARROWHEAD;
    DOWN ARROWHEAD; PROJECTIVE; PERSPECTIVE; WAVY LINE; ARC; SEGMENT; SECTOR; POSITION INDICATOR;
    VIEWDATA SQUARE; PLACE OF INTEREST SIGN; WATCH; HOURGLASS; FROWN; SMILE;
    UP ARROWHEAD BETWEEN TWO HORIZONTAL BARS; OPTION KEY; X IN A RECTANGLE BOX; KEYBOARD;
    LEFT-POINTING ANGLE BRACKET; RIGHT-POINTING ANGLE BRACKET; BENZENE RING; CYLINDRICITY;
    ALL AROUND-PROFILE; SYMMETRY; TOTAL RUNOUT; DIMENSION ORIGIN; CONICAL TAPER; SLOPE; COUNTERBORE;
    COUNTERSINK; NOT CHECK MARK; SHOULDERED OPEN BOX; BELL SYMBOL; INSERTION SYMBOL;
    CONTINUOUS UNDERLINE SYMBOL; DISCONTINUOUS UNDERLINE SYMBOL; EMPHASIS SYMBOL;
    COMPOSITION SYMBOL; ENTER SYMBOL; ALTERNATIVE KEY SYMBOL; HELM SYMBOL;
    BROKEN CIRCLE WITH NORTHWEST ARROW; UNDO SYMBOL; MONOSTABLE SYMBOL; HYSTERESIS SYMBOL;
    PASSIVE-PULL-DOWN-OUTPUT SYMBOL; PASSIVE-PULL-UP-OUTPUT SYMBOL; DIRECT CURRENT SYMBOL FORM TWO;
    SOFTWARE-FUNCTION SYMBOL; DECIMAL SEPARATOR KEY SYMBOL; PREVIOUS PAGE; NEXT PAGE;
    PRINT SCREEN SYMBOL; CLEAR SCREEN SYMBOL; CURLY BRACKET EXTENSION; INTEGRAL EXTENSION;
    SUMMATION TOP; SUMMATION BOTTOM; RADICAL SYMBOL BOTTOM; RETURN SYMBOL; EJECT SYMBOL;
    EARTH GROUND; FUSE; BENZENE RING WITH CIRCLE; STRAIGHTNESS; FLATNESS; AC CURRENT;
    ELECTRICAL INTERSECTION; DECIMAL EXPONENT SYMBOL; ALARM CLOCK; STOPWATCH; TIMER CLOCK;
    HOURGLASS WITH FLOWING SAND; OBSERVER EYE SYMBOL; BLANK SYMBOL; OPEN BOX; MICR ON US SYMBOL;
    MICR DASH SYMBOL; NEGATIVE CIRCLED DIGIT ZERO; FULL BLOCK; DARK SHADE; FISHEYE; LOZENGE;
    BULLSEYE; INVERSE BULLET; INVERSE WHITE CIRCLE; LARGE CIRCLE; CLOUD; UMBRELLA; SNOWMAN; COMET;
    LIGHTNING; THUNDERSTORM; SUN; ASCENDING NODE; DESCENDING NODE; CONJUNCTION; OPPOSITION; SALTIRE;
    UMBRELLA WITH RAIN DROPS; HOT BEVERAGE; SHAMROCK; SKULL AND CROSSBONES; CAUTION SIGN;
    RADIOACTIVE SIGN; BIOHAZARD SIGN; CADUCEUS; ANKH; ORTHODOX CROSS; CHI RHO; STAR AND CRESCENT;
    FARSI SYMBOL; ADI SHAKTI; PEACE SYMBOL; YIN YANG; WHEEL OF DHARMA; FIRST QUARTER MOON;
    LAST QUARTER MOON; MERCURY; FEMALE SIGN; EARTH; MALE SIGN; JUPITER; SATURN; URANUS; NEPTUNE;
    PLUTO; ARIES; TAURUS; GEMINI; CANCER; LEO; VIRGO; LIBRA; SCORPIUS; SAGITTARIUS; CAPRICORN;
    AQUARIUS; PISCES; HOT SPRINGS; QUARTER NOTE; EIGHTH NOTE; BEAMED EIGHTH NOTES;
    BEAMED SIXTEENTH NOTES; WEST SYRIAC CROSS; EAST SYRIAC CROSS; UNIVERSAL RECYCLING SYMBOL;
    RECYCLED PAPER SYMBOL; PARTIALLY-RECYCLED PAPER SYMBOL; PERMANENT PAPER SIGN; WHEELCHAIR SYMBOL;
    ANCHOR; CROSSED SWORDS; STAFF OF AESCULAPIUS; SCALES; ALEMBIC; FLOWER; GEAR; STAFF OF HERMES;
    ATOM SYMBOL; FLEUR-DE-LIS; WARNING SIGN; HIGH VOLTAGE SIGN; DOUBLED FEMALE SIGN;
    DOUBLED MALE SIGN; INTERLOCKED FEMALE AND MALE SIGN; MALE AND FEMALE SIGN; MARRIAGE SYMBOL;
    DIVORCE SYMBOL; UNMARRIED PARTNERSHIP SYMBOL; COFFIN; FUNERAL URN; NEUTER; CERES; PALLAS; JUNO;
    VESTA; CHIRON; SEXTILE; SEMISEXTILE; QUINCUNX; SESQUIQUADRATE; SOCCER BALL; BASEBALL;
    SNOWMAN WITHOUT SNOW; SUN BEHIND CLOUD; RAIN; THUNDER CLOUD AND RAIN; CROSSING LANES;
    DISABLED CAR; OPHIUCHUS; PICK; CAR SLIDING; HELMET WITH WHITE CROSS; CHAINS; NO ENTRY;
    ALTERNATE ONE-WAY LEFT WAY TRAFFIC; DRIVE SLOW SIGN;
    FALLING DIAGONAL IN WHITE CIRCLE IN BLACK SQUARE; ASTRONOMICAL SYMBOL FOR URANUS; PENTAGRAM;
    RIGHT-HANDED INTERLACED PENTAGRAM; LEFT-HANDED INTERLACED PENTAGRAM; SHINTO SHRINE; CHURCH;
    CASTLE; HISTORIC SITE; GEAR WITHOUT HUB; GEAR WITH HANDLES; MAP SYMBOL FOR LIGHTHOUSE; MOUNTAIN;
    UMBRELLA ON GROUND; FOUNTAIN; FLAG IN HOLE; FERRY; SAILBOAT; SKIER; ICE SKATE; PERSON WITH BALL;
    TENT; JAPANESE BANK SYMBOL; HEADSTONE GRAVEYARD SYMBOL; FUEL PUMP; CUP ON BLACK SQUARE;
    TAPE DRIVE; AIRPLANE; ENVELOPE; VICTORY HAND; WRITING HAND; PENCIL; CHECK MARK;
    MULTIPLICATION X; LATIN CROSS; MALTESE CROSS; STAR OF DAVID; SPARKLES;
    STRESS OUTLINED WHITE STAR; PINWHEEL STAR; SIX POINTED BLACK STAR; TWELVE POINTED BLACK STAR;
    SIXTEEN POINTED ASTERISK; TEARDROP-SPOKED ASTERISK; SIX PETALLED BLACK AND WHITE FLORETTE;
    SNOWFLAKE; TIGHT TRIFOLIATE SNOWFLAKE; SPARKLE; BALLOON-SPOKED ASTERISK;
    CURVED STEM PARAGRAPH SIGN ORNAMENT; FLORAL HEART; DINGBAT CIRCLED SANS-SERIF NUMBER TEN;
    DRAFTING POINT RIGHTWARDS ARROW; TRIANGLE-HEADED RIGHTWARDS ARROW;
    DASHED TRIANGLE-HEADED RIGHTWARDS ARROW; THREE-D TOP-LIGHTED RIGHTWARDS ARROWHEAD;
    THREE-D BOTTOM-LIGHTED RIGHTWARDS ARROWHEAD; SQUAT BLACK RIGHTWARDS ARROW;
    RIGHT-SHADED WHITE RIGHTWARDS ARROW; LEFT-SHADED WHITE RIGHTWARDS ARROW;
    BACK-TILTED SHADOWED WHITE RIGHTWARDS ARROW; FRONT-TILTED SHADOWED WHITE RIGHTWARDS ARROW;
    NOTCHED LOWER RIGHT-SHADOWED WHITE RIGHTWARDS ARROW; CURLY LOOP;
    NOTCHED UPPER RIGHT-SHADOWED WHITE RIGHTWARDS ARROW; WHITE-FEATHERED RIGHTWARDS ARROW;
    TEARDROP-BARBED RIGHTWARDS ARROW; WEDGE-TAILED RIGHTWARDS ARROW; OPEN-OUTLINED RIGHTWARDS ARROW;
    BRAILLE PATTERN BLANK; EDITORIAL CORONIS; PARAGRAPHOS; FORKED PARAGRAPHOS; HYPODIASTOLE;
    DOWNWARDS ANCORA; UPWARDS ANCORA; PALM BRANCH; HYPHEN WITH DIAERESIS;
    ONE DOT OVER TWO DOTS PUNCTUATION; FIVE DOT MARK; RING POINT; WORD SEPARATOR MIDDLE DOT;
    TWO-EM DASH; THREE-EM DASH; STENOGRAPHIC FULL STOP; WIGGLY VERTICAL LINE; CAPITULUM;
    DASH WITH LEFT UPTURN; LOW KAVYKA; LOW KAVYKA WITH DOT; TRIPLE DAGGER; PARAGRAPHUS MARK;
    PUNCTUS ELEVATUS MARK; CORNISH VERSE DIVIDER; OBLIQUE HYPHEN; OBJECT REPLACEMENT CHARACTER;
    REPLACEMENT CHARACTER; TORTOISE SHELL BRACKETED LATIN CAPITAL LETTER S; COPYLEFT SYMBOL;
    CROSSED NEGATIVE SQUARED LATIN CAPITAL LETTER P; MASK WORK SYMBOL; LANGUAGE TAG; CANCEL TAG"⟩,
  ⟨"ZERO WIDTH", "SPACE; NON-JOINER; JOINER"⟩,
  ⟨"LEFT-TO-RIGHT, RIGHT-TO-LEFT", "MARK; EMBEDDING; OVERRIDE; ISOLATE"⟩,
  ⟨"HORIZONTAL", "
    BAR; ELLIPSIS; LINE EXTENSION; SCAN LINE-1; SCAN LINE-3; SCAN LINE-7; SCAN LINE-9;
    MALE WITH STROKE SIGN"⟩,
  ⟨"DOUBLE, TAG", "VERTICAL LINE; LOW LINE; EXCLAMATION MARK; QUESTION MARK"⟩,
  ⟨"LEFT, RIGHT", "
    SINGLE QUOTATION MARK; DOUBLE QUOTATION MARK; CEILING; FLOOR; VERTICAL BOX LINE; HALF BLOCK;
    ONE EIGHTH BLOCK; HALF BLACK CIRCLE; SUBSTITUTION BRACKET; DOTTED SUBSTITUTION BRACKET;
    TRANSPOSITION BRACKET; RAISED OMISSION BRACKET; LOW PARAPHRASE BRACKET; VERTICAL BAR WITH QUILL;
    SIDEWAYS U BRACKET; DOUBLE PARENTHESIS"⟩,
  ⟨"SINGLE, DOUBLE", "LOW-9 QUOTATION MARK; HIGH-REVERSED-9 QUOTATION MARK"⟩,
  ⟨"DOUBLE", "
    DAGGER; PRIME; VERTICAL BAR; CIRCLED NUMBER TEN; CURLY LOOP; OBLIQUE HYPHEN; HYPHEN;
    LOW-REVERSED-9 QUOTATION MARK; SUSPENSION MARK; STACKED COMMA"⟩,
  ⟨"TWO", "
    DOT LEADER; ASTERISKS ALIGNED VERTICALLY; DOT PUNCTUATION; DOTS OVER ONE DOT PUNCTUATION"⟩,
  ⟨"POP DIRECTIONAL", "FORMATTING; ISOLATE"⟩,
  ⟨"REVERSED", "
    PRIME; DOUBLE PRIME; TRIPLE PRIME; PILCROW SIGN; SEMICOLON; SANS-SERIF CAPITAL L; NOT SIGN;
    ROTATED FLORAL HEART BULLET; FORKED PARAGRAPHOS; QUESTION MARK; COMMA"⟩,
  ⟨"SINGLE", "LEFT-POINTING ANGLE QUOTATION MARK; RIGHT-POINTING ANGLE QUOTATION MARK"⟩,
  ⟨"LEFT SQUARE BRACKET, RIGHT SQUARE BRACKET", "
    WITH QUILL; UPPER CORNER; EXTENSION; LOWER CORNER; WITH STROKE; WITH DOUBLE STROKE"⟩,
  ⟨"TIRONIAN SIGN", "ET; CAPITAL ET"⟩,
  ⟨"BLACK", "
    LEFTWARDS BULLET; SQUARE FOR STOP; CIRCLE FOR RECORD; LOWER RIGHT TRIANGLE; LOWER LEFT TRIANGLE;
    UPPER LEFT TRIANGLE; UPPER RIGHT TRIANGLE; UNIVERSAL RECYCLING SYMBOL;
    CIRCLE WITH WHITE DOT RIGHT; CIRCLE WITH TWO WHITE DOTS; MOON LILITH; SNOWMAN; TRUCK;
    CROSS ON SHIELD; SAFETY SCISSORS; CENTRE WHITE STAR; DIAMOND MINUS WHITE X"⟩,
  ⟨"BLACK RIGHTWARDS", "BULLET; ARROW; ARROWHEAD"⟩,
  ⟨"INVERTED", "
    UNDERTIE; OHM SIGN; PENTAGRAM; INTERROBANG; LOW KAVYKA; LOW KAVYKA WITH KAVYKA ABOVE"⟩,
  ⟨"FOUR", "
    DOT PUNCTUATION; DOT MARK; TEARDROP-SPOKED ASTERISK; BALLOON-SPOKED ASTERISK;
    CLUB-SPOKED ASTERISK"⟩,
  ⟨"DOTTED", "CROSS; CIRCLE; TRANSPOSITION MARKER; OBELOS; RIGHT-POINTING ANGLE; SOLIDUS"⟩,
  ⟨"VERTICAL", "
    FOUR DOTS; LINE WITH MIDDLE DOT; LINE EXTENSION; MALE WITH STROKE SIGN; TILDE; SIX DOTS"⟩,
  ⟨"MEDIUM", "
    MATHEMATICAL SPACE; SHADE; WHITE CIRCLE; BLACK CIRCLE; SMALL WHITE CIRCLE; VERTICAL BAR;
    LEFT PARENTHESIS ORNAMENT; RIGHT PARENTHESIS ORNAMENT; FLATTENED LEFT PARENTHESIS ORNAMENT;
    FLATTENED RIGHT PARENTHESIS ORNAMENT; LEFT-POINTING ANGLE BRACKET ORNAMENT;
    RIGHT-POINTING ANGLE BRACKET ORNAMENT; LEFT CURLY BRACKET ORNAMENT;
    RIGHT CURLY BRACKET ORNAMENT"⟩,
  ⟨"INVISIBLE", "TIMES; SEPARATOR; PLUS"⟩,
  ⟨"SUPERSCRIPT, SUBSCRIPT", "
    ZERO; FOUR; FIVE; SIX; SEVEN; EIGHT; NINE; PLUS SIGN; MINUS; EQUALS SIGN; LEFT PARENTHESIS;
    RIGHT PARENTHESIS"⟩,
  ⟨"SUPERSCRIPT", "LATIN SMALL LETTER I; LATIN SMALL LETTER N"⟩,
  ⟨"SUBSCRIPT", "ONE; TWO; THREE"⟩,
  ⟨"LATIN SUBSCRIPT SMALL LETTER", "A; E; O; X; SCHWA; H; K; L; M; N; P; S; T"⟩,
  ⟨"DOUBLE-STRUCK CAPITAL", "C; H; N; P; Q; R; Z; GAMMA; PI"⟩,
  ⟨"SCRIPT SMALL", "G; L; E; O"⟩,
  ⟨"SCRIPT CAPITAL", "H; I; L; P; R; B; E; F; M"⟩,
  ⟨"BLACK-LETTER CAPITAL", "H; I; R; Z; C"⟩,
  ⟨"TELEPHONE", "SIGN; RECORDER; LOCATION SIGN"⟩,
  ⟨"TURNED", "
    GREEK SMALL LETTER IOTA; CAPITAL F; AMPERSAND; SMALL F; DIGIT TWO; DIGIT THREE; NOT SIGN;
    WHITE SHOGI PIECE; BLACK SHOGI PIECE; COMMA; SEMICOLON; DAGGER"⟩,
  ⟨"ROTATED", "CAPITAL Q; HEAVY BLACK HEART BULLET; FLORAL HEART BULLET"⟩,
  ⟨"DOUBLE-STRUCK", "SMALL PI; SMALL GAMMA; N-ARY SUMMATION; ITALIC CAPITAL D"⟩,
  ⟨"TURNED SANS-SERIF CAPITAL", "G; L; Y"⟩,
  ⟨"DOUBLE-STRUCK ITALIC SMALL", "D; E; I; J"⟩,
  ⟨"SYMBOL FOR", "
    SAMARITAN SOURCE; NULL; START OF HEADING; START OF TEXT; END OF TEXT; END OF TRANSMISSION;
    ENQUIRY; ACKNOWLEDGE; BELL; BACKSPACE; HORIZONTAL TABULATION; LINE FEED; VERTICAL TABULATION;
    FORM FEED; CARRIAGE RETURN; SHIFT OUT; SHIFT IN; DATA LINK ESCAPE; NEGATIVE ACKNOWLEDGE;
    SYNCHRONOUS IDLE; END OF TRANSMISSION BLOCK; CANCEL; END OF MEDIUM; SUBSTITUTE; ESCAPE;
    FILE SEPARATOR; GROUP SEPARATOR; RECORD SEPARATOR; UNIT SEPARATOR; SPACE; DELETE; NEWLINE;
    DELETE FORM TWO; SUBSTITUTE FORM TWO"⟩,
  ⟨"VULGAR FRACTION", "
    ONE SEVENTH; ONE NINTH; ONE TENTH; ONE THIRD; TWO THIRDS; ONE FIFTH; TWO FIFTHS; THREE FIFTHS;
    FOUR FIFTHS; ONE SIXTH; FIVE SIXTHS; ONE EIGHTH; THREE EIGHTHS; FIVE EIGHTHS; SEVEN EIGHTHS;
    ZERO THIRDS"⟩,
  ⟨"ROMAN NUMERAL, SMALL ROMAN NUMERAL", "
    ONE; TWO; THREE; FOUR; FIVE; SIX; SEVEN; EIGHT; NINE; TEN; ELEVEN; TWELVE; FIFTY; ONE HUNDRED;
    FIVE HUNDRED; ONE THOUSAND"⟩,
  ⟨"ROMAN NUMERAL", "
    ONE THOUSAND C D; FIVE THOUSAND; TEN THOUSAND; REVERSED ONE HUNDRED; SIX LATE FORM;
    FIFTY EARLY FORM; FIFTY THOUSAND; ONE HUNDRED THOUSAND"⟩,
  ⟨"BOTTOM, TOP", "
    RIGHT CROP; LEFT CROP; LEFT CORNER; RIGHT CORNER; SQUARE BRACKET; PARENTHESIS; CURLY BRACKET;
    TORTOISE SHELL BRACKET; LEFT HALF BRACKET; RIGHT HALF BRACKET"⟩,
  ⟨"SQUARE", "LOZENGE; FOOT; FOUR CORNERS; DJ"⟩,
  ⟨"TOP HALF", "INTEGRAL; SECTION SIGN; LEFT PARENTHESIS; RIGHT PARENTHESIS"⟩,
  ⟨"BOTTOM", "
    HALF INTEGRAL; SQUARE BRACKET OVER TOP SQUARE BRACKET; HALF LEFT PARENTHESIS;
    HALF RIGHT PARENTHESIS"⟩,
  ⟨"ERASE TO THE, QUADRANT LOWER, QUADRANT UPPER LEFT AND UPPER RIGHT AND LOWER,
    THREE LINES CONVERGING", "
    RIGHT; LEFT"⟩,
  ⟨"APL FUNCTIONAL SYMBOL", "
    I-BEAM; SQUISH QUAD; SLASH BAR; BACKSLASH BAR; LEFTWARDS VANE; RIGHTWARDS VANE;
    DOWN TACK UNDERBAR; DELTA STILE; DOWN TACK JOT; UPWARDS VANE; UP TACK OVERBAR; DEL STILE;
    UP TACK JOT; DOWNWARDS VANE; QUOTE UNDERBAR; DELTA UNDERBAR; DIAMOND UNDERBAR; JOT UNDERBAR;
    UP SHOE JOT; QUOTE QUAD; UP TACK DIAERESIS; DEL DIAERESIS; STAR DIAERESIS; JOT DIAERESIS;
    DOWN SHOE STILE; LEFT SHOE STILE; TILDE DIAERESIS; GREATER-THAN DIAERESIS; COMMA BAR; DEL TILDE;
    ZILDE; STILE TILDE; SEMICOLON UNDERBAR; DOWN CARET TILDE; UP CARET TILDE; IOTA; RHO; OMEGA;
    ALPHA UNDERBAR; EPSILON UNDERBAR; IOTA UNDERBAR; OMEGA UNDERBAR; ALPHA; QUAD"⟩,
  ⟨"APL FUNCTIONAL SYMBOL QUAD", "
    EQUAL; DIVIDE; DIAMOND; JOT; CIRCLE; SLASH; BACKSLASH; LESS-THAN; GREATER-THAN; LEFTWARDS ARROW;
    RIGHTWARDS ARROW; DOWN CARET; DELTA; UPWARDS ARROW; UP CARET; DEL; DOWNWARDS ARROW; COLON;
    NOT EQUAL; QUESTION"⟩,
  ⟨"APL FUNCTIONAL SYMBOL CIRCLE", "STILE; JOT; BACKSLASH; UNDERBAR; STAR; DIAERESIS"⟩,
  ⟨"RIGHT", "
    ANGLE WITH DOWNWARDS ZIGZAG ARROW; ANGLE SUBSTITUTION MARKER;
    ANGLE DOTTED SUBSTITUTION MARKER"⟩,
  ⟨"WHITE SQUARE WITH", "CENTRE VERTICAL LINE; ROUNDED CORNERS; VERTICAL BISECTING LINE"⟩,
  ⟨"CIRCLED", "
    HORIZONTAL BAR WITH NOTCH; TRIANGLE DOWN; CROSSING LANES; WHITE STAR;
    OPEN CENTRE EIGHT POINTED STAR; HEAVY WHITE RIGHTWARDS ARROW; ZERO WITH SLASH;
    ANTICLOCKWISE ARROW; DOLLAR SIGN WITH OVERLAID BACKSLASH; CD; WZ; CC; C WITH OVERLAID BACKSLASH;
    HUMAN FIGURE"⟩,
  ⟨"OPEN-CIRCUIT-OUTPUT", "H-TYPE SYMBOL; L-TYPE SYMBOL"⟩,
  ⟨"LEFT PARENTHESIS, RIGHT PARENTHESIS", "UPPER HOOK; EXTENSION; LOWER HOOK"⟩,
  ⟨"LEFT CURLY BRACKET, RIGHT CURLY BRACKET", "UPPER HOOK; MIDDLE PIECE; LOWER HOOK"⟩,
  ⟨"UPPER", "LEFT OR LOWER RIGHT CURLY BRACKET SECTION"⟩,
  ⟨"UPPER RIGHT", "OR LOWER LEFT CURLY BRACKET SECTION"⟩,
  ⟨"DENTISTRY SYMBOL LIGHT VERTICAL", "
    AND TOP RIGHT; AND BOTTOM RIGHT; WITH CIRCLE; WITH TRIANGLE; AND WAVE; AND TOP LEFT;
    AND BOTTOM LEFT"⟩,
  ⟨"DENTISTRY SYMBOL LIGHT DOWN AND HORIZONTAL WITH,
    DENTISTRY SYMBOL LIGHT UP AND HORIZONTAL WITH", "
    CIRCLE; TRIANGLE; WAVE"⟩,
  ⟨"DENTISTRY SYMBOL LIGHT", "DOWN AND HORIZONTAL; UP AND HORIZONTAL"⟩,
  ⟨"METRICAL", "
    BREVE; LONG OVER SHORT; SHORT OVER LONG; LONG OVER TWO SHORTS; TWO SHORTS OVER LONG;
    TWO SHORTS JOINED; TRISEME; TETRASEME; PENTASEME"⟩,
  ⟨"WHITE", "
    TRAPEZIUM; SQUARE CONTAINING BLACK SMALL SQUARE; DOWN-POINTING TRIANGLE;
    DOWN-POINTING SMALL TRIANGLE; DIAMOND CONTAINING BLACK SMALL DIAMOND; BULLET; MEDIUM SQUARE;
    MEDIUM SMALL SQUARE; UP POINTING INDEX; DOWN POINTING INDEX; FROWNING FACE; DIAMOND IN SQUARE;
    FLAG WITH HORIZONTAL MIDDLE BLACK STRIPE; HEAVY CHECK MARK; EXCLAMATION MARK ORNAMENT"⟩,
  ⟨"BLACK RIGHT-POINTING, BLACK LEFT-POINTING", "
    DOUBLE TRIANGLE; DOUBLE TRIANGLE WITH VERTICAL BAR; TRIANGLE; SMALL TRIANGLE; POINTER"⟩,
  ⟨"BLACK UP-POINTING, BLACK DOWN-POINTING", "DOUBLE TRIANGLE; TRIANGLE; SMALL TRIANGLE"⟩,
  ⟨"BLACK RIGHT-POINTING", "TRIANGLE WITH DOUBLE VERTICAL BAR"⟩,
  ⟨"BLACK MEDIUM", "
    LEFT-POINTING TRIANGLE; RIGHT-POINTING TRIANGLE; UP-POINTING TRIANGLE; DOWN-POINTING TRIANGLE;
    SQUARE; SMALL SQUARE"⟩,
  ⟨"POWER", "SYMBOL; ON-OFF SYMBOL; ON SYMBOL; SLEEP SYMBOL"⟩,
  ⟨"SYMBOL FOR DEVICE CONTROL", "ONE; TWO; THREE; FOUR"⟩,
  ⟨"OCR", "
    HOOK; CHAIR; FORK; INVERTED FORK; BELT BUCKLE; BOW TIE; BRANCH BANK IDENTIFICATION;
    AMOUNT OF CHECK; DASH; CUSTOMER ACCOUNT NUMBER; DOUBLE BACKSLASH"⟩,
  ⟨"CIRCLED DIGIT, DINGBAT CIRCLED SANS-SERIF DIGIT, DINGBAT NEGATIVE CIRCLED SANS-SERIF DIGIT,
    TAG DIGIT", "
    ONE; TWO; THREE; FOUR; FIVE; SIX; SEVEN; EIGHT; NINE; ZERO"⟩,
  ⟨"CIRCLED NUMBER, PARENTHESIZED NUMBER", "TEN"⟩,
  ⟨"CIRCLED NUMBER, PARENTHESIZED NUMBER, NEGATIVE CIRCLED NUMBER", "
    ELEVEN; TWELVE; THIRTEEN; FOURTEEN; FIFTEEN; SIXTEEN; SEVENTEEN; EIGHTEEN; NINETEEN; TWENTY"⟩,
  ⟨"PARENTHESIZED DIGIT, DOUBLE CIRCLED DIGIT, DINGBAT NEGATIVE CIRCLED DIGIT", "
    ONE; TWO; THREE; FOUR; FIVE; SIX; SEVEN; EIGHT; NINE"⟩,
  ⟨"DIGIT", "
    ONE FULL STOP; TWO FULL STOP; THREE FULL STOP; FOUR FULL STOP; FIVE FULL STOP; SIX FULL STOP;
    SEVEN FULL STOP; EIGHT FULL STOP; NINE FULL STOP; ZERO FULL STOP; ZERO COMMA; ONE COMMA;
    TWO COMMA; THREE COMMA; FOUR COMMA; FIVE COMMA; SIX COMMA; SEVEN COMMA; EIGHT COMMA;
    NINE COMMA"⟩,
  ⟨"NUMBER", "
    TEN FULL STOP; ELEVEN FULL STOP; TWELVE FULL STOP; THIRTEEN FULL STOP; FOURTEEN FULL STOP;
    FIFTEEN FULL STOP; SIXTEEN FULL STOP; SEVENTEEN FULL STOP; EIGHTEEN FULL STOP;
    NINETEEN FULL STOP; TWENTY FULL STOP"⟩,
  ⟨"PARENTHESIZED LATIN SMALL LETTER, CIRCLED LATIN CAPITAL LETTER, CIRCLED LATIN SMALL LETTER,
    PARENTHESIZED LATIN CAPITAL LETTER, SQUARED LATIN CAPITAL LETTER,
    NEGATIVE CIRCLED LATIN CAPITAL LETTER, NEGATIVE SQUARED LATIN CAPITAL LETTER,
    REGIONAL INDICATOR SYMBOL LETTER, TAG LATIN CAPITAL LETTER, TAG LATIN SMALL LETTER", "
    A; B; C; D; E; F; G; H; I; J; K; L; M; N; O; P; Q; R; S; T; U; V; W; X; Y; Z"⟩,
  ⟨"BOX DRAWINGS LIGHT, BOX DRAWINGS HEAVY, BOX DRAWINGS DOUBLE", "
    HORIZONTAL; VERTICAL; DOWN AND RIGHT; DOWN AND LEFT; UP AND RIGHT; UP AND LEFT;
    VERTICAL AND RIGHT; VERTICAL AND LEFT; DOWN AND HORIZONTAL; UP AND HORIZONTAL;
    VERTICAL AND HORIZONTAL"⟩,
  ⟨"BOX DRAWINGS LIGHT, BOX DRAWINGS HEAVY", "
    TRIPLE DASH HORIZONTAL; TRIPLE DASH VERTICAL; QUADRUPLE DASH HORIZONTAL;
    QUADRUPLE DASH VERTICAL; DOUBLE DASH HORIZONTAL; DOUBLE DASH VERTICAL; LEFT; UP; RIGHT; DOWN"⟩,
  ⟨"BOX DRAWINGS DOWN LIGHT AND", "
    RIGHT HEAVY; LEFT HEAVY; RIGHT UP HEAVY; LEFT UP HEAVY; HORIZONTAL HEAVY; UP HORIZONTAL HEAVY"⟩,
  ⟨"BOX DRAWINGS DOWN HEAVY AND", "
    RIGHT LIGHT; LEFT LIGHT; RIGHT UP LIGHT; LEFT UP LIGHT; HORIZONTAL LIGHT; UP HORIZONTAL LIGHT"⟩,
  ⟨"BOX DRAWINGS UP LIGHT AND", "
    RIGHT HEAVY; LEFT HEAVY; RIGHT DOWN HEAVY; LEFT DOWN HEAVY; HORIZONTAL HEAVY;
    DOWN HORIZONTAL HEAVY"⟩,
  ⟨"BOX DRAWINGS UP HEAVY AND", "
    RIGHT LIGHT; LEFT LIGHT; RIGHT DOWN LIGHT; LEFT DOWN LIGHT; HORIZONTAL LIGHT;
    DOWN HORIZONTAL LIGHT"⟩,
  ⟨"BOX DRAWINGS VERTICAL", "
    LIGHT AND RIGHT HEAVY; HEAVY AND RIGHT LIGHT; LIGHT AND LEFT HEAVY; HEAVY AND LEFT LIGHT;
    LIGHT AND HORIZONTAL HEAVY; HEAVY AND HORIZONTAL LIGHT; SINGLE AND RIGHT DOUBLE;
    DOUBLE AND RIGHT SINGLE; SINGLE AND LEFT DOUBLE; DOUBLE AND LEFT SINGLE;
    SINGLE AND HORIZONTAL DOUBLE; DOUBLE AND HORIZONTAL SINGLE"⟩,
  ⟨"BOX DRAWINGS LEFT HEAVY AND RIGHT, BOX DRAWINGS RIGHT HEAVY AND LEFT", "
    DOWN LIGHT; UP LIGHT; VERTICAL LIGHT"⟩,
  ⟨"BOX DRAWINGS RIGHT LIGHT AND LEFT, BOX DRAWINGS LEFT LIGHT AND RIGHT", "
    DOWN HEAVY; UP HEAVY; VERTICAL HEAVY"⟩,
  ⟨"BOX DRAWINGS", "
    LEFT UP HEAVY AND RIGHT DOWN LIGHT; RIGHT UP HEAVY AND LEFT DOWN LIGHT;
    LEFT DOWN HEAVY AND RIGHT UP LIGHT; RIGHT DOWN HEAVY AND LEFT UP LIGHT"⟩,
  ⟨"BOX DRAWINGS DOWN SINGLE AND, BOX DRAWINGS UP SINGLE AND", "
    RIGHT DOUBLE; LEFT DOUBLE; HORIZONTAL DOUBLE"⟩,
  ⟨"BOX DRAWINGS DOWN DOUBLE AND, BOX DRAWINGS UP DOUBLE AND", "
    RIGHT SINGLE; LEFT SINGLE; HORIZONTAL SINGLE"⟩,
  ⟨"BOX DRAWINGS LIGHT", "
    ARC DOWN AND RIGHT; ARC DOWN AND LEFT; ARC UP AND LEFT; ARC UP AND RIGHT;
    DIAGONAL UPPER RIGHT TO LOWER LEFT; DIAGONAL UPPER LEFT TO LOWER RIGHT; DIAGONAL CROSS;
    LEFT AND HEAVY RIGHT; UP AND HEAVY DOWN"⟩,
  ⟨"BOX DRAWINGS HEAVY", "LEFT AND LIGHT RIGHT; UP AND LIGHT DOWN"⟩,
  ⟨"UPPER, LOWER", "
    HALF BLOCK; ONE EIGHTH BLOCK; HALF INVERSE WHITE CIRCLE; LEFT QUADRANT CIRCULAR ARC;
    HALF CIRCLE; LEFT TRIANGLE; BLADE SCISSORS"⟩,
  ⟨"LOWER, LEFT", "
    ONE QUARTER BLOCK; THREE EIGHTHS BLOCK; FIVE EIGHTHS BLOCK; THREE QUARTERS BLOCK;
    SEVEN EIGHTHS BLOCK"⟩,
  ⟨"LIGHT", "
    SHADE; VERTICAL BAR; LEFT TORTOISE SHELL BRACKET ORNAMENT;
    RIGHT TORTOISE SHELL BRACKET ORNAMENT"⟩,
  ⟨"QUADRANT UPPER", "
    LEFT; LEFT AND LOWER LEFT AND LOWER RIGHT; LEFT AND LOWER RIGHT; RIGHT; RIGHT AND LOWER LEFT;
    RIGHT AND LOWER LEFT AND LOWER RIGHT"⟩,
  ⟨"BLACK, WHITE", "
    SQUARE; SMALL SQUARE; RECTANGLE; VERTICAL RECTANGLE; PARALLELOGRAM; DIAMOND; CIRCLE;
    SUN WITH RAYS; STAR; TELEPHONE; SHOGI PIECE; LEFT POINTING INDEX; RIGHT POINTING INDEX;
    SMILING FACE; SPADE SUIT; CLUB SUIT; HEART SUIT; DIAMOND SUIT; FLAG; DRAUGHTS MAN;
    DRAUGHTS KING; TWO-WAY LEFT WAY TRAFFIC; LEFT LANE MERGE; SCISSORS; NIB; FOUR POINTED STAR;
    FLORETTE; QUESTION MARK ORNAMENT"⟩,
  ⟨"SQUARE WITH", "
    HORIZONTAL FILL; VERTICAL FILL; ORTHOGONAL CROSSHATCH FILL; UPPER LEFT TO LOWER RIGHT FILL;
    UPPER RIGHT TO LOWER LEFT FILL; DIAGONAL CROSSHATCH FILL; LEFT HALF BLACK; RIGHT HALF BLACK;
    UPPER LEFT DIAGONAL HALF BLACK; LOWER RIGHT DIAGONAL HALF BLACK"⟩,
  ⟨"WHITE UP-POINTING", "TRIANGLE; SMALL TRIANGLE; TRIANGLE WITH DOT"⟩,
  ⟨"WHITE RIGHT-POINTING, WHITE LEFT-POINTING", "TRIANGLE; SMALL TRIANGLE; POINTER"⟩,
  ⟨"CIRCLE WITH", "
    VERTICAL FILL; LEFT HALF BLACK; RIGHT HALF BLACK; LOWER HALF BLACK; UPPER HALF BLACK;
    UPPER RIGHT QUADRANT BLACK; ALL BUT UPPER LEFT QUADRANT BLACK"⟩,
  ⟨"UPPER RIGHT, LOWER RIGHT", "
    QUADRANT CIRCULAR ARC; TRIANGLE; PENCIL; DROP-SHADOWED WHITE SQUARE; SHADOWED WHITE SQUARE"⟩,
  ⟨"UP-POINTING TRIANGLE WITH", "LEFT HALF BLACK; RIGHT HALF BLACK"⟩,
  ⟨"WHITE SQUARE WITH, WHITE CIRCLE WITH", "
    UPPER LEFT QUADRANT; LOWER LEFT QUADRANT; LOWER RIGHT QUADRANT; UPPER RIGHT QUADRANT"⟩,
  ⟨"BALLOT", "BOX; BOX WITH CHECK; BOX WITH X; X"⟩,
  ⟨"CROSS", "OF LORRAINE; OF JERUSALEM; MARK; PATTY WITH RIGHT CROSSBAR; PATTY WITH LEFT CROSSBAR"⟩,
  ⟨"HAMMER AND", "SICKLE; PICK"⟩,
  ⟨"TRIGRAM FOR", "HEAVEN; LAKE; FIRE; THUNDER; WIND; WATER; MOUNTAIN; EARTH"⟩,
  ⟨"WHITE CHESS, BLACK CHESS", "KING; QUEEN; ROOK; BISHOP; KNIGHT; PAWN"⟩,
  ⟨"MUSIC", "FLAT SIGN; NATURAL SIGN; SHARP SIGN"⟩,
  ⟨"RECYCLING SYMBOL FOR", "
    TYPE-1 PLASTICS; TYPE-2 PLASTICS; TYPE-3 PLASTICS; TYPE-4 PLASTICS; TYPE-5 PLASTICS;
    TYPE-6 PLASTICS; TYPE-7 PLASTICS; GENERIC MATERIALS"⟩,
  ⟨"DIE", "FACE-1; FACE-2; FACE-3; FACE-4; FACE-5; FACE-6"⟩,
  ⟨"WHITE CIRCLE WITH", "DOT RIGHT; TWO DOTS"⟩,
  ⟨"MONOGRAM FOR", "YANG; YIN"⟩,
  ⟨"DIGRAM FOR", "GREATER YANG; LESSER YIN; LESSER YANG; GREATER YIN"⟩,
  ⟨"OUTLINED", "WHITE STAR; GREEK CROSS; LATIN CROSS; BLACK STAR"⟩,
  ⟨"MALE WITH STROKE", "SIGN; AND MALE AND FEMALE SIGN"⟩,
  ⟨"SQUARED", "
    KEY; SALTIRE; FOUR DOT PUNCTUATION; HV; MV; SD; SS; PPV; WC; CL; COOL; FREE; ID; NEW; NG; OK;
    SOS; UP WITH EXCLAMATION MARK; VS; THREE D; SECOND SCREEN; TWO K; FOUR K; EIGHT K;
    FIVE POINT ONE; SEVEN POINT ONE; TWENTY-TWO POINT TWO; SIXTY P; ONE HUNDRED TWENTY P;
    LATIN SMALL LETTER D; HC; HDR; HI-RES; LOSSLESS; SHV; UHD; VOD"⟩,
  ⟨"HEAVY", "
    WHITE DOWN-POINTING TRIANGLE; CIRCLE WITH STROKE AND TWO DOTS ABOVE; CHECK MARK;
    MULTIPLICATION X; BALLOT X; GREEK CROSS; OPEN CENTRE CROSS; FOUR BALLOON-SPOKED ASTERISK;
    OUTLINED BLACK STAR; ASTERISK; EIGHT POINTED RECTILINEAR BLACK STAR; TEARDROP-SPOKED ASTERISK;
    TEARDROP-SPOKED PINWHEEL ASTERISK; CHEVRON SNOWFLAKE; SPARKLE;
    EIGHT TEARDROP-SPOKED PROPELLER ASTERISK; VERTICAL BAR;
    SINGLE TURNED COMMA QUOTATION MARK ORNAMENT; SINGLE COMMA QUOTATION MARK ORNAMENT;
    DOUBLE TURNED COMMA QUOTATION MARK ORNAMENT; DOUBLE COMMA QUOTATION MARK ORNAMENT;
    LOW SINGLE COMMA QUOTATION MARK ORNAMENT; LOW DOUBLE COMMA QUOTATION MARK ORNAMENT;
    HEART EXCLAMATION MARK ORNAMENT; BLACK HEART; WIDE-HEADED RIGHTWARDS ARROW; PLUS SIGN;
    MINUS SIGN; DIVISION SIGN; ROUND-TIPPED RIGHTWARDS ARROW; TRIANGLE-HEADED RIGHTWARDS ARROW;
    DASHED TRIANGLE-HEADED RIGHTWARDS ARROW; BLACK CURVED DOWNWARDS AND RIGHTWARDS ARROW;
    BLACK CURVED UPWARDS AND RIGHTWARDS ARROW; CONCAVE-POINTED BLACK RIGHTWARDS ARROW;
    LOWER RIGHT-SHADOWED WHITE RIGHTWARDS ARROW; UPPER RIGHT-SHADOWED WHITE RIGHTWARDS ARROW;
    TEARDROP-SHANKED RIGHTWARDS ARROW; WEDGE-TAILED RIGHTWARDS ARROW"⟩,
  ⟨"LEFT", "CLOSED ENTRY"⟩,
  ⟨"RESTRICTED LEFT", "ENTRY-1; ENTRY-2"⟩,
  ⟨"RAISED", "
    FIST; HAND; INTERPOLATION MARKER; DOTTED INTERPOLATION MARKER; SQUARE; DOT; COMMA; MC SIGN;
    MD SIGN; MR SIGN"⟩,
  ⟨"OPEN CENTRE", "CROSS; BLACK STAR; ASTERISK; TEARDROP-SPOKED ASTERISK"⟩,
  ⟨"SHADOWED WHITE", "LATIN CROSS; STAR; CIRCLE"⟩,
  ⟨"EIGHT", "
    SPOKED ASTERISK; POINTED BLACK STAR; POINTED PINWHEEL STAR; POINTED RECTILINEAR BLACK STAR;
    PETALLED OUTLINED BLACK FLORETTE; TEARDROP-SPOKED PROPELLER ASTERISK"⟩,
  ⟨"NEGATIVE SQUARED", "CROSS MARK; IC; PA; SA; AB; WC"⟩,
  ⟨"HEAVY EXCLAMATION MARK", "SYMBOL; ORNAMENT"⟩,
  ⟨"HEAVY LEFT-POINTING ANGLE, HEAVY RIGHT-POINTING ANGLE", "
    QUOTATION MARK ORNAMENT; BRACKET ORNAMENT"⟩,
  ⟨"DINGBAT NEGATIVE CIRCLED", "NUMBER TEN; SANS-SERIF NUMBER TEN"⟩,
  ⟨"HEAVY, BLACK-FEATHERED, HEAVY BLACK-FEATHERED", "
    SOUTH EAST ARROW; RIGHTWARDS ARROW; NORTH EAST ARROW"⟩,
  ⟨"TILDE WITH", "RING ABOVE; DOT ABOVE; DOT BELOW"⟩,
  ⟨"DAGGER WITH", "LEFT GUARD; RIGHT GUARD"⟩,
  ⟨"MEDIEVAL", "COMMA; EXCLAMATION MARK; QUESTION MARK"⟩,
  ⟨"INTERLINEAR ANNOTATION", "ANCHOR; SEPARATOR; TERMINATOR"⟩,
  ⟨"CIRCLED ITALIC LATIN CAPITAL LETTER", "C; R"⟩,
  ⟨"TAG", "
    SPACE; QUOTATION MARK; NUMBER SIGN; DOLLAR SIGN; PERCENT SIGN; AMPERSAND; APOSTROPHE;
    LEFT PARENTHESIS; RIGHT PARENTHESIS; ASTERISK; PLUS SIGN; COMMA; HYPHEN-MINUS; FULL STOP;
    SOLIDUS; COLON; SEMICOLON; LESS-THAN SIGN; EQUALS SIGN; GREATER-THAN SIGN; COMMERCIAL AT;
    LEFT SQUARE BRACKET; REVERSE SOLIDUS; RIGHT SQUARE BRACKET; CIRCUMFLEX ACCENT; GRAVE ACCENT;
    LEFT CURLY BRACKET; RIGHT CURLY BRACKET; TILDE"⟩]

end FixFirst.Text
