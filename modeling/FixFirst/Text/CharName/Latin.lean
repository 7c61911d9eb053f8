import FixFirst.Text.CharName.Group

/-!
# Names of the Latin script

The names of the characters for the Latin script and the phonetic alphabets, for punctuation and
controls, and for marks that combine with letters.
-/

namespace FixFirst.Text

/-- Names of the Latin script. -/
def latinNames : List NameGroup := [
  ⟨"", "
    NUL; NULL; SOH; STX; ETX; EOT; ENQ; ENQUIRY; ACK; ACKNOWLEDGE; ALERT; BEL; BACKSPACE; BS;
    CHARACTER TABULATION; HORIZONTAL TABULATION; HT; TAB; EOL; LF; LINE FEED; NEW LINE; NL;
    LINE TABULATION; VT; FF; FORM FEED; CARRIAGE RETURN; CR; SHIFT OUT; SO; SHIFT IN; SI;
    DATA LINK ESCAPE; DLE; DC1; DC2; DC3; DC4; NAK; NEGATIVE ACKNOWLEDGE; SYN; SYNCHRONOUS IDLE;
    ETB; CAN; CANCEL; EOM; SUB; SUBSTITUTE; ESC; ESCAPE; FILE SEPARATOR; FS; GROUP SEPARATOR; GS;
    RECORD SEPARATOR; RS; UNIT SEPARATOR; US; SP; SPACE; EXCLAMATION MARK; QUOTATION MARK;
    NUMBER SIGN; DOLLAR SIGN; PERCENT SIGN; AMPERSAND; APOSTROPHE; LEFT PARENTHESIS; ASTERISK;
    PLUS SIGN; COMMA; HYPHEN-MINUS; FULL STOP; SOLIDUS; COLON; SEMICOLON; LESS-THAN SIGN;
    EQUALS SIGN; GREATER-THAN SIGN; QUESTION MARK; COMMERCIAL AT; LEFT SQUARE BRACKET;
    CIRCUMFLEX ACCENT; LOW LINE; GRAVE ACCENT; LEFT CURLY BRACKET; TILDE; DEL; DELETE; PAD;
    PADDING CHARACTER; HIGH OCTET PRESET; HOP; BPH; BREAK PERMITTED HERE; NBH; NO BREAK HERE; IND;
    INDEX; NEL; NEXT LINE; SSA; ESA; HTS; HTJ; LINE TABULATION SET; VTS; PLD; PLU; RI;
    SINGLE-SHIFT-2; SS2; SINGLE-SHIFT-3; SS3; DCS; PU1; PU2; SET TRANSMIT STATE; STS;
    CANCEL CHARACTER; CCH; MESSAGE WAITING; MW; SPA; EPA; SOS; SGC; SCI;
    CONTROL SEQUENCE INTRODUCER; CSI; ST; STRING TERMINATOR; OPERATING SYSTEM COMMAND; OSC; PM;
    PRIVACY MESSAGE; APC; APPLICATION PROGRAM COMMAND; NBSP; NO-BREAK SPACE;
    INVERTED EXCLAMATION MARK; CENT SIGN; POUND SIGN; CURRENCY SIGN; YEN SIGN; BROKEN BAR;
    SECTION SIGN; DIAERESIS; COPYRIGHT SIGN; FEMININE ORDINAL INDICATOR;
    LEFT-POINTING DOUBLE ANGLE QUOTATION MARK; NOT SIGN; SHY; SOFT HYPHEN; REGISTERED SIGN; MACRON;
    DEGREE SIGN; PLUS-MINUS SIGN; ACUTE ACCENT; MICRO SIGN; PILCROW SIGN; MIDDLE DOT; CEDILLA;
    MASCULINE ORDINAL INDICATOR; RIGHT-POINTING DOUBLE ANGLE QUOTATION MARK; INVERTED QUESTION MARK;
    MULTIPLICATION SIGN; DIVISION SIGN; CARON; BREVE; DOT ABOVE; RING ABOVE; OGONEK; SMALL TILDE;
    DOUBLE ACUTE ACCENT; CGJ; CYRILLIC LETTER SMALL CAPITAL EL;
    MODIFIER BREVE WITH INVERTED BREVE"⟩,
  ⟨"START OF", "HEADING; TEXT; SELECTED AREA; GUARDED AREA; PROTECTED AREA; STRING"⟩,
  ⟨"END OF", "
    TEXT; TRANSMISSION; LINE; TRANSMISSION BLOCK; MEDIUM; SELECTED AREA; GUARDED AREA;
    PROTECTED AREA"⟩,
  ⟨"VERTICAL", "TABULATION; LINE; TABULATION SET"⟩,
  ⟨"LOCKING-SHIFT", "ONE; ZERO"⟩,
  ⟨"DEVICE CONTROL", "ONE; TWO; THREE; FOUR; STRING"⟩,
  ⟨"INFORMATION SEPARATOR", "FOUR; THREE; TWO; ONE"⟩,
  ⟨"RIGHT", "PARENTHESIS; SQUARE BRACKET; CURLY BRACKET"⟩,
  ⟨"DIGIT", "ZERO; ONE; TWO; THREE; FOUR; FIVE; SIX; SEVEN; EIGHT; NINE"⟩,
  ⟨"LATIN CAPITAL LETTER, LATIN SMALL LETTER, MODIFIER LETTER SMALL", "
    A; B; C; D; E; F; G; H; J; K; L; M; O; P; Q; R; S; T; U; V; W; X; Y; Z; AE; ETH; ENG; OPEN O;
    SCHWA; OPEN E; GAMMA; IOTA; ESH; UPSILON; EZH; U BAR; ALPHA; HENG; SCRIPT G;
    J WITH CROSSED-TAIL; CHI; BETA"⟩,
  ⟨"LATIN CAPITAL LETTER, LATIN SMALL LETTER", "
    I; N; THORN; J WITH CIRCUMFLEX; TONE SIX; F WITH HOOK; GHA; OI; TONE TWO; EZH REVERSED;
    TONE FIVE; DZ WITH CARON; LJ; NJ; AE WITH MACRON; DZ; AE WITH ACUTE; YOGH; OU; GLOTTAL STOP;
    J WITH STROKE; F WITH DOT ABOVE; SHARP S; MIDDLE-WELSH LL; MIDDLE-WELSH V; HALF H;
    EGYPTOLOGICAL ALEF; EGYPTOLOGICAL AIN; TZ; TRESILLO; CUATRILLO; CUATRILLO WITH COMMA; AA; AO;
    AU; AV; AV WITH HORIZONTAL BAR; AY; BROKEN L; OO; Q WITH STROKE THROUGH DESCENDER;
    Q WITH DIAGONAL STROKE; R ROTUNDA; RUM ROTUNDA; VY; VISIGOTHIC Z; THORN WITH STROKE;
    THORN WITH STROKE THROUGH DESCENDER; VEND; ET; IS; CON; SALTILLO; F WITH STROKE; VOLAPUK AE;
    VOLAPUK OE; VOLAPUK UE; OMEGA; GLOTTAL A; GLOTTAL I; GLOTTAL U; OLD POLISH O; ANGLICANA W;
    CLOSED INSULAR G; MIDDLE SCOTS S; SIGMOID S"⟩,
  ⟨"REVERSE", "SOLIDUS; INDEX; LINE FEED"⟩,
  ⟨"CHARACTER TABULATION, HORIZONTAL TABULATION", "SET; WITH JUSTIFICATION"⟩,
  ⟨"PARTIAL LINE", "DOWN; FORWARD; BACKWARD; UP"⟩,
  ⟨"SINGLE", "SHIFT TWO; SHIFT THREE; GRAPHIC CHARACTER INTRODUCER; CHARACTER INTRODUCER"⟩,
  ⟨"PRIVATE", "USE ONE; USE-1; USE TWO; USE-2"⟩,
  ⟨"SUPERSCRIPT", "TWO; THREE; ONE"⟩,
  ⟨"VULGAR FRACTION", "ONE QUARTER; ONE HALF; THREE QUARTERS"⟩,
  ⟨"LATIN CAPITAL LETTER A WITH, LATIN SMALL LETTER A WITH", "
    GRAVE; ACUTE; CIRCUMFLEX; TILDE; DIAERESIS; RING ABOVE; MACRON; BREVE; OGONEK; CARON;
    DIAERESIS AND MACRON; DOT ABOVE AND MACRON; RING ABOVE AND ACUTE; DOUBLE GRAVE; INVERTED BREVE;
    DOT ABOVE; STROKE; RING BELOW; DOT BELOW; HOOK ABOVE"⟩,
  ⟨"LATIN CAPITAL LETTER C WITH, LATIN SMALL LETTER C WITH", "
    CEDILLA; ACUTE; CIRCUMFLEX; DOT ABOVE; CARON; HOOK; STROKE; CEDILLA AND ACUTE; BAR;
    PALATAL HOOK"⟩,
  ⟨"LATIN CAPITAL LETTER E WITH, LATIN CAPITAL LETTER I WITH, LATIN SMALL LETTER E WITH,
    LATIN SMALL LETTER I WITH", "
    GRAVE; ACUTE; CIRCUMFLEX; DIAERESIS; MACRON; BREVE; OGONEK; CARON; DOUBLE GRAVE; INVERTED BREVE;
    STROKE; TILDE BELOW; DOT BELOW; HOOK ABOVE; TILDE"⟩,
  ⟨"LATIN CAPITAL LETTER N WITH, LATIN SMALL LETTER N WITH", "
    TILDE; ACUTE; CEDILLA; CARON; LEFT HOOK; GRAVE; LONG RIGHT LEG; DOT ABOVE; DOT BELOW;
    LINE BELOW; CIRCUMFLEX BELOW; DESCENDER; OBLIQUE STROKE"⟩,
  ⟨"LATIN CAPITAL LETTER O WITH, LATIN CAPITAL LETTER U WITH, LATIN SMALL LETTER O WITH,
    LATIN SMALL LETTER U WITH", "
    GRAVE; ACUTE; CIRCUMFLEX; TILDE; DIAERESIS; STROKE; MACRON; BREVE; DOUBLE ACUTE; HORN; CARON;
    OGONEK; DOUBLE GRAVE; INVERTED BREVE; TILDE AND ACUTE; DOT BELOW; HOOK ABOVE; HORN AND ACUTE;
    HORN AND GRAVE; HORN AND HOOK ABOVE; HORN AND TILDE; HORN AND DOT BELOW"⟩,
  ⟨"LATIN CAPITAL LETTER Y WITH, LATIN SMALL LETTER Y WITH", "
    ACUTE; CIRCUMFLEX; DIAERESIS; HOOK; MACRON; STROKE; DOT ABOVE; GRAVE; DOT BELOW; HOOK ABOVE;
    TILDE; LOOP"⟩,
  ⟨"LATIN CAPITAL LETTER D WITH, LATIN SMALL LETTER D WITH", "
    CARON; STROKE; HOOK; TOPBAR; DOT ABOVE; DOT BELOW; LINE BELOW; CEDILLA; CIRCUMFLEX BELOW;
    SHORT STROKE OVERLAY"⟩,
  ⟨"LATIN CAPITAL LETTER E WITH, LATIN SMALL LETTER E WITH", "
    DOT ABOVE; CEDILLA; MACRON AND GRAVE; MACRON AND ACUTE; CIRCUMFLEX BELOW; CEDILLA AND BREVE"⟩,
  ⟨"LATIN CAPITAL LETTER G WITH, LATIN SMALL LETTER G WITH", "
    CIRCUMFLEX; BREVE; DOT ABOVE; CEDILLA; HOOK; STROKE; CARON; ACUTE; MACRON; OBLIQUE STROKE"⟩,
  ⟨"LATIN CAPITAL LETTER H WITH, LATIN SMALL LETTER H WITH", "
    CIRCUMFLEX; STROKE; CARON; DOT ABOVE; DOT BELOW; DIAERESIS; CEDILLA; BREVE BELOW; DESCENDER;
    HOOK"⟩,
  ⟨"LATIN CAPITAL LETTER I WITH", "DOT ABOVE"⟩,
  ⟨"LATIN SMALL LETTER", "
    DOTLESS I; KRA; N PRECEDED BY APOSTROPHE; LONG S; HV; LAMBDA WITH STROKE; J WITH CARON;
    DOTLESS J; DB DIGRAPH; QP DIGRAPH; Q WITH HOOK TAIL; SCHWA WITH HOOK; SQUAT REVERSED ESH;
    CLOSED OPEN E; Q WITH HOOK; UE; F WITH MIDDLE TILDE; TH WITH STRIKETHROUGH; IOTA WITH STROKE;
    UPSILON WITH STROKE; F WITH PALATAL HOOK; ALPHA WITH RETROFLEX HOOK; OPEN E WITH RETROFLEX HOOK;
    SCHWA WITH RETROFLEX HOOK; OPEN O WITH RETROFLEX HOOK; LONG S WITH DOT ABOVE;
    LONG S WITH DIAGONAL STROKE; LONG S WITH HIGH STROKE; TAILLESS PHI; DUM; LUM; MUM; NUM; RUM;
    TUM; UM; DOUBLE THORN; DOUBLE WYNN; BARRED ALPHA; A REVERSED-SCHWA; BLACKLETTER E; BARRED E;
    LENIS F; SCRIPT G WITH CROSSED-TAIL; ENG WITH CROSSED-TAIL; BLACKLETTER O;
    BLACKLETTER O WITH STROKE; OPEN O WITH STROKE; INVERTED OE; STIRRUP R; R WITHOUT HANDLE;
    DOUBLE R; DOUBLE R WITH CROSSED-TAIL; SCRIPT R; SCRIPT R WITH RING; BASELINE ESH;
    U BAR WITH SHORT RIGHT LEG; UI; CHI WITH LOW RIGHT RING; CHI WITH LOW LEFT SERIF; SAKHA YAT;
    IOTIFIED E; OPEN OE; UO; INVERTED ALPHA; FENG DIGRAPH WITH TRILL;
    DEZH DIGRAPH WITH PALATAL HOOK; ENG WITH PALATAL HOOK; TESH DIGRAPH WITH PALATAL HOOK;
    DEZH DIGRAPH WITH RETROFLEX HOOK; TESH DIGRAPH WITH RETROFLEX HOOK"⟩,
  ⟨"LATIN CAPITAL LIGATURE", "IJ; OE"⟩,
  ⟨"LATIN SMALL LIGATURE", "IJ; OE; FF; FI; FL; FFI; FFL; LONG S T; ST"⟩,
  ⟨"LATIN CAPITAL LETTER K WITH, LATIN SMALL LETTER K WITH", "
    CEDILLA; HOOK; CARON; ACUTE; DOT BELOW; LINE BELOW; DESCENDER; STROKE; DIAGONAL STROKE;
    STROKE AND DIAGONAL STROKE; OBLIQUE STROKE"⟩,
  ⟨"LATIN CAPITAL LETTER L WITH, LATIN SMALL LETTER L WITH", "
    ACUTE; CEDILLA; CARON; MIDDLE DOT; STROKE; BAR; DOT BELOW; DOT BELOW AND MACRON; LINE BELOW;
    CIRCUMFLEX BELOW; DOUBLE BAR; MIDDLE TILDE; HIGH STROKE; BELT"⟩,
  ⟨"LATIN CAPITAL LETTER R WITH, LATIN SMALL LETTER R WITH", "
    ACUTE; CEDILLA; CARON; DOUBLE GRAVE; INVERTED BREVE; STROKE; DOT ABOVE; DOT BELOW;
    DOT BELOW AND MACRON; LINE BELOW; TAIL; OBLIQUE STROKE"⟩,
  ⟨"LATIN CAPITAL LETTER S WITH, LATIN SMALL LETTER S WITH", "
    ACUTE; CIRCUMFLEX; CEDILLA; CARON; COMMA BELOW; DOT ABOVE; DOT BELOW; ACUTE AND DOT ABOVE;
    CARON AND DOT ABOVE; DOT BELOW AND DOT ABOVE; SWASH TAIL; OBLIQUE STROKE; HOOK;
    SHORT STROKE OVERLAY"⟩,
  ⟨"LATIN CAPITAL LETTER T WITH, LATIN SMALL LETTER T WITH", "
    CEDILLA; CARON; STROKE; HOOK; RETROFLEX HOOK; COMMA BELOW; DIAGONAL STROKE; DOT ABOVE;
    DOT BELOW; LINE BELOW; CIRCUMFLEX BELOW"⟩,
  ⟨"LATIN CAPITAL LETTER U WITH, LATIN SMALL LETTER U WITH", "
    RING ABOVE; DIAERESIS BELOW; TILDE BELOW; CIRCUMFLEX BELOW; MACRON AND DIAERESIS"⟩,
  ⟨"LATIN CAPITAL LETTER W WITH, LATIN SMALL LETTER W WITH", "
    CIRCUMFLEX; GRAVE; ACUTE; DIAERESIS; DOT ABOVE; DOT BELOW; HOOK"⟩,
  ⟨"LATIN CAPITAL LETTER Z WITH, LATIN SMALL LETTER Z WITH", "
    ACUTE; DOT ABOVE; CARON; STROKE; HOOK; CIRCUMFLEX; DOT BELOW; LINE BELOW; DESCENDER; SWASH TAIL;
    PALATAL HOOK"⟩,
  ⟨"LATIN SMALL LETTER B WITH, LATIN CAPITAL LETTER B WITH", "
    STROKE; TOPBAR; HOOK; DOT ABOVE; DOT BELOW; LINE BELOW; FLOURISH"⟩,
  ⟨"LATIN CAPITAL LETTER", "
    AFRICAN D; REVERSED E; V WITH HOOK; EZH WITH CARON; HWAIR; WYNN; SMALL Q WITH HOOK TAIL;
    M WITH ACUTE; M WITH DOT ABOVE; M WITH DOT BELOW; V WITH TILDE; V WITH DOT BELOW;
    X WITH DOT ABOVE; X WITH DIAERESIS; M WITH HOOK; REVERSED C WITH DOT; V WITH DIAGONAL STROKE;
    REVERSED OPEN E; SMALL CAPITAL I; REVERSED HALF H"⟩,
  ⟨"LATIN SMALL LETTER TURNED", "
    DELTA; E; T; K; H WITH FISHHOOK; H WITH FISHHOOK AND TAIL; OE; G; R WITH TAIL; INSULAR G; L;
    OE WITH STROKE; OE WITH HORIZONTAL STROKE; O OPEN-O; O OPEN-O WITH STROKE; UI;
    R WITH MIDDLE TILDE; T WITH CURL; R WITH PALATAL HOOK"⟩,
  ⟨"LATIN CAPITAL LETTER TURNED", "M; V; A; ALPHA; INSULAR G; L; H; K; T"⟩,
  ⟨"LATIN CAPITAL LETTER O WITH", "MIDDLE TILDE"⟩,
  ⟨"LATIN CAPITAL LETTER P WITH, LATIN SMALL LETTER P WITH", "
    HOOK; ACUTE; DOT ABOVE; STROKE; STROKE THROUGH DESCENDER; FLOURISH; SQUIRREL TAIL"⟩,
  ⟨"LATIN LETTER", "
    YR; REVERSED ESH LOOP; TWO WITH STROKE; WYNN; RETROFLEX CLICK; PHARYNGEAL VOICED FRICATIVE;
    STRETCHED C; BILABIAL PERCUSSIVE; BIDENTAL PERCUSSIVE; VOICED LARYNGEAL SPIRANT; AIN;
    SINOLOGICAL DOT; STRETCHED C WITH CURL"⟩,
  ⟨"LATIN SMALL LETTER T WITH", "
    PALATAL HOOK; CURL; MIDDLE TILDE; DIAERESIS; HOOK AND RETROFLEX HOOK"⟩,
  ⟨"LATIN SMALL LETTER EZH WITH", "TAIL; CARON; CURL; RETROFLEX HOOK; PALATAL HOOK"⟩,
  ⟨"LATIN LETTER INVERTED GLOTTAL", "STOP WITH STROKE; STOP; STOP WITH CURL"⟩,
  ⟨"LATIN LETTER, MODIFIER LETTER", "
    DENTAL CLICK; LATERAL CLICK; ALVEOLAR CLICK; GLOTTAL STOP; BILABIAL CLICK;
    GLOTTAL STOP WITH STROKE; REVERSED GLOTTAL STOP WITH STROKE;
    RETROFLEX CLICK WITH RETROFLEX HOOK"⟩,
  ⟨"LATIN CAPITAL LETTER D WITH", "SMALL LETTER Z WITH CARON; SMALL LETTER Z"⟩,
  ⟨"LATIN CAPITAL LETTER L WITH", "SMALL LETTER J"⟩,
  ⟨"LATIN CAPITAL LETTER N WITH", "SMALL LETTER J"⟩,
  ⟨"LATIN CAPITAL LETTER U WITH DIAERESIS AND, LATIN SMALL LETTER U WITH DIAERESIS AND", "
    MACRON; ACUTE; CARON; GRAVE"⟩,
  ⟨"LATIN CAPITAL LETTER O WITH, LATIN SMALL LETTER O WITH", "
    OGONEK AND MACRON; STROKE AND ACUTE; DIAERESIS AND MACRON; TILDE AND MACRON; DOT ABOVE;
    DOT ABOVE AND MACRON; TILDE AND DIAERESIS; MACRON AND GRAVE; MACRON AND ACUTE;
    LONG STROKE OVERLAY; LOOP"⟩,
  ⟨"LATIN SMALL LETTER D WITH", "CURL; TAIL; MIDDLE TILDE; PALATAL HOOK; HOOK AND TAIL"⟩,
  ⟨"LATIN SMALL LETTER L WITH", "
    CURL; RETROFLEX HOOK; PALATAL HOOK; RETROFLEX HOOK AND BELT; INVERTED LAZY S;
    DOUBLE MIDDLE TILDE; MIDDLE RING; FISHHOOK; BELT AND PALATAL HOOK"⟩,
  ⟨"LATIN SMALL LETTER N WITH", "CURL; RETROFLEX HOOK; MIDDLE TILDE; PALATAL HOOK; CROSSED-TAIL"⟩,
  ⟨"LATIN SMALL LETTER TURNED, MODIFIER LETTER SMALL TURNED", "
    A; ALPHA; H; M; M WITH LONG LEG; R; R WITH LONG LEG; R WITH HOOK; V; W; Y; AE; OPEN E; I;
    Y WITH BELT; R WITH LONG LEG AND RETROFLEX HOOK"⟩,
  ⟨"LATIN SMALL LETTER C WITH", "CURL; RETROFLEX HOOK"⟩,
  ⟨"LATIN SMALL LETTER REVERSED", "
    E; OPEN E; OPEN E WITH HOOK; R WITH FISHHOOK; OPEN E WITH RETROFLEX HOOK; C WITH DOT; HALF H;
    SCRIPT G; K; ENG"⟩,
  ⟨"LATIN SMALL LETTER, MODIFIER LETTER SMALL", "
    CLOSED REVERSED OPEN E; DOTLESS J WITH STROKE; RAMS HORN; HENG WITH HOOK; LEZH; BARRED O;
    CLOSED OMEGA; PHI; DOTLESS J WITH STROKE AND HOOK; DZ DIGRAPH; DEZH DIGRAPH;
    DZ DIGRAPH WITH CURL; TS DIGRAPH; TESH DIGRAPH; TC DIGRAPH WITH CURL; FENG DIGRAPH; LS DIGRAPH;
    LZ DIGRAPH; TOP HALF O; BOTTOM HALF O; DELTA; DZ DIGRAPH WITH RETROFLEX HOOK;
    TS DIGRAPH WITH RETROFLEX HOOK; LEZH WITH RETROFLEX HOOK"⟩,
  ⟨"LATIN LETTER SMALL CAPITAL, MODIFIER LETTER CAPITAL", "
    G; I; N; R; B; H; L; A; AE; BARRED B; C; D; E; J; K; M; REVERSED N; O; OU; P; T; U; V; W; F;
    Q"⟩,
  ⟨"LATIN SMALL LETTER M WITH", "
    HOOK; MIDDLE TILDE; PALATAL HOOK; ACUTE; DOT ABOVE; DOT BELOW; CROSSED-TAIL"⟩,
  ⟨"LATIN LETTER SMALL CAPITAL", "
    OE; INVERTED R; Y; G WITH HOOK; ETH; L WITH STROKE; OPEN O; REVERSED R; TURNED R; Z; EZH;
    TURNED E; S; RUM; TURNED M; R WITH RIGHT LEG; TURNED G; L WITH BELT; TURNED K"⟩,
  ⟨"LATIN SMALL LETTER R WITH", "
    LONG LEG; FISHHOOK; MIDDLE TILDE; FISHHOOK AND MIDDLE TILDE; PALATAL HOOK; CROSSED-TAIL;
    FISHHOOK AND PALATAL HOOK"⟩,
  ⟨"LATIN SMALL LETTER ESH WITH", "
    CURL; PALATAL HOOK; RETROFLEX HOOK; DOUBLE BAR; DOUBLE BAR AND CURL"⟩,
  ⟨"LATIN SMALL LETTER V WITH", "
    HOOK; PALATAL HOOK; TILDE; DOT BELOW; RIGHT HOOK; CURL; DIAGONAL STROKE"⟩,
  ⟨"LATIN SMALL LETTER Z WITH", "RETROFLEX HOOK; CURL; MIDDLE TILDE"⟩,
  ⟨"MODIFIER LETTER SMALL", "
    H WITH HOOK; REVERSED GLOTTAL STOP; SIDEWAYS U; AIN; GREEK GAMMA; GREEK PHI; C WITH CURL;
    REVERSED OPEN E; I WITH STROKE; M WITH HOOK; N WITH LEFT HOOK; N WITH RETROFLEX HOOK;
    S WITH HOOK; T WITH PALATAL HOOK; V WITH HOOK; Z WITH RETROFLEX HOOK; Z WITH CURL; THETA;
    LIGATURE OE; U WITH LEFT HOOK; B WITH HOOK; D WITH TAIL; D WITH HOOK; D WITH HOOK AND TAIL;
    REVERSED E; G WITH HOOK; H WITH STROKE; O WITH STROKE; R WITH TAIL; R WITH FISHHOOK;
    T WITH RETROFLEX HOOK; V WITH RIGHT HOOK; S WITH CURL"⟩,
  ⟨"MODIFIER LETTER SMALL CAPITAL", "
    INVERTED R; I; I WITH STROKE; L; N; U; AA; B; G; G WITH HOOK; H; L WITH BELT; OE; R; Y"⟩,
  ⟨"MODIFIER LETTER", "
    PRIME; DOUBLE PRIME; TURNED COMMA; APOSTROPHE; REVERSED COMMA; RIGHT HALF RING; LEFT HALF RING;
    REVERSED GLOTTAL STOP; TRIANGULAR COLON; HALF TRIANGULAR COLON; CENTRED RIGHT HALF RING;
    CENTRED LEFT HALF RING; UP TACK; DOWN TACK; PLUS SIGN; MINUS SIGN; RHOTIC HOOK; CROSS ACCENT;
    HIGH TONE BAR; MID TONE BAR; YIN DEPARTING TONE MARK; YANG DEPARTING TONE MARK; VOICING;
    UNASPIRATED; DOUBLE APOSTROPHE; MIDDLE GRAVE ACCENT; MIDDLE DOUBLE GRAVE ACCENT;
    MIDDLE DOUBLE ACUTE ACCENT; BEGIN HIGH TONE; END HIGH TONE; BEGIN LOW TONE; END LOW TONE; SHELF;
    OPEN SHELF; CYRILLIC EN; HIGH DOTTED TONE BAR; MID DOTTED TONE BAR;
    HIGH DOTTED LEFT-STEM TONE BAR; MID DOTTED LEFT-STEM TONE BAR; HIGH LEFT-STEM TONE BAR;
    MID LEFT-STEM TONE BAR; DOT VERTICAL BAR; DOT SLASH; DOT HORIZONTAL BAR;
    LOWER RIGHT CORNER ANGLE; STRESS AND HIGH TONE; STRESS AND LOW TONE; US; COLON;
    SHORT EQUALS SIGN; LEFT TACK; RIGHT TACK; SUPERSCRIPT TRIANGULAR COLON;
    SUPERSCRIPT HALF TRIANGULAR COLON"⟩,
  ⟨"MODIFIER LETTER, MODIFIER LETTER LOW", "
    LEFT ARROWHEAD; RIGHT ARROWHEAD; UP ARROWHEAD; DOWN ARROWHEAD; CIRCUMFLEX ACCENT; VERTICAL LINE;
    MACRON; ACUTE ACCENT; GRAVE ACCENT"⟩,
  ⟨"MODIFIER LETTER EXTRA-HIGH, MODIFIER LETTER LOW, MODIFIER LETTER EXTRA-LOW", "
    TONE BAR; DOTTED TONE BAR; DOTTED LEFT-STEM TONE BAR; LEFT-STEM TONE BAR"⟩,
  ⟨"MODIFIER LETTER LOW", "RING; TILDE; LEFT ARROW; INVERTED EXCLAMATION MARK"⟩,
  ⟨"MODIFIER LETTER RAISED", "
    COLON; UP ARROW; DOWN ARROW; EXCLAMATION MARK; INVERTED EXCLAMATION MARK"⟩,
  ⟨"COMBINING, COMBINING DOUBLE", "
    GRAVE ACCENT; ACUTE ACCENT; TILDE; MACRON; OVERLINE; BREVE; VERTICAL LINE ABOVE;
    PLUS SIGN BELOW; RING BELOW; VERTICAL LINE BELOW; BREVE BELOW; LOW LINE; OPEN MARK BELOW;
    PLUS SIGN ABOVE"⟩,
  ⟨"COMBINING", "
    CIRCUMFLEX ACCENT; DOT ABOVE; DIAERESIS; HOOK ABOVE; RING ABOVE; CARON; CANDRABINDU;
    TURNED COMMA ABOVE; COMMA ABOVE; REVERSED COMMA ABOVE; COMMA ABOVE RIGHT; GRAVE ACCENT BELOW;
    ACUTE ACCENT BELOW; HORN; UP TACK BELOW; DOWN TACK BELOW; MINUS SIGN BELOW;
    PALATALIZED HOOK BELOW; RETROFLEX HOOK BELOW; DOT BELOW; DIAERESIS BELOW; COMMA BELOW; CEDILLA;
    OGONEK; BRIDGE BELOW; CARON BELOW; CIRCUMFLEX ACCENT BELOW; TILDE BELOW; TILDE OVERLAY;
    SHORT STROKE OVERLAY; LONG STROKE OVERLAY; SHORT SOLIDUS OVERLAY; LONG SOLIDUS OVERLAY;
    SQUARE BELOW; SEAGULL BELOW; X ABOVE; VERTICAL TILDE; GRAVE TONE MARK; ACUTE TONE MARK;
    GREEK PERISPOMENI; GREEK KORONIS; GREEK DIALYTIKA TONOS; GREEK YPOGEGRAMMENI; BRIDGE ABOVE;
    EQUALS SIGN BELOW; NOT TILDE ABOVE; HOMOTHETIC ABOVE; ALMOST EQUAL TO ABOVE;
    UPWARDS ARROW BELOW; GRAPHEME JOINER; FERMATA; X BELOW; DOT ABOVE RIGHT; ASTERISK BELOW;
    ZIGZAG ABOVE; DOUBLED CIRCUMFLEX ACCENT; DIAERESIS-RING; INFINITY; DOWNWARDS ARROW; TRIPLE DOT;
    X-X BELOW; WIGGLY LINE BELOW; LIGHT CENTRALIZATION STROKE BELOW;
    STRONG CENTRALIZATION STROKE BELOW; SQUARE BRACKETS ABOVE; NUMBER SIGN ABOVE;
    TRIPLE ACUTE ACCENT; DOTTED GRAVE ACCENT; DOTTED ACUTE ACCENT; SNAKE BELOW; SUSPENSION MARK;
    MACRON-ACUTE; GRAVE-MACRON; MACRON-GRAVE; ACUTE-MACRON; GRAVE-ACUTE-GRAVE; ACUTE-GRAVE-ACUTE;
    BREVE-MACRON; MACRON-BREVE; OGONEK ABOVE; ZIGZAG BELOW; IS BELOW; UR ABOVE; US ABOVE;
    UP TACK ABOVE; KAVYKA ABOVE RIGHT; KAVYKA ABOVE LEFT; DOT ABOVE LEFT;
    WIDE INVERTED BRIDGE BELOW; DOT BELOW LEFT; DELETION MARK; ALMOST EQUAL TO BELOW;
    LONG VERTICAL LINE OVERLAY; SHORT VERTICAL LINE OVERLAY; ANTICLOCKWISE ARROW ABOVE;
    CLOCKWISE ARROW ABOVE; RING OVERLAY; CLOCKWISE RING OVERLAY; ANTICLOCKWISE RING OVERLAY;
    THREE DOTS ABOVE; FOUR DOTS ABOVE; REVERSE SOLIDUS OVERLAY; ANNUITY SYMBOL; TRIPLE UNDERDOT;
    WIDE BRIDGE ABOVE; LEFTWARDS ARROW OVERLAY; LONG DOUBLE SOLIDUS OVERLAY;
    RIGHTWARDS HARPOON WITH BARB DOWNWARDS; LEFTWARDS HARPOON WITH BARB DOWNWARDS; ASTERISK ABOVE;
    CONJOINING MACRON; TILDE LEFT HALF BELOW; TILDE RIGHT HALF BELOW; CONJOINING MACRON BELOW;
    CYRILLIC TITLO LEFT HALF; CYRILLIC TITLO RIGHT HALF"⟩,
  ⟨"COMBINING INVERTED", "BREVE; DOUBLE ARCH BELOW; BREVE BELOW; BRIDGE BELOW; DOUBLE ARCH ABOVE"⟩,
  ⟨"COMBINING LEFT, COMBINING RIGHT", "
    TACK BELOW; HALF RING BELOW; HALF RING ABOVE; HARPOON ABOVE; ARROW ABOVE; ARROW BELOW"⟩,
  ⟨"COMBINING LEFT", "
    ANGLE ABOVE; ANGLE BELOW; RIGHT ARROW BELOW; ARROWHEAD BELOW; PARENTHESIS ABOVE LEFT;
    PARENTHESIS BELOW LEFT; ARROWHEAD ABOVE; RIGHT ARROW ABOVE"⟩,
  ⟨"COMBINING MACRON", "BELOW"⟩,
  ⟨"COMBINING RIGHT ARROWHEAD", "ABOVE; BELOW; AND UP ARROWHEAD BELOW; AND DOWN ARROWHEAD BELOW"⟩,
  ⟨"COMBINING DOUBLE", "
    MACRON BELOW; INVERTED BREVE; RIGHTWARDS ARROW BELOW; PARENTHESES ABOVE; CIRCUMFLEX ABOVE;
    INVERTED BREVE BELOW; VERTICAL STROKE OVERLAY; TILDE LEFT HALF; TILDE RIGHT HALF"⟩,
  ⟨"COMBINING LATIN SMALL LETTER", "
    A; E; I; O; U; C; D; H; M; R; T; V; X; W BELOW; TURNED W BELOW; INSULAR G; INSULAR R; INSULAR T;
    R BELOW; FLATTENED OPEN A ABOVE; AE; AO; AV; C CEDILLA; INSULAR D; ETH; G; K; L; N; R ROTUNDA;
    S; LONG S; Z; ALPHA; B; BETA; SCHWA; F; L WITH DOUBLE MIDDLE TILDE;
    O WITH LIGHT CENTRALIZATION STROKE; P; ESH; U WITH LIGHT CENTRALIZATION STROKE; W;
    A WITH DIAERESIS; O WITH DIAERESIS; U WITH DIAERESIS"⟩,
  ⟨"COMBINING PARENTHESES", "ABOVE; BELOW; OVERLAY"⟩,
  ⟨"COMBINING RIGHT", "PARENTHESIS ABOVE RIGHT; PARENTHESIS BELOW RIGHT"⟩,
  ⟨"LATIN SMALL LETTER SIDEWAYS", "O; OPEN O; O WITH STROKE; U; DIAERESIZED U; TURNED M"⟩,
  ⟨"GREEK LETTER SMALL CAPITAL", "GAMMA; LAMDA; PI; RHO; PSI; OMEGA"⟩,
  ⟨"MODIFIER LETTER CAPITAL", "REVERSED E; H WITH STROKE"⟩,
  ⟨"LATIN SUBSCRIPT SMALL LETTER", "I; R; U; V; J"⟩,
  ⟨"GREEK SUBSCRIPT SMALL LETTER", "BETA; GAMMA; RHO; PHI; CHI"⟩,
  ⟨"LATIN SMALL LETTER B WITH, LATIN SMALL LETTER P WITH", "MIDDLE TILDE; PALATAL HOOK"⟩,
  ⟨"LATIN SMALL LETTER S WITH", "MIDDLE TILDE; PALATAL HOOK; CURL"⟩,
  ⟨"LATIN SMALL LETTER INSULAR, LATIN CAPITAL LETTER INSULAR", "G; D; F; R; S; T"⟩,
  ⟨"LATIN SMALL CAPITAL LETTER", "I WITH STROKE; U WITH STROKE"⟩,
  ⟨"LATIN SMALL LETTER G WITH", "PALATAL HOOK"⟩,
  ⟨"LATIN SMALL LETTER K WITH", "PALATAL HOOK"⟩,
  ⟨"LATIN SMALL LETTER X WITH", "
    PALATAL HOOK; DOT ABOVE; DIAERESIS; LOW RIGHT RING; LONG LEFT LEG;
    LONG LEFT LEG AND LOW RIGHT RING; LONG LEFT LEG WITH SERIF"⟩,
  ⟨"LATIN SMALL LETTER A WITH", "RETROFLEX HOOK; RIGHT HALF RING"⟩,
  ⟨"LATIN SMALL LETTER E WITH", "RETROFLEX HOOK; NOTCH; FLOURISH"⟩,
  ⟨"LATIN SMALL LETTER I WITH", "RETROFLEX HOOK; STROKE AND RETROFLEX HOOK"⟩,
  ⟨"LATIN SMALL LETTER U WITH", "RETROFLEX HOOK; SHORT RIGHT LEG; LEFT HOOK"⟩,
  ⟨"MODIFIER LETTER SMALL L WITH", "
    RETROFLEX HOOK; PALATAL HOOK; INVERTED LAZY S; MIDDLE TILDE; BELT; RETROFLEX HOOK AND BELT"⟩,
  ⟨"COMBINING LATIN LETTER SMALL CAPITAL", "G; L; M; N; R"⟩,
  ⟨"LATIN CAPITAL LETTER I WITH, LATIN SMALL LETTER I WITH", "DIAERESIS AND ACUTE"⟩,
  ⟨"LATIN SMALL LETTER H WITH", "LINE BELOW; PALATAL HOOK"⟩,
  ⟨"LATIN SMALL LETTER W WITH", "RING ABOVE"⟩,
  ⟨"LATIN SMALL LETTER Y WITH", "RING ABOVE; SHORT RIGHT LEG"⟩,
  ⟨"LATIN CAPITAL LETTER A WITH CIRCUMFLEX AND, LATIN SMALL LETTER A WITH CIRCUMFLEX AND,
    LATIN CAPITAL LETTER A WITH BREVE AND, LATIN SMALL LETTER A WITH BREVE AND,
    LATIN CAPITAL LETTER E WITH CIRCUMFLEX AND, LATIN SMALL LETTER E WITH CIRCUMFLEX AND,
    LATIN CAPITAL LETTER O WITH CIRCUMFLEX AND, LATIN SMALL LETTER O WITH CIRCUMFLEX AND", "
    ACUTE; GRAVE; HOOK ABOVE; TILDE; DOT BELOW"⟩,
  ⟨"COMBINING ENCLOSING", "
    CIRCLE; SQUARE; DIAMOND; CIRCLE BACKSLASH; SCREEN; KEYCAP; UPWARD POINTING TRIANGLE"⟩,
  ⟨"LATIN SMALL LETTER O WITH", "LOW RING INSIDE; RETROFLEX HOOK"⟩,
  ⟨"MODIFIER LETTER CHINESE TONE", "
    YIN PING; YANG PING; YIN SHANG; YANG SHANG; YIN QU; YANG QU; YIN RU; YANG RU"⟩,
  ⟨"LATIN EPIGRAPHIC LETTER", "SIDEWAYS I; REVERSED F; REVERSED P; INVERTED M; I LONGA; ARCHAIC M"⟩,
  ⟨"COMBINING LIGATURE, COMBINING MACRON", "
    LEFT HALF; RIGHT HALF; LEFT HALF BELOW; RIGHT HALF BELOW"⟩]

end FixFirst.Text
