import FixFirst.Text.CharName.Group

/-!
# Names of mathematics

The names of the characters for arrows, operators and the letters of formulas.
-/

namespace FixFirst.Text

/-- Names of mathematics. -/
def mathematicalNames : List NameGroup := [
  ⟨"LEFTWARDS, UPWARDS, RIGHTWARDS, DOWNWARDS", "
    ARROW; TWO HEADED ARROW; PAIRED ARROWS; TRIPLE ARROW; DASHED ARROW; WHITE ARROW; BLACK ARROW;
    QUADRUPLE ARROW; BLACK CIRCLED WHITE ARROW"⟩,
  ⟨"LEFT RIGHT, UP DOWN", "ARROW; DOUBLE ARROW; WHITE ARROW; BLACK ARROW; TRIANGLE-HEADED ARROW"⟩,
  ⟨"NORTH WEST, NORTH EAST, SOUTH EAST, SOUTH WEST", "
    ARROW; DOUBLE ARROW; WHITE ARROW; BLACK ARROW; TRIANGLE-HEADED ARROW;
    TRIANGLE-HEADED ARROW TO BAR"⟩,
  ⟨"LEFTWARDS ARROW WITH, RIGHTWARDS ARROW WITH", "
    STROKE; TAIL; HOOK; LOOP; VERTICAL STROKE; DOUBLE VERTICAL STROKE; PLUS BELOW; TIP DOWNWARDS;
    TIP UPWARDS; DOTTED STEM; TAIL WITH VERTICAL STROKE; TAIL WITH DOUBLE VERTICAL STROKE"⟩,
  ⟨"LEFTWARDS, RIGHTWARDS", "
    WAVE ARROW; SQUIGGLE ARROW; OPEN-HEADED ARROW; TRIPLE DASH ARROW; ARROW-TAIL;
    TWO-HEADED ARROW FROM BAR; TWO-HEADED TRIPLE DASH ARROW"⟩,
  ⟨"LEFTWARDS ARROW, RIGHTWARDS ARROW", "
    FROM BAR; TO BAR; TO BLACK DIAMOND; FROM BAR TO BLACK DIAMOND; ABOVE TILDE OPERATOR; THROUGH X;
    ABOVE REVERSE ALMOST EQUAL TO; ABOVE ALMOST EQUAL TO; ABOVE REVERSE TILDE OPERATOR"⟩,
  ⟨"UPWARDS ARROW", "
    FROM BAR; WITH TIP LEFTWARDS; WITH TIP RIGHTWARDS; LEFTWARDS OF DOWNWARDS ARROW;
    WITH DOUBLE STROKE; WITH HORIZONTAL STROKE; TO BAR"⟩,
  ⟨"DOWNWARDS", "ARROW FROM BAR; ZIGZAG ARROW; ARROW LEFTWARDS OF UPWARDS ARROW; ARROW TO BAR"⟩,
  ⟨"UP DOWN", "ARROW WITH BASE"⟩,
  ⟨"LEFT RIGHT", "
    WAVE ARROW; DOUBLE ARROW WITH STROKE; OPEN-HEADED ARROW; DOUBLE ARROW WITH VERTICAL STROKE;
    ARROW THROUGH SMALL CIRCLE"⟩,
  ⟨"LEFT RIGHT ARROW WITH", "STROKE; VERTICAL STROKE; DOUBLE VERTICAL STROKE"⟩,
  ⟨"DOWNWARDS ARROW WITH", "
    TIP LEFTWARDS; TIP RIGHTWARDS; CORNER LEFTWARDS; DOUBLE STROKE; HORIZONTAL STROKE"⟩,
  ⟨"RIGHTWARDS ARROW WITH", "CORNER DOWNWARDS"⟩,
  ⟨"ANTICLOCKWISE, CLOCKWISE", "
    TOP SEMICIRCLE ARROW; OPEN CIRCLE ARROW; CONTOUR INTEGRAL; GAPPED CIRCLE ARROW;
    CLOSED CIRCLE ARROW"⟩,
  ⟨"NORTH WEST ARROW", "
    TO LONG BAR; TO CORNER; WITH HOOK; AND NORTH EAST ARROW; CROSSING NORTH EAST ARROW"⟩,
  ⟨"LEFTWARDS ARROW", "
    TO BAR OVER RIGHTWARDS ARROW TO BAR; OVER RIGHTWARDS ARROW; ABOVE SHORT RIGHTWARDS ARROW;
    THROUGH LESS-THAN; THROUGH SUBSET"⟩,
  ⟨"LEFTWARDS HARPOON WITH BARB, RIGHTWARDS HARPOON WITH BARB", "
    UPWARDS; DOWNWARDS; UP TO BAR; DOWN TO BAR; UP FROM BAR; DOWN FROM BAR; UP ABOVE LONG DASH;
    DOWN BELOW LONG DASH"⟩,
  ⟨"UPWARDS HARPOON WITH BARB, DOWNWARDS HARPOON WITH BARB", "
    RIGHTWARDS; LEFTWARDS; RIGHT TO BAR; LEFT TO BAR; RIGHT FROM BAR; LEFT FROM BAR;
    LEFT BESIDE UPWARDS HARPOON WITH BARB RIGHT; LEFT BESIDE DOWNWARDS HARPOON WITH BARB RIGHT"⟩,
  ⟨"RIGHTWARDS ARROW", "
    OVER LEFTWARDS ARROW; ABOVE SHORT LEFTWARDS ARROW; THROUGH GREATER-THAN; THROUGH SUPERSET"⟩,
  ⟨"LEFTWARDS", "HARPOON OVER RIGHTWARDS HARPOON"⟩,
  ⟨"RIGHTWARDS", "HARPOON OVER LEFTWARDS HARPOON; WHITE ARROW FROM WALL"⟩,
  ⟨"LEFTWARDS DOUBLE, RIGHTWARDS DOUBLE", "
    ARROW WITH STROKE; ARROW; ARROW WITH VERTICAL STROKE; ARROW FROM BAR; DASH ARROW; ARROW-TAIL"⟩,
  ⟨"UPWARDS, DOWNWARDS", "DOUBLE ARROW; TWO-HEADED ARROW WITH TRIANGLE ARROWHEADS"⟩,
  ⟨"UPWARDS WHITE ARROW", "
    FROM BAR; ON PEDESTAL; ON PEDESTAL WITH HORIZONTAL BAR; ON PEDESTAL WITH VERTICAL BAR;
    FROM BAR WITH HORIZONTAL BAR"⟩,
  ⟨"UPWARDS", "
    WHITE DOUBLE ARROW; WHITE DOUBLE ARROW ON PEDESTAL; TWO-HEADED ARROW FROM SMALL CIRCLE"⟩,
  ⟨"SOUTH EAST", "ARROW TO CORNER; ARROW AND SOUTH WEST ARROW; ARROW CROSSING NORTH EAST ARROW"⟩,
  ⟨"RIGHT, LEFT", "
    ARROW WITH SMALL CIRCLE; TACK; NORMAL FACTOR SEMIDIRECT PRODUCT; SEMIDIRECT PRODUCT;
    S-SHAPED BAG DELIMITER; OUTER JOIN; ARROW WITH CIRCLED PLUS; FISH TAIL; WHITE CURLY BRACKET;
    WHITE PARENTHESIS; ANGLE BRACKET WITH DOT; BLACK TORTOISE SHELL BRACKET; WIGGLY FENCE;
    DOUBLE WIGGLY FENCE; HALF BLACK STAR"⟩,
  ⟨"THREE", "RIGHTWARDS ARROWS; DIMENSIONAL ANGLE; CONSECUTIVE EQUALS SIGNS; LEFTWARDS ARROWS"⟩,
  ⟨"", "
    FOR ALL; COMPLEMENT; PARTIAL DIFFERENTIAL; THERE EXISTS; THERE DOES NOT EXIST; EMPTY SET;
    INCREMENT; NABLA; ELEMENT OF; END OF PROOF; MINUS-OR-PLUS SIGN; DOT PLUS; DIVISION SLASH;
    SET MINUS; ASTERISK OPERATOR; RING OPERATOR; BULLET OPERATOR; CUBE ROOT; FOURTH ROOT;
    PROPORTIONAL TO; INFINITY; ANGLE; SPHERICAL ANGLE; DIVIDES; INTERSECTION; UNION; INTEGRAL;
    CONTOUR INTEGRAL; SURFACE INTEGRAL; VOLUME INTEGRAL; THEREFORE; BECAUSE; RATIO; PROPORTION;
    DOT MINUS; EXCESS; GEOMETRIC PROPORTION; HOMOTHETIC; TILDE OPERATOR; INVERTED LAZY S; SINE WAVE;
    WREATH PRODUCT; ASYMPTOTICALLY EQUAL TO; ALL EQUAL TO; DIFFERENCE BETWEEN; APPROACHES THE LIMIT;
    IMAGE OF OR APPROXIMATELY EQUAL TO; COLON EQUALS; EQUALS COLON; RING IN EQUAL TO; RING EQUAL TO;
    CORRESPONDS TO; ESTIMATES; EQUIANGULAR TO; DELTA EQUAL TO; EQUAL TO BY DEFINITION;
    QUESTIONED EQUAL TO; STRICTLY EQUIVALENT TO; MUCH LESS-THAN; MUCH GREATER-THAN; BETWEEN;
    PRECEDES; SUCCEEDS; MULTISET; MULTISET MULTIPLICATION; MULTISET UNION; ASSERTION; MODELS; TRUE;
    FORCES; NEGATED DOUBLE VERTICAL BAR DOUBLE RIGHT TURNSTILE; ORIGINAL OF; IMAGE OF; MULTIMAP;
    HERMITIAN CONJUGATE MATRIX; INTERCALATE; XOR; NAND; NOR; DIAMOND OPERATOR; DOT OPERATOR;
    DIVISION TIMES; BOWTIE; PITCHFORK; EQUAL AND PARALLEL TO; VERY MUCH LESS-THAN;
    VERY MUCH GREATER-THAN; MIDLINE HORIZONTAL ELLIPSIS; PERPENDICULAR; OPEN SUBSET; OPEN SUPERSET;
    OR WITH DOT INSIDE; AND WITH DOT; UPPER LEFT CORNER WITH DOT; FULL OUTER JOIN;
    LOZENGE DIVIDED BY HORIZONTAL RULE; RIGHT-SIDE ARC CLOCKWISE ARROW;
    LEFT-SIDE ARC ANTICLOCKWISE ARROW; BOTTOM ARC ANTICLOCKWISE ARROW;
    TOP ARC CLOCKWISE ARROW WITH MINUS; LOWER LEFT SEMICIRCULAR ANTICLOCKWISE ARROW; DOTTED FENCE;
    ACUTE ANGLE; TURNED ANGLE;
    CIRCLE DIVIDED BY HORIZONTAL BAR AND TOP HALF DIVIDED BY VERTICAL BAR; TWO JOINED SQUARES;
    S IN TRIANGLE; INCOMPLETE INFINITY; TIE OVER INFINITY; INFINITY NEGATED WITH VERTICAL BAR;
    DOUBLE-ENDED MULTIMAP; INCREASES AS; SHUFFLE PRODUCT; GLEICH STARK; THERMODYNAMIC; RULE-DELAYED;
    SOLIDUS WITH OVERBAR; BIG SOLIDUS; BIG REVERSE SOLIDUS; LEFT-POINTING CURVED ANGLE BRACKET;
    RIGHT-POINTING CURVED ANGLE BRACKET; TINY; MINY; MODULO TWO SUM; SUMMATION WITH INTEGRAL;
    QUADRUPLE INTEGRAL OPERATOR; FINITE PART INTEGRAL; INTEGRAL AVERAGE WITH SLASH;
    CIRCULATION FUNCTION; INTEGRAL AROUND A POINT OPERATOR; QUATERNION INTEGRAL OPERATOR; JOIN;
    VECTOR OR CROSS PRODUCT; SEMIDIRECT PRODUCT WITH BOTTOM CLOSED; SMASH PRODUCT; INTERIOR PRODUCT;
    RIGHTHAND INTERIOR PRODUCT; AMALGAMATION OR COPRODUCT; SMALL VEE WITH UNDERBAR;
    CONGRUENT WITH DOT ABOVE; EQUALS WITH ASTERISK; TWO CONSECUTIVE EQUALS SIGNS; SMALLER THAN;
    LARGER THAN; SMALLER THAN OR EQUAL TO; LARGER THAN OR EQUAL TO; PITCHFORK WITH TEE TOP;
    TRANSVERSAL INTERSECTION; FORKING; NONFORKING; PERPENDICULAR WITH S; DOTTED SQUARE;
    BENT ARROW POINTING DOWNWARDS THEN NORTH EAST; RETURN LEFT; RETURN RIGHT; NEWLINE LEFT;
    NEWLINE RIGHT; FOUR CORNER ARROWS CIRCLING ANTICLOCKWISE; SYMBOL FOR TYPE A ELECTRONICS;
    BALLOT BOX WITH LIGHT X; TURNED BLACK PENTAGON; NEPTUNE FORM TWO; TOP HALF BLACK CIRCLE;
    BOTTOM HALF BLACK CIRCLE; LIGHT FOUR POINTED BLACK CUSP; ROTATED LIGHT FOUR POINTED BLACK CUSP;
    ROTATED WHITE FOUR POINTED CUSP; UNCERTAINTY SIGN; GROUP MARK; TRANSPLUTO; PROSERPINA; ASTRAEA;
    HYGIEA; PHOLUS; NESSUS; TRUE LIGHT MOON ARTA; CUPIDO; HADES; ZEUS; KRONOS; APOLLON; ADMETOS;
    VULCANUS; POSEIDON; ERIS FORM ONE; ERIS FORM TWO; SEDNA; UNITED SYMBOL; SEPARATED SYMBOL;
    DOUBLED SYMBOL; PASSED SYMBOL; HELLSCHREIBER PAUSE SYMBOL"⟩,
  ⟨"NOT", "
    AN ELEMENT OF; PARALLEL TO; TILDE; ASYMPTOTICALLY EQUAL TO; ALMOST EQUAL TO; IDENTICAL TO;
    LESS-THAN; A SUBSET OF; A SUPERSET OF; TRUE; SQUARE IMAGE OF OR EQUAL TO;
    SQUARE ORIGINAL OF OR EQUAL TO"⟩,
  ⟨"SMALL ELEMENT", "OF; OF WITH VERTICAL BAR AT END OF HORIZONTAL STROKE; OF WITH OVERBAR"⟩,
  ⟨"CONTAINS, SMALL CONTAINS", "
    AS MEMBER; WITH VERTICAL BAR AT END OF HORIZONTAL STROKE; WITH OVERBAR"⟩,
  ⟨"DOES NOT CONTAIN AS", "MEMBER; NORMAL SUBGROUP; NORMAL SUBGROUP OR EQUAL"⟩,
  ⟨"N-ARY", "
    PRODUCT; COPRODUCT; SUMMATION; LOGICAL AND; LOGICAL OR; INTERSECTION; UNION;
    CIRCLED DOT OPERATOR; CIRCLED PLUS OPERATOR; CIRCLED TIMES OPERATOR;
    SQUARE INTERSECTION OPERATOR; SQUARE UNION OPERATOR; TIMES OPERATOR; WHITE VERTICAL BAR"⟩,
  ⟨"MINUS", "SIGN; TILDE; SIGN IN TRIANGLE"⟩,
  ⟨"SQUARE", "
    ROOT; IMAGE OF; IMAGE OF OR EQUAL TO; CAP; CUP; IMAGE OF OR NOT EQUAL TO;
    LEFT OPEN BOX OPERATOR; RIGHT OPEN BOX OPERATOR; POSITION INDICATOR"⟩,
  ⟨"RIGHT", "
    ANGLE; ANGLE WITH ARC; TRIANGLE; DOUBLE ARROW WITH ROUNDED HEAD; ARC GREATER-THAN BRACKET;
    ANGLE VARIANT WITH SQUARE; TRIANGLE ABOVE LEFT TRIANGLE"⟩,
  ⟨"MEASURED", "ANGLE; BY; ANGLE OPENING LEFT; RIGHT ANGLE WITH DOT"⟩,
  ⟨"DOES NOT", "
    DIVIDE; PRECEDE; SUCCEED; PROVE; FORCE; PRECEDE OR EQUAL; SUCCEED OR EQUAL;
    DIVIDE WITH REVERSED NEGATION SLASH"⟩,
  ⟨"PARALLEL", "TO; WITH HORIZONTAL STROKE; WITH TILDE OPERATOR"⟩,
  ⟨"LOGICAL", "AND; OR; OR OVERLAPPING LOGICAL AND"⟩,
  ⟨"DOUBLE, TRIPLE", "INTEGRAL; PLUS; NESTED LESS-THAN; NESTED GREATER-THAN"⟩,
  ⟨"CLOCKWISE", "INTEGRAL; TRIANGLE-HEADED OPEN CIRCLE ARROW"⟩,
  ⟨"REVERSED", "
    TILDE; TILDE EQUALS; ANGLE; ANGLE WITH UNDERBAR; EMPTY SET; DOUBLE STROKE NOT SIGN;
    RIGHT ANGLE"⟩,
  ⟨"APPROXIMATELY", "
    EQUAL TO; BUT NOT ACTUALLY EQUAL TO; EQUAL TO OR THE IMAGE OF; EQUAL OR EQUAL TO"⟩,
  ⟨"NEITHER", "
    APPROXIMATELY NOR ACTUALLY EQUAL TO; A SUBSET OF NOR EQUAL TO; A SUPERSET OF NOR EQUAL TO"⟩,
  ⟨"ALMOST EQUAL", "TO; OR EQUAL TO; TO WITH CIRCUMFLEX ACCENT"⟩,
  ⟨"TRIPLE", "TILDE; COLON OPERATOR; SOLIDUS BINARY RELATION"⟩,
  ⟨"EQUIVALENT", "TO; WITH FOUR DOTS ABOVE"⟩,
  ⟨"GEOMETRICALLY", "EQUIVALENT TO; EQUAL TO"⟩,
  ⟨"STAR", "EQUALS; OPERATOR; WITH LEFT HALF BLACK; WITH RIGHT HALF BLACK"⟩,
  ⟨"NOT, NEITHER LESS-THAN NOR", "EQUAL TO; EQUIVALENT TO; GREATER-THAN"⟩,
  ⟨"IDENTICAL", "TO; TO AND SLANTED PARALLEL; WITH DOT ABOVE"⟩,
  ⟨"LESS-THAN, GREATER-THAN", "
    OR EQUAL TO; OVER EQUAL TO; BUT NOT EQUAL TO; OR EQUIVALENT TO; WITH DOT; BUT NOT EQUIVALENT TO;
    WITH CIRCLE INSIDE; WITH QUESTION MARK ABOVE; OR SLANTED EQUAL TO; OR APPROXIMATE;
    AND SINGLE-LINE NOT EQUAL TO; AND NOT APPROXIMATE; CLOSED BY CURVE;
    CLOSED BY CURVE ABOVE SLANTED EQUAL"⟩,
  ⟨"NEITHER GREATER-THAN NOR", "EQUAL TO; EQUIVALENT TO; LESS-THAN"⟩,
  ⟨"LESS-THAN", "OR GREATER-THAN; EQUAL TO OR GREATER-THAN"⟩,
  ⟨"GREATER-THAN", "OR LESS-THAN; EQUAL TO OR LESS-THAN; OVERLAPPING LESS-THAN; BESIDE LESS-THAN"⟩,
  ⟨"PRECEDES, SUCCEEDS", "OR EQUAL TO; OR EQUIVALENT TO; UNDER RELATION; BUT NOT EQUIVALENT TO"⟩,
  ⟨"SUBSET, SUPERSET", "
    OF; OF OR EQUAL TO; OF WITH NOT EQUAL TO; WITH DOT; WITH PLUS SIGN BELOW;
    WITH MULTIPLICATION SIGN BELOW; OF OR EQUAL TO WITH DOT ABOVE; ABOVE SUPERSET; ABOVE SUBSET"⟩,
  ⟨"SQUARE ORIGINAL", "OF; OF OR EQUAL TO; OF OR NOT EQUAL TO"⟩,
  ⟨"CIRCLED", "
    PLUS; MINUS; TIMES; DIVISION SLASH; DOT OPERATOR; RING OPERATOR; ASTERISK OPERATOR; EQUALS;
    DASH; VERTICAL BAR; PARALLEL; REVERSE SOLIDUS; PERPENDICULAR;
    ANTICLOCKWISE-ROTATED DIVISION SIGN; WHITE BULLET; BULLET; LESS-THAN; GREATER-THAN;
    MULTIPLICATION SIGN WITH CIRCUMFLEX ACCENT; DIVISION SIGN; X; BOLD X"⟩,
  ⟨"SQUARED", "
    PLUS; MINUS; TIMES; DOT OPERATOR; LOGICAL AND; LOGICAL OR; RISING DIAGONAL SLASH;
    FALLING DIAGONAL SLASH; ASTERISK; SMALL CIRCLE; SQUARE"⟩,
  ⟨"DOWN", "TACK; RIGHT DIAGONAL ELLIPSIS; FISH TAIL; TACK WITH CIRCLE BELOW"⟩,
  ⟨"UP", "
    TACK; RIGHT DIAGONAL ELLIPSIS; TACK WITH CIRCLE ABOVE; FISH TAIL; ARROW THROUGH CIRCLE;
    ARROWHEAD IN A RECTANGLE BOX"⟩,
  ⟨"TRIPLE VERTICAL BAR", "RIGHT TURNSTILE; DELIMITER; BINARY RELATION; WITH HORIZONTAL STROKE"⟩,
  ⟨"DOUBLE VERTICAL BAR", "DOUBLE RIGHT TURNSTILE; LEFT TURNSTILE; DOUBLE LEFT TURNSTILE"⟩,
  ⟨"NORMAL SUBGROUP, NOT NORMAL SUBGROUP", "OF; OF OR EQUAL TO"⟩,
  ⟨"CONTAINS", "AS NORMAL SUBGROUP; AS NORMAL SUBGROUP OR EQUAL TO; WITH LONG HORIZONTAL STROKE"⟩,
  ⟨"CURLY LOGICAL, TWO INTERSECTING LOGICAL, SLOPING LARGE", "OR; AND"⟩,
  ⟨"DOUBLE", "
    SUBSET; SUPERSET; INTERSECTION; UNION; LEFT ARC GREATER-THAN BRACKET;
    RIGHT ARC LESS-THAN BRACKET; SQUARE INTERSECTION; SQUARE UNION; LOGICAL AND; LOGICAL OR;
    COLON EQUAL; NESTED LESS-THAN WITH UNDERBAR; PRECEDES; SUCCEEDS; DOWN TACK; UP TACK;
    STROKE NOT SIGN; SOLIDUS OPERATOR"⟩,
  ⟨"EQUAL TO OR", "LESS-THAN; GREATER-THAN; PRECEDES; SUCCEEDS"⟩,
  ⟨"VERTICAL", "
    ELLIPSIS; BAR WITH HORIZONTAL STROKE; ZIGZAG LINE; BAR BESIDE RIGHT TRIANGLE;
    BAR TRIPLE RIGHT TURNSTILE; BAR DOUBLE LEFT TURNSTILE; LINE WITH CIRCLE ABOVE;
    LINE WITH CIRCLE BELOW; TAB KEY"⟩,
  ⟨"ELEMENT OF WITH", "
    LONG HORIZONTAL STROKE; VERTICAL BAR AT END OF HORIZONTAL STROKE; DOT ABOVE; OVERBAR; UNDERBAR;
    TWO HORIZONTAL STROKES"⟩,
  ⟨"Z NOTATION", "
    BAG MEMBERSHIP; SPOT; TYPE COLON; LEFT IMAGE BRACKET; RIGHT IMAGE BRACKET; LEFT BINDING BRACKET;
    RIGHT BINDING BRACKET; SCHEMA COMPOSITION; SCHEMA PIPING; SCHEMA PROJECTION;
    RELATIONAL COMPOSITION; DOMAIN ANTIRESTRICTION; RANGE ANTIRESTRICTION"⟩,
  ⟨"WHITE", "
    TRIANGLE CONTAINING SMALL WHITE TRIANGLE; DIAMOND WITH CENTRED DOT; SQUARE WITH LEFTWARDS TICK;
    SQUARE WITH RIGHTWARDS TICK; VERTICAL BAR; MEDIUM DIAMOND; MEDIUM LOZENGE; MEDIUM STAR;
    FOUR POINTED CUSP; MOON SELENA"⟩,
  ⟨"REVERSE SOLIDUS", "PRECEDING SUBSET; OPERATOR; WITH HORIZONTAL STROKE"⟩,
  ⟨"SUPERSET", "
    PRECEDING SOLIDUS; ABOVE LEFTWARDS ARROW; BESIDE SUBSET;
    BESIDE AND JOINED BY DASH WITH SUBSET"⟩,
  ⟨"MATHEMATICAL", "
    RISING DIAGONAL; FALLING DIAGONAL; LEFT WHITE SQUARE BRACKET; LEFT ANGLE BRACKET;
    LEFT DOUBLE ANGLE BRACKET; LEFT WHITE TORTOISE SHELL BRACKET; LEFT FLATTENED PARENTHESIS"⟩,
  ⟨"LONG", "
    DIVISION; RIGHT TACK; LEFT TACK; LEFT RIGHT ARROW; LEFT RIGHT DOUBLE ARROW;
    DASH FROM LEFT MEMBER OF DOUBLE VERTICAL"⟩,
  ⟨"ELEMENT OF OPENING, ARROW POINTING RIGHTWARDS THEN CURVING", "UPWARDS; DOWNWARDS"⟩,
  ⟨"LOWER RIGHT", "CORNER WITH DOT; SEMICIRCULAR CLOCKWISE ARROW"⟩,
  ⟨"LARGE", "UP TACK; DOWN TACK; LEFT TRIANGLE OPERATOR; TRIPLE VERTICAL BAR OPERATOR"⟩,
  ⟨"LEFT", "
    AND RIGHT DOUBLE TURNSTILE; AND RIGHT TACK; MULTIMAP; ARC LESS-THAN BRACKET;
    TRIANGLE BESIDE VERTICAL BAR"⟩,
  ⟨"WHITE CONCAVE-SIDED", "DIAMOND; DIAMOND WITH LEFTWARDS TICK; DIAMOND WITH RIGHTWARDS TICK"⟩,
  ⟨"MATHEMATICAL RIGHT", "
    WHITE SQUARE BRACKET; ANGLE BRACKET; DOUBLE ANGLE BRACKET; WHITE TORTOISE SHELL BRACKET;
    FLATTENED PARENTHESIS"⟩,
  ⟨"LONG LEFTWARDS, LONG RIGHTWARDS", "
    ARROW; DOUBLE ARROW; ARROW FROM BAR; DOUBLE ARROW FROM BAR; SQUIGGLE ARROW"⟩,
  ⟨"RIGHTWARDS TWO-HEADED ARROW WITH, LEFTWARDS TWO-HEADED ARROW WITH", "
    VERTICAL STROKE; DOUBLE VERTICAL STROKE; TAIL; TAIL WITH VERTICAL STROKE;
    TAIL WITH DOUBLE VERTICAL STROKE; TRIANGLE ARROWHEADS"⟩,
  ⟨"NORTH WEST", "AND SOUTH EAST ARROW"⟩,
  ⟨"NORTH EAST", "
    AND SOUTH WEST ARROW; ARROW AND SOUTH EAST ARROW; ARROW CROSSING SOUTH EAST ARROW;
    ARROW CROSSING NORTH WEST ARROW"⟩,
  ⟨"NORTH EAST, SOUTH EAST, SOUTH WEST", "ARROW WITH HOOK"⟩,
  ⟨"SOUTH WEST", "ARROW AND NORTH WEST ARROW"⟩,
  ⟨"RISING DIAGONAL CROSSING", "FALLING DIAGONAL; SOUTH EAST ARROW"⟩,
  ⟨"FALLING DIAGONAL CROSSING", "RISING DIAGONAL; NORTH EAST ARROW"⟩,
  ⟨"WAVE ARROW POINTING DIRECTLY", "RIGHT; LEFT"⟩,
  ⟨"ARROW POINTING DOWNWARDS THEN CURVING", "LEFTWARDS; RIGHTWARDS"⟩,
  ⟨"TOP ARC ANTICLOCKWISE", "ARROW; ARROW WITH PLUS"⟩,
  ⟨"SHORT", "
    RIGHTWARDS ARROW ABOVE LEFTWARDS ARROW; LEFT TACK; DOWN TACK; UP TACK; DOWN TACK WITH OVERBAR;
    UP TACK WITH UNDERBAR; UP TACK ABOVE SHORT DOWN TACK; SLANTED NORTH ARROW;
    BACKSLANTED SOUTH ARROW; BENT ARROW POINTING DOWNWARDS THEN NORTH EAST"⟩,
  ⟨"LEFT BARB UP RIGHT BARB, LEFT BARB DOWN RIGHT BARB", "DOWN HARPOON; UP HARPOON"⟩,
  ⟨"UP BARB RIGHT DOWN BARB, UP BARB LEFT DOWN BARB", "LEFT HARPOON; RIGHT HARPOON"⟩,
  ⟨"LEFTWARDS HARPOON WITH BARB", "
    UP ABOVE LEFTWARDS HARPOON WITH BARB DOWN; UP ABOVE RIGHTWARDS HARPOON WITH BARB UP;
    DOWN ABOVE RIGHTWARDS HARPOON WITH BARB DOWN"⟩,
  ⟨"RIGHTWARDS HARPOON WITH BARB", "
    UP ABOVE RIGHTWARDS HARPOON WITH BARB DOWN; UP ABOVE LEFTWARDS HARPOON WITH BARB UP;
    DOWN ABOVE LEFTWARDS HARPOON WITH BARB DOWN"⟩,
  ⟨"EQUALS SIGN ABOVE", "RIGHTWARDS ARROW; PLUS SIGN; TILDE OPERATOR; LEFTWARDS ARROW"⟩,
  ⟨"TILDE OPERATOR", "
    ABOVE RIGHTWARDS ARROW; WITH DOT ABOVE; WITH RISING DOTS; ABOVE LEFTWARDS ARROW"⟩,
  ⟨"LESS-THAN ABOVE", "
    LEFTWARDS ARROW; DOUBLE-LINE EQUAL ABOVE GREATER-THAN; SIMILAR OR EQUAL;
    SIMILAR ABOVE GREATER-THAN; GREATER-THAN ABOVE DOUBLE-LINE EQUAL;
    SLANTED EQUAL ABOVE GREATER-THAN ABOVE SLANTED EQUAL"⟩,
  ⟨"GREATER-THAN ABOVE", "
    RIGHTWARDS ARROW; DOUBLE-LINE EQUAL ABOVE LESS-THAN; SIMILAR OR EQUAL; SIMILAR ABOVE LESS-THAN;
    LESS-THAN ABOVE DOUBLE-LINE EQUAL; SLANTED EQUAL ABOVE LESS-THAN ABOVE SLANTED EQUAL"⟩,
  ⟨"SUBSET", "ABOVE RIGHTWARDS ARROW"⟩,
  ⟨"LEFT SQUARE BRACKET WITH, RIGHT SQUARE BRACKET WITH", "
    UNDERBAR; TICK IN TOP CORNER; TICK IN BOTTOM CORNER"⟩,
  ⟨"ANGLE WITH", "S INSIDE; UNDERBAR"⟩,
  ⟨"SPHERICAL ANGLE OPENING", "LEFT; UP"⟩,
  ⟨"OBLIQUE ANGLE OPENING", "UP; DOWN"⟩,
  ⟨"MEASURED ANGLE WITH OPEN ARM ENDING IN ARROW POINTING", "
    UP AND RIGHT; UP AND LEFT; DOWN AND RIGHT; DOWN AND LEFT; RIGHT AND UP; LEFT AND UP;
    RIGHT AND DOWN; LEFT AND DOWN"⟩,
  ⟨"EMPTY SET WITH", "OVERBAR; SMALL CIRCLE ABOVE; RIGHT ARROW ABOVE; LEFT ARROW ABOVE"⟩,
  ⟨"CIRCLE WITH", "
    HORIZONTAL BAR; SUPERIMPOSED X; SMALL CIRCLE TO THE RIGHT;
    TWO HORIZONTAL STROKES TO THE RIGHT"⟩,
  ⟨"TRIANGLE WITH", "DOT ABOVE; UNDERBAR; SERIFS AT BOTTOM"⟩,
  ⟨"BOWTIE WITH, TIMES WITH, DOWN-POINTING TRIANGLE WITH", "LEFT HALF BLACK; RIGHT HALF BLACK"⟩,
  ⟨"BLACK", "
    BOWTIE; DIAMOND WITH DOWN ARROW; LOZENGE; LARGE CIRCLE; SMALL DIAMOND;
    LEFTWARDS EQUILATERAL ARROWHEAD; UPWARDS EQUILATERAL ARROWHEAD;
    RIGHTWARDS EQUILATERAL ARROWHEAD; DOWNWARDS EQUILATERAL ARROWHEAD; SQUARE CENTRED;
    DIAMOND CENTRED; OCTAGON; DIAMOND ON CROSS"⟩,
  ⟨"WHITE, BLACK", "
    HOURGLASS; CIRCLE WITH DOWN ARROW; LARGE SQUARE; VERY SMALL SQUARE; PENTAGON; HEXAGON;
    SMALL LOZENGE; HORIZONTAL ELLIPSE; VERTICAL ELLIPSE; SMALL STAR; RIGHT-POINTING PENTAGON"⟩,
  ⟨"SQUARE WITH", "
    CONTOURED OUTLINE; TOP HALF BLACK; BOTTOM HALF BLACK; UPPER RIGHT DIAGONAL HALF BLACK;
    LOWER LEFT DIAGONAL HALF BLACK"⟩,
  ⟨"EQUALS SIGN AND SLANTED", "PARALLEL; PARALLEL WITH TILDE ABOVE"⟩,
  ⟨"ERROR-BARRED WHITE, ERROR-BARRED BLACK", "SQUARE; DIAMOND; CIRCLE"⟩,
  ⟨"N-ARY UNION OPERATOR WITH", "DOT; PLUS"⟩,
  ⟨"TWO LOGICAL", "AND OPERATOR; OR OPERATOR"⟩,
  ⟨"INTEGRAL WITH", "
    DOUBLE STROKE; LEFTWARDS ARROW WITH HOOK; TIMES SIGN; INTERSECTION; UNION; OVERBAR; UNDERBAR"⟩,
  ⟨"ANTICLOCKWISE", "INTEGRATION"⟩,
  ⟨"LINE INTEGRATION", "
    WITH RECTANGULAR PATH AROUND POLE; WITH SEMICIRCULAR PATH AROUND POLE; NOT INCLUDING THE POLE"⟩,
  ⟨"PLUS SIGN WITH", "
    SMALL CIRCLE ABOVE; CIRCUMFLEX ACCENT ABOVE; TILDE ABOVE; DOT BELOW; TILDE BELOW; SUBSCRIPT TWO;
    BLACK TRIANGLE"⟩,
  ⟨"MINUS SIGN WITH", "COMMA ABOVE; DOT BELOW; FALLING DOTS; RISING DOTS"⟩,
  ⟨"PLUS SIGN", "IN LEFT HALF CIRCLE; IN RIGHT HALF CIRCLE; IN TRIANGLE; ABOVE EQUALS SIGN"⟩,
  ⟨"MULTIPLICATION SIGN", "
    WITH DOT ABOVE; WITH UNDERBAR; IN LEFT HALF CIRCLE; IN RIGHT HALF CIRCLE; IN DOUBLE CIRCLE;
    IN TRIANGLE"⟩,
  ⟨"INTERSECTION", "
    WITH DOT; WITH OVERBAR; WITH LOGICAL AND; ABOVE UNION; ABOVE BAR ABOVE UNION;
    BESIDE AND JOINED WITH INTERSECTION"⟩,
  ⟨"UNION", "
    WITH MINUS SIGN; WITH OVERBAR; WITH LOGICAL OR; ABOVE INTERSECTION;
    ABOVE BAR ABOVE INTERSECTION; BESIDE AND JOINED WITH UNION"⟩,
  ⟨"CLOSED", "
    UNION WITH SERIFS; INTERSECTION WITH SERIFS; UNION WITH SERIFS AND SMASH PRODUCT; SUBSET;
    SUPERSET; SUBSET OR EQUAL TO; SUPERSET OR EQUAL TO"⟩,
  ⟨"LOGICAL AND WITH, LOGICAL OR WITH", "
    DOT ABOVE; MIDDLE STEM; HORIZONTAL DASH; DOUBLE OVERBAR; DOUBLE UNDERBAR"⟩,
  ⟨"LOGICAL AND WITH", "UNDERBAR"⟩,
  ⟨"EQUALS SIGN WITH", "DOT BELOW; TWO DOTS ABOVE AND TWO DOTS BELOW; BUMPY ABOVE; INFINITY BELOW"⟩,
  ⟨"TRIPLE HORIZONTAL BAR WITH", "DOUBLE VERTICAL STROKE; TRIPLE VERTICAL STROKE"⟩,
  ⟨"SIMILAR", "
    MINUS SIMILAR; OR LESS-THAN; OR GREATER-THAN; ABOVE LESS-THAN ABOVE EQUALS SIGN;
    ABOVE GREATER-THAN ABOVE EQUALS SIGN"⟩,
  ⟨"LESS-THAN OR SLANTED EQUAL TO WITH DOT", "INSIDE; ABOVE; ABOVE RIGHT"⟩,
  ⟨"GREATER-THAN OR SLANTED EQUAL TO WITH DOT", "INSIDE; ABOVE; ABOVE LEFT"⟩,
  ⟨"SLANTED EQUAL TO OR", "
    LESS-THAN; GREATER-THAN; LESS-THAN WITH DOT INSIDE; GREATER-THAN WITH DOT INSIDE"⟩,
  ⟨"DOUBLE-LINE EQUAL TO OR", "LESS-THAN; GREATER-THAN"⟩,
  ⟨"DOUBLE-LINE SLANTED", "
    EQUAL TO OR LESS-THAN; EQUAL TO OR GREATER-THAN; LESS-THAN OR EQUAL TO;
    GREATER-THAN OR EQUAL TO"⟩,
  ⟨"PRECEDES ABOVE, SUCCEEDS ABOVE", "
    SINGLE-LINE EQUALS SIGN; SINGLE-LINE NOT EQUAL TO; EQUALS SIGN; NOT EQUAL TO; ALMOST EQUAL TO;
    NOT ALMOST EQUAL TO"⟩,
  ⟨"SUBSET OF ABOVE, SUPERSET OF ABOVE", "
    EQUALS SIGN; TILDE OPERATOR; ALMOST EQUAL TO; NOT EQUAL TO"⟩,
  ⟨"DIAMOND WITH", "LEFT HALF BLACK; RIGHT HALF BLACK; TOP HALF BLACK; BOTTOM HALF BLACK"⟩,
  ⟨"HORIZONTAL", "BLACK HEXAGON; TAB KEY; BLACK OCTAGON"⟩,
  ⟨"BLACK MEDIUM", "
    DIAMOND; LOZENGE; UP-POINTING TRIANGLE CENTRED; DOWN-POINTING TRIANGLE CENTRED;
    LEFT-POINTING TRIANGLE CENTRED; RIGHT-POINTING TRIANGLE CENTRED"⟩,
  ⟨"REVERSE TILDE OPERATOR ABOVE", "LEFTWARDS ARROW; RIGHTWARDS ARROW"⟩,
  ⟨"DOWNWARDS TRIANGLE-HEADED", "ZIGZAG ARROW; ARROW LEFTWARDS OF UPWARDS TRIANGLE-HEADED ARROW"⟩,
  ⟨"HEAVY", "
    LARGE CIRCLE; OVAL WITH OVAL INSIDE; CIRCLE WITH CIRCLE INSIDE; CIRCLE; CIRCLED SALTIRE"⟩,
  ⟨"SLANTED NORTH ARROW WITH", "HOOKED HEAD; HORIZONTAL TAIL"⟩,
  ⟨"BACKSLANTED SOUTH ARROW WITH", "HOOKED TAIL; HORIZONTAL TAIL"⟩,
  ⟨"LEFTWARDS TRIANGLE-HEADED, RIGHTWARDS TRIANGLE-HEADED", "
    ARROW; DASHED ARROW; ARROW TO BAR; ARROW WITH DOUBLE HORIZONTAL STROKE;
    ARROW WITH DOUBLE VERTICAL STROKE; PAIRED ARROWS; ARROW WITH LONG TIP UPWARDS;
    ARROW WITH LONG TIP DOWNWARDS"⟩,
  ⟨"UPWARDS TRIANGLE-HEADED, DOWNWARDS TRIANGLE-HEADED", "
    ARROW; DASHED ARROW; ARROW TO BAR; ARROW WITH DOUBLE HORIZONTAL STROKE; PAIRED ARROWS;
    ARROW WITH LONG TIP LEFTWARDS; ARROW WITH LONG TIP RIGHTWARDS"⟩,
  ⟨"ANTICLOCKWISE TRIANGLE-HEADED", "
    OPEN CIRCLE ARROW; RIGHT U-SHAPED ARROW; BOTTOM U-SHAPED ARROW; LEFT U-SHAPED ARROW;
    TOP U-SHAPED ARROW"⟩,
  ⟨"LEFTWARDS TRIANGLE-HEADED", "ARROW OVER RIGHTWARDS TRIANGLE-HEADED ARROW"⟩,
  ⟨"UPWARDS TRIANGLE-HEADED", "ARROW LEFTWARDS OF DOWNWARDS TRIANGLE-HEADED ARROW"⟩,
  ⟨"RIGHTWARDS TRIANGLE-HEADED", "ARROW OVER LEFTWARDS TRIANGLE-HEADED ARROW"⟩,
  ⟨"THREE-D", "
    TOP-LIGHTED LEFTWARDS EQUILATERAL ARROWHEAD; RIGHT-LIGHTED UPWARDS EQUILATERAL ARROWHEAD;
    TOP-LIGHTED RIGHTWARDS EQUILATERAL ARROWHEAD; LEFT-LIGHTED DOWNWARDS EQUILATERAL ARROWHEAD"⟩,
  ⟨"BLACK CURVED", "
    DOWNWARDS AND LEFTWARDS ARROW; DOWNWARDS AND RIGHTWARDS ARROW; UPWARDS AND LEFTWARDS ARROW;
    UPWARDS AND RIGHTWARDS ARROW; LEFTWARDS AND UPWARDS ARROW; RIGHTWARDS AND UPWARDS ARROW;
    LEFTWARDS AND DOWNWARDS ARROW; RIGHTWARDS AND DOWNWARDS ARROW"⟩,
  ⟨"RIBBON ARROW", "
    DOWN LEFT; DOWN RIGHT; UP LEFT; UP RIGHT; LEFT UP; RIGHT UP; LEFT DOWN; RIGHT DOWN"⟩,
  ⟨"OVERLAPPING", "WHITE SQUARES; WHITE AND BLACK SQUARES; BLACK SQUARES"⟩,
  ⟨"PLUTO FORM", "TWO; THREE; FOUR; FIVE"⟩,
  ⟨"RUSSIAN ASTROLOGICAL SYMBOL", "VIGINTILE; NOVILE; QUINTILE; BINOVILE; SENTAGON; TREDECILE"⟩,
  ⟨"MATHEMATICAL BOLD CAPITAL, MATHEMATICAL ITALIC CAPITAL, MATHEMATICAL BOLD ITALIC CAPITAL,
    MATHEMATICAL SANS-SERIF BOLD CAPITAL, MATHEMATICAL SANS-SERIF BOLD ITALIC CAPITAL", "
    A; B; C; D; E; F; G; H; I; J; K; L; M; N; O; P; Q; R; S; T; U; V; W; X; Y; Z; ALPHA; BETA;
    GAMMA; DELTA; EPSILON; ZETA; ETA; THETA; IOTA; KAPPA; LAMDA; MU; NU; XI; OMICRON; PI; RHO;
    THETA SYMBOL; SIGMA; TAU; UPSILON; PHI; CHI; PSI; OMEGA"⟩,
  ⟨"MATHEMATICAL BOLD SMALL, MATHEMATICAL ITALIC SMALL, MATHEMATICAL BOLD ITALIC SMALL,
    MATHEMATICAL SANS-SERIF BOLD SMALL, MATHEMATICAL SANS-SERIF BOLD ITALIC SMALL", "
    A; B; C; D; E; F; G; I; J; K; L; M; N; O; P; Q; R; S; T; U; V; W; X; Y; Z; ALPHA; BETA; GAMMA;
    DELTA; EPSILON; ZETA; ETA; THETA; IOTA; KAPPA; LAMDA; MU; NU; XI; OMICRON; PI; RHO; FINAL SIGMA;
    SIGMA; TAU; UPSILON; PHI; CHI; PSI; OMEGA"⟩,
  ⟨"MATHEMATICAL BOLD SMALL, MATHEMATICAL BOLD ITALIC SMALL, MATHEMATICAL SANS-SERIF BOLD SMALL,
    MATHEMATICAL SANS-SERIF BOLD ITALIC SMALL", "
    H"⟩,
  ⟨"MATHEMATICAL SCRIPT CAPITAL", "A; C; D; G; J; K; N; O; P; Q; S; T; U; V; W; X; Y; Z"⟩,
  ⟨"MATHEMATICAL SCRIPT SMALL", "
    A; B; C; D; F; H; I; J; K; L; M; N; P; Q; R; S; T; U; V; W; X; Y; Z"⟩,
  ⟨"MATHEMATICAL BOLD SCRIPT CAPITAL, MATHEMATICAL BOLD SCRIPT SMALL, MATHEMATICAL FRAKTUR SMALL,
    MATHEMATICAL DOUBLE-STRUCK SMALL, MATHEMATICAL BOLD FRAKTUR CAPITAL,
    MATHEMATICAL BOLD FRAKTUR SMALL, MATHEMATICAL SANS-SERIF CAPITAL, MATHEMATICAL SANS-SERIF SMALL,
    MATHEMATICAL SANS-SERIF ITALIC CAPITAL, MATHEMATICAL SANS-SERIF ITALIC SMALL,
    MATHEMATICAL MONOSPACE CAPITAL, MATHEMATICAL MONOSPACE SMALL", "
    A; B; C; D; E; F; G; H; I; J; K; L; M; N; O; P; Q; R; S; T; U; V; W; X; Y; Z"⟩,
  ⟨"MATHEMATICAL FRAKTUR CAPITAL", "A; B; D; E; F; G; J; K; L; M; N; O; P; Q; S; T; U; V; W; X; Y"⟩,
  ⟨"MATHEMATICAL DOUBLE-STRUCK CAPITAL", "A; B; D; E; F; G; I; J; K; L; M; O; S; T; U; V; W; X; Y"⟩,
  ⟨"MATHEMATICAL ITALIC SMALL", "DOTLESS I; DOTLESS J"⟩,
  ⟨"MATHEMATICAL BOLD, MATHEMATICAL ITALIC, MATHEMATICAL BOLD ITALIC, MATHEMATICAL SANS-SERIF BOLD,
    MATHEMATICAL SANS-SERIF BOLD ITALIC", "
    NABLA; PARTIAL DIFFERENTIAL; EPSILON SYMBOL; THETA SYMBOL; KAPPA SYMBOL; PHI SYMBOL; RHO SYMBOL;
    PI SYMBOL"⟩,
  ⟨"MATHEMATICAL BOLD CAPITAL", "DIGAMMA"⟩,
  ⟨"MATHEMATICAL BOLD SMALL", "DIGAMMA"⟩,
  ⟨"MATHEMATICAL BOLD DIGIT, MATHEMATICAL DOUBLE-STRUCK DIGIT, MATHEMATICAL SANS-SERIF DIGIT,
    MATHEMATICAL SANS-SERIF BOLD DIGIT, MATHEMATICAL MONOSPACE DIGIT", "
    ZERO; ONE; TWO; THREE; FOUR; FIVE; SIX; SEVEN; EIGHT; NINE"⟩]

end FixFirst.Text
