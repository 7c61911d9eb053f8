import FixFirst.Text.CharName.Group

/-!
# Names of the scripts of the Middle East

The names of the characters for the Hebrew, Arabic, Syriac and older scripts of the Middle East
and of Central Asia.
-/

namespace FixFirst.Text

/-- Names of the scripts of the Middle East. -/
def middleEasternNames : List NameGroup := [
  ⟨"HEBREW ACCENT", "
    ETNAHTA; SEGOL; SHALSHELET; ZAQEF QATAN; ZAQEF GADOL; TIPEHA; REVIA; ZARQA; PASHTA; YETIV;
    TEVIR; GERESH; GERESH MUQDAM; GERSHAYIM; QARNEY PARA; TELISHA GEDOLA; PAZER; ATNAH HAFUKH;
    MUNAH; MAHAPAKH; MERKHA; MERKHA KEFULA; DARGA; QADMA; TELISHA QETANA; YERAH BEN YOMO; OLE; ILUY;
    DEHI; ZINOR"⟩,
  ⟨"HEBREW", "
    MARK MASORA CIRCLE; MARK UPPER DOT; MARK LOWER DOT; YOD TRIANGLE; LIGATURE ALEF LAMED"⟩,
  ⟨"HEBREW POINT", "
    SHEVA; HATAF SEGOL; HATAF PATAH; HATAF QAMATS; HIRIQ; TSERE; SEGOL; PATAH; QAMATS; HOLAM;
    HOLAM HASER FOR VAV; QUBUTS; DAGESH OR MAPIQ; METEG; RAFE; SHIN DOT; SIN DOT; QAMATS QATAN;
    JUDEO-SPANISH VARIKA"⟩,
  ⟨"HEBREW PUNCTUATION", "MAQAF; PASEQ; SOF PASUQ; NUN HAFUKHA; GERESH; GERSHAYIM"⟩,
  ⟨"HEBREW LETTER", "
    ALEF; BET; GIMEL; DALET; HE; VAV; ZAYIN; HET; TET; YOD; LAMED; SAMEKH; AYIN; QOF; RESH; SHIN;
    TAV; YOD WITH HIRIQ; ALTERNATIVE AYIN; ALTERNATIVE PLUS SIGN; ALEF WITH PATAH; ALEF WITH QAMATS;
    ALEF WITH MAPIQ; BET WITH DAGESH; GIMEL WITH DAGESH; DALET WITH DAGESH; HE WITH MAPIQ;
    VAV WITH DAGESH; ZAYIN WITH DAGESH; TET WITH DAGESH; YOD WITH DAGESH; LAMED WITH DAGESH;
    MEM WITH DAGESH; NUN WITH DAGESH; SAMEKH WITH DAGESH; TSADI WITH DAGESH; QOF WITH DAGESH;
    RESH WITH DAGESH; TAV WITH DAGESH; VAV WITH HOLAM; BET WITH RAFE; KAF WITH RAFE; PE WITH RAFE"⟩,
  ⟨"HEBREW LETTER FINAL, HEBREW LETTER", "
    KAF; MEM; NUN; PE; TSADI; KAF WITH DAGESH; PE WITH DAGESH"⟩,
  ⟨"HEBREW LIGATURE YIDDISH", "DOUBLE VAV; VAV YOD; DOUBLE YOD; YOD YOD PATAH"⟩,
  ⟨"ARABIC", "
    NUMBER SIGN; FOOTNOTE MARKER; NUMBER MARK ABOVE; RAY; COMMA; DATE SEPARATOR; POETIC VERSE SIGN;
    SEMICOLON; END OF TEXT MARK; TRIPLE DOT PUNCTUATION MARK; QUESTION MARK; TATWEEL; SHADDA; SUKUN;
    MADDAH ABOVE; HAMZA ABOVE; HAMZA BELOW; SUBSCRIPT ALEF; INVERTED DAMMA; MARK NOON GHUNNA;
    ZWARAKAY; REVERSED DAMMA; WAVY HAMZA BELOW; PERCENT SIGN; DECIMAL SEPARATOR;
    THOUSANDS SEPARATOR; FIVE POINTED STAR; FULL STOP; END OF AYAH; START OF RUB EL HIZB;
    PLACE OF SAJDAH; EMPTY CENTRE LOW STOP; EMPTY CENTRE HIGH STOP;
    ROUNDED HIGH STOP WITH FILLED CENTRE; BASELINE ROUND DOT; RAISED ROUND DOT; VERTICAL TAIL;
    POUND MARK ABOVE; PIASTRE MARK ABOVE; MADDA WAAJIB; SUPERSCRIPT ALEF MOKHASSAS; DOUBLED MADDA;
    HALF MADDA OVER MADDA; SUKUN BELOW; LARGE CIRCLE BELOW; DISPUTED END OF AYAH;
    TURNED DAMMA BELOW; OPEN FATHATAN; OPEN DAMMATAN; OPEN KASRATAN; KASRA WITH DOT BELOW;
    LEFT ARROWHEAD ABOVE; LEFT ARROWHEAD BELOW; DAMMA WITH DOT; MARK SIDEWAYS NOON GHUNNA;
    FATHATAN ISOLATED FORM; TAIL FRAGMENT; SHADDA ISOLATED FORM; SHADDA MEDIAL FORM;
    SUKUN ISOLATED FORM; SUKUN MEDIAL FORM"⟩,
  ⟨"ARABIC SIGN", "
    SANAH; SAFHA; SAMVAT; MISRA; SALLALLAHOU ALAYHE WASSALLAM; ALAYHE ASSALLAM; RAHMATULLAH ALAYHE;
    RADI ALLAHOU ANHU; TAKHALLUS; SINDHI AMPERSAND; SINDHI POSTPOSITION MEN"⟩,
  ⟨"ARABIC-INDIC", "CUBE ROOT; FOURTH ROOT; PER MILLE SIGN; PER TEN THOUSAND SIGN"⟩,
  ⟨"", "
    AFGHANI SIGN; ALM; SAMARITAN ABBREVIATION MARK; ORNATE LEFT PARENTHESIS;
    ORNATE RIGHT PARENTHESIS; RIAL SIGN; BOM; BYTE ORDER MARK; ZERO WIDTH NO-BREAK SPACE; ZWNBSP;
    IMPERIAL ARAMAIC SECTION SIGN; PALMYRENE LEFT-POINTING FLEURON;
    PALMYRENE RIGHT-POINTING FLEURON; NABATAEAN CRUCIFORM NUMBER FOUR; PHOENICIAN WORD SEPARATOR;
    LYDIAN TRIANGULAR MARK; MANICHAEAN SIGN UD; AVESTAN ABBREVIATION MARK;
    TINY TWO DOTS OVER ONE DOT PUNCTUATION; SMALL TWO DOTS OVER ONE DOT PUNCTUATION;
    YEZIDI HYPHENATION MARK; SOGDIAN INDEPENDENT SHIN; ELYMAIC LIGATURE ZAYIN-YODH"⟩,
  ⟨"ARABIC SMALL HIGH", "
    TAH; LIGATURE ALEF WITH LAM WITH YEH; ZAIN; LIGATURE SAD WITH LAM WITH ALEF MAKSURA;
    LIGATURE QAF WITH LAM WITH ALEF MAKSURA; MEEM INITIAL FORM; LAM ALEF; JEEM; THREE DOTS; SEEN;
    ROUNDED ZERO; UPRIGHT RECTANGULAR ZERO; DOTLESS HEAD OF KHAH; MEEM ISOLATED FORM; MADDA; YEH;
    NOON; FARSI YEH; YEH BARREE WITH TWO DOTS BELOW; ZAH; SAD; AIN; QAF; NOON WITH KASRA;
    FOOTNOTE MARKER; SIGN SAFHA; WAW"⟩,
  ⟨"ARABIC SMALL", "FATHA; DAMMA; KASRA; WAW; YEH; FARSI YEH"⟩,
  ⟨"ARABIC LETTER", "
    MARK; KASHMIRI YEH; HAMZA; HEH; SUPERSCRIPT ALEF; HIGH HAMZA; HIGH HAMZA ALEF; HIGH HAMZA WAW;
    U WITH HAMZA ABOVE; HIGH HAMZA YEH; TTEH; TTEHEH; BEEH; PEH; TEHEH; BEHEH; NYEH; DYEH; TCHEH;
    TCHEHEH; DDAL; DAHAL; DDAHAL; DUL; RREH; JEH; SAD WITH TWO DOTS BELOW;
    SAD WITH THREE DOTS ABOVE; VEH; PEHEH; KEHEH; SWASH KAF; NG; GAF; NGOEH; GUEH; RNOON; OE; U; YU;
    VE; FARSI YEH; E; AE; SHEEN WITH DOT BELOW; DAD WITH DOT BELOW; AIN WITH TWO DOTS ABOVE;
    AIN WITH TWO DOTS VERTICALLY ABOVE; THIN YEH; ROHINGYA YEH; LOW ALEF; SAD WITH THREE DOTS BELOW;
    STRAIGHT WAW; ZAIN WITH INVERTED V ABOVE; PEH WITH SMALL MEEM ABOVE; AFRICAN FEH; AFRICAN QAF;
    AFRICAN NOON; PEH WITH SMALL V; TTEH WITH SMALL V; AFRICAN QAF WITH THREE DOTS ABOVE; GRAF;
    BEEH ISOLATED FORM; BEEH FINAL FORM; BEEH INITIAL FORM; BEEH MEDIAL FORM; PEH ISOLATED FORM;
    PEH FINAL FORM; PEH INITIAL FORM; PEH MEDIAL FORM; BEHEH ISOLATED FORM; BEHEH FINAL FORM;
    BEHEH INITIAL FORM; BEHEH MEDIAL FORM; TTEHEH ISOLATED FORM; TTEHEH FINAL FORM;
    TTEHEH INITIAL FORM; TTEHEH MEDIAL FORM; TEHEH ISOLATED FORM; TEHEH FINAL FORM;
    TEHEH INITIAL FORM; TEHEH MEDIAL FORM; TTEH ISOLATED FORM; TTEH FINAL FORM; TTEH INITIAL FORM;
    TTEH MEDIAL FORM; VEH ISOLATED FORM; VEH FINAL FORM; VEH INITIAL FORM; VEH MEDIAL FORM;
    PEHEH ISOLATED FORM; PEHEH FINAL FORM; PEHEH INITIAL FORM; PEHEH MEDIAL FORM;
    DYEH ISOLATED FORM; DYEH FINAL FORM; DYEH INITIAL FORM; DYEH MEDIAL FORM; NYEH ISOLATED FORM;
    NYEH FINAL FORM; NYEH INITIAL FORM; NYEH MEDIAL FORM; TCHEHEH ISOLATED FORM; TCHEHEH FINAL FORM;
    TCHEHEH INITIAL FORM; TCHEHEH MEDIAL FORM; DDAHAL ISOLATED FORM; DDAHAL FINAL FORM;
    DAHAL ISOLATED FORM; DAHAL FINAL FORM; DUL ISOLATED FORM; DUL FINAL FORM; DDAL ISOLATED FORM;
    DDAL FINAL FORM; JEH ISOLATED FORM; JEH FINAL FORM; RREH ISOLATED FORM; RREH FINAL FORM;
    KEHEH ISOLATED FORM; KEHEH FINAL FORM; KEHEH INITIAL FORM; KEHEH MEDIAL FORM;
    GUEH ISOLATED FORM; GUEH FINAL FORM; GUEH INITIAL FORM; GUEH MEDIAL FORM; NGOEH ISOLATED FORM;
    NGOEH FINAL FORM; NGOEH INITIAL FORM; NGOEH MEDIAL FORM; RNOON ISOLATED FORM; RNOON FINAL FORM;
    RNOON INITIAL FORM; RNOON MEDIAL FORM; NG ISOLATED FORM; NG FINAL FORM; NG INITIAL FORM;
    NG MEDIAL FORM; U WITH HAMZA ABOVE ISOLATED FORM; VE ISOLATED FORM; VE FINAL FORM;
    E MEDIAL FORM; HAMZA ISOLATED FORM; BEH ISOLATED FORM; BEH FINAL FORM; BEH INITIAL FORM;
    BEH MEDIAL FORM; THEH ISOLATED FORM; THEH FINAL FORM; THEH INITIAL FORM; THEH MEDIAL FORM;
    HAH ISOLATED FORM; HAH INITIAL FORM; KHAH INITIAL FORM; DAL ISOLATED FORM; DAL FINAL FORM;
    THAL ISOLATED FORM; THAL FINAL FORM; ZAIN ISOLATED FORM; SEEN ISOLATED FORM; SEEN FINAL FORM;
    SEEN INITIAL FORM; SEEN MEDIAL FORM; SHEEN ISOLATED FORM; SHEEN FINAL FORM; SHEEN INITIAL FORM;
    SHEEN MEDIAL FORM; SAD ISOLATED FORM; SAD FINAL FORM; SAD INITIAL FORM; SAD MEDIAL FORM;
    DAD ISOLATED FORM; DAD FINAL FORM; DAD INITIAL FORM; DAD MEDIAL FORM; ZAH ISOLATED FORM;
    ZAH FINAL FORM; ZAH INITIAL FORM; ZAH MEDIAL FORM; AIN ISOLATED FORM; AIN FINAL FORM;
    AIN INITIAL FORM; AIN MEDIAL FORM; FEH ISOLATED FORM; FEH FINAL FORM; FEH INITIAL FORM;
    FEH MEDIAL FORM; KAF ISOLATED FORM; KAF FINAL FORM; KAF INITIAL FORM; KAF MEDIAL FORM"⟩,
  ⟨"ARABIC LETTER ALEF WITH", "
    MADDA ABOVE; HAMZA BELOW; WAVY HAMZA ABOVE; WAVY HAMZA BELOW; RIGHT MIDDLE STROKE;
    LEFT MIDDLE STROKE; RIGHT MIDDLE STROKE AND DOT ABOVE; RIGHT MIDDLE STROKE AND LEFT RING"⟩,
  ⟨"ARABIC LETTER ALEF WITH, ARABIC LETTER WAW WITH", "
    HAMZA ABOVE; EXTENDED ARABIC-INDIC DIGIT TWO ABOVE; EXTENDED ARABIC-INDIC DIGIT THREE ABOVE;
    DOT ABOVE"⟩,
  ⟨"ARABIC LETTER YEH", "
    WITH HAMZA ABOVE; WITH TAIL; WITH SMALL V; WITH THREE DOTS BELOW; BARREE; BARREE ISOLATED FORM;
    BARREE FINAL FORM"⟩,
  ⟨"ARABIC LETTER, ARABIC MATHEMATICAL", "ALEF; KAF; DOTLESS BEH; DOTLESS QAF; DOTLESS FEH"⟩,
  ⟨"ARABIC LETTER, ARABIC MATHEMATICAL, ARABIC MATHEMATICAL LOOPED,
    ARABIC MATHEMATICAL DOUBLE-STRUCK", "
    BEH; TEH; THEH; JEEM; HAH; KHAH; DAL; THAL; REH; ZAIN; SEEN; SHEEN; SAD; DAD; TAH; ZAH; AIN;
    GHAIN; FEH; QAF; LAM; MEEM; NOON; WAW; YEH"⟩,
  ⟨"ARABIC LETTER TEH", "
    MARBUTA; WITH RING; WITH THREE DOTS ABOVE DOWNWARDS; MARBUTA GOAL; WITH SMALL TEH ABOVE;
    WITH SMALL V; MARBUTA ISOLATED FORM; MARBUTA FINAL FORM"⟩,
  ⟨"ARABIC LETTER KEHEH WITH", "
    TWO DOTS ABOVE; THREE DOTS BELOW; DOT ABOVE; THREE DOTS ABOVE;
    THREE DOTS POINTING UPWARDS BELOW; TWO DOTS VERTICALLY BELOW; SMALL V"⟩,
  ⟨"ARABIC LETTER FARSI YEH", "WITH INVERTED V; WITH TWO DOTS ABOVE; WITH THREE DOTS ABOVE"⟩,
  ⟨"ARABIC LETTER ALEF", "
    MAKSURA; WASLA; WASLA ISOLATED FORM; WASLA FINAL FORM; ISOLATED FORM; FINAL FORM;
    MAKSURA ISOLATED FORM; MAKSURA FINAL FORM"⟩,
  ⟨"ARABIC, ARABIC CURLY", "FATHATAN; DAMMATAN; KASRATAN; FATHA; DAMMA; KASRA"⟩,
  ⟨"ARABIC VOWEL SIGN", "SMALL V ABOVE; INVERTED SMALL V ABOVE; DOT BELOW"⟩,
  ⟨"ARABIC FATHA", "WITH TWO DOTS; WITH RING; WITH DOT ABOVE; ISOLATED FORM; MEDIAL FORM"⟩,
  ⟨"ARABIC-INDIC DIGIT, EXTENDED ARABIC-INDIC DIGIT, HANIFI ROHINGYA DIGIT", "
    ZERO; ONE; TWO; THREE; FOUR; FIVE; SIX; SEVEN; EIGHT; NINE"⟩,
  ⟨"ARABIC LETTER HAH WITH", "
    HAMZA ABOVE; TWO DOTS VERTICAL ABOVE; THREE DOTS ABOVE; TWO DOTS ABOVE;
    THREE DOTS POINTING UPWARDS BELOW; EXTENDED ARABIC-INDIC DIGIT FOUR BELOW;
    INVERTED SMALL V BELOW"⟩,
  ⟨"ARABIC LETTER DAL WITH", "
    RING; DOT BELOW; DOT BELOW AND SMALL TAH; THREE DOTS ABOVE DOWNWARDS; FOUR DOTS ABOVE;
    INVERTED V; TWO DOTS VERTICALLY BELOW AND SMALL TAH; INVERTED SMALL V BELOW; THREE DOTS BELOW"⟩,
  ⟨"ARABIC LETTER REH WITH", "
    SMALL V; RING; DOT BELOW; SMALL V BELOW; TWO DOTS ABOVE; STROKE; HAMZA ABOVE; LOOP;
    SMALL NOON ABOVE"⟩,
  ⟨"ARABIC LETTER REH WITH, ARABIC LETTER SEEN WITH", "
    DOT BELOW AND DOT ABOVE; FOUR DOTS ABOVE; INVERTED V; TWO DOTS VERTICALLY ABOVE;
    SMALL ARABIC LETTER TAH AND TWO DOTS"⟩,
  ⟨"ARABIC LETTER SEEN WITH", "
    THREE DOTS BELOW; THREE DOTS BELOW AND THREE DOTS ABOVE;
    EXTENDED ARABIC-INDIC DIGIT FOUR ABOVE"⟩,
  ⟨"ARABIC LETTER TAH, ARABIC LETTER JEEM", "
    WITH THREE DOTS ABOVE; WITH THREE DOTS BELOW; WITH TWO DOTS ABOVE; ISOLATED FORM; FINAL FORM;
    INITIAL FORM; MEDIAL FORM"⟩,
  ⟨"ARABIC LETTER AIN WITH THREE DOTS", "ABOVE; POINTING DOWNWARDS ABOVE; BELOW"⟩,
  ⟨"ARABIC LETTER FEH WITH", "
    DOT MOVED BELOW; DOT BELOW; THREE DOTS BELOW; TWO DOTS BELOW; THREE DOTS POINTING UPWARDS BELOW;
    DOT BELOW AND THREE DOTS ABOVE"⟩,
  ⟨"ARABIC LETTER QAF, ARABIC LETTER MEEM", "WITH DOT ABOVE"⟩,
  ⟨"ARABIC LETTER QAF, ARABIC LETTER GHAIN, ARABIC LETTER MEEM", "
    WITH THREE DOTS ABOVE; WITH DOT BELOW; ISOLATED FORM; FINAL FORM; INITIAL FORM; MEDIAL FORM"⟩,
  ⟨"ARABIC LETTER KAF WITH", "RING; DOT ABOVE; THREE DOTS BELOW; TWO DOTS ABOVE; DOT BELOW"⟩,
  ⟨"ARABIC LETTER GAF", "
    WITH RING; WITH TWO DOTS BELOW; WITH THREE DOTS ABOVE; WITH INVERTED STROKE"⟩,
  ⟨"ARABIC LETTER LAM WITH", "
    SMALL V; DOT ABOVE; THREE DOTS ABOVE; THREE DOTS BELOW; BAR; DOUBLE BAR;
    SMALL ARABIC LETTER TAH ABOVE"⟩,
  ⟨"ARABIC LETTER NOON WITH", "
    DOT BELOW; RING; THREE DOTS ABOVE; TWO DOTS BELOW; SMALL TAH; SMALL V; INVERTED SMALL V"⟩,
  ⟨"ARABIC LETTER NOON", "GHUNNA; GHUNNA ISOLATED FORM; GHUNNA FINAL FORM"⟩,
  ⟨"ARABIC LETTER HEH", "
    DOACHASHMEE; WITH YEH ABOVE; GOAL; GOAL WITH HAMZA ABOVE; WITH INVERTED V;
    WITH YEH ABOVE ISOLATED FORM; WITH YEH ABOVE FINAL FORM; GOAL ISOLATED FORM; GOAL FINAL FORM;
    GOAL INITIAL FORM; GOAL MEDIAL FORM"⟩,
  ⟨"ARABIC LETTER TCHEH", "WITH DOT ABOVE; WITH SMALL V"⟩,
  ⟨"ARABIC LETTER WAW WITH", "
    RING; TWO DOTS ABOVE; DOT WITHIN; HAMZA ABOVE ISOLATED FORM; HAMZA ABOVE FINAL FORM"⟩,
  ⟨"ARABIC LETTER KIRGHIZ", "
    OE; YU; OE ISOLATED FORM; OE FINAL FORM; YU ISOLATED FORM; YU FINAL FORM"⟩,
  ⟨"ARABIC LETTER YEH BARREE WITH HAMZA", "ABOVE; ABOVE ISOLATED FORM; ABOVE FINAL FORM"⟩,
  ⟨"ARABIC SMALL LOW", "SEEN; MEEM; WORD ISHMAAM; WORD IMAALA; WORD TASHEEL; WAW; NOON WITH KASRA"⟩,
  ⟨"SYRIAC", "
    END OF PARAGRAPH; HORIZONTAL COLON; COLON SKEWED LEFT; COLON SKEWED RIGHT; CONTRACTION;
    ABBREVIATION MARK; PTHAHA ABOVE; PTHAHA BELOW; PTHAHA DOTTED; ZQAPHA ABOVE; ZQAPHA BELOW;
    ZQAPHA DOTTED; RBASA ABOVE; RBASA BELOW; DOTTED ZLAMA HORIZONTAL; DOTTED ZLAMA ANGULAR;
    HBASA ABOVE; HBASA BELOW; HBASA-ESASA DOTTED; ESASA ABOVE; ESASA BELOW; RWAHA; FEMININE DOT;
    QUSHSHAYA; RUKKAKHA; THREE DOTS ABOVE; THREE DOTS BELOW; OBLIQUE LINE ABOVE; OBLIQUE LINE BELOW;
    MUSIC; BARREKH"⟩,
  ⟨"SYRIAC SUPRALINEAR", "FULL STOP; COLON; COLON SKEWED LEFT"⟩,
  ⟨"SYRIAC SUBLINEAR", "FULL STOP; COLON; COLON SKEWED LEFT; COLON SKEWED RIGHT"⟩,
  ⟨"SYRIAC HARKLEAN", "OBELUS; METOBELUS; ASTERISCUS"⟩,
  ⟨"SYRIAC LETTER", "
    ALAPH; SUPERSCRIPT ALAPH; BETH; GAMAL; GAMAL GARSHUNI; DALATH; DOTLESS DALATH RISH; HE; WAW;
    ZAIN; HETH; TETH; TETH GARSHUNI; YUDH; YUDH HE; KAPH; LAMADH; MIM; NUN; SEMKATH; FINAL SEMKATH;
    E; PE; REVERSED PE; SADHE; QAPH; RISH; SHIN; TAW; PERSIAN BHETH; PERSIAN GHAMAL;
    PERSIAN DHALATH; SOGDIAN ZHAIN; SOGDIAN KHAPH; SOGDIAN FE"⟩,
  ⟨"SYRIAC TWO VERTICAL DOTS, MANICHAEAN ABBREVIATION MARK", "ABOVE; BELOW"⟩,
  ⟨"ARABIC LETTER BEH WITH", "
    THREE DOTS HORIZONTALLY BELOW; DOT BELOW AND THREE DOTS ABOVE;
    THREE DOTS POINTING UPWARDS BELOW; THREE DOTS POINTING UPWARDS BELOW AND TWO DOTS ABOVE;
    TWO DOTS BELOW AND DOT ABOVE; INVERTED SMALL V BELOW; SMALL V; SMALL V BELOW; HAMZA ABOVE;
    SMALL MEEM ABOVE"⟩,
  ⟨"ARABIC LETTER HAH WITH SMALL ARABIC LETTER TAH", "BELOW; AND TWO DOTS; ABOVE"⟩,
  ⟨"ARABIC LETTER FARSI YEH WITH EXTENDED ARABIC-INDIC DIGIT", "
    TWO ABOVE; THREE ABOVE; FOUR BELOW"⟩,
  ⟨"ARABIC LETTER YEH BARREE WITH EXTENDED ARABIC-INDIC DIGIT", "TWO ABOVE; THREE ABOVE"⟩,
  ⟨"THAANA LETTER", "
    HAA; SHAVIYANI; NOONU; RAA; BAA; LHAVIYANI; KAAFU; ALIFU; VAAVU; MEEMU; FAAFU; DHAALU; THAA;
    LAAMU; GAAFU; GNAVIYANI; SEENU; DAVIYANI; ZAVIYANI; TAVIYANI; YAA; PAVIYANI; JAVIYANI;
    CHAVIYANI; TTAA; HHAA; KHAA; THAALU; ZAA; SHEENU; SAADHU; DAADHU; TO; ZO; AINU; GHAINU; QAAFU;
    WAAVU; NAA"⟩,
  ⟨"THAANA", "
    ABAFILI; AABAAFILI; IBIFILI; EEBEEFILI; UBUFILI; OOBOOFILI; EBEFILI; EYBEYFILI; OBOFILI;
    OABOAFILI; SUKUN"⟩,
  ⟨"SAMARITAN LETTER", "
    ALAF; BIT; GAMAN; DALAT; IY; BAA; ZEN; IT; TIT; YUT; KAAF; LABAT; MIM; NUN; SINGAAT; IN; FI;
    TSAADIY; QUF; RISH; SHAN; TAAF"⟩,
  ⟨"SAMARITAN MARK", "IN; IN-ALAF; OCCLUSION; DAGESH; EPENTHETIC YUT; NEQUDAA"⟩,
  ⟨"SAMARITAN MODIFIER LETTER", "EPENTHETIC YUT; SHORT A; I"⟩,
  ⟨"SAMARITAN VOWEL SIGN", "
    LONG E; E; OVERLONG AA; LONG AA; AA; OVERLONG A; LONG A; A; SHORT A; LONG U; U; LONG I; I; O;
    SUKUN"⟩,
  ⟨"SAMARITAN PUNCTUATION", "
    NEQUDAA; AFSAAQ; ANGED; BAU; ATMAAU; SHIYYAALAA; MELODIC QITSA; ZIQAA; QITSA; ZAEF; TURU;
    ARKAANU; SOF MASHFAAT; ANNAAU"⟩,
  ⟨"MANDAIC LETTER", "
    HALQA; AB; AG; AD; AH; USHENNA; AZ; IT; ATT; AKSA; AK; AL; AM; AN; AS; IN; AP; ASZ; AQ; AR; ASH;
    AT; DUSHENNA; KAD; AIN"⟩,
  ⟨"MANDAIC", "AFFRICATION MARK; VOCALIZATION MARK; GEMINATION MARK; PUNCTUATION"⟩,
  ⟨"SYRIAC LETTER MALAYALAM", "NGA; JA; NYA; TTA; NNA; NNNA; BHA; RA; LLA; LLLA; SSA"⟩,
  ⟨"ARABIC LETTER ALEF WITH ATTACHED", "
    FATHA; TOP RIGHT FATHA; KASRA; BOTTOM RIGHT KASRA; ROUND DOT ABOVE; RIGHT ROUND DOT;
    LEFT ROUND DOT; ROUND DOT BELOW; TOP RIGHT FATHA AND DOT ABOVE;
    BOTTOM RIGHT KASRA AND DOT ABOVE; TOP RIGHT FATHA AND LEFT RING;
    BOTTOM RIGHT KASRA AND LEFT RING; RIGHT HAMZA; LEFT HAMZA"⟩,
  ⟨"ARABIC TATWEEL WITH", "OVERSTRUCK HAMZA; OVERSTRUCK WAW; TWO DOTS BELOW; FATHATAN ABOVE"⟩,
  ⟨"ARABIC LETTER TAH", "WITH DOT BELOW"⟩,
  ⟨"ARABIC SMALL HIGH WORD", "
    AL-JUZ; SAH; AR-RUB; ATH-THALATHA; AS-SAJDA; AN-NISF; SAKTA; QIF; WAQFA"⟩,
  ⟨"ARABIC LETTER YEH WITH TWO DOTS BELOW AND", "HAMZA ABOVE; DOT ABOVE; SMALL NOON ABOVE"⟩,
  ⟨"ARABIC LETTER QAF", "WITH DOT BELOW AND NO DOTS ABOVE"⟩,
  ⟨"ARABIC LARGE ROUND DOT", "ABOVE; BELOW; INSIDE CIRCLE BELOW"⟩,
  ⟨"ARABIC TONE", "
    ONE DOT ABOVE; TWO DOTS ABOVE; LOOP ABOVE; ONE DOT BELOW; TWO DOTS BELOW; LOOP BELOW"⟩,
  ⟨"ARABIC RIGHT ARROWHEAD", "ABOVE; BELOW; ABOVE WITH DOT"⟩,
  ⟨"ARABIC DOUBLE RIGHT ARROWHEAD", "ABOVE; ABOVE WITH DOT"⟩,
  ⟨"HEBREW LETTER WIDE", "ALEF; DALET; HE; KAF; LAMED; FINAL MEM; RESH; TAV"⟩,
  ⟨"HEBREW LETTER SHIN WITH", "SHIN DOT; SIN DOT; DAGESH AND SHIN DOT; DAGESH AND SIN DOT; DAGESH"⟩,
  ⟨"ARABIC LETTER TCHEH, ARABIC LETTER GAF, ARABIC LETTER HEH DOACHASHMEE, ARABIC LETTER FARSI YEH,
    ARABIC LETTER YEH WITH HAMZA ABOVE, ARABIC LETTER TEH, ARABIC LETTER NOON, ARABIC LETTER HEH,
    ARABIC LETTER YEH", "
    ISOLATED FORM; FINAL FORM; INITIAL FORM; MEDIAL FORM"⟩,
  ⟨"ARABIC SYMBOL", "
    DOT ABOVE; DOT BELOW; FOUR DOTS ABOVE; FOUR DOTS BELOW; DOUBLE VERTICAL BAR BELOW; RING;
    SMALL TAH ABOVE; SMALL TAH BELOW; WASLA ABOVE"⟩,
  ⟨"ARABIC SYMBOL TWO DOTS", "ABOVE; BELOW; VERTICALLY ABOVE; VERTICALLY BELOW"⟩,
  ⟨"ARABIC SYMBOL THREE DOTS", "ABOVE; BELOW; POINTING DOWNWARDS ABOVE; POINTING DOWNWARDS BELOW"⟩,
  ⟨"ARABIC LETTER, ARABIC LIGATURE YEH WITH HAMZA ABOVE WITH", "
    U ISOLATED FORM; U FINAL FORM; OE ISOLATED FORM; OE FINAL FORM; YU ISOLATED FORM; YU FINAL FORM;
    E ISOLATED FORM; E FINAL FORM; E INITIAL FORM; REH FINAL FORM; ZAIN FINAL FORM;
    WAW ISOLATED FORM; WAW FINAL FORM"⟩,
  ⟨"ARABIC LETTER UIGHUR KAZAKH KIRGHIZ ALEF MAKSURA", "INITIAL FORM; MEDIAL FORM"⟩,
  ⟨"ARABIC LIGATURE YEH WITH HAMZA ABOVE WITH, ARABIC LIGATURE KAF WITH", "
    ALEF ISOLATED FORM; ALEF FINAL FORM; MEEM FINAL FORM; HAH INITIAL FORM; KHAH INITIAL FORM;
    MEEM MEDIAL FORM"⟩,
  ⟨"ARABIC LIGATURE YEH WITH HAMZA ABOVE WITH", "
    AE ISOLATED FORM; AE FINAL FORM; NOON FINAL FORM; HEH INITIAL FORM; HEH MEDIAL FORM"⟩,
  ⟨"ARABIC LIGATURE UIGHUR KIRGHIZ YEH WITH HAMZA ABOVE WITH ALEF MAKSURA", "
    ISOLATED FORM; FINAL FORM; INITIAL FORM"⟩,
  ⟨"ARABIC LIGATURE YEH WITH HAMZA ABOVE WITH, ARABIC LIGATURE BEH WITH, ARABIC LIGATURE TEH WITH,
    ARABIC LIGATURE KHAH WITH, ARABIC LIGATURE SEEN WITH, ARABIC LIGATURE DAD WITH,
    ARABIC LIGATURE FEH WITH, ARABIC LIGATURE KAF WITH, ARABIC LIGATURE YEH WITH,
    ARABIC LIGATURE SHEEN WITH", "
    JEEM ISOLATED FORM; HAH ISOLATED FORM; MEEM ISOLATED FORM; ALEF MAKSURA ISOLATED FORM;
    YEH ISOLATED FORM; ALEF MAKSURA FINAL FORM; YEH FINAL FORM; JEEM INITIAL FORM;
    MEEM INITIAL FORM"⟩,
  ⟨"ARABIC LIGATURE BEH WITH, ARABIC LIGATURE TEH WITH, ARABIC LIGATURE SEEN WITH,
    ARABIC LIGATURE YEH WITH, ARABIC LIGATURE SHEEN WITH", "
    KHAH ISOLATED FORM; REH FINAL FORM; HAH INITIAL FORM; KHAH INITIAL FORM; HEH INITIAL FORM;
    MEEM MEDIAL FORM; HEH MEDIAL FORM"⟩,
  ⟨"ARABIC LIGATURE THEH WITH", "
    JEEM ISOLATED FORM; ZAIN FINAL FORM; MEEM FINAL FORM; NOON FINAL FORM; MEEM MEDIAL FORM;
    HEH MEDIAL FORM"⟩,
  ⟨"ARABIC LIGATURE THEH WITH, ARABIC LIGATURE SAD WITH", "
    MEEM ISOLATED FORM; ALEF MAKSURA ISOLATED FORM; YEH ISOLATED FORM; REH FINAL FORM;
    ALEF MAKSURA FINAL FORM; YEH FINAL FORM; MEEM INITIAL FORM"⟩,
  ⟨"ARABIC LIGATURE JEEM WITH, ARABIC LIGATURE TAH WITH, ARABIC LIGATURE QAF WITH", "
    HAH ISOLATED FORM; MEEM ISOLATED FORM; HAH INITIAL FORM; MEEM INITIAL FORM;
    ALEF MAKSURA ISOLATED FORM; YEH ISOLATED FORM; ALEF MAKSURA FINAL FORM; YEH FINAL FORM;
    MEEM WITH HAH FINAL FORM; MEEM WITH HAH INITIAL FORM; MEEM WITH YEH FINAL FORM"⟩,
  ⟨"ARABIC LIGATURE HAH WITH, ARABIC LIGATURE AIN WITH, ARABIC LIGATURE GHAIN WITH", "
    JEEM ISOLATED FORM; MEEM ISOLATED FORM; JEEM INITIAL FORM; MEEM INITIAL FORM;
    ALEF MAKSURA ISOLATED FORM; YEH ISOLATED FORM; ALEF MAKSURA FINAL FORM; YEH FINAL FORM;
    MEEM WITH YEH FINAL FORM; MEEM WITH ALEF MAKSURA FINAL FORM"⟩,
  ⟨"ARABIC LIGATURE SAD WITH", "
    HAH ISOLATED FORM; HAH INITIAL FORM; KHAH INITIAL FORM; REH ISOLATED FORM;
    HAH WITH HAH FINAL FORM; HAH WITH HAH INITIAL FORM; MEEM WITH MEEM FINAL FORM;
    HAH WITH YEH FINAL FORM; MEEM WITH MEEM INITIAL FORM"⟩,
  ⟨"ARABIC LIGATURE DAD WITH, ARABIC LIGATURE FEH WITH", "
    KHAH ISOLATED FORM; HAH INITIAL FORM; KHAH INITIAL FORM; KHAH WITH MEEM FINAL FORM;
    KHAH WITH MEEM INITIAL FORM"⟩,
  ⟨"ARABIC LIGATURE ZAH WITH MEEM", "ISOLATED FORM; INITIAL FORM; MEDIAL FORM"⟩,
  ⟨"ARABIC LIGATURE KAF WITH, ARABIC LETTER", "
    KHAH ISOLATED FORM; LAM ISOLATED FORM; LAM FINAL FORM; LAM INITIAL FORM; LAM MEDIAL FORM"⟩,
  ⟨"ARABIC LIGATURE LAM WITH, ARABIC LIGATURE MEEM WITH, ARABIC LIGATURE NOON WITH", "
    JEEM ISOLATED FORM; HAH ISOLATED FORM; KHAH ISOLATED FORM; MEEM ISOLATED FORM;
    ALEF MAKSURA ISOLATED FORM; YEH ISOLATED FORM; MEEM FINAL FORM; JEEM INITIAL FORM;
    HAH INITIAL FORM; KHAH INITIAL FORM; MEEM INITIAL FORM; HAH WITH YEH FINAL FORM;
    MEEM WITH YEH FINAL FORM; HAH WITH MEEM INITIAL FORM"⟩,
  ⟨"ARABIC LIGATURE HEH WITH", "
    JEEM ISOLATED FORM; MEEM ISOLATED FORM; ALEF MAKSURA ISOLATED FORM; YEH ISOLATED FORM;
    JEEM INITIAL FORM; MEEM INITIAL FORM; SUPERSCRIPT ALEF INITIAL FORM;
    MEEM WITH JEEM INITIAL FORM; MEEM WITH MEEM INITIAL FORM"⟩,
  ⟨"ARABIC LIGATURE", "
    THAL WITH SUPERSCRIPT ALEF ISOLATED FORM; REH WITH SUPERSCRIPT ALEF ISOLATED FORM;
    ALEF WITH FATHATAN FINAL FORM; ALEF WITH FATHATAN ISOLATED FORM; RAHIMAHU ALLAAH;
    SALLALLAAHU ALAYHI WA-AALIH; ALAYHI AS-SALAAM; ALAYHIM AS-SALAAM; ALAYHIMAA AS-SALAAM;
    ALAYHI AS-SALAATU WAS-SALAAM; QUDDISA SIRRAH; SALLALLAHU ALAYHI WAAALIHEE WA-SALLAM;
    ALAYHAA AS-SALAAM; TABAARAKA WA-TAAALAA; RAHIMAHUM ALLAAH; SALAAMUHU ALAYNAA;
    SALLA USED AS KORANIC STOP SIGN ISOLATED FORM; QALA USED AS KORANIC STOP SIGN ISOLATED FORM;
    ALLAH ISOLATED FORM; AKBAR ISOLATED FORM; MOHAMMAD ISOLATED FORM; SALAM ISOLATED FORM;
    RASOUL ISOLATED FORM; ALAYHE ISOLATED FORM; WASALLAM ISOLATED FORM; SALLA ISOLATED FORM;
    SALLALLAHOU ALAYHE WASALLAM; JALLAJALALOUHOU; BISMILLAH AR-RAHMAN AR-RAHEEM;
    SUBHAANAHU WA TAAALAA; AZZA WA JALL"⟩,
  ⟨"ARABIC LIGATURE ALEF MAKSURA WITH SUPERSCRIPT ALEF", "ISOLATED FORM; FINAL FORM"⟩,
  ⟨"ARABIC LIGATURE SHADDA WITH, ARABIC", "
    DAMMATAN ISOLATED FORM; KASRATAN ISOLATED FORM; DAMMA ISOLATED FORM; KASRA ISOLATED FORM;
    DAMMA MEDIAL FORM; KASRA MEDIAL FORM"⟩,
  ⟨"ARABIC LIGATURE SHADDA WITH", "
    FATHA ISOLATED FORM; SUPERSCRIPT ALEF ISOLATED FORM; FATHA MEDIAL FORM"⟩,
  ⟨"ARABIC LIGATURE BEH WITH", "ZAIN FINAL FORM; NOON FINAL FORM; KHAH WITH YEH FINAL FORM"⟩,
  ⟨"ARABIC LIGATURE BEH WITH, ARABIC LIGATURE YEH WITH, ARABIC LIGATURE SHEEN WITH", "
    MEEM FINAL FORM; HAH WITH YEH FINAL FORM"⟩,
  ⟨"ARABIC LIGATURE TEH WITH", "
    ZAIN FINAL FORM; MEEM FINAL FORM; NOON FINAL FORM; JEEM WITH MEEM INITIAL FORM;
    HAH WITH JEEM FINAL FORM; HAH WITH MEEM INITIAL FORM; KHAH WITH MEEM INITIAL FORM;
    JEEM WITH YEH FINAL FORM"⟩,
  ⟨"ARABIC LIGATURE LAM WITH, ARABIC LIGATURE NOON WITH", "
    ALEF MAKSURA FINAL FORM; YEH FINAL FORM; HEH INITIAL FORM; MEEM MEDIAL FORM;
    HAH WITH ALEF MAKSURA FINAL FORM"⟩,
  ⟨"ARABIC LIGATURE MEEM WITH", "
    ALEF FINAL FORM; HAH WITH JEEM INITIAL FORM; JEEM WITH HAH INITIAL FORM;
    JEEM WITH MEEM INITIAL FORM; KHAH WITH JEEM INITIAL FORM; KHAH WITH MEEM INITIAL FORM;
    JEEM WITH KHAH INITIAL FORM; KHAH WITH YEH FINAL FORM; JEEM WITH YEH FINAL FORM"⟩,
  ⟨"ARABIC LIGATURE NOON WITH", "
    REH FINAL FORM; ZAIN FINAL FORM; NOON FINAL FORM; HEH MEDIAL FORM;
    MEEM WITH ALEF MAKSURA FINAL FORM"⟩,
  ⟨"ARABIC LIGATURE YEH WITH", "ZAIN FINAL FORM; NOON FINAL FORM; MEEM WITH YEH FINAL FORM"⟩,
  ⟨"ARABIC LIGATURE SHEEN WITH, ARABIC LETTER", "
    REH ISOLATED FORM; HAH FINAL FORM; KHAH FINAL FORM; HAH MEDIAL FORM; KHAH MEDIAL FORM"⟩,
  ⟨"ARABIC LIGATURE SEEN WITH", "
    REH ISOLATED FORM; JEEM MEDIAL FORM; HAH MEDIAL FORM; KHAH MEDIAL FORM;
    JEEM WITH HAH INITIAL FORM"⟩,
  ⟨"ARABIC LIGATURE DAD WITH", "
    REH ISOLATED FORM; REH FINAL FORM; HAH WITH ALEF MAKSURA FINAL FORM; HAH WITH YEH FINAL FORM"⟩,
  ⟨"ARABIC LIGATURE SHEEN WITH", "
    JEEM FINAL FORM; JEEM MEDIAL FORM; HAH WITH MEEM FINAL FORM; HAH WITH MEEM INITIAL FORM;
    MEEM WITH KHAH FINAL FORM; MEEM WITH KHAH INITIAL FORM"⟩,
  ⟨"ARABIC LIGATURE TAH WITH", "MEEM MEDIAL FORM; MEEM WITH MEEM INITIAL FORM"⟩,
  ⟨"ARABIC LIGATURE RADI ALLAAHU", "ANH; ANHAA; ANHUM; ANHUMAA; ANHUNNA"⟩,
  ⟨"ARABIC LIGATURE TEH WITH, ARABIC LIGATURE SEEN WITH", "
    HAH WITH JEEM INITIAL FORM; JEEM WITH ALEF MAKSURA FINAL FORM; KHAH WITH YEH FINAL FORM;
    KHAH WITH ALEF MAKSURA FINAL FORM"⟩,
  ⟨"ARABIC LIGATURE TEH WITH MEEM WITH", "
    JEEM INITIAL FORM; HAH INITIAL FORM; KHAH INITIAL FORM; YEH FINAL FORM;
    ALEF MAKSURA FINAL FORM"⟩,
  ⟨"ARABIC LIGATURE SEEN WITH MEEM WITH", "
    HAH FINAL FORM; HAH INITIAL FORM; JEEM INITIAL FORM; MEEM FINAL FORM; MEEM INITIAL FORM"⟩,
  ⟨"ARABIC LIGATURE SHEEN WITH, ARABIC LIGATURE YEH WITH", "
    JEEM WITH YEH FINAL FORM; MEEM WITH MEEM FINAL FORM; MEEM WITH MEEM INITIAL FORM"⟩,
  ⟨"ARABIC LIGATURE AIN WITH", "
    JEEM WITH MEEM FINAL FORM; MEEM WITH MEEM INITIAL FORM; JEEM WITH MEEM INITIAL FORM"⟩,
  ⟨"ARABIC LIGATURE AIN WITH, ARABIC LIGATURE GHAIN WITH, ARABIC LIGATURE QAF WITH", "
    MEEM WITH MEEM FINAL FORM"⟩,
  ⟨"ARABIC LIGATURE LAM WITH", "
    HAH WITH MEEM FINAL FORM; KHAH WITH MEEM FINAL FORM; KHAH WITH MEEM INITIAL FORM;
    MEEM WITH HAH FINAL FORM; MEEM WITH HAH INITIAL FORM; ALEF ISOLATED FORM; ALEF FINAL FORM"⟩,
  ⟨"ARABIC LIGATURE LAM WITH JEEM WITH", "
    JEEM INITIAL FORM; JEEM FINAL FORM; YEH FINAL FORM; MEEM INITIAL FORM; MEEM FINAL FORM"⟩,
  ⟨"ARABIC LIGATURE NOON WITH JEEM WITH", "
    MEEM FINAL FORM; MEEM INITIAL FORM; ALEF MAKSURA FINAL FORM; HAH INITIAL FORM; HAH FINAL FORM;
    YEH FINAL FORM"⟩,
  ⟨"ARABIC LIGATURE JEEM WITH", "
    HAH WITH ALEF MAKSURA FINAL FORM; MEEM WITH ALEF MAKSURA FINAL FORM; HAH WITH YEH FINAL FORM"⟩,
  ⟨"ARABIC LIGATURE KAF WITH", "
    MEEM WITH YEH FINAL FORM; MEEM WITH MEEM FINAL FORM; MEEM WITH MEEM INITIAL FORM"⟩,
  ⟨"ARABIC LIGATURE HAH WITH", "JEEM WITH YEH FINAL FORM"⟩,
  ⟨"ARABIC LIGATURE FEH WITH", "MEEM WITH YEH FINAL FORM"⟩,
  ⟨"ARABIC LETTER ALEF WITH, ARABIC LIGATURE LAM WITH ALEF WITH", "
    MADDA ABOVE ISOLATED FORM; MADDA ABOVE FINAL FORM; HAMZA ABOVE ISOLATED FORM;
    HAMZA ABOVE FINAL FORM; HAMZA BELOW ISOLATED FORM; HAMZA BELOW FINAL FORM"⟩,
  ⟨"CYPRIOT SYLLABLE", "
    A; E; I; O; U; JA; JO; KA; KE; KI; KO; KU; LA; LE; LI; LO; LU; MA; ME; MI; MO; MU; NA; NE; NI;
    NO; NU; PA; PE; PI; PO; PU; RA; RE; RI; RO; RU; SA; SE; SI; SO; SU; TA; TE; TI; TO; TU; WA; WE;
    WI; WO; XA; XE; ZA; ZO"⟩,
  ⟨"IMPERIAL ARAMAIC LETTER, PALMYRENE LETTER, NABATAEAN LETTER, MANICHAEAN LETTER,
    INSCRIPTIONAL PARTHIAN LETTER, ELYMAIC LETTER", "
    ALEPH; BETH; GIMEL; DALETH; HE; WAW; ZAYIN; HETH; TETH; YODH; KAPH; LAMEDH; MEM; NUN; SAMEKH;
    AYIN; PE; SADHE; QOPH; RESH; SHIN; TAW"⟩,
  ⟨"IMPERIAL ARAMAIC NUMBER", "
    ONE; TWO; THREE; TEN; TWENTY; ONE HUNDRED; ONE THOUSAND; TEN THOUSAND"⟩,
  ⟨"PALMYRENE LETTER", "FINAL NUN"⟩,
  ⟨"PALMYRENE NUMBER", "ONE; TWO; THREE; FOUR; FIVE; TEN; TWENTY"⟩,
  ⟨"NABATAEAN LETTER FINAL", "ALEPH; BETH; HE; YODH; KAPH; LAMEDH; MEM; NUN; SHIN"⟩,
  ⟨"NABATAEAN NUMBER, OLD SOGDIAN NUMBER", "ONE; TWO; THREE; FOUR; FIVE; TEN; TWENTY; ONE HUNDRED"⟩,
  ⟨"HATRAN LETTER", "ALEPH; DALETH-RESH; PE"⟩,
  ⟨"HATRAN LETTER, OLD SOUTH ARABIAN LETTER", "
    BETH; GIMEL; HE; WAW; ZAYN; HETH; TETH; YODH; KAPH; LAMEDH; MEM; NUN; SAMEKH; AYN; SADHE; QOPH;
    SHIN; TAW"⟩,
  ⟨"HATRAN NUMBER, MANICHAEAN NUMBER", "ONE; FIVE; TEN; TWENTY; ONE HUNDRED"⟩,
  ⟨"PHOENICIAN LETTER", "
    ALF; BET; GAML; DELT; HE; WAU; ZAI; HET; TET; YOD; KAF; LAMD; MEM; NUN; SEMK; AIN; PE; SADE;
    QOF; ROSH; SHIN; TAU"⟩,
  ⟨"PHOENICIAN NUMBER", "ONE; TEN; TWENTY; ONE HUNDRED; TWO; THREE"⟩,
  ⟨"LYDIAN LETTER", "
    A; B; G; D; E; V; I; Y; K; L; M; N; O; R; SS; T; U; F; Q; S; TT; AN; EN; LY; NN; C"⟩,
  ⟨"MEROITIC HIEROGLYPHIC LETTER, MEROITIC CURSIVE LETTER", "
    A; E; I; O; YA; WA; BA; PA; MA; NA; NE; RA; LA; KHA; HHA; SA; SE; KA; QA; TA; TE; TO; DA"⟩,
  ⟨"MEROITIC HIEROGLYPHIC LETTER", "BA-2; NA-2; NE-2; RA-2; SA-2; TA-2; TE-2"⟩,
  ⟨"MEROITIC HIEROGLYPHIC SYMBOL", "VIDJ; VIDJ-2"⟩,
  ⟨"MEROITIC CURSIVE LETTER", "ARCHAIC SA"⟩,
  ⟨"MEROITIC CURSIVE FRACTION", "
    ELEVEN TWELFTHS; ONE HALF; ONE TWELFTH; TWO TWELFTHS; THREE TWELFTHS; FOUR TWELFTHS;
    FIVE TWELFTHS; SIX TWELFTHS; SEVEN TWELFTHS; EIGHT TWELFTHS; NINE TWELFTHS; TEN TWELFTHS"⟩,
  ⟨"MEROITIC CURSIVE LOGOGRAM", "RMT; IMN"⟩,
  ⟨"MEROITIC CURSIVE NUMBER, INDIC SIYAQ NUMBER, OTTOMAN SIYAQ NUMBER", "
    ONE; TWO; THREE; FOUR; FIVE; SIX; SEVEN; EIGHT; NINE; ONE THOUSAND; TWO THOUSAND;
    THREE THOUSAND; FOUR THOUSAND; FIVE THOUSAND; SIX THOUSAND; SEVEN THOUSAND; EIGHT THOUSAND;
    NINE THOUSAND; TEN THOUSAND; TWENTY THOUSAND; THIRTY THOUSAND; FORTY THOUSAND; FIFTY THOUSAND;
    SIXTY THOUSAND; SEVENTY THOUSAND; EIGHTY THOUSAND; NINETY THOUSAND"⟩,
  ⟨"MEROITIC CURSIVE NUMBER, RUMI NUMBER, INDIC SIYAQ NUMBER, OTTOMAN SIYAQ NUMBER", "
    TEN; TWENTY; THIRTY; FORTY; FIFTY; SIXTY; SEVENTY; ONE HUNDRED; TWO HUNDRED; THREE HUNDRED;
    FOUR HUNDRED; FIVE HUNDRED; SIX HUNDRED; SEVEN HUNDRED; EIGHT HUNDRED; NINE HUNDRED"⟩,
  ⟨"MEROITIC CURSIVE NUMBER", "
    ONE HUNDRED THOUSAND; TWO HUNDRED THOUSAND; THREE HUNDRED THOUSAND; FOUR HUNDRED THOUSAND;
    FIVE HUNDRED THOUSAND; SIX HUNDRED THOUSAND; SEVEN HUNDRED THOUSAND; EIGHT HUNDRED THOUSAND;
    NINE HUNDRED THOUSAND"⟩,
  ⟨"KHAROSHTHI LETTER, HANIFI ROHINGYA LETTER", "
    A; KA; KHA; GA; CA; JA; NYA; TTA; DDA; TA; DA; NA; PA; BA; MA; YA; RA; LA; VA; SHA; SA; ZA;
    HA"⟩,
  ⟨"KHAROSHTHI VOWEL SIGN", "I; U; VOCALIC R; E; O"⟩,
  ⟨"KHAROSHTHI", "
    VOWEL LENGTH MARK; VIRAMA; DIGIT ONE; DIGIT TWO; DIGIT THREE; DIGIT FOUR; NUMBER TEN;
    NUMBER TWENTY; NUMBER ONE HUNDRED; NUMBER ONE THOUSAND; FRACTION ONE HALF"⟩,
  ⟨"KHAROSHTHI SIGN", "DOUBLE RING BELOW; ANUSVARA; VISARGA; BAR ABOVE; CAUDA; DOT BELOW"⟩,
  ⟨"KHAROSHTHI LETTER", "
    GHA; CHA; TTHA; DDHA; NNA; THA; DHA; PHA; BHA; SSA; KKA; TTTHA; TTTA; VHA"⟩,
  ⟨"KHAROSHTHI PUNCTUATION", "
    DOT; SMALL CIRCLE; CIRCLE; CRESCENT BAR; MANGALAM; LOTUS; DANDA; DOUBLE DANDA; LINES"⟩,
  ⟨"OLD SOUTH ARABIAN LETTER", "
    RESH; SAT; KHETH; FE; ALEF; DHADHE; DALETH; GHAYN; DHALETH; THAW; THETH"⟩,
  ⟨"OLD SOUTH ARABIAN", "NUMBER ONE; NUMBER FIFTY; NUMERIC INDICATOR"⟩,
  ⟨"OLD NORTH ARABIAN LETTER", "
    HEH; LAM; HAH; MEEM; QAF; WAW; ES-2; REH; BEH; TEH; ES-1; KAF; NOON; KHAH; SAD; ES-3; FEH; ALEF;
    AIN; DAD; GEEM; DAL; GHAIN; TAH; ZAIN; THAL; YEH; THEH; ZAH"⟩,
  ⟨"OLD NORTH ARABIAN NUMBER", "ONE; TEN; TWENTY"⟩,
  ⟨"MANICHAEAN LETTER", "
    BHETH; GHIMEL; ZHAYIN; JAYIN; JHAYIN; XAPH; KHAPH; DHAMEDH; THAMEDH; AAYIN; FE; XOPH; QHOPH;
    SSHIN"⟩,
  ⟨"MANICHAEAN PUNCTUATION", "
    STAR; FLEURON; DOUBLE DOT WITHIN DOT; DOT WITHIN DOT; DOT; TWO DOTS; LINE FILLER"⟩,
  ⟨"AVESTAN LETTER", "
    A; AA; AO; AAO; AN; AAN; AE; AEE; E; EE; O; OO; I; II; U; UU; KE; XE; XYE; XVE; GE; GGE; GHE;
    CE; JE; TE; THE; DE; DHE; TTE; PE; FE; BE; BHE; NGE; NGYE; NGVE; NE; NYE; NNE; ME; HME; YYE; YE;
    VE; RE; LE; SE; ZE; SHE; ZHE; SHYE; SSHE; HE"⟩,
  ⟨"LARGE", "
    TWO DOTS OVER ONE DOT PUNCTUATION; ONE DOT OVER TWO DOTS PUNCTUATION;
    TWO RINGS OVER ONE RING PUNCTUATION; ONE RING OVER TWO RINGS PUNCTUATION"⟩,
  ⟨"INSCRIPTIONAL PARTHIAN NUMBER, INSCRIPTIONAL PAHLAVI NUMBER", "
    ONE; TWO; THREE; FOUR; TEN; TWENTY; ONE HUNDRED; ONE THOUSAND"⟩,
  ⟨"INSCRIPTIONAL PAHLAVI LETTER, PSALTER PAHLAVI LETTER", "
    ALEPH; BETH; GIMEL; DALETH; HE; WAW-AYIN-RESH; ZAYIN; HETH; YODH; KAPH; LAMEDH; MEM-QOPH; NUN;
    SAMEKH; PE; SADHE; SHIN; TAW"⟩,
  ⟨"INSCRIPTIONAL PAHLAVI LETTER", "TETH"⟩,
  ⟨"PSALTER PAHLAVI", "
    SECTION MARK; TURNED SECTION MARK; FOUR DOTS WITH CROSS; FOUR DOTS WITH DOT"⟩,
  ⟨"PSALTER PAHLAVI NUMBER, CHORASMIAN NUMBER", "ONE; TWO; THREE; FOUR; TEN; TWENTY; ONE HUNDRED"⟩,
  ⟨"OLD TURKIC LETTER ORKHON, OLD TURKIC LETTER YENISEI", "
    A; I; OE; AB; AEB; AG; AEG; AD; EZ; AY; AEY; AEK; OEK; AL; AEN; ENT; ENC; ENY; EC; AQ; IQ; OQ;
    AR; ASH; ESH; AT; AET"⟩,
  ⟨"OLD TURKIC LETTER YENISEI", "AE; E; ANG; AENG"⟩,
  ⟨"OLD TURKIC LETTER ORKHON", "O; AED; AEL; ELT; EM; AN; ENG; EP; OP; IC; AER; AS; AES; OT; BASH"⟩,
  ⟨"OLD HUNGARIAN CAPITAL LETTER, OLD HUNGARIAN SMALL LETTER", "
    A; AA; EB; AMB; EC; ENC; ECS; ED; AND; E; CLOSE E; EE; EF; EG; EGY; EH; I; II; EJ; EK; AK; UNK;
    EL; ELY; EM; EN; ENY; O; OO; NIKOLSBURG OE; RUDIMENTA OE; OEE; EP; EMP; ER; SHORT ER; ES; ESZ;
    ET; ENT; ETY; ECH; U; UU; NIKOLSBURG UE; RUDIMENTA UE; EV; EZ; EZS; ENT-SHAPED SIGN; US"⟩,
  ⟨"OLD HUNGARIAN NUMBER", "ONE; FIVE; TEN; FIFTY; ONE HUNDRED; ONE THOUSAND"⟩,
  ⟨"HANIFI ROHINGYA LETTER", "FA; RRA; WA; KINNA WA; KINNA YA; NGA"⟩,
  ⟨"HANIFI ROHINGYA", "
    VOWEL A; VOWEL I; VOWEL U; VOWEL E; VOWEL O; MARK SAKIN; MARK NA KHONNA; SIGN HARBAHAY;
    SIGN TAHALA; SIGN TANA; SIGN TASSI"⟩,
  ⟨"RUMI DIGIT, INDIC SIYAQ NUMBER PREFIXED", "
    ONE; TWO; THREE; FOUR; FIVE; SIX; SEVEN; EIGHT; NINE"⟩,
  ⟨"RUMI NUMBER", "EIGHTY; NINETY"⟩,
  ⟨"RUMI FRACTION", "ONE HALF; ONE QUARTER; ONE THIRD; TWO THIRDS"⟩,
  ⟨"YEZIDI LETTER", "
    ELIF; BE; PE; PHE; THE; SE; CIM; CHIM; CHHIM; HHA; XA; DAL; ZAL; RA; RHA; ZA; JA; SIN; SHIN;
    SAD; DAD; TA; ZE; EYN; XHEYN; FA; VA; VA ALTERNATE FORM; QAF; KAF; KHAF; GAF; LAM; MIM; NUN; UM;
    WAW; OW; EW; HAY; YOT; ET; LAM WITH DOT ABOVE; YOT WITH CIRCUMFLEX ABOVE"⟩,
  ⟨"YEZIDI COMBINING", "HAMZA MARK; MADDA MARK"⟩,
  ⟨"OLD SOGDIAN LETTER, SOGDIAN LETTER, CHORASMIAN LETTER", "
    ALEPH; BETH; GIMEL; HE; WAW; ZAYIN; HETH; YODH; KAPH; LAMEDH; MEM; NUN; SAMEKH; AYIN; PE; SHIN;
    TAW"⟩,
  ⟨"OLD SOGDIAN LETTER FINAL", "
    ALEPH; BETH; HE; NUN; NUN WITH VERTICAL TAIL; SADHE; SADHE WITH VERTICAL TAIL; TAW;
    TAW WITH VERTICAL TAIL"⟩,
  ⟨"OLD SOGDIAN LETTER", "ALTERNATE AYIN; RESH-AYIN-DALETH"⟩,
  ⟨"OLD SOGDIAN LETTER, SOGDIAN LETTER", "SADHE"⟩,
  ⟨"OLD SOGDIAN NUMBER", "THIRTY"⟩,
  ⟨"OLD SOGDIAN", "FRACTION ONE HALF; LIGATURE AYIN-DALETH"⟩,
  ⟨"SOGDIAN LETTER", "RESH-AYIN; FETH; LESH"⟩,
  ⟨"SOGDIAN COMBINING, OLD UYGHUR COMBINING", "
    DOT BELOW; TWO DOTS BELOW; DOT ABOVE; TWO DOTS ABOVE"⟩,
  ⟨"SOGDIAN COMBINING", "
    CURVE ABOVE; CURVE BELOW; HOOK ABOVE; HOOK BELOW; LONG HOOK BELOW; RESH BELOW; STROKE BELOW"⟩,
  ⟨"SOGDIAN NUMBER", "ONE; TEN; TWENTY; ONE HUNDRED"⟩,
  ⟨"SOGDIAN PUNCTUATION", "
    TWO VERTICAL BARS; TWO VERTICAL BARS WITH DOTS; CIRCLE WITH DOT; TWO CIRCLES WITH DOTS;
    HALF CIRCLE WITH DOT"⟩,
  ⟨"OLD UYGHUR LETTER", "
    ALEPH; BETH; GIMEL-HETH; WAW; ZAYIN; FINAL HETH; YODH; KAPH; LAMEDH; MEM; NUN; SAMEKH; PE;
    SADHE; RESH; SHIN; TAW; LESH"⟩,
  ⟨"OLD UYGHUR PUNCTUATION", "BAR; TWO BARS; TWO DOTS; FOUR DOTS"⟩,
  ⟨"CHORASMIAN LETTER", "SMALL ALEPH; DALETH; CURLED WAW; RESH"⟩,
  ⟨"INDIC SIYAQ NUMBER, OTTOMAN SIYAQ NUMBER", "EIGHTY; NINETY"⟩,
  ⟨"INDIC SIYAQ NUMBER", "
    LAKH; LAKHAN; KAROR; KARORAN; ALTERNATE ONE; ALTERNATE TWO; ALTERNATE TEN THOUSAND"⟩,
  ⟨"INDIC SIYAQ", "
    LAKH MARK; PLACEHOLDER; FRACTION ONE QUARTER; FRACTION ONE HALF; FRACTION THREE QUARTERS;
    RUPEE MARK; ALTERNATE LAKH MARK"⟩,
  ⟨"OTTOMAN SIYAQ", "MARRATAN; FRACTION ONE HALF; FRACTION ONE SIXTH"⟩,
  ⟨"OTTOMAN SIYAQ ALTERNATE NUMBER", "
    TWO; THREE; FOUR; FIVE; SIX; SEVEN; EIGHT; NINE; TEN; FOUR HUNDRED; SIX HUNDRED; TWO THOUSAND;
    TEN THOUSAND"⟩,
  ⟨"ARABIC MATHEMATICAL", "
    DOTLESS NOON; OPERATOR MEEM WITH HAH WITH TATWEEL; OPERATOR HAH WITH DAL"⟩,
  ⟨"ARABIC MATHEMATICAL INITIAL, ARABIC MATHEMATICAL STRETCHED", "
    BEH; JEEM; HEH; HAH; YEH; KAF; MEEM; NOON; SEEN; AIN; FEH; SAD; QAF; SHEEN; TEH; THEH; KHAH;
    DAD; GHAIN"⟩,
  ⟨"ARABIC MATHEMATICAL INITIAL", "LAM"⟩,
  ⟨"ARABIC MATHEMATICAL TAILED", "
    JEEM; HAH; YEH; LAM; NOON; SEEN; AIN; SAD; QAF; SHEEN; KHAH; DAD; GHAIN; DOTLESS NOON;
    DOTLESS QAF"⟩,
  ⟨"ARABIC MATHEMATICAL STRETCHED", "TAH; ZAH; DOTLESS BEH; DOTLESS FEH"⟩,
  ⟨"ARABIC MATHEMATICAL LOOPED", "ALEF; HEH"⟩]

end FixFirst.Text
