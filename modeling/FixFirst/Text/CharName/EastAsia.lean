import FixFirst.Text.CharName.Group

/-!
# Names of the scripts of East Asia

The names of the characters for the Mongolian, Japanese, Korean and Chinese scripts, without the
ideographs and syllables whose names follow a rule.
-/

namespace FixFirst.Text

/-- Names of the scripts of East Asia. -/
def eastAsianNames : List NameGroup := [
  ⟨"HANGUL CHOSEONG, HANGUL JONGSEONG, HANGUL LETTER, HALFWIDTH HANGUL LETTER", "
    KIYEOK; SSANGKIYEOK; NIEUN; TIKEUT; SSANGTIKEUT; RIEUL; MIEUM; PIEUP; SSANGPIEUP; SIOS;
    SSANGSIOS; IEUNG; CIEUC; SSANGCIEUC; CHIEUCH; KHIEUKH; THIEUTH; PHIEUPH; HIEUH; RIEUL-HIEUH;
    PIEUP-SIOS; NIEUN-CIEUC; NIEUN-HIEUH; RIEUL-KIYEOK; RIEUL-MIEUM; RIEUL-PIEUP; RIEUL-SIOS"⟩,
  ⟨"HANGUL CHOSEONG, HANGUL JONGSEONG", "
    NIEUN-KIYEOK; TIKEUT-KIYEOK; RIEUL-NIEUN; SSANGRIEUL; KAPYEOUNRIEUL; PIEUP-CHIEUCH;
    PIEUP-PHIEUPH; SIOS-RIEUL; SIOS-MIEUM; SIOS-CHIEUCH; SIOS-THIEUTH; SIOS-HIEUH; IEUNG-KIYEOK;
    PHIEUPH-PIEUP; TIKEUT-RIEUL; TIKEUT-PIEUP; TIKEUT-SIOS; TIKEUT-CIEUC; RIEUL-SSANGKIYEOK;
    RIEUL-KAPYEOUNPIEUP; RIEUL-KHIEUKH; MIEUM-KIYEOK; PIEUP-HIEUH"⟩,
  ⟨"HANGUL CHOSEONG, HANGUL JONGSEONG, HANGUL LETTER", "
    SSANGNIEUN; NIEUN-TIKEUT; MIEUM-PIEUP; KAPYEOUNMIEUM; PIEUP-TIKEUT; PIEUP-SIOS-TIKEUT;
    PIEUP-CIEUC; KAPYEOUNPIEUP; SIOS-KIYEOK; SIOS-TIKEUT; SIOS-PIEUP; SIOS-CIEUC; PANSIOS;
    SSANGIEUNG; YESIEUNG; KAPYEOUNPHIEUPH; YEORINHIEUH; NIEUN-SIOS; RIEUL-TIKEUT; MIEUM-SIOS"⟩,
  ⟨"HANGUL CHOSEONG", "
    NIEUN-PIEUP; PIEUP-NIEUN; PIEUP-SIOS-PIEUP; PIEUP-SSANGSIOS; PIEUP-SIOS-CIEUC;
    SIOS-PIEUP-KIYEOK; SIOS-SSANGSIOS; SIOS-IEUNG; SIOS-KHIEUKH; SIOS-PHIEUPH; CHITUEUMSIOS;
    CHITUEUMSSANGSIOS; CEONGCHIEUMSIOS; CEONGCHIEUMSSANGSIOS; IEUNG-TIKEUT; IEUNG-MIEUM;
    IEUNG-PIEUP; IEUNG-SIOS; IEUNG-PANSIOS; IEUNG-CIEUC; IEUNG-CHIEUCH; IEUNG-THIEUTH;
    IEUNG-PHIEUPH; CIEUC-IEUNG; CHITUEUMCIEUC; CHITUEUMSSANGCIEUC; CEONGCHIEUMCIEUC;
    CEONGCHIEUMSSANGCIEUC; CHIEUCH-KHIEUKH; CHIEUCH-HIEUH; CHITUEUMCHIEUCH; CEONGCHIEUMCHIEUCH;
    KIYEOK-TIKEUT; FILLER; TIKEUT-MIEUM; RIEUL-SSANGTIKEUT; RIEUL-SSANGPIEUP; RIEUL-CIEUC;
    MIEUM-TIKEUT; PIEUP-SIOS-THIEUTH; PIEUP-KHIEUKH; SSANGSIOS-PIEUP; IEUNG-RIEUL; IEUNG-HIEUH;
    SSANGCIEUC-HIEUH; SSANGTHIEUTH; PHIEUPH-HIEUH; HIEUH-SIOS; SSANGYEORINHIEUH"⟩,
  ⟨"HANGUL CHOSEONG, HANGUL LETTER", "
    PIEUP-KIYEOK; PIEUP-SIOS-KIYEOK; PIEUP-THIEUTH; KAPYEOUNSSANGPIEUP; SIOS-NIEUN; SSANGHIEUH"⟩,
  ⟨"HANGUL JUNGSEONG", "
    FILLER; A-O; A-U; YA-O; YA-YO; EO-O; EO-U; EO-EU; YEO-O; YEO-U; O-EO; O-E; O-YE; O-O; O-U;
    YO-YEO; YO-O; U-A; U-AE; U-EO-EU; U-YE; U-U; YU-A; YU-EO; YU-E; YU-U; EU-U; EU-EU; YI-U; I-A;
    I-YA; I-O; I-U; I-EU; I-ARAEA; ARAEA-EO; ARAEA-U; ARAEA-I; SSANGARAEA; A-EU; YA-U; YEO-YA; O-YA;
    O-YAE; O-YEO; O-O-I; YO-A; YO-AE; YO-EO; U-YEO; U-I-I; YU-AE; YU-O; EU-A; EU-EO; EU-E; EU-O;
    I-YA-O; I-YAE; I-YEO; I-YE; I-O-I; I-YO; I-YU; I-I; ARAEA-A; ARAEA-E"⟩,
  ⟨"HANGUL JUNGSEONG, HANGUL LETTER", "
    A; AE; YA; YAE; EO; E; YEO; YE; O; WA; WAE; OE; YO; U; WEO; WE; WI; YU; EU; YI; I; YO-YA;
    YO-YAE; YO-I; YU-YEO; YU-YE; YU-I; ARAEA"⟩,
  ⟨"HANGUL JONGSEONG, HANGUL LETTER", "
    KIYEOK-SIOS; RIEUL-THIEUTH; RIEUL-PHIEUPH; NIEUN-PANSIOS; RIEUL-KIYEOK-SIOS; RIEUL-PIEUP-SIOS;
    RIEUL-PANSIOS; RIEUL-YEORINHIEUH; MIEUM-PANSIOS; YESIEUNG-SIOS; YESIEUNG-PANSIOS"⟩,
  ⟨"HANGUL JONGSEONG", "
    KIYEOK-RIEUL; KIYEOK-SIOS-KIYEOK; NIEUN-THIEUTH; RIEUL-TIKEUT-HIEUH; RIEUL-MIEUM-KIYEOK;
    RIEUL-MIEUM-SIOS; RIEUL-PIEUP-HIEUH; RIEUL-SSANGSIOS; MIEUM-RIEUL; MIEUM-SSANGSIOS;
    MIEUM-CHIEUCH; MIEUM-HIEUH; PIEUP-RIEUL; YESIEUNG-KIYEOK; IEUNG-SSANGKIYEOK;
    YESIEUNG-SSANGKIYEOK; SSANGYESIEUNG; IEUNG-KHIEUKH; YESIEUNG-KHIEUKH; HIEUH-NIEUN; HIEUH-RIEUL;
    HIEUH-MIEUM; HIEUH-PIEUP; KIYEOK-NIEUN; KIYEOK-PIEUP; KIYEOK-CHIEUCH; KIYEOK-KHIEUKH;
    KIYEOK-HIEUH; NIEUN-RIEUL; NIEUN-CHIEUCH; SSANGTIKEUT-PIEUP; TIKEUT-SIOS-KIYEOK; TIKEUT-CHIEUCH;
    TIKEUT-THIEUTH; RIEUL-KIYEOK-HIEUH; SSANGRIEUL-KHIEUKH; RIEUL-MIEUM-HIEUH; RIEUL-PIEUP-TIKEUT;
    RIEUL-PIEUP-PHIEUPH; RIEUL-YESIEUNG; RIEUL-YEORINHIEUH-HIEUH; MIEUM-NIEUN; MIEUM-SSANGNIEUN;
    SSANGMIEUM; MIEUM-PIEUP-SIOS; MIEUM-CIEUC; PIEUP-RIEUL-PHIEUPH; PIEUP-MIEUM; SIOS-KAPYEOUNPIEUP;
    SSANGSIOS-KIYEOK; SSANGSIOS-TIKEUT; SIOS-PANSIOS; PANSIOS-PIEUP; PANSIOS-KAPYEOUNPIEUP;
    YESIEUNG-MIEUM; YESIEUNG-HIEUH; CIEUC-PIEUP; CIEUC-SSANGPIEUP; PHIEUPH-SIOS; PHIEUPH-THIEUTH"⟩,
  ⟨"MONGOLIAN", "
    BIRGA; ELLIPSIS; COMMA; FULL STOP; COLON; FOUR DOTS; TODO SOFT HYPHEN;
    SIBE SYLLABLE BOUNDARY MARKER; MANCHU COMMA; MANCHU FULL STOP; NIRUGU; VOWEL SEPARATOR"⟩,
  ⟨"", "
    FVS1; FVS2; FVS3; MVS; FVS4; DITTO MARK; JAPANESE INDUSTRIAL STANDARD SYMBOL; POSTAL MARK;
    GETA MARK; WAVE DASH; REVERSED DOUBLE PRIME QUOTATION MARK; DOUBLE PRIME QUOTATION MARK;
    LOW DOUBLE PRIME QUOTATION MARK; POSTAL MARK FACE; WAVY DASH; CIRCLED POSTAL MARK;
    VERTICAL IDEOGRAPHIC ITERATION MARK; MASU MARK; PART ALTERNATION MARK; PARTNERSHIP SIGN;
    KOREAN STANDARD SYMBOL; LIMITED LIABILITY SIGN; SESAME DOT; WHITE SESAME DOT; DASHED OVERLINE;
    WAVY OVERLINE; DOUBLE WAVY OVERLINE; DASHED LOW LINE; WAVY LOW LINE; TANGUT ITERATION MARK;
    NUSHU ITERATION MARK; KHITAN SMALL SCRIPT FILLER; MONOGRAM FOR EARTH"⟩,
  ⟨"MONGOLIAN FREE VARIATION SELECTOR", "ONE; TWO; THREE; FOUR"⟩,
  ⟨"MONGOLIAN DIGIT, FULLWIDTH DIGIT", "
    ZERO; ONE; TWO; THREE; FOUR; FIVE; SIX; SEVEN; EIGHT; NINE"⟩,
  ⟨"MONGOLIAN LETTER, LISU LETTER", "
    A; E; I; O; U; OE; UE; NA; BA; PA; GA; MA; LA; SA; SHA; TA; DA; CHA; JA; YA; WA; FA; KA; KHA;
    TSA; ZA"⟩,
  ⟨"MONGOLIAN LETTER", "EE; ANG; QA; RA; HAA; ZRA; LHA; ZHI; CHI; CHA WITH TWO DOTS"⟩,
  ⟨"MONGOLIAN LETTER TODO", "
    LONG VOWEL SIGN; E; I; O; U; OE; UE; ANG; BA; PA; QA; GA; MA; TA; DA; CHA; JA; TSA; YA; WA; KA;
    GAA; HAA; JIA; NIA; DZA; ALI GALI TA; ALI GALI ZHA"⟩,
  ⟨"MONGOLIAN LETTER SIBE", "
    E; I; IY; UE; U; ANG; KA; GA; HA; PA; SHA; TA; DA; JA; FA; GAA; HAA; TSA; ZA; RAA; CHA; ZHA"⟩,
  ⟨"MONGOLIAN LETTER MANCHU", "I; KA; RA; FA; ZHA"⟩,
  ⟨"MONGOLIAN LETTER ALI GALI", "
    ANUSVARA ONE; VISARGA ONE; DAMARU; UBADAMA; INVERTED UBADAMA; BALUDA; THREE BALUDA; A; I; KA;
    NGA; CA; TTA; TTHA; DDA; NNA; TA; DA; PA; PHA; SSA; ZHA; ZA; AH; HALF U; HALF YA; DAGALGA"⟩,
  ⟨"MONGOLIAN LETTER MANCHU ALI GALI", "
    GHA; NGA; CA; JHA; TTA; DDHA; TA; DHA; SSA; CYA; ZHA; ZA; BHA; LHA"⟩,
  ⟨"CJK RADICAL", "
    REPEAT; SECOND ONE; SECOND TWO; SECOND THREE; PERSON; BOX; KNIFE ONE; KNIFE TWO; SMALL ONE;
    SMALL TWO; LAME ONE; LAME TWO; LAME THREE; LAME FOUR; SNAKE; THREAD; SNOUT ONE; SNOUT TWO;
    HEART ONE; HEART TWO; CHOKE; MOTHER; CIVILIAN; WATER ONE; WATER TWO; PAW ONE; PAW TWO;
    SPIRIT ONE; SPIRIT TWO; NET ONE; NET TWO; NET THREE; NET FOUR; MESH; RAM; EWE; BRUSH ONE;
    BRUSH TWO; GRASS ONE; GRASS TWO; GRASS THREE; WEST ONE; WEST TWO; WALK ONE; WALK TWO; LONG ONE;
    LONG TWO; MOUND ONE; MOUND TWO; EAT ONE; EAT TWO; EAT THREE"⟩,
  ⟨"CJK RADICAL, KANGXI RADICAL", "
    CLIFF; TABLE; DIVINATION; SEAL; HAND; RAP; SUN; MOON; DEATH; FIRE; COW; DOG; JADE;
    BOLT OF CLOTH; EYE; BAMBOO; SILK; SHEEP; OLD; MEAT; MORTAR; TIGER; CLOTHES; HORN; FOOT; CITY;
    RAIN; BLUE; HEAD; BONE; GHOST; TURTLE"⟩,
  ⟨"CJK RADICAL SIMPLIFIED", "HALF TREE TRUNK; HORN; WALK; WHEAT; YELLOW"⟩,
  ⟨"CJK RADICAL C-SIMPLIFIED", "SILK; TURTLE"⟩,
  ⟨"CJK RADICAL C-SIMPLIFIED, KANGXI RADICAL", "
    SEE; SPEECH; SHELL; CART; GOLD; LONG; GATE; TANNED LEATHER; LEAF; WIND; FLY; EAT; HORSE; FISH;
    BIRD; SALT; FROG; EVEN; TOOTH; DRAGON"⟩,
  ⟨"CJK RADICAL J-SIMPLIFIED", "EVEN; TOOTH; DRAGON; TURTLE"⟩,
  ⟨"KANGXI RADICAL", "
    ONE; LINE; DOT; SLASH; SECOND; HOOK; TWO; LID; MAN; LEGS; ENTER; EIGHT; DOWN BOX; COVER; ICE;
    OPEN BOX; KNIFE; POWER; WRAP; SPOON; RIGHT OPEN BOX; HIDING ENCLOSURE; TEN; PRIVATE; AGAIN;
    MOUTH; ENCLOSURE; EARTH; SCHOLAR; GO; GO SLOWLY; EVENING; BIG; WOMAN; CHILD; ROOF; INCH; SMALL;
    LAME; CORPSE; SPROUT; MOUNTAIN; RIVER; WORK; ONESELF; TURBAN; DRY; SHORT THREAD; DOTTED CLIFF;
    LONG STRIDE; TWO HANDS; SHOOT; BOW; SNOUT; BRISTLE; STEP; HEART; HALBERD; DOOR; BRANCH; SCRIPT;
    DIPPER; AXE; SQUARE; NOT; SAY; TREE; LACK; STOP; WEAPON; DO NOT; COMPARE; FUR; CLAN; STEAM;
    WATER; CLAW; FATHER; DOUBLE X; HALF TREE TRUNK; SLICE; FANG; PROFOUND; MELON; TILE; SWEET; LIFE;
    USE; FIELD; SICKNESS; DOTTED TENT; WHITE; SKIN; DISH; SPEAR; ARROW; STONE; SPIRIT; TRACK; GRAIN;
    CAVE; STAND; RICE; JAR; NET; FEATHER; AND; PLOW; EAR; BRUSH; MINISTER; SELF; ARRIVE; TONGUE;
    OPPOSE; BOAT; STOPPING; COLOR; GRASS; INSECT; BLOOD; WALK ENCLOSURE; WEST; VALLEY; BEAN; PIG;
    BADGER; RED; RUN; BODY; BITTER; MORNING; WALK; WINE; DISTINGUISH; VILLAGE; MOUND; SLAVE;
    SHORT TAILED BIRD; WRONG; FACE; LEATHER; LEEK; SOUND; FRAGRANT; TALL; HAIR; FIGHT;
    SACRIFICIAL WINE; CAULDRON; DEER; WHEAT; HEMP; YELLOW; MILLET; BLACK; EMBROIDERY; TRIPOD; DRUM;
    RAT; NOSE; FLUTE"⟩,
  ⟨"IDEOGRAPHIC DESCRIPTION CHARACTER", "
    LEFT TO RIGHT; ABOVE TO BELOW; LEFT TO MIDDLE AND RIGHT; ABOVE TO MIDDLE AND BELOW;
    FULL SURROUND; OVERLAID"⟩,
  ⟨"IDEOGRAPHIC DESCRIPTION CHARACTER SURROUND FROM", "
    ABOVE; BELOW; LEFT; UPPER LEFT; UPPER RIGHT; LOWER LEFT"⟩,
  ⟨"IDEOGRAPHIC", "
    SPACE; COMMA; FULL STOP; ITERATION MARK; CLOSING MARK; NUMBER ZERO; LEVEL TONE MARK;
    RISING TONE MARK; DEPARTING TONE MARK; ENTERING TONE MARK; TELEGRAPH LINE FEED SEPARATOR SYMBOL;
    VARIATION INDICATOR; HALF FILL SPACE"⟩,
  ⟨"LEFT, RIGHT, PRESENTATION FORM FOR VERTICAL LEFT, PRESENTATION FORM FOR VERTICAL RIGHT", "
    ANGLE BRACKET; DOUBLE ANGLE BRACKET; CORNER BRACKET; BLACK LENTICULAR BRACKET;
    TORTOISE SHELL BRACKET"⟩,
  ⟨"LEFT WHITE, RIGHT WHITE", "
    CORNER BRACKET; LENTICULAR BRACKET; TORTOISE SHELL BRACKET; SQUARE BRACKET"⟩,
  ⟨"HANGZHOU NUMERAL, COUNTING ROD UNIT DIGIT, COUNTING ROD TENS DIGIT", "
    ONE; TWO; THREE; FOUR; FIVE; SIX; SEVEN; EIGHT; NINE"⟩,
  ⟨"HANGUL", "SINGLE DOT TONE MARK; DOUBLE DOT TONE MARK; FILLER"⟩,
  ⟨"VERTICAL KANA REPEAT", "
    MARK; WITH VOICED SOUND MARK; MARK UPPER HALF; WITH VOICED SOUND MARK UPPER HALF;
    MARK LOWER HALF"⟩,
  ⟨"HANGZHOU NUMERAL", "TEN; TWENTY; THIRTY"⟩,
  ⟨"HIRAGANA LETTER SMALL, KATAKANA LETTER SMALL", "
    A; I; U; E; O; TU; YA; YU; YO; WA; KA; KE; WI; WE; WO"⟩,
  ⟨"HIRAGANA LETTER, KATAKANA LETTER, CIRCLED KATAKANA, YI SYLLABLE, HALFWIDTH KATAKANA LETTER", "
    A; I; E; O; KA; KI; KU; KO; SA; SI; SU; SE; SO; TA; TI; TE; TO; NA; NI; NU; NE; NO; HA; HE; HO;
    MA; MU; ME; MO; YU; RA; RU; RE; RO; WA"⟩,
  ⟨"HIRAGANA LETTER, KATAKANA LETTER", "
    U; GA; KE; ZA; TU; DU; HI; HU; PE; MI; YA; YO; RI; WI; WO; N; ARCHAIC YE; ARCHAIC WU"⟩,
  ⟨"HIRAGANA LETTER, KATAKANA LETTER, YI SYLLABLE", "
    GI; GU; GE; GO; ZI; ZU; ZE; ZO; DA; DI; DE; DO; BA; PA; BI; PI; BU; PU; BE; BO; PO; WE; VU"⟩,
  ⟨"COMBINING KATAKANA-HIRAGANA", "VOICED SOUND MARK; SEMI-VOICED SOUND MARK"⟩,
  ⟨"KATAKANA-HIRAGANA", "
    VOICED SOUND MARK; SEMI-VOICED SOUND MARK; DOUBLE HYPHEN; PROLONGED SOUND MARK"⟩,
  ⟨"HIRAGANA", "ITERATION MARK; VOICED ITERATION MARK; DIGRAPH YORI"⟩,
  ⟨"KATAKANA LETTER", "VA; VI; VE; VO; ARCHAIC E; ARCHAIC YI"⟩,
  ⟨"KATAKANA", "MIDDLE DOT; ITERATION MARK; VOICED ITERATION MARK; DIGRAPH KOTO"⟩,
  ⟨"BOPOMOFO LETTER", "
    B; P; M; F; D; T; N; L; G; K; H; J; Q; X; ZH; CH; SH; R; Z; C; S; A; O; E; EH; AI; EI; AU; OU;
    AN; EN; ANG; ENG; ER; I; U; IU; V; NG; GN; IH; O WITH DOT ABOVE; NN; BU; ZI; JI; GU; EE; ENN;
    OO; ONN; IR; ANN; INN; UNN; IM; NGG; AINN; AUNN; AM; OM; ONG; INNN; GH; LH; ZY; GW; KW; OE;
    AH"⟩,
  ⟨"HANGUL LETTER", "ARAEAE"⟩,
  ⟨"IDEOGRAPHIC ANNOTATION", "
    LINKING MARK; REVERSE MARK; ONE MARK; TWO MARK; THREE MARK; FOUR MARK; TOP MARK; MIDDLE MARK;
    BOTTOM MARK; FIRST MARK; SECOND MARK; THIRD MARK; FOURTH MARK; HEAVEN MARK; EARTH MARK;
    MAN MARK"⟩,
  ⟨"BOPOMOFO FINAL LETTER", "P; T; K; H; G"⟩,
  ⟨"CJK STROKE", "
    T; WG; XG; BXG; SW; HZZ; HZG; HP; HZWG; SZWG; HZT; HZZP; HPWG; HZW; HZZZ; N; H; S; P; SP; D; HZ;
    HG; SZ; SWZ; ST; SG; PD; PZ; TN; SZZ; SWG; HXWG; HZZZG; PG; Q"⟩,
  ⟨"KATAKANA LETTER SMALL", "KU; SI; SU; TO; NU; HA; HI; HU; HE; HO; MU; RA; RI; RU; RE; RO; N"⟩,
  ⟨"PARENTHESIZED HANGUL, CIRCLED HANGUL", "
    KIYEOK; NIEUN; TIKEUT; RIEUL; MIEUM; PIEUP; SIOS; IEUNG; CIEUC; CHIEUCH; KHIEUKH; THIEUTH;
    PHIEUPH; HIEUH; KIYEOK A; NIEUN A; TIKEUT A; RIEUL A; MIEUM A; PIEUP A; SIOS A; IEUNG A;
    CIEUC A; CHIEUCH A; KHIEUKH A; THIEUTH A; PHIEUPH A; HIEUH A"⟩,
  ⟨"PARENTHESIZED HANGUL", "CIEUC U"⟩,
  ⟨"PARENTHESIZED KOREAN CHARACTER", "OJEON; O HU"⟩,
  ⟨"PARENTHESIZED IDEOGRAPH, CIRCLED IDEOGRAPH", "
    ONE; TWO; THREE; FOUR; FIVE; SIX; SEVEN; EIGHT; NINE; TEN; MOON; FIRE; WATER; WOOD; METAL;
    EARTH; SUN; STOCK; HAVE; SOCIETY; NAME; SPECIAL; FINANCIAL; CONGRATULATION; LABOR; STUDY;
    SUPERVISE; ENTERPRISE; RESOURCE; ALLIANCE; REST"⟩,
  ⟨"PARENTHESIZED IDEOGRAPH", "REPRESENT; CALL; FESTIVAL; SELF; REACH"⟩,
  ⟨"CIRCLED IDEOGRAPH", "
    QUESTION; KINDERGARTEN; SCHOOL; KOTO; SECRET; MALE; FEMALE; SUITABLE; EXCELLENT; PRINT;
    ATTENTION; ITEM; COPY; CORRECT; HIGH; CENTRE; LOW; LEFT; RIGHT; MEDICINE; RELIGION; NIGHT;
    ADVANTAGE; ACCEPT"⟩,
  ⟨"CIRCLED NUMBER", "
    TEN ON BLACK SQUARE; FIFTY ON BLACK SQUARE; SIXTY ON BLACK SQUARE; SEVENTY ON BLACK SQUARE;
    EIGHTY ON BLACK SQUARE; THIRTY; FORTY; FIFTY"⟩,
  ⟨"CIRCLED NUMBER TWENTY, CIRCLED NUMBER THIRTY, CIRCLED NUMBER FORTY", "
    ON BLACK SQUARE; ONE; TWO; THREE; FOUR; FIVE; SIX; SEVEN; EIGHT; NINE"⟩,
  ⟨"CIRCLED KOREAN CHARACTER", "CHAMKO; JUEUI"⟩,
  ⟨"CIRCLED HANGUL", "IEUNG U"⟩,
  ⟨"IDEOGRAPHIC TELEGRAPH SYMBOL FOR", "
    JANUARY; FEBRUARY; MARCH; APRIL; MAY; JUNE; JULY; AUGUST; SEPTEMBER; OCTOBER; NOVEMBER;
    DECEMBER"⟩,
  ⟨"SQUARE", "
    HG; ERG; EV; APAATO; ARUHUA; ANPEA; AARU; ININGU; INTI; UON; ESUKUUDO; EEKAA; ONSU; OOMU; KAIRI;
    KARATTO; KARORII; GARON; GANMA; GIGA; GINII; KYURII; GIRUDAA; KIRO; KIROGURAMU; KIROMEETORU;
    KIROWATTO; GURAMU; GURAMUTON; KURUZEIRO; KUROONE; KEESU; KORUNA; KOOPO; SAIKURU; SANTIIMU;
    SIRINGU; SENTI; SENTO; DAASU; DESI; DORU; TON; NANO; NOTTO; HAITU; PAASENTO; PAATU; BAARERU;
    PIASUTORU; PIKURU; PIKO; BIRU; HUARADDO; HUIITO; BUSSYERU; HURAN; HEKUTAARU; PESO; PENIHI;
    HERUTU; PENSU; PEEZI; BEETA; POINTO; BORUTO; HON; PONDO; HOORU; HOON; MAIKURO; MAIRU; MAHHA;
    MARUKU; MANSYON; MIKURON; MIRI; MIRIBAARU; MEGA; MEGATON; MEETORU; YAADO; YAARU; YUAN; RITTORU;
    RIRA; RUPII; RUUBURU; REMU; RENTOGEN; WATTO; HPA; DA; AU; BAR; OV; PC; DM; DM SQUARED; DM CUBED;
    IU; CORPORATION; PA AMPS; NA; MA; KA; KB; MB; GB; CAL; KCAL; PF; NF; MG; KG; HZ; KHZ; MHZ; GHZ;
    THZ; ML; DL; KL; FM; NM; MM; CM; KM; MM SQUARED; CM SQUARED; M SQUARED; KM SQUARED; MM CUBED;
    CM CUBED; M CUBED; KM CUBED; M OVER S; M OVER S SQUARED; PA; KPA; MPA; GPA; RAD; RAD OVER S;
    RAD OVER S SQUARED; PS; NS; MS; PV; NV; MV; KV; MV MEGA; PW; NW; MW; KW; MW MEGA; K OHM; M OHM;
    AM; BQ; CC; CD; C OVER KG; CO; DB; GY; HA; HP; IN; KK; KM CAPITAL; KT; LM; LN; LOG; LX;
    MB SMALL; MIL; MOL; PH; PM; PPM; PR; SR; SV; WB; V OVER M; A OVER M; GAL; HIRAGANA HOKA"⟩,
  ⟨"CIRCLED KATAKANA, HALFWIDTH KATAKANA LETTER", "U; KE; TU; HI; HU; MI; YA; YO; RI; WO"⟩,
  ⟨"CIRCLED KATAKANA", "WI; WE"⟩,
  ⟨"SQUARE ERA NAME", "REIWA; HEISEI; SYOUWA; TAISYOU; MEIZI"⟩,
  ⟨"IDEOGRAPHIC TELEGRAPH SYMBOL FOR HOUR", "ZERO"⟩,
  ⟨"IDEOGRAPHIC TELEGRAPH SYMBOL FOR HOUR, IDEOGRAPHIC TELEGRAPH SYMBOL FOR DAY", "
    ONE; TWO; THREE; FOUR; FIVE; SIX; SEVEN; EIGHT; NINE; TEN; ELEVEN; TWELVE; THIRTEEN; FOURTEEN;
    FIFTEEN; SIXTEEN; SEVENTEEN; EIGHTEEN; NINETEEN; TWENTY; TWENTY-ONE; TWENTY-TWO; TWENTY-THREE;
    TWENTY-FOUR"⟩,
  ⟨"SQUARE MU", "A; F; G; L; M; S; V; W"⟩,
  ⟨"IDEOGRAPHIC TELEGRAPH SYMBOL FOR DAY", "
    TWENTY-FIVE; TWENTY-SIX; TWENTY-SEVEN; TWENTY-EIGHT; TWENTY-NINE; THIRTY; THIRTY-ONE"⟩,
  ⟨"HEXAGRAM FOR THE", "
    CREATIVE HEAVEN; RECEPTIVE EARTH; ARMY; ABYSMAL WATER; CLINGING FIRE; FAMILY; WELL; CAULDRON;
    AROUSING THUNDER; KEEPING STILL MOUNTAIN; MARRYING MAIDEN; WANDERER; GENTLE WIND; JOYOUS LAKE"⟩,
  ⟨"HEXAGRAM FOR", "
    DIFFICULTY AT THE BEGINNING; YOUTHFUL FOLLY; WAITING; CONFLICT; HOLDING TOGETHER; SMALL TAMING;
    TREADING; PEACE; STANDSTILL; FELLOWSHIP; GREAT POSSESSION; MODESTY; ENTHUSIASM; FOLLOWING;
    WORK ON THE DECAYED; APPROACH; CONTEMPLATION; BITING THROUGH; GRACE; SPLITTING APART; RETURN;
    INNOCENCE; GREAT TAMING; MOUTH CORNERS; GREAT PREPONDERANCE; INFLUENCE; DURATION; RETREAT;
    GREAT POWER; PROGRESS; DARKENING OF THE LIGHT; OPPOSITION; OBSTRUCTION; DELIVERANCE; DECREASE;
    INCREASE; BREAKTHROUGH; COMING TO MEET; GATHERING TOGETHER; PUSHING UPWARD; OPPRESSION;
    REVOLUTION; DEVELOPMENT; ABUNDANCE; DISPERSION; LIMITATION; INNER TRUTH; SMALL PREPONDERANCE;
    AFTER COMPLETION; BEFORE COMPLETION"⟩,
  ⟨"YI SYLLABLE", "
    IT; IX; IP; IET; IEX; IE; IEP; AT; AX; AP; UOX; UO; UOP; OT; OX; EX; ITERATION MARK; WU; BIT;
    BIX; BIP; BIET; BIEX; BIE; BIEP; BAT; BAX; BAP; BUOX; BUO; BUOP; BOT; BOX; BOP; BEX; BEP; BUT;
    BUX; BUP; BURX; BYT; BYX; BY; BYP; BYRX; BYR; PIT; PIX; PIP; PIEX; PIE; PIEP; PAT; PAX; PAP;
    PUOX; PUO; PUOP; POT; POX; POP; PUX; PUP; PURX; PUR; PYX; PY; PYP; PYRX; PYR; BBIT; BBIX; BBI;
    BBIP; BBIET; BBIEX; BBIE; BBIEP; BBAT; BBAX; BBA; BBAP; BBUOX; BBUO; BBUOP; BBOT; BBOX; BBO;
    BBOP; BBEX; BBE; BBEP; BBUX; BBU; BBUP; BBURX; BBUR; BBYT; BBYX; BBY; BBYP; NBIT; NBIX; NBI;
    NBIP; NBIEX; NBIEP; NBAT; NBAX; NBA; NBAP; NBOT; NBOX; NBO; NBOP; NBUT; NBUX; NBU; NBUP; NBURX;
    NBUR; NBYT; NBYX; NBY; NBYP; NBYRX; NBYR; HMIT; HMIX; HMI; HMIP; HMIEX; HMIE; HMIEP; HMAT; HMAX;
    HMA; HMAP; HMUOX; HMUO; HMUOP; HMOT; HMOX; HMOP; HMUT; HMUX; HMU; HMUP; HMURX; HMUR; HMYX; HMY;
    HMYP; HMYRX; HMYR; MIT; MIX; MIP; MIEX; MIE; MIEP; MAT; MAX; MAP; MUOT; MUOX; MUO; MUOP; MOT;
    MOX; MEX; MUT; MUX; MUP; MURX; MUR; MYT; MYX; MY; MYP; FIT; FIX; FI; FIP; FAT; FAX; FA; FAP;
    FOX; FO; FOP; FUT; FUX; FU; FUP; FURX; FUR; FYT; FYX; FY; FYP; VIT; VIX; VI; VIP; VIET; VIEX;
    VIE; VIEP; VAT; VAX; VA; VAP; VOT; VOX; VO; VOP; VEX; VUT; VUX; VUP; VURX; VYT; VYX; VY; VYP;
    VYRX; VYR; DIT; DIX; DIP; DIEX; DIE; DIEP; DAT; DAX; DAP; DUOX; DUO; DOT; DOX; DOP; DEX; DEP;
    DUT; DUX; DUP; DURX; DUR; TIT; TIX; TIP; TIEX; TIE; TIEP; TAX; TAP; TUOT; TUOX; TUO; TUOP; TOT;
    TOX; TOP; TEX; TEP; TUT; TUX; TUP; TURX; TUR; DDIT; DDIX; DDI; DDIP; DDIEX; DDIE; DDIEP; DDAT;
    DDAX; DDA; DDAP; DDUOX; DDUO; DDUOP; DDOT; DDOX; DDO; DDOP; DDEX; DDE; DDEP; DDUT; DDUX; DDU;
    DDUP; DDURX; NDIT; NDIX; NDI; NDIP; NDIEX; NDIE; NDAT; NDAX; NDA; NDAP; NDOT; NDOX; NDO; NDOP;
    NDEX; NDE; NDEP; NDUT; NDUX; NDU; NDUP; NDURX; NDUR; HNIT; HNIX; HNI; HNIP; HNIET; HNIEX; HNIE;
    HNIEP; HNAT; HNAX; HNA; HNAP; HNUOX; HNUO; HNOT; HNOX; HNOP; HNEX; HNE; HNEP; HNUT; NIT; NIX;
    NIP; NIEX; NIE; NIEP; NAX; NAP; NUOX; NUO; NUOP; NOT; NOX; NOP; NEX; NEP; NUT; NUX; NUP; NURX;
    NUR; HLIT; HLIX; HLI; HLIP; HLIEX; HLIE; HLIEP; HLAT; HLAX; HLA; HLAP; HLUOX; HLUO; HLUOP; HLOX;
    HLO; HLOP; HLEX; HLE; HLEP; HLUT; HLUX; HLU; HLUP; HLURX; HLUR; HLYT; HLYX; HLY; HLYP; HLYRX;
    HLYR; LIT; LIX; LIP; LIET; LIEX; LIEP; LAT; LAX; LA; LAP; LUOT; LUOX; LUO; LUOP; LOT; LOX; LO;
    LOP; LEX; LE; LEP; LUT; LUX; LU; LUP; LURX; LUR; LYT; LYX; LY; LYP; LYRX; GIT; GIX; GIP; GIET;
    GIEX; GIE; GIEP; GAT; GAX; GAP; GUOT; GUOX; GUO; GUOP; GOX; GOP; GET; GEX; GUT; GUX; GUP; GURX;
    GUR; KIX; KIP; KIEX; KIE; KIEP; KAT; KAX; KAP; KUOX; KUO; KUOP; KOT; KOX; KOP; KET; KEX; KEP;
    KUT; KUX; KUP; KURX; KUR; GGIT; GGIX; GGI; GGIEX; GGIE; GGIEP; GGAT; GGAX; GGA; GGAP; GGUOT;
    GGUOX; GGUOP; GGOT; GGOX; GGO; GGET; GGEX; GGE; GGEP; GGUT; GGUX; GGU; GGUP; GGURX; GGUR; MGIEX;
    MGIE; MGAT; MGAX; MGA; MGAP; MGUOX; MGUO; MGUOP; MGOT; MGOX; MGO; MGOP; MGEX; MGE; MGEP; MGUT;
    MGUX; MGU; MGUP; MGURX; MGUR; HXIX; HXI; HXIP; HXIET; HXIEX; HXIE; HXIEP; HXAT; HXAX; HXA; HXAP;
    HXUOT; HXUOX; HXUOP; HXOT; HXOX; HXO; HXEX; HXE; HXEP; NGIEX; NGIE; NGIEP; NGAT; NGAX; NGA;
    NGAP; NGUOT; NGUOX; NGUO; NGOT; NGOX; NGO; NGOP; NGEX; NGE; NGEP; HIT; HIEX; HIE; HAT; HAX; HAP;
    HUOT; HUOX; HUO; HUOP; HOT; HOX; HOP; HEX; HEP; WAT; WAX; WAP; WUOX; WUO; WUOP; WOX; WOP; WEX;
    WEP; ZIT; ZIX; ZIP; ZIEX; ZIE; ZIEP; ZAT; ZAX; ZAP; ZUOX; ZUO; ZUOP; ZOX; ZOP; ZEX; ZEP; ZUT;
    ZUX; ZURX; ZYT; ZYX; ZY; ZYP; ZYRX; ZYR; CIT; CIX; CI; CIET; CIEX; CIE; CIEP; CAT; CAX; CA; CAP;
    CUOX; CUO; COT; COX; CO; COP; CEX; CE; CEP; CUT; CUX; CU; CUP; CURX; CUR; CYX; CYRX; CYR; ZZIT;
    ZZIX; ZZI; ZZIP; ZZIEX; ZZIE; ZZIEP; ZZAT; ZZAX; ZZA; ZZAP; ZZOX; ZZO; ZZOP; ZZEX; ZZE; ZZEP;
    ZZUX; ZZU; ZZUP; ZZURX; ZZUR; ZZYT; ZZYX; ZZY; ZZYP; ZZYRX; ZZYR; NZIT; NZIX; NZI; NZIP; NZIEX;
    NZIE; NZIEP; NZAT; NZAX; NZA; NZAP; NZUOX; NZUO; NZOX; NZOP; NZEX; NZE; NZUX; NZU; NZURX; NZUR;
    NZYT; NZYX; NZY; NZYP; NZYRX; NZYR; SIT; SIX; SIP; SIEX; SIE; SIEP; SAT; SAX; SAP; SUOX; SUO;
    SUOP; SOT; SOX; SOP; SEX; SEP; SUT; SUX; SUP; SURX; SUR; SYT; SYX; SY; SYP; SYRX; SYR; SSIT;
    SSIX; SSIP; SSIEX; SSIE; SSIEP; SSAT; SSAX; SSA; SSAP; SSOT; SSOX; SSO; SSOP; SSEX; SSE; SSEP;
    SSUT; SSUX; SSU; SSUP; SSYT; SSYX; SSY; SSYP; SSYRX; SSYR; ZHAT; ZHAX; ZHA; ZHAP; ZHUOX; ZHUO;
    ZHUOP; ZHOT; ZHOX; ZHO; ZHOP; ZHET; ZHEX; ZHE; ZHEP; ZHUT; ZHUX; ZHU; ZHUP; ZHURX; ZHUR; ZHYT;
    ZHYX; ZHY; ZHYP; ZHYRX; ZHYR; CHAT; CHAX; CHA; CHAP; CHUOT; CHUOX; CHUO; CHUOP; CHOT; CHOX; CHO;
    CHOP; CHET; CHEX; CHEP; CHUX; CHU; CHUP; CHURX; CHUR; CHYT; CHYX; CHY; CHYP; CHYRX; CHYR; RRAX;
    RRA; RRUOX; RRUO; RROT; RROX; RRO; RROP; RRET; RREX; RRE; RREP; RRUT; RRUX; RRU; RRUP; RRURX;
    RRUR; RRYT; RRYX; RRY; RRYP; RRYRX; RRYR; NRAT; NRAX; NRA; NRAP; NROX; NRO; NROP; NRET; NREX;
    NRE; NREP; NRUT; NRUX; NRU; NRUP; NRURX; NRUR; NRYT; NRYX; NRY; NRYP; NRYRX; NRYR; SHAX; SHA;
    SHAP; SHUOX; SHUO; SHUOP; SHOT; SHOX; SHO; SHET; SHEX; SHE; SHEP; SHUT; SHUX; SHU; SHUP; SHURX;
    SHYT; SHYX; SHYP; SHYRX; SHYR; RAT; RAX; RAP; RUOX; RUO; RUOP; ROT; ROX; ROP; REX; REP; RUT;
    RUX; RUP; RURX; RUR; RYT; RYX; RY; RYP; RYRX; RYR; JIT; JIX; JI; JIP; JIET; JIEX; JIE; JIEP;
    JUOT; JUOX; JUO; JUOP; JOT; JOX; JOP; JUT; JUX; JU; JUP; JURX; JUR; JYT; JYX; JY; JYP; JYRX;
    JYR; QIT; QIX; QI; QIP; QIET; QIEX; QIE; QIEP; QUOT; QUOX; QUO; QUOP; QOX; QO; QOP; QUT; QUX;
    QU; QUP; QURX; QUR; QYT; QYX; QY; QYP; QYRX; QYR; JJIT; JJIX; JJI; JJIP; JJIET; JJIEX; JJIEP;
    JJUOX; JJUO; JJUOP; JJOT; JJOX; JJO; JJOP; JJUX; JJU; JJUP; JJURX; JJUR; JJYT; JJYX; JJYP; NJIT;
    NJIX; NJI; NJIP; NJIET; NJIEX; NJIE; NJIEP; NJUOX; NJUO; NJOT; NJOX; NJO; NJOP; NJUX; NJU; NJUP;
    NJURX; NJUR; NJYT; NJYX; NJY; NJYP; NJYRX; NJYR; NYIT; NYIX; NYI; NYIET; NYIEX; NYIE; NYIEP;
    NYUOX; NYUO; NYUOP; NYOT; NYOX; NYO; NYUT; NYUX; NYU; NYUP; XIT; XIX; XI; XIP; XIET; XIEX; XIE;
    XIEP; XUOX; XUO; XOT; XOX; XO; XOP; XYT; XYX; XY; XYP; XYRX; XYR; YIX; YI; YIP; YIET; YIEX; YIE;
    YIEP; YUOT; YUOX; YUO; YUOP; YOT; YOX; YOP; YUT; YUX; YUP; YURX; YUR; YYT; YYX; YY; YYP; YYRX;
    YYR"⟩,
  ⟨"YI SYLLABLE, YI RADICAL", "
    OP; BUR; PUT; PYT; BBUT; NBIE; HMO; MI; MOP; VEP; VUR; DU; TAT; TU; DDUR; LI; LIE; LYR; GA; GOT;
    GEP; KIT; KE; GGUO; GGOP; HXIT; HXUO; HXOP; WO; ZA; ZOT; ZUP; ZUR; CIP; CUOP; CYT; CY; CYP;
    ZZIET; NZUP; SSI; CHE; SHAT; SHOP; SHUR; SHY; JO; QOT; JJIE; JJUT; JJY; NYIP; NYOP; YIT; YO"⟩,
  ⟨"LISU LETTER", "PHA; THA; CA; DZA; TSHA; ZHA; NGA; HA; XA; HHA; GHA; AE; EU; UH; TONE NA PO"⟩,
  ⟨"LISU LETTER TONE MYA", "TI; CYA; BO; NA; JEU"⟩,
  ⟨"LISU PUNCTUATION", "COMMA; FULL STOP"⟩,
  ⟨"PRESENTATION FORM FOR VERTICAL", "
    COMMA; IDEOGRAPHIC COMMA; IDEOGRAPHIC FULL STOP; COLON; SEMICOLON; EXCLAMATION MARK;
    QUESTION MARK; HORIZONTAL ELLIPSIS; TWO DOT LEADER; EM DASH; EN DASH; LOW LINE; WAVY LOW LINE"⟩,
  ⟨"PRESENTATION FORM FOR VERTICAL LEFT, PRESENTATION FORM FOR VERTICAL RIGHT", "
    WHITE LENTICULAR BRACKET; PARENTHESIS; CURLY BRACKET; WHITE CORNER BRACKET; SQUARE BRACKET"⟩,
  ⟨"PRESENTATION FORM FOR VERTICAL RIGHT", "WHITE LENTICULAR BRAKCET"⟩,
  ⟨"CENTRELINE", "OVERLINE; LOW LINE"⟩,
  ⟨"SMALL, FULLWIDTH", "
    COMMA; FULL STOP; SEMICOLON; COLON; QUESTION MARK; EXCLAMATION MARK; LEFT PARENTHESIS;
    RIGHT PARENTHESIS; LEFT CURLY BRACKET; RIGHT CURLY BRACKET; NUMBER SIGN; AMPERSAND; ASTERISK;
    PLUS SIGN; HYPHEN-MINUS; LESS-THAN SIGN; GREATER-THAN SIGN; EQUALS SIGN; REVERSE SOLIDUS;
    DOLLAR SIGN; PERCENT SIGN; COMMERCIAL AT"⟩,
  ⟨"SMALL", "
    IDEOGRAPHIC COMMA; EM DASH; LEFT TORTOISE SHELL BRACKET; RIGHT TORTOISE SHELL BRACKET"⟩,
  ⟨"FULLWIDTH", "
    QUOTATION MARK; APOSTROPHE; SOLIDUS; LEFT SQUARE BRACKET; RIGHT SQUARE BRACKET;
    CIRCUMFLEX ACCENT; LOW LINE; GRAVE ACCENT; VERTICAL LINE; TILDE; LEFT WHITE PARENTHESIS;
    RIGHT WHITE PARENTHESIS; CENT SIGN; POUND SIGN; NOT SIGN; MACRON; BROKEN BAR; YEN SIGN;
    WON SIGN"⟩,
  ⟨"FULLWIDTH LATIN CAPITAL LETTER, FULLWIDTH LATIN SMALL LETTER", "
    A; B; C; D; E; F; G; H; I; J; K; L; M; N; O; P; Q; R; S; T; U; V; W; X; Y; Z"⟩,
  ⟨"HALFWIDTH", "
    IDEOGRAPHIC FULL STOP; LEFT CORNER BRACKET; RIGHT CORNER BRACKET; IDEOGRAPHIC COMMA;
    KATAKANA MIDDLE DOT; KATAKANA-HIRAGANA PROLONGED SOUND MARK; KATAKANA VOICED SOUND MARK;
    KATAKANA SEMI-VOICED SOUND MARK; HANGUL FILLER; FORMS LIGHT VERTICAL; LEFTWARDS ARROW;
    UPWARDS ARROW; RIGHTWARDS ARROW; DOWNWARDS ARROW; BLACK SQUARE; WHITE CIRCLE"⟩,
  ⟨"HALFWIDTH KATAKANA LETTER SMALL", "A; I; U; E; O; YA; YU; YO; TU"⟩,
  ⟨"HALFWIDTH KATAKANA LETTER", "N"⟩,
  ⟨"HALFWIDTH HANGUL LETTER", "
    KIYEOK-SIOS; RIEUL-THIEUTH; RIEUL-PHIEUPH; A; AE; YA; YAE; EO; E; YEO; YE; O; WA; WAE; OE; YO;
    U; WEO; WE; WI; YU; EU; YI; I"⟩,
  ⟨"OLD CHINESE", "HOOK MARK; ITERATION MARK"⟩,
  ⟨"VIETNAMESE ALTERNATE READING MARK", "CA; NHAY"⟩,
  ⟨"KATAKANA LETTER MINNAN", "TONE-2; TONE-3; TONE-4; TONE-5; TONE-7; TONE-8"⟩,
  ⟨"KATAKANA LETTER MINNAN NASALIZED", "TONE-1; TONE-2; TONE-3; TONE-4; TONE-5; TONE-7; TONE-8"⟩,
  ⟨"HENTAIGANA LETTER", "
    E-1; A-1; A-2; A-3; A-WO; I-1; I-2; I-3; I-4; U-1; U-2; U-3; U-4; U-5; E-2; E-3; E-4; E-5; E-6;
    O-1; O-2; O-3; KA-1; KA-2; KA-3; KA-4; KA-5; KA-6; KA-7; KA-8; KA-9; KA-10; KA-11; KA-KE; KI-1;
    KI-2; KI-3; KI-4; KI-5; KI-6; KI-7; KI-8; KU-1; KU-2; KU-3; KU-4; KU-5; KU-6; KU-7; KE-1; KE-2;
    KE-3; KE-4; KE-5; KE-6; KO-1; KO-2; KO-3; KO-KI; SA-1; SA-2; SA-3; SA-4; SA-5; SA-6; SA-7; SA-8;
    SI-1; SI-2; SI-3; SI-4; SI-5; SI-6; SU-1; SU-2; SU-3; SU-4; SU-5; SU-6; SU-7; SU-8; SE-1; SE-2;
    SE-3; SE-4; SE-5; SO-1; SO-2; SO-3; SO-4; SO-5; SO-6; SO-7; TA-1; TA-2; TA-3; TA-4; TI-1; TI-2;
    TI-3; TI-4; TI-5; TI-6; TI-7; TU-1; TU-2; TU-3; TU-4; TU-TO; TE-1; TE-2; TE-3; TE-4; TE-5; TE-6;
    TE-7; TE-8; TE-9; TO-1; TO-2; TO-3; TO-4; TO-5; TO-6; TO-RA; NA-1; NA-2; NA-3; NA-4; NA-5; NA-6;
    NA-7; NA-8; NA-9; NI-1; NI-2; NI-3; NI-4; NI-5; NI-6; NI-7; NI-TE; NU-1; NU-2; NU-3; NE-1; NE-2;
    NE-3; NE-4; NE-5; NE-6; NE-KO; NO-1; NO-2; NO-3; NO-4; NO-5; HA-1; HA-2; HA-3; HA-4; HA-5; HA-6;
    HA-7; HA-8; HA-9; HA-10; HA-11; HI-1; HI-2; HI-3; HI-4; HI-5; HI-6; HI-7; HU-1; HU-2; HU-3;
    HE-1; HE-2; HE-3; HE-4; HE-5; HE-6; HE-7; HO-1; HO-2; HO-3; HO-4; HO-5; HO-6; HO-7; HO-8; MA-1;
    MA-2; MA-3; MA-4; MA-5; MA-6; MA-7; MI-1; MI-2; MI-3; MI-4; MI-5; MI-6; MI-7; MU-1; MU-2; MU-3;
    MU-4; ME-1; ME-2; ME-MA; MO-1; MO-2; MO-3; MO-4; MO-5; MO-6; YA-1; YA-2; YA-3; YA-4; YA-5;
    YA-YO; YU-1; YU-2; YU-3; YU-4; YO-1; YO-2; YO-3; YO-4; YO-5; YO-6; RA-1; RA-2; RA-3; RA-4; RI-1;
    RI-2; RI-3; RI-4; RI-5; RI-6; RI-7; RU-1; RU-2; RU-3; RU-4; RU-5; RU-6; RE-1; RE-2; RE-3; RE-4;
    RO-1; RO-2; RO-3; RO-4; RO-5; RO-6; WA-1; WA-2; WA-3; WA-4; WA-5; WI-1; WI-2; WI-3; WI-4; WI-5;
    WE-1; WE-2; WE-3; WE-4; WO-1; WO-2; WO-3; WO-4; WO-5; WO-6; WO-7; N-MU-MO-1; N-MU-MO-2"⟩,
  ⟨"DIGRAM FOR", "HEAVENLY EARTH; HUMAN EARTH; EARTHLY HEAVEN; EARTHLY HUMAN; EARTH"⟩,
  ⟨"TETRAGRAM FOR", "
    CENTRE; FULL CIRCLE; MIRED; BARRIER; KEEPING SMALL; CONTRARIETY; ASCENT; OPPOSITION;
    BRANCHING OUT; DEFECTIVENESS OR DISTORTION; DIVERGENCE; YOUTHFULNESS; INCREASE; PENETRATION;
    REACH; CONTACT; HOLDING BACK; WAITING; FOLLOWING; ADVANCE; RELEASE; RESISTANCE; EASE; JOY;
    CONTENTION; ENDEAVOUR; DUTIES; CHANGE; DECISIVENESS; BOLD RESOLUTION; PACKING; LEGION;
    CLOSENESS; KINSHIP; GATHERING; STRENGTH; PURITY; FULLNESS; RESIDENCE; LAW OR MODEL; RESPONSE;
    GOING TO MEET; ENCOUNTERS; STOVE; GREATNESS; ENLARGEMENT; PATTERN; RITUAL; FLIGHT;
    VASTNESS OR WASTING; CONSTANCY; MEASURE; ETERNITY; UNITY; DIMINISHMENT; CLOSED MOUTH;
    GUARDEDNESS; GATHERING IN; MASSING; ACCUMULATION; EMBELLISHMENT; DOUBT; WATCH; SINKING; INNER;
    DEPARTURE; DARKENING; DIMMING; EXHAUSTION; SEVERANCE; STOPPAGE; HARDNESS; COMPLETION; CLOSURE;
    FAILURE; AGGRAVATION; COMPLIANCE; ON THE VERGE; DIFFICULTIES; LABOURING; FOSTERING"⟩,
  ⟨"IDEOGRAPHIC TALLY MARK", "ONE; TWO; THREE; FOUR; FIVE"⟩,
  ⟨"TALLY MARK", "ONE; FIVE"⟩,
  ⟨"SQUARED KATAKANA", "KOKO; SA; DE"⟩,
  ⟨"SQUARED CJK UNIFIED", "
    IDEOGRAPH-624B; IDEOGRAPH-5B57; IDEOGRAPH-53CC; IDEOGRAPH-4E8C; IDEOGRAPH-591A; IDEOGRAPH-89E3;
    IDEOGRAPH-5929; IDEOGRAPH-4EA4; IDEOGRAPH-6620; IDEOGRAPH-7121; IDEOGRAPH-6599; IDEOGRAPH-524D;
    IDEOGRAPH-5F8C; IDEOGRAPH-518D; IDEOGRAPH-65B0; IDEOGRAPH-521D; IDEOGRAPH-7D42; IDEOGRAPH-751F;
    IDEOGRAPH-8CA9; IDEOGRAPH-58F0; IDEOGRAPH-5439; IDEOGRAPH-6F14; IDEOGRAPH-6295; IDEOGRAPH-6355;
    IDEOGRAPH-4E00; IDEOGRAPH-4E09; IDEOGRAPH-904A; IDEOGRAPH-5DE6; IDEOGRAPH-4E2D; IDEOGRAPH-53F3;
    IDEOGRAPH-6307; IDEOGRAPH-8D70; IDEOGRAPH-6253; IDEOGRAPH-7981; IDEOGRAPH-7A7A; IDEOGRAPH-5408;
    IDEOGRAPH-6E80; IDEOGRAPH-6709; IDEOGRAPH-6708; IDEOGRAPH-7533; IDEOGRAPH-5272; IDEOGRAPH-55B6;
    IDEOGRAPH-914D"⟩,
  ⟨"TORTOISE SHELL BRACKETED CJK UNIFIED", "
    IDEOGRAPH-672C; IDEOGRAPH-4E09; IDEOGRAPH-4E8C; IDEOGRAPH-5B89; IDEOGRAPH-70B9; IDEOGRAPH-6253;
    IDEOGRAPH-76D7; IDEOGRAPH-52DD; IDEOGRAPH-6557"⟩,
  ⟨"ROUNDED SYMBOL FOR", "FU; LU; SHOU; XI; SHUANGXI; CAI"⟩]

end FixFirst.Text
