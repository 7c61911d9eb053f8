import FixFirst.Text.CharName.Group

/-!
# Names of the scripts of Africa

The names of the characters for the Ethiopic, Tifinagh, Vai, Bamum and other scripts of Africa.
-/

namespace FixFirst.Text

/-- Names of the scripts of Africa. -/
def africanNames : List NameGroup := [
  ⟨"NKO DIGIT, VAI DIGIT, OSMANYA DIGIT, MEDEFAIDRIN DIGIT, ADLAM DIGIT", "
    ZERO; ONE; TWO; THREE; FOUR; FIVE; SIX; SEVEN; EIGHT; NINE"⟩,
  ⟨"NKO LETTER", "
    A; EE; I; E; U; OO; O; DAGBASINNA; N; BA; PA; TA; JA; CHA; DA; RA; RRA; SA; GBA; FA; KA; LA;
    NA WOLOSO; MA; NYA; NA; HA; WA; YA; NYA WOLOSO; JONA JA; JONA CHA; JONA RA"⟩,
  ⟨"NKO COMBINING", "
    SHORT HIGH TONE; SHORT LOW TONE; SHORT RISING TONE; LONG DESCENDING TONE; LONG HIGH TONE;
    LONG LOW TONE; LONG RISING TONE; NASALIZATION MARK; DOUBLE DOT ABOVE"⟩,
  ⟨"NKO", "
    HIGH TONE APOSTROPHE; LOW TONE APOSTROPHE; SYMBOL OO DENNEN; SYMBOL GBAKURUNEN; COMMA;
    EXCLAMATION MARK; LAJANYALAN; DANTAYALAN; DOROME SIGN; TAMAN SIGN"⟩,
  ⟨"ETHIOPIC SYLLABLE, VAI SYLLABLE", "
    HA; HU; HI; HEE; HE; HO; LA; LU; LI; LEE; LE; LO; MA; MU; MI; MEE; ME; MO; RA; RU; RI; REE; RE;
    RO; SA; SU; SI; SEE; SE; SO; SHA; SHU; SHI; SHEE; SHE; SHO; BA; BU; BI; BEE; BE; BO; VA; VU; VI;
    VEE; VE; VO; TA; TU; TI; TEE; TE; TO; CA; CU; CI; CEE; CE; CO; NA; NU; NI; NEE; NE; NO; NYA;
    NYU; NYI; NYEE; NYE; NYO; KA; KU; KI; KEE; KE; KO; WA; WU; WI; WEE; WE; WO; ZA; ZU; ZI; ZEE; ZE;
    ZO; ZHA; ZHU; ZHI; ZHEE; ZHE; ZHO; YA; YU; YI; YEE; YE; YO; DA; DU; DI; DEE; DE; DO; JA; JU; JI;
    JEE; JE; JO; GA; GU; GI; GEE; GE; GO; THA; THU; THI; THEE; THE; THO; FA; FU; FI; FEE; FE; FO;
    PA; PU; PI; PEE; PE; PO"⟩,
  ⟨"ETHIOPIC SYLLABLE", "
    HAA; HOA; LAA; LWA; HHA; HHU; HHI; HHAA; HHEE; HHE; HHO; MAA; MWA; SZA; SZU; SZI; SZAA; SZEE;
    SZE; SZO; SZWA; RAA; RWA; SAA; SWA; SHAA; SHWA; QA; QU; QI; QAA; QEE; QE; QO; QOA; QWA; QWAA;
    QHA; QHU; QHI; QHAA; QHEE; QHE; QHO; QHWA; QHWI; QHWAA; QHWEE; QHWE; BAA; BWA; VAA; VWA; TAA;
    TWA; CAA; CWA; XA; XU; XI; XAA; XEE; XE; XO; XOA; XWA; XWI; XWAA; XWEE; XWE; NAA; NWA; NYAA;
    NYWA; KAA; KOA; KWA; KWAA; KXA; KXU; KXI; KXAA; KXEE; KXE; KXO; KXWA; KXWI; KXWAA; KXWEE; KXWE;
    WAA; WOA; ZAA; ZWA; ZHAA; ZHWA; YAA; YOA; DAA; DWA; DDA; DDU; DDI; DDAA; DDEE; DDE; DDO; DDWA;
    JAA; JWA; GAA; GOA; GWA; GWAA; GGA; GGU; GGI; GGAA; GGEE; GGE; GGO; GGWAA; THAA; THWA; CHA; CHU;
    CHI; CHAA; CHEE; CHE; CHO; CHWA; PHA; PHU; PHI; PHAA; PHEE; PHE; PHO; PHWA; TSA; TSU; TSI; TSAA;
    TSEE; TSE; TSO; TSWA; TZA; TZU; TZI; TZAA; TZEE; TZE; TZO; TZOA; FAA; FWA; PAA; PWA; RYA; MYA;
    FYA; MWE; BWE; FWE; PWE; LOA; MOA; ROA; SOA; SHOA; BOA; TOA; COA; NOA; NYOA; ZOA; DOA; DDOA;
    JOA; THOA; CHOA; PHOA; POA; GGWA; GGWI; GGWEE; GGWE; SSA; SSU; SSI; SSAA; SSEE; SSE; SSO; CCA;
    CCU; CCI; CCAA; CCEE; CCE; CCO; ZZA; ZZU; ZZI; ZZAA; ZZEE; ZZE; ZZO; CCHA; CCHU; CCHI; CCHAA;
    CCHEE; CCHE; CCHO; QYA; QYU; QYI; QYAA; QYEE; QYE; QYO; KYA; KYU; KYI; KYAA; KYEE; KYE; KYO;
    XYA; XYU; XYI; XYAA; XYEE; XYE; XYO; GYA; GYU; GYI; GYAA; GYEE; GYE; GYO; TTHU; TTHI; TTHAA;
    TTHEE; TTHE; TTHO; DDHU; DDHI; DDHAA; DDHEE; DDHE; DDHO; DZU; DZI; DZAA; DZEE; DZE; DZO; CCHHA;
    CCHHU; CCHHI; CCHHAA; CCHHEE; CCHHE; CCHHO; BBA; BBU; BBI; BBAA; BBEE; BBE; BBO; HHYA; HHYU;
    HHYI; HHYAA; HHYEE; HHYE; HHYO; HHWI; HHWEE; HHWE"⟩,
  ⟨"ETHIOPIC SYLLABLE, ETHIOPIC SYLLABLE GURAGE", "
    HHWA; QWI; QWEE; QWE; KWI; KWEE; KWE; GWI; GWEE; GWE; MWI; MWEE; BWI; BWEE; FWI; FWEE; PWI;
    PWEE"⟩,
  ⟨"ETHIOPIC SYLLABLE GLOTTAL", "A; U; I; AA; EE; E; O; WA; OA"⟩,
  ⟨"ETHIOPIC SYLLABLE PHARYNGEAL", "A; U; I; AA; EE; E; O"⟩,
  ⟨"ETHIOPIC COMBINING GEMINATION", "AND VOWEL LENGTH MARK; MARK"⟩,
  ⟨"ETHIOPIC", "
    COMBINING VOWEL LENGTH MARK; SECTION MARK; WORDSPACE; FULL STOP; COMMA; SEMICOLON; COLON;
    PREFACE COLON; QUESTION MARK; PARAGRAPH SEPARATOR"⟩,
  ⟨"ETHIOPIC DIGIT, MENDE KIKAKUI DIGIT", "ONE; TWO; THREE; FOUR; FIVE; SIX; SEVEN; EIGHT; NINE"⟩,
  ⟨"ETHIOPIC NUMBER", "
    TEN; TWENTY; THIRTY; FORTY; FIFTY; SIXTY; SEVENTY; EIGHTY; NINETY; HUNDRED; TEN THOUSAND"⟩,
  ⟨"ETHIOPIC SYLLABLE SEBATBEIT", "MWA; BWA; FWA; PWA"⟩,
  ⟨"ETHIOPIC TONAL MARK", "
    YIZET; DERET; RIKRIK; SHORT RIKRIK; DIFAT; KENAT; CHIRET; HIDET; DERET-HIDET; KURT"⟩,
  ⟨"TIFINAGH LETTER", "
    YA; YAB; YABH; YAG; YAGHH; BERBER ACADEMY YAJ; YAJ; YAD; YADH; YADD; YADDH; YEY; YAF; YAK;
    YAKHH; YAH; BERBER ACADEMY YAH; YAHH; YAA; YAKH; YAQ; YI; YAZH; AHAGGAR YAZH; YAL; YAM; YAN;
    YAP; YU; YAR; YARR; YAGH; AYER YAGH; YAS; YASS; YASH; YAT; YATH; YACH; YATT; YAV; YAW; YAY; YAZ;
    TAWELLEMET YAZ; YAZZ; YE; YO"⟩,
  ⟨"TIFINAGH LETTER TUAREG", "YAK; YAH; YAKH; YAQ; YAZH; YAGN; YANG; YAGH"⟩,
  ⟨"TIFINAGH", "MODIFIER LETTER LABIALIZATION MARK; SEPARATOR MARK; CONSONANT JOINER"⟩,
  ⟨"VAI SYLLABLE", "
    EE; EEN; WEEN; BHEE; MBEE; KPEE; MGBEE; GBEE; DHEE; DHHEE; NDEE; NJEE; NGGEE; I; IN; HIN; WIN;
    BHI; MBI; KPI; MGBI; GBI; DHI; DHHI; NDI; NJI; NGGI; A; AN; NGAN; HAN; WAN; BHA; MBA; KPA; KPAN;
    MGBA; GBA; DHA; DHHA; NDA; NJA; KAN; NGGA; OO; OON; HOO; WOO; WOON; POO; BHOO; BOO; MBOO; KPOO;
    MGBOO; GBOO; FOO; VOO; TOO; THOO; DHOO; DHHOO; LOO; ROO; DOO; NDOO; SOO; SHOO; ZOO; ZHOO; COO;
    JOO; NJOO; YOO; KOO; NGGOO; GOO; MOO; NOO; NYOO; U; UN; HUN; WUN; BHU; MBU; KPU; MGBU; GBU; DHU;
    DHHU; NDU; NJU; NGGU; O; ON; NGON; HON; WON; BHO; MBO; KPO; MGBO; GBO; GBON; DHO; DHHO; NDO;
    NJO; NGGO; E; EN; NGEN; HEN; WEN; BHE; MBE; KPE; KPEN; MGBE; GBE; GBEN; DHE; DHHE; NDE; NJE;
    NGGE; NGGEN; GEN; NG; LENGTHENER"⟩,
  ⟨"", "VAI COMMA; VAI FULL STOP; VAI QUESTION MARK"⟩,
  ⟨"VAI SYLLABLE NDOLE", "FA; KA; SOO; MA; DO"⟩,
  ⟨"VAI SYMBOL", "FEENG; KEENG; TING; NII; BANG; FAA; TAA; DANG; DOONG; KUNG; TONG; DO-O; JONG"⟩,
  ⟨"BAMUM LETTER, BAMUM LETTER PHASE-E", "
    A; O; I; YUQ; KEUX; NJEE; PUE; FEE; LU; MI; RAE; NGA; NA; PI; MEN; KI; TEN"⟩,
  ⟨"BAMUM LETTER, BAMUM LETTER PHASE-F", "
    KA; U; KU; EE; REE; TAE; NYI; LA; RII; RIEE; MEEEE; TAA; NDAA; NJAEM; M; SUU; SHII; SI; SEUX;
    KYEE; KET; NUAE; NU; NJUAE; YOQ; SHU; YA; NSHA; PEUX; NTEE; WUE; PEE; RU; NI; REUX; KEN;
    NGKWAEN; NGGA; SHO; PUAE; FOM; WA; LI; LOQ; KO; MBEN; REN; MA; MO; MBAA; TET; KPA; SAMBA"⟩,
  ⟨"BAMUM LETTER", "PA; LEEEE; MU; SHEUX; FU; TI; NTUU; FAAMAE; KOVUU; KOGHOM"⟩,
  ⟨"BAMUM", "
    COMBINING MARK KOQNDON; COMBINING MARK TUKWENTIS; NJAEMLI; FULL STOP; COLON; COMMA; SEMICOLON;
    QUESTION MARK"⟩,
  ⟨"OSMANYA LETTER", "
    ALEF; BA; TA; JA; XA; KHA; DEEL; RA; SA; SHIIN; DHA; CAYN; GA; FA; QAAF; KAAF; LAAN; MIIN; NUUN;
    WAW; HA; YA; A; E; I; O; U; AA; EE; OO"⟩,
  ⟨"BAMUM LETTER PHASE-A", "
    NGKUE MFON; GBIEE FON; PON MFON PIPAEMGBIEE; PON MFON PIPAEMBA; NAA MFON; SHUENSHUET; TITA MFON;
    NZA MFON; SHINDA PA NJI; PON PA NJI PIPAEMGBIEE; PON PA NJI PIPAEMBA; MAEMBGBIEE; TU MAEMBA;
    NGANGU; MAEMVEUX; MANSUAE; MVEUAENGAM; SEUNYAM; NTOQPEN; KEUKEUTNDA; NKINDI; SUU; NGKUENZEUM;
    LAPAQ; LET KUT; NTAP MFAA; MAEKEUP; PASHAE; GHEUAERAE; PAMSHAE; MON NGGEUAET; NZUN MEUT;
    U YUQ NAE; GHEUAEGHEUAE; NTAP NTAA; SISA; MGBASA; MEUNJOMNDEUQ; MOOMPUQ; KAFA; PA LEERAEWA;
    NDA LEERAEWA; PET; MAEMKPEN; NIKA; PUP; TUAEP; LUAEP; SONJAM; TEUTEUWEN; MAENYI; KET;
    NDAANGGEUAET; KUOQ; MOOMEUT; SHUM; LOMMAE; FIRI; ROM; KPOQ; SOQ; MAP PIEET; SHIRAE; NTAP;
    SHOQ NSHUT YUM; NYIT MONGKEUAEQ; PAARAE; NKAARAE; UNKNOWN; NGGEN; MAESI; NJAM; MBANYI; NYET;
    TEUAEN; SOT; PAAM; NSHIEE; MAEM; NYI; KAQ; NSHA; VEE; LU; NEN; NAQ; MBAQ"⟩,
  ⟨"BAMUM LETTER PHASE-B", "
    NSHUET; TU MAEMGBIEE; SIEE; SET TU; LOM NTEUM; MBA MAELEE; KIEEM; YEURAE; MBAARAE; KAM; PEESHI;
    YAFU LEERAEWA; LAM NSHUT NYAM; NTIEE SHEUOQ; NDU NJAA; GHEUGHEUAEM; PIT; TU NSIEE; SHET NJAQ;
    SHEUAEQTU; MFON TEUAEQ; MBIT MBAAKET; NYI NTEUM; KEUPUQ; GHEUGHEN; KEUYEUX; LAANAE; PARUM; VEUM;
    NGKINDI MVOP; NGGEU MBU; WUAET; SAKEUAE; TAAM; MEUQ; NGGUOQ; NGGUOQ LARGE; MFIYAQ; SUE; MBEURI;
    MONTIEEN; NYAEMAE; PUNGAAM; MEUT NGGEET; FEUX; MBUOQ; FEE; KEUAEM; MA NJEUAENA; MA NJUQA; LET;
    NGGAAM; NSEN; MA; KIQ; NGOM"⟩,
  ⟨"BAMUM LETTER PHASE-C", "
    NGKUE MAEMBA; NZA; YUM; WANGKUOQ; NGGEN; NDEUAEREE; NGKAQ; GHARAE; MBEEKEET; GBAYI;
    NYIR MKPARAQ MEUN; NTU MBIT; MBEUM; PIRIEEN; NDOMBU; MBAA CABBAGE-TREE; KEUSHEUAEP; GHAP;
    KEUKAQ; YU MUOMAE; NZEUM; MBUE; NSEUAEN; MBIT; YEUQ; KPARAQ; KAA; SEUX; NDIDA; TAASHAE; NJUEQ;
    TITA YUE; SUAET; NGGUAEN NYAM; VEUX; NANSANAQ; MA KEUAERI; NTAA; NGGUON; LAP; MBIRIEEN; MGBASAQ;
    NTEUNGBA; TEUTEUX; NGGUM; FUE; NDEUT; NSA; NSHAQ; BUNG; VEUAEPEN; MBERAE; RU; NJAEM; LAM;
    TITUAEP; NSUOT NGOM; NJEEEE; KET; NGGU; MAESI; MBUAEM; LU; KUT; NJAM; NGOM; WUP; NGGUEET; NSOM;
    NTEN; KUOP NKAARAE; NSUN; NDAM; MA NSIEE; YAA; NDAP; SHUEQ; SETFON; MBI; MAEMBA; MBANYI;
    KEUSEUX; MBEUX; KEUM; MBAA PICKET; YUWOQ; NJEUX; MIEE; MUAE; SHIQ; KEN LAW; KEN FATIGUE; NGAQ;
    NAQ; LIQ; PIN; PEN; TET"⟩,
  ⟨"BAMUM LETTER PHASE-D", "
    MBUO; WAP; NJI; MFON; NJIEE; LIEE; NJEUT; NSHEE; NGGAAMAE; NYAM; WUAEN; NGKUN; SHEE; NGKAP;
    KEUAETMEUN; TEUT; SHEUAE; NJAP; SUE; KET; YAEMMAE; KUOM; SAP; MFEUT; NDEUX; MALEERI; MEUT;
    SEUAEQ; YEN; NJEUAEM; KEUOT MBUAE; NGKEURI; TU; GHAA; NGKYEE; FEUFEUAET; NDEE; MGBOFUM; LEUAEP;
    NDON; MONI; MGBEUN; PUUT; MGBIEE; MFO; LUM; NSIEEP; MBAA; KWAET; NYET; TEUAEN; SOT; YUWOQ; KEUM;
    RAEM; TEEEE; NGKEUAEQ; MFEUAE; NSIEET; KEUP; PIP; PEUTAE; NYUE; LET; NGGAAM; MFIEE; NGGWAEN;
    YUOM; PAP; YUOP; NDAM; NTEUM; SUAE; KUN; NGGEUX; NGKIEE; TUOT; MEUN; KUQ; NSUM; TEUN; MAENJET;
    NGGAP; LEUM; NGGUOM; NSHUT; NJUEQ; GHEUAE; KU; REN OLD; TAE; TOQ; NYI; RII; LEEEE; MEEEE; M;
    SUU; MU; SHII; SHEUX; KYEE; NU; SHU; NTEE; PEE; NI; SHOQ; PUQ; MVOP; LOQ; REN MUCH; TI; NTUU;
    MBAA SEVEN; SAQ; FAA"⟩,
  ⟨"BAMUM LETTER PHASE-E", "
    NDAP; TOON; MBEUM; LAP; VOM; LOON; PAA; SOM; RAQ; NSHUOP; NDUN; PUAE; TAM; NGKA; KPEUX; WUO;
    SEE; NGGEUAET; PAAM; TOO; KUOP; LOM; NSHIEE; NGOP; MAEM; NGKEUX; NGOQ; NSHUE; RIMGBA; NJEUX;
    PEEM; SAA; NGGURAE; MGBA; GHEUX; NGKEUAEM; NJAEMLI; MAP; LOOT; NGGEEEE; NDIQ; TAEN NTEUM; SET;
    PUM; NDAA SOFTNESS; NGGUAESHAE NYAM; YIEE; GHEUN; TUAE; YEUAE; PO; TUMAE; KEUAE; SUAEN; TEUAEQ;
    VEUAE; WEUX; LAAM; PU; TAAQ; GHAAMAE; NGEUREUT; SHEUAEQ; MGBEN; MBEE; NZAQ; NKOM; GBET; TUM;
    KUET; YAP; NYI CLEAVER; YIT; MFEUQ; NDIAQ; PIEEQ; YUEQ; LEUAEM; FUE; GBEUX; NGKUP; KET; MAE;
    NGKAAMI; GHET; FA; NTUM; PEUT; YEUM; NGGEUAE; NYI BETWEEN; NZUQ; POON; MIEE; FUET; NAE; MUAE;
    GHEUAE; FU I; MVI; PUAQ; NGKUM; KUT; PIET; NTAP; YEUAET; NGGUP; PA PEOPLE; FU CALL; FOM; TOQ;
    LAQ; PA PLURAL; TAA; TAQ; NDAA MY HOUSE; SHIQ; YEUX; NGUAE; YUAEN; YOQ SWIMMING; YOQ COVER; YUN;
    PEUX; NJEE EPOCH; WUE; VEE; REUX; NGUAET; SHO; SHOQ; FU REMEDY; LOQ; KO; MA; MAQ; TEU; MON; FAQ;
    GHOM"⟩,
  ⟨"BAMUM LETTER PHASE-F", "VUEQ"⟩,
  ⟨"MEDEFAIDRIN CAPITAL LETTER, MEDEFAIDRIN SMALL LETTER", "
    M; S; V; W; ATIU; Z; KP; P; T; G; F; I; K; A; J; E; B; C; U; YU; L; Q; H; HP; NG; NY; X; D; OE;
    N; R; O; AI; Y"⟩,
  ⟨"MEDEFAIDRIN NUMBER", "
    TEN; ELEVEN; TWELVE; THIRTEEN; FOURTEEN; FIFTEEN; SIXTEEN; SEVENTEEN; EIGHTEEN; NINETEEN"⟩,
  ⟨"MEDEFAIDRIN DIGIT", "ONE ALTERNATE FORM; TWO ALTERNATE FORM; THREE ALTERNATE FORM"⟩,
  ⟨"MEDEFAIDRIN", "COMMA; FULL STOP; SYMBOL AIVA; EXCLAMATION OH"⟩,
  ⟨"MENDE KIKAKUI SYLLABLE", "
    M001 KI; M002 KA; M003 KU; M065 KEE; M095 KE; M076 KOO; M048 KO; M179 KUA; M004 WI; M005 WA;
    M006 WU; M126 WEE; M118 WE; M114 WOO; M045 WO; M194 WUI; M143 WEI; M061 WVI; M049 WVA; M139 WVE;
    M007 MIN; M008 MAN; M009 MUN; M059 MEN; M094 MON; M154 MUAN; M189 MUEN; M010 BI; M011 BA;
    M012 BU; M150 BEE; M097 BE; M103 BOO; M138 BO; M013 I; M014 A; M015 U; M163 EE; M100 E; M165 OO;
    M147 O; M137 EI; M131 IN; M135 IN; M195 AN; M178 EN; M019 SI; M020 SA; M021 SU; M162 SEE;
    M116 SE; M136 SOO; M079 SO; M196 SIA; M025 LI; M026 LA; M027 LU; M084 LEE; M073 LE; M054 LOO;
    M153 LO; M110 LONG LE; M016 DI; M017 DA; M018 DU; M089 DEE; M180 DOO; M181 DO; M022 TI; M023 TA;
    M024 TU; M091 TEE; M055 TE; M104 TOO; M069 TO; M028 JI; M029 JA; M030 JU; M157 JEE; M113 JE;
    M160 JOO; M063 JO; M175 LONG JO; M031 YI; M032 YA; M033 YU; M109 YEE; M080 YE; M141 YOO;
    M121 YO; M034 FI; M035 FA; M036 FU; M078 FEE; M075 FE; M133 FOO; M088 FO; M197 FUA; M101 FAN;
    M037 NIN; M038 NAN; M039 NUN; M117 NEN; M169 NON; M176 HI; M041 HA; M186 HU; M040 HEE; M096 HE;
    M042 HOO; M140 HO; M083 HEEI; M128 HOOU; M053 HIN; M130 HAN; M087 HUN; M052 HEN; M193 HON;
    M046 HUAN; M090 NGGI; M043 NGGA; M082 NGGU; M115 NGGEE; M146 NGGE; M156 NGGOO; M120 NGGO;
    M159 NGGAA; M127 NGGUA; M086 LONG NGGE; M106 LONG NGGOO; M183 LONG NGGO; M155 GI; M111 GA;
    M168 GU; M190 GEE; M166 GUEI; M167 GUAN; M184 NGEN; M057 NGON; M177 NGUAN; M068 PI; M099 PA;
    M050 PU; M081 PEE; M051 PE; M102 POO; M066 PO; M145 MBI; M062 MBA; M122 MBU; M047 MBEE;
    M188 MBEE; M072 MBE; M172 MBOO; M174 MBO; M187 MBUU; M161 LONG MBE; M105 LONG MBOO;
    M142 LONG MBO; M132 KPI; M092 KPA; M074 KPU; M044 KPEE; M108 KPE; M112 KPOO; M158 KPO; M124 GBI;
    M056 GBA; M148 GBU; M093 GBEE; M107 GBE; M071 GBOO; M070 GBO; M171 RA; M123 NDI; M129 NDA;
    M125 NDU; M191 NDEE; M119 NDE; M067 NDOO; M064 NDO; M152 NJA; M192 NJU; M149 NJEE; M134 NJOO;
    M182 VI; M185 VA; M151 VU; M173 VEE; M085 VE; M144 VOO; M077 VO; M164 NYIN; M058 NYAN;
    M170 NYUN; M098 NYEN; M060 NYON"⟩,
  ⟨"MENDE KIKAKUI COMBINING NUMBER", "
    TEENS; TENS; HUNDREDS; THOUSANDS; TEN THOUSANDS; HUNDRED THOUSANDS; MILLIONS"⟩,
  ⟨"ADLAM CAPITAL LETTER, ADLAM SMALL LETTER", "
    ALIF; DAALI; LAAM; MIIM; BA; SINNYIIYHE; PE; BHE; RA; E; FA; I; O; DHA; YHE; WAW; NUN; KAF; YA;
    U; JIIM; CHI; HA; QAAF; GA; NYA; TU; NHA; VA; KHA; GBE; ZAL; KPO; SHA"⟩,
  ⟨"ADLAM", "
    ALIF LENGTHENER; VOWEL LENGTHENER; GEMINATION MARK; HAMZA; CONSONANT MODIFIER;
    GEMINATE CONSONANT MODIFIER; NUKTA; NASALIZATION MARK; INITIAL EXCLAMATION MARK;
    INITIAL QUESTION MARK"⟩]

end FixFirst.Text
