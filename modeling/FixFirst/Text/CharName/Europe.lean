import FixFirst.Text.CharName.Group

/-!
# Names of the other scripts of Europe

The names of the characters for the Greek, Coptic, Cyrillic, Armenian, Georgian and older scripts
of Europe.
-/

namespace FixFirst.Text

/-- Names of the other scripts of Europe. -/
def europeanNames : List NameGroup := [
  ⟨"GREEK CAPITAL LETTER, GREEK SMALL LETTER", "
    HETA; ARCHAIC SAMPI; PAMPHYLIAN DIGAMMA; ALPHA; BETA; GAMMA; DELTA; EPSILON; ZETA; ETA; THETA;
    IOTA; KAPPA; LAMDA; MU; NU; XI; OMICRON; PI; RHO; SIGMA; TAU; UPSILON; PHI; CHI; PSI; OMEGA;
    SHO; SAN; RHO WITH DASIA"⟩,
  ⟨"GREEK", "
    NUMERAL SIGN; LOWER NUMERAL SIGN; YPOGEGRAMMENI; SMALL REVERSED LUNATE SIGMA SYMBOL;
    SMALL DOTTED LUNATE SIGMA SYMBOL; SMALL REVERSED DOTTED LUNATE SIGMA SYMBOL; QUESTION MARK;
    ANO TELEIA; BETA SYMBOL; THETA SYMBOL; PHI SYMBOL; PI SYMBOL; KAI SYMBOL; KAPPA SYMBOL;
    RHO SYMBOL; LUNATE SIGMA SYMBOL; LUNATE EPSILON SYMBOL; REVERSED LUNATE EPSILON SYMBOL;
    RHO WITH STROKE SYMBOL; KORONIS; PERISPOMENI"⟩,
  ⟨"GREEK CAPITAL LETTER", "YOT"⟩,
  ⟨"GREEK, GREEK CAPITAL LETTER ETA WITH, GREEK CAPITAL LETTER OMEGA WITH", "
    TONOS; PROSGEGRAMMENI; PSILI; VARIA; OXIA; DASIA"⟩,
  ⟨"GREEK DIALYTIKA", "TONOS; AND PERISPOMENI; AND VARIA; AND OXIA"⟩,
  ⟨"GREEK CAPITAL LETTER ALPHA WITH", "
    TONOS; PSILI; DASIA; VRACHY; MACRON; VARIA; OXIA; PROSGEGRAMMENI"⟩,
  ⟨"GREEK CAPITAL LETTER EPSILON WITH, GREEK CAPITAL LETTER OMICRON WITH,
    GREEK SMALL LETTER EPSILON WITH, GREEK SMALL LETTER OMICRON WITH", "
    TONOS; PSILI; DASIA; PSILI AND VARIA; DASIA AND VARIA; PSILI AND OXIA; DASIA AND OXIA; VARIA;
    OXIA"⟩,
  ⟨"GREEK CAPITAL LETTER IOTA WITH, GREEK SMALL LETTER IOTA WITH,
    GREEK SMALL LETTER UPSILON WITH", "
    TONOS; DIALYTIKA; PSILI; DASIA; PSILI AND VARIA; DASIA AND VARIA; PSILI AND OXIA;
    DASIA AND OXIA; PSILI AND PERISPOMENI; DASIA AND PERISPOMENI; VRACHY; MACRON; VARIA; OXIA"⟩,
  ⟨"GREEK CAPITAL LETTER UPSILON WITH", "
    TONOS; DIALYTIKA; DASIA; DASIA AND VARIA; DASIA AND OXIA; DASIA AND PERISPOMENI; VRACHY; MACRON;
    VARIA; OXIA"⟩,
  ⟨"GREEK SMALL LETTER IOTA WITH DIALYTIKA AND", "TONOS; VARIA; OXIA; PERISPOMENI"⟩,
  ⟨"GREEK SMALL LETTER ALPHA WITH, GREEK SMALL LETTER ETA WITH, GREEK SMALL LETTER OMEGA WITH", "
    TONOS; PSILI; DASIA"⟩,
  ⟨"GREEK SMALL LETTER UPSILON WITH", "
    DIALYTIKA AND TONOS; DIALYTIKA AND VARIA; DIALYTIKA AND OXIA; DIALYTIKA AND PERISPOMENI"⟩,
  ⟨"GREEK SMALL LETTER", "
    FINAL SIGMA; ARCHAIC KOPPA; STIGMA; DIGAMMA; KOPPA; SAMPI; RHO WITH PSILI"⟩,
  ⟨"GREEK CAPITAL", "
    KAI SYMBOL; THETA SYMBOL; LUNATE SIGMA SYMBOL; REVERSED LUNATE SIGMA SYMBOL;
    DOTTED LUNATE SIGMA SYMBOL; REVERSED DOTTED LUNATE SIGMA SYMBOL"⟩,
  ⟨"GREEK UPSILON WITH", "HOOK SYMBOL; ACUTE AND HOOK SYMBOL; DIAERESIS AND HOOK SYMBOL"⟩,
  ⟨"GREEK LETTER", "ARCHAIC KOPPA; STIGMA; DIGAMMA; KOPPA; SAMPI; YOT"⟩,
  ⟨"COPTIC CAPITAL LETTER, COPTIC SMALL LETTER", "
    SHEI; FEI; KHEI; HORI; GANGIA; SHIMA; DEI; ALFA; VIDA; GAMMA; DALDA; EIE; SOU; ZATA; HATE;
    THETHE; IAUDA; KAPA; LAULA; MI; NI; KSI; O; PI; RO; SIMA; TAU; UA; FI; KHI; PSI; OOU;
    DIALECT-P ALEF; DIALECT-P KAPA; DIALECT-P NI; SAMPI; CROSSED SHEI; AKHMIMIC KHEI;
    DIALECT-P HORI; L-SHAPED HA; BOHAIRIC KHEI"⟩,
  ⟨"CYRILLIC CAPITAL LETTER, CYRILLIC SMALL LETTER", "
    IE WITH GRAVE; IO; DJE; GJE; DZE; BYELORUSSIAN-UKRAINIAN I; JE; LJE; NJE; TSHE; KJE;
    I WITH GRAVE; SHORT U; DZHE; SHORT I; E; YA; KSI; PSI; IZHITSA;
    IZHITSA WITH DOUBLE GRAVE ACCENT; UK; ROUND OMEGA; OMEGA WITH TITLO; OT; KOPPA;
    SHORT I WITH TAIL; SEMISOFT SIGN; ER WITH TICK; ZHE WITH DESCENDER; ZE WITH DESCENDER;
    KA WITH DESCENDER; KA WITH VERTICAL STROKE; KA WITH STROKE; BASHKIR KA; EN WITH DESCENDER;
    PE WITH MIDDLE HOOK; ABKHASIAN HA; ES WITH DESCENDER; TE WITH DESCENDER; STRAIGHT U;
    STRAIGHT U WITH STROKE; HA WITH DESCENDER; CHE WITH DESCENDER; CHE WITH VERTICAL STROKE; SHHA;
    ABKHASIAN CHE; ABKHASIAN CHE WITH DESCENDER; ZHE WITH BREVE; KA WITH HOOK; EL WITH TAIL;
    EN WITH HOOK; EN WITH TAIL; KHAKASSIAN CHE; EM WITH TAIL; A WITH BREVE; A WITH DIAERESIS;
    IE WITH BREVE; SCHWA; SCHWA WITH DIAERESIS; ZHE WITH DIAERESIS; ZE WITH DIAERESIS;
    ABKHASIAN DZE; I WITH MACRON; I WITH DIAERESIS; O WITH DIAERESIS; BARRED O;
    BARRED O WITH DIAERESIS; E WITH DIAERESIS; U WITH MACRON; U WITH DIAERESIS; U WITH DOUBLE ACUTE;
    CHE WITH DIAERESIS; YERU WITH DIAERESIS; HA WITH HOOK; HA WITH STROKE; REVERSED ZE;
    EL WITH HOOK; LHA; RHA; YAE; QA; WE; ALEUT KA; EL WITH MIDDLE HOOK; EN WITH MIDDLE HOOK;
    PE WITH DESCENDER; SHHA WITH DESCENDER; EN WITH LEFT HOOK; DZZHE; DCHE; EL WITH DESCENDER;
    ZEMLYA; DZELO; REVERSED DZE; IOTA; BROAD OMEGA; NEUTRAL YER; YERU WITH BACK YER; REVERSED YU;
    CLOSED LITTLE YUS; BLENDED YUS; YN; REVERSED TSE; SOFT DE; SOFT EL; SOFT EM; MONOCULAR O;
    BINOCULAR O; DOUBLE MONOCULAR O; DWE; DZWE; ZHWE; CCHE; DZZE; TE WITH MIDDLE HOOK; TWE; TSWE;
    TSSE; TCHE; HWE; SHWE; DOUBLE O; CROSSED O"⟩,
  ⟨"CYRILLIC CAPITAL LETTER, CYRILLIC SMALL LETTER, COMBINING CYRILLIC LETTER", "
    UKRAINIAN IE; YI; A; BE; VE; GHE; DE; IE; ZHE; ZE; I; KA; EL; EM; EN; O; PE; ER; ES; TE; U; EF;
    HA; TSE; CHE; SHA; SHCHA; HARD SIGN; YERU; SOFT SIGN; YU; OMEGA; YAT; LITTLE YUS; BIG YUS; FITA;
    DJERV; MONOGRAPH UK"⟩,
  ⟨"CYRILLIC CAPITAL LETTER IOTIFIED, CYRILLIC SMALL LETTER IOTIFIED", "
    E; LITTLE YUS; BIG YUS; YAT; A; CLOSED LITTLE YUS"⟩,
  ⟨"CYRILLIC", "THOUSANDS SIGN; LETTER PALOCHKA; LETTER MULTIOCULAR O; KAVYKA; PAYEROK"⟩,
  ⟨"COMBINING CYRILLIC", "
    TITLO; PALATALIZATION; DASIA PNEUMATA; PSILI PNEUMATA; POKRYTIE; HUNDRED THOUSANDS SIGN;
    MILLIONS SIGN; VZMET; TEN MILLIONS SIGN; HUNDRED MILLIONS SIGN; THOUSAND MILLIONS SIGN; KAVYKA;
    PAYEROK"⟩,
  ⟨"CYRILLIC CAPITAL LETTER GHE WITH, CYRILLIC SMALL LETTER GHE WITH", "
    UPTURN; STROKE; MIDDLE HOOK; DESCENDER; STROKE AND HOOK"⟩,
  ⟨"CYRILLIC CAPITAL LIGATURE, CYRILLIC SMALL LIGATURE", "EN GHE; TE TSE; A IE"⟩,
  ⟨"CYRILLIC SMALL LETTER", "
    PALOCHKA; ROUNDED VE; LONG-LEGGED DE; NARROW O; WIDE ES; TALL TE; THREE-LEGGED TE;
    TALL HARD SIGN; TALL YAT; UNBLENDED UK"⟩,
  ⟨"CYRILLIC CAPITAL LETTER KOMI, CYRILLIC SMALL LETTER KOMI", "
    DE; DJE; ZJE; DZJE; LJE; NJE; SJE; TJE"⟩,
  ⟨"ARMENIAN CAPITAL LETTER, ARMENIAN SMALL LETTER", "
    AYB; BEN; GIM; DA; ECH; ZA; EH; ET; TO; ZHE; INI; LIWN; XEH; CA; KEN; HO; JA; GHAD; CHEH; MEN;
    YI; NOW; SHA; VO; CHA; PEH; JHEH; RA; SEH; VEW; TIWN; REH; CO; YIWN; PIWR; KEH; OH; FEH"⟩,
  ⟨"ARMENIAN", "
    MODIFIER LETTER LEFT HALF RING; APOSTROPHE; EMPHASIS MARK; EXCLAMATION MARK; COMMA;
    QUESTION MARK; ABBREVIATION MARK; FULL STOP; HYPHEN; DRAM SIGN"⟩,
  ⟨"ARMENIAN SMALL LETTER", "TURNED AYB; YI WITH STROKE"⟩,
  ⟨"ARMENIAN SMALL LIGATURE", "ECH YIWN; MEN NOW; MEN ECH; MEN INI; VEW NOW; MEN XEH"⟩,
  ⟨"", "
    RIGHT-FACING ARMENIAN ETERNITY SIGN; LEFT-FACING ARMENIAN ETERNITY SIGN;
    GEORGIAN PARAGRAPH SEPARATOR; SLAVONIC ASTERISK; CAUCASIAN ALBANIAN CITATION MARK"⟩,
  ⟨"GEORGIAN CAPITAL LETTER, GEORGIAN LETTER, GEORGIAN MTAVRULI CAPITAL LETTER,
    GEORGIAN SMALL LETTER", "
    AN; BAN; GAN; DON; EN; VIN; ZEN; TAN; IN; KAN; LAS; MAN; NAR; ON; PAR; ZHAR; RAE; SAN; TAR; UN;
    PHAR; KHAR; GHAN; QAR; SHIN; CHIN; CAN; JIL; CIL; CHAR; XAN; JHAN; HAE; HE; HIE; WE; HAR; HOE;
    YN; AEN"⟩,
  ⟨"GEORGIAN LETTER, GEORGIAN MTAVRULI CAPITAL LETTER", "
    FI; ELIFI; TURNED GAN; AIN; HARD SIGN; LABIAL SIGN"⟩,
  ⟨"MODIFIER LETTER", "GEORGIAN NAR; CYRILLIC HARD SIGN; CYRILLIC SOFT SIGN"⟩,
  ⟨"OGHAM", "SPACE MARK; FEATHER MARK; REVERSED FEATHER MARK"⟩,
  ⟨"OGHAM LETTER", "
    BEITH; LUIS; FEARN; SAIL; NION; UATH; DAIR; TINNE; COLL; CEIRT; MUIN; GORT; NGEADAL; STRAIF;
    RUIS; AILM; ONN; UR; EADHADH; IODHADH; EABHADH; OR; UILLEANN; IFIN; EAMHANCHOLL; PEITH"⟩,
  ⟨"RUNIC LETTER", "
    FEHU FEOH FE F; V; URUZ UR U; YR; Y; W; THURISAZ THURS THORN; ETH; ANSUZ A; OS O; AC A; AESC;
    LONG-BRANCH-OSS O; SHORT-TWIG-OSS O; O; OE; ON; RAIDO RAD REID R; KAUNA; CEN; KAUN K; G; ENG;
    GEBO GYFU G; GAR; WUNJO WYNN W; HAGLAZ H; HAEGL H; LONG-BRANCH-HAGALL H; SHORT-TWIG-HAGALL H;
    NAUDIZ NYD NAUD N; SHORT-TWIG-NAUD N; DOTTED-N; ISAZ IS ISS I; E; JERAN J; GER;
    LONG-BRANCH-AR AE; SHORT-TWIG-AR A; IWAZ EOH; PERTHO PEORTH P; ALGIZ EOLHX; SOWILO S;
    SIGEL LONG-BRANCH-SOL S; SHORT-TWIG-SOL S; C; Z; TIWAZ TIR TYR T; SHORT-TWIG-TYR T; D;
    BERKANAN BEORC BJARKAN B; SHORT-TWIG-BJARKAN B; DOTTED-P; OPEN-P; EHWAZ EH E; MANNAZ MAN M;
    LONG-BRANCH-MADR M; SHORT-TWIG-MADR M; LAUKAZ LAGU LOGR L; DOTTED-L; INGWAZ; ING; DAGAZ DAEG D;
    OTHALAN ETHEL O; EAR; IOR; CWEORTH; CALC; CEALC; STAN; LONG-BRANCH-YR; SHORT-TWIG-YR;
    ICELANDIC-YR; Q; X; K; SH; OO"⟩,
  ⟨"RUNIC", "
    SINGLE PUNCTUATION; MULTIPLE PUNCTUATION; CROSS PUNCTUATION; ARLAUG SYMBOL; TVIMADUR SYMBOL;
    BELGTHOR SYMBOL"⟩,
  ⟨"RUNIC LETTER FRANKS CASKET", "OS; IS; EH; AC; AESC"⟩,
  ⟨"GREEK SMALL LETTER ALPHA WITH PSILI AND, GREEK SMALL LETTER ALPHA WITH DASIA AND,
    GREEK SMALL LETTER ETA WITH PSILI AND, GREEK SMALL LETTER ETA WITH DASIA AND,
    GREEK SMALL LETTER OMEGA WITH PSILI AND, GREEK SMALL LETTER OMEGA WITH DASIA AND,
    GREEK SMALL LETTER ALPHA WITH, GREEK SMALL LETTER ETA WITH, GREEK SMALL LETTER OMEGA WITH", "
    VARIA; OXIA; PERISPOMENI; YPOGEGRAMMENI; VARIA AND YPOGEGRAMMENI; OXIA AND YPOGEGRAMMENI;
    PERISPOMENI AND YPOGEGRAMMENI"⟩,
  ⟨"GREEK CAPITAL LETTER ALPHA WITH PSILI AND, GREEK CAPITAL LETTER ALPHA WITH DASIA AND,
    GREEK CAPITAL LETTER ETA WITH PSILI AND, GREEK CAPITAL LETTER ETA WITH DASIA AND,
    GREEK CAPITAL LETTER OMEGA WITH PSILI AND, GREEK CAPITAL LETTER OMEGA WITH DASIA AND", "
    VARIA; OXIA; PERISPOMENI; PROSGEGRAMMENI; VARIA AND PROSGEGRAMMENI; OXIA AND PROSGEGRAMMENI;
    PERISPOMENI AND PROSGEGRAMMENI"⟩,
  ⟨"GREEK SMALL LETTER ALPHA WITH", "VRACHY; MACRON"⟩,
  ⟨"GREEK PSILI AND, GREEK DASIA AND", "VARIA; OXIA; PERISPOMENI"⟩,
  ⟨"GREEK SMALL LETTER IOTA WITH, GREEK SMALL LETTER UPSILON WITH", "PERISPOMENI"⟩,
  ⟨"GLAGOLITIC CAPITAL LETTER, GLAGOLITIC SMALL LETTER, COMBINING GLAGOLITIC LETTER", "
    AZU; BUKY; VEDE; GLAGOLI; DOBRO; YESTU; ZHIVETE; ZEMLJA; IZHE; INITIAL IZHE; I; DJERVI; KAKO;
    LJUDIJE; MYSLITE; NASHI; ONU; POKOJI; RITSI; SLOVO; TVRIDO; UKU; FRITU; HERU; SHTA; TSI; CHRIVI;
    SHA; YERU; YERI; YATI; YU; SMALL YUS; YO; IOTATED SMALL YUS; BIG YUS; IOTATED BIG YUS; FITA"⟩,
  ⟨"GLAGOLITIC CAPITAL LETTER, GLAGOLITIC SMALL LETTER", "
    DZELO; OTU; PE; SPIDERY HA; SMALL YUS WITH TAIL; IZHITSA; SHTAPIC; TROKUTASTI A;
    LATINATE MYSLITE; CAUDATE CHRIVI"⟩,
  ⟨"COPTIC CAPITAL LETTER OLD COPTIC, COPTIC SMALL LETTER OLD COPTIC", "
    AIN; OOU; SHEI; ESH; HORI; HA; HEI; HAT; GANGIA; DJA; SHIMA"⟩,
  ⟨"COPTIC CAPITAL LETTER CRYPTOGRAMMIC, COPTIC SMALL LETTER CRYPTOGRAMMIC", "
    EIE; NI; SHEI; GANGIA"⟩,
  ⟨"COPTIC CAPITAL LETTER OLD NUBIAN, COPTIC SMALL LETTER OLD NUBIAN", "SHIMA; NGI; NYI; WAU"⟩,
  ⟨"COPTIC SYMBOL", "KAI; MI RO; PI RO; STAUROS; TAU RO; KHI RO; SHIMA SIMA"⟩,
  ⟨"COPTIC COMBINING", "NI ABOVE; SPIRITUS ASPER; SPIRITUS LENIS"⟩,
  ⟨"COPTIC OLD NUBIAN", "FULL STOP; DIRECT QUESTION MARK; INDIRECT QUESTION MARK; VERSE DIVIDER"⟩,
  ⟨"COPTIC", "FRACTION ONE HALF; FULL STOP; MORPHOLOGICAL DIVIDER; EPACT THOUSANDS MARK"⟩,
  ⟨"COMBINING CYRILLIC LETTER", "ES-TE; IOTIFIED A; IOTIFIED BIG YUS; IOTIFIED E"⟩,
  ⟨"COPTIC EPACT DIGIT", "ONE; TWO; THREE; FOUR; FIVE; SIX; SEVEN; EIGHT; NINE"⟩,
  ⟨"COPTIC EPACT NUMBER", "
    TEN; TWENTY; THIRTY; FORTY; FIFTY; SIXTY; SEVENTY; EIGHTY; NINETY; ONE HUNDRED; TWO HUNDRED;
    THREE HUNDRED; FOUR HUNDRED; FIVE HUNDRED; SIX HUNDRED; SEVEN HUNDRED; EIGHT HUNDRED;
    NINE HUNDRED"⟩,
  ⟨"OLD ITALIC LETTER", "
    A; BE; KE; DE; E; VE; ZE; HE; THE; I; KA; EL; EM; EN; ESH; O; PE; SHE; KU; ER; ES; TE; U; EKS;
    PHE; KHE; EF; ERS; CHE; II; UU; ESS; YE; NORTHERN TSE; SOUTHERN TSE"⟩,
  ⟨"OLD ITALIC NUMERAL", "ONE; FIVE; TEN; FIFTY"⟩,
  ⟨"GOTHIC LETTER", "
    AHSA; BAIRKAN; GIBA; DAGS; AIHVUS; QAIRTHRA; IUJA; HAGL; THIUTH; EIS; KUSMA; LAGUS; MANNA;
    NAUTHS; JER; URUS; PAIRTHRA; NINETY; RAIDA; SAUIL; TEIWS; WINJA; FAIHU; IGGWS; HWAIR; OTHAL;
    NINE HUNDRED"⟩,
  ⟨"OLD PERMIC LETTER", "
    AN; BUR; GAI; DOI; E; ZHOI; DZHOI; ZATA; DZITA; I; KOKE; LEI; MENOE; NENOE; VOOI; PEEI; REI;
    SII; TAI; U; CHERY; SHOOI; SHCHOOI; YRY; YERU; O; OO; EF; HA; TSIU; VER; YER; YERI; YAT; IE; YU;
    YA; IA"⟩,
  ⟨"COMBINING OLD PERMIC LETTER", "AN; DOI; ZATA; NENOE; SII"⟩,
  ⟨"DESERET CAPITAL LETTER, DESERET SMALL LETTER", "
    LONG I; LONG E; LONG A; LONG AH; LONG O; LONG OO; SHORT I; SHORT E; SHORT A; SHORT AH; SHORT O;
    SHORT OO; AY; OW; WU; YEE; H; PEE; BEE; TEE; DEE; CHEE; JEE; KAY; GAY; EF; VEE; ETH; THEE; ES;
    ZEE; ESH; ZHEE; ER; EL; EM; EN; ENG; OI; EW"⟩,
  ⟨"SHAVIAN LETTER", "
    PEEP; TOT; KICK; FEE; THIGH; SO; SURE; CHURCH; YEA; HUNG; BIB; DEAD; GAG; VOW; THEY; ZOO;
    MEASURE; JUDGE; WOE; HA-HA; LOLL; MIME; IF; EGG; ASH; ADO; ON; WOOL; OUT; AH; ROAR; NUN; EAT;
    AGE; ICE; UP; OAK; OOZE; OIL; AWE; ARE; OR; AIR; ERR; ARRAY; EAR; IAN; YEW"⟩,
  ⟨"ELBASAN LETTER, VITHKUQI CAPITAL LETTER, VITHKUQI SMALL LETTER", "
    A; BE; CE; CHE; DE; DHE; EI; E; FE; I; JE; ME; NE; NJE; O; PE; RE; SE; SHE; TE; THE; U; VE; XE;
    Y; ZE"⟩,
  ⟨"ELBASAN LETTER", "NDE; GE; GJE; HE; KE; LE; LLE; NA; QE; RRE; ZHE; GHE; GHAMMA; KHE"⟩,
  ⟨"CAUCASIAN ALBANIAN LETTER", "
    ALT; BET; GIM; DAT; EB; ZARL; EYN; ZHIL; TAS; CHA; YOWD; ZHA; IRB; SHA; LAN; INYA; XEYN; DYAN;
    CAR; JHOX; KAR; LYIT; HEYT; QAY; AOR; CHOY; CHI; CYAY; MAQ; QAR; NOWC; DZYAY; SHAK; JAYN; ON;
    TYAY; FAM; DZAY; CHAT; PEN; GHEYS; RAT; SEYK; VEYZ; TIWR; SHOY; IWN; CYAW; CAYN; YAYD; PIWR;
    KIW"⟩,
  ⟨"VITHKUQI CAPITAL LETTER, VITHKUQI SMALL LETTER", "BBE; GA; HA; HHA; IJE; KA; LA; LLA; QA"⟩]

end FixFirst.Text
