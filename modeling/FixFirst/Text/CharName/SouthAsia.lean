import FixFirst.Text.CharName.Group

/-!
# Names of the scripts of South Asia

The names of the characters for the scripts of India and its neighbours.
-/

namespace FixFirst.Text

/-- Names of the scripts of South Asia. -/
def southAsianNames : List NameGroup := [
  ⟨"DEVANAGARI SIGN", "
    INVERTED CANDRABINDU; HIGH SPACING DOT; SPACING CANDRABINDU; DOUBLE CANDRABINDU VIRAMA;
    PUSHPIKA; SIDDHAM"⟩,
  ⟨"DEVANAGARI SIGN, BENGALI SIGN, GUJARATI SIGN, ORIYA SIGN, TELUGU SIGN, KANNADA SIGN,
    SHARADA SIGN, GRANTHA SIGN, NEWA SIGN, TIRHUTA SIGN", "
    CANDRABINDU; ANUSVARA; VISARGA; NUKTA; AVAGRAHA; VIRAMA"⟩,
  ⟨"DEVANAGARI LETTER", "
    SHORT A; CANDRA E; SHORT E; CANDRA O; SHORT O; NNNA; RRA; LLLA; QA; KHHA; GHHA; ZA; DDDHA; RHA;
    FA; YYA; CANDRA A; OE; OOE; AW; UE; UUE; MARWARI DDA; HEAVY YA; GGA; JJA; GLOTTAL STOP; DDDA;
    BBA; AY"⟩,
  ⟨"DEVANAGARI LETTER, BENGALI LETTER, GUJARATI LETTER, TELUGU LETTER, KANNADA LETTER,
    MALAYALAM LETTER, SAURASHTRA LETTER, BRAHMI LETTER, SHARADA LETTER, GRANTHA LETTER,
    TIRHUTA LETTER, SIDDHAM LETTER, BHAIKSUKI LETTER", "
    A; AA; I; II; U; UU; VOCALIC R; VOCALIC L; AI; AU; KA; KHA; GA; GHA; NGA; CA; CHA; JA; JHA; NYA;
    TTA; TTHA; DDA; DDHA; NNA; TA; THA; DA; DHA; NA; PA; PHA; BA; BHA; MA; YA; RA; LA; SHA; SSA; SA;
    HA; VOCALIC RR"⟩,
  ⟨"DEVANAGARI LETTER, GUJARATI LETTER, TELUGU LETTER, KANNADA LETTER, MALAYALAM LETTER,
    SAURASHTRA LETTER, BRAHMI LETTER, SHARADA LETTER", "
    E; O; LLA; VA; VOCALIC LL"⟩,
  ⟨"DEVANAGARI VOWEL SIGN", "
    OE; OOE; SHORT E; SHORT O; PRISHTHAMATRA E; AW; CANDRA LONG E; UE; UUE; AY"⟩,
  ⟨"DEVANAGARI VOWEL SIGN, BENGALI VOWEL SIGN, GUJARATI VOWEL SIGN, ORIYA VOWEL SIGN,
    BRAHMI VOWEL SIGN, SHARADA VOWEL SIGN, NEWA VOWEL SIGN, TIRHUTA VOWEL SIGN, MODI VOWEL SIGN", "
    AA; I; II; U; UU; VOCALIC R; VOCALIC RR; E; AI; O; AU; VOCALIC L; VOCALIC LL"⟩,
  ⟨"DEVANAGARI VOWEL SIGN, GUJARATI VOWEL SIGN", "CANDRA E; CANDRA O"⟩,
  ⟨"DEVANAGARI", "
    OM; STRESS SIGN UDATTA; STRESS SIGN ANUDATTA; GRAVE ACCENT; ACUTE ACCENT; DANDA; DOUBLE DANDA;
    ABBREVIATION SIGN; GAP FILLER; CARET; HEADSTROKE; JAIN OM"⟩,
  ⟨"DEVANAGARI DIGIT, BENGALI DIGIT, GURMUKHI DIGIT, GUJARATI DIGIT, ORIYA DIGIT, TAMIL DIGIT,
    TELUGU DIGIT, KANNADA DIGIT, MALAYALAM DIGIT, SINHALA LITH DIGIT, TIBETAN DIGIT,
    TIBETAN DIGIT HALF, LIMBU DIGIT, LEPCHA DIGIT, OL CHIKI DIGIT, SAURASHTRA DIGIT,
    COMBINING DEVANAGARI DIGIT, MEETEI MAYEK DIGIT, BRAHMI DIGIT, SORA SOMPENG DIGIT, CHAKMA DIGIT,
    SHARADA DIGIT, KHUDAWADI DIGIT, NEWA DIGIT, TIRHUTA DIGIT, MODI DIGIT, TAKRI DIGIT, AHOM DIGIT,
    WARANG CITI DIGIT, DIVES AKURU DIGIT, BHAIKSUKI DIGIT, MASARAM GONDI DIGIT, GUNJALA GONDI DIGIT,
    MRO DIGIT, TANGSA DIGIT, WANCHO DIGIT", "
    ZERO; ONE; TWO; THREE; FOUR; FIVE; SIX; SEVEN; EIGHT; NINE"⟩,
  ⟨"DEVANAGARI LETTER, GUJARATI LETTER", "ZHA"⟩,
  ⟨"BENGALI", "
    ANJI; AU LENGTH MARK; RUPEE MARK; RUPEE SIGN; CURRENCY DENOMINATOR SIXTEEN; ISSHAR; GANDA MARK;
    ABBREVIATION SIGN; SANDHI MARK"⟩,
  ⟨"BENGALI LETTER", "
    E; O; KHANDA TA; RRA; RHA; YYA; RA WITH MIDDLE DIAGONAL; RA WITH LOWER DIAGONAL"⟩,
  ⟨"BENGALI LETTER, GRANTHA LETTER", "VOCALIC LL; VEDIC ANUSVARA"⟩,
  ⟨"BENGALI CURRENCY NUMERATOR", "ONE; TWO; THREE; FOUR; ONE LESS THAN THE DENOMINATOR"⟩,
  ⟨"GURMUKHI SIGN", "ADAK BINDI; BINDI; VISARGA; NUKTA; VIRAMA; UDAAT; YAKASH"⟩,
  ⟨"GURMUKHI LETTER, KHOJKI LETTER, MULTANI LETTER, GUNJALA GONDI LETTER", "
    A; I; U; KA; KHA; GA; GHA; CA; CHA; JA; TTA; TTHA; DDA; DDHA; TA; THA; DA; DHA; NA; PA; PHA; BA;
    BHA; MA; YA; RA; LA; VA; SA; HA"⟩,
  ⟨"GURMUKHI LETTER, GUNJALA GONDI LETTER", "AA; II; UU; EE; AI; OO; AU; NGA; JHA; LLA"⟩,
  ⟨"GURMUKHI LETTER", "NYA; NNA; SHA; KHHA; GHHA; ZA; RRA; FA"⟩,
  ⟨"GURMUKHI VOWEL SIGN, GUNJALA GONDI VOWEL SIGN", "AA; I; II; U; UU; EE; AI; OO; AU"⟩,
  ⟨"GURMUKHI", "TIPPI; ADDAK; IRI; URA; EK ONKAR; ABBREVIATION SIGN"⟩,
  ⟨"GUJARATI", "VOWEL CANDRA E; VOWEL CANDRA O; OM; ABBREVIATION SIGN; RUPEE SIGN"⟩,
  ⟨"GUJARATI SIGN", "
    SUKUN; SHADDA; MADDAH; THREE-DOT NUKTA ABOVE; CIRCLE NUKTA ABOVE; TWO-CIRCLE NUKTA ABOVE"⟩,
  ⟨"ORIYA LETTER, KAITHI LETTER, NEWA LETTER, MODI LETTER, DIVES AKURU LETTER,
    MASARAM GONDI LETTER", "
    A; AA; I; II; U; UU; E; O; KA; KHA; GA; GHA; NGA; CA; CHA; JA; NYA; TTA; DDA; DDHA; NNA; TA;
    THA; DA; DHA; NA; PA; PHA; BA; BHA; MA; YA; RA; LA; SHA; SSA; SA; HA"⟩,
  ⟨"ORIYA LETTER VOCALIC, NEWA LETTER VOCALIC, MODI LETTER VOCALIC", "R; L; RR; LL"⟩,
  ⟨"ORIYA LETTER, MODI LETTER, MASARAM GONDI LETTER", "AI; AU; JHA; TTHA; LLA; VA"⟩,
  ⟨"ORIYA SIGN", "OVERLINE"⟩,
  ⟨"ORIYA", "AI LENGTH MARK; AU LENGTH MARK; ISSHAR"⟩,
  ⟨"ORIYA LETTER", "RRA; RHA; YYA; WA"⟩,
  ⟨"ORIYA FRACTION, NORTH INDIC FRACTION", "
    ONE QUARTER; ONE HALF; THREE QUARTERS; ONE SIXTEENTH; ONE EIGHTH; THREE SIXTEENTHS"⟩,
  ⟨"TAMIL SIGN", "
    ANUSVARA; VISARGA; VIRAMA; NEL; CEVITU; AAZHAAKKU; UZHAKKU; MUUVUZHAKKU; KURUNI; PATHAKKU;
    MUKKURUNI; KAACU; PANAM; PON; VARAAKAN; PAARAM; KUZHI; VELI; MUTHALIYA; VAKAIYARAA"⟩,
  ⟨"TAMIL LETTER", "
    A; EE; OO; KA; CA; JA; NYA; TTA; NNA; TA; NA; NNNA; PA; MA; RA; LA; LLA; LLLA; SSA; SA; HA"⟩,
  ⟨"TAMIL LETTER, KHUDAWADI LETTER, TAKRI LETTER, DOGRA LETTER, NANDINAGARI LETTER", "
    AA; I; II; U; UU; E; AI; O; AU; NGA; YA; RRA; VA; SHA"⟩,
  ⟨"TAMIL VOWEL SIGN", "AA; I; II; U; UU; E; EE; AI; O; OO; AU"⟩,
  ⟨"TAMIL", "
    OM; AU LENGTH MARK; DAY SIGN; MONTH SIGN; YEAR SIGN; DEBIT SIGN; CREDIT SIGN; AS ABOVE SIGN;
    RUPEE SIGN; FRACTION DOWNSCALING FACTOR KIIZH; WET CULTIVATION SIGN; DRY CULTIVATION SIGN;
    LAND SIGN; SALT PAN SIGN; TRADITIONAL CREDIT SIGN; TRADITIONAL NUMBER SIGN; CURRENT SIGN;
    AND ODD SIGN; SPENT SIGN; TOTAL SIGN; IN POSSESSION SIGN; STARTING FROM SIGN;
    PUNCTUATION END OF TEXT"⟩,
  ⟨"TAMIL NUMBER", "TEN; ONE HUNDRED; ONE THOUSAND; SIGN"⟩,
  ⟨"TELUGU SIGN", "COMBINING CANDRABINDU ABOVE; SIDDHAM; TUUMU"⟩,
  ⟨"TELUGU SIGN, GRANTHA SIGN", "COMBINING ANUSVARA ABOVE"⟩,
  ⟨"TELUGU LETTER, KANNADA LETTER, MALAYALAM LETTER, SAURASHTRA LETTER", "EE; OO"⟩,
  ⟨"TELUGU LETTER, KANNADA LETTER", "RRA; LLLA; NAKAARA POLLU"⟩,
  ⟨"TELUGU VOWEL SIGN, KANNADA VOWEL SIGN, MALAYALAM VOWEL SIGN, SAURASHTRA VOWEL SIGN", "
    AA; I; II; U; UU; VOCALIC R; VOCALIC RR; E; EE; AI; O; OO; AU; VOCALIC L; VOCALIC LL"⟩,
  ⟨"", "
    TELUGU LENGTH MARK; TELUGU AI LENGTH MARK; KANNADA LENGTH MARK; KANNADA AI LENGTH MARK;
    SINHALA PUNCTUATION KUNDDALIYA; COMBINING DEVANAGARI SIGN AVAGRAHA; MULTANI SECTION MARK;
    COMBINING BINDU BELOW; GRANTHA OM; GRANTHA AU LENGTH MARK; MODI DANDA; MODI DOUBLE DANDA;
    MODI ABBREVIATION SIGN; TAKRI ABBREVIATION SIGN; AHOM SYMBOL VI; DOGRA ABBREVIATION SIGN;
    WARANG CITI OM; NANDINAGARI HEADSTROKE; LISU LETTER YHA; MRO DANDA; MRO DOUBLE DANDA;
    TOTO SIGN RISING TONE; WANCHO NGUN SIGN"⟩,
  ⟨"TELUGU LETTER", "TSA; DZA; RRRA"⟩,
  ⟨"TELUGU FRACTION DIGIT", "
    ZERO FOR ODD POWERS OF FOUR; ONE FOR ODD POWERS OF FOUR; TWO FOR ODD POWERS OF FOUR;
    THREE FOR ODD POWERS OF FOUR; ONE FOR EVEN POWERS OF FOUR; TWO FOR EVEN POWERS OF FOUR;
    THREE FOR EVEN POWERS OF FOUR"⟩,
  ⟨"KANNADA SIGN", "SPACING CANDRABINDU"⟩,
  ⟨"KANNADA SIGN, SHARADA SIGN", "SIDDHAM; JIHVAMULIYA; UPADHMANIYA"⟩,
  ⟨"KANNADA LETTER", "FA"⟩,
  ⟨"MALAYALAM SIGN", "
    COMBINING ANUSVARA ABOVE; CANDRABINDU; ANUSVARA; VISARGA; VERTICAL BAR VIRAMA; CIRCULAR VIRAMA;
    AVAGRAHA; VIRAMA; PARA"⟩,
  ⟨"MALAYALAM LETTER", "VEDIC ANUSVARA; NNNA; RRA; LLLA; TTTA; DOT REPH; ARCHAIC II"⟩,
  ⟨"MALAYALAM LETTER CHILLU", "M; Y; LLL; NN; N; RR; L; LL; K"⟩,
  ⟨"MALAYALAM", "AU LENGTH MARK; NUMBER TEN; NUMBER ONE HUNDRED; NUMBER ONE THOUSAND; DATE MARK"⟩,
  ⟨"MALAYALAM FRACTION ONE", "
    ONE-HUNDRED-AND-SIXTIETH; FORTIETH; TWENTIETH; TENTH; FIFTH; QUARTER; HALF; SIXTEENTH; EIGHTH"⟩,
  ⟨"MALAYALAM FRACTION THREE", "EIGHTIETHS; TWENTIETHS; QUARTERS; SIXTEENTHS"⟩,
  ⟨"SINHALA SIGN", "CANDRABINDU; ANUSVARAYA; VISARGAYA; AL-LAKUNA"⟩,
  ⟨"SINHALA LETTER", "
    AYANNA; AAYANNA; AEYANNA; AEEYANNA; IYANNA; IIYANNA; UYANNA; UUYANNA; IRUYANNA; IRUUYANNA;
    ILUYANNA; ILUUYANNA; EYANNA; EEYANNA; AIYANNA; OYANNA; OOYANNA; AUYANNA; KANTAJA NAASIKYAYA;
    SANYAKA GAYANNA; TAALUJA NAASIKYAYA; TAALUJA SANYOOGA NAAKSIKYAYA; SANYAKA JAYANNA;
    MUURDHAJA NAYANNA; SANYAKA DDAYANNA; DANTAJA NAYANNA; SANYAKA DAYANNA; MAYANNA; AMBA BAYANNA;
    YAYANNA; RAYANNA; DANTAJA LAYANNA; VAYANNA; TAALUJA SAYANNA; MUURDHAJA SAYANNA; DANTAJA SAYANNA;
    HAYANNA; MUURDHAJA LAYANNA; FAYANNA"⟩,
  ⟨"SINHALA LETTER ALPAPRAANA, SINHALA LETTER MAHAAPRAANA", "
    KAYANNA; GAYANNA; CAYANNA; JAYANNA; TTAYANNA; DDAYANNA; TAYANNA; DAYANNA; PAYANNA; BAYANNA"⟩,
  ⟨"SINHALA VOWEL SIGN", "
    AELA-PILLA; KETTI AEDA-PILLA; DIGA AEDA-PILLA; KETTI IS-PILLA; DIGA IS-PILLA; KETTI PAA-PILLA;
    DIGA PAA-PILLA; GAETTA-PILLA; KOMBUVA; DIGA KOMBUVA; KOMBU DEKA; KOMBUVA HAA AELA-PILLA;
    KOMBUVA HAA DIGA AELA-PILLA; KOMBUVA HAA GAYANUKITTA; GAYANUKITTA; DIGA GAETTA-PILLA;
    DIGA GAYANUKITTA"⟩,
  ⟨"TIBETAN", "
    SYLLABLE OM; LOGOTYPE SIGN CHAD RTAGS; LOGOTYPE SIGN LHAG RTAGS; KU RU KHA;
    KU RU KHA BZHI MIG CAN"⟩,
  ⟨"TIBETAN MARK GTER YIG MGO", "TRUNCATED A; -UM RNAM BCAD MA; -UM GTER TSHEG MA"⟩,
  ⟨"TIBETAN MARK", "
    INITIAL YIG MGO MDUN MA; CLOSING YIG MGO SGAB MA; CARET YIG MGO PHUR SHAD MA;
    YIG MGO TSHEG SHAD MA; SBRUL SHAD; BSKUR YIG MGO; BKA- SHOG YIG MGO; INTERSYLLABIC TSHEG;
    DELIMITER TSHEG BSTAR; SHAD; NYIS SHAD; TSHEG SHAD; NYIS TSHEG SHAD; RIN CHEN SPUNGS SHAD;
    RGYA GRAM SHAD; CARET -DZUD RTAGS ME LONG CAN; GTER TSHEG; BSDUS RTAGS; NGAS BZUNG NYI ZLA;
    CARET -DZUD RTAGS BZHI MIG CAN; NGAS BZUNG SGOR RTAGS; CHE MGO; TSA -PHRU; GUG RTAGS GYON;
    GUG RTAGS GYAS; ANG KHANG GYON; ANG KHANG GYAS; HALANTA; PALUTA; BKA- SHOG GI MGO RGYAN;
    BSKA- SHOG GI MGO RGYAN; MNYAM YIG GI MGO RGYAN; NYIS TSHEG;
    INITIAL BRDA RNYING YIG MGO MDUN MA; CLOSING BRDA RNYING YIG MGO SGAB MA; LEADING MCHAN RTAGS;
    TRAILING MCHAN RTAGS"⟩,
  ⟨"TIBETAN ASTROLOGICAL SIGN", "SGRA GCAN -CHAR RTAGS; -KHYUD PA; SDONG TSHUGS"⟩,
  ⟨"TIBETAN SIGN RDEL", "
    DKAR GCIG; DKAR GNYIS; DKAR GSUM; NAG GCIG; NAG GNYIS; DKAR RDEL NAG; NAG RDEL DKAR; NAG GSUM"⟩,
  ⟨"TIBETAN SIGN", "
    YAR TSHES; MAR TSHES; RJES SU NGA RO; RNAM BCAD; NYI ZLA NAA DA; SNA LDAN; LCI RTAGS;
    YANG RTAGS; GRU CAN RGYINGS; GRU MED RGYINGS"⟩,
  ⟨"TIBETAN LETTER, TIBETAN SUBJOINED LETTER, ZANABAZAR SQUARE LETTER, SOYOMBO LETTER", "
    KA; KHA; GA; GHA; NGA; CA; CHA; JA; NYA; TTA; TTHA; DDA; DDHA; NNA; TA; THA; DA; DHA; NA; PA;
    PHA; BA; BHA; MA; TSA; TSHA; DZA; ZHA; ZA; -A; YA; RA; LA; SHA; SSA; SA; HA; A; KSSA"⟩,
  ⟨"TIBETAN LETTER, TIBETAN SUBJOINED LETTER", "DZHA; WA; FIXED-FORM RA"⟩,
  ⟨"TIBETAN LETTER", "KKA; RRA"⟩,
  ⟨"TIBETAN VOWEL SIGN", "
    AA; I; II; U; UU; VOCALIC R; VOCALIC RR; VOCALIC L; VOCALIC LL; E; EE; O; OO; REVERSED I;
    REVERSED II"⟩,
  ⟨"TIBETAN SIGN, TIBETAN SUBJOINED SIGN", "LCE TSA CAN; MCHU CAN; INVERTED MCHU CAN"⟩,
  ⟨"TIBETAN SUBJOINED LETTER", "FIXED-FORM WA; FIXED-FORM YA"⟩,
  ⟨"TIBETAN CANTILLATION SIGN", "HEAVY BEAT; LIGHT BEAT; CANG TE-U; SBUB -CHAL"⟩,
  ⟨"TIBETAN SYMBOL", "
    DRIL BU; RDO RJE; PADMA GDAN; RDO RJE RGYA GRAM; PHUR PA; NOR BU; NOR BU NYIS -KHYIL;
    NOR BU GSUM -KHYIL; NOR BU BZHI -KHYIL"⟩,
  ⟨"RIGHT-FACING SVASTI, LEFT-FACING SVASTI", "SIGN; SIGN WITH DOTS"⟩,
  ⟨"LIMBU", "
    VOWEL-CARRIER LETTER; SIGN MUKPHRENG; SIGN KEMPHRENG; SIGN SA-I; SIGN LOO; EXCLAMATION MARK;
    QUESTION MARK"⟩,
  ⟨"LIMBU LETTER, TANGSA LETTER", "
    KA; KHA; GA; GHA; NGA; CA; CHA; TA; THA; DA; DHA; NA; PA; PHA; BA; MA; YA; RA; LA; WA; SHA; SA;
    HA"⟩,
  ⟨"LIMBU LETTER", "JA; JHA; YAN; BHA; SSA; GYAN; TRA"⟩,
  ⟨"LIMBU VOWEL SIGN", "A; I; U; EE; AI; OO; AU; E; O"⟩,
  ⟨"LIMBU SUBJOINED LETTER, PHAGS-PA SUBJOINED LETTER", "YA; RA; WA"⟩,
  ⟨"LIMBU SMALL LETTER", "KA; NGA; ANUSVARA; TA; NA; PA; MA; RA; LA"⟩,
  ⟨"LEPCHA LETTER, MAKASAR LETTER, WANCHO LETTER", "
    KA; GA; NGA; CA; JA; NYA; TA; DA; NA; PA; BA; MA; YA; RA; LA; VA; SA; A"⟩,
  ⟨"LEPCHA LETTER", "KLA; GLA; CHA; PLA; FLA; BLA; MLA; TSHA; DZA; HLA; TTA; TTHA; DDA"⟩,
  ⟨"LEPCHA LETTER, WANCHO LETTER", "KHA; THA; PHA; FA; TSA; HA; SHA; WA"⟩,
  ⟨"LEPCHA SUBJOINED LETTER", "YA; RA"⟩,
  ⟨"LEPCHA VOWEL SIGN", "AA; I; O; OO; U; UU; E"⟩,
  ⟨"LEPCHA CONSONANT SIGN", "K; M; L; N; P; R; T; NYIN-DO; KANG"⟩,
  ⟨"LEPCHA SIGN", "RAN; NUKTA"⟩,
  ⟨"LEPCHA PUNCTUATION", "TA-ROL; NYET THYOOM TA-ROL; CER-WA; TSHOOK CER-WA; TSHOOK"⟩,
  ⟨"OL CHIKI LETTER", "
    LA; AT; AG; ANG; AL; LAA; AAK; AAJ; AAM; AAW; LI; IS; IH; INY; IR; LU; UC; UD; UNN; UY; LE; EP;
    EDD; EN; ERR; LO; OTT; OB; OV; OH"⟩,
  ⟨"OL CHIKI", "
    MU TTUDDAG; GAAHLAA TTUDDAAG; MU-GAAHLAA TTUDDAAG; RELAA; PHAARKAA; AHAD; PUNCTUATION MUCAAD;
    PUNCTUATION DOUBLE MUCAAD"⟩,
  ⟨"SUNDANESE PUNCTUATION BINDU", "
    SURYA; PANGLONG; PURNAMA; CAKRA; LEU SATANGA; KA SATANGA; DA SATANGA; BA SATANGA"⟩,
  ⟨"VEDIC TONE", "
    KARSHANA; SHARA; PRENKHA; CANDRA BELOW; DOUBLE SVARITA; TRIPLE SVARITA; KATHAKA ANUDATTA;
    DOT BELOW; TWO DOTS BELOW; THREE DOTS BELOW; RIGVEDIC KASHMIRI INDEPENDENT SVARITA;
    ATHARVAVEDIC INDEPENDENT SVARITA; CANDRA ABOVE; RING ABOVE; DOUBLE RING ABOVE"⟩,
  ⟨"VEDIC SIGN", "
    NIHSHVASA; YAJURVEDIC MIDLINE SVARITA; REVERSED VISARGA UDATTA; REVERSED VISARGA ANUDATTA;
    TIRYAK; HEXIFORM LONG ANUSVARA; LONG ANUSVARA; RTHANG LONG ANUSVARA; ARDHAVISARGA;
    ROTATED ARDHAVISARGA; JIHVAMULIYA; UPADHMANIYA; ATIKRAMA; DOUBLE ANUSVARA ANTARGOMUKHA"⟩,
  ⟨"VEDIC TONE YAJURVEDIC", "
    AGGRAVATED INDEPENDENT SVARITA; INDEPENDENT SVARITA; KATHAKA INDEPENDENT SVARITA;
    KATHAKA INDEPENDENT SVARITA SCHROEDER"⟩,
  ⟨"VEDIC SIGN VISARGA", "SVARITA; UDATTA; ANUDATTA; UDATTA WITH TAIL; ANUDATTA WITH TAIL"⟩,
  ⟨"VEDIC SIGN ANUSVARA", "
    ANTARGOMUKHA; BAHIRGOMUKHA; VAMAGOMUKHA; VAMAGOMUKHA WITH TAIL; UBHAYATO MUKHA"⟩,
  ⟨"SYLOTI NAGRI LETTER", "
    A; I; U; E; O; KO; KHO; GO; GHO; CO; CHO; JO; JHO; TTO; TTHO; DDO; DDHO; TO; THO; DO; DHO; NO;
    PO; PHO; BO; BHO; MO; RO; LO; RRO; SO; HO"⟩,
  ⟨"SYLOTI NAGRI SIGN", "DVISVARA; HASANTA; ANUSVARA; ALTERNATE HASANTA"⟩,
  ⟨"SYLOTI NAGRI VOWEL SIGN", "A; I; U; E; OO"⟩,
  ⟨"SYLOTI NAGRI POETRY", "MARK-1; MARK-2; MARK-3; MARK-4"⟩,
  ⟨"NORTH INDIC", "QUARTER MARK; PLACEHOLDER MARK; RUPEE MARK; QUANTITY MARK"⟩,
  ⟨"PHAGS-PA LETTER, MARCHEN LETTER, MARCHEN SUBJOINED LETTER", "
    KA; KHA; GA; NGA; CA; CHA; JA; NYA; TA; THA; DA; NA; PA; PHA; BA; MA; TSA; TSHA; DZA; WA; ZHA;
    ZA; YA; RA; LA; SHA; SA; HA; A"⟩,
  ⟨"PHAGS-PA LETTER", "
    SMALL A; I; U; E; O; QA; XA; FA; GGA; EE; TTA; TTHA; DDA; NNA; ALTERNATE YA; VOICELESS SHA;
    VOICED HA; ASPIRATED FA; CANDRABINDU"⟩,
  ⟨"PHAGS-PA", "
    SUPERFIXED LETTER RA; SINGLE HEAD MARK; DOUBLE HEAD MARK; MARK SHAD; MARK DOUBLE SHAD"⟩,
  ⟨"SAURASHTRA, CHAKMA, BHAIKSUKI", "
    SIGN ANUSVARA; SIGN VISARGA; SIGN CANDRABINDU; DANDA; DOUBLE DANDA"⟩,
  ⟨"SAURASHTRA", "CONSONANT SIGN HAARU"⟩,
  ⟨"SAURASHTRA, BHAIKSUKI", "SIGN VIRAMA"⟩,
  ⟨"COMBINING DEVANAGARI LETTER", "A; U; KA; NA; PA; RA; VI"⟩,
  ⟨"DEVANAGARI SIGN CANDRABINDU", "VIRAMA; TWO; THREE; AVAGRAHA"⟩,
  ⟨"MEETEI MAYEK LETTER", "
    E; O; CHA; NYA; TTA; TTHA; DDA; DDHA; NNA; SHA; SSA; KOK; SAM; LAI; MIT; PA; NA; CHIL; TIL;
    KHOU; NGOU; THOU; WAI; YANG; HUK; UN; I; PHAM; ATIYA; GOK; JHAM; RAI; BA; JIL; DIL; GHOU; DHOU;
    BHAM; KOK LONSUM; LAI LONSUM; MIT LONSUM; PA LONSUM; NA LONSUM; TIL LONSUM; NGOU LONSUM;
    I LONSUM"⟩,
  ⟨"MEETEI MAYEK VOWEL SIGN", "
    II; UU; AAI; AU; AAU; VISARGA; ONAP; INAP; ANAP; YENAP; SOUNAP; UNAP; CHEINAP; NUNG"⟩,
  ⟨"MEETEI MAYEK", "
    CHEIKHAN; AHANG KHUDAM; ANJI; SYLLABLE REPETITION MARK; WORD REPETITION MARK; VIRAMA; CHEIKHEI;
    LUM IYEK; APUN IYEK"⟩,
  ⟨"BRAHMI SIGN", "CANDRABINDU; ANUSVARA; VISARGA; JIHVAMULIYA; UPADHMANIYA; OLD TAMIL VIRAMA"⟩,
  ⟨"BRAHMI LETTER OLD TAMIL", "LLLA; RRA; NNNA; SHORT E; SHORT O; LLA"⟩,
  ⟨"BRAHMI VOWEL SIGN", "BHATTIPROLU AA; OLD TAMIL SHORT E; OLD TAMIL SHORT O"⟩,
  ⟨"BRAHMI", "VIRAMA; DANDA; DOUBLE DANDA"⟩,
  ⟨"BRAHMI PUNCTUATION", "DOT; DOUBLE DOT; LINE; CRESCENT BAR; LOTUS"⟩,
  ⟨"BRAHMI NUMBER, SINHALA ARCHAIC DIGIT, BHAIKSUKI NUMBER", "
    ONE; TWO; THREE; FOUR; FIVE; SIX; SEVEN; EIGHT; NINE"⟩,
  ⟨"BRAHMI NUMBER, SINHALA ARCHAIC NUMBER, WARANG CITI NUMBER, BHAIKSUKI NUMBER", "
    TEN; TWENTY; THIRTY; FORTY; FIFTY; SIXTY; SEVENTY; EIGHTY; NINETY"⟩,
  ⟨"BRAHMI NUMBER", "ONE HUNDRED; ONE THOUSAND; JOINER"⟩,
  ⟨"KAITHI SIGN, SIDDHAM SIGN", "CANDRABINDU; ANUSVARA; VISARGA; VIRAMA; NUKTA"⟩,
  ⟨"KAITHI LETTER, NEWA LETTER", "AI; AU; JHA; TTHA; RHA"⟩,
  ⟨"KAITHI LETTER", "DDDHA; VA"⟩,
  ⟨"KAITHI VOWEL SIGN, MASARAM GONDI VOWEL SIGN", "AA; I; II; U; UU; E; AI; O; AU; VOCALIC R"⟩,
  ⟨"KAITHI, KHOJKI", "ABBREVIATION SIGN; SECTION MARK; DOUBLE SECTION MARK; DANDA; DOUBLE DANDA"⟩,
  ⟨"KAITHI", "ENUMERATION SIGN; NUMBER SIGN; NUMBER SIGN ABOVE"⟩,
  ⟨"SORA SOMPENG LETTER", "
    SAH; TAH; BAH; CAH; DAH; GAH; MAH; NGAH; LAH; NAH; VAH; PAH; YAH; RAH; HAH; KAH; JAH; NYAH; AH;
    EEH; IH; UH; OH; EH; MAE"⟩,
  ⟨"CHAKMA LETTER", "
    AA; I; U; E; KAA; KHAA; GAA; GHAA; NGAA; CAA; CHAA; JAA; JHAA; NYAA; TTAA; TTHAA; DDAA; DDHAA;
    NNAA; TAA; THAA; DAA; DHAA; NAA; PAA; PHAA; BAA; BHAA; MAA; YYAA; YAA; RAA; LAA; WAA; SAA; HAA;
    LHAA; VAA"⟩,
  ⟨"CHAKMA VOWEL SIGN", "A; I; II; U; UU; E; AI; O; AU; OI; AA; EI"⟩,
  ⟨"CHAKMA", "O MARK; AU MARK; VIRAMA; MAAYYAA; SECTION MARK; QUESTION MARK"⟩,
  ⟨"MAHAJANI LETTER, KHUDAWADI LETTER, TAKRI LETTER, AHOM LETTER, DOGRA LETTER,
    NANDINAGARI LETTER", "
    A; KA; KHA; GA; GHA; CA; CHA; JA; JHA; NYA; TTA; TTHA; DDA; DDHA; NNA; TA; THA; DA; DHA; NA; PA;
    PHA; BA; BHA; MA; RA; LA; SA; HA"⟩,
  ⟨"MAHAJANI LETTER", "I; U; E; O; VA; RRA"⟩,
  ⟨"MAHAJANI", "SIGN NUKTA; ABBREVIATION SIGN; SECTION MARK; LIGATURE SHRI"⟩,
  ⟨"SHARADA, NEWA", "OM; DANDA; DOUBLE DANDA; ABBREVIATION SIGN; SANDHI MARK"⟩,
  ⟨"SHARADA", "
    SEPARATOR; VOWEL MODIFIER MARK; EXTRA SHORT VOWEL MARK; SUTRA MARK; EKAM; HEADSTROKE;
    CONTINUATION SIGN; SECTION MARK-1; SECTION MARK-2"⟩,
  ⟨"SHARADA VOWEL SIGN", "PRISHTHAMATRA E"⟩,
  ⟨"SHARADA SIGN", "INVERTED CANDRABINDU"⟩,
  ⟨"SINHALA ARCHAIC NUMBER", "ONE HUNDRED; ONE THOUSAND"⟩,
  ⟨"KHOJKI LETTER", "AA; AI; O; AU; GGA; NGA; BBA; LLA"⟩,
  ⟨"KHOJKI LETTER, MULTANI LETTER", "E; JJA; NYA; NNA; DDDA"⟩,
  ⟨"KHOJKI VOWEL SIGN", "AA; I; II; U; E; AI; O; AU"⟩,
  ⟨"KHOJKI SIGN", "ANUSVARA; VIRAMA; NUKTA; SHADDA; SUKUN"⟩,
  ⟨"KHOJKI", "WORD SEPARATOR"⟩,
  ⟨"MULTANI LETTER", "RRA; RHA"⟩,
  ⟨"KHUDAWADI LETTER", "GGA; JJA; DDDA; BBA"⟩,
  ⟨"KHUDAWADI SIGN", "ANUSVARA; NUKTA; VIRAMA"⟩,
  ⟨"KHUDAWADI VOWEL SIGN, TAKRI VOWEL SIGN", "AA; I; II; U; UU; E; AI; O; AU"⟩,
  ⟨"GRANTHA LETTER", "EE; OO; LLA; VA; VEDIC DOUBLE ANUSVARA"⟩,
  ⟨"GRANTHA VOWEL SIGN", "
    AA; I; II; U; UU; VOCALIC R; VOCALIC RR; EE; AI; OO; AU; VOCALIC L; VOCALIC LL"⟩,
  ⟨"GRANTHA SIGN", "PLUTA"⟩,
  ⟨"COMBINING GRANTHA DIGIT", "ZERO; ONE; TWO; THREE; FOUR; FIVE; SIX"⟩,
  ⟨"COMBINING GRANTHA LETTER", "A; KA; NA; VI; PA"⟩,
  ⟨"NEWA LETTER", "NGHA; NYHA; NHA; MHA; LHA; WA; VEDIC ANUSVARA"⟩,
  ⟨"NEWA SIGN", "FINAL ANUSVARA; JIHVAMULIYA; UPADHMANIYA"⟩,
  ⟨"NEWA", "SIDDHI; COMMA; GAP FILLER; DOUBLE COMMA; PLACEHOLDER MARK; INSERTION SIGN"⟩,
  ⟨"TIRHUTA", "ANJI; GVANG; ABBREVIATION SIGN; OM"⟩,
  ⟨"TIRHUTA LETTER, SIDDHAM LETTER", "VOCALIC LL"⟩,
  ⟨"TIRHUTA LETTER, SIDDHAM LETTER, BHAIKSUKI LETTER", "E; O; VA"⟩,
  ⟨"TIRHUTA VOWEL SIGN", "SHORT E; SHORT O"⟩,
  ⟨"SIDDHAM VOWEL SIGN, DOGRA VOWEL SIGN, NANDINAGARI VOWEL SIGN, BHAIKSUKI VOWEL SIGN", "
    AA; I; II; U; UU; VOCALIC R; VOCALIC RR; E; AI; O; AU"⟩,
  ⟨"SIDDHAM SIGN", "SIDDHAM"⟩,
  ⟨"SIDDHAM", "DANDA; DOUBLE DANDA; SEPARATOR DOT; SEPARATOR BAR; END OF TEXT MARK"⟩,
  ⟨"SIDDHAM REPETITION", "MARK-1; MARK-2; MARK-3"⟩,
  ⟨"SIDDHAM SECTION MARK WITH", "
    TRIDENT AND U-SHAPED ORNAMENTS; TRIDENT AND DOTTED CRESCENTS; RAYS AND DOTTED CRESCENTS;
    RAYS AND DOTTED DOUBLE CRESCENTS; RAYS AND DOTTED TRIPLE CRESCENTS; DOUBLE CRESCENTS;
    TRIPLE CRESCENTS; QUADRUPLE CRESCENTS; SEPTUPLE CRESCENTS; CIRCLES AND RAYS;
    CIRCLES AND TWO ENCLOSURES; CIRCLES AND FOUR ENCLOSURES"⟩,
  ⟨"SIDDHAM SECTION MARK DOUBLE", "RING; RING WITH RAYS"⟩,
  ⟨"SIDDHAM LETTER", "
    THREE-CIRCLE ALTERNATE I; TWO-CIRCLE ALTERNATE I; TWO-CIRCLE ALTERNATE II; ALTERNATE U"⟩,
  ⟨"SIDDHAM VOWEL SIGN", "ALTERNATE U; ALTERNATE UU"⟩,
  ⟨"MODI SIGN", "ANUSVARA; VISARGA; VIRAMA; ARDHACANDRA; HUVA"⟩,
  ⟨"MONGOLIAN", "
    BIRGA WITH ORNAMENT; ROTATED BIRGA; DOUBLE BIRGA WITH ORNAMENT; TRIPLE BIRGA WITH ORNAMENT;
    BIRGA WITH DOUBLE ORNAMENT; ROTATED BIRGA WITH ORNAMENT; ROTATED BIRGA WITH DOUBLE ORNAMENT;
    INVERTED BIRGA; INVERTED BIRGA WITH DOUBLE ORNAMENT; SWIRL BIRGA; SWIRL BIRGA WITH ORNAMENT;
    SWIRL BIRGA WITH DOUBLE ORNAMENT; TURNED SWIRL BIRGA WITH DOUBLE ORNAMENT"⟩,
  ⟨"TAKRI SIGN, DOGRA SIGN", "ANUSVARA; VISARGA; VIRAMA; NUKTA"⟩,
  ⟨"TAKRI LETTER", "ARCHAIC KHA"⟩,
  ⟨"AHOM LETTER", "NGA; ALTERNATE TA; ALTERNATE GA; ALTERNATE BA; LLA"⟩,
  ⟨"AHOM CONSONANT SIGN MEDIAL", "LA; RA; LIGATING RA"⟩,
  ⟨"AHOM VOWEL SIGN", "A; AA; I; II; U; UU; E; AW; O; AI; AM"⟩,
  ⟨"AHOM SIGN", "KILLER; SMALL SECTION; SECTION; RULAI"⟩,
  ⟨"AHOM NUMBER", "TEN; TWENTY"⟩,
  ⟨"DOGRA LETTER, NANDINAGARI LETTER", "SSA"⟩,
  ⟨"WARANG CITI CAPITAL LETTER, WARANG CITI SMALL LETTER", "
    NGAA; A; WI; YU; YA; YO; II; UU; E; O; ANG; GA; KO; ENY; YUJ; UC; ENN; ODD; TTE; NUNG; DA; AT;
    AM; BU; PU; HIYO; HOLO; HORR; HAR; SSUU; SII; VIYO"⟩,
  ⟨"DIVES AKURU LETTER", "YYA; VA; LLA; ZA"⟩,
  ⟨"DIVES AKURU VOWEL SIGN", "AA; I; II; U; UU; E; AI; O"⟩,
  ⟨"DIVES AKURU", "
    SIGN ANUSVARA; SIGN CANDRABINDU; SIGN HALANTA; VIRAMA; PREFIXED NASAL SIGN; MEDIAL YA;
    INITIAL RA; MEDIAL RA; SIGN NUKTA; DOUBLE DANDA; GAP FILLER; END OF TEXT MARK"⟩,
  ⟨"NANDINAGARI LETTER", "VOCALIC R; VOCALIC RR; LLA"⟩,
  ⟨"NANDINAGARI SIGN", "ANUSVARA; VISARGA; VIRAMA; AVAGRAHA; SIDDHAM"⟩,
  ⟨"NANDINAGARI VOWEL SIGN", "PRISHTHAMATRA E"⟩,
  ⟨"ZANABAZAR SQUARE VOWEL SIGN", "I; UE; U; E; OE; O; AI; AU; REVERSED I"⟩,
  ⟨"ZANABAZAR SQUARE, SOYOMBO", "
    VOWEL LENGTH MARK; SIGN ANUSVARA; SIGN VISARGA; MARK TSHEG; MARK SHAD; MARK DOUBLE SHAD;
    SUBJOINER"⟩,
  ⟨"ZANABAZAR SQUARE LETTER", "DZHA"⟩,
  ⟨"ZANABAZAR SQUARE LETTER, SOYOMBO LETTER", "VA"⟩,
  ⟨"ZANABAZAR SQUARE", "
    FINAL CONSONANT MARK; SIGN VIRAMA; SIGN CANDRABINDU; SIGN CANDRABINDU WITH ORNAMENT;
    SIGN CANDRA WITH ORNAMENT; CLUSTER-INITIAL LETTER RA; INITIAL HEAD MARK; CLOSING HEAD MARK;
    MARK LONG TSHEG; INITIAL DOUBLE-LINED HEAD MARK; CLOSING DOUBLE-LINED HEAD MARK"⟩,
  ⟨"ZANABAZAR SQUARE CLUSTER-FINAL LETTER", "YA; RA; LA; VA"⟩,
  ⟨"SOYOMBO VOWEL SIGN", "I; UE; U; E; O; OE; AI; AU; VOCALIC R; VOCALIC L"⟩,
  ⟨"SOYOMBO LETTER", "JHA"⟩,
  ⟨"SOYOMBO", "
    SIGN JIHVAMULIYA; SIGN UPADHMANIYA; GEMINATION MARK; MARK PLUTA; TERMINAL MARK-1;
    TERMINAL MARK-2"⟩,
  ⟨"SOYOMBO CLUSTER-INITIAL LETTER", "RA; LA; SHA; SA"⟩,
  ⟨"SOYOMBO FINAL CONSONANT SIGN", "G; K; NG; D; N; B; M; R; L; SH; S; -A"⟩,
  ⟨"SOYOMBO HEAD MARK WITH MOON AND", "SUN AND TRIPLE FLAME; SUN AND FLAME; SUN"⟩,
  ⟨"PAU CIN HAU LETTER, TOTO LETTER", "
    PA; KA; LA; MA; DA; NGA; HA; GA; SA; BA; TA; NA; RA; CHA; A; E; I; O; U"⟩,
  ⟨"PAU CIN HAU LETTER", "ZA; VA; KHA; CA; THA; PHA; FA; UA; IA"⟩,
  ⟨"PAU CIN HAU LETTER FINAL", "P; K; T; M; N; L; W; NG; Y"⟩,
  ⟨"PAU CIN HAU RISING, PAU CIN HAU SANDHI, PAU CIN HAU LOW-FALLING", "
    TONE LONG; TONE; TONE LONG FINAL; TONE FINAL"⟩,
  ⟨"PAU CIN HAU SANDHI", "GLOTTAL STOP; GLOTTAL STOP FINAL"⟩,
  ⟨"PAU CIN HAU MID-LEVEL", "TONE; TONE LONG FINAL; TONE FINAL"⟩,
  ⟨"PAU CIN HAU GLOTTAL", "STOP VARIANT; STOP; STOP FINAL"⟩,
  ⟨"BHAIKSUKI VOWEL SIGN", "VOCALIC L"⟩,
  ⟨"BHAIKSUKI", "SIGN AVAGRAHA; WORD SEPARATOR; GAP FILLER-1; GAP FILLER-2; HUNDREDS UNIT MARK"⟩,
  ⟨"MARCHEN", "HEAD MARK; MARK SHAD; SIGN ANUSVARA; SIGN CANDRABINDU"⟩,
  ⟨"MARCHEN LETTER", "-A"⟩,
  ⟨"MARCHEN VOWEL SIGN", "AA; I; U; E; O"⟩,
  ⟨"MASARAM GONDI LETTER", "KSSA; JNYA; TRA"⟩,
  ⟨"MASARAM GONDI", "
    SIGN ANUSVARA; SIGN VISARGA; SIGN NUKTA; SIGN CANDRA; SIGN HALANTA; VIRAMA; REPHA; RA-KARA"⟩,
  ⟨"GUNJALA GONDI", "SIGN ANUSVARA; SIGN VISARGA; VIRAMA; OM"⟩,
  ⟨"MAKASAR", "ANGKA; PASSIMBANG; END OF SECTION"⟩,
  ⟨"MAKASAR VOWEL SIGN", "I; U; E; O"⟩,
  ⟨"TAMIL FRACTION ONE", "
    THREE-HUNDRED-AND-TWENTIETH; ONE-HUNDRED-AND-SIXTIETH; EIGHTIETH; SIXTY-FOURTH; FORTIETH;
    THIRTY-SECOND; TWENTIETH; SIXTEENTH-1; SIXTEENTH-2; TENTH; EIGHTH; FIFTH; QUARTER; HALF-1;
    HALF-2"⟩,
  ⟨"TAMIL FRACTION THREE", "EIGHTIETHS; SIXTY-FOURTHS; TWENTIETHS; SIXTEENTHS; QUARTERS"⟩,
  ⟨"MRO LETTER", "
    TA; NGI; YO; MIM; BA; DA; A; PHI; KHAI; HAO; DAI; CHU; KEAAE; OL; MAEM; NIN; PA; OO; O; RO; SHI;
    THEA; EA; WA; E; KO; LAN; LA; HAI; RI; TEK"⟩,
  ⟨"TANGSA LETTER", "
    OZ; OC; OQ; OX; AZ; AC; AQ; AX; VZ; VC; VQ; VX; EZ; EC; EQ; EX; IZ; IC; IQ; IX; UZ; UC; UQ; UX;
    AWZ; AWC; AWQ; AWX; UIZ; UIC; UIQ; UIX; FINAL NG; LONG UEX; SHORT UEZ; SHORT AWX; UEC; UEZ; UEQ;
    UEX; UIUZ; UIUC; UIUQ; UIUX; MZ; MC; MQ; MX; NYA; HTA; NHA; TSA; HTTA; XA; FA; ZA"⟩,
  ⟨"TOTO LETTER", "YA; WA; JA; IU; EO; AE"⟩,
  ⟨"TOTO LETTER BREATHY", "I; IU; E; EO; AE"⟩,
  ⟨"WANCHO LETTER", "
    AA; ZA; O; AU; E; I; U; LLHA; TRA; ONG; AANG; ANG; ING; ON; EN; AAN; UEN; YIH"⟩,
  ⟨"WANCHO TONE", "TUP; TUPNI; KOI; KOINI"⟩]

end FixFirst.Text
