import FixFirst.Text.CharName.Group

/-!
# Names of the scripts of Southeast Asia

The names of the characters for the scripts of Southeast Asia and of the islands.
-/

namespace FixFirst.Text

/-- Names of the scripts of Southeast Asia. -/
def southeastAsianNames : List NameGroup := [
  ⟨"THAI CHARACTER", "
    KO KAI; KHO KHAI; KHO KHUAT; KHO KHWAI; KHO KHON; KHO RAKHANG; NGO NGU; CHO CHAN; CHO CHING;
    CHO CHANG; SO SO; CHO CHOE; YO YING; DO CHADA; TO PATAK; THO THAN; THO NANGMONTHO; THO PHUTHAO;
    NO NEN; DO DEK; TO TAO; THO THUNG; THO THAHAN; THO THONG; NO NU; BO BAIMAI; PO PLA; PHO PHUNG;
    FO FA; PHO PHAN; FO FAN; PHO SAMPHAO; MO MA; YO YAK; RO RUA; RU; LO LING; LU; WO WAEN; SO SALA;
    SO RUSI; SO SUA; HO HIP; LO CHULA; O ANG; HO NOKHUK; PAIYANNOI; MAI HAN-AKAT; PHINTHU;
    LAKKHANGYAO; MAIYAMOK; MAITAIKHU; MAI EK; MAI THO; MAI TRI; MAI CHATTAWA; THANTHAKHAT; NIKHAHIT;
    YAMAKKAN; FONGMAN; ANGKHANKHU; KHOMUT"⟩,
  ⟨"THAI CHARACTER SARA", "A; AA; AM; I; II; UE; UEE; U; UU; E; AE; O; AI MAIMUAN; AI MAIMALAI"⟩,
  ⟨"", "
    THAI CURRENCY SYMBOL BAHT; HANUNOO SIGN PAMUDPOD; KHMER CURRENCY SYMBOL RIEL; BUGINESE PALLAWA;
    BUGINESE END OF SECTION; TAI THAM COMBINING CRYPTOGRAMMIC DOT; SUNDANESE AVAGRAHA;
    REJANG VIRAMA; REJANG SECTION MARK; BASSA VAH FULL STOP"⟩,
  ⟨"THAI DIGIT, LAO DIGIT, MYANMAR DIGIT, MYANMAR SHAN DIGIT, KHMER DIGIT, NEW TAI LUE DIGIT,
    TAI THAM HORA DIGIT, TAI THAM THAM DIGIT, BALINESE DIGIT, SUNDANESE DIGIT, KAYAH LI DIGIT,
    JAVANESE DIGIT, MYANMAR TAI LAING DIGIT, CHAM DIGIT, PAHAWH HMONG DIGIT,
    NYIAKENG PUACHUE HMONG DIGIT", "
    ZERO; ONE; TWO; THREE; FOUR; FIVE; SIX; SEVEN; EIGHT; NINE"⟩,
  ⟨"LAO LETTER", "
    KO; KHO SUNG; KHO TAM; NGO; CO; SO TAM; NYO; DO; TO; THO SUNG; THO TAM; NO; BO; PO; PHO SUNG;
    FO FON; FO TAM; PHO TAM; FO FAY; FO SUNG; MO; YO; LO LING; RO; LO; LO LOOT; WO; SANSKRIT SHA;
    SANSKRIT SSA; SO SUNG; HO SUNG; O; HO TAM; KHMU GO; KHMU NYO"⟩,
  ⟨"LAO LETTER PALI", "GHA; CHA; JHA; NYA; TTA; TTHA; DDA; DDHA; NNA; DHA; BHA; LLA"⟩,
  ⟨"LAO", "ELLIPSIS; SIGN PALI VIRAMA; KO LA; CANCELLATION MARK; NIGGAHITA; HO NO; HO MO"⟩,
  ⟨"LAO VOWEL SIGN", "A; MAI KAN; AA; AM; I; II; Y; YY; U; UU; MAI KON; E; EI; O; AY; AI"⟩,
  ⟨"LAO SEMIVOWEL SIGN", "LO; NYO"⟩,
  ⟨"LAO TONE MAI", "EK; THO; TI; CATAWA"⟩,
  ⟨"MYANMAR LETTER, CHAM LETTER", "
    KA; KHA; GA; GHA; NGA; CHA; JA; JHA; DDA; TA; THA; DA; DHA; NA; PA; PHA; BA; BHA; MA; YA; RA;
    LA; SA; HA; A; I; U; E; O; SSA"⟩,
  ⟨"MYANMAR LETTER", "
    CA; NYA; NNYA; TTA; TTHA; DDHA; NNA; WA; LLA; II; UU; MON E; AU; GREAT SA; SHA; VOCALIC R;
    VOCALIC RR; VOCALIC L; VOCALIC LL; MON NGA; MON JHA; MON BBA; MON BBE; SGAW KAREN SHA;
    WESTERN PWO KAREN THA; WESTERN PWO KAREN PWA; RUMAI PALAUNG FA; AITON RA; SHWE PALAUNG CHA;
    SHWE PALAUNG SHA"⟩,
  ⟨"MYANMAR LETTER SHAN", "
    A; KA; KHA; GA; CA; ZA; NYA; DA; NA; PHA; FA; BA; THA; HA; GHA; CHA; JHA; NNA; BHA"⟩,
  ⟨"MYANMAR VOWEL SIGN", "
    TALL AA; AA; I; II; U; UU; E; AI; MON II; MON O; E ABOVE; VOCALIC R; VOCALIC RR; VOCALIC L;
    VOCALIC LL; SGAW KAREN EU; WESTERN PWO KAREN EU; WESTERN PWO KAREN UE; GEBA KAREN I; KAYAH OE;
    KAYAH U; KAYAH EE; SHAN AA; SHAN E; SHAN E ABOVE; SHAN FINAL Y; AITON A; AITON AI"⟩,
  ⟨"MYANMAR SIGN", "
    ANUSVARA; DOT BELOW; VISARGA; VIRAMA; ASAT; LITTLE SECTION; SECTION; RUMAI PALAUNG TONE-5;
    KHAMTI TONE-1; KHAMTI TONE-3; PAO KAREN TONE; TAI LAING TONE-2; TAI LAING TONE-5"⟩,
  ⟨"MYANMAR CONSONANT SIGN", "
    MEDIAL YA; MEDIAL RA; MEDIAL WA; MEDIAL HA; MON MEDIAL NA; MON MEDIAL MA; MON MEDIAL LA;
    SHAN MEDIAL WA"⟩,
  ⟨"MYANMAR SYMBOL", "
    LOCATIVE; COMPLETED; AFOREMENTIONED; GENITIVE; SHAN ONE; SHAN EXCLAMATION; AITON EXCLAMATION;
    AITON ONE; AITON TWO"⟩,
  ⟨"MYANMAR TONE MARK SGAW KAREN", "HATHI; KE PHO"⟩,
  ⟨"MYANMAR SIGN WESTERN PWO KAREN", "TONE-1; TONE-2; TONE-3; TONE-4; TONE-5"⟩,
  ⟨"MYANMAR LETTER EASTERN PWO KAREN", "NNA; YWA; GHWA"⟩,
  ⟨"MYANMAR SIGN SHAN", "
    TONE-2; TONE-3; TONE-5; TONE-6; COUNCIL TONE-2; COUNCIL TONE-3; COUNCIL EMPHATIC TONE; SAW"⟩,
  ⟨"TAGALOG LETTER, HANUNOO LETTER, BUHID LETTER, SUNDANESE LETTER, JAVANESE LETTER", "
    A; I; U; KA; GA; NGA; TA; DA; NA; PA; BA; MA; YA; RA; LA; WA; SA; HA"⟩,
  ⟨"TAGALOG", "VOWEL SIGN I; VOWEL SIGN U; SIGN VIRAMA; SIGN PAMUDPOD"⟩,
  ⟨"TAGALOG LETTER", "ARCHAIC RA"⟩,
  ⟨"HANUNOO VOWEL SIGN, BUHID VOWEL SIGN, TAGBANWA VOWEL SIGN", "I; U"⟩,
  ⟨"PHILIPPINE", "SINGLE PUNCTUATION; DOUBLE PUNCTUATION"⟩,
  ⟨"TAGBANWA LETTER", "A; I; U; KA; GA; NGA; TA; DA; NA; PA; BA; MA; YA; LA; WA; SA"⟩,
  ⟨"KHMER LETTER", "
    KA; KHA; KO; KHO; NGO; CA; CHA; CO; CHO; NYO; DA; TTHA; DO; TTHO; NNO; TA; THA; TO; THO; NO; BA;
    PHA; PO; PHO; MO; YO; RO; LO; VO; SHA; SSO; SA; HA; LA; QA"⟩,
  ⟨"KHMER INDEPENDENT VOWEL", "
    QAQ; QAA; QI; QII; QU; QUK; QUU; QUUV; RY; RYY; LY; LYY; QE; QAI; QOO TYPE ONE; QOO TYPE TWO;
    QAU"⟩,
  ⟨"KHMER VOWEL INHERENT", "AQ; AA"⟩,
  ⟨"KHMER VOWEL SIGN", "AA; I; II; Y; YY; U; UU; UA; OE; YA; IE; E; AE; AI; OO; AU"⟩,
  ⟨"KHMER SIGN", "
    NIKAHIT; REAHMUK; YUUKALEAPINTU; MUUSIKATOAN; TRIISAP; BANTOC; ROBAT; TOANDAKHIAT; KAKABAT;
    AHSDA; SAMYOK SANNYA; VIRIAM; COENG; BATHAMASAT; KHAN; BARIYOOSAN; CAMNUC PII KUUH; LEK TOO;
    BEYYAL; PHNAEK MUAN; KOOMUUT; AVAKRAHASANYA; ATTHACAN"⟩,
  ⟨"KHMER SYMBOL LEK ATTAK", "
    SON; MUOY; PII; BEI; BUON; PRAM; PRAM-MUOY; PRAM-PII; PRAM-BEI; PRAM-BUON"⟩,
  ⟨"TAI LE LETTER, MIAO LETTER", "
    KA; XA; NGA; TSA; SA; TA; LA; PA; MA; FA; VA; HA; QA; TSHA; NA; TONE-2; TONE-3; TONE-4; TONE-5;
    TONE-6"⟩,
  ⟨"TAI LE LETTER", "YA; THA; PHA; KHA; A; I; EE; EH; U; OO; O; UE; E; AUE; AI"⟩,
  ⟨"NEW TAI LUE LETTER HIGH, NEW TAI LUE LETTER LOW", "
    QA; KA; XA; NGA; TSA; SA; YA; TA; THA; NA; PA; PHA; MA; FA; VA; LA; HA; DA; BA; KVA; XVA; SUA"⟩,
  ⟨"NEW TAI LUE VOWEL SIGN", "
    VOWEL SHORTENER; AA; II; U; UU; E; AE; O; OA; UE; AY; AAY; UY; OY; OAY; UEY; IY"⟩,
  ⟨"NEW TAI LUE LETTER FINAL", "V; NG; N; M; K; D; B"⟩,
  ⟨"NEW TAI LUE", "TONE MARK-1; TONE MARK-2; THAM DIGIT ONE; SIGN LAE; SIGN LAEV"⟩,
  ⟨"KHMER SYMBOL", "
    PATHAMASAT; MUOY KOET; PII KOET; BEI KOET; BUON KOET; PRAM KOET; PRAM-MUOY KOET; PRAM-PII KOET;
    PRAM-BEI KOET; PRAM-BUON KOET; DAP KOET; DAP-MUOY KOET; DAP-PII KOET; DAP-BEI KOET;
    DAP-BUON KOET; DAP-PRAM KOET; TUTEYASAT; MUOY ROC; PII ROC; BEI ROC; BUON ROC; PRAM ROC;
    PRAM-MUOY ROC; PRAM-PII ROC; PRAM-BEI ROC; PRAM-BUON ROC; DAP ROC; DAP-MUOY ROC; DAP-PII ROC;
    DAP-BEI ROC; DAP-BUON ROC; DAP-PRAM ROC"⟩,
  ⟨"BUGINESE LETTER, KAYAH LI LETTER", "
    KA; GA; NGA; PA; BA; MA; TA; DA; NA; CA; NYA; YA; RA; LA; VA; SA; A; HA"⟩,
  ⟨"BUGINESE LETTER", "NGKA; MPA; NRA; JA; NYCA"⟩,
  ⟨"BUGINESE VOWEL SIGN", "I; U; E; O; AE"⟩,
  ⟨"TAI THAM LETTER HIGH, TAI THAM LETTER LOW", "
    KA; KHA; KXA; CA; CHA; RATHA; TA; THA; PA; PHA; FA; YA; SA; HA"⟩,
  ⟨"TAI THAM LETTER", "
    NGA; NYA; RATA; DA; RANA; NA; BA; MA; RA; RUE; LA; LUE; WA; LLA; A; I; II; U; UU; EE; OO; LAE;
    GREAT SA"⟩,
  ⟨"TAI THAM LETTER HIGH", "SHA; SSA"⟩,
  ⟨"TAI THAM CONSONANT SIGN", "
    MEDIAL RA; MEDIAL LA; LA TANG LAI; FINAL NGA; LOW PA; HIGH RATHA OR LOW PA; MA; BA; SA"⟩,
  ⟨"TAI THAM SIGN", "
    MAI KANG LAI; SAKOT; MAI KANG; TONE-1; TONE-2; KHUEN TONE-3; KHUEN TONE-4; KHUEN TONE-5;
    RA HAAM; MAI SAM; KHUEN-LUE KARAN; WIANG; WIANGWAAK; SAWAN; KEOW; HOY; DOKMAI;
    REVERSED ROTATED RANA; MAI YAMOK; KAAN; KAANKUU; SATKAAN; SATKAANKUU; HANG; CAANG"⟩,
  ⟨"TAI THAM VOWEL SIGN", "
    A; MAI SAT; AA; TALL AA; I; II; UE; UUE; U; UU; O; OA BELOW; OY; E; AE; OO; AI; THAM AI;
    OA ABOVE"⟩,
  ⟨"BALINESE SIGN", "ULU RICEM; ULU CANDRA; CECEK; SURANG; BISAH; REREKAN"⟩,
  ⟨"BALINESE LETTER", "
    AKARA; AKARA TEDUNG; IKARA; IKARA TEDUNG; UKARA; UKARA TEDUNG; RA REPA; RA REPA TEDUNG;
    LA LENGA; LA LENGA TEDUNG; EKARA; AIKARA; OKARA; OKARA TEDUNG; KA; KA MAHAPRANA; GA; GA GORA;
    NGA; CA; CA LACA; JA; JA JERA; NYA; TA LATIK; TA MURDA MAHAPRANA; DA MURDA ALPAPRANA;
    DA MURDA MAHAPRANA; NA RAMBAT; TA; TA TAWA; DA; DA MADU; NA; PA; PA KAPAL; BA; BA KEMBANG; MA;
    YA; RA; LA; WA; SA SAGA; SA SAPA; SA; HA; KAF SASAK; KHOT SASAK; TZIR SASAK; EF SASAK; VE SASAK;
    ZAL SASAK; ASYURA SASAK; ARCHAIC JNYA"⟩,
  ⟨"BALINESE VOWEL SIGN", "
    TEDUNG; ULU; ULU SARI; SUKU; SUKU ILUT; RA REPA; RA REPA TEDUNG; LA LENGA; LA LENGA TEDUNG;
    TALING; TALING REPA; TALING TEDUNG; TALING REPA TEDUNG; PEPET; PEPET TEDUNG"⟩,
  ⟨"BALINESE", "
    ADEG ADEG; PANTI; PAMADA; WINDU; CARIK PAMUNGKAH; CARIK SIKI; CARIK PAREREN; PAMENENG;
    PANTI LANTANG; PAMADA LANTANG"⟩,
  ⟨"BALINESE MUSICAL SYMBOL", "
    DONG; DENG; DUNG; DANG; DANG SURANG; DING; DAENG; DEUNG; DAING; DANG GEDE; RIGHT-HAND OPEN DUG;
    RIGHT-HAND OPEN DAG; RIGHT-HAND CLOSED TUK; RIGHT-HAND CLOSED TAK"⟩,
  ⟨"BALINESE MUSICAL SYMBOL COMBINING", "
    TEGEH; ENDEP; KEMPUL; KEMPLI; JEGOGAN; KEMPUL WITH JEGOGAN; KEMPLI WITH JEGOGAN; BENDE; GONG"⟩,
  ⟨"BALINESE MUSICAL SYMBOL LEFT-HAND", "
    OPEN PANG; OPEN PUNG; CLOSED PLAK; CLOSED PLUK; OPEN PING"⟩,
  ⟨"SUNDANESE SIGN", "PANYECEK; PANGLAYAR; PANGWISAD; PAMAAEH; VIRAMA"⟩,
  ⟨"SUNDANESE LETTER", "
    AE; O; E; EU; QA; CA; JA; ZA; NYA; FA; VA; XA; KHA; SYA; REU; LEU; BHA; FINAL K; FINAL M"⟩,
  ⟨"SUNDANESE CONSONANT SIGN", "PAMINGKAL; PANYAKRA; PANYIKU; PASANGAN MA; PASANGAN WA"⟩,
  ⟨"SUNDANESE VOWEL SIGN", "PANGHULU; PANYUKU; PANAELAENG; PANOLONG; PAMEPET; PANEULEUNG"⟩,
  ⟨"BATAK LETTER, REJANG LETTER", "
    A; HA; BA; PA; NA; WA; GA; JA; DA; RA; MA; SA; YA; NGA; LA; NYA; CA; NDA; MBA"⟩,
  ⟨"BATAK LETTER SIMALUNGUN", "A; HA; PA; WA; GA; RA; MA; SA; YA; LA"⟩,
  ⟨"BATAK LETTER", "
    MANDAILING HA; KARO BA; MANDAILING NA; PAKPAK WA; SOUTHERN TA; NORTHERN TA; MANDAILING SA; I;
    U"⟩,
  ⟨"BATAK", "SIGN TOMPI; CONSONANT SIGN NG; CONSONANT SIGN H; PANGOLAT; PANONGONAN"⟩,
  ⟨"BATAK VOWEL SIGN", "E; PAKPAK E; EE; I; KARO I; O; KARO O; U; U FOR SIMALUNGUN SA"⟩,
  ⟨"BATAK SYMBOL BINDU", "NA METEK; PINARBORAS; JUDUL; PANGOLAT"⟩,
  ⟨"KAYAH LI LETTER", "KHA; SHA; ZA; HTA; PHA; WA; THA; OE; I; OO"⟩,
  ⟨"KAYAH LI VOWEL", "UE; E; U; EE; O"⟩,
  ⟨"KAYAH LI", "TONE PLOPHU; TONE CALYA; TONE CALYA PLOPHU; SIGN CWI; SIGN SHYA"⟩,
  ⟨"REJANG LETTER", "KA; TA; NGGA; NYJA"⟩,
  ⟨"REJANG VOWEL SIGN", "I; U; E; AI; O; AU; EU; EA"⟩,
  ⟨"REJANG CONSONANT SIGN", "NG; N; R; H"⟩,
  ⟨"JAVANESE SIGN", "PANYANGGA; CECAK; LAYAR; WIGNYAN; CECAK TELU"⟩,
  ⟨"JAVANESE LETTER", "
    I KAWI; II; PA CEREK; NGA LELET; NGA LELET RASWADI; E; AI; O; KA SASAK; KA MURDA; GA MURDA; CA;
    CA MURDA; JA; NYA MURDA; JA MAHAPRANA; NYA; TTA; TTA MAHAPRANA; DDA; DDA MAHAPRANA; NA MURDA;
    TA MURDA; DA MAHAPRANA; PA MURDA; BA MURDA; RA AGUNG; SA MURDA; SA MAHAPRANA"⟩,
  ⟨"JAVANESE VOWEL SIGN", "
    TARUNG; TOLONG; WULU; WULU MELIK; SUKU; SUKU MENDUT; TALING; DIRGA MURE; PEPET"⟩,
  ⟨"JAVANESE CONSONANT SIGN", "KERET; PENGKAL; CAKRA"⟩,
  ⟨"JAVANESE", "PANGKON; LEFT RERENGGAN; RIGHT RERENGGAN; TURNED PADA PISELEH; PANGRANGKEP"⟩,
  ⟨"JAVANESE PADA", "
    ANDAP; MADYA; LUHUR; WINDU; PANGKAT; LINGSA; LUNGSI; ADEG; ADEG ADEG; PISELEH; TIRTA TUMETES;
    ISEN-ISEN"⟩,
  ⟨"MYANMAR MODIFIER LETTER", "SHAN REDUPLICATION; KHAMTI REDUPLICATION"⟩,
  ⟨"MYANMAR LETTER TAI LAING", "NYA; FA; GA; GHA; JA; JHA; DDA; DDHA; NNA; LLA; DA; DHA; BA; BHA"⟩,
  ⟨"CHAM LETTER", "AI; NGUE; CHHA; NHUE; NHA; NHJA; NUE; PPA; MUE; BBA; VA"⟩,
  ⟨"CHAM VOWEL SIGN", "AA; I; II; EI; U; OE; O; AI; AU; UE"⟩,
  ⟨"CHAM CONSONANT SIGN", "YA; RA; LA; WA; FINAL NG; FINAL M; FINAL H"⟩,
  ⟨"CHAM LETTER FINAL", "K; G; NG; CH; T; N; P; Y; R; L; SS"⟩,
  ⟨"CHAM PUNCTUATION", "SPIRAL; DANDA; DOUBLE DANDA; TRIPLE DANDA"⟩,
  ⟨"MYANMAR LETTER KHAMTI", "
    GA; CA; CHA; JA; JHA; NYA; TTA; TTHA; DDA; DDHA; DHA; NA; SA; HA; HHA; LLA; FA; XA; ZA; RA"⟩,
  ⟨"MYANMAR LOGOGRAM KHAMTI", "OAY; QN; HM"⟩,
  ⟨"TAI VIET LETTER LOW, TAI VIET LETTER HIGH", "
    KO; KHO; KHHO; GO; NGO; CO; CHO; SO; NYO; DO; TO; THO; NO; BO; PO; PHO; FO; MO; YO; RO; LO; VO;
    HO; O"⟩,
  ⟨"TAI VIET MAI", "KANG; KHIT"⟩,
  ⟨"TAI VIET VOWEL", "AA; I; UE; U; E; O; IA; UEA; UA; AUE; AY; AN; AM"⟩,
  ⟨"TAI VIET TONE MAI", "EK; NUENG; THO; SONG"⟩,
  ⟨"TAI VIET SYMBOL", "KON; NUENG; SAM; HO HOI; KOI KOI"⟩,
  ⟨"BASSA VAH LETTER", "
    ENNI; KA; SE; FA; MBE; YIE; GAH; DHII; KPAH; JO; HWAH; WA; ZO; GBU; DO; CE; UWU; TO; BA; VU;
    YEIN; PA; WADDA; A; O; OO; U; EE; E; I"⟩,
  ⟨"BASSA VAH COMBINING", "HIGH TONE; LOW TONE; MID TONE; LOW-MID TONE; HIGH-LOW TONE"⟩,
  ⟨"PAHAWH HMONG VOWEL", "
    KEEB; KEEV; KIB; KIV; KAUB; KAUV; KUB; KUV; KEB; KEV; KAIB; KAIV; KOOB; KOOV; KAWB; KAWV; KUAB;
    KUAV; KOB; KOV; KIAB; KIAV; KAB; KAV; KWB; KWV; KAAB; KAAV"⟩,
  ⟨"PAHAWH HMONG CONSONANT", "
    VAU; NTSAU; LAU; HAU; NLAU; RAU; NKAU; QHAU; YAU; HLAU; MAU; CHAU; NCHAU; HNAU; PLHAU; NTHAU;
    NAU; AU; XAU; CAU"⟩,
  ⟨"PAHAWH HMONG MARK CIM", "TUB; SO; KES; KHAV; SUAM; HOM; TAUM"⟩,
  ⟨"PAHAWH HMONG SIGN", "
    VOS THOM; VOS TSHAB CEEB; CIM CHEEM; VOS THIAB; VOS FEEM; XYEEM NTXIV; XYEEM RHO; XYEEM TOV;
    XYEEM FAIB; VOS SEEV; MEEJ SUAB; VOS NRUA; IB YAM; XAUS; CIM TSOV ROG; VOS LUB; XYOO; HLI;
    THIRD-STAGE HLI; ZWJ THAJ; HNUB; NQIG; XIAB; NTUJ; AV; TXHEEJ CEEV; MEEJ TSEEB; TAU; LOS; MUS;
    CIM HAIS LUS NTOG NTOG; CIM CUAM TSHOOJ; CIM TXWV; CIM TXWV CHWV; CIM PUB DAWB; CIM NRES TOS"⟩,
  ⟨"PAHAWH HMONG NUMBER", "
    TENS; HUNDREDS; TEN THOUSANDS; MILLIONS; HUNDRED MILLIONS; TEN BILLIONS; TRILLIONS"⟩,
  ⟨"PAHAWH HMONG CLAN SIGN", "
    TSHEEJ; YEEG; LIS; LAUJ; XYOOJ; KOO; HAWJ; MUAS; THOJ; TSAB; PHAB; KHAB; HAM; VAJ; FAJ; YAJ;
    TSWB; KWM; VWJ"⟩,
  ⟨"MIAO LETTER", "
    BA; YI PA; PLA; MHA; VFA; DA; YI TTA; YI TA; TTA; DDA; NHA; YI NNA; NNA; NNHA; LYA; LHA; LHYA;
    TLHA; DLHA; TLHYA; DLHYA; GA; YI KA; QGA; NGHA; GHA; GHHA; TSSA; DZZA; NYA; NYHA; DZHA; YI TSHA;
    YI DZHA; SHA; SSA; ZHA; ZSHA; DZA; YI TSA; ZA; ZSA; ZZA; ZZSA; ZZYA; ZZSYA; WA; AH; HHA; BRI;
    SYI; DZYI; TE; TSE; RTE; NASALIZATION; TONE-7; TONE-8"⟩,
  ⟨"MIAO LETTER ARCHAIC", "MA; NA; NGA; ZZA"⟩,
  ⟨"MIAO LETTER REFORMED", "TSHA; TONE-1; TONE-2; TONE-4; TONE-5; TONE-6; TONE-8"⟩,
  ⟨"MIAO SIGN", "CONSONANT MODIFIER BAR; ASPIRATION; REFORMED VOICING; REFORMED ASPIRATION"⟩,
  ⟨"MIAO VOWEL SIGN", "
    A; AA; AHH; AN; ANG; O; OO; WO; W; E; EN; ENG; OEY; I; IA; IAN; IANG; IO; IE; II; IU; ING; U;
    UA; UAN; UANG; UU; UEI; UNG; Y; YI; AE; AEE; ERR; ROUNDED ERR; ER; ROUNDED ER; AI; EI; AU; OU;
    N; NG; UOG; YUI; OG; OER; VW; IG; EA; IONG; UI"⟩,
  ⟨"MIAO TONE", "RIGHT; TOP RIGHT; ABOVE; BELOW"⟩,
  ⟨"NYIAKENG PUACHUE HMONG LETTER", "
    MA; TSA; NTA; TA; HA; NA; XA; NKA; CA; LA; SA; ZA; NCA; NTSA; KA; DA; NYA; NRA; VA; NTXA; TXA;
    FA; RA; QA; YA; NQA; PA; XYA; NPA; DLA; NPLA; HAH; MLA; PLA; GA; RRA; A; AA; I; U; O; OO; E; EE;
    W"⟩,
  ⟨"NYIAKENG PUACHUE HMONG", "
    TONE-B; TONE-M; TONE-J; TONE-V; TONE-S; TONE-G; TONE-D; SIGN XW XW; SYLLABLE LENGTHENER;
    LOGOGRAM NYAJ; CIRCLED CA"⟩,
  ⟨"NYIAKENG PUACHUE HMONG SIGN FOR", "PERSON; THING; LOCATION; ANIMAL; INVERTEBRATE"⟩]

end FixFirst.Text
