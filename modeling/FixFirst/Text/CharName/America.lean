import FixFirst.Text.CharName.Group

/-!
# Names of the scripts of America

The names of the characters for the Canadian syllabics and the Cherokee and Osage scripts.
-/

namespace FixFirst.Text

/-- Names of the scripts of America. -/
def americanNames : List NameGroup := [
  ⟨"CHEROKEE LETTER, CHEROKEE SMALL LETTER", "
    A; E; I; O; U; V; KA; GV; HA; HE; HO; HU; HV; LI; LV; MA; ME; MI; MO; NA; HNA; NAH; NE; NI; NO;
    NV; QUA; QUE; QUI; QUO; QUU; QUV; SA; S; SE; SI; SO; SV; DA; TA; DE; TE; TI; DO; DU; DV; TLV;
    TSV; WV; YA; YE; YI; YO; YV; MV"⟩,
  ⟨"CHEROKEE LETTER, CHEROKEE SMALL LETTER, CANADIAN SYLLABICS CARRIER", "
    GA; GE; GI; GO; GU; HI; LA; LE; LO; LU; MU; NU; SU; DI; DLA; TLA; TLE; TLI; TLO; TLU; TSA; TSE;
    TSI; TSO; TSU; WA; WE; WI; WO; WU; YU"⟩,
  ⟨"CANADIAN SYLLABICS", "
    HYPHEN; E; AAI; II; O; OO; A; AA; AI; GLOTTAL STOP; EN; IN; ON; AN; PAAI; PII; POO; PAA; TE;
    TAAI; TI; TII; TO; TOO; TA; TAA; T; KE; KAAI; KI; KII; KO; KOO; KA; KAA; K; KW; CE; CAAI; CI;
    CII; CO; COO; CA; CAA; C; MAAI; MII; MOO; MAA; MH; ATHAPASCAN M; NAAI; NII; NOO; NAA; N; NH;
    LAAI; LII; MEDIAL L; SAAI; SII; SOO; SAA; S; ATHAPASCAN S; SW; MOOSE-CREE SK; SHII; SHOO; SHAA;
    YAAI; YII; YOO; YAA; BIBLE-CREE Y; R-CREE RE; RAAI; RII; ROO; RAA; MEDIAL R; FE; FAAI; FI; FII;
    FO; FOO; FA; FAA; F; N-CREE THE; N-CREE THI; THII; N-CREE THII; THOO; THAA; TH; TTHE; TTHI;
    TTHO; TTHA; TTH; TYE; TYI; TYO; TYA; NUNAVUT H; HK; QAAI; QI; QII; QO; QOO; QA; QAA; Q; NGAAI;
    NGI; NGII; NGO; NGOO; NGA; NGAA; NNG; LHII; LHOO; LHAA; LH; AIVILIK B; CHI SIGN; FULL STOP; QAI;
    NGAI; NNGI; NNGII; NNGO; NNGOO; NNGA; NNGAA; OY; AY; AAY; WAY; POY; PAY; PWOY; TAY; KAY; KWAY;
    MAY; NOY; NAY; LAY; SOY; SAY; SHOY; SHAY; SHWOY; YOY; YAY; RAY; NWI; NWII; NWO; NWOO; RWEE; RWI;
    RWII; RWO; RWOO; RWA; EASTERN W; WESTERN W; R-CREE RWE; THWE; THWA; TTHWE; TTHOO; TTHAA; TLHWE;
    TLHOO; BEAVER DENE L; BEAVER DENE R; SPE; SPI; SPO; SPA"⟩,
  ⟨"CANADIAN SYLLABICS, CANADIAN SYLLABICS CARRIER", "
    I; PE; PI; PO; PA; TTE; TTI; TTO; TTA; ME; MI; MO; MA; NE; NI; NO; NA; LI; SE; SI; SO; SA; SHE;
    SHI; SHO; SHA; SH; YE; YI; YO; YA; THE; THI; THO; THA; TLHE; TLHI; TLHO; TLHA; NG; LHI; LHO;
    LHA"⟩,
  ⟨"CANADIAN SYLLABICS Y-CREE", "OO; W; POO; PWAA; TOO; KOO; COO; MOO; NOO; LOO; SOO; YOO"⟩,
  ⟨"CANADIAN SYLLABICS CARRIER", "
    EE; HEE; H; DEE; GHU; GHO; GHE; GHEE; GHI; GHA; RU; RO; RE; REE; RI; RA; WEE; HWU; HWO; HWE;
    HWEE; HWI; HWA; THU; THEE; TTU; TTEE; PU; PEE; P; GEE; KHU; KHO; KHE; KHEE; KHI; KHA; KKU; KKO;
    KKE; KKEE; KKI; KKA; KK; NEE; MEE; YEE; JU; JO; JE; JEE; JI; JA; JJU; JJO; JJE; JJEE; JJI; JJA;
    LEE; DLU; DLO; DLE; DLEE; DLI; LHU; LHE; LHEE; TLHU; TLHEE; TLEE; ZU; ZO; ZE; ZEE; ZI; ZA; Z;
    INITIAL Z; DZU; DZO; DZE; DZEE; DZI; DZA; SEE; SHU; SHEE; TSEE; CHU; CHO; CHE; CHEE; CHI; CHA;
    TTSU; TTSO; TTSE; TTSEE; TTSI; TTSA; GWU; DENE GEE; GAA; GWA; JWA; DENTAL S"⟩,
  ⟨"CANADIAN SYLLABICS, CANADIAN SYLLABICS WEST-CREE", "
    WE; WI; WII; WO; WOO; WA; WAA; PWE; PWI; PWII; PWO; PWOO; PWA; PWAA; P; TWE; TWI; TWII; TWO;
    TWOO; TWA; TWAA; KWE; KWI; KWII; KWO; KWOO; KWA; KWAA; CWE; CWI; CWII; CWO; CWOO; CWA; CWAA;
    MWE; MWI; MWII; MWO; MWOO; MWA; MWAA; M; NWE; NWA; NWAA; LE; LO; LOO; LA; LAA; LWE; LWI; LWII;
    LWO; LWOO; LWA; LWAA; L; SWE; SWI; SWII; SWO; SWOO; SWA; SWAA; SHWE; SHWI; SHWII; SHWO; SHWOO;
    SHWA; SHWAA; YWE; YWI; YWII; YWO; YWOO; YWA; YWAA; Y; RE; RI; RO; RA; RWAA; R; FWAA; THWAA"⟩,
  ⟨"CANADIAN SYLLABICS NASKAPI", "
    WOO; WAA; TWAA; KWAA; CWAA; MWAA; NWAA; SWAA; SKW; S-W; SPWA; STWA; SKWA; SCWA; YWAA"⟩,
  ⟨"CANADIAN SYLLABICS FINAL", "
    ACUTE; GRAVE; BOTTOM HALF RING; TOP HALF RING; RIGHT HALF RING; RING; DOUBLE ACUTE;
    DOUBLE SHORT VERTICAL STROKES; MIDDLE DOT; SHORT HORIZONTAL STROKE; PLUS; DOWN TACK; SMALL RING;
    RAISED DOT"⟩,
  ⟨"CANADIAN SYLLABICS SOUTH-SLAVEY", "KEH; KIH; KOH; KAH"⟩,
  ⟨"CANADIAN SYLLABICS SAYISI", "
    TH; M; YI; SHE; SHI; SHO; SHA; HE; HI; HO; HA; JU; JI; SHWE; SHOO; HOO; JUU"⟩,
  ⟨"CANADIAN SYLLABICS BLACKFOOT", "
    S; E; I; O; A; WE; WI; WO; WA; NE; NI; NO; NA; KE; KI; KO; KA; W"⟩,
  ⟨"CANADIAN SYLLABICS NUNAVIK", "HE; HI; HII; HO; HOO; HA; HAA; H"⟩,
  ⟨"CANADIAN SYLLABICS WOODS-CREE", "
    THE; THI; THO; THA; TH; THWEE; THWI; THWII; THWO; THWOO; THWA; THWAA; FINAL TH"⟩,
  ⟨"CANADIAN SYLLABICS TH-CREE", "THE; THI; THII; THO; THOO; THA; THAA; TH"⟩,
  ⟨"CANADIAN SYLLABICS OJIBWAY", "NWI; NWII; NWO; NWOO; P; T; K; C; M; N; S; SH"⟩,
  ⟨"OSAGE CAPITAL LETTER, OSAGE SMALL LETTER", "
    A; AI; AIN; AH; BRA; CHA; EHCHA; E; EIN; HA; HYA; I; KA; EHKA; KYA; LA; MA; NA; O; OIN; PA;
    EHPA; SA; SHA; TA; EHTA; TSA; EHTSA; TSHA; DHA; U; WA; KHA; GHA; ZA; ZHA"⟩,
  ⟨"CANADIAN SYLLABICS NATTILIK", "
    HI; HII; HO; HOO; HA; HAA; SHRI; SHRII; SHRO; SHROO; SHRA; SHRAA"⟩]

end FixFirst.Text
