import FixFirst.Text.CharName.Group

/-!
# Names of notations

The names of the characters for music, shorthand and the writing of signs.
-/

namespace FixFirst.Text

/-- Names of notations. -/
def notationNames : List NameGroup := [
  ⟨"DUPLOYAN LETTER", "
    H; X; P; T; F; K; L; B; D; V; G; R; P N; D S; F N; K M; R S; TH; DH; KK; HL; LH; RH; M; N; J; S;
    M N; N M; J M; S J; M WITH DOT; N WITH DOT; J WITH DOT; J WITH DOTS INSIDE AND ABOVE;
    S WITH DOT; S WITH DOT BELOW; M S; N S; J S; S S; M N S; N M S; J M S; S J S; J S WITH DOT; J N;
    J N S; S T; S T R; S P; S P R; T S; T R S; W; WH; W R; S N; S M; K R S; G R S; S K; S K R; A;
    OA; O; AOU; I; E; IE; SHORT I; UI; EE; ROMANIAN I; LONG I; YE; U; EU; XW; U N; LONG U;
    ROMANIAN U; UH; OOH; OW; OU; WA; WO; WI; WEI; WOW; NASAL U; NASAL O; NASAL I; NASAL A;
    PERNIN AN; PERNIN AM; VOCALIC M"⟩,
  ⟨"DUPLOYAN LETTER SLOAN", "DH; J; OW; EH; EE; U; EN; AN; ON"⟩,
  ⟨"DUPLOYAN", "
    AFFIX LEFT HORIZONTAL SECANT; AFFIX MID HORIZONTAL SECANT; AFFIX RIGHT HORIZONTAL SECANT;
    AFFIX MID VERTICAL SECANT; SIGN O WITH CROSS; THICK LETTER SELECTOR; DOUBLE MARK;
    PUNCTUATION CHINOOK FULL STOP"⟩,
  ⟨"DUPLOYAN AFFIX LOW, DUPLOYAN AFFIX HIGH", "
    VERTICAL SECANT; ACUTE; TIGHT ACUTE; GRAVE; LONG GRAVE; DOT; CIRCLE; LINE; WAVE; VERTICAL"⟩,
  ⟨"DUPLOYAN AFFIX ATTACHED", "
    SECANT; LEFT-TO-RIGHT SECANT; TANGENT; TAIL; E HOOK; I HOOK; TANGENT HOOK"⟩,
  ⟨"DUPLOYAN AFFIX LOW", "ARROW"⟩,
  ⟨"SHORTHAND FORMAT", "LETTER OVERLAP; CONTINUING OVERLAP; DOWN STEP; UP STEP"⟩,
  ⟨"ZNAMENNY COMBINING MARK GORAZDO NIZKO", "
    S KRYZHEM ON LEFT; ON LEFT; S KRYZHEM ON RIGHT; ON RIGHT"⟩,
  ⟨"ZNAMENNY COMBINING MARK", "
    NIZKO S KRYZHEM ON LEFT; TSATA ON LEFT; NIZKO ON LEFT; SREDNE ON LEFT; VYSOKO ON LEFT;
    VYSOKO S KHOKHLOM ON LEFT; NIZKO S KRYZHEM ON RIGHT; TSATA ON RIGHT; NIZKO ON RIGHT;
    SREDNE ON RIGHT; VYSOKO ON RIGHT; VYSOKO S KHOKHLOM ON RIGHT; TSATA S KRYZHEM;
    STRANNO MALO POVYSHE; VYSOKO S KRYZHEM; GORAZDO VYSOKO; ZELO; ON; RAVNO; TIKHAYA; BORZAYA;
    UDARKA; PODVERTKA; LOMKA; KUPNAYA; KACHKA; ZEVOK; SKOBA; RAZSEKA; KRYZH ON LEFT; ZADERZHKA;
    DEMESTVENNY ZADERZHKA; OTSECHKA; PODCHASHIE; PODCHASHIE WITH VERTICAL STROKE; CHASHKA;
    CHASHKA POLNAYA; OBLACHKO; SOROCHYA NOZHKA; TOCHKA; DVOETOCHIE; CURVED OMET; KRYZH"⟩,
  ⟨"ZNAMENNY COMBINING MARK MALO POVYSHE, ZNAMENNY COMBINING MARK POVYSHE", "
    ON LEFT; S KHOKHLOM ON LEFT; ON RIGHT; S KHOKHLOM ON RIGHT; S KRYZHEM; STRANNO"⟩,
  ⟨"ZNAMENNY COMBINING TONAL RANGE MARK", "MRACHNO; SVETLO; TRESVETLO"⟩,
  ⟨"ZNAMENNY COMBINING", "ATTACHING VERTICAL OMET; LOWER TONAL RANGE INDICATOR"⟩,
  ⟨"ZNAMENNY PRIZNAK MODIFIER", "LEVEL-2; LEVEL-3; DIRECTION FLIP; KRYZH; ROG"⟩,
  ⟨"ZNAMENNY NEUME", "
    KRYUK; KRYUK TIKHY; PARAKLIT; DVA V CHELNU; KLYUCH; ZANOZHEK; STOPITSA; STOPITSA S OCHKOM;
    PEREVODKA; PEREVODKA NEPOSTOYANNAYA; STOPITSA WITH SOROCHYA NOZHKA; CHELYUSTKA; PALKA;
    ZAPYATAYA; DOUBLE ZAPYATAYA; REVERSED CHELYUSTKA; DERBITSA; KHAMILO; CHASHKA; PODCHASHIE;
    DEMESTVENNY KLYUCH; SLOZHITIE; SLOZHITIE S ZAPYATOY; SLOZHITIE ZAKRYTOE; SLOZHITIE S KRYZHEM;
    KRYZH; ROG; FITA; KOBYLA; ZMEYTSA; STATYA; POLKULIZMY; MECHIK; MECHIK POVODNY;
    MECHIK KLYUCHEVOY; MECHIK KLYUCHEPOVODNY; MECHIK KLYUCHENEPOSTOYANNY; OSOKA; OSOKA SVETLAYA;
    OSOKA TRESVETLAYA; OSOKA KRYUKOVAYA SVETLAYA; OSOKA KLYUCHEVAYA SVETLAYA;
    OSOKA KLYUCHEVAYA NEPOSTOYANNAYA; KUFISMA; OBLAKO; DUDA; NEMKA; PAUK"⟩,
  ⟨"ZNAMENNY NEUME GOLUBCHIK", "BORZY; TIKHY; MRACHNY; SVETLY; TRESVETLY"⟩,
  ⟨"ZNAMENNY NEUME VRAKHIYA, ZNAMENNY NEUME VRAKHIYA KLYUCHEVAYA", "
    PROSTAYA; MRACHNAYA; SVETLAYA; TRESVETLAYA"⟩,
  ⟨"ZNAMENNY NEUME SKAMEYTSA", "
    MRACHNAYA; SVETLAYA; TRESVETLAYA; TIKHAYA; KLYUCHEVAYA SVETLAYA; KLYUCHENEPOSTOYANNAYA;
    KLYUCHEVAYA TIKHAYA"⟩,
  ⟨"ZNAMENNY NEUME SKAMEYTSA DVOECHELNAYA", "PROSTAYA; SVETLAYA; NEPOSTOYANNAYA; KLYUCHEVAYA"⟩,
  ⟨"ZNAMENNY NEUME STATYA", "
    S ZAPYATOY; S KRYZHEM; S ZAPYATOY I KRYZHEM; S KRYZHEM I ZAPYATOY; ZAKRYTAYA;
    ZAKRYTAYA S ZAPYATOY; S ROGOM; S DVUMYA ZAPYATYMI; S ZAPYATOY I PODCHASHIEM; NEPOSTOYANNAYA"⟩,
  ⟨"ZNAMENNY NEUME STRELA", "
    PROSTAYA; MRACHNOTIKHAYA; KRYZHEVAYA; POLUPOVODNAYA; NEPOSTOYANNAYA; KLYUCHEPOVODNAYA;
    KLYUCHENEPOSTOYANNAYA; TIKHAYA PUTNAYA; DVOECHELNAYA; DVOECHELNOKRYZHEVAYA; DVOECHELNOPOVODNAYA;
    DVOECHELNAYA KLYUCHEVAYA; DVOECHELNOPOVODNAYA KLYUCHEVAYA; TRYASOGLASNAYA; TRYASOPOVODNAYA;
    TRYASOSTRELNAYA; KRYUKOVAYA"⟩,
  ⟨"ZNAMENNY NEUME STRELA, ZNAMENNY NEUME STRELA KRYUKOVAYA", "
    POVODNAYA; GROMNAYA WITH SINGLE ZAPYATAYA; GROMOPOVODNAYA WITH SINGLE ZAPYATAYA; GROMNAYA;
    GROMOPOVODNAYA; GROMOPOVODNAYA WITH DOUBLE ZAPYATAYA; GROMOKRYZHEVAYA;
    GROMOKRYZHEVAYA POVODNAYA"⟩,
  ⟨"ZNAMENNY NEUME STRELA KRYUKOVAYA", "TRYASKA"⟩,
  ⟨"BYZANTINE MUSICAL SYMBOL", "
    PSILI; DASEIA; PERISPOMENI; OXEIA EKFONITIKON; OXEIA DIPLI; VAREIA EKFONITIKON; VAREIA DIPLI;
    KATHISTI; SYRMATIKI; PARAKLITIKI; YPOKRISIS; YPOKRISIS DIPLI; KREMASTI; APESO EKFONITIKON;
    EXO EKFONITIKON; TELEIA; KENTIMATA; APOSTROFOS; APOSTROFOS DIPLI; SYNEVMA; THITA;
    OLIGON ARCHAION; GORGON ARCHAION; PSILON; CHAMILON; VATHY; ISON ARCHAION; KENTIMA ARCHAION;
    KENTIMATA ARCHAION; SAXIMATA; PARICHON; STAVROS APODEXIA; OXEIAI ARCHAION; VAREIAI ARCHAION;
    APODERMA ARCHAION; APOTHEMA; KLASMA; REVMA; PIASMA ARCHAION; TINAGMA; ANATRICHISMA; SEISMA;
    SYNAGMA ARCHAION; SYNAGMA META STAVROU; OYRANISMA ARCHAION; THEMA; LEMOI; DYO; TRIA; TESSERA;
    KRATIMATA; APESO EXO NEO; IMIFTHORA; TROMIKON ARCHAION; KATAVA TROMIKON; PELASTON; PSIFISTON;
    KONTEVMA; CHOREVMA ARCHAION; RAPISMA; PARAKALESMA ARCHAION; PARAKLITIKI ARCHAION; ICHADIN; NANA;
    PETASMA; KONTEVMA ALLO; TROMIKON ALLO; STRAGGISMATA; GRONTHISMATA; ISON NEO; OLIGON NEO;
    OXEIA NEO; PETASTI; KOUFISMA; PETASTOKOUFISMA; KRATIMOKOUFISMA; PELASTON NEO; KENTIMATA NEO ANO;
    KENTIMA NEO ANO; YPSILI; APOSTROFOS NEO; APOSTROFOI SYNDESMOS NEO; YPORROI; KRATIMOYPORROON;
    ELAFRON; CHAMILI; MIKRON ISON; VAREIA NEO; PIASMA NEO; PSIFISTON NEO; OMALON; ANTIKENOMA;
    LYGISMA; PARAKLITIKI NEO; PARAKALESMA NEO; ETERON PARAKALESMA; KYLISMA; ANTIKENOKYLISMA;
    TROMIKON NEO; EKSTREPTON; SYNAGMA NEO; SYRMA; CHOREVMA NEO; EPEGERMA; SEISMA NEO; XIRON KLASMA;
    TROMIKOPSIFISTON; PSIFISTOLYGISMA; TROMIKOLYGISMA; TROMIKOPARAKALESMA; PSIFISTOPARAKALESMA;
    TROMIKOSYNAGMA; PSIFISTOSYNAGMA; GORGOSYNTHETON; ARGOSYNTHETON; ETERON ARGOSYNTHETON;
    OYRANISMA NEO; THEMATISMOS ESO; THEMATISMOS EXO; THEMA APLOUN; THES KAI APOTHES; KATAVASMA;
    ENDOFONON; YFEN KATO; YFEN ANO; STAVROS; KLASMA ANO; DIPLI ARCHAION; KRATIMA ARCHAION;
    KRATIMA ALLO; KRATIMA NEO; APODERMA NEO; APLI; DIPLI; TRIPLI; TETRAPLI; KORONIS;
    LEIMMA ENOS CHRONOU; LEIMMA DYO CHRONON; LEIMMA TRION CHRONON; LEIMMA TESSARON CHRONON;
    LEIMMA IMISEOS CHRONOU; GORGON NEO ANO; GORGON PARESTIGMENON ARISTERA;
    GORGON PARESTIGMENON DEXIA; DIGORGON; TRIGORGON; ARGON; IMIDIARGON; DIARGON;
    ISAKIA TELOUS ICHIMATOS; APOSTROFOI TELOUS ICHIMATOS; FANEROSIS TETRAFONIAS;
    FANEROSIS MONOFONIAS; FANEROSIS DIFONIAS; GORTHMIKON N APLOUN; GORTHMIKON N DIPLOUN;
    ENARXIS KAI FTHORA VOU; IMIFONON; IMIFTHORON; FHTORA SKLIRON CHROMA VASIS; CHROA ZYGOS;
    CHROA KLITON; CHROA SPATHI; YFESIS TRITIMORION; DIESIS TRITIMORION; DIESIS TETARTIMORION;
    DIESIS APLI DYO DODEKATA; DIESIS MONOGRAMMOS TESSERA DODEKATA; DIESIS DIGRAMMOS EX DODEKATA;
    DIESIS TRIGRAMMOS OKTO DODEKATA; YFESIS APLI DYO DODEKATA; YFESIS MONOGRAMMOS TESSERA DODEKATA;
    YFESIS DIGRAMMOS EX DODEKATA; YFESIS TRIGRAMMOS OKTO DODEKATA; GENIKI DIESIS; GENIKI YFESIS;
    DIASTOLI APLI MIKRI; DIASTOLI APLI MEGALI; DIASTOLI DIPLI; DIASTOLI THESEOS; DIGRAMMA GG;
    DIFTOGGOS OU; STIGMA; KENTIMATA NEO MESO; KENTIMA NEO MESO; KENTIMATA NEO KATO;
    KENTIMA NEO KATO; KLASMA KATO; GORGON NEO KATO"⟩,
  ⟨"BYZANTINE MUSICAL SYMBOL FTHORA", "
    ARCHAION; ARCHAION DEYTEROU ICHOU; NAOS ICHOS; SKLIRON DIATONON DI; MALAKON CHROMA DIFONIAS;
    MALAKON CHROMA MONOFONIAS; SKLIRON CHROMA VASIS; SKLIRON CHROMA SYNAFI; NENANO;
    I YFESIS TETARTIMORION; ENARMONIOS ANTIFONIA"⟩,
  ⟨"BYZANTINE MUSICAL SYMBOL DIGORGON PARESTIGMENON", "ARISTERA KATO; ARISTERA ANO; DEXIA"⟩,
  ⟨"BYZANTINE MUSICAL SYMBOL AGOGI", "
    POLI ARGI; ARGOTERI; ARGI; METRIA; MESI; GORGI; GORGOTERI; POLI GORGI"⟩,
  ⟨"BYZANTINE MUSICAL SYMBOL MARTYRIA", "
    PROTOS ICHOS; ALLI PROTOS ICHOS; DEYTEROS ICHOS; ALLI DEYTEROS ICHOS; TRITOS ICHOS; TRIFONIAS;
    TETARTOS ICHOS; TETARTOS LEGETOS ICHOS; LEGETOS ICHOS; PLAGIOS ICHOS; VARYS ICHOS;
    PROTOVARYS ICHOS; PLAGIOS TETARTOS ICHOS"⟩,
  ⟨"BYZANTINE MUSICAL SYMBOL FTHORA DIATONIKI", "PA; NANA; DI; KE; ZO; NI KATO; NI ANO"⟩,
  ⟨"BYZANTINE MUSICAL SYMBOL SIMANSIS", "
    THESEOS; THESEOS DISIMOU; THESEOS TRISIMOU; THESEOS TETRASIMOU; ARSEOS; ARSEOS DISIMOU;
    ARSEOS TRISIMOU; ARSEOS TETRASIMOU"⟩,
  ⟨"BYZANTINE MUSICAL SYMBOL ARKTIKO", "PA; VOU; GA; DI; KE; ZO; NI"⟩,
  ⟨"MUSICAL SYMBOL", "
    SINGLE BARLINE; DOUBLE BARLINE; FINAL BARLINE; REVERSE FINAL BARLINE; DASHED BARLINE;
    SHORT BARLINE; LEFT REPEAT SIGN; RIGHT REPEAT SIGN; REPEAT DOTS; DAL SEGNO; DA CAPO; SEGNO;
    CODA; REPEATED FIGURE-1; REPEATED FIGURE-2; REPEATED FIGURE-3; FERMATA; FERMATA BELOW;
    BREATH MARK; CAESURA; BRACE; BRACKET; ONE-LINE STAFF; TWO-LINE STAFF; THREE-LINE STAFF;
    FOUR-LINE STAFF; FIVE-LINE STAFF; SIX-LINE STAFF; SIX-STRING FRETBOARD; FOUR-STRING FRETBOARD;
    G CLEF; G CLEF OTTAVA ALTA; G CLEF OTTAVA BASSA; C CLEF; F CLEF; F CLEF OTTAVA ALTA;
    F CLEF OTTAVA BASSA; DRUM CLEF-1; DRUM CLEF-2; MULTIPLE MEASURE REST; DOUBLE SHARP; DOUBLE FLAT;
    FLAT UP; FLAT DOWN; NATURAL UP; NATURAL DOWN; SHARP UP; SHARP DOWN; QUARTER TONE SHARP;
    QUARTER TONE FLAT; COMMON TIME; CUT TIME; OTTAVA ALTA; OTTAVA BASSA; QUINDICESIMA ALTA;
    QUINDICESIMA BASSA; MULTI REST; WHOLE REST; HALF REST; QUARTER REST; EIGHTH REST;
    SIXTEENTH REST; THIRTY-SECOND REST; SIXTY-FOURTH REST; X NOTEHEAD; PLUS NOTEHEAD;
    CIRCLE X NOTEHEAD; SQUARE NOTEHEAD WHITE; SQUARE NOTEHEAD BLACK; MOON NOTEHEAD WHITE;
    MOON NOTEHEAD BLACK; PARENTHESIS NOTEHEAD; VOID NOTEHEAD; NOTEHEAD BLACK; NULL NOTEHEAD;
    CLUSTER NOTEHEAD WHITE; CLUSTER NOTEHEAD BLACK; BREVE; WHOLE NOTE; HALF NOTE; QUARTER NOTE;
    EIGHTH NOTE; SIXTEENTH NOTE; THIRTY-SECOND NOTE; SIXTY-FOURTH NOTE; FINGERED TREMOLO-1;
    FINGERED TREMOLO-2; FINGERED TREMOLO-3; BEGIN BEAM; END BEAM; BEGIN TIE; END TIE; BEGIN SLUR;
    END SLUR; BEGIN PHRASE; END PHRASE; ARPEGGIATO UP; ARPEGGIATO DOWN; RINFORZANDO; SUBITO; Z;
    PIANO; MEZZO; FORTE; CRESCENDO; DECRESCENDO; GRACE NOTE SLASH; GRACE NOTE NO SLASH; TR; TURN;
    INVERTED TURN; TURN SLASH; TURN UP; HAUPTSTIMME; NEBENSTIMME; END OF STIMME; DEGREE SLASH;
    PEDAL MARK; PEDAL UP MARK; HALF PEDAL MARK; GLISSANDO UP; GLISSANDO DOWN; WITH FINGERNAILS;
    DAMP; DAMP ALL; MAXIMA; LONGA; BREVIS; SEMIBREVIS WHITE; SEMIBREVIS BLACK; MINIMA; MINIMA BLACK;
    SEMIMINIMA WHITE; SEMIMINIMA BLACK; FUSA WHITE; FUSA BLACK; LONGA PERFECTA REST;
    LONGA IMPERFECTA REST; BREVIS REST; SEMIBREVIS REST; MINIMA REST; SEMIMINIMA REST; CROIX;
    GREGORIAN C CLEF; GREGORIAN F CLEF; SQUARE B; VIRGA; PODATUS; CLIVIS; SCANDICUS; CLIMACUS;
    TORCULUS; PORRECTUS; PORRECTUS FLEXUS; SCANDICUS FLEXUS; TORCULUS RESUPINUS; PES SUBPUNCTIS;
    SORI; KORON"⟩,
  ⟨"MUSICAL SYMBOL ONE HUNDRED TWENTY-EIGHTH", "REST; NOTE"⟩,
  ⟨"MUSICAL SYMBOL TRIANGLE NOTEHEAD", "
    UP WHITE; UP BLACK; LEFT WHITE; LEFT BLACK; RIGHT WHITE; RIGHT BLACK; DOWN WHITE; DOWN BLACK;
    UP RIGHT WHITE; UP RIGHT BLACK"⟩,
  ⟨"MUSICAL SYMBOL TRIANGLE-ROUND NOTEHEAD DOWN", "WHITE; BLACK"⟩,
  ⟨"MUSICAL SYMBOL COMBINING", "
    STEM; SPRECHGESANG STEM; TREMOLO-1; TREMOLO-2; TREMOLO-3; AUGMENTATION DOT; FLAG-1; FLAG-2;
    FLAG-3; FLAG-4; FLAG-5; ACCENT; STACCATO; TENUTO; STACCATISSIMO; MARCATO; MARCATO-STACCATO;
    ACCENT-STACCATO; LOURE; DOIT; RIP; FLIP; SMEAR; BEND; DOUBLE TONGUE; TRIPLE TONGUE; DOWN BOW;
    UP BOW; HARMONIC; SNAP PIZZICATO"⟩,
  ⟨"MUSICAL SYMBOL ORNAMENT", "
    STROKE-1; STROKE-2; STROKE-3; STROKE-4; STROKE-5; STROKE-6; STROKE-7; STROKE-8; STROKE-9;
    STROKE-10; STROKE-11"⟩,
  ⟨"MUSICAL SYMBOL TEMPUS PERFECTUM CUM PROLATIONE", "PERFECTA; IMPERFECTA; PERFECTA DIMINUTION-1"⟩,
  ⟨"MUSICAL SYMBOL TEMPUS IMPERFECTUM CUM PROLATIONE", "
    PERFECTA; IMPERFECTA; IMPERFECTA DIMINUTION-1; IMPERFECTA DIMINUTION-2;
    IMPERFECTA DIMINUTION-3"⟩,
  ⟨"MUSICAL SYMBOL KIEVAN", "
    C CLEF; END OF PIECE; FINAL NOTE; RECITATIVE MARK; WHOLE NOTE; HALF NOTE;
    QUARTER NOTE STEM DOWN; QUARTER NOTE STEM UP; EIGHTH NOTE STEM DOWN; EIGHTH NOTE STEM UP;
    FLAT SIGN"⟩,
  ⟨"GREEK VOCAL NOTATION, GREEK INSTRUMENTAL NOTATION", "
    SYMBOL-1; SYMBOL-2; SYMBOL-4; SYMBOL-5; SYMBOL-7; SYMBOL-8; SYMBOL-11; SYMBOL-12; SYMBOL-13;
    SYMBOL-14; SYMBOL-17; SYMBOL-18; SYMBOL-19; SYMBOL-23; SYMBOL-24; SYMBOL-50; SYMBOL-51;
    SYMBOL-52; SYMBOL-53; SYMBOL-54"⟩,
  ⟨"GREEK VOCAL NOTATION", "
    SYMBOL-3; SYMBOL-6; SYMBOL-9; SYMBOL-10; SYMBOL-15; SYMBOL-16; SYMBOL-20; SYMBOL-21;
    SYMBOL-22"⟩,
  ⟨"GREEK INSTRUMENTAL NOTATION", "
    SYMBOL-25; SYMBOL-26; SYMBOL-27; SYMBOL-29; SYMBOL-30; SYMBOL-32; SYMBOL-36; SYMBOL-37;
    SYMBOL-38; SYMBOL-39; SYMBOL-40; SYMBOL-42; SYMBOL-43; SYMBOL-45; SYMBOL-47; SYMBOL-48;
    SYMBOL-49"⟩,
  ⟨"COMBINING GREEK MUSICAL", "TRISEME; TETRASEME; PENTASEME"⟩,
  ⟨"", "GREEK MUSICAL LEIMMA"⟩,
  ⟨"MAYAN NUMERAL", "
    ZERO; ONE; TWO; THREE; FOUR; FIVE; SIX; SEVEN; EIGHT; NINE; TEN; ELEVEN; TWELVE; THIRTEEN;
    FOURTEEN; FIFTEEN; SIXTEEN; SEVENTEEN; EIGHTEEN; NINETEEN"⟩,
  ⟨"SIGNWRITING HAND-FIST", "INDEX; FOUR FINGERS CONJOINED BENT; THUMB; HEEL"⟩,
  ⟨"SIGNWRITING HAND-CIRCLE", "
    INDEX; INDEX BENT; INDEX HINGE; INDEX MIDDLE; LITTLE UP; LITTLE INDEX; RING LITTLE;
    INDEX RING LITTLE; MIDDLE UP; MIDDLE RING LITTLE; MIDDLE RING LITTLE BENT"⟩,
  ⟨"SIGNWRITING HAND-CUP, SIGNWRITING HAND-HINGE", "
    INDEX; FIVE FINGERS SPREAD OPEN; OPEN; OPEN THUMB SIDE; THUMB SIDE; OPEN NO THUMB; NO THUMB;
    OPEN THUMB FORWARD; MIDDLE RING LITTLE"⟩,
  ⟨"SIGNWRITING HAND-OVAL", "
    INDEX; FIVE FINGERS SPREAD; THUMB SIDE; NO THUMB; THUMB FORWARD; LITTLE UP; RING LITTLE"⟩,
  ⟨"SIGNWRITING HAND-ANGLE", "
    INDEX; LITTLE UP; LITTLE INDEX THUMB INDEX THUMB OUT; LITTLE INDEX THUMB INDEX THUMB;
    LITTLE INDEX; RING DOWN MIDDLE THUMB INDEX CROSS; RING LITTLE; MIDDLE RING LITTLE OUT;
    MIDDLE RING LITTLE IN; MIDDLE RING LITTLE"⟩,
  ⟨"SIGNWRITING HAND-FIST INDEX", "
    BENT; RAISED KNUCKLE; CUPPED; HINGED; HINGED LOW; MIDDLE; UP MIDDLE HINGED; HINGED MIDDLE UP;
    BENT OVER MIDDLE; UP MIDDLE HINGED THUMB SIDE; UP MIDDLE HINGED THUMB CONJOINED;
    HINGED MIDDLE UP THUMB SIDE; RING LITTLE"⟩,
  ⟨"SIGNWRITING HAND-FIST THUMB", "
    UNDER INDEX BENT; BETWEEN INDEX MIDDLE STRAIGHT; UNDER LITTLE UP; HEEL; SIDE DIAGONAL;
    SIDE CONJOINED; SIDE BENT; FORWARD; BETWEEN INDEX MIDDLE; BETWEEN MIDDLE RING;
    BETWEEN RING LITTLE; UNDER TWO FINGERS; OVER TWO FINGERS; UNDER THREE FINGERS;
    UNDER FOUR FINGERS; OVER FOUR RAISED KNUCKLES"⟩,
  ⟨"SIGNWRITING HAND-FIST INDEX MIDDLE", "
    BENT; RAISED KNUCKLES; HINGED; CONJOINED; CROSSED; THUMB; STRAIGHT THUMB BENT;
    BENT THUMB STRAIGHT; THUMB BENT; HINGED SPREAD THUMB SIDE; UP SPREAD THUMB FORWARD;
    THUMB CUPPED; THUMB CIRCLED; THUMB HOOKED; THUMB HINGED; CROSSED THUMB SIDE;
    THUMB CONJOINED HINGED; THUMB ANGLED OUT; THUMB ANGLED; RING; RING BENT; RING CONJOINED; LITTLE;
    CROSS LITTLE"⟩,
  ⟨"SIGNWRITING HAND-FIST INDEX MIDDLE CONJOINED", "
    INDEX BENT; MIDDLE BENT; CUPPED; HINGED; THUMB SIDE; THUMB SIDE CONJOINED; THUMB SIDE BENT;
    HINGED THUMB SIDE; THUMB FORWARD; CUPPED THUMB FORWARD"⟩,
  ⟨"SIGNWRITING HAND-CIRCLE INDEX MIDDLE", "CROSSED; THUMB; RING; LITTLE; CROSS LITTLE"⟩,
  ⟨"SIGNWRITING HAND-FIST MIDDLE", "
    BENT OVER INDEX; DOWN; UP; RAISED KNUCKLE; UP THUMB SIDE; LITTLE; RING LITTLE"⟩,
  ⟨"SIGNWRITING HAND-FIST MIDDLE THUMB", "
    HOOKED INDEX UP; CUPPED INDEX UP; CIRCLED INDEX UP; CIRCLED INDEX HINGED; ANGLED OUT INDEX UP;
    ANGLED OUT INDEX CROSSED; ANGLED INDEX UP; LITTLE"⟩,
  ⟨"SIGNWRITING HAND-FIST INDEX THUMB", "
    HOOKED MIDDLE UP; CUPPED MIDDLE UP; ANGLED OUT MIDDLE UP; ANGLED IN MIDDLE UP;
    CIRCLED MIDDLE UP; HOOKED MIDDLE HINGED; SIDE; SIDE THUMB DIAGONAL; SIDE THUMB CONJOINED;
    SIDE THUMB BENT; SIDE INDEX BENT; SIDE BOTH BENT; SIDE INDEX HINGE; FORWARD INDEX STRAIGHT;
    FORWARD INDEX BENT; HOOK; CURLICUE; CURVE THUMB INSIDE; CURVE THUMB UNDER; CIRCLE"⟩,
  ⟨"SIGNWRITING HAND-FLAT", "
    FOUR FINGERS; FIVE FINGERS SPREAD; BETWEEN PALM FACINGS; HEEL; THUMB SIDE; HEEL THUMB SIDE;
    THUMB BENT; THUMB FORWARD; SPLIT INDEX THUMB SIDE; SPLIT CENTRE; SPLIT CENTRE THUMB SIDE;
    SPLIT CENTRE THUMB SIDE BENT; SPLIT LITTLE"⟩,
  ⟨"SIGNWRITING HAND-FLAT FOUR FINGERS", "BENT; HINGED; CONJOINED; CONJOINED SPLIT"⟩,
  ⟨"SIGNWRITING HAND-CLAW", "
    FOUR FINGERS CONJOINED; THUMB SIDE; NO THUMB; THUMB FORWARD; MIDDLE RING LITTLE CONJOINED;
    MIDDLE RING LITTLE CONJOINED SIDE; INDEX THUMB CURVE THUMB INSIDE"⟩,
  ⟨"SIGNWRITING HAND-HINGE", "
    FOUR FINGERS CONJOINED; SMALL; THUMB SIDE TOUCHING INDEX; THUMB BETWEEN MIDDLE RING; LITTLE;
    LITTLE THUMB; LITTLE INDEX THUMB; LITTLE INDEX; RING; RING DOWN INDEX THUMB HOOK MIDDLE;
    MIDDLE"⟩,
  ⟨"SIGNWRITING HAND-FLAT HEEL FIVE FINGERS", "SPREAD; SPREAD FOUR BENT; SPREAD BENT"⟩,
  ⟨"SIGNWRITING HAND-FLAT FIVE FINGERS SPREAD", "
    FOUR BENT; BENT; THUMB FORWARD; HINGED; HINGED THUMB SIDE; HINGED NO THUMB"⟩,
  ⟨"SIGNWRITING HAND-CUP", "
    FIVE FINGERS SPREAD; THUMB FORWARD; INDEX RING LITTLE; INDEX THUMB; INDEX THUMB OPEN"⟩,
  ⟨"SIGNWRITING", "
    HAND-FLAT; HAND-CLAW; HAND-HOOK CURLICUE; HAND-HOOK; HAND-CUP; HAND-CURLICUE; HAND-CIRCLE;
    HAND-OVAL; HAND-HINGE; HAND-ANGLE; HAND-HOOK RING THUMB; HAND-HOOK MIDDLE THUMB; HAND-FIST;
    TOUCH SINGLE; TOUCH MULTIPLE; TOUCH BETWEEN; GRASP SINGLE; GRASP MULTIPLE; GRASP BETWEEN;
    STRIKE SINGLE; STRIKE MULTIPLE; STRIKE BETWEEN; BRUSH SINGLE; BRUSH MULTIPLE; BRUSH BETWEEN;
    RUB SINGLE; RUB MULTIPLE; RUB BETWEEN; SURFACE SYMBOLS; SURFACE BETWEEN;
    TRAVEL-WALLPLANE SHAKING; TRAVEL-FLOORPLANE SHAKING; HEAD; HEAD RIM; HEAD MOVEMENT CIRCLE;
    FOREHEAD NEUTRAL; FOREHEAD CONTACT; FOREHEAD WRINKLED; EYE BLINK SINGLE; EYE BLINK MULTIPLE;
    EYE WINK; EYELASHES UP; EYELASHES DOWN; EYELASHES FLUTTERING; CHEEKS PUFFED; CHEEKS NEUTRAL;
    CHEEKS SUCKED; EARS; NOSE NEUTRAL; NOSE CONTACT; NOSE WRINKLES; NOSE WIGGLES; AIR BLOWING OUT;
    AIR SUCKING IN; AIR BLOW SMALL ROTATIONS; AIR SUCK SMALL ROTATIONS; BREATH INHALE;
    BREATH EXHALE; LIPS PRESSED TOGETHER; LIP LOWER OVER UPPER; LIP UPPER OVER LOWER; TEETH; NECK;
    HAIR; EXCITEMENT; SHOULDER HIP SPINE; SHOULDER HIP POSITIONS; WALLPLANE SHOULDER HIP MOVE;
    FLOORPLANE SHOULDER HIP MOVE; SHOULDER TILTING FROM WAIST; TORSO-WALLPLANE STRAIGHT STRETCH;
    TORSO-WALLPLANE CURVED BEND; TORSO-FLOORPLANE TWISTING; UPPER BODY TILTING FROM HIP JOINTS;
    FINGER; LOCATION-WALLPLANE SPACE; LOCATION-FLOORPLANE SPACE; COMMA; FULL STOP; SEMICOLON; COLON;
    PARENTHESIS; FILL MODIFIER-2; FILL MODIFIER-3; FILL MODIFIER-4; FILL MODIFIER-5;
    FILL MODIFIER-6"⟩,
  ⟨"SIGNWRITING HAND-CURLICUE", "OPEN; INDEX RING LITTLE ON; MIDDLE RING LITTLE ON"⟩,
  ⟨"SIGNWRITING HAND-HINGE INDEX", "
    MIDDLE RING; MIDDLE RING CONJOINED; MIDDLE LITTLE; RING LITTLE; HINGED; THUMB SIDE; THUMB OPEN;
    THUMB LARGE; THUMB; THUMB SMALL"⟩,
  ⟨"SIGNWRITING HAND-ANGLE INDEX", "
    MIDDLE RING; MIDDLE LITTLE; RING LITTLE OUT; RING LITTLE; THUMB OUT; THUMB IN; THUMB"⟩,
  ⟨"SIGNWRITING HAND-FIST LITTLE", "
    DOWN; DOWN RIPPLE STRAIGHT; DOWN RIPPLE CURVED; DOWN OTHERS CIRCLED; UP; RAISED KNUCKLE; BENT;
    TOUCHES THUMB; THUMB; INDEX THUMB; INDEX"⟩,
  ⟨"SIGNWRITING HAND-FIST RING", "
    DOWN; UP; RAISED KNUCKLE; LITTLE; MIDDLE; MIDDLE CONJOINED; MIDDLE RAISED KNUCKLES; INDEX;
    THUMB"⟩,
  ⟨"SIGNWRITING HAND-HOOK INDEX RING LITTLE", "OUT; IN; UNDER"⟩,
  ⟨"SIGNWRITING HAND-HOOK MIDDLE RING LITTLE", "CONJOINED OUT; CONJOINED IN; CONJOINED"⟩,
  ⟨"SIGNWRITING SQUEEZE, SIGNWRITING FLICK", "
    LARGE SINGLE; SMALL SINGLE; LARGE MULTIPLE; SMALL MULTIPLE; SEQUENTIAL"⟩,
  ⟨"SIGNWRITING SQUEEZE", "FLICK ALTERNATING"⟩,
  ⟨"SIGNWRITING MOVEMENT-HINGE", "
    UP DOWN LARGE; UP DOWN SMALL; UP SEQUENTIAL; DOWN SEQUENTIAL; UP DOWN ALTERNATING LARGE;
    UP DOWN ALTERNATING SMALL; SIDE TO SIDE SCISSORS"⟩,
  ⟨"SIGNWRITING MOVEMENT-WALLPLANE, SIGNWRITING MOVEMENT-FLOORPLANE", "
    FINGER CONTACT; SINGLE WRIST FLEX; DOUBLE STRAIGHT; DOUBLE WRIST FLEX; DOUBLE ALTERNATING;
    DOUBLE ALTERNATING WRIST FLEX; CROSS; TRIPLE STRAIGHT MOVEMENT; TRIPLE WRIST FLEX;
    TRIPLE ALTERNATING WRIST FLEX; CORNER SMALL; CORNER MEDIUM; CORNER LARGE; BOX SMALL; BOX MEDIUM;
    BOX LARGE; ZIGZAG SMALL; ZIGZAG MEDIUM; ZIGZAG LARGE; PEAKS SMALL; PEAKS MEDIUM; PEAKS LARGE;
    HUMP SMALL; LOOP SMALL; JAW"⟩,
  ⟨"SIGNWRITING MOVEMENT-WALLPLANE SINGLE STRAIGHT,
    SIGNWRITING MOVEMENT-FLOORPLANE SINGLE STRAIGHT", "
    SMALL; MEDIUM; LARGE; LARGEST"⟩,
  ⟨"SIGNWRITING MOVEMENT-WALLPLANE", "
    TRIPLE ALTERNATING; BEND SMALL; BEND MEDIUM; BEND LARGE; CORNER ROTATION; CHECK SMALL;
    CHECK MEDIUM; CHECK LARGE; HUMP MEDIUM; HUMP LARGE; LOOP MEDIUM; LOOP LARGE; LOOP SMALL DOUBLE;
    CURVED CROSS SMALL; CURVED CROSS MEDIUM; SHAKING; HUMP HITTING FRONT WALL;
    LOOP HITTING FRONT WALL; WAVE HITTING FRONT WALL; HUMP HITTING CHEST; LOOP HITTING CHEST;
    WAVE HITTING CHEST; WAVE DIAGONAL PATH SMALL; WAVE DIAGONAL PATH MEDIUM;
    WAVE DIAGONAL PATH LARGE; ARM CIRCLE SMALL SINGLE; ARM CIRCLE MEDIUM SINGLE;
    ARM CIRCLE SMALL DOUBLE; ARM CIRCLE MEDIUM DOUBLE; WRIST CIRCLE FRONT SINGLE;
    WRIST CIRCLE FRONT DOUBLE; FINGER CIRCLES SINGLE; FINGER CIRCLES DOUBLE"⟩,
  ⟨"SIGNWRITING TRAVEL-WALLPLANE ROTATION-WALLPLANE,
    SIGNWRITING TRAVEL-WALLPLANE ROTATION-FLOORPLANE,
    SIGNWRITING TRAVEL-FLOORPLANE ROTATION-FLOORPLANE,
    SIGNWRITING TRAVEL-FLOORPLANE ROTATION-WALLPLANE", "
    SINGLE; DOUBLE; ALTERNATING"⟩,
  ⟨"SIGNWRITING TRAVEL-WALLPLANE ARM SPIRAL", "SINGLE; DOUBLE; TRIPLE"⟩,
  ⟨"SIGNWRITING MOVEMENT-DIAGONAL, SIGNWRITING MOVEMENT-DIAGONAL BETWEEN", "
    AWAY SMALL; AWAY MEDIUM; AWAY LARGE; AWAY LARGEST; TOWARDS SMALL; TOWARDS MEDIUM; TOWARDS LARGE;
    TOWARDS LARGEST"⟩,
  ⟨"SIGNWRITING MOVEMENT-FLOORPLANE", "
    TRIPLE ALTERNATING MOVEMENT; BEND; CHECK; WAVE HITTING CEILING SMALL;
    WAVE HITTING CEILING LARGE; WAVE HITTING FLOOR SMALL; WAVE HITTING FLOOR LARGE; WAVE SNAKE;
    WAVE SMALL; WAVE LARGE; SHAKING PARALLEL; WRIST CIRCLE HITTING WALL SINGLE;
    WRIST CIRCLE HITTING WALL DOUBLE; FINGER CIRCLES HITTING WALL SINGLE;
    FINGER CIRCLES HITTING WALL DOUBLE"⟩,
  ⟨"SIGNWRITING MOVEMENT-WALLPLANE CURVE", "
    QUARTER SMALL; QUARTER MEDIUM; QUARTER LARGE; QUARTER LARGEST; HALF-CIRCLE SMALL;
    HALF-CIRCLE MEDIUM; HALF-CIRCLE LARGE; HALF-CIRCLE LARGEST; THREE-QUARTER CIRCLE SMALL;
    THREE-QUARTER CIRCLE MEDIUM; THEN STRAIGHT; HITTING FRONT WALL; HITTING CHEST"⟩,
  ⟨"SIGNWRITING MOVEMENT-WALLPLANE WAVE CURVE", "
    DOUBLE SMALL; DOUBLE MEDIUM; DOUBLE LARGE; TRIPLE SMALL; TRIPLE MEDIUM; TRIPLE LARGE"⟩,
  ⟨"SIGNWRITING ROTATION-WALLPLANE", "
    SINGLE; DOUBLE; ALTERNATE; SINGLE HITTING FRONT WALL; DOUBLE HITTING FRONT WALL;
    ALTERNATING HITTING FRONT WALL; SINGLE HITTING CHEST; DOUBLE HITTING CHEST;
    ALTERNATING HITTING CHEST"⟩,
  ⟨"SIGNWRITING MOVEMENT-FLOORPLANE CURVE", "
    HITTING CEILING SMALL; HITTING CEILING LARGE; HITTING FLOOR SMALL; HITTING FLOOR LARGE; SMALL;
    MEDIUM; LARGE; LARGEST; COMBINED"⟩,
  ⟨"SIGNWRITING MOVEMENT-FLOORPLANE HUMP HITTING", "
    CEILING SMALL DOUBLE; CEILING LARGE DOUBLE; CEILING SMALL TRIPLE; CEILING LARGE TRIPLE;
    FLOOR SMALL DOUBLE; FLOOR LARGE DOUBLE; FLOOR TRIPLE SMALL TRIPLE; FLOOR TRIPLE LARGE TRIPLE"⟩,
  ⟨"SIGNWRITING MOVEMENT-FLOORPLANE LOOP HITTING", "
    CEILING SMALL SINGLE; CEILING LARGE SINGLE; CEILING SMALL DOUBLE; CEILING LARGE DOUBLE;
    FLOOR SMALL SINGLE; FLOOR LARGE SINGLE; FLOOR SMALL DOUBLE; FLOOR LARGE DOUBLE"⟩,
  ⟨"SIGNWRITING ROTATION-FLOORPLANE", "
    SINGLE HITTING CEILING; DOUBLE HITTING CEILING; ALTERNATING HITTING CEILING;
    SINGLE HITTING FLOOR; DOUBLE HITTING FLOOR; ALTERNATING HITTING FLOOR; SINGLE; DOUBLE;
    ALTERNATING"⟩,
  ⟨"SIGNWRITING MOVEMENT-FLOORPLANE ARM CIRCLE HITTING WALL", "
    SMALL SINGLE; MEDIUM SINGLE; LARGE SINGLE; SMALL DOUBLE; MEDIUM DOUBLE; LARGE DOUBLE"⟩,
  ⟨"SIGNWRITING DYNAMIC", "
    ARROWHEAD SMALL; ARROWHEAD LARGE; FAST; SLOW; TENSE; RELAXED; SIMULTANEOUS;
    SIMULTANEOUS ALTERNATING; EVERY OTHER TIME; GRADUAL"⟩,
  ⟨"SIGNWRITING HEAD MOVEMENT-WALLPLANE", "STRAIGHT; TILT; CURVE"⟩,
  ⟨"SIGNWRITING HEAD MOVEMENT-FLOORPLANE", "STRAIGHT; CURVE"⟩,
  ⟨"SIGNWRITING FACE DIRECTION POSITION NOSE", "FORWARD TILTING; UP OR DOWN; UP OR DOWN TILTING"⟩,
  ⟨"SIGNWRITING EYEBROWS STRAIGHT", "UP; NEUTRAL; DOWN"⟩,
  ⟨"SIGNWRITING DREAMY EYEBROWS", "NEUTRAL DOWN; DOWN NEUTRAL; UP NEUTRAL; NEUTRAL UP"⟩,
  ⟨"SIGNWRITING EYES", "
    OPEN; SQUEEZED; CLOSED; HALF OPEN; WIDE OPEN; HALF CLOSED; WIDENING MOVEMENT"⟩,
  ⟨"SIGNWRITING EYEGAZE-WALLPLANE, SIGNWRITING EYEGAZE-FLOORPLANE", "
    STRAIGHT; STRAIGHT DOUBLE; STRAIGHT ALTERNATING; CURVED"⟩,
  ⟨"SIGNWRITING EYEGAZE-WALLPLANE", "CIRCLING"⟩,
  ⟨"SIGNWRITING TENSE CHEEKS", "HIGH; MIDDLE; LOW"⟩,
  ⟨"SIGNWRITING MOUTH", "
    CLOSED NEUTRAL; CLOSED FORWARD; CLOSED CONTACT; SMILE; SMILE WRINKLED; SMILE OPEN; FROWN;
    FROWN WRINKLED; FROWN OPEN; KISS; KISS FORWARD; KISS WRINKLED; TENSE; TENSE FORWARD;
    TENSE SUCKED; CORNERS; WRINKLES SINGLE; WRINKLES DOUBLE"⟩,
  ⟨"SIGNWRITING MOUTH OPEN", "
    CIRCLE; FORWARD; WRINKLED; OVAL; OVAL WRINKLED; OVAL YAWN; RECTANGLE; RECTANGLE WRINKLED;
    RECTANGLE YAWN"⟩,
  ⟨"SIGNWRITING TONGUE", "
    STICKING OUT FAR; LICKING LIPS; TIP BETWEEN LIPS; TIP TOUCHING INSIDE MOUTH;
    INSIDE MOUTH RELAXED; MOVES AGAINST CHEEK; CENTRE STICKING OUT; CENTRE INSIDE MOUTH"⟩,
  ⟨"SIGNWRITING TEETH", "
    MOVEMENT; ON TONGUE; ON TONGUE MOVEMENT; ON LIPS; ON LIPS MOVEMENT; BITE LIPS"⟩,
  ⟨"SIGNWRITING LIMB", "
    COMBINATION; LENGTH-1; LENGTH-2; LENGTH-3; LENGTH-4; LENGTH-5; LENGTH-6; LENGTH-7"⟩,
  ⟨"SIGNWRITING LOCATION", "HEIGHT; WIDTH; DEPTH; HEAD NECK; TORSO; LIMBS DIGITS"⟩,
  ⟨"SIGNWRITING ROTATION", "
    MODIFIER-2; MODIFIER-3; MODIFIER-4; MODIFIER-5; MODIFIER-6; MODIFIER-7; MODIFIER-8; MODIFIER-9;
    MODIFIER-10; MODIFIER-11; MODIFIER-12; MODIFIER-13; MODIFIER-14; MODIFIER-15; MODIFIER-16"⟩]

end FixFirst.Text
