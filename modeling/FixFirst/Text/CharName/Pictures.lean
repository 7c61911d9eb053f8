import FixFirst.Text.CharName.Group

/-!
# Names of pictures

The names of the characters for tiles, cards, faces and other pictures.
-/

namespace FixFirst.Text

/-- Names of pictures. -/
def pictureNames : List NameGroup := [
  ⟨"MAHJONG TILE", "
    EAST WIND; SOUTH WIND; WEST WIND; NORTH WIND; RED DRAGON; GREEN DRAGON; WHITE DRAGON;
    ONE OF CHARACTERS; TWO OF CHARACTERS; THREE OF CHARACTERS; FOUR OF CHARACTERS;
    FIVE OF CHARACTERS; SIX OF CHARACTERS; SEVEN OF CHARACTERS; EIGHT OF CHARACTERS;
    NINE OF CHARACTERS; ONE OF BAMBOOS; TWO OF BAMBOOS; THREE OF BAMBOOS; FOUR OF BAMBOOS;
    FIVE OF BAMBOOS; SIX OF BAMBOOS; SEVEN OF BAMBOOS; EIGHT OF BAMBOOS; NINE OF BAMBOOS;
    ONE OF CIRCLES; TWO OF CIRCLES; THREE OF CIRCLES; FOUR OF CIRCLES; FIVE OF CIRCLES;
    SIX OF CIRCLES; SEVEN OF CIRCLES; EIGHT OF CIRCLES; NINE OF CIRCLES; PLUM; ORCHID; BAMBOO;
    CHRYSANTHEMUM; SPRING; SUMMER; AUTUMN; WINTER; JOKER; BACK"⟩,
  ⟨"DOMINO TILE", "
    HORIZONTAL BACK; HORIZONTAL-00-00; HORIZONTAL-00-01; HORIZONTAL-00-02; HORIZONTAL-00-03;
    HORIZONTAL-00-04; HORIZONTAL-00-05; HORIZONTAL-00-06; HORIZONTAL-01-00; HORIZONTAL-01-01;
    HORIZONTAL-01-02; HORIZONTAL-01-03; HORIZONTAL-01-04; HORIZONTAL-01-05; HORIZONTAL-01-06;
    HORIZONTAL-02-00; HORIZONTAL-02-01; HORIZONTAL-02-02; HORIZONTAL-02-03; HORIZONTAL-02-04;
    HORIZONTAL-02-05; HORIZONTAL-02-06; HORIZONTAL-03-00; HORIZONTAL-03-01; HORIZONTAL-03-02;
    HORIZONTAL-03-03; HORIZONTAL-03-04; HORIZONTAL-03-05; HORIZONTAL-03-06; HORIZONTAL-04-00;
    HORIZONTAL-04-01; HORIZONTAL-04-02; HORIZONTAL-04-03; HORIZONTAL-04-04; HORIZONTAL-04-05;
    HORIZONTAL-04-06; HORIZONTAL-05-00; HORIZONTAL-05-01; HORIZONTAL-05-02; HORIZONTAL-05-03;
    HORIZONTAL-05-04; HORIZONTAL-05-05; HORIZONTAL-05-06; HORIZONTAL-06-00; HORIZONTAL-06-01;
    HORIZONTAL-06-02; HORIZONTAL-06-03; HORIZONTAL-06-04; HORIZONTAL-06-05; HORIZONTAL-06-06;
    VERTICAL BACK; VERTICAL-00-00; VERTICAL-00-01; VERTICAL-00-02; VERTICAL-00-03; VERTICAL-00-04;
    VERTICAL-00-05; VERTICAL-00-06; VERTICAL-01-00; VERTICAL-01-01; VERTICAL-01-02; VERTICAL-01-03;
    VERTICAL-01-04; VERTICAL-01-05; VERTICAL-01-06; VERTICAL-02-00; VERTICAL-02-01; VERTICAL-02-02;
    VERTICAL-02-03; VERTICAL-02-04; VERTICAL-02-05; VERTICAL-02-06; VERTICAL-03-00; VERTICAL-03-01;
    VERTICAL-03-02; VERTICAL-03-03; VERTICAL-03-04; VERTICAL-03-05; VERTICAL-03-06; VERTICAL-04-00;
    VERTICAL-04-01; VERTICAL-04-02; VERTICAL-04-03; VERTICAL-04-04; VERTICAL-04-05; VERTICAL-04-06;
    VERTICAL-05-00; VERTICAL-05-01; VERTICAL-05-02; VERTICAL-05-03; VERTICAL-05-04; VERTICAL-05-05;
    VERTICAL-05-06; VERTICAL-06-00; VERTICAL-06-01; VERTICAL-06-02; VERTICAL-06-03; VERTICAL-06-04;
    VERTICAL-06-05; VERTICAL-06-06"⟩,
  ⟨"PLAYING CARD", "
    BACK; ACE OF SPADES; TWO OF SPADES; SIX OF SPADES; TEN OF SPADES; ACE OF HEARTS; TWO OF HEARTS;
    SIX OF HEARTS; TEN OF HEARTS; RED JOKER; ACE OF DIAMONDS; TWO OF DIAMONDS; SIX OF DIAMONDS;
    TEN OF DIAMONDS; BLACK JOKER; ACE OF CLUBS; TWO OF CLUBS; SIX OF CLUBS; TEN OF CLUBS;
    WHITE JOKER; FOOL; TRUMP-1; TRUMP-2; TRUMP-3; TRUMP-4; TRUMP-5; TRUMP-6; TRUMP-7; TRUMP-8;
    TRUMP-9; TRUMP-10; TRUMP-11; TRUMP-12; TRUMP-13; TRUMP-14; TRUMP-15; TRUMP-16; TRUMP-17;
    TRUMP-18; TRUMP-19; TRUMP-20; TRUMP-21"⟩,
  ⟨"PLAYING CARD THREE OF, PLAYING CARD FOUR OF, PLAYING CARD FIVE OF, PLAYING CARD SEVEN OF,
    PLAYING CARD EIGHT OF, PLAYING CARD NINE OF, PLAYING CARD JACK OF, PLAYING CARD KNIGHT OF,
    PLAYING CARD QUEEN OF, PLAYING CARD KING OF", "
    SPADES; HEARTS; DIAMONDS; CLUBS"⟩,
  ⟨"", "
    CYCLONE; FOGGY; NIGHT WITH STARS; SUNRISE OVER MOUNTAINS; SUNRISE; CITYSCAPE AT DUSK;
    SUNSET OVER BUILDINGS; RAINBOW; BRIDGE AT NIGHT; VOLCANO; MILKY WAY; GLOBE WITH MERIDIANS;
    NEW MOON SYMBOL; WAXING CRESCENT MOON SYMBOL; WAXING GIBBOUS MOON SYMBOL; FULL MOON SYMBOL;
    WANING GIBBOUS MOON SYMBOL; WANING CRESCENT MOON SYMBOL; CRESCENT MOON; NEW MOON WITH FACE;
    FULL MOON WITH FACE; SUN WITH FACE; GLOWING STAR; SHOOTING STAR; THERMOMETER; FOG;
    WIND BLOWING FACE; HOT DOG; TACO; BURRITO; CHESTNUT; SEEDLING; EVERGREEN TREE; DECIDUOUS TREE;
    PALM TREE; CACTUS; HOT PEPPER; TULIP; CHERRY BLOSSOM; ROSE; HIBISCUS; SUNFLOWER; BLOSSOM;
    EAR OF MAIZE; EAR OF RICE; HERB; FOUR LEAF CLOVER; MAPLE LEAF; FALLEN LEAF;
    LEAF FLUTTERING IN WIND; MUSHROOM; TOMATO; AUBERGINE; GRAPES; MELON; WATERMELON; TANGERINE;
    LEMON; BANANA; PINEAPPLE; RED APPLE; PEAR; PEACH; CHERRIES; STRAWBERRY; HAMBURGER;
    SLICE OF PIZZA; MEAT ON BONE; POULTRY LEG; RICE CRACKER; RICE BALL; COOKED RICE; CURRY AND RICE;
    STEAMING BOWL; SPAGHETTI; BREAD; FRENCH FRIES; ROASTED SWEET POTATO; DANGO; ODEN; SUSHI;
    FRIED SHRIMP; FISH CAKE WITH SWIRL DESIGN; SOFT ICE CREAM; SHAVED ICE; ICE CREAM; DOUGHNUT;
    COOKIE; CHOCOLATE BAR; CANDY; LOLLIPOP; CUSTARD; HONEY POT; SHORTCAKE; BENTO BOX; POT OF FOOD;
    COOKING; FORK AND KNIFE; TEACUP WITHOUT HANDLE; SAKE BOTTLE AND CUP; WINE GLASS; COCKTAIL GLASS;
    TROPICAL DRINK; BEER MUG; CLINKING BEER MUGS; FORK AND KNIFE WITH PLATE;
    BOTTLE WITH POPPING CORK; POPCORN; RIBBON; WRAPPED PRESENT; BIRTHDAY CAKE; JACK-O-LANTERN;
    CHRISTMAS TREE; FATHER CHRISTMAS; FIREWORKS; FIREWORK SPARKLER; BALLOON; PARTY POPPER;
    CONFETTI BALL; TANABATA TREE; CROSSED FLAGS; PINE DECORATION; CARP STREAMER; WIND CHIME;
    MOON VIEWING CEREMONY; SCHOOL SATCHEL; GRADUATION CAP; BOUQUET OF FLOWERS; MILITARY MEDAL;
    REMINDER RIBBON; STUDIO MICROPHONE; LEVEL SLIDER; CONTROL KNOBS; BEAMED ASCENDING MUSICAL NOTES;
    BEAMED DESCENDING MUSICAL NOTES; FILM FRAMES; ADMISSION TICKETS; CAROUSEL HORSE; FERRIS WHEEL;
    ROLLER COASTER; FISHING POLE AND FISH; MICROPHONE; MOVIE CAMERA; CINEMA; HEADPHONE;
    ARTIST PALETTE; TOP HAT; CIRCUS TENT; TICKET; CLAPPER BOARD; PERFORMING ARTS; VIDEO GAME;
    DIRECT HIT; SLOT MACHINE; BILLIARDS; GAME DIE; BOWLING; FLOWER PLAYING CARDS;
    MULTIPLE MUSICAL NOTES; SAXOPHONE; GUITAR; TRUMPET; VIOLIN; RUNNING SHIRT WITH SASH;
    TENNIS RACQUET AND BALL; SKI AND SKI BOOT; BASKETBALL AND HOOP; CHEQUERED FLAG; SNOWBOARDER;
    RUNNER; SURFER; SPORTS MEDAL; TROPHY; HORSE RACING; AMERICAN FOOTBALL; RUGBY FOOTBALL; SWIMMER;
    WEIGHT LIFTER; GOLFER; RACING MOTORCYCLE; RACING CAR; CRICKET BAT AND BALL; VOLLEYBALL;
    FIELD HOCKEY STICK AND BALL; ICE HOCKEY STICK AND PUCK; TABLE TENNIS PADDLE AND BALL;
    SNOW CAPPED MOUNTAIN; CAMPING; BEACH WITH UMBRELLA; BUILDING CONSTRUCTION; CITYSCAPE;
    DERELICT HOUSE BUILDING; CLASSICAL BUILDING; DESERT; DESERT ISLAND; NATIONAL PARK; STADIUM;
    OFFICE BUILDING; EUROPEAN POST OFFICE; HOSPITAL; BANK; AUTOMATED TELLER MACHINE; HOTEL;
    LOVE HOTEL; CONVENIENCE STORE; SCHOOL; DEPARTMENT STORE; FACTORY; IZAKAYA LANTERN;
    EUROPEAN CASTLE; ROSETTE; LABEL; BADMINTON RACQUET AND SHUTTLECOCK; BOW AND ARROW; AMPHORA; RAT;
    MOUSE; OX; COW; TIGER; LEOPARD; RABBIT; CAT; DRAGON; CROCODILE; WHALE; SNAIL; SNAKE; HORSE; RAM;
    GOAT; SHEEP; MONKEY; ROOSTER; CHICKEN; DOG; PIG; BOAR; ELEPHANT; OCTOPUS; BUG; ANT; HONEYBEE;
    LADY BEETLE; FISH; TROPICAL FISH; BLOWFISH; TURTLE; HATCHING CHICK; FRONT-FACING BABY CHICK;
    BIRD; PENGUIN; KOALA; POODLE; DROMEDARY CAMEL; BACTRIAN CAMEL; DOLPHIN; MOUSE FACE; COW FACE;
    TIGER FACE; RABBIT FACE; CAT FACE; DRAGON FACE; SPOUTING WHALE; HORSE FACE; MONKEY FACE;
    DOG FACE; PIG FACE; FROG FACE; HAMSTER FACE; WOLF FACE; BEAR FACE; PANDA FACE; PIG NOSE;
    PAW PRINTS; CHIPMUNK; EYES; EYE; EAR; NOSE; MOUTH; TONGUE; FISTED HAND SIGN; OK HAND SIGN;
    THUMBS UP SIGN; THUMBS DOWN SIGN; CLAPPING HANDS SIGN; CROWN; EYEGLASSES; NECKTIE; T-SHIRT;
    JEANS; DRESS; KIMONO; BIKINI; PURSE; HANDBAG; POUCH; MANS SHOE; ATHLETIC SHOE; HIGH-HEELED SHOE;
    FOOTPRINTS; BUST IN SILHOUETTE; BUSTS IN SILHOUETTE; BOY; GIRL; MAN; WOMAN; FAMILY;
    WOMAN WITH BUNNY EARS; BRIDE WITH VEIL; BABY; PRINCESS; GHOST; EXTRATERRESTRIAL ALIEN;
    ALIEN MONSTER; IMP; SKULL; INFORMATION DESK PERSON; GUARDSMAN; DANCER; LIPSTICK; NAIL POLISH;
    HAIRCUT; BARBER POLE; SYRINGE; PILL; KISS MARK; LOVE LETTER; RING; GEM STONE; KISS; BOUQUET;
    COUPLE WITH HEART; WEDDING; BEATING HEART; BROKEN HEART; SPARKLING HEART; GROWING HEART;
    BLUE HEART; YELLOW HEART; PURPLE HEART; REVOLVING HEARTS; DIAMOND SHAPE WITH A DOT INSIDE;
    ANGER SYMBOL; BOMB; COLLISION SYMBOL; SPLASHING SWEAT SYMBOL; DROPLET; DASH SYMBOL; PILE OF POO;
    FLEXED BICEPS; DIZZY SYMBOL; SPEECH BALLOON; THOUGHT BALLOON; HUNDRED POINTS SYMBOL; MONEY BAG;
    CURRENCY EXCHANGE; CREDIT CARD; MONEY WITH WINGS; SEAT; PERSONAL COMPUTER; BRIEFCASE; MINIDISC;
    FLOPPY DISK; OPTICAL DISC; DVD; FILE FOLDER; PAGE WITH CURL; PAGE FACING UP; CALENDAR;
    TEAR-OFF CALENDAR; CARD INDEX; BAR CHART; CLIPBOARD; PUSHPIN; ROUND PUSHPIN; PAPERCLIP;
    STRAIGHT RULER; BOOKMARK TABS; LEDGER; NOTEBOOK; NOTEBOOK WITH DECORATIVE COVER; BLUE BOOK;
    ORANGE BOOK; BOOKS; NAME BADGE; SCROLL; MEMO; PAGER; FAX MACHINE; SATELLITE ANTENNA;
    PUBLIC ADDRESS LOUDSPEAKER; CHEERING MEGAPHONE; OUTBOX TRAY; INBOX TRAY; PACKAGE; E-MAIL SYMBOL;
    INCOMING ENVELOPE; POSTBOX; POSTAL HORN; NEWSPAPER; VIBRATION MODE; ANTENNA WITH BARS; CAMERA;
    CAMERA WITH FLASH; VIDEO CAMERA; TELEVISION; RADIO; VIDEOCASSETTE; FILM PROJECTOR;
    PORTABLE STEREO; PRAYER BEADS; TWISTED RIGHTWARDS ARROWS;
    CLOCKWISE DOWNWARDS AND UPWARDS OPEN CIRCLE ARROWS;
    ANTICLOCKWISE DOWNWARDS AND UPWARDS OPEN CIRCLE ARROWS; LOW BRIGHTNESS SYMBOL;
    HIGH BRIGHTNESS SYMBOL; SPEAKER; BATTERY; LEFT-POINTING MAGNIFYING GLASS;
    RIGHT-POINTING MAGNIFYING GLASS; LOCK WITH INK PEN; KEY; LOCK; BELL;
    BELL WITH CANCELLATION STROKE; BOOKMARK; LINK SYMBOL; RADIO BUTTON;
    BACK WITH LEFTWARDS ARROW ABOVE; END WITH LEFTWARDS ARROW ABOVE;
    ON WITH EXCLAMATION MARK WITH LEFT RIGHT ARROW ABOVE; SOON WITH RIGHTWARDS ARROW ABOVE;
    TOP WITH UPWARDS ARROW ABOVE; KEYCAP TEN; FIRE; WRENCH; HAMMER; NUT AND BOLT; HOCHO; PISTOL;
    MICROSCOPE; TELESCOPE; CRYSTAL BALL; TRIDENT EMBLEM; CROSS POMMEE WITH HALF-CIRCLE BELOW;
    CROSS POMMEE; NOTCHED LEFT SEMICIRCLE WITH THREE DOTS; NOTCHED RIGHT SEMICIRCLE WITH THREE DOTS;
    SYMBOL FOR MARKS CHAPTER; CELTIC CROSS; OM SYMBOL; DOVE OF PEACE; KAABA; MOSQUE; SYNAGOGUE;
    MENORAH WITH NINE BRANCHES; BOWL OF HYGIEIA; BULLHORN; BULLHORN WITH SOUND WAVES; RINGING BELL;
    BOOK; CANDLE; MANTELPIECE CLOCK; HOLE; SLEUTH OR SPY; DARK SUNGLASSES; SPIDER; SPIDER WEB;
    JOYSTICK; CLAMSHELL MOBILE PHONE; BACK OF ENVELOPE; STAMPED ENVELOPE; PEN OVER STAMPED ENVELOPE;
    LINKED PAPERCLIPS; DESKTOP COMPUTER; KEYBOARD AND MOUSE; PRINTER; POCKET CALCULATOR;
    SOFT SHELL FLOPPY DISK; TAPE CARTRIDGE; WIRED KEYBOARD; ONE BUTTON MOUSE; TRACKBALL;
    OLD PERSONAL COMPUTER; HARD DISK; SCREEN; PRINTER ICON; FAX ICON; OPTICAL DISC ICON; FOLDER;
    CARD INDEX DIVIDERS; CARD FILE BOX; FILE CABINET; NOTE; NOTE PAGE; NOTE PAD; DOCUMENT; PAGE;
    PAGES; WASTEBASKET; DESKTOP WINDOW; MINIMIZE; MAXIMIZE; OVERLAP;
    CLOCKWISE RIGHT AND LEFT SEMICIRCLE ARROWS; CANCELLATION X; INCREASE FONT SIZE SYMBOL;
    DECREASE FONT SIZE SYMBOL; COMPRESSION; OLD KEY; ROLLED-UP NEWSPAPER; PAGE WITH CIRCLED TEXT;
    STOCK CHART; DAGGER KNIFE; LIPS; SPEAKING HEAD IN SILHOUETTE; MOOD BUBBLE;
    LIGHTNING MOOD BUBBLE; LIGHTNING MOOD; BALLOT SCRIPT X; BALLOT BOLD SCRIPT X; WORLD MAP;
    MOUNT FUJI; TOKYO TOWER; STATUE OF LIBERTY; SILHOUETTE OF JAPAN; MOYAI; GRINNING FACE;
    WINKING FACE; RELIEVED FACE; SMIRKING FACE; NEUTRAL FACE; EXPRESSIONLESS FACE; UNAMUSED FACE;
    PENSIVE FACE; CONFUSED FACE; CONFOUNDED FACE; WORRIED FACE; ANGRY FACE; POUTING FACE;
    CRYING FACE; PERSEVERING FACE; FROWNING FACE WITH OPEN MOUTH; ANGUISHED FACE; FEARFUL FACE;
    WEARY FACE; SLEEPY FACE; TIRED FACE; GRIMACING FACE; LOUDLY CRYING FACE; HUSHED FACE;
    ASTONISHED FACE; FLUSHED FACE; DIZZY FACE; GRINNING CAT FACE WITH SMILING EYES;
    POUTING CAT FACE; CRYING CAT FACE; WEARY CAT FACE; SLIGHTLY FROWNING FACE;
    SLIGHTLY SMILING FACE; UPSIDE-DOWN FACE; SEE-NO-EVIL MONKEY; HEAR-NO-EVIL MONKEY;
    SPEAK-NO-EVIL MONKEY; HAPPY PERSON RAISING ONE HAND; SCRIPT LIGATURE ET ORNAMENT;
    LIGATURE OPEN ET ORNAMENT; SWASH AMPERSAND ORNAMENT; SANS-SERIF INTERROBANG ORNAMENT;
    CHECKER BOARD; REVERSE CHECKER BOARD; ROCKET; HELICOPTER; STEAM LOCOMOTIVE; RAILWAY CAR; TRAIN;
    METRO; STATION; TRAM; TRAM CAR; BUS; TROLLEYBUS; BUS STOP; MINIBUS; AMBULANCE; FIRE ENGINE;
    TAXI; AUTOMOBILE; RECREATIONAL VEHICLE; DELIVERY TRUCK; ARTICULATED LORRY; TRACTOR; MONORAIL;
    SUSPENSION RAILWAY; AERIAL TRAMWAY; SHIP; ROWBOAT; SPEEDBOAT; HORIZONTAL TRAFFIC LIGHT;
    VERTICAL TRAFFIC LIGHT; DOOR; SMOKING SYMBOL; PUT LITTER IN ITS PLACE SYMBOL;
    DO NOT LITTER SYMBOL; POTABLE WATER SYMBOL; NON-POTABLE WATER SYMBOL; BICYCLE; BICYCLIST;
    PEDESTRIAN; CHILDREN CROSSING; MENS SYMBOL; WOMENS SYMBOL; RESTROOM; TOILET; SHOWER; BATH;
    BATHTUB; PASSPORT CONTROL; CUSTOMS; BAGGAGE CLAIM; TRIANGLE WITH ROUNDED CORNERS;
    PROHIBITED SIGN; BOYS SYMBOL; GIRLS SYMBOL; COUCH AND LAMP; SHOPPING BAGS; BELLHOP BELL; BED;
    PLACE OF WORSHIP; OCTAGONAL SIGN; SHOPPING TROLLEY; STUPA; PAGODA; HINDU TEMPLE; HUT; ELEVATOR;
    PLAYGROUND SLIDE; WHEEL; RING BUOY; HAMMER AND WRENCH; SHIELD; OIL DRUM; MOTORWAY;
    RAILWAY TRACK; MOTOR BOAT; NORTHEAST-POINTING AIRPLANE; AIRPLANE DEPARTURE; AIRPLANE ARRIVING;
    SATELLITE; DIESEL LOCOMOTIVE; PASSENGER SHIP; SCOOTER; MOTOR SCOOTER; CANOE; SLED; SKATEBOARD;
    AUTO RICKSHAW; PICKUP TRUCK; ROLLER SKATE; ROUND TARGET; SQUARE TARGET; DIAMOND TARGET;
    THIN GREEK CROSS; VERY BOLD GREEK CROSS; THIN SALTIRE; FOUR POINTED BLACK STAR;
    REVERSE LIGHT FOUR POINTED PINWHEEL STAR; NORTH WEST SANS-SERIF ARROW;
    NORTH EAST SANS-SERIF ARROW; SOUTH EAST SANS-SERIF ARROW; SOUTH WEST SANS-SERIF ARROW;
    UP DOWN SANS-SERIF ARROW; PINCHED FINGERS; BROWN HEART; PINCHING HAND; ZIPPER-MOUTH FACE;
    MONEY-MOUTH FACE; NERD FACE; THINKING FACE; ROBOT FACE; HUGGING FACE; SIGN OF THE HORNS;
    CALL ME HAND; RAISED BACK OF HAND; LEFT-FACING FIST; RIGHT-FACING FIST; HANDSHAKE;
    I LOVE YOU HAND SIGN; CLOWN FACE; NAUSEATED FACE; ROLLING ON THE FLOOR LAUGHING; DROOLING FACE;
    LYING FACE; SNEEZING FACE; SERIOUS FACE WITH SYMBOLS COVERING MOUTH;
    SHOCKED FACE WITH EXPLODING HEAD; BREAST-FEEDING; PALMS UP TOGETHER; SELFIE; PRINCE;
    MOTHER CHRISTMAS; SHRUG; JUGGLING; FENCER; MODERN PENTATHLON; WRESTLERS; HANDBALL; DIVING MASK;
    WILTED FLOWER; DRUM WITH DRUMSTICKS; CLINKING GLASSES; TUMBLER GLASS; SPOON; GOAL NET; RIFLE;
    FIRST PLACE MEDAL; SECOND PLACE MEDAL; THIRD PLACE MEDAL; BOXING GLOVE; MARTIAL ARTS UNIFORM;
    CURLING STONE; LACROSSE STICK AND BALL; SOFTBALL; CROISSANT; AVOCADO; CUCUMBER; BACON; POTATO;
    CARROT; BAGUETTE BREAD; SHALLOW PAN OF FOOD; STUFFED FLATBREAD; EGG; GLASS OF MILK; PEANUTS;
    KIWIFRUIT; PANCAKES; DUMPLING; FORTUNE COOKIE; TAKEOUT BOX; CHOPSTICKS; BOWL WITH SPOON;
    CUP WITH STRAW; COCONUT; BROCCOLI; PIE; PRETZEL; CUT OF MEAT; SANDWICH; CANNED FOOD;
    LEAFY GREEN; MANGO; MOON CAKE; BAGEL; YAWNING FACE; OVERHEATED FACE; FREEZING FACE; NINJA;
    DISGUISED FACE; SARI; LAB COAT; GOGGLES; HIKING BOOT; FLAT SHOE; CRAB; LION FACE; SCORPION;
    TURKEY; UNICORN FACE; EAGLE; DUCK; BAT; SHARK; OWL; FOX FACE; BUTTERFLY; DEER; GORILLA; LIZARD;
    RHINOCEROS; SHRIMP; SQUID; GIRAFFE FACE; ZEBRA FACE; HEDGEHOG; SAUROPOD; T-REX; CRICKET;
    KANGAROO; LLAMA; PEACOCK; HIPPOPOTAMUS; PARROT; RACCOON; LOBSTER; MOSQUITO; MICROBE; BADGER;
    SWAN; MAMMOTH; DODO; SLOTH; OTTER; ORANGUTAN; SKUNK; FLAMINGO; OYSTER; BEAVER; BISON; SEAL;
    GUIDE DOG; PROBING CANE; BONE; LEG; FOOT; TOOTH; SUPERHERO; SUPERVILLAIN; SAFETY VEST;
    EAR WITH HEARING AID; MOTORIZED WHEELCHAIR; MANUAL WHEELCHAIR; CHEESE WEDGE; CUPCAKE;
    SALT SHAKER; BEVERAGE BOX; GARLIC; ONION; FALAFEL; WAFFLE; BUTTER; MATE DRINK; ICE CUBE;
    BUBBLE TEA; TROLL; STANDING PERSON; KNEELING PERSON; DEAF PERSON; ADULT; CHILD; BEARDED PERSON;
    MAGE; FAIRY; VAMPIRE; MERPERSON; ELF; GENIE; ZOMBIE; BRAIN; ORANGE HEART; BILLED CAP; SCARF;
    GLOVES; COAT; SOCKS; RED GIFT ENVELOPE; FIRECRACKER; JIGSAW PUZZLE PIECE; TEST TUBE; PETRI DISH;
    DNA DOUBLE HELIX; COMPASS; ABACUS; FIRE EXTINGUISHER; TOOLBOX; BRICK; MAGNET; LUGGAGE;
    LOTION BOTTLE; SPOOL OF THREAD; BALL OF YARN; SAFETY PIN; TEDDY BEAR; BROOM; BASKET;
    ROLL OF PAPER; BAR OF SOAP; SPONGE; RECEIPT; NAZAR AMULET; BALLET SHOES; ONE-PIECE SWIMSUIT;
    BRIEFS; SHORTS; THONG SANDAL; DROP OF BLOOD; ADHESIVE BANDAGE; STETHOSCOPE; X-RAY; CRUTCH;
    YO-YO; KITE; PARACHUTE; BOOMERANG; MAGIC WAND; PINATA; NESTING DOLLS; RINGED PLANET; CHAIR;
    RAZOR; AXE; DIYA LAMP; BANJO; MILITARY HELMET; ACCORDION; LONG DRUM; COIN; CARPENTRY SAW;
    SCREWDRIVER; LADDER; HOOK; MIRROR; WINDOW; PLUNGER; SEWING NEEDLE; KNOT; BUCKET; MOUSE TRAP;
    TOOTHBRUSH; HEADSTONE; PLACARD; ROCK; MIRROR BALL; IDENTIFICATION CARD; LOW BATTERY; HAMSA; FLY;
    WORM; BEETLE; COCKROACH; POTTED PLANT; WOOD; FEATHER; LOTUS; CORAL; NEST WITH EGGS;
    ANATOMICAL HEART; LUNGS; PEOPLE HUGGING; BLUEBERRIES; BELL PEPPER; OLIVE; FLATBREAD; TAMALE;
    FONDUE; TEAPOT; POURING LIQUID; BEANS; JAR; MELTING FACE; SALUTING FACE; DOTTED LINE FACE;
    BITING LIP; BUBBLES; PALM DOWN HAND; PALM UP HAND; INDEX POINTING AT THE VIEWER;
    CHECKER BOARD FILL; ARROWHEAD-SHAPED POINTER; VOIDED GREEK CROSS;
    MIDDLE THIRD WHITE RIGHT POINTING INDEX; STICK FIGURE"⟩,
  ⟨"CLOSED", "UMBRELLA; LOCK WITH KEY"⟩,
  ⟨"WATER", "WAVE; BUFFALO; CLOSET; POLO"⟩,
  ⟨"EARTH GLOBE", "EUROPE-AFRICA; AMERICAS; ASIA-AUSTRALIA"⟩,
  ⟨"FIRST QUARTER MOON, LAST QUARTER MOON", "SYMBOL; WITH FACE"⟩,
  ⟨"BLACK", "
    DROPLET; ROSETTE; SKULL AND CROSSBONES; PUSHPIN; FOLDER; LEFT-POINTING ISOSCELES RIGHT TRIANGLE;
    UP-POINTING ISOSCELES RIGHT TRIANGLE; RIGHT-POINTING ISOSCELES RIGHT TRIANGLE;
    DOWN-POINTING ISOSCELES RIGHT TRIANGLE; SLIGHTLY SMALL CIRCLE; TINY SQUARE;
    SLIGHTLY SMALL SQUARE; TINY DIAMOND; VERY SMALL DIAMOND; MEDIUM SMALL DIAMOND; TINY LOZENGE;
    VERY SMALL LOZENGE; MEDIUM SMALL LOZENGE"⟩,
  ⟨"WHITE", "
    SUN; SUN WITH SMALL CLOUD; SUN BEHIND CLOUD; SUN BEHIND CLOUD WITH RAIN; FLOWER; LATIN CROSS;
    DOWN POINTING LEFT HAND INDEX; CIRCLE CONTAINING BLACK SMALL CIRCLE;
    LOZENGE CONTAINING BLACK SMALL LOZENGE; HEAVY SALTIRE WITH ROUNDED CORNERS;
    UP-POINTING CHEVRON"⟩,
  ⟨"CLOUD WITH", "RAIN; SNOW; LIGHTNING; TORNADO"⟩,
  ⟨"GREEN", "APPLE; HEART; BOOK; SALAD"⟩,
  ⟨"BABY", "BOTTLE; CHICK; ANGEL; SYMBOL"⟩,
  ⟨"JAPANESE", "DOLLS; POST OFFICE; CASTLE; OGRE; GOBLIN; SYMBOL FOR BEGINNER"⟩,
  ⟨"HEART", "WITH TIP ON THE LEFT; WITH ARROW; WITH RIBBON; DECORATION; HANDS"⟩,
  ⟨"MUSICAL", "KEYBOARD WITH JACKS; NOTE; KEYBOARD; SCORE"⟩,
  ⟨"HOUSE", "BUILDINGS; BUILDING; WITH GARDEN"⟩,
  ⟨"WHITE, BLACK", "
    PENNANT; UP POINTING BACKHAND INDEX; DOWN POINTING BACKHAND INDEX; LEFT POINTING BACKHAND INDEX;
    RIGHT POINTING BACKHAND INDEX; SQUARE BUTTON; TOUCHTONE TELEPHONE; HARD SHELL FLOPPY DISK;
    HEART"⟩,
  ⟨"WAVING", "WHITE FLAG; BLACK FLAG; HAND SIGN"⟩,
  ⟨"EMOJI MODIFIER FITZPATRICK", "TYPE-1-2; TYPE-3; TYPE-4; TYPE-5; TYPE-6"⟩,
  ⟨"SPIRAL", "SHELL; NOTE PAD; CALENDAR PAD"⟩,
  ⟨"OPEN", "HANDS SIGN; FILE FOLDER; LOCK; FOLDER"⟩,
  ⟨"WOMANS", "HAT; CLOTHES; SANDAL; BOOTS"⟩,
  ⟨"MAN", "
    AND WOMAN HOLDING HANDS; WITH GUA PI MAO; WITH TURBAN; IN BUSINESS SUIT LEVITATING; DANCING;
    IN TUXEDO"⟩,
  ⟨"TWO", "MEN HOLDING HANDS; WOMEN HOLDING HANDS; HEARTS; BUTTON MOUSE; SPEECH BUBBLES"⟩,
  ⟨"POLICE", "OFFICER; CAR; CARS REVOLVING LIGHT"⟩,
  ⟨"PERSON WITH", "BLOND HAIR; POUTING FACE; FOLDED HANDS; HEADSCARF; CROWN"⟩,
  ⟨"OLDER", "MAN; WOMAN; ADULT"⟩,
  ⟨"CONSTRUCTION", "WORKER; SIGN"⟩,
  ⟨"FACE", "
    MASSAGE; SAVOURING DELICIOUS FOOD; THROWING A KISS; SCREAMING IN FEAR; WITHOUT MOUTH; PALM;
    HOLDING BACK TEARS"⟩,
  ⟨"ELECTRIC", "LIGHT BULB; PLUG; TORCH"⟩,
  ⟨"SLEEPING", "SYMBOL; FACE; ACCOMMODATION"⟩,
  ⟨"HEAVY", "
    DOLLAR SIGN; LATIN CROSS; SCRIPT LIGATURE ET ORNAMENT; LIGATURE OPEN ET ORNAMENT;
    AMPERSAND ORNAMENT; INTERROBANG ORNAMENT; SANS-SERIF INTERROBANG ORNAMENT; WHITE CIRCLE;
    EIGHT POINTED PINWHEEL STAR; TWELVE POINTED PINWHEEL STAR; EQUALS SIGN; HORIZONTAL FILL"⟩,
  ⟨"BANKNOTE WITH", "YEN SIGN; DOLLAR SIGN; EURO SIGN; POUND SIGN"⟩,
  ⟨"CHART WITH", "UPWARDS TREND AND YEN SIGN; UPWARDS TREND; DOWNWARDS TREND"⟩,
  ⟨"TRIANGULAR", "RULER; FLAG ON POST"⟩,
  ⟨"CLOSED, OPEN", "BOOK; MAILBOX WITH LOWERED FLAG; MAILBOX WITH RAISED FLAG"⟩,
  ⟨"TELEPHONE", "RECEIVER; RECEIVER WITH PAGE; ON TOP OF MODEM"⟩,
  ⟨"ENVELOPE WITH", "DOWNWARDS ARROW ABOVE; LIGHTNING"⟩,
  ⟨"MOBILE", "PHONE; PHONE WITH RIGHTWARDS ARROW AT LEFT; PHONE OFF"⟩,
  ⟨"NO", "
    MOBILE PHONES; ONE UNDER EIGHTEEN SYMBOL; PIRACY; ENTRY SIGN; SMOKING SYMBOL; BICYCLES;
    PEDESTRIANS"⟩,
  ⟨"CLOCKWISE RIGHTWARDS AND LEFTWARDS OPEN CIRCLE", "ARROWS; ARROWS WITH CIRCLED ONE OVERLAY"⟩,
  ⟨"SPEAKER WITH", "CANCELLATION STROKE; ONE SOUND WAVE; THREE SOUND WAVES"⟩,
  ⟨"INPUT SYMBOL FOR", "
    LATIN CAPITAL LETTERS; LATIN SMALL LETTERS; NUMBERS; SYMBOLS; LATIN LETTERS"⟩,
  ⟨"SIX POINTED", "STAR WITH MIDDLE DOT; PINWHEEL STAR"⟩,
  ⟨"LARGE", "
    RED CIRCLE; BLUE CIRCLE; ORANGE DIAMOND; BLUE DIAMOND; ORANGE CIRCLE; YELLOW CIRCLE;
    GREEN CIRCLE; PURPLE CIRCLE; BROWN CIRCLE; RED SQUARE; BLUE SQUARE; ORANGE SQUARE;
    YELLOW SQUARE; GREEN SQUARE; PURPLE SQUARE; BROWN SQUARE"⟩,
  ⟨"SMALL", "ORANGE DIAMOND; BLUE DIAMOND; AIRPLANE"⟩,
  ⟨"UP-POINTING", "RED TRIANGLE; SMALL RED TRIANGLE; MILITARY AIRPLANE; AIRPLANE; SMALL AIRPLANE"⟩,
  ⟨"DOWN-POINTING", "RED TRIANGLE; SMALL RED TRIANGLE"⟩,
  ⟨"LOWER, UPPER", "RIGHT SHADOWED WHITE CIRCLE; RIGHT TRIANGULAR MEDIUM SHADE"⟩,
  ⟨"CIRCLED", "
    CROSS POMMEE; INFORMATION SOURCE; TRIANGLE; SQUARE; CROSS FORMEE WITH FOUR DOTS;
    CROSS FORMEE WITH TWO DOTS; CROSS FORMEE"⟩,
  ⟨"CLOCK FACE", "
    ONE OCLOCK; TWO OCLOCK; THREE OCLOCK; FOUR OCLOCK; FIVE OCLOCK; SIX OCLOCK; SEVEN OCLOCK;
    EIGHT OCLOCK; NINE OCLOCK; TEN OCLOCK; ELEVEN OCLOCK; TWELVE OCLOCK; ONE-THIRTY; TWO-THIRTY;
    THREE-THIRTY; FOUR-THIRTY; FIVE-THIRTY; SIX-THIRTY; SEVEN-THIRTY; EIGHT-THIRTY; NINE-THIRTY;
    TEN-THIRTY; ELEVEN-THIRTY; TWELVE-THIRTY"⟩,
  ⟨"RIGHT", "
    SPEAKER; SPEAKER WITH ONE SOUND WAVE; SPEAKER WITH THREE SOUND WAVES;
    AND UPPER ONE EIGHTH BLOCK; HALF RUNNING MAN; HALF FOLDER; OPEN SQUARED DOT"⟩,
  ⟨"LEFT, RIGHT", "
    HAND TELEPHONE RECEIVER; SPEECH BUBBLE; THOUGHT BUBBLE; ANGER BUBBLE;
    THIRD WHITE RIGHT POINTING INDEX"⟩,
  ⟨"FLYING", "ENVELOPE; SAUCER; DISC"⟩,
  ⟨"LOWER LEFT", "
    PENCIL; BALLPOINT PEN; FOUNTAIN PEN; PAINTBRUSH; CRAYON; TRIANGULAR MEDIUM SHADE"⟩,
  ⟨"LEFT", "WRITING HAND; LUGGAGE; RIGHT SANS-SERIF ARROW; TRIANGULAR ONE QUARTER BLOCK"⟩,
  ⟨"TURNED", "
    OK HAND SIGN; NORTH WEST POINTING LEAF; SOUTH WEST POINTING LEAF; NORTH EAST POINTING LEAF;
    SOUTH EAST POINTING LEAF"⟩,
  ⟨"RAISED HAND WITH", "FINGERS SPLAYED; PART BETWEEN MIDDLE AND RING FINGERS"⟩,
  ⟨"REVERSED", "
    RAISED HAND WITH FINGERS SPLAYED; THUMBS UP SIGN; THUMBS DOWN SIGN; VICTORY HAND;
    HAND WITH MIDDLE FINGER EXTENDED"⟩,
  ⟨"SIDEWAYS WHITE, SIDEWAYS BLACK", "
    LEFT POINTING INDEX; RIGHT POINTING INDEX; UP POINTING INDEX; DOWN POINTING INDEX"⟩,
  ⟨"THREE", "
    NETWORKED COMPUTERS; BUTTON MOUSE; RAYS ABOVE; RAYS BELOW; RAYS LEFT; RAYS RIGHT;
    SPEECH BUBBLES; POINTED BLACK STAR"⟩,
  ⟨"DOCUMENT WITH", "TEXT; TEXT AND PICTURE; PICTURE"⟩,
  ⟨"FRAME WITH", "PICTURE; TILES; AN X"⟩,
  ⟨"EMPTY", "NOTE; NOTE PAGE; NOTE PAD; DOCUMENT; PAGE; PAGES; NEST"⟩,
  ⟨"BALLOT BOX WITH", "BALLOT; SCRIPT X; BOLD SCRIPT X; BOLD CHECK"⟩,
  ⟨"LIGHT", "CHECK MARK; RAIL"⟩,
  ⟨"GRINNING FACE WITH", "SMILING EYES; STAR EYES; ONE LARGE AND ONE SMALL EYE"⟩,
  ⟨"FACE WITH", "
    TEARS OF JOY; COLD SWEAT; STUCK-OUT TONGUE; LOOK OF TRIUMPH; OPEN MOUTH;
    OPEN MOUTH AND COLD SWEAT; MEDICAL MASK; ROLLING EYES; NO GOOD GESTURE; OK GESTURE; THERMOMETER;
    HEAD-BANDAGE; COWBOY HAT; ONE EYEBROW RAISED; FINGER COVERING CLOSED LIPS; OPEN MOUTH VOMITING;
    PARTY HORN AND PARTY HAT; UNEVEN EYES AND WAVY MOUTH; PLEADING EYES; MONOCLE;
    OPEN EYES AND HAND OVER MOUTH; PEEKING EYE; DIAGONAL MOUTH"⟩,
  ⟨"SMILING FACE WITH", "
    OPEN MOUTH; HALO; HORNS; SMILING EYES; HEART-SHAPED EYES; SUNGLASSES;
    SMILING EYES AND HAND COVERING MOUTH; SMILING EYES AND THREE HEARTS; TEAR"⟩,
  ⟨"SMILING FACE WITH OPEN MOUTH AND", "SMILING EYES; COLD SWEAT; TIGHTLY-CLOSED EYES"⟩,
  ⟨"KISSING", "FACE; FACE WITH SMILING EYES; FACE WITH CLOSED EYES; CAT FACE WITH CLOSED EYES"⟩,
  ⟨"FACE WITH STUCK-OUT TONGUE AND", "WINKING EYE; TIGHTLY-CLOSED EYES"⟩,
  ⟨"DISAPPOINTED", "FACE; BUT RELIEVED FACE"⟩,
  ⟨"CAT FACE WITH", "TEARS OF JOY; WRY SMILE"⟩,
  ⟨"SMILING CAT FACE WITH", "OPEN MOUTH; HEART-SHAPED EYES"⟩,
  ⟨"PERSON", "
    BOWING DEEPLY; RAISING BOTH HANDS IN CELEBRATION; FROWNING; DOING CARTWHEEL; IN STEAMY ROOM;
    CLIMBING; IN LOTUS POSITION"⟩,
  ⟨"NORTH WEST POINTING, SOUTH WEST POINTING, NORTH EAST POINTING, SOUTH EAST POINTING", "
    LEAF; VINE LEAF; BUD"⟩,
  ⟨"HEAVY NORTH WEST POINTING, HEAVY SOUTH WEST POINTING, HEAVY NORTH EAST POINTING,
    HEAVY SOUTH EAST POINTING", "
    VINE LEAF; BUD"⟩,
  ⟨"HOLLOW QUILT SQUARE, SOLID QUILT SQUARE", "ORNAMENT; ORNAMENT IN BLACK SQUARE"⟩,
  ⟨"LEFTWARDS, UPWARDS, RIGHTWARDS, DOWNWARDS", "
    ROCKET; FINGER-POST ARROW; SQUARED ARROW; COMPRESSED ARROW; HEAVY COMPRESSED ARROW; HEAVY ARROW;
    SANS-SERIF ARROW; TRIANGLE ARROWHEAD; WHITE ARROW WITHIN TRIANGLE ARROWHEAD"⟩,
  ⟨"SANS-SERIF HEAVY", "
    DOUBLE TURNED COMMA QUOTATION MARK ORNAMENT; DOUBLE COMMA QUOTATION MARK ORNAMENT;
    LOW DOUBLE COMMA QUOTATION MARK ORNAMENT"⟩,
  ⟨"VERY HEAVY", "SOLIDUS; REVERSE SOLIDUS; EIGHT POINTED BLACK STAR"⟩,
  ⟨"HIGH-SPEED", "TRAIN; TRAIN WITH BULLET NOSE"⟩,
  ⟨"ONCOMING", "BUS; POLICE CAR; TAXI; AUTOMOBILE; FIRE ENGINE"⟩,
  ⟨"MOUNTAIN", "RAILWAY; CABLEWAY; BICYCLIST"⟩,
  ⟨"ALCHEMICAL SYMBOL FOR", "
    QUINTESSENCE; AIR; FIRE; EARTH; WATER; AQUAFORTIS; AQUA REGIA; AQUA REGIA-2; AQUA VITAE;
    AQUA VITAE-2; VINEGAR; VINEGAR-2; VINEGAR-3; SULFUR; PHILOSOPHERS SULFUR; BLACK SULFUR;
    MERCURY SUBLIMATE; MERCURY SUBLIMATE-2; MERCURY SUBLIMATE-3; CINNABAR; SALT; NITRE; VITRIOL;
    VITRIOL-2; ROCK SALT; ROCK SALT-2; GOLD; SILVER; IRON ORE; IRON ORE-2; CROCUS OF IRON;
    REGULUS OF IRON; COPPER ORE; IRON-COPPER ORE; CROCUS OF COPPER; CROCUS OF COPPER-2;
    COPPER ANTIMONIATE; SALT OF COPPER ANTIMONIATE; VERDIGRIS; TIN ORE; LEAD ORE; ANTIMONY ORE;
    SALT OF ANTIMONY; VINEGAR OF ANTIMONY; REGULUS OF ANTIMONY; REGULUS OF ANTIMONY-2; REGULUS;
    REGULUS-2; REGULUS-3; REGULUS-4; ALKALI; ALKALI-2; MARCASITE; SAL-AMMONIAC; ARSENIC; REALGAR;
    REALGAR-2; AURIPIGMENT; BISMUTH ORE; TARTAR; TARTAR-2; QUICK LIME; BORAX; BORAX-2; BORAX-3;
    ALUM; OIL; SPIRIT; TINCTURE; GUM; WAX; POWDER; CALX; TUTTY; CAPUT MORTUUM; SCEPTER OF JOVE;
    CADUCEUS; TRIDENT; STARRED TRIDENT; LODESTONE; SOAP; URINE; HORSE DUNG; ASHES; POT ASHES; BRICK;
    POWDERED BRICK; AMALGAM; STRATUM SUPER STRATUM; STRATUM SUPER STRATUM-2; SUBLIMATION;
    PRECIPITATE; DISTILL; DISSOLVE; DISSOLVE-2; PURIFY; PUTREFACTION; CRUCIBLE; CRUCIBLE-2;
    CRUCIBLE-3; CRUCIBLE-4; CRUCIBLE-5; ALEMBIC; BATH OF MARY; BATH OF VAPOURS; RETORT; HOUR; NIGHT;
    DAY-NIGHT; MONTH; HALF DRAM; HALF OUNCE"⟩,
  ⟨"ALCHEMICAL SYMBOL FOR SUBLIMATE OF", "COPPER; SALT OF COPPER; ANTIMONY; SALT OF ANTIMONY"⟩,
  ⟨"MEDIUM", "BOLD WHITE CIRCLE; THREE POINTED PINWHEEL STAR; FOUR POINTED PINWHEEL STAR"⟩,
  ⟨"BOLD, VERY HEAVY, EXTREMELY HEAVY", "
    WHITE CIRCLE; WHITE SQUARE; GREEK CROSS; SALTIRE; FIVE SPOKED ASTERISK; SIX SPOKED ASTERISK"⟩,
  ⟨"LIGHT, MEDIUM, HEAVY", "
    WHITE SQUARE; SALTIRE; FIVE SPOKED ASTERISK; SIX SPOKED ASTERISK; EIGHT SPOKED ASTERISK"⟩,
  ⟨"WHITE SQUARE CONTAINING BLACK", "VERY SMALL SQUARE; MEDIUM SQUARE"⟩,
  ⟨"WHITE DIAMOND CONTAINING BLACK", "VERY SMALL DIAMOND; MEDIUM DIAMOND"⟩,
  ⟨"LIGHT, MEDIUM", "GREEK CROSS; THREE POINTED BLACK STAR; FOUR POINTED BLACK STAR"⟩,
  ⟨"BOLD, VERY HEAVY", "EIGHT SPOKED ASTERISK"⟩,
  ⟨"LIGHT, HEAVY", "FIVE POINTED BLACK STAR; TWELVE POINTED BLACK STAR"⟩,
  ⟨"MEDIUM, HEAVY", "SIX POINTED BLACK STAR; EIGHT POINTED BLACK STAR"⟩,
  ⟨"NEGATIVE", "
    CIRCLED TRIANGLE; CIRCLED SQUARE; DIAGONAL CROSS; DIAGONAL MIDDLE RIGHT TO LOWER CENTRE;
    DIAGONAL DIAMOND; SQUARED QUESTION MARK"⟩,
  ⟨"LEFTWARDS ARROW WITH, UPWARDS ARROW WITH, RIGHTWARDS ARROW WITH, DOWNWARDS ARROW WITH", "
    SMALL TRIANGLE ARROWHEAD; MEDIUM TRIANGLE ARROWHEAD; LARGE TRIANGLE ARROWHEAD;
    SMALL EQUILATERAL ARROWHEAD; EQUILATERAL ARROWHEAD; NOTCHED TAIL"⟩,
  ⟨"HEAVY LEFTWARDS ARROW WITH, HEAVY UPWARDS ARROW WITH, HEAVY RIGHTWARDS ARROW WITH,
    HEAVY DOWNWARDS ARROW WITH", "
    EQUILATERAL ARROWHEAD; LARGE EQUILATERAL ARROWHEAD"⟩,
  ⟨"LEFTWARDS TRIANGLE-HEADED ARROW WITH, UPWARDS TRIANGLE-HEADED ARROW WITH,
    RIGHTWARDS TRIANGLE-HEADED ARROW WITH, DOWNWARDS TRIANGLE-HEADED ARROW WITH", "
    NARROW SHAFT; MEDIUM SHAFT; BOLD SHAFT; HEAVY SHAFT; VERY HEAVY SHAFT"⟩,
  ⟨"WIDE-HEADED LEFTWARDS, WIDE-HEADED UPWARDS, WIDE-HEADED RIGHTWARDS, WIDE-HEADED DOWNWARDS,
    WIDE-HEADED NORTH WEST, WIDE-HEADED NORTH EAST, WIDE-HEADED SOUTH EAST,
    WIDE-HEADED SOUTH WEST", "
    LIGHT BARB ARROW; BARB ARROW; MEDIUM BARB ARROW; HEAVY BARB ARROW; VERY HEAVY BARB ARROW"⟩,
  ⟨"HEAVY ARROW SHAFT WIDTH", "ONE; TWO THIRDS; ONE HALF; ONE THIRD"⟩,
  ⟨"LEFTWARDS", "BOTTOM-SHADED WHITE ARROW"⟩,
  ⟨"RIGHTWARDS", "BOTTOM SHADED WHITE ARROW"⟩,
  ⟨"LEFTWARDS, RIGHTWARDS", "
    TOP SHADED WHITE ARROW; LEFT-SHADED WHITE ARROW; RIGHT-SHADED WHITE ARROW;
    BACK-TILTED SHADOWED WHITE ARROW; FRONT-TILTED SHADOWED WHITE ARROW; HAND;
    ARROW AND UPPER AND LOWER ONE EIGHTH BLOCK"⟩,
  ⟨"WHITE ARROW SHAFT WIDTH", "ONE; TWO THIRDS"⟩,
  ⟨"ARROW POINTING", "UPWARDS THEN NORTH WEST; RIGHTWARDS THEN CURVING SOUTH WEST"⟩,
  ⟨"LEFT HALF CIRCLE WITH", "FOUR DOTS; THREE DOTS; TWO DOTS; DOT"⟩,
  ⟨"LEFT HALF", "
    CIRCLE; MEDIUM SHADE; INVERSE MEDIUM SHADE AND RIGHT HALF BLOCK; RUNNING MAN; FOLDER"⟩,
  ⟨"DOWNWARD FACING", "HOOK; NOTCHED HOOK; HOOK WITH DOT; NOTCHED HOOK WITH DOT"⟩,
  ⟨"HAND WITH INDEX", "AND MIDDLE FINGERS CROSSED; FINGER AND THUMB CROSSED"⟩,
  ⟨"PREGNANT", "WOMAN; MAN; PERSON"⟩,
  ⟨"EMOJI COMPONENT", "RED HAIR; CURLY HAIR; BALD; WHITE HAIR"⟩,
  ⟨"MECHANICAL", "ARM; LEG"⟩,
  ⟨"NEUTRAL CHESS, WHITE CHESS TURNED, BLACK CHESS TURNED, NEUTRAL CHESS TURNED", "
    KING; QUEEN; ROOK; BISHOP; KNIGHT; PAWN"⟩,
  ⟨"WHITE CHESS KNIGHT ROTATED, BLACK CHESS KNIGHT ROTATED, NEUTRAL CHESS KNIGHT ROTATED", "
    FORTY-FIVE DEGREES; NINETY DEGREES; ONE HUNDRED THIRTY-FIVE DEGREES;
    TWO HUNDRED TWENTY-FIVE DEGREES; TWO HUNDRED SEVENTY DEGREES; THREE HUNDRED FIFTEEN DEGREES"⟩,
  ⟨"WHITE CHESS, BLACK CHESS, NEUTRAL CHESS", "
    KING ROTATED NINETY DEGREES; QUEEN ROTATED NINETY DEGREES; ROOK ROTATED NINETY DEGREES;
    BISHOP ROTATED NINETY DEGREES; PAWN ROTATED NINETY DEGREES;
    KING ROTATED TWO HUNDRED SEVENTY DEGREES; QUEEN ROTATED TWO HUNDRED SEVENTY DEGREES;
    ROOK ROTATED TWO HUNDRED SEVENTY DEGREES; BISHOP ROTATED TWO HUNDRED SEVENTY DEGREES;
    PAWN ROTATED TWO HUNDRED SEVENTY DEGREES; EQUIHOPPER; EQUIHOPPER ROTATED NINETY DEGREES"⟩,
  ⟨"WHITE CHESS, BLACK CHESS", "KNIGHT-QUEEN; KNIGHT-ROOK; KNIGHT-BISHOP"⟩,
  ⟨"XIANGQI RED, XIANGQI BLACK", "GENERAL; MANDARIN; ELEPHANT; HORSE; CHARIOT; CANNON; SOLDIER"⟩,
  ⟨"BLOCK", "
    SEXTANT-1; SEXTANT-2; SEXTANT-12; SEXTANT-3; SEXTANT-13; SEXTANT-23; SEXTANT-123; SEXTANT-4;
    SEXTANT-14; SEXTANT-24; SEXTANT-124; SEXTANT-34; SEXTANT-134; SEXTANT-234; SEXTANT-1234;
    SEXTANT-5; SEXTANT-15; SEXTANT-25; SEXTANT-125; SEXTANT-35; SEXTANT-235; SEXTANT-1235;
    SEXTANT-45; SEXTANT-145; SEXTANT-245; SEXTANT-1245; SEXTANT-345; SEXTANT-1345; SEXTANT-2345;
    SEXTANT-12345; SEXTANT-6; SEXTANT-16; SEXTANT-26; SEXTANT-126; SEXTANT-36; SEXTANT-136;
    SEXTANT-236; SEXTANT-1236; SEXTANT-46; SEXTANT-146; SEXTANT-1246; SEXTANT-346; SEXTANT-1346;
    SEXTANT-2346; SEXTANT-12346; SEXTANT-56; SEXTANT-156; SEXTANT-256; SEXTANT-1256; SEXTANT-356;
    SEXTANT-1356; SEXTANT-2356; SEXTANT-12356; SEXTANT-456; SEXTANT-1456; SEXTANT-2456;
    SEXTANT-12456; SEXTANT-3456; SEXTANT-13456; SEXTANT-23456"⟩,
  ⟨"LOWER LEFT BLOCK DIAGONAL LOWER MIDDLE LEFT TO LOWER,
    LOWER RIGHT BLOCK DIAGONAL UPPER MIDDLE LEFT TO UPPER,
    UPPER RIGHT BLOCK DIAGONAL LOWER MIDDLE LEFT TO LOWER,
    UPPER LEFT BLOCK DIAGONAL UPPER MIDDLE LEFT TO UPPER", "
    CENTRE; RIGHT"⟩,
  ⟨"LOWER LEFT BLOCK DIAGONAL UPPER, UPPER RIGHT BLOCK DIAGONAL UPPER", "
    MIDDLE LEFT TO LOWER CENTRE; MIDDLE LEFT TO LOWER RIGHT; LEFT TO LOWER CENTRE;
    CENTRE TO UPPER MIDDLE RIGHT; LEFT TO UPPER MIDDLE RIGHT; CENTRE TO LOWER MIDDLE RIGHT;
    LEFT TO LOWER MIDDLE RIGHT; CENTRE TO LOWER RIGHT; MIDDLE LEFT TO LOWER MIDDLE RIGHT"⟩,
  ⟨"LOWER RIGHT BLOCK DIAGONAL LOWER, UPPER LEFT BLOCK DIAGONAL LOWER", "
    MIDDLE LEFT TO UPPER CENTRE; MIDDLE LEFT TO UPPER RIGHT; LEFT TO UPPER CENTRE;
    MIDDLE LEFT TO UPPER MIDDLE RIGHT; CENTRE TO LOWER MIDDLE RIGHT; LEFT TO LOWER MIDDLE RIGHT;
    CENTRE TO UPPER MIDDLE RIGHT; LEFT TO UPPER MIDDLE RIGHT; CENTRE TO UPPER RIGHT"⟩,
  ⟨"UPPER", "
    AND RIGHT AND LOWER TRIANGULAR THREE QUARTERS BLOCK;
    AND LEFT AND LOWER TRIANGULAR THREE QUARTERS BLOCK;
    HALF BLOCK AND LOWER HALF INVERSE MEDIUM SHADE; HALF INVERSE MEDIUM SHADE AND LOWER HALF BLOCK;
    LEFT TO LOWER RIGHT FILL; RIGHT TO LOWER LEFT FILL; AND LOWER TRIANGULAR HALF BLOCK;
    LEFT TRIANGULAR MEDIUM SHADE"⟩,
  ⟨"LEFT AND", "
    LOWER AND RIGHT TRIANGULAR THREE QUARTERS BLOCK;
    UPPER AND RIGHT TRIANGULAR THREE QUARTERS BLOCK; LOWER ONE EIGHTH BLOCK; UPPER ONE EIGHTH BLOCK;
    RIGHT TRIANGULAR HALF BLOCK"⟩,
  ⟨"UPPER, RIGHT, LOWER", "TRIANGULAR ONE QUARTER BLOCK; HALF MEDIUM SHADE"⟩,
  ⟨"VERTICAL ONE EIGHTH, HORIZONTAL ONE EIGHTH", "
    BLOCK-2; BLOCK-3; BLOCK-4; BLOCK-5; BLOCK-6; BLOCK-7"⟩,
  ⟨"RIGHT, UPPER", "
    AND LOWER ONE EIGHTH BLOCK; ONE QUARTER BLOCK; THREE EIGHTHS BLOCK; FIVE EIGHTHS BLOCK;
    THREE QUARTERS BLOCK; SEVEN EIGHTHS BLOCK"⟩,
  ⟨"HORIZONTAL ONE EIGHTH", "BLOCK-1358"⟩,
  ⟨"INVERSE", "MEDIUM SHADE; CHECKER BOARD FILL; CHECK MARK; DOWNWARDS ARROW WITH TIP LEFTWARDS"⟩,
  ⟨"BOX DRAWINGS LIGHT DIAGONAL UPPER CENTRE TO MIDDLE", "
    LEFT; RIGHT; LEFT TO LOWER CENTRE; RIGHT TO LOWER CENTRE; LEFT AND MIDDLE RIGHT TO LOWER CENTRE;
    RIGHT AND MIDDLE LEFT TO LOWER CENTRE; RIGHT TO LOWER CENTRE TO MIDDLE LEFT;
    LEFT TO LOWER CENTRE TO MIDDLE RIGHT"⟩,
  ⟨"BOX DRAWINGS LIGHT DIAGONAL MIDDLE", "
    LEFT TO LOWER CENTRE; RIGHT TO LOWER CENTRE; LEFT TO LOWER CENTRE TO MIDDLE RIGHT;
    LEFT TO UPPER CENTRE TO MIDDLE RIGHT; LEFT TO UPPER CENTRE TO MIDDLE RIGHT TO LOWER CENTRE;
    RIGHT TO UPPER CENTRE TO MIDDLE LEFT TO LOWER CENTRE"⟩,
  ⟨"BOX DRAWINGS LIGHT", "DIAGONAL DIAMOND; HORIZONTAL WITH VERTICAL STROKE"⟩,
  ⟨"DOWNWARDS, UPWARDS", "ARROW AND RIGHT ONE EIGHTH BLOCK"⟩,
  ⟨"STICK FIGURE", "WITH ARMS RAISED; LEANING LEFT; LEANING RIGHT; WITH DRESS"⟩,
  ⟨"SEGMENTED DIGIT", "ZERO; ONE; TWO; THREE; FOUR; FIVE; SIX; SEVEN; EIGHT; NINE"⟩]

end FixFirst.Text
