import ModelNav.Text.Basic

/-!
# Names of characters from C to F

Names that begin alike are written once up to where they part.  What may follow stands in brackets,
with commas between.  A list goes on from one line to the next.
-/

namespace ModelNav
namespace Text
namespace CharacterName

/-- The names that begin with a letter from C to F. -/
def cToF : List String := [
  "CACTUS,CADA UNA,CADUCEUS,CALENDAR,CALL ME HAND,CAMERA,CAMERA WITH FLASH,CAMPING,CAN,CANADIAN ",
  "SYLLABICS (A,AA,AAI,AAY,AI,AIVILIK B,AN,ATHAPASCAN (M,S),AY,BEAVER DENE (L,R),BIBLE-CREE Y,",
  "BLACKFOOT (A,E,I,KA,KE,KI,KO,NA,NE,NI,NO,O,S,W,WA,WE,WI,WO),C,CA,CAA,CAAI,CARRIER (CHA,CHE,",
  "CHEE,CHI,CHO,CHU,DEE,DENE GEE,DENTAL S,DI,DLA,DLE,DLEE,DLI,DLO,DLU,DZA,DZE,DZEE,DZI,DZO,DZU,",
  "EE,GA,GAA,GE,GEE,GHA,GHE,GHEE,GHI,GHO,GHU,GI,GO,GU,GWA,GWU,H,HEE,HI,HWA,HWE,HWEE,HWI,HWO,HWU,",
  "I,INITIAL Z,JA,JE,JEE,JI,JJA,JJE,JJEE,JJI,JJO,JJU,JO,JU,JWA,KHA,KHE,KHEE,KHI,KHO,KHU,KK,KKA,",
  "KKE,KKEE,KKI,KKO,KKU,LA,LE,LEE,LHA,LHE,LHEE,LHI,LHO,LHU,LI,LO,LU,MA,ME,MEE,MI,MO,MU,NA,NE,NEE,",
  "NG,NI,NO,NU,P,PA,PE,PEE,PI,PO,PU,RA,RE,REE,RI,RO,RU,SA,SE,SEE,SH,SHA,SHE,SHEE,SHI,SHO,SHU,SI,",
  "SO,SU,THA,THE,THEE,THI,THO,THU,TLA,TLE,TLEE,TLHA,TLHE,TLHEE,TLHI,TLHO,TLHU,TLI,TLO,TLU,TSA,",
  "TSE,TSEE,TSI,TSO,TSU,TTA,TTE,TTEE,TTI,TTO,TTSA,TTSE,TTSEE,TTSI,TTSO,TTSU,TTU,WA,WE,WEE,WI,WO,",
  "WU,YA,YE,YEE,YI,YO,YU,Z,ZA,ZE,ZEE,ZI,ZO,ZU),CE,CHI SIGN,CI,CII,CO,COO,CWA,CWAA,CWE,CWI,CWII,",
  "CWO,CWOO,E,EASTERN W,EN,F,FA,FAA,FAAI,FE,FI,FII,FINAL (ACUTE,BOTTOM HALF RING,DOUBLE (ACUTE,",
  "SHORT VERTICAL STROKES),DOWN TACK,GRAVE,MIDDLE DOT,PLUS,RAISED DOT,RIGHT HALF RING,RING,SHORT ",
  "HORIZONTAL STROKE,SMALL RING,TOP HALF RING),FO,FOO,FULL STOP,FWAA,GLOTTAL STOP,HK,HYPHEN,I,II,",
  "IN,K,KA,KAA,KAAI,KAY,KE,KI,KII,KO,KOO,KW,KWA,KWAA,KWAY,KWE,KWI,KWII,KWO,KWOO,L,LA,LAA,LAAI,",
  "LAY,LE,LH,LHA,LHAA,LHI,LHII,LHO,LHOO,LI,LII,LO,LOO,LWA,LWAA,LWE,LWI,LWII,LWO,LWOO,M,MA,MAA,",
  "MAAI,MAY,ME,MEDIAL (L,R),MH,MI,MII,MO,MOO,MOOSE-CREE SK,MWA,MWAA,MWE,MWI,MWII,MWO,MWOO,N,N-",
  "CREE (THE,THI,THII),NA,NAA,NAAI,NASKAPI (CWAA,KWAA,MWAA,NWAA,S-W,SCWA,SKW,SKWA,SPWA,STWA,SWAA,",
  "TWAA,WAA,WOO,YWAA),NATTILIK (HA,HAA,HI,HII,HO,HOO,SHRA,SHRAA,SHRI,SHRII,SHRO,SHROO),NAY,NE,NG,",
  "NGA,NGAA,NGAAI,NGAI,NGI,NGII,NGO,NGOO,NH,NI,NII,NNG,NNGA,NNGAA,NNGI,NNGII,NNGO,NNGOO,NO,NOO,",
  "NOY,NUNAVIK (H,HA,HAA,HE,HI,HII,HO,HOO),NUNAVUT H,NWA,NWAA,NWE,NWI,NWII,NWO,NWOO,O,OJIBWAY (C,",
  "K,M,N,NWI,NWII,NWO,NWOO,P,S,SH,T),ON,OO,OY,P,PA,PAA,PAAI,PAY,PE,PI,PII,PO,POO,POY,PWA,PWAA,",
  "PWE,PWI,PWII,PWO,PWOO,PWOY,Q,QA,QAA,QAAI,QAI,QI,QII,QO,QOO,R,R-CREE (RE,RWE),RA,RAA,RAAI,RAY,",
  "RE,RI,RII,RO,ROO,RWA,RWAA,RWEE,RWI,RWII,RWO,RWOO,S,SA,SAA,SAAI,SAY,SAYISI (HA,HE,HI,HO,HOO,JI,",
  "JU,JUU,M,SHA,SHE,SHI,SHO,SHOO,SHWE,TH,YI),SE,SH,SHA,SHAA,SHAY,SHE,SHI,SHII,SHO,SHOO,SHOY,SHWA,",
  "SHWAA,SHWE,SHWI,SHWII,SHWO,SHWOO,SHWOY,SI,SII,SO,SOO,SOUTH-SLAVEY (KAH,KEH,KIH,KOH),SOY,SPA,",
  "SPE,SPI,SPO,SW,SWA,SWAA,SWE,SWI,SWII,SWO,SWOO,T,TA,TAA,TAAI,TAY,TE,TH,TH-CREE (TH,THA,THAA,",
  "THE,THI,THII,THO,THOO),THA,THAA,THE,THI,THII,THO,THOO,THWA,THWAA,THWE,TI,TII,TLHA,TLHE,TLHI,",
  "TLHO,TLHOO,TLHWE,TO,TOO,TTA,TTE,TTH,TTHA,TTHAA,TTHE,TTHI,TTHO,TTHOO,TTHWE,TTI,TTO,TWA,TWAA,",
  "TWE,TWI,TWII,TWO,TWOO,TYA,TYE,TYI,TYO,WA,WAA,WAY,WE,WEST-CREE (CWA,CWAA,CWE,CWI,CWII,CWO,CWOO,",
  "FWAA,KWA,KWAA,KWE,KWI,KWII,KWO,KWOO,L,LA,LAA,LE,LO,LOO,LWA,LWAA,LWE,LWI,LWII,LWO,LWOO,M,MWA,",
  "MWAA,MWE,MWI,MWII,MWO,MWOO,NWA,NWAA,NWE,P,PWA,PWAA,PWE,PWI,PWII,PWO,PWOO,R,RA,RE,RI,RO,RWAA,",
  "SHWA,SHWAA,SHWE,SHWI,SHWII,SHWO,SHWOO,SWA,SWAA,SWE,SWI,SWII,SWO,SWOO,THWAA,TWA,TWAA,TWE,TWI,",
  "TWII,TWO,TWOO,WA,WAA,WE,WI,WII,WO,WOO,Y,YWA,YWAA,YWE,YWI,YWII,YWO,YWOO),WESTERN W,WI,WII,WO,",
  "WOO,WOODS-CREE (FINAL TH,TH,THA,THE,THI,THO,THWA,THWAA,THWEE,THWI,THWII,THWO,THWOO),Y,Y-CREE (",
  "COO,KOO,LOO,MOO,NOO,OO,POO,PWAA,SOO,TOO,W,YOO),YA,YAA,YAAI,YAY,YE,YI,YII,YO,YOO,YOY,YWA,YWAA,",
  "YWE,YWI,YWII,YWO,YWOO),CANCEL,CANCEL (CHARACTER,TAG),CANCELLATION X,CANCER,CANDLE,CANDY,",
  "CANNED FOOD,CANOE,CAPITULUM,CAPRICORN,CAR SLIDING,CARD (FILE BOX,INDEX,INDEX DIVIDERS),CARE ",
  "OF,CARET,CARET INSERTION POINT,CARIAN LETTER (A,A2,B,C-(18,39),D,D2,E,E2,G,G2,I,II,K,K2,L,LD,",
  "LD2,M,MB,MB2,MB3,MB4,N,ND,NG,NN,O,P,P2,Q,R,RR,S,SH,SH2,SS,ST,ST2,T,TT,TT2,U,UU,UUU,UUU2,UUU3,",
  "UUUU,X),CARON,CAROUSEL HORSE,CARP STREAMER,CARPENTRY SAW,CARRIAGE RETURN,CARROT,CASTLE,CAT,",
  "CAT (FACE,FACE WITH (TEARS OF JOY,WRY SMILE)),CAUCASIAN ALBANIAN (CITATION MARK,LETTER (ALT,",
  "AOR,BET,CAR,CAYN,CHA,CHAT,CHI,CHOY,CYAW,CYAY,DAT,DYAN,DZAY,DZYAY,EB,EYN,FAM,GHEYS,GIM,HEYT,",
  "INYA,IRB,IWN,JAYN,JHOX,KAR,KIW,LAN,LYIT,MAQ,NOWC,ON,PEN,PIWR,QAR,QAY,RAT,SEYK,SHA,SHAK,SHOY,",
  "TAS,TIWR,TYAY,VEYZ,XEYN,YAYD,YOWD,ZARL,ZHA,ZHIL)),CAUTION SIGN,CCH,CEDI SIGN,CEDILLA,CELTIC ",
  "CROSS,CENT SIGN,CENTRE LINE SYMBOL,CENTRELINE (LOW LINE,OVERLINE),CERES,CGJ,CHAINS,CHAIR,",
  "CHAKMA (AU MARK,DANDA,DIGIT (EIGHT,FIVE,FOUR,NINE,ONE,SEVEN,SIX,THREE,TWO,ZERO),DOUBLE DANDA,",
  "LETTER (AA,BAA,BHAA,CAA,CHAA,DAA,DDAA,DDHAA,DHAA,E,GAA,GHAA,HAA,I,JAA,JHAA,KAA,KHAA,LAA,LHAA,",
  "MAA,NAA,NGAA,NNAA,NYAA,PAA,PHAA,RAA,SAA,TAA,THAA,TTAA,TTHAA,U,VAA,WAA,YAA,YYAA),MAAYYAA,O ",
  "MARK,QUESTION MARK,SECTION MARK,SIGN (ANUSVARA,CANDRABINDU,VISARGA),VIRAMA,VOWEL SIGN (A,AA,",
  "AI,AU,E,EI,I,II,O,OI,U,UU)),CHAM (CONSONANT SIGN (FINAL (H,M,NG),LA,RA,WA,YA),DIGIT (EIGHT,",
  "FIVE,FOUR,NINE,ONE,SEVEN,SIX,THREE,TWO,ZERO),LETTER (A,AI,BA,BBA,BHA,CHA,CHHA,DA,DDA,DHA,E,",
  "FINAL (CH,G,K,L,N,NG,P,R,SS,T,Y),GA,GHA,HA,I,JA,JHA,KA,KHA,LA,MA,MUE,NA,NGA,NGUE,NHA,NHJA,",
  "NHUE,NUE,O,PA,PHA,PPA,RA,SA,SSA,TA,THA,U,VA,YA),PUNCTUATION (DANDA,DOUBLE DANDA,SPIRAL,TRIPLE ",
  "DANDA),VOWEL SIGN (AA,AI,AU,EI,I,II,O,OE,U,UE)),CHARACTER (TABULATION,TABULATION (SET,WITH ",
  "JUSTIFICATION),TIE),CHART WITH (DOWNWARDS TREND,UPWARDS (TREND,TREND AND YEN SIGN)),CHECK ",
  "MARK,CHECKER (BOARD,BOARD FILL),CHEERING MEGAPHONE,CHEESE WEDGE,CHEQUERED FLAG,CHEROKEE (",
  "LETTER (A,DA,DE,DI,DLA,DO,DU,DV,E,GA,GE,GI,GO,GU,GV,HA,HE,HI,HNA,HO,HU,HV,I,KA,LA,LE,LI,LO,LU,",
  "LV,MA,ME,MI,MO,MU,MV,NA,NAH,NE,NI,NO,NU,NV,O,QUA,QUE,QUI,QUO,QUU,QUV,S,SA,SE,SI,SO,SU,SV,TA,",
  "TE,TI,TLA,TLE,TLI,TLO,TLU,TLV,TSA,TSE,TSI,TSO,TSU,TSV,U,V,WA,WE,WI,WO,WU,WV,YA,YE,YI,YO,YU,",
  "YV),SMALL LETTER (A,DA,DE,DI,DLA,DO,DU,DV,E,GA,GE,GI,GO,GU,GV,HA,HE,HI,HNA,HO,HU,HV,I,KA,LA,",
  "LE,LI,LO,LU,LV,MA,ME,MI,MO,MU,MV,NA,NAH,NE,NI,NO,NU,NV,O,QUA,QUE,QUI,QUO,QUU,QUV,S,SA,SE,SI,",
  "SO,SU,SV,TA,TE,TI,TLA,TLE,TLI,TLO,TLU,TLV,TSA,TSE,TSI,TSO,TSU,TSV,U,V,WA,WE,WI,WO,WU,WV,YA,YE,",
  "YI,YO,YU,YV)),CHERRIES,CHERRY BLOSSOM,CHESTNUT,CHI RHO,CHICKEN,CHILD,CHILDREN CROSSING,",
  "CHIPMUNK,CHIRON,CHOCOLATE BAR,CHOPSTICKS,CHORASMIAN (LETTER (ALEPH,AYIN,BETH,CURLED WAW,",
  "DALETH,GIMEL,HE,HETH,KAPH,LAMEDH,MEM,NUN,PE,RESH,SAMEKH,SHIN,SMALL ALEPH,TAW,WAW,YODH,ZAYIN),",
  "NUMBER (FOUR,ONE,ONE HUNDRED,TEN,THREE,TWENTY,TWO)),CHRISTMAS TREE,CHURCH,CINEMA,CIRCLE (",
  "DIVIDED BY HORIZONTAL BAR AND TOP HALF DIVIDED BY VERTICAL BAR,WITH (ALL BUT UPPER LEFT ",
  "QUADRANT BLACK,HORIZONTAL BAR,LEFT HALF BLACK,LOWER HALF BLACK,RIGHT HALF BLACK,SMALL CIRCLE ",
  "TO THE RIGHT,SUPERIMPOSED X,TWO HORIZONTAL STROKES TO THE RIGHT,UPPER (HALF BLACK,RIGHT ",
  "QUADRANT BLACK),VERTICAL FILL)),CIRCLED (ANTICLOCKWISE ARROW,ANTICLOCKWISE-ROTATED DIVISION ",
  "SIGN,ASTERISK OPERATOR,BOLD X,BULLET,C WITH OVERLAID BACKSLASH,CC,CD,CROSS (FORMEE,FORMEE ",
  "WITH (FOUR DOTS,TWO DOTS),POMMEE),CROSSING LANES,DASH,DIGIT (EIGHT,FIVE,FOUR,NINE,ONE,SEVEN,",
  "SIX,THREE,TWO,ZERO),DIVISION (SIGN,SLASH),DOLLAR SIGN WITH OVERLAID BACKSLASH,DOT OPERATOR,",
  "EQUALS,GREATER-THAN,HANGUL (CHIEUCH,CHIEUCH A,CIEUC,CIEUC A,HIEUH,HIEUH A,IEUNG,IEUNG (A,U),",
  "KHIEUKH,KHIEUKH A,KIYEOK,KIYEOK A,MIEUM,MIEUM A,NIEUN,NIEUN A,PHIEUPH,PHIEUPH A,PIEUP,PIEUP A,",
  "RIEUL,RIEUL A,SIOS,SIOS A,THIEUTH,THIEUTH A,TIKEUT,TIKEUT A),HEAVY WHITE RIGHTWARDS ARROW,",
  "HORIZONTAL BAR WITH NOTCH,HUMAN FIGURE,IDEOGRAPH (ACCEPT,ADVANTAGE,ALLIANCE,ATTENTION,CENTRE,",
  "CONGRATULATION,COPY,CORRECT,EARTH,EIGHT,ENTERPRISE,EXCELLENT,FEMALE,FINANCIAL,FIRE,FIVE,FOUR,",
  "HAVE,HIGH,ITEM,KINDERGARTEN,KOTO,LABOR,LEFT,LOW,MALE,MEDICINE,METAL,MOON,NAME,NIGHT,NINE,ONE,",
  "PRINT,QUESTION,RELIGION,RESOURCE,REST,RIGHT,SCHOOL,SECRET,SEVEN,SIX,SOCIETY,SPECIAL,STOCK,",
  "STUDY,SUITABLE,SUN,SUPERVISE,TEN,THREE,TWO,WATER,WOOD),INFORMATION SOURCE,ITALIC LATIN ",
  "CAPITAL LETTER (C,R),KATAKANA (A,E,HA,HE,HI,HO,HU,I,KA,KE,KI,KO,KU,MA,ME,MI,MO,MU,NA,NE,NI,NO,",
  "NU,O,RA,RE,RI,RO,RU,SA,SE,SI,SO,SU,TA,TE,TI,TO,TU,U,WA,WE,WI,WO,YA,YO,YU),KOREAN CHARACTER (",
  "CHAMKO,JUEUI),LATIN (CAPITAL LETTER (A,B,C,D,E,F,G,H,I,J,K,L,M,N,O,P,Q,R,S,T,U,V,W,X,Y,Z),",
  "SMALL LETTER (A,B,C,D,E,F,G,H,I,J,K,L,M,N,O,P,Q,R,S,T,U,V,W,X,Y,Z)),LESS-THAN,MINUS,",
  "MULTIPLICATION SIGN WITH CIRCUMFLEX ACCENT,NUMBER (EIGHTEEN,EIGHTY ON BLACK SQUARE,ELEVEN,",
  "FIFTEEN,FIFTY,FIFTY ON BLACK SQUARE,FORTY,FORTY (EIGHT,FIVE,FOUR,NINE,ON BLACK SQUARE,ONE,",
  "SEVEN,SIX,THREE,TWO),FOURTEEN,NINETEEN,SEVENTEEN,SEVENTY ON BLACK SQUARE,SIXTEEN,SIXTY ON ",
  "BLACK SQUARE,TEN,TEN ON BLACK SQUARE,THIRTEEN,THIRTY,THIRTY (EIGHT,FIVE,FOUR,NINE,ON BLACK ",
  "SQUARE,ONE,SEVEN,SIX,THREE,TWO),TWELVE,TWENTY,TWENTY (EIGHT,FIVE,FOUR,NINE,ON BLACK SQUARE,",
  "ONE,SEVEN,SIX,THREE,TWO)),OPEN CENTRE EIGHT POINTED STAR,PARALLEL,PERPENDICULAR,PLUS,POSTAL ",
  "MARK,REVERSE SOLIDUS,RING OPERATOR,SQUARE,TIMES,TRIANGLE,TRIANGLE DOWN,VERTICAL BAR,WHITE (",
  "BULLET,STAR),WZ,X,ZERO WITH SLASH),CIRCULATION FUNCTION,CIRCUMFLEX ACCENT,CIRCUS TENT,",
  "CITYSCAPE,CITYSCAPE AT DUSK,CJK (RADICAL (BAMBOO,BLUE,BOLT OF CLOTH,BONE,BOX,BRUSH (ONE,TWO),",
  "C-SIMPLIFIED (BIRD,CART,DRAGON,EAT,EVEN,FISH,FLY,FROG,GATE,GOLD,HORSE,LEAF,LONG,SALT,SEE,",
  "SHELL,SILK,SPEECH,TANNED LEATHER,TOOTH,TURTLE,WIND),CHOKE,CITY,CIVILIAN,CLIFF,CLOTHES,COW,",
  "DEATH,DIVINATION,DOG,EAT (ONE,THREE,TWO),EWE,EYE,FIRE,FOOT,GHOST,GRASS (ONE,THREE,TWO),HAND,",
  "HEAD,HEART (ONE,TWO),HORN,J-SIMPLIFIED (DRAGON,EVEN,TOOTH,TURTLE),JADE,KNIFE (ONE,TWO),LAME (",
  "FOUR,ONE,THREE,TWO),LONG (ONE,TWO),MEAT,MESH,MOON,MORTAR,MOTHER,MOUND (ONE,TWO),NET (FOUR,ONE,",
  "THREE,TWO),OLD,PAW (ONE,TWO),PERSON,RAIN,RAM,RAP,REPEAT,SEAL,SECOND (ONE,THREE,TWO),SHEEP,",
  "SILK,SIMPLIFIED (HALF TREE TRUNK,HORN,WALK,WHEAT,YELLOW),SMALL (ONE,TWO),SNAKE,SNOUT (ONE,",
  "TWO),SPIRIT (ONE,TWO),SUN,TABLE,THREAD,TIGER,TURTLE,WALK (ONE,TWO),WATER (ONE,TWO),WEST (ONE,",
  "TWO)),STROKE (BXG,D,H,HG,HP,HPWG,HXWG,HZ,HZG,HZT,HZW,HZWG,HZZ,HZZP,HZZZ,HZZZG,N,P,PD,PG,PZ,Q,",
  "S,SG,SP,ST,SW,SWG,SWZ,SZ,SZWG,SZZ,T,TN,WG,XG)),CLAMSHELL MOBILE PHONE,CLAPPER BOARD,CLAPPING ",
  "HANDS SIGN,CLASSICAL BUILDING,CLEAR SCREEN SYMBOL,CLINKING (BEER MUGS,GLASSES),CLIPBOARD,",
  "CLOCK FACE (EIGHT OCLOCK,EIGHT-THIRTY,ELEVEN OCLOCK,ELEVEN-THIRTY,FIVE OCLOCK,FIVE-THIRTY,",
  "FOUR OCLOCK,FOUR-THIRTY,NINE OCLOCK,NINE-THIRTY,ONE OCLOCK,ONE-THIRTY,SEVEN OCLOCK,SEVEN-",
  "THIRTY,SIX OCLOCK,SIX-THIRTY,TEN OCLOCK,TEN-THIRTY,THREE OCLOCK,THREE-THIRTY,TWELVE OCLOCK,",
  "TWELVE-THIRTY,TWO OCLOCK,TWO-THIRTY),CLOCKWISE (CLOSED CIRCLE ARROW,CONTOUR INTEGRAL,",
  "DOWNWARDS AND UPWARDS OPEN CIRCLE ARROWS,GAPPED CIRCLE ARROW,INTEGRAL,OPEN CIRCLE ARROW,RIGHT ",
  "AND LEFT SEMICIRCLE ARROWS,RIGHTWARDS AND LEFTWARDS OPEN CIRCLE (ARROWS,ARROWS WITH CIRCLED ",
  "ONE OVERLAY),TOP SEMICIRCLE ARROW,TRIANGLE-HEADED OPEN CIRCLE ARROW),CLOSE UP,CLOSED (BOOK,",
  "INTERSECTION WITH SERIFS,LOCK WITH KEY,MAILBOX WITH (LOWERED FLAG,RAISED FLAG),SUBSET,SUBSET ",
  "OR EQUAL TO,SUPERSET,SUPERSET OR EQUAL TO,UMBRELLA,UNION WITH (SERIFS,SERIFS AND SMASH ",
  "PRODUCT)),CLOUD,CLOUD WITH (LIGHTNING,RAIN,SNOW,TORNADO),CLOWN FACE,COAT,COCKROACH,COCKTAIL ",
  "GLASS,COCONUT,COFFIN,COIN,COLLISION SYMBOL,COLON,COLON (EQUALS,SIGN),COMBINING (ACUTE (ACCENT,",
  "ACCENT BELOW,TONE MARK),ACUTE-(GRAVE-ACUTE,MACRON),ALMOST EQUAL TO (ABOVE,BELOW),ANNUITY ",
  "SYMBOL,ANTICLOCKWISE (ARROW ABOVE,RING OVERLAY),ASTERISK (ABOVE,BELOW),BINDU BELOW,BREVE,",
  "BREVE BELOW,BREVE-MACRON,BRIDGE (ABOVE,BELOW),CANDRABINDU,CARON,CARON BELOW,CEDILLA,",
  "CIRCUMFLEX (ACCENT,ACCENT BELOW),CLOCKWISE (ARROW ABOVE,RING OVERLAY),COMMA (ABOVE,ABOVE ",
  "RIGHT,BELOW),CONJOINING (MACRON,MACRON BELOW),CYRILLIC (DASIA PNEUMATA,HUNDRED (MILLIONS SIGN,",
  "THOUSANDS SIGN),KAVYKA,LETTER (A,BE,BIG YUS,CHE,DE,DJERV,EF,EL,EM,EN,ER,ES,ES-TE,FITA,GHE,HA,",
  "HARD SIGN,I,IE,IOTIFIED (A,BIG YUS,E),KA,LITTLE YUS,MONOGRAPH UK,O,OMEGA,PE,SHA,SHCHA,SOFT ",
  "SIGN,TE,TSE,U,UKRAINIAN IE,VE,YAT,YERU,YI,YU,ZE,ZHE),MILLIONS SIGN,PALATALIZATION,PAYEROK,",
  "POKRYTIE,PSILI PNEUMATA,TEN MILLIONS SIGN,THOUSAND MILLIONS SIGN,TITLO,TITLO (LEFT HALF,RIGHT ",
  "HALF),VZMET),DELETION MARK,DEVANAGARI (DIGIT (EIGHT,FIVE,FOUR,NINE,ONE,SEVEN,SIX,THREE,TWO,",
  "ZERO),LETTER (A,KA,NA,PA,RA,U,VI),SIGN AVAGRAHA),DIAERESIS,DIAERESIS BELOW,DIAERESIS-RING,",
  "DOT (ABOVE,ABOVE (LEFT,RIGHT),BELOW,BELOW LEFT),DOTTED (ACUTE ACCENT,GRAVE ACCENT),DOUBLE (",
  "ACUTE ACCENT,BREVE,BREVE BELOW,CIRCUMFLEX ABOVE,GRAVE ACCENT,INVERTED (BREVE,BREVE BELOW),LOW ",
  "LINE,MACRON,MACRON BELOW,OPEN MARK BELOW,OVERLINE,PARENTHESES ABOVE,PLUS SIGN (ABOVE,BELOW),",
  "RIGHTWARDS ARROW BELOW,RING BELOW,TILDE,TILDE (LEFT HALF,RIGHT HALF),VERTICAL (LINE (ABOVE,",
  "BELOW),STROKE OVERLAY)),DOUBLED CIRCUMFLEX ACCENT,DOWN TACK BELOW,DOWNWARDS ARROW,ENCLOSING (",
  "CIRCLE,CIRCLE BACKSLASH,DIAMOND,KEYCAP,SCREEN,SQUARE,UPWARD POINTING TRIANGLE),EQUALS SIGN ",
  "BELOW,FERMATA,FOUR DOTS ABOVE,GLAGOLITIC LETTER (AZU,BIG YUS,BUKY,CHRIVI,DJERVI,DOBRO,FITA,",
  "FRITU,GLAGOLI,HERU,I,INITIAL IZHE,IOTATED (BIG YUS,SMALL YUS),IZHE,KAKO,LJUDIJE,MYSLITE,NASHI,",
  "ONU,POKOJI,RITSI,SHA,SHTA,SLOVO,SMALL YUS,TSI,TVRIDO,UKU,VEDE,YATI,YERI,YERU,YESTU,YO,YU,",
  "ZEMLJA,ZHIVETE),GRANTHA (DIGIT (FIVE,FOUR,ONE,SIX,THREE,TWO,ZERO),LETTER (A,KA,NA,PA,VI)),",
  "GRAPHEME JOINER,GRAVE (ACCENT,ACCENT BELOW,TONE MARK),GRAVE-(ACUTE-GRAVE,MACRON),GREEK (",
  "DIALYTIKA TONOS,KORONIS,MUSICAL (PENTASEME,TETRASEME,TRISEME),PERISPOMENI,YPOGEGRAMMENI),",
  "HOMOTHETIC ABOVE,HOOK ABOVE,HORN,INFINITY,INVERTED (BREVE,BREVE BELOW,BRIDGE BELOW,DOUBLE ",
  "ARCH (ABOVE,BELOW)),IS BELOW,KATAKANA-HIRAGANA (SEMI-VOICED SOUND MARK,VOICED SOUND MARK),",
  "KAVYKA ABOVE (LEFT,RIGHT),LATIN (LETTER SMALL CAPITAL (G,L,M,N,R),SMALL LETTER (A,A WITH ",
  "DIAERESIS,AE,ALPHA,AO,AV,B,BETA,C,C CEDILLA,D,E,ESH,ETH,F,FLATTENED OPEN A ABOVE,G,H,I,",
  "INSULAR (D,G,R,T),K,L,L WITH DOUBLE MIDDLE TILDE,LONG S,M,N,O,O WITH (DIAERESIS,LIGHT ",
  "CENTRALIZATION STROKE),P,R,R (BELOW,ROTUNDA),S,SCHWA,T,TURNED W BELOW,U,U WITH (DIAERESIS,",
  "LIGHT CENTRALIZATION STROKE),V,W,W BELOW,X,Z)),LEFT (ANGLE (ABOVE,BELOW),ARROW (ABOVE,BELOW),",
  "ARROWHEAD (ABOVE,BELOW),HALF RING (ABOVE,BELOW),HARPOON ABOVE,PARENTHESIS (ABOVE LEFT,BELOW ",
  "LEFT),RIGHT ARROW (ABOVE,BELOW),TACK BELOW),LEFTWARDS (ARROW OVERLAY,HARPOON WITH BARB ",
  "DOWNWARDS),LIGATURE (LEFT (HALF,HALF BELOW),RIGHT (HALF,HALF BELOW)),LIGHT CENTRALIZATION ",
  "STROKE BELOW,LONG (DOUBLE SOLIDUS OVERLAY,SOLIDUS OVERLAY,STROKE OVERLAY,VERTICAL LINE ",
  "OVERLAY),LOW LINE,MACRON,MACRON (BELOW,LEFT (HALF,HALF BELOW),RIGHT (HALF,HALF BELOW)),",
  "MACRON-(ACUTE,BREVE,GRAVE),MINUS SIGN BELOW,NOT TILDE ABOVE,NUMBER SIGN ABOVE,OGONEK,OGONEK ",
  "ABOVE,OLD PERMIC LETTER (AN,DOI,NENOE,SII,ZATA),OPEN MARK BELOW,OVERLINE,PALATALIZED HOOK ",
  "BELOW,PARENTHESES (ABOVE,BELOW,OVERLAY),PLUS SIGN (ABOVE,BELOW),RETROFLEX HOOK BELOW,REVERSE ",
  "SOLIDUS OVERLAY,REVERSED COMMA ABOVE,RIGHT (ARROW (ABOVE,BELOW),ARROWHEAD (ABOVE,AND (DOWN ",
  "ARROWHEAD BELOW,UP ARROWHEAD BELOW),BELOW),HALF RING (ABOVE,BELOW),HARPOON ABOVE,PARENTHESIS (",
  "ABOVE RIGHT,BELOW RIGHT),TACK BELOW),RIGHTWARDS HARPOON WITH BARB DOWNWARDS,RING (ABOVE,BELOW,",
  "OVERLAY),SEAGULL BELOW,SHORT (SOLIDUS OVERLAY,STROKE OVERLAY,VERTICAL LINE OVERLAY),SNAKE ",
  "BELOW,SQUARE (BELOW,BRACKETS ABOVE),STRONG CENTRALIZATION STROKE BELOW,SUSPENSION MARK,THREE ",
  "DOTS ABOVE,TILDE,TILDE (BELOW,LEFT HALF BELOW,OVERLAY,RIGHT HALF BELOW),TRIPLE (ACUTE ACCENT,",
  "DOT,UNDERDOT),TURNED COMMA ABOVE,UP TACK (ABOVE,BELOW),UPWARDS ARROW BELOW,UR ABOVE,US ABOVE,",
  "VERTICAL (LINE (ABOVE,BELOW),TILDE),WIDE (BRIDGE ABOVE,INVERTED BRIDGE BELOW),WIGGLY LINE ",
  "BELOW,X (ABOVE,BELOW),X-X BELOW,ZIGZAG (ABOVE,BELOW)),COMET,COMMA,COMMERCIAL (AT,MINUS SIGN),",
  "COMPASS,COMPLEMENT,COMPOSITION SYMBOL,COMPRESSION,CONFETTI BALL,CONFOUNDED FACE,CONFUSED FACE,",
  "CONGRUENT WITH DOT ABOVE,CONICAL TAPER,CONJUNCTION,CONSTRUCTION (SIGN,WORKER),CONTAINS (AS (",
  "MEMBER,NORMAL (SUBGROUP,SUBGROUP OR EQUAL TO)),WITH (LONG HORIZONTAL STROKE,OVERBAR,VERTICAL ",
  "BAR AT END OF HORIZONTAL STROKE)),CONTINUOUS UNDERLINE SYMBOL,CONTOUR INTEGRAL,CONTROL (KNOBS,",
  "SEQUENCE INTRODUCER),CONVENIENCE STORE,COOKED RICE,COOKIE,COOKING,COPTIC (CAPITAL LETTER (",
  "AKHMIMIC KHEI,ALFA,BOHAIRIC KHEI,CROSSED SHEI,CRYPTOGRAMMIC (EIE,GANGIA,NI,SHEI),DALDA,DEI,",
  "DIALECT-P (ALEF,HORI,KAPA,NI),EIE,FEI,FI,GAMMA,GANGIA,HATE,HORI,IAUDA,KAPA,KHEI,KHI,KSI,L-",
  "SHAPED HA,LAULA,MI,NI,O,OLD (COPTIC (AIN,DJA,ESH,GANGIA,HA,HAT,HEI,HORI,OOU,SHEI,SHIMA),",
  "NUBIAN (NGI,NYI,SHIMA,WAU)),OOU,PI,PSI,RO,SAMPI,SHEI,SHIMA,SIMA,SOU,TAU,THETHE,UA,VIDA,ZATA),",
  "COMBINING (NI ABOVE,SPIRITUS (ASPER,LENIS)),EPACT (DIGIT (EIGHT,FIVE,FOUR,NINE,ONE,SEVEN,SIX,",
  "THREE,TWO),NUMBER (EIGHT HUNDRED,EIGHTY,FIFTY,FIVE HUNDRED,FORTY,FOUR HUNDRED,NINE HUNDRED,",
  "NINETY,ONE HUNDRED,SEVEN HUNDRED,SEVENTY,SIX HUNDRED,SIXTY,TEN,THIRTY,THREE HUNDRED,TWENTY,",
  "TWO HUNDRED),THOUSANDS MARK),FRACTION ONE HALF,FULL STOP,MORPHOLOGICAL DIVIDER,OLD NUBIAN (",
  "DIRECT QUESTION MARK,FULL STOP,INDIRECT QUESTION MARK,VERSE DIVIDER),SMALL LETTER (AKHMIMIC ",
  "KHEI,ALFA,BOHAIRIC KHEI,CROSSED SHEI,CRYPTOGRAMMIC (EIE,GANGIA,NI,SHEI),DALDA,DEI,DIALECT-P (",
  "ALEF,HORI,KAPA,NI),EIE,FEI,FI,GAMMA,GANGIA,HATE,HORI,IAUDA,KAPA,KHEI,KHI,KSI,L-SHAPED HA,",
  "LAULA,MI,NI,O,OLD (COPTIC (AIN,DJA,ESH,GANGIA,HA,HAT,HEI,HORI,OOU,SHEI,SHIMA),NUBIAN (NGI,NYI,",
  "SHIMA,WAU)),OOU,PI,PSI,RO,SAMPI,SHEI,SHIMA,SIMA,SOU,TAU,THETHE,UA,VIDA,ZATA),SYMBOL (KAI,KHI ",
  "RO,MI RO,PI RO,SHIMA SIMA,STAUROS,TAU RO)),COPYLEFT SYMBOL,COPYRIGHT SIGN,CORAL,CORNISH VERSE ",
  "DIVIDER,CORRESPONDS TO,COUCH AND LAMP,COUNTERBORE,COUNTERSINK,COUNTING ROD (TENS DIGIT (EIGHT,",
  "FIVE,FOUR,NINE,ONE,SEVEN,SIX,THREE,TWO),UNIT DIGIT (EIGHT,FIVE,FOUR,NINE,ONE,SEVEN,SIX,THREE,",
  "TWO)),COUPLE WITH HEART,COW,COW FACE,CR,CRAB,CREDIT CARD,CRESCENT MOON,CRICKET,CRICKET BAT ",
  "AND BALL,CROCODILE,CROISSANT,CROSS (MARK,OF (JERUSALEM,LORRAINE),PATTY WITH (LEFT CROSSBAR,",
  "RIGHT CROSSBAR),POMMEE,POMMEE WITH HALF-CIRCLE BELOW),CROSSED (FLAGS,NEGATIVE SQUARED LATIN ",
  "CAPITAL LETTER P,SWORDS),CROSSING LANES,CROWN,CRUTCH,CRUZEIRO SIGN,CRYING (CAT FACE,FACE),",
  "CRYSTAL BALL,CSI,CUBE ROOT,CUCUMBER,CUNEIFORM (NUMERIC SIGN (EIGHT (ASH,DISH,GESH2,SHAR2,U,U ",
  "VARIANT FORM,VARIANT FORM (USSU,USSU3)),ELAMITE (FIFTY,FORTY,ONE THIRD,TWO THIRDS),FIVE (ASH,",
  "ASH TENU,BAN2,BAN2 VARIANT FORM,BURU,DISH,GESH2,GESHU,SHAR2,SHARU,SIXTHS DISH,U,U VARIANT ",
  "FORM),FOUR (ASH,ASH TENU,BAN2,BAN2 VARIANT FORM,BURU,DISH,GESH2,GESHU,SHAR2,SHARU,U,U VARIANT ",
  "FORM,VARIANT FORM (LIMMU,LIMMU (A,B),LIMMU4)),NIGIDAESH,NIGIDAMIN,NINE (ASH,DISH,GESH2,SHAR2,",
  "U,U VARIANT FORM,VARIANT FORM (ILIMMU,ILIMMU A,ILIMMU3,ILIMMU4)),OLD ASSYRIAN ONE (QUARTER,",
  "SIXTH),ONE (BAN2,BURU,EIGHTH ASH,ESHE3,GESH2,GESHU,HALF GUR,QUARTER (ASH,GUR),SHARU,THIRD (",
  "DISH,VARIANT FORM A)),SEVEN (ASH,DISH,GESH2,SHAR2,U,U VARIANT FORM,VARIANT FORM (IMIN (A,B),",
  "IMIN3)),SHAR2 TIMES GAL PLUS (DISH,MIN),SIX (ASH,ASH TENU,DISH,GESH2,SHAR2,U,U VARIANT FORM,",
  "VARIANT FORM ASH9),THREE (ASH,ASH TENU,BAN2,BURU,BURU VARIANT FORM,DISH,GESH2,GESHU,SHAR2,",
  "SHAR2 VARIANT FORM,SHARU,SHARU VARIANT FORM,VARIANT FORM (ESH16,ESH21)),TWO (ASH,ASH TENU,",
  "BAN2,BURU,ESHE3,GESH2,GESHU,SHAR2,SHARU,THIRDS (DISH,VARIANT FORM A))),PUNCTUATION SIGN (",
  "DIAGONAL (COLON,QUADCOLON,TRICOLON),OLD ASSYRIAN WORD DIVIDER,VERTICAL COLON),SIGN (A,A ",
  "TIMES (A,BAD,GAN2 TENU,HA,IGI,LAGAR GUNU,MUSH,SAG),A2,AB,AB (GUNU,TIMES (ASH2,DUN3 GUNU,GAL,",
  "GAN2 TENU,HA,IGI GUNU,IMIN,LAGAB,NUN,NUN TENU,SHESH,SHU2,U PLUS U PLUS U)),AB2,AB2 TIMES (A,",
  "BALAG,GAN2 TENU,ME PLUS EN,SHA3,TAK4),AD,AD TIMES ESH2,AK,AK TIMES (ERIN2,SHITA PLUS GISH),AL,",
  "AL TIMES (AL,DIM2,GISH,HA,KAD3,KI,SHE,USH),ALAN,ALEPH,AMAR,AMAR TIMES (KUG,SHE),AN,AN (OVER ",
  "AN,PLUS NAGA (OPPOSING AN PLUS NAGA,SQUARED),THREE TIMES),ANSHE,APIN,ARAD,ARAD TIMES KUR,",
  "ARKAB,ASAL2,ASH,ASH (KABA TENU,OVER ASH (OVER (ASH,ASH CROSSING ASH OVER ASH OVER ASH),TUG2 ",
  "OVER TUG2 TUG2 OVER TUG2 PAP),ZIDA TENU),ASH2,ASHGAB,BA,BAD,BAD TIMES DISH TENU,BAG3,BAHAR2,",
  "BAHAR2 TIMES (AB2,NI,ZA),BAL,BAL OVER BAL,BALAG,BAR,BARA2,BI,BI TIMES (A,GAR,IGI GUNU),BU,BU (",
  "CROSSING BU,OVER BU (AB,TIMES NA2,UN)),BULUG,BULUG OVER BULUG,BUR,BUR2,DA,DA TIMES TAK4,DAG,",
  "DAG (KISIM5 TIMES (A PLUS MASH,AMAR,BALAG,BI,GA,GA PLUS MASH,GI,GIR2,GUD,HA,IR,IR PLUS LU,KAK,",
  "LA,LU,LU PLUS MASH2,LUM,NE,PAP PLUS PAP,SI,TAK4,U2 PLUS (GIR2,MASH),USH),TIMES KUR),DAG3,DAM,",
  "DAR,DARA3,DARA4,DI,DIB,DIM,DIM TIMES (IGI,SHE,U U U),DIM2,DIM2 TIMES UD,DIN,DIN KASKAL U GUNU ",
  "DISH,DISH,DISH PLUS SHU,DU,DU (GUNU,OVER DU,SHESHIG),DUB,DUB TIMES (ESH2,SHE),DUB2,DUG,DUG ",
  "TIMES (ANSHE,ASH,ASH AT LEFT,DIN,DUN,ERIN2,GA,GI,GIR2 GUNU,GISH,HA,HI,IGI GUNU,KASKAL,KUR,",
  "KUSHU2,KUSHU2 PLUS KASKAL,LAK-020,LAM,LAM TIMES KUR,LUH PLUS GISH,MASH,MES,MI,NI,PI,SHE,SI ",
  "GUNU),DUGUD,DUH,DUN,DUN3,DUN3 (GUNU,GUNU GUNU),DUN4,DUR2,E,E (OVER E NUN OVER NUN,TIMES PAP),",
  "E2,E2 TIMES (A PLUS HA PLUS DA,GAR,KUR,MI,PAP,SAL,SHE,U),EDIN,EGIR,EL,EN,EN (CROSSING EN,",
  "OPPOSING EN,SQUARED,TIMES (GAN2,GAN2 TENU,ME)),EREN,ERIN2,ERIN2 X,ESH2,ESH2 CROSSING ESH2,",
  "EZEN,EZEN (SHESHIG TIMES (ASH,HI,IGI GUNU,LA,LAL,ME,MES,SU),TIMES (A,A PLUS (LAL,LAL TIMES ",
  "LAL),AN,BAD,DUN3 (GUNU,GUNU GUNU),GUD,HA,HA GUNU,IGI GUNU,KASKAL,KASKAL SQUARED,KU3,LA,LAL ",
  "TIMES LAL,LI,LU,SHE,SU,U2,UD)),GA,GA GUNU,GA2,GA2 (OVER GA2,TIMES (A PLUS (DA PLUS HA,HA,IGI),",
  "AB2 TENU PLUS TAB,AN,AN PLUS KAK PLUS A,ASH,ASH2,ASH2 PLUS GAL,BAD,BAHAR2,BAR PLUS RA,BUR,BUR ",
  "PLUS RA,DA,DI,DIM (GUNU,TIMES SHE),DUB,DUG TIMES (IGI GUNU,KASKAL),EL,EL PLUS LA,EN,EN TIMES ",
  "GAN2 TENU,EREN,GA,GAN2 TENU,GAR,GAR PLUS (DI,NE),GI,GI4,GI4 PLUS A,GIR2 PLUS SU,HA PLUS (A,LU ",
  "PLUS ESH2),HAL,HAL PLUS LA,HI PLUS LI,HUB2,IGI GUNU,ISH PLUS HU PLUS ASH,KAK,KASKAL,KID,KID ",
  "PLUS LAL,KU3 PLUS AN,KUSHU2 PLUS KASKAL,LA,LAM,LAM TIMES KUR,LUH,ME PLUS EN,MI,MUSH,NE,NE ",
  "PLUS (E2,GI),NUN,NUN OVER NUN,PA,SAL,SAR,SHE,SHE PLUS TUR,SHID,SHIM,SUM,TAK4,U,UD,UD PLUS DU,",
  "ZIZ2)),GABA,GABA (CROSSING GABA,ROTATED NINETY DEGREES),GAD,GAD OVER GAD GAR OVER GAR,GAL,GAL ",
  "GAD OVER GAD GAR OVER GAR,GALAM,GAM,GAN,GAN2,GAN2 (CROSSING GAN2,OVER GAN2,TENU),GAR,GAR3,",
  "GASHAN,GE22,GESHTIN,GESHTIN TIMES (KUR,U),GI,GI (CROSSING GI,TIMES (E,U)),GI4,GI4 (CROSSING ",
  "GI4,OVER GI4),GIDIM,GIG,GIR2,GIR2 GUNU,GIR3,GIR3 TIMES (A PLUS IGI,GAN2 TENU,IGI,LU PLUS IGI,",
  "PA),GISAL,GISH,GISH (CROSSING GISH,TENU,TIMES (BAD,GISH CROSSING GISH,TAK4)),GU,GU CROSSING ",
  "GU,GU2,GU2 (GUNU,TIMES (IGI GUNU,KAK,KAK TIMES IGI GUNU,NUN,SAL PLUS TUG2)),GUD,GUD (OVER GUD ",
  "LUGAL,PLUS GISH TIMES TAK4,TIMES (A PLUS KUR,KUR)),GUL,GUM,GUM TIMES SHE,GUR,GUR7,GURUN,",
  "GURUSH,HA,HA (GUNU,TENU,TENU GUNU),HAL,HI,HI TIMES (ASH,ASH OVER HI TIMES ASH,ASH2,BAD,DISH,",
  "GAD,KIN,NUN,SHE,U),HU,HUB2,HUB2 TIMES (AN,HAL,KASKAL,LISH,UD),HUL2,HUSH,I,I A,IB,IDIM,IDIM ",
  "OVER IDIM (BUR,SQUARED),IG,IGI,IGI (DIB,GUNU,OVER IGI SHIR OVER SHIR UD OVER UD,RI),IL,IL ",
  "TIMES GAN2 TENU,IL2,IM,IM (CROSSING IM,OPPOSING IM,SQUARED,TIMES TAK4),IMIN,IN,IR,ISH,KA,KA ",
  "TIMES (A,AD,AD PLUS KU3,ANSHE,ASH2,ASH3,BAD,BALAG,BAR,BI,BU,ERIN2,ESH2,GA,GAL,GAN2 TENU,GAR,",
  "GAR PLUS SHA3 PLUS A,GI,GIR2,GISH,GISH (CROSSING GISH,PLUS SAR),GU,GUD,GUR7,HI TIMES ASH2,IGI,",
  "IM,KA,KAK,KI,KID,LI,LU,LUM,ME,ME PLUS (DU,GI,TE),MI,MI PLUS NUNUZ,NE,NUN,PA,PI,RU,SA,SAR,SHA,",
  "SHE,SHID,SHU,SHUL,SIG,SUHUR,TAR,TU,U,U U U,U2,UD,UMUM TIMES PA,UR,UR2,USH,ZI),KA2,KA2 ",
  "CROSSING KA2,KAB,KAD2,KAD3,KAD4,KAD5,KAD5 OVER KAD5,KAK,KAK TIMES IGI GUNU,KAL,KAL (CROSSING ",
  "KAL,TIMES BAD),KAM2,KAM4,KAP ELAMITE,KASKAL,KASKAL (LAGAB TIMES U OVER LAGAB TIMES U,OVER ",
  "KASKAL LAGAB TIMES U OVER LAGAB TIMES U),KESH2,KI,KI TIMES (BAD,U,UD),KID,KIN,KISAL,KISH,",
  "KISIM5,KISIM5 OVER KISIM5,KU,KU OVER HI TIMES ASH2 KU OVER HI TIMES ASH2,KU3,KU4,KU4 VARIANT ",
  "FORM,KU7,KUL,KUL GUNU,KUN,KUR,KUR OPPOSING KUR,KUSHU2,KWU318,LA,LAGAB,LAGAB (SQUARED,TIMES (A,",
  "A PLUS (DA PLUS HA,GAR,LAL),AL,AN,ASH ZIDA TENU,BAD,BI,DAR,EN,GA,GAR,GI,GUD,GUD PLUS GUD,HA,",
  "HAL,HI TIMES NUN,IGI GUNU,IM,IM PLUS (HA,LU),KI,KIN,KU3,KUL,KUL PLUS HI PLUS A,LAGAB,LISH,LU,",
  "LUL,ME,ME PLUS EN,MUSH,NE,SHE PLUS SUM,SHITA PLUS GISH (PLUS ERIN2,TENU),SHU2,SHU2 PLUS SHU2,",
  "SUM,TAG,TAK4,TE PLUS A PLUS SU PLUS NA,U,U PLUS (A,U PLUS U),U2 PLUS ASH,UD,USH,ZU OVER ZU)),",
  "LAGAR,LAGAR (GUNU,GUNU OVER LAGAR GUNU SHE,TIMES (SHE,SHE PLUS SUM)),LAHSHU,LAK-(003,021,025,",
  "030,050,051,062,079 OVER LAK-079 GUNU,080,081 OVER LAK-081,092,130,142,210,219,220,225,228,",
  "238,265,266,343,347,348,383,384,390,441,449,449 TIMES (GU,IGI,PAP PLUS (LU3,PAP PLUS LU3),U2 ",
  "PLUS BA),450,457,470,483,490,492,493,495,550,608,617,617 TIMES (ASH,BAD,DUN3 GUNU GUNU,KU3,LA,",
  "TAR,TE,U2,UD,URUDA),636,648,648 TIMES (DUB,GA,IGI,IGI GUNU,NI,PAP PLUS PAP PLUS LU3,SHESH ",
  "PLUS KI,UD,URUDA),724,749),LAL,LAL TIMES LAL,LAM,LAM TIMES (KUR,KUR PLUS RU),LI,LIL,LIMMU2,",
  "LISH,LU,LU TIMES BAD,LU2,LU2 (CROSSING LU2,GUNU TIMES ASH,OPPOSING LU2,SHESHIG,SHESHIG TIMES ",
  "BAD,SQUARED,TENU,TIMES (AL,BAD,DISH,ESH2,ESH2 (PLUS LAL,TENU),GAN2 TENU,HAL,HI TIMES BAD,IM,",
  "KAD2,KAD3,KAD3 PLUS ASH,KI,LA PLUS ASH,LAGAB,ME PLUS EN,NE,NU,PAP,PAP PLUS PAP PLUS LU3,SHU,",
  "SI PLUS ASH,SIK2 PLUS BU,TAK4,TUG2)),LU3,LUGAL,LUGAL (OPPOSING LUGAL,OVER LUGAL,SHESHIG),LUH,",
  "LUL,LUM,LUM OVER (LUM,LUM GAR OVER GAR),MA,MA (GUNU,TIMES TAK4),MA2,MAH,MAR,MASH,MASH2,ME,MES,",
  "MESH,MI,MI PLUS ZA7,MIN,MU,MU OVER MU,MUG,MUG GUNU,MUNSUB,MURGU2,MUSH,MUSH (CROSSING MUSH,",
  "OVER (MUSH,MUSH TIMES (A PLUS NA,GA,KAK)),TIMES (A,KUR,ZA)),MUSH3,MUSH3 (GUNU,TIMES (A,A PLUS ",
  "DI,DI,ZA)),NA,NA2,NA4,NAGA,NAGA (INVERTED,OPPOSING NAGA,TIMES SHU TENU),NAGAR,NAM,NAM NUTILLU,",
  "NAM2,NE,NE (SHESHIG,TIMES (A,UD)),NI,NI TIMES E,NI2,NIM,NIM TIMES (GAN2 TENU,GAR PLUS GAN2 ",
  "TENU),NIN,NIN9,NINDA2,NINDA2 TIMES (AN,ASH,ASH PLUS ASH,BAL,DIM GUNU,GI,GISH,GUD,GUL,HI,KESH2,",
  "LAK-050,MASH,ME PLUS GAN2 TENU,NE,NUN,PAP PLUS PAP,SHE,SHE PLUS (A AN,ASH,ASH PLUS ASH),U,U ",
  "PLUS U,U2 PLUS ASH,URUDA,USH),NISAG,NU,NU11,NU11 (OVER NU11 BUR OVER BUR,ROTATED NINETY ",
  "DEGREES,TENU),NUN,NUN (CROSSING (NUN,NUN LAGAR OVER LAGAR),LAGAR TIMES (GAR,MASH,SAL,SAL OVER ",
  "NUN LAGAR TIMES SAL,USH),OVER NUN,TENU),NUNUZ,NUNUZ (AB2 TIMES (ASHGAB,BI,DUG,GUD,IGI GUNU,",
  "KAD3,LA,NE,SILA3,U2),KISIM5 TIMES (BI,BI U)),PA,PAD,PAN,PAP,PESH2,PESH2 ASTERISK,PI,PI (",
  "CROSSING PI,TIMES (A,AB,BI,BU,E,I,IB,U,U2)),PIR2,PIRIG,PIRIG (OPPOSING PIRIG,TIMES (KAL,UD,",
  "ZA)),RA,RAB,RI,RU,SA,SAG,SAG (GUNU,GUNU TIMES HA,NUTILLU,OVER SAG,TIMES (A,DU,DUB,EN,HA,IGI ",
  "GUNU,KAK,KUR,LUM,MI,NUN,SAL,SHE AT LEFT,SHID,TAB,TAK4,U2,UB,UM,UR,USH)),SAL,SAL LAGAB TIMES ",
  "ASH2,SANGA2,SAR,SHA,SHA3,SHA3 TIMES (A,BAD,GISH,NE,SHU2,TUR,U,U PLUS A),SHA6,SHA6 TENU,SHAB6,",
  "SHAR2,SHE,SHE (HU,OVER (SHE,SHE (GAD OVER GAD GAR OVER GAR,TAB OVER TAB GAR OVER GAR)),PLUS (",
  "HUB2,NAM2,SAR)),SHEG9,SHEN,SHESH,SHESH2,SHESHLAM,SHID,SHID TIMES (A,IM),SHIM,SHIM TIMES (A,",
  "BAL,BULUG,DIN,GAR,IGI,IGI GUNU,KUSHU2,LUL,MUG,SAL),SHINIG,SHIR,SHIR (OVER SHIR BUR OVER BUR,",
  "TENU),SHITA,SHU,SHU OVER INVERTED SHU,SHU2,SHU2 PLUS (DUG TIMES NI,E2 TIMES AN),SHUBUR,SI,SI (",
  "GUNU,TIMES TAK4),SIG,SIG4,SIG4 OVER SIG4 SHU2,SIK2,SILA3,SU,SU OVER SU,SUD,SUD2,SUHUR,SUM,",
  "SUMASH,SUR,SUR9,TA,TA (ASTERISK,GUNU,TIMES (HI,MI)),TAB,TAB (OVER TAB NI OVER NI DISH OVER ",
  "DISH,SQUARED),TAG,TAG TIMES (BI,GUD,SHE,SHU,TUG2,UD),TAK4,TAK4 PLUS SAG,TAR,TE,TE GUNU,TI,TI ",
  "TENU,TI2,TIL,TIR,TIR (OVER (TIR,TIR GAD OVER GAD GAR OVER GAR),TIMES TAK4),TU,TUG2,TUK,TUM,",
  "TUM TIMES (GAN2 TENU,THREE DISH),TUR,TUR OVER TUR ZA OVER ZA,U,U (GUD,OVER U (PA OVER PA GAR ",
  "OVER GAR,SUR OVER SUR,U REVERSED OVER U REVERSED),U,U U),U2,UB,UD,UD (GUNU,KUSHU2,SHESHIG,",
  "SHESHIG TIMES BAD,TIMES (BAD,MI,U PLUS U PLUS (U,U GUNU))),UDUG,UM,UM TIMES (LAGAB,ME,ME PLUS ",
  "DA,SHA3,U),UMBIN,UMUM,UMUM TIMES (KASKAL,PA),UN,UN GUNU,UR,UR (CROSSING UR,SHESHIG),UR2,UR2 (",
  "INVERTED,TIMES (A PLUS (HA,NA),AL,HA,NUN,U2,U2 PLUS (ASH,BI),UD)),UR4,URI,URI3,URU,URU TIMES (",
  "A,ASHGAB,BAR,DARA3,DUN,GA,GAL,GAN2 TENU,GAR,GU,HA,IGI,IM,ISH,KI,LAK-668,LU3,LUM,MIN,PA,SHE,",
  "SIG4,TU,U PLUS GUD,UD,URUDA),URUDA,URUDA TIMES U,USH,USH TIMES (A,KU,KUR,TAK4),USH2,USHUMX,",
  "USHX,UTUKI,UZ3,UZ3 TIMES KASKAL,UZU,ZA,ZA (SQUARED TIMES KUR,TENU),ZA7,ZAG,ZAMX,ZE2,ZI,ZI ",
  "OVER ZI,ZI3,ZIB,ZIB KABA TENU,ZIG,ZIZ2,ZU,ZU OVER ZU PLUS SAR,ZU5,ZU5 TIMES (A,THREE DISH ",
  "TENU),ZUBUR,ZUM)),CUP (ON BLACK SQUARE,WITH STRAW),CUPCAKE,CUPIDO,CURLING STONE,CURLY (",
  "BRACKET EXTENSION,LOGICAL (AND,OR),LOOP),CURRENCY (EXCHANGE,SIGN),CURRY AND RICE,CURVED STEM ",
  "PARAGRAPH SIGN ORNAMENT,CUSTARD,CUSTOMS,CUT OF MEAT,CYCLONE,CYLINDRICITY,CYPRIOT SYLLABLE (A,",
  "E,I,JA,JO,KA,KE,KI,KO,KU,LA,LE,LI,LO,LU,MA,ME,MI,MO,MU,NA,NE,NI,NO,NU,O,PA,PE,PI,PO,PU,RA,RE,",
  "RI,RO,RU,SA,SE,SI,SO,SU,TA,TE,TI,TO,TU,U,WA,WE,WI,WO,XA,XE,ZA,ZO),CYPRO-MINOAN SIGN (CM001,",
  "CM002,CM004,CM005,CM006,CM007,CM008,CM009,CM010,CM011,CM012,CM012B,CM013,CM015,CM017,CM019,",
  "CM021,CM023,CM024,CM025,CM026,CM027,CM028,CM029,CM030,CM033,CM034,CM035,CM036,CM037,CM038,",
  "CM039,CM040,CM041,CM044,CM046,CM047,CM049,CM050,CM051,CM052,CM053,CM054,CM055,CM056,CM058,",
  "CM059,CM060,CM061,CM062,CM063,CM064,CM066,CM067,CM068,CM069,CM070,CM071,CM072,CM073,CM074,",
  "CM075,CM075B,CM076,CM078,CM079,CM080,CM081,CM082,CM083,CM084,CM085,CM086,CM087,CM088,CM089,",
  "CM090,CM091,CM092,CM094,CM095,CM096,CM097,CM098,CM099,CM100,CM101,CM102,CM103,CM104,CM105,",
  "CM107,CM108,CM109,CM110,CM112,CM114,CM301,CM302),CYRILLIC (CAPITAL (LETTER (A,A WITH (BREVE,",
  "DIAERESIS),ABKHASIAN (CHE,CHE WITH DESCENDER,DZE,HA),ALEUT KA,BARRED (O,O WITH DIAERESIS),",
  "BASHKIR KA,BE,BIG YUS,BINOCULAR O,BLENDED YUS,BROAD OMEGA,BYELORUSSIAN-UKRAINIAN I,CCHE,CHE,",
  "CHE WITH (DESCENDER,DIAERESIS,VERTICAL STROKE),CLOSED LITTLE YUS,CROSSED O,DCHE,DE,DJE,DJERV,",
  "DOUBLE (MONOCULAR O,O),DWE,DZE,DZELO,DZHE,DZWE,DZZE,DZZHE,E,E WITH DIAERESIS,EF,EL,EL WITH (",
  "DESCENDER,HOOK,MIDDLE HOOK,TAIL),EM,EM WITH TAIL,EN,EN WITH (DESCENDER,HOOK,LEFT HOOK,MIDDLE ",
  "HOOK,TAIL),ER,ER WITH TICK,ES,ES WITH DESCENDER,FITA,GHE,GHE WITH (DESCENDER,MIDDLE HOOK,",
  "STROKE,STROKE AND HOOK,UPTURN),GJE,HA,HA WITH (DESCENDER,HOOK,STROKE),HARD SIGN,HWE,I,I WITH (",
  "DIAERESIS,GRAVE,MACRON),IE,IE WITH (BREVE,GRAVE),IO,IOTA,IOTIFIED (A,BIG YUS,CLOSED LITTLE ",
  "YUS,E,LITTLE YUS,YAT),IZHITSA,IZHITSA WITH DOUBLE GRAVE ACCENT,JE,KA,KA WITH (DESCENDER,HOOK,",
  "STROKE,VERTICAL STROKE),KHAKASSIAN CHE,KJE,KOMI (DE,DJE,DZJE,LJE,NJE,SJE,TJE,ZJE),KOPPA,KSI,",
  "LHA,LITTLE YUS,LJE,MONOCULAR O,MONOGRAPH UK,NEUTRAL YER,NJE,O,O WITH DIAERESIS,OMEGA,OMEGA ",
  "WITH TITLO,OT,PE,PE WITH (DESCENDER,MIDDLE HOOK),PSI,QA,REVERSED (DZE,TSE,YU,ZE),RHA,ROUND ",
  "OMEGA,SCHWA,SCHWA WITH DIAERESIS,SEMISOFT SIGN,SHA,SHCHA,SHHA,SHHA WITH DESCENDER,SHORT (I,I ",
  "WITH TAIL,U),SHWE,SOFT (DE,EL,EM,SIGN),STRAIGHT (U,U WITH STROKE),TCHE,TE,TE WITH (DESCENDER,",
  "MIDDLE HOOK),TSE,TSHE,TSSE,TSWE,TWE,U,U WITH (DIAERESIS,DOUBLE ACUTE,MACRON),UK,UKRAINIAN IE,",
  "VE,WE,YA,YAE,YAT,YERU,YERU WITH (BACK YER,DIAERESIS),YI,YN,YU,ZE,ZE WITH (DESCENDER,",
  "DIAERESIS),ZEMLYA,ZHE,ZHE WITH (BREVE,DESCENDER,DIAERESIS),ZHWE),LIGATURE (A IE,EN GHE,TE ",
  "TSE)),KAVYKA,LETTER (MULTIOCULAR O,PALOCHKA,SMALL CAPITAL EL),PAYEROK,SMALL (LETTER (A,A ",
  "WITH (BREVE,DIAERESIS),ABKHASIAN (CHE,CHE WITH DESCENDER,DZE,HA),ALEUT KA,BARRED (O,O WITH ",
  "DIAERESIS),BASHKIR KA,BE,BIG YUS,BINOCULAR O,BLENDED YUS,BROAD OMEGA,BYELORUSSIAN-UKRAINIAN I,",
  "CCHE,CHE,CHE WITH (DESCENDER,DIAERESIS,VERTICAL STROKE),CLOSED LITTLE YUS,CROSSED O,DCHE,DE,",
  "DJE,DJERV,DOUBLE (MONOCULAR O,O),DWE,DZE,DZELO,DZHE,DZWE,DZZE,DZZHE,E,E WITH DIAERESIS,EF,EL,",
  "EL WITH (DESCENDER,HOOK,MIDDLE HOOK,TAIL),EM,EM WITH TAIL,EN,EN WITH (DESCENDER,HOOK,LEFT ",
  "HOOK,MIDDLE HOOK,TAIL),ER,ER WITH TICK,ES,ES WITH DESCENDER,FITA,GHE,GHE WITH (DESCENDER,",
  "MIDDLE HOOK,STROKE,STROKE AND HOOK,UPTURN),GJE,HA,HA WITH (DESCENDER,HOOK,STROKE),HARD SIGN,",
  "HWE,I,I WITH (DIAERESIS,GRAVE,MACRON),IE,IE WITH (BREVE,GRAVE),IO,IOTA,IOTIFIED (A,BIG YUS,",
  "CLOSED LITTLE YUS,E,LITTLE YUS,YAT),IZHITSA,IZHITSA WITH DOUBLE GRAVE ACCENT,JE,KA,KA WITH (",
  "DESCENDER,HOOK,STROKE,VERTICAL STROKE),KHAKASSIAN CHE,KJE,KOMI (DE,DJE,DZJE,LJE,NJE,SJE,TJE,",
  "ZJE),KOPPA,KSI,LHA,LITTLE YUS,LJE,LONG-LEGGED DE,MONOCULAR O,MONOGRAPH UK,NARROW O,NEUTRAL ",
  "YER,NJE,O,O WITH DIAERESIS,OMEGA,OMEGA WITH TITLO,OT,PALOCHKA,PE,PE WITH (DESCENDER,MIDDLE ",
  "HOOK),PSI,QA,REVERSED (DZE,TSE,YU,ZE),RHA,ROUND OMEGA,ROUNDED VE,SCHWA,SCHWA WITH DIAERESIS,",
  "SEMISOFT SIGN,SHA,SHCHA,SHHA,SHHA WITH DESCENDER,SHORT (I,I WITH TAIL,U),SHWE,SOFT (DE,EL,EM,",
  "SIGN),STRAIGHT (U,U WITH STROKE),TALL (HARD SIGN,TE,YAT),TCHE,TE,TE WITH (DESCENDER,MIDDLE ",
  "HOOK),THREE-LEGGED TE,TSE,TSHE,TSSE,TSWE,TWE,U,U WITH (DIAERESIS,DOUBLE ACUTE,MACRON),UK,",
  "UKRAINIAN IE,UNBLENDED UK,VE,WE,WIDE ES,YA,YAE,YAT,YERU,YERU WITH (BACK YER,DIAERESIS),YI,YN,",
  "YU,ZE,ZE WITH (DESCENDER,DIAERESIS),ZEMLYA,ZHE,ZHE WITH (BREVE,DESCENDER,DIAERESIS),ZHWE),",
  "LIGATURE (A IE,EN GHE,TE TSE)),THOUSANDS SIGN),DAGGER,DAGGER (KNIFE,WITH (LEFT GUARD,RIGHT ",
  "GUARD)),DALET SYMBOL,DANCER,DANGO,DARK (SHADE,SUNGLASSES),DASH (SYMBOL,WITH LEFT UPTURN),",
  "DASHED (LOW LINE,OVERLINE,TRIANGLE-HEADED RIGHTWARDS ARROW),DATA LINK ESCAPE,DC1,DC2,DC3,DC4,",
  "DCS,DEAF PERSON,DECIDUOUS TREE,DECIMAL (EXPONENT SYMBOL,SEPARATOR KEY SYMBOL),DECREASE FONT ",
  "SIZE SYMBOL,DEER,DEGREE (CELSIUS,FAHRENHEIT,SIGN),DEL,DELETE,DELIVERY TRUCK,DELTA EQUAL TO,",
  "DENTISTRY SYMBOL LIGHT (DOWN AND (HORIZONTAL,HORIZONTAL WITH (CIRCLE,TRIANGLE,WAVE)),UP AND (",
  "HORIZONTAL,HORIZONTAL WITH (CIRCLE,TRIANGLE,WAVE)),VERTICAL (AND (BOTTOM (LEFT,RIGHT),TOP (",
  "LEFT,RIGHT),WAVE),WITH (CIRCLE,TRIANGLE))),DEPARTMENT STORE,DERELICT HOUSE BUILDING,",
  "DESCENDING NODE,DESERET (CAPITAL LETTER (AY,BEE,CHEE,DEE,EF,EL,EM,EN,ENG,ER,ES,ESH,ETH,EW,GAY,",
  "H,JEE,KAY,LONG (A,AH,E,I,O,OO),OI,OW,PEE,SHORT (A,AH,E,I,O,OO),TEE,THEE,VEE,WU,YEE,ZEE,ZHEE),",
  "SMALL LETTER (AY,BEE,CHEE,DEE,EF,EL,EM,EN,ENG,ER,ES,ESH,ETH,EW,GAY,H,JEE,KAY,LONG (A,AH,E,I,O,",
  "OO),OI,OW,PEE,SHORT (A,AH,E,I,O,OO),TEE,THEE,VEE,WU,YEE,ZEE,ZHEE)),DESERT,DESERT ISLAND,",
  "DESKTOP (COMPUTER,WINDOW),DEVANAGARI (ABBREVIATION SIGN,ACUTE ACCENT,CARET,DANDA,DIGIT (EIGHT,",
  "FIVE,FOUR,NINE,ONE,SEVEN,SIX,THREE,TWO,ZERO),DOUBLE DANDA,GAP FILLER,GRAVE ACCENT,HEADSTROKE,",
  "JAIN OM,LETTER (A,AA,AI,AU,AW,AY,BA,BBA,BHA,CA,CANDRA (A,E,O),CHA,DA,DDA,DDDA,DDDHA,DDHA,DHA,",
  "E,FA,GA,GGA,GHA,GHHA,GLOTTAL STOP,HA,HEAVY YA,I,II,JA,JHA,JJA,KA,KHA,KHHA,LA,LLA,LLLA,MA,",
  "MARWARI DDA,NA,NGA,NNA,NNNA,NYA,O,OE,OOE,PA,PHA,QA,RA,RHA,RRA,SA,SHA,SHORT (A,E,O),SSA,TA,THA,",
  "TTA,TTHA,U,UE,UU,UUE,VA,VOCALIC (L,LL,R,RR),YA,YYA,ZA,ZHA),OM,SIGN (ANUSVARA,AVAGRAHA,",
  "CANDRABINDU,CANDRABINDU (AVAGRAHA,THREE,TWO,VIRAMA),DOUBLE CANDRABINDU VIRAMA,HIGH SPACING ",
  "DOT,INVERTED CANDRABINDU,NUKTA,PUSHPIKA,SIDDHAM,SPACING CANDRABINDU,VIRAMA,VISARGA),STRESS ",
  "SIGN (ANUDATTA,UDATTA),VOWEL SIGN (AA,AI,AU,AW,AY,CANDRA (E,LONG E,O),E,I,II,O,OE,OOE,",
  "PRISHTHAMATRA E,SHORT (E,O),U,UE,UU,UUE,VOCALIC (L,LL,R,RR))),DEVICE CONTROL (FOUR,ONE,STRING,",
  "THREE,TWO),DIAERESIS,DIAMETER SIGN,DIAMOND (OPERATOR,SHAPE WITH A DOT INSIDE,TARGET,WITH (",
  "BOTTOM HALF BLACK,LEFT HALF BLACK,RIGHT HALF BLACK,TOP HALF BLACK)),DIE FACE-(1,2,3,4,5,6),",
  "DIESEL LOCOMOTIVE,DIFFERENCE BETWEEN,DIGIT (EIGHT,EIGHT (COMMA,FULL STOP),FIVE,FIVE (COMMA,",
  "FULL STOP),FOUR,FOUR (COMMA,FULL STOP),NINE,NINE (COMMA,FULL STOP),ONE,ONE (COMMA,FULL STOP),",
  "SEVEN,SEVEN (COMMA,FULL STOP),SIX,SIX (COMMA,FULL STOP),THREE,THREE (COMMA,FULL STOP),TWO,",
  "TWO (COMMA,FULL STOP),ZERO,ZERO (COMMA,FULL STOP)),DIGRAM FOR (EARTH,EARTHLY (HEAVEN,HUMAN),",
  "GREATER (YANG,YIN),HEAVENLY EARTH,HUMAN EARTH,LESSER (YANG,YIN)),DIMENSION ORIGIN,DINGBAT (",
  "CIRCLED SANS-SERIF (DIGIT (EIGHT,FIVE,FOUR,NINE,ONE,SEVEN,SIX,THREE,TWO,ZERO),NUMBER TEN),",
  "NEGATIVE CIRCLED (DIGIT (EIGHT,FIVE,FOUR,NINE,ONE,SEVEN,SIX,THREE,TWO),NUMBER TEN,SANS-SERIF (",
  "DIGIT (EIGHT,FIVE,FOUR,NINE,ONE,SEVEN,SIX,THREE,TWO,ZERO),NUMBER TEN))),DIRECT (CURRENT ",
  "SYMBOL FORM TWO,HIT),DISABLED CAR,DISAPPOINTED (BUT RELIEVED FACE,FACE),DISCONTINUOUS ",
  "UNDERLINE SYMBOL,DISGUISED FACE,DITTO MARK,DIVES AKURU (DIGIT (EIGHT,FIVE,FOUR,NINE,ONE,SEVEN,",
  "SIX,THREE,TWO,ZERO),DOUBLE DANDA,END OF TEXT MARK,GAP FILLER,INITIAL RA,LETTER (A,AA,BA,BHA,",
  "CA,CHA,DA,DDA,DDHA,DHA,E,GA,GHA,HA,I,II,JA,KA,KHA,LA,LLA,MA,NA,NGA,NNA,NYA,O,PA,PHA,RA,SA,SHA,",
  "SSA,TA,THA,TTA,U,UU,VA,YA,YYA,ZA),MEDIAL (RA,YA),PREFIXED NASAL SIGN,SIGN (ANUSVARA,",
  "CANDRABINDU,HALANTA,NUKTA),VIRAMA,VOWEL SIGN (AA,AI,E,I,II,O,U,UU)),DIVIDES,DIVING MASK,",
  "DIVISION (SIGN,SLASH,TIMES),DIVORCE SYMBOL,DIYA LAMP,DIZZY (FACE,SYMBOL),DLE,DNA DOUBLE HELIX,",
  "DO NOT LITTER SYMBOL,DOCUMENT,DOCUMENT WITH (PICTURE,TEXT,TEXT AND PICTURE),DODO,DOES NOT (",
  "CONTAIN AS (MEMBER,NORMAL (SUBGROUP,SUBGROUP OR EQUAL)),DIVIDE,DIVIDE WITH REVERSED NEGATION ",
  "SLASH,FORCE,PRECEDE,PRECEDE OR EQUAL,PROVE,SUCCEED,SUCCEED OR EQUAL),DOG,DOG FACE,DOGRA (",
  "ABBREVIATION SIGN,LETTER (A,AA,AI,AU,BA,BHA,CA,CHA,DA,DDA,DDHA,DHA,E,GA,GHA,HA,I,II,JA,JHA,KA,",
  "KHA,LA,MA,NA,NGA,NNA,NYA,O,PA,PHA,RA,RRA,SA,SHA,SSA,TA,THA,TTA,TTHA,U,UU,VA,YA),SIGN (",
  "ANUSVARA,NUKTA,VIRAMA,VISARGA),VOWEL SIGN (AA,AI,AU,E,I,II,O,U,UU,VOCALIC (R,RR))),DOLLAR ",
  "SIGN,DOLPHIN,DOMINO TILE (HORIZONTAL BACK,HORIZONTAL-(00-(00,01,02,03,04,05,06),01-(00,01,02,",
  "03,04,05,06),02-(00,01,02,03,04,05,06),03-(00,01,02,03,04,05,06),04-(00,01,02,03,04,05,06),",
  "05-(00,01,02,03,04,05,06),06-(00,01,02,03,04,05,06)),VERTICAL BACK,VERTICAL-(00-(00,01,02,03,",
  "04,05,06),01-(00,01,02,03,04,05,06),02-(00,01,02,03,04,05,06),03-(00,01,02,03,04,05,06),04-(",
  "00,01,02,03,04,05,06),05-(00,01,02,03,04,05,06),06-(00,01,02,03,04,05,06))),DONG SIGN,DOOR,",
  "DOT (ABOVE,MINUS,OPERATOR,PLUS),DOTTED (CIRCLE,CROSS,FENCE,LINE FACE,OBELOS,RIGHT-POINTING ",
  "ANGLE,SOLIDUS,SQUARE,TRANSPOSITION MARKER),DOUBLE (ACUTE ACCENT,CIRCLED (DIGIT (EIGHT,FIVE,",
  "FOUR,NINE,ONE,SEVEN,SIX,THREE,TWO),NUMBER TEN),COLON EQUAL,CURLY LOOP,DAGGER,DOWN TACK,",
  "EXCLAMATION MARK,HIGH-REVERSED-9 QUOTATION MARK,HYPHEN,INTEGRAL,INTERSECTION,LEFT ARC GREATER-",
  "THAN BRACKET,LOGICAL (AND,OR),LOW LINE,LOW-(9 QUOTATION MARK,REVERSED-9 QUOTATION MARK),",
  "NESTED (GREATER-THAN,LESS-(THAN,THAN WITH UNDERBAR)),OBLIQUE HYPHEN,PLUS,PRECEDES,PRIME,PRIME ",
  "QUOTATION MARK,QUESTION MARK,RIGHT ARC LESS-THAN BRACKET,SOLIDUS OPERATOR,SQUARE (",
  "INTERSECTION,UNION),STACKED COMMA,STROKE NOT SIGN,SUBSET,SUCCEEDS,SUPERSET,SUSPENSION MARK,",
  "UNION,UP TACK,VERTICAL (BAR,BAR (DOUBLE (LEFT TURNSTILE,RIGHT TURNSTILE),LEFT TURNSTILE),",
  "LINE),WAVY OVERLINE),DOUBLE-(ENDED MULTIMAP,LINE (EQUAL TO OR (GREATER-THAN,LESS-THAN),",
  "SLANTED (EQUAL TO OR (GREATER-THAN,LESS-THAN),GREATER-THAN OR EQUAL TO,LESS-THAN OR EQUAL ",
  "TO)),STRUCK (CAPITAL (C,GAMMA,H,N,P,PI,Q,R,Z),ITALIC (CAPITAL D,SMALL (D,E,I,J)),N-ARY ",
  "SUMMATION,SMALL (GAMMA,PI))),DOUBLED (FEMALE SIGN,MALE SIGN,SYMBOL),DOUGHNUT,DOVE OF PEACE,",
  "DOWN (ARROWHEAD,FISH TAIL,RIGHT DIAGONAL ELLIPSIS,TACK,TACK WITH CIRCLE BELOW),DOWN-POINTING (",
  "RED TRIANGLE,SMALL RED TRIANGLE,TRIANGLE WITH (LEFT HALF BLACK,RIGHT HALF BLACK)),DOWNWARD ",
  "FACING (HOOK,HOOK WITH DOT,NOTCHED (HOOK,HOOK WITH DOT)),DOWNWARDS (ANCORA,ARROW,ARROW (AND ",
  "RIGHT ONE EIGHTH BLOCK,FROM BAR,LEFTWARDS OF UPWARDS ARROW,TO BAR,WITH (CORNER LEFTWARDS,",
  "DOUBLE STROKE,EQUILATERAL ARROWHEAD,HORIZONTAL STROKE,LARGE TRIANGLE ARROWHEAD,MEDIUM ",
  "TRIANGLE ARROWHEAD,NOTCHED TAIL,SMALL (EQUILATERAL ARROWHEAD,TRIANGLE ARROWHEAD),TIP (",
  "LEFTWARDS,RIGHTWARDS))),BLACK (ARROW,CIRCLED WHITE ARROW),COMPRESSED ARROW,DASHED ARROW,",
  "DOUBLE ARROW,FINGER-POST ARROW,HARPOON WITH BARB (LEFT (BESIDE (DOWNWARDS HARPOON WITH BARB ",
  "RIGHT,UPWARDS HARPOON WITH BARB RIGHT),FROM BAR,TO BAR),LEFTWARDS,RIGHT (FROM BAR,TO BAR),",
  "RIGHTWARDS),HEAVY (ARROW,COMPRESSED ARROW),PAIRED ARROWS,QUADRUPLE ARROW,ROCKET,SANS-SERIF ",
  "ARROW,SQUARED ARROW,TRIANGLE ARROWHEAD,TRIANGLE-HEADED (ARROW,ARROW (LEFTWARDS OF UPWARDS ",
  "TRIANGLE-HEADED ARROW,TO BAR,WITH (BOLD SHAFT,DOUBLE HORIZONTAL STROKE,HEAVY SHAFT,LONG TIP (",
  "LEFTWARDS,RIGHTWARDS),MEDIUM SHAFT,NARROW SHAFT,VERY HEAVY SHAFT)),DASHED ARROW,PAIRED ARROWS,",
  "ZIGZAG ARROW),TRIPLE ARROW,TWO HEADED ARROW,TWO-HEADED ARROW WITH TRIANGLE ARROWHEADS,WHITE (",
  "ARROW,ARROW WITHIN TRIANGLE ARROWHEAD),ZIGZAG ARROW),DRACHMA SIGN,DRAFTING POINT RIGHTWARDS ",
  "ARROW,DRAGON,DRAGON FACE,DRESS,DRIVE SLOW SIGN,DROMEDARY CAMEL,DROOLING FACE,DROP OF BLOOD,",
  "DROPLET,DRUM WITH DRUMSTICKS,DUCK,DUMPLING,DUPLOYAN (AFFIX (ATTACHED (E HOOK,I HOOK,LEFT-TO-",
  "RIGHT SECANT,SECANT,TAIL,TANGENT,TANGENT HOOK),HIGH (ACUTE,CIRCLE,DOT,GRAVE,LINE,LONG GRAVE,",
  "TIGHT ACUTE,VERTICAL,VERTICAL SECANT,WAVE),LEFT HORIZONTAL SECANT,LOW (ACUTE,ARROW,CIRCLE,DOT,",
  "GRAVE,LINE,LONG GRAVE,TIGHT ACUTE,VERTICAL,VERTICAL SECANT,WAVE),MID (HORIZONTAL SECANT,",
  "VERTICAL SECANT),RIGHT HORIZONTAL SECANT),DOUBLE MARK,LETTER (A,AOU,B,D,D S,DH,E,EE,EU,F,F N,",
  "G,G R S,H,HL,I,IE,J,J (M,M S,N,N S,S,S WITH DOT,WITH (DOT,DOTS INSIDE AND ABOVE)),K,K (M,R S),",
  "KK,L,LH,LONG (I,U),M,M (N,N S,S,WITH DOT),N,N (M,M S,S,WITH DOT),NASAL (A,I,O,U),O,OA,OOH,OU,",
  "OW,P,P N,PERNIN (AM,AN),R,R S,RH,ROMANIAN (I,U),S,S (J,J S,K,K R,M,N,P,P R,S,T,T R,WITH (DOT,",
  "DOT BELOW)),SHORT I,SLOAN (AN,DH,EE,EH,EN,J,ON,OW,U),T,T (R S,S),TH,U,U N,UH,UI,V,VOCALIC M,W,",
  "W R,WA,WEI,WH,WI,WO,WOW,X,XW,YE),PUNCTUATION CHINOOK FULL STOP,SIGN O WITH CROSS,THICK LETTER ",
  "SELECTOR),DVD,E-MAIL SYMBOL,EAGLE,EAR,EAR (OF (MAIZE,RICE),WITH HEARING AID),EARTH,EARTH (",
  "GLOBE (AMERICAS,ASIA-AUSTRALIA,EUROPE-AFRICA),GROUND),EAST SYRIAC CROSS,EDITORIAL CORONIS,EGG,",
  "EGYPTIAN HIEROGLYPH (A001,A002,A003,A004,A005,A005A,A006,A006A,A006B,A007,A008,A009,A010,A011,",
  "A012,A013,A014,A014A,A015,A016,A017,A017A,A018,A019,A020,A021,A022,A023,A024,A025,A026,A027,",
  "A028,A029,A030,A031,A032,A032A,A033,A034,A035,A036,A037,A038,A039,A040,A040A,A041,A042,A042A,",
  "A043,A043A,A044,A045,A045A,A046,A047,A048,A049,A050,A051,A052,A053,A054,A055,A056,A057,A058,",
  "A059,A060,A061,A062,A063,A064,A065,A066,A067,A068,A069,A070,AA001,AA002,AA003,AA004,AA005,",
  "AA006,AA007,AA007A,AA007B,AA008,AA009,AA010,AA011,AA012,AA013,AA014,AA015,AA016,AA017,AA018,",
  "AA019,AA020,AA021,AA022,AA023,AA024,AA025,AA026,AA027,AA028,AA029,AA030,AA031,AA032,B001,B002,",
  "B003,B004,B005,B005A,B006,B007,B008,B009,BEGIN SEGMENT,C001,C002,C002A,C002B,C002C,C003,C004,",
  "C005,C006,C007,C008,C009,C010,C010A,C011,C012,C013,C014,C015,C016,C017,C018,C019,C020,C021,",
  "C022,C023,C024,D001,D002,D003,D004,D005,D006,D007,D008,D008A,D009,D010,D011,D012,D013,D014,",
  "D015,D016,D017,D018,D019,D020,D021,D022,D023,D024,D025,D026,D027,D027A,D028,D029,D030,D031,",
  "D031A,D032,D033,D034,D034A,D035,D036,D037,D038,D039,D040,D041,D042,D043,D044,D045,D046,D046A,",
  "D047,D048,D048A,D049,D050,D050A,D050B,D050C,D050D,D050E,D050F,D050G,D050H,D050I,D051,D052,",
  "D052A,D053,D054,D054A,D055,D056,D057,D058,D059,D060,D061,D062,D063,D064,D065,D066,D067,D067A,",
  "D067B,D067C,D067D,D067E,D067F,D067G,D067H,E001,E002,E003,E004,E005,E006,E007,E008,E008A,E009,",
  "E009A,E010,E011,E012,E013,E014,E015,E016,E016A,E017,E017A,E018,E019,E020,E020A,E021,E022,E023,",
  "E024,E025,E026,E027,E028,E028A,E029,E030,E031,E032,E033,E034,E034A,E036,E037,E038,END SEGMENT,",
  "F001,F001A,F002,F003,F004,F005,F006,F007,F008,F009,F010,F011,F012,F013,F013A,F014,F015,F016,",
  "F017,F018,F019,F020,F021,F021A,F022,F023,F024,F025,F026,F027,F028,F029,F030,F031,F031A,F032,",
  "F033,F034,F035,F036,F037,F037A,F038,F038A,F039,F040,F041,F042,F043,F044,F045,F045A,F046,F046A,",
  "F047,F047A,F048,F049,F050,F051,F051A,F051B,F051C,F052,F053,G001,G002,G003,G004,G005,G006,",
  "G006A,G007,G007A,G007B,G008,G009,G010,G011,G011A,G012,G013,G014,G015,G016,G017,G018,G019,G020,",
  "G020A,G021,G022,G023,G024,G025,G026,G026A,G027,G028,G029,G030,G031,G032,G033,G034,G035,G036,",
  "G036A,G037,G037A,G038,G039,G040,G041,G042,G043,G043A,G044,G045,G045A,G046,G047,G048,G049,G050,",
  "G051,G052,G053,G054,H001,H002,H003,H004,H005,H006,H006A,H007,H008,HORIZONTAL JOINER,I001,I002,",
  "I003,I004,I005,I005A,I006,I007,I008,I009,I009A,I010,I010A,I011,I011A,I012,I013,I014,I015,",
  "INSERT AT (BOTTOM (END,START),TOP (END,START)),K001,K002,K003,K004,K005,K006,K007,K008,L001,",
  "L002,L002A,L003,L004,L005,L006,L006A,L007,L008,M001,M001A,M001B,M002,M003,M003A,M004,M005,",
  "M006,M007,M008,M009,M010,M010A,M011,M012,M012A,M012B,M012C,M012D,M012E,M012F,M012G,M012H,M013,",
  "M014,M015,M015A,M016,M016A,M017,M017A,M018,M019,M020,M021,M022,M022A,M023,M024,M024A,M025,",
  "M026,M027,M028,M028A,M029,M030,M031,M031A,M032,M033,M033A,M033B,M034,M035,M036,M037,M038,M039,",
  "M040,M040A,M041,M042,M043,M044,N001,N002,N003,N004,N005,N006,N007,N008,N009,N010,N011,N012,",
  "N013,N014,N015,N016,N017,N018,N018A,N018B,N019,N020,N021,N022,N023,N024,N025,N025A,N026,N027,",
  "N028,N029,N030,N031,N032,N033,N033A,N034,N034A,N035,N035A,N036,N037,N037A,N038,N039,N040,N041,",
  "N042,NL001,NL002,NL003,NL004,NL005,NL005A,NL006,NL007,NL008,NL009,NL010,NL011,NL012,NL013,",
  "NL014,NL015,NL016,NL017,NL017A,NL018,NL019,NL020,NU001,NU002,NU003,NU004,NU005,NU006,NU007,",
  "NU008,NU009,NU010,NU010A,NU011,NU011A,NU012,NU013,NU014,NU015,NU016,NU017,NU018,NU018A,NU019,",
  "NU020,NU021,NU022,NU022A,O001,O001A,O002,O003,O004,O005,O005A,O006,O006A,O006B,O006C,O006D,",
  "O006E,O006F,O007,O008,O009,O010,O010A,O010B,O010C,O011,O012,O013,O014,O015,O016,O017,O018,",
  "O019,O019A,O020,O020A,O021,O022,O023,O024,O024A,O025,O025A,O026,O027,O028,O029,O029A,O030,",
  "O030A,O031,O032,O033,O033A,O034,O035,O036,O036A,O036B,O036C,O036D,O037,O038,O039,O040,O041,",
  "O042,O043,O044,O045,O046,O047,O048,O049,O050,O050A,O050B,O051,OVERLAY MIDDLE,P001,P001A,P002,",
  "P003,P003A,P004,P005,P006,P007,P008,P009,P010,P011,Q001,Q002,Q003,Q004,Q005,Q006,Q007,R001,",
  "R002,R002A,R003,R003A,R003B,R004,R005,R006,R007,R008,R009,R010,R010A,R011,R012,R013,R014,R015,",
  "R016,R016A,R017,R018,R019,R020,R021,R022,R023,R024,R025,R026,R027,R028,R029,S001,S002,S002A,",
  "S003,S004,S005,S006,S006A,S007,S008,S009,S010,S011,S012,S013,S014,S014A,S014B,S015,S016,S017,",
  "S017A,S018,S019,S020,S021,S022,S023,S024,S025,S026,S026A,S026B,S027,S028,S029,S030,S031,S032,",
  "S033,S034,S035,S035A,S036,S037,S038,S039,S040,S041,S042,S043,S044,S045,S046,T001,T002,T003,",
  "T003A,T004,T005,T006,T007,T007A,T008,T008A,T009,T009A,T010,T011,T011A,T012,T013,T014,T015,",
  "T016,T016A,T017,T018,T019,T020,T021,T022,T023,T024,T025,T026,T027,T028,T029,T030,T031,T032,",
  "T032A,T033,T033A,T034,T035,T036,U001,U002,U003,U004,U005,U006,U006A,U006B,U007,U008,U009,U010,",
  "U011,U012,U013,U014,U015,U016,U017,U018,U019,U020,U021,U022,U023,U023A,U024,U025,U026,U027,",
  "U028,U029,U029A,U030,U031,U032,U032A,U033,U034,U035,U036,U037,U038,U039,U040,U041,U042,V001,",
  "V001A,V001B,V001C,V001D,V001E,V001F,V001G,V001H,V001I,V002,V002A,V003,V004,V005,V006,V007,",
  "V007A,V007B,V008,V009,V010,V011,V011A,V011B,V011C,V012,V012A,V012B,V013,V014,V015,V016,V017,",
  "V018,V019,V020,V020A,V020B,V020C,V020D,V020E,V020F,V020G,V020H,V020I,V020J,V020K,V020L,V021,",
  "V022,V023,V023A,V024,V025,V026,V027,V028,V028A,V029,V029A,V030,V030A,V031,V031A,V032,V033,",
  "V033A,V034,V035,V036,V037,V037A,V038,V039,V040,V040A,VERTICAL JOINER,W001,W002,W003,W003A,",
  "W004,W005,W006,W007,W008,W009,W009A,W010,W010A,W011,W012,W013,W014,W014A,W015,W016,W017,W017A,",
  "W018,W018A,W019,W020,W021,W022,W023,W024,W024A,W025,X001,X002,X003,X004,X004A,X004B,X005,X006,",
  "X006A,X007,X008,X008A,Y001,Y001A,Y002,Y003,Y004,Y005,Y006,Y007,Y008,Z001,Z002,Z002A,Z002B,",
  "Z002C,Z002D,Z003,Z003A,Z003B,Z004,Z004A,Z005,Z005A,Z006,Z007,Z008,Z009,Z010,Z011,Z012,Z013,",
  "Z014,Z015,Z015A,Z015B,Z015C,Z015D,Z015E,Z015F,Z015G,Z015H,Z015I,Z016,Z016A,Z016B,Z016C,Z016D,",
  "Z016E,Z016F,Z016G,Z016H),EIGHT (PETALLED OUTLINED BLACK FLORETTE,POINTED (BLACK STAR,PINWHEEL ",
  "STAR,RECTILINEAR BLACK STAR),SPOKED ASTERISK,TEARDROP-SPOKED PROPELLER ASTERISK),EIGHTH NOTE,",
  "EJECT SYMBOL,ELBASAN LETTER (A,BE,CE,CHE,DE,DHE,E,EI,FE,GE,GHAMMA,GHE,GJE,HE,I,JE,KE,KHE,LE,",
  "LLE,ME,NA,NDE,NE,NJE,O,PE,QE,RE,RRE,SE,SHE,TE,THE,U,VE,XE,Y,ZE,ZHE),ELECTRIC (ARROW,LIGHT ",
  "BULB,PLUG,TORCH),ELECTRICAL INTERSECTION,ELEMENT (OF,OF (OPENING (DOWNWARDS,UPWARDS),WITH (",
  "DOT ABOVE,LONG HORIZONTAL STROKE,OVERBAR,TWO HORIZONTAL STROKES,UNDERBAR,VERTICAL BAR AT END ",
  "OF HORIZONTAL STROKE))),ELEPHANT,ELEVATOR,ELF,ELYMAIC (LETTER (ALEPH,AYIN,BETH,DALETH,GIMEL,",
  "HE,HETH,KAPH,LAMEDH,MEM,NUN,PE,QOPH,RESH,SADHE,SAMEKH,SHIN,TAW,TETH,WAW,YODH,ZAYIN),LIGATURE ",
  "ZAYIN-YODH),EM (DASH,QUAD,SPACE),EMOJI (COMPONENT (BALD,CURLY HAIR,RED HAIR,WHITE HAIR),",
  "MODIFIER FITZPATRICK TYPE-(1-2,3,4,5,6)),EMPHASIS SYMBOL,EMPTY (DOCUMENT,NEST,NOTE,NOTE (PAD,",
  "PAGE),PAGE,PAGES,SET,SET WITH (LEFT ARROW ABOVE,OVERBAR,RIGHT ARROW ABOVE,SMALL CIRCLE ",
  "ABOVE)),EN (DASH,QUAD,SPACE),END (OF (GUARDED AREA,LINE,MEDIUM,PROOF,PROTECTED AREA,SELECTED ",
  "AREA,TEXT,TRANSMISSION,TRANSMISSION BLOCK),WITH LEFTWARDS ARROW ABOVE),ENQ,ENQUIRY,ENTER ",
  "SYMBOL,ENVELOPE,ENVELOPE WITH (DOWNWARDS ARROW ABOVE,LIGHTNING),EOL,EOM,EOT,EPA,EQUAL (AND ",
  "PARALLEL TO,TO (BY DEFINITION,OR (GREATER-THAN,LESS-THAN,PRECEDES,SUCCEEDS))),EQUALS (COLON,",
  "SIGN,SIGN (ABOVE (LEFTWARDS ARROW,PLUS SIGN,RIGHTWARDS ARROW,TILDE OPERATOR),AND SLANTED (",
  "PARALLEL,PARALLEL WITH TILDE ABOVE),WITH (BUMPY ABOVE,DOT BELOW,INFINITY BELOW,TWO DOTS ABOVE ",
  "AND TWO DOTS BELOW)),WITH ASTERISK),EQUIANGULAR TO,EQUIVALENT (TO,WITH FOUR DOTS ABOVE),ERASE ",
  "TO THE (LEFT,RIGHT),ERIS FORM (ONE,TWO),ERROR-BARRED (BLACK (CIRCLE,DIAMOND,SQUARE),WHITE (",
  "CIRCLE,DIAMOND,SQUARE)),ESA,ESC,ESCAPE,ESTIMATED SYMBOL,ESTIMATES,ETB,ETHIOPIC (COLON,",
  "COMBINING (GEMINATION (AND VOWEL LENGTH MARK,MARK),VOWEL LENGTH MARK),COMMA,DIGIT (EIGHT,FIVE,",
  "FOUR,NINE,ONE,SEVEN,SIX,THREE,TWO),FULL STOP,NUMBER (EIGHTY,FIFTY,FORTY,HUNDRED,NINETY,",
  "SEVENTY,SIXTY,TEN,TEN THOUSAND,THIRTY,TWENTY),PARAGRAPH SEPARATOR,PREFACE COLON,QUESTION MARK,",
  "SECTION MARK,SEMICOLON,SYLLABLE (BA,BAA,BBA,BBAA,BBE,BBEE,BBI,BBO,BBU,BE,BEE,BI,BO,BOA,BU,BWA,",
  "BWE,BWEE,BWI,CA,CAA,CCA,CCAA,CCE,CCEE,CCHA,CCHAA,CCHE,CCHEE,CCHHA,CCHHAA,CCHHE,CCHHEE,CCHHI,",
  "CCHHO,CCHHU,CCHI,CCHO,CCHU,CCI,CCO,CCU,CE,CEE,CHA,CHAA,CHE,CHEE,CHI,CHO,CHOA,CHU,CHWA,CI,CO,",
  "COA,CU,CWA,DA,DAA,DDA,DDAA,DDE,DDEE,DDHAA,DDHE,DDHEE,DDHI,DDHO,DDHU,DDI,DDO,DDOA,DDU,DDWA,DE,",
  "DEE,DI,DO,DOA,DU,DWA,DZAA,DZE,DZEE,DZI,DZO,DZU,FA,FAA,FE,FEE,FI,FO,FU,FWA,FWE,FWEE,FWI,FYA,GA,",
  "GAA,GE,GEE,GGA,GGAA,GGE,GGEE,GGI,GGO,GGU,GGWA,GGWAA,GGWE,GGWEE,GGWI,GI,GLOTTAL (A,AA,E,EE,I,O,",
  "OA,U,WA),GO,GOA,GU,GURAGE (BWEE,BWI,FWEE,FWI,GWE,GWEE,GWI,HHWA,KWE,KWEE,KWI,MWEE,MWI,PWEE,PWI,",
  "QWE,QWEE,QWI),GWA,GWAA,GWE,GWEE,GWI,GYA,GYAA,GYE,GYEE,GYI,GYO,GYU,HA,HAA,HE,HEE,HHA,HHAA,HHE,",
  "HHEE,HHI,HHO,HHU,HHWA,HHWE,HHWEE,HHWI,HHYA,HHYAA,HHYE,HHYEE,HHYI,HHYO,HHYU,HI,HO,HOA,HU,JA,",
  "JAA,JE,JEE,JI,JO,JOA,JU,JWA,KA,KAA,KE,KEE,KI,KO,KOA,KU,KWA,KWAA,KWE,KWEE,KWI,KXA,KXAA,KXE,",
  "KXEE,KXI,KXO,KXU,KXWA,KXWAA,KXWE,KXWEE,KXWI,KYA,KYAA,KYE,KYEE,KYI,KYO,KYU,LA,LAA,LE,LEE,LI,LO,",
  "LOA,LU,LWA,MA,MAA,ME,MEE,MI,MO,MOA,MU,MWA,MWE,MWEE,MWI,MYA,NA,NAA,NE,NEE,NI,NO,NOA,NU,NWA,NYA,",
  "NYAA,NYE,NYEE,NYI,NYO,NYOA,NYU,NYWA,PA,PAA,PE,PEE,PHA,PHAA,PHARYNGEAL (A,AA,E,EE,I,O,U),PHE,",
  "PHEE,PHI,PHO,PHOA,PHU,PHWA,PI,PO,POA,PU,PWA,PWE,PWEE,PWI,QA,QAA,QE,QEE,QHA,QHAA,QHE,QHEE,QHI,",
  "QHO,QHU,QHWA,QHWAA,QHWE,QHWEE,QHWI,QI,QO,QOA,QU,QWA,QWAA,QWE,QWEE,QWI,QYA,QYAA,QYE,QYEE,QYI,",
  "QYO,QYU,RA,RAA,RE,REE,RI,RO,ROA,RU,RWA,RYA,SA,SAA,SE,SEBATBEIT (BWA,FWA,MWA,PWA),SEE,SHA,SHAA,",
  "SHE,SHEE,SHI,SHO,SHOA,SHU,SHWA,SI,SO,SOA,SSA,SSAA,SSE,SSEE,SSI,SSO,SSU,SU,SWA,SZA,SZAA,SZE,",
  "SZEE,SZI,SZO,SZU,SZWA,TA,TAA,TE,TEE,THA,THAA,THE,THEE,THI,THO,THOA,THU,THWA,TI,TO,TOA,TSA,",
  "TSAA,TSE,TSEE,TSI,TSO,TSU,TSWA,TTHAA,TTHE,TTHEE,TTHI,TTHO,TTHU,TU,TWA,TZA,TZAA,TZE,TZEE,TZI,",
  "TZO,TZOA,TZU,VA,VAA,VE,VEE,VI,VO,VU,VWA,WA,WAA,WE,WEE,WI,WO,WOA,WU,XA,XAA,XE,XEE,XI,XO,XOA,XU,",
  "XWA,XWAA,XWE,XWEE,XWI,XYA,XYAA,XYE,XYEE,XYI,XYO,XYU,YA,YAA,YE,YEE,YI,YO,YOA,YU,ZA,ZAA,ZE,ZEE,",
  "ZHA,ZHAA,ZHE,ZHEE,ZHI,ZHO,ZHU,ZHWA,ZI,ZO,ZOA,ZU,ZWA,ZZA,ZZAA,ZZE,ZZEE,ZZI,ZZO,ZZU),TONAL ",
  "MARK (CHIRET,DERET,DERET-HIDET,DIFAT,HIDET,KENAT,KURT,RIKRIK,SHORT RIKRIK,YIZET),WORDSPACE),",
  "ETX,EULER CONSTANT,EURO SIGN,EURO-CURRENCY SIGN,EUROPEAN (CASTLE,POST OFFICE),EVERGREEN TREE,",
  "EXCESS,EXCLAMATION (MARK,QUESTION MARK),EXPRESSIONLESS FACE,EXTENDED ARABIC-INDIC DIGIT (",
  "EIGHT,FIVE,FOUR,NINE,ONE,SEVEN,SIX,THREE,TWO,ZERO),EXTRATERRESTRIAL ALIEN,EXTREMELY HEAVY (",
  "FIVE SPOKED ASTERISK,GREEK CROSS,SALTIRE,SIX SPOKED ASTERISK,WHITE (CIRCLE,SQUARE)),EYE,",
  "EYEGLASSES,EYES,FACE (HOLDING BACK TEARS,MASSAGE,PALM,SAVOURING DELICIOUS FOOD,SCREAMING IN ",
  "FEAR,THROWING A KISS,WITH (COLD SWEAT,COWBOY HAT,DIAGONAL MOUTH,FINGER COVERING CLOSED LIPS,",
  "HEAD-BANDAGE,LOOK OF TRIUMPH,MEDICAL MASK,MONOCLE,NO GOOD GESTURE,OK GESTURE,ONE EYEBROW ",
  "RAISED,OPEN (EYES AND HAND OVER MOUTH,MOUTH,MOUTH (AND COLD SWEAT,VOMITING)),PARTY HORN AND ",
  "PARTY HAT,PEEKING EYE,PLEADING EYES,ROLLING EYES,STUCK-OUT (TONGUE,TONGUE AND (TIGHTLY-CLOSED ",
  "EYES,WINKING EYE)),TEARS OF JOY,THERMOMETER,UNEVEN EYES AND WAVY MOUTH),WITHOUT MOUTH),",
  "FACSIMILE SIGN,FACTORY,FAIRY,FALAFEL,FALLEN LEAF,FALLING DIAGONAL (CROSSING (NORTH EAST ARROW,",
  "RISING DIAGONAL),IN WHITE CIRCLE IN BLACK SQUARE),FAMILY,FARSI SYMBOL,FATHER CHRISTMAS,FAX (",
  "ICON,MACHINE),FEARFUL FACE,FEATHER,FEMALE SIGN,FEMININE ORDINAL INDICATOR,FENCER,FERRIS WHEEL,",
  "FERRY,FF,FIELD HOCKEY STICK AND BALL,FIGURE (DASH,SPACE),FILE (CABINET,FOLDER,SEPARATOR),",
  "FILM (FRAMES,PROJECTOR),FINITE PART INTEGRAL,FIRE,FIRE (ENGINE,EXTINGUISHER),FIRECRACKER,",
  "FIREWORK SPARKLER,FIREWORKS,FIRST (PLACE MEDAL,QUARTER (MOON,MOON (SYMBOL,WITH FACE)),STRONG ",
  "ISOLATE),FISH,FISH CAKE WITH SWIRL DESIGN,FISHEYE,FISHING POLE AND FISH,FISTED HAND SIGN,FIVE ",
  "DOT (MARK,PUNCTUATION),FLAG IN HOLE,FLAMINGO,FLAT SHOE,FLATBREAD,FLATNESS,FLEUR-DE-LIS,FLEXED ",
  "BICEPS,FLOPPY DISK,FLORAL HEART,FLOWER,FLOWER (PLAYING CARDS,PUNCTUATION MARK),FLUSHED FACE,",
  "FLY,FLYING (DISC,ENVELOPE,SAUCER),FOG,FOGGY,FOLDER,FONDUE,FOOT,FOOTPRINTS,FOR ALL,FORCES,FORK ",
  "AND (KNIFE,KNIFE WITH PLATE),FORKED PARAGRAPHOS,FORKING,FORM FEED,FORTUNE COOKIE,FOUNTAIN,",
  "FOUR (BALLOON-SPOKED ASTERISK,CLUB-SPOKED ASTERISK,CORNER ARROWS CIRCLING ANTICLOCKWISE,DOT (",
  "MARK,PUNCTUATION),LEAF CLOVER,POINTED BLACK STAR,TEARDROP-SPOKED ASTERISK),FOUR-PER-EM SPACE,",
  "FOURTH ROOT,FOX FACE,FRACTION (NUMERATOR ONE,SLASH),FRAME WITH (AN X,PICTURE,TILES),FREEZING ",
  "FACE,FRENCH (FRANC SIGN,FRIES),FRIED SHRIMP,FROG FACE,FRONT-(FACING BABY CHICK,TILTED ",
  "SHADOWED WHITE RIGHTWARDS ARROW),FROWN,FROWNING FACE WITH OPEN MOUTH,FS,FSI,FUEL PUMP,FULL (",
  "BLOCK,MOON (SYMBOL,WITH FACE),OUTER JOIN,STOP),FULLWIDTH (AMPERSAND,APOSTROPHE,ASTERISK,",
  "BROKEN BAR,CENT SIGN,CIRCUMFLEX ACCENT,COLON,COMMA,COMMERCIAL AT,DIGIT (EIGHT,FIVE,FOUR,NINE,",
  "ONE,SEVEN,SIX,THREE,TWO,ZERO),DOLLAR SIGN,EQUALS SIGN,EXCLAMATION MARK,FULL STOP,GRAVE ACCENT,",
  "GREATER-THAN SIGN,HYPHEN-MINUS,LATIN (CAPITAL LETTER (A,B,C,D,E,F,G,H,I,J,K,L,M,N,O,P,Q,R,S,T,",
  "U,V,W,X,Y,Z),SMALL LETTER (A,B,C,D,E,F,G,H,I,J,K,L,M,N,O,P,Q,R,S,T,U,V,W,X,Y,Z)),LEFT (CURLY ",
  "BRACKET,PARENTHESIS,SQUARE BRACKET,WHITE PARENTHESIS),LESS-THAN SIGN,LOW LINE,MACRON,NOT SIGN,",
  "NUMBER SIGN,PERCENT SIGN,PLUS SIGN,POUND SIGN,QUESTION MARK,QUOTATION MARK,REVERSE SOLIDUS,",
  "RIGHT (CURLY BRACKET,PARENTHESIS,SQUARE BRACKET,WHITE PARENTHESIS),SEMICOLON,SOLIDUS,TILDE,",
  "VERTICAL LINE,WON SIGN,YEN SIGN),FUNCTION APPLICATION,FUNERAL URN,FUSE,FVS1,FVS2,FVS3,FVS4"
]

end CharacterName
end Text
end ModelNav
