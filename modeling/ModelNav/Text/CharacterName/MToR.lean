import ModelNav.Text.Basic

/-!
# Names of characters from M to R

Names that begin alike are written once up to where they part.  What may follow stands in brackets,
with commas between.  A list goes on from one line to the next.
-/

namespace ModelNav
namespace Text
namespace CharacterName

/-- The names that begin with a letter from M to R. -/
def mToR : List String := [
  "MACRON,MAGE,MAGIC WAND,MAGNET,MAHAJANI (ABBREVIATION SIGN,LETTER (A,BA,BHA,CA,CHA,DA,DDA,DDHA,",
  "DHA,E,GA,GHA,HA,I,JA,JHA,KA,KHA,LA,MA,NA,NNA,NYA,O,PA,PHA,RA,RRA,SA,TA,THA,TTA,TTHA,U,VA),",
  "LIGATURE SHRI,SECTION MARK,SIGN NUKTA),MAHJONG TILE (AUTUMN,BACK,BAMBOO,CHRYSANTHEMUM,EAST ",
  "WIND,EIGHT OF (BAMBOOS,CHARACTERS,CIRCLES),FIVE OF (BAMBOOS,CHARACTERS,CIRCLES),FOUR OF (",
  "BAMBOOS,CHARACTERS,CIRCLES),GREEN DRAGON,JOKER,NINE OF (BAMBOOS,CHARACTERS,CIRCLES),NORTH ",
  "WIND,ONE OF (BAMBOOS,CHARACTERS,CIRCLES),ORCHID,PLUM,RED DRAGON,SEVEN OF (BAMBOOS,CHARACTERS,",
  "CIRCLES),SIX OF (BAMBOOS,CHARACTERS,CIRCLES),SOUTH WIND,SPRING,SUMMER,THREE OF (BAMBOOS,",
  "CHARACTERS,CIRCLES),TWO OF (BAMBOOS,CHARACTERS,CIRCLES),WEST WIND,WHITE DRAGON,WINTER),",
  "MAKASAR (ANGKA,END OF SECTION,LETTER (A,BA,CA,DA,GA,JA,KA,LA,MA,NA,NGA,NYA,PA,RA,SA,TA,VA,YA),",
  "PASSIMBANG,VOWEL SIGN (E,I,O,U)),MALAYALAM (AU LENGTH MARK,DATE MARK,DIGIT (EIGHT,FIVE,FOUR,",
  "NINE,ONE,SEVEN,SIX,THREE,TWO,ZERO),FRACTION (ONE (EIGHTH,FIFTH,FORTIETH,HALF,ONE-HUNDRED-AND-",
  "SIXTIETH,QUARTER,SIXTEENTH,TENTH,TWENTIETH),THREE (EIGHTIETHS,QUARTERS,SIXTEENTHS,",
  "TWENTIETHS)),LETTER (A,AA,AI,ARCHAIC II,AU,BA,BHA,CA,CHA,CHILLU (K,L,LL,LLL,M,N,NN,RR,Y),DA,",
  "DDA,DDHA,DHA,DOT REPH,E,EE,GA,GHA,HA,I,II,JA,JHA,KA,KHA,LA,LLA,LLLA,MA,NA,NGA,NNA,NNNA,NYA,O,",
  "OO,PA,PHA,RA,RRA,SA,SHA,SSA,TA,THA,TTA,TTHA,TTTA,U,UU,VA,VEDIC ANUSVARA,VOCALIC (L,LL,R,RR),",
  "YA),NUMBER (ONE (HUNDRED,THOUSAND),TEN),SIGN (ANUSVARA,AVAGRAHA,CANDRABINDU,CIRCULAR VIRAMA,",
  "COMBINING ANUSVARA ABOVE,PARA,VERTICAL BAR VIRAMA,VIRAMA,VISARGA),VOWEL SIGN (AA,AI,AU,E,EE,I,",
  "II,O,OO,U,UU,VOCALIC (L,LL,R,RR))),MALE (AND FEMALE SIGN,SIGN,WITH STROKE (AND MALE AND ",
  "FEMALE SIGN,SIGN)),MALTESE CROSS,MAMMOTH,MAN,MAN (AND WOMAN HOLDING HANDS,DANCING,IN (",
  "BUSINESS SUIT LEVITATING,TUXEDO),WITH (GUA PI MAO,TURBAN)),MANAT SIGN,MANDAIC (AFFRICATION ",
  "MARK,GEMINATION MARK,LETTER (AB,AD,AG,AH,AIN,AK,AKSA,AL,AM,AN,AP,AQ,AR,AS,ASH,ASZ,AT,ATT,AZ,",
  "DUSHENNA,HALQA,IN,IT,KAD,USHENNA),PUNCTUATION,VOCALIZATION MARK),MANGO,MANICHAEAN (",
  "ABBREVIATION MARK (ABOVE,BELOW),LETTER (AAYIN,ALEPH,AYIN,BETH,BHETH,DALETH,DHAMEDH,FE,GHIMEL,",
  "GIMEL,HE,HETH,JAYIN,JHAYIN,KAPH,KHAPH,LAMEDH,MEM,NUN,PE,QHOPH,QOPH,RESH,SADHE,SAMEKH,SHIN,",
  "SSHIN,TAW,TETH,THAMEDH,WAW,XAPH,XOPH,YODH,ZAYIN,ZHAYIN),NUMBER (FIVE,ONE,ONE HUNDRED,TEN,",
  "TWENTY),PUNCTUATION (DOT,DOT WITHIN DOT,DOUBLE DOT WITHIN DOT,FLEURON,LINE FILLER,STAR,TWO ",
  "DOTS),SIGN UD),MANS SHOE,MANTELPIECE CLOCK,MANUAL WHEELCHAIR,MAP SYMBOL FOR LIGHTHOUSE,MAPLE ",
  "LEAF,MARCHEN (HEAD MARK,LETTER (-A,A,BA,CA,CHA,DA,DZA,GA,HA,JA,KA,KHA,LA,MA,NA,NGA,NYA,PA,PHA,",
  "RA,SA,SHA,TA,THA,TSA,TSHA,WA,YA,ZA,ZHA),MARK SHAD,SIGN (ANUSVARA,CANDRABINDU),SUBJOINED ",
  "LETTER (A,BA,CA,CHA,DA,DZA,GA,HA,JA,KA,KHA,LA,MA,NA,NGA,NYA,PA,PHA,RA,SA,SHA,TA,THA,TSA,TSHA,",
  "WA,YA,ZA,ZHA),VOWEL SIGN (AA,E,I,O,U)),MARRIAGE SYMBOL,MARTIAL ARTS UNIFORM,MASARAM GONDI (",
  "DIGIT (EIGHT,FIVE,FOUR,NINE,ONE,SEVEN,SIX,THREE,TWO,ZERO),LETTER (A,AA,AI,AU,BA,BHA,CA,CHA,DA,",
  "DDA,DDHA,DHA,E,GA,GHA,HA,I,II,JA,JHA,JNYA,KA,KHA,KSSA,LA,LLA,MA,NA,NGA,NNA,NYA,O,PA,PHA,RA,SA,",
  "SHA,SSA,TA,THA,TRA,TTA,TTHA,U,UU,VA,YA),RA-KARA,REPHA,SIGN (ANUSVARA,CANDRA,HALANTA,NUKTA,",
  "VISARGA),VIRAMA,VOWEL SIGN (AA,AI,AU,E,I,II,O,U,UU,VOCALIC R)),MASCULINE ORDINAL INDICATOR,",
  "MASK WORK SYMBOL,MASU MARK,MATE DRINK,MATHEMATICAL (BOLD (CAPITAL (A,ALPHA,B,BETA,C,CHI,D,",
  "DELTA,DIGAMMA,E,EPSILON,ETA,F,G,GAMMA,H,I,IOTA,J,K,KAPPA,L,LAMDA,M,MU,N,NU,O,OMEGA,OMICRON,P,",
  "PHI,PI,PSI,Q,R,RHO,S,SIGMA,T,TAU,THETA,THETA SYMBOL,U,UPSILON,V,W,X,XI,Y,Z,ZETA),DIGIT (EIGHT,",
  "FIVE,FOUR,NINE,ONE,SEVEN,SIX,THREE,TWO,ZERO),EPSILON SYMBOL,FRAKTUR (CAPITAL (A,B,C,D,E,F,G,H,",
  "I,J,K,L,M,N,O,P,Q,R,S,T,U,V,W,X,Y,Z),SMALL (A,B,C,D,E,F,G,H,I,J,K,L,M,N,O,P,Q,R,S,T,U,V,W,X,Y,",
  "Z)),ITALIC (CAPITAL (A,ALPHA,B,BETA,C,CHI,D,DELTA,E,EPSILON,ETA,F,G,GAMMA,H,I,IOTA,J,K,KAPPA,",
  "L,LAMDA,M,MU,N,NU,O,OMEGA,OMICRON,P,PHI,PI,PSI,Q,R,RHO,S,SIGMA,T,TAU,THETA,THETA SYMBOL,U,",
  "UPSILON,V,W,X,XI,Y,Z,ZETA),EPSILON SYMBOL,KAPPA SYMBOL,NABLA,PARTIAL DIFFERENTIAL,PHI SYMBOL,",
  "PI SYMBOL,RHO SYMBOL,SMALL (A,ALPHA,B,BETA,C,CHI,D,DELTA,E,EPSILON,ETA,F,FINAL SIGMA,G,GAMMA,",
  "H,I,IOTA,J,K,KAPPA,L,LAMDA,M,MU,N,NU,O,OMEGA,OMICRON,P,PHI,PI,PSI,Q,R,RHO,S,SIGMA,T,TAU,THETA,",
  "U,UPSILON,V,W,X,XI,Y,Z,ZETA),THETA SYMBOL),KAPPA SYMBOL,NABLA,PARTIAL DIFFERENTIAL,PHI SYMBOL,",
  "PI SYMBOL,RHO SYMBOL,SCRIPT (CAPITAL (A,B,C,D,E,F,G,H,I,J,K,L,M,N,O,P,Q,R,S,T,U,V,W,X,Y,Z),",
  "SMALL (A,B,C,D,E,F,G,H,I,J,K,L,M,N,O,P,Q,R,S,T,U,V,W,X,Y,Z)),SMALL (A,ALPHA,B,BETA,C,CHI,D,",
  "DELTA,DIGAMMA,E,EPSILON,ETA,F,FINAL SIGMA,G,GAMMA,H,I,IOTA,J,K,KAPPA,L,LAMDA,M,MU,N,NU,O,",
  "OMEGA,OMICRON,P,PHI,PI,PSI,Q,R,RHO,S,SIGMA,T,TAU,THETA,U,UPSILON,V,W,X,XI,Y,Z,ZETA),THETA ",
  "SYMBOL),DOUBLE-STRUCK (CAPITAL (A,B,D,E,F,G,I,J,K,L,M,O,S,T,U,V,W,X,Y),DIGIT (EIGHT,FIVE,FOUR,",
  "NINE,ONE,SEVEN,SIX,THREE,TWO,ZERO),SMALL (A,B,C,D,E,F,G,H,I,J,K,L,M,N,O,P,Q,R,S,T,U,V,W,X,Y,",
  "Z)),FALLING DIAGONAL,FRAKTUR (CAPITAL (A,B,D,E,F,G,J,K,L,M,N,O,P,Q,S,T,U,V,W,X,Y),SMALL (A,B,",
  "C,D,E,F,G,H,I,J,K,L,M,N,O,P,Q,R,S,T,U,V,W,X,Y,Z)),ITALIC (CAPITAL (A,ALPHA,B,BETA,C,CHI,D,",
  "DELTA,E,EPSILON,ETA,F,G,GAMMA,H,I,IOTA,J,K,KAPPA,L,LAMDA,M,MU,N,NU,O,OMEGA,OMICRON,P,PHI,PI,",
  "PSI,Q,R,RHO,S,SIGMA,T,TAU,THETA,THETA SYMBOL,U,UPSILON,V,W,X,XI,Y,Z,ZETA),EPSILON SYMBOL,",
  "KAPPA SYMBOL,NABLA,PARTIAL DIFFERENTIAL,PHI SYMBOL,PI SYMBOL,RHO SYMBOL,SMALL (A,ALPHA,B,BETA,",
  "C,CHI,D,DELTA,DOTLESS (I,J),E,EPSILON,ETA,F,FINAL SIGMA,G,GAMMA,I,IOTA,J,K,KAPPA,L,LAMDA,M,MU,",
  "N,NU,O,OMEGA,OMICRON,P,PHI,PI,PSI,Q,R,RHO,S,SIGMA,T,TAU,THETA,U,UPSILON,V,W,X,XI,Y,Z,ZETA),",
  "THETA SYMBOL),LEFT (ANGLE BRACKET,DOUBLE ANGLE BRACKET,FLATTENED PARENTHESIS,WHITE (SQUARE ",
  "BRACKET,TORTOISE SHELL BRACKET)),MONOSPACE (CAPITAL (A,B,C,D,E,F,G,H,I,J,K,L,M,N,O,P,Q,R,S,T,",
  "U,V,W,X,Y,Z),DIGIT (EIGHT,FIVE,FOUR,NINE,ONE,SEVEN,SIX,THREE,TWO,ZERO),SMALL (A,B,C,D,E,F,G,H,",
  "I,J,K,L,M,N,O,P,Q,R,S,T,U,V,W,X,Y,Z)),RIGHT (ANGLE BRACKET,DOUBLE ANGLE BRACKET,FLATTENED ",
  "PARENTHESIS,WHITE (SQUARE BRACKET,TORTOISE SHELL BRACKET)),RISING DIAGONAL,SANS-SERIF (BOLD (",
  "CAPITAL (A,ALPHA,B,BETA,C,CHI,D,DELTA,E,EPSILON,ETA,F,G,GAMMA,H,I,IOTA,J,K,KAPPA,L,LAMDA,M,MU,",
  "N,NU,O,OMEGA,OMICRON,P,PHI,PI,PSI,Q,R,RHO,S,SIGMA,T,TAU,THETA,THETA SYMBOL,U,UPSILON,V,W,X,XI,",
  "Y,Z,ZETA),DIGIT (EIGHT,FIVE,FOUR,NINE,ONE,SEVEN,SIX,THREE,TWO,ZERO),EPSILON SYMBOL,ITALIC (",
  "CAPITAL (A,ALPHA,B,BETA,C,CHI,D,DELTA,E,EPSILON,ETA,F,G,GAMMA,H,I,IOTA,J,K,KAPPA,L,LAMDA,M,MU,",
  "N,NU,O,OMEGA,OMICRON,P,PHI,PI,PSI,Q,R,RHO,S,SIGMA,T,TAU,THETA,THETA SYMBOL,U,UPSILON,V,W,X,XI,",
  "Y,Z,ZETA),EPSILON SYMBOL,KAPPA SYMBOL,NABLA,PARTIAL DIFFERENTIAL,PHI SYMBOL,PI SYMBOL,RHO ",
  "SYMBOL,SMALL (A,ALPHA,B,BETA,C,CHI,D,DELTA,E,EPSILON,ETA,F,FINAL SIGMA,G,GAMMA,H,I,IOTA,J,K,",
  "KAPPA,L,LAMDA,M,MU,N,NU,O,OMEGA,OMICRON,P,PHI,PI,PSI,Q,R,RHO,S,SIGMA,T,TAU,THETA,U,UPSILON,V,",
  "W,X,XI,Y,Z,ZETA),THETA SYMBOL),KAPPA SYMBOL,NABLA,PARTIAL DIFFERENTIAL,PHI SYMBOL,PI SYMBOL,",
  "RHO SYMBOL,SMALL (A,ALPHA,B,BETA,C,CHI,D,DELTA,E,EPSILON,ETA,F,FINAL SIGMA,G,GAMMA,H,I,IOTA,J,",
  "K,KAPPA,L,LAMDA,M,MU,N,NU,O,OMEGA,OMICRON,P,PHI,PI,PSI,Q,R,RHO,S,SIGMA,T,TAU,THETA,U,UPSILON,",
  "V,W,X,XI,Y,Z,ZETA),THETA SYMBOL),CAPITAL (A,B,C,D,E,F,G,H,I,J,K,L,M,N,O,P,Q,R,S,T,U,V,W,X,Y,",
  "Z),DIGIT (EIGHT,FIVE,FOUR,NINE,ONE,SEVEN,SIX,THREE,TWO,ZERO),ITALIC (CAPITAL (A,B,C,D,E,F,G,H,",
  "I,J,K,L,M,N,O,P,Q,R,S,T,U,V,W,X,Y,Z),SMALL (A,B,C,D,E,F,G,H,I,J,K,L,M,N,O,P,Q,R,S,T,U,V,W,X,Y,",
  "Z)),SMALL (A,B,C,D,E,F,G,H,I,J,K,L,M,N,O,P,Q,R,S,T,U,V,W,X,Y,Z)),SCRIPT (CAPITAL (A,C,D,G,J,K,",
  "N,O,P,Q,S,T,U,V,W,X,Y,Z),SMALL (A,B,C,D,F,H,I,J,K,L,M,N,P,Q,R,S,T,U,V,W,X,Y,Z))),MAXIMIZE,",
  "MAYAN NUMERAL (EIGHT,EIGHTEEN,ELEVEN,FIFTEEN,FIVE,FOUR,FOURTEEN,NINE,NINETEEN,ONE,SEVEN,",
  "SEVENTEEN,SIX,SIXTEEN,TEN,THIRTEEN,THREE,TWELVE,TWO,ZERO),MEASURED (ANGLE,ANGLE (OPENING LEFT,",
  "WITH OPEN ARM ENDING IN ARROW POINTING (DOWN AND (LEFT,RIGHT),LEFT AND (DOWN,UP),RIGHT AND (",
  "DOWN,UP),UP AND (LEFT,RIGHT))),BY,RIGHT ANGLE WITH DOT),MEAT ON BONE,MECHANICAL (ARM,LEG),",
  "MEDEFAIDRIN (CAPITAL LETTER (A,AI,ATIU,B,C,D,E,F,G,H,HP,I,J,K,KP,L,M,N,NG,NY,O,OE,P,Q,R,S,T,U,",
  "V,W,X,Y,YU,Z),COMMA,DIGIT (EIGHT,FIVE,FOUR,NINE,ONE,ONE ALTERNATE FORM,SEVEN,SIX,THREE,THREE ",
  "ALTERNATE FORM,TWO,TWO ALTERNATE FORM,ZERO),EXCLAMATION OH,FULL STOP,NUMBER (EIGHTEEN,ELEVEN,",
  "FIFTEEN,FOURTEEN,NINETEEN,SEVENTEEN,SIXTEEN,TEN,THIRTEEN,TWELVE),SMALL LETTER (A,AI,ATIU,B,C,",
  "D,E,F,G,H,HP,I,J,K,KP,L,M,N,NG,NY,O,OE,P,Q,R,S,T,U,V,W,X,Y,YU,Z),SYMBOL AIVA),MEDIEVAL (COMMA,",
  "EXCLAMATION MARK,QUESTION MARK),MEDIUM (BLACK CIRCLE,BOLD WHITE CIRCLE,EIGHT (POINTED BLACK ",
  "STAR,SPOKED ASTERISK),FIVE SPOKED ASTERISK,FLATTENED (LEFT PARENTHESIS ORNAMENT,RIGHT ",
  "PARENTHESIS ORNAMENT),FOUR POINTED (BLACK STAR,PINWHEEL STAR),GREEK CROSS,LEFT (CURLY BRACKET ",
  "ORNAMENT,PARENTHESIS ORNAMENT),LEFT-POINTING ANGLE BRACKET ORNAMENT,MATHEMATICAL SPACE,RIGHT (",
  "CURLY BRACKET ORNAMENT,PARENTHESIS ORNAMENT),RIGHT-POINTING ANGLE BRACKET ORNAMENT,SALTIRE,",
  "SHADE,SIX (POINTED BLACK STAR,SPOKED ASTERISK),SMALL WHITE CIRCLE,THREE POINTED (BLACK STAR,",
  "PINWHEEL STAR),VERTICAL BAR,WHITE (CIRCLE,SQUARE)),MEETEI MAYEK (AHANG KHUDAM,ANJI,APUN IYEK,",
  "CHEIKHAN,CHEIKHEI,DIGIT (EIGHT,FIVE,FOUR,NINE,ONE,SEVEN,SIX,THREE,TWO,ZERO),LETTER (ATIYA,BA,",
  "BHAM,CHA,CHIL,DDA,DDHA,DHOU,DIL,E,GHOU,GOK,HUK,I,I LONSUM,JHAM,JIL,KHOU,KOK,KOK LONSUM,LAI,",
  "LAI LONSUM,MIT,MIT LONSUM,NA,NA LONSUM,NGOU,NGOU LONSUM,NNA,NYA,O,PA,PA LONSUM,PHAM,RAI,SAM,",
  "SHA,SSA,THOU,TIL,TIL LONSUM,TTA,TTHA,UN,WAI,YANG),LUM IYEK,SYLLABLE REPETITION MARK,VIRAMA,",
  "VOWEL SIGN (AAI,AAU,ANAP,AU,CHEINAP,II,INAP,NUNG,ONAP,SOUNAP,UNAP,UU,VISARGA,YENAP),WORD ",
  "REPETITION MARK),MELON,MELTING FACE,MEMO,MENDE KIKAKUI (COMBINING NUMBER (HUNDRED THOUSANDS,",
  "HUNDREDS,MILLIONS,TEENS,TEN THOUSANDS,TENS,THOUSANDS),DIGIT (EIGHT,FIVE,FOUR,NINE,ONE,SEVEN,",
  "SIX,THREE,TWO),SYLLABLE (M001 KI,M002 KA,M003 KU,M004 WI,M005 WA,M006 WU,M007 MIN,M008 MAN,",
  "M009 MUN,M010 BI,M011 BA,M012 BU,M013 I,M014 A,M015 U,M016 DI,M017 DA,M018 DU,M019 SI,M020 SA,",
  "M021 SU,M022 TI,M023 TA,M024 TU,M025 LI,M026 LA,M027 LU,M028 JI,M029 JA,M030 JU,M031 YI,M032 ",
  "YA,M033 YU,M034 FI,M035 FA,M036 FU,M037 NIN,M038 NAN,M039 NUN,M040 HEE,M041 HA,M042 HOO,M043 ",
  "NGGA,M044 KPEE,M045 WO,M046 HUAN,M047 MBEE,M048 KO,M049 WVA,M050 PU,M051 PE,M052 HEN,M053 HIN,",
  "M054 LOO,M055 TE,M056 GBA,M057 NGON,M058 NYAN,M059 MEN,M060 NYON,M061 WVI,M062 MBA,M063 JO,",
  "M064 NDO,M065 KEE,M066 PO,M067 NDOO,M068 PI,M069 TO,M070 GBO,M071 GBOO,M072 MBE,M073 LE,M074 ",
  "KPU,M075 FE,M076 KOO,M077 VO,M078 FEE,M079 SO,M080 YE,M081 PEE,M082 NGGU,M083 HEEI,M084 LEE,",
  "M085 VE,M086 LONG NGGE,M087 HUN,M088 FO,M089 DEE,M090 NGGI,M091 TEE,M092 KPA,M093 GBEE,M094 ",
  "MON,M095 KE,M096 HE,M097 BE,M098 NYEN,M099 PA,M100 E,M101 FAN,M102 POO,M103 BOO,M104 TOO,M105 ",
  "LONG MBOO,M106 LONG NGGOO,M107 GBE,M108 KPE,M109 YEE,M110 LONG LE,M111 GA,M112 KPOO,M113 JE,",
  "M114 WOO,M115 NGGEE,M116 SE,M117 NEN,M118 WE,M119 NDE,M120 NGGO,M121 YO,M122 MBU,M123 NDI,",
  "M124 GBI,M125 NDU,M126 WEE,M127 NGGUA,M128 HOOU,M129 NDA,M130 HAN,M131 IN,M132 KPI,M133 FOO,",
  "M134 NJOO,M135 IN,M136 SOO,M137 EI,M138 BO,M139 WVE,M140 HO,M141 YOO,M142 LONG MBO,M143 WEI,",
  "M144 VOO,M145 MBI,M146 NGGE,M147 O,M148 GBU,M149 NJEE,M150 BEE,M151 VU,M152 NJA,M153 LO,M154 ",
  "MUAN,M155 GI,M156 NGGOO,M157 JEE,M158 KPO,M159 NGGAA,M160 JOO,M161 LONG MBE,M162 SEE,M163 EE,",
  "M164 NYIN,M165 OO,M166 GUEI,M167 GUAN,M168 GU,M169 NON,M170 NYUN,M171 RA,M172 MBOO,M173 VEE,",
  "M174 MBO,M175 LONG JO,M176 HI,M177 NGUAN,M178 EN,M179 KUA,M180 DOO,M181 DO,M182 VI,M183 LONG ",
  "NGGO,M184 NGEN,M185 VA,M186 HU,M187 MBUU,M188 MBEE,M189 MUEN,M190 GEE,M191 NDEE,M192 NJU,M193 ",
  "HON,M194 WUI,M195 AN,M196 SIA,M197 FUA)),MENORAH WITH NINE BRANCHES,MENS SYMBOL,MERCURY,",
  "MEROITIC (CURSIVE (FRACTION (EIGHT TWELFTHS,ELEVEN TWELFTHS,FIVE TWELFTHS,FOUR TWELFTHS,NINE ",
  "TWELFTHS,ONE (HALF,TWELFTH),SEVEN TWELFTHS,SIX TWELFTHS,TEN TWELFTHS,THREE TWELFTHS,TWO ",
  "TWELFTHS),LETTER (A,ARCHAIC SA,BA,DA,E,HHA,I,KA,KHA,LA,MA,NA,NE,O,PA,QA,RA,SA,SE,TA,TE,TO,WA,",
  "YA),LOGOGRAM (IMN,RMT),NUMBER (EIGHT,EIGHT (HUNDRED,HUNDRED THOUSAND,THOUSAND),EIGHTY ",
  "THOUSAND,FIFTY,FIFTY THOUSAND,FIVE,FIVE (HUNDRED,HUNDRED THOUSAND,THOUSAND),FORTY,FORTY ",
  "THOUSAND,FOUR,FOUR (HUNDRED,HUNDRED THOUSAND,THOUSAND),NINE,NINE (HUNDRED,HUNDRED THOUSAND,",
  "THOUSAND),NINETY THOUSAND,ONE,ONE (HUNDRED,HUNDRED THOUSAND,THOUSAND),SEVEN,SEVEN (HUNDRED,",
  "HUNDRED THOUSAND,THOUSAND),SEVENTY,SEVENTY THOUSAND,SIX,SIX (HUNDRED,HUNDRED THOUSAND,",
  "THOUSAND),SIXTY,SIXTY THOUSAND,TEN,TEN THOUSAND,THIRTY,THIRTY THOUSAND,THREE,THREE (HUNDRED,",
  "HUNDRED THOUSAND,THOUSAND),TWENTY,TWENTY THOUSAND,TWO,TWO (HUNDRED,HUNDRED THOUSAND,",
  "THOUSAND))),HIEROGLYPHIC (LETTER (A,BA,BA-2,DA,E,HHA,I,KA,KHA,LA,MA,NA,NA-2,NE,NE-2,O,PA,QA,",
  "RA,RA-2,SA,SA-2,SE,TA,TA-2,TE,TE-2,TO,WA,YA),SYMBOL (VIDJ,VIDJ-2))),MERPERSON,MESSAGE WAITING,",
  "METRICAL (BREVE,LONG OVER (SHORT,TWO SHORTS),PENTASEME,SHORT OVER LONG,TETRASEME,TRISEME,TWO ",
  "SHORTS (JOINED,OVER LONG)),METRO,MIAO (LETTER (AH,ARCHAIC (MA,NA,NGA,ZZA),BA,BRI,DA,DDA,DLHA,",
  "DLHYA,DZA,DZHA,DZYI,DZZA,FA,GA,GHA,GHHA,HA,HHA,KA,LA,LHA,LHYA,LYA,MA,MHA,NA,NASALIZATION,NGA,",
  "NGHA,NHA,NNA,NNHA,NYA,NYHA,PA,PLA,QA,QGA,REFORMED (TONE-(1,2,4,5,6,8),TSHA),RTE,SA,SHA,SSA,",
  "SYI,TA,TE,TLHA,TLHYA,TONE-(2,3,4,5,6,7,8),TSA,TSE,TSHA,TSSA,TTA,VA,VFA,WA,XA,YI (DZHA,KA,NNA,",
  "PA,TA,TSA,TSHA,TTA),ZA,ZHA,ZSA,ZSHA,ZZA,ZZSA,ZZSYA,ZZYA),SIGN (ASPIRATION,CONSONANT MODIFIER ",
  "BAR,REFORMED (ASPIRATION,VOICING)),TONE (ABOVE,BELOW,RIGHT,TOP RIGHT),VOWEL SIGN (A,AA,AE,AEE,",
  "AHH,AI,AN,ANG,AU,E,EA,EI,EN,ENG,ER,ERR,I,IA,IAN,IANG,IE,IG,II,ING,IO,IONG,IU,N,NG,O,OER,OEY,",
  "OG,OO,OU,ROUNDED (ER,ERR),U,UA,UAN,UANG,UEI,UI,UNG,UOG,UU,VW,W,WO,Y,YI,YUI)),MICR (DASH ",
  "SYMBOL,ON US SYMBOL),MICRO SIGN,MICROBE,MICROPHONE,MICROSCOPE,MIDDLE (DOT,THIRD WHITE RIGHT ",
  "POINTING INDEX),MIDLINE HORIZONTAL ELLIPSIS,MILITARY (HELMET,MEDAL),MILKY WAY,MILL SIGN,",
  "MINIBUS,MINIDISC,MINIMIZE,MINUS (SIGN,SIGN (IN TRIANGLE,WITH (COMMA ABOVE,DOT BELOW,FALLING ",
  "DOTS,RISING DOTS)),TILDE),MINUS-OR-PLUS SIGN,MINY,MIRROR,MIRROR BALL,MMSP,MOBILE (PHONE,",
  "PHONE (OFF,WITH RIGHTWARDS ARROW AT LEFT)),MODELS,MODERN PENTATHLON,MODI (ABBREVIATION SIGN,",
  "DANDA,DIGIT (EIGHT,FIVE,FOUR,NINE,ONE,SEVEN,SIX,THREE,TWO,ZERO),DOUBLE DANDA,LETTER (A,AA,AI,",
  "AU,BA,BHA,CA,CHA,DA,DDA,DDHA,DHA,E,GA,GHA,HA,I,II,JA,JHA,KA,KHA,LA,LLA,MA,NA,NGA,NNA,NYA,O,PA,",
  "PHA,RA,SA,SHA,SSA,TA,THA,TTA,TTHA,U,UU,VA,VOCALIC (L,LL,R,RR),YA),SIGN (ANUSVARA,ARDHACANDRA,",
  "HUVA,VIRAMA,VISARGA),VOWEL SIGN (AA,AI,AU,E,I,II,O,U,UU,VOCALIC (L,LL,R,RR))),MODIFIER (BREVE ",
  "WITH INVERTED BREVE,LETTER (ACUTE ACCENT,ALVEOLAR CLICK,APOSTROPHE,BEGIN (HIGH TONE,LOW TONE),",
  "BILABIAL CLICK,CAPITAL (A,AE,B,BARRED B,C,D,E,F,G,H,H WITH STROKE,I,J,K,L,M,N,O,OU,P,Q,R,",
  "REVERSED (E,N),T,U,V,W),CENTRED (LEFT HALF RING,RIGHT HALF RING),CHINESE TONE (YANG (PING,QU,",
  "RU,SHANG),YIN (PING,QU,RU,SHANG)),CIRCUMFLEX ACCENT,COLON,CROSS ACCENT,CYRILLIC (EN,HARD SIGN,",
  "SOFT SIGN),DENTAL CLICK,DOT (HORIZONTAL BAR,SLASH,VERTICAL BAR),DOUBLE (APOSTROPHE,PRIME),",
  "DOWN (ARROWHEAD,TACK),END (HIGH TONE,LOW TONE),EXTRA-(HIGH (DOTTED (LEFT-STEM TONE BAR,TONE ",
  "BAR),LEFT-STEM TONE BAR,TONE BAR),LOW (DOTTED (LEFT-STEM TONE BAR,TONE BAR),LEFT-STEM TONE ",
  "BAR,TONE BAR)),GEORGIAN NAR,GLOTTAL (STOP,STOP WITH STROKE),GRAVE ACCENT,HALF TRIANGULAR ",
  "COLON,HIGH (DOTTED (LEFT-STEM TONE BAR,TONE BAR),LEFT-STEM TONE BAR,TONE BAR),LATERAL CLICK,",
  "LEFT (ARROWHEAD,HALF RING,TACK),LOW (ACUTE ACCENT,CIRCUMFLEX ACCENT,DOTTED (LEFT-STEM TONE ",
  "BAR,TONE BAR),DOWN ARROWHEAD,GRAVE ACCENT,INVERTED EXCLAMATION MARK,LEFT (ARROW,ARROWHEAD),",
  "LEFT-STEM TONE BAR,MACRON,RIGHT ARROWHEAD,RING,TILDE,TONE BAR,UP ARROWHEAD,VERTICAL LINE),",
  "LOWER RIGHT CORNER ANGLE,MACRON,MID (DOTTED (LEFT-STEM TONE BAR,TONE BAR),LEFT-STEM TONE BAR,",
  "TONE BAR),MIDDLE (DOUBLE (ACUTE ACCENT,GRAVE ACCENT),GRAVE ACCENT),MINUS SIGN,OPEN SHELF,PLUS ",
  "SIGN,PRIME,RAISED (COLON,DOWN ARROW,EXCLAMATION MARK,INVERTED EXCLAMATION MARK,UP ARROW),",
  "RETROFLEX CLICK WITH RETROFLEX HOOK,REVERSED (COMMA,GLOTTAL (STOP,STOP WITH STROKE)),RHOTIC ",
  "HOOK,RIGHT (ARROWHEAD,HALF RING,TACK),SHELF,SHORT EQUALS SIGN,SMALL (A,AE,AIN,ALPHA,B,B WITH ",
  "HOOK,BARRED O,BETA,BOTTOM HALF O,C,C WITH CURL,CAPITAL (AA,B,G,G WITH HOOK,H,I,I WITH STROKE,",
  "INVERTED R,L,L WITH BELT,N,OE,R,U,Y),CHI,CLOSED (OMEGA,REVERSED OPEN E),D,D WITH (HOOK,HOOK ",
  "AND TAIL,TAIL),DELTA,DEZH DIGRAPH,DOTLESS J WITH (STROKE,STROKE AND HOOK),DZ (DIGRAPH,DIGRAPH ",
  "WITH (CURL,RETROFLEX HOOK)),E,ENG,ESH,ETH,EZH,F,FENG DIGRAPH,G,G WITH HOOK,GAMMA,GREEK (GAMMA,",
  "PHI),H,H WITH (HOOK,STROKE),HENG,HENG WITH HOOK,I WITH STROKE,IOTA,J,J WITH CROSSED-TAIL,K,L,",
  "L WITH (BELT,INVERTED LAZY S,MIDDLE TILDE,PALATAL HOOK,RETROFLEX (HOOK,HOOK AND BELT)),LEZH,",
  "LEZH WITH RETROFLEX HOOK,LIGATURE OE,LS DIGRAPH,LZ DIGRAPH,M,M WITH HOOK,N WITH (LEFT HOOK,",
  "RETROFLEX HOOK),O,O WITH STROKE,OPEN (E,O),P,PHI,Q,R,R WITH (FISHHOOK,TAIL),RAMS HORN,",
  "REVERSED (E,GLOTTAL STOP,OPEN E),S,S WITH (CURL,HOOK),SCHWA,SCRIPT G,SIDEWAYS U,T,T WITH (",
  "PALATAL HOOK,RETROFLEX HOOK),TC DIGRAPH WITH CURL,TESH DIGRAPH,THETA,TOP HALF O,TS (DIGRAPH,",
  "DIGRAPH WITH RETROFLEX HOOK),TURNED (A,AE,ALPHA,H,I,M,M WITH LONG LEG,OPEN E,R,R WITH (HOOK,",
  "LONG (LEG,LEG AND RETROFLEX HOOK)),V,W,Y,Y WITH BELT),U,U (BAR,WITH LEFT HOOK),UPSILON,V,V ",
  "WITH (HOOK,RIGHT HOOK),W,X,Y,Z,Z WITH (CURL,RETROFLEX HOOK)),STRESS AND (HIGH TONE,LOW TONE),",
  "SUPERSCRIPT (HALF TRIANGULAR COLON,TRIANGULAR COLON),TRIANGULAR COLON,TURNED COMMA,",
  "UNASPIRATED,UP (ARROWHEAD,TACK),US,VERTICAL LINE,VOICING,YANG DEPARTING TONE MARK,YIN ",
  "DEPARTING TONE MARK)),MODULO TWO SUM,MONEY (BAG,WITH WINGS),MONEY-MOUTH FACE,MONGOLIAN (BIRGA,",
  "BIRGA WITH (DOUBLE ORNAMENT,ORNAMENT),COLON,COMMA,DIGIT (EIGHT,FIVE,FOUR,NINE,ONE,SEVEN,SIX,",
  "THREE,TWO,ZERO),DOUBLE BIRGA WITH ORNAMENT,ELLIPSIS,FOUR DOTS,FREE VARIATION SELECTOR (FOUR,",
  "ONE,THREE,TWO),FULL STOP,INVERTED (BIRGA,BIRGA WITH DOUBLE ORNAMENT),LETTER (A,ALI GALI (A,AH,",
  "ANUSVARA ONE,BALUDA,CA,DA,DAGALGA,DAMARU,DDA,HALF (U,YA),I,INVERTED UBADAMA,KA,NGA,NNA,PA,PHA,",
  "SSA,TA,THREE BALUDA,TTA,TTHA,UBADAMA,VISARGA ONE,ZA,ZHA),ANG,BA,CHA,CHA WITH TWO DOTS,CHI,DA,",
  "E,EE,FA,GA,HAA,I,JA,KA,KHA,LA,LHA,MA,MANCHU (ALI GALI (BHA,CA,CYA,DDHA,DHA,GHA,JHA,LHA,NGA,",
  "SSA,TA,TTA,ZA,ZHA),FA,I,KA,RA,ZHA),NA,O,OE,PA,QA,RA,SA,SHA,SIBE (ANG,CHA,DA,E,FA,GA,GAA,HA,",
  "HAA,I,IY,JA,KA,PA,RAA,SHA,TA,TSA,U,UE,ZA,ZHA),TA,TODO (ALI GALI (TA,ZHA),ANG,BA,CHA,DA,DZA,E,",
  "GA,GAA,HAA,I,JA,JIA,KA,LONG VOWEL SIGN,MA,NIA,O,OE,PA,QA,TA,TSA,U,UE,WA,YA),TSA,U,UE,WA,YA,ZA,",
  "ZHI,ZRA),MANCHU (COMMA,FULL STOP),NIRUGU,ROTATED (BIRGA,BIRGA WITH (DOUBLE ORNAMENT,",
  "ORNAMENT)),SIBE SYLLABLE BOUNDARY MARKER,SWIRL (BIRGA,BIRGA WITH (DOUBLE ORNAMENT,ORNAMENT)),",
  "TODO SOFT HYPHEN,TRIPLE BIRGA WITH ORNAMENT,TURNED SWIRL BIRGA WITH DOUBLE ORNAMENT,VOWEL ",
  "SEPARATOR),MONKEY,MONKEY FACE,MONOGRAM FOR (EARTH,YANG,YIN),MONORAIL,MONOSTABLE SYMBOL,MOOD ",
  "BUBBLE,MOON (CAKE,VIEWING CEREMONY),MOSQUE,MOSQUITO,MOTHER CHRISTMAS,MOTOR (BOAT,SCOOTER),",
  "MOTORIZED WHEELCHAIR,MOTORWAY,MOUNT FUJI,MOUNTAIN,MOUNTAIN (BICYCLIST,CABLEWAY,RAILWAY),MOUSE,",
  "MOUSE (FACE,TRAP),MOUTH,MOVIE CAMERA,MOYAI,MRO (DANDA,DIGIT (EIGHT,FIVE,FOUR,NINE,ONE,SEVEN,",
  "SIX,THREE,TWO,ZERO),DOUBLE DANDA,LETTER (A,BA,CHU,DA,DAI,E,EA,HAI,HAO,KEAAE,KHAI,KO,LA,LAN,",
  "MAEM,MIM,NGI,NIN,O,OL,OO,PA,PHI,RI,RO,SHI,TA,TEK,THEA,WA,YO)),MUCH (GREATER-THAN,LESS-THAN),",
  "MULTANI (LETTER (A,BA,BHA,CA,CHA,DA,DDA,DDDA,DDHA,DHA,E,GA,GHA,HA,I,JA,JJA,KA,KHA,LA,MA,NA,",
  "NNA,NYA,PA,PHA,RA,RHA,RRA,SA,TA,THA,TTA,TTHA,U,VA,YA),SECTION MARK),MULTIMAP,MULTIPLE MUSICAL ",
  "NOTES,MULTIPLICATION (SIGN,SIGN (IN (DOUBLE CIRCLE,LEFT HALF CIRCLE,RIGHT HALF CIRCLE,",
  "TRIANGLE),WITH (DOT ABOVE,UNDERBAR)),X),MULTISET,MULTISET (MULTIPLICATION,UNION),MUSHROOM,",
  "MUSIC (FLAT SIGN,NATURAL SIGN,SHARP SIGN),MUSICAL (KEYBOARD,KEYBOARD WITH JACKS,NOTE,SCORE,",
  "SYMBOL (ARPEGGIATO (DOWN,UP),BEGIN (BEAM,PHRASE,SLUR,TIE),BRACE,BRACKET,BREATH MARK,BREVE,",
  "BREVIS,BREVIS REST,C CLEF,CAESURA,CIRCLE X NOTEHEAD,CLIMACUS,CLIVIS,CLUSTER NOTEHEAD (BLACK,",
  "WHITE),CODA,COMBINING (ACCENT,ACCENT-STACCATO,AUGMENTATION DOT,BEND,DOIT,DOUBLE TONGUE,DOWN ",
  "BOW,FLAG-(1,2,3,4,5),FLIP,HARMONIC,LOURE,MARCATO,MARCATO-STACCATO,RIP,SMEAR,SNAP PIZZICATO,",
  "SPRECHGESANG STEM,STACCATISSIMO,STACCATO,STEM,TENUTO,TREMOLO-(1,2,3),TRIPLE TONGUE,UP BOW),",
  "COMMON TIME,CRESCENDO,CROIX,CUT TIME,DA CAPO,DAL SEGNO,DAMP,DAMP ALL,DASHED BARLINE,",
  "DECRESCENDO,DEGREE SLASH,DOUBLE (BARLINE,FLAT,SHARP),DRUM CLEF-(1,2),EIGHTH (NOTE,REST),END (",
  "BEAM,OF STIMME,PHRASE,SLUR,TIE),F (CLEF,CLEF OTTAVA (ALTA,BASSA)),FERMATA,FERMATA BELOW,FINAL ",
  "BARLINE,FINGERED TREMOLO-(1,2,3),FIVE-LINE STAFF,FLAT (DOWN,UP),FORTE,FOUR-(LINE STAFF,STRING ",
  "FRETBOARD),FUSA (BLACK,WHITE),G (CLEF,CLEF OTTAVA (ALTA,BASSA)),GLISSANDO (DOWN,UP),GRACE ",
  "NOTE (NO SLASH,SLASH),GREGORIAN (C CLEF,F CLEF),HALF (NOTE,PEDAL MARK,REST),HAUPTSTIMME,",
  "INVERTED TURN,KIEVAN (C CLEF,EIGHTH NOTE STEM (DOWN,UP),END OF PIECE,FINAL NOTE,FLAT SIGN,",
  "HALF NOTE,QUARTER NOTE STEM (DOWN,UP),RECITATIVE MARK,WHOLE NOTE),KORON,LEFT REPEAT SIGN,",
  "LONGA,LONGA (IMPERFECTA REST,PERFECTA REST),MAXIMA,MEZZO,MINIMA,MINIMA (BLACK,REST),MOON ",
  "NOTEHEAD (BLACK,WHITE),MULTI REST,MULTIPLE MEASURE REST,NATURAL (DOWN,UP),NEBENSTIMME,",
  "NOTEHEAD BLACK,NULL NOTEHEAD,ONE HUNDRED TWENTY-EIGHTH (NOTE,REST),ONE-LINE STAFF,ORNAMENT ",
  "STROKE-(1,10,11,2,3,4,5,6,7,8,9),OTTAVA (ALTA,BASSA),PARENTHESIS NOTEHEAD,PEDAL (MARK,UP ",
  "MARK),PES SUBPUNCTIS,PIANO,PLUS NOTEHEAD,PODATUS,PORRECTUS,PORRECTUS FLEXUS,QUARTER (NOTE,",
  "REST,TONE (FLAT,SHARP)),QUINDICESIMA (ALTA,BASSA),REPEAT DOTS,REPEATED FIGURE-(1,2,3),REVERSE ",
  "FINAL BARLINE,RIGHT REPEAT SIGN,RINFORZANDO,SCANDICUS,SCANDICUS FLEXUS,SEGNO,SEMIBREVIS (",
  "BLACK,REST,WHITE),SEMIMINIMA (BLACK,REST,WHITE),SHARP (DOWN,UP),SHORT BARLINE,SINGLE BARLINE,",
  "SIX-(LINE STAFF,STRING FRETBOARD),SIXTEENTH (NOTE,REST),SIXTY-FOURTH (NOTE,REST),SORI,SQUARE (",
  "B,NOTEHEAD (BLACK,WHITE)),SUBITO,TEMPUS (IMPERFECTUM CUM PROLATIONE (IMPERFECTA,IMPERFECTA ",
  "DIMINUTION-(1,2,3),PERFECTA),PERFECTUM CUM PROLATIONE (IMPERFECTA,PERFECTA,PERFECTA ",
  "DIMINUTION-1)),THIRTY-SECOND (NOTE,REST),THREE-LINE STAFF,TORCULUS,TORCULUS RESUPINUS,TR,",
  "TRIANGLE NOTEHEAD (DOWN (BLACK,WHITE),LEFT (BLACK,WHITE),RIGHT (BLACK,WHITE),UP (BLACK,RIGHT (",
  "BLACK,WHITE),WHITE)),TRIANGLE-ROUND NOTEHEAD DOWN (BLACK,WHITE),TURN,TURN (SLASH,UP),TWO-LINE ",
  "STAFF,VIRGA,VOID NOTEHEAD,WHOLE (NOTE,REST),WITH FINGERNAILS,X NOTEHEAD,Z)),MVS,MW,MYANMAR (",
  "CONSONANT SIGN (MEDIAL (HA,RA,WA,YA),MON MEDIAL (LA,MA,NA),SHAN MEDIAL WA),DIGIT (EIGHT,FIVE,",
  "FOUR,NINE,ONE,SEVEN,SIX,THREE,TWO,ZERO),LETTER (A,AITON RA,AU,BA,BHA,CA,CHA,DA,DDA,DDHA,DHA,E,",
  "EASTERN PWO KAREN (GHWA,NNA,YWA),GA,GHA,GREAT SA,HA,I,II,JA,JHA,KA,KHA,KHAMTI (CA,CHA,DDA,",
  "DDHA,DHA,FA,GA,HA,HHA,JA,JHA,LLA,NA,NYA,RA,SA,TTA,TTHA,XA,ZA),LA,LLA,MA,MON (BBA,BBE,E,JHA,",
  "NGA),NA,NGA,NNA,NNYA,NYA,O,PA,PHA,RA,RUMAI PALAUNG FA,SA,SGAW KAREN SHA,SHA,SHAN (A,BA,BHA,CA,",
  "CHA,DA,FA,GA,GHA,HA,JHA,KA,KHA,NA,NNA,NYA,PHA,THA,ZA),SHWE PALAUNG (CHA,SHA),SSA,TA,TAI ",
  "LAING (BA,BHA,DA,DDA,DDHA,DHA,FA,GA,GHA,JA,JHA,LLA,NNA,NYA),THA,TTA,TTHA,U,UU,VOCALIC (L,LL,R,",
  "RR),WA,WESTERN PWO KAREN (PWA,THA),YA),LOGOGRAM KHAMTI (HM,OAY,QN),MODIFIER LETTER (KHAMTI ",
  "REDUPLICATION,SHAN REDUPLICATION),SHAN DIGIT (EIGHT,FIVE,FOUR,NINE,ONE,SEVEN,SIX,THREE,TWO,",
  "ZERO),SIGN (ANUSVARA,ASAT,DOT BELOW,KHAMTI TONE-(1,3),LITTLE SECTION,PAO KAREN TONE,RUMAI ",
  "PALAUNG TONE-5,SECTION,SHAN (COUNCIL (EMPHATIC TONE,TONE-(2,3)),SAW,TONE-(2,3,5,6)),TAI LAING ",
  "TONE-(2,5),VIRAMA,VISARGA,WESTERN PWO KAREN TONE-(1,2,3,4,5)),SYMBOL (AFOREMENTIONED,AITON (",
  "EXCLAMATION,ONE,TWO),COMPLETED,GENITIVE,LOCATIVE,SHAN (EXCLAMATION,ONE)),TAI LAING DIGIT (",
  "EIGHT,FIVE,FOUR,NINE,ONE,SEVEN,SIX,THREE,TWO,ZERO),TONE MARK SGAW KAREN (HATHI,KE PHO),VOWEL ",
  "SIGN (AA,AI,AITON (A,AI),E,E ABOVE,GEBA KAREN I,I,II,KAYAH (EE,OE,U),MON (II,O),SGAW KAREN EU,",
  "SHAN (AA,E,E ABOVE,FINAL Y),TALL AA,U,UU,VOCALIC (L,LL,R,RR),WESTERN PWO KAREN (EU,UE))),N-",
  "ARY (CIRCLED (DOT OPERATOR,PLUS OPERATOR,TIMES OPERATOR),COPRODUCT,INTERSECTION,LOGICAL (AND,",
  "OR),PRODUCT,SQUARE (INTERSECTION OPERATOR,UNION OPERATOR),SUMMATION,TIMES OPERATOR,UNION,",
  "UNION OPERATOR WITH (DOT,PLUS),WHITE VERTICAL BAR),NABATAEAN (CRUCIFORM NUMBER FOUR,LETTER (",
  "ALEPH,AYIN,BETH,DALETH,FINAL (ALEPH,BETH,HE,KAPH,LAMEDH,MEM,NUN,SHIN,YODH),GIMEL,HE,HETH,KAPH,",
  "LAMEDH,MEM,NUN,PE,QOPH,RESH,SADHE,SAMEKH,SHIN,TAW,TETH,WAW,YODH,ZAYIN),NUMBER (FIVE,FOUR,ONE,",
  "ONE HUNDRED,TEN,THREE,TWENTY,TWO)),NABLA,NAIL POLISH,NAIRA SIGN,NAK,NAME BADGE,NAND,",
  "NANDINAGARI (HEADSTROKE,LETTER (A,AA,AI,AU,BA,BHA,CA,CHA,DA,DDA,DDHA,DHA,E,GA,GHA,HA,I,II,JA,",
  "JHA,KA,KHA,LA,LLA,MA,NA,NGA,NNA,NYA,O,PA,PHA,RA,RRA,SA,SHA,SSA,TA,THA,TTA,TTHA,U,UU,VA,",
  "VOCALIC (R,RR),YA),SIGN (ANUSVARA,AVAGRAHA,SIDDHAM,VIRAMA,VISARGA),VOWEL SIGN (AA,AI,AU,E,I,",
  "II,O,PRISHTHAMATRA E,U,UU,VOCALIC (R,RR))),NARROW NO-BREAK SPACE,NATIONAL (DIGIT SHAPES,PARK),",
  "NAUSEATED FACE,NAZAR AMULET,NBH,NBSP,NECKTIE,NEGATED DOUBLE VERTICAL BAR DOUBLE RIGHT ",
  "TURNSTILE,NEGATIVE (ACKNOWLEDGE,CIRCLED (DIGIT ZERO,LATIN CAPITAL LETTER (A,B,C,D,E,F,G,H,I,J,",
  "K,L,M,N,O,P,Q,R,S,T,U,V,W,X,Y,Z),NUMBER (EIGHTEEN,ELEVEN,FIFTEEN,FOURTEEN,NINETEEN,SEVENTEEN,",
  "SIXTEEN,THIRTEEN,TWELVE,TWENTY),SQUARE,TRIANGLE),DIAGONAL (CROSS,DIAMOND,MIDDLE RIGHT TO ",
  "LOWER CENTRE),SQUARED (AB,CROSS MARK,IC,LATIN CAPITAL LETTER (A,B,C,D,E,F,G,H,I,J,K,L,M,N,O,P,",
  "Q,R,S,T,U,V,W,X,Y,Z),PA,QUESTION MARK,SA,WC)),NEITHER (A (SUBSET OF NOR EQUAL TO,SUPERSET OF ",
  "NOR EQUAL TO),APPROXIMATELY NOR ACTUALLY EQUAL TO,GREATER-THAN NOR (EQUAL TO,EQUIVALENT TO,",
  "LESS-THAN),LESS-THAN NOR (EQUAL TO,EQUIVALENT TO,GREATER-THAN)),NEL,NEPTUNE,NEPTUNE FORM TWO,",
  "NERD FACE,NESSUS,NEST WITH EGGS,NESTING DOLLS,NEUTER,NEUTRAL (CHESS (BISHOP,BISHOP ROTATED (",
  "NINETY DEGREES,TWO HUNDRED SEVENTY DEGREES),EQUIHOPPER,EQUIHOPPER ROTATED NINETY DEGREES,KING,",
  "KING ROTATED (NINETY DEGREES,TWO HUNDRED SEVENTY DEGREES),KNIGHT,KNIGHT ROTATED (FORTY-FIVE ",
  "DEGREES,NINETY DEGREES,ONE HUNDRED THIRTY-FIVE DEGREES,THREE HUNDRED FIFTEEN DEGREES,TWO ",
  "HUNDRED (SEVENTY DEGREES,TWENTY-FIVE DEGREES)),PAWN,PAWN ROTATED (NINETY DEGREES,TWO HUNDRED ",
  "SEVENTY DEGREES),QUEEN,QUEEN ROTATED (NINETY DEGREES,TWO HUNDRED SEVENTY DEGREES),ROOK,ROOK ",
  "ROTATED (NINETY DEGREES,TWO HUNDRED SEVENTY DEGREES),TURNED (BISHOP,KING,KNIGHT,PAWN,QUEEN,",
  "ROOK)),FACE),NEW (LINE,MOON (SYMBOL,WITH FACE),SHEQEL SIGN,TAI LUE (DIGIT (EIGHT,FIVE,FOUR,",
  "NINE,ONE,SEVEN,SIX,THREE,TWO,ZERO),LETTER (FINAL (B,D,K,M,N,NG,V),HIGH (BA,DA,FA,HA,KA,KVA,LA,",
  "MA,NA,NGA,PA,PHA,QA,SA,SUA,TA,THA,TSA,VA,XA,XVA,YA),LOW (BA,DA,FA,HA,KA,KVA,LA,MA,NA,NGA,PA,",
  "PHA,QA,SA,SUA,TA,THA,TSA,VA,XA,XVA,YA)),SIGN (LAE,LAEV),THAM DIGIT ONE,TONE MARK-(1,2),VOWEL ",
  "SIGN (AA,AAY,AE,AY,E,II,IY,O,OA,OAY,OY,U,UE,UEY,UU,UY,VOWEL SHORTENER))),NEWA (ABBREVIATION ",
  "SIGN,COMMA,DANDA,DIGIT (EIGHT,FIVE,FOUR,NINE,ONE,SEVEN,SIX,THREE,TWO,ZERO),DOUBLE (COMMA,",
  "DANDA),GAP FILLER,INSERTION SIGN,LETTER (A,AA,AI,AU,BA,BHA,CA,CHA,DA,DDA,DDHA,DHA,E,GA,GHA,HA,",
  "I,II,JA,JHA,KA,KHA,LA,LHA,MA,MHA,NA,NGA,NGHA,NHA,NNA,NYA,NYHA,O,PA,PHA,RA,RHA,SA,SHA,SSA,TA,",
  "THA,TTA,TTHA,U,UU,VEDIC ANUSVARA,VOCALIC (L,LL,R,RR),WA,YA),OM,PLACEHOLDER MARK,SANDHI MARK,",
  "SIDDHI,SIGN (ANUSVARA,AVAGRAHA,CANDRABINDU,FINAL ANUSVARA,JIHVAMULIYA,NUKTA,UPADHMANIYA,",
  "VIRAMA,VISARGA),VOWEL SIGN (AA,AI,AU,E,I,II,O,U,UU,VOCALIC (L,LL,R,RR))),NEWLINE (LEFT,RIGHT),",
  "NEWSPAPER,NEXT (LINE,PAGE),NIGHT WITH STARS,NINJA,NKO (COMBINING (DOUBLE DOT ABOVE,LONG (",
  "DESCENDING TONE,HIGH TONE,LOW TONE,RISING TONE),NASALIZATION MARK,SHORT (HIGH TONE,LOW TONE,",
  "RISING TONE)),COMMA,DANTAYALAN,DIGIT (EIGHT,FIVE,FOUR,NINE,ONE,SEVEN,SIX,THREE,TWO,ZERO),",
  "DOROME SIGN,EXCLAMATION MARK,HIGH TONE APOSTROPHE,LAJANYALAN,LETTER (A,BA,CHA,DA,DAGBASINNA,E,",
  "EE,FA,GBA,HA,I,JA,JONA (CHA,JA,RA),KA,LA,MA,N,NA,NA WOLOSO,NYA,NYA WOLOSO,O,OO,PA,RA,RRA,SA,",
  "TA,U,WA,YA),LOW TONE APOSTROPHE,SYMBOL (GBAKURUNEN,OO DENNEN),TAMAN SIGN),NL,NNBSP,NO (",
  "BICYCLES,BREAK HERE,ENTRY,ENTRY SIGN,MOBILE PHONES,ONE UNDER EIGHTEEN SYMBOL,PEDESTRIANS,",
  "PIRACY,SMOKING SYMBOL),NO-BREAK SPACE,NOMINAL DIGIT SHAPES,NOMISMA SIGN,NON-(BREAKING HYPHEN,",
  "POTABLE WATER SYMBOL),NONFORKING,NOR,NORDIC MARK SIGN,NORMAL SUBGROUP (OF,OF OR EQUAL TO),",
  "NORTH (EAST (AND SOUTH WEST ARROW,ARROW,ARROW (AND SOUTH EAST ARROW,CROSSING (NORTH WEST ",
  "ARROW,SOUTH EAST ARROW),WITH HOOK),BLACK ARROW,DOUBLE ARROW,POINTING (BUD,LEAF,VINE LEAF),",
  "SANS-SERIF ARROW,TRIANGLE-HEADED (ARROW,ARROW TO BAR),WHITE ARROW),INDIC (FRACTION (ONE (",
  "EIGHTH,HALF,QUARTER,SIXTEENTH),THREE (QUARTERS,SIXTEENTHS)),PLACEHOLDER MARK,QUANTITY MARK,",
  "QUARTER MARK,RUPEE MARK),WEST (AND SOUTH EAST ARROW,ARROW,ARROW (AND NORTH EAST ARROW,",
  "CROSSING NORTH EAST ARROW,TO (CORNER,LONG BAR),WITH HOOK),BLACK ARROW,DOUBLE ARROW,POINTING (",
  "BUD,LEAF,VINE LEAF),SANS-SERIF ARROW,TRIANGLE-HEADED (ARROW,ARROW TO BAR),WHITE ARROW)),",
  "NORTHEAST-POINTING AIRPLANE,NOSE,NOT (A (SUBSET OF,SUPERSET OF),ALMOST EQUAL TO,AN ELEMENT OF,",
  "ASYMPTOTICALLY EQUAL TO,CHECK MARK,EQUAL TO,EQUIVALENT TO,GREATER-THAN,IDENTICAL TO,LESS-THAN,",
  "NORMAL SUBGROUP (OF,OF OR EQUAL TO),PARALLEL TO,SIGN,SQUARE (IMAGE OF OR EQUAL TO,ORIGINAL OF ",
  "OR EQUAL TO),TILDE,TRUE),NOTCHED (LEFT SEMICIRCLE WITH THREE DOTS,LOWER RIGHT-SHADOWED WHITE ",
  "RIGHTWARDS ARROW,RIGHT SEMICIRCLE WITH THREE DOTS,UPPER RIGHT-SHADOWED WHITE RIGHTWARDS ",
  "ARROW),NOTE,NOTE (PAD,PAGE),NOTEBOOK,NOTEBOOK WITH DECORATIVE COVER,NUL,NULL,NUMBER (EIGHTEEN ",
  "FULL STOP,ELEVEN FULL STOP,FIFTEEN FULL STOP,FOURTEEN FULL STOP,NINETEEN FULL STOP,SEVENTEEN ",
  "FULL STOP,SIGN,SIXTEEN FULL STOP,TEN FULL STOP,THIRTEEN FULL STOP,TWELVE FULL STOP,TWENTY ",
  "FULL STOP),NUMERO SIGN,NUSHU ITERATION MARK,NUT AND BOLT,NYIAKENG PUACHUE HMONG (CIRCLED CA,",
  "DIGIT (EIGHT,FIVE,FOUR,NINE,ONE,SEVEN,SIX,THREE,TWO,ZERO),LETTER (A,AA,CA,DA,DLA,E,EE,FA,GA,",
  "HA,HAH,I,KA,LA,MA,MLA,NA,NCA,NKA,NPA,NPLA,NQA,NRA,NTA,NTSA,NTXA,NYA,O,OO,PA,PLA,QA,RA,RRA,SA,",
  "TA,TSA,TXA,U,VA,W,XA,XYA,YA,ZA),LOGOGRAM NYAJ,SIGN (FOR (ANIMAL,INVERTEBRATE,LOCATION,PERSON,",
  "THING),XW XW),SYLLABLE LENGTHENER,TONE-(B,D,G,J,M,S,V)),OBJECT REPLACEMENT CHARACTER,OBLIQUE (",
  "ANGLE OPENING (DOWN,UP),HYPHEN),OBSERVER EYE SYMBOL,OCR (AMOUNT OF CHECK,BELT BUCKLE,BOW TIE,",
  "BRANCH BANK IDENTIFICATION,CHAIR,CUSTOMER ACCOUNT NUMBER,DASH,DOUBLE BACKSLASH,FORK,HOOK,",
  "INVERTED FORK),OCTAGONAL SIGN,OCTOPUS,ODEN,OFFICE BUILDING,OGHAM (FEATHER MARK,LETTER (AILM,",
  "BEITH,CEIRT,COLL,DAIR,EABHADH,EADHADH,EAMHANCHOLL,FEARN,GORT,IFIN,IODHADH,LUIS,MUIN,NGEADAL,",
  "NION,ONN,OR,PEITH,RUIS,SAIL,STRAIF,TINNE,UATH,UILLEANN,UR),REVERSED FEATHER MARK,SPACE MARK),",
  "OGONEK,OHM SIGN,OIL DRUM,OK HAND SIGN,OL CHIKI (AHAD,DIGIT (EIGHT,FIVE,FOUR,NINE,ONE,SEVEN,",
  "SIX,THREE,TWO,ZERO),GAAHLAA TTUDDAAG,LETTER (AAJ,AAK,AAM,AAW,AG,AL,ANG,AT,EDD,EN,EP,ERR,IH,",
  "INY,IR,IS,LA,LAA,LE,LI,LO,LU,OB,OH,OTT,OV,UC,UD,UNN,UY),MU TTUDDAG,MU-GAAHLAA TTUDDAAG,",
  "PHAARKAA,PUNCTUATION (DOUBLE MUCAAD,MUCAAD),RELAA),OLD (CHINESE (HOOK MARK,ITERATION MARK),",
  "HUNGARIAN (CAPITAL LETTER (A,AA,AK,AMB,AND,CLOSE E,E,EB,EC,ECH,ECS,ED,EE,EF,EG,EGY,EH,EJ,EK,",
  "EL,ELY,EM,EMP,EN,ENC,ENT,ENT-SHAPED SIGN,ENY,EP,ER,ES,ESZ,ET,ETY,EV,EZ,EZS,I,II,NIKOLSBURG (",
  "OE,UE),O,OEE,OO,RUDIMENTA (OE,UE),SHORT ER,U,UNK,US,UU),NUMBER (FIFTY,FIVE,ONE,ONE (HUNDRED,",
  "THOUSAND),TEN),SMALL LETTER (A,AA,AK,AMB,AND,CLOSE E,E,EB,EC,ECH,ECS,ED,EE,EF,EG,EGY,EH,EJ,EK,",
  "EL,ELY,EM,EMP,EN,ENC,ENT,ENT-SHAPED SIGN,ENY,EP,ER,ES,ESZ,ET,ETY,EV,EZ,EZS,I,II,NIKOLSBURG (",
  "OE,UE),O,OEE,OO,RUDIMENTA (OE,UE),SHORT ER,U,UNK,US,UU)),ITALIC (LETTER (A,BE,CHE,DE,E,EF,EKS,",
  "EL,EM,EN,ER,ERS,ES,ESH,ESS,HE,I,II,KA,KE,KHE,KU,NORTHERN TSE,O,PE,PHE,SHE,SOUTHERN TSE,TE,THE,",
  "U,UU,VE,YE,ZE),NUMERAL (FIFTY,FIVE,ONE,TEN)),KEY,NORTH ARABIAN (LETTER (AIN,ALEF,BEH,DAD,DAL,",
  "ES-(1,2,3),FEH,GEEM,GHAIN,HAH,HEH,KAF,KHAH,LAM,MEEM,NOON,QAF,REH,SAD,TAH,TEH,THAL,THEH,WAW,",
  "YEH,ZAH,ZAIN),NUMBER (ONE,TEN,TWENTY)),PERMIC LETTER (AN,BUR,CHERY,DOI,DZHOI,DZITA,E,EF,GAI,",
  "HA,I,IA,IE,KOKE,LEI,MENOE,NENOE,O,OO,PEEI,REI,SHCHOOI,SHOOI,SII,TAI,TSIU,U,VER,VOOI,YA,YAT,",
  "YER,YERI,YERU,YRY,YU,ZATA,ZHOI),PERSIAN (NUMBER (HUNDRED,ONE,TEN,TWENTY,TWO),SIGN (A,",
  "AURAMAZDAA,AURAMAZDAA-2,AURAMAZDAAHA,BA,BAGA,BUUMISH,CA,DA,DAHYAAUSH,DAHYAAUSH-2,DI,DU,FA,GA,",
  "GU,HA,I,JA,JI,KA,KU,LA,MA,MI,MU,NA,NU,PA,RA,RU,SA,SHA,SSA,TA,THA,TU,U,VA,VI,XA,XSHAAYATHIYA,",
  "YA,ZA),WORD DIVIDER),PERSONAL COMPUTER,SOGDIAN (FRACTION ONE HALF,LETTER (ALEPH,ALTERNATE ",
  "AYIN,AYIN,BETH,FINAL (ALEPH,BETH,HE,NUN,NUN WITH VERTICAL TAIL,SADHE,SADHE WITH VERTICAL TAIL,",
  "TAW,TAW WITH VERTICAL TAIL),GIMEL,HE,HETH,KAPH,LAMEDH,MEM,NUN,PE,RESH-AYIN-DALETH,SADHE,",
  "SAMEKH,SHIN,TAW,WAW,YODH,ZAYIN),LIGATURE AYIN-DALETH,NUMBER (FIVE,FOUR,ONE,ONE HUNDRED,TEN,",
  "THIRTY,THREE,TWENTY,TWO)),SOUTH ARABIAN (LETTER (ALEF,AYN,BETH,DALETH,DHADHE,DHALETH,FE,GHAYN,",
  "GIMEL,HE,HETH,KAPH,KHETH,LAMEDH,MEM,NUN,QOPH,RESH,SADHE,SAMEKH,SAT,SHIN,TAW,TETH,THAW,THETH,",
  "WAW,YODH,ZAYN),NUMBER (FIFTY,ONE),NUMERIC INDICATOR),TURKIC LETTER (ORKHON (A,AB,AD,AEB,AED,",
  "AEG,AEK,AEL,AEN,AER,AES,AET,AEY,AG,AL,AN,AQ,AR,AS,ASH,AT,AY,BASH,EC,ELT,EM,ENC,ENG,ENT,ENY,EP,",
  "ESH,EZ,I,IC,IQ,O,OE,OEK,OP,OQ,OT),YENISEI (A,AB,AD,AE,AEB,AEG,AEK,AEN,AENG,AET,AEY,AG,AL,ANG,",
  "AQ,AR,ASH,AT,AY,E,EC,ENC,ENT,ENY,ESH,EZ,I,IQ,OE,OEK,OQ)),UYGHUR (COMBINING (DOT (ABOVE,BELOW),",
  "TWO DOTS (ABOVE,BELOW)),LETTER (ALEPH,BETH,FINAL HETH,GIMEL-HETH,KAPH,LAMEDH,LESH,MEM,NUN,PE,",
  "RESH,SADHE,SAMEKH,SHIN,TAW,WAW,YODH,ZAYIN),PUNCTUATION (BAR,FOUR DOTS,TWO (BARS,DOTS)))),",
  "OLDER (ADULT,MAN,WOMAN),OLIVE,OM SYMBOL,ON WITH EXCLAMATION MARK WITH LEFT RIGHT ARROW ABOVE,",
  "ONCOMING (AUTOMOBILE,BUS,FIRE ENGINE,POLICE CAR,TAXI),ONE (BUTTON MOUSE,DOT (LEADER,OVER TWO ",
  "DOTS PUNCTUATION)),ONE-PIECE SWIMSUIT,ONION,OPEN (BOOK,BOX,CENTRE (ASTERISK,BLACK STAR,CROSS,",
  "TEARDROP-SPOKED ASTERISK),FILE FOLDER,FOLDER,HANDS SIGN,LOCK,MAILBOX WITH (LOWERED FLAG,",
  "RAISED FLAG),SUBSET,SUPERSET),OPEN-(CIRCUIT-OUTPUT (H-TYPE SYMBOL,L-TYPE SYMBOL),OUTLINED ",
  "RIGHTWARDS ARROW),OPERATING SYSTEM COMMAND,OPHIUCHUS,OPPOSITION,OPTICAL (DISC,DISC ICON),",
  "OPTION KEY,OR WITH DOT INSIDE,ORANGE (BOOK,HEART),ORANGUTAN,ORIGINAL OF,ORIYA (AI LENGTH MARK,",
  "AU LENGTH MARK,DIGIT (EIGHT,FIVE,FOUR,NINE,ONE,SEVEN,SIX,THREE,TWO,ZERO),FRACTION (ONE (",
  "EIGHTH,HALF,QUARTER,SIXTEENTH),THREE (QUARTERS,SIXTEENTHS)),ISSHAR,LETTER (A,AA,AI,AU,BA,BHA,",
  "CA,CHA,DA,DDA,DDHA,DHA,E,GA,GHA,HA,I,II,JA,JHA,KA,KHA,LA,LLA,MA,NA,NGA,NNA,NYA,O,PA,PHA,RA,",
  "RHA,RRA,SA,SHA,SSA,TA,THA,TTA,TTHA,U,UU,VA,VOCALIC (L,LL,R,RR),WA,YA,YYA),SIGN (ANUSVARA,",
  "AVAGRAHA,CANDRABINDU,NUKTA,OVERLINE,VIRAMA,VISARGA),VOWEL SIGN (AA,AI,AU,E,I,II,O,U,UU,",
  "VOCALIC (L,LL,R,RR))),ORNATE (LEFT PARENTHESIS,RIGHT PARENTHESIS),ORTHODOX CROSS,OSAGE (",
  "CAPITAL LETTER (A,AH,AI,AIN,BRA,CHA,DHA,E,EHCHA,EHKA,EHPA,EHTA,EHTSA,EIN,GHA,HA,HYA,I,KA,KHA,",
  "KYA,LA,MA,NA,O,OIN,PA,SA,SHA,TA,TSA,TSHA,U,WA,ZA,ZHA),SMALL LETTER (A,AH,AI,AIN,BRA,CHA,DHA,E,",
  "EHCHA,EHKA,EHPA,EHTA,EHTSA,EIN,GHA,HA,HYA,I,KA,KHA,KYA,LA,MA,NA,O,OIN,PA,SA,SHA,TA,TSA,TSHA,U,",
  "WA,ZA,ZHA)),OSC,OSMANYA (DIGIT (EIGHT,FIVE,FOUR,NINE,ONE,SEVEN,SIX,THREE,TWO,ZERO),LETTER (A,",
  "AA,ALEF,BA,CAYN,DEEL,DHA,E,EE,FA,GA,HA,I,JA,KAAF,KHA,LAAN,MIIN,NUUN,O,OO,QAAF,RA,SA,SHIIN,TA,",
  "U,WAW,XA,YA)),OTTER,OTTOMAN SIYAQ (ALTERNATE NUMBER (EIGHT,FIVE,FOUR,FOUR HUNDRED,NINE,SEVEN,",
  "SIX,SIX HUNDRED,TEN,TEN THOUSAND,THREE,TWO,TWO THOUSAND),FRACTION ONE (HALF,SIXTH),MARRATAN,",
  "NUMBER (EIGHT,EIGHT (HUNDRED,THOUSAND),EIGHTY,EIGHTY THOUSAND,FIFTY,FIFTY THOUSAND,FIVE,FIVE (",
  "HUNDRED,THOUSAND),FORTY,FORTY THOUSAND,FOUR,FOUR (HUNDRED,THOUSAND),NINE,NINE (HUNDRED,",
  "THOUSAND),NINETY,NINETY THOUSAND,ONE,ONE (HUNDRED,THOUSAND),SEVEN,SEVEN (HUNDRED,THOUSAND),",
  "SEVENTY,SEVENTY THOUSAND,SIX,SIX (HUNDRED,THOUSAND),SIXTY,SIXTY THOUSAND,TEN,TEN THOUSAND,",
  "THIRTY,THIRTY THOUSAND,THREE,THREE (HUNDRED,THOUSAND),TWENTY,TWENTY THOUSAND,TWO,TWO (HUNDRED,",
  "THOUSAND))),OUNCE SIGN,OUTBOX TRAY,OUTLINED (BLACK STAR,GREEK CROSS,LATIN CROSS,WHITE STAR),",
  "OVERHEATED FACE,OVERLAP,OVERLAPPING (BLACK SQUARES,WHITE (AND BLACK SQUARES,SQUARES)),",
  "OVERLINE,OWL,OX,OYSTER,PACKAGE,PAD,PADDING CHARACTER,PAGE,PAGE (FACING UP,WITH (CIRCLED TEXT,",
  "CURL)),PAGER,PAGES,PAGODA,PAHAWH HMONG (CLAN SIGN (FAJ,HAM,HAWJ,KHAB,KOO,KWM,LAUJ,LIS,MUAS,",
  "PHAB,THOJ,TSAB,TSHEEJ,TSWB,VAJ,VWJ,XYOOJ,YAJ,YEEG),CONSONANT (AU,CAU,CHAU,HAU,HLAU,HNAU,LAU,",
  "MAU,NAU,NCHAU,NKAU,NLAU,NTHAU,NTSAU,PLHAU,QHAU,RAU,VAU,XAU,YAU),DIGIT (EIGHT,FIVE,FOUR,NINE,",
  "ONE,SEVEN,SIX,THREE,TWO,ZERO),MARK CIM (HOM,KES,KHAV,SO,SUAM,TAUM,TUB),NUMBER (HUNDRED ",
  "MILLIONS,HUNDREDS,MILLIONS,TEN (BILLIONS,THOUSANDS),TENS,TRILLIONS),SIGN (AV,CIM (CHEEM,CUAM ",
  "TSHOOJ,HAIS LUS NTOG NTOG,NRES TOS,PUB DAWB,TSOV ROG,TXWV,TXWV CHWV),HLI,HNUB,IB YAM,LOS,",
  "MEEJ (SUAB,TSEEB),MUS,NQIG,NTUJ,TAU,THIRD-STAGE HLI,TXHEEJ CEEV,VOS (FEEM,LUB,NRUA,SEEV,THIAB,",
  "THOM,TSHAB CEEB),XAUS,XIAB,XYEEM (FAIB,NTXIV,RHO,TOV),XYOO,ZWJ THAJ),VOWEL (KAAB,KAAV,KAB,",
  "KAIB,KAIV,KAUB,KAUV,KAV,KAWB,KAWV,KEB,KEEB,KEEV,KEV,KIAB,KIAV,KIB,KIV,KOB,KOOB,KOOV,KOV,KUAB,",
  "KUAV,KUB,KUV,KWB,KWV)),PALLAS,PALM (BRANCH,DOWN HAND,TREE,UP HAND),PALMS UP TOGETHER,",
  "PALMYRENE (LEFT-POINTING FLEURON,LETTER (ALEPH,AYIN,BETH,DALETH,FINAL NUN,GIMEL,HE,HETH,KAPH,",
  "LAMEDH,MEM,NUN,PE,QOPH,RESH,SADHE,SAMEKH,SHIN,TAW,TETH,WAW,YODH,ZAYIN),NUMBER (FIVE,FOUR,ONE,",
  "TEN,THREE,TWENTY,TWO),RIGHT-POINTING FLEURON),PANCAKES,PANDA FACE,PAPERCLIP,PARACHUTE,",
  "PARAGRAPH SEPARATOR,PARAGRAPHOS,PARAGRAPHUS MARK,PARALLEL (TO,WITH (HORIZONTAL STROKE,TILDE ",
  "OPERATOR)),PARENTHESIZED (DIGIT (EIGHT,FIVE,FOUR,NINE,ONE,SEVEN,SIX,THREE,TWO),HANGUL (",
  "CHIEUCH,CHIEUCH A,CIEUC,CIEUC (A,U),HIEUH,HIEUH A,IEUNG,IEUNG A,KHIEUKH,KHIEUKH A,KIYEOK,",
  "KIYEOK A,MIEUM,MIEUM A,NIEUN,NIEUN A,PHIEUPH,PHIEUPH A,PIEUP,PIEUP A,RIEUL,RIEUL A,SIOS,SIOS ",
  "A,THIEUTH,THIEUTH A,TIKEUT,TIKEUT A),IDEOGRAPH (ALLIANCE,CALL,CONGRATULATION,EARTH,EIGHT,",
  "ENTERPRISE,FESTIVAL,FINANCIAL,FIRE,FIVE,FOUR,HAVE,LABOR,METAL,MOON,NAME,NINE,ONE,REACH,",
  "REPRESENT,RESOURCE,REST,SELF,SEVEN,SIX,SOCIETY,SPECIAL,STOCK,STUDY,SUN,SUPERVISE,TEN,THREE,",
  "TWO,WATER,WOOD),KOREAN CHARACTER (O HU,OJEON),LATIN (CAPITAL LETTER (A,B,C,D,E,F,G,H,I,J,K,L,",
  "M,N,O,P,Q,R,S,T,U,V,W,X,Y,Z),SMALL LETTER (A,B,C,D,E,F,G,H,I,J,K,L,M,N,O,P,Q,R,S,T,U,V,W,X,Y,",
  "Z)),NUMBER (EIGHTEEN,ELEVEN,FIFTEEN,FOURTEEN,NINETEEN,SEVENTEEN,SIXTEEN,TEN,THIRTEEN,TWELVE,",
  "TWENTY)),PARROT,PART ALTERNATION MARK,PARTIAL (DIFFERENTIAL,LINE (BACKWARD,DOWN,FORWARD,UP)),",
  "PARTIALLY-RECYCLED PAPER SYMBOL,PARTNERSHIP SIGN,PARTY POPPER,PASSED SYMBOL,PASSENGER SHIP,",
  "PASSIVE-PULL-(DOWN-OUTPUT SYMBOL,UP-OUTPUT SYMBOL),PASSPORT CONTROL,PAU CIN HAU (GLOTTAL (",
  "STOP,STOP (FINAL,VARIANT)),LETTER (A,BA,CA,CHA,DA,E,FA,FINAL (K,L,M,N,NG,P,T,W,Y),GA,HA,I,IA,",
  "KA,KHA,LA,MA,NA,NGA,O,PA,PHA,RA,SA,TA,THA,U,UA,VA,ZA),LOW-FALLING (TONE,TONE (FINAL,LONG,LONG ",
  "FINAL)),MID-LEVEL (TONE,TONE (FINAL,LONG FINAL)),RISING (TONE,TONE (FINAL,LONG,LONG FINAL)),",
  "SANDHI (GLOTTAL (STOP,STOP FINAL),TONE,TONE (FINAL,LONG,LONG FINAL))),PAW PRINTS,PDF,PDI,",
  "PEACE SYMBOL,PEACH,PEACOCK,PEANUTS,PEAR,PEDESTRIAN,PEN OVER STAMPED ENVELOPE,PENCIL,PENGUIN,",
  "PENSIVE FACE,PENTAGRAM,PEOPLE HUGGING,PER (MILLE SIGN,SIGN,TEN THOUSAND SIGN),PERCENT SIGN,",
  "PERFORMING ARTS,PERMANENT PAPER SIGN,PERPENDICULAR,PERPENDICULAR WITH S,PERSEVERING FACE,",
  "PERSON (BOWING DEEPLY,CLIMBING,DOING CARTWHEEL,FROWNING,IN (LOTUS POSITION,STEAMY ROOM),",
  "RAISING BOTH HANDS IN CELEBRATION,WITH (BALL,BLOND HAIR,CROWN,FOLDED HANDS,HEADSCARF,POUTING ",
  "FACE)),PERSONAL COMPUTER,PERSPECTIVE,PESETA SIGN,PESO SIGN,PETRI DISH,PHAGS-PA (DOUBLE HEAD ",
  "MARK,LETTER (A,ALTERNATE YA,ASPIRATED FA,BA,CA,CANDRABINDU,CHA,DA,DDA,DZA,E,EE,FA,GA,GGA,HA,I,",
  "JA,KA,KHA,LA,MA,NA,NGA,NNA,NYA,O,PA,PHA,QA,RA,SA,SHA,SMALL A,TA,THA,TSA,TSHA,TTA,TTHA,U,",
  "VOICED HA,VOICELESS SHA,WA,XA,YA,ZA,ZHA),MARK (DOUBLE SHAD,SHAD),SINGLE HEAD MARK,SUBJOINED ",
  "LETTER (RA,WA,YA),SUPERFIXED LETTER RA),PHAISTOS DISC SIGN (ARROW,BEE,BEEHIVE,BOOMERANG,BOW,",
  "BULLS LEG,CAPTIVE,CARPENTRY PLANE,CAT,CHILD,CLUB,COLUMN,COMB,COMBINING OBLIQUE STROKE,DOLIUM,",
  "DOVE,EAGLE,FLUTE,GAUNTLET,GRATER,HELMET,HIDE,HORN,LID,LILY,MANACLES,MATTOCK,OX BACK,PAPYRUS,",
  "PEDESTRIAN,PLANE TREE,PLUMED HEAD,RAM,ROSETTE,SAW,SHIELD,SHIP,SLING,SMALL AXE,STRAINER,",
  "TATTOOED HEAD,TIARA,TUNNY,VINE,WAVY BAND,WOMAN),PHILIPPINE (DOUBLE PUNCTUATION,SINGLE ",
  "PUNCTUATION),PHOENICIAN (LETTER (AIN,ALF,BET,DELT,GAML,HE,HET,KAF,LAMD,MEM,NUN,PE,QOF,ROSH,",
  "SADE,SEMK,SHIN,TAU,TET,WAU,YOD,ZAI),NUMBER (ONE,ONE HUNDRED,TEN,THREE,TWENTY,TWO),WORD ",
  "SEPARATOR),PHOLUS,PICK,PICKUP TRUCK,PIE,PIG,PIG (FACE,NOSE),PILCROW SIGN,PILE OF POO,PILL,",
  "PINATA,PINCHED FINGERS,PINCHING HAND,PINE DECORATION,PINEAPPLE,PINWHEEL STAR,PISCES,PISTOL,",
  "PITCHFORK,PITCHFORK WITH TEE TOP,PLACARD,PLACE OF (INTEREST SIGN,WORSHIP),PLANCK (CONSTANT,",
  "CONSTANT OVER TWO PI),PLAYGROUND SLIDE,PLAYING CARD (ACE OF (CLUBS,DIAMONDS,HEARTS,SPADES),",
  "BACK,BLACK JOKER,EIGHT OF (CLUBS,DIAMONDS,HEARTS,SPADES),FIVE OF (CLUBS,DIAMONDS,HEARTS,",
  "SPADES),FOOL,FOUR OF (CLUBS,DIAMONDS,HEARTS,SPADES),JACK OF (CLUBS,DIAMONDS,HEARTS,SPADES),",
  "KING OF (CLUBS,DIAMONDS,HEARTS,SPADES),KNIGHT OF (CLUBS,DIAMONDS,HEARTS,SPADES),NINE OF (",
  "CLUBS,DIAMONDS,HEARTS,SPADES),QUEEN OF (CLUBS,DIAMONDS,HEARTS,SPADES),RED JOKER,SEVEN OF (",
  "CLUBS,DIAMONDS,HEARTS,SPADES),SIX OF (CLUBS,DIAMONDS,HEARTS,SPADES),TEN OF (CLUBS,DIAMONDS,",
  "HEARTS,SPADES),THREE OF (CLUBS,DIAMONDS,HEARTS,SPADES),TRUMP-(1,10,11,12,13,14,15,16,17,18,19,",
  "2,20,21,3,4,5,6,7,8,9),TWO OF (CLUBS,DIAMONDS,HEARTS,SPADES),WHITE JOKER),PLD,PLU,PLUNGER,",
  "PLUS (SIGN,SIGN (ABOVE EQUALS SIGN,IN (LEFT HALF CIRCLE,RIGHT HALF CIRCLE,TRIANGLE),WITH (",
  "BLACK TRIANGLE,CIRCUMFLEX ACCENT ABOVE,DOT BELOW,SMALL CIRCLE ABOVE,SUBSCRIPT TWO,TILDE (",
  "ABOVE,BELOW)))),PLUS-MINUS SIGN,PLUTO,PLUTO FORM (FIVE,FOUR,THREE,TWO),PM,POCKET CALCULATOR,",
  "POLICE (CAR,CARS REVOLVING LIGHT,OFFICER),POODLE,POP DIRECTIONAL (FORMATTING,ISOLATE),POPCORN,",
  "PORTABLE STEREO,POSEIDON,POSITION INDICATOR,POSTAL (HORN,MARK,MARK FACE),POSTBOX,POT OF FOOD,",
  "POTABLE WATER SYMBOL,POTATO,POTTED PLANT,POUCH,POULTRY LEG,POUND SIGN,POURING LIQUID,POUTING (",
  "CAT FACE,FACE),POWER (ON SYMBOL,ON-OFF SYMBOL,SLEEP SYMBOL,SYMBOL),PRAYER BEADS,PRECEDES,",
  "PRECEDES (ABOVE (ALMOST EQUAL TO,EQUALS SIGN,NOT (ALMOST EQUAL TO,EQUAL TO),SINGLE-LINE (",
  "EQUALS SIGN,NOT EQUAL TO)),BUT NOT EQUIVALENT TO,OR (EQUAL TO,EQUIVALENT TO),UNDER RELATION),",
  "PREGNANT (MAN,PERSON,WOMAN),PRESCRIPTION TAKE,PRESENTATION FORM FOR VERTICAL (COLON,COMMA,EM ",
  "DASH,EN DASH,EXCLAMATION MARK,HORIZONTAL ELLIPSIS,IDEOGRAPHIC (COMMA,FULL STOP),LEFT (ANGLE ",
  "BRACKET,BLACK LENTICULAR BRACKET,CORNER BRACKET,CURLY BRACKET,DOUBLE ANGLE BRACKET,",
  "PARENTHESIS,SQUARE BRACKET,TORTOISE SHELL BRACKET,WHITE (CORNER BRACKET,LENTICULAR BRACKET)),",
  "LOW LINE,QUESTION MARK,RIGHT (ANGLE BRACKET,BLACK LENTICULAR BRACKET,CORNER BRACKET,CURLY ",
  "BRACKET,DOUBLE ANGLE BRACKET,PARENTHESIS,SQUARE BRACKET,TORTOISE SHELL BRACKET,WHITE (CORNER ",
  "BRACKET,LENTICULAR (BRACKET,BRAKCET))),SEMICOLON,TWO DOT LEADER,WAVY LOW LINE),PRETZEL,",
  "PREVIOUS PAGE,PRIME,PRINCE,PRINCESS,PRINT SCREEN SYMBOL,PRINTER,PRINTER ICON,PRIVACY MESSAGE,",
  "PRIVATE (USE (ONE,TWO),USE-(1,2)),PROBING CANE,PROHIBITED SIGN,PROJECTIVE,PROPERTY LINE,",
  "PROPORTION,PROPORTIONAL TO,PROSERPINA,PSALTER PAHLAVI (FOUR DOTS WITH (CROSS,DOT),LETTER (",
  "ALEPH,BETH,DALETH,GIMEL,HE,HETH,KAPH,LAMEDH,MEM-QOPH,NUN,PE,SADHE,SAMEKH,SHIN,TAW,WAW-AYIN-",
  "RESH,YODH,ZAYIN),NUMBER (FOUR,ONE,ONE HUNDRED,TEN,THREE,TWENTY,TWO),SECTION MARK,TURNED ",
  "SECTION MARK),PU1,PU2,PUBLIC ADDRESS LOUDSPEAKER,PUNCTUATION SPACE,PUNCTUS ELEVATUS MARK,",
  "PURPLE HEART,PURSE,PUSHPIN,PUT LITTER IN ITS PLACE SYMBOL,QUADRANT (LOWER (LEFT,RIGHT),UPPER (",
  "LEFT,LEFT AND (LOWER (LEFT AND LOWER RIGHT,RIGHT),UPPER RIGHT AND LOWER (LEFT,RIGHT)),RIGHT,",
  "RIGHT AND LOWER (LEFT,LEFT AND LOWER RIGHT))),QUADRUPLE (INTEGRAL OPERATOR,PRIME),QUARTER ",
  "NOTE,QUATERNION INTEGRAL OPERATOR,QUESTION (EXCLAMATION MARK,MARK),QUESTIONED EQUAL TO,",
  "QUINCUNX,QUOTATION MARK,RABBIT,RABBIT FACE,RACCOON,RACING (CAR,MOTORCYCLE),RADICAL SYMBOL ",
  "BOTTOM,RADIO,RADIO BUTTON,RADIOACTIVE SIGN,RAILWAY (CAR,TRACK),RAIN,RAINBOW,RAISED (BACK OF ",
  "HAND,COMMA,DOT,DOTTED INTERPOLATION MARKER,FIST,HAND,HAND WITH (FINGERS SPLAYED,PART BETWEEN ",
  "MIDDLE AND RING FINGERS),INTERPOLATION MARKER,MC SIGN,MD SIGN,MR SIGN,SQUARE),RAM,RAT,RATIO,",
  "RAZOR,RECEIPT,RECORD SEPARATOR,RECREATIONAL VEHICLE,RECYCLED PAPER SYMBOL,RECYCLING SYMBOL ",
  "FOR (GENERIC MATERIALS,TYPE-(1 PLASTICS,2 PLASTICS,3 PLASTICS,4 PLASTICS,5 PLASTICS,6 ",
  "PLASTICS,7 PLASTICS)),RED (APPLE,GIFT ENVELOPE),REFERENCE MARK,REGIONAL INDICATOR SYMBOL ",
  "LETTER (A,B,C,D,E,F,G,H,I,J,K,L,M,N,O,P,Q,R,S,T,U,V,W,X,Y,Z),REGISTERED SIGN,REJANG (",
  "CONSONANT SIGN (H,N,NG,R),LETTER (A,BA,CA,DA,GA,HA,JA,KA,LA,MA,MBA,NA,NDA,NGA,NGGA,NYA,NYJA,",
  "PA,RA,SA,TA,WA,YA),SECTION MARK,VIRAMA,VOWEL SIGN (AI,AU,E,EA,EU,I,O,U)),RELIEVED FACE,",
  "REMINDER RIBBON,REPLACEMENT CHARACTER,RESPONSE,RESTRICTED LEFT ENTRY-(1,2),RESTROOM,RETURN (",
  "LEFT,RIGHT,SYMBOL),REVERSE (CHECKER BOARD,INDEX,LIGHT FOUR POINTED PINWHEEL STAR,LINE FEED,",
  "SOLIDUS,SOLIDUS (OPERATOR,PRECEDING SUBSET,WITH HORIZONTAL STROKE),TILDE OPERATOR ABOVE (",
  "LEFTWARDS ARROW,RIGHTWARDS ARROW)),REVERSED (ANGLE,ANGLE WITH UNDERBAR,COMMA,DOUBLE (PRIME,",
  "PRIME QUOTATION MARK,STROKE NOT SIGN),EMPTY SET,FORKED PARAGRAPHOS,HAND WITH MIDDLE FINGER ",
  "EXTENDED,NOT SIGN,PILCROW SIGN,PRIME,QUESTION MARK,RAISED HAND WITH FINGERS SPLAYED,RIGHT ",
  "ANGLE,ROTATED FLORAL HEART BULLET,SANS-SERIF CAPITAL L,SEMICOLON,THUMBS (DOWN SIGN,UP SIGN),",
  "TILDE,TILDE EQUALS,TRIPLE PRIME,VICTORY HAND),REVOLVING HEARTS,RHINOCEROS,RI,RIAL SIGN,RIBBON,",
  "RIBBON ARROW (DOWN (LEFT,RIGHT),LEFT (DOWN,UP),RIGHT (DOWN,UP),UP (LEFT,RIGHT)),RICE (BALL,",
  "CRACKER),RIFLE,RIGHT (AND (LOWER ONE EIGHTH BLOCK,UPPER ONE EIGHTH BLOCK),ANGER BUBBLE,ANGLE,",
  "ANGLE (BRACKET,BRACKET WITH DOT,DOTTED SUBSTITUTION MARKER,SUBSTITUTION MARKER,VARIANT WITH ",
  "SQUARE,WITH (ARC,DOWNWARDS ZIGZAG ARROW)),ARC GREATER-THAN BRACKET,ARROW WITH (CIRCLED PLUS,",
  "SMALL CIRCLE),BLACK (LENTICULAR BRACKET,TORTOISE SHELL BRACKET),CEILING,CORNER BRACKET,CURLY (",
  "BRACKET,BRACKET (LOWER HOOK,MIDDLE PIECE,UPPER HOOK)),DOTTED SUBSTITUTION BRACKET,DOUBLE (",
  "ANGLE BRACKET,ARROW WITH ROUNDED HEAD,PARENTHESIS,QUOTATION MARK,WIGGLY FENCE),FISH TAIL,FIVE ",
  "EIGHTHS BLOCK,FLOOR,HALF (BLACK (CIRCLE,STAR),BLOCK,FOLDER,MEDIUM SHADE,RUNNING MAN),HAND ",
  "TELEPHONE RECEIVER,LOW PARAPHRASE BRACKET,NORMAL FACTOR SEMIDIRECT PRODUCT,ONE (EIGHTH BLOCK,",
  "QUARTER BLOCK),OPEN SQUARED DOT,OUTER JOIN,PARENTHESIS,PARENTHESIS (EXTENSION,LOWER HOOK,",
  "UPPER HOOK),RAISED OMISSION BRACKET,S-SHAPED BAG DELIMITER,SEMIDIRECT PRODUCT,SEVEN EIGHTHS ",
  "BLOCK,SIDEWAYS U BRACKET,SINGLE QUOTATION MARK,SPEAKER,SPEAKER WITH (ONE SOUND WAVE,THREE ",
  "SOUND WAVES),SPEECH BUBBLE,SQUARE (BRACKET,BRACKET (EXTENSION,LOWER CORNER,UPPER CORNER,WITH (",
  "DOUBLE STROKE,QUILL,STROKE,TICK IN (BOTTOM CORNER,TOP CORNER),UNDERBAR))),SUBSTITUTION ",
  "BRACKET,TACK,THIRD WHITE RIGHT POINTING INDEX,THOUGHT BUBBLE,THREE (EIGHTHS BLOCK,QUARTERS ",
  "BLOCK),TORTOISE SHELL BRACKET,TRANSPOSITION BRACKET,TRIANGLE,TRIANGLE ABOVE LEFT TRIANGLE,",
  "TRIANGULAR ONE QUARTER BLOCK,VERTICAL (BAR WITH QUILL,BOX LINE),WHITE (CORNER BRACKET,CURLY ",
  "BRACKET,LENTICULAR BRACKET,PARENTHESIS,SQUARE BRACKET,TORTOISE SHELL BRACKET),WIGGLY FENCE),",
  "RIGHT-(FACING (ARMENIAN ETERNITY SIGN,FIST,SVASTI (SIGN,SIGN WITH DOTS)),HANDED INTERLACED ",
  "PENTAGRAM,POINTING (ANGLE BRACKET,CURVED ANGLE BRACKET,DOUBLE ANGLE QUOTATION MARK,MAGNIFYING ",
  "GLASS),SHADED WHITE RIGHTWARDS ARROW,SIDE ARC CLOCKWISE ARROW,TO-LEFT (EMBEDDING,ISOLATE,MARK,",
  "OVERRIDE)),RIGHTHAND INTERIOR PRODUCT,RIGHTWARDS (ARROW,ARROW (ABOVE (ALMOST EQUAL TO,",
  "REVERSE (ALMOST EQUAL TO,TILDE OPERATOR),SHORT LEFTWARDS ARROW,TILDE OPERATOR),AND UPPER AND ",
  "LOWER ONE EIGHTH BLOCK,FROM (BAR,BAR TO BLACK DIAMOND),OVER LEFTWARDS ARROW,THROUGH (GREATER-",
  "THAN,SUPERSET,X),TO (BAR,BLACK DIAMOND),WITH (CORNER DOWNWARDS,DOTTED STEM,DOUBLE VERTICAL ",
  "STROKE,EQUILATERAL ARROWHEAD,HOOK,LARGE TRIANGLE ARROWHEAD,LOOP,MEDIUM TRIANGLE ARROWHEAD,",
  "NOTCHED TAIL,PLUS BELOW,SMALL (EQUILATERAL ARROWHEAD,TRIANGLE ARROWHEAD),STROKE,TAIL,TAIL ",
  "WITH (DOUBLE VERTICAL STROKE,VERTICAL STROKE),TIP (DOWNWARDS,UPWARDS),VERTICAL STROKE)),ARROW-",
  "TAIL,BACK-TILTED SHADOWED WHITE ARROW,BLACK (ARROW,CIRCLED WHITE ARROW),BOTTOM SHADED WHITE ",
  "ARROW,COMPRESSED ARROW,DASHED ARROW,DOUBLE (ARROW,ARROW (FROM BAR,WITH (STROKE,VERTICAL ",
  "STROKE)),ARROW-TAIL,DASH ARROW),FINGER-POST ARROW,FRONT-TILTED SHADOWED WHITE ARROW,HAND,",
  "HARPOON (OVER LEFTWARDS HARPOON,WITH BARB (DOWN (ABOVE LEFTWARDS HARPOON WITH BARB DOWN,BELOW ",
  "LONG DASH,FROM BAR,TO BAR),DOWNWARDS,UP (ABOVE (LEFTWARDS HARPOON WITH BARB UP,LONG DASH,",
  "RIGHTWARDS HARPOON WITH BARB DOWN),FROM BAR,TO BAR),UPWARDS)),HEAVY (ARROW,COMPRESSED ARROW),",
  "LEFT-SHADED WHITE ARROW,OPEN-HEADED ARROW,PAIRED ARROWS,QUADRUPLE ARROW,RIGHT-SHADED WHITE ",
  "ARROW,ROCKET,SANS-SERIF ARROW,SQUARED ARROW,SQUIGGLE ARROW,TOP SHADED WHITE ARROW,TRIANGLE ",
  "ARROWHEAD,TRIANGLE-HEADED (ARROW,ARROW (OVER LEFTWARDS TRIANGLE-HEADED ARROW,TO BAR,WITH (",
  "BOLD SHAFT,DOUBLE (HORIZONTAL STROKE,VERTICAL STROKE),HEAVY SHAFT,LONG TIP (DOWNWARDS,",
  "UPWARDS),MEDIUM SHAFT,NARROW SHAFT,VERY HEAVY SHAFT)),DASHED ARROW,PAIRED ARROWS),TRIPLE (",
  "ARROW,DASH ARROW),TWO HEADED ARROW,TWO-HEADED (ARROW (FROM BAR,WITH (DOUBLE VERTICAL STROKE,",
  "TAIL,TAIL WITH (DOUBLE VERTICAL STROKE,VERTICAL STROKE),TRIANGLE ARROWHEADS,VERTICAL STROKE)),",
  "TRIPLE DASH ARROW),WAVE ARROW,WHITE (ARROW,ARROW (FROM WALL,WITHIN TRIANGLE ARROWHEAD))),RING,",
  "RING (ABOVE,BUOY,EQUAL TO,IN EQUAL TO,OPERATOR,POINT),RINGED PLANET,RINGING BELL,RISING ",
  "DIAGONAL CROSSING (FALLING DIAGONAL,SOUTH EAST ARROW),RLE,RLI,RLM,RLO,ROASTED SWEET POTATO,",
  "ROBOT FACE,ROCK,ROCKET,ROLL OF PAPER,ROLLED-UP NEWSPAPER,ROLLER (COASTER,SKATE),ROLLING ON ",
  "THE FLOOR LAUGHING,ROMAN (AS SIGN,CENTURIAL SIGN,DENARIUS SIGN,DIMIDIA SEXTULA SIGN,DUPONDIUS ",
  "SIGN,NUMERAL (EIGHT,ELEVEN,FIFTY,FIFTY (EARLY FORM,THOUSAND),FIVE,FIVE (HUNDRED,THOUSAND),",
  "FOUR,NINE,ONE,ONE (HUNDRED,HUNDRED THOUSAND,THOUSAND,THOUSAND C D),REVERSED ONE HUNDRED,SEVEN,",
  "SIX,SIX LATE FORM,TEN,TEN THOUSAND,THREE,TWELVE,TWO),QUINARIUS SIGN,SEMUNCIA SIGN,SESTERTIUS ",
  "SIGN,SEXTANS SIGN,SEXTULA SIGN,SILIQUA SIGN,UNCIA SIGN),ROOSTER,ROSE,ROSETTE,ROTATED (CAPITAL ",
  "Q,FLORAL HEART BULLET,HEAVY BLACK HEART BULLET,LIGHT FOUR POINTED BLACK CUSP,WHITE FOUR ",
  "POINTED CUSP),ROUND (PUSHPIN,TARGET),ROUNDED SYMBOL FOR (CAI,FU,LU,SHOU,SHUANGXI,XI),ROWBOAT,",
  "RS,RUBLE SIGN,RUGBY FOOTBALL,RULE-DELAYED,RUMI (DIGIT (EIGHT,FIVE,FOUR,NINE,ONE,SEVEN,SIX,",
  "THREE,TWO),FRACTION (ONE (HALF,QUARTER,THIRD),TWO THIRDS),NUMBER (EIGHT HUNDRED,EIGHTY,FIFTY,",
  "FIVE HUNDRED,FORTY,FOUR HUNDRED,NINE HUNDRED,NINETY,ONE HUNDRED,SEVEN HUNDRED,SEVENTY,SIX ",
  "HUNDRED,SIXTY,TEN,THIRTY,THREE HUNDRED,TWENTY,TWO HUNDRED)),RUNIC (ARLAUG SYMBOL,BELGTHOR ",
  "SYMBOL,CROSS PUNCTUATION,LETTER (AC A,AESC,ALGIZ EOLHX,ANSUZ A,BERKANAN BEORC BJARKAN B,C,",
  "CALC,CEALC,CEN,CWEORTH,D,DAGAZ DAEG D,DOTTED-(L,N,P),E,EAR,EHWAZ EH E,ENG,ETH,FEHU FEOH FE F,",
  "FRANKS CASKET (AC,AESC,EH,IS,OS),G,GAR,GEBO GYFU G,GER,HAEGL H,HAGLAZ H,ICELANDIC-YR,ING,",
  "INGWAZ,IOR,ISAZ IS ISS I,IWAZ EOH,JERAN J,K,KAUN K,KAUNA,LAUKAZ LAGU LOGR L,LONG-BRANCH-(AR ",
  "AE,HAGALL H,MADR M,OSS O,YR),MANNAZ MAN M,NAUDIZ NYD NAUD N,O,OE,ON,OO,OPEN-P,OS O,OTHALAN ",
  "ETHEL O,PERTHO PEORTH P,Q,RAIDO RAD REID R,SH,SHORT-TWIG-(AR A,BJARKAN B,HAGALL H,MADR M,NAUD ",
  "N,OSS O,SOL S,TYR T,YR),SIGEL LONG-BRANCH-SOL S,SOWILO S,STAN,THURISAZ THURS THORN,TIWAZ TIR ",
  "TYR T,URUZ UR U,V,W,WUNJO WYNN W,X,Y,YR,Z),MULTIPLE PUNCTUATION,SINGLE PUNCTUATION,TVIMADUR ",
  "SYMBOL),RUNNER,RUNNING SHIRT WITH SASH,RUPEE SIGN,RUSSIAN ASTROLOGICAL SYMBOL (BINOVILE,",
  "NOVILE,QUINTILE,SENTAGON,TREDECILE,VIGINTILE)"
]

end CharacterName
end Text
end ModelNav
