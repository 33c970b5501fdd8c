import EntitlementRules.Unicode.Packed

/-! Composition: the form of a text in which each letter with marks is one character, as far as there is one, and
the other marks stand in a fixed order. The tables hold the characters that names of hosts can have. -/
namespace EntitlementRules.Unicode

/-- The characters that stand for two others, which are their values. -/
def pairRuns : List Run := Run.table
  "68,0,2P,LC 0,0,2P,LD 0,0,2P,LE 0,0,2P,LF 0,0,2P,LK 0,0,2P,LM 1,0,2R,MF 0,0,2T,LC 0,0,2T,LD
    0,0,2T,LE 0,0,2T,LK 0,0,2X,LC 0,0,2X,LD 0,0,2X,LE 0,0,2X,LK 1,0,32,LF 0,0,33,LC 0,0,33,LD
    0,0,33,LE 0,0,33,LF 0,0,33,LK 2,0,39,LC 0,0,39,LD 0,0,39,LE 0,0,39,LK 0,0,3D,LD 1,0,3D,LK
    1,0,2P,LG 1,0,2P,LI 1,0,2P,MG 1,0,2R,LD 1,0,2R,LE 1,0,2R,LJ 1,0,2R,LO 1,0,2S,LO 3,0,2T,LG
    1,0,2T,LI 1,0,2T,LJ 1,0,2T,MG 1,0,2T,LO 1,0,2V,LE 1,0,2V,LI 1,0,2V,LJ 1,0,2V,MF 1,0,2W,LE
    3,0,2X,LF 1,0,2X,LG 1,0,2X,LI 1,0,2X,MG 5,0,2Y,LE 1,0,2Z,MF 2,0,30,LD 1,0,30,MF 1,0,30,LO
    5,0,32,LD 1,0,32,MF 1,0,32,LO 4,0,33,LG 1,0,33,LI 1,0,33,LN 3,0,36,LD 1,0,36,MF 1,0,36,LO
    1,0,37,LD 1,0,37,LE 1,0,37,MF 1,0,37,LO 1,0,38,MF 1,0,38,LO 3,0,39,LF 1,0,39,LG 1,0,39,LI
    1,0,39,LM 1,0,39,LN 1,0,39,MG 1,0,3B,LE 1,0,3D,LE 2,0,3E,LD 1,0,3E,LJ 1,0,3E,LO Y,0,33,M3
    E,0,39,M3 T,0,2P,LO 1,0,2X,LO 1,0,33,LO 1,0,39,LO 1,0,70,LG 1,0,70,LD 1,0,70,LO 1,0,70,LC
    2,0,6C,LG 1,0,FB,LG 1,0,6E,LG 3,0,2V,LO 1,0,2Z,LO 1,0,33,MG 1,0,DN,LG 1,0,IA,LO 0,0,2Y,LO
    4,0,2V,LD 3,0,32,LC 1,0,6D,LD 1,0,6E,LD 1,0,6W,LD 1,0,2P,LR 1,0,2P,LT 1,0,2T,LR 1,0,2T,LT
    1,0,2X,LR 1,0,2X,LT 1,0,33,LR 1,0,33,LT 1,0,36,LR 1,0,36,LT 1,0,39,LR 1,0,39,LT 1,0,37,ME
    1,0,38,ME 3,0,2W,LO 7,0,2P,LJ 1,0,2T,MF 1,0,6U,LG 1,0,6T,LG 1,0,33,LJ 1,0,FJ,LG 1,0,3D,LG
    9O,0,QY,LD R,0,Q9,LD 0,0,QD,LD 0,0,QF,LD 0,0,QH,LD 0,0,QZ,LD P,0,QH,LK 0,0,QT,LK 0,0,QN,LD
    0,0,QT,LD 0,0,QX,LD 2Y,0,U0,LI M,0,TX,LC 0,0,TX,LK 1,0,TV,LD 3,0,UU,LK 4,0,U2,LD 0,0,U0,LC
    0,0,UB,LI O,0,VP,LR 22,0,TY,LI E,0,TS,LI 1,0,TS,LK 3,0,TX,LI 3,0,YH,LK 1,0,TY,LK 1,0,TZ,LK
    3,0,U0,LG 1,0,U0,LK 1,0,U6,LK 3,0,YX,LK 1,0,UL,LK 1,0,UB,LG 1,0,UB,LK 1,0,UB,LN 1,0,UF,LK
    3,0,UJ,LK 88,0,17R,18Z 0,0,17R,190 0,0,18O,190 0,0,17R,191 0,0,18Q,190 49,0,1CL,190
    1,0,1C1,190 G,0,1CI,190 GL,0,1T4,1TO 7,0,1TC,1TO 2,0,1TF,1TO 46,0,1XJ,1XA 0,0,1XJ,1XZ
    AJ,0,287,28M 2,0,287,27Y 0,0,287,28N 1Z,0,2AA,2C7 1H,0,2BQ,2BI 0,0,2BR,2BI 0,0,2BQ,2C7
    3F,0,2FA,2FQ 3B,0,2IN,2J9 6,0,2IU,2J9 0,0,2IU,2JA 1,0,2IU,2IQ 0,0,2IY,2J9 3I,0,2ME,2M6
    0,0,2MF,2M6 0,0,2ME,2MV 3X,0,2QH,2Q2 1,0,2QH,2Q7 0,0,2QK,2Q2 0,0,2QH,2QN G7,0,36T,372
    25B,0,5C5,5DH 1,0,5C7,5DH 1,0,5C9,5DH 1,0,5CB,5DH 1,0,5CD,5DH 3,0,5CH,5DH 14,0,5DM,5DH
    1,0,5DO,5DH 2,0,5DQ,5DH 0,0,5DR,5DH 1,0,5DU,5DH JH,0,2P,MD 1,0,2Q,LJ 1,0,2Q,MB 1,0,2Q,MP
    1,0,6F,LD 1,0,2S,LJ 1,0,2S,MB 1,0,2S,MP 1,0,2S,MF 1,0,2S,ML 1,0,7N,LC 1,0,7N,LD 1,0,2T,ML
    1,0,2T,MO 1,0,FD,LI 1,0,2U,LJ 1,0,2V,LG 1,0,2W,LJ 1,0,2W,MB 1,0,2W,LK 1,0,2W,MF 1,0,2W,MM
    1,0,2X,MO 1,0,6N,LD 1,0,2Z,LD 1,0,2Z,MB 1,0,2Z,MP 1,0,30,MB 1,0,5YV,LG 1,0,30,MP 1,0,30,ML
    1,0,31,LD 1,0,31,LJ 1,0,31,MB 1,0,32,LJ 1,0,32,MB 1,0,32,MP 1,0,32,ML 1,0,6T,LD 1,0,6T,LK
    1,0,99,LC 1,0,99,LD 1,0,34,LD 1,0,34,LJ 1,0,36,LJ 1,0,36,MB 1,0,5ZV,LG 1,0,36,MP 1,0,37,LJ
    1,0,37,MB 1,0,9N,LJ 1,0,9T,LJ 1,0,603,LJ 1,0,38,LJ 1,0,38,MB 1,0,38,MP 1,0,38,ML 1,0,39,MC
    1,0,39,MO 1,0,39,ML 1,0,A1,LD 1,0,A3,LK 1,0,3A,LF 1,0,3A,MB 1,0,3B,LC 1,0,3B,LD 1,0,3B,LK
    1,0,3B,LJ 1,0,3B,MB 1,0,3C,LJ 1,0,3C,LK 1,0,3D,LJ 1,0,3E,LE 1,0,3E,MB 1,0,3E,MP 0,0,2W,MP
    0,0,38,LK 0,0,3B,LM 0,0,3D,LM 7,0,2P,MB 1,0,2P,LL 1,0,6A,LD 1,0,6A,LC 1,0,6A,LL 1,0,6A,LF
    1,0,61T,LE 1,0,77,LD 1,0,77,LC 1,0,77,LL 1,0,77,LF 1,0,61T,LI 1,0,2T,MB 1,0,2T,LL 1,0,2T,LF
    1,0,6I,LD 1,0,6I,LC 1,0,6I,LL 1,0,6I,LF 1,0,62H,LE 1,0,2X,LL 1,0,2X,MB 1,0,33,MB 1,0,33,LL
    1,0,6S,LD 1,0,6S,LC 1,0,6S,LL 1,0,6S,LF 1,0,631,LE 1,0,BL,LD 1,0,BL,LC 1,0,BL,LL 1,0,BL,LF
    1,0,BL,MB 1,0,39,MB 1,0,39,LL 1,0,C0,LD 1,0,C0,LC 1,0,C0,LL 1,0,C0,LF 1,0,C0,MB 1,0,3D,LC
    1,0,3D,MB 1,0,3D,LL 1,0,3D,LF 6,0,Q9,LV 0,0,Q9,LW 0,0,64G,LC 0,0,64H,LC 0,0,64G,LD
    0,0,64H,LD 0,0,64G,N6 0,0,64H,N6 8,0,QD,LV 0,0,QD,LW 0,0,64W,LC 0,0,64X,LC 0,0,64W,LD
    0,0,64X,LD A,0,QF,LV 0,0,QF,LW 0,0,65C,LC 0,0,65D,LC 0,0,65C,LD 0,0,65D,LD 0,0,65C,N6
    0,0,65D,N6 8,0,QH,LV 0,0,QH,LW 0,0,65S,LC 0,0,65T,LC 0,0,65S,LD 0,0,65T,LD 0,0,65S,N6
    0,0,65T,N6 8,0,QN,LV 0,0,QN,LW 0,0,668,LC 0,0,669,LC 0,0,668,LD 0,0,669,LD A,0,QT,LV
    0,0,QT,LW 0,0,66O,LC 0,0,66P,LC 0,0,66O,LD 0,0,66P,LD 0,0,66O,N6 0,0,66P,N6 8,0,QX,LV
    0,0,QX,LW 0,0,674,LC 0,0,675,LC 0,0,674,LD 0,0,675,LD 0,0,674,N6 0,0,675,N6 8,0,Q9,LC
    1,0,QD,LC 1,0,QF,LC 1,0,QH,LC 1,0,QN,LC 1,0,QT,LC 1,0,QX,LC 1F,0,Q9,LI 0,0,Q9,LG 4,0,Q9,N6
    F,0,QF,N6 9,0,QH,LI 0,0,QH,LG 0,0,QY,LC 3,0,QH,N6 0,0,QY,N6 8,0,QT,LI 0,0,QT,LG 0,0,QZ,LC
    1,0,QP,LV 0,0,QP,LW 0,0,QT,N6 0,0,QZ,N6 E,0,QX,N6 BN,0,6MO,MW 0,0,6MQ,MW I,0,6MS,MW
    U,0,6OG,MW 0,0,6OK,MW 0,0,6OI,MW 1G,0,6PV,MW 4,0,6Q0,MW 2,0,6Q3,MW N,0,6QR,MW 1,0,6QT,MW
    Q,0,6RG,MW 2,0,6RN,MW 2,0,6RP,MW 1,0,6RS,MW M,0,1P,MW 1,0,6SH,MW A,0,6RX,MW 0,0,1O,MW
    0,0,1Q,MW 0,0,6SK,MW 0,0,6SL,MW 2,0,6SY,MW 0,0,6SZ,MW 2,0,6T2,MW 0,0,6T3,MW 6,0,6T6,MW
    0,0,6T7,MW 2,0,6TE,MW 0,0,6TF,MW 2,0,6TI,MW 0,0,6TJ,MW Y,0,6UA,MW 0,0,6UG,MW 0,0,6UH,MW
    0,0,6UJ,MW 1C,0,6T8,MW 0,0,6T9,MW 0,0,6TT,MW 0,0,6TU,MW 6,0,6UQ,MW 0,0,6UR,MW 0,0,6US,MW
    0,0,6UT,MW 2N2,0,9JF,9LL 1,0,9JH,9LL 1,0,9JJ,9LL 1,0,9JL,9LL 1,0,9JN,9LL 1,0,9JP,9LL
    1,0,9JR,9LL 1,0,9JT,9LL 1,0,9JV,9LL 1,0,9JX,9LL 1,0,9JZ,9LL 1,0,9K1,9LL 2,0,9K4,9LL
    1,0,9K6,9LL 1,0,9K8,9LL 6,0,9KF,9LL 0,0,9KF,9LM 1,0,9KI,9LL 0,0,9KI,9LM 1,0,9KL,9LL
    0,0,9KL,9LM 1,0,9KO,9LL 0,0,9KO,9LM 1,0,9KR,9LL 0,0,9KR,9LM M,0,9JA,9LL 9,0,9LP,9LL
    D,0,9M3,9LL 1,0,9M5,9LL 1,0,9M7,9LL 1,0,9M9,9LL 1,0,9MB,9LL 1,0,9MD,9LL 1,0,9MF,9LL
    1,0,9MH,9LL 1,0,9MJ,9LL 1,0,9ML,9LL 1,0,9MN,9LL 1,0,9MP,9LL 2,0,9MS,9LL 1,0,9MU,9LL
    1,0,9MW,9LL 6,0,9N3,9LL 0,0,9N3,9LM 1,0,9N6,9LL 0,0,9N6,9LM 1,0,9N9,9LL 0,0,9N9,9LM
    1,0,9NC,9LL 0,0,9NC,9LM 1,0,9NF,9LL 0,0,9NF,9LM M,0,9LY,9LL 2,0,9NZ,9LL 0,0,9O0,9LL
    0,0,9O1,9LL 0,0,9O2,9LL 3,0,9OD,9LL 1863,0,1HUH,1HVE 1,0,1HUJ,1HVE E,0,1HUT,1HVE
    3M,0,1HYP,1HYF 0,0,1HYQ,1HYF EZ,0,1IDJ,1IDA 0,0,1IDJ,1IDZ A6,0,1INT,1INU 0,0,1INT,1INK
    1,0,1INT,1INX 6Z,0,1IUW,1IUN 0,0,1IUX,1IUN OS,0,1JJP,1JJK"

/-- The classes of marks other than zero. Marks of different classes do not touch each other. -/
def classRuns : List Run := Run.table
  "LC,K,6E 0,0,6G 0,3,64 0,0,6G 0,0,60 0,4,64 0,1,5M 0,3,64 0,1,5M 0,A,64 0,4,1 0,3,64 0,9,6E
    0,2,64 0,2,6E 0,1,64 1,2,6E 0,3,64 0,0,6E 0,0,6G 0,1,64 0,0,6E 0,0,6H 0,1,6I 0,0,6H 0,1,6I
    0,0,6H 0,C,6E 7N,4,6E 7D,0,64 0,3,6E 0,0,64 0,2,6E 0,0,66 0,0,64 0,5,6E 0,5,64 0,1,6E 0,0,64
    0,1,6E 0,0,66 0,0,6C 0,0,6E 0,0,A 0,0,B 0,0,C 0,0,D 0,0,E 0,0,F 0,0,G 0,0,H 0,0,I 0,1,J
    0,0,K 0,0,L 0,0,M 1,0,N 1,0,O 0,0,P 1,0,6E 0,0,64 1,0,I 20,7,6E 0,0,U 0,0,V 0,0,W 1C,0,R
    0,0,S 0,0,T 0,0,U 0,0,V 0,0,W 0,0,X 0,0,Y 0,1,6E 0,1,64 0,4,6E 0,0,64 0,1,6E 0,0,64 G,0,Z
    2T,6,6E 2,3,6E 0,0,64 0,0,6E 2,1,6E 1,0,64 0,1,6E 0,0,64 Z,0,10 U,0,6E 0,0,64 0,1,6E 0,0,64
    0,1,6E 0,2,64 0,0,6E 0,1,64 0,0,6E 0,0,64 0,2,6E 0,0,64 0,0,6E 0,0,64 0,0,6E 0,0,64 0,0,6E
    0,0,64 0,1,6E 4G,6,6E 0,0,64 0,0,6E 9,0,64 O,3,6E 1,8,6E 1,2,6E 1,4,6E 17,2,64 1O,0,6E
    0,2,64 0,3,6E 16,4,6E 0,4,64 0,D,6E 1,0,64 0,1,6E 0,0,64 0,1,6E 0,0,64 0,2,6E 0,2,64 0,0,R
    0,0,S 0,0,T 0,2,6E 0,0,64 0,1,6E 0,1,64 0,4,6E 1O,0,7 G,0,9 3,0,6E 0,0,64 0,1,6E 2V,0,7
    G,0,9 1C,0,6E 1P,0,7 G,0,9 32,0,7 G,0,9 32,0,7 G,0,9 3J,0,9 32,0,7 G,0,9 7,0,2C 0,0,2J
    2T,0,7 G,0,9 31,1,9 G,0,9 3G,0,9 31,1,2V 0,0,9 D,3,2Z 30,1,3A 0,0,9 D,3,3E 24,1,64 R,0,64
    1,0,64 1,0,60 1J,0,3L 0,0,3M 1,0,3O 5,3,3M 2,0,3M 1,1,6E 0,0,9 1,1,6E 1Q,0,64 34,0,7 1,1,9
    2A,0,64 JZ,2,6E QC,1,9 U,0,9 4D,0,9 A,0,6E 5N,0,6C 3Z,0,66 0,0,6E 0,0,64 63,0,6E 0,0,64
    1Z,0,9 K,7,6E 2,0,64 1C,4,6E 0,5,64 0,1,6E 0,0,64 1,1,64 0,1,6E 0,1,64 0,4,6E 0,0,64 0,3,6E
    2T,0,7 F,0,9 12,0,6E 0,0,64 0,6,6E 1I,1,9 1M,0,7 B,1,9 1V,0,7 48,2,6E 1,0,1 0,4,64 0,1,6E
    0,3,64 0,0,6E 1,6,1 4,0,64 6,0,6E 3,1,6E 5I,1,6E 0,0,64 0,6,6E 0,0,64 0,1,6E 0,0,6I 0,0,5Y
    0,0,64 0,0,5M 0,10,6E 0,0,6G 0,1,6C 0,0,64 0,0,62 0,0,6E 0,0,6H 0,0,64 0,0,6E 0,0,64 K0,1,6E
    0,1,1 0,3,6E 0,2,1 0,1,6E 4,0,6E 3,1,1 0,0,6E 0,0,64 0,0,6E 0,1,1 0,3,64 0,0,6E 2DA,2,6E
    3X,0,9 2O,V,6E FE,0,62 0,0,6C 0,0,6G 0,0,66 0,1,68 2X,1,8 N9W,0,6E 4,9,6E W,1,6E 28,1,6E
    7O,0,9 11,0,9 47,0,9 R,H,6E 1L,2,64 11,0,9 2N,0,7 C,0,9 6N,0,6E 1,1,6E 0,0,64 2,1,6E 5,1,6E
    1,0,6E 1G,0,9 6U,0,9 FN4,0,Q LD,6,6E 0,6,64 0,1,6E R1,0,64 6A,0,64 45,4,6E 1AQ,0,64 1,0,6E
    14,0,6E 0,0,1 0,0,64 4,0,9 4L,0,6E 0,0,64 FX,3,6E AR,1,6E 49,1,64 0,2,6E 0,0,64 0,0,6E
    0,3,64 1D,0,6E 0,0,64 0,0,6E 0,0,64 5C,0,9 15,0,9 E,0,9 1L,0,9 0,0,7 1X,2,6E 1C,1,9 1Q,0,7
    24,0,9 9,0,7 2Y,0,9 0,0,7 4Y,0,7 0,0,9 28,1,7 G,0,9 O,E,6E 5P,0,9 3,0,7 N,0,6E 2R,0,9 0,0,7
    6Z,0,9 0,0,7 3I,0,9 3A,0,9 0,0,7 37,0,9 7H,0,9 0,0,7 76,1,9 4,0,7 4C,0,9 2B,0,9 I,0,9 29,0,9
    BP,0,9 76,0,7 1,1,9 29,0,9 FA0,4,1 1N,6,6E XL,1,6 F58,0,1 43Q,1,60 0,2,1 3,0,6A 0,4,60
    8,7,64 2,4,6E 0,1,64 U,3,6E 44,2,6E 2PN,16,6E 79,6,6E AF,0,6E 1P,3,6E 15S,6,64 31,5,6E 0,0,7"

/-- The class of a mark; zero for a character that is none. -/
def markClass (c : Char) : Nat :=
  match find? classRuns c with
  | some run => run.values.headD 0
  | none => 0

/-- The two characters that one stands for. -/
def pair? (c : Char) : Option (Char × Char) :=
  match find? pairRuns c with
  | some ⟨_, _, [first, second]⟩ => some (Char.ofNat first, Char.ofNat second)
  | _ => none

/-- The character that stands for two. -/
def ofPair? (first second : Char) : Option Char :=
  (pairRuns.find? (·.values == [first.toNat, second.toNat])).map fun run => Char.ofNat run.first

/-! ## Syllables

A syllable of Korean is a consonant, a vowel and perhaps another consonant. All syllables stand in the order of
these three. -/

namespace Syllable

def first : Nat := 0xAC00
def consonant : Nat := 0x1100
def vowel : Nat := 0x1161
/-- One less than the first of the closing consonants. -/
def closing : Nat := 0x11A7
def consonants : Nat := 19
def vowels : Nat := 21
/-- One more than the number of closing consonants. -/
def closings : Nat := 28

/-- The letters of a syllable. -/
def letters? (c : Char) : Option (List Char) :=
  let place := c.toNat - first
  if c.toNat < first || consonants * vowels * closings ≤ place then none
  else
    let opening := [Char.ofNat (consonant + place / (vowels * closings)),
      Char.ofNat (vowel + place % (vowels * closings) / closings)]
    if place % closings = 0 then some opening
    else some (opening ++ [Char.ofNat (closing + place % closings)])

/-- The syllable of a consonant and a vowel, or of an open syllable and a closing consonant. -/
def ofPair? (a b : Char) : Option Char :=
  let before := a.toNat - consonant
  let after := b.toNat - vowel
  let end_ := b.toNat - closing
  let place := a.toNat - first
  if consonant ≤ a.toNat && before < consonants && vowel ≤ b.toNat && after < vowels then
    some (Char.ofNat (first + (before * vowels + after) * closings))
  else if first ≤ a.toNat && place < consonants * vowels * closings && place % closings = 0
      && closing < b.toNat && end_ < closings then
    some (Char.ofNat (a.toNat + end_))
  else none

end Syllable

/-! ## The form -/

/-- How often a character that stands for two can be taken apart. -/
def nesting : Nat := 3

/-- The characters that one stands for in the end. -/
def decompose : (depth : Nat) → Char → List Char
  | 0, c => [c]
  | depth + 1, c =>
    match Syllable.letters? c, pair? c with
    | some letters, _ => letters
    | none, some (first, second) => decompose depth first ++ [second]
    | none, none => [c]

/-- Puts a character behind others, which come in reverse. A mark passes those of higher classes. -/
def place (c : Char) : List Char → List Char
  | [] => [c]
  | last :: rest =>
    if 0 < markClass c && markClass c < markClass last then last :: place c rest
    else c :: last :: rest

/-- The characters with the marks in the order of their classes. -/
def ordered (characters : List Char) : List Char :=
  (characters.foldl (fun placed c => place c placed) []).reverse

/-- The character that stands for two next to each other. -/
def compose? (a b : Char) : Option Char := (Syllable.ofPair? a b).orElse fun _ => ofPair? a b

/-- Composes what follows a starter. A mark that stays keeps marks of its class and below, and characters that
are no marks, away from the starter. -/
def composeAfter (starter : Char) (marks : List Char) : List Char → List Char
  | [] => starter :: marks
  | c :: rest =>
    let free := match marks.getLast? with
      | none => true
      | some last => markClass last < markClass c
    match if free then compose? starter c else none with
    | some composed => composeAfter composed marks rest
    | none =>
      if markClass c = 0 then starter :: marks ++ composeAfter c [] rest
      else composeAfter starter (marks ++ [c]) rest

/-- Composes characters. Marks at the start stay as they are. -/
def composed : List Char → List Char
  | [] => []
  | c :: rest => if markClass c = 0 then composeAfter c [] rest else c :: composed rest

/-- The composed form. -/
def compositionForm (characters : List Char) : List Char :=
  composed (ordered (characters.flatMap (decompose nesting)))

end EntitlementRules.Unicode
