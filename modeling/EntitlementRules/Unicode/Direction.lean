import EntitlementRules.Unicode.Packed

/-! Directions of writing, and which labels can stand in a name that is partly written from right to left. -/
namespace EntitlementRules.Unicode

/-- The part that a character plays in the direction of a text. -/
inductive Direction where
  | leftToRight
  | rightToLeft
  | arabicNumber
  | number
  /-- A mark, which goes with the character before it. -/
  | mark
  /-- Signs that take the direction of what is around them. -/
  | neutral
  /-- Characters that part texts. -/
  | separator
  deriving Repr, DecidableEq

/-- The characters that are not written from left to right. The value is the place of the direction in
`directions`. -/
def directionRuns : List Run := Run.table
  "0,8,4 0,4,5 0,D,4 0,4,5 0,E,4 0,9,2 0,12,4 Q,2K,4 V,0,4 CH,1,4 7,D,4 2,R,4 1,G,4 0,33,3
    5,0,4 3K,0,4 3W,6,3 74,5,4 1,18,3 0,0,0 0,0,3 0,0,0 0,1,3 0,0,0 0,1,3 0,0,0 0,0,3 8,10,0
    H,1,4 0,0,0 0,1,4 0,0,0 0,0,4 0,0,0 0,1,4 0,A,3 0,1B,0 0,K,3 0,9,1 0,0,4 0,1,1 0,2,0 0,0,3
    0,2S,0 0,6,3 1,0,4 0,5,3 0,1,0 0,1,3 0,0,4 0,3,3 0,1,0 0,9,2 0,M,0 0,0,3 0,T,0 0,Q,3 2,2G,0
    0,A,3 0,1L,0 0,8,3 0,1,0 0,3,4 0,0,0 2,0,3 0,N,0 0,3,3 0,0,0 0,8,3 0,0,0 0,2,3 0,0,0 0,4,3
    2,14,0 0,2,3 2,1C,0 8,8,3 0,15,0 0,1K,3 1J,0,3 1,0,3 4,7,3 4,0,3 3,6,3 A,1,3 T,0,3 1M,0,3
    4,3,3 8,0,3 K,1,3 E,1,4 7,0,4 2,4,3 1L,0,3 4,G,3 U,1,3 3,0,3 B,1,3 1L,0,3 4,7,3 4,0,3 K,1,3
    D,0,4 8,7,3 1M,0,3 2,0,3 1,3,3 8,9,3 B,1,3 U,0,3 1P,0,3 C,0,3 11,7,4 5,0,3 3,0,3 1J,0,3
    1,2,3 5,G,3 B,1,3 K,6,4 2,0,3 1M,0,3 F,1,3 K,1,3 S,1,3 1L,1,3 4,3,3 8,0,3 K,1,3 T,0,3 20,0,3
    7,4,3 2I,0,3 2,6,3 4,0,4 7,7,3 2Q,0,3 2,8,3 B,6,3 21,1,3 R,0,3 1,0,3 1,0,3 0,3,4 1F,D,3
    1,4,3 1,1,3 5,1B,3 9,0,3 2U,3,3 1,5,3 1,1,3 2,1,3 P,1,3 4,2,3 G,3,3 D,0,3 2,1,3 6,0,3 F,0,3
    JJ,2,3 1C,9,4 2U,0,4 II,1,4 39,2,3 T,1,3 U,1,3 U,1,3 1V,6,3 8,0,3 2,A,3 7,0,4 1,0,3 I,Q,4
    3E,1,3 Y,0,3 3A,2,3 4,1,3 9,0,3 6,2,3 4,5,4 48,X,4 N,1,3 2,0,3 1M,0,3 1,8,3 1,0,3 2,7,3
    6,C,3 1C,2B,3 1C,0,3 1,4,3 1,0,3 5,0,3 14,8,3 C,1,3 W,3,3 2,1,3 1,2,3 1K,0,3 1,1,3 3,0,3
    1,2,3 1M,7,3 2,1,3 48,2,3 1,C,3 1,6,3 4,0,3 6,0,3 3,1,3 5I,1R,3 EK,50,4 F,W,3 J,21,4 1O,BV,4
    1X,P,4 1,40,4 P,H7,4 1,9E,4 74,ID,4 1,2W,4 6D,5,4 4,2,3 7,6,4 3J,0,3 2O,V,3 0,EC,4 3,O,4
    9,3,3 2,0,4 6,0,4 5,2,4 2H,1,3 5,0,4 2I,0,4 5G,Z,4 5I4,1R,4 H3K,1I,4 92,2,4 2N,3,3 0,0,4
    0,9,3 0,1,4 U,1,3 28,1,3 E,X,4 2U,0,4 3D,0,3 3,0,3 4,0,3 P,1,3 1,3,4 0,0,3 B,1,4 1M,3,4
    24,1,3 Q,H,3 D,0,3 12,7,3 P,A,3 1A,2,3 1C,0,3 2,3,3 2,1,3 13,0,3 1V,5,3 2,1,3 2,1,3 C,0,3
    8,0,3 1B,0,3 1F,0,3 1,2,3 2,1,3 5,1,3 1,0,3 16,1,3 8,0,3 37,1,4 3D,0,3 2,0,3 4,0,3 FN4,0,3
    43,G,0 AJ,H,4 3J,1C,4 W,F,3 L,1,4 18,0,0 I5,0,4 1Q,24,4 3,G,4 2K,0,3 6A,0,3 0,Q,2 3E,4,3
    W5,7V,0 3,0,4 0,68,0 0,E,3 0,11,0 2,7,3 0,4K,0 0,1,3 4,22,0 3,6,4 0,DF,0 0,3,3 8,9,1 6,F,0
    P,4,3 0,X,0 5S,U,1 1,15,0 1,1,3 0,17,0 X,5,3 0,1X,0 0,A,3 0,1C,0 0,3,3 0,34,0 A,0,3 1I,E,3
    B,J,4 A,0,3 2,1,3 A,2,3 1D,3,3 2,1,3 7,0,3 1P,2,3 10,4,3 1,7,3 1Q,0,3 C,1,3 1G,8,3 A,3,3
    2,0,3 2N,2,3 2,0,3 1,1,3 6,0,3 2,0,3 4D,0,3 3,7,3 L,1,3 1L,1,3 3,0,3 11,E,3 1Y,5,3 D,0,3
    1,0,3 1,0,3 E,1,3 2D,7,3 2,2,3 1,0,3 N,0,3 2C,5,3 1,0,3 4,1,3 1,1,3 6M,3,3 6,1,3 1,1,3 R,1,3
    2D,7,3 2,0,3 1,1,3 V,C,4 1Q,0,3 1,0,3 2,5,3 1,0,3 2T,2,3 2,3,3 1,4,3 77,8,3 1,1,3 74,1,3
    1,0,3 4,0,3 40,7,3 4,0,3 W,5,3 2,1,3 14,5,3 2,3,3 8,0,3 9,5,3 2,2,3 1A,C,3 1,1,3 5I,0,3
    1,2,3 1,0,3 5L,D,3 2C,L,3 2,6,3 1,1,3 1,1,3 3E,K,3 1,0,3 20,1,3 3,0,3 1,0,3 9N,1,3 B,1,3
    1G,4,3 5,0,3 1,0,3 N,0,3 3E,S,4 40E,0,3 6,E,3 8UG,B,3 3,2,3 1XC,4,3 1N,6,3 T4,0,3 1R,3,3
    27,0,4 1,0,3 F5K,1,3 3MP,1Y,3 F4,2,3 H,7,3 2,6,3 U,3,3 1N,2G,4 0,2,3 0,0,4 56,2E,4 1BD,1I,3
    4,1D,3 8,0,3 E,0,3 M,K,3 11S,3Z,3 4G,6,3 AF,0,3 1P,3,3 F,0,4 DO,3,3 72,1,3 6R,0,3 2,0,3
    7,1,3 5,0,3 7E,5R,0 0,6,3 23,X,0 0,6,3 0,S2,0 C2,FZ,4 1P,2,4 1P,0,4 4Y,VR,4 5,46,4 C,2G,4
    7,5T,4 26,9F,4 C,K,4 3,E,4 9,S,4 3,A,4 5,5,4 A,9,4 6,7,4 8,6,4 9,5M,4"

def directions : List Direction :=
  [.rightToLeft, .arabicNumber, .number, .mark, .neutral, .separator]

def direction (c : Char) : Direction :=
  ((find? directionRuns c).bind fun run => directions[run.values.headD 0]?).getD .leftToRight

/-- Whether a direction makes its name one that is partly written from right to left. -/
def Direction.turns (direction : Direction) : Bool :=
  direction == .rightToLeft || direction == .arabicNumber

/-- Whether a label from right to left can hold a direction. -/
def Direction.fitsRight (direction : Direction) : Bool :=
  direction != .leftToRight && direction != .separator

/-- Whether a label from left to right can hold a direction. -/
def Direction.fitsLeft (direction : Direction) : Bool :=
  direction == .leftToRight || direction == .number || direction == .mark || direction == .neutral

/-- Whether a label can stand in a name that is partly written from right to left. Its first character sets
its direction; it ends in a letter or number, marks aside, and has digits of one kind. -/
def isDirected (label : List Char) : Bool :=
  let course := label.map direction
  let last := (course.reverse.dropWhile (· == .mark)).head?
  match course with
  | [] => true
  | .rightToLeft :: _ =>
    course.all Direction.fitsRight
      && (last == some .rightToLeft || last == some .number || last == some .arabicNumber)
      && !(course.contains .number && course.contains .arabicNumber)
  | .leftToRight :: _ =>
    course.all Direction.fitsLeft && (last == some .leftToRight || last == some .number)
  | _ => false

end EntitlementRules.Unicode
