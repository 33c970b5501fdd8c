import EntitlementRules.Unicode.Composition

/-! Joiners: characters without a shape of their own that tell whether their neighbours are joined. They may
stand only where that shows. -/
namespace EntitlementRules.Unicode

/-- The sides on which a letter joins its neighbours. -/
inductive Joining where
  | left
  | right
  | both
  /-- It lets its neighbours join each other. -/
  | transparent
  /-- It makes its neighbours join it. -/
  | causing
  | none
  deriving Repr, DecidableEq

/-- The characters that join. The value is the place of the kind in `joinings`. -/
def joiningRuns : List Run := Run.table
  "LC,33,3 7N,6,3 7B,18,3 1,0,3 1,1,3 1,1,3 1,0,3 20,A,3 5,0,2 1,3,1 0,0,2 0,0,1 0,0,2 0,0,1
    0,4,2 0,3,1 0,C,2 0,0,4 0,6,2 0,0,1 0,1,2 0,K,3 E,1,2 0,0,3 0,2,1 5,E,2 0,H,1 0,11,2 0,0,1
    0,1,2 0,8,1 0,0,2 0,0,1 0,0,2 0,0,1 0,1,2 0,1,1 1,0,1 0,6,3 2,5,3 2,1,3 1,3,3 0,1,1 A,2,2
    2,0,2 G,0,1 0,0,3 0,2,2 0,4,1 0,3,2 0,0,1 0,8,2 0,0,1 0,0,2 0,0,1 0,0,2 0,0,1 0,1,2 0,0,1
    0,Q,3 2,0,1 0,A,2 0,2,1 0,E,2 0,1,1 0,3,2 0,0,1 0,0,2 0,1,1 0,2,2 0,1,1 0,5,2 12,A,3 P,W,2
    0,8,3 6,0,4 2,0,3 O,3,3 1,8,3 1,2,3 1,4,3 I,0,1 0,4,2 0,1,1 0,0,2 0,0,1 0,9,2 0,0,1 0,0,2
    0,2,1 0,2,3 4,0,2 1,3,2 1,0,1 0,0,2 0,P,1 0,2,4 0,0,2 2,4,2 0,0,1 0,0,2 7,8,3 0,9,2 0,2,1
    1,0,1 0,1,2 0,1,1 0,5,2 0,0,1 0,E,2 1,1K,3 1J,0,3 1,0,3 4,7,3 4,0,3 3,6,3 A,1,3 T,0,3 1M,0,3
    4,3,3 8,0,3 K,1,3 Q,4,3 1L,0,3 4,G,3 U,1,3 3,0,3 B,1,3 1L,0,3 4,7,3 4,0,3 K,1,3 M,7,3 1M,0,3
    2,0,3 1,3,3 8,9,3 B,1,3 U,0,3 1P,0,3 C,0,3 1E,0,3 3,0,3 1J,0,3 1,2,3 5,G,3 B,1,3 T,0,3
    1M,0,3 2,0,3 6,0,3 5,1,3 K,1,3 S,1,3 1L,1,3 4,3,3 8,0,3 K,1,3 T,0,3 20,0,3 7,4,3 2I,0,3
    2,6,3 C,7,3 2Q,0,3 2,8,3 B,6,3 21,1,3 R,0,3 1,0,3 1,0,3 1J,D,3 1,4,3 1,1,3 5,1B,3 9,0,3
    2U,3,3 1,5,3 1,1,3 2,1,3 P,1,3 4,2,3 G,3,3 D,0,3 2,1,3 6,0,3 F,0,3 JJ,2,3 QA,2,3 T,1,3 U,1,3
    U,1,3 1V,6,3 8,0,3 2,A,3 9,0,3 15,0,2 2,0,4 L,2G,2 C,1,3 0,X,2 0,0,3 0,0,2 39,2,3 4,1,3
    9,0,3 6,2,3 63,1,3 2,0,3 1M,0,3 1,8,3 1,0,3 2,7,3 6,C,3 1C,2B,3 1C,0,3 1,4,3 1,0,3 5,0,3
    14,8,3 C,1,3 W,3,3 2,1,3 1,2,3 1K,0,3 1,1,3 3,0,3 1,2,3 1M,7,3 2,1,3 48,2,3 1,C,3 1,6,3
    4,0,3 6,0,3 3,1,3 5I,1R,3 EL,0,4 5E,W,3 2DA,2,3 3X,0,3 2O,V,3 FE,3,3 2Z,1,3 N9W,3,3 1,9,3
    W,1,3 28,1,3 7K,0,3 3,0,3 4,0,3 P,1,3 5,0,3 J,1D,2 0,0,0 29,1,3 Q,H,3 D,0,3 12,7,3 P,A,3
    1A,2,3 1C,0,3 2,3,3 2,1,3 13,0,3 1V,5,3 2,1,3 2,1,3 C,0,3 8,0,3 1B,0,3 1F,0,3 1,2,3 2,1,3
    5,1,3 1,0,3 16,1,3 8,0,3 6M,0,3 2,0,3 4,0,3 FN4,0,3 LD,F,3 R1,0,3 6A,0,3 45,4,3 1AE,E,3
    14,7,3 3K,4,2 0,0,1 1,0,1 1,1,1 2,0,0 0,4,1 0,3,2 0,0,0 0,4,2 0,0,1 0,2,2 0,0,1 2,0,1 0,1,3
    4,3,2 0,0,1 40,0,2 0,0,1 0,0,2 0,2,1 0,2,2 0,0,1 0,1,2 0,0,1 0,0,2 0,1,1 0,0,2 0,0,1 N,3,1
    0,1,2 9D,0,0 0,W,2 0,0,1 0,0,2 0,3,3 1T,4,3 8T,1,3 L,0,1 0,1,2 1,1,2 1E,5,3 1C,2,2 0,0,1
    0,G,2 1,A,3 0,2,2 0,0,1 R,3,2 0,1,1 0,B,2 0,3,3 16,0,2 1,1,2 0,2,1 1,0,2 0,1,1 0,1,2 0,0,1
    0,1,2 1,0,2 0,1,1 0,0,2 4,0,1 0,0,2 0,0,0 1H,0,3 1I,E,3 15,0,3 2,1,3 A,2,3 1D,3,3 2,1,3
    7,0,3 1P,2,3 10,4,3 1,7,3 1Q,0,3 C,1,3 1G,8,3 A,3,3 2,0,3 2N,2,3 2,0,3 1,1,3 6,0,3 2,0,3
    4D,0,3 3,7,3 L,1,3 1L,1,3 3,0,3 11,E,3 1Y,5,3 D,0,3 1,0,3 1,0,3 E,1,3 2D,7,3 2,2,3 1,0,3
    N,0,3 2C,5,3 1,0,3 4,1,3 1,1,3 6M,3,3 6,1,3 1,1,3 R,1,3 2D,7,3 2,0,3 1,1,3 2Y,0,3 1,0,3
    2,5,3 1,0,3 2T,0,3 1,0,3 2,3,3 1,4,3 77,8,3 1,1,3 74,1,3 1,0,3 4,0,3 40,7,3 4,0,3 W,9,3
    14,5,3 2,3,3 8,0,3 9,5,3 2,2,3 1A,C,3 1,1,3 5I,0,3 1,2,3 1,0,3 5L,D,3 1,0,3 2A,L,3 2,6,3
    1,1,3 1,1,3 3E,K,3 1,0,3 20,1,3 3,0,3 1,0,3 9N,1,3 B,1,3 1G,4,3 5,0,3 1,0,3 N,0,3 44L,0,3
    6,E,3 8UG,B,3 3,2,3 1XC,4,3 1N,6,3 T4,0,3 1R,3,3 29,0,3 F5K,1,3 3MP,1Y,3 F4,2,3 H,7,3 2,6,3
    U,3,3 44,2,3 1IZ,1I,3 4,1D,3 8,0,3 E,0,3 M,K,3 11S,3Z,3 4G,6,3 AF,0,3 1P,3,3 E4,3,3 72,1,3
    6R,0,3 2,0,3 7,1,3 5,0,3 D6,6,3 23,X,2 0,7,3"

def joinings : List Joining := [.left, .right, .both, .transparent, .causing]

def joining (c : Char) : Joining :=
  match find? joiningRuns c with
  | some run => (joinings[run.values.headD 0]?).getD .none
  | none => .none

/-- The class of the marks that take away a consonant's vowel. -/
def vowelKiller : Nat := 9

/-- The joining of the nearest character that is not transparent. -/
def nearestJoining (characters : List Char) : Joining :=
  ((characters.map joining).dropWhile (· == .transparent)).headD .none

/-- Whether a letter before a character, in reverse, and one after it would be joined. -/
def joinsAround (before after : List Char) : Bool :=
  let earlier := nearestJoining before
  let later := nearestJoining after
  (earlier == .left || earlier == .both) && (later == .right || later == .both)

/-- Whether the joiners of a label stand where they may. What comes before is in reverse. -/
def joinersFit : (before after : List Char) → Bool
  | _, [] => true
  | before, c :: rest =>
    let killed := before.head?.any fun last => markClass last == vowelKiller
    let fits := match c.toNat with
      | 0x200C => killed || joinsAround before rest
      | 0x200D => killed
      | _ => true
    fits && joinersFit (c :: before) rest

end EntitlementRules.Unicode
