import EntitlementRules.Unicode.Packed

/-! Marks: characters that combine with the one before them. -/
namespace EntitlementRules.Unicode

def markRuns : List Run := Run.table
  "LC,33 7N,6 7B,18 1,0 1,1 1,1 1,0 20,A 1C,K G,0 2T,6 2,5 2,1 1,3 Z,0 U,Q 2J,A 1M,8 9,0 O,3
    1,8 1,2 1,4 17,2 1N,8 16,1L 1I,2 1,H 1,6 A,1 T,2 1K,0 1,F 9,0 A,1 Q,5 1K,L U,1 3,0 B,2 1K,0
    1,F K,1 M,9 1K,0 1,P A,1 U,0 1N,F 9,0 14,4 1J,0 1,O B,1 T,2 1K,0 1,O B,1 S,3 1J,1 1,F 9,0
    A,1 T,2 1Y,L I,1 1P,0 2,6 C,7 2Q,0 2,8 B,6 21,1 R,0 1,0 1,0 4,1 1D,J 1,1 5,1B 9,0 2S,J N,3
    4,2 1,2 2,6 3,3 D,B 1,0 A,3 JJ,2 QA,3 S,2 T,1 U,1 1U,T 9,0 4N,1 Y,0 3A,R 63,4 1L,16 1C,2C
    1B,G 12,8 C,2 U,C 1K,D 1C,J 48,2 1,K 4,0 6,0 2,2 5I,1R K0,W 2DA,2 3X,0 2O,V FE,5 2X,1 N9W,3
    1,9 W,1 28,1 7K,0 3,0 4,0 N,4 4,0 2B,1 1E,H Q,H D,0 12,7 P,C 18,3 1B,D 10,0 1V,D C,0 8,1
    19,2 1E,0 1,2 2,1 5,1 1,0 15,4 5,1 6K,7 1,1 FN4,0 LD,F R1,0 6A,0 45,4 1AE,E 14,7 4L,1 FX,3
    1T,4 8T,1 25,5 1Y,A 1D,3 3E,2 1H,E 15,0 2,1 A,3 19,A 7,0 1P,2 10,D G,1 18,0 C,2 1C,D 8,3 1,1
    2K,B 6,0 2,0 4D,B L,3 1J,1 1,F 9,0 A,I 1Y,5 D,0 1,0 1,0 E,1 2A,H N,0 29,J 6J,H R,1 2A,G 2Y,C
    2T,E 74,E 6T,E 1,0 1,1 3X,F 3,0 S,9 14,6 1,3 8,0 9,A 1A,F 5I,0 1,2 1,0 5K,G 2A,10 3E,K 1,0
    1U,D 9N,3 9,1 1G,4 5,0 1,0 N,0 44L,0 6,E 8UG,B 3,2 1XC,4 1N,6 T4,0 1,1T 29,D F57,1 3MP,1Y
    F2,4 3,L 2,6 U,3 44,2 1IZ,1I 4,1D 8,0 E,0 M,K 11S,3Z 4G,6 AF,0 1P,3 E4,3 72,1 6R,0 2,0 7,1
    5,0 D6,6 31,6"

/-- Whether a character combines with the one before it. -/
def isMark (c : Char) : Bool := (find? markRuns c).isSome

end EntitlementRules.Unicode
