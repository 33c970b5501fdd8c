import EntitlementRules.Text.Utf8

/-! Identifiers of runs: 122 random bits, written in groups of hexadecimal digits. -/
namespace EntitlementRules.TraceId

def digits (b : UInt8) : List Char :=
  [Nat.digitChar (b.toNat / 16), Nat.digitChar (b.toNat % 16)]

/-- The random bytes with the marks of a random identifier: version 4, in its usual variant. -/
def marked (random : Bytes) : Bytes :=
  (random.modify 6 fun b => b &&& 0x0F ||| 0x40).modify 8 fun b => b &&& 0x3F ||| 0x80

/-- Lists cut off after given lengths, with what is left. -/
def groups {α : Type} : (lengths : List Nat) → List α → List (List α)
  | [], rest => [rest]
  | length :: more, all => all.take length :: groups more (all.drop length)

/-- The identifier of sixteen random bytes. -/
def ofRandom (random : Bytes) : String :=
  "-".intercalate ((groups [4, 2, 2, 2] (marked random)).map fun group =>
    String.ofList (group.flatMap digits))

end EntitlementRules.TraceId
