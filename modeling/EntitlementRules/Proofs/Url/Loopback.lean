import EntitlementRules.Proofs.Url.Normal

/-! Hosts that are the machine itself, by their names and by their addresses, however a text writes them. -/
namespace EntitlementRules

/-! ## Addresses -/

namespace IPv4

open String (ofList ofList_toList toList_ofList toList_eq_nil_iff)

variable {parts : List Nat} {address : IPv4}

/-- Parts write an address where each of them fits in its place. -/
theorem ofParts?_eq_some_iff : ofParts? parts = some address ↔
    parts.length ≤ 4 ∧ (∀ value ∈ parts.dropLast, value ≤ 255) ∧
      parts.getLast?.getD 0 < Nat.pow 256 (4 - parts.dropLast.length) ∧
      ofNat (parts.dropLast.zipIdx.foldl (fun number (value, place) =>
        number + value * Nat.pow 256 (3 - place)) (parts.getLast?.getD 0)) = address := by
  unfold ofParts?
  simp only
  rw [Option.ite_none_left_eq_some]
  simp only [Bool.or_eq_true, decide_eq_true_eq, not_or, Nat.not_lt, Nat.not_le, List.any_eq_true, not_exists,
    not_and, and_assoc, Option.some.injEq]

/-- The parts of a spelling of an address in the block of 127: the first of them says so, or the number that
stands for the whole. -/
inductive InBlock : List Nat → Prop where
  | whole {number : Nat} (within : number / 16777216 = 127) : InBlock [number]
  | parted {next : Nat} {rest : List Nat} : InBlock (127 :: next :: rest)

theorem inBlock_whole_iff {number : Nat} : InBlock [number] ↔ number / 16777216 = 127 := by
  refine ⟨fun inside => ?_, .whole⟩
  cases inside with
  | whole within => exact within

theorem inBlock_parted_iff {first next : Nat} {rest : List Nat} :
    InBlock (first :: next :: rest) ↔ first = 127 := by
  refine ⟨fun inside => ?_, ?_⟩
  · cases inside with
    | parted => rfl
  · rintro rfl
    exact .parted

/-- The number that leading parts write from a place on. -/
def leadingValue : (place : Nat) → List Nat → Nat
  | _, [] => 0
  | place, value :: rest => value * Nat.pow 256 (3 - place) + leadingValue (place + 1) rest

theorem foldl_leading (place last : Nat) (leading : List Nat) :
    (leading.zipIdx place).foldl (fun number (value, place) => number + value * Nat.pow 256 (3 - place)) last =
      last + leadingValue place leading := by
  induction leading generalizing place last with
  | nil => rfl
  | cons value rest ih => rw [List.zipIdx_cons, List.foldl_cons, ih, leadingValue, Nat.add_assoc]

/-- Bytes at their places leave room for what may follow them. -/
theorem leadingValue_le {place : Nat} {leading : List Nat} (bytes : ∀ value ∈ leading, value ≤ 255)
    (short : place + leading.length ≤ 4) :
    leadingValue place leading + Nat.pow 256 (4 - (place + leading.length)) ≤ Nat.pow 256 (4 - place) := by
  induction leading generalizing place with
  | nil => simp [leadingValue]
  | cons value rest ih =>
    rw [List.length_cons] at short ⊢
    have later := @ih (place + 1) (fun other member => bytes other (.tail _ member)) (by omega)
    have byte : value * Nat.pow 256 (3 - place) ≤ 255 * Nat.pow 256 (3 - place) :=
      Nat.mul_le_mul_right _ (bytes value (.head _))
    have weight : Nat.pow 256 (4 - place) = 256 * Nat.pow 256 (3 - place) := by
      rw [show 4 - place = (3 - place) + 1 by omega]
      exact Nat.pow_succ'
    rw [show place + 1 + rest.length = place + (rest.length + 1) by omega,
      show 4 - (place + 1) = 3 - place by omega] at later
    rw [leadingValue, weight]
    omega

theorem block_ofNat_iff {number : Nat} (small : number < 4294967296) :
    (ofNat number).a = 127 ↔ number / 16777216 = 127 := by
  rw [ofNat, ← UInt8.toNat_inj, UInt8.toNat_ofNat']
  change number / 16777216 % 256 = 127 ↔ _
  omega

/-- The parts of a spelling decide whether it writes an address of the block of 127. -/
theorem block_of_ofParts? (written : ofParts? parts = some address) : address.a = 127 ↔ InBlock parts := by
  obtain ⟨short, bytes, fits, rfl⟩ := ofParts?_eq_some_iff.mp written
  rw [foldl_leading]
  match parts with
  | [] => exact ⟨fun same => absurd same (by decide), nofun⟩
  | [number] =>
    have small : number < 4294967296 := fits
    exact (block_ofNat_iff small).trans inBlock_whole_iff.symm
  | first :: next :: rest =>
    rw [inBlock_parted_iff]
    rw [List.dropLast_cons_of_ne_nil (List.cons_ne_nil next rest)] at bytes fits ⊢
    have length : 1 + (next :: rest).dropLast.length ≤ 4 := by
      simp only [List.length_cons, List.length_dropLast] at short ⊢
      omega
    -- What stands behind the first part stays below its weight, so it never reaches the first byte.
    generalize (next :: rest).dropLast = inner at bytes fits length ⊢
    generalize (first :: next :: rest).getLast?.getD 0 = last at fits ⊢
    have byte : first ≤ 255 := bytes first (.head _)
    have room := leadingValue_le (fun value member => bytes value (.tail _ member)) length
    rw [List.length_cons, Nat.add_comm inner.length] at fits
    have weight : Nat.pow 256 (4 - 1) = 16777216 := rfl
    have top : Nat.pow 256 (3 - 0) = 16777216 := rfl
    rw [weight] at room
    rw [leadingValue, top, Nat.zero_add]
    generalize Nat.pow 256 (4 - (1 + inner.length)) = spare at fits room
    rw [block_ofNat_iff (by omega)]
    omega

theorem digit?_eq_none {c : Char} (other : c.isDigit = false) : digit? 10 c = none := by
  have outside : ¬ (('0' ≤ c && c ≤ '9') = true) := fun within => by
    rw [Char.isDigit] at other
    exact Bool.false_ne_true (other.symm.trans within)
  unfold digit?
  simp only [if_neg outside]
  refine if_neg ?_
  split <;> [skip; split] <;> omega

theorem part?_eq_none {c : Char} {rest : List Char} (other : c.isDigit = false) : part? (c :: rest) = none := by
  have zero : c ≠ '0' := by
    rintro rfl
    cases other
  unfold part?
  split
  · next same => cases same
  · next same => exact absurd (List.cons.inj same).1 zero
  · next same => exact absurd (List.cons.inj same).1 zero
  · next same => exact absurd (List.cons.inj same).1 zero
  · rw [digits?, List.foldlM_cons, digit?_eq_none other]
    rfl

theorem mem_of_mem_labels {name label : String} {c : Char} (inside : label ∈ labels name)
    (member : c ∈ label.toList) : c ∈ name.toList := by
  have among : label ∈ Text.split '.' name := by
    unfold labels at inside
    simp only at inside
    split at inside
    · exact List.dropLast_subset _ inside
    · exact inside
  obtain ⟨part, cut, rfl⟩ := List.mem_map.mp among
  rw [toList_ofList] at member
  exact (Text.mem_of_mem_splitOnP cut member).1

/-- A name without digits is none of an address. -/
theorem isNumeric_eq_false {name : String} (letters : ∀ c ∈ name.toList, c.isDigit = false) :
    isNumeric name = false := by
  unfold isNumeric
  cases ends : (labels name).getLast? with
  | none => rfl
  | some last =>
    have inside := List.mem_of_getLast? ends
    cases chars : last.toList with
    | nil => simp [toList_eq_nil_iff.mp chars]
    | cons c rest =>
      have other : c.isDigit = false := letters c (mem_of_mem_labels inside (chars ▸ .head _))
      simp [chars, other, part?_eq_none other]

end IPv4

/-! ## Names -/

namespace Domain

variable {chars : List Char} {c : Char}

/-- The lower case of an ASCII character is one, too, and in lower case. No sign comes of a letter. -/
theorem toLower_ascii (ascii : Punycode.isAscii c = true) :
    Punycode.isAscii c.toLower = true ∧ c.toLower.toLower = c.toLower ∧
      (c.toLower = c ∨ c.toLower.isAlpha = true) := by
  have known : ∀ n < 128, Punycode.isAscii (Char.ofNat n).toLower = true ∧
      (Char.ofNat n).toLower.toLower = (Char.ofNat n).toLower ∧
        ((Char.ofNat n).toLower = Char.ofNat n ∨ (Char.ofNat n).toLower.isAlpha = true) := by decide
  have small := known c.toNat (isAscii_iff.mp ascii)
  rwa [Char.ofNat_toNat] at small

theorem toAscii?_toLower (ascii : ∀ c ∈ chars, Punycode.isAscii c = true) :
    toAscii? (String.ofList (chars.map Char.toLower)) = toAscii? (String.ofList chars) := by
  have lower : bring? (chars.map Char.toLower) = bring? chars := by
    rw [bring?, bring?, if_pos (List.all_eq_true.mpr ascii), if_pos]
    · rw [List.map_map]
      congr 1
      exact List.map_congr_left fun c member => (toLower_ascii (ascii c member)).2.1
    · simpa using fun c member => (toLower_ascii (ascii c member)).1
  rw [toAscii?, String.toList_ofList, lower, toAscii?, String.toList_ofList]

end Domain

namespace Host

variable {host : Host} {chars : List Char}

/-- The machine itself, by its own name or by an address that does not leave it. -/
inductive Local : Host → Prop where
  | named : Local (.domain "localhost")
  | ipv4 {address : IPv4} (block : address.a = 127) : Local (.ipv4 address)
  | ipv6 : Local (.ipv6 ⟨#v[0, 0, 0, 0, 0, 0, 0, 1]⟩)

theorem local_domain_iff {name : String} : Local (.domain name) ↔ name = "localhost" := by
  refine ⟨fun own => ?_, ?_⟩
  · cases own
    rfl
  · rintro rfl
    exact .named

theorem local_ipv4_iff {address : IPv4} : Local (.ipv4 address) ↔ address.a = 127 := by
  refine ⟨fun own => ?_, .ipv4⟩
  cases own with
  | ipv4 block => exact block

theorem local_ipv6_iff {address : IPv6} :
    Local (.ipv6 address) ↔ address.pieces.toList = [0, 0, 0, 0, 0, 0, 0, 1] := by
  refine ⟨fun own => ?_, fun same => ?_⟩
  · cases own
    rfl
  · have whole : address = ⟨#v[0, 0, 0, 0, 0, 0, 0, 1]⟩ := congrArg IPv6.mk (Vector.toList_inj.mp same)
    exact whole ▸ .ipv6

/-- A name below that of the machine. -/
def BelowLocal (host : Host) : Prop := ∃ front, host = .domain (front ++ ".localhost")

theorem isLoopback_iff (settled : host.Settled) : host.isLoopback = true ↔ Local host ∨ BelowLocal host := by
  cases settled with
  | @domain name formed _ _ =>
    -- A name in its form has no capitals.
    have lower : (name.map Char.toLower).toList = name.toList := by
      rw [String.toList_map]
      exact (List.map_congr_left fun c member =>
        Domain.toLower_eq_self (Domain.settled_of_toAscii? formed member).2).trans (List.map_id _)
    simp only [isLoopback, lower, Bool.or_eq_true, beq_iff_eq, String.toList_inj, List.isSuffixOf_iff_suffix,
      local_domain_iff]
    refine or_congr_right ⟨?_, ?_⟩
    · rintro ⟨front, same⟩
      exact ⟨String.ofList front, by simp [← String.toList_inj, ← same]⟩
    · rintro ⟨front, same⟩
      cases same
      exact ⟨front.toList, by simp⟩
  | ipv4 address => simp [isLoopback, IPv4.isLoopback, local_ipv4_iff, BelowLocal]
  | ipv6 address => simp [isLoopback, IPv6.isLoopback, local_ipv6_iff, BelowLocal]

/-- Plain characters are read as a name without being decoded. -/
theorem parse_plain (plain : ∀ c ∈ chars, Punycode.isAscii c = true ∧ c ≠ '%' ∧ c ≠ '[') :
    parse true chars = match Domain.toAscii? (String.ofList chars) with
      | some name => ofDomain name
      | none => .error .invalidDomain := by
  have bare : 37 ∉ Text.Utf8.encode (String.ofList chars) := by
    intro percent
    have sign := Text.Utf8.mem_toList_of_mem_encode percent (by decide)
    rw [String.toList_ofList] at sign
    exact (plain _ sign).2.1 rfl
  unfold parse
  split
  · exact absurd rfl (plain '[' (.head _)).2.2
  · rw [Percent.decode_eq_self bare, Text.Utf8.decode?_encode]
    rfl

theorem parse_toLower (plain : ∀ c ∈ chars, Punycode.isAscii c = true ∧ c ≠ '%' ∧ c ≠ '[') :
    parse true (chars.map Char.toLower) = parse true chars := by
  have lower (c : Char) (member : c ∈ chars.map Char.toLower) :
      Punycode.isAscii c = true ∧ c ≠ '%' ∧ c ≠ '[' := by
    obtain ⟨d, inside, rfl⟩ := List.mem_map.mp member
    obtain ⟨ascii, percent, bracket⟩ := plain d inside
    obtain ⟨stays, -, same | letter⟩ := Domain.toLower_ascii ascii
    · rw [same]
      exact ⟨ascii, percent, bracket⟩
    · have sign {e : Char} (other : e.isAlpha = false) : d.toLower ≠ e := fun same => by
        rw [same, other] at letter
        cases letter
      exact ⟨stays, sign rfl, sign rfl⟩
  rw [parse_plain lower, parse_plain plain, Domain.toAscii?_toLower fun c member => (plain c member).1]

theorem parse_localhost : parse true "localhost".toList = .ok (.domain "localhost") := by
  have formed : Domain.toAscii? "localhost" = some "localhost" :=
    Domain.toAscii?_of_plain (List.all_iff_forall_prop.mp (by decide)) (List.all_iff_forall_prop.mp (by decide))
  rw [parse_name formed, ofDomain, IPv4.isNumeric_eq_false (List.all_iff_forall_prop.mp (by decide))]
  rfl

/-- The name of the machine is read as such in any letter case. -/
theorem parse_eq_localhost (named : chars.map Char.toLower = "localhost".toList) :
    parse true chars = .ok (.domain "localhost") := by
  have letters : ∀ c ∈ "localhost".toList, Punycode.isAscii c = true ∧ c ≠ '%' ∧ c ≠ '[' :=
    List.all_iff_forall_prop.mp (by decide)
  have plain (c : Char) (member : c ∈ chars) : Punycode.isAscii c = true ∧ c ≠ '%' ∧ c ≠ '[' := by
    by_cases capital : c.val ≥ 'A'.val ∧ c.val ≤ 'Z'.val
    · have low : c.toNat ≤ 90 := capital.2
      have high : 65 ≤ c.toNat := capital.1
      exact ⟨Domain.isAscii_iff.mpr (by omega), by rintro rfl; exact absurd high (by decide),
        by rintro rfl; exact absurd low (by decide)⟩
    · have lower := letters c.toLower (named ▸ List.mem_map_of_mem member)
      have same : c.toLower = c := dif_neg capital
      rwa [same] at lower
  rw [← parse_toLower plain, named, parse_localhost]

/-- The numbers that a host writes where it is the name of an address. -/
def numbers? (chars : List Char) : Option (List Nat) := do
  let text ← Text.Utf8.decode? (Percent.decode (Text.Utf8.encode (String.ofList chars)))
  let name ← Domain.toAscii? text
  (IPv4.labels name).mapM fun label => IPv4.part? label.toList

/-- In whatever spelling, the numbers of an address decide whether it is one of the machine. -/
theorem local_of_numbers? {address : IPv4} (read : parse true chars = .ok (.ipv4 address)) :
    ∃ numbers, numbers? chars = some numbers ∧ (Local (.ipv4 address) ↔ IPv4.InBlock numbers) := by
  unfold parse at read
  split at read
  · unfold bracketed at read
    split at read
    · split at read <;> cases read
    · cases read
  · simp only [↓reduceIte] at read
    split at read
    · next name formed =>
      unfold ofDomain at read
      split_ifs at read
      · split at read
        · next written =>
          cases read
          obtain ⟨numbers, spelled, written⟩ := Option.bind_eq_some_iff.mp written
          refine ⟨numbers, ?_, ?_⟩
          · obtain ⟨text, decoded, formed⟩ := Option.bind_eq_some_iff.mp formed
            simp only [numbers?, decoded, formed, spelled, Option.bind_eq_bind, Option.bind_some]
          · rw [local_ipv4_iff, IPv4.block_of_ofParts? written]
        · cases read
      · cases read
    · cases read

end Host

/-! ## Texts -/

namespace Url

variable {found : Url} {text : String}

/-- The part of a text that writes the host of a web server. -/
def hostChars? (text : String) : Option (List Char) := do
  let (scheme, rest) ← scheme? (significant text)
  let (_, server) ← (userOf scheme (rest.dropWhile (isSlash true))).toOption
  return (hostSpan true false server).1

theorem host_of_parse (read : parse text = .ok found) (web : found.scheme = "http" ∨ found.scheme = "https") :
    ∃ chars host, hostChars? text = some chars ∧ Host.parse true chars = .ok host ∧
      found.host = some host := by
  obtain ⟨chars, rest, named, came, -⟩ := origin_of_parse read web
  obtain ⟨user, server, host, port, signs, hosted, -, origin⟩ := parts_of_authority came
  rw [isSpecial_of_web web] at hosted
  exact ⟨_, host, by simp [hostChars?, named, signs, Except.toOption], hosted, congrArg Origin.host origin⟩

end Url

/-! ## Connections -/

namespace Connection

variable {files : Files} {options : ConnectionOptions} {connection : Connection}

/-- Unless the options say otherwise, certificates go unchecked on the machine itself, however its address
or name is written, and below its name. -/
theorem unchecked_iff_local_or_below (resolved : resolve files options = .ok connection) :
    (∀ flag, options.insecure = some flag → connection.insecure = flag) ∧
    ∃ chars host, Url.hostChars? (Text.trim options.serverUrl) = some chars ∧
      Host.parse true chars = .ok host ∧ connection.context.host = some host ∧
      (options.insecure = none → (connection.insecure = true ↔ host.Local ∨ host.BelowLocal)) ∧
      (chars.map Char.toLower = "localhost".toList → host = .domain "localhost") ∧
      ∀ address, host = .ipv4 address →
        ∃ numbers, Host.numbers? chars = some numbers ∧ (host.Local ↔ IPv4.InBlock numbers) := by
  obtain ⟨named, -, -, insecure⟩ := parts_of_resolve resolved
  obtain ⟨found, read, web, -, context⟩ := Url.parse_of_contextUrl named
  obtain ⟨chars, host, cut, hosted, held⟩ := Url.host_of_parse read web
  have kept : connection.context.host = some host := by
    rw [context]
    exact held
  refine ⟨fun flag given => by rw [insecure, given, Option.getD_some],
    chars, host, cut, hosted, kept, fun silent => ?_, fun same => ?_, ?_⟩
  · rw [insecure, silent, Option.getD_none, Url.isLoopback, kept, Option.any_some]
    exact Host.isLoopback_iff (Host.settled_of_parse hosted)
  · cases (Host.parse_eq_localhost same).symm.trans hosted
    rfl
  · rintro address rfl
    exact Host.local_of_numbers? hosted

/-- One address of version 6 is that of the machine. -/
theorem unchecked_at_own_address :
    let files : Files := ⟨fun _ => .error .notFound, fun _ => .error .notFound⟩
    ∃ own other, resolve files { serverUrl := "https://[::1]/" } = .ok own ∧ own.insecure = true ∧
      resolve files { serverUrl := "https://[::2]/" } = .ok other ∧ other.insecure = false := by
  intro files
  let context : Url :=
    { scheme := "https", host := some (.ipv6 ⟨#v[0, 0, 0, 0, 0, 0, 0, 1]⟩), path := .segments [""] }
  let away : Url := { context with host := some (.ipv6 ⟨#v[0, 0, 0, 0, 0, 0, 0, 2]⟩) }
  have resolved : resolve files { serverUrl := "https://[::1]/" } =
      .ok ⟨context, none, true, .anonymous, 10⟩ := by decide +kernel
  have further : resolve files { serverUrl := "https://[::2]/" } =
      .ok ⟨away, none, false, .anonymous, 10⟩ := by decide +kernel
  obtain ⟨-, chars, host, -, -, held, judged, -⟩ := unchecked_iff_local_or_below resolved
  obtain ⟨-, letters, server, -, -, kept, denied, -⟩ := unchecked_iff_local_or_below further
  cases held
  cases kept
  refine ⟨_, _, resolved, (judged rfl).mpr (.inl .ipv6), further, ?_⟩
  rw [← Bool.not_eq_true]
  intro unchecked
  rcases (denied rfl).mp unchecked with own | ⟨front, same⟩
  · cases own
  · cases same

/-- Certificates go unchecked on a host whose name lies below that of the machine. -/
theorem unchecked_below_local_name :
    let files : Files := ⟨fun _ => .error .notFound, fun _ => .error .notFound⟩
    ∃ connection, resolve files { serverUrl := "https://evil.localhost/" } = .ok connection ∧
      connection.context.host = some (.domain "evil.localhost") ∧
      ¬ (Host.domain "evil.localhost").Local ∧ connection.insecure = true := by
  intro files
  let context : Url :=
    { scheme := "https", host := some (.domain "evil.localhost"), path := .segments [""] }
  have settled : (Host.domain "evil.localhost").Settled :=
    .domain (Domain.toAscii?_of_plain (List.all_iff_forall_prop.mp (by decide))
      (List.all_iff_forall_prop.mp (by decide))) (by decide)
      (IPv4.isNumeric_eq_false (List.all_iff_forall_prop.mp (by decide)))
  have normal : Url.Normal context (.domain "evil.localhost") [] :=
    { scheme := .inr rfl, hosted := ⟨_, rfl⟩, path := rfl, query := rfl, fragment := rfl
      origin := ⟨⟨nofun, nofun, nofun⟩, rfl, settled, nofun⟩
      settled := by simpa using Url.settled_empty }
  have text : context.text = "https://evil.localhost/" := by decide +kernel
  have placed : contextUrl "https://evil.localhost/" = .ok context := text ▸ normal.contextUrl_text
  refine ⟨⟨context, none, true, .anonymous, 10⟩, ?_, rfl, ?_, rfl⟩
  · rw [resolve, placed]
    decide +kernel
  · rw [Host.local_domain_iff]
    decide

end Connection

end EntitlementRules
