import EntitlementRules.Proofs.Procedure
import EntitlementRules.Proofs.Text.Cut
import EntitlementRules.Proofs.Text.Digits
import EntitlementRules.Proofs.Url.Host
import EntitlementRules.Url.Reader

/-! Authorities: what is read of a web server's user, host and port, and that their text reads back. -/
namespace EntitlementRules

theorem Percent.encode_ne_nil {set : EncodeSet} {text : List Char} (filled : text ≠ []) :
    encode set text ≠ [] := by
  obtain ⟨c, rest, rfl⟩ := List.exists_cons_of_ne_nil filled
  have bytes : Text.Utf8.encode (String.singleton c) ≠ [] := by
    have size := Char.utf8Size_pos c
    rw [← String.length_utf8EncodeChar] at size
    simp [Text.Utf8.encode, List.ne_nil_of_length_pos size]
  obtain ⟨b, others, chars⟩ := List.exists_cons_of_ne_nil bytes
  rw [encode, List.flatMap_cons, encodeChar, chars]
  split <;> simp [encodeByte]

namespace Url

variable {scheme : String} {text rest server : List Char} {origin : Origin}
  {user : String × Option String}

/-! ## Stages -/

/-- What an authority says of the user, with what follows the last at sign. -/
def userOf (scheme : String) (text : List Char) : Except Error ((String × Option String) × List Char) :=
  let (before, after) := text.span fun c => !endsAuthority (isSpecial scheme) c
  match cutAtLast? before with
  | none => .ok (("", none), text)
  | some (user, hosts) =>
    if user.isEmpty && hosts.isEmpty && !after.isEmpty then .error .emptyHost
    else .ok (credentials user, hosts ++ after)

/-- The host and port that follow a user. -/
def serverOf (scheme : String) (user : String × Option String) (text : List Char) :
    Except Error (Origin × List Char) := do
  let (hostText, rest) := hostSpan (isSpecial scheme) false text
  if hostText.isEmpty && (isSpecial scheme || rest.head? = some ':') then throw .emptyHost
  let host ← Host.parse (isSpecial scheme) hostText
  let (port, rest) ←
    match rest with
    | ':' :: rest => readPort scheme rest
    | _ => pure (none, rest)
  if host = .domain "" && (user.1 != "" || user.2.isSome) then throw .emptyHost
  return (⟨scheme, user.1, user.2, some host, port⟩, rest)

theorem authority_eq (scheme : String) (text : List Char) :
    authority scheme text = userOf scheme text >>= fun (user, server) => serverOf scheme user server := by
  unfold authority userOf
  simp only
  cases cutAtLast? (text.span fun c => !endsAuthority (isSpecial scheme) c).1 with
  | none => rfl
  | some parts =>
    obtain ⟨user, hosts⟩ := parts
    simp only
    split <;> rfl

/-! ## What is read -/

/-- A user name and a password as they are kept. No password is empty. -/
structure SettledUser (user : String × Option String) : Prop where
  name : Percent.Encoded Percent.userinfo user.1.toList
  filled : user.2 ≠ some ""
  password : ∀ password, user.2 = some password → Percent.Encoded Percent.userinfo password.toList

theorem settled_credentials (text : List Char) : SettledUser (credentials text) := by
  have encoded (part : List Char) :
      Percent.Encoded Percent.userinfo (String.ofList (Percent.encode Percent.userinfo part)).toList := by
    rw [String.toList_ofList]
    exact Percent.encoded_encode Percent.userinfo_signs part
  unfold credentials
  simp only
  split
  · next name c password _ =>
    by_cases empty : password = []
    · subst empty
      exact ⟨encoded _, nofun, nofun⟩
    · rw [if_neg (by simpa using empty)]
      refine ⟨encoded _, fun same => ?_, fun password same => ?_⟩
      · have chars := congrArg String.toList (Option.some.inj same)
        rw [String.toList_ofList] at chars
        exact Percent.encode_ne_nil empty chars
      · cases same
        exact encoded _
  · exact ⟨encoded _, nofun, nofun⟩

theorem settled_of_userOf (read : userOf scheme text = .ok (user, server)) : SettledUser user := by
  unfold userOf at read
  simp only at read
  split at read
  · cases read
    exact ⟨nofun, nofun, nofun⟩
  · split at read
    · cases read
    · cases read
      exact settled_credentials _

/-- A port as it is kept: one that there is, and not the one that its scheme has anyway. -/
def SettledPort (scheme : String) (port : Option Nat) : Prop :=
  ∀ number, port = some number → number ≤ 65535 ∧ defaultPort? scheme ≠ some number

theorem settled_of_readPort {port : Option Nat} (read : readPort scheme text = .ok (port, rest)) :
    SettledPort scheme port := by
  unfold readPort at read
  obtain ⟨-, read⟩ := ite_error_eq_ok_iff.mp read
  split at read
  · cases read
    exact nofun
  · split at read
    · cases read
    · next value known =>
      unfold portValue? at known
      obtain ⟨fits, same⟩ := Option.ite_none_right_eq_some.mp known
      cases same
      cases read
      rintro number same
      split at same
      · cases same
      · next own =>
        cases same
        exact ⟨fits, own⟩

/-- An authority names a user, and the host and port that follow it. -/
theorem parts_of_authority (read : authority scheme text = .ok (origin, rest)) :
    ∃ user server host port, userOf scheme text = .ok (user, server) ∧
      Host.parse (isSpecial scheme) (hostSpan (isSpecial scheme) false server).1 = .ok host ∧
      SettledPort scheme port ∧ origin = ⟨scheme, user.1, user.2, some host, port⟩ := by
  rw [authority_eq] at read
  obtain ⟨⟨user, server⟩, named, read⟩ := bind_eq_ok_iff.mp read
  unfold serverOf at read
  obtain ⟨-, read⟩ := ite_error_eq_ok_iff.mp read
  obtain ⟨host, found, read⟩ := bind_eq_ok_iff.mp read
  simp only at read
  split at read
  · obtain ⟨⟨port, after⟩, came, read⟩ := bind_eq_ok_iff.mp read
    obtain ⟨-, read⟩ := ite_error_eq_ok_iff.mp read
    cases read
    exact ⟨user, server, host, port, named, found, settled_of_readPort came, rfl⟩
  · obtain ⟨-, read⟩ := ite_error_eq_ok_iff.mp read
    cases read
    exact ⟨user, server, host, none, named, found, nofun, rfl⟩

/-- An origin as it is kept. -/
structure SettledOrigin (origin : Origin) (host : Host) : Prop where
  user : SettledUser (origin.username, origin.password)
  hosted : origin.host = some host
  settled : Host.Settled host
  port : SettledPort origin.scheme origin.port

theorem settled_of_authority (read : authority scheme text = .ok (origin, rest)) :
    origin.scheme = scheme ∧ (isSpecial scheme = true → ∃ host, SettledOrigin origin host) := by
  obtain ⟨user, server, host, port, named, found, settled, rfl⟩ := parts_of_authority read
  refine ⟨rfl, fun special => ⟨host, settled_of_userOf named, rfl, ?_, settled⟩⟩
  rw [special] at found
  exact Host.settled_of_parse found

/-! ## What is written -/

variable {before after path : List Char} {host : Host} {port : Option Nat} {c : Char}

theorem cutAtLast?_append (bare : '@' ∉ after) : cutAtLast? (before ++ '@' :: after) = some (before, after) := by
  have taken : ∀ c ∈ after.reverse, (c != '@') = true :=
    Text.bne_of_not_mem fun sign => bare (List.mem_reverse.mp sign)
  unfold cutAtLast?
  rw [List.reverse_append, List.reverse_cons, List.append_assoc, List.singleton_append,
    Text.span_append taken (by simp)]
  simp

theorem cutAtLast?_eq_none (bare : '@' ∉ text) : cutAtLast? text = none := by
  have taken : ∀ c ∈ text.reverse, (c != '@') = true :=
    Text.bne_of_not_mem fun sign => bare (List.mem_reverse.mp sign)
  unfold cutAtLast?
  rw [Text.span_all taken]

def userChars (user : String × Option String) : List Char :=
  user.1.toList ++ match user.2 with
    | some password => ':' :: password.toList
    | none => []

def portChars (port : Option Nat) : List Char :=
  match port with
  | some number => ':' :: Nat.toDigits 10 number
  | none => []

theorem plain_of_userinfo (kept : Percent.userinfo c = false) :
    endsAuthority true c = false ∧ c ≠ ':' ∧ c ≠ '@' := by
  simp only [Percent.userinfo, Percent.paths, Bool.or_eq_false_iff, beq_eq_false_iff_ne] at kept
  simp [endsAuthority, isSlash, kept]

theorem credentials_userChars (settled : SettledUser user) : credentials (userChars user) = user := by
  obtain ⟨name, password⟩ := user
  have kept {text : String} (encoded : Percent.Encoded Percent.userinfo text.toList) :
      String.ofList (Percent.encode Percent.userinfo text.toList) = text := by
    rw [Percent.encode_eq_self encoded, String.ofList_toList]
  have taken : ∀ c ∈ name.toList, (c != ':') = true := fun c member =>
    bne_iff_ne.mpr (plain_of_userinfo (settled.name c member).2).2.1
  unfold credentials userChars
  cases password with
  | none =>
    rw [List.append_nil, Text.span_all taken]
    simp only [kept settled.name]
  | some password =>
    have filled : password.toList ≠ [] := fun empty =>
      settled.filled (congrArg some (String.toList_eq_nil_iff.mp empty))
    rw [Text.span_append taken (by simp)]
    simp only [kept settled.name, kept (settled.password password rfl), List.isEmpty_iff, filled, ↓reduceIte]

theorem mem_userChars (settled : SettledUser user) (member : c ∈ userChars user) :
    c = ':' ∨ (c < '\x80' ∧ Percent.userinfo c = false) := by
  unfold userChars at member
  rcases List.mem_append.mp member with name | tail
  · exact .inr (settled.name c name)
  · split at tail
    · next password known =>
      exact (List.mem_cons.mp tail).imp_right (settled.password password known c)
    · cases tail

theorem plain_userChars (settled : SettledUser user) (member : c ∈ userChars user) :
    endsAuthority true c = false ∧ c ≠ '@' := by
  rcases mem_userChars settled member with rfl | ⟨-, kept⟩
  · decide
  · exact (plain_of_userinfo kept).imp_right And.right

theorem plain_of_allowed (allowed : Domain.isForbidden c = false) :
    endsAuthority true c = false ∧ c ≠ '@' ∧ c ≠ ':' ∧ c ≠ '[' ∧ c ≠ ']' := by
  have other {d : Char} (forbidden : Domain.isForbidden d = true) : c ≠ d := by
    rintro rfl
    rw [allowed] at forbidden
    cases forbidden
  refine ⟨?_, other (by decide), other (by decide), other (by decide), other (by decide)⟩
  simp only [endsAuthority, isSlash, Bool.true_and, Bool.or_eq_false_iff, beq_eq_false_iff_ne]
  exact ⟨⟨⟨other (by decide), other (by decide)⟩, other (by decide)⟩, other (by decide)⟩

/-- A host without brackets goes up to a colon or to the end of the authority. -/
theorem hostSpan_append (plain : ∀ c ∈ before, Domain.isForbidden c = false)
    (ends : ∀ c, rest.head? = some c → c = ':' ∨ endsAuthority true c = true) :
    hostSpan true false (before ++ rest) = (before, rest) := by
  induction before with
  | nil =>
    cases rest with
    | nil => rfl
    | cons c rest =>
      rw [List.nil_append, hostSpan, if_pos]
      simpa using ends c rfl
  | cons c before ih =>
    obtain ⟨inside, -, colon, opening, closing⟩ := plain_of_allowed (plain c (.head _))
    have later := ih fun other member => plain other (.tail _ member)
    rw [List.cons_append, hostSpan, if_neg (by simp [inside, colon])]
    simp [opening, closing, later]

/-- Between brackets colons belong to the host. -/
theorem hostSpan_brackets (plain : ∀ c ∈ before, c ∈ ":0123456789abcdef".toList)
    (ends : ∀ c, rest.head? = some c → c = ':' ∨ endsAuthority true c = true) :
    hostSpan true true (before ++ ']' :: rest) = (before ++ [']'], rest) := by
  induction before with
  | nil =>
    have after : hostSpan true false ([] ++ rest) = ([], rest) := hostSpan_append (by simp) ends
    rw [List.nil_append] at after
    rw [List.nil_append, hostSpan, if_neg (by decide)]
    simp [after]
  | cons c before ih =>
    have known : ∀ c ∈ ":0123456789abcdef".toList, endsAuthority true c = false ∧ c ≠ '[' ∧ c ≠ ']' :=
      List.all_iff_forall_prop.mp (by decide)
    obtain ⟨inside, opening, closing⟩ := known c (plain c (.head _))
    have later := ih fun other member => plain other (.tail _ member)
    rw [List.cons_append, hostSpan, if_neg (by simp [inside])]
    simp [opening, closing, later]

theorem hostSpan_text (settled : Host.Settled host)
    (ends : ∀ c, rest.head? = some c → c = ':' ∨ endsAuthority true c = true) :
    hostSpan true false (host.text.toList ++ rest) = (host.text.toList, rest) := by
  rcases settled.text_cases with plain | ⟨inner, chars, plain⟩
  · exact hostSpan_append (fun c member => (plain c member).2) ends
  · rw [chars, List.cons_append, List.append_assoc, List.singleton_append, hostSpan, if_neg (by decide)]
    simp [hostSpan_brackets plain ends]

theorem plain_bracketChars : ∀ c ∈ Host.bracketChars, endsAuthority true c = false ∧ c ≠ '@' :=
  List.all_iff_forall_prop.mp (by decide)

theorem plain_text (settled : Host.Settled host) (member : c ∈ host.text.toList) :
    endsAuthority true c = false ∧ c ≠ '@' := by
  rcases settled.mem_text member with ⟨-, allowed⟩ | sign
  · exact (plain_of_allowed allowed).imp_right And.left
  · exact plain_bracketChars c sign

theorem mem_portChars (member : c ∈ portChars port) : c ∈ Host.bracketChars := by
  cases port with
  | none => cases member
  | some number =>
    rcases List.mem_cons.mp member with rfl | digit
    · decide
    · obtain ⟨value, small, rfl⟩ := IPv4.exists_digit_of_mem_toDigits (by decide) digit
      have known : ∀ value < 10, Nat.digitChar value ∈ Host.bracketChars := by decide
      exact known value small

theorem readPort_toDigits {number : Nat} (kept : SettledPort scheme (some number))
    (ends : ∀ c, path.head? = some c → endsAuthority true c = true) :
    readPort scheme (Nat.toDigits 10 number ++ path) = .ok (some number, path) := by
  obtain ⟨fits, own⟩ := kept number rfl
  have span : (Nat.toDigits 10 number ++ path).span Char.isDigit = (Nat.toDigits 10 number, path) := by
    refine Text.span_append (fun c => Nat.isDigit_of_mem_toDigits (by decide) (by decide)) fun c first => ?_
    have sign := ends c first
    simp only [endsAuthority, isSlash, Bool.true_and, Bool.or_eq_true, beq_iff_eq] at sign
    rcases sign with ((rfl | rfl) | rfl) | rfl <;> rfl
  have value : portValue? (Nat.toDigits 10 number) = some number := by
    have decimal : (Nat.toDigits 10 number).foldl (fun value c => value * 10 + (c.toNat - '0'.toNat)) 0 = number :=
      Text.decimal_toDigits number
    simp only [portValue?, decimal, fits, ↓reduceIte]
  have filled : (Nat.toDigits 10 number).isEmpty = false := by
    simp [List.isEmpty_eq_false_iff, Nat.toDigits_ne_nil]
  unfold readPort
  rw [span]
  simp only [filled, value, own, ↓reduceIte]
  cases path with
  | nil => rfl
  | cons c rest => simp [ends c rfl]

theorem serverOf_text (special : isSpecial scheme = true) (settled : Host.Settled host)
    (kept : SettledPort scheme port) (ends : ∀ c, path.head? = some c → endsAuthority true c = true) :
    serverOf scheme user (host.text.toList ++ (portChars port ++ path)) =
      .ok (⟨scheme, user.1, user.2, some host, port⟩, path) := by
  have host_ends : ∀ c, (portChars port ++ path).head? = some c → c = ':' ∨ endsAuthority true c = true := by
    intro c first
    cases port with
    | none => exact .inr (ends c first)
    | some number => exact .inl (Option.some.inj first).symm
  have filled : host.text.toList.isEmpty = false :=
    List.isEmpty_eq_false_iff.mpr fun empty => settled.text_ne_empty (String.toList_eq_nil_iff.mp empty)
  have named : host ≠ .domain "" := by
    rintro rfl
    exact settled.text_ne_empty rfl
  unfold serverOf
  rw [special, hostSpan_text settled host_ends]
  refine ite_error_eq_ok_iff.mpr ⟨by simp [filled], ?_⟩
  refine bind_eq_ok_iff.mpr ⟨host, settled.parse_text, ?_⟩
  simp only
  cases port with
  | none =>
    split
    · next rest same =>
      have colon := ends ':' (congrArg List.head? same)
      exact absurd colon (by decide)
    · exact ite_error_eq_ok_iff.mpr ⟨by simp [named], rfl⟩
  | some number =>
    refine bind_eq_ok_iff.mpr ⟨(some number, path), readPort_toDigits kept ends, ?_⟩
    exact ite_error_eq_ok_iff.mpr ⟨by simp [named], rfl⟩

theorem userText_cases (url : Url) :
    (url.userText = "" ∧ (url.username, url.password) = ("", none)) ∨
      url.userText.toList = userChars (url.username, url.password) ++ ['@'] := by
  by_cases nameless : (url.username == "" && url.password.isNone) = true
  · exact .inl ⟨if_pos (by simpa using nameless), by simpa using nameless⟩
  · right
    unfold userText userChars
    rw [if_neg (by simpa using nameless)]
    cases url.password <;> simp

theorem mem_userText {url : Url} (member : c ∈ url.userText.toList) :
    c ∈ userChars (url.username, url.password) ∨ c = '@' := by
  rcases userText_cases url with ⟨text, -⟩ | text
  · rw [text] at member
    cases member
  · rw [text, List.mem_append, List.mem_singleton] at member
    exact member

theorem userOf_server (special : isSpecial scheme = true)
    (plain : ∀ c ∈ server, endsAuthority true c = false ∧ c ≠ '@')
    (ends : ∀ c, path.head? = some c → endsAuthority true c = true) :
    userOf scheme (server ++ path) = .ok (("", none), server ++ path) := by
  have span : (server ++ path).span (fun c => !endsAuthority true c) = (server, path) :=
    Text.span_append (fun c member => by simp [(plain c member).1]) (fun c first => by simp [ends c first])
  have bare : '@' ∉ server := fun sign => (plain '@' sign).2 rfl
  unfold userOf
  simp only [special, span, cutAtLast?_eq_none bare]

theorem userOf_userChars (special : isSpecial scheme = true) (settled : SettledUser user)
    (plain : ∀ c ∈ server, endsAuthority true c = false ∧ c ≠ '@') (filled : server ≠ [])
    (ends : ∀ c, path.head? = some c → endsAuthority true c = true) :
    userOf scheme (userChars user ++ '@' :: (server ++ path)) = .ok (user, server ++ path) := by
  have whole : ∀ c ∈ userChars user ++ '@' :: server, (!endsAuthority true c) = true := by
    intro c member
    rw [List.mem_append, List.mem_cons] at member
    rcases member with inside | rfl | behind
    · simp [(plain_userChars settled inside).1]
    · decide
    · simp [(plain c behind).1]
  have span : (userChars user ++ '@' :: (server ++ path)).span (fun c => !endsAuthority true c) =
      (userChars user ++ '@' :: server, path) := by
    rw [← List.cons_append, ← List.append_assoc]
    exact Text.span_append whole (fun c first => by simp [ends c first])
  have bare : '@' ∉ server := fun sign => (plain '@' sign).2 rfl
  unfold userOf
  simp only [special, span, cutAtLast?_append bare, credentials_userChars settled]
  rw [if_neg (by simp [filled])]

theorem authority_text {url : Url} (path : List Char) (special : isSpecial url.scheme = true)
    (settled : SettledOrigin url.origin host)
    (ends : ∀ c, path.head? = some c → endsAuthority true c = true) :
    authority url.scheme (url.userText.toList ++ (host.text.toList ++ portChars url.port ++ path)) =
      .ok (url.origin, path) := by
  have plain : ∀ c ∈ host.text.toList ++ portChars url.port, endsAuthority true c = false ∧ c ≠ '@' := by
    intro c member
    rcases List.mem_append.mp member with inside | behind
    · exact plain_text settled.settled inside
    · exact plain_bracketChars c (mem_portChars behind)
  have filled : host.text.toList ++ portChars url.port ≠ [] := fun empty =>
    settled.settled.text_ne_empty (String.toList_eq_nil_iff.mp (List.append_eq_nil_iff.mp empty).1)
  have user : userOf url.scheme (url.userText.toList ++ (host.text.toList ++ portChars url.port ++ path)) =
      .ok ((url.username, url.password), host.text.toList ++ portChars url.port ++ path) := by
    rcases userText_cases url with ⟨text, user⟩ | text
    · rw [text, user, String.toList_empty, List.nil_append]
      exact userOf_server special plain ends
    · rw [text, List.append_assoc, List.singleton_append]
      exact userOf_userChars special settled.user plain filled ends
  rw [authority_eq, user, bind_eq_ok_iff]
  refine ⟨_, rfl, ?_⟩
  rw [List.append_assoc]
  refine (serverOf_text special settled.settled settled.port ends).trans ?_
  rw [← settled.hosted]
  rfl

end Url

end EntitlementRules
