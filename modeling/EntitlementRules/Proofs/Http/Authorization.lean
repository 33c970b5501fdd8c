import EntitlementRules.Http.Authorization
import EntitlementRules.Proofs.Rules.Marker
import EntitlementRules.Proofs.Text.Cut

/-! Signing in: what a party reads in the field that names a user and a password, and for which users that
is what was meant. -/
namespace EntitlementRules.Http

open Text.Utf8 (encode)

variable {user password other secret field : String} {url : Url}

/-- What a field says: the text behind the scheme, parted at its first colon. -/
def basicUser? (field : String) : Option (String × String) := do
  let token ← Text.after? "Basic " field
  let bytes ← (Base64.decode (encode token)).toOption
  Text.cut? ':' (← Text.Utf8.decode? bytes)

/-- A field that encodes a text behind the scheme. -/
def Encodes (field text : String) : Prop :=
  ∃ token, field = "Basic " ++ token ∧ Base64.decode (encode token) = .ok (encode text)

theorem basicAuthorization_encodes (user password : String) :
    Encodes (basicAuthorization (encode user) (encode password)) (user ++ ":" ++ password) := by
  refine ⟨_, rfl, ?_⟩
  have colon : encode ":" = [Ascii.colon] := by decide
  rw [Blob.utf8_encode, Base64.decode_encodeBytes, Text.Utf8.encode_append, Text.Utf8.encode_append,
    colon, List.append_assoc, List.singleton_append]

theorem Encodes.basicUser? {text : String} (encodes : Encodes field text) :
    basicUser? field = Text.cut? ':' text := by
  obtain ⟨token, rfl, decoded⟩ := encodes
  rw [Http.basicUser?, Blob.after?_eq_some_iff.mpr rfl, Option.bind_eq_bind, Option.bind_some, decoded]
  change (Text.Utf8.decode? (encode text)).bind (Text.cut? ':') = _
  rw [Text.Utf8.decode?_encode, Option.bind_some]

/-- A user is read back with the password exactly where the name holds no colon. -/
theorem basicUser?_iff :
    basicUser? (basicAuthorization (encode user) (encode password)) = some (user, password) ↔
      ':' ∉ user.toList := by
  rw [(basicAuthorization_encodes user password).basicUser?]
  exact Text.cut?_eq_some_iff

theorem basicAuthorization_inj (plain : ':' ∉ user.toList) (bare : ':' ∉ other.toList)
    (same : basicAuthorization (encode user) (encode password) =
      basicAuthorization (encode other) (encode secret)) : user = other ∧ password = secret := by
  have first : basicUser? (basicAuthorization (encode user) (encode password)) = some (user, password) :=
    basicUser?_iff.mpr plain
  rw [same, basicUser?_iff.mpr bare] at first
  cases first
  exact ⟨rfl, rfl⟩

/-- A URL that names no user. -/
structure Nameless (url : Url) : Prop where
  username : url.username = ""
  password : url.password = none

theorem Nameless.urlAuthorization? (nameless : Nameless url) : urlAuthorization? url = none := by
  have bytes : Percent.decode (Text.Utf8.encode "") = Text.Utf8.encode "" := by
    simp [Text.Utf8.encode, Percent.decode]
  have nothing : decoded? "" = some [] := by
    simp only [decoded?, bytes, Text.Utf8.decode?_encode]
    rfl
  rw [Http.urlAuthorization?, nameless.username, nameless.password, nothing]
  rfl

end EntitlementRules.Http
