import EntitlementRules.Proofs.Configuration.Fault

/-! Credentials: what the options for signing in come to, and which of them are lost on the way. -/
namespace EntitlementRules.Connection

variable {files : Files} {options : ConnectionOptions} {credentials : Credentials}
  {connection : Connection}

/-- What the options for signing in come to where they are taken. -/
inductive SignsIn (files : Files) (options : ConnectionOptions) : Credentials → Prop where
  | anonymous (nobody : ∀ user, ¬ Names options user) (bare : options.clientCertificate = none)
      (silent : options.password = none) (keyless : options.clientKey = none) :
      SignsIn files options .anonymous
  | basic {user password : String} (signs : Names options user)
      (bare : options.clientCertificate = none) (said : options.password = some password) :
      SignsIn files options (.basic user password)
  | certificate {path : String} (nobody : ∀ user, ¬ Names options user)
      (given : options.clientCertificate = some path) (stands : files.stat path = .ok ())
      (opens : ∀ key, options.clientKey = some key → files.stat key = .ok ()) :
      SignsIn files options (.certificate path options.clientKey)

/-- Why the options for signing in are refused. -/
inductive Clash (options : ConnectionOptions) : CredentialsFault → Prop where
  | userWithCertificate {user path : String} (signs : Names options user)
      (given : options.clientCertificate = some path) : Clash options .userWithCertificate
  | userWithoutPassword {user : String} (signs : Names options user)
      (bare : options.clientCertificate = none) (silent : options.password = none) :
      Clash options .userWithoutPassword
  | passwordWithoutUser {password : String} (nobody : ∀ user, ¬ Names options user)
      (bare : options.clientCertificate = none) (said : options.password = some password) :
      Clash options .passwordWithoutUser
  | keyWithoutCertificate {key : String} (nobody : ∀ user, ¬ Names options user)
      (bare : options.clientCertificate = none) (silent : options.password = none)
      (named : options.clientKey = some key) : Clash options .keyWithoutCertificate

/-- What becomes of the options for signing in: they are taken, they clash, or a file that they name is
missing. -/
theorem resolveCredentials_cases (files : Files) (options : ConnectionOptions) :
    (∃ credentials, resolveCredentials files options = .ok credentials ∧
        SignsIn files options credentials) ∨
      (∃ fault, resolveCredentials files options = .error (.credentials fault) ∧
        Clash options fault) ∨
      ∃ path refusal, resolveCredentials files options = .error (.unreadableFile path refusal) ∧
        (∀ user, ¬ Names options user) ∧ ∃ certificate, options.clientCertificate = some certificate := by
  unfold resolveCredentials
  cases named : options.username.filter (!Text.isBlankText ·) with
  | some user =>
    have signs := filter_eq_some_iff.mp named
    cases given : options.clientCertificate with
    | some path => exact .inr (.inl ⟨_, rfl, .userWithCertificate signs given⟩)
    | none =>
      cases said : options.password with
      | some password => exact .inl ⟨_, rfl, .basic signs given said⟩
      | none => exact .inr (.inl ⟨_, rfl, .userWithoutPassword signs given said⟩)
  | none =>
    have nobody (user : String) : ¬ Names options user := fun signs => by
      cases named.symm.trans (filter_eq_some_iff.mpr signs)
    cases given : options.clientCertificate with
    | some path =>
      simp only [demandPath]
      cases stands : files.stat path with
      | error refusal => exact .inr (.inr ⟨_, _, rfl, nobody, _, rfl⟩)
      | ok _ =>
        cases keyed : options.clientKey with
        | none =>
          refine .inl ⟨_, rfl, ?_⟩
          rw [← keyed]
          exact .certificate nobody given stands fun key other => by cases keyed.symm.trans other
        | some key =>
          cases opens : files.stat key with
          | error refusal =>
            refine .inr (.inr ⟨key, refusal, ?_, nobody, _, rfl⟩)
            simp only [opens]
            rfl
          | ok _ =>
            refine .inl ⟨.certificate path options.clientKey, ?_, ?_⟩
            · simp only [opens, keyed]
              rfl
            · refine .certificate nobody given stands fun other same => ?_
              cases keyed.symm.trans same
              exact opens
    | none =>
      cases said : options.password with
      | some password => exact .inr (.inl ⟨_, rfl, .passwordWithoutUser nobody given said⟩)
      | none =>
        cases keyed : options.clientKey with
        | some key => exact .inr (.inl ⟨_, rfl, .keyWithoutCertificate nobody given said keyed⟩)
        | none => exact .inl ⟨_, rfl, .anonymous nobody given said keyed⟩

/-- Options for signing in that belong together: all of one way, and nothing of the other. -/
inductive Consistent (options : ConnectionOptions) : Prop where
  | anonymous (nobody : ∀ user, ¬ Names options user) (silent : options.password = none)
      (bare : options.clientCertificate = none) (keyless : options.clientKey = none)
  | user {user password : String} (signs : Names options user)
      (said : options.password = some password) (bare : options.clientCertificate = none)
      (keyless : options.clientKey = none)
  | certificate {path : String} (nobody : ∀ user, ¬ Names options user)
      (silent : options.password = none) (given : options.clientCertificate = some path)

/-- Options for signing in among which one is left over: a password beside a certificate, or a key beside
a user with a password. -/
inductive Crossed (options : ConnectionOptions) : Prop where
  | password {password path : String} (nobody : ∀ user, ¬ Names options user)
      (said : options.password = some password) (given : options.clientCertificate = some path)
  | key {user password path : String} (signs : Names options user)
      (said : options.password = some password) (bare : options.clientCertificate = none)
      (named : options.clientKey = some path)

theorem SignsIn.consistent_or_crossed (signed : SignsIn files options credentials) :
    Consistent options ∨ Crossed options := by
  cases signed with
  | anonymous nobody bare silent keyless => exact .inl (.anonymous nobody silent bare keyless)
  | basic signs bare said =>
    cases keyed : options.clientKey with
    | none => exact .inl (.user signs said bare keyed)
    | some key => exact .inr (.key signs said bare keyed)
  | certificate nobody given _ _ =>
    cases said : options.password with
    | none => exact .inl (.certificate nobody said given)
    | some password => exact .inr (.password nobody said given)

theorem Names.unique {user other : String} (signs : Names options user) (again : Names options other) :
    user = other :=
  Option.some.inj (signs.1.symm.trans again.1)

theorem SignsIn.taken (signed : SignsIn files options credentials) :
    (∀ user, Names options user ↔
      ∃ password, options.password = some password ∧ credentials = .basic user password) ∧
    (∀ path, options.clientCertificate = some path ↔
      credentials = .certificate path options.clientKey) ∧
    ((∀ user, ¬ Names options user) ∧ options.clientCertificate = none ↔ credentials = .anonymous) := by
  cases signed with
  | anonymous nobody bare _ _ => simp [nobody, bare]
  | basic signs bare said =>
    refine ⟨fun user => ⟨fun named => ?_, ?_⟩, by simp [bare], ?_⟩
    · exact ⟨_, said, by rw [signs.unique named]⟩
    · rintro ⟨_, _, ⟨⟩⟩
      exact signs
    · simp only [reduceCtorEq, iff_false, not_and]
      exact fun nobody => absurd signs (nobody _)
  | certificate nobody given _ _ =>
    refine ⟨fun user => ?_, fun path => ?_, ?_⟩
    · simp [nobody]
    · rw [given]
      simp
    · simp [given]

theorem signsIn_of_resolve (resolved : resolve files options = .ok connection) :
    SignsIn files options connection.credentials := by
  obtain ⟨-, -, signed, -⟩ := parts_of_resolve resolved
  rcases resolveCredentials_cases files options with
    ⟨same, came, signs⟩ | ⟨fault, refused, -⟩ | ⟨path, refusal, refused, -⟩
  · cases came.symm.trans signed
    exact signs
  · cases refused.symm.trans signed
  · cases refused.symm.trans signed

/-- Options that do not belong together are refused as such, whatever the files, where nothing else is
wrong and none of them is left over. -/
theorem resolveCredentials_refuses (files : Files) (mixed : ¬ Consistent options)
    (uncrossed : ¬ Crossed options) :
    ∃ fault, resolveCredentials files options = .error (.credentials fault) := by
  rcases resolveCredentials_cases files options with
    ⟨_, -, signs⟩ | ⟨fault, refused, -⟩ | ⟨path, refusal, -, nobody, certificate, given⟩
  · exact absurd signs.consistent_or_crossed (not_or.mpr ⟨mixed, uncrossed⟩)
  · exact ⟨fault, refused⟩
  · cases said : options.password with
    | none => exact absurd (.certificate nobody said given) mixed
    | some password => exact absurd (.password nobody said given) uncrossed

/-- The options for signing in are all taken or refused, unless one of them is left over from the other
way: then it is lost. -/
theorem credentials_taken_unless_crossed (files : Files) (options : ConnectionOptions) :
    (∀ connection, resolve files options = .ok connection →
      (∀ user, Names options user ↔
        ∃ password, options.password = some password ∧ connection.credentials = .basic user password) ∧
      (∀ path, options.clientCertificate = some path ↔
        connection.credentials = .certificate path options.clientKey) ∧
      ((∀ user, ¬ Names options user) ∧ options.clientCertificate = none ↔
        connection.credentials = .anonymous) ∧
      (((∀ password, options.password = some password →
            ∃ user, connection.credentials = .basic user password) ∧
          ∀ key, options.clientKey = some key →
            ∃ path, connection.credentials = .certificate path (some key)) ↔ ¬ Crossed options)) ∧
    (¬ Consistent options → ¬ Crossed options →
      (∃ error, resolve files options = .error error) ∧
      ∀ context serverCa, contextUrl options.serverUrl = .ok context →
        resolveServerCa files options.serverCa = .ok serverCa →
        ∃ fault, resolve files options = .error (.credentials fault)) := by
  constructor
  · intro connection resolved
    have signed := signsIn_of_resolve resolved
    obtain ⟨basic, certificate, anonymous⟩ := signed.taken
    refine ⟨basic, certificate, anonymous, ?_, fun uncrossed => ?_⟩
    · rintro ⟨passwordTaken, keyTaken⟩ crossed
      cases crossed with
      | password _ said given =>
        obtain ⟨user, same⟩ := passwordTaken _ said
        cases same.symm.trans ((certificate _).mp given)
      | key signs said _ named =>
        obtain ⟨path, same⟩ := keyTaken _ named
        obtain ⟨password, -, other⟩ := (basic _).mp signs
        cases same.symm.trans other
    · cases signed.consistent_or_crossed.resolve_right uncrossed with
      | anonymous _ silent _ keyless => simp [silent, keyless]
      | user signs said _ keyless =>
        obtain ⟨password, same, taken⟩ := (basic _).mp signs
        simp [keyless, taken, same]
      | certificate _ silent given =>
        simp [silent, (certificate _).mp given]
  · intro mixed uncrossed
    obtain ⟨fault, refused⟩ := resolveCredentials_refuses files mixed uncrossed
    have whole (context : Url) (serverCa : Option String)
        (placed : contextUrl options.serverUrl = .ok context)
        (trusted : resolveServerCa files options.serverCa = .ok serverCa) :
        ∃ fault, resolve files options = .error (.credentials fault) :=
      ⟨fault, by rw [resolve, placed]; simp [bind, Except.bind, trusted, refused]⟩
    refine ⟨?_, whole⟩
    cases placed : contextUrl options.serverUrl with
    | error error => exact bind_fails_iff.mpr (.inl ⟨error, placed⟩)
    | ok context =>
      cases trusted : resolveServerCa files options.serverCa with
      | error error =>
        exact bind_fails_iff.mpr (.inr ⟨context, placed, bind_fails_iff.mpr (.inl ⟨error, trusted⟩)⟩)
      | ok serverCa =>
        obtain ⟨fault, refused⟩ := whole context serverCa placed trusted
        exact ⟨_, refused⟩

/-- A blank user name is none, so a certificate with a key beside it is taken; a user without a password is
refused as such. -/
theorem certificate_taken_beside_blank_user :
    let files : Files := ⟨fun _ => .ok (), fun _ => .error .notFound⟩
    let options : ConnectionOptions :=
      { serverUrl := "https://[::1]/", username := some " ", clientCertificate := some "cert.pem"
        clientKey := some "key.pem" }
    (∃ connection, resolve files options = .ok connection ∧
      connection.credentials = .certificate "cert.pem" (some "key.pem")) ∧
    ∃ fault, resolve files { options with username := some "admin", clientCertificate := none } =
      .error (.credentials fault) := by
  intro files options
  let context : Url :=
    { scheme := "https", host := some (.ipv6 ⟨#v[0, 0, 0, 0, 0, 0, 0, 1]⟩), path := .segments [""] }
  have resolved : resolve files options =
      .ok ⟨context, some defaultServerCa, true, .certificate "cert.pem" (some "key.pem"), 10⟩ := by
    decide +kernel
  have given : options.clientCertificate = some "cert.pem" := rfl
  refine ⟨⟨_, resolved, ?_⟩, ?_⟩
  · exact (((credentials_taken_unless_crossed files options).1 _ resolved).2.1 _).mp given
  · refine ((credentials_taken_unless_crossed files _).2 ?_ ?_).2 context _ (by decide +kernel) rfl
    · rintro (⟨nobody, _⟩ | ⟨_, said⟩ | ⟨_, _, ⟨⟩⟩)
      · exact nobody "admin" ⟨rfl, by decide⟩
      · cases said
    · rintro (⟨_, said⟩ | ⟨_, said⟩)
      · cases said
      · cases said

/-- A key beside a user, and a password beside a certificate: a connection comes of both, and neither the
key nor the password is part of it or looked at. -/
theorem crossed_credentials_lost :
    let files : Files := ⟨fun path => if path = "cert.pem" then .ok () else .error .notFound,
      fun _ => .error .notFound⟩
    let options : ConnectionOptions := { serverUrl := "https://[::1]:8443/api" }
    let connection : Connection :=
      { context :=
          { scheme := "https", host := some (.ipv6 ⟨#v[0, 0, 0, 0, 0, 0, 0, 1]⟩), port := some 8443
            path := .segments ["api", ""] }
        serverCa := none, insecure := true, credentials := .anonymous, timeoutSeconds := 10 }
    resolve files
        { options with username := some "admin", password := some "secret", clientKey := some "key.pem" } =
      .ok { connection with credentials := .basic "admin" "secret" } ∧
    resolve files { options with password := some "secret", clientCertificate := some "cert.pem" } =
      .ok { connection with credentials := .certificate "cert.pem" none } :=
  ⟨by decide +kernel, by decide +kernel⟩

end EntitlementRules.Connection
