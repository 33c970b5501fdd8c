import EntitlementRules.Client.Basic
import EntitlementRules.Proofs.Configuration.Credentials
import EntitlementRules.Proofs.Files.Tree

/-! Building a client: the files that a connection names are there, and the client is built from what they
hold. A folder is there, too, and holds nothing. -/
namespace EntitlementRules

/-- The files that a connection names: certificates to trust, a certificate to sign in with, and its key. -/
def Connection.named (connection : Connection) : List String :=
  connection.serverCa.toList ++
    match connection.credentials with
    | .certificate certificate key => certificate :: key.toList
    | _ => []

namespace Client

variable {α β : Type} {files : Files} {connection : Connection} {requestId : String}
  {paths others : List String} {first : Except CommandError α} {next : α → Except CommandError β}

/-! ## Failures to read -/

/-- A failure to read a file. -/
def Unread (result : Except CommandError α) : Prop :=
  ∃ words, result = .error (.failure ("failed to read " ++ words))

theorem not_unread_ok (value : α) : ¬ Unread (.ok value : Except CommandError α) := nofun

theorem not_unread_validation (message : String) :
    ¬ Unread (.error (.validation message) : Except CommandError α) := nofun

/-- A failure in other words is none to read. -/
theorem not_unread_failure {message : String}
    (otherwise : message.toList.take 14 ≠ "failed to read".toList) :
    ¬ Unread (.error (.failure message) : Except CommandError α) := by
  rintro ⟨words, same⟩
  cases same
  rw [String.toList_append, List.take_append_of_le_length (by decide)] at otherwise
  exact otherwise (by decide)

theorem not_unread_buildFailure : ¬ Unread (.error buildFailure : Except CommandError α) :=
  not_unread_failure (by decide)

theorem unread_bind_iff :
    Unread (first >>= next) ↔ Unread first ∨ ∃ value, first = .ok value ∧ Unread (next value) := by
  cases first with
  | error refusal => simp [Unread, bind, Except.bind]
  | ok value => simp [Unread, bind, Except.bind]

theorem not_unread_checkTrusted (pem : Bytes) : ¬ Unread (checkTrusted pem) := by
  unfold checkTrusted
  split
  · exact not_unread_buildFailure
  · split
    · exact not_unread_ok ()
    · exact not_unread_buildFailure

theorem not_unread_checkIdentity (sections : List (Pem.Kind × Bytes)) : ¬ Unread (checkIdentity sections) := by
  unfold checkIdentity
  split
  · exact not_unread_ok ()
  · exact not_unread_buildFailure

theorem not_unread_endpoint (connection : Connection) (path : String) : ¬ Unread (endpoint connection path) := by
  unfold endpoint
  cases connection.endpoint path with
  | error fault => exact not_unread_validation _
  | ok url => exact not_unread_ok url

/-! ## Files that are read -/

/-- Some of the paths cannot be read. -/
def Blocked (files : Files) (paths : List String) : Prop :=
  ∃ path ∈ paths, ∃ refusal, files.read path = .error refusal

theorem blocked_append_iff : Blocked files (paths ++ others) ↔ Blocked files paths ∨ Blocked files others := by
  simp [Blocked, or_and_right, exists_or]

/-- A part that only reads files: nothing but a file that cannot be read makes it fail. -/
def NeedsOnly (files : Files) (paths : List String) (part : Except CommandError α) : Prop :=
  (∃ value, part = .ok value) ∧ ¬ Blocked files paths ∨ Unread part ∧ Blocked files paths

theorem needsOnly_readPem (files : Files) (path : String) : NeedsOnly files [path] (readPem files path) := by
  unfold NeedsOnly readPem
  simp only [Blocked, List.mem_singleton, exists_eq_left]
  cases read : files.read path with
  | ok content => exact .inl ⟨⟨content, rfl⟩, nofun⟩
  | error refusal =>
    have words : s!"failed to read {path}: {refusal.message}" =
        "failed to read " ++ (path ++ ": " ++ refusal.message) := by
      change "failed to read " ++ path ++ ": " ++ refusal.message = _
      simp only [String.append_assoc]
    exact .inr ⟨⟨_, congrArg (Except.error ∘ CommandError.failure) words⟩, refusal, rfl⟩

theorem NeedsOnly.map (needs : NeedsOnly files paths first) (change : α → β) :
    NeedsOnly files paths (change <$> first) := by
  rcases needs with ⟨⟨value, rfl⟩, free⟩ | ⟨⟨words, rfl⟩, blocked⟩
  · exact .inl ⟨⟨change value, rfl⟩, free⟩
  · exact .inr ⟨⟨words, rfl⟩, blocked⟩

theorem needsOnly_option {name : Option String} (reader : String → Except CommandError α)
    (needs : ∀ path, NeedsOnly files [path] (reader path)) : NeedsOnly files name.toList (name.mapM reader) := by
  cases name with
  | none => exact .inl ⟨⟨none, rfl⟩, by simp [Blocked]⟩
  | some path => exact (needs path).map some

/-- What goes on from files that were read fails to read where they, or files of its own, cannot be read. -/
theorem NeedsOnly.unread_bind_iff (needs : NeedsOnly files paths first)
    (later : ∀ value, Unread (next value) ↔ Blocked files others) :
    Unread (first >>= next) ↔ Blocked files (paths ++ others) := by
  rw [blocked_append_iff, Client.unread_bind_iff]
  rcases needs with ⟨⟨value, rfl⟩, free⟩ | ⟨unread, blocked⟩
  · simp [not_unread_ok, free, later]
  · simp [unread, blocked]

theorem unread_iff_blocked_nil (other : ¬ Unread first) : Unread first ↔ Blocked files [] := by
  simp [other, Blocked]

/-- The certificate and the key that a text holds. -/
def identityIn (certificate : String) (text : Bytes) : Except CommandError (List (Pem.Kind × Bytes)) :=
  match Pem.sections text with
  | .ok sections =>
    if isIdentity sections then .ok sections
    else .error (.validation s!"invalid client certificate {certificate}: builder error")
  | .error _ => .error (.validation s!"invalid client certificate {certificate}: builder error")

theorem readIdentity_eq (files : Files) (certificate : String) (key : Option String) :
    readIdentity files certificate key = (do
      let pem ← readPem files certificate
      match key with
      | some key =>
        let other ← readPem files key
        identityIn certificate (pem ++ Ascii.lineFeed :: other)
      | none => identityIn certificate pem) := by
  cases key <;> rfl

theorem not_unread_identityIn (certificate : String) (text : Bytes) :
    ¬ Unread (identityIn certificate text) := by
  unfold identityIn
  split
  · split
    · exact not_unread_ok _
    · exact not_unread_validation _
  · exact not_unread_validation _

theorem unread_readIdentity_iff (files : Files) (certificate : String) (key : Option String) :
    Unread (readIdentity files certificate key) ↔ Blocked files (certificate :: key.toList) := by
  rw [readIdentity_eq]
  refine (needsOnly_readPem files certificate).unread_bind_iff fun pem => ?_
  have judged (text : Bytes) : Unread (identityIn certificate text) ↔ Blocked files [] :=
    unread_iff_blocked_nil (not_unread_identityIn certificate text)
  cases key with
  | none => exact judged pem
  | some key => exact (needsOnly_readPem files key).unread_bind_iff fun _ => judged _

/-! ## The client -/

/-- The client that is made of what the files hold. -/
def assemble (connection : Connection) (requestId : String) (trusted : Option Bytes)
    (identity : Option (List (Pem.Kind × Bytes))) : Except CommandError Client := do
  if let some pem := trusted then checkTrusted pem
  if let some sections := identity then checkIdentity sections
  let authorization := match connection.credentials with
    | .basic username password =>
      some (Http.basicAuthorization (Text.Utf8.encode username) (Text.Utf8.encode password))
    | _ => none
  return {
    statusUrl := ← endpoint connection "status"
    rulesUrl := ← endpoint connection "rules"
    authorization
    requestId }

theorem not_unread_assemble (connection : Connection) (requestId : String) (trusted : Option Bytes)
    (identity : Option (List (Pem.Kind × Bytes))) :
    ¬ Unread (assemble connection requestId trusted identity) := by
  unfold assemble
  cases trusted <;> cases identity <;>
    simp [unread_bind_iff, not_unread_checkTrusted, not_unread_checkIdentity, not_unread_endpoint, pure,
      Except.pure, not_unread_ok]

/-- The files are read before anything else is made of them. -/
theorem build_eq (files : Files) (connection : Connection) (requestId : String) :
    build files connection requestId =
      if Http.isFieldText requestId then do
        let trusted ← connection.serverCa.mapM (readPem files)
        match connection.credentials with
        | .certificate certificate key =>
          let sections ← readIdentity files certificate key
          assemble connection requestId trusted (some sections)
        | _ => assemble connection requestId trusted none
      else .error (.failure "trace identifier contains invalid characters") := by
  unfold build
  cases Http.isFieldText requestId with
  | false => rfl
  | true =>
    refine bind_congr fun trusted => ?_
    unfold assemble
    cases connection.credentials <;> rfl

/-- Building a client fails to read a file exactly where one that the connection names cannot be read. -/
theorem unread_build_iff :
    Unread (build files connection requestId) ↔
      Http.isFieldText requestId = true ∧ Blocked files connection.named := by
  have other (trusted : Option Bytes) :
      Unread (assemble connection requestId trusted none) ↔ Blocked files [] :=
    unread_iff_blocked_nil (not_unread_assemble connection requestId trusted none)
  rw [build_eq]
  cases Http.isFieldText requestId with
  | false => simpa using not_unread_failure (by decide)
  | true =>
    simp only [↓reduceIte, true_and]
    -- The certificates to trust are read first. What comes next reads files of its own only to sign in.
    refine (needsOnly_option _ (needsOnly_readPem files)).unread_bind_iff fun trusted => ?_
    cases connection.credentials with
    | certificate certificate key =>
      rw [← unread_readIdentity_iff]
      simp [unread_bind_iff, not_unread_assemble]
    | anonymous => exact other trusted
    | basic username password => exact other trusted

end Client

namespace Connection

variable {files : Files} {options : ConnectionOptions} {connection : Connection} {path : String}

/-- The certificates to trust are in the file that is named, or in the usual one. Either is there. -/
theorem serverCa_of_resolve (resolved : resolve files options = .ok connection) :
    (∀ path, options.serverCa = some path → connection.serverCa = some path) ∧
      ∀ path, connection.serverCa = some path → files.stat path = .ok () := by
  obtain ⟨-, trusted, -⟩ := parts_of_resolve resolved
  generalize connection.serverCa = serverCa at trusted
  cases given : options.serverCa with
  | some path =>
    rw [given] at trusted
    obtain ⟨_, stands, same⟩ := bind_eq_ok_iff.mp trusted
    cases same
    refine ⟨fun _ => id, ?_⟩
    rintro _ ⟨⟩
    exact mapError_eq_ok_iff.mp stands
  | none =>
    refine ⟨nofun, ?_⟩
    rintro path rfl
    rw [given, resolveServerCa, Except.ok.injEq] at trusted
    split at trusted
    · cases trusted
      exact Files.stat_of_isFile ‹_›
    · cases trusted

theorem mem_named_iff :
    path ∈ connection.named ↔ connection.serverCa = some path ∨
      ∃ certificate key, connection.credentials = .certificate certificate key ∧
        (path = certificate ∨ key = some path) := by
  unfold named
  cases connection.credentials with
  | certificate certificate key => simp
  | _ => simp

/-- The files of the options are among those of the connection. -/
theorem mem_named_of_resolve (resolved : resolve files options = .ok connection) :
    (∀ path, options.serverCa = some path → path ∈ connection.named) ∧
      ∀ path, options.clientCertificate = some path →
        path ∈ connection.named ∧ ∀ key, options.clientKey = some key → key ∈ connection.named := by
  constructor
  · intro path given
    exact mem_named_iff.mpr (.inl ((serverCa_of_resolve resolved).1 path given))
  · intro path given
    have signs := ((signsIn_of_resolve resolved).taken.2.1 path).mp given
    exact ⟨mem_named_iff.mpr (.inr ⟨path, _, signs, .inl rfl⟩),
      fun key keyed => mem_named_iff.mpr (.inr ⟨path, _, signs, .inr keyed⟩)⟩

theorem stands_of_resolve (resolved : resolve files options = .ok connection)
    (member : path ∈ connection.named) : files.stat path = .ok () := by
  rcases mem_named_iff.mp member with trusted | ⟨certificate, key, signs, signing⟩
  · exact (serverCa_of_resolve resolved).2 path trusted
  · have signed := signsIn_of_resolve resolved
    rw [signs] at signed
    cases signed with
    | certificate nobody given stands opens =>
      rcases signing with rfl | keyed
      · exact stands
      · exact opens path keyed

/-- A folder is the one thing that a connection can name although it cannot be read: the files of the
options are there, and building a client from them fails to read exactly what is a folder. -/
theorem named_files_open_unless_folders {tree : Files.Tree}
    (resolved : resolve tree.view options = .ok connection) (requestId : String) :
    ((∀ path, options.serverCa = some path → path ∈ connection.named) ∧
      ∀ path, options.clientCertificate = some path →
        path ∈ connection.named ∧ ∀ key, options.clientKey = some key → key ∈ connection.named) ∧
    (∀ path ∈ connection.named,
      tree.view.stat path = .ok () ∧
        ((∃ content, tree.view.read path = .ok content) ↔ ¬ tree.LeadsToFolder path)) ∧
    (Client.Unread (Client.build tree.view connection requestId) ↔
      Http.isFieldText requestId = true ∧ ∃ path ∈ connection.named, tree.LeadsToFolder path) := by
  have stands (path : String) (member : path ∈ connection.named) : tree.view.stat path = .ok () :=
    stands_of_resolve resolved member
  refine ⟨mem_named_of_resolve resolved, fun path member => ⟨stands path member, ?_⟩, ?_⟩
  · rw [← Files.Tree.read_fails_iff (stands path member)]
    cases tree.view.read path <;> simp
  · rw [Client.unread_build_iff, Client.Blocked]
    exact and_congr_right fun _ => exists_congr fun path => and_congr_right fun member =>
      Files.Tree.read_fails_iff (stands path member)

/-- Files are read where they are named, whatever folders stand beside them. -/
theorem named_files_open_beside_folder :
    let tree : Files.Tree := ⟨"/home", [(["ca"], .file []), (["id"], .file []), (["keys"], .folder)]⟩
    let options : ConnectionOptions :=
      { serverUrl := "https://[::1]/", serverCa := some "ca", clientCertificate := some "id" }
    ∃ connection, resolve tree.view options = .ok connection ∧
      connection.named = ["ca", "id"] ∧
      ¬ Client.Unread (Client.build tree.view connection "trace") := by
  intro tree options
  let context : Url :=
    { scheme := "https", host := some (.ipv6 ⟨#v[0, 0, 0, 0, 0, 0, 0, 1]⟩), path := .segments [""] }
  have resolved : resolve tree.view options =
      .ok ⟨context, some "ca", true, .certificate "id" none, 10⟩ := by decide +kernel
  refine ⟨_, resolved, rfl, fun unread => ?_⟩
  obtain ⟨-, path, member, place, found⟩ :=
    (named_files_open_unless_folders resolved "trace").2.2.mp unread
  have first : tree.find "ca" = .ok (["ca"], .file []) := by decide +kernel
  have second : tree.find "id" = .ok (["id"], .file []) := by decide +kernel
  rcases List.mem_pair.mp member with rfl | rfl
  · cases first.symm.trans found
  · cases second.symm.trans found

/-- A folder is taken for each of the three files, and the client that is built next fails to read it. -/
theorem folder_taken_for_file :
    let tree : Files.Tree := ⟨"/home", [(["id"], .file []), (["d"], .folder)]⟩
    let options : ConnectionOptions := { serverUrl := "https://[::1]/", serverCa := some "id" }
    let refused : CommandError := .failure "failed to read d: Is a directory (os error 21)"
    refused.exitCode = 3 ∧
    ∀ named ∈ [
        { options with serverCa := some "d" },
        { options with clientCertificate := some "d" },
        { options with clientCertificate := some "id", clientKey := some "d" }],
      ∃ connection, resolve tree.view named = .ok connection ∧
        Client.build tree.view connection "trace" = .error refused := by
  intro tree options refused
  let connection : Connection :=
    { context :=
        { scheme := "https", host := some (.ipv6 ⟨#v[0, 0, 0, 0, 0, 0, 0, 1]⟩), path := .segments [""] }
      serverCa := some "id", insecure := true, credentials := .anonymous, timeoutSeconds := 10 }
  have found : tree.find "d" = .ok (["d"], .folder) := by decide +kernel
  have kept : tree.find "id" = .ok (["id"], .file []) := by decide +kernel
  have unread : Client.readPem tree.view "d" = .error refused := by
    simp only [Client.readPem, Files.Tree.view, found]
    rfl
  have read : Client.readPem tree.view "id" = .ok [] := by
    simp only [Client.readPem, Files.Tree.view, kept]
    rfl
  have traced : Http.isFieldText "trace" = true := by decide
  refine ⟨rfl, ?_⟩
  simp only [List.forall_mem_cons, List.not_mem_nil, false_implies, implies_true, and_true]
  refine ⟨⟨{ connection with serverCa := some "d" }, by decide +kernel, ?_⟩,
    ⟨{ connection with credentials := .certificate "d" none }, by decide +kernel, ?_⟩,
    ⟨{ connection with credentials := .certificate "id" (some "d") }, by decide +kernel, ?_⟩⟩
  · simp only [Client.build_eq, traced, Option.mapM_some, unread]
    rfl
  · simp only [Client.build_eq, traced, connection, Option.mapM_some, Client.readIdentity_eq, read, unread]
    rfl
  · simp only [Client.build_eq, traced, connection, Option.mapM_some, Client.readIdentity_eq, read, unread]
    rfl

end Connection

end EntitlementRules
