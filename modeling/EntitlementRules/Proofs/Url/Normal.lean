import EntitlementRules.Proofs.Url.Authority
import EntitlementRules.Proofs.Url.Context
import EntitlementRules.Proofs.Url.Path

/-! Contexts in normal form: a context that was read has a text that names the same context, and the texts of
its resources go on from that text. -/
namespace EntitlementRules.Url

variable {url found : Url} {host : Host} {folder names : List String} {origin : Origin}
  {scheme : String} {chars rest : List Char} {c : Char}

/-- A context as it is kept. -/
structure Normal (url : Url) (host : Host) (folder : List String) : Prop extends Context url folder where
  origin : SettledOrigin url.origin host
  settled : ∀ name ∈ folder ++ [""], SettledName name

/-! ## What is read -/

theorem scheme_of_file (read : file chars = .ok found) : found.scheme = "file" := by
  unfold file at read
  simp only at read
  split at read
  · cases read
    rfl
  · split at read
    · cases read
      rfl
    · split at read
      · cases read
        rfl
      · obtain ⟨host, -, read⟩ := bind_eq_ok_iff.mp read
        cases read
        rfl

theorem origin_afterAuthority (origin : Origin) (chars : List Char) :
    (afterAuthority origin chars).origin = origin := by
  unfold afterAuthority
  simp only
  split
  · split
    · rfl
    · split <;> rfl
  · rfl

theorem of_afterSlashes (read : afterSlashes scheme chars = .ok found) :
    found.scheme = scheme ∧ ∃ rest, authority scheme chars = .ok (found.origin, rest) ∧
      found = afterAuthority found.origin rest := by
  obtain ⟨⟨origin, rest⟩, came, read⟩ := bind_eq_ok_iff.mp read
  cases read
  have same : (afterAuthority origin rest).scheme = scheme :=
    (congrArg Origin.scheme (origin_afterAuthority origin rest)).trans (settled_of_authority came).1
  rw [origin_afterAuthority]
  exact ⟨same, rest, came, rfl⟩

theorem scheme_of_otherUrl (read : otherUrl scheme chars = .ok found) : found.scheme = scheme := by
  unfold otherUrl at read
  split at read
  · exact (of_afterSlashes read).1
  · cases read
    rfl
  · cases read
    rfl

/-- A URL on the web is what follows an authority, which stands behind the scheme and the slashes. -/
theorem origin_of_parse {text : String} (read : parse text = .ok found)
    (web : found.scheme = "http" ∨ found.scheme = "https") :
    ∃ chars rest, scheme? (significant text) = some (found.scheme, chars) ∧
      authority found.scheme (chars.dropWhile (isSlash true)) = .ok (found.origin, rest) ∧
      found = afterAuthority found.origin rest := by
  unfold parse at read
  split at read
  · next scheme chars named =>
    unfold absolute at read
    split at read
    · rw [scheme_of_file read] at web
      exact absurd web (by decide)
    · split at read
      · obtain ⟨rfl, rest, came, whole⟩ := of_afterSlashes read
        exact ⟨chars, rest, named, came, whole⟩
      · next plain => exact absurd (scheme_of_otherUrl read ▸ isSpecial_of_web web) plain
  · cases read

theorem path_withTail (origin : Origin) (folder : List String) (chars : List Char) :
    (withTail origin folder chars).path = .segments (resolve folder
      (Url.names (isSpecial origin.scheme) (chars.span fun c => !endsPath c).1)) :=
  rfl

theorem settled_afterAuthority (special : isSpecial origin.scheme = true)
    (path : (afterAuthority origin chars).path = .segments names) : ∀ name ∈ names, SettledName name := by
  have tail {chars : List Char} (path : (withTail origin [] chars).path = .segments names) :
      ∀ name ∈ names, SettledName name := by
    rw [path_withTail, special] at path
    cases path
    exact fun name => settled_of_mem_resolve nofun fun _ => clean_of_mem_names
  unfold afterAuthority at path
  simp only at path
  split at path
  · split at path
    · exact tail path
    · rw [special] at path
      simp only [Bool.not_true, Bool.and_false, Bool.false_eq_true, ↓reduceIte] at path
      exact tail path
  · rw [special] at path
    cases path
    intro name member
    cases List.mem_singleton.mp member
    exact settled_empty

theorem normal_of_contextUrl {text : String} (named : Connection.contextUrl text = .ok url) :
    ∃ host folder, Normal url host folder := by
  obtain ⟨folder, context⟩ := context_of_contextUrl named
  obtain ⟨found, read, web, -, rfl⟩ := parse_of_contextUrl named
  obtain ⟨names, path⟩ := structured_of_parse read (isSpecial_of_web web)
  obtain ⟨chars, rest, -, came, whole⟩ := origin_of_parse read web
  obtain ⟨host, origin⟩ := (settled_of_authority came).2 (isSpecial_of_web web)
  refine ⟨host, folder, context, origin, fun name member => ?_⟩
  have settled : ∀ name ∈ names, SettledName name := by
    rw [whole] at path
    exact settled_afterAuthority (isSpecial_of_web web) path
  have same : folder ++ [""] = if names.getLast? = some "" then names else names ++ [""] := by
    have kept := context.path
    simp only [asFolder, path] at kept
    exact (Path.segments.inj kept).symm
  rw [same] at member
  split at member
  · exact settled name member
  · rcases List.mem_append.mp member with inside | empty
    · exact settled name inside
    · cases List.mem_singleton.mp empty
      exact settled_empty

/-! ## Characters -/

/-- A character that is neither blank nor a control nor foreign. -/
def Visible (c : Char) : Prop := 0x20 < c.toNat ∧ c.toNat < 0x80

theorem le_space_iff : c ≤ ' ' ↔ c.toNat ≤ 0x20 := Iff.rfl

theorem visible_of_paths (low : c < '\x80') (kept : Percent.paths c = false) : Visible c := by
  simp only [Percent.paths, Percent.fragments, Percent.controls, Bool.or_eq_false_iff,
    decide_eq_false_iff_not, beq_eq_false_iff_ne, and_assoc] at kept
  obtain ⟨control, -, space, -⟩ := kept
  have other : c.toNat ≠ 0x20 := fun same => space (Char.toNat_inj.mp same)
  have above : 0x20 ≤ c.toNat := Nat.not_lt.mp control
  exact ⟨by omega, low⟩

theorem visible_of_allowed (ascii : Punycode.isAscii c = true) (allowed : Domain.isForbidden c = false) :
    Visible c := by
  simp only [Domain.isForbidden, Bool.or_eq_false_iff, decide_eq_false_iff_not] at allowed
  exact ⟨Nat.not_le.mp allowed.1.1.1, Domain.isAscii_iff.mp ascii⟩

theorem significant_of_visible {text : String} (visible : ∀ c ∈ text.toList, Visible c) :
    significant text = text.toList := by
  have kept {chars : List Char} (visible : ∀ c ∈ chars, Visible c) : chars.dropWhile (· ≤ ' ') = chars := by
    cases chars with
    | nil => rfl
    | cons c rest =>
      refine List.dropWhile_cons_of_neg fun blank => ?_
      exact absurd (le_space_iff.mp (of_decide_eq_true blank)) (Nat.not_le.mpr (visible c (.head _)).1)
  have counts : ∀ c ∈ text.toList, (!isIgnored c) = true := by
    intro c member
    have above := (visible c member).1
    have other {d : Char} (blank : d.toNat ≤ 0x20) : c ≠ d := by
      rintro rfl
      omega
    simp [isIgnored, other (d := '\t') (by decide), other (d := '\n') (by decide),
      other (d := '\r') (by decide)]
  unfold significant
  simp only [kept visible]
  rw [kept fun c member => visible c (List.mem_reverse.mp member), List.reverse_reverse,
    List.filter_eq_self.mpr counts]

/-! ## What is written -/

theorem scheme?_append {name : List Char} (letter : name.head?.any Char.isAlpha = true)
    (parts : name.all isSchemePart = true) (lower : name.map Char.toLower = name) :
    scheme? (name ++ ':' :: rest) = some (String.ofList name, rest) := by
  have span : (name ++ ':' :: rest).span isSchemePart = (name, ':' :: rest) :=
    Text.span_append (List.all_eq_true.mp parts) fun c first => by
      cases first
      decide
  cases name with
  | nil => cases letter
  | cons c more =>
    unfold scheme?
    simp only [List.cons_append] at span ⊢
    simp only [span, lower]
    exact if_pos letter

theorem Normal.toList_text (normal : Normal url host folder) : url.text.toList =
    url.scheme.toList ++ ':' :: '/' :: '/' :: (url.userText.toList ++
      (host.text.toList ++ portChars url.port ++
        '/' :: ['/'].intercalate ((folder ++ [""]).map String.toList))) := by
  have hosted : url.host = some host := normal.origin.hosted
  have path : (Path.segments (folder ++ [""])).text.toList =
      '/' :: ['/'].intercalate ((folder ++ [""]).map String.toList) :=
    text_segments_eq (by simp)
  have written (number : Nat) : toString number = String.ofList (Nat.toDigits 10 number) := rfl
  rw [text, normal.query, normal.fragment, originText, authorityText, hosted, normal.path]
  cases url.port with
  | none => simp [path, portChars]
  | some number => simp [path, portChars, written]

theorem visible_bracketChars : ∀ c ∈ Host.bracketChars, Visible c :=
  have known : ∀ c ∈ Host.bracketChars, 0x20 < c.toNat ∧ c.toNat < 0x80 := List.all_iff_forall_prop.mp (by decide)
  known

theorem visible_of_mem_userText (settled : SettledOrigin url.origin host) (member : c ∈ url.userText.toList) :
    Visible c := by
  rcases mem_userText member with inside | rfl
  · rcases mem_userChars settled.user inside with rfl | ⟨low, kept⟩
    · exact ⟨by decide, by decide⟩
    · exact visible_of_paths low (Percent.paths_of_userinfo kept)
  · exact ⟨by decide, by decide⟩

theorem visible_of_mem_host (settled : Host.Settled host) (member : c ∈ host.text.toList) : Visible c := by
  rcases settled.mem_text member with ⟨ascii, allowed⟩ | sign
  · exact visible_of_allowed ascii allowed
  · exact visible_bracketChars c sign

theorem visible_of_mem_path (settled : ∀ name ∈ names, SettledName name)
    (member : c ∈ ['/'].intercalate (names.map String.toList)) : Visible c := by
  rcases Text.mem_intercalate member with slash | ⟨part, inside, among⟩
  · cases List.mem_singleton.mp slash
    exact ⟨by decide, by decide⟩
  · obtain ⟨name, named, rfl⟩ := List.mem_map.mp inside
    have kept := (settled name named).encoded c among
    exact visible_of_paths kept.1 kept.2

theorem Normal.visible_text (normal : Normal url host folder) (member : c ∈ url.text.toList) : Visible c := by
  have scheme : ∀ c ∈ url.scheme.toList, Visible c := by
    have http : ∀ c ∈ "http".toList, 0x20 < c.toNat ∧ c.toNat < 0x80 := List.all_iff_forall_prop.mp (by decide)
    have https : ∀ c ∈ "https".toList, 0x20 < c.toNat ∧ c.toNat < 0x80 := List.all_iff_forall_prop.mp (by decide)
    rcases normal.scheme with same | same
    · rw [same]
      exact http
    · rw [same]
      exact https
  simp only [normal.toList_text, List.mem_append, List.mem_cons] at member
  rcases member with inside | rfl | rfl | rfl | inside | (inside | inside) | rfl | inside
  · exact scheme c inside
  · exact ⟨by decide, by decide⟩
  · exact ⟨by decide, by decide⟩
  · exact ⟨by decide, by decide⟩
  · exact visible_of_mem_userText normal.origin inside
  · exact visible_of_mem_host normal.origin.settled inside
  · exact visible_bracketChars c (mem_portChars inside)
  · exact ⟨by decide, by decide⟩
  · exact visible_of_mem_path normal.settled inside

/-! ## What is read again -/

theorem endsPath_eq_false (settled : ∀ name ∈ names, SettledName name)
    (member : c ∈ ['/'].intercalate (names.map String.toList)) : endsPath c = false := by
  rcases Text.mem_intercalate member with slash | ⟨part, inside, among⟩
  · cases List.mem_singleton.mp slash
    rfl
  · obtain ⟨name, named, rfl⟩ := List.mem_map.mp inside
    have kept := ((settled name named).encoded c among).2
    simp only [Percent.paths, Bool.or_eq_false_iff, beq_eq_false_iff_ne, and_assoc] at kept
    simp [endsPath, kept]

theorem Normal.afterAuthority_path (normal : Normal url host folder) :
    afterAuthority url.origin ('/' :: ['/'].intercalate ((folder ++ [""]).map String.toList)) = url := by
  have special : isSpecial url.origin.scheme = true := isSpecial_of_web normal.scheme
  have span : (['/'].intercalate ((folder ++ [""]).map String.toList)).span (fun c => !endsPath c) =
      (['/'].intercalate ((folder ++ [""]).map String.toList), []) :=
    Text.span_all fun c member => by simp [endsPath_eq_false normal.settled member]
  have slash : isSlash true '/' = true := rfl
  unfold afterAuthority
  simp only [special, slash, ↓reduceIte]
  unfold withTail
  simp only [special, span, names_intercalate normal.settled (by simp), resolve_settled normal.settled]
  calc
    url.origin.withPath (.segments ([] ++ (folder ++ [""]))) none none
    _ = url.origin.withPath url.path url.query url.fragment := by
      rw [normal.path, normal.query, normal.fragment, List.nil_append]
    _ = url := rfl

/-- No slash follows the two that stand before an authority. -/
theorem Normal.dropWhile_slashes (normal : Normal url host folder) :
    ('/' :: '/' :: (url.userText.toList ++ (host.text.toList ++ portChars url.port ++ rest))).dropWhile
      (isSlash true) = url.userText.toList ++ (host.text.toList ++ portChars url.port ++ rest) := by
  have plain : ∀ c ∈ url.userText.toList ++ host.text.toList, endsAuthority true c = false := by
    intro c member
    rcases List.mem_append.mp member with user | inside
    · rcases mem_userText user with inside | rfl
      · exact (plain_userChars normal.origin.user inside).1
      · rfl
    · exact (plain_text normal.origin.settled inside).1
  have filled : url.userText.toList ++ host.text.toList ≠ [] := fun empty =>
    normal.origin.settled.text_ne_empty (String.toList_eq_nil_iff.mp (List.append_eq_nil_iff.mp empty).2)
  obtain ⟨c, more, front⟩ := List.exists_cons_of_ne_nil filled
  have first : endsAuthority true c = false := plain c (front ▸ .head _)
  have whole : url.userText.toList ++ (host.text.toList ++ portChars url.port ++ rest) =
      c :: (more ++ (portChars url.port ++ rest)) := by
    rw [← List.cons_append, ← front]
    simp only [List.append_assoc]
  rw [List.dropWhile_cons_of_pos rfl, List.dropWhile_cons_of_pos rfl, whole]
  refine List.dropWhile_cons_of_neg fun slash => ?_
  rw [endsAuthority, slash] at first
  cases first

/-- The text of a context in normal form is read as that context. -/
theorem Normal.parse_text (normal : Normal url host folder) : Url.parse url.text = .ok url := by
  have special := isSpecial_of_web normal.scheme
  have scheme : url.scheme.toList.head?.any Char.isAlpha = true ∧
      url.scheme.toList.all isSchemePart = true ∧
      url.scheme.toList.map Char.toLower = url.scheme.toList ∧ url.scheme ≠ "file" := by
    rcases normal.scheme with same | same
    · rw [same]
      decide
    · rw [same]
      decide
  obtain ⟨letter, parts, lower, other⟩ := scheme
  have read := authority_text ('/' :: ['/'].intercalate ((folder ++ [""]).map String.toList))
    special normal.origin (by simp; rfl)
  rw [Url.parse, significant_of_visible fun c => normal.visible_text, normal.toList_text,
    scheme?_append letter parts lower]
  simp only [String.ofList_toList]
  rw [absolute, if_neg other, if_pos special, normal.dropWhile_slashes, afterSlashes]
  exact bind_eq_ok_iff.mpr ⟨_, read, congrArg Except.ok normal.afterAuthority_path⟩

theorem Normal.asFolder_eq (normal : Normal url host folder) : url.asFolder = url := by
  obtain ⟨scheme, username, password, hosted, port, path, query, fragment⟩ := url
  cases (show path = _ from normal.path)
  cases (show query = _ from normal.query)
  cases (show fragment = _ from normal.fragment)
  simp [asFolder]

theorem Normal.contextUrl_text (normal : Normal url host folder) : Connection.contextUrl url.text = .ok url := by
  have trimmed : Text.trim url.text = url.text := Text.trim_eq_self fun c member =>
    Text.isBlank_eq_false (normal.visible_text member).1 (normal.visible_text member).2
  have web : ¬ (url.scheme ≠ "http" ∧ url.scheme ≠ "https") := by
    rw [not_and_or, not_not, not_not]
    exact normal.scheme
  have hosted : url.host.isNone = false := by
    rw [show url.host = some host from normal.origin.hosted]
    rfl
  unfold Connection.contextUrl
  simp only [trimmed, normal.parse_text, if_neg web, hosted, normal.asFolder_eq, Bool.false_eq_true, ↓reduceIte]

theorem endpoint_slashes (connection : Connection) (slashes : Nat) (path : String) :
    connection.endpoint (String.ofList (List.replicate slashes '/') ++ path) = connection.endpoint path := by
  have dropped : (String.ofList (List.replicate slashes '/') ++ path).toList.dropWhile (· == '/') =
      path.toList.dropWhile (· == '/') := by
    rw [String.toList_append, String.toList_ofList]
    refine List.dropWhile_append_of_pos fun c member => ?_
    simpa using (List.mem_replicate.mp member).2
  rw [Connection.endpoint, dropped, ← Connection.endpoint]

/-- A connection that was found sound has its context in normal form: a folder on a host of the web, with
nothing behind its path. The texts of its resources are that of the context with a name behind it, and that
text names the context again. -/
theorem context_in_normal_form {files : Files} {options : ConnectionOptions} {connection : Connection}
    (resolved : Connection.resolve files options = .ok connection) :
    (connection.context.scheme = "http" ∨ connection.context.scheme = "https") ∧
      (∃ host, connection.context.host = some host ∧ host.text ≠ "") ∧
      connection.context.query = none ∧ connection.context.fragment = none ∧
      connection.context.path.text.toList.getLast? = some '/' ∧
      (∀ name ∈ ["status", "rules"], ∀ slashes : Nat,
        ∃ url, connection.endpoint (String.ofList (List.replicate slashes '/') ++ name) = .ok url ∧
          url.text = connection.context.text ++ name) ∧
      Connection.resolve files { options with serverUrl := connection.context.text } = .ok connection := by
  obtain ⟨context, named, built⟩ := bind_eq_ok_iff.mp resolved
  obtain ⟨host, folder, normal⟩ := normal_of_contextUrl named
  obtain ⟨serverCa, trusted, rest⟩ := bind_eq_ok_iff.mp built
  obtain ⟨credentials, signed, rest⟩ := bind_eq_ok_iff.mp rest
  cases rest
  refine ⟨normal.scheme, ⟨host, normal.origin.hosted, normal.origin.settled.text_ne_empty⟩, normal.query,
    normal.fragment, ?_, ?_, ?_⟩
  · have path : context.path.text.toList = (folder.flatMap fun name => '/' :: name.toList) ++ ['/'] := by
      rw [normal.path, text_segments, List.flatMap_append]
      rfl
    rw [path, List.getLast?_concat]
  · intro name known slashes
    have plain : Plain name := by
      rcases List.mem_cons.mp known with rfl | rest
      · exact plain_status
      · cases List.mem_singleton.mp rest
        exact plain_rules
    refine ⟨_, ?_, normal.toContext.text_resource name⟩
    rw [endpoint_slashes]
    exact Context.endpoint normal.toContext plain
  · exact bind_eq_ok_iff.mpr ⟨context, normal.contextUrl_text, built⟩

/-- A detour, a default port, a query and a fragment are gone from the text of a context. -/
theorem context_in_normal_form_after_detour :
    let files : Files := ⟨fun _ => .error .notFound, fun _ => .error .notFound⟩
    let context : Url :=
      { scheme := "http", username := "u", host := some (.ipv6 ⟨#v[0, 0, 0, 0, 0, 0, 0, 1]⟩)
        path := .segments ["api", ""] }
    let connection : Connection := ⟨context, none, true, .anonymous, 10⟩
    Connection.resolve files { serverUrl := " HTTP:u@[::1]:80/a/..\\api?q#f" } = .ok connection ∧
      context.text = "http://u@[::1]/api/" ∧
      (∃ url, connection.endpoint "//rules" = .ok url ∧ url.text = "http://u@[::1]/api/rules") ∧
      Connection.resolve files { serverUrl := "http://u@[::1]/api/" } = .ok connection := by
  intro files context connection
  have resolved : Connection.resolve files { serverUrl := " HTTP:u@[::1]:80/a/..\\api?q#f" } =
      .ok connection := by
    decide +kernel
  have text : context.text = "http://u@[::1]/api/" := by decide +kernel
  obtain ⟨-, -, -, -, -, resources, again⟩ := context_in_normal_form resolved
  obtain ⟨url, found, written⟩ := resources "rules" (by decide) 2
  refine ⟨resolved, text, ⟨url, found, ?_⟩, ?_⟩
  · rw [written, text]
    rfl
  · rw [← text]
    exact again

end EntitlementRules.Url
