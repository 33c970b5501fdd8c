import EntitlementRules.Proofs.Configuration.Fault

/-! Contexts: the URLs that a server's resources lie below, and the URLs of those resources. -/
namespace EntitlementRules.Url

variable {url : Url} {folder : List String} {name : String}

/-! ## What is read -/

/-- A path that is made of names. -/
def Structured (url : Url) : Prop := ∃ names, url.path = .segments names

theorem structured_afterAuthority (origin : Origin) (text : List Char) :
    Structured (afterAuthority origin text) := by
  unfold afterAuthority
  cases text with
  | nil => exact ⟨_, rfl⟩
  | cons c rest =>
    simp only
    split
    · exact ⟨_, rfl⟩
    · split
      · exact ⟨_, rfl⟩
      · exact ⟨_, rfl⟩

theorem structured_of_afterSlashes {scheme : String} {text : List Char}
    (read : afterSlashes scheme text = .ok url) : Structured url := by
  obtain ⟨⟨origin, rest⟩, -, read⟩ := bind_eq_ok_iff.mp read
  cases read
  exact structured_afterAuthority origin rest

theorem structured_of_file {text : List Char} (read : file text = .ok url) : Structured url := by
  unfold file at read
  simp only at read
  split at read
  · cases read
    exact ⟨_, rfl⟩
  · split at read
    · cases read
      exact ⟨_, rfl⟩
    · split at read
      · cases read
        exact ⟨_, rfl⟩
      · obtain ⟨host, -, read⟩ := bind_eq_ok_iff.mp read
        cases read
        exact ⟨_, rfl⟩

/-- A path without structure belongs to a scheme without a meaning of its own. -/
theorem structured_of_parse {text : String} (read : parse text = .ok url) (special : isSpecial url.scheme = true) :
    Structured url := by
  unfold parse at read
  split at read
  · next scheme rest _ =>
    unfold absolute at read
    split at read
    · exact structured_of_file read
    · split at read
      · exact structured_of_afterSlashes read
      · next plain =>
        unfold otherUrl at read
        split at read
        · exact structured_of_afterSlashes read
        · cases read
          exact ⟨_, rfl⟩
        · cases read
          exact absurd special plain
  · cases read

/-! ## Resources below a context -/

/-- A URL that resources can lie below: of a server on the web, and a folder. -/
structure Context (url : Url) (folder : List String) : Prop where
  scheme : url.scheme = "http" ∨ url.scheme = "https"
  hosted : ∃ host, url.host = some host
  path : url.path = .segments (folder ++ [""])
  query : url.query = none
  fragment : url.fragment = none

theorem isSpecial_of_web {scheme : String} (web : scheme = "http" ∨ scheme = "https") :
    isSpecial scheme = true := by
  rcases web with rfl | rfl <;> rfl

/-- A context is the folder of a URL on the web that was read. -/
theorem parse_of_contextUrl {text : String} (named : Connection.contextUrl text = .ok url) :
    ∃ found, parse (Text.trim text) = .ok found ∧ (found.scheme = "http" ∨ found.scheme = "https") ∧
      (∃ host, found.host = some host) ∧ url = found.asFolder := by
  unfold Connection.contextUrl at named
  simp only at named
  split at named
  · cases named
  · next found read =>
    split at named
    · cases named
    · next web =>
      split at named
      · cases named
      · next hosted =>
        cases named
        rw [not_and_or, not_not, not_not] at web
        have host : ∃ host, found.host = some host :=
          Option.ne_none_iff_exists'.mp fun missing => hosted (Option.isNone_iff_eq_none.mpr missing)
        exact ⟨found, read, web, host, rfl⟩

theorem context_of_contextUrl {text : String} (named : Connection.contextUrl text = .ok url) :
    ∃ folder, Context url folder := by
  obtain ⟨found, read, scheme, host, rfl⟩ := parse_of_contextUrl named
  obtain ⟨names, path⟩ := structured_of_parse read (isSpecial_of_web scheme)
  by_cases last : names.getLast? = some ""
  · refine ⟨names.dropLast, scheme, host, ?_, rfl, rfl⟩
    rw [List.dropLast_append_getLast? _ last]
    simp [asFolder, path, last]
  · refine ⟨names, scheme, host, ?_, rfl, rfl⟩
    simp [asFolder, path, last]

theorem context_of_resolve {files : Files} {options : ConnectionOptions} {connection : Connection}
    (resolved : Connection.resolve files options = .ok connection) :
    ∃ folder, Context connection.context folder := by
  obtain ⟨placed, -⟩ := Connection.parts_of_resolve resolved
  exact context_of_contextUrl placed

/-- A name that stands for itself as a relative URL. -/
structure Plain (name : String) : Prop where
  significant : significant name = name.toList
  schemeless : scheme? name.toList = none
  head : ∃ c rest, name.toList = c :: rest ∧ isSlash true c = false ∧ c ≠ '?' ∧ c ≠ '#'
  span : name.toList.span (fun c => !endsPath c) = (name.toList, [])
  names : Url.names true name.toList = [name]
  double : isDoubleDot name = false
  single : isSingleDot name = false

theorem plain_status : Plain "status" :=
  ⟨by decide, by decide, ⟨_, _, rfl, by decide, by decide, by decide⟩, by decide, by decide, by decide,
    by decide⟩

theorem plain_rules : Plain "rules" :=
  ⟨by decide, by decide, ⟨_, _, rfl, by decide, by decide, by decide⟩, by decide, by decide, by decide,
    by decide⟩

/-- A plain name leads to the resource of that name in a context. -/
theorem Context.join (context : Context url folder) (plain : Plain name) :
    url.join name = .ok { url with path := .segments (folder ++ [name]) } := by
  obtain ⟨c, rest, chars, slash, query, fragment⟩ := plain.head
  have started : relative url name.toList =
      .ok (withTail url.origin url.path.names.dropLast name.toList) := by
    rw [chars]
    unfold relative
    split
    · next same => cases same
    · next same => exact absurd (List.cons.inj same).1 query
    · next same => exact absurd (List.cons.inj same).1 fragment
    · next same =>
      obtain ⟨rfl, rfl⟩ := List.cons.inj same
      rw [slash, if_neg Bool.false_ne_true]
  have special : isSpecial url.origin.scheme = true := isSpecial_of_web context.scheme
  have folds : url.path.names.dropLast = folder := by
    rw [context.path]
    exact List.dropLast_concat
  rw [Url.join, plain.significant, plain.schemeless, context.path]
  simp only [started, folds]
  rw [withTail, special]
  simp only [plain.span, plain.names, resolve, plain.double, plain.single]
  rw [context.query, context.fragment]
  rfl

/-- The text of a resource is that of its context with the name behind it. -/
theorem Context.text_resource (context : Context url folder) (name : String) :
    text { url with path := .segments (folder ++ [name]) } = url.text ++ name := by
  obtain ⟨host, hosted⟩ := context.hosted
  have origin : originText { url with path := .segments (folder ++ [name]) } = url.originText := by
    simp only [originText, authorityText, userText, hosted]
  have path : (Path.segments (folder ++ [name])).text = url.path.text ++ name := by
    simp [context.path, Path.text, String.join_append, String.join_cons, String.append_assoc]
  rw [text, origin, path, text, context.query, context.fragment]
  simp only [String.append_empty, String.append_assoc]

theorem Context.endpoint {connection : Connection} (context : Context connection.context folder)
    (plain : Plain name) :
    connection.endpoint name = .ok { connection.context with path := .segments (folder ++ [name]) } := by
  obtain ⟨c, rest, chars, slash, -⟩ := plain.head
  have kept : name.toList.dropWhile (· == '/') = name.toList := by
    rw [chars]
    exact List.dropWhile_cons_of_neg (by simpa using (Bool.or_eq_false_iff.mp slash).1)
  rw [Connection.endpoint, kept, String.ofList_toList, context.join plain]
  rfl

theorem Context.anonymous (context : Context url folder) :
    Context { url with username := "", password := none } folder :=
  ⟨context.scheme, context.hosted, context.path, context.query, context.fragment⟩

end EntitlementRules.Url
