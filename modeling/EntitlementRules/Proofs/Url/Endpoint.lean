import EntitlementRules.Proofs.Text.Cut
import EntitlementRules.Proofs.Url.Context
import EntitlementRules.Proofs.Url.Path

/-! Endpoints: which paths lead to URLs below a context, and which lead out of it. -/
namespace EntitlementRules.Url

variable {url found : Url} {folder inner names : List String} {depth : Nat} {chars rest : List Char}

/-! ## Steps up -/

/-- Whether names lead out of the folder that they start from, a number of names below it: at some name
there are more steps up than names before it. -/
def climbs : (depth : Nat) → List String → Bool
  | _, [] => false
  | depth, name :: rest =>
    if isDoubleDot name then depth == 0 || climbs (depth - 1) rest
    else if isSingleDot name then climbs depth rest
    else climbs (depth + 1) rest

theorem parent_append (below : inner ≠ []) : parent (folder ++ inner) = folder ++ parent inner := by
  obtain ⟨last, ends⟩ := List.getLast?_isSome.mpr below |> Option.isSome_iff_exists.mp
  have whole : (folder ++ inner).getLast? = some last := by
    rw [List.getLast?_append, ends, Option.some_or]
  simp only [parent, whole, ends]
  split
  · rfl
  · exact List.dropLast_append_of_ne_nil below

/-- A step up leaves at most one name less. A drive stays. -/
theorem length_parent (inner : List String) : inner.length - 1 ≤ (parent inner).length := by
  unfold parent
  split
  · split
    · omega
    · rw [List.length_dropLast]
  · next nothing => simp [List.getLast?_eq_none_iff.mp nothing]

/-- Names that do not lead out of a folder are followed below it, whatever lies above. -/
theorem resolve_append (deep : depth ≤ inner.length) (stays : climbs depth names = false) :
    resolve (folder ++ inner) names = folder ++ resolve inner names := by
  induction names generalizing inner depth with
  | nil => rfl
  | cons name rest ih =>
    rw [climbs] at stays
    by_cases up : isDoubleDot name = true
    · rw [if_pos up, Bool.or_eq_false_iff, beq_eq_false_iff_ne] at stays
      have below : inner ≠ [] := by
        rintro rfl
        exact stays.1 (Nat.le_zero.mp deep)
      cases rest with
      | nil => simp only [resolve, up, ↓reduceIte, parent_append below, List.append_assoc]
      | cons next others =>
        have higher : depth - 1 ≤ (parent inner).length :=
          Nat.le_trans (Nat.sub_le_sub_right deep 1) (length_parent inner)
        simp only [resolve, up, ↓reduceIte, parent_append below]
        exact ih higher stays.2
    · rw [if_neg up] at stays
      by_cases same : isSingleDot name = true
      · rw [if_pos same] at stays
        cases rest with
        | nil => simp only [resolve, up, same, ↓reduceIte, Bool.false_eq_true, List.append_assoc]
        | cons next others =>
          simp only [resolve, up, same, ↓reduceIte, Bool.false_eq_true]
          exact ih deep stays
      · rw [if_neg same] at stays
        cases rest with
        | nil => simp only [resolve, up, same, ↓reduceIte, Bool.false_eq_true, List.append_assoc]
        | cons next others =>
          simp only [resolve, up, same, ↓reduceIte, Bool.false_eq_true, List.append_assoc]
          refine ih ?_ stays
          rw [List.length_append]
          exact Nat.add_le_add_right deep 1

theorem resolve_ne_nil (some : names ≠ []) (folder : List String) : resolve folder names ≠ [] := by
  induction names generalizing folder with
  | nil => exact absurd rfl some
  | cons name rest ih =>
    cases rest with
    | nil =>
      rw [resolve]
      split
      · simp
      · split <;> simp
    | cons next others =>
      rw [resolve]
      split
      · exact ih (by simp) _
      · split
        · exact ih (by simp) _
        · exact ih (by simp) _
      · simp

/-! ## References -/

/-- What a text refers to from a URL of a scheme: the text, or what follows the same scheme and less than two
slashes. A text with another scheme or another server refers to nothing of that URL. -/
def reference? (scheme : String) (chars : List Char) : Option (List Char) :=
  match scheme? chars with
  | some (named, rest) =>
    if named = scheme ∧ (rest.takeWhile (isSlash true)).length < 2 then some rest else none
  | none => some chars

/-- A text that leads away from a context by its start: to another scheme or server, or to the top. -/
inductive Leaves (context : Url) (chars : List Char) : Prop where
  | foreign (away : reference? context.scheme chars = none)
  | rooted {c : Char} {rest : List Char} (refers : reference? context.scheme chars = some (c :: rest))
      (slash : isSlash true c = true)

/-- A text whose names lead out of the context that it starts from. -/
def Climbs (context : Url) (chars : List Char) : Prop :=
  ∃ rest, reference? context.scheme chars = some rest ∧
    climbs 0 (Url.names true (rest.takeWhile (!endsPath ·))) = true

/-- A URL of the same server that lies below a context, unless the names of a text climb out of it. -/
structure Reaches (context found : Url) (climbing : Prop) : Prop where
  origin : found.origin = context.origin
  path : climbing ∨ context.path.text.toList <+: found.path.text.toList

/-- A reference that does not start with a slash goes on from the context. -/
theorem Context.relative_reaches (context : Context url folder)
    (unrooted : ∀ c, chars.head? = some c → isSlash true c = false) :
    ∃ found, relative url chars = .ok found ∧
      Reaches url found (climbs 0 (Url.names true (chars.takeWhile (!endsPath ·))) = true) := by
  unfold relative
  split
  · exact ⟨_, rfl, rfl, .inr (List.prefix_refl _)⟩
  · exact ⟨_, rfl, rfl, .inr (List.prefix_refl _)⟩
  · exact ⟨_, rfl, rfl, .inr (List.prefix_refl _)⟩
  · next c rest _ _ =>
    rw [if_neg (by simp [unrooted c rfl])]
    refine ⟨_, rfl, rfl, ?_⟩
    have special : isSpecial url.origin.scheme = true := isSpecial_of_web context.scheme
    have folds : url.path.names.dropLast = folder ++ [] := by
      rw [context.path, List.append_nil]
      exact List.dropLast_concat
    cases stays : climbs 0 (Url.names true ((c :: rest).takeWhile (!endsPath ·))) with
    | true => exact .inl rfl
    | false =>
      right
      obtain ⟨first, others, went⟩ := List.exists_cons_of_ne_nil
        (resolve_ne_nil (names_ne_nil true ((c :: rest).takeWhile (!endsPath ·))) [])
      have path : (withTail url.origin url.path.names.dropLast (c :: rest)).path =
          .segments (folder ++ first :: others) := by
        rw [← went, ← resolve_append (Nat.zero_le _) stays, ← folds, ← special]
        simp only [withTail, List.span_eq_takeWhile_dropWhile]
        rfl
      rw [path, context.path, text_segments, text_segments, List.flatMap_append, List.flatMap_append,
        List.prefix_append_right_inj]
      simp

theorem Context.join_reaches (context : Context url folder) (text : String) :
    Leaves url (significant text) ∨
      ∃ found, url.join text = .ok found ∧ Reaches url found (Climbs url (significant text)) := by
  have special := isSpecial_of_web context.scheme
  have web : (url.scheme != "file") = true := by
    rcases context.scheme with scheme | scheme
    · rw [scheme]
      rfl
    · rw [scheme]
      rfl
  cases refers : reference? url.scheme (significant text) with
  | none => exact .inl (.foreign refers)
  | some chars =>
    by_cases rooted : ∃ c, chars.head? = some c ∧ isSlash true c = true
    · obtain ⟨c, first, slash⟩ := rooted
      obtain ⟨rest, rfl⟩ := List.head?_eq_some_iff.mp first
      exact .inl (.rooted refers slash)
    · right
      have joined : url.join text = relative url chars := by
        cases scheme : scheme? (significant text) with
        | none =>
          simp only [reference?, scheme] at refers
          cases refers
          simp only [Url.join, scheme, context.path]
        | some parts =>
          obtain ⟨named, rest⟩ := parts
          simp only [reference?, scheme] at refers
          split at refers
          · next same =>
            cases refers
            simp [Url.join, scheme, same.1, same.2, special, web]
          · cases refers
      obtain ⟨found, went, reaches⟩ := context.relative_reaches fun c first =>
        Bool.eq_false_iff.mpr fun slash => rooted ⟨c, first, slash⟩
      exact ⟨found, joined.trans went, reaches.origin, reaches.path.imp_left fun up => ⟨chars, refers, up⟩⟩

/-- An endpoint lies on the server of its context and below it, unless its path starts as an address of its
own or with a slash, or climbs out of the context. Slashes in front do not count. -/
theorem endpoint_below_unless_leaving {files : Files} {options : ConnectionOptions}
    {connection : Connection} (resolved : Connection.resolve files options = .ok connection)
    (path : String) :
    Leaves connection.context (significant (String.ofList (path.toList.dropWhile (· == '/')))) ∨
      ∃ url, connection.endpoint path = .ok url ∧ url.origin = connection.context.origin ∧
        (Climbs connection.context
            (significant (String.ofList (path.toList.dropWhile (· == '/')))) ∨
          connection.context.path.text.toList <+: url.path.text.toList) := by
  obtain ⟨folder, context⟩ := context_of_resolve resolved
  rcases context.join_reaches (String.ofList (path.toList.dropWhile (· == '/'))) with
    leaves | ⟨found, joined, reaches⟩
  · exact .inl leaves
  · exact .inr ⟨found, mapError_eq_ok_iff.mpr joined, reaches.origin, reaches.path⟩

/-- Steps up that stay below the context. -/
theorem endpoint_below_after_detour :
    let files : Files := ⟨fun _ => .error .notFound, fun _ => .error .notFound⟩
    let context : Url :=
      { scheme := "https", host := some (.ipv6 ⟨#v[0, 0, 0, 0, 0, 0, 0, 1]⟩)
        path := .segments ["api", ""] }
    let connection : Connection := ⟨context, none, true, .anonymous, 10⟩
    Connection.resolve files { serverUrl := "https://[::1]/api" } = .ok connection ∧
      ∃ url, connection.endpoint "//a/%2E./b?c" = .ok url ∧ url.origin = context.origin ∧
        "/api/".toList <+: url.path.text.toList := by
  intro files context connection
  have resolved : Connection.resolve files { serverUrl := "https://[::1]/api" } = .ok connection := by
    decide +kernel
  have refers : reference? "https"
      (significant (String.ofList ("//a/%2E./b?c".toList.dropWhile (· == '/')))) =
        some "a/%2E./b?c".toList := by decide
  refine ⟨resolved, ?_⟩
  rcases endpoint_below_unless_leaving resolved "//a/%2E./b?c" with
    (away | ⟨rooted, slash⟩) | ⟨url, went, origin, climbing | below⟩
  · cases refers.symm.trans away
  · cases refers.symm.trans rooted
    exact absurd slash (by decide)
  · obtain ⟨rest, same, climbing⟩ := climbing
    cases refers.symm.trans same
    exact absurd climbing (by decide)
  · exact ⟨url, went, origin, below⟩

/-- Paths whose endpoints lie outside the context: two steps above it, one on another server. -/
theorem endpoints_outside_context :
    let context : Url :=
      { scheme := "https", host := some (.ipv6 ⟨#v[0, 0, 0, 0, 0, 0, 0, 1]⟩)
        path := .segments ["api", ""] }
    let connection : Connection := ⟨context, none, true, .anonymous, 10⟩
    Connection.resolve ⟨fun _ => .error .notFound, fun _ => .error .notFound⟩
        { serverUrl := "https://[::1]/api" } = .ok connection ∧
      (connection.endpoint "../status").map (·.text) = .ok "https://[::1]/status" ∧
      (connection.endpoint "\\status").map (·.text) = .ok "https://[::1]/status" ∧
      (connection.endpoint "http://[::2]/status").map (·.text) = .ok "http://[::2]/status" :=
  ⟨by decide +kernel, by decide +kernel, by decide +kernel, by decide +kernel⟩

end EntitlementRules.Url
