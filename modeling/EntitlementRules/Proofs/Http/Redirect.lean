import EntitlementRules.Http.Redirect
import EntitlementRules.Proofs.Http.Sent

/-! Redirections: the chain of requests behind one that is followed, and what becomes of method and body on
the way. -/
namespace EntitlementRules.Http

open Exchange (Party Sent Sends)

variable {σ : Type} {request next : Request} {response : Response} {sents : List Sent} {left : Nat}
  {result : Except Failure Response}

/-- The requests that are sent for one request that may be redirected a number of times, and what comes of
it in the end. -/
inductive Chain : (left : Nat) → Request → List Sent → Except Failure Response → Prop where
  | barred {left : Nat} {request : Request}
      (foreign : request.url.scheme ≠ "http" ∧ request.url.scheme ≠ "https") :
      Chain left request [] (.error (.unsupportedScheme request.url.scheme))
  | failed {left : Nat} {request : Request} {failure : Failure} :
      Chain left request [⟨request, .error failure⟩] (.error failure)
  | answered {left : Nat} {request : Request} {response : Response}
      (final : request.next? response = none) :
      Chain left request [⟨request, .ok response⟩] (.ok response)
  | exhausted {request next : Request} {response : Response}
      (points : request.next? response = some next) :
      Chain 0 request [⟨request, .ok response⟩] (.error .tooManyRedirects)
  | redirected {left : Nat} {request next : Request} {response : Response} {sents : List Sent}
      {result : Except Failure Response} (points : request.next? response = some next)
      (later : Chain left next sents result) :
      Chain (left + 1) request (⟨request, .ok response⟩ :: sents) result

/-- What is sent for a request that is followed is a chain, whatever the responses. -/
theorem follow_chain (party : Party σ) (left : Nat) (request : Request) (state : σ) :
    ∃ sents result after, Sends party (follow left request) state sents result after ∧
      Chain left request sents result := by
  induction left using Nat.strongRecOn generalizing request state with
  | ind left ih =>
    rw [follow]
    by_cases foreign : request.url.scheme ≠ "http" ∧ request.url.scheme ≠ "https"
    · rw [if_pos foreign]
      exact ⟨_, _, _, .pure _, .barred foreign⟩
    · rw [if_neg foreign]
      cases brought : (party (.send request) state).1 with
      | error failure => exact ⟨_, _, _, .send_bind brought (.pure _), .failed⟩
      | ok response =>
        cases points : request.next? response with
        | none =>
          refine ⟨_, _, (party (.send request) state).2, .send_bind brought ?_, .answered points⟩
          simp only [points]
          exact .pure _
        | some next =>
          cases left with
          | zero =>
            refine ⟨_, _, (party (.send request) state).2, .send_bind brought ?_,
              .exhausted points⟩
            simp only [points]
            exact .pure _
          | succ left =>
            obtain ⟨sents, result, after, sends, chain⟩ :=
              ih left (Nat.lt_succ_self left) next (party (.send request) state).2
            refine ⟨_, result, after, .send_bind brought ?_, .redirected points chain⟩
            simp only [points]
            exact sends

/-- What was sent has brought a response with one of these statuses. -/
def AnsweredBy (statuses : List Nat) (sent : Sent) : Prop :=
  ∃ response, sent.outcome = .ok response ∧ response.status ∈ statuses

theorem redirectedBy?_eq_some {status : Nat} (redirected : request.redirectedBy? status = some next) :
    (status ∈ request.method.convertingStatuses ∧ next.method = .get ∧ next.body = none) ∨
      (status ∉ request.method.convertingStatuses ∧ status ∈ [301, 302, 307, 308] ∧ next = request) := by
  unfold Request.redirectedBy? at redirected
  split at redirected
  · next converts =>
    cases redirected
    exact .inl ⟨converts, rfl, rfl⟩
  · next plain =>
    split at redirected
    · next keeps =>
      cases redirected
      exact .inr ⟨plain, keeps, rfl⟩
    · cases redirected

theorem redirectedBy?_redirects {status : Nat} (redirected : request.redirectedBy? status = some next) :
    300 ≤ status ∧ status < 400 := by
  rcases redirectedBy?_eq_some redirected with ⟨converts, -⟩ | ⟨-, keeps, -⟩
  · cases method : request.method <;> simp [method, Method.convertingStatuses] at converts <;> omega
  · simp at keeps
    omega

/-- What is sent again is the request as the status changes it, to where the response points. -/
theorem next?_eq_some (points : request.next? response = some next) :
    ∃ changed location, request.redirectedBy? response.status = some changed ∧
      response.location = some location ∧ next.method = changed.method ∧ next.body = changed.body := by
  obtain ⟨changed, redirected, points⟩ := Option.bind_eq_some_iff.mp points
  obtain ⟨location, pointed, points⟩ := Option.bind_eq_some_iff.mp points
  obtain ⟨url, -, points⟩ := Option.bind_eq_some_iff.mp points
  cases points
  exact ⟨changed, location, redirected, pointed, rfl, rfl⟩

theorem converted_or_kept (points : request.next? response = some next) :
    (AnsweredBy request.method.convertingStatuses ⟨request, .ok response⟩ ∧
        next.method = .get ∧ next.body = none) ∨
      (¬ AnsweredBy request.method.convertingStatuses ⟨request, .ok response⟩ ∧
        next.method = request.method ∧ next.body = request.body) := by
  obtain ⟨changed, _, redirected, -, method, body⟩ := next?_eq_some points
  rw [method, body]
  rcases redirectedBy?_eq_some redirected with ⟨converts, same⟩ | ⟨plain, -, rfl⟩
  · exact .inl ⟨⟨response, rfl, converts⟩, same⟩
  · refine .inr ⟨?_, rfl, rfl⟩
    rintro ⟨_, ⟨⟩, converts⟩
    exact plain converts

theorem Chain.last_of_query (chain : Chain left request sents (.ok response))
    (query : request.method = .get ∧ request.body = none) :
    ∃ before last, sents = before ++ [⟨last, .ok response⟩] ∧ before.length ≤ left ∧
      last.method = .get ∧ last.body = none := by
  generalize brought : Except.ok response = result at chain
  induction chain with
  | barred _ => cases brought
  | failed => cases brought
  | exhausted _ => cases brought
  | @answered _ request _ _ =>
    cases brought
    exact ⟨[], request, rfl, Nat.zero_le _, query⟩
  | @redirected _ request next redirect _ _ points _ ih =>
    have still : next.method = .get ∧ next.body = none := by
      obtain ⟨-, converted⟩ | ⟨-, method, body⟩ := converted_or_kept points
      · exact converted
      · rwa [method, body]
    obtain ⟨before, last, rfl, short, same⟩ := ih still brought
    exact ⟨⟨request, .ok redirect⟩ :: before, last, rfl, Nat.succ_le_succ short, same⟩

/-- The request that a chain ends with is a query without a body where any response on the way turned the
first one into that, and else has the method and the body that the first one had. -/
theorem Chain.last (chain : Chain left request sents (.ok response)) :
    ∃ before last, sents = before ++ [⟨last, .ok response⟩] ∧ before.length ≤ left ∧
      ((∀ sent ∈ before, ¬ AnsweredBy request.method.convertingStatuses sent) →
        last.method = request.method ∧ last.body = request.body) ∧
      ((∃ sent ∈ before, AnsweredBy request.method.convertingStatuses sent) →
        last.method = .get ∧ last.body = none) := by
  generalize brought : Except.ok response = result at chain
  induction chain with
  | barred _ => cases brought
  | failed => cases brought
  | exhausted _ => cases brought
  | @answered _ request _ _ =>
    cases brought
    refine ⟨[], request, rfl, Nat.zero_le _, fun _ => ⟨rfl, rfl⟩, ?_⟩
    rintro ⟨_, ⟨⟩, _⟩
  | @redirected _ request next redirect _ _ points later ih =>
    subst brought
    obtain ⟨converts, query⟩ | ⟨plain, method, body⟩ := converted_or_kept points
    · obtain ⟨before, last, rfl, short, same⟩ := later.last_of_query query
      refine ⟨⟨request, .ok redirect⟩ :: before, last, rfl, Nat.succ_le_succ short, ?_, fun _ => same⟩
      exact fun none => absurd converts (none _ (.head _))
    · -- The next request has the method of this one, so the same statuses turn it into a query.
      obtain ⟨before, last, rfl, short, kept, converted⟩ := ih rfl
      rw [method, body] at kept
      rw [method] at converted
      refine ⟨⟨request, .ok redirect⟩ :: before, last, rfl, Nat.succ_le_succ short,
        fun none => kept fun sent member => none sent (.tail _ member), ?_⟩
      rintro ⟨sent, member, converts⟩
      cases member with
      | head => exact absurd converts plain
      | tail _ member => exact converted ⟨sent, member, converts⟩

/-- What was sent has brought a response that points nowhere else. -/
def Final (sent : Sent) : Prop :=
  ∃ response, sent.outcome = .ok response ∧
    (300 ≤ response.status → response.status < 400 → response.location = none)

theorem Final.next?_eq_none (final : Final ⟨request, .ok response⟩) : request.next? response = none := by
  obtain ⟨_, ⟨⟩, settled⟩ := final
  cases points : request.next? response with
  | none => rfl
  | some next =>
    obtain ⟨changed, location, redirected, pointed, -⟩ := next?_eq_some points
    have redirects := redirectedBy?_redirects redirected
    rw [settled redirects.1 redirects.2] at pointed
    cases pointed

theorem Chain.single (chain : Chain left request sents result)
    (served : request.url.scheme = "http" ∨ request.url.scheme = "https")
    (finals : ∀ sent ∈ sents, Final sent) :
    ∃ response, sents = [⟨request, .ok response⟩] ∧ result = .ok response := by
  cases chain with
  | barred foreign => exact (served.elim foreign.1 foreign.2).elim
  | failed =>
    obtain ⟨_, same, -⟩ := finals _ (.head _)
    cases same
  | answered _ => exact ⟨_, rfl, rfl⟩
  | exhausted points => cases points.symm.trans (finals _ (.head _)).next?_eq_none
  | redirected points _ => cases points.symm.trans (finals _ (.head _)).next?_eq_none

/-! ## Descent -/

/-- The requests that redirections can make of one. -/
inductive Descends (first : Request) : Request → Prop where
  | first : Descends first first
  | redirected {request next : Request} {response : Response} (before : Descends first request)
      (points : request.next? response = some next) : Descends first next

/-- A redirection adds no fields. -/
theorem headers_next? (points : request.next? response = some next) : next.headers ⊆ request.headers := by
  obtain ⟨changed, redirected, points⟩ := Option.bind_eq_some_iff.mp points
  obtain ⟨location, -, points⟩ := Option.bind_eq_some_iff.mp points
  obtain ⟨url, -, points⟩ := Option.bind_eq_some_iff.mp points
  cases points
  have kept : changed.headers ⊆ request.headers := by
    unfold Request.redirectedBy? at redirected
    split at redirected
    · cases redirected
      exact List.filter_sublist.subset
    · split at redirected
      · cases redirected
        exact List.Subset.refl _
      · cases redirected
  unfold Request.aimedAt
  dsimp only
  split
  · exact kept
  · exact List.Subset.trans (List.filter_sublist.subset) kept

theorem Descends.headers {first : Request} (descends : Descends first request) :
    request.headers ⊆ first.headers := by
  induction descends with
  | first => exact List.Subset.refl _
  | redirected _ points ih => exact List.Subset.trans (headers_next? points) ih

/-- What a chain sends descends from what its first request descends from. -/
theorem Chain.descends {first : Request} (chain : Chain left request sents result)
    (descends : Descends first request) {sent : Sent} (member : sent ∈ sents) :
    Descends first sent.request := by
  induction chain with
  | barred _ => cases member
  | failed =>
    cases List.mem_singleton.mp member
    exact descends
  | answered _ =>
    cases List.mem_singleton.mp member
    exact descends
  | exhausted _ =>
    cases List.mem_singleton.mp member
    exact descends
  | redirected points _ ih =>
    cases member with
    | head => exact descends
    | tail _ later => exact ih (descends.redirected points) later

end EntitlementRules.Http
