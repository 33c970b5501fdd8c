import EntitlementRules.Procedure
import Mathlib.Data.List.Forall2

/-! One computation after another: what a success came through, and how a procedure runs on. -/
namespace EntitlementRules

variable {ε δ α β : Type}

theorem bind_eq_ok_iff {first : Except ε α} {next : α → Except ε β} {result : β} :
    (first >>= next) = .ok result ↔ ∃ value, first = .ok value ∧ next value = .ok result := by
  cases first with
  | error refusal => simp [bind, Except.bind]
  | ok value => simp [bind, Except.bind]

/-- One computation after another fails where one of them does. -/
theorem bind_fails_iff {first : Except ε α} {next : α → Except ε β} :
    (∃ refusal, (first >>= next) = .error refusal) ↔
      (∃ refusal, first = .error refusal) ∨
        ∃ value, first = .ok value ∧ ∃ refusal, next value = .error refusal := by
  cases first with
  | error refusal => simp [bind, Except.bind]
  | ok value => simp [bind, Except.bind]

theorem mapError_eq_ok_iff {first : Except ε α} {reword : ε → δ} {result : α} :
    first.mapError reword = .ok result ↔ first = .ok result := by
  cases first with
  | error refusal =>
    change Except.error (reword refusal) = .ok result ↔ _
    simp
  | ok value =>
    change Except.ok value = .ok result ↔ _
    simp

/-- What goes on unless it is stopped has gone on where it succeeds. -/
theorem ite_error_eq_ok_iff {stopped : Prop} [Decidable stopped] {refusal : ε} {rest : Except ε α} {result : α} :
    (if stopped then .error refusal else rest) = .ok result ↔ ¬ stopped ∧ rest = .ok result := by
  split <;> simp_all

/-- Computations on all items succeed where each of them does. -/
theorem mapM_eq_some_iff {compute : α → Option β} {items : List α} {results : List β} :
    items.mapM compute = some results ↔ List.Forall₂ (compute · = some ·) items results := by
  induction items generalizing results with
  | nil =>
    rw [List.mapM_nil, List.forall₂_nil_left_iff]
    exact ⟨fun same => (Option.some.inj same).symm, fun same => congrArg some same.symm⟩
  | cons item rest ih =>
    simp only [List.mapM_cons, List.forall₂_cons_left_iff, Option.bind_eq_bind, Option.bind_eq_some_iff,
      Option.pure_def, Option.some.injEq, ih]
    exact ⟨fun ⟨value, first, others, later, same⟩ => ⟨value, others, first, later, same.symm⟩,
      fun ⟨value, others, first, later, same⟩ => ⟨value, first, others, later, same.symm⟩⟩

/-- Where a computation undoes a function, items have the results that they are made from. -/
theorem mapM_eq_some_map_iff {compute : α → Option β} {make : β → α} {items : List α} {results : List β}
    (undoes : ∀ item result, compute item = some result ↔ item = make result) :
    items.mapM compute = some results ↔ items = results.map make := by
  simp only [mapM_eq_some_iff, undoes, ← List.forall₂_map_right_iff, List.forall₂_eq_eq_eq]

/-- The second procedure runs against what the first one left. -/
theorem Procedure.runWith_bind {I : Interface} {σ : Type}
    (answer : (request : I.Request) → σ → I.Answer request × σ) (first : Procedure I α)
    (next : α → Procedure I β) (state : σ) :
    (first >>= next).runWith answer state =
      (next (first.runWith answer state).1).runWith answer (first.runWith answer state).2 := by
  induction first generalizing state with
  | done value => rfl
  | ask request rest ih => exact ih _ _

namespace Procedure

variable {I J : Interface} {asks : I.Request → Prop} {told : (request : I.Request) → I.Answer request → Prop}
  {gives : α → Prop}

/-- As long as a procedure is told only what it may be told, it asks only for what is allowed and ends only
with what is. -/
inductive Always (asks : I.Request → Prop) (told : (request : I.Request) → I.Answer request → Prop)
    (gives : α → Prop) : Procedure I α → Prop where
  | done {value : α} (given : gives value) : Always asks told gives (done value)
  | ask {request : I.Request} {next : I.Answer request → Procedure I α} (allowed : asks request)
      (later : ∀ answer, told request answer → Always asks told gives (next answer)) :
      Always asks told gives (ask request next)

theorem Always.bind {first : Procedure I α} {next : α → Procedure I β} {after : β → Prop}
    (opening : first.Always asks told gives)
    (closing : ∀ value, gives value → (next value).Always asks told after) :
    (first >>= next).Always asks told after := by
  induction opening with
  | done given => exact closing _ given
  | ask allowed _ ih => exact .ask allowed ih

/-- Requests that are answered by procedures leave what the whole ends with. -/
theorem Always.expand {answer : (request : I.Request) → Procedure J (I.Answer request)}
    {allows : J.Request → Prop} {tells : (request : J.Request) → J.Answer request → Prop}
    {procedure : Procedure I α} (always : procedure.Always asks told gives)
    (each : ∀ request, asks request → (answer request).Always allows tells (told request)) :
    (procedure.expand answer).Always allows tells gives := by
  induction always with
  | done given => exact .done given
  | ask allowed _ ih => exact (each _ allowed).bind ih

/-- A party that tells no more than may be told is left with what is allowed. -/
theorem Always.runWith {σ : Type} {answer : (request : I.Request) → σ → I.Answer request × σ}
    {procedure : Procedure I α} (always : procedure.Always asks told gives)
    (tells : ∀ request state, told request (answer request state).1) (state : σ) :
    gives (procedure.runWith answer state).1 := by
  induction always generalizing state with
  | done given => exact given
  | ask _ _ ih => exact ih _ (tells _ _) _

end Procedure

end EntitlementRules
