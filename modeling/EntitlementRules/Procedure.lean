/-! Procedures: computations that ask their surroundings for things one after another. What answers them
is left open, so one procedure runs against a real network, a simulated server or any other party. -/
namespace EntitlementRules

/-- What a procedure may ask for, and what each request is answered with. -/
structure Interface where
  Request : Type
  Answer : Request → Type

/-- A result, or a request and what is done with its answer. -/
inductive Procedure (I : Interface) (α : Type) : Type where
  | done (value : α)
  | ask (request : I.Request) (next : I.Answer request → Procedure I α)

namespace Procedure

variable {I J : Interface} {α β : Type}

def bind (first : Procedure I α) (next : α → Procedure I β) : Procedure I β :=
  match first with
  | done value => next value
  | ask request rest => ask request fun answer => bind (rest answer) next

instance : Monad (Procedure I) where
  pure := done
  bind := bind

def request (request : I.Request) : Procedure I (I.Answer request) := ask request done

@[simp] theorem pure_eq (value : α) : (pure value : Procedure I α) = done value := rfl

@[simp] theorem done_bind (value : α) (next : α → Procedure I β) :
    (done value >>= next) = next value := rfl

@[simp] theorem ask_bind (request : I.Request) (rest : I.Answer request → Procedure I α)
    (next : α → Procedure I β) :
    (ask request rest >>= next) = ask request fun answer => rest answer >>= next := rfl

/-- Runs a procedure in a monad that answers its requests. -/
def run {m : Type → Type} [Monad m] (answer : (request : I.Request) → m (I.Answer request)) :
    Procedure I α → m α
  | done value => pure value
  | ask request next => do run answer (next (← answer request))

/-- Runs a procedure against a party with a state. -/
def runWith {σ : Type} (answer : (request : I.Request) → σ → I.Answer request × σ) :
    Procedure I α → σ → α × σ
  | done value, state => (value, state)
  | ask request next, state =>
    runWith answer (next (answer request state).1) (answer request state).2

/-- A procedure with each request replaced by a procedure over another interface. -/
def expand (answer : (request : I.Request) → Procedure J (I.Answer request)) :
    Procedure I α → Procedure J α
  | done value => done value
  | ask request next => (answer request).bind fun given => expand answer (next given)

end Procedure

end EntitlementRules
