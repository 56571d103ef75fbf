/-!
# Programs that ask

A program is a tree: it ends with a result, gives up for good, or asks a question and goes on with
the reply. What may be asked, and what kind of reply a question has, is an `Interface`. The tree
says nothing about who answers: `run` lets a stateful world answer, and `handle` answers every
question by a program over another interface.

The tree is inductive, so every path through it ends, whatever the replies are. A wait with a
deadline is such a program because the replies to questions about time carry the proof that time
moves on.
-/

set_option autoImplicit false

namespace PhasedInstall

/-- What may be asked, and the type of each reply. -/
structure Interface where
  Request : Type
  Reply : Request → Type

/-- A program over an interface. -/
inductive Program (I : Interface) (α : Type) where
  | done (result : α)
  | crash
  | ask (request : I.Request) (next : I.Reply request → Program I α)

namespace Program

variable {I J : Interface} {α β γ σ : Type}

/-- Runs one program and then the one that its result picks. -/
def bind : Program I α → (α → Program I β) → Program I β
  | done a, f => f a
  | crash, _ => crash
  | ask r next, f => ask r fun reply => (next reply).bind f

instance : Monad (Program I) where
  pure := done
  bind := bind

@[simp] theorem pure_eq_done (a : α) : (pure a : Program I α) = done a := rfl

@[simp] theorem done_bind (a : α) (f : α → Program I β) : (done a >>= f) = f a := rfl

@[simp] theorem crash_bind (f : α → Program I β) : (crash >>= f) = crash := rfl

@[simp] theorem ask_bind (r : I.Request) (next : I.Reply r → Program I α) (f : α → Program I β) :
    (ask r next >>= f) = ask r fun reply => next reply >>= f := rfl

instance : LawfulMonad (Program I) := by
  refine LawfulMonad.mk' _ ?_ ?_ ?_
  · intro α p
    induction p with
    | done a => rfl
    | crash => rfl
    | ask r next ih => exact congrArg (ask r) (funext ih)
  · intro α β a f
    rfl
  · intro α β γ p f g
    induction p with
    | done a => rfl
    | crash => rfl
    | ask r next ih => exact congrArg (ask r) (funext ih)

/-- Asks one question and returns the reply. -/
def request (r : I.Request) : Program I (I.Reply r) := ask r done

/-- Lets a world with a state answer. The result is absent if the program gave up; the state is
the one that the last answer left. -/
def run (answer : (r : I.Request) → σ → I.Reply r × σ) : Program I α → σ → Option α × σ
  | done a, s => (some a, s)
  | crash, s => (none, s)
  | ask r next, s => (next (answer r s).1).run answer (answer r s).2

/-- Answers every question by a program over another interface. -/
def handle (answer : (r : I.Request) → Program J (I.Reply r)) : Program I α → Program J α
  | done a => done a
  | crash => crash
  | ask r next => (answer r).bind fun reply => (next reply).handle answer

@[simp] theorem run_done (answer : (r : I.Request) → σ → I.Reply r × σ) (a : α) (s : σ) :
    (done a : Program I α).run answer s = (some a, s) := rfl

@[simp] theorem run_crash (answer : (r : I.Request) → σ → I.Reply r × σ) (s : σ) :
    (crash : Program I α).run answer s = (none, s) := rfl

/-- Running one program after the other is running both. -/
theorem run_bind (answer : (r : I.Request) → σ → I.Reply r × σ) (p : Program I α)
    (f : α → Program I β) (s : σ) :
    (p >>= f).run answer s =
      match p.run answer s with
      | (some a, s) => (f a).run answer s
      | (none, s) => (none, s) := by
  induction p generalizing s with
  | done a => rfl
  | crash => rfl
  | ask r next ih => exact ih _ _

end Program

end PhasedInstall
