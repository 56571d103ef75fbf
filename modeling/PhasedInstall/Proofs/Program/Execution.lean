import PhasedInstall.Program.Basic

/-!
# Executions in a world of some conduct

`Program.run` lets one world answer, and that world is a function. Most of what is to be said about
the operator holds whatever the cluster does within some bounds, so the bounds are what a statement
should name: a `Conduct` says which replies a request may get in a state and which states may
follow. `Exec` collects the ends that a program can come to under a conduct, and every world that
keeps to the conduct produces such an end (`exec_run`).

`Ensures` is the same thing read backwards, by recursion on the program. It is what proofs
compute with: a bind splits at the first program's ends (`ensures_bind`), so a program is walked
through in the order in which it runs, and no proof ever looks at a tree.

`Only` is about the requests alone. Much of a pass does not touch what a statement is about, and
`Only.keeps` says so once for every conduct.
-/

set_option autoImplicit false

namespace PhasedInstall

/-- What a world may do: the replies it may give to a request, with the states that may follow. -/
abbrev Conduct (I : Interface) (σ : Type) := (r : I.Request) → σ → I.Reply r → σ → Prop

namespace Program

variable {I : Interface} {α β σ : Type} {R : Conduct I σ} {s s' : σ}

/-- The ends that a program can come to. There is no result where the program gave up. -/
inductive Exec (R : Conduct I σ) : Program I α → σ → Option α → σ → Prop
  | done (a : α) (s : σ) : Exec R (done a) s (some a) s
  | crash (s : σ) : Exec R crash s none s
  | ask {r : I.Request} {next : I.Reply r → Program I α} {s s₁ s₂ : σ} {reply : I.Reply r}
      {result : Option α} : R r s reply s₁ → Exec R (next reply) s₁ result s₂ →
      Exec R (ask r next) s result s₂

/-- A world that keeps to a conduct runs a program to one of its ends. -/
theorem exec_run {answer : (r : I.Request) → σ → I.Reply r × σ}
    (keeps : ∀ r s, R r s (answer r s).1 (answer r s).2) (p : Program I α) (s : σ) :
    Exec R p s (p.run answer s).1 (p.run answer s).2 := by
  induction p generalizing s with
  | done a => exact .done a s
  | crash => exact .crash s
  | ask r next ih => exact .ask (keeps r s) (ih _ _)

/-- Every end of the program satisfies `post`. -/
def Ensures (R : Conduct I σ) : Program I α → σ → (Option α → σ → Prop) → Prop
  | done a, s, post => post (some a) s
  | crash, s, post => post none s
  | ask r next, s, post => ∀ reply s', R r s reply s' → (next reply).Ensures R s' post

/-- **`Ensures` says what it is meant to say**: it speaks of exactly the ends in `Exec`. -/
theorem ensures_iff {p : Program I α} {post : Option α → σ → Prop} :
    p.Ensures R s post ↔ ∀ result s', Exec R p s result s' → post result s' := by
  induction p generalizing s with
  | done a =>
    refine ⟨fun h result s' e => ?_, fun h => h _ _ (.done a s)⟩
    cases e
    exact h
  | crash =>
    refine ⟨fun h result s' e => ?_, fun h => h _ _ (.crash s)⟩
    cases e
    exact h
  | ask r next ih =>
    constructor
    · intro h result s' e
      cases e with
      | ask step rest => exact (ih _).1 (h _ _ step) _ _ rest
    · intro h reply s₁ step
      exact (ih reply).2 fun result s' rest => h result s' (.ask step rest)

theorem Exec.ensures {p : Program I α} {post : Option α → σ → Prop} {result : Option α}
    (e : Exec R p s result s') (h : p.Ensures R s post) : post result s' :=
  ensures_iff.1 h _ _ e

theorem Ensures.mono {p : Program I α} {post post' : Option α → σ → Prop}
    (h : p.Ensures R s post) (weaker : ∀ result s', post result s' → post' result s') :
    p.Ensures R s post' :=
  ensures_iff.2 fun result s' e => weaker result s' (e.ensures h)

/-- A bind ends where the second program ends, or where the first one gave up. -/
theorem ensures_bind {p : Program I α} {f : α → Program I β} {post : Option β → σ → Prop} :
    (p >>= f).Ensures R s post ↔
      p.Ensures R s fun result s' =>
        match result with
        | some a => (f a).Ensures R s' post
        | none => post none s' := by
  induction p generalizing s with
  | done a => rfl
  | crash => rfl
  | ask r next ih =>
    simp only [ask_bind, Ensures]
    exact forall_congr' fun reply => forall_congr' fun s' => imp_congr_right fun _ => ih reply

/-- What every answer keeps, a whole program keeps. -/
theorem ensures_of_step {inv : σ → Prop}
    (keeps : ∀ r s reply s', R r s reply s' → inv s → inv s') (p : Program I α) (hs : inv s) :
    p.Ensures R s fun _ s' => inv s' := by
  induction p generalizing s with
  | done a => exact hs
  | crash => exact hs
  | ask r next ih =>
    intro reply s' step
    exact ih reply (keeps r s reply s' step hs)

/-- A statement about part of the state holds in every world whose conduct, seen in that part, is
the one that the statement is about. -/
theorem Ensures.project {τ : Type} {R' : Conduct I τ} {view : τ → σ}
    (refines : ∀ r t reply t', R' r t reply t' → R r (view t) reply (view t')) {p : Program I α}
    {t : τ} {post : Option α → σ → Prop} (h : p.Ensures R (view t) post) :
    p.Ensures R' t fun result t' => post result (view t') := by
  induction p generalizing t with
  | done a => exact h
  | crash => exact h
  | ask r next ih =>
    intro reply t' step
    exact ih reply (h reply (view t') (refines r t reply t' step))

/-- A world whose conduct, seen in part of its state, keeps to another one comes to an end of that
other one. -/
theorem Exec.view {τ : Type} {R' : Conduct I τ} (view : τ → σ)
    (refines : ∀ r t reply t', R' r t reply t' → R r (view t) reply (view t')) {p : Program I α}
    {t t' : τ} {result : Option α} (e : Exec R' p t result t') :
    Exec R p (view t) result (view t') := by
  induction e with
  | done a t => exact .done a (view t)
  | crash t => exact .crash (view t)
  | ask step _ ih => exact .ask (refines _ _ _ _ step) ih

/-- A statement holds in every world that keeps within the conduct that it is about. -/
theorem Ensures.within {R' : Conduct I σ}
    (narrower : ∀ r s reply s', R' r s reply s' → R r s reply s') {p : Program I α}
    {post : Option α → σ → Prop} (h : p.Ensures R s post) : p.Ensures R' s post := by
  have refines : ∀ r s reply s', R' r s reply s' → R r (id s) reply (id s') := narrower
  exact Ensures.project refines h

/-! ## The requests of a program -/

/-- Every request that the program may ask satisfies `P`, whatever the replies are. -/
def Only (P : I.Request → Prop) : Program I α → Prop
  | done _ => True
  | crash => True
  | ask r next => P r ∧ ∀ reply, (next reply).Only P

theorem Only.bind {P : I.Request → Prop} {p : Program I α} {f : α → Program I β}
    (hp : p.Only P) (hf : ∀ a, (f a).Only P) : (p >>= f).Only P := by
  induction p with
  | done a => exact hf a
  | crash => trivial
  | ask r next ih => exact ⟨hp.1, fun reply => ih reply (hp.2 reply)⟩

theorem Only.mono {P Q : I.Request → Prop} {p : Program I α} (hp : p.Only P)
    (weaker : ∀ r, P r → Q r) : p.Only Q := by
  induction p with
  | done a => trivial
  | crash => trivial
  | ask r next ih => exact ⟨weaker r hp.1, fun reply => ih reply (hp.2 reply)⟩

/-- What every answer to a request of some kind keeps, a program keeps that asks no others. -/
theorem Only.ensures {P : I.Request → Prop} {inv : σ → Prop} {p : Program I α} (hp : p.Only P)
    (keeps : ∀ r s reply s', P r → R r s reply s' → inv s → inv s') (hs : inv s) :
    p.Ensures R s fun _ s' => inv s' := by
  induction p generalizing s with
  | done a => exact hs
  | crash => exact hs
  | ask r next ih =>
    intro reply s' step
    exact ih reply (hp.2 reply) (keeps r s reply s' hp.1 step hs)

/-- A program that asks only requests under which nothing changes changes nothing. -/
theorem Only.keeps {P : I.Request → Prop} {p : Program I α} (hp : p.Only P)
    (still : ∀ r s reply s', P r → R r s reply s' → s' = s) (s : σ) :
    p.Ensures R s fun _ s' => s' = s := by
  induction p generalizing s with
  | done a => rfl
  | crash => rfl
  | ask r next ih =>
    intro reply s' step
    obtain rfl := still r s reply s' hp.1 step
    exact ih reply (hp.2 reply) s'

end Program

end PhasedInstall
