import PhasedInstall.Proofs.Program.Execution

/-!
# What was said

Some properties are about the questions of a program in their order: that one kind of question
comes before another, or only after a certain reply. For these the world needs no state of its own.
`heard` is the conduct that allows every reply and writes down what is said, so an execution under
`heard` from the empty transcript is the program together with any sequence of answers at all.

`Tells` reads such executions part by part. The transcript of a bind is the transcript of its first
program followed by that of its second (`Tells.bind`), so a statement about a transcript is put
together in the order in which the program runs.
-/

set_option autoImplicit false

namespace PhasedInstall

/-- A question with its reply. -/
structure Exchange (I : Interface) where
  request : I.Request
  reply : I.Reply request

/-- What was said, in order. -/
abbrev Transcript (I : Interface) := List (Exchange I)

/-- Every reply is possible, and everything is written down. -/
def heard {I : Interface} : Conduct I (Transcript I) :=
  fun r before reply after => after = before ++ [⟨r, reply⟩]

/-- The same conduct, with everything written down. -/
def Conduct.recorded {I : Interface} {σ : Type} (R : Conduct I σ) :
    Conduct I (σ × Transcript I) :=
  fun r s reply s' => R r s.1 reply s'.1 ∧ heard r s.2 reply s'.2

/-- A world that knows what was said before answers, and everything is written down. -/
def listen {I : Interface} (answer : Transcript I → (r : I.Request) → I.Reply r) (r : I.Request)
    (before : Transcript I) : I.Reply r × Transcript I :=
  (answer before r, before ++ [⟨r, answer before r⟩])

/-- A world with a state answers, and everything is written down. -/
def recording {I : Interface} {σ : Type} (answer : (r : I.Request) → σ → I.Reply r × σ)
    (r : I.Request) (s : σ × Transcript I) : I.Reply r × σ × Transcript I :=
  ((answer r s.1).1, (answer r s.1).2, s.2 ++ [⟨r, (answer r s.1).1⟩])

namespace Program

variable {I : Interface} {α β : Type} {post : Option α → Transcript I → Prop}

/-- However the program is answered, its end and what was said until then satisfy `post`. -/
def Tells (p : Program I α) (post : Option α → Transcript I → Prop) : Prop :=
  ∀ before, p.Ensures heard before fun result after =>
    ∃ said, after = before ++ said ∧ post result said

theorem Tells.exec {p : Program I α} (h : p.Tells post) {result : Option α} {said : Transcript I}
    (e : Exec heard p [] result said) : post result said := by
  obtain ⟨own, same, holds⟩ := e.ensures (h [])
  rw [List.nil_append] at same
  rw [same]
  exact holds

/-- What was said before makes no difference. -/
theorem Exec.restart {p : Program I α} {before after : Transcript I} {result : Option α}
    (e : Exec heard p before result after) :
    ∃ said, after = before ++ said ∧ ∀ start, Exec heard p start result (start ++ said) := by
  induction p generalizing before with
  | done a =>
    cases e
    refine ⟨[], (List.append_nil _).symm, fun start => ?_⟩
    rw [List.append_nil]
    exact .done a start
  | crash =>
    cases e
    refine ⟨[], (List.append_nil _).symm, fun start => ?_⟩
    rw [List.append_nil]
    exact .crash start
  | ask r next ih =>
    cases e with
    | @ask _ _ _ _ _ reply _ step rest =>
      obtain rfl := step
      obtain ⟨said, rfl, again⟩ := ih reply rest
      refine ⟨⟨r, reply⟩ :: said, List.append_assoc .., fun start => ?_⟩
      have rest' := again (start ++ [⟨r, reply⟩])
      rw [List.append_assoc] at rest'
      exact .ask rfl rest'

/-- **What is said decides how a program ends.** Two executions whose transcripts can be continued
to the same one are the same: neither stops where the other goes on. -/
theorem Exec.unique {p : Program I α} {before after after' rest rest' : Transcript I}
    {result result' : Option α} (e : Exec heard p before result after)
    (e' : Exec heard p before result' after') (same : after ++ rest = after' ++ rest') :
    result = result' ∧ after = after' := by
  induction p generalizing before with
  | done a =>
    cases e
    cases e'
    exact ⟨rfl, rfl⟩
  | crash =>
    cases e
    cases e'
    exact ⟨rfl, rfl⟩
  | ask r next ih =>
    cases e with
    | @ask _ _ _ _ _ reply _ step run =>
      cases e' with
      | @ask _ _ _ _ _ reply' _ step' run' =>
        obtain rfl := step
        obtain rfl := step'
        -- Both transcripts name the reply to the first question, so it is the same one.
        obtain ⟨said, rfl, -⟩ := run.restart
        obtain ⟨said', rfl, -⟩ := run'.restart
        have first : reply = reply' := by
          simp only [List.append_assoc, List.append_cancel_left_eq, List.cons_append,
            List.cons.injEq, Exchange.mk.injEq, heq_eq_eq, true_and] at same
          exact same.1
        subst first
        exact ih reply run run'

/-- All there is to tell about a program is how it can be executed. -/
theorem tells_exec (p : Program I α) : p.Tells fun result said => Exec heard p [] result said := by
  intro before
  refine ensures_iff.2 fun result after e => ?_
  obtain ⟨said, same, again⟩ := e.restart
  exact ⟨said, same, again []⟩

theorem exec_listen (answer : Transcript I → (r : I.Request) → I.Reply r) (p : Program I α) :
    Exec heard p [] (p.run (listen answer) []).1 (p.run (listen answer) []).2 :=
  exec_run (fun _ _ => rfl) p []

theorem exec_recording {σ : Type} {R : Conduct I σ} {answer : (r : I.Request) → σ → I.Reply r × σ}
    (keeps : ∀ r s, R r s (answer r s).1 (answer r s).2) (p : Program I α)
    (s : σ × Transcript I) :
    Exec R.recorded p s (p.run (recording answer) s).1 (p.run (recording answer) s).2 :=
  exec_run (fun r s => ⟨keeps r s.1, rfl⟩) p s

section
variable {σ : Type} {R : Conduct I σ} {p : Program I α} {s s' : σ} {result : Option α}

/-- What there is to tell about a program is told in a world with a state as well. -/
theorem Tells.recorded (h : p.Tells post) {said : Transcript I}
    (e : Exec R.recorded p (s, []) result (s', said)) : post result said := by
  have refines : ∀ r (t : σ × Transcript I) reply t', R.recorded r t reply t' →
      heard r t.2 reply t'.2 := fun _ _ _ _ step => step.2
  obtain ⟨own, same, holds⟩ := e.ensures (Ensures.project refines (t := (s, [])) (h []))
  obtain rfl : said = own := same
  exact holds

/-- That it is written down what is said makes no difference to the state. -/
theorem Ensures.recorded {post : Option α → σ → Prop} (h : p.Ensures R s post)
    {before after : Transcript I} (e : Exec R.recorded p (s, before) result (s', after)) :
    post result s' := by
  have refines : ∀ r (t : σ × Transcript I) reply t', R.recorded r t reply t' →
      R r t.1 reply t'.1 := fun _ _ _ _ step => step.1
  exact e.ensures (Ensures.project refines (t := (s, before)) h)

end

/-! ## What a world goes through -/

section
variable {σ : Type} {R : Conduct I σ} {s s' : σ} {said more : Transcript I}

/-- The states between which a world may move while something is said. -/
inductive Leads (R : Conduct I σ) : σ → Transcript I → σ → Prop
  | nothing (s : σ) : Leads R s [] s
  | cons {r : I.Request} {reply : I.Reply r} {s s₁ s₂ : σ} {rest : Transcript I} :
      R r s reply s₁ → Leads R s₁ rest s₂ → Leads R s (⟨r, reply⟩ :: rest) s₂

theorem leads_append :
    Leads R s (said ++ more) s' ↔ ∃ s₁, Leads R s said s₁ ∧ Leads R s₁ more s' := by
  constructor
  · intro h
    induction said generalizing s with
    | nil => exact ⟨s, .nothing s, h⟩
    | cons e rest ih =>
      cases h with
      | cons step later =>
        obtain ⟨s₁, front, back⟩ := ih later
        exact ⟨s₁, .cons step front, back⟩
  · rintro ⟨s₁, front, back⟩
    induction front with
    | nothing s => exact back
    | cons step _ ih => exact .cons step (ih back)

/-- Where nothing was said that changes anything, everything is as it was. -/
theorem Leads.keeps {P : Exchange I → Prop} (h : Leads R s said s')
    (still : ∀ r s reply s', P ⟨r, reply⟩ → R r s reply s' → s' = s) (all : ∀ e ∈ said, P e) :
    s' = s := by
  induction h with
  | nothing s => rfl
  | cons step _ ih =>
    obtain ⟨first, others⟩ := List.forall_mem_cons.1 all
    exact (ih others).trans (still _ _ _ _ first step)

/-- In a world where everything is written down, the state is where that leads. -/
theorem Exec.leads {p : Program I α} {result : Option α}
    (e : Exec R.recorded p (s, []) result (s', said)) : Leads R s said s' := by
  suffices general : ∀ (p : Program I α) s before, Exec R.recorded p (s, before) result (s', said) →
      ∃ own, said = before ++ own ∧ Leads R s own s' by
    obtain ⟨own, rfl, leads⟩ := general p s [] e
    exact leads
  intro p
  induction p with
  | done a =>
    intro s before e
    cases e
    exact ⟨[], (List.append_nil _).symm, .nothing _⟩
  | crash =>
    intro s before e
    cases e
    exact ⟨[], (List.append_nil _).symm, .nothing _⟩
  | ask r next ih =>
    intro s before e
    cases e with
    | @ask _ _ _ s₁ _ reply _ step rest =>
      obtain ⟨t, _⟩ := s₁
      obtain ⟨answered, rfl⟩ := step
      obtain ⟨own, rfl, leads⟩ := ih reply t _ rest
      exact ⟨⟨r, reply⟩ :: own, List.append_assoc .., .cons answered leads⟩

end

theorem Tells.mono {p : Program I α} {post' : Option α → Transcript I → Prop} (h : p.Tells post)
    (weaker : ∀ result said, post result said → post' result said) : p.Tells post' := by
  intro before
  refine (h before).mono fun result after => ?_
  rintro ⟨said, same, holds⟩
  exact ⟨said, same, weaker result said holds⟩

theorem tells_done {a : α} (h : post (some a) []) : (done a : Program I α).Tells post := by
  intro before
  exact ⟨[], (List.append_nil before).symm, h⟩

theorem tells_crash (h : post none []) : (crash : Program I α).Tells post := by
  intro before
  exact ⟨[], (List.append_nil before).symm, h⟩

theorem tells_ask {r : I.Request} {next : I.Reply r → Program I α}
    (h : ∀ reply, (next reply).Tells fun result more => post result (⟨r, reply⟩ :: more)) :
    (ask r next).Tells post := by
  rintro before reply _ rfl
  refine (h reply _).mono fun result after => ?_
  rintro ⟨more, rfl, holds⟩
  exact ⟨_, List.append_assoc .., holds⟩

/-- What is said consists of what may be asked. -/
theorem Only.tells {P : I.Request → Prop} {p : Program I α} (hp : p.Only P) :
    p.Tells fun _ said => ∀ e ∈ said, P e.request := by
  induction p with
  | done a => exact tells_done (List.forall_mem_nil _)
  | crash => exact tells_crash (List.forall_mem_nil _)
  | ask r next ih =>
    refine tells_ask fun reply => (ih reply (hp.2 reply)).mono fun result more asked => ?_
    exact List.forall_mem_cons.2 ⟨hp.1, asked⟩

theorem Tells.bind {p : Program I α} {f : α → Program I β}
    {post' : Option β → Transcript I → Prop} (first : p.Tells post)
    (onResult : ∀ a said, post (some a) said →
      (f a).Tells fun result more => post' result (said ++ more))
    (onCrash : ∀ said, post none said → post' none said) : (p >>= f).Tells post' := by
  intro before
  refine ensures_bind.2 ((first before).mono fun result after => ?_)
  rintro ⟨said, rfl, holds⟩
  cases result with
  | none => exact ⟨said, rfl, onCrash said holds⟩
  | some a =>
    refine (onResult a said holds (before ++ said)).mono fun result after => ?_
    rintro ⟨more, rfl, holds'⟩
    exact ⟨said ++ more, List.append_assoc .., holds'⟩

end Program

end PhasedInstall
