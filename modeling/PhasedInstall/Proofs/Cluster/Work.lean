import PhasedInstall.Cluster.Access
import PhasedInstall.Proofs.Program.Execution

/-!
# Walking through a piece of work

`Work` adds faults to programs, so a piece of work has three kinds of ends: a result, a fault, and
giving up. The rules here are those of `Program.Ensures` with the three kinds kept apart. Together
they follow the constructs that the operator is written in: `pure` and `throw`, the bind, `outcome`
(which turns a fault into a result), and single requests, where the conduct of the cluster enters.
-/

set_option autoImplicit false

namespace PhasedInstall

namespace Cluster.Request

/-- Whether a request may change the watched resource. -/
def writesConfig : Request → Bool
  | createConfig _ | replaceStatus _ | addFinalizer _ | removeFinalizer _ => true
  | _ => false

/-- Whether a request may change objects. -/
def writesObjects : Request → Bool
  | create _ | update _ | delete _ _ => true
  | _ => false

end Cluster.Request

/-! ## Results that need no cluster -/

section
variable {ε α β : Type} {x : Except ε α} {b : β}

theorem bind_eq_ok {f : α → Except ε β} (h : x >>= f = .ok b) : ∃ a, x = .ok a ∧ f a = .ok b := by
  cases x with
  | error e => cases h
  | ok a => exact ⟨a, rfl, h⟩

theorem bind_eq_error {f : α → Except ε β} {e : ε} (h : x >>= f = .error e) :
    x = .error e ∨ ∃ a, x = .ok a ∧ f a = .error e := by
  cases x with
  | error e' =>
    cases h
    exact Or.inl rfl
  | ok a => exact Or.inr ⟨a, rfl, h⟩

theorem map_eq_ok {f : α → β} (h : f <$> x = .ok b) : ∃ a, x = .ok a ∧ f a = b := by
  cases x with
  | error e => cases h
  | ok a => exact ⟨a, rfl, Except.ok.inj h⟩

end

namespace Work

open Cluster

variable {α β σ : Type} {R : Conduct interface σ} {s s' : σ}
  {post post' : Option (Except Fault α) → σ → Prop}

/-- The ends of a piece of work: a result or a fault, or neither where it gave up. -/
def Exec (R : Conduct interface σ) (w : Work α) (s : σ) (result : Option (Except Fault α))
    (s' : σ) : Prop :=
  Program.Exec R w.run s result s'

/-- Every end of the work satisfies `post`. -/
def Ensures (R : Conduct interface σ) (w : Work α) (s : σ)
    (post : Option (Except Fault α) → σ → Prop) : Prop :=
  Program.Ensures R w.run s post

theorem Exec.ensures {w : Work α} {result : Option (Except Fault α)}
    (e : w.Exec R s result s') (h : w.Ensures R s post) : post result s' :=
  Program.Exec.ensures e h

theorem Ensures.mono {w : Work α} (h : w.Ensures R s post)
    (weaker : ∀ result s', post result s' → post' result s') : w.Ensures R s post' :=
  Program.Ensures.mono h weaker

theorem Ensures.within {R' : Conduct interface σ}
    (narrower : ∀ r s reply s', R' r s reply s' → R r s reply s') {w : Work α}
    (h : w.Ensures R s post) : w.Ensures R' s post :=
  Program.Ensures.within narrower h

@[simp] theorem ensures_pure {a : α} :
    (pure a : Work α).Ensures R s post ↔ post (some (.ok a)) s := Iff.rfl

@[simp] theorem ensures_throw {f : Fault} :
    (throw f : Work α).Ensures R s post ↔ post (some (.error f)) s := Iff.rfl

@[simp] theorem ensures_crash : (crash : Work α).Ensures R s post ↔ post none s := Iff.rfl

/-- The rule of the bind: the second piece of work starts where the first one had a result. -/
theorem ensures_bind {w : Work α} {f : α → Work β} {post : Option (Except Fault β) → σ → Prop} :
    (w >>= f).Ensures R s post ↔
      w.Ensures R s fun result s' =>
        match result with
        | some (.ok a) => (f a).Ensures R s' post
        | some (.error fault) => post (some (.error fault)) s'
        | none => post none s' := by
  simp only [Ensures, ExceptT.run_bind, Program.ensures_bind]
  refine ⟨fun h => h.mono fun result s' hr => ?_, fun h => h.mono fun result s' hr => ?_⟩ <;>
    rcases result with _ | _ | _ <;> exact hr

/-- The bind rule for an intermediate condition that is known already. -/
theorem Ensures.bind {w : Work α} {f : α → Work β} {post' : Option (Except Fault β) → σ → Prop}
    (h : w.Ensures R s post) (onResult : ∀ a s', post (some (.ok a)) s' → (f a).Ensures R s' post')
    (onFault : ∀ fault s', post (some (.error fault)) s' → post' (some (.error fault)) s')
    (onCrash : ∀ s', post none s' → post' none s') : (w >>= f).Ensures R s post' := by
  refine ensures_bind.2 (h.mono fun result s' hr => ?_)
  rcases result with _ | fault | a
  · exact onCrash s' hr
  · exact onFault fault s' hr
  · exact onResult a s' hr

/-- The outcome of a piece of work is a result, whatever kind of end the work has. -/
theorem ensures_outcome {w : Work α}
    {post : Option (Except Fault (Except Fault α)) → σ → Prop} :
    w.outcome.Ensures R s post ↔ w.Ensures R s fun result s' => post (result.map .ok) s' := by
  simp only [Ensures, outcome, ExceptT.run_lift, map_eq_pure_bind, Program.ensures_bind]
  refine ⟨fun h => h.mono fun result s' hr => ?_, fun h => h.mono fun result s' hr => ?_⟩ <;>
    rcases result with _ | _ <;> exact hr

theorem Ensures.outcome_bind {w : Work α} {f : Except Fault α → Work β}
    {post' : Option (Except Fault β) → σ → Prop} (h : w.Ensures R s post)
    (onEnd : ∀ result s', post (some result) s' → (f result).Ensures R s' post')
    (onCrash : ∀ s', post none s' → post' none s') : (w.outcome >>= f).Ensures R s post' := by
  refine ensures_bind.2 (ensures_outcome.2 (h.mono fun result s' hr => ?_))
  rcases result with _ | result
  · exact onCrash s' hr
  · exact onEnd result s' hr

/-- Of a question about time the next piece of work knows only the reply. -/
theorem ensures_clock_bind {since : Nat} {f : { now : Nat // since ≤ now } → Work β}
    {post : Option (Except Fault β) → σ → Prop} :
    (clock since >>= f).Ensures R s post ↔
      ∀ now s', R (.clock since) s now s' → (f now).Ensures R s' post := Iff.rfl

theorem ensures_sleep_bind {since duration : Nat}
    {f : { now : Nat // since + duration ≤ now } → Work β}
    {post : Option (Except Fault β) → σ → Prop} :
    (sleep since duration >>= f).Ensures R s post ↔
      ∀ now s', R (.sleep since duration) s now s' → (f now).Ensures R s' post := Iff.rfl

theorem ensures_find_bind {d : Document} {f : Option Document → Work β}
    {post : Option (Except Fault β) → σ → Prop} :
    (find d >>= f).Ensures R s post ↔
      ∀ reply s', R (.find d) s reply s' →
        match reply with
        | .ok found => (f found).Ensures R s' post
        | .error fault => post (some (.error fault)) s' := by
  refine forall_congr' fun reply => ?_
  cases reply <;> exact Iff.rfl

theorem ensures_find_outcome_bind {d : Document} {f : Except Fault (Option Document) → Work β}
    {post : Option (Except Fault β) → σ → Prop} :
    ((find d).outcome >>= f).Ensures R s post ↔
      ∀ reply s', R (.find d) s reply s' → (f reply).Ensures R s' post := Iff.rfl

theorem ensures_ofExcept_bind {e : Except Fault α} {f : α → Work β}
    {post : Option (Except Fault β) → σ → Prop} (onResult : ∀ a, e = .ok a → (f a).Ensures R s post)
    (onFault : ∀ fault, post (some (.error fault)) s) : (ofExcept e >>= f).Ensures R s post := by
  cases e with
  | ok a => exact onResult a rfl
  | error fault => exact onFault fault

theorem ensures_ofHalt_bind {e : Except Halt α} {f : α → Work β}
    {post : Option (Except Fault β) → σ → Prop} (onResult : ∀ a, e = .ok a → (f a).Ensures R s post)
    (onFault : ∀ fault, post (some (.error fault)) s) (onCrash : post none s) :
    (ofHalt e >>= f).Ensures R s post := by
  rcases e with (fault | _) | a
  · exact onFault fault
  · exact onCrash
  · exact onResult a rfl

/-! ## What a piece of work asks -/

def Only (P : Request → Prop) (w : Work α) : Prop := Program.Only P w.run

section
variable {P : Request → Prop}

theorem only_pure (a : α) : (pure a : Work α).Only P := trivial

theorem only_throw (f : Fault) : (throw f : Work α).Only P := trivial

theorem Only.bind {w : Work α} {f : α → Work β} (hw : w.Only P) (hf : ∀ a, (f a).Only P) :
    (w >>= f).Only P := by
  rw [Only, ExceptT.run_bind]
  refine Program.Only.bind hw fun result => ?_
  rcases result with fault | a
  · trivial
  · exact hf a

theorem Only.andReturn {w : Work α} (hw : w.Only P) (b : β) :
    (do let _ ← w; return b : Work β).Only P :=
  hw.bind fun _ => only_pure b

theorem Only.outcome {w : Work α} (hw : w.Only P) : w.outcome.Only P := by
  rw [Only, Work.outcome, ExceptT.run_lift, map_eq_pure_bind]
  exact Program.Only.bind hw fun _ => trivial

theorem only_ofExcept (e : Except Fault α) : (ofExcept e).Only P := by
  cases e <;> trivial

theorem only_ofHalt (e : Except Halt α) : (ofHalt e).Only P := by
  rcases e with (_ | _) | _ <;> trivial

theorem Only.mono {Q : Request → Prop} {w : Work α} (hw : w.Only P) (weaker : ∀ r, P r → Q r) :
    w.Only Q :=
  Program.Only.mono hw weaker

theorem Only.keeps {w : Work α} (hw : w.Only P)
    (still : ∀ r s reply s', P r → R r s reply s' → s' = s) (s : σ) :
    w.Ensures R s fun _ s' => s' = s :=
  Program.Only.keeps hw still s

end

/-! ## Invariants -/

/-- The work preserves an invariant, however it ends. -/
def Preserves (R : Conduct interface σ) (inv : σ → Prop) (w : Work α) : Prop :=
  ∀ s, inv s → w.Ensures R s fun _ s' => inv s'

section
variable {inv : σ → Prop}

theorem preserves_pure (a : α) : (pure a : Work α).Preserves R inv := fun _ hs => hs

theorem preserves_throw (f : Fault) : (throw f : Work α).Preserves R inv := fun _ hs => hs

theorem Preserves.bind {w : Work α} {f : α → Work β} (hw : w.Preserves R inv)
    (hf : ∀ a, (f a).Preserves R inv) : (w >>= f).Preserves R inv :=
  fun s hs => (hw s hs).bind (fun a s' hs' => hf a s' hs') (fun _ _ h => h) fun _ h => h

theorem Preserves.outcome {w : Work α} (hw : w.Preserves R inv) :
    w.outcome.Preserves R inv :=
  fun s hs => ensures_outcome.2 ((hw s hs).mono fun _ _ h => h)

theorem preserves_ofHalt_bind {e : Except Halt α} {f : α → Work β}
    (onResult : ∀ a, e = .ok a → (f a).Preserves R inv) : (ofHalt e >>= f).Preserves R inv :=
  fun s hs => ensures_ofHalt_bind (fun a ok => onResult a ok s hs) (fun _ => hs) hs

/-- What every answer to a request of some kind keeps, work keeps that asks no others. -/
theorem Only.preserves_of {P : Request → Prop} {w : Work α} (hw : w.Only P)
    (keeps : ∀ r s reply s', P r → R r s reply s' → inv s → inv s') : w.Preserves R inv :=
  fun _ hs => Program.Only.ensures hw keeps hs

theorem Only.preserves {P : Request → Prop} {w : Work α} (hw : w.Only P)
    (still : ∀ r s reply s', P r → R r s reply s' → s' = s) : w.Preserves R inv :=
  fun s hs => (hw.keeps still s).mono fun _ _ h => h ▸ hs

end

end Work

end PhasedInstall
