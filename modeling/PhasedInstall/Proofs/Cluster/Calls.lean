import PhasedInstall.Proofs.Cluster.Work
import PhasedInstall.Proofs.Program.Transcript

/-!
# The calls of a piece of work

A call is a request to the cluster with its reply. `Work.Tells` is about the calls of a piece of
work under any replies at all; its rules follow the constructs that the operator is written in, as
those of `Work.Ensures` do.

Most work is a sequence of requests that ends with the first one that is refused. `Sequential` is
that property, and it is closed under the bind, so it is proved like `Only`, construct by construct.
-/

set_option autoImplicit false

namespace PhasedInstall

open Cluster

namespace Cluster

/-- A request to the cluster with its reply. -/
abbrev Call := Exchange interface

abbrev Calls := List Call

namespace Request

/-- The document whose object is looked up. -/
def sought? : Request → Option Document
  | find d => some d
  | _ => none

/-- The document whose object is to be deleted. -/
def deleted? : Request → Option Document
  | delete d _ => some d
  | _ => none

def isCreation : Request → Bool
  | create _ => true
  | _ => false

def isUpdate : Request → Bool
  | update _ => true
  | _ => false

def isTiming : Request → Bool
  | clock _ | sleep _ _ => true
  | _ => false

/-- Whether a request is about an object of a manifest. -/
def isObjectCall : Request → Bool
  | find _ | create _ | update _ | delete _ _ => true
  | _ => false

/-- Whether a request lets go of the watched resource. -/
def isRelease : Request → Bool
  | removeFinalizer _ => true
  | _ => false

end Request

/-- The fault with which a request was refused. -/
def Call.fault? : Call → Option Fault
  | ⟨.readConfig _, .error f⟩ | ⟨.createConfig _, .error f⟩ | ⟨.replaceStatus _, .error f⟩
  | ⟨.addFinalizer _, .error f⟩ | ⟨.removeFinalizer _, .error f⟩ | ⟨.find _, .error f⟩
  | ⟨.create _, .error f⟩ | ⟨.update _, .error f⟩ | ⟨.delete _ _, .error f⟩
  | ⟨.deploymentReady _ _, .error f⟩ | ⟨.webhookExists _, .error f⟩
  | ⟨.definitionInstalled _, .error f⟩ => some f
  | _ => none

/-- A reading of the clock that is no later than it has to be. -/
def exactly (since : Nat) : { now : Nat // since ≤ now } := ⟨since, Nat.le_refl since⟩

/-- The answers of a cluster in which there is nothing yet and no time passes by itself. -/
def vacant : (r : Request) → r.Reply
  | .readConfig _ | .find _ => .ok none
  | .createConfig c | .replaceStatus c => .ok c
  | .addFinalizer _ | .removeFinalizer _ | .delete _ _ => .error (.refused .notFound)
  | .create _ | .update _ => .ok ()
  | .deploymentReady _ _ | .webhookExists _ | .definitionInstalled _ => .ok false
  | .clock since => exactly since
  | .sleep since duration => exactly (since + duration)
  | .report _ => ()

namespace Calls

variable {es more : Calls}

/-- The documents whose objects were looked up, in order. -/
def lookups (es : Calls) : List Document := es.filterMap fun e => e.request.sought?

/-- The documents whose objects were to be deleted, in order. -/
def deletions (es : Calls) : List Document := es.filterMap fun e => e.request.deleted?

/-- Every request satisfies `P`. -/
def Ask (P : Request → Prop) (es : Calls) : Prop := ∀ e ∈ es, P e.request

/-- No request was refused. -/
def Granted (es : Calls) : Prop := ∀ e ∈ es, e.fault? = none

theorem lookups_append : lookups (es ++ more) = lookups es ++ lookups more :=
  List.filterMap_append

theorem deletions_append : deletions (es ++ more) = deletions es ++ deletions more :=
  List.filterMap_append

theorem deletions_eq_nil (h : es.Ask fun r => r.deleted? = none) : deletions es = [] :=
  List.filterMap_eq_nil_iff.2 h

theorem Granted.append (h : Granted es) (h' : Granted more) : Granted (es ++ more) := by
  intro e mem
  rcases List.mem_append.1 mem with mem | mem
  · exact h e mem
  · exact h' e mem

theorem Ask.append {P : Request → Prop} (h : Ask P es) (h' : Ask P more) : Ask P (es ++ more) := by
  intro e mem
  rcases List.mem_append.1 mem with mem | mem
  · exact h e mem
  · exact h' e mem

/-- The first call that was refused is the end of the only prefix that ends with one. -/
theorem first_refusal_unique {granted granted' later later' : Calls} {call call' : Call}
    {f f' : Fault} (h : Granted granted) (h' : Granted granted') (refused : call.fault? = some f)
    (refused' : call'.fault? = some f')
    (same : granted ++ call :: later = granted' ++ call' :: later') :
    granted = granted' ∧ call = call' ∧ later = later' := by
  -- If one prefix were shorter, its refusal would be among the granted calls of the other.
  induction granted generalizing granted' with
  | nil =>
    cases granted' with
    | nil => exact ⟨rfl, List.cons.inj same⟩
    | cons e rest =>
      obtain ⟨rfl, -⟩ := List.cons.inj same
      rw [h' call (List.mem_cons_self ..)] at refused
      cases refused
  | cons e rest ih =>
    cases granted' with
    | nil =>
      obtain ⟨rfl, -⟩ := List.cons.inj same
      rw [h e (List.mem_cons_self ..)] at refused'
      cases refused'
    | cons e' rest' =>
      obtain ⟨rfl, tails⟩ := List.cons.inj same
      obtain ⟨rfl, rfl, rfl⟩ :=
        ih (fun x mem => h x (List.mem_cons_of_mem _ mem))
          (fun x mem => h' x (List.mem_cons_of_mem _ mem)) tails
      exact ⟨rfl, rfl, rfl⟩

/-- A call with another kind of request comes after all the requests of one kind. -/
theorem Ask.before {P : Request → Prop} {front after : Calls} {e : Call} (h : Ask P es)
    (other : ¬ P e.request) (same : es ++ more = front ++ e :: after) :
    ∃ between, front = es ++ between := by
  rcases List.append_eq_append_iff.1 same with ⟨between, rfl, -⟩ | ⟨tail, rfl, same'⟩
  · exact ⟨between, rfl⟩
  · cases tail with
    | nil => exact ⟨[], by rw [List.append_nil, List.append_nil]⟩
    | cons x tail =>
      obtain ⟨rfl, -⟩ := List.cons.inj same'
      exact absurd (h e (List.mem_append_right _ (List.mem_cons_self ..))) other

/-- Among requests of one kind there is one place for a request of another. -/
theorem Ask.place_unique {P : Request → Prop} {front after before rest : Calls} {e e' : Call}
    (h : Ask P front) (h' : Ask P after) (other : ¬ P e'.request)
    (same : front ++ e :: after = before ++ e' :: rest) :
    before = front ∧ e' = e ∧ rest = after := by
  obtain ⟨between, rfl⟩ := h.before other same
  rw [List.append_assoc, List.append_cancel_left_eq] at same
  cases between with
  | nil =>
    cases same
    exact ⟨List.append_nil front, rfl, rfl⟩
  | cons first others =>
    obtain ⟨-, tail⟩ := List.cons.inj same
    exact absurd (h' e' (by simp [tail])) other

theorem Ask.mono {P Q : Request → Prop} (h : Ask P es) (weaker : ∀ r, P r → Q r) : Ask Q es :=
  fun e mem => weaker _ (h e mem)

/-! ### Steps in order -/

section
variable {δ β : Type}

/-- The calls by which something is done for the members of a list in order, with the outcome: a
step for each of them, or for some of them and then a step that fails. -/
inductive Series (Step : δ → Except Fault β → Calls → Prop) :
    List δ → Except Fault Unit → Calls → Prop
  | done : Series Step [] (.ok ()) []
  | next {d : δ} {rest : List δ} {b : β} {outcome : Except Fault Unit} {here there : Calls} :
      Step d (.ok b) here → Series Step rest outcome there →
      Series Step (d :: rest) outcome (here ++ there)
  | stop {d : δ} {rest : List δ} {f : Fault} {here : Calls} :
      Step d (.error f) here → Series Step (d :: rest) (.error f) here

/-- Every call is fine, except for the last one if there was a failure. -/
def EndsWith (Fine : Call → Prop) (Fails : Fault → Call → Prop) :
    Except Fault Unit → Calls → Prop
  | .ok _, es => ∀ e ∈ es, Fine e
  | .error f, es => ∃ before call, es = before ++ [call] ∧ (∀ e ∈ before, Fine e) ∧ Fails f call

/-- A call that is not fine is the last one. -/
theorem EndsWith.stops {Fine : Call → Prop} {Fails : Fault → Call → Prop}
    {outcome : Except Fault Unit} {before after : Calls} {e : Call}
    (h : EndsWith Fine Fails outcome (before ++ e :: after)) (bad : ¬ Fine e) :
    after = [] ∧ ∃ f, outcome = .error f ∧ Fails f e := by
  cases outcome with
  | ok _ => exact absurd (h e (by simp)) bad
  | error f =>
    obtain ⟨fine, call, same, passed, failed⟩ := h
    rcases List.eq_nil_or_concat after with rfl | ⟨rest, last, rfl⟩
    · obtain ⟨rfl, ⟨⟩⟩ := List.append_inj' same rfl
      exact ⟨rfl, f, rfl, failed⟩
    · -- Then it would be among the calls before the last one.
      rw [List.concat_eq_append, ← List.cons_append, ← List.append_assoc] at same
      obtain ⟨rfl, -⟩ := List.append_inj' same rfl
      exact absurd (passed e (by simp)) bad

namespace Series

variable {Step : δ → Except Fault β → Calls → Prop} {ds ds' : List δ}
  {outcome : Except Fault Unit} {f : Fault}

theorem append (h : Series Step ds (.ok ()) es) (h' : Series Step ds' outcome more) :
    Series Step (ds ++ ds') outcome (es ++ more) := by
  generalize success : Except.ok () = whole at h
  induction h with
  | done => exact h'
  | next step _ ih =>
    rw [List.append_assoc]
    exact .next step (ih success)
  | stop _ => cases success

/-- What comes after a failure makes no difference. -/
theorem stopped (h : Series Step ds (.error f) es) (rest : List δ) :
    Series Step (ds ++ rest) (.error f) es := by
  generalize failure : Except.error f = whole at h ⊢
  induction h with
  | done => cases failure
  | next step _ ih => exact .next step (ih failure)
  | stop step => exact .stop step

/-- Every request is one of a step. -/
theorem asks {P : δ → Request → Prop} (h : Series Step ds outcome es)
    (each : ∀ d own here, Step d own here → here.Ask (P d)) :
    es.Ask fun r => ∃ d ∈ ds, P d r := by
  have mine {d : δ} {rest : List δ} {here : Calls} (asked : here.Ask (P d)) :
      here.Ask fun r => ∃ x ∈ d :: rest, P x r :=
    asked.mono fun r asks => ⟨d, List.mem_cons_self .., asks⟩
  induction h with
  | done => exact List.forall_mem_nil _
  | next step _ ih =>
    refine (mine (each _ _ _ step)).append (ih.mono ?_)
    rintro r ⟨x, mem, asks⟩
    exact ⟨x, List.mem_cons_of_mem _ mem, asks⟩
  | stop step => exact mine (each _ _ _ step)

/-- If a step is fine until the call with which it fails, so are all steps together. -/
theorem ends {Fine : Call → Prop} {Fails : Fault → Call → Prop} (h : Series Step ds outcome es)
    (passes : ∀ d b here, Step d (.ok b) here → ∀ e ∈ here, Fine e)
    (fails : ∀ d f here, Step d (.error f) here →
      ∃ before call, here = before ++ [call] ∧ (∀ e ∈ before, Fine e) ∧ Fails f call) :
    EndsWith Fine Fails outcome es := by
  induction h with
  | done => exact List.forall_mem_nil _
  | @next d _ b outcome here _ step _ ih =>
    have first := passes d b here step
    cases outcome with
    | ok _ => exact List.forall_mem_append.2 ⟨first, ih⟩
    | error f =>
      obtain ⟨before, call, rfl, fine, failed⟩ := ih
      exact ⟨_, call, (List.append_assoc ..).symm, List.forall_mem_append.2 ⟨first, fine⟩, failed⟩
  | stop step => exact fails _ _ _ step

end Series

end

end Calls

end Cluster

namespace Work

variable {α β : Type} {post : Option (Except Fault α) → Calls → Prop}

/-- However the requests are answered, the end of the work and its calls satisfy `post`. -/
def Tells (w : Work α) (post : Option (Except Fault α) → Calls → Prop) : Prop :=
  Program.Tells w.run post

theorem Tells.exec {w : Work α} (h : w.Tells post) {result : Option (Except Fault α)} {es : Calls}
    (e : w.Exec heard [] result es) : post result es :=
  Program.Tells.exec h e

theorem Tells.recorded {σ : Type} {R : Conduct interface σ} {w : Work α} (h : w.Tells post)
    {s s' : σ} {result : Option (Except Fault α)} {es : Calls}
    (e : w.Exec R.recorded (s, []) result (s', es)) : post result es :=
  Program.Tells.recorded h e

theorem Ensures.recorded {σ : Type} {R : Conduct interface σ} {w : Work α} {s s' : σ}
    {post : Option (Except Fault α) → σ → Prop} (h : w.Ensures R s post) {before after : Calls}
    {result : Option (Except Fault α)} (e : w.Exec R.recorded (s, before) result (s', after)) :
    post result s' :=
  Program.Ensures.recorded h e

theorem Tells.mono {w : Work α} {post' : Option (Except Fault α) → Calls → Prop} (h : w.Tells post)
    (weaker : ∀ result es, post result es → post' result es) : w.Tells post' :=
  Program.Tells.mono h weaker

theorem tells_pure {a : α} (h : post (some (.ok a)) []) : (pure a : Work α).Tells post :=
  Program.tells_done h

theorem tells_throw {f : Fault} (h : post (some (.error f)) []) : (throw f : Work α).Tells post :=
  Program.tells_done h

theorem tells_find {d : Document} {post : Option (Except Fault (Option Document)) → Calls → Prop}
    (h : ∀ reply, post (some reply) [⟨.find d, reply⟩]) : (find d).Tells post :=
  Program.tells_ask fun reply => Program.tells_done (h reply)

theorem tells_create {d : Document} {post : Option (Except Fault Unit) → Calls → Prop}
    (h : ∀ reply, post (some reply) [⟨.create d, reply⟩]) : (create d).Tells post :=
  Program.tells_ask fun reply => Program.tells_done (h reply)

theorem tells_update {d : Document} {post : Option (Except Fault Unit) → Calls → Prop}
    (h : ∀ reply, post (some reply) [⟨.update d, reply⟩]) : (update d).Tells post :=
  Program.tells_ask fun reply => Program.tells_done (h reply)

theorem Only.tells {P : Request → Prop} {w : Work α} (hw : w.Only P) :
    w.Tells fun _ es => es.Ask P :=
  Program.Only.tells hw

/-- The rule of the bind: the calls of the second piece of work follow those of the first. -/
theorem Tells.bind {w : Work α} {f : α → Work β}
    {post' : Option (Except Fault β) → Calls → Prop} (first : w.Tells post)
    (onResult : ∀ a es, post (some (.ok a)) es →
      (f a).Tells fun result more => post' result (es ++ more))
    (onFault : ∀ fault es, post (some (.error fault)) es → post' (some (.error fault)) es)
    (onCrash : ∀ es, post none es → post' none es) : (w >>= f).Tells post' := by
  rw [Tells, ExceptT.run_bind]
  refine Program.Tells.bind first (fun result es holds => ?_) onCrash
  cases result with
  | ok a => exact onResult a es holds
  | error fault =>
    refine Program.tells_done ?_
    rw [List.append_nil]
    exact onFault fault es holds

/-- The work after an outcome sees every kind of end but giving up. -/
theorem Tells.outcome_bind {w : Work α} {f : Except Fault α → Work β}
    {post' : Option (Except Fault β) → Calls → Prop} (first : w.Tells post)
    (onEnd : ∀ result es, post (some result) es →
      (f result).Tells fun result more => post' result (es ++ more))
    (onCrash : ∀ es, post none es → post' none es) : (w.outcome >>= f).Tells post' := by
  have whole : (w.outcome >>= f).run = w.run >>= fun result => (f result).run := by
    rw [outcome, ExceptT.run_bind, ExceptT.run_lift, map_eq_pure_bind, bind_assoc]
    rfl
  rw [Tells, whole]
  exact Program.Tells.bind first onEnd onCrash

theorem tells_ofHalt_bind {e : Except Halt α} {f : α → Work β}
    {post : Option (Except Fault β) → Calls → Prop} (onResult : ∀ a, e = .ok a → (f a).Tells post)
    (onFault : ∀ fault, post (some (.error fault)) []) (onCrash : post none []) :
    (ofHalt e >>= f).Tells post := by
  rcases e with (fault | _) | a
  · exact Program.tells_done (onFault fault)
  · exact Program.tells_crash onCrash
  · exact onResult a rfl

theorem tells_report_bind {event : Event} {f : Unit → Work β}
    {post : Option (Except Fault β) → Calls → Prop}
    (h : (f ()).Tells fun result more => post result (⟨.report event, ()⟩ :: more)) :
    (report event >>= f).Tells post :=
  Program.tells_ask fun _ => h

theorem tells_find_bind {d : Document} {f : Option Document → Work β}
    {post : Option (Except Fault β) → Calls → Prop}
    (found : ∀ live, (f live).Tells fun result more => post result (⟨.find d, .ok live⟩ :: more))
    (refused : ∀ fault, post (some (.error fault)) [⟨.find d, .error fault⟩]) :
    (find d >>= f).Tells post := by
  refine Program.tells_ask fun reply => ?_
  cases reply with
  | ok live => exact found live
  | error fault => exact Program.tells_done (refused fault)

theorem tells_create_bind {d : Document} {f : Unit → Work β}
    {post : Option (Except Fault β) → Calls → Prop}
    (created : (f ()).Tells fun result more => post result (⟨.create d, .ok ()⟩ :: more))
    (refused : ∀ fault, post (some (.error fault)) [⟨.create d, .error fault⟩]) :
    (create d >>= f).Tells post := by
  refine Program.tells_ask fun reply => ?_
  cases reply with
  | ok _ => exact created
  | error fault => exact Program.tells_done (refused fault)

theorem tells_update_bind {d : Document} {f : Unit → Work β}
    {post : Option (Except Fault β) → Calls → Prop}
    (updated : (f ()).Tells fun result more => post result (⟨.update d, .ok ()⟩ :: more))
    (refused : ∀ fault, post (some (.error fault)) [⟨.update d, .error fault⟩]) :
    (update d >>= f).Tells post := by
  refine Program.tells_ask fun reply => ?_
  cases reply with
  | ok _ => exact updated
  | error fault => exact Program.tells_done (refused fault)

theorem tells_find_outcome_bind {d : Document} {f : Except Fault (Option Document) → Work β}
    {post : Option (Except Fault β) → Calls → Prop}
    (h : ∀ reply, (f reply).Tells fun result more => post result (⟨.find d, reply⟩ :: more)) :
    ((find d).outcome >>= f).Tells post :=
  Program.tells_ask h

theorem tells_delete_outcome_bind {d : Document} {policy : DeletePolicy}
    {f : Except Fault Unit → Work β} {post : Option (Except Fault β) → Calls → Prop}
    (h : ∀ reply, (f reply).Tells fun result more =>
      post result (⟨.delete d policy, reply⟩ :: more)) :
    ((delete d policy).outcome >>= f).Tells post :=
  Program.tells_ask h

theorem tells_clock_bind {since : Nat} {f : { now : Nat // since ≤ now } → Work β}
    {post : Option (Except Fault β) → Calls → Prop}
    (h : ∀ now, (f now).Tells fun result more => post result (⟨.clock since, now⟩ :: more)) :
    (clock since >>= f).Tells post :=
  Program.tells_ask h

theorem tells_sleep_bind {since duration : Nat}
    {f : { now : Nat // since + duration ≤ now } → Work β}
    {post : Option (Except Fault β) → Calls → Prop}
    (h : ∀ now, (f now).Tells fun result more =>
      post result (⟨.sleep since duration, now⟩ :: more)) :
    (sleep since duration >>= f).Tells post :=
  Program.tells_ask h

theorem tells_exec (w : Work α) : w.Tells fun result es => w.Exec heard [] result es :=
  Program.tells_exec w.run

theorem exec_listen (answer : Calls → (r : Request) → r.Reply) (w : Work α) :
    w.Exec heard [] (w.run.run (listen answer) []).1 (w.run.run (listen answer) []).2 :=
  Program.exec_listen (I := interface) answer w.run

/-! ## Series -/

section
variable {δ : Type} {Step : δ → Except Fault α → Calls → Prop} {d : δ} {ds ds' : List δ}

/-- A step and the series after it are a series. -/
theorem tells_series_cons {w : Work α} {rest : Work Unit}
    (step : w.Tells fun result es => ∃ outcome, result = some outcome ∧ Step d outcome es)
    (others : rest.Tells fun result es =>
      ∃ outcome, result = some outcome ∧ Calls.Series Step ds outcome es) :
    (w >>= fun _ => rest).Tells fun result es =>
      ∃ outcome, result = some outcome ∧ Calls.Series Step (d :: ds) outcome es := by
  refine step.bind ?_ ?_ ?_
  · rintro a es ⟨_, ⟨⟩, here⟩
    refine others.mono fun result more later => ?_
    obtain ⟨outcome, rfl, there⟩ := later
    exact ⟨outcome, rfl, .next here there⟩
  · rintro f es ⟨_, ⟨⟩, here⟩
    exact ⟨_, rfl, .stop here⟩
  · rintro es ⟨_, ⟨⟩, -⟩

/-- A series and the series after it are a series. -/
theorem tells_series_append {w rest : Work Unit}
    (first : w.Tells fun result es =>
      ∃ outcome, result = some outcome ∧ Calls.Series Step ds outcome es)
    (others : rest.Tells fun result es =>
      ∃ outcome, result = some outcome ∧ Calls.Series Step ds' outcome es) :
    (w >>= fun _ => rest).Tells fun result es =>
      ∃ outcome, result = some outcome ∧ Calls.Series Step (ds ++ ds') outcome es := by
  refine first.bind ?_ ?_ ?_
  · rintro _ es ⟨_, ⟨⟩, here⟩
    refine others.mono fun result more later => ?_
    obtain ⟨outcome, rfl, there⟩ := later
    exact ⟨outcome, rfl, here.append there⟩
  · rintro f es ⟨_, ⟨⟩, here⟩
    exact ⟨_, rfl, here.stopped ds'⟩
  · rintro es ⟨_, ⟨⟩, -⟩

end

/-! ## Sequences of requests -/

/-- The work has ended with the first call that was refused, or with a fault of its own. -/
def EndsAtRefusal (own : Fault → Prop) (result : Option (Except Fault α)) (es : Calls) : Prop :=
  match result with
  | none => False
  | some (.ok _) => es.Granted
  | some (.error f) =>
    (∃ granted call, es = granted ++ [call] ∧ Calls.Granted granted ∧ call.fault? = some f) ∨
      es.Granted ∧ own f

/-- The work asks requests that satisfy `P` one after the other and ends with the first one that is
refused. The faults that come from no request satisfy `own`. -/
def Sequential (P : Request → Prop) (own : Fault → Prop) (w : Work α) : Prop :=
  w.Tells fun result es => es.Ask P ∧ EndsAtRefusal own result es

section
variable {P Q : Request → Prop} {own : Fault → Prop}

theorem sequential_pure (a : α) : (pure a : Work α).Sequential P own :=
  tells_pure ⟨List.forall_mem_nil _, List.forall_mem_nil _⟩

theorem sequential_throw {f : Fault} (h : own f) : (throw f : Work α).Sequential P own :=
  tells_throw ⟨List.forall_mem_nil _, Or.inr ⟨List.forall_mem_nil _, h⟩⟩

/-- One request is a sequence. -/
theorem endsAtRefusal_call {r : Request} {reply : r.Reply} {result : Except Fault α}
    (granted : ∀ a, result = .ok a → Call.fault? ⟨r, reply⟩ = none)
    (refused : ∀ f, result = .error f → Call.fault? ⟨r, reply⟩ = some f) :
    EndsAtRefusal own (some result) [⟨r, reply⟩] := by
  cases result with
  | ok a => exact List.forall_mem_singleton.2 (granted a rfl)
  | error f => exact Or.inl ⟨[], _, rfl, List.forall_mem_nil _, refused f rfl⟩

theorem sequential_find {d : Document} (h : P (.find d)) : (find d).Sequential P own := by
  refine tells_find fun reply => ⟨List.forall_mem_singleton.2 h, endsAtRefusal_call ?_ ?_⟩
  · rintro _ rfl
    rfl
  · rintro _ rfl
    rfl

theorem sequential_create {d : Document} (h : P (.create d)) : (create d).Sequential P own := by
  refine tells_create fun reply => ⟨List.forall_mem_singleton.2 h, endsAtRefusal_call ?_ ?_⟩
  · rintro _ rfl
    rfl
  · rintro _ rfl
    rfl

theorem sequential_update {d : Document} (h : P (.update d)) : (update d).Sequential P own := by
  refine tells_update fun reply => ⟨List.forall_mem_singleton.2 h, endsAtRefusal_call ?_ ?_⟩
  · rintro _ rfl
    rfl
  · rintro _ rfl
    rfl

theorem Sequential.mono {w : Work α} (h : w.Sequential P own) (weaker : ∀ r, P r → Q r) :
    w.Sequential Q own :=
  Tells.mono h fun _ _ holds => ⟨holds.1.mono weaker, holds.2⟩

/-- Nothing was refused before the second piece of work began. -/
theorem Sequential.bind {w : Work α} {f : α → Work β} (first : w.Sequential P own)
    (rest : ∀ a, (f a).Sequential P own) : (w >>= f).Sequential P own := by
  refine Tells.bind first ?_ ?_ ?_
  · rintro a es ⟨asked, granted⟩
    refine Tells.mono (rest a) fun result more => ?_
    rintro ⟨askedMore, ends⟩
    refine ⟨asked.append askedMore, ?_⟩
    rcases result with _ | fault | b
    · exact ends
    · -- A refusal in the second piece of work is still the first one of all.
      rcases ends with ⟨before, call, rfl, grantedMore, refused⟩ | ⟨grantedMore, faulty⟩
      · refine Or.inl ⟨es ++ before, call, (List.append_assoc ..).symm, ?_, refused⟩
        exact granted.append grantedMore
      · exact Or.inr ⟨granted.append grantedMore, faulty⟩
    · exact granted.append ends
  · rintro fault es ⟨asked, ends⟩
    exact ⟨asked, ends⟩
  · rintro es ⟨_, impossible⟩
    exact impossible.elim

end

end Work

end PhasedInstall
