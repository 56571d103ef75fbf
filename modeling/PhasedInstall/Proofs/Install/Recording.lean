import PhasedInstall.Install.Pass
import PhasedInstall.Proofs.Manifest.Requests

/-!
# What a pass records

The operator's only memory is the status of the watched resource, so what one pass can do to that
status is the step of every argument about a whole run. `Records` lists, action by action, the
conditions that may be put in front of the history, and `pass_advances` says that nothing else can
happen: a pass leaves the status alone or records one of these conditions, exactly once.

The cluster is bound by `Ledger.Conduct` alone. Nobody else writes the status; reads of the
resource are current or fail; a write that is refused may have been done or not. Everything else,
from the objects to the readiness of components, is answered in any way at all, and that is how a
phase comes to fail, to wait or to succeed.
-/

set_option autoImplicit false

namespace PhasedInstall

open Cluster

namespace Config

/-- The recorded conditions, newest first. A resource without a status has none. -/
def history (c : Config) : List Condition := (c.status.getD {}).conditions

theorem current?_eq_head? (c : Config) : c.current? = c.history.head? := by
  unfold current? history Status.current?
  cases c.status <;> rfl

theorem installStatus_eq (c : Config) :
    c.installStatus = (c.history.head?.map Condition.code).getD .empty := by
  rw [installStatus, current?_eq_head?]

@[simp] theorem history_withCondition (c : Config) (condition : Condition) (uuid : String) :
    (c.withCondition condition uuid).history = condition :: c.history := by
  unfold history withCondition Status.prepend
  dsimp only
  split <;> rfl

/-- An operator with an identity stamps it; one without keeps what is recorded. -/
theorem operatorUuid_withCondition (c : Config) (condition : Condition) (uuid : String) :
    (c.withCondition condition uuid).operatorUuid =
      if uuid.isEmpty then c.operatorUuid else uuid := by
  unfold operatorUuid withCondition Status.prepend
  dsimp only
  split
  · cases c.status <;> rfl
  · rfl

theorem history_congr {c c' : Config} (h : c'.status = c.status) : c'.history = c.history := by
  rw [history, h, history]

theorem operatorUuid_congr {c c' : Config} (h : c'.status = c.status) :
    c'.operatorUuid = c.operatorUuid := by
  rw [operatorUuid, h, operatorUuid]

end Config

namespace Ledger

/-- How a cluster may answer about a resource whose status only the operator writes. -/
def Conduct : PhasedInstall.Conduct Cluster.interface Config
  | .readConfig _, c, reply, c' => c' = c ∧ ∀ found, reply = .ok found → found = some c
  | .replaceStatus w, c, reply, c' =>
    c' = { c with status := w.status } ∨ (c' = c ∧ ∃ f, reply = .error f)
  | .addFinalizer _, c, _, c' => c'.spec = c.spec ∧ c'.status = c.status
  | .removeFinalizer _, c, _, c' => c'.spec = c.spec ∧ c'.status = c.status
  | _, c, _, c' => c' = c

theorem Conduct.still {r : Request} {c c' : Config} {reply : r.Reply}
    (h : r.writesConfig = false) (step : Conduct r c reply c') : c' = c := by
  cases r with
  | readConfig _ => exact step.1
  | createConfig _ => exact step
  | replaceStatus _ => exact absurd h (by simp [Request.writesConfig])
  | addFinalizer _ => exact absurd h (by simp [Request.writesConfig])
  | removeFinalizer _ => exact absurd h (by simp [Request.writesConfig])
  | _ => exact step

theorem keeps {α : Type} {w : Work α} (h : w.Only (·.writesConfig = false)) (c : Config) :
    w.Ensures Conduct c fun _ c' => c' = c :=
  h.keeps (fun _ _ _ _ hr step => Conduct.still hr step) c

theorem keeps_bind {α β : Type} {w : Work α} {f : α → Work β} {c : Config}
    {post : Option (Except Fault β) → Config → Prop} (h : w.Only (·.writesConfig = false))
    (onResult : ∀ a, (f a).Ensures Conduct c post)
    (onFault : ∀ fault, post (some (.error fault)) c) (onCrash : post none c) :
    (w >>= f).Ensures Conduct c post := by
  refine (keeps h c).bind ?_ ?_ ?_
  · intro a c' same
    exact same ▸ onResult a
  · intro fault c' same
    exact same ▸ onFault fault
  · intro c' same
    exact same ▸ onCrash

end Ledger

namespace Installation

variable (i : Installation) (c : Config)

/-- The condition of a phase that failed. -/
def failedCondition (phase : Phase) (f : Fault) : Condition :=
  { i.condition c (.failed phase) with details := some f.text }

/-- The condition of a phase that passed. A validation brings the release that it looked at. -/
def passedCondition (phase : Phase) : Condition :=
  let condition := i.condition c (i.plan.successCode phase)
  match phase with
  | .validatePipeline =>
    stampRelease phase (Component.pipeline.release? (i.bundle.forPhase phase)) condition
  | .validateTriggers =>
    stampRelease phase (Component.triggers.release? (i.bundle.forPhase phase)) condition
  | _ => condition

/-- The conditions that an action may record. Actions that are not listed record none. -/
inductive Records : Action → Condition → Prop
  | failed (phase : Phase) (f : Fault) : Records (.run phase) (i.failedCondition c phase f)
  | passed (phase : Phase) : Records (.run phase) (i.passedCondition c phase)
  | installed : Records .markInstalled (i.condition c .installed)
  | invalid : Records .markInvalid i.invalidName

/-- The status is left alone, or has one condition more that the action may record. -/
def Advances (action : Action) (c' : Config) : Prop :=
  c'.status = c.status ∨
    ∃ condition, i.Records c action condition ∧
      c'.status = (c.withCondition condition i.operator.uuid).status

variable {i c}

theorem Advances.refl {action : Action} : i.Advances c action c := Or.inl rfl

theorem record_advances {action : Action} {condition : Condition}
    (h : i.Records c action condition) :
    (i.record c condition).Ensures Ledger.Conduct c fun _ c' => i.Advances c action c' := by
  intro reply c' step
  rcases step with rfl | ⟨rfl, _⟩
  · exact Or.inr ⟨condition, h, rfl⟩
  · exact .refl

/-- Recording is the last thing that happens to the resource in a pass. -/
theorem record_then {α : Type} {action : Action} {condition : Condition}
    (h : i.Records c action condition) (a : α) :
    (do let _ ← i.record c condition; return a : Work α).Ensures Ledger.Conduct c
      fun _ c' => i.Advances c action c' :=
  (record_advances h).bind (fun _ _ done => done) (fun _ _ done => done) fun _ done => done

theorem fail_advances {α : Type} (phase : Phase) (f : Fault) :
    (i.fail c phase f : Work α).Ensures Ledger.Conduct c
      fun _ c' => i.Advances c (.run phase) c' := by
  intro _ c₁ step
  obtain rfl : c₁ = c := step
  exact (record_advances (.failed phase f)).outcome_bind (fun _ _ done => done) fun _ done => done

theorem applyManifest_leavesConfig (i : Installation) (c : Config) (phase : Phase) :
    (i.applyManifest c phase).Only (·.writesConfig = false) :=
  Work.Only.bind (Work.only_ofHalt _) fun _ =>
    Work.Only.bind (Manifest.applyAll_leavesConfig _) fun _ =>
      Manifest.applyOrRecreate_leavesConfig _ _

theorem componentReady_only {P : Request → Prop}
    (deployment : ∀ name ns, P (.deploymentReady name ns))
    (webhook : ∀ name, P (.webhookExists name)) (component : Component) (ns : String) :
    (componentReady component ns).Only P := by
  refine Work.Only.bind ⟨deployment _ _, fun _ => trivial⟩ fun controllerReady => ?_
  cases controllerReady
  · exact Work.only_pure _
  · refine Work.Only.bind ⟨deployment _ _, fun _ => trivial⟩ fun webhookReady => ?_
    cases webhookReady
    · exact Work.only_pure _
    · exact ⟨webhook _, fun _ => trivial⟩

theorem record_only {P : Request → Prop} (status : ∀ c, P (.replaceStatus c))
    (condition : Condition) : (i.record c condition).Only P :=
  ⟨status _, fun _ => trivial⟩

theorem fail_only {P : Request → Prop} {α : Type} (report : ∀ e, P (.report e))
    (status : ∀ c, P (.replaceStatus c)) (phase : Phase) (f : Fault) :
    (i.fail c phase f : Work α).Only P :=
  Work.Only.bind ⟨report _, fun _ => trivial⟩ fun _ =>
    Work.Only.bind (Work.Only.outcome (record_only status _)) fun _ => Work.only_throw _

theorem validatePhase_only {P : Request → Prop} (report : ∀ e, P (.report e))
    (status : ∀ c, P (.replaceStatus c)) (deployment : ∀ name ns, P (.deploymentReady name ns))
    (webhook : ∀ name, P (.webhookExists name)) (phase : Phase) (component : Component) :
    (i.validatePhase c phase component).Only P := by
  refine Work.Only.bind (Work.Only.outcome ?_) fun ready => ?_
  · exact componentReady_only deployment webhook component _
  · rcases ready with f | _ | _
    · exact fail_only report status phase f
    · exact Work.only_pure _
    · exact (record_only status _).andReturn _

theorem removePhases_only {P : Request → Prop} (find : ∀ d, P (.find d))
    (delete : ∀ d, P (.delete d .foreground)) (i : Installation) (ns : String)
    (phases : List Phase) : (i.removePhases ns phases).Only P := by
  induction phases with
  | nil => exact Work.only_pure _
  | cons phase rest ih =>
    exact Work.Only.bind (Work.only_ofHalt _) fun _ =>
      Work.Only.bind (Manifest.removeAll_only (fun d _ => find d) fun d _ => delete d) fun _ => ih

theorem removePhases_leavesConfig (i : Installation) (ns : String) (phases : List Phase) :
    (i.removePhases ns phases).Only (·.writesConfig = false) :=
  removePhases_only (fun _ => rfl) (fun _ => rfl) i ns phases

theorem applyPhase_advances {phase : Phase}
    (h : i.passedCondition c phase = i.condition c (i.plan.successCode phase)) :
    (i.applyPhase c phase).Ensures Ledger.Conduct c
      fun _ c' => i.Advances c (.run phase) c' := by
  refine (Ledger.keeps (applyManifest_leavesConfig i c phase) c).outcome_bind ?_
    fun _ same => same ▸ .refl
  rintro (f | _) c' rfl
  · exact fail_advances phase f
  · exact record_then (h ▸ .passed phase) _

theorem validatePhase_advances {phase : Phase} {component : Component}
    (h : i.passedCondition c phase =
      stampRelease phase (component.release? (i.bundle.forPhase phase))
        (i.condition c (i.plan.successCode phase))) :
    (i.validatePhase c phase component).Ensures Ledger.Conduct c
      fun _ c' => i.Advances c (.run phase) c' := by
  have asks : (componentReady component c.spec.targetNamespace).Only (·.writesConfig = false) :=
    componentReady_only (fun _ _ => rfl) (fun _ => rfl) component _
  refine (Ledger.keeps asks c).outcome_bind ?_ fun _ same => same ▸ .refl
  rintro (f | _ | _) c' rfl
  · exact fail_advances phase f
  · exact .refl
  · exact record_then (h ▸ .passed phase) _

theorem runPhase_advances (phase : Phase) :
    (i.runPhase c phase).Ensures Ledger.Conduct c fun _ c' => i.Advances c (.run phase) c' := by
  cases phase with
  | validatePipeline => exact validatePhase_advances rfl
  | validateTriggers => exact validatePhase_advances rfl
  | _ => exact applyPhase_advances rfl

theorem perform_advances (name : String) (action : Action) :
    (i.perform name action (some c)).Ensures Ledger.Conduct c
      fun _ c' => i.Advances c action c' := by
  have kept {c' : Config} (h : c'.spec = c.spec ∧ c'.status = c.status) : i.Advances c action c' :=
    Or.inl h.2
  cases action with
  | markInvalid => exact record_then .invalid _
  | markInstalled => exact record_then .installed _
  | run phase => exact runPhase_advances phase
  | noOp => exact .refl
  | addFinalizer =>
    intro reply c' step
    rcases reply with _ | _ <;> exact kept step
  | teardown =>
    exact Ledger.keeps_bind (removePhases_leavesConfig i _ _) (fun _ => .refl) (fun _ => .refl)
      .refl
  | delete =>
    refine Ledger.keeps_bind (removePhases_leavesConfig i _ _) (fun _ => ?_) (fun _ => .refl) .refl
    intro reply c' step
    rcases reply with _ | _ <;> exact kept step

/-- **The rule of a pass.** Where reading and reporting change nothing, a pass comes to what the
action comes to that is picked for what is stored. It may also do nothing, because the resource
cannot be read or needs nothing. -/
theorem pass_ensures_of_perform {σ : Type} {R : PhasedInstall.Conduct Cluster.interface σ} {s : σ}
    {name : String} {post : Option (Except Fault Revisit) → σ → Prop} (stored : Option Config)
    (reports : ∀ event s s', R (.report event) s () s' → s' = s)
    (reads : ∀ reply s', R (.readConfig name) s reply s' →
      s' = s ∧ ∀ found, reply = .ok found → found = stored)
    (unread : ∀ f, post (some (.error f)) s)
    (idle : i.decide name stored = .noOp → post (some (.ok .onChange)) s)
    (performed : (i.perform name (i.decide name stored) stored).Ensures R s post) :
    (i.pass name).Ensures R s post := by
  intro _ s₁ step
  obtain rfl := reports _ _ _ step
  rintro (f | found) s₂ step
  · obtain ⟨rfl, -⟩ := reads _ _ step
    exact unread f
  · obtain ⟨rfl, current⟩ := reads _ _ step
    obtain rfl := current found rfl
    intro _ s₃ step
    obtain rfl := reports _ _ _ step
    dsimp only
    split
    · rename_i nothing
      exact idle nothing
    · refine performed.outcome_bind ?_ fun _ done => done
      intro result s₄ done _ s₅ step
      obtain rfl := reports _ _ _ step
      cases result <;> exact done

/-- **One pass records at most one condition**, and only one that belongs to the action it picked
for the resource as it was stored. -/
theorem pass_advances (name : String) :
    (i.pass name).Ensures Ledger.Conduct c
      fun _ c' => i.Advances c (i.decide name (some c)) c' := by
  refine pass_ensures_of_perform (some c) ?_ ?_ (fun _ => .refl) (fun _ => .refl)
    (perform_advances name _)
  · exact fun _ _ _ step => step
  · exact fun _ _ step => step

end Installation

end PhasedInstall
