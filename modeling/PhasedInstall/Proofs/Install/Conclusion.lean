import PhasedInstall.Proofs.Install.Finalizer

/-!
# The work of a phase and what is made of it

There are two kinds of phases, and both have the same form. First comes the work: a manifest is
applied, or it is looked whether a component is ready. The work does not touch the watched
resource. Then something is made of its outcome, and that is the same for all phases: a fault is
recorded and reported as one of the phase, a success is recorded, and a component that is not ready
yet is neither.

`runPhase_eq` splits a phase in this way, and `Concluded` lists what may follow the work, calls and
end together. Whatever is to be said about the entries or the faults of a pass is read off there.
`pass_recorded` is what is needed where the resource is followed as well: it is what the calls of
the action have made of it.
-/

set_option autoImplicit false

namespace PhasedInstall

open Cluster

namespace Cluster

/-- The resource whose status is to be stored. -/
def Request.recorded? : Request → Option Config
  | .replaceStatus c => some c
  | _ => none

namespace Calls

variable {es more : Calls}

/-- The resources whose status was to be stored, in order. -/
def recordings (es : Calls) : List Config := es.filterMap fun e => e.request.recorded?

theorem recordings_append : recordings (es ++ more) = recordings es ++ recordings more :=
  List.filterMap_append

theorem recordings_eq_nil (h : es.Ask fun r => r.recorded? = none) : recordings es = [] :=
  List.filterMap_eq_nil_iff.2 h

end Calls

/-- Whether a request changes nothing in the cluster. -/
def Request.changesNothing (r : Request) : Prop :=
  r.writesConfig = false ∧ r.writesObjects = false

theorem Request.recorded?_eq_none {r : Request} (h : r.writesConfig = false) :
    r.recorded? = none := by
  cases r with
  | replaceStatus c => cases h
  | _ => rfl

end Cluster

namespace Work

variable {α β : Type}

/-- That a result is replaced makes no difference to the faults. -/
theorem outcome_andReturn_bind (w : Work α) (b : β) {γ : Type} (f : Except Fault β → Work γ) :
    ((do let _ ← w; return b : Work β).outcome >>= f) =
      w.outcome >>= fun result => f (result.map fun _ => b) := by
  refine ExceptT.ext ?_
  simp only [outcome, ExceptT.run_bind, ExceptT.run_lift, map_eq_pure_bind, bind_assoc, pure_bind]
  refine bind_congr fun result => ?_
  cases result <;> rfl

theorem tells_replaceStatus_bind {c : Config} {f : Config → Work β}
    {post : Option (Except Fault β) → Calls → Prop}
    (stored : ∀ d, (f d).Tells fun result more => post result (⟨.replaceStatus c, .ok d⟩ :: more))
    (refused : ∀ fault, post (some (.error fault)) [⟨.replaceStatus c, .error fault⟩]) :
    (replaceStatus c >>= f).Tells post := by
  refine Program.tells_ask fun reply => ?_
  cases reply with
  | ok d => exact stored d
  | error fault => exact Program.tells_done (refused fault)

end Work

namespace Installation

variable {i : Installation} {c : Config} {phase : Phase}

/-- The work of a phase. It comes to whether the phase is through. -/
def work (i : Installation) (c : Config) : Phase → Work Bool
  | .validatePipeline => componentReady .pipeline c.spec.targetNamespace
  | .validateTriggers => componentReady .triggers c.spec.targetNamespace
  | phase => do
    let _ ← i.applyManifest c phase
    return true

/-- What is made of the outcome of a phase's work. -/
def conclude (i : Installation) (c : Config) (phase : Phase) :
    Except Fault Bool → Work Revisit
  | .error f => i.fail c phase f
  | .ok false => return .whileWaiting
  | .ok true => do
    let _ ← i.record c (i.passedCondition c phase)
    return .atOnce

theorem applyPhase_eq (h : i.passedCondition c phase = i.condition c (i.plan.successCode phase)) :
    i.applyPhase c phase =
      (do let _ ← i.applyManifest c phase; return true : Work Bool).outcome >>=
        i.conclude c phase := by
  rw [Work.outcome_andReturn_bind]
  unfold applyPhase
  refine bind_congr fun result => ?_
  cases result with
  | error f => rfl
  | ok _ =>
    simp only [Except.map, conclude, h]

theorem validatePhase_eq {component : Component}
    (h : i.passedCondition c phase =
      stampRelease phase (component.release? (i.bundle.forPhase phase))
        (i.condition c (i.plan.successCode phase))) :
    i.validatePhase c phase component =
      (componentReady component c.spec.targetNamespace).outcome >>= i.conclude c phase := by
  unfold validatePhase
  refine bind_congr fun result => ?_
  rcases result with f | _ | _
  · rfl
  · rfl
  · simp only [conclude, h]

/-- **A phase is its work and what is made of it.** -/
theorem runPhase_eq (i : Installation) (c : Config) (phase : Phase) :
    i.runPhase c phase = (i.work c phase).outcome >>= i.conclude c phase := by
  cases phase with
  | validatePipeline => exact validatePhase_eq rfl
  | validateTriggers => exact validatePhase_eq rfl
  | _ => exact applyPhase_eq rfl

/-- The work asks what applying the manifest asks, or it looks at the parts of a component. -/
theorem work_only {P : Request → Prop} (applies : (i.applyManifest c phase).Only P)
    (deployment : ∀ name ns, P (.deploymentReady name ns))
    (webhook : ∀ name, P (.webhookExists name)) : (i.work c phase).Only P := by
  cases phase with
  | validatePipeline => exact componentReady_only deployment webhook _ _
  | validateTriggers => exact componentReady_only deployment webhook _ _
  | _ => exact applies.andReturn true

theorem work_leavesConfig (i : Installation) (c : Config) (phase : Phase) :
    (i.work c phase).Only (·.writesConfig = false) :=
  work_only (applyManifest_leavesConfig i c phase) (fun _ _ => rfl) fun _ => rfl

theorem work_recordings {own : Option (Except Fault Bool)} {during : Calls}
    (working : (i.work c phase).Exec heard [] own during) : during.recordings = [] := by
  have asked := (work_leavesConfig i c phase).tells.exec working
  exact Calls.recordings_eq_nil (asked.mono fun _ leaves => Request.recorded?_eq_none leaves)

/-- What follows the work of a phase: from the outcome of the work, the end of the phase and the
calls that are still made. -/
inductive Concluded (i : Installation) (c : Config) (phase : Phase) :
    Option (Except Fault Bool) → Option (Except Fault Revisit) → Calls → Prop
  | failed (f : Fault) (reply : Except Fault Config) :
      Concluded i c phase (some (.error f)) (some (.error (.inPhase phase f)))
        [⟨.report (.failed phase), ()⟩,
          ⟨.replaceStatus (c.withCondition (i.failedCondition c phase f) i.operator.uuid), reply⟩]
  | waiting : Concluded i c phase (some (.ok false)) (some (.ok .whileWaiting)) []
  | passed (stored : Config) :
      Concluded i c phase (some (.ok true)) (some (.ok .atOnce))
        [⟨.replaceStatus (c.withCondition (i.passedCondition c phase) i.operator.uuid),
          .ok stored⟩]
  | unrecorded (f : Fault) :
      Concluded i c phase (some (.ok true)) (some (.error f))
        [⟨.replaceStatus (c.withCondition (i.passedCondition c phase) i.operator.uuid), .error f⟩]
  | gaveUp : Concluded i c phase none none []

theorem fail_tells (i : Installation) (c : Config) (phase : Phase) (f : Fault) :
    (i.fail c phase f : Work Revisit).Tells (i.Concluded c phase (some (.error f))) := by
  refine Work.tells_report_bind ?_
  have follows : ∀ reply : Except Fault Config,
      (throw (.inPhase phase f) : Work Revisit).Tells fun result more =>
        i.Concluded c phase (some (.error f)) result (⟨.report (.failed phase), ()⟩ ::
          ⟨.replaceStatus (c.withCondition (i.failedCondition c phase f) i.operator.uuid), reply⟩
            :: more) :=
    fun reply => Work.tells_throw (.failed f reply)
  exact Program.tells_ask follows

theorem conclude_tells (i : Installation) (c : Config) (phase : Phase)
    (own : Except Fault Bool) :
    (i.conclude c phase own).Tells (i.Concluded c phase (some own)) := by
  rcases own with f | _ | _
  · exact fail_tells i c phase f
  · exact Work.tells_pure .waiting
  · exact Work.tells_replaceStatus_bind (fun stored => Work.tells_pure (.passed stored)) .unrecorded

/-- **What a phase can come to**: the calls of its work, and then what follows from its outcome. -/
theorem runPhase_tells (i : Installation) (c : Config) (phase : Phase) :
    (i.runPhase c phase).Tells fun result es => ∃ own during after,
      es = during ++ after ∧ (i.work c phase).Exec heard [] own during ∧
        i.Concluded c phase own result after := by
  rw [runPhase_eq]
  refine Work.Tells.outcome_bind (Work.tells_exec _) ?_ ?_
  · intro own during worked
    refine (conclude_tells i c phase own).mono fun result after concluded => ?_
    exact ⟨some own, during, after, rfl, worked, concluded⟩
  · intro during worked
    exact ⟨none, during, [], (List.append_nil _).symm, worked, .gaveUp⟩

/-! ## Around the action -/

theorem opening_idle (i : Installation) (name : String) (stored : Option Config) :
    (i.opening name stored).Ask Request.changesNothing := by
  simp [opening, Calls.Ask, Request.changesNothing, Request.writesConfig, Request.writesObjects]

theorem closing_idle {name : String} {stored : Option Config} {ending : Calls}
    (h : ending <+: i.closing name stored) : ending.Ask Request.changesNothing := by
  intro e mem
  obtain rfl := List.mem_singleton.1 (h.subset mem)
  exact ⟨rfl, rfl⟩

/-- The calls of a pass that could not read the resource. -/
theorem unread_idle (name : String) (f : Fault) :
    Calls.Ask Request.changesNothing
      [⟨.report (.started name), ()⟩, ⟨.readConfig name, .error f⟩] := by
  simp [Calls.Ask, Request.changesNothing, Request.writesConfig, Request.writesObjects]

/-! ## A pass over a stored resource -/

theorem opening_inj {name : String} {stored stored' : Option Config} {rest rest' : Calls}
    (same : i.opening name stored ++ rest = i.opening name stored' ++ rest') :
    stored = stored' ∧ rest = rest' := by
  simp only [opening, List.cons_append, List.nil_append, List.cons.injEq, Exchange.mk.injEq,
    heq_eq_eq, true_and, Except.ok.injEq] at same
  exact ⟨same.1, same.2.2⟩

section
variable {R : PhasedInstall.Conduct Cluster.interface Config} {c' : Config}

theorem leads_still (narrow : ∀ r c reply c', R r c reply c' → Ledger.Conduct r c reply c')
    {es : Calls} (leads : Program.Leads R c es c') (asked : es.Ask (·.writesConfig = false)) :
    c' = c :=
  leads.keeps (P := fun e : Call => e.request.writesConfig = false)
    (fun r c reply c' leaves step => (narrow r c reply c' step).still leaves) asked

/-- **A pass reads what is stored, and what becomes of it is up to its action.** It may also not be
able to read, and then nothing happens. -/
theorem pass_recorded (narrow : ∀ r c reply c', R r c reply c' → Ledger.Conduct r c reply c')
    {name : String} {result : Option (Except Fault Revisit)} {es : Calls}
    (run : (i.pass name).Exec R.recorded (c, []) result (c', es)) :
    (∃ f, result = some (.error f) ∧ c' = c ∧
        es = [⟨.report (.started name), ()⟩, ⟨.readConfig name, .error f⟩]) ∨
      ∃ performed ending, es = i.opening name (some c) ++ (performed ++ ending) ∧
        ending <+: i.closing name (some c) ∧
        (i.perform name (i.decide name (some c)) (some c)).Exec heard [] result performed ∧
        Program.Leads R c performed c' := by
  have leads : Program.Leads R c es c' := Program.Exec.leads run
  rcases (pass_tells i name).recorded run with ⟨f, rfl, rfl⟩ |
    ⟨stored, performed, ending, rfl, ends, performing⟩
  · have asked := (unread_idle name f).mono fun _ idle => idle.1
    exact Or.inl ⟨f, rfl, leads_still narrow leads asked, rfl⟩
  · obtain ⟨c₁, opens, later⟩ := Program.leads_append.1 leads
    obtain ⟨c₂, acts, closes⟩ := Program.leads_append.1 later
    obtain rfl : c₁ = c :=
      leads_still narrow opens ((opening_idle i name stored).mono fun _ idle => idle.1)
    obtain rfl : c' = c₂ :=
      leads_still narrow closes ((closing_idle ends).mono fun _ idle => idle.1)
    -- The second call is the one that reads.
    obtain rfl : stored = some c₁ := by
      cases opens with
      | cons started rest =>
        cases rest with
        | cons read _ =>
          obtain rfl := (narrow _ _ _ _ started).still rfl
          exact (narrow _ _ _ _ read).2 stored rfl
    exact Or.inr ⟨performed, ending, rfl, ends, performing, acts⟩

end

end Installation

end PhasedInstall
