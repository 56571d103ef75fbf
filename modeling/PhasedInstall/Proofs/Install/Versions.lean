import PhasedInstall.Proofs.Install.Failure

/-!
# The releases of the components

Two components have a controller, and a phase that validates them. A successful validation is the
only thing that brings a release of a component into the history, and everything else that is
recorded carries on what the head of the history says, for both components. So it makes no
difference how many passes of how many operators come after it, or what becomes of them: the head
names the release that the last successful validation has found (`Validated.version`).

`Entered` is about a single pass. It says which condition the pass has put in front of the history,
together with the work that this condition is about.
-/

set_option autoImplicit false

namespace PhasedInstall

open Cluster

/-- The components that are validated. -/
inductive Validation where
  | pipeline
  | triggers
deriving DecidableEq, Repr

namespace Validation

/-- The phase that validates the component. -/
def phase : Validation → Phase
  | pipeline => .validatePipeline
  | triggers => .validateTriggers

def component : Validation → Component
  | pipeline => .pipeline
  | triggers => .triggers

/-- The release of the component that a condition carries. -/
def version : Validation → Condition → Option String
  | pipeline => Condition.pipelineVersion
  | triggers => Condition.triggersVersion

/-- The release of the component that the current state of a resource names. -/
def current (v : Validation) (c : Config) : Option String := c.current?.bind v.version

/-- The release of the component that an operator brings: the label of the first deployment of the
component's controller in its group. -/
def brought (v : Validation) (i : Installation) : Option String :=
  v.component.release? (i.bundle.forPhase v.phase)

variable {v : Validation} {i : Installation} {c c' : Config}

theorem current_eq (v : Validation) (c : Config) :
    v.current c = c.history.head?.bind v.version := by
  rw [current, Config.current?_eq_head?]

theorem current_congr (same : c'.status = c.status) : v.current c' = v.current c := by
  rw [current_eq, current_eq, Config.history_congr same]

theorem current_recorded {x : Condition} {uuid : String}
    (written : c'.status = (c.withCondition x uuid).status) : v.current c' = v.version x := by
  rw [current_eq, Config.history_congr written, Config.history_withCondition]
  rfl

/-- Every condition that an operator makes carries on what is recorded. -/
theorem version_condition (v : Validation) (i : Installation) (c : Config) (code : StatusCode) :
    v.version (i.condition c code) = v.current c := by
  cases v <;> rfl

theorem version_failedCondition (v : Validation) (i : Installation) (c : Config) (phase : Phase)
    (f : Fault) : v.version (i.failedCondition c phase f) = v.current c := by
  cases v <;> rfl

/-- Its own validation brings the component's release, if there is one. -/
theorem version_passedCondition (v : Validation) (i : Installation) (c : Config) :
    v.version (i.passedCondition c v.phase) = (v.brought i).or (v.current c) := by
  cases v with
  | pipeline => exact Option.orElse_eq_or
  | triggers => exact Option.orElse_eq_or

theorem version_passedCondition_of_ne {phase : Phase} (other : phase ≠ v.phase) :
    v.version (i.passedCondition c phase) = v.current c := by
  cases v <;> cases phase <;> first | rfl | exact absurd rfl other

theorem phase_injective {v w : Validation} (same : v.phase = w.phase) : v = w := by
  cases v <;> cases w <;> first | rfl | cases same

end Validation

namespace Installation

variable {i : Installation} {name : String} {c c' : Config}

/-- What a pass may have put in front of the history, and why. -/
inductive Entered (i : Installation) (name : String) (c : Config) (es : Calls) : Condition → Prop
  | passed {phase : Phase} :
      i.Worked name c phase (some (.ok true)) es → Entered i name c es (i.passedCondition c phase)
  | failed {phase : Phase} {f : Fault} :
      i.Worked name c phase (some (.error f)) es → Entered i name c es (i.failedCondition c phase f)
  | installed :
      i.decide name (some c) = .markInstalled → Entered i name c es (i.condition c .installed)
  | invalid : i.decide name (some c) = .markInvalid → Entered i name c es i.invalidName

section
variable {R : PhasedInstall.Conduct Cluster.interface Config}

theorem leads_recording (narrow : ∀ r c reply c', R r c reply c' → Ledger.Conduct r c reply c')
    {w : Config} {reply : Except Fault Config}
    (leads : Program.Leads R c [⟨.replaceStatus w, reply⟩] c') :
    c'.status = c.status ∨ c'.status = w.status := by
  cases leads with
  | cons step rest =>
    cases rest
    rcases narrow _ _ _ _ step with rfl | ⟨rfl, -⟩
    · exact Or.inr rfl
    · exact Or.inl rfl

/-- **What a pass records is what it has worked on.** -/
theorem pass_enters (narrow : ∀ r c reply c', R r c reply c' → Ledger.Conduct r c reply c')
    {result : Option (Except Fault Revisit)} {es : Calls}
    (run : (i.pass name).Exec R.recorded (c, []) result (c', es)) :
    c'.status = c.status ∨ ∃ x, i.Entered name c es x ∧
      c'.status = (c.withCondition x i.operator.uuid).status := by
  have advances : i.Advances c (i.decide name (some c)) c' :=
    (Work.Ensures.within narrow (pass_advances name)).recorded run
  rcases pass_recorded narrow run with ⟨f, -, rfl, -⟩ |
    ⟨performed, ending, rfl, -, performing, leads⟩
  · exact Or.inl rfl
  cases due : i.decide name (some c) with
  | run phase =>
    rw [due] at performing
    obtain ⟨own, during, after, rfl, working, concluded⟩ :=
      (runPhase_tells i c phase).exec performing
    -- The work leaves the resource alone, so it is what follows the work that changes it.
    obtain ⟨c₁, works, concludes⟩ := Program.leads_append.1 leads
    obtain rfl : c₁ = c :=
      leads_still narrow works ((work_leavesConfig i c phase).tells.exec working)
    have worked : i.Worked name c₁ phase own
        (i.opening name (some c₁) ++ (during ++ after ++ ending)) :=
      ⟨due, during, after ++ ending, by rw [List.append_assoc], working⟩
    cases concluded with
    | failed f reply =>
      cases concludes with
      | cons step rest =>
        obtain rfl := (narrow _ _ _ _ step).still rfl
        exact (leads_recording narrow rest).imp_right fun written => ⟨_, .failed worked, written⟩
    | waiting =>
      cases concludes
      exact Or.inl rfl
    | passed stored =>
      exact (leads_recording narrow concludes).imp_right fun written => ⟨_, .passed worked, written⟩
    | unrecorded f =>
      exact (leads_recording narrow concludes).imp_right fun written => ⟨_, .passed worked, written⟩
    | gaveUp =>
      cases concludes
      exact Or.inl rfl
  | markInstalled =>
    rw [due] at advances
    refine advances.imp_right ?_
    rintro ⟨x, ⟨⟩, written⟩
    exact ⟨_, .installed due, written⟩
  | markInvalid =>
    rw [due] at advances
    refine advances.imp_right ?_
    rintro ⟨x, ⟨⟩, written⟩
    exact ⟨_, .invalid due, written⟩
  | _ =>
    rw [due] at advances
    refine advances.imp_right ?_
    rintro ⟨x, ⟨⟩, -⟩

end

/-- A pass has done the work of one phase at most. -/
theorem Worked.unique {phase phase' : Phase} {own own' : Option (Except Fault Bool)} {es : Calls}
    (h : i.Worked name c phase own es) (h' : i.Worked name c phase' own' es) :
    phase' = phase ∧ own' = own := by
  obtain ⟨due, during, after, rfl, working⟩ := h
  obtain ⟨due', during', after', same, working'⟩ := h'
  obtain ⟨-, rest⟩ := opening_inj same
  rw [due] at due'
  cases due'
  obtain ⟨rfl, -⟩ := Program.Exec.unique working working' rest
  exact ⟨rfl, rfl⟩

end Installation

namespace Validation

variable {v w : Validation} {i : Installation} {c c' : Config} {x : Condition} {es : Calls}

/-- The pass was a successful validation of the component. -/
def Passed (v : Validation) (i : Installation) (c : Config) (es : Calls) : Prop :=
  i.Worked i.operator.watchResource c v.phase (some (.ok true)) es

theorem passed_unique (h : v.Passed i c es) (h' : w.Passed i c es) : w = v :=
  phase_injective (h.unique h').1

/-- **The releases in what is recorded.** A successful validation brings the release that it has
found, and everything else carries on. -/
theorem version_entered (entered : i.Entered i.operator.watchResource c es x) :
    (v.Passed i c es → v.version x = (v.brought i).or (v.current c)) ∧
      (¬ v.Passed i c es → v.version x = v.current c) := by
  cases entered with
  | @passed phase worked =>
    by_cases own : phase = v.phase
    · subst own
      exact ⟨fun _ => version_passedCondition v i c, fun other => absurd worked other⟩
    · refine ⟨fun passed => absurd (worked.unique passed).1.symm own, fun _ => ?_⟩
      exact version_passedCondition_of_ne own
  | @failed phase f worked =>
    refine ⟨fun passed => ?_, fun _ => version_failedCondition v i c phase f⟩
    cases (worked.unique passed).2
  | installed due =>
    refine ⟨fun passed => ?_, fun _ => version_condition v i c _⟩
    cases due.symm.trans passed.1
  | invalid due =>
    -- A resource with the watched name is not marked as invalid.
    rw [Installation.decide, Operator.decide_watched] at due
    split at due
    · split at due <;> cases due
    · split at due
      · rcases i.operator.nextAction_cases i.plan c with next | next | ⟨phase, next⟩ <;>
          cases next.symm.trans due
      · cases due

/-- No pass changes what is recorded of both components. -/
theorem version_entered_same (entered : i.Entered i.operator.watchResource c es x) :
    ∃ v : Validation, v.version x = v.current c := by
  by_cases first : pipeline.Passed i c es
  · refine ⟨triggers, (version_entered entered).2 fun second => ?_⟩
    cases passed_unique first second
  · exact ⟨pipeline, (version_entered entered).2 first⟩

/-! ## What is left of a run -/

/-- How a resource comes about from another one while operators pass over it, whatever their
releases and manifests are and whatever becomes of their passes. The releases that were found by
successful validations of the component and recorded are kept, the last one first. -/
inductive Run (v : Validation) : List String → Config → Config → Prop
  | start (c : Config) : Run v [] c c
  | edit {releases : List String} {c₀ c c' : Config} :
      Run v releases c₀ c → c'.status = c.status → Run v releases c₀ c'
  | found {releases : List String} {c₀ c c' : Config} {i : Installation}
      {result : Option (Except Fault Revisit)} {es : Calls} {release : String} :
      Run v releases c₀ c →
      (i.pass i.operator.watchResource).Exec Ledger.Conduct.recorded (c, []) result (c', es) →
      v.Passed i c es → c'.status ≠ c.status → v.brought i = some release →
      Run v (release :: releases) c₀ c'
  | other {releases : List String} {c₀ c c' : Config} {i : Installation}
      {result : Option (Except Fault Revisit)} {es : Calls} :
      Run v releases c₀ c →
      (i.pass i.operator.watchResource).Exec Ledger.Conduct.recorded (c, []) result (c', es) →
      ¬ (v.Passed i c es ∧ c'.status ≠ c.status ∧ v.brought i ≠ none) → Run v releases c₀ c'

theorem pass_carries {result : Option (Except Fault Revisit)}
    (run : (i.pass i.operator.watchResource).Exec Ledger.Conduct.recorded (c, []) result (c', es)) :
    c'.status = c.status ∨
      (v.Passed i c es → v.current c' = (v.brought i).or (v.current c)) ∧
        (¬ v.Passed i c es → v.current c' = v.current c) := by
  rcases Installation.pass_enters (fun _ _ _ _ step => step) run with same | ⟨x, entered, written⟩
  · exact Or.inl same
  · rw [current_recorded written]
    exact Or.inr (version_entered entered)

/-- **The head names the release that was found last.** -/
theorem Run.current {releases : List String} {c₀ c : Config} (run : v.Run releases c₀ c) :
    v.current c = releases.head?.or (v.current c₀) := by
  induction run with
  | start c => rfl
  | edit _ same ih => rw [current_congr same, ih]
  | found _ pass passed changed brought _ =>
    rcases pass_carries (v := v) pass with same | ⟨brings, -⟩
    · exact absurd same changed
    · rw [brings passed, brought]
      rfl
  | @other releases c₀ c c' i result es _ pass nothing ih =>
    rw [← ih]
    by_cases changed : c'.status = c.status
    · exact current_congr changed
    · obtain ⟨brings, carries⟩ := (pass_carries (v := v) pass).resolve_left changed
      by_cases passed : v.Passed i c es
      · -- Something was recorded, so nothing was found.
        have none : v.brought i = none := by
          by_contra found
          exact nothing ⟨passed, changed, found⟩
        rw [brings passed, none, Option.none_or]
      · exact carries passed

/-- **The releases of the components follow the validations.** Whatever is recorded of the watched
resource, and whatever a pass is answered, what it records carries on the releases that the head of
the history names, both of them. The only exception is that a successful validation of a component
brings the release that the label of its controller's deployment gives, if there is one. So a pass
never changes both, and after any run, whoever the operators are, the head names the release that
was found by the last successful validation that has found one, or the one that it named at the
beginning. -/
theorem releases_follow_validations :
    (∀ (i : Installation) (c c' : Config) result es,
      (i.pass i.operator.watchResource).Exec Ledger.Conduct.recorded (c, []) result (c', es) →
      c'.status = c.status ∨ ∃ x, c'.status = (c.withCondition x i.operator.uuid).status ∧
        (∀ v : Validation,
          (v.Passed i c es → v.version x = (v.brought i).or (v.current c)) ∧
            (¬ v.Passed i c es → v.version x = v.current c)) ∧
        ∃ v : Validation, v.version x = v.current c) ∧
      ∀ (v : Validation) releases c₀ c, v.Run releases c₀ c →
        v.current c = releases.head?.or (v.current c₀) := by
  constructor
  · intro i c c' result es run
    rcases Installation.pass_enters (fun _ _ _ _ step => step) run with same | ⟨x, entered, written⟩
    · exact Or.inl same
    · exact Or.inr ⟨x, written, fun v => version_entered entered, version_entered_same entered⟩
  · intro v releases c₀ c run
    exact run.current

/-- The controller of the pipelines with a release. -/
def released : Document :=
  ⟨.obj [("kind", .str "Deployment"), ("metadata", .obj [
    ("name", .str "tekton-pipelines-controller"),
    ("labels", .obj [("pipeline.tekton.dev/release", .str "v0.5")])])]⟩

/-- An operator that brings this controller. -/
def labelled : Installation :=
  { Ledger.bare "v1" with bundle := { pipeline.documents := [released] } }

/-- A pass in a cluster in which everything succeeds: how it ends, the resource afterwards, and its
calls. -/
def goodPass (i : Installation) (c : Config) : Option (Except Fault Revisit) × Config × Calls :=
  (i.pass i.operator.watchResource).run.run (recording Ledger.succeed) (c, [])

theorem exec_goodPass (i : Installation) (c : Config) :
    (i.pass i.operator.watchResource).Exec Ledger.Conduct.recorded (c, []) (goodPass i c).1
      ((goodPass i c).2.1, (goodPass i c).2.2) :=
  Program.exec_recording Ledger.conduct_succeed _ (c, [])

/-- The resource after the manifest of the pipelines was applied, after they were validated, and
after another operator has begun anew. -/
def applied : Config := (goodPass labelled Ledger.untouched).2.1

def validated : Config := (goodPass labelled applied).2.1

def begunAnew : Config := (goodPass (Ledger.bare "v2") (goodPass labelled validated).2.1).2.1

/-- A pass that is due for a phase and wants to be called again at once has passed it. -/
theorem passed_of_atOnce
    (run : (i.pass i.operator.watchResource).Exec Ledger.Conduct.recorded (c, [])
      (some (.ok .atOnce)) (c', es))
    (due : i.decide i.operator.watchResource (some c) = .run v.phase) : v.Passed i c es := by
  rcases Installation.pass_recorded (fun _ _ _ _ step => step) run with ⟨f, failed, -⟩ |
    ⟨performed, ending, rfl, -, performing, -⟩
  · cases failed
  · rw [due] at performing
    obtain ⟨own, during, after, rfl, working, concluded⟩ :=
      (Installation.runPhase_tells i c v.phase).exec performing
    cases concluded with
    | passed stored => exact ⟨due, during, _, by rw [List.append_assoc], working⟩

/-- The release that was found is still named when another operator, whose manifests bring none,
has begun anew. -/
theorem releases_follow_validations_begunAnew :
    begunAnew.history.map (fun x => (x.code, x.version, x.pipelineVersion)) =
        [(.passed .applyPipeline, "v2", some "v0.5"), (.installed, "v1", some "v0.5"),
          (.passed .validatePipeline, "v1", some "v0.5"), (.passed .applyPipeline, "v1", none)] ∧
      (validated.status = applied.status ∨
        ∃ x, validated.status = (applied.withCondition x labelled.operator.uuid).status ∧
          (∀ v : Validation,
            (v.Passed labelled applied (goodPass labelled applied).2.2 →
                v.version x = (v.brought labelled).or (v.current applied)) ∧
              (¬ v.Passed labelled applied (goodPass labelled applied).2.2 →
                v.version x = v.current applied)) ∧
          ∃ v : Validation, v.version x = v.current applied) ∧
      pipeline.Run ["v0.5"] Ledger.untouched begunAnew ∧
      pipeline.current begunAnew = some "v0.5" := by
  have passes := exec_goodPass labelled applied
  have ends : (goodPass labelled applied).1 = some (.ok .atOnce) := by decide +kernel
  rw [ends] at passes
  have passed : pipeline.Passed labelled applied (goodPass labelled applied).2.2 :=
    passed_of_atOnce passes (by decide +kernel)
  have before : pipeline.Run [] Ledger.untouched applied := by
    refine .other (.start _) (exec_goodPass labelled Ledger.untouched) ?_
    rintro ⟨⟨due, -⟩, -⟩
    revert due
    decide +kernel
  have run : pipeline.Run ["v0.5"] Ledger.untouched validated :=
    .found before passes passed (by decide +kernel) (by decide +kernel)
  have later : pipeline.Run ["v0.5"] Ledger.untouched begunAnew := by
    refine .other (.other run (exec_goodPass labelled validated) ?_) (exec_goodPass _ _) ?_
    · rintro ⟨⟨due, -⟩, -⟩
      revert due
      decide +kernel
    · rintro ⟨⟨due, -⟩, -⟩
      revert due
      decide +kernel
  exact ⟨by decide +kernel, releases_follow_validations.1 _ _ _ _ _ passes, later,
    releases_follow_validations.2 _ _ _ _ later⟩

end Validation

end PhasedInstall
