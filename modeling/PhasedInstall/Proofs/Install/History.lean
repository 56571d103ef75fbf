import Mathlib.Logic.Relation
import PhasedInstall.Proofs.Install.Course
import PhasedInstall.Proofs.Install.Recording

/-!
# The history that one operator writes

A run of passes over the watched resource leaves a history that follows the plan: each phase fails
any number of times, passes once, and hands over to its successor, until `installed` ends the
course for good.

What carries the induction is `OnCourse`. The recorded codes are the progress of one installation,
every entry is of the operator's release, and once there is an entry the operator's identity is
stamped on the status. The last two clauses look like bookkeeping, but they are why nothing
follows `installed`: the comparison that would start over finds release and identity as its own.
-/

set_option autoImplicit false

namespace PhasedInstall

open Cluster

namespace Operator

variable {o : Operator} {plan : Plan} {c : Config}

/-- What the operator does about the resource that it watches. -/
theorem decide_watched (o : Operator) (plan : Plan) (c : Config) :
    o.decide plan o.watchResource (some c) =
      if c.isBeingDeleted then if c.hasFinalizer then .delete else .noOp
      else if c.hasFinalizer then o.nextAction plan c else .addFinalizer := by
  simp [decide]

theorem nextAction_of_due {phase : Phase} (h : plan.due c.installStatus = some phase) :
    o.nextAction plan c = .run phase := by
  unfold Plan.due at h
  unfold nextAction
  cases dispatched : c.installStatus.dispatch with
  | run asked =>
    rw [dispatched] at h
    simp only [h]
  | steadyState =>
    rw [dispatched] at h
    cases h

theorem nextAction_of_installed (h : c.installStatus = .installed) :
    o.nextAction plan c = if c.isUpToDate o.version o.uuid then .noOp else .run .applyPipeline := by
  unfold nextAction
  simp [h, StatusCode.dispatch, Phase.next?, plan.resolve_applyPipeline]

end Operator

namespace Config

/-- A resource whose newest condition completes an installation of a release, by the same operator
or under one without an identity, is up to date. -/
theorem isUpToDate_of_head {c : Config} {head : Condition} {older : List Condition}
    {version uuid : String} (h : c.history = head :: older) (code : head.code = .installed)
    (release : head.version = version) (identity : uuid.isEmpty ∨ c.operatorUuid = uuid) :
    c.isUpToDate version uuid = true := by
  have newest : c.current? = some head := by rw [current?_eq_head?, h]; rfl
  rcases identity with none | same
  · simp [isUpToDate, hasInstalledVersion, newest, code, release, none]
  · simp [isUpToDate, hasInstalledVersion, newest, code, release, same]

end Config

namespace Installation

variable {i : Installation} {c : Config} {phase : Phase} {condition : Condition}

theorem Records.of_run (h : i.Records c (.run phase) condition) :
    condition.version = i.operator.version ∧
      (condition.code = .failed phase ∨ condition.code = i.plan.successCode phase) := by
  cases h with
  | failed _ f => exact ⟨rfl, Or.inl rfl⟩
  | passed _ => cases phase <;> exact ⟨rfl, Or.inr rfl⟩

/-- Whatever is recorded about the next phase is progress. -/
theorem Records.progress {past future : List Phase} {codes : List StatusCode}
    (h : i.Records c (.run phase) condition)
    (before : i.plan.Progress past (phase :: future) codes) :
    ∃ past' future', i.plan.Progress past' future' (condition.code :: codes) := by
  rcases h.of_run.2 with failed | passed
  · exact ⟨past, phase :: future, failed ▸ before.failed⟩
  · exact ⟨past ++ [phase], future, passed ▸ before.passed⟩

end Installation

namespace Ledger

/-- What happens to the watched resource: a pass of the operator, or an edit by somebody else, who
may change anything but the status. -/
inductive Step (i : Installation) : Config → Config → Prop
  | pass {c c' : Config} {result : Option (Except Fault Revisit)} :
      (i.pass i.operator.watchResource).Exec Conduct c result c' → Step i c c'
  | edit {c c' : Config} : c'.status = c.status → Step i c c'

abbrev Run (i : Installation) : Config → Config → Prop := Relation.ReflTransGen (Step i)

/-- **What a step can do**: nothing to the status, or one condition in front, of the action that
the history asks for. -/
theorem Step.records {i : Installation} {c c' : Config} (h : Step i c c') :
    c'.status = c.status ∨
      ∃ condition, i.Records c (i.operator.nextAction i.plan c) condition ∧
        c'.status = (c.withCondition condition i.operator.uuid).status := by
  cases h with
  | edit same => exact Or.inl same
  | pass run =>
    refine (run.ensures (Installation.pass_advances _)).imp_right ?_
    rintro ⟨condition, recorded, written⟩
    refine ⟨condition, ?_, written⟩
    rw [Installation.decide, Operator.decide_watched] at recorded
    -- Only a resource that is neither being deleted nor without finalizer gets an entry.
    split at recorded
    · split at recorded <;> cases recorded
    · split at recorded
      · exact recorded
      · cases recorded

/-- The history is that of one installation by one operator. -/
structure OnCourse (i : Installation) (c : Config) : Prop where
  progress : ∃ past future, i.plan.Progress past future (c.history.map Condition.code)
  release : ∀ x ∈ c.history, x.version = i.operator.version
  identity : c.history ≠ [] → i.operator.uuid.isEmpty ∨ c.operatorUuid = i.operator.uuid

namespace OnCourse

variable {i : Installation} {c c' : Config}

theorem of_empty (h : c.history = []) : OnCourse i c where
  progress := ⟨[], i.plan.phases, by rw [h]; exact .start⟩
  release := by simp [h]
  identity := absurd h

theorem congr (h : OnCourse i c) (same : c'.status = c.status) : OnCourse i c' where
  progress := by rw [Config.history_congr same]; exact h.progress
  release := by rw [Config.history_congr same]; exact h.release
  identity := by
    rw [Config.history_congr same, Config.operatorUuid_congr same]
    exact h.identity

/-- What the history asks for: the next phase, or nothing at all once the plan is done. -/
theorem nextAction {past future : List Phase} (h : OnCourse i c)
    (progress : i.plan.Progress past future (c.history.map Condition.code)) :
    i.operator.nextAction i.plan c = future.head?.elim .noOp .run := by
  have status : c.installStatus = (c.history.map Condition.code).head?.getD .empty := by
    rw [Config.installStatus_eq, List.head?_map]
  rcases future with _ | ⟨phase, rest⟩
  · -- Release and identity are the operator's own, so nothing is to be done again.
    have complete := progress.head?_eq_installed.2 rfl
    rw [Operator.nextAction_of_installed (by rw [status, complete]; rfl)]
    rcases hist : c.history with _ | ⟨head, older⟩
    · simp [hist] at complete
    · rw [hist] at complete
      have release := h.release head (by simp [hist])
      have identity := h.identity (by simp [hist])
      rw [if_pos (Config.isUpToDate_of_head hist (Option.some.inj complete) release identity)]
      rfl
  · exact Operator.nextAction_of_due (status ▸ progress.pending)

/-- A condition of the next phase continues the course. -/
theorem record {condition : Condition} (h : OnCourse i c)
    (recorded : i.Records c (i.operator.nextAction i.plan c) condition)
    (written : c'.status = (c.withCondition condition i.operator.uuid).status) :
    OnCourse i c' := by
  have history : c'.history = condition :: c.history := by
    rw [Config.history_congr written, Config.history_withCondition]
  obtain ⟨past, future, progress⟩ := h.progress
  rw [h.nextAction progress] at recorded
  rcases future with _ | ⟨phase, rest⟩
  · cases recorded
  · refine ⟨?_, ?_, fun _ => ?_⟩
    · rw [history, List.map_cons]
      exact recorded.progress progress
    · rw [history]
      exact List.forall_mem_cons.2 ⟨recorded.of_run.1, h.release⟩
    · rw [Config.operatorUuid_congr written, Config.operatorUuid_withCondition]
      split
      · exact Or.inl ‹_›
      · exact Or.inr rfl

theorem step (h : OnCourse i c) (s : Step i c c') : OnCourse i c' := by
  rcases s.records with same | ⟨condition, recorded, written⟩
  · exact h.congr same
  · exact h.record recorded written

theorem run (h : OnCourse i c) (r : Run i c c') : OnCourse i c' := by
  induction r with
  | refl => exact h
  | tail _ s ih => exact ih.step s

end OnCourse

/-! ## A cluster in which everything succeeds -/

/-- Answers every request about one resource with success. -/
def succeed : (r : Request) → Config → r.Reply × Config
  | .readConfig _, c => (.ok (some c), c)
  | .createConfig d, c => (.ok d, c)
  | .replaceStatus w, c => (.ok { c with status := w.status }, { c with status := w.status })
  | .addFinalizer _, c =>
    (.ok c, { c with metadata := { c.metadata with finalizers := some [finalizerName] } })
  | .removeFinalizer _, c => (.ok (), { c with metadata := { c.metadata with finalizers := none } })
  | .find _, c => (.ok none, c)
  | .create _, c => (.ok (), c)
  | .update _, c => (.ok (), c)
  | .delete _ _, c => (.ok (), c)
  | .deploymentReady _ _, c => (.ok true, c)
  | .webhookExists _, c => (.ok true, c)
  | .definitionInstalled _, c => (.ok false, c)
  | .clock since, c => (⟨since, Nat.le_refl _⟩, c)
  | .sleep since duration, c => (⟨since + duration, Nat.le_refl _⟩, c)
  | .report _, c => ((), c)

theorem conduct_succeed (r : Request) (c : Config) :
    Conduct r c (succeed r c).1 (succeed r c).2 := by
  cases r <;> simp [Conduct, succeed]

def afterPass (i : Installation) (c : Config) : Config :=
  ((i.pass i.operator.watchResource).run.run succeed c).2

theorem step_afterPass (i : Installation) (c : Config) : Step i c (afterPass i c) :=
  .pass (Program.exec_run conduct_succeed _ c)

/-- An operator of a release that has nothing to apply and leaves out the community catalog. -/
def bare (version : String) : Installation where
  operator := { Operator.standard with version := version, skipCommunity := true }
  bundle := {}
  environment := []

/-- A resource that the operator has taken on and for which nothing is recorded yet. -/
def untouched : Config where
  metadata :=
    { name := some Operator.defaultWatchResource
      uid := some "7"
      finalizers := some [finalizerName] }
  spec := { targetNamespace := Operator.defaultTargetNamespace }
  status := none

/-- **The history follows the plan.** Whatever the cluster answers, the codes that one operator
records, oldest first, begin a word of the plan's language; every entry is of the operator's
release; nothing follows `installed`; and the operator never has to mark an installation as
complete, since the last phase has done so. -/
theorem history_follows_plan {i : Installation} {c₀ c : Config} (start : c₀.history = [])
    (run : Run i c₀ c) :
    (∃ rest, (c.history.map Condition.code).reverse ++ rest ∈ courses i.plan.phases) ∧
      (∀ x ∈ c.history, x.version = i.operator.version) ∧
      (∀ x ∈ c.history.tail, x.code ≠ .installed) ∧
      i.decide i.operator.watchResource (some c) ≠ .markInstalled := by
  have course := (OnCourse.of_empty start).run run
  obtain ⟨past, future, progress⟩ := course.progress
  refine ⟨?_, course.release, ?_, ?_⟩
  · obtain ⟨rest, ahead⟩ := courses_nonempty future
    exact ⟨rest, progress.append_mem_courses rest ahead⟩
  · intro x mem
    refine progress.not_installed_of_mem_tail x.code ?_
    rw [← List.map_tail]
    exact List.mem_map_of_mem mem
  · rw [Installation.decide, Operator.decide_watched, course.nextAction progress]
    rcases future with _ | ⟨phase, rest⟩ <;> split <;> split <;> simp

/-- Three passes over an untouched resource, with the history that they leave. -/
theorem history_of_three_passes :
    let c := afterPass (bare "v1") (afterPass (bare "v1") (afterPass (bare "v1") untouched))
    untouched.history = [] ∧ Run (bare "v1") untouched c ∧
      c.history.map Condition.code =
        [.installed, .passed .validatePipeline, .passed .applyPipeline] ∧
      (∃ rest, (c.history.map Condition.code).reverse ++ rest ∈ courses (bare "v1").plan.phases) ∧
      (∀ x ∈ c.history, x.version = "v1") ∧
      (∀ x ∈ c.history.tail, x.code ≠ .installed) ∧
      (bare "v1").decide Operator.defaultWatchResource (some c) ≠ .markInstalled := by
  intro c
  have start : untouched.history = [] := rfl
  have run : Run (bare "v1") untouched c :=
    ((Relation.ReflTransGen.single (step_afterPass _ _)).tail (step_afterPass _ _)).tail
      (step_afterPass _ _)
  exact ⟨start, run, by decide, history_follows_plan start run⟩

end Ledger

end PhasedInstall
