import PhasedInstall.Proofs.Install.History

/-!
# Taking over the status of another operator

A status names the operator that wrote it last. An operator with an identity of its own that finds
another one there is to start over, but the identity is looked at in one place only: where the
history says that the installation is complete. Under any other code the operator goes on with the
phase that the code asks for, and its first entry replaces the identity, so the comparison is never
made up for. There are four codes under which an operator does start over.
-/

set_option autoImplicit false

namespace PhasedInstall

/-- Only a complete installation asks for no phase. -/
theorem StatusCode.dispatch_eq_steadyState_iff (code : StatusCode) :
    code.dispatch = .steadyState ↔ code = .installed := by
  cases code with
  | empty | failed _ | invalidResource => simp [StatusCode.dispatch]
  | passed phase => cases phase <;> decide

namespace Plan

/-- A plan is begun before anything is recorded, after a failure of its first phase, and for a
resource that was once not the watched one. -/
theorem due_eq_applyPipeline_iff (plan : Plan) (code : StatusCode) :
    plan.due code = some .applyPipeline ↔
      code = .empty ∨ code = .failed .applyPipeline ∨ code = .invalidResource := by
  obtain ⟨_ | _, _ | _⟩ := plan <;> rcases code with _ | (_ | _ | _ | _ | _ | _) |
    (_ | _ | _ | _ | _ | _) | _ <;> decide

end Plan

namespace Operator

variable {o : Operator} {plan : Plan} {c : Config}

/-- Short of a complete installation the newest code alone decides, whoever recorded it. -/
theorem nextAction_eq_run_iff {phase : Phase} (h : c.installStatus ≠ .installed) :
    o.nextAction plan c = .run phase ↔ plan.due c.installStatus = some phase := by
  refine ⟨fun run => ?_, nextAction_of_due⟩
  unfold nextAction at run
  unfold Plan.due
  cases dispatched : c.installStatus.dispatch with
  | run asked =>
    simp only [dispatched] at run ⊢
    cases resolved : plan.resolve asked with
    | some next =>
      simp only [resolved, Action.run.injEq] at run
      rw [run]
    | none =>
      simp only [resolved] at run
      cases run
  | steadyState =>
    exact absurd ((StatusCode.dispatch_eq_steadyState_iff _).1 dispatched) h

/-- Under `installed` an operator starts over if the status does not bear its identity. -/
theorem nextAction_of_foreign (installed : c.installStatus = .installed)
    (identity : o.uuid ≠ "") (foreign : c.operatorUuid ≠ o.uuid) :
    o.nextAction plan c = .run .applyPipeline := by
  have stale : c.isUpToDate o.version o.uuid = false := by
    simp [Config.isUpToDate, identity, foreign]
  rw [nextAction_of_installed installed, stale]
  rfl

/-- **Whose status an operator starts over from.** An operator with an identity, on a live resource
whose status bears another one, begins with the first phase exactly under four codes: nothing
recorded, a failure of the first phase, a complete installation, and a resource that was not the
watched one. -/
theorem starts_over_iff (identity : o.uuid ≠ "") (recorded : c.history ≠ [])
    (finalizer : c.hasFinalizer = true) (live : c.isBeingDeleted = false)
    (foreign : c.operatorUuid ≠ o.uuid) :
    o.decide plan o.watchResource (some c) = .run .applyPipeline ↔
      ∃ newest older, c.history = newest :: older ∧
        (newest.code = .empty ∨ newest.code = .failed .applyPipeline ∨
          newest.code = .installed ∨ newest.code = .invalidResource) := by
  obtain ⟨newest, older, history⟩ := List.exists_cons_of_ne_nil recorded
  have status : c.installStatus = newest.code := by rw [Config.installStatus_eq, history]; rfl
  rw [decide_watched, live, finalizer]
  simp only [Bool.false_eq_true, if_false, if_true]
  constructor
  · intro run
    refine ⟨newest, older, history, ?_⟩
    -- The identity is compared under `installed` and under no other code.
    by_cases installed : newest.code = .installed
    · exact Or.inr (Or.inr (Or.inl installed))
    · rw [nextAction_eq_run_iff (status ▸ installed), status, plan.due_eq_applyPipeline_iff] at run
      rcases run with empty | failed | invalid
      · exact Or.inl empty
      · exact Or.inr (Or.inl failed)
      · exact Or.inr (Or.inr (Or.inr invalid))
  · rintro ⟨first, rest, same, code⟩
    obtain ⟨rfl, rfl⟩ : newest = first ∧ older = rest := by simpa [history] using same
    by_cases installed : newest.code = .installed
    · exact nextAction_of_foreign (status ▸ installed) identity foreign
    · refine nextAction_of_due ((plan.due_eq_applyPipeline_iff _).2 ?_)
      rw [status]
      simpa [installed] using code

/-- The status of another operator, with one condition of a code. -/
def recordedBy (uuid : String) (code : StatusCode) : Config where
  metadata := { name := some defaultWatchResource, finalizers := some [finalizerName] }
  spec := { targetNamespace := defaultTargetNamespace }
  status := some { operatorUuid := some uuid, conditions := [{ code := code, version := "v1" }] }

theorem starts_over_under_installed :
    let o : Operator := { standard with uuid := "b", version := "v1" }
    let c := recordedBy "a" .installed
    o.uuid ≠ "" ∧ c.history ≠ [] ∧ c.hasFinalizer = true ∧ c.isBeingDeleted = false ∧
      c.operatorUuid ≠ o.uuid ∧
      o.decide .full o.watchResource (some c) = .run .applyPipeline := by
  intro o c
  have identity : o.uuid ≠ "" := by decide
  have recorded : c.history ≠ [] := by decide
  have foreign : c.operatorUuid ≠ o.uuid := by decide
  exact ⟨identity, recorded, by decide, by decide, foreign,
    (starts_over_iff identity recorded (by decide) (by decide) foreign).2
      ⟨_, _, rfl, Or.inr (Or.inr (Or.inl rfl))⟩⟩

/-- **In the middle of an installation a foreign status is taken over**: the operator goes on with
the second phase, although another one has run the first. -/
theorem not_starts_over_in_the_middle :
    ¬ ∀ (o : Operator) (plan : Plan) (c : Config),
      o.uuid ≠ "" → c.history ≠ [] → c.hasFinalizer = true → c.isBeingDeleted = false →
      c.operatorUuid ≠ o.uuid →
      o.decide plan o.watchResource (some c) = .run .applyPipeline := by
  intro always
  have claim := always { standard with uuid := "b", version := "v1" } .full
    (recordedBy "a" (.passed .applyPipeline)) (by decide) (by decide) (by decide) (by decide)
    (by decide)
  exact absurd claim (by decide)

end Operator

end PhasedInstall
