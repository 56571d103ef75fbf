import PhasedInstall.Manifest.Apply
import PhasedInstall.Proofs.Cluster.Work

/-!
# What applying and removing ask of the cluster

Applying, removing and waiting concern objects only, so none of them touches the watched resource;
waiting does not touch objects either. Both facts hold for every cluster, since they are about the
requests and not about the replies.
-/

set_option autoImplicit false

namespace PhasedInstall

open Cluster

variable {P : Request → Prop}

namespace Document

theorem live?_only {d : Document} (find : P (.find d)) : d.live?.Only P := by
  refine Work.Only.bind (Work.Only.outcome ⟨find, fun _ => trivial⟩) fun found => ?_
  cases found with
  | ok live => exact Work.only_pure live
  | error f =>
    dsimp only
    split
    · exact Work.only_pure _
    · exact Work.only_throw f

theorem firstLive?_only {ds : List Document} (find : ∀ d ∈ ds, P (.find d)) :
    (firstLive? ds).Only P := by
  induction ds with
  | nil => exact Work.only_pure _
  | cons d rest ih =>
    obtain ⟨here, there⟩ := List.forall_mem_cons.1 find
    refine Work.Only.bind (live?_only here) fun live => ?_
    cases live with
    | some _ => exact Work.only_pure _
    | none => exact ih there

theorem apply_leavesConfig (d : Document) : d.apply.Only (·.writesConfig = false) := by
  refine Work.Only.bind ⟨rfl, fun _ => trivial⟩ fun found => ?_
  cases found with
  | none => exact Work.Only.bind ⟨rfl, fun _ => trivial⟩ fun _ => Work.only_pure _
  | some live =>
    dsimp only
    split
    · exact Work.only_pure _
    · exact Work.Only.bind (Work.only_ofExcept _) fun merged =>
        Work.Only.bind ⟨rfl, fun _ => trivial⟩ fun _ => Work.only_pure _

theorem remove_only {policy : DeletePolicy} {d : Document} (find : P (.find d))
    (delete : P (.delete d policy)) : (d.remove policy).Only P := by
  refine Work.Only.bind (live?_only find) fun live => ?_
  cases live with
  | none => exact Work.only_pure _
  | some live =>
    dsimp only
    split
    · exact Work.only_pure _
    · refine Work.Only.bind (Work.Only.outcome ⟨delete, fun _ => trivial⟩) fun deleted => ?_
      cases deleted with
      | ok _ => exact Work.only_pure _
      | error f =>
        dsimp only
        split
        · exact Work.only_pure _
        · exact Work.only_throw f

end Document

namespace Manifest

theorem applyAll_leavesConfig (ds : List Document) :
    (applyAll ds).Only (·.writesConfig = false) := by
  induction ds with
  | nil => exact Work.only_pure _
  | cons d rest ih => exact Work.Only.bind d.apply_leavesConfig fun _ => ih

theorem removeAll_only {policy : DeletePolicy} {ds : List Document} (find : ∀ d ∈ ds, P (.find d))
    (delete : ∀ d ∈ ds, P (.delete d policy)) : (removeAll policy ds).Only P := by
  induction ds with
  | nil => exact Work.only_pure _
  | cons d rest ih =>
    obtain ⟨finds, findsRest⟩ := List.forall_mem_cons.1 find
    obtain ⟨deletes, deletesRest⟩ := List.forall_mem_cons.1 delete
    exact Work.Only.bind (Document.remove_only finds deletes) fun _ => ih findsRest deletesRest

theorem removeAll_leavesConfig (policy : DeletePolicy) (ds : List Document) :
    (removeAll policy ds).Only (·.writesConfig = false) :=
  removeAll_only (fun _ _ => rfl) fun _ _ => rfl

theorem awaitAbsence_only {ds : List Document} (find : ∀ d ∈ ds, P (.find d))
    (clock : ∀ t, P (.clock t)) (sleep : ∀ t n, P (.sleep t n)) (patience : Patience)
    (deadline now : Nat) : (awaitAbsence ds patience deadline now).Only P := by
  -- The time left before the deadline shrinks with every pause.
  induction h : deadline - now using Nat.strongRecOn generalizing now with
  | ind left ih =>
    rw [awaitAbsence]
    refine Work.Only.bind (Document.firstLive?_only find) fun first => ?_
    cases first with
    | none => exact Work.only_pure _
    | some d =>
      refine Work.Only.bind ⟨clock now, fun _ => trivial⟩ fun ⟨seen, hseen⟩ => ?_
      dsimp only
      split
      · exact Work.only_throw _
      · refine Work.Only.bind ⟨sleep seen _, fun _ => trivial⟩ fun ⟨woken, hwoken⟩ => ?_
        have : 1 ≤ patience.pause := Nat.le_max_left 1 _
        exact ih (deadline - woken) (by omega) woken rfl

theorem awaitRemoval_only {m : Manifest} (find : ∀ d ∈ m.documents, P (.find d))
    (clock : ∀ t, P (.clock t)) (sleep : ∀ t n, P (.sleep t n)) (patience : Patience) :
    (m.awaitRemoval patience).Only P :=
  Work.Only.bind ⟨clock 0, fun _ => trivial⟩ fun ⟨_, _⟩ =>
    awaitAbsence_only find clock sleep _ _ _

theorem recreate_leavesConfig (m : Manifest) (patience : Patience) :
    (m.recreate patience).Only (·.writesConfig = false) :=
  Work.Only.bind (removeAll_leavesConfig _ _) fun _ =>
    Work.Only.bind (awaitRemoval_only (fun _ _ => rfl) (fun _ => rfl) (fun _ _ => rfl) patience)
      fun _ => applyAll_leavesConfig m.documents

theorem applyOrRecreate_leavesConfig (m : Manifest) (patience : Patience) :
    (m.applyOrRecreate patience).Only (·.writesConfig = false) := by
  refine Work.Only.bind (Work.Only.outcome (applyAll_leavesConfig m.documents)) fun applied => ?_
  cases applied with
  | ok _ => exact Work.only_pure _
  | error f =>
    dsimp only
    split
    · exact m.recreate_leavesConfig patience
    · exact Work.only_throw f

end Manifest

end PhasedInstall
