import PhasedInstall.Proofs.Cluster.Calls
import PhasedInstall.Proofs.Json.Distinct
import PhasedInstall.Proofs.Manifest.Mark
import PhasedInstall.Proofs.Manifest.Reading
import PhasedInstall.Proofs.Manifest.Requests

/-!
# A namespace that was not created here

One namespace of a cluster is followed through whatever the operator does. Nothing is assumed about
the other objects, and little about this one: lookups show its mark as it is, or fail, and writes
to it are done as they are asked for, or not at all. The server may fill in what it likes beside
the mark.

The mark decides whether a removal takes the namespace away, and every write could change it, so
the two are proved together (`Spared`): the mark stays what it was or is lost, and no deletion of
the namespace is asked for. A mark can be lost because a document may give something as its
annotations that is no object and replaces those of the namespace as a whole.
-/

set_option autoImplicit false

namespace PhasedInstall

open Cluster

/-! ## One namespace of a cluster -/

/-- Which documents a cluster takes to be about one of its namespaces: those with its name. A
cluster may heed the namespace that a document declares beside it, or disregard it. -/
structure NamespaceAddress where
  name : String
  heeds : Option String → Prop

namespace NamespaceAddress

variable {a : NamespaceAddress} {d live merged : Document}

def Names (a : NamespaceAddress) (d : Document) : Prop :=
  d.kind = "Namespace" ∧ d.name = a.name ∧ a.heeds d.namespace?

/-- An object can be what a lookup of a document finds. -/
structure Fits (a : NamespaceAddress) (d live : Document) : Prop where
  kind : live.kind = d.kind
  name : live.name = d.name
  ns : a.heeds live.namespace? ↔ a.heeds d.namespace?

/-- A document that is laid over what it finds is about the same object. -/
theorem names_overlay (distinct : d.value.keysDistinct) (fits : a.Fits d live) :
    a.Names (Document.mk (live.value.overlay d.value)) ↔ a.Names d := by
  have fields := Json.nodup_of_keysDistinct distinct
  have metadata := Json.nodup_of_keysDistinct
    (Json.keysDistinct_getD (Json.keysDistinct_membersOrNone distinct) "metadata")
  have ns := Document.namespace?_overlay a.heeds fields metadata (propext fits.ns)
  rw [Names, Names, Document.kind_overlay fields fits.kind,
    Document.name_overlay fields metadata fits.name, ns]

/-- How a cluster may answer, seen from one of its namespaces. -/
def Conduct (a : NamespaceAddress) : PhasedInstall.Conduct Cluster.interface (Option Document)
  | .find d, live, reply, live' =>
    live'.map Document.mark = live.map Document.mark ∧ ∀ found, reply = .ok (some found) →
      a.Fits d found ∧ (a.Names d → live.map Document.mark = some found.mark)
  | .create d, live, _, live' =>
    live'.map Document.mark = live.map Document.mark ∨
      a.Names d ∧ live = none ∧ live'.map Document.mark = some d.mark
  | .update d, live, _, live' =>
    live'.map Document.mark = live.map Document.mark ∨
      a.Names d ∧ live'.map Document.mark = some d.mark
  | .delete d _, live, _, live' =>
    live'.map Document.mark = live.map Document.mark ∨ a.Names d ∧ live' = none
  | _, live, _, live' => live'.map Document.mark = live.map Document.mark

end NamespaceAddress

/-! ## Sparing it -/

/-- The namespace is still there with the mark that it had, or without any, and its deletion has
not been asked for. -/
structure Spared (a : NamespaceAddress) (mark : Option Json) (s : Option Document × Calls) :
    Prop where
  there : ∃ m, s.1.map Document.mark = some m ∧ (m = mark ∨ m = none)
  unasked : ∀ e ∈ s.2, ∀ d, e.request.deleted? = some d → ¬ a.Names d

/-- The requests that cannot hurt the namespace, whatever it is like. -/
def NamespaceAddress.Harmless (a : NamespaceAddress) (mark : Option Json) : Request → Prop
  | .update d => a.Names d → d.mark = mark ∨ d.mark = none
  | .delete d _ => ¬ a.Names d
  | _ => True

theorem NamespaceAddress.harmless_of_still {a : NamespaceAddress} {mark : Option Json}
    {r : Request} (still : r.writesObjects = false) : a.Harmless mark r := by
  cases r with
  | update _ => cases still
  | delete _ _ => cases still
  | _ => trivial

namespace Spared

variable {a : NamespaceAddress} {mark : Option Json} {s s' : Option Document × Calls}

/-- **One request.** Only an update or a deletion could do harm, and a creation comes too late. -/
theorem step (h : Spared a mark s) {r : Request} {reply : r.Reply} (harmless : a.Harmless mark r)
    (step : a.Conduct.recorded r s reply s') : Spared a mark s' := by
  obtain ⟨live, es⟩ := s
  obtain ⟨live', es'⟩ := s'
  obtain ⟨answered, rfl⟩ := step
  obtain ⟨m, there, kept⟩ := h.there
  refine ⟨?_, ?_⟩
  · have still (same : live'.map Document.mark = live.map Document.mark) :
        ∃ m, live'.map Document.mark = some m ∧ (m = mark ∨ m = none) := ⟨m, same ▸ there, kept⟩
    cases r with
    | find d => exact still answered.1
    | create d =>
      -- A creation is only carried out where nothing is.
      rcases answered with same | ⟨-, rfl, -⟩
      · exact still same
      · cases there
    | update d =>
      rcases answered with same | ⟨named, written⟩
      · exact still same
      · exact ⟨d.mark, written, harmless named⟩
    | delete d policy =>
      rcases answered with same | ⟨named, -⟩
      · exact still same
      · exact absurd named harmless
    | _ => exact still answered
  · intro e mem d deleted
    rcases List.mem_append.1 mem with old | new
    · exact h.unasked e old d deleted
    · obtain rfl := List.mem_singleton.1 new
      cases r with
      | delete d' policy =>
        cases deleted
        exact harmless
      | _ => cases deleted

theorem preserves {α : Type} {w : Work α} (harmless : w.Only (a.Harmless mark)) :
    w.Preserves a.Conduct.recorded (Spared a mark) :=
  harmless.preserves_of fun _ _ _ _ safe step h => h.step safe step

theorem preserves_of_still {α : Type} {w : Work α} (still : w.Only (·.writesObjects = false)) :
    w.Preserves a.Conduct.recorded (Spared a mark) :=
  preserves (still.mono fun _ leaves => NamespaceAddress.harmless_of_still leaves)

/-- What a lookup shows of the namespace is the mark that it has. -/
theorem found (h : Spared a mark s) {d live : Document}
    (step : a.Conduct.recorded (.find d) s (.ok (some live)) s') (named : a.Names d) :
    live.mark = mark ∨ live.mark = none := by
  obtain ⟨m, there, kept⟩ := h.there
  obtain ⟨-, shown⟩ := (step.1.2 live rfl)
  rw [shown named] at there
  cases there
  exact kept

end Spared

namespace Document

variable {a : NamespaceAddress} {mark : Option Json} {d : Document}

/-- **Applying a document spares the namespace**: if the document is about it, it is there, so it
is not created, and what is laid over it says nothing about the mark. -/
theorem apply_spares (distinct : d.value.keysDistinct) (silent : d.mark = none) :
    d.apply.Preserves a.Conduct.recorded (Spared a mark) := by
  intro s h
  refine Work.ensures_find_bind.2 fun reply s' step => ?_
  have after : Spared a mark s' := h.step (r := .find d) trivial step
  rcases reply with f | _ | live
  · exact after
  · have creates : (Work.create d.forCreation).Only (a.Harmless mark) :=
      ⟨trivial, fun _ => trivial⟩
    exact Spared.preserves (creates.andReturn _) s' after
  · dsimp only
    split
    · exact after
    · cases merge : ofJson (live.value.overlay d.value) with
      | error f => exact after
      | ok merged =>
        obtain ⟨rfl, -⟩ := ofJson_eq_ok merge
        have updates : (Work.update ⟨live.value.overlay d.value⟩).Only (a.Harmless mark) := by
          refine ⟨fun named => ?_, fun _ => trivial⟩
          have about := (NamespaceAddress.names_overlay distinct (step.1.2 live rfl).1).1 named
          rcases mark_overlay distinct silent live with same | lost
          · rw [same]
            exact h.found step about
          · exact Or.inr lost
        exact Spared.preserves (updates.andReturn _) s' after

theorem live?_spares (s : Option Document × Calls) (h : Spared a mark s) :
    d.live?.Ensures a.Conduct.recorded s fun result s' =>
      Spared a mark s' ∧ ∀ live, result = some (.ok (some live)) → a.Names d →
        live.mark = mark ∨ live.mark = none := by
  refine Work.ensures_find_outcome_bind.2 fun reply s' step => ?_
  have after : Spared a mark s' := h.step (r := .find d) trivial step
  rcases reply with f | live
  · dsimp only
    split
    · exact ⟨after, fun live impossible => by cases impossible⟩
    · exact ⟨after, fun live impossible => by cases impossible⟩
  · refine ⟨after, fun live same => ?_⟩
    cases same
    exact h.found step

/-- **Removing a document spares the namespace**, whatever the document says: it is found without
the mark. -/
theorem remove_spares (unmarked : mark ≠ some (.str "true")) (policy : DeletePolicy)
    (d : Document) : (d.remove policy).Preserves a.Conduct.recorded (Spared a mark) := by
  intro s h
  refine (live?_spares s h).bind ?_ (fun f s' found => found.1) fun s' found => found.1
  rintro (_ | live) s' ⟨after, shown⟩
  · exact after
  · dsimp only
    split
    · exact after
    · rename_i removable
      have safe : ¬ a.Names d := by
        intro named
        have foreign : live.isMarked = false := by
          rw [isMarked_eq_false_iff]
          rcases shown live rfl named with same | lost
          · rwa [same]
          · simp [lost]
        simp [named.1, foreign] at removable
      have deletes : (Work.delete d policy).Only (a.Harmless mark) := ⟨safe, fun _ => trivial⟩
      refine Spared.preserves (Work.Only.bind deletes.outcome fun deleted => ?_) s' after
      cases deleted with
      | ok _ => exact Work.only_pure _
      | error f =>
        dsimp only
        split
        · exact Work.only_pure _
        · exact Work.only_throw f

end Document

namespace Manifest

variable {a : NamespaceAddress} {mark : Option Json} {ds : List Document} {m : Manifest}

/-- No document says anything about the mark. -/
def Silent (m : Manifest) : Prop := ∀ d ∈ m.documents, d.mark = none

theorem applyAll_spares (distinct : ∀ d ∈ ds, d.value.keysDistinct)
    (silent : ∀ d ∈ ds, d.mark = none) :
    (applyAll ds).Preserves a.Conduct.recorded (Spared a mark) := by
  induction ds with
  | nil => exact Work.preserves_pure _
  | cons d rest ih =>
    obtain ⟨first, others⟩ := List.forall_mem_cons.1 distinct
    obtain ⟨here, there⟩ := List.forall_mem_cons.1 silent
    exact (Document.apply_spares first here).bind fun _ => ih others there

theorem removeAll_spares (unmarked : mark ≠ some (.str "true")) (policy : DeletePolicy)
    (ds : List Document) : (removeAll policy ds).Preserves a.Conduct.recorded (Spared a mark) := by
  induction ds with
  | nil => exact Work.preserves_pure _
  | cons d rest ih => exact (Document.remove_spares unmarked policy d).bind fun _ => ih

theorem recreate_spares (unmarked : mark ≠ some (.str "true")) (distinct : m.Distinct)
    (silent : m.Silent) (patience : Patience) :
    (m.recreate patience).Preserves a.Conduct.recorded (Spared a mark) := by
  have waits := awaitRemoval_only (m := m) (P := (·.writesObjects = false)) (fun _ _ => rfl)
    (fun _ => rfl) (fun _ _ => rfl) patience
  exact (removeAll_spares unmarked _ _).bind fun _ =>
    (Spared.preserves_of_still waits).bind fun _ => applyAll_spares distinct silent

theorem applyOrRecreate_spares (unmarked : mark ≠ some (.str "true")) (distinct : m.Distinct)
    (silent : m.Silent) (patience : Patience) :
    (m.applyOrRecreate patience).Preserves a.Conduct.recorded (Spared a mark) := by
  have applies : m.apply.Preserves a.Conduct.recorded (Spared a mark) :=
    applyAll_spares distinct silent
  refine applies.outcome.bind fun applied => ?_
  cases applied with
  | ok _ => exact Work.preserves_pure _
  | error f =>
    dsimp only
    split
    · exact recreate_spares unmarked distinct silent patience
    · exact Work.preserves_throw f

end Manifest

end PhasedInstall
