import PhasedInstall.Proofs.Cluster.Store
import PhasedInstall.Proofs.Manifest.Mark
import PhasedInstall.Proofs.Manifest.Requests

/-!
# What applying and removing leave behind

`Tracked` is the invariant that makes a removal able to restore a cluster. Outside of some
identities nothing ever changes. Within them namespaces are the only objects that may have been
there before, so they are the only ones to keep account of: those that were there are still there,
and a namespace bears the mark exactly if it was not. Removal looks at the mark, so it never takes
away a namespace that was there at the start.

The other half is `Gone`: after a removal that succeeds, whatever is still there under one of the
removed identities is an unmarked namespace.
-/

set_option autoImplicit false

namespace PhasedInstall

open Cluster

/-- The objects differ from those at the start only within some identities, and the marks of the
namespaces there tell which of them have been created since. -/
structure Tracked (reach : Identity → Prop) (start st : Store) : Prop where
  frame : ∀ k, ¬ reach k → st.find k = start.find k
  present : ∀ k, reach k → k.kind = "Namespace" → start.find k ≠ none → st.find k ≠ none
  mark : ∀ k live, reach k → k.kind = "Namespace" → st.find k = some live →
    (live.isMarked = true ↔ start.find k = none)

/-- What a removal leaves under an identity: nothing, or a namespace that was not created here. -/
def Gone (k : Identity) (st : Store) : Prop :=
  ∀ live, st.find k = some live → k.kind = "Namespace" ∧ live.isMarked = false

theorem Gone.mono {k : Identity} {st st' : Store} (h : Gone k st) (within : st'.Within st) :
    Gone k st' := fun live found => h live (within k live found)

namespace Tracked

variable {reach : Identity → Prop} {start st : Store}

theorem put (h : Tracked reach start st) {d : Document} (within : reach d.identity)
    (marked : d.kind = "Namespace" → (d.isMarked = true ↔ start.find d.identity = none)) :
    Tracked reach start (st.put d) where
  frame k outside := by
    have other : k ≠ d.identity := fun same => outside (same ▸ within)
    rw [Store.find_put_of_ne other, h.frame k outside]
  present k hk kind old := by
    by_cases same : k = d.identity
    · rw [same, Store.find_put_self]
      exact Option.some_ne_none d
    · rw [Store.find_put_of_ne same]
      exact h.present k hk kind old
  mark k live hk kind found := by
    by_cases same : k = d.identity
    · subst same
      rw [Store.find_put_self] at found
      cases found
      exact marked kind
    · rw [Store.find_put_of_ne same] at found
      exact h.mark k live hk kind found

/-- Writing it, where nobody knows whether that has been done. -/
theorem write (h : Tracked reach start st) {d : Document} (within : reach d.identity)
    (marked : d.kind = "Namespace" → (d.isMarked = true ↔ start.find d.identity = none))
    {st' : Store} (ends : st' = st.put d ∨ st' = st) : Tracked reach start st' := by
  rcases ends with rfl | rfl
  · exact h.put within marked
  · exact h

theorem erase (h : Tracked reach start st) {gone : Identity} (within : reach gone)
    (created : gone.kind = "Namespace" → start.find gone = none) :
    Tracked reach start (st.erase gone) where
  frame k outside := by
    have other : k ≠ gone := fun same => outside (same ▸ within)
    rw [Store.find_erase_of_ne other, h.frame k outside]
  present k hk kind old := by
    have other : k ≠ gone := by
      intro same
      subst same
      exact old (created kind)
    rw [Store.find_erase_of_ne other]
    exact h.present k hk kind old
  mark k live hk kind found := h.mark k live hk kind (Store.erase_within st gone k live found)

/-- Where nothing is found nothing was, if it is a namespace that is looked for. -/
theorem absent (h : Tracked reach start st) {k : Identity} (hk : reach k)
    (kind : k.kind = "Namespace") (found : st.find k = none) : start.find k = none :=
  Classical.byContradiction fun old => h.present k hk kind old found

end Tracked

namespace Document

variable {reach : Identity → Prop} {start st : Store} {d : Document}

/-- **Applying a document keeps the account**: what it creates is marked, and what it changes keeps
its mark. -/
theorem apply_tracked (regular : d.Regular) (within : reach d.identity) :
    d.apply.Preserves Store.Conduct (Tracked reach start) := by
  intro st h
  refine (Store.find_ensures d st).bind ?_ (fun _ _ found => found.1 ▸ h) fun _ found => found.1 ▸ h
  rintro found st' ⟨rfl, current, -⟩
  have looked := current found rfl
  -- A namespace that is not found was not there at the start either, so the mark is right for it;
  -- one that is found keeps the mark, and the account is of no other objects.
  cases found with
  | none =>
    have same := identity_forCreation d
    have created {st₁ : Store} (ends : st₁ = st'.put d.forCreation ∨ st₁ = st') :
        Tracked reach start st₁ := by
      refine h.write (by rw [same]; exact within) (fun kind => ?_) ends
      have isNamespace : d.kind = "Namespace" := (congrArg Identity.kind same).symm.trans kind
      rw [same]
      exact iff_of_true (isMarked_forCreation isNamespace) (h.absent within isNamespace looked.symm)
    exact (Store.create_ensures _ st').bind (fun _ _ ends => created ends)
      (fun _ _ ends => created ends) fun _ ends => created ends
  | some live =>
    have own := st'.own _ _ looked.symm
    dsimp only
    split
    · exact h
    · cases merge : ofJson (live.value.overlay d.value) with
      | error f => exact h
      | ok merged =>
        have same := identity_merged regular merge own
        have updated {st₁ : Store} (ends : st₁ = st'.put merged ∨ st₁ = st') :
            Tracked reach start st₁ := by
          refine h.write (by rw [same]; exact within) (fun kind => ?_) ends
          rw [isMarked_merged regular merge, same]
          exact h.mark _ _ within ((congrArg Identity.kind same).symm.trans kind) looked.symm
        exact (Store.update_ensures merged st').bind (fun _ _ ends => updated ends)
          (fun _ _ ends => updated ends) fun _ ends => updated ends

/-- Looking for the live object changes nothing and finds what is there. -/
theorem live?_ensures (d : Document) (st : Store) :
    d.live?.Ensures Store.Conduct st fun result st' =>
      st' = st ∧ ∀ found, result = some (.ok found) → found = st.find d.identity := by
  refine (Store.find_ensures d st).outcome_bind ?_ ?_
  · rintro (f | found) st' ⟨rfl, current, missing⟩
    · dsimp only
      split
      · rename_i notFound
        refine ⟨rfl, fun found same => ?_⟩
        cases same
        exact (missing f rfl notFound).symm
      · exact ⟨rfl, fun found same => by cases same⟩
    · refine ⟨rfl, fun _ same => ?_⟩
      cases same
      exact current found rfl
  · rintro st' ⟨rfl, -⟩
    exact ⟨rfl, fun found same => by cases same⟩

theorem delete_ensures (policy : DeletePolicy) (d : Document) (st : Store) :
    (do match ← (Work.delete d policy).outcome with
        | .ok () => return ()
        | .error f => if f.isNotFound then return () else throw f : Work Unit).Ensures
      Store.Conduct st fun result st' =>
        (st' = st ∨ st' = st.erase d.identity) ∧
          (result = some (.ok ()) → st'.find d.identity = none) := by
  refine (Store.delete_ensures d policy st).outcome_bind ?_ ?_
  · rintro (f | _) st' (rfl | ⟨rfl, f', refused, missing⟩)
    · dsimp only
      split
      · exact ⟨Or.inr rfl, fun _ => Store.find_erase_self st _⟩
      · exact ⟨Or.inr rfl, fun impossible => by cases impossible⟩
    · cases refused
      dsimp only
      split
      · rename_i notFound
        exact ⟨Or.inl rfl, fun _ => missing notFound⟩
      · exact ⟨Or.inl rfl, fun impossible => by cases impossible⟩
    · exact ⟨Or.inr rfl, fun _ => Store.find_erase_self st _⟩
    · cases refused
  · rintro st' (done | ⟨same, -⟩)
    · exact ⟨Or.inr done, fun impossible => by cases impossible⟩
    · exact ⟨Or.inl same, fun impossible => by cases impossible⟩

/-- What a removal can do: nothing, or take away the object, which is then no unmarked
namespace. -/
def Removed (d : Document) (st st' : Store) : Prop :=
  st' = st ∨ st' = st.erase d.identity ∧ (d.kind = "Namespace" →
    ∃ live, st.find d.identity = some live ∧ live.isMarked = true)

/-- **A removal does no more than it may, and if it succeeds the object is gone.** -/
theorem remove_ensures (policy : DeletePolicy) (d : Document) (st : Store) :
    (d.remove policy).Ensures Store.Conduct st fun result st' =>
      d.Removed st st' ∧ (result = some (.ok ()) → Gone d.identity st') := by
  have idle {result : Option (Except Fault Unit)} (failed : result ≠ some (.ok ())) :
      d.Removed st st ∧ (result = some (.ok ()) → Gone d.identity st) :=
    ⟨Or.inl rfl, fun ok => absurd ok failed⟩
  refine (live?_ensures d st).bind ?_ ?_ ?_
  · rintro found st' ⟨rfl, current⟩
    have looked := current found rfl
    cases found with
    | none =>
      refine ⟨Or.inl rfl, fun _ live there => ?_⟩
      rw [← looked] at there
      cases there
    | some live =>
      dsimp only
      split
      · -- An unmarked namespace is left where it is.
        rename_i kept
        obtain ⟨isNamespace, unmarked⟩ := Bool.and_eq_true_iff.1 kept
        refine ⟨Or.inl rfl, fun _ found there => ?_⟩
        rw [← looked] at there
        cases there
        exact ⟨of_decide_eq_true isNamespace, by simpa using unmarked⟩
      · rename_i removable
        refine (delete_ensures policy d st').mono fun result st₁ ⟨ends, absent⟩ => ?_
        refine ⟨ends.imp_right fun done => ⟨done, fun isNamespace => ?_⟩, fun ok live there => ?_⟩
        · refine ⟨live, looked.symm, ?_⟩
          simpa [isNamespace] using removable
        · rw [absent ok] at there
          cases there
  · rintro f st' ⟨rfl, -⟩
    exact idle (by simp)
  · rintro st' ⟨rfl, -⟩
    exact idle (by simp)

namespace Removed

variable {st' : Store}

theorem within (h : d.Removed st st') : st'.Within st := by
  rcases h with rfl | ⟨rfl, -⟩
  · exact .refl st'
  · exact st.erase_within _

/-- A namespace that bears the mark was not there at the start, so taking it away is no loss. -/
theorem tracked (h : d.Removed st st') (before : Tracked reach start st)
    (within : reach d.identity) : Tracked reach start st' := by
  rcases h with rfl | ⟨rfl, marked⟩
  · exact before
  · refine before.erase within fun isNamespace => ?_
    obtain ⟨live, found, mark⟩ := marked isNamespace
    exact (before.mark _ live within isNamespace found).1 mark

end Removed

theorem remove_tracked (policy : DeletePolicy) (within : reach d.identity) :
    (d.remove policy).Preserves Store.Conduct (Tracked reach start) :=
  fun st before => (remove_ensures policy d st).mono fun _ _ ends => ends.1.tracked before within

end Document

namespace Manifest

variable {reach : Identity → Prop} {start : Store} {ds : List Document}

theorem applyAll_tracked (regular : ∀ d ∈ ds, d.Regular) (within : ∀ d ∈ ds, reach d.identity) :
    (applyAll ds).Preserves Store.Conduct (Tracked reach start) := by
  induction ds with
  | nil => exact fun _ before => before
  | cons d rest ih =>
    obtain ⟨first, others⟩ := List.forall_mem_cons.1 regular
    obtain ⟨here, there⟩ := List.forall_mem_cons.1 within
    exact (Document.apply_tracked first here).bind fun _ => ih others there

theorem removeAll_tracked (policy : DeletePolicy) (within : ∀ d ∈ ds, reach d.identity) :
    (removeAll policy ds).Preserves Store.Conduct (Tracked reach start) := by
  induction ds with
  | nil => exact fun _ before => before
  | cons d rest ih =>
    obtain ⟨here, there⟩ := List.forall_mem_cons.1 within
    exact (Document.remove_tracked policy here).bind fun _ => ih there

/-- Removing one document after the other only ever takes away, so that an object that is gone
stays gone. -/
theorem removeAll_ensures (policy : DeletePolicy) (ds : List Document) (st : Store) :
    (removeAll policy ds).Ensures Store.Conduct st fun result st' =>
      st'.Within st ∧ (result = some (.ok ()) → ∀ d ∈ ds, Gone d.identity st') := by
  induction ds generalizing st with
  | nil => exact ⟨.refl st, fun _ _ mem => by cases mem⟩
  | cons d rest ih =>
    refine (Document.remove_ensures policy d st).bind ?_ ?_ ?_
    · rintro _ st₁ ⟨removed, gone⟩
      refine (ih st₁).mono fun result st₂ ⟨within, others⟩ => ?_
      refine ⟨within.trans removed.within, fun ok => List.forall_mem_cons.2 ⟨?_, others ok⟩⟩
      exact (gone rfl).mono within
    · rintro f st₁ ⟨removed, -⟩
      exact ⟨removed.within, fun impossible => by cases impossible⟩
    · rintro st₁ ⟨removed, -⟩
      exact ⟨removed.within, fun impossible => by cases impossible⟩

variable {m : Manifest}

theorem recreate_tracked (regular : ∀ d ∈ m.documents, d.Regular)
    (within : ∀ d ∈ m.documents, reach d.identity) (patience : Patience) :
    (m.recreate patience).Preserves Store.Conduct (Tracked reach start) := by
  have waits := awaitRemoval_only (m := m) (P := (·.writesObjects = false)) (fun _ _ => rfl)
    (fun _ => rfl) (fun _ _ => rfl) patience
  have removes : (m.remove .foreground).Preserves Store.Conduct (Tracked reach start) :=
    removeAll_tracked _ fun d mem => within d (List.mem_reverse.1 mem)
  exact removes.bind fun _ => (Store.preserves waits).bind fun _ => applyAll_tracked regular within

theorem applyOrRecreate_tracked (regular : ∀ d ∈ m.documents, d.Regular)
    (within : ∀ d ∈ m.documents, reach d.identity) (patience : Patience) :
    (m.applyOrRecreate patience).Preserves Store.Conduct (Tracked reach start) := by
  have applies : m.apply.Preserves Store.Conduct (Tracked reach start) :=
    applyAll_tracked regular within
  refine applies.outcome.bind fun applied => ?_
  cases applied with
  | ok _ => exact Work.preserves_pure _
  | error f =>
    dsimp only
    split
    · exact recreate_tracked regular within patience
    · exact Work.preserves_throw f

end Manifest

end PhasedInstall
