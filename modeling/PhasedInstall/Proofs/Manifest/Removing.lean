import PhasedInstall.Manifest.Apply
import PhasedInstall.Proofs.Cluster.Calls
import PhasedInstall.Proofs.Manifest.Mark

/-!
# The calls by which objects are removed

Removing goes through documents in order as applying does. A document whose object is not there is
passed over, whether the lookup says so or the deletion, and so is a namespace that was not created
here. `Removal` lists what the calls of one document can look like, with the outcome that they have,
and `Removals` puts those of several documents together (`removeAll_removals`).

So a deletion is only asked for right after a lookup that has found the object, the deletions come
in the order of the documents, and the only call with an answer that is neither good nor "not found"
is the last one of a removal that has failed.
-/

set_option autoImplicit false

namespace PhasedInstall

open Cluster

/-- A lookup that says that there is no such object. -/
def Absent : Except Fault (Option Document) → Prop
  | .ok live => live = none
  | .error f => f.isNotFound

/-- A call that went well, or that found out that there was nothing to be done. -/
def Cluster.Call.Settled (e : Call) : Prop := ∀ f, e.fault? = some f → f.isNotFound = true

/-- The requests by which the object of a document is removed. -/
def Document.AsksRemoval (policy : DeletePolicy) (d : Document) (r : Request) : Prop :=
  r = .find d ∨ r = .delete d policy

/-- Whether a document leaves its object alone: a namespace that was not created here. -/
def Document.spares (d live : Document) : Bool := d.kind = "Namespace" && !live.isMarked

namespace Cluster.Calls

variable {es more : Calls}

/-- Every deletion is asked for right after a lookup that has found the object, and the object is
none that is left alone. -/
def DeletesFound (es : Calls) : Prop :=
  ∀ (front after : Calls) (d : Document) (policy : DeletePolicy) (reply : Except Fault Unit),
    es = front ++ ⟨.delete d policy, reply⟩ :: after →
      ∃ earlier live, front = earlier ++ [⟨.find d, .ok (some live)⟩] ∧ d.spares live = false

theorem DeletesFound.append (h : DeletesFound es) (h' : DeletesFound more) :
    DeletesFound (es ++ more) := by
  intro front after d policy reply same
  rcases List.append_eq_append_iff.1 same with ⟨between, rfl, rest⟩ | ⟨tail, rfl, rest⟩
  · obtain ⟨earlier, live, rfl, free⟩ := h' between after d policy reply rest
    exact ⟨es ++ earlier, live, (List.append_assoc ..).symm, free⟩
  · cases tail with
    | nil =>
      -- A deletion cannot come first in what follows.
      obtain ⟨earlier, live, impossible, -⟩ := h' [] after d policy reply rest.symm
      cases earlier <;> cases impossible
    | cons e tail =>
      obtain ⟨rfl, -⟩ := List.cons.inj rest
      exact h front tail d policy reply rfl

theorem deletesFound_lookup (d : Document) (reply : Except Fault (Option Document)) :
    DeletesFound [⟨.find d, reply⟩] := by
  intro front after x policy own same
  rcases front with _ | ⟨_, _ | _⟩ <;> cases same

theorem deletesFound_pair {d live : Document} (free : d.spares live = false)
    (policy : DeletePolicy) (reply : Except Fault Unit) :
    DeletesFound [⟨.find d, .ok (some live)⟩, ⟨.delete d policy, reply⟩] := by
  intro front after x other own same
  rcases front with _ | ⟨_, _ | ⟨_, _ | _⟩⟩ <;> cases same
  exact ⟨[], live, rfl, free⟩

end Cluster.Calls

namespace Document

variable {d : Document} {policy : DeletePolicy} {outcome : Except Fault Unit} {es : Calls}

/-- What follows a lookup for the live object sees whether there is one. Only a fault that does not
say so is passed on. -/
theorem tells_live?_bind {β : Type} {d : Document} {next : Option Document → Work β}
    {post : Option (Except Fault β) → Calls → Prop}
    (onAbsent : ∀ reply, Absent reply →
      (next none).Tells fun result more => post result (⟨.find d, reply⟩ :: more))
    (onPresent : ∀ live,
      (next (some live)).Tells fun result more => post result (⟨.find d, .ok (some live)⟩ :: more))
    (onFault : ∀ f, f.isNotFound = false → post (some (.error f)) [⟨.find d, .error f⟩]) :
    (d.live? >>= next).Tells post := by
  rw [live?, bind_assoc]
  refine Work.tells_find_outcome_bind fun reply => ?_
  rcases reply with f | _ | live
  · by_cases missing : f.isNotFound
    · simp only [if_pos missing, pure_bind]
      exact onAbsent _ missing
    · simp only [if_neg missing]
      exact Work.tells_throw (onFault f (Bool.eq_false_iff.2 missing))
  · exact onAbsent _ rfl
  · exact onPresent live

/-- The calls of one document whose object is removed, with the outcome. -/
inductive Removal (policy : DeletePolicy) (d : Document) : Except Fault Unit → Calls → Prop
  | absent {reply : Except Fault (Option Document)} : Absent reply →
      Removal policy d (.ok ()) [⟨.find d, reply⟩]
  | spared {live : Document} : d.spares live = true →
      Removal policy d (.ok ()) [⟨.find d, .ok (some live)⟩]
  | deleted {live : Document} : d.spares live = false →
      Removal policy d (.ok ()) [⟨.find d, .ok (some live)⟩, ⟨.delete d policy, .ok ()⟩]
  | vanished {live : Document} {f : Fault} : d.spares live = false → f.isNotFound = true →
      Removal policy d (.ok ()) [⟨.find d, .ok (some live)⟩, ⟨.delete d policy, .error f⟩]
  | unknown {f : Fault} : f.isNotFound = false → Removal policy d (.error f) [⟨.find d, .error f⟩]
  | refused {live : Document} {f : Fault} : d.spares live = false → f.isNotFound = false →
      Removal policy d (.error f) [⟨.find d, .ok (some live)⟩, ⟨.delete d policy, .error f⟩]

/-- **Removing the object of a document is one removal.** -/
theorem remove_removal (policy : DeletePolicy) (d : Document) :
    (d.remove policy).Tells fun result es =>
      ∃ outcome, result = some outcome ∧ d.Removal policy outcome es := by
  refine tells_live?_bind ?_ ?_ ?_
  · exact fun reply absent => Work.tells_pure ⟨_, rfl, .absent absent⟩
  · intro live
    dsimp only
    split
    · rename_i spared
      exact Work.tells_pure ⟨_, rfl, .spared spared⟩
    · rename_i other
      have free : d.spares live = false := Bool.eq_false_iff.2 other
      refine Work.tells_delete_outcome_bind fun reply => ?_
      rcases reply with f | _
      · dsimp only
        split
        · rename_i missing
          exact Work.tells_pure ⟨_, rfl, .vanished free missing⟩
        · rename_i known
          exact Work.tells_throw ⟨_, rfl, .refused free (Bool.eq_false_iff.2 known)⟩
      · exact Work.tells_pure ⟨_, rfl, .deleted free⟩
  · exact fun f known => ⟨_, rfl, .unknown known⟩

theorem Removal.lookups (h : d.Removal policy outcome es) : es.lookups = [d] := by
  cases h <;> rfl

theorem Removal.deletions (h : d.Removal policy outcome es) : es.deletions.Sublist [d] := by
  cases h with
  | absent | spared | unknown => exact List.nil_sublist _
  | deleted | vanished | refused => exact List.Sublist.refl _

theorem Removal.asks (h : d.Removal policy outcome es) : es.Ask (d.AsksRemoval policy) := by
  cases h <;> simp [Calls.Ask, AsksRemoval]

theorem Removal.deletesFound (h : d.Removal policy outcome es) : es.DeletesFound := by
  cases h with
  | absent | spared | unknown => exact Calls.deletesFound_lookup _ _
  | deleted free => exact Calls.deletesFound_pair free _ _
  | vanished free => exact Calls.deletesFound_pair free _ _
  | refused free => exact Calls.deletesFound_pair free _ _

/-- What is passed over is a call that is answered well or with "not found". -/
theorem Removal.passes {b : Unit} (h : d.Removal policy (.ok b) es) :
    ∀ e ∈ es, e.Settled := by
  cases h with
  | @absent reply absent =>
    refine List.forall_mem_singleton.2 fun f refused => ?_
    rcases reply with g | live
    · cases refused
      exact absent
    · cases refused
  | spared | deleted => simp [Call.Settled, Call.fault?]
  | vanished _ missing => simpa [Call.Settled, Call.fault?] using missing

theorem Removal.fails {f : Fault} (h : d.Removal policy (.error f) es) :
    ∃ before call, es = before ++ [call] ∧
      (∀ e ∈ before, e.Settled) ∧
        (call.fault? = some f ∧ f.isNotFound = false) := by
  cases h with
  | unknown known => exact ⟨[], _, rfl, List.forall_mem_nil _, rfl, known⟩
  | refused free known => exact ⟨[_], _, rfl, List.forall_mem_singleton.2 nofun, rfl, known⟩

end Document

namespace Manifest

variable {policy : DeletePolicy} {ds : List Document} {outcome : Except Fault Unit} {es : Calls}

/-- The calls by which the objects of documents are removed in order, with the outcome. -/
abbrev Removals (policy : DeletePolicy) : List Document → Except Fault Unit → Calls → Prop :=
  Calls.Series (Document.Removal policy)

/-- **Removing goes through the documents in order.** -/
theorem removeAll_removals (policy : DeletePolicy) (ds : List Document) :
    (removeAll policy ds).Tells fun result es =>
      ∃ outcome, result = some outcome ∧ Removals policy ds outcome es := by
  induction ds with
  | nil => exact Work.tells_pure ⟨_, rfl, .done⟩
  | cons d rest ih => exact Work.tells_series_cons (d.remove_removal policy) ih

/-- **The documents are looked up in order**, and all of them unless the removal fails. -/
theorem Removals.lookups (h : Removals policy ds outcome es) :
    es.lookups <+: ds ∧ (outcome = .ok () → es.lookups = ds) := by
  induction h with
  | done => exact ⟨List.prefix_refl _, fun _ => rfl⟩
  | next removal _ ih =>
    rw [Calls.lookups_append, removal.lookups]
    exact ⟨List.cons_prefix_cons.2 ⟨rfl, ih.1⟩, fun ok => congrArg _ (ih.2 ok)⟩
  | stop removal =>
    rw [removal.lookups]
    exact ⟨List.cons_prefix_cons.2 ⟨rfl, List.nil_prefix⟩, nofun⟩

/-- **Deletions come in the order of the documents**, and at most one for each of them. -/
theorem Removals.deletions (h : Removals policy ds outcome es) : es.deletions.Sublist ds := by
  induction h with
  | done => exact List.nil_sublist _
  | next removal _ ih =>
    rw [Calls.deletions_append]
    exact removal.deletions.append ih
  | stop removal =>
    exact removal.deletions.trans (List.singleton_sublist.2 (List.mem_cons_self ..))

theorem Removals.asks (h : Removals policy ds outcome es) :
    es.Ask fun r => ∃ d ∈ ds, d.AsksRemoval policy r :=
  Calls.Series.asks h fun _ _ _ removal => removal.asks

/-- **What is not found is passed over, and any other fault is the end.** -/
theorem Removals.ends (h : Removals policy ds outcome es) :
    Calls.EndsWith Call.Settled
      (fun f e => e.fault? = some f ∧ f.isNotFound = false) outcome es :=
  Calls.Series.ends h (fun _ _ _ removal => removal.passes) fun _ _ _ removal => removal.fails

/-- **Removing succeeds where nothing is refused.** -/
theorem Removals.ok_of_granted (h : Removals policy ds outcome es) (granted : es.Granted) :
    outcome = .ok () := by
  cases outcome with
  | ok => rfl
  | error f =>
    obtain ⟨before, call, rfl, -, refused, -⟩ := h.ends
    cases (granted call (by simp)).symm.trans refused

theorem removeAll_granted (policy : DeletePolicy) (ds : List Document) :
    (removeAll policy ds).Tells fun result es => es.Granted → result = some (.ok ()) := by
  refine (removeAll_removals policy ds).mono fun result es removals granted => ?_
  obtain ⟨outcome, rfl, removals⟩ := removals
  rw [removals.ok_of_granted granted]

/-- **A deletion is only asked for when the object was found.** -/
theorem Removals.deletesFound (h : Removals policy ds outcome es) : es.DeletesFound := by
  induction h with
  | done =>
    intro front after d policy reply same
    cases front <;> cases same
  | next removal _ ih => exact removal.deletesFound.append ih
  | stop removal => exact removal.deletesFound

end Manifest

end PhasedInstall
