import PhasedInstall.Manifest.Apply
import PhasedInstall.Proofs.Cluster.Calls
import PhasedInstall.Proofs.Manifest.Heading

/-!
# When objects are created anew

Objects that cannot be changed in place are removed and created anew, and what starts this is a
fault: applying has failed, and the fault reports the content of an object as invalid. The fault no
longer says which call it came from, but applying is a sequence of calls that ends with the first
one that is refused (`applyAll_sequential`). So nothing is removed unless a call about one of the
documents was refused as invalid before, and that call was the first one to be refused at all.

The call need not be an update. A creation that is refused as invalid takes the objects of all the
other documents away as well.
-/

set_option autoImplicit false

namespace PhasedInstall

open Cluster

/-- The requests by which a document is applied. -/
def Document.Asks (d : Document) : Request → Prop
  | .find wanted => wanted = d
  | .create new => new = d.forCreation
  | .update merged => ∃ live : Document, merged = ⟨live.value.overlay d.value⟩
  | _ => False

/-- The requests by which a manifest is applied. -/
def Manifest.Asks (m : Manifest) (r : Request) : Prop := ∃ d ∈ m.documents, d.Asks r

/-- The fault of a document that is no document any more. -/
def Fault.OfManifest (f : Fault) : Prop := ∃ text, f = .manifest text

namespace Document

variable {d : Document} {r : Request}

theorem Asks.deleted?_eq_none (h : d.Asks r) : r.deleted? = none := by
  cases r with
  | delete _ _ => cases h
  | _ => rfl

theorem ofManifest_of_ofJson {v : Json} {f : Fault} (h : ofJson v = .error f) : f.OfManifest := by
  rw [ofJson, ofJson.refuse] at h
  split at h
  · split at h
    · cases h
      exact ⟨_, rfl⟩
    · cases h
  · cases h
    exact ⟨_, rfl⟩

/-- Applying a document is looking it up and then writing it at most once. -/
theorem apply_sequential (d : Document) : d.apply.Sequential d.Asks Fault.OfManifest := by
  refine Work.Sequential.bind (Work.sequential_find rfl) fun found => ?_
  cases found with
  | none =>
    refine Work.Sequential.bind (Work.sequential_create rfl) fun _ => ?_
    exact Work.sequential_pure _
  | some live =>
    dsimp only
    split
    · exact Work.sequential_pure _
    · cases merge : ofJson (live.value.overlay d.value) with
      | error f => exact Work.sequential_throw (ofManifest_of_ofJson merge)
      | ok merged =>
        obtain ⟨rfl, -⟩ := ofJson_eq_ok merge
        have asked : d.Asks (.update ⟨live.value.overlay d.value⟩) := ⟨live, rfl⟩
        rw [Work.ofExcept, pure_bind]
        refine Work.Sequential.bind (Work.sequential_update asked) fun _ => ?_
        exact Work.sequential_pure _

end Document

namespace Manifest

variable {m : Manifest} {patience : Patience} {result : Option (Except Fault Unit)} {es : Calls}

theorem Asks.deleted?_eq_none {r : Request} (h : m.Asks r) : r.deleted? = none := by
  obtain ⟨d, -, asked⟩ := h
  exact asked.deleted?_eq_none

theorem applyAll_sequential (documents : List Document) :
    (applyAll documents).Sequential (fun r => ∃ d ∈ documents, d.Asks r) Fault.OfManifest := by
  induction documents with
  | nil => exact Work.sequential_pure ()
  | cons d rest ih =>
    have first := Work.Sequential.mono d.apply_sequential (Q := fun r => ∃ x ∈ d :: rest, x.Asks r)
      fun r asked => ⟨d, List.mem_cons_self .., asked⟩
    refine Work.Sequential.bind first fun _ => Work.Sequential.mono ih ?_
    rintro r ⟨x, mem, asked⟩
    exact ⟨x, List.mem_cons_of_mem _ mem, asked⟩

theorem apply_sequential (m : Manifest) : m.apply.Sequential m.Asks Fault.OfManifest :=
  applyAll_sequential m.documents

/-- The first call that is refused ends the application, and its fault alone decides whether the
objects are created anew. -/
theorem applyOrRecreate_tells (m : Manifest) (patience : Patience) :
    (m.applyOrRecreate patience).Tells fun result es =>
      (es.Ask m.Asks ∧ es.Granted) ∨
        ∃ granted refused later f, es = granted ++ refused :: later ∧ Calls.Granted granted ∧
          Calls.Ask m.Asks (granted ++ [refused]) ∧ refused.fault? = some f ∧
          if f.isInvalid then (m.recreate patience).Exec heard [] result later
          else later = [] ∧ result = some (.error f) := by
  refine Work.Tells.outcome_bind m.apply_sequential ?_ fun es holds => holds.2.elim
  rintro (f | _) es ⟨asked, ends⟩
  · rcases ends with ⟨granted, refused, rfl, before, fault⟩ | ⟨granted, text, rfl⟩
    · by_cases invalid : f.isInvalid
      · simp only [if_pos invalid]
        refine Work.Tells.mono (Work.tells_exec _) fun result later again => Or.inr ?_
        refine ⟨granted, refused, later, f, List.append_assoc .., before, asked, fault, ?_⟩
        rw [if_pos invalid]
        exact again
      · simp only [if_neg invalid]
        refine Work.tells_throw (Or.inr ?_)
        refine ⟨granted, refused, [], f, List.append_assoc .., before, asked, fault, ?_⟩
        rw [if_neg invalid]
        exact ⟨rfl, rfl⟩
    · -- A fault that comes from no call is about the form of a document, not about its content.
      refine Work.tells_throw (Or.inl ?_)
      rw [List.append_nil]
      exact ⟨asked, granted⟩
  · refine Work.tells_pure (Or.inl ?_)
    rw [List.append_nil]
    exact ⟨asked, ends⟩

/-- **Only a call that was refused as invalid has objects removed.** Before every deletion there is
a call about a document of the manifest that was the first to be refused, and it was refused as
invalid. That call is not necessarily an update. Conversely, the first refusal decides: if it is
for the content of an object, everything is created anew from there on, and if it is not, its fault
is the result and nothing is removed. -/
theorem removes_only_after_invalid_call (m : Manifest) (patience : Patience)
    (call : (m.applyOrRecreate patience).Exec heard [] result es) :
    (∀ before e after, es = before ++ e :: after → e.request.deleted?.isSome →
      ∃ granted refused later f, before = granted ++ refused :: later ∧ Calls.Granted granted ∧
        m.Asks refused.request ∧ refused.fault? = some f ∧ f.isInvalid) ∧
    ∀ granted refused later f, es = granted ++ refused :: later → Calls.Granted granted →
      refused.fault? = some f →
        if f.isInvalid then (m.recreate patience).Exec heard [] result later
        else later = [] ∧ result = some (.error f) ∧ es.deletions = [] := by
  rcases (m.applyOrRecreate_tells patience).exec call with
    ⟨asked, granted⟩ | ⟨granted, refused, later, f, rfl, before, asked, fault, next⟩
  · constructor
    · rintro front e after rfl deleted
      have none := (asked e (List.mem_append_right _ (List.mem_cons_self ..))).deleted?_eq_none
      rw [none] at deleted
      cases deleted
    · rintro front refused later f rfl - fault
      rw [granted refused (List.mem_append_right _ (List.mem_cons_self ..))] at fault
      cases fault
  · constructor
    · intro front e after same deleted
      have other : ¬ m.Asks e.request := by
        intro asked
        rw [asked.deleted?_eq_none] at deleted
        cases deleted
      -- The deletion is none of the calls up to the first refusal, so it comes after them.
      have moved : granted ++ [refused] ++ later = front ++ e :: after := by
        rw [List.append_assoc]
        exact same
      obtain ⟨between, rfl⟩ := asked.before other moved
      refine ⟨granted, refused, between, f, List.append_assoc .., before, ?_, fault, ?_⟩
      · exact asked refused (List.mem_append_right _ (List.mem_singleton_self _))
      · by_cases invalid : f.isInvalid
        · exact invalid
        · rw [if_neg invalid] at next
          obtain ⟨rfl, -⟩ := next
          have short := congrArg List.length moved
          simp only [List.length_append, List.length_cons, List.length_nil] at short
          omega
    · intro granted' refused' later' f' same before' fault'
      obtain ⟨rfl, rfl, rfl⟩ := Calls.first_refusal_unique before before' fault fault' same
      obtain rfl := Option.some.inj (fault.symm.trans fault')
      by_cases invalid : f.isInvalid
      · rw [if_pos invalid] at next ⊢
        exact next
      · rw [if_neg invalid] at next ⊢
        obtain ⟨rfl, failed⟩ := next
        exact ⟨rfl, failed, Calls.deletions_eq_nil (asked.mono fun r => Asks.deleted?_eq_none)⟩

/-- The identities of two objects. -/
def pair : Manifest := ⟨[named "a", named "b"]⟩
where
  named (name : String) : Document :=
    ⟨.obj [("kind", .str "ConfigMap"), ("metadata", .obj [("name", .str name)])]⟩

/-- A cluster that has the one object, refuses to create the other one for its content, and lets
nobody delete anything. -/
def strict (_ : Calls) : (r : Request) → r.Reply
  | .find d => .ok (if d.name = "a" then some d else none)
  | .create _ => .error (.refused (.ofReason 422 "Invalid"))
  | .delete _ _ => .error (.refused (.ofReason 403 "Forbidden"))
  | r => vacant r

/-- What comes of applying the two objects in that cluster. -/
def strictly : Option (Except Fault Unit) × Calls :=
  (pair.applyOrRecreate .standard).run.run (listen strict) []

/-- One object is asked to be deleted because the other one could not be created. -/
theorem removes_after_refused_creation :
    (pair.applyOrRecreate .standard).Exec heard [] strictly.1 strictly.2 ∧
      strictly.2.deletions.map Document.name = ["a"] ∧
      ∀ before e after, strictly.2 = before ++ e :: after → e.request.deleted?.isSome →
        ∃ granted refused later f, before = granted ++ refused :: later ∧
          Calls.Granted granted ∧ pair.Asks refused.request ∧ refused.fault? = some f ∧
          f.isInvalid := by
  have call := Work.exec_listen strict (pair.applyOrRecreate .standard)
  have deleted : strictly.2.deletions.map Document.name = ["a"] := by decide +kernel
  exact ⟨call, deleted, (removes_only_after_invalid_call _ _ call).1⟩

/-- That an update was refused cannot be said. -/
theorem not_removes_only_after_update :
    ¬ ∀ (m : Manifest) (patience : Patience) (result : Option (Except Fault Unit)) (es : Calls),
      (m.applyOrRecreate patience).Exec heard [] result es →
      ∀ before e after, es = before ++ e :: after → e.request.deleted?.isSome →
        ∃ d f, (⟨.update d, .error f⟩ : Call) ∈ before ∧ f.isInvalid := by
  intro always
  have deleted : (strictly.2.any fun e => e.request.deleted?.isSome) = true := by decide +kernel
  have written : (strictly.2.any fun e => e.request.isUpdate) = false := by decide +kernel
  obtain ⟨e, mem, deletes⟩ := List.any_eq_true.1 deleted
  obtain ⟨before, after, same⟩ := List.append_of_mem mem
  obtain ⟨d, f, updated, -⟩ := always pair .standard _ _
    (Work.exec_listen strict _) before e after same deletes
  have among : (⟨.update d, .error f⟩ : Call) ∈ strictly.2 := by
    rw [same]
    exact List.mem_append_left _ updated
  exact List.any_eq_false.1 written _ among rfl

end Manifest

end PhasedInstall
