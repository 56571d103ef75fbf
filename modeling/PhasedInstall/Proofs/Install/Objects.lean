import PhasedInstall.Proofs.Manifest.Addresses
import PhasedInstall.Proofs.Manifest.Reading
import PhasedInstall.Proofs.Manifest.Tracked

/-!
# What a pass does to the objects of the cluster

A pass keeps the account of `Tracked`, whichever action it takes and however it ends, because what
the phases apply and remove lies under the identities that the bundle addresses. And a pass that
deletes and succeeds has visited every one of these identities, so that nothing is left under them
but namespaces that were not created here.

Manifests are read into values without repeated keys, so the documents of a bundle have none. That a
document is `Plain` is up to its author.
-/

set_option autoImplicit false

namespace PhasedInstall

open Cluster

namespace Bundle

variable {b : Bundle}

def Plain (b : Bundle) : Prop := ∀ phase, ∀ d ∈ (b.forPhase phase).documents, d.Plain

def Regular (b : Bundle) : Prop := ∀ phase, ∀ d ∈ (b.forPhase phase).documents, d.Regular

theorem Plain.regular (h : b.Plain) : b.Regular :=
  fun phase d mem => (h phase d mem).regular (b.declared phase d mem).distinct

/-- The identities that the groups address when they are installed in a namespace. -/
def Addresses (b : Bundle) (ns : String) (k : Identity) : Prop :=
  ∃ phase ∈ Installation.removalOrder, ∃ d ∈ (b.forPhase phase).documents,
    (phase.place ns d.heading).toIdentity = k

end Bundle

/-- A live resource asks for a phase, for the record of the end, or for nothing. -/
theorem Operator.nextAction_cases (o : Operator) (plan : Plan) (c : Config) :
    o.nextAction plan c = .noOp ∨ o.nextAction plan c = .markInstalled ∨
      ∃ phase, o.nextAction plan c = .run phase := by
  unfold nextAction
  dsimp only
  split
  · split <;> simp
  · split
    · simp
    · split <;> simp

namespace Installation

variable {i : Installation} {c : Config} {start st : Store} {phase : Phase} {ns : String}

theorem applyManifest_tracked (regular : i.bundle.Regular) (installs : phase ∈ removalOrder) :
    (i.applyManifest c phase).Preserves Store.Conduct
      (Tracked (i.bundle.Addresses c.spec.targetNamespace) start) := by
  refine Work.preserves_ofHalt_bind fun m prepared => ?_
  have prepares : ∀ d' ∈ m.documents, d'.Regular := by
    intro d' mem
    obtain ⟨d, mem₀, becomes⟩ := Manifest.mem_prepare installs prepared mem
    exact becomes.regular (regular phase d mem₀)
  have within : ∀ d' ∈ m.documents, i.bundle.Addresses c.spec.targetNamespace d'.identity := by
    intro d' mem
    obtain ⟨d, mem₀, becomes⟩ := Manifest.mem_prepare installs prepared mem
    exact ⟨phase, installs, d, mem₀, congrArg Heading.toIdentity becomes.heading.symm⟩
  -- What is created anew in the end is a part of the manifest like the rest.
  have part {p : Document → Bool} {d : Document} (mem : d ∈ (m.filter p).documents) :
      d ∈ m.documents := (List.mem_filter.1 mem).1
  refine Work.Preserves.bind ?_ fun _ => ?_
  · exact Manifest.applyAll_tracked (fun d mem => prepares d (part mem))
      fun d mem => within d (part mem)
  · exact Manifest.applyOrRecreate_tracked (fun d mem => prepares d (part mem))
      (fun d mem => within d (part mem)) _

theorem fail_keepsObjects {α : Type} (phase : Phase) (f : Fault) :
    (i.fail c phase f : Work α).Only (·.writesObjects = false) :=
  fail_only (fun _ => rfl) (fun _ => rfl) phase f

theorem record_keepsObjects (condition : Condition) :
    (i.record c condition).Only (·.writesObjects = false) := record_only (fun _ => rfl) condition

theorem addFinalizer_keepsObjects (name : String) :
    (Work.addFinalizer name).Only (·.writesObjects = false) := ⟨rfl, fun _ => trivial⟩

theorem removeFinalizer_keepsObjects (name : String) :
    (Work.removeFinalizer name).Only (·.writesObjects = false) := ⟨rfl, fun _ => trivial⟩

theorem validatePhase_keepsObjects (phase : Phase) (component : Component) :
    (i.validatePhase c phase component).Only (·.writesObjects = false) :=
  validatePhase_only (fun _ => rfl) (fun _ => rfl) (fun _ _ => rfl) (fun _ => rfl) phase component

/-! ## Invariants of a pass -/

section
variable {σ : Type} {R : PhasedInstall.Conduct Cluster.interface σ} {inv : σ → Prop}

/-- A phase preserves what applying a manifest preserves, where only writes to objects could break
it. -/
theorem runPhase_preserves
    (still : ∀ r s reply s', r.writesObjects = false → R r s reply s' → inv s → inv s')
    (applies : ∀ phase ∈ removalOrder, (i.applyManifest c phase).Preserves R inv)
    (phase : Phase) : (i.runPhase c phase).Preserves R inv := by
  have applied {phase : Phase} (installs : phase ∈ removalOrder) :
      (i.applyPhase c phase).Preserves R inv := by
    refine (applies phase installs).outcome.bind fun result => ?_
    cases result with
    | error f => exact (fail_keepsObjects phase f).preserves_of still
    | ok _ => exact ((record_keepsObjects _).andReturn _).preserves_of still
  cases phase with
  | validatePipeline => exact (validatePhase_keepsObjects _ _).preserves_of still
  | validateTriggers => exact (validatePhase_keepsObjects _ _).preserves_of still
  | applyPipeline => exact applied (by decide)
  | applyTriggers => exact applied (by decide)
  | applyAddons => exact applied (by decide)
  | applyCommunity => exact applied (by decide)

/-- An action preserves what applying manifests and removing groups preserve, where only writes to
objects could break it. -/
theorem perform_preserves {stored : Option Config} {action : Action}
    (still : ∀ r s reply s', r.writesObjects = false → R r s reply s' → inv s → inv s')
    (applies : ∀ c, stored = some c → ∀ phase ∈ removalOrder,
      (i.applyManifest c phase).Preserves R inv)
    (removes : ∀ c, stored = some c → (i.teardown c.spec.targetNamespace).Preserves R inv)
    (tears : action = .teardown → (i.teardown i.operator.targetNamespace).Preserves R inv)
    (name : String) : (i.perform name action stored).Preserves R inv := by
  cases action with
  | noOp => exact Work.preserves_pure _
  | addFinalizer => exact ((addFinalizer_keepsObjects name).andReturn _).preserves_of still
  | teardown => exact (tears rfl).bind fun _ => Work.preserves_pure _
  | markInvalid =>
    cases stored with
    | none => exact Work.preserves_pure _
    | some c => exact ((record_keepsObjects _).andReturn _).preserves_of still
  | markInstalled =>
    cases stored with
    | none => exact Work.preserves_pure _
    | some c => exact ((record_keepsObjects _).andReturn _).preserves_of still
  | run phase =>
    cases stored with
    | none => exact Work.preserves_pure _
    | some c => exact runPhase_preserves still (applies c rfl) phase
  | delete =>
    cases stored with
    | none => exact Work.preserves_pure _
    | some c =>
      have releases := (removeFinalizer_keepsObjects name).andReturn Revisit.onChange
      exact (removes c rfl).bind fun _ => releases.preserves_of still

end

theorem removePhases_tracked {phases : List Phase} (installed : phases ⊆ removalOrder) :
    (i.removePhases ns phases).Preserves Store.Conduct
      (Tracked (i.bundle.Addresses ns) start) := by
  induction phases with
  | nil => exact Work.preserves_pure _
  | cons phase rest ih =>
    obtain ⟨here, there⟩ := List.cons_subset.1 installed
    refine Work.preserves_ofHalt_bind fun m found => ?_
    refine Work.Preserves.bind (Manifest.removeAll_tracked _ fun d' mem => ?_) fun _ => ih there
    obtain ⟨d, mem₀, heading⟩ := (Manifest.forRemoval_headings found).1 d' (List.mem_reverse.1 mem)
    exact ⟨phase, here, d, mem₀, congrArg Heading.toIdentity heading.symm⟩

/-- **A removal that succeeds has been everywhere.** -/
theorem removePhases_ensures (i : Installation) (ns : String) (phases : List Phase) (st : Store) :
    (i.removePhases ns phases).Ensures Store.Conduct st fun result st' =>
      st'.Within st ∧ (result = some (.ok ()) → ∀ phase ∈ phases,
        ∀ d ∈ (i.bundle.forPhase phase).documents,
          Gone (phase.place ns d.heading).toIdentity st') := by
  induction phases generalizing st with
  | nil => exact ⟨.refl st, fun _ _ mem => by cases mem⟩
  | cons phase rest ih =>
    refine Work.ensures_ofHalt_bind (fun m found => ?_)
      (fun _ => ⟨.refl st, fun impossible => by cases impossible⟩)
      ⟨.refl st, fun impossible => by cases impossible⟩
    refine (Manifest.removeAll_ensures .foreground m.documents.reverse st).bind ?_ ?_ ?_
    · intro _ st₁ ⟨shrunk, gone⟩
      -- What is gone stays gone while the other phases are removed.
      refine (ih st₁).mono fun result st₂ ⟨within, others⟩ => ⟨within.trans shrunk, fun ok => ?_⟩
      refine List.forall_mem_cons.2 ⟨fun d mem => ?_, others ok⟩
      obtain ⟨d', mem', heading⟩ := (Manifest.forRemoval_headings found).2 d mem
      rw [← heading]
      exact (gone rfl d' (List.mem_reverse.2 mem')).mono within
    · intro f st₁ ⟨shrunk, _⟩
      exact ⟨shrunk, fun impossible => by cases impossible⟩
    · intro st₁ ⟨shrunk, _⟩
      exact ⟨shrunk, fun impossible => by cases impossible⟩

/-- A resource that exists is never the reason for a removal in the operator's own namespace. -/
theorem decide_ne_teardown (i : Installation) (c : Config) (name : String) :
    i.decide name (some c) ≠ .teardown := by
  have next : i.operator.nextAction i.plan c ≠ .teardown := by
    rcases i.operator.nextAction_cases i.plan c with h | h | ⟨phase, h⟩ <;> simp [h]
  unfold decide Operator.decide
  dsimp only
  split
  · split <;> simp
  · split
    · split <;> simp
    · split
      · exact next
      · simp

theorem perform_tracked (regular : i.bundle.Regular) (name : String) {action : Action}
    (found : action ≠ .teardown) :
    (i.perform name action (some c)).Preserves Store.Conduct
      (Tracked (i.bundle.Addresses c.spec.targetNamespace) start) := by
  refine perform_preserves ?_ ?_ ?_ (fun tears => absurd tears found) name
  · intro r st reply st' leaves step tracked
    rwa [Store.Conduct.still leaves step]
  · rintro _ ⟨⟩ phase installs
    exact applyManifest_tracked regular installs
  · rintro _ ⟨⟩
    exact removePhases_tracked fun _ mem => mem

/-- **What a deletion that succeeds leaves**: nothing under the addressed identities but namespaces
that were not created here. -/
theorem perform_delete_ensures (i : Installation) (c : Config) (name : String) (st : Store) :
    (i.perform name .delete (some c)).Ensures Store.Conduct st fun result st' =>
      ∀ revisit, result = some (.ok revisit) →
        ∀ k, i.bundle.Addresses c.spec.targetNamespace k → Gone k st' := by
  refine (removePhases_ensures i c.spec.targetNamespace removalOrder st).bind ?_ ?_ ?_
  · intro _ st₁ ⟨_, gone⟩
    refine (Store.keeps ((removeFinalizer_keepsObjects name).andReturn _) st₁).mono ?_
    rintro result st₂ rfl revisit - k ⟨phase, installs, d, mem, rfl⟩
    exact gone rfl phase installs d mem
  · rintro f st₁ - revisit impossible
    cases impossible
  · rintro st₁ - revisit impossible
    cases impossible

/-- The rule of a pass for what becomes of the objects. -/
theorem pass_ensures {s : Site} {name : String}
    (post : Option (Except Fault Revisit) → Store → Prop)
    (unread : ∀ f, post (some (.error f)) s.objects)
    (idle : i.decide name (some s.config) = .noOp → post (some (.ok .onChange)) s.objects)
    (performed : (i.perform name (i.decide name (some s.config)) (some s.config)).Ensures
      Store.Conduct s.objects post) :
    (i.pass name).Ensures Site.Conduct s fun result s' => post result s'.objects := by
  refine pass_ensures_of_perform (some s.config) ?_ ?_ unread idle
    (Site.ensures_objects performed)
  · rintro _ s s' ⟨configStays, objectsStay⟩
    exact Site.ext configStays objectsStay
  · rintro reply s' ⟨⟨configStays, current⟩, objectsStay⟩
    exact ⟨Site.ext configStays objectsStay, current⟩

end Installation

end PhasedInstall
