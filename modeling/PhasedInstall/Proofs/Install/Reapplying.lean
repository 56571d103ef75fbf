import Mathlib.Data.List.Nodup
import PhasedInstall.Install.Pass
import PhasedInstall.Proofs.Manifest.Reading
import PhasedInstall.Proofs.Manifest.References
import PhasedInstall.Proofs.Manifest.Settled

/-!
# Applying a phase again

A phase that was applied once with success has nothing to do the second time. The first time leaves
all its documents settled, whether it came to an end by applying them or by creating some of them
anew, and a settled document is only looked up.

That asks for three things. No two documents are about the same object, or they would undo each
other's work. No object has a key twice, which is so for whatever is read and stays so while it is
prepared. And no namespace says itself who has created it, because the mark that is written on
creation would be overwritten.
-/

set_option autoImplicit false

namespace PhasedInstall

open Cluster

/-! ## Prepared namespaces -/

namespace Document

variable {d : Document} {key : String}

/-- An annotation can only be read where the metadata is an object. -/
theorem hasMetadata_of_annotation (h : d.hasTrueAnnotation key = true) : d.HasMetadata := by
  unfold hasTrueAnnotation at h
  rw [annotation?_eq, metadata] at h
  cases found : Table.get? "metadata" d.fields with
  | none =>
    rw [found] at h
    cases h
  | some v =>
    rw [found] at h
    cases v with
    | obj members => exact ⟨members, found⟩
    | _ => cases h

/-- A namespace that is moved is renamed, so then at least it has metadata. -/
theorem hasMetadata_moveInto (isNamespace : d.kind = "Namespace") (ns : String) :
    (d.moveInto ns).HasMetadata := by
  have lower : Text.lowercase "Namespace" = "namespace" := by decide
  have renamed : d.readdress ns = d.setName ns := by rw [readdress, isNamespace, lower, if_pos rfl]
  have named : (d.setName ns).HasMetadata := by
    rw [setName, setPath_metadata]
    exact hasMetadata_withMetadata d _
  rw [moveInto_eq, renamed]
  split
  · exact named
  · exact (retains_setPath_metadata (by decide) rfl _ []).metadata named

/-- A document that does not say itself who has created its object, if that is a namespace. -/
def Unmarked (d : Document) : Prop :=
  d.kind = "Namespace" → ∀ v, d.value.at? ["metadata", "annotations"] = some v →
    v.isObject = true ∧ v.get? createdKey = none

end Document

theorem Transformer.hasMetadata_injectNamespaceConditional {ns : String} {d d' : Document}
    (ok : injectNamespaceConditional ns d = .ok (some d')) (isNamespace : d.kind = "Namespace") :
    d'.HasMetadata := by
  cases ok
  dsimp only
  split
  · rename_i stays
    exact Document.hasMetadata_of_annotation stays
  · exact Document.hasMetadata_moveInto isNamespace ns

namespace Manifest

open Transformer

variable {m m' : Manifest} {phase : Phase} {owner : Config} {settings : DocumentSettings}
  {environment : Environment} {d' : Document}

theorem kind_place {h : Heading} {ns : String}
    (isNamespace : (phase.place ns h).kind = "Namespace") : h.kind = "Namespace" := by
  rcases phase.kind_place_cases ns h with same | ⟨-, promoted⟩
  · exact same.symm.trans isNamespace
  · simp [promoted] at isNamespace

theorem prepare_hasMetadata (installs : phase ∈ Installation.removalOrder)
    (ok : m.prepare owner settings (phase.transformers environment) = .ok m')
    (mem : d' ∈ m'.documents) (isNamespace : d'.kind = "Namespace") : d'.HasMetadata := by
  obtain ⟨reference, rest, bindings, -, restOk, bindingsOk, rfl⟩ := prepare_eq_ok ok
  obtain ⟨restDocuments, restTurned, rfl⟩ := map_eq_ok restOk
  obtain ⟨bindingDocuments, bindingsTurned, rfl⟩ := map_eq_ok bindingsOk
  rcases List.mem_append.1 mem with mem | mem
  · have turns := turns_phase installs reference owner.spec.targetNamespace settings environment
    obtain ⟨d, -, -, turned⟩ := exists_of_forall₂ (turns.forall₂ restTurned) mem
    obtain ⟨_, ⟨⟩, becomes⟩ := turns d (some d') turned
    have declared : d.kind = "Namespace" := kind_place (becomes.kind.symm.trans isNamespace)
    -- The owner comes first and leaves the kind alone, so the second link sees a namespace.
    obtain ⟨_, owned, turned⟩ := bind_eq_ok turned
    obtain ⟨d₁, rfl, unchanged⟩ := turns_injectOwner reference d _ owned
    have kind : d₁.kind = "Namespace" := unchanged.kind.trans declared
    obtain ⟨_, moved, turned⟩ := bind_eq_ok turned
    obtain ⟨d₂, rfl, -⟩ := turns_injectNamespaceConditional _ d₁ _ moved
    have named : d₂.HasMetadata := hasMetadata_injectNamespaceConditional moved kind
    exact (retains_settings phase settings environment d₂ d' turned).metadata named
  · have turns := (turns_injectOwner reference).cons
      ((turns_injectRoleBindingNamespace owner.spec.targetNamespace).cons turns_nil)
    obtain ⟨d, among, -, turned⟩ := exists_of_forall₂ (turns.forall₂ bindingsTurned) mem
    obtain ⟨_, ⟨⟩, becomes⟩ := turns d (some d') turned
    have binding : d.heading.kind = "RoleBinding" := eq_of_beq (List.mem_filter.1 among).2
    have kind := becomes.kind.symm.trans isNamespace
    simp [binding] at kind

/-- What a phase prepares means what it says. -/
theorem prepare_repeatable (installs : phase ∈ Installation.removalOrder)
    (ok : m.prepare owner settings (phase.transformers environment) = .ok m')
    (distinct : m.Distinct) (unmarked : ∀ d ∈ m.documents, d.Unmarked)
    (separate : (identities m'.documents).Nodup) :
    Repeatable m'.documents := by
  have origin {d' : Document} (mem : d' ∈ m'.documents) := prepare_origin installs ok mem
  constructor
  · exact separate
  · intro d' mem
    obtain ⟨d, among, -, retains⟩ := origin mem
    exact retains.distinct (distinct d among)
  · intro d' mem isNamespace
    obtain ⟨d, among, becomes, retains⟩ := origin mem
    have declared : d.kind = "Namespace" := kind_place (becomes.kind.symm.trans isNamespace)
    refine ⟨prepare_hasMetadata installs ok mem isNamespace, fun v found => ?_⟩
    refine unmarked d among declared v ?_
    rw [Document.at?_metadata (by decide), ← retains.annotations]
    exact found

theorem Repeatable.filter (ready : Repeatable m.documents) (p : Document → Bool) :
    Repeatable (m.filter p).documents where
  separate := ready.separate.sublist (List.filter_sublist.map _)
  distinct d mem := ready.distinct d (List.mem_filter.1 mem).1
  leaves d mem := ready.leaves d (List.mem_filter.1 mem).1

theorem Repeatable.apart {p : Document → Bool} {d : Document} (ready : Repeatable m.documents)
    (mem : d ∈ m.documents) (excluded : p d = false) :
    d.identity ∉ identities (m.filter p).documents := by
  intro taken
  obtain ⟨e, chosen, same⟩ := List.mem_map.1 taken
  obtain ⟨among, included⟩ := List.mem_filter.1 chosen
  obtain rfl := List.inj_on_of_nodup_map ready.separate among mem same
  rw [excluded] at included
  cases included

end Manifest

/-! ## Two runs of a phase -/

namespace Installation

open Manifest

variable {i : Installation} {c : Config} {phase : Phase} {m : Manifest} {s s₀ s₁ s₂ : Stock}

/-- What a phase prepares to apply. -/
def prepared (i : Installation) (c : Config) (phase : Phase) : Except Halt Manifest :=
  (i.bundle.forPhase phase).prepare c i.operator.documentSettings
    (phase.transformers i.environment)

theorem applyManifest_eq (ok : i.prepared c phase = .ok m) :
    i.applyManifest c phase = (do
      (m.filter fun d => !d.needsRecreate).apply
      (m.filter Document.needsRecreate).applyOrRecreate .standard) := by
  rw [applyManifest, ← prepared, ok]
  rfl

/-- **A phase that was applied with success has settled its documents.** -/
theorem applyManifest_settles (ok : i.prepared c phase = .ok m) (ready : Repeatable m.documents)
    (steady : s.Steady) :
    (i.applyManifest c phase).Ensures Stock.Conduct s fun result s' =>
      result = some (.ok ()) → Settles m.documents s result s' := by
  rw [applyManifest_eq ok]
  have first := applyAll_settles (ready.filter fun d => !d.needsRecreate) steady
  refine first.bind ?_ (fun _ _ _ => nofun) fun _ _ => nofun
  intro _ s₁ applied
  have second := applyOrRecreate_settles (ready.filter Document.needsRecreate) applied.steady
    .standard
  refine second.mono fun result s₂ ended succeeds => ?_
  refine (applied.append (ended succeeds) fun d mem => ?_).congr fun d => ?_
  · -- No identity is in both parts, so the second one leaves the first one settled.
    obtain ⟨among, excluded⟩ := List.mem_filter.1 mem
    exact ready.apart among (by simpa using excluded)
  · exact (List.perm_append_comm.trans
      (List.filter_append_perm Document.needsRecreate m.documents)).mem_iff

theorem applyManifest_idle (ok : i.prepared c phase = .ok m)
    (settled : ∀ d ∈ m.documents, d.Settled s) (steady : s.Steady) :
    (i.applyManifest c phase).IdleIn s := by
  have part {p : Document → Bool} {d : Document} (mem : d ∈ (m.filter p).documents) :
      d.Settled s := settled d (List.mem_filter.1 mem).1
  rw [applyManifest_eq ok]
  exact (applyAll_idle (fun d mem => part mem) steady).bind fun _ =>
    applyOrRecreate_idle (fun d mem => part mem) steady .standard

/-- **Applying a phase again only looks.** Let a cluster store what it is given, in whatever way it
refuses requests and takes its time to let objects go. After a run that succeeded, whether by
applying everything or by creating some objects anew, another run in which the lookups are answered
succeeds, and it asks for no creation, no update and no deletion. -/
theorem applyManifest_again {result : Option (Except Fault Unit)} {es : Calls}
    (installs : phase ∈ removalOrder)
    (unmarked : ∀ d ∈ (i.bundle.forPhase phase).documents, d.Unmarked)
    (ok : i.prepared c phase = .ok m) (separate : (identities m.documents).Nodup)
    (steady : s₀.Steady)
    (first : (i.applyManifest c phase).Exec Stock.Conduct s₀ (some (.ok ())) s₁)
    (again : (i.applyManifest c phase).Exec Stock.Attentive.recorded (s₁, []) result (s₂, es)) :
    result = some (.ok ()) ∧ s₂ = s₁ ∧ es.Ask fun r => r.writesObjects = false := by
  have ready := prepare_repeatable installs ok (i.bundle.declared phase).distinct unmarked
    separate
  have settles := first.ensures (applyManifest_settles ok ready steady) rfl
  have idle := applyManifest_idle ok (settles.settled () rfl) settles.steady
  obtain ⟨⟨_, succeeds⟩, same, looks, said, observes⟩ := again.ensures (idle [])
  obtain rfl : es = looks := said
  exact ⟨succeeds, same, observes⟩

end Installation

namespace Stock

/-- The cluster after some time, when everything has gone that is leaving. -/
def settle (s : Stock) : Stock where
  find k := (s.find k).filter fun h => !h.leaving
  own k h found := s.own k h (Option.filter_eq_some_iff.1 found).1

theorem fades_settle (s : Stock) : Fades s s.settle := by
  intro k
  cases found : s.find k with
  | none => exact .inl (by simp [settle, found])
  | some h =>
    cases leaving : h.leaving with
    | false => exact .inl (by simp [settle, found, leaving])
    | true => exact .inr ⟨by simp [settle, found, leaving], h, rfl, leaving⟩

/-- A cluster that never changes what a deployment or a service is, and in which an object goes as
soon as time passes. -/
def stubborn : (r : Request) → Stock → r.Reply × Stock
  | .find d, s => (.ok ((s.find d.identity).map Holding.document), s)
  | .create d, s =>
    if s.find d.identity = none then (.ok (), s.set ⟨d, false⟩)
    else (.error (.refused .alreadyExists), s)
  | .update d, s =>
    match s.find d.identity with
    | some h =>
      if d.needsRecreate then (.error (.refused (.ofReason 422 "Invalid")), s)
      else (.ok (), s.set { h with document := d })
    | none => (.error (.refused .notFound), s)
  | .delete d _, s =>
    match s.find d.identity with
    | some h => (.ok (), s.set { h with leaving := true })
    | none => (.error (.refused .notFound), s)
  | .sleep since duration, s => (exactly (since + duration), s.settle)
  | r, s => (vacant r, s)

theorem attentive_stubborn (r : Request) (s : Stock) :
    Attentive r s (stubborn r s).1 (stubborn r s).2 := by
  have still : Fades s s := fun k => .inl rfl
  cases r with
  | find d => exact ⟨⟨s, still, rfl, fun found same => (Except.ok.inj same).symm, nofun⟩, _, rfl⟩
  | create d =>
    refine ⟨⟨s, still, ?_⟩, trivial⟩
    rw [stubborn]
    split
    · rename_i free
      exact .inl ⟨free, rfl⟩
    · exact .inr ⟨rfl, _, rfl⟩
  | update d =>
    refine ⟨⟨s, still, ?_⟩, trivial⟩
    rw [stubborn]
    split
    · rename_i h found
      split
      · exact .inr ⟨rfl, _, rfl⟩
      · exact .inl ⟨h, found, rfl⟩
    · exact .inr ⟨rfl, _, rfl⟩
  | delete d policy =>
    refine ⟨⟨s, still, ?_⟩, trivial⟩
    rw [stubborn]
    split
    · rename_i h found
      exact .inl ⟨h, found, rfl⟩
    · exact .inr ⟨rfl, _, rfl⟩
  | sleep since duration => exact ⟨⟨s.settle, fades_settle s, rfl⟩, trivial⟩
  | _ => exact ⟨⟨s, still, rfl⟩, trivial⟩

/-- The controller is there already, and it is paused. -/
def outdated : Stock :=
  (mk (fun _ => none) (fun _ _ found => by cases found)).set ⟨paused, false⟩
where
  paused : Document :=
    ⟨.obj [("kind", .str "Deployment"),
      ("metadata", .obj [("name", .str "controller"), ("namespace", .str "pipelines")]),
      ("spec", .obj [("paused", .bool true)])]⟩

theorem steady_outdated : outdated.Steady := by
  refine Steady.set ?_ rfl rfl
  intro k h found
  cases found

end Stock

namespace Installation

open Manifest

/-- A document that only says what it is. -/
def bare (kind name : String) : Document :=
  ⟨.obj [("kind", .str kind), ("metadata", .obj [("name", .str name)])]⟩

/-- A namespace and a controller. -/
def controller : Installation where
  operator := Operator.standard
  bundle :=
    { pipeline.documents := [bare "Namespace" "tekton-pipelines", bare "Deployment" "controller"] }
  environment := []

/-- The controller is created anew, and after that there is nothing to do. -/
theorem applyManifest_again_recreated :
    let once := (controller.applyManifest somebody .applyPipeline).run.run Stock.stubborn .outdated
    let twice := (controller.applyManifest somebody .applyPipeline).run.run
      (recording Stock.stubborn) (once.2, [])
    .applyPipeline ∈ removalOrder ∧
      (∀ d ∈ (controller.bundle.forPhase .applyPipeline).documents, d.Unmarked) ∧
      (∃ m, controller.prepared somebody .applyPipeline = .ok m ∧ (identities m.documents).Nodup) ∧
      Stock.outdated.Steady ∧
      (controller.applyManifest somebody .applyPipeline).Exec Stock.Conduct .outdated
        (some (.ok ())) once.2 ∧
      (controller.applyManifest somebody .applyPipeline).Exec Stock.Attentive.recorded (once.2, [])
        twice.1 twice.2 ∧
      ((once.2.find ⟨"Deployment", some "pipelines", "controller"⟩).any fun h =>
        (h.document.value.at? ["spec", "paused"]).isNone) = true ∧
      twice.1 = some (.ok ()) ∧ twice.2.1 = once.2 ∧
      Calls.Ask (fun r => r.writesObjects = false) twice.2.2 := by
  intro once twice
  have installs : .applyPipeline ∈ removalOrder := by decide
  have unmarked : ∀ d ∈ (controller.bundle.forPhase .applyPipeline).documents, d.Unmarked := by
    intro d mem isNamespace v found
    rcases List.mem_pair.1 mem with rfl | rfl <;> cases found
  have identified :
      (controller.prepared somebody .applyPipeline).map (fun m => identities m.documents) =
        .ok [⟨"Namespace", none, "pipelines"⟩, ⟨"Deployment", some "pipelines", "controller"⟩] := by
    decide +kernel
  obtain ⟨m, ok, same⟩ := map_eq_ok identified
  have separate : (identities m.documents).Nodup := by
    rw [same]
    decide
  have succeeds : once.1 = some (.ok ()) := by decide +kernel
  have first : (controller.applyManifest somebody .applyPipeline).Exec Stock.Conduct .outdated
      (some (.ok ())) once.2 := by
    rw [← succeeds]
    exact Program.exec_run (fun r s => (Stock.attentive_stubborn r s).1) _ .outdated
  have again := Program.exec_recording Stock.attentive_stubborn
    (controller.applyManifest somebody .applyPipeline).run (once.2, [])
  have anew : ((once.2.find ⟨"Deployment", some "pipelines", "controller"⟩).any fun h =>
      (h.document.value.at? ["spec", "paused"]).isNone) = true := by decide +kernel
  exact ⟨installs, unmarked, ⟨m, ok, separate⟩, Stock.steady_outdated, first, again, anew,
    applyManifest_again installs unmarked ok separate Stock.steady_outdated first again⟩

end Installation

end PhasedInstall
