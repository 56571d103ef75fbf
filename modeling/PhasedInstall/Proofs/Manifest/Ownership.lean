import PhasedInstall.Proofs.Manifest.Stages

/-!
# Who owns what is applied

Every document that belongs to a namespace is given the resource as its one owner, and no other
document is touched. What counts is the kind that the document declares. A task that the community
catalog promotes belongs to a namespace when it gets its owner and to none when it is applied, so it
keeps an owner that its kind is meant to be spared.
-/

set_option autoImplicit false

namespace PhasedInstall

namespace Document

variable {d d' : Document} {reference : Owner}

/-- The owners that a document names, as they stand. -/
def ownerField (d : Document) : Option Json := d.value.at? ["metadata", "ownerReferences"]

theorem ownerField_owned (reference : Owner) (d : Document) :
    (d.owned reference).ownerField =
      if d.isClusterScoped then d.ownerField else some (.arr [reference.toJson]) := by
  rw [owned]
  split
  · rfl
  · exact at?_setMetadata (by decide) d _

theorem ownerField_settledIn (ns : String) (d : Document) :
    (d.settledIn ns).ownerField = d.ownerField := by
  refine at?_settledIn_of_spared (by decide) (fun place moves => ?_) ns
  cases moves with
  | own => decide
  | mention mentions => cases mentions <;> decide

theorem ownerField_boundIn (ns : String) (d : Document) :
    (d.boundIn ns).ownerField = d.ownerField := by
  have spared := within_boundIn (R := sparing ["metadata", "ownerReferences"])
    (by decide) (by decide) (by decide) ns d
  exact spared.at?_of_spared (by decide)

end Document

namespace Manifest

variable {m m' : Manifest} {phase : Phase} {owner : Config} {settings : DocumentSettings}
  {environment : Environment} {reference : Owner} {d d' : Document}

/-- **The declared kind decides about the owner.** -/
theorem Prepares.ownerField (h : Prepares phase owner settings environment reference d d') :
    d'.ownerField =
      if d.isClusterScoped then d.ownerField else some (.arr [reference.toJson]) := by
  rw [← d.ownerField_owned reference]
  rcases h.stages with ⟨-, rfl⟩ | ⟨other, ok⟩
  · exact Document.ownerField_boundIn _ _
  · have stays : ((d.owned reference).settledIn owner.spec.targetNamespace).kind ≠
        "RoleBinding" := by
      rwa [Document.kind_settledIn, Document.kind_owned]
    have spared : d'.ownerField =
        ((d.owned reference).settledIn owner.spec.targetNamespace).ownerField :=
      at?_of_settled (by decide) stays ok fun place settled => by cases settled <;> decide
    rw [spared, Document.ownerField_settledIn]

/-- The reference to a resource that controls what it owns. -/
def controllerOf (name uid : String) : Owner where
  apiVersion := Config.apiVersion
  blockOwnerDeletion := none
  controller := some true
  kind := Config.kind
  name := name
  uid := uid

theorem ownerReference_eq_controllerOf {name uid : String}
    (named : owner.metadata.name = some name) (identified : owner.metadata.uid = some uid) :
    owner.ownerReference = .ok (controllerOf name uid) := by
  have owned : owner.owner? = some (controllerOf name uid) := by
    simp [Config.owner?, named, identified, controllerOf]
  rw [Config.ownerReference, owned]

/-- What is applied has the owner if its kind belongs to a namespace, and else the owners that were
declared. -/
def OwnersFollowScope (reference : Owner) (d d' : Document) : Prop :=
  (d'.isClusterScoped = false → d'.ownerField = some (.arr [reference.toJson])) ∧
    (d'.isClusterScoped = true → d'.ownerField = d.ownerField)

/-- **Owners follow the scope of a kind, except for promoted tasks.** What decides is the kind that
is declared. So the owners follow the kind that is applied, too, for every document but a task of
the community catalog, and for such a task only if it declares that one owner itself. -/
theorem owners_follow_scope_iff {name uid : String} (installs : phase ∈ Installation.removalOrder)
    (named : owner.metadata.name = some name) (identified : owner.metadata.uid = some uid)
    (ok : m.prepare owner settings (phase.transformers environment) = .ok m') :
    List.Forall₂ (fun d d' =>
        (d'.ownerField =
          if d.isClusterScoped then d.ownerField
          else some (.arr [(controllerOf name uid).toJson])) ∧
        (OwnersFollowScope (controllerOf name uid) d d' ↔
          (phase = .applyCommunity → d.kind = "Task" →
            d.ownerField = some (.arr [(controllerOf name uid).toJson]))))
      m.bindingsLast.documents m'.documents := by
  obtain ⟨reference, owned, prepares⟩ := prepare_prepares installs ok
  rw [ownerReference_eq_controllerOf named identified] at owned
  cases owned
  refine prepares.imp fun d d' h => ⟨h.ownerField, ?_⟩
  have kind := h.kind installs
  rw [OwnersFollowScope, h.ownerField, Document.isClusterScoped, Document.isClusterScoped, kind]
  by_cases promoted : phase = .applyCommunity ∧ d.kind = "Task"
  · obtain ⟨rfl, task⟩ := promoted
    have wide : isClusterScopedKind "ClusterTask" = true := by decide
    have narrow : isClusterScopedKind "Task" = false := by decide
    simp [task, wide, narrow, eq_comm]
  · have other : phase = .applyCommunity → d.kind = "Task" → d.ownerField = some (.arr
        [(controllerOf name uid).toJson]) := fun community task => absurd ⟨community, task⟩ promoted
    rw [if_neg promoted]
    cases scope : isClusterScopedKind d.kind <;> simpa using other

/-- A role binding and a task of the community catalog: both get the owner. -/
theorem owners_follow_scope_of_binding :
    Phase.applyCommunity ∈ Installation.removalOrder ∧
      somebody.metadata.name = some "cluster" ∧ somebody.metadata.uid = some "7" ∧
      ∃ task binding, boundTask.prepare somebody ⟨"runner", true⟩
          (Phase.applyCommunity.transformers []) = .ok ⟨[task, binding]⟩ ∧
        (task.kind = "ClusterTask" ∧
          task.ownerField = some (.arr [(controllerOf "cluster" "7").toJson]) ∧
          ¬ OwnersFollowScope (controllerOf "cluster" "7") (boundTask.declared "Task" "maven")
            task) ∧
        OwnersFollowScope (controllerOf "cluster" "7")
          (boundTask.declared "RoleBinding" "runner") binding := by
  have installs : Phase.applyCommunity ∈ Installation.removalOrder := by decide
  have named : somebody.metadata.name = some "cluster" := rfl
  have identified : somebody.metadata.uid = some "7" := rfl
  have prepared : boundTask.prepare somebody ⟨"runner", true⟩
      (Phase.applyCommunity.transformers []) = .ok ⟨[_, _]⟩ := rfl
  refine ⟨installs, named, identified, _, _, prepared, ?_⟩
  have each := owners_follow_scope_iff installs named identified prepared
  obtain ⟨task, others⟩ := List.forall₂_cons.1 each
  obtain ⟨binding, -⟩ := List.forall₂_cons.1 others
  refine ⟨⟨rfl, task.1, ?_⟩, binding.2.2 fun _ kind => absurd kind (by decide)⟩
  intro follows
  have declared := task.2.1 follows rfl rfl
  cases declared

/-- A promoted task is applied with an owner, though no task of the cluster is to have one. -/
theorem not_owners_follow_scope :
    ¬ ∀ (phase : Phase) (owner : Config) (name uid : String) (m m' : Manifest)
        (settings : DocumentSettings) (environment : Environment),
      phase ∈ Installation.removalOrder → owner.metadata.name = some name →
      owner.metadata.uid = some uid →
      m.prepare owner settings (phase.transformers environment) = .ok m' →
      List.Forall₂ (OwnersFollowScope (controllerOf name uid)) m.bindingsLast.documents
        m'.documents := by
  intro always
  have each := always .applyCommunity somebody "cluster" "7" ⟨[boundTask.declared "Task" "maven"]⟩ _
    ⟨"runner", true⟩ [] (by decide) rfl rfl rfl
  obtain ⟨task, -⟩ := List.forall₂_cons.1 each
  have same := task.2 (by decide)
  cases same

end Manifest

end PhasedInstall
