import PhasedInstall.Proofs.Manifest.Retained

/-!
# Removal goes where the objects were put

What names an object for the cluster is its reference: the version of its kind, its kind, its
namespace and its name. A phase prepares the documents of its group to apply them, and prepares
them in another way to find the objects again. The two give every document the same reference, so
removal goes through the references that were applied, in the order of the group, where applying has
the role bindings last (`prepare_references`, `forRemoval_references`).

Finding the objects again never fails. Preparing to apply gives up in one case, and that is a
deployment with a container that is no object, while some variable overrides the image of the empty
name.
-/

set_option autoImplicit false

namespace PhasedInstall

/-- What names an object together with the version of its kind. -/
structure Reference extends Identity where
  apiVersion : String
deriving DecidableEq, Repr

namespace Document

variable {d d' : Document}

def reference (d : Document) : Reference := ⟨d.identity, d.apiVersion⟩

theorem apiVersion_eq (d : Document) :
    d.apiVersion = ((Table.get? "apiVersion" d.fields).bind Json.str?).getD "" := by
  rw [apiVersion, textAt, Json.at?, Json.child?_of_name (by decide), Json.get?_eq]
  cases h : Table.get? "apiVersion" d.value.membersOrNone <;> simp [fields, h, Json.at?]

theorem Retains.apiVersion (h : d.Retains d') : d'.apiVersion = d.apiVersion := by
  rw [apiVersion_eq, apiVersion_eq, h.version]

end Document

namespace Reference

def isBinding (r : Reference) : Bool := r.kind == "RoleBinding"

/-- References with those of role bindings behind all others. -/
def bindingsLast (rs : List Reference) : List Reference :=
  (rs.filter fun r => !r.isBinding) ++ rs.filter isBinding

theorem bindingsLast_perm (rs : List Reference) : (bindingsLast rs).Perm rs :=
  List.perm_append_comm.trans (List.filter_append_perm isBinding rs)

end Reference

namespace Manifest

variable {m m' : Manifest} {phase : Phase} {ns : String}

def references (m : Manifest) : List Reference := m.documents.map Document.reference

/-- The reference that a phase gives to a document. -/
def placed (phase : Phase) (ns : String) (d : Document) : Reference :=
  ⟨(phase.place ns d.heading).toIdentity, d.apiVersion⟩

theorem references_of_places {ds ds' : List Document} (h : List.Forall₂ (Places phase ns) ds ds') :
    ds'.map Document.reference = ds.map (placed phase ns) := by
  induction h with
  | nil => rfl
  | cons here _ ih =>
    obtain ⟨becomes, retains⟩ := here
    rw [List.map_cons, List.map_cons, ih, Document.reference, retains.apiVersion, placed,
      ← becomes.heading]
    rfl

/-- Neither moving nor promoting makes a role binding of something else, or the other way round. -/
theorem isBinding_placed (phase : Phase) (ns : String) (d : Document) :
    (placed phase ns d).isBinding = (d.kind == "RoleBinding") := by
  show ((phase.place ns d.heading).kind == "RoleBinding") = (d.heading.kind == "RoleBinding")
  rcases phase.kind_place_cases ns d.heading with same | ⟨task, promoted⟩
  · rw [same]
  · rw [task, promoted]
    rfl

theorem bindingsLast_placed (m : Manifest) (phase : Phase) (ns : String) :
    m.bindingsLast.documents.map (placed phase ns) =
      Reference.bindingsLast (m.documents.map (placed phase ns)) := by
  rw [Reference.bindingsLast, List.filter_map, List.filter_map, ← List.map_append]
  simp only [Function.comp_def, isBinding_placed]
  rfl

end Manifest

/-! ## When preparing gives up -/

namespace Document

variable {d d' d'' : Document}

/-- The changes that come before the images are replaced leave the containers of a deployment
alone. -/
structure SameWorkload (d d' : Document) : Prop where
  kind : d'.kind = d.kind
  spec : d.kind = "Deployment" → Table.get? "spec" d'.fields = Table.get? "spec" d.fields

theorem SameWorkload.refl (d : Document) : SameWorkload d d := ⟨rfl, fun _ => rfl⟩

theorem SameWorkload.trans (first : SameWorkload d d') (second : SameWorkload d' d'') :
    SameWorkload d d'' where
  kind := second.kind.trans first.kind
  spec deployment := (second.spec (first.kind.trans deployment)).trans (first.spec deployment)

theorem sameWorkload_setPath_metadata (d : Document) (rest : List String) (v : Json) :
    SameWorkload d (d.setPath ("metadata" :: rest) v) := by
  rw [setPath_eq]
  constructor
  · rw [kind_eq, kind_eq, fields_withField, Table.get?_put_of_ne (by decide)]
  · intro _
    rw [fields_withField, Table.get?_put_of_ne (by decide)]

theorem sameWorkload_moveInto (d : Document) (ns : String) : SameWorkload d (d.moveInto ns) := by
  constructor
  · exact (becomes_moveInto ns d).kind
  · intro deployment
    have lower : Text.lowercase "Deployment" = "deployment" := by decide
    have narrow : isClusterScopedKind "Deployment" = false := by decide
    have unmoved : d.readdress ns = d := by
      rw [readdress, deployment, lower]
      simp
    rw [moveInto_eq, unmoved, isClusterScoped, deployment, narrow]
    exact (sameWorkload_setPath_metadata d _ _).spec deployment

theorem sameWorkload_setConfigMapKey (name key value : String) (d : Document) :
    SameWorkload d (d.setConfigMapKey name key value) := by
  constructor
  · exact (becomes_setConfigMapKey name key value d).kind
  · intro deployment
    have other : "Deployment".toList.map Char.toLower ≠ "configmap".toList := by decide
    rw [setConfigMapKey, deployment, if_neg fun both => other both.1]

theorem SameWorkload.hasFieldlessContainer (h : SameWorkload d d') :
    d'.HasFieldlessContainer ↔ d.HasFieldlessContainer := by
  rw [HasFieldlessContainer, HasFieldlessContainer, h.kind]
  refine and_congr_right fun deployment => ?_
  have same : d'.value.at? ["spec", "template", "spec", "containers"] =
      d.value.at? ["spec", "template", "spec", "containers"] := by
    have spec := h.spec deployment
    rw [Json.at?, Json.at?, Json.child?_of_name (by decide), Json.child?_of_name (by decide),
      Json.get?_eq, Json.get?_eq]
    exact congrArg (Option.bind · _) spec
  rw [same]

/-- The changes that every phase makes. -/
def adopted (reference : Owner) (ns : String) (settings : DocumentSettings) (d : Document) :
    Document :=
  let owned := if d.isClusterScoped then d else d.setOwners [reference]
  let moved := if owned.hasTrueAnnotation preserveNamespaceKey then owned else owned.moveInto ns
  let accounted :=
    moved.setConfigMapKey "config-defaults" "default-service-account" settings.defaultAccount
  accounted.setConfigMapKey "feature-flags" "disable-affinity-assistant"
    (if settings.disableAffinityAssistant then "true" else "false")

theorem sameWorkload_adopted (reference : Owner) (ns : String) (settings : DocumentSettings)
    (d : Document) : SameWorkload d (d.adopted reference ns settings) := by
  have owned : SameWorkload d (if d.isClusterScoped then d else d.setOwners [reference]) := by
    split
    · exact .refl d
    · exact sameWorkload_setPath_metadata d _ _
  have moved : ∀ d : Document, SameWorkload d
      (if d.hasTrueAnnotation preserveNamespaceKey then d else d.moveInto ns) := by
    intro d
    split
    · exact .refl d
    · exact sameWorkload_moveInto d ns
  exact ((owned.trans (moved _)).trans (sameWorkload_setConfigMapKey _ _ _ _)).trans
    (sameWorkload_setConfigMapKey _ _ _ _)

end Document

namespace Manifest

open Transformer

variable {m m' : Manifest} {phase : Phase} {ns : String}

theorem transformAll_crashesIff {t : Transformer} {P : Document → Prop}
    (h : ∀ d, CrashesIff (P d) (t d)) (ds : List Document) :
    CrashesIff (∃ d ∈ ds, P d) (transformAll t ds) := by
  induction ds with
  | nil => exact (CrashesIff.of_ok []).congr (by simp)
  | cons d rest ih =>
    rw [transformAll]
    refine ((h d).bind (q := ∃ d ∈ rest, P d) fun result _ => ?_).congr (by simp)
    cases result with
    | none => exact ih
    | some d' => exact (ih.bind fun ds' _ => .of_ok (d' :: ds')).congr (by simp)

/-- The changes that come first never give up. -/
theorem chain_adopted (reference : Owner) (ns : String) (settings : DocumentSettings)
    (ts : List Transformer) (d : Document) :
    chain ([injectOwner reference, injectNamespaceConditional ns,
      injectDefaultAccount settings.defaultAccount,
      setAffinityAssistant settings.disableAffinityAssistant] ++ ts) d =
        chain ts (d.adopted reference ns settings) := rfl

theorem chain_singleton_crashesIff {t : Transformer} {p : Prop} {d : Document}
    (h : CrashesIff p (t d)) : CrashesIff p (chain [t] d) := by
  refine (h.bind (q := False) fun result _ => ?_).congr (by simp)
  cases result with
  | none => exact .of_ok none
  | some d' => exact .of_ok (some d')

theorem chain_keep_crashesIff {ts : List Transformer} (h : ∀ d, CrashesIff False (chain ts d))
    (f : Document → Document) (d : Document) : CrashesIff False (chain (keep f :: ts) d) :=
  h (f d)

/-- A phase gives up over a document whose containers have no fields, if a variable overrides the
image of the empty name. -/
def GivesUp (phase : Phase) (environment : Environment) (d : Document) : Prop :=
  (phase = .applyPipeline ∨ phase = .applyTriggers) ∧ d.HasFieldlessContainer ∧
    ∃ image, (phase.imageLeader, image) ∈ environment

theorem chain_crashesIff (installs : phase ∈ Installation.removalOrder) (reference : Owner)
    (ns : String) (settings : DocumentSettings) (environment : Environment) (d : Document) :
    CrashesIff (GivesUp phase environment d)
      (chain ([injectOwner reference, injectNamespaceConditional ns,
        injectDefaultAccount settings.defaultAccount,
        setAffinityAssistant settings.disableAffinityAssistant] ++
          phase.transformers environment) d) := by
  rw [chain_adopted]
  have images : ∀ phase : Phase, phase = .applyPipeline ∨ phase = .applyTriggers →
      CrashesIff (GivesUp phase environment d)
        (chain [deploymentImages (.ofVariables phase.imageLeader environment)]
          (d.adopted reference ns settings)) := by
    intro phase replaces
    refine (chain_singleton_crashesIff (deploymentImages_crashesIff _ _)).congr ?_
    -- Images are replaced in the adopted document, and its containers are the declared ones.
    rw [ImageOverrides.get?_empty_ofVariables,
      (Document.sameWorkload_adopted reference ns settings d).hasFieldlessContainer, GivesUp]
    exact (and_iff_right replaces).symm
  have tasks : ∀ d', CrashesIff False
      (chain [taskImages (.ofVariables "IMAGE_ADDONS_" environment)] d') :=
    fun d' => chain_singleton_crashesIff (taskImages_crashesIff _ d')
  cases phase with
  | applyPipeline => exact images .applyPipeline (Or.inl rfl)
  | applyTriggers => exact images .applyTriggers (Or.inr rfl)
  | applyAddons => exact (chain_keep_crashesIff tasks _ _).congr (by simp [GivesUp])
  | applyCommunity =>
    exact (chain_keep_crashesIff (chain_keep_crashesIff tasks _) _ _).congr (by simp [GivesUp])
  | validatePipeline => exact absurd installs (by decide)
  | validateTriggers => exact absurd installs (by decide)

theorem transform_crashesIff {ts : List Transformer} {P : Document → Prop}
    (h : ∀ d, CrashesIff (P d) (chain ts d)) (m : Manifest) :
    CrashesIff (∃ d ∈ m.documents, P d) (m.transform ts) :=
  (transformAll_crashesIff h m.documents).map mk

/-- Finding the objects of a group again never fails. -/
theorem forRemoval_total (m : Manifest) (phase : Phase) (ns : String) :
    ∃ removed, m.forRemoval phase ns = .ok removed := by
  have nothing : ∀ d, CrashesIff False (chain [] d) := fun d => .of_ok (some d)
  have each : ∀ d, CrashesIff False (chain (phase.removalTransformers ns) d) := by
    intro d
    cases phase with
    | applyCommunity => exact chain_keep_crashesIff (chain_keep_crashesIff nothing _) _ d
    | _ => exact chain_keep_crashesIff nothing _ d
  rcases transform_crashesIff each m with ⟨impossible, -⟩ | ⟨-, found⟩
  · simp at impossible
  · exact found

theorem prepare_crashesIff {owner : Config} {reference : Owner}
    (installs : phase ∈ Installation.removalOrder)
    (owned : owner.ownerReference = .ok reference) (m : Manifest) (settings : DocumentSettings)
    (environment : Environment) :
    CrashesIff (∃ d ∈ m.documents, GivesUp phase environment d)
      (m.prepare owner settings (phase.transformers environment)) := by
  have nothing : ∀ d, CrashesIff False (chain [] d) := fun d => .of_ok (some d)
  have bindings : ∀ d, CrashesIff False
      (chain [injectOwner reference, injectRoleBindingNamespace owner.spec.targetNamespace] d) :=
    chain_keep_crashesIff (chain_keep_crashesIff nothing _) _
  have others := chain_crashesIff installs reference owner.spec.targetNamespace settings environment
  unfold prepare
  rw [owned]
  refine ((transform_crashesIff others _).bind (q := False) fun rest _ => ?_).congr ?_
  · refine ((transform_crashesIff bindings _).bind (q := False) fun more _ => ?_).congr (by simp)
    exact .of_ok (rest ++ more)
  · -- No role binding is a deployment, so nobody who gives up is among those left out.
    rw [or_false]
    refine exists_congr fun d => and_congr_left fun gives => ?_
    have workload : d.kind = "Deployment" := gives.2.1.1
    simp [filter, workload]

theorem ownerReference_eq_ok {owner : Config} {name uid : String}
    (named : owner.metadata.name = some name) (identified : owner.metadata.uid = some uid) :
    ∃ reference, owner.ownerReference = .ok reference := by
  have owned : ∃ reference, owner.owner? = some reference := by
    simp [Config.owner?, named, identified]
  obtain ⟨reference, owned⟩ := owned
  exact ⟨reference, by rw [Config.ownerReference, owned]⟩

/-- **Removal goes exactly where the objects were put.** For every phase and every manifest, finding
the objects again succeeds, and preparing to apply either gives the same references, with those of
role bindings behind all others, or gives up. It gives up exactly if there is a deployment with a
container that is no object, for a phase that replaces containers' images, and a variable whose
name is the prefix of the phase and nothing more. -/
theorem removal_goes_where_applied {owner : Config} {name uid : String}
    (installs : phase ∈ Installation.removalOrder)
    (named : owner.metadata.name = some name) (identified : owner.metadata.uid = some uid)
    (m : Manifest) (settings : DocumentSettings) (environment : Environment) :
    ∃ removed, m.forRemoval phase owner.spec.targetNamespace = .ok removed ∧
      ((∃ applied, m.prepare owner settings (phase.transformers environment) = .ok applied ∧
          applied.references = Reference.bindingsLast removed.references ∧
          applied.references.Perm removed.references) ↔
        ¬ ∃ d ∈ m.documents, GivesUp phase environment d) ∧
      ((∃ d ∈ m.documents, GivesUp phase environment d) →
        m.prepare owner settings (phase.transformers environment) = .error .crash) := by
  obtain ⟨removed, found⟩ := m.forRemoval_total phase owner.spec.targetNamespace
  obtain ⟨reference, owned⟩ := ownerReference_eq_ok named identified
  have removedAt : removed.references = m.documents.map (placed phase owner.spec.targetNamespace) :=
    references_of_places (forRemoval_places found)
  refine ⟨removed, found, ?_⟩
  rcases prepare_crashesIff installs owned m settings environment with
    ⟨gives, crash⟩ | ⟨goes, applied, prepared⟩
  · refine ⟨iff_of_false ?_ (not_not_intro gives), fun _ => crash⟩
    rintro ⟨applied, prepared, -⟩
    rw [crash] at prepared
    cases prepared
  · refine ⟨iff_of_true ⟨applied, prepared, ?_⟩ goes, fun gives => absurd gives goes⟩
    have appliedAt : applied.references = Reference.bindingsLast removed.references := by
      rw [removedAt, ← bindingsLast_placed]
      exact references_of_places (prepare_places installs prepared)
    rw [appliedAt]
    exact ⟨rfl, Reference.bindingsLast_perm _⟩

/-- A resource that can own objects. -/
def somebody : Config where
  metadata := { name := some "cluster", uid := some "7" }
  spec := { targetNamespace := "pipelines" }
  status := none

/-- A role binding and a task. -/
def boundTask : Manifest := ⟨[declared "RoleBinding" "runner", declared "Task" "maven"]⟩
where
  declared (kind name : String) : Document :=
    ⟨.obj [("apiVersion", .str "v1"), ("kind", .str kind),
      ("metadata", .obj [("name", .str name)])]⟩

/-- The task is found as the cluster task that it became, and before the role binding. -/
theorem removal_goes_to_cluster_task :
    Phase.applyCommunity ∈ Installation.removalOrder ∧ somebody.metadata.name = some "cluster" ∧
      somebody.metadata.uid = some "7" ∧
      ∃ removed, boundTask.forRemoval .applyCommunity "pipelines" = .ok removed ∧
        removed.references = [⟨⟨"RoleBinding", some "pipelines", "runner"⟩, "v1"⟩,
          ⟨⟨"ClusterTask", none, "maven"⟩, "v1"⟩] ∧
        ((∃ applied, boundTask.prepare somebody ⟨"runner", true⟩
              (Phase.applyCommunity.transformers []) = .ok applied ∧
            applied.references = Reference.bindingsLast removed.references ∧
            applied.references.Perm removed.references) ↔
          ¬ ∃ d ∈ boundTask.documents, GivesUp .applyCommunity [] d) := by
  have installs : Phase.applyCommunity ∈ Installation.removalOrder := by decide
  have named : somebody.metadata.name = some "cluster" := rfl
  have identified : somebody.metadata.uid = some "7" := rfl
  obtain ⟨removed, found, same, -⟩ :=
    removal_goes_where_applied installs named identified boundTask ⟨"runner", true⟩ []
  have references : (boundTask.forRemoval .applyCommunity "pipelines").map references =
      .ok [⟨⟨"RoleBinding", some "pipelines", "runner"⟩, "v1"⟩,
        ⟨⟨"ClusterTask", none, "maven"⟩, "v1"⟩] := by
    decide +kernel
  have found : boundTask.forRemoval .applyCommunity "pipelines" = .ok removed := found
  rw [found] at references
  exact ⟨installs, named, identified, removed, found, Except.ok.inj references, same⟩

/-- A deployment with a container that is a text. -/
def textual : Document :=
  ⟨.obj [("apiVersion", .str "apps/v1"), ("kind", .str "Deployment"),
    ("metadata", .obj [("name", .str "controller")]),
    ("spec", .obj [("template", .obj [("spec",
      .obj [("containers", .arr [.str "busybox"])])])])]⟩

/-- One variable is enough for the deployment to have no reference. -/
theorem not_removal_goes_where_applied :
    ¬ ∀ (phase : Phase) (owner : Config) (name uid : String) (m : Manifest)
        (settings : DocumentSettings) (environment : Environment),
      phase ∈ Installation.removalOrder → owner.metadata.name = some name →
      owner.metadata.uid = some uid →
      ∃ removed applied, m.forRemoval phase owner.spec.targetNamespace = .ok removed ∧
        m.prepare owner settings (phase.transformers environment) = .ok applied ∧
        applied.references = Reference.bindingsLast removed.references := by
  intro always
  obtain ⟨removed, applied, -, prepared, -⟩ :=
    always .applyPipeline somebody "cluster" "7" ⟨[textual]⟩ ⟨"runner", true⟩
      [("IMAGE_PIPELINES_", "none")] (by decide) rfl rfl
  have crash : (⟨[textual]⟩ : Manifest).prepare somebody ⟨"runner", true⟩
      (Phase.applyPipeline.transformers [("IMAGE_PIPELINES_", "none")]) = .error .crash := rfl
  rw [crash] at prepared
  cases prepared

end Manifest

end PhasedInstall
