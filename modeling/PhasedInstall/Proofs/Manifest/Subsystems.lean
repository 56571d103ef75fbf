import PhasedInstall.Proofs.Manifest.Unnamed
import PhasedInstall.Proofs.Manifest.Untouched

/-!
# Overrides reach the images of their own subsystem

Every phase has a prefix for the variables that override its images. `ImagesSettled` says of a
document that a phase has prepared where the images come from: in the arrays that the phase replaces
images in, what has a name gets the image of the last variable for this name, and keeps its own
without one; the arrays of other subsystems stay as they are declared. A task that is promoted
counts as the cluster task that it becomes.

What comes before the images leaves all these arrays alone, so the names that are looked up are
those that the manifest declares. And a phase depends on an environment only through the variables
with its prefix.
-/

set_option autoImplicit false

namespace PhasedInstall

open Json (Place)
open ImageOverrides (NamedOverridden AgreeOn parameterMark)
open Document (containerPath stepPath parameterPath)

/-- The phase replaces images of tasks. -/
def Phase.ReplacesTasks (phase : Phase) : Prop := phase = .applyAddons ∨ phase = .applyCommunity

/-- What has become of the images of a document. -/
structure ImagesSettled (phase : Phase) (environment : Environment) (d d' : Document) : Prop where
  containers : phase.ReplacesContainers → d'.kind = "Deployment" →
    d.ItemsTurn containerPath (NamedOverridden phase.imageLeader "" environment "image") d'
  steps : phase.ReplacesTasks → d'.kind = "ClusterTask" →
    d.ItemsTurn stepPath (NamedOverridden phase.imageLeader "" environment "image") d'
  parameters : phase.ReplacesTasks → d'.kind = "ClusterTask" →
    d.ItemsTurn parameterPath
      (NamedOverridden phase.imageLeader parameterMark environment "default") d'
  /-- No other containers are written. -/
  noContainers : ¬ (phase.ReplacesContainers ∧ d'.kind = "Deployment") →
    d'.value.at? containerPath = d.value.at? containerPath
  /-- Nor are other steps and parameters. -/
  noTasks : ¬ (phase.ReplacesTasks ∧ d'.kind = "ClusterTask") →
    ∀ path ∈ [stepPath, parameterPath], d'.value.at? path = d.value.at? path

/-! ## What comes before the images -/

namespace Document

/-- The arrays that images are replaced in. -/
def imagePaths : List Pointer := [containerPath, stepPath, parameterPath]

variable {path : Pointer} {d d' : Document}

theorem observable_of_mem (mem : path ∈ imagePaths) : Observable path := by
  have all : ∀ path ∈ imagePaths, Observable path := by decide
  exact all path mem

theorem owner_spares_images : ∀ path ∈ imagePaths,
    ¬ Place.Meets (.ofKeys ["metadata", "ownerReferences"]) (.ofKeys path) := by decide

theorem Moves.spares_images {kind : String} {place : Place} (h : Moves kind place) :
    ∀ path ∈ imagePaths, ¬ place.Meets (.ofKeys path) := by
  cases h with
  | own => decide
  | mention mentions => cases mentions <;> decide

/-- The changes that every phase makes leave these arrays alone. -/
theorem at?_adopted (mem : path ∈ imagePaths) (reference : Owner) (ns : String)
    (settings : DocumentSettings) (d : Document) :
    (d.adopted reference ns settings).value.at? path = d.value.at? path := by
  have observable := observable_of_mem mem
  have data : ∀ path ∈ imagePaths, ∀ key ∈ settingKeys,
      ¬ Place.Meets (.ofKeys ["data", key]) (.ofKeys path) := by decide
  have staged : d.adopted reference ns settings =
      ((d.owned reference).settledIn ns).configured settings := rfl
  rw [staged, at?_configured observable (data path mem),
    at?_settledIn_of_spared observable fun _ moves => moves.spares_images path mem,
    at?_owned observable (owner_spares_images path mem)]

/-- So does promoting a task. -/
theorem at?_promoteTask (mem : path ∈ imagePaths) (ok : promoteTask d = .ok (some d')) :
    d'.value.at? path = d.value.at? path := by
  have apart : ∀ path ∈ imagePaths, (sparing path).writes (.ofKeys ["kind"]) ∧
      (sparing path).writes (.ofKeys ["metadata", "namespace"]) := by decide
  have within : d.Within (sparing path) d' :=
    Transformer.within_promoteTask (fun _ => apart path mem) ok
  exact within.at?_of_spared (observable_of_mem mem)

/-- And so does saying who provides it. -/
theorem at?_labelCommunity (mem : path ∈ imagePaths) {kinds : List String}
    (ok : labelCommunity kinds d = .ok (some d')) : d'.value.at? path = d.value.at? path := by
  have apart : ∀ path ∈ imagePaths,
      (sparing path).writes (.ofKeys ["metadata", "labels", providerTypeLabel]) ∧
      (sparing path).opens ["metadata"] ∧ (sparing path).opens ["metadata", "labels"] := by decide
  have within : d.Within (sparing path) d' :=
    Transformer.within_injectLabel (fun _ => apart path mem) ok
  exact within.at?_of_spared (observable_of_mem mem)

end Document

/-! ## What a phase replaces -/

namespace Transformer

open ImageOverrides (namedOverridden_replaceContainer namedOverridden_replaceField)

variable {phase : Phase} {environment : Environment} {d d' : Document}

theorem containers_transformers (replaces : phase.ReplacesContainers)
    (deployment : d'.kind = "Deployment")
    (ok : chain (phase.transformers environment) d = .ok (some d')) :
    d.ItemsTurn containerPath (NamedOverridden phase.imageLeader "" environment "image") d' := by
  have only : deploymentImages (.ofVariables phase.imageLeader environment) d = .ok (some d') := by
    rcases replaces with rfl | rfl <;> exact chain_singleton_eq_ok ok
  have kind : d'.kind = d.kind := (turns_deploymentImages _).kind only
  exact (containers_deploymentImages (kind ▸ deployment) only).imp fun _ _ =>
    namedOverridden_replaceContainer

/-- A catalog ends with the images, after changes that leave them alone. -/
theorem taskImages_of_transformers (replaces : phase.ReplacesTasks)
    (ok : chain (phase.transformers environment) d = .ok (some d')) :
    ∃ e, taskImages (.ofVariables phase.imageLeader environment) e = .ok (some d') ∧
      ∀ path ∈ Document.imagePaths, e.value.at? path = d.value.at? path := by
  rcases replaces with rfl | rfl
  · obtain ⟨e, label, ok⟩ := chain_cons_eq_ok ok
    exact ⟨e, chain_singleton_eq_ok ok, fun path mem => Document.at?_labelCommunity mem label⟩
  · obtain ⟨d₁, promoted, ok⟩ := chain_cons_eq_ok ok
    obtain ⟨e, label, ok⟩ := chain_cons_eq_ok ok
    refine ⟨e, chain_singleton_eq_ok ok, fun path mem => ?_⟩
    rw [Document.at?_labelCommunity mem label, Document.at?_promoteTask mem promoted]

theorem items_transformers (replaces : phase.ReplacesTasks) (task : d'.kind = "ClusterTask")
    (ok : chain (phase.transformers environment) d = .ok (some d')) :
    d.ItemsTurn stepPath (NamedOverridden phase.imageLeader "" environment "image") d' ∧
    d.ItemsTurn parameterPath
      (NamedOverridden phase.imageLeader parameterMark environment "default") d' := by
  obtain ⟨e, ok, same⟩ := taskImages_of_transformers replaces ok
  have kind : d'.kind = e.kind := (turns_taskImages _).kind ok
  obtain ⟨steps, parameters⟩ := items_taskImages (kind ▸ task) ok
  constructor
  · exact (steps.congr (same _ (by decide)) rfl).imp fun _ _ =>
      namedOverridden_replaceField rfl (by decide)
  · exact (parameters.congr (same _ (by decide)) rfl).imp fun _ _ =>
      namedOverridden_replaceField rfl (by decide)

end Transformer

/-! ## What a phase leaves to the others -/

namespace Phase

variable {phase : Phase} {d : Document} {place : Place}

/-- Neither the owner nor a namespace is written among the images. -/
theorem Writes.settles (h : phase.Writes d place) {path : Pointer}
    (mem : path ∈ Document.imagePaths) (meets : place.Meets (.ofKeys path)) :
    phase.Settles d place := by
  have subject : ∀ path ∈ Document.imagePaths,
      ¬ Place.Meets (.inItems ["subjects"] [.member "namespace"]) (.ofKeys path) := by decide
  cases h with
  | owner => exact absurd meets (Document.owner_spares_images path mem)
  | subject => exact absurd meets (subject path mem)
  | move moves => exact absurd meets (moves.spares_images path mem)
  | settle _ settles => exact settles

theorem Writes.containers (h : phase.Writes d place) (meets : place.Meets (.ofKeys containerPath)) :
    phase.ReplacesContainers ∧ d.kind = "Deployment" := by
  cases h.settles (by decide) meets with
  | image replaces deployment => exact ⟨replaces, deployment⟩
  | argument replaces deployment => exact ⟨replaces, deployment⟩
  | _ => exact absurd meets (by decide)

theorem Writes.tasks (h : phase.Writes d place) {path : Pointer}
    (mem : path ∈ [stepPath, parameterPath]) (meets : place.Meets (.ofKeys path)) :
    phase.Catalogs d.kind := by
  have apart : (∀ path ∈ [stepPath, parameterPath], ¬ place.Meets (.ofKeys path)) →
      phase.Catalogs d.kind := fun none => absurd meets (none path mem)
  cases h.settles (List.mem_cons_of_mem _ mem) meets with
  | step catalogs => exact catalogs
  | parameter catalogs => exact catalogs
  | _ => exact apart (by decide)

end Phase

namespace Manifest

variable {m m' : Manifest} {phase : Phase} {owner : Config} {settings : DocumentSettings}
  {environment : Environment} {reference : Owner} {d d' : Document}

/-- What is no role binding in the end goes through the changes of its phase. -/
theorem Prepares.of_adopted (installs : phase ∈ Installation.removalOrder)
    (h : Prepares phase owner settings environment reference d d')
    (other : d'.kind ≠ "RoleBinding") :
    Transformer.chain (phase.transformers environment)
      (d.adopted reference owner.spec.targetNamespace settings) = .ok (some d') := by
  rcases h.stages with ⟨binding, -⟩ | ⟨-, ok⟩
  · have kind := h.kind installs
    rw [binding, if_neg (by simp)] at kind
    exact absurd kind other
  · exact ok

theorem Prepares.imagesSettled (installs : phase ∈ Installation.removalOrder)
    (h : Prepares phase owner settings environment reference d d') :
    ImagesSettled phase environment d d' := by
  have kind := h.kind installs
  have same : ∀ path ∈ Document.imagePaths,
      (d.adopted reference owner.spec.targetNamespace settings).value.at? path =
        d.value.at? path :=
    fun _ mem => Document.at?_adopted mem reference _ settings d
  constructor
  case containers =>
    intro replaces deployment
    have ok := h.of_adopted installs (by simp [deployment])
    exact (Transformer.containers_transformers replaces deployment ok).congr
      (same _ (by decide)) rfl
  case steps =>
    intro replaces task
    have ok := h.of_adopted installs (by simp [task])
    exact (Transformer.items_transformers replaces task ok).1.congr (same _ (by decide)) rfl
  case parameters =>
    intro replaces task
    have ok := h.of_adopted installs (by simp [task])
    exact (Transformer.items_transformers replaces task ok).2.congr (same _ (by decide)) rfl
  case noContainers =>
    intro other
    refine h.at?_of_spared (by decide) fun place written meets => other ?_
    obtain ⟨replaces, deployment⟩ := written.containers meets
    exact ⟨replaces, by rw [kind, deployment]; simp⟩
  case noTasks =>
    intro other path mem
    have observable := Document.observable_of_mem (List.mem_cons_of_mem containerPath mem)
    refine h.at?_of_spared observable fun place written meets => other ?_
    rcases written.tasks mem meets with ⟨addons, task⟩ | ⟨community, task | task⟩
    · exact ⟨.inl addons, by rw [kind, task]; simp⟩
    · exact ⟨.inr community, by rw [kind, task]; simp⟩
    · exact ⟨.inr community, by rw [kind, if_pos ⟨community, task⟩]⟩

/-- A task with two steps and a parameter. -/
def maven : Document :=
  ⟨.obj [("apiVersion", .str "v1"), ("kind", .str "Task"),
    ("metadata", .obj [("name", .str "maven")]),
    ("spec", .obj [
      ("params", .arr [.obj [("name", .str "Git"), ("default", .str "git:1")]]),
      ("steps", .arr [.obj [("name", .str "m-2"), ("image", .str "maven:1")],
        .obj [("name", .str "ant"), ("image", .str "ant:1")]])])]⟩

/-- Two spellings for a step, one for the parameter, and a variable of another subsystem. -/
def mirrors : Environment :=
  [("IMAGE_ADDONS_M_2", "mirror/maven:1"), ("IMAGE_ADDONS_PARAM_GIT", "mirror/git:1"),
    ("IMAGE_ADDONS_m-2", "mirror/maven:2"), ("IMAGE_TRIGGERS_ANT", "mirror/ant:1")]

/-- The texts in a field of the items of an array. -/
def textsAt (path : Pointer) (field : String) (d : Document) : List (Option String) :=
  ((d.itemsAt? path).getD []).map fun w => (w.get? field).bind Json.str?

/-- The kind of a document with the images of its steps and the defaults of its parameters. -/
def shownTask (d : Document) : String × List (Option String) × List (Option String) :=
  (d.kind, textsAt stepPath "image" d, textsAt parameterPath "default" d)

end Manifest

end PhasedInstall
