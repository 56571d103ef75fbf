import PhasedInstall.Proofs.Manifest.Items

/-!
# Items without a name

An image is meant for what has its name. Steps and parameters without a name are passed over, so
`taskImages` always has a result and spares them. A container without a name goes by the empty name
instead, and the empty name has an image exactly if the name of some variable is the prefix of its
subsystem and nothing more. Such a variable gives its image to every container that has no name, and
over one that is neither an object nor null `deploymentImages` gives up.

So the limit of what is spared is exact: `Unnamed.exact` holds for every prefix and every
environment, in both directions.
-/

set_option autoImplicit false

namespace PhasedInstall

open ImageOverrides Transformer

/-- An item that is no object stays what it is, and one that has no name keeps the value of a
field. -/
structure Json.Spared (field : String) (w w' : Json) : Prop where
  whole : w.isObject = false → w' = w
  own : itemName? w = none → w'.get? field = w.get? field

/-- All items without a name keep their images. -/
structure Document.UnnamedSpared (d d' : Document) : Prop where
  containers : d.ItemsTurn containerPath (Json.Spared "image") d'
  steps : d.ItemsTurn stepPath (Json.Spared "image") d'
  parameters : d.ItemsTurn parameterPath (Json.Spared "default") d'

/-- What the overrides of a subsystem mean for items without a name. -/
structure ImageOverrides.Unnamed (leader : String) (environment : Environment) : Prop where
  /-- Whatever a task is made of, it gets its images, and the items without a name are spared. -/
  tasks : ∀ d, ∃ d', taskImages (ofVariables leader environment) d = .ok (some d') ∧
    d.UnnamedSpared d'
  /-- A deployment gets its images too, unless it has a container that is neither an object nor null
  and the name of some variable is the prefix alone. -/
  stops : ∀ d, CrashesIff (d.HasFieldlessContainer ∧ ∃ image, (leader, image) ∈ environment)
    (deploymentImages (ofVariables leader environment) d)
  /-- The last one of these variables has the image for the containers without a name. -/
  containers : ∀ d d', deploymentImages (ofVariables leader environment) d = .ok (some d') →
    d.kind = "Deployment" → d.ItemsTurn Document.containerPath
      (fun w w' => itemName? w = none → Overridden leader "" environment "image" w w') d'
  /-- Where there is none, and only there, everything without a name is spared. -/
  exact : (∀ d, d.kind ≠ "" →
      ∃ d', deploymentImages (ofVariables leader environment) d = .ok (some d') ∧
        d.UnnamedSpared d') ↔
    ∀ image, (leader, image) ∉ environment

namespace ImageOverrides

variable {images : ImageOverrides} {field mark leader : String} {environment : Environment}
  {w w' : Json}

/-! ## One item -/

theorem spared_refl (field : String) (w : Json) : w.Spared field w := ⟨fun _ => rfl, fun _ => rfl⟩

/-- A step or a parameter without a name is spared. -/
theorem spared_replaceField (ok : images.replaceField mark field w = .ok w') :
    w.Spared field w' := by
  constructor
  · exact fun whole => replaceField_of_unnamed (itemName?_of_not_object whole) ok
  · intro unnamed
    rw [replaceField_of_unnamed unnamed ok]

/-- The image of a container without a name is that of the empty name. -/
theorem image_of_unnamed (unnamed : itemName? w = none)
    (ok : images.replaceContainer w = .ok w') :
    w'.get? "image" = images.standsFor "" "image" w := by
  rw [(image_replaceContainer ok).1, containerKey, unnamed]
  rfl

/-- A container without a name is spared where the empty name has no image. -/
theorem spared_replaceContainer (missing : Table.get? "" images = none)
    (ok : images.replaceContainer w = .ok w') : w.Spared "image" w' := by
  constructor
  · intro whole
    rw [replaceContainer, itemName?_of_not_object whole, Option.getD_none,
      show key "" "" = "" from rfl, missing] at ok
    cases w with
    | obj members => cases whole
    | _ =>
      cases ok
      rfl
  · intro unnamed
    rw [image_of_unnamed unnamed ok, standsFor, missing]
    rfl

/-! ## Documents -/

variable {d d' : Document}

theorem unnamedSpared_refl (d : Document) : d.UnnamedSpared d where
  containers := Document.itemsTurn_of_same (spared_refl _) rfl
  steps := Document.itemsTurn_of_same (spared_refl _) rfl
  parameters := Document.itemsTurn_of_same (spared_refl _) rfl

theorem unnamedSpared_taskImages (ok : taskImages images d = .ok (some d')) :
    d.UnnamedSpared d' := by
  by_cases task : d.kind = "ClusterTask"
  · obtain ⟨steps, parameters⟩ := items_taskImages task ok
    have apart : (Document.sparing Document.containerPath).writes
        (.inItems Document.stepPath [.member "image"]) ∧
        (Document.sparing Document.containerPath).writes
          (.inItems Document.parameterPath [.member "default"]) := by decide
    have within : d.Within (Document.sparing Document.containerPath) d' :=
      within_taskImages (fun _ => apart) ok
    exact
      { containers := Document.itemsTurn_of_same (spared_refl _)
          (within.at?_of_spared (by decide))
        steps := steps.imp fun _ _ => spared_replaceField
        parameters := parameters.imp fun _ _ => spared_replaceField }
  · rw [taskImages, if_neg task] at ok
    cases ok
    exact unnamedSpared_refl d

theorem unnamedSpared_deploymentImages (missing : Table.get? "" images = none)
    (ok : deploymentImages images d = .ok (some d')) : d.UnnamedSpared d' := by
  by_cases deployment : d.kind = "Deployment"
  · have within : ∀ path, Document.Observable path →
        (Document.sparing path).writes (.inItems Document.containerPath [.member "image"]) ∧
        (Document.sparing path).writes
          (.inItems Document.containerPath [.member "args", .item]) →
        d'.value.at? path = d.value.at? path := by
      intro path observable apart
      have within : d.Within (Document.sparing path) d' :=
        within_deploymentImages (fun _ => apart) ok
      exact within.at?_of_spared observable
    exact
      { containers := (containers_deploymentImages deployment ok).imp fun _ _ =>
          spared_replaceContainer missing
        steps := Document.itemsTurn_of_same (spared_refl _)
          (within _ (by decide) (by decide))
        parameters := Document.itemsTurn_of_same (spared_refl _)
          (within _ (by decide) (by decide)) }
  · rw [deploymentImages, if_neg deployment] at ok
    cases ok
    exact unnamedSpared_refl d

/-! ## The limit -/

/-- A deployment with these containers. -/
def workloadOf (containers : List Json) : Document :=
  ⟨.obj [("kind", .str "Deployment"), ("spec", .obj [("template", .obj [("spec",
    .obj [("containers", .arr containers)])])])]⟩

/-- **When overrides spare what they cannot name**: for tasks always, and for deployments exactly if
no variable's name is the prefix of the subsystem and nothing more. -/
theorem overrides_spare_unnamed_iff (leader : String) (environment : Environment) :
    Unnamed leader environment where
  tasks d := by
    obtain ⟨d', ok⟩ := (turns_taskImages _).exists_of_crashesIff
      (taskImages_crashesIff (ofVariables leader environment) d) id
    exact ⟨d', ok, unnamedSpared_taskImages ok⟩
  stops d := by
    rw [← get?_empty_ofVariables]
    exact deploymentImages_crashesIff _ d
  containers d d' ok deployment := by
    refine (containers_deploymentImages deployment ok).imp fun w w' ok unnamed => ?_
    exact overridden_of_standsFor (image_of_unnamed unnamed ok)
  exact := by
    have stops := deploymentImages_crashesIff (ofVariables leader environment)
    simp only [get?_empty_ofVariables] at stops
    constructor
    · intro spares image bare
      -- A container that is a text cannot get the image, so there is no result.
      obtain ⟨d', ok, -⟩ := spares (workloadOf [.str "busybox"]) (by decide)
      have fieldless : (workloadOf [.str "busybox"]).HasFieldlessContainer :=
        ⟨rfl, _, rfl, _, List.mem_singleton_self _, rfl, rfl⟩
      rcases stops (workloadOf [.str "busybox"]) with ⟨-, crash⟩ | ⟨goes, -⟩
      · rw [crash] at ok
        cases ok
      · exact goes ⟨fieldless, image, bare⟩
    · intro absent d _
      have missing : Table.get? "" (ofVariables leader environment) = none := by
        refine (get?_ofVariables leader "" environment).2.2 fun entry mem spells => ?_
        exact absent entry.2 (spells_empty.1 spells ▸ mem)
      obtain ⟨d', ok⟩ := (turns_deploymentImages _).exists_of_crashesIff (stops d)
        fun both => both.2.elim absent
      exact ⟨d', ok, unnamedSpared_deploymentImages missing ok⟩

/-- A variable whose name is the prefix alone. -/
def bareVariable : Environment := [("IMAGE_PIPELINES_", "e/none")]

/-- This variable stops a deployment with a container that is a text, and a container that has no
name gets its image. -/
theorem not_overrides_spare_unnamed :
    deploymentImages (ofVariables "IMAGE_PIPELINES_" bareVariable) (workloadOf [.str "busybox"]) =
        .error .crash ∧
      (∃ d', deploymentImages (ofVariables "IMAGE_PIPELINES_" bareVariable) (workloadOf [.obj []]) =
          .ok (some d') ∧ ¬ (workloadOf [.obj []]).UnnamedSpared d') ∧
      ¬ ∀ (leader : String) (environment : Environment) (d : Document), d.kind ≠ "" →
        ∃ d', deploymentImages (ofVariables leader environment) d = .ok (some d') ∧
          d.UnnamedSpared d' := by
  have crash : deploymentImages (ofVariables "IMAGE_PIPELINES_" bareVariable)
      (workloadOf [.str "busybox"]) = .error .crash := rfl
  refine ⟨crash, ⟨workloadOf [.obj [("image", .str "e/none")]], rfl, fun spared => ?_⟩,
    fun always => ?_⟩
  · cases spared.containers with
    | some items =>
      cases items with
      | cons here _ =>
        have kept := here.own rfl
        cases kept
  · obtain ⟨d', ok, -⟩ :=
      always "IMAGE_PIPELINES_" bareVariable (workloadOf [.str "busybox"]) (by decide)
    rw [crash] at ok
    cases ok

end ImageOverrides

end PhasedInstall
