import PhasedInstall.Install.Operator
import PhasedInstall.Manifest.Source

/-!
# Components and their manifests

The two components with a controller of their own, the four groups of manifests, and what each
phase does with its group: the changes that belong to it, and how its documents are found again
for removal.
-/

set_option autoImplicit false

namespace PhasedInstall

/-- A component with a controller: what is checked to validate it. -/
structure Component where
  controller : String
  webhook : String
  /-- The configuration that registers the webhook. -/
  webhookConfiguration : String
  /-- The label of the controller's deployment that holds the release. -/
  releaseLabel : String
deriving DecidableEq, Repr

namespace Component

/-- The pipelines engine. -/
def pipeline : Component where
  controller := "tekton-pipelines-controller"
  webhook := "tekton-pipelines-webhook"
  webhookConfiguration := "webhook.pipeline.tekton.dev"
  releaseLabel := "pipeline.tekton.dev/release"

/-- The triggers add-on. -/
def triggers : Component where
  controller := "tekton-triggers-controller"
  webhook := "tekton-triggers-webhook"
  webhookConfiguration := "webhook.triggers.tekton.dev"
  releaseLabel := "triggers.tekton.dev/release"

/-- The release of the component that a manifest brings, if its controller says so. -/
def release? (c : Component) (m : Manifest) : Option String :=
  (m.findDeployment? c.controller).bind fun d => d.label? c.releaseLabel

end Component

/-- Whether the objects of a document often cannot be changed in place. -/
def Document.needsRecreate (d : Document) : Bool := d.kind = "Deployment" || d.kind = "Service"

/-- The groups of manifests that an operator installs, as they were read. -/
structure Bundle where
  pipeline : Declarations := .empty
  triggers : Declarations := .empty
  addons : Declarations := .empty
  community : Declarations := .empty

namespace Bundle

/-- The phases for a bundle: the triggers need documents, the catalog only has to be wanted. -/
def plan (b : Bundle) (o : Operator) : Plan := ⟨!b.triggers.isEmpty, !o.skipCommunity⟩

/-- The manifest that a phase applies or validates. -/
def forPhase (b : Bundle) : Phase → Manifest
  | .applyPipeline => b.pipeline.toManifest
  | .validatePipeline => b.pipeline.toManifest
  | .applyTriggers => b.triggers.toManifest
  | .validateTriggers => b.triggers.toManifest
  | .applyAddons => b.addons.toManifest
  | .applyCommunity => b.community.toManifest

/-- The documents of a phase are as they were read. -/
theorem declared (b : Bundle) (phase : Phase) : (b.forPhase phase).Declared := by
  cases phase with
  | applyPipeline | validatePipeline => exact b.pipeline.declared
  | applyTriggers | validateTriggers => exact b.triggers.declared
  | applyAddons => exact b.addons.declared
  | applyCommunity => exact b.community.declared

end Bundle

/-- Says who provides a task. -/
def providerTypeLabel : String := "operator.tekton.dev/provider-type"

/-- Marks the tasks of the community catalog. -/
def labelCommunity (kinds : List String) : Transformer :=
  .injectLabel providerTypeLabel "community" .overwrite kinds

/-- Makes a task available to all namespaces. -/
def promoteTask : Transformer := .replaceKind "Task" "ClusterTask"

namespace Phase

/-- The leading text of the variables that override the images of a phase. -/
def imageLeader : Phase → String
  | .applyPipeline => "IMAGE_PIPELINES_"
  | .validatePipeline => "IMAGE_PIPELINES_"
  | .applyTriggers => "IMAGE_TRIGGERS_"
  | .validateTriggers => "IMAGE_TRIGGERS_"
  | .applyAddons => "IMAGE_ADDONS_"
  | .applyCommunity => "IMAGE_ADDONS_"

/-- The changes that belong to a phase, with the image overrides of an environment. -/
def transformers (phase : Phase) (environment : Environment) : List Transformer :=
  let images := ImageOverrides.ofVariables phase.imageLeader environment
  match phase with
  | .applyPipeline => [.deploymentImages images]
  | .applyTriggers => [.deploymentImages images]
  | .applyAddons => [labelCommunity ["ClusterTask"], .taskImages images]
  | .applyCommunity => [promoteTask, labelCommunity [], .taskImages images]
  | .validatePipeline => []
  | .validateTriggers => []

/-- The changes that lead from a group's documents to the objects they became. Identities are all
that counts here, so no owner is needed. -/
def removalTransformers (phase : Phase) (ns : String) : List Transformer :=
  match phase with
  | .applyCommunity => [promoteTask, .injectNamespaceConditional ns]
  | _ => [.injectNamespaceConditional ns]

end Phase

/-- The documents under whose identities a phase has installed a manifest. -/
def Manifest.forRemoval (m : Manifest) (phase : Phase) (ns : String) : Except Halt Manifest :=
  m.transform (phase.removalTransformers ns)

end PhasedInstall
