import PhasedInstall.Files.Path
import PhasedInstall.Manifest.Transform

/-!
# The operator's configuration

What an operator was started with. It does not change while the operator runs.
-/

set_option autoImplicit false

namespace PhasedInstall

/-- The resolved configuration of an operator. -/
structure Operator where
  /-- The name of the one resource that is honored. -/
  watchResource : String
  /-- The namespace of the components, for a resource that the operator creates itself. -/
  targetNamespace : String
  resourceDir : Path
  /-- Whether the manifests of a directory's subdirectories count. -/
  recursive : Bool
  /-- Whether the operator creates the resource at startup. -/
  autoInstall : Bool
  /-- Leaves out the community catalog. -/
  skipCommunity : Bool
  communityLocations : List String
  defaultAccount : String
  disableAffinityAssistant : Bool
  /-- The identity of this operator installation. The empty one matches every other. -/
  uuid : String
  version : String
deriving DecidableEq, Repr

namespace Operator

/-- The name that is watched unless another one is given. -/
def defaultWatchResource : String := "cluster"

/-- Where the components of a resource go that the operator creates itself. -/
def defaultTargetNamespace : String := "openshift-pipelines"

/-- The release that is installed unless another one is given. -/
def defaultVersion : String := "release-next"

/-- The service account of tasks that name none. -/
def defaultServiceAccount : String := "pipeline"

/-- The pages of the community catalog. -/
def defaultCommunityLocations : List String :=
  ["https://raw.githubusercontent.com/tektoncd/catalog/master/jib-maven/jib-maven.yaml",
    "https://raw.githubusercontent.com/tektoncd/catalog/master/maven/maven.yaml",
    "https://raw.githubusercontent.com/tektoncd/catalog/master/tkn/tkn.yaml",
    "https://raw.githubusercontent.com/tektoncd/catalog/master/kn/kn.yaml"]

/-- The directory of the manifests of a release. -/
def resourceDirOf (version : String) : Path := ((⟨"deploy"⟩ : Path).join "resources").join version

/-- The configuration of an operator that was told nothing. -/
def standard : Operator where
  watchResource := defaultWatchResource
  targetNamespace := defaultTargetNamespace
  resourceDir := resourceDirOf defaultVersion
  recursive := true
  autoInstall := true
  skipCommunity := false
  communityLocations := defaultCommunityLocations
  defaultAccount := defaultServiceAccount
  disableAffinityAssistant := true
  uuid := ""
  version := defaultVersion

/-- The directory of one group of manifests. -/
def componentDir (o : Operator) (component : String) : Path := o.resourceDir.join component

/-- The settings that shape documents. -/
def documentSettings (o : Operator) : DocumentSettings :=
  ⟨o.defaultAccount, o.disableAffinityAssistant⟩

end Operator

end PhasedInstall
