import PhasedInstall.Install.Phase
import PhasedInstall.Cluster.Metadata

/-!
# The watched resource and its ledger

A `Config` asks for an installation, and its status is the only memory that the installation has:
a history of conditions, the newest first, and the identity of the operator that wrote it last.
Recording an outcome puts one condition in front and leaves the older ones as they are.
-/

set_option autoImplicit false

namespace PhasedInstall

/-- One recorded outcome. -/
structure Condition where
  code : StatusCode
  /-- What went wrong; given for error codes only. -/
  details : Option String := none
  /-- The target version that the outcome belongs to. -/
  version : String
  /-- The release of the pipelines engine found by the last validation. -/
  pipelineVersion : Option String := none
  /-- The release of the triggers found by the last validation. -/
  triggersVersion : Option String := none
deriving DecidableEq, Repr

/-- The recorded state of an installation. -/
structure Status where
  /-- The identity of the operator that wrote last. -/
  operatorUuid : Option String := none
  /-- The history, newest first. -/
  conditions : List Condition := []
deriving DecidableEq, Repr

/-- What an installation is to be like. -/
structure ConfigSpec where
  /-- The namespace into which the components go. -/
  targetNamespace : String
  /-- Patterns of namespaces that are left alone. -/
  namespaceExclusions : Option (List String) := none
deriving DecidableEq, Repr

/-- The resource that requests an installation. -/
structure Config where
  metadata : Metadata
  spec : ConfigSpec
  status : Option Status

namespace Status

/-- The newest condition. -/
def current? (s : Status) : Option Condition := s.conditions.head?

/-- Puts a condition in front of the history. -/
def prepend (s : Status) (c : Condition) : Status := { s with conditions := c :: s.conditions }

end Status

namespace Config

/-- The name of the resource. A resource still without a name goes by the one it is to be
generated from. -/
def name (c : Config) : String := (c.metadata.name.orElse fun _ => c.metadata.generateName).getD ""

/-- The finalizers of the resource. An absent list is an empty one. -/
def finalizers (c : Config) : List String := c.metadata.finalizers.getD []

/-- The current state, if anything was recorded yet. -/
def current? (c : Config) : Option Condition := c.status.bind Status.current?

/-- The code at the head of the history. Without a history nothing has been applied yet. -/
def installStatus (c : Config) : StatusCode := (c.current?.map Condition.code).getD .empty

/-- The identity of the operator that wrote last, or the empty one. -/
def operatorUuid (c : Config) : String := (c.status.bind Status.operatorUuid).getD ""

/-- Whether the current state is a complete installation of a version. -/
def hasInstalledVersion (c : Config) (version : String) : Bool :=
  match c.current? with
  | some head => head.code == .installed && head.version == version
  | none => false

/-- Whether the resource is completely installed by the given operator. An operator without
identity accepts every recorded one. -/
def isUpToDate (c : Config) (version uuid : String) : Bool :=
  c.hasInstalledVersion version && (uuid.isEmpty || c.operatorUuid == uuid)

/-- The resource with a condition put in front of its history. The operator stamps its identity,
if it has one. -/
def withCondition (c : Config) (condition : Condition) (uuid : String) : Config :=
  let status := c.status.getD {}
  let stamped := if uuid.isEmpty then status else { status with operatorUuid := some uuid }
  { c with status := some (stamped.prepend condition) }

/-- The next condition. The releases of the components are carried over from the current state,
so that they survive until a validation replaces them. -/
def nextCondition (c : Config) (code : StatusCode) (version : String) : Condition where
  code := code
  version := version
  pipelineVersion := c.current?.bind Condition.pipelineVersion
  triggersVersion := c.current?.bind Condition.triggersVersion

end Config

end PhasedInstall
