import PhasedInstall.Install.Component

/-!
# What a pass does

A pass looks at the resource as it is stored and picks one action. The pick is a function of the
operator, its plan, the name that triggered the pass and the stored resource: nothing else is
remembered between passes.
-/

set_option autoImplicit false

namespace PhasedInstall

/-- What one pass can do to the watched resource or for it. -/
inductive Action where
  /-- Records that the resource does not carry the watched name. -/
  | markInvalid
  /-- Puts the operator's finalizer on the resource. -/
  | addFinalizer
  /-- The resource is being deleted: removes what is installed and then the finalizer. -/
  | delete
  /-- The resource is gone: removes what is installed. -/
  | teardown
  | run (phase : Phase)
  /-- Records that every planned phase is done. -/
  | markInstalled
  /-- The resource needs nothing. -/
  | noOp
deriving DecidableEq, Repr

namespace Action

/-- The name under which actions are counted. -/
def label : Action → String
  | markInvalid => "MarkInvalid"
  | addFinalizer => "AddFinalizer"
  | delete => "Delete"
  | teardown => "Teardown"
  | run phase => phase.name
  | markInstalled => "MarkInstalled"
  | noOp => "NoOp"

end Action

/-- The finalizer that keeps a resource until everything installed for it is removed. -/
def finalizerName : String := "operator.tekton.dev/finalizer"

namespace Config

/-- Whether the operator holds on to the resource. Other finalizers do not matter. -/
def hasFinalizer (c : Config) : Bool := c.finalizers.contains finalizerName

/-- Whether the cluster has been asked to delete the resource, which waits for its finalizers. -/
def isBeingDeleted (c : Config) : Bool := c.metadata.deletionTimestamp.isSome

end Config

namespace Operator

/-- What the history of a live resource asks for. A complete installation is only run again, from
the first phase, when it is not the one that this operator would make. -/
def nextAction (o : Operator) (plan : Plan) (c : Config) : Action :=
  let run (phase : Phase) : Action :=
    match plan.resolve phase with
    | some phase => .run phase
    | none => .markInstalled
  match c.installStatus.dispatch with
  | .run phase => run phase
  | .steadyState => if c.isUpToDate o.version o.uuid then .noOp else run .applyPipeline

/-- Picks the action for a resource by its name and its stored state. A resource with another name
than the watched one is marked once and otherwise left alone. -/
def decide (o : Operator) (plan : Plan) (name : String) : Option Config → Action
  | some c =>
    if name ≠ o.watchResource then
      if c.installStatus = .invalidResource then .noOp else .markInvalid
    else if c.isBeingDeleted then
      if c.hasFinalizer then .delete else .noOp
    else if c.hasFinalizer then o.nextAction plan c
    else .addFinalizer
  | none => if name ≠ o.watchResource then .noOp else .teardown

end Operator

end PhasedInstall
