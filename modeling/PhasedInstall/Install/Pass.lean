import PhasedInstall.Manifest.Apply

/-!
# One pass over the watched resource

A pass reads the resource, picks an action, performs it and says when to come back. It takes at
most one step of the installation, and the step's outcome is recorded in front of the resource's
history before the pass ends. A phase that fails is recorded too; if even that fails, the failure
of the phase is still what the pass reports.
-/

set_option autoImplicit false

namespace PhasedInstall

/-- When to look at a resource again. -/
inductive Revisit where
  /-- As soon as the resource changes. -/
  | onChange
  /-- After some seconds. -/
  | after (seconds : Nat)
deriving DecidableEq, Repr

namespace Revisit

/-- For the next step of an installation. -/
def atOnce : Revisit := after 0

/-- For a component that is not ready yet. -/
def whileWaiting : Revisit := after 15

/-- For whatever went wrong. -/
def afterFailure : Revisit := after 5

end Revisit

/-- What a running operator works with. None of it changes while the operator runs. -/
structure Installation where
  operator : Operator
  bundle : Bundle
  environment : Environment

namespace Installation

/-- The phases that this installation has. -/
def plan (i : Installation) : Plan := i.bundle.plan i.operator

/-- The action for a resource as it is stored. -/
def decide (i : Installation) (name : String) (config : Option Config) : Action :=
  i.operator.decide i.plan name config

/-- Records a condition in front of the history of a resource. -/
def record (i : Installation) (c : Config) (condition : Condition) : Work Config :=
  Work.replaceStatus (c.withCondition condition i.operator.uuid)

/-- The condition of a resource that does not carry the watched name. -/
def invalidName (i : Installation) : Condition where
  code := .invalidResource
  details := some ("metadata.name must be " ++ i.operator.watchResource)
  version := "unknown"

/-- The condition that a code brings for the operator's release. -/
def condition (i : Installation) (c : Config) (code : StatusCode) : Condition :=
  c.nextCondition code i.operator.version

/-- Records that a phase failed, if possible, and fails with its fault. -/
def fail {α : Type} (i : Installation) (c : Config) (phase : Phase) (f : Fault) : Work α := do
  Work.report (.failed phase)
  let _ ← (i.record c { i.condition c (.failed phase) with details := some f.text }).outcome
  throw (.inPhase phase f)

/-- Prepares the manifest of a phase and applies it. Objects that often cannot be changed in place
come last, and are created anew if the cluster refuses the change. -/
def applyManifest (i : Installation) (c : Config) (phase : Phase) : Work Unit := do
  let m ← Work.ofHalt ((i.bundle.forPhase phase).prepare c i.operator.documentSettings
    (phase.transformers i.environment))
  (m.filter fun d => !d.needsRecreate).apply
  (m.filter Document.needsRecreate).applyOrRecreate .standard

/-- Applies the manifest of a phase and records the success. -/
def applyPhase (i : Installation) (c : Config) (phase : Phase) : Work Revisit := do
  match ← (i.applyManifest c phase).outcome with
  | .error f => i.fail c phase f
  | .ok () =>
    let _ ← i.record c (i.condition c (i.plan.successCode phase))
    return .atOnce

/-- Whether the deployments of a component have rolled out and its webhook is registered. The
first answer "no" ends the questions. -/
def componentReady (component : Component) (ns : String) : Work Bool := do
  if !(← Work.deploymentReady component.controller ns) then return false
  if !(← Work.deploymentReady component.webhook ns) then return false
  Work.webhookExists component.webhookConfiguration

/-- Writes the release that a component's manifest brings into a condition. Without one the
carried release stays. -/
def stampRelease (phase : Phase) (release : Option String) (condition : Condition) : Condition :=
  match phase with
  | .validateTriggers =>
    { condition with triggersVersion := release.orElse fun _ => condition.triggersVersion }
  | _ => { condition with pipelineVersion := release.orElse fun _ => condition.pipelineVersion }

/-- Looks whether a component is ready and records the success. A component that is not ready yet
is no failure and leaves the history as it is. -/
def validatePhase (i : Installation) (c : Config) (phase : Phase) (component : Component) :
    Work Revisit := do
  match ← (componentReady component c.spec.targetNamespace).outcome with
  | .error f => i.fail c phase f
  | .ok false => return .whileWaiting
  | .ok true =>
    let release := component.release? (i.bundle.forPhase phase)
    let _ ← i.record c (stampRelease phase release (i.condition c (i.plan.successCode phase)))
    return .atOnce

/-- Runs one phase. A phase either applies a manifest or validates a component. -/
def runPhase (i : Installation) (c : Config) (phase : Phase) : Work Revisit :=
  match phase with
  | .validatePipeline => i.validatePhase c phase .pipeline
  | .validateTriggers => i.validatePhase c phase .triggers
  | _ => i.applyPhase c phase

/-- The phases whose objects are removed, in the order of removal. -/
def removalOrder : List Phase := [.applyAddons, .applyCommunity, .applyTriggers, .applyPipeline]

/-- Removes the manifests of phases one after the other. The dependents of an object go first. -/
def removePhases (i : Installation) (ns : String) : List Phase → Work Unit
  | [] => return ()
  | phase :: rest => do
    let m ← Work.ofHalt ((i.bundle.forPhase phase).forRemoval phase ns)
    m.remove .foreground
    removePhases i ns rest

/-- Removes everything that is installed in a namespace. Objects that are already gone are passed
over, so a removal that was interrupted can run again. -/
def teardown (i : Installation) (ns : String) : Work Unit := i.removePhases ns removalOrder

/-- Performs an action on the resource as it was read. What needs a resource does nothing without
one. -/
def perform (i : Installation) (name : String) : Action → Option Config → Work Revisit
  | .markInvalid, some c => do
    let _ ← i.record c i.invalidName
    return .onChange
  | .addFinalizer, _ => do
    let _ ← Work.addFinalizer name
    return .atOnce
  | .delete, some c => do
    i.teardown c.spec.targetNamespace
    Work.removeFinalizer name
    return .onChange
  | .teardown, _ => do
    i.teardown i.operator.targetNamespace
    return .onChange
  | .run phase, some c => i.runPhase c phase
  | .markInstalled, some c => do
    let _ ← i.record c (i.condition c .installed)
    return .onChange
  | _, _ => return .onChange

/-- One pass over the resource with a name. -/
def pass (i : Installation) (name : String) : Work Revisit := do
  Work.report (.started name)
  let stored ← Work.readConfig name
  let action := i.decide name stored
  Work.report (.decided name action)
  if action = .noOp then return .onChange
  let result ← (i.perform name action stored).outcome
  Work.report (.finished name action)
  Work.ofExcept result

end Installation

namespace Operator

/-- The resource that an operator creates for itself. -/
def initialConfig (o : Operator) : Config where
  metadata := { name := some o.watchResource }
  spec := { targetNamespace := o.targetNamespace }
  status := none

/-- Creates the watched resource, unless there is one already. -/
def createConfig (o : Operator) : Work Unit := do
  match ← (Work.createConfig o.initialConfig).outcome with
  | .ok _ => return ()
  | .error f => if f.isAlreadyExists then return () else throw f

end Operator

end PhasedInstall
