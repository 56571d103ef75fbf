import PhasedInstall.Cluster.Shape
import PhasedInstall.Fault
import PhasedInstall.Json.Pointer

/-!
# Rollouts

A deployment has rolled out once its controller has seen the latest generation and every replica
is updated and available. A deployment that has exceeded its progress deadline will not become
ready on its own, which is a fault and not just "not yet".
-/

set_option autoImplicit false

namespace PhasedInstall

/-- A condition that a deployment reports. -/
structure DeploymentCondition where
  type : String
  reason : Option String
deriving DecidableEq, Repr

/-- What a deployment reports about its rollout. Counts that are not given are zero. -/
structure Rollout where
  observedGeneration : Int
  conditions : List DeploymentCondition
  replicas : Int
  updated : Int
  available : Int
deriving DecidableEq, Repr

/-- A deployment, as far as its rollout is concerned. -/
structure Deployment where
  name : String
  generation : Int
  /-- The number of replicas asked for, if the deployment says. -/
  desired : Option Int
  rollout : Option Rollout
deriving DecidableEq, Repr

namespace DeploymentCondition

/-- Reads a condition of a deployment whose type has been checked. -/
def ofJson (v : Json) : DeploymentCondition :=
  ⟨((v.get? "type").bind Json.str?).getD "", (v.get? "reason").bind Json.str?⟩

end DeploymentCondition

namespace Rollout

/-- Reads a report whose type has been checked, so that what cannot be read here is absent. -/
def ofJson (v : Json) : Rollout :=
  let count (key : String) : Int := ((v.get? key).bind Json.int64?).getD 0
  { observedGeneration := count "observedGeneration"
    conditions := (((v.get? "conditions").bind Json.items?).getD []).map DeploymentCondition.ofJson
    replicas := count "replicas"
    updated := count "updatedReplicas"
    available := count "availableReplicas" }

/-- Whether the first report on progress says that the deadline has passed. -/
def deadlineExceeded (r : Rollout) : Bool :=
  match r.conditions.find? fun c => c.type == "Progressing" with
  | some c => c.reason == some "ProgressDeadlineExceeded"
  | none => false

end Rollout

namespace Deployment

/-- Reads a deployment. Every field must have the type that the cluster publishes for it. -/
def ofJson? (v : Json) : Option Deployment :=
  if Shape.acceptsObject "apps/v1" "Deployment" .deployment v then
    let text? (key : String) : Option String := (v.at? ["metadata", key]).bind Json.str?
    some {
      name := ((text? "name").orElse fun _ => text? "generateName").getD ""
      generation := ((v.at? ["metadata", "generation"]).bind Json.int64?).getD 0
      desired := (v.at? ["spec", "replicas"]).bind Json.int32?
      rollout := ((v.get? "status").filter fun s => !s.isNull).map Rollout.ofJson }
  else none

/-- Whether a deployment has rolled out. -/
def ready (d : Deployment) : Except Fault Bool :=
  match d.rollout with
  | none => .ok false
  | some r =>
    if r.observedGeneration < d.generation then .ok false
    else if r.deadlineExceeded then
      .error (.timeout ("deployment \"" ++ d.name ++ "\" exceeded its progress deadline"))
    else
      let enough := match d.desired with
        | some desired => decide (desired ≤ r.updated)
        | none => true
      .ok (enough && decide (r.replicas ≤ r.updated) && decide (r.updated ≤ r.available))

end Deployment

end PhasedInstall
