import PhasedInstall.Install.Start
import PhasedInstall.Simulation.Service

/-!
# An operator at work

The operator starts, lists the watched resources, and makes its first pass over each one a moment
later. What a pass says decides when the next one is due. Changes are not noticed here: a resource
whose pass asks to be called on a change is not visited again.
-/

set_option autoImplicit false

namespace PhasedInstall.Simulation

/-- A pass that is due. -/
structure Due where
  time : Nat
  name : String

namespace Due

/-- Puts a pass into a schedule, behind those that are due at the same time. -/
def schedule (due : Due) : List Due → List Due
  | [] => [due]
  | first :: rest =>
    if due.time < first.time then due :: first :: rest else first :: schedule due rest

/-- The pass that is asked for at a time. -/
def ofRevisit? (name : String) (now : Nat) : Revisit → Option Due
  | .onChange => none
  | .after seconds => some ⟨now + 1000 * seconds, name⟩

/-- The pass that follows a pass. -/
def next? (name : String) (now : Nat) : Except Fault Revisit → Option Due
  | .ok revisit => ofRevisit? name now revisit
  | .error _ => ofRevisit? name now .afterFailure

end Due

namespace Service

/-- The watched resources in a list. A list has to say which state of the cluster it shows. -/
def listedConfigs? (v : Json) : Option (List Config) := do
  let version ← (v.at? ["metadata", "resourceVersion"]).bind Json.str?
  if version.isEmpty then none
  (v.get? "items").bind (Json.list? Config.ofJson?)

/-- Lists the watched resources, off the record. -/
def listConfigs (service : Service) : List Config × Service :=
  match Http.Target.ofText? Http.Client.configs with
  | none => ([], service)
  | some target =>
    let (response, routes) := follow ⟨.get, target, none⟩ service.routes
    let listed := match Http.textOf response with
      | .ok text => ((Json.parse? text).bind listedConfigs?).getD []
      | .error _ => []
    (listed, { service with routes := routes })

/-- Makes the passes of a schedule up to a time. -/
def work (client : Http.Client) (i : Installation) (limit : Nat) :
    (steps : Nat) → List Due → Service → Service
  | 0, _, service => service
  | _, [], service => service
  | steps + 1, due :: rest, service =>
    if limit < due.time then service
    else
      let service := { service with now := max service.now due.time }
      match service.run client (i.pass due.name) with
      | (none, service) => service
      | (some result, service) =>
        let schedule := match Due.next? due.name service.now result with
          | some next => Due.schedule next rest
          | none => rest
        work client i limit steps schedule service

/-- How many passes are made at most. -/
def passLimit : Nat := 100000

/-- Starts an operator and lets it work up to a time. -/
def operate (service : Service) (client : Http.Client) (o : Operator) (around : Surroundings)
    (environment : Environment) (limit : Nat) : Option (Except Fault Unit) × Service :=
  let service := { service with recordEnd := some limit }
  match service.run client (o.start around environment) with
  | (none, service) => (none, service)
  | (some (.error f), service) => (some (.error f), service)
  | (some (.ok i), service) =>
    let (configs, service) := service.listConfigs
    let schedule := configs.map fun c => Due.mk (service.now + 1) c.name
    (some (.ok ()), work client i limit passLimit schedule service)

end Service

end PhasedInstall.Simulation
