import PhasedInstall.Install.Event
import PhasedInstall.Program.Basic

/-!
# What the installation asks of a cluster

The operator reaches the cluster through a few requests: reading and writing the watched resource,
reading and writing objects, and three questions about readiness. A request may be refused, so its
reply is a result or a fault. Two more requests are about time, and one reports an event.

`Work` is a program over these requests that may fail. Nothing here says how requests are
answered.
-/

set_option autoImplicit false

namespace PhasedInstall

/-- What becomes of the dependents of a deleted object. -/
inductive DeletePolicy where
  /-- They go first. -/
  | foreground
  /-- They go later. -/
  | background
  /-- They stay. -/
  | orphan
deriving DecidableEq, Repr

/-- How a request names the policy. -/
def DeletePolicy.name : DeletePolicy → String
  | foreground => "Foreground"
  | background => "Background"
  | orphan => "Orphan"

namespace Cluster

/-- A request to the cluster. -/
inductive Request where
  /-- The stored resource with a name. -/
  | readConfig (name : String)
  | createConfig (config : Config)
  /-- Replaces the status of a resource. -/
  | replaceStatus (config : Config)
  | addFinalizer (name : String)
  /-- Removes every finalizer. -/
  | removeFinalizer (name : String)
  /-- The object under the identity of a document. -/
  | find (d : Document)
  | create (d : Document)
  /-- Replaces the object under the identity of a document. -/
  | update (d : Document)
  | delete (d : Document) (policy : DeletePolicy)
  /-- Whether a deployment has fully rolled out. -/
  | deploymentReady (name ns : String)
  /-- Whether a webhook is registered. -/
  | webhookExists (name : String)
  /-- Whether the definition of a custom resource is installed. -/
  | definitionInstalled (name : String)
  /-- The time in milliseconds, known to be no earlier than a given one. -/
  | clock (since : Nat)
  /-- Lets time pass; the reply is the time afterwards. -/
  | sleep (since duration : Nat)
  /-- Reports an event. -/
  | report (event : Event)

namespace Request

/-- The reply to a request. Replies about time carry the proof that time does not run backwards
and that a sleep is not cut short. -/
abbrev Reply : Request → Type
  | readConfig _ => Except Fault (Option Config)
  | createConfig _ => Except Fault Config
  | replaceStatus _ => Except Fault Config
  | addFinalizer _ => Except Fault Config
  | removeFinalizer _ => Except Fault Unit
  | find _ => Except Fault (Option Document)
  | create _ => Except Fault Unit
  | update _ => Except Fault Unit
  | delete _ _ => Except Fault Unit
  | deploymentReady _ _ => Except Fault Bool
  | webhookExists _ => Except Fault Bool
  | definitionInstalled _ => Except Fault Bool
  | clock since => { now : Nat // since ≤ now }
  | sleep since duration => { now : Nat // since + duration ≤ now }
  | report _ => Unit

end Request

/-- The requests as an interface. -/
abbrev interface : Interface := ⟨Request, Request.Reply⟩

/-- Asks one request. -/
def ask (r : Request) : Program interface r.Reply := .ask r .done

end Cluster

/-- A program over a cluster that may fail. -/
abbrev Work := ExceptT Fault (Program Cluster.interface)

namespace Work

open Cluster

variable {α : Type}

/-- Gives up for good. -/
def crash : Work α := ExceptT.mk .crash

/-- What a piece of work comes to: its result or the fault it met. -/
def outcome (w : Work α) : Work (Except Fault α) := ExceptT.lift w.run

/-- A result that was computed without the cluster. -/
def ofExcept : Except Fault α → Work α
  | .ok a => pure a
  | .error f => throw f

/-- A result that was computed without the cluster, by a computation that may also give up. -/
def ofHalt : Except Halt α → Work α
  | .ok a => pure a
  | .error (.fault f) => throw f
  | .error .crash => crash

/-- Asks for the stored resource of a name, which may be absent. -/
def readConfig (name : String) : Work (Option Config) := ExceptT.mk (ask (.readConfig name))

/-- Creates a resource, and returns it as it is stored. -/
def createConfig (config : Config) : Work Config := ExceptT.mk (ask (.createConfig config))

/-- Replaces the status, and returns the resource as it is stored. -/
def replaceStatus (config : Config) : Work Config := ExceptT.mk (ask (.replaceStatus config))

/-- Puts the operator's finalizer on a resource, and returns it as it is stored. -/
def addFinalizer (name : String) : Work Config := ExceptT.mk (ask (.addFinalizer name))

/-- Takes all finalizers off a resource. -/
def removeFinalizer (name : String) : Work Unit := ExceptT.mk (ask (.removeFinalizer name))

/-- Looks for the object under the identity of a document, which may be absent. -/
def find (d : Document) : Work (Option Document) := ExceptT.mk (ask (.find d))

/-- Creates an object. -/
def create (d : Document) : Work Unit := ExceptT.mk (ask (.create d))

/-- Writes a document over the object of its identity. -/
def update (d : Document) : Work Unit := ExceptT.mk (ask (.update d))

/-- Deletes the object of an identity. It may stay for a while. -/
def delete (d : Document) (policy : DeletePolicy) : Work Unit :=
  ExceptT.mk (ask (.delete d policy))

/-- Asks whether a deployment has rolled out. -/
def deploymentReady (name ns : String) : Work Bool :=
  ExceptT.mk (ask (.deploymentReady name ns))

/-- Asks whether a webhook is registered. -/
def webhookExists (name : String) : Work Bool := ExceptT.mk (ask (.webhookExists name))

/-- Asks whether the definition of a custom resource is installed. -/
def definitionInstalled (name : String) : Work Bool :=
  ExceptT.mk (ask (.definitionInstalled name))

/-- Asks for the time. It does not fail. -/
def clock (since : Nat) : Work { now : Nat // since ≤ now } :=
  ExceptT.lift (ask (.clock since))

/-- Lets time pass. It does not fail. -/
def sleep (since duration : Nat) : Work { now : Nat // since + duration ≤ now } :=
  ExceptT.lift (ask (.sleep since duration))

/-- Reports an event. It does not fail. -/
def report (event : Event) : Work Unit := ExceptT.lift (ask (.report event))

end Work

end PhasedInstall
