import PhasedInstall.Cluster.Rollout
import PhasedInstall.Http.Discovery
import PhasedInstall.Http.Object

/-!
# The cluster over messages

How each request to the cluster is carried out by exchanging messages. Objects of any kind are
first looked up in the lists of what the cluster serves; the watched resource and the objects that
are checked for readiness have known places.
-/

set_option autoImplicit false

namespace PhasedInstall.Http

/-- A client of a cluster. -/
structure Client where
  /-- Where objects that name no namespace go. -/
  defaultNamespace : String
  wording : Wording := {}

/-- Names the program that writes. -/
def managed (path : String) : String := path ++ "?&fieldManager=pipelines-operator"

namespace Client

/-! ## Objects of any kind -/

/-- The path of the objects beside a document. -/
def collectionOf (client : Client) (d : Document) : Link String := do
  let location ← Location.discover (← Link.ofExcept d.kindAddress)
  let ns := if location.namespaced then some (d.namespace?.getD client.defaultNamespace) else none
  return location.collection ns

/-- The object of a document. If the kind is not served, there is none. -/
def find (client : Client) (d : Document) : Link (Option Document) := do
  match ← (client.collectionOf d).outcome with
  | .error f => if f.isNotFound || f.isMissingKind then return none else throw f
  | .ok path =>
    match ← fetch? Object.ofJson? (path ++ "/" ++ d.name) with
    | none => return none
    | some live => return some (← Link.ofExcept (Document.ofJson live.toJson))

/-- Creates the object of a document among those of its kind. -/
def create (client : Client) (d : Document) : Link Unit := do
  let path ← client.collectionOf d
  let object ← Link.ofExcept (Object.ofDocument client.wording d)
  let _ ← fetch Object.ofJson? .post (managed path) (some object.toJson)

/-- Writes the object of a document over the one of its name. -/
def update (client : Client) (d : Document) : Link Unit := do
  let path ← client.collectionOf d
  let object ← Link.ofExcept (Object.ofDocument client.wording d)
  let _ ← fetch Object.ofJson? .put (managed (path ++ "/" ++ d.name)) (some object.toJson)

/-- Deletes the object of a document. The cluster may answer with a report or with the object on its
way out. -/
def delete (client : Client) (d : Document) (policy : DeletePolicy) : Link Unit := do
  let path ← client.collectionOf d
  let body : Json := .obj [("propagationPolicy", .str policy.name)]
  fetch (fun v => if isRemoval v then some () else none) .delete (path ++ "/" ++ d.name ++ "?")
    (some body)

/-! ## The watched resource -/

/-- The path of the watched resources. -/
def configs : String := "/apis/" ++ Config.apiVersion ++ "/" ++ Config.plural

/-- Creates a watched resource. -/
def createConfig (c : Config) : Link Config :=
  fetch Config.ofJson? .post (managed configs) (some c.toJson)

/-- Replaces the status of a watched resource, which has to have a name. -/
def replaceStatus (c : Config) : Link Config :=
  match c.metadata.name with
  | none => throw (.userInput "Config has no name")
  | some name =>
    fetch Config.ofJson? .put (managed (configs ++ "/" ++ name ++ "/status")) (some c.toJson)

/-- Overwrites the finalizers of a watched resource and nothing else. -/
def setFinalizers (name : String) (finalizers : Json) : Link Config :=
  fetch Config.ofJson? .patch (configs ++ "/" ++ name ++ "?")
    (some (.obj [("metadata", .obj [("finalizers", finalizers)])]))

/-! ## Readiness -/

/-- Whether a deployment has rolled out. One that is not there has not. -/
def deploymentReady (name ns : String) : Link Bool := do
  match ← fetch? Deployment.ofJson?
      ("/apis/apps/v1/namespaces/" ++ ns ++ "/deployments/" ++ name) with
  | none => return false
  | some d => Link.ofExcept d.ready

/-- Whether an object of a known form is stored at a target. -/
def isStored (apiVersion kind : String) (form : RecordName) (target : String) : Link Bool := do
  let read? (v : Json) : Option Unit :=
    if Shape.acceptsObject apiVersion kind form v then some () else none
  return (← fetch? read? target).isSome

/-- Whether a webhook of that name is registered. -/
def webhookExists (name : String) : Link Bool :=
  isStored "admissionregistration.k8s.io/v1" "MutatingWebhookConfiguration" .webhookConfiguration
    ("/apis/admissionregistration.k8s.io/v1/mutatingwebhookconfigurations/" ++ name)

/-- Whether a definition of that name is installed. -/
def definitionInstalled (name : String) : Link Bool :=
  isStored "apiextensions.k8s.io/v1" "CustomResourceDefinition" .definition
    ("/apis/apiextensions.k8s.io/v1/customresourcedefinitions/" ++ name)

/-! ## All requests -/

/-- Carries out a request. -/
def carryOut (client : Client) : (r : Cluster.Request) → Program interface r.Reply
  | .readConfig name => (fetch? Config.ofJson? (configs ++ "/" ++ name)).run
  | .createConfig c => (createConfig c).run
  | .replaceStatus c => (replaceStatus c).run
  | .addFinalizer name => (setFinalizers name (.arr [.str finalizerName])).run
  | .removeFinalizer name => (do let _ ← setFinalizers name .null : Link Unit).run
  | .find d => (client.find d).run
  | .create d => (client.create d).run
  | .update d => (client.update d).run
  | .delete d policy => (client.delete d policy).run
  | .deploymentReady name ns => (deploymentReady name ns).run
  | .webhookExists name => (webhookExists name).run
  | .definitionInstalled name => (definitionInstalled name).run
  | .clock since => ask (.clock since)
  | .sleep since duration => ask (.sleep since duration)
  | .report event => ask (.report event)

/-- Carries out a piece of work. -/
def perform {α : Type} (client : Client) (work : Work α) : Program interface (Except Fault α) :=
  Program.handle client.carryOut work.run

end Client

end PhasedInstall.Http
