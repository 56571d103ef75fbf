import PhasedInstall.Cluster.Access
import PhasedInstall.Cluster.Rollout

/-!
# A cluster in memory

A world answers the requests of the operator from tables: the watched resources by name, and the
objects by the identity that messages show. It stores what it is given and removes what it is told
to remove, its clock moves only when the program sleeps, and it keeps a record of all requests.

Two things can be arranged to go wrong. A scripted fault answers a request in place of the world,
once or several times or always. A hold keeps objects of a kind in place after their deletion
until they were looked up a number of times, or forever.
-/

set_option autoImplicit false

namespace PhasedInstall.Simulation

/-- A fault to answer with. -/
structure ScriptedFault where
  /-- The kind of request. -/
  on : String
  /-- How the key of the request has to begin. -/
  keyLeader : String
  /-- How often the fault is still answered; without a number, always. -/
  uses : Option Nat
  fault : Fault

/-- Keeps objects of a kind after their deletion. -/
structure Hold where
  kind : String
  /-- How many look-ups the object survives; without a number, all of them. -/
  lookups : Option Nat

/-- What the questions about readiness are answered by. -/
inductive Readiness where
  /-- What is present is ready. -/
  | ready
  /-- Nothing is ready. -/
  | unready
  /-- What the stored objects report. -/
  | live
deriving DecidableEq

/-- A request in the record. -/
structure Call where
  on : String
  key : String
deriving DecidableEq

def Call.text (c : Call) : String := c.on ++ " " ++ c.key

/-- The state of a cluster. -/
structure World where
  configs : Table Config := []
  /-- Objects by the identity that messages show. -/
  objects : Table Document := []
  readiness : Readiness := .ready
  /-- The installed definitions of custom resources. -/
  definitions : List String := []
  faults : List ScriptedFault := []
  holds : List Hold := []
  /-- Objects that were deleted but are held, with the look-ups that they still survive. -/
  leaving : Table (Option Nat) := []
  calls : List Call := []
  events : List Event := []
  now : Nat := 0
  /-- How many resources were stored so far. -/
  stored : Nat := 0
  wording : Wording := {}

namespace World

/-! ## Faults -/

/-- Whether a fault answers a request. -/
def answers (f : ScriptedFault) (call : Call) : Bool :=
  f.uses != some 0 && f.on == call.on && f.keyLeader.toList.isPrefixOf call.key.toList

/-- The first fault that answers a request, and the faults after this use of it. -/
def takeFault (call : Call) : List ScriptedFault → Option Fault × List ScriptedFault
  | [] => (none, [])
  | f :: rest =>
    if answers f call then (some f.fault, { f with uses := f.uses.map (· - 1) } :: rest)
    else
      let (taken, rest) := takeFault call rest
      (taken, f :: rest)

/-- Records a request and answers it: by a scripted fault, or else by the world. -/
def serve {α : Type} (w : World) (on key : String)
    (answer : World → Except Fault α × World) : Except Fault α × World :=
  let call : Call := ⟨on, key⟩
  let (taken, faults) := takeFault call w.faults
  let w := { w with calls := w.calls ++ [call], faults := faults }
  match taken with
  | some f => (.error f, w)
  | none => answer w

/-! ## Watched resources -/

/-- Stores a resource. One without an identity may be given the next one. -/
def store (w : World) (c : Config) (assignUid : Bool) : Config × World :=
  let count := w.stored + 1
  let uid := c.metadata.uid.orElse fun _ =>
    if assignUid then some ("uid-" ++ toString count) else none
  let c := { c with metadata := { c.metadata with uid := uid } }
  (c, { w with stored := count, configs := Table.put c.name c w.configs })

/-- Changes a stored resource. -/
def change (w : World) (name : String) (f : Config → Config) : Except Fault Config × World :=
  match Table.get? name w.configs with
  | none => (.error (.refused .notFound), w)
  | some c => (.ok (f c), { w with configs := Table.put name (f c) w.configs })

/-- Replaces the finalizers of a resource. -/
def withFinalizers (finalizers : Option (List String)) (c : Config) : Config :=
  { c with metadata := { c.metadata with finalizers := finalizers } }

/-- Removes the finalizers of a resource. If its deletion was asked for, it disappears. -/
def release (w : World) (name : String) : Except Fault Unit × World :=
  match Table.get? name w.configs with
  | none => (.error (.refused .notFound), w)
  | some c =>
    if c.isBeingDeleted then (.ok (), { w with configs := Table.erase name w.configs })
    else (.ok (), { w with configs := Table.put name (withFinalizers none c) w.configs })

/-! ## Objects -/

/-- Looks an object up. A held object is one look-up closer to its end. -/
def lookUp (w : World) (key : String) : Option Document × World :=
  match Table.get? key w.leaving with
  | some (some 0) =>
    (none, { w with
      leaving := Table.erase key w.leaving, objects := Table.erase key w.objects })
  | some (some (n + 1)) =>
    (Table.get? key w.objects, { w with leaving := Table.put key (some n) w.leaving })
  | _ => (Table.get? key w.objects, w)

def insert (w : World) (d : Document) : World :=
  { w with objects := Table.put d.describe d w.objects }

/-- Deletes an object, which stays for a while if its kind is held. -/
def discard (w : World) (d : Document) : Except Fault Unit × World :=
  let key := d.describe
  match Table.get? key w.objects with
  | none => (.error (.refused .notFound), w)
  | some _ =>
    match w.holds.find? fun h => h.kind == d.kind with
    | some hold => (.ok (), { w with leaving := Table.put key hold.lookups w.leaving })
    | none => (.ok (), { w with objects := Table.erase key w.objects })

/-! ## Readiness -/

def deploymentReady (w : World) (key : String) : Except Fault Bool :=
  match w.readiness, Table.get? key w.objects with
  | .live, some d =>
    match Deployment.ofJson? d.value with
    | some deployment => deployment.ready
    | none => .error (.json (w.wording.json "Deployment" d.value))
  | .live, none => .ok false
  | .ready, found => .ok found.isSome
  | .unready, _ => .ok false

def webhookExists (w : World) (name : String) : Bool :=
  match w.readiness with
  | .live => (Table.get? ("MutatingWebhookConfiguration " ++ name) w.objects).isSome
  | .ready => true
  | .unready => false

/-! ## Answers -/

/-- Answers a request. -/
def answer : (r : Cluster.Request) → World → r.Reply × World
  | .readConfig name, w =>
    w.serve "config_get" name fun w => (.ok (Table.get? name w.configs), w)
  | .createConfig c, w =>
    w.serve "config_create" c.name fun w =>
      match Table.get? c.name w.configs with
      | some _ => (.error (.refused .alreadyExists), w)
      | none =>
        let (c, w) := w.store c true
        (.ok c, w)
  | .replaceStatus c, w =>
    w.serve "replace_status" (c.name ++ " " ++ c.installStatus.wire) fun w =>
      w.change c.name fun stored => { stored with status := c.status }
  | .addFinalizer name, w =>
    w.serve "add_finalizer" name fun w => w.change name (withFinalizers (some [finalizerName]))
  | .removeFinalizer name, w => w.serve "remove_finalizer" name fun w => w.release name
  | .find d, w =>
    w.serve "get" d.describe fun w =>
      let (found, w) := w.lookUp d.describe
      (.ok found, w)
  | .create d, w =>
    w.serve "create" d.describe fun w =>
      match Table.get? d.describe w.objects with
      | some _ => (.error (.refused .alreadyExists), w)
      | none => (.ok (), w.insert d)
  | .update d, w =>
    w.serve "update" d.describe fun w =>
      match Table.get? d.describe w.objects with
      | some _ => (.ok (), w.insert d)
      | none => (.error (.refused .notFound), w)
  | .delete d policy, w =>
    w.serve "delete" (d.describe ++ " " ++ policy.name) fun w => w.discard d
  | .deploymentReady name ns, w =>
    let key := "Deployment " ++ ns ++ "/" ++ name
    w.serve "deployment_ready" key fun w => (w.deploymentReady key, w)
  | .webhookExists name, w =>
    w.serve "webhook_exists" name fun w => (.ok (w.webhookExists name), w)
  | .definitionInstalled name, w =>
    w.serve "crd_installed" name fun w => (.ok (w.definitions.contains name), w)
  | .clock since, w =>
    (⟨max since w.now, Nat.le_max_left ..⟩, { w with now := max since w.now })
  | .sleep since duration, w =>
    let woken := max since w.now + duration
    (⟨woken, Nat.add_le_add_right (Nat.le_max_left ..) _⟩, { w with now := woken })
  | .report event, w => ((), { w with events := w.events ++ [event] })

/-- Runs a piece of work in a world. There is no result if the work gave up for good. -/
def run {α : Type} (w : World) (work : Work α) : Option (Except Fault α) × World :=
  Program.run answer work.run w

end World

end PhasedInstall.Simulation
