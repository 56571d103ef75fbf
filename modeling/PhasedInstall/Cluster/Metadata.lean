import PhasedInstall.Cluster.Timestamp
import PhasedInstall.Manifest.Owner

/-!
# Object metadata

The metadata that every object of the cluster carries. Reading ignores fields that are not listed
here and refuses fields of the wrong type; writing leaves out what is not given and lists labels
and annotations by key.
-/

set_option autoImplicit false

namespace PhasedInstall

/-- Who wrote which fields of an object. -/
structure ManagedFields where
  apiVersion : Option String
  fieldsType : Option String
  fieldsV1 : Option Json
  manager : Option String
  operation : Option String
  subresource : Option String
  time : Option Timestamp

namespace ManagedFields

/-- Reads one record of who manages which fields. Every field of it may be absent. -/
def ofJson? : Json → Option ManagedFields
  | .obj m => do
    let text (key : String) := Members.optional? Json.str? key m
    pure {
      apiVersion := ← text "apiVersion"
      fieldsType := ← text "fieldsType"
      fieldsV1 := ← Members.optional? some "fieldsV1" m
      manager := ← text "manager"
      operation := ← text "operation"
      subresource := ← text "subresource"
      time := ← Members.optional? (fun v => v.str?.bind Timestamp.parse?) "time" m }
  | _ => none

/-- Writes the fields that are present. -/
def toJson (f : ManagedFields) : Json :=
  Json.record [
    ("apiVersion", f.apiVersion.map .str),
    ("fieldsType", f.fieldsType.map .str),
    ("fieldsV1", f.fieldsV1),
    ("manager", f.manager.map .str),
    ("operation", f.operation.map .str),
    ("subresource", f.subresource.map .str),
    ("time", f.time.map fun t => .str t.text)]

end ManagedFields

/-- The metadata of an object. -/
structure Metadata where
  annotations : Option (List (String × String)) := none
  clusterName : Option String := none
  creationTimestamp : Option Timestamp := none
  deletionGracePeriodSeconds : Option Int := none
  deletionTimestamp : Option Timestamp := none
  finalizers : Option (List String) := none
  generateName : Option String := none
  generation : Option Int := none
  labels : Option (List (String × String)) := none
  managedFields : Option (List ManagedFields) := none
  name : Option String := none
  ns : Option String := none
  ownerReferences : Option (List Owner) := none
  resourceVersion : Option String := none
  selfLink : Option String := none
  uid : Option String := none

namespace Metadata

/-- A map from text to text, by key. -/
def textMap? (v : Json) : Option (List (String × String)) :=
  (Json.dictionary? Json.str? v).map fun entries => entries.mergeSort fun a b => a.1 ≤ b.1

/-- Reads a point in time, which is written as a text. -/
def timestamp? (v : Json) : Option Timestamp := v.str?.bind Timestamp.parse?

/-- Reads metadata. A field may be absent, but one that is present has to have its type. -/
def ofJson? : Json → Option Metadata
  | .obj m => do
    let text (key : String) := Members.optional? Json.str? key m
    pure {
      annotations := ← Members.optional? textMap? "annotations" m
      clusterName := ← text "clusterName"
      creationTimestamp := ← Members.optional? timestamp? "creationTimestamp" m
      deletionGracePeriodSeconds :=
        ← Members.optional? Json.int64? "deletionGracePeriodSeconds" m
      deletionTimestamp := ← Members.optional? timestamp? "deletionTimestamp" m
      finalizers := ← Members.optional? (Json.list? Json.str?) "finalizers" m
      generateName := ← text "generateName"
      generation := ← Members.optional? Json.int64? "generation" m
      labels := ← Members.optional? textMap? "labels" m
      managedFields := ← Members.optional? (Json.list? ManagedFields.ofJson?) "managedFields" m
      name := ← text "name"
      ns := ← text "namespace"
      ownerReferences := ← Members.optional? Owner.listOfJson? "ownerReferences" m
      resourceVersion := ← text "resourceVersion"
      selfLink := ← text "selfLink"
      uid := ← text "uid" }
  | _ => none

/-- Writes a map from text to text. -/
def textMapJson (entries : List (String × String)) : Json :=
  .obj (entries.map fun (key, value) => (key, .str value))

/-- Writes a list of texts. -/
def textsJson (texts : List String) : Json := .arr (texts.map .str)

/-- Writes the fields that are present, by key. -/
def toJson (m : Metadata) : Json :=
  Json.record [
    ("annotations", m.annotations.map textMapJson),
    ("clusterName", m.clusterName.map .str),
    ("creationTimestamp", m.creationTimestamp.map fun t => .str t.text),
    ("deletionGracePeriodSeconds", m.deletionGracePeriodSeconds.map .int),
    ("deletionTimestamp", m.deletionTimestamp.map fun t => .str t.text),
    ("finalizers", m.finalizers.map textsJson),
    ("generateName", m.generateName.map .str),
    ("generation", m.generation.map .int),
    ("labels", m.labels.map textMapJson),
    ("managedFields", m.managedFields.map fun fs => .arr (fs.map ManagedFields.toJson)),
    ("name", m.name.map .str),
    ("namespace", m.ns.map .str),
    ("ownerReferences", m.ownerReferences.map fun os => .arr (os.map Owner.toJson)),
    ("resourceVersion", m.resourceVersion.map .str),
    ("selfLink", m.selfLink.map .str),
    ("uid", m.uid.map .str)]

end Metadata

end PhasedInstall
