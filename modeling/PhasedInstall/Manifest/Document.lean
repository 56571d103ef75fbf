import PhasedInstall.Fault
import PhasedInstall.Json.Pointer
import PhasedInstall.Json.Writer
import PhasedInstall.Manifest.Owner

/-!
# Documents: the resources of a manifest

A document is one declarative resource. The fields that identify it have accessors; everything
else passes through untouched. A field that is missing, or is not a string, reads as empty.
-/

set_option autoImplicit false

namespace PhasedInstall

/-- The address of a kind: its group, version and name. -/
structure KindAddress where
  group : String
  version : String
  kind : String
deriving DecidableEq, Repr

namespace KindAddress

/-- How messages show the address. -/
def text (a : KindAddress) : String :=
  "GroupVersionKind \x7b group: " ++ Text.quoted a.group ++ ", version: " ++ Text.quoted a.version
    ++ ", kind: " ++ Text.quoted a.kind ++ " \x7d"

end KindAddress

/-- Kinds whose objects belong to no namespace, in lower case. -/
def clusterScopedKinds : List String :=
  ["componentstatus", "namespace", "node", "persistentvolume", "mutatingwebhookconfiguration",
    "validatingwebhookconfiguration", "customresourcedefinition", "apiservice", "meshpolicy",
    "tokenreview", "selfsubjectaccessreview", "selfsubjectrulesreview", "subjectaccessreview",
    "certificatesigningrequest", "podsecuritypolicy", "clusterrolebinding", "clusterrole",
    "priorityclass", "storageclass", "volumeattachment", "clustertask", "clustertriggerbinding",
    "clusterinterceptor"]

/-- Whether objects of a kind belong to no namespace. The kind's spelling in upper or lower case
does not matter. -/
def isClusterScopedKind (kind : String) : Bool := Text.lowercase kind ∈ clusterScopedKinds

/-- A declarative resource. -/
structure Document where
  value : Json
deriving Inhabited

namespace Document

/-- Wraps a parsed resource, which must be an object with a kind. -/
def ofJson (value : Json) : Except Fault Document :=
  match (value.get? "kind").bind Json.str? with
  | some kind => if kind.isEmpty then refuse else .ok ⟨value⟩
  | none => refuse
where
  refuse : Except Fault Document :=
    .error (.manifest ("resource has no kind: " ++ value.compact))

/-- The string at a path of keys, or the empty one. -/
def textAt (d : Document) (path : Pointer) : String :=
  ((d.value.at? path).bind Json.str?).getD ""

def apiVersion (d : Document) : String := d.textAt ["apiVersion"]

def kind (d : Document) : String := d.textAt ["kind"]

def name (d : Document) : String := d.textAt ["metadata", "name"]

/-- The namespace, if the document declares one that is not empty. -/
def namespace? (d : Document) : Option String :=
  ((d.value.at? ["metadata", "namespace"]).bind Json.str?).filter fun ns => !ns.isEmpty

/-- Writes a value at a path of keys. Whatever is in the way becomes an object. -/
def setPath (d : Document) (path : List String) (value : Json) : Document :=
  ⟨d.value.setPath path value⟩

def setKind (d : Document) (kind : String) : Document := d.setPath ["kind"] (.str kind)

def setName (d : Document) (name : String) : Document := d.setPath ["metadata", "name"] (.str name)

/-- Moves the document itself into a namespace, whatever its kind is. -/
def setNamespace (d : Document) (ns : String) : Document :=
  d.setPath ["metadata", "namespace"] (.str ns)

/-- Removes the namespace. A metadata field that is no object is left alone. -/
def clearNamespace (d : Document) : Document :=
  match d.value.get? "metadata" with
  | some (.obj metadata) => d.setPath ["metadata"] (.obj (Table.erase "namespace" metadata))
  | _ => d

/-- The text of a label, if the document has it. -/
def label? (d : Document) (key : String) : Option String :=
  ((d.value.at? ["metadata", "labels"]).bind (Json.get? key)).bind Json.str?

def setLabel (d : Document) (key value : String) : Document :=
  d.setPath ["metadata", "labels", key] (.str value)

/-- The text of an annotation, if the document has it. -/
def annotation? (d : Document) (key : String) : Option String :=
  ((d.value.at? ["metadata", "annotations"]).bind (Json.get? key)).bind Json.str?

def setAnnotation (d : Document) (key value : String) : Document :=
  d.setPath ["metadata", "annotations", key] (.str value)

/-- Whether an annotation says "true", in these letters. -/
def hasTrueAnnotation (d : Document) (key : String) : Bool := d.annotation? key == some "true"

/-- The owners that the document names. -/
def owners (d : Document) (w : Wording) : Except Fault (List Owner) :=
  match d.value.at? ["metadata", "ownerReferences"] with
  | none => .ok []
  | some .null => .ok []
  | some refs =>
    match Owner.listOfJson? refs with
    | some owners => .ok owners
    | none => .error (.json (w.json "list of owners" refs))

/-- Replaces all owners. -/
def setOwners (d : Document) (owners : List Owner) : Document :=
  d.setPath ["metadata", "ownerReferences"] (.arr (owners.map Owner.toJson))

/-- Applies a function to the value at a pointer, if there is one. -/
def modifyAt (d : Document) (path : Pointer) (f : Json → Json) : Document :=
  ⟨d.value.modifyAt f path⟩

/-- Whether the object of the document belongs to no namespace. -/
def isClusterScoped (d : Document) : Bool := isClusterScopedKind d.kind

/-- Cuts a text at its last slash. -/
def splitLastSlash? (s : String) : Option (String × String) :=
  let reversed := s.toList.reverse
  let tail := reversed.takeWhile (· ≠ '/')
  match reversed.drop tail.length with
  | [] => none
  | _ :: front => some (String.ofList front.reverse, String.ofList tail.reverse)

/-- The address of the document's kind. It needs a version. -/
def kindAddress (d : Document) : Except Fault KindAddress :=
  let (group, version) := (splitLastSlash? d.apiVersion).getD ("", d.apiVersion)
  if version.isEmpty then
    .error (.manifest (d.kind ++ " " ++ d.name ++ " has no apiVersion"))
  else .ok ⟨group, version, d.kind⟩

/-- The identity of a document as messages show it. -/
def describe (d : Document) : String :=
  match d.namespace? with
  | some ns => d.kind ++ " " ++ ns ++ "/" ++ d.name
  | none => d.kind ++ " " ++ d.name

/-- What is true of everything that is read as a document: it has a kind, and no object in it has a
key twice. -/
structure Declared (d : Document) : Prop where
  kind : d.kind ≠ ""
  distinct : d.value.keysDistinct = true

instance (d : Document) : Decidable d.Declared :=
  decidable_of_iff (d.kind ≠ "" ∧ d.value.keysDistinct = true)
    ⟨fun ⟨kind, distinct⟩ => ⟨kind, distinct⟩, fun ⟨kind, distinct⟩ => ⟨kind, distinct⟩⟩

end Document

/-- A document as it is read. -/
structure Declaration extends Document where
  declared : toDocument.Declared := by decide

end PhasedInstall
