import PhasedInstall.Cluster.Metadata
import PhasedInstall.Manifest.Document

/-!
# Objects on the wire

An object of any kind has two fields that name its type, metadata of a published form, and
whatever else its kind has. Reading and writing brings the fields into that order and normalizes
the metadata. The two type fields are read together: unless both are texts, neither is kept.
-/

set_option autoImplicit false

namespace PhasedInstall.Http

/-- An object of any kind. -/
structure Object where
  /-- The version of the kind and the kind. -/
  type : Option (String × String)
  metadata : Metadata
  rest : Members

namespace Object

/-- The type fields found so far. -/
structure TypeFields where
  apiVersion : Option String := none
  kind : Option String := none

/-- The type, once both of its fields are found. -/
def TypeFields.both (t : TypeFields) : Option (String × String) := do
  pure (← t.apiVersion, ← t.kind)

/-- Takes the type fields out of members. Looking for them ends at the first that is no text. -/
def takeType (found : TypeFields) : Members → Option (String × String) × Members
  | [] => (found.both, [])
  | (key, value) :: rest =>
    if key = "apiVersion" then
      match value with
      | .str s => takeType { found with apiVersion := some s } rest
      | _ => (none, rest)
    else if key = "kind" then
      match value with
      | .str s => takeType { found with kind := some s } rest
      | _ => (none, rest)
    else
      let (type, rest) := takeType found rest
      (type, (key, value) :: rest)

/-- Takes an object apart. Its type and its metadata may be absent. -/
def ofJson? : Json → Option Object
  | .obj members => do
    let metadata ← match Table.get? "metadata" members with
      | some v => Metadata.ofJson? v
      | none => some {}
    let (type, rest) := takeType {} (Table.erase "metadata" members)
    pure ⟨type, metadata, rest⟩
  | _ => none

/-- Puts an object together: its type, its metadata and then the rest. -/
def toJson (o : Object) : Json :=
  let type := match o.type with
    | some (apiVersion, kind) => [("apiVersion", Json.str apiVersion), ("kind", Json.str kind)]
    | none => []
  .obj (type ++ [("metadata", o.metadata.toJson)] ++ o.rest)

/-- The object that a document describes. -/
def ofDocument (w : Wording) (d : Document) : Except Fault Object :=
  match ofJson? d.value with
  | some o => .ok o
  | none => .error (.json (w.json "object" d.value))

end Object

/-- Whether a field, if it is there, passes a test. -/
def passes (ok : Json → Bool) (v : Json) (key : String) : Bool :=
  match v.get? key with
  | none => true
  | some found => ok found

/-- Whether some fields, as far as they are there, are texts. -/
def hasTexts (v : Json) (keys : List String) : Bool :=
  keys.all (passes (fun found => found.str?.isSome) v)

/-- The details of a report. -/
def isReportDetails (v : Json) : Bool :=
  v.isObject && hasTexts v ["name", "group", "kind", "uid"]
    && passes (fun n => (Json.intWithin? 0 0xFFFFFFFF n).isSome) v "retryAfterSeconds"
    && passes (fun causes => match causes with
      | .arr items => items.all fun c => c.isObject && hasTexts c ["reason", "message", "field"]
      | _ => false) v "causes"

/-- A report on a request. -/
def isReport (v : Json) : Bool :=
  v.isObject && hasTexts v ["message", "reason"]
    && passes (fun s => s.isNull || s == .str "Success" || s == .str "Failure") v "status"
    && passes (fun c => (Json.intWithin? 0 65535 c).isSome) v "code"
    && passes (fun d => d.isNull || isReportDetails d) v "details"

/-- The answer to a removal is a report, or the object on its way out. -/
def isRemoval (v : Json) : Bool :=
  if v.get? "kind" == some (.str "Status") then isReport v else (Object.ofJson? v).isSome

end PhasedInstall.Http
