import PhasedInstall.Install.Encoding

/-!
# The definition of the watched resource

A cluster serves a resource only after it was told its names, its versions and the schema of its
objects. The schema here describes what the stored form of a `Config` writes: a field that may be
absent is nullable, and the fields that have to be present are listed as required.
-/

set_option autoImplicit false

namespace PhasedInstall

/-- A schema: keywords that restrict a value. -/
abbrev Schema := Members

namespace Schema

/-- Any value of a type. -/
def ofType (type : String) : Schema := [("type", .str type)]

/-- Any text. -/
def text : Schema := ofType "string"

/-- One of the listed texts. -/
def choice (texts : List String) : Schema := ("enum", Metadata.textsJson texts) :: text

/-- A list whose items have a schema. -/
def list (items : Schema) : Schema := ("items", .obj items) :: ofType "array"

/-- An object with the given fields. The keyword for required fields is left out if none is. -/
def record (fields : Table Schema) (required : List String) : Schema :=
  let properties := fields.map fun (key, schema) => (key, Json.obj schema)
  let presence := if required.isEmpty then [] else [("required", Metadata.textsJson required)]
  ("properties", .obj properties) :: presence ++ ofType "object"

/-- A schema with an explanation for the reader, in front of its other keywords. -/
def describe (description : String) (s : Schema) : Schema := ("description", .str description) :: s

/-- A value that may be null instead. -/
def nullable (s : Schema) : Schema := ("nullable", .bool true) :: s

end Schema

/-- The schema of a code: any code that can be recorded. -/
def StatusCode.schema : Schema :=
  (Schema.choice (StatusCode.all.map StatusCode.tag)).describe "Outcome of the phase."

/-- The schema of a condition. Only its code and its version have to be given. -/
def Condition.schema : Schema :=
  (Schema.record [
    ("code", StatusCode.schema),
    ("details", Schema.text.nullable.describe
      "Additional details about the code. Only set for error codes."),
    ("pipelineVersion", Schema.text.nullable.describe
      ("Release of the pipelines engine, as discovered from the controller deployment once it " ++
        "has been validated.")),
    ("triggersVersion", Schema.text.nullable.describe
      ("Release of the triggers add-on, as discovered from the controller deployment once it " ++
        "has been validated.")),
    ("version", Schema.text.describe "The target version this condition applies to.")]
    ["code", "version"]).describe "One observed outcome of an installation phase."

/-- The schema of a status. A history that is left out is empty. -/
def Status.schema : Schema :=
  let history := ("default", Json.arr []) :: (Schema.list Condition.schema).describe
    ("Installation history sorted in reverse chronological order. The first entry is the " ++
      "current state of the installation.")
  (Schema.record [
    ("conditions", history),
    ("operatorUUID", Schema.text.nullable.describe
      ("Identifier of the operator installation that produced this status. A status written by " ++
        "an operator with a different identifier is considered stale and forces the " ++
        "installation to run again."))] []).nullable.describe
    "Status object for the [`Config`] resource."

/-- The schema of a specification. -/
def ConfigSpec.schema : Schema :=
  (Schema.record [
    ("namespaceExclusions", (Schema.list Schema.text).nullable.describe
      ("Optional list of regular expressions. Namespaces matching any of them are skipped when " ++
        "provisioning the default service account.")),
    ("targetNamespace", Schema.text.describe
      "Namespace where the pipelines components will be installed.")]
    ["targetNamespace"]).describe
    ("[`ConfigSpec`] is the configuration for the [`Config`] resource, the " ++
      "single cluster-scoped object that requests installation of the pipelines engine, the " ++
      "triggers add-on and the task catalogs. Only the object whose name matches the operator's " ++
      "watched resource name (`cluster` by default) is honored.")

namespace Config

/-- The schema of the resource. -/
def schema : Schema :=
  ("title", Json.str kind) ::
    (Schema.record [("spec", ConfigSpec.schema), ("status", Status.schema)] ["spec"]).describe
      "Auto-generated derived type for ConfigSpec via `CustomResource`"

/-- The columns in which listings show the resource: title and place of each. -/
def columns : List (String × String) :=
  [("NAMESPACE", ".spec.targetNamespace"),
    ("STATUS", ".status.conditions[0].code"),
    ("VERSION", ".status.conditions[0].version")]

/-- The definition that makes a cluster serve the resource. -/
def definition : Json :=
  let column := fun ((title, path) : String × String) => Json.obj
    [("jsonPath", .str path), ("name", .str title), ("type", .str "string")]
  let served := Json.obj [
    ("additionalPrinterColumns", .arr (columns.map column)),
    ("name", .str version),
    ("schema", .obj [("openAPIV3Schema", .obj schema)]),
    ("served", .bool true),
    ("storage", .bool true),
    ("subresources", .obj [("status", .obj [])])]
  let names := Json.obj [
    ("categories", .arr []),
    ("kind", .str kind),
    ("plural", .str plural),
    ("shortNames", .arr []),
    ("singular", .str kind.toLower)]
  .obj [
    ("apiVersion", .str "apiextensions.k8s.io/v1"),
    ("kind", .str "CustomResourceDefinition"),
    ("metadata", .obj [("name", .str (plural ++ "." ++ group))]),
    ("spec", .obj [
      ("group", .str group),
      ("names", names),
      ("scope", .str "Cluster"),
      ("versions", .arr [served])])]

end Config

end PhasedInstall
