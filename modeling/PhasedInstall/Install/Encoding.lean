import PhasedInstall.Install.Config

/-!
# The stored form of the watched resource

Records are written as objects with every field of the specification, the status and the
conditions present, absent ones as null. Reading is wider: it also takes a record as an array of
its fields in their order, and a status code as an object that maps the code to null.
-/

set_option autoImplicit false

namespace PhasedInstall

/-- A field of an object that has to be present. -/
def Members.required? {α : Type} (read? : Json → Option α) (key : String) (members : Members) :
    Option α :=
  (Table.get? key members).bind read?

/-- An optional value of an array. -/
def Json.nullable? {α : Type} (read? : Json → Option α) : Json → Option (Option α)
  | .null => some none
  | value => (read? value).map some

/-- An absent value is null. -/
def Json.ofOption {α : Type} (write : α → Json) : Option α → Json
  | some a => write a
  | none => .null

namespace StatusCode

/-- The name of a code in the stored form. It is declared with the form, apart from the names that
texts are read and compared by. -/
def tag : StatusCode → String
  | .empty => ""
  | .failed .applyPipeline => "error-applying-pipeline"
  | .passed .applyPipeline => "applied-pipeline"
  | .failed .validatePipeline => "error-validating-pipeline"
  | .passed .validatePipeline => "validated-pipeline"
  | .failed .applyTriggers => "error-applying-triggers"
  | .passed .applyTriggers => "applied-triggers"
  | .failed .validateTriggers => "error-validating-triggers"
  | .passed .validateTriggers => "validated-triggers"
  | .failed .applyAddons => "error-applying-addons"
  | .passed .applyAddons => "applied-addons"
  | .failed .applyCommunity => "error-applying-community-resources"
  | .passed .applyCommunity => "installed"
  | .invalidResource => "invalid-resource"

/-- The code that has a name in the stored form. -/
def ofTag? : String → Option StatusCode
  | "" => some .empty
  | "error-applying-pipeline" => some (.failed .applyPipeline)
  | "applied-pipeline" => some (.passed .applyPipeline)
  | "error-validating-pipeline" => some (.failed .validatePipeline)
  | "validated-pipeline" => some (.passed .validatePipeline)
  | "error-applying-triggers" => some (.failed .applyTriggers)
  | "applied-triggers" => some (.passed .applyTriggers)
  | "error-validating-triggers" => some (.failed .validateTriggers)
  | "validated-triggers" => some (.passed .validateTriggers)
  | "error-applying-addons" => some (.failed .applyAddons)
  | "applied-addons" => some (.passed .applyAddons)
  | "error-applying-community-resources" => some (.failed .applyCommunity)
  | "installed" => some (.passed .applyCommunity)
  | "invalid-resource" => some .invalidResource
  | _ => none

/-- Reads a code, which is a text or the one key of an object with nothing under it. -/
def ofJson? : Json → Option StatusCode
  | .str s => ofTag? s
  | .obj [(key, .null)] => ofTag? key
  | _ => none

/-- Writes a code as a text. -/
def toJson (c : StatusCode) : Json := .str c.tag

end StatusCode

namespace Condition

/-- Reads a condition. The releases and the details may be left out of an object, but not of an
array. -/
def ofJson? : Json → Option Condition
  | .obj m => do
    pure {
      code := ← Members.required? StatusCode.ofJson? "code" m
      details := ← Members.optional? Json.str? "details" m
      version := ← Members.required? Json.str? "version" m
      pipelineVersion := ← Members.optional? Json.str? "pipelineVersion" m
      triggersVersion := ← Members.optional? Json.str? "triggersVersion" m }
  | .arr [code, details, version, pipeline, triggers] => do
    pure {
      code := ← StatusCode.ofJson? code
      details := ← Json.nullable? Json.str? details
      version := ← version.str?
      pipelineVersion := ← Json.nullable? Json.str? pipeline
      triggersVersion := ← Json.nullable? Json.str? triggers }
  | _ => none

/-- Writes a condition with all of its fields. -/
def toJson (c : Condition) : Json :=
  .obj [
    ("code", c.code.toJson),
    ("details", .ofOption .str c.details),
    ("version", .str c.version),
    ("pipelineVersion", .ofOption .str c.pipelineVersion),
    ("triggersVersion", .ofOption .str c.triggersVersion)]

end Condition

namespace Status

/-- Reads a history. One condition that cannot be read spoils it. -/
def conditions? : Json → Option (List Condition) := Json.list? Condition.ofJson?

/-- Reads a status. The history may be left out, but it may not be null. -/
def ofJson? : Json → Option Status
  | .obj m => do
    let uuid ← Members.optional? Json.str? "operatorUUID" m
    let conditions ← match Table.get? "conditions" m with
      | none => some []
      | some v => conditions? v
    pure ⟨uuid, conditions⟩
  | .arr [uuid] => do pure ⟨← Json.nullable? Json.str? uuid, []⟩
  | .arr [uuid, conditions] => do
    pure ⟨← Json.nullable? Json.str? uuid, ← conditions? conditions⟩
  | _ => none

/-- Writes a status with all of its fields. -/
def toJson (s : Status) : Json :=
  .obj [
    ("operatorUUID", .ofOption .str s.operatorUuid),
    ("conditions", .arr (s.conditions.map Condition.toJson))]

end Status

namespace ConfigSpec

/-- Reads a specification. The exclusions may be left out of an object. -/
def ofJson? : Json → Option ConfigSpec
  | .obj m => do
    pure {
      targetNamespace := ← Members.required? Json.str? "targetNamespace" m
      namespaceExclusions := ← Members.optional? (Json.list? Json.str?) "namespaceExclusions" m }
  | .arr [ns, exclusions] => do
    pure ⟨← ns.str?, ← Json.nullable? (Json.list? Json.str?) exclusions⟩
  | _ => none

/-- Writes a specification with all of its fields. -/
def toJson (s : ConfigSpec) : Json :=
  .obj [
    ("targetNamespace", .str s.targetNamespace),
    ("namespaceExclusions", .ofOption Metadata.textsJson s.namespaceExclusions)]

end ConfigSpec

namespace Config

/-- The group of the resource. -/
def group : String := "operator.tekton.dev"

/-- The version of the resource within its group. -/
def version : String := "v1alpha1"

/-- The kind of the resource. -/
def kind : String := "Config"

/-- The plural under which the cluster serves the resource. -/
def plural : String := "config"

/-- The group and the version, as objects name them. -/
def apiVersion : String := group ++ "/" ++ version

/-- Reads the resource. Its version and its kind are not looked at, and the status may be absent. -/
def ofJson? : Json → Option Config
  | .obj m => do
    pure {
      metadata := ← Members.required? Metadata.ofJson? "metadata" m
      spec := ← Members.required? ConfigSpec.ofJson? "spec" m
      status := ← Members.optional? Status.ofJson? "status" m }
  | .arr [metadata, spec, status] => do
    pure ⟨← Metadata.ofJson? metadata, ← ConfigSpec.ofJson? spec,
      ← Json.nullable? Status.ofJson? status⟩
  | _ => none

/-- Writes the resource. A status that was never written is left out. -/
def toJson (c : Config) : Json :=
  Json.record [
    ("apiVersion", some (.str apiVersion)),
    ("kind", some (.str kind)),
    ("metadata", some c.metadata.toJson),
    ("spec", some c.spec.toJson),
    ("status", c.status.map Status.toJson)]

/-- The controller reference that makes this resource the owner of others. It needs a name and an
identity. -/
def owner? (c : Config) : Option Owner := do
  let name ← c.metadata.name
  let uid ← c.metadata.uid
  pure {
    apiVersion := apiVersion
    blockOwnerDeletion := none
    controller := some true
    kind := kind
    name := name
    uid := uid }

end Config

end PhasedInstall
