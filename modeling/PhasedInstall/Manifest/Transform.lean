import PhasedInstall.Manifest.Images
import PhasedInstall.Install.Encoding

/-!
# The changes that prepare a manifest

A manifest is written for nobody in particular. Before it is applied every document gets its
owner and its namespace, two configuration maps get the operator's settings, and some kinds,
labels and images are replaced. Annotations of a document may keep its namespace, or those of its
subjects, as declared.
-/

set_option autoImplicit false

namespace PhasedInstall

/-- Keeps the declared namespace of a document. -/
def preserveNamespaceKey : String := "operator.tekton.dev/preserve-namespace"

/-- Keeps the declared namespaces of a role binding's subjects. -/
def preserveSubjectsKey : String := "operator.tekton.dev/preserve-rb-subject-namespace"

namespace Document

/-- Overrides the namespace of every item of an array that declares one. -/
def setItemNamespaces (d : Document) (path : Pointer) (ns : String) : Document :=
  d.modifyAt path fun
    | .arr items => .arr (items.map fun
        | .obj members =>
          match Table.get? "namespace" members with
          | some _ => .obj (Table.put "namespace" (.str ns) members)
          | none => .obj members
        | item => item)
    | v => v

/-- Puts a namespace into an object, and into nothing else. -/
def putNamespace (ns : String) : Json → Json
  | .obj members => .obj (Table.put "namespace" (.str ns) members)
  | v => v

/-- Overrides the namespace of the service behind every webhook. -/
def setWebhookNamespaces (d : Document) (ns : String) : Document :=
  d.modifyAt ["webhooks"] fun
    | .arr webhooks =>
      .arr (webhooks.map (Json.modifyAt (putNamespace ns) ["clientConfig", "service"]))
    | v => v

/-- Overrides the namespace of the service that converts between versions. -/
def setConversionNamespace (d : Document) (ns : String) : Document :=
  d.modifyAt ["spec", "conversion", "webhook", "clientConfig", "service"] (putNamespace ns)

/-- Moves a document into a namespace: its own, and those it mentions where its kind is known to
mention any. A namespace takes the name itself. -/
def moveInto (d : Document) (ns : String) : Document :=
  let kind := Text.lowercase d.kind
  let moved :=
    if kind = "namespace" then d.setName ns
    else if kind = "clusterrolebinding" then d.setItemNamespaces ["subjects"] ns
    else if kind = "mutatingwebhookconfiguration" ∨ kind = "validatingwebhookconfiguration" then
      d.setWebhookNamespaces ns
    else if kind = "customresourcedefinition" then d.setConversionNamespace ns
    else d
  if moved.isClusterScoped then moved else moved.setNamespace ns

/-- Sets a data key of the configuration map with a name. -/
def setConfigMapKey (d : Document) (name key value : String) : Document :=
  if d.kind.toList.map Char.toLower = "configmap".toList ∧ d.name = name then
    d.setPath ["data", key] (.str value)
  else d

end Document

/-- What happens to a label that is already there. -/
inductive LabelPolicy where
  | retain
  | overwrite
deriving DecidableEq, Repr

namespace Transformer

/-- Makes one object the owner of every document that belongs to a namespace. -/
def injectOwner (owner : Owner) : Transformer :=
  keep fun d => if d.isClusterScoped then d else d.setOwners [owner]

/-- Moves every document into a namespace. -/
def injectNamespace (ns : String) : Transformer := keep fun d => d.moveInto ns

/-- Moves every document into a namespace that is not annotated to keep its own. -/
def injectNamespaceConditional (ns : String) : Transformer :=
  keep fun d => if d.hasTrueAnnotation preserveNamespaceKey then d else d.moveInto ns

/-- Moves role bindings and their subjects. Each of the two has an annotation of its own. -/
def injectRoleBindingNamespace (ns : String) : Transformer :=
  keep fun d =>
    if d.kind = "RoleBinding" then
      let d := if d.hasTrueAnnotation preserveNamespaceKey then d else d.setNamespace ns
      if d.hasTrueAnnotation preserveSubjectsKey then d else d.setItemNamespaces ["subjects"] ns
    else d

/-- Writes the default service account into the configuration. -/
def injectDefaultAccount (account : String) : Transformer :=
  keep fun d => d.setConfigMapKey "config-defaults" "default-service-account" account

/-- Writes the flag of the affinity assistant into the configuration. -/
def setAffinityAssistant (disabled : Bool) : Transformer :=
  keep fun d => d.setConfigMapKey "feature-flags" "disable-affinity-assistant"
    (if disabled then "true" else "false")

/-- Renames one kind to another. A document loses its namespace if its new kind belongs to none. -/
def replaceKind (old new : String) : Transformer :=
  keep fun d =>
    if d.kind = old then
      let d := d.setKind new
      if d.isClusterScoped then d.clearNamespace else d
    else d

/-- Sets a label on documents of the listed kinds, or on all if no kind is listed. -/
def injectLabel (key value : String) (policy : LabelPolicy) (kinds : List String) : Transformer :=
  keep fun d =>
    if !kinds.isEmpty && !kinds.contains d.kind then d
    else if policy == .retain && (d.label? key).isSome then d
    else d.setLabel key value

end Transformer

/-- The owner of a configuration's objects, as a reference. -/
def Config.ownerReference (c : Config) : Except Fault Owner :=
  match c.owner? with
  | some owner => .ok owner
  | none => .error (.userInput "Config has no uid to own resources with")

/-- The operator's settings that shape the documents. -/
structure DocumentSettings where
  defaultAccount : String
  disableAffinityAssistant : Bool

/-- Prepares a manifest for an owner. Role bindings get the owner and their own rule for
namespaces only, and move behind everything else; the other documents get the common changes and
then the extra ones. -/
def Manifest.prepare (m : Manifest) (owner : Config) (settings : DocumentSettings)
    (extras : List Transformer) : Except Halt Manifest := do
  let ns := owner.spec.targetNamespace
  let reference ← match owner.ownerReference with
    | .ok reference => .ok reference
    | .error f => .error (.fault f)
  let isRoleBinding (d : Document) : Bool := d.kind == "RoleBinding"
  let rest ← (m.filter fun d => !isRoleBinding d).transform
    ([.injectOwner reference, .injectNamespaceConditional ns,
      .injectDefaultAccount settings.defaultAccount,
      .setAffinityAssistant settings.disableAffinityAssistant] ++ extras)
  let roleBindings ← (m.filter isRoleBinding).transform
    [.injectOwner reference, .injectRoleBindingNamespace ns]
  return rest ++ roleBindings

end PhasedInstall
