import PhasedInstall.Manifest.Basic
import PhasedInstall.Text.Pieces

/-!
# Image overrides

Variables of the environment replace the images that manifests name. A variable consists of the
prefix of its subsystem and the name of a container, step, argument or parameter; names are
compared in lower case with dashes as underscores. Of several variables for one name the last
one counts.

Arguments are overridden in two forms: `flag=image` in one argument, and a flag followed by the
image as the next argument. A replaced argument is then looked at like any other.
-/

set_option autoImplicit false

namespace PhasedInstall

/-- Variables of the environment: names with values, in order. -/
abbrev Environment := List (String × String)

/-- Images by normalized name. -/
abbrev ImageOverrides := Table String

namespace ImageOverrides

/-- A text with underscores for dashes. -/
def underscored (s : String) : String :=
  String.ofList (s.toList.map fun c => if c = '-' then '_' else c)

/-- The key of a name in the name space of a mark: in lower case, with underscores for dashes. -/
def key (mark name : String) : String := underscored (mark ++ Text.lowercase name)

/-- What follows a leading text. -/
def remainder? : List Char → List Char → Option (List Char)
  | [], cs => some cs
  | x :: xs, c :: cs => if x = c then remainder? xs cs else none
  | _ :: _, [] => none

/-- The overrides among variables: those whose name begins with a leading text, by the rest of
their name. -/
def ofVariables (leader : String) (environment : Environment) : ImageOverrides :=
  environment.foldl (fun images (name, image) =>
    match remainder? leader.toList name.toList with
    | some rest => Table.put (key "" (String.ofList rest)) image images
    | none => images) []

/-- The mark of argument overrides. -/
def argumentMark : String := "arg_"

/-- The mark of parameter overrides. -/
def parameterMark : String := "param_"

/-- Replaces the images among arguments, from first to last. `due` is the image that the argument
before has asked for in this place. -/
def replaceArguments (images : ImageOverrides) : (due : Option String) → List Json → List Json
  | _, [] => []
  | due, written :: rest =>
    let argument : Json := match due with
      | some image => .str image
      | none => written
    match argument with
    | .str text =>
      match Text.pieces '=' text.toList with
      | [flag, _] =>
        let flag := String.ofList flag
        let argument : Json := match Table.get? (key argumentMark flag) images with
          | some image => .str (flag ++ "=" ++ image)
          | none => argument
        argument :: replaceArguments images none rest
      | _ => argument :: replaceArguments images (Table.get? (key argumentMark text) images) rest
    | _ => argument :: replaceArguments images none rest

/-- Writes a field of an object. Null counts as an object without fields; any other value has no
fields to write to. -/
def assignField (field : String) (value : Json) : Json → Except Halt Json
  | .obj members => .ok (.obj (Table.put field value members))
  | .null => .ok (.obj [(field, value)])
  | _ => .error .crash

/-- The name of a list item: the text of its field `name`. -/
def itemName? (item : Json) : Option String := (item.get? "name").bind Json.str?

/-- Replaces image and arguments of a container. A container without a name goes by the empty
one. -/
def replaceContainer (images : ImageOverrides) (container : Json) : Except Halt Json := do
  let container ← match Table.get? (key "" ((itemName? container).getD "")) images with
    | some image => assignField "image" (.str image) container
    | none => .ok container
  match container.get? "args" with
  | some (.arr arguments) =>
    assignField "args" (.arr (images.replaceArguments none arguments)) container
  | _ => .ok container

/-- Replaces a field of a named item. An item without a name stays as it is. -/
def replaceField (images : ImageOverrides) (mark field : String) (item : Json) :
    Except Halt Json :=
  match itemName? item with
  | some name =>
    match Table.get? (key mark name) images with
    | some image => assignField field (.str image) item
    | none => .ok item
  | none => .ok item

/-- Changes every item of the array at a path, if there is an array. -/
def mapArrayAt (d : Document) (path : Pointer) (f : Json → Except Halt Json) :
    Except Halt Document :=
  match d.value.at? path with
  | some (.arr items) => do
    let items ← items.mapM f
    return d.modifyAt path fun _ => .arr items
  | _ => .ok d

end ImageOverrides

namespace Transformer

open ImageOverrides

/-- Replaces the container images of deployments, and the images among their arguments. -/
def deploymentImages (images : ImageOverrides) : Transformer := fun d =>
  if d.kind = "Deployment" then
    some <$> mapArrayAt d ["spec", "template", "spec", "containers"] images.replaceContainer
  else .ok (some d)

/-- Replaces the step images and the image parameters of cluster tasks. -/
def taskImages (images : ImageOverrides) : Transformer := fun d =>
  if d.kind = "ClusterTask" then do
    let d ← mapArrayAt d ["spec", "steps"] (images.replaceField "" "image")
    some <$> mapArrayAt d ["spec", "params"] (images.replaceField parameterMark "default")
  else .ok (some d)

end Transformer

end PhasedInstall
