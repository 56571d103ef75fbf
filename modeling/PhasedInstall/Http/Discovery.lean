import PhasedInstall.Cluster.Shape
import PhasedInstall.Http.Exchange

/-!
# Where the objects of a kind are

The cluster lists, for each version of a group, the resources that it serves. From the entry of a
kind follows where its objects are addressed, and whether they belong to namespaces.
-/

set_option autoImplicit false

namespace PhasedInstall.Http

/-- A resource that the cluster serves. -/
structure Resource where
  name : String
  kind : String
  namespaced : Bool
  group : Option String

/-- The resources of one version of a group. -/
structure ResourceList where
  groupVersion : String
  resources : List Resource

namespace Resource

/-- Reads an entry whose type has been checked. -/
def ofJson (v : Json) : Resource :=
  let text? (key : String) : Option String := (v.get? key).bind Json.str?
  { name := (text? "name").getD ""
    kind := (text? "kind").getD ""
    namespaced := ((v.get? "namespaced").bind Json.bool?).getD false
    group := text? "group" }

/-- Whether the entry is a part of another resource's objects. -/
def isPart (r : Resource) : Bool := r.name.toList.contains '/'

end Resource

namespace ResourceList

/-- Reads a list. Every field must have the type that the cluster publishes for it. -/
def ofJson? (v : Json) : Option ResourceList :=
  if Shape.acceptsObject "v1" "APIResourceList" .resourceList v then
    some {
      groupVersion := ((v.get? "groupVersion").bind Json.str?).getD ""
      resources := (((v.get? "resources").bind Json.items?).getD []).map Resource.ofJson }
  else none

/-- The group and the version of the list. The core group has no name. -/
def address (l : ResourceList) : String × String :=
  let cs := l.groupVersion.toList
  let group := cs.takeWhile (· ≠ '/')
  match cs.drop group.length with
  | [] => ("", l.groupVersion)
  | _ :: version => (String.ofList group, String.ofList version)

end ResourceList

/-- Where the objects of a kind are addressed. -/
structure Location where
  /-- The path of the group's version. -/
  root : String
  /-- The name of the kind in paths. -/
  plural : String
  namespaced : Bool

namespace Location

/-- The location of a resource in a list. Whether it belongs to namespaces is what the first entry
of its name says. -/
def ofResource (l : ResourceList) (r : Resource) : Location :=
  let (group, version) := l.address
  let part := if (r.group.getD group).isEmpty then "/api/" else "/apis/"
  let groupVersion := if group.isEmpty then version else group ++ "/" ++ version
  let first := (l.resources.find? fun other => other.name == r.name).getD r
  ⟨part ++ groupVersion, r.name, first.namespaced⟩

/-- The location of a kind among the resources of a list. -/
def find? (l : ResourceList) (kind : String) : Option Location :=
  (l.resources.find? fun r => r.kind == kind && !r.isPart).map (ofResource l)

/-- The path of all objects, or of those in a namespace. -/
def collection (l : Location) (ns : Option String) : String :=
  match ns with
  | some ns => l.root ++ "/namespaces/" ++ ns ++ "/" ++ l.plural
  | none => l.root ++ "/" ++ l.plural

/-- The path of the list in which a kind is looked up. -/
def listPath (a : KindAddress) : String :=
  if a.group.isEmpty then "/api/" ++ a.version else "/apis/" ++ a.group ++ "/" ++ a.version

/-- Looks a kind up. The list is no object, and its request is made in another way, so that a path
which is no target is reported in other words. -/
def discover (a : KindAddress) : Link Location :=
  if (Target.ofText? (listPath a)).isNone then
    throw (.unaddressable ("HttpError: " ++ Target.complaint))
  else do
    let l ← fetch ResourceList.ofJson? .get (listPath a) none
    match find? l a.kind with
    | some location => return location
    | none => throw (.missingKind a.text)

end Location

end PhasedInstall.Http
