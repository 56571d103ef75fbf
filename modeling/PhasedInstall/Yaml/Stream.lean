import PhasedInstall.Yaml.Node
import PhasedInstall.Yaml.Scalar

/-!
# YAML streams as JSON values

Every document becomes a JSON value. Mapping keys are scalars and keep their text; a key that
occurs twice keeps its first place and its last value. References are replaced by the value of
the node they mean. Collections may be nested 128 deep, references counted where they stand, and
the number of references followed is limited by the size of the document, so that a small text
cannot grow without bound.
-/

set_option autoImplicit false

namespace PhasedInstall.Yaml

namespace Node

/-- A reader that counts the references it follows. -/
abbrev Follow := StateT Nat Option

def stuck {α : Type} : Follow α := StateT.lift none

/-- Follows one more reference, if the budget allows. -/
def spend : Follow Unit := do
  match ← get with
  | 0 => stuck
  | n + 1 => set n

/-- The node that a node stands for. -/
def resolve (anchored : List (Nat × Node)) : Node → Follow Node
  | .reference number => do
    spend
    match anchored.lookup number with
    | some node => pure node
    | none => stuck
  | node => pure node

/-- Whether a tag gives a collection a type of the document's own. -/
def isForeign (tag : Option String) : Bool :=
  match tag with
  | some t => t.startsWith "!"
  | none => false

/-- The text of a mapping key. -/
def keyText (anchored : List (Nat × Node)) (node : Node) : Follow String := do
  match ← resolve anchored node with
  | .scalar _ text _ => pure text
  | _ => stuck

/-- The value of a node, with a number of levels still allowed below it. -/
def value (anchored : List (Nat × Node)) : (levels : Nat) → Node → Follow Json
  | levels, node => do
    match ← resolve anchored node with
    | .scalar tag text plain => StateT.lift (Scalar.value? tag text plain)
    | .reference _ => stuck
    | .sequence tag items =>
      match levels with
      | 0 => stuck
      | levels + 1 =>
        if isForeign tag then stuck
        else .arr <$> items.mapM fun item => value anchored levels item
    | .mapping tag entries =>
      match levels with
      | 0 => stuck
      | levels + 1 =>
        if isForeign tag then stuck
        else do
          let members ← entries.foldlM (fun (members : Members) (key, node) => do
            let name ← keyText anchored key
            let v ← value anchored levels node
            pure (Table.put name v members)) []
          pure (.obj members)

end Node

/-- The deepest nesting of collections. -/
def levelLimit : Nat := 128

/-- The value of a document. -/
def Document.value? (d : Document) : Option Json :=
  ((d.root.value d.anchored levelLimit).run (d.root.events * 100)).map Prod.fst

/-- The values of a stream, in order, up to the first document that has none. The flag tells
whether the whole stream could be read. -/
def values (text : String) : List Json × Bool :=
  let stream := tokens text
  let rec collect : List Reading → List Json × Bool
    | [] => ([], true)
    | .broken :: _ => ([], false)
    | .document d :: rest =>
      match d.value? with
      | some v => let (vs, whole) := collect rest; (v :: vs, whole)
      | none => ([], false)
  collect (documents (stream.length + 1) true stream)

end PhasedInstall.Yaml
