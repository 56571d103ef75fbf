import PhasedInstall.Cluster.Access
import PhasedInstall.Json.Overlay
import PhasedInstall.Text.Duration

/-!
# Applying and removing manifests

Applying lays each document over its live object and writes only if that changes something, so a
second run over an unchanged cluster writes nothing. Removing goes backwards through the
documents. Objects that cannot be changed in place are removed, awaited until they are gone, and
created anew.

A namespace is only removed if it bears the mark that it was created here. The mark is set on
creation and survives later writes, because those keep what they do not mention.
-/

set_option autoImplicit false

namespace PhasedInstall

/-- Marks the namespaces that were created here. -/
def createdKey : String := "operator.tekton.dev/created"

/-- What applying a document has come to. -/
inductive ApplyOutcome where
  | created
  | updated
  | unchanged
deriving DecidableEq, Repr

/-- The name of an outcome. -/
def ApplyOutcome.name : ApplyOutcome → String
  | created => "Created"
  | updated => "Updated"
  | unchanged => "Unchanged"

namespace Document

/-- The form in which a document is created: namespaces get the mark of their creator. -/
def forCreation (d : Document) : Document :=
  if d.kind = "Namespace" then d.setAnnotation createdKey "true" else d

/-- Creates the object of a document, or lays the document over the live object. -/
def apply (d : Document) : Work ApplyOutcome := do
  match ← Work.find d with
  | none =>
    Work.create d.forCreation
    return .created
  | some live =>
    let merged := live.value.overlay d.value
    if live.value.agrees merged then return .unchanged
    Work.update (← Work.ofExcept (Document.ofJson merged))
    return .updated

/-- The live object of a document. An object that is reported missing is absent. -/
def live? (d : Document) : Work (Option Document) := do
  match ← (Work.find d).outcome with
  | .ok live => return live
  | .error f => if f.isNotFound then return none else throw f

/-- Removes the object of a document, if it is there. A namespace that was not created here is
left alone. -/
def remove (policy : DeletePolicy) (d : Document) : Work Unit := do
  match ← d.live? with
  | none => return ()
  | some live =>
    if d.kind = "Namespace" && !live.hasTrueAnnotation createdKey then return ()
    match ← (Work.delete d policy).outcome with
    | .ok () => return ()
    | .error f => if f.isNotFound then return () else throw f

/-- The first of some documents whose object is still there. -/
def firstLive? : List Document → Work (Option Document)
  | [] => return none
  | d :: rest => do
    match ← d.live? with
    | some _ => return some d
    | none => firstLive? rest

end Document

/-- How long to wait for something, and how often to look, in milliseconds. -/
structure Patience where
  interval : Nat
  timeout : Nat
deriving DecidableEq, Repr

namespace Patience

/-- The pause between two looks. Time moves on in every pause. -/
def pause (p : Patience) : Nat := max 1 p.interval

/-- For objects that are created anew: one look a second, for a minute. -/
def standard : Patience := ⟨1000, 60000⟩

end Patience

namespace Manifest

/-- Applies documents in order, up to the first that fails. -/
def applyAll : List Document → Work Unit
  | [] => return ()
  | d :: rest => do
    let _ ← d.apply
    applyAll rest

/-- Applies all documents in order, up to the first that fails. -/
def apply (m : Manifest) : Work Unit := applyAll m.documents

/-- Removes the objects of documents in order, up to the first that fails. -/
def removeAll (policy : DeletePolicy) : List Document → Work Unit
  | [] => return ()
  | d :: rest => do
    d.remove policy
    removeAll policy rest

/-- Removes what a manifest has installed, the last document first. -/
def remove (m : Manifest) (policy : DeletePolicy) : Work Unit :=
  removeAll policy m.documents.reverse

/-- Looks at documents again and again until none of their objects is left. At the deadline the
first one that is still there is reported. -/
def awaitAbsence (documents : List Document) (patience : Patience) (deadline now : Nat) :
    Work Unit := do
  match ← Document.firstLive? documents with
  | none => return ()
  | some d =>
    let ⟨seen, _⟩ ← Work.clock now
    if deadline ≤ seen then
      throw (.timeout (d.describe ++ " still exists after " ++ Text.duration patience.timeout))
    else
      let ⟨woken, _⟩ ← Work.sleep seen patience.pause
      awaitAbsence documents patience deadline woken
termination_by deadline - now
decreasing_by
  have : 1 ≤ patience.pause := Nat.le_max_left 1 _
  omega

/-- Waits until no object of the manifest is left. -/
def awaitRemoval (m : Manifest) (patience : Patience) : Work Unit := do
  let ⟨now, _⟩ ← Work.clock 0
  awaitAbsence m.documents patience (now + patience.timeout) now

/-- Removes every object, waits until all are gone, and applies the manifest. -/
def recreate (m : Manifest) (patience : Patience) : Work Unit := do
  m.remove .foreground
  m.awaitRemoval patience
  m.apply

/-- Applies a manifest. If the cluster refuses something as invalid, the objects are created
anew. -/
def applyOrRecreate (m : Manifest) (patience : Patience) : Work Unit := do
  match ← m.apply.outcome with
  | .ok () => return ()
  | .error f => if f.isInvalid then m.recreate patience else throw f

end Manifest

end PhasedInstall
