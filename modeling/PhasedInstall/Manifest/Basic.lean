import PhasedInstall.Manifest.Document
import PhasedInstall.Yaml.Stream

/-!
# Manifests

A manifest is an ordered collection of documents that are installed as a group. Transforming one
runs a chain of transformers over each document: a transformer may change the document, drop it,
or stop the whole transformation.
-/

set_option autoImplicit false

namespace PhasedInstall

/-- Why a transformation stopped: with a fault, or because the program cannot go on at all. -/
inductive Halt where
  | fault (cause : Fault)
  | crash
deriving DecidableEq, Repr

/-- A change to one document. No document means that it is dropped. -/
abbrev Transformer := Document → Except Halt (Option Document)

namespace Transformer

/-- The transformer that always keeps what a function makes of the document. -/
def keep (f : Document → Document) : Transformer := fun d => .ok (some (f d))

/-- Runs transformers one after the other. A document that one of them drops is not seen by the
next ones. -/
def chain : List Transformer → Transformer
  | [], d => .ok (some d)
  | t :: rest, d => do
    match ← t d with
    | some d => chain rest d
    | none => .ok none

end Transformer

/-- An ordered collection of documents. -/
structure Manifest where
  documents : List Document := []

namespace Manifest

def empty : Manifest := {}

def length (m : Manifest) : Nat := m.documents.length

def isEmpty (m : Manifest) : Bool := m.documents.isEmpty

/-- The documents with a property, in their order. -/
def filter (m : Manifest) (p : Document → Bool) : Manifest := ⟨m.documents.filter p⟩

/-- The documents of two manifests, those of the first one in front. -/
def append (m other : Manifest) : Manifest := ⟨m.documents ++ other.documents⟩

instance : Append Manifest := ⟨append⟩

/-- Transforms documents one after the other, keeping those that are not dropped. -/
def transformAll (t : Transformer) : List Document → Except Halt (List Document)
  | [] => .ok []
  | d :: rest => do
    match ← t d with
    | some d => return d :: (← transformAll t rest)
    | none => transformAll t rest

/-- The manifest with a chain of transformers run over every document. -/
def transform (m : Manifest) (ts : List Transformer) : Except Halt Manifest :=
  (transformAll (Transformer.chain ts) m.documents).map Manifest.mk

/-- The first deployment of a name. -/
def findDeployment? (m : Manifest) (name : String) : Option Document :=
  m.documents.find? fun d => d.kind == "Deployment" && d.name == name

/-- The documents among parsed values. Null values stand for empty documents and are skipped. -/
def documentsOf : List Json → Except Fault (List Document)
  | [] => .ok []
  | .null :: rest => documentsOf rest
  | value :: rest => do
    let d ← Document.ofJson value
    return d :: (← documentsOf rest)

/-- Reads a stream of YAML documents. The first document that is malformed, in either sense,
decides which fault is reported. -/
def parse (w : Wording) (text : String) : Except Fault Manifest := do
  let (values, whole) := Yaml.values text
  let documents ← documentsOf values
  if whole then .ok ⟨documents⟩ else .error (.yaml (w.yaml text))

/-- Every document is as documents are read. -/
def Declared (m : Manifest) : Prop := ∀ d ∈ m.documents, d.Declared

instance (m : Manifest) : Decidable m.Declared :=
  inferInstanceAs (Decidable (∀ d ∈ m.documents, d.Declared))

end Manifest

/-- A manifest of documents as they are read. -/
structure Declarations extends Manifest where
  declared : toManifest.Declared := by decide +kernel

namespace Declarations

def empty : Declarations where
  toManifest := .empty
  declared := List.forall_mem_nil _

/-- Documents that were read, with what reading ensures of them. -/
def ofRead : (read : Except Fault Manifest) →
    (∀ m, read = .ok m → m.Declared) → Except Fault Declarations
  | .ok m, ensured => .ok ⟨m, ensured m rfl⟩
  | .error fault, _ => .error fault

section
variable {read : Except Fault Manifest} {ensured : ∀ m, read = .ok m → m.Declared}

theorem ofRead_eq_ok_iff {g : Declarations} :
    ofRead read ensured = .ok g ↔ read = .ok g.toManifest := by
  obtain ⟨m, declared⟩ := g
  cases read <;> simp [ofRead]

theorem ofRead_eq_error_iff {fault : Fault} :
    ofRead read ensured = .error fault ↔ read = .error fault := by
  cases read <;> simp [ofRead]

theorem ofRead_congr {read' : Except Fault Manifest}
    {ensured' : ∀ m, read' = .ok m → m.Declared} (same : read' = read) :
    ofRead read' ensured' = ofRead read ensured := by
  subst same
  rfl

end

/-- The documents of two groups, those of the first one in front. -/
def append (m other : Declarations) : Declarations where
  toManifest := m.toManifest ++ other.toManifest
  declared := fun d mem => (List.mem_append.1 mem).elim (m.declared d) (other.declared d)

instance : Append Declarations := ⟨append⟩

end Declarations

end PhasedInstall
