import PhasedInstall.Install.Phase
import PhasedInstall.Json.Basic
import PhasedInstall.Text.Quoted

/-!
# Faults

Everything that can go wrong while manifests are loaded, transformed, applied or validated, as
causes. The text of a fault is one function, and the questions that the installation asks of a
fault (is the object missing, was the update refused) look through the phase it was met in.

Some faults repeat what a reader of YAML or JSON, or the other side of the web, has to say. The
words are theirs: a fault carries them along, and `Wording` is where those of the readers come from.
-/

set_option autoImplicit false

namespace PhasedInstall

/-- The answer of the cluster's interface to a request it refuses. -/
structure Refusal where
  status : String
  message : String
  reason : String
  code : Nat
deriving DecidableEq, Repr

namespace Refusal

/-- A refusal whose message is its reason. -/
def ofReason (code : Nat) (reason : String) : Refusal := ⟨"Failure", reason, reason, code⟩

def notFound : Refusal := ofReason 404 "NotFound"

def alreadyExists : Refusal := ofReason 409 "AlreadyExists"

def text (r : Refusal) : String :=
  "ApiError: " ++ r.message ++ ": " ++ r.reason ++ " (ErrorResponse \x7b status: "
    ++ Text.quoted r.status ++ ", message: " ++ Text.quoted r.message ++ ", reason: "
    ++ Text.quoted r.reason ++ ", code: " ++ toString r.code ++ " \x7d)"

end Refusal

/-- Why a path leads to no file, or a file to no text. -/
inductive FileFault where
  | notFound
  | notDirectory
  | isDirectory
  | nameTooLong
  /-- A path with the character that ends a path for the system. -/
  | nameWithNul
  | notText
deriving DecidableEq, Repr

def FileFault.text : FileFault → String
  | .notFound => "No such file or directory (os error 2)"
  | .notDirectory => "Not a directory (os error 20)"
  | .isDirectory => "Is a directory (os error 21)"
  | .nameTooLong => "File name too long (os error 36)"
  | .nameWithNul => "file name contained an unexpected NUL byte"
  | .notText => "stream did not contain valid UTF-8"

/-- What the readers of YAML and JSON say about what they refuse. -/
structure Wording where
  /-- About a text that is no stream of documents. -/
  yaml : (text : String) → String := fun _ => ""
  /-- About a value that has not the form asked for. -/
  json : (form : String) → Json → String := fun _ _ => ""

/-- What can go wrong. A `source` is the text of somebody else. -/
inductive Fault where
  /-- The cluster refused a request. -/
  | refused (refusal : Refusal)
  /-- The cluster serves the group of a kind, but not the kind. -/
  | missingKind (kind : String)
  /-- The cluster serves no such resource. -/
  | missingResource (resource : String)
  /-- An answer of the cluster is not what was asked for. -/
  | undecodable
  /-- A request could not be made at all. -/
  | unaddressable (source : String)
  /-- The watched resource itself is unusable. -/
  | userInput (text : String)
  /-- A document is malformed or could not be loaded. -/
  | manifest (text : String)
  /-- A transformer refused a document. -/
  | transform (text : String)
  /-- A bounded wait has expired. -/
  | timeout (text : String)
  | inPhase (phase : Phase) (source : Fault)
  /-- A text is no stream of documents. -/
  | yaml (source : String)
  /-- A value does not have the form that is asked of it. -/
  | json (source : String)
  | file (cause : FileFault)
  /-- A page could not be fetched. -/
  | fetch (source : String)
deriving DecidableEq, Repr

namespace Fault

def text : Fault → String
  | refused r => "Kubernetes reported error: " ++ r.text
  | missingKind k => "Kubernetes reported error: Error from discovery: Missing Kind: " ++ k
  | missingResource r =>
    "Kubernetes reported error: Error from discovery: Missing Resource: " ++ r
  | undecodable => "Kubernetes reported error: Error deserializing response"
  | unaddressable source => "Kubernetes reported error: " ++ source
  | userInput t => "Invalid Config CRD: " ++ t
  | manifest t => "Invalid manifest: " ++ t
  | transform t => "Failed to transform manifest: " ++ t
  | timeout t => "Timed out: " ++ t
  | inPhase p source => p.name ++ ": " ++ source.text
  | yaml source => "Failed to parse YAML: " ++ source
  | json source => "Failed to (de)serialize JSON: " ++ source
  | file cause => "I/O error: " ++ cause.text
  | fetch source => "Failed to fetch manifest: " ++ source

/-- The code of the refusal behind a fault. -/
def refusalCode? : Fault → Option Nat
  | refused r => some r.code
  | inPhase _ source => source.refusalCode?
  | _ => none

/-- Whether an object was reported missing. -/
def isNotFound (f : Fault) : Bool := f.refusalCode? == some 404

/-- Whether an object was refused for its content, such as a change to an immutable field. -/
def isInvalid (f : Fault) : Bool := f.refusalCode? == some 422

def isAlreadyExists (f : Fault) : Bool := f.refusalCode? == some 409

/-- Whether the cluster does not serve the kind, as while its definition is being removed. -/
def isMissingKind : Fault → Bool
  | missingKind _ => true
  | inPhase _ source => source.isMissingKind
  | _ => false

end Fault

end PhasedInstall
