/-!
# Phases, status codes and plans

An installation runs through six phases in a fixed order. A status code says how far it has come:
nothing yet, a phase that passed, a phase that failed, or a resource that is not the one being
watched. The code at the head of the history alone decides what runs next, so retrying needs no
state of its own: a failed phase runs again, a passed one hands over to its successor.
-/

set_option autoImplicit false

namespace PhasedInstall

/-- One step of the installation. -/
inductive Phase where
  | applyPipeline
  | validatePipeline
  | applyTriggers
  | validateTriggers
  | applyAddons
  | applyCommunity
deriving DecidableEq, Repr

namespace Phase

/-- All phases in the order in which they run. -/
def order : List Phase :=
  [applyPipeline, validatePipeline, applyTriggers, validateTriggers, applyAddons, applyCommunity]

/-- The name of a phase in messages and counts. -/
def name : Phase → String
  | applyPipeline => "apply-pipeline"
  | validatePipeline => "validate-pipeline"
  | applyTriggers => "apply-triggers"
  | validateTriggers => "validate-triggers"
  | applyAddons => "apply-addons"
  | applyCommunity => "apply-community-resources"

/-- The phase of a name. -/
def ofName? (s : String) : Option Phase := order.find? fun p => p.name = s

/-- The phase behind a phase, whether or not it is planned. -/
def next? : Phase → Option Phase
  | applyPipeline => some validatePipeline
  | validatePipeline => some applyTriggers
  | applyTriggers => some validateTriggers
  | validateTriggers => some applyAddons
  | applyAddons => some applyCommunity
  | applyCommunity => none

end Phase

/-- The state of an installation, as its history records it. -/
inductive StatusCode where
  /-- Nothing has been applied yet. -/
  | empty
  | failed (phase : Phase)
  /-- The phase succeeded. Passing the last phase completes the installation. -/
  | passed (phase : Phase)
  /-- The resource does not carry the watched name. -/
  | invalidResource
deriving DecidableEq, Repr

namespace StatusCode

/-- Every component is installed. -/
@[match_pattern] abbrev installed : StatusCode := .passed .applyCommunity

/-- All codes, in the order in which an installation may meet them. -/
def all : List StatusCode :=
  .empty :: (Phase.order.flatMap fun p => [.failed p, .passed p]) ++ [.invalidResource]

/-- The text of a code: what a text is compared with to find its code. -/
def wire : StatusCode → String
  | .empty => ""
  | .failed .applyPipeline => "error-applying-pipeline"
  | .passed .applyPipeline => "applied-pipeline"
  | .failed .validatePipeline => "error-validating-pipeline"
  | .passed .validatePipeline => "validated-pipeline"
  | .failed .applyTriggers => "error-applying-triggers"
  | .passed .applyTriggers => "applied-triggers"
  | .failed .validateTriggers => "error-validating-triggers"
  | .passed .validateTriggers => "validated-triggers"
  | .failed .applyAddons => "error-applying-addons"
  | .passed .applyAddons => "applied-addons"
  | .failed .applyCommunity => "error-applying-community-resources"
  | .passed .applyCommunity => "installed"
  | .invalidResource => "invalid-resource"

/-- The code that a stored text stands for. -/
def ofWire? (s : String) : Option StatusCode := all.find? fun c => c.wire = s

/-- The code as a message shows it. -/
def display : StatusCode → String
  | .empty => "empty"
  | code => code.wire

/-- The code's own name. -/
def name : StatusCode → String
  | .empty => "Empty"
  | .failed .applyPipeline => "PipelineApplyError"
  | .passed .applyPipeline => "AppliedPipeline"
  | .failed .validatePipeline => "PipelineValidateError"
  | .passed .validatePipeline => "ValidatedPipeline"
  | .failed .applyTriggers => "TriggersError"
  | .passed .applyTriggers => "AppliedTriggers"
  | .failed .validateTriggers => "TriggersValidateError"
  | .passed .validateTriggers => "ValidatedTriggers"
  | .failed .applyAddons => "AddonsError"
  | .passed .applyAddons => "AppliedAddons"
  | .failed .applyCommunity => "CommunityResourcesError"
  | .passed .applyCommunity => "Installed"
  | .invalidResource => "InvalidResource"

/-- Whether a code reports that something is wrong. -/
def isError : StatusCode → Bool
  | .failed _ => true
  | .invalidResource => true
  | _ => false

theorem ofWire?_wire (c : StatusCode) : ofWire? c.wire = some c := by
  cases c with
  | empty => rfl
  | invalidResource => decide
  | failed p => cases p <;> decide
  | passed p => cases p <;> decide

end StatusCode

/-- What the head of the history asks for. -/
inductive Dispatch where
  | run (phase : Phase)
  /-- Everything is installed; only version and identity are left to compare. -/
  | steadyState
deriving DecidableEq, Repr

/-- What a status code asks for: a failed phase runs again, a passed one lets its successor run. -/
def StatusCode.dispatch : StatusCode → Dispatch
  | .empty => .run .applyPipeline
  | .invalidResource => .run .applyPipeline
  | .failed phase => .run phase
  | .passed phase =>
    match phase.next? with
    | some next => .run next
    | none => .steadyState

/-- The phases that an operator runs. Triggers and the community catalog are optional. -/
structure Plan where
  withTriggers : Bool
  withCommunity : Bool
deriving DecidableEq, Repr

namespace Plan

/-- The plan of all phases. -/
def full : Plan := ⟨true, true⟩

/-- Whether a phase is planned. The two phases of a component are planned together. -/
def contains (plan : Plan) : Phase → Bool
  | .applyTriggers => plan.withTriggers
  | .validateTriggers => plan.withTriggers
  | .applyCommunity => plan.withCommunity
  | _ => true

/-- The planned phases, in their order. -/
def phases (plan : Plan) : List Phase := Phase.order.filter plan.contains

/-- The first planned phase at or after a phase. -/
def resolve (plan : Plan) (phase : Phase) : Option Phase :=
  (Phase.order.dropWhile (· ≠ phase)).find? plan.contains

/-- The code recorded when a phase succeeds. The last planned phase completes the installation. -/
def successCode (plan : Plan) (phase : Phase) : StatusCode :=
  if plan.phases.getLast? = some phase then .installed else .passed phase

end Plan

end PhasedInstall
