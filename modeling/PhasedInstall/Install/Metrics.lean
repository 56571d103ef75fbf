import PhasedInstall.Install.Event

/-!
# Counts

Every event raises a few counts. A count is named by its family and its labels; what it has come
to is the number of times that the events so far have raised it, so the counts need no state
besides the list of events.
-/

set_option autoImplicit false

namespace PhasedInstall

/-- The families of counts. A duration family counts how many durations were taken. -/
inductive Family where
  | passes
  | actions
  | phaseFailures
  | readDurations
  | writeDurations
deriving DecidableEq, Repr

namespace Family

/-- The name under which a family is published. -/
def name : Family → String
  | passes => "pipo_config_reconcile_counter"
  | actions => "pipo_config_action_counter"
  | phaseFailures => "pipo_config_phase_failure_counter"
  | readDurations => "pipo_config_read_duration_seconds"
  | writeDurations => "pipo_config_write_duration_seconds"

end Family

/-- A count: its family and its labels, by name. -/
structure Series where
  family : Family
  labels : List (String × String)
deriving DecidableEq, Repr

namespace Series

/-- The passes over the resource of a name. -/
def passes (name : String) : Series := ⟨.passes, [("name", name)]⟩

/-- A count of a family that tells actions and resources apart. -/
def ofAction (family : Family) (name : String) (action : Action) : Series :=
  ⟨family, [("action", action.label), ("name", name)]⟩

/-- The failures of a phase. -/
def failures (phase : Phase) : Series := ⟨.phaseFailures, [("phase", phase.name)]⟩

/-- The family with the labels in braces. -/
def text (s : Series) : String :=
  s.family.name ++ "\x7b"
    ++ String.intercalate "," (s.labels.map fun (key, value) => key ++ "=" ++ value) ++ "\x7d"

end Series

/-- The counts that an event raises. -/
def Event.raises : Event → List Series
  | started name => [.passes name]
  | decided name action =>
    [.ofAction .readDurations name action, .ofAction .actions name action]
  | finished name action => [.ofAction .writeDurations name action]
  | failed phase => [.failures phase]

namespace Metrics

/-- What a count has come to. -/
def total (events : List Event) (s : Series) : Nat := (events.flatMap Event.raises).count s

/-- The counts that were raised at all. -/
def raised (events : List Event) : List Series := (events.flatMap Event.raises).eraseDups

end Metrics

end PhasedInstall
