import PhasedInstall.Install.Action

/-!
# Events of the installation

What is counted while passes run. Each event says one thing that happened; the counts are made
from the list of events.
-/

set_option autoImplicit false

namespace PhasedInstall

/-- Something that is counted. -/
inductive Event where
  /-- A pass over a resource began. -/
  | started (name : String)
  /-- A pass has read its resource and picked an action. -/
  | decided (name : String) (action : Action)
  /-- A pass has ended its action, well or not. -/
  | finished (name : String) (action : Action)
  | failed (phase : Phase)
deriving DecidableEq, Repr

end PhasedInstall
