import PhasedInstall.Install.Pass
import PhasedInstall.Simulation.World

/-!
# Passes in a simulated cluster

What happens to a cluster in memory besides the requests of the operator: somebody asks for the
deletion of a resource, or takes things away behind the operator's back, and passes run one after
the other until nothing is left to do at once.
-/

set_option autoImplicit false

namespace PhasedInstall.Simulation

/-- What some passes came to. -/
structure Visit where
  passes : Nat
  last : Except Fault Revisit

namespace World

/-- Asks for the deletion of a resource. One without finalizers disappears at once. The answer
says whether there were finalizers. -/
def requestDeletion (w : World) (name : String) (time : Timestamp) : Option Bool × World :=
  match Table.get? name w.configs with
  | none => (none, w)
  | some c =>
    if c.finalizers.isEmpty then
      (some false, { w with configs := Table.erase name w.configs })
    else
      let c := { c with metadata := { c.metadata with deletionTimestamp := some time } }
      (some true, { w with configs := Table.put name c w.configs })

/-- Takes a resource away. The answer says whether it was there. -/
def forget (w : World) (name : String) : Bool × World :=
  ((Table.get? name w.configs).isSome, { w with configs := Table.erase name w.configs })

/-- Takes an object away. The answer says whether it was there. -/
def drop (w : World) (key : String) : Bool × World :=
  ((Table.get? key w.objects).isSome, { w with objects := Table.erase key w.objects })

/-- Ends everything that was arranged to go wrong. Objects that were held stay. -/
def clearFaults (w : World) : World := { w with faults := [], holds := [], leaving := [] }

/-- The requests since the record was last taken, and the world with an empty record. -/
def takeCalls (w : World) : List Call × World := (w.calls, { w with calls := [] })

/-- Passes over a resource until there is a reason to wait, or a limit is reached. -/
def visit (i : Installation) (name : String) : (limit passes : Nat) → World → Option Visit × World
  | 0, _, w => (none, w)
  | limit + 1, passes, w =>
    match w.run (i.pass name) with
    | (none, w) => (none, w)
    | (some last, w) =>
      match last, limit with
      | .ok (.after 0), _ + 1 => visit i name limit (passes + 1) w
      | _, _ => (some ⟨passes + 1, last⟩, w)

/-- One pass over a resource. -/
def passOnce (w : World) (i : Installation) (name : String) : Option Visit × World :=
  visit i name 1 0 w

/-- Passes over a resource until it has settled, at most twenty times. -/
def settle (w : World) (i : Installation) (name : String) : Option Visit × World :=
  visit i name 20 0 w

end World

end PhasedInstall.Simulation
