import PhasedInstall.Json.Basic

/-!
# Reading records out of JSON values

The pieces from which the readers of typed records are built. A field that is absent and a field
that is null are the same: both read as "not given". Fields that a record does not know are
ignored.
-/

set_option autoImplicit false

namespace PhasedInstall

namespace Json

/-- An integer of the given bounds. A number with a fraction part is none, whatever its value. -/
def intWithin? (low high : Int) : Json → Option Int
  | .num (.int n) => if low ≤ n ∧ n ≤ high then some n else none
  | _ => none

def int32? : Json → Option Int := intWithin? (-0x80000000) 0x7FFFFFFF

def int64? : Json → Option Int := intWithin? (-0x8000000000000000) 0x7FFFFFFFFFFFFFFF

/-- A list whose items all read. -/
def list? {α : Type} (item? : Json → Option α) : Json → Option (List α)
  | .arr items => items.mapM item?
  | _ => none

/-- A map from strings whose values all read. -/
def dictionary? {α : Type} (value? : Json → Option α) : Json → Option (List (String × α))
  | .obj members => members.mapM fun (key, value) => (value? value).map fun v => (key, v)
  | _ => none

end Json

namespace Members

open Json

/-- A field that may be left out. -/
def optional? {α : Type} (read? : Json → Option α) (key : String) (members : Members) :
    Option (Option α) :=
  match Table.get? key members with
  | none => some none
  | some .null => some none
  | some value => (read? value).map some

/-- A field that stands for a default value when it is left out. -/
def defaulted? {α : Type} (read? : Json → Option α) (default : α) (key : String)
    (members : Members) : Option α :=
  (optional? read? key members).map fun found => found.getD default

end Members

namespace Json

/-- The members that are given, in order: those whose value is present. -/
def record (fields : List (String × Option Json)) : Json :=
  .obj (fields.filterMap fun (key, value) => value.map fun v => (key, v))

end Json

end PhasedInstall
