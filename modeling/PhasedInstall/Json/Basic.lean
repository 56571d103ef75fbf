import PhasedInstall.Number.Binary64
import PhasedInstall.Table

/-!
# JSON values

Objects keep their members in the order in which the keys first appeared, and writing a key that
is present keeps its place. Integers and fractional numbers are different values, even where they
denote one number: `1` and `1.0` are not the same text and never become each other.

Two comparisons live here. `same` is equality of values: the order of members does not count.
`agrees` is the comparison of trees that decides whether a change is worth writing: containers
are compared by what they hold, so an empty object and an empty array agree.
-/

set_option autoImplicit false

namespace PhasedInstall

/-- A JSON number: an integer, or a binary64 number. -/
inductive Number where
  | int (value : Int)
  | float (value : Binary64)
deriving DecidableEq, Repr

/-- Equality of numbers: an integer is never a fractional number, and the two zeros of binary64
are one number. -/
def Number.same : Number → Number → Bool
  | .int a, .int b => a == b
  | .float a, .float b => a.sameNumber b
  | _, _ => false

/-- A JSON value. -/
inductive Json where
  | null
  | bool (value : Bool)
  | num (value : Number)
  | str (value : String)
  | arr (items : List Json)
  | obj (members : List (String × Json))
deriving Inhabited

/-- The members of an object, in order. -/
abbrev Members := Table Json

namespace Json

/-- An integer as a JSON number. -/
def int (n : Int) : Json := .num (.int n)

/-- The value under a key, if this is an object that has it. -/
def get? (key : String) : Json → Option Json
  | .obj members => Table.get? key members
  | _ => none

def str? : Json → Option String
  | .str s => some s
  | _ => none

def bool? : Json → Option Bool
  | .bool b => some b
  | _ => none

def items? : Json → Option (List Json)
  | .arr items => some items
  | _ => none

def isNull : Json → Bool
  | .null => true
  | _ => false

def isObject : Json → Bool
  | .obj _ => true
  | _ => false

/-- The members of an object; none for any other value. -/
def membersOrNone : Json → Members
  | .obj members => members
  | _ => []

mutual

/-- Equality of values. The members of an object are compared by key. -/
def same : Json → Json → Bool
  | .null, .null => true
  | .bool a, .bool b => a == b
  | .num a, .num b => a.same b
  | .str a, .str b => a == b
  | .arr a, .arr b => sameItems a b
  | .obj a, .obj b => a.length == b.length && sameMembers a b
  | _, _ => false

def sameItems : List Json → List Json → Bool
  | [], [] => true
  | a :: as, b :: bs => same a b && sameItems as bs
  | _, _ => false

/-- Whether every member on the left has an equal one on the right. -/
def sameMembers : List (String × Json) → Members → Bool
  | [], _ => true
  | (key, value) :: rest, other =>
    (match Table.get? key other with
      | some found => same value found
      | none => false) && sameMembers rest other

end

mutual

/-- Whether a walk over both trees meets no difference. Scalars are compared as values, containers
by the entries they hold: an array holds one entry for each index, an object one for each key.
Two containers without entries therefore agree. -/
def agrees : Json → Json → Bool
  | .null, .null => true
  | .bool a, .bool b => a == b
  | .num a, .num b => a.same b
  | .str a, .str b => a == b
  | .arr a, .arr b => agreesItems a b
  | .obj a, .obj b => a.length == b.length && agreesMembers a b
  | .arr [], .obj [] => true
  | .obj [], .arr [] => true
  | _, _ => false

def agreesItems : List Json → List Json → Bool
  | [], [] => true
  | a :: as, b :: bs => agrees a b && agreesItems as bs
  | _, _ => false

def agreesMembers : List (String × Json) → Members → Bool
  | [], _ => true
  | (key, value) :: rest, other =>
    (match Table.get? key other with
      | some found => agrees value found
      | none => false) && agreesMembers rest other

end

mutual

/-- Whether no object inside the value has a key twice. Reading yields only such values. -/
def keysDistinct : Json → Bool
  | .arr items => keysDistinctItems items
  | .obj members => decide (Table.keys members).Nodup && keysDistinctMembers members
  | _ => true

def keysDistinctItems : List Json → Bool
  | [] => true
  | item :: rest => keysDistinct item && keysDistinctItems rest

def keysDistinctMembers : List (String × Json) → Bool
  | [] => true
  | (_, value) :: rest => keysDistinct value && keysDistinctMembers rest

end

/-- A value as it is read: no object in it has a key twice. -/
structure Keyed where
  value : Json
  distinct : value.keysDistinct = true

instance : BEq Json := ⟨same⟩

end Json

end PhasedInstall
