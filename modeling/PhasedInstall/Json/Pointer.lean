import PhasedInstall.Json.Basic
import PhasedInstall.Text.Pieces

/-!
# Pointers into a JSON value

A pointer is a list of reference tokens. A token names a member of an object, or the decimal index
of an item of an array: without sign and without leading zeros. In its text form each token
follows a `/`, and inside a token `~1` stands for `/` and `~0` for `~`.
-/

set_option autoImplicit false

namespace PhasedInstall

/-- The reference tokens of a pointer, outermost first. -/
abbrev Pointer := List String

namespace Pointer

/-- Replaces `~1` by `/` in one token. -/
def unescapeSlash : List Char → List Char
  | '~' :: '1' :: rest => '/' :: unescapeSlash rest
  | c :: rest => c :: unescapeSlash rest
  | [] => []

/-- Replaces `~0` by `~` in one token. -/
def unescapeTilde : List Char → List Char
  | '~' :: '0' :: rest => '~' :: unescapeTilde rest
  | c :: rest => c :: unescapeTilde rest
  | [] => []

/-- Reads the text form. The empty text points at the whole value; any other text that does not
begin with `/` is no pointer. -/
def parse? (text : String) : Option Pointer :=
  match text.toList with
  | [] => some []
  | '/' :: rest =>
    some ((Text.pieces '/' rest).map fun t => String.ofList (unescapeTilde (unescapeSlash t)))
  | _ => none

/-- An array index: decimal digits without leading zero. The index zero is the one exception. -/
def index? (token : String) : Option Nat :=
  match token.toList with
  | [] => none
  | ['0'] => some 0
  | '0' :: _ => none
  | digits =>
    if digits.all fun c => '0' ≤ c ∧ c ≤ '9' then
      some (digits.foldl (fun n c => 10 * n + (c.toNat - '0'.toNat)) 0)
    else none

end Pointer

namespace Json

/-- One step of a pointer. -/
def child? (token : String) : Json → Option Json
  | .obj members => Table.get? token members
  | .arr items => (Pointer.index? token).bind fun i => items[i]?
  | _ => none

/-- The value that a pointer reaches. -/
def at? : Pointer → Json → Option Json
  | [], value => some value
  | token :: rest, value => (value.child? token).bind (at? rest)

/-- Applies a function to the value that a pointer reaches, and leaves the rest as it is. A
pointer that reaches nothing changes nothing. -/
def modifyAt (f : Json → Json) : Pointer → Json → Json
  | [], value => f value
  | token :: rest, .obj members =>
    match Table.get? token members with
    | some child => .obj (Table.put token (modifyAt f rest child) members)
    | none => .obj members
  | token :: rest, .arr items =>
    match Pointer.index? token with
    | some i => .arr (items.modify i (modifyAt f rest))
    | none => .arr items
  | _ :: _, value => value

/-- Writes a value at a path of keys. Missing members on the way are created, and a value on the
way that is no object is replaced by an object. -/
def setPath : (old : Json) → (path : List String) → (value : Json) → Json
  | _, [], value => value
  | old, key :: rest, value =>
    let members := old.membersOrNone
    let below := (Table.get? key members).getD .null
    .obj (Table.put key (below.setPath rest value) members)

end Json

end PhasedInstall
