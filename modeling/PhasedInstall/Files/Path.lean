import PhasedInstall.Text.Pieces

/-!
# Paths

A path is the text in which it was given, since messages show it so. What it means is its list of
names; repeated slashes and single dots mean nothing.
-/

set_option autoImplicit false

namespace PhasedInstall

/-- A path as it was written. -/
structure Path where
  text : String
deriving DecidableEq, Repr

namespace Path

/-- Appends a path. An absolute one replaces what came before. -/
def join (p : Path) (tail : String) : Path :=
  if tail.startsWith "/" then ⟨tail⟩
  else if p.text.isEmpty || p.text.endsWith "/" then ⟨p.text ++ tail⟩
  else ⟨p.text ++ "/" ++ tail⟩

/-- Whether a path begins at the root. -/
def isAbsolute (p : Path) : Bool := p.text.startsWith "/"

/-- The names on the way, dots among them. A slash at the end asks for a directory, which is the
same as a dot. -/
def steps (p : Path) : List String :=
  let pieces := (Text.pieces '/' p.text.toList).map String.ofList
  let names := pieces.filter fun s => !s.isEmpty
  if p.text.endsWith "/" then names ++ ["."] else names

/-- What follows the last dot of a name. A dot at the front begins no extension. -/
def extension? (name : String) : Option String :=
  let reversed := name.toList.reverse
  let tail := reversed.takeWhile (· ≠ '.')
  match reversed.drop tail.length with
  | [] => none
  | [_] => none
  | _ :: _ => some (String.ofList tail.reverse)

end Path

end PhasedInstall
