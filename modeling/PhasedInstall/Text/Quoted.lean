import PhasedInstall.Text.EscapeTable
import PhasedInstall.Text.Lowercase

/-!
# Quoted text

The form in which an error message shows a text of foreign origin: between double quotes, with
quote, backslash and the common control characters escaped by a letter, and every other character
without a printed form of its own written by its code point.
-/

set_option autoImplicit false

namespace PhasedInstall.Text

/-- One character between quotes. -/
def quotedChar (c : Char) : List Char :=
  if c = '"' then ['\\', '"']
  else if c = '\\' then ['\\', '\\']
  else if c = '\n' then ['\\', 'n']
  else if c = '\r' then ['\\', 'r']
  else if c = '\t' then ['\\', 't']
  else if c.toNat = 0 then ['\\', '0']
  else if inRanges EscapeTable.ranges c.toNat then
    ['\\', 'u', '\x7b'] ++ (Nat.toDigits 16 c.toNat) ++ ['\x7d']
  else [c]

/-- A text between double quotes. -/
def quoted (s : String) : String :=
  String.ofList ('"' :: s.toList.flatMap quotedChar ++ ['"'])

end PhasedInstall.Text
