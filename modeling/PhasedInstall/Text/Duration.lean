/-!
# Durations in messages

A duration shows its largest unit and a fraction without trailing zeros: below a second it is
given in milliseconds, from there on in seconds. Nothing at all is zero nanoseconds.
-/

set_option autoImplicit false

namespace PhasedInstall.Text

/-- A number below a thousand as the digits after a decimal point, without trailing zeros. -/
def thousandths (n : Nat) : String :=
  let digits := [n / 100 % 10, n / 10 % 10, n % 10]
  let significant := (digits.reverse.dropWhile (· = 0)).reverse
  String.ofList (significant.map fun d => Char.ofNat (48 + d))

/-- The text of a duration given in milliseconds. -/
def duration (ms : Nat) : String :=
  if ms = 0 then "0ns"
  else if ms < 1000 then toString ms ++ "ms"
  else if ms % 1000 = 0 then toString (ms / 1000) ++ "s"
  else toString (ms / 1000) ++ "." ++ thousandths (ms % 1000) ++ "s"

end PhasedInstall.Text
