import PhasedInstall.Number.Binary64
import PhasedInstall.Json.Basic

/-!
# Numbers from decimal text

A number in a JSON text is a sign, digits, perhaps a fraction and perhaps an exponent. Digits that
fit a machine word stay an integer; every other number becomes a binary64 number. The value is
computed from the first digits that fit 64 bits, scaled by a power of ten with one rounding for
the power, one for the significand and one for the product or quotient. That is within a unit in
the last place of the text, not always the nearest number, and it is part of the format: two
readers that disagree in the last bit would see changes where there are none.
-/

set_option autoImplicit false

namespace PhasedInstall

namespace Decimal

/-- The least natural number that does not fit a 64-bit word. -/
def wordLimit : Nat := Nat.pow 2 64

/-- A power of ten as a binary64 number, for exponents up to 308. -/
def pow10 (k : Nat) : Option Binary64 :=
  if k ≤ 308 then Binary64.ofNat? (Nat.pow 10 k) else none

/-- Divides by `10^308` until the exponent is within reach of one power of ten. A quotient that
reached zero stays zero. -/
def scaleDown : (steps : Nat) → (x : Binary64) → (exponent : Nat) → Option Binary64
  | 0, x, _ => some x
  | steps + 1, x, exponent =>
    match pow10 exponent with
    | some p => x.div? p
    | none =>
      if x.isZero then some x
      else ((pow10 308).bind fun p => x.div? p).bind fun y => scaleDown steps y (exponent - 308)

/-- `± significand · 10^exponent`, or `none` when it is beyond the largest finite number. -/
def scale (negative : Bool) (significand : Nat) (exponent : Int) : Option Binary64 := do
  let x ← Binary64.ofNat? significand
  let y ←
    if 0 ≤ exponent then
      match pow10 exponent.toNat with
      | some p => x.mul? p
      | none => if x.isZero then some x else none
    -- Below `10^-1500` every significand has reached zero, so the count of steps is no limit.
    else scaleDown 8 x (-exponent).toNat
  pure (y.withSign negative)

def isDigit (c : Char) : Bool := '0' ≤ c && c ≤ '9'

def digitValue (c : Char) : Nat := c.toNat - '0'.toNat

/-- Accumulates digits while the significand fits a word. Returns the significand, the number of
digits taken, and the digits left over. -/
def significandOf : List Char → (value taken : Nat) → Nat × Nat × List Char
  | [], value, taken => (value, taken, [])
  | c :: rest, value, taken =>
    let next := value * 10 + digitValue c
    if next < wordLimit then significandOf rest next (taken + 1) else (value, taken, c :: rest)

/-- The greatest exponent that is still counted; a larger one saturates. -/
def exponentLimit : Nat := Nat.pow 2 31

/-- A decimal literal cut into its parts: the sign, the digits before the point, the digits after
it, and the exponent with its sign. -/
structure Literal where
  negative : Bool
  whole : List Char
  fraction : Option (List Char)
  exponent : Option (Bool × List Char)

/-- The value of a literal, or `none` when it is out of range. -/
def Literal.value? (l : Literal) : Option Number :=
  let (significand, _, dropped) := significandOf l.whole 0 0
  match l.fraction, l.exponent with
  | none, none =>
    if dropped.isEmpty then
      if l.negative then
        if 0 < significand ∧ significand ≤ Nat.pow 2 63 then some (.int (-(significand : Int)))
        else (scale true significand 0).map .float
      else some (.int significand)
    else (scale l.negative significand dropped.length).map .float
  | fraction, exponent =>
    -- Digits after the point count only while the significand has room.
    let (significand, taken, _) := significandOf (fraction.getD []) significand 0
    let shift : Int := (dropped.length : Int) - taken
    match exponent with
    | none => (scale l.negative significand shift).map .float
    | some (negativeExponent, digits) =>
      let e := digits.foldl (fun n c => 10 * n + digitValue c) 0
      if exponentLimit ≤ e then
        if significand ≠ 0 ∧ ¬ negativeExponent then none
        else some (.float (Binary64.zero l.negative))
      else
        let e : Int := if negativeExponent then -(e : Int) else e
        (scale l.negative significand (shift + e)).map .float

end Decimal

end PhasedInstall
