/-!
# Binary64: finite binary floating point on exact arithmetic

A number is its 64-bit word. A finite word denotes `± m · 2^q` with natural `m` and integer `q`;
every operation here computes with `m` and `q` exactly and rounds once at the end, to the nearest
representable number and to the even significand at a tie. Nothing depends on the machine's
floating point unit, so the whole module is open to reasoning.
-/

set_option autoImplicit false

namespace PhasedInstall

/-- A binary64 number, given by its word: one sign bit, eleven exponent bits, 52 fraction bits. -/
structure Binary64 where
  bits : UInt64
deriving DecidableEq, Repr

namespace Binary64

/-- The sign bit: set for negative numbers and for negative zero. -/
def isNegative (x : Binary64) : Bool := Nat.pow 2 63 ≤ x.bits.toNat

/-- The eleven exponent bits. -/
def exponentField (x : Binary64) : Nat := x.bits.toNat / Nat.pow 2 52 % Nat.pow 2 11

/-- The 52 fraction bits. -/
def fractionField (x : Binary64) : Nat := x.bits.toNat % Nat.pow 2 52

/-- The significand `m` of the magnitude `m · 2^q`. -/
def significand (x : Binary64) : Nat :=
  if x.exponentField = 0 then x.fractionField else Nat.pow 2 52 + x.fractionField

/-- The exponent `q` of the magnitude `m · 2^q`. Subnormal numbers share the least exponent. -/
def exponent (x : Binary64) : Int :=
  if x.exponentField = 0 then -1074 else (x.exponentField : Int) - 1075

def isZero (x : Binary64) : Bool := x.significand = 0

/-- The number with the given sign, exponent bits and fraction bits. -/
def ofFields (negative : Bool) (exponentBits fractionBits : Nat) : Binary64 :=
  ⟨UInt64.ofNat
    ((if negative then Nat.pow 2 63 else 0) + exponentBits * Nat.pow 2 52 + fractionBits)⟩

def zero (negative : Bool) : Binary64 := ofFields negative 0 0

/-- The same magnitude with the given sign. -/
def withSign (negative : Bool) (x : Binary64) : Binary64 :=
  ofFields negative x.exponentField x.fractionField

/-- `num / den` rounded to the nearest natural number, a half to the even one. -/
def roundHalfEven (num den : Nat) : Nat :=
  let q := num / den
  let r := num % den
  if 2 * r < den then q
  else if den < 2 * r then q + 1
  else if q % 2 = 0 then q else q + 1

/-- The greatest `e` with `2^e ≤ num / den`, for positive `num` and `den`. -/
def floorLog2 (num den : Nat) : Int :=
  let e : Int := (Nat.log2 num : Int) - (Nat.log2 den : Int)
  -- `2^(e-1) < num / den < 2^(e+1)`, so one comparison decides between `e` and `e - 1`
  let fits := if 0 ≤ e then den * Nat.pow 2 e.toNat ≤ num else den ≤ num * Nat.pow 2 (-e).toNat
  if fits then e else e - 1

/-- The number nearest to `± num / den`, or `none` if that is beyond the largest finite number. -/
def ofRatio (negative : Bool) (num den : Nat) : Option Binary64 :=
  if num = 0 ∨ den = 0 then some (zero negative)
  else
    -- The unit in the last place is `2^q`; it never falls below the subnormal unit.
    let q := max (floorLog2 num den - 52) (-1074)
    let m := if 0 ≤ q then roundHalfEven num (den * Nat.pow 2 q.toNat)
             else roundHalfEven (num * Nat.pow 2 (-q).toNat) den
    -- Rounding may carry into the next binade.
    let (m, q) := if m = Nat.pow 2 53 then (Nat.pow 2 52, q + 1) else (m, q)
    if m < Nat.pow 2 52 then some (ofFields negative 0 m)
    else
      let field := q + 1075
      if 2047 ≤ field then none
      else some (ofFields negative field.toNat (m - Nat.pow 2 52))

/-- The magnitude as a quotient of naturals. -/
def ratio (x : Binary64) : Nat × Nat :=
  if 0 ≤ x.exponent then (x.significand * Nat.pow 2 x.exponent.toNat, 1)
  else (x.significand, Nat.pow 2 (-x.exponent).toNat)

/-- The nearest number to a natural number. -/
def ofNat? (n : Nat) : Option Binary64 := ofRatio false n 1

/-- The rounded product of magnitudes, with the sign of the first factor. -/
def mul? (x y : Binary64) : Option Binary64 :=
  ofRatio x.isNegative (x.ratio.1 * y.ratio.1) (x.ratio.2 * y.ratio.2)

/-- The rounded quotient of magnitudes, with the sign of the dividend. -/
def div? (x y : Binary64) : Option Binary64 :=
  ofRatio x.isNegative (x.ratio.1 * y.ratio.2) (x.ratio.2 * y.ratio.1)

/-- Equality of the numbers denoted: the two zeros are one number. -/
def sameNumber (x y : Binary64) : Bool :=
  x.bits = y.bits || (x.isZero && y.isZero)

theorem sameNumber_refl (x : Binary64) : x.sameNumber x = true := by simp [sameNumber]

end Binary64

end PhasedInstall
