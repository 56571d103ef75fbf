import PhasedInstall.Number.Binary64

/-!
# The shortest decimal that reads back

`digits x` is the shortest decimal significand whose nearest binary64 number is `x`; of several
of that length it is the one nearest to `x`. `text x` writes it: positionally while the decimal
point falls between 5 places before and 16 places after the first digit, with a trailing `.0` on
whole numbers, and in scientific notation otherwise.
-/

set_option autoImplicit false

namespace PhasedInstall.Binary64

/-- Whether `num / den` rounds to the magnitude of `x`. Stated by rounding itself, so that the
ends of the interval need no case of their own. -/
def roundsTo (x : Binary64) (num den : Nat) : Bool :=
  ofRatio x.isNegative num den = some x

/-- The decimal grid point `d · 10^k` as a quotient of naturals. -/
def gridPoint (d : Nat) (k : Int) : Nat × Nat :=
  if 0 ≤ k then (d * Nat.pow 10 k.toNat, 1) else (d, Nat.pow 10 (-k).toNat)

/-- The two neighbours of the magnitude on the grid `10^k`, nearest first. -/
def neighbours (x : Binary64) (k : Int) : List Nat :=
  let (num, den) := x.ratio
  let (num, den) :=
    if 0 ≤ k then (num, den * Nat.pow 10 k.toNat) else (num * Nat.pow 10 (-k).toNat, den)
  let below := num / den
  let rest := num % den
  if rest = 0 then [below]
  else if 2 * rest < den then [below, below + 1]
  else if den < 2 * rest then [below + 1, below]
  else if below % 2 = 0 then [below, below + 1] else [below + 1, below]

/-- The greatest `e` with `10^e ≤ num / den`, found by counting decimal digits. -/
def floorLog10 (num den : Nat) : Int :=
  if den ≤ num then ((Nat.toDigits 10 (num / den)).length : Int) - 1
  else
    -- `den / num > 1`: the least power of ten that brings the quotient to at least one
    let above := (den + num - 1) / num
    Int.negOfNat (Nat.toDigits 10 (above - 1)).length

/-- Searches the grids from coarse to fine for a point that reads back as `x`. Seventeen digits
always suffice, so the search has one step for each digit count. -/
def search (x : Binary64) (top : Int) : (remaining : Nat) → (count : Nat) → Nat × Int
  | 0, count => ((x.neighbours (top - count)).headD 0, top - count)
  | remaining + 1, count =>
    let k := top - count
    match (x.neighbours k).filter fun d => x.roundsTo (gridPoint d k).1 (gridPoint d k).2 with
    | d :: _ => (d, k)
    | [] => search x top remaining (count + 1)

/-- Removes trailing zeros of a significand, moving them into the exponent. -/
def normalize : (steps : Nat) → Nat × Int → Nat × Int
  | 0, dk => dk
  | steps + 1, (d, k) => if d ≠ 0 ∧ d % 10 = 0 then normalize steps (d / 10, k + 1) else (d, k)

/-- The shortest decimal `d · 10^k` that reads back as the magnitude of a nonzero number. -/
def digits (x : Binary64) : Nat × Int :=
  normalize 20 (x.search (floorLog10 x.ratio.1 x.ratio.2) 17 0)

/-- The decimal text of a number. -/
def text (x : Binary64) : String :=
  let sign := if x.isNegative then "-" else ""
  if x.isZero then sign ++ "0.0"
  else
    let (d, k) := x.digits
    let ds := Nat.toDigits 10 d
    let n : Int := ds.length
    -- `point` digits stand before the decimal point
    let point := n + k
    if 0 ≤ k ∧ point ≤ 16 then
      sign ++ String.ofList (ds ++ List.replicate k.toNat '0') ++ ".0"
    else if 0 < point ∧ point ≤ 16 then
      sign ++ String.ofList (ds.take point.toNat) ++ "." ++ String.ofList (ds.drop point.toNat)
    else if -5 < point ∧ point ≤ 0 then
      sign ++ "0." ++ String.ofList (List.replicate (-point).toNat '0' ++ ds)
    else
      let tail := if ds.length = 1 then "" else "." ++ String.ofList (ds.drop 1)
      sign ++ String.ofList (ds.take 1) ++ tail ++ "e" ++ toString (point - 1)

end PhasedInstall.Binary64
