import PhasedInstall.Json.Basic
import PhasedInstall.Number.Binary64

/-!
# What a scalar means

A plain scalar without a tag is null, a truth value, a number or else a string; a quoted one is a
string. The tags for truth values, integers, floating point numbers and null demand that the text
has that form, whatever its quotes. Every other tag makes a string.

Integers may be written in base sixteen, eight or two. Decimal digits with leading zeros are a
string. Integers beyond 64 bits but within 128 have no value; numbers beyond those, and all with a
point or an exponent, are floating point, and the infinities and the undefined number become null.
-/

set_option autoImplicit false

namespace PhasedInstall.Yaml

namespace Scalar

/-! ## Integers -/

/-- The value of a digit in a base. -/
def digit? (base : Nat) (c : Char) : Option Nat :=
  let value? : Option Nat :=
    if '0' ≤ c ∧ c ≤ '9' then some (c.toNat - '0'.toNat)
    else if 'a' ≤ c ∧ c ≤ 'z' then some (c.toNat - 'a'.toNat + 10)
    else if 'A' ≤ c ∧ c ≤ 'Z' then some (c.toNat - 'A'.toNat + 10)
    else none
  value?.bind fun d => if d < base then some d else none

/-- The number written by at least one digit of a base. -/
def natural? (base : Nat) : List Char → Option Nat
  | [] => none
  | cs => cs.foldlM (fun n c => (digit? base c).map fun d => base * n + d) 0

/-- The base that a mark announces, and the digits behind it. -/
def based? : List Char → Option (Nat × List Char)
  | '0' :: 'x' :: rest => some (16, rest)
  | '0' :: 'o' :: rest => some (8, rest)
  | '0' :: 'b' :: rest => some (2, rest)
  | _ => none

def dropSign : List Char → List Char
  | '-' :: rest => rest
  | '+' :: rest => rest
  | cs => cs

/-- More than one decimal digit, the first of them zero, perhaps behind a sign. -/
def isZeroPadded (cs : List Char) : Bool :=
  match dropSign cs with
  | '0' :: c :: rest => (c :: rest).all fun d => '0' ≤ d && d ≤ '9'
  | _ => false

/-- The integer that a text writes, of any size. -/
def integer? (cs : List Char) : Option Int :=
  let (negative, body) := match cs with
    | '-' :: rest => (true, rest)
    | '+' :: rest => (false, rest)
    | _ => (false, cs)
  let magnitude := match based? body with
    | some (base, digits) => natural? base digits
    | none => if isZeroPadded cs then none else natural? 10 body
  magnitude.map fun n => if negative then -(n : Int) else n

/-! ## Floating point -/

/-- The nearest number to a decimal, if it is finite. -/
def nearest? (negative : Bool) (digits : List Char) (exponent : Int) : Option Binary64 :=
  let significand := digits.foldl (fun n c => 10 * n + (c.toNat - '0'.toNat)) 0
  -- Far out of range no power of ten needs to be computed.
  if significand = 0 ∨ exponent + digits.length < -400 then some (Binary64.zero negative)
  else if 400 < exponent then none
  else if 0 ≤ exponent then Binary64.ofRatio negative (significand * Nat.pow 10 exponent.toNat) 1
  else Binary64.ofRatio negative significand (Nat.pow 10 (-exponent).toNat)

/-- The number written as decimal digits, perhaps with a point and an exponent. At least one digit
stands before or after the point. -/
def decimal? (cs : List Char) : Option Binary64 :=
  let (negative, body) := match cs with
    | '-' :: rest => (true, rest)
    | '+' :: rest => (false, rest)
    | _ => (false, cs)
  let isDigit (c : Char) : Bool := '0' ≤ c && c ≤ '9'
  let (whole, rest) := body.span isDigit
  let (fraction, rest) := match rest with
    | '.' :: tail => tail.span isDigit
    | _ => ([], rest)
  if whole.isEmpty && fraction.isEmpty then none
  else
    let shift : Int := fraction.length
    match rest with
    | [] => nearest? negative (whole ++ fraction) (-shift)
    | e :: tail =>
      if e = 'e' ∨ e = 'E' then
        let (down, digits) := match tail with
          | '-' :: r => (true, r)
          | '+' :: r => (false, r)
          | _ => (false, tail)
        match natural? 10 digits with
        | some n =>
          let exponent : Int := if down then -(n : Int) else n
          nearest? negative (whole ++ fraction) (exponent - shift)
        | none => none
      else none

/-- A floating point scalar: a number, or null for the infinities and the undefined number. -/
def float? (text : String) : Option Json :=
  let unsigned := match text.toList with
    | '+' :: rest => if rest.head? = some '+' ∨ rest.head? = some '-' then none else some rest
    | cs => some cs
  match unsigned with
  | none => none
  | some cs =>
    if String.ofList cs ∈ [".inf", ".Inf", ".INF"] || text ∈ ["-.inf", "-.Inf", "-.INF"]
        || text ∈ [".nan", ".NaN", ".NAN"] then some .null
    else (decimal? cs).map fun x => .num (.float x)

/-! ## Scalars -/

def bool? (text : String) : Option Bool :=
  if text ∈ ["true", "True", "TRUE"] then some true
  else if text ∈ ["false", "False", "FALSE"] then some false
  else none

def isNull (text : String) : Bool := text ∈ ["null", "Null", "NULL", "~"]

/-- What an integer scalar means: a number of 64 bits, or nothing when only 128 bits hold it. -/
inductive IntegerMeaning where
  | number (n : Int)
  | unrepresentable
  | notInteger

def integerMeaning (text : String) : IntegerMeaning :=
  match integer? text.toList with
  | some n =>
    if -power 63 ≤ n ∧ n < power 64 then .number n
    else if -power 127 ≤ n ∧ n < power 128 then .unrepresentable
    else .notInteger
  | none => .notInteger
where
  /-- A power of two. -/
  power (bits : Nat) : Int := Nat.pow 2 bits

/-- A plain scalar without a tag. -/
def plain? (text : String) : Option Json :=
  if text.isEmpty || isNull text then some .null
  else match bool? text with
    | some b => some (.bool b)
    | none =>
      match integerMeaning text with
      | .number n => some (.int n)
      | .unrepresentable => none
      | .notInteger =>
        if isZeroPadded text.toList then some (.str text)
        else some ((float? text).getD (.str text))

/-- The value of a scalar. A tag of the document's own has none. -/
def value? (tag : Option String) (text : String) (isPlain : Bool) : Option Json :=
  match tag with
  | none => if isPlain then plain? text else some (.str text)
  | some tag =>
    if tag.startsWith "!" then none
    else if tag = "tag:yaml.org,2002:bool" then (bool? text).map .bool
    else if tag = "tag:yaml.org,2002:int" then
      match integerMeaning text with
      | .number n => some (.int n)
      | _ => none
    else if tag = "tag:yaml.org,2002:float" then float? text
    else if tag = "tag:yaml.org,2002:null" then (if isNull text then some .null else none)
    else some (.str text)

end Scalar

end PhasedInstall.Yaml
