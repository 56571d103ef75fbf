/-!
# Timestamps

Points in time as the cluster writes them: a date, the letter T, a time of day and an offset. They
are read leniently (blanks between the parts, a blank in place of the T, fractions of a second, a
named offset) and written in one form only: in universal time, to the second, ending in Z.
-/

set_option autoImplicit false

namespace PhasedInstall

/-- A second of universal time. A leap second follows the 59th second of its minute. -/
structure Timestamp where
  /-- Days since the first of January 1970. -/
  day : Int
  /-- The second of the day. -/
  second : Nat
  leap : Bool
deriving DecidableEq, Repr

namespace Timestamp

/-! ## The calendar -/

/-- Whether a year has a leap day, in the calendar extended to all years. -/
def isLeapYear (y : Int) : Bool := y % 4 == 0 && (y % 100 != 0 || y % 400 == 0)

/-- The number of days of a month, counted from one. -/
def daysInMonth (y : Int) (m : Nat) : Nat :=
  if m = 2 then (if isLeapYear y then 29 else 28)
  else if m = 4 ∨ m = 6 ∨ m = 9 ∨ m = 11 then 30 else 31

/-- Days from the epoch to a date. Years are counted from March, so that the leap day is the last
day of its year. -/
def dayOf (y : Int) (m d : Nat) : Int :=
  let y := if m ≤ 2 then y - 1 else y
  let era := Int.fdiv y 400
  let yearOfEra := y - era * 400
  let monthFromMarch : Int := (m + 9) % 12
  let dayOfYear := (153 * monthFromMarch + 2) / 5 + d - 1
  let dayOfEra := yearOfEra * 365 + yearOfEra / 4 - yearOfEra / 100 + dayOfYear
  era * 146097 + dayOfEra - 719468

/-- The date of a day. -/
def dateOf (day : Int) : Int × Nat × Nat :=
  let z := day + 719468
  let era := Int.fdiv z 146097
  let dayOfEra := z - era * 146097
  let yearOfEra := (dayOfEra - dayOfEra / 1460 + dayOfEra / 36524 - dayOfEra / 146096) / 365
  let dayOfYear := dayOfEra - (365 * yearOfEra + yearOfEra / 4 - yearOfEra / 100)
  let monthFromMarch := (5 * dayOfYear + 2) / 153
  let d := dayOfYear - (153 * monthFromMarch + 2) / 5 + 1
  let m := if monthFromMarch < 10 then monthFromMarch + 3 else monthFromMarch - 9
  let y := yearOfEra + era * 400 + (if m ≤ 2 then 1 else 0)
  (y, m.toNat, d.toNat)

/-! ## Reading -/

/-- Whether a character is a decimal digit. -/
def isDigit (c : Char) : Bool := '0' ≤ c && c ≤ '9'

/-- Whether a character may stand between the parts. -/
def isBlank (c : Char) : Bool := c.isWhitespace

/-- What follows the blanks at the front. -/
def skipBlanks (cs : List Char) : List Char := cs.dropWhile isBlank

/-- The number that digits are. -/
def value (digits : List Char) : Nat := digits.foldl (fun n c => 10 * n + (c.toNat - 48)) 0

/-- A number of at most so many digits, behind blanks. -/
def number? (width : Nat) (cs : List Char) : Option (Nat × List Char) :=
  let cs := skipBlanks cs
  let digits := (cs.takeWhile isDigit).take width
  if digits.isEmpty then none else some (value digits, cs.drop digits.length)

/-- A year: four digits, or any number of them behind a sign. -/
def year? (cs : List Char) : Option (Int × List Char) :=
  match skipBlanks cs with
  | '-' :: rest =>
    if rest.head?.any isDigit then
      (number? rest.length rest).map fun (n, r) => (-(n : Int), r)
    else none
  | '+' :: rest =>
    if rest.head?.any isDigit then (number? rest.length rest).map fun (n, r) => ((n : Int), r)
    else none
  | rest => (number? 4 rest).map fun (n, r) => ((n : Int), r)

/-- A separator, behind blanks. -/
def expect? (x : Char) (cs : List Char) : Option (List Char) :=
  match skipBlanks cs with
  | c :: rest => if c = x then some rest else none
  | [] => none

/-- The fraction of a second, which is not kept. -/
def fraction? : List Char → Option (List Char)
  | '.' :: rest =>
    if rest.head?.any isDigit then some (rest.dropWhile isDigit) else none
  | rest => some rest

/-- An offset from universal time in minutes. -/
def offset? (cs : List Char) : Option (Int × List Char) :=
  match cs with
  | [] => none
  | c :: rest =>
    if c = 'z' ∨ c = 'Z' then some (0, rest)
    else if c = 'u' ∨ c = 'U' then
      match rest with
      | t :: u :: tail => if t.toLower = 't' ∧ u.toLower = 'c' then some (0, tail) else none
      | _ => none
    else
      let negative? : Option Bool :=
        if c = '+' then some false
        else if c = '-' ∨ c.toNat = 0x2212 then some true
        else none
      match negative?, rest with
      | some negative, h1 :: h2 :: tail =>
        if isDigit h1 ∧ isDigit h2 then
          match tail.dropWhile fun x => x = ':' || isBlank x with
          | m1 :: m2 :: tail =>
            if '0' ≤ m1 ∧ m1 ≤ '5' ∧ isDigit m2 then
              let minutes : Int := value [h1, h2] * 60 + value [m1, m2]
              if 1440 ≤ minutes then none
              else some (if negative then -minutes else minutes, tail)
            else none
          | _ => none
        else none
      | _, _ => none

/-- Reads a timestamp. -/
def parse? (text : String) : Option Timestamp := do
  let (y, cs) ← year? text.toList
  let cs ← expect? '-' cs
  let (m, cs) ← number? 2 cs
  let cs ← expect? '-' cs
  let (d, cs) ← number? 2 cs
  let cs ← match cs with
    | c :: rest => if c = 't' ∨ c = 'T' ∨ c = ' ' then some rest else none
    | [] => none
  let (hour, cs) ← number? 2 cs
  let cs ← expect? ':' cs
  let (minute, cs) ← number? 2 cs
  let cs ← expect? ':' cs
  let (second, cs) ← number? 2 cs
  let cs ← fraction? cs
  let (offset, cs) ← offset? (skipBlanks cs)
  if !(skipBlanks cs).isEmpty then none
  if m = 0 ∨ 12 < m ∨ d = 0 ∨ daysInMonth y m < d ∨ 23 < hour ∨ 59 < minute ∨ 60 < second then none
  if y < -262143 ∨ 262142 < y then none
  let total : Int :=
    dayOf y m d * 86400 + hour * 3600 + minute * 60 + min second 59 - offset * 60
  pure ⟨Int.fdiv total 86400, (Int.fmod total 86400).toNat, second = 60⟩

/-! ## Writing -/

/-- A number in at least so many digits. -/
def padded (width n : Nat) : String :=
  let digits := Nat.toDigits 10 n
  String.ofList (List.replicate (width - digits.length) '0' ++ digits)

/-- A year: four digits, or a sign and at least four digits. -/
def yearText (y : Int) : String :=
  if 0 ≤ y ∧ y ≤ 9999 then padded 4 y.toNat
  else (if y < 0 then "-" else "+") ++ padded 4 y.natAbs

/-- Writes a timestamp in universal time. -/
def text (t : Timestamp) : String :=
  let (y, m, d) := dateOf t.day
  let second := t.second % 60 + (if t.leap then 1 else 0)
  yearText y ++ "-" ++ padded 2 m ++ "-" ++ padded 2 d ++ "T" ++ padded 2 (t.second / 3600) ++ ":"
    ++ padded 2 (t.second / 60 % 60) ++ ":" ++ padded 2 second ++ "Z"

end Timestamp

end PhasedInstall
