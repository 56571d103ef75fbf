import PhasedInstall.Text.LetterTables

/-!
# Lowercase text

Every character maps by itself, with two exceptions: the capital I with a dot becomes an i and a
combining dot, and the capital sigma becomes the final sigma at the end of a word. A sigma ends a
word when a cased character stands before it and none after it; characters that case ignores are
looked past on both sides.
-/

set_option autoImplicit false

namespace PhasedInstall.Text

/-- Whether a code point lies in one of the ranges. -/
def inRanges (ranges : List (Nat × Nat)) (n : Nat) : Bool :=
  ranges.any fun (first, last) => first ≤ n && n ≤ last

def isCaseIgnorable (c : Char) : Bool := inRanges LetterTables.caseIgnorableRanges c.toNat

def isCased (c : Char) : Bool := inRanges LetterTables.casedRanges c.toNat

/-- The simple lowercase mapping of one character. -/
def lowerSimple (c : Char) : Char :=
  if c.toNat < 128 then c.toLower
  else
    let n := c.toNat
    match LetterTables.lowercaseRuns.find? fun (first, last, step, _, _) =>
        first ≤ n && n ≤ last && (n - first) % step == 0 with
    | some (_, _, _, upward, offset) => Char.ofNat (if upward then n + offset else n - offset)
    | none => c

/-- Whether the first character that case does not ignore is cased. -/
def startsCased (cs : List Char) : Bool :=
  match cs.dropWhile isCaseIgnorable with
  | c :: _ => isCased c
  | [] => false

def capitalSigma : Char := Char.ofNat 0x3A3
def smallSigma : Char := Char.ofNat 0x3C3
def finalSigma : Char := Char.ofNat 0x3C2
def capitalDottedI : Char := Char.ofNat 0x130
def combiningDot : Char := Char.ofNat 0x307

/-- Lowercases a text, given the characters before it, last one first. -/
def lowerChars : (before : List Char) → List Char → List Char
  | _, [] => []
  | before, c :: rest =>
    let here :=
      if c = capitalSigma then
        [if startsCased before && !startsCased rest then finalSigma else smallSigma]
      else if c = capitalDottedI then ['i', combiningDot]
      else [lowerSimple c]
    here ++ lowerChars (c :: before) rest

/-- The lowercase form of a text. -/
def lowercase (s : String) : String := String.ofList (lowerChars [] s.toList)

end PhasedInstall.Text
