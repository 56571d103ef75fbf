/-!
# A place in a text

A cursor is the text still to be read, with its index, line and column. Lines end at a line feed,
a carriage return, the pair of both, a next-line character, or a line or paragraph separator. What
follows the last character counts as a blank place: every test that asks for "a blank or the end"
says so in its name.
-/

set_option autoImplicit false

namespace PhasedInstall.Yaml

def isSpace (c : Char) : Bool := c = ' '

/-- A space or a tab. -/
def isBlank (c : Char) : Bool := c = ' ' || c = '\t'

/-- A character that ends a line. -/
def isBreak (c : Char) : Bool :=
  c = '\n' || c = '\r' || c.toNat = 0x85 || c.toNat = 0x2028 || c.toNat = 0x2029

/-- A character of an anchor, a directive name or a tag handle. -/
def isWord (c : Char) : Bool :=
  ('0' ≤ c && c ≤ '9') || ('A' ≤ c && c ≤ 'Z') || ('a' ≤ c && c ≤ 'z') || c = '-' || c = '_'

def isDigit (c : Char) : Bool := '0' ≤ c && c ≤ '9'

/-- A character that may occur in a text at all. -/
def isLegal (c : Char) : Bool :=
  let n := c.toNat
  c = '\t' || c = '\n' || c = '\r' || (0x20 ≤ n && n ≤ 0x7E) || n = 0x85 ||
    (0xA0 ≤ n && n ≤ 0xD7FF) || (0xE000 ≤ n && n ≤ 0xFFFD) || 0x10000 ≤ n

def byteOrderMark : Char := Char.ofNat 0xFEFF

structure Cursor where
  rest : List Char
  index : Nat
  line : Nat
  column : Nat

namespace Cursor

def start (text : List Char) : Cursor := ⟨text, 0, 0, 0⟩

/-- Moves over characters of one line. -/
def advance (c : Cursor) (count : Nat) : Cursor :=
  { c with rest := c.rest.drop count, index := c.index + count, column := c.column + count }

/-- The character a number of places ahead. -/
def ahead? (c : Cursor) (places : Nat) : Option Char := c.rest[places]?

/-- Whether the character a number of places ahead is this one. -/
def isAt (c : Cursor) (places : Nat) (x : Char) : Bool := c.ahead? places == some x

/-- Whether the character a number of places ahead satisfies a test. -/
def testAt (c : Cursor) (places : Nat) (p : Char → Bool) : Bool :=
  match c.ahead? places with
  | some x => p x
  | none => false

def isBlankAt (c : Cursor) (places : Nat) : Bool := c.testAt places isBlank

def isBreakAt (c : Cursor) (places : Nat) : Bool := c.testAt places isBreak

def atEnd (c : Cursor) : Bool := c.rest.isEmpty

/-- A line end or the end of the text. -/
def isBreakOrEndAt (c : Cursor) (places : Nat) : Bool :=
  match c.ahead? places with
  | some x => isBreak x
  | none => true

/-- A blank, a line end or the end of the text. -/
def isBlankOrEndAt (c : Cursor) (places : Nat) : Bool :=
  match c.ahead? places with
  | some x => isBlank x || isBreak x
  | none => true

/-- The longest run of characters that satisfy a test, none of which may end a line. -/
def takeWhile (c : Cursor) (p : Char → Bool) : List Char × Cursor :=
  let taken := c.rest.takeWhile p
  (taken, c.advance taken.length)

def skipWhile (c : Cursor) (p : Char → Bool) : Cursor := (c.takeWhile p).2

/-- The rest of the line, without its end. -/
def restOfLine (c : Cursor) : List Char × Cursor := c.takeWhile fun x => !isBreak x

/-- One line end, as the text that stands for it: the separators stand for themselves, every
other line end for a line feed. Anywhere else this reads nothing. -/
def readBreak (c : Cursor) : List Char × Cursor :=
  let next (count : Nat) : Cursor :=
    { rest := c.rest.drop count, index := c.index + count, line := c.line + 1, column := 0 }
  match c.rest with
  | '\r' :: '\n' :: _ => (['\n'], next 2)
  | x :: _ =>
    if x.toNat = 0x2028 ∨ x.toNat = 0x2029 then ([x], next 1)
    else if isBreak x then (['\n'], next 1)
    else ([], c)
  | [] => ([], c)

def skipBreak (c : Cursor) : Cursor := c.readBreak.2

/-- Whether a document marker stands here: three equal characters at the start of a line, and
then a blank, a line end or the end. -/
def isMarker (c : Cursor) (x : Char) : Bool :=
  c.column = 0 && c.isAt 0 x && c.isAt 1 x && c.isAt 2 x && c.isBlankOrEndAt 3

def isDocumentMarker (c : Cursor) : Bool := c.isMarker '-' || c.isMarker '.'

end Cursor

end PhasedInstall.Yaml
