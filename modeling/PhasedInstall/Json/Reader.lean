import PhasedInstall.Json.Basic
import PhasedInstall.Number.Decimal

/-!
# Reading JSON text

A text is cut into lexemes, and the lexemes drive a stack of open containers. Strings must be well
formed: a surrogate escape counts only as half of a pair, and control characters must be escaped.
A key that occurs twice keeps its first place and its last value. Containers may be nested 127
deep.
-/

set_option autoImplicit false

namespace PhasedInstall.Json

/-- A lexeme of a JSON text. -/
inductive Lexeme where
  | openArray | closeArray | openObject | closeObject | comma | colon
  | scalar (value : Json)

namespace Lexeme

def hexValue? (c : Char) : Option Nat :=
  if '0' ≤ c ∧ c ≤ '9' then some (c.toNat - '0'.toNat)
  else if 'a' ≤ c ∧ c ≤ 'f' then some (c.toNat - 'a'.toNat + 10)
  else if 'A' ≤ c ∧ c ≤ 'F' then some (c.toNat - 'A'.toNat + 10)
  else none

def hex4? (a b c d : Char) : Option Nat := do
  pure (((← hexValue? a) * 16 + (← hexValue? b)) * 256 + (← hexValue? c) * 16 + (← hexValue? d))

/-- The character written by a one-letter escape. -/
def shortEscape? : Char → Option Char
  | '"' => some '"'
  | '\\' => some '\\'
  | '/' => some '/'
  | 'b' => some '\x08'
  | 'f' => some '\x0c'
  | 'n' => some '\n'
  | 'r' => some '\r'
  | 't' => some '\t'
  | _ => none

def isHighSurrogate (n : Nat) : Bool := 0xD800 ≤ n && n < 0xDC00

def isLowSurrogate (n : Nat) : Bool := 0xDC00 ≤ n && n < 0xE000

/-- The characters of a string after its opening quote, and the text after its closing quote. -/
def string? : List Char → Option (List Char × List Char)
  | [] => none
  | '"' :: rest => some ([], rest)
  | '\\' :: 'u' :: a :: b :: c :: d :: rest =>
    match hex4? a b c d with
    | none => none
    | some n =>
      if isHighSurrogate n then
        match rest with
        | '\\' :: 'u' :: a' :: b' :: c' :: d' :: rest' =>
          match hex4? a' b' c' d' with
          | none => none
          | some m =>
            if isLowSurrogate m then
              (string? rest').map fun (cs, tail) =>
                (Char.ofNat (0x10000 + (n - 0xD800) * 0x400 + (m - 0xDC00)) :: cs, tail)
            else none
        | _ => none
      else if isLowSurrogate n then none
      else (string? rest).map fun (cs, tail) => (Char.ofNat n :: cs, tail)
  | '\\' :: e :: rest =>
    match shortEscape? e with
    | some c => (string? rest).map fun (cs, tail) => (c :: cs, tail)
    | none => none
  | c :: rest =>
    if c = '\\' ∨ c.toNat < 0x20 then none
    else (string? rest).map fun (cs, tail) => (c :: cs, tail)

/-- The digits at the front of a text, and what follows them. -/
def digits (cs : List Char) : List Char × List Char := cs.span Decimal.isDigit

/-- The exponent part of a number, if one begins here. -/
def exponent? : List Char → Option (Option (Bool × List Char) × List Char)
  | c :: rest =>
    if c = 'e' ∨ c = 'E' then
      let (negative, rest) := match rest with
        | '+' :: r => (false, r)
        | '-' :: r => (true, r)
        | r => (false, r)
      match digits rest with
      | ([], _) => none
      | (ds, tail) => some (some (negative, ds), tail)
    else some (none, c :: rest)
  | [] => some (none, [])

/-- The fraction and the exponent of a number. -/
def fraction? : List Char → Option (Option (List Char) × List Char)
  | '.' :: rest =>
    match digits rest with
    | ([], _) => none
    | (ds, tail) => some (some ds, tail)
  | rest => some (none, rest)

/-- A number: no leading zeros, at least one digit on each side of the point. -/
def number? (cs : List Char) : Option (Number × List Char) := do
  let (negative, cs) := match cs with
    | '-' :: rest => (true, rest)
    | rest => (false, rest)
  let (whole, cs) := digits cs
  match whole with
  | [] => none
  | ['0'] => some ()
  | '0' :: _ => none
  | _ => some ()
  let (fraction, cs) ← fraction? cs
  let (exponent, cs) ← exponent? cs
  let value ← Decimal.Literal.value? ⟨negative, whole, fraction, exponent⟩
  pure (value, cs)

def isBlank (c : Char) : Bool := c = ' ' || c = '\n' || c = '\t' || c = '\r'

/-- One lexeme at the front of a text that does not begin with a blank. -/
def next? : List Char → Option (Lexeme × List Char)
  | '[' :: rest => some (openArray, rest)
  | ']' :: rest => some (closeArray, rest)
  | '{' :: rest => some (openObject, rest)
  | '}' :: rest => some (closeObject, rest)
  | ',' :: rest => some (comma, rest)
  | ':' :: rest => some (colon, rest)
  | 't' :: 'r' :: 'u' :: 'e' :: rest => some (scalar (.bool true), rest)
  | 'f' :: 'a' :: 'l' :: 's' :: 'e' :: rest => some (scalar (.bool false), rest)
  | 'n' :: 'u' :: 'l' :: 'l' :: rest => some (scalar .null, rest)
  | '"' :: rest => (string? rest).map fun (cs, tail) => (scalar (.str (String.ofList cs)), tail)
  | cs => (number? cs).map fun (n, tail) => (scalar (.num n), tail)

/-- All lexemes of a text. Every lexeme takes at least one character, so a text has no more
lexemes than characters. -/
def all? : (bound : Nat) → List Char → Option (List Lexeme)
  | 0, cs => if cs.all isBlank then some [] else none
  | bound + 1, cs =>
    match cs.dropWhile isBlank with
    | [] => some []
    | cs => do
      let (lexeme, rest) ← next? cs
      let others ← all? bound rest
      pure (lexeme :: others)

end Lexeme

/-- An open container: what it holds so far, and for an object the key whose value is due. -/
inductive Frame where
  | array (reversed : List Json)
  | object (members : Members) (key : String)

/-- What may come next. -/
inductive Awaiting where
  | value
  | valueOrClose
  | key
  | keyOrClose
  | colon
  | commaOrClose
  | finished (value : Json)

/-- A text read so far: the open containers, innermost first, and what may come next. -/
structure Reading where
  stack : List Frame
  awaiting : Awaiting

namespace Reading

/-- A value is complete: it goes into the innermost container, or ends the text. -/
def complete (value : Json) : List Frame → Reading
  | [] => ⟨[], .finished value⟩
  | .array reversed :: stack => ⟨.array (value :: reversed) :: stack, .commaOrClose⟩
  | .object members key :: stack => ⟨.object (members.put key value) key :: stack, .commaOrClose⟩

/-- The deepest nesting of containers. -/
def depthLimit : Nat := 127

/-- A new container is opened, unless it is nested too deep. -/
def enter (frame : Frame) (stack : List Frame) (awaiting : Awaiting) : Option Reading :=
  if stack.length < depthLimit then some ⟨frame :: stack, awaiting⟩ else none

/-- The start of a value. -/
def startValue (stack : List Frame) : Lexeme → Option Reading
  | .scalar value => some (complete value stack)
  | .openArray => enter (.array []) stack .valueOrClose
  | .openObject => enter (.object [] "") stack .keyOrClose
  | _ => none

/-- A key of the innermost object. -/
def startKey : List Frame → Lexeme → Option Reading
  | .object members _ :: stack, .scalar (.str key) => some ⟨.object members key :: stack, .colon⟩
  | _, _ => none

/-- The innermost container is closed. -/
def close : List Frame → Lexeme → Option Reading
  | .array reversed :: stack, .closeArray => some (complete (.arr reversed.reverse) stack)
  | .object members _ :: stack, .closeObject => some (complete (.obj members) stack)
  | _, _ => none

/-- Takes one more lexeme. -/
def step (reading : Reading) (lexeme : Lexeme) : Option Reading :=
  match reading.awaiting with
  | .value => startValue reading.stack lexeme
  | .valueOrClose =>
    match lexeme with
    | .closeArray => close reading.stack lexeme
    | _ => startValue reading.stack lexeme
  | .key => startKey reading.stack lexeme
  | .keyOrClose =>
    match lexeme with
    | .closeObject => close reading.stack lexeme
    | _ => startKey reading.stack lexeme
  | .colon =>
    match lexeme with
    | .colon => some ⟨reading.stack, .value⟩
    | _ => none
  | .commaOrClose =>
    match lexeme, reading.stack with
    | .comma, .array _ :: _ => some ⟨reading.stack, .value⟩
    | .comma, .object _ _ :: _ => some ⟨reading.stack, .key⟩
    | _, _ => close reading.stack lexeme
  | .finished _ => none

/-- The value, once the text is complete. -/
def result? (reading : Reading) : Option Json :=
  match reading.awaiting with
  | .finished value => some value
  | _ => none

end Reading

/-- Reads a JSON text, or answers `none` if it is not one. -/
def parse? (text : String) : Option Json := do
  let cs := text.toList
  let lexemes ← Lexeme.all? cs.length cs
  let reading ← lexemes.foldlM Reading.step ⟨[], .value⟩
  reading.result?

end PhasedInstall.Json
