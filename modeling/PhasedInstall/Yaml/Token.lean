import PhasedInstall.Yaml.Lexeme

/-!
# Tokens: the block structure of a text

Indentation and the colon decide the structure of a block, so a mapping is often recognised only
after its first key has been read: the colon then inserts the tokens that should have stood before
that key. A place where this may still happen is a `Candidate`. A candidate ends with its line,
and after 1024 characters. Where the block's indentation demands a key, an unfulfilled candidate
is an error.

A text with an error still has tokens before it. They are those that no pending candidate can
rearrange any more, and a reader of documents sees exactly them.
-/

set_option autoImplicit false

namespace PhasedInstall.Yaml

inductive Token where
  | version (major minor : Nat)
  | tagDirective (handle leader : String)
  | documentStart
  | documentEnd
  | blockSequenceStart
  | blockMappingStart
  | blockEnd
  | flowSequenceStart
  | flowSequenceEnd
  | flowMappingStart
  | flowMappingEnd
  | blockEntry
  | flowEntry
  | key
  | value
  | reference (name : String)
  | anchor (name : String)
  | tag (handle suffix : String)
  | scalar (text : String) (plain : Bool)
  | streamEnd
deriving DecidableEq

/-- A place that may turn out to be the start of a key. -/
structure Candidate where
  possible : Bool
  /-- The block's indentation allows nothing but a key here. -/
  required : Bool
  /-- The number of tokens before the place. -/
  position : Nat
  index : Nat
  line : Nat
  column : Nat

namespace Candidate

def absent : Candidate := ⟨false, false, 0, 0, 0, 0⟩

/-- Whether the cursor has moved too far for the place to become a key. -/
def isStale (k : Candidate) (c : Cursor) : Bool :=
  k.line < c.line || k.index + 1024 < c.index

end Candidate

structure Scanner where
  cursor : Cursor
  tokens : Array Token
  /-- The candidate of each open flow collection, innermost first, and last that of the block. -/
  candidates : List Candidate
  /-- Whether a key may begin at the cursor. -/
  keyAllowed : Bool
  /-- The column of the innermost block collection, `-1` outside of all. -/
  indent : Int
  /-- The columns around it, innermost first. -/
  outer : List Int

namespace Scanner

def start (text : List Char) : Scanner :=
  ⟨.start text, #[], [.absent], true, -1, []⟩

def inFlow (s : Scanner) : Bool := 1 < s.candidates.length

def emit (s : Scanner) (t : Token) : Scanner := { s with tokens := s.tokens.push t }

/-- Inserts a token so that a number of tokens stand before it. -/
def insertAt (s : Scanner) (position : Nat) (t : Token) : Scanner :=
  if h : position ≤ s.tokens.size then { s with tokens := s.tokens.insertIdx position t h }
  else s.emit t

/-- Skips blanks, comments and line ends up to the next token. A tab is a blank only where no key
may begin; a line end outside of flow collections lets a key begin. -/
def skipToToken : (bound : Nat) → Scanner → Scanner
  | 0, s => s
  | bound + 1, s =>
    let c := s.cursor
    let c := if c.index = 0 && c.isAt 0 byteOrderMark then c.advance 1 else c
    let tabs := s.inFlow || !s.keyAllowed
    let c := c.skipWhile fun x => x = ' ' || (tabs && x = '\t')
    let c := if c.isAt 0 '#' then c.restOfLine.2 else c
    if c.isBreakAt 0 then
      skipToToken bound
        { s with cursor := c.skipBreak, keyAllowed := s.keyAllowed || !s.inFlow }
    else { s with cursor := c }

/-- Drops the candidates that are out of reach. A required one is an error. -/
def dropStale? (s : Scanner) : Option Scanner := do
  let candidates ← s.candidates.mapM fun k =>
    if k.possible && k.isStale s.cursor then
      if k.required then none else some { k with possible := false }
    else some k
  pure { s with candidates }

/-- Gives up the innermost candidate. A required one is an error. -/
def giveUp? (s : Scanner) : Option Scanner :=
  match s.candidates with
  | k :: rest =>
    if k.possible && k.required then none
    else some { s with candidates := { k with possible := false } :: rest }
  | [] => some s

/-- Makes the cursor's place the innermost candidate, if a key may begin here. -/
def propose? (s : Scanner) : Option Scanner :=
  if s.keyAllowed then do
    let required := !s.inFlow && s.indent == (s.cursor.column : Int)
    let k : Candidate :=
      ⟨true, required, s.tokens.size, s.cursor.index, s.cursor.line, s.cursor.column⟩
    let s ← s.giveUp?
    pure { s with candidates := k :: s.candidates.drop 1 }
  else some s

/-- Opens a block collection at a column, if that is deeper than the innermost one. Its start
token goes to the given position, or to the end. -/
def openBlock (s : Scanner) (column : Nat) (position : Option Nat) (t : Token) : Scanner :=
  if !s.inFlow && s.indent < (column : Int) then
    let s := { s with indent := column, outer := s.indent :: s.outer }
    match position with
    | some n => s.insertAt n t
    | none => s.emit t
  else s

/-- Closes every block collection that is deeper than a column. -/
def closeBlocks (column : Int) : List Int → Scanner → Scanner
  | [], s => s
  | next :: outer, s =>
    if column < s.indent then
      closeBlocks column outer { (s.emit .blockEnd) with indent := next, outer }
    else s

def unwind (s : Scanner) (column : Int) : Scanner :=
  if s.inFlow then s else closeBlocks column s.outer s

/-- A token of a few characters. -/
def emitOver (s : Scanner) (t : Token) (count : Nat) : Scanner :=
  { (s.emit t) with cursor := s.cursor.advance count }

/-! ## One token each -/

def streamEnd? (s : Scanner) : Option Scanner := do
  let s ← (s.unwind (-1)).giveUp?
  pure ({ s with keyAllowed := false }.emit .streamEnd)

def directive? (s : Scanner) : Option Scanner := do
  let s ← (s.unwind (-1)).giveUp?
  let (d, cursor) ← Lexeme.directive? s.cursor
  let t := match d with
    | .version major minor => Token.version major minor
    | .tag handle leader => Token.tagDirective handle leader
  pure { (s.emit t) with cursor, keyAllowed := false }

def documentMarker? (s : Scanner) (t : Token) : Option Scanner := do
  let s ← (s.unwind (-1)).giveUp?
  pure ({ s with keyAllowed := false }.emitOver t 3)

def openFlow? (s : Scanner) (t : Token) : Option Scanner := do
  let s ← s.propose?
  pure ({ s with candidates := .absent :: s.candidates, keyAllowed := true }.emitOver t 1)

def closeFlow? (s : Scanner) (t : Token) : Option Scanner := do
  let s ← s.giveUp?
  let candidates := if s.inFlow then s.candidates.drop 1 else s.candidates
  pure ({ s with candidates, keyAllowed := false }.emitOver t 1)

def flowEntry? (s : Scanner) : Option Scanner := do
  let s ← s.giveUp?
  pure ({ s with keyAllowed := true }.emitOver .flowEntry 1)

def blockEntry? (s : Scanner) : Option Scanner := do
  let s ←
    if s.inFlow then some s
    else if s.keyAllowed then some (s.openBlock s.cursor.column none .blockSequenceStart)
    else none
  let s ← s.giveUp?
  pure ({ s with keyAllowed := true }.emitOver .blockEntry 1)

def key? (s : Scanner) : Option Scanner := do
  let s ←
    if s.inFlow then some s
    else if s.keyAllowed then some (s.openBlock s.cursor.column none .blockMappingStart)
    else none
  let s ← s.giveUp?
  pure ({ s with keyAllowed := !s.inFlow }.emitOver .key 1)

/-- The colon. With a candidate, the key token, and before it perhaps a mapping, are inserted at
the candidate's place. -/
def value? (s : Scanner) : Option Scanner :=
  match s.candidates with
  | k :: rest =>
    if k.possible then
      let s := s.insertAt k.position .key
      let s := s.openBlock k.column (some k.position) .blockMappingStart
      let s := { s with candidates := { k with possible := false } :: rest, keyAllowed := false }
      some (s.emitOver .value 1)
    else if s.inFlow then some ({ s with keyAllowed := false }.emitOver .value 1)
    else if s.keyAllowed then
      let s := s.openBlock s.cursor.column none .blockMappingStart
      some ({ s with keyAllowed := true }.emitOver .value 1)
    else none
  | [] => none

def anchor? (s : Scanner) (isReference : Bool) : Option Scanner := do
  let s ← s.propose?
  let (name, cursor) ← Lexeme.anchorName? s.cursor
  let t := if isReference then Token.reference name else Token.anchor name
  pure { (s.emit t) with cursor, keyAllowed := false }

def tag? (s : Scanner) : Option Scanner := do
  let s ← s.propose?
  let (handle, suffix, cursor) ← Lexeme.tag? s.cursor s.inFlow
  pure { (s.emit (.tag handle suffix)) with cursor, keyAllowed := false }

def blockScalar? (s : Scanner) (literal : Bool) : Option Scanner := do
  let s ← s.giveUp?
  let (text, cursor) ← Lexeme.blockScalar? literal s.indent s.cursor
  pure { (s.emit (.scalar text false)) with cursor, keyAllowed := true }

def quotedScalar? (s : Scanner) (single : Bool) : Option Scanner := do
  let s ← s.propose?
  let (text, cursor) ← Lexeme.quotedScalar? single s.cursor
  pure { (s.emit (.scalar text false)) with cursor, keyAllowed := false }

def plainScalar? (s : Scanner) : Option Scanner := do
  let s ← s.propose?
  let (text, cursor, broken) ← Lexeme.plainScalar? s.inFlow s.indent s.cursor
  pure { (s.emit (.scalar text true)) with cursor, keyAllowed := broken }

/-- The characters that begin something other than a plain scalar. -/
def isIndicator (c : Char) : Bool :=
  c ∈ ['-', '?', ':', ',', '[', ']', '{', '}', '#', '&', '*', '!', '|', '>', '\'', '"', '%', '@',
    '\x60']

/-- The next token: which one it is depends on the character at the cursor, on the one after it,
and on whether a flow collection is open. The flag tells whether the text is finished. -/
def next? (s : Scanner) : Option (Scanner × Bool) := do
  let s ← (skipToToken (s.cursor.rest.length + 1) s).dropStale?
  let s := s.unwind s.cursor.column
  let c := s.cursor
  let more (r : Option Scanner) : Option (Scanner × Bool) := r.map fun s => (s, false)
  match c.ahead? 0 with
  | none =>
    -- The end of the text stands at the start of a line.
    let c := if c.column = 0 then c else { c with column := 0, line := c.line + 1 }
    ({ s with cursor := c }.streamEnd?).map fun s => (s, true)
  | some x =>
    let ends := c.isBlankOrEndAt 1
    if c.column = 0 && x = '%' then more s.directive?
    else if c.isMarker '-' then more (s.documentMarker? .documentStart)
    else if c.isMarker '.' then more (s.documentMarker? .documentEnd)
    else if x = '[' then more (s.openFlow? .flowSequenceStart)
    else if x = '{' then more (s.openFlow? .flowMappingStart)
    else if x = ']' then more (s.closeFlow? .flowSequenceEnd)
    else if x = '}' then more (s.closeFlow? .flowMappingEnd)
    else if x = ',' then more s.flowEntry?
    else if x = '-' && ends then more s.blockEntry?
    else if x = '?' && (s.inFlow || ends) then more s.key?
    else if x = ':' && (s.inFlow || ends) then more s.value?
    else if x = '*' then more (s.anchor? true)
    else if x = '&' then more (s.anchor? false)
    else if x = '!' then more s.tag?
    else if x = '|' && !s.inFlow then more (s.blockScalar? true)
    else if x = '>' && !s.inFlow then more (s.blockScalar? false)
    else if x = '\'' then more (s.quotedScalar? true)
    else if x = '"' then more (s.quotedScalar? false)
    else if (!isBlank x && !isBreak x && !isIndicator x) || (x = '-' && !c.isBlankAt 1)
        || (!s.inFlow && (x = '?' || x = ':') && !ends) then more s.plainScalar?
    else none

/-- The tokens that no pending candidate can rearrange any more. -/
def settled (s : Scanner) : List Token :=
  let pending := s.candidates.filter fun k => k.possible && (k.required || !k.isStale s.cursor)
  let limit := pending.foldl (fun n k => min n k.position) s.tokens.size
  s.tokens.toList.take limit

/-- Scans on until the text is finished or an error stops it. Every token takes a character or is
the last one, which bounds the number of steps. -/
def run : (bound : Nat) → Scanner → List Token
  | 0, s => s.settled
  | bound + 1, s =>
    match s.next? with
    | none => s.settled
    | some (s, true) => s.tokens.toList
    | some (s, false) => run bound s

end Scanner

/-- The number of bytes that are checked for illegal characters before anything is read. -/
def checkedBytes : Nat := 16384

/-- The characters before the first block of bytes that contains an illegal character, and whether
there is such a block. -/
def legalBlocks (text : List Char) : List Char × Bool :=
  let rec go : List Char → (offset : Nat) → (block : List Char) → (blocks : List Char) →
      List Char × Bool
    | [], _, block, blocks => ((block ++ blocks).reverse, false)
    | c :: rest, offset, block, blocks =>
      if !isLegal c then (blocks.reverse, true)
      else
        let next := offset + c.utf8Size
        if next / checkedBytes = offset / checkedBytes then go rest next (c :: block) blocks
        else go rest next [] ((c :: block) ++ blocks)
  go text 0 [] []

/-- The tokens of a text, up to its end or its first error. Only a text without errors has the
token of the stream's end. -/
def tokens (text : String) : List Token :=
  let (legal, cut) := legalBlocks text.toList
  let found := Scanner.run (legal.length + 2) (.start legal)
  if cut then found.filter (· ≠ .streamEnd) else found

end PhasedInstall.Yaml
