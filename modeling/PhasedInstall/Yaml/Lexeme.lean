import PhasedInstall.Yaml.Cursor

/-!
# The lexemes of YAML that carry text

Anchors, tags, directives and the three families of scalars. Every reader takes a cursor at the
first character of its lexeme and returns what it says with the cursor behind it, or nothing when
the lexeme is malformed.

Line folding is the same everywhere. A single line end inside a flowing scalar becomes a space;
further line ends after it are kept; a separator character is kept in place of the space.
-/

set_option autoImplicit false

namespace PhasedInstall.Yaml

/-- The value of a hexadecimal digit. -/
def hexValue? (c : Char) : Option Nat :=
  if '0' ≤ c ∧ c ≤ '9' then some (c.toNat - '0'.toNat)
  else if 'a' ≤ c ∧ c ≤ 'f' then some (c.toNat - 'a'.toNat + 10)
  else if 'A' ≤ c ∧ c ≤ 'F' then some (c.toNat - 'A'.toNat + 10)
  else none

/-- The number written by hexadecimal digits. -/
def hexNumber? (cs : List Char) : Option Nat :=
  cs.foldlM (fun n c => (hexValue? c).map fun d => 16 * n + d) 0

namespace Lexeme

/-! ## Anchors -/

/-- The name of an anchor or an alias, behind its indicator. -/
def anchorName? (c : Cursor) : Option (String × Cursor) :=
  let (name, after) := (c.advance 1).takeWhile isWord
  let ends := after.isBlankOrEndAt 0 ||
    after.testAt 0 fun x => x ∈ ['?', ':', ',', ']', '}', '%', '@', '\x60']
  if name.isEmpty || !ends then none else some (String.ofList name, after)

/-! ## Tags -/

/-- A character of a tag address. The flow indicators count only in the verbatim form and in a
directive. -/
def isAddressChar (verbatim : Bool) (c : Char) : Bool :=
  isWord c ||
    c ∈ [';', '/', '?', ':', '@', '&', '=', '+', '$', '.', '%', '!', '~', '*', '\'', '(', ')']
    || (verbatim && c ∈ [',', '[', ']'])

/-- The bytes that follow a leading byte of an escaped character. -/
def followers? (b : Nat) : Option Nat :=
  if b < 0x80 then some 0
  else if b / 0x20 = 0x6 then some 1
  else if b / 0x10 = 0xE then some 2
  else if b / 0x08 = 0x1E then some 3
  else none

/-- The payload bits of a leading byte. -/
def leadBits (b count : Nat) : Nat :=
  match count with
  | 0 => b
  | 1 => b % 0x20
  | 2 => b % 0x10
  | _ => b % 0x08

/-- Resolves the escapes of an address. An escaped character is written as the escapes of its
bytes; `due` counts the bytes still to come. -/
def unescapeAddress : (due payload : Nat) → List Char → Option (List Char)
  | 0, _, [] => some []
  | _ + 1, _, [] => none
  | due, payload, '%' :: a :: b :: rest =>
    match hexNumber? [a, b] with
    | none => none
    | some byte =>
      match due with
      | 0 =>
        match followers? byte with
        | none => none
        | some 0 => (unescapeAddress 0 0 rest).map (Char.ofNat byte :: ·)
        | some (n + 1) => unescapeAddress (n + 1) (leadBits byte (n + 1)) rest
      | 1 =>
        if byte / 0x40 = 2 then
          (unescapeAddress 0 0 rest).map (Char.ofNat (payload * 0x40 + byte % 0x40) :: ·)
        else none
      | n + 2 =>
        if byte / 0x40 = 2 then unescapeAddress (n + 1) (payload * 0x40 + byte % 0x40) rest
        else none
  | 0, _, c :: rest => if c = '%' then none else (unescapeAddress 0 0 rest).map (c :: ·)
  | _ + 1, _, _ :: _ => none

/-- An address, behind the part of it that was read as a handle. -/
def address? (c : Cursor) (verbatim : Bool) (head : List Char) : Option (String × Cursor) :=
  let (raw, after) := c.takeWhile (isAddressChar verbatim)
  if raw.isEmpty && head.isEmpty then none
  else (unescapeAddress 0 0 raw).map fun cs => (String.ofList (head.drop 1 ++ cs), after)

/-- A tag handle: an exclamation mark, word characters, and perhaps a closing mark. -/
def handle (c : Cursor) : List Char × Cursor :=
  let (word, after) := (c.advance 1).takeWhile isWord
  if after.isAt 0 '!' then ('!' :: word ++ ['!'], after.advance 1) else ('!' :: word, after)

/-- A tag as handle and suffix. A verbatim tag and the lone mark have an empty handle. -/
def tag? (c : Cursor) (inFlow : Bool) : Option (String × String × Cursor) := do
  let (tagHandle, suffix, after) ←
    if c.isAt 1 '<' then do
      let (uri, after) ← address? (c.advance 2) true []
      if after.isAt 0 '>' then pure ("", uri, after.advance 1) else none
    else
      let (mark, after) := handle c
      if 2 ≤ mark.length ∧ mark.getLast? = some '!' then do
        let (suffix, after) ← address? after false []
        pure (String.ofList mark, suffix, after)
      else do
        let (suffix, after) ← address? after false mark
        if suffix.isEmpty then pure ("", "!", after) else pure ("!", suffix, after)
  if after.isBlankOrEndAt 0 || (inFlow && after.isAt 0 ',') then pure (tagHandle, suffix, after)
  else none

/-! ## Directives -/

/-- A directive: the language version, or a tag handle and what it abbreviates. -/
inductive Directive where
  | version (major minor : Nat)
  | tag (handle leader : String)

/-- A version number of at most nine digits. -/
def versionNumber? (c : Cursor) : Option (Nat × Cursor) :=
  let (digits, after) := c.takeWhile isDigit
  if digits.isEmpty || 9 < digits.length then none
  else some (digits.foldl (fun n d => 10 * n + (d.toNat - '0'.toNat)) 0, after)

/-- A directive, with the line that holds it. -/
def directive? (c : Cursor) : Option (Directive × Cursor) := do
  let (name, after) := (c.advance 1).takeWhile isWord
  if name.isEmpty || !after.isBlankOrEndAt 0 then none
  let name := String.ofList name
  let (found, after) ←
    if name = "YAML" then do
      let (major, after) ← versionNumber? (after.skipWhile isBlank)
      if !after.isAt 0 '.' then none
      let (minor, after) ← versionNumber? (after.advance 1)
      pure (Directive.version major minor, after)
    else if name = "TAG" then do
      let c := after.skipWhile isBlank
      if !c.isAt 0 '!' then none
      let (mark, after) := handle c
      if 2 ≤ mark.length ∧ mark.getLast? ≠ some '!' then none
      if !after.isBlankAt 0 then none
      let (leader, after) ← address? (after.skipWhile isBlank) true []
      if !after.isBlankOrEndAt 0 then none
      pure (Directive.tag (String.ofList mark) leader, after)
    else none
  let after := after.skipWhile isBlank
  let after := if after.isAt 0 '#' then after.restOfLine.2 else after
  if after.isBreakOrEndAt 0 then pure (found, after.skipBreak) else none

/-! ## Folding -/

/-- What stands for the line ends between two pieces of a flowing scalar. -/
def folded (leading trailing : List Char) : List Char :=
  match leading with
  | '\n' :: _ => if trailing.isEmpty then [' '] else trailing
  | _ => leading ++ trailing

/-! ## Block scalars -/

/-- What a block scalar does with the line ends after its last line. -/
inductive Chomping where
  | strip | clip | keep

/-- The header of a block scalar behind its indicator: chomping and explicit indentation, in
either order. -/
def blockHeader? (c : Cursor) : Option (Chomping × Nat × Cursor) :=
  let sign? (c : Cursor) : Option Chomping :=
    if c.isAt 0 '+' then some .keep else if c.isAt 0 '-' then some .strip else none
  let digit? (c : Cursor) : Option Nat :=
    (c.ahead? 0).bind fun x => if isDigit x then some (x.toNat - '0'.toNat) else none
  match sign? c with
  | some chomping =>
    let c := c.advance 1
    match digit? c with
    | some 0 => none
    | some n => some (chomping, n, c.advance 1)
    | none => some (chomping, 0, c)
  | none =>
    match digit? c with
    | some 0 => none
    | some n =>
      let c := c.advance 1
      match sign? c with
      | some chomping => some (chomping, n, c.advance 1)
      | none => some (.clip, n, c)
    | none => some (.clip, 0, c)

/-- The empty lines before a line of content, with the widest indentation seen. While the
indentation is still open (zero) every leading space counts towards it. A tab where indentation
is due is an error. -/
def blockBreaks? : (bound : Nat) → (indent : Nat) → (widest : Nat) → Cursor →
    Option (List Char × Nat × Cursor)
  | 0, _, widest, c => some ([], widest, c)
  | bound + 1, indent, widest, c =>
    let due := c.rest.takeWhile isSpace
    let count := if indent = 0 then due.length else min due.length (indent - c.column)
    let c := c.advance count
    let widest := max widest c.column
    if (indent = 0 || c.column < indent) && c.isAt 0 '\t' then none
    else if c.isBreakAt 0 then
      let (text, c) := c.readBreak
      (blockBreaks? bound indent widest c).map fun (texts, widest, c) => (text ++ texts, widest, c)
    else some ([], widest, c)

/-- The state between two lines of a block scalar. -/
structure BlockState where
  /-- The text so far, last character first. -/
  reversed : List Char
  /-- The line end of the last line. -/
  leading : List Char
  /-- The empty lines after it. -/
  trailing : List Char
  /-- Whether the last line began with a blank. -/
  leadingBlank : Bool

/-- The lines of a block scalar at its indentation. -/
def blockLines? (literal : Bool) (indent : Nat) : (bound : Nat) → BlockState → Cursor →
    Option (BlockState × Cursor)
  | 0, s, c => some (s, c)
  | bound + 1, s, c =>
    if c.column ≠ indent || c.atEnd then some (s, c)
    else
      let startsBlank := c.isBlankAt 0
      let joins := !literal && s.leading.head? == some '\n' && !s.leadingBlank && !startsBlank
      let gap :=
        if joins then (if s.trailing.isEmpty then [' '] else []) ++ s.trailing
        else s.leading ++ s.trailing
      let (content, c) := c.restOfLine
      let (leading, c) := c.readBreak
      match blockBreaks? (c.rest.length + 1) indent 0 c with
      | none => none
      | some (trailing, _, c) =>
        blockLines? literal indent bound
          ⟨content.reverse ++ gap.reverse ++ s.reversed, leading, trailing, startsBlank⟩ c

/-- A block scalar. `parent` is the indentation of the block around it; without an explicit
indentation the first line of content sets it. -/
def blockScalar? (literal : Bool) (parent : Int) (c : Cursor) : Option (String × Cursor) := do
  let (chomping, increment, c) ← blockHeader? (c.advance 1)
  let c := c.skipWhile isBlank
  let c := if c.isAt 0 '#' then c.restOfLine.2 else c
  if !c.isBreakOrEndAt 0 then none
  let c := c.skipBreak
  let fixed := if increment = 0 then 0 else (max parent 0).toNat + increment
  let (trailing, widest, c) ← blockBreaks? (c.rest.length + 1) fixed 0 c
  let indent := if fixed = 0 then max (max widest (parent + 1).toNat) 1 else fixed
  let (s, c) ← blockLines? literal indent (c.rest.length + 1) ⟨[], [], trailing, false⟩ c
  let tail := match chomping with
    | .strip => []
    | .clip => s.leading
    | .keep => s.leading ++ s.trailing
  pure (String.ofList (s.reversed.reverse ++ tail), c)

/-! ## Quoted scalars -/

/-- The character that a one-letter escape stands for. -/
def shortEscape? (c : Char) : Option Char :=
  match c with
  | '0' => some (Char.ofNat 0)
  | 'a' => some (Char.ofNat 7)
  | 'b' => some (Char.ofNat 8)
  | 't' => some '\t'
  | '\t' => some '\t'
  | 'n' => some '\n'
  | 'v' => some (Char.ofNat 0xB)
  | 'f' => some (Char.ofNat 0xC)
  | 'r' => some '\r'
  | 'e' => some (Char.ofNat 0x1B)
  | ' ' => some ' '
  | '"' => some '"'
  | '/' => some '/'
  | '\\' => some '\\'
  | 'N' => some (Char.ofNat 0x85)
  | '_' => some (Char.ofNat 0xA0)
  | 'L' => some (Char.ofNat 0x2028)
  | 'P' => some (Char.ofNat 0x2029)
  | _ => none

/-- The number of hexadecimal digits behind an escape letter. -/
def longEscape? (c : Char) : Option Nat :=
  match c with
  | 'x' => some 2
  | 'u' => some 4
  | 'U' => some 8
  | _ => none

/-- An escape, with the number of characters that it takes. -/
def escape? (c : Cursor) : Option (Char × Nat) := do
  let letter ← c.ahead? 1
  match shortEscape? letter with
  | some x => pure (x, 2)
  | none =>
    let count ← longEscape? letter
    let digits := (c.rest.drop 2).take count
    if digits.length < count then none
    let n ← hexNumber? digits
    if (0xD800 ≤ n ∧ n ≤ 0xDFFF) ∨ 0x10FFFF < n then none
    pure (Char.ofNat n, 2 + count)

/-- The blanks and line ends between two pieces of a flowing scalar. -/
structure Gap where
  /-- Blanks on one line. -/
  blanks : List Char
  /-- The first line end. -/
  leading : List Char
  /-- The line ends after it. -/
  trailing : List Char
  /-- Whether a line end was met. -/
  broken : Bool

namespace Gap

def none : Gap := ⟨[], [], [], false⟩

/-- The text that stands for the gap. -/
def text (g : Gap) : List Char :=
  if g.broken then folded g.leading g.trailing else g.blanks

/-- Adds the blanks and line ends at the cursor. In a plain scalar a tab to the left of the block's
indentation, after a line end, is an error; `edge` is that indentation. -/
def extend? (edge : Option Nat) : (bound : Nat) → Gap → Cursor → Option (Gap × Cursor)
  | 0, g, c => some (g, c)
  | bound + 1, g, c =>
    match c.ahead? 0 with
    | Option.none => some (g, c)
    | some x =>
      if isBlank x then
        let strays := match edge with
          | some indent => g.broken && x = '\t' && c.column < indent
          | Option.none => false
        if strays then Option.none
        else if g.broken then extend? edge bound g (c.advance 1)
        else extend? edge bound { g with blanks := g.blanks ++ [x] } (c.advance 1)
      else if isBreak x then
        let (text, c) := c.readBreak
        if g.broken then extend? edge bound { g with trailing := g.trailing ++ text } c
        else extend? edge bound { g with blanks := [], leading := text, broken := true } c
      else some (g, c)

end Gap

/-- The piece of a quoted scalar up to a blank, a line end or the closing quote. The last component
tells whether the piece ended with an escaped line end. -/
def quotedPiece? (single : Bool) : (bound : Nat) → (reversed : List Char) → Cursor →
    Option (List Char × Cursor × Bool)
  | 0, reversed, c => some (reversed, c, false)
  | bound + 1, reversed, c =>
    if c.isBlankOrEndAt 0 then some (reversed, c, false)
    else if single && c.isAt 0 '\'' && c.isAt 1 '\'' then
      quotedPiece? single bound ('\'' :: reversed) (c.advance 2)
    else if c.isAt 0 (if single then '\'' else '"') then some (reversed, c, false)
    else if !single && c.isAt 0 '\\' && c.isBreakAt 1 then
      some (reversed, (c.advance 1).skipBreak, true)
    else if !single && c.isAt 0 '\\' then
      match escape? c with
      | some (x, count) => quotedPiece? single bound (x :: reversed) (c.advance count)
      | none => none
    else
      match c.ahead? 0 with
      | some x => quotedPiece? single bound (x :: reversed) (c.advance 1)
      | none => some (reversed, c, false)

/-- A quoted scalar behind its opening quote. -/
def quotedFrom? (single : Bool) : (bound : Nat) → (reversed : List Char) → Cursor →
    Option (List Char × Cursor)
  | 0, _, _ => none
  | bound + 1, reversed, c =>
    if c.isDocumentMarker || c.atEnd then none
    else
      match quotedPiece? single (c.rest.length + 1) reversed c with
      | none => none
      | some (reversed, c, escapedBreak) =>
        -- An escaped line end never closes the scalar by itself: the next character decides.
        if c.isAt 0 (if single then '\'' else '"') then some (reversed.reverse, c.advance 1)
        else
          match Gap.extend? none (c.rest.length + 1) { Gap.none with broken := escapedBreak } c with
          | none => none
          | some (gap, c) => quotedFrom? single bound (gap.text.reverse ++ reversed) c

/-- A quoted scalar, in single or double quotes. -/
def quotedScalar? (single : Bool) (c : Cursor) : Option (String × Cursor) :=
  (quotedFrom? single (c.rest.length + 1) [] (c.advance 1)).map fun (cs, c) => (String.ofList cs, c)

/-! ## Plain scalars -/

/-- A piece of a plain scalar up to a blank, a line end or an indicator. -/
def plainPiece? (inFlow : Bool) : (bound : Nat) → (reversed : List Char) → Cursor →
    Option (List Char × Cursor)
  | 0, reversed, c => some (reversed, c)
  | bound + 1, reversed, c =>
    match c.ahead? 0 with
    | none => some (reversed, c)
    | some x =>
      if isBlank x || isBreak x then some (reversed, c)
      else if inFlow && x = ':' && c.testAt 1 (· ∈ [',', '?', '[', ']', '{', '}']) then none
      else if x = ':' && c.isBlankOrEndAt 1 then some (reversed, c)
      else if inFlow && x ∈ [',', '[', ']', '{', '}'] then some (reversed, c)
      else plainPiece? inFlow bound (x :: reversed) (c.advance 1)

/-- A plain scalar: its text, the cursor behind it and behind the blanks that follow, and whether
those blanks contain a line end. -/
def plainFrom? (inFlow : Bool) (indent : Nat) : (bound : Nat) → (reversed : List Char) → Gap →
    Cursor → Option (List Char × Cursor × Bool)
  | 0, _, _, _ => none
  | bound + 1, reversed, gap, c =>
    if c.isDocumentMarker || c.isAt 0 '#' then some (reversed.reverse, c, gap.broken)
    else
      match plainPiece? inFlow (c.rest.length + 1) [] c with
      | none => none
      | some (piece, after) =>
        let (reversed, gap) :=
          if piece.isEmpty then (reversed, gap)
          else (piece ++ gap.text.reverse ++ reversed, Gap.none)
        if !(after.isBlankAt 0 || after.isBreakAt 0) then some (reversed.reverse, after, gap.broken)
        else
          match Gap.extend? (some indent) (after.rest.length + 1) gap after with
          | none => none
          | some (gap, after) =>
            if !inFlow && after.column < indent then some (reversed.reverse, after, gap.broken)
            else plainFrom? inFlow indent bound reversed gap after

/-- A plain scalar inside a block of the given indentation. -/
def plainScalar? (inFlow : Bool) (parent : Int) (c : Cursor) : Option (String × Cursor × Bool) :=
  (plainFrom? inFlow (parent + 1).toNat (c.rest.length + 1) [] Gap.none c).map
    fun (cs, c, broken) => (String.ofList cs, c, broken)

end Lexeme

end PhasedInstall.Yaml
