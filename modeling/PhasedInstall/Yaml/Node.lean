import PhasedInstall.Yaml.Token

/-!
# Nodes: the tree that the tokens of a document describe

A node is a scalar, a sequence, a mapping, or a reference to an anchored node. References stay in
the tree; the document lists which node each one stands for. An anchor's number is the count of
distinct names known when it is met, so a name that is given again takes the number that the next
new name will also get. The node met last under a number is the one that its references mean.
-/

set_option autoImplicit false

namespace PhasedInstall.Yaml

/-- A node of a document. Tags are resolved; `plain` marks scalars without quotes. -/
inductive Node where
  | scalar (tag : Option String) (text : String) (plain : Bool)
  | sequence (tag : Option String) (items : List Node)
  | mapping (tag : Option String) (entries : List (Node × Node))
  | reference (number : Nat)

namespace Node

mutual

/-- The number of events of a node: one for each scalar and reference, two for each collection. -/
def events : Node → Nat
  | .scalar .. => 1
  | .reference _ => 1
  | .sequence _ items => 2 + eventsOfItems items
  | .mapping _ entries => 2 + eventsOfEntries entries

def eventsOfItems : List Node → Nat
  | [] => 0
  | item :: rest => events item + eventsOfItems rest

def eventsOfEntries : List (Node × Node) → Nat
  | [] => 0
  | (key, value) :: rest => events key + events value + eventsOfEntries rest

end

end Node

/-- A document: its root, and the node that each anchor number stands for. -/
structure Document where
  root : Node
  anchored : List (Nat × Node)

/-- What has been read of a document. -/
structure Composer where
  tokens : List Token
  /-- Tag handles and what they abbreviate. -/
  handles : List (String × String)
  /-- The anchor names, each with its number. -/
  names : List (String × Nat)
  /-- For each number, how many anchors had been met before the latest anchor that took it. -/
  owners : List (Nat × Nat)
  /-- The finished anchored nodes, by the count of anchors met before each. -/
  finished : List (Nat × Node)
  /-- The number of anchors met. -/
  met : Nat

/-- A reader of part of a document. -/
abbrev Compose := StateT Composer Option

namespace Compose

def fail {α : Type} : Compose α := StateT.lift none

/-- The next token. Without one the text had an error here. -/
def peek : Compose Token := do
  match (← get).tokens with
  | t :: _ => pure t
  | [] => fail

def skip : Compose Unit := modify fun s => { s with tokens := s.tokens.drop 1 }

/-- A value for a key. An old value of the key is replaced. -/
def assign {α β : Type} [BEq α] (key : α) (value : β) : List (α × β) → List (α × β)
  | [] => [(key, value)]
  | (k, v) :: rest => if k == key then (k, value) :: rest else (k, v) :: assign key value rest

/-- Registers an anchor where its node begins, and answers the count of anchors before it. -/
def register (name : String) : Compose Nat := do
  let s ← get
  let number := s.names.length
  set { s with
    names := assign name number s.names
    owners := assign number s.met s.owners
    met := s.met + 1 }
  pure s.met

/-- Records the node of an anchor that was met. -/
def finish (mark : Option Nat) (node : Node) : Compose Node := do
  match mark with
  | some n => modify fun s => { s with finished := (n, node) :: s.finished }
  | none => pure ()
  pure node

/-- The full tag of a handle and a suffix. -/
def resolveTag (handle suffix : String) : Compose String := do
  if handle.isEmpty then pure suffix
  else match (← get).handles.lookup handle with
    | some leader => pure (leader ++ suffix)
    | none => fail

/-- The anchor and the tag before a node, in either order. -/
def properties : Compose (Option String × Option String) := do
  match ← peek with
  | .anchor name =>
    skip
    match ← peek with
    | .tag handle suffix => skip; pure (some name, some (← resolveTag handle suffix))
    | _ => pure (some name, none)
  | .tag handle suffix =>
    skip
    match ← peek with
    | .anchor name => skip; pure (some name, some (← resolveTag handle suffix))
    | _ => pure (none, some (← resolveTag handle suffix))
  | _ => pure (none, none)

/-- The node that stands where nothing is written. -/
def empty : Node := .scalar none "" true

mutual

/-- A node. `block` allows block collections, `indentless` a sequence at its parent's column. -/
def node : (bound : Nat) → (block indentless : Bool) → Compose Node
  | 0, _, _ => fail
  | bound + 1, block, indentless => do
    match ← peek with
    | .reference name =>
      skip
      match (← get).names.lookup name with
      | some number => pure (.reference number)
      | none => fail
    | _ =>
      let (anchor, tag) ← properties
      let mark ← match anchor with
        | some name => some <$> register name
        | none => pure none
      match ← peek with
      | .blockEntry =>
        if indentless then finish mark (.sequence tag (← indentlessItems bound))
        else if anchor.isSome || tag.isSome then finish mark (.scalar tag "" true)
        else fail
      | .scalar text plain => skip; finish mark (.scalar tag text plain)
      | .flowSequenceStart => skip; finish mark (.sequence tag (← flowItems bound true))
      | .flowMappingStart => skip; finish mark (.mapping tag (← flowEntries bound true))
      | .blockSequenceStart =>
        if block then do skip; finish mark (.sequence tag (← blockItems bound))
        else if anchor.isSome || tag.isSome then finish mark (.scalar tag "" true)
        else fail
      | .blockMappingStart =>
        if block then do skip; finish mark (.mapping tag (← blockEntries bound))
        else if anchor.isSome || tag.isSome then finish mark (.scalar tag "" true)
        else fail
      | _ =>
        if anchor.isSome || tag.isSome then finish mark (.scalar tag "" true) else fail

/-- The items of a block sequence behind its start. -/
def blockItems : (bound : Nat) → Compose (List Node)
  | 0 => fail
  | bound + 1 => do
    match ← peek with
    | .blockEntry =>
      skip
      let item ← match ← peek with
        | .blockEntry | .blockEnd => pure empty
        | _ => node bound true false
      pure (item :: (← blockItems bound))
    | .blockEnd => skip; pure []
    | _ => fail

/-- The items of a sequence at the column of the mapping around it. It ends where no item
follows. -/
def indentlessItems : (bound : Nat) → Compose (List Node)
  | 0 => fail
  | bound + 1 => do
    match ← peek with
    | .blockEntry =>
      skip
      let item ← match ← peek with
        | .blockEntry | .key | .value | .blockEnd => pure empty
        | _ => node bound true false
      pure (item :: (← indentlessItems bound))
    | _ => pure []

/-- The entries of a block mapping behind its start. -/
def blockEntries : (bound : Nat) → Compose (List (Node × Node))
  | 0 => fail
  | bound + 1 => do
    match ← peek with
    | .key =>
      skip
      let key ← match ← peek with
        | .key | .value | .blockEnd => pure empty
        | _ => node bound true true
      let value ← match ← peek with
        | .value =>
          skip
          match ← peek with
          | .key | .value | .blockEnd => pure empty
          | _ => node bound true true
        | _ => pure empty
      pure ((key, value) :: (← blockEntries bound))
    | .blockEnd => skip; pure []
    | _ => fail

/-- The items of a flow sequence. An item with a key is a mapping of one entry. Where such a key
is empty, the token after it counts as read. -/
def flowItems : (bound : Nat) → (first : Bool) → Compose (List Node)
  | 0, _ => fail
  | bound + 1, first => do
    match ← peek with
    | .flowSequenceEnd => skip; pure []
    | t =>
      if !first then
        if t = .flowEntry then skip else fail
      match ← peek with
      | .key =>
        skip
        let key ← match ← peek with
          | .value | .flowEntry | .flowSequenceEnd => do skip; pure empty
          | _ => node bound false false
        let value ← match ← peek with
          | .value =>
            skip
            match ← peek with
            | .flowEntry | .flowSequenceEnd => pure empty
            | _ => node bound false false
          | _ => pure empty
        pure (.mapping none [(key, value)] :: (← flowItems bound false))
      | .flowSequenceEnd => skip; pure []
      | _ =>
        let item ← node bound false false
        pure (item :: (← flowItems bound false))

/-- The entries of a flow mapping. An entry without key token has an empty value. -/
def flowEntries : (bound : Nat) → (first : Bool) → Compose (List (Node × Node))
  | 0, _ => fail
  | bound + 1, first => do
    match ← peek with
    | .flowMappingEnd => skip; pure []
    | t =>
      if !first then
        if t = .flowEntry then skip else fail
      match ← peek with
      | .key =>
        skip
        let key ← match ← peek with
          | .value | .flowEntry | .flowMappingEnd => pure empty
          | _ => node bound false false
        let value ← match ← peek with
          | .value =>
            skip
            match ← peek with
            | .flowEntry | .flowMappingEnd => pure empty
            | _ => node bound false false
          | _ => pure empty
        pure ((key, value) :: (← flowEntries bound false))
      | .flowMappingEnd => skip; pure []
      | _ =>
        let key ← node bound false false
        pure ((key, empty) :: (← flowEntries bound false))

end

/-- The directives before a document: at most one version, which must be 1.1 or 1.2, and each tag
handle at most once. -/
def directives : (bound : Nat) → (versions : Nat) → Compose Unit
  | 0, _ => fail
  | bound + 1, versions => do
    match ← peek with
    | .version major minor =>
      if versions ≠ 0 || major ≠ 1 || (minor ≠ 1 && minor ≠ 2) then fail
      skip
      directives bound (versions + 1)
    | .tagDirective handle leader =>
      let s ← get
      if (s.handles.lookup handle).isSome then fail
      set { s with handles := s.handles ++ [(handle, leader)] }
      skip
      directives bound versions
    | _ => modify fun s => { s with handles := s.handles ++ defaultHandles }
where
  defaultHandles : List (String × String) := [("!", "!"), ("!!", "tag:yaml.org,2002:")]

/-- The end markers between documents. -/
def endMarkers : (bound : Nat) → Compose Unit
  | 0 => fail
  | bound + 1 => do
    match ← peek with
    | .documentEnd => skip; endMarkers bound
    | _ => pure ()

/-- The next document, or nothing at the end of the stream. Only the first document may begin
without a marker. -/
def document? (first : Bool) (bound : Nat) : Compose (Option Node) := do
  if !first then endMarkers bound
  modify fun s => { s with handles := [] }
  let implicitRoot : Compose (Option Node) := do
    directives bound 0
    some <$> node bound true false
  let explicitRoot : Compose (Option Node) := do
    directives bound 0
    match ← peek with
    | .documentStart => skip
    | _ => fail
    match ← peek with
    | .version .. | .tagDirective .. | .documentStart | .documentEnd | .streamEnd =>
      pure (some empty)
    | _ => some <$> node bound true false
  let root ← match ← peek with
    | .streamEnd => pure none
    | .version .. | .tagDirective .. | .documentStart => explicitRoot
    | _ => if first then implicitRoot else explicitRoot
  if root.isSome then
    match ← peek with
    | .documentEnd => skip
    | _ => pure ()
  pure root

end Compose

/-- One reading of a stream of documents: each document, or the error that ends the stream. -/
inductive Reading where
  | document (d : Document)
  | broken

/-- The document read by a composer: each number stands for the finished node of its owner. -/
def Composer.document (s : Composer) (root : Node) : Document where
  root := root
  anchored := s.owners.filterMap fun (number, owner) =>
    (s.finished.lookup owner).map fun node => (number, node)

/-- The documents of a token stream. -/
def documents : (bound : Nat) → (first : Bool) → List Token → List Reading
  | 0, _, _ => [.broken]
  | bound + 1, first, tokens =>
    match (Compose.document? first (4 * tokens.length + 16)).run ⟨tokens, [], [], [], [], 0⟩ with
    | none => [.broken]
    | some (none, _) => []
    | some (some root, s) => .document (s.document root) :: documents bound false s.tokens

end PhasedInstall.Yaml
