import PhasedInstall.Fault
import PhasedInstall.Files.Path
import PhasedInstall.Table

/-!
# File systems

A file system is a tree and the directory that a program works in. A directory lists its entries in
any order, but no two of them by one name; that is part of what a file system is. Looking up a path
reports, as a file system would, whether something is missing, a file stands where a directory is
needed, or a name can be no name.
-/

set_option autoImplicit false

namespace PhasedInstall

/-- A file with its bytes, or a directory with its entries. -/
inductive FileTree where
  | file (bytes : ByteArray)
  | directory (entries : List (String × FileTree))
deriving Inhabited

namespace FileTree

/-- A directory without entries. -/
def empty : FileTree := .directory []

/-- No directory has two entries of one name. -/
inductive Proper : FileTree → Prop
  | file (bytes : ByteArray) : Proper (.file bytes)
  | directory {entries : List (String × FileTree)} :
    (Table.keys entries).Nodup → (∀ entry ∈ entries, Proper entry.2) → Proper (.directory entries)

theorem proper_empty : empty.Proper := .directory List.nodup_nil nofun

/-- The number of bytes that a name may have. -/
def nameLimit : Nat := 255

/-- The number of bytes that a path may have. -/
def pathLimit : Nat := 4095

/-- Takes steps from a node. `parents` holds the directories above it, innermost first. Nothing is
above the root, so a step up from there stays there. -/
def walk : (steps : List String) → (parents : List FileTree) → FileTree → Except FileFault FileTree
  | [], _, node => .ok node
  | step :: rest, parents, node =>
    match node with
    | .file _ => .error .notDirectory
    | .directory entries =>
      if nameLimit < step.utf8ByteSize then .error .nameTooLong
      else if step = "." then walk rest parents node
      else if step = ".." then
        match parents with
        | parent :: above => walk rest above parent
        | [] => walk rest [] node
      else
        match Table.get? step entries with
        | some child => walk rest (node :: parents) child
        | none => .error .notFound

/-- The text of a file's bytes. -/
def textOf (bytes : ByteArray) : Except FileFault String :=
  match String.fromUTF8? bytes with
  | some text => .ok text
  | none => .error .notText

/-- The entries of a directory; a file has none. -/
def entries : FileTree → List (String × FileTree)
  | .directory entries => entries
  | .file _ => []

/-- The entry of a name, or an empty directory. -/
def entryOrEmpty (name : String) (tree : FileTree) : FileTree :=
  (Table.get? name tree.entries).getD empty

/-- Changes the node below some directories, which are created on the way. Where there was none,
an empty directory is changed. -/
def alter (f : FileTree → FileTree) : (names : List String) → FileTree → FileTree
  | [], tree => f tree
  | name :: rest, tree =>
    .directory (Table.put name (alter f rest (tree.entryOrEmpty name)) tree.entries)

theorem Proper.entries {tree : FileTree} (proper : tree.Proper) :
    (Table.keys tree.entries).Nodup ∧ ∀ entry ∈ tree.entries, entry.2.Proper := by
  cases proper with
  | file bytes => exact ⟨List.nodup_nil, nofun⟩
  | directory nodup below => exact ⟨nodup, below⟩

theorem Proper.entryOrEmpty {tree : FileTree} (proper : tree.Proper) (name : String) :
    (tree.entryOrEmpty name).Proper := by
  unfold FileTree.entryOrEmpty
  cases found : Table.get? name tree.entries with
  | none => exact proper_empty
  | some node => exact proper.entries.2 (name, node) (Table.mem_of_get? found)

theorem Proper.alter {f : FileTree → FileTree} (keeps : ∀ tree, tree.Proper → (f tree).Proper)
    (names : List String) {tree : FileTree} (proper : tree.Proper) :
    (FileTree.alter f names tree).Proper := by
  induction names generalizing tree with
  | nil => exact keeps tree proper
  | cons name rest ih =>
    refine .directory (Table.nodup_keys_put proper.entries.1 _ _) fun entry mem => ?_
    rcases Table.mem_put mem with rfl | old
    · exact ih (proper.entryOrEmpty name)
    · exact proper.entries.2 entry old

end FileTree

/-- The files that a program finds. -/
structure FileSystem where
  root : FileTree
  /-- The names that lead from the root to the directory that the program works in. -/
  working : List String := []
  proper : root.Proper

namespace FileSystem

/-- A file system without files, the program at its root. -/
def empty : FileSystem where
  root := .empty
  proper := FileTree.proper_empty

/-- The node at a path. A path that is not absolute begins at the working directory. -/
def find (fs : FileSystem) (p : Path) : Except FileFault FileTree :=
  if p.text.toList.contains (Char.ofNat 0) then .error .nameWithNul
  else if FileTree.pathLimit < p.text.utf8ByteSize then .error .nameTooLong
  else if p.text.isEmpty then .error .notFound
  else fs.root.walk ((if p.isAbsolute then [] else fs.working) ++ p.steps) []

/-- Whether anything is at a path. -/
def contains (fs : FileSystem) (p : Path) : Bool :=
  match fs.find p with
  | .ok _ => true
  | .error _ => false

/-- Reads a file as text. -/
def read (fs : FileSystem) (p : Path) : Except FileFault String := do
  match ← fs.find p with
  | .file bytes => FileTree.textOf bytes
  | .directory _ => .error .isDirectory

/-- Puts a file into the working directory, below some directories of it. -/
def insertFile (bytes : ByteArray) (names : List String) (fs : FileSystem) : FileSystem where
  root := fs.root.alter (fun _ => .file bytes) (fs.working ++ names)
  working := fs.working
  proper := fs.proper.alter (fun _ _ => .file bytes) _

/-- Makes sure that the working directory has a directory. One that is there keeps its entries. -/
def insertDirectory (names : List String) (fs : FileSystem) : FileSystem where
  root := fs.root.alter (fun tree => .directory tree.entries) (fs.working ++ names)
  working := fs.working
  proper := fs.proper.alter (fun _ proper => .directory proper.entries.1 proper.entries.2) _

end FileSystem

end PhasedInstall
