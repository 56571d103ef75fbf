import Mathlib.Data.List.Forall2
import Mathlib.Data.List.Nodup
import PhasedInstall.Files.Tree

/-!
# What a tree holds, and how it is listed

A directory lists its entries in some order, and a file system may choose it anew. `Relisted` is the
closure of one such choice, anywhere in the tree. What the tree holds (`Holds`) is stated through
membership only, so it cannot depend on an order; that a path leads to the same place after all is
true because no directory has two entries of one name, which is part of what a file system is
(`FileTree.Proper`).
-/

set_option autoImplicit false

namespace PhasedInstall

namespace FileTree

/-- A path of names leads from a node down to a file. -/
inductive Holds : FileTree → (names : List String) → (bytes : ByteArray) → Prop
  | file (bytes : ByteArray) : Holds (.file bytes) [] bytes
  | entry {entries : List (String × FileTree)} {name : String} {node : FileTree}
    {names : List String} {bytes : ByteArray} :
    (name, node) ∈ entries → Holds node names bytes →
    Holds (.directory entries) (name :: names) bytes

/-- One tree, with the entries of its directories in another order. -/
inductive Relisted : FileTree → FileTree → Prop
  | refl (tree : FileTree) : Relisted tree tree
  | reorder {entries entries' : List (String × FileTree)} :
    entries.Perm entries' → Relisted (.directory entries) (.directory entries')
  | inside {name : String} {node node' : FileTree} (before after : List (String × FileTree)) :
    Relisted node node' → Relisted (.directory (before ++ (name, node) :: after))
      (.directory (before ++ (name, node') :: after))
  | trans {tree tree' tree'' : FileTree} :
    Relisted tree tree' → Relisted tree' tree'' → Relisted tree tree''

variable {tree tree' node node' : FileTree} {names : List String} {bytes : ByteArray}
  {name : String}

namespace Relisted

theorem symm (h : Relisted tree tree') : Relisted tree' tree := by
  induction h with
  | refl tree => exact .refl tree
  | reorder perm => exact .reorder perm.symm
  | inside before after _ ih => exact .inside before after ih
  | trans _ _ ih ih' => exact ih'.trans ih

theorem proper (h : Relisted tree tree') (proper : tree.Proper) : tree'.Proper := by
  induction h with
  | refl => exact proper
  | reorder perm =>
    cases proper with
    | directory nodup below =>
      refine .directory ((perm.map Prod.fst).nodup_iff.1 nodup) ?_
      intro entry mem
      exact below entry (perm.mem_iff.2 mem)
  | @inside name node node' before after _ ih =>
    cases proper with
    | directory nodup below =>
      have same : Table.keys (before ++ (name, node') :: after) =
          Table.keys (before ++ (name, node) :: after) := by simp [Table.keys]
      refine .directory (same ▸ nodup) ?_
      intro entry mem
      simp only [List.mem_append, List.mem_cons] at mem below
      rcases mem with mem | rfl | mem
      · exact below entry (Or.inl mem)
      · exact ih (below (name, node) (Or.inr (Or.inl rfl)))
      · exact below entry (Or.inr (Or.inr mem))
  | trans _ _ ih ih' => exact ih' (ih proper)

theorem holds (h : Relisted tree tree') (holds : tree.Holds names bytes) :
    tree'.Holds names bytes := by
  induction h generalizing names with
  | refl => exact holds
  | reorder perm =>
    cases holds with
    | entry mem below => exact .entry (perm.mem_iff.1 mem) below
  | inside before after _ ih =>
    cases holds with
    | entry mem below =>
      simp only [List.mem_append, List.mem_cons] at mem
      rcases mem with mem | same | mem
      · exact .entry (by simp [mem]) below
      · cases same
        exact .entry (by simp) (ih below)
      · exact .entry (by simp [mem]) below
  | trans _ _ ih ih' => exact ih' (ih holds)

theorem holds_iff (h : Relisted tree tree') : tree'.Holds names bytes ↔ tree.Holds names bytes :=
  ⟨h.symm.holds, h.holds⟩

/-- A file has no entries to list. -/
theorem file_eq (h : Relisted (.file bytes) tree) : tree = .file bytes := by
  generalize same : FileTree.file bytes = file at h
  induction h with
  | refl => rfl
  | reorder => cases same
  | inside => cases same
  | trans _ _ ih ih' => rw [ih' (same.trans (ih same).symm), ih same]

end Relisted

/-! ## Finding an entry -/

/-- Where names do not repeat, an entry is found wherever it stands. -/
theorem Proper.get?_iff {entries : List (String × FileTree)}
    (proper : Proper (.directory entries)) :
    Table.get? name entries = some node ↔ (name, node) ∈ entries := by
  cases proper with
  | directory nodup _ => exact ⟨Table.mem_of_get?, Table.get?_of_mem nodup⟩

theorem Proper.child {entries : List (String × FileTree)} (proper : Proper (.directory entries))
    (found : Table.get? name entries = some node) : node.Proper := by
  cases proper with
  | directory _ below => exact below (name, node) (Table.mem_of_get? found)

/-- The entry of a name is the same one in both listings. -/
theorem Relisted.child (h : Relisted tree tree') (proper : tree.Proper)
    (found : Table.get? name tree.entries = some node) :
    ∃ node', Table.get? name tree'.entries = some node' ∧ Relisted node node' := by
  induction h generalizing node with
  | refl => exact ⟨node, found, .refl node⟩
  | reorder perm =>
    have proper' := (Relisted.reorder perm).proper proper
    exact ⟨node, proper'.get?_iff.2 (perm.mem_iff.1 (proper.get?_iff.1 found)), .refl node⟩
  | @inside other inner inner' before after inside _ =>
    have proper' := (Relisted.inside before after inside).proper proper
    have mem := proper.get?_iff.1 found
    simp only [List.mem_append, List.mem_cons] at mem
    rcases mem with mem | same | mem
    · exact ⟨node, proper'.get?_iff.2 (by simp [mem]), .refl node⟩
    · cases same
      exact ⟨inner', proper'.get?_iff.2 (by simp), inside⟩
    · exact ⟨node, proper'.get?_iff.2 (by simp [mem]), .refl node⟩
  | trans first _ ih ih' =>
    obtain ⟨node₁, found, relisted⟩ := ih proper found
    obtain ⟨node₂, found, relisted'⟩ := ih' (first.proper proper) found
    exact ⟨node₂, found, relisted.trans relisted'⟩

/-- Two ways down have come to one node, or to nothing for one reason. -/
inductive SameEnd : Except FileFault FileTree → Except FileFault FileTree → Prop
  | found {node node' : FileTree} :
    node.Proper → Relisted node node' → SameEnd (.ok node) (.ok node')
  | missed (fault : FileFault) : SameEnd (.error fault) (.error fault)

theorem walk_relisted {steps : List String} {parents parents' : List FileTree}
    (above : List.Forall₂ (fun t t' => t.Proper ∧ Relisted t t') parents parents')
    (proper : node.Proper) (h : Relisted node node') :
    SameEnd (walk steps parents node) (walk steps parents' node') := by
  induction steps generalizing node node' parents parents' with
  | nil => exact .found proper h
  | cons step rest ih =>
    cases node with
    | file bytes =>
      rw [h.file_eq]
      exact .missed .notDirectory
    | directory entries =>
      cases node' with
      | file bytes =>
        have same := h.symm.file_eq
        cases same
      | directory entries' =>
        unfold walk
        by_cases long : nameLimit < step.utf8ByteSize
        · simp only [if_pos long]
          exact .missed .nameTooLong
        · by_cases dot : step = "."
          · simp only [if_neg long, if_pos dot]
            exact ih above proper h
          · by_cases up : step = ".."
            · simp only [if_neg long, if_neg dot, if_pos up]
              cases above with
              | nil => exact ih .nil proper h
              | cons parent above => exact ih above parent.1 parent.2
            · simp only [if_neg long, if_neg dot, if_neg up]
              cases found : Table.get? step entries with
              | some child =>
                obtain ⟨child', found', relisted⟩ := h.child proper found
                have found' : Table.get? step entries' = some child' := found'
                rw [found']
                exact ih (.cons ⟨proper, h⟩ above) (proper.child found) relisted
              | none =>
                cases found' : Table.get? step entries' with
                | none => exact .missed .notFound
                | some child' =>
                  obtain ⟨child, found'', -⟩ := h.symm.child (h.proper proper) found'
                  have found'' : Table.get? step entries = some child := found''
                  rw [found] at found''
                  cases found''

end FileTree

namespace FileSystem

open FileTree (SameEnd Relisted)

variable {fs fs' : FileSystem} {p : Path} {node : FileTree}

/-- The way to a node: from the root if the path is absolute, else from where the program works. -/
theorem find_of_steps (names : List String)
    (valid : p.text.toList.contains (Char.ofNat 0) = false ∧
      p.text.utf8ByteSize ≤ FileTree.pathLimit ∧ p.text.isEmpty = false)
    (steps : (if p.isAbsolute then [] else fs.working) ++ p.steps = names) :
    fs.find p = fs.root.walk names [] := by
  obtain ⟨noNul, short, nonempty⟩ := valid
  unfold find
  simp only [noNul, nonempty, Nat.not_lt.2 short, steps, Bool.false_eq_true, if_false]

/-- **A path leads to the same place, however the directories are listed.** -/
theorem find_relisted (h : Relisted fs.root fs'.root) (working : fs'.working = fs.working)
    (p : Path) : SameEnd (fs.find p) (fs'.find p) := by
  unfold find
  rw [working]
  split
  · exact .missed .nameWithNul
  · split
    · exact .missed .nameTooLong
    · split
      · exact .missed .notFound
      · exact FileTree.walk_relisted .nil fs.proper h

theorem proper_of_found (found : fs.find p = .ok node) : node.Proper := by
  have ends := find_relisted (.refl fs.root) rfl p
  rw [found] at ends
  cases ends with
  | found proper _ => exact proper

theorem find_directory_relisted (h : Relisted fs.root fs'.root) (working : fs'.working = fs.working)
    {entries : List (String × FileTree)} (found : fs.find p = .ok (.directory entries)) :
    ∃ entries', fs'.find p = .ok (.directory entries') ∧
      Relisted (.directory entries) (.directory entries') := by
  have ends := find_relisted h working p
  rw [found] at ends
  generalize found' : fs'.find p = outcome at ends
  cases ends with
  | @found _ node' _ relisted =>
    cases node' with
    | file bytes => cases relisted.symm.file_eq
    | directory entries' => exact ⟨entries', rfl, relisted⟩

theorem contains_iff : fs.contains p = true ↔ ∃ node, fs.find p = .ok node := by
  unfold contains
  cases fs.find p <;> simp

/-- A file system with some files, at paths of names from its root. -/
def holding (working : List String) (files : List (List String × String)) : FileSystem :=
  let fs := files.foldl (fun (fs : FileSystem) file => fs.insertFile file.2.toUTF8 file.1) empty
  { fs with working := working }

end FileSystem

end PhasedInstall
