import Mathlib.Data.List.Lex
import Mathlib.Data.List.Nodup
import Mathlib.Data.String.Basic
import PhasedInstall.Proofs.Files.Listing
import PhasedInstall.Proofs.Manifest.Sources

/-!
# Loading a directory

A directory is loaded file by file, in the order of paths. Which files these are is a question about
what the tree holds, and `Enumerates` asks it without going through the tree: the list has exactly
the manifest files, in strictly ascending order. A list is determined by that, so the order in which
directories list their entries plays no part.

What loading comes to is said in the same way. A path has `Contents`, the documents of the files
that it stands for, or it `Fails`, because nothing is there or because of the first file that has
none.
-/

set_option autoImplicit false

namespace PhasedInstall

/-- The documents of a manifest as they are written. -/
def Manifest.texts (m : Manifest) : List String := m.documents.map fun d => d.value.compact

namespace Source

open FileTree (Holds Proper Relisted)

variable {recursive : Bool} {entries entries' : List (String × FileTree)} {name : String}
  {node : FileTree} {names : List String} {bytes : ByteArray}

/-! ## Which files -/

/-- The extension of a file's name is that of a manifest. -/
def HasManifestName (names : List String) : Prop :=
  ∃ name ∈ names.getLast?, ∃ extension ∈ ["yaml", "yml", "json"],
    Path.extension? name = some extension

/-- A path of names below a directory leads to a file that belongs to it. Unless the directory is
read recursively, its files are those directly in it. -/
def Belongs (recursive : Bool) (names : List String) : Prop :=
  HasManifestName names ∧ (recursive = true ∨ names.length = 1)

/-- The manifest files below a directory, in their order. -/
structure Enumerates (recursive : Bool) (directory : FileTree)
    (files : List (List String × ByteArray)) : Prop where
  /-- They are exactly the files that belong to the directory. -/
  complete : ∀ names bytes, (names, bytes) ∈ files ↔
    directory.Holds names bytes ∧ Belongs recursive names
  /-- They stand in the order of their paths, compared name by name. In particular none is there
  twice. -/
  ascending : files.Pairwise fun file file' => file.1 < file'.1

theorem isManifestFile_iff :
    isManifestFile name = true ↔
      ∃ extension ∈ ["yaml", "yml", "json"], Path.extension? name = some extension := by
  unfold isManifestFile
  cases Path.extension? name with
  | none => simp
  | some e => simp [or_assoc]

theorem belongs_singleton : Belongs recursive [name] ↔ isManifestFile name = true := by
  rw [isManifestFile_iff]
  simp [Belongs, HasManifestName]

/-- What lies deeper belongs to a directory that is read recursively. -/
theorem belongs_cons_cons {next : String} : Belongs recursive (name :: next :: names) ↔
    recursive = true ∧ Belongs recursive (next :: names) := by
  have last : HasManifestName (name :: next :: names) ↔ HasManifestName (next :: names) := by
    rw [HasManifestName, HasManifestName, List.getLast?_cons_cons]
  have deep : (name :: next :: names).length ≠ 1 := by simp
  simp only [Belongs, last, deep, or_false]
  exact ⟨fun h => ⟨h.2, h.1, Or.inl h.2⟩, fun h => ⟨h.2.1, h.1⟩⟩

theorem collect_eq_flatMap (recursive : Bool) (entries : List (String × FileTree)) :
    collect recursive entries = entries.flatMap fun e => collectNode recursive e.1 e.2 := by
  induction entries with
  | nil => rfl
  | cons entry rest ih => rw [collect, ih, List.flatMap_cons]

/-- What is collected at an entry is what belongs to the directory and is reached through it. -/
theorem mem_collectNode_iff : (names, bytes) ∈ collectNode recursive name node ↔
    ∃ rest, names = name :: rest ∧ node.Holds rest bytes ∧ Belongs recursive names := by
  induction names generalizing name node with
  | nil =>
    cases node with
    | file content => simp [collectNode]
    | directory entries => simp [collectNode]
  | cons first names ih =>
    cases node with
    | file content =>
      rw [collectNode]
      constructor
      · intro mem
        split at mem
        · rename_i manifest
          cases List.mem_singleton.1 mem
          exact ⟨[], rfl, .file _, belongs_singleton.2 manifest⟩
        · cases mem
      · rintro ⟨rest, same, holds, belongs⟩
        cases holds
        cases same
        rw [if_pos (belongs_singleton.1 belongs)]
        exact List.mem_singleton_self _
    | directory entries =>
      rw [collectNode, collect_eq_flatMap]
      constructor
      · intro mem
        split at mem
        · rename_i deep
          obtain ⟨⟨below, content⟩, mem, same⟩ := List.mem_map.1 mem
          cases same
          obtain ⟨entry, among, mem⟩ := List.mem_flatMap.1 mem
          obtain ⟨rest, rfl, holds, belongs⟩ := ih.1 mem
          exact ⟨_, rfl, .entry among holds, belongs_cons_cons.2 ⟨deep, belongs⟩⟩
        · cases mem
      · rintro ⟨rest, same, holds, belongs⟩
        cases same
        cases holds with
        | @entry _ next child below _ among holds =>
          obtain ⟨deep, belongs⟩ := belongs_cons_cons.1 belongs
          rw [if_pos deep]
          refine List.mem_map.2 ⟨(next :: below, bytes), ?_, rfl⟩
          refine List.mem_flatMap.2 ⟨(next, child), among, ?_⟩
          exact ih.2 ⟨below, rfl, holds, belongs⟩

theorem mem_collect_iff : (names, bytes) ∈ collect recursive entries ↔
    (FileTree.directory entries).Holds names bytes ∧ Belongs recursive names := by
  rw [collect_eq_flatMap, List.mem_flatMap]
  constructor
  · rintro ⟨entry, among, mem⟩
    obtain ⟨rest, rfl, holds, belongs⟩ := mem_collectNode_iff.1 mem
    exact ⟨.entry among holds, belongs⟩
  · rintro ⟨holds, belongs⟩
    cases holds with
    | entry among holds => exact ⟨_, among, mem_collectNode_iff.2 ⟨_, rfl, holds, belongs⟩⟩

/-- Every collected path begins with the name of its entry. -/
theorem exists_of_mem_paths (mem : names ∈ (collectNode recursive name node).map Prod.fst) :
    ∃ rest, names = name :: rest := by
  obtain ⟨⟨_, bytes⟩, found, rfl⟩ := List.mem_map.1 mem
  obtain ⟨rest, same, -⟩ := mem_collectNode_iff.1 found
  exact ⟨rest, same⟩

theorem nodup_paths_collect (nodup : (Table.keys entries).Nodup)
    (below : ∀ entry ∈ entries, ((collectNode recursive entry.1 entry.2).map Prod.fst).Nodup) :
    ((collect recursive entries).map Prod.fst).Nodup := by
  rw [collect_eq_flatMap, List.map_flatMap, List.nodup_flatMap]
  refine ⟨below, ?_⟩
  refine (List.pairwise_map.1 nodup).imp fun {entry entry'} other => ?_
  intro names mem mem'
  obtain ⟨rest, same⟩ := exists_of_mem_paths mem
  obtain ⟨rest', same'⟩ := exists_of_mem_paths mem'
  rw [same] at same'
  exact other (List.cons.inj same').1

theorem nodup_paths_collectNode (proper : node.Proper) (name : String) :
    ((collectNode recursive name node).map Prod.fst).Nodup := by
  induction proper generalizing name with
  | file bytes =>
    rw [collectNode]
    split <;> simp
  | directory nodup _ ih =>
    rw [collectNode]
    split
    · have paths := nodup_paths_collect nodup fun entry mem => ih entry mem entry.1
      have prefixed := paths.map (List.cons_injective (a := name))
      simpa [Function.comp_def] using prefixed
    · exact List.nodup_nil

theorem paths_nodup (proper : (FileTree.directory entries).Proper) (recursive : Bool) :
    ((collect recursive entries).map Prod.fst).Nodup := by
  cases proper with
  | directory nodup below =>
    exact nodup_paths_collect nodup fun entry mem => nodup_paths_collectNode (below entry mem) _

/-! ## In which order -/

theorem pathLE_iff {a b : List String} : pathLE a b = true ↔ ¬ b < a := by
  induction a generalizing b with
  | nil => simp [pathLE]
  | cons x a ih =>
    cases b with
    | nil => simp [pathLE]
    | cons y b =>
      rw [pathLE, List.cons_lt_cons_iff]
      by_cases same : x = y
      · simp [same, ih]
      · simp only [same, if_false, decide_eq_true_eq, Ne.symm same, false_and, or_false]
        exact ⟨fun before => not_lt_of_gt before, fun after => lt_of_le_of_ne (not_lt.1 after) same⟩

theorem enumerates_of_perm {files : List (List String × ByteArray)}
    (perm : files.Perm (collect recursive entries))
    (ascending : files.Pairwise fun file file' => file.1 < file'.1) :
    Enumerates recursive (.directory entries) files where
  complete names bytes := by
    rw [perm.mem_iff]
    exact mem_collect_iff
  ascending := ascending

/-- The files of a directory as they are loaded. -/
def sorted (recursive : Bool) (entries : List (String × FileTree)) :
    List (List String × ByteArray) :=
  (collect recursive entries).mergeSort fun a b => pathLE a.1 b.1

theorem sorted_enumerates (proper : (FileTree.directory entries).Proper) (recursive : Bool) :
    Enumerates recursive (.directory entries) (sorted recursive entries) := by
  have perm : (sorted recursive entries).Perm (collect recursive entries) :=
    List.mergeSort_perm _ _
  have ordered : (sorted recursive entries).Pairwise fun a b => pathLE a.1 b.1 = true := by
    apply List.pairwise_mergeSort
    · intro a b c
      simp only [pathLE_iff, not_lt]
      exact le_trans
    · intro a b
      simp only [Bool.or_eq_true, pathLE_iff, not_lt]
      exact le_total a.1 b.1
  have apart : (sorted recursive entries).Pairwise fun a b => a.1 ≠ b.1 :=
    List.pairwise_map.1 ((perm.map Prod.fst).nodup_iff.2 (paths_nodup proper recursive))
  refine enumerates_of_perm perm ((ordered.and apart).imp fun {file file'} both => ?_)
  exact lt_of_le_of_ne (not_lt.1 (pathLE_iff.1 both.1)) both.2

/-- There is one way only to enumerate what a directory holds. -/
theorem Enumerates.unique {directory directory' : FileTree}
    {files files' : List (List String × ByteArray)} (h : Enumerates recursive directory files)
    (h' : Enumerates recursive directory' files')
    (same : ∀ names bytes, directory'.Holds names bytes ↔ directory.Holds names bytes) :
    files' = files := by
  have mem : ∀ file, file ∈ files' ↔ file ∈ files := by
    rintro ⟨names, bytes⟩
    rw [h.complete, h'.complete, same]
  have nodup : files.Nodup := h.ascending.imp fun before same => by
    rw [same] at before
    exact lt_irrefl _ before
  have nodup' : files'.Nodup := h'.ascending.imp fun before same => by
    rw [same] at before
    exact lt_irrefl _ before
  refine List.Perm.eq_of_pairwise ?_ h'.ascending h.ascending
    ((List.perm_ext_iff_of_nodup nodup' nodup).2 mem)
  intro file file' _ _ before after
  exact absurd before (lt_asymm after)

/-! ## What is loaded -/

/-- The documents in a file. -/
def Gives (w : Wording) (bytes : ByteArray) (part : Manifest) : Prop :=
  ∃ text, FileTree.textOf bytes = .ok text ∧ Manifest.parse w text = .ok part

/-- A file can be read, but what it says is malformed. -/
def Malformed (w : Wording) (bytes : ByteArray) (fault : Fault) : Prop :=
  ∃ text, FileTree.textOf bytes = .ok text ∧ Manifest.parse w text = .error fault

/-- A file can be read. -/
def Readable (bytes : ByteArray) : Prop := ∃ text, FileTree.textOf bytes = .ok text

/-- Why the file at a place gives no documents. -/
inductive Spoilt (w : Wording) (place : Path) (bytes : ByteArray) : Fault → Prop
  | unreadable {cause : FileFault} :
    FileTree.textOf bytes = .error cause → Spoilt w place bytes (.file cause)
  | malformed {fault : Fault} :
    Malformed w bytes fault → Spoilt w place bytes (faultAt place.text fault)

/-- The file at a path of names below a directory. -/
def placed (directory : Path) (file : List String × ByteArray) : Path × ByteArray :=
  (file.1.foldl Path.join directory, file.2)

/-- The files that a path stands for: the file that is there, whatever its name is, or the manifest
files of the directory that is there. -/
inductive StandsFor (fs : FileSystem) (path : Path) (recursive : Bool) :
    List (Path × ByteArray) → Prop
  | file {bytes : ByteArray} :
    fs.find path = .ok (.file bytes) → StandsFor fs path recursive [(path, bytes)]
  | directory {entries : List (String × FileTree)} {files : List (List String × ByteArray)} :
    fs.find path = .ok (.directory entries) → Enumerates recursive (.directory entries) files →
    StandsFor fs path recursive (files.map (placed path))

/-- The documents at a path: those of its files, one file after the other. -/
def Contents (around : Surroundings) (path : Path) (recursive : Bool) (m : Manifest) : Prop :=
  ∃ files parts, StandsFor around.files path recursive files ∧
    List.Forall₂ (fun file part => Gives around.wording file.2 part) files parts ∧
    m.documents = parts.flatMap Manifest.documents

/-- Why there are no documents at a path. -/
inductive Fails (around : Surroundings) (path : Path) (recursive : Bool) : Fault → Prop
  | missing {cause : FileFault} :
    around.files.find path = .error cause → Fails around path recursive (.file cause)
  /-- Of the files that give no documents, the first one is named. -/
  | spoilt {before after : List (Path × ByteArray)} {place : Path} {bytes : ByteArray}
    {fault : Fault} : StandsFor around.files path recursive (before ++ (place, bytes) :: after) →
    (∀ file ∈ before, ∃ part, Gives around.wording file.2 part) →
    Spoilt around.wording place bytes fault → Fails around path recursive fault

variable {w : Wording} {around : Surroundings} {fs : FileSystem} {path place : Path}
  {files files' : List (Path × ByteArray)} {m part : Manifest} {fault : Fault}

theorem loadFile_eq_ok_iff : loadFile w (path, bytes) = .ok part ↔ Gives w bytes part := by
  unfold loadFile Gives
  cases FileTree.textOf bytes with
  | error cause => simp [bind, Except.bind]
  | ok text => simp [bind, Except.bind, parseAt_eq_ok_iff]

theorem loadFile_eq_error_iff :
    loadFile w (place, bytes) = .error fault ↔ Spoilt w place bytes fault := by
  unfold loadFile
  constructor
  · intro failed
    cases read : FileTree.textOf bytes with
    | error cause =>
      rw [read] at failed
      cases failed
      exact .unreadable read
    | ok text =>
      rw [read] at failed
      obtain ⟨cause, malformed, rfl⟩ := parseAt_eq_error_iff.1 failed
      exact .malformed ⟨text, read, malformed⟩
  · intro spoilt
    cases spoilt with
    | unreadable read =>
      rw [read]
      rfl
    | malformed malformed =>
      obtain ⟨text, read, malformed⟩ := malformed
      rw [read]
      exact parseAt_eq_error_iff.2 ⟨_, malformed, rfl⟩

/-- A path stands for one list of files at most. -/
theorem StandsFor.unique (h : StandsFor fs path recursive files)
    (h' : StandsFor fs path recursive files') : files' = files := by
  cases h with
  | file found =>
    cases h' with
    | file found' =>
      rw [found] at found'
      cases found'
      rfl
    | directory found' _ =>
      rw [found] at found'
      cases found'
  | directory found listed =>
    cases h' with
    | file found' =>
      rw [found] at found'
      cases found'
    | directory found' listed' =>
      rw [found] at found'
      cases found'
      rw [listed.unique listed' fun _ _ => Iff.rfl]

theorem files_of_directory (found : fs.find path = .ok (.directory entries)) (recursive : Bool) :
    Source.files fs path recursive = .ok ((sorted recursive entries).map (placed path)) := by
  unfold Source.files
  rw [found]
  rfl

theorem files_eq_ok_iff :
    Source.files fs path recursive = .ok files ↔ StandsFor fs path recursive files := by
  have sound {files : List (Path × ByteArray)} (ok : Source.files fs path recursive = .ok files) :
      StandsFor fs path recursive files := by
    cases found : fs.find path with
    | error cause => simp [Source.files, found] at ok
    | ok node =>
      cases node with
      | file bytes =>
        simp only [Source.files, found] at ok
        cases ok
        exact .file found
      | directory entries =>
        rw [files_of_directory found] at ok
        cases ok
        exact .directory found (sorted_enumerates (fs.proper_of_found found) recursive)
  refine ⟨sound, fun stands => ?_⟩
  have some_ : ∃ files, Source.files fs path recursive = .ok files := by
    unfold Source.files
    cases stands with
    | file found => exact ⟨_, by rw [found]⟩
    | directory found _ => exact ⟨_, by rw [found]⟩
  obtain ⟨files', ok⟩ := some_
  rw [ok, stands.unique (sound ok)]

theorem files_eq_error_iff : Source.files fs path recursive = .error fault ↔
    ∃ cause, fs.find path = .error cause ∧ fault = .file cause := by
  unfold Source.files
  rcases fs.find path with cause | bytes | entries <;> simp [eq_comm]

theorem load_filesAt : (filesAt path recursive).load around =
    Source.files around.files path recursive >>= loadEach (loadFile around.wording) := by
  rw [← funext (loadFiles_eq around.wording)]
  rfl

/-- **A path is loaded with the documents of the files that it stands for.** -/
theorem load_eq_ok_iff :
    (filesAt path recursive).load around = .ok m ↔ Contents around path recursive m := by
  rw [load_filesAt]
  constructor
  · intro loaded
    obtain ⟨files, listed, loaded⟩ := bind_eq_ok loaded
    obtain ⟨parts, given, documents⟩ := loadEach_eq_ok_iff.1 loaded
    exact ⟨files, parts, files_eq_ok_iff.1 listed, given.imp fun _ _ => loadFile_eq_ok_iff.1,
      documents⟩
  · rintro ⟨files, parts, listed, given, documents⟩
    rw [files_eq_ok_iff.2 listed]
    exact loadEach_eq_ok_iff.2 ⟨parts, given.imp fun _ _ => loadFile_eq_ok_iff.2, documents⟩

/-- **A path is not loaded if nothing is there, or for the first of its files that is spoilt.** -/
theorem load_eq_error_iff :
    (filesAt path recursive).load around = .error fault ↔ Fails around path recursive fault := by
  rw [load_filesAt]
  constructor
  · intro failed
    rcases bind_eq_error failed with failed | ⟨files, listed, failed⟩
    · obtain ⟨cause, missing, rfl⟩ := files_eq_error_iff.1 failed
      exact .missing missing
    · obtain ⟨before, ⟨place, bytes⟩, after, rfl, given, failed⟩ := loadEach_eq_error_iff.1 failed
      refine .spoilt (files_eq_ok_iff.1 listed) ?_ (loadFile_eq_error_iff.1 failed)
      intro file mem
      obtain ⟨part, loaded⟩ := given file mem
      exact ⟨part, loadFile_eq_ok_iff.1 loaded⟩
  · intro fails
    cases fails with
    | missing missing =>
      rw [files_eq_error_iff.2 ⟨_, missing, rfl⟩]
      rfl
    | @spoilt before after place bytes _ listed given spoilt =>
      rw [files_eq_ok_iff.2 listed]
      refine loadEach_eq_error_iff.2
        ⟨before, (place, bytes), after, rfl, ?_, loadFile_eq_error_iff.2 spoilt⟩
      intro file mem
      obtain ⟨part, gives⟩ := given file mem
      exact ⟨part, loadFile_eq_ok_iff.2 gives⟩

/-- Where there are documents nothing fails. -/
theorem Contents.not_fails (contents : Contents around path recursive m) :
    ¬ Fails around path recursive fault := by
  intro fails
  have loaded := load_eq_ok_iff.2 contents
  rw [load_eq_error_iff.2 fails] at loaded
  cases loaded

theorem load_of_standsFor (stands : StandsFor around.files path recursive files) :
    (filesAt path recursive).load around = loadEach (loadFile around.wording) files := by
  rw [load_filesAt, files_eq_ok_iff.2 stands]
  rfl

/-- A file that can be read has documents or is malformed. -/
theorem Readable.cases (readable : Readable bytes) :
    (∃ part, Gives w bytes part) ∨ ∃ fault, Malformed w bytes fault := by
  obtain ⟨text, read⟩ := readable
  cases parsed : Manifest.parse w text with
  | ok part => exact Or.inl ⟨part, text, read, parsed⟩
  | error fault => exact Or.inr ⟨fault, text, read, parsed⟩

theorem Malformed.not_gives (malformed : Malformed w bytes fault) : ¬ Gives w bytes part := by
  rintro ⟨text', read', parsed'⟩
  obtain ⟨text, read, parsed⟩ := malformed
  rw [read] at read'
  cases read'
  rw [parsed] at parsed'
  cases parsed'

/-- Of readable files some of which are malformed, one is the first. -/
theorem exists_first_malformed {files : List (List String × ByteArray)}
    (readable : ∀ file ∈ files, Readable file.2)
    (malformed : ∃ file ∈ files, ∃ fault, Malformed w file.2 fault) :
    ∃ before file after, files = before ++ file :: after ∧
      (∀ file ∈ before, ∃ part, Gives w file.2 part) ∧ ∃ fault, Malformed w file.2 fault := by
  induction files with
  | nil => simp at malformed
  | cons file rest ih =>
    obtain ⟨here, others⟩ := List.forall_mem_cons.1 readable
    rcases here.cases (w := w) with ⟨part, gives⟩ | spoilt
    · have later : ∃ file ∈ rest, ∃ fault, Malformed w file.2 fault := by
        obtain ⟨first, mem, fault, malformed⟩ := malformed
        rcases List.mem_cons.1 mem with rfl | mem
        · exact absurd gives malformed.not_gives
        · exact ⟨first, mem, fault, malformed⟩
      obtain ⟨before, first, after, rfl, given, spoilt⟩ := ih others later
      exact ⟨file :: before, first, after, rfl,
        List.forall_mem_cons.2 ⟨⟨part, gives⟩, given⟩, spoilt⟩
    · exact ⟨[], file, rest, rfl, by simp, spoilt⟩

/-- What loading a directory comes to. -/
structure LoadedInOrder (around : Surroundings) (path : Path) (recursive : Bool)
    (directory : FileTree) (files : List (List String × ByteArray)) : Prop where
  enumerates : Enumerates recursive directory files
  /-- There is a result if every file gives documents, and then it is all of them, in order. -/
  concatenates : ∀ m, (filesAt path recursive).load around = .ok m ↔
    ∃ parts, List.Forall₂ (fun file part => Gives around.wording file.2 part) files parts ∧
      m.documents = parts.flatMap Manifest.documents
  /-- Where all files can be read and some is malformed, the first such file is named. -/
  namesFirst : (∀ file ∈ files, Readable file.2) →
    (∃ file ∈ files, ∃ fault, Malformed around.wording file.2 fault) →
    ∃ before names bytes after fault, files = before ++ (names, bytes) :: after ∧
      (∀ file ∈ before, ∃ part, Gives around.wording file.2 part) ∧
      Malformed around.wording bytes fault ∧
      (filesAt path recursive).load around =
        .error (faultAt (names.foldl Path.join path).text fault)
  /-- However the directories are listed, the outcome is the same. -/
  canonical : ∀ fs', Relisted around.files.root fs'.root →
    fs'.working = around.files.working →
    (filesAt path recursive).load { around with files := fs' } =
      (filesAt path recursive).load around

/-- **A directory is loaded in the order of paths**, whatever the order in which directories list
their entries. -/
theorem directory_loads_in_order (around : Surroundings) {path : Path}
    (found : around.files.find path = .ok (.directory entries)) (recursive : Bool) :
    ∃ files, LoadedInOrder around path recursive (.directory entries) files := by
  have below : (FileTree.directory entries).Proper := around.files.proper_of_found found
  have enumerated := sorted_enumerates below recursive
  have loads := load_of_standsFor (.directory found enumerated)
  refine ⟨sorted recursive entries, ?_⟩
  constructor
  case enumerates => exact enumerated
  case concatenates =>
    intro m
    rw [loads, loadEach_eq_ok_iff]
    simp only [List.forall₂_map_left_iff, placed, loadFile_eq_ok_iff]
  case namesFirst =>
    intro readable malformed
    obtain ⟨before, ⟨names, bytes⟩, after, split, gives, spoilt⟩ :=
      exists_first_malformed readable malformed
    obtain ⟨fault, malformed⟩ := spoilt
    refine ⟨before, names, bytes, after, fault, split, gives, malformed, ?_⟩
    rw [loads, split, List.map_append, List.map_cons]
    refine loadEach_eq_error_iff.2
      ⟨_, _, _, rfl, ?_, loadFile_eq_error_iff.2 (.malformed malformed)⟩
    intro source mem
    obtain ⟨file, among, rfl⟩ := List.mem_map.1 mem
    obtain ⟨part, gives⟩ := gives file among
    exact ⟨part, loadFile_eq_ok_iff.2 gives⟩
  case canonical =>
    intro fs' relisted working
    obtain ⟨entries', found', relisted⟩ :=
      FileSystem.find_directory_relisted relisted working found
    have enumerated' := sorted_enumerates (relisted.proper below) recursive
    have same : sorted recursive entries' = sorted recursive entries :=
      enumerated.unique enumerated' fun _ _ => relisted.holds_iff
    have loads' : (filesAt path recursive).load { around with files := fs' } = _ :=
      load_of_standsFor (.directory found' enumerated')
    rw [loads, loads', same]

/-- A home with a shelf. On the shelf there is a directory whose name is that of a manifest, and a
file that follows the directory `b` although its path is smaller as a text. -/
def home : FileSystem :=
  .insertDirectory ["shelf", "x.yml"] <|
    .holding ["home"] [(["home", "shelf", "b.yaml"], "kind: Secret"),
      (["home", "shelf", "notes.txt"], "kind: Pod"), (["home", "shelf", "b", "d.json"], "[]"),
      (["home", "shelf", "b", "c"], "kind: Pod"), (["home", "shelf", "a.yml"], "kind: Task")]

/-- What is on the shelf. -/
def shelf : List (String × FileTree) :=
  [("b.yaml", .file "kind: Secret".toUTF8), ("notes.txt", .file "kind: Pod".toUTF8),
    ("b", .directory [("d.json", .file "[]".toUTF8), ("c", .file "kind: Pod".toUTF8)]),
    ("a.yml", .file "kind: Task".toUTF8), ("x.yml", .directory [])]

theorem shelf_loads_in_order :
    let around : Surroundings := ⟨home, Web.unreachable, {}⟩
    let path : Path := ⟨"./shelf/"⟩
    home.find path = .ok (.directory shelf) ∧
      (∃ files, LoadedInOrder around path false (.directory shelf) files ∧
        files.map Prod.fst = [["a.yml"], ["b.yaml"]] ∧
        ((filesAt path false).load around).map Manifest.texts =
          .ok ["\x7b\"kind\":\"Task\"\x7d", "\x7b\"kind\":\"Secret\"\x7d"]) ∧
      ∃ files, LoadedInOrder around path true (.directory shelf) files ∧
        files.map Prod.fst = [["a.yml"], ["b", "d.json"], ["b.yaml"]] ∧
        ((filesAt path true).load around).map Manifest.texts =
          .error (faultAt "./shelf/b/d.json" (.manifest "resource has no kind: []")) := by
  intro around path
  have found : home.find path = .ok (.directory shelf) := by
    rw [FileSystem.find_of_steps ["home", ".", "shelf", "."]
      (by decide +kernel) (by decide +kernel)]
    rfl
  have flat : Enumerates false (.directory shelf) [(["a.yml"], "kind: Task".toUTF8),
      (["b.yaml"], "kind: Secret".toUTF8)] :=
    enumerates_of_perm (by decide +kernel) (by decide +kernel)
  have deep : Enumerates true (.directory shelf) [(["a.yml"], "kind: Task".toUTF8),
      (["b", "d.json"], "[]".toUTF8), (["b.yaml"], "kind: Secret".toUTF8)] :=
    enumerates_of_perm (by decide +kernel) (by decide +kernel)
  obtain ⟨files, loaded⟩ := directory_loads_in_order around found false
  obtain ⟨files', loaded'⟩ := directory_loads_in_order around found true
  refine ⟨found, ⟨files, loaded, ?_, ?_⟩, files', loaded', ?_, ?_⟩
  · rw [flat.unique loaded.enumerates fun _ _ => Iff.rfl]
    rfl
  · rw [load_of_standsFor (.directory found flat)]
    decide +kernel
  · rw [deep.unique loaded'.enumerates fun _ _ => Iff.rfl]
    rfl
  · rw [load_of_standsFor (.directory found deep)]
    decide +kernel

end Source

end PhasedInstall
