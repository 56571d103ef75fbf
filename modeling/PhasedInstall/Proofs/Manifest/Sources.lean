import Mathlib.Data.List.Forall2
import PhasedInstall.Manifest.Source
import PhasedInstall.Proofs.Cluster.Work

/-!
# Loading in turn

The files of a directory and the locations of a list are loaded in the same way: one after the
other, each with a rule of its own for one of them (`loadFile`, `loadLocation`), up to the first
that fails. `loadEach` is this loop. It has two outcomes: the documents of all, in order, or the
fault of the first one that has none.

What there is at a location is said without the loop: it `Offers` a text, it `Provides` documents,
or it is `Broken`.
-/

set_option autoImplicit false

namespace PhasedInstall

theorem FileSystem.read_eq_ok_iff {fs : FileSystem} {p : Path} {text : String} :
    fs.read p = .ok text ↔
      ∃ bytes, fs.find p = .ok (.file bytes) ∧ FileTree.textOf bytes = .ok text := by
  unfold read
  rcases fs.find p with cause | bytes | entries <;> simp [bind, Except.bind]

theorem FileSystem.read_eq_error_iff {fs : FileSystem} {p : Path} {cause : FileFault} :
    fs.read p = .error cause ↔ fs.find p = .error cause ∨
      (∃ entries, fs.find p = .ok (.directory entries) ∧ cause = .isDirectory) ∨
      ∃ bytes, fs.find p = .ok (.file bytes) ∧ FileTree.textOf bytes = .error cause := by
  unfold read
  rcases fs.find p with cause | bytes | entries <;> simp [bind, Except.bind, eq_comm]

theorem Page.isFailure_iff {page : Page} :
    page.isFailure = true ↔ 400 ≤ page.status ∧ page.status < 600 := by
  simp [isFailure, Http.isFailure]

/-- A page has a text unless its status is that of a failure. -/
theorem Web.read_eq_ok_iff {web : Web} {address text : String} : web.read address = .ok text ↔
    ∃ page, web.reply address = .ok page ∧ ¬ (400 ≤ page.status ∧ page.status < 600) ∧
      web.decode page = text := by
  unfold read
  simp only [← Page.isFailure_iff]
  rcases web.reply address with problem | page
  · simp
  · cases failure : page.isFailure <;> simp [failure]

theorem Web.read_eq_error_iff {web : Web} {address : String} {fault : Fault} :
    web.read address = .error fault ↔
      (∃ problem, web.reply address = .error problem ∧ .fetch problem = fault) ∨
      ∃ page, web.reply address = .ok page ∧ (400 ≤ page.status ∧ page.status < 600) ∧
        .fetch (web.complaint address page) = fault := by
  unfold read
  simp only [← Page.isFailure_iff]
  rcases web.reply address with problem | page
  · simp
  · cases failure : page.isFailure <;> simp [failure]

namespace Source

variable {α : Type} {load : α → Except Fault Manifest} {sources : List α} {m : Manifest}
  {fault : Fault}

/-- Loads sources one after the other, up to the first that fails. -/
def loadEach (load : α → Except Fault Manifest) : List α → Except Fault Manifest
  | [] => .ok Manifest.empty
  | source :: rest => do return (← load source) ++ (← loadEach load rest)

theorem loadEach_eq_ok_iff : loadEach load sources = .ok m ↔
    ∃ parts, List.Forall₂ (fun source part => load source = .ok part) sources parts ∧
      m.documents = parts.flatMap Manifest.documents := by
  induction sources generalizing m with
  | nil =>
    constructor
    · intro ok
      cases ok
      exact ⟨[], .nil, rfl⟩
    · rintro ⟨parts, loaded, documents⟩
      cases loaded
      cases m
      cases documents
      rfl
  | cons source rest ih =>
    unfold loadEach
    constructor
    · intro ok
      obtain ⟨first, here, ok⟩ := bind_eq_ok ok
      obtain ⟨others, there, ok⟩ := bind_eq_ok ok
      cases ok
      obtain ⟨parts, loaded, documents⟩ := ih.1 there
      refine ⟨first :: parts, .cons here loaded, ?_⟩
      rw [List.flatMap_cons, ← documents]
      rfl
    · rintro ⟨parts, loaded, documents⟩
      cases loaded with
      | @cons _ first _ parts here loaded =>
        have there : loadEach load rest = .ok ⟨parts.flatMap Manifest.documents⟩ :=
          ih.2 ⟨parts, loaded, rfl⟩
        rw [here, there]
        cases m
        cases documents
        rfl

/-- The first source that has no manifest decides. -/
theorem loadEach_eq_error_iff : loadEach load sources = .error fault ↔
    ∃ before source after, sources = before ++ source :: after ∧
      (∀ source ∈ before, ∃ part, load source = .ok part) ∧ load source = .error fault := by
  constructor
  · intro failed
    induction sources with
    | nil => cases failed
    | cons source rest ih =>
      rcases bind_eq_error failed with here | ⟨part, given, failed⟩
      · exact ⟨[], source, rest, rfl, nofun, here⟩
      · rcases bind_eq_error failed with later | ⟨others, -, failed⟩
        · obtain ⟨before, first, after, rfl, loaded, failed⟩ := ih later
          exact ⟨source :: before, first, after, rfl,
            List.forall_mem_cons.2 ⟨⟨part, given⟩, loaded⟩, failed⟩
        · cases failed
  · rintro ⟨before, source, after, rfl, loaded, failed⟩
    induction before with
    | nil =>
      rw [List.nil_append, loadEach, failed]
      rfl
    | cons first before ih =>
      obtain ⟨⟨part, here⟩, others⟩ := List.forall_mem_cons.1 loaded
      rw [List.cons_append, loadEach, here, ih others]
      rfl

/-- There is a manifest unless some source has none. -/
theorem loadEach_isOk_iff :
    (∃ m, loadEach load sources = .ok m) ↔ ∀ source ∈ sources, ∃ part, load source = .ok part := by
  induction sources with
  | nil => simp [loadEach]
  | cons source rest ih =>
    rw [List.forall_mem_cons, ← ih, loadEach]
    cases load source with
    | error fault => simp [bind, Except.bind]
    | ok part =>
      cases loadEach load rest with
      | error fault => simp [bind, Except.bind]
      | ok others => simp [bind, Except.bind, pure, Except.pure]

/-! ## The two kinds of sources -/

/-- The manifest of one file. -/
def loadFile (w : Wording) (file : Path × ByteArray) : Except Fault Manifest := do
  let text ← match FileTree.textOf file.2 with
    | .ok text => .ok text
    | .error cause => .error (.file cause)
  parseAt w file.1.text text

/-- The manifest at one location. -/
def loadLocation (around : Surroundings) (location : String) : Except Fault Manifest := do
  let text ← fetch around location
  parseAt around.wording location text

theorem loadFiles_eq (w : Wording) (files : List (Path × ByteArray)) :
    loadFiles w files = loadEach (loadFile w) files := by
  induction files with
  | nil => rfl
  | cons file rest ih =>
    obtain ⟨path, bytes⟩ := file
    unfold loadFiles loadEach loadFile
    rw [ih]
    cases FileTree.textOf bytes <;> rfl

theorem loadLocations_eq (around : Surroundings) (locations : List String) :
    loadLocations around locations = loadEach (loadLocation around) locations := by
  induction locations with
  | nil => rfl
  | cons location rest ih => rw [loadLocations, loadEach, loadLocation, ih, bind_assoc]

/-! ## What there is at a location -/

/-- A location of the web names one of two protocols. -/
def IsAddress (location : String) : Prop :=
  "http://".toList <+: location.toList ∨ "https://".toList <+: location.toList

/-- A location has a text. A page has one unless its status is that of a failure. -/
inductive Offers (around : Surroundings) (location : String) : String → Prop
  | page {page : Page} : IsAddress location → around.web.reply location = .ok page →
    ¬ (400 ≤ page.status ∧ page.status < 600) → Offers around location (around.web.decode page)
  | file {bytes : ByteArray} {text : String} : ¬ IsAddress location →
    around.files.find ⟨location⟩ = .ok (.file bytes) → FileTree.textOf bytes = .ok text →
    Offers around location text

/-- Why a location has no text. -/
inductive Unavailable (around : Surroundings) (location : String) : Fault → Prop
  | unreachable {problem : String} : IsAddress location →
    around.web.reply location = .error problem → Unavailable around location (.fetch problem)
  | refused {page : Page} : IsAddress location → around.web.reply location = .ok page →
    400 ≤ page.status ∧ page.status < 600 →
    Unavailable around location (.fetch (around.web.complaint location page))
  | missing {cause : FileFault} : ¬ IsAddress location →
    around.files.find ⟨location⟩ = .error cause → Unavailable around location (.file cause)
  | directory {entries : List (String × FileTree)} : ¬ IsAddress location →
    around.files.find ⟨location⟩ = .ok (.directory entries) →
    Unavailable around location (.file .isDirectory)
  | unreadable {bytes : ByteArray} {cause : FileFault} : ¬ IsAddress location →
    around.files.find ⟨location⟩ = .ok (.file bytes) → FileTree.textOf bytes = .error cause →
    Unavailable around location (.file cause)

/-- The documents at a location. -/
def Provides (around : Surroundings) (location : String) (part : Manifest) : Prop :=
  ∃ text, Offers around location text ∧ Manifest.parse around.wording text = .ok part

/-- The fault of a malformed text at a place. -/
def faultAt (place : String) (fault : Fault) : Fault := .manifest (place ++ ": " ++ fault.text)

/-- Why there are no documents at a location. -/
inductive Broken (around : Surroundings) (location : String) : Fault → Prop
  | unavailable {fault : Fault} : Unavailable around location fault → Broken around location fault
  | malformed {text : String} {fault : Fault} : Offers around location text →
    Manifest.parse around.wording text = .error fault →
    Broken around location (faultAt location fault)

section
variable {w : Wording} {around : Surroundings} {location text place : String} {part : Manifest}

theorem parseAt_eq_ok_iff : parseAt w place text = .ok part ↔ Manifest.parse w text = .ok part := by
  unfold parseAt
  cases Manifest.parse w text <;> simp

theorem parseAt_eq_error_iff : parseAt w place text = .error fault ↔
    ∃ cause, Manifest.parse w text = .error cause ∧ fault = faultAt place cause := by
  unfold parseAt faultAt
  cases Manifest.parse w text <;> simp [eq_comm]

theorem isWebAddress_iff : isWebAddress location = true ↔ IsAddress location := by
  unfold isWebAddress IsAddress
  rw [Bool.or_eq_true, String.startsWith_string_iff, String.startsWith_string_iff]

/-- What is fetched is what is offered. -/
theorem fetch_eq_ok_iff : fetch around location = .ok text ↔ Offers around location text := by
  constructor
  · intro fetched
    unfold fetch at fetched
    split at fetched
    case isTrue web =>
      obtain ⟨page, replied, fine, rfl⟩ := around.web.read_eq_ok_iff.1 fetched
      exact .page (isWebAddress_iff.1 web) replied fine
    case isFalse away =>
      split at fetched <;> cases fetched
      rename_i read
      obtain ⟨bytes, found, decoded⟩ := around.files.read_eq_ok_iff.1 read
      exact .file (fun address => away (isWebAddress_iff.2 address)) found decoded
  · intro offers
    unfold fetch
    cases offers with
    | page address replied fine =>
      rw [if_pos (isWebAddress_iff.2 address)]
      exact around.web.read_eq_ok_iff.2 ⟨_, replied, fine, rfl⟩
    | file away found decoded =>
      rw [if_neg fun web => away (isWebAddress_iff.1 web),
        around.files.read_eq_ok_iff.2 ⟨_, found, decoded⟩]

/-- Nothing is fetched exactly where nothing is available. -/
theorem fetch_eq_error_iff :
    fetch around location = .error fault ↔ Unavailable around location fault := by
  constructor
  · intro failed
    unfold fetch at failed
    split at failed
    case isTrue web =>
      have address := isWebAddress_iff.1 web
      rcases around.web.read_eq_error_iff.1 failed with
        ⟨problem, replied, rfl⟩ | ⟨page, replied, failure, rfl⟩
      · exact .unreachable address replied
      · exact .refused address replied failure
    case isFalse away =>
      have away : ¬ IsAddress location := fun address => away (isWebAddress_iff.2 address)
      split at failed <;> cases failed
      rename_i read
      rcases around.files.read_eq_error_iff.1 read with
        missing | ⟨entries, found, rfl⟩ | ⟨bytes, found, undecoded⟩
      · exact .missing away missing
      · exact .directory away found
      · exact .unreadable away found undecoded
  · intro unavailable
    have away (none : ¬ IsAddress location) {cause : FileFault}
        (read : around.files.read ⟨location⟩ = .error cause) :
        fetch around location = .error (.file cause) := by
      rw [fetch, if_neg fun web => none (isWebAddress_iff.1 web), read]
    cases unavailable with
    | unreachable address replied =>
      rw [fetch, if_pos (isWebAddress_iff.2 address)]
      exact around.web.read_eq_error_iff.2 (.inl ⟨_, replied, rfl⟩)
    | refused address replied failure =>
      rw [fetch, if_pos (isWebAddress_iff.2 address)]
      exact around.web.read_eq_error_iff.2 (.inr ⟨_, replied, failure, rfl⟩)
    | missing none missing =>
      exact away none (around.files.read_eq_error_iff.2 (.inl missing))
    | directory none found =>
      exact away none (around.files.read_eq_error_iff.2 (.inr (.inl ⟨_, found, rfl⟩)))
    | unreadable none found undecoded =>
      exact away none (around.files.read_eq_error_iff.2 (.inr (.inr ⟨_, found, undecoded⟩)))

theorem loadLocation_eq_ok_iff :
    loadLocation around location = .ok part ↔ Provides around location part := by
  constructor
  · intro loaded
    obtain ⟨text, fetched, parsed⟩ := bind_eq_ok loaded
    exact ⟨text, fetch_eq_ok_iff.1 fetched, parseAt_eq_ok_iff.1 parsed⟩
  · rintro ⟨text, offers, parsed⟩
    unfold loadLocation
    rw [fetch_eq_ok_iff.2 offers]
    exact parseAt_eq_ok_iff.2 parsed

theorem loadLocation_eq_error_iff :
    loadLocation around location = .error fault ↔ Broken around location fault := by
  constructor
  · intro failed
    rcases bind_eq_error failed with failed | ⟨text, fetched, failed⟩
    · exact .unavailable (fetch_eq_error_iff.1 failed)
    · obtain ⟨cause, malformed, rfl⟩ := parseAt_eq_error_iff.1 failed
      exact .malformed (fetch_eq_ok_iff.1 fetched) malformed
  · intro broken
    unfold loadLocation
    cases broken with
    | unavailable unavailable =>
      rw [fetch_eq_error_iff.2 unavailable]
      rfl
    | malformed offers malformed =>
      rw [fetch_eq_ok_iff.2 offers]
      exact parseAt_eq_error_iff.2 ⟨_, malformed, rfl⟩

/-- A location has documents or there is a reason why not. -/
theorem provides_or_broken (around : Surroundings) (location : String) :
    (∃ part, Provides around location part) ∨ ∃ fault, Broken around location fault := by
  cases outcome : loadLocation around location with
  | ok part => exact .inl ⟨part, loadLocation_eq_ok_iff.1 outcome⟩
  | error fault => exact .inr ⟨fault, loadLocation_eq_error_iff.1 outcome⟩

end

end Source

end PhasedInstall
