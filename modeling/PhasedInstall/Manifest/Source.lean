import PhasedInstall.Files.Tree
import PhasedInstall.Http.Web
import PhasedInstall.Manifest.Basic

/-!
# Where manifests come from

A manifest is read from a directory, from a single file, or from a list of locations. The files of
a directory are those with the extension of a manifest, in the order of their paths, compared name
by name, so the order in which the file system lists them does not matter. A location is a page of
the web or else a file.
-/

set_option autoImplicit false

namespace PhasedInstall

/-- What a program finds around it when it loads manifests. -/
structure Surroundings where
  files : FileSystem
  web : Web
  wording : Wording := {}

/-- Where the documents of a manifest come from. -/
inductive Source where
  /-- A file, or the manifest files of a directory. -/
  | filesAt (path : Path) (recursive : Bool)
  /-- Pages and files, in order. -/
  | listed (locations : List String)

namespace Source

/-- Whether a file name has the extension of a manifest. -/
def isManifestFile (name : String) : Bool :=
  match Path.extension? name with
  | some e => e = "yaml" || e = "yml" || e = "json"
  | none => false

mutual

/-- The manifest files below a directory, each with the names that lead to it. -/
def collect (recursive : Bool) : List (String × FileTree) → List (List String × ByteArray)
  | [] => []
  | (name, node) :: rest => collectNode recursive name node ++ collect recursive rest

/-- The manifest files at one entry of a directory. -/
def collectNode (recursive : Bool) (name : String) : FileTree → List (List String × ByteArray)
  | .file bytes => if isManifestFile name then [([name], bytes)] else []
  | .directory entries =>
    if recursive then (collect recursive entries).map fun (names, bytes) => (name :: names, bytes)
    else []

end

/-- The order of paths: name by name, a path before those below it. -/
def pathLE : List String → List String → Bool
  | [], _ => true
  | _ :: _, [] => false
  | a :: as, b :: bs => if a = b then pathLE as bs else a < b

/-- The files that a path stands for, with the paths that messages show. -/
def files (fs : FileSystem) (path : Path) (recursive : Bool) :
    Except Fault (List (Path × ByteArray)) :=
  match fs.find path with
  | .ok (.file bytes) => .ok [(path, bytes)]
  | .ok (.directory entries) =>
    let found := (collect recursive entries).mergeSort fun a b => pathLE a.1 b.1
    .ok (found.map fun (names, bytes) => (names.foldl Path.join path, bytes))
  | .error cause => .error (.file cause)

/-- The documents in a text. A fault names the place of the text. -/
def parseAt (w : Wording) (place text : String) : Except Fault Manifest :=
  match Manifest.parse w text with
  | .ok m => .ok m
  | .error f => .error (.manifest (place ++ ": " ++ f.text))

/-- Loads files one after the other, up to the first that fails. -/
def loadFiles (w : Wording) : List (Path × ByteArray) → Except Fault Manifest
  | [] => .ok Manifest.empty
  | (path, bytes) :: rest => do
    let text ← match FileTree.textOf bytes with
      | .ok text => .ok text
      | .error cause => .error (.file cause)
    let m ← parseAt w path.text text
    return m ++ (← loadFiles w rest)

/-- Whether a location is a page. Everything else is a path. -/
def isWebAddress (location : String) : Bool :=
  location.startsWith "http://" || location.startsWith "https://"

/-- The text at a location. -/
def fetch (around : Surroundings) (location : String) : Except Fault String :=
  if isWebAddress location then around.web.read location
  else match around.files.read ⟨location⟩ with
    | .ok text => .ok text
    | .error cause => .error (.file cause)

/-- Loads locations one after the other, up to the first that fails. -/
def loadLocations (around : Surroundings) : List String → Except Fault Manifest
  | [] => .ok Manifest.empty
  | location :: rest => do
    let text ← fetch around location
    let m ← parseAt around.wording location text
    return m ++ (← loadLocations around rest)

/-- Loads a manifest from where it is. There are all documents or none. -/
def load (around : Surroundings) : Source → Except Fault Manifest
  | .filesAt path recursive => do loadFiles around.wording (← files around.files path recursive)
  | .listed locations => loadLocations around locations

end Source

end PhasedInstall
