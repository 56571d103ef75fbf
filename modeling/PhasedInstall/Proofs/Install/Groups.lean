import PhasedInstall.Install.Component
import PhasedInstall.Install.Loading
import PhasedInstall.Proofs.Cluster.Calls
import PhasedInstall.Proofs.Manifest.Directories

/-!
# Which groups an operator starts with

Five sources are loaded, and each has a policy of its own: the pipelines and the add-ons have to be
there, the triggers may be absent, the optional add-ons depend on the cluster, and the catalog is an
attempt. An operator starts unless there is an `Obstacle`, and `Gathered` says what it starts with.
A group is the whole of its sources or it has no documents, so there is no start with half a group.

Both are about what there is around the operator, the files of its directories and the pages and
files of its catalog (`Source.Contents`, `Source.Fails`, `Source.Provides`, `Source.Broken`), and
not about how that is loaded.
-/

set_option autoImplicit false

namespace PhasedInstall.Bundle

open Source (Contents Fails Provides Broken)

variable (o : Operator) (around : Surroundings) (console : Except Fault Bool)

/-- What keeps an operator from starting, where `console` is what the cluster says about the
definition of the console. -/
inductive Obstacle : Fault → Prop
  | pipelines {fault : Fault} :
    Fails around (o.componentDir "pipelines") o.recursive fault → Obstacle fault
  /-- Only triggers that are there can fail. -/
  | triggers {node : FileTree} {fault : Fault} :
    around.files.find (o.componentDir "triggers") = .ok node →
    Fails around (o.componentDir "triggers") o.recursive fault → Obstacle fault
  | addons {fault : Fault} :
    Fails around (o.componentDir "addons") o.recursive fault → Obstacle fault
  | console {fault : Fault} : console = .error fault → Obstacle fault
  | optional {fault : Fault} : console = .ok true →
    Fails around (o.componentDir "optional") o.recursive fault → Obstacle fault

/-- The groups that an operator starts with. -/
structure Gathered (b : Bundle) : Prop where
  pipeline : Contents around (o.componentDir "pipelines") o.recursive b.pipeline.toManifest
  triggers : ∀ node, around.files.find (o.componentDir "triggers") = .ok node →
    Contents around (o.componentDir "triggers") o.recursive b.triggers.toManifest
  noTriggers : ∀ cause, around.files.find (o.componentDir "triggers") = .error cause →
    b.triggers.documents = []
  /-- The optional add-ons follow the other ones exactly if the console is installed. -/
  addons : ∃ addons, Contents around (o.componentDir "addons") o.recursive addons ∧
    (console = .ok false ∧ b.addons.documents = addons.documents ∨
      console = .ok true ∧ ∃ optional,
        Contents around (o.componentDir "optional") o.recursive optional ∧
        b.addons.documents = addons.documents ++ optional.documents)
  /-- Where every location has documents, the catalog is all of them, in the order of the list. -/
  catalog : o.skipCommunity = false → ∀ parts,
    List.Forall₂ (Provides around) o.communityLocations parts →
    b.community.documents = parts.flatMap Manifest.documents
  /-- One location that is broken leaves nothing of the catalog. -/
  noCatalog : o.skipCommunity = true ∨
    (∃ location ∈ o.communityLocations, ∃ fault, Broken around location fault) →
    b.community.documents = []
  /-- The triggers have both of their phases or none. -/
  plan : (b.plan o).phases =
    [.applyPipeline, .validatePipeline] ++
      (if b.triggers.documents = [] then [] else [.applyTriggers, .validateTriggers]) ++
      [.applyAddons] ++ (if o.skipCommunity then [] else [.applyCommunity])

/-! ## Without the cluster -/

/-- All add-ons, once the cluster has answered. -/
def gatherAddons : Except Fault Declarations := do
  let addons ← loadDirectory o around "addons"
  if ← console then return addons ++ (← loadDirectory o around "optional")
  else return addons

/-- All groups, once the cluster has answered. -/
def gather : Except Fault Bundle := do
  let pipeline ← loadDirectory o around "pipelines"
  let triggers ← loadTriggers o around
  let addons ← gatherAddons o around console
  return { pipeline, triggers, addons, community := loadCommunity o around }

section
variable {α β σ : Type} (answer : (r : Cluster.Request) → σ → Cluster.Request.Reply r × σ) (s : σ)

theorem run_ofExcept_bind (x : Except Fault α) (f : α → Work β) :
    Program.run answer (Work.ofExcept x >>= f).run s =
      match x with
      | .ok a => Program.run answer (f a).run s
      | .error fault => (some (.error fault), s) := by
  cases x <;> rfl

theorem run_definitionInstalled_bind (name : String) (f : Bool → Work β) :
    Program.run answer (Work.definitionInstalled name >>= f).run s =
      match (answer (.definitionInstalled name) s).1 with
      | .ok installed =>
        Program.run answer (f installed).run (answer (.definitionInstalled name) s).2
      | .error fault => (some (.error fault), (answer (.definitionInstalled name) s).2) := by
  have asked : Program.run answer (Work.definitionInstalled name).run s =
      (some (answer (.definitionInstalled name) s).1,
        (answer (.definitionInstalled name) s).2) := rfl
  rw [ExceptT.run_bind, Program.run_bind, asked]
  cases (answer (.definitionInstalled name) s).1 <;> rfl

/-- The only thing that the cluster contributes is its answer about the console. -/
theorem run_load : (Program.run answer (load o around).run s).1 =
    some (gather o around (answer (.definitionInstalled consoleDefinition) s).1) := by
  unfold load gather gatherAddons
  rw [run_ofExcept_bind]
  cases loadDirectory o around "pipelines" with
  | error fault => rfl
  | ok pipeline =>
    dsimp only
    rw [run_ofExcept_bind]
    cases loadTriggers o around with
    | error fault => rfl
    | ok triggers =>
      dsimp only
      rw [run_ofExcept_bind]
      cases loadDirectory o around "addons" with
      | error fault => rfl
      | ok addons =>
        dsimp only
        rw [run_definitionInstalled_bind]
        cases (answer (.definitionInstalled consoleDefinition) s).1 with
        | error fault => rfl
        | ok installed =>
          cases installed with
          | false => rfl
          | true =>
            dsimp only
            rw [if_pos rfl]
            cases loadDirectory o around "optional" with
            | error fault => rfl
            | ok optional => rfl

end

/-! ## The groups -/

variable {o around console} {b : Bundle} {fault : Fault} {m : Declarations} {component : String}

theorem loadDirectory_eq_ok_iff : loadDirectory o around component = .ok m ↔
    Contents around (o.componentDir component) o.recursive m.toManifest :=
  Declarations.ofRead_eq_ok_iff.trans Source.load_eq_ok_iff

theorem loadDirectory_eq_error_iff : loadDirectory o around component = .error fault ↔
    Fails around (o.componentDir component) o.recursive fault :=
  Declarations.ofRead_eq_error_iff.trans Source.load_eq_error_iff

theorem loadTriggers_of_missing {cause : FileFault}
    (missing : around.files.find (o.componentDir "triggers") = .error cause) :
    loadTriggers o around = .ok .empty := by
  refine if_neg fun there => ?_
  obtain ⟨node, found⟩ := FileSystem.contains_iff.1 there
  rw [missing] at found
  cases found

theorem loadTriggers_of_found {node : FileTree}
    (found : around.files.find (o.componentDir "triggers") = .ok node) :
    loadTriggers o around = loadDirectory o around "triggers" :=
  if_pos (FileSystem.contains_iff.2 ⟨_, found⟩)

theorem gatherAddons_eq_ok (gathered : gatherAddons o around console = .ok m) :
    ∃ addons, Contents around (o.componentDir "addons") o.recursive addons ∧
      (console = .ok false ∧ m.documents = addons.documents ∨
        console = .ok true ∧ ∃ optional,
          Contents around (o.componentDir "optional") o.recursive optional ∧
          m.documents = addons.documents ++ optional.documents) := by
  obtain ⟨addons, loaded, gathered⟩ := bind_eq_ok gathered
  obtain ⟨installed, answered, gathered⟩ := bind_eq_ok gathered
  refine ⟨addons.toManifest, loadDirectory_eq_ok_iff.1 loaded, ?_⟩
  cases installed with
  | false =>
    cases gathered
    exact Or.inl ⟨answered, rfl⟩
  | true =>
    obtain ⟨optional, loaded, gathered⟩ := bind_eq_ok gathered
    cases gathered
    exact Or.inr ⟨answered, optional.toManifest, loadDirectory_eq_ok_iff.1 loaded, rfl⟩

theorem loadCommunity_of_skip (skip : o.skipCommunity = true) :
    loadCommunity o around = .empty := by
  unfold loadCommunity
  rw [if_pos skip]

theorem loadCommunity_of_wanted (wanted : o.skipCommunity = false) :
    (loadCommunity o around).documents =
      match Source.loadEach (Source.loadLocation around) o.communityLocations with
      | .ok m => m.documents
      | .error _ => [] := by
  rw [← Source.loadLocations_eq, loadCommunity, wanted, if_neg Bool.false_ne_true]
  show _ = match (Source.listed o.communityLocations).load around with
    | .ok m => m.documents
    | .error _ => []
  cases given : (Source.listed o.communityLocations).declarations around with
  | ok m => rw [Declarations.ofRead_eq_ok_iff.1 given]
  | error _ =>
    rw [Declarations.ofRead_eq_error_iff.1 given]
    rfl

theorem loadCommunity_of_provided (wanted : o.skipCommunity = false) {parts : List Manifest}
    (provided : List.Forall₂ (Provides around) o.communityLocations parts) :
    (loadCommunity o around).documents = parts.flatMap Manifest.documents := by
  have all : Source.loadEach (Source.loadLocation around) o.communityLocations =
      .ok ⟨parts.flatMap Manifest.documents⟩ :=
    Source.loadEach_eq_ok_iff.2
      ⟨parts, provided.imp fun _ _ => Source.loadLocation_eq_ok_iff.2, rfl⟩
  rw [loadCommunity_of_wanted wanted, all]

theorem loadCommunity_of_broken (wanted : o.skipCommunity = false) {location : String}
    (listed : location ∈ o.communityLocations) (broken : Broken around location fault) :
    (loadCommunity o around).documents = [] := by
  rw [loadCommunity_of_wanted wanted]
  cases loaded : Source.loadEach (Source.loadLocation around) o.communityLocations with
  | error _ => rfl
  | ok m =>
    obtain ⟨part, given⟩ := Source.loadEach_isOk_iff.1 ⟨m, loaded⟩ location listed
    rw [Source.loadLocation_eq_error_iff.2 broken] at given
    cases given

/-- The phases that are planned for a bundle. Those of a component stand together. -/
theorem phases_plan (b : Bundle) (o : Operator) : (b.plan o).phases =
    [.applyPipeline, .validatePipeline] ++
      (if b.triggers.documents = [] then [] else [.applyTriggers, .validateTriggers]) ++
      [.applyAddons] ++ (if o.skipCommunity then [] else [.applyCommunity]) := by
  unfold plan Manifest.isEmpty
  cases b.triggers.documents <;> cases o.skipCommunity <;> rfl

theorem gathered_of_eq_ok (gathered : gather o around console = .ok b) :
    Gathered o around console b := by
  obtain ⟨pipeline, pipelineLoaded, gathered⟩ := bind_eq_ok gathered
  obtain ⟨triggers, triggersLoaded, gathered⟩ := bind_eq_ok gathered
  obtain ⟨addons, addonsLoaded, gathered⟩ := bind_eq_ok gathered
  cases gathered
  constructor
  case pipeline => exact loadDirectory_eq_ok_iff.1 pipelineLoaded
  case triggers =>
    intro node found
    rw [loadTriggers_of_found found] at triggersLoaded
    exact loadDirectory_eq_ok_iff.1 triggersLoaded
  case noTriggers =>
    intro cause missing
    rw [loadTriggers_of_missing missing] at triggersLoaded
    cases triggersLoaded
    rfl
  case addons => exact gatherAddons_eq_ok addonsLoaded
  case catalog =>
    intro wanted parts provided
    exact loadCommunity_of_provided wanted provided
  case noCatalog =>
    intro missing
    show (loadCommunity o around).documents = []
    cases wanted : o.skipCommunity with
    | true =>
      rw [loadCommunity_of_skip wanted]
      rfl
    | false =>
      rcases missing with skip | ⟨location, listed, fault, broken⟩
      · rw [wanted] at skip
        cases skip
      · exact loadCommunity_of_broken wanted listed broken
  case plan => exact phases_plan _ o

/-! ## The obstacles -/

theorem obstacle_of_loadTriggers (failed : loadTriggers o around = .error fault) :
    Obstacle o around console fault := by
  cases found : around.files.find (o.componentDir "triggers") with
  | error cause =>
    rw [loadTriggers_of_missing found] at failed
    cases failed
  | ok node =>
    rw [loadTriggers_of_found found] at failed
    exact .triggers found (loadDirectory_eq_error_iff.1 failed)

theorem obstacle_of_gatherAddons (failed : gatherAddons o around console = .error fault) :
    Obstacle o around console fault := by
  rcases bind_eq_error failed with failed | ⟨addons, -, failed⟩
  · exact .addons (loadDirectory_eq_error_iff.1 failed)
  · rcases bind_eq_error failed with failed | ⟨installed, answered, failed⟩
    · exact .console failed
    · cases installed with
      | false => cases failed
      | true =>
        rcases bind_eq_error failed with failed | ⟨optional, -, failed⟩
        · exact .optional answered (loadDirectory_eq_error_iff.1 failed)
        · cases failed

theorem obstacle_of_gather (failed : gather o around console = .error fault) :
    Obstacle o around console fault := by
  rcases bind_eq_error failed with failed | ⟨pipeline, -, failed⟩
  · exact .pipelines (loadDirectory_eq_error_iff.1 failed)
  · rcases bind_eq_error failed with failed | ⟨triggers, -, failed⟩
    · exact obstacle_of_loadTriggers failed
    · rcases bind_eq_error failed with failed | ⟨addons, -, failed⟩
      · exact obstacle_of_gatherAddons failed
      · cases failed

/-- Nothing stands in the way of groups that are gathered. -/
theorem Gathered.no_obstacle (gathered : Gathered o around console b) :
    ¬ Obstacle o around console fault := by
  intro obstacle
  obtain ⟨addons, addonsThere, rest⟩ := gathered.addons
  cases obstacle with
  | pipelines fails => exact gathered.pipeline.not_fails fails
  | triggers found fails => exact (gathered.triggers _ found).not_fails fails
  | addons fails => exact addonsThere.not_fails fails
  | console failed => rcases rest with ⟨answered, -⟩ | ⟨answered, -⟩ <;> simp [answered] at failed
  | optional installed fails =>
    rcases rest with ⟨answered, -⟩ | ⟨-, optional, there, -⟩
    · simp [answered] at installed
    · exact there.not_fails fails

theorem gather_fails_iff : (∃ fault, gather o around console = .error fault) ↔
    ∃ fault, Obstacle o around console fault := by
  constructor
  · rintro ⟨fault, failed⟩
    exact ⟨fault, obstacle_of_gather failed⟩
  · rintro ⟨fault, obstacle⟩
    cases outcome : gather o around console with
    | error f => exact ⟨f, rfl⟩
    | ok b => exact absurd obstacle (gathered_of_eq_ok outcome).no_obstacle

/-! ## What is looked at -/

/-- The directories of the groups are the same in two file systems. -/
def SameDirectories (o : Operator) (fs fs' : FileSystem) : Prop :=
  ∀ component ∈ ["pipelines", "triggers", "addons", "optional"],
    fs'.find (o.componentDir component) = fs.find (o.componentDir component)

theorem gather_congr {o' : Operator} {around' : Surroundings}
    (directories : ∀ component ∈ ["pipelines", "triggers", "addons", "optional"],
      loadDirectory o' around' component = loadDirectory o around component)
    (present : around'.files.contains (o'.componentDir "triggers") =
      around.files.contains (o.componentDir "triggers"))
    (catalog : loadCommunity o' around' = loadCommunity o around) :
    gather o' around' console = gather o around console := by
  simp only [List.forall_mem_cons] at directories
  obtain ⟨pipelines, triggers, addons, optional, -⟩ := directories
  unfold gather gatherAddons loadTriggers
  rw [pipelines, present, triggers, addons, optional, catalog]

/-- An operator that skips the catalog looks at the directories of the groups only. -/
theorem gather_of_skip (skip : o.skipCommunity = true) (locations : List String)
    {fs' : FileSystem} (same : SameDirectories o around.files fs') (web' : Web) :
    gather { o with communityLocations := locations }
      { around with files := fs', web := web' } console = gather o around console := by
  refine gather_congr ?_ ?_ ?_
  · intro component listed
    refine Declarations.ofRead_congr ?_
    show (Source.filesAt (o.componentDir component) o.recursive).load _ = _
    unfold Source.load Source.files
    dsimp only
    rw [same component listed]
  · show fs'.contains (o.componentDir "triggers") = _
    unfold FileSystem.contains
    rw [same "triggers" (by simp)]
  · rw [loadCommunity_of_skip skip]
    exact loadCommunity_of_skip skip

/-- What loading the groups comes to. -/
structure LoadedByGroup (o : Operator) (around : Surroundings) (console : Except Fault Bool)
    (outcome : Except Fault Bundle) : Prop where
  /-- It fails exactly if there is an obstacle. -/
  fails : (∃ fault, outcome = .error fault) ↔ ∃ fault, Obstacle o around console fault
  /-- The fault is that of an obstacle. -/
  reports : ∀ fault, outcome = .error fault → Obstacle o around console fault
  gathers : ∀ b, outcome = .ok b → Gathered o around console b

/-- **An operator starts with whole groups, or it does not start**, whatever it finds in the file
system and on the web, and whatever the cluster answers. If it skips the catalog, then what it finds
at the locations of the catalog plays no part. -/
theorem load_by_group {σ : Type}
    (answer : (r : Cluster.Request) → σ → Cluster.Request.Reply r × σ) (s : σ) (o : Operator)
    (around : Surroundings) :
    ∃ outcome, (Program.run answer (load o around).run s).1 = some outcome ∧
      LoadedByGroup o around (answer (.definitionInstalled consoleDefinition) s).1 outcome ∧
      (o.skipCommunity = true → ∀ locations files' web', SameDirectories o around.files files' →
        (Program.run answer (load { o with communityLocations := locations }
          { around with files := files', web := web' }).run s).1 = some outcome) := by
  refine ⟨_, run_load o around answer s, ?_, ?_⟩
  · constructor
    case fails => exact gather_fails_iff
    case reports => exact fun fault => obstacle_of_gather
    case gathers => exact fun b => gathered_of_eq_ok
  · intro skip locations files' web' same
    rw [run_load, gather_of_skip skip locations same]

/-! ## A visit -/

/-- A file system in which the operator finds no triggers, and optional add-ons that are
malformed. -/
def depot : FileSystem :=
  .holding ["srv"] [(["srv", "operator", "pipelines", "20-controller.yaml"], "kind: Deployment"),
    (["srv", "operator", "pipelines", "10-names", "a.yml"], "kind: Namespace"),
    (["srv", "operator", "pipelines", "notes.md"], "# Notes"),
    (["srv", "operator", "addons", "tasks.json"], "kind: Task\n---\nkind: Pipeline"),
    (["srv", "operator", "optional", "sample.yaml"], "- kind: Sample"),
    (["srv", "catalog.yaml"], "kind: ClusterTask")]

/-- A web of two pages, one of which tells of a failure. -/
def hub : Web where
  reply address :=
    if address = "http://hub/step.yaml" then .ok ⟨200, none, "kind: Step".toUTF8⟩
    else if address = "http://hub/gone.yaml" then .ok ⟨404, none, "kind: Gone".toUTF8⟩
    else .error "error sending request"
  complaint address page := "HTTP status " ++ toString page.status ++ " for " ++ address
  decode page := (String.fromUTF8? page.bytes).getD ""

/-- An operator with its resources at the depot. -/
def visitor (locations : List String) : Operator :=
  { Operator.standard with resourceDir := ⟨"/srv/operator"⟩, communityLocations := locations }

/-- What the visitor finds. -/
def place : Surroundings := ⟨depot, hub, {}⟩

/-- A cluster that says something about the console. -/
def saying (console : Except Fault Bool) : (r : Cluster.Request) → Unit → r.Reply × Unit
  | .definitionInstalled _, s => (console, s)
  | r, s => (Cluster.vacant r, s)

/-- The documents of the groups, as they are written. -/
def texts (b : Bundle) : List (List String) :=
  [b.pipeline.texts, b.triggers.texts, b.addons.texts, b.community.texts]

/-- Objects that have a kind and nothing else, as they are written. -/
def ofKinds (kinds : List String) : List String :=
  kinds.map fun kind => (Json.obj [("kind", .str kind)]).compact

/-- The documents of some files of the operator's, one file after the other. -/
def loadBelow (component : String) (files : List (List String × ByteArray)) :
    Except Fault Declarations :=
  Declarations.ofRead (Source.loadFiles {}
    (files.map (Source.placed ((⟨"/srv/operator"⟩ : Path).join component))))
    fun _ => Source.declared_loadFiles

section
variable (locations : List String) (entries : List (String × FileTree))
  {files : List (List String × ByteArray)}

theorem loadDirectory_visitor
    (found : depot.find ((⟨"/srv/operator"⟩ : Path).join component) = .ok (.directory entries))
    (perm : files.Perm (Source.collect true entries))
    (ascending : files.Pairwise fun file file' => file.1 < file'.1) :
    loadDirectory (visitor locations) place component = loadBelow component files := by
  refine Declarations.ofRead_congr ?_
  rw [Source.loadFiles_eq]
  exact Source.load_of_standsFor (.directory found (Source.enumerates_of_perm perm ascending))

theorem visitor_pipelines : loadDirectory (visitor locations) place "pipelines" =
    loadBelow "pipelines" [(["10-names", "a.yml"], "kind: Namespace".toUTF8),
      (["20-controller.yaml"], "kind: Deployment".toUTF8)] := by
  refine loadDirectory_visitor locations [("20-controller.yaml", .file "kind: Deployment".toUTF8),
    ("10-names", .directory [("a.yml", .file "kind: Namespace".toUTF8)]),
    ("notes.md", .file "# Notes".toUTF8)] ?_ (by decide +kernel) (by decide +kernel)
  rw [FileSystem.find_of_steps ["srv", "operator", "pipelines"] (by decide +kernel)
    (by decide +kernel)]
  rfl

theorem visitor_addons : loadDirectory (visitor locations) place "addons" =
    loadBelow "addons" [(["tasks.json"], "kind: Task\n---\nkind: Pipeline".toUTF8)] := by
  refine loadDirectory_visitor locations
    [("tasks.json", .file "kind: Task\n---\nkind: Pipeline".toUTF8)] ?_ (by decide +kernel)
    (by decide +kernel)
  rw [FileSystem.find_of_steps ["srv", "operator", "addons"] (by decide +kernel)
    (by decide +kernel)]
  rfl

theorem visitor_optional : loadDirectory (visitor locations) place "optional" =
    loadBelow "optional" [(["sample.yaml"], "- kind: Sample".toUTF8)] := by
  refine loadDirectory_visitor locations [("sample.yaml", .file "- kind: Sample".toUTF8)] ?_
    (by decide +kernel) (by decide +kernel)
  rw [FileSystem.find_of_steps ["srv", "operator", "optional"] (by decide +kernel)
    (by decide +kernel)]
  rfl

end

/-- What is written in the groups of an outcome. -/
theorem texts_of_run {outcome : Except Fault Bundle} {written : Except Fault (List (List String))}
    (made : (Program.run (saying console) (load o around).run ()).1 = some outcome)
    (gathered : (gather o around console).map texts = written) : outcome.map texts = written := by
  rw [run_load] at made
  rw [← Option.some.inj made]
  exact gathered

theorem visitor_loads_by_group :
    let here := visitor ["http://hub/step.yaml", "catalog.yaml"]
    let gone := visitor ["http://hub/step.yaml", "http://hub/gone.yaml", "catalog.yaml"]
    let run (o : Operator) (console : Except Fault Bool) (around : Surroundings) :=
      (Program.run (saying console) (load o around).run ()).1
    depot.find (here.componentDir "triggers") = .error .notFound ∧
      Broken place "http://hub/gone.yaml" (.fetch "HTTP status 404 for http://hub/gone.yaml") ∧
      (∃ outcome, run here (.ok false) place = some outcome ∧
        LoadedByGroup here place (.ok false) outcome ∧
        outcome.map texts = .ok [ofKinds ["Namespace", "Deployment"], [],
          ofKinds ["Task", "Pipeline"], ofKinds ["Step", "ClusterTask"]]) ∧
      (∃ outcome, run gone (.ok false) place = some outcome ∧
        LoadedByGroup gone place (.ok false) outcome ∧
        outcome.map texts =
          .ok [ofKinds ["Namespace", "Deployment"], [], ofKinds ["Task", "Pipeline"], []]) ∧
      ∃ outcome, run here (.ok true) place = some outcome ∧
        LoadedByGroup here place (.ok true) outcome ∧
        outcome.map texts = .error (Source.faultAt "/srv/operator/optional/sample.yaml"
          (.manifest ("resource has no kind: [" ++ String.join (ofKinds ["Sample"]) ++ "]"))) := by
  intro here gone run
  refine ⟨?_, ?_, ?_, ?_, ?_⟩
  · rw [FileSystem.find_of_steps ["srv", "operator", "triggers"] (by decide +kernel)
      (by decide +kernel)]
    rfl
  · have address : Source.IsAddress "http://hub/gone.yaml" := .inl (by decide +kernel)
    have said : hub.complaint "http://hub/gone.yaml" ⟨404, none, "kind: Gone".toUTF8⟩ =
        "HTTP status 404 for http://hub/gone.yaml" := by decide +kernel
    have failure : 400 ≤ 404 ∧ 404 < 600 := by decide
    rw [← said]
    exact .unavailable (.refused address rfl failure)
  · obtain ⟨outcome, made, loaded, -⟩ := load_by_group (saying (.ok false)) () here place
    refine ⟨outcome, made, loaded, texts_of_run made ?_⟩
    unfold gather gatherAddons loadTriggers
    rw [visitor_pipelines, visitor_addons, visitor_optional]
    decide +kernel
  · obtain ⟨outcome, made, loaded, -⟩ := load_by_group (saying (.ok false)) () gone place
    refine ⟨outcome, made, loaded, texts_of_run made ?_⟩
    unfold gather gatherAddons loadTriggers
    rw [visitor_pipelines, visitor_addons, visitor_optional]
    decide +kernel
  · obtain ⟨outcome, made, loaded, -⟩ := load_by_group (saying (.ok true)) () here place
    refine ⟨outcome, made, loaded, texts_of_run made ?_⟩
    unfold gather gatherAddons loadTriggers
    rw [visitor_pipelines, visitor_addons, visitor_optional]
    decide +kernel

end PhasedInstall.Bundle
