import PhasedInstall.Http.Client
import PhasedInstall.Json.Writer
import PhasedInstall.Proofs.Cluster.Calls
import PhasedInstall.Proofs.Json.Fields
import PhasedInstall.Proofs.Json.MergePatch
import PhasedInstall.Proofs.Program.Execution

/-!
# What becomes of the finalizers

The finalizers of the watched resource are set by merge patches, and a merge patch replaces a list
as a whole. So the operator does not manage its own finalizer alone: to give it up is to remove all
of them, which also ends what others hold the resource for, and to put it there is to be sure of
one entry, which says nothing about those of others.

The server keeps one value under the target of the resource and answers patches of it; whether it
says so truthfully is open, except that a patch which has not been made is reported as a failure.
What the resource says, apart from its finalizers, is as it was.
-/

set_option autoImplicit false

namespace PhasedInstall

/-! ## Reading a patched resource -/

theorem Members.optional?_congr {α : Type} {m m' : Members} {key : String}
    (same : Table.get? key m' = Table.get? key m) (read? : Json → Option α) :
    optional? read? key m' = optional? read? key m := by
  rw [optional?, optional?, same]

/-- A step that reads the same and goes on alike ends alike. -/
theorem bind_kept {α β : Type} {x x' : Option α} {f f' : α → Option β} {b b' : β} (same : x' = x)
    (rest : ∀ a, f a = some b → f' a = some b') : x.bind f = some b → x'.bind f' = some b' := by
  intro h
  obtain ⟨a, read, h⟩ := Option.bind_eq_some_iff.1 h
  exact Option.bind_eq_some_iff.2 ⟨a, same.trans read, rest a h⟩

/-- A step that reads something else may go on with it. -/
theorem bind_replaced {α β : Type} {x x' : Option α} {f f' : α → Option β} {a' : α} {b b' : β}
    (own : x' = some a') (rest : ∀ a, f a = some b → f' a' = some b') :
    x.bind f = some b → x'.bind f' = some b' := by
  intro h
  obtain ⟨a, -, h⟩ := Option.bind_eq_some_iff.1 h
  exact Option.bind_eq_some_iff.2 ⟨a', own, rest a h⟩

/-- Metadata whose fields are as they were, apart from the finalizers. -/
theorem Metadata.ofJson?_congr {m m' : Members} {d : Metadata} {finalizers : Option (List String)}
    (others : ∀ key ≠ "finalizers", Table.get? key m' = Table.get? key m)
    (own : Members.optional? (Json.list? Json.str?) "finalizers" m' = some finalizers) :
    Metadata.ofJson? (.obj m) = some d →
      Metadata.ofJson? (.obj m') = some { d with finalizers := finalizers } := by
  have kept : ∀ {α : Type} {read? : Json → Option α} {key : String}, key ≠ "finalizers" →
      Members.optional? read? key m' = Members.optional? read? key m :=
    fun other => Members.optional?_congr (others _ other) _
  -- The fields are read in turn: five before the finalizers, and ten after them.
  iterate 5 refine bind_kept (kept (by decide)) fun _ => ?_
  refine bind_replaced own fun _ => ?_
  iterate 10 refine bind_kept (kept (by decide)) fun _ => ?_
  intro h
  obtain rfl := Option.some.inj h
  rfl

/-- The patch that sets the finalizers. -/
def finalizersPatch (value : Json) : Json := .obj [("metadata", .obj [("finalizers", value)])]

/-- What a patch of the finalizers leaves of a resource. -/
theorem Config.ofJson?_mergePatch {m : Members} {c : Config} {value : Json}
    {finalizers : Option (List String)} (h : ofJson? (.obj m) = some c)
    (read : ∀ target : Json, Members.optional? (Json.list? Json.str?) "finalizers"
      (target.mergePatch (.obj [("finalizers", value)])).membersOrNone = some finalizers) :
    ofJson? ((Json.obj m).mergePatch (finalizersPatch value)) =
      some { c with metadata := { c.metadata with finalizers := finalizers } } := by
  simp only [ofJson?, Option.bind_eq_bind, Option.bind_eq_some_iff, Option.pure_def,
    Option.some.injEq] at h
  obtain ⟨d, metadata, s, spec, t, status, rfl⟩ := h
  obtain ⟨w, found, reads⟩ := Option.bind_eq_some_iff.1 metadata
  cases w with
  | obj inner =>
    -- The patch reaches the metadata and nothing beside them.
    have outer : ∀ key ≠ "metadata",
        ((Json.obj m).mergePatch (finalizersPatch value)).get? key = Table.get? key m :=
      fun key other => Json.get?_mergePatch_of_ne other _ _
    have patched : ((Json.obj m).mergePatch (finalizersPatch value)).get? "metadata" =
        some ((Json.obj inner).mergePatch (.obj [("finalizers", value)])) := by
      rw [finalizersPatch, Json.get?_mergePatch_self rfl, Json.get?, found]
      rfl
    have others : ∀ key ≠ "finalizers",
        ((Json.obj inner).mergePatch (.obj [("finalizers", value)])).get? key =
          Table.get? key inner :=
      fun key other => Json.get?_mergePatch_of_ne other _ _
    obtain ⟨after, same⟩ : ∃ after, (Json.obj m).mergePatch (finalizersPatch value) = .obj after :=
      ⟨_, rfl⟩
    simp only [same, Json.get?] at outer patched
    have spec' : Members.required? ConfigSpec.ofJson? "spec" after = some s := by
      rw [Members.required?, outer "spec" (by decide)]
      exact spec
    have status' : Members.optional? Status.ofJson? "status" after = some t := by
      rw [Members.optional?_congr (outer "status" (by decide))]
      exact status
    have metadata' : Members.required? Metadata.ofJson? "metadata" after =
        some { d with finalizers := finalizers } := by
      rw [Members.required?, patched]
      exact Metadata.ofJson?_congr others (read (.obj inner)) reads
    simp only [same, ofJson?, metadata', spec', status']
    rfl
  | _ => cases reads

/-- A patch with a list of one text reads as that list. -/
theorem optional?_finalizers_single (name : String) (target : Json) :
    Members.optional? (Json.list? Json.str?) "finalizers"
      (target.mergePatch (.obj [("finalizers", .arr [.str name])])).membersOrNone =
        some (some [name]) := by
  rw [Members.optional?, ← Json.get?_eq, Json.get?_mergePatch_self rfl]
  rfl

theorem optional?_finalizers_null (target : Json) :
    Members.optional? (Json.list? Json.str?) "finalizers"
      (target.mergePatch (.obj [("finalizers", .null)])).membersOrNone = some none := by
  rw [Members.optional?, ← Json.get?_eq, Json.get?_mergePatch_null]

namespace Http

/-- To fetch something is one exchange. -/
theorem run_fetch {α : Type} {read? : Json → Option α} {method : Method} {text : String}
    {target : Target} {body : Option Json} (addressed : Target.ofText? text = some target) :
    (fetch read? method text body).run =
      .ask (.send ⟨method, target, body⟩) fun reply => .done (textOf reply >>= readAs read?) := by
  unfold fetch send
  simp only [addressed]
  refine congrArg (Program.ask _) (funext fun reply => ?_)
  change (Link.ofExcept (textOf reply) >>= fun text => Link.ofExcept (readAs read? text)).run = _
  cases textOf reply with
  | error f => rfl
  | ok text =>
    change (Link.ofExcept (readAs read? text)).run = .done (readAs read? text)
    cases readAs read? text <;> rfl

/-- How a server may answer that keeps a value under a target. A patch of the value is made, or it
is not made and a failure is reported. What other requests do is left open. -/
def Keeping (own : Target) : Conduct interface Json
  | .send r, v, reply, v' =>
    r.method = .patch → r.target = own → ∀ patch, r.body = some patch →
      v' = v.mergePatch patch ∨ v' = v ∧ isFailure reply.status = true
  | _, v, _, v' => v' = v

namespace Client

variable {own : Target} {name : String} {v v' : Json} {m : Members} {c : Config}

/-- Setting the finalizers is one patch of the resource. -/
theorem run_setFinalizers {value : Json}
    (addressed : Target.ofText? (configs ++ "/" ++ name ++ "?") = some own) :
    (setFinalizers name value).run =
      .ask (.send ⟨.patch, own, some (finalizersPatch value)⟩) fun reply =>
        .done (textOf reply >>= readAs Config.ofJson?) :=
  run_fetch addressed

/-- Removing the finalizers is that, without a look at what is left. -/
theorem carryOut_removeFinalizer (client : Client)
    (addressed : Target.ofText? (configs ++ "/" ++ name ++ "?") = some own) :
    client.carryOut (.removeFinalizer name) =
      .ask (.send ⟨.patch, own, some (finalizersPatch .null)⟩) fun reply =>
        .done ((textOf reply >>= readAs Config.ofJson?).map fun _ => ()) := by
  change (setFinalizers name .null >>= fun _ => pure ()).run = _
  rw [ExceptT.run_bind, run_setFinalizers addressed]
  simp only [Program.ask_bind, Program.done_bind]
  refine congrArg (Program.ask _) (funext fun reply => ?_)
  cases textOf reply >>= readAs Config.ofJson? <;> rfl

theorem textOf_of_isFailure {reply : Response} (failed : isFailure reply.status = true) :
    textOf reply = .error (.refused (refusalOf reply)) := if_pos failed

/-- A patch is made, or the result says that it has failed. -/
theorem exec_patch {α : Type} {patch : Json} {read : Response → Except Fault α}
    {result : Option (Except Fault α)}
    (reports : ∀ reply, isFailure reply.status = true → ∃ f, read reply = .error f)
    (run : Program.Exec (Keeping own)
      (.ask (.send ⟨.patch, own, some patch⟩) fun reply => .done (read reply)) v result v') :
    v' = v.mergePatch patch ∨ v' = v ∧ ∃ f, result = some (.error f) := by
  cases run with
  | @ask _ _ _ _ _ reply _ step rest =>
    cases rest
    rcases step rfl rfl patch rfl with made | ⟨same, failed⟩
    · exact Or.inl made
    · obtain ⟨f, refused⟩ := reports reply failed
      exact Or.inr ⟨same, f, congrArg some refused⟩

theorem exec_addFinalizer {client : Client} {result : Option (Except Fault Config)}
    (addressed : Target.ofText? (configs ++ "/" ++ name ++ "?") = some own)
    (run : Program.Exec (Keeping own) (client.carryOut (.addFinalizer name)) v result v') :
    v' = v.mergePatch (finalizersPatch (.arr [.str finalizerName])) ∨
      v' = v ∧ ∃ f, result = some (.error f) := by
  change Program.Exec _ (setFinalizers name (.arr [.str finalizerName])).run v result v' at run
  rw [run_setFinalizers addressed] at run
  refine exec_patch (fun reply failed => ⟨.refused (refusalOf reply), ?_⟩) run
  rw [textOf_of_isFailure failed]
  rfl

theorem exec_removeFinalizer {client : Client} {result : Option (Except Fault Unit)}
    (addressed : Target.ofText? (configs ++ "/" ++ name ++ "?") = some own)
    (run : Program.Exec (Keeping own) (client.carryOut (.removeFinalizer name)) v result v') :
    v' = v.mergePatch (finalizersPatch .null) ∨ v' = v ∧ ∃ f, result = some (.error f) := by
  rw [carryOut_removeFinalizer client addressed] at run
  refine exec_patch (fun reply failed => ⟨.refused (refusalOf reply), ?_⟩) run
  rw [textOf_of_isFailure failed]
  rfl

/-- **What becomes of the finalizers.** Let a server keep the resource and make the patches that it
is sent. After the finalizer was asked for, it is among the finalizers exactly once, and there is
none that neither was there nor is the operator's. After it was given up, there are no finalizers
left. In either case the rest of the resource is as it was, and it is all as it was if the patch was
not made; then the operator is told so. -/
theorem finalizers_patched (client : Client) {name : String} {own : Target} {m : Members}
    {c : Config} (addressed : Target.ofText? (configs ++ "/" ++ name ++ "?") = some own)
    (stored : Config.ofJson? (.obj m) = some c) :
    (∀ result v', Program.Exec (Keeping own) (client.carryOut (.addFinalizer name)) (.obj m)
        result v' →
      (∃ finalizers, finalizers.count finalizerName = 1 ∧
          (∀ f ∈ finalizers, f = finalizerName ∨ f ∈ c.finalizers) ∧
          Config.ofJson? v' =
            some { c with metadata := { c.metadata with finalizers := some finalizers } }) ∨
        v' = .obj m ∧ ∃ f, result = some (.error f)) ∧
      ∀ result v', Program.Exec (Keeping own) (client.carryOut (.removeFinalizer name)) (.obj m)
          result v' →
        Config.ofJson? v' = some { c with metadata := { c.metadata with finalizers := none } } ∨
          v' = .obj m ∧ ∃ f, result = some (.error f) := by
  constructor
  · intro result v' run
    rcases exec_addFinalizer addressed run with rfl | failed
    · refine Or.inl ⟨[finalizerName], List.count_singleton_self, ?_, ?_⟩
      · exact fun f mem => Or.inl (List.mem_singleton.1 mem)
      · exact Config.ofJson?_mergePatch stored (optional?_finalizers_single finalizerName)
    · exact Or.inr failed
  · intro result v' run
    rcases exec_removeFinalizer addressed run with rfl | failed
    · exact Or.inl (Config.ofJson?_mergePatch stored optional?_finalizers_null)
    · exact Or.inr failed

/-- A server that makes every change it is sent, and answers with the value. -/
def patching : (r : Step) → Json → r.Reply × Json
  | .send r, v =>
    match r.body with
    | some patch => (⟨200, (v.mergePatch patch).compact⟩, v.mergePatch patch)
    | none => (⟨200, v.compact⟩, v)
  | .clock since, v => (Cluster.exactly since, v)
  | .sleep since duration, v => (Cluster.exactly (since + duration), v)
  | .report _, v => ((), v)

theorem keeping_patching (own : Target) (r : Step) (v : Json) :
    Keeping own r v (patching r v).1 (patching r v).2 := by
  cases r with
  | send r =>
    intro _ _ patch body
    rw [patching, body]
    exact Or.inl rfl
  | _ => rfl

/-- The client of the examples. -/
def plain : Client := { defaultNamespace := "default" }

/-- The resource `cluster` with some finalizers, as a server keeps it. -/
def clusterMembers (finalizers : List String) : Members :=
  [("metadata", .obj [("name", .str "cluster"), ("finalizers", Metadata.textsJson finalizers)]),
    ("spec", .obj [("targetNamespace", .str "tekton-pipelines")])]

def clusterConfig (finalizers : List String) : Config where
  metadata := { name := some "cluster", finalizers := some finalizers }
  spec := { targetNamespace := "tekton-pipelines" }
  status := none

def clusterTarget : Target := ⟨"/apis/operator.tekton.dev/v1alpha1/config/cluster", ""⟩

theorem ofText?_cluster :
    Target.ofText? (configs ++ "/" ++ "cluster" ++ "?") = some clusterTarget := by
  decide +kernel

/-- What the server keeps after the finalizer was asked for, with the reply to the client. -/
def added (finalizers : List String) : Option (Except Fault Config) × Json :=
  (plain.carryOut (.addFinalizer "cluster")).run patching (.obj (clusterMembers finalizers))

/-- What it keeps after the finalizer was given up. -/
def removed (finalizers : List String) : Option (Except Fault Unit) × Json :=
  (plain.carryOut (.removeFinalizer "cluster")).run patching (.obj (clusterMembers finalizers))

theorem exec_added (finalizers : List String) :
    Program.Exec (Keeping clusterTarget) (plain.carryOut (.addFinalizer "cluster"))
      (.obj (clusterMembers finalizers)) (added finalizers).1 (added finalizers).2 :=
  Program.exec_run (keeping_patching clusterTarget) _ _

theorem exec_removed (finalizers : List String) :
    Program.Exec (Keeping clusterTarget) (plain.carryOut (.removeFinalizer "cluster"))
      (.obj (clusterMembers finalizers)) (removed finalizers).1 (removed finalizers).2 :=
  Program.exec_run (keeping_patching clusterTarget) _ _

/-- Both requests are granted for a resource that another controller holds too. -/
theorem added_isOk : (added ["example.com/hold"]).1.map Except.isOk = some true := by
  decide +kernel

theorem removed_isOk :
    (removed ["example.com/hold", finalizerName]).1.map Except.isOk = some true := by
  decide +kernel

theorem not_failed {α : Type} {result : Option (Except Fault α)}
    (granted : result.map Except.isOk = some true) : ¬ ∃ f, result = some (.error f) := by
  rintro ⟨f, rfl⟩
  cases granted

/-- A resource that is held by another controller too gets the operator's finalizer, and has none
after it was given up. -/
theorem finalizers_patched_held_by_two :
    let before := ["example.com/hold"]
    let between := ["example.com/hold", finalizerName]
    Config.ofJson? (.obj (clusterMembers before)) = some (clusterConfig before) ∧
      Config.ofJson? (.obj (clusterMembers between)) = some (clusterConfig between) ∧
      (∃ finalizers, finalizers.count finalizerName = 1 ∧
        Config.ofJson? (added before).2 = some (clusterConfig finalizers)) ∧
      Config.ofJson? (removed between).2 = some { clusterConfig between with
        metadata := { (clusterConfig between).metadata with finalizers := none } } := by
  intro before between
  have stored : Config.ofJson? (.obj (clusterMembers before)) = some (clusterConfig before) := rfl
  have stored' : Config.ofJson? (.obj (clusterMembers between)) = some (clusterConfig between) :=
    rfl
  refine ⟨stored, stored', ?_, ?_⟩
  · rcases (finalizers_patched plain ofText?_cluster stored).1 _ _ (exec_added before) with
      ⟨finalizers, once, -, reads⟩ | ⟨-, failed⟩
    · exact ⟨finalizers, once, reads⟩
    · exact absurd failed (not_failed added_isOk)
  · rcases (finalizers_patched plain ofText?_cluster stored').2 _ _ (exec_removed between) with
      reads | ⟨-, failed⟩
    · exact reads
    · exact absurd failed (not_failed removed_isOk)

/-- **The finalizers of others are lost**, on the way in and on the way out. It is not so that they
stay when the operator's is put there, nor that they stay when it is given up. -/
theorem foreign_finalizers_lost :
    (¬ ∀ (client : Client) (name : String) (own : Target) (m : Members) (c : Config),
      Target.ofText? (configs ++ "/" ++ name ++ "?") = some own →
      Config.ofJson? (.obj m) = some c → ∀ result v',
      Program.Exec (Keeping own) (client.carryOut (.addFinalizer name)) (.obj m) result v' →
      (∃ d, Config.ofJson? v' = some d ∧ (∀ f ∈ c.finalizers, f ∈ d.finalizers) ∧
        d.finalizers.count finalizerName = 1) ∨ ∃ f, result = some (.error f)) ∧
    ¬ ∀ (client : Client) (name : String) (own : Target) (m : Members) (c : Config),
      Target.ofText? (configs ++ "/" ++ name ++ "?") = some own →
      Config.ofJson? (.obj m) = some c → ∀ result v',
      Program.Exec (Keeping own) (client.carryOut (.removeFinalizer name)) (.obj m) result v' →
      (∃ d, Config.ofJson? v' = some d ∧
        d.finalizers = c.finalizers.filter (· ≠ finalizerName)) ∨
        ∃ f, result = some (.error f) := by
  constructor
  · intro claim
    rcases claim plain "cluster" clusterTarget _ (clusterConfig ["example.com/hold"])
      ofText?_cluster rfl _ _ (exec_added ["example.com/hold"]) with ⟨d, reads, kept, -⟩ | failed
    · have left : (Config.ofJson? (added ["example.com/hold"]).2).map Config.finalizers =
          some [finalizerName] := by decide +kernel
      rw [reads] at left
      have stays := kept "example.com/hold" (List.mem_singleton_self _)
      rw [Option.some.inj left] at stays
      exact absurd stays (by decide)
    · exact not_failed added_isOk failed
  · intro claim
    rcases claim plain "cluster" clusterTarget _ (clusterConfig ["example.com/hold", finalizerName])
      ofText?_cluster rfl _ _ (exec_removed ["example.com/hold", finalizerName]) with
      ⟨d, reads, kept⟩ | failed
    · have left : (Config.ofJson? (removed ["example.com/hold", finalizerName]).2).map
          Config.finalizers = some [] := by decide +kernel
      rw [reads] at left
      rw [Option.some.inj left] at kept
      exact absurd kept (by decide)
    · exact not_failed removed_isOk failed

end Client

end Http

end PhasedInstall
