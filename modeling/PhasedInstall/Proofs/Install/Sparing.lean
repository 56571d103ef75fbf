import Mathlib.Logic.Relation
import PhasedInstall.Proofs.Install.Restoration
import PhasedInstall.Proofs.Manifest.Foreign
import PhasedInstall.Proofs.Manifest.Retained

/-!
# Passes spare what they did not create

Operators of any release, with any manifests, pass over a cluster again and again: they install,
upgrade, create anew and remove, for a resource that reads differently every time, and everything
may fail. A namespace that was there without the mark is spared by all of it, as long as no
manifest sets the mark by itself.

Each pass preserves `Spared`, whichever action it takes. Preparing a document retains its
annotations, so what is applied says nothing about the mark either; what is removed may say
anything.
-/

set_option autoImplicit false

namespace PhasedInstall

open Cluster

theorem Document.Retains.mark {d d' : Document} (h : d.Retains d') : d'.mark = d.mark := by
  rw [Document.mark_eq, Document.mark_eq, h.annotations]

/-- No document of the groups says anything about the mark of the creator. -/
def Bundle.Silent (b : Bundle) : Prop := ∀ phase, (b.forPhase phase).Silent

namespace Installation

variable {a : NamespaceAddress} {mark : Option Json} {i : Installation} {c : Config}
  {phase : Phase}

theorem applyManifest_spares (unmarked : mark ≠ some (.str "true"))
    (silent : i.bundle.Silent) (installs : phase ∈ removalOrder) :
    (i.applyManifest c phase).Preserves a.Conduct.recorded (Spared a mark) := by
  refine Work.preserves_ofHalt_bind fun m prepared => ?_
  have made : ∀ d' ∈ m.documents, d'.value.keysDistinct ∧ d'.mark = none := by
    intro d' mem
    obtain ⟨d, declared, -, retains⟩ := Manifest.prepare_origin installs prepared mem
    refine ⟨retains.distinct (i.bundle.declared phase d declared).distinct, ?_⟩
    rw [retains.mark, silent phase d declared]
  have part {p : Document → Bool} {d : Document} (mem : d ∈ (m.filter p).documents) :=
    made d (List.mem_filter.1 mem).1
  refine Work.Preserves.bind ?_ fun _ => ?_
  · exact Manifest.applyAll_spares (fun d mem => (part mem).1) fun d mem => (part mem).2
  · exact Manifest.applyOrRecreate_spares unmarked (fun d mem => (part mem).1)
      (fun d mem => (part mem).2) _

theorem removePhases_spares (unmarked : mark ≠ some (.str "true")) (ns : String)
    (phases : List Phase) :
    (i.removePhases ns phases).Preserves a.Conduct.recorded (Spared a mark) := by
  induction phases with
  | nil => exact Work.preserves_pure _
  | cons phase rest ih =>
    exact Work.preserves_ofHalt_bind fun m _ =>
      (Manifest.removeAll_spares unmarked _ _).bind fun _ => ih

theorem perform_spares (unmarked : mark ≠ some (.str "true")) (silent : i.bundle.Silent)
    (name : String) (action : Action) (stored : Option Config) :
    (i.perform name action stored).Preserves a.Conduct.recorded (Spared a mark) := by
  refine perform_preserves ?_ ?_ ?_ ?_ name
  · intro r s reply s' leaves step spared
    exact spared.step (NamespaceAddress.harmless_of_still leaves) step
  · intro c _ phase installs
    exact applyManifest_spares unmarked silent installs
  · intro c _
    exact removePhases_spares unmarked _ _
  · intro _
    exact removePhases_spares unmarked _ _

theorem pass_spares (unmarked : mark ≠ some (.str "true")) (silent : i.bundle.Silent)
    (name : String) :
    (i.pass name).Preserves a.Conduct.recorded (Spared a mark) := by
  have reports (event : Event) : (Work.report event).Preserves a.Conduct.recorded (Spared a mark) :=
    Spared.preserves_of_still ⟨rfl, fun _ => trivial⟩
  have reads : (Work.readConfig name).Preserves a.Conduct.recorded (Spared a mark) :=
    Spared.preserves_of_still ⟨rfl, fun _ => trivial⟩
  refine (reports _).bind fun _ => reads.bind fun stored => (reports _).bind fun _ => ?_
  split
  · exact Work.preserves_pure _
  · refine (perform_spares unmarked silent name _ stored).outcome.bind fun result => ?_
    refine (reports _).bind fun _ => ?_
    cases result with
    | ok revisit => exact Work.preserves_pure _
    | error f => exact Work.preserves_throw f

end Installation

namespace NamespaceAddress

/-- A pass, of any operator whose manifests leave the mark to the operator. -/
inductive Step (a : NamespaceAddress) :
    Option Document × Calls → Option Document × Calls → Prop
  | pass {i : Installation} {name : String} {s s' : Option Document × Calls}
      {result : Option (Except Fault Revisit)} : i.bundle.Silent →
      (i.pass name).Exec a.Conduct.recorded s result s' → Step a s s'

abbrev Run (a : NamespaceAddress) : Option Document × Calls → Option Document × Calls → Prop :=
  Relation.ReflTransGen a.Step

theorem Run.spares {a : NamespaceAddress} {mark : Option Json} {s s' : Option Document × Calls}
    (unmarked : mark ≠ some (.str "true")) (run : a.Run s s') (before : Spared a mark s) :
    Spared a mark s' := by
  induction run with
  | refl => exact before
  | tail _ step ih =>
    obtain ⟨silent, pass⟩ := step
    exact pass.ensures (Installation.pass_spares unmarked silent _ _ ih)

/-! ## A cluster with one namespace -/

/-- The address of a namespace in a cluster that heeds whether documents declare another. -/
def plain (name : String) : NamespaceAddress := ⟨name, (· = none)⟩

def identity (name : String) : Identity := ⟨"Namespace", none, name⟩

theorem names_plain {name : String} {d : Document} :
    (plain name).Names d ↔ d.identity = identity name := by
  simp only [Names, plain, identity, Document.identity, Identity.mk.injEq]
  tauto

/-- Grants everything about one namespace, and has everything else already. The watched resource
reads as it is given. -/
def grant (stored : Option Config) (name : String) :
    (r : Request) → Option Document → r.Reply × Option Document
  | .readConfig _, live => (.ok stored, live)
  | .find d, live =>
    (.ok (if d.identity = identity name then live.filter fun o => o.identity = identity name
      else some d), live)
  | .create d, live => (.ok (), if d.identity = identity name then live.or (some d) else live)
  | .update d, live => (.ok (), if d.identity = identity name then some d else live)
  | .delete d _, live => (.ok (), if d.identity = identity name then none else live)
  | r, live => (vacant r, live)

theorem conduct_grant (stored : Option Config) (name : String) (r : Request)
    (live : Option Document) :
    (plain name).Conduct r live (grant stored name r live).1 (grant stored name r live).2 := by
  cases r with
  | find d =>
    refine ⟨rfl, fun found there => ?_⟩
    by_cases here : d.identity = identity name
    · simp only [grant, if_pos here, Except.ok.injEq, Option.filter_eq_some_iff,
        decide_eq_true_eq] at there
      obtain ⟨rfl, own⟩ := there
      rw [← here] at own
      have ns : found.namespace? = d.namespace? := congrArg Identity.ns own
      exact ⟨⟨congrArg Identity.kind own, congrArg Identity.name own, by rw [ns]⟩, fun _ => rfl⟩
    · simp only [grant, if_neg here] at there
      cases there
      exact ⟨⟨rfl, rfl, Iff.rfl⟩, fun named => absurd (names_plain.1 named) here⟩
  | create d =>
    by_cases here : d.identity = identity name
    · simp only [grant, if_pos here]
      cases live with
      | none => exact Or.inr ⟨names_plain.2 here, rfl, rfl⟩
      | some o => exact Or.inl rfl
    · exact Or.inl (by simp only [grant, if_neg here])
  | update d =>
    by_cases here : d.identity = identity name
    · exact Or.inr ⟨names_plain.2 here, by simp only [grant, if_pos here, Option.map_some]⟩
    · exact Or.inl (by simp only [grant, if_neg here])
  | delete d policy =>
    by_cases here : d.identity = identity name
    · exact Or.inr ⟨names_plain.2 here, by simp only [grant, if_pos here]⟩
    · exact Or.inl (by simp only [grant, if_neg here])
  | _ => rfl

-- The label makes the pass write to the namespace, and the configuration is there to be deleted.
def labelling : Installation where
  operator := Operator.standard
  bundle :=
    { pipeline.documents :=
        [(Site.declared "Namespace" "tekton-pipelines").setLabel "monitoring" "true",
          Site.declared "ConfigMap" "config-defaults"] }
  environment := []

theorem mem_labelling {phase : Phase} {d : Document}
    (mem : d ∈ (labelling.bundle.forPhase phase).documents) :
    d = (Site.declared "Namespace" "tekton-pipelines").setLabel "monitoring" "true" ∨
      d = Site.declared "ConfigMap" "config-defaults" := by
  cases phase with
  | applyPipeline | validatePipeline => exact List.mem_pair.1 mem
  | _ => cases mem

theorem silent_labelling : labelling.bundle.Silent := by
  intro phase d mem
  rcases mem_labelling mem with rfl | rfl <;> rfl

def afterPass (stored : Option Config) (name : String) (s : Option Document × Calls) :
    Option Document × Calls :=
  ((labelling.pass labelling.operator.watchResource).run.run
    (recording (grant stored name)) s).2

theorem step_afterPass (stored : Option Config) (name : String) (s : Option Document × Calls) :
    (plain name).Step s (afterPass stored name s) :=
  .pass silent_labelling
    (Program.exec_recording (conduct_grant stored name) _ s)

/-- **A namespace that was not created here is never deleted.** Whatever operators do about it in a
run of passes, and whatever fails, its deletion is not asked for, it is still there, and nobody
has marked it: the mark is what it was, or it is gone. -/
theorem unmarked_namespace_spared {a : NamespaceAddress} {o : Document}
    {s : Option Document × Calls} (unmarked : o.isMarked = false) (run : a.Run (some o, []) s) :
    (∀ e ∈ s.2, ∀ d, e.request.deleted? = some d → ¬ a.Names d) ∧
      ∃ o', s.1 = some o' ∧ o'.isMarked = false ∧ (o'.mark = o.mark ∨ o'.mark = none) := by
  have foreign := (Document.isMarked_eq_false_iff o).1 unmarked
  have start : Spared a o.mark (some o, []) :=
    ⟨⟨o.mark, rfl, Or.inl rfl⟩, List.forall_mem_nil _⟩
  obtain ⟨⟨m, there, kept⟩, unasked⟩ := run.spares foreign start
  obtain ⟨o', still, rfl⟩ := Option.map_eq_some_iff.1 there
  refine ⟨unasked, o', still, ?_, kept⟩
  rw [Document.isMarked_eq_false_iff]
  rcases kept with same | lost
  · rwa [same]
  · simp [lost]

/-- Components are installed into a namespace that was there before, and torn down when their
resource has vanished. The namespace has been written to, and the other object is deleted. -/
theorem unmarked_namespace_spared_by_teardown :
    let o := Site.declared "Namespace" Operator.defaultTargetNamespace
    let installed := afterPass (some Ledger.untouched) Operator.defaultTargetNamespace (some o, [])
    let removed := afterPass none Operator.defaultTargetNamespace installed
    o.isMarked = false ∧ (plain Operator.defaultTargetNamespace).Run (some o, []) removed ∧
      (installed.1.bind fun o' => o'.label? "monitoring") = some "true" ∧
      removed.2.deletions.map Document.identity =
        [⟨"ConfigMap", some Operator.defaultTargetNamespace, "config-defaults"⟩] ∧
      (∀ e ∈ removed.2, ∀ d, e.request.deleted? = some d →
        ¬ (plain Operator.defaultTargetNamespace).Names d) ∧
      ∃ o', removed.1 = some o' ∧ o'.isMarked = false ∧ (o'.mark = o.mark ∨ o'.mark = none) := by
  intro o installed removed
  have unmarked : o.isMarked = false := rfl
  have run : (plain Operator.defaultTargetNamespace).Run (some o, []) removed :=
    (Relation.ReflTransGen.single (step_afterPass _ _ _)).tail (step_afterPass _ _ _)
  have written : (installed.1.bind fun o' => o'.label? "monitoring") = some "true" := by
    decide +kernel
  have deleted : removed.2.deletions.map Document.identity =
      [⟨"ConfigMap", some Operator.defaultTargetNamespace, "config-defaults"⟩] := by
    decide +kernel
  exact ⟨unmarked, run, written, deleted, unmarked_namespace_spared unmarked run⟩

end NamespaceAddress

end PhasedInstall
