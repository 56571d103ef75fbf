import PhasedInstall.Proofs.Install.Failure
import PhasedInstall.Proofs.Install.Reapplying
import PhasedInstall.Proofs.Manifest.Visiting

/-!
# The order in which a phase applies its documents

A phase splits its documents twice. Preparing puts the role bindings behind everything else, and
applying puts the deployments and services behind everything else, those that may be created anew.
`inTurn` is the order that comes of the two, and it is about the documents as they are declared: no
change that a phase makes to a document moves it to another part.

What happens to the documents in this order is one sequence of visits, over the border of the two
parts, for as long as no deployment or service is refused as invalid (`Visited`). A refusal as
invalid of anything else is a failure like any other, and has nothing removed.
-/

set_option autoImplicit false

namespace PhasedInstall

open Cluster

namespace Manifest

variable {m : Manifest} {phase : Phase} {ns : String} {d d' : Document}

/-- The documents of a group in the order in which they are applied. -/
def inTurn (ds : List Document) : List Document :=
  (ds.filter fun d => !(d.kind == "RoleBinding") && !d.needsRecreate) ++
    ds.filter (fun d => d.kind == "RoleBinding") ++ ds.filter Document.needsRecreate

theorem needsRecreate_of_binding (binding : d.kind = "RoleBinding") : d.needsRecreate = false := by
  simp [Document.needsRecreate, binding]

/-- Both ways to split the documents, one after the other. -/
theorem inTurn_eq (m : Manifest) :
    inTurn m.documents = (m.bindingsLast.filter fun d => !d.needsRecreate).documents ++
      (m.bindingsLast.filter Document.needsRecreate).documents := by
  have bindings : (m.documents.filter fun d => d.kind == "RoleBinding").filter
      (fun d => !d.needsRecreate) = m.documents.filter fun d => d.kind == "RoleBinding" := by
    refine List.filter_eq_self.2 fun d mem => ?_
    rw [needsRecreate_of_binding (eq_of_beq (List.mem_filter.1 mem).2)]
    rfl
  have none : (m.documents.filter fun d => d.kind == "RoleBinding").filter
      Document.needsRecreate = [] := by
    refine List.filter_eq_nil_iff.2 fun d mem => ?_
    rw [needsRecreate_of_binding (eq_of_beq (List.mem_filter.1 mem).2)]
    exact Bool.false_ne_true
  have others : (m.documents.filter fun d => !(d.kind == "RoleBinding")).filter
      Document.needsRecreate = m.documents.filter Document.needsRecreate := by
    rw [List.filter_filter]
    refine List.filter_congr fun d _ => ?_
    by_cases binding : d.kind = "RoleBinding"
    · simp [binding, needsRecreate_of_binding binding]
    · simp [binding]
  show _ = List.filter _ (List.filter _ _ ++ List.filter _ _) ++
    List.filter _ (List.filter _ _ ++ List.filter _ _)
  rw [List.filter_append, List.filter_append, bindings, none, others, List.append_nil,
    List.filter_filter, inTurn]
  simp only [Bool.and_comm]

/-- **Every document has its turn once.** -/
theorem inTurn_perm (ds : List Document) : (inTurn ds).Perm ds := by
  have split : inTurn ds = _ := inTurn_eq ⟨ds⟩
  have bindings : (bindingsLast ⟨ds⟩).documents.Perm ds :=
    List.perm_append_comm.trans (List.filter_append_perm _ ds)
  rw [split]
  exact (List.perm_append_comm.trans (List.filter_append_perm _ _)).trans bindings

/-- Promoting a task makes neither a deployment nor a service of it. -/
theorem Places.needsRecreate (h : Places phase ns d d') : d'.needsRecreate = d.needsRecreate := by
  have becomes : d'.kind = (phase.place ns d.heading).kind := h.1.kind
  rcases phase.kind_place_cases ns d.heading with same | ⟨task, promoted⟩
  · have kind : d'.kind = d.kind := becomes.trans same
    rw [Document.needsRecreate, kind, Document.needsRecreate]
  · have before : d.kind = "Task" := task
    have after : d'.kind = "ClusterTask" := becomes.trans promoted
    rw [Document.needsRecreate, after, Document.needsRecreate, before]
    rfl

theorem Places.declared (h : Places phase ns d d') (declared : d.Declared) : d'.Declared where
  kind := by
    have becomes : d'.kind = (phase.place ns d.heading).kind := h.1.kind
    rw [becomes]
    rcases phase.kind_place_cases ns d.heading with same | ⟨-, promoted⟩
    · rw [same]
      exact declared.kind
    · rw [promoted]
      decide
  distinct := h.2.distinct declared.distinct

/-- How a group of documents was visited: by which calls, and with which result. -/
structure Visited (ds : List Document) (result : Option (Except Fault Unit)) (es : Calls) :
    Prop where
  /-- Unless a deployment or service is refused as invalid, the calls are visits in order: a part of
  complete visits, with success all of it, and otherwise up to the call that has failed. -/
  inOrder : (∀ e ∈ es, e.isInvalid → ∀ d, e.request.object? = some d → d.needsRecreate = false) →
    ∃ outcome whole, result = some outcome ∧ Visits ds outcome es ∧ Visits ds (.ok ()) whole ∧
      es.map Exchange.request <+: whole.map Exchange.request
  /-- Where anything else is refused as invalid, that is the end of it. -/
  failed : ∀ e ∈ es, e.isInvalid → ∀ d, e.request.object? = some d → d.needsRecreate = false →
    (∃ f, e.fault? = some f ∧ result = some (.error f)) ∧ es.deletions = []

variable {ds ds' : List Document} {result : Option (Except Fault Unit)} {es more : Calls}

/-- A failure among the documents that are not created anew is the end. -/
theorem visited_of_failure {f : Fault} (h : Visits ds (.error f) es) :
    Visited (ds ++ ds') (some (.error f)) es where
  inOrder _ := by
    have visits : Visits (ds ++ ds') (.error f) es := h.stopped ds'
    obtain ⟨whole, complete, front⟩ := visits.isPrefix
    exact ⟨_, whole, rfl, visits, complete, front⟩
  failed e mem invalid _ _ _ := by
    obtain ⟨granted, call, rfl, before, refused⟩ := h.ends
    rcases List.mem_append.1 mem with mem | mem
    · obtain ⟨g, faulty, -⟩ := Call.refused_of_isInvalid invalid
      cases (before e mem).symm.trans faulty
    · obtain rfl := List.mem_singleton.1 mem
      exact ⟨⟨f, refused, rfl⟩, h.deletions⟩

/-- Those that may be created anew come last, and all that is asked from there on is about them. -/
theorem visited_of_success (first : Visits ds (.ok ()) es)
    (second : (∃ outcome, result = some outcome ∧ Visits ds' outcome more) ∨
      ∃ call ∈ more, call.isInvalid)
    (about : more.Ask fun r => r.isTiming ∨ ∃ d, r.object? = some d ∧ d.needsRecreate) :
    Visited (ds ++ ds') result (es ++ more) := by
  have concerned {e : Call} (mem : e ∈ more) (invalid : e.isInvalid) :
      ∃ d, e.request.object? = some d ∧ d.needsRecreate := by
    rcases about e mem with timing | object
    · obtain ⟨f, refused, -⟩ := Call.refused_of_isInvalid invalid
      cases (Call.fault?_of_isTiming timing).symm.trans refused
    · exact object
  constructor
  case inOrder =>
    intro others
    rcases second with ⟨outcome, rfl, visits⟩ | ⟨call, mem, invalid⟩
    · have both : Visits (ds ++ ds') outcome (es ++ more) := first.append visits
      obtain ⟨whole, complete, front⟩ := both.isPrefix
      exact ⟨outcome, whole, rfl, both, complete, front⟩
    · obtain ⟨d, object, recreated⟩ := concerned mem invalid
      rw [others call (List.mem_append_right es mem) invalid d object] at recreated
      cases recreated
  case failed =>
    intro e mem invalid d object other
    rcases List.mem_append.1 mem with mem | mem
    · obtain ⟨f, faulty, -⟩ := Call.refused_of_isInvalid invalid
      cases (first.ends e mem).symm.trans faulty
    · obtain ⟨x, same, recreated⟩ := concerned mem invalid
      cases object.symm.trans same
      rw [other] at recreated
      cases recreated

end Manifest

namespace Installation

open Manifest

variable {i : Installation} {c : Config} {phase : Phase} {m : Manifest}

theorem applyManifest_visits (ok : i.prepared c phase = .ok m) (declared : m.Declared) :
    (i.applyManifest c phase).Tells
      (Visited ((m.filter fun d => !d.needsRecreate).documents ++
        (m.filter Document.needsRecreate).documents)) := by
  have part {p : Document → Bool} {d : Document} (mem : d ∈ (m.filter p).documents) : d.Declared :=
    declared d (List.mem_filter.1 mem).1
  have about : ((m.filter Document.needsRecreate).applyOrRecreate .standard).Only
      fun r => r.isTiming ∨ ∃ d, r.object? = some d ∧ d.needsRecreate := by
    refine applyOrRecreate_only ?_ ?_ (fun _ => Or.inl rfl) (fun _ _ => Or.inl rfl) _
    · intro d mem r asks
      obtain ⟨x, object⟩ := asks.object?_isSome
      refine Or.inr ⟨x, object, ?_⟩
      rw [Document.needsRecreate, asks.kind (part mem) object]
      exact (List.mem_filter.1 mem).2
    · exact fun d mem => Or.inr ⟨d, rfl, (List.mem_filter.1 mem).2⟩
  rw [applyManifest_eq ok]
  refine Work.Tells.bind (applyAll_tells fun d mem => part mem) ?_ ?_ ?_
  · intro _ es visits
    obtain ⟨_, ⟨⟩, visits⟩ := visits
    refine (Work.tells_exec _).mono fun result more run => ?_
    exact visited_of_success visits
      ((applyOrRecreate_visits (fun d mem => part mem) _).exec run) (about.tells.exec run)
  · intro f es visits
    obtain ⟨_, ⟨⟩, visits⟩ := visits
    exact visited_of_failure visits
  · intro es visits
    obtain ⟨_, ⟨⟩, -⟩ := visits

/-- Preparing either stops the phase before anything is asked, or gives every document its turn. -/
theorem applyManifest_inTurn (installs : phase ∈ removalOrder) :
    (i.applyManifest c phase).Tells fun result es =>
      ((∃ halt, i.prepared c phase = .error halt) ∧ es = [] ∧ result ≠ some (.ok ())) ∨
        ∃ reference ds, c.ownerReference = .ok reference ∧
          List.Forall₂
            (Prepares phase c i.operator.documentSettings i.environment reference)
            (inTurn (i.bundle.forPhase phase).documents) ds ∧ Visited ds result es := by
  cases ok : i.prepared c phase with
  | error halt =>
    rw [applyManifest, ← prepared, ok]
    cases halt with
    | fault f => exact Work.tells_throw (Or.inl ⟨⟨_, rfl⟩, rfl, by simp⟩)
    | crash => exact Program.tells_crash (Or.inl ⟨⟨_, rfl⟩, rfl, by simp⟩)
  | ok m =>
    obtain ⟨reference, owned, prepares⟩ := prepare_prepares installs ok
    have becomes : ∀ d' ∈ m.documents, d'.Declared := by
      intro d' mem
      obtain ⟨d, among, places⟩ := prepare_origin installs ok mem
      exact places.declared (i.bundle.declared phase d among)
    have places {d d' : Document}
        (h : Prepares phase c i.operator.documentSettings i.environment reference d d') :
        d'.needsRecreate = d.needsRecreate := (h.places installs).needsRecreate
    refine (applyManifest_visits ok becomes).mono fun result es visited => Or.inr ?_
    refine ⟨reference, _, owned, ?_, visited⟩
    rw [inTurn_eq]
    refine List.rel_append (List.rel_filter ?_ prepares) (List.rel_filter ?_ prepares)
    · intro d d' h
      simp [places h]
    · intro d d' h
      simp [places h]

theorem work_applies (installs : phase ∈ removalOrder) :
    (i.work c phase).Tells fun own es =>
      ∃ result, (i.applyManifest c phase).Exec heard [] result es ∧
        own = result.map (Except.map fun _ => true) := by
  have applies : (do let _ ← i.applyManifest c phase; return true : Work Bool).Tells fun own es =>
      ∃ result, (i.applyManifest c phase).Exec heard [] result es ∧
        own = result.map (Except.map fun _ => true) := by
    refine Work.Tells.bind (Work.tells_exec _) ?_ ?_ ?_
    · intro a es run
      refine Work.tells_pure ⟨some (.ok a), ?_, rfl⟩
      rw [List.append_nil]
      exact run
    · exact fun f es run => ⟨_, run, rfl⟩
    · exact fun es run => ⟨_, run, rfl⟩
  cases phase with
  | validatePipeline => exact absurd installs (by decide)
  | validateTriggers => exact absurd installs (by decide)
  | _ => exact applies

/-- **A phase visits every document once, in order.** Whatever it is answered, a phase that applies
a group first visits the documents, and what follows is made of the outcome. The documents that it
visits are those of the group, each prepared by itself and in the place where it has its turn:
those that are neither role bindings, deployments nor services, then the role bindings, then the
deployments and services. Unless one of the last is refused as invalid, the visits go through them
in order, all of them if the phase has succeeded in applying the group, and otherwise up to the
first call that has failed. If anything else is refused as invalid, the phase fails with that, and
nothing is asked to be deleted. -/
theorem phase_visits_in_order {result : Option (Except Fault Revisit)} {es : Calls}
    (installs : phase ∈ removalOrder) (run : (i.runPhase c phase).Exec heard [] result es) :
    (inTurn (i.bundle.forPhase phase).documents).Perm (i.bundle.forPhase phase).documents ∧
      ∃ outcome visits after, es = visits ++ after ∧ after.Ask (·.isObjectCall = false) ∧
        i.Concluded c phase (outcome.map (Except.map fun _ => true)) result after ∧
        (((∃ halt, i.prepared c phase = .error halt) ∧ visits = [] ∧ outcome ≠ some (.ok ())) ∨
          ∃ reference ds, c.ownerReference = .ok reference ∧
            List.Forall₂
              (Prepares phase c i.operator.documentSettings i.environment reference)
              (inTurn (i.bundle.forPhase phase).documents) ds ∧ Visited ds outcome visits) := by
  refine ⟨inTurn_perm _, ?_⟩
  obtain ⟨own, visits, after, rfl, working, concluded⟩ := (runPhase_tells i c phase).exec run
  obtain ⟨outcome, applying, rfl⟩ := (work_applies installs).exec working
  exact ⟨outcome, visits, after, rfl, concluded.asks, concluded,
    (applyManifest_inTurn installs).exec applying⟩

/-- A group in which what is applied last is declared first. -/
def mixed : Installation :=
  { Ledger.bare "v1" with
    bundle :=
      { pipeline.documents := [boundTask.declared "Deployment" "controller",
          boundTask.declared "RoleBinding" "runner", boundTask.declared "ConfigMap" "settings"] } }

/-- What comes of applying that group in a cluster in which there is nothing yet. -/
def mixedRun : Option (Except Fault Revisit) × Calls :=
  (mixed.runPhase somebody .applyPipeline).run.run (listen fun _ => vacant) []

/-- Every document is looked up and created, the deployment at last. -/
theorem phase_visits_in_order_mixed :
    .applyPipeline ∈ removalOrder ∧
      (mixedRun.2.filterMap fun e =>
          e.request.object?.map fun d => (d.name, e.request.isCreation)) =
        [("settings", false), ("settings", true), ("runner", false), ("runner", true),
          ("controller", false), ("controller", true)] ∧
      ∃ outcome visits after, mixedRun.2 = visits ++ after ∧
        after.Ask (·.isObjectCall = false) ∧
        mixed.Concluded somebody .applyPipeline (outcome.map (Except.map fun _ => true)) mixedRun.1
          after ∧
        (((∃ halt, mixed.prepared somebody .applyPipeline = .error halt) ∧ visits = [] ∧
            outcome ≠ some (.ok ())) ∨
          ∃ reference ds, somebody.ownerReference = .ok reference ∧
            List.Forall₂ (Prepares .applyPipeline somebody mixed.operator.documentSettings
                mixed.environment reference)
              (inTurn (mixed.bundle.forPhase .applyPipeline).documents) ds ∧
            Visited ds outcome visits) := by
  have installs : .applyPipeline ∈ removalOrder := by decide
  have run := Work.exec_listen (fun _ => vacant) (mixed.runPhase somebody .applyPipeline)
  exact ⟨installs, by decide +kernel, (phase_visits_in_order installs run).2⟩

end Installation

end PhasedInstall
