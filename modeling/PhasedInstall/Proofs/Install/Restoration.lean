import PhasedInstall.Proofs.Install.History
import PhasedInstall.Proofs.Install.Objects

/-!
# Installing and deleting restores the cluster

A run of passes may stop anywhere: phases fail half-way, objects are refused and created anew,
writes get lost, an operator is replaced. When the resource is deleted at last and that pass
succeeds, the cluster holds objects under the same identities as at the start, and everything that
the manifests do not address is what it was.

Two facts meet in `Tracked.restored`. The account of `Tracked` is kept by every step of the run. And
when everything is `Gone` from the addressed identities, what is still there is a namespace without
the mark, which by the account was there at the start.
-/

set_option autoImplicit false

namespace PhasedInstall

open Cluster

/-- Nothing is there under some identities but namespaces without the mark. -/
def Store.Vacant (reach : Identity → Prop) (st : Store) : Prop :=
  ∀ k live, reach k → st.find k = some live → k.kind = "Namespace" ∧ live.isMarked = false

namespace Tracked

variable {reach : Identity → Prop} {start st : Store}

/-- Nothing has happened yet, and the namespaces that are there do not bear the mark. -/
theorem of_start (vacant : start.Vacant reach) : Tracked reach start start where
  frame _ _ := rfl
  present _ _ _ old := old
  mark k live hk _ found := by
    rw [(vacant k live hk found).2, found]
    simp

/-- When everything is gone that has been created, the same objects are there as at the start. -/
theorem restored (h : Tracked reach start st) (vacant : start.Vacant reach)
    (gone : ∀ k, reach k → Gone k st) (k : Identity) :
    (st.find k).isSome = (start.find k).isSome := by
  by_cases hk : reach k
  · cases old : start.find k with
    | none =>
      cases found : st.find k with
      | none => rfl
      | some live =>
        -- It would be an unmarked namespace, and the account says that such a one is old.
        obtain ⟨kind, unmarked⟩ := gone k hk live found
        rw [(h.mark k live hk kind found).2 old] at unmarked
        cases unmarked
    | some live =>
      have there : st.find k ≠ none :=
        h.present k hk (vacant k live hk old).1 (by rw [old]; exact Option.some_ne_none live)
      exact Option.isSome_iff_ne_none.2 there
  · rw [h.frame k hk]

end Tracked

namespace Site

/-- What happens in a cluster: a pass of an operator with the groups of a bundle, or an edit of the
watched resource by somebody else, who may change anything but what is asked for. -/
inductive Step (bundle : Bundle) : Site → Site → Prop
  | pass {i : Installation} {s s' : Site} {result : Option (Except Fault Revisit)} :
      i.bundle = bundle → (i.pass i.operator.watchResource).Exec Conduct s result s' →
      Step bundle s s'
  | edit {s s' : Site} : s'.config.spec = s.config.spec → s'.objects = s.objects →
      Step bundle s s'

abbrev Run (bundle : Bundle) : Site → Site → Prop := Relation.ReflTransGen (Step bundle)

variable {bundle : Bundle} {ns : String} {start : Store} {s s' : Site}

theorem Step.spec (step : Step bundle s s') : s'.config.spec = s.config.spec := by
  cases step with
  | edit same _ => exact same
  | pass _ run => exact run.ensures (ensures_spec _ s)

theorem Step.tracked (step : Step bundle s s') (regular : bundle.Regular)
    (asked : s.config.spec.targetNamespace = ns)
    (before : Tracked (bundle.Addresses ns) start s.objects) :
    Tracked (bundle.Addresses ns) start s'.objects := by
  cases step with
  | edit _ same => rw [same]; exact before
  | @pass i _ _ _ same run =>
    subst same asked
    have performed := Installation.perform_tracked regular i.operator.watchResource
      (i.decide_ne_teardown s.config i.operator.watchResource) s.objects before
    exact run.ensures (Installation.pass_ensures
      (fun _ st => Tracked (i.bundle.Addresses s.config.spec.targetNamespace) start st)
      (fun _ => before) (fun _ => before) performed)

theorem Run.tracked (run : Run bundle s s') (regular : bundle.Regular)
    (asked : s.config.spec.targetNamespace = ns)
    (before : Tracked (bundle.Addresses ns) start s.objects) :
    s'.config.spec.targetNamespace = ns ∧ Tracked (bundle.Addresses ns) start s'.objects := by
  induction run with
  | refl => exact ⟨asked, before⟩
  | tail _ step ih =>
    obtain ⟨asked', tracked⟩ := ih
    exact ⟨by rw [step.spec, asked'], step.tracked regular asked' tracked⟩

/-! ## A cluster that grants everything -/

/-- Answers every request by doing what it asks. -/
def comply : (r : Request) → Site → r.Reply × Site
  | .find d, s => (.ok (s.objects.find d.identity), s)
  | .create d, s => (.ok (), { s with objects := s.objects.put d })
  | .update d, s => (.ok (), { s with objects := s.objects.put d })
  | .delete d _, s => (.ok (), { s with objects := s.objects.erase d.identity })
  | r, s => ((Ledger.succeed r s.config).1, { s with config := (Ledger.succeed r s.config).2 })

theorem conduct_comply (r : Request) (s : Site) : Conduct r s (comply r s).1 (comply r s).2 := by
  cases r with
  | find d => simp [Conduct, Ledger.Conduct, Store.Conduct, comply]
  | create d => exact ⟨rfl, Or.inl rfl⟩
  | update d => exact ⟨rfl, Or.inl rfl⟩
  | delete d policy => exact ⟨rfl, Or.inl rfl⟩
  | _ => exact ⟨Ledger.conduct_succeed _ _, rfl⟩

def afterPass (i : Installation) (s : Site) : Site :=
  ((i.pass i.operator.watchResource).run.run comply s).2

theorem step_afterPass (i : Installation) (s : Site) : Step i.bundle s (afterPass i s) :=
  .pass rfl (Program.exec_run conduct_comply _ s)

/-- The cluster after somebody has asked for the deletion of the watched resource. -/
def requestDeletion (s : Site) : Site :=
  let metadata := { s.config.metadata with deletionTimestamp := some ⟨0, 0, false⟩ }
  { s with config := { s.config with metadata := metadata } }

theorem step_requestDeletion (bundle : Bundle) (s : Site) : Step bundle s (requestDeletion s) :=
  .edit rfl rfl

def declared (kind name : String) : Document :=
  ⟨.obj [("kind", .str kind), ("metadata", .obj [("name", .str name)])]⟩

theorem plain_declared (kind name : String) : (declared kind name).Plain where
  metadata v found := by
    cases found
    rfl
  annotations v found := by cases found

/-- An operator that brings a namespace, a configuration and a task. -/
def sample : Installation where
  operator := Operator.standard
  bundle :=
    { pipeline.documents :=
        [declared "Namespace" "tekton-pipelines", declared "ConfigMap" "config-defaults"]
      community.documents := [declared "Task" "maven"] }
  environment := []

/-- A cluster in which the target namespace and one more object are there already. -/
def occupied : Site where
  config := Ledger.untouched
  objects :=
    ((Store.mk (fun _ => none) (fun _ _ found => by cases found)).put
      (declared "Namespace" Operator.defaultTargetNamespace)).put (declared "Secret" "login")

theorem mem_sample {phase : Phase} {d : Document}
    (mem : d ∈ (sample.bundle.forPhase phase).documents) : ∃ kind name, d = declared kind name := by
  cases phase with
  | applyPipeline | validatePipeline =>
    rcases List.mem_pair.1 mem with rfl | rfl
    · exact ⟨_, _, rfl⟩
    · exact ⟨_, _, rfl⟩
  | applyCommunity => exact ⟨_, _, List.mem_singleton.1 mem⟩
  | _ => cases mem

theorem plain_sample : sample.bundle.Plain := by
  intro phase d mem
  obtain ⟨kind, name, rfl⟩ := mem_sample mem
  exact plain_declared kind name

/-- Only the namespace is there already, and it does not bear the mark. -/
theorem vacant_occupied :
    occupied.objects.Vacant (sample.bundle.Addresses occupied.config.spec.targetNamespace) := by
  rintro _ live ⟨phase, installs, d, mem, rfl⟩ found
  cases phase with
  | applyPipeline =>
    rcases List.mem_pair.1 mem with rfl | rfl
    · obtain rfl : declared "Namespace" Operator.defaultTargetNamespace = live :=
        Option.some.inj found
      exact ⟨rfl, rfl⟩
    · cases found
  | applyCommunity =>
    obtain rfl := List.mem_singleton.1 mem
    cases found
  | validatePipeline => exact absurd installs (by decide)
  | _ => cases mem

/-- **Installing and deleting restores the cluster.** Let the identities that a bundle addresses be
vacant at the start. Whatever happens in a run of passes, after a pass that deletes and succeeds
there are objects under the same identities as at the start, and every object that the bundle does
not address is what it was. -/
theorem deletion_restores {i : Installation} {s₀ : Site} {revisit : Revisit}
    (plain : i.bundle.Plain)
    (vacant : s₀.objects.Vacant (i.bundle.Addresses s₀.config.spec.targetNamespace))
    (run : Run i.bundle s₀ s)
    (deletes : i.decide i.operator.watchResource (some s.config) = .delete)
    (last : (i.pass i.operator.watchResource).Exec Conduct s (some (.ok revisit)) s') :
    (∀ k, (s'.objects.find k).isSome = (s₀.objects.find k).isSome) ∧
      ∀ k, ¬ i.bundle.Addresses s₀.config.spec.targetNamespace k →
        s'.objects.find k = s₀.objects.find k := by
  have regular := plain.regular
  obtain ⟨asked, before⟩ := run.tracked regular rfl (Tracked.of_start vacant)
  have after : Tracked (i.bundle.Addresses s₀.config.spec.targetNamespace) s₀.objects s'.objects :=
    Step.tracked (.pass rfl last) regular asked before
  have gone : ∀ k, i.bundle.Addresses s₀.config.spec.targetNamespace k → Gone k s'.objects := by
    rw [← asked]
    have ends := last.ensures (Installation.pass_ensures
      (fun result st' => ∀ revisit, result = some (.ok revisit) →
        ∀ k, i.bundle.Addresses s.config.spec.targetNamespace k → Gone k st')
      (fun f revisit impossible => by cases impossible)
      (fun nothing => by rw [deletes] at nothing; cases nothing)
      (by rw [deletes]; exact Installation.perform_delete_ensures i s.config _ _))
    exact ends revisit rfl
  exact ⟨after.restored vacant gone, after.frame⟩

/-- Four passes install the sample beside what is there, and a fifth one takes away just that. -/
theorem deletion_restores_occupied :
    let installed := afterPass sample (afterPass sample (afterPass sample
      (afterPass sample occupied)))
    let requested := requestDeletion installed
    let deleted := afterPass sample requested
    sample.bundle.Plain ∧
      occupied.objects.Vacant (sample.bundle.Addresses occupied.config.spec.targetNamespace) ∧
      Run sample.bundle occupied requested ∧
      sample.decide sample.operator.watchResource (some requested.config) = .delete ∧
      (sample.pass sample.operator.watchResource).Exec Conduct requested
        (some (.ok .onChange)) deleted ∧
      installed.config.installStatus = .installed ∧
      (installed.objects.find ⟨"ClusterTask", none, "maven"⟩).isSome = true ∧
      (∀ k, (deleted.objects.find k).isSome = (occupied.objects.find k).isSome) ∧
      ∀ k, ¬ sample.bundle.Addresses occupied.config.spec.targetNamespace k →
        deleted.objects.find k = occupied.objects.find k := by
  intro installed requested deleted
  have run : Run sample.bundle occupied requested :=
    ((((Relation.ReflTransGen.single (step_afterPass sample _)).tail
      (step_afterPass sample _)).tail (step_afterPass sample _)).tail
        (step_afterPass sample _)).tail (step_requestDeletion _ installed)
  have deletes : sample.decide sample.operator.watchResource (some requested.config) = .delete := by
    decide +kernel
  have succeeds : ((sample.pass sample.operator.watchResource).run.run comply requested).1 =
      some (.ok .onChange) := by decide +kernel
  have last : (sample.pass sample.operator.watchResource).Exec Conduct requested
      (some (.ok .onChange)) deleted := by
    rw [← succeeds]
    exact Program.exec_run conduct_comply _ requested
  have complete : installed.config.installStatus = .installed := by decide +kernel
  have brought : (installed.objects.find ⟨"ClusterTask", none, "maven"⟩).isSome = true := by
    decide +kernel
  exact ⟨plain_sample, vacant_occupied, run, deletes, last, complete, brought,
    deletion_restores plain_sample vacant_occupied run deletes last⟩

end Site

end PhasedInstall
