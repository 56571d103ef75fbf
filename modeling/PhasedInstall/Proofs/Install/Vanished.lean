import PhasedInstall.Proofs.Cluster.Calls
import PhasedInstall.Proofs.Install.Restoration

/-!
# A resource that vanished

A resource may disappear although it was held. The operator then removes what the groups address in
its own target namespace, because the namespace that was asked for went away with the resource. So
what becomes of an object depends on whether it is addressed there as well: it is removed if it is,
unless it is a namespace without the mark, and it is left behind if it is not
(`vanished_teardown_iff`).

Some documents are addressed alike for every namespace: those that stay where they are, tasks that
are made available to all namespaces, and the kinds that belong to no namespace, except for
namespaces themselves (`Phase.place_eq_iff`).
-/

set_option autoImplicit false

namespace PhasedInstall

open Cluster

/-! ## Where documents are found again -/

/-- The document is addressed alike for every target namespace. -/
def Phase.Fixed (phase : Phase) (h : Heading) : Prop :=
  h.stays = true ∨ phase = .applyCommunity ∧ h.kind = "Task" ∨
    isClusterScopedKind h.kind = true ∧ Text.lowercase h.kind ≠ "namespace"

theorem Heading.settle_eq_iff (ns ns' : String) (h : Heading) :
    h.settle ns = h.settle ns' ↔ ns = ns' ∨ h.stays = true ∨
      isClusterScopedKind h.kind = true ∧ Text.lowercase h.kind ≠ "namespace" := by
  have given : ((some ns).filter fun n => !n.isEmpty) = ((some ns').filter fun n => !n.isEmpty) ↔
      ns = ns' := by
    by_cases empty : ns = "" <;> by_cases empty' : ns' = "" <;>
      simp [Option.filter, empty, empty', Ne.symm]
  have wide : Text.lowercase h.kind = "namespace" → isClusterScopedKind h.kind = true := by
    intro named
    rw [isClusterScopedKind, named]
    decide
  by_cases stays : h.stays
  · simp [settle, stays]
  · by_cases unbound : isClusterScopedKind h.kind
    · by_cases named : Text.lowercase h.kind = "namespace" <;>
        simp [settle, stays, move, unbound, named]
    · have other : Text.lowercase h.kind ≠ "namespace" := fun named => unbound (wide named)
      simp [settle, stays, move, unbound, other, given]

/-- **Which documents are addressed alike for two namespaces.** -/
theorem Phase.place_eq_iff (phase : Phase) (ns ns' : String) (h : Heading) :
    phase.place ns h = phase.place ns' h ↔ ns = ns' ∨ phase.Fixed h := by
  have promoted : isClusterScopedKind "ClusterTask" = true ∧
      Text.lowercase "ClusterTask" ≠ "namespace" := by decide
  cases phase with
  | applyCommunity =>
    rw [place, place, Heading.settle_eq_iff, Fixed]
    by_cases task : h.kind = "Task"
    · simp [Heading.promote, task, promoted]
    · simp [Heading.promote, task]
  | _ => simp [place, Heading.settle_eq_iff, Fixed]

/-! ## What a removal leaves alone -/

variable {st st' : Store} {k : Identity} {live : Document} {i : Installation} {ns : String}

theorem Document.Removed.keeps {d : Document} (h : d.Removed st st')
    (found : st.find k = some live)
    (spared : d.identity = k → k.kind = "Namespace" ∧ live.isMarked = false) :
    st'.find k = some live := by
  rcases h with rfl | ⟨rfl, marked⟩
  · exact found
  · by_cases same : k = d.identity
    · subst same
      obtain ⟨isNamespace, unmarked⟩ := spared rfl
      obtain ⟨other, there, mark⟩ := marked isNamespace
      cases there.symm.trans found
      rw [unmarked] at mark
      cases mark
    · rw [Store.find_erase_of_ne same]
      exact found

theorem Manifest.removeAll_keeps {policy : DeletePolicy} {ds : List Document}
    (spared : ∀ d ∈ ds, d.identity = k → k.kind = "Namespace" ∧ live.isMarked = false) :
    (removeAll policy ds).Preserves Store.Conduct (·.find k = some live) := by
  induction ds with
  | nil => exact Work.preserves_pure _
  | cons d rest ih =>
    obtain ⟨here, there⟩ := List.forall_mem_cons.1 spared
    have first : (d.remove policy).Preserves Store.Conduct (·.find k = some live) :=
      fun st found => (d.remove_ensures policy st).mono fun _ _ ends => ends.1.keeps found here
    exact first.bind fun _ => ih there

namespace Installation

theorem removePhases_keeps {phases : List Phase}
    (spared : ∀ phase ∈ phases, ∀ d ∈ (i.bundle.forPhase phase).documents,
      (phase.place ns d.heading).toIdentity = k → k.kind = "Namespace" ∧ live.isMarked = false) :
    (i.removePhases ns phases).Preserves Store.Conduct (·.find k = some live) := by
  induction phases with
  | nil => exact Work.preserves_pure _
  | cons phase rest ih =>
    obtain ⟨here, there⟩ := List.forall_mem_cons.1 spared
    refine Work.preserves_ofHalt_bind fun m found => ?_
    refine (Manifest.removeAll_keeps fun d' mem same => ?_).bind fun _ => ih there
    obtain ⟨d, among, heading⟩ := (Manifest.forRemoval_headings found).1 d' (List.mem_reverse.1 mem)
    refine here d among ?_
    rw [← heading]
    exact same

/-- **What a teardown does that succeeds**: it takes away what it addresses, but for namespaces
that were not created here, and leaves everything else where it is. -/
def Cleared (i : Installation) (ns : String) (st st' : Store) : Prop :=
  ∀ k, st'.find k = none ↔ ∀ live, st.find k = some live →
    i.bundle.Addresses ns k ∧ (k.kind = "Namespace" → live.isMarked = true)

theorem teardown_ensures (i : Installation) (ns : String) (st : Store) :
    (i.teardown ns).Ensures Store.Conduct st fun result st' =>
      result = some (.ok ()) → i.Cleared ns st st' := by
  refine Program.ensures_iff.2 fun result st' run ok k => ?_
  obtain ⟨within, gone⟩ := Program.Exec.ensures run (removePhases_ensures i ns removalOrder st)
  constructor
  · intro absent live found
    by_contra excepted
    -- What is not addressed, or has no mark, would still be there.
    have spared : ∀ phase ∈ removalOrder, ∀ d ∈ (i.bundle.forPhase phase).documents,
        (phase.place ns d.heading).toIdentity = k →
          k.kind = "Namespace" ∧ live.isMarked = false := by
      intro phase installs d among same
      have addressed : i.bundle.Addresses ns k := ⟨phase, installs, d, among, same⟩
      simpa [addressed] using excepted
    have kept := Program.Exec.ensures run (removePhases_keeps spared st found)
    cases absent.symm.trans kept
  · intro addressed
    cases left : st'.find k with
    | none => rfl
    | some live =>
      obtain ⟨⟨phase, installs, d, among, rfl⟩, marked⟩ := addressed live (within k live left)
      obtain ⟨isNamespace, unmarked⟩ := gone ok phase installs d among live left
      rw [marked isNamespace] at unmarked
      cases unmarked

end Installation

/-- How a cluster may answer in which the watched resource does not exist any more. -/
def Store.Vacated : PhasedInstall.Conduct Cluster.interface Store
  | .readConfig _, st, reply, st' => st' = st ∧ ∀ c, reply ≠ .ok (some c)
  | r, st, reply, st' => Conduct r st reply st'

theorem Store.Vacated.conduct {r : Request} {reply : r.Reply}
    (step : Vacated r st reply st') : Conduct r st reply st' := by
  cases r with
  | readConfig _ => exact step.1
  | _ => exact step

namespace Installation

/-- A pass for a watched resource that vanished is a teardown, if it succeeds. -/
theorem pass_vacated_ensures (i : Installation) (st : Store) :
    (i.pass i.operator.watchResource).Ensures Store.Vacated st fun result st' =>
      ∀ revisit, result = some (.ok revisit) → i.Cleared i.operator.targetNamespace st st' := by
  have tears : i.decide i.operator.watchResource none = .teardown := by
    simp [decide, Operator.decide]
  refine pass_ensures_of_perform none ?_ ?_ ?_ ?_ ?_
  · exact fun _ _ _ step => step
  · rintro reply st' ⟨same, vanished⟩
    refine ⟨same, fun found there => ?_⟩
    cases found with
    | none => rfl
    | some c => exact absurd there (vanished c)
  · rintro f _ ⟨⟩
  · intro nothing
    rw [tears] at nothing
    cases nothing
  · rw [tears]
    have removes := (i.teardown_ensures i.operator.targetNamespace st).within
      fun _ _ _ _ step => Store.Vacated.conduct step
    refine removes.bind ?_ ?_ ?_
    · intro _ st' cleared _ _
      exact cleared rfl
    · rintro f st' - _ ⟨⟩
    · rintro st' - _ ⟨⟩

end Installation

namespace Site

/-- **What a teardown leaves of an installation whose resource vanished.** Nothing that was created
since the start is left if and only if all of it is addressed in the operator's own target namespace
and every created namespace among it bears the mark. For plain documents the marks are no question,
and the addresses are none where the resource asked for the operator's own target namespace or
where every document is addressed alike for every namespace. -/
theorem vanished_teardown_iff {i : Installation} {s₀ s₁ : Site} {st' : Store} {revisit : Revisit}
    (absent : ∀ k, i.bundle.Addresses s₀.config.spec.targetNamespace k →
      s₀.objects.find k = none)
    (run : Run i.bundle s₀ s₁)
    (last : (i.pass i.operator.watchResource).Exec Store.Vacated s₁.objects
      (some (.ok revisit)) st') :
    ((∀ k, s₀.objects.find k = none → st'.find k = none) ↔
      ∀ k live, s₀.objects.find k = none → s₁.objects.find k = some live →
        i.bundle.Addresses i.operator.targetNamespace k ∧
          (k.kind = "Namespace" → live.isMarked = true)) ∧
    (i.bundle.Plain →
      (∀ phase ∈ Installation.removalOrder, ∀ d ∈ (i.bundle.forPhase phase).documents,
        s₀.config.spec.targetNamespace = i.operator.targetNamespace ∨ phase.Fixed d.heading) →
      ∀ k, s₀.objects.find k = none → st'.find k = none) := by
  have cleared : i.Cleared i.operator.targetNamespace s₁.objects st' :=
    last.ensures (i.pass_vacated_ensures s₁.objects) revisit rfl
  have exact : (∀ k, s₀.objects.find k = none → st'.find k = none) ↔
      ∀ k live, s₀.objects.find k = none → s₁.objects.find k = some live →
        i.bundle.Addresses i.operator.targetNamespace k ∧
          (k.kind = "Namespace" → live.isMarked = true) := by
    constructor
    · exact fun gone k live fresh found => (cleared k).1 (gone k fresh) live found
    · exact fun addressed k fresh => (cleared k).2 fun live found => addressed k live fresh found
  refine ⟨exact, fun plain alike => exact.2 fun k live fresh found => ?_⟩
  have vacant : s₀.objects.Vacant (i.bundle.Addresses s₀.config.spec.targetNamespace) := by
    intro k live addressed there
    rw [absent k addressed] at there
    cases there
  obtain ⟨-, tracked⟩ := run.tracked plain.regular rfl (Tracked.of_start vacant)
  by_cases addressed : i.bundle.Addresses s₀.config.spec.targetNamespace k
  · have marked (isNamespace : k.kind = "Namespace") : live.isMarked = true :=
      (tracked.mark k live addressed isNamespace found).2 fresh
    obtain ⟨phase, installs, d, among, rfl⟩ := addressed
    have again : phase.place s₀.config.spec.targetNamespace d.heading =
        phase.place i.operator.targetNamespace d.heading :=
      (phase.place_eq_iff _ _ _).2 (alike phase installs d among)
    exact ⟨⟨phase, installs, d, among, by rw [again]⟩, marked⟩
  · -- Nothing has been created where nothing is addressed.
    rw [tracked.frame k addressed, fresh] at found
    cases found

/-! ## One installation in two namespaces -/

def vanish : (r : Request) → Store → r.Reply × Store
  | .find d, st => (.ok (st.find d.identity), st)
  | .create d, st => (.ok (), st.put d)
  | .update d, st => (.ok (), st.put d)
  | .delete d _, st => (.ok (), st.erase d.identity)
  | r, st => (vacant r, st)

theorem vacated_vanish (r : Request) (st : Store) :
    Store.Vacated r st (vanish r st).1 (vanish r st).2 := by
  cases r with
  | find d => exact ⟨rfl, fun _ same => (Except.ok.inj same).symm, fun _ same => nomatch same⟩
  | create d => exact Or.inl rfl
  | update d => exact Or.inl rfl
  | delete d policy => exact Or.inl rfl
  | readConfig name => exact ⟨rfl, fun c same => nomatch same⟩
  | _ => rfl

/-- An empty cluster with a resource that asks for a namespace. -/
def asking (ns : String) : Site where
  config := { Ledger.untouched with spec := { targetNamespace := ns } }
  objects := Store.empty

def installed (ns : String) : Site :=
  afterPass sample (afterPass sample (afterPass sample (afterPass sample (asking ns))))

theorem run_installed (ns : String) : Run sample.bundle (asking ns) (installed ns) :=
  (((Relation.ReflTransGen.single (step_afterPass sample _)).tail
    (step_afterPass sample _)).tail (step_afterPass sample _)).tail (step_afterPass sample _)

/-- The objects that are left when the resource has vanished and the next pass is over. -/
def remains (ns : String) : Store :=
  ((sample.pass sample.operator.watchResource).run.run vanish (installed ns).objects).2

theorem exec_remains (ns : String) :
    (sample.pass sample.operator.watchResource).Exec Store.Vacated (installed ns).objects
      ((sample.pass sample.operator.watchResource).run.run vanish (installed ns).objects).1
      (remains ns) :=
  Program.exec_run vacated_vanish _ _

/-- Nothing is left in the operator's own namespace, the namespace itself included. -/
theorem vanished_teardown_at_home :
    let ns := sample.operator.targetNamespace
    sample.bundle.Plain ∧
      (∀ k, sample.bundle.Addresses (asking ns).config.spec.targetNamespace k →
        (asking ns).objects.find k = none) ∧
      Run sample.bundle (asking ns) (installed ns) ∧
      (sample.pass sample.operator.watchResource).Exec Store.Vacated (installed ns).objects
        (some (.ok .onChange)) (remains ns) ∧
      ((installed ns).objects.find ⟨"Namespace", none, ns⟩).isSome = true ∧
      ∀ k, (asking ns).objects.find k = none → (remains ns).find k = none := by
  intro ns
  have absent : ∀ k, sample.bundle.Addresses (asking ns).config.spec.targetNamespace k →
      (asking ns).objects.find k = none := fun _ _ => rfl
  have succeeds : ((sample.pass sample.operator.watchResource).run.run vanish
      (installed ns).objects).1 = some (.ok .onChange) := by decide +kernel
  have last := exec_remains ns
  rw [succeeds] at last
  have there : ((installed ns).objects.find ⟨"Namespace", none, ns⟩).isSome = true := by
    decide +kernel
  have gone := (vanished_teardown_iff absent (run_installed ns) last).2
    plain_sample fun _ _ _ _ => Or.inl rfl
  exact ⟨plain_sample, absent, run_installed ns, last, there, gone⟩

/-- The resource asked for another namespace. The teardown succeeds, but the namespace that was
created for it is left, with its mark, and so is the configuration in it. -/
theorem not_vanished_teardown :
    sample.bundle.Plain ∧
      (∀ k, (asking "custom").objects.find k = none) ∧
      Run sample.bundle (asking "custom") (installed "custom") ∧
      (sample.pass sample.operator.watchResource).Exec Store.Vacated (installed "custom").objects
        (some (.ok .onChange)) (remains "custom") ∧
      ((remains "custom").find ⟨"Namespace", none, "custom"⟩).map Document.isMarked = some true ∧
      ((remains "custom").find ⟨"ConfigMap", some "custom", "config-defaults"⟩).isSome = true := by
  have succeeds : ((sample.pass sample.operator.watchResource).run.run vanish
      (installed "custom").objects).1 = some (.ok .onChange) := by decide +kernel
  have last := exec_remains "custom"
  rw [succeeds] at last
  exact ⟨plain_sample, fun _ => rfl, run_installed "custom", last,
    by decide +kernel, by decide +kernel⟩

end Site

end PhasedInstall
