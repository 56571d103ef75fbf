import PhasedInstall.Install.Pass
import PhasedInstall.Proofs.Cluster.Work
import PhasedInstall.Proofs.Manifest.Heading

/-!
# Where documents are installed and looked for

A phase installs a group through one chain of transformers and removes it through another, in
another order. Removal finds what was installed because both chains do the same to the heading of
a document: `Phase.place` is what they do, written down once. `mem_prepare` is the one direction,
that everything that is applied has a heading from `place`; `forRemoval_headings` the other, that
removal goes to all of these headings and to no others.
-/

set_option autoImplicit false

namespace PhasedInstall

namespace Document

variable {d d' : Document} {ns : String}

/-- Moves what a document mentions, and the name of a namespace. -/
def readdress (d : Document) (ns : String) : Document :=
  let kind := Text.lowercase d.kind
  if kind = "namespace" then d.setName ns
  else if kind = "clusterrolebinding" then d.setItemNamespaces ["subjects"] ns
  else if kind = "mutatingwebhookconfiguration" ∨ kind = "validatingwebhookconfiguration" then
    d.setWebhookNamespaces ns
  else if kind = "customresourcedefinition" then d.setConversionNamespace ns
  else d

theorem moveInto_eq (d : Document) (ns : String) :
    d.moveInto ns =
      if (d.readdress ns).isClusterScoped then d.readdress ns
      else (d.readdress ns).setNamespace ns := rfl

theorem becomes_readdress (ns : String) (d : Document) :
    d.Becomes (fun h => { h with
      name := if Text.lowercase h.kind = "namespace" then ns else h.name }) (d.readdress ns) := by
  rw [readdress]
  split
  · rename_i isNamespace
    refine (becomes_setName ns d).congr ?_
    simp [heading, identity, isNamespace]
  · rename_i other
    have same : (fun h : Heading => { h with
        name := if Text.lowercase h.kind = "namespace" then ns else h.name }) d.heading =
        id d.heading := by
      simp [heading, identity, other]
    refine Becomes.congr ?_ same.symm
    split
    · exact becomes_modifyAt (by decide) d _ _
    · split
      · exact becomes_modifyAt (by decide) d _ _
      · split
        · exact becomes_modifyAt (by decide) d _ _
        · exact .refl d

theorem becomes_moveInto (ns : String) (d : Document) :
    d.Becomes (Heading.move ns) (d.moveInto ns) := by
  have moved := becomes_readdress ns d
  have kind : (d.readdress ns).kind = d.heading.kind := moved.kind
  rw [moveInto_eq, isClusterScoped, kind]
  split
  · rename_i wide
    refine moved.congr ?_
    simp [Heading.move, wide]
  · rename_i narrow
    refine (moved.trans (becomes_setNamespace ns _)).congr ?_
    simp [Heading.move, narrow]

theorem becomes_settle (ns : String) (d : Document) :
    d.Becomes (Heading.settle ns)
      (if d.hasTrueAnnotation preserveNamespaceKey then d else d.moveInto ns) := by
  have stays : d.heading.stays = d.hasTrueAnnotation preserveNamespaceKey := rfl
  split
  · rename_i kept
    refine (Becomes.refl d).congr ?_
    simp [Heading.settle, stays, kept]
  · rename_i free
    refine (becomes_moveInto ns d).congr ?_
    simp [Heading.settle, stays, free]

/-- A role binding keeps its name, so moving it is writing its namespace. -/
theorem becomes_settle_binding (ns : String) (binding : d.kind = "RoleBinding") :
    d.Becomes (Heading.settle ns)
      (if d.hasTrueAnnotation preserveNamespaceKey then d else d.setNamespace ns) := by
  have kind : d.heading.kind = "RoleBinding" := binding
  have stays : d.heading.stays = d.hasTrueAnnotation preserveNamespaceKey := rfl
  have narrow : isClusterScopedKind "RoleBinding" = false := by decide
  have other : Text.lowercase "RoleBinding" ≠ "namespace" := by decide
  split
  · rename_i kept
    refine (Becomes.refl d).congr ?_
    simp [Heading.settle, stays, kept]
  · rename_i free
    refine (becomes_setNamespace ns d).congr ?_
    simp [Heading.settle, Heading.move, stays, free, kind, narrow, other]

theorem becomes_subjects (ns : String) (d : Document) :
    d.Becomes id
      (if d.hasTrueAnnotation preserveSubjectsKey then d
        else d.setItemNamespaces ["subjects"] ns) := by
  split
  · exact .refl d
  · exact becomes_modifyAt (by decide) d _ _

theorem becomes_setConfigMapKey (name key value : String) (d : Document) :
    d.Becomes id (d.setConfigMapKey name key value) := by
  rw [setConfigMapKey]
  split
  · exact becomes_setPath (by decide) d _ _
  · exact .refl d

theorem becomes_mapArrayAt {key : String} {rest : Pointer} {f : Json → Except Halt Json}
    (apart : Apart key) (ok : ImageOverrides.mapArrayAt d (key :: rest) f = .ok d') :
    d.Becomes id d' := by
  rw [ImageOverrides.mapArrayAt] at ok
  split at ok
  · obtain ⟨items, -, written⟩ := bind_eq_ok ok
    cases written
    exact becomes_modifyAt apart d _ _
  · cases ok
    exact .refl d

end Document

namespace Transformer

variable {t : Transformer} {ts : List Transformer} {g h : Heading → Heading}

/-- The transformer keeps every document and does `g` to its heading, unless it stops. -/
def Turns (t : Transformer) (g : Heading → Heading) : Prop :=
  ∀ d result, t d = .ok result → ∃ d', result = some d' ∧ d.Becomes g d'

theorem turns_keep {f : Document → Document} (becomes : ∀ d : Document, d.Becomes g (f d)) :
    (keep f).Turns g := by
  intro d result ok
  cases ok
  exact ⟨f d, rfl, becomes d⟩

theorem turns_nil : Turns (chain []) id := by
  intro d result ok
  cases ok
  exact ⟨d, rfl, .refl d⟩

theorem Turns.cons (first : t.Turns g) (rest : Turns (chain ts) h) :
    Turns (chain (t :: ts)) (h ∘ g) := by
  intro d result ok
  obtain ⟨r, turned, ok⟩ := bind_eq_ok ok
  obtain ⟨d₁, rfl, becomes⟩ := first d r turned
  obtain ⟨d₂, rfl, becomes'⟩ := rest d₁ result ok
  exact ⟨d₂, rfl, becomes.trans becomes'⟩

theorem Turns.congr (turns : t.Turns g) (same : ∀ x, g x = h x) : t.Turns h := by
  intro d result ok
  obtain ⟨d', rfl, becomes⟩ := turns d result ok
  exact ⟨d', rfl, becomes.congr (same _)⟩

theorem turns_injectOwner (owner : Owner) : (injectOwner owner).Turns id :=
  turns_keep fun d => by
    split
    · exact .refl d
    · exact Document.becomes_setPath_metadata (by decide) d _ _

theorem turns_injectNamespaceConditional (ns : String) :
    (injectNamespaceConditional ns).Turns (Heading.settle ns) :=
  turns_keep (Document.becomes_settle ns)

theorem turns_injectDefaultAccount (account : String) : (injectDefaultAccount account).Turns id :=
  turns_keep (Document.becomes_setConfigMapKey _ _ _)

theorem turns_setAffinityAssistant (disabled : Bool) : (setAffinityAssistant disabled).Turns id :=
  turns_keep (Document.becomes_setConfigMapKey _ _ _)

theorem turns_injectLabel (key value : String) (policy : LabelPolicy) (kinds : List String) :
    (injectLabel key value policy kinds).Turns id :=
  turns_keep fun d => by
    split
    · exact .refl d
    · split
      · exact .refl d
      · exact Document.becomes_setPath_metadata (by decide) d _ _

theorem turns_deploymentImages (images : ImageOverrides) : (deploymentImages images).Turns id := by
  intro d result ok
  rw [deploymentImages] at ok
  split at ok
  · obtain ⟨d', mapped, rfl⟩ := map_eq_ok ok
    exact ⟨d', rfl, Document.becomes_mapArrayAt (by decide) mapped⟩
  · cases ok
    exact ⟨d, rfl, .refl d⟩

theorem turns_taskImages (images : ImageOverrides) : (taskImages images).Turns id := by
  intro d result ok
  rw [taskImages] at ok
  split at ok
  · obtain ⟨d₁, steps, ok⟩ := bind_eq_ok ok
    obtain ⟨d₂, params, rfl⟩ := map_eq_ok ok
    have first := Document.becomes_mapArrayAt (by decide) steps
    have second := Document.becomes_mapArrayAt (by decide) params
    exact ⟨d₂, rfl, first.trans second⟩
  · cases ok
    exact ⟨d, rfl, .refl d⟩

theorem turns_promoteTask : promoteTask.Turns Heading.promote :=
  turns_keep fun d => by
    dsimp only
    split
    · rename_i task
      have renamed := Document.becomes_setKind "ClusterTask" d
      have kind : (d.setKind "ClusterTask").kind = "ClusterTask" := renamed.kind
      have wide : (d.setKind "ClusterTask").isClusterScoped = true := by
        rw [Document.isClusterScoped, kind]
        decide
      rw [if_pos wide]
      refine (renamed.trans (Document.becomes_clearNamespace _)).congr ?_
      simp [Heading.promote, Document.heading, Document.identity, task]
    · rename_i other
      refine (Document.Becomes.refl d).congr ?_
      simp [Heading.promote, Document.heading, Document.identity, other]

/-- A role binding is moved like any other document. -/
theorem turns_injectRoleBindingNamespace (ns : String) :
    (injectRoleBindingNamespace ns).Turns fun h =>
      if h.kind = "RoleBinding" then h.settle ns else h :=
  turns_keep fun d => by
    dsimp only
    split
    · rename_i binding
      have kind : d.heading.kind = "RoleBinding" := binding
      have moved := Document.becomes_settle_binding ns binding
      refine (moved.trans (Document.becomes_subjects ns _)).congr ?_
      simp [kind]
    · rename_i other
      have kind : d.heading.kind ≠ "RoleBinding" := other
      refine (Document.Becomes.refl d).congr ?_
      simp [kind]

/-- No document is lost and none is added. -/
theorem Turns.transformAll (turns : t.Turns g) {ds ds' : List Document}
    (ok : Manifest.transformAll t ds = .ok ds') :
    (∀ d' ∈ ds', ∃ d ∈ ds, d.Becomes g d') ∧ ∀ d ∈ ds, ∃ d' ∈ ds', d.Becomes g d' := by
  induction ds generalizing ds' with
  | nil =>
    cases ok
    simp
  | cons d rest ih =>
    obtain ⟨result, turned, ok⟩ := bind_eq_ok ok
    obtain ⟨d₁, rfl, becomes⟩ := turns d result turned
    obtain ⟨rest', transformed, ok⟩ := bind_eq_ok ok
    cases ok
    obtain ⟨back, forth⟩ := ih transformed
    constructor
    · intro d' mem
      rcases List.mem_cons.1 mem with rfl | mem
      · exact ⟨d, List.mem_cons_self, becomes⟩
      · obtain ⟨d₀, mem₀, becomes₀⟩ := back d' mem
        exact ⟨d₀, List.mem_cons_of_mem _ mem₀, becomes₀⟩
    · intro d₀ mem
      rcases List.mem_cons.1 mem with rfl | mem
      · exact ⟨d₁, List.mem_cons_self, becomes⟩
      · obtain ⟨d', mem', becomes'⟩ := forth d₀ mem
        exact ⟨d', List.mem_cons_of_mem _ mem', becomes'⟩

theorem Turns.transform (turns : Turns (chain ts) g) {m m' : Manifest}
    (ok : m.transform ts = .ok m') :
    (∀ d' ∈ m'.documents, ∃ d ∈ m.documents, d.Becomes g d') ∧
      ∀ d ∈ m.documents, ∃ d' ∈ m'.documents, d.Becomes g d' := by
  obtain ⟨ds', transformed, rfl⟩ := map_eq_ok ok
  exact turns.transformAll transformed

end Transformer

/-- The heading under which a phase installs a document of its group. -/
def Phase.place (phase : Phase) (ns : String) (h : Heading) : Heading :=
  match phase with
  | .applyCommunity => h.promote.settle ns
  | _ => h.settle ns

/-- The only change of a kind is that tasks are promoted. -/
theorem Phase.kind_place_cases (phase : Phase) (ns : String) (h : Heading) :
    (phase.place ns h).kind = h.kind ∨
      h.kind = "Task" ∧ (phase.place ns h).kind = "ClusterTask" := by
  cases phase with
  | applyCommunity =>
    rw [place, Heading.kind_settle, Heading.promote]
    split
    · rename_i task
      exact Or.inr ⟨task, rfl⟩
    · exact Or.inl rfl
  | _ => exact Or.inl (h.kind_settle ns)

namespace Manifest

open Transformer

variable {m m' : Manifest} {phase : Phase} {ns : String}

/-- Preparing runs two chains, one over the role bindings and one over everything else. -/
theorem prepare_eq_ok {owner : Config} {settings : DocumentSettings} {extras : List Transformer}
    (ok : m.prepare owner settings extras = .ok m') :
    ∃ reference rest bindings, owner.ownerReference = .ok reference ∧
      (m.filter fun d => !(d.kind == "RoleBinding")).transform
          ([injectOwner reference, injectNamespaceConditional owner.spec.targetNamespace,
            injectDefaultAccount settings.defaultAccount,
            setAffinityAssistant settings.disableAffinityAssistant] ++ extras) = .ok rest ∧
        (m.filter fun d => d.kind == "RoleBinding").transform
          [injectOwner reference, injectRoleBindingNamespace owner.spec.targetNamespace] =
            .ok bindings ∧
        m' = rest ++ bindings := by
  unfold prepare at ok
  cases owned : owner.ownerReference with
  | error f =>
    rw [owned] at ok
    cases ok
  | ok reference =>
    rw [owned] at ok
    obtain ⟨_, ⟨⟩, ok⟩ := bind_eq_ok ok
    obtain ⟨rest, restOk, ok⟩ := bind_eq_ok ok
    obtain ⟨bindings, bindingsOk, ok⟩ := bind_eq_ok ok
    cases ok
    exact ⟨reference, rest, bindings, rfl, restOk, bindingsOk, rfl⟩

/-- The chain of a phase does to a heading what `place` says. -/
theorem turns_phase (installs : phase ∈ Installation.removalOrder) (reference : Owner) (ns : String)
    (settings : DocumentSettings) (environment : Environment) :
    Turns (chain ([injectOwner reference, injectNamespaceConditional ns,
      injectDefaultAccount settings.defaultAccount,
      setAffinityAssistant settings.disableAffinityAssistant] ++ phase.transformers environment))
      (phase.place ns) := by
  have common {ts : List Transformer} {g : Heading → Heading} (extras : Turns (chain ts) g) :
      Turns (chain (injectOwner reference :: injectNamespaceConditional ns ::
        injectDefaultAccount settings.defaultAccount ::
        setAffinityAssistant settings.disableAffinityAssistant :: ts)) (g ∘ Heading.settle ns) :=
    (turns_injectOwner _).cons <| (turns_injectNamespaceConditional _).cons <|
      (turns_injectDefaultAccount _).cons <| (turns_setAffinityAssistant _).cons extras
  cases phase with
  | applyPipeline => exact common ((turns_deploymentImages _).cons turns_nil)
  | applyTriggers => exact common ((turns_deploymentImages _).cons turns_nil)
  | applyAddons =>
    exact common ((turns_injectLabel _ _ _ _).cons ((turns_taskImages _).cons turns_nil))
  | applyCommunity =>
    have extras := turns_promoteTask.cons
      ((turns_injectLabel providerTypeLabel "community" .overwrite []).cons
        ((turns_taskImages (.ofVariables "IMAGE_ADDONS_" environment)).cons turns_nil))
    exact (common extras).congr fun h => (h.settle_promote ns).symm
  | validatePipeline => exact absurd installs (by decide)
  | validateTriggers => exact absurd installs (by decide)

/-- **What is applied has the heading that its phase gives it.** -/
theorem mem_prepare {owner : Config} {settings : DocumentSettings} {environment : Environment}
    (installs : phase ∈ Installation.removalOrder)
    (ok : m.prepare owner settings (phase.transformers environment) = .ok m') {d' : Document}
    (mem : d' ∈ m'.documents) :
    ∃ d ∈ m.documents, d.Becomes (phase.place owner.spec.targetNamespace) d' := by
  obtain ⟨reference, rest, bindings, -, restOk, bindingsOk, rfl⟩ := prepare_eq_ok ok
  -- Role bindings are no tasks, so for them as well it makes no difference which phase it is.
  rcases List.mem_append.1 mem with mem | mem
  · have turns := turns_phase installs reference owner.spec.targetNamespace settings environment
    obtain ⟨d, memD, becomes⟩ := (turns.transform restOk).1 d' mem
    exact ⟨d, (List.mem_filter.1 memD).1, becomes⟩
  · have turns := (turns_injectOwner reference).cons
      ((turns_injectRoleBindingNamespace owner.spec.targetNamespace).cons turns_nil)
    obtain ⟨d, memD, becomes⟩ := (turns.transform bindingsOk).1 d' mem
    obtain ⟨memD, isBinding⟩ := List.mem_filter.1 memD
    have binding : d.heading.kind = "RoleBinding" := eq_of_beq isBinding
    refine ⟨d, memD, becomes.congr ?_⟩
    cases phase <;> simp [Phase.place, Heading.promote, binding]

/-- **Removal goes to the headings that the phase has given**, and to no others. -/
theorem forRemoval_headings (ok : m.forRemoval phase ns = .ok m') :
    (∀ d' ∈ m'.documents, ∃ d ∈ m.documents, d'.heading = phase.place ns d.heading) ∧
      ∀ d ∈ m.documents, ∃ d' ∈ m'.documents, d'.heading = phase.place ns d.heading := by
  have turns : Turns (chain (phase.removalTransformers ns)) (phase.place ns) := by
    have moved := (turns_injectNamespaceConditional ns).cons turns_nil
    cases phase with
    | applyCommunity => exact turns_promoteTask.cons moved
    | _ => exact moved
  obtain ⟨back, forth⟩ := turns.transform ok
  constructor
  · intro d' mem
    obtain ⟨d, memD, becomes⟩ := back d' mem
    exact ⟨d, memD, becomes.heading⟩
  · intro d mem
    obtain ⟨d', mem', becomes⟩ := forth d mem
    exact ⟨d', mem', becomes.heading⟩

end Manifest

end PhasedInstall
