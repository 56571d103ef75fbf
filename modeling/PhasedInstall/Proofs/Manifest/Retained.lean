import Mathlib.Data.List.Forall2
import PhasedInstall.Proofs.Json.Distinct
import PhasedInstall.Proofs.Manifest.Addresses
import PhasedInstall.Proofs.Manifest.Overrides

/-!
# What preparing retains

However a document is prepared, four things about it stay: the version of its kind, its
annotations, that its metadata is an object, and that no object inside it has a key twice. Like the
heading they are proved edit by edit, and an edit writes one top-level field or one field of the
metadata. Unlike the heading they stay as they are, so a chain of transformers retains what each of
its links does.
-/

set_option autoImplicit false

namespace PhasedInstall

namespace Document

variable {d d' d'' : Document} {key : String} {v : Json} {m : Members}

/-- The metadata is given, and it is an object. -/
def HasMetadata (d : Document) : Prop :=
  ∃ members, Table.get? "metadata" d.fields = some (.obj members)

/-- One document is made from another, by edits that leave the rest of it alone. -/
structure Retains (d d' : Document) : Prop where
  version : Table.get? "apiVersion" d'.fields = Table.get? "apiVersion" d.fields
  annotations : Table.get? "annotations" d'.metadata = Table.get? "annotations" d.metadata
  metadata : d.HasMetadata → d'.HasMetadata
  distinct : d.value.keysDistinct → d'.value.keysDistinct

theorem Retains.refl (d : Document) : Retains d d := ⟨rfl, rfl, id, id⟩

theorem Retains.trans (first : Retains d d') (second : Retains d' d'') : Retains d d'' where
  version := second.version.trans first.version
  annotations := second.annotations.trans first.annotations
  metadata := second.metadata ∘ first.metadata
  distinct := second.distinct ∘ first.distinct

theorem distinct_fields (h : d.value.keysDistinct) : (Json.obj d.fields).keysDistinct :=
  Json.keysDistinct_membersOrNone h

theorem distinct_metadata (h : d.value.keysDistinct) : (Json.obj d.metadata).keysDistinct :=
  Json.keysDistinct_membersOrNone (Json.keysDistinct_getD (distinct_fields h) _)

/-! ## Edits -/

theorem retains_withField (version : key ≠ "apiVersion") (metadata : key ≠ "metadata")
    (hv : d.value.keysDistinct → v.keysDistinct) : Retains d (d.withField key v) where
  version := Table.get?_put_of_ne (Ne.symm version) _ _
  annotations := by rw [metadata_withField metadata]
  metadata := by
    rintro ⟨members, found⟩
    refine ⟨members, ?_⟩
    rw [fields_withField, Table.get?_put_of_ne (Ne.symm metadata)]
    exact found
  distinct h := Json.keysDistinct_put (distinct_fields h) (hv h)

theorem hasMetadata_withMetadata (d : Document) (m : Members) : (d.withMetadata m).HasMetadata :=
  ⟨m, Table.get?_put_self _ _ _⟩

theorem retains_withMetadata
    (annotations : Table.get? "annotations" m = Table.get? "annotations" d.metadata)
    (hm : d.value.keysDistinct → (Json.obj m).keysDistinct) : Retains d (d.withMetadata m) where
  version := Table.get?_put_of_ne (by decide) _ _
  annotations := by
    rw [metadata_withMetadata]
    exact annotations
  metadata _ := hasMetadata_withMetadata d m
  distinct h := Json.keysDistinct_put (distinct_fields h) (hm h)

theorem retains_setPath (version : key ≠ "apiVersion") (metadata : key ≠ "metadata")
    (hv : v.keysDistinct) (d : Document) (rest : List String) :
    Retains d (d.setPath (key :: rest) v) := by
  rw [setPath_eq]
  refine retains_withField version metadata fun h => ?_
  exact Json.keysDistinct_setPath rest (Json.keysDistinct_getD (distinct_fields h) key) hv

theorem retains_setPath_metadata (other : key ≠ "annotations") (hv : v.keysDistinct)
    (d : Document) (rest : List String) : Retains d (d.setPath ("metadata" :: key :: rest) v) := by
  rw [setPath_metadata]
  refine retains_withMetadata (Table.get?_put_of_ne (Ne.symm other) _ _) fun h => ?_
  have below := Json.keysDistinct_getD (distinct_metadata h) key
  exact Json.keysDistinct_put (distinct_metadata h) (Json.keysDistinct_setPath rest below hv)

theorem retains_modifyAt {f : Json → Json} (version : key ≠ "apiVersion")
    (metadata : key ≠ "metadata") (name : Pointer.index? key = none)
    (hf : d.value.keysDistinct → ∀ w : Json, w.keysDistinct → (f w).keysDistinct)
    (rest : Pointer) : Retains d (d.modifyAt (key :: rest) f) := by
  rw [modifyAt_eq name]
  cases found : Table.get? key d.fields with
  | none => exact .refl d
  | some child =>
    refine retains_withField version metadata fun h => ?_
    have below : child.keysDistinct :=
      Json.keysDistinct_of_get? (v := .obj d.fields) (distinct_fields h) found
    exact Json.keysDistinct_modifyAt (hf h) rest below

theorem retains_clearNamespace (d : Document) : Retains d d.clearNamespace := by
  rw [clearNamespace]
  split
  · rename_i members found
    have same : d.metadata = members := by
      rw [Document.metadata, fields, ← Json.get?_eq, found]
      rfl
    rw [setPath_eq, Json.setPath]
    refine retains_withMetadata ?_ fun h => ?_
    · rw [Table.get?_erase_of_ne (by decide), same]
    · rw [← same]
      exact Json.keysDistinct_erase (distinct_metadata h)
  · exact .refl d

theorem keysDistinct_putNamespace (ns : String) {w : Json} (h : w.keysDistinct) :
    (putNamespace ns w).keysDistinct := by
  cases w with
  | obj members => exact Json.keysDistinct_put h rfl
  | _ => exact h

theorem retains_setItemNamespaces (version : key ≠ "apiVersion") (metadata : key ≠ "metadata")
    (name : Pointer.index? key = none) (d : Document) (rest : Pointer) (ns : String) :
    Retains d (d.setItemNamespaces (key :: rest) ns) := by
  refine retains_modifyAt version metadata name (fun _ w hw => ?_) rest
  cases w with
  | arr items =>
    refine Json.keysDistinct_map hw fun item hitem => ?_
    cases item with
    | obj members =>
      dsimp only
      split
      · exact Json.keysDistinct_put hitem rfl
      · exact hitem
    | _ => exact hitem
  | _ => exact hw

theorem retains_setWebhookNamespaces (d : Document) (ns : String) :
    Retains d (d.setWebhookNamespaces ns) := by
  refine retains_modifyAt (by decide) (by decide) (by decide) (fun _ w hw => ?_) []
  cases w with
  | arr webhooks =>
    refine Json.keysDistinct_map hw fun webhook hwebhook => ?_
    exact Json.keysDistinct_modifyAt (fun _ => keysDistinct_putNamespace ns) _ hwebhook
  | _ => exact hw

theorem retains_readdress (d : Document) (ns : String) : Retains d (d.readdress ns) := by
  rw [readdress]
  split
  · exact retains_setPath_metadata (by decide) rfl d []
  · split
    · exact retains_setItemNamespaces (by decide) (by decide) (by decide) d [] ns
    · split
      · exact retains_setWebhookNamespaces d ns
      · split
        · exact retains_modifyAt (by decide) (by decide) (by decide)
            (fun _ _ => keysDistinct_putNamespace ns) _
        · exact .refl d

theorem retains_moveInto (d : Document) (ns : String) : Retains d (d.moveInto ns) := by
  rw [moveInto_eq]
  split
  · exact retains_readdress d ns
  · exact (retains_readdress d ns).trans (retains_setPath_metadata (by decide) rfl _ [])

theorem retains_setConfigMapKey (name key value : String) (d : Document) :
    Retains d (d.setConfigMapKey name key value) := by
  rw [setConfigMapKey]
  split
  · exact retains_setPath (by decide) (by decide) rfl d [key]
  · exact .refl d

end Document

theorem forall₂_of_mapM {α β ε : Type} {f : α → Except ε β} {as : List α} {bs : List β}
    (ok : as.mapM f = .ok bs) : List.Forall₂ (fun a b => f a = .ok b) as bs := by
  induction as generalizing bs with
  | nil =>
    cases ok
    exact .nil
  | cons a rest ih =>
    rw [List.mapM_cons] at ok
    obtain ⟨first, firstOk, ok⟩ := bind_eq_ok ok
    obtain ⟨others, othersOk, ok⟩ := bind_eq_ok ok
    cases ok
    exact .cons firstOk (ih othersOk)

theorem exists_of_forall₂ {α β : Type} {R : α → β → Prop} {as : List α} {bs : List β}
    (h : List.Forall₂ R as bs) {b : β} (mem : b ∈ bs) : ∃ a ∈ as, R a b := by
  induction h with
  | nil => cases mem
  | cons here _ ih =>
    rcases List.mem_cons.1 mem with rfl | later
    · exact ⟨_, List.mem_cons_self, here⟩
    · obtain ⟨a, among, related⟩ := ih later
      exact ⟨a, List.mem_cons_of_mem _ among, related⟩

theorem mem_of_mapM_eq_ok {α β ε : Type} {f : α → Except ε β} {as : List α} {bs : List β}
    (ok : as.mapM f = .ok bs) {b : β} (mem : b ∈ bs) : ∃ a ∈ as, f a = .ok b :=
  exists_of_forall₂ (forall₂_of_mapM ok) mem

theorem Document.retains_mapArrayAt {d d' : Document} {key : String} {rest : Pointer}
    {f : Json → Except Halt Json} (version : key ≠ "apiVersion") (metadata : key ≠ "metadata")
    (name : Pointer.index? key = none)
    (hf : ∀ w w' : Json, w.keysDistinct → f w = .ok w' → w'.keysDistinct)
    (ok : ImageOverrides.mapArrayAt d (key :: rest) f = .ok d') : d.Retains d' := by
  rw [ImageOverrides.mapArrayAt] at ok
  split at ok
  · rename_i items found
    obtain ⟨items', mapped, written⟩ := bind_eq_ok ok
    cases written
    refine retains_modifyAt version metadata name (fun distinct _ _ => ?_) rest
    refine Json.keysDistinct_arr_iff.2 fun item mem => ?_
    obtain ⟨old, memOld, replaced⟩ := mem_of_mapM_eq_ok mapped mem
    have below := Json.keysDistinct_of_at? distinct found
    exact hf old item (Json.keysDistinct_arr_iff.1 below old memOld) replaced
  · cases ok
    exact .refl d

/-! ## Transformers -/

namespace Transformer

variable {t : Transformer} {ts : List Transformer}

/-- What the transformer makes of a document retains what no edit touches. -/
def Retains (t : Transformer) : Prop := ∀ d d', t d = .ok (some d') → d.Retains d'

theorem retains_keep {f : Document → Document} (h : ∀ d : Document, d.Retains (f d)) :
    (keep f).Retains := by
  intro d d' ok
  cases ok
  exact h d

theorem retains_nil : Retains (chain []) := by
  intro d d' ok
  cases ok
  exact .refl d

theorem Retains.cons (first : t.Retains) (rest : Retains (chain ts)) :
    Retains (chain (t :: ts)) := by
  intro d d' ok
  obtain ⟨result, turned, ok⟩ := bind_eq_ok ok
  cases result with
  | none => cases ok
  | some d₁ => exact (first d d₁ turned).trans (rest d₁ d' ok)

theorem keysDistinct_toJson (owner : Owner) : owner.toJson.keysDistinct := by
  rcases owner with ⟨_, blocks, controls, _, _, _⟩
  cases blocks <;> cases controls <;> rfl

theorem retains_injectOwner (owner : Owner) : (injectOwner owner).Retains :=
  retains_keep fun d => by
    split
    · exact .refl d
    · refine Document.retains_setPath_metadata (by decide) ?_ d []
      refine Json.keysDistinct_arr_iff.2 fun item mem => ?_
      obtain rfl := List.mem_singleton.1 mem
      exact keysDistinct_toJson owner

theorem retains_injectNamespaceConditional (ns : String) :
    (injectNamespaceConditional ns).Retains :=
  retains_keep fun d => by
    split
    · exact .refl d
    · exact Document.retains_moveInto d ns

theorem retains_injectDefaultAccount (account : String) : (injectDefaultAccount account).Retains :=
  retains_keep (Document.retains_setConfigMapKey _ _ _)

theorem retains_setAffinityAssistant (disabled : Bool) :
    (setAffinityAssistant disabled).Retains :=
  retains_keep (Document.retains_setConfigMapKey _ _ _)

theorem retains_injectLabel (key value : String) (policy : LabelPolicy) (kinds : List String) :
    (injectLabel key value policy kinds).Retains :=
  retains_keep fun d => by
    split
    · exact .refl d
    · split
      · exact .refl d
      · exact Document.retains_setPath_metadata (by decide) rfl d [key]

theorem retains_deploymentImages (images : ImageOverrides) : (deploymentImages images).Retains := by
  intro d d' ok
  rw [deploymentImages] at ok
  split at ok
  · obtain ⟨d₁, mapped, same⟩ := map_eq_ok ok
    cases same
    exact Document.retains_mapArrayAt (by decide) (by decide) (by decide)
      (fun _ _ => ImageOverrides.keysDistinct_replaceContainer) mapped
  · cases ok
    exact .refl d

theorem retains_taskImages (images : ImageOverrides) : (taskImages images).Retains := by
  intro d d' ok
  rw [taskImages] at ok
  split at ok
  · obtain ⟨d₁, steps, ok⟩ := bind_eq_ok ok
    obtain ⟨d₂, params, same⟩ := map_eq_ok ok
    cases same
    have first := Document.retains_mapArrayAt (by decide) (by decide) (by decide)
      (fun _ _ => ImageOverrides.keysDistinct_replaceField) steps
    have second := Document.retains_mapArrayAt (by decide) (by decide) (by decide)
      (fun _ _ => ImageOverrides.keysDistinct_replaceField) params
    exact first.trans second
  · cases ok
    exact .refl d

theorem retains_promoteTask : promoteTask.Retains :=
  retains_keep fun d => by
    split
    · have renamed : d.Retains (d.setKind "ClusterTask") :=
        Document.retains_setPath (by decide) (by decide) rfl d []
      dsimp only
      split
      · exact renamed.trans (Document.retains_clearNamespace _)
      · exact renamed
    · exact .refl d

theorem retains_injectRoleBindingNamespace (ns : String) :
    (injectRoleBindingNamespace ns).Retains :=
  retains_keep fun d => by
    have moved : ∀ d : Document,
        d.Retains (if d.hasTrueAnnotation preserveNamespaceKey then d else d.setNamespace ns) := by
      intro d
      split
      · exact .refl d
      · exact Document.retains_setPath_metadata (by decide) rfl d []
    have subjects : ∀ d : Document, d.Retains
        (if d.hasTrueAnnotation preserveSubjectsKey then d
          else d.setItemNamespaces ["subjects"] ns) := by
      intro d
      split
      · exact .refl d
      · exact Document.retains_setItemNamespaces (by decide) (by decide) (by decide) d [] ns
    split
    · exact (moved d).trans (subjects _)
    · exact .refl d

/-- Every document has its place in the result. -/
theorem Turns.forall₂ {g : Heading → Heading} (turns : t.Turns g) {ds ds' : List Document}
    (ok : Manifest.transformAll t ds = .ok ds') :
    List.Forall₂ (fun d d' => d ∈ ds ∧ t d = .ok (some d')) ds ds' := by
  induction ds generalizing ds' with
  | nil =>
    cases ok
    exact .nil
  | cons d rest ih =>
    obtain ⟨result, turned, ok⟩ := bind_eq_ok ok
    -- A transformer that turns every document into one drops none.
    obtain ⟨d₁, rfl, -⟩ := turns d result turned
    obtain ⟨rest', transformed, ok⟩ := bind_eq_ok ok
    cases ok
    refine .cons ⟨List.mem_cons_self, turned⟩ ((ih transformed).imp ?_)
    rintro x x' ⟨mem, turned⟩
    exact ⟨List.mem_cons_of_mem _ mem, turned⟩

end Transformer

/-! ## The two chains of a phase -/

namespace Manifest

open Transformer

variable {m m' : Manifest} {phase : Phase} {ns : String}

/-- What a phase makes of a document, whether to apply it or to find it again. -/
def Places (phase : Phase) (ns : String) (d d' : Document) : Prop :=
  d.Becomes (phase.place ns) d' ∧ d.Retains d'

theorem places_of_turned {t : Transformer} {g : Heading → Heading} (turns : t.Turns g)
    (retains : t.Retains) {d d' : Document} (same : g d.heading = phase.place ns d.heading)
    (turned : t d = .ok (some d')) : Places phase ns d d' := by
  obtain ⟨_, ⟨⟩, becomes⟩ := turns d (some d') turned
  exact ⟨becomes.congr same, retains d d' turned⟩

/-- The changes that come after the owner and the namespace. -/
theorem retains_settings (phase : Phase) (settings : DocumentSettings) (environment : Environment) :
    Retains (chain ([injectDefaultAccount settings.defaultAccount,
      setAffinityAssistant settings.disableAffinityAssistant] ++
        phase.transformers environment)) := by
  refine (retains_injectDefaultAccount _).cons <| (retains_setAffinityAssistant _).cons ?_
  cases phase with
  | applyPipeline => exact (retains_deploymentImages _).cons retains_nil
  | applyTriggers => exact (retains_deploymentImages _).cons retains_nil
  | applyAddons =>
    exact (retains_injectLabel _ _ _ _).cons ((retains_taskImages _).cons retains_nil)
  | applyCommunity =>
    exact retains_promoteTask.cons
      ((retains_injectLabel _ _ _ _).cons ((retains_taskImages _).cons retains_nil))
  | validatePipeline => exact retains_nil
  | validateTriggers => exact retains_nil

theorem retains_phase (phase : Phase) (reference : Owner) (ns : String)
    (settings : DocumentSettings) (environment : Environment) :
    Retains (chain ([injectOwner reference, injectNamespaceConditional ns,
      injectDefaultAccount settings.defaultAccount,
      setAffinityAssistant settings.disableAffinityAssistant] ++
        phase.transformers environment)) :=
  (retains_injectOwner _).cons <| (retains_injectNamespaceConditional _).cons <|
    retains_settings phase settings environment

/-- The manifest with its role bindings behind everything else. -/
def bindingsLast (m : Manifest) : Manifest :=
  (m.filter fun d => !(d.kind == "RoleBinding")) ++ m.filter fun d => d.kind == "RoleBinding"

/-- The changes that a phase makes to a document of its group in order to apply it. -/
def changes (phase : Phase) (owner : Config) (settings : DocumentSettings)
    (environment : Environment) (reference : Owner) (d : Document) : List Transformer :=
  if d.kind = "RoleBinding" then
    [injectOwner reference, injectRoleBindingNamespace owner.spec.targetNamespace]
  else
    [injectOwner reference, injectNamespaceConditional owner.spec.targetNamespace,
      injectDefaultAccount settings.defaultAccount,
      setAffinityAssistant settings.disableAffinityAssistant] ++ phase.transformers environment

/-- What a phase applies for a document of its group. -/
def Prepares (phase : Phase) (owner : Config) (settings : DocumentSettings)
    (environment : Environment) (reference : Owner) (d d' : Document) : Prop :=
  chain (changes phase owner settings environment reference d) d = .ok (some d')

/-- The two chains of changes, and what they do to headings. -/
theorem turns_changes (installs : phase ∈ Installation.removalOrder) (owner : Config)
    (settings : DocumentSettings) (environment : Environment) (reference : Owner) (d : Document) :
    ∃ g, Turns (chain (changes phase owner settings environment reference d)) g ∧
      Retains (chain (changes phase owner settings environment reference d)) ∧
      g d.heading = phase.place owner.spec.targetNamespace d.heading := by
  unfold changes
  split
  · rename_i binding
    have kind : d.heading.kind = "RoleBinding" := binding
    refine ⟨_, (turns_injectOwner reference).cons
        ((turns_injectRoleBindingNamespace owner.spec.targetNamespace).cons turns_nil),
      (retains_injectOwner reference).cons
        ((retains_injectRoleBindingNamespace owner.spec.targetNamespace).cons retains_nil), ?_⟩
    cases phase <;> simp [Phase.place, Heading.promote, kind]
  · exact ⟨_, turns_phase installs reference _ settings environment,
      retains_phase phase reference _ settings environment, rfl⟩

theorem Prepares.places {owner : Config} {settings : DocumentSettings} {environment : Environment}
    {reference : Owner} {d d' : Document} (installs : phase ∈ Installation.removalOrder)
    (h : Prepares phase owner settings environment reference d d') :
    Places phase owner.spec.targetNamespace d d' := by
  obtain ⟨g, turns, retains, same⟩ :=
    turns_changes installs owner settings environment reference d
  exact places_of_turned turns retains same h

/-- **What is applied, document by document.** Nothing is lost and nothing is added. -/
theorem prepare_prepares {owner : Config} {settings : DocumentSettings} {environment : Environment}
    (installs : phase ∈ Installation.removalOrder)
    (ok : m.prepare owner settings (phase.transformers environment) = .ok m') :
    ∃ reference, owner.ownerReference = .ok reference ∧
      List.Forall₂ (Prepares phase owner settings environment reference) m.bindingsLast.documents
        m'.documents := by
  obtain ⟨reference, rest, bindings, owned, restOk, bindingsOk, rfl⟩ := prepare_eq_ok ok
  obtain ⟨restDocuments, restTurned, rfl⟩ := map_eq_ok restOk
  obtain ⟨bindingDocuments, bindingsTurned, rfl⟩ := map_eq_ok bindingsOk
  refine ⟨reference, owned, List.rel_append ?_ ?_⟩
  · have turns := turns_phase installs reference owner.spec.targetNamespace settings environment
    refine (turns.forall₂ restTurned).imp ?_
    rintro d d' ⟨mem, turned⟩
    have other : d.kind ≠ "RoleBinding" := by simpa using (List.mem_filter.1 mem).2
    rw [Prepares, changes, if_neg other]
    exact turned
  · have turns := (turns_injectOwner reference).cons
      ((turns_injectRoleBindingNamespace owner.spec.targetNamespace).cons turns_nil)
    refine (turns.forall₂ bindingsTurned).imp ?_
    rintro d d' ⟨mem, turned⟩
    have binding : d.kind = "RoleBinding" := eq_of_beq (List.mem_filter.1 mem).2
    rw [Prepares, changes, if_pos binding]
    exact turned

theorem prepare_places {owner : Config} {settings : DocumentSettings} {environment : Environment}
    (installs : phase ∈ Installation.removalOrder)
    (ok : m.prepare owner settings (phase.transformers environment) = .ok m') :
    List.Forall₂ (Places phase owner.spec.targetNamespace) m.bindingsLast.documents
      m'.documents := by
  obtain ⟨reference, -, prepares⟩ := prepare_prepares installs ok
  exact prepares.imp fun _ _ h => h.places installs

/-- What is applied is made of what the manifest declares. -/
theorem prepare_origin {owner : Config} {settings : DocumentSettings} {environment : Environment}
    (installs : phase ∈ Installation.removalOrder)
    (ok : m.prepare owner settings (phase.transformers environment) = .ok m') {d' : Document}
    (mem : d' ∈ m'.documents) :
    ∃ d ∈ m.documents, Places phase owner.spec.targetNamespace d d' := by
  obtain ⟨d, among, places⟩ := exists_of_forall₂ (prepare_places installs ok) mem
  refine ⟨d, ?_, places⟩
  rcases List.mem_append.1 among with among | among <;> exact (List.mem_filter.1 among).1

theorem forRemoval_places (ok : m.forRemoval phase ns = .ok m') :
    List.Forall₂ (Places phase ns) m.documents m'.documents := by
  obtain ⟨documents, turned, rfl⟩ := map_eq_ok ok
  have moved := (turns_injectNamespaceConditional ns).cons turns_nil
  have kept := (retains_injectNamespaceConditional ns).cons retains_nil
  cases phase with
  | applyCommunity =>
    have turns := turns_promoteTask.cons moved
    exact (turns.forall₂ turned).imp fun _ _ h =>
      places_of_turned turns (retains_promoteTask.cons kept) rfl h.2
  | _ => exact (moved.forall₂ turned).imp fun _ _ h => places_of_turned moved kept rfl h.2

end Manifest

end PhasedInstall
