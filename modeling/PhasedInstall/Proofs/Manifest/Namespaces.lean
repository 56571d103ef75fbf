import PhasedInstall.Proofs.Manifest.Stages

/-!
# The namespaces of what is applied

A document that is prepared declares its own namespace, is named after one if it is a namespace
itself, and mentions others if its kind is known to. `NamespacesSettled` says for all of them what
stands there in the end, in terms of the document that was declared. Two annotations keep what was
declared: one the namespace and all that is mentioned, except for the subjects of a role binding,
which have an annotation of their own.
-/

set_option autoImplicit false

namespace PhasedInstall

open Json (Place)

/-- Where the service is declared that converts between versions. -/
def conversionService : Pointer := ["spec", "conversion", "webhook", "clientConfig", "service"]

/-- Where a webhook declares the service behind it. -/
def webhookService : Pointer := ["clientConfig", "service"]

/-- A subject is given a namespace in the place of its own, if it is to be moved and has one, and
keeps all else. -/
structure Json.Retargeted (moved : Prop) (ns : String) (subject subject' : Json) : Prop where
  others : ∀ key, key ≠ "namespace" → subject'.get? key = subject.get? key
  own : moved → subject'.get? "namespace" = (subject.get? "namespace").map fun _ => .str ns
  kept : ¬ moved ∨ subject.get? "namespace" = none → subject' = subject

/-- A service is found in the namespace, unless it is to stay where it is. -/
def Json.Redirected (stays : Bool) (ns : String) (path : Pointer) (v v' : Json) : Prop :=
  ∀ service, v.at? path = some (.obj service) →
    v'.at? path = some (.obj (if stays then service else Table.put "namespace" (.str ns) service))

namespace Document

/-- The document keeps the namespace that it declares. -/
def stays (d : Document) : Bool := d.hasTrueAnnotation preserveNamespaceKey

/-- The subjects are moved. -/
def MovesSubjects (d : Document) : Prop :=
  d.kind = "RoleBinding" ∧ d.hasTrueAnnotation preserveSubjectsKey = false ∨
    Text.lowercase d.kind = "clusterrolebinding" ∧ d.stays = false

/-- What the items of a list have become, one by one. -/
def ItemsBecome (key : String) (P : Json → Json → Prop) (d d' : Document) : Prop :=
  ∀ items, d.value.at? [key] = some (.arr items) →
    ∃ items', d'.value.at? [key] = some (.arr items') ∧ List.Forall₂ P items items'

/-- What has become of the namespaces of a document. -/
structure NamespacesSettled (phase : Phase) (ns : String) (d d' : Document) : Prop where
  /-- What belongs to a namespace is in the one that was asked for. -/
  own : d'.isClusterScoped = false → d'.value.at? ["metadata", "namespace"] =
    if d.stays then d.value.at? ["metadata", "namespace"] else some (.str ns)
  /-- What belongs to none declares what it declared, unless it has just been promoted. -/
  nowhere : d'.isClusterScoped = true → d'.value.at? ["metadata", "namespace"] =
    if phase = .applyCommunity ∧ d.kind = "Task" then none
    else d.value.at? ["metadata", "namespace"]
  /-- A namespace takes the name. -/
  name : Text.lowercase d.kind = "namespace" → d'.value.at? ["metadata", "name"] =
    if d.stays then d.value.at? ["metadata", "name"] else some (.str ns)
  /-- Subjects that declare a namespace are moved, and no other one is given any. -/
  subjects : ItemsBecome "subjects" (Json.Retargeted d.MovesSubjects ns) d d'
  /-- The service behind every webhook is found in the namespace. -/
  webhooks : Text.lowercase d.kind = "mutatingwebhookconfiguration" ∨
      Text.lowercase d.kind = "validatingwebhookconfiguration" →
    ItemsBecome "webhooks" (Json.Redirected d.stays ns webhookService) d d'
  /-- So is the service that converts between versions. -/
  conversion : Text.lowercase d.kind = "customresourcedefinition" →
    Json.Redirected d.stays ns conversionService d.value d'.value

/-! ## Annotations -/

variable {d d' : Document} {ns : String}

theorem hasTrueAnnotation_congr
    (same : d'.value.at? ["metadata", "annotations"] = d.value.at? ["metadata", "annotations"])
    (key : String) : hasTrueAnnotation d' key = d.hasTrueAnnotation key := by
  unfold hasTrueAnnotation
  rw [annotation?, annotation?, same]

theorem hasTrueAnnotation_owned (reference : Owner) (d : Document) (key : String) :
    hasTrueAnnotation (d.owned reference) key = d.hasTrueAnnotation key :=
  hasTrueAnnotation_congr (at?_owned (by decide) (by decide) reference d) key

theorem stays_owned (reference : Owner) (d : Document) :
    (d.owned reference).stays = d.stays := hasTrueAnnotation_owned reference d _

/-! ## What moving writes -/

theorem namespace_clearNamespace (d : Document) :
    d.clearNamespace.value.at? ["metadata", "namespace"] = none := by
  rw [clearNamespace]
  split
  · rw [at?_metadata (by decide), setPath_eq]
    exact (congrArg _ (metadata_withMetadata _ _)).trans (Table.get?_erase_self _ _)
  · rename_i notObject
    rw [Json.at?_of_names (by decide) (by decide)]
    rcases found : d.value.get? "metadata" with _ | v
    · rfl
    · cases v with
      | obj members => exact absurd found (notObject members)
      | _ => rfl

/-- A document of one of the kinds that mention a namespace is moved by moving what it mentions. -/
theorem settledIn_of_wide (wide : d.isClusterScoped = true) (ns : String) :
    d.settledIn ns = if d.stays then d else d.readdress ns := by
  have wide : (d.readdress ns).isClusterScoped = true := by
    rw [isClusterScoped, kind_readdress]
    exact wide
  rw [settledIn, moveInto_eq, if_pos wide, stays]

theorem isClusterScoped_of_lowercase {word : String} (lower : Text.lowercase d.kind = word)
    (listed : word ∈ clusterScopedKinds) : d.isClusterScoped = true := by
  subst lower
  exact decide_eq_true listed

theorem namespace_settledIn (d : Document) (ns : String) :
    (d.settledIn ns).value.at? ["metadata", "namespace"] =
      if d.isClusterScoped ∨ d.stays then d.value.at? ["metadata", "namespace"]
      else some (.str ns) := by
  by_cases wide : d.isClusterScoped = true
  · rw [if_pos (Or.inl wide)]
    refine at?_settledIn_of_spared (by decide) (fun place moves => ?_) ns
    cases moves with
    | own narrow => exact absurd wide (ne_true_of_eq_false narrow)
    | mention mentions => cases mentions <;> decide
  · have narrow : ¬ (d.readdress ns).isClusterScoped = true := by
      rwa [isClusterScoped, kind_readdress]
    rw [settledIn, moveInto_eq, if_neg narrow, ← stays]
    split
    · rename_i keeps
      exact (if_pos (Or.inr keeps)).symm
    · rename_i moves
      rw [if_neg (not_or.2 ⟨wide, moves⟩)]
      exact at?_setMetadata (by decide) _ _

theorem name_settledIn (lower : Text.lowercase d.kind = "namespace") (ns : String) :
    (d.settledIn ns).value.at? ["metadata", "name"] =
      if d.stays then d.value.at? ["metadata", "name"] else some (.str ns) := by
  rw [settledIn_of_wide (isClusterScoped_of_lowercase lower (by decide)), readdress, lower]
  split
  · rfl
  · exact at?_setMetadata (by decide) d _

/-! ## Subjects -/

theorem subjects_of_same {moved : Prop} (stay : ¬ moved)
    (same : d'.value.at? ["subjects"] = d.value.at? ["subjects"]) :
    ItemsBecome "subjects" (Json.Retargeted moved ns) d d' := by
  intro items found
  refine ⟨items, same.trans found, List.forall₂_same.2 fun subject _ => ?_⟩
  exact ⟨fun _ _ => rfl, fun moves => absurd moves stay, fun _ => rfl⟩

theorem subjects_setItemNamespaces {moved : Prop} (moves : moved) (d : Document) (ns : String) :
    ItemsBecome "subjects" (Json.Retargeted moved ns) d
      (d.setItemNamespaces ["subjects"] ns) := by
  intro items found
  refine ⟨_, (Json.at?_modifyAt (by decide) _ _).trans (congrArg _ found), ?_⟩
  refine List.forall₂_map_right_iff.2 (List.forall₂_same.2 fun subject _ => ?_)
  cases subject with
  | obj members =>
    dsimp only
    split
    · rename_i found
      refine ⟨fun key other => Table.get?_put_of_ne other _ _, fun _ => ?_, fun kept => ?_⟩
      · rw [Json.get?, Json.get?, Table.get?_put_self, found, Option.map_some]
      · rw [Json.get?, found] at kept
        simp [moves] at kept
    · rename_i missing
      refine ⟨fun _ _ => rfl, fun _ => ?_, fun _ => rfl⟩
      rw [Json.get?, missing, Option.map_none]
  | _ => exact ⟨fun _ _ => rfl, fun _ => rfl, fun _ => rfl⟩

theorem subjects_settledIn (other : d.kind ≠ "RoleBinding") (ns : String) :
    ItemsBecome "subjects" (Json.Retargeted d.MovesSubjects ns) d (d.settledIn ns) := by
  by_cases lower : Text.lowercase d.kind = "clusterrolebinding"
  · rw [settledIn_of_wide (isClusterScoped_of_lowercase lower (by decide)), readdress, lower]
    split
    · rename_i stays
      exact subjects_of_same (by simp [MovesSubjects, other, stays]) rfl
    · rename_i moves
      exact subjects_setItemNamespaces (Or.inr ⟨lower, eq_false_of_ne_true moves⟩) d ns
  · refine subjects_of_same (by simp [MovesSubjects, other, lower])
      (at?_settledIn_of_spared (by decide) (fun place moves => ?_) ns)
    cases moves with
    | own => decide
    | mention mentions =>
      cases mentions with
      | subject binding => exact absurd binding lower
      | _ => decide

theorem annotations_setNamespace (d : Document) (ns : String) :
    (d.setNamespace ns).value.at? ["metadata", "annotations"] =
      d.value.at? ["metadata", "annotations"] :=
  (within_setMetadata (R := sparing ["metadata", "annotations"]) (by decide) (by decide) d
    (.str ns)).at?_of_spared (by decide)

/-- The two annotations of a role binding do not get in each other's way. -/
theorem boundIn_eq (d : Document) (ns : String) :
    ∃ moved : Document, moved = (if d.stays then d else d.setNamespace ns) ∧
      d.boundIn ns = if d.hasTrueAnnotation preserveSubjectsKey then moved
        else moved.setItemNamespaces ["subjects"] ns := by
  refine ⟨_, rfl, ?_⟩
  have same : hasTrueAnnotation (if d.stays then d else d.setNamespace ns) preserveSubjectsKey =
      d.hasTrueAnnotation preserveSubjectsKey := by
    split
    · rfl
    · exact hasTrueAnnotation_congr (annotations_setNamespace d ns) _
  rw [← same]
  rfl

theorem subjects_boundIn (binding : d.kind = "RoleBinding") (ns : String) :
    ItemsBecome "subjects" (Json.Retargeted d.MovesSubjects ns) d (d.boundIn ns) := by
  obtain ⟨moved, rfl, written⟩ := d.boundIn_eq ns
  have same : (if d.stays then d else d.setNamespace ns).value.at? ["subjects"] =
      d.value.at? ["subjects"] := by
    split
    · rfl
    · exact (within_setMetadata (R := sparing ["subjects"]) (by decide) (by decide) d
        (.str ns)).at?_of_spared (by decide)
  rw [written]
  split
  · rename_i preserved
    have lower : Text.lowercase "RoleBinding" ≠ "clusterrolebinding" := by decide
    exact subjects_of_same (by simp [MovesSubjects, binding, preserved, lower]) same
  · rename_i moves
    have moves : d.MovesSubjects := Or.inl ⟨binding, eq_false_of_ne_true moves⟩
    intro items found
    exact subjects_setItemNamespaces moves _ ns items (same.trans found)

theorem namespace_boundIn (d : Document) (ns : String) :
    (d.boundIn ns).value.at? ["metadata", "namespace"] =
      if d.stays then d.value.at? ["metadata", "namespace"] else some (.str ns) := by
  obtain ⟨moved, rfl, written⟩ := d.boundIn_eq ns
  have retargeted : ∀ e : Document,
      (e.setItemNamespaces ["subjects"] ns).value.at? ["metadata", "namespace"] =
        e.value.at? ["metadata", "namespace"] := fun e =>
    (within_setItemNamespaces (R := sparing ["metadata", "namespace"]) (by decide) e
      ns).at?_of_spared (by decide)
  have own : (if d.stays then d else d.setNamespace ns).value.at? ["metadata", "namespace"] =
      if d.stays then d.value.at? ["metadata", "namespace"] else some (.str ns) := by
    split
    · rfl
    · exact at?_setMetadata (by decide) d _
  rw [written, ← own]
  split
  · rfl
  · exact retargeted _

/-! ## Services -/

theorem redirected_putNamespace {stays : Bool} (moves : stays = false) {path : Pointer}
    (names : ∀ token ∈ path, Pointer.index? token = none) (ns : String) (v : Json) :
    Json.Redirected stays ns path v (v.modifyAt (putNamespace ns) path) := by
  intro service found
  rw [Json.at?_modifyAt names, found, moves]
  rfl

theorem redirected_of_stays {stays : Bool} (yes : stays = true) (ns : String) (path : Pointer)
    (v : Json) : Json.Redirected stays ns path v v := by
  intro service found
  rw [found, if_pos yes]

theorem webhooks_settledIn (lower : Text.lowercase d.kind = "mutatingwebhookconfiguration" ∨
      Text.lowercase d.kind = "validatingwebhookconfiguration") (ns : String) :
    ItemsBecome "webhooks" (Json.Redirected d.stays ns webhookService) d (d.settledIn ns) := by
  have wide : d.isClusterScoped = true := by
    rcases lower with lower | lower <;> exact isClusterScoped_of_lowercase lower (by decide)
  have moved : d.readdress ns = d.setWebhookNamespaces ns := by
    rw [readdress]
    rcases lower with lower | lower <;> simp [lower]
  intro webhooks found
  rw [settledIn_of_wide wide, moved]
  split
  · rename_i stays
    exact ⟨webhooks, found,
      List.forall₂_same.2 fun webhook _ => redirected_of_stays stays ns _ webhook⟩
  · rename_i moves
    refine ⟨_, (Json.at?_modifyAt (by decide) _ _).trans (congrArg _ found), ?_⟩
    exact List.forall₂_map_right_iff.2 (List.forall₂_same.2 fun webhook _ =>
      redirected_putNamespace (eq_false_of_ne_true moves) (by decide) ns webhook)

theorem conversion_settledIn (lower : Text.lowercase d.kind = "customresourcedefinition")
    (ns : String) :
    Json.Redirected d.stays ns conversionService d.value (d.settledIn ns).value := by
  rw [settledIn_of_wide (isClusterScoped_of_lowercase lower (by decide)), readdress, lower]
  split
  · rename_i stays
    exact redirected_of_stays stays ns _ _
  · rename_i moves
    exact redirected_putNamespace (eq_false_of_ne_true moves) (by decide) ns _

end Document

namespace Manifest

open Document (NamespacesSettled ItemsBecome)

variable {m m' : Manifest} {phase : Phase} {owner : Config} {settings : DocumentSettings}
  {environment : Environment} {reference : Owner} {d d' : Document} {ns : String}

theorem movesSubjects_owned (reference : Owner) (d : Document) :
    (d.owned reference).MovesSubjects ↔ d.MovesSubjects := by
  rw [Document.MovesSubjects, Document.MovesSubjects, Document.kind_owned, Document.stays_owned,
    Document.hasTrueAnnotation_owned]

theorem itemsBecome_of_owned {key : String} {P : Json → Json → Prop} (reference : Owner)
    (observable : Document.Observable [key])
    (spared : ¬ Place.Meets (.ofKeys ["metadata", "ownerReferences"]) (.ofKeys [key]))
    (become : ItemsBecome key P (d.owned reference) d') : ItemsBecome key P d d' := by
  intro items found
  exact become items ((Document.at?_owned observable spared reference d).trans found)

/-- A role binding has subjects, and nothing else that mentions a namespace. -/
theorem namespacesSettled_boundIn (phase : Phase) (binding : d.kind = "RoleBinding")
    (reference : Owner) (kind : d'.kind = d.kind) (bound : d' = (d.owned reference).boundIn ns) :
    NamespacesSettled phase ns d d' := by
  have lower : Text.lowercase "RoleBinding" = "rolebinding" := by decide
  have narrow : isClusterScopedKind "RoleBinding" = false := by decide
  constructor
  case own =>
    intro _
    rw [bound, Document.namespace_boundIn, Document.stays_owned,
      Document.at?_owned (by decide) (by decide)]
  case nowhere =>
    intro wide
    rw [Document.isClusterScoped, kind, binding, narrow] at wide
    cases wide
  case subjects =>
    have become := Document.subjects_boundIn ((d.kind_owned reference).trans binding) ns
    rw [movesSubjects_owned, ← bound] at become
    exact itemsBecome_of_owned reference (by decide) (by decide) become
  all_goals simp [binding, lower]

/-- A promoted task has been taken out of its namespace. -/
theorem namespace_of_promoted {e : Document} (task : e.kind = "Task")
    (ok : Transformer.chain (Phase.applyCommunity.transformers environment) e = .ok (some d')) :
    d'.value.at? ["metadata", "namespace"] = none := by
  obtain ⟨d₁, promoted, ok⟩ := Transformer.chain_cons_eq_ok ok
  have cleared : d₁ = (e.setKind "ClusterTask").clearNamespace := by
    have wide : (e.setKind "ClusterTask").isClusterScoped = true := by
      have kind : (e.setKind "ClusterTask").kind = "ClusterTask" :=
        (Document.becomes_setKind "ClusterTask" e).kind
      rw [Document.isClusterScoped, kind]
      decide
    cases promoted
    exact (if_pos task).trans (if_pos wide)
  have within : d₁.Within (Document.sparing ["metadata", "namespace"]) d' :=
    Transformer.within_catalog (fun _ => by decide) (fun _ => by decide) ok
  rw [within.at?_of_spared (by decide), cleared, Document.namespace_clearNamespace]

section
variable (other : d.kind ≠ "RoleBinding")
  (ok : Transformer.chain (phase.transformers environment)
    (((d.owned reference).settledIn ns).configured settings) = .ok (some d'))
include other ok

/-- What is not written after a document has been moved. -/
theorem at?_of_moved {path : Pointer} (observable : Document.Observable path)
    (spared : ∀ place, phase.Settles ((d.owned reference).settledIn ns) place →
      ¬ place.Meets (.ofKeys path)) :
    d'.value.at? path = ((d.owned reference).settledIn ns).value.at? path := by
  refine at?_of_settled observable ?_ ok spared
  rwa [Document.kind_settledIn, Document.kind_owned]

theorem itemsBecome_of_moved {key : String} {P : Json → Json → Prop}
    (observable : Document.Observable [key])
    (owned : ¬ Place.Meets (.ofKeys ["metadata", "ownerReferences"]) (.ofKeys [key]))
    (spared : ∀ place, phase.Settles ((d.owned reference).settledIn ns) place →
      ¬ place.Meets (.ofKeys [key]))
    (become : ItemsBecome key P (d.owned reference) ((d.owned reference).settledIn ns)) :
    ItemsBecome key P d d' := by
  refine itemsBecome_of_owned reference observable owned fun items found => ?_
  rw [at?_of_moved other ok observable spared]
  exact become items found

/-- The only thing that is settled by moving and written again is the namespace of a promoted
task. -/
theorem namespace_of_unpromoted (unpromoted : ¬ (phase = .applyCommunity ∧ d.kind = "Task")) :
    d'.value.at? ["metadata", "namespace"] =
      if d.isClusterScoped ∨ d.stays then d.value.at? ["metadata", "namespace"]
      else some (.str ns) := by
  have same : ((d.owned reference).settledIn ns).kind = d.kind := by
    rw [Document.kind_settledIn, Document.kind_owned]
  rw [at?_of_moved other ok (by decide) fun place settled => ?_, Document.namespace_settledIn,
    Document.isClusterScoped, Document.kind_owned, Document.stays_owned,
    Document.at?_owned (by decide) (by decide), Document.isClusterScoped]
  cases settled with
  | nowhere community task => exact absurd ⟨community, same ▸ task⟩ unpromoted
  | _ => decide

/-- Any other document is moved as its kind asks for, and a task may be promoted after that. -/
theorem namespacesSettled_settledIn (kind : d'.kind =
      if phase = .applyCommunity ∧ d.kind = "Task" then "ClusterTask" else d.kind) :
    NamespacesSettled phase ns d d' := by
  have kindOwned : (d.owned reference).kind = d.kind := d.kind_owned reference
  have staysOwned : (d.owned reference).stays = d.stays := Document.stays_owned reference d
  constructor
  case own =>
    intro narrow
    have unpromoted : ¬ (phase = .applyCommunity ∧ d.kind = "Task") := by
      intro promoted
      rw [Document.isClusterScoped, kind, if_pos promoted] at narrow
      exact absurd narrow (by decide)
    rw [Document.isClusterScoped, kind, if_neg unpromoted] at narrow
    rw [namespace_of_unpromoted other ok unpromoted, Document.isClusterScoped, narrow]
    simp
  case nowhere =>
    intro wide
    split
    · rename_i promoted
      obtain ⟨rfl, task⟩ := promoted
      refine namespace_of_promoted ?_ ok
      rw [Document.kind_configured, Document.kind_settledIn, kindOwned, task]
    · rename_i unpromoted
      rw [Document.isClusterScoped, kind, if_neg unpromoted] at wide
      exact (namespace_of_unpromoted other ok unpromoted).trans (if_pos (Or.inl wide))
  case name =>
    intro lower
    rw [at?_of_moved other ok (by decide) fun place settled => by cases settled <;> decide,
      Document.name_settledIn (kindOwned ▸ lower), staysOwned,
      Document.at?_owned (by decide) (by decide)]
  case subjects =>
    have become := Document.subjects_settledIn (kindOwned.symm ▸ other) ns
    rw [movesSubjects_owned] at become
    exact itemsBecome_of_moved other ok (by decide) (by decide)
      (fun place settled => by cases settled <;> decide) become
  case webhooks =>
    intro lower
    have become := Document.webhooks_settledIn (kindOwned.symm ▸ lower) ns
    rw [staysOwned] at become
    exact itemsBecome_of_moved other ok (by decide) (by decide)
      (fun place settled => by cases settled <;> decide) become
  case conversion =>
    intro lower service found
    rw [at?_of_moved other ok (by decide) fun place settled => by cases settled <;> decide,
      ← staysOwned]
    refine Document.conversion_settledIn (kindOwned.symm ▸ lower) ns service ?_
    rw [Document.at?_owned (by decide) (by decide), found]

end

/-- **The namespaces of what is applied.** For every phase and every manifest, each document that is
prepared has its namespaces settled as its kind and its annotations say. -/
theorem prepare_settles_namespaces (installs : phase ∈ Installation.removalOrder)
    (ok : m.prepare owner settings (phase.transformers environment) = .ok m') :
    List.Forall₂ (NamespacesSettled phase owner.spec.targetNamespace) m.bindingsLast.documents
      m'.documents := by
  obtain ⟨reference, -, prepares⟩ := prepare_prepares installs ok
  refine prepares.imp fun d d' h => ?_
  have kind := h.kind installs
  rcases h.stages with ⟨binding, bound⟩ | ⟨other, ok⟩
  · rw [if_neg fun promoted => absurd (binding.symm.trans promoted.2) (by decide)] at kind
    exact namespacesSettled_boundIn phase binding reference kind bound
  · exact namespacesSettled_settledIn other ok kind

/-- A role binding that keeps its namespace, with one subject in a namespace and one in none, and a
task. -/
def keptBinding : Manifest :=
  ⟨[binding, boundTask.declared "Task" "maven"]⟩
where
  binding : Document :=
    ⟨.obj [("apiVersion", .str "v1"), ("kind", .str "RoleBinding"),
      ("metadata", .obj [("name", .str "runner"), ("namespace", .str "home"),
        ("annotations", .obj [(preserveNamespaceKey, .str "true")])]),
      ("subjects", .arr [.obj [("name", .str "runner"), ("namespace", .str "home")],
        .obj [("name", .str "reader")]])]⟩

/-- The binding stays and its subject is moved, and the task is in no namespace any more. -/
theorem keptBinding_settles :
    Phase.applyCommunity ∈ Installation.removalOrder ∧
      ∃ task binding, keptBinding.prepare somebody ⟨"runner", true⟩
          (Phase.applyCommunity.transformers []) = .ok ⟨[task, binding]⟩ ∧
        List.Forall₂ (NamespacesSettled .applyCommunity "pipelines")
          keptBinding.bindingsLast.documents [task, binding] ∧
        task.value.at? ["metadata", "namespace"] = none ∧
        binding.value.at? ["metadata", "namespace"] = some (.str "home") ∧
        binding.value.at? ["subjects"] =
          some (.arr [.obj [("name", .str "runner"), ("namespace", .str "pipelines")],
            .obj [("name", .str "reader")]]) := by
  have installs : Phase.applyCommunity ∈ Installation.removalOrder := by decide
  have prepared : keptBinding.prepare somebody ⟨"runner", true⟩
      (Phase.applyCommunity.transformers []) = .ok ⟨[_, _]⟩ := rfl
  exact ⟨installs, _, _, prepared, prepare_settles_namespaces installs prepared, rfl, rfl, rfl⟩

end Manifest

end PhasedInstall
