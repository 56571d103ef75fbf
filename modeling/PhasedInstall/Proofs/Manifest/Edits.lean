import PhasedInstall.Proofs.Json.Within
import PhasedInstall.Proofs.Manifest.Retained

/-!
# Where each change writes

Every change that prepares a document writes within a region that its kind and its name decide.
`Document.Moves` are the places that moving a document writes, and `Phase.Settles` those that come
after, from the settings of the operator and from the phase. What has to be an object on the way to
them is `Phase.Opens`.

The statements are about any region that has these places in it. So the same lemmas say where a
document may differ in the end (with the region of all that its phase writes), and that a given
field stays (with the region of everything else, `Document.sparing`).
-/

set_option autoImplicit false

namespace PhasedInstall

open Json (Region Place)

namespace Document

variable {R : Region} {d d' d'' : Document} {key : String}

/-- One document is made from another by edits within a region. A document that is no object is
taken for one without fields, as the edits take it. -/
def Within (R : Region) (d d' : Document) : Prop := Json.Within R (.obj d.fields) (.obj d'.fields)

theorem Within.refl (R : Region) (d : Document) : Within R d d := Json.Within.refl R _

theorem Within.trans (first : Within R d d') (second : Within R d' d'') : Within R d d'' :=
  Json.Within.trans first second

theorem at?_fields (name : Pointer.index? key = none) (rest : Pointer) (d : Document) :
    Json.at? (key :: rest) (.obj d.fields) = d.value.at? (key :: rest) := by
  rw [Json.at?, Json.at?, Json.child?_of_name name, Json.child?_of_name name, Json.get?_eq,
    Json.get?_eq]
  rfl

/-- Where an edit may need an object. -/
def openable : List (List String) := [["metadata"], ["metadata", "labels"], ["data"]]

/-- Everything that does not meet a pointer. -/
def sparing (path : Pointer) : Region where
  writes place :=
    ¬ place.Meets (.ofKeys path) ∧ ∀ outer ∈ openable, ¬ place.Covers (.ofKeys outer)
  opens outer := outer ∈ openable
  apart opened written covers := written.2 _ opened covers

instance (path : Pointer) (place : Place) : Decidable ((sparing path).writes place) :=
  inferInstanceAs (Decidable (_ ∧ _))

instance (path : Pointer) (outer : List String) : Decidable ((sparing path).opens outer) :=
  inferInstanceAs (Decidable (outer ∈ openable))

/-- A pointer of names that leads to a field which no edit has to open. -/
def Observable (path : Pointer) : Prop :=
  path ≠ [] ∧ path ∉ openable ∧ ∀ token ∈ path, Pointer.index? token = none

instance (path : Pointer) : Decidable (Observable path) := inferInstanceAs (Decidable (_ ∧ _ ∧ _))

/-- What a region has no part in has not changed. -/
theorem Within.at?_of_misses {path : Pointer} (h : Within R d d') (observable : Observable path)
    (misses : R.Misses (.ofKeys path)) (closed : ¬ R.opens path) :
    d'.value.at? path = d.value.at? path := by
  obtain ⟨given, -, names⟩ := observable
  have same := Json.Within.follow?_ofKeys h misses closed
  rw [← Json.at?_eq_follow? names, ← Json.at?_eq_follow? names] at same
  cases path with
  | nil => exact absurd rfl given
  | cons key rest =>
    have name := names key List.mem_cons_self
    rwa [at?_fields name, at?_fields name] at same

/-- What edits spare has not changed. -/
theorem Within.at?_of_spared {path : Pointer} (h : Within (sparing path) d d')
    (observable : Observable path) : d'.value.at? path = d.value.at? path :=
  h.at?_of_misses observable (fun _ written => written.1) observable.2.1

/-! ## Edits -/

theorem within_setPath {rest : List String} (written : R.writes (Place.ofKeys (key :: rest)))
    (opened : (R.under (.member key)).OpensAlong rest) (d : Document) (v : Json) :
    Within R d (d.setPath (key :: rest) v) := by
  have edited := Json.Within.setPath_obj written opened d.fields v
  rw [Json.setPath_cons] at edited
  rw [setPath_eq]
  exact edited

theorem within_setMetadata (written : R.writes (Place.ofKeys ["metadata", key]))
    (opened : R.opens ["metadata"]) (d : Document) (v : Json) :
    Within R d (d.setPath ["metadata", key] v) :=
  within_setPath written ⟨opened, trivial⟩ d v

theorem at?_setMetadata (name : Pointer.index? key = none) (d : Document) (v : Json) :
    (d.setPath ["metadata", key] v).value.at? ["metadata", key] = some v := by
  rw [at?_metadata name, setPath_metadata, metadata_withMetadata, Table.get?_put_self]
  rfl

theorem within_modifyAt {f : Json → Json} {rest : Pointer}
    (names : ∀ token ∈ key :: rest, Pointer.index? token = none)
    (inner : ∀ w, d.value.at? (key :: rest) = some w →
      Json.Within (R.along (key :: rest)) w (f w)) :
    Within R d (d.modifyAt (key :: rest) f) := by
  have name := names key List.mem_cons_self
  have edited : Json.Within R (.obj d.fields) (Json.modifyAt f (key :: rest) (.obj d.fields)) := by
    refine Json.Within.modifyAt names fun w found => inner w ?_
    rwa [at?_fields name] at found
  rw [Json.modifyAt_cons name, Json.get?] at edited
  rw [modifyAt_eq name]
  cases found : Table.get? key d.fields with
  | none => exact .refl R d
  | some child =>
    rw [found] at edited
    exact edited

theorem within_clearNamespace (written : R.writes (Place.ofKeys ["metadata", "namespace"]))
    (d : Document) : Within R d d.clearNamespace := by
  rw [clearNamespace]
  split
  · rename_i members found
    have found : Table.get? "metadata" d.fields = some (.obj members) := by
      rw [fields, ← Json.get?_eq]
      exact found
    rw [setPath_eq, Json.setPath]
    refine Json.Within.put ?_ fun missing => ?_
    · rw [found]
      exact Json.Within.erase written
    · rw [found] at missing
      cases missing
  · exact .refl R d

/-! ## Moving -/

/-- The places where a document of a kind mentions a namespace, or is named after one. -/
inductive Mentions (kind : String) : Place → Prop
  | name : Text.lowercase kind = "namespace" → Mentions kind (.ofKeys ["metadata", "name"])
  | subject : Text.lowercase kind = "clusterrolebinding" →
      Mentions kind (.inItems ["subjects"] [.member "namespace"])
  | webhook : Text.lowercase kind = "mutatingwebhookconfiguration" ∨
        Text.lowercase kind = "validatingwebhookconfiguration" →
      Mentions kind (.inItems ["webhooks"] (.ofKeys ["clientConfig", "service", "namespace"]))
  | conversion : Text.lowercase kind = "customresourcedefinition" →
      Mentions kind
        (.ofKeys ["spec", "conversion", "webhook", "clientConfig", "service", "namespace"])

/-- The places that moving a document of a kind into a namespace writes. -/
inductive Moves (kind : String) : Place → Prop
  | own : isClusterScopedKind kind = false → Moves kind (.ofKeys ["metadata", "namespace"])
  | mention {place : Place} : Mentions kind place → Moves kind place

theorem Moves.apart {kind : String} {place : Place} (h : Moves kind place) :
    ∀ keys ∈ openable, ¬ place.Covers (.ofKeys keys) := by
  cases h with
  | own => decide
  | mention mentions => cases mentions <;> decide

theorem within_setItemNamespaces
    (written : R.writes (.inItems ["subjects"] [.member "namespace"])) (d : Document)
    (ns : String) : Within R d (d.setItemNamespaces ["subjects"] ns) := by
  refine within_modifyAt (by decide) fun w _ => ?_
  cases w with
  | arr items =>
    refine Json.Within.items (List.forall₂_map_right_iff.2 (List.forall₂_same.2 fun item _ => ?_))
    cases item with
    | obj members =>
      dsimp only
      split
      · exact Json.Within.field written members _
      · exact .refl _ _
    | _ => exact .refl _ _
  | _ => exact .refl _ _

theorem within_putNamespace (written : R.writes [.member "namespace"]) (ns : String) (w : Json) :
    Json.Within R w (putNamespace ns w) := by
  cases w with
  | obj members => exact .field written members _
  | _ => exact .refl _ _

theorem within_setWebhookNamespaces (written :
      R.writes (.inItems ["webhooks"] (.ofKeys ["clientConfig", "service", "namespace"])))
    (d : Document) (ns : String) : Within R d (d.setWebhookNamespaces ns) := by
  refine within_modifyAt (by decide) fun w _ => ?_
  cases w with
  | arr webhooks =>
    refine Json.Within.items
      (List.forall₂_map_right_iff.2 (List.forall₂_same.2 fun webhook _ => ?_))
    exact Json.Within.modifyAt (by decide) fun service _ => within_putNamespace written ns service
  | _ => exact .refl _ _

theorem kind_readdress (d : Document) (ns : String) : (d.readdress ns).kind = d.kind :=
  (becomes_readdress ns d).kind

theorem within_readdress (mentions : ∀ place, Mentions d.kind place → R.writes place)
    (opened : R.opens ["metadata"]) (ns : String) : Within R d (d.readdress ns) := by
  rw [readdress]
  split
  · rename_i isNamespace
    exact within_setMetadata (mentions _ (.name isNamespace)) opened d _
  · split
    · rename_i isBinding
      exact within_setItemNamespaces (mentions _ (.subject isBinding)) d ns
    · split
      · rename_i isWebhook
        exact within_setWebhookNamespaces (mentions _ (.webhook isWebhook)) d ns
      · split
        · rename_i isDefinition
          have written := mentions _ (.conversion isDefinition)
          exact within_modifyAt (by decide) fun service _ => within_putNamespace written ns service
        · exact .refl R d

theorem within_moveInto (moves : ∀ place, Moves d.kind place → R.writes place)
    (opened : R.opens ["metadata"]) (ns : String) : Within R d (d.moveInto ns) := by
  have readdressed := within_readdress (fun place h => moves place (.mention h)) opened ns
  rw [moveInto_eq]
  split
  · exact readdressed
  · rename_i narrow
    rw [isClusterScoped, kind_readdress] at narrow
    have own := moves _ (.own (eq_false_of_ne_true narrow))
    exact readdressed.trans (within_setMetadata own opened _ _)

/-! ## Settings of the operator -/

/-- The document is the configuration map with a name. -/
def IsConfigMap (d : Document) (name : String) : Prop :=
  d.kind.toList.map Char.toLower = "configmap".toList ∧ d.name = name

/-- Letters of the common alphabet are lowered one by one. -/
theorem lowerChars_of_ascii {cs : List Char} (h : ∀ c ∈ cs, c.toNat < 128) (before : List Char) :
    Text.lowerChars before cs = cs.map Char.toLower := by
  induction cs generalizing before with
  | nil => rfl
  | cons c rest ih =>
    obtain ⟨here, others⟩ := List.forall_mem_cons.1 h
    have sigma : c ≠ Text.capitalSigma := by
      rintro rfl
      exact absurd here (by decide)
    have dotted : c ≠ Text.capitalDottedI := by
      rintro rfl
      exact absurd here (by decide)
    rw [Text.lowerChars, if_neg sigma, if_neg dotted, Text.lowerSimple, if_pos here, ih others]
    rfl

/-- The two ways of ignoring case agree on this word. -/
theorem IsConfigMap.lowercase_kind {name : String} (h : d.IsConfigMap name) :
    Text.lowercase d.kind = "configmap" := by
  have ascii : ∀ c ∈ d.kind.toList, c.toNat < 128 := by
    intro c mem
    have lower : c.toLower ∈ "configmap".toList := h.1 ▸ List.mem_map_of_mem mem
    by_cases capital : c.val ≥ 'A'.val ∧ c.val ≤ 'Z'.val
    · have bound : c.toNat ≤ 'Z'.toNat := capital.2
      exact Nat.lt_of_le_of_lt bound (by decide)
    · have same : c.toLower = c := dif_neg capital
      have known : ("configmap".toList.all fun c => c.toNat < 128) = true := rfl
      exact of_decide_eq_true (List.all_eq_true.1 known c (same ▸ lower))
  rw [Text.lowercase, lowerChars_of_ascii ascii, h.1]
  rfl

theorem within_setConfigMapKey {name : String}
    (written : d.IsConfigMap name → R.writes (.ofKeys ["data", key]) ∧ R.opens ["data"])
    (value : String) : Within R d (d.setConfigMapKey name key value) := by
  rw [setConfigMapKey]
  split
  · rename_i named
    obtain ⟨written, opened⟩ := written named
    exact within_setPath written ⟨opened, trivial⟩ d _
  · exact .refl R d

/-! ## Items of an array -/

theorem within_mapArrayAt {f : Json → Except Halt Json} {rest : Pointer}
    (ok : ImageOverrides.mapArrayAt d (key :: rest) f = .ok d')
    (names : ∀ token ∈ key :: rest, Pointer.index? token = none)
    (each : ∀ w w', f w = .ok w' → Json.Within ((R.along (key :: rest)).under .item) w w') :
    Within R d d' := by
  rw [ImageOverrides.mapArrayAt] at ok
  split at ok
  · rename_i items found
    obtain ⟨items', mapped, written⟩ := bind_eq_ok ok
    cases written
    refine within_modifyAt names fun w reached => ?_
    rw [found] at reached
    cases reached
    exact Json.Within.items ((forall₂_of_mapM mapped).imp each)
  · cases ok
    exact .refl R d

end Document

/-! ## Images -/

namespace ImageOverrides

variable {R : Region} {images : ImageOverrides} {w w' : Json}

theorem within_assignField {field : String} {v : Json} (written : R.writes [.member field])
    (ok : assignField field v w = .ok w') : Json.Within R w w' := by
  cases w with
  | obj members =>
    cases ok
    exact .field written members v
  | null =>
    cases ok
    exact .of_not_object rfl ⟨_, written⟩ (fun _ array => by cases array) (.field written [] v)
  | _ => cases ok

theorem length_replaceArguments (images : ImageOverrides) (due : Option String)
    (arguments : List Json) :
    (images.replaceArguments due arguments).length = arguments.length := by
  fun_induction replaceArguments images due arguments with
  | case1 => rfl
  | case2 => simp_all
  | case3 => simp_all
  | case4 => simp_all

/-- The arguments of a container are written one by one. -/
theorem within_replaceArgumentsOf (written : R.writes [.member "args", .item])
    (ok : images.replaceArgumentsOf w = .ok w') : Json.Within R w w' := by
  rw [replaceArgumentsOf] at ok
  split at ok
  · rename_i arguments found
    cases w with
    | obj members =>
      cases ok
      have found : Table.get? "args" members = some (.arr arguments) := found
      refine .put ?_ fun missing => ?_
      · rw [found]
        refine .items (List.forall₂_iff_get.2 ⟨?_, fun i _ _ => .of_writes_nil written _ _⟩)
        exact (length_replaceArguments images none arguments).symm
      · rw [found] at missing
        cases missing
    | _ => cases found
  · cases ok
    exact .refl R w

theorem within_replaceContainer (image : R.writes [.member "image"])
    (arguments : R.writes [.member "args", .item]) (ok : images.replaceContainer w = .ok w') :
    Json.Within R w w' := by
  rw [replaceContainer_eq] at ok
  obtain ⟨container, replaced, ok⟩ := bind_eq_ok ok
  have first : Json.Within R w container := by
    rw [replaceImage] at replaced
    split at replaced
    · exact within_assignField image replaced
    · cases replaced
      exact .refl R w
  exact first.trans (within_replaceArgumentsOf arguments ok)

theorem within_replaceField {mark field : String} (written : R.writes [.member field])
    (ok : images.replaceField mark field w = .ok w') : Json.Within R w w' := by
  rw [replaceField] at ok
  split at ok
  · split at ok
    · exact within_assignField written ok
    · cases ok
      exact .refl R w
  · cases ok
    exact .refl R w

end ImageOverrides

/-! ## Transformers -/

namespace Transformer

variable {R : Region} {t : Transformer} {ts : List Transformer} {d d' : Document}

theorem chain_cons_eq_ok (ok : chain (t :: ts) d = .ok (some d')) :
    ∃ d₁, t d = .ok (some d₁) ∧ chain ts d₁ = .ok (some d') := by
  obtain ⟨result, turned, ok⟩ := bind_eq_ok ok
  cases result with
  | none => cases ok
  | some d₁ => exact ⟨d₁, turned, ok⟩

theorem chain_nil_eq_ok (ok : chain [] d = .ok (some d')) : d' = d := by
  cases ok
  rfl

theorem chain_singleton_eq_ok (ok : chain [t] d = .ok (some d')) : t d = .ok (some d') := by
  obtain ⟨d₁, turned, ok⟩ := chain_cons_eq_ok ok
  cases chain_nil_eq_ok ok
  exact turned

theorem Turns.kind {g : Heading → Heading} (turns : t.Turns g) (ok : t d = .ok (some d')) :
    d'.kind = (g d.heading).kind := by
  obtain ⟨_, ⟨⟩, becomes⟩ := turns d _ ok
  exact becomes.kind

theorem within_injectLabel {key value : String} {policy : LabelPolicy} {kinds : List String}
    (labelled : kinds = [] ∨ d.kind ∈ kinds → R.writes (.ofKeys ["metadata", "labels", key]) ∧
      R.opens ["metadata"] ∧ R.opens ["metadata", "labels"])
    (ok : injectLabel key value policy kinds d = .ok (some d')) : d.Within R d' := by
  cases ok
  dsimp only
  split
  · exact .refl R d
  · rename_i listed
    split
    · exact .refl R d
    · have listed : kinds = [] ∨ d.kind ∈ kinds := by
        by_contra neither
        simp_all
      obtain ⟨written, metadata, labels⟩ := labelled listed
      exact Document.within_setPath written ⟨metadata, labels, trivial⟩ d _

theorem within_promoteTask (promoted : d.kind = "Task" →
      R.writes (.ofKeys ["kind"]) ∧ R.writes (.ofKeys ["metadata", "namespace"]))
    (ok : promoteTask d = .ok (some d')) : d.Within R d' := by
  cases ok
  dsimp only
  split
  · rename_i task
    obtain ⟨kind, namespace_⟩ := promoted task
    have renamed : d.Within R (d.setKind "ClusterTask") := Document.within_setPath kind trivial d _
    split
    · exact renamed.trans (Document.within_clearNamespace namespace_ _)
    · exact renamed
  · exact .refl R d

theorem within_deploymentImages {images : ImageOverrides}
    (workload : d.kind = "Deployment" →
      R.writes (.inItems ["spec", "template", "spec", "containers"] [.member "image"]) ∧
      R.writes (.inItems ["spec", "template", "spec", "containers"] [.member "args", .item]))
    (ok : deploymentImages images d = .ok (some d')) : d.Within R d' := by
  rw [deploymentImages] at ok
  split at ok
  · rename_i deployment
    obtain ⟨d₁, mapped, same⟩ := map_eq_ok ok
    cases same
    obtain ⟨image, arguments⟩ := workload deployment
    exact Document.within_mapArrayAt mapped (by decide) fun _ _ =>
      ImageOverrides.within_replaceContainer image arguments
  · cases ok
    exact .refl R d

theorem within_taskImages {images : ImageOverrides}
    (task : d.kind = "ClusterTask" →
      R.writes (.inItems ["spec", "steps"] [.member "image"]) ∧
      R.writes (.inItems ["spec", "params"] [.member "default"]))
    (ok : taskImages images d = .ok (some d')) : d.Within R d' := by
  rw [taskImages] at ok
  split at ok
  · rename_i isTask
    obtain ⟨d₁, steps, ok⟩ := bind_eq_ok ok
    obtain ⟨d₂, parameters, same⟩ := map_eq_ok ok
    cases same
    obtain ⟨image, default_⟩ := task isTask
    have first : d.Within R d₁ := Document.within_mapArrayAt steps (by decide) fun _ _ =>
      ImageOverrides.within_replaceField image
    have second : d₁.Within R d' := Document.within_mapArrayAt parameters (by decide) fun _ _ =>
      ImageOverrides.within_replaceField default_
    exact first.trans second
  · cases ok
    exact .refl R d

end Transformer

/-! ## Phases -/

namespace Phase

/-- The phase replaces images of containers. -/
def ReplacesContainers (phase : Phase) : Prop := phase = .applyPipeline ∨ phase = .applyTriggers

/-- The phase says of documents of a kind who provides them. -/
def Labels (phase : Phase) (kind : String) : Prop :=
  phase = .applyAddons ∧ kind = "ClusterTask" ∨ phase = .applyCommunity ∧ kind ≠ "RoleBinding"

/-- The phase replaces images of documents of a kind, which are cluster tasks or become some. -/
def Catalogs (phase : Phase) (kind : String) : Prop :=
  phase = .applyAddons ∧ kind = "ClusterTask" ∨
    phase = .applyCommunity ∧ (kind = "ClusterTask" ∨ kind = "Task")

/-- The places that are written after a document has got its owner and its namespace. -/
inductive Settles (phase : Phase) (d : Document) : Place → Prop
  | account : d.IsConfigMap "config-defaults" →
      Settles phase d (.ofKeys ["data", "default-service-account"])
  | affinity : d.IsConfigMap "feature-flags" →
      Settles phase d (.ofKeys ["data", "disable-affinity-assistant"])
  | image : phase.ReplacesContainers → d.kind = "Deployment" →
      Settles phase d
        (.inItems ["spec", "template", "spec", "containers"] [.member "image"])
  | argument : phase.ReplacesContainers → d.kind = "Deployment" →
      Settles phase d
        (.inItems ["spec", "template", "spec", "containers"] [.member "args", .item])
  | kind : phase = .applyCommunity → d.kind = "Task" → Settles phase d (.ofKeys ["kind"])
  | nowhere : phase = .applyCommunity → d.kind = "Task" →
      Settles phase d (.ofKeys ["metadata", "namespace"])
  | provider : phase.Labels d.kind →
      Settles phase d (.ofKeys ["metadata", "labels", providerTypeLabel])
  | step : phase.Catalogs d.kind →
      Settles phase d (.inItems ["spec", "steps"] [.member "image"])
  | parameter : phase.Catalogs d.kind →
      Settles phase d (.inItems ["spec", "params"] [.member "default"])

/-- Where a document has to have an object. -/
inductive Opens (phase : Phase) (d : Document) : List String → Prop
  | metadata : Opens phase d ["metadata"]
  | labels : phase.Labels d.kind → Opens phase d ["metadata", "labels"]
  | data : d.IsConfigMap "config-defaults" ∨ d.IsConfigMap "feature-flags" → Opens phase d ["data"]

section
variable {phase : Phase} {d e : Document}

theorem Settles.congr {place : Place} (kind : e.kind = d.kind)
    (named : ∀ name, e.IsConfigMap name → d.IsConfigMap name) (h : phase.Settles e place) :
    phase.Settles d place := by
  cases h with
  | account map => exact .account (named _ map)
  | affinity map => exact .affinity (named _ map)
  | image replaces deployment => exact .image replaces (kind ▸ deployment)
  | argument replaces deployment => exact .argument replaces (kind ▸ deployment)
  | kind community task => exact .kind community (kind ▸ task)
  | nowhere community task => exact .nowhere community (kind ▸ task)
  | provider labels => exact .provider (kind ▸ labels)
  | step catalogs => exact .step (kind ▸ catalogs)
  | parameter catalogs => exact .parameter (kind ▸ catalogs)

theorem Settles.apart {place : Place} (h : phase.Settles d place) :
    ∀ keys ∈ Document.openable, ¬ place.Covers (.ofKeys keys) := by
  cases h <;> decide

theorem Opens.openable {keys : List String} (h : phase.Opens d keys) :
    keys ∈ Document.openable := by
  cases h <;> decide

theorem Opens.congr {keys : List String} (kind : e.kind = d.kind)
    (named : ∀ name, e.IsConfigMap name → d.IsConfigMap name) (h : phase.Opens e keys) :
    phase.Opens d keys := by
  cases h with
  | metadata => exact .metadata
  | labels labels => exact .labels (kind ▸ labels)
  | data map => exact .data (map.imp (named _) (named _))

end

end Phase

namespace Transformer

variable {R : Region} {phase : Phase} {d d' : Document}

/-- The changes to the documents of a catalog. -/
theorem within_catalog {kinds : List String} {images : ImageOverrides}
    (labelled : kinds = [] ∨ d.kind ∈ kinds →
      R.writes (.ofKeys ["metadata", "labels", providerTypeLabel]) ∧
      R.opens ["metadata"] ∧ R.opens ["metadata", "labels"])
    (task : d.kind = "ClusterTask" →
      R.writes (.inItems ["spec", "steps"] [.member "image"]) ∧
      R.writes (.inItems ["spec", "params"] [.member "default"]))
    (ok : chain [labelCommunity kinds, taskImages images] d = .ok (some d')) : d.Within R d' := by
  obtain ⟨d₁, label, ok⟩ := chain_cons_eq_ok ok
  have kind : d₁.kind = d.kind := (turns_injectLabel _ _ _ _).kind label
  refine (within_injectLabel labelled label).trans ?_
  exact within_taskImages (kind ▸ task) (chain_singleton_eq_ok ok)

/-- The changes that belong to a phase. -/
theorem within_transformers (other : d.kind ≠ "RoleBinding")
    (settles : ∀ place, phase.Settles d place → R.writes place)
    (opens : ∀ path, phase.Opens d path → R.opens path) {environment : Environment}
    (ok : chain (phase.transformers environment) d = .ok (some d')) : d.Within R d' := by
  cases phase with
  | applyPipeline =>
    refine within_deploymentImages (fun deployment => ?_) (chain_singleton_eq_ok ok)
    exact ⟨settles _ (.image (.inl rfl) deployment), settles _ (.argument (.inl rfl) deployment)⟩
  | applyTriggers =>
    refine within_deploymentImages (fun deployment => ?_) (chain_singleton_eq_ok ok)
    exact ⟨settles _ (.image (.inr rfl) deployment), settles _ (.argument (.inr rfl) deployment)⟩
  | applyAddons =>
    refine within_catalog (fun listed => ?_) (fun task => ?_) ok
    · have labels : Phase.Labels .applyAddons d.kind := .inl ⟨rfl, by simpa using listed⟩
      exact ⟨settles _ (.provider labels), opens _ .metadata, opens _ (.labels labels)⟩
    · have catalogs : Phase.Catalogs .applyAddons d.kind := .inl ⟨rfl, task⟩
      exact ⟨settles _ (.step catalogs), settles _ (.parameter catalogs)⟩
  | applyCommunity =>
    obtain ⟨d₁, promoted, ok⟩ := chain_cons_eq_ok ok
    have first : d.Within R d₁ := within_promoteTask
      (fun task => ⟨settles _ (.kind rfl task), settles _ (.nowhere rfl task)⟩) promoted
    refine first.trans (within_catalog (fun _ => ?_) (fun task => ?_) ok)
    · have labels : Phase.Labels .applyCommunity d.kind := .inr ⟨rfl, other⟩
      exact ⟨settles _ (.provider labels), opens _ .metadata, opens _ (.labels labels)⟩
    · -- What is a cluster task now was one before, or has just been promoted.
      have origin : d.kind = "ClusterTask" ∨ d.kind = "Task" := by
        have kind : d₁.kind = d.heading.promote.kind := turns_promoteTask.kind promoted
        rw [task, Heading.promote] at kind
        split at kind
        · exact Or.inr ‹_›
        · exact Or.inl kind.symm
      have catalogs : Phase.Catalogs .applyCommunity d.kind := .inr ⟨rfl, origin⟩
      exact ⟨settles _ (.step catalogs), settles _ (.parameter catalogs)⟩
  | validatePipeline =>
    cases chain_nil_eq_ok ok
    exact .refl R d
  | validateTriggers =>
    cases chain_nil_eq_ok ok
    exact .refl R d

end Transformer

end PhasedInstall
