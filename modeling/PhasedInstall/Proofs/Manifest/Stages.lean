import PhasedInstall.Proofs.Manifest.Edits
import PhasedInstall.Proofs.Manifest.References

/-!
# The stages of preparing a document

A document gets its owner first and its namespace second, and then what the settings of the operator
and the phase ask for; a role binding gets the first two only, and the second in its own way.
`Prepares.stages` says so, and every statement about what has been prepared starts there. What a
stage leaves alone is found with `Document.sparing`, the region of everything that does not meet a
pointer.
-/

set_option autoImplicit false

namespace PhasedInstall

open Json (Region Place)

namespace Document

variable {R : Region} {phase : Phase} {d d' e : Document} {reference : Owner} {ns : String}

/-! ## Stages -/

/-- A document with its owner. -/
def owned (reference : Owner) (d : Document) : Document :=
  if d.isClusterScoped then d else d.setOwners [reference]

/-- A document in its namespace. -/
def settledIn (ns : String) (d : Document) : Document :=
  if d.hasTrueAnnotation preserveNamespaceKey then d else d.moveInto ns

/-- A role binding in its namespace, with its subjects. -/
def boundIn (ns : String) (d : Document) : Document :=
  let moved := if d.hasTrueAnnotation preserveNamespaceKey then d else d.setNamespace ns
  if moved.hasTrueAnnotation preserveSubjectsKey then moved
  else moved.setItemNamespaces ["subjects"] ns

/-- A document with the settings of the operator. -/
def configured (settings : DocumentSettings) (d : Document) : Document :=
  (d.setConfigMapKey "config-defaults" "default-service-account"
    settings.defaultAccount).setConfigMapKey "feature-flags" "disable-affinity-assistant"
      (if settings.disableAffinityAssistant then "true" else "false")

theorem becomes_owned (reference : Owner) (d : Document) : d.Becomes id (d.owned reference) := by
  rw [owned]
  split
  · exact .refl d
  · exact becomes_setPath_metadata (by decide) d _ _

theorem becomes_settledIn (ns : String) (d : Document) :
    d.Becomes (Heading.settle ns) (d.settledIn ns) := becomes_settle ns d

theorem becomes_configured (settings : DocumentSettings) (d : Document) :
    d.Becomes id (d.configured settings) :=
  (becomes_setConfigMapKey _ _ _ d).trans (becomes_setConfigMapKey _ _ _ _)

theorem kind_owned (reference : Owner) (d : Document) : (d.owned reference).kind = d.kind :=
  (becomes_owned reference d).kind

theorem kind_settledIn (ns : String) (d : Document) : (d.settledIn ns).kind = d.kind :=
  (becomes_settledIn ns d).kind.trans (Heading.kind_settle ns d.heading)

theorem kind_configured (settings : DocumentSettings) (d : Document) :
    (d.configured settings).kind = d.kind :=
  (becomes_configured settings d).kind

/-- Adopting a document does not make a configuration map of it, nor give it another name. -/
theorem isConfigMap_settledIn {name : String} :
    ((d.owned reference).settledIn ns).IsConfigMap name ↔ d.IsConfigMap name := by
  have heading := ((becomes_owned reference d).trans (becomes_settledIn ns _)).heading
  have kind : ((d.owned reference).settledIn ns).kind = d.kind := by
    rw [kind_settledIn, kind_owned]
  rw [IsConfigMap, IsConfigMap, kind]
  refine and_congr_right fun word => ?_
  have lower : Text.lowercase d.kind = "configmap" :=
    IsConfigMap.lowercase_kind ⟨word, rfl⟩
  have same : ((d.owned reference).settledIn ns).heading.name = d.heading.name := by
    have kind : Text.lowercase d.heading.kind = "configmap" := lower
    rw [heading, Function.comp_apply, id, Heading.settle]
    split
    · rfl
    · simp [Heading.move, kind]
  have same : ((d.owned reference).settledIn ns).name = d.name := same
  rw [same]

/-! ## Where the stages write -/

theorem within_owned
    (written : d.isClusterScoped = false → R.writes (.ofKeys ["metadata", "ownerReferences"]))
    (opened : R.opens ["metadata"]) (reference : Owner) : Within R d (d.owned reference) := by
  rw [owned]
  split
  · exact .refl R d
  · rename_i narrow
    exact within_setMetadata (written (eq_false_of_ne_true narrow)) opened d _

theorem within_settledIn (moves : ∀ place, Moves d.kind place → R.writes place)
    (opened : R.opens ["metadata"]) (ns : String) : Within R d (d.settledIn ns) := by
  rw [settledIn]
  split
  · exact .refl R d
  · exact within_moveInto moves opened ns

theorem within_boundIn (own : R.writes (.ofKeys ["metadata", "namespace"]))
    (subjects : R.writes (.inItems ["subjects"] [.member "namespace"]))
    (opened : R.opens ["metadata"]) (ns : String) (d : Document) : Within R d (d.boundIn ns) := by
  have moved : Within R d
      (if d.hasTrueAnnotation preserveNamespaceKey then d else d.setNamespace ns) := by
    split
    · exact .refl R d
    · exact within_setMetadata own opened d _
  have retargeted : ∀ e : Document, Within R e
      (if e.hasTrueAnnotation preserveSubjectsKey then e
        else e.setItemNamespaces ["subjects"] ns) := by
    intro e
    split
    · exact .refl R e
    · exact within_setItemNamespaces subjects e ns
  exact moved.trans (retargeted _)

theorem within_configured (settles : ∀ place, phase.Settles d place → R.writes place)
    (opens : ∀ path, phase.Opens d path → R.opens path) (settings : DocumentSettings) :
    Within R d (d.configured settings) := by
  have second : ∀ e : Document, d.Becomes id e → e.IsConfigMap "feature-flags" →
      d.IsConfigMap "feature-flags" := by
    intro e same flags
    have kind : e.kind = d.kind := same.kind
    have name : e.name = d.name := congrArg (fun h : Heading => h.name) same.heading
    rwa [IsConfigMap, kind, name] at flags
  have accounted : Within R d (d.setConfigMapKey "config-defaults" "default-service-account"
      settings.defaultAccount) :=
    within_setConfigMapKey
      (fun named => ⟨settles _ (.account named), opens _ (.data (Or.inl named))⟩) _
  refine accounted.trans (within_setConfigMapKey (fun named => ?_) _)
  have named := second _ (becomes_setConfigMapKey _ _ _ d) named
  exact ⟨settles _ (.affinity named), opens _ (.data (Or.inr named))⟩

/-! ## What the stages spare -/

variable {path : Pointer}

theorem at?_owned (observable : Observable path) (spared : ¬ Place.Meets
      (.ofKeys ["metadata", "ownerReferences"]) (.ofKeys path)) (reference : Owner) (d : Document) :
    (d.owned reference).value.at? path = d.value.at? path := by
  have apart : ∀ keys ∈ openable,
      ¬ Place.Covers (.ofKeys ["metadata", "ownerReferences"]) (.ofKeys keys) := by decide
  have within := within_owned (R := sparing path) (d := d) (fun _ => ⟨spared, apart⟩)
    List.mem_cons_self reference
  exact within.at?_of_spared observable

/-- Moving spares what is neither the namespace of the document nor mentioned by it. -/
theorem at?_settledIn_of_spared (observable : Observable path)
    (spared : ∀ place, Moves d.kind place → ¬ place.Meets (.ofKeys path)) (ns : String) :
    (d.settledIn ns).value.at? path = d.value.at? path := by
  have within := within_settledIn (R := sparing path)
    (fun place moves => ⟨spared place moves, moves.apart⟩) List.mem_cons_self ns
  exact within.at?_of_spared observable

/-- The keys under which the data of a configuration map has settings of the operator. -/
def settingKeys : List String := ["default-service-account", "disable-affinity-assistant"]

theorem at?_configured (observable : Observable path)
    (spared : ∀ key ∈ settingKeys, ¬ Place.Meets (.ofKeys ["data", key]) (.ofKeys path))
    (settings : DocumentSettings) (d : Document) :
    (d.configured settings).value.at? path = d.value.at? path := by
  have apart : ∀ key ∈ settingKeys, ∀ keys ∈ openable,
      ¬ Place.Covers (.ofKeys ["data", key]) (.ofKeys keys) := by decide
  have opened : ["data"] ∈ openable := by decide
  have set : ∀ (e : Document) (name value : String), ∀ key ∈ settingKeys,
      Within (sparing path) e (e.setConfigMapKey name key value) := by
    intro e name value key mem
    have written : (sparing path).writes (.ofKeys ["data", key]) :=
      ⟨spared key mem, apart key mem⟩
    exact within_setConfigMapKey (fun _ => ⟨written, opened⟩) value
  have within : Within (sparing path) d (d.configured settings) :=
    (set d _ _ _ List.mem_cons_self).trans (set _ _ _ _ (List.mem_cons_of_mem _ List.mem_cons_self))
  exact within.at?_of_spared observable

end Document

/-! ## The stages of a phase -/

namespace Manifest

variable {R : Region} {phase : Phase} {owner : Config} {settings : DocumentSettings}
  {environment : Environment} {reference : Owner} {d d' : Document}

/-- A role binding goes through two stages, any other document through four. -/
theorem Prepares.stages (h : Prepares phase owner settings environment reference d d') :
    d.kind = "RoleBinding" ∧ d' = (d.owned reference).boundIn owner.spec.targetNamespace ∨
      d.kind ≠ "RoleBinding" ∧ Transformer.chain (phase.transformers environment)
        (((d.owned reference).settledIn owner.spec.targetNamespace).configured settings) =
          .ok (some d') := by
  rw [Prepares, changes] at h
  split at h
  · rename_i binding
    refine Or.inl ⟨binding, ?_⟩
    have same : (d.owned reference).kind = "RoleBinding" := (d.kind_owned reference).trans binding
    obtain ⟨_, ⟨⟩, h⟩ := Transformer.chain_cons_eq_ok h
    obtain ⟨_, ⟨⟩, h⟩ := Transformer.chain_cons_eq_ok h
    rw [Transformer.chain_nil_eq_ok h]
    exact if_pos same
  · rename_i other
    exact Or.inr ⟨other, h⟩

/-- The only change of a kind is that the community catalog promotes tasks. -/
theorem Prepares.kind (installs : phase ∈ Installation.removalOrder)
    (h : Prepares phase owner settings environment reference d d') :
    d'.kind = if phase = .applyCommunity ∧ d.kind = "Task" then "ClusterTask" else d.kind := by
  have kind : d'.kind = (phase.place owner.spec.targetNamespace d.heading).kind :=
    (h.places installs).1.kind
  rw [kind]
  cases phase with
  | applyCommunity =>
    rw [Phase.place, Heading.kind_settle, Heading.promote]
    simp only [true_and]
    change (if d.kind = "Task" then _ else d.heading).kind = _
    split <;> rfl
  | _ => exact Heading.kind_settle _ _

theorem within_settled {e : Document} (other : e.kind ≠ "RoleBinding")
    (settles : ∀ place, phase.Settles e place → R.writes place)
    (opens : ∀ path, phase.Opens e path → R.opens path)
    (ok : Transformer.chain (phase.transformers environment) (e.configured settings) =
      .ok (some d')) : e.Within R d' := by
  have same := e.becomes_configured settings
  have kind := e.kind_configured settings
  have name : (e.configured settings).name = e.name :=
    congrArg (fun h : Heading => h.name) same.heading
  have named : ∀ name, (e.configured settings).IsConfigMap name → e.IsConfigMap name := by
    intro word named
    rwa [Document.IsConfigMap, kind, name] at named
  refine (Document.within_configured settles opens settings).trans
    (Transformer.within_transformers (kind ▸ other) ?_ ?_ ok)
  · exact fun place settled => settles place (settled.congr kind named)
  · exact fun path opened => opens path (opened.congr kind named)

/-- What neither the settings nor the phase writes is what it was in its namespace. -/
theorem at?_of_settled {e : Document} {path : Pointer} (observable : Document.Observable path)
    (other : e.kind ≠ "RoleBinding")
    (ok : Transformer.chain (phase.transformers environment) (e.configured settings) =
      .ok (some d'))
    (spared : ∀ place, phase.Settles e place → ¬ place.Meets (.ofKeys path)) :
    d'.value.at? path = e.value.at? path := by
  have within : e.Within (Document.sparing path) d' :=
    within_settled other (fun place settled => ⟨spared place settled, settled.apart⟩)
      (fun _ opened => opened.openable) ok
  exact within.at?_of_spared observable

end Manifest

end PhasedInstall
