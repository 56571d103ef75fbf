import PhasedInstall.Proofs.Manifest.Stages

/-!
# What preparing leaves alone

`Phase.Writes` lists all that a phase writes in a document that it prepares. Everything that is
neither on the way to one of these places nor inside one is applied as it is declared, whatever the
document is made of (`prepare_within`). A place can only be written inside an object, so the
metadata, the labels and the data of a configuration map become objects where something is written
there. If one of them was an array, its items are lost.
-/

set_option autoImplicit false

namespace PhasedInstall

open Json (Path Place Region)

namespace Phase

/-- The places that a phase writes in a document. -/
inductive Writes (phase : Phase) (d : Document) : Place → Prop
  | owner : d.isClusterScoped = false → Writes phase d (.ofKeys ["metadata", "ownerReferences"])
  | move {place : Place} : Document.Moves d.kind place → Writes phase d place
  | subject : d.kind = "RoleBinding" →
      Writes phase d (.inItems ["subjects"] [.member "namespace"])
  | settle {place : Place} : d.kind ≠ "RoleBinding" → phase.Settles d place →
      Writes phase d place

theorem Writes.apart {phase : Phase} {d : Document} {place : Place} (h : phase.Writes d place) :
    ∀ keys ∈ Document.openable, ¬ place.Covers (.ofKeys keys) := by
  cases h with
  | owner => decide
  | move moves => exact moves.apart
  | subject => decide
  | settle _ settles => exact settles.apart

/-- Where a phase may change a document. -/
def region (phase : Phase) (d : Document) : Region where
  writes := phase.Writes d
  opens := phase.Opens d
  apart opened written := written.apart _ opened.openable

end Phase

namespace Manifest

variable {m m' : Manifest} {phase : Phase} {owner : Config} {settings : DocumentSettings}
  {environment : Environment} {reference : Owner} {d d' : Document}

/-- A document is prepared within the region of its phase. -/
theorem Prepares.within (h : Prepares phase owner settings environment reference d d') :
    d.Within (phase.region d) d' := by
  have owned : d.Within (phase.region d) (d.owned reference) :=
    Document.within_owned Phase.Writes.owner Phase.Opens.metadata reference
  have kindOwned : (d.owned reference).kind = d.kind := d.kind_owned reference
  rcases h.stages with ⟨binding, rfl⟩ | ⟨other, ok⟩
  · have narrow : isClusterScopedKind d.kind = false := by
      rw [binding]
      decide
    have own : phase.Writes d (.ofKeys ["metadata", "namespace"]) := .move (.own narrow)
    have bound := Document.within_boundIn (R := phase.region d) own (.subject binding) .metadata
      owner.spec.targetNamespace (d.owned reference)
    exact owned.trans bound
  · have kind : ((d.owned reference).settledIn owner.spec.targetNamespace).kind = d.kind := by
      rw [Document.kind_settledIn, kindOwned]
    have named : ∀ name, ((d.owned reference).settledIn
        owner.spec.targetNamespace).IsConfigMap name → d.IsConfigMap name :=
      fun _ => Document.isConfigMap_settledIn.1
    have moved : (d.owned reference).Within (phase.region d)
        ((d.owned reference).settledIn owner.spec.targetNamespace) :=
      Document.within_settledIn (fun place moves => Phase.Writes.move (kindOwned ▸ moves))
        Phase.Opens.metadata _
    refine owned.trans (moved.trans (within_settled (kind.symm ▸ other) ?_ ?_ ok))
    · exact fun place settles => .settle other (settles.congr kind named)
    · exact fun keys opens => opens.congr kind named

/-- What a phase writes nothing of is prepared as it is declared. -/
theorem Prepares.at?_of_spared {path : Pointer}
    (h : Prepares phase owner settings environment reference d d')
    (observable : Document.Observable path)
    (spared : ∀ place, phase.Writes d place → ¬ place.Meets (.ofKeys path)) :
    d'.value.at? path = d.value.at? path :=
  h.within.at?_of_misses observable spared fun opened => observable.2.1 opened.openable

/-- **What a phase does not write is applied as it is declared**, for every phase and every
manifest. The arrays on the way to what is written keep their length. -/
theorem prepare_within (installs : phase ∈ Installation.removalOrder)
    (ok : m.prepare owner settings (phase.transformers environment) = .ok m') :
    List.Forall₂ (fun d d' => d.kind ≠ "" → Json.Within (phase.region d) d.value d'.value)
      m.bindingsLast.documents m'.documents := by
  obtain ⟨reference, -, prepares⟩ := prepare_prepares installs ok
  refine prepares.imp fun d d' h given => ?_
  have given' : d'.kind ≠ "" := by
    rw [h.kind installs]
    split
    · decide
    · exact given
  rw [Document.value_eq_obj given, Document.value_eq_obj given']
  exact h.within

/-- A service with a field that nobody knows. -/
def unusual : Document :=
  ⟨.obj [("apiVersion", .str "v1"), ("kind", .str "Service"),
    ("metadata", .obj [("name", .str "listener")]),
    ("spec", .obj [("custom", .arr [.null, .str "kept"])])]⟩

/-- What nobody knows is applied as it is declared. -/
theorem unusual_within :
    Phase.applyTriggers ∈ Installation.removalOrder ∧
      ∃ d', (⟨[unusual]⟩ : Manifest).prepare somebody ⟨"runner", true⟩
          (Phase.applyTriggers.transformers []) = .ok ⟨[d']⟩ ∧
        unusual.kind ≠ "" ∧
        Json.Within (Phase.applyTriggers.region unusual) unusual.value d'.value ∧
        d'.value.follow? [.key "spec", .key "custom", .item 1] = some (.str "kept") := by
  have installs : Phase.applyTriggers ∈ Installation.removalOrder := by decide
  have given : unusual.kind ≠ "" := by decide
  have prepared : (⟨[unusual]⟩ : Manifest).prepare somebody ⟨"runner", true⟩
      (Phase.applyTriggers.transformers []) = .ok ⟨[_]⟩ := rfl
  obtain ⟨within, -⟩ := List.forall₂_cons.1 (prepare_within installs prepared)
  exact ⟨installs, _, prepared, given, within given, rfl⟩

/-- A value is the other but for what is written, and for what is in the metadata. All arrays keep
their length. -/
structure KeepsArrays (R : Region) (v v' : Json) : Prop where
  same : ∀ path, R.Misses path → v'.follow? path = v.follow? path ∨ [.key "metadata"] <+: path
  length : ∀ path n, v.lengthAt? path = some n → v'.lengthAt? path = some n

/-- A configuration map with arrays where objects are due, and two owners. -/
def crowded : Document :=
  ⟨.obj [("apiVersion", .str "v1"), ("kind", .str "ConfigMap"),
    ("metadata", .obj [("name", .str "config-defaults"), ("labels", .arr [.str "app"]),
      ("ownerReferences", .arr [.str "first", .str "second"])]),
    ("data", .arr [.str "timeout"])]⟩

/-- None of these arrays keeps its length, and what was in the data is lost. -/
theorem crowded_not_keepsArrays :
    ∃ d', (⟨[crowded]⟩ : Manifest).prepare somebody ⟨"runner", true⟩
        (Phase.applyCommunity.transformers []) = .ok ⟨[d']⟩ ∧
      ¬ KeepsArrays (Phase.applyCommunity.region crowded) crowded.value d'.value ∧
      (∀ keys ∈ [["metadata", "ownerReferences"], ["metadata", "labels"], ["data"]], ∃ n,
        crowded.value.lengthAt? (.ofKeys keys) = some n ∧
          d'.value.lengthAt? (.ofKeys keys) ≠ some n) ∧
      (Phase.applyCommunity.region crowded).Misses [.key "data", .item 0] ∧
      crowded.value.follow? [.key "data", .item 0] = some (.str "timeout") ∧
      d'.value.follow? [.key "data", .item 0] = none := by
  refine ⟨_, rfl, fun keeps => ?_, by decide, fun place written => ?_, rfl, rfl⟩
  · have length := keeps.length (.ofKeys ["data"]) 1 rfl
    cases length
  · cases written with
    | owner => decide
    | subject => decide
    | move moves =>
      cases moves with
      | own => decide
      | mention mentions => cases mentions <;> decide
    | settle _ settles => cases settles <;> decide

end Manifest

end PhasedInstall
