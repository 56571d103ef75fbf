import PhasedInstall.Proofs.Json.Agreement
import PhasedInstall.Proofs.Json.Layers
import PhasedInstall.Proofs.Manifest.Visiting

/-!
# What is written over a live object

When the object of a document is there, the document is laid over it, and the result is written if
it is a change. `Sound` says what the result is: a document again, under the kind, the name and the
namespace that were declared, and of the revision that was found. `Answered` says what is asked
after the object was found, and when: at most one update, and that one unless the walk over both
trees meets no difference.

The walk sees values as `blurred` shows them. So nothing is written for an object that is as it
should be, and there is one kind of change that is not written either: where all that changes is
whether something empty is an array or an object (`Blurs`), the object stays as it is.
-/

set_option autoImplicit false

namespace PhasedInstall.Document

open Cluster

variable {d live : Document} {field : String} {v : Json}

/-- The document laid over a live object. -/
def laidOver (d live : Document) : Document := ⟨live.value.overlay d.value⟩

/-! ## The result -/

/-- The result names the object as the document does. -/
structure Sound (d live : Document) : Prop where
  /-- It is a document. -/
  accepted : ofJson (live.value.overlay d.value) = .ok (d.laidOver live)
  kind : (d.laidOver live).kind = d.kind
  /-- A name that is declared is the name of the result. -/
  name : (d.value.at? ["metadata", "name"]).isSome → (d.laidOver live).name = d.name
  namespace_ : (d.value.at? ["metadata", "namespace"]).isSome →
    (d.laidOver live).namespace? = d.namespace?
  /-- A document that declares no revision has that of the live object. -/
  revision : (∀ v, d.value.get? "metadata" = some v →
      v.isObject = true ∧ v.get? "resourceVersion" = none) →
    (d.laidOver live).value.at? ["metadata", "resourceVersion"] =
      live.value.at? ["metadata", "resourceVersion"]

/-- A field of the metadata is read as it is declared. -/
theorem str?_laidOver (distinct : d.value.keysDistinct) (name : Pointer.index? field = none)
    (declared : (d.value.at? ["metadata", field]).isSome) (live : Document) :
    ((d.laidOver live).value.at? ["metadata", field]).bind Json.str? =
      (d.value.at? ["metadata", field]).bind Json.str? := by
  have names : ∀ token ∈ ["metadata", field], Pointer.index? token = none := by
    simp [name, show Pointer.index? "metadata" = none by decide]
  obtain ⟨v, declared⟩ := Option.isSome_iff_exists.1 declared
  have followed := declared
  rw [Json.at?_eq_follow? names] at followed
  rw [laidOver, Json.at?_eq_follow? names, Json.follow?_overlay distinct followed, declared]
  exact Json.str?_overlay _ v

/-- What the metadata does not declare is asked of an object that does not have it. -/
theorem lacks_of_silent (kind : d.kind ≠ "") (silent : ∀ v, d.value.get? "metadata" = some v →
      v.isObject = true ∧ v.get? field = none) : d.value.Lacks ["metadata", field] := by
  have object := d.value_eq_obj kind
  cases declared : Table.get? "metadata" d.fields with
  | none => exact ⟨[], "metadata", [field], d.fields, rfl, congrArg some object, declared⟩
  | some v =>
    have given : d.value.get? "metadata" = some v := by
      rw [object]
      exact declared
    obtain ⟨isObject, lacking⟩ := silent v given
    cases v with
    | obj members =>
      refine ⟨["metadata"], field, [], members, rfl, ?_, lacking⟩
      rw [Json.follow?_ofKeys_cons, given]
      rfl
    | _ => cases isObject

theorem Declared.sound (declared : d.Declared) (live : Document) : d.Sound live where
  accepted := declared.ofJson_overlay live
  kind := kind_overlay_of_kind (Json.nodup_of_keysDistinct declared.distinct) declared.kind live
  name given := by
    rw [name, name, textAt, textAt, str?_laidOver declared.distinct (by decide) given]
  namespace_ given := by
    rw [namespace?, namespace?, str?_laidOver declared.distinct (by decide) given]
  revision silent := by
    rw [Json.at?_eq_follow? (by decide), Json.at?_eq_follow? (by decide)]
    exact Json.follow?_overlay_of_lacks declared.distinct
      (lacks_of_silent declared.kind silent) live.value

/-! ## The calls -/

/-- What is asked after the live object was found, and what comes of it. -/
structure Answered (d live : Document) (result : Option (Except Fault ApplyOutcome))
    (rest : Calls) : Prop where
  /-- Nothing is asked exactly if no change can be seen. -/
  idle : rest = [] ↔ live.value.blurred.same (d.laidOver live).value.blurred = true
  /-- That is what counts as unchanged. -/
  unchanged : rest = [] ↔ result = some (.ok .unchanged)
  /-- Otherwise the result of the merge is written, once. -/
  written : rest ≠ [] → ∃ reply, rest = [⟨.update (d.laidOver live), reply⟩] ∧
    result = some (reply.map fun _ => .updated)
  /-- That nothing is asked means that the object is as it should be, unless the change is one that
  cannot be seen. -/
  exact : (rest = [] ↔ live.value.same (d.laidOver live).value = true) ↔
    ¬ live.value.Blurs (d.laidOver live).value

/-- Whatever decides as the walk does is right except for what the walk misses. -/
theorem iff_same_iff {p : Prop} {v w : Json} (decided : p ↔ v.agrees w = true) :
    (p ↔ v.same w = true) ↔ ¬ v.Blurs w := by
  rw [decided, Json.blurs_iff]
  cases equal : v.same w with
  | true => simp [Json.agrees_of_same equal]
  | false => simp

theorem answered_of_agrees {result : Option (Except Fault ApplyOutcome)} {rest : Calls}
    (idle : rest = [] ↔ live.value.agrees (d.laidOver live).value = true)
    (unchanged : rest = [] ↔ result = some (.ok .unchanged))
    (written : rest ≠ [] → ∃ reply, rest = [⟨.update (d.laidOver live), reply⟩] ∧
      result = some (reply.map fun _ => .updated)) : d.Answered live result rest where
  idle := by rw [idle, Json.agrees_eq_same_blurred]
  unchanged := unchanged
  written := written
  exact := iff_same_iff idle

/-- A visit to an object that is there. -/
theorem Visit.answered {how : Except Fault ApplyOutcome} {rest : Calls}
    (h : d.Visit how (⟨.find d, .ok (some live)⟩ :: rest)) : d.Answered live (some how) rest := by
  have changed (differs : live.value.agrees (d.laidOver live).value = false)
      (reply : Except Fault Unit) :
      d.Answered live (some (reply.map fun _ => .updated))
        [⟨.update (d.laidOver live), reply⟩] := by
    refine answered_of_agrees (by simp [differs]) ⟨nofun, fun same => ?_⟩ fun _ => ⟨_, rfl, rfl⟩
    cases reply <;> cases same
  cases h with
  | updated _ differs => exact changed differs (.ok ())
  | notUpdated _ f differs => exact changed differs (.error f)
  | unchanged _ same =>
    exact answered_of_agrees (iff_of_true rfl same) (iff_of_true rfl rfl) fun more =>
      absurd rfl more

/-- **What is written over a live object.** The result of laying a document over any object names
that object and can be written. It is written, once, unless no change can be seen, and every change
can be seen but one that turns empty arrays into empty objects or the other way round. -/
theorem apply_writes_visible_changes (d : Declaration) :
    (∀ live, d.Sound live) ∧
      ∀ live result rest,
        d.apply.Exec heard [] result (⟨.find d.toDocument, .ok (some live)⟩ :: rest) →
          d.Answered live result rest := by
  refine ⟨d.declared.sound, fun live result rest run => ?_⟩
  obtain ⟨how, rfl, visit⟩ := (apply_tells d.declared).exec run
  exact visit.answered

/-! ## Two objects -/

/-- A configuration map. -/
def configMap (data : Json) : Document :=
  ⟨.obj [("apiVersion", .str "v1"), ("kind", .str "ConfigMap"),
    ("metadata", .obj [("name", .str "a")]), ("data", data)]⟩

/-- A configuration map as a server returns it. -/
def storedMap (data : Json) : Document :=
  ⟨.obj [("apiVersion", .str "v1"), ("kind", .str "ConfigMap"),
    ("metadata", .obj [("name", .str "a"), ("resourceVersion", .str "7")]), ("data", data)]⟩

/-- A value that has changed is written, with the revision that was found. -/
theorem apply_writes_new_value :
    let declaration : Declaration := { toDocument := configMap (.obj [("k", .str "new")]) }
    let d := declaration.toDocument
    let live := storedMap (.obj [("k", .str "old")])
    d.apply.Exec heard [] (some (.ok .updated))
        [⟨.find d, .ok (some live)⟩, ⟨.update (d.laidOver live), .ok ()⟩] ∧
      d.Sound live ∧
      d.Answered live (some (.ok .updated)) [⟨.update (d.laidOver live), .ok ()⟩] ∧
      (d.laidOver live).value = (storedMap (.obj [("k", .str "new")])).value := by
  intro declaration d live
  have looked : heard (I := interface) (.find d) [] (.ok (some live))
      [⟨.find d, .ok (some live)⟩] := rfl
  have wrote : heard (I := interface) (.update (d.laidOver live)) [⟨.find d, .ok (some live)⟩]
      (.ok ()) [⟨.find d, .ok (some live)⟩, ⟨.update (d.laidOver live), .ok ()⟩] := rfl
  have run : d.apply.Exec heard [] (some (.ok .updated))
      [⟨.find d, .ok (some live)⟩, ⟨.update (d.laidOver live), .ok ()⟩] :=
    .ask looked (.ask wrote (.done _ _))
  obtain ⟨sound, answered⟩ := apply_writes_visible_changes declaration
  exact ⟨run, sound live, answered live _ _ run, rfl⟩

/-- The live object has an empty object where an empty array is wanted. It is no such object as is
wanted, and it is left as it is. -/
theorem not_apply_writes_emptied :
    let d := configMap (.arr [])
    let live := storedMap (.obj [])
    d.Declared ∧ live.value.same (d.laidOver live).value = false ∧
      d.apply.Exec heard [] (some (.ok .unchanged)) [⟨.find d, .ok (some live)⟩] := by
  intro d live
  have looked : heard (I := interface) (.find d) [] (.ok (some live))
      [⟨.find d, .ok (some live)⟩] := rfl
  exact ⟨⟨by decide, rfl⟩, rfl, .ask looked (.done _ _)⟩

end PhasedInstall.Document
