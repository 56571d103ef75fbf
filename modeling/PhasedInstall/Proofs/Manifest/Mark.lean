import PhasedInstall.Proofs.Manifest.Heading

/-!
# What applying a document does to its object

Two things about an object are to survive every write: its identity, and for a namespace the mark
of whether it was created here. A new namespace gets the mark (`forCreation`). A live one keeps the
mark that it has or has not, because a regular document says nothing about it and an overlay keeps
what is not mentioned. A document that is not regular may lose the mark (`mark_overlay`), since
annotations that are no object replace those of the live object as a whole.
-/

set_option autoImplicit false

namespace PhasedInstall.Document

variable {d live merged : Document} {key : String}

/-- Whether the object bears the mark that it was created here. -/
abbrev isMarked (d : Document) : Bool := d.hasTrueAnnotation createdKey

/-- What is written in the place of the mark. -/
def mark (d : Document) : Option Json := d.value.at? ["metadata", "annotations", createdKey]

theorem mark_eq (d : Document) :
    d.mark = (Table.get? "annotations" d.metadata).bind (Json.get? createdKey) := by
  have below : Json.at? ["annotations", createdKey] =
      fun v => (v.get? "annotations").bind (Json.get? createdKey) :=
    funext fun v => Json.at?_of_names (by decide) (by decide) v
  rw [mark, Json.at?, Json.child?_of_name (by decide), below, metadata, fields, Json.get?_eq]
  cases Table.get? "metadata" d.value.membersOrNone with
  | none => rfl
  | some found => exact congrArg (Option.bind · (Json.get? createdKey)) (Json.get?_eq _ found)

theorem isMarked_eq_true_iff (d : Document) : d.isMarked = true ↔ d.mark = some (.str "true") := by
  rw [isMarked, hasTrueAnnotation, annotation?_eq, ← mark_eq, beq_iff_eq]
  rcases d.mark with _ | v
  · simp
  · cases v <;> simp [Json.str?]

theorem isMarked_eq_false_iff (d : Document) :
    d.isMarked = false ↔ d.mark ≠ some (.str "true") := by
  rw [← Bool.not_eq_true, isMarked_eq_true_iff]

/-- A document that says nothing about the mark of the creator, and whose metadata and annotations
are objects where they are given. -/
structure Plain (d : Document) : Prop where
  metadata : ∀ v, d.value.get? "metadata" = some v → v.isObject = true
  annotations : ∀ v, d.value.at? ["metadata", "annotations"] = some v →
    v.isObject = true ∧ v.get? createdKey = none

theorem Plain.regular (h : d.Plain) (distinct : d.value.keysDistinct) : d.Regular := by
  have declared : ∀ v, Table.get? "metadata" d.fields = some v → v = .obj d.metadata := by
    intro v found
    have object := h.metadata v (by rw [Json.get?_eq]; exact found)
    cases v with
    | obj members => rw [Document.metadata, found]; rfl
    | _ => cases object
  refine ⟨Json.nodup_of_keysDistinct distinct, declared, ?_, ?_⟩
  · rw [Document.metadata]
    cases found : Table.get? "metadata" d.fields with
    | none => exact List.nodup_nil
    | some v =>
      have below : v.keysDistinct :=
        Json.keysDistinct_of_get? distinct (by rw [Json.get?_eq]; exact found)
      exact Json.nodup_of_keysDistinct below
  · intro v found
    have reached : d.value.at? ["metadata", "annotations"] = some v := by
      rw [Document.at?_metadata (by decide)]
      exact found
    obtain ⟨object, silent⟩ := h.annotations v reached
    rw [Json.at?_of_names (by decide) (by decide)] at reached
    obtain ⟨w, outer, inner⟩ := Option.bind_eq_some_iff.1 reached
    have below := Json.keysDistinct_of_get? (Json.keysDistinct_of_get? distinct outer) inner
    cases v with
    | obj members => exact ⟨members, rfl, Json.nodup_of_keysDistinct below, silent⟩
    | _ => cases object

/-! ## Creation -/

theorem identity_forCreation (d : Document) : d.forCreation.identity = d.identity := by
  rw [forCreation]
  split
  · have kind := get?_kind_withMetadata d
    unfold setAnnotation
    rw [setPath_metadata]
    simp [identity, kind_eq, name_eq, namespace?_eq, kind, Table.get?_put_of_ne]
  · rfl

theorem isMarked_forCreation (h : d.kind = "Namespace") : d.forCreation.isMarked = true := by
  rw [forCreation, if_pos h, setAnnotation, setPath_metadata, isMarked, hasTrueAnnotation,
    annotation?_eq, metadata_withMetadata, Table.get?_put_self, Json.setPath_cons]
  simp [Json.get?, Json.setPath, Json.str?]

/-! ## Laying a document over its object -/

/-- The fields of a merged object: what the document sets is laid over what was there. -/
theorem get?_merged (regular : d.Regular)
    (ok : ofJson (live.value.overlay d.value) = .ok merged) (key : String) :
    Table.get? key merged.fields =
      match Table.get? key d.fields with
      | some v => some (((Table.get? key live.fields).getD .null).overlay v)
      | none => Table.get? key live.fields := by
  obtain ⟨rfl, kind, found⟩ := ofJson_eq_ok ok
  have object : d.value = .obj d.fields := by
    rw [fields]
    cases desired : d.value with
    | obj members => rfl
    | _ =>
      -- What would replace the live object as a whole has no kind.
      rw [desired, Json.overlay_of_not_object rfl] at found
      cases found
  rw [fields, object, ← Json.get?_eq, Json.get?_overlay regular.fields, Json.get?_eq]
  rfl

theorem get?_metadata_merged (regular : d.Regular)
    (ok : ofJson (live.value.overlay d.value) = .ok merged) (key : String) :
    Table.get? key merged.metadata =
      match Table.get? key d.metadata with
      | some v => some (((Table.get? key live.metadata).getD .null).overlay v)
      | none => Table.get? key live.metadata := by
  have merged_metadata := get?_merged regular ok "metadata"
  cases declared : Table.get? "metadata" d.fields with
  | none =>
    have nothing : d.metadata = [] := by rw [metadata, declared]; rfl
    have same : merged.metadata = live.metadata := by
      rw [metadata, merged_metadata, declared, metadata]
    rw [nothing, same]
    rfl
  | some v =>
    obtain rfl := regular.object v declared
    rw [declared] at merged_metadata
    rw [metadata, merged_metadata, Option.getD_some, ← Json.get?_eq,
      Json.get?_overlay regular.metadata, Json.get?_eq]
    rfl

/-- A text that is read out of a merged field. Where the document is silent it reads what the
object has, and so it is the document's own reading if the two agreed before. -/
theorem text_merged {α : Type} {old new result : Members} (read : Option String → α)
    (field : Table.get? key result =
      match Table.get? key new with
      | some v => some (((Table.get? key old).getD .null).overlay v)
      | none => Table.get? key old)
    (agreed : read ((Table.get? key old).bind Json.str?) =
      read ((Table.get? key new).bind Json.str?)) :
    read ((Table.get? key result).bind Json.str?) =
      read ((Table.get? key new).bind Json.str?) := by
  rw [field]
  cases declared : Table.get? key new with
  | none =>
    rw [declared] at agreed
    exact agreed
  | some v => exact congrArg read (Json.str?_overlay _ v)

/-- A text of the metadata of a document that is laid over its object. What is no object replaces
what was there as a whole. -/
theorem textOfMetadata_overlay {α : Type} (read : Option String → α)
    (fields : (Table.keys d.fields).Nodup) (metadata : (Table.keys d.metadata).Nodup)
    (object : d.value = .obj d.fields)
    (agreed : read ((Table.get? key live.metadata).bind Json.str?) =
      read ((Table.get? key d.metadata).bind Json.str?)) :
    read ((Table.get? key (Document.mk (live.value.overlay d.value)).metadata).bind Json.str?) =
      read ((Table.get? key d.metadata).bind Json.str?) := by
  have below := Json.get?_overlay fields live.value "metadata"
  rw [← object, Json.get?_eq, Json.get?_eq "metadata" live.value] at below
  cases declared : Table.get? "metadata" d.fields with
  | none =>
    have nothing : d.metadata = [] := by rw [Document.metadata, declared]; rfl
    have same : (Document.mk (live.value.overlay d.value)).metadata = live.metadata := by
      rw [declared] at below
      exact congrArg (fun v => (Option.getD v Json.null).membersOrNone) below
    rw [same, agreed]
  | some v =>
    rw [declared] at below
    have laid : (Document.mk (live.value.overlay d.value)).metadata =
        (((Table.get? "metadata" live.fields).getD .null).overlay v).membersOrNone :=
      congrArg (fun v => (Option.getD v Json.null).membersOrNone) below
    have own : d.metadata = v.membersOrNone := by rw [Document.metadata, declared]; rfl
    rw [own] at metadata agreed ⊢
    rw [laid]
    cases v with
    | obj members =>
      have distinct : (Table.keys members).Nodup := metadata
      refine text_merged read ?_ agreed
      rw [← Json.get?_eq, Json.get?_overlay distinct, Json.get?_eq]
      rfl
    | _ => rw [Json.overlay_of_not_object rfl]

/-- What is laid over another value either has fields or replaces it as a whole. -/
theorem eq_obj_or_overlay_eq (d live : Document) :
    d.value = .obj d.fields ∨ (Document.mk (live.value.overlay d.value)) = d := by
  rw [fields]
  cases value : d.value with
  | obj members => exact Or.inl rfl
  | _ =>
    refine Or.inr ?_
    rw [Json.overlay_of_not_object rfl, ← value]

theorem kind_overlay (fields : (Table.keys d.fields).Nodup) (same : live.kind = d.kind) :
    (Document.mk (live.value.overlay d.value)).kind = d.kind := by
  rcases eq_obj_or_overlay_eq d live with object | whole
  · rw [kind_eq, kind_eq] at same ⊢
    refine text_merged (fun t => t.getD "") ?_ same
    rw [object, Document.fields, ← Json.get?_eq, Json.get?_overlay fields, Json.get?_eq]
    rfl
  · rw [whole]

/-- A kind that is declared is the kind of what the document is laid over. -/
theorem kind_overlay_of_kind (fields : (Table.keys d.fields).Nodup) (kind : d.kind ≠ "")
    (live : Document) : (Document.mk (live.value.overlay d.value)).kind = d.kind := by
  rcases eq_obj_or_overlay_eq d live with object | whole
  · have declared := get?_kind_of_kind kind
    rw [kind_eq, Document.fields, object, ← Json.get?_eq, Json.get?_overlay fields]
    cases found : Table.get? "kind" d.fields with
    | none =>
      rw [found] at declared
      cases declared
    | some v =>
      rw [found] at declared
      simp only [Option.bind_some, Json.str?_overlay] at declared ⊢
      rw [declared, Option.getD_some]
  · rw [whole]

theorem name_overlay (fields : (Table.keys d.fields).Nodup)
    (metadata : (Table.keys d.metadata).Nodup) (same : live.name = d.name) :
    (Document.mk (live.value.overlay d.value)).name = d.name := by
  rcases eq_obj_or_overlay_eq d live with object | whole
  · rw [name_eq, name_eq] at same ⊢
    exact textOfMetadata_overlay (fun t => t.getD "") fields metadata object same
  · rw [whole]

/-- The namespace is compared by what a reader makes of it. -/
theorem namespace?_overlay {α : Type} (read : Option String → α)
    (fields : (Table.keys d.fields).Nodup) (metadata : (Table.keys d.metadata).Nodup)
    (same : read live.namespace? = read d.namespace?) :
    read (Document.mk (live.value.overlay d.value)).namespace? = read d.namespace? := by
  rcases eq_obj_or_overlay_eq d live with object | whole
  · rw [namespace?_eq, namespace?_eq] at same ⊢
    exact textOfMetadata_overlay (fun t => read (t.filter fun ns => !ns.isEmpty)) fields metadata
      object same
  · rw [whole]

/-- **A document that is laid over its object stays under its identity.** -/
theorem identity_overlay (fields : (Table.keys d.fields).Nodup)
    (metadata : (Table.keys d.metadata).Nodup) (same : live.identity = d.identity) :
    (Document.mk (live.value.overlay d.value)).identity = d.identity := by
  simp only [identity, Identity.mk.injEq] at same ⊢
  obtain ⟨kind, ns, name⟩ := same
  exact ⟨kind_overlay fields kind, namespace?_overlay id fields metadata ns,
    name_overlay fields metadata name⟩

theorem identity_merged (regular : d.Regular)
    (ok : ofJson (live.value.overlay d.value) = .ok merged) (same : live.identity = d.identity) :
    merged.identity = d.identity := by
  obtain ⟨rfl, -⟩ := ofJson_eq_ok ok
  exact identity_overlay regular.fields regular.metadata same

/-- **A document that says nothing about the mark can lose it but not set it.** -/
theorem mark_overlay (distinct : d.value.keysDistinct) (silent : d.mark = none) (live : Document) :
    (Document.mk (live.value.overlay d.value)).mark = live.mark ∨
      (Document.mk (live.value.overlay d.value)).mark = none :=
  Json.at?_overlay_of_silent (by decide) distinct silent live.value

/-- **A merged object keeps the mark that it has or has not.** -/
theorem isMarked_merged (regular : d.Regular)
    (ok : ofJson (live.value.overlay d.value) = .ok merged) : merged.isMarked = live.isMarked := by
  have same : merged.annotation? createdKey = live.annotation? createdKey := by
    rw [annotation?_eq, annotation?_eq, get?_metadata_merged regular ok]
    cases declared : Table.get? "annotations" d.metadata with
    | none => rfl
    | some v =>
      obtain ⟨members, rfl, distinct, silent⟩ := regular.annotations v declared
      rw [Option.bind_some, Json.get?_overlay distinct, silent]
      cases Table.get? "annotations" live.metadata <;> rfl
  rw [isMarked, isMarked, hasTrueAnnotation, hasTrueAnnotation, same]

end PhasedInstall.Document
