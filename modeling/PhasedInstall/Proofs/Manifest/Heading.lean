import PhasedInstall.Manifest.Apply
import PhasedInstall.Manifest.Transform
import PhasedInstall.Proofs.Json.Fields

/-!
# The heading of a document

Kind, namespace and name say which object a document stands for, and one annotation says whether
the document may be moved. Together they are its heading. Everything that prepares a document is
either an edit of the heading or leaves it alone, and almost everything leaves it alone: an edit
writes one top-level field (`withField`) or one field of the metadata (`withMetadata`), and the
heading lives in `kind` and in three fields of the metadata.

`Becomes g` is the relation that the edits are put together by. It also carries `Regular`, the
form that a document needs for laying it over a live object to mean what it says: no field occurs
twice, and the metadata and its annotations are objects where they are given.
-/

set_option autoImplicit false

namespace PhasedInstall

/-- What names an object of the cluster. -/
structure Identity where
  kind : String
  ns : Option String
  name : String
deriving DecidableEq, Repr

/-- What decides which object a document becomes. -/
structure Heading extends Identity where
  /-- The document keeps the namespace that it declares. -/
  stays : Bool
deriving DecidableEq, Repr

namespace Heading

/-- A document that is moved into a namespace. A namespace takes the name instead. -/
def move (ns : String) (h : Heading) : Heading :=
  { h with
    ns := if isClusterScopedKind h.kind then h.ns else (some ns).filter fun n => !n.isEmpty
    name := if Text.lowercase h.kind = "namespace" then ns else h.name }

/-- A document that is moved unless it says otherwise. -/
def settle (ns : String) (h : Heading) : Heading := if h.stays then h else h.move ns

@[simp] theorem kind_settle (ns : String) (h : Heading) : (h.settle ns).kind = h.kind := by
  rw [settle]
  split <;> rfl

/-- A task that is made available to all namespaces. -/
def promote (h : Heading) : Heading :=
  if h.kind = "Task" then { h with kind := "ClusterTask", ns := none } else h

/-- **It does not matter whether a task is promoted before or after it is moved.** The namespace
it was moved into is taken away with the promotion, and a promoted task is not moved. -/
theorem settle_promote (ns : String) (h : Heading) :
    h.promote.settle ns = (h.settle ns).promote := by
  have wide : isClusterScopedKind "ClusterTask" = true := by decide
  have promoted : Text.lowercase "ClusterTask" ≠ "namespace" := by decide
  have declared : Text.lowercase "Task" ≠ "namespace" := by decide
  unfold settle promote
  by_cases task : h.kind = "Task"
  · by_cases stays : h.stays
    · simp [task, stays]
    · simp [task, stays, move, wide, promoted, declared]
  · by_cases stays : h.stays <;> simp [task, stays, move]

end Heading

namespace Document

variable {d d' d'' : Document} {key : String} {v : Json} {m : Members}

def identity (d : Document) : Identity := ⟨d.kind, d.namespace?, d.name⟩

def heading (d : Document) : Heading := ⟨d.identity, d.hasTrueAnnotation preserveNamespaceKey⟩

/-- The top-level fields. -/
def fields (d : Document) : Members := d.value.membersOrNone

/-- The fields of the metadata. -/
def metadata (d : Document) : Members :=
  ((Table.get? "metadata" d.fields).getD .null).membersOrNone

/-- Only what has a kind is a document. -/
theorem ofJson_eq_ok {v : Json} (ok : ofJson v = .ok d) :
    d = ⟨v⟩ ∧ ∃ kind, v.get? "kind" = some kind := by
  rw [ofJson] at ok
  split at ok
  · rename_i kind found
    split at ok
    · cases ok
    · obtain ⟨w, found, -⟩ := Option.bind_eq_some_iff.1 found
      exact ⟨(Except.ok.inj ok).symm, w, found⟩
  · cases ok

/-! ## Where the heading is read -/

theorem kind_eq (d : Document) :
    d.kind = ((Table.get? "kind" d.fields).bind Json.str?).getD "" := by
  rw [kind, textAt, Json.at?, Json.child?_of_name (by decide), Json.get?_eq]
  cases h : Table.get? "kind" d.value.membersOrNone <;> simp [fields, h, Json.at?]

theorem get?_kind_of_kind (h : d.kind ≠ "") :
    (Table.get? "kind" d.fields).bind Json.str? = some d.kind := by
  rw [kind_eq] at h ⊢
  cases found : (Table.get? "kind" d.fields).bind Json.str? with
  | none =>
    rw [found] at h
    exact absurd rfl h
  | some kind => rfl

/-- What has a kind is an object. -/
theorem value_eq_obj (h : d.kind ≠ "") : d.value = .obj d.fields := by
  have read := get?_kind_of_kind h
  rw [fields] at read ⊢
  cases value : d.value with
  | obj members => rfl
  | _ =>
    rw [value] at read
    cases read

/-- A value with a kind is accepted as a document. -/
theorem ofJson_of_kind (h : d.kind ≠ "") : ofJson d.value = .ok d := by
  have read : (d.value.get? "kind").bind Json.str? = some d.kind := by
    rw [Json.get?_eq]
    exact get?_kind_of_kind h
  have given : d.kind.isEmpty = false := by simpa using h
  rw [ofJson, read]
  simp [given]

theorem kind_of_ofJson (ok : ofJson v = .ok d) : d.kind ≠ "" := by
  obtain ⟨rfl, -⟩ := ofJson_eq_ok ok
  unfold ofJson at ok
  split at ok
  · rename_i kind found
    have own : (⟨v⟩ : Document).kind = kind := by
      rw [kind_eq, fields, ← Json.get?_eq, found]
      rfl
    intro none
    rw [← own, none] at ok
    cases ok
  · cases ok

theorem at?_metadata (h : Pointer.index? key = none) (d : Document) :
    d.value.at? ["metadata", key] = Table.get? key d.metadata := by
  rw [Json.at?_of_names (by decide) h, Json.get?_eq, metadata, fields]
  cases Table.get? "metadata" d.value.membersOrNone with
  | none => rfl
  | some found => exact Json.get?_eq key found

theorem name_eq (d : Document) :
    d.name = ((Table.get? "name" d.metadata).bind Json.str?).getD "" := by
  rw [name, textAt, at?_metadata (by decide)]

theorem namespace?_eq (d : Document) :
    d.namespace? =
      ((Table.get? "namespace" d.metadata).bind Json.str?).filter fun ns => !ns.isEmpty := by
  rw [namespace?, at?_metadata (by decide)]

theorem annotation?_eq (d : Document) (key : String) :
    d.annotation? key =
      ((Table.get? "annotations" d.metadata).bind (Json.get? key)).bind Json.str? := by
  rw [annotation?, at?_metadata (by decide)]

/-- The heading depends on four fields. -/
theorem heading_congr (kind : Table.get? "kind" d'.fields = Table.get? "kind" d.fields)
    (metadata : ∀ key ∈ ["namespace", "name", "annotations"],
      Table.get? key d'.metadata = Table.get? key d.metadata) :
    d'.heading = d.heading := by
  have ns := metadata "namespace" (by simp)
  have name := metadata "name" (by simp)
  have annotations := metadata "annotations" (by simp)
  rw [heading, heading, identity, identity, hasTrueAnnotation, hasTrueAnnotation, kind_eq d',
    kind_eq d, name_eq d', name_eq d, namespace?_eq d', namespace?_eq d, annotation?_eq d',
    annotation?_eq d, kind, ns, name, annotations]

/-! ## The two edits -/

def withField (d : Document) (key : String) (v : Json) : Document :=
  ⟨.obj (Table.put key v d.fields)⟩

def withMetadata (d : Document) (m : Members) : Document := d.withField "metadata" (.obj m)

@[simp] theorem fields_withField (d : Document) (key : String) (v : Json) :
    (d.withField key v).fields = Table.put key v d.fields := rfl

@[simp] theorem metadata_withMetadata (d : Document) (m : Members) :
    (d.withMetadata m).metadata = m := by
  rw [metadata, withMetadata, fields_withField, Table.get?_put_self]
  rfl

theorem metadata_withField (h : key ≠ "metadata") (d : Document) (v : Json) :
    (d.withField key v).metadata = d.metadata := by
  rw [metadata, fields_withField, Table.get?_put_of_ne (Ne.symm h), metadata]

theorem get?_kind_withMetadata (d : Document) (m : Members) :
    Table.get? "kind" (d.withMetadata m).fields = Table.get? "kind" d.fields :=
  Table.get?_put_of_ne (by decide) _ _

theorem setPath_eq (d : Document) (key : String) (rest : List String) (v : Json) :
    d.setPath (key :: rest) v =
      d.withField key (((Table.get? key d.fields).getD .null).setPath rest v) := by
  rw [setPath, Json.setPath_cons, Json.get?_eq, withField, fields]

theorem setPath_metadata (d : Document) (key : String) (rest : List String) (v : Json) :
    d.setPath ("metadata" :: key :: rest) v =
      d.withMetadata
        (Table.put key (((Table.get? key d.metadata).getD .null).setPath rest v) d.metadata) := by
  rw [setPath_eq, Json.setPath_cons, Json.get?_eq, withMetadata, metadata]

/-- Changing what a pointer reaches writes the field that it goes through. -/
theorem modifyAt_eq (h : Pointer.index? key = none) (d : Document) (rest : Pointer)
    (f : Json → Json) :
    d.modifyAt (key :: rest) f =
      match Table.get? key d.fields with
      | some child => d.withField key (child.modifyAt f rest)
      | none => d := by
  rw [modifyAt, Json.modifyAt_cons h, Json.get?_eq, fields]
  cases found : Table.get? key d.value.membersOrNone with
  | none => rfl
  | some child => simp only [withField, fields]

/-! ## Regular documents -/

/-- The form in which a document can be laid over another field by field. -/
structure Regular (d : Document) : Prop where
  fields : (Table.keys d.fields).Nodup
  object : ∀ v, Table.get? "metadata" d.fields = some v → v = .obj d.metadata
  metadata : (Table.keys d.metadata).Nodup
  annotations : ∀ v, Table.get? "annotations" d.metadata = some v →
    ∃ members, v = .obj members ∧ (Table.keys members).Nodup ∧ Table.get? createdKey members = none

theorem Regular.withField (h : d.Regular) (hkey : key ≠ "metadata") (v : Json) :
    (d.withField key v).Regular where
  fields := Table.nodup_keys_put h.fields key v
  object w found := by
    rw [metadata_withField hkey]
    rw [fields_withField, Table.get?_put_of_ne (Ne.symm hkey)] at found
    exact h.object w found
  metadata := by
    rw [metadata_withField hkey]
    exact h.metadata
  annotations := by
    rw [metadata_withField hkey]
    exact h.annotations

theorem Regular.withMetadata (h : d.Regular) (distinct : (Table.keys m).Nodup)
    (annotations : Table.get? "annotations" m = Table.get? "annotations" d.metadata) :
    (d.withMetadata m).Regular where
  fields := Table.nodup_keys_put h.fields _ _
  object w found := by
    rw [metadata_withMetadata]
    rw [Document.withMetadata, fields_withField, Table.get?_put_self] at found
    exact (Option.some.inj found).symm
  metadata := by
    rw [metadata_withMetadata]
    exact distinct
  annotations := by
    rw [metadata_withMetadata, annotations]
    exact h.annotations

/-! ## Edits -/

/-- One document is made from another, by edits that do `g` to the heading. -/
structure Becomes (g : Heading → Heading) (d d' : Document) : Prop where
  heading : d'.heading = g d.heading
  regular : d.Regular → d'.Regular

section
variable {g h : Heading → Heading}

theorem Becomes.refl (d : Document) : Becomes id d d := ⟨rfl, id⟩

theorem Becomes.trans (first : Becomes g d d') (second : Becomes h d' d'') :
    Becomes (h ∘ g) d d'' where
  heading := by rw [second.heading, first.heading]; rfl
  regular := second.regular ∘ first.regular

theorem Becomes.congr (b : Becomes g d d') (same : g d.heading = h d.heading) : Becomes h d d' :=
  ⟨b.heading.trans same, b.regular⟩

theorem Becomes.kind (b : Becomes g d d') : d'.kind = (g d.heading).kind :=
  congrArg (fun h : Heading => h.kind) b.heading

end

/-- A top-level field that the heading is not read from. -/
abbrev Apart (key : String) : Prop :=
  key ≠ "kind" ∧ key ≠ "metadata" ∧ Pointer.index? key = none

theorem becomes_withField (apart : Apart key) (d : Document) (v : Json) :
    Becomes id d (d.withField key v) := by
  obtain ⟨kind, metadata, -⟩ := apart
  constructor
  · refine heading_congr ?_ fun field _ => ?_
    · exact Table.get?_put_of_ne (Ne.symm kind) _ _
    · rw [metadata_withField metadata]
  · intro regular
    exact regular.withField metadata v

theorem becomes_setPath (apart : Apart key) (d : Document) (rest : List String) (v : Json) :
    Becomes id d (d.setPath (key :: rest) v) := by
  rw [setPath_eq]
  exact becomes_withField apart d _

theorem becomes_modifyAt (apart : Apart key) (d : Document) (rest : Pointer) (f : Json → Json) :
    Becomes id d (d.modifyAt (key :: rest) f) := by
  rw [modifyAt_eq apart.2.2]
  cases Table.get? key d.fields with
  | none => exact .refl d
  | some child => exact becomes_withField apart d _

theorem becomes_setPath_metadata (h : key ∉ ["namespace", "name", "annotations"]) (d : Document)
    (rest : List String) (v : Json) : Becomes id d (d.setPath ("metadata" :: key :: rest) v) := by
  rw [setPath_metadata]
  constructor
  · refine heading_congr (get?_kind_withMetadata _ _) fun field mem => ?_
    have other : field ≠ key := fun same => h (same ▸ mem)
    rw [metadata_withMetadata, Table.get?_put_of_ne other]
  · intro regular
    have other : "annotations" ≠ key := fun same => h (by simp [← same])
    exact regular.withMetadata (Table.nodup_keys_put regular.metadata _ _)
      (Table.get?_put_of_ne other _ _)

theorem becomes_setKind (kind : String) (d : Document) :
    Becomes (fun h => { h with kind := kind }) d (d.setKind kind) := by
  have written : d.setKind kind = d.withField "kind" (.str kind) := by
    rw [setKind, setPath_eq, Json.setPath]
  rw [written]
  constructor
  · simp [heading, identity, hasTrueAnnotation, kind_eq, name_eq, namespace?_eq, annotation?_eq,
      metadata_withField, Json.str?]
  · exact fun regular => regular.withField (by decide) _

theorem becomes_withMetadata (distinct : (Table.keys d.metadata).Nodup → (Table.keys m).Nodup)
    (annotations : Table.get? "annotations" m = Table.get? "annotations" d.metadata) :
    Becomes (fun h => { h with
      ns := ((Table.get? "namespace" m).bind Json.str?).filter fun ns => !ns.isEmpty
      name := ((Table.get? "name" m).bind Json.str?).getD "" }) d (d.withMetadata m) where
  heading := by
    rw [heading, heading, identity, identity, hasTrueAnnotation, hasTrueAnnotation, kind_eq,
      name_eq, namespace?_eq, annotation?_eq, get?_kind_withMetadata, metadata_withMetadata,
      annotations, ← kind_eq, ← annotation?_eq]
  regular h := h.withMetadata (distinct h.metadata) annotations

theorem becomes_setName (name : String) (d : Document) :
    Becomes (fun h => { h with name := name }) d (d.setName name) := by
  rw [setName, setPath_metadata, Json.setPath]
  refine (becomes_withMetadata (fun distinct => Table.nodup_keys_put distinct _ _) ?_).congr ?_
  · exact Table.get?_put_of_ne (by decide) _ _
  · simp [heading, identity, namespace?_eq, Table.get?_put_of_ne, Json.str?]

theorem becomes_setNamespace (ns : String) (d : Document) :
    Becomes (fun h => { h with ns := (some ns).filter fun n => !n.isEmpty }) d
      (d.setNamespace ns) := by
  rw [setNamespace, setPath_metadata, Json.setPath]
  refine (becomes_withMetadata (fun distinct => Table.nodup_keys_put distinct _ _) ?_).congr ?_
  · exact Table.get?_put_of_ne (by decide) _ _
  · simp [heading, identity, name_eq, Table.get?_put_of_ne, Json.str?]

theorem becomes_clearNamespace (d : Document) :
    Becomes (fun h => { h with ns := none }) d d.clearNamespace := by
  by_cases object : ∃ m, d.value.get? "metadata" = some (.obj m)
  · obtain ⟨m, found⟩ := object
    have same : d.metadata = m := by rw [metadata, fields, ← Json.get?_eq, found]; rfl
    have written : d.clearNamespace = d.withMetadata (Table.erase "namespace" d.metadata) := by
      rw [clearNamespace, found, same]
      dsimp only
      rw [setPath_eq, Json.setPath, withMetadata]
    rw [written]
    refine (becomes_withMetadata (fun distinct => Table.nodup_keys_erase distinct _) ?_).congr ?_
    · exact Table.get?_erase_of_ne (by decide) _
    · simp [heading, identity, name_eq, Table.get?_erase_of_ne]
  · -- Without an object there is no namespace to begin with.
    have written : d.clearNamespace = d := by
      rw [clearNamespace]
      split
      · exact absurd ⟨_, ‹_›⟩ object
      · rfl
    have none : d.metadata = [] := by
      rw [metadata, fields, ← Json.get?_eq]
      rcases found : d.value.get? "metadata" with _ | v
      · rfl
      · cases v with
        | obj m => exact absurd ⟨m, found⟩ object
        | _ => rfl
    rw [written]
    refine (Becomes.refl d).congr ?_
    simp [heading, identity, namespace?_eq, none]

end Document

end PhasedInstall
