import PhasedInstall.Manifest.Document
import PhasedInstall.Proofs.Json.Pointers
import PhasedInstall.Proofs.Json.Writing

/-!
# What the setters of a document do

Everything that is changed about a document is written at a path. `LawfulUpdate` says what such a
write does, in terms of the texts by which values are looked up.

Five fields of the metadata have a setter and an accessor. The accessors go through members only, so
for them there is nothing that a write could displace: a setter changes what its own accessor reads
and nothing else (`Slot.kept`). An empty namespace is the only value that is not read as it was set,
as it reads like none.
-/

set_option autoImplicit false

namespace PhasedInstall

theorem Owner.ofJson?_toJson (o : Owner) : ofJson? o.toJson = some o := by
  obtain ⟨apiVersion, block, controller, kind, name, uid⟩ := o
  cases block <;> cases controller <;> rfl

theorem Owner.listOfJson?_toJson (owners : List Owner) :
    listOfJson? (.arr (owners.map toJson)) = some owners := by
  rw [listOfJson?, Json.list?]
  induction owners with
  | nil => rfl
  | cons o rest ih => simp [ofJson?_toJson, ih]

namespace Document

variable {d : Document}

/-- Looks up a value by the text of a pointer. -/
def pointer? (d : Document) (text : String) : Option Json :=
  (Pointer.parse? text).bind fun path => d.value.at? path

theorem pointer?_text (d : Document) (path : Pointer) :
    d.pointer? (Pointer.text path) = d.value.at? path := by
  rw [pointer?, Pointer.parse?_text, Option.bind_some]

/-! ## Writing at a path -/

/-- What writing at a path does. -/
structure LawfulUpdate (d : Document) : Prop where
  /-- What was written is there, whatever the keys are. -/
  written : ∀ path v, path ≠ [] → (d.setPath path v).pointer? (Pointer.text path) = some v
  /-- Nothing is left of an earlier write. -/
  overwritten : ∀ path v w, (d.setPath path v).setPath path w = d.setPath path w
  /-- What is elsewhere stays. -/
  kept : ∀ path other v, Pointer.Apart path other → ¬ d.value.Displaces path other →
    (d.setPath path v).pointer? (Pointer.text other) = d.pointer? (Pointer.text other)
  /-- On the way there are objects. -/
  opened : ∀ front key back v, ∃ members,
    (d.setPath (front ++ key :: back) v).pointer? (Pointer.text front) = some (.obj members)
  /-- What was below something else on the way is lost. -/
  displaced : ∀ path other v, Pointer.Apart path other → d.value.Displaces path other →
    (d.setPath path v).pointer? (Pointer.text other) = none
  /-- Writes at paths apart commute, whatever is on the way. -/
  commutes : ∀ path other v w, Pointer.Apart path other → d.value.keysDistinct →
    v.keysDistinct → w.keysDistinct →
      ((d.setPath path v).setPath other w).value.same ((d.setPath other w).setPath path v).value

theorem lawfulUpdate (d : Document) : d.LawfulUpdate where
  written path v _ := by
    rw [pointer?_text]
    exact Json.at?_setPath_self path d.value v
  overwritten path v w := congrArg Document.mk (Json.setPath_setPath path d.value v w)
  kept path other v apart spared := by
    rw [pointer?_text, pointer?_text]
    exact (Json.at?_setPath_of_apart apart d.value v).2 spared
  opened front key back v := by
    obtain ⟨u, reached⟩ := Json.at?_setPath_front front (key :: back) d.value v
    rw [Json.setPath_cons] at reached
    exact ⟨_, (pointer?_text _ front).trans reached⟩
  displaced path other v apart displaced := by
    rw [pointer?_text]
    exact (Json.at?_setPath_of_apart apart d.value v).1 displaced
  commutes path other v w apart distinct hv hw := Json.setPath_comm apart distinct hv hw

/-! ## The fields of the metadata -/

/-- A field of the metadata that has a setter. -/
inductive Slot where
  | name
  | ns
  | label (key : String)
  | note (key : String)
  | owners

def Slot.path : Slot → List String
  | name => ["metadata", "name"]
  | ns => ["metadata", "namespace"]
  | label key => ["metadata", "labels", key]
  | note key => ["metadata", "annotations", key]
  | owners => ["metadata", "ownerReferences"]

theorem Slot.apart {s t : Slot} (ne : t ≠ s) : Pointer.Apart s.path t.path := by
  cases s <;> cases t <;> simp_all [path, Pointer.Apart, eq_comm]

/-- The value of a field. -/
def slot? (d : Document) (s : Slot) : Option Json := d.value.follow? (.ofKeys s.path)

theorem slot?_setPath_self (d : Document) (s : Slot) (v : Json) :
    (d.setPath s.path v).slot? s = some v :=
  Json.follow?_setPath_self s.path d.value v

theorem slot?_setPath_of_ne {s t : Slot} (ne : t ≠ s) (d : Document) (v : Json) :
    (d.setPath s.path v).slot? t = d.slot? t :=
  Json.follow?_setPath_of_apart (Slot.apart ne) d.value v

/-! ### What the accessors read -/

theorem name_eq_slot? (d : Document) : d.name = ((d.slot? .name).bind Json.str?).getD "" := by
  rw [name, textAt, Json.at?_eq_follow? (by decide)]
  rfl

theorem namespace?_eq_slot? (d : Document) :
    d.namespace? = ((d.slot? .ns).bind Json.str?).filter fun ns => !ns.isEmpty := by
  rw [namespace?, Json.at?_eq_follow? (by decide)]
  rfl

/-- A member below a pointer of names is what the longer pointer leads to. -/
theorem follow?_member {path : Pointer} (names : ∀ token ∈ path, Pointer.index? token = none)
    (key : String) (v : Json) :
    (v.at? path).bind (Json.get? key) = v.follow? (.ofKeys (path ++ [key])) := by
  rw [Json.at?_eq_follow? names, Json.follow?_ofKeys_append]
  refine congrArg _ (funext fun w => ?_)
  rw [Json.follow?_ofKeys_cons]
  cases w.get? key <;> rfl

theorem label?_eq_slot? (d : Document) (key : String) :
    d.label? key = (d.slot? (.label key)).bind Json.str? := by
  rw [label?, follow?_member (by decide)]
  rfl

theorem annotation?_eq_slot? (d : Document) (key : String) :
    d.annotation? key = (d.slot? (.note key)).bind Json.str? := by
  rw [annotation?, follow?_member (by decide)]
  rfl

theorem owners_eq_slot? (d : Document) (w : Wording) :
    d.owners w = match d.slot? .owners with
      | none => .ok []
      | some .null => .ok []
      | some refs =>
        match Owner.listOfJson? refs with
        | some owners => .ok owners
        | none => .error (.json (w.json "list of owners" refs)) := by
  rw [owners, Json.at?_eq_follow? (by decide)]
  rfl

/-- The accessor of a field reads the same in two documents. -/
def Slot.Same (d d' : Document) : Slot → Prop
  | name => d'.name = d.name
  | ns => d'.namespace? = d.namespace?
  | label key => d'.label? key = d.label? key
  | note key => d'.annotation? key = d.annotation? key
  | owners => ∀ w, d'.owners w = d.owners w

/-- An accessor depends on its field alone. -/
theorem Slot.same_of_slot? {d d' : Document} {s : Slot} (same : d'.slot? s = d.slot? s) :
    s.Same d d' := by
  cases s with
  | name => rw [Same, name_eq_slot?, name_eq_slot?, same]
  | ns => rw [Same, namespace?_eq_slot?, namespace?_eq_slot?, same]
  | label key => rw [Same, label?_eq_slot?, label?_eq_slot?, same]
  | note key => rw [Same, annotation?_eq_slot?, annotation?_eq_slot?, same]
  | owners =>
    intro w
    rw [owners_eq_slot?, owners_eq_slot?, same]

/-! ### What the setters write -/

/-- The use of a setter. -/
inductive Edit where
  | name (name : String)
  | ns (ns : String)
  | label (key value : String)
  | note (key value : String)
  | owners (owners : List Owner)

namespace Edit

def slot : Edit → Slot
  | name _ => .name
  | ns _ => .ns
  | label key _ => .label key
  | note key _ => .note key
  | owners _ => .owners

def apply (d : Document) : Edit → Document
  | name n => d.setName n
  | ns n => d.setNamespace n
  | label key value => d.setLabel key value
  | note key value => d.setAnnotation key value
  | owners os => d.setOwners os

def value : Edit → Json
  | name n => .str n
  | ns n => .str n
  | label _ value => .str value
  | note _ value => .str value
  | owners os => .arr (os.map Owner.toJson)

theorem apply_eq (d : Document) (e : Edit) : e.apply d = d.setPath e.slot.path e.value := by
  cases e <;> rfl

theorem slot?_apply (d : Document) (e : Edit) : (e.apply d).slot? e.slot = some e.value := by
  rw [apply_eq, slot?_setPath_self]

/-- **A setter leaves the other fields as they are.** -/
theorem kept (d : Document) (e : Edit) {t : Slot} (ne : t ≠ e.slot) : t.Same d (e.apply d) := by
  refine Slot.same_of_slot? ?_
  rw [apply_eq, slot?_setPath_of_ne ne]

end Edit

/-- What the setters do. -/
structure LawfulSetters (d : Document) : Prop where
  name : ∀ n, (d.setName n).name = n
  /-- An empty namespace reads like none. -/
  ns : ∀ ns, (d.setNamespace ns).namespace? = if ns = "" then none else some ns
  label : ∀ key value, (d.setLabel key value).label? key = some value
  note : ∀ key value, (d.setAnnotation key value).annotation? key = some value
  owners : ∀ os w, (d.setOwners os).owners w = .ok os
  kept : ∀ (e : Edit) (t : Slot), t ≠ e.slot → t.Same d (e.apply d)

theorem lawfulSetters (d : Document) : d.LawfulSetters where
  name n := by
    have written : (d.setName n).slot? .name = some (.str n) := Edit.slot?_apply d (.name n)
    rw [name_eq_slot?, written]
    rfl
  ns n := by
    have written : (d.setNamespace n).slot? .ns = some (.str n) := Edit.slot?_apply d (.ns n)
    rw [namespace?_eq_slot?, written]
    by_cases empty : n = "" <;> simp [Json.str?, Option.filter_some, empty]
  label key value := by
    have written : (d.setLabel key value).slot? (.label key) = some (.str value) :=
      Edit.slot?_apply d (.label key value)
    rw [label?_eq_slot?, written]
    rfl
  note key value := by
    have written : (d.setAnnotation key value).slot? (.note key) = some (.str value) :=
      Edit.slot?_apply d (.note key value)
    rw [annotation?_eq_slot?, written]
    rfl
  owners os w := by
    have written : (d.setOwners os).slot? .owners = some (.arr (os.map Owner.toJson)) :=
      Edit.slot?_apply d (.owners os)
    rw [owners_eq_slot?, written]
    dsimp only
    rw [Owner.listOfJson?_toJson]
  kept e _ ne := e.kept d ne

/-- **Writing at a path is a lawful update**, and so the setters do what they say. -/
theorem set_is_lawful (d : Document) : d.LawfulUpdate ∧ d.LawfulSetters :=
  ⟨d.lawfulUpdate, d.lawfulSetters⟩

/-- A service with a list on the way to where it is written. -/
def listed : Document where
  value := .obj [("kind", .str "Service"), ("metadata", .obj [("name", .str "web")]),
    ("spec", .obj [("ports", .arr [.obj [("port", .int 80)]])])]

/-- A write under two keys that need escapes takes the place of the list. -/
theorem set_is_lawful_for_listed :
    let path := ["spec", "ports", "a/b", "m~n"]
    let after := listed.setPath path (.bool true)
    after.pointer? "/spec/ports/a~1b/m~0n" = some (.bool true) ∧
      (listed.pointer? "/spec/ports/0/port" = some (.int 80) ∧
        after.pointer? "/spec/ports/0/port" = none) ∧
      after.pointer? "/metadata/name" = some (.str "web") ∧
      ((listed.setPath ["data"] .null).setPath ["extra"] .null).value.same
        ((listed.setPath ["extra"] .null).setPath ["data"] .null).value ∧
      (listed.setNamespace "shop").name = "web" := by
  intro path after
  have laws := (set_is_lawful listed).1
  have place : Pointer.text path = "/spec/ports/a~1b/m~0n" := by decide
  have port : Pointer.text ["spec", "ports", "0", "port"] = "/spec/ports/0/port" := by decide
  have name : Pointer.text ["metadata", "name"] = "/metadata/name" := by decide
  refine ⟨?_, ⟨rfl, ?_⟩, ?_, ?_, ?_⟩
  · rw [← place]
    exact laws.written path _ (by decide)
  · rw [← port]
    refine laws.displaced path _ _ ⟨by decide, by decide⟩ ?_
    exact ⟨["spec", "ports"], "a/b", ["m~n"], _, rfl, by decide, rfl, rfl⟩
  · rw [← name]
    refine (laws.kept path _ _ ⟨by decide, by decide⟩ ?_).trans rfl
    exact Json.not_displaces_of_ne (by decide) rfl
  · exact laws.commutes _ _ _ _ ⟨by decide, by decide⟩ (by decide) rfl rfl
  · exact (set_is_lawful listed).2.kept (.ns "shop") .name nofun

/-- An empty namespace is written, but it is not read back. -/
theorem empty_namespace_not_read_back :
    (listed.setNamespace "").pointer? "/metadata/namespace" = some (.str "") ∧
      (listed.setNamespace "").namespace? ≠ some "" := by
  refine ⟨rfl, ?_⟩
  decide

end Document

end PhasedInstall
