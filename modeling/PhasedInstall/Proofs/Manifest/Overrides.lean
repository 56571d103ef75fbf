import PhasedInstall.Proofs.Cluster.Work
import PhasedInstall.Proofs.Json.Distinct
import PhasedInstall.Proofs.Manifest.Variables

/-!
# When image overrides give up

Replacing an image writes a field of a container, and a container that is no object has no fields.
That matters only where such a container is found under a name, and since the one without a name
goes by the empty name, it is found exactly if the name of some variable is nothing but the prefix
of its subsystem. Steps and parameters without a name are passed over, so they stop nothing.

`CrashesIff` says when a computation gives up, and that it has a result otherwise. It is put
together along the bind and the walk over a list.
-/

set_option autoImplicit false

namespace PhasedInstall

/-- The computation gave up if `p` holds, and has a result if not. -/
def CrashesIff {α : Type} (p : Prop) (r : Except Halt α) : Prop :=
  p ∧ r = .error .crash ∨ ¬ p ∧ ∃ a, r = .ok a

namespace CrashesIff

variable {α β : Type} {p q : Prop} {r : Except Halt α}

theorem congr (h : CrashesIff p r) (same : p ↔ q) : CrashesIff q r := by
  rw [CrashesIff, ← same]
  exact h

theorem of_ok (a : α) : CrashesIff False (.ok a : Except Halt α) := Or.inr ⟨id, a, rfl⟩

theorem bind {g : α → Except Halt β} (first : CrashesIff p r)
    (rest : ∀ a, r = .ok a → CrashesIff q (g a)) : CrashesIff (p ∨ q) (r >>= g) := by
  rcases first with ⟨holds, rfl⟩ | ⟨fails, a, rfl⟩
  · exact Or.inl ⟨Or.inl holds, rfl⟩
  · refine (rest a rfl).congr ⟨Or.inr, ?_⟩
    rintro (holds | holds)
    · exact absurd holds fails
    · exact holds

theorem map (h : CrashesIff p r) (f : α → β) : CrashesIff p (f <$> r) := by
  rcases h with ⟨holds, rfl⟩ | ⟨fails, a, rfl⟩
  · exact Or.inl ⟨holds, rfl⟩
  · exact Or.inr ⟨fails, f a, rfl⟩

theorem mapM {f : α → Except Halt β} {P : α → Prop} (h : ∀ a, CrashesIff (P a) (f a))
    (as : List α) : CrashesIff (∃ a ∈ as, P a) (as.mapM f) := by
  induction as with
  | nil => exact (of_ok []).congr (by simp)
  | cons a rest ih =>
    rw [List.mapM_cons]
    refine ((h a).bind fun b _ => ih.map (b :: ·)).congr ?_
    simp

end CrashesIff

namespace ImageOverrides

variable {images : ImageOverrides} {field : String} {v w w' : Json}

/-- A value that no field can be written to. -/
def Fieldless (w : Json) : Prop := w.isObject = false ∧ w.isNull = false

theorem assignField_crashesIff (field : String) (v w : Json) :
    CrashesIff (Fieldless w) (assignField field v w) := by
  cases w with
  | obj members => exact (CrashesIff.of_ok _).congr (by simp [Fieldless, Json.isObject])
  | null => exact (CrashesIff.of_ok _).congr (by simp [Fieldless, Json.isNull])
  | _ => exact Or.inl ⟨⟨rfl, rfl⟩, rfl⟩

/-! ## Containers -/

/-- The image of a container is replaced first. -/
def replaceImage (images : ImageOverrides) (container : Json) : Except Halt Json :=
  match Table.get? (key "" ((itemName? container).getD "")) images with
  | some image => assignField "image" (.str image) container
  | none => .ok container

/-- Then its arguments are. -/
def replaceArgumentsOf (images : ImageOverrides) (container : Json) : Except Halt Json :=
  match container.get? "args" with
  | some (.arr arguments) =>
    assignField "args" (.arr (images.replaceArguments none arguments)) container
  | _ => .ok container

theorem replaceContainer_eq (images : ImageOverrides) (container : Json) :
    images.replaceContainer container =
      images.replaceImage container >>= images.replaceArgumentsOf := by
  rw [replaceContainer, replaceImage]
  cases Table.get? (key "" ((itemName? container).getD "")) images <;> rfl

/-- Only an object has arguments, so they can be written. -/
theorem replaceArgumentsOf_crashesIff (images : ImageOverrides) (w : Json) :
    CrashesIff False (images.replaceArgumentsOf w) := by
  cases w with
  | obj members =>
    rw [replaceArgumentsOf]
    split
    · exact .of_ok _
    · exact .of_ok _
  | _ => exact .of_ok _

theorem itemName?_of_not_object (whole : w.isObject = false) : itemName? w = none := by
  cases w with
  | obj members => cases whole
  | _ => rfl

/-- The name of a value without fields is empty. -/
theorem replaceImage_crashesIff (images : ImageOverrides) (w : Json) :
    CrashesIff (Fieldless w ∧ (Table.get? (key "" "") images).isSome)
      (images.replaceImage w) := by
  by_cases fieldless : Fieldless w
  · rw [replaceImage, itemName?_of_not_object fieldless.1, Option.getD_none]
    cases Table.get? (key "" "") images with
    | none => exact (CrashesIff.of_ok w).congr (by simp)
    | some image => exact (assignField_crashesIff _ _ w).congr (by simp)
  · rw [replaceImage]
    split
    · exact (assignField_crashesIff _ _ w).congr (by simp [fieldless])
    · exact (CrashesIff.of_ok w).congr (by simp [fieldless])

theorem replaceContainer_crashesIff (images : ImageOverrides) (w : Json) :
    CrashesIff (Fieldless w ∧ (Table.get? (key "" "") images).isSome)
      (images.replaceContainer w) := by
  rw [replaceContainer_eq]
  refine ((replaceImage_crashesIff images w).bind (q := False) fun w' _ => ?_).congr (by simp)
  exact replaceArgumentsOf_crashesIff images w'

/-- Only an object has a name, so its field can be written. -/
theorem replaceField_crashesIff (images : ImageOverrides) (mark field : String) (w : Json) :
    CrashesIff False (images.replaceField mark field w) := by
  cases w with
  | obj members =>
    rw [replaceField]
    split
    · split
      · exact .of_ok _
      · exact .of_ok _
    · exact .of_ok _
  | _ => exact .of_ok _

theorem mapArrayAt_crashesIff {f : Json → Except Halt Json} {P : Json → Prop}
    (h : ∀ w, CrashesIff (P w) (f w)) (d : Document) (path : Pointer) :
    CrashesIff (∃ items, d.value.at? path = some (.arr items) ∧ ∃ w ∈ items, P w)
      (mapArrayAt d path f) := by
  rw [mapArrayAt]
  split
  · rename_i items found
    refine ((CrashesIff.mapM h items).map _).congr ?_
    simp [found]
  · rename_i other
    refine (CrashesIff.of_ok d).congr ⟨False.elim, ?_⟩
    rintro ⟨items, found, -⟩
    exact other items found

/-! ## What is written -/

/-- Arguments are only ever replaced by texts. -/
theorem mem_replaceArguments {due : Option String} {items : List Json} {item : Json}
    (mem : item ∈ images.replaceArguments due items) : item ∈ items ∨ ∃ s, item = .str s := by
  fun_induction replaceArguments images due items with
  | case1 due => exact Or.inl mem
  | case2 due written rest argument text same flag other pieces flag' replaced ih =>
    rcases List.mem_cons.1 mem with here | later
    · refine Or.inr ?_
      rw [here]
      dsimp only [replaced]
      split
      · exact ⟨_, rfl⟩
      · exact ⟨text, same⟩
    · exact (ih later).imp_left (List.mem_cons_of_mem _)
  | case3 due written rest argument text same other ih =>
    rcases List.mem_cons.1 mem with here | later
    · exact Or.inr ⟨text, here.trans same⟩
    · exact (ih later).imp_left (List.mem_cons_of_mem _)
  | case4 due written rest argument other ih =>
    rcases List.mem_cons.1 mem with here | later
    · cases due with
      | none => exact Or.inl (List.mem_cons.2 (Or.inl here))
      | some image => exact (other image rfl).elim
    · exact (ih later).imp_left (List.mem_cons_of_mem _)

theorem keysDistinct_assignField (hw : w.keysDistinct) (hv : v.keysDistinct)
    (ok : assignField field v w = .ok w') : w'.keysDistinct := by
  cases w with
  | obj members =>
    cases ok
    exact Json.keysDistinct_put hw hv
  | null =>
    cases ok
    have empty : (Json.obj []).keysDistinct := rfl
    exact Json.keysDistinct_put empty hv
  | _ => cases ok

theorem keysDistinct_replaceImage (h : w.keysDistinct) (ok : images.replaceImage w = .ok w') :
    w'.keysDistinct := by
  rw [replaceImage] at ok
  split at ok
  · exact keysDistinct_assignField h rfl ok
  · cases ok
    exact h

theorem keysDistinct_replaceArgumentsOf (h : w.keysDistinct)
    (ok : images.replaceArgumentsOf w = .ok w') : w'.keysDistinct := by
  rw [replaceArgumentsOf] at ok
  split at ok
  · rename_i arguments found
    refine keysDistinct_assignField h (Json.keysDistinct_arr_iff.2 fun item mem => ?_) ok
    rcases mem_replaceArguments mem with old | ⟨s, rfl⟩
    · exact Json.keysDistinct_arr_iff.1 (Json.keysDistinct_of_get? h found) item old
    · rfl
  · cases ok
    exact h

theorem keysDistinct_replaceContainer (h : w.keysDistinct)
    (ok : images.replaceContainer w = .ok w') : w'.keysDistinct := by
  rw [replaceContainer_eq] at ok
  obtain ⟨container, replaced, ok⟩ := bind_eq_ok ok
  exact keysDistinct_replaceArgumentsOf (keysDistinct_replaceImage h replaced) ok

theorem keysDistinct_replaceField {mark : String} (h : w.keysDistinct)
    (ok : images.replaceField mark field w = .ok w') : w'.keysDistinct := by
  rw [replaceField] at ok
  split at ok
  · split at ok
    · exact keysDistinct_assignField h rfl ok
    · cases ok
      exact h
  · cases ok
    exact h

end ImageOverrides

namespace Document

/-- A deployment of which some container is a value that no field can be written to. -/
def HasFieldlessContainer (d : Document) : Prop :=
  d.kind = "Deployment" ∧ ∃ containers,
    d.value.at? ["spec", "template", "spec", "containers"] = some (.arr containers) ∧
      ∃ container ∈ containers, ImageOverrides.Fieldless container

end Document

namespace Transformer

open ImageOverrides

theorem deploymentImages_crashesIff (images : ImageOverrides) (d : Document) :
    CrashesIff (d.HasFieldlessContainer ∧ (Table.get? (key "" "") images).isSome)
      (deploymentImages images d) := by
  rw [deploymentImages]
  split
  · rename_i deployment
    refine ((mapArrayAt_crashesIff (replaceContainer_crashesIff images) d _).map some).congr ?_
    constructor
    · rintro ⟨containers, found, container, mem, fieldless, overridden⟩
      exact ⟨⟨deployment, containers, found, container, mem, fieldless⟩, overridden⟩
    · rintro ⟨⟨-, containers, found, container, mem, fieldless⟩, overridden⟩
      exact ⟨containers, found, container, mem, fieldless, overridden⟩
  · rename_i other
    exact (CrashesIff.of_ok _).congr ⟨False.elim, fun crashes => other crashes.1.1⟩

theorem taskImages_crashesIff (images : ImageOverrides) (d : Document) :
    CrashesIff False (taskImages images d) := by
  have total : ∀ (mark field : String) (d : Document) (path : Pointer),
      CrashesIff False (mapArrayAt d path (images.replaceField mark field)) := by
    intro mark field d path
    refine (mapArrayAt_crashesIff (replaceField_crashesIff images mark field) d path).congr ?_
    simp
  rw [taskImages]
  split
  · refine ((total _ _ d _).bind (q := False) fun d' _ => ?_).congr (by simp)
    exact (total _ _ d' _).map some
  · exact .of_ok _

end Transformer

end PhasedInstall
