import PhasedInstall.Proofs.Manifest.Edits

/-!
# What becomes of the items of an array

Images are replaced item by item, in three arrays: the containers of a deployment, and the steps and
the parameters of a cluster task. `Document.ItemsTurn` pairs the items of one document with those of
the other, where either both have the array or neither has.

An item goes by a key, and the field that holds its image becomes what the table has for that key
(`ImageOverrides.standsFor`). For the table of a subsystem this is said of the variables themselves
(`Overridden`).
-/

set_option autoImplicit false

namespace PhasedInstall

open Json (Region Place)

namespace Document

/-- Where a deployment has its containers. -/
abbrev containerPath : Pointer := ["spec", "template", "spec", "containers"]

/-- Where a task has its steps. -/
abbrev stepPath : Pointer := ["spec", "steps"]

/-- Where a task has its parameters. -/
abbrev parameterPath : Pointer := ["spec", "params"]

/-- The items of the array at a path, if there is one. -/
def itemsAt? (d : Document) (path : Pointer) : Option (List Json) :=
  (d.value.at? path).bind Json.items?

/-- The items of the array at a path have turned into those of another document, one by one. -/
def ItemsTurn (path : Pointer) (P : Json → Json → Prop) (d d' : Document) : Prop :=
  Option.Rel (List.Forall₂ P) (d.itemsAt? path) (d'.itemsAt? path)

variable {d d' e : Document} {path : Pointer} {P Q : Json → Json → Prop}

theorem ItemsTurn.imp (h : ItemsTurn path P d d') (each : ∀ w w', P w w' → Q w w') :
    ItemsTurn path Q d d' := by
  rw [ItemsTurn] at h ⊢
  generalize d.itemsAt? path = before, d'.itemsAt? path = after at h ⊢
  cases h with
  | none => exact .none
  | some items => exact .some (items.imp each)

/-- Only what is in the array counts, before and after. -/
theorem ItemsTurn.congr {e' : Document} (h : ItemsTurn path P d d')
    (before : d.value.at? path = e.value.at? path)
    (after : d'.value.at? path = e'.value.at? path) : ItemsTurn path P e e' := by
  rw [ItemsTurn, itemsAt?, itemsAt?, ← before, ← after]
  exact h

theorem itemsTurn_of_same (refl : ∀ w, P w w) (same : d'.value.at? path = d.value.at? path) :
    ItemsTurn path P d d' := by
  rw [ItemsTurn, itemsAt?, itemsAt?, same]
  cases (d.value.at? path).bind Json.items? with
  | none => exact .none
  | some items => exact .some (List.forall₂_same.2 fun w _ => refl w)

/-- The items of an array are changed one by one. -/
theorem itemsTurn_mapArrayAt {f : Json → Except Halt Json}
    (names : ∀ token ∈ path, Pointer.index? token = none)
    (ok : ImageOverrides.mapArrayAt d path f = .ok d') :
    ItemsTurn path (fun w w' => f w = .ok w') d d' := by
  rw [ImageOverrides.mapArrayAt] at ok
  split at ok
  · rename_i items found
    obtain ⟨items', mapped, written⟩ := bind_eq_ok ok
    cases written
    have become : (d.modifyAt path fun _ => .arr items').value.at? path = some (.arr items') :=
      (Json.at?_modifyAt names _ _).trans (congrArg _ found)
    rw [ItemsTurn, itemsAt?, itemsAt?, found, become]
    exact .some (forall₂_of_mapM mapped)
  · rename_i other
    cases ok
    have nothing : d.itemsAt? path = none := by
      rw [itemsAt?]
      cases found : d.value.at? path with
      | none => rfl
      | some v =>
        cases v with
        | arr items => exact absurd found (other items)
        | _ => rfl
    rw [ItemsTurn, nothing]
    exact .none

end Document

namespace ImageOverrides

variable {images : ImageOverrides} {field wanted mark leader image name : String}
  {environment : Environment} {v w w' : Json}

/-! ## One item -/

theorem get?_assignField_self (ok : assignField field v w = .ok w') : w'.get? field = some v := by
  cases w with
  | obj members =>
    cases ok
    exact Table.get?_put_self field v members
  | null =>
    cases ok
    exact Table.get?_put_self field v []
  | _ => cases ok

theorem get?_assignField_of_ne {key : String} (other : key ≠ field)
    (ok : assignField field v w = .ok w') : w'.get? key = w.get? key := by
  cases w with
  | obj members =>
    cases ok
    exact Table.get?_put_of_ne other v members
  | null =>
    cases ok
    exact Table.get?_put_of_ne other v []
  | _ => cases ok

theorem itemName?_congr (same : w'.get? "name" = w.get? "name") : itemName? w' = itemName? w := by
  rw [itemName?, itemName?, same]

/-- What stands in a field of an item that goes by a key. -/
def standsFor (images : ImageOverrides) (wanted field : String) (w : Json) : Option Json :=
  (Table.get? wanted images).elim (w.get? field) fun image => some (.str image)

/-- The key that a container goes by. -/
def containerKey (w : Json) : String := normal ((itemName? w).getD "")

theorem get?_replaceImage_self (ok : images.replaceImage w = .ok w') :
    w'.get? "image" = images.standsFor (containerKey w) "image" w := by
  rw [replaceImage, key_empty] at ok
  rw [standsFor, containerKey]
  split at ok
  · rename_i image found
    rw [found]
    exact get?_assignField_self ok
  · rename_i missing
    cases ok
    rw [missing]
    rfl

theorem get?_replaceImage_of_ne {key : String} (other : key ≠ "image")
    (ok : images.replaceImage w = .ok w') : w'.get? key = w.get? key := by
  rw [replaceImage] at ok
  split at ok
  · exact get?_assignField_of_ne other ok
  · cases ok
    rfl

theorem get?_replaceArgumentsOf {key : String} (other : key ≠ "args")
    (ok : images.replaceArgumentsOf w = .ok w') : w'.get? key = w.get? key := by
  rw [replaceArgumentsOf] at ok
  split at ok
  · exact get?_assignField_of_ne other ok
  · cases ok
    rfl

/-- **A container gets the image that the table has for its name.** -/
theorem image_replaceContainer (ok : images.replaceContainer w = .ok w') :
    w'.get? "image" = images.standsFor (containerKey w) "image" w ∧ itemName? w' = itemName? w := by
  rw [replaceContainer_eq] at ok
  obtain ⟨container, replaced, ok⟩ := bind_eq_ok ok
  constructor
  · rw [get?_replaceArgumentsOf (by decide) ok]
    exact get?_replaceImage_self replaced
  · rw [itemName?_congr (get?_replaceArgumentsOf (by decide) ok)]
    exact itemName?_congr (get?_replaceImage_of_ne (by decide) replaced)

/-- **A named item gets the image that the table has for its name**, in the name space of the
mark. -/
theorem field_replaceField (named : itemName? w = some name) (other : field ≠ "name")
    (ok : images.replaceField mark field w = .ok w') :
    w'.get? field = images.standsFor (key mark name) field w ∧ itemName? w' = itemName? w := by
  rw [replaceField, named] at ok
  dsimp only at ok
  rw [standsFor]
  split at ok
  · rename_i image found
    rw [found]
    exact ⟨get?_assignField_self ok, itemName?_congr (get?_assignField_of_ne other.symm ok)⟩
  · rename_i missing
    cases ok
    rw [missing]
    exact ⟨rfl, rfl⟩

/-- An item that is no container is passed over if it has no name. -/
theorem replaceField_of_unnamed (unnamed : itemName? w = none)
    (ok : images.replaceField mark field w = .ok w') : w' = w := by
  rw [replaceField, unnamed] at ok
  cases ok
  rfl

/-! ## What the variables say -/

/-- A field has the image of the last variable for a key. Without such a variable it is as it
was. -/
structure Overridden (leader wanted : String) (environment : Environment) (field : String)
    (w w' : Json) : Prop where
  given : ∀ image, LastFor leader wanted environment image → w'.get? field = some (.str image)
  kept : Unset leader wanted environment → w'.get? field = w.get? field

theorem overridden_of_standsFor
    (h : w'.get? field = (ofVariables leader environment).standsFor wanted field w) :
    Overridden leader wanted environment field w w' := by
  obtain ⟨found, missing⟩ := get?_ofVariables leader wanted environment
  rw [standsFor] at h
  constructor
  · intro image last
    rw [h, (found image).2 last]
    rfl
  · intro unset
    rw [h, missing.2 unset]
    rfl

/-- An item keeps its name, and if it has one, its field is overridden under it. -/
structure NamedOverridden (leader mark : String) (environment : Environment) (field : String)
    (w w' : Json) : Prop where
  name : itemName? w' = itemName? w
  own : ∀ name, itemName? w = some name →
    Overridden leader (mark ++ normal name) environment field w w'

theorem namedOverridden_replaceContainer
    (ok : (ofVariables leader environment).replaceContainer w = .ok w') :
    NamedOverridden leader "" environment "image" w w' := by
  obtain ⟨stands, same⟩ := image_replaceContainer ok
  refine ⟨same, fun name named => overridden_of_standsFor ?_⟩
  rw [stands, containerKey, named, Option.getD_some, String.empty_append]

theorem namedOverridden_replaceField (plain : underscored mark = mark) (other : field ≠ "name")
    (ok : (ofVariables leader environment).replaceField mark field w = .ok w') :
    NamedOverridden leader mark environment field w w' := by
  refine ⟨?_, fun name named => overridden_of_standsFor ?_⟩
  · cases named : itemName? w with
    | none => rw [replaceField_of_unnamed named ok, named]
    | some name => exact (field_replaceField named other ok).2.trans named
  · rw [(field_replaceField named other ok).1, key_eq, plain]

end ImageOverrides

/-! ## The arrays -/

namespace Transformer

open ImageOverrides Document

variable {images : ImageOverrides} {d d' : Document}

/-- A change that drops no document has one for a result, unless it gives up. -/
theorem Turns.exists_of_crashesIff {t : Transformer} {g : Heading → Heading} {p : Prop}
    (turns : t.Turns g) (crashes : CrashesIff p (t d)) (goes : ¬ p) :
    ∃ d', t d = .ok (some d') := by
  rcases crashes with ⟨holds, -⟩ | ⟨-, result, ok⟩
  · exact absurd holds goes
  · obtain ⟨d', rfl, -⟩ := turns d result ok
    exact ⟨d', ok⟩

theorem containers_deploymentImages (deployment : d.kind = "Deployment")
    (ok : deploymentImages images d = .ok (some d')) :
    d.ItemsTurn containerPath (fun w w' => images.replaceContainer w = .ok w') d' := by
  rw [deploymentImages, if_pos deployment] at ok
  obtain ⟨d₁, mapped, same⟩ := map_eq_ok ok
  cases same
  exact itemsTurn_mapArrayAt (by decide) mapped

/-- Replacing in one of the two arrays of a task leaves the other one alone. -/
theorem items_taskImages (task : d.kind = "ClusterTask")
    (ok : taskImages images d = .ok (some d')) :
    d.ItemsTurn stepPath (fun w w' => images.replaceField "" "image" w = .ok w') d' ∧
    d.ItemsTurn parameterPath
      (fun w w' => images.replaceField parameterMark "default" w = .ok w') d' := by
  rw [taskImages, if_pos task] at ok
  obtain ⟨d₁, steps, ok⟩ := bind_eq_ok ok
  obtain ⟨d₂, parameters, same⟩ := map_eq_ok ok
  cases same
  constructor
  · have apart : (sparing stepPath).writes (.inItems parameterPath [.member "default"]) := by
      decide
    have spared : d₁.Within (sparing stepPath) d' :=
      within_mapArrayAt parameters (by decide) fun _ _ => within_replaceField apart
    exact (itemsTurn_mapArrayAt (by decide) steps).congr rfl
      (spared.at?_of_spared (by decide)).symm
  · have apart : (sparing parameterPath).writes (.inItems stepPath [.member "image"]) := by
      decide
    have spared : d.Within (sparing parameterPath) d₁ :=
      within_mapArrayAt steps (by decide) fun _ _ => within_replaceField apart
    exact (itemsTurn_mapArrayAt (by decide) parameters).congr
      (spared.at?_of_spared (by decide)) rfl

end Transformer

end PhasedInstall
