import PhasedInstall.Proofs.Json.Fields

/-!
# Writing keeps keys apart

No operation on values makes a key occur twice: members are only ever written with `Table.put`, and
what is written has no repeated keys itself. `Json.byMembers` is the induction over a value with
the items and members below it, for statements whose definitions go through the lists in functions
of their own.
-/

set_option autoImplicit false

namespace PhasedInstall.Json

@[elab_as_elim]
theorem byMembers {motive : Json → Prop} (null : motive .null) (bool : ∀ b, motive (.bool b))
    (num : ∀ n, motive (.num n)) (str : ∀ s, motive (.str s))
    (arr : ∀ items, (∀ item ∈ items, motive item) → motive (.arr items))
    (obj : ∀ members : Members, (∀ entry ∈ members, motive entry.2) → motive (.obj members)) :
    ∀ v, motive v
  | .null => null
  | .bool b => bool b
  | .num n => num n
  | .str s => str s
  | .arr items => arr items fun item _ => byMembers null bool num str arr obj item
  | .obj members => obj members fun entry _ => byMembers null bool num str arr obj entry.2
termination_by v => sizeOf v
decreasing_by
  · have smaller := List.sizeOf_lt_of_mem ‹item ∈ items›
    simp only [Json.arr.sizeOf_spec]
    omega
  · have smaller := List.sizeOf_lt_of_mem ‹entry ∈ members›
    have inside : sizeOf entry = 1 + sizeOf entry.1 + sizeOf entry.2 := by cases entry; rfl
    simp only [Json.obj.sizeOf_spec]
    omega

variable {members : Members} {key : String} {v w : Json}

theorem keysDistinct_put (h : (obj members).keysDistinct) (hv : v.keysDistinct) :
    (obj (Table.put key v members)).keysDistinct := by
  rw [keysDistinct_obj_iff] at h ⊢
  refine ⟨Table.nodup_keys_put h.1 key v, ?_⟩
  intro entry mem
  rcases Table.mem_put mem with rfl | old
  · exact hv
  · exact h.2 entry old

theorem keysDistinct_erase (h : (obj members).keysDistinct) :
    (obj (Table.erase key members)).keysDistinct := by
  rw [keysDistinct_obj_iff] at h ⊢
  refine ⟨Table.nodup_keys_erase h.1 key, ?_⟩
  intro entry mem
  exact h.2 entry (List.mem_filter.1 mem).1

theorem keysDistinct_membersOrNone (h : v.keysDistinct) : (obj v.membersOrNone).keysDistinct := by
  cases v with
  | obj members => exact h
  | _ => rfl

/-- The value under a key, or null where there is none. -/
theorem keysDistinct_getD (h : (obj members).keysDistinct) (key : String) :
    ((Table.get? key members).getD .null).keysDistinct := by
  cases found : Table.get? key members with
  | none => rfl
  | some w => exact keysDistinct_of_get? (v := .obj members) h found

theorem keysDistinct_of_at? {path : Pointer} (h : v.keysDistinct) (found : v.at? path = some w) :
    w.keysDistinct := by
  induction path generalizing v with
  | nil =>
    cases found
    exact h
  | cons token rest ih =>
    obtain ⟨child, below, found⟩ := Option.bind_eq_some_iff.1 found
    refine ih ?_ found
    cases v with
    | obj members => exact keysDistinct_of_get? (v := .obj members) h below
    | arr items =>
      obtain ⟨i, -, item⟩ := Option.bind_eq_some_iff.1 below
      exact keysDistinct_arr_iff.1 h child (List.mem_of_getElem? item)
    | _ => cases below

theorem keysDistinct_setPath (path : List String) (hv : v.keysDistinct) (hw : w.keysDistinct) :
    (v.setPath path w).keysDistinct := by
  induction path generalizing v with
  | nil => exact hw
  | cons key rest ih =>
    have members := keysDistinct_membersOrNone hv
    rw [setPath]
    exact keysDistinct_put members (ih (keysDistinct_getD members key))

theorem keysDistinct_map {f : Json → Json} {items : List Json} (h : (arr items).keysDistinct)
    (hf : ∀ v : Json, v.keysDistinct → (f v).keysDistinct) : (arr (items.map f)).keysDistinct := by
  rw [keysDistinct_arr_iff] at h ⊢
  intro item mem
  obtain ⟨old, memOld, rfl⟩ := List.mem_map.1 mem
  exact hf old (h old memOld)

theorem keysDistinct_modifyAt {f : Json → Json}
    (hf : ∀ v : Json, v.keysDistinct → (f v).keysDistinct) (path : Pointer) (hv : v.keysDistinct) :
    (v.modifyAt f path).keysDistinct := by
  induction path generalizing v with
  | nil => exact hf v hv
  | cons token rest ih =>
    cases v with
    | obj members =>
      rw [modifyAt]
      cases found : Table.get? token members with
      | none => exact hv
      | some child => exact keysDistinct_put hv (ih (keysDistinct_of_get? hv found))
    | arr items =>
      rw [modifyAt]
      split
      · rw [keysDistinct_arr_iff] at hv ⊢
        intro item mem
        obtain ⟨i, hi, rfl⟩ := List.mem_iff_getElem.1 mem
        rw [List.getElem_modify]
        rw [List.length_modify] at hi
        have old := hv _ (List.getElem_mem hi)
        split
        · exact ih old
        · exact old
      · exact hv
    | _ => exact hv

/-- What is laid over a value brings no repeated keys that were not there. -/
theorem keysDistinct_overlay (hw : w.keysDistinct) (hv : v.keysDistinct) :
    (v.overlay w).keysDistinct := by
  induction w using byMembers generalizing v with
  | obj desired ih =>
    cases v with
    | obj live =>
      have each := (keysDistinct_obj_iff.1 hw).2
      rw [overlay]
      -- The members are laid over one by one, and what they are laid over changes under way.
      clear hw
      induction desired generalizing live with
      | nil => exact hv
      | cons head rest ihRest =>
        obtain ⟨key, value⟩ := head
        rw [List.forall_mem_cons] at each ih
        rw [overlayMembers]
        refine ihRest ih.2 _ ?_ each.2
        exact keysDistinct_put hv (ih.1 each.1 (keysDistinct_getD hv key))
    | _ => exact hw
  | _ => rw [overlay_of_not_object rfl]; exact hw

end PhasedInstall.Json
