import PhasedInstall.Json.Overlay
import PhasedInstall.Json.Pointer

/-!
# Fields of JSON values

Reading at a pointer, writing at a path and laying one value over another, each said through
`get?`. A value that is no object has no fields, and with that reading the equations need no case
for it: `membersOrNone` are the fields of any value.

An overlay goes through the new members in order, so where a key occurs twice it would be the last
one that counts, while `get?` finds the first. `get?_overlay` is about values without such keys,
and `keysDistinct` is the property of whole values that carries down to every object inside.
-/

set_option autoImplicit false

namespace PhasedInstall.Json

theorem get?_eq (key : String) (v : Json) : v.get? key = Table.get? key v.membersOrNone := by
  cases v <;> rfl

/-- A token that is no index only ever names members. -/
theorem child?_of_name {token : String} (h : Pointer.index? token = none) (v : Json) :
    v.child? token = v.get? token := by
  cases v <;> simp [child?, get?, h]

theorem at?_of_names {outer inner : String} (houter : Pointer.index? outer = none)
    (hinner : Pointer.index? inner = none) (v : Json) :
    v.at? [outer, inner] = (v.get? outer).bind (get? inner) := by
  rw [at?, child?_of_name houter]
  refine congrArg _ (funext fun w => ?_)
  rw [at?, child?_of_name hinner]
  cases w.get? inner <;> rfl

theorem setPath_cons (v : Json) (key : String) (rest : List String) (value : Json) :
    v.setPath (key :: rest) value =
      .obj (Table.put key (((v.get? key).getD .null).setPath rest value) v.membersOrNone) := by
  rw [get?_eq]
  rfl

theorem modifyAt_cons {token : String} (h : Pointer.index? token = none) (f : Json → Json)
    (rest : Pointer) (v : Json) :
    v.modifyAt f (token :: rest) =
      match v.get? token with
      | some child => .obj (Table.put token (child.modifyAt f rest) v.membersOrNone)
      | none => v := by
  cases v with
  | obj members =>
    rw [modifyAt, get?]
    cases Table.get? token members <;> rfl
  | arr items => rw [modifyAt, h]; rfl
  | _ => rfl

/-- What a pointer of names reaches is what was changed. -/
theorem at?_modifyAt {path : Pointer} (names : ∀ token ∈ path, Pointer.index? token = none)
    (f : Json → Json) (v : Json) : (v.modifyAt f path).at? path = (v.at? path).map f := by
  induction path generalizing v with
  | nil => rfl
  | cons token rest ih =>
    obtain ⟨name, names⟩ := List.forall_mem_cons.1 names
    rw [modifyAt_cons name, at?, at?, child?_of_name name, child?_of_name name]
    cases found : v.get? token with
    | none =>
      dsimp only
      rw [found]
      rfl
    | some child =>
      dsimp only
      rw [get?, Table.get?_put_self, Option.bind_some, ih names, Option.bind_some]

/-! ## Overlays -/

theorem overlay_of_not_object {desired : Json} (h : desired.isObject = false) (live : Json) :
    live.overlay desired = desired := by
  cases desired with
  | obj _ => cases h
  | _ => cases live <;> rfl

/-- What is laid over is a text exactly if what lies on top is one. -/
theorem str?_overlay (live desired : Json) : (live.overlay desired).str? = desired.str? := by
  cases desired with
  | obj _ => cases live <;> rfl
  | _ => cases live <;> rfl

theorem get?_overlayMembers {desired : Members} (distinct : (Table.keys desired).Nodup)
    (live : Members) (key : String) :
    Table.get? key (overlayMembers live desired) =
      match Table.get? key desired with
      | some v => some (overlay ((Table.get? key live).getD .null) v)
      | none => Table.get? key live := by
  induction desired generalizing live with
  | nil => rfl
  | cons head rest ih =>
    obtain ⟨k, v⟩ := head
    rw [Table.keys, List.map_cons, List.nodup_cons] at distinct
    rw [overlayMembers, ih distinct.2, Table.get?]
    by_cases h : k = key
    · subst h
      rw [Table.get?_of_not_mem_keys distinct.1, if_pos rfl]
      exact Table.get?_put_self _ _ _
    · rw [if_neg h, Table.get?_put_of_ne (Ne.symm h)]

/-- **An overlay field by field**: what is desired is laid over what was there, and what is not
mentioned stays. -/
theorem get?_overlay {desired : Members} (distinct : (Table.keys desired).Nodup) (live : Json)
    (key : String) :
    (live.overlay (.obj desired)).get? key =
      match Table.get? key desired with
      | some v => some (overlay ((live.get? key).getD .null) v)
      | none => live.get? key := by
  cases live with
  | obj members => exact get?_overlayMembers distinct members key
  | _ =>
    change Table.get? key desired = _
    cases Table.get? key desired with
    | none => rfl
    | some v => exact congrArg some (overlay_null v).symm

/-! ## Values without repeated keys -/

theorem keysDistinctItems_iff {items : List Json} :
    keysDistinctItems items ↔ ∀ item ∈ items, item.keysDistinct := by
  induction items with
  | nil => simp [keysDistinctItems]
  | cons head rest ih => simp [keysDistinctItems, ih]

theorem keysDistinctMembers_iff {members : Members} :
    keysDistinctMembers members ↔ ∀ entry ∈ members, entry.2.keysDistinct := by
  induction members with
  | nil => simp [keysDistinctMembers]
  | cons head rest ih => simp [keysDistinctMembers, ih]

theorem keysDistinct_arr_iff {items : List Json} :
    (arr items).keysDistinct ↔ ∀ item ∈ items, item.keysDistinct := by
  rw [keysDistinct, keysDistinctItems_iff]

theorem keysDistinct_obj_iff {members : Members} :
    (obj members).keysDistinct ↔
      (Table.keys members).Nodup ∧ ∀ entry ∈ members, entry.2.keysDistinct := by
  rw [keysDistinct, Bool.and_eq_true, decide_eq_true_iff, keysDistinctMembers_iff]

theorem keysDistinct_of_get? {v w : Json} {key : String} (h : v.keysDistinct)
    (found : v.get? key = some w) : w.keysDistinct := by
  cases v with
  | obj members => exact (keysDistinct_obj_iff.1 h).2 _ (Table.mem_of_get? found)
  | _ => cases found

theorem nodup_of_keysDistinct {v : Json} (h : v.keysDistinct) :
    (Table.keys v.membersOrNone).Nodup := by
  cases v with
  | obj members => exact (keysDistinct_obj_iff.1 h).1
  | _ => exact List.nodup_nil

/-- **What a value does not mention stays when it is laid over another**, unless something on the
way there is replaced as a whole. -/
theorem at?_overlay_of_silent {path : Pointer} (names : ∀ token ∈ path, Pointer.index? token = none)
    {desired : Json} (distinct : desired.keysDistinct) (silent : desired.at? path = none)
    (live : Json) :
    (live.overlay desired).at? path = live.at? path ∨
      (live.overlay desired).at? path = none := by
  induction path generalizing live desired with
  | nil => cases silent
  | cons token rest ih =>
    obtain ⟨name, names⟩ := List.forall_mem_cons.1 names
    rw [at?, child?_of_name name] at silent
    rw [at?, at?, child?_of_name name, child?_of_name name]
    cases desired with
    | obj members =>
      rw [get?_overlay (keysDistinct_obj_iff.1 distinct).1]
      cases declared : Table.get? token members with
      | none => exact Or.inl rfl
      | some w =>
        have below : w.at? rest = none := by
          rw [get?, declared] at silent
          exact silent
        have kept := ih names (keysDistinct_of_get? distinct declared) below
        cases found : live.get? token with
        | none =>
          refine Or.inr ?_
          change at? rest (overlay .null w) = none
          rw [overlay_null]
          exact below
        | some v => exact kept v
    | _ =>
      refine Or.inr ?_
      rw [overlay_of_not_object rfl]
      rfl

/-- What is no object replaces what was in its place. -/
theorem at?_overlay_of_not_object {path : Pointer}
    (names : ∀ token ∈ path, Pointer.index? token = none) {desired v : Json}
    (distinct : desired.keysDistinct) (declared : desired.at? path = some v)
    (whole : v.isObject = false) (live : Json) : (live.overlay desired).at? path = some v := by
  induction path generalizing live desired with
  | nil =>
    cases declared
    rw [overlay_of_not_object whole]
    rfl
  | cons token rest ih =>
    obtain ⟨name, names⟩ := List.forall_mem_cons.1 names
    rw [at?, child?_of_name name] at declared
    obtain ⟨w, found, below⟩ := Option.bind_eq_some_iff.1 declared
    have inner := keysDistinct_of_get? distinct found
    cases desired with
    | obj members =>
      change Table.get? token members = some w at found
      rw [at?, child?_of_name name, get?_overlay (keysDistinct_obj_iff.1 distinct).1, found]
      exact ih names inner below _
    | _ => cases found

end PhasedInstall.Json
