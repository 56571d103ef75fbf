import Mathlib.Data.List.Nodup
import PhasedInstall.Json.Basic

/-!
# Merge patches

A merge patch is a value that says how a server is to change another one. An object changes the
fields that it names and leaves the others: a null removes a field, and anything else is merged into
it. What is no object replaces what was there as a whole, so a list is never changed by parts.

This is what the servers do to which changes are sent, and not something that the operator does. It
differs from an overlay in what null stands for.
-/

set_option autoImplicit false

namespace PhasedInstall.Json

mutual

/-- A value after a patch. The recursion is on the patch. -/
def mergePatch : Json → Json → Json
  | target, .obj patch => .obj (mergeMembers target.membersOrNone patch)
  | _, patch => patch

/-- Members after the members of a patch, in the order of the patch. -/
def mergeMembers : Members → List (String × Json) → Members
  | members, [] => members
  | members, (key, value) :: rest =>
    if value.isNull then mergeMembers (Table.erase key members) rest
    else
      let below := (Table.get? key members).getD .null
      mergeMembers (Table.put key (mergePatch below value) members) rest

end

theorem get?_mergeMembers {patch : Members} (distinct : (Table.keys patch).Nodup)
    (members : Members) (key : String) :
    Table.get? key (mergeMembers members patch) =
      match Table.get? key patch with
      | some v =>
        if v.isNull then none else some (mergePatch ((Table.get? key members).getD .null) v)
      | none => Table.get? key members := by
  induction patch generalizing members with
  | nil => rfl
  | cons head rest ih =>
    obtain ⟨k, v⟩ := head
    rw [Table.keys, List.map_cons, List.nodup_cons] at distinct
    rw [mergeMembers, Table.get?]
    by_cases h : k = key
    · -- The rest of the patch does not mention the key again.
      subst h
      have silent : Table.get? k rest = none := Table.get?_of_not_mem_keys distinct.1
      by_cases nothing : v.isNull = true
      · simp [nothing, ih distinct.2, silent]
      · simp [nothing, ih distinct.2, silent]
    · rw [if_neg h]
      split
      · rw [ih distinct.2, Table.get?_erase_of_ne (Ne.symm h)]
      · rw [ih distinct.2, Table.get?_put_of_ne (Ne.symm h)]

/-- **A patch field by field**: what is null in the patch is removed, what is given is merged, and
what is not mentioned stays. -/
theorem get?_mergePatch {patch : Members} (distinct : (Table.keys patch).Nodup) (target : Json)
    (key : String) :
    (target.mergePatch (.obj patch)).get? key =
      match Table.get? key patch with
      | some v => if v.isNull then none else some (mergePatch ((target.get? key).getD .null) v)
      | none => target.get? key := by
  rw [mergePatch, get?, get?_mergeMembers distinct]
  cases target <;> rfl

/-! ## Patches of one field -/

theorem nodup_keys_single (key : String) (value : Json) : (Table.keys [(key, value)]).Nodup :=
  List.nodup_singleton key

/-- The other fields stay as they are. -/
theorem get?_mergePatch_of_ne {key other : String} (h : other ≠ key) (target value : Json) :
    (target.mergePatch (.obj [(key, value)])).get? other = target.get? other := by
  rw [get?_mergePatch (nodup_keys_single key value), Table.get?, if_neg h.symm]
  rfl

theorem get?_mergePatch_self {key : String} {value : Json} (h : value.isNull = false)
    (target : Json) :
    (target.mergePatch (.obj [(key, value)])).get? key =
      some (((target.get? key).getD .null).mergePatch value) := by
  rw [get?_mergePatch (nodup_keys_single key value), Table.get?, if_pos rfl]
  simp only [h, Bool.false_eq_true, if_false]

theorem get?_mergePatch_null (key : String) (target : Json) :
    (target.mergePatch (.obj [(key, .null)])).get? key = none := by
  rw [get?_mergePatch (nodup_keys_single key .null), Table.get?, if_pos rfl]
  rfl

end PhasedInstall.Json
