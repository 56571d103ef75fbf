import PhasedInstall.Proofs.Json.Distinct

/-!
# When two trees agree

`same` is equality of values, and `agrees` is what a walk over both trees finds out. The walk goes
by entries, so it cannot tell a container without any from another one. It sees both values as
`blurred` shows them, with an empty object in the place of every empty array, and sees that exactly
(`agrees_eq_same_blurred`). Equal values agree. What differs and agrees all the same is `Blurs`.
-/

set_option autoImplicit false

namespace PhasedInstall.Json

mutual

/-- The value with an empty object in the place of every empty array. -/
def blurred : Json → Json
  | .arr [] => .obj []
  | .arr (item :: rest) => .arr (blurred item :: blurredItems rest)
  | .obj members => .obj (blurredMembers members)
  | v => v

def blurredItems : List Json → List Json
  | [] => []
  | item :: rest => blurred item :: blurredItems rest

def blurredMembers : List (String × Json) → Members
  | [] => []
  | (key, value) :: rest => (key, blurred value) :: blurredMembers rest

end

/-- Two values differ, but only in whether something empty is an array or an object. -/
def Blurs (v w : Json) : Prop := v.same w = false ∧ v.blurred.same w.blurred = true

theorem length_blurredMembers (members : List (String × Json)) :
    (blurredMembers members).length = members.length := by
  induction members with
  | nil => rfl
  | cons head rest ih => rw [blurredMembers, List.length_cons, ih, List.length_cons]

theorem get?_blurredMembers (key : String) (members : Members) :
    Table.get? key (blurredMembers members) = (Table.get? key members).map blurred := by
  induction members with
  | nil => rfl
  | cons head rest ih =>
    rw [blurredMembers, Table.get?, Table.get?, ih]
    split <;> rfl

theorem agreesItems_eq {items : List Json}
    (each : ∀ item ∈ items, ∀ w : Json, item.agrees w = item.blurred.same w.blurred)
    (others : List Json) :
    agreesItems items others = sameItems (blurredItems items) (blurredItems others) := by
  induction items generalizing others with
  | nil => cases others <;> rfl
  | cons item rest ih =>
    obtain ⟨here, there⟩ := List.forall_mem_cons.1 each
    cases others with
    | nil => rfl
    | cons other others =>
      rw [agreesItems, blurredItems, blurredItems, sameItems, here, ih there]

theorem agreesMembers_eq {members : Members}
    (each : ∀ entry ∈ members, ∀ w : Json, entry.2.agrees w = entry.2.blurred.same w.blurred)
    (others : Members) :
    agreesMembers members others =
      sameMembers (blurredMembers members) (blurredMembers others) := by
  induction members with
  | nil => rfl
  | cons head rest ih =>
    obtain ⟨here, there⟩ := List.forall_mem_cons.1 each
    rw [agreesMembers, blurredMembers, sameMembers, get?_blurredMembers, ih there]
    cases Table.get? head.1 others with
    | none => rfl
    | some w => exact congrArg (· && _) (here w)

/-- **The walk sees blurred values.** -/
theorem agrees_eq_same_blurred (v w : Json) : v.agrees w = v.blurred.same w.blurred := by
  induction v using byMembers generalizing w with
  | arr items ih =>
    cases w with
    | arr others =>
      have whole := agreesItems_eq ih others
      -- An array that has items stays an array, so both sides go through the items.
      cases items with
      | nil => cases others <;> rfl
      | cons item rest =>
        cases others with
        | nil => rfl
        | cons other others => exact whole
    | obj members =>
      cases items with
      | nil => cases members <;> rfl
      | cons item rest => cases members <;> rfl
    | _ => cases items <;> rfl
  | obj members ih =>
    cases w with
    | obj others =>
      rw [agrees, blurred, blurred, same, length_blurredMembers, length_blurredMembers,
        agreesMembers_eq ih]
    | arr others =>
      cases others with
      | nil => cases members <;> rfl
      | cons other others => cases members <;> rfl
    | _ => cases members <;> rfl
  | _ =>
    cases w with
    | arr others => cases others <;> rfl
    | _ => rfl

/-! ## Equal values agree -/

theorem agreesItems_of_same {items others : List Json}
    (each : ∀ item ∈ items, ∀ w : Json, item.same w = true → item.agrees w = true)
    (h : sameItems items others = true) : agreesItems items others = true := by
  induction items generalizing others with
  | nil =>
    cases others with
    | nil => rfl
    | cons _ _ => cases h
  | cons item rest ih =>
    obtain ⟨here, there⟩ := List.forall_mem_cons.1 each
    cases others with
    | nil => cases h
    | cons other others =>
      rw [sameItems, Bool.and_eq_true] at h
      rw [agreesItems, here other h.1, ih there h.2]
      rfl

theorem agreesMembers_of_same {members others : Members}
    (each : ∀ entry ∈ members, ∀ w : Json, entry.2.same w = true → entry.2.agrees w = true)
    (h : sameMembers members others = true) : agreesMembers members others = true := by
  induction members with
  | nil => rfl
  | cons head rest ih =>
    obtain ⟨here, there⟩ := List.forall_mem_cons.1 each
    rw [sameMembers, Bool.and_eq_true] at h
    rw [agreesMembers, ih there h.2, Bool.and_true]
    cases found : Table.get? head.1 others with
    | none =>
      rw [found] at h
      cases h.1
    | some w =>
      rw [found] at h
      exact here w h.1

theorem agrees_of_same {v w : Json} (h : v.same w = true) : v.agrees w = true := by
  induction v using byMembers generalizing w with
  | arr items ih =>
    cases w with
    | arr others => exact agreesItems_of_same ih h
    | _ => cases h
  | obj members ih =>
    cases w with
    | obj others =>
      rw [same, Bool.and_eq_true] at h
      rw [agrees, h.1, agreesMembers_of_same ih h.2]
      rfl
    | _ => cases h
  | _ =>
    cases w with
    | arr _ | obj _ => cases h
    | _ => exact h

/-- What the walk misses. -/
theorem blurs_iff (v w : Json) : v.Blurs w ↔ v.same w = false ∧ v.agrees w = true := by
  rw [Blurs, agrees_eq_same_blurred]

end PhasedInstall.Json
