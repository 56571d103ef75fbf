import PhasedInstall.Proofs.Json.Layers

/-!
# The laws of writing at a path

Writing makes objects of whatever is on the way, so after a write there is an object at every
proper prefix of the path, and the path leads to what was written (`at?_setPath_front`). A later
write to the same path leaves nothing of an earlier one (`setPath_setPath`). What a pointer leads to
that is apart from the path stays as it is, unless the pointer goes through something that is no
object and that the write needs as one: that is `Displaces`, and then the pointer leads nowhere.

Pointers that go through members only lose nothing in that way (`follow?_setPath_of_apart`).
Writes to paths apart commute, whatever is on the way, but for the order in which new members stand
(`setPath_comm`).
-/

set_option autoImplicit false

namespace PhasedInstall

namespace Table

variable {α : Type} {key other : String} {a b : α} {t : Table α}

theorem put_put (key : String) (a b : α) (t : Table α) :
    put key b (put key a t) = put key b t := by
  induction t with
  | nil => simp [put]
  | cons head rest ih =>
    obtain ⟨k, v⟩ := head
    by_cases h : k = key <;> simp [put, h, ih]

theorem length_put (key : String) (a : α) (t : Table α) :
    (put key a t).length = if key ∈ keys t then t.length else t.length + 1 := by
  induction t with
  | nil => simp [put, keys]
  | cons head rest ih =>
    obtain ⟨k, v⟩ := head
    by_cases h : k = key
    · simp [put, keys, h]
    · simp only [put, h, if_false, List.length_cons, ih, keys, List.map_cons, List.mem_cons,
        Ne.symm h, false_or]
      exact apply_ite (· + 1) _ _ _

end Table

namespace Pointer

/-- Neither pointer leads through the other. -/
def Apart (path other : Pointer) : Prop := ¬ path <+: other ∧ ¬ other <+: path

variable {path other : Pointer} {key token : String}

theorem Apart.symm (apart : path.Apart other) : other.Apart path := ⟨apart.2, apart.1⟩

theorem not_apart_nil : ¬ Apart path [] := fun apart => apart.2 List.nil_prefix

theorem apart_cons_iff :
    Apart (key :: path) (token :: other) ↔ key = token → path.Apart other := by
  simp only [Apart, List.cons_prefix_cons, not_and, eq_comm (a := token)]
  exact ⟨fun h same => ⟨h.1 same, h.2 same⟩,
    fun h => ⟨fun same => (h same).1, fun same => (h same).2⟩⟩

end Pointer

namespace Json

variable {v w value : Json} {path other : Pointer}

@[simp] theorem membersOrNone_obj (members : Members) : (obj members).membersOrNone = members := rfl

@[simp] theorem get?_obj (key : String) (members : Members) :
    (obj members).get? key = Table.get? key members := rfl

/-- A longer pointer is followed in two parts. -/
theorem at?_append (front back : Pointer) (v : Json) :
    v.at? (front ++ back) = (v.at? front).bind (at? back) := by
  induction front generalizing v with
  | nil => rfl
  | cons token rest ih =>
    rw [List.cons_append, at?, at?, Option.bind_assoc]
    exact congrArg _ (funext ih)

theorem child?_setPath_self (v : Json) (key : String) (rest : List String) (value : Json) :
    (v.setPath (key :: rest) value).child? key =
      some (((v.get? key).getD .null).setPath rest value) := by
  rw [setPath_cons, child?, Table.get?_put_self]

theorem child?_setPath_of_ne {key token : String} (other : token ≠ key) (v : Json)
    (rest : List String) (value : Json) :
    (v.setPath (key :: rest) value).child? token = v.get? token := by
  rw [setPath_cons, child?, Table.get?_put_of_ne other, get?_eq]

/-! ## What was written is there -/

/-- At a prefix of the path there is something that was written into. -/
theorem at?_setPath_front (front back : List String) (v value : Json) :
    ∃ u : Json, (v.setPath (front ++ back) value).at? front = some (u.setPath back value) := by
  induction front generalizing v with
  | nil => exact ⟨v, rfl⟩
  | cons key rest ih =>
    obtain ⟨u, reached⟩ := ih ((v.get? key).getD .null)
    refine ⟨u, ?_⟩
    rw [List.cons_append, at?, child?_setPath_self]
    exact reached

/-- **The path leads to what was written**, and longer pointers lead into it. -/
theorem at?_setPath_append (path : List String) (inner : Pointer) (v value : Json) :
    (v.setPath path value).at? (path ++ inner) = value.at? inner := by
  obtain ⟨u, reached⟩ := at?_setPath_front path [] v value
  rw [List.append_nil] at reached
  rw [at?_append, reached]
  rfl

theorem at?_setPath_self (path : List String) (v value : Json) :
    (v.setPath path value).at? path = some value := by
  have whole := at?_setPath_append path [] v value
  rwa [List.append_nil] at whole

/-- **Nothing is left of an earlier write.** -/
theorem setPath_setPath (path : List String) (v a b : Json) :
    (v.setPath path a).setPath path b = v.setPath path b := by
  induction path generalizing v with
  | nil => rfl
  | cons key rest ih =>
    rw [setPath_cons, setPath_cons v, setPath_cons v, membersOrNone_obj, Table.put_put, get?_obj,
      Table.get?_put_self, Option.getD_some, ih]

/-! ## What is elsewhere stays -/

/-- On the way to the end of the path there is something that is no object, and the other pointer
goes through it as well. -/
def Displaces (v : Json) (path other : Pointer) : Prop :=
  ∃ front key back w, path = front ++ key :: back ∧ front <+: other ∧ v.at? front = some w ∧
    w.isObject = false

/-- What is made of something that is no object has only what is written into it. -/
theorem at?_setPath_of_not_object (apart : path.Apart other) (whole : v.isObject = false)
    (value : Json) : (v.setPath path value).at? other = none := by
  induction path generalizing v other with
  | nil => exact absurd apart.symm Pointer.not_apart_nil
  | cons key rest ih =>
    have empty (name : String) : v.get? name = none := by
      cases v with
      | obj members => cases whole
      | _ => rfl
    cases other with
    | nil => exact absurd apart Pointer.not_apart_nil
    | cons token others =>
      rw [at?]
      by_cases same : token = key
      · subst same
        rw [child?_setPath_self, empty]
        exact ih (Pointer.apart_cons_iff.1 apart rfl) rfl
      · rw [child?_setPath_of_ne same, empty]
        rfl

theorem Displaces.cons {key : String} {rest others : Pointer} {child : Json}
    (found : v.get? key = some child) :
    Displaces v (key :: rest) (key :: others) ↔ child.Displaces rest others := by
  have step (front : Pointer) : v.at? (key :: front) = child.at? front := by
    cases v with
    | obj members =>
      rw [at?, child?]
      exact congrArg (Option.bind · (at? front)) found
    | _ => cases found
  constructor
  · rintro ⟨front, next, back, w, split, inside, reached, whole⟩
    cases front with
    | nil =>
      cases reached
      cases v with
      | obj members => cases whole
      | _ => cases found
    | cons first front =>
      obtain ⟨rfl, rfl⟩ := List.cons.inj split
      rw [step] at reached
      exact ⟨front, next, back, w, rfl, (List.cons_prefix_cons.1 inside).2, reached, whole⟩
  · rintro ⟨front, next, back, w, rfl, inside, reached, whole⟩
    refine ⟨key :: front, next, back, w, rfl, List.cons_prefix_cons.2 ⟨rfl, inside⟩, ?_, whole⟩
    rw [step]
    exact reached

/-- Inside an object nothing is displaced on the way to another member. -/
theorem not_displaces_of_ne {key token : String} {rest others : Pointer} (ne : token ≠ key)
    (object : v.isObject = true) : ¬ v.Displaces (key :: rest) (token :: others) := by
  rintro ⟨front, next, back, w, split, inside, reached, whole⟩
  cases front with
  | nil =>
    cases reached
    rw [object] at whole
    cases whole
  | cons first front =>
    obtain ⟨rfl, -⟩ := List.cons.inj split
    exact ne (List.cons_prefix_cons.1 inside).1.symm

/-- **What a pointer apart from the path leads to**: what it led to before, or nothing if the write
has put an object in the way. -/
theorem at?_setPath_of_apart (apart : path.Apart other) (v value : Json) :
    (v.Displaces path other → (v.setPath path value).at? other = none) ∧
      (¬ v.Displaces path other → (v.setPath path value).at? other = v.at? other) := by
  induction path generalizing v other with
  | nil => exact absurd apart.symm Pointer.not_apart_nil
  | cons key rest ih =>
    cases other with
    | nil => exact absurd apart Pointer.not_apart_nil
    | cons token others =>
      cases object : v.isObject with
      | false =>
        have displaced : v.Displaces (key :: rest) (token :: others) :=
          ⟨[], key, rest, v, rfl, List.nil_prefix, rfl, object⟩
        exact ⟨fun _ => at?_setPath_of_not_object apart object value,
          fun spared => absurd displaced spared⟩
      | true =>
        obtain ⟨members, rfl⟩ : ∃ members, v = .obj members := by
          cases v with
          | obj members => exact ⟨members, rfl⟩
          | _ => cases object
        rw [at?, at?]
        by_cases same : token = key
        · subst same
          have below := Pointer.apart_cons_iff.1 apart rfl
          rw [child?_setPath_self, child?]
          cases found : Table.get? token members with
          | none =>
            -- A member that is missing is written as if it were null.
            have fresh := at?_setPath_of_not_object (v := .null) below rfl value
            simp [get?, found, fresh]
          | some child =>
            have member : (obj members).get? token = some child := found
            rw [member, Displaces.cons member]
            exact ih below child
        · rw [child?_setPath_of_ne same]
          exact ⟨fun displaced => absurd displaced (not_displaces_of_ne same rfl), fun _ => rfl⟩

theorem follow?_setPath_self (path : List String) (v value : Json) :
    (v.setPath path value).follow? (.ofKeys path) = some value := by
  induction path generalizing v with
  | nil => rfl
  | cons key rest ih =>
    rw [follow?_ofKeys_cons, setPath_cons, get?_obj, Table.get?_put_self, Option.bind_some, ih]

/-- **Members elsewhere stay**, whatever is on the way: what is displaced has none. -/
theorem follow?_setPath_of_apart (apart : path.Apart other) (v value : Json) :
    (v.setPath path value).follow? (.ofKeys other) = v.follow? (.ofKeys other) := by
  induction path generalizing v other with
  | nil => exact absurd apart.symm Pointer.not_apart_nil
  | cons key rest ih =>
    cases other with
    | nil => exact absurd apart Pointer.not_apart_nil
    | cons token others =>
      rw [follow?_ofKeys_cons, follow?_ofKeys_cons, setPath_cons, get?_obj]
      by_cases same : token = key
      · subst same
        have below := Pointer.apart_cons_iff.1 apart rfl
        rw [Table.get?_put_self, Option.bind_some, ih below]
        cases v.get? token with
        | some child => rfl
        | none =>
          cases others with
          | nil => exact absurd below Pointer.not_apart_nil
          | cons next _ => rfl
      · rw [Table.get?_put_of_ne same, ← get?_eq]

/-! ## Equality of values -/

theorem sameItems_self {items : List Json} (h : ∀ item ∈ items, item.same item) :
    sameItems items items := by
  induction items with
  | nil => rfl
  | cons head rest ih =>
    rw [List.forall_mem_cons] at h
    rw [sameItems, h.1, ih h.2]
    rfl

theorem sameMembers_of {xs ys : Members}
    (h : ∀ entry ∈ xs, ∃ w, Table.get? entry.1 ys = some w ∧ entry.2.same w) :
    sameMembers xs ys := by
  induction xs with
  | nil => rfl
  | cons head rest ih =>
    rw [List.forall_mem_cons] at h
    obtain ⟨⟨w, found, same⟩, others⟩ := h
    rw [sameMembers, found, ih others]
    simpa using same

/-- Objects with as many members that are equal key by key are equal. -/
theorem same_obj_of_get? {xs ys : Members} (distinct : (Table.keys xs).Nodup)
    (length : xs.length = ys.length)
    (each : ∀ key v, Table.get? key xs = some v → ∃ w, Table.get? key ys = some w ∧ v.same w) :
    (obj xs).same (obj ys) := by
  rw [same, Bool.and_eq_true, beq_iff_eq]
  exact ⟨length, sameMembers_of fun entry mem => each _ _ (Table.get?_of_mem distinct mem)⟩

theorem same_self (distinct : v.keysDistinct) : v.same v := by
  induction v using byMembers with
  | null => rfl
  | bool b => simp [same]
  | num n =>
    rw [same]
    cases n with
    | int n => simp [Number.same]
    | float x => exact x.sameNumber_refl
  | str s => simp [same]
  | arr items ih =>
    rw [keysDistinct_arr_iff] at distinct
    rw [same]
    exact sameItems_self fun item mem => ih item mem (distinct item mem)
  | obj members ih =>
    obtain ⟨nodup, each⟩ := keysDistinct_obj_iff.1 distinct
    refine same_obj_of_get? nodup rfl fun key v found => ⟨v, found, ?_⟩
    have mem := Table.mem_of_get? found
    exact ih (key, v) mem (each _ mem)

/-- The members of a value without repeated keys are equal to themselves. -/
theorem same_of_get? {members : Members} (distinct : (obj members).keysDistinct) {key : String}
    (found : Table.get? key members = some v) : v.same v :=
  same_self (keysDistinct_of_get? (v := .obj members) distinct found)

theorem same_put {members : Members} (distinct : (obj members).keysDistinct) (key : String)
    (equal : v.same w) : (obj (Table.put key v members)).same (obj (Table.put key w members)) := by
  have nodup := (keysDistinct_obj_iff.1 distinct).1
  refine same_obj_of_get? (Table.nodup_keys_put nodup key v) ?_ fun name u found => ?_
  · rw [Table.length_put, Table.length_put]
  · by_cases here : name = key
    · subst here
      rw [Table.get?_put_self] at found ⊢
      cases found
      exact ⟨w, rfl, equal⟩
    · rw [Table.get?_put_of_ne here] at found ⊢
      exact ⟨u, found, same_of_get? distinct found⟩

/-- Two members are written in either order, but new ones stand in the order of writing. -/
theorem same_put_put {members : Members} (distinct : (obj members).keysDistinct)
    (hv : v.keysDistinct) (hw : w.keysDistinct) {key other : String} (ne : other ≠ key) :
    (obj (Table.put other w (Table.put key v members))).same
      (obj (Table.put key v (Table.put other w members))) := by
  have nodup := (keysDistinct_obj_iff.1 distinct).1
  refine same_obj_of_get? (Table.nodup_keys_put (Table.nodup_keys_put nodup key v) other w) ?_ ?_
  · simp only [Table.length_put, Table.mem_keys_put, ne, ne.symm, false_or]
    split <;> split <;> rfl
  · intro name u found
    by_cases here : name = other
    · subst here
      rw [Table.get?_put_self] at found
      cases found
      rw [Table.get?_put_of_ne ne, Table.get?_put_self]
      exact ⟨w, rfl, same_self hw⟩
    · rw [Table.get?_put_of_ne here] at found
      by_cases there : name = key
      · subst there
        rw [Table.get?_put_self] at found ⊢
        cases found
        exact ⟨v, rfl, same_self hv⟩
      · rw [Table.get?_put_of_ne there] at found ⊢
        rw [Table.get?_put_of_ne here]
        exact ⟨u, found, same_of_get? distinct found⟩

/-- **Writes to paths apart commute**, whatever is on the way. -/
theorem setPath_comm (apart : path.Apart other) {v a b : Json} (hv : v.keysDistinct)
    (ha : a.keysDistinct) (hb : b.keysDistinct) :
    ((v.setPath path a).setPath other b).same ((v.setPath other b).setPath path a) := by
  induction path generalizing v other with
  | nil => exact absurd apart.symm Pointer.not_apart_nil
  | cons key rest ih =>
    cases other with
    | nil => exact absurd apart Pointer.not_apart_nil
    | cons token others =>
      have members := keysDistinct_membersOrNone hv
      have below (name : String) : ((v.get? name).getD .null).keysDistinct := by
        rw [get?_eq]
        exact keysDistinct_getD members name
      rw [setPath_cons _ token, setPath_cons v key, setPath_cons _ key, setPath_cons v token]
      simp only [membersOrNone_obj, get?_obj]
      by_cases same : token = key
      · subst same
        rw [Table.put_put, Table.put_put, Table.get?_put_self, Table.get?_put_self]
        exact same_put members token (ih (Pointer.apart_cons_iff.1 apart rfl) (below token))
      · rw [Table.get?_put_of_ne same, Table.get?_put_of_ne (Ne.symm same), ← get?_eq, ← get?_eq]
        exact same_put_put members (keysDistinct_setPath rest (below key) ha)
          (keysDistinct_setPath others (below token) hb) same

end Json

end PhasedInstall
