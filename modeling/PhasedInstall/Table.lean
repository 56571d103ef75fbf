/-!
# Tables

A table holds values by their keys, in the order in which the keys came first. Writing a key that
is present keeps its place. What a table means is `get?`; the lemmas say what each operation does
to it.
-/

set_option autoImplicit false

namespace PhasedInstall

/-- Values by key, in order. -/
abbrev Table (α : Type) := List (String × α)

namespace Table

variable {α : Type}

/-- The value under a key. -/
def get? (key : String) : Table α → Option α
  | [] => none
  | (k, v) :: rest => if k = key then some v else get? key rest

/-- Writes a value under a key: in place if the key is present, else at the end. -/
def put (key : String) (value : α) : Table α → Table α
  | [] => [(key, value)]
  | (k, v) :: rest => if k = key then (k, value) :: rest else (k, v) :: put key value rest

/-- Removes a key. -/
def erase (key : String) (t : Table α) : Table α := t.filter fun entry => entry.1 ≠ key

/-- The keys, in order. -/
def keys (t : Table α) : List String := t.map Prod.fst

@[simp] theorem get?_nil (key : String) : get? key ([] : Table α) = none := rfl

@[simp] theorem get?_put_self (key : String) (value : α) (t : Table α) :
    get? key (put key value t) = some value := by
  induction t with
  | nil => simp [put, get?]
  | cons head rest ih =>
    obtain ⟨k, v⟩ := head
    by_cases h : k = key <;> simp [put, get?, h, ih]

theorem get?_put_of_ne {key other : String} (h : other ≠ key) (value : α) (t : Table α) :
    get? other (put key value t) = get? other t := by
  induction t with
  | nil => simp [put, get?, h.symm]
  | cons head rest ih =>
    obtain ⟨k, v⟩ := head
    by_cases hk : k = key
    · subst hk
      simp [put, get?, h.symm]
    · by_cases ho : k = other
      · subst ho
        simp [put, get?, h]
      · simp [put, get?, hk, ho, ih]

@[simp] theorem get?_erase_self (key : String) (t : Table α) : get? key (erase key t) = none := by
  induction t with
  | nil => rfl
  | cons head rest ih =>
    obtain ⟨k, v⟩ := head
    by_cases h : k = key
    · simpa [erase, h] using ih
    · simpa [erase, get?, h] using ih

theorem get?_erase_of_ne {key other : String} (h : other ≠ key) (t : Table α) :
    get? other (erase key t) = get? other t := by
  induction t with
  | nil => rfl
  | cons head rest ih =>
    obtain ⟨k, v⟩ := head
    by_cases hk : k = key
    · subst hk
      simpa [erase, get?, h.symm] using ih
    · by_cases ho : k = other
      · subst ho
        simp [erase, get?, hk]
      · simpa [erase, get?, hk, ho] using ih

theorem mem_keys_put {key other : String} {value : α} {t : Table α} :
    other ∈ keys (put key value t) ↔ other = key ∨ other ∈ keys t := by
  induction t with
  | nil => simp [put, keys]
  | cons head rest ih =>
    obtain ⟨k, v⟩ := head
    by_cases h : k = key
    · simp [put, keys, h]
    · simp only [put, h, if_false, keys, List.map_cons, List.mem_cons] at ih ⊢
      rw [ih]
      exact or_left_comm

theorem mem_put {key : String} {value : α} {t : Table α} {entry : String × α}
    (h : entry ∈ put key value t) : entry = (key, value) ∨ entry ∈ t := by
  induction t with
  | nil => exact Or.inl (List.mem_singleton.1 h)
  | cons head rest ih =>
    obtain ⟨k, v⟩ := head
    by_cases hk : k = key
    · subst hk
      rw [put, if_pos rfl] at h
      exact (List.mem_cons.1 h).imp_right (List.mem_cons_of_mem _)
    · rw [put, if_neg hk] at h
      rcases List.mem_cons.1 h with rfl | later
      · exact Or.inr List.mem_cons_self
      · exact (ih later).imp_right (List.mem_cons_of_mem _)

/-- Writing a key never makes it occur twice. -/
theorem nodup_keys_put {t : Table α} (h : (keys t).Nodup) (key : String) (value : α) :
    (keys (put key value t)).Nodup := by
  induction t with
  | nil => simp [put, keys]
  | cons head rest ih =>
    obtain ⟨k, v⟩ := head
    rw [keys, List.map_cons, List.nodup_cons] at h
    by_cases hk : k = key
    · subst hk
      simpa [put, keys] using h
    · rw [put, if_neg hk, keys, List.map_cons, List.nodup_cons]
      refine ⟨fun mem => ?_, ih h.2⟩
      rcases mem_keys_put.1 mem with same | old
      · exact hk same
      · exact h.1 old

theorem nodup_keys_erase {t : Table α} (h : (keys t).Nodup) (key : String) :
    (keys (erase key t)).Nodup :=
  h.sublist (List.filter_sublist.map Prod.fst)

theorem get?_of_not_mem_keys {key : String} {t : Table α} (h : key ∉ keys t) :
    get? key t = none := by
  induction t with
  | nil => rfl
  | cons head rest ih =>
    obtain ⟨k, v⟩ := head
    rw [keys, List.map_cons, List.mem_cons, not_or] at h
    rw [get?, if_neg (Ne.symm h.1)]
    exact ih h.2

theorem mem_of_get? {key : String} {value : α} {t : Table α} (h : get? key t = some value) :
    (key, value) ∈ t := by
  induction t with
  | nil => cases h
  | cons head rest ih =>
    obtain ⟨k, v⟩ := head
    rw [get?] at h
    split at h
    · cases h
      simp [*]
    · exact List.mem_cons_of_mem _ (ih h)

/-- Where no key occurs twice, every entry is found under its key. -/
theorem get?_of_mem {key : String} {value : α} {t : Table α} (h : (keys t).Nodup)
    (mem : (key, value) ∈ t) : get? key t = some value := by
  induction t with
  | nil => cases mem
  | cons head rest ih =>
    obtain ⟨k, v⟩ := head
    rw [keys, List.map_cons, List.nodup_cons] at h
    rcases List.mem_cons.1 mem with same | later
    · cases same
      simp [get?]
    · have other : k ≠ key := by
        intro same
        exact h.1 (same ▸ List.mem_map.2 ⟨_, later, rfl⟩)
      rw [get?, if_neg other]
      exact ih h.2 later

/-- A new key goes to the end. -/
theorem put_of_not_mem_keys {key : String} {t : Table α} (h : key ∉ keys t) (value : α) :
    put key value t = t ++ [(key, value)] := by
  induction t with
  | nil => rfl
  | cons head rest ih =>
    obtain ⟨k, v⟩ := head
    rw [keys, List.map_cons, List.mem_cons, not_or] at h
    rw [put, if_neg (Ne.symm h.1), ih h.2, List.cons_append]

/-- Writing what is there already changes nothing. -/
theorem put_eq_self {key : String} {value : α} {t : Table α} (h : get? key t = some value) :
    put key value t = t := by
  induction t with
  | nil => cases h
  | cons head rest ih =>
    obtain ⟨k, v⟩ := head
    rw [get?] at h
    rw [put]
    split at h
    · rename_i same
      cases h
      rw [if_pos same]
    · rename_i other
      rw [if_neg other, ih h]

end Table

end PhasedInstall
