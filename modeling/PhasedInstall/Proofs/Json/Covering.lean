import PhasedInstall.Proofs.Json.Distinct

/-!
# Values that hold all that is desired

A live value covers a desired one if laying the desired one over it changes nothing. That is what
the second application of a document meets: an overlay covers what was laid over
(`covers_overlay`), whatever was there before, and a covering value agrees with its own overlay, so
nothing is written.

A member that nothing desires does not matter (`covers_obj`). So a value that was marked after it
was written still covers what it was written from.
-/

set_option autoImplicit false

namespace PhasedInstall.Json

/-- Laying `desired` over `live` changes nothing. -/
def Covers (live desired : Json) : Prop := live.overlay desired = live

variable {live desired : Json} {xs ds : Members}

theorem overlayMembers_eq_self
    (h : ∀ entry ∈ ds, ∃ w, Table.get? entry.1 xs = some w ∧ w.Covers entry.2) :
    overlayMembers xs ds = xs := by
  induction ds with
  | nil => rfl
  | cons head rest ih =>
    obtain ⟨key, value⟩ := head
    rw [List.forall_mem_cons] at h
    obtain ⟨⟨w, found, covers⟩, others⟩ := h
    have same : overlay ((Table.get? key xs).getD .null) value = w := by
      rw [found]
      exact covers
    rw [overlayMembers, same, Table.put_eq_self found]
    exact ih others

theorem covers_obj (h : ∀ entry ∈ ds, ∃ w, Table.get? entry.1 xs = some w ∧ w.Covers entry.2) :
    (obj xs).Covers (obj ds) := by
  rw [Covers, overlay, overlayMembers_eq_self h]

/-- **An overlay covers what was laid over**, whatever it was laid over. -/
theorem covers_overlay (distinct : desired.keysDistinct) (live : Json) :
    (live.overlay desired).Covers desired := by
  induction desired using byMembers generalizing live with
  | obj ds ih =>
    obtain ⟨nodup, each⟩ := keysDistinct_obj_iff.1 distinct
    have entries : ∀ entry ∈ ds, ∃ w,
        Table.get? entry.1 (live.overlay (.obj ds)).membersOrNone = some w ∧
          w.Covers entry.2 := by
      intro entry mem
      -- No key is desired twice, so what was laid under it is what is there in the end.
      have laid := get?_overlay nodup live entry.1
      rw [Table.get?_of_mem nodup mem, get?_eq] at laid
      exact ⟨_, laid, ih entry mem (each entry mem) _⟩
    cases live with
    | obj xs => exact covers_obj entries
    | _ => exact covers_obj entries
  | _ => rw [overlay_of_not_object rfl, Covers, overlay_of_not_object rfl]

theorem covers_self (distinct : desired.keysDistinct) : desired.Covers desired := by
  have laid := covers_overlay distinct .null
  rwa [overlay_null] at laid

/-- A member that is written over a value that it covers does no harm, and neither does one that was
not there. -/
theorem covers_put {key : String} {w : Json} (distinct : (obj xs).keysDistinct)
    (h : ∀ v, Table.get? key xs = some v → w.Covers v) :
    (obj (Table.put key w xs)).Covers (obj xs) := by
  obtain ⟨nodup, each⟩ := keysDistinct_obj_iff.1 distinct
  refine covers_obj fun entry mem => ?_
  have found := Table.get?_of_mem nodup mem
  by_cases same : entry.1 = key
  · rw [same] at found ⊢
    exact ⟨w, Table.get?_put_self _ _ _, h _ found⟩
  · rw [Table.get?_put_of_ne same]
    exact ⟨entry.2, found, covers_self (each entry mem)⟩

/-! ## Agreement -/

theorem agreesItems_self {items : List Json} (h : ∀ item ∈ items, item.agrees item) :
    agreesItems items items := by
  induction items with
  | nil => rfl
  | cons head rest ih =>
    rw [List.forall_mem_cons] at h
    rw [agreesItems, h.1, ih h.2]
    rfl

theorem agreesMembers_of {other : Members}
    (h : ∀ entry ∈ xs, ∃ w, Table.get? entry.1 other = some w ∧ entry.2.agrees w) :
    agreesMembers xs other := by
  induction xs with
  | nil => rfl
  | cons head rest ih =>
    rw [List.forall_mem_cons] at h
    obtain ⟨⟨w, found, agree⟩, others⟩ := h
    rw [agreesMembers, found, ih others]
    simpa using agree

/-- A walk over a value and itself meets no difference. -/
theorem agrees_self {v : Json} (distinct : v.keysDistinct) : v.agrees v := by
  induction v using byMembers with
  | null => rfl
  | bool b => simp [agrees]
  | num n =>
    rw [agrees]
    cases n with
    | int n => simp [Number.same]
    | float x => exact x.sameNumber_refl
  | str s => simp [agrees]
  | arr items ih =>
    rw [keysDistinct_arr_iff] at distinct
    rw [agrees]
    exact agreesItems_self fun item mem => ih item mem (distinct item mem)
  | obj members ih =>
    obtain ⟨nodup, each⟩ := keysDistinct_obj_iff.1 distinct
    rw [agrees, beq_self_eq_true, Bool.true_and]
    refine agreesMembers_of fun entry mem => ?_
    exact ⟨entry.2, Table.get?_of_mem nodup mem, ih entry mem (each entry mem)⟩

theorem agreesMembers_get? {other : Members} (h : agreesMembers xs other) {key : String} {v : Json}
    (found : Table.get? key xs = some v) : ∃ w, Table.get? key other = some w ∧ v.agrees w := by
  induction xs with
  | nil => cases found
  | cons head rest ih =>
    obtain ⟨k, u⟩ := head
    rw [agreesMembers, Bool.and_eq_true] at h
    obtain ⟨here, there⟩ := h
    rw [Table.get?] at found
    by_cases same : k = key
    · rw [if_pos same] at found
      cases found
      subst same
      cases same : Table.get? k other with
      | none =>
        rw [same] at here
        cases here
      | some w =>
        rw [same] at here
        exact ⟨w, rfl, here⟩
    · rw [if_neg same] at found
      exact ih there found

/-- Where two trees agree, what is under a path of keys in the one is there in the other. -/
theorem agrees_at? {path : Pointer} (names : ∀ token ∈ path, Pointer.index? token = none)
    {a b v : Json} (h : a.agrees b) (found : a.at? path = some v) : ∃ w, b.at? path = some w := by
  induction path generalizing a b with
  | nil => exact ⟨b, rfl⟩
  | cons token rest ih =>
    obtain ⟨name, names⟩ := List.forall_mem_cons.1 names
    rw [at?, child?_of_name name] at found
    obtain ⟨u, here, below⟩ := Option.bind_eq_some_iff.1 found
    cases a with
    | obj xs =>
      change Table.get? token xs = some u at here
      cases b with
      | obj ys =>
        rw [agrees, Bool.and_eq_true] at h
        obtain ⟨w, there, agree⟩ := agreesMembers_get? h.2 here
        obtain ⟨result, reached⟩ := ih names agree below
        refine ⟨result, ?_⟩
        rw [at?, child?, there]
        exact reached
      | arr ys =>
        cases xs with
        | nil => cases here
        | cons x rest => cases ys <;> cases h
      | _ => cases h
    | _ => cases here

theorem Covers.agrees (h : live.Covers desired) (distinct : live.keysDistinct) :
    live.agrees (live.overlay desired) := by
  rw [h]
  exact agrees_self distinct

end PhasedInstall.Json
