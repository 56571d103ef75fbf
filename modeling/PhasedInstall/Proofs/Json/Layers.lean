import PhasedInstall.Proofs.Json.Covering
import PhasedInstall.Proofs.Json.Within

/-!
# An overlay along paths of keys

The equations of an overlay look one key deep. Followed along a path of keys they give one law
(`follow?_overlay`): where the path leads to something desired, the overlay is that, laid over what
the path led to before. All the rest is about where a path ends that does not lead to anything. It
ends at an object that lacks the next key (`Lacks`), and then the desired value has nothing to say
and the live one stays, or it ends at a value that has no keys, and then nothing is left there.

`Layers` puts this together as what an overlay has and what it has not.
-/

set_option autoImplicit false

namespace PhasedInstall.Json

variable {live desired v w : Json} {path : List String}

theorem follow?_ofKeys_cons (key : String) (rest : List String) (v : Json) :
    v.follow? (.ofKeys (key :: rest)) = (v.get? key).bind (follow? (.ofKeys rest)) := by
  cases v <;> rfl

theorem follow?_ofKeys_append (front back : List String) (v : Json) :
    v.follow? (.ofKeys (front ++ back)) =
      (v.follow? (.ofKeys front)).bind (follow? (.ofKeys back)) := by
  rw [Path.ofKeys, List.map_append]
  exact follow?_append _ _ v

/-- Below a value that is missing there is what is below null. -/
theorem follow?_getD_null (path : Path) (found : Option Json) :
    ((found.getD .null).follow? path).getD .null = (found.bind (follow? path)).getD .null := by
  cases found with
  | some v => rfl
  | none =>
    cases path with
    | nil => rfl
    | cons step _ => cases step <;> rfl

theorem keysDistinct_of_follow? (h : v.keysDistinct) (found : v.follow? (.ofKeys path) = some w) :
    w.keysDistinct := by
  induction path generalizing v with
  | nil =>
    cases found
    exact h
  | cons key rest ih =>
    rw [follow?_ofKeys_cons] at found
    obtain ⟨child, below, found⟩ := Option.bind_eq_some_iff.1 found
    exact ih (keysDistinct_of_get? h below) found

/-! ## Where a path ends -/

/-- The path leads to an object and asks it for a key that it does not have. -/
def Lacks (v : Json) (path : List String) : Prop :=
  ∃ front key rest members, path = front ++ key :: rest ∧
    v.follow? (.ofKeys front) = some (.obj members) ∧ Table.get? key members = none

/-- The path leads to a value that is no object and asks it for a key. -/
def Blocks (v : Json) (path : List String) : Prop :=
  ∃ front key rest w, path = front ++ key :: rest ∧ v.follow? (.ofKeys front) = some w ∧
    w.isObject = false

/-- A path that leads nowhere ends in one of two ways. -/
theorem lacks_or_blocks (missing : v.follow? (.ofKeys path) = none) :
    v.Lacks path ∨ v.Blocks path := by
  induction path generalizing v with
  | nil => cases missing
  | cons key rest ih =>
    cases v with
    | obj members =>
      cases found : Table.get? key members with
      | none => exact Or.inl ⟨[], key, rest, members, rfl, rfl, found⟩
      | some child =>
        have below : (obj members).get? key = some child := found
        rw [follow?_ofKeys_cons, below] at missing
        refine (ih missing).imp ?_ ?_
        · rintro ⟨front, next, rest', others, rfl, reached, lacking⟩
          refine ⟨key :: front, next, rest', others, rfl, ?_, lacking⟩
          rw [follow?_ofKeys_cons, below]
          exact reached
        · rintro ⟨front, next, rest', other, rfl, reached, whole⟩
          refine ⟨key :: front, next, rest', other, rfl, ?_, whole⟩
          rw [follow?_ofKeys_cons, below]
          exact reached
    | _ => exact Or.inr ⟨[], key, rest, _, rfl, rfl, rfl⟩

theorem Blocks.follow? (h : v.Blocks path) : v.follow? (.ofKeys path) = none := by
  obtain ⟨front, key, rest, w, rfl, reached, whole⟩ := h
  rw [follow?_ofKeys_append, reached, Option.bind_some, follow?_ofKeys_cons]
  cases w with
  | obj _ => cases whole
  | _ => rfl

/-! ## The overlay -/

/-- **An overlay along a path.** What is desired there lies over what was there. -/
theorem follow?_overlay (distinct : desired.keysDistinct)
    (found : desired.follow? (.ofKeys path) = some v) (live : Json) :
    (live.overlay desired).follow? (.ofKeys path) =
      some (((live.follow? (.ofKeys path)).getD .null).overlay v) := by
  induction path generalizing live desired with
  | nil =>
    cases found
    rfl
  | cons key rest ih =>
    rw [follow?_ofKeys_cons] at found
    obtain ⟨child, here, below⟩ := Option.bind_eq_some_iff.1 found
    have inner := keysDistinct_of_get? distinct here
    cases desired with
    | obj members =>
      have here : Table.get? key members = some child := here
      rw [follow?_ofKeys_cons, get?_overlay (keysDistinct_obj_iff.1 distinct).1, here,
        follow?_ofKeys_cons, ← follow?_getD_null]
      exact ih inner below _
    | _ => cases here

/-- What the desired value has nothing to say about stays. -/
theorem follow?_overlay_of_lacks (distinct : desired.keysDistinct) (lacks : desired.Lacks path)
    (live : Json) :
    (live.overlay desired).follow? (.ofKeys path) = live.follow? (.ofKeys path) := by
  obtain ⟨front, key, rest, members, rfl, reached, lacking⟩ := lacks
  have nodup := (keysDistinct_obj_iff.1 (keysDistinct_of_follow? distinct reached)).1
  rw [follow?_ofKeys_append, follow?_overlay distinct reached, follow?_ofKeys_append,
    Option.bind_some, follow?_ofKeys_cons, get?_overlay nodup, lacking]
  cases live.follow? (.ofKeys front) with
  | none => rfl
  | some v => exact (follow?_ofKeys_cons key rest v).symm

/-- What is no object has nothing below it, also where it has been laid over something. -/
theorem follow?_overlay_of_blocks (distinct : desired.keysDistinct) (blocks : desired.Blocks path)
    (live : Json) : (live.overlay desired).follow? (.ofKeys path) = none := by
  obtain ⟨front, key, rest, w, rfl, reached, whole⟩ := blocks
  refine Blocks.follow? ⟨front, key, rest, w, rfl, ?_, whole⟩
  rw [follow?_overlay distinct reached, overlay_of_not_object whole]

/-- One value lies over another, and this is how it looks. -/
structure Layers (live desired merged : Json) : Prop where
  /-- What is desired and is no object stands there. -/
  stands : ∀ path v, desired.follow? (.ofKeys path) = some v → v.isObject = false →
    merged.follow? (.ofKeys path) = some v
  /-- What a desired object does not mention is as it was. -/
  stays : ∀ path, desired.Lacks path →
    merged.follow? (.ofKeys path) = live.follow? (.ofKeys path)
  /-- A desired object that meets no other one stands there as a whole. -/
  arrives : ∀ path members, desired.follow? (.ofKeys path) = some (.obj members) →
    (∀ others, live.follow? (.ofKeys path) ≠ some (.obj others)) →
    merged.follow? (.ofKeys path) = some (.obj members)
  /-- Nothing is there that was in neither. -/
  only : ∀ path, (merged.follow? (.ofKeys path)).isSome →
    (live.follow? (.ofKeys path)).isSome ∨ (desired.follow? (.ofKeys path)).isSome

theorem overlay_obj_of_not_object (other : ∀ members, live ≠ .obj members) (desired : Json) :
    live.overlay desired = desired := by
  cases live with
  | obj members => exact absurd rfl (other members)
  | _ => cases desired <;> rfl

theorem layers_overlay (distinct : desired.keysDistinct) (live : Json) :
    Layers live desired (live.overlay desired) where
  stands path v found whole := by
    rw [follow?_overlay distinct found, overlay_of_not_object whole]
  stays path lacks := follow?_overlay_of_lacks distinct lacks live
  arrives path members found other := by
    rw [follow?_overlay distinct found, overlay_obj_of_not_object]
    intro others same
    cases reached : live.follow? (.ofKeys path) with
    | none =>
      rw [reached] at same
      cases same
    | some v =>
      rw [reached] at same
      exact other others (reached.trans (congrArg some same))
  only path there := by
    cases found : desired.follow? (.ofKeys path) with
    | some v => exact Or.inr rfl
    | none =>
      rcases lacks_or_blocks found with lacks | blocks
      · rw [follow?_overlay_of_lacks distinct lacks] at there
        exact Or.inl there
      · rw [follow?_overlay_of_blocks distinct blocks] at there
        cases there

/-- **An overlay is the desired value on top of the live one.** Laying the same value over it again
changes nothing, a value lies over itself as it is, and over null too. -/
theorem overlay_layers_and_settles (desired : Keyed) (live : Json) :
    Layers live desired.value (live.overlay desired.value) ∧
      (live.overlay desired.value).overlay desired.value = live.overlay desired.value ∧
      desired.value.overlay desired.value = desired.value ∧
      null.overlay desired.value = desired.value :=
  ⟨layers_overlay desired.distinct live, covers_overlay desired.distinct live,
    covers_self desired.distinct, overlay_null desired.value⟩

/-- A service with an address that a server has given it. -/
def liveService : Json :=
  .obj [("metadata", .obj [("name", .str "hooks"), ("resourceVersion", .str "42")]),
    ("spec", .obj [("clusterIP", .str "10.0.0.1"), ("ports", .arr [.obj [("port", .int 80)]]),
      ("selector", .null)])]

/-- What is wanted of it: another port, and a selector. -/
def desiredService : Keyed where
  value := .obj [("metadata", .obj [("name", .str "hooks")]),
    ("spec", .obj [("ports", .arr [.obj [("port", .int 8080)]]),
      ("selector", .obj [("app", .str "hooks")])])]
  distinct := rfl

/-- Name and ports stand, the address stays, and the selector arrives. -/
theorem overlay_layers_and_settles_service :
    Layers liveService desiredService.value (liveService.overlay desiredService.value) ∧
      (liveService.overlay desiredService.value).overlay desiredService.value =
        liveService.overlay desiredService.value ∧
      liveService.overlay desiredService.value =
        .obj [("metadata", .obj [("name", .str "hooks"), ("resourceVersion", .str "42")]),
          ("spec", .obj [("clusterIP", .str "10.0.0.1"),
            ("ports", .arr [.obj [("port", .int 8080)]]),
            ("selector", .obj [("app", .str "hooks")])])] := by
  obtain ⟨layers, again, -, -⟩ := overlay_layers_and_settles desiredService liveService
  exact ⟨layers, again, rfl⟩

end PhasedInstall.Json
