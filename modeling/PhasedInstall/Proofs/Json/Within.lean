import Mathlib.Data.List.Forall2
import PhasedInstall.Proofs.Json.Fields

/-!
# Where a value may change

A path leads through members and items to a value inside another. A place names paths, with one
step that stands for every item of an array. A region is a set of places that may be written,
together with the paths of keys on the way to them where an object is made of whatever there is.
`Within R v v'` says that `v'` is `v` but for what the region allows: what is neither on the way to
a written place nor inside one is the same, and arrays on the way keep their length. What can be
lost besides is the content of an array where an object was needed, and nothing else, since any
other value that is no object has no content.

Edits are put together by `Within.trans`. The edits themselves are writing at a path of keys
(`Within.setPath`), changing what a pointer of names reaches (`Within.modifyAt`), erasing a member
and changing the items of an array.
-/

set_option autoImplicit false

namespace PhasedInstall.Json

/-- A step into a value: to the member under a key, or to an item of an array. -/
inductive Step where
  | key (name : String)
  | item (i : Nat)

/-- The way to a value inside another, outermost step first. -/
abbrev Path := List Step

/-- The way through members only. -/
def Path.ofKeys (keys : List String) : Path := keys.map .key

def step? : Step → Json → Option Json
  | .key name, .obj members => Table.get? name members
  | .item i, .arr items => items[i]?
  | _, _ => none

/-- The value that a path leads to. -/
def follow? : Path → Json → Option Json
  | [], v => some v
  | step :: rest, v => (v.step? step).bind (follow? rest)

/-- A pointer of names is followed through members. -/
theorem at?_eq_follow? {path : Pointer} (names : ∀ token ∈ path, Pointer.index? token = none)
    (v : Json) : v.at? path = v.follow? (.ofKeys path) := by
  induction path generalizing v with
  | nil => rfl
  | cons token rest ih =>
    obtain ⟨name, names⟩ := List.forall_mem_cons.1 names
    have step : v.child? token = v.step? (.key token) := by
      rw [child?_of_name name]
      cases v <;> rfl
    rw [at?, step, funext (ih names)]
    rfl

/-- A step on the way to a place: to a member, or to any item of an array. -/
inductive Segment where
  | member (key : String)
  | item

def Segment.Admits : Segment → Step → Prop
  | member key, .key name => name = key
  | item, .item _ => True
  | _, _ => False

instance : (segment : Segment) → (step : Step) → Decidable (segment.Admits step)
  | .member key, .key name => inferInstanceAs (Decidable (name = key))
  | .item, .item _ => isTrue trivial
  | .member _, .item _ => isFalse id
  | .item, .key _ => isFalse id

/-- Positions in a value. -/
abbrev Place := List Segment

namespace Place

/-- A path leads to the place, or to something on the way there, or to something inside. -/
def Meets : Place → Path → Prop
  | [], _ => True
  | _ :: _, [] => True
  | segment :: place, step :: path => segment.Admits step ∧ Meets place path

/-- A path leads to the place or to something inside. -/
def Covers : Place → Path → Prop
  | [], _ => True
  | _ :: _, [] => False
  | segment :: place, step :: path => segment.Admits step ∧ Covers place path

instance decidableMeets : (place : Place) → (path : Path) → Decidable (place.Meets path)
  | [], _ => isTrue trivial
  | _ :: _, [] => isTrue trivial
  | segment :: place, step :: path =>
    have := decidableMeets place path
    inferInstanceAs (Decidable (segment.Admits step ∧ Meets place path))

instance decidableCovers : (place : Place) → (path : Path) → Decidable (place.Covers path)
  | [], _ => isTrue trivial
  | _ :: _, [] => isFalse id
  | segment :: place, step :: path =>
    have := decidableCovers place path
    inferInstanceAs (Decidable (segment.Admits step ∧ Covers place path))

/-- The place at the end of a path of keys. -/
def ofKeys (path : List String) : Place := path.map .member

/-- A place inside every item of the array at the end of a path of keys. -/
def inItems (path : List String) (inner : Place) : Place := ofKeys path ++ .item :: inner

theorem meets_nil (place : Place) : place.Meets [] := by
  cases place <;> trivial

end Place

/-- The length of the array that a path leads to. -/
def lengthAt? (path : Path) (v : Json) : Option Nat :=
  ((v.follow? path).bind items?).map List.length

theorem lengthAt?_eq_some {path : Path} {v : Json} {n : Nat} :
    v.lengthAt? path = some n ↔ ∃ items, v.follow? path = some (.arr items) ∧ items.length = n := by
  rw [lengthAt?, Option.map_eq_some_iff]
  refine exists_congr fun items => and_congr_left fun _ => ?_
  cases v.follow? path with
  | none => simp
  | some w => cases w <;> simp [items?]

/-- A longer path is followed in two parts. -/
theorem follow?_append (front back : Path) (v : Json) :
    v.follow? (front ++ back) = (v.follow? front).bind (follow? back) := by
  induction front generalizing v with
  | nil => rfl
  | cons step rest ih =>
    rw [List.cons_append, follow?, follow?, Option.bind_assoc]
    exact congrArg _ (funext ih)

/-- Arrays are found below a missing member as they are below null, that is, nowhere. -/
theorem lengthAt?_cons (key : String) (path : Path) (members : Members) :
    lengthAt? (.key key :: path) (.obj members) =
      lengthAt? path ((Table.get? key members).getD .null) := by
  rw [lengthAt?, follow?, step?]
  cases Table.get? key members with
  | none =>
    cases path with
    | nil => rfl
    | cons step _ => cases step <;> rfl
  | some w => rfl

/-- Where a value may change. -/
structure Region where
  /-- The places that may be written. -/
  writes : Place → Prop
  /-- Where there has to be an object, whatever there is. -/
  opens : List String → Prop
  apart : ∀ {keys place}, opens keys → writes place → ¬ place.Covers (.ofKeys keys)

namespace Region

variable (R : Region)

/-- The path is neither on the way to a written place nor at one nor inside one. -/
def Misses (path : Path) : Prop := ∀ place, R.writes place → ¬ place.Meets path

/-- The path is neither at a written place nor inside one. -/
def Uncovered (path : Path) : Prop := ∀ place, R.writes place → ¬ place.Covers path

/-- The path leads to, or into, an array where there has to be an object. -/
def Loses (v : Json) (path : Path) : Prop :=
  ∃ outer, R.opens outer ∧ Path.ofKeys outer <+: path ∧ (v.lengthAt? (.ofKeys outer)).isSome

/-- The region as it is seen from one step further in. Nothing below an item is opened. -/
def under (segment : Segment) : Region where
  writes place := R.writes (segment :: place)
  opens keys :=
    match segment with
    | .member key => R.opens (key :: keys)
    | .item => False
  apart {keys place} opened written covers := by
    cases segment with
    | member key => exact R.apart opened written ⟨rfl, covers⟩
    | item => exact opened

/-- The region as it is seen from the end of a path of keys. -/
def along : Region → List String → Region
  | R, [] => R
  | R, key :: rest => (R.under (.member key)).along rest

/-- Everything on the way along a path of keys is opened. -/
def OpensAlong : Region → List String → Prop
  | _, [] => True
  | R, key :: rest => R.opens [] ∧ (R.under (.member key)).OpensAlong rest

variable {R}

theorem Misses.under {segment : Segment} {step : Step} {path : Path}
    (h : R.Misses (step :: path)) (admits : segment.Admits step) : (R.under segment).Misses path :=
  fun place written meets => h (segment :: place) written ⟨admits, meets⟩

theorem Uncovered.under {segment : Segment} {step : Step} {path : Path}
    (h : R.Uncovered (step :: path)) (admits : segment.Admits step) :
    (R.under segment).Uncovered path :=
  fun place written covers => h (segment :: place) written ⟨admits, covers⟩

theorem not_writes_of_misses_nil (h : R.Misses []) (place : Place) : ¬ R.writes place :=
  fun written => h place written place.meets_nil

end Region

/-- One value is the other but for what a region allows. -/
structure Within (R : Region) (v v' : Json) : Prop where
  same : ∀ path, R.Misses path →
    v'.follow? path = v.follow? path ∨ v'.follow? path = none ∧ R.Loses v path
  length : ∀ path, R.Uncovered path →
    v'.lengthAt? path = v.lengthAt? path ∨ v'.lengthAt? path = none ∧ R.Loses v path

namespace Within

variable {R : Region} {v v' v'' w w' : Json} {members : Members} {key : String}

theorem refl (R : Region) (v : Json) : Within R v v :=
  ⟨fun _ _ => Or.inl rfl, fun _ _ => Or.inl rfl⟩

/-- What is an array where one is opened was an array before. -/
theorem loses (h : Within R v v') {path : Path} (lost : R.Loses v' path) : R.Loses v path := by
  obtain ⟨outer, opened, inside, array⟩ := lost
  rcases h.length (.ofKeys outer) fun _ written => R.apart opened written with same | ⟨none, -⟩
  · exact ⟨outer, opened, inside, same ▸ array⟩
  · rw [none] at array
    cases array

theorem trans (first : Within R v v') (second : Within R v' v'') : Within R v v'' where
  same path misses := by
    rcases second.same path misses with same | ⟨none, lost⟩
    · rw [same]
      exact first.same path misses
    · exact Or.inr ⟨none, first.loses lost⟩
  length path uncovered := by
    rcases second.length path uncovered with same | ⟨none, lost⟩
    · rw [same]
      exact first.length path uncovered
    · exact Or.inr ⟨none, first.loses lost⟩

/-- A place that is written as a whole may become anything. -/
theorem of_writes_nil (h : R.writes []) (v v' : Json) : Within R v v' where
  same _ misses := absurd trivial (misses [] h)
  length _ uncovered := absurd trivial (uncovered [] h)

/-- **What a path of keys leads to is never lost**: an array has no keys inside. -/
theorem follow?_ofKeys (h : Within R v v') {keys : List String} (misses : R.Misses (.ofKeys keys))
    (closed : ¬ R.opens keys) : v'.follow? (.ofKeys keys) = v.follow? (.ofKeys keys) := by
  rcases h.same _ misses with same | ⟨none, outer, opened, ⟨rest, split⟩, array⟩
  · exact same
  · cases rest with
    | nil =>
      rw [List.append_nil] at split
      have same : outer = keys := List.map_injective_iff.2 (fun _ _ => Step.key.inj) split
      exact absurd (same ▸ opened) closed
    | cons step rest =>
      obtain ⟨n, array⟩ := Option.isSome_iff_exists.1 array
      obtain ⟨items, found, -⟩ := lengthAt?_eq_some.1 array
      have inner : step ∈ Path.ofKeys keys := split ▸ by simp
      obtain ⟨name, -, rfl⟩ := List.mem_map.1 inner
      rw [none, ← split, follow?_append, found]
      rfl

/-! ## Members -/

/-- Changing what is under a key. A member that is missing counts as null, and one that is new has
to be written. -/
theorem put (inner : Within (R.under (.member key)) ((Table.get? key members).getD .null) w')
    (written : Table.get? key members = none → ∃ place, R.writes (.member key :: place)) :
    Within R (.obj members) (.obj (Table.put key w' members)) := by
  have loses : ∀ path, (R.under (.member key)).Loses ((Table.get? key members).getD .null) path →
      R.Loses (.obj members) (.key key :: path) := by
    rintro path ⟨outer, opened, inside, array⟩
    refine ⟨key :: outer, opened, List.cons_prefix_cons.2 ⟨rfl, inside⟩, ?_⟩
    rwa [Path.ofKeys, List.map_cons, lengthAt?_cons]
  constructor
  · intro path misses
    cases path with
    | nil =>
      -- Nothing may be written at all, so what is put there is what was there.
      have nothing := Region.not_writes_of_misses_nil misses
      cases found : Table.get? key members with
      | none =>
        obtain ⟨place, written⟩ := written found
        exact absurd written (nothing _)
      | some w =>
        rw [found, Option.getD_some] at inner
        rcases inner.same [] fun place written _ => nothing _ written with same | ⟨none, -⟩
        · cases same
          rw [Table.put_eq_self found]
          exact Or.inl rfl
        · cases none
    | cons step path =>
      cases step with
      | item _ => exact Or.inl rfl
      | key name =>
        by_cases here : name = key
        · subst here
          have old : follow? (.key name :: path) (.obj members) =
              follow? path ((Table.get? name members).getD .null) := by
            rw [follow?, step?]
            cases found : Table.get? name members with
            | some w => rfl
            | none =>
              cases path with
              | cons step _ => cases step <;> rfl
              | nil =>
                obtain ⟨place, written⟩ := written found
                exact absurd ⟨rfl, Place.meets_nil place⟩ (misses _ written)
          rw [follow?, step?, Table.get?_put_self, Option.bind_some, old]
          exact (inner.same path (misses.under rfl)).imp_right fun lost =>
            ⟨lost.1, loses _ lost.2⟩
        · rw [follow?, follow?, step?, step?, Table.get?_put_of_ne here]
          exact Or.inl rfl
  · intro path uncovered
    cases path with
    | nil => exact Or.inl rfl
    | cons step path =>
      cases step with
      | item _ => exact Or.inl rfl
      | key name =>
        rw [lengthAt?_cons, lengthAt?_cons]
        by_cases here : name = key
        · subst here
          rw [Table.get?_put_self, Option.getD_some]
          exact (inner.length path (uncovered.under rfl)).imp_right fun lost =>
            ⟨lost.1, loses _ lost.2⟩
        · rw [Table.get?_put_of_ne here]
          exact Or.inl rfl

/-- Writing a member. -/
theorem field (written : R.writes [.member key]) (members : Members) (value : Json) :
    Within R (.obj members) (.obj (Table.put key value members)) :=
  put (of_writes_nil written _ _) fun _ => ⟨[], written⟩

/-- Erasing a member. -/
theorem erase (written : R.writes [.member key]) :
    Within R (.obj members) (.obj (Table.erase key members)) := by
  constructor
  · intro path misses
    cases path with
    | nil => exact absurd (Place.meets_nil _) (misses _ written)
    | cons step path =>
      cases step with
      | item _ => exact Or.inl rfl
      | key name =>
        have other : name ≠ key := fun here => misses _ written ⟨here, trivial⟩
        rw [follow?, follow?, step?, step?, Table.get?_erase_of_ne other]
        exact Or.inl rfl
  · intro path uncovered
    cases path with
    | nil => exact Or.inl rfl
    | cons step path =>
      cases step with
      | item _ => exact Or.inl rfl
      | key name =>
        have other : name ≠ key := fun here => uncovered _ written ⟨here, trivial⟩
        rw [lengthAt?_cons, lengthAt?_cons, Table.get?_erase_of_ne other]
        exact Or.inl rfl

/-! ## Items -/

/-- Items that face each other. -/
theorem getElem?_of_forall₂ {P : Json → Json → Prop} {before after : List Json}
    (each : List.Forall₂ P before after) (i : Nat) :
    before[i]? = none ∧ after[i]? = none ∨
      ∃ w w', before[i]? = some w ∧ after[i]? = some w' ∧ P w w' := by
  induction each generalizing i with
  | nil => exact Or.inl ⟨rfl, rfl⟩
  | cons here _ ih =>
    cases i with
    | zero => exact Or.inr ⟨_, _, rfl, rfl, here⟩
    | succ i => exact ih i

/-- Changing items of an array, none of which is lost and none added. -/
theorem items {before after : List Json}
    (each : List.Forall₂ (Within (R.under .item)) before after) :
    Within R (.arr before) (.arr after) := by
  constructor
  · intro path misses
    cases path with
    | nil =>
      have nothing := Region.not_writes_of_misses_nil misses
      have same : before = after := by
        refine List.forall₂_eq_eq_eq ▸ each.imp fun w w' within => ?_
        rcases within.same [] fun place written _ => nothing _ written with same | ⟨none, -⟩
        · exact (Option.some.inj same).symm
        · cases none
      rw [same]
      exact Or.inl rfl
    | cons step path =>
      refine Or.inl ?_
      cases step with
      | key _ => rfl
      | item i =>
        rw [follow?, follow?, step?, step?]
        rcases getElem?_of_forall₂ each i with ⟨none, none'⟩ | ⟨w, w', found, found', within⟩
        · rw [none, none']
        · rw [found, found']
          rcases within.same path (misses.under trivial) with same | ⟨-, _, opened, -⟩
          · exact same
          · exact absurd opened id
  · intro path uncovered
    refine Or.inl ?_
    cases path with
    | nil =>
      change some after.length = some before.length
      rw [each.length_eq]
    | cons step path =>
      cases step with
      | key _ => rfl
      | item i =>
        rw [lengthAt?, lengthAt?, follow?, follow?, step?, step?]
        rcases getElem?_of_forall₂ each i with ⟨none, none'⟩ | ⟨w, w', found, found', within⟩
        · rw [none, none']
        · rw [found, found']
          rcases within.length path (uncovered.under trivial) with same | ⟨-, _, opened, -⟩
          · exact same
          · exact absurd opened id

/-! ## Paths -/

/-- Making an object of what is none. Only an array has content that is lost by that. -/
theorem of_not_object (whole : v.isObject = false) (written : ∃ place, R.writes place)
    (opened : ∀ items, v = .arr items → R.opens []) (h : Within R (.obj []) (.obj members)) :
    Within R v (.obj members) := by
  obtain ⟨place, written⟩ := written
  constructor
  · intro path misses
    cases path with
    | nil => exact absurd (Place.meets_nil place) (misses _ written)
    | cons step path =>
      have gone : (obj members).follow? (step :: path) = none := by
        rcases h.same _ misses with same | ⟨none, -⟩
        · rw [same]
          cases step <;> rfl
        · exact none
      cases v with
      | obj _ => cases whole
      | arr items => exact Or.inr ⟨gone, [], opened items rfl, List.nil_prefix, rfl⟩
      | _ =>
        refine Or.inl (gone.trans ?_)
        cases step <;> rfl
  · intro path uncovered
    have gone : (obj members).lengthAt? path = none := by
      rcases h.length _ uncovered with same | ⟨none, -⟩
      · cases path with
        | nil => rfl
        | cons step path =>
          rw [same]
          cases step <;> rfl
      · exact none
    cases v with
    | obj _ => cases whole
    | arr items => exact Or.inr ⟨gone, [], opened items rfl, List.nil_prefix, rfl⟩
    | _ =>
      refine Or.inl (gone.trans ?_)
      cases path with
      | nil => rfl
      | cons step path => cases step <;> rfl

/-- Writing at a path of keys. -/
theorem setPath {path : List String} (written : R.writes (Place.ofKeys path))
    (opened : R.OpensAlong path) (v value : Json) : Within R v (v.setPath path value) := by
  induction path generalizing R v with
  | nil => exact of_writes_nil written _ _
  | cons key rest ih =>
    have inner := ih (R := R.under (.member key)) written opened.2
    have member : ∀ members : Members,
        Within R (.obj members) ((obj members).setPath (key :: rest) value) := by
      intro members
      rw [setPath_cons]
      exact put (inner _) fun _ => ⟨_, written⟩
    cases v with
    | obj members => exact member members
    | _ => exact of_not_object rfl ⟨_, written⟩ (fun _ _ => opened.1) (member [])

/-- A path that begins in an object needs no other one there. -/
theorem setPath_obj {rest : List String} (written : R.writes (Place.ofKeys (key :: rest)))
    (opened : (R.under (.member key)).OpensAlong rest) (members : Members) (value : Json) :
    Within R (.obj members) ((obj members).setPath (key :: rest) value) := by
  rw [setPath_cons]
  exact put (setPath (R := R.under (.member key)) written opened _ _) fun _ => ⟨_, written⟩

/-- Changing what a pointer of names reaches. -/
theorem modifyAt {f : Json → Json} {path : Pointer}
    (names : ∀ token ∈ path, Pointer.index? token = none)
    (inner : ∀ w, v.at? path = some w → Within (R.along path) w (f w)) :
    Within R v (v.modifyAt f path) := by
  induction path generalizing R v with
  | nil => exact inner v rfl
  | cons token rest ih =>
    obtain ⟨name, names⟩ := List.forall_mem_cons.1 names
    rw [modifyAt_cons name]
    cases found : v.get? token with
    | none => exact refl R v
    | some child =>
      cases v with
      | obj members =>
        have found : Table.get? token members = some child := found
        refine put ?_ fun missing => ?_
        · rw [found]
          refine ih names fun w reached => inner w ?_
          rw [at?, child?, found]
          exact reached
        · rw [found] at missing
          cases missing
      | _ => cases found

end Within

end PhasedInstall.Json
