import Mathlib.Logic.Relation
import PhasedInstall.Proofs.Json.Covering
import PhasedInstall.Proofs.Manifest.Recreation
import PhasedInstall.Proofs.Manifest.Tracked

/-!
# Whether a created namespace is remembered

A namespace is marked when it is created, and the document that it is created from does not mention
the mark. Applying the document again lays it over the marked object. The mark survives that as
often as it may happen, and so a removal takes the namespace away, if the document gives an object
as its annotations or none at all.

Anything else in their place, a `null` for instance, replaces the annotations of the object with
the next application. Then the namespace is forgotten: it looks like one that was there before, and
a removal leaves it alone. `mark_survives_iff` says that nothing else can go wrong.
-/

set_option autoImplicit false

namespace PhasedInstall

open Cluster

namespace Document

variable {d live merged : Document} {st st' : Store}

/-- The object of the document is there, with the mark. -/
def Marked (d : Document) (st : Store) : Prop :=
  ∃ live, st.find d.identity = some live ∧ live.isMarked = true

def Reapplied (d : Document) (st st' : Store) : Prop :=
  ∃ result, d.apply.Exec Store.Conduct st result st'

/-- Removing the document takes its object away: if nothing is refused it succeeds, and whenever it
succeeds the object is gone. -/
def Removable (d : Document) (st : Store) : Prop :=
  ∀ policy result st' (es : Calls),
    ((Manifest.mk [d]).remove policy).Exec Store.Conduct.recorded (st, []) result (st', es) →
      (es.Granted → result = some (.ok ())) ∧
        (result = some (.ok ()) → st'.find d.identity = none)

/-- From when the document has created its object, the object is marked and can be removed, as
often as the document may be applied again. -/
def Remembered (d : Document) : Prop :=
  ∀ st₀ st₁ st₂, d.apply.Exec Store.Conduct st₀ (some (.ok .created)) st₁ →
    Relation.ReflTransGen d.Reapplied st₁ st₂ → d.Marked st₂ ∧ d.Removable st₂

/-! ## What applying can do -/

theorem apply_creates (absent : st.find d.identity = none) :
    d.apply.Exec Store.Conduct st (some (.ok .created)) (st.put d.forCreation) := by
  have looked : Store.Conduct (.find d) st (.ok none) st :=
    ⟨rfl, fun found same => by cases same; exact absent.symm, nofun⟩
  have written : Store.Conduct (.create d.forCreation) st (.ok ()) (st.put d.forCreation) :=
    Or.inl rfl
  exact .ask looked (.ask written (.done _ _))

theorem apply_updates (found : st.find d.identity = some live)
    (differs : live.value.agrees (live.value.overlay d.value) = false)
    (merge : ofJson (live.value.overlay d.value) = .ok merged) :
    d.apply.Exec Store.Conduct st (some (.ok .updated)) (st.put merged) := by
  have looked : Store.Conduct (.find d) st (.ok (some live)) st :=
    ⟨rfl, fun other same => by cases same; exact found.symm, nofun⟩
  have written : Store.Conduct (.update merged) st (.ok ()) (st.put merged) := Or.inl rfl
  refine .ask looked ?_
  show Program.Exec _ (ExceptT.run (if live.value.agrees (live.value.overlay d.value) then
      pure ApplyOutcome.unchanged
    else do
      Work.update (← Work.ofExcept (ofJson (live.value.overlay d.value)))
      return ApplyOutcome.updated)) _ _ _
  rw [if_neg (by simp [differs]), merge]
  exact .ask written (.done _ _)

theorem remove_skips {policy : DeletePolicy} (found : st.find d.identity = some live)
    (isNamespace : d.kind = "Namespace") (unmarked : live.isMarked = false) :
    ((Manifest.mk [d]).remove policy).Exec Store.Conduct st (some (.ok ())) st := by
  have looked : Store.Conduct (.find d) st (.ok (some live)) st :=
    ⟨rfl, fun other same => by cases same; exact found.symm, nofun⟩
  refine .ask looked ?_
  show Program.Exec _ (ExceptT.run ((if d.kind = "Namespace" && !live.isMarked then pure () else _ :
    Work Unit) >>= fun _ => Manifest.removeAll policy [])) _ _ _
  rw [if_pos (by simp [isNamespace, unmarked])]
  exact .done _ _

/-- What reports that it has created an object has done so. -/
theorem apply_created (d : Document) (st : Store) :
    d.apply.Ensures Store.Conduct st fun result st' =>
      result = some (.ok .created) → st' = st.put d.forCreation := by
  refine Work.ensures_find_bind.2 fun reply s step => ?_
  obtain ⟨rfl, -⟩ := step
  rcases reply with f | _ | live
  · exact nofun
  · intro reply st' step
    rcases reply with f | _
    · exact nofun
    · rcases step with done | ⟨-, f, refused⟩
      · exact fun _ => done
      · cases refused
  · dsimp only
    split
    · exact nofun
    · refine Work.ensures_ofExcept_bind (fun merged _ => ?_) fun _ => nofun
      intro reply st' step
      rcases reply with f | _ <;> exact nofun

/-! ## A marked object -/

theorem marked_of_created (isNamespace : d.kind = "Namespace") (st : Store) :
    d.Marked (st.put d.forCreation) := by
  refine ⟨d.forCreation, ?_, isMarked_forCreation isNamespace⟩
  rw [← identity_forCreation, Store.find_put_self]

/-- **Applying a regular document again keeps the mark.** -/
theorem apply_keepsMark (regular : d.Regular) : d.apply.Preserves Store.Conduct d.Marked := by
  rintro st ⟨live, found, marked⟩
  have kept : d.Marked st := ⟨live, found, marked⟩
  refine Work.ensures_find_bind.2 fun reply s step => ?_
  obtain ⟨rfl, current, -⟩ := step
  rcases reply with f | _ | there
  · exact kept
  · cases (current _ rfl).trans found
  · cases (current _ rfl).trans found
    dsimp only
    split
    · exact kept
    · refine Work.ensures_ofExcept_bind (fun merged merge => ?_) fun _ => kept
      have identity := identity_merged regular merge (s.own _ _ found)
      have written : d.Marked (s.put merged) := by
        refine ⟨merged, ?_, ?_⟩
        · rw [← identity, Store.find_put_self]
        · rw [isMarked_merged regular merge]
          exact marked
      refine (Store.update_ensures merged s).bind ?_ ?_ ?_
      · rintro _ st' (rfl | rfl)
        · exact written
        · exact kept
      · rintro f st' (rfl | rfl)
        · exact written
        · exact kept
      · rintro st' (rfl | rfl)
        · exact written
        · exact kept

theorem removable_of_marked (marked : d.Marked st) : d.Removable st := by
  intro policy result st' es run
  obtain ⟨live, found, mark⟩ := marked
  constructor
  · exact (Manifest.removeAll_granted policy [d]).recorded run
  · rintro rfl
    obtain ⟨within, gone⟩ := (Manifest.removeAll_ensures policy [d] st).recorded run
    cases left : st'.find d.identity with
    | none => rfl
    | some other =>
      -- Only an unmarked namespace could be left, and this one is marked.
      obtain ⟨-, unmarked⟩ := gone rfl d (List.mem_singleton.2 rfl) other left
      cases (within _ _ left).symm.trans found
      rw [mark] at unmarked
      cases unmarked

/-! ## Annotations that are no object -/

theorem mark_lost {v : Json} (distinct : d.value.keysDistinct)
    (declared : d.value.at? ["metadata", "annotations"] = some v) (whole : v.isObject = false)
    (live : Document) : (Document.mk (live.value.overlay d.value)).mark = none := by
  have laid := Json.at?_overlay_of_not_object (by decide) distinct declared whole live.value
  rw [at?_metadata (by decide) ⟨live.value.overlay d.value⟩] at laid
  rw [mark_eq, laid]
  cases v with
  | obj _ => cases whole
  | _ => rfl

/-- The document has created its object, and is applied a second time. -/
theorem not_remembered {v : Json} (isNamespace : d.kind = "Namespace")
    (distinct : d.value.keysDistinct)
    (declared : d.value.at? ["metadata", "annotations"] = some v) (whole : v.isObject = false) :
    ¬ d.Remembered := by
  intro remembered
  have fields := Json.nodup_of_keysDistinct distinct
  have metadata := Json.nodup_of_keysDistinct
    (Json.keysDistinct_getD (Json.keysDistinct_membersOrNone distinct) "metadata")
  let merged : Document := ⟨d.forCreation.value.overlay d.value⟩
  have identity : merged.identity = d.identity :=
    identity_overlay fields metadata (identity_forCreation d)
  have kind : merged.kind ≠ "" := by
    rw [show merged.kind = d.kind from congrArg Identity.kind identity, isNamespace]
    decide
  have unmarked : merged.mark = none := mark_lost distinct declared whole d.forCreation
  -- The document with the mark and without it are told apart, so the update is asked for.
  have differs : d.forCreation.value.agrees merged.value = false := by
    rw [← Bool.not_eq_true]
    intro agree
    have marked := (isMarked_eq_true_iff _).1 (isMarked_forCreation isNamespace)
    obtain ⟨w, kept⟩ := Json.agrees_at? (by decide) agree marked
    cases unmarked.symm.trans kept
  have found : (Store.empty.put d.forCreation).find d.identity = some d.forCreation := by
    rw [← identity_forCreation, Store.find_put_self]
  have again : d.Reapplied (Store.empty.put d.forCreation)
      ((Store.empty.put d.forCreation).put merged) :=
    ⟨_, apply_updates found differs (ofJson_of_kind kind)⟩
  obtain ⟨⟨live, there, marked⟩, -⟩ :=
    remembered _ _ _ (apply_creates rfl) (Relation.ReflTransGen.single again)
  rw [← identity, Store.find_put_self] at there
  cases there
  rw [isMarked_eq_true_iff, unmarked] at marked
  cases marked

/-- **Whether a created namespace is remembered.** Take any document of a namespace that has a name
and does not mention the mark. What it has created stays marked and can be removed, however often
the document is applied again, if and only if its annotations are an object where they are given. -/
theorem mark_survives_iff (d : Declaration) {name : String} (isNamespace : d.kind = "Namespace")
    (named : d.value.at? ["metadata", "name"] = some (.str name)) (silent : d.mark = none) :
    d.Remembered ↔ ∀ v, d.value.at? ["metadata", "annotations"] = some v → v.isObject = true := by
  constructor
  · intro remembered v declared
    by_contra whole
    rw [Bool.not_eq_true] at whole
    exact not_remembered isNamespace d.declared.distinct declared whole remembered
  · intro objects
    have plain : d.Plain := by
      constructor
      · intro v found
        rw [Json.at?_of_names (by decide) (by decide), found] at named
        cases v with
        | obj _ => rfl
        | _ => cases named
      · intro v declared
        refine ⟨objects v declared, ?_⟩
        rw [mark_eq, ← at?_metadata (by decide), declared] at silent
        exact silent
    have regular := plain.regular d.declared.distinct
    intro st₀ st₁ st₂ created again
    have marked : d.Marked st₂ := by
      induction again with
      | refl =>
        rw [created.ensures (apply_created d.toDocument st₀) rfl]
        exact marked_of_created isNamespace st₀
      | tail _ step ih =>
        obtain ⟨result, run⟩ := step
        exact run.ensures (apply_keepsMark regular _ ih)
    exact ⟨marked, removable_of_marked marked⟩

/-! ## Two documents -/

/-- The document of a namespace that gives something as its annotations. -/
def annotated (annotations : Json) : Document :=
  ⟨.obj [("apiVersion", .str "v1"), ("kind", .str "Namespace"),
    ("metadata", .obj [("name", .str "tekton-pipelines"), ("annotations", annotations)])]⟩

/-- A namespace with an annotation of its own is remembered, one without value is not. -/
theorem mark_survives_beside_team :
    let d : Declaration := { toDocument := annotated (.obj [("team", .str "ci")]) }
    let empty : Declaration := { toDocument := annotated .null }
    d.kind = "Namespace" ∧
      d.value.at? ["metadata", "name"] = some (.str "tekton-pipelines") ∧ d.mark = none ∧
      d.apply.Exec Store.Conduct Store.empty (some (.ok .created))
        (Store.empty.put d.forCreation) ∧
      d.Remembered ∧ ¬ empty.Remembered := by
  intro d empty
  have objects : ∀ v, d.value.at? ["metadata", "annotations"] = some v → v.isObject = true := by
    intro v declared
    cases declared
    rfl
  have named (v : Json) : (annotated v).value.at? ["metadata", "name"] =
      some (.str "tekton-pipelines") := rfl
  have forgotten : ¬ empty.Remembered := by
    intro remembered
    cases (mark_survives_iff empty rfl (named .null) rfl).1 remembered .null rfl
  exact ⟨rfl, rfl, rfl, apply_creates rfl,
    (mark_survives_iff d rfl (named _) rfl).2 objects, forgotten⟩

/-- The namespace is created with the mark, loses it with the second application, and is left
behind by the removal. -/
theorem not_mark_survives :
    let d := annotated .null
    let created := Store.empty.put d.forCreation
    let again := created.put ⟨d.forCreation.value.overlay d.value⟩
    d.kind = "Namespace" ∧
      d.value.at? ["metadata", "name"] = some (.str "tekton-pipelines") ∧
      d.value.keysDistinct ∧ d.mark = none ∧
      d.apply.Exec Store.Conduct Store.empty (some (.ok .created)) created ∧
      d.apply.Exec Store.Conduct created (some (.ok .updated)) again ∧
      (again.find d.identity).map isMarked = some false ∧
      ((Manifest.mk [d]).remove .foreground).Exec Store.Conduct again (some (.ok ())) again := by
  intro d created again
  have there : created.find d.identity = some d.forCreation := rfl
  have left : again.find d.identity = some ⟨d.forCreation.value.overlay d.value⟩ := rfl
  exact ⟨rfl, rfl, rfl, rfl, apply_creates rfl, apply_updates there rfl rfl, rfl,
    remove_skips left rfl rfl⟩

end Document

end PhasedInstall
