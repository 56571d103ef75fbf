import PhasedInstall.Proofs.Cluster.Work
import PhasedInstall.Proofs.Install.Recording
import PhasedInstall.Proofs.Manifest.Heading

/-!
# A cluster that stores what it is given

`Store` holds the objects of a cluster by identity. `Store.Conduct` bounds the answers of a cluster
that stores what it is given and deletes what it is told to: lookups are current, an accepted write
is done, and "not found" is only said of what is not there. Any request may be refused instead, and
nobody knows of a refused write whether it has been done.

`Site` is such a store next to the watched resource. The two halves are bound by their own
conducts, so that what is proved about one of them is a statement about both (`Ensures.project`).
-/

set_option autoImplicit false

namespace PhasedInstall

open Cluster

/-- The objects of a cluster, by identity. -/
structure Store where
  find : Identity → Option Document
  own : ∀ k d, find k = some d → d.identity = k

namespace Store

theorem own_nothing (k : Identity) (d : Document) (found : none = some d) : d.identity = k := by
  cases found

def empty : Store := ⟨fun _ => none, own_nothing⟩

def put (st : Store) (d : Document) : Store where
  find k := if k = d.identity then some d else st.find k
  own k found h := by
    split at h
    · rename_i same
      rw [← Option.some.inj h, same]
    · exact st.own k found h

def erase (st : Store) (gone : Identity) : Store where
  find k := if k = gone then none else st.find k
  own k found h := by
    split at h
    · cases h
    · exact st.own k found h

variable {st st' st'' : Store} {k other : Identity} {d : Document}

@[simp] theorem find_put_self (st : Store) (d : Document) :
    (st.put d).find d.identity = some d := if_pos rfl

theorem find_put_of_ne (h : k ≠ d.identity) (st : Store) : (st.put d).find k = st.find k :=
  if_neg h

@[simp] theorem find_erase_self (st : Store) (k : Identity) : (st.erase k).find k = none :=
  if_pos rfl

theorem find_erase_of_ne (h : other ≠ k) (st : Store) : (st.erase k).find other = st.find other :=
  if_neg h

/-- Every object of the one store is in the other. -/
def Within (st' st : Store) : Prop := ∀ k live, st'.find k = some live → st.find k = some live

theorem Within.refl (st : Store) : st.Within st := fun _ _ found => found

theorem Within.trans (h : st''.Within st') (h' : st'.Within st) : st''.Within st :=
  fun k live found => h' k live (h k live found)

theorem erase_within (st : Store) (k : Identity) : (st.erase k).Within st := by
  intro other live found
  by_cases same : other = k
  · subst same
    rw [find_erase_self] at found
    cases found
  · rwa [find_erase_of_ne same] at found

/-- How a cluster may answer that stores what it is given. -/
def Conduct : PhasedInstall.Conduct Cluster.interface Store
  | .find d, st, reply, st' =>
    st' = st ∧ (∀ found, reply = .ok found → found = st.find d.identity) ∧
      ∀ f, reply = .error f → f.isNotFound → st.find d.identity = none
  | .create d, st, reply, st' => st' = st.put d ∨ st' = st ∧ ∃ f, reply = .error f
  | .update d, st, reply, st' => st' = st.put d ∨ st' = st ∧ ∃ f, reply = .error f
  | .delete d _, st, reply, st' =>
    st' = st.erase d.identity ∨
      st' = st ∧ ∃ f, reply = .error f ∧ (f.isNotFound → st.find d.identity = none)
  | _, st, _, st' => st' = st

theorem find_ensures (d : Document) (st : Store) :
    (Work.find d).Ensures Conduct st fun result st' =>
      st' = st ∧ (∀ found, result = some (.ok found) → found = st.find d.identity) ∧
        ∀ f, result = some (.error f) → f.isNotFound → st.find d.identity = none := by
  rintro reply st' ⟨same, current, missing⟩
  exact ⟨same, fun found h => current found (Option.some.inj h),
    fun f h => missing f (Option.some.inj h)⟩

theorem create_ensures (d : Document) (st : Store) :
    (Work.create d).Ensures Conduct st fun _ st' => st' = st.put d ∨ st' = st :=
  fun _ _ step => step.imp_right And.left

theorem update_ensures (d : Document) (st : Store) :
    (Work.update d).Ensures Conduct st fun _ st' => st' = st.put d ∨ st' = st :=
  fun _ _ step => step.imp_right And.left

theorem delete_ensures (d : Document) (policy : DeletePolicy) (st : Store) :
    (Work.delete d policy).Ensures Conduct st fun result st' =>
      st' = st.erase d.identity ∨
        st' = st ∧ ∃ f, result = some (.error f) ∧
          (f.isNotFound → st.find d.identity = none) := by
  rintro reply st' (done | ⟨same, f, refused, missing⟩)
  · exact Or.inl done
  · exact Or.inr ⟨same, f, congrArg some refused, missing⟩

theorem Conduct.still {r : Request} {reply : r.Reply} (h : r.writesObjects = false)
    (step : Conduct r st reply st') : st' = st := by
  cases r with
  | find _ => exact step.1
  | create _ => cases h
  | update _ => cases h
  | delete _ _ => cases h
  | _ => exact step

theorem keeps {α : Type} {w : Work α} (h : w.Only (·.writesObjects = false)) (st : Store) :
    w.Ensures Conduct st fun _ st' => st' = st :=
  h.keeps (fun _ _ _ _ hr step => Conduct.still hr step) st

theorem preserves {α : Type} {w : Work α} {inv : Store → Prop}
    (h : w.Only (·.writesObjects = false)) : w.Preserves Conduct inv :=
  h.preserves fun _ _ _ _ hr step => Conduct.still hr step

end Store

/-- The watched resource and the objects of a cluster. -/
@[ext]
structure Site where
  config : Config
  objects : Store

namespace Site

/-- How a cluster may answer that stores what it is given, about the watched resource as well. -/
def Conduct : PhasedInstall.Conduct Cluster.interface Site := fun r s reply s' =>
  Ledger.Conduct r s.config reply s'.config ∧ Store.Conduct r s.objects reply s'.objects

variable {α : Type} {s : Site}

theorem ensures_objects {w : Work α} {post : Option (Except Fault α) → Store → Prop}
    (h : w.Ensures Store.Conduct s.objects post) :
    w.Ensures Conduct s fun result s' => post result s'.objects :=
  Program.Ensures.project (fun _ _ _ _ step => step.2) h

/-- The operator never changes what is asked of it. -/
theorem ensures_spec (w : Work α) (s : Site) :
    w.Ensures Conduct s fun _ s' => s'.config.spec = s.config.spec := by
  refine Program.ensures_of_step (fun r s₁ reply s₂ step same => ?_) _ rfl
  rw [← same]
  cases r with
  | readConfig _ => rw [step.1.1]
  | replaceStatus _ =>
    rcases step.1 with written | ⟨refused, _⟩
    · rw [written]
    · rw [refused]
  | addFinalizer _ => exact step.1.1
  | removeFinalizer _ => exact step.1.1
  | _ => exact congrArg Config.spec step.1

end Site

end PhasedInstall
