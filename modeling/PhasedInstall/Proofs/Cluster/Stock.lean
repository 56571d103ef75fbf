import PhasedInstall.Proofs.Cluster.Calls
import PhasedInstall.Proofs.Json.Distinct
import PhasedInstall.Proofs.Manifest.Heading

/-!
# A cluster whose objects take their time to go

`Stock` holds the objects of a cluster by identity, like `Store`, but a deletion need not be done
when it is accepted. The object is leaving from then on, it is still found, and it may go at any
time. Nothing can be created before it has gone. What is written is stored exactly as it is, and
any request may be refused.

An object that is not leaving stays what it is until its identity is written (`Conduct.frame`), and
so does an identity without an object. That is all that later proofs need to know of a step.
-/

set_option autoImplicit false

namespace PhasedInstall

open Cluster

/-- The identity under which a request may change something. -/
def Cluster.Request.written? : Request → Option Identity
  | create d | update d | delete d _ => some d.identity
  | _ => none

structure Holding where
  document : Document
  /-- Its deletion was accepted. -/
  leaving : Bool

/-- The objects of a cluster, by identity. -/
structure Stock where
  find : Identity → Option Holding
  own : ∀ k h, find k = some h → h.document.identity = k

namespace Stock

def set (s : Stock) (h : Holding) : Stock where
  find k := if k = h.document.identity then some h else s.find k
  own k found e := by
    split at e
    · rename_i same
      rw [← Option.some.inj e, same]
    · exact s.own k found e

variable {s s' now : Stock} {k : Identity} {h : Holding}

@[simp] theorem find_set_self (s : Stock) (h : Holding) :
    (s.set h).find h.document.identity = some h := if_pos rfl

theorem find_set_of_ne (other : k ≠ h.document.identity) (s : Stock) :
    (s.set h).find k = s.find k := if_neg other

/-- Objects that are leaving may go by themselves. -/
def Fades (s s' : Stock) : Prop :=
  ∀ k, s'.find k = s.find k ∨ s'.find k = none ∧ ∃ h, s.find k = some h ∧ h.leaving = true

/-- How the cluster may answer a request. -/
def Answers : (r : Request) → Stock → r.Reply → Stock → Prop
  | .find d, s, reply, s' =>
    s' = s ∧ (∀ found, reply = .ok found → found = (s.find d.identity).map Holding.document) ∧
      ∀ f, reply = .error f → f.isNotFound → s.find d.identity = none
  | .create d, s, reply, s' =>
    s.find d.identity = none ∧ s' = s.set ⟨d, false⟩ ∨ s' = s ∧ ∃ f, reply = .error f
  | .update d, s, reply, s' =>
    (∃ h, s.find d.identity = some h ∧ s' = s.set { h with document := d }) ∨
      s' = s ∧ ∃ f, reply = .error f
  | .delete d _, s, reply, s' =>
    (∃ h, s.find d.identity = some h ∧ s' = s.set { h with leaving := true }) ∨
      s' = s ∧ ∃ f, reply = .error f
  | _, s, _, s' => s' = s

/-- How the cluster may behave: time passes for what is leaving, and then the request is
answered. -/
def Conduct : PhasedInstall.Conduct Cluster.interface Stock :=
  fun r s reply s' => ∃ now, Fades s now ∧ Answers r now reply s'

/-- A reply to a lookup that is no refusal. -/
def Attends : (r : Request) → r.Reply → Prop
  | .find _, reply => ∃ found, reply = .ok found
  | _, _ => True

/-- The same behaviour, where no lookup is refused. -/
def Attentive : PhasedInstall.Conduct Cluster.interface Stock :=
  fun r s reply s' => Conduct r s reply s' ∧ Attends r reply

/-- What is under an identity does not go by itself. -/
def Stays (s : Stock) (k : Identity) : Prop := ∀ h, s.find k = some h → h.leaving = false

theorem Stays.fades (stays : s.Stays k) (fades : Fades s s') : s'.find k = s.find k := by
  rcases fades k with same | ⟨-, h, found, leaving⟩
  · exact same
  · rw [stays h found] at leaving
    cases leaving

/-- **A step changes no more than the identity that it writes**, and what was leaving. -/
theorem Conduct.frame {r : Request} {reply : r.Reply} (step : Conduct r s reply s')
    (stays : s.Stays k) (other : r.written? ≠ some k) : s'.find k = s.find k := by
  obtain ⟨now, fades, answers⟩ := step
  -- Time alone changes nothing under the identity, so only the answer counts.
  rw [← stays.fades fades]
  have apart : ∀ d : Document, r.written? = some d.identity → k ≠ d.identity := by
    rintro d written rfl
    exact other written
  cases r with
  | find d => rw [answers.1]
  | create d =>
    rcases answers with ⟨-, rfl⟩ | ⟨rfl, -⟩
    · exact find_set_of_ne (apart d rfl) now
    · rfl
  | update d =>
    rcases answers with ⟨h, found, rfl⟩ | ⟨rfl, -⟩
    · exact find_set_of_ne (apart d rfl) now
    · rfl
  | delete d policy =>
    rcases answers with ⟨h, found, rfl⟩ | ⟨rfl, -⟩
    · refine find_set_of_ne ?_ now
      rw [now.own _ _ found]
      exact apart d rfl
    · rfl
  | _ => rw [answers]

/-- Nothing is leaving, and no object has a key twice. -/
def Steady (s : Stock) : Prop :=
  ∀ k h, s.find k = some h → h.leaving = false ∧ h.document.value.keysDistinct

theorem Steady.fades (steady : s.Steady) (fades : Fades s now) : now = s := by
  have same : now.find = s.find :=
    funext fun k => Stays.fades (fun h found => (steady k h found).1) fades
  cases s
  cases now
  cases same
  rfl

/-- In a steady cluster a step is an answer. -/
theorem Steady.answers (steady : s.Steady) {r : Request} {reply : r.Reply}
    (step : Conduct r s reply s') : Answers r s reply s' := by
  obtain ⟨now, fades, answers⟩ := step
  rw [steady.fades fades] at answers
  exact answers

theorem Steady.set (steady : s.Steady) (stays : h.leaving = false)
    (distinct : h.document.value.keysDistinct) : (s.set h).Steady := by
  intro k other found
  by_cases same : k = h.document.identity
  · rw [same, find_set_self] at found
    cases found
    exact ⟨stays, distinct⟩
  · rw [find_set_of_ne same] at found
    exact steady k other found

section
variable {α : Type} {w : Work α}

/-- What is not written is kept. -/
theorem kept (only : w.Only fun r => r.written? ≠ some k) (stays : s.Stays k) :
    w.Ensures Conduct s fun _ s' => s'.find k = s.find k := by
  refine Program.Only.ensures only (fun r t reply t' other step same => ?_) rfl
  have stays' : t.Stays k := fun h found => stays h (same ▸ found)
  rw [step.frame stays' other, same]

end

end Stock

/-! ## Idle work -/

namespace Work

variable {α β : Type} {s : Stock}

/-- The work has succeeded, nothing has changed, and nothing but looking was asked for since. -/
def OnlyLooked (s : Stock) (before : Calls) (result : Option (Except Fault α))
    (t : Stock × Calls) : Prop :=
  (∃ a, result = some (.ok a)) ∧ t.1 = s ∧
    ∃ looks : Calls, t.2 = before ++ looks ∧ looks.Ask fun r => r.writesObjects = false

/-- Done in the cluster, the work succeeds and only looks, if the lookups are answered. -/
def IdleIn (s : Stock) (w : Work α) : Prop :=
  ∀ before, w.Ensures Stock.Attentive.recorded (s, before) (OnlyLooked s before)

theorem idleIn_pure (a : α) : (pure a : Work α).IdleIn s := fun before =>
  ⟨⟨a, rfl⟩, rfl, [], (List.append_nil before).symm, List.forall_mem_nil _⟩

/-- What was looked at before may be counted in. -/
theorem IdleIn.after {w : Work α} (idle : w.IdleIn s) (before : Calls) {looks : Calls}
    (observes : looks.Ask fun r => r.writesObjects = false) :
    w.Ensures Stock.Attentive.recorded (s, before ++ looks) (OnlyLooked s before) := by
  refine (idle (before ++ looks)).mono fun result t => ?_
  rintro ⟨ok, same, more, said, observesMore⟩
  exact ⟨ok, same, looks ++ more, said.trans (List.append_assoc ..), observes.append observesMore⟩

/-- A lookup, and what is made of the reply. -/
theorem idleIn_find_bind {d : Document} {f : Option Document → Work β} (steady : s.Steady)
    (rest : (f ((s.find d.identity).map Holding.document)).IdleIn s) :
    (find d >>= f).IdleIn s := by
  intro before
  have look : (find d).Ensures Stock.Attentive.recorded (s, before) fun result t =>
      result = some (.ok ((s.find d.identity).map Holding.document)) ∧
        t = (s, before ++ [⟨.find d, .ok ((s.find d.identity).map Holding.document)⟩]) := by
    rintro reply ⟨s', said⟩ ⟨⟨step, found, rfl⟩, rfl⟩
    obtain ⟨same, current, -⟩ := steady.answers step
    obtain rfl := current found rfl
    exact ⟨rfl, Prod.ext same rfl⟩
  refine look.bind ?_ (fun _ _ h => by cases h.1) fun _ h => by cases h.1
  rintro _ _ ⟨same, rfl⟩
  cases same
  exact rest.after before (List.forall_mem_singleton.2 rfl)

theorem IdleIn.bind {w : Work α} {f : α → Work β} (first : w.IdleIn s)
    (rest : ∀ a, (f a).IdleIn s) : (w >>= f).IdleIn s := by
  intro before
  refine (first before).bind ?_ ?_ ?_
  · rintro a ⟨_, _⟩ ⟨-, rfl, looks, rfl, observes⟩
    exact (rest a).after before observes
  · rintro f t ⟨⟨_, impossible⟩, -⟩
    cases impossible
  · rintro t ⟨⟨_, impossible⟩, -⟩
    cases impossible

theorem IdleIn.outcome_bind {w : Work α} {f : Except Fault α → Work β} (first : w.IdleIn s)
    (rest : ∀ a, (f (.ok a)).IdleIn s) : (w.outcome >>= f).IdleIn s := by
  intro before
  refine (first before).outcome_bind ?_ ?_
  · rintro outcome ⟨_, _⟩ ⟨⟨a, ok⟩, rfl, looks, rfl, observes⟩
    cases ok
    exact (rest a).after before observes
  · rintro t ⟨⟨_, impossible⟩, -⟩
    cases impossible

end Work

end PhasedInstall
