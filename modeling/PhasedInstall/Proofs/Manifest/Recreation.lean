import Mathlib.Algebra.Order.Floor.Div
import PhasedInstall.Proofs.Manifest.Refusal
import PhasedInstall.Proofs.Manifest.Removing

/-!
# Creating objects anew

Objects are created anew in three parts: they are removed, they are awaited to be gone, and the
manifest is applied. The waiting is a sequence of sweeps. A sweep goes through the documents and
stops at the first one whose object is still there, so a sweep that finds nothing has had a reply
about every document, and that is what the third part waits for.

A sweep that found something is followed by a look at the clock. Time moves on by at least the
interval between two sweeps, which bounds their number (`awaitAbsence_tells`), and the object that
is still there at the deadline is the one that the fault names.
-/

set_option autoImplicit false

namespace PhasedInstall

open Cluster

/-! ## Lookups -/

/-- Every document was looked up, and none was there. -/
def Absences (ds : List Document) (looks : Calls) : Prop :=
  List.Forall₂ (fun d e => ∃ reply, Absent reply ∧ e = ⟨.find d, reply⟩) ds looks

/-- The documents were looked up as far as one of them, and none before it was there. -/
def StopsAt (ds : List Document) (d : Document) (reply : Except Fault (Option Document))
    (looks : Calls) : Prop :=
  ∃ gone rest before, ds = gone ++ d :: rest ∧ Absences gone before ∧
    looks = before ++ [⟨.find d, reply⟩]

theorem Absences.observes {ds : List Document} {looks : Calls} (h : Absences ds looks) :
    looks.Ask fun r => r.writesObjects = false := by
  induction h with
  | nil => exact List.forall_mem_nil _
  | cons head _ ih =>
    obtain ⟨reply, -, rfl⟩ := head
    exact List.forall_mem_cons.2 ⟨rfl, ih⟩

theorem StopsAt.observes {ds : List Document} {d : Document} {looks : Calls}
    {reply : Except Fault (Option Document)} (h : StopsAt ds d reply looks) :
    looks.Ask fun r => r.writesObjects = false := by
  obtain ⟨gone, rest, before, rfl, absences, rfl⟩ := h
  exact absences.observes.append (List.forall_mem_singleton.2 rfl)

theorem StopsAt.cons {ds : List Document} {d x : Document} {looks : Calls}
    {reply reply' : Except Fault (Option Document)} (h : StopsAt ds d reply looks)
    (absent : Absent reply') : StopsAt (x :: ds) d reply (⟨.find x, reply'⟩ :: looks) := by
  obtain ⟨gone, rest, before, rfl, absences, rfl⟩ := h
  exact ⟨x :: gone, rest, _ :: before, rfl, .cons ⟨reply', absent, rfl⟩ absences, rfl⟩

namespace Document

/-- Looking for the first object that is there stops at the first reply that is not an absence. -/
theorem firstLive?_tells (ds : List Document) :
    (firstLive? ds).Tells fun result es =>
      match result with
      | some (.ok none) => Absences ds es
      | some (.ok (some d)) => ∃ live, StopsAt ds d (.ok (some live)) es
      | some (.error f) => f.isNotFound = false ∧ ∃ d, StopsAt ds d (.error f) es
      | none => False := by
  induction ds with
  | nil => exact Work.tells_pure .nil
  | cons d rest ih =>
    refine tells_live?_bind ?_ ?_ ?_
    · intro reply absent
      refine Work.Tells.mono ih fun result es holds => ?_
      rcases result with _ | f | _ | other
      · exact holds
      · obtain ⟨unknown, x, stops⟩ := holds
        exact ⟨unknown, x, stops.cons absent⟩
      · exact .cons ⟨reply, absent, rfl⟩ holds
      · obtain ⟨live, stops⟩ := holds
        exact ⟨live, stops.cons absent⟩
    · intro live
      exact Work.tells_pure ⟨live, [], rest, [], rfl, .nil, rfl⟩
    · intro f unknown
      exact ⟨unknown, d, [], rest, [], rfl, .nil, rfl⟩

end Document

/-! ## Sweeps -/

/-- What a sweep came to. -/
inductive Verdict where
  /-- Nothing was there. -/
  | clear
  /-- The first document whose object was still there, and when the sweep had ended. -/
  | found (d : Document) (ended : Nat)
  /-- A lookup failed. -/
  | broken (f : Fault)

/-- One sweep through the documents of a manifest, with the questions about time that follow. -/
structure Sweep where
  looks : Calls
  readings : Calls
  verdict : Verdict

namespace Sweep

def calls (s : Sweep) : Calls := s.looks ++ s.readings

/-- A sweep through some documents is what its verdict says. -/
def Over (ds : List Document) (s : Sweep) : Prop :=
  match s.verdict with
  | .clear => Absences ds s.looks ∧ s.readings = []
  | .found d ended => (∃ live, StopsAt ds d (.ok (some live)) s.looks) ∧
      ∃ (since : Nat) (later : Calls) (within : since ≤ ended),
        s.readings = ⟨.clock since, ⟨ended, within⟩⟩ :: later ∧ later.Ask fun r => r.isTiming
  | .broken f => f.isNotFound = false ∧ (∃ d, StopsAt ds d (.error f) s.looks) ∧ s.readings = []

theorem Over.observes {ds : List Document} {s : Sweep} (h : s.Over ds) :
    s.calls.Ask fun r => r.writesObjects = false := by
  rcases s with ⟨looks, readings, _ | ⟨d, ended⟩ | f⟩
  · obtain ⟨absences, same⟩ := h
    subst same
    exact absences.observes.append (List.forall_mem_nil _)
  · obtain ⟨⟨live, stops⟩, since, later, within, same, timing⟩ := h
    subst same
    have still : ∀ r : Request, r.isTiming → r.writesObjects = false := by
      intro r
      cases r <;> simp [Request.isTiming, Request.writesObjects]
    have quiet : later.Ask fun r => r.writesObjects = false := timing.mono still
    exact stops.observes.append (List.forall_mem_cons.2 ⟨rfl, quiet⟩)
  · obtain ⟨-, ⟨d, stops⟩, same⟩ := h
    subst same
    exact stops.observes.append (List.forall_mem_nil _)

end Sweep

/-- The fault that names an object which is still there at the end of the wait. -/
def Fault.lingering (p : Patience) (d : Document) : Fault :=
  .timeout (d.describe ++ " still exists after " ++ Text.duration p.timeout)

/-- The sweeps of a wait, and what they come to. All but the last one found something before the
deadline. -/
inductive Wait (ds : List Document) (p : Patience) (deadline : Nat) :
    List Sweep → Except Fault Unit → Prop
  | clear {s : Sweep} : s.Over ds → s.verdict = .clear → Wait ds p deadline [s] (.ok ())
  | broken {s : Sweep} {f : Fault} : s.Over ds → s.verdict = .broken f →
      Wait ds p deadline [s] (.error f)
  | expired {s : Sweep} {d : Document} {ended : Nat} : s.Over ds → s.verdict = .found d ended →
      deadline ≤ ended → Wait ds p deadline [s] (.error (.lingering p d))
  | again {s : Sweep} {d : Document} {ended : Nat} {rest : List Sweep}
      {result : Except Fault Unit} : s.Over ds → s.verdict = .found d ended → ended < deadline →
      Wait ds p deadline rest result → Wait ds p deadline (s :: rest) result

namespace Wait

variable {ds : List Document} {p : Patience} {deadline : Nat} {sweeps : List Sweep}
  {result : Except Fault Unit}

theorem sweeps_over (w : Wait ds p deadline sweeps result) : ∀ s ∈ sweeps, s.Over ds := by
  induction w with
  | clear whole _ => exact List.forall_mem_singleton.2 whole
  | broken whole _ => exact List.forall_mem_singleton.2 whole
  | expired whole _ _ => exact List.forall_mem_singleton.2 whole
  | again whole _ _ _ ih => exact List.forall_mem_cons.2 ⟨whole, ih⟩

/-- A wait that succeeds ends with a sweep that found nothing. -/
theorem last_clear (w : Wait ds p deadline sweeps (.ok ())) :
    ∃ s ∈ sweeps.getLast?, s.verdict = .clear := by
  generalize same : (Except.ok () : Except Fault Unit) = result at w
  induction w with
  | @clear s _ clear => exact ⟨s, rfl, clear⟩
  | broken => cases same
  | expired => cases same
  | again _ _ _ rest ih =>
    obtain ⟨s, last, clear⟩ := ih same
    refine ⟨s, ?_, clear⟩
    rw [Option.mem_def] at last
    rw [Option.mem_def, List.getLast?_cons, last, Option.getD_some]

/-- Something that is found at the deadline or later is the end of the wait. -/
theorem late (w : Wait ds p deadline sweeps result) {s : Sweep} {d : Document} {ended : Nat}
    (mem : s ∈ sweeps) (found : s.verdict = .found d ended) (reached : deadline ≤ ended) :
    result = .error (.lingering p d) := by
  induction w with
  | clear _ clear =>
    obtain rfl := List.mem_singleton.1 mem
    rw [clear] at found
    cases found
  | broken _ broken =>
    obtain rfl := List.mem_singleton.1 mem
    rw [broken] at found
    cases found
  | expired _ found' _ =>
    obtain rfl := List.mem_singleton.1 mem
    rw [found'] at found
    cases found
    rfl
  | again _ found' early _ ih =>
    rcases List.mem_cons.1 mem with rfl | mem
    · rw [found'] at found
      cases found
      exact absurd reached (Nat.not_le.2 early)
    · exact ih mem

end Wait

namespace Manifest

/-- A pause that begins before the deadline leaves room for fewer pauses. -/
theorem fewer_pauses {deadline now woken pause : Nat} (positive : 0 < pause)
    (early : now < deadline) (later : now + pause ≤ woken) :
    (deadline - woken) ⌈/⌉ pause + 1 ≤ (deadline - now) ⌈/⌉ pause := by
  have room : deadline - now ≤ pause * ((deadline - now) ⌈/⌉ pause) :=
    (ceilDiv_le_iff_le_mul positive).1 le_rfl
  obtain ⟨n, pauses⟩ : ∃ n, (deadline - now) ⌈/⌉ pause = n + 1 := by
    refine Nat.exists_eq_succ_of_ne_zero fun none => ?_
    rw [none, Nat.mul_zero] at room
    omega
  rw [pauses, Nat.mul_succ] at room
  rw [pauses]
  refine Nat.succ_le_succ ((ceilDiv_le_iff_le_mul positive).2 ?_)
  omega

/-- A wait is a sequence of sweeps, and there are only so many of them. -/
theorem awaitAbsence_tells (ds : List Document) (p : Patience) (deadline now : Nat) :
    (awaitAbsence ds p deadline now).Tells fun result es =>
      ∃ sweeps outcome, result = some outcome ∧ es = sweeps.flatMap Sweep.calls ∧
        Wait ds p deadline sweeps outcome ∧
        sweeps.length ≤ (deadline - now) ⌈/⌉ p.pause + 1 := by
  have positive : 0 < p.pause := Nat.le_max_left 1 _
  -- What is left until the deadline shrinks with every pause.
  induction remaining : deadline - now using Nat.strong_induction_on generalizing now with
  | _ n ih =>
    rw [awaitAbsence]
    refine Work.Tells.bind (Document.firstLive?_tells ds) ?_ ?_ fun _ impossible => impossible.elim
    · rintro (_ | d) looks swept
      · refine Work.tells_pure ⟨[⟨looks, [], .clear⟩], .ok (), rfl, ?_, ?_, ?_⟩
        · simp [Sweep.calls]
        · exact .clear ⟨swept, rfl⟩ rfl
        · exact Nat.le_add_left 1 _
      · refine Work.tells_clock_bind fun seen => ?_
        rcases seen with ⟨seen, since⟩
        by_cases reached : deadline ≤ seen
        · simp only [if_pos reached]
          let reading : Call := ⟨.clock now, ⟨seen, since⟩⟩
          refine Work.tells_throw ⟨[⟨looks, [reading], .found d seen⟩], _, rfl, ?_, ?_, ?_⟩
          · simp [Sweep.calls, reading]
          · refine .expired ⟨swept, now, [], since, rfl, ?_⟩ rfl reached
            exact List.forall_mem_nil _
          · exact Nat.le_add_left 1 _
        · have early : seen < deadline := Nat.not_le.1 reached
          simp only [if_neg reached]
          refine Work.tells_sleep_bind fun woken => ?_
          rcases woken with ⟨woken, later⟩
          have next := ih (deadline - woken) (by omega) woken rfl
          refine Work.Tells.mono next fun result more => ?_
          rintro ⟨rest, outcome, ended, rfl, waited, bound⟩
          let readings : Calls :=
            [⟨.clock now, ⟨seen, since⟩⟩, ⟨.sleep seen p.pause, ⟨woken, later⟩⟩]
          refine ⟨⟨looks, readings, .found d seen⟩ :: rest, outcome, ended, ?_, ?_, ?_⟩
          · simp [Sweep.calls, readings]
          · refine .again ⟨swept, now, readings.tail, since, rfl, ?_⟩ rfl early waited
            exact List.forall_mem_singleton.2 rfl
          · rw [List.length_cons]
            have fewer := fewer_pauses positive (lt_of_le_of_lt since early)
              ((Nat.add_le_add_right since p.pause).trans later)
            rw [remaining] at fewer
            omega
    · rintro f looks ⟨unknown, stops⟩
      refine ⟨[⟨looks, [], .broken f⟩], .error f, rfl, ?_, ?_, ?_⟩
      · simp [Sweep.calls]
      · exact .broken ⟨unknown, stops, rfl⟩ rfl
      · exact Nat.le_add_left 1 _

theorem awaitRemoval_tells (m : Manifest) (p : Patience) :
    (m.awaitRemoval p).Tells fun result es =>
      ∃ start sweeps outcome, result = some outcome ∧
        es = ⟨.clock 0, ⟨start, Nat.zero_le start⟩⟩ :: sweeps.flatMap Sweep.calls ∧
        Wait m.documents p (start + p.timeout) sweeps outcome ∧
        sweeps.length ≤ p.timeout ⌈/⌉ p.pause + 1 := by
  refine Work.tells_clock_bind fun now => ?_
  rcases now with ⟨start, since⟩
  refine Work.Tells.mono (awaitAbsence_tells m.documents p (start + p.timeout) start) ?_
  rintro result more ⟨sweeps, outcome, ended, rfl, waited, bound⟩
  rw [Nat.add_sub_cancel_left] at bound
  exact ⟨start, sweeps, outcome, ended, rfl, waited, bound⟩

end Manifest

/-! ## The three parts -/

/-- A call of `recreate`: what was asked to remove the objects, when the wait began, the sweeps of
the wait, and what was asked to apply the manifest. -/
structure Recreation where
  removing : Calls
  start : Option Nat
  sweeps : List Sweep
  applying : Calls

namespace Recreation

def waiting (c : Recreation) : Calls :=
  (c.start.map fun start => ⟨.clock 0, ⟨start, Nat.zero_le start⟩⟩).toList ++
    c.sweeps.flatMap Sweep.calls

def calls (c : Recreation) : Calls := c.removing ++ c.waiting ++ c.applying

/-- How a call of `recreate` goes. -/
structure Keeps (m : Manifest) (p : Patience) (result : Option (Except Fault Unit))
    (c : Recreation) : Prop where
  /-- The call ends, with a result or a fault. -/
  ends : result ≠ none
  /-- The first part looks objects up and deletes them, no document's more than once. -/
  removing : c.removing.Ask fun r => ∃ d ∈ m.documents, d.AsksRemoval .foreground r
  once : c.removing.deletions.Sublist m.documents.reverse
  /-- The second part is made of sweeps, of which there are only so many. -/
  sweeps : ∀ s ∈ c.sweeps, s.Over m.documents
  bound : c.sweeps.length ≤ p.timeout ⌈/⌉ p.interval + 1
  started : c.start = none → c.sweeps = []
  /-- The third part deletes nothing, and it begins only after a sweep that found nothing. -/
  applying : c.applying.Ask m.Asks
  clear : c.applying ≠ [] → ∃ s ∈ c.sweeps.getLast?, s.verdict = .clear
  /-- A sweep that found something and ended at the deadline or later ends the call. -/
  expires : ∀ start ∈ c.start, ∀ s ∈ c.sweeps, ∀ d ended, s.verdict = .found d ended →
    start + p.timeout ≤ ended → result = some (.error (.lingering p d)) ∧ c.applying = []

variable {m : Manifest} {p : Patience} {result : Option (Except Fault Unit)} {c : Recreation}

/-- Nothing changes while the objects are awaited to be gone. -/
theorem Keeps.waits (h : c.Keeps m p result) :
    c.waiting.Ask fun r => r.writesObjects = false := by
  refine Calls.Ask.append ?_ fun e mem => ?_
  · cases c.start with
    | none => exact List.forall_mem_nil _
    | some start => exact List.forall_mem_singleton.2 rfl
  · obtain ⟨s, among, mem⟩ := List.mem_flatMap.1 mem
    exact (h.sweeps s among).observes e mem

theorem Keeps.deletions (h : c.Keeps m p result) : c.calls.deletions = c.removing.deletions := by
  have waiting : c.waiting.deletions = [] := by
    refine Calls.deletions_eq_nil (h.waits.mono fun r still => ?_)
    cases r <;> first | rfl | cases still
  have applying := Calls.deletions_eq_nil (h.applying.mono fun r => Manifest.Asks.deleted?_eq_none)
  rw [calls, Calls.deletions_append, Calls.deletions_append, waiting, applying, List.append_nil,
    List.append_nil]

/-- A creation belongs to the third part, so the last sweep before it found nothing. -/
theorem Keeps.creation (h : c.Keeps m p result) {before after : Calls} {e : Call}
    (same : c.calls = before ++ e :: after) (creates : e.request.isCreation) :
    after.deletions = [] ∧ ∃ front looks later, before = front ++ looks ++ later ∧
      Absences m.documents looks ∧ Calls.Ask m.Asks later := by
  -- The first two parts create nothing, so the creation lies in the third.
  have early : (c.removing ++ c.waiting).Ask fun r => r.isCreation = false := by
    refine (h.removing.mono fun r asked => ?_).append (h.waits.mono fun r still => ?_)
    · obtain ⟨d, -, rfl | rfl⟩ := asked
      · rfl
      · rfl
    · cases r <;> first | rfl | cases still
  obtain ⟨later, rfl⟩ := early.before (fun none => by rw [none] at creates; cases creates) same
  have applied : c.applying = later ++ e :: after := by
    rw [List.append_assoc _ later] at same
    exact List.append_cancel_left same
  have asked := h.applying
  rw [applied] at asked
  have begun : c.applying ≠ [] := by
    rw [applied]
    exact List.append_ne_nil_of_right_ne_nil _ (List.cons_ne_nil _ _)
  obtain ⟨s, last, clear⟩ := h.clear begun
  obtain ⟨sweeps, ends⟩ := List.getLast?_eq_some_iff.1 last
  have whole := h.sweeps s (List.mem_of_getLast? last)
  rw [Sweep.Over, clear] at whole
  obtain ⟨absences, nothing⟩ := whole
  -- No look at the clock follows a sweep that found nothing, so its lookups end the wait.
  have waited : ∃ front, c.waiting = front ++ s.looks := by
    rw [waiting, ends, List.flatMap_append, List.flatMap_singleton, Sweep.calls, nothing,
      List.append_nil, ← List.append_assoc]
    exact ⟨_, rfl⟩
  obtain ⟨front, waited⟩ := waited
  constructor
  · refine Calls.deletions_eq_nil fun x mem => ?_
    exact (asked x (List.mem_append_right _ (List.mem_cons_of_mem _ mem))).deleted?_eq_none
  · refine ⟨c.removing ++ front, s.looks, later, ?_, absences, fun x mem => ?_⟩
    · rw [waited, ← List.append_assoc]
    · exact asked x (List.mem_append_left _ mem)

end Recreation

namespace Manifest

variable {m : Manifest} {p : Patience} {result : Option (Except Fault Unit)} {es : Calls}

theorem pause_eq (positive : 0 < p.interval) : p.pause = p.interval :=
  Nat.max_eq_right positive

theorem recreate_tells (m : Manifest) (positive : 0 < p.interval) :
    (m.recreate p).Tells fun result es =>
      ∃ c : Recreation, es = c.calls ∧ c.Keeps m p result := by
  have nothing : Calls.Ask m.Asks [] := List.forall_mem_nil _
  refine Work.Tells.bind (removeAll_removals .foreground m.documents.reverse) ?_ ?_ ?_
  · rintro _ removing ⟨_, -, removals⟩
    have once := Removals.deletions removals
    have asked := Removals.asks removals
    simp only [List.mem_reverse] at asked
    refine Work.Tells.bind (awaitRemoval_tells m p) ?_ ?_ ?_
    · -- Nothing is left of the objects.
      rintro _ _ ⟨start, sweeps, outcome, ended, rfl, waited, bound⟩
      obtain rfl : Except.ok () = outcome := Option.some.inj ended
      rw [pause_eq positive] at bound
      refine Work.Tells.mono m.apply_sequential fun result applying => ?_
      rintro ⟨askedMore, ends⟩
      refine ⟨⟨removing, some start, sweeps, applying⟩, ?_, ?_⟩
      · simp [Recreation.calls, Recreation.waiting]
      · exact {
          ends := by
            rintro rfl
            exact ends
          removing := asked
          once := once
          sweeps := waited.sweeps_over
          bound := bound
          started := nofun
          applying := askedMore
          clear := fun _ => waited.last_clear
          expires := by
            rintro _ ⟨⟩ s mem d ended found reached
            cases waited.late mem found reached }
    · -- The wait has failed, so nothing is applied.
      rintro f _ ⟨start, sweeps, outcome, ended, rfl, waited, bound⟩
      obtain rfl : Except.error f = outcome := Option.some.inj ended
      rw [pause_eq positive] at bound
      refine ⟨⟨removing, some start, sweeps, []⟩, ?_, ?_⟩
      · simp [Recreation.calls, Recreation.waiting]
      · exact {
          ends := nofun
          removing := asked
          once := once
          sweeps := waited.sweeps_over
          bound := bound
          started := nofun
          applying := nothing
          clear := fun some => absurd rfl some
          expires := by
            rintro _ ⟨⟩ s mem d ended found reached
            exact ⟨congrArg some (waited.late mem found reached), rfl⟩ }
    · rintro _ ⟨_, _, _, impossible, _⟩
      cases impossible
  · -- Removing has failed, so nothing is awaited.
    rintro f removing ⟨_, -, removals⟩
    have once := Removals.deletions removals
    have asked := Removals.asks removals
    simp only [List.mem_reverse] at asked
    refine ⟨⟨removing, none, [], []⟩, ?_, ?_⟩
    · simp [Recreation.calls, Recreation.waiting]
    · exact {
        ends := nofun
        removing := asked
        once := once
        sweeps := List.forall_mem_nil _
        bound := Nat.zero_le _
        started := fun _ => rfl
        applying := nothing
        clear := fun some => absurd rfl some
        expires := nofun }
  · rintro _ ⟨_, impossible, -⟩
    cases impossible

/-- **Nothing is created over an object that is still there, and the wait comes to an end.**
Whatever the cluster answers, a call of `recreate` ends. It asks for at most one deletion for each
document. Before anything is created, everything to be deleted has been, and a sweep has had the
reply for every document that there is no such object, after which documents were only applied.
The sweeps are bounded by the intervals that the timeout has room for and one more, and if one that
ends at the deadline or later has found something, then the first document it found is named and
nothing is created. -/
theorem recreate_after_absence (positive : 0 < p.interval)
    (call : (m.recreate p).Exec heard [] result es) :
    es.deletions.Sublist m.documents.reverse ∧
      (∀ before e after, es = before ++ e :: after → e.request.isCreation →
        Calls.deletions after = [] ∧ ∃ front looks later, before = front ++ looks ++ later ∧
          Absences m.documents looks ∧ Calls.Ask m.Asks later) ∧
      ∃ c : Recreation, es = c.calls ∧ c.Keeps m p result := by
  obtain ⟨c, rfl, keeps⟩ := (recreate_tells m positive).exec call
  refine ⟨?_, fun before e after same creates => keeps.creation same creates, c, rfl, keeps⟩
  rw [keeps.deletions]
  exact keeps.once

/-- A cluster in which one object takes two pauses to go. -/
def slow (before : Calls) : (r : Request) → r.Reply
  | .find d =>
    .ok (if d.name = "a" ∧ (before.countP fun e => e.request.isTiming) < 5 then some d else none)
  | .delete _ _ => .ok ()
  | r => vacant r

/-- What comes of creating two objects anew in that cluster. -/
def slowly : Option (Except Fault Unit) × Calls :=
  (pair.recreate .standard).run.run (listen slow) []

/-- The one object that is there is deleted, and after two pauses both are created. -/
theorem recreate_after_two_pauses :
    0 < Patience.standard.interval ∧
      (pair.recreate .standard).Exec heard [] slowly.1 slowly.2 ∧ slowly.1 = some (.ok ()) ∧
      slowly.2.deletions.map Document.name = ["a"] ∧
      (slowly.2.countP fun e => e.request.isCreation) = 2 ∧
      (∀ before e after, slowly.2 = before ++ e :: after → e.request.isCreation →
        Calls.deletions after = [] ∧ ∃ front looks later, before = front ++ looks ++ later ∧
          Absences pair.documents looks ∧ Calls.Ask pair.Asks later) ∧
      ∃ c : Recreation, slowly.2 = c.calls ∧ c.Keeps pair .standard slowly.1 := by
  have positive : 0 < Patience.standard.interval := by decide
  have call := Work.exec_listen slow (pair.recreate .standard)
  have succeeds : slowly.1 = some (.ok ()) := by decide +kernel
  have deleted : slowly.2.deletions.map Document.name = ["a"] := by decide +kernel
  have created : (slowly.2.countP fun e => e.request.isCreation) = 2 := by decide +kernel
  obtain ⟨-, creations, parts⟩ := recreate_after_absence positive call
  exact ⟨positive, call, succeeds, deleted, created, creations, parts⟩

end Manifest

end PhasedInstall
