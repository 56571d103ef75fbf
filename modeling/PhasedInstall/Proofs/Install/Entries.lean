import PhasedInstall.Proofs.Install.Conclusion
import PhasedInstall.Proofs.Install.Releases

/-!
# What a pass may write into the ledger

A pass asks for a recording at most once, and what it wants to be recorded is the resource that it
has read, with one condition more in front of the history. Nothing else about the resource is
touched: the metadata (so also the version that guards against other writers), the specification
and the older conditions are those that were read. This is a statement about the calls of one pass
under any replies at all.

From there to a run it takes a cluster in which only operators write the status. Operators may come
and go between the passes, with an identity or without. `WrittenBy` keeps the identities of those
who wrote, and nothing else is needed to say what the ledger looks like after any run: one
condition for each writer in front of the history that there was, and the identity of the last
writer who has one.
-/

set_option autoImplicit false

namespace PhasedInstall

open Cluster

theorem Config.withCondition_eq (c : Config) (x : Condition) (uuid : String) :
    c.withCondition x uuid =
      { c with status := some {
          operatorUuid := if uuid.isEmpty then c.status.bind Status.operatorUuid else some uuid
          conditions := x :: c.history } } := by
  unfold withCondition history Status.prepend
  cases c.status <;> cases uuid.isEmpty <;> rfl

/-- An action that records nothing may not ask for it. -/
theorem Action.recorded?_of_mayAsk {action : Action} {r : Request} (asks : action.mayAsk r)
    (invalid : action ≠ .markInvalid) (installed : action ≠ .markInstalled)
    (idle : ∀ phase, action ≠ .run phase) : r.recorded? = none := by
  cases r with
  | replaceStatus c => cases action <;> simp_all [mayAsk]
  | _ => rfl

namespace Installation

variable {i : Installation} {name : String} {c : Config} {action : Action} {x : Condition}

/-- A condition tells what went wrong if its code says that something did. -/
theorem Records.details (h : i.Records c action x) : x.details.isSome = x.code.isError := by
  cases h with
  | failed phase f => rfl
  | invalid => rfl
  | installed => rfl
  | passed phase => cases phase <;> exact (i.plan.isError_successCode _).symm

/-- What may be asked about the recordings of an action: none, or one of the action. -/
def RecordsOnce (i : Installation) (c : Config) (action : Action) (es : Calls) : Prop :=
  es.recordings = [] ∨
    ∃ x, i.Records c action x ∧ es.recordings = [c.withCondition x i.operator.uuid]

theorem record_recordsOnce {α : Type} (h : i.Records c action x) (a : α) :
    (do let _ ← i.record c x; return a : Work α).Tells fun _ es => i.RecordsOnce c action es :=
  Work.tells_replaceStatus_bind (fun _ => Work.tells_pure (Or.inr ⟨x, h, rfl⟩))
    fun _ => Or.inr ⟨x, h, rfl⟩

theorem runPhase_recordsOnce (i : Installation) (c : Config) (phase : Phase) :
    (i.runPhase c phase).Tells fun _ es => i.RecordsOnce c (.run phase) es := by
  refine (runPhase_tells i c phase).mono fun result es => ?_
  rintro ⟨own, during, after, rfl, worked, concluded⟩
  rw [RecordsOnce, Calls.recordings_append, work_recordings worked, List.nil_append]
  cases concluded with
  | failed f reply => exact Or.inr ⟨_, .failed phase f, rfl⟩
  | waiting => exact Or.inl rfl
  | passed stored => exact Or.inr ⟨_, .passed phase, rfl⟩
  | unrecorded f => exact Or.inr ⟨_, .passed phase, rfl⟩
  | gaveUp => exact Or.inl rfl

theorem perform_recordsOnce (i : Installation) (name : String) (action : Action)
    (stored : Option Config) :
    (i.perform name action stored).Tells fun _ es => es.recordings = [] ∨
      ∃ c, stored = some c ∧ i.RecordsOnce c action es := by
  have silent (idle : ∀ r, action.mayAsk r → r.recorded? = none) :
      (i.perform name action stored).Tells fun _ es => es.recordings = [] ∨
        ∃ c, stored = some c ∧ i.RecordsOnce c action es :=
    (perform_only i name action stored).tells.mono fun _ es asked =>
      Or.inl (Calls.recordings_eq_nil (asked.mono idle))
  have nothing : (pure .onChange : Work Revisit).Tells fun _ es => es.recordings = [] ∨
      ∃ c, (none : Option Config) = some c ∧ i.RecordsOnce c action es :=
    Work.tells_pure (Or.inl rfl)
  cases action with
  | markInvalid =>
    cases stored with
    | none => exact nothing
    | some c => exact (record_recordsOnce .invalid _).mono fun _ es once => Or.inr ⟨c, rfl, once⟩
  | markInstalled =>
    cases stored with
    | none => exact nothing
    | some c => exact (record_recordsOnce .installed _).mono fun _ es once => Or.inr ⟨c, rfl, once⟩
  | run phase =>
    cases stored with
    | none => exact nothing
    | some c =>
      exact (runPhase_recordsOnce i c phase).mono fun _ es once => Or.inr ⟨c, rfl, once⟩
  | _ => exact silent fun r asks => Action.recorded?_of_mayAsk asks nofun nofun nofun

theorem opening_recordings (i : Installation) (name : String) (stored : Option Config) :
    (i.opening name stored).recordings = [] := rfl

theorem closing_recordings {stored : Option Config} {ending : Calls}
    (h : ending <+: i.closing name stored) : ending.recordings = [] := by
  refine Calls.recordings_eq_nil ((closing_idle h).mono fun _ idle => ?_)
  exact Request.recorded?_eq_none idle.1

/-- **The recordings of a pass**: none, or one of the action that was picked for what was read. -/
theorem pass_recordsOnce (i : Installation) (name : String) :
    (i.pass name).Tells fun _ es => es.recordings = [] ∨
      ∃ c, i.opening name (some c) <+: es ∧ i.RecordsOnce c (i.decide name (some c)) es := by
  refine (pass_tells i name).mono fun _ es => ?_
  rintro (⟨f, -, rfl⟩ | ⟨stored, performed, ending, rfl, ends, run⟩)
  · exact Or.inl rfl
  have same : (i.opening name stored ++ (performed ++ ending)).recordings =
      performed.recordings := by
    rw [Calls.recordings_append, Calls.recordings_append, opening_recordings,
      closing_recordings ends, List.nil_append, List.append_nil]
  rcases (perform_recordsOnce i name _ stored).exec run with none | ⟨c, rfl, once⟩
  · exact Or.inl (same.trans none)
  · refine Or.inr ⟨c, List.prefix_append _ _, ?_⟩
    rw [RecordsOnce, same]
    exact once

end Installation

/-! ## What is left of a run -/

namespace Ledger

/-- How a resource comes about from another one while operators pass over it, whatever they are
and whatever name they are called for. The identities of those who have written are kept, the last
one first. Others may change anything but the status. -/
inductive WrittenBy : List String → Config → Config → Prop
  | start (c : Config) : WrittenBy [] c c
  | edit {writers : List String} {c₀ c c' : Config} :
      WrittenBy writers c₀ c → c'.status = c.status → WrittenBy writers c₀ c'
  | idle {writers : List String} {c₀ c c' : Config} {i : Installation} {name : String}
      {result : Option (Except Fault Revisit)} :
      WrittenBy writers c₀ c → (i.pass name).Exec Conduct c result c' → c'.status = c.status →
      WrittenBy writers c₀ c'
  | wrote {writers : List String} {c₀ c c' : Config} {i : Installation} {name : String}
      {result : Option (Except Fault Revisit)} :
      WrittenBy writers c₀ c → (i.pass name).Exec Conduct c result c' → c'.status ≠ c.status →
      WrittenBy (i.operator.uuid :: writers) c₀ c'

/-- The ledger after some operators have written: one entry for each of them in front of what there
was, and the identity of the last one who has one. -/
structure Extended (writers : List String) (c₀ c : Config) : Prop where
  history : ∃ entries, c.history = entries ++ c₀.history ∧ entries.length = writers.length ∧
    ∀ x ∈ entries, x.details.isSome = x.code.isError
  identity : c.status.bind Status.operatorUuid =
    (writers.find? (!·.isEmpty)).or (c₀.status.bind Status.operatorUuid)

namespace Extended

variable {writers : List String} {c₀ c c' : Config}

theorem congr (h : Extended writers c₀ c) (same : c'.status = c.status) :
    Extended writers c₀ c' where
  history := by rw [Config.history_congr same]; exact h.history
  identity := by rw [same]; exact h.identity

/-- Another writer puts one entry in front, and its identity if it has one. -/
theorem wrote {x : Condition} {uuid : String} (h : Extended writers c₀ c)
    (detailed : x.details.isSome = x.code.isError)
    (written : c'.status = (c.withCondition x uuid).status) :
    Extended (uuid :: writers) c₀ c' where
  history := by
    obtain ⟨entries, front, length, all⟩ := h.history
    refine ⟨x :: entries, ?_, congrArg (· + 1) length, List.forall_mem_cons.2 ⟨detailed, all⟩⟩
    rw [Config.history_congr written, Config.history_withCondition, front, List.cons_append]
  identity := by
    rw [written, Config.withCondition_eq]
    cases anonymous : uuid.isEmpty with
    | true => simpa [anonymous] using h.identity
    | false => simp [anonymous]

end Extended

theorem WrittenBy.extended {writers : List String} {c₀ c : Config} (h : WrittenBy writers c₀ c) :
    Extended writers c₀ c := by
  induction h with
  | start c => exact ⟨⟨[], rfl, rfl, List.forall_mem_nil _⟩, rfl⟩
  | edit _ same ih => exact ih.congr same
  | idle _ _ same ih => exact ih.congr same
  | @wrote writers c₀ c c' i name result _ run changed ih =>
    rcases run.ensures (Installation.pass_advances name) with same | ⟨x, recorded, written⟩
    · exact absurd same changed
    · exact ih.wrote recorded.details written

end Ledger

namespace Installation

open Ledger

/-- **A pass adds at most one entry to the ledger and changes nothing else.** Whatever it is
answered, it asks at most once that a status is stored; what it hands over is the resource that it
has read, with one condition more in front and with the identity of the operator if it has one; and
that condition has details exactly if its code is one of an error. So after any run, whoever the
operators are, the history is what it was with one entry for each writer in front, and the recorded
identity is that of the last writer who has one. -/
theorem pass_adds_one_entry :
    (∀ (i : Installation) (name : String) result (es : Calls),
      (i.pass name).Exec heard [] result es →
      es.recordings = [] ∨ ∃ c x, i.opening name (some c) <+: es ∧
        x.details.isSome = x.code.isError ∧
        es.recordings = [{ c with status := some {
          operatorUuid :=
            if i.operator.uuid.isEmpty then c.status.bind Status.operatorUuid
            else some i.operator.uuid
          conditions := x :: c.history } }]) ∧
      ∀ writers c₀ c, WrittenBy writers c₀ c →
        (∃ entries, c.history = entries ++ c₀.history ∧ entries.length = writers.length ∧
          ∀ x ∈ entries, x.details.isSome = x.code.isError) ∧
        c.status.bind Status.operatorUuid =
          (writers.find? (!·.isEmpty)).or (c₀.status.bind Status.operatorUuid) := by
  constructor
  · intro i name result es run
    rcases (pass_recordsOnce i name).exec run with none | ⟨c, opens, none | ⟨x, recorded, once⟩⟩
    · exact Or.inl none
    · exact Or.inl none
    · rw [Config.withCondition_eq] at once
      exact Or.inr ⟨c, x, opens, recorded.details, once⟩
  · intro writers c₀ c written
    exact ⟨written.extended.history, written.extended.identity⟩

/-- An operator with an identity has made a pass over an untouched resource, and then one without
any. -/
def twiceWritten : Config := afterPass (bare "v1") (afterPass signed untouched)
where
  signed : Installation :=
    { bare "v1" with operator := { (bare "v1").operator with uuid := "a" } }

theorem writtenBy_afterPass {i : Installation} {writers : List String} {c₀ c : Config}
    (h : WrittenBy writers c₀ c) (changed : (afterPass i c).status ≠ c.status) :
    WrittenBy (i.operator.uuid :: writers) c₀ (afterPass i c) :=
  .wrote h (Program.exec_run conduct_succeed (i.pass i.operator.watchResource).run c) changed

theorem writtenBy_twiceWritten : WrittenBy ["", "a"] untouched twiceWritten := by
  have first : WrittenBy ["a"] untouched (afterPass twiceWritten.signed untouched) :=
    writtenBy_afterPass (i := twiceWritten.signed) (.start untouched) (by decide +kernel)
  exact writtenBy_afterPass (i := bare "v1") first (by decide +kernel)

/-- The pass that completes an installation asks for one recording, and the two passes of the
operators leave two entries and the identity of the one who has one. -/
theorem two_writers_add_two_entries :
    let es : Calls := (((bare "v1").pass Operator.defaultWatchResource).run.run
      (listen (about twiceWritten)) []).2
    es.recordings.length = 1 ∧
      (es.recordings = [] ∨ ∃ c x,
        (bare "v1").opening Operator.defaultWatchResource (some c) <+: es ∧
          x.details.isSome = x.code.isError ∧
          es.recordings = [{ c with status := some {
            operatorUuid := c.status.bind Status.operatorUuid
            conditions := x :: c.history } }]) ∧
      WrittenBy ["", "a"] untouched twiceWritten ∧
      (∃ entries, twiceWritten.history = entries ++ untouched.history ∧ entries.length = 2 ∧
        ∀ x ∈ entries, x.details.isSome = x.code.isError) ∧
      twiceWritten.status.bind Status.operatorUuid = some "a" := by
  intro es
  have run := Work.exec_listen (about twiceWritten)
    ((bare "v1").pass Operator.defaultWatchResource)
  obtain ⟨history, identity⟩ := pass_adds_one_entry.2 _ _ _ writtenBy_twiceWritten
  exact ⟨by decide +kernel, pass_adds_one_entry.1 _ _ _ _ run, writtenBy_twiceWritten, history,
    identity⟩

end Installation

end PhasedInstall
