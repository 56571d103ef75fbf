import Mathlib.Algebra.BigOperators.Group.Finset.Piecewise
import Mathlib.Data.Fintype.Basic
import PhasedInstall.Install.Metrics
import PhasedInstall.Proofs.Http.Faults
import PhasedInstall.Proofs.Install.Failure
import PhasedInstall.Proofs.Manifest.Visiting

/-!
# The counts count what happened

An operator reports events while it works, and the counts are made from these. Here they are
compared with the passes themselves: with the names that they were for, the resource as the cluster
has answered it, and the way they ended. None of that is taken from a report.

A pass reports each kind of event at most once, wherever it stops (`Passage.events_eq`). That is
the step; over a run of passes the counts add up (`count_reported`), and `Counted` says what they
come to.
-/

set_option autoImplicit false

namespace PhasedInstall

open Cluster

/-! ## Events and the counts that they raise -/

theorem Phase.name_injective : Function.Injective Phase.name := by
  intro p q same
  cases p <;> cases q <;> first | rfl | exact absurd same (by decide)

instance : Fintype Phase where
  elems := ⟨Phase.order, by decide⟩
  complete := by
    intro phase
    cases phase <;> decide

/-- All actions. -/
def Action.all : List Action :=
  [.markInvalid, .addFinalizer, .delete, .teardown, .markInstalled, .noOp] ++
    Phase.order.map .run

instance : Fintype Action where
  elems := ⟨Action.all, by decide⟩
  complete := by
    intro action
    cases action with
    | run phase => cases phase <;> decide
    | _ => decide

theorem Action.label_injective : Function.Injective Action.label := by
  decide +kernel

/-- A count that an event raises is raised by that event alone, and once. -/
theorem Event.count_raises (x e : Event) :
    ∀ s ∈ x.raises, e.raises.count s = if e = x then 1 else 0 := by
  cases x <;> cases e <;>
    simp [raises, Series.passes, Series.ofAction, Series.failures, List.count_cons,
      Action.label_injective.eq_iff, Phase.name_injective.eq_iff, and_comm]

namespace Metrics

variable {x : Event} {s : Series}

/-- A count has come to the number of the events that raise it. -/
theorem total_eq_count (raised : s ∈ x.raises) (events : List Event) :
    total events s = events.count x := by
  induction events with
  | nil => rfl
  | cons e rest ih =>
    rw [total, List.flatMap_cons, List.count_append, Event.count_raises x e s raised,
      List.count_cons, ← ih]
    simp [total, Nat.add_comm]

variable (events : List Event) (name : String) (action : Action) (phase : Phase)

theorem total_passes : total events (.passes name) = events.count (.started name) :=
  total_eq_count (List.mem_singleton_self _) events

theorem total_actions :
    total events (.ofAction .actions name action) = events.count (.decided name action) :=
  total_eq_count (List.mem_cons_of_mem _ List.mem_cons_self) events

theorem total_readDurations :
    total events (.ofAction .readDurations name action) = events.count (.decided name action) :=
  total_eq_count List.mem_cons_self events

theorem total_writeDurations :
    total events (.ofAction .writeDurations name action) =
      events.count (.finished name action) :=
  total_eq_count (List.mem_singleton_self _) events

theorem total_failures : total events (.failures phase) = events.count (.failed phase) :=
  total_eq_count (List.mem_singleton_self _) events

end Metrics

namespace Cluster

/-- The event that is reported. -/
def Request.event? : Request → Option Event
  | .report e => some e
  | _ => none

/-- What the resource was found to be. -/
def Call.found? : Call → Option (Option Config)
  | ⟨.readConfig _, .ok stored⟩ => some stored
  | _ => none

namespace Calls

variable {es more : Calls}

/-- The events that were reported, in order. -/
def events (es : Calls) : List Event := es.filterMap fun e => e.request.event?

/-- No answer is itself the failure of a phase. -/
def Plain (es : Calls) : Prop := ∀ e ∈ es, e.fault?.bind Fault.phase? = none

theorem events_append : events (es ++ more) = events es ++ events more := List.filterMap_append

theorem events_eq_nil (h : es.Ask fun r => r.event? = none) : events es = [] :=
  List.filterMap_eq_nil_iff.2 h

theorem Plain.phase? (h : Plain es) {e : Call} (mem : e ∈ es) {f : Fault}
    (refused : e.fault? = some f) : f.phase? = none := by
  simpa [refused] using h e mem

end Calls

end Cluster

namespace Installation

variable {i : Installation}

/-! ## What the action reports -/

/-- The phase that a pass returned the failure of. -/
def failedPhase? : Option (Except Fault Revisit) → Option Phase
  | some (.error f) => f.phase?
  | _ => none

/-- Only what is made of the outcome of a phase's work is ever reported. -/
theorem work_reportsNothing (i : Installation) (c : Config) (phase : Phase) :
    (i.work c phase).Only (·.event? = none) := by
  have visits (d : Document) (r : Request) (asks : d.Asks r) : r.event? = none := by
    cases r with
    | report e => cases asks
    | _ => rfl
  have applies : (i.applyManifest c phase).Only (·.event? = none) := by
    refine Work.Only.bind (Work.only_ofHalt _) fun m => ?_
    refine Work.Only.bind (Manifest.applyAll_only fun d _ => visits d) fun _ => ?_
    exact Manifest.applyOrRecreate_only (fun d _ => visits d) (fun _ _ => rfl) (fun _ => rfl)
      (fun _ _ => rfl) _
  exact work_only applies (fun _ _ => rfl) fun _ => rfl

/-- A phase reports its failure if and only if it returns it, recorded or not. -/
theorem runPhase_reports (i : Installation) (c : Config) (phase : Phase) :
    (i.runPhase c phase).Tells fun result es =>
      es.Plain → es.events = ((failedPhase? result).map Event.failed).toList := by
  refine (runPhase_tells i c phase).mono fun result es => ?_
  rintro ⟨own, during, after, rfl, working, concluded⟩ plain
  have silent : during.events = [] :=
    Calls.events_eq_nil ((work_reportsNothing i c phase).tells.exec working)
  rw [Calls.events_append, silent, List.nil_append]
  cases concluded with
  | unrecorded f =>
    -- The fault is the answer to the recording.
    have other : f.phase? = none := plain.phase? (List.mem_append_right _ List.mem_cons_self) rfl
    simp [failedPhase?, other, Calls.events, Request.event?]
  | _ => rfl

/-- **What an action reports** is the failure of a phase, if and only if it returns that. -/
theorem perform_reports (i : Installation) (name : String) (stored : Option Config) :
    (i.perform name (i.decide name stored) stored).Tells fun result es =>
      es.Plain → es.events = ((failedPhase? result).map Event.failed).toList := by
  by_cases phases : ∃ due, i.decide name stored = .run due
  · obtain ⟨due, runs⟩ := phases
    obtain ⟨c, rfl, -⟩ := decide_run runs
    rw [runs]
    exact runPhase_reports i c due
  · have other := not_exists.1 phases
    refine (Work.tells_exec _).mono fun result es run plain => ?_
    have asked := (perform_only i name _ stored).tells.exec run
    have relayed := (relays_perform i name other stored).exec run
    have silent : es.events = [] := by
      refine Calls.events_eq_nil (asked.mono fun r may => ?_)
      cases r with
      | report e => cases action : i.decide name stored <;> simp_all [Action.mayAsk]
      | _ => rfl
    have none : failedPhase? result = none := by
      rcases result with _ | f | _
      · rfl
      · obtain ⟨e, mem, refused⟩ := relayed f rfl
        exact plain.phase? mem refused
      · rfl
    rw [silent, none]
    rfl

/-! ## One pass -/

/-- A pass that an operator has made. -/
structure Passage (i : Installation) where
  name : String
  /-- How it ended, unless the operator has given up. -/
  result : Option (Except Fault Revisit)
  calls : Calls
  made : (i.pass name).Exec heard [] result calls

namespace Passage

variable (p : i.Passage)

/-- What the resource was found to be, if it could be read. -/
def stored? : Option (Option Config) := p.calls.findSome? Call.found?

/-- The action that the pass was for, if it got so far. -/
def action? : Option Action := p.stored?.map (i.decide p.name)

/-- The action that the pass has ended, well or not. -/
def finished? : Option Action :=
  if p.result = none then none else p.action?.filter (· ≠ .noOp)

/-- The phase that the pass has returned the failure of. -/
def failed? : Option Phase := failedPhase? p.result

/-- What the pass should report: its beginning, its action, the phase that it returns the failure
of, and the end of its action. -/
def account : List Event :=
  .started p.name :: ((p.action?.map (.decided p.name)).toList ++
    ((p.failed?.map .failed).toList ++ (p.finished?.map (.finished p.name)).toList))

/-- Whether what an event says has happened in the pass. -/
def happened : Event → Bool
  | .started name => p.name = name
  | .decided name action => p.name = name ∧ p.action? = some action
  | .finished name action => p.name = name ∧ p.finished? = some action
  | .failed phase => p.failed? = some phase

variable {p}

theorem finished?_eq_some {action : Action} :
    p.finished? = some action ↔ p.action? = some action ∧ action ≠ .noOp ∧ p.result ≠ none := by
  unfold finished?
  split <;> simp_all [Option.filter_eq_some_iff]

/-- **A pass reports what has happened**, wherever it stops. -/
theorem events_eq (plain : p.calls.Plain) : p.calls.events = p.account := by
  rcases (pass_ends i p.name).exec p.made with ⟨f, failed, same⟩ | ⟨stored, performed, same, run⟩
  · have unread : p.action? = none := by simp [action?, stored?, same, Call.found?]
    have other : f.phase? = none :=
      plain.phase? (by rw [same]; exact List.mem_cons_of_mem _ List.mem_cons_self) rfl
    simp [account, finished?, failed?, same, unread, failed, failedPhase?, other, Calls.events,
      Request.event?]
  · have found : p.stored? = some stored := by
      rw [stored?, same]
      rfl
    have action : p.action? = some (i.decide p.name stored) := by rw [action?, found]; rfl
    have reports : performed.events = (p.failed?.map Event.failed).toList := by
      refine (perform_reports i p.name stored).exec run fun e mem => plain e ?_
      rw [same]
      exact List.mem_append_right _ (List.mem_append_left _ mem)
    have ends : (i.ending p.name stored p.result).events =
        (p.finished?.map (.finished p.name)).toList := by
      rw [finished?, action, ending]
      by_cases idle : i.decide p.name stored = .noOp <;>
        by_cases gaveUp : p.result = none <;>
          simp [idle, gaveUp, closing, Option.filter_some, Calls.events, Request.event?]
    rw [account, ← ends, ← reports, same, action, Calls.events_append, Calls.events_append]
    rfl

theorem count_account (x : Event) : p.account.count x = if p.happened x then 1 else 0 := by
  rcases Option.eq_none_or_eq_some p.action? with action | ⟨_, action⟩ <;>
    rcases Option.eq_none_or_eq_some p.failed? with failed | ⟨_, failed⟩ <;>
      rcases Option.eq_none_or_eq_some p.finished? with finished | ⟨_, finished⟩ <;>
        cases x <;> simp [account, happened, action, failed, finished, List.count_cons]

end Passage

/-! ## A run of passes -/

/-- The events that some passes have reported, one pass after the other. -/
def reported (passes : List i.Passage) : List Event := passes.flatMap fun p => p.calls.events

/-- **A run reports an event as often as it has happened.** -/
theorem count_reported {passes : List i.Passage} (plain : ∀ p ∈ passes, p.calls.Plain)
    (x : Event) : (reported passes).count x = passes.countP fun p => p.happened x := by
  induction passes with
  | nil => rfl
  | cons p rest ih =>
    obtain ⟨here, there⟩ := List.forall_mem_cons.1 plain
    have later : (reported rest).count x = rest.countP fun p => p.happened x := ih there
    rw [reported, List.flatMap_cons, List.count_append, Passage.events_eq here,
      Passage.count_account, List.countP_cons, ← later]
    simp [reported, Nat.add_comm]

/-- Every pass that could read its resource has picked one action. -/
theorem sum_decided (name : String) (passes : List i.Passage) :
    ∑ action, (passes.countP fun p => p.happened (.decided name action)) =
      passes.countP fun p => p.name = name ∧ p.stored?.isSome := by
  induction passes with
  | nil => simp
  | cons p rest ih =>
    have own : ∑ action, (if p.happened (.decided name action) then 1 else 0) =
        if p.name = name ∧ p.stored?.isSome then 1 else 0 := by
      rcases Option.eq_none_or_eq_some p.stored? with stored | ⟨_, stored⟩ <;>
        by_cases same : p.name = name <;>
          simp [Passage.happened, Passage.action?, stored, same, Finset.sum_ite_eq]
    simp only [List.countP_cons, Finset.sum_add_distrib, ih, decide_eq_true_eq, own]

/-- What the counts of a run come to, in terms of its passes. -/
structure Counted (passes : List i.Passage) : Prop where
  begun : ∀ name, Metrics.total (reported passes) (.passes name) =
    passes.countP fun p => p.name = name
  /-- The actions are counted, and the time that reading took, for each pass that could read. -/
  actions : ∀ name action,
    Metrics.total (reported passes) (.ofAction .actions name action) =
        (passes.countP fun p => p.name = name ∧ p.action? = some action) ∧
      Metrics.total (reported passes) (.ofAction .readDurations name action) =
        passes.countP fun p => p.name = name ∧ p.action? = some action
  reads : ∀ name,
    ∑ action, Metrics.total (reported passes) (.ofAction .actions name action) =
        (passes.countP fun p => p.name = name ∧ p.stored?.isSome) ∧
      ∑ action, Metrics.total (reported passes) (.ofAction .readDurations name action) =
        passes.countP fun p => p.name = name ∧ p.stored?.isSome
  /-- An action that was begun has ended, unless the operator has given up. -/
  writes : ∀ name action, action ≠ .noOp →
    Metrics.total (reported passes) (.ofAction .writeDurations name action) =
      passes.countP fun p => p.name = name ∧ p.action? = some action ∧ p.result ≠ none
  idle : ∀ name, Metrics.total (reported passes) (.ofAction .writeDurations name .noOp) = 0
  failures : ∀ phase, Metrics.total (reported passes) (.failures phase) =
    passes.countP fun p => p.failed? = some phase

theorem counted {passes : List i.Passage} (plain : ∀ p ∈ passes, p.calls.Plain) :
    Counted passes := by
  have count := count_reported plain
  constructor
  case begun =>
    intro name
    rw [Metrics.total_passes, count]
    rfl
  case actions =>
    intro name action
    rw [Metrics.total_actions, Metrics.total_readDurations, count]
    exact ⟨rfl, rfl⟩
  case reads =>
    intro name
    simp only [Metrics.total_actions, Metrics.total_readDurations, count, sum_decided, and_self]
  case writes =>
    intro name action acts
    rw [Metrics.total_writeDurations, count]
    refine List.countP_congr fun p _ => ?_
    simp [Passage.happened, Passage.finished?_eq_some, acts]
  case idle =>
    intro name
    rw [Metrics.total_writeDurations, count, List.countP_eq_zero]
    simp [Passage.happened, Passage.finished?_eq_some]
  case failures =>
    intro phase
    rw [Metrics.total_failures, count]
    rfl

/-- **The counts count what happened.** After any run of passes, however they ended, the counts are
what `Counted` says, as long as no answer of the cluster is itself the failure of a phase. The
answers that the operator's own client gives never are, whatever the server responds. -/
theorem counts_of_passes :
    (∀ (i : Installation) (passes : List i.Passage), (∀ p ∈ passes, p.calls.Plain) →
        Counted passes) ∧
      ∀ (client : Http.Client) (es : Calls), (∀ e ∈ es, ∃ said,
        Program.Exec heard (client.carryOut e.request) [] (some e.reply) said) → es.Plain := by
  refine ⟨fun i passes plain => counted plain, ?_⟩
  intro client es answered e mem
  obtain ⟨said, run⟩ := answered e mem
  cases refused : e.fault? with
  | none => rfl
  | some f => exact client.carryOut_plain run refused

/-- Answers about a resource in a cluster in which nothing may be created or recorded. -/
def refusing (read : Except Fault (Option Config)) (_ : Calls) : (r : Request) → r.Reply
  | .readConfig _ => read
  | .replaceStatus _ => .error forbidden
  | .create _ => .error forbidden
  | r => vacant r

/-- A pass in that cluster. -/
def refusedPassage (i : Installation) (name : String) (read : Except Fault (Option Config)) :
    i.Passage where
  name := name
  result := ((i.pass name).run.run (listen (refusing read)) []).1
  calls := ((i.pass name).run.run (listen (refusing read)) []).2
  made := Program.exec_listen (refusing read) _

/-- The failure of a phase that could not be recorded, a resource that could not be read, and one
that there is nothing to do about. -/
def refusedPassages : List Site.sample.Passage :=
  [Site.sample.refusedPassage Operator.defaultWatchResource (.ok (some Ledger.untouched)),
    Site.sample.refusedPassage Operator.defaultWatchResource (.error forbidden),
    Site.sample.refusedPassage "other" (.ok none)]

theorem counts_of_refused_passes :
    let name := Operator.defaultWatchResource
    let total := Metrics.total (reported refusedPassages)
    let nameless : Config := { Ledger.untouched with metadata := {} }
    Counted refusedPassages ∧ total (.passes name) = 2 ∧
      total (.ofAction .actions name (.run .applyPipeline)) = 1 ∧
      total (.ofAction .writeDurations name (.run .applyPipeline)) = 1 ∧
      total (.ofAction .writeDurations "other" .noOp) = 0 ∧ total (.failures .applyPipeline) = 1 ∧
      Calls.Plain [⟨.replaceStatus nameless, .error (.userInput "Config has no name")⟩] := by
  intro name total nameless
  have plain : ∀ p ∈ refusedPassages, p.calls.Plain := by
    simp only [Calls.Plain]
    decide +kernel
  refine ⟨counts_of_passes.1 _ _ plain, by decide +kernel, by decide +kernel, by decide +kernel,
    by decide +kernel, by decide +kernel, ?_⟩
  refine counts_of_passes.2 { defaultNamespace := "default" } _ fun e mem => ?_
  obtain rfl := List.mem_singleton.1 mem
  exact ⟨[], .done _ _⟩

end Installation

end PhasedInstall
