import Mathlib.Logic.Relation
import PhasedInstall.Proofs.Install.Restoration
import PhasedInstall.Proofs.Manifest.Recreation

/-!
# The finalizer guards the installation

Nothing is written to the objects of a cluster unless the watched resource holds the operator's
finalizer, and the finalizer is only given up after everything has been removed. These are
statements about the calls of one pass under any replies at all.

A pass is an opening, in which the resource is read and an action is picked, and then that action.
What an action may ask is a small table (`Action.mayAsk`), so most of what is to be said follows
from which action is picked for which resource. Only the order of calls inside a deletion needs
more: the finalizer is the last thing that a deletion asks about, and it is not reached unless each
of the four groups was removed (`Removals`).
-/

set_option autoImplicit false

namespace PhasedInstall

open Cluster

/-- What an action may ask. A phase may ask anything but to give up the finalizer. -/
def Action.mayAsk : Action → Request → Bool
  | .markInvalid, .replaceStatus _ => true
  | .markInstalled, .replaceStatus _ => true
  | .addFinalizer, .addFinalizer _ => true
  | .delete, .find _ => true
  | .delete, .delete _ _ => true
  | .delete, .removeFinalizer _ => true
  | .teardown, .find _ => true
  | .teardown, .delete _ _ => true
  | .run _, r => !r.isRelease
  | _, _ => false

/-! ## Removing one group after the other -/

theorem Manifest.removeAll_settled (policy : DeletePolicy) (ds : List Document) :
    (removeAll policy ds).Tells fun result es => result = some (.ok ()) → ∀ e ∈ es, e.Settled := by
  refine (removeAll_removals policy ds).mono fun result es removals ok => ?_
  obtain ⟨outcome, rfl, removals⟩ := removals
  cases ok
  exact removals.ends

namespace Installation

variable {i : Installation} {c : Config} {name ns : String} {stored : Option Config}

/-- The calls by which the groups of some phases were removed, each of them with success. -/
inductive Removals (i : Installation) (ns : String) : List Phase → Calls → Prop
  | nil : Removals i ns [] []
  | cons {phase : Phase} {rest : List Phase} {m : Manifest} {es more : Calls} :
      (i.bundle.forPhase phase).forRemoval phase ns = .ok m →
      (m.remove .foreground).Exec heard [] (some (.ok ())) es →
      Removals i ns rest more → Removals i ns (phase :: rest) (es ++ more)

theorem Removals.settled {phases : List Phase} {es : Calls} (h : i.Removals ns phases es) :
    ∀ e ∈ es, e.Settled := by
  induction h with
  | nil => exact List.forall_mem_nil _
  | cons _ removed _ ih =>
    exact List.forall_mem_append.2 ⟨(Manifest.removeAll_settled _ _).exec removed rfl, ih⟩

theorem removePhases_removals (i : Installation) (ns : String) (phases : List Phase) :
    (i.removePhases ns phases).Tells fun result es =>
      result = some (.ok ()) → i.Removals ns phases es := by
  induction phases with
  | nil => exact Work.tells_pure fun _ => .nil
  | cons phase rest ih =>
    refine Work.tells_ofHalt_bind (fun m found => ?_) (fun _ => nofun) nofun
    refine Work.Tells.bind (Work.tells_exec (m.remove .foreground)) ?_ (fun f es _ => nofun)
      fun es _ => nofun
    intro _ es removed
    exact ih.mono fun result more others ok => .cons found removed (others ok)

/-! ## What an action asks -/

theorem runPhase_only (i : Installation) (c : Config) (phase : Phase) :
    (i.runPhase c phase).Only (·.isRelease = false) := by
  have applies (phase : Phase) : (i.applyPhase c phase).Only (·.isRelease = false) := by
    refine Work.Only.bind (Work.Only.outcome ?_) fun applied => ?_
    · refine Work.Only.mono (applyManifest_leavesConfig i c phase) fun r leaves => ?_
      cases r with
      | removeFinalizer _ => cases leaves
      | _ => rfl
    · cases applied with
      | error f => exact fail_only (fun _ => rfl) (fun _ => rfl) phase f
      | ok _ => exact (record_only (fun _ => rfl) _).andReturn _
  have validates (phase : Phase) (component : Component) :
      (i.validatePhase c phase component).Only (·.isRelease = false) :=
    validatePhase_only (fun _ => rfl) (fun _ => rfl) (fun _ _ => rfl) (fun _ => rfl) phase component
  cases phase with
  | validatePipeline => exact validates _ _
  | validateTriggers => exact validates _ _
  | _ => exact applies _

/-- **An action asks what it may ask.** -/
theorem perform_only (i : Installation) (name : String) (action : Action)
    (stored : Option Config) : (i.perform name action stored).Only (action.mayAsk ·) := by
  have removes {action : Action} (find : ∀ d, action.mayAsk (.find d))
      (delete : ∀ d, action.mayAsk (.delete d .foreground)) (ns : String) :
      (i.teardown ns).Only (action.mayAsk ·) := removePhases_only find delete i ns removalOrder
  cases action with
  | addFinalizer =>
    have asks : (Work.addFinalizer name).Only (Action.addFinalizer.mayAsk ·) :=
      ⟨rfl, fun _ => trivial⟩
    exact asks.andReturn _
  | teardown =>
    exact Work.Only.bind (removes (fun _ => rfl) (fun _ => rfl) _) fun _ => Work.only_pure _
  | noOp => exact Work.only_pure _
  | markInvalid =>
    cases stored with
    | none => exact Work.only_pure _
    | some c => exact (record_only (fun _ => rfl) _).andReturn _
  | markInstalled =>
    cases stored with
    | none => exact Work.only_pure _
    | some c => exact (record_only (fun _ => rfl) _).andReturn _
  | delete =>
    cases stored with
    | none => exact Work.only_pure _
    | some c =>
      exact Work.Only.bind (removes (fun _ => rfl) (fun _ => rfl) _) fun _ =>
        Work.Only.bind ⟨rfl, fun _ => trivial⟩ fun _ => Work.only_pure _
  | run phase =>
    cases stored with
    | none => exact Work.only_pure _
    | some c =>
      refine Work.Only.mono (runPhase_only i c phase) fun r kept => ?_
      simpa [Action.mayAsk] using kept

/-! ## Which action is picked -/

/-- The resource is the watched one, it is live, and the operator holds it. -/
def Held (i : Installation) (name : String) (c : Config) : Prop :=
  name = i.operator.watchResource ∧ c.isBeingDeleted = false ∧ c.hasFinalizer = true

/-- The resource is the watched one, it is to be deleted, and the operator holds it. -/
def Leaving (i : Installation) (name : String) (c : Config) : Prop :=
  name = i.operator.watchResource ∧ c.isBeingDeleted = true ∧ c.hasFinalizer = true

/-- About a resource with another name the operator does nothing, or says so once. -/
theorem decide_other (other : name ≠ i.operator.watchResource) (stored : Option Config) :
    i.decide name stored = .noOp ∨ i.decide name stored = .markInvalid ∧
      ∃ c, stored = some c ∧ c.installStatus ≠ .invalidResource := by
  unfold decide Operator.decide
  cases stored with
  | none => simp [other]
  | some c =>
    by_cases marked : c.installStatus = .invalidResource
    · simp [other, marked]
    · simp [other, marked]

/-- Phases and deletions are for a watched resource that the operator holds. -/
theorem decide_held (acts : i.decide name stored = .delete ∨
      ∃ phase, i.decide name stored = .run phase) :
    ∃ c, stored = some c ∧ name = i.operator.watchResource ∧ c.hasFinalizer = true ∧
      (i.decide name stored = .delete ↔ c.isBeingDeleted = true) := by
  by_cases watched : name = i.operator.watchResource
  · subst watched
    cases stored with
    | none => simp [decide, Operator.decide] at acts
    | some c =>
      rw [decide, Operator.decide_watched] at acts ⊢
      refine ⟨c, rfl, rfl, ?_⟩
      by_cases held : c.hasFinalizer
      · refine ⟨held, ?_⟩
        by_cases leaving : c.isBeingDeleted
        · simp [leaving, held]
        · rcases i.operator.nextAction_cases i.plan c with next | next | ⟨phase, next⟩ <;>
            simp [leaving, held, next]
      · by_cases leaving : c.isBeingDeleted <;> simp [leaving, held] at acts
  · rcases decide_other watched stored with nothing | ⟨marks, -⟩
    · simp [nothing] at acts
    · simp [marks] at acts

theorem decide_run {phase : Phase} (h : i.decide name stored = .run phase) :
    ∃ c, stored = some c ∧ i.Held name c := by
  obtain ⟨c, rfl, watched, held, deletes⟩ := decide_held (Or.inr ⟨phase, h⟩)
  refine ⟨c, rfl, watched, ?_, held⟩
  rw [h] at deletes
  simpa using deletes

theorem decide_delete (h : i.decide name stored = .delete) :
    ∃ c, stored = some c ∧ i.Leaving name c := by
  obtain ⟨c, rfl, watched, held, deletes⟩ := decide_held (Or.inl h)
  exact ⟨c, rfl, watched, deletes.1 h, held⟩

/-! ## The calls of a pass -/

/-- The calls with which a pass begins. -/
def opening (i : Installation) (name : String) (stored : Option Config) : Calls :=
  [⟨.report (.started name), ()⟩, ⟨.readConfig name, .ok stored⟩,
    ⟨.report (.decided name (i.decide name stored)), ()⟩]

def closing (i : Installation) (name : String) (stored : Option Config) : Calls :=
  [⟨.report (.finished name (i.decide name stored)), ()⟩]

/-- What is reported after the action: that it has ended, unless there was none or it gave up. -/
def ending (i : Installation) (name : String) (stored : Option Config)
    (result : Option (Except Fault Revisit)) : Calls :=
  if i.decide name stored = .noOp ∨ result = none then [] else i.closing name stored

theorem ending_isPrefix (i : Installation) (name : String) (stored : Option Config)
    (result : Option (Except Fault Revisit)) :
    i.ending name stored result <+: i.closing name stored := by
  unfold ending
  split
  · exact List.nil_prefix
  · exact List.prefix_refl _

/-- **What a pass consists of**: an opening, its action and a report. It ends as the action does. If
the resource cannot be read there is nothing but the attempt. -/
theorem pass_ends (i : Installation) (name : String) :
    (i.pass name).Tells fun result es =>
      (∃ f, result = some (.error f) ∧
          es = [⟨.report (.started name), ()⟩, ⟨.readConfig name, .error f⟩]) ∨
        ∃ stored performed,
          es = i.opening name stored ++ (performed ++ i.ending name stored result) ∧
            (i.perform name (i.decide name stored) stored).Exec heard [] result performed := by
  refine Work.tells_report_bind (Program.tells_ask fun reply => ?_)
  rcases reply with f | stored
  · exact Program.tells_done (Or.inl ⟨f, rfl, rfl⟩)
  · refine Work.tells_report_bind ?_
    -- Without an action there is no report at the end either.
    by_cases nothing : i.decide name stored = .noOp
    · simp only [nothing, if_true]
      refine Work.tells_pure (Or.inr ⟨stored, [], ?_, ?_⟩)
      · simp [opening, ending, nothing]
      · rw [nothing]
        exact .done _ _
    · simp only [nothing, if_false]
      refine Work.Tells.outcome_bind (Work.tells_exec _) ?_ ?_
      -- The outcome of the action is caught, so the report follows also if it failed.
      · intro result es performed
        refine Work.tells_report_bind ?_
        have ends : (Work.ofExcept result).Tells fun again more =>
            again = some result ∧ more = [] := by
          cases result with
          | ok revisit => exact Work.tells_pure ⟨rfl, rfl⟩
          | error f => exact Work.tells_throw ⟨rfl, rfl⟩
        refine ends.mono fun again more none => Or.inr ⟨stored, es, ?_, ?_⟩
        · rw [none.1, none.2]
          simp [opening, ending, closing, nothing]
        · rw [none.1]
          exact performed
      · intro es performed
        refine Or.inr ⟨stored, es, ?_, performed⟩
        simp [opening, ending]

/-- The report at the end, where nothing depends on whether there is one. -/
theorem pass_tells (i : Installation) (name : String) :
    (i.pass name).Tells fun result es =>
      (∃ f, result = some (.error f) ∧
          es = [⟨.report (.started name), ()⟩, ⟨.readConfig name, .error f⟩]) ∨
        ∃ stored performed ending,
          es = i.opening name stored ++ (performed ++ ending) ∧
            ending <+: i.closing name stored ∧
            (i.perform name (i.decide name stored) stored).Exec heard [] result performed := by
  refine (pass_ends i name).mono fun result es => Or.imp_right ?_
  rintro ⟨stored, performed, rfl, run⟩
  exact ⟨stored, performed, _, rfl, ending_isPrefix i name stored result, run⟩

/-- A deletion asks for the end of the finalizer last, and not before everything is removed. -/
theorem deletion_tells (i : Installation) (name : String) (c : Config) :
    (i.perform name .delete (some c)).Tells fun _ es =>
      (∃ removal reply, es = removal ++ [⟨.removeFinalizer name, reply⟩] ∧
        removal.Ask (·.isRelease = false) ∧
          i.Removals c.spec.targetNamespace removalOrder removal) ∨
        es.Ask (·.isRelease = false) := by
  have asks := Work.Only.tells (removePhases_only (P := (·.isRelease = false)) (fun _ => rfl)
    (fun _ => rfl) i c.spec.targetNamespace removalOrder)
  refine Work.Tells.bind (Work.tells_exec (i.teardown c.spec.targetNamespace)) ?_ ?_ ?_
  · intro _ removal run
    refine Program.tells_ask fun reply => ?_
    have removed := (removePhases_removals i c.spec.targetNamespace removalOrder).exec run rfl
    rcases reply with f | _
    · exact Program.tells_done (Or.inl ⟨removal, _, rfl, asks.exec run, removed⟩)
    · exact Program.tells_done (Or.inl ⟨removal, _, rfl, asks.exec run, removed⟩)
  · exact fun f es run => Or.inr (asks.exec run)
  · exact fun es run => Or.inr (asks.exec run)

/-- Every group was removed, for a resource that is to be deleted and that the operator holds. -/
def TornDown (i : Installation) (name : String) (before : Calls) : Prop :=
  ∃ c removal, i.Leaving name c ∧ before = i.opening name (some c) ++ removal ∧
    i.Removals c.spec.targetNamespace removalOrder removal

/-- The rules of a pass about the finalizer. -/
structure Guarded (i : Installation) (name : String) (es : Calls) : Prop where
  /-- Objects are created and updated for a resource only that was read as live and held. -/
  written : ∀ e ∈ es, e.request.isCreation ∨ e.request.isUpdate →
    ∃ c rest, i.Held name c ∧ es = i.opening name (some c) ++ rest
  /-- No object is touched for a resource with another name. -/
  untouched : name ≠ i.operator.watchResource → ∀ e ∈ es, e.request.isObjectCall = false
  /-- The finalizer is given up after all groups have been removed. -/
  released : ∀ before n reply after, es = before ++ ⟨.removeFinalizer n, reply⟩ :: after →
    n = name ∧ i.TornDown name before
  /-- It is not given up if a call about an object has failed. -/
  failed : (∃ e ∈ es, e.request.isObjectCall ∧ ¬ e.Settled) → es.Ask (·.isRelease = false)

end Installation

namespace Action

variable {action : Action} {r : Request}

theorem run_of_mayAsk (asks : action.mayAsk r) (writes : r.isCreation ∨ r.isUpdate) :
    ∃ phase, action = .run phase := by
  cases action with
  | run phase => exact ⟨phase, rfl⟩
  | _ => cases r <;> simp [mayAsk, Request.isCreation, Request.isUpdate] at asks writes

theorem delete_of_mayAsk (asks : action.mayAsk r) (releases : r.isRelease = true) :
    action = .delete := by
  cases r with
  | removeFinalizer name => cases action <;> simp_all [mayAsk]
  | _ => cases releases

end Action

namespace Installation

def Framing (r : Request) : Prop := r.isObjectCall = false ∧ r.isRelease = false

theorem opening_framing (i : Installation) (name : String) (stored : Option Config) :
    (i.opening name stored).Ask Framing := by
  simp [opening, Calls.Ask, Framing, Request.isObjectCall, Request.isRelease]

theorem closing_framing {i : Installation} {name : String} {stored : Option Config}
    {ending : Calls} (h : ending <+: i.closing name stored) : ending.Ask Framing := by
  intro e mem
  obtain rfl := List.mem_singleton.1 (h.subset mem)
  exact ⟨rfl, rfl⟩

theorem isObjectCall_of_write {r : Request} (writes : r.isCreation ∨ r.isUpdate) :
    r.isObjectCall = true := by
  cases r <;> simp_all [Request.isCreation, Request.isUpdate, Request.isObjectCall]

/-- Whatever a pass asks about objects and the finalizer, the action may ask that was picked for
what was read. -/
theorem pass_asks (i : Installation) (name : String) :
    (i.pass name).Tells fun _ es => ∀ e ∈ es, Framing e.request ∨
      ∃ stored rest, es = i.opening name stored ++ rest ∧
        (i.decide name stored).mayAsk e.request = true := by
  refine (pass_tells i name).mono fun _ es => ?_
  rintro (⟨f, -, rfl⟩ | ⟨stored, performed, ending, rfl, ends, run⟩) e mem
  · left
    rcases List.mem_pair.1 mem with rfl | rfl
    · exact ⟨rfl, rfl⟩
    · exact ⟨rfl, rfl⟩
  · rcases List.mem_append.1 mem with first | later
    · exact Or.inl (opening_framing i name stored e first)
    · rcases List.mem_append.1 later with acting | last
      · have asked := (perform_only i name _ stored).tells.exec run e acting
        exact Or.inr ⟨stored, _, rfl, asked⟩
      · exact Or.inl (closing_framing ends e last)

/-- A pass that gives up the finalizer has removed every group before, and touches nothing
afterwards. -/
theorem pass_releases (i : Installation) (name : String) :
    (i.pass name).Tells fun _ es => es.Ask (·.isRelease = false) ∨
      ∃ reply, ∃ before after : Calls, es = before ++ ⟨.removeFinalizer name, reply⟩ :: after ∧
        before.Ask (·.isRelease = false) ∧ after.Ask Framing ∧ i.TornDown name before := by
  refine (pass_tells i name).mono fun _ es => ?_
  rintro (⟨f, -, rfl⟩ | ⟨stored, performed, ending, rfl, ends, run⟩)
  · left
    simp [Calls.Ask, Request.isRelease]
  have opens : (i.opening name stored).Ask (·.isRelease = false) :=
    (opening_framing i name stored).mono fun _ framing => framing.2
  have closes : ending.Ask Framing := closing_framing ends
  have unreleased (kept : performed.Ask (·.isRelease = false)) :
      (i.opening name stored ++ (performed ++ ending)).Ask (·.isRelease = false) :=
    opens.append (kept.append (closes.mono fun _ framing => framing.2))
  by_cases deletes : i.decide name stored = .delete
  · obtain ⟨c, rfl, leaving⟩ := decide_delete deletes
    rw [deletes] at run
    rcases (deletion_tells i name c).exec run with ⟨removal, reply, rfl, kept, removed⟩ | kept
    · right
      exact ⟨reply, i.opening name (some c) ++ removal, ending, by simp, opens.append kept, closes,
        c, removal, leaving, rfl, removed⟩
    · exact Or.inl (unreleased kept)
  · refine Or.inl (unreleased fun e mem => ?_)
    have asked := (perform_only i name _ stored).tells.exec run e mem
    by_contra releases
    rw [Bool.not_eq_false] at releases
    exact deletes (Action.delete_of_mayAsk asked releases)

theorem TornDown.settled {i : Installation} {name : String} {before : Calls}
    (h : i.TornDown name before) {e : Call} (mem : e ∈ before)
    (concerns : e.request.isObjectCall = true) : e.Settled := by
  obtain ⟨c, removal, -, rfl, removed⟩ := h
  rcases List.mem_append.1 mem with opens | removing
  · cases concerns.symm.trans (opening_framing i name (some c) e opens).1
  · exact removed.settled e removing

theorem pass_guarded (i : Installation) (name : String) :
    (i.pass name).Tells fun _ es => i.Guarded name es := by
  refine (Work.tells_exec (i.pass name)).mono fun _ es run => ?_
  have asks := (pass_asks i name).exec run
  have releases := (pass_releases i name).exec run
  constructor
  case written =>
    intro e mem writes
    rcases asks e mem with framing | ⟨stored, rest, rfl, may⟩
    · cases (isObjectCall_of_write writes).symm.trans framing.1
    · obtain ⟨phase, runs⟩ := Action.run_of_mayAsk may writes
      obtain ⟨c, rfl, held⟩ := decide_run runs
      exact ⟨c, rest, held, rfl⟩
  case untouched =>
    intro other e mem
    rcases asks e mem with framing | ⟨stored, rest, rfl, may⟩
    · exact framing.1
    · rcases decide_other other stored with nothing | ⟨marks, -⟩
      · rw [nothing] at may
        cases may
      · rw [marks] at may
        cases r : e.request <;> simp_all [Action.mayAsk, Request.isObjectCall]
  case released =>
    intro before n reply after same
    rcases releases with kept | ⟨reply', front, rest, rfl, kept, closes, torn⟩
    · cases kept ⟨.removeFinalizer n, reply⟩ (by simp [same])
    · -- There is one release only, so it is this one.
      have ends := closes.mono (Q := (·.isRelease = false)) fun _ framing => framing.2
      obtain ⟨rfl, release, rfl⟩ := kept.place_unique ends (by simp [Request.isRelease]) same
      cases release
      exact ⟨rfl, torn⟩
  case failed =>
    rintro ⟨e, mem, concerns, failed⟩
    rcases releases with kept | ⟨reply, front, rest, rfl, -, closes, torn⟩
    · exact kept
    · rcases List.mem_append.1 mem with earlier | later
      · exact absurd (torn.settled earlier concerns) failed
      · rcases List.mem_cons.1 later with rfl | last
        · cases concerns
        · cases concerns.symm.trans (closes e last).1

end Installation

/-! ## Passes for another name -/

/-- How a cluster may answer about a resource, there or not, that only the operator writes. What
becomes of writes that are no recordings is left open. -/
def Ledger.Possible : PhasedInstall.Conduct Cluster.interface (Option Config)
  | .readConfig _, c, reply, c' => c' = c ∧ ∀ found, reply = .ok found → found = c
  | .replaceStatus w, c, reply, c' =>
    c' = c.map (fun live => { live with status := w.status }) ∨ c' = c ∧ ∃ f, reply = .error f
  | .createConfig _, _, _, _ => True
  | .addFinalizer _, _, _, _ => True
  | .removeFinalizer _, _, _, _ => True
  | _, c, _, c' => c' = c

namespace Installation

variable {i : Installation} {name : String} {c c' : Option Config}

def Visits (i : Installation) (name : String) (c c' : Option Config) : Prop :=
  ∃ result, (i.pass name).Exec Ledger.Possible c result c'

/-- It is recorded in front of the history that the name is not the watched one. -/
def MarkedInvalid (i : Installation) (c c' : Option Config) : Prop :=
  ∃ live, c = some live ∧ live.installStatus ≠ .invalidResource ∧
    c' = some (live.withCondition i.invalidName i.operator.uuid)

theorem Visits.marks (other : name ≠ i.operator.watchResource) (visit : i.Visits name c c') :
    c' = c ∨ i.MarkedInvalid c c' := by
  obtain ⟨result, run⟩ := visit
  suffices ends : (i.pass name).Ensures Ledger.Possible c fun _ c' =>
      c' = c ∨ i.MarkedInvalid c c' from run.ensures ends
  refine pass_ensures_of_perform c ?_ ?_ (fun _ => Or.inl rfl) (fun _ => Or.inl rfl) ?_
  · exact fun _ _ _ step => step
  · exact fun _ _ step => step
  · rcases decide_other other c with nothing | ⟨marks, live, rfl, fresh⟩
    · rw [nothing]
      exact Or.inl rfl
    · rw [marks]
      intro reply c₁ step
      have ends : c₁ = some live ∨ i.MarkedInvalid (some live) c₁ := by
        rcases step with rfl | ⟨rfl, -⟩
        · exact Or.inr ⟨live, rfl, fresh, rfl⟩
        · exact Or.inl rfl
      cases reply <;> exact ends

/-- However many passes there are, they record at most once that the name is wrong. -/
theorem marks_once (other : name ≠ i.operator.watchResource)
    (run : Relation.ReflTransGen (i.Visits name) c c') : c' = c ∨ i.MarkedInvalid c c' := by
  induction run with
  | refl => exact Or.inl rfl
  | tail _ visit ih =>
    rcases ih with rfl | ⟨live, rfl, fresh, rfl⟩
    · exact visit.marks other
    · rcases visit.marks other with rfl | ⟨again, same, marked, -⟩
      · exact Or.inr ⟨live, rfl, fresh, rfl⟩
      · -- The head of the history says already that the name is invalid.
        cases same
        rw [Config.installStatus_eq, Config.history_withCondition] at marked
        exact absurd rfl marked

/-! ## The finalizer of a resource -/

/-- Where only a release ends what is held, it is held as long as no release is asked for. -/
theorem held_of_unreleased {α σ : Type} {R : PhasedInstall.Conduct Cluster.interface σ}
    {held : σ → Prop}
    (only : ∀ r s reply s', r.isRelease = false → R r s reply s' → held s → held s') {w : Work α}
    {s s' : σ} {result : Option (Except Fault α)} {es : Calls}
    (run : w.Exec R.recorded (s, []) result (s', es)) (kept : es.Ask (·.isRelease = false))
    (before : held s) : held s' := by
  -- Induction over the calls: a release anywhere makes the invariant hold for no reason.
  let inv (t : σ × Calls) : Prop := Calls.Ask (·.isRelease = false) t.2 → held t.1
  have step : ∀ r t reply t', R.recorded r t reply t' → inv t → inv t' := by
    rintro r ⟨t, es⟩ reply ⟨t', es'⟩ ⟨answered, rfl⟩ ih kept
    obtain ⟨earlier, last⟩ := List.forall_mem_append.1 kept
    have keeps : r.isRelease = false := last ⟨r, reply⟩ List.mem_cons_self
    exact only r t reply t' keeps answered (ih earlier)
  have ends : w.Ensures R.recorded (s, []) fun _ t => inv t :=
    Program.ensures_of_step step w.run fun _ => before
  exact run.ensures ends kept

/-- **The finalizer guards the installation.** Whatever a pass is answered, it keeps the rules in
`Guarded`. However many passes there are for a name that is not watched, they record that at most
once, and nothing else. And where only a release takes the finalizer from a resource, the resource
still has it after a pass, unless the pass has removed all groups with success and then asked for
the release. -/
theorem finalizer_guards (i : Installation) (name : String) :
    (∀ result es, (i.pass name).Exec heard [] result es → i.Guarded name es) ∧
      (name ≠ i.operator.watchResource → ∀ c c', Relation.ReflTransGen (i.Visits name) c c' →
        c' = c ∨ ∃ live, c = some live ∧ live.installStatus ≠ .invalidResource ∧
          c' = some (live.withCondition i.invalidName i.operator.uuid)) ∧
      ∀ (σ : Type) (R : PhasedInstall.Conduct Cluster.interface σ) (held : σ → Prop),
        (∀ r s reply s', r.isRelease = false → R r s reply s' → held s → held s') →
        ∀ s s' result (es : Calls), (i.pass name).Exec R.recorded (s, []) result (s', es) →
          held s → held s' ∨ ∃ before reply after,
            es = before ++ ⟨.removeFinalizer name, reply⟩ :: after ∧ i.TornDown name before := by
  refine ⟨fun result es run => (pass_guarded i name).exec run, ?_, ?_⟩
  · intro other c c' run
    exact marks_once other run
  · intro σ R held only s s' result es run before
    have guarded : i.Guarded name es := (pass_guarded i name).recorded run
    by_cases kept : es.Ask (·.isRelease = false)
    · exact Or.inl (held_of_unreleased only run kept before)
    · right
      simp only [Calls.Ask, not_forall, Bool.not_eq_false] at kept
      obtain ⟨⟨r, reply⟩, mem, releases⟩ := kept
      obtain ⟨front, after, rfl⟩ := List.append_of_mem mem
      cases r with
      | removeFinalizer n =>
        obtain ⟨rfl, torn⟩ := guarded.released front n reply after rfl
        exact ⟨front, reply, after, rfl, torn⟩
      | _ => cases releases

/-- Answers about a resource in a cluster in which there is nothing else. -/
def about (c : Config) (_ : Calls) : (r : Request) → r.Reply
  | .readConfig _ => .ok (some c)
  | .removeFinalizer _ => .ok ()
  | r => vacant r

def callsAbout (c : Config) : Calls :=
  ((Site.sample.pass Site.sample.operator.watchResource).run.run (listen (about c)) []).2

theorem exec_about (c : Config) :
    ∃ result, (Site.sample.pass Site.sample.operator.watchResource).Exec heard [] result
      (callsAbout c) :=
  ⟨_, Program.exec_listen (about c) _⟩

/-- A pass that creates two objects, and one that gives up the finalizer after three lookups. -/
theorem finalizer_guards_sample :
    let name := Site.sample.operator.watchResource
    let live := Ledger.untouched
    let leaving := (Site.requestDeletion ⟨live, Site.occupied.objects⟩).config
    ((callsAbout live).filter fun e => e.request.isCreation).length = 2 ∧
      (callsAbout leaving).map (fun e => (e.request.isObjectCall, e.request.isRelease)) =
        [(false, false), (false, false), (false, false), (true, false), (true, false),
          (true, false), (false, true), (false, false)] ∧
      Site.sample.Guarded name (callsAbout live) ∧
      Site.sample.Guarded name (callsAbout leaving) := by
  intro name live leaving
  obtain ⟨created, creating⟩ := exec_about live
  obtain ⟨left, releasing⟩ := exec_about leaving
  refine ⟨by decide +kernel, by decide +kernel, ?_, ?_⟩
  · exact (finalizer_guards Site.sample name).1 created _ creating
  · exact (finalizer_guards Site.sample name).1 left _ releasing

end Installation

end PhasedInstall
