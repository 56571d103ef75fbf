import PhasedInstall.Proofs.Install.Failure
import PhasedInstall.Proofs.Install.Takeover

/-!
# An installation settles

If everything that a pass asks goes well, the pass brings the resource one step closer to a complete
installation, whatever is recorded: codes of another operator or of another release, a history that
ends anywhere, or none. `passesLeft` counts the steps. One is needed for the finalizer, and one for
each phase from the one that is due to the end of the plan; that makes at most seven. Where no step
is left the installation is complete for this operator, and passes do nothing but read.

The other way round, a pass only ever waits for the next change where nothing is left to be done.
That needs no luck: it holds whatever the pass is answered.
-/

set_option autoImplicit false

namespace PhasedInstall

open Cluster

/-! ## How many steps are left -/

namespace Plan

variable {plan : Plan} {phase : Phase} {past future : List Phase}

/-- The planned phases from a phase to the end. -/
def ahead (plan : Plan) (phase : Phase) : List Phase := plan.phases.dropWhile (· ≠ phase)

theorem phases_nodup (plan : Plan) : plan.phases.Nodup := by
  obtain ⟨_ | _, _ | _⟩ := plan <;> decide

theorem length_ahead_le (plan : Plan) (phase : Phase) : (plan.ahead phase).length ≤ 6 :=
  calc (plan.ahead phase).length
    _ ≤ plan.phases.length := (List.dropWhile_sublist _).length_le
    _ ≤ Phase.order.length := List.length_filter_le _ _

theorem ahead_eq (h : plan.phases = past ++ phase :: future) :
    plan.ahead phase = phase :: future := by
  have distinct := plan.phases_nodup
  rw [h] at distinct
  have others : ∀ p ∈ past, p ≠ phase := by
    rintro p mem rfl
    exact List.disjoint_of_nodup_append distinct mem (List.mem_cons_self ..)
  rw [ahead, h, List.dropWhile_append_of_pos (by simpa using others)]
  simp

theorem mem_of_resolve {asked : Phase} (h : plan.resolve asked = some phase) :
    phase ∈ plan.phases := by
  unfold resolve at h
  refine List.mem_filter.2 ⟨?_, List.find?_some h⟩
  exact (List.dropWhile_sublist _).subset (List.mem_of_find?_eq_some h)

end Plan

/-- How many passes an action is worth, counting those that follow from it. -/
def Action.passes (plan : Plan) : Action → Nat
  | .run phase => (plan.ahead phase).length
  | .markInstalled => 1
  | _ => 0

theorem Config.isUpToDate_congr {c c' : Config} {version uuid : String}
    (same : c'.status = c.status) : c'.isUpToDate version uuid = c.isUpToDate version uuid := by
  have newest : c'.current? = c.current? := by rw [current?, same, current?]
  simp only [isUpToDate, hasInstalledVersion, newest, operatorUuid_congr same]

namespace Operator

variable {o : Operator} {plan : Plan} {c : Config}

theorem mem_of_nextAction {phase : Phase} (h : o.nextAction plan c = .run phase) :
    phase ∈ plan.phases := by
  unfold nextAction at h
  dsimp only at h
  split at h
  · split at h
    · cases h
      exact Plan.mem_of_resolve ‹_›
    · cases h
  · split at h
    · cases h
    · rw [plan.resolve_applyPipeline] at h
      cases h
      exact Plan.mem_of_resolve plan.resolve_applyPipeline

/-- Nothing is left to be done only for a complete installation by this operator. -/
theorem isUpToDate_of_nextAction (h : o.nextAction plan c = .noOp) :
    c.isUpToDate o.version o.uuid = true := by
  unfold nextAction at h
  dsimp only at h
  split at h
  · split at h <;> cases h
  · split at h
    · assumption
    · split at h <;> cases h

/-- What the history asks for is a matter of the status. -/
theorem nextAction_congr {c' : Config} (same : c'.status = c.status) :
    o.nextAction plan c' = o.nextAction plan c := by
  have status : c'.installStatus = c.installStatus := by
    rw [Config.installStatus_eq, Config.history_congr same, Config.installStatus_eq]
  rw [nextAction, nextAction, status, Config.isUpToDate_congr same]

/-- Nothing is asked for by a complete installation that this operator has recorded. -/
theorem nextAction_of_recorded {c' : Config} {x : Condition} (code : x.code = .installed)
    (release : x.version = o.version) (written : c'.status = (c.withCondition x o.uuid).status) :
    o.nextAction plan c' = .noOp := by
  have history : c'.history = x :: c.history := by
    rw [Config.history_congr written, Config.history_withCondition]
  have installed : c'.installStatus = .installed := by
    rw [Config.installStatus_eq, history]
    exact code
  have identity : o.uuid.isEmpty ∨ c'.operatorUuid = o.uuid := by
    rw [Config.operatorUuid_congr written, Config.operatorUuid_withCondition]
    by_cases anonymous : o.uuid.isEmpty
    · exact Or.inl anonymous
    · exact Or.inr (if_neg anonymous)
  rw [nextAction_of_installed installed,
    if_pos (Config.isUpToDate_of_head history code release identity)]

end Operator

namespace Installation

variable {i : Installation} {c c' : Config} {phase : Phase}

/-- The passes that a live resource needs, if all of them go well. -/
def passesLeft (i : Installation) (c : Config) : Nat :=
  (if c.hasFinalizer then 0 else 1) + (i.operator.nextAction i.plan c).passes i.plan

theorem passesLeft_le (i : Installation) (c : Config) : i.passesLeft c ≤ 7 := by
  have finalizer : (if c.hasFinalizer then 0 else 1) ≤ 1 := by split <;> decide
  have action : (i.operator.nextAction i.plan c).passes i.plan ≤ 6 := by
    rcases i.operator.nextAction_cases i.plan c with next | next | ⟨phase, next⟩
    · rw [next]
      exact Nat.zero_le 6
    · rw [next]
      exact Nat.le_add_left 1 5
    · rw [next]
      exact i.plan.length_ahead_le phase
  exact Nat.add_le_add finalizer action

/-- A phase that was recorded as passed leaves those behind it to be done. -/
theorem passes_of_passed (planned : phase ∈ i.plan.phases)
    (written : c'.status = (c.withCondition (i.passedCondition c phase) i.operator.uuid).status) :
    (i.operator.nextAction i.plan c').passes i.plan + 1 = (i.plan.ahead phase).length := by
  obtain ⟨code, release⟩ : (i.passedCondition c phase).code = i.plan.successCode phase ∧
      (i.passedCondition c phase).version = i.operator.version := by
    cases phase <;> exact ⟨rfl, rfl⟩
  obtain ⟨past, future, order⟩ := List.append_of_mem planned
  rw [Plan.ahead_eq order]
  cases future with
  | nil =>
    rw [Plan.successCode_of_last order] at code
    rw [Operator.nextAction_of_recorded code release written]
    rfl
  | cons next rest =>
    obtain ⟨own, follows⟩ := Plan.consecutive order
    have status : c'.installStatus = .passed phase := by
      rw [Config.installStatus_eq, Config.history_congr written, Config.history_withCondition]
      exact code.trans own
    have behind : i.plan.phases = (past ++ [phase]) ++ next :: rest := by simp [order]
    rw [Operator.nextAction_of_due (status ▸ follows), Action.passes, Plan.ahead_eq behind]
    rfl

theorem settled_of_passesLeft (h : i.passesLeft c = 0) :
    c.hasFinalizer = true ∧ i.operator.nextAction i.plan c = .noOp := by
  obtain ⟨finalizer, action⟩ := Nat.add_eq_zero_iff.1 h
  constructor
  · by_contra free
    simp [free] at finalizer
  · rcases i.operator.nextAction_cases i.plan c with next | next | ⟨phase, next⟩
    · exact next
    · rw [next] at action
      cases action
    · obtain ⟨past, future, order⟩ := List.append_of_mem (Operator.mem_of_nextAction next)
      rw [next, Action.passes, Plan.ahead_eq order] at action
      cases action

end Installation

/-! ## Passes that go well -/

namespace Cluster.Request

/-- Whether a request is about the watched resource. -/
def isConfigCall : Request → Bool
  | readConfig _ | createConfig _ | replaceStatus _ | addFinalizer _ | removeFinalizer _ => true
  | _ => false

end Cluster.Request

namespace Ledger

/-- How a cluster may answer about a live resource that the operator looks after. A request for the
finalizer that is granted puts it there, and no request for it takes it away. -/
def Tending : PhasedInstall.Conduct Cluster.interface Config
  | .addFinalizer _, c, reply, c' =>
    c'.spec = c.spec ∧ c'.status = c.status ∧ c'.isBeingDeleted = c.isBeingDeleted ∧
      (c.hasFinalizer = true → c'.hasFinalizer = true) ∧
      ∀ stored, reply = .ok stored → c'.hasFinalizer = true
  | r, c, reply, c' => Conduct r c reply c'

theorem Tending.conduct (r : Request) (c : Config) (reply : r.Reply) (c' : Config)
    (step : Tending r c reply c') : Conduct r c reply c' := by
  cases r with
  | addFinalizer name => exact ⟨step.1, step.2.1⟩
  | _ => exact step

end Ledger

namespace Installation

open Ledger

variable {i : Installation} {c c' : Config} {name : String}
  {result : Option (Except Fault Revisit)} {es : Calls}

/-- Everything went well in a pass: the work of a phase has succeeded, a component that was looked
at was ready, and no request about the resource was refused. -/
structure Smooth (i : Installation) (name : String) (es : Calls) : Prop where
  worked : ∀ c phase own, i.Worked name c phase own es → own = some (.ok true)
  granted : ∀ e ∈ es, e.request.isConfigCall = true → e.fault? = none

theorem addFinalizer_tells (i : Installation) (name : String) (stored : Option Config) :
    (i.perform name .addFinalizer stored).Tells fun result es =>
      ∃ reply, es = [⟨.addFinalizer name, reply⟩] ∧
        result = some (reply.map fun _ => .atOnce) := by
  refine Program.tells_ask fun reply => ?_
  cases reply with
  | ok d => exact Program.tells_done ⟨_, rfl, rfl⟩
  | error f => exact Program.tells_done ⟨_, rfl, rfl⟩

theorem markInstalled_tells (i : Installation) (name : String) (c : Config) :
    (i.perform name .markInstalled (some c)).Tells fun result es =>
      ∃ reply, es = [⟨.replaceStatus (c.withCondition (i.condition c .installed) i.operator.uuid),
          reply⟩] ∧ result = some (reply.map fun _ => .onChange) :=
  Work.tells_replaceStatus_bind (fun _ => Work.tells_pure ⟨_, rfl, rfl⟩) fun _ => ⟨_, rfl, rfl⟩

/-- What the operator does about a live resource that it watches. -/
theorem decide_live (live : c.isBeingDeleted = false) :
    i.decide i.operator.watchResource (some c) =
      if c.hasFinalizer then i.operator.nextAction i.plan c else .addFinalizer := by
  rw [decide, Operator.decide_watched, live]
  rfl

theorem leads_singleton {R : PhasedInstall.Conduct Cluster.interface Config} {r : Request}
    {reply : r.Reply} (h : Program.Leads R c [⟨r, reply⟩] c') : R r c reply c' := by
  cases h with
  | cons step rest =>
    cases rest
    exact step

/-- Where nothing is left to be done, nothing is done. -/
theorem pass_settled (live : c.isBeingDeleted = false) (settled : i.passesLeft c = 0)
    (run : (i.pass i.operator.watchResource).Exec Tending.recorded (c, []) result (c', es)) :
    c' = c ∧ es.Ask Request.changesNothing := by
  obtain ⟨held, idle⟩ := settled_of_passesLeft settled
  have nothing : i.decide i.operator.watchResource (some c) = .noOp := by
    rw [decide_live live, held, idle, if_pos rfl]
  rcases pass_recorded Tending.conduct run with ⟨f, -, same, rfl⟩ |
    ⟨performed, ending, rfl, ends, performing, leads⟩
  · exact ⟨same, unread_idle _ f⟩
  · rw [nothing] at performing
    cases performing
    cases leads
    exact ⟨rfl, (opening_idle i _ _).append (closing_idle ends)⟩

/-- What a granted recording leaves of a resource. -/
theorem recorded_of_leads {w stored : Config}
    (h : Program.Leads Tending c [⟨.replaceStatus w, .ok stored⟩] c') :
    c'.isBeingDeleted = c.isBeingDeleted ∧ c'.hasFinalizer = c.hasFinalizer ∧
      c'.status = w.status := by
  rcases leads_singleton h with rfl | ⟨-, f, refused⟩
  · exact ⟨rfl, rfl, rfl⟩
  · cases refused

theorem passesLeft_of_held (held : c.hasFinalizer = true) :
    i.passesLeft c = (i.operator.nextAction i.plan c).passes i.plan := by
  rw [passesLeft, if_pos held, Nat.zero_add]

/-- **A pass that goes well is one step.** It ends with a result, the resource is still live, and
one pass less is left. -/
theorem Smooth.step (live : c.isBeingDeleted = false)
    (run : (i.pass i.operator.watchResource).Exec Tending.recorded (c, []) result (c', es))
    (smooth : i.Smooth i.operator.watchResource es) :
    (∃ revisit, result = some (.ok revisit)) ∧ c'.isBeingDeleted = false ∧
      i.passesLeft c' = i.passesLeft c - 1 := by
  rcases pass_recorded Tending.conduct run with ⟨f, -, -, rfl⟩ |
    ⟨performed, ending, rfl, ends, performing, leads⟩
  · have granted := smooth.granted _ (List.mem_cons_of_mem _ (List.mem_singleton_self _)) rfl
    cases granted
  have granted : ∀ e ∈ performed, e.request.isConfigCall = true → e.fault? = none :=
    fun e mem => smooth.granted e (List.mem_append_right _ (List.mem_append_left _ mem))
  have picked := decide_live (i := i) live
  by_cases held : c.hasFinalizer = true
  · rw [if_pos held] at picked
    rw [passesLeft_of_held held]
    rcases i.operator.nextAction_cases i.plan c with next | next | ⟨phase, next⟩
    · rw [picked, next] at performing
      cases performing
      cases leads
      refine ⟨⟨_, rfl⟩, live, ?_⟩
      rw [passesLeft_of_held held, next]
      rfl
    · rw [picked, next] at performing
      obtain ⟨reply, rfl, rfl⟩ := (markInstalled_tells i _ c).exec performing
      cases reply with
      | error f => cases granted _ (List.mem_singleton_self _) rfl
      | ok stored =>
        obtain ⟨deleting, finalizer, written⟩ := recorded_of_leads leads
        refine ⟨⟨_, rfl⟩, deleting.trans live, ?_⟩
        rw [passesLeft_of_held (finalizer.trans held), next,
          Operator.nextAction_of_recorded rfl rfl written]
        rfl
    · rw [picked, next] at performing
      obtain ⟨own, during, after, rfl, working, concluded⟩ :=
        (runPhase_tells i c phase).exec performing
      have worked : own = some (.ok true) := by
        refine smooth.worked c phase own ⟨picked.trans next, during, after ++ ending, ?_, working⟩
        rw [List.append_assoc]
      subst worked
      obtain ⟨c₁, leaves, records⟩ := Program.leads_append.1 leads
      obtain rfl : c₁ = c := leads_still Tending.conduct leaves
        ((work_leavesConfig i c phase).tells.exec working)
      cases concluded with
      | passed stored =>
        obtain ⟨deleting, finalizer, written⟩ := recorded_of_leads records
        refine ⟨⟨_, rfl⟩, deleting.trans live, ?_⟩
        have step := passes_of_passed (Operator.mem_of_nextAction next) written
        rw [passesLeft_of_held (finalizer.trans held), next, Action.passes, ← step]
        rfl
      | unrecorded f =>
        cases granted _ (List.mem_append_right _ (List.mem_singleton_self _)) rfl
  · rw [if_neg held] at picked
    rw [picked] at performing
    obtain ⟨reply, rfl, rfl⟩ := (addFinalizer_tells i _ (some c)).exec performing
    cases reply with
    | error f => cases granted _ (List.mem_singleton_self _) rfl
    | ok stored =>
      obtain ⟨-, status, deleting, -, puts⟩ := leads_singleton leads
      have now : c'.hasFinalizer = true := puts stored rfl
      refine ⟨⟨_, rfl⟩, deleting.trans live, ?_⟩
      rw [passesLeft_of_held now, Operator.nextAction_congr status, passesLeft, if_neg held,
        Nat.add_sub_cancel_left]

/-! ## Until nothing is left -/

/-- A number of passes that go well, one after the other. -/
inductive SmoothPasses (i : Installation) : Nat → Config → Config → Prop
  | start (c : Config) : SmoothPasses i 0 c c
  | pass {n : Nat} {c₀ c c' : Config} {result : Option (Except Fault Revisit)} {es : Calls} :
      SmoothPasses i n c₀ c →
      (i.pass i.operator.watchResource).Exec Tending.recorded (c, []) result (c', es) →
      i.Smooth i.operator.watchResource es → SmoothPasses i (n + 1) c₀ c'

theorem SmoothPasses.steps {n : Nat} (h : i.SmoothPasses n c c')
    (live : c.isBeingDeleted = false) :
    c'.isBeingDeleted = false ∧ i.passesLeft c' = i.passesLeft c - n := by
  induction h with
  | start c => exact ⟨live, rfl⟩
  | pass _ run smooth ih =>
    obtain ⟨still, left⟩ := ih live
    obtain ⟨-, after, less⟩ := smooth.step still run
    exact ⟨after, by omega⟩

/-- A pass, however it is answered. -/
def Passes (i : Installation) (c c' : Config) : Prop :=
  ∃ result es, (i.pass i.operator.watchResource).Exec Tending.recorded (c, []) result (c', es)

theorem passes_settled (live : c.isBeingDeleted = false) (settled : i.passesLeft c = 0)
    (later : Relation.ReflTransGen i.Passes c c') : c' = c := by
  induction later with
  | refl => rfl
  | tail _ pass ih =>
    obtain rfl := ih
    obtain ⟨result, es, run⟩ := pass
    exact (pass_settled live settled run).1

/-! ## Waiting for a change -/

/-- An action for a live resource ends with waiting for a change only where nothing was to be done,
or where it was recorded that everything is done. -/
theorem perform_rests (live : c.isBeingDeleted = false) :
    (i.perform i.operator.watchResource (i.decide i.operator.watchResource (some c))
      (some c)).Tells fun result es => result = some (.ok .onChange) →
        (es = [] ∧ c.isUpToDate i.operator.version i.operator.uuid = true) ∨
          ∃ w stored, es = [⟨.replaceStatus w, .ok stored⟩] ∧
            w.isUpToDate i.operator.version i.operator.uuid = true := by
  rw [decide_live live]
  by_cases held : c.hasFinalizer = true
  · rw [if_pos held]
    rcases i.operator.nextAction_cases i.plan c with next | next | ⟨phase, next⟩
    · rw [next]
      exact Work.tells_pure fun _ => Or.inl ⟨rfl, Operator.isUpToDate_of_nextAction next⟩
    · rw [next]
      refine (markInstalled_tells i _ c).mono fun result es => ?_
      rintro ⟨reply, rfl, rfl⟩ rests
      cases reply with
      | error f => cases rests
      | ok stored =>
        have done : i.operator.nextAction i.plan
            (c.withCondition (i.condition c .installed) i.operator.uuid) = .noOp :=
          Operator.nextAction_of_recorded rfl rfl rfl
        exact Or.inr ⟨_, stored, rfl, Operator.isUpToDate_of_nextAction done⟩
    · rw [next]
      refine (runPhase_tells i c phase).mono fun result es => ?_
      rintro ⟨own, during, after, -, -, concluded⟩ rests
      cases concluded <;> cases rests
  · rw [if_neg held]
    refine (addFinalizer_tells i _ _).mono fun result es => ?_
    rintro ⟨reply, -, rfl⟩ rests
    cases reply <;> cases rests

/-- **An installation settles.** Let the watched resource be live, whatever its status is. After
seven passes that go well, or more, the resource is up to date for the operator, and no later pass
changes anything, however it is answered. A pass that has read the resource and waits for the next
change, however it was answered, has either found it up to date or has had a status stored with
which it is; so the resource is up to date afterwards. -/
theorem installation_settles (i : Installation) (c : Config) (live : c.isBeingDeleted = false) :
    (∀ n c', 7 ≤ n → i.SmoothPasses n c c' →
      c'.isUpToDate i.operator.version i.operator.uuid = true ∧
        ∀ c'', Relation.ReflTransGen i.Passes c' c'' → c'' = c' ∧
          ∀ result d (es : Calls), (i.pass i.operator.watchResource).Exec Tending.recorded (c'', [])
            result (d, es) → es.Ask Request.changesNothing) ∧
      (∀ (es rest : Calls),
        (i.pass i.operator.watchResource).Exec heard [] (some (.ok .onChange)) es →
        es = i.opening i.operator.watchResource (some c) ++ rest →
        c.isUpToDate i.operator.version i.operator.uuid = true ∨
          ∃ w stored, (⟨.replaceStatus w, .ok stored⟩ : Call) ∈ es ∧
            w.isUpToDate i.operator.version i.operator.uuid = true) ∧
      ∀ c' (es : Calls), (i.pass i.operator.watchResource).Exec Ledger.Conduct.recorded (c, [])
        (some (.ok .onChange)) (c', es) →
        c'.isUpToDate i.operator.version i.operator.uuid = true := by
  refine ⟨?_, ?_, ?_⟩
  · intro n c' enough passes
    obtain ⟨still, left⟩ := passes.steps live
    have settled : i.passesLeft c' = 0 := by
      have bound := i.passesLeft_le c
      omega
    refine ⟨Operator.isUpToDate_of_nextAction (settled_of_passesLeft settled).2, ?_⟩
    intro c'' later
    obtain rfl := passes_settled still settled later
    exact ⟨rfl, fun result d es run => (pass_settled still settled run).2⟩
  · rintro es rest run opens
    rcases (pass_tells i _).exec run with ⟨f, failed, -⟩ | ⟨stored, performed, ending, rfl, -,
      performing⟩
    · cases failed
    · obtain ⟨rfl, -⟩ := opening_inj opens
      rcases (perform_rests live).exec performing rfl with ⟨-, upToDate⟩ |
        ⟨w, stored, rfl, upToDate⟩
      · exact Or.inl upToDate
      · refine Or.inr ⟨w, stored, ?_, upToDate⟩
        exact List.mem_append_right _ (List.mem_append_left _ (List.mem_singleton_self _))
  · intro c' es run
    rcases pass_recorded (fun _ _ _ _ step => step) run with ⟨f, failed, -⟩ |
      ⟨performed, ending, -, -, performing, leads⟩
    · cases failed
    · rcases (perform_rests live).exec performing rfl with ⟨rfl, upToDate⟩ |
        ⟨w, stored, rfl, upToDate⟩
      · cases leads
        exact upToDate
      · rcases leads_singleton leads with rfl | ⟨-, f, refused⟩
        · exact upToDate
        · cases refused

/-- A pass over a resource of `bare` that goes well, if it does. -/
def wellPass (c : Config) : Option (Except Fault Revisit) × Config × Calls :=
  ((bare "v1").pass (bare "v1").operator.watchResource).run.run (recording succeed) (c, [])

/-- Whether a pass has ended with a result, has not waited, and was refused nothing. -/
def wentWell (c : Config) : Bool :=
  match (wellPass c).1 with
  | some (.ok revisit) => revisit ≠ .whileWaiting && (wellPass c).2.2.all fun e => e.fault?.isNone
  | _ => false

theorem tending_succeed (r : Request) (c : Config) :
    Tending r c (succeed r c).1 (succeed r c).2 := by
  cases r <;> simp [Tending, Ledger.Conduct, succeed, Config.hasFinalizer, Config.finalizers,
    Config.isBeingDeleted]

theorem exec_wellPass {R : PhasedInstall.Conduct Cluster.interface Config}
    (keeps : ∀ r c, R r c (succeed r c).1 (succeed r c).2) (c : Config) :
    ((bare "v1").pass (bare "v1").operator.watchResource).Exec R.recorded (c, [])
      (wellPass c).1 ((wellPass c).2.1, (wellPass c).2.2) :=
  Program.exec_recording keeps _ (c, [])

theorem smooth_of_wentWell (h : wentWell c = true) :
    (bare "v1").Smooth (bare "v1").operator.watchResource (wellPass c).2.2 := by
  have heard := (Work.tells_exec _).recorded (exec_wellPass tending_succeed c)
  unfold wentWell at h
  split at h
  · rename_i revisit ended
    simp only [ne_eq, decide_not, Bool.and_eq_true, Bool.not_eq_true', decide_eq_false_iff_not,
      List.all_eq_true, Option.isNone_iff_eq_none] at h
    obtain ⟨ready, all⟩ := h
    refine ⟨fun d phase own worked => ?_, fun e mem _ => all e mem⟩
    obtain ⟨after, concluded, -⟩ := worked.writes heard
    rw [ended] at concluded
    cases concluded with
    | waiting => exact absurd rfl ready
    | passed stored => rfl
  · cases h

theorem smoothPasses_iterate {n : Nat}
    (h : ∀ m < n, wentWell ((fun c => (wellPass c).2.1)^[m] c) = true) :
    (bare "v1").SmoothPasses n c ((fun c => (wellPass c).2.1)^[n] c) := by
  induction n with
  | zero => exact .start c
  | succ n ih =>
    rw [Function.iterate_succ_apply']
    exact .pass (ih fun m less => h m (Nat.lt_succ_of_lt less)) (exec_wellPass tending_succeed _)
      (smooth_of_wentWell (h n (Nat.lt_succ_self n)))

/-- A resource without finalizer, completely installed by an older release. -/
def outdated : Config where
  metadata := { untouched.metadata with finalizers := none }
  spec := untouched.spec
  status := some { conditions := [{ code := .installed, version := "v0" }] }

/-- An older installation is replaced: four of seven passes have something to do, and then the
resource is up to date and stays as it is. The pass after them waits for a change. -/
theorem outdated_settles :
    let c := (fun c => (wellPass c).2.1)^[7] outdated
    outdated.isBeingDeleted = false ∧ (bare "v1").passesLeft outdated = 4 ∧
      (bare "v1").SmoothPasses 7 outdated c ∧ c.isUpToDate "v1" "" = true ∧
      (bare "v1").Passes c (wellPass c).2.1 ∧ (wellPass c).2.1 = c ∧
      (wellPass c).1 = some (.ok .onChange) ∧ (wellPass c).2.1.isUpToDate "v1" "" = true := by
  intro c
  have passes : (bare "v1").SmoothPasses 7 outdated c := smoothPasses_iterate (by decide +kernel)
  have live : c.isBeingDeleted = false := by decide +kernel
  have ended : (wellPass c).1 = some (.ok .onChange) := by decide +kernel
  obtain ⟨upToDate, stays⟩ := (installation_settles (bare "v1") outdated rfl).1 7 c le_rfl passes
  have pass : (bare "v1").Passes c (wellPass c).2.1 := ⟨_, _, exec_wellPass tending_succeed c⟩
  refine ⟨rfl, by decide +kernel, passes, upToDate, pass, (stays _ (.single pass)).1, ended, ?_⟩
  have run := exec_wellPass conduct_succeed c
  rw [ended] at run
  exact (installation_settles (bare "v1") c live).2.2 _ _ run

end Installation

end PhasedInstall
