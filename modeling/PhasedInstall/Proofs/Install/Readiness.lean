import PhasedInstall.Proofs.Http.Readiness
import PhasedInstall.Proofs.Install.Versions

/-!
# Validated means rolled out

A validation asks three checks in turn: two deployments and a webhook. Each of them may be fine, not
be fine yet, or fail, and the first one that is not fine decides (`Checked`). So a component is
recorded as validated only after all of them were fine, each at the moment at which it was asked.

`Watched` is a cluster in which the checks are answered by the client asking a server that tells
what it keeps, while the resource is as in `Ledger.Conduct`. What the server keeps may change at any
time, since there are others who write objects.
-/

set_option autoImplicit false

namespace PhasedInstall

open Cluster Http

/-! ## The checks of a component -/

namespace Http.Check

def call : Check → Except Fault Bool → Call
  | deployment name ns, reply => ⟨.deploymentReady name ns, reply⟩
  | webhook name, reply => ⟨.webhookExists name, reply⟩

end Http.Check

namespace Component

/-- What is checked of a component that is installed in a namespace, in order. -/
def checks (component : Component) (ns : String) : List Check :=
  [.deployment component.controller ns, .deployment component.webhook ns,
    .webhook component.webhookConfiguration]

end Component

/-- How checks are asked: up to the first one that is not fine. -/
inductive Checked : List Check → Option (Except Fault Bool) → Calls → Prop
  | ready : Checked [] (some (.ok true)) []
  | next {k : Check} {rest : List Check} {result : Option (Except Fault Bool)} {es : Calls} :
      Checked rest result es → Checked (k :: rest) result (k.call (.ok true) :: es)
  | notReady (k : Check) (rest : List Check) :
      Checked (k :: rest) (some (.ok false)) [k.call (.ok false)]
  | erred (k : Check) (rest : List Check) (f : Fault) :
      Checked (k :: rest) (some (.error f)) [k.call (.error f)]

namespace Checked

variable {ks : List Check} {k : Check} {result : Option (Except Fault Bool)} {es : Calls}

theorem call_injective {k k' : Check} {reply reply' : Except Fault Bool}
    (same : k.call reply = k'.call reply') : k = k' ∧ reply = reply' := by
  cases k <;> cases k' <;> simp_all [Check.call]

/-- A component is found ready if all checks are fine. -/
theorem all (h : Checked ks (some (.ok true)) es) (mem : k ∈ ks) : k.call (.ok true) ∈ es := by
  induction ks generalizing es with
  | nil => cases mem
  | cons first rest ih =>
    cases h with
    | next later =>
      rcases List.mem_cons.1 mem with rfl | mem
      · exact List.mem_cons_self ..
      · exact List.mem_cons_of_mem _ (ih later mem)

/-- An answer that is not "yes" is the outcome. -/
theorem decides (h : Checked ks result es) {reply : Except Fault Bool} (other : reply ≠ .ok true)
    (mem : k.call reply ∈ es) : result = some reply := by
  induction h with
  | ready => cases mem
  | next _ ih =>
    rcases List.mem_cons.1 mem with same | mem
    · exact absurd (call_injective same).2 other
    · exact ih mem
  | notReady first rest =>
    exact congrArg some (call_injective (List.mem_singleton.1 mem)).2.symm
  | erred first rest f =>
    exact congrArg some (call_injective (List.mem_singleton.1 mem)).2.symm

/-- The outcome is "yes", or one of the answers. -/
theorem decided (h : Checked ks result es) :
    result = some (.ok true) ∨ ∃ k ∈ ks, ∃ reply, result = some reply ∧ reply ≠ .ok true ∧
      k.call reply ∈ es := by
  induction h with
  | ready => exact Or.inl rfl
  | next _ ih =>
    refine ih.imp_right ?_
    rintro ⟨k, mem, reply, same, other, asked⟩
    exact ⟨k, List.mem_cons_of_mem _ mem, reply, same, other, List.mem_cons_of_mem _ asked⟩
  | notReady k rest =>
    exact Or.inr ⟨k, List.mem_cons_self .., _, rfl, nofun, List.mem_singleton_self _⟩
  | erred k rest f =>
    exact Or.inr ⟨k, List.mem_cons_self .., _, rfl, nofun, List.mem_singleton_self _⟩

end Checked

namespace Installation

/-- **The checks of a component**, as they are asked. -/
theorem componentReady_tells (component : Component) (ns : String) :
    (componentReady component ns).Tells (Checked (component.checks ns)) := by
  refine Program.tells_ask fun reply => ?_
  rcases reply with f | _ | _
  · exact Program.tells_done (.erred _ _ f)
  · exact Program.tells_done (.notReady _ _)
  refine Program.tells_ask fun reply => ?_
  rcases reply with f | _ | _
  · exact Program.tells_done (.next (.erred _ _ f))
  · exact Program.tells_done (.next (.notReady _ _))
  refine Program.tells_ask fun reply => Program.tells_done ?_
  rcases reply with f | _ | _
  · exact .next (.next (.erred _ _ f))
  · exact .next (.next (.notReady _ _))
  · exact .next (.next (.next .ready))

end Installation

/-! ## A cluster that is watched -/

/-- Whether a request is a check of readiness. -/
def Cluster.Request.isCheck : Request → Bool
  | .deploymentReady _ _ | .webhookExists _ => true
  | _ => false

/-- The watched resource, and what a server keeps under its targets. -/
structure Live where
  config : Config
  stored : Stored

namespace Live

/-- How a cluster may answer in which checks are carried out by a client of a truthful server. -/
def Watched (client : Client) : PhasedInstall.Conduct Cluster.interface Live :=
  fun r s reply s' => Ledger.Conduct r s.config reply s'.config ∧
    (r.isCheck = true →
      ∃ after, Program.Exec Truthful (client.carryOut r) s.stored (some reply) after)

/-- A check was answered while something was said, and the answer was right then. -/
def Answered (client : Client) (s : Live) (es : Calls) (k : Check) (b : Bool) : Prop :=
  ∃ before after t, es = before ++ k.call (.ok b) :: after ∧
    Program.Leads (Watched client) s before t ∧ (k.Met t.stored ↔ b = true)

variable {client : Client} {s s' : Live} {es : Calls} {k : Check} {b : Bool}

/-- What a check is answered is right. -/
theorem met_iff_of_leads (leads : Program.Leads (Watched client) s (k.call (.ok b) :: es) s') :
    k.Met s.stored ↔ b = true := by
  cases k with
  | deployment name ns =>
    cases leads with
    | cons step _ =>
      obtain ⟨after, run⟩ := step.2 rfl
      rw [Check.carryOut_deploymentReady] at run
      exact Check.met_iff_of_exec run
  | webhook name =>
    cases leads with
    | cons step _ =>
      obtain ⟨after, run⟩ := step.2 rfl
      rw [Check.carryOut_webhookExists] at run
      exact Check.met_iff_of_exec run

theorem answered (leads : Program.Leads (Watched client) s es s')
    (mem : k.call (.ok b) ∈ es) : s.Answered client es k b := by
  obtain ⟨before, after, rfl⟩ := List.append_of_mem mem
  obtain ⟨t, first, rest⟩ := Program.leads_append.1 leads
  exact ⟨before, after, t, rfl, first, met_iff_of_leads rest⟩

/-- To the resource it makes no difference how checks are answered. -/
theorem exec_config {α : Type} {w : Work α} {result : Option (Except Fault α)}
    (run : w.Exec (Watched client).recorded (s, []) result (s', es)) :
    w.Exec Ledger.Conduct.recorded (s.config, []) result (s'.config, es) :=
  Program.Exec.view (Prod.map config id) (fun _ _ _ _ step => ⟨step.1.1, step.2⟩) run

end Live

namespace Validation

variable {v : Validation} {client : Client} {i : Installation} {name : String} {c : Config}
  {s s' : Live} {own : Option (Except Fault Bool)} {result : Option (Except Fault Revisit)}
  {es : Calls}

/-- What is checked of the component, by the namespace that a resource names. -/
def checks (v : Validation) (c : Config) : List Check :=
  v.component.checks c.spec.targetNamespace

theorem work_checked (v : Validation) (i : Installation) (c : Config) :
    (i.work c v.phase).Tells (Checked (v.checks c)) := by
  cases v <;> exact Installation.componentReady_tells _ _

theorem work_changesNothing (v : Validation) (i : Installation) (c : Config) :
    (i.work c v.phase).Only Request.changesNothing := by
  cases v <;>
    exact Installation.componentReady_only (fun _ _ => ⟨rfl, rfl⟩) (fun _ => ⟨rfl, rfl⟩) _ _

/-- The checks of a pass that has worked on a validation. -/
theorem worked_checked (worked : i.Worked name c v.phase own es) :
    ∃ during, Checked (v.checks c) own during ∧ ∀ e ∈ during, e ∈ es := by
  obtain ⟨-, during, after, rfl, working⟩ := worked
  refine ⟨during, (work_checked v i c).exec working, fun e mem => ?_⟩
  exact List.mem_append_right _ (List.mem_append_left _ mem)

theorem code_passedCondition (i : Installation) (c : Config) (phase : Phase) :
    (i.passedCondition c phase).code = i.plan.successCode phase := by
  cases phase <;> rfl

theorem not_installed (v : Validation) : StatusCode.installed ≠ .passed v.phase := by
  cases v <;> decide

/-- Only its own validation brings the code of a component. -/
theorem phase_of_successCode {plan : Plan} {phase : Phase}
    (same : plan.successCode phase = .passed v.phase) : phase = v.phase := by
  unfold Plan.successCode at same
  split at same
  · exact absurd same v.not_installed
  · exact StatusCode.passed.inj same

theorem installStatus_withCondition (c : Config) (x : Condition) (uuid : String) :
    (c.withCondition x uuid).installStatus = x.code := by
  rw [Config.installStatus_eq, Config.history_withCondition]
  rfl

/-- A phase whose success was to be recorded has done its work. -/
theorem concluded_passed {phase : Phase} {after : Calls} {w : Config}
    (concluded : i.Concluded c phase own result after) (mem : w ∈ after.recordings)
    (status : w.installStatus.isError = false) : own = some (.ok true) := by
  cases concluded with
  | failed f reply =>
    obtain rfl := List.mem_singleton.1 mem
    rw [installStatus_withCondition] at status
    cases status
  | waiting => cases mem
  | passed stored => rfl
  | unrecorded f => rfl
  | gaveUp => cases mem

/-- A component is recorded as validated by a pass that has found it ready. -/
theorem recorded_worked (v : Validation) (i : Installation) (name : String) :
    (i.pass name).Tells fun _ es => ∀ w ∈ es.recordings, w.installStatus = .passed v.phase →
      ∃ c, i.Worked name c v.phase (some (.ok true)) es := by
  refine (Work.tells_exec (i.pass name)).mono fun result es run w mem status => ?_
  rcases (Installation.pass_tells i name).exec run with ⟨f, -, rfl⟩ |
    ⟨stored, performed, ending, rfl, ends, performing⟩
  · cases mem
  rw [Calls.recordings_append, Calls.recordings_append, Installation.opening_recordings,
    Installation.closing_recordings ends, List.nil_append, List.append_nil] at mem
  rcases (Installation.perform_recordsOnce i name _ stored).exec performing with
    none | ⟨c, rfl, none | ⟨x, records, one⟩⟩
  · rw [none] at mem
    cases mem
  · rw [none] at mem
    cases mem
  obtain rfl : w = c.withCondition x i.operator.uuid := List.mem_singleton.1 (one ▸ mem)
  have code : x.code = .passed v.phase := (installStatus_withCondition c x _).symm.trans status
  generalize due : i.decide name (some c) = action at records performing
  cases records with
  | failed phase f => cases code
  | installed => exact absurd code v.not_installed
  | invalid => cases code
  | passed phase =>
    obtain rfl := phase_of_successCode ((code_passedCondition i c phase).symm.trans code)
    obtain ⟨own, during, after, rfl, working, concluded⟩ :=
      (Installation.runPhase_tells i c v.phase).exec performing
    rw [Calls.recordings_append, Installation.work_recordings working, List.nil_append] at mem
    obtain rfl := concluded_passed concluded mem (by rw [status]; rfl)
    exact ⟨c, due, during, after ++ ending, by rw [List.append_assoc], working⟩

/-! ## What a pass makes of the checks -/

theorem call_isCheck (k : Check) (answer : Except Fault Bool) :
    (k.call answer).request.isCheck = true := by
  cases k <;> rfl

/-- A pass that is due for a validation asks nothing but its checks, and then what follows from
their outcome. It may also not be able to read the resource. -/
theorem due_cases (run : (i.pass name).Exec (Live.Watched client).recorded (s, []) result (s', es))
    (due : i.decide name (some s.config) = .run v.phase) :
    (∃ f, (⟨.readConfig name, .error f⟩ : Call) ∈ es ∧ es.Ask (·.isCheck = false)) ∨
      ∃ own during after ending,
        es = i.opening name (some s.config) ++ (during ++ after ++ ending) ∧
        Checked (v.checks s.config) own during ∧ during.Ask Request.changesNothing ∧
        i.Concluded s.config v.phase own result after ∧
        ending <+: i.closing name (some s.config) ∧ es.recordings = after.recordings ∧
        ∀ (k : Check) answer, k.call answer ∈ es → k.call answer ∈ during := by
  rcases Installation.pass_recorded (fun _ _ _ _ step => step) (Live.exec_config run) with
    ⟨f, -, -, rfl⟩ | ⟨performed, ending, rfl, ends, performing, -⟩
  · refine Or.inl ⟨f, List.mem_cons_of_mem _ (List.mem_singleton_self _), ?_⟩
    simp [Calls.Ask, Request.isCheck]
  rw [due] at performing
  obtain ⟨own, during, after, rfl, working, concluded⟩ :=
    (Installation.runPhase_tells i s.config v.phase).exec performing
  refine Or.inr ⟨own, during, after, ending, rfl, (work_checked v i _).exec working,
    (work_changesNothing v i _).tells.exec working, concluded, ends, ?_, fun k answer mem => ?_⟩
  · simp only [Calls.recordings_append, Installation.opening_recordings,
      Installation.work_recordings working, Installation.closing_recordings ends, List.nil_append,
      List.append_nil]
  -- The calls around the work are no checks.
  have opens : (i.opening name (some s.config)).Ask (·.isCheck = false) := by
    simp [Installation.opening, Calls.Ask, Request.isCheck]
  have concludes : after.Ask (·.isCheck = false) := by
    cases concluded <;> simp [Calls.Ask, Request.isCheck]
  have closes : ending.Ask (·.isCheck = false) := by
    intro e mem
    obtain rfl := List.mem_singleton.1 (ends.subset mem)
    rfl
  have other {es : Calls} (asked : es.Ask (·.isCheck = false)) : k.call answer ∉ es :=
    fun mem => absurd (call_isCheck k answer) (by rw [asked _ mem]; decide)
  simp only [List.mem_append] at mem
  rcases mem with mem | (mem | mem) | mem
  · exact absurd mem (other opens)
  · exact mem
  · exact absurd mem (other concludes)
  · exact absurd mem (other closes)

theorem worked_stored {phase : Phase}
    (run : (i.pass name).Exec (Live.Watched client).recorded (s, []) result (s', es))
    (worked : i.Worked name c phase own es) : c = s.config := by
  obtain ⟨-, during, after, same, -⟩ := worked
  rcases Installation.pass_recorded (fun _ _ _ _ step => step) (Live.exec_config run) with
    ⟨f, -, -, rfl⟩ | ⟨performed, ending, rfl, -⟩
  · cases same
  · exact Option.some.inj (Installation.opening_inj same).1.symm

/-- What a pass has to do with the checks of a component. -/
structure Heeded (v : Validation) (client : Client) (i : Installation) (name : String)
    (s s' : Live) (result : Option (Except Fault Revisit)) (es : Calls) : Prop where
  /-- If the component is to be recorded as validated, every check of it was fine in this pass. -/
  passed : ∀ w ∈ es.recordings, w.installStatus = .passed v.phase → ∀ k ∈ v.checks s.config,
    s.Answered client es k true
  /-- If a check is not fine yet, nothing is written and the pass is to be made again later. -/
  waiting : i.decide name (some s.config) = .run v.phase → ∀ k ∈ v.checks s.config,
    k.call (.ok false) ∈ es → s.Answered client es k false ∧ result = some (.ok .whileWaiting) ∧
      s'.config = s.config ∧ es.Ask Request.changesNothing
  /-- If a check fails, that is recorded as a failure of the phase. -/
  failed : i.decide name (some s.config) = .run v.phase → ∀ k ∈ v.checks s.config, ∀ f,
    k.call (.error f) ∈ es → result = some (.error (.inPhase v.phase f)) ∧
      ∃ x, es.recordings = [s.config.withCondition x i.operator.uuid] ∧
        x.code = .failed v.phase ∧ x.details = some f.text
  /-- If the resource can be read, it is one of the three. -/
  decided : i.decide name (some s.config) = .run v.phase →
    (∀ f, (⟨.readConfig name, .error f⟩ : Call) ∉ es) →
      (∃ w, es.recordings = [w] ∧ w.installStatus = .passed v.phase) ∨
        ∃ k ∈ v.checks s.config, k.call (.ok false) ∈ es ∨ ∃ f, k.call (.error f) ∈ es

theorem successCode_phase (v : Validation) (i : Installation) :
    i.plan.successCode v.phase = .passed v.phase := by
  obtain ⟨triggers, community⟩ := i.plan
  cases v <;> cases triggers <;> cases community <;> rfl

theorem pass_heeded (v : Validation)
    (run : (i.pass name).Exec (Live.Watched client).recorded (s, []) result (s', es)) :
    v.Heeded client i name s s' result es := by
  have leads : Program.Leads (Live.Watched client) s es s' := Program.Exec.leads run
  have heard := (Work.tells_exec (i.pass name)).recorded run
  constructor
  case passed =>
    intro w mem status k checked
    obtain ⟨c, worked⟩ := (recorded_worked v i name).exec heard w mem status
    obtain rfl := worked_stored run worked
    obtain ⟨during, asked, within⟩ := worked_checked worked
    exact Live.answered leads (within _ (asked.all checked))
  case waiting =>
    intro due k checked no
    rcases due_cases run due with ⟨f, -, none⟩ |
      ⟨own, during, after, ending, rfl, asked, idle, concluded, ends, -, within⟩
    · exact absurd (call_isCheck k _) (by rw [none _ no]; decide)
    obtain rfl := asked.decides (by simp) (within _ _ no)
    cases concluded
    have nothing : Calls.Ask Request.changesNothing
        (i.opening name (some s.config) ++ (during ++ [] ++ ending)) :=
      (Installation.opening_idle i name _).append
        ((idle.append (List.forall_mem_nil _)).append (Installation.closing_idle ends))
    exact ⟨Live.answered leads no, rfl, Installation.leads_still (fun _ _ _ _ step => step)
      (Program.Exec.leads (Live.exec_config run)) (nothing.mono fun _ idle => idle.1), nothing⟩
  case failed =>
    intro due k checked f failed
    rcases due_cases run due with ⟨f, -, none⟩ |
      ⟨own, during, after, ending, rfl, asked, -, concluded, -, recorded, within⟩
    · exact absurd (call_isCheck k _) (by rw [none _ failed]; decide)
    obtain rfl := asked.decides (by simp) (within _ _ failed)
    cases concluded
    exact ⟨rfl, _, recorded, rfl, rfl⟩
  case decided =>
    intro due read
    rcases due_cases run due with ⟨f, unread, -⟩ |
      ⟨own, during, after, ending, rfl, asked, -, concluded, -, recorded, -⟩
    · exact absurd unread (read f)
    rcases asked.decided with rfl | ⟨k, mem, answer, rfl, other, said⟩
    · have code : (i.passedCondition s.config v.phase).code = .passed v.phase :=
        (code_passedCondition i s.config v.phase).trans (successCode_phase v i)
      refine Or.inl ⟨s.config.withCondition (i.passedCondition s.config v.phase) i.operator.uuid,
        ?_, (installStatus_withCondition _ _ _).trans code⟩
      rw [recorded]
      cases concluded <;> rfl
    · have mem' : k.call answer ∈ i.opening name (some s.config) ++ (during ++ after ++ ending) :=
        List.mem_append_right _ (List.mem_append_left _ (List.mem_append_left _ said))
      refine Or.inr ⟨k, mem, ?_⟩
      rcases answer with f | _ | _
      · exact Or.inr ⟨f, mem'⟩
      · exact Or.inl mem'
      · exact absurd rfl other

/-! ## What is left of a run -/

end Validation

namespace Live

/-- What may happen to the resource in a run: a pass of some operator over it, whatever its release
and its manifests are, or anything that leaves the status alone. What the server keeps may change
at any time. -/
inductive Step (client : Client) : Live → Live → Prop
  | pass {i : Installation} {name : String} {s s' : Live} {result : Option (Except Fault Revisit)}
      {es : Calls} : (i.pass name).Exec (Watched client).recorded (s, []) result (s', es) →
      Step client s s'
  | other {s s' : Live} : s'.config.status = s.config.status → Step client s s'

abbrev Run (client : Client) : Live → Live → Prop := Relation.ReflTransGen (Step client)

end Live

namespace Validation

variable {v : Validation} {client : Client} {i : Installation} {name : String} {s s' s'' : Live}
  {result : Option (Except Fault Revisit)} {es : Calls} {x : Condition}

/-- In a run, a pass has put a condition in front of the history in which it has found the component
ready. -/
def FoundReady (v : Validation) (client : Client) (x : Condition) (s s' : Live) : Prop :=
  ∃ (i : Installation) (name : String) (t t' : Live) (result : Option (Except Fault Revisit))
    (es : Calls), Live.Run client s t ∧
    (i.pass name).Exec (Live.Watched client).recorded (t, []) result (t', es) ∧
    Live.Run client t' s' ∧ t'.config.status = (t.config.withCondition x i.operator.uuid).status ∧
    ∀ k ∈ v.checks t.config, t.Answered client es k true

theorem FoundReady.tail (found : v.FoundReady client x s s') (step : Live.Step client s' s'') :
    v.FoundReady client x s s'' := by
  obtain ⟨i, name, t, t', result, es, before, run, later, written, ready⟩ := found
  exact ⟨i, name, t, t', result, es, before, run, later.tail step, written, ready⟩

/-- A condition that a pass has put in front of the history, if it is that of a validation. -/
theorem entered_ready
    (run : (i.pass name).Exec (Live.Watched client).recorded (s, []) result (s', es))
    (entered : i.Entered name s.config es x) (code : x.code = .passed v.phase) :
    ∀ k ∈ v.checks s.config, s.Answered client es k true := by
  cases entered with
  | @passed phase worked =>
    obtain rfl := phase_of_successCode ((code_passedCondition i s.config phase).symm.trans code)
    obtain ⟨during, asked, within⟩ := worked_checked worked
    exact fun k checked => Live.answered (Program.Exec.leads run) (within _ (asked.all checked))
  | failed worked => cases code
  | installed due => exact absurd code v.not_installed
  | invalid due => cases code

/-- **The codes of validations in a run.** Each of them stands for a pass that has found the
component ready. -/
theorem run_found_ready (run : Live.Run client s s') :
    ∃ added, s'.config.history = added ++ s.config.history ∧
      ∀ x ∈ added, ∀ v : Validation, x.code = .passed v.phase → v.FoundReady client x s s' := by
  induction run with
  | refl => exact ⟨[], rfl, List.forall_mem_nil _⟩
  | @tail t t' before step ih =>
    obtain ⟨added, grown, found⟩ := ih
    have kept : t'.config.status = t.config.status → ∃ added,
        t'.config.history = added ++ s.config.history ∧
          ∀ x ∈ added, ∀ v : Validation, x.code = .passed v.phase →
            v.FoundReady client x s t' := by
      intro same
      refine ⟨added, (Config.history_congr same).trans grown, fun x mem v code => ?_⟩
      exact (found x mem v code).tail step
    cases step with
    | other same => exact kept same
    | @pass i name _ _ result es pass =>
      rcases Installation.pass_enters (fun _ _ _ _ step => step) (Live.exec_config pass) with
        same | ⟨x, entered, written⟩
      · exact kept same
      refine ⟨x :: added, ?_, List.forall_mem_cons.2 ⟨?_, ?_⟩⟩
      · rw [Config.history_congr written, Config.history_withCondition, grown]
        rfl
      · intro v code
        exact ⟨i, name, t, t', result, es, before, pass, .refl, written,
          entered_ready pass entered code⟩
      · intro x mem v code
        exact (found x mem v code).tail (.pass pass)

/-- **A component that is recorded as validated was rolled out.** Let the checks be answered by a
client that asks a server about what it keeps, and let the server tell the truth. A pass that is to
record a component as validated has asked all checks of the component in the namespace that the
resource names, and each was fine at that moment: both deployments were there and had rolled out,
and the webhook was registered. If a check is not fine, or its object is missing, before any check
fails, nothing is written and the pass is to be made again later. If a check fails first, that is
recorded as a failure of the validation. So in any run, every validation that is recorded stands for
a pass that has found the component ready. -/
theorem validated_means_rolled_out (client : Client) :
    (∀ (v : Validation) (i : Installation) (name : String) (s s' : Live) result es,
      (i.pass name).Exec (Live.Watched client).recorded (s, []) result (s', es) →
      v.Heeded client i name s s' result es) ∧
    ∀ s s' : Live, Live.Run client s s' →
      ∃ added, s'.config.history = added ++ s.config.history ∧
        ∀ x ∈ added, ∀ v : Validation, x.code = .passed v.phase → v.FoundReady client x s s' :=
  ⟨fun _ _ _ _ _ _ _ run => pass_heeded _ run, fun _ _ run => run_found_ready run⟩

end Validation

/-! ## A server that keeps texts -/

namespace Live

/-- The texts of objects by their paths. -/
abbrev Objects := List (String × String)

/-- What is kept is what the text of an object reads as. -/
def kept (objects : Objects) : Stored := fun target =>
  (objects.lookup target.path).bind Json.parse?

/-- The response to a question about an object. -/
def respond (objects : Objects) (target : Target) : Response :=
  match objects.lookup target.path with
  | some text => if (Json.parse? text).isSome then ⟨200, text⟩ else ⟨404, missing⟩
  | none => ⟨404, missing⟩
where
  missing : String := "\x7b\"status\":\"\",\"reason\":\"NotFound\",\"code\":404\x7d"

/-- What a check comes to at such a server. -/
def answer (objects : Objects) (k : Check) : Except Fault Bool :=
  match Target.ofText? k.path with
  | none => .error Http.unsent
  | some target => k.judge (respond objects target)

theorem truthful_respond (objects : Objects) (r : Http.Request) (s' : Stored) :
    Truthful (.send r) (kept objects) (respond objects r.target) s' := by
  intro _
  unfold kept respond
  cases objects.lookup r.target.path with
  | none => exact Or.inl ⟨rfl, fun _ => rfl⟩
  | some text =>
    cases parsed : Json.parse? text with
    | none => exact Or.inl ⟨by simp [parsed, isFailure], fun _ => parsed⟩
    | some v => exact Or.inr ⟨by simp [parsed, isFailure], v, parsed, by simp [parsed]⟩

theorem exec_link (objects : Objects) (k : Check) :
    Program.Exec Truthful k.link.run (kept objects) (some (answer objects k)) (kept objects) := by
  rw [Check.run_link, inquire, answer]
  cases Target.ofText? k.path with
  | none => exact .done _ _
  | some target => exact .ask (truthful_respond objects _ _) (.done _ _)

/-- A cluster with that server, in which everything else succeeds. -/
def tend (objects : Objects) : (r : Cluster.Request) → Config → r.Reply × Config
  | .deploymentReady name ns, c => (answer objects (.deployment name ns), c)
  | .webhookExists name, c => (answer objects (.webhook name), c)
  | r, c => Ledger.succeed r c

theorem watched_tend (objects : Objects) (r : Cluster.Request) (c : Config) :
    Watched Client.plain r ⟨c, kept objects⟩ (tend objects r c).1
      ⟨(tend objects r c).2, kept objects⟩ := by
  cases r with
  | deploymentReady name ns =>
    refine ⟨rfl, fun _ => ⟨kept objects, ?_⟩⟩
    rw [Check.carryOut_deploymentReady]
    simp only [tend]
    exact exec_link objects (.deployment name ns)
  | webhookExists name =>
    refine ⟨rfl, fun _ => ⟨kept objects, ?_⟩⟩
    rw [Check.carryOut_webhookExists]
    simp only [tend]
    exact exec_link objects (.webhook name)
  | _ => exact ⟨Ledger.conduct_succeed _ c, nofun⟩

/-- A pass in that cluster: how it ends, the resource afterwards, and its calls. -/
@[irreducible]
def tendedPass (objects : Objects) (i : Installation) (c : Config) :
    Option (Except Fault Revisit) × Config × Calls :=
  (i.pass i.operator.watchResource).run.run (recording (tend objects)) (c, [])

theorem exec_tendedPass (objects : Objects) (i : Installation) (c : Config) :
    (i.pass i.operator.watchResource).Exec (Watched Client.plain).recorded (⟨c, kept objects⟩, [])
      (tendedPass objects i c).1
      (⟨(tendedPass objects i c).2.1, kept objects⟩, (tendedPass objects i c).2.2) := by
  let view : Config → Live := fun c => ⟨c, kept objects⟩
  have keeps : ∀ r c, Watched Client.plain r (view c) (tend objects r c).1
      (view (tend objects r c).2) := watched_tend objects
  unfold tendedPass
  have run := Program.exec_recording (R := fun r c reply c' =>
    Watched Client.plain r (view c) reply (view c')) keeps
    (i.pass i.operator.watchResource).run (c, [])
  exact run.view (R := (Watched Client.plain).recorded) (Prod.map view id) fun _ _ _ _ step => step

theorem step_tendedPass (objects : Objects) (i : Installation) (c : Config) :
    Step Client.plain ⟨c, kept objects⟩ ⟨(tendedPass objects i c).2.1, kept objects⟩ :=
  .pass (exec_tendedPass objects i c)

theorem step_kept (objects objects' : Objects) (c : Config) :
    Step Client.plain ⟨c, kept objects⟩ ⟨c, kept objects'⟩ := .other rfl

/-- The objects that the pipelines are checked by. -/
def pipelineObjects (webhook : String) : Objects :=
  ((Validation.pipeline.checks Ledger.untouched).map Check.path).zip
    ["\x7b\"status\":\x7b\x7d\x7d", webhook, "\x7b\x7d"]

/-- What the server keeps while the webhook comes up late: at first its replica is not an updated
one, then the deadline has passed, and at last it is there. -/
def before : Objects := pipelineObjects "\x7b\"status\":\x7b\"replicas\":1\x7d\x7d"

def overdue : Objects := pipelineObjects
  ("\x7b\"status\":\x7b\"conditions\":[\x7b\"type\":\"Progressing\"," ++
    "\"reason\":\"ProgressDeadlineExceeded\"\x7d]\x7d\x7d")

def complete : Objects := pipelineObjects
  "\x7b\"status\":\x7b\"replicas\":1,\"updatedReplicas\":1,\"availableReplicas\":1\x7d\x7d"

/-- The passes over a resource for which the manifest of the pipelines was applied. -/
def early : Option (Except Fault Revisit) × Config × Calls :=
  tendedPass before Validation.labelled Validation.applied

def late : Option (Except Fault Revisit) × Config × Calls :=
  tendedPass overdue Validation.labelled Validation.applied

def atLast : Option (Except Fault Revisit) × Config × Calls :=
  tendedPass complete Validation.labelled late.2.1

/-- The state before any of these passes, and the one after the last of them. -/
def start (objects : Objects) : Live := ⟨Validation.applied, kept objects⟩

def finish : Live := ⟨atLast.2.1, kept complete⟩

theorem run_finish : Run Client.plain (start overdue) finish := by
  have first := step_tendedPass overdue Validation.labelled Validation.applied
  have second := step_tendedPass complete Validation.labelled late.2.1
  exact ((Relation.ReflTransGen.single first).tail (step_kept overdue complete late.2.1)).tail
    second

theorem early_waits : early.1 = some (.ok .whileWaiting) ∧ early.2.2.recordings = [] ∧
    early.2.2.all (fun e => e.fault?.isNone) = true := by
  decide +kernel

theorem codes_start :
    (start overdue).config.history.map Condition.code = [.passed .applyPipeline] := by
  decide +kernel

theorem codes_finish : finish.config.history.map Condition.code =
    [.passed .validatePipeline, .failed .validatePipeline, .passed .applyPipeline] := by
  decide +kernel

end Live

namespace Validation

open Live

/-- The webhook of the pipelines comes up late. The operator waits, records that the deadline has
passed, and records the pipelines as validated once their webhook is there. -/
theorem validated_means_rolled_out_late :
    early.1 = some (.ok .whileWaiting) ∧
      (∃ k ∈ pipeline.checks (start before).config,
        (start before).Answered Client.plain early.2.2 k false ∧
          early.2.2.Ask Request.changesNothing) ∧
      pipeline.Heeded Client.plain labelled labelled.operator.watchResource
        (start overdue) ⟨late.2.1, kept overdue⟩ late.1 late.2.2 ∧
      finish.config.history.map Condition.code =
        [.passed .validatePipeline, .failed .validatePipeline, .passed .applyPipeline] ∧
      ∃ x, x.code = .passed .validatePipeline ∧
        pipeline.FoundReady Client.plain x (start overdue) finish := by
  have due : labelled.decide labelled.operator.watchResource (some (start before).config) =
    .run .validatePipeline := by decide +kernel
  obtain ⟨waits, silent, granted⟩ := early_waits
  refine ⟨waits, ?_, ?_, codes_finish, ?_⟩
  · have heeded := (validated_means_rolled_out Client.plain).1 pipeline _ _ (start before) _ _ _
      (exec_tendedPass before labelled applied)
    have read (f : Fault) :
        (⟨.readConfig labelled.operator.watchResource, .error f⟩ : Call) ∉ early.2.2 :=
      fun mem => nomatch List.all_eq_true.1 granted _ mem
    rcases heeded.decided due read with ⟨w, recorded, -⟩ | ⟨k, mem, no | ⟨f, failed⟩⟩
    · cases silent.symm.trans recorded
    · obtain ⟨answered, -, -, idle⟩ := heeded.waiting due k mem no
      exact ⟨k, mem, answered, idle⟩
    · cases waits.symm.trans (heeded.failed due k mem f failed).1
  · exact (validated_means_rolled_out Client.plain).1 pipeline _ _ (start overdue) _ _ _
      (exec_tendedPass overdue labelled applied)
  · obtain ⟨added, grown, found⟩ := (validated_means_rolled_out Client.plain).2 _ _ run_finish
    have same := congrArg (List.map Condition.code) grown
    rw [List.map_append, codes_start, codes_finish] at same
    cases added with
    | nil => cases same
    | cons x rest =>
      have code : x.code = .passed .validatePipeline := (List.cons.inj same).1.symm
      exact ⟨x, code, found x (List.mem_cons_self ..) pipeline code⟩

end Validation

end PhasedInstall
