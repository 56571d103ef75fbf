import PhasedInstall.Proofs.Install.Entries
import PhasedInstall.Proofs.Manifest.References

/-!
# How the failure of a phase is recorded and reported

A pass reports the fault of a phase if and only if the work of that phase has met it, and then the
attempt to record it has been made, with the text that the report has too. It makes no difference
to the report what becomes of the recording. The other way round, if the work has succeeded and its
recording is refused, the refusal is what the pass reports, under no phase's name, and no failure is
recorded; where a refused recording has not been done, the next pass finds the same phase due.

`Worked` says for the calls of a pass that a phase was due and what its work came to. The calls
determine that, so the rules in `Accounted` need not say which execution they are about. That no
other action can report a phase is a matter of where faults come from: outside of phases each of
them is an answer of the cluster (`Relays`).
-/

set_option autoImplicit false

namespace PhasedInstall

open Cluster

/-! ## Work whose faults are all answers -/

namespace Work

variable {α β : Type}

/-- Every fault of the work is one that a request was answered with. -/
def Relays (w : Work α) : Prop :=
  w.Tells fun result es => ∀ f, result = some (.error f) → ∃ e ∈ es, e.fault? = some f

theorem relays_pure (a : α) : (pure a : Work α).Relays := tells_pure nofun

theorem Relays.bind {w : Work α} {f : α → Work β} (first : w.Relays)
    (rest : ∀ a, (f a).Relays) : (w >>= f).Relays := by
  refine Tells.bind first ?_ ?_ fun _ _ => nofun
  · intro a es _
    refine Tells.mono (rest a) fun result more relayed fault failed => ?_
    obtain ⟨e, mem, answered⟩ := relayed fault failed
    exact ⟨e, List.mem_append_right es mem, answered⟩
  · rintro fault es relayed _ ⟨⟩
    exact relayed fault rfl

/-- A single request, whose refusal is the fault. -/
theorem relays_request {r : Request} {read : r.Reply → Except Fault α}
    (refusals : ∀ reply f, read reply = .error f → Call.fault? ⟨r, reply⟩ = some f) :
    Relays (ExceptT.mk (Program.ask r fun reply => .done (read reply)) : Work α) := by
  refine Program.tells_ask fun reply => Program.tells_done ?_
  intro f refused
  exact ⟨_, List.mem_singleton_self _, refusals reply f (Option.some.inj refused)⟩

theorem relays_replaceStatus (c : Config) : (replaceStatus c).Relays :=
  relays_request (by rintro _ f rfl; rfl)

theorem relays_addFinalizer (name : String) : (addFinalizer name).Relays :=
  relays_request (by rintro _ f rfl; rfl)

theorem relays_removeFinalizer (name : String) : (removeFinalizer name).Relays :=
  relays_request (by rintro _ f rfl; rfl)

end Work

theorem Manifest.relays_removeAll (policy : DeletePolicy) (ds : List Document) :
    (removeAll policy ds).Relays := by
  refine (removeAll_removals policy ds).mono fun result es removals f failed => ?_
  obtain ⟨outcome, rfl, removals⟩ := removals
  cases failed
  obtain ⟨before, call, rfl, -, refused, -⟩ := removals.ends
  exact ⟨call, by simp, refused⟩

namespace Installation

variable {i : Installation} {name : String} {c : Config} {phase : Phase}
  {result : Option (Except Fault Revisit)} {es : Calls}

/-- Preparing a removal cannot fail, so a removal has no faults of its own. -/
theorem relays_removePhases (i : Installation) (ns : String) (phases : List Phase) :
    (i.removePhases ns phases).Relays := by
  induction phases with
  | nil => exact Work.relays_pure ()
  | cons phase rest ih =>
    obtain ⟨removed, prepared⟩ := (i.bundle.forPhase phase).forRemoval_total phase ns
    rw [removePhases, prepared]
    exact (Manifest.relays_removeAll _ _).bind fun _ => ih

/-- Only phases have faults that are no answers. -/
theorem relays_perform (i : Installation) (name : String) {action : Action}
    (other : ∀ phase, action ≠ .run phase) (stored : Option Config) :
    (i.perform name action stored).Relays := by
  cases action with
  | run phase => exact absurd rfl (other phase)
  | noOp => exact Work.relays_pure _
  | addFinalizer => exact (Work.relays_addFinalizer name).bind fun _ => Work.relays_pure _
  | teardown => exact (relays_removePhases i _ _).bind fun _ => Work.relays_pure _
  | markInvalid =>
    cases stored with
    | none => exact Work.relays_pure _
    | some c => exact (Work.relays_replaceStatus _).bind fun _ => Work.relays_pure _
  | markInstalled =>
    cases stored with
    | none => exact Work.relays_pure _
    | some c => exact (Work.relays_replaceStatus _).bind fun _ => Work.relays_pure _
  | delete =>
    cases stored with
    | none => exact Work.relays_pure _
    | some c =>
      exact (relays_removePhases i _ _).bind fun _ =>
        (Work.relays_removeFinalizer name).bind fun _ => Work.relays_pure _

/-! ## What the work of a phase came to -/

/-- A phase was due for what was read, and its work has come to `own`. -/
def Worked (i : Installation) (name : String) (c : Config) (phase : Phase)
    (own : Option (Except Fault Bool)) (es : Calls) : Prop :=
  i.decide name (some c) = .run phase ∧ ∃ during after,
    es = i.opening name (some c) ++ (during ++ after) ∧ (i.work c phase).Exec heard [] own during

/-- **What follows the work.** The calls of a pass say what the work of the phase was, and the rest
of the pass is what is made of it. -/
theorem Worked.concluded {own : Option (Except Fault Bool)}
    (run : (i.pass name).Exec heard [] result es) (worked : i.Worked name c phase own es) :
    ∃ during after ending, es = i.opening name (some c) ++ (during ++ after ++ ending) ∧
      (i.work c phase).Exec heard [] own during ∧ i.Concluded c phase own result after ∧
        ending <+: i.closing name (some c) := by
  obtain ⟨due, during, after, rfl, working⟩ := worked
  rcases (pass_tells i name).exec run with ⟨f, -, same⟩ | ⟨stored, performed, ending, same, ends,
    performing⟩
  · cases same
  · obtain ⟨rfl, rest⟩ := opening_inj same
    rw [due] at performing
    obtain ⟨own', during', after', rfl, working', concluded⟩ :=
      (runPhase_tells i c phase).exec performing
    rw [List.append_assoc] at rest
    obtain ⟨rfl, rfl⟩ := Program.Exec.unique working working' rest
    exact ⟨during, after', ending, same.trans (by rw [List.append_assoc]), working, concluded, ends⟩

/-- Everything that a pass asks to be recorded about a phase comes after the work, and nothing else
in the pass writes to the resource. -/
theorem Worked.writes {own : Option (Except Fault Bool)}
    (run : (i.pass name).Exec heard [] result es) (worked : i.Worked name c phase own es) :
    ∃ after, i.Concluded c phase own result after ∧ es.recordings = Calls.recordings after ∧
      ∀ e ∈ es, e.request.writesConfig = false ∨ e ∈ after := by
  obtain ⟨during, after, ending, rfl, working, concluded, ends⟩ := worked.concluded run
  refine ⟨after, concluded, ?_, fun e mem => ?_⟩
  · simp only [Calls.recordings_append, opening_recordings, work_recordings working,
      closing_recordings ends, List.nil_append, List.append_nil]
  · simp only [List.mem_append] at mem
    rcases mem with opens | (works | concludes) | closes
    · exact Or.inl (opening_idle i name _ e opens).1
    · exact Or.inl ((work_leavesConfig i c phase).tells.exec working e works)
    · exact Or.inr concludes
    · exact Or.inl (closing_idle ends e closes).1

/-- A pass whose fault is under a phase's name has worked on that phase, or was given that fault as
an answer. -/
theorem pass_reports (i : Installation) (name : String) :
    (i.pass name).Tells fun result es => ∀ phase f, result = some (.error (.inPhase phase f)) →
      (∃ c, i.Worked name c phase (some (.error f)) es) ∨
        ∃ e ∈ es, e.fault? = some (.inPhase phase f) := by
  refine (pass_tells i name).mono fun result es => ?_
  rintro (⟨fault, rfl, rfl⟩ | ⟨stored, performed, ending, rfl, ends, performing⟩) phase f reported
  · cases reported
    exact Or.inr ⟨_, List.mem_cons_of_mem _ (List.mem_singleton_self _), rfl⟩
  have among {e : Call} (mem : e ∈ performed) :
      e ∈ i.opening name stored ++ (performed ++ ending) :=
    List.mem_append_right _ (List.mem_append_left _ mem)
  by_cases phases : ∃ due, i.decide name stored = .run due
  · obtain ⟨due, runs⟩ := phases
    obtain ⟨c, rfl, -⟩ := decide_run runs
    rw [runs] at performing
    obtain ⟨own, during, after, rfl, working, concluded⟩ :=
      (runPhase_tells i c due).exec performing
    cases concluded with
    | failed g reply =>
      cases reported
      exact Or.inl ⟨c, runs, during, _, by rw [List.append_assoc], working⟩
    | unrecorded g =>
      cases reported
      exact Or.inr ⟨_, among (List.mem_append_right _ (List.mem_singleton_self _)), rfl⟩
    | waiting => cases reported
    | passed stored => cases reported
    | gaveUp => cases reported
  · obtain ⟨e, mem, answered⟩ :=
      (relays_perform i name (not_exists.1 phases) stored).exec performing _ reported
    exact Or.inr ⟨e, among mem, answered⟩

/-! ## The rules -/

/-- The rules of a pass about the faults of phases. -/
structure Accounted (i : Installation) (name : String) (result : Option (Except Fault Revisit))
    (es : Calls) : Prop where
  /-- A phase is reported if and only if its work has failed. This is about faults that no answer of
  the cluster has brought under the phase's name. -/
  reported : ∀ phase f, (∀ e ∈ es, e.fault? ≠ some (.inPhase phase f)) →
    (result = some (.error (.inPhase phase f)) ↔ ∃ c, i.Worked name c phase (some (.error f)) es)
  /-- Work that has failed is recorded at once, and reported whatever becomes of the recording. -/
  failed : ∀ phase c f, i.Worked name c phase (some (.error f)) es →
    result = some (.error (.inPhase phase f)) ∧
      ∃ x details, es.recordings = [c.withCondition x i.operator.uuid] ∧
        x.code = .failed phase ∧ x.version = i.operator.version ∧ x.details = some details ∧
          details = f.text ∧ (Fault.inPhase phase f).text = phase.name ++ ": " ++ details
  /-- If the work has succeeded and that cannot be recorded, no failure is recorded instead. -/
  unrecorded : ∀ phase c w f, i.Worked name c phase (some (.ok true)) es →
    ⟨.replaceStatus w, .error f⟩ ∈ es → result = some (.error f) ∧
      ∃ x, es.recordings = [c.withCondition x i.operator.uuid] ∧ x.code.isError = false
  /-- If the manifest of the phase cannot be prepared, no object is asked about. -/
  unprepared : ∀ phase c halt rest, i.decide name (some c) = .run phase →
    es = i.opening name (some c) ++ rest →
    (i.bundle.forPhase phase).prepare c i.operator.documentSettings
      (phase.transformers i.environment) = .error halt →
    es.Ask (·.isObjectCall = false)

/-- A phase whose manifest cannot be prepared asks about no objects. -/
theorem work_unprepared {halt : Halt}
    (refused : (i.bundle.forPhase phase).prepare c i.operator.documentSettings
      (phase.transformers i.environment) = .error halt) :
    (i.work c phase).Only (·.isObjectCall = false) := by
  have apply : (i.applyManifest c phase).Only (·.isObjectCall = false) := by
    rw [applyManifest, refused]
    cases halt <;> trivial
  exact work_only apply (fun _ _ => rfl) fun _ => rfl

theorem Concluded.asks {own : Option (Except Fault Bool)} {after : Calls}
    (h : i.Concluded c phase own result after) : after.Ask (·.isObjectCall = false) := by
  cases h <;> simp [Calls.Ask, Request.isObjectCall]

/-- Where a recording is refused after the work has succeeded, it is the one of the success, and it
is the last thing that happens to the resource. -/
theorem Worked.refused {w : Config} {f : Fault} (run : (i.pass name).Exec heard [] result es)
    (worked : i.Worked name c phase (some (.ok true)) es)
    (mem : (⟨.replaceStatus w, .error f⟩ : Call) ∈ es) :
    result = some (.error f) ∧
      es.recordings = [c.withCondition (i.passedCondition c phase) i.operator.uuid] ∧
        ∀ e ∈ es, e.request.writesConfig = false ∨ ∃ w f, e = ⟨.replaceStatus w, .error f⟩ := by
  obtain ⟨after, concluded, recorded, writes⟩ := worked.writes run
  have place : (⟨.replaceStatus w, .error f⟩ : Call) ∈ after := (writes _ mem).resolve_left nofun
  cases concluded with
  | passed stored => cases List.mem_singleton.1 place
  | unrecorded g =>
    cases List.mem_singleton.1 place
    exact ⟨rfl, recorded, fun e mem =>
      (writes e mem).imp_right fun last => ⟨_, _, List.mem_singleton.1 last⟩⟩

theorem isError_passedCondition (i : Installation) (c : Config) (phase : Phase) :
    (i.passedCondition c phase).code.isError = false := by
  cases phase <;> exact i.plan.isError_successCode _

theorem pass_accounted (i : Installation) (name : String) :
    (i.pass name).Tells (i.Accounted name) := by
  refine (Work.tells_exec (i.pass name)).mono fun result es run => ?_
  have failed : ∀ phase c f, i.Worked name c phase (some (.error f)) es →
      result = some (.error (.inPhase phase f)) ∧
        es.recordings = [c.withCondition (i.failedCondition c phase f) i.operator.uuid] := by
    intro phase c f worked
    obtain ⟨after, concluded, same, -⟩ := worked.writes run
    cases concluded
    exact ⟨rfl, same⟩
  constructor
  case reported =>
    intro phase f own
    refine ⟨fun reports => ?_, fun ⟨c, worked⟩ => (failed phase c f worked).1⟩
    rcases (pass_reports i name).exec run phase f reports with worked | ⟨e, mem, answered⟩
    · exact worked
    · exact absurd answered (own e mem)
  case failed =>
    intro phase c f worked
    obtain ⟨reports, recorded⟩ := failed phase c f worked
    exact ⟨reports, _, f.text, recorded, rfl, rfl, rfl, rfl, rfl⟩
  case unrecorded =>
    intro phase c w f worked mem
    obtain ⟨reports, recorded, -⟩ := worked.refused run mem
    exact ⟨reports, _, recorded, isError_passedCondition i c phase⟩
  case unprepared =>
    rintro phase c halt rest due rfl refused
    rcases (pass_tells i name).exec run with ⟨f, -, same⟩ | ⟨stored, performed, ending, same, ends,
      performing⟩
    · cases same
    · obtain ⟨rfl, rfl⟩ := opening_inj same
      rw [due] at performing
      obtain ⟨own, during, after, rfl, working, concluded⟩ :=
        (runPhase_tells i c phase).exec performing
      have opens : (i.opening name (some c)).Ask (·.isObjectCall = false) :=
        (opening_framing i name (some c)).mono fun _ framing => framing.1
      have closes : ending.Ask (·.isObjectCall = false) :=
        (closing_framing ends).mono fun _ framing => framing.1
      have asked := (work_unprepared refused).tells.exec working
      exact opens.append ((asked.append concluded.asks).append closes)

end Installation

/-! ## The next pass -/

/-- How a cluster may answer in which a recording that was refused has not been done. -/
def Ledger.Decisive : PhasedInstall.Conduct Cluster.interface Config
  | .replaceStatus w, c, reply, c' =>
    (c' = { c with status := w.status } ∧ ∃ stored, reply = .ok stored) ∨
      (c' = c ∧ ∃ f, reply = .error f)
  | r, c, reply, c' => Ledger.Conduct r c reply c'

namespace Ledger

variable {c c' : Config}

theorem Decisive.conduct {r : Request} {reply : r.Reply} (step : Decisive r c reply c') :
    Conduct r c reply c' := by
  cases r with
  | replaceStatus w => exact step.imp_left And.left
  | _ => exact step

theorem Decisive.still {r : Request} {reply : r.Reply}
    (h : r.writesConfig = false ∨ ∃ w f, (⟨r, reply⟩ : Call) = ⟨.replaceStatus w, .error f⟩)
    (step : Decisive r c reply c') : c' = c := by
  rcases h with leaves | ⟨w, f, same⟩
  · exact step.conduct.still leaves
  · cases same
    rcases step with ⟨-, _, granted⟩ | ⟨same, -⟩
    · cases granted
    · exact same

end Ledger

namespace Installation

open Ledger

variable {i : Installation} {name : String} {c c' d : Config} {phase : Phase}

/-- Where the success of a phase could not be recorded, the phase stays due. -/
theorem Worked.again {w : Config} {f : Fault} {result : Option (Except Fault Revisit)} {es : Calls}
    (run : (i.pass name).Exec Decisive.recorded (c, []) result (c', es))
    (worked : i.Worked name d phase (some (.ok true)) es)
    (mem : (⟨.replaceStatus w, .error f⟩ : Call) ∈ es) :
    c' = c ∧ i.decide name (some c') = .run phase := by
  have heard : (i.pass name).Exec heard [] result es := (Work.tells_exec _).recorded run
  obtain ⟨-, -, harmless⟩ := worked.refused heard mem
  have leads : Program.Leads Decisive c es c' := Program.Exec.leads run
  have same : c' = c := leads.keeps (fun _ _ _ _ => Decisive.still) harmless
  obtain ⟨due, during, after, rfl, -⟩ := worked
  rcases pass_recorded (fun _ _ _ _ => Decisive.conduct) run with ⟨g, -, -, unread⟩ |
    ⟨performed, ending, opens, -⟩
  · cases unread
  · obtain ⟨⟨⟩, -⟩ := opening_inj opens
    exact ⟨same, same ▸ due⟩

/-- **The faults of phases are accounted for.** Whatever a pass is answered, it keeps the rules in
`Accounted`. And in a cluster in which a refused recording has not been done, the resource is as it
was after a pass whose work has succeeded without being recorded, and the same phase is due. -/
theorem phase_faults_accounted (i : Installation) (name : String) :
    (∀ result es, (i.pass name).Exec heard [] result es → i.Accounted name result es) ∧
      ∀ c d c' phase w f result (es : Calls),
        (i.pass name).Exec Decisive.recorded (c, []) result (c', es) →
        i.Worked name d phase (some (.ok true)) es →
        (⟨.replaceStatus w, .error f⟩ : Call) ∈ es →
        c' = c ∧ i.decide name (some c') = .run phase := by
  refine ⟨fun result es run => (pass_accounted i name).exec run, ?_⟩
  intro c d c' phase w f result es run worked mem
  exact worked.again run mem

/-- The answer to a request that is not permitted. -/
def forbidden : Fault := .refused (.ofReason 403 "Forbidden")

/-- Answers of a cluster in which nothing may be created or recorded. -/
def forbidding : (r : Request) → Config → r.Reply × Config
  | .readConfig _, c => (.ok (some c), c)
  | .replaceStatus _, c => (.error forbidden, c)
  | .create _, c => (.error forbidden, c)
  | r, c => (vacant r, c)

theorem decisive_forbidding (r : Request) (c : Config) :
    Decisive r c (forbidding r c).1 (forbidding r c).2 := by
  cases r <;> simp [Decisive, Ledger.Conduct, forbidding]

/-- A pass in that cluster: how it ends, the resource afterwards, and its calls. -/
def forbiddenPass (i : Installation) (c : Config) :
    Option (Except Fault Revisit) × Config × Calls :=
  (i.pass i.operator.watchResource).run.run (recording forbidding) (c, [])

theorem exec_forbiddenPass (i : Installation) (c : Config) :
    (i.pass i.operator.watchResource).Exec Decisive.recorded (c, []) (i.forbiddenPass c).1
      ((i.forbiddenPass c).2.1, (i.forbiddenPass c).2.2) :=
  Program.exec_recording decisive_forbidding _ (c, [])

/-- A pass that is due for a phase and ends with a fault of no phase has done the work of that
phase, and could not record it. -/
theorem Worked.of_bare {f : Fault} {es : Calls}
    (run : (i.pass name).Exec Decisive.recorded (c, []) (some (.error f)) (c', es))
    (read : es.length ≠ 2) (due : i.decide name (some c) = .run phase)
    (bare : ∀ g, f ≠ .inPhase phase g) :
    i.Worked name c phase (some (.ok true)) es ∧
      ∃ w, (⟨.replaceStatus w, .error f⟩ : Call) ∈ es := by
  rcases pass_recorded (fun _ _ _ _ => Decisive.conduct) run with ⟨g, -, -, rfl⟩ |
    ⟨performed, ending, rfl, -, performing, -⟩
  · exact absurd rfl read
  · rw [due] at performing
    obtain ⟨own, during, after, rfl, working, concluded⟩ :=
      (runPhase_tells i c phase).exec performing
    cases concluded with
    | failed g reply => exact absurd rfl (bare g)
    | unrecorded g =>
      have last := List.mem_append_right during (List.mem_singleton_self
        (⟨.replaceStatus (c.withCondition (i.passedCondition c phase) i.operator.uuid), .error f⟩ :
          Call))
      exact ⟨⟨due, during, _, by rw [List.append_assoc], working⟩, _,
        List.mem_append_right _ (List.mem_append_left ending last)⟩

/-- A phase that must not create its objects fails under its name, although that must not be
recorded either. A phase that has nothing to create succeeds, and is due again. -/
theorem phase_faults_accounted_forbidden :
    let name := Operator.defaultWatchResource
    let failing := Site.sample.forbiddenPass untouched
    let passing := (bare "v1").forbiddenPass untouched
    failing.1 = some (.error (.inPhase .applyPipeline forbidden)) ∧
      Site.sample.Accounted name failing.1 failing.2.2 ∧
      (bare "v1").Worked name untouched .applyPipeline (some (.ok true)) passing.2.2 ∧
      (∃ w, (⟨.replaceStatus w, .error forbidden⟩ : Call) ∈ passing.2.2) ∧
      passing.2.1 = untouched ∧
      (bare "v1").decide name (some passing.2.1) = .run .applyPipeline := by
  intro name failing passing
  have fails := (Work.tells_exec _).recorded (exec_forbiddenPass Site.sample untouched)
  have passes := exec_forbiddenPass (bare "v1") untouched
  have refused : passing.1 = some (.error forbidden) := by decide +kernel
  have due : (bare "v1").decide name (some untouched) = .run .applyPipeline := by decide +kernel
  rw [refused] at passes
  obtain ⟨worked, w, mem⟩ := Worked.of_bare passes (by decide +kernel) due nofun
  exact ⟨by decide +kernel, (phase_faults_accounted Site.sample name).1 _ _ fails, worked, ⟨w, mem⟩,
    (phase_faults_accounted (bare "v1") name).2 _ _ _ _ _ _ _ _ passes worked mem⟩

end Installation

end PhasedInstall
