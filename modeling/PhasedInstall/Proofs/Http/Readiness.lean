import PhasedInstall.Proofs.Http.Finalizers

/-!
# What the checks of readiness find

A check looks up one object under a known target. `Truthful` is a server that tells what it keeps
there, or refuses to tell; whatever else happens to the objects is left open, so what a check says
is about the moment at which it was answered.

`Json.RolledOut` says of a stored deployment that its rollout is complete, in terms of its fields
and nothing else. A deployment is found ready if and only if it is there and has rolled out, and a
webhook if and only if it is registered. Everything else is either "not ready" or a fault, and only
what is missing or not through yet is "not ready".
-/

set_option autoImplicit false

namespace PhasedInstall

namespace Json

/-- A number of a stored object. One that is not given is zero. -/
def count (v : Json) (path : Pointer) : Int := ((v.at? path).bind int64?).getD 0

/-- What a stored deployment reports about its progress: the first condition of that type. -/
def progress? (v : Json) : Option Json :=
  (((v.at? ["status", "conditions"]).bind items?).getD []).find? fun x =>
    (x.get? "type").bind str? == some "Progressing"

/-- Whether a stored deployment has rolled out. -/
structure RolledOut (v : Json) : Prop where
  reported : ∃ status, v.get? "status" = some status ∧ status.isNull = false
  observed : v.count ["metadata", "generation"] ≤ v.count ["status", "observedGeneration"]
  inTime : ∀ x, v.progress? = some x →
    (x.get? "reason").bind str? ≠ some "ProgressDeadlineExceeded"
  desired : ∀ n, (v.at? ["spec", "replicas"]).bind int32? = some n →
    n ≤ v.count ["status", "updatedReplicas"]
  replaced : v.count ["status", "replicas"] ≤ v.count ["status", "updatedReplicas"]
  available : v.count ["status", "updatedReplicas"] ≤ v.count ["status", "availableReplicas"]

end Json

/-! ## A rollout that is read -/

section
variable {v status : Json} {d : Deployment}

/-- The numbers of a rollout are those of the deployment that reports it. -/
theorem Rollout.ofJson_counts (found : v.get? "status" = some status) :
    (Rollout.ofJson status).observedGeneration = v.count ["status", "observedGeneration"] ∧
      (Rollout.ofJson status).replicas = v.count ["status", "replicas"] ∧
      (Rollout.ofJson status).updated = v.count ["status", "updatedReplicas"] ∧
      (Rollout.ofJson status).available = v.count ["status", "availableReplicas"] := by
  have below {key : String} (name : Pointer.index? key = none) :
      ((status.get? key).bind Json.int64?).getD 0 = v.count ["status", key] := by
    rw [Json.count, Json.at?_of_names (by decide) name, found]
    rfl
  exact ⟨below (by decide), below (by decide), below (by decide), below (by decide)⟩

/-- The first report on progress says that the deadline has passed, or nothing does. -/
theorem Rollout.deadlineExceeded_ofJson (found : v.get? "status" = some status) :
    (Rollout.ofJson status).deadlineExceeded = true ↔
      ∃ x, v.progress? = some x ∧ (x.get? "reason").bind Json.str? =
        some "ProgressDeadlineExceeded" := by
  have listed : v.at? ["status", "conditions"] = status.get? "conditions" := by
    rw [Json.at?_of_names (by decide) (by decide), found]
    rfl
  have typed (x : Json) : ((DeploymentCondition.ofJson x).type == "Progressing") =
      ((x.get? "type").bind Json.str? == some "Progressing") := by
    unfold DeploymentCondition.ofJson
    cases (x.get? "type").bind Json.str? <;> rfl
  simp only [deadlineExceeded, Rollout.ofJson, Json.progress?, listed, List.find?_map,
    Function.comp_def, typed]
  cases (((status.get? "conditions").bind Json.items?).getD []).find? _ <;>
    simp [DeploymentCondition.ofJson]

/-- What is asked of a deployment that is found ready. -/
theorem Deployment.ready_eq_true_iff (d : Deployment) :
    d.ready = .ok true ↔ ∃ r, d.rollout = some r ∧ d.generation ≤ r.observedGeneration ∧
      r.deadlineExceeded = false ∧ (∀ n, d.desired = some n → n ≤ r.updated) ∧
        r.replicas ≤ r.updated ∧ r.updated ≤ r.available := by
  unfold ready
  cases d.rollout with
  | none => simp
  | some r =>
    simp only [Option.some.injEq, exists_eq_left']
    split
    · rename_i unseen
      exact ⟨nofun, fun h => absurd unseen (Int.not_lt.2 h.1)⟩
    · rename_i seen
      cases r.deadlineExceeded with
      | true => simp
      | false =>
        cases d.desired <;> simp [Int.not_lt.1 seen, and_assoc]

/-- **A deployment is found ready if and only if it has rolled out**, as far as it can be read. -/
theorem Deployment.ready_iff (read : Deployment.ofJson? v = some d) :
    d.ready = .ok true ↔ v.RolledOut := by
  unfold ofJson? at read
  split at read
  case isFalse => cases read
  obtain rfl := Option.some.inj read
  rw [ready_eq_true_iff]
  constructor
  · rintro ⟨r, rollout, observed, inTime, desired, replaced, available⟩
    obtain ⟨status, found, rfl⟩ := Option.map_eq_some_iff.1 rollout
    obtain ⟨found, object⟩ := Option.filter_eq_some_iff.1 found
    obtain ⟨generation, replicas, updated, free⟩ := Rollout.ofJson_counts found
    rw [generation] at observed
    rw [updated] at desired
    rw [replicas, updated] at replaced
    rw [updated, free] at available
    have late := (Rollout.deadlineExceeded_ofJson found).not.1 (by rw [inTime]; decide)
    exact ⟨⟨status, found, by simpa using object⟩, observed,
      fun x first why => late ⟨x, first, why⟩, desired, replaced, available⟩
  · rintro ⟨⟨status, found, object⟩, observed, inTime, desired, replaced, available⟩
    obtain ⟨generation, replicas, updated, free⟩ := Rollout.ofJson_counts found
    refine ⟨Rollout.ofJson status, ?_, ?_, ?_, ?_, ?_, ?_⟩
    · simp [found, object]
    · rwa [generation]
    · rw [Bool.eq_false_iff, ne_eq, Rollout.deadlineExceeded_ofJson found]
      rintro ⟨x, first, why⟩
      exact inTime x first why
    · rwa [updated]
    · rwa [replicas, updated]
    · rwa [updated, free]

end

namespace Http

/-! ## What is kept under a target -/

/-- What a server keeps under its targets. -/
abbrev Stored := Target → Option Json

/-- How a server may answer that tells what it keeps. It may refuse to tell, and it is left open
what becomes of what it keeps. -/
def Truthful : Conduct interface Stored
  | .send r, s, reply, _ =>
    r.method = .get →
      (isFailure reply.status = true ∧
        ((refusalOf reply).reason = "NotFound" → s r.target = none)) ∨
      (isFailure reply.status = false ∧
        ∃ v, s r.target = some v ∧ Json.parse? reply.text = some v)
  | _, _, _, _ => True

/-- What is reported as not found is absent. -/
def present {α : Type} : Except Fault α → Except Fault (Option α)
  | .ok a => .ok (some a)
  | .error (.refused r) => if r.reason = "NotFound" then .ok none else .error (.refused r)
  | .error f => .error f

/-- What a response says about the value under a target. -/
def lookup {α : Type} (read? : Json → Option α) (r : Response) : Except Fault (Option α) :=
  present (textOf r >>= readAs read?)

/-- A question about the value under a target: one exchange, and what is made of the response. -/
def inquire {β : Type} (path : String) (judge : Response → Except Fault β) :
    Program interface (Except Fault β) :=
  match Target.ofText? path with
  | none => .done (.error unsent)
  | some target => .ask (.send ⟨.get, target, none⟩) fun reply => .done (judge reply)

section
variable {α β : Type} {read? : Json → Option α} {path : String} {s s' : Stored} {v : Json}
  {reply : Response} {target : Target}

theorem run_fetch? : (fetch? read? path).run = inquire path (lookup read?) := by
  unfold fetch? inquire Link.outcome
  rw [ExceptT.run_bind, ExceptT.run_lift]
  cases addressed : Target.ofText? path with
  | none =>
    unfold fetch send
    simp only [addressed]
    rfl
  | some target =>
    rw [run_fetch addressed]
    refine congrArg (Program.ask _) (funext fun reply => ?_)
    unfold lookup
    beta_reduce
    generalize textOf reply >>= readAs read? = answer
    rcases answer with f | a
    · cases f with
      | refused refusal =>
        show ExceptT.run (if refusal.reason = "NotFound" then pure none else
          throw (Fault.refused refusal)) = Program.done (ite _ _ _)
        split <;> rfl
      | _ => rfl
    · rfl

theorem run_fetch?_bind (f : Option α → Except Fault β) :
    (fetch? read? path >>= fun found => Link.ofExcept (f found)).run =
      inquire path fun reply => lookup read? reply >>= f := by
  rw [ExceptT.run_bind, run_fetch?]
  unfold inquire
  cases Target.ofText? path with
  | none => rfl
  | some target =>
    refine congrArg (Program.ask _) (funext fun reply => ?_)
    show Program.bind (.done (lookup read? reply)) _ = .done (lookup read? reply >>= f)
    generalize lookup read? reply = answer
    cases answer with
    | error fault => rfl
    | ok found =>
      show (Link.ofExcept (f found)).run = .done (f found)
      cases f found <;> rfl

/-- What a truthful response says is what is there. -/
theorem lookup_eq_ok (truthful : Truthful (.send ⟨.get, target, none⟩) s reply s')
    {found : Option α} (said : lookup read? reply = .ok found) :
    (found = none ∧ s target = none) ∨ ∃ v a, found = some a ∧ s target = some v ∧
      read? v = some a := by
  rcases truthful rfl with ⟨failed, honest⟩ | ⟨granted, v, stored, parsed⟩
  · rw [lookup, Client.textOf_of_isFailure failed] at said
    change (ite _ _ _ : Except Fault (Option α)) = _ at said
    split at said
    · rename_i missing
      cases said
      exact Or.inl ⟨rfl, honest missing⟩
    · cases said
  · have text : textOf reply = .ok reply.text := if_neg (by rw [granted]; decide)
    have same : textOf reply >>= readAs read? = (read? v).elim (.error .undecodable) .ok := by
      rw [text]
      show readAs read? reply.text = _
      rw [readAs, parsed, Option.bind_some]
      cases read? v <;> rfl
    rw [lookup, same] at said
    cases read : read? v with
    | none =>
      rw [read] at said
      cases said
    | some a =>
      rw [read] at said
      cases said
      exact Or.inr ⟨v, a, rfl, stored, read⟩

/-- A question that a truthful server answers is decided by what is there. -/
theorem exec_inquire {judge : Response → Except Fault β} {result : Except Fault β}
    (run : Program.Exec Truthful (inquire path judge) s (some result) s')
    (addressable : result ≠ .error unsent) :
    ∃ target reply after, Target.ofText? path = some target ∧ result = judge reply ∧
      Truthful (.send ⟨.get, target, none⟩) s reply after := by
  unfold inquire at run
  cases addressed : Target.ofText? path with
  | none =>
    rw [addressed] at run
    cases run
    exact absurd rfl addressable
  | some target =>
    rw [addressed] at run
    cases run with
    | ask step rest =>
      cases rest
      exact ⟨target, _, _, rfl, rfl, step⟩

end

/-! ## The checks -/

/-- A check of readiness. -/
inductive Check where
  | deployment (name ns : String)
  | webhook (name : String)
deriving DecidableEq, Repr

namespace Check

/-- Where the object is that the check is about. -/
def path : Check → String
  | deployment name ns => "/apis/apps/v1/namespaces/" ++ ns ++ "/deployments/" ++ name
  | webhook name =>
    "/apis/admissionregistration.k8s.io/v1/mutatingwebhookconfigurations/" ++ name

/-- The check as it is carried out. -/
def link : Check → Link Bool
  | deployment name ns => Client.deploymentReady name ns
  | webhook name => Client.webhookExists name

/-- What is asked of the object. -/
def Accepts : Check → Json → Prop
  | deployment _ _, v => v.RolledOut
  | webhook _, _ => True

/-- The object of the check is there and is as it should be. -/
def Met (k : Check) (s : Stored) : Prop :=
  ∃ target v, Target.ofText? k.path = some target ∧ s target = some v ∧ k.Accepts v

/-- What the check makes of a response. -/
def judge : Check → Response → Except Fault Bool
  | deployment _ _ => fun r => lookup Deployment.ofJson? r >>= fun found =>
    match found with
    | none => .ok false
    | some d => d.ready
  | webhook _ => fun r => lookup (fun v =>
      if Shape.acceptsObject "admissionregistration.k8s.io/v1" "MutatingWebhookConfiguration"
        .webhookConfiguration v then some () else none) r >>= fun found => .ok found.isSome

theorem carryOut_deploymentReady (client : Client) (name ns : String) :
    client.carryOut (.deploymentReady name ns) = (deployment name ns).link.run := by
  simp only [Client.carryOut, link]

theorem carryOut_webhookExists (client : Client) (name : String) :
    client.carryOut (.webhookExists name) = (webhook name).link.run := by
  simp only [Client.carryOut, link]

theorem run_link (k : Check) : k.link.run = inquire k.path k.judge := by
  cases k with
  | deployment name ns =>
    have goesOn : link (deployment name ns) =
        fetch? Deployment.ofJson? (deployment name ns).path >>= fun found =>
          Link.ofExcept (match found with | none => .ok false | some d => d.ready) := by
      unfold link Client.deploymentReady
      refine bind_congr fun found => ?_
      cases found <;> rfl
    rw [goesOn, run_fetch?_bind]
    rfl
  | webhook name =>
    unfold link Client.webhookExists Client.isStored
    exact run_fetch?_bind fun found => .ok found.isSome

/-- What a check comes to is decided by what the response says about the object. -/
theorem met_iff_of_judge {k : Check} {s s' : Stored} {target : Target} {reply : Response}
    {b : Bool} (addressed : Target.ofText? k.path = some target)
    (truthful : Truthful (.send ⟨.get, target, none⟩) s reply s')
    (judged : k.judge reply = .ok b) : k.Met s ↔ b = true := by
  have stored : k.Met s ↔ ∃ v, s target = some v ∧ k.Accepts v := by
    constructor
    · rintro ⟨other, v, own, found, accepted⟩
      obtain rfl := Option.some.inj (own.symm.trans addressed)
      exact ⟨v, found, accepted⟩
    · rintro ⟨v, found, accepted⟩
      exact ⟨target, v, addressed, found, accepted⟩
  rw [stored]
  cases k with
  | deployment name ns =>
    obtain ⟨found, said, ready⟩ := bind_eq_ok judged
    rcases lookup_eq_ok truthful said with ⟨rfl, absent⟩ | ⟨v, d, rfl, there, read⟩
    · cases ready
      simp [absent]
    · have rolledOut : (Except.ok b : Except Fault Bool) = .ok true ↔ v.RolledOut :=
        ready ▸ Deployment.ready_iff read
      simp only [there, Option.some.injEq, exists_eq_left']
      simpa [Accepts] using rolledOut.symm
  | webhook name =>
    obtain ⟨found, said, registered⟩ := bind_eq_ok judged
    rcases lookup_eq_ok truthful said with ⟨rfl, absent⟩ | ⟨v, d, rfl, there, -⟩
    · cases registered
      simp [absent]
    · cases registered
      simp [there, Accepts]

/-- **A check that a truthful server answers tells whether its object is as it should be.** -/
theorem met_iff_of_exec {k : Check} {s s' : Stored} {b : Bool}
    (run : Program.Exec Truthful k.link.run s (some (.ok b)) s') : k.Met s ↔ b = true := by
  rw [run_link] at run
  obtain ⟨target, reply, after, addressed, judged, truthful⟩ := exec_inquire run nofun
  exact met_iff_of_judge addressed truthful judged.symm

end Check

end Http

end PhasedInstall
