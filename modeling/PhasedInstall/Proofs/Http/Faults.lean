import PhasedInstall.Http.Client
import PhasedInstall.Proofs.Cluster.Calls

/-!
# The faults of the client

The failure of a phase is a fault that the operator itself makes up, out of a fault that the work of
the phase has met. A client knows of no phases: whatever a server responds, the fault of a request
is a refusal, or an answer that cannot be read, or a request that cannot be made.

`Link.Plain` says that of an exchange. It is closed under the constructs that the client is written
in, so it is proved like `Work.Only`, construct by construct.
-/

set_option autoImplicit false

namespace PhasedInstall

/-- The phase that has failed. -/
def Fault.phase? : Fault → Option Phase
  | inPhase phase _ => some phase
  | _ => none

namespace Http

namespace Link

variable {α β : Type}

/-- No fault of the exchange is the failure of a phase. -/
structure Plain (l : Link α) : Prop where
  tells : Program.Tells l.run fun result _ => ∀ f, result = some (.error f) → f.phase? = none

theorem plain_pure (a : α) : (pure a : Link α).Plain := ⟨Program.tells_done nofun⟩

theorem plain_throw {f : Fault} (plain : f.phase? = none) : (throw f : Link α).Plain := by
  refine ⟨Program.tells_done ?_⟩
  rintro _ ⟨⟩
  exact plain

theorem plain_ofExcept {e : Except Fault α} (plain : ∀ f, e = .error f → f.phase? = none) :
    (ofExcept e).Plain := by
  cases e with
  | ok a => exact plain_pure a
  | error f => exact plain_throw (plain f rfl)

theorem Plain.bind {l : Link α} {f : α → Link β} (first : l.Plain) (rest : ∀ a, (f a).Plain) :
    (l >>= f).Plain := by
  constructor
  rw [ExceptT.run_bind]
  refine Program.Tells.bind first.tells (fun result said plain => ?_) fun _ _ => nofun
  cases result with
  | ok a => exact (rest a).tells
  | error fault =>
    refine Program.tells_done ?_
    rintro _ ⟨⟩
    exact plain fault rfl

/-- What follows an outcome may report its fault again. -/
theorem Plain.outcome_bind {l : Link α} {f : Except Fault α → Link β} (first : l.Plain)
    (onResult : ∀ a, (f (.ok a)).Plain)
    (onFault : ∀ fault, fault.phase? = none → (f (.error fault)).Plain) :
    (l.outcome >>= f).Plain := by
  have whole : (l.outcome >>= f).run = l.run >>= fun result => (f result).run := by
    rw [outcome, ExceptT.run_bind, ExceptT.run_lift, map_eq_pure_bind, bind_assoc]
    rfl
  constructor
  rw [whole]
  refine Program.Tells.bind first.tells (fun result said plain => ?_) fun _ _ => nofun
  cases result with
  | ok a => exact (onResult a).tells
  | error fault => exact (onFault fault (plain fault rfl)).tells

end Link

/-! ## Exchanges -/

section
variable {α : Type} {read? : Json → Option α} {method : Method} {target : String}
  {body : Option Json}

theorem plain_send : (send method target body).Plain := by
  have asks (s : Step) : Link.Plain (ExceptT.lift (ask s)) :=
    ⟨Program.tells_ask fun _ => Program.tells_done (by rintro _ ⟨⟩)⟩
  unfold send
  split
  · exact Link.plain_throw rfl
  · refine (asks _).bind fun reply => Link.plain_ofExcept fun f refused => ?_
    unfold textOf at refused
    split at refused <;> cases refused
    rfl

theorem plain_fetch : (fetch read? method target body).Plain := by
  unfold fetch
  refine plain_send.bind fun text => Link.plain_ofExcept ?_
  rintro f unread
  unfold readAs at unread
  split at unread <;> cases unread
  rfl

theorem plain_fetch? : (fetch? read? target).Plain := by
  unfold fetch?
  refine plain_fetch.outcome_bind (fun a => Link.plain_pure _) fun f plain => ?_
  cases f with
  | refused r =>
    dsimp only
    split
    · exact Link.plain_pure _
    · exact Link.plain_throw rfl
  | _ => exact Link.plain_throw plain

theorem plain_discover (a : KindAddress) : (Location.discover a).Plain := by
  unfold Location.discover
  split
  · exact Link.plain_throw rfl
  · refine plain_fetch.bind fun l => ?_
    split
    · exact Link.plain_pure _
    · exact Link.plain_throw rfl

end

/-! ## Requests -/

theorem Object.plain_ofDocument (w : Wording) (d : Document) :
    (Link.ofExcept (ofDocument w d)).Plain := by
  refine Link.plain_ofExcept fun f refused => ?_
  unfold ofDocument at refused
  split at refused <;> cases refused
  rfl

namespace Client

variable (client : Client)

theorem plain_collectionOf (d : Document) : (client.collectionOf d).Plain := by
  have addressed : (Link.ofExcept d.kindAddress).Plain := by
    refine Link.plain_ofExcept fun f refused => ?_
    unfold Document.kindAddress at refused
    dsimp only at refused
    split at refused <;> cases refused
    rfl
  unfold collectionOf
  refine addressed.bind fun address => ?_
  exact (plain_discover address).bind fun location => Link.plain_pure _

theorem plain_ofJson (v : Json) : (Link.ofExcept (Document.ofJson v)).Plain := by
  refine Link.plain_ofExcept fun f refused => ?_
  unfold Document.ofJson Document.ofJson.refuse at refused
  split at refused
  · split at refused <;> cases refused
    rfl
  · cases refused
    rfl

theorem plain_find (d : Document) : (client.find d).Plain := by
  unfold find
  refine Link.Plain.outcome_bind (client.plain_collectionOf d) ?_ ?_
  · intro path
    refine plain_fetch?.bind fun found => ?_
    cases found with
    | none => exact Link.plain_pure _
    | some live =>
      exact (plain_ofJson live.toJson).bind fun _ => Link.plain_pure _
  · intro f plain
    dsimp only
    split
    · exact Link.plain_pure _
    · exact Link.plain_throw plain

theorem plain_create (d : Document) : (client.create d).Plain := by
  unfold create
  refine (client.plain_collectionOf d).bind fun path => ?_
  refine (Object.plain_ofDocument _ d).bind fun object => ?_
  exact plain_fetch.bind fun _ => Link.plain_pure _

theorem plain_update (d : Document) : (client.update d).Plain := by
  unfold update
  refine (client.plain_collectionOf d).bind fun path => ?_
  refine (Object.plain_ofDocument _ d).bind fun object => ?_
  exact plain_fetch.bind fun _ => Link.plain_pure _

theorem plain_delete (d : Document) (policy : DeletePolicy) : (client.delete d policy).Plain := by
  unfold delete
  exact (client.plain_collectionOf d).bind fun path => plain_fetch

theorem plain_replaceStatus (c : Config) : (replaceStatus c).Plain := by
  unfold replaceStatus
  split
  · exact Link.plain_throw rfl
  · exact plain_fetch

theorem plain_deploymentReady (name ns : String) : (deploymentReady name ns).Plain := by
  unfold deploymentReady
  refine plain_fetch?.bind fun found => ?_
  cases found with
  | none => exact Link.plain_pure _
  | some d =>
    refine Link.plain_ofExcept fun f late => ?_
    unfold Deployment.ready at late
    repeat' split at late
    all_goals cases late
    rfl

theorem plain_isStored (apiVersion kind : String) (form : RecordName) (target : String) :
    (isStored apiVersion kind form target).Plain := by
  unfold isStored
  exact plain_fetch?.bind fun _ => Link.plain_pure _

/-- **The client reports no failure of a phase**, whatever the server responds. -/
theorem carryOut_plain {r : Cluster.Request} {reply : r.Reply} {said : Transcript interface}
    (run : Program.Exec heard (client.carryOut r) [] (some reply) said) {f : Fault}
    (failed : Cluster.Call.fault? ⟨r, reply⟩ = some f) : f.phase? = none := by
  have ends {α : Type} {l : Link α} {reply : Except Fault α} (plain : l.Plain)
      (run : Program.Exec heard l.run [] (some reply) said) (failed : reply = .error f) :
      f.phase? = none := plain.tells.exec run f (congrArg some failed)
  cases r with
  | clock _ => cases failed
  | sleep _ _ => cases failed
  | report _ => cases failed
  | readConfig _ =>
    rcases reply with _ | _ <;> cases failed
    exact ends plain_fetch? run rfl
  | createConfig _ =>
    rcases reply with _ | _ <;> cases failed
    exact ends plain_fetch run rfl
  | replaceStatus c =>
    rcases reply with _ | _ <;> cases failed
    exact ends (plain_replaceStatus c) run rfl
  | addFinalizer _ =>
    rcases reply with _ | _ <;> cases failed
    exact ends plain_fetch run rfl
  | removeFinalizer _ =>
    rcases reply with _ | _ <;> cases failed
    exact ends (plain_fetch.bind fun _ => Link.plain_pure ()) run rfl
  | find d =>
    rcases reply with _ | _ <;> cases failed
    exact ends (client.plain_find d) run rfl
  | create d =>
    rcases reply with _ | _ <;> cases failed
    exact ends (client.plain_create d) run rfl
  | update d =>
    rcases reply with _ | _ <;> cases failed
    exact ends (client.plain_update d) run rfl
  | delete d policy =>
    rcases reply with _ | _ <;> cases failed
    exact ends (client.plain_delete d policy) run rfl
  | deploymentReady name ns =>
    rcases reply with _ | _ <;> cases failed
    exact ends (plain_deploymentReady name ns) run rfl
  | webhookExists _ =>
    rcases reply with _ | _ <;> cases failed
    exact ends (plain_isStored _ _ _ _) run rfl
  | definitionInstalled _ =>
    rcases reply with _ | _ <;> cases failed
    exact ends (plain_isStored _ _ _ _) run rfl

end Client

end Http

end PhasedInstall
