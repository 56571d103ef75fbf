import PhasedInstall.Proofs.Manifest.Mark
import PhasedInstall.Proofs.Manifest.Recreation
import PhasedInstall.Proofs.Manifest.Requests

/-!
# The calls by which documents are applied

Applying goes through the documents in order, and each of them is one visit: it is looked up, and
then it is created, or updated, or left alone. `Visit` lists what one visit can look like, with the
outcome that it has, and `Visits` puts the visits of several documents together. A visit that fails
is the last one. So the calls determine how far applying has come, and with success it has come to
the end (`applyAll_tells`).

For a visit to have no other ends the document must be one that was read (`Declared`). Laid over a
live object it still has its kind, and so what is to be written is a document again.
-/

set_option autoImplicit false

namespace PhasedInstall

open Cluster

namespace Cluster

/-- The document that a request about an object is made with. -/
def Request.object? : Request → Option Document
  | find d | create d | update d | delete d _ => some d
  | _ => none

/-- Whether a call was refused because of the content of an object. -/
def Call.isInvalid (e : Call) : Bool := e.fault?.any Fault.isInvalid

theorem Call.refused_of_isInvalid {e : Call} (invalid : e.isInvalid) :
    ∃ f, e.fault? = some f ∧ f.isInvalid := by
  rw [Call.isInvalid, Option.any_eq_true] at invalid
  exact invalid

/-- Requests about time are not refused. -/
theorem Call.fault?_of_isTiming {e : Call} (timing : e.request.isTiming) : e.fault? = none := by
  obtain ⟨r, reply⟩ := e
  cases r with
  | clock | sleep => rfl
  | _ => cases timing

end Cluster

namespace Document

variable {d x : Document} {r : Request} {how : Except Fault ApplyOutcome} {es : Calls}

/-- The calls of one document that is applied, with the outcome. -/
inductive Visit (d : Document) : Except Fault ApplyOutcome → Calls → Prop
  | created : Visit d (.ok .created) [⟨.find d, .ok none⟩, ⟨.create d.forCreation, .ok ()⟩]
  | updated (live : Document) : live.value.agrees (live.value.overlay d.value) = false →
      Visit d (.ok .updated)
        [⟨.find d, .ok (some live)⟩, ⟨.update ⟨live.value.overlay d.value⟩, .ok ()⟩]
  | unchanged (live : Document) : live.value.agrees (live.value.overlay d.value) = true →
      Visit d (.ok .unchanged) [⟨.find d, .ok (some live)⟩]
  | unknown (f : Fault) : Visit d (.error f) [⟨.find d, .error f⟩]
  | notCreated (f : Fault) :
      Visit d (.error f) [⟨.find d, .ok none⟩, ⟨.create d.forCreation, .error f⟩]
  | notUpdated (live : Document) (f : Fault) :
      live.value.agrees (live.value.overlay d.value) = false →
      Visit d (.error f)
        [⟨.find d, .ok (some live)⟩, ⟨.update ⟨live.value.overlay d.value⟩, .error f⟩]

theorem Declared.ofJson_overlay (declared : d.Declared) (live : Document) :
    ofJson (live.value.overlay d.value) = .ok ⟨live.value.overlay d.value⟩ := by
  have nodup := Json.nodup_of_keysDistinct declared.distinct
  have kind := kind_overlay_of_kind nodup declared.kind live
  exact ofJson_of_kind (d := ⟨live.value.overlay d.value⟩) (kind ▸ declared.kind)

/-- **Applying a document is one visit.** -/
theorem apply_tells (declared : d.Declared) :
    d.apply.Tells fun result es => ∃ how, result = some how ∧ d.Visit how es := by
  unfold apply
  refine Work.tells_find_bind (fun found => ?_) fun f => ⟨_, rfl, .unknown f⟩
  cases found with
  | none =>
    refine Work.tells_create_bind ?_ fun f => ⟨_, rfl, .notCreated f⟩
    exact Work.tells_pure ⟨_, rfl, .created⟩
  | some live =>
    dsimp only
    cases same : live.value.agrees (live.value.overlay d.value) with
    | true => exact Work.tells_pure ⟨_, rfl, .unchanged live same⟩
    | false =>
      rw [declared.ofJson_overlay live]
      refine Work.tells_update_bind ?_ fun f => ⟨_, rfl, .notUpdated live f same⟩
      exact Work.tells_pure ⟨_, rfl, .updated live same⟩

/-- A visit is what applying the document may ask. -/
theorem Visit.asks (h : d.Visit how es) : es.Ask d.Asks := by
  cases h with
  | created | notCreated => simp [Calls.Ask, Asks]
  | updated live | notUpdated live => simpa [Calls.Ask, Asks] using ⟨live, rfl⟩
  | unchanged | unknown => simp [Calls.Ask, Asks]

theorem Visit.granted {how : ApplyOutcome} (h : d.Visit (.ok how) es) : es.Granted := by
  cases h <;> simp [Calls.Granted, Call.fault?]

/-- A visit that fails ends with the call that has failed. -/
theorem Visit.refused {f : Fault} (h : d.Visit (.error f) es) :
    ∃ granted call, es = granted ++ [call] ∧ Calls.Granted granted ∧ call.fault? = some f := by
  cases h with
  | unknown => exact ⟨[], _, rfl, List.forall_mem_nil _, rfl⟩
  | notCreated => exact ⟨[_], _, rfl, List.forall_mem_singleton.2 rfl, rfl⟩
  | notUpdated live => exact ⟨[_], _, rfl, List.forall_mem_singleton.2 rfl, rfl⟩

/-- What is asked to apply a document is asked about a document of its kind. -/
theorem Asks.kind (declared : d.Declared) (asks : d.Asks r) (object : r.object? = some x) :
    x.kind = d.kind := by
  have fields := Json.nodup_of_keysDistinct declared.distinct
  cases r with
  | find wanted =>
    cases object
    rw [show x = d from asks]
  | create new =>
    cases object
    rw [show x = d.forCreation from asks]
    exact congrArg Identity.kind d.identity_forCreation
  | update merged =>
    cases object
    obtain ⟨live, rfl⟩ := asks
    exact kind_overlay_of_kind fields declared.kind live
  | _ => cases asks

theorem Asks.object?_isSome (asks : d.Asks r) : ∃ x, r.object? = some x := by
  cases r with
  | find x | create x | update x => exact ⟨x, rfl⟩
  | _ => cases asks

theorem apply_only (d : Document) : d.apply.Only d.Asks := by
  refine Work.Only.bind ⟨rfl, fun _ => trivial⟩ fun found => ?_
  cases found with
  | none => exact Work.Only.bind ⟨rfl, fun _ => trivial⟩ fun _ => Work.only_pure _
  | some live =>
    dsimp only
    split
    · exact Work.only_pure _
    · cases merge : ofJson (live.value.overlay d.value) with
      | error f => exact Work.only_throw f
      | ok merged =>
        obtain ⟨rfl, -⟩ := ofJson_eq_ok merge
        rw [Work.ofExcept, pure_bind]
        exact Work.Only.bind ⟨⟨live, rfl⟩, fun _ => trivial⟩ fun _ => Work.only_pure _

end Document

namespace Manifest

variable {d : Document} {ds ds' : List Document} {outcome : Except Fault Unit} {es es' : Calls}
  {f : Fault} {m : Manifest} {P : Request → Prop}

/-- The calls by which documents are applied in order, with the outcome: a visit of each document,
or of some of them and then a visit that fails. -/
abbrev Visits : List Document → Except Fault Unit → Calls → Prop := Calls.Series Document.Visit

/-- **Applying visits the documents in order.** -/
theorem applyAll_tells (declared : ∀ d ∈ ds, d.Declared) :
    (applyAll ds).Tells fun result es =>
      ∃ outcome, result = some outcome ∧ Visits ds outcome es := by
  induction ds with
  | nil => exact Work.tells_pure ⟨_, rfl, .done⟩
  | cons d rest ih =>
    obtain ⟨here, there⟩ := List.forall_mem_cons.1 declared
    exact Work.tells_series_cons (Document.apply_tells here) (ih there)

theorem Visits.asks (h : Visits ds outcome es) : es.Ask fun r => ∃ d ∈ ds, d.Asks r :=
  Calls.Series.asks h fun _ _ _ visit => visit.asks

/-- Nothing is refused but the last call, and that one only if applying has failed. -/
theorem Visits.ends (h : Visits ds outcome es) :
    Calls.EndsWith (fun e => e.fault? = none) (fun f e => e.fault? = some f) outcome es :=
  Calls.Series.ends h (fun _ _ _ visit => visit.granted) fun _ _ _ visit => visit.refused

theorem Visits.deletions (h : Visits ds outcome es) : es.deletions = [] := by
  refine Calls.deletions_eq_nil (h.asks.mono ?_)
  rintro r ⟨d, -, asks⟩
  exact asks.deleted?_eq_none

/-- **Visits are a part of complete visits**, as far as the requests go. -/
theorem Visits.isPrefix (h : Visits ds outcome es) :
    ∃ whole, Visits ds (.ok ()) whole ∧
      es.map Exchange.request <+: whole.map Exchange.request := by
  -- The documents that were not reached might as well be created.
  have rest (ds : List Document) : ∃ whole, Visits ds (.ok ()) whole := by
    induction ds with
    | nil => exact ⟨[], .done⟩
    | cons d _ ih =>
      obtain ⟨whole, visits⟩ := ih
      exact ⟨_, .next .created visits⟩
  induction h with
  | done => exact ⟨[], .done, List.prefix_refl _⟩
  | next visit _ ih =>
    obtain ⟨whole, visits, front⟩ := ih
    refine ⟨_, .next visit visits, ?_⟩
    rw [List.map_append, List.map_append]
    exact (List.prefix_append_right_inj _).2 front
  | @stop d others f here visit =>
    obtain ⟨whole, visits⟩ := rest others
    cases visit with
    | unknown => exact ⟨_, .next .created visits, _, rfl⟩
    | notCreated => exact ⟨_, .next .created visits, _, rfl⟩
    | notUpdated live _ differs => exact ⟨_, .next (.updated live differs) visits, _, rfl⟩

/-! ## The part that may be created anew -/

theorem applyAll_only (asks : ∀ d ∈ ds, ∀ r, d.Asks r → P r) : (applyAll ds).Only P := by
  induction ds with
  | nil => exact Work.only_pure _
  | cons d rest ih =>
    obtain ⟨here, there⟩ := List.forall_mem_cons.1 asks
    exact Work.Only.bind (d.apply_only.mono here) fun _ => ih there

theorem applyOrRecreate_only (asks : ∀ d ∈ m.documents, ∀ r, d.Asks r → P r)
    (delete : ∀ d ∈ m.documents, P (.delete d .foreground)) (clock : ∀ t, P (.clock t))
    (sleep : ∀ t n, P (.sleep t n)) (patience : Patience) :
    (m.applyOrRecreate patience).Only P := by
  have find : ∀ d ∈ m.documents, P (.find d) := fun d mem => asks d mem _ rfl
  have removes : (m.remove .foreground).Only P :=
    removeAll_only (fun d mem => find d (List.mem_reverse.1 mem)) fun d mem =>
      delete d (List.mem_reverse.1 mem)
  refine Work.Only.bind (Work.Only.outcome (applyAll_only asks)) fun applied => ?_
  cases applied with
  | ok _ => exact Work.only_pure _
  | error f =>
    dsimp only
    split
    · exact Work.Only.bind removes fun _ =>
        Work.Only.bind (awaitRemoval_only find clock sleep patience) fun _ => applyAll_only asks
    · exact Work.only_throw f

/-- **Unless a call is refused as invalid, nothing but visits comes of it.** -/
theorem applyOrRecreate_visits (declared : ∀ d ∈ m.documents, d.Declared) (patience : Patience) :
    (m.applyOrRecreate patience).Tells fun result es =>
      (∃ outcome, result = some outcome ∧ Visits m.documents outcome es) ∨
        ∃ call ∈ es, call.isInvalid := by
  refine Work.Tells.outcome_bind (applyAll_tells declared) ?_ ?_
  · intro result es visits
    obtain ⟨_, ⟨⟩, visits⟩ := visits
    cases result with
    | ok _ =>
      refine Work.tells_pure (Or.inl ⟨_, rfl, ?_⟩)
      rw [List.append_nil]
      exact visits
    | error f =>
      obtain ⟨granted, call, rfl, -, refused⟩ := visits.ends
      by_cases invalid : f.isInvalid
      · simp only [if_pos invalid]
        refine (Work.tells_exec _).mono fun result later _ => Or.inr ⟨call, by simp, ?_⟩
        rw [Call.isInvalid, refused]
        exact invalid
      · simp only [if_neg invalid]
        refine Work.tells_throw (Or.inl ⟨_, rfl, ?_⟩)
        rw [List.append_nil]
        exact visits
  · intro es visits
    obtain ⟨_, ⟨⟩, -⟩ := visits

end Manifest

end PhasedInstall
