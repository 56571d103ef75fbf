import PhasedInstall.Proofs.Install.Restoration
import PhasedInstall.Proofs.Manifest.References
import PhasedInstall.Proofs.Manifest.Removing

/-!
# A teardown that is interrupted

A teardown goes through the groups in the reverse order of their installation, and through each
group from its last document to its first. It may be interrupted by any of its calls, and then it
starts again from the beginning. That it nevertheless ends where it would have ended without the
interruption follows from two facts. What the teardown does to a document is done to the objects in
one way (`Deleting.strip`), and it is done for good: where it was done there is nothing left but
what is left alone, and nothing appears in a teardown (`Emptied`). So to start again is to pass over
what was done already.

`Deleting` says what a deletion does in a cluster. The object goes, and whatever depends on it may
go with it: with the definition of a kind all objects of that kind go, while other documents may
still address them.
-/

set_option autoImplicit false

namespace PhasedInstall

open Cluster

/-! ## Clusters in which deletions take effect -/

/-- What a deletion does in a cluster. Others may go with the object, but nothing appears. -/
structure Deleting where
  drop : Identity → Store → Store
  gone : ∀ k st, (drop k st).find k = none
  within : ∀ k st, (drop k st).Within st

namespace Deleting

/-- How a cluster may answer in which deletions take effect. A deletion that is refused may have
taken effect or not, and "not found" is only said of what is not there. Nothing is said of requests
that a teardown does not make. -/
def Conduct (D : Deleting) : PhasedInstall.Conduct Cluster.interface Store
  | .find d, st, reply, st' => Store.Conduct (.find d) st reply st'
  | .delete d _, st, reply, st' =>
    st' = D.drop d.identity st ∨
      st' = st ∧ ∃ f, reply = .error f ∧ (f.isNotFound → st.find d.identity = none)
  | _, _, _, _ => True

/-- What removing a document does to the objects. -/
def strip (D : Deleting) (d : Document) (st : Store) : Store :=
  match st.find d.identity with
  | some live => if d.spares live then st else D.drop d.identity st
  | none => st

/-- What removing documents in order does to the objects. -/
def stripAll (D : Deleting) (ds : List Document) (st : Store) : Store :=
  ds.foldl (fun st d => D.strip d st) st

end Deleting

/-- Nothing is left of what some documents address, but for what they leave alone. -/
def Emptied (ds : List Document) (st : Store) : Prop :=
  ∀ d ∈ ds, ∀ live, st.find d.identity = some live → d.spares live = true

namespace Deleting

variable {D : Deleting} {d : Document} {ds ds' : List Document} {st st' : Store}
  {live : Document}

theorem strip_of_found (found : st.find d.identity = some live) (free : d.spares live = false) :
    D.strip d st = D.drop d.identity st := by
  simp [strip, found, free]

theorem strip_of_spared (spared : ∀ live, st.find d.identity = some live → d.spares live = true) :
    D.strip d st = st := by
  unfold strip
  split
  · rename_i live found
    exact if_pos (spared live found)
  · rfl

theorem strip_within (D : Deleting) (d : Document) (st : Store) : (D.strip d st).Within st := by
  unfold strip
  split
  · split
    · exact .refl st
    · exact D.within _ st
  · exact .refl st

theorem spared_strip (found : (D.strip d st).find d.identity = some live) :
    d.spares live = true := by
  unfold strip at found
  split at found
  · rename_i other there
    split at found
    · rename_i spared
      cases there.symm.trans found
      exact spared
    · rw [D.gone] at found
      cases found
  · rename_i absent
    cases absent.symm.trans found

theorem stripAll_within (D : Deleting) (ds : List Document) (st : Store) :
    (D.stripAll ds st).Within st := by
  induction ds generalizing st with
  | nil => exact .refl st
  | cons d rest ih => exact (ih (D.strip d st)).trans (D.strip_within d st)

theorem stripAll_append (D : Deleting) (ds ds' : List Document) (st : Store) :
    D.stripAll (ds ++ ds') st = D.stripAll ds' (D.stripAll ds st) :=
  List.foldl_append

/-- **What was removed stays removed.** -/
theorem emptied_stripAll (D : Deleting) (ds : List Document) (st : Store) :
    Emptied ds (D.stripAll ds st) := by
  induction ds generalizing st with
  | nil => exact fun _ mem => nomatch mem
  | cons d rest ih =>
    refine List.forall_mem_cons.2 ⟨fun live found => ?_, ih (D.strip d st)⟩
    exact spared_strip (D.stripAll_within rest (D.strip d st) _ live found)

theorem stripAll_of_emptied (emptied : Emptied ds st) : D.stripAll ds st = st := by
  induction ds with
  | nil => rfl
  | cons d rest ih =>
    obtain ⟨here, there⟩ := List.forall_mem_cons.1 emptied
    show D.stripAll rest (D.strip d st) = st
    rw [strip_of_spared here]
    exact ih there

/-- **Starting again makes no difference.** -/
theorem stripAll_again (D : Deleting) (ds ds' : List Document) (st : Store) :
    D.stripAll (ds ++ ds') (D.stripAll ds st) = D.stripAll (ds ++ ds') st := by
  rw [stripAll_append, stripAll_append, stripAll_of_emptied (D.emptied_stripAll ds st)]

/-! ## What the calls do -/

section
variable {policy : DeletePolicy} {outcome : Except Fault Unit} {es : Calls}

theorem lookup_leads {reply : Except Fault (Option Document)}
    (leads : Program.Leads D.Conduct st [⟨.find d, reply⟩] st') :
    st' = st ∧ (∀ live, reply = .ok (some live) → st.find d.identity = some live) ∧
      (Absent reply → st.find d.identity = none) := by
  cases leads with
  | cons look rest =>
    cases rest
    obtain ⟨same, current, missing⟩ := look
    refine ⟨same, fun live found => (current (some live) found).symm, fun absent => ?_⟩
    rcases reply with f | live
    · exact missing f rfl absent
    · exact (current live rfl).symm.trans absent

/-- A deletion after a lookup takes effect. If it is refused, nobody knows whether it has. -/
theorem deletion_leads {reply : Except Fault Unit} (free : d.spares live = false)
    (leads : Program.Leads D.Conduct st
      [⟨.find d, .ok (some live)⟩, ⟨.delete d policy, reply⟩] st') :
    st.find d.identity = some live ∧
      (st' = D.strip d st ∨ st' = st ∧ ∃ f, reply = .error f ∧ f.isNotFound = false) := by
  cases leads with
  | cons look deletes =>
    obtain ⟨rfl, there, -⟩ := lookup_leads (.cons look (.nothing _))
    have found := there live rfl
    refine ⟨found, ?_⟩
    cases deletes with
    | cons step rest =>
      cases rest
      rcases step with rfl | ⟨same, f, refused, missing⟩
      · exact Or.inl (strip_of_found found free).symm
      · -- It was found just before, so it cannot be said not to be there.
        refine Or.inr ⟨same, f, refused, Bool.eq_false_iff.2 fun gone => ?_⟩
        cases found.symm.trans (missing gone)

/-- What the removal of a document does. If it fails, nobody knows whether it has been done. -/
theorem removal_leads (h : d.Removal policy outcome es)
    (leads : Program.Leads D.Conduct st es st') :
    st' = D.strip d st ∨ st' = st ∧ ∃ f, outcome = .error f := by
  cases h with
  | absent absent =>
    obtain ⟨rfl, -, gone⟩ := lookup_leads leads
    refine Or.inl (strip_of_spared fun live found => ?_).symm
    cases found.symm.trans (gone absent)
  | spared spared =>
    obtain ⟨rfl, there, -⟩ := lookup_leads leads
    refine Or.inl (strip_of_spared fun live found => ?_).symm
    cases found.symm.trans (there _ rfl)
    exact spared
  | unknown known => exact Or.inr ⟨(lookup_leads leads).1, _, rfl⟩
  | deleted free =>
    obtain ⟨-, done | ⟨-, f, impossible, -⟩⟩ := deletion_leads free leads
    · exact Or.inl done
    · cases impossible
  | vanished free missing =>
    obtain ⟨-, done | ⟨-, f, ⟨⟩, known⟩⟩ := deletion_leads free leads
    · exact Or.inl done
    · cases missing.symm.trans known
  | refused free known =>
    obtain ⟨-, done | ⟨same, -⟩⟩ := deletion_leads free leads
    · exact Or.inl done
    · exact Or.inr ⟨same, _, rfl⟩

/-- **What the removal of several documents does**: all of it, or with a failure what belongs to
the first ones. -/
theorem removals_lead (h : Manifest.Removals policy ds outcome es)
    (leads : Program.Leads D.Conduct st es st') :
    (outcome = .ok () → st' = D.stripAll ds st) ∧
      ∃ front rest, ds = front ++ rest ∧ st' = D.stripAll front st := by
  induction h generalizing st with
  | done =>
    cases leads
    exact ⟨fun _ => rfl, [], [], rfl, rfl⟩
  | @next d rest _ outcome here there removal _ ih =>
    obtain ⟨st₁, first, later⟩ := Program.leads_append.1 leads
    obtain rfl : st₁ = D.strip d st :=
      (removal_leads removal first).resolve_right fun failed => by cases failed.2.choose_spec
    obtain ⟨whole, front, others, rfl, part⟩ := ih later
    exact ⟨whole, d :: front, others, rfl, part⟩
  | @stop d rest f here removal =>
    -- The document at which it stops may have been done or not.
    refine ⟨nofun, ?_⟩
    rcases removal_leads removal leads with done | ⟨same, -⟩
    · exact ⟨[d], rest, rfl, done⟩
    · exact ⟨[], d :: rest, rfl, same⟩

theorem removal_idle (h : d.Removal policy outcome es)
    (spared : ∀ live, st.find d.identity = some live → d.spares live = true)
    (leads : Program.Leads D.Conduct st es st') : es.deletions = [] ∧ st' = st := by
  -- What would be deleted was found, and what is found is left alone.
  have never {live : Document} {reply : Except Fault Unit} (free : d.spares live = false)
      (deletes : Program.Leads D.Conduct st
        [⟨.find d, .ok (some live)⟩, ⟨.delete d policy, reply⟩] st') : False := by
    rw [spared live (deletion_leads free deletes).1] at free
    cases free
  cases h with
  | absent | spared | unknown => exact ⟨rfl, (lookup_leads leads).1⟩
  | deleted free => exact (never free leads).elim
  | vanished free => exact (never free leads).elim
  | refused free => exact (never free leads).elim

/-- **Where everything was removed, nothing is asked to be deleted.** -/
theorem removals_idle (h : Manifest.Removals policy ds outcome es) (emptied : Emptied ds st)
    (leads : Program.Leads D.Conduct st es st') : es.deletions = [] ∧ st' = st := by
  induction h with
  | done =>
    cases leads
    exact ⟨rfl, rfl⟩
  | next removal _ ih =>
    obtain ⟨mine, others⟩ := List.forall_mem_cons.1 emptied
    obtain ⟨st₁, first, later⟩ := Program.leads_append.1 leads
    obtain ⟨none, rfl⟩ := removal_idle removal mine first
    obtain ⟨none', same⟩ := ih others later
    exact ⟨by rw [Calls.deletions_append, none, none', List.nil_append], same⟩
  | stop removal => exact removal_idle removal (List.forall_mem_cons.1 emptied).1 leads

theorem deleted_present (found : es.DeletesFound) {front after : Calls} {reply : Except Fault Unit}
    (place : es = front ++ ⟨.delete d policy, reply⟩ :: after)
    (leads : Program.Leads D.Conduct st front st') :
    ∃ live, st'.find d.identity = some live ∧ d.spares live = false := by
  obtain ⟨earlier, live, rfl, free⟩ := found front after d policy reply place
  obtain ⟨st₁, -, look⟩ := Program.leads_append.1 leads
  obtain ⟨rfl, there, -⟩ := lookup_leads look
  exact ⟨live, there live rfl, free⟩

end

/-! ## A cluster that does what it is asked -/

/-- Answers lookups and deletions as they are meant. -/
def obey (D : Deleting) : (r : Request) → Store → r.Reply × Store
  | .find d, st => (.ok (st.find d.identity), st)
  | .delete d _, st => (.ok (), D.drop d.identity st)
  | r, st => (vacant r, st)

theorem conduct_obey (D : Deleting) (r : Request) (st : Store) :
    D.Conduct r st (D.obey r st).1 (D.obey r st).2 := by
  cases r with
  | find d => exact ⟨rfl, fun _ same => (Except.ok.inj same).symm, nofun⟩
  | delete d policy => exact Or.inl rfl
  | _ => trivial

def Obeying (D : Deleting) : PhasedInstall.Conduct Cluster.interface Store :=
  fun r st reply st' => (reply, st') = D.obey r st

theorem obeying (D : Deleting) (r : Request) (st : Store) :
    D.Obeying r st (D.obey r st).1 (D.obey r st).2 := rfl

theorem granted_obey {es : Calls} {policy : DeletePolicy}
    (asked : es.Ask fun r => ∃ d ∈ ds, d.AsksRemoval policy r)
    (leads : Program.Leads D.Obeying st es st') :
    es.Granted := by
  induction leads with
  | nothing st => exact List.forall_mem_nil _
  | cons step _ ih =>
    obtain ⟨⟨d, -, here⟩, later⟩ := List.forall_mem_cons.1 asked
    refine List.forall_mem_cons.2 ⟨?_, ih later⟩
    rcases here with rfl | rfl
    · obtain ⟨rfl, -⟩ := Prod.mk.inj step
      rfl
    · obtain ⟨rfl, -⟩ := Prod.mk.inj step
      rfl

end Deleting

/-! ## The teardown -/

/-- The documents of some phases in the order of their removal: group by group, and in each group
from the last one to the first. -/
def Bundle.fromLast (b : Bundle) (phases : List Phase) : List (Phase × Document) :=
  phases.flatMap fun phase => (b.forPhase phase).documents.reverse.map (phase, ·)

namespace Installation

variable {i : Installation} {ns : String}

/-- What the phases are removed by: their documents from the last to the first, each under the
heading that its phase has given it. -/
def RemovedBy (i : Installation) (ns : String) (phases : List Phase) (ds : List Document) : Prop :=
  List.Forall₂ (fun own d => d.heading = own.1.place ns own.2.heading)
    (i.bundle.fromLast phases) ds

/-- **Removing phases removes their documents in order**, and it never gives up. -/
theorem removePhases_inOrder (i : Installation) (ns : String) (phases : List Phase) :
    ∃ ds, i.RemovedBy ns phases ds ∧ (i.removePhases ns phases).Tells fun result es =>
      ∃ outcome, result = some outcome ∧ Manifest.Removals .foreground ds outcome es := by
  induction phases with
  | nil => exact ⟨[], .nil, Work.tells_pure ⟨_, rfl, .done⟩⟩
  | cons phase rest ih =>
    obtain ⟨others, placed, removes⟩ := ih
    obtain ⟨m, found⟩ := (i.bundle.forPhase phase).forRemoval_total phase ns
    have places := (Manifest.forRemoval_places found).imp fun _ _ places => places.1.heading
    refine ⟨m.documents.reverse ++ others, ?_, ?_⟩
    · refine List.rel_append ?_ placed
      exact List.forall₂_map_left_iff.2 (List.forall₂_reverse_iff.2 places)
    · rw [removePhases, found]
      exact Work.tells_series_append (Manifest.removeAll_removals .foreground m.documents.reverse)
        removes

/-- How objects are removed in order, whatever the cluster answers. -/
structure Orderly (ds : List Document) (outcome : Except Fault Unit) (es : Calls) : Prop where
  /-- The documents are looked up in order, each of them once. -/
  sought : es.lookups <+: ds
  /-- With success none of them was left out. -/
  whole : outcome = .ok () → es.lookups = ds
  /-- The deletions come in the order of the documents, at most one for each of them. -/
  ordered : es.deletions.Sublist ds
  /-- Nothing is asked but whether an object is there, and to delete it. -/
  asked : es.Ask fun r => ∃ d ∈ ds, d.AsksRemoval .foreground r
  /-- What is to be deleted has just been found. -/
  found : es.DeletesFound
  /-- An answer that something is not there is passed over, and any other fault is the end. -/
  stops : ∀ before e after f, es = before ++ e :: after → e.fault? = some f →
    f.isNotFound = false → after = [] ∧ outcome = .error f
  /-- There is no other reason to fail. -/
  failed : ∀ f, outcome = .error f → f.isNotFound = false ∧ ∃ e ∈ es, e.fault? = some f

theorem orderly_of_removals {ds : List Document} {outcome : Except Fault Unit} {es : Calls}
    (h : Manifest.Removals .foreground ds outcome es) : Orderly ds outcome es where
  sought := (Manifest.Removals.lookups h).1
  whole := (Manifest.Removals.lookups h).2
  ordered := Manifest.Removals.deletions h
  asked := Manifest.Removals.asks h
  found := Manifest.Removals.deletesFound h
  stops before e after f place refused known := by
    subst place
    have bad : ¬ e.Settled := fun settled => by cases (settled f refused).symm.trans known
    obtain ⟨none, g, rfl, same, -⟩ := (Manifest.Removals.ends h).stops bad
    cases refused.symm.trans same
    exact ⟨none, rfl⟩
  failed f failure := by
    subst failure
    obtain ⟨before, e, rfl, -, refused, known⟩ := Manifest.Removals.ends h
    exact ⟨known, e, by simp, refused⟩

/-- A teardown that may have been interrupted. -/
def Attempt (i : Installation) (D : Deleting) (ns : String) (st st' : Store) : Prop :=
  ∃ result es, (i.teardown ns).Exec D.Conduct.recorded (st, []) result (st', es)

/-- What a teardown comes to in a cluster in which deletions take effect. -/
structure TearsDown (i : Installation) (D : Deleting) (ns : String) : Prop where
  /-- What is asked to be deleted is there. -/
  present : ∀ st st' result es, (i.teardown ns).Exec D.Conduct.recorded (st, []) result (st', es) →
    ∀ front d policy reply after t, es = front ++ ⟨.delete d policy, reply⟩ :: after →
      Program.Leads D.Conduct st front t → ∃ live, t.find d.identity = some live
  /-- With success nothing is left that is addressed, but for namespaces without the mark. -/
  complete : ∀ st st' es,
    (i.teardown ns).Exec D.Conduct.recorded (st, []) (some (.ok ())) (st', es) →
      ∀ k live, i.bundle.Addresses ns k → st'.find k = some live →
        k.kind = "Namespace" ∧ live.isMarked = false
  /-- After a success there is nothing more to delete. -/
  idempotent : ∀ st st' es,
    (i.teardown ns).Exec D.Conduct.recorded (st, []) (some (.ok ())) (st', es) →
      ∀ result st'' (es' : Calls),
        (i.teardown ns).Exec D.Conduct.recorded (st', []) result (st'', es') →
          es'.deletions = [] ∧ st'' = st'
  /-- There is one end for all teardowns that succeed in the end, interrupted or not. -/
  resumable : ∀ st, ∃ final,
    (∃ es, (i.teardown ns).Exec D.Conduct.recorded (st, []) (some (.ok ())) (final, es)) ∧
      ∀ st₁ st₂ es, Relation.ReflTransGen (i.Attempt D ns) st st₁ →
        (i.teardown ns).Exec D.Conduct.recorded (st₁, []) (some (.ok ())) (st₂, es) → st₂ = final

section
variable {D : Deleting} {ds : List Document} {st st' : Store}
  {result : Option (Except Fault Unit)} {es : Calls}

/-- A teardown whose documents are these. -/
def Removes (i : Installation) (ns : String) (ds : List Document) : Prop :=
  (i.teardown ns).Tells fun result es =>
    ∃ outcome, result = some outcome ∧ Manifest.Removals .foreground ds outcome es

/-- A teardown does with success all that is to be done, and otherwise what belongs to the first
documents. -/
theorem exec_teardown (removes : i.Removes ns ds)
    (run : (i.teardown ns).Exec D.Conduct.recorded (st, []) result (st', es)) :
    (result = some (.ok ()) → st' = D.stripAll ds st) ∧
      ∃ front rest, ds = front ++ rest ∧ st' = D.stripAll front st := by
  obtain ⟨outcome, rfl, removals⟩ := removes.recorded run
  obtain ⟨whole, part⟩ := Deleting.removals_lead removals (Program.Exec.leads run)
  exact ⟨fun ok => whole (Option.some.inj ok), part⟩

/-- **Interruptions make no difference** to where a teardown ends. -/
theorem attempts_lead (removes : i.Removes ns ds)
    (attempts : Relation.ReflTransGen (i.Attempt D ns) st st') :
    D.stripAll ds st' = D.stripAll ds st := by
  induction attempts with
  | refl => rfl
  | @tail st₁ st₂ _ last ih =>
    obtain ⟨result, es, run⟩ := last
    -- What the last attempt has done is done again by the next one, to no effect.
    obtain ⟨-, front, rest, rfl, rfl⟩ := exec_teardown removes run
    rw [D.stripAll_again]
    exact ih

/-- An uninterrupted teardown is possible. -/
theorem exec_obeyed (removes : i.Removes ns ds) (D : Deleting) (st : Store) :
    ∃ es, (i.teardown ns).Exec D.Conduct.recorded (st, []) (some (.ok ()))
      (D.stripAll ds st, es) := by
  -- One run under two conducts: the one that the teardown is about, and one that refuses nothing.
  have own := Program.exec_recording D.conduct_obey (i.teardown ns).run (st, [])
  have run := Program.exec_recording D.obeying (i.teardown ns).run (st, [])
  generalize (i.teardown ns).run.run (recording D.obey) (st, []) = ending at own run
  obtain ⟨result, final, es⟩ := ending
  obtain ⟨outcome, rfl, removals⟩ := removes.recorded own
  have granted := Deleting.granted_obey (Manifest.Removals.asks removals) (Program.Exec.leads run)
  obtain rfl := Manifest.Removals.ok_of_granted removals granted
  obtain rfl := (exec_teardown removes own).1 rfl
  exact ⟨es, own⟩

theorem RemovedBy.addressed (placed : i.RemovedBy ns removalOrder ds) {k : Identity}
    (addressed : i.bundle.Addresses ns k) : ∃ d ∈ ds, d.identity = k := by
  obtain ⟨phase, installs, own, mem, rfl⟩ := addressed
  have among : (phase, own) ∈ i.bundle.fromLast removalOrder :=
    List.mem_flatMap.2 ⟨phase, installs, List.mem_map_of_mem (List.mem_reverse.2 mem)⟩
  obtain ⟨d, mem', places⟩ := exists_of_forall₂ (List.Forall₂.flip placed) among
  exact ⟨d, mem', congrArg Heading.toIdentity places⟩

theorem tearsDown_of_removes (placed : i.RemovedBy ns removalOrder ds) (removes : i.Removes ns ds)
    (D : Deleting) : i.TearsDown D ns := by
  constructor
  case present =>
    rintro st st' result es run front d policy reply after t place leads
    obtain ⟨outcome, rfl, removals⟩ := removes.recorded run
    obtain ⟨live, there, -⟩ :=
      Deleting.deleted_present (Manifest.Removals.deletesFound removals) place leads
    exact ⟨live, there⟩
  case complete =>
    intro st st' es run k live addressed found
    obtain ⟨d, mem, rfl⟩ := placed.addressed addressed
    obtain rfl := (exec_teardown removes run).1 rfl
    have spared := D.emptied_stripAll ds st d mem live found
    rw [Document.spares, Bool.and_eq_true, decide_eq_true_eq, Bool.not_eq_true'] at spared
    exact spared
  case idempotent =>
    intro st st' es run result st'' es' again
    obtain rfl := (exec_teardown removes run).1 rfl
    obtain ⟨outcome, rfl, removals⟩ := removes.recorded again
    exact Deleting.removals_idle removals (D.emptied_stripAll ds st) (Program.Exec.leads again)
  case resumable =>
    intro st
    obtain ⟨es, run⟩ := exec_obeyed removes D st
    refine ⟨_, ⟨es, run⟩, fun st₁ st₂ es' attempts last => ?_⟩
    exact ((exec_teardown removes last).1 rfl).trans (attempts_lead removes attempts)

end

/-- **A teardown goes through the documents in order, and in the end it makes no difference how
often it was interrupted.** -/
theorem teardown_resumes (i : Installation) (ns : String) :
    ∃ ds, i.RemovedBy ns removalOrder ds ∧
      ((i.teardown ns).Tells fun result es =>
        ∃ outcome, result = some outcome ∧ Orderly ds outcome es) ∧
      ∀ D : Deleting, i.TearsDown D ns := by
  obtain ⟨ds, placed, removes⟩ := removePhases_inOrder i ns removalOrder
  refine ⟨ds, placed, ?_, tearsDown_of_removes placed removes⟩
  refine removes.mono fun result es removals => ?_
  obtain ⟨outcome, rfl, removals⟩ := removals
  exact ⟨outcome, rfl, orderly_of_removals removals⟩

end Installation

/-! ## A kind that is withdrawn -/

namespace Deleting

/-- With one object, the definition of a kind, all objects of that kind go. -/
def withdrawing (definition : Identity) (kind : String) : Deleting where
  drop k st :=
    { find other := if other = k ∨ k = definition ∧ other.kind = kind then none else st.find other
      own other d found := by
        split at found
        · cases found
        · exact st.own other d found }
  gone k st := if_pos (Or.inl rfl)
  within k st other live found := by
    dsimp only at found
    split at found
    · cases found
    · exact found

/-- Does what it is asked, but nobody understands the answer to a deletion. -/
def obeyUnheard (D : Deleting) : (r : Request) → Store → r.Reply × Store
  | .delete d _, st => (.error .undecodable, D.drop d.identity st)
  | r, st => D.obey r st

theorem conduct_obeyUnheard (D : Deleting) (r : Request) (st : Store) :
    D.Conduct r st (D.obeyUnheard r st).1 (D.obeyUnheard r st).2 := by
  cases r with
  | delete d policy => exact Or.inl rfl
  | _ => exact D.conduct_obey _ st

end Deleting

namespace Installation

/-- An operator that brings the definition of a kind, and tasks that are of that kind when they are
made available to all namespaces. -/
def defining : Installation where
  operator := Operator.standard
  bundle :=
    { pipeline.documents := [Site.declared "Namespace" "tekton"]
      community.documents := [Site.declared "Task" "maven", Site.declared "Task" "npm"]
      addons.documents := [Site.declared "CustomResourceDefinition" "tasks"] }
  environment := []

def definition : Identity := ⟨"CustomResourceDefinition", none, "tasks"⟩

def defined : Store :=
  (((Store.empty.put (Site.declared "Namespace" "tekton").forCreation).put
    (Site.declared "ClusterTask" "maven")).put (Site.declared "ClusterTask" "npm")).put
      (Site.declared "CustomResourceDefinition" "tasks")

/-- A teardown with the answers of one world: how it ends, the objects afterwards, and its calls. -/
def tearDown (answer : (r : Request) → Store → r.Reply × Store) (st : Store) :
    Option (Except Fault Unit) × Store × Calls :=
  (defining.teardown "tekton").run.run (recording answer) (st, [])

theorem exec_tearDown {D : Deleting} {answer : (r : Request) → Store → r.Reply × Store}
    (keeps : ∀ r st, D.Conduct r st (answer r st).1 (answer r st).2) (st : Store) :
    (defining.teardown "tekton").Exec D.Conduct.recorded (st, []) (tearDown answer st).1
      ((tearDown answer st).2.1, (tearDown answer st).2.2) :=
  Program.exec_recording keeps _ (st, [])

def withdrawn : Deleting := .withdrawing definition "ClusterTask"

def interrupted : Option (Except Fault Unit) × Store × Calls :=
  tearDown withdrawn.obeyUnheard defined

def resumed : Option (Except Fault Unit) × Store × Calls :=
  tearDown withdrawn.obey interrupted.2.1

/-- A teardown fails although the definition of a kind was deleted, and with it the tasks. The next
one deletes the namespace only, and that is the end of an uninterrupted one as well. -/
theorem teardown_resumes_withdrawn :
    interrupted.1 = some (.error .undecodable) ∧ resumed.1 = some (.ok ()) ∧
      interrupted.2.2.deletions.map Document.identity = [definition] ∧
      resumed.2.2.deletions.map Document.identity = [⟨"Namespace", none, "tekton"⟩] ∧
      defining.Attempt withdrawn "tekton" defined interrupted.2.1 ∧
      (∃ es, (defining.teardown "tekton").Exec withdrawn.Conduct.recorded (defined, [])
        (some (.ok ())) (resumed.2.1, es)) ∧
      ∀ k live, defining.bundle.Addresses "tekton" k → resumed.2.1.find k = some live →
        k.kind = "Namespace" ∧ live.isMarked = false := by
  have failed : interrupted.1 = some (.error .undecodable) := by decide +kernel
  have succeeded : resumed.1 = some (.ok ()) := by decide +kernel
  have first : defining.Attempt withdrawn "tekton" defined interrupted.2.1 :=
    ⟨_, _, exec_tearDown withdrawn.conduct_obeyUnheard defined⟩
  have second : (defining.teardown "tekton").Exec withdrawn.Conduct.recorded
      (interrupted.2.1, []) resumed.1 (resumed.2.1, resumed.2.2) :=
    exec_tearDown withdrawn.conduct_obey interrupted.2.1
  rw [succeeded] at second
  obtain ⟨ds, -, -, tears⟩ := teardown_resumes defining "tekton"
  obtain ⟨final, uninterrupted, unique⟩ := (tears withdrawn).resumable defined
  obtain rfl := unique _ _ _ (.single first) second
  exact ⟨failed, succeeded, by decide +kernel, by decide +kernel, first, uninterrupted,
    (tears withdrawn).complete _ _ _ second⟩

end Installation

end PhasedInstall
