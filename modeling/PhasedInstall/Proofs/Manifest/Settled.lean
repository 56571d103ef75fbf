import PhasedInstall.Proofs.Cluster.Stock
import PhasedInstall.Proofs.Json.Covering
import PhasedInstall.Proofs.Manifest.Mark
import PhasedInstall.Proofs.Manifest.Requests
import PhasedInstall.Proofs.Manifest.Retained

/-!
# Applying settles a document

A document is settled if its object is there, is not leaving, and agrees with the document laid over
it. Then there is nothing to write, so applying it again is one lookup (`Settled.idle`). Applying
settles whatever it finds: what it creates and what it updates covers the document, and what it
leaves alone agreed before (`apply_settles`).

Creating anew settles as well. Objects that are removed take their time to go, but the wait does not
succeed while any of them is there (`awaitRemoval_absent`), and what is not written stays what it
was. So the cluster is steady again when the documents are applied the second time
(`clear_steady`).
-/

set_option autoImplicit false

namespace PhasedInstall

open Cluster

namespace Document

variable {d live : Document} {s s' : Stock}

/-- Nothing is to be written for the document. -/
def Settled (d : Document) (s : Stock) : Prop :=
  ∃ live : Document, s.find d.identity = some ⟨live, false⟩ ∧
    live.value.agrees (live.value.overlay d.value)

theorem Settled.congr (h : d.Settled s) (same : s'.find d.identity = s.find d.identity) :
    d.Settled s' := by
  obtain ⟨live, found, agrees⟩ := h
  exact ⟨live, same.trans found, agrees⟩

/-- A document that lets the mark of its creator be: if it is of a namespace, then its metadata is
an object, and so are its annotations, which do not mention the mark. -/
def LeavesMark (d : Document) : Prop :=
  d.kind = "Namespace" → d.HasMetadata ∧
    ∀ v, Table.get? "annotations" d.metadata = some v →
      v.isObject = true ∧ v.get? createdKey = none

/-- The mark that is set on creation hides nothing that is declared. -/
theorem covers_forCreation (distinct : d.value.keysDistinct) (leaves : d.LeavesMark) :
    d.forCreation.value.Covers d.value := by
  rw [forCreation]
  split
  · rename_i isNamespace
    obtain ⟨⟨members, declared⟩, annotations⟩ := leaves isNamespace
    have object : d.value = .obj d.fields := by
      rw [fields] at declared ⊢
      cases value : d.value with
      | obj _ => rfl
      | _ =>
        rw [value] at declared
        cases declared
    have own : d.metadata = members := by rw [Document.metadata, declared]; rfl
    -- The mark goes into the annotations of the metadata, so both of these are written over too.
    unfold setAnnotation
    rw [setPath_metadata, withMetadata, withField, object]
    refine Json.covers_put (distinct_fields distinct) fun v found => ?_
    rw [declared] at found
    cases found
    rw [← own]
    refine Json.covers_put (distinct_metadata distinct) fun v found => ?_
    obtain ⟨isObject, silent⟩ := annotations v found
    have below : v.keysDistinct :=
      Json.keysDistinct_of_get? (v := .obj d.metadata) (distinct_metadata distinct) found
    cases v with
    | obj marks =>
      rw [found, Option.getD_some, Json.setPath]
      refine Json.covers_put below fun w there => ?_
      cases there.symm.trans silent
    | _ => cases isObject
  · exact Json.covers_self distinct

theorem distinct_forCreation (distinct : d.value.keysDistinct) :
    d.forCreation.value.keysDistinct := by
  rw [forCreation]
  split
  · exact Json.keysDistinct_setPath _ distinct rfl
  · exact distinct

/-- In a steady cluster a lookup finds what is there. -/
theorem find_ensures (steady : s.Steady) (d : Document) :
    (Work.find d).Ensures Stock.Conduct s fun result s' =>
      s' = s ∧ result ≠ none ∧ ∀ found, result = some (.ok found) →
        found = (s.find d.identity).map Holding.document := by
  intro reply s' step
  obtain ⟨rfl, current, -⟩ := steady.answers step
  exact ⟨rfl, nofun, fun found same => current found (Option.some.inj same)⟩

end Document

namespace Manifest

def identities (ds : List Document) : List Identity := ds.map Document.identity

/-- What a piece of work does about some documents: it changes nothing else and leaves the cluster
steady, and if it succeeds the documents are settled. -/
structure Settles (ds : List Document) (s : Stock) {α : Type} (result : Option (Except Fault α))
    (s' : Stock) : Prop where
  steady : s'.Steady
  frame : ∀ k, k ∉ identities ds → s'.find k = s.find k
  settled : ∀ a, result = some (.ok a) → ∀ d ∈ ds, d.Settled s'

namespace Settles

variable {ds ds' : List Document} {d o : Document} {s s₁ s₂ : Stock} {α β : Type}
  {result : Option (Except Fault α)} {result' : Option (Except Fault β)}

theorem of_failure (h : Settles ds s result s₁) (more : ds ⊆ ds')
    (failed : ∀ b, result' ≠ some (.ok b)) : Settles ds' s result' s₁ where
  steady := h.steady
  frame k outside := h.frame k fun within => outside (List.map_subset _ more within)
  settled b ok := absurd ok (failed b)

theorem of_ok {a : α} {b : β} (h : Settles ds s (some (.ok a)) s₁) :
    Settles ds s (some (.ok b) : Option (Except Fault β)) s₁ where
  steady := h.steady
  frame := h.frame
  settled _ _ := h.settled a rfl

theorem idle (steady : s.Steady) (failed : ∀ a, result ≠ some (.ok a)) : Settles ds s result s where
  steady := steady
  frame _ _ := rfl
  settled a ok := absurd ok (failed a)

theorem after (h : Settles ds s₁ result s₂)
    (kept : ∀ k, k ∉ identities ds → s₁.find k = s.find k) : Settles ds s result s₂ where
  steady := h.steady
  frame k outside := (h.frame k outside).trans (kept k outside)
  settled := h.settled

/-- One after the other, if the second does not touch what the first has settled. -/
theorem append {a : α} (first : Settles ds s (some (.ok a)) s₁) (second : Settles ds' s₁ result' s₂)
    (apart : ∀ d ∈ ds, d.identity ∉ identities ds') : Settles (ds ++ ds') s result' s₂ where
  steady := second.steady
  frame k outside := by
    rw [identities, List.map_append, List.mem_append, not_or] at outside
    rw [second.frame k outside.2, first.frame k outside.1]
  settled b ok d mem := by
    rcases List.mem_append.1 mem with mem | mem
    · exact (first.settled a rfl d mem).congr (second.frame _ (apart d mem))
    · exact second.settled b ok d mem

theorem congr (h : Settles ds s result s₁) (same : ∀ d, d ∈ ds ↔ d ∈ ds') :
    Settles ds' s result s₁ where
  steady := h.steady
  frame k outside := h.frame k fun within =>
    outside (List.map_subset _ (fun d mem => (same d).1 mem) within)
  settled a ok d mem := h.settled a ok d ((same d).2 mem)

/-- An object that covers the document settles it. -/
theorem set (steady : s.Steady) (own : o.identity = d.identity) (distinct : o.value.keysDistinct)
    (covers : o.value.Covers d.value) : Settles [d] s result (s.set ⟨o, false⟩) where
  steady := steady.set rfl distinct
  frame k outside := by
    refine Stock.find_set_of_ne ?_ s
    rw [own]
    exact fun same => outside (List.mem_singleton.2 same)
  settled _ _ x mem := by
    obtain rfl := List.mem_singleton.1 mem
    refine ⟨o, ?_, covers.agrees distinct⟩
    rw [← own]
    exact Stock.find_set_self s _

theorem andReturn {w : Work α}
    (h : w.Ensures Stock.Conduct s fun result s' => Settles ds s result s') (b : β) :
    (do let _ ← w; return b : Work β).Ensures Stock.Conduct s fun result s' =>
      Settles ds s result s' := by
  refine h.bind ?_ ?_ ?_
  · intro a s' settles
    exact settles.of_ok
  · intro f s' settles
    exact settles.of_failure (List.Subset.refl _) nofun
  · intro s' settles
    exact settles.of_failure (List.Subset.refl _) nofun

end Settles

end Manifest

/-! ## Applying -/

namespace Document

open Manifest

variable {d live : Document} {s : Stock}

theorem create_settles (distinct : d.value.keysDistinct) (leaves : d.LeavesMark)
    (steady : s.Steady) :
    (Work.create d.forCreation).Ensures Stock.Conduct s fun result s' =>
      Settles [d] s result s' := by
  intro reply s' step
  rcases steady.answers step with ⟨-, rfl⟩ | ⟨rfl, f, refused⟩
  · exact .set steady (identity_forCreation d) (distinct_forCreation distinct)
      (covers_forCreation distinct leaves)
  · refine .idle steady fun a ok => ?_
    rw [refused] at ok
    cases ok

theorem update_settles (distinct : d.value.keysDistinct) (steady : s.Steady)
    (found : s.find d.identity = some ⟨live, false⟩) :
    (Work.update ⟨live.value.overlay d.value⟩).Ensures Stock.Conduct s fun result s' =>
      Settles [d] s result s' := by
  intro reply s' step
  have own : (Document.mk (live.value.overlay d.value)).identity = d.identity :=
    identity_overlay (Json.nodup_of_keysDistinct distinct)
      (Json.nodup_of_keysDistinct (v := .obj d.metadata) (distinct_metadata distinct))
      (s.own _ _ found)
  rcases steady.answers step with ⟨⟨there, leaving⟩, held, rfl⟩ | ⟨rfl, f, refused⟩
  · obtain rfl : leaving = false := (steady _ _ held).1
    exact .set steady own (Json.keysDistinct_overlay distinct (steady _ _ found).2)
      (Json.covers_overlay distinct _)
  · refine .idle steady fun a ok => ?_
    rw [refused] at ok
    cases ok

/-- **Applying settles the document.** -/
theorem apply_settles (distinct : d.value.keysDistinct) (leaves : d.LeavesMark)
    (steady : s.Steady) :
    d.apply.Ensures Stock.Conduct s fun result s' => Settles [d] s result s' := by
  refine (find_ensures steady d).bind ?_ ?_ ?_
  · rintro found s' ⟨rfl, -, current⟩
    have looked := current found rfl
    cases found with
    | none => exact Settles.andReturn (create_settles distinct leaves steady) _
    | some live =>
      obtain ⟨h, found, rfl⟩ := Option.map_eq_some_iff.1 looked.symm
      have there : s'.find d.identity = some ⟨h.document, false⟩ := by
        rw [found, ← (steady _ _ found).1]
      dsimp only
      split
      · rename_i agrees
        refine ⟨steady, fun _ _ => rfl, fun _ _ x mem => ?_⟩
        obtain rfl := List.mem_singleton.1 mem
        exact ⟨h.document, there, agrees⟩
      · cases merge : ofJson (h.document.value.overlay d.value) with
        | error f => exact Settles.idle steady nofun
        | ok merged =>
          obtain ⟨rfl, -⟩ := ofJson_eq_ok merge
          exact Settles.andReturn (update_settles distinct steady there) _
  · rintro f s' ⟨rfl, -⟩
    exact Settles.idle steady nofun
  · rintro s' ⟨rfl, -⟩
    exact Settles.idle steady nofun

end Document

namespace Manifest

variable {ds : List Document} {m : Manifest} {s : Stock}

/-- Documents that can be applied again and again: no two of them are about the same object, and
each of them means what it says. -/
structure Repeatable (ds : List Document) : Prop where
  separate : (identities ds).Nodup
  distinct : ∀ d ∈ ds, d.value.keysDistinct
  leaves : ∀ d ∈ ds, d.LeavesMark

theorem Repeatable.tail {d : Document} (h : Repeatable (d :: ds)) : Repeatable ds where
  separate := (List.nodup_cons.1 h.separate).2
  distinct := (List.forall_mem_cons.1 h.distinct).2
  leaves := (List.forall_mem_cons.1 h.leaves).2

theorem applyAll_settles (ready : Repeatable ds) (steady : s.Steady) :
    (applyAll ds).Ensures Stock.Conduct s fun result s' => Settles ds s result s' := by
  induction ds generalizing s with
  | nil => exact ⟨steady, fun _ _ => rfl, fun _ _ _ mem => by cases mem⟩
  | cons d rest ih =>
    have first := Document.apply_settles (ready.distinct d (List.mem_cons_self ..))
      (ready.leaves d (List.mem_cons_self ..)) steady
    have apart : ∀ x ∈ [d], x.identity ∉ identities rest :=
      List.forall_mem_singleton.2 (List.nodup_cons.1 ready.separate).1
    have among : [d] ⊆ d :: rest := List.cons_subset_cons d (List.nil_subset rest)
    refine first.bind ?_ ?_ ?_
    · intro outcome s₁ here
      exact (ih ready.tail here.steady).mono fun result s₂ there => here.append there apart
    · intro f s₁ here
      exact here.of_failure among nofun
    · intro s₁ here
      exact here.of_failure among nofun

/-! ## Creating anew -/

theorem live?_absent (d : Document) (s : Stock) :
    d.live?.Ensures Stock.Conduct s fun result s' =>
      result = some (.ok none) → s'.find d.identity = none := by
  rw [Document.live?, Work.ensures_find_outcome_bind]
  rintro reply s' ⟨now, -, rfl, current, missing⟩
  rcases reply with f | live
  · dsimp only
    split
    · rename_i notFound
      exact fun _ => missing f rfl notFound
    · exact nofun
  · intro absent
    cases absent
    exact Option.map_eq_none_iff.1 (current none rfl).symm

/-- What is not there stays away while nothing is written. -/
theorem absent_kept {α : Type} {w : Work α} {k : Identity} (absent : s.find k = none)
    (only : w.Only fun r => r.written? ≠ some k) :
    w.Ensures Stock.Conduct s fun _ s' => s'.find k = none := by
  have stays : s.Stays k := fun h found => by rw [absent] at found; cases found
  refine (Stock.kept only stays).mono fun _ s' same => ?_
  rw [same, absent]

theorem firstLive?_absent (ds : List Document) (s : Stock) :
    (Document.firstLive? ds).Ensures Stock.Conduct s fun result s' =>
      result = some (.ok none) → ∀ d ∈ ds, s'.find d.identity = none := by
  induction ds generalizing s with
  | nil =>
    intro _ d mem
    cases mem
  | cons d rest ih =>
    refine (live?_absent d s).bind ?_ (fun _ _ _ => nofun) fun _ _ => nofun
    rintro (_ | live) s₁ absent
    · -- The first object is still away after the others were looked up.
      have gone : (Document.firstLive? rest).Ensures Stock.Conduct s₁ fun _ s₂ =>
          s₂.find d.identity = none :=
        absent_kept (absent rfl) (Document.firstLive?_only fun _ _ => nofun)
      refine Program.ensures_iff.2 fun result s₂ e none => ?_
      exact List.forall_mem_cons.2 ⟨e.ensures gone, e.ensures (ih s₁) none⟩
    · exact nofun

theorem awaitAbsence_absent (ds : List Document) (p : Patience) (deadline now : Nat) (s : Stock) :
    (awaitAbsence ds p deadline now).Ensures Stock.Conduct s fun result s' =>
      result = some (.ok ()) → ∀ d ∈ ds, s'.find d.identity = none := by
  -- What is left until the deadline shrinks with every pause.
  induction remaining : deadline - now using Nat.strongRecOn generalizing now s with
  | ind n ih =>
    rw [awaitAbsence]
    refine (firstLive?_absent ds s).bind ?_ (fun _ _ _ ok => by cases ok) fun _ _ ok => by cases ok
    rintro (_ | d) s₁ absent
    · exact fun _ => absent rfl
    · rw [Work.ensures_clock_bind]
      rintro ⟨seen, since⟩ s₂ -
      dsimp only
      split
      · intro ok
        cases ok
      · rw [Work.ensures_sleep_bind]
        rintro ⟨woken, later⟩ s₃ -
        have : 1 ≤ p.pause := Nat.le_max_left 1 _
        exact ih (deadline - woken) (by omega) woken s₃ rfl

/-- Waiting writes nothing, and it does not succeed while anything is there. -/
theorem awaitRemoval_absent (m : Manifest) (p : Patience) (s : Stock) :
    (m.awaitRemoval p).Ensures Stock.Conduct s fun result s' =>
      result = some (.ok ()) → ∀ d ∈ m.documents, s'.find d.identity = none := by
  rw [awaitRemoval, Work.ensures_clock_bind]
  rintro ⟨now, since⟩ s₁ -
  exact awaitAbsence_absent m.documents p _ now s₁

/-- What is under no identity of the manifest is kept while its objects are removed. -/
theorem remove_keeps (steady : s.Steady) :
    (m.remove .foreground).Ensures Stock.Conduct s fun _ s' =>
      ∀ k, k ∉ identities m.documents → s'.find k = s.find k := by
  refine Program.ensures_iff.2 fun result s' e k outside => ?_
  refine e.ensures (Stock.kept (removeAll_only (fun _ _ => nofun) fun d mem same => ?_)
    fun h found => (steady k h found).1)
  cases same
  exact outside (List.mem_map_of_mem (List.mem_reverse.1 mem))

/-- **When the objects are gone, the cluster is steady again.** -/
theorem clear_steady (steady : s.Steady) (p : Patience) :
    (do m.remove .foreground; m.awaitRemoval p : Work Unit).Ensures Stock.Conduct s fun result s' =>
      result = some (.ok ()) →
        s'.Steady ∧ ∀ k, k ∉ identities m.documents → s'.find k = s.find k := by
  refine (remove_keeps steady).bind ?_ (fun _ _ _ => nofun) fun _ _ => nofun
  intro _ s₁ kept
  have stays : ∀ k, k ∉ identities m.documents → s₁.Stays k := by
    intro k outside h found
    rw [kept k outside] at found
    exact (steady k h found).1
  refine Program.ensures_iff.2 fun result s₂ e ok => ?_
  have absent := e.ensures (awaitRemoval_absent m p s₁) ok
  have kept₂ : ∀ k, k ∉ identities m.documents → s₂.find k = s.find k := by
    intro k outside
    have only : (m.awaitRemoval p).Only fun r => r.written? ≠ some k :=
      awaitRemoval_only (fun _ _ => nofun) (fun _ => nofun) (fun _ _ => nofun) p
    rw [e.ensures (Stock.kept only (stays k outside)), kept k outside]
  -- Under an identity of the manifest there is nothing, under any other one what was there before.
  refine ⟨fun k h found => ?_, kept₂⟩
  by_cases outside : k ∉ identities m.documents
  · rw [kept₂ k outside] at found
    exact steady k h found
  · obtain ⟨d, mem, rfl⟩ := List.mem_map.1 (not_not.1 outside)
    rw [absent d mem] at found
    cases found

/-- **Creating the objects anew settles them.** -/
theorem recreate_settles (ready : Repeatable m.documents) (steady : s.Steady) (p : Patience) :
    (m.recreate p).Ensures Stock.Conduct s fun result s' =>
      result = some (.ok ()) → Settles m.documents s result s' := by
  have parts : m.recreate p = (do m.remove .foreground; m.awaitRemoval p : Work Unit) >>= fun _ =>
      m.apply := (bind_assoc ..).symm
  rw [parts]
  refine (clear_steady steady p).bind ?_ (fun _ _ _ => nofun) fun _ _ => nofun
  intro _ s₁ cleared
  obtain ⟨steady₁, kept⟩ := cleared rfl
  exact (applyAll_settles ready steady₁).mono fun result s₂ applied _ => applied.after kept

theorem applyOrRecreate_settles (ready : Repeatable m.documents) (steady : s.Steady)
    (p : Patience) :
    (m.applyOrRecreate p).Ensures Stock.Conduct s fun result s' =>
      result = some (.ok ()) → Settles m.documents s result s' := by
  refine (applyAll_settles ready steady).outcome_bind ?_ fun _ _ => nofun
  intro outcome s₁ applied
  rcases outcome with f | _
  · dsimp only
    split
    · refine (recreate_settles ready applied.steady p).mono fun result s₂ recreated ok => ?_
      exact (recreated ok).after applied.frame
    · exact nofun
  · exact fun _ => applied

end Manifest

/-! ## Once more -/

namespace Document

/-- **Applying a settled document is one lookup.** -/
theorem Settled.idle {d : Document} {s : Stock} (settled : d.Settled s) (steady : s.Steady) :
    d.apply.IdleIn s := by
  obtain ⟨live, there, agrees⟩ := settled
  refine Work.idleIn_find_bind steady ?_
  rw [there]
  simp only [Option.map_some, if_pos agrees]
  exact Work.idleIn_pure _

end Document

namespace Manifest

variable {ds : List Document} {s : Stock}

theorem applyAll_idle (settled : ∀ d ∈ ds, d.Settled s) (steady : s.Steady) :
    (applyAll ds).IdleIn s := by
  induction ds with
  | nil => exact Work.idleIn_pure _
  | cons d rest ih =>
    obtain ⟨here, there⟩ := List.forall_mem_cons.1 settled
    exact (here.idle steady).bind fun _ => ih there

theorem applyOrRecreate_idle {m : Manifest} (settled : ∀ d ∈ m.documents, d.Settled s)
    (steady : s.Steady) (p : Patience) : (m.applyOrRecreate p).IdleIn s :=
  (applyAll_idle settled steady).outcome_bind fun _ => Work.idleIn_pure _

end Manifest

end PhasedInstall
