import Mathlib.Data.List.Forall2
import Mathlib.Data.List.ReduceOption
import PhasedInstall.Proofs.Cluster.Work
import PhasedInstall.Manifest.Basic

/-!
# Transforming in parts

A manifest is transformed document by document, and every document by one transformer after the
other. The work may be cut in both directions: a chain behind another chain can as well run over the
result of the first one, and manifests that are put together can as well be transformed on their
own. Only success is the same either way. Where several documents fail, the cut decides which of
them is met first, and so which fault is reported.

What a transformer gets to see is `Transformer.Shows`. A chain depends on nothing else
(`chain_congr`), so this is where it has to be said that a document that has been dropped is not
looked at again.
-/

set_option autoImplicit false

namespace PhasedInstall

namespace Transformer

/-- When a chain runs over `d`, the transformer at a place is asked about a document. -/
inductive Shows : (ts : List Transformer) → (d : Document) → (place : Nat) → Document → Prop
  | first (t : Transformer) (ts : List Transformer) (d : Document) : Shows (t :: ts) d 0 d
  | next {t : Transformer} {ts : List Transformer} {d d' e : Document} {place : Nat} :
    t d = .ok (some d') → Shows ts d' place e → Shows (t :: ts) d (place + 1) e

/-- Every transformer of a chain keeps what the one before it makes of `d`, and the last one makes
`d'` of it. -/
inductive Keeps : (ts : List Transformer) → (d d' : Document) → Prop
  | nil (d : Document) : Keeps [] d d
  | cons {t : Transformer} {ts : List Transformer} {d e d' : Document} :
    t d = .ok (some e) → Keeps ts e d' → Keeps (t :: ts) d d'

variable {t t₁ t₂ : Transformer} {ts ts' ts₁ ts₂ : List Transformer} {d d' e : Document}
  {place : Nat} {halt : Halt} {ds ds' : List Document}

/-! ## One document -/

theorem chain_of_kept (kept : t d = .ok (some d')) : chain (t :: ts) d = chain ts d' := by
  rw [chain, kept]
  rfl

theorem chain_of_dropped (dropped : t d = .ok none) : chain (t :: ts) d = .ok none := by
  rw [chain, dropped]
  rfl

theorem chain_of_stopped (stopped : t d = .error halt) : chain (t :: ts) d = .error halt := by
  rw [chain, stopped]
  rfl

theorem chain_singleton (t : Transformer) : chain [t] = t := by
  funext d
  cases turned : t d with
  | error halt => exact chain_of_stopped turned
  | ok result =>
    cases result with
    | none => exact chain_of_dropped turned
    | some d' => exact chain_of_kept turned

/-- Two chains, one behind the other, are the chain of the two. -/
theorem chain_append (ts₁ ts₂ : List Transformer) :
    chain (ts₁ ++ ts₂) = chain [chain ts₁, chain ts₂] := by
  funext d
  induction ts₁ generalizing d with
  | nil =>
    have kept : chain [] d = .ok (some d) := rfl
    rw [chain_of_kept kept, chain_singleton, List.nil_append]
  | cons t ts₁ ih =>
    rw [List.cons_append]
    cases turned : t d with
    | error halt =>
      have stopped : chain (t :: ts₁) d = .error halt := chain_of_stopped turned
      rw [chain_of_stopped turned, chain_of_stopped stopped]
    | ok result =>
      cases result with
      | none =>
        have dropped : chain (t :: ts₁) d = .ok none := chain_of_dropped turned
        rw [chain_of_dropped turned, chain_of_dropped dropped]
      | some d' =>
        have same : chain (t :: ts₁) d = chain ts₁ d' := chain_of_kept turned
        rw [chain_of_kept turned, ih d', chain, chain, same]

/-- What is behind another transformer sees the documents that this one keeps. -/
theorem chain_pair_eq_ok_iff {result : Option Document} : chain [t₁, t₂] d = .ok result ↔
    (t₁ d = .ok none ∧ result = none) ∨ ∃ e, t₁ d = .ok (some e) ∧ t₂ e = .ok result := by
  cases turned : t₁ d with
  | error halt => simp [chain_of_stopped turned]
  | ok kept =>
    cases kept with
    | none => simp [chain_of_dropped turned, eq_comm]
    | some e => simp [chain_of_kept turned, chain_singleton]

/-! ## What is shown -/

/-- Behind a transformer that does not keep the document nothing is shown. -/
theorem Shows.le_of_not_kept (shown : Shows ts d place e) {later : Nat} {e' : Document}
    (again : Shows ts d later e') (there : ts[place]? = some t)
    (ends : ∀ kept, t e ≠ .ok (some kept)) : later ≤ place := by
  induction shown generalizing later with
  | first t' ts d =>
    cases there
    cases again with
    | first => exact Nat.le_refl 0
    | next kept _ => exact absurd kept (ends _)
  | next kept _ ih =>
    cases again with
    | first => exact Nat.zero_le _
    | next kept' again =>
      rw [kept] at kept'
      cases kept'
      exact Nat.succ_le_succ (ih again there ends)

/-- A document that some transformer drops is dropped. -/
theorem Shows.dropped (shown : Shows ts d place e) (there : ts[place]? = some t)
    (drops : t e = .ok none) : chain ts d = .ok none := by
  induction shown with
  | first t' ts d =>
    cases there
    exact chain_of_dropped drops
  | next kept _ ih =>
    rw [chain_of_kept kept]
    exact ih there drops

/-- A document that some transformer fails on has no result. -/
theorem Shows.stopped (shown : Shows ts d place e) (there : ts[place]? = some t)
    (stops : t e = .error halt) : chain ts d = .error halt := by
  induction shown with
  | first t' ts d =>
    cases there
    exact chain_of_stopped stops
  | next kept _ ih =>
    rw [chain_of_kept kept]
    exact ih there stops

/-- A chain keeps what all of its transformers keep. -/
theorem chain_eq_some_iff : chain ts d = .ok (some d') ↔ Keeps ts d d' := by
  induction ts generalizing d with
  | nil =>
    constructor
    · intro kept
      cases kept
      exact .nil _
    · intro keeps
      cases keeps
      rfl
  | cons t ts ih =>
    constructor
    · intro kept
      cases turned : t d with
      | error halt =>
        rw [chain_of_stopped turned] at kept
        cases kept
      | ok result =>
        cases result with
        | none =>
          rw [chain_of_dropped turned] at kept
          cases kept
        | some e =>
          rw [chain_of_kept turned] at kept
          exact .cons turned (ih.1 kept)
    · intro keeps
      cases keeps with
      | cons turned keeps =>
        rw [chain_of_kept turned]
        exact ih.2 keeps

/-- Two chains agree on everything that the first one shows. -/
def AgreeOnShown (ts ts' : List Transformer) (d : Document) : Prop :=
  ts'.length = ts.length ∧ ∀ (place : Nat) (e : Document), Shows ts d place e →
    ∀ t ∈ ts[place]?, ∀ t' ∈ ts'[place]?, t' e = t e

/-- A chain depends on its transformers through what it shows them. -/
theorem chain_congr (agree : AgreeOnShown ts ts' d) : chain ts' d = chain ts d := by
  induction ts generalizing ts' d with
  | nil =>
    obtain ⟨length, -⟩ := agree
    rw [List.eq_nil_of_length_eq_zero length]
  | cons t ts ih =>
    obtain ⟨length, agree⟩ := agree
    obtain ⟨t', ts', rfl⟩ := List.exists_cons_of_length_eq_add_one length
    have first : t' d = t d := agree 0 d (.first t ts d) t rfl t' rfl
    cases turned : t d with
    | error halt => rw [chain_of_stopped turned, chain_of_stopped (first.trans turned)]
    | ok result =>
      cases result with
      | none => rw [chain_of_dropped turned, chain_of_dropped (first.trans turned)]
      | some d' =>
        rw [chain_of_kept turned, chain_of_kept (first.trans turned)]
        apply ih
        refine ⟨Nat.succ.inj length, ?_⟩
        intro place e shown
        exact agree (place + 1) e (.next turned shown)

end Transformer

namespace Manifest

open Transformer

variable {t t₁ t₂ : Transformer} {ts ts' ts₁ ts₂ : List Transformer} {m m' n n' : Manifest}
  {d : Document} {ds ds' : List Document} {halt : Halt}

/-! ## All documents -/

theorem transformAll_cons_eq_ok_iff : transformAll t (d :: ds) = .ok ds' ↔
    (t d = .ok none ∧ transformAll t ds = .ok ds') ∨
      ∃ d' rest, t d = .ok (some d') ∧ transformAll t ds = .ok rest ∧ ds' = d' :: rest := by
  rw [transformAll]
  cases t d with
  | error halt => simp [bind, Except.bind]
  | ok result =>
    cases result with
    | none => simp [bind, Except.bind]
    | some d' =>
      cases transformAll t ds with
      | error halt => simp [bind, Except.bind]
      | ok rest => simp [bind, Except.bind, pure, Except.pure, eq_comm]

/-- What becomes of every document, in order, is what the documents become. -/
theorem transformAll_eq_ok_iff : transformAll t ds = .ok ds' ↔
    ∃ results, List.Forall₂ (fun d result => t d = .ok result) ds results ∧
      ds' = results.reduceOption := by
  induction ds generalizing ds' with
  | nil => simp [transformAll, eq_comm]
  | cons d ds ih =>
    rw [transformAll_cons_eq_ok_iff]
    constructor
    · rintro (⟨drops, ok⟩ | ⟨d', rest, keeps, ok, rfl⟩)
      · obtain ⟨results, turned, rfl⟩ := ih.1 ok
        exact ⟨none :: results, .cons drops turned, rfl⟩
      · obtain ⟨results, turned, rfl⟩ := ih.1 ok
        exact ⟨some d' :: results, .cons keeps turned, rfl⟩
    · rintro ⟨results, turned, rfl⟩
      cases turned with
      | @cons _ result _ results here turned =>
        have ok := ih.2 ⟨results, turned, rfl⟩
        cases result with
        | none => exact Or.inl ⟨here, ok⟩
        | some d' => exact Or.inr ⟨d', _, here, ok, rfl⟩

/-- The documents that one transformer keeps may as well be given to the next one afterwards. -/
theorem transformAll_pair_eq_ok_iff : transformAll (chain [t₁, t₂]) ds = .ok ds' ↔
    ∃ es, transformAll t₁ ds = .ok es ∧ transformAll t₂ es = .ok ds' := by
  induction ds generalizing ds' with
  | nil => simp [transformAll]
  | cons d ds ih =>
    simp only [transformAll_cons_eq_ok_iff, chain_pair_eq_ok_iff, ih]
    constructor
    · rintro (⟨⟨drops, -⟩ | ⟨e, keeps, drops⟩, es, first, second⟩ |
        ⟨d', rest, ⟨-, ⟨⟩⟩ | ⟨e, keeps, here⟩, ⟨es, first, second⟩, rfl⟩)
      · exact ⟨es, Or.inl ⟨drops, first⟩, second⟩
      · refine ⟨e :: es, Or.inr ⟨e, es, keeps, first, rfl⟩, ?_⟩
        exact transformAll_cons_eq_ok_iff.2 (Or.inl ⟨drops, second⟩)
      · refine ⟨e :: es, Or.inr ⟨e, es, keeps, first, rfl⟩, ?_⟩
        exact transformAll_cons_eq_ok_iff.2 (Or.inr ⟨d', rest, here, second, rfl⟩)
    · rintro ⟨es, ⟨drops, first⟩ | ⟨e, rest, keeps, first, rfl⟩, second⟩
      · exact Or.inl ⟨Or.inl ⟨drops, trivial⟩, es, first, second⟩
      · rcases transformAll_cons_eq_ok_iff.1 second with
          ⟨drops, behind⟩ | ⟨d', rest', here, behind, rfl⟩
        · exact Or.inl ⟨Or.inr ⟨e, keeps, drops⟩, rest, first, behind⟩
        · exact Or.inr ⟨d', rest', Or.inr ⟨e, keeps, here⟩, ⟨rest, first, behind⟩, rfl⟩

/-- Documents in front of others are transformed first. -/
theorem transformAll_append (t : Transformer) (ds es : List Document) :
    transformAll t (ds ++ es) =
      transformAll t ds >>= fun ds' => (ds' ++ ·) <$> transformAll t es := by
  induction ds with
  | nil => cases h : transformAll t es <;> simp [transformAll, h] <;> rfl
  | cons d ds ih =>
    rw [List.cons_append, transformAll, transformAll, ih]
    cases t d with
    | error halt => rfl
    | ok result =>
      cases result with
      | none => rfl
      | some d' =>
        cases transformAll t ds with
        | error halt => rfl
        | ok ds' => cases transformAll t es <;> rfl

theorem transformAll_congr (agree : ∀ d ∈ ds, t₂ d = t₁ d) :
    transformAll t₂ ds = transformAll t₁ ds := by
  induction ds with
  | nil => rfl
  | cons d ds ih =>
    obtain ⟨here, rest⟩ := List.forall_mem_cons.1 agree
    rw [transformAll, transformAll, here, ih rest]

/-! ## Manifests -/

theorem transform_eq_ok_iff : m.transform ts = .ok m' ↔
    transformAll (chain ts) m.documents = .ok m'.documents := by
  constructor
  · intro ok
    obtain ⟨ds, transformed, rfl⟩ := map_eq_ok ok
    exact transformed
  · intro transformed
    rw [transform, transformed]
    rfl

theorem transform_chains_eq_ok_iff : m.transform (ts₁ ++ ts₂) = .ok m' ↔
    ∃ m₁, m.transform ts₁ = .ok m₁ ∧ m₁.transform ts₂ = .ok m' := by
  simp only [transform_eq_ok_iff, chain_append, transformAll_pair_eq_ok_iff]
  constructor
  · rintro ⟨es, first, second⟩
    exact ⟨⟨es⟩, first, second⟩
  · rintro ⟨m₁, first, second⟩
    exact ⟨m₁.documents, first, second⟩

theorem transform_append (m n : Manifest) (ts : List Transformer) :
    (m ++ n).transform ts =
      m.transform ts >>= fun m' => (m' ++ ·) <$> n.transform ts := by
  have documents : (m ++ n).documents = m.documents ++ n.documents := rfl
  unfold transform
  rw [documents, transformAll_append]
  cases transformAll (chain ts) m.documents with
  | error halt => rfl
  | ok ds => cases transformAll (chain ts) n.documents <;> rfl

theorem transform_congr (agree : ∀ d ∈ m.documents, AgreeOnShown ts ts' d) :
    m.transform ts' = m.transform ts := by
  have same : ∀ d ∈ m.documents, chain ts' d = chain ts d :=
    fun d mem => chain_congr (agree d mem)
  rw [transform, transform, transformAll_congr same]

/-- How the transformation of a manifest falls into parts, where another manifest may follow. -/
structure Composes (m n : Manifest) (ts₁ ts₂ : List Transformer) : Prop where
  /-- Two chains in one go have the results of one chain after the other. -/
  inTurn : ∀ m', m.transform (ts₁ ++ ts₂) = .ok m' ↔
    ∃ m₁, m.transform ts₁ = .ok m₁ ∧ m₁.transform ts₂ = .ok m'
  /-- Of two manifests in a row the first one that fails decides. -/
  stopsAtFirst : ∀ halt, m.transform ts₁ = .error halt → (m ++ n).transform ts₁ = .error halt
  stopsAtSecond : ∀ m' halt, m.transform ts₁ = .ok m' → n.transform ts₁ = .error halt →
    (m ++ n).transform ts₁ = .error halt
  sideBySide : ∀ m' n', m.transform ts₁ = .ok m' → n.transform ts₁ = .ok n' →
    (m ++ n).transform ts₁ = .ok (m' ++ n')
  /-- There is a result exactly if no document fails, and then the documents that are kept stand in
  it in their order. -/
  inOrder : ∀ m', m.transform ts₁ = .ok m' ↔
    ∃ results, List.Forall₂ (fun d result => chain ts₁ d = .ok result) m.documents results ∧
      m'.documents = results.reduceOption
  /-- A document is kept exactly if every transformer keeps it, and then as the last one leaves
  it. -/
  kept : ∀ d d', chain ts₁ d = .ok (some d') ↔ Keeps ts₁ d d'
  /-- A document that a transformer fails on has no result. -/
  failed : ∀ d place e t halt, Shows ts₁ d place e → ts₁[place]? = some t → t e = .error halt →
    chain ts₁ d = .error halt
  /-- A document that a transformer drops is shown to none behind it, and is not in the result. -/
  unseen : ∀ d place e t, Shows ts₁ d place e → ts₁[place]? = some t → t e = .ok none →
    chain ts₁ d = .ok none ∧ ∀ later e', Shows ts₁ d later e' → later ≤ place
  /-- What transformers would do to documents that they are not shown has no influence. -/
  unasked : ∀ ts, (∀ d ∈ m.documents, AgreeOnShown ts₁ ts d) → m.transform ts = m.transform ts₁

/-- **Transforming is compositional**, for all chains and all manifests. -/
theorem transform_composes (m n : Manifest) (ts₁ ts₂ : List Transformer) :
    Composes m n ts₁ ts₂ where
  inTurn m' := transform_chains_eq_ok_iff
  stopsAtFirst halt stopped := by
    rw [transform_append, stopped]
    rfl
  stopsAtSecond m' halt ok stopped := by
    rw [transform_append, ok, stopped]
    rfl
  sideBySide m' n' ok ok' := by
    rw [transform_append, ok, ok']
    rfl
  inOrder m' := transform_eq_ok_iff.trans transformAll_eq_ok_iff
  kept d d' := chain_eq_some_iff
  failed d place e t halt shown there stops := shown.stopped there stops
  unseen d place e t shown there drops := by
    have ends : ∀ kept, t e ≠ .ok (some kept) := by simp [drops]
    exact ⟨shown.dropped there drops, fun later e' again => shown.le_of_not_kept again there ends⟩
  unasked ts agree := transform_congr agree

/-- A document that both chains keep: the second chain works on what the first one made of it. -/
example :
    let rename (kind kind' : String) : Transformer :=
      Transformer.keep fun d => if d.kind = kind then d.setKind kind' else d
    let m : Manifest := ⟨[⟨.obj [("kind", .str "Task")]⟩]⟩
    m.transform ([rename "Task" "Pipeline"] ++ [rename "Pipeline" "Secret"]) =
      .ok ⟨[⟨.obj [("kind", .str "Secret")]⟩]⟩ := rfl

/-- The fault may be another one: here the first chain fails at the second document, and the second
chain at the first document. -/
example :
    let refuse (kind : String) : Transformer := fun d =>
      if d.kind = kind then .error (.fault (.transform kind)) else .ok (some d)
    let m : Manifest := ⟨[⟨.obj [("kind", .str "Task")]⟩, ⟨.obj [("kind", .str "Secret")]⟩]⟩
    m.transform ([refuse "Secret"] ++ [refuse "Task"]) = .error (.fault (.transform "Task")) ∧
      m.transform [refuse "Secret"] = .error (.fault (.transform "Secret")) :=
  ⟨rfl, rfl⟩

end Manifest

end PhasedInstall
