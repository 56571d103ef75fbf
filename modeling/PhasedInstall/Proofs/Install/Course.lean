import Mathlib.Computability.Language
import Mathlib.Data.List.Chain
import PhasedInstall.Install.Action

/-!
# The course of an installation

Three tables decide the order in which an installation runs: what a status code dispatches to,
which planned phase comes at or after a phase, and the code with which a phase is recorded as
passed. None of them mentions the order. That they agree on it, for every plan, is
`consecutive_phases`; `Progress` then follows an installation through its plan, one recorded code
at a time, and `Progress.pending` says that the newest code always asks for the phase that is next.

`courses` describes the same thing from outside, as a formal language over status codes: every
phase fails any number of times before it passes, and the last phase passes with `installed`.
-/

set_option autoImplicit false

namespace PhasedInstall

open Computability

/-! ## The order of a plan -/

namespace Plan

/-- The phase that a code asks a plan to run. None is left where the installation is complete, and
none where the plan ends before the phase that the code asks for. -/
def due (plan : Plan) (code : StatusCode) : Option Phase :=
  match code.dispatch with
  | .run phase => plan.resolve phase
  | .steadyState => none

theorem phases_eq_cons (plan : Plan) :
    ∃ rest, plan.phases = .applyPipeline :: rest := ⟨_, rfl⟩

theorem resolve_applyPipeline (plan : Plan) :
    plan.resolve .applyPipeline = some .applyPipeline := rfl

/-- A planned phase is the first planned one at or after itself. -/
theorem resolve_of_mem {plan : Plan} {phase : Phase} (h : phase ∈ plan.phases) :
    plan.resolve phase = some phase := by
  have all : ∀ p ∈ plan.phases, plan.resolve p = some p := by
    obtain ⟨_ | _, _ | _⟩ := plan <;> decide
  exact all phase h

/-- **The three tables agree on the order.** A phase that has a successor in the plan passes with a
code of its own, and that code asks for the successor. -/
theorem consecutive_phases (plan : Plan) :
    plan.phases.IsChain fun p q =>
      plan.successCode p = .passed p ∧ plan.due (.passed p) = some q := by
  obtain ⟨_ | _, _ | _⟩ := plan <;> decide

theorem successCode_of_last {plan : Plan} {past : List Phase} {phase : Phase}
    (h : plan.phases = past ++ [phase]) : plan.successCode phase = .installed := by
  simp [successCode, h]

theorem consecutive {plan : Plan} {past future : List Phase} {p q : Phase}
    (h : plan.phases = past ++ p :: q :: future) :
    plan.successCode p = .passed p ∧ plan.due (.passed p) = some q := by
  have chain := plan.consecutive_phases
  rw [h] at chain
  exact (List.isChain_append_cons_cons.1 chain).2.1

/-! ## Progress -/

/-- How far an installation has come: the phases that it has passed, those that it has not, and the
codes recorded on the way, newest first. -/
inductive Progress (plan : Plan) : List Phase → List Phase → List StatusCode → Prop
  | start : Progress plan [] plan.phases []
  | failed {past future : List Phase} {phase : Phase} {codes : List StatusCode} :
      Progress plan past (phase :: future) codes →
      Progress plan past (phase :: future) (.failed phase :: codes)
  | passed {past future : List Phase} {phase : Phase} {codes : List StatusCode} :
      Progress plan past (phase :: future) codes →
      Progress plan (past ++ [phase]) future (plan.successCode phase :: codes)

namespace Progress

variable {plan : Plan} {past future : List Phase} {phase : Phase} {codes : List StatusCode}

theorem phases_eq (h : plan.Progress past future codes) : plan.phases = past ++ future := by
  induction h with
  | start => rfl
  | failed _ ih => exact ih
  | passed _ ih => simpa using ih

/-- **The newest code asks for the phase that is next**, before the first code as after any. -/
theorem pending (h : plan.Progress past (phase :: future) codes) :
    plan.due (codes.head?.getD .empty) = some phase := by
  have mem : phase ∈ plan.phases := by simp [h.phases_eq]
  generalize ahead : phase :: future = rest at h
  cases h with
  | start =>
    obtain ⟨later, first⟩ := plan.phases_eq_cons
    rw [first] at ahead
    cases ahead
    exact plan.resolve_applyPipeline
  | failed _ =>
    cases ahead
    exact resolve_of_mem mem
  | @passed past _ q _ before =>
    subst ahead
    have order := before.phases_eq
    obtain ⟨own, next⟩ := consecutive order
    rwa [own]

/-- Only a completed installation has `installed` as its newest code, and it always has. -/
theorem head?_eq_installed (h : plan.Progress past future codes) :
    codes.head? = some .installed ↔ future = [] := by
  constructor
  · intro head
    cases h with
    | start => simp at head
    | failed _ => simp at head
    | @passed past future q _ before =>
      rcases future with _ | ⟨r, later⟩
      · rfl
      · -- A phase with a successor passes with its own code, and that is not the final one.
        obtain ⟨own, next⟩ := consecutive before.phases_eq
        simp only [List.head?_cons, own, Option.some.injEq, StatusCode.passed.injEq] at head
        subst head
        simp [due, StatusCode.dispatch, Phase.next?] at next
  · rintro rfl
    generalize nothing : ([] : List Phase) = rest at h
    cases h with
    | start =>
      obtain ⟨later, first⟩ := plan.phases_eq_cons
      rw [first] at nothing
      cases nothing
    | failed _ => cases nothing
    | passed before =>
      subst nothing
      rw [successCode_of_last before.phases_eq]
      rfl

/-- No code but the newest is `installed`. -/
theorem not_installed_of_mem_tail (h : plan.Progress past future codes) :
    ∀ code ∈ codes.tail, code ≠ .installed := by
  induction h with
  | start => simp
  | @failed _ _ _ codes before ih | @passed _ _ _ codes before ih =>
    intro code mem
    rcases codes with _ | ⟨newest, older⟩
    · simp at mem
    · rcases List.mem_cons.1 mem with rfl | mem
      · -- The phase that was recorded after it was still ahead.
        intro complete
        have := before.head?_eq_installed.1 (by rw [complete]; rfl)
        simp at this
      · exact ih code mem

end Progress

end Plan

/-! ## The language of a plan -/

/-- Any number of failures of a phase. -/
def retries (phase : Phase) : Language StatusCode := {[.failed phase]}∗

/-- The codes, oldest first, of an installation that runs some phases to the end. -/
def courses : List Phase → Language StatusCode
  | [] => 1
  | [last] => retries last * {[.installed]}
  | phase :: next :: rest => retries phase * {[.passed phase]} * courses (next :: rest)

theorem nil_mem_retries (phase : Phase) : [] ∈ retries phase := Language.nil_mem_kstar _

theorem installed_mem_courses (last : Phase) : [.installed] ∈ courses [last] := by
  have h : [] ++ [.installed] ∈ retries last * {[.installed]} :=
    Language.append_mem_mul (nil_mem_retries last) (Set.mem_singleton _)
  exact h

theorem passed_cons_mem_courses {phase next : Phase} {rest : List Phase} {word : List StatusCode}
    (h : word ∈ courses (next :: rest)) :
    .passed phase :: word ∈ courses (phase :: next :: rest) := by
  have own : [] ++ [.passed phase] ∈ retries phase * {[.passed phase]} :=
    Language.append_mem_mul (nil_mem_retries phase) (Set.mem_singleton _)
  exact Language.append_mem_mul own h

/-- Every list of phases can be run to the end. -/
theorem courses_nonempty (phases : List Phase) : ∃ word, word ∈ courses phases := by
  induction phases with
  | nil => exact ⟨[], Language.nil_mem_one⟩
  | cons phase rest ih =>
    rcases rest with _ | ⟨next, rest⟩
    · exact ⟨_, installed_mem_courses phase⟩
    · obtain ⟨word, h⟩ := ih
      exact ⟨_, passed_cons_mem_courses h⟩

theorem failed_cons_mem_retries {phase : Phase} {word : List StatusCode}
    (h : word ∈ retries phase) : .failed phase :: word ∈ retries phase := by
  have more : [.failed phase] ++ word ∈ {[.failed phase]} * retries phase :=
    Language.append_mem_mul (Set.mem_singleton _) h
  have closed : {[.failed phase]} * retries phase ≤ retries phase := mul_kstar_le_kstar
  exact closed more

theorem failed_cons_mem_courses {phase : Phase} {rest : List Phase} {word : List StatusCode}
    (h : word ∈ courses (phase :: rest)) : .failed phase :: word ∈ courses (phase :: rest) := by
  rcases rest with _ | ⟨next, rest⟩
  · obtain ⟨failures, hf, tail, ht, rfl⟩ := Language.mem_mul.1 h
    exact Language.append_mem_mul (failed_cons_mem_retries hf) ht
  · obtain ⟨front, hfront, tail, ht, rfl⟩ := Language.mem_mul.1 h
    obtain ⟨failures, hf, own, ho, rfl⟩ := Language.mem_mul.1 hfront
    exact Language.append_mem_mul (Language.append_mem_mul (failed_cons_mem_retries hf) ho) ht

/-- The codes of an installation can be continued by every course of what is ahead of it. -/
theorem Plan.Progress.append_mem_courses {plan : Plan} {past future : List Phase}
    {codes : List StatusCode} (h : plan.Progress past future codes) :
    ∀ word ∈ courses future, codes.reverse ++ word ∈ courses plan.phases := by
  induction h with
  | start => exact fun word hw => hw
  | failed _ ih =>
    intro word hw
    simpa using ih _ (failed_cons_mem_courses hw)
  | @passed past future phase codes before ih =>
    intro word hw
    suffices h : plan.successCode phase :: word ∈ courses (phase :: future) by
      simpa using ih _ h
    rcases future with _ | ⟨next, rest⟩
    · rw [Plan.successCode_of_last before.phases_eq]
      obtain rfl : word = [] := hw
      exact installed_mem_courses phase
    · rw [(Plan.consecutive before.phases_eq).1]
      exact passed_cons_mem_courses hw

end PhasedInstall
