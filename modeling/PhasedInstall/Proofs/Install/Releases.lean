import Mathlib.Data.List.Nodup
import PhasedInstall.Proofs.Install.History

/-!
# Installations that more than one release works on

An operator may be replaced by one of another release at any time, also in the middle of an
installation. The newcomer goes on where the history stands: the release of an entry is compared
only once the installation is complete. So the entry `installed` of a release says that every
planned phase has passed since the previous such entry, but not that they passed under that
release: a newcomer of another release only has to finish what its predecessor has begun.

The main statement says exactly when `installed` can be taken at its word. The reason it is an
equivalence is that a course holds one success for each planned phase and no other, so the
success of a phase that the reader looks for is the only one there is.
-/

set_option autoImplicit false

namespace PhasedInstall

/-- The conditions of the newest installation: those recorded after the one that completed the
installation before it. -/
def lastCourse : List Condition → List Condition
  | [] => []
  | newest :: older => newest :: older.takeWhile fun x => x.code ≠ .installed

theorem lastCourse_head? (history : List Condition) :
    (lastCourse history).head? = history.head? := by
  cases history <;> rfl

/-- A completed installation is not part of the course that follows it. -/
theorem lastCourse_cons_of_installed {history : List Condition} {x : Condition}
    (h : (history.head?.map Condition.code) = some .installed) :
    lastCourse (x :: history) = [x] := by
  rcases history with _ | ⟨newest, older⟩
  · simp at h
  · simp only [List.head?_cons, Option.map_some, Option.some.injEq] at h
    simp [lastCourse, List.takeWhile, h]

/-- A condition recorded before the installation is complete continues its course. -/
theorem lastCourse_cons {history : List Condition} {x : Condition}
    (h : (history.head?.map Condition.code) ≠ some .installed) :
    lastCourse (x :: history) = x :: lastCourse history := by
  rcases history with _ | ⟨newest, older⟩
  · rfl
  · simp only [List.head?_cons, Option.map_some, ne_eq, Option.some.injEq] at h
    simp [lastCourse, List.takeWhile, h]

/-! ## The successes of a course -/

namespace Plan

theorem isError_successCode (plan : Plan) (phase : Phase) :
    (plan.successCode phase).isError = false := by
  unfold successCode
  split <;> rfl

theorem successCode_nodup (plan : Plan) : (plan.phases.map plan.successCode).Nodup := by
  obtain ⟨_ | _, _ | _⟩ := plan <;> decide

/-- **One success for each phase that has passed**, and no other success. -/
theorem Progress.successes {plan : Plan} {past future : List Phase} {codes : List StatusCode}
    (h : plan.Progress past future codes) :
    codes.filter (fun code => !code.isError) = (past.map plan.successCode).reverse := by
  induction h with
  | start => rfl
  | failed _ ih => simpa [StatusCode.isError] using ih
  | @passed _ _ phase _ _ ih => simp [plan.isError_successCode phase, ih]

theorem Progress.success_iff {plan : Plan} {past future : List Phase} {codes : List StatusCode}
    (h : plan.Progress past future codes) {code : StatusCode} :
    code ∈ codes ∧ code.isError = false ↔ ∃ phase ∈ past, plan.successCode phase = code := by
  have same : code ∈ codes.filter (fun code => !code.isError) ↔
      code ∈ (past.map plan.successCode).reverse := by rw [h.successes]
  simpa using same

theorem Progress.successes_nodup {plan : Plan} {past future : List Phase} {codes : List StatusCode}
    (h : plan.Progress past future codes) : (codes.filter fun code => !code.isError).Nodup := by
  have planned := plan.successCode_nodup
  rw [h.phases_eq, List.map_append] at planned
  rw [h.successes]
  exact List.nodup_reverse.2 planned.of_append_left

/-- In the conditions of a course, two successes with the same code are one. -/
theorem Progress.success_unique {plan : Plan} {past future : List Phase}
    {conditions : List Condition}
    (h : plan.Progress past future (conditions.map Condition.code)) {x y : Condition}
    (hx : x ∈ conditions) (hy : y ∈ conditions) (success : x.code.isError = false)
    (same : x.code = y.code) : x = y := by
  have once : ((conditions.filter fun x => !x.code.isError).map Condition.code).Nodup := by
    have distinct := h.successes_nodup
    rw [List.filter_map] at distinct
    exact distinct
  refine List.inj_on_of_nodup_map once ?_ ?_ same
  · exact List.mem_filter.2 ⟨hx, by rw [success]; rfl⟩
  · exact List.mem_filter.2 ⟨hy, by rw [← same, success]; rfl⟩

end Plan

namespace Ledger

/-- What happens to a resource while operators with one plan come and go. -/
def Handover (name : String) (plan : Plan) (c c' : Config) : Prop :=
  ∃ i : Installation, i.operator.watchResource = name ∧ i.plan = plan ∧ Step i c c'

/-- A history in which the newest installation, whoever works on it, is on its course. -/
def Underway (plan : Plan) (c : Config) : Prop :=
  ∃ past future, plan.Progress past future ((lastCourse c.history).map Condition.code)

namespace Underway

variable {plan : Plan} {c c' : Config} {name : String}

theorem of_empty (h : c.history = []) : Underway plan c :=
  ⟨[], plan.phases, by rw [h]; exact .start⟩

/-- The first entry of a new installation. -/
theorem of_first {i : Installation} {x : Condition}
    (recorded : i.Records c (.run .applyPipeline) x) (history : lastCourse c'.history = [x]) :
    Underway i.plan c' := by
  obtain ⟨rest, first⟩ := i.plan.phases_eq_cons
  have anew : i.plan.Progress [] (.applyPipeline :: rest) [] := first ▸ .start
  rw [Underway, history]
  exact recorded.progress anew

theorem step (h : Underway plan c) (s : Handover name plan c c') : Underway plan c' := by
  obtain ⟨i, -, rfl, s⟩ := s
  obtain ⟨past, future, progress⟩ := h
  have status :
      c.installStatus = ((lastCourse c.history).map Condition.code).head?.getD .empty := by
    rw [Config.installStatus_eq, List.head?_map, lastCourse_head?]
  have newest : ((lastCourse c.history).map Condition.code).head? =
      c.history.head?.map Condition.code := by
    rw [List.head?_map, lastCourse_head?]
  rcases s.records with same | ⟨x, recorded, written⟩
  · exact ⟨past, future, by rw [Config.history_congr same]; exact progress⟩
  · have history : c'.history = x :: c.history := by
      rw [Config.history_congr written, Config.history_withCondition]
    rcases future with _ | ⟨phase, rest⟩
    · -- The installation is complete, so an entry can only begin the next one.
      have complete := progress.head?_eq_installed.2 rfl
      rw [Operator.nextAction_of_installed (by rw [status, complete]; rfl)] at recorded
      split at recorded
      · cases recorded
      · refine of_first recorded ?_
        rw [history, lastCourse_cons_of_installed (newest ▸ complete)]
    · have incomplete : c.history.head?.map Condition.code ≠ some .installed := by
        intro complete
        have := progress.head?_eq_installed.1 (newest.trans complete)
        cases this
      rw [Operator.nextAction_of_due (status ▸ progress.pending)] at recorded
      rw [Underway, history, lastCourse_cons incomplete, List.map_cons]
      exact recorded.progress progress

theorem run (h : Underway plan c) (r : Relation.ReflTransGen (Handover name plan) c c') :
    Underway plan c' := by
  induction r with
  | refl => exact h
  | tail _ s ih => exact ih.step s

end Underway

/-- **When `installed` can be taken at its word.** Whatever operators of one plan have worked on
the resource, under `installed` every planned phase has passed since the previous such entry. They
have all passed under the release that `installed` names exactly if no phase has passed under
another one. -/
theorem installed_iff_one_release {name : String} {plan : Plan} {c₀ c : Config}
    (start : c₀.history = []) (run : Relation.ReflTransGen (Handover name plan) c₀ c)
    {newest : Condition} (current : c.current? = some newest)
    (complete : newest.code = .installed) :
    (∀ phase ∈ plan.phases, ∃ x ∈ lastCourse c.history, x.code = plan.successCode phase) ∧
      ((∀ phase ∈ plan.phases, ∃ x ∈ lastCourse c.history,
          x.code = plan.successCode phase ∧ x.version = newest.version) ↔
        ∀ x ∈ lastCourse c.history, x.code.isError = false → x.version = newest.version) := by
  obtain ⟨past, future, progress⟩ := (Underway.of_empty start).run run
  have head : ((lastCourse c.history).map Condition.code).head? = some .installed := by
    rw [List.head?_map, lastCourse_head?, ← Config.current?_eq_head?, current, ← complete]
    rfl
  obtain rfl : future = [] := progress.head?_eq_installed.1 head
  obtain rfl : plan.phases = past := by simpa using progress.phases_eq
  have passed : ∀ phase ∈ plan.phases, ∃ x ∈ lastCourse c.history,
      x.code = plan.successCode phase := by
    intro phase planned
    obtain ⟨mem, -⟩ := progress.success_iff.2 ⟨phase, planned, rfl⟩
    exact List.mem_map.1 mem
  refine ⟨passed, fun all x hx ok => ?_, fun all phase planned => ?_⟩
  · -- The success of its phase that is of the right release can only be the entry itself.
    obtain ⟨phase, planned, code⟩ := progress.success_iff.1 ⟨List.mem_map_of_mem hx, ok⟩
    obtain ⟨y, hy, same, release⟩ := all phase planned
    rw [progress.success_unique hx hy ok (code.symm.trans same.symm)]
    exact release
  · obtain ⟨x, hx, code⟩ := passed phase planned
    exact ⟨x, hx, code, all x hx (by rw [code]; exact plan.isError_successCode phase)⟩

theorem handover_afterPass (version : String) (c : Config) :
    Handover Operator.defaultWatchResource (bare "v1").plan c (afterPass (bare version) c) :=
  ⟨bare version, rfl, rfl, step_afterPass _ c⟩

/-- A release that replaces another one after that is installed runs every phase itself. -/
theorem installed_after_upgrade :
    let c₁ := afterPass (bare "v1") (afterPass (bare "v1") (afterPass (bare "v1") untouched))
    let c₂ := afterPass (bare "v2") (afterPass (bare "v2") (afterPass (bare "v2") c₁))
    untouched.history = [] ∧
      Relation.ReflTransGen (Handover Operator.defaultWatchResource (bare "v1").plan) untouched c₂ ∧
      c₂.history.length = 6 ∧
      ∃ newest, c₂.current? = some newest ∧ newest.code = .installed ∧ newest.version = "v2" ∧
        ∀ phase ∈ (bare "v1").plan.phases, ∃ x ∈ lastCourse c₂.history,
          x.code = (bare "v1").plan.successCode phase ∧ x.version = newest.version := by
  intro c₁ c₂
  have first : Relation.ReflTransGen (Handover Operator.defaultWatchResource (bare "v1").plan)
      untouched c₁ :=
    ((Relation.ReflTransGen.single (handover_afterPass _ _)).tail (handover_afterPass _ _)).tail
      (handover_afterPass _ _)
  have run : Relation.ReflTransGen (Handover Operator.defaultWatchResource (bare "v1").plan)
      untouched c₂ :=
    ((first.tail (handover_afterPass _ _)).tail (handover_afterPass _ _)).tail
      (handover_afterPass _ _)
  have current : c₂.current? = some { code := .installed, version := "v2" } := by decide
  exact ⟨rfl, run, by decide, _, current, rfl, rfl,
    (installed_iff_one_release rfl run current rfl).2.2 (by decide)⟩

/-- **An installation that changes hands in the middle is not one of the release it names.** The
first phase has passed under `v1` only, and the history says that `v2` is installed. -/
theorem not_installed_of_handover :
    ¬ ∀ (name : String) (plan : Plan) (c₀ c : Config) (newest : Condition),
      c₀.history = [] → Relation.ReflTransGen (Handover name plan) c₀ c →
      c.current? = some newest → newest.code = .installed →
      ∀ phase ∈ plan.phases, ∃ x ∈ lastCourse c.history,
        x.code = plan.successCode phase ∧ x.version = newest.version := by
  intro sound
  have run := ((Relation.ReflTransGen.single (handover_afterPass "v1" untouched)).tail
    (handover_afterPass "v2" _)).tail (handover_afterPass "v2" _)
  have claim := sound _ _ _ _ { code := .installed, version := "v2" } rfl run (by decide) rfl
  exact absurd claim (by decide)

end Ledger

end PhasedInstall
