import K8sOps.Rca.Plan.Machine

/-! The state machine of a recovery plan. The machine sees of a plan its status and
the few facts the status promises; every command and every handler moves each plan
along one of its transitions, so its invariants hold in every reachable table. -/
namespace K8sOps.Rca
open Python Transition
variable (library : Library)

/-- What the state machine sees of a plan. -/
structure View where
  status : PlanStatus
  phase : Option PlanStatus
  chosen : Bool
  prHead : Option String
  mergeHead : Option String
  mergeCommit : Option CommitSha
  startedCommit : Option CommitSha

def Row.view (row : Row) (run : Option WorkflowRun) : View where
  status := row.status
  phase := row.lifecycle.map (·.phase)
  chosen := row.selectedActionId.isSome
  prHead := (row.lifecycle.bind (·.pr)).map (·.headSha)
  mergeHead := (row.lifecycle.bind (·.merge)).map (·.headSha)
  mergeCommit := (row.lifecycle.bind (·.merge)).map (·.mergeCommitSha)
  startedCommit := run.map (·.commitSha)

/-- A plan as it is generated, waiting for a selection or selected by the policy. -/
inductive Planned : View → Prop where
  | requested : Planned ⟨.selectionRequested, none, false, none, none, none, started⟩
  | selected : Planned ⟨.selected, none, true, none, none, none, started⟩

/-- The transitions of the state machine. -/
inductive Move (view : View) : View → Prop where
  | stay : Move view view
  | replan (isOpen : view.status = .selectionRequested) (planned : Planned next) : Move view next
  | select (isOpen : view.status = .selectionRequested) :
      Move view ⟨.selected, some .selected, true, none, none, none, view.startedCommit⟩
  | reopen (selected : view.status = .selected) :
      Move view { view with status := .selectionRequested, chosen := false }
  | track (selected : view.status = .selected) (head : String) :
      Move view { view with
        status := .prOpen, phase := some .prOpen, prHead := some head, mergeHead := none,
          mergeCommit := none }
  | reject (tracked : view.status = .prOpen) :
      Move view { view with status := .selectionRequested, phase := some .failed, chosen := false }
  | merge (tracked : view.status = .prOpen) (head : view.prHead = some sha) (commit : CommitSha) :
      Move view { view with
        status := .deployPending, phase := some .deployPending, mergeHead := some sha,
          mergeCommit := some commit }
  | start (merged : view.status = .deployPending) (commit : view.mergeCommit = some sha) :
      Move view { view with
        status := .verificationPending, phase := some .verificationPending,
          startedCommit := some sha }
  | judge (verifying : view.status = .verificationPending)
      (verdict : status ∈ [PlanStatus.verificationPending, .completed, .failed]) :
      Move view { view with status, phase := some status }
  | fail (running : view.status ∈ [PlanStatus.selected, .deployPending]) :
      Move view { view with status := .failed, phase := some .failed }
  | retrySafePr (failed : view.status = .failed) :
      Move view { view with
        status := .selected, phase := some .selected, prHead := none, mergeHead := none,
          mergeCommit := none }
  | retryDeploy (failed : view.status = .failed) (commit : view.mergeCommit = some sha) :
      Move view { view with status := .deployPending, phase := some .deployPending }
  | retryVerification (failed : view.status = .failed) (commit : view.mergeCommit = some sha) :
      Move view { view with
        status := .verificationPending, phase := some .verificationPending,
          startedCommit := some sha }

/-- What the status of a plan promises. -/
structure Promised (view : View) : Prop where
  phase : view.status ≠ .selectionRequested → view.status ≠ .selected →
    view.phase = some view.status
  chosen : view.status ≠ .selectionRequested → view.chosen = true
  heads : ∀ head, view.mergeHead = some head → view.prHead = some head
  merged : view.mergeCommit.isSome = view.mergeHead.isSome
  deployed : view.status = .deployPending → view.mergeCommit.isSome
  verified : view.status ∈ [PlanStatus.verificationPending, .completed] →
    ∃ commit, view.mergeCommit = some commit ∧ view.startedCommit = some commit

theorem Planned.promised (planned : Planned view) : Promised view := by
  cases planned <;> constructor <;> simp

theorem Planned.not_completed (planned : Planned view) : view.status ≠ .completed := by
  cases planned <;> simp

theorem Move.promised (promised : Promised view) (move : Move view next) : Promised next := by
  obtain ⟨phase, chosen, heads, merged, deployed, verified⟩ := promised
  cases move with
  | stay => exact ⟨phase, chosen, heads, merged, deployed, verified⟩
  | replan _ planned => exact planned.promised
  | select => constructor <;> simp
  | reopen => exact ⟨by simp, by simp, heads, merged, by simp, by simp⟩
  | track selected => exact ⟨by simp, by simp_all, by simp, rfl, by simp, by simp⟩
  | reject => exact ⟨by simp, by simp, heads, merged, by simp, by simp⟩
  | merge tracked head => exact ⟨by simp, by simp_all, by simp [head], rfl, by simp, by simp⟩
  | start isMerged commit => exact ⟨by simp, by simp_all, heads, merged, by simp, by simp [commit]⟩
  | judge verifying verdict =>
    have known := verified (by simp [verifying])
    refine ⟨by simp, fun _ => chosen (by simp [verifying]), heads, merged, ?_, fun _ => known⟩
    rintro rfl
    simp at verdict
  | fail running =>
    refine ⟨by simp, fun _ => chosen ?_, heads, merged, by simp, by simp⟩
    intro isOpen
    simp [isOpen] at running
  | retrySafePr failed => exact ⟨by simp, by simp_all, by simp, rfl, by simp, by simp⟩
  | retryDeploy failed commit =>
    exact ⟨by simp, by simp_all, heads, merged, by simp [commit], by simp⟩
  | retryVerification failed commit =>
    exact ⟨by simp, by simp_all, heads, merged, by simp, by simp [commit]⟩

theorem Move.completed (move : Move view next) :
    (next.status = .completed → view.status = .verificationPending ∨ view.status = .completed) ∧
      (view.status = .completed → next.status = .completed) := by
  cases move with
  | stay => exact ⟨.inr, id⟩
  | replan isOpen planned => cases planned <;> simp_all
  | judge verifying => exact ⟨fun _ => .inl verifying, by simp [verifying]⟩
  | fail running =>
    refine ⟨by simp, fun completed => ?_⟩
    simp [completed] at running
  | _ => simp_all

end K8sOps.Rca
