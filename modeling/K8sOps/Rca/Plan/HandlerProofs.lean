import K8sOps.Rca.Plan.StateMachine

/-! What each handler may write. A write is computed from one row of the table it
read; it names that row, expects its status, moves it along a transition of the
state machine, and keeps its attempt unless it is the retry of a Safe PR. -/
namespace K8sOps.Rca
open Python
variable (library : Library)

section queries

theorem laterRow_cases (found : laterRow best first = some row) :
    row = first ∨ best = some row := by
  unfold laterRow at found
  split at found
  next => exact .inl (Option.some.inj found).symm
  next other =>
    split at found
    next => exact .inl (Option.some.inj found).symm
    next => exact .inr found

theorem foldl_laterRow_mem {rows : List Row} (found : rows.foldl laterRow best = some row) :
    row ∈ rows ∨ best = some row := by
  induction rows generalizing best with
  | nil => exact .inr found
  | cons first rows ih =>
    obtain later | now := ih found
    · exact .inl (List.mem_cons_of_mem _ later)
    · obtain rfl | before := laterRow_cases now
      · exact .inl List.mem_cons_self
      · exact .inr before

theorem latestRow_mem (found : latestRow rows = some row) : row ∈ rows := by
  obtain member | impossible := foldl_laterRow_mem found
  · exact member
  · cases impossible

theorem uniqueRow_mem (found : uniqueRow rows = some row) : row ∈ rows := by
  unfold uniqueRow at found
  split at found
  · cases found
    exact List.mem_cons_self
  · cases found

theorem getRecoveryPlanByCorrelation_some
    (found : getRecoveryPlanByCorrelation correlationId workspaceId store = some row) :
    row ∈ store ∧ row.workspaceId = workspaceId := by
  have member := latestRow_mem found
  simp only [List.mem_filter, Bool.and_eq_true, decide_eq_true_eq] at member
  exact ⟨member.1, member.2.2⟩

theorem getRecoveryPlanForWorkflow_some
    (found : getRecoveryPlanForWorkflow workspaceId workflowRunId bindingId applicationId store =
      some row) :
    row ∈ store ∧ row.workspaceId = workspaceId := by
  have member := uniqueRow_mem found
  simp only [List.mem_filter, Bool.and_eq_true, decide_eq_true_eq] at member
  exact ⟨member.1, member.2.1.1⟩

theorem matchesBaseIdentity_status (matched : matchesBaseIdentity library identity row = true) :
    row.status = .prOpen := by
  unfold matchesBaseIdentity at matched
  simp only [Bool.and_eq_true, decide_eq_true_eq] at matched
  exact matched.1

theorem findOpenRecoveryPlanForPullRequestBaseIdentity_some
    (found : findOpenRecoveryPlanForPullRequestBaseIdentity library identity store = some row) :
    row ∈ store ∧ row.status = .prOpen := by
  obtain ⟨member, matched⟩ := List.mem_filter.mp (uniqueRow_mem found)
  exact ⟨member, matchesBaseIdentity_status library matched⟩

theorem findOpenRecoveryPlanForPullRequest_some
    (found : findOpenRecoveryPlanForPullRequest library identity store = some row) :
    row ∈ store ∧ row.status = .prOpen ∧
      (row.lifecycle.bind (·.pr)).map (·.headSha) = some identity.headSha := by
  obtain ⟨member, matched⟩ := List.mem_filter.mp (uniqueRow_mem found)
  rw [Bool.and_eq_true, decide_eq_true_eq] at matched
  exact ⟨member, matchesBaseIdentity_status library matched.1, matched.2⟩

theorem listRecoveryVerificationPlans_mem
    (member : row ∈ listRecoveryVerificationPlans workspaceId clusterId limit store) :
    row ∈ store ∧ row.status = .verificationPending := by
  have among := List.mem_of_mem_take member
  rw [List.mem_insertionSort, List.mem_filter] at among
  simp only [Bool.and_eq_true, decide_eq_true_eq] at among
  exact ⟨among.1, among.2.1.2⟩

end queries

/-- What a handler writes for a row that it has read. -/
structure LifecycleWrite.For (row : Row) (write : LifecycleWrite) : Prop where
  plan : write.planId = row.planId.val
  workspace : write.workspaceId = row.workspaceId
  expected : write.expectedStatuses = [row.status]
  engaged : row.status ≠ .selectionRequested
  cleared : write.clearSelection = true → write.status = .selectionRequested
  resumed : write.status = .selected → write.lifecycle.retry.isSome
  move : ∀ now run, Move (row.view run)
    ((row.withLifecycle write.status write.lifecycle write.clearSelection now).view
      (write.startedBy.or run))
  attempt : write.lifecycle.attempt = row.attempt ∨
    ∃ attempt, write.lifecycle.attempt = some attempt ∧ row.selectedActionId = some attempt.actionId

def Write.For (row : Row) : Write → Prop
  | .update write => write.For row
  | .reopen planId workspaceId _ => planId = row.planId.val ∧ workspaceId = row.workspaceId

/-- The write opens a plan's PR. -/
def Write.opens : Write → Bool
  | .update write => write.status = .prOpen
  | .reopen .. => false

theorem onRecoverySafePrCreated_for
    (written : onRecoverySafePrCreated library event correlationId approvals sources store =
      some write) :
    ∃ row ∈ store, write.For row := by
  unfold onRecoverySafePrCreated at written
  split at written
  next => cases written
  next row found =>
    obtain ⟨member, workspace⟩ := getRecoveryPlanByCorrelation_some found
    refine ⟨row, member, ?_⟩
    dsimp only at written
    split at written
    next => cases written
    next selected =>
      rw [not_or, not_not] at selected
      split at written
      next =>
        cases written
        exact ⟨rfl, workspace.symm⟩
      next =>
        cases written
        refine ⟨rfl, workspace.symm, by rw [selected.1], by simp [selected.1], nofun, nofun,
          fun now run => ?_, .inl rfl⟩
        exact .track selected.1 event.headSha

theorem failedLifecycle_attempt (row : Row) (failure : Failure) :
    (failedLifecycle row failure).attempt = row.attempt := by
  unfold failedLifecycle Row.attempt
  cases row.lifecycle <;> rfl

theorem failedLifecycle_view (row : Row) (failure : Failure) (status : PlanStatus)
    (clearSelection : Bool) (now : Int) (run : Option WorkflowRun) :
    (row.withLifecycle status (failedLifecycle row failure) clearSelection now).view run =
      { row.view run with
        status
        phase := some .failed
        chosen := !clearSelection && row.selectedActionId.isSome } := by
  unfold failedLifecycle Row.withLifecycle Row.view
  cases row.lifecycle <;> cases clearSelection <;> rfl

theorem onRecoverySafePrFailed_for
    (written : onRecoverySafePrFailed event correlationId approvals store = some write) :
    ∃ row ∈ store, write.For row ∧ write.opens = false := by
  unfold onRecoverySafePrFailed at written
  split at written
  next planId actionId row identified found =>
    obtain ⟨member, workspace⟩ := getRecoveryPlanByCorrelation_some found
    refine ⟨row, member, ?_⟩
    simp only [Option.ite_none_right_eq_some, Option.some.injEq] at written
    obtain ⟨⟨samePlan, selected, _⟩, rfl⟩ := written
    refine ⟨⟨samePlan.symm.trans row.planId.property.1, workspace.symm, by rw [selected],
      by simp [selected], (fun opens => by cases opens), (fun selects => by cases selects),
      fun now run => ?_,
      .inl (failedLifecycle_attempt row _)⟩, rfl⟩
    rw [failedLifecycle_view]
    exact .fail (by simp [Row.view, selected])
  next => cases written

theorem rejectTrackedRecoveryPullRequest_for (tracked : row.status = .prOpen) :
    (rejectTrackedRecoveryPullRequest row reasonCode reason).For row := by
  refine ⟨rfl, rfl, by rw [tracked], by simp [tracked], fun _ => rfl, nofun, fun now run => ?_,
    .inl (failedLifecycle_attempt row _)⟩
  rw [failedLifecycle_view]
  exact .reject tracked

theorem mergeTrackedRecoveryPullRequest_for (tracked : row.status = .prOpen)
    (head : (row.lifecycle.bind (·.pr)).map (·.headSha) = some identity.headSha)
    (written : mergeTrackedRecoveryPullRequest library identity targets image now row =
      some write) :
    write.For row ∧ write.opens = false := by
  have rejected (reasonCode reason : String) :
      (rejectTrackedRecoveryPullRequest row reasonCode reason).For row ∧
        (rejectTrackedRecoveryPullRequest row reasonCode reason).opens = false :=
    ⟨rejectTrackedRecoveryPullRequest_for tracked, rfl⟩
  unfold mergeTrackedRecoveryPullRequest at written
  split at written
  next lifecycle pr stored found =>
    split at written
    next =>
      cases written
      exact rejected _ _
    next target bound =>
      split at written
      next => cases written
      next =>
        split at written
        next changes approved =>
          split at written
          next =>
            cases written
            exact rejected _ _
          next =>
            cases written
            refine ⟨⟨rfl, rfl, by rw [tracked], by simp [tracked], nofun, nofun,
              fun later run => ?_, .inl (by simp [Row.attempt, stored, mergedLifecycle])⟩, rfl⟩
            have moved : Move (row.view run) _ := .merge tracked head identity.mergeCommitSha
            simpa [Row.view, Row.withLifecycle, mergedLifecycle, stored] using moved
        next =>
          cases written
          exact rejected _ _
  next => cases written

theorem handleTrackedRecoveryPullRequest_for
    (written : handleTrackedRecoveryPullRequest library identity targets image now store =
      some write) :
    ∃ row ∈ store, write.For row ∧ write.opens = false := by
  unfold handleTrackedRecoveryPullRequest at written
  split at written
  next => cases written
  next baseRow found =>
    obtain ⟨baseMember, baseTracked⟩ :=
      findOpenRecoveryPlanForPullRequestBaseIdentity_some library found
    split at written
    next =>
      cases written
      exact ⟨baseRow, baseMember, rejectTrackedRecoveryPullRequest_for baseTracked, rfl⟩
    next =>
      split at written
      next => cases written
      next =>
        split at written
        next =>
          cases written
          exact ⟨baseRow, baseMember, rejectTrackedRecoveryPullRequest_for baseTracked, rfl⟩
        next =>
          split at written
          next =>
            cases written
            exact ⟨baseRow, baseMember, rejectTrackedRecoveryPullRequest_for baseTracked, rfl⟩
          next row exactly =>
            obtain ⟨member, tracked, head⟩ :=
              findOpenRecoveryPlanForPullRequest_some library exactly
            exact ⟨row, member, mergeTrackedRecoveryPullRequest_for library tracked head written⟩

/-- The run that starts a verification deployed exactly the merge commit. -/
theorem deploymentSucceeded_commit
    (succeeded : deploymentSucceeded merge run workspaceId workflowRunId bindingId applicationId =
      true) :
    run.commitSha = merge.mergeCommitSha := by
  unfold deploymentSucceeded at succeeded
  simp only [Bool.and_eq_true, decide_eq_true_eq] at succeeded
  obtain ⟨⟨⟨⟨⟨⟨_, commit⟩, _⟩, _⟩, _⟩, _⟩, _⟩ := succeeded
  rw [merge.mergeCommitSha.property, run.commitSha.property] at commit
  exact Subtype.ext commit.symm

theorem recoveryWorkflowMatches_commit
    (matched : recoveryWorkflowMatches run workspaceId merge status = true) :
    run.commitSha = merge.mergeCommitSha := by
  unfold recoveryWorkflowMatches at matched
  simp only [Bool.and_eq_true, decide_eq_true_eq] at matched
  obtain ⟨⟨_, commit⟩, _⟩ := matched
  rw [merge.mergeCommitSha.property, run.commitSha.property] at commit
  exact Subtype.ext commit

theorem startRecoveryVerification_for
    (written : startRecoveryVerification workspaceId workflowRunId bindingId applicationId
      workflow now store =
      some write) : ∃ row ∈ store, write.For row ∧ write.opens = false := by
  unfold startRecoveryVerification at written
  split at written
  next row run found =>
    obtain ⟨member, workspace⟩ := getRecoveryPlanForWorkflow_some found
    refine ⟨row, member, ?_⟩
    split at written
    next lifecycle merge stored merged =>
      simp only [Option.ite_none_right_eq_some, Option.some.injEq] at written
      obtain ⟨⟨pending, succeeded⟩, rfl⟩ := written
      refine ⟨⟨rfl, workspace.symm, by rw [pending], by simp [pending],
        (fun opens => by cases opens), (fun selects => by cases selects),
        fun later before => ?_, .inl (by simp [Row.attempt, stored])⟩, rfl⟩
      have commit : (row.view before).mergeCommit = some run.commitSha := by
        simp [Row.view, merged, deploymentSucceeded_commit succeeded]
      have moved : Move (row.view before) _ := .start pending commit
      simpa [Row.view, Row.withLifecycle, stored] using moved
    next => cases written
  next => cases written

theorem onRecoveryDeployFailed_for
    (written : onRecoveryDeployFailed workspaceId workflowRunId bindingId
      applicationId reason store =
      some write) : ∃ row ∈ store, write.For row ∧ write.opens = false := by
  unfold onRecoveryDeployFailed at written
  split at written
  next => cases written
  next row found =>
    obtain ⟨member, workspace⟩ := getRecoveryPlanForWorkflow_some found
    simp only [Option.ite_none_right_eq_some, Option.some.injEq] at written
    obtain ⟨pending, rfl⟩ := written
    refine ⟨row, member, ⟨rfl, workspace.symm, by rw [pending], by simp [pending],
      (fun opens => by cases opens), (fun selects => by cases selects),
      fun now run => ?_, .inl (failedLifecycle_attempt row _)⟩, rfl⟩
    rw [failedLifecycle_view]
    exact .fail (by simp [Row.view, pending])

theorem verdictStatus_mem (status : VerificationStatus) :
    verdictStatus status ∈ [PlanStatus.verificationPending, .completed, .failed] := by
  cases status <;> simp [verdictStatus]

theorem verdictStatus_ne_selected (status : VerificationStatus) :
    verdictStatus status ≠ .selected := by
  cases status <;> simp [verdictStatus]

theorem verdictStatus_ne_prOpen (status : VerificationStatus) : verdictStatus status ≠ .prOpen := by
  cases status <;> simp [verdictStatus]

theorem judgedLifecycle_view (row : Row) (decision : VerificationDecision) (evidenceKey : String)
    (now : Int) (run : Option WorkflowRun) :
    (row.withLifecycle (verdictStatus decision.status)
        (judgedLifecycle (row.lifecycle.getD (.blank row.status)) decision evidenceKey)
          false now).view run =
      { row.view run with
        status := verdictStatus decision.status
        phase := some (verdictStatus decision.status) } := by
  unfold judgedLifecycle Row.withLifecycle Row.view
  cases row.lifecycle <;> rfl

theorem judgeRow_for {evidenceKey : String} (verifying : row.status = .verificationPending) :
    (judgeRow library evidence evidenceKey alerts now row).For row := by
  refine ⟨rfl, rfl, by rw [verifying], by simp [verifying], nofun,
    fun selected => ?_, fun later run => ?_, .inl ?_⟩
  · exact absurd selected (verdictStatus_ne_selected _)
  · rw [judgedLifecycle_view]
    exact .judge verifying (verdictStatus_mem _)
  · dsimp only [judgedLifecycle, Row.attempt]
    cases row.lifecycle <;> rfl

theorem onRecoveryVerificationEvidence_for {evidenceKey : String}
    (written : write ∈ onRecoveryVerificationEvidence library workspaceId clusterId
      evidenceKey window alerts
      now store) : ∃ row ∈ store, write.For row ∧ write.opens = false := by
  unfold onRecoveryVerificationEvidence at written
  split at written
  next => simp at written
  next evidence =>
    split at written
    next => simp at written
    next =>
      obtain ⟨row, listed, rfl⟩ := List.mem_map.mp written
      obtain ⟨member, verifying⟩ := listRecoveryVerificationPlans_mem listed
      exact ⟨row, member, judgeRow_for library verifying,
        decide_eq_false (verdictStatus_ne_prOpen _)⟩

section retry

theorem deployRetryLifecycle_some
    (prepared : deployRetryLifecycle library request row lifecycle reason workflow = some next) :
    ∃ merge, lifecycle.merge = some merge ∧ next.phase = .deployPending ∧
      next.attempt = lifecycle.attempt ∧
      next.pr = lifecycle.pr ∧ ∃ again, next.merge = some again ∧ again.headSha = merge.headSha ∧
        again.mergeCommitSha = merge.mergeCommitSha := by
  unfold deployRetryLifecycle at prepared
  split at prepared
  next merge pr run merged _ =>
    simp only [Option.ite_none_right_eq_some, Option.some.injEq] at prepared
    obtain ⟨_, rfl⟩ := prepared
    exact ⟨merge, merged, rfl, rfl, rfl, _, rfl, rfl, rfl⟩
  next => cases prepared

theorem verificationRetryLifecycle_some
    (prepared : verificationRetryLifecycle request row lifecycle reason workflow =
      some (next, run)) :
    ∃ merge, lifecycle.merge = some merge ∧ run.commitSha = merge.mergeCommitSha ∧
      next.phase = .verificationPending ∧ next.attempt = lifecycle.attempt ∧
      next.pr = lifecycle.pr ∧ next.merge = lifecycle.merge := by
  unfold verificationRetryLifecycle at prepared
  split at prepared
  next merge workflowRun merged =>
    simp only [Option.ite_none_right_eq_some, Option.some.injEq, Prod.mk.injEq] at prepared
    obtain ⟨matched, rfl, rfl⟩ := prepared
    exact ⟨merge, merged, recoveryWorkflowMatches_commit matched, rfl, rfl, rfl, rfl⟩
  next => cases prepared

theorem failed_lifecycle_view (row : Row) :
    (row.lifecycle.getD (.blank .failed)).attempt = row.attempt ∧
      (row.lifecycle.getD (.blank .failed)).pr = row.lifecycle.bind (·.pr) ∧
      (row.lifecycle.getD (.blank .failed)).merge = row.lifecycle.bind (·.merge) := by
  unfold Row.attempt
  cases row.lifecycle <;> exact ⟨rfl, rfl, rfl⟩

theorem retryWrite_for (failed : row.status = .failed)
    (action : row.selectedActionId = some actionId) (plan : request.expectedPlanId = row.planId.val)
    (workspace : request.workspaceId = row.workspaceId)
    (written : retryWrite library request prepared workflows row
      (row.lifecycle.getD (.blank .failed)) actionId =
      some write) : write.For row ∧ write.status ≠ .prOpen := by
  obtain ⟨sameAttempt, samePr, sameMerge⟩ := failed_lifecycle_view row
  unfold retryWrite at written
  dsimp only at written
  split at written
  next =>
    obtain ⟨_, _, rfl⟩ := Option.map_eq_some_iff.mp written
    refine ⟨⟨plan, workspace, by rw [failed], by simp [failed], nofun,
      fun _ => rfl, fun now run => ?_, .inr ⟨_, rfl, action⟩⟩, nofun⟩
    exact .retrySafePr failed
  next =>
    split at written
    next =>
      obtain ⟨next, prepared, rfl⟩ := Option.map_eq_some_iff.mp written
      obtain ⟨merge, merged, phase, attempt, pr, again, mergedAgain, head, commit⟩ :=
        deployRetryLifecycle_some library prepared
      refine ⟨⟨plan, workspace, by rw [failed], by simp [failed], nofun, nofun, fun now run => ?_,
        .inl (attempt.trans sameAttempt)⟩, nofun⟩
      have known : (row.view run).mergeCommit = some merge.mergeCommitSha := by
        simp [Row.view, ← sameMerge, merged]
      have moved : Move (row.view run) _ := .retryDeploy failed known
      simpa [Row.view, Row.withLifecycle, phase, pr, samePr, mergedAgain, head, commit,
        ← sameMerge, merged]
        using moved
    next =>
      split at written
      next =>
        obtain ⟨⟨next, run⟩, prepared, rfl⟩ := Option.map_eq_some_iff.mp written
        obtain ⟨merge, merged, commit, phase, attempt, pr, mergedAgain⟩ :=
          verificationRetryLifecycle_some prepared
        refine ⟨⟨plan, workspace, by rw [failed], by simp [failed], nofun, nofun,
          fun now before => ?_, .inl (attempt.trans sameAttempt)⟩, nofun⟩
        have known : (row.view before).mergeCommit = some run.commitSha := by
          simp [Row.view, ← sameMerge, merged, commit]
        have moved : Move (row.view before) _ := .retryVerification failed known
        simpa [Row.view, Row.withLifecycle, phase, pr, samePr, mergedAgain, sameMerge] using moved
      next => cases written

theorem retriedPlan_some (found : retriedPlan request store = some (row, actionId)) :
    row ∈ store ∧ row.status = .failed ∧ row.selectedActionId = some actionId ∧
      request.expectedPlanId = row.planId.val ∧ request.workspaceId = row.workspaceId := by
  unfold retriedPlan at found
  split at found
  next => cases found
  next candidate correlated =>
    obtain ⟨member, workspace⟩ := getRecoveryPlanByCorrelation_some correlated
    split at found
    next => cases found
    next chosen action =>
      simp only [Option.ite_none_right_eq_some, Option.some.injEq, Prod.mk.injEq] at found
      obtain ⟨⟨plan, failed, _⟩, rfl, rfl⟩ := found
      exact ⟨member, failed, action, plan.symm.trans candidate.planId.property.1, workspace.symm⟩

theorem retryRecoveryByCorrelation_for
    (written : retryRecoveryByCorrelation library request prepared workflows store = some write) :
    ∃ row ∈ store, write.For row ∧ write.opens = false := by
  obtain ⟨⟨row, actionId⟩, found, written⟩ := Option.bind_eq_some_iff.mp written
  obtain ⟨member, failed, action, plan, workspace⟩ := retriedPlan_some found
  obtain ⟨update, retried, rfl⟩ := Option.map_eq_some_iff.mp written
  obtain ⟨isFor, notOpen⟩ := retryWrite_for library failed action plan workspace retried
  exact ⟨row, member, isFor, decide_eq_false notOpen⟩

end retry

def Notice.isSafePrCreated : Notice → Bool
  | .safePrCreated .. => true
  | _ => false

/-- Every write of every handler is for a row of the table that it read, and only the
handler of a created Safe PR opens a plan's PR. -/
theorem Notice.writes_for (notice : Notice) (written : write ∈ notice.writes library now store) :
    ∃ row ∈ store, write.For row ∧ (write.opens = true → notice.isSafePrCreated = true) := by
  have closed (isFor : ∃ row ∈ store, write.For row ∧ write.opens = false) :
      ∃ row ∈ store, write.For row ∧ (write.opens = true → notice.isSafePrCreated = true) := by
    obtain ⟨row, member, isFor, notOpen⟩ := isFor
    exact ⟨row, member, isFor, fun opens => absurd (notOpen.symm.trans opens) (by decide)⟩
  cases notice with
  | safePrCreated =>
    obtain ⟨row, member, isFor⟩ :=
      onRecoverySafePrCreated_for library (Option.mem_toList.mp written)
    exact ⟨row, member, isFor, fun _ => rfl⟩
  | safePrFailed => exact closed (onRecoverySafePrFailed_for (Option.mem_toList.mp written))
  | pullRequest =>
    exact closed (handleTrackedRecoveryPullRequest_for library (Option.mem_toList.mp written))
  | deployed => exact closed (startRecoveryVerification_for (Option.mem_toList.mp written))
  | deployFailed => exact closed (onRecoveryDeployFailed_for (Option.mem_toList.mp written))
  | evidence => exact closed (onRecoveryVerificationEvidence_for library written)
  | retry => exact closed (retryRecoveryByCorrelation_for library (Option.mem_toList.mp written))

end K8sOps.Rca
