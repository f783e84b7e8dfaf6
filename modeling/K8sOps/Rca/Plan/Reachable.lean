import K8sOps.Rca.Plan.HandlerProofs
import K8sOps.Rca.Plan.Table
import K8sOps.Rca.VerificationStreak

/-! Every reachable table of recovery plans keeps the promises of the state machine:
each step of the system moves every plan along one of its transitions. -/
namespace K8sOps.Rca
open Python Transition
variable (library : Library)

def System.viewOf (system : System) (row : Row) : View := row.view (system.startedBy row.key)

/-- Every plan of the later table is new or has moved from the earlier one, and no
plan is lost. -/
structure Refines (before after : System) : Prop where
  origin : ∀ row ∈ after.store, Planned (after.viewOf row) ∨
    ∃ old ∈ before.store, old.key = row.key ∧ Move (before.viewOf old) (after.viewOf row)
  kept : ∀ old ∈ before.store, ∃ row ∈ after.store, row.key = old.key ∧
    Move (before.viewOf old) (after.viewOf row)

section refinement
variable {before after : System}

theorem Refines.refl (system : System) : Refines system system :=
  ⟨fun row member => .inr ⟨row, member, rfl, .stay⟩, fun row member => ⟨row, member, rfl, .stay⟩⟩

theorem refines_map {change : Row → Row} (changed : after.store = before.store.map change)
    (keys : ∀ row, (change row).key = row.key)
    (moves : ∀ row ∈ before.store, Move (before.viewOf row) (after.viewOf (change row))) :
    Refines before after := by
  refine ⟨fun row member => .inr ?_, fun old member => ?_⟩
  · rw [changed] at member
    obtain ⟨old, among, rfl⟩ := List.mem_map.mp member
    exact ⟨old, among, (keys old).symm, moves old among⟩
  · refine ⟨change old, ?_, keys old, moves old member⟩
    rw [changed]
    exact List.mem_map_of_mem member

theorem updateWhere_refines {condition : Row → Bool} {change : Row → Row} (after : System)
    (distinct : before.store.Distinct)
    (updated : before.store.updateWhere condition change = some after.store)
    (keys : ∀ row, (change row).key = row.key)
    (moves : ∀ row ∈ before.store, condition row = true →
      Move (before.viewOf row) (after.viewOf (change row)))
    (others : ∀ row ∈ before.store, condition row = false →
      after.startedBy row.key = before.startedBy row.key) :
    Refines before after ∧ after.store.Distinct := by
  have sameKeys : ∀ row : Row, (if condition row = true then change row else row).key =
      row.key := by
    intro row
    split
    · exact keys row
    · rfl
  have changed := updateWhere_some updated
  refine ⟨refines_map changed sameKeys fun row member => ?_,
    changed ▸ distinct_map distinct sameKeys⟩
  split
  next qualifies => exact moves row member qualifies
  next unqualified =>
    have same : after.viewOf row = before.viewOf row := by
      unfold System.viewOf
      rw [others row member (by simpa using unqualified)]
    rw [same]
    exact .stay

/-- Updates that are one statement leave the starting runs alone. -/
theorem statement_refines {system : System} {condition : Row → Bool} {change : Row → Row}
    (distinct : system.store.Distinct)
    (updated : system.store.updateWhere condition change = some store)
    (keys : ∀ row, (change row).key = row.key)
    (moves : ∀ row run, condition row = true → Move (row.view run) ((change row).view run)) :
    Refines system { system with store } ∧ store.Distinct := by
  refine updateWhere_refines { system with store } distinct updated keys ?_ fun _ _ _ => rfl
  intro row _ qualifies
  unfold System.viewOf
  rw [keys]
  exact moves row _ qualifies

end refinement

section commands
variable {system : System}

theorem replay_move (row : Row) (planned : ∀ run : Option WorkflowRun, Planned
      ⟨status, none, actionId.isSome, none, none, none, run.map (·.commitSha)⟩)
    (run : Option WorkflowRun) :
    Move (row.view run)
      ((row.replay correlationId plan status actionId selectedBy now).view run) := by
  unfold Row.replay
  dsimp only
  split
  next => exact .stay
  next isOpen =>
    refine .replan ?_ (planned run)
    revert isOpen
    unfold Row.view recoveryPlanMonotonicStatuses
    cases row.status <;> simp

theorem upsertRecoveryPlan_refines (distinct : system.store.Distinct)
    (planned : ∀ run : Option WorkflowRun, Planned
      ⟨status, none, actionId.isSome, none, none, none, run.map (·.commitSha)⟩)
    (updated : system.store.upsertRecoveryPlan correlationId workspaceId plan status actionId
      selectedBy now =
      some store) : Refines system { system with store } ∧ store.Distinct := by
  unfold Store.upsertRecoveryPlan at updated
  simp only [Option.ite_none_left_eq_some, Option.some.injEq] at updated
  obtain ⟨_, updated⟩ := updated
  cases replayed : system.store.updateWhere (Row.hasKey plan.planId.val workspaceId)
      (·.replay correlationId plan status actionId selectedBy now) with
  | some replaced =>
    rw [replayed] at updated
    cases updated
    exact statement_refines distinct replayed (fun row => replay_key row)
      fun row run _ => replay_move row planned run
  | none =>
    rw [replayed] at updated
    cases updated
    refine ⟨⟨fun row member => ?_, fun old member => ?_⟩, ?_⟩
    · obtain earlier | new := List.mem_append.mp member
      · exact .inr ⟨row, earlier, rfl, .stay⟩
      · rw [List.mem_singleton] at new
        subst new
        exact .inl (planned _)
    · exact ⟨old, List.mem_append_left _ member, rfl, .stay⟩
    · have absent := updateWhere_none replayed
      unfold Store.Distinct
      rw [Option.getD_none, List.map_append, List.map_singleton, List.nodup_append]
      refine ⟨distinct, List.nodup_singleton _, ?_⟩
      intro key among other isNew same
      obtain ⟨row, member, rfl⟩ := List.mem_map.mp among
      rw [List.mem_singleton] at isNew
      rw [isNew] at same
      have present := hasKey_iff.mpr same
      rw [absent row member] at present
      cases present

theorem expire_view (row : Row) (run : Option WorkflowRun) :
    (row.expire now).view run = { row.view run with status := .failed, phase := some .failed } := by
  unfold Row.expire expiredLifecycle Row.view
  cases row.lifecycle <;> rfl

theorem expireRecoveryVerifications_refines (distinct : system.store.Distinct) :
    Refines system { system with store := expireRecoveryVerifications now limit system.store } ∧
      (expireRecoveryVerifications now limit system.store).Distinct := by
  unfold expireRecoveryVerifications
  have keys (row : Row) :
      (if isExpiring now limit system.store row = true then row.expire now else row).key =
        row.key := by
    split <;> rfl
  refine ⟨refines_map rfl keys fun row member => ?_, distinct_map distinct keys⟩
  unfold System.viewOf
  rw [keys]
  split
  next expiring =>
    rw [expire_view]
    exact .judge (isExpiring_status expiring) (by simp)
  next => exact .stay

theorem reopen_refines (distinct : system.store.Distinct)
    (updated : system.store.reopenRecoveryPlanAction planId workspaceId actionId now = some store) :
    Refines system { system with store } ∧ store.Distinct := by
  refine statement_refines distinct updated (fun _ => rfl) fun row run qualifies => ?_
  simp only [Bool.and_eq_true, decide_eq_true_eq] at qualifies
  exact .reopen qualifies.1.2

theorem Command.run_refines (distinct : system.store.Distinct) (command : Command)
    (ran : command.run now system.store = some store) :
    Refines system { system with store } ∧ store.Distinct := by
  cases command with
  | plan correlationId workspaceId body selection =>
    cases selection with
    | none => exact upsertRecoveryPlan_refines distinct (fun _ => .requested) ran
    | some chosen => exact upsertRecoveryPlan_refines distinct (fun _ => .selected) ran
  | select =>
    refine statement_refines distinct ran (fun _ => rfl) fun row run qualifies => ?_
    simp only [openRecoveryPlanStatuses, Bool.and_eq_true, decide_eq_true_eq,
      List.mem_singleton] at qualifies
    exact .select qualifies.2
  | reopen => exact reopen_refines distinct ran
  | expire =>
    cases ran
    exact expireRecoveryVerifications_refines distinct

theorem Command.run_distinct {store next : Store} (distinct : store.Distinct) (command : Command)
    (ran : command.run now store = some next) : next.Distinct := by
  let system : System := ⟨store, fun _ => none⟩
  have before : system.store.Distinct := distinct
  exact (command.run_refines before ran).2

end commands

section handlers
variable {system : System}

theorem LifecycleWrite.For.key {row : Row} {write : LifecycleWrite} (computed : write.For row) :
    row.key = (write.planId, write.workspaceId) := by
  rw [computed.plan, computed.workspace]
  rfl

/-- A write moves the row that it was computed from, and no other. -/
theorem perform_refines (distinct : system.store.Distinct) (member : row ∈ system.store)
    (computed : write.For row) :
    Refines system (system.perform write now) ∧ (system.perform write now).store.Distinct := by
  cases write with
  | reopen planId workspaceId actionId =>
    unfold System.perform Write.apply
    dsimp only
    cases updated : system.store.reopenRecoveryPlanAction planId workspaceId actionId now with
    | none => exact ⟨.refl _, distinct⟩
    | some store => exact reopen_refines distinct updated
  | update update =>
    have computed : update.For row := computed
    unfold System.perform
    dsimp only
    split
    next => exact ⟨.refl _, distinct⟩
    next store updated =>
      have key := computed.key
      refine updateWhere_refines _ distinct updated (fun _ => withLifecycle_key _) ?_ ?_
      · intro other among qualifies
        rw [Bool.and_eq_true, hasKey_iff] at qualifies
        obtain rfl := distinct.unique member among (key.trans qualifies.1.symm)
        unfold System.viewOf
        rw [withLifecycle_key]
        dsimp only
        rw [if_pos key]
        exact computed.move now _
      · intro other among unqualified
        rw [Bool.and_eq_false_iff] at unqualified
        refine if_neg fun same => ?_
        obtain rfl := distinct.unique member among (key.trans same.symm)
        obtain otherKey | otherStatus := unqualified
        · rw [hasKey_iff.mpr same] at otherKey
          cases otherKey
        · simp [computed.expected] at otherStatus

end handlers

/-- Every step of the system moves every plan along a transition of the machine. -/
theorem System.next_refines {system next : System} (distinct : system.store.Distinct)
    (step : system.next library label = some next) : Refines system next ∧ next.store.Distinct := by
  cases label with
  | command command now =>
    obtain ⟨store, ran, rfl⟩ := Option.map_eq_some_iff.mp step
    exact command.run_refines distinct ran
  | handle notice index now =>
    obtain ⟨write, written, rfl⟩ := Option.map_eq_some_iff.mp step
    obtain ⟨row, member, computed, _⟩ := notice.writes_for library (List.mem_of_getElem? written)
    exact perform_refines distinct member computed

/-- The table is well formed, and every plan has what its status promises. -/
structure System.Promising (system : System) : Prop where
  distinct : system.store.Distinct
  promised : ∀ row ∈ system.store, Promised (system.viewOf row)

theorem System.promising_stable :
    Stable (Step (System.next library) always) System.Promising := by
  intro system label next step promising
  obtain ⟨refines, distinct⟩ := System.next_refines library promising.distinct step.2
  refine ⟨distinct, fun row member => ?_⟩
  obtain planned | ⟨old, among, _, move⟩ := refines.origin row member
  · exact planned.promised
  · exact move.promised (promising.promised old among)

theorem System.empty_promising : System.empty.Promising := ⟨List.nodup_nil, by simp [System.empty]⟩

theorem promised_phase {row : Row} (promised : Promised (row.view run))
    (later : row.status ∈ [PlanStatus.prOpen, .deployPending, .verificationPending, .completed,
      .failed]) :
    ∃ lifecycle, row.lifecycle = some lifecycle ∧ lifecycle.phase = row.status := by
  have notOpen : row.status ≠ .selectionRequested := by
    intro isOpen
    simp [isOpen] at later
  have notSelected : row.status ≠ .selected := by
    intro selected
    simp [selected] at later
  exact Option.map_eq_some_iff.mp (promised.phase notOpen notSelected)

theorem promised_completed {row : Row} (promised : Promised (row.view run))
    (completed : row.status = .completed) :
    ∃ lifecycle pr merge workflowRun, row.lifecycle = some lifecycle ∧ lifecycle.pr = some pr ∧
      lifecycle.merge = some merge ∧ run = some workflowRun ∧ merge.headSha = pr.headSha ∧
      workflowRun.commitSha = merge.mergeCommitSha := by
  obtain ⟨commit, merged, started⟩ := promised.verified (by simp [Row.view, completed])
  obtain ⟨merge, mergeStored, commitOf⟩ := Option.map_eq_some_iff.mp merged
  obtain ⟨lifecycle, stored, merge_⟩ := Option.bind_eq_some_iff.mp mergeStored
  obtain ⟨workflowRun, isRun, commitRun⟩ := Option.map_eq_some_iff.mp started
  have head := promised.heads merge.headSha (by simp [Row.view, mergeStored])
  obtain ⟨pr, prStored, headOf⟩ := Option.map_eq_some_iff.mp head
  rw [stored] at prStored
  exact ⟨lifecycle, pr, merge, workflowRun, stored, prStored, merge_, isRun, headOf.symm,
    commitRun.trans commitOf.symm⟩

/-- The state machine of recovery plans. In every table reachable from an empty one,
a plan past its selection has the phase of its status; a plan that is not open has a
selected action; a completed plan was merged at the head of its PR, and the run that
started its verification deployed the merge commit. Every step enters completion
only from verification and never leaves it. -/
theorem System.plan_state_machine {system : System}
    (run : Run (Step (System.next library) always) System.empty labels system) :
    (∀ row ∈ system.store,
      (row.status ∈ [PlanStatus.prOpen, .deployPending, .verificationPending, .completed, .failed] →
        ∃ lifecycle, row.lifecycle = some lifecycle ∧ lifecycle.phase = row.status) ∧
      (row.status ≠ .selectionRequested → row.selectedActionId.isSome) ∧
      (row.status = .completed → ∃ lifecycle pr merge workflowRun, row.lifecycle = some lifecycle ∧
        lifecycle.pr = some pr ∧ lifecycle.merge = some merge ∧
        system.startedBy row.key = some workflowRun ∧
        merge.headSha = pr.headSha ∧ workflowRun.commitSha = merge.mergeCommitSha)) ∧
    ∀ label next, system.next library label = some next →
      (∀ row ∈ next.store, row.status = .completed → ∃ old ∈ system.store, old.key = row.key ∧
        (old.status = .verificationPending ∨ old.status = .completed)) ∧
      ∀ old ∈ system.store, old.status = .completed →
        ∃ row ∈ next.store, row.key = old.key ∧ row.status = .completed := by
  have promising := run.holds (System.promising_stable library) System.empty_promising
  refine ⟨fun row member => ?_, fun label next step => ?_⟩
  · have promised := promising.promised row member
    exact ⟨promised_phase promised, promised.chosen, promised_completed promised⟩
  · obtain ⟨refines, _⟩ := System.next_refines library promising.distinct step
    refine ⟨fun row member completed => ?_, fun old member completed => ?_⟩
    · obtain planned | ⟨old, among, key, move⟩ := refines.origin row member
      · exact absurd completed planned.not_completed
      · exact ⟨old, among, key, move.completed.1 completed⟩
    · obtain ⟨row, among, key, move⟩ := refines.kept old member
      exact ⟨row, among, key, move.completed.2 completed⟩

section sample

def sampleLibrary : Library where
  codec := sampleCodec
  texts := {
    str := fun _ => ""
    casefold := fun value => value
    lower := fun value => value
    setOrder := fun items => items
    setOrder_perm := fun _ => .refl _ }
  digest value := value

def samplePlanId : PlanId := ⟨"plan-1", by decide +kernel⟩

def sampleScale : ActionId := ⟨"scale", by decide +kernel⟩

def sampleRestart : ActionId := ⟨"restart", by decide +kernel⟩

def sampleCommit : CommitSha := ⟨"c0ffee", by decide +kernel⟩

def sampleCandidate (actionId : String) : Value :=
  objectValue [("action_id", textValue actionId), ("route", textValue "draft_pr"),
    ("draft", objectValue [])]

def samplePlan : PlanBody where
  planId := samplePlanId
  incidentId := "incident-1"
  evidenceRef := "evidence-1"
  document := asMapping (objectValue [
    ("target", objectValue [("cluster_id", textValue "blue"), ("namespace", textValue "shop"),
      ("resource_kind", textValue "deployment"), ("resource_name", textValue "api")]),
    ("candidates", .list [sampleCandidate "scale", sampleCandidate "restart"])])

def sampleParams (commitSha : String) : Entries :=
  asMapping (objectValue [
    ("repository_id", textValue "repository-1"), ("binding_id", textValue "binding-1"),
    ("application_id", textValue "application-1"), ("repo_ref", textValue "shop/api"),
    ("base_branch", textValue "main"), ("commit_sha", textValue commitSha),
    ("authorized_changes", .list [objectValue [("field_path", textValue "spec.replicas"),
      ("current_value", intValue 1), ("desired_value", intValue 3)]]),
    ("verification_failure_ratio_before", intValue 1),
    ("verification_failure_ratio_metric_identity", sampleLabels),
    ("verification_request_rate_baseline", intValue 100),
    ("verification_request_rate_metric_identity", sampleLabels),
    ("expected_replicas", intValue 3),
    ("verification_evidence_cadence_seconds", intValue 300),
    ("verification_alert_before", objectValue [("available", .scalar (.bool true)),
      ("alert_event_id", textValue "alert-1"), ("threshold", intValue 0)])])

def sampleApproval (params : Entries) : Entries :=
  asMapping (objectValue [
    ("selected_candidate", objectValue [("draft", objectValue [("params", .dict params)])])])

def sampleApprovals : ApprovalLookup := fun _ _ => some (sampleApproval (sampleParams "base-1"))

def sampleHead : String := "0123456789abcdef0123456789abcdef01234567"

def sampleSafePr : SafePrCreated where
  prUrl := "https://github.com/shop/api/pull/1"
  mode := "github_rest"
  workspaceId := "workspace-1"
  repositoryId := "repository-1"
  bindingId := "binding-1"
  applicationId := "application-1"
  environment := "production"
  manifestPath := "deploy/api.yaml"
  repoRef := "shop/api"
  baseBranch := "main"
  commitSha := "base-1"
  patchSha256 := ""
  prNumber := some 1
  prNodeId := "node-1"
  headRef := "recovery"
  headSha := sampleHead

def sampleSources : BaselineSources := ⟨[], [], [], none, none, some 0, 0⟩

def samplePullRequest : PullRequestIdentity where
  action := "closed"
  merged := true
  url := "https://github.com/shop/api/pull/1"
  number := 1
  nodeId := "node-1"
  repoRef := "shop/api"
  baseBranch := "main"
  headRef := "recovery"
  headSha := sampleHead
  mergeCommitSha := sampleCommit

def samplePollTarget : PollTarget where
  workspaceId := "workspace-1"
  repositoryId := "repository-1"
  repoRef := "shop/api"
  branch := "main"
  watchTargetId := ""
  bindingId := "binding-1"
  applicationId := "application-1"
  environment := "production"
  clusterId := "blue"
  manifestPath := "deploy/api.yaml"
  sourceType := ""

def sampleRunId : String := recoveryMergeWorkflowRunId sampleLibrary "plan-1" sampleCommit

def sampleRun : WorkflowRun where
  workflowRunId := sampleRunId
  workspaceId := "workspace-1"
  bindingId := "binding-1"
  applicationId := "application-1"
  clusterId := "blue"
  commitSha := sampleCommit
  status := "succeeded"

def sampleWindow (delivery : Delivery) (key : String) : Notice :=
  .evidence "workspace-1" "blue" key (some delivery.evidence) fun _ => delivery.alerts

def sampleRecovery : List Label := [
  .command (.plan "correlation-1" "workspace-1" samplePlan none) 0,
  .command (.select "plan-1" "workspace-1" sampleScale "operator" "attempt-1") 0,
  .handle (.safePrCreated sampleSafePr "correlation-1" sampleApprovals sampleSources) 0 0,
  .handle (.pullRequest samplePullRequest [samplePollTarget] "api:2") 0 0,
  .handle (.deployed "workspace-1" sampleRunId "binding-1" "application-1" (some sampleRun)) 0 0,
  .handle (sampleWindow sampleFirst "window-1") 0 sampleFirst.now,
  .handle (sampleWindow sampleSecond "window-2") 0 sampleSecond.now]

end sample

/-- A recovery that runs from its plan to its completion, and what it was completed with. -/
theorem System.plan_state_machine_completed : ∃ system row lifecycle pr merge workflowRun,
    Run (Step (System.next sampleLibrary) always) System.empty sampleRecovery system ∧
      row ∈ system.store ∧ row.status = .completed ∧ row.lifecycle = some lifecycle ∧
      lifecycle.pr = some pr ∧ lifecycle.merge = some merge ∧
      system.startedBy row.key = some workflowRun ∧ merge.headSha = pr.headSha ∧
      workflowRun.commitSha = merge.mergeCommitSha := by
  have executed : (execute (System.next sampleLibrary) always System.empty sampleRecovery).map
      (fun system => system.store.map (·.status)) = some [.completed] := by
    decide +kernel
  obtain ⟨system, reached, statuses⟩ := Option.map_eq_some_iff.mp executed
  have run := execute_run reached
  obtain ⟨row, rest, rows, completed, _⟩ := List.map_eq_cons_iff.mp statuses
  have member : row ∈ system.store := by
    rw [rows]
    exact List.mem_cons_self
  obtain ⟨lifecycle, pr, merge, workflowRun, stored⟩ :=
    ((System.plan_state_machine sampleLibrary run).1 row member).2.2 completed
  exact ⟨system, row, lifecycle, pr, merge, workflowRun, run, member, completed, stored⟩

end K8sOps.Rca
