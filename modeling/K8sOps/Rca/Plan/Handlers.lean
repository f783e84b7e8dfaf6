import K8sOps.Gitops.RecoveryMerge
import K8sOps.Rca.Plan.Baseline

/-! The handlers that move a recovery plan. Each one reads the table and its other
sources, and then makes at most one conditional write; the write is returned, so
that it can be made at once or after other writes. -/
namespace K8sOps.Rca
open Python

/-- The library functions and the digest of identifiers. -/
structure Library where
  codec : Codec
  texts : Gitops.TextCodec
  /-- The first 32 hexadecimal digits of the SHA-256 digest. -/
  digest : String → String

variable (library : Library)

/-- A workflow run as `get_workflow_run` returns it. -/
structure WorkflowRun where
  workflowRunId : String
  workspaceId : String
  bindingId : String
  applicationId : String
  clusterId : String
  commitSha : CommitSha
  status : String
  deriving DecidableEq

/-- A call of `update_recovery_plan_lifecycle_if_status`. A write that starts a
verification also carries the workflow run it was started for, whose identity the
event emitted with the write reports. -/
structure LifecycleWrite where
  planId : String
  workspaceId : String
  expectedStatuses : List PlanStatus
  status : PlanStatus
  lifecycle : Lifecycle
  clearSelection : Bool := false
  startedBy : Option WorkflowRun := none

inductive Write where
  | update (write : LifecycleWrite)
  | reopen (planId workspaceId actionId : String)

def Write.key : Write → String × String
  | .update write => (write.planId, write.workspaceId)
  | .reopen planId workspaceId _ => (planId, workspaceId)

/-- Make a write, which does nothing when its condition does not hold. -/
def Write.apply (write : Write) (now : Int) (store : Store) : Store :=
  match write with
  | .update write =>
    (store.updateRecoveryPlanLifecycleIfStatus write.planId write.workspaceId write.expectedStatuses
      write.status write.lifecycle write.clearSelection now).getD store
  | .reopen planId workspaceId actionId =>
    (store.reopenRecoveryPlanAction planId workspaceId actionId now).getD store

section safePr

structure SafePrCreated where
  prUrl : String
  mode : String
  workspaceId : String
  repositoryId : String
  bindingId : String
  applicationId : String
  environment : String
  manifestPath : String
  repoRef : String
  baseBranch : String
  commitSha : String
  patchSha256 : String
  prNumber : Option Int
  prNodeId : String
  headRef : String
  headSha : String
  deriving DecidableEq

def safePrRoute : String := "draft_pr"

/-- The one candidate of the plan with the selected action. -/
def selectedRecoveryCandidate (row : Row) : Entries :=
  let actionId := strip (row.actionText.getD "")
  let chosen : Value → Option Entries
    | .dict candidate => if getText "action_id" candidate = actionId then some candidate else none
    | _ => none
  match getOrNone "candidates" row.document with
  | .list candidates =>
    if actionId = "" then []
    else
      match candidates.filterMap chosen with
      | [candidate] => candidate
      | _ => []
  | _ => []

def recoveryApprovalIdentity (planId actionId : String) : String :=
  "approval-" ++ library.digest (planId ++ "|" ++ actionId ++ "|recovery-action")

/-- The stored details of an approval, by its identity and workspace. -/
abbrev ApprovalLookup := String → String → Option Entries

def recoveryApprovalRecord (approvals : ApprovalLookup) (row : Row)
    (workspaceId : String) : Entries :=
  let planId := strip row.planId.val
  let actionId := strip (row.actionText.getD "")
  if planId = "" ∨ actionId = "" then []
  else (approvals (recoveryApprovalIdentity library planId actionId) workspaceId).getD []

def selectedCandidateParams (details : Entries) : Entries :=
  getMapping "params" (getMapping "draft" (getMapping "selected_candidate" details))

/-- Every change names a path of its own and both values, or none is approved. -/
def approvedChangeContract (value : Value) : List Value :=
  let add (changes : List (String × Value)) : Value → Option (List (String × Value))
    | .dict item =>
      let path := getText "field_path" item
      if path = "" ∨ path ∈ changes.map Prod.fst ∨ (getKey "current_value" item).isNone ∨
          (getKey "desired_value" item).isNone then none
      else some (changes ++ [(path, .dict [(.str "field_path", .scalar (.str path)),
        (.str "current_value", getOrNone "current_value" item),
        (.str "desired_value", getOrNone "desired_value" item)])])
    | _ => none
  match value with
  | .list items => ((items.foldlM add []).getD []).map Prod.snd
  | _ => []

def isGithubSha (text : String) : Bool :=
  40 ≤ text.length && text.length ≤ 64 && text.toList.all fun c => c.isDigit || 'a' ≤ c && c ≤ 'f'

inductive IdentityError where
  | incomplete
  | mismatch
  deriving DecidableEq

def safePrComplete (event : SafePrCreated) : Bool :=
  event.mode = "github_rest" && "https://".toList.isPrefixOf event.prUrl.toList &&
    event.prNumber.any (0 < ·) && event.prNodeId ≠ "" && event.headRef ≠ "" &&
    isGithubSha event.headSha

def safePrIdentity (event : SafePrCreated) : List (String × String) :=
  [("repository_id", event.repositoryId), ("binding_id", event.bindingId),
    ("application_id", event.applicationId), ("repo_ref", event.repoRef),
    ("base_branch", event.baseBranch), ("commit_sha", event.commitSha)]

def safePrIdentityError (event : SafePrCreated) (params : Entries) : Option IdentityError :=
  if !safePrComplete event then some .incomplete
  else if (safePrIdentity event).any fun entry => getText entry.1 params ≠ entry.2 then
    some .mismatch
  else none

/-- `text_value(params.get(key) or draft.get(key) or target.get(key))`. -/
def selectedRecoveryTarget (document selected : Entries) : Target :=
  let target := getMapping "target" document
  let draft := getMapping "draft" selected
  let params := getMapping "params" draft
  let first (key : String) : String :=
    if truthy (getOrNone key params) then getText key params
    else if truthy (getOrNone key draft) then getText key draft
    else getText key target
  ⟨first "cluster_id", first "namespace", first "resource_kind", first "resource_name"⟩

def trackedPullRequest (event : SafePrCreated) (target : Target) (attempt : Option Attempt)
    (now : Int) : PullRequest where
  url := event.prUrl
  number := event.prNumber.getD 0
  nodeId := event.prNodeId
  headRef := event.headRef
  headSha := event.headSha
  repoRef := event.repoRef
  repositoryId := event.repositoryId
  bindingId := event.bindingId
  applicationId := event.applicationId
  baseBranch := event.baseBranch
  manifestPath := event.manifestPath
  environment := event.environment
  clusterId := target.clusterId
  patchSha256 := event.patchSha256
  trackedAt := now
  attemptId := (attempt.map fun attempt => strip attempt.id).filter (· ≠ "")

/-- Bind only a complete PR identity to the selected recovery; any other PR opens
the selection again. -/
def onRecoverySafePrCreated (event : SafePrCreated) (correlationId : String)
    (approvals : ApprovalLookup) (sources : BaselineSources) (store : Store) : Option Write :=
  match getRecoveryPlanByCorrelation correlationId event.workspaceId store with
  | none => none
  | some row =>
    let selected := selectedRecoveryCandidate row
    if row.status ≠ .selected ∨ getText "route" selected ≠ safePrRoute then none
    else
      let params :=
        selectedCandidateParams (recoveryApprovalRecord library approvals row event.workspaceId)
      let authorizedChanges := approvedChangeContract (getOrNone "authorized_changes" params)
      match safePrIdentityError event params with
      | some _ => some (.reopen row.planId.val event.workspaceId (row.actionText.getD ""))
      | none =>
        let target := selectedRecoveryTarget row.document selected
        let attempt := row.attempt
        some (.update {
          planId := row.planId.val
          workspaceId := event.workspaceId
          expectedStatuses := [.selected]
          status := .prOpen
          lifecycle := {
            phase := .prOpen
            attempt
            pr := some (trackedPullRequest event target attempt sources.now)
            verification := some (trackedVerification library.codec params authorizedChanges target
              correlationId row.incidentId sources)
            authorization := some ⟨target, authorizedChanges⟩
            merge := none
            failure := none
            retry := none } })

structure SafePrFailed where
  workspaceId : String
  reason : String
  reasonCode : String
  stage : String
  workflowRunId : String
  commitSha : String
  evidenceRef : String
  details : Entries

/-- The plan and action that a failed Safe PR belongs to: those of its approval, or
else those of the plan that is selected now. -/
def failedSafePrRecoveryIdentity (event : SafePrFailed) (correlationId : String)
    (approvals : ApprovalLookup) (store : Store) : Option (String × String) :=
  let approvalRef := getText "approval_ref" event.details
  let approved := if approvalRef = "" then [] else (approvals approvalRef event.workspaceId).getD []
  let planId := getText "recovery_plan_id" approved
  let actionId := getText "recovery_action_id" approved
  if planId ≠ "" ∧ actionId ≠ "" then some (planId, actionId)
  else
    match getRecoveryPlanByCorrelation correlationId event.workspaceId store with
    | none => none
    | some row =>
      let actionId := strip (row.actionText.getD "")
      if row.status ≠ .selected ∨ strip row.planId.val = "" ∨ actionId = "" then none
      else some (strip row.planId.val, actionId)

def safePrFailedStage : String := "safe_pr"

def safePrFailure (event : SafePrFailed) : Failure where
  stage := safePrFailedStage
  reasonCode := event.reasonCode
  reason := event.reason
  providerStage := some event.stage
  approvalRef := some (getText "approval_ref" event.details)
  workflowRunId := some event.workflowRunId
  commitSha := some event.commitSha
  evidenceRef := some event.evidenceRef

/-- `dict(mapping(payload.get("lifecycle")))` with a new phase and failure. -/
def failedLifecycle (row : Row) (failure : Failure) : Lifecycle :=
  { row.lifecycle.getD (.blank .failed) with phase := .failed, failure := some failure }

def onRecoverySafePrFailed (event : SafePrFailed) (correlationId : String)
    (approvals : ApprovalLookup) (store : Store) : Option Write :=
  match failedSafePrRecoveryIdentity event correlationId approvals store,
    getRecoveryPlanByCorrelation correlationId event.workspaceId store with
  | some (planId, actionId), some row =>
    if strip row.planId.val = planId ∧ row.status = .selected ∧
        strip (row.actionText.getD "") = actionId then
      some (.update {
        planId
        workspaceId := event.workspaceId
        expectedStatuses := [.selected]
        status := .failed
        lifecycle := failedLifecycle row (safePrFailure event) })
    else none
  | _, _ => none

end safePr

section pullRequest

/-- The identity that a pull-request webhook carries. -/
structure PullRequestIdentity where
  action : String
  merged : Bool
  url : String
  number : Int
  nodeId : String
  repoRef : String
  baseBranch : String
  headRef : String
  headSha : String
  mergeCommitSha : CommitSha
  deriving DecidableEq

/-- A tracked repository binding, polled for deployments. -/
structure PollTarget where
  workspaceId : String
  repositoryId : String
  repoRef : String
  branch : String
  watchTargetId : String
  bindingId : String
  applicationId : String
  environment : String
  clusterId : String
  manifestPath : String
  sourceType : String
  deriving DecidableEq

def matchesBaseIdentity (identity : PullRequestIdentity) (row : Row) : Bool :=
  row.status = .prOpen &&
    match row.lifecycle.bind (·.pr) with
    | some pr =>
      pr.url = identity.url && library.codec.lower pr.repoRef =
        library.codec.casefold identity.repoRef &&
        pr.baseBranch = identity.baseBranch && pr.number = identity.number &&
          pr.nodeId = identity.nodeId &&
        pr.headRef = identity.headRef
    | none => false

/-- Without the head SHA, which detects a force push. -/
def findOpenRecoveryPlanForPullRequestBaseIdentity (identity : PullRequestIdentity)
    (store : Store) : Option Row :=
  uniqueRow (store.filter (matchesBaseIdentity library identity))

def findOpenRecoveryPlanForPullRequest (identity : PullRequestIdentity)
    (store : Store) : Option Row :=
  uniqueRow (store.filter fun row => matchesBaseIdentity library identity row &&
    (row.lifecycle.bind (·.pr)).map (·.headSha) = some identity.headSha)

/-- The one active binding that the merged PR was approved for. -/
def exactRecoveryPollTarget (targets : List PollTarget) (row : Row)
    (pr : PullRequest) : Option PollTarget :=
  let fallback := columnText (getOrNone "cluster_id" (getMapping "target" row.document))
  let clusterId := if pr.clusterId ≠ "" then pr.clusterId else fallback.getD ""
  let expected := [row.workspaceId, pr.repositoryId, pr.repoRef, pr.baseBranch, pr.bindingId,
    pr.applicationId, pr.environment, clusterId, pr.manifestPath]
  if expected.any (· = "") then none
  else
    match targets.filter fun target =>
      target.workspaceId = row.workspaceId && target.repositoryId = pr.repositoryId &&
        library.codec.casefold target.repoRef = library.codec.casefold pr.repoRef &&
        target.branch = pr.baseBranch && target.bindingId = pr.bindingId &&
        target.applicationId = pr.applicationId && target.environment = pr.environment &&
        target.clusterId = clusterId && target.manifestPath = pr.manifestPath with
    | [target] => some target
    | _ => none

/-- A rejected PR opens the selection again, with the reason in the lifecycle. -/
def rejectTrackedRecoveryPullRequest (row : Row) (reasonCode reason : String) : Write :=
  .update {
    planId := row.planId.val
    workspaceId := row.workspaceId
    expectedStatuses := [.prOpen]
    status := .selectionRequested
    lifecycle := failedLifecycle row ⟨"", reasonCode, reason, none, none, none, none, none⟩
    clearSelection := true }

/-- The payload as the check of the approved contract reads it. -/
def Lifecycle.payload (lifecycle : Lifecycle) : Entries :=
  let changes := (lifecycle.authorization.map (·.changes)).getD []
  [(.str "lifecycle", .dict [(.str "authorization", .dict [(.str "changes", .list changes)])])]

/-- The approved value of `spec.replicas`, or the default of the webhook. -/
def approvedReplicas (approved : List Gitops.ApprovedChange) : Int :=
  match approved.find? (·.path = "spec.replicas") with
  | some ⟨_, _, .scalar (.int replicas)⟩ => if 0 < replicas then replicas else 2
  | _ => 2

def recoveryMergeWorkflowRunId (planId : String) (mergeCommitSha : CommitSha) : String :=
  "workflow-" ++ library.digest (planId ++ "|" ++ mergeCommitSha.val ++ "|recovery-merge")

def bodyForPollTarget (target : PollTarget) (commitSha : CommitSha) (image : String)
    (correlationId : String) (replicas : Int) (workflowRunId : String) : DeploymentRequest where
  commitSha := commitSha
  image := image
  replicas := replicas
  correlationId := correlationId
  workspaceId := target.workspaceId
  repositoryId := target.repositoryId
  repoRef := target.repoRef
  branch := target.branch
  watchTargetId := target.watchTargetId
  bindingId := target.bindingId
  applicationId := target.applicationId
  workflowRunId := workflowRunId
  environment := target.environment
  clusterId := target.clusterId
  manifestPath := target.manifestPath
  sourceType := target.sourceType
  force := true

/-- A merged PR waits for its own deterministic deployment run. -/
def mergedLifecycle (row : Row) (lifecycle : Lifecycle) (pr : PullRequest)
    (identity : PullRequestIdentity) (target : PollTarget) (approved : List Gitops.ApprovedChange)
    (image : String) (now : Int) : Lifecycle :=
  let workflowRunId := recoveryMergeWorkflowRunId library row.planId.val identity.mergeCommitSha
  { lifecycle with
    phase := .deployPending
    merge := some {
      prUrl := identity.url
      headSha := identity.headSha
      mergeCommitSha := identity.mergeCommitSha
      mergedAt := now
      workflowRunId
      previousWorkflowRunId := none
      repositoryId := pr.repositoryId
      bindingId := pr.bindingId
      applicationId := pr.applicationId
      clusterId := pr.clusterId
      attemptId := lifecycle.attempt.map (·.id)
      retryAttempt := 0
      deploymentRequest := bodyForPollTarget target identity.mergeCommitSha image row.correlationId
        (approvedReplicas approved) workflowRunId } }

/-- The webhook of a merged PR, for the plan that tracks exactly this PR and head. -/
def mergeTrackedRecoveryPullRequest (identity : PullRequestIdentity) (targets : List PollTarget)
    (image : String) (now : Int) (row : Row) : Option Write :=
  match row.lifecycle, row.lifecycle.bind (·.pr) with
  | some lifecycle, some pr =>
    match exactRecoveryPollTarget library targets row pr with
    | none =>
      some (rejectTrackedRecoveryPullRequest row "recovery_binding_unavailable"
        "merge된 PR과 정확히 일치하는 활성 deployment binding을 찾지 못했습니다.")
    | some target =>
      -- A missing baseline keeps the plan open and refuses the webhook.
      if (lifecycle.verification.map (·.blockers)).any (·.any (· ≠ "")) then none
      else
        match Gitops.approvedChangeContract library.texts lifecycle.payload with
        | some changes =>
          if image = "" ∨ identity.mergeCommitSha.val = "" then
            some (rejectTrackedRecoveryPullRequest row "recovery_deploy_context_incomplete"
              "merge commit 또는 GitOps webhook image가 없어 배포를 시작할 수 없습니다.")
          else
            some (.update {
              planId := row.planId.val
              workspaceId := row.workspaceId
              expectedStatuses := [.prOpen]
              status := .deployPending
              lifecycle := mergedLifecycle library row lifecycle pr identity target
                changes image now })
        | none =>
          some (rejectTrackedRecoveryPullRequest row "recovery_deploy_context_incomplete"
            "merge commit 또는 GitOps webhook image가 없어 배포를 시작할 수 없습니다.")
  | _, _ => none

def handleTrackedRecoveryPullRequest (identity : PullRequestIdentity) (targets : List PollTarget)
    (image : String) (now : Int) (store : Store) : Option Write :=
  match findOpenRecoveryPlanForPullRequestBaseIdentity library identity store with
  | none => none
  | some baseRow =>
    if identity.action = "synchronize" then
      some (rejectTrackedRecoveryPullRequest baseRow "safe_pr_head_changed"
        "PR 생성 후 head가 변경되어 승인된 patch identity를 더 이상 신뢰할 수 없습니다.")
    else if identity.action ≠ "closed" then none
    else if !identity.merged then
      some (rejectTrackedRecoveryPullRequest baseRow "safe_pr_closed_without_merge"
        "복구 PR이 merge되지 않고 닫혔습니다.")
    else
      match findOpenRecoveryPlanForPullRequest library identity store with
      | none =>
        some (rejectTrackedRecoveryPullRequest baseRow "safe_pr_head_mismatch"
          "merge webhook의 head SHA가 생성 시 저장한 Safe PR head SHA와 다릅니다.")
      | some row => mergeTrackedRecoveryPullRequest library identity targets image now row

end pullRequest

section workflow

def getRecoveryPlanForWorkflow (workspaceId workflowRunId bindingId applicationId : String)
    (store : Store) : Option Row :=
  uniqueRow (store.filter fun row =>
    row.workspaceId = workspaceId &&
      row.status ∈ [.deployPending, .verificationPending, .completed, .failed] &&
      match row.lifecycle.bind (·.merge) with
      | some merge =>
        merge.workflowRunId = workflowRunId && merge.bindingId = bindingId &&
          merge.applicationId = applicationId
      | none => false)

def Verification.blank : Verification where
  status := .pending
  expected := []
  target := none
  startedAt := none
  deadlineAt := none
  expiredAt := none
  minimumSeconds := .scalar .none
  maximumSeconds := 0
  retryAttempt := none
  blockers := []
  before := []
  protectedBaseline := .scalar .none
  protectedSessionBaseline := .scalar .none
  lastSessionSamples := .scalar .none
  healthySince := none
  lastHealthyObservedAt := none
  distinctEvidenceCount := 0
  lastEvidenceKey := ""
  lastReasonCode := none
  lastReason := ""
  after := none

def verificationDeadline (startedAt : Int) (maximumSeconds : Nat) :
    Int := startedAt + maximumSeconds * second

/-- The deployment of exactly the merge commit has succeeded. -/
def deploymentSucceeded (merge : Merge) (run : WorkflowRun)
    (workspaceId workflowRunId bindingId applicationId : String) : Bool :=
  strip merge.workflowRunId = workflowRunId && strip merge.bindingId = bindingId &&
    strip merge.applicationId = applicationId &&
    strip merge.mergeCommitSha.val = strip run.commitSha.val &&
    strip merge.clusterId = strip run.clusterId && strip run.workspaceId = workspaceId &&
    strip run.bindingId = bindingId && strip run.applicationId = applicationId &&
    strip run.status = "succeeded"

def startedVerification (verification : Verification) (now : Int) : Verification :=
  let maximum :=
    if verification.maximumSeconds = 0 then defaultMaximumSeconds else verification.maximumSeconds
  { verification with
    status := .verificationPending
    startedAt := some now
    deadlineAt := some (verificationDeadline now maximum)
    healthySince := none
    lastReasonCode := some .waitingForPostDeployEvidence
    lastReason := "배포 성공 후 첫 정상화 evidence 창을 기다립니다." }

def startRecoveryVerification (workspaceId workflowRunId bindingId applicationId : String)
    (workflow : Option WorkflowRun) (now : Int) (store : Store) : Option Write :=
  match getRecoveryPlanForWorkflow workspaceId workflowRunId bindingId applicationId store,
    workflow with
  | some row, some run =>
    match row.lifecycle, row.lifecycle.bind (·.merge) with
    | some lifecycle, some merge =>
      if row.status = .deployPending ∧
          deploymentSucceeded merge run workspaceId workflowRunId bindingId applicationId then
        some (.update {
          planId := row.planId.val
          workspaceId := workspaceId
          expectedStatuses := [.deployPending]
          status := .verificationPending
          lifecycle := { lifecycle with
            phase := .verificationPending
            verification := some (startedVerification (lifecycle.verification.getD .blank) now) }
          startedBy := some run })
      else none
    | _, _ => none
  | _, _ => none

def recoveryDeployFailedReason : String := "recovery_deploy_failed"

def onRecoveryDeployFailed (workspaceId workflowRunId bindingId applicationId reason : String)
    (store : Store) : Option Write :=
  match getRecoveryPlanForWorkflow workspaceId workflowRunId bindingId applicationId store with
  | none => none
  | some row =>
    if row.status = .deployPending then
      some (.update {
        planId := row.planId.val
        workspaceId := workspaceId
        expectedStatuses := [.deployPending]
        status := .failed
        lifecycle := failedLifecycle row
          ⟨"", recoveryDeployFailedReason, reason, none, none, some workflowRunId, none, none⟩ })
    else none

end workflow

section evidence

def verdictStatus : VerificationStatus → PlanStatus
  | .completed => .completed
  | .failed => .failed
  | _ => .verificationPending

/-- The lifecycle with the verdict on one evidence window. A failed verdict leaves the
identity for a retry, a completed one removes it. -/
def judgedLifecycle (lifecycle : Lifecycle) (decision : VerificationDecision)
    (evidenceKey : String) : Lifecycle :=
  { lifecycle with
    phase := verdictStatus decision.status
    verification := some ((lifecycle.verification.getD .blank).record decision)
    failure :=
      match decision.status with
      | .failed =>
        some ⟨"", decision.reasonCode.label, decision.reason, none, none, none, none,
          some evidenceKey⟩
      | .completed => none
      | _ => lifecycle.failure }

def judgeRow (evidence : Entries) (evidenceKey : String) (alerts : Row → List Entries) (now : Int)
    (row : Row) : Write :=
  let lifecycle := row.lifecycle.getD (.blank row.status)
  let decision :=
    evaluateRecoveryEvidence library.codec row.document (lifecycle.verification.getD .blank)
    evidence (alerts row) now
  .update {
    planId := row.planId.val
    workspaceId := row.workspaceId
    expectedStatuses := [.verificationPending]
    status := verdictStatus decision.status
    lifecycle := judgedLifecycle lifecycle decision evidenceKey }

/-- Every pending verification of the cluster is judged on the stored window. -/
def onRecoveryVerificationEvidence (workspaceId clusterId evidenceKey : String)
    (evidence : Option Entries) (alerts : Row → List Entries) (now : Int)
    (store : Store) : List Write :=
  match evidence with
  | none => []
  | some evidence =>
    if evidenceKey = "" then []
    else (listRecoveryVerificationPlans workspaceId clusterId 100 store).map
      (judgeRow library evidence evidenceKey alerts now)

def verificationExpiredReason : String :=
  "최대 검증 시간 안에 연속 정상화 근거가 충족되지 않아 복구 완료로 판정하지 않았습니다."

def expiredLifecycle (lifecycle : Lifecycle) (now : Int) : Lifecycle :=
  { lifecycle with
    phase := .failed
    verification := some { lifecycle.verification.getD .blank with
      status := .failed
      lastReasonCode := some .verificationWindowExpired
      lastReason := verificationExpiredReason
      expiredAt := some now }
    failure := some ⟨"", ReasonCode.verificationWindowExpired.label, verificationExpiredReason,
      none, none, none, none, none⟩ }

def Row.expire (now : Int) (row : Row) : Row :=
  { row with
    status := .failed
    lifecycle := some (expiredLifecycle (row.lifecycle.getD (.blank .failed)) now)
    updatedAt := now }

def isOverdue (now : Int) (row : Row) : Bool :=
  row.status = .verificationPending &&
    match row.lifecycle.bind (·.verification) |>.bind (·.deadlineAt) with
    | some deadline => deadline ≤ now
    | none => false

/-- The overdue verifications that one transaction takes, the earliest deadlines first. -/
def isExpiring (now : Int) (limit : Nat) (store : Store) (row : Row) : Bool :=
  let deadline (row : Row) : Int :=
    ((row.lifecycle.bind (·.verification)).bind (·.deadlineAt)).getD 0
  let earlier (one two : Row) : Prop :=
    deadline one < deadline two ∨ deadline one = deadline two ∧ one.id ≤ two.id
  let overdue := ((store.filter (isOverdue now)).insertionSort earlier).take (max 1 (min limit 500))
  isOverdue now row && row.id ∈ overdue.map (·.id)

def expireRecoveryVerifications (now : Int) (limit : Nat) (store : Store) : Store :=
  store.map fun row => if isExpiring now limit store row then row.expire now else row

end evidence

section retry

/-- What a retry is asked for, by whom and when. -/
structure RetryRequest where
  correlationId : String
  workspaceId : String
  expectedPlanId : String
  requestedBy : String
  reason : String
  attemptId : String
  now : Int

/-- A candidate with the parameters of its draft. -/
structure Candidate where
  actionId : String
  route : String
  params : Entries

def safePrRoutes : List String := ["draft_pr", "safe_pr"]

def candidateByActionId (document : Entries) (actionId : String) : Option Candidate :=
  let parsed : Value → Option Candidate
    | .dict candidate =>
      match columnText (getOrNone "action_id" candidate),
        columnText (getOrNone "route" candidate) with
      | some id, some route => some ⟨id, route, getMapping "params" (getMapping "draft" candidate)⟩
      | _, _ => none
    | _ => none
  match getOrNone "candidates" document with
  | .list candidates => (candidates.filterMap parsed).find? (·.actionId = actionId)
  | _ => none

/-- The failed Safe PR is prepared again: the candidate with its new parameters, unless
the preflight refuses it. The preflight changes nothing else of a candidate. -/
def retriedCandidate (document : Entries) (actionId : ActionId) (prepared : Option Entries) :
    Option Candidate :=
  match candidateByActionId document actionId.val, prepared with
  | some selected, some params =>
    if selected.route ∈ safePrRoutes then some { selected with params } else none
  | _, _ => none

def Lifecycle.failedSafePr (lifecycle : Lifecycle) : Bool :=
  strip ((lifecycle.failure.map (·.stage)).getD "") = safePrFailedStage

def recoverySelectionAttemptNumber (lifecycle : Lifecycle) : Nat :=
  (lifecycle.attempt.map (·.number + 1)).getD 1

/-- The reason of the failure, or else the last reason of the verification. -/
def retryReasonCode (lifecycle : Lifecycle) : String :=
  let reason := strip ((lifecycle.failure.map (·.reasonCode)).getD "")
  if reason ≠ "" then reason
  else (((lifecycle.verification.bind (·.lastReasonCode)).map (·.label)).getD "")

/-- The Safe PR is prepared again as a new attempt with the same action. -/
def safePrRetryLifecycle (request : RetryRequest) (lifecycle : Lifecycle) (actionId : ActionId)
    (reason : String) : Lifecycle :=
  let number := recoverySelectionAttemptNumber lifecycle
  { Lifecycle.blank .selected with
    attempt := some ⟨request.attemptId, number, actionId, request.requestedBy, request.now⟩
    retry := some ⟨safePrFailedStage, number, request.requestedBy, request.now, reason, none,
      lifecycle.failure⟩ }

def recoveryWorkflowMatches (run : WorkflowRun) (workspaceId : String) (merge : Merge)
    (status : String) : Bool :=
  [merge.workflowRunId, merge.bindingId, merge.applicationId, merge.clusterId,
    merge.mergeCommitSha.val].all
      (strip · ≠ "") &&
    strip run.workflowRunId = strip merge.workflowRunId &&
      strip run.workspaceId = strip workspaceId &&
    strip run.bindingId = strip merge.bindingId &&
      strip run.applicationId = strip merge.applicationId &&
    strip run.clusterId = strip merge.clusterId &&
    strip run.commitSha.val = strip merge.mergeCommitSha.val && strip run.status = status

/-- The stored request is replayed only if it is the one for this PR and merge. -/
def isExactRequest (row : Row) (merge : Merge) (pr : PullRequest) : Bool :=
  let request := merge.deploymentRequest
  request.workspaceId = strip row.workspaceId && request.correlationId = strip row.correlationId &&
    request.workflowRunId = strip merge.workflowRunId &&
    request.commitSha.val = strip merge.mergeCommitSha.val &&
    request.repositoryId = strip pr.repositoryId && request.repoRef = strip pr.repoRef &&
    request.branch = strip pr.baseBranch && request.bindingId = strip merge.bindingId &&
    request.applicationId = strip merge.applicationId &&
      request.clusterId = strip merge.clusterId &&
    request.manifestPath = strip pr.manifestPath && strip request.image ≠ "" && 0 < request.replicas

def deployRetryWorkflowRunId (planId : String) (mergeCommitSha : CommitSha)
    (attempt : Nat) : String :=
  "workflow-" ++ library.digest
    (planId ++ "|" ++ strip mergeCommitSha.val ++ "|deploy-retry|" ++ toString attempt)

/-- The failed deployment is requested again under a new run identity. -/
def deployRetryLifecycle (request : RetryRequest) (row : Row) (lifecycle : Lifecycle)
    (reason : String) (workflow : Option WorkflowRun) : Option Lifecycle :=
  match lifecycle.merge, lifecycle.pr, workflow with
  | some merge, some pr, some run =>
    if recoveryWorkflowMatches run row.workspaceId merge "failed" &&
        isExactRequest row merge pr then
      let attempt := merge.retryAttempt + 1
      let workflowRunId :=
        deployRetryWorkflowRunId library row.planId.val merge.mergeCommitSha attempt
      some { lifecycle with
        phase := .deployPending
        merge := some { merge with
          previousWorkflowRunId := some (strip merge.workflowRunId)
          workflowRunId
          deploymentRequest := { merge.deploymentRequest with workflowRunId, force := true }
          retryAttempt := attempt }
        verification := some { lifecycle.verification.getD .blank with
          status := .waitingForDeploy
          startedAt := none
          deadlineAt := none
          healthySince := none
          lastHealthyObservedAt := none
          distinctEvidenceCount := 0
          lastEvidenceKey := ""
          after := none }
        failure := none
        retry := some ⟨"deploy", attempt, request.requestedBy, request.now, reason,
          some workflowRunId, none⟩ }
    else none
  | _, _, _ => none

def restartedVerification (verification : Verification) (now : Int) : Verification :=
  let maximum :=
    if 0 < verification.maximumSeconds ∧ verification.maximumSeconds ≤ defaultMaximumSeconds then
      verification.maximumSeconds
    else defaultMaximumSeconds
  { verification with
    status := .verificationPending
    startedAt := some now
    deadlineAt := some (verificationDeadline now maximum)
    healthySince := none
    lastHealthyObservedAt := none
    distinctEvidenceCount := 0
    lastEvidenceKey := ""
    lastSessionSamples := verification.protectedSessionBaseline
    after := none
    lastReasonCode := some .waitingForPostDeployEvidence
    lastReason := "동일 배포 identity로 안정화 검증을 다시 시작했습니다."
    retryAttempt := some ((verification.retryAttempt.map (· + 1)).getD 1) }

/-- The verification of the same deployment starts again, with the run it is for. -/
def verificationRetryLifecycle (request : RetryRequest) (row : Row) (lifecycle : Lifecycle)
    (reason : String) (workflow : Option WorkflowRun) : Option (Lifecycle × WorkflowRun) :=
  match lifecycle.merge, workflow with
  | some merge, some run =>
    if recoveryWorkflowMatches run row.workspaceId merge "succeeded" then
      let verification := restartedVerification (lifecycle.verification.getD .blank) request.now
      some ({ lifecycle with
        phase := .verificationPending
        verification := some verification
        failure := none
        retry :=
          some ⟨"verification", verification.retryAttempt.getD 1, request.requestedBy, request.now,
            reason, some (strip merge.workflowRunId), none⟩ }, run)
    else none
  | _, _ => none

/-- The write of a retry of a failed plan, for the row that was read. -/
def retryWrite (request : RetryRequest) (prepared : Option Entries)
    (workflows : String → Option WorkflowRun) (row : Row) (lifecycle : Lifecycle)
    (actionId : ActionId) : Option LifecycleWrite :=
  let reasonCode := retryReasonCode lifecycle
  let reason := if request.reason ≠ "" then request.reason else "operator retried " ++ reasonCode
  let workflow := workflows (strip ((lifecycle.merge.map (·.workflowRunId)).getD ""))
  let write (status : PlanStatus) (next : Lifecycle) (startedBy : Option WorkflowRun) :
      LifecycleWrite :=
    { planId := request.expectedPlanId
      workspaceId := request.workspaceId
      expectedStatuses := [.failed]
      status
      lifecycle := next
      startedBy }
  if lifecycle.failedSafePr then
    (retriedCandidate row.document actionId prepared).map fun _ =>
      write .selected (safePrRetryLifecycle request lifecycle actionId reason) none
  else if reasonCode = recoveryDeployFailedReason then
    (deployRetryLifecycle library request row lifecycle reason workflow).map fun next =>
      write .deployPending next none
  else if reasonCode = ReasonCode.verificationWindowExpired.label then
    (verificationRetryLifecycle request row lifecycle reason workflow).map fun (next, run) =>
      write .verificationPending next (some run)
  else none

/-- The failed plan that a retry is asked for, with its selected action. -/
def retriedPlan (request : RetryRequest) (store : Store) : Option (Row × ActionId) :=
  match getRecoveryPlanByCorrelation request.correlationId request.workspaceId store with
  | none => none
  | some row =>
    match row.selectedActionId with
    | none => none
    | some actionId =>
      if strip row.planId.val = request.expectedPlanId ∧ row.status = .failed ∧
          actionId.val ≠ "" then
        some (row, actionId)
      else none

def retryRecoveryByCorrelation (request : RetryRequest) (prepared : Option Entries)
    (workflows : String → Option WorkflowRun) (store : Store) : Option Write :=
  (retriedPlan request store).bind fun (row, actionId) =>
    (retryWrite library request prepared workflows row (row.lifecycle.getD (.blank .failed))
      actionId).map .update

end retry

end K8sOps.Rca
