import K8sOps.Rca.Verification

/-! The table of recovery plans: the status and selection columns, the lifecycle
document inside the payload, and the statements that read and write them. -/
namespace K8sOps.Rca
open Python

inductive PlanStatus where
  | selectionRequested
  | selected
  | prOpen
  | deployPending
  | verificationPending
  | completed
  | failed
  deriving DecidableEq

/-- An identifier with nothing to strip: the program's own names of plans and
actions, and commits as git names them. -/
abbrev Identifier := { text : String // strip text = text }

/-- A plan is named after its evidence, so its name is not empty. -/
abbrev PlanId := { text : String // strip text = text ∧ text ≠ "" }

abbrev ActionId := Identifier
abbrev CommitSha := Identifier

section lifecycle

structure Attempt where
  id : String
  number : Nat
  actionId : ActionId
  selectedBy : String
  selectedAt : Int
  deriving DecidableEq

/-- The Safe PR that is tracked for the selected action. -/
structure PullRequest where
  url : String
  number : Int
  nodeId : String
  headRef : String
  headSha : String
  repoRef : String
  repositoryId : String
  bindingId : String
  applicationId : String
  baseBranch : String
  manifestPath : String
  environment : String
  clusterId : String
  patchSha256 : String
  trackedAt : Int
  attemptId : Option String
  deriving DecidableEq

/-- `GitWebhookReceivedBody`: the request that deploys the merge commit. -/
structure DeploymentRequest where
  commitSha : CommitSha
  image : String
  replicas : Int
  correlationId : String
  workspaceId : String
  repositoryId : String
  repoRef : String
  branch : String
  watchTargetId : String
  bindingId : String
  applicationId : String
  workflowRunId : String
  environment : String
  clusterId : String
  manifestPath : String
  sourceType : String
  force : Bool
  deriving DecidableEq

structure Merge where
  prUrl : String
  headSha : String
  mergeCommitSha : CommitSha
  mergedAt : Int
  workflowRunId : String
  previousWorkflowRunId : Option String
  repositoryId : String
  bindingId : String
  applicationId : String
  clusterId : String
  attemptId : Option String
  retryAttempt : Nat
  deploymentRequest : DeploymentRequest
  deriving DecidableEq

structure Failure where
  stage : String
  reasonCode : String
  reason : String
  providerStage : Option String
  approvalRef : Option String
  workflowRunId : Option String
  commitSha : Option String
  evidenceRef : Option String
  deriving DecidableEq

structure Retry where
  stage : String
  attempt : Nat
  requestedBy : String
  requestedAt : Int
  reason : String
  workflowRunId : Option String
  previousFailure : Option Failure
  deriving DecidableEq

structure Authorization where
  target : Target
  changes : List Value

/-- The lifecycle document. A part that no handler has written yet is absent. -/
structure Lifecycle where
  phase : PlanStatus
  attempt : Option Attempt
  pr : Option PullRequest
  verification : Option Verification
  authorization : Option Authorization
  merge : Option Merge
  failure : Option Failure
  retry : Option Retry

def Lifecycle.blank (phase : PlanStatus) : Lifecycle :=
  ⟨phase, none, none, none, none, none, none, none⟩

end lifecycle

/-- A generated plan: its identity and the rest of its body. -/
structure PlanBody where
  planId : PlanId
  incidentId : String
  evidenceRef : String
  document : Entries

/-- One row of the table. The lifecycle is kept apart from the rest of the payload;
a plan that was never selected by an operator has none. -/
structure Row where
  id : Nat
  planId : PlanId
  workspaceId : String
  correlationId : String
  incidentId : String
  evidenceRef : String
  status : PlanStatus
  selectedActionId : Option ActionId
  selectedBy : Option String
  document : Entries
  lifecycle : Option Lifecycle
  updatedAt : Int

abbrev Store := List Row

def openRecoveryPlanStatuses : List PlanStatus := [.selectionRequested]

def recoveryPlanMonotonicStatuses : List PlanStatus :=
  [.selected, .prOpen, .deployPending, .verificationPending, .completed, .failed]

namespace Row

def hasKey (planId workspaceId : String) (row : Row) : Bool :=
  row.planId.val = planId && row.workspaceId = workspaceId

def actionText (row : Row) : Option String := row.selectedActionId.map (·.val)

def attempt (row : Row) : Option Attempt := row.lifecycle.bind (·.attempt)

def retry (row : Row) : Option Retry := row.lifecycle.bind (·.retry)

/-- A replayed plan never moves a row backwards: only an open row takes the new
status, selection and payload. -/
def replay (row : Row) (correlationId : String) (plan : PlanBody) (status : PlanStatus)
    (selectedActionId : Option ActionId) (selectedBy : Option String) (now : Int) : Row :=
  let row := { row with
    correlationId
    incidentId := plan.incidentId
    evidenceRef := plan.evidenceRef
    updatedAt := now }
  if row.status ∈ recoveryPlanMonotonicStatuses then row
  else { row with
      status, selectedActionId, selectedBy, document := plan.document, lifecycle := none }

/-- A selection starts a new attempt and drops everything known about earlier ones. -/
def select (row : Row) (actionId : ActionId) (selectedBy attemptId : String) (now : Int) : Row :=
  let number := (row.attempt.map (·.number)).getD 0 + 1
  { row with
    status := .selected
    selectedActionId := some actionId
    selectedBy := some selectedBy
    lifecycle := some { Lifecycle.blank .selected with
      attempt := some ⟨attemptId, number, actionId, selectedBy, now⟩ }
    updatedAt := now }

/-- The lifecycle stays in the payload of a row that is opened again. -/
def reopen (row : Row) (now : Int) : Row :=
  { row with
    status := .selectionRequested, selectedActionId := none, selectedBy := none, updatedAt := now }

def withLifecycle (row : Row) (status : PlanStatus) (lifecycle : Lifecycle) (clearSelection : Bool)
    (now : Int) : Row :=
  let row := { row with status, lifecycle := some lifecycle, updatedAt := now }
  if clearSelection then { row with selectedActionId := none, selectedBy := none } else row

end Row

namespace Store

/-- `UPDATE … WHERE … RETURNING`: nothing is returned when no row qualifies. -/
def updateWhere (condition : Row → Bool) (change : Row → Row) (store : Store) : Option Store :=
  if store.any condition then some (store.map fun row => if condition row then change row else row)
  else none

def upsertRecoveryPlan (correlationId workspaceId : String) (plan : PlanBody) (status : PlanStatus)
    (selectedActionId : Option ActionId) (selectedBy : Option String) (now : Int) (store : Store) :
    Option Store :=
  if status ∉ [.selectionRequested, .selected] then none
  else
    let inserted : Row := {
      id := store.length
      planId := plan.planId
      workspaceId, correlationId
      incidentId := plan.incidentId
      evidenceRef := plan.evidenceRef
      status, selectedActionId, selectedBy
      document := plan.document
      lifecycle := none
      updatedAt := now }
    some ((store.updateWhere (Row.hasKey plan.planId.val workspaceId)
      (·.replay correlationId plan status selectedActionId selectedBy now)).getD
        (store ++ [inserted]))

def selectRecoveryPlanActionIfOpen (planId workspaceId : String) (actionId : ActionId)
    (selectedBy attemptId : String) (now : Int) (store : Store) : Option Store :=
  store.updateWhere (fun row => row.hasKey planId workspaceId &&
    row.status ∈ openRecoveryPlanStatuses)
    (·.select actionId selectedBy attemptId now)

/-- Only the same selection is opened again. -/
def reopenRecoveryPlanAction (planId workspaceId actionId : String) (now : Int) (store : Store) :
    Option Store :=
  store.updateWhere
    (fun row => row.hasKey planId workspaceId && row.status = .selected &&
      row.actionText = some actionId)
    (·.reopen now)

/-- The conditional update of the lifecycle. It compares the status column only. -/
def updateRecoveryPlanLifecycleIfStatus (planId workspaceId : String)
    (expectedStatuses : List PlanStatus) (status : PlanStatus) (lifecycle : Lifecycle)
    (clearSelection : Bool) (now : Int) (store : Store) : Option Store :=
  store.updateWhere (fun row => row.hasKey planId workspaceId && row.status ∈ expectedStatuses)
    (·.withLifecycle status lifecycle clearSelection now)

end Store

section queries

/-- The row that was updated last; of rows updated together, the newest. -/
def laterRow (best : Option Row) (row : Row) : Option Row :=
  match best with
  | none => some row
  | some other =>
    if other.updatedAt < row.updatedAt ∨ row.updatedAt = other.updatedAt ∧
        other.id < row.id then some row
    else some other

/-- `ORDER BY updated_at DESC, id DESC LIMIT 1`. -/
def latestRow (rows : List Row) : Option Row := rows.foldl laterRow none

/-- `LIMIT 2` and a result only for exactly one row: an ambiguous match fails closed. -/
def uniqueRow (rows : List Row) : Option Row :=
  match rows with
  | [row] => some row
  | _ => none

def getRecoveryPlanByCorrelation (correlationId workspaceId : String)
    (store : Store) : Option Row :=
  latestRow (store.filter fun row => row.correlationId = correlationId &&
    row.workspaceId = workspaceId)

/-- The text of a JSON string in a query. -/
def columnText : Value → Option String
  | .scalar (.str text) => some text
  | _ => none

def listRecoveryVerificationPlans (workspaceId clusterId : String) (limit : Nat)
    (store : Store) : List Row :=
  let pending := store.filter fun row =>
    row.workspaceId = workspaceId && row.status = .verificationPending &&
      columnText (getOrNone "cluster_id" (getMapping "target" row.document)) = some clusterId
  let earlier (one two : Row) : Prop :=
    one.updatedAt < two.updatedAt ∨ one.updatedAt = two.updatedAt ∧ one.id ≤ two.id
  (pending.insertionSort earlier).take (max 1 (min limit 500))

end queries

end K8sOps.Rca
