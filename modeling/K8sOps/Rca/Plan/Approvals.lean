import K8sOps.Rca.Plan.Machine

/-! The approvals of recovery actions. A selection and the retry of a Safe PR each
store a granted approval, under identities that they derive in different ways; the
handler of the created PR derives the identity that it reads on its own. -/
namespace K8sOps.Rca
open Python
variable (library : Library)

inductive ApprovalStatus where
  | requested
  | granted
  | rejected
  | expired
  | notRequired
  deriving DecidableEq

structure Approval where
  approvalId : String
  workspaceId : String
  status : ApprovalStatus
  details : Entries

def openApprovalStatuses : List ApprovalStatus := [.requested, .notRequired]

/-- The table of approvals, by its primary key. -/
abbrev Approvals := String → Option Approval

namespace Approvals

/-- Only an open approval is overwritten, and keeps its workspace. -/
def requestWorkflowApproval (payload : Approval) (approvals : Approvals) : Approvals :=
  fun approvalId =>
  if approvalId = payload.approvalId then
    match approvals approvalId with
    | none => some payload
    | some stored =>
      if stored.status ∈ openApprovalStatuses then
        some { stored with status := payload.status, details := payload.details }
      else some stored
  else approvals approvalId

def getWorkflowApproval (approvals : Approvals) : ApprovalLookup := fun approvalId workspaceId =>
  ((approvals approvalId).filter fun approval => approval.workspaceId = workspaceId).map (·.details)

end Approvals

section payload

def recoveryApprovalId (planId actionId : String) : String :=
  "approval-" ++ library.digest (planId ++ "|" ++ actionId ++ "|recovery-action")

def recoveryRetryApprovalId (planId actionId : String) (attempt : Nat) : String :=
  "approval-" ++ library.digest (planId ++ "|" ++ actionId ++ "|safe-pr-retry|" ++ toString attempt)

def recoveryPolicyDecisionRef (approvalRef : String) : String :=
  "recovery:" ++ approvalRef ++ ":selected"

def candidateWithApproval (candidate : Candidate)
    (approvalRef policyDecisionRef : String) : Candidate :=
  { candidate with
    params := Entries.assign (.str "policy_decision_ref") (.scalar (.str policyDecisionRef))
      (Entries.assign (.str "approval_ref") (.scalar (.str approvalRef)) candidate.params) }

def Candidate.toBody (candidate : Candidate) : Entries :=
  [(.str "action_id", .scalar (.str candidate.actionId)),
    (.str "route", .scalar (.str candidate.route)),
    (.str "draft", .dict [(.str "params", .dict candidate.params)])]

/-- `str(plan.target.get("workspace_id") or params.get("workspace_id") or workspace_id)`. -/
def approvalWorkspace (document params : Entries) (workspaceId : String) : String :=
  let planned := getOrNone "workspace_id" (getMapping "target" document)
  let prepared := getOrNone "workspace_id" params
  if truthy planned then library.texts.toText planned
  else if truthy prepared then library.texts.toText prepared
  else workspaceId

def recoveryApprovalPayload (row : Row) (candidate : Candidate) (workspaceId approvalRef : String) :
    Approval :=
  let policyDecisionRef := recoveryPolicyDecisionRef approvalRef
  let selected := candidateWithApproval candidate approvalRef policyDecisionRef
  { approvalId := approvalRef
    workspaceId := approvalWorkspace library row.document selected.params workspaceId
    status := .granted
    details := [
      (.str "approval_ref", .scalar (.str approvalRef)),
      (.str "policy_decision_ref", .scalar (.str policyDecisionRef)),
      (.str "recovery_plan_id", .scalar (.str row.planId.val)),
      (.str "recovery_action_id", .scalar (.str selected.actionId)),
      (.str "selected_candidate", .dict selected.toBody)] }

end payload

section selection

/-- An operator's selection, with the parameters that the preflight prepared for the
draft, if it accepts it. -/
structure SelectionRequest where
  planId : String
  workspaceId : String
  actionId : ActionId
  selectedBy : String
  attemptId : String
  prepared : Option Entries

def preflightRequiredRoutes : List String := safePrRoutes ++ ["auto"]

def getRecoveryPlan (planId workspaceId : String) (store : Store) : Option Row :=
  store.find? (·.hasKey planId workspaceId)

def preparedCandidate (request : SelectionRequest) (row : Row) : Option Candidate :=
  match candidateByActionId row.document request.actionId.val with
  | none => none
  | some selected =>
    if selected.route ∈ preflightRequiredRoutes then
      request.prepared.map fun params => { selected with params }
    else some selected

def selectionApproval (request : SelectionRequest) (store : Store) : Option Approval :=
  (getRecoveryPlan request.planId request.workspaceId store).bind fun row =>
    (preparedCandidate request row).map fun candidate =>
      recoveryApprovalPayload library row candidate request.workspaceId
        (recoveryApprovalId library row.planId.val candidate.actionId)

def retryApproval (request : RetryRequest) (prepared : Option Entries)
    (store : Store) : Option Approval :=
  (retriedPlan request store).bind fun (row, actionId) =>
    let lifecycle := row.lifecycle.getD (.blank .failed)
    if lifecycle.failedSafePr then
      (retriedCandidate row.document actionId prepared).map fun candidate =>
        recoveryApprovalPayload library row candidate request.workspaceId
          (recoveryRetryApprovalId library row.planId.val actionId.val
            (recoverySelectionAttemptNumber lifecycle))
    else none

end selection

/-- The tables of plans and approvals, with what the program does not store: for each
plan its latest attempt and the details of the approval that was asked for it. -/
structure Registry where
  store : Store
  approvals : Approvals
  granted : String × String → Option (String × Entries)

inductive Registry.Label where
  | command (command : Command) (now : Int)
  | select (request : SelectionRequest) (now : Int)
  | handle (notice : Notice) (index : Nat) (now : Int)

def Command.isSelection : Command → Bool
  | .select .. => true
  | _ => false

def Notice.consulting (approvals : Approvals) : Notice → Notice
  | .safePrCreated event correlationId _ sources =>
    .safePrCreated event correlationId approvals.getWorkflowApproval sources
  | .safePrFailed event correlationId _ =>
    .safePrFailed event correlationId approvals.getWorkflowApproval
  | notice => notice

def Notice.approval (now : Int) (store : Store) : Notice → Option Approval
  | .retry request prepared _ => retryApproval library { request with now } prepared store
  | _ => none

namespace Registry

/-- Select an action and ask for its approval in one transaction. -/
def select (registry : Registry) (request : SelectionRequest) (now : Int) : Option Registry :=
  (selectionApproval library request registry.store).bind fun approval =>
    (registry.store.selectRecoveryPlanActionIfOpen request.planId request.workspaceId
      request.actionId
      request.selectedBy request.attemptId now).map fun store =>
        { store
          approvals := registry.approvals.requestWorkflowApproval approval
          granted := fun key =>
            if key = (request.planId, request.workspaceId) then
              some (request.attemptId, approval.details)
            else registry.granted key }

/-- Make one write of a handler, and the approval that comes with it. -/
def perform (registry : Registry) (approval : Option Approval) (write : Write)
    (now : Int) : Registry :=
  match approval, write with
  | some approval, .update update =>
    { store := write.apply now registry.store
      approvals := registry.approvals.requestWorkflowApproval approval
      granted := fun key =>
        if key = write.key then update.lifecycle.attempt.map fun attempt =>
          (attempt.id, approval.details)
        else registry.granted key }
  | _, _ => { registry with store := write.apply now registry.store }

/-- An action is selected only together with its approval, or by the policy. -/
def next (registry : Registry) : Label → Option Registry
  | .command command now =>
    if command.isSelection then none
    else (command.run now registry.store).map fun store => { registry with store }
  | .select request now => registry.select library request now
  | .handle notice index now =>
    (((notice.consulting registry.approvals).writes library now registry.store)[index]?).map
      fun write =>
      registry.perform (notice.approval library now registry.store) write now

end Registry

end K8sOps.Rca
