import K8sOps.Rca.Plan.Handlers
import K8sOps.Transition

/-! Everything that can happen to the table of recovery plans, as commands that are
one statement and notices whose handlers read the table before they write. -/
namespace K8sOps.Rca
open Python Transition
variable (library : Library)

/-- One transaction on the table. -/
inductive Command where
  /-- A generated or replayed plan, with the action the policy selected, if any. -/
  | plan (correlationId workspaceId : String) (body : PlanBody)
      (selection : Option (ActionId × String))
  | select (planId workspaceId : String) (actionId : ActionId) (selectedBy attemptId : String)
  | reopen (planId workspaceId actionId : String)
  | expire (limit : Nat)

def Command.run (now : Int) (store : Store) : Command → Option Store
  | .plan correlationId workspaceId body none =>
    store.upsertRecoveryPlan correlationId workspaceId body .selectionRequested none none now
  | .plan correlationId workspaceId body (some (actionId, selectedBy)) =>
    store.upsertRecoveryPlan correlationId workspaceId body .selected (some actionId)
      (some selectedBy) now
  | .select planId workspaceId actionId selectedBy attemptId =>
    store.selectRecoveryPlanActionIfOpen planId workspaceId actionId selectedBy attemptId now
  | .reopen planId workspaceId actionId =>
    store.reopenRecoveryPlanAction planId workspaceId actionId now
  | .expire limit => some (expireRecoveryVerifications now limit store)

/-- A message or request whose handler reads the table and then writes, with what
the handler reads elsewhere. -/
inductive Notice where
  | safePrCreated (event : SafePrCreated) (correlationId : String) (approvals : ApprovalLookup)
      (sources : BaselineSources)
  | safePrFailed (event : SafePrFailed) (correlationId : String) (approvals : ApprovalLookup)
  | pullRequest (identity : PullRequestIdentity) (targets : List PollTarget) (image : String)
  /-- A completed workflow run, or a merged PR whose run may have completed before. -/
  | deployed (workspaceId workflowRunId bindingId applicationId : String)
      (workflow : Option WorkflowRun)
  | deployFailed (workspaceId workflowRunId bindingId applicationId reason : String)
  | evidence (workspaceId clusterId evidenceKey : String) (window : Option Entries)
      (alerts : Row → List Entries)
  | retry (request : RetryRequest) (prepared : Option Entries)
      (workflows : String → Option WorkflowRun)

/-- The writes that a handler makes for the table it reads; evidence is judged for
several plans. -/
def Notice.writes (now : Int) (store : Store) : Notice → List Write
  | .safePrCreated event correlationId approvals sources =>
    (onRecoverySafePrCreated library event correlationId approvals { sources with
        now } store).toList
  | .safePrFailed event correlationId approvals =>
    (onRecoverySafePrFailed event correlationId approvals store).toList
  | .pullRequest identity targets image =>
    (handleTrackedRecoveryPullRequest library identity targets image now store).toList
  | .deployed workspaceId workflowRunId bindingId applicationId workflow =>
    (startRecoveryVerification workspaceId workflowRunId bindingId applicationId workflow
      now store).toList
  | .deployFailed workspaceId workflowRunId bindingId applicationId reason =>
    (onRecoveryDeployFailed workspaceId workflowRunId bindingId applicationId reason store).toList
  | .evidence workspaceId clusterId evidenceKey window alerts =>
    onRecoveryVerificationEvidence library workspaceId clusterId evidenceKey window alerts now store
  | .retry request prepared workflows =>
    (retryRecoveryByCorrelation library { request with now } prepared workflows store).toList

/-- The table, with the workflow run that last started the verification of each plan. -/
structure System where
  store : Store
  startedBy : String × String → Option WorkflowRun

def System.empty : System := ⟨[], fun _ => none⟩

/-- Make one write of a handler. -/
def System.perform (system : System) (write : Write) (now : Int) : System :=
  match write with
  | .reopen .. => { system with store := write.apply now system.store }
  | .update update =>
    match system.store.updateRecoveryPlanLifecycleIfStatus update.planId update.workspaceId
      update.expectedStatuses update.status update.lifecycle update.clearSelection now with
    | none => system
    | some store =>
      { store
        startedBy := fun key =>
          if key = (update.planId, update.workspaceId) then
            update.startedBy.or (system.startedBy key)
          else system.startedBy key }

inductive Label where
  | command (command : Command) (now : Int)
  /-- One of the handler's writes, made at once. -/
  | handle (notice : Notice) (index : Nat) (now : Int)

def System.next (system : System) : Label → Option System
  | .command command now => (command.run now system.store).map fun store => { system with store }
  | .handle notice index now =>
    ((notice.writes library now system.store)[index]?).map fun write => system.perform write now

end K8sOps.Rca
