import K8sOps.Rca.Plan.Approvals
import K8sOps.Rca.Plan.Reachable

/-! The approval that the handler of a created Safe PR consults. It is the one of the
current attempt as long as that attempt is the first selection of its action: a second
selection finds its approval decided, and a retry stores its approval elsewhere. -/
namespace K8sOps.Rca
open Python Transition
variable (library : Library)

section approvals
variable {approvals : Approvals} {payload stored : Approval}

theorem requestWorkflowApproval_granted (found : approvals approvalId = some stored)
    (granted : stored.status = .granted) :
    approvals.requestWorkflowApproval payload approvalId = some stored := by
  unfold Approvals.requestWorkflowApproval
  split
  · rw [found]
    exact if_neg (by simp [granted, openApprovalStatuses])
  · exact found

theorem requestWorkflowApproval_new (absent : approvals payload.approvalId = none) :
    approvals.requestWorkflowApproval payload payload.approvalId = some payload := by
  unfold Approvals.requestWorkflowApproval
  rw [if_pos rfl, absent]

end approvals

section selection

theorem getRecoveryPlan_some (found : getRecoveryPlan planId workspaceId store = some row) :
    row ∈ store ∧ row.key = (planId, workspaceId) :=
  ⟨List.mem_of_find?_eq_some found, hasKey_iff.mp (List.find?_some found)⟩

theorem candidateByActionId_some (found : candidateByActionId document actionId = some candidate) :
    candidate.actionId = actionId := by
  unfold candidateByActionId at found
  dsimp only at found
  split at found
  next => simpa using List.find?_some found
  next => cases found

theorem preparedCandidate_some (prepared : preparedCandidate request row = some candidate) :
    candidate.actionId = request.actionId.val := by
  unfold preparedCandidate at prepared
  split at prepared
  next => cases prepared
  next selected found =>
    have action := candidateByActionId_some found
    split at prepared
    next =>
      obtain ⟨params, _, rfl⟩ := Option.map_eq_some_iff.mp prepared
      exact action
    next =>
      cases prepared
      exact action

theorem candidateWithApproval_workspace (candidate : Candidate)
    (approvalRef policyDecisionRef : String) :
    getOrNone "workspace_id" (candidateWithApproval candidate approvalRef
      policyDecisionRef).params =
      getOrNone "workspace_id" candidate.params := by
  unfold getOrNone getKey candidateWithApproval
  rw [Entries.lookup_assign_ne _ _ (by decide), Entries.lookup_assign_ne _ _ (by decide)]

theorem selectionApproval_some (asked : selectionApproval library request store = some approval) :
    ∃ row candidate, getRecoveryPlan request.planId request.workspaceId store = some row ∧
      preparedCandidate request row = some candidate ∧
      approval.approvalId = recoveryApprovalId library request.planId request.actionId.val ∧
      approval.status = .granted ∧
      approval.workspaceId = approvalWorkspace library row.document candidate.params
        request.workspaceId := by
  obtain ⟨row, found, asked⟩ := Option.bind_eq_some_iff.mp asked
  obtain ⟨candidate, prepared, rfl⟩ := Option.map_eq_some_iff.mp asked
  have key := (getRecoveryPlan_some found).2
  unfold Row.key at key
  obtain ⟨plan, _⟩ := Prod.mk.injEq .. ▸ key
  refine ⟨row, candidate, found, prepared, ?_, rfl, ?_⟩
  · dsimp only [recoveryApprovalPayload]
    rw [plan, preparedCandidate_some prepared]
  · dsimp only [recoveryApprovalPayload, approvalWorkspace]
    rw [candidateWithApproval_workspace]

end selection

namespace Registry

/-- The approval that the handler finds for a row is granted, and is the one that was
asked for its attempt. -/
structure Consults (registry : Registry) (row : Row) (attempt : Attempt) (actionId : ActionId)
    (approval : Approval) : Prop where
  selected : row.selectedActionId = some actionId
  stored : registry.approvals (recoveryApprovalId library row.planId.val actionId.val) =
    some approval
  decided : approval.status = .granted
  workspace : approval.workspaceId = row.workspaceId
  own : registry.granted row.key = some (attempt.id, approval.details)

/-- A row at an attempt that a selection has started. -/
structure Selected (row : Row) (attempt : Attempt) : Prop where
  status : row.status = .selected
  first : row.retry = none
  attempted : row.attempt = some attempt

structure Sound (registry : Registry) : Prop where
  distinct : registry.store.Distinct
  consulted : ∀ row ∈ registry.store, ∀ attempt, Selected row attempt →
    ∃ actionId approval, registry.Consults library row attempt actionId approval

/-- A selection is the first one of its action, and its approval is stored for the
workspace of the plan; a Safe PR is reported for a selection and not for a retry. -/
def Regular (registry : Registry) : Label → Prop
  | .select request _ =>
    (registry.approvals (recoveryApprovalId library request.planId request.actionId.val)).isNone ∧
      ∀ row ∈ getRecoveryPlan request.planId request.workspaceId registry.store,
        ∀ candidate ∈ preparedCandidate request row,
          approvalWorkspace library row.document candidate.params request.workspaceId =
            request.workspaceId
  | .handle (.safePrCreated event correlationId _ _) _ _ =>
    ∀ row ∈ getRecoveryPlanByCorrelation correlationId event.workspaceId registry.store,
      row.retry.isNone
  | _ => True

instance (registry : Registry) (label : Label) : Decidable (registry.Regular library label) := by
  unfold Regular
  split <;> infer_instance

variable {before after : Registry}

theorem Selected.of_same {old row : Row} (same : old.Same row) (selected : Selected row attempt) :
    Selected old attempt := by
  obtain ⟨status, first, attempted⟩ := selected
  unfold Row.retry at first
  unfold Row.attempt at attempted
  rw [← same.lifecycle] at first attempted
  exact ⟨same.status.trans status, first, attempted⟩

/-- A step that keeps granted approvals is sound when each selected row is consulted
anew, or is an earlier one with the same approval asked for. -/
theorem Sound.step (sound : before.Sound library) (distinct : after.store.Distinct)
    (kept : ∀ approvalId approval, before.approvals approvalId = some approval →
      approval.status = .granted →
      after.approvals approvalId = some approval)
    (rows : ∀ row ∈ after.store, ∀ attempt, Selected row attempt →
      (∃ actionId approval, after.Consults library row attempt actionId approval) ∨
        ∃ old ∈ before.store, old.Same row ∧ after.granted row.key = before.granted row.key) :
    after.Sound library := by
  refine ⟨distinct, fun row member attempt selected => ?_⟩
  obtain consulted | ⟨old, among, same, granted⟩ := rows row member attempt selected
  · exact consulted
  · obtain ⟨actionId, approval, action, stored, decided, workspace, own⟩ :=
      sound.consulted old among attempt (selected.of_same same)
    have key := same.key
    unfold Row.key at key
    obtain ⟨plan, place⟩ := Prod.mk.injEq .. ▸ key
    refine ⟨actionId, approval, same.selected ▸ action, plan ▸ kept _ _ stored decided, decided,
      workspace.trans place, ?_⟩
    rw [granted, ← same.key, own]

/-- A row at the attempt of a selection was there before, with the same approval asked
for. -/
def Carries (before after : Registry) : Prop :=
  ∀ row ∈ after.store, ∀ attempt, Selected row attempt →
    ∃ old ∈ before.store, old.Same row ∧ after.granted row.key = before.granted row.key

theorem command_carries (distinct : before.store.Distinct) (command : Command)
    (other : ¬command.isSelection = true) {store : Store}
    (ran : command.run now before.store = some store) :
    before.Carries { before with store } := by
  intro row member attempt selected
  cases command.run_produces distinct ran member with
  | same among same => exact ⟨_, among, same, rfl⟩
  | planned isPlanned => exact absurd (isPlanned.status.symm.trans selected.status) nofun
  | autoSelected isPlanned =>
    have attempted := selected.attempted
    unfold Row.attempt at attempted
    rw [isPlanned.lifecycle] at attempted
    cases attempted
  | selected => exact absurd rfl other
  | reopened => exact absurd selected.status nofun
  | expired => exact absurd selected.status nofun

theorem select_rows (distinct : before.store.Distinct)
    (stepped : before.select library request now = some after) :
    ∃ approval, selectionApproval library request before.store = some approval ∧
      after.store.Distinct ∧ after.approvals = before.approvals.requestWorkflowApproval approval ∧
      ∀ row ∈ after.store,
        (∃ old : Row, old.key = (request.planId, request.workspaceId) ∧
          row = old.select request.actionId request.selectedBy request.attemptId now ∧
          after.granted row.key = some (request.attemptId, approval.details)) ∨
        row ∈ before.store ∧ row.key ≠ (request.planId, request.workspaceId) ∧
          after.granted row.key = before.granted row.key := by
  obtain ⟨approval, asked, stepped⟩ := Option.bind_eq_some_iff.mp stepped
  obtain ⟨store, updated, rfl⟩ := Option.map_eq_some_iff.mp stepped
  let command : Command :=
    .select request.planId request.workspaceId request.actionId request.selectedBy request.attemptId
  have ran : command.run now before.store = some store := updated
  refine ⟨approval, asked, command.run_distinct distinct ran, rfl, fun row member => ?_⟩
  obtain ⟨old, among, ⟨qualifies, rfl⟩ | ⟨unqualified, rfl⟩⟩ := updateWhere_mem updated member
  · rw [Bool.and_eq_true] at qualifies
    have key := hasKey_iff.mp qualifies.1
    exact .inl ⟨old, key, rfl, if_pos key⟩
  · have elsewhere : old.key ≠ (request.planId, request.workspaceId) := by
      intro key
      obtain ⟨other, stored, qualifies⟩ := updateWhere_any updated
      have otherKey := hasKey_iff.mp ((Bool.and_eq_true _ _).mp qualifies).1
      obtain rfl := distinct.unique among stored (key.trans otherKey.symm)
      rw [unqualified] at qualifies
      cases qualifies
    exact .inr ⟨among, elsewhere, if_neg elsewhere⟩

/-- The first selection of an action stores its approval where the handler looks. -/
theorem select_sound (sound : before.Sound library)
    (regular : before.Regular library (.select request now))
    (stepped : before.select library request now = some after) : after.Sound library := by
  obtain ⟨approval, asked, distinct, approvals, rows⟩ := select_rows library sound.distinct stepped
  obtain ⟨absent, sameWorkspace⟩ := regular
  obtain ⟨plan, candidate, found, prepared, identity, decided, workspace⟩ :=
    selectionApproval_some library asked
  rw [Option.isNone_iff_eq_none, ← identity] at absent
  rw [sameWorkspace plan found candidate prepared] at workspace
  refine sound.step library distinct ?_ ?_
  · intro approvalId stored found granted
    rw [approvals]
    exact requestWorkflowApproval_granted found granted
  · intro row member attempt selected
    obtain ⟨old, key, rfl, own⟩ | ⟨among, _, granted⟩ := rows row member
    · left
      have attempted := selected.attempted
      cases attempted
      obtain ⟨samePlan, place⟩ :=
        Prod.mk.injEq .. ▸ show (old.planId.val, old.workspaceId) = _ from key
      refine ⟨request.actionId, approval, rfl, ?_, decided, workspace.trans place.symm, own⟩
      dsimp only [Row.select]
      rw [samePlan, ← identity, approvals]
      exact requestWorkflowApproval_new absent
    · exact .inr ⟨row, among, .refl row, granted⟩

theorem change_selected {store : Store} {write : Write} (distinct : store.Distinct)
    (among : row ∈ store) (computed : write.For row) (member : old ∈ store)
    (selected : Selected (write.change now old) attempt) :
    old = write.change now old ∧ ∀ update, write = .update update → old.key ≠ write.key := by
  cases write with
  | reopen planId workspaceId actionId =>
    refine ⟨?_, fun _ impossible => absurd impossible (by simp)⟩
    have status := selected.status
    unfold Write.change at status ⊢
    dsimp only at status ⊢
    split at status
    next => exact absurd status nofun
    next unqualified => rw [if_neg unqualified]
  | update update =>
    have computed : update.For row := computed
    have elsewhere : old.key ≠ Write.key (.update update) := by
      intro key
      obtain rfl := distinct.unique among member (computed.key.trans key.symm)
      obtain ⟨status, first, _⟩ := selected
      have qualifies : (row.hasKey update.planId update.workspaceId &&
          row.status ∈ update.expectedStatuses) = true := by
        rw [Bool.and_eq_true, hasKey_iff, decide_eq_true_eq, computed.expected]
        exact ⟨computed.key, List.mem_singleton_self _⟩
      unfold Write.change at status first
      dsimp only at status first
      rw [if_pos qualifies] at status first
      have resumed := computed.resumed (by simpa using status)
      rw [show update.lifecycle.retry = none by simpa [Row.retry] using first] at resumed
      cases resumed
    exact ⟨(Write.change_other elsewhere).symm, fun _ _ => elsewhere⟩

theorem perform_store (registry : Registry) (approval : Option Approval) (write : Write) :
    (registry.perform approval write now).store = write.apply now registry.store := by
  unfold perform
  split <;> rfl

theorem perform_carries (distinct : before.store.Distinct) (among : row ∈ before.store)
    {write : Write} (computed : write.For row) (approval : Option Approval) :
    before.Carries (before.perform approval write now) := by
  intro current member attempt selected
  rw [perform_store, Write.apply_eq] at member
  obtain ⟨old, stored, rfl⟩ := List.mem_map.mp member
  obtain ⟨unchanged, elsewhere⟩ := change_selected distinct among computed stored selected
  rw [← unchanged]
  refine ⟨old, stored, .refl old, ?_⟩
  unfold perform
  split
  next update => exact if_neg (elsewhere update rfl)
  next => rfl

theorem perform_kept (registry : Registry) (approval : Option Approval) (write : Write)
    (found : registry.approvals approvalId = some stored) (granted : stored.status = .granted) :
    (registry.perform approval write now).approvals approvalId = some stored := by
  unfold perform
  split
  next => exact requestWorkflowApproval_granted found granted
  next => exact found

/-- Every step but a selection carries the rows that are at a selection. -/
theorem next_carries (distinct : before.store.Distinct)
    (other : ∀ request now, label ≠ .select request now)
    (stepped : before.next library label = some after) : before.Carries after := by
  cases label with
  | command command now =>
    obtain ⟨other, stepped⟩ := Option.ite_none_left_eq_some.mp stepped
    obtain ⟨store, ran, rfl⟩ := Option.map_eq_some_iff.mp stepped
    exact command_carries distinct command other ran
  | select request now => exact absurd rfl (other request now)
  | handle notice index now =>
    obtain ⟨write, written, rfl⟩ := Option.map_eq_some_iff.mp stepped
    obtain ⟨row, among, computed, _⟩ := (notice.consulting before.approvals).writes_for library
      (List.mem_of_getElem? written)
    exact perform_carries distinct among computed _

theorem next_sound (sound : before.Sound library)
    (other : ∀ request now, label ≠ .select request now)
    (stepped : before.next library label = some after) : after.Sound library := by
  have carries := next_carries library sound.distinct other stepped
  have rows (row : Row) (member : row ∈ after.store) (attempt : Attempt)
    (selected : Selected row attempt) :
      (∃ actionId approval, after.Consults library row attempt actionId approval) ∨
        ∃ old ∈ before.store, old.Same row ∧ after.granted row.key = before.granted row.key :=
    .inr (carries row member attempt selected)
  cases label with
  | command command now =>
    obtain ⟨_, stepped⟩ := Option.ite_none_left_eq_some.mp stepped
    obtain ⟨store, ran, rfl⟩ := Option.map_eq_some_iff.mp stepped
    exact sound.step library (command.run_distinct sound.distinct ran) (fun _ _ stored _ =>
      stored) rows
  | select request now => exact absurd rfl (other request now)
  | handle notice index now =>
    obtain ⟨write, _, rfl⟩ := Option.map_eq_some_iff.mp stepped
    have distinct :
        (before.perform (notice.approval library now before.store) write now).store.Distinct := by
      rw [perform_store]
      exact Write.apply_distinct sound.distinct write
    exact sound.step library distinct (fun _ _ => perform_kept before _ write) rows

theorem sound_stable :
    Stable (Step (Registry.next library) (Registry.Regular library)) (Registry.Sound library) := by
  intro registry label after step sound
  obtain ⟨regular, stepped⟩ := step
  cases label with
  | select request now => exact select_sound library sound regular stepped
  | command => exact next_sound library sound (by simp) stepped
  | handle => exact next_sound library sound (by simp) stepped

end Registry

section tracking

theorem actionText_ne_empty
    (route : getText "route" (selectedRecoveryCandidate row) = safePrRoute) :
    strip (row.actionText.getD "") ≠ "" := by
  intro isEmpty
  unfold selectedRecoveryCandidate at route
  dsimp only at route
  rw [isEmpty] at route
  split at route
  next =>
    rw [if_pos rfl] at route
    exact absurd route (by decide)
  next => exact absurd route (by decide)

theorem recoveryApprovalRecord_consults {registry : Registry}
    (consults : registry.Consults library row attempt actionId approval)
    (route : getText "route" (selectedRecoveryCandidate row) = safePrRoute) :
    recoveryApprovalRecord library registry.approvals.getWorkflowApproval row row.workspaceId =
      approval.details := by
  have action : row.actionText = some actionId.val := by
    unfold Row.actionText
    rw [consults.selected]
    rfl
  have notEmpty := actionText_ne_empty route
  rw [action, Option.getD_some, actionId.property] at notEmpty
  unfold recoveryApprovalRecord Approvals.getWorkflowApproval
  dsimp only
  rw [action, Option.getD_some, actionId.property, row.planId.property.1,
    if_neg (not_or.mpr ⟨row.planId.property.2, notEmpty⟩)]
  have stored := consults.stored
  unfold recoveryApprovalId at stored
  unfold recoveryApprovalIdentity
  rw [stored, Option.filter_some_pos (by simpa using consults.workspace)]
  rfl

theorem safePrIdentityError_none (complete : safePrComplete event = true)
    (identity : ∀ entry ∈ safePrIdentity event, getText entry.1 params = entry.2) :
    safePrIdentityError event params = none := by
  unfold safePrIdentityError
  rw [complete, if_neg (by decide), if_neg]
  rw [List.any_eq_true]
  rintro ⟨entry, member, differs⟩
  exact absurd (identity entry member) (by simpa using differs)

/-- A PR with the approved identity is bound to the selected plan. -/
theorem onRecoverySafePrCreated_tracks
    (found : getRecoveryPlanByCorrelation correlationId event.workspaceId store = some row)
    (selected : row.status = .selected)
    (route : getText "route" (selectedRecoveryCandidate row) = safePrRoute)
    (record : recoveryApprovalRecord library approvals row event.workspaceId = details)
    (accepted : safePrIdentityError event (selectedCandidateParams details) = none) :
    ∃ update authorization, onRecoverySafePrCreated library event correlationId
      approvals sources store =
        some (.update update) ∧
      (update.planId, update.workspaceId) = (row.planId.val, event.workspaceId) ∧
      update.expectedStatuses = [.selected] ∧ update.status = .prOpen ∧
      update.lifecycle.attempt = row.attempt ∧ update.lifecycle.authorization = some authorization ∧
      authorization.changes =
        approvedChangeContract (getOrNone "authorized_changes"
          (selectedCandidateParams details)) := by
  unfold onRecoverySafePrCreated
  rw [found]
  dsimp only
  rw [if_neg (by simp [selected, route]), record, accepted]
  exact ⟨_, _, rfl, rfl, rfl, rfl, rfl, rfl, rfl⟩

end tracking

/-- The approval consulted is the attempt's own, when the attempt is the first
selection of its action: the handler of a created Safe PR reads the details that were
asked for this attempt, and a complete PR with the identity approved there moves the
plan to its PR with the changes authorized there. -/
theorem Registry.approval_consulted {registry : Registry} {approvals : Approvals}
    (run : Run (Step (Registry.next library) (Registry.Regular library)) ⟨[], approvals,
      fun _ => none⟩ labels
      registry)
    (found : getRecoveryPlanByCorrelation correlationId event.workspaceId registry.store = some row)
    (selected : row.status = .selected) (attempted : row.attempt = some attempt)
    (route : getText "route" (selectedRecoveryCandidate row) = safePrRoute)
    (regular : registry.Regular library
      (.handle (.safePrCreated event correlationId lookup sources) 0 now)) :
    ∃ details, registry.granted row.key = some (attempt.id, details) ∧
      recoveryApprovalRecord library registry.approvals.getWorkflowApproval row event.workspaceId =
        details ∧
      (safePrComplete event = true →
        (∀ entry ∈ safePrIdentity event, getText entry.1 (selectedCandidateParams details) =
          entry.2) →
        ∃ after tracked lifecycle authorization,
          registry.next library (.handle (.safePrCreated event correlationId lookup sources) 0
            now) = some after ∧
            tracked ∈ after.store ∧ tracked.key = row.key ∧ tracked.status = .prOpen ∧
            tracked.lifecycle = some lifecycle ∧ lifecycle.attempt = some attempt ∧
            lifecycle.authorization = some authorization ∧
            authorization.changes =
              approvedChangeContract (getOrNone "authorized_changes"
                (selectedCandidateParams details))) := by
  have sound := run.holds (Registry.sound_stable library) ⟨List.nodup_nil, by simp⟩
  obtain ⟨member, workspace⟩ := getRecoveryPlanByCorrelation_some found
  obtain ⟨actionId, approval, consults⟩ := sound.consulted row member attempt
    ⟨selected, Option.isNone_iff_eq_none.mp (regular row found), attempted⟩
  have record := recoveryApprovalRecord_consults library consults route
  rw [workspace] at record
  refine ⟨approval.details, consults.own, record, fun complete identity => ?_⟩
  obtain ⟨update, authorization, written, key, expected, status, attempt, authorized, changes⟩ :=
    onRecoverySafePrCreated_tracks library found selected route record
      (safePrIdentityError_none complete identity)
  have next :
      registry.next library (.handle (.safePrCreated event correlationId lookup sources) 0 now) =
      some (registry.perform none (.update update) now) := by
    unfold Registry.next Notice.consulting Notice.writes Notice.approval
    dsimp only
    rw [written]
    rfl
  have qualifies : (row.hasKey update.planId update.workspaceId &&
      row.status ∈ update.expectedStatuses) = true := by
    rw [Bool.and_eq_true, hasKey_iff, key, expected, selected, ← workspace]
    exact ⟨rfl, by decide⟩
  refine ⟨_, Write.change now row (.update update), update.lifecycle, authorization, next, ?_,
    Write.change_key _ row, ?_, ?_, attempt.trans attempted, authorized, changes⟩
  · rw [Registry.perform_store, Write.apply_eq]
    exact List.mem_map_of_mem member
  · unfold Write.change
    dsimp only
    rw [if_pos qualifies, withLifecycle_status, status]
  · unfold Write.change
    dsimp only
    rw [if_pos qualifies, withLifecycle_lifecycle]

section sample

def sampleSelection (attemptId commitSha : String) : SelectionRequest :=
  ⟨"plan-1", "workspace-1", sampleScale, "operator", attemptId, some (sampleParams commitSha)⟩

def sampleCreatedPr (commitSha : String) : SafePrCreated := { sampleSafePr with commitSha }

def sampleCreated (commitSha : String) : Notice :=
  .safePrCreated (sampleCreatedPr commitSha) "correlation-1" (fun _ _ => none) sampleSources

/-- The action `scale` is selected for the first time. -/
def sampleFirstSelection : List Registry.Label := [
  .command (.plan "correlation-1" "workspace-1" samplePlan none) 0,
  .select (sampleSelection "attempt-1" "base-1") 0]

/-- The PR is closed, and the same action is selected again for another commit. -/
def sampleReselection : List Registry.Label := sampleFirstSelection ++ [
  .handle (sampleCreated "base-1") 0 0,
  .handle (.pullRequest { samplePullRequest with merged := false } [] "") 0 0,
  .select (sampleSelection "attempt-2" "base-2") 0]

/-- The Safe PR fails, and is retried for another commit. -/
def sampleSafePrRetry : List Registry.Label := sampleFirstSelection ++ [
  .handle (.safePrFailed ⟨"workspace-1", "base moved", "safe_pr_base_moved", "patch", "",
    "", "", []⟩
    "correlation-1" fun _ _ => none) 0 0,
  .handle (.retry ⟨"correlation-1", "workspace-1", "plan-1", "operator", "", "attempt-2", 0⟩
    (some (sampleParams "base-2")) fun _ => none) 0 0]

/-- What a created Safe PR meets: the plan's status and attempt, the attempt for which
the latest approval was asked, and whether the PR has the identity approved there. -/
structure Arrival where
  status : PlanStatus
  route : String
  attempt : Option String
  asked : Option String
  approved : Bool
  deriving DecidableEq

def Registry.arrival (registry : Registry) (event : SafePrCreated) (row : Row) : Arrival where
  status := row.status
  route := getText "route" (selectedRecoveryCandidate row)
  attempt := row.attempt.map (·.id)
  asked := (registry.granted row.key).map Prod.fst
  approved := (registry.granted row.key).any fun asked => safePrComplete event &&
    (safePrIdentity event).all fun entry =>
      getText entry.1 (selectedCandidateParams asked.2) = entry.2

end sample

/-- The first selection of an action: the handler reads its approval and tracks the PR. -/
theorem Registry.approval_consulted_first : ∃ registry row attempt details after tracked,
    Run (Step (Registry.next sampleLibrary) (Registry.Regular sampleLibrary))
        ⟨[], fun _ => none, fun _ => none⟩ sampleFirstSelection registry ∧
      row ∈ registry.store ∧ row.attempt = some attempt ∧
      registry.granted row.key = some (attempt.id, details) ∧
      registry.next sampleLibrary (.handle (sampleCreated "base-1") 0 0) = some after ∧
      tracked ∈ after.store ∧ tracked.key = row.key ∧ tracked.status = .prOpen := by
  have executed : (execute (Registry.next sampleLibrary) (Registry.Regular sampleLibrary)
      ⟨[], fun _ => none, fun _ => none⟩ sampleFirstSelection).bind (fun registry =>
        (getRecoveryPlanByCorrelation "correlation-1" "workspace-1" registry.store).map fun row =>
          (decide (registry.Regular sampleLibrary (.handle (sampleCreated "base-1") 0 0)),
            registry.arrival (sampleCreatedPr "base-1") row)) =
      some (true, ⟨.selected, safePrRoute, some "attempt-1", some "attempt-1", true⟩) := by
    decide +kernel
  obtain ⟨registry, ran, continued⟩ := Option.bind_eq_some_iff.mp executed
  obtain ⟨row, found, shown⟩ := Option.map_eq_some_iff.mp continued
  simp only [Prod.mk.injEq, decide_eq_true_eq, Registry.arrival, Arrival.mk.injEq] at shown
  obtain ⟨regular, selected, route, named, _, approved⟩ := shown
  obtain ⟨attempt, attempted, _⟩ := Option.map_eq_some_iff.mp named
  have run := execute_run ran
  have member := (getRecoveryPlanByCorrelation_some found).1
  obtain ⟨details, own, _, tracks⟩ :=
    Registry.approval_consulted sampleLibrary run found selected attempted
    route regular
  rw [own, Option.any_some, Bool.and_eq_true, List.all_eq_true] at approved
  obtain ⟨after, tracked, _, _, stepped, stored, key, status, _⟩ :=
    tracks approved.1 fun entry among =>
    of_decide_eq_true (approved.2 entry among)
  exact ⟨registry, row, attempt, details, after, tracked, run, member, attempted, own, stepped,
    stored, key, status⟩

/-- The run of a history, and the PR of the current attempt handled after it. -/
def sampleRefusal (history : List Registry.Label) : Option (List Arrival × List PlanStatus) :=
  (execute (Registry.next sampleLibrary) always ⟨[], fun _ => none, fun _ => none⟩ history).bind
    fun registry =>
    (registry.next sampleLibrary (.handle (sampleCreated "base-2") 0 0)).map fun after =>
      (registry.store.map (registry.arrival (sampleCreatedPr "base-2")), after.store.map (·.status))

theorem sampleRefusal_run (shown : sampleRefusal history = some (arrivals, statuses)) :
    ∃ registry after,
      Run (Step (Registry.next sampleLibrary) always) ⟨[],
        fun _ => none, fun _ => none⟩ history registry ∧
        registry.store.map (registry.arrival (sampleCreatedPr "base-2")) = arrivals ∧
        registry.next sampleLibrary (.handle (sampleCreated "base-2") 0 0) = some after ∧
        after.store.map (·.status) = statuses := by
  obtain ⟨registry, ran, continued⟩ := Option.bind_eq_some_iff.mp shown
  obtain ⟨after, stepped, shown⟩ := Option.map_eq_some_iff.mp continued
  obtain ⟨arrived, closed⟩ := Prod.mk.injEq .. ▸ shown
  exact ⟨registry, after, execute_run ran, arrived, stepped, closed⟩

/-- After a second selection of the action, or a retry of its Safe PR, a PR with the
identity approved for the current attempt is refused: the handler consults the approval
of the first selection, and opens the plan again. -/
theorem Registry.approval_of_earlier_attempt :
    (∃ registry after,
      Run (Step (Registry.next sampleLibrary) always) ⟨[],
        fun _ => none, fun _ => none⟩ sampleReselection registry ∧
        registry.store.map (registry.arrival (sampleCreatedPr "base-2")) =
          [⟨.selected, safePrRoute, some "attempt-2", some "attempt-2", true⟩] ∧
        registry.next sampleLibrary (.handle (sampleCreated "base-2") 0 0) = some after ∧
        after.store.map (·.status) = [.selectionRequested]) ∧
    ∃ registry after,
      Run (Step (Registry.next sampleLibrary) always) ⟨[],
        fun _ => none, fun _ => none⟩ sampleSafePrRetry registry ∧
        registry.store.map (registry.arrival (sampleCreatedPr "base-2")) =
          [⟨.selected, safePrRoute, some "attempt-2", some "attempt-2", true⟩] ∧
        registry.next sampleLibrary (.handle (sampleCreated "base-2") 0 0) = some after ∧
        after.store.map (·.status) = [.selectionRequested] := by
  exact ⟨sampleRefusal_run (by decide +kernel), sampleRefusal_run (by decide +kernel)⟩

end K8sOps.Rca
