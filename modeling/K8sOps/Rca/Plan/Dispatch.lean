import K8sOps.Rca.Plan.ApprovalHistory
import K8sOps.Scm.Request

/-! Which Safe PR request the PR of a plan comes from. A created PR is reported without
the request or the attempt it belongs to, so its handler can tell it from the PR of an
earlier selection only by the repository, binding, branch and commit of the request. -/
namespace K8sOps.Rca
open Python Transition Scm
variable (library : Library) (settings : Settings)

def createdBody (request : SafePrRequest) (result : PullRequestResult) : SafePrCreated where
  prUrl := result.url
  mode := "github_rest"
  workspaceId := request.workspaceId
  repositoryId := request.repositoryId
  bindingId := request.bindingId
  applicationId := request.applicationId
  environment := request.environment
  manifestPath := request.manifestPath
  repoRef := createdRepoRef settings request
  baseBranch := createdBaseBranch settings request
  commitSha := request.commitSha
  patchSha256 := request.patchSha256
  prNumber := result.number
  prNodeId := result.nodeId
  headRef := result.headRef
  headSha := result.headSha

/-- What the created event repeats of its request. -/
def requestIdentity (request : SafePrRequest) : List (String × String) :=
  [("repository_id", request.repositoryId), ("binding_id", request.bindingId),
    ("application_id", request.applicationId), ("repo_ref", createdRepoRef settings request),
    ("base_branch", createdBaseBranch settings request), ("commit_sha", request.commitSha)]

theorem createdBody_identity (request : SafePrRequest) (result : PullRequestResult) :
    safePrIdentity (createdBody settings request result) = requestIdentity settings request := by
  simp only [safePrIdentity, createdBody, requestIdentity]

/-- An approval with these details is for the identity of the request. -/
def Approves (details : Entries) (request : SafePrRequest) : Bool :=
  (requestIdentity settings request).all fun entry =>
    getText entry.1 (selectedCandidateParams details) = entry.2

/-- A Safe PR request, and the action that its patches were generated for. -/
structure Dispatch where
  actionId : ActionId
  request : SafePrRequest

/-- The plans and approvals, with every Safe PR request dispatched so far and, for each
plan, the position of the request for its current selection. -/
structure Docket where
  registry : Registry
  dispatched : List Dispatch
  current : String × String → Option Nat

/-- A step that selects an action may send a Safe PR request; the PR of any request sent
so far may be reported at any time, and again. -/
inductive Docket.Label where
  | command (command : Command) (now : Int) (sent : Option SafePrRequest)
  | select (request : SelectionRequest) (now : Int) (sent : Option SafePrRequest)
  | handle (notice : Notice) (index : Nat) (now : Int) (sent : Option SafePrRequest)
  | created (position : Nat) (result : PullRequestResult) (correlationId : String)
      (sources : BaselineSources)
      (now : Int)

/-- A policy selects its action again with every replay of the plan. -/
def Command.dispatches (sent : Option SafePrRequest) : Command → Option Dispatch
  | .plan _ _ _ (some (actionId, _)) => sent.map (⟨actionId, ·⟩)
  | _ => none

/-- The failed plan and action of a retry that prepares the Safe PR again. -/
def Notice.safePrRetried (now : Int) (store : Store) : Notice → Option (Row × ActionId)
  | .retry request prepared _ =>
    if (retryApproval library { request with now } prepared store).isSome then
      retriedPlan { request with now } store
    else none
  | _ => none

namespace Docket

def empty (approvals : Approvals) : Docket := ⟨⟨[], approvals, fun _ => none⟩, [], fun _ => none⟩

def send (docket : Docket) (registry : Registry) (sent : Option Dispatch)
    (selects : String × String → Bool) : Docket where
  registry
  dispatched := docket.dispatched ++ sent.toList
  current key :=
    if selects key then sent.map fun _ => docket.dispatched.length else docket.current key

def next (docket : Docket) : Label → Option Docket
  | .command command now sent =>
    (docket.registry.next library (.command command now)).map fun registry =>
      docket.send registry (command.dispatches sent) fun key =>
        command.selects docket.registry.store key
  | .select request now sent =>
    (docket.registry.next library (.select request now)).map fun registry =>
      docket.send registry (sent.map (⟨request.actionId, ·⟩)) fun key =>
        key = (request.planId, request.workspaceId)
  | .handle notice index now sent =>
    if notice.isSafePrCreated then none
    else
      let retried := notice.safePrRetried library now docket.registry.store
      (docket.registry.next library (.handle notice index now)).map fun registry =>
        docket.send registry (retried.bind fun plan => sent.map (⟨plan.2, ·⟩)) fun key =>
          retried.any fun plan => plan.1.key = key
  | .created position result correlationId sources now =>
    docket.dispatched[position]?.bind fun dispatch =>
      (docket.registry.next library
        (.handle (.safePrCreated (createdBody settings dispatch.request result)
        correlationId (fun _ _ => none) sources) 0 now)).map fun registry =>
          docket.send registry none fun _ => false

/-- The request is not for the identity approved for a plan that is selected now. -/
def Unapproved (docket : Docket) (sent : Option Dispatch) : Prop :=
  ∀ dispatch ∈ sent, ∀ row ∈ docket.registry.store, row.status = .selected →
    ∀ asked ∈ docket.registry.granted row.key, ¬Approves settings asked.2 dispatch.request

/-- A selection approves an identity that no request sent before has; only the PR of an
operator's selection is reported, and not the one of a retry. -/
def Distinguished (docket : Docket) : Label → Prop
  | .command command _ sent => docket.Unapproved settings (command.dispatches sent)
  | .select request now sent =>
    docket.registry.Regular library (.select request now) ∧
      docket.Unapproved settings (sent.map (⟨request.actionId, ·⟩)) ∧
      ∀ approval ∈ selectionApproval library request docket.registry.store,
        ∀ earlier ∈ docket.dispatched, ¬Approves settings approval.details earlier.request
  | .handle notice _ now sent => docket.Unapproved settings
    ((notice.safePrRetried library now docket.registry.store).bind fun plan =>
      sent.map (⟨plan.2, ·⟩))
  | .created position _ correlationId _ _ =>
    ∀ dispatch ∈ docket.dispatched[position]?,
      ∀ row ∈ getRecoveryPlanByCorrelation correlationId dispatch.request.workspaceId
        docket.registry.store, row.status = .selected → row.retry.isNone ∧ row.attempt.isSome

instance (docket : Docket) (sent : Option Dispatch) :
    Decidable (docket.Unapproved settings sent) := by
  unfold Unapproved
  infer_instance

instance (docket : Docket) (label : Label) :
    Decidable (docket.Distinguished library settings label) := by
  unfold Distinguished
  split <;> infer_instance

/-- Of the requests sent so far, only the one for the current selection can have the
identity that was approved for it. -/
structure Sound (docket : Docket) : Prop where
  registry : docket.registry.Sound library
  own : ∀ row ∈ docket.registry.store, ∀ attempt, Registry.Selected row attempt →
    ∀ asked, docket.registry.granted row.key = some asked →
      ∀ position dispatch, docket.dispatched[position]? = some dispatch →
        Approves settings asked.2 dispatch.request = true →
          docket.current row.key = some position ∧ row.selectedActionId = some dispatch.actionId

section steps
variable {docket after : Docket} {registry : Registry} {settings} {selects : String × String → Bool}
  {dispatch : Dispatch} {row old : Row}

theorem dispatched_cases
    (found : (docket.send registry sent selects).dispatched[position]? = some dispatch) :
    docket.dispatched[position]? = some dispatch ∨
    position = docket.dispatched.length ∧ sent = some dispatch := by
  change (docket.dispatched ++ sent.toList)[position]? = some dispatch at found
  by_cases earlier : position < docket.dispatched.length
  · rw [List.getElem?_append_left earlier] at found
    exact .inl found
  · rw [List.getElem?_append_right (Nat.le_of_not_lt earlier)] at found
    cases sent with
    | none => cases found
    | some last =>
      obtain ⟨bound, same⟩ := List.getElem?_eq_some_iff.mp found
      have atEnd : position - docket.dispatched.length < 1 := bound
      refine .inr ⟨by omega, ?_⟩
      simpa using same

theorem Sound.carried (sound : docket.Sound library settings)
    (unapproved : docket.Unapproved settings sent) (among : old ∈ docket.registry.store)
    (same : old.Same row) (selected : Registry.Selected row attempt)
    (granted : docket.registry.granted old.key = some asked) (elsewhere : selects row.key = false)
    (found : (docket.send registry sent selects).dispatched[position]? = some dispatch)
    (approves : Approves settings asked.2 dispatch.request = true) :
    (docket.send registry sent selects).current row.key = some position ∧
      row.selectedActionId = some dispatch.actionId := by
  have before := selected.of_same same
  rcases dispatched_cases found with earlier | ⟨_, sending⟩
  · obtain ⟨current, action⟩ :=
      sound.own old among attempt before asked granted position dispatch earlier approves
    refine ⟨?_, same.selected ▸ action⟩
    change (if selects row.key then _ else docket.current row.key) = _
    rw [elsewhere, ← same.key]
    exact current
  · exact absurd approves (unapproved dispatch sending old among before.status asked granted)

/-- A step other than a selection, which sends no request that could be mistaken for one
of a selected plan. -/
theorem Sound.send (sound : docket.Sound library settings) (kept : registry.Sound library)
    (carries : docket.registry.Carries registry) (unapproved : docket.Unapproved settings sent)
    (elsewhere : ∀ row ∈ docket.registry.store, row.status = .selected → selects row.key = false) :
    (docket.send registry sent selects).Sound library settings := by
  refine ⟨kept, fun row member attempt selected asked granted position dispatch found approves =>
    ?_⟩
  obtain ⟨old, among, same, unchanged⟩ := carries row member attempt selected
  have other := elsewhere old among (same.status.trans selected.status)
  rw [same.key] at other
  have before : docket.registry.granted old.key = some asked := by
    rw [same.key, ← unchanged]
    exact granted
  exact sound.carried library unapproved among same selected before other found approves

theorem select_sound (sound : docket.Sound library settings)
    (distinguished : docket.Distinguished library settings (.select request now sent))
    (stepped : docket.next library settings (.select request now sent) = some after) :
    after.Sound library settings := by
  obtain ⟨registry, selected, rfl⟩ := Option.map_eq_some_iff.mp stepped
  obtain ⟨regular, unapproved, apart⟩ := distinguished
  obtain ⟨approval, asked, _, _, rows⟩ :=
    Registry.select_rows library sound.registry.distinct selected
  refine ⟨Registry.select_sound library sound.registry regular selected, ?_⟩
  intro row member attempt chosen consulted granted position dispatch found approves
  obtain ⟨old, key, rfl, own⟩ | ⟨among, elsewhere, unchanged⟩ := rows row member
  · -- The approval of this selection is for none of the earlier requests.
    cases own.symm.trans granted
    rcases dispatched_cases found with earlier | ⟨rfl, sending⟩
    · exact absurd approves (apart approval asked dispatch (List.mem_of_getElem? earlier))
    · obtain ⟨last, isSent, rfl⟩ := Option.map_eq_some_iff.mp sending
      refine ⟨?_, rfl⟩
      change (if decide (old.key = (request.planId, request.workspaceId)) = true then _ else _) = _
      rw [if_pos (decide_eq_true key), isSent]
      rfl
  · have before : docket.registry.granted row.key = some consulted := unchanged ▸ granted
    exact sound.carried library unapproved among (.refl row) chosen before
      (decide_eq_false elsewhere) found approves

theorem command_elsewhere {store : Store} {command : Command}
    (notSelection : ¬command.isSelection = true) (member : row ∈ store)
    (selected : row.status = .selected) :
    command.selects store row.key = false := by
  rw [Bool.eq_false_iff]
  intro selects
  unfold Command.selects at selects
  split at selects
  next =>
    rw [Bool.and_eq_true, List.all_eq_true] at selects
    have isOpen := selects.2 row member
    simp [selected] at isOpen
  next => exact notSelection rfl
  next => cases selects

theorem safePrRetried_failed {store : Store} {notice : Notice}
    (retried : notice.safePrRetried library now store = some plan) :
    plan.1 ∈ store ∧ plan.1.status = .failed := by
  unfold Notice.safePrRetried at retried
  split at retried
  next =>
    obtain ⟨_, found⟩ := Option.ite_none_right_eq_some.mp retried
    obtain ⟨member, failed, _⟩ := retriedPlan_some found
    exact ⟨member, failed⟩
  next => cases retried

theorem retry_elsewhere {store : Store} {notice : Notice} (distinct : store.Distinct)
    (member : row ∈ store) (selected : row.status = .selected) :
    ((notice.safePrRetried library now store).any fun plan => plan.1.key = row.key) = false := by
  cases retried : notice.safePrRetried library now store with
  | none => rfl
  | some plan =>
    obtain ⟨among, failed⟩ := safePrRetried_failed library retried
    refine decide_eq_false fun same => ?_
    rw [distinct.unique among member same, selected] at failed
    cases failed

theorem sound_stable :
    Stable (Step (Docket.next library settings) (Docket.Distinguished library settings))
      (Docket.Sound library settings) := by
  intro docket label after step sound
  obtain ⟨distinguished, stepped⟩ := step
  have distinct := sound.registry.distinct
  cases label with
  | select => exact select_sound library sound distinguished stepped
  | command command now sent =>
    obtain ⟨registry, ran, rfl⟩ := Option.map_eq_some_iff.mp stepped
    have notSelection := (Option.ite_none_left_eq_some.mp ran).1
    exact sound.send library (Registry.next_sound library sound.registry (by simp) ran)
      (Registry.next_carries library distinct (by simp) ran) distinguished
      fun row => command_elsewhere notSelection
  | handle notice index now sent =>
    obtain ⟨_, stepped⟩ := Option.ite_none_left_eq_some.mp stepped
    obtain ⟨registry, handled, rfl⟩ := Option.map_eq_some_iff.mp stepped
    exact sound.send library (Registry.next_sound library sound.registry (by simp) handled)
      (Registry.next_carries library distinct (by simp) handled) distinguished
      fun row => retry_elsewhere library distinct
  | created position result correlationId sources now =>
    obtain ⟨dispatch, _, stepped⟩ := Option.bind_eq_some_iff.mp stepped
    obtain ⟨registry, handled, rfl⟩ := Option.map_eq_some_iff.mp stepped
    exact sound.send library (Registry.next_sound library sound.registry (by simp) handled)
      (Registry.next_carries library distinct (by simp) handled) (by simp [Unapproved]) fun _ _ _ =>
        rfl

end steps

end Docket

section opening
variable {old row : Row}

theorem change_opened {write : Write} (opened : (write.change now old).status = .prOpen)
    (closed : old.status ≠ .prOpen) :
    ∃ update, write = .update update ∧ update.status = .prOpen ∧
      old.key = (update.planId, update.workspaceId) ∧
      write.change now old = old.withLifecycle update.status update.lifecycle
        update.clearSelection now := by
  cases write with
  | reopen =>
    dsimp only [Write.change] at opened
    split at opened
    next => cases opened
    next => exact absurd opened closed
  | update update =>
    dsimp only [Write.change] at opened ⊢
    split at opened
    next qualifies =>
      rw [withLifecycle_status] at opened
      rw [Bool.and_eq_true] at qualifies
      exact ⟨update, rfl, opened, hasKey_iff.mp qualifies.1,
        if_pos (by rw [qualifies.1, qualifies.2]; rfl)⟩
    next => exact absurd opened closed

theorem command_not_opened {store next : Store} {command : Command} (distinct : store.Distinct)
    (ran : command.run now store = some next) (member : row ∈ next)
    (opened : row.status = .prOpen) :
    ∃ old ∈ store, old.key = row.key ∧ old.status = .prOpen := by
  cases command.run_produces distinct ran member with
  | same among same => exact ⟨_, among, same.key, same.status.trans opened⟩
  | planned isPlanned => exact absurd (isPlanned.status.symm.trans opened) nofun
  | autoSelected isPlanned => exact absurd (isPlanned.status.symm.trans opened) nofun
  | selected => cases opened
  | reopened => cases opened
  | expired => cases opened

@[simp] theorem consulting_isSafePrCreated (notice : Notice) (approvals : Approvals) :
    (notice.consulting approvals).isSafePrCreated = notice.isSafePrCreated := by
  cases notice <;> rfl

theorem onRecoverySafePrCreated_update {update : LifecycleWrite}
    (written : onRecoverySafePrCreated library event correlationId approvals sources store =
      some (.update update)) :
    ∃ row target, getRecoveryPlanByCorrelation correlationId event.workspaceId store = some row ∧
      row.status = .selected ∧ getText "route" (selectedRecoveryCandidate row) = safePrRoute ∧
      safePrIdentityError event
        (selectedCandidateParams (recoveryApprovalRecord library approvals row event.workspaceId)) =
          none ∧
      update.planId = row.planId.val ∧ update.workspaceId = event.workspaceId ∧
      update.clearSelection = false ∧
      update.lifecycle.pr = some (trackedPullRequest event target row.attempt sources.now) := by
  unfold onRecoverySafePrCreated at written
  split at written
  next => cases written
  next row found =>
    dsimp only at written
    split at written
    next => cases written
    next selected =>
      rw [not_or, not_not, not_not] at selected
      split at written
      next => cases written
      next accepted =>
        cases written
        exact ⟨row, _, found, selected.1, selected.2, accepted, rfl, rfl, rfl, rfl⟩

theorem safePrIdentityError_approves (accepted :
      safePrIdentityError (createdBody settings request result) (selectedCandidateParams details) =
      none) :
    Approves settings details request = true := by
  unfold safePrIdentityError at accepted
  split at accepted
  next => cases accepted
  next =>
    split at accepted
    next => cases accepted
    next agree =>
      rw [Approves, List.all_eq_true]
      intro entry member
      rw [decide_eq_true_eq]
      by_contra differs
      rw [← createdBody_identity settings request result] at member
      exact agree (List.any_eq_true.mpr ⟨entry, member, decide_eq_true differs⟩)

end opening

theorem Docket.opened_created {docket after : Docket} {row : Row}
    (distinct : docket.registry.store.Distinct)
    (stepped : docket.next library settings label = some after)
    (member : row ∈ after.registry.store) (opened : row.status = .prOpen)
    (entered : ∀ old ∈ docket.registry.store, old.key = row.key → old.status ≠ .prOpen) :
    ∃ position result correlationId sources now dispatch update old,
      label = .created position result correlationId sources now ∧
        docket.dispatched[position]? = some dispatch ∧
        onRecoverySafePrCreated library (createdBody settings dispatch.request result) correlationId
          docket.registry.approvals.getWorkflowApproval { sources with now } docket.registry.store =
            some (.update update) ∧
        old ∈ docket.registry.store ∧ old.key = (update.planId, update.workspaceId) ∧
        row = old.withLifecycle update.status update.lifecycle update.clearSelection now := by
  cases label with
  | command command now sent =>
    obtain ⟨registry, ran, rfl⟩ := Option.map_eq_some_iff.mp stepped
    obtain ⟨_, ran⟩ := Option.ite_none_left_eq_some.mp ran
    obtain ⟨store, produced, rfl⟩ := Option.map_eq_some_iff.mp ran
    obtain ⟨old, among, key, before⟩ := command_not_opened distinct produced member opened
    exact absurd before (entered old among key)
  | select request now sent =>
    obtain ⟨registry, selected, rfl⟩ := Option.map_eq_some_iff.mp stepped
    obtain ⟨_, _, _, _, rows⟩ := Registry.select_rows library distinct selected
    obtain ⟨old, _, rfl, _⟩ | ⟨among, _⟩ := rows row member
    · cases opened
    · exact absurd opened (entered row among rfl)
  | handle notice index now sent =>
    obtain ⟨other, stepped⟩ := Option.ite_none_left_eq_some.mp stepped
    obtain ⟨registry, handled, rfl⟩ := Option.map_eq_some_iff.mp stepped
    obtain ⟨write, written, rfl⟩ := Option.map_eq_some_iff.mp handled
    change row ∈ (docket.registry.perform _ write now).store at member
    rw [Registry.perform_store, Write.apply_eq] at member
    obtain ⟨old, among, rfl⟩ := List.mem_map.mp member
    obtain ⟨update, rfl, opens, _⟩ :=
      change_opened opened (entered old among (Write.change_key _ old).symm)
    obtain ⟨_, _, _, created⟩ := Notice.writes_for library _ (List.mem_of_getElem? written)
    rw [consulting_isSafePrCreated] at created
    exact absurd (created (decide_eq_true opens)) other
  | created position result correlationId sources now =>
    obtain ⟨dispatch, found, stepped⟩ := Option.bind_eq_some_iff.mp stepped
    obtain ⟨registry, handled, rfl⟩ := Option.map_eq_some_iff.mp stepped
    obtain ⟨write, written, rfl⟩ := Option.map_eq_some_iff.mp handled
    change row ∈ (docket.registry.perform _ write now).store at member
    rw [Registry.perform_store, Write.apply_eq] at member
    obtain ⟨old, among, rfl⟩ := List.mem_map.mp member
    obtain ⟨update, rfl, _, key, changed⟩ :=
      change_opened opened (entered old among (Write.change_key _ old).symm)
    have computed := Option.mem_toList.mp (List.mem_of_getElem? written)
    exact ⟨position, result, correlationId, sources, now, dispatch, update, old, rfl, found,
      computed, among, key, changed⟩

/-- The PR of the current selection. When every selection approves an identity that no
Safe PR request sent before has, and PRs are reported for operators' selections only, a
step after which a plan is newly at its PR handles the PR of the request that was sent
for the plan's current selection, whatever other PRs are reported late or again. -/
theorem Docket.pr_of_current_selection {approvals : Approvals} {docket after : Docket} {row : Row}
    (run : Run (Step (Docket.next library settings) (Docket.Distinguished library settings))
      (Docket.empty approvals) labels docket)
    (step : Step (Docket.next library settings) (Docket.Distinguished library settings)
      docket label after)
    (member : row ∈ after.registry.store) (opened : row.status = .prOpen)
    (entered : ∀ old ∈ docket.registry.store, old.key = row.key → old.status ≠ .prOpen) :
    ∃ position result correlationId sources now dispatch pr,
      label = .created position result correlationId sources now ∧
        docket.dispatched[position]? = some dispatch ∧ docket.current row.key = some position ∧
        row.selectedActionId = some dispatch.actionId ∧ row.lifecycle.bind (·.pr) = some pr ∧
        pr.url = result.url ∧ pr.headSha = result.headSha ∧
        pr.patchSha256 = dispatch.request.patchSha256 := by
  have sound := run.holds (Docket.sound_stable library) ⟨⟨List.nodup_nil, by simp [Docket.empty]⟩,
    by simp [Docket.empty]⟩
  obtain ⟨distinguished, stepped⟩ := step
  obtain ⟨position, result, correlationId, sources, now, dispatch, update, old, rfl, sent, written,
    among, key, rfl⟩ :=
    Docket.opened_created library settings sound.registry.distinct stepped member opened entered
  obtain ⟨plan, target, found, selected, route, accepted, planId, workspaceId, notCleared,
    tracked⟩ :=
    onRecoverySafePrCreated_update library written
  obtain ⟨stored, workspace⟩ := getRecoveryPlanByCorrelation_some found
  have isPlan : plan = old := by
    refine sound.registry.distinct.unique stored among ?_
    rw [key, planId, workspaceId, ← workspace]
    rfl
  subst isPlan
  obtain ⟨first, attempted⟩ := distinguished dispatch sent plan found selected
  obtain ⟨attempt, attempted⟩ := Option.isSome_iff_exists.mp attempted
  have isSelected : Registry.Selected plan attempt :=
    ⟨selected, Option.isNone_iff_eq_none.mp first, attempted⟩
  obtain ⟨actionId, approval, consults⟩ := sound.registry.consulted plan stored attempt isSelected
  have record := recoveryApprovalRecord_consults library consults route
  rw [workspace] at record
  rw [record] at accepted
  obtain ⟨current, action⟩ :=
    sound.own plan stored attempt isSelected _ consults.own position dispatch sent
    (safePrIdentityError_approves settings accepted)
  refine ⟨position, result, correlationId, sources, now, dispatch,
    trackedPullRequest (createdBody settings dispatch.request result) target plan.attempt now, rfl,
    sent, ?_, ?_, ?_,
    rfl, rfl, rfl⟩
  · rw [withLifecycle_key]
    exact current
  · rw [notCleared]
    exact action
  · rw [withLifecycle_lifecycle]
    exact tracked

section sample

def sampleSafePrRequest (patchSha256 commitSha : String) : SafePrRequest where
  title := "Recover api"
  body := ""
  patches := []
  prKind := "safe_pr_patch"
  workspaceId := "workspace-1"
  repositoryId := "repository-1"
  bindingId := "binding-1"
  applicationId := "application-1"
  workflowRunId := "workflow-1"
  environment := "production"
  manifestPath := "deploy/api.yaml"
  repoRef := "shop/api"
  baseBranch := "main"
  commitSha := commitSha
  patchSha256 := patchSha256
  approvalRef := none
  policyDecisionRef := none

def sampleResult : PullRequestResult :=
  ⟨"https://github.com/shop/api/pull/1", some 1, "node-1", "recovery", sampleHead⟩

def sampleReport (position : Nat) : Docket.Label :=
  .created position sampleResult "correlation-1" sampleSources 0

/-- The PR for `scale` is closed, and `restart` is selected for a commit. -/
def sampleNewSelection (commitSha : String) : List Docket.Label := [
  .command (.plan "correlation-1" "workspace-1" samplePlan none) 0 none,
  .select (sampleSelection "attempt-1" "base-1") 0
    (some (sampleSafePrRequest "scale-patch" "base-1")),
  sampleReport 0,
  .handle (.pullRequest { samplePullRequest with merged := false } [] "") 0 0 none,
  .select { sampleSelection "attempt-2" commitSha with actionId := sampleRestart } 0
    (some (sampleSafePrRequest "restart-patch" commitSha))]

/-- A plan's selection, the request sent for it, and the patch of the PR it tracks. -/
structure Landing where
  status : PlanStatus
  action : Option String
  position : Option Nat
  patch : Option String
  deriving DecidableEq

def Docket.landings (docket : Docket) : List Landing := docket.registry.store.map fun row =>
  ⟨row.status, row.actionText, docket.current row.key,
    (row.lifecycle.bind (·.pr)).map (·.patchSha256)⟩

end sample

/-- Another commit tells the two selections apart: the PR of the second is tracked. -/
theorem Docket.pr_of_current_selection_second : ∃ docket after row dispatch,
    Run (Step (Docket.next sampleLibrary ⟨"", ""⟩) (Docket.Distinguished sampleLibrary ⟨"", ""⟩))
        (Docket.empty fun _ => none) (sampleNewSelection "base-2") docket ∧
      docket.next sampleLibrary ⟨"", ""⟩ (sampleReport 1) = some after ∧
      row ∈ after.registry.store ∧
      row.status = .prOpen ∧ docket.dispatched[1]? = some dispatch ∧
      docket.current row.key = some 1 ∧ row.selectedActionId = some dispatch.actionId := by
  have executed :
      (execute (Docket.next sampleLibrary ⟨"", ""⟩) (Docket.Distinguished sampleLibrary ⟨"", ""⟩)
      (Docket.empty fun _ => none) (sampleNewSelection "base-2")).bind (fun docket =>
        (docket.next sampleLibrary ⟨"", ""⟩ (sampleReport 1)).map fun after =>
          (decide (docket.Distinguished sampleLibrary ⟨"", ""⟩ (sampleReport 1)),
            docket.registry.store.all fun row => row.status ≠ .prOpen,
            after.registry.store.any fun row => row.status = .prOpen)) =
              some (true, true, true) := by
    decide +kernel
  obtain ⟨docket, ran, continued⟩ := Option.bind_eq_some_iff.mp executed
  obtain ⟨after, stepped, shown⟩ := Option.map_eq_some_iff.mp continued
  simp only [Prod.mk.injEq, decide_eq_true_eq, List.all_eq_true, List.any_eq_true] at shown
  obtain ⟨distinguished, closed, row, member, opened⟩ := shown
  have run := execute_run ran
  obtain ⟨_, _, _, _, _, dispatch, _, isReport, sent, current, action, _⟩ :=
    Docket.pr_of_current_selection
    sampleLibrary ⟨"", ""⟩ run ⟨distinguished, stepped⟩ member opened fun old among _ =>
      closed old among
  cases isReport
  exact ⟨docket, after, row, dispatch, run, stepped, member, opened, sent, current, action⟩

/-- At the same commit the PR of the first selection is mistaken for the one of the
second: `restart` is selected, and its plan tracks the PR with the patch of `scale`. -/
theorem Docket.pr_of_earlier_selection : ∃ docket after,
    Run (Step (Docket.next sampleLibrary ⟨"", ""⟩) always) (Docket.empty fun _ => none)
        (sampleNewSelection "base-1") docket ∧
      docket.dispatched.map (fun dispatch =>
        (dispatch.actionId.val, dispatch.request.patchSha256)) =
        [("scale", "scale-patch"), ("restart", "restart-patch")] ∧
      docket.landings = [⟨.selected, some "restart", some 1, none⟩] ∧
      docket.next sampleLibrary ⟨"", ""⟩ (sampleReport 0) = some after ∧
      after.landings = [⟨.prOpen, some "restart", some 1, some "scale-patch"⟩] := by
  have executed : (execute (Docket.next sampleLibrary ⟨"", ""⟩) always (Docket.empty fun _ => none)
      (sampleNewSelection "base-1")).bind (fun docket =>
        (docket.next sampleLibrary ⟨"", ""⟩ (sampleReport 0)).map fun after =>
          (docket.dispatched.map fun dispatch =>
            (dispatch.actionId.val, dispatch.request.patchSha256), docket.landings,
              after.landings)) =
      some ([("scale", "scale-patch"), ("restart", "restart-patch")],
        [⟨.selected, some "restart", some 1, none⟩],
        [⟨.prOpen, some "restart", some 1, some "scale-patch"⟩]) := by
    decide +kernel
  obtain ⟨docket, ran, continued⟩ := Option.bind_eq_some_iff.mp executed
  obtain ⟨after, stepped, shown⟩ := Option.map_eq_some_iff.mp continued
  simp only [Prod.mk.injEq] at shown
  obtain ⟨dispatched, before, landed⟩ := shown
  exact ⟨docket, after, execute_run ran, dispatched, before, stepped, landed⟩

end K8sOps.Rca
