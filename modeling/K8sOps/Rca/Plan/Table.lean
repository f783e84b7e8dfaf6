import K8sOps.Rca.Plan.Machine

/-! The table of plans under one step: what a statement, a write of a handler and a
command leave of each row. -/
namespace K8sOps.Rca
open Python
variable {store : Store}

def Row.key (row : Row) : String × String := (row.planId.val, row.workspaceId)

/-- Each plan is stored once, as the unique index of the table demands. -/
def Store.Distinct (store : Store) : Prop := (store.map Row.key).Nodup

theorem hasKey_iff :
    Row.hasKey planId workspaceId row = true ↔ row.key = (planId, workspaceId) := by
  simp [Row.hasKey, Row.key]

theorem Store.Distinct.unique (distinct : store.Distinct) (one : first ∈ store)
    (two : other ∈ store) (same : first.key = other.key) : first = other :=
  List.inj_on_of_nodup_map distinct one two same

@[simp] theorem replay_key (row : Row) :
    (row.replay correlationId plan status actionId selectedBy now).key = row.key := by
  unfold Row.replay Row.key
  dsimp only
  split <;> rfl

@[simp] theorem withLifecycle_key (row : Row) :
    (row.withLifecycle status lifecycle clearSelection now).key = row.key := by
  unfold Row.withLifecycle Row.key
  cases clearSelection <;> rfl

@[simp] theorem withLifecycle_status (row : Row) :
    (row.withLifecycle status lifecycle clearSelection now).status = status := by
  unfold Row.withLifecycle
  cases clearSelection <;> rfl

@[simp] theorem withLifecycle_lifecycle (row : Row) :
    (row.withLifecycle status lifecycle clearSelection now).lifecycle = some lifecycle := by
  unfold Row.withLifecycle
  cases clearSelection <;> rfl

theorem updateWhere_some (updated : store.updateWhere condition change = some result) :
    result = store.map fun row => if condition row then change row else row := by
  unfold Store.updateWhere at updated
  simp only [Option.ite_none_right_eq_some, Option.some.injEq] at updated
  exact updated.2.symm

theorem updateWhere_mem (updated : store.updateWhere condition change = some result)
    (member : row ∈ result) :
    ∃ old ∈ store, condition old = true ∧ change old = row ∨ condition old = false ∧ old = row := by
  rw [updateWhere_some updated] at member
  obtain ⟨old, among, rfl⟩ := List.mem_map.mp member
  refine ⟨old, among, ?_⟩
  split
  next qualifies => exact .inl ⟨qualifies, rfl⟩
  next unqualified => exact .inr ⟨by simpa using unqualified, rfl⟩

theorem updateWhere_any (updated : store.updateWhere condition change = some result) :
    ∃ row ∈ store, condition row = true := by
  unfold Store.updateWhere at updated
  exact List.any_eq_true.mp (Option.ite_none_right_eq_some.mp updated).1

theorem updateWhere_none (refused : store.updateWhere condition change = none) :
    ∀ row ∈ store, condition row = false := by
  unfold Store.updateWhere at refused
  simpa using refused

theorem distinct_map {change : Row → Row} (distinct : store.Distinct)
    (keys : ∀ row, (change row).key = row.key) : Store.Distinct (store.map change) := by
  unfold Store.Distinct at distinct ⊢
  rw [List.map_map]
  exact (List.map_congr_left fun row _ => keys row) ▸ distinct

theorem listRecoveryVerificationPlans_distinct (distinct : store.Distinct) :
    Store.Distinct (listRecoveryVerificationPlans workspaceId clusterId limit store) := by
  refine List.Nodup.sublist ((List.take_sublist _ _).map Row.key) ?_
  rw [((List.perm_insertionSort _ _).map Row.key).nodup_iff]
  exact distinct.sublist (List.filter_sublist.map Row.key)

def Write.change (now : Int) (row : Row) : Write → Row
  | .update write =>
    if row.hasKey write.planId write.workspaceId && row.status ∈ write.expectedStatuses then
      row.withLifecycle write.status write.lifecycle write.clearSelection now
    else row
  | .reopen planId workspaceId actionId =>
    if row.hasKey planId workspaceId && row.status = .selected &&
        row.actionText = some actionId then
      row.reopen now
    else row

theorem updateWhere_getD (store : Store) (condition : Row → Bool) (change : Row → Row) :
    (store.updateWhere condition change).getD store =
      store.map fun row => if condition row then change row else row := by
  cases updated : store.updateWhere condition change with
  | some result => exact updateWhere_some updated
  | none =>
    symm
    refine (List.map_congr_left fun row member => ?_).trans (List.map_id store)
    rw [updateWhere_none updated row member]
    rfl

theorem Write.apply_eq (write : Write) (store : Store) :
    write.apply now store = store.map fun row => write.change now row := by
  cases write with
  | update => exact updateWhere_getD store _ _
  | reopen => exact updateWhere_getD store _ _

@[simp] theorem Write.change_key (write : Write) (row : Row) :
    (write.change now row).key = row.key := by
  unfold Write.change
  cases write with
  | update =>
    dsimp only
    split
    · exact withLifecycle_key row
    · rfl
  | reopen =>
    dsimp only
    split <;> rfl

theorem Write.change_other {row : Row} {write : Write} (other : row.key ≠ write.key) :
    write.change now row = row := by
  unfold Write.change
  cases write with
  | update =>
    refine if_neg fun changed => other ?_
    rw [Bool.and_eq_true] at changed
    exact hasKey_iff.mp changed.1
  | reopen =>
    refine if_neg fun changed => other ?_
    rw [Bool.and_eq_true, Bool.and_eq_true] at changed
    exact hasKey_iff.mp changed.1.1

theorem Write.apply_distinct (distinct : store.Distinct) (write : Write) :
    (write.apply now store).Distinct := by
  rw [write.apply_eq]
  exact distinct_map distinct fun row => write.change_key row

/-- Versions of a row that differ in nothing a handler decides on. -/
structure Row.Same (old row : Row) : Prop where
  key : old.key = row.key
  status : old.status = row.status
  selected : old.selectedActionId = row.selectedActionId
  lifecycle : old.lifecycle = row.lifecycle

/-- A row that a plan without a lifecycle has replaced, or that was inserted for it. -/
structure Row.Planned (row : Row) (key : String × String) (status : PlanStatus)
    (actionId : Option ActionId) : Prop where
  key : row.key = key
  status : row.status = status
  selected : row.selectedActionId = actionId
  lifecycle : row.lifecycle = none

/-- The command selects an action of the plan; a replayed plan does only while the
stored one is open or absent. -/
def Command.selects (store : Store) (key : String × String) : Command → Bool
  | .plan _ workspaceId body (some _) =>
    key = (body.planId.val, workspaceId) && store.all fun row => row.key ≠ key ||
      row.status = .selectionRequested
  | .select planId workspaceId _ _ _ => key = (planId, workspaceId)
  | _ => false

/-- How a row of the table after a command has come about. -/
inductive Command.Produces (now : Int) (store : Store) : Command → Row → Prop where
  | same {old row : Row} (member : old ∈ store)
      (same : old.Same row) : Produces now store command row
  | planned {row : Row}
      (isPlanned : row.Planned (body.planId.val, workspaceId) .selectionRequested none) :
      Produces now store (.plan correlationId workspaceId body none) row
  | autoSelected {row : Row}
      (isPlanned : row.Planned (body.planId.val, workspaceId) .selected (some choice.1))
      (others : ∀ other ∈ store, other.key = row.key → other.status = .selectionRequested) :
      Produces now store (.plan correlationId workspaceId body (some choice)) row
  | selected {old : Row} (member : old ∈ store) (key : old.key = (planId, workspaceId)) :
      Produces now store (.select planId workspaceId actionId selectedBy attemptId)
        (old.select actionId selectedBy attemptId now)
  | reopened {old : Row} (member : old ∈ store) :
      Produces now store (.reopen planId workspaceId actionId) (old.reopen now)
  | expired {old : Row} (member : old ∈ store) (expiring : isExpiring now limit store old = true) :
      Produces now store (.expire limit) (old.expire now)

section commands
variable {store next : Store} {old row : Row}

theorem Row.Same.refl (row : Row) : row.Same row := ⟨rfl, rfl, rfl, rfl⟩

theorem isExpiring_status (expiring : isExpiring now limit store row = true) :
    row.status = .verificationPending := by
  unfold isExpiring isOverdue at expiring
  simp only [Bool.and_eq_true, decide_eq_true_eq] at expiring
  exact expiring.1.1

theorem mem_monotonic_iff :
    status ∈ recoveryPlanMonotonicStatuses ↔ status ≠ .selectionRequested := by
  cases status <;> simp [recoveryPlanMonotonicStatuses]

theorem replay_cases (row : Row) (key : row.key = (plan.planId.val, workspaceId)) :
    row.Same (row.replay correlationId plan status actionId selectedBy now) ∨
      row.status = .selectionRequested ∧
      (row.replay correlationId plan status actionId selectedBy now).Planned
        (plan.planId.val, workspaceId) status actionId := by
  unfold Row.replay
  dsimp only
  split
  next => exact .inl ⟨rfl, rfl, rfl, rfl⟩
  next replaced =>
    rw [mem_monotonic_iff, not_not] at replaced
    exact .inr ⟨replaced, key, rfl, rfl, rfl⟩

/-- An upsert keeps a plan that is not open; any other it replaces or inserts. -/
theorem upsertRecoveryPlan_cases (distinct : store.Distinct)
    (updated : store.upsertRecoveryPlan correlationId workspaceId plan status actionId selectedBy
      now = some next)
    (member : row ∈ next) :
    (∃ old ∈ store, old.Same row) ∨
      row.Planned (plan.planId.val, workspaceId) status actionId ∧
        ∀ other ∈ store, other.key = row.key → other.status = .selectionRequested := by
  unfold Store.upsertRecoveryPlan at updated
  simp only [Option.ite_none_left_eq_some, Option.some.injEq] at updated
  obtain ⟨_, updated⟩ := updated
  cases replayed : store.updateWhere (Row.hasKey plan.planId.val workspaceId)
      (·.replay correlationId plan status actionId selectedBy now) with
  | some replaced =>
    rw [replayed, Option.getD_some] at updated
    subst updated
    obtain ⟨old, among, ⟨hasKey, rfl⟩ | ⟨_, rfl⟩⟩ := updateWhere_mem replayed member
    · obtain same | ⟨isOpen, planned⟩ := replay_cases old (hasKey_iff.mp hasKey)
      · exact .inl ⟨old, among, same⟩
      · refine .inr ⟨planned, fun other stored sameKey => ?_⟩
        obtain rfl := distinct.unique among stored ((replay_key old).symm.trans sameKey.symm)
        exact isOpen
    · exact .inl ⟨old, among, .refl old⟩
  | none =>
    rw [replayed, Option.getD_none] at updated
    subst updated
    obtain earlier | inserted := List.mem_append.mp member
    · exact .inl ⟨row, earlier, .refl row⟩
    · rw [List.mem_singleton] at inserted
      subst inserted
      refine .inr ⟨⟨rfl, rfl, rfl, rfl⟩, fun other stored sameKey => ?_⟩
      have present := hasKey_iff.mpr sameKey
      rw [updateWhere_none replayed other stored] at present
      cases present

theorem Command.run_produces (distinct : store.Distinct) (command : Command)
    (ran : command.run now store = some next) (member : row ∈ next) :
    command.Produces now store row := by
  cases command with
  | plan correlationId workspaceId body selection =>
    cases selection with
    | none =>
      obtain ⟨old, among, same⟩ | ⟨isPlanned, _⟩ := upsertRecoveryPlan_cases distinct ran member
      · exact .same among same
      · exact .planned isPlanned
    | some choice =>
      obtain ⟨old, among, same⟩ | ⟨isPlanned, others⟩ :=
        upsertRecoveryPlan_cases distinct ran member
      · exact .same among same
      · exact .autoSelected isPlanned others
  | select planId workspaceId actionId selectedBy attemptId =>
    obtain ⟨old, among, ⟨qualifies, rfl⟩ | ⟨_, rfl⟩⟩ := updateWhere_mem ran member
    · rw [Bool.and_eq_true] at qualifies
      exact .selected among (hasKey_iff.mp qualifies.1)
    · exact .same among (.refl old)
  | reopen planId workspaceId actionId =>
    obtain ⟨old, among, ⟨_, rfl⟩ | ⟨_, rfl⟩⟩ := updateWhere_mem ran member
    · exact .reopened among
    · exact .same among (.refl old)
  | expire limit =>
    cases ran
    obtain ⟨old, among, rfl⟩ := List.mem_map.mp member
    split
    next expiring => exact .expired among expiring
    next => exact .same among (.refl old)

end commands

end K8sOps.Rca
