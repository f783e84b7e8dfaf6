import K8sOps.Deferred
import K8sOps.Rca.Plan.Reachable

/-! Handlers that read a plan in one attempt and write in another. Selections and
retries open epochs of a plan; the lifecycle a handler stores belongs to the epoch it
read. The conditional update compares statuses, which recur, and not epochs. -/
namespace K8sOps.Rca
open Python Transition
variable (library : Library)

/-- The table with two counters for each plan that the program does not store: how
many selections and retries have taken effect, and how many of them had at the read
from which the stored lifecycle was computed. -/
structure Chronicle where
  store : Store
  epoch : String × String → Nat
  basis : String × String → Nat

def Chronicle.empty : Chronicle := ⟨[], fun _ => 0, fun _ => 0⟩

/-- A write that a handler has computed, with the epoch in which it read the plan. -/
structure PendingWrite where
  write : Write
  isRetry : Bool
  epoch : Nat

def Notice.isRetry : Notice → Bool
  | .retry .. => true
  | _ => false

/-- The write stores a lifecycle when it is made now. -/
def Write.stores (store : Store) : Write → Bool
  | .update write => store.any fun row =>
    row.hasKey write.planId write.workspaceId && row.status ∈ write.expectedStatuses
  | .reopen .. => false

def Command.expires (now : Int) (store : Store) (key : String × String) : Command → Bool
  | .expire limit => store.any fun row => row.key = key && isExpiring now limit store row
  | _ => false

namespace Chronicle

def read (chronicle : Chronicle) (request : Notice × Int) : List PendingWrite :=
  (request.1.writes library request.2 chronicle.store).map fun write =>
    ⟨write, request.1.isRetry, chronicle.epoch write.key⟩

/-- A retry that takes effect opens an epoch; any other lifecycle belongs to the epoch
of its read. -/
def write (chronicle : Chronicle) (task : PendingWrite) (now : Int) : Chronicle :=
  let stored (key : String × String) : Bool :=
    key = task.write.key && task.write.stores chronicle.store
  let epoch (key : String × String) : Nat :=
    if task.isRetry && stored key then chronicle.epoch key + 1 else chronicle.epoch key
  { store := task.write.apply now chronicle.store
    epoch
    basis := fun key =>
      if stored key then if task.isRetry then epoch key else task.epoch else chronicle.basis key }

/-- A selection opens an epoch; an expired verification is read and written at once. -/
def act (chronicle : Chronicle) (action : Command × Int) : Option Chronicle :=
  (action.1.run action.2 chronicle.store).map fun store =>
    let epoch (key : String × String) : Nat :=
      if action.1.selects chronicle.store key then chronicle.epoch key + 1 else chronicle.epoch key
    { store
      epoch
      basis := fun key =>
        if action.1.selects chronicle.store key ||
            action.1.expires action.2 chronicle.store key then epoch key
        else chronicle.basis key }

def machine : Deferred.Machine Chronicle PendingWrite (Notice × Int) Int (Command × Int) :=
  ⟨Chronicle.read library, Chronicle.write, Chronicle.act⟩

end Chronicle

/-- Between the read of a handler and its write, no selection or retry of the plan
has taken effect. -/
def Timely (state : Deferred.State Chronicle PendingWrite) :
    Deferred.Label (Notice × Int) Int (Command × Int) → Prop
  | .write index _ => ∀ task ∈ state.pending[index]?, task.epoch = state.shared.epoch task.write.key
  | _ => True

instance (state : Deferred.State Chronicle PendingWrite)
    (label : Deferred.Label (Notice × Int) Int (Command × Int)) :
    Decidable (Timely state label) := by
  unfold Timely
  cases label <;> infer_instance

/-- An attempt is one at the selected action. -/
def Row.Owns (row : Row) (attempt : Option Attempt) : Prop :=
  ∀ named, attempt = some named → row.selectedActionId = some named.actionId

/-- A row whose selection and attempt a command leaves as they were. -/
def Row.Keeps (old row : Row) : Prop :=
  old.key = row.key ∧ old.status ≠ .selectionRequested ∧
    old.selectedActionId = row.selectedActionId ∧ old.attempt = row.attempt

section commands
variable {store next : Store} {old row : Row}

theorem Row.Same.keeps (same : Row.Same old row) (notOpen : row.status ≠ .selectionRequested) :
    old.Keeps row := by
  refine ⟨same.key, same.status ▸ notOpen, same.selected, ?_⟩
  unfold Row.attempt
  rw [same.lifecycle]

theorem Row.Keeps.owns (keeps : Row.Keeps old row) (owns : old.Owns old.attempt) :
    row.Owns row.attempt := by
  obtain ⟨_, _, selected, attempt⟩ := keeps
  unfold Row.Owns at owns ⊢
  rwa [← selected, ← attempt]

theorem expire_keeps (expiring : isExpiring now limit store row = true) :
    row.Keeps (row.expire now) := by
  have notOpen : row.status ≠ .selectionRequested := by simp [isExpiring_status expiring]
  refine ⟨rfl, notOpen, rfl, ?_⟩
  unfold Row.attempt Row.expire expiredLifecycle
  cases row.lifecycle <;> rfl

theorem Command.Produces.cases (produced : Command.Produces now store command row)
    (notOpen : row.status ≠ .selectionRequested) :
    command.selects store row.key = true ∧ row.Owns row.attempt ∨ ∃ old ∈ store, old.Keeps row := by
  cases produced with
  | same member same => exact .inr ⟨_, member, same.keeps notOpen⟩
  | planned isPlanned => exact absurd isPlanned.status notOpen
  | autoSelected isPlanned others =>
    refine .inl ⟨?_, fun named impossible => ?_⟩
    · unfold Command.selects
      rw [Bool.and_eq_true, decide_eq_true_eq, List.all_eq_true]
      refine ⟨isPlanned.key, fun other stored => ?_⟩
      rw [Bool.or_eq_true, decide_eq_true_eq, decide_eq_true_eq]
      exact (Decidable.em (other.key = row.key)).elim (fun same =>
        .inr (others other stored same)) .inl
    · unfold Row.attempt at impossible
      rw [isPlanned.lifecycle] at impossible
      cases impossible
  | selected member key =>
    refine .inl ⟨decide_eq_true key, fun named attempt => ?_⟩
    cases attempt
    rfl
  | reopened => exact absurd rfl notOpen
  | expired member expiring => exact .inr ⟨_, member, expire_keeps expiring⟩

end commands

namespace Chronicle

/-- A plan that is not open is at an attempt of its own, from its present epoch. -/
structure Current (chronicle : Chronicle) : Prop where
  distinct : chronicle.store.Distinct
  owned : ∀ row ∈ chronicle.store, row.status ≠ .selectionRequested → row.Owns row.attempt
  present : ∀ row ∈ chronicle.store, row.status ≠ .selectionRequested →
    chronicle.basis row.key = chronicle.epoch row.key

/-- A pending write is refused by an open plan, and while the epoch of its read lasts
it carries an attempt at the selected action. -/
structure Fits (chronicle : Chronicle) (task : PendingWrite) : Prop where
  past : task.epoch ≤ chronicle.epoch task.write.key
  refused : ∀ update, task.write = .update update → .selectionRequested ∉ update.expectedStatuses
  cleared : ∀ update, task.write = .update update → update.clearSelection = true →
    update.status = .selectionRequested
  owned : ∀ update, task.write = .update update → task.epoch = chronicle.epoch task.write.key →
    ∀ row ∈ chronicle.store, row.key = task.write.key → row.status ≠ .selectionRequested →
      row.Owns update.lifecycle.attempt

/-- What a step leaves of the epochs and selections before it. -/
structure Follows (before after : Chronicle) : Prop where
  current : after.Current
  epochs : ∀ key, before.epoch key ≤ after.epoch key
  selection : ∀ row ∈ after.store, row.status ≠ .selectionRequested →
    after.epoch row.key = before.epoch row.key →
    ∃ old ∈ before.store, old.key = row.key ∧ old.status ≠ .selectionRequested ∧
      old.selectedActionId = row.selectedActionId

variable {chronicle before after : Chronicle}

/-- Whatever a step does, a pending write still fits. -/
theorem Follows.fits (follows : Follows before after)
    (fits : before.Fits task) : after.Fits task := by
  refine ⟨fits.past.trans (follows.epochs _), fits.refused, fits.cleared, ?_⟩
  intro update written same row member key notOpen
  have unchanged : after.epoch task.write.key = before.epoch task.write.key :=
    Nat.le_antisymm (same ▸ fits.past) (follows.epochs _)
  obtain ⟨old, among, sameKey, oldNotOpen, selected⟩ :=
    follows.selection row member notOpen (by rw [key, unchanged])
  have owns :=
    fits.owned update written (same.trans unchanged) old among (sameKey.trans key) oldNotOpen
  intro attempt named
  rw [← selected]
  exact owns attempt named

theorem read_fits (current : chronicle.Current) (member : task ∈ chronicle.read library request) :
    chronicle.Fits task := by
  obtain ⟨write, computed, rfl⟩ := List.mem_map.mp member
  obtain ⟨row, among, isFor, _⟩ := request.1.writes_for library computed
  cases write with
  | reopen planId workspaceId actionId =>
    have other : ∀ update, Write.reopen planId workspaceId actionId ≠ .update update :=
      fun _ => Write.noConfusion
    exact ⟨le_rfl, fun _ written => absurd written (other _),
      fun _ written => absurd written (other _), fun _ written => absurd written (other _)⟩
  | update update =>
    have isFor : update.For row := isFor
    have key : row.key = Write.key (.update update) := isFor.key
    refine ⟨le_rfl, ?_, ?_, ?_⟩
    · rintro _ ⟨⟩
      rw [isFor.expected]
      simpa using isFor.engaged.symm
    · rintro _ ⟨⟩
      exact isFor.cleared
    · rintro _ ⟨⟩ _ other stored sameKey _
      obtain rfl := current.distinct.unique among stored (key.trans sameKey.symm)
      obtain kept | ⟨attempt, retried, selected⟩ := isFor.attempt
      · rw [kept]
        exact current.owned row among isFor.engaged
      · intro named same
        cases retried.symm.trans same
        exact selected

theorem change_selection (current : chronicle.Current) (fits : chronicle.Fits task)
    (timely : task.epoch = chronicle.epoch task.write.key) (member : old ∈ chronicle.store)
    (notOpen : (task.write.change now old).status ≠ .selectionRequested) :
    old.status ≠ .selectionRequested ∧
      (task.write.change now old).selectedActionId = old.selectedActionId ∧
      (task.write.change now old).Owns (task.write.change now old).attempt := by
  cases written : task.write with
  | reopen planId workspaceId actionId =>
    rw [written] at notOpen
    unfold Write.change at notOpen ⊢
    dsimp only at notOpen ⊢
    split at notOpen
    next => exact absurd rfl notOpen
    next unchanged =>
      rw [if_neg unchanged]
      exact ⟨notOpen, rfl, current.owned old member notOpen⟩
  | update update =>
    rw [written] at notOpen
    unfold Write.change at notOpen ⊢
    dsimp only at notOpen ⊢
    split at notOpen
    next changed =>
      rw [if_pos changed]
      rw [Bool.and_eq_true, decide_eq_true_eq, hasKey_iff] at changed
      have oldNotOpen : old.status ≠ .selectionRequested := by
        intro isOpen
        exact fits.refused update written (isOpen ▸ changed.2)
      have keeps : update.clearSelection = false := by
        rw [Bool.eq_false_iff]
        intro clears
        refine notOpen (Eq.trans ?_ (fits.cleared update written clears))
        unfold Row.withLifecycle
        rw [clears]
        rfl
      have owns := fits.owned update written timely old member (written ▸ changed.1) oldNotOpen
      unfold Row.withLifecycle
      rw [keeps]
      exact ⟨oldNotOpen, rfl, owns⟩
    next unchanged =>
      rw [if_neg unchanged]
      exact ⟨notOpen, rfl, current.owned old member notOpen⟩

/-- A timely write leaves every plan with a lifecycle of its present epoch. -/
theorem write_follows (current : chronicle.Current) (fits : chronicle.Fits task)
    (timely : task.epoch = chronicle.epoch task.write.key) :
    Follows chronicle (chronicle.write task now) := by
  have origin : ∀ row ∈ (chronicle.write task now).store,
      ∃ old ∈ chronicle.store, task.write.change now old = row := by
    intro row member
    rw [show (chronicle.write task now).store = task.write.apply now chronicle.store from rfl,
      Write.apply_eq] at member
    exact List.mem_map.mp member
  refine ⟨⟨Write.apply_distinct current.distinct task.write, ?_, ?_⟩, ?_, ?_⟩
  · intro row member notOpen
    obtain ⟨old, among, rfl⟩ := origin row member
    exact (change_selection current fits timely among notOpen).2.2
  · intro row member notOpen
    obtain ⟨old, among, rfl⟩ := origin row member
    have present := current.present old among (change_selection current fits timely among notOpen).1
    rw [Write.change_key]
    unfold Chronicle.write
    cases stored : decide (old.key = task.write.key) && task.write.stores chronicle.store with
    | false => simpa [stored] using present
    | true =>
      cases task.isRetry with
      | true => simp [stored]
      | false =>
        rw [Bool.and_eq_true, decide_eq_true_eq] at stored
        simp [stored, timely]
  · intro key
    unfold Chronicle.write
    dsimp only
    split <;> omega
  · intro row member notOpen _
    obtain ⟨old, among, rfl⟩ := origin row member
    obtain ⟨oldNotOpen, selected, _⟩ := change_selection current fits timely among notOpen
    exact ⟨old, among, (Write.change_key _ old).symm, oldNotOpen, selected.symm⟩

theorem act_follows (current : chronicle.Current) (acted : chronicle.act action = some after) :
    Follows chronicle after := by
  obtain ⟨store, ran, rfl⟩ := Option.map_eq_some_iff.mp acted
  have distinct := action.1.run_distinct current.distinct ran
  have origin {row : Row} (member : row ∈ store) (notOpen : row.status ≠ .selectionRequested) :=
    (action.1.run_produces current.distinct ran member).cases notOpen
  refine ⟨⟨distinct, ?_, ?_⟩, ?_, ?_⟩
  · intro row member notOpen
    obtain ⟨_, owns⟩ | ⟨old, among, keeps⟩ := origin member notOpen
    · exact owns
    · exact keeps.owns (current.owned old among keeps.2.1)
  · intro row member notOpen
    dsimp only
    obtain ⟨selects, _⟩ | ⟨old, among, keeps⟩ := origin member notOpen
    · simp [selects]
    · have present := current.present old among keeps.2.1
      rw [keeps.1] at present
      cases selects : action.1.selects chronicle.store row.key <;>
        cases expires : action.1.expires action.2 chronicle.store row.key <;> simp [present]
  · intro key
    dsimp only
    split <;> omega
  · intro row member notOpen same
    dsimp only at same
    obtain ⟨selects, _⟩ | ⟨old, among, key, oldNotOpen, selected, _⟩ := origin member notOpen
    · rw [if_pos selects] at same
      omega
    · exact ⟨old, among, key, oldNotOpen, selected⟩

theorem machine_rule : Deferred.Rule (machine library) Timely Current Fits fun _ _ => True where
  symm _ _ _ := trivial
  apart _ _ _ _ := ⟨List.pairwise_of_forall fun _ _ => trivial, fun _ _ _ _ => trivial⟩
  read _ _ current _ member := read_fits library current member
  write _ _ _ task timely found current fits :=
    have follows := write_follows current fits (timely task found)
    ⟨follows.current, fun _ fits _ => follows.fits fits⟩
  act _ _ _ current acted :=
    have follows := act_follows current acted
    ⟨follows.current, fun _ fits => follows.fits fits⟩

theorem empty_current : Chronicle.empty.Current :=
  ⟨List.nodup_nil, by simp [empty], by simp [empty]⟩

end Chronicle

/-- A stale attempt never overwrites a newer one while handlers write in the epoch
they read: the attempt of every plan that is not open is at its selected action, and
its lifecycle comes from a read after the latest selection or retry. -/
theorem Chronicle.attempt_current {state : Deferred.State Chronicle PendingWrite}
    (run : Run (Step (Chronicle.machine library).next Timely) ⟨Chronicle.empty, []⟩ labels state) :
    ∀ row ∈ state.shared.store, row.status ≠ .selectionRequested →
      ∀ lifecycle attempt, row.lifecycle = some lifecycle → lifecycle.attempt = some attempt →
        row.selectedActionId = some attempt.actionId ∧
          state.shared.basis row.key = state.shared.epoch row.key := by
  have start : Deferred.Settled Chronicle.Current Chronicle.Fits (fun _ _ => True) ⟨Chronicle.empty,
      []⟩ :=
    ⟨Chronicle.empty_current, by simp, .nil⟩
  have current := (run.holds (Chronicle.machine_rule library).stable start).sound
  intro row member notOpen lifecycle attempt stored named
  refine ⟨current.owned row member notOpen attempt ?_, current.present row member notOpen⟩
  unfold Row.attempt
  rw [stored, Option.bind_some, named]

section sample

def sampleSelected : List (Deferred.Label (Notice × Int) Int (Command × Int)) := [
  .act (.plan "correlation-1" "workspace-1" samplePlan none, 0),
  .act (.select "plan-1" "workspace-1" sampleScale "operator" "attempt-1", 0),
  .read (.safePrCreated sampleSafePr "correlation-1" sampleApprovals sampleSources, 0)]

/-- What the table and the counters show of a plan. -/
structure Standing where
  status : PlanStatus
  selected : Option String
  attempted : Option String
  basis : Nat
  epoch : Nat
  deriving DecidableEq

def Chronicle.standings (chronicle : Chronicle) : List Standing :=
  chronicle.store.map fun row => ⟨row.status, row.actionText, row.attempt.map (·.actionId.val),
    chronicle.basis row.key, chronicle.epoch row.key⟩

end sample

/-- A Safe PR that is tracked in the epoch of its selection. -/
theorem Chronicle.attempt_current_tracked : ∃ state row lifecycle attempt,
    Run (Step (Chronicle.machine sampleLibrary).next Timely) ⟨Chronicle.empty, []⟩
        (sampleSelected ++ [.write 0 0]) state ∧
      row ∈ state.shared.store ∧ row.status = .prOpen ∧ row.lifecycle = some lifecycle ∧
      lifecycle.attempt = some attempt ∧ row.selectedActionId = some attempt.actionId ∧
      state.shared.basis row.key = state.shared.epoch row.key := by
  have executed : (execute (Chronicle.machine sampleLibrary).next Timely ⟨Chronicle.empty, []⟩
      (sampleSelected ++ [.write 0 0])).map (·.shared.standings) =
        some [⟨.prOpen, some "scale", some "scale", 1, 1⟩] := by
    decide +kernel
  obtain ⟨state, ran, standings⟩ := Option.map_eq_some_iff.mp executed
  obtain ⟨row, _, rows, shown, _⟩ := List.map_eq_cons_iff.mp standings
  simp only [Standing.mk.injEq] at shown
  obtain ⟨tracked, _, named, _⟩ := shown
  obtain ⟨attempt, present, _⟩ := Option.map_eq_some_iff.mp named
  obtain ⟨lifecycle, stored, attempted⟩ := Option.bind_eq_some_iff.mp present
  have member : row ∈ state.shared.store := rows ▸ List.mem_cons_self
  have run := execute_run ran
  exact ⟨state, row, lifecycle, attempt, run, member, tracked, stored, attempted,
    Chronicle.attempt_current sampleLibrary run row member (by simp [tracked]) lifecycle attempt
      stored attempted⟩

/-- A second PR event opens the plan again, another action is selected, and then the
first handler binds its PR: the plan names an attempt at the action before. -/
theorem Chronicle.attempt_stale : ∃ state,
    Run (Step (Chronicle.machine sampleLibrary).next always) ⟨Chronicle.empty, []⟩
        (sampleSelected ++ [
          .read (.safePrCreated { sampleSafePr with headSha := "" } "correlation-1" sampleApprovals
            sampleSources, 0),
          .write 0 0,
          .act (.select "plan-1" "workspace-1" sampleRestart "operator" "attempt-2", 0),
          .write 0 0]) state ∧
      state.shared.standings = [⟨.prOpen, some "restart", some "scale", 1, 2⟩] := by
  have executed : (execute (Chronicle.machine sampleLibrary).next always ⟨Chronicle.empty, []⟩
      (sampleSelected ++ [
        .read (.safePrCreated { sampleSafePr with headSha := "" } "correlation-1" sampleApprovals
          sampleSources, 0),
        .write 0 0,
        .act (.select "plan-1" "workspace-1" sampleRestart "operator" "attempt-2", 0),
        .write 0 0])).map (·.shared.standings) =
      some [⟨.prOpen, some "restart", some "scale", 1, 2⟩] := by
    decide +kernel
  obtain ⟨state, ran, standings⟩ := Option.map_eq_some_iff.mp executed
  exact ⟨state, execute_run ran, standings⟩

end K8sOps.Rca
