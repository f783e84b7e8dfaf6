import K8sOps.Deferred
import K8sOps.Rca.Plan.Reachable

/-! Handlers of different evidence windows that interleave. Each one reads the
pending verifications, judges them and writes its verdicts later, on the condition
that the status is still the one it read; the verdict itself leaves that status. -/
namespace K8sOps.Rca
open Python Transition Streak
variable (library : Library)

/-- An evidence window, with what its handler reads outside the table of plans. -/
structure EvidenceRequest where
  workspaceId : String
  clusterId : String
  evidenceKey : String
  evidence : Option Entries
  alerts : Row → List Entries
  now : Int

/-- The judgement of a window on a plan as it was read. -/
structure Judgement where
  row : Row
  evidence : Entries
  evidenceKey : String
  alerts : Row → List Entries
  now : Int

def Judgement.write (judgement : Judgement) : Write :=
  judgeRow library judgement.evidence judgement.evidenceKey judgement.alerts
    judgement.now judgement.row

def EvidenceRequest.judgements (request : EvidenceRequest) (store : Store) : List Judgement :=
  match request.evidence with
  | none => []
  | some evidence =>
    if request.evidenceKey = "" then []
    else (listRecoveryVerificationPlans request.workspaceId request.clusterId 100 store).map
      fun row =>
      ⟨row, evidence, request.evidenceKey, request.alerts, request.now⟩

def evidenceMachine : Deferred.Machine Store Judgement EvidenceRequest Int Empty where
  read store request := request.judgements store
  write store judgement now := (judgement.write library).apply now store
  act _ action := nomatch action

/-- A handler reads a plan only while no other handler is between its read of that
plan and its write. -/
def Alone (state : Deferred.State Store Judgement) : Deferred.Label EvidenceRequest Int Empty → Prop
  | .read request =>
    ∀ row ∈ listRecoveryVerificationPlans request.workspaceId request.clusterId 100 state.shared,
      ∀ judgement ∈ state.pending, row.key ≠ judgement.row.key
  | _ => True

instance (state : Deferred.State Store Judgement)
    (label : Deferred.Label EvidenceRequest Int Empty) :
    Decidable (Alone state label) := by
  unfold Alone
  cases label <;> infer_instance

theorem judgements_listed {request : EvidenceRequest}
    (member : judgement ∈ request.judgements store) :
    judgement.row ∈ listRecoveryVerificationPlans request.workspaceId
      request.clusterId 100 store := by
  unfold EvidenceRequest.judgements at member
  split at member
  next => cases member
  next =>
    split at member
    next => cases member
    next =>
      obtain ⟨row, listed, rfl⟩ := List.mem_map.mp member
      exact listed

theorem judgements_apart {store : Store} (distinct : store.Distinct) (request : EvidenceRequest) :
    (request.judgements store).Pairwise fun one two => one.row.key ≠ two.row.key := by
  unfold EvidenceRequest.judgements
  split
  next => exact .nil
  next =>
    split
    next => exact .nil
    next =>
      exact List.pairwise_map.mpr (List.pairwise_map.mp
        (listRecoveryVerificationPlans_distinct distinct))

theorem evidenceMachine_rule : Deferred.Rule (evidenceMachine library) Alone Store.Distinct
    (fun store judgement => judgement.row ∈ store) (fun one two => one.row.key ≠ two.row.key) where
  symm _ _ different := different.symm
  apart state request alone distinct :=
    ⟨judgements_apart distinct request, fun _ member => alone _ (judgements_listed member)⟩
  read store request _ judgement member :=
    (listRecoveryVerificationPlans_mem (judgements_listed member)).1
  write state index now judgement _ _ distinct _ := by
    refine ⟨Write.apply_distinct distinct (judgement.write library),
      fun other present different => ?_⟩
    have kept :=
      List.mem_map_of_mem (f := fun row => (judgement.write library).change now row) present
    rw [← Write.apply_eq, Write.change_other different.symm] at kept
    exact kept
  act _ action := nomatch action

/-- The stretch of healthy windows that the stored verification of a plan shows. -/
def Row.clock (row : Row) : Option Clock := (row.lifecycle.bind (·.verification)).map (·.clock)

/-- Judged on a plan whose stretch was cleared, a window completes nothing and stores
at most a stretch of its own. -/
theorem judgeRow_cleared {evidenceKey : String} (cleared : row.clock = some .empty) :
    ∃ update verification, judgeRow library evidence evidenceKey alerts now row = .update update ∧
      update.status ≠ .completed ∧ update.lifecycle.verification = some verification ∧
      (verification.clock = .empty ∨
        ∃ start, library.codec.parseDatetime (getOrNone "window_start" evidence) = some start ∧
          verification.clock = ⟨some start, some start, 1⟩) := by
  obtain ⟨verification, stored, isEmpty⟩ := Option.map_eq_some_iff.mp cleared
  obtain ⟨lifecycle, present, verified⟩ := Option.bind_eq_some_iff.mp stored
  obtain ⟨incomplete, clock⟩ :=
    judge_cleared library.codec row.document isEmpty ⟨evidence, alerts row, now⟩
  refine ⟨_, _, rfl, ?_, rfl, ?_⟩
  · rw [present, Option.getD_some, verified, Option.getD_some]
    revert incomplete
    unfold judge verdictStatus
    cases (evaluateRecoveryEvidence library.codec row.document verification evidence
      (alerts row) now).status <;>
      simp
  · rw [present, Option.getD_some, verified, Option.getD_some]
    exact clock

/-- No reset is lost while each plan is judged by one handler at a time: every
pending verdict is the one on the plan as it is stored now. After a stored verdict
has cleared the stretch, none of them completes the plan or carries the old stretch. -/
theorem evidence_no_lost_reset {system : System}
    (reached : Run (Step (System.next library) always) System.empty labels system)
    (run : Run (Step (evidenceMachine library).next Alone) ⟨system.store, []⟩ steps state) :
    ∀ judgement ∈ state.pending, ∀ row ∈ state.shared, row.key = judgement.row.key →
      row.lifecycle = judgement.row.lifecycle ∧
      judgement.write library =
        judgeRow library judgement.evidence judgement.evidenceKey judgement.alerts
          judgement.now row ∧
      (row.clock = some .empty → ∃ update verification, judgement.write library = .update update ∧
        update.status ≠ .completed ∧ update.lifecycle.verification = some verification ∧
        (verification.clock = .empty ∨ ∃ start,
          library.codec.parseDatetime (getOrNone "window_start" judgement.evidence) = some start ∧
            verification.clock = ⟨some start, some start, 1⟩)) := by
  have promising := reached.holds (System.promising_stable library) System.empty_promising
  have start : Deferred.Settled Store.Distinct (fun store judgement => judgement.row ∈ store)
      (fun (one two : Judgement) => one.row.key ≠ two.row.key) ⟨system.store, []⟩ :=
    ⟨promising.distinct, by simp, .nil⟩
  have settled := run.holds (evidenceMachine_rule library).stable start
  intro judgement member row present sameKey
  have same : row = judgement.row :=
    settled.sound.unique present (settled.fresh judgement member) sameKey
  have written : judgement.write library =
      judgeRow library judgement.evidence judgement.evidenceKey judgement.alerts
        judgement.now row := by
    rw [same]
    rfl
  refine ⟨by rw [same], written, fun cleared => ?_⟩
  rw [written]
  exact judgeRow_cleared library cleared

section sample

/-- A window between the two healthy ones, in which requests fail. -/
def sampleRegressed : Delivery :=
  ⟨sampleEvidence "window-1a" "2026-07-01T00:02:30+00:00" 5, [sampleAlert], 311 * second⟩

def sampleRequest (delivery : Delivery) (key : String) : EvidenceRequest :=
  ⟨"workspace-1", "blue", key, some delivery.evidence, fun _ => delivery.alerts, delivery.now⟩

end sample

/-- Handlers that take turns: the regression clears the stretch, and the healthy
window that is read next does not complete the plan. -/
theorem evidence_no_lost_reset_in_turn : ∃ system state judgement row update,
    Run (Step (System.next sampleLibrary) always) System.empty (sampleRecovery.take 6) system ∧
      Run (Step (evidenceMachine sampleLibrary).next Alone) ⟨system.store, []⟩
        [.read (sampleRequest sampleRegressed "window-1a"), .write 0 (312 * second),
          .read (sampleRequest sampleSecond "window-2")] state ∧
      judgement ∈ state.pending ∧ row ∈ state.shared ∧ row.clock = some .empty ∧
      judgement.write sampleLibrary = .update update ∧ update.status ≠ .completed := by
  have executed :
      ((execute (System.next sampleLibrary) always System.empty (sampleRecovery.take 6)).bind
      fun system => (execute (evidenceMachine sampleLibrary).next Alone ⟨system.store, []⟩
        [.read (sampleRequest sampleRegressed "window-1a"), .write 0 (312 * second),
          .read (sampleRequest sampleSecond "window-2")]).map fun state =>
            (state.pending.map (·.row.key), state.shared.map fun row => (row.key, row.clock))) =
      some ([("plan-1", "workspace-1")], [(("plan-1", "workspace-1"), some .empty)]) := by
    decide +kernel
  obtain ⟨system, reached, continued⟩ := Option.bind_eq_some_iff.mp executed
  obtain ⟨state, ran, found⟩ := Option.map_eq_some_iff.mp continued
  obtain ⟨pending, rows⟩ := Prod.mk.injEq .. ▸ found
  obtain ⟨judgement, _, tasks, judgementKey, _⟩ := List.map_eq_cons_iff.mp pending
  obtain ⟨row, _, stored, columns, _⟩ := List.map_eq_cons_iff.mp rows
  obtain ⟨rowKey, cleared⟩ := Prod.mk.injEq .. ▸ columns
  have member : judgement ∈ state.pending := tasks ▸ List.mem_cons_self
  have present : row ∈ state.shared := stored ▸ List.mem_cons_self
  obtain ⟨_, _, reset⟩ :=
    evidence_no_lost_reset sampleLibrary (execute_run reached) (execute_run ran)
    judgement member row present (rowKey.trans judgementKey.symm)
  obtain ⟨update, _, written, incomplete, _⟩ := reset cleared
  exact ⟨system, state, judgement, row, update, execute_run reached, execute_run ran,
    member, present, cleared, written, incomplete⟩

/-- Two handlers that overlap. The healthy window reads the plan, the regression
clears its stretch, and then the healthy window completes it with the old stretch. -/
theorem evidence_reset_lost : ∃ system before after,
    Run (Step (System.next sampleLibrary) always) System.empty (sampleRecovery.take 6) system ∧
      Run (Step (evidenceMachine sampleLibrary).next always) ⟨system.store, []⟩
        [.read (sampleRequest sampleSecond "window-2"),
          .read (sampleRequest sampleRegressed "window-1a"), .write 0 (312 * second)] before ∧
      before.shared.map (fun row => (row.status, row.clock)) =
        [(.verificationPending, some .empty)] ∧
      Run (Step (evidenceMachine sampleLibrary).next always) before
        [.write 0 (313 * second)] after ∧
      after.shared.map (fun row => (row.status, row.clock)) =
        [(.completed, some ⟨some 0, some (300 * second), 2⟩)] := by
  have executed :
      ((execute (System.next sampleLibrary) always System.empty (sampleRecovery.take 6)).bind
      fun system => (execute (evidenceMachine sampleLibrary).next always ⟨system.store, []⟩
        [.read (sampleRequest sampleSecond "window-2"),
          .read (sampleRequest sampleRegressed "window-1a"), .write 0 (312 * second)]).bind
            fun before =>
        (execute (evidenceMachine sampleLibrary).next always before [.write 0 (313 * second)]).map
          fun after =>
          (before.shared.map fun row => (row.status, row.clock),
            after.shared.map fun row => (row.status, row.clock))) =
      some ([(.verificationPending, some .empty)],
        [(.completed, some ⟨some 0, some (300 * second), 2⟩)]) := by
    decide +kernel
  obtain ⟨system, reached, continued⟩ := Option.bind_eq_some_iff.mp executed
  obtain ⟨before, raced, continued⟩ := Option.bind_eq_some_iff.mp continued
  obtain ⟨after, written, found⟩ := Option.map_eq_some_iff.mp continued
  obtain ⟨reset, lost⟩ := Prod.mk.injEq .. ▸ found
  exact ⟨system, before, after, execute_run reached, execute_run raced, reset,
    execute_run written, lost⟩

end K8sOps.Rca
