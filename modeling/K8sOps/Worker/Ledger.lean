import Mathlib.Data.List.Basic

/-! The idempotency ledger of one `(event_id, consumer)` pair: the row that
`EventRepository` keeps in `event_processing` and the four statements that touch
it. Times are database seconds; `now` is the statement's `func.now()`. -/
namespace K8sOps.Worker

inductive EventProcessingStatus where
  | processing
  | processed
  | retrying
  | deadLettered
  deriving DecidableEq, Repr

def terminalStatuses : List EventProcessingStatus := [.processed, .deadLettered]

structure EventProcessing where
  status : EventProcessingStatus
  attempts : Nat
  lastError : Option String
  processingDurationMs : Option Nat
  updatedAt : Int
  deriving DecidableEq, Repr

namespace EventProcessing

def terminal (row : EventProcessing) : Prop := row.status ∈ terminalStatuses

instance (row : EventProcessing) : Decidable row.terminal :=
  inferInstanceAs (Decidable (_ ∈ terminalStatuses))

/-- The freshness window of a claim has passed: `updated_at < now() - interval`. -/
def stale (staleSeconds now : Int) (row : EventProcessing) : Prop :=
  row.updatedAt < now - staleSeconds

instance (staleSeconds now : Int) (row : EventProcessing) :
    Decidable (row.stale staleSeconds now) :=
  inferInstanceAs (Decidable (_ < _))

end EventProcessing

/-- What `begin_event_processing` reports: the status of a row, or one of the
two derived signals that are never stored. -/
inductive ClaimStatus where
  | row (status : EventProcessingStatus)
  | claimBlocked
  | unknown
  deriving DecidableEq, Repr

structure EventProcessingRecord where
  status : ClaimStatus
  attempts : Nat
  deriving DecidableEq, Repr

/-- The single atomic upsert: it returns the claimed row, or nothing when the
row is terminal or another claim is still fresh. -/
def claimEventProcessing (staleSeconds now : Int) : Option EventProcessing → Option EventProcessing
  | none => some ⟨.processing, 1, none, none, now⟩
  | some row =>
    if ¬ row.terminal ∧ (row.status ≠ .processing ∨ row.stale staleSeconds now) then
      some { row with
        attempts := row.attempts + 1, status := .processing, lastError := none, updatedAt := now }
    else none

/-- `begin_event_processing`: the reported record and the row left behind. -/
def beginEventProcessing (staleSeconds now : Int) (row : Option EventProcessing) :
    EventProcessingRecord × Option EventProcessing :=
  match claimEventProcessing staleSeconds now row with
  | some claimed => (⟨.row claimed.status, claimed.attempts⟩, some claimed)
  | none =>
    match row with
    | some existing =>
      if existing.status = .processing then (⟨.claimBlocked, existing.attempts⟩, row)
      else (⟨.row existing.status, existing.attempts⟩, row)
    | none => (⟨.unknown, 0⟩, row)

/-- `finish_event_processing`: an update without a status predicate. -/
def finishEventProcessing (now : Int) (durationMs : Option Nat) (row : EventProcessing) :
    EventProcessing :=
  { row with
    status := .processed, lastError := none, updatedAt := now,
    processingDurationMs := durationMs.or row.processingDurationMs }

/-- `compact_error`: the first `ERROR_MESSAGE_LIMIT` characters of the message. -/
def compactError (error : String) : String := String.ofList (error.toList.take 2000)

/-- `fail_event_processing`: the same unguarded update with a chosen status. -/
def failEventProcessing (now : Int) (error : String) (status : EventProcessingStatus)
    (durationMs : Option Nat) (row : EventProcessing) : EventProcessing :=
  { row with
    status := status, lastError := some (compactError error), updatedAt := now,
    processingDurationMs := durationMs.or row.processingDurationMs }

theorem claim_spec (claimed : claimEventProcessing staleSeconds now row = some result) :
    result.status = .processing ∧ result.updatedAt = now ∧
      (∀ previous, row = some previous → result.attempts = previous.attempts + 1 ∧
        ¬ previous.terminal ∧
        (previous.status ≠ .processing ∨ previous.stale staleSeconds now)) := by
  cases row with
  | none =>
    cases claimed
    exact ⟨rfl, rfl, fun previous absent => by contradiction⟩
  | some previous =>
    simp only [claimEventProcessing, Option.ite_none_right_eq_some, Option.some.injEq] at claimed
    obtain ⟨allowed, rfl⟩ := claimed
    refine ⟨rfl, rfl, ?_⟩
    intro row same
    cases same
    exact ⟨rfl, allowed⟩

/-- The record says `processing` exactly when this call made the claim; in every
other case the row is left as it was. -/
theorem begin_cases (staleSeconds now : Int) (row : Option EventProcessing) :
    (∃ claimed, claimEventProcessing staleSeconds now row = some claimed ∧
      beginEventProcessing staleSeconds now row =
        (⟨.row .processing, claimed.attempts⟩, some claimed)) ∨
    (∃ existing, row = some existing ∧ existing.terminal ∧
      beginEventProcessing staleSeconds now row =
        (⟨.row existing.status, existing.attempts⟩, row)) ∨
    (∃ existing, row = some existing ∧ existing.status = .processing ∧
      beginEventProcessing staleSeconds now row = (⟨.claimBlocked, existing.attempts⟩, row)) := by
  cases claim : claimEventProcessing staleSeconds now row with
  | some claimed =>
    have processing := (claim_spec claim).1
    exact .inl ⟨claimed, rfl, by simp only [beginEventProcessing, claim, processing]⟩
  | none =>
    cases row with
    | none => simp [claimEventProcessing] at claim
    | some existing =>
      by_cases processing : existing.status = .processing
      · exact .inr (.inr ⟨existing, rfl, processing, by
          simp only [beginEventProcessing, claim, processing, if_true]⟩)
      · have terminal : existing.terminal := by
          by_contra open_
          simp [claimEventProcessing, open_, processing] at claim
        exact .inr (.inl ⟨existing, rfl, terminal, by
          simp only [beginEventProcessing, claim, processing, if_false]⟩)

end K8sOps.Worker
