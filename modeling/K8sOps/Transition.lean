import Mathlib.Logic.Basic
import Mathlib.Data.List.Basic

/-! Labeled transition systems given by a partial next-state function. A run
may be restricted to the steps that meet a condition on the state before the
step, so one relation serves both the unconditional invariants and the ones that
hold only under a stated contract. -/
namespace K8sOps.Transition
variable {S L V : Type}

/-- Unconditional steps. -/
def always (_ : S) (_ : L) : Prop := True

/-- One step of `next`, taken in a state that meets the condition `guard`. -/
def Step (next : S → L → Option S) (guard : S → L → Prop) (s : S) (label : L) (t : S) : Prop :=
  guard s label ∧ next s label = some t

inductive Run (step : S → L → S → Prop) : S → List L → S → Prop where
  | nil (s) : Run step s [] s
  | cons (first : step s label t) (later : Run step t labels u) : Run step s (label :: labels) u

/-- `P` survives every step from a state that has it. -/
def Stable (step : S → L → S → Prop) (P : S → Prop) : Prop :=
  ∀ ⦃s label t⦄, step s label t → P s → P t

namespace Run
variable {step : S → L → S → Prop} {P : S → Prop} {value : S → V}

theorem holds (stable : Stable step P) (run : Run step s labels t) (start : P s) : P t := by
  induction run with
  | nil => exact start
  | cons first _ later => exact later (stable first start)

end Run

instance (s : S) (label : L) : Decidable (always s label) := .isTrue trivial

/-- Run a list of labels, failing at the first one that is not enabled. -/
def execute (next : S → L → Option S) (guard : S → L → Prop)
    [∀ s label, Decidable (guard s label)] :
    S → List L → Option S
  | s, [] => some s
  | s, label :: labels =>
    if guard s label then (next s label).bind (execute next guard · labels) else none

theorem execute_run {next : S → L → Option S} {guard : S → L → Prop}
    [∀ s label, Decidable (guard s label)] (executed : execute next guard s labels = some t) :
    Run (Step next guard) s labels t := by
  induction labels generalizing s with
  | nil =>
    cases executed
    exact .nil _
  | cons label labels later =>
    obtain ⟨guarded, continued⟩ := Option.ite_none_right_eq_some.mp executed
    obtain ⟨middle, first, rest⟩ := Option.bind_eq_some_iff.mp continued
    exact .cons ⟨guarded, first⟩ (later rest)

end K8sOps.Transition
