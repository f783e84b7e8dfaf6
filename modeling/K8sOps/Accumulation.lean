import Mathlib.Algebra.BigOperators.Group.List.Basic
import K8sOps.Results

/-! Loops that only add to what they have collected. Such a loop fails, or adds the same,
whatever was collected before, so its result is the sum of what the items hold. -/
namespace K8sOps
variable {M : Type} [AddMonoid M]

/-- The item's part is added, or its failure raised, whatever was collected before. -/
def Accumulates (step : M → α → Except ε M) : Prop :=
  ∀ collected item, step collected item = (step 0 item).map (collected + ·)

/-- The same for a step that cannot fail. -/
def Adds (step : M → α → M) : Prop :=
  ∀ collected item, step collected item = collected + step 0 item

namespace Adds

theorem ok {step : M → α → M} (adds : Adds step) :
    Accumulates fun collected item => (.ok (step collected item) : Except ε M) :=
  fun collected item => congrArg Except.ok (adds collected item)

theorem comp {step : M → β → M} (adds : Adds step) (read : α → β) :
    Adds fun collected item => step collected (read item) :=
  fun collected item => adds collected (read item)

theorem next {first second : M → α → M} (earlier : Adds first) (later : Adds second) :
    Adds fun collected item => second (first collected item) item := by
  intro collected item
  calc second (first collected item) item
      = first collected item + second 0 item := later _ _
    _ = collected + (first 0 item + second 0 item) := by rw [earlier, add_assoc]
    _ = collected + second (first 0 item) item := by rw [← later]

theorem foldl {step : M → α → M} (adds : Adds step) :
    Adds fun collected items => List.foldl step collected items := by
  intro collected items
  induction items generalizing collected with
  | nil => exact (add_zero collected).symm
  | cons item items ih =>
    calc items.foldl step (step collected item)
        = step collected item + items.foldl step 0 := ih _
      _ = collected + (step 0 item + items.foldl step 0) := by rw [adds, add_assoc]
      _ = collected + items.foldl step (step 0 item) := by rw [← ih]

end Adds

namespace Accumulates
variable {step : M → α → Except ε M}

theorem ok_iff (accumulates : Accumulates step) :
    step collected item = .ok result ↔
    ∃ part, step 0 item = .ok part ∧ result = collected + part := by
  rw [accumulates]
  cases step 0 item with
  | error => simp [Except.map]
  | ok part => simp [Except.map, eq_comm]

theorem comp {step : M → β → Except ε M} (accumulates : Accumulates step) (read : α → β) :
    Accumulates fun collected item => step collected (read item) :=
  fun collected item => accumulates collected (read item)

theorem next {second : M → α → Except ε M} (earlier : Accumulates step)
    (later : Accumulates second) :
    Accumulates fun collected item => step collected item >>= (second · item) := by
  intro collected item
  dsimp only
  rw [earlier collected]
  cases step 0 item with
  | error => rfl
  | ok part =>
    change second (collected + part) item = (second part item).map (collected + ·)
    rw [later (collected + part), later part]
    cases second 0 item with
    | error => rfl
    | ok more => exact congrArg Except.ok (add_assoc collected part more)

theorem foldlM (accumulates : Accumulates step) :
    Accumulates fun collected items => List.foldlM step collected items := by
  intro collected items
  induction items generalizing collected with
  | nil => exact congrArg Except.ok (add_zero collected).symm
  | cons item items ih =>
    dsimp only at ih ⊢
    rw [List.foldlM_cons, List.foldlM_cons, accumulates collected]
    cases step 0 item with
    | error => rfl
    | ok part =>
      change items.foldlM step (collected + part) = (items.foldlM step part).map (collected + ·)
      rw [ih (collected + part), ih part]
      cases items.foldlM step 0 with
      | error => rfl
      | ok more => exact congrArg Except.ok (add_assoc collected part more)

/-- The loop collects the sum of the parts, one for each item. -/
theorem foldlM_ok (accumulates : Accumulates step) {items : List α} :
    items.foldlM step 0 = .ok result ↔
    ∃ parts, List.Forall₂ (fun item part => step 0 item = .ok part) items parts ∧
      result = parts.sum := by
  induction items generalizing result with
  | nil => simp [pure, Except.pure, eq_comm]
  | cons item items ih =>
    rw [List.foldlM_cons, bind_eq_ok]
    constructor
    · rintro ⟨part, found, done⟩
      obtain ⟨rest, later, rfl⟩ := accumulates.foldlM.ok_iff.mp done
      obtain ⟨parts, each, rfl⟩ := ih.mp later
      exact ⟨part :: parts, .cons found each, List.sum_cons.symm⟩
    · rintro ⟨parts, each, rfl⟩
      cases each with
      | cons found each =>
        refine ⟨_, found, accumulates.foldlM.ok_iff.mpr ⟨_, ih.mpr ⟨_, each, rfl⟩, List.sum_cons⟩⟩

theorem foldlM_isOk (accumulates : Accumulates step) {items : List α} :
    (∃ result, items.foldlM step 0 = .ok result) ↔
    ∀ item ∈ items, ∃ part, step 0 item = .ok part := by
  rw [← mapM_isOk]
  constructor
  · rintro ⟨_, done⟩
    obtain ⟨parts, each, _⟩ := accumulates.foldlM_ok.mp done
    exact ⟨parts, mapM_ok_iff.mpr each⟩
  · rintro ⟨parts, mapped⟩
    exact ⟨_, accumulates.foldlM_ok.mpr ⟨parts, mapM_ok_iff.mp mapped, rfl⟩⟩

end Accumulates

section emission
variable {State Item Output : Type} {push : Output → Item → Except ε Output}
  {step : State → α → Except ε State} {output : State → Output}
  {emitted : State → List α → List Item} {ready : State → List α → Prop}

/-- The step pushes items that do not depend on what was pushed before. -/
def Emits (push : Output → Item → Except ε Output) (step : State → α → Except ε State)
    (output : State → Output) (emitted : State → List α → List Item)
    (ready : State → List α → Prop) : Prop :=
  ∀ state first rest, ready state (first :: rest) → ∃ items build,
    step state first = (items.foldlM push (output state)).map build ∧
    ∀ pushed, output (build pushed) = pushed ∧ ready (build pushed) rest ∧
      emitted state (first :: rest) = items ++ emitted (build pushed) rest

theorem Emits.foldlM (emits : Emits push step output emitted ready)
    (nothing : ∀ state, emitted state [] = []) {state : State} {inputs : List α}
    (start : ready state inputs) :
    (inputs.foldlM step state).map output = (emitted state inputs).foldlM push (output state) := by
  induction inputs generalizing state with
  | nil =>
    rw [nothing]
    rfl
  | cons first rest ih =>
    obtain ⟨items, build, stepped, later⟩ := emits state first rest start
    rw [List.foldlM_cons, stepped]
    cases pushed : items.foldlM push (output state) with
    | error error =>
      obtain ⟨_, _, same⟩ := later (output state)
      rw [same, List.foldlM_append, pushed]
      rfl
    | ok total =>
      obtain ⟨shown, continued, same⟩ := later total
      rw [same, List.foldlM_append, pushed]
      change (rest.foldlM step (build total)).map output =
        (emitted (build total) rest).foldlM push total
      rw [ih continued, shown]

end emission

end K8sOps
