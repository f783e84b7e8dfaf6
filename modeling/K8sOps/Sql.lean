import Mathlib.Data.List.Basic
import Mathlib.Logic.Basic
import Mathlib.Logic.Function.Basic

/-! The parts of SQL that conditional updates are written in: conditions with three
truth values over nullable columns, and inserts that meet a row with the same key. -/
namespace K8sOps.Sql

/-- A truth value; `none` is `NULL`. -/
abbrev Truth := Option Bool

/-- `AND`: false decides even against `NULL`. -/
def and : Truth → Truth → Truth
  | some false, _ | _, some false => some false
  | some true, some true => some true
  | _, _ => none

/-- `OR`: true decides even against `NULL`. -/
def or : Truth → Truth → Truth
  | some true, _ | _, some true => some true
  | some false, some false => some false
  | _, _ => none

def not (condition : Truth) : Truth := condition.map Bool.not

/-- `left = right`. -/
def eq [DecidableEq α] (left right : Option α) : Truth :=
  match left, right with
  | some left, some right => some (left = right)
  | _, _ => none

/-- `left <> right`. -/
def ne [DecidableEq α] (left right : Option α) : Truth :=
  match left, right with
  | some left, some right => some (left ≠ right)
  | _, _ => none

/-- `column IN (values)`, for at least one value. -/
def inList [DecidableEq α] (column : Option α) (values : List α) :
    Truth := column.map fun found => values.contains found

/-- `and_(*conditions)`. -/
def conjunction (conditions : List Truth) : Truth := conditions.foldr and (some true)

/-- `or_(*conditions)`; without a condition nothing is asked. -/
def disjunction : List Truth → Truth
  | [] => some true
  | condition :: conditions => conditions.foldl or condition

/-- `column IS NOT NULL`, which is never `NULL` itself. -/
def isNotNull (column : Option α) : Truth := some column.isSome

/-- `CASE WHEN condition THEN result ELSE otherwise END`. -/
def case (condition : Truth) (result otherwise : α) :
    α := if condition = some true then result else otherwise

/-- `COALESCE(first, second)`. -/
def coalesce (first second : Option α) : Option α := first.or second

@[simp] theorem case_true (result otherwise : α) : case (some true) result otherwise = result := rfl

@[simp] theorem case_false (result otherwise : α) :
    case (some false) result otherwise = otherwise := rfl

@[simp] theorem and_some (left right : Bool) :
    and (some left) (some right) = some (left && right) := by
  cases left <;> cases right <;> rfl

@[simp] theorem and_true_iff {left right : Truth} :
    and left right = some true ↔ left = some true ∧ right = some true := by
  rcases left with _ | _ | _ <;> rcases right with _ | _ | _ <;> decide

@[simp] theorem not_true_iff {condition : Truth} :
    not condition = some true ↔ condition = some false := by
  rcases condition with _ | _ | _ <;> decide

@[simp] theorem or_true_iff {left right : Truth} :
    or left right = some true ↔ left = some true ∨ right = some true := by
  rcases left with _ | _ | _ <;> rcases right with _ | _ | _ <;> decide

@[simp] theorem eq_true_iff [DecidableEq α] {left right : Option α} :
    eq left right = some true ↔ left.isSome = true ∧ left = right := by
  cases left <;> cases right <;> simp [eq]

@[simp] theorem ne_true_iff [DecidableEq α] {left right : α} :
    ne (some left) (some right) = some true ↔ left ≠ right := by
  simp [ne]

theorem inList_true_iff [DecidableEq α] {column : Option α} {values : List α} :
    inList column values = some true ↔ ∃ found, column = some found ∧ found ∈ values := by
  cases column <;> simp [inList]

theorem conjunction_true_iff {conditions : List Truth} :
    conjunction conditions = some true ↔ ∀ condition ∈ conditions, condition = some true := by
  induction conditions with
  | nil => simp [conjunction]
  | cons condition conditions ih =>
    unfold conjunction at ih ⊢
    rw [List.foldr_cons, and_true_iff, ih, List.forall_mem_cons]

theorem disjunction_true_iff {conditions : List Truth} (some_condition : conditions ≠ []) :
    disjunction conditions = some true ↔ ∃ condition ∈ conditions, condition = some true := by
  obtain ⟨first, rest, rfl⟩ := List.exists_cons_of_ne_nil some_condition
  change rest.foldl or first = some true ↔ _
  clear some_condition
  induction rest generalizing first with
  | nil => simp [eq_comm]
  | cons second rest ih =>
    rw [List.foldl_cons, ih (or first second)]
    simp only [List.mem_cons, or_and_right, exists_or, exists_eq_left, or_true_iff, or_assoc]

/-- Two columns that are both set and differ. A `NULL` on either side makes it false, not
unknown, since the guards decide first. -/
def changed [DecidableEq α] (left right : Option α) : Truth :=
  and (and (isNotNull left) (isNotNull right)) (ne left right)

theorem changed_eq [DecidableEq α] (left right : Option α) : changed left right =
    some (left.isSome && right.isSome && decide (left ≠ right)) := by
  cases left with
  | none => cases right <;> rfl
  | some left =>
    cases right with
    | none => rfl
    | some right => simp [changed, isNotNull, ne]

/-- The rows of a table with a primary key. -/
abbrev Table (Key Row : Type) := Key → Option Row

variable {Key Row : Type} [DecidableEq Key]

/-- `INSERT … ON CONFLICT (key) DO UPDATE`. -/
def upsert (key : Key) (row : Row) (update : Row → Row) (table : Table Key Row) : Table Key Row :=
  Function.update table key (some ((table key).elim row update))

/-- `INSERT … ON CONFLICT (key) DO NOTHING`. -/
def insertIgnore (key : Key) (row : Row) (table : Table Key Row) : Table Key Row :=
  Function.update table key (some ((table key).getD row))

theorem upsert_self (key : Key) (row : Row) (update : Row → Row) (table : Table Key Row) :
    upsert key row update table key = some ((table key).elim row update) := Function.update_self ..

theorem upsert_ne {key other : Key} (different : other ≠ key) (row : Row) (update : Row → Row)
    (table : Table Key Row) :
    upsert key row update table other = table other := Function.update_of_ne different ..

end K8sOps.Sql
