import Mathlib.Data.List.Infix
import Mathlib.Data.List.Pairwise

/-! Reading and overwriting inside a tree, one step at a time. An access says
what a single step reads and how it is overwritten; the laws for whole paths and
for several overwrites in a row follow from those of the steps. -/
namespace K8sOps.Focus

/-- One-step access to the parts of a value. Overwriting never creates a part,
is seen by the step that made it and by no other step. -/
structure Access (σ V : Type) where
  get : σ → V → Option V
  put : σ → V → V → Option V
  get_put : put step new whole = some result → get step result = some new
  get_put_ne : step ≠ other → put step new whole = some result → get other result = get other whole
  get_of_put : put step new whole = some result → ∃ old, get step whole = some old

/-- Neither path leads through the other. -/
def Apart (p q : List σ) : Prop := ¬ p <+: q ∧ ¬ q <+: p

theorem Apart.symm (apart : Apart p q) : Apart q p := ⟨apart.2, apart.1⟩

theorem apart_cons {step : σ} : Apart (step :: p) (step :: q) ↔ Apart p q := by
  unfold Apart
  simp only [List.cons_prefix_cons, true_and]

namespace Access
variable {σ V : Type} (access : Access σ V)

def read : List σ → V → Option V
  | [], whole => some whole
  | step :: path, whole => (access.get step whole).bind (read path)

def write : List σ → V → V → Option V
  | [], new, _ => some new
  | step :: path, new, whole =>
    (access.get step whole).bind fun child =>
      (write path new child).bind fun child => access.put step child whole

theorem write_cons {access : Access σ V}
    (written : access.write (step :: path) new whole = some result) :
    ∃ child updated, access.get step whole = some child ∧
      access.write path new child = some updated ∧ access.put step updated whole = some result := by
  simp only [write, Option.bind_eq_some_iff] at written
  obtain ⟨child, found, updated, inner, outer⟩ := written
  exact ⟨child, updated, found, inner, outer⟩

theorem read_append (front back : List σ) (whole : V) :
    access.read (front ++ back) whole = (access.read front whole).bind (access.read back) := by
  induction front generalizing whole with
  | nil => rfl
  | cons step front ih =>
    simp only [List.cons_append, read, Option.bind_assoc]
    exact congrArg _ (funext ih)

theorem read_write {access : Access σ V} (written : access.write path new whole = some result) :
    access.read path result = some new := by
  induction path generalizing whole result with
  | nil =>
    cases written
    rfl
  | cons step path ih =>
    obtain ⟨child, updated, _, inner, outer⟩ := write_cons written
    rw [read, access.get_put outer, Option.bind_some]
    exact ih inner

theorem read_of_write {access : Access σ V} (written : access.write path new whole = some result) :
    ∃ old, access.read path whole = some old := by
  induction path generalizing whole result with
  | nil => exact ⟨whole, rfl⟩
  | cons step path ih =>
    obtain ⟨child, updated, found, inner, _⟩ := write_cons written
    rw [read, found, Option.bind_some]
    exact ih inner

/-- The frame law: a path apart from the one written reads what it read before. -/
theorem read_write_apart [DecidableEq σ] {access : Access σ V} (apart : Apart path other)
    (written : access.write path new whole = some result) :
    access.read other result = access.read other whole := by
  induction path generalizing whole result other with
  | nil => exact absurd List.nil_prefix apart.1
  | cons step path ih =>
    obtain ⟨child, updated, found, inner, outer⟩ := write_cons written
    cases other with
    | nil => exact absurd List.nil_prefix apart.2
    | cons first rest =>
      by_cases same : step = first
      · subst same
        rw [read, read, access.get_put outer, found, Option.bind_some, Option.bind_some]
        exact ih (apart_cons.mp apart) inner
      · rw [read, read, access.get_put_ne same outer]

/-- Several overwrites, applied from left to right. -/
def writeAll : List (List σ × V) → V → Option V
  | [], whole => some whole
  | (path, new) :: rest, whole => (access.write path new whole).bind (writeAll rest)

theorem read_writeAll_apart [DecidableEq σ] {access : Access σ V} {edits : List (List σ × V)}
    (apart : ∀ edit ∈ edits, Apart edit.1 other)
    (written : access.writeAll edits whole = some result) :
    access.read other result = access.read other whole := by
  induction edits generalizing whole with
  | nil =>
    cases written
    rfl
  | cons edit edits ih =>
    obtain ⟨middle, first, later⟩ := Option.bind_eq_some_iff.mp written
    rw [ih (fun edit member => apart edit (List.mem_cons_of_mem _ member)) later]
    exact read_write_apart (apart edit List.mem_cons_self) first

theorem read_writeAll [DecidableEq σ] {access : Access σ V} {edits : List (List σ × V)}
    (apart : edits.Pairwise fun one two => Apart one.1 two.1)
    (written : access.writeAll edits whole = some result) :
    ∀ edit ∈ edits, access.read edit.1 result = some edit.2 := by
  induction edits generalizing whole with
  | nil => simp
  | cons edit edits ih =>
    obtain ⟨middle, first, later⟩ := Option.bind_eq_some_iff.mp written
    obtain ⟨fromFirst, others⟩ := List.pairwise_cons.mp apart
    intro chosen member
    obtain rfl | member := List.mem_cons.mp member
    · rw [read_writeAll_apart (fun edit member => (fromFirst edit member).symm) later]
      exact read_write first
    · exact ih others later chosen member

/-- Overwriting a part by itself changes nothing, overwriting it twice keeps the second
value only, and the order in which two parts are overwritten does not matter. -/
structure Exact : Prop where
  put_get : access.get step whole = some part → access.put step part whole = some whole
  put_put : access.put step first whole = some middle →
    access.put step second middle = access.put step second whole
  put_comm : step ≠ other → (access.put step first whole).bind (access.put other second) =
    (access.put other second whole).bind (access.put step first)

/-- Wherever the path can be read, any value can be written. -/
def Writable (path : List σ) : Prop :=
  ∀ new whole old, access.read path whole = some old →
    ∃ result, access.write path new whole = some result

variable {access}

theorem write_read (exact_ : access.Exact) (present : access.read path whole = some part) :
    access.write path part whole = some whole := by
  induction path generalizing whole with
  | nil => exact present.symm
  | cons step path ih =>
    obtain ⟨child, found, below⟩ := Option.bind_eq_some_iff.mp present
    rw [write, found, Option.bind_some, ih below, Option.bind_some]
    exact exact_.put_get found

theorem writeAll_read (exact_ : access.Exact) {edits : List (List σ × V)}
    (present : ∀ edit ∈ edits, access.read edit.1 whole = some edit.2) :
    access.writeAll edits whole = some whole := by
  induction edits with
  | nil => rfl
  | cons edit edits ih =>
    rw [writeAll, write_read exact_ (present edit List.mem_cons_self), Option.bind_some]
    exact ih fun edit member => present edit (List.mem_cons_of_mem _ member)

theorem write_write (exact_ : access.Exact)
    (written : access.write path first whole = some middle) :
    access.write path second middle = access.write path second whole := by
  induction path generalizing whole middle with
  | nil => rfl
  | cons step path ih =>
    obtain ⟨child, updated, found, inner, outer⟩ := write_cons written
    have below := ih inner
    rw [write, write, access.get_put outer, found, Option.bind_some, Option.bind_some, below]
    exact congrArg _ (funext fun new => exact_.put_put outer)

/-- Writes apart from each other come to the same whole in either order. -/
theorem write_comm [DecidableEq σ] (exact_ : access.Exact) (apart : Apart path other)
    (first : access.write path one whole = some left)
    (second : access.write other two left = some result)
    (otherFirst : access.write other two whole = some right)
    (otherSecond : access.write path one right = some reversed) : reversed = result := by
  induction path generalizing whole left right result reversed other with
  | nil => exact absurd List.nil_prefix apart.1
  | cons step path ih =>
    cases other with
    | nil => exact absurd List.nil_prefix apart.2
    | cons next rest =>
      obtain ⟨child, updated, found, inner, outer⟩ := write_cons first
      obtain ⟨otherChild, otherUpdated, otherFound, otherInner, otherOuter⟩ := write_cons otherFirst
      obtain ⟨later, laterUpdated, laterFound, laterInner, laterOuter⟩ := write_cons second
      obtain ⟨last, lastUpdated, lastFound, lastInner, lastOuter⟩ := write_cons otherSecond
      by_cases same : step = next
      · subst same
        cases found.symm.trans otherFound
        cases laterFound.symm.trans (access.get_put outer)
        cases lastFound.symm.trans (access.get_put otherOuter)
        obtain rfl := ih (apart_cons.mp apart) inner laterInner otherInner lastInner
        rw [exact_.put_put outer] at laterOuter
        rw [exact_.put_put otherOuter, laterOuter] at lastOuter
        exact (Option.some.inj lastOuter).symm
      · rw [access.get_put_ne same outer, otherFound] at laterFound
        cases laterFound
        rw [access.get_put_ne (Ne.symm same) otherOuter, found] at lastFound
        cases lastFound
        cases inner.symm.trans lastInner
        cases otherInner.symm.trans laterInner
        have swapped : (access.put step updated whole).bind (access.put next otherUpdated) =
            (access.put next otherUpdated whole).bind (access.put step updated) :=
              exact_.put_comm same
        rw [outer, otherOuter, Option.bind_some, Option.bind_some, laterOuter, lastOuter] at swapped
        exact (Option.some.inj swapped).symm

/-- A write is lost when its path is written again later, and nothing in between
depends on it. -/
theorem writeAll_overwritten [DecidableEq σ] (exact_ : access.Exact) {edits : List (List σ × V)}
    (writable : access.Writable path) (others : ∀ edit ∈ edits, access.Writable edit.1)
    (apart : ∀ edit ∈ edits, edit.1 = path ∨ Apart path edit.1)
    (again : ∃ edit ∈ edits, edit.1 = path) (written : access.write path new whole = some middle)
    (rest : access.writeAll edits middle = some result) :
    access.writeAll edits whole = some result := by
  induction edits generalizing whole middle with
  | nil =>
    obtain ⟨_, impossible, _⟩ := again
    cases impossible
  | cons edit edits ih =>
    obtain ⟨next, here, later⟩ := Option.bind_eq_some_iff.mp rest
    rcases apart edit List.mem_cons_self with same | apartHere
    · rw [same, write_write exact_ written, ← same] at here
      rw [writeAll, here, Option.bind_some]
      exact later
    · obtain ⟨old, readable⟩ := read_of_write here
      rw [read_write_apart apartHere written] at readable
      obtain ⟨swapped, direct⟩ := others edit List.mem_cons_self edit.2 whole old readable
      obtain ⟨before, present⟩ := read_of_write written
      rw [← read_write_apart apartHere.symm direct] at present
      obtain ⟨again_, rewritten⟩ := writable new swapped before present
      obtain rfl := write_comm exact_ apartHere written here direct rewritten
      rw [writeAll, direct, Option.bind_some]
      refine ih (fun edit member => others edit (List.mem_cons_of_mem _ member))
        (fun edit member => apart edit (List.mem_cons_of_mem _ member)) ?_ rewritten later
      obtain ⟨chosen, member, isPath⟩ := again
      obtain rfl | member := List.mem_cons.mp member
      · rw [isPath] at apartHere
        exact absurd List.prefix_rfl apartHere.1
      · exact ⟨chosen, member, isPath⟩

theorem writeAll_superseded [DecidableEq σ] (exact_ : access.Exact)
    {edits later : List (List σ × V)} (writable : ∀ edit ∈ edits, access.Writable edit.1)
    (others : ∀ edit ∈ later, access.Writable edit.1)
    (apart : ∀ edit ∈ edits, ∀ other ∈ later, other.1 = edit.1 ∨ Apart edit.1 other.1)
    (again : ∀ edit ∈ edits, ∃ other ∈ later, other.1 = edit.1)
    (written : access.writeAll edits whole = some middle)
    (rest : access.writeAll later middle = some result) :
    access.writeAll later whole = some result := by
  induction edits generalizing whole with
  | nil =>
    cases written
    exact rest
  | cons edit edits ih =>
    obtain ⟨next, here, continued⟩ := Option.bind_eq_some_iff.mp written
    have tail := ih (fun edit member => writable edit (List.mem_cons_of_mem _ member))
      (fun edit member => apart edit (List.mem_cons_of_mem _ member))
      (fun edit member => again edit (List.mem_cons_of_mem _ member)) continued
    exact writeAll_overwritten exact_ (writable edit List.mem_cons_self) others
      (apart edit List.mem_cons_self) (again edit List.mem_cons_self) here tail

end Access

end K8sOps.Focus
