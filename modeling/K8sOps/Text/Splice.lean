import Mathlib.Data.List.Sort
import Mathlib.Data.List.TakeDrop

/-! Replacing several disjoint spans of a text. The program applies the edits to
the whole text from right to left; the specification copies the gaps and the
replacements from left to right. Both give the same text. -/
namespace K8sOps.Text

/-- Replace the characters from `start` up to `stop` by `text`. -/
structure Edit (α : Type) where
  start : Nat
  stop : Nat
  text : List α
  deriving DecidableEq, Repr

namespace Edit
variable {α : Type}

def inside (source : List α) (edit : Edit α) : Prop :=
  edit.start ≤ edit.stop ∧ edit.stop ≤ source.length

/-- One span ends before the other begins. -/
def disjoint (one two : Edit α) : Prop := one.stop ≤ two.start ∨ two.stop ≤ one.start

def span (edit : Edit α) : Nat × Nat := (edit.start, edit.stop)

/-- The descending order of `(start, stop)` pairs. -/
def later (one two : Edit α) : Prop :=
  two.start < one.start ∨ (two.start = one.start ∧ two.stop ≤ one.stop)

instance : DecidableRel (later (α := α)) := fun one two =>
  inferInstanceAs (Decidable (two.start < one.start ∨
    (two.start = one.start ∧ two.stop ≤ one.stop)))

instance : Std.Total (later (α := α)) := ⟨fun one two => by unfold later; omega⟩

instance : IsTrans (Edit α) later := ⟨fun one two three => by unfold later; omega⟩

end Edit

variable {α : Type}

def splice (source : List α) (edit : Edit α) : List α :=
  source.take edit.start ++ edit.text ++ source.drop edit.stop

def spliceAll (source : List α) (edits : List (Edit α)) : List α :=
  (edits.insertionSort Edit.later).foldl splice source

/-- The source from position `position` on, with the edits made from left to right. -/
def weave (source : List α) (position : Nat) : List (Edit α) → List α
  | [] => source.drop position
  | edit :: edits =>
    (source.drop position).take (edit.start - position) ++ edit.text ++ weave source edit.stop edits

/-- Ascending edits that do not overlap. -/
def Ascending (edits : List (Edit α)) : Prop := edits.Pairwise fun one two => one.stop ≤ two.start

theorem foldl_splice_reverse (source : List α) (edits : List (Edit α)) (position : Nat)
    (inside : ∀ edit ∈ edits, edit.inside source) (ascending : Ascending edits)
    (behind : ∀ edit ∈ edits, position ≤ edit.start) :
    edits.reverse.foldl splice source = source.take position ++ weave source position edits := by
  induction edits generalizing position with
  | nil => exact (List.take_append_drop position source).symm
  | cons edit edits ih =>
    obtain ⟨first, others⟩ := List.pairwise_cons.mp ascending
    obtain ⟨ordered, within⟩ := inside edit List.mem_cons_self
    have start := behind edit List.mem_cons_self
    have kept : (source.take edit.stop).length = edit.stop := List.length_take_of_le within
    rw [List.reverse_cons, List.foldl_append,
      ih edit.stop (fun edit member => inside edit (List.mem_cons_of_mem _ member)) others first]
    have front : source.take position ++ (source.drop position).take (edit.start - position) =
        source.take edit.start := by
      rw [← List.take_add, Nat.add_sub_cancel' start]
    simp only [List.foldl_cons, List.foldl_nil, splice, weave]
    rw [List.take_append_of_le_length (by omega), List.take_take, Nat.min_eq_left ordered,
      List.drop_left' kept, ← front]
    simp only [List.append_assoc]

theorem later_disjoint {source : List α} {one two : Edit α} (oneInside : one.inside source)
    (twoInside : two.inside source) (later : one.later two) (disjoint : one.disjoint two)
    (distinct : one.span ≠ two.span) : two.stop ≤ one.start := by
  unfold Edit.inside at oneInside twoInside
  obtain before | after := disjoint
  · refine absurd ?_ distinct
    unfold Edit.later at later
    simp only [Edit.span, Prod.mk.injEq]
    omega
  · exact after

/-- Splicing distinct, disjoint spans from the last to the first is copying the
text once with the spans replaced. -/
theorem spliceAll_weave {source : List α} {edits : List (Edit α)}
    (inside : ∀ edit ∈ edits, edit.inside source)
    (distinct : (edits.map Edit.span).Nodup)
    (disjoint : ∀ one ∈ edits, ∀ two ∈ edits, one.span ≠ two.span → one.disjoint two) :
    ∃ ascending : List (Edit α), ascending.Perm edits ∧ Ascending ascending ∧
      spliceAll source edits = weave source 0 ascending := by
  have perm : (edits.insertionSort Edit.later).Perm edits := List.perm_insertionSort _ edits
  have sorted := List.pairwise_insertionSort Edit.later edits
  have spans : (edits.insertionSort Edit.later).Pairwise fun one two => one.span ≠ two.span :=
    List.pairwise_map.mp ((perm.map Edit.span).nodup_iff.mpr distinct)
  have descending : (edits.insertionSort Edit.later).Pairwise fun one two =>
      two.stop ≤ one.start := by
    refine (sorted.and spans).imp_of_mem ?_
    rintro one two oneIn twoIn ⟨later, different⟩
    have oneMem := perm.mem_iff.mp oneIn
    have twoMem := perm.mem_iff.mp twoIn
    exact later_disjoint (inside one oneMem) (inside two twoMem) later
      (disjoint one oneMem two twoMem different) different
  have ascending : Ascending (edits.insertionSort Edit.later).reverse :=
    List.pairwise_reverse.mpr descending
  refine ⟨_, (List.reverse_perm _).trans perm, ascending, ?_⟩
  have woven := foldl_splice_reverse source (edits.insertionSort Edit.later).reverse 0
    (fun edit member => inside edit (perm.mem_iff.mp (List.mem_reverse.mp member))) ascending
    (fun _ _ => Nat.zero_le _)
  simpa only [spliceAll, List.reverse_reverse, List.take_zero, List.nil_append] using woven

end K8sOps.Text
