import Mathlib.Algebra.Order.Group.Defs
import Mathlib.Algebra.Order.Sub.Basic
import Mathlib.Data.List.Basic

/-! Events in a sliding window. An event counts while it is less than a window old. -/
namespace K8sOps.SlidingWindow
variable {T : Type} [AddCommGroup T] [LinearOrder T] {window now : T} {events : List T}

def counting (window now : T) (events : List T) : List T := events.filter (now - window < ·)

/-- No interval of the length of the window has more events. -/
def Within (window : T) (threshold : Int) (events : List T) : Prop :=
  ∀ start, ((events.filter fun t => start ≤ t ∧ t < start + window).length : Int) ≤ threshold

/-- The events come in order, so those that no longer count are in front. -/
theorem dropWhile_eq_counting (sorted : events.Pairwise (· ≤ ·)) :
    events.dropWhile (· ≤ now - window) = counting window now events := by
  induction events with
  | nil => rfl
  | cons t events ih =>
    obtain ⟨first, sorted⟩ := List.pairwise_cons.mp sorted
    rw [counting]
    by_cases old : t ≤ now - window
    · rw [List.dropWhile_cons_of_pos (by simpa using old), ih sorted,
        List.filter_cons_of_neg (by simpa using old), counting]
    · rw [List.dropWhile_cons_of_neg (by simpa using old), eq_comm, List.filter_eq_self]
      intro later member
      rw [decide_eq_true_eq]
      obtain rfl | member := List.mem_cons.mp member
      · exact not_le.mp old
      · exact (not_le.mp old).trans_le (first later member)

theorem counting_append (more : List T) :
    counting window now (events ++ more) = counting window now events ++ counting window now more :=
  List.filter_append ..

variable [IsOrderedAddMonoid T]

theorem counting_counting (later : now ≤ after) :
    counting window after (counting window now events) = counting window after events := by
  rw [counting, counting, List.filter_filter]
  refine List.filter_congr fun t _ => ?_
  rw [Bool.eq_iff_iff, Bool.and_eq_true, decide_eq_true_eq, decide_eq_true_eq]
  refine ⟨And.left, fun counts => ⟨counts, ?_⟩⟩
  exact (sub_le_sub_right later window).trans_lt counts

theorem Within.append (within : Within window threshold events)
    (room : ((counting window now events).length : Int) < threshold) :
    Within window threshold (events ++ [now]) := by
  intro start
  rw [List.filter_append, List.length_append]
  by_cases inside : start ≤ now ∧ now < start + window
  · have fewer : (events.filter fun t => start ≤ t ∧ t < start + window).length ≤
        (counting window now events).length := by
      refine (List.monotone_filter_right events fun t counted => ?_).length_le
      rw [decide_eq_true_eq] at counted ⊢
      exact (sub_lt_iff_lt_add.mpr inside.2).trans_le counted.1
    rw [List.filter_cons_of_pos (by simpa using inside), List.filter_nil, List.length_singleton]
    omega
  · rw [List.filter_cons_of_neg (by simpa using inside), List.filter_nil, List.length_nil]
    exact within start

end K8sOps.SlidingWindow
