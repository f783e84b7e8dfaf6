import Mathlib.Data.List.Chain
import Mathlib.Data.List.Infix

/-! Streaks of good observations. A streak is a run of consecutive observations
that are all good and each of which follows the one before it. A clock that keeps
only the first time, the last time and the length of the current streak is exact:
it always describes the longest streak that ends the observations seen so far. -/
namespace K8sOps.Streak
variable {W : Type}

/-- How observations are read: their time, whether they are good, and when one
time may follow another in a streak. -/
structure Rule (W : Type) where
  time : W → Int
  good : W → Bool
  follows : Int → Int → Bool

namespace Rule
variable (rule : Rule W)

def IsStreak (run : List W) : Prop :=
  (∀ w ∈ run, rule.good w = true) ∧
    run.IsChain fun one two => rule.follows (rule.time one) (rule.time two) = true

/-- The longest streak at the end of the observations. -/
structure Longest (seen run : List W) : Prop where
  ending : run <:+ seen
  streak : rule.IsStreak run
  maximal : ∀ other, other <:+ seen → rule.IsStreak other → other.length ≤ run.length

theorem Longest.unique {rule : Rule W} (one : rule.Longest seen first)
    (two : rule.Longest seen second) : first = second := by
  have same : first.length = second.length :=
    Nat.le_antisymm (two.maximal first one.ending one.streak)
      (one.maximal second two.ending two.streak)
  exact (List.suffix_of_suffix_length_le one.ending two.ending same.le).eq_of_length same

end Rule

/-- What is remembered of the current streak. -/
structure Clock where
  since : Option Int
  last : Option Int
  count : Nat
  deriving DecidableEq, Repr

namespace Clock

def empty : Clock := ⟨none, none, 0⟩

/-- A good observation continues the streak or starts a new one. -/
def advance (follows : Int → Int → Bool) (clock : Clock) (time : Int) : Clock :=
  match clock.last with
  | none => ⟨some (clock.since.getD time), some time, clock.count + 1⟩
  | some previous =>
    if follows previous time then ⟨some (clock.since.getD time), some time, clock.count + 1⟩
    else ⟨some time, some time, 1⟩

def observe (rule : Rule W) (clock : Clock) (w : W) : Clock :=
  if rule.good w then clock.advance rule.follows (rule.time w) else empty

/-- The clock shows the ends and the length of a run of observations. -/
def Shows (rule : Rule W) (clock : Clock) (run : List W) : Prop :=
  clock.since = run.head?.map rule.time ∧ clock.last = run.getLast?.map rule.time ∧
    clock.count = run.length

def Tracks (rule : Rule W) (clock : Clock) (seen : List W) : Prop :=
  ∃ run, rule.Longest seen run ∧ clock.Shows rule run

end Clock

namespace Rule
variable {rule : Rule W}

theorem isStreak_nil : rule.IsStreak [] := ⟨by simp, .nil⟩

theorem isStreak_append (streak : rule.IsStreak run) (good : rule.good w = true)
    (follows : ∀ last ∈ run.getLast?, rule.follows (rule.time last) (rule.time w) = true) :
    rule.IsStreak (run ++ [w]) := by
  refine ⟨?_, ?_⟩
  · intro other member
    obtain old | new := List.mem_append.mp member
    · exact streak.1 other old
    · rw [List.mem_singleton.mp new]
      exact good
  · refine List.isChain_append.mpr ⟨streak.2, .singleton w, ?_⟩
    intro last isLast other isFirst
    obtain rfl : w = other := by simpa using isFirst
    exact follows last isLast

theorem streak_ending (ending : run <:+ seen ++ [w]) (nonempty : run ≠ []) :
    ∃ front, run = front ++ [w] ∧ front <:+ seen := by
  obtain same | ⟨front, rfl, shorter⟩ := List.suffix_concat_iff.mp (by simpa using ending)
  · exact absurd same nonempty
  · exact ⟨front, by simp, shorter⟩

theorem isStreak_concat (streak : rule.IsStreak (front ++ [w])) :
    rule.IsStreak front ∧ rule.good w = true ∧
      ∀ last ∈ front.getLast?, rule.follows (rule.time last) (rule.time w) = true := by
  obtain ⟨good, chain⟩ := streak
  obtain ⟨frontChain, _, linked⟩ := List.isChain_append.mp chain
  exact ⟨⟨fun other member => good other (List.mem_append_left _ member), frontChain⟩,
    good w (by simp), fun last isLast => linked last isLast w (by simp)⟩

theorem longest_bad (bad : rule.good w = false) : rule.Longest (seen ++ [w]) [] := by
  refine ⟨List.nil_suffix, isStreak_nil, ?_⟩
  intro other ending streak
  by_cases nonempty : other = []
  · simp [nonempty]
  · obtain ⟨front, rfl, _⟩ := streak_ending ending nonempty
    obtain ⟨_, good, _⟩ := isStreak_concat streak
    exact Bool.noConfusion (bad.symm.trans good)

theorem longest_continued (longest : rule.Longest seen run) (good : rule.good w = true)
    (follows : ∀ last ∈ run.getLast?, rule.follows (rule.time last) (rule.time w) = true) :
    rule.Longest (seen ++ [w]) (run ++ [w]) := by
  refine ⟨?_, isStreak_append longest.streak good follows, ?_⟩
  · obtain ⟨older, rfl⟩ := longest.ending
    exact ⟨older, by simp⟩
  · intro other ending streak
    by_cases nonempty : other = []
    · simp [nonempty]
    · obtain ⟨front, rfl, shorter⟩ := streak_ending ending nonempty
      have bound := longest.maximal front shorter (isStreak_concat streak).1
      simpa using bound

/-- When the latest observation cannot follow the streak before it, no longer
streak reaches across it: every nonempty streak before it has the same last member. -/
theorem longest_restarted (longest : rule.Longest seen run) (good : rule.good w = true)
    (isLast : run.getLast? = some last)
    (broken : rule.follows (rule.time last) (rule.time w) = false) :
    rule.Longest (seen ++ [w]) [w] := by
  refine ⟨List.suffix_append _ _, isStreak_append isStreak_nil good (by simp), ?_⟩
  intro other ending streak
  by_cases nonempty : other = []
  · simp [nonempty]
  · obtain ⟨front, rfl, shorter⟩ := streak_ending ending nonempty
    obtain ⟨_, _, linked⟩ := isStreak_concat streak
    cases ends : front.getLast? with
    | none => simp [List.getLast?_eq_none_iff.mp ends]
    | some previous =>
      have same : previous = last := by
        obtain ⟨one, rfl⟩ := shorter
        obtain ⟨two, split⟩ := longest.ending
        have ending := congrArg List.getLast? split
        simpa [List.getLast?_append, ends, isLast, eq_comm] using ending
      have follows := linked previous ends
      simp [same, broken] at follows

end Rule

namespace Clock
variable {rule : Rule W}

theorem empty_tracks : empty.Tracks rule [] :=
  ⟨[], ⟨List.nil_suffix, Rule.isStreak_nil, fun _ ending _ => by simp [List.suffix_nil.mp ending]⟩,
    rfl, rfl, rfl⟩

theorem shows_concat (shows : Shows rule clock run) :
    Shows rule ⟨some (clock.since.getD (rule.time w)), some (rule.time w),
      clock.count + 1⟩ (run ++ [w]) := by
  obtain ⟨since, _, count⟩ := shows
  refine ⟨?_, by simp, by simp [count]⟩
  cases run <;> simp [since]

theorem observe_tracks (tracks : Tracks rule clock seen) :
    (clock.observe rule w).Tracks rule (seen ++ [w]) := by
  obtain ⟨run, longest, shows⟩ := tracks
  cases good : rule.good w with
  | false => exact ⟨[], Rule.longest_bad good, by simp [observe, good, empty, Shows]⟩
  | true =>
    obtain ⟨_, isLast, _⟩ := id shows
    cases ends : run.getLast? with
    | none =>
      refine ⟨run ++ [w], Rule.longest_continued longest good (by simp [ends]), ?_⟩
      simpa [observe, good, advance, isLast, ends] using shows_concat shows
    | some last =>
      cases follows : rule.follows (rule.time last) (rule.time w) with
      | true =>
        refine ⟨run ++ [w], Rule.longest_continued longest good (by simpa [ends] using follows), ?_⟩
        simpa [observe, good, advance, isLast, ends, follows] using shows_concat shows
      | false =>
        refine ⟨[w], Rule.longest_restarted longest good ends follows, ?_⟩
        simp [observe, good, advance, isLast, ends, follows, Shows]

end Clock

end K8sOps.Streak
