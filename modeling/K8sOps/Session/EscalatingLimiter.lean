import Mathlib.Algebra.Order.Ring.Cast
import K8sOps.Session.MemoryLimiter

/-! The escalating rate limit of the in-memory session store. A refused call locks its key for a
step of the escalation, whatever the window says, and a call to a locked key is told the whole
seconds that are left. -/
namespace K8sOps.Session
open Transition

section model

/-- The store with the locks and the strikes of the keys, each with its default. -/
structure EscalatingStore where
  base : MemorySessionStore
  locks : String → Rat
  strikes : String → Rat × Int

structure EscalatingLimit where
  limit : Int
  windowSeconds : Int
  lockStepsSeconds : List Int
  strikeTtlSeconds : Int

def escalatingKey (key : String) : String := "escalating:" ++ key

def EscalatingStore.fresh (config : RateLimitConfig) : EscalatingStore :=
  ⟨⟨config, true, fun _ => []⟩, fun _ => 0, fun _ => (0, 0)⟩

def EscalatingStore.strikeCount (store : EscalatingStore) (key : String) (now : Rat) : Int :=
  if (store.strikes key).1 ≤ now then 0 else (store.strikes key).2

def EscalatingLimit.lockSeconds (params : EscalatingLimit) (strikeCount : Int) : Option Int :=
  pythonIndex params.lockStepsSeconds (min strikeCount params.lockStepsSeconds.length - 1)

/-- The strike that a refusal by the window adds, and the lock that follows. Without lock steps the
lookup fails after the strike is stored. -/
def strike (params : EscalatingLimit) (key : String) (now : Rat) (store : EscalatingStore) :
    RateOutcome × EscalatingStore :=
  let count := store.strikeCount key now + 1
  let struck := { store with
    strikes := Function.update store.strikes key (now + params.strikeTtlSeconds, count) }
  match params.lockSeconds count with
  | none => (.indexError, struck)
  | some seconds =>
    (.rateLimitExceeded seconds,
      { struck with locks := Function.update store.locks key (now + seconds) })

def checkEscalatingRateLimit (params : EscalatingLimit) (key : String) (now : Rat)
    (store : EscalatingStore) : RateOutcome × EscalatingStore :=
  if !store.base.connected then (.notConnected, store)
  else if now < store.locks key then
    (.rateLimitExceeded (max 1 (store.locks key - now).floor), store)
  else
    let checked := checkRateLimit (escalatingKey key) (some params.limit)
      (some params.windowSeconds) now store.base
    match checked.1 with
    | .rateLimitExceeded _ => strike params key now { store with base := checked.2 }
    | outcome => (outcome, { store with base := checked.2 })

/-- The calls of a key that count at a time. -/
def EscalatingStore.countAt (params : EscalatingLimit) (key : String) (now : Rat)
    (store : EscalatingStore) : Int :=
  ((store.base.rateEvents (escalatingKey key)).dropWhile (· ≤
    now - (params.windowSeconds : Rat))).length

/-- How long a key stays closed to a call: what is left of its lock, but at least a second, or else
the lock of the next strike. -/
def EscalatingStore.wait (params : EscalatingLimit) (key : String) (now : Rat)
    (store : EscalatingStore) : Rat :=
  if now < store.locks key then max 1 (store.locks key - now)
  else max 0 ((params.lockSeconds (store.strikeCount key now + 1)).getD 0 : Int)

end model

section outcomes
variable {params : EscalatingLimit} {key : String} {now : Rat} {s t : EscalatingStore}

theorem checkRateLimit_escalating (params : EscalatingLimit) (key : String) (now : Rat)
    (connected : s.base.connected = true) :
    let checked :=
  checkRateLimit (escalatingKey key) (some params.limit) (some params.windowSeconds) now s.base
    (checked.1 = .admitted ↔ s.countAt params key now < params.limit) ∧
    (checked.1 ≠ .admitted → checked.2.rateEvents (escalatingKey key) =
      (s.base.rateEvents (escalatingKey key)).dropWhile (· ≤ now - (params.windowSeconds : Rat))) ∧
    checked.2.connected = true := by
  dsimp only
  have window : s.base.window (some params.windowSeconds) = params.windowSeconds := rfl
  have threshold : s.base.threshold (some params.limit) = params.limit := rfl
  rw [checkRateLimit, connected, Bool.not_true, if_neg Bool.false_ne_true, window, threshold,
    EscalatingStore.countAt]
  dsimp only
  generalize (s.base.rateEvents (escalatingKey key)).dropWhile _ = events
  by_cases full : params.limit ≤ events.length
  · rw [if_pos full]
    cases events with
    | nil => exact ⟨by simpa using full, fun _ => if_pos rfl, connected⟩
    | cons first others => exact ⟨by simpa using full, fun _ => if_pos rfl, connected⟩
  · rw [if_neg full]
    exact ⟨by simpa using full, fun other => absurd rfl other, connected⟩

theorem strike_refuses (store : EscalatingStore) : (strike params key now store).1 ≠ .admitted := by
  unfold strike
  dsimp only
  split <;> intro impossible <;> cases impossible

/-- A call is admitted exactly if its key is not locked and its window has room. -/
theorem admitted_iff (connected : s.base.connected = true) :
    (checkEscalatingRateLimit params key now s).1 = .admitted ↔
      s.locks key ≤ now ∧ s.countAt params key now < params.limit := by
  have window :
      (checkRateLimit (escalatingKey key) (some params.limit)
        (some params.windowSeconds) now s.base).1 =
      .admitted ↔ s.countAt params key now < params.limit :=
        (checkRateLimit_escalating params key now connected).1
  rw [checkEscalatingRateLimit, connected, Bool.not_true, if_neg Bool.false_ne_true]
  by_cases locked : now < s.locks key
  · rw [if_pos locked]
    constructor
    · intro impossible
      cases impossible
    · rintro ⟨free, _⟩
      exact absurd locked (not_lt.mpr free)
  · rw [if_neg locked, ← window]
    dsimp only
    split
    next retryAfter refused =>
      rw [refused]
      refine ⟨fun struck => absurd struck (strike_refuses _), ?_⟩
      rintro ⟨_, impossible⟩
      cases impossible
    next => exact ⟨fun admitted => ⟨not_lt.mp locked, admitted⟩, And.right⟩

/-- How a call is refused: by the lock, or by the window, which sets the lock. -/
theorem refused_cases
    (refused : checkEscalatingRateLimit params key now s = (.rateLimitExceeded retryAfter, t)) :
    s.base.connected = true ∧
    (now < s.locks key ∧ retryAfter = max 1 (s.locks key - now).floor ∧ t = s ∨
      s.locks key ≤ now ∧ params.lockSeconds (s.strikeCount key now + 1) = some retryAfter ∧
        t.locks key = now + retryAfter ∧ t.base.connected = true ∧
        t.base.rateEvents (escalatingKey key) =
          (s.base.rateEvents (escalatingKey key)).dropWhile (· ≤
            now - (params.windowSeconds : Rat))) := by
  rw [checkEscalatingRateLimit] at refused
  cases connected : s.base.connected with
  | false =>
    rw [connected] at refused
    cases refused
  | true =>
    rw [connected, Bool.not_true, if_neg Bool.false_ne_true] at refused
    refine ⟨rfl, ?_⟩
    by_cases locked : now < s.locks key
    · rw [if_pos locked] at refused
      cases refused
      exact .inl ⟨locked, rfl, rfl⟩
    · rw [if_neg locked] at refused
      obtain ⟨_, pruned, stillConnected⟩ := checkRateLimit_escalating params key now connected
      refine .inr ⟨not_lt.mp locked, ?_⟩
      dsimp only at refused
      split at refused
      next isRefused =>
        have events := pruned fun admitted => by cases isRefused.symm.trans admitted
        unfold strike at refused
        dsimp only at refused
        split at refused
        next => cases refused
        next seconds step =>
          cases refused
          exact ⟨step, Function.update_self .., stillConnected, events⟩
      next other =>
        exact absurd (congrArg Prod.fst refused) (other retryAfter)

end outcomes

section others
variable {params : EscalatingLimit} {key : String} {s t : EscalatingStore}

/-- What the calls for a key look at. -/
structure Alike (key : String) (s t : EscalatingStore) : Prop where
  connected : t.base.connected = s.base.connected
  locks : t.locks key = s.locks key
  events : t.base.rateEvents (escalatingKey key) = s.base.rateEvents (escalatingKey key)

theorem checkRateLimit_frame {other : String} (limit windowSeconds : Option Int) (now : Rat)
    (store : MemorySessionStore) (different : key ≠ other) :
    (checkRateLimit other limit windowSeconds now store).2.connected = store.connected ∧
      (checkRateLimit other limit windowSeconds now store).2.rateEvents key =
        store.rateEvents key := by
  have kept (events : List Rat) : (store.setEvents other events).rateEvents key =
      store.rateEvents key := if_neg different
  rw [checkRateLimit]
  split
  next => exact ⟨rfl, rfl⟩
  next =>
    dsimp only
    split
    next => split <;> exact ⟨rfl, kept _⟩
    next => exact ⟨rfl, kept _⟩

theorem strike_base (params : EscalatingLimit) (key : String) (now : Rat)
    (store : EscalatingStore) :
    (strike params key now store).2.base = store.base := by
  unfold strike
  dsimp only
  split <;> rfl

theorem strike_locks (params : EscalatingLimit) (now : Rat) (store : EscalatingStore)
    (different : key ≠ other) :
    (strike params other now store).2.locks key = store.locks key := by
  unfold strike
  dsimp only
  split
  · rfl
  · exact Function.update_of_ne different ..

theorem checkEscalating_frame (now : Rat) (s : EscalatingStore) (different : key ≠ other) :
    Alike key s (checkEscalatingRateLimit params other now s).2 := by
  have apart : escalatingKey key ≠ escalatingKey other :=
    fun same => different (String.append_right_inj _ |>.mp same)
  rw [checkEscalatingRateLimit]
  split
  next => exact ⟨rfl, rfl, rfl⟩
  next =>
    split
    next => exact ⟨rfl, rfl, rfl⟩
    next =>
      obtain ⟨connected, events⟩ :=
        checkRateLimit_frame (some params.limit) (some params.windowSeconds) now s.base apart
      dsimp only
      split
      next =>
        exact ⟨(congrArg (·.connected) (strike_base ..)).trans connected,
          strike_locks params now _ different,
          (congrArg (·.rateEvents (escalatingKey key)) (strike_base ..)).trans events⟩
      next => exact ⟨connected, rfl, events⟩

def runCalls (params : EscalatingLimit) (calls : List RateCall)
    (store : EscalatingStore) : EscalatingStore :=
  calls.foldl (fun store call => (checkEscalatingRateLimit params call.key call.now store).2) store

theorem runCalls_frame {calls : List RateCall} (others : ∀ call ∈ calls, call.key ≠ key)
    (s : EscalatingStore) :
    Alike key s (runCalls params calls s) := by
  induction calls generalizing s with
  | nil => exact ⟨rfl, rfl, rfl⟩
  | cons call calls ih =>
    obtain ⟨first, later⟩ := List.forall_mem_cons.mp others
    have step : Alike key s (checkEscalatingRateLimit params call.key call.now s).2 :=
      checkEscalating_frame call.now s first.symm
    have rest := ih later (checkEscalatingRateLimit params call.key call.now s).2
    exact ⟨rest.connected.trans step.connected, rest.locks.trans step.locks,
      rest.events.trans step.events⟩

end others

section order
variable {params : EscalatingLimit} {now : Rat}

theorem checkRateLimit_sublist (key other : String) (limit windowSeconds : Option Int)
    (store : MemorySessionStore) :
    ((checkRateLimit other limit windowSeconds now store).2.rateEvents key).Sublist
      (store.rateEvents key ++ [now]) := by
  have kept (events : List Rat) (fewer : events.Sublist (store.rateEvents other ++ [now])) :
      ((store.setEvents other events).rateEvents key).Sublist (store.rateEvents key ++ [now]) := by
    rw [MemorySessionStore.setEvents]
    dsimp only
    split
    next own => exact own ▸ fewer
    next => exact List.sublist_append_left ..
  rw [checkRateLimit]
  split
  next => exact List.sublist_append_left ..
  next =>
    have pruned := List.dropWhile_sublist (· ≤ now - (store.window windowSeconds : Rat))
      (l := store.rateEvents other)
    dsimp only
    split
    next =>
      split
      next => exact kept _ (List.nil_sublist _)
      next => exact kept _ (pruned.trans (List.sublist_append_left ..))
    next => exact kept _ (pruned.append (List.Sublist.refl _))

theorem checkEscalating_sublist (key other : String) (s : EscalatingStore) :
    ((checkEscalatingRateLimit params other now s).2.base.rateEvents key).Sublist
      (s.base.rateEvents key ++ [now]) := by
  rw [checkEscalatingRateLimit]
  split
  next => exact List.sublist_append_left ..
  next =>
    split
    next => exact List.sublist_append_left ..
    next =>
      dsimp only
      split
      next =>
        rw [strike_base]
        exact checkRateLimit_sublist ..
      next => exact checkRateLimit_sublist ..

/-- Calls at times that do not decrease leave the times of each key in order. -/
theorem runCalls_sorted {calls : List RateCall} {s : EscalatingStore} (key : String)
    (ordered : (s.base.rateEvents key ++ calls.map (·.now)).Pairwise (· ≤ ·)) :
    ((runCalls params calls s).base.rateEvents key).Pairwise (· ≤ ·) := by
  induction calls generalizing s with
  | nil => exact ordered.sublist (List.sublist_append_left ..)
  | cons call calls ih =>
    apply ih (s := (checkEscalatingRateLimit params call.key call.now s).2)
    refine ordered.sublist ?_
    rw [List.map_cons, List.append_cons]
    exact (checkEscalating_sublist key call.key s).append (List.Sublist.refl _)

end order

section honesty
variable {params : EscalatingLimit} {key : String} {now : Rat} {retryAfter : Int}
  {s t : EscalatingStore}

theorem dropWhile_dropWhile {p q : α → Bool} (wider : ∀ x, p x = true → q x = true)
    (items : List α) :
    (items.dropWhile p).dropWhile q = items.dropWhile q := by
  induction items with
  | nil => rfl
  | cons x items ih =>
    by_cases first : p x = true
    · rw [List.dropWhile_cons_of_pos first, List.dropWhile_cons_of_pos (wider x first), ih]
    · rw [List.dropWhile_cons_of_neg first]

theorem dropWhile_later (window : Rat) (later : now ≤ after) (events : List Rat) :
    (events.dropWhile (· ≤ now - window)).dropWhile (· ≤ after - window) =
      events.dropWhile (· ≤ after - window) :=
  dropWhile_dropWhile (fun _ old =>
    decide_eq_true ((of_decide_eq_true old).trans (sub_le_sub_right later _))) events

theorem countAt_antitone (params : EscalatingLimit) (key : String) (s : EscalatingStore)
    (later : now ≤ after) :
    s.countAt params key after ≤ s.countAt params key now := by
  rw [EscalatingStore.countAt, EscalatingStore.countAt, ← dropWhile_later _ later]
  exact Int.ofNat_le.mpr (List.dropWhile_sublist _).length_le

/-- The whole seconds that are left are all that is left exactly if nothing is cut off. -/
theorem le_announced_iff (left : Rat) :
    left ≤ (max 1 left.floor : Int) ↔ left ≤ 1 ∨ ∃ whole : Int, left = whole := by
  constructor
  · intro enough
    by_cases short : left ≤ 1
    · exact .inl short
    · refine .inr ⟨left.floor, le_antisymm ?_ (Rat.floor_le left)⟩
      rcases le_total 1 left.floor with long | brief
      · rwa [max_eq_right long] at enough
      · rw [max_eq_left brief, Int.cast_one] at enough
        exact absurd enough short
  · rintro (short | ⟨whole, rfl⟩)
    · refine short.trans ?_
      rw [← Int.cast_one]
      exact Int.cast_le.mpr (le_max_left _ _)
    · rw [Rat.floor_intCast]
      exact Int.cast_le.mpr (le_max_right _ _)

theorem unlocked_iff
    (refused : checkEscalatingRateLimit params key now s = (.rateLimitExceeded retryAfter, t)) :
    t.locks key ≤ now + (max retryAfter 0 : Int) ↔
      (now < s.locks key → s.locks key - now ≤ 1 ∨ ∃ whole : Int, s.locks key - now = whole) := by
  obtain ⟨_, ⟨locked, rfl, rfl⟩ | ⟨free, _, lock, _⟩⟩ := refused_cases refused
  · have positive : max (max 1 (t.locks key - now).floor) 0 = max 1 (t.locks key - now).floor :=
      max_eq_left (Int.zero_le_ofNat 1 |>.trans (le_max_left _ _))
    rw [positive, ← sub_le_iff_le_add', le_announced_iff]
    exact ⟨fun ends _ => ends, fun ends => ends locked⟩
  · rw [lock]
    refine ⟨fun _ locked => absurd locked (not_lt.mpr free), fun _ => ?_⟩
    exact add_le_add_right (Int.cast_le.mpr (le_max_left _ _)) now

theorem countAt_refused
    (refused : checkEscalatingRateLimit params key now s = (.rateLimitExceeded retryAfter, t))
    (later : now ≤ after) : t.countAt params key after = s.countAt params key after := by
  obtain ⟨_, ⟨_, _, rfl⟩ | ⟨_, _, _, _, events⟩⟩ := refused_cases refused
  · rfl
  · rw [EscalatingStore.countAt, EscalatingStore.countAt, events, dropWhile_later _ later]

/-- Every next call for the key that comes so late as announced is admitted, exactly if the lock is
over by then and the window has room. -/
theorem admitted_later_iff (params : EscalatingLimit) {calls : List RateCall}
    (refused : checkEscalatingRateLimit params key now s = (.rateLimitExceeded retryAfter, t))
    (others : ∀ call ∈ calls, call.key ≠ key) :
    (∀ later, now ≤ later → now + retryAfter ≤ later →
      (checkEscalatingRateLimit params key later (runCalls params calls t)).1 = .admitted) ↔
    (now < s.locks key → s.locks key - now ≤ 1 ∨ ∃ whole : Int, s.locks key - now = whole) ∧
      s.countAt params key (now + (max retryAfter 0 : Int)) < params.limit := by
  have alike : Alike key t (runCalls params calls t) := runCalls_frame others t
  have connected : (runCalls params calls t).base.connected = true := by
    rw [alike.connected]
    obtain ⟨connected, ⟨_, _, rfl⟩ | ⟨_, _, _, connectedAfter, _⟩⟩ := refused_cases refused
    · exact connected
    · exact connectedAfter
  have counts (later : Rat) (after : now ≤ later) :
      (runCalls params calls t).countAt params key later = s.countAt params key later := by
    rw [← countAt_refused refused after, EscalatingStore.countAt, alike.events,
      EscalatingStore.countAt]
  -- The earliest time that the next call may have.
  have start : now ≤ now + (max retryAfter 0 : Int) :=
    le_add_of_nonneg_right (Int.cast_nonneg (le_max_right _ _))
  rw [← unlocked_iff refused]
  constructor
  · intro admitted
    have announced : now + (retryAfter : Rat) ≤ now + (max retryAfter 0 : Int) :=
      add_le_add_right (Int.cast_le.mpr (le_max_left _ _)) now
    obtain ⟨free, room⟩ := (admitted_iff connected).mp (admitted _ start announced)
    rw [alike.locks] at free
    rw [counts _ start] at room
    exact ⟨free, room⟩
  · rintro ⟨free, room⟩ later after announced
    have earliest : now + (max retryAfter 0 : Int) ≤ later := by
      rcases le_total 0 retryAfter with positive | negative
      · rwa [max_eq_left positive]
      · rwa [max_eq_right negative, Int.cast_zero, add_zero]
    rw [admitted_iff connected, alike.locks, counts later after]
    exact ⟨free.trans earliest, (countAt_antitone params key s earliest).trans_lt room⟩

/-- Where nothing of the lock is cut off, a refused call is told how long the key stays closed. -/
theorem announced_eq_wait
    (refused : checkEscalatingRateLimit params key now s = (.rateLimitExceeded retryAfter, t))
    (ends : now < s.locks key → s.locks key - now ≤ 1 ∨ ∃ whole : Int, s.locks key - now = whole) :
    ((max retryAfter 0 : Int) : Rat) = s.wait params key now := by
  rw [EscalatingStore.wait]
  obtain ⟨_, ⟨locked, rfl, _⟩ | ⟨free, step, _⟩⟩ := refused_cases refused
  · rw [if_pos locked, max_eq_left (Int.zero_le_ofNat 1 |>.trans (le_max_left _ _))]
    rcases ends locked with short | ⟨whole, isWhole⟩
    · have floored : (s.locks key - now).floor ≤ 1 :=
        Int.cast_le.mp ((Rat.floor_le _).trans (by exact_mod_cast short))
      rw [max_eq_left floored, max_eq_left short, Int.cast_one]
    · rw [isWhole, Rat.floor_intCast, Int.cast_max, Int.cast_one]
  · rw [if_neg (not_lt.mpr free), step, Option.getD_some, max_comm, Int.cast_max, Int.cast_zero]

/-- After any calls at times that do not decrease, every next call for the key that comes so late
as a refused one was told is admitted, exactly if the lock that it met had whole seconds left, or
not more than one, and the calls of the key that are still in the window when the key opens again
are fewer than the limit. -/
theorem retry_after_honest_iff (params : EscalatingLimit) (config : RateLimitConfig)
    {history calls : List RateCall} (ordered : (history.map (·.now)).Pairwise (· ≤ ·))
    (reached : s = runCalls params history (.fresh config))
    (refused : checkEscalatingRateLimit params key now s = (.rateLimitExceeded retryAfter, t))
    (others : ∀ call ∈ calls, call.key ≠ key) :
    (∀ later, now ≤ later → now + retryAfter ≤ later →
      (checkEscalatingRateLimit params key later (runCalls params calls t)).1 = .admitted) ↔
    (now < s.locks key → s.locks key - now ≤ 1 ∨ ∃ whole : Int, s.locks key - now = whole) ∧
      ((s.base.rateEvents (escalatingKey key)).filter fun hit =>
        now - hit + s.wait params key now < params.windowSeconds).length < params.limit := by
  have sorted : (s.base.rateEvents (escalatingKey key)).Pairwise (· ≤ ·) :=
    reached ▸ runCalls_sorted _ ordered
  rw [admitted_later_iff params refused others]
  refine and_congr_right fun ends => ?_
  rw [announced_eq_wait refused ends, EscalatingStore.countAt,
    SlidingWindow.dropWhile_eq_counting sorted, SlidingWindow.counting]
  have ages (hit : Rat) : now + s.wait params key now - (params.windowSeconds : Rat) < hit ↔
      now - hit + s.wait params key now < params.windowSeconds := by
    rw [sub_lt_iff_lt_add, sub_add_eq_add_sub, sub_lt_iff_lt_add, add_comm hit]
  simp only [ages]

/-- One call in ten seconds, with locks of two seconds and then of a minute. -/
def sampleLimit (windowSeconds : Int) : EscalatingLimit := ⟨1, windowSeconds, [2, 60], 900⟩

/-- With a window of two seconds the announced lock is enough. -/
theorem retry_after_honest_short :
    let s := runCalls (sampleLimit 2) [⟨"k", 0⟩] (.fresh ⟨5, 60⟩)
    (checkEscalatingRateLimit (sampleLimit 2) "k" 1 s).1 = .rateLimitExceeded 2 ∧
    ∀ later, 1 ≤ later → 1 + ((2 : Int) : Rat) ≤ later →
      (checkEscalatingRateLimit (sampleLimit 2) "k" later
      (runCalls (sampleLimit 2) [] (checkEscalatingRateLimit (sampleLimit 2) "k" 1 s).2)).1 =
        .admitted := by
  intro s
  have outcome : (checkEscalatingRateLimit (sampleLimit 2) "k" 1 s).1 = .rateLimitExceeded 2 := by
    decide +kernel
  refine ⟨outcome, (retry_after_honest_iff (sampleLimit 2) ⟨5, 60⟩ (List.pairwise_singleton _ _) rfl
    (Prod.ext outcome rfl) (by simp)).mpr ⟨?_, by decide +kernel⟩⟩
  exact fun locked => absurd locked (by decide +kernel)

/-- A call that waits the two seconds that it was told finds the window full; one that asks half a
second into the lock is told one second of the one and a half that are left. -/
theorem retry_after_too_short :
    let s := runCalls (sampleLimit 10) [⟨"k", 0⟩, ⟨"k", 1⟩] (.fresh ⟨5, 60⟩)
    (checkEscalatingRateLimit (sampleLimit 10) "k" 1
      (runCalls (sampleLimit 10) [⟨"k", 0⟩] (.fresh ⟨5, 60⟩))).1 = .rateLimitExceeded 2 ∧
    (checkEscalatingRateLimit (sampleLimit 10) "k" 3 s).1 = .rateLimitExceeded 60 ∧
    (checkEscalatingRateLimit (sampleLimit 10) "k" (3 / 2) s).1 = .rateLimitExceeded 1 ∧
    (checkEscalatingRateLimit (sampleLimit 10) "k" (5 / 2)
      (checkEscalatingRateLimit (sampleLimit 10) "k" (3 / 2) s).2).1 = .rateLimitExceeded 1 := by
  decide +kernel

end honesty

end K8sOps.Session
