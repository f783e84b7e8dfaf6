import Mathlib.Algebra.Order.Ring.Unbundled.Rat
import Mathlib.Algebra.Order.Ring.Rat
import K8sOps.SlidingWindow
import K8sOps.Transition

/-! The rate limit of the in-memory session store. For each key it keeps the times of the
admitted calls, of which it drops the ones that no longer count at the next call. -/
namespace K8sOps.Session
open SlidingWindow Transition

section model

structure RateLimitConfig where
  rateLimit : Int
  rateLimitWindowSeconds : Int

/-- The part of the store that limits calls. -/
structure MemorySessionStore where
  config : RateLimitConfig
  connected : Bool
  rateEvents : String → List Rat

inductive RateOutcome where
  | notConnected
  | admitted
  | rateLimitExceeded (retryAfter : Int)
  | indexError
  deriving DecidableEq

def MemorySessionStore.setEvents (store : MemorySessionStore) (key : String)
    (events : List Rat) : MemorySessionStore :=
  { store with rateEvents := fun other => if other = key then events else store.rateEvents other }

theorem MemorySessionStore.setEvents_self (store : MemorySessionStore) (key : String) :
    store.setEvents key (store.rateEvents key) = store := by
  have same : (fun other => if other = key then store.rateEvents key else store.rateEvents other) =
      store.rateEvents := by
    funext other
    split
    next own => rw [own]
    next => rfl
  rw [MemorySessionStore.setEvents, same]

def MemorySessionStore.threshold (store : MemorySessionStore) (limit : Option Int) : Int :=
  limit.getD store.config.rateLimit

def MemorySessionStore.window (store : MemorySessionStore) (windowSeconds : Option Int) : Int :=
  windowSeconds.getD store.config.rateLimitWindowSeconds

/-- `items[index]`, from the end where the index is negative. -/
def pythonIndex (items : List α) (index : Int) : Option α :=
  if 0 ≤ index then items[index.toNat]?
  else if -index ≤ items.length then items[(items.length + index).toNat]?
  else none

/-- A limit that admits nothing is exceeded without an event to wait for. -/
def checkRateLimit (key : String) (limit windowSeconds : Option Int) (now : Rat)
    (store : MemorySessionStore) : RateOutcome × MemorySessionStore :=
  if !store.connected then (.notConnected, store)
  else
    let window : Rat := store.window windowSeconds
    let events := (store.rateEvents key).dropWhile (· ≤ now - window)
    if store.threshold limit ≤ events.length then
      match events with
      | [] => (.indexError, store.setEvents key [])
      | first :: _ =>
        (.rateLimitExceeded (max 1 (first + window - now).ceil), store.setEvents key events)
    else (.admitted, store.setEvents key (events ++ [now]))

end model

section history

structure RateCall where
  key : String
  now : Rat

/-- The store, and the calls so far with how they ended. -/
structure RateHistory where
  store : MemorySessionStore
  log : List (RateCall × RateOutcome)

def RateHistory.fresh (config : RateLimitConfig) (connected : Bool) : RateHistory :=
  ⟨⟨config, connected, fun _ => []⟩, []⟩

def nextCheck (limit windowSeconds : Option Int) (s : RateHistory)
    (call : RateCall) : Option RateHistory :=
  let checked := checkRateLimit call.key limit windowSeconds call.now s.store
  some ⟨checked.2, s.log ++ [(call, checked.1)]⟩

/-- The clock does not go back. -/
def InOrder (s : RateHistory) (call : RateCall) : Prop := ∀ entry ∈ s.log, entry.1.now ≤ call.now

instance (s : RateHistory) (call : RateCall) : Decidable (InOrder s call) :=
  inferInstanceAs (Decidable (∀ entry ∈ s.log, entry.1.now ≤ call.now))

/-- When the calls of a key were admitted. -/
def admittedTimes (key : String) (log : List (RateCall × RateOutcome)) : List Rat :=
  (log.filter fun entry => entry.1.key = key ∧ entry.2 = .admitted).map (·.1.now)

theorem admittedTimes_append (key : String) (log : List (RateCall × RateOutcome)) (call : RateCall)
    (outcome : RateOutcome) :
    admittedTimes key (log ++ [(call, outcome)]) =
      admittedTimes key log ++ if call.key = key ∧ outcome = .admitted then [call.now] else [] := by
  rw [admittedTimes, admittedTimes, List.filter_append, List.map_append, List.filter_cons,
    List.filter_nil]
  simp only [decide_eq_true_eq]
  split <;> rfl

end history

section bound
variable {limit windowSeconds : Option Int} {s t : RateHistory} {call : RateCall}
  {outcome : RateOutcome}

def RateHistory.counting (windowSeconds : Option Int) (s : RateHistory) (key : String)
    (now : Rat) : List Rat :=
  SlidingWindow.counting (s.store.window windowSeconds : Rat) now (admittedTimes key s.log)

/-- The events of each key are the admitted calls that still count, and perhaps older ones. -/
structure Tracks (windowSeconds : Option Int) (s : RateHistory) : Prop where
  sublist : ∀ key, (s.store.rateEvents key).Sublist (admittedTimes key s.log)
  sorted : ∀ key, (admittedTimes key s.log).Pairwise (· ≤ ·)
  kept : ∀ key now, (∀ entry ∈ s.log, entry.1.now ≤ now) →
    SlidingWindow.counting (s.store.window windowSeconds : Rat) now (s.store.rateEvents key) =
      s.counting windowSeconds key now

theorem tracks_fresh (windowSeconds : Option Int) (config : RateLimitConfig) (connected : Bool) :
    Tracks windowSeconds (.fresh config connected) :=
  ⟨fun _ => .slnil, fun _ => .nil, fun _ _ _ => rfl⟩

/-- What a check does: it forgets the calls that no longer count, and adds its own if there
is room. -/
inductive Checked (limit windowSeconds : Option Int) (s : RateHistory) (call : RateCall) :
    RateHistory → Prop where
  | notConnected : Checked limit windowSeconds s call
      ⟨s.store.setEvents call.key (s.store.rateEvents call.key), s.log ++ [(call, .notConnected)]⟩
  | refused (outcome : RateOutcome) (other : outcome ≠ .admitted)
      (full : s.store.threshold limit ≤ (s.counting windowSeconds call.key call.now).length) :
      Checked limit windowSeconds s call
        ⟨s.store.setEvents call.key (s.counting windowSeconds call.key call.now),
          s.log ++ [(call, outcome)]⟩
  | admitted (room : (s.counting windowSeconds call.key call.now).length <
    s.store.threshold limit) :
      Checked limit windowSeconds s call
        ⟨s.store.setEvents call.key (s.counting windowSeconds call.key call.now ++ [call.now]),
          s.log ++ [(call, .admitted)]⟩

theorem Tracks.checked (tracks : Tracks windowSeconds s)
    (step : Step (nextCheck limit windowSeconds) InOrder s call t) :
    Checked limit windowSeconds s call t := by
  obtain ⟨ordered, stepped⟩ := step
  cases stepped
  have pruned : (s.store.rateEvents call.key).dropWhile (· ≤
      call.now - (s.store.window windowSeconds : Rat)) =
      s.counting windowSeconds call.key call.now := by
    rw [dropWhile_eq_counting ((tracks.sorted call.key).sublist (tracks.sublist call.key))]
    exact tracks.kept call.key call.now ordered
  rw [checkRateLimit]
  split
  next =>
    have unchanged : Checked limit windowSeconds s call _ := .notConnected
    rw [MemorySessionStore.setEvents_self] at unchanged
    exact unchanged
  next =>
    dsimp only
    rw [pruned]
    split
    next full =>
      split
      next nothing =>
        have refused : Checked limit windowSeconds s call _ := .refused .indexError (by decide) full
        rw [nothing] at refused
        exact refused
      next first others events =>
        refine .refused _ ?_ full
        intro same
        cases same
    next room => exact .admitted (not_le.mp room)

theorem Tracks.grow (tracks : Tracks windowSeconds s) (ordered : InOrder s call) (events : List Rat)
    (sublist : events.Sublist (admittedTimes call.key (s.log ++ [(call, outcome)])))
    (kept : ∀ now, call.now ≤ now →
      SlidingWindow.counting (s.store.window windowSeconds : Rat) now events =
      SlidingWindow.counting (s.store.window windowSeconds : Rat) now
      (admittedTimes call.key (s.log ++ [(call, outcome)]))) :
    Tracks windowSeconds ⟨s.store.setEvents call.key events, s.log ++ [(call, outcome)]⟩ := by
  have others {key : String} (other : key ≠ call.key) :
      admittedTimes key (s.log ++ [(call, outcome)]) = admittedTimes key s.log := by
    rw [admittedTimes_append, if_neg fun own => other own.1.symm, List.append_nil]
  constructor
  · intro key
    rw [MemorySessionStore.setEvents]
    dsimp only
    split
    next own => exact own ▸ sublist
    next other => exact (others other).symm ▸ tracks.sublist key
  · intro key
    rw [admittedTimes_append, List.pairwise_append]
    refine ⟨tracks.sorted key, ?_, ?_⟩
    · split
      · exact List.pairwise_singleton _ _
      · exact .nil
    · intro earlier member later isLater
      split at isLater
      next =>
        cases List.mem_singleton.mp isLater
        obtain ⟨entry, among, rfl⟩ := List.mem_map.mp member
        exact ordered entry (List.mem_of_mem_filter among)
      next => cases isLater
  · intro key now past
    have earlier : ∀ entry ∈ s.log, entry.1.now ≤ now :=
      fun entry member => past entry (List.mem_append_left _ member)
    have last : call.now ≤ now :=
      past (call, outcome) (List.mem_append_right _ (List.mem_singleton_self _))
    rw [MemorySessionStore.setEvents, RateHistory.counting]
    dsimp only
    split
    next own => exact own ▸ kept now last
    next other =>
      rw [others other]
      exact tracks.kept key now earlier

theorem Tracks.stays (windowSeconds : Option Int) :
    Stable (Step (nextCheck limit windowSeconds) InOrder) (Tracks windowSeconds) := by
  intro s call t step tracks
  have ordered := step.1
  have again (now : Rat) (later : call.now ≤ now) :
      SlidingWindow.counting (s.store.window windowSeconds : Rat) now
        (s.counting windowSeconds call.key call.now) =
        s.counting windowSeconds call.key now := counting_counting later
  cases tracks.checked step with
  | notConnected =>
    refine tracks.grow ordered _ ?_ fun now later => ?_
    · rw [admittedTimes_append, if_neg (by simp), List.append_nil]
      exact tracks.sublist call.key
    · rw [admittedTimes_append, if_neg (by simp), List.append_nil]
      exact tracks.kept call.key now fun entry member => (ordered entry member).trans later
  | refused outcome other full =>
    refine tracks.grow ordered _ ?_ fun now later => ?_
    · rw [admittedTimes_append, if_neg (by simp [other]), List.append_nil]
      exact List.filter_sublist
    · rw [admittedTimes_append, if_neg (by simp [other]), List.append_nil]
      exact again now later
  | admitted room =>
    refine tracks.grow ordered _ ?_ fun now later => ?_
    · rw [admittedTimes_append, if_pos ⟨rfl, rfl⟩]
      exact List.filter_sublist.append (List.Sublist.refl _)
    · rw [admittedTimes_append, if_pos ⟨rfl, rfl⟩, counting_append, counting_append,
        again now later]
      rfl

/-- Every window has at most the admitted calls of the limit, and every call that was
refused found so many of them. -/
structure Limited (limit windowSeconds : Option Int) (s : RateHistory) : Prop where
  within : ∀ key, Within (s.store.window windowSeconds : Rat) (s.store.threshold limit)
      (admittedTimes key s.log)
  justified : ∀ earlier call retryAfter, earlier ++
    [(call, RateOutcome.rateLimitExceeded retryAfter)] <+: s.log →
    s.store.threshold limit ≤ (SlidingWindow.counting (s.store.window windowSeconds : Rat) call.now
      (admittedTimes call.key earlier)).length

/-- The log grows by a call that is admitted only where there is room, and refused only
where there is none. -/
theorem Limited.grow (limited : Limited limit windowSeconds s) (events : List Rat)
    (room : outcome = .admitted →
      (s.counting windowSeconds call.key call.now).length < s.store.threshold limit)
    (full : ∀ retryAfter, outcome = .rateLimitExceeded retryAfter →
      s.store.threshold limit ≤ (s.counting windowSeconds call.key call.now).length) :
    Limited limit windowSeconds ⟨s.store.setEvents call.key events,
      s.log ++ [(call, outcome)]⟩ := by
  constructor
  · intro key
    rw [admittedTimes_append]
    split
    next own =>
      obtain ⟨rfl, isAdmitted⟩ := own
      exact (limited.within call.key).append (room isAdmitted)
    next =>
      rw [List.append_nil]
      exact limited.within key
  · intro earlier other retryAfter isPart
    rcases List.prefix_concat_iff.mp isPart with whole | before
    · obtain ⟨rfl, last⟩ := List.append_inj' whole rfl
      cases List.singleton_inj.mp last
      exact full retryAfter rfl
    · exact limited.justified earlier other retryAfter before

theorem Limited.step (limited : Limited limit windowSeconds s) (tracks : Tracks windowSeconds s)
    (step : Step (nextCheck limit windowSeconds) InOrder s call t) :
    Limited limit windowSeconds t := by
  cases tracks.checked step with
  | notConnected => exact limited.grow _ (fun same => by cases same) (fun _ same => by cases same)
  | refused outcome other full =>
    exact limited.grow _ (fun same => absurd same other) fun _ _ => full
  | admitted room => exact limited.grow _ (fun _ => room) (fun _ same => by cases same)

theorem limited_fresh {config : RateLimitConfig} {connected : Bool}
    (nonneg : 0 ≤ limit.getD config.rateLimit) :
    Limited limit windowSeconds (.fresh config connected) := by
  constructor
  · intro key start
    exact nonneg
  · intro earlier call retryAfter isPart
    cases List.append_ne_nil_of_right_ne_nil earlier (List.cons_ne_nil _ _)
      (List.prefix_nil.mp isPart)

theorem config_constant (run : Run (Step (nextCheck limit windowSeconds) InOrder) s calls t) :
    t.store.config = s.store.config := by
  induction run with
  | nil => rfl
  | cons first _ later =>
    rw [later]
    cases first.2
    dsimp only
    rw [checkRateLimit]
    split
    next => rfl
    next =>
      dsimp only
      split
      next => split <;> rfl
      next => rfl

theorem log_calls (run : Run (Step (nextCheck limit windowSeconds) InOrder) s calls t) :
    t.log.map Prod.fst = s.log.map Prod.fst ++ calls := by
  induction run with
  | nil => rw [List.append_nil]
  | cons first _ later =>
    cases first.2
    rw [later, List.map_append, List.append_assoc]
    rfl

/-- In every interval of the length of the window at most so many calls of a key are
admitted as the limit says, and a call is refused only if so many admitted ones are less
than a window before it. -/
theorem rate_limit_sliding (config : RateLimitConfig) (connected : Bool)
    (nonneg : 0 ≤ limit.getD config.rateLimit)
    (run : Run (Step (nextCheck limit windowSeconds) InOrder) (.fresh config connected) calls s) :
    s.log.map Prod.fst = calls ∧
    (∀ key start, ((admittedTimes key s.log).filter fun t =>
        start ≤ t ∧ t < start + (windowSeconds.getD config.rateLimitWindowSeconds : Rat)).length ≤
      limit.getD config.rateLimit) ∧
    ∀ earlier call retryAfter, earlier ++ [(call, RateOutcome.rateLimitExceeded retryAfter)] <+:
      s.log → limit.getD config.rateLimit ≤ ((admittedTimes call.key earlier).filter fun t =>
        call.now - t < (windowSeconds.getD config.rateLimitWindowSeconds : Rat)).length := by
  have invariant : Tracks windowSeconds s ∧ Limited limit windowSeconds s := by
    refine run.holds (P := fun s => Tracks windowSeconds s ∧ Limited limit windowSeconds s) ?_
      ⟨tracks_fresh windowSeconds config connected, limited_fresh nonneg⟩
    rintro s call t step ⟨tracks, limited⟩
    exact ⟨Tracks.stays windowSeconds step tracks, limited.step tracks step⟩
  have limited := invariant.2
  have threshold : s.store.threshold limit = limit.getD config.rateLimit := by
    rw [MemorySessionStore.threshold, config_constant run]
    rfl
  have window : s.store.window windowSeconds =
      windowSeconds.getD config.rateLimitWindowSeconds := by
    rw [MemorySessionStore.window, config_constant run]
    rfl
  rw [← threshold, ← window]
  refine ⟨log_calls run, fun key start => limited.within key start, ?_⟩
  intro earlier call retryAfter isPart
  have justified := limited.justified earlier call retryAfter isPart
  rw [SlidingWindow.counting] at justified
  simpa only [sub_lt_comm] using justified

def sampleCalls : List RateCall := [⟨"k", 0⟩, ⟨"k", 4⟩, ⟨"k", 9⟩, ⟨"k", 10⟩]

theorem rate_limit_sliding_sample : ∃ s,
    execute (nextCheck (some 2) (some 10)) InOrder (.fresh ⟨5, 60⟩ true) sampleCalls = some s ∧
    s.log.map Prod.snd = [.admitted, .admitted, .rateLimitExceeded 1, .admitted] ∧
    ∀ start, ((admittedTimes "k" s.log).filter fun t => start ≤ t ∧ t < start + 10).length ≤
      (2 : Int) := by
  have outcomes :
      (execute (nextCheck (some 2) (some 10)) InOrder (.fresh ⟨5, 60⟩ true) sampleCalls).map
      (·.log.map Prod.snd) = some [.admitted, .admitted, .rateLimitExceeded 1, .admitted] := by
        decide +kernel
  obtain ⟨s, executed, outcomes⟩ := Option.map_eq_some_iff.mp outcomes
  obtain ⟨_, bounded, _⟩ := rate_limit_sliding ⟨5, 60⟩ true (by decide) (execute_run executed)
  exact ⟨s, executed, outcomes, bounded "k"⟩

end bound

end K8sOps.Session
