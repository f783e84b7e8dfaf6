import K8sOps.Rca.Verification

/-! The stored stretch is exact. Over any sequence of deliveries, healthy_since,
last_healthy_observed_at and the counter describe the longest streak of healthy
windows that ends the accepted ones, and a verdict completes the verification
exactly when that streak is long enough. -/
namespace K8sOps.Rca
open Python Streak
variable (codec : Codec) (planPayload : Entries)

/-- One delivery: the evidence window, the alerts selected for the plan and the
database time. -/
structure Delivery where
  evidence : Entries
  alerts : List Entries
  now : Int

/-- An accepted window: its start, the time it was judged and whether every check passed. -/
structure Window where
  observedAt : Int
  judgedAt : Int
  healthy : Bool
  deriving DecidableEq

/-- A window is accepted when it is neither a duplicate nor stale. -/
def acceptedWindow (verification : Verification) (delivery : Delivery) : Option Window :=
  if isDuplicate verification delivery.evidence then none
  else
    (trustedStart codec verification delivery.evidence delivery.now).map fun observedAt =>
      ⟨observedAt, delivery.now, allPassed
        (windowAfter codec planPayload verification delivery.evidence delivery.alerts
          delivery.now).checks⟩

def judge (verification : Verification) (delivery : Delivery) : VerificationDecision :=
  evaluateRecoveryEvidence codec planPayload verification delivery.evidence
    delivery.alerts delivery.now

/-- The verification goes on only after a pending verdict. -/
def deliver (verification : Verification) (delivery : Delivery) : Option Verification :=
  let decision := judge codec planPayload verification delivery
  if decision.status = .pending then some (verification.record decision) else none

def deliverAll (verification : Verification) (deliveries : List Delivery) : Option Verification :=
  deliveries.foldlM (deliver codec planPayload) verification

def acceptedWindows (verification : Verification) : List Delivery → List Window
  | [] => []
  | delivery :: deliveries =>
    (acceptedWindow codec planPayload verification delivery).toList ++
      acceptedWindows (verification.record (judge codec planPayload verification delivery))
        deliveries

/-- Windows in a streak are healthy, start later and later, and lie at most one and
a half periods apart. -/
def windowRule (cadence : Nat) : Rule Window where
  time := Window.observedAt
  good := Window.healthy
  follows previous next := previous < next && 2 * (next - previous) ≤ 3 * (cadence * second)

def span (run : List Window) : Int :=
  match run.head?, run.getLast? with
  | some first, some last => last.observedAt - first.observedAt
  | _, _ => 0

def Verification.clock (verification : Verification) : Clock :=
  ⟨verification.healthySince, verification.lastHealthyObservedAt,
    verification.distinctEvidenceCount⟩

def VerificationDecision.clock (decision : VerificationDecision) : Clock :=
  ⟨decision.healthySince, decision.lastHealthyObservedAt, decision.distinctEvidenceCount⟩

/-- The clock shows a stretch of the required time and number of windows. -/
def Stabilized (minimum cadence : Nat) (clock : Clock) : Prop :=
  ∃ since last, clock.since = some since ∧ clock.last = some last ∧
    minimum * second ≤ last - since ∧ minimumDistinct minimum cadence ≤ clock.count

theorem minimum_bounds (verification : Verification) :
    300 ≤ verification.minimum codec ∧ verification.minimum codec ≤ 600 := by
  unfold Verification.minimum boundedSeconds defaultMinimumSeconds defaultMaximumSeconds
  split <;> omega

theorem advance_eq (verification : Verification) :
    verification.clock.advance (windowRule cadence).follows observedAt =
      ⟨some ((continuedStretch verification cadence observedAt).1.getD observedAt), some observedAt,
        (continuedStretch verification cadence observedAt).2 + 1⟩ := by
  unfold Clock.advance continuedStretch windowRule Verification.clock
  cases verification.lastHealthyObservedAt with
  | none => rfl
  | some previous =>
    dsimp only
    by_cases broken : observedAt - previous ≤ 0 ∨
      3 * (cadence * second) < 2 * (observedAt - previous)
    · have refused : ¬(previous < observedAt ∧
          2 * (observedAt - previous) ≤ 3 * (cadence * second)) := by
        omega
      rw [if_pos broken, if_neg (by simpa only [Bool.and_eq_true, decide_eq_true_eq] using refused)]
      rfl
    · have accepted : previous < observedAt ∧
          2 * (observedAt - previous) ≤ 3 * (cadence * second) := by
        omega
      rw [if_neg broken,
        if_pos (by simpa only [Bool.and_eq_true, decide_eq_true_eq] using accepted)]

theorem stabilized_iff : Stabilized minimum cadence ⟨some since, some last, count⟩ ↔
    minimum * second ≤ last - since ∧ minimumDistinct minimum cadence ≤ count := by
  simp [Stabilized]

/-- A healthy window advances the stretch, and completes the verification exactly
when the stretch is then long enough. -/
theorem healthyDecision_spec (verification : Verification) (after : After) :
    let decision := healthyDecision codec verification after cadence key observedAt now
    decision.clock = verification.clock.advance (windowRule cadence).follows observedAt ∧
      (decision.status = .completed ↔
        Stabilized (verification.minimum codec) cadence decision.clock) := by
  rw [advance_eq]
  have positive : 0 < (verification.minimum codec : Int) * second := by
    have := (minimum_bounds codec verification).1
    unfold second
    omega
  dsimp only [healthyDecision, VerificationDecision.clock]
  split
  next short =>
    refine ⟨by split <;> rfl, ?_⟩
    have unstable : ¬Stabilized (verification.minimum codec) cadence
        ⟨some ((continuedStretch verification cadence observedAt).1.getD observedAt),
          some observedAt, (continuedStretch verification cadence observedAt).2 + 1⟩ := by
      rw [stabilized_iff]
      omega
    split <;> simpa using unstable
  next long =>
    refine ⟨rfl, iff_of_true rfl (stabilized_iff.mpr ?_)⟩
    dsimp only
    omega

theorem judge_rejected (rejected : acceptedWindow codec planPayload verification delivery = none) :
    (judge codec planPayload verification delivery).status = .pending ∧
      (judge codec planPayload verification delivery).clock = verification.clock ∧
      (judge codec planPayload verification delivery).lastEvidenceKey =
        verification.lastEvidenceKey := by
  unfold acceptedWindow at rejected
  unfold judge evaluateRecoveryEvidence
  split at rejected
  next duplicate =>
    rw [if_pos duplicate]
    exact ⟨rfl, rfl, rfl⟩
  next fresh =>
    rw [if_neg fresh, Option.map_eq_none_iff.mp rejected]
    exact ⟨rfl, rfl, rfl⟩

theorem unhealthyDecision_spec (verification : Verification) (after : After) :
    (unhealthyDecision verification after key now).clock = .empty ∧
      (unhealthyDecision verification after key now).status ≠ .completed := by
  unfold unhealthyDecision
  dsimp only
  split <;> exact ⟨rfl, nofun⟩

/-- An accepted window is observed by the clock, and completes the verification
exactly when it is healthy and the stretch is then long enough. -/
theorem judge_accepted (period : verification.cadence codec = some cadence) (positive : 0 < cadence)
    (accepted : acceptedWindow codec planPayload verification delivery = some window) :
    let decision := judge codec planPayload verification delivery
    decision.clock = verification.clock.observe (windowRule cadence) window ∧
      (decision.status = .completed ↔
        window.healthy = true ∧
          Stabilized (verification.minimum codec) cadence decision.clock) := by
  simp only [acceptedWindow, Option.ite_none_left_eq_some, Option.map_eq_some_iff] at accepted
  obtain ⟨fresh, observedAt, trusted, rfl⟩ := accepted
  obtain ⟨periods, rfl⟩ := Nat.exists_eq_succ_of_ne_zero positive.ne'
  unfold judge evaluateRecoveryEvidence Clock.observe
  simp only [fresh, trusted, period, windowRule, Bool.false_eq_true, if_false]
  by_cases healthy : allPassed
      (windowAfter codec planPayload verification delivery.evidence delivery.alerts
        delivery.now).checks = true
  · obtain ⟨noneFailed, noneMissing⟩ := (allPassed_iff _).mp healthy
    simp only [noneFailed, noneMissing, healthy, ne_eq, not_true_eq_false, or_self, if_false,
      if_true, true_and]
    exact healthyDecision_spec codec verification _
  · have interrupted := mt (allPassed_iff _).mpr healthy
    rw [not_and_or] at interrupted
    obtain ⟨clock, status⟩ := unhealthyDecision_spec verification
      (windowAfter codec planPayload verification delivery.evidence delivery.alerts delivery.now)
    simp only [healthy, ne_eq, interrupted, if_true, if_false, false_and, iff_false,
      Bool.false_eq_true]
    exact ⟨clock, status⟩

theorem deliver_eq_some (delivered : deliver codec planPayload verification delivery = some next) :
    next = verification.record (judge codec planPayload verification delivery) := by
  unfold deliver at delivered
  simp only [Option.ite_none_right_eq_some, Option.some.injEq] at delivered
  exact delivered.2.symm

theorem deliverAll_cons
    (delivered : deliverAll codec planPayload verification (delivery :: deliveries) =
      some current) :
    deliverAll codec planPayload
      (verification.record (judge codec planPayload verification delivery)) deliveries =
      some current := by
  unfold deliverAll at delivered
  rw [List.foldlM_cons] at delivered
  obtain ⟨next, first, rest⟩ := Option.bind_eq_some_iff.mp delivered
  obtain rfl := deliver_eq_some codec planPayload first
  exact rest

theorem judge_tracks (delivery : Delivery) (period : verification.cadence codec = some cadence)
    (positive : 0 < cadence) (tracks : verification.clock.Tracks (windowRule cadence) seen) :
    (judge codec planPayload verification delivery).clock.Tracks (windowRule cadence)
      (seen ++ (acceptedWindow codec planPayload verification delivery).toList) := by
  cases outcome : acceptedWindow codec planPayload verification delivery with
  | none =>
    rw [(judge_rejected codec planPayload outcome).2.1]
    simpa using tracks
  | some window =>
    rw [(judge_accepted codec planPayload period positive outcome).1]
    exact Clock.observe_tracks tracks

/-- Along every pending run the stored stretch describes the accepted windows, and the settings of
the verification stay as they were. -/
theorem deliverAll_tracks (period : verification.cadence codec = some cadence)
    (positive : 0 < cadence) (tracks : verification.clock.Tracks (windowRule cadence) seen)
    (pending : deliverAll codec planPayload verification deliveries = some current) :
    current.clock.Tracks (windowRule cadence)
        (seen ++ acceptedWindows codec planPayload verification deliveries) ∧
      current.cadence codec = some cadence ∧ current.minimum codec = verification.minimum codec ∧
      current.startedAt = verification.startedAt := by
  induction deliveries generalizing verification seen with
  | nil =>
    obtain rfl : verification = current := by simpa [deliverAll] using pending
    exact ⟨by simpa [acceptedWindows] using tracks, period, rfl, rfl⟩
  | cons delivery deliveries ih =>
    have rest := deliverAll_cons codec planPayload pending
    have followed := judge_tracks codec planPayload delivery period positive tracks
    have samePeriod :
        (verification.record (judge codec planPayload verification delivery)).cadence codec =
        some cadence := period
    obtain ⟨later, kept⟩ := ih samePeriod followed rest
    exact ⟨by simpa [acceptedWindows] using later, kept⟩

theorem deliverAll_cadence
    (pending : deliverAll codec planPayload verification deliveries = some current) :
    current.cadence codec = verification.cadence codec := by
  induction deliveries generalizing verification with
  | nil =>
    obtain rfl : verification = current := by simpa [deliverAll] using pending
    rfl
  | cons delivery deliveries ih =>
    have sameCadence := ih (deliverAll_cons codec planPayload pending)
    exact sameCadence

theorem trustedStart_some
    (trusted : trustedStart codec verification evidence now = some observedAt) :
    codec.parseDatetime (getOrNone "window_start" evidence) = some observedAt ∧
      ∃ startedAt, verification.startedAt = some startedAt ∧ startedAt ≤ observedAt ∧
        observedAt ≤ now := by
  unfold trustedStart at trusted
  split at trusted
  next parsed begun =>
    simp only [Option.ite_none_left_eq_some, Option.some.injEq] at trusted
    obtain ⟨within, rfl⟩ := trusted
    exact ⟨parsed, _, begun, by omega, by omega⟩
  next => cases trusted

theorem acceptedWindow_bounds (begun : verification.startedAt = some startedAt)
    (accepted : acceptedWindow codec planPayload verification delivery = some window) :
    startedAt ≤ window.observedAt ∧ window.observedAt ≤ window.judgedAt := by
  simp only [acceptedWindow, Option.ite_none_left_eq_some, Option.map_eq_some_iff] at accepted
  obtain ⟨_, observedAt, trusted, rfl⟩ := accepted
  obtain ⟨_, start, started, bounds⟩ := trustedStart_some codec trusted
  cases started.symm.trans begun
  exact bounds

/-- Once the stretch is cleared, a verdict can at most start a new one with its own
window, and completes nothing. -/
theorem judge_cleared (cleared : verification.clock = .empty) (delivery : Delivery) :
    let decision := judge codec planPayload verification delivery
    decision.status ≠ .completed ∧ (decision.clock = .empty ∨
      ∃ start, codec.parseDatetime (getOrNone "window_start" delivery.evidence) = some start ∧
        decision.clock = ⟨some start, some start, 1⟩) := by
  dsimp only [judge, evaluateRecoveryEvidence]
  split
  next => exact ⟨nofun, .inl cleared⟩
  next =>
    split
    next => exact ⟨nofun, .inl cleared⟩
    next observedAt trusted =>
      split
      next =>
        obtain ⟨clock, status⟩ := unhealthyDecision_spec verification
          (windowAfter codec planPayload verification delivery.evidence
            delivery.alerts delivery.now)
        exact ⟨status, .inl clock⟩
      next =>
        split
        next => exact ⟨nofun, .inl rfl⟩
        next => exact ⟨nofun, .inl rfl⟩
        next cadence _ _ =>
          obtain ⟨clock, completed⟩ := healthyDecision_spec codec verification
            (windowAfter codec planPayload verification delivery.evidence
              delivery.alerts delivery.now)
          have started : verification.clock.advance (windowRule cadence).follows observedAt =
              ⟨some observedAt, some observedAt, 1⟩ := by
            rw [cleared]
            rfl
          rw [started] at clock
          refine ⟨?_, .inr ⟨observedAt, (trustedStart_some codec trusted).1, clock⟩⟩
          rw [ne_eq, completed, clock, stabilized_iff, Int.sub_self]
          have := (minimum_bounds codec verification).1
          unfold second
          omega

theorem acceptedWindows_bounds (begun : verification.startedAt = some startedAt)
    (member : window ∈ acceptedWindows codec planPayload verification deliveries) :
    startedAt ≤ window.observedAt ∧ window.observedAt ≤ window.judgedAt := by
  induction deliveries generalizing verification with
  | nil => simp [acceptedWindows] at member
  | cons delivery deliveries ih =>
    obtain now | later := List.mem_append.mp member
    · exact acceptedWindow_bounds codec planPayload begun (by simpa using now)
    · have sameStart :
          (verification.record (judge codec planPayload verification delivery)).startedAt =
          some startedAt := begun
      exact ih sameStart later

theorem stabilized_of_shows (shows : Clock.Shows (windowRule cadence) clock run) :
    Stabilized minimum cadence clock ↔
      minimum * second ≤ span run ∧ minimumDistinct minimum cadence ≤ run.length := by
  obtain ⟨since, last, count⟩ := shows
  cases first : run.head? with
  | none =>
    rw [List.head?_eq_none_iff.mp first] at since ⊢
    simp [Stabilized, since, minimumDistinct]
  | some earliest =>
    obtain ⟨latest, ends⟩ :=
      List.getLast?_isSome.mpr (List.ne_nil_of_mem (List.mem_of_mem_head? first)) |>
      Option.isSome_iff_exists.mp
    simp [Stabilized, since, last, count, span, first, ends, windowRule]

/-- The stability streak is exact: after any sequence of deliveries with pending
verdicts, the next verdict completes the verification exactly when its window is
accepted and healthy and the longest streak that ends in it is long enough. -/
theorem evaluateRecoveryEvidence_completed_iff (begun : verification.startedAt = some startedAt)
    (fresh : verification.clock = .empty) (period : verification.cadence codec = some cadence)
    (positive : 0 < cadence)
    (pending : deliverAll codec planPayload verification deliveries = some current)
    (delivery : Delivery) :
    300 ≤ verification.minimum codec ∧
    ((judge codec planPayload current delivery).status = .completed ↔
      ∃ window run, acceptedWindow codec planPayload current delivery = some window ∧
        window.healthy = true ∧
        (windowRule cadence).Longest
          (acceptedWindows codec planPayload verification deliveries ++ [window]) run ∧
        verification.minimum codec * second ≤ span run ∧
        minimumDistinct (verification.minimum codec) cadence ≤ run.length ∧
        ∀ member ∈ run, startedAt ≤ member.observedAt ∧ member.observedAt ≤ member.judgedAt) := by
  refine ⟨(minimum_bounds codec verification).1, ?_⟩
  obtain ⟨tracks, samePeriod, sameMinimum, sameStart⟩ :=
    deliverAll_tracks codec planPayload period positive
    (fresh ▸ Clock.empty_tracks) pending
  cases outcome : acceptedWindow codec planPayload current delivery with
  | none => simp [(judge_rejected codec planPayload outcome).1]
  | some window =>
    obtain ⟨_, completed⟩ := judge_accepted codec planPayload samePeriod positive outcome
    obtain ⟨run, longest, shows⟩ :=
      judge_tracks codec planPayload delivery samePeriod positive tracks
    rw [outcome, List.nil_append] at longest
    have members : ∀ member ∈ run, startedAt ≤ member.observedAt ∧
        member.observedAt ≤ member.judgedAt := by
      intro member inRun
      obtain earlier | latest := List.mem_append.mp (longest.ending.subset inRun)
      · exact acceptedWindows_bounds codec planPayload begun earlier
      · obtain rfl : member = window := by simpa using latest
        exact acceptedWindow_bounds codec planPayload (sameStart.trans begun) outcome
    rw [completed, sameMinimum, stabilized_of_shows shows]
    constructor
    · rintro ⟨healthy, long, many⟩
      exact ⟨window, run, rfl, healthy, longest, long, many, members⟩
    · rintro ⟨_, other, same, healthy, otherLongest, long, many, _⟩
      cases same
      cases longest.unique otherLongest
      exact ⟨healthy, long, many⟩

theorem acceptedWindows_append
    (pending : deliverAll codec planPayload verification deliveries = some current) :
    acceptedWindows codec planPayload verification (deliveries ++ [delivery]) =
      acceptedWindows codec planPayload verification deliveries ++
        (acceptedWindow codec planPayload current delivery).toList := by
  induction deliveries generalizing verification with
  | nil =>
    obtain rfl : verification = current := by simpa [deliverAll] using pending
    simp [acceptedWindows]
  | cons first deliveries ih =>
    simp only [List.cons_append, acceptedWindows, List.append_assoc]
    rw [ih (deliverAll_cons codec planPayload pending)]

theorem judge_completed_cadence
    (completed : (judge codec planPayload verification delivery).status = .completed) :
    ∃ cadence, verification.cadence codec = some cadence ∧ 0 < cadence := by
  unfold judge evaluateRecoveryEvidence at completed
  dsimp only at completed
  split at completed
  next => cases completed
  next =>
    split at completed
    next => cases completed
    next =>
      split at completed
      next => exact absurd completed (unhealthyDecision_spec _ _).2
      next =>
        split at completed
        next => cases completed
        next => cases completed
        next cadence positive period => exact ⟨cadence, period, Nat.pos_of_ne_zero positive⟩

/-- Every window that is accepted starts after all windows accepted before it. -/
def InOrder (verification : Verification) (deliveries : List Delivery) : Prop :=
  (acceptedWindows codec planPayload verification deliveries).Pairwise fun earlier later =>
    earlier.observedAt < later.observedAt

/-- The stretch of a completed recovery has no known regression: when windows are
accepted in the order of their starts, no window that was accepted and judged unhealthy
before starts between the start of the stretch and the window that completes it. -/
theorem completed_without_regression (fresh : verification.clock = .empty)
    (pending : deliverAll codec planPayload verification deliveries = some current)
    (inOrder : InOrder codec planPayload verification (deliveries ++ [delivery]))
    (completed : (judge codec planPayload current delivery).status = .completed) :
    ∃ window since, acceptedWindow codec planPayload current delivery = some window ∧
      (judge codec planPayload current delivery).healthySince = some since ∧
      ∀ earlier ∈ acceptedWindows codec planPayload verification deliveries,
        earlier.healthy = false →
        ¬(since ≤ earlier.observedAt ∧ earlier.observedAt ≤ window.observedAt) := by
  cases outcome : acceptedWindow codec planPayload current delivery with
  | none =>
    rw [(judge_rejected codec planPayload outcome).1] at completed
    cases completed
  | some window =>
    obtain ⟨cadence, period, positive⟩ := judge_completed_cadence codec planPayload completed
    have samePeriod : verification.cadence codec = some cadence :=
      (deliverAll_cadence codec planPayload pending).symm.trans period
    obtain ⟨tracks, _⟩ := deliverAll_tracks codec planPayload samePeriod positive
      (fresh ▸ Clock.empty_tracks) pending
    obtain ⟨_, exactly⟩ := judge_accepted codec planPayload period positive outcome
    obtain ⟨_, since, _, isSince, _⟩ := exactly.mp completed
    obtain ⟨run, longest, shows⟩ := judge_tracks codec planPayload delivery period positive tracks
    refine ⟨window, since, rfl, isSince, fun earlier member unhealthy => ?_⟩
    rintro ⟨within, _⟩
    -- The stretch is the end of the accepted windows, so an unhealthy one comes before all of it.
    obtain ⟨front, whole⟩ := longest.ending
    obtain ⟨first, isFirst, time⟩ := Option.map_eq_some_iff.mp (shows.1.symm.trans isSince)
    have firstInRun := List.mem_of_mem_head? isFirst
    unfold InOrder at inOrder
    rw [acceptedWindows_append codec planPayload pending, ← List.nil_append (_ ++ _),
      ← List.append_assoc, ← whole, List.pairwise_append] at inOrder
    have among : earlier ∈ front ++ run := by
      rw [whole]
      simp [member]
    obtain before | inRun := List.mem_append.mp among
    · have ordered := inOrder.2.2 earlier before first firstInRun
      have starts : first.observedAt = since := time
      omega
    · exact Bool.noConfusion ((longest.streak.1 earlier inRun).symm.trans unhealthy)

section sample

def textValue (value : String) : Value := .scalar (.str value)

def intValue (value : Int) : Value := .scalar (.int value)

def objectValue (fields : List (String × Value)) : Value :=
  .dict (fields.map fun field => (.str field.1, field.2))

/-- Four window starts are all the times that the samples name. -/
def sampleCodec : Codec where
  casefold value := value
  lower value := value
  parseInt _ := none
  parseFloat _ := none
  rounded value := value
  fromIsoformat value :=
    if value = "2026-07-01T00:00:00+00:00" then some 0
    else if value = "2026-07-01T00:02:30+00:00" then some (150 * second)
    else if value = "2026-07-01T00:05:00+00:00" then some (300 * second)
    else if value = "2026-07-01T00:07:30+00:00" then some (450 * second)
    else none
  isoformat _ := ""
  fromTimestamp _ := none

def sampleLabels : Value :=
  objectValue [("namespace", textValue "shop"), ("resource_kind", textValue "deployment"),
    ("resource_name", textValue "api"), ("service", textValue "api"),
    ("sli", textValue "availability"), ("symptom", textValue "failures")]

def sampleMetric (value : Int) : Value :=
  objectValue [("samples",
    .list [objectValue [("metric", sampleLabels), ("value", intValue value)]])]

/-- A window in which the deployment `api` serves with the given failure ratio. -/
def sampleEvidence (key start : String) (failureRatio : Int) : Entries :=
  asMapping (objectValue [
    ("evidence_key", textValue key),
    ("window_start", textValue start),
    ("metrics", objectValue [("results", objectValue [
      (standardFailureRatioMetric, sampleMetric failureRatio),
      (standardRequestRateMetric, sampleMetric 100)])]),
    ("metadata", objectValue [("current_workload_snapshots", .list [objectValue [
      ("workload", objectValue [("kind", textValue "deployment"), ("namespace", textValue "shop"),
        ("name", textValue "api"), ("generation", intValue 2)]),
      ("deployment_status", objectValue [("observed_generation", intValue 2),
        ("desired_replicas", intValue 3), ("ready_replicas", intValue 3),
        ("updated_replicas", intValue 3), ("available_replicas", intValue 3),
        ("unavailable_replicas", intValue 0)])]])])])

def sampleAlert : Entries :=
  asMapping (objectValue [
    ("event_id", textValue "alert-1"),
    ("subject", objectValue [("cluster", textValue "blue"), ("namespace", textValue "shop"),
      ("kind", textValue "deployment"), ("name", textValue "api")]),
    ("status", textValue "resolved"),
    ("resolved_at", textValue "2026-07-01T00:00:00+00:00")])

def sampleVerification : Verification where
  status := .verificationPending
  expected := asMapping (objectValue [("failure_ratio_max", intValue 0),
    ("request_rate_baseline", intValue 100), ("request_rate_tolerance_ratio", intValue 0),
    ("replicas", intValue 3), ("evidence_cadence_seconds", intValue 300)])
  target := some ⟨"blue", "shop", "deployment", "api"⟩
  startedAt := some 0
  deadlineAt := some (600 * second)
  expiredAt := none
  minimumSeconds := intValue 300
  maximumSeconds := 600
  retryAttempt := none
  blockers := []
  before := asMapping (objectValue [("alert_event_id", textValue "alert-1")])
  protectedBaseline := .scalar .none
  protectedSessionBaseline := .scalar .none
  lastSessionSamples := .scalar .none
  healthySince := none
  lastHealthyObservedAt := none
  distinctEvidenceCount := 0
  lastEvidenceKey := ""
  lastReasonCode := none
  lastReason := ""
  after := none

def sampleFirst : Delivery :=
  ⟨sampleEvidence "window-1" "2026-07-01T00:00:00+00:00" 0, [sampleAlert], 10 * second⟩

def sampleSecond : Delivery :=
  ⟨sampleEvidence "window-2" "2026-07-01T00:05:00+00:00" 0, [sampleAlert], 310 * second⟩

def sampleBetween : Delivery :=
  ⟨sampleEvidence "window-3" "2026-07-01T00:02:30+00:00" 1, [sampleAlert], 160 * second⟩

end sample

/-- Two healthy windows, one period of five minutes apart, complete a verification. -/
theorem evaluateRecoveryEvidence_two_windows : ∃ current window run,
    deliverAll sampleCodec [] sampleVerification [sampleFirst] = some current ∧
      (judge sampleCodec [] current sampleSecond).status = .completed ∧
      (windowRule 300).Longest
        (acceptedWindows sampleCodec [] sampleVerification [sampleFirst] ++ [window]) run ∧
      300 * second ≤ span run := by
  have judged : (deliverAll sampleCodec [] sampleVerification [sampleFirst]).map
      (fun current => (judge sampleCodec [] current sampleSecond).status) = some .completed := by
    decide +kernel
  obtain ⟨current, pending, completed⟩ := Option.map_eq_some_iff.mp judged
  have begun : sampleVerification.startedAt = some 0 := rfl
  have period : sampleVerification.cadence sampleCodec = some 300 := by decide +kernel
  obtain ⟨_, exactly⟩ := evaluateRecoveryEvidence_completed_iff sampleCodec [] begun rfl period
    (by decide) pending sampleSecond
  obtain ⟨window, run, _, _, longest, long, _⟩ := exactly.mp completed
  exact ⟨current, window, run, pending, completed, longest, long⟩

def sampleOrdered : List Delivery :=
  [⟨sampleEvidence "window-1" "2026-07-01T00:00:00+00:00" 1, [sampleAlert], 10 * second⟩,
    ⟨sampleEvidence "window-2" "2026-07-01T00:02:30+00:00" 0, [sampleAlert], 160 * second⟩]

def sampleLast : Delivery :=
  ⟨sampleEvidence "window-3" "2026-07-01T00:07:30+00:00" 0, [sampleAlert], 460 * second⟩

/-- The stretch of windows that arrive in order begins after the failing one. -/
theorem completed_without_regression_in_order : ∃ current window since,
    deliverAll sampleCodec [] sampleVerification sampleOrdered = some current ∧
      acceptedWindows sampleCodec [] sampleVerification sampleOrdered =
        [⟨0, 10 * second, false⟩, ⟨150 * second, 160 * second, true⟩] ∧
      (judge sampleCodec [] current sampleLast).status = .completed ∧
      (judge sampleCodec [] current sampleLast).healthySince = some since ∧
      ∀ earlier ∈ acceptedWindows sampleCodec [] sampleVerification sampleOrdered,
        earlier.healthy = false →
        ¬(since ≤ earlier.observedAt ∧ earlier.observedAt ≤ Window.observedAt window) := by
  have judged : (deliverAll sampleCodec [] sampleVerification sampleOrdered).map
      (fun current => (judge sampleCodec [] current sampleLast).status) = some .completed := by
    decide +kernel
  obtain ⟨current, pending, completed⟩ := Option.map_eq_some_iff.mp judged
  have windows : acceptedWindows sampleCodec [] sampleVerification (sampleOrdered ++ [sampleLast]) =
      [⟨0, 10 * second, false⟩, ⟨150 * second, 160 * second, true⟩,
        ⟨450 * second, 460 * second, true⟩] := by
    decide +kernel
  have inOrder : InOrder sampleCodec [] sampleVerification (sampleOrdered ++ [sampleLast]) := by
    unfold InOrder
    rw [windows]
    decide
  obtain ⟨window, since, _, isSince, noRegression⟩ :=
    completed_without_regression sampleCodec [] rfl pending
    inOrder completed
  exact ⟨current, window, since, pending, by decide +kernel, completed, isSince, noRegression⟩

/-- The failing window between two healthy ones is judged first. The recovery is then
verified over a stretch of five minutes that contains the regression. -/
theorem completed_over_regression : ∃ current,
    deliverAll sampleCodec [] sampleVerification [sampleBetween,
      { sampleFirst with now := 170 * second }] =
        some current ∧
      acceptedWindows sampleCodec [] sampleVerification [sampleBetween,
        { sampleFirst with now := 170 * second }] =
        [⟨150 * second, 160 * second, false⟩, ⟨0, 170 * second, true⟩] ∧
      acceptedWindow sampleCodec [] current sampleSecond = some ⟨300 * second, 310 * second, true⟩ ∧
      (judge sampleCodec [] current sampleSecond).status = .completed ∧
      (judge sampleCodec [] current sampleSecond).healthySince = some 0 := by
  have windows : acceptedWindows sampleCodec [] sampleVerification
      [sampleBetween, { sampleFirst with now := 170 * second }] =
        [⟨150 * second, 160 * second, false⟩, ⟨0, 170 * second, true⟩] := by
    decide +kernel
  have judged : (deliverAll sampleCodec [] sampleVerification
      [sampleBetween, { sampleFirst with now := 170 * second }]).map (fun current =>
        (acceptedWindow sampleCodec [] current sampleSecond,
          (judge sampleCodec [] current sampleSecond).status,
          (judge sampleCodec [] current sampleSecond).healthySince)) =
      some (some ⟨300 * second, 310 * second, true⟩, .completed, some 0) := by
    decide +kernel
  obtain ⟨current, pending, shown⟩ := Option.map_eq_some_iff.mp judged
  simp only [Prod.mk.injEq] at shown
  obtain ⟨accepted, completed, since⟩ := shown
  exact ⟨current, pending, windows, accepted, completed, since⟩

end K8sOps.Rca
