import K8sOps.Rca.VerificationStreak

/-! What a rejected window leaves behind. Its verdict keeps the stretch as it was, but
the session samples that it shows are stored, and later windows may not show older ones. -/
namespace K8sOps.Rca
open Python
variable (codec : Codec) (planPayload : Entries)

/-- The verdicts on a sequence of deliveries, up to one that is final. -/
def verdicts (verification : Verification) : List Delivery → List (VerificationStatus × ReasonCode)
  | [] => []
  | delivery :: deliveries =>
    let decision := judge codec planPayload verification delivery
    (decision.status, decision.reasonCode) ::
      if decision.status = .pending then verdicts (verification.record decision) deliveries else []

section sessions

/-- The number of workloads that must stay protected. -/
def Verification.protects (verification : Verification) : Nat :=
  (codec.nonnegativeInt (getOrNone "protected_workloads" verification.expected)).getD 0

def Verification.previousSamples (verification : Verification) : Value :=
  if truthy verification.lastSessionSamples then verification.lastSessionSamples
  else verification.protectedSessionBaseline

def Verification.sessions (verification : Verification) (evidence : Entries) :
    Option (List SessionSample) :=
  protectedActiveSessionSeries codec evidence verification.protectedBaseline
    verification.protectedSessionBaseline verification.previousSamples
    (codec.parseDatetime (getOrNone "window_start" evidence)) continuitySampleMaxAgeSeconds

def gaugeIdentity (sample : Entries) : SessionIdentity :=
  let labels := getMapping "metric" sample
  ⟨sessionWorkload codec "resource_kind" "resource_name" labels, getText "continuity_id" labels,
    getText "pod_uid" labels⟩

def gaugeSamples (evidence : Entries) : List Value :=
  match metricSamples evidence continuityActiveSessionsMetric with
  | .list samples => samples
  | _ => []

/-- No sample that the window stores is newer than the stored one of its series. -/
def NothingNewer (verification : Verification) (evidence : Entries) : Prop :=
  ∀ samples ∈ verification.sessions codec evidence, ∀ sample ∈ samples,
    ∀ stored ∈ (storedSeries codec "sample_timestamp" verification.previousSamples).bind
        (·.lookup (sessionIdentity codec (asMapping sample.toValue))),
      sample.sampleTimestamp ≤ stored

instance (verification : Verification) (evidence : Entries) :
    Decidable (NothingNewer codec verification evidence) := by
  unfold NothingNewer
  infer_instance

/-- The window cannot move the stored session samples: there are none to protect, or it stores
none, or none newer than those stored for the protected series. -/
def Unadvancing (verification : Verification) (evidence : Entries) : Prop :=
  verification.protects codec = 0 ∨ verification.sessions codec evidence = none ∨
    (∃ items, verification.protectedSessionBaseline = .list items) ∧
    NothingNewer codec verification evidence

theorem acceptedSession_some
    (accepted : acceptedSession codec protectedItems expected previous observedAt age sample =
      some (identity, value, timestamp)) :
    ∃ entries, sample = .dict entries ∧ identity = gaugeIdentity codec entries ∧
      (protectedItems.lookup identity.workload).isSome = true ∧
      ∀ stored, previous.bind (·.lookup identity) = some stored → stored ≤ timestamp := by
  unfold acceptedSession at accepted
  split at accepted
  next entries =>
    obtain ⟨known, accepted⟩ := Option.ite_none_left_eq_some.mp accepted
    split at accepted
    next =>
      obtain ⟨_, accepted⟩ := Option.ite_none_left_eq_some.mp accepted
      split at accepted
      next => cases accepted
      next =>
        obtain ⟨ordered, accepted⟩ := Option.ite_none_left_eq_some.mp accepted
        cases accepted
        refine ⟨entries, rfl, rfl, ?_, fun stored found => ?_⟩
        · rw [not_or, not_or, not_or] at known
          obtain ⟨_, _, podKnown, _⟩ := known
          rw [Option.isSome_iff_ne_none]
          intro absent
          refine podKnown ?_
          dsimp only
          rw [absent]
          rfl
        · rw [not_or] at ordered
          by_contra later
          refine ordered.2 ?_
          rw [found]
          exact decide_eq_true (Rat.not_le.mp later)
    next => cases accepted
  next => cases accepted

@[simp] theorem strip_asText (value : Value) : strip (asText value) = asText value := by
  unfold asText
  split
  · exact strip_strip _
  · decide +kernel

@[simp] theorem strip_getText (key : String) (entries : Entries) :
    strip (getText key entries) = getText key entries :=
  strip_asText _

theorem sessionIdentity_toValue (sample : SessionSample) :
    sessionIdentity codec (asMapping sample.toValue) =
      ⟨(strip sample.namespace, codec.casefold (strip sample.kind), strip sample.name),
        strip sample.continuityId, strip sample.podUid⟩ := by
  rfl

theorem protectedByWorkload_lookup
    (found : (protectedByWorkload codec items).lookup workload = some item) :
    workload = sessionWorkload codec "kind" "name" item := by
  obtain ⟨_, _, split, _⟩ := List.lookup_eq_some_iff.mp found
  have member : (workload, item) ∈ protectedByWorkload codec items := by
    rw [split]
    simp
  obtain ⟨value, _, entry⟩ := List.mem_filterMap.mp (Dict.mem_of_mem_ofPairs member)
  split at entry
  · cases entry
    rfl
  · cases entry

theorem sessionIdentity_stored
    (accepted : acceptedSession codec (protectedByWorkload codec items) expected previous
      observedAt age sample =
      some (identity, value, timestamp)) :
    sessionIdentity codec
      (asMapping (sessionSample (protectedByWorkload codec items) (identity, value,
        timestamp)).toValue) =
        identity := by
  obtain ⟨entries, _, rfl, known, _⟩ := acceptedSession_some codec accepted
  obtain ⟨item, found⟩ := Option.isSome_iff_exists.mp known
  have workload := protectedByWorkload_lookup codec found
  rw [sessionIdentity_toValue]
  unfold sessionSample
  dsimp only
  rw [found, Option.getD_some, strip_getText]
  have kind : codec.casefold (getText "kind" item) =
      (gaugeIdentity codec entries).workload.2.1 := by
    rw [workload]
    rfl
  rw [kind]
  unfold gaugeIdentity sessionWorkload
  simp

section stored
variable {known other : List (SessionIdentity × Rat)}

theorem acceptedSession_congr (same : ∀ identity, known.lookup identity = other.lookup identity) :
    acceptedSession codec items expected (some known) observedAt age =
      acceptedSession codec items expected (some other) observedAt age := by
  funext sample
  unfold acceptedSession
  simp only [Option.bind_some, same]

theorem seriesConsistent_congr (same : ∀ identity, known.lookup identity = other.lookup identity) :
    seriesConsistent baseline expected (some known) =
      seriesConsistent baseline expected (some other) := by
  have keys : ∀ series : List (SessionIdentity × Rat),
      sameMembers (known.map Prod.fst) (series.map Prod.fst) =
        sameMembers (other.map Prod.fst) (series.map Prod.fst) := by
    intro series
    rw [Bool.eq_iff_iff, sameMembers_iff, sameMembers_iff]
    refine forall_congr' fun identity => ?_
    rw [Dict.mem_keys_iff, same, ← Dict.mem_keys_iff]
  unfold seriesConsistent
  simp only [keys]

theorem protectedActiveSessionSeries_congr
    (one : storedSeries codec "sample_timestamp" previous = some known)
    (two : storedSeries codec "sample_timestamp" later = some other)
    (same : ∀ identity, known.lookup identity = other.lookup identity) :
    protectedActiveSessionSeries codec evidence baseline expected previous observedAt age =
      protectedActiveSessionSeries codec evidence baseline expected later observedAt age := by
  unfold protectedActiveSessionSeries
  simp only [one, two, acceptedSession_congr codec same, seriesConsistent_congr same]

end stored

theorem protectedActiveSessionSeries_some
    (shown : protectedActiveSessionSeries codec evidence baseline expectedBaseline previous
      observedAt age =
      some samples) :
    ∃ items observed found, observedAt = some observed ∧ found = (gaugeSamples evidence).filterMap
        (acceptedSession codec (protectedByWorkload codec items)
          (storedSeries codec "value" expectedBaseline)
          (storedSeries codec "sample_timestamp" previous) observed age) ∧
      seriesConsistent expectedBaseline (storedSeries codec "value" expectedBaseline)
        (storedSeries codec "sample_timestamp" previous) = true ∧
      sessionsComplete (protectedByWorkload codec items)
        (storedSeries codec "value" expectedBaseline) (found.map Prod.fst) = true ∧
      samples = (found.insertionSort fun left right => left.1.order ≤ right.1.order).map
        (sessionSample (protectedByWorkload codec items)) := by
  unfold protectedActiveSessionSeries at shown
  split at shown
  next items observed gauge listed =>
    obtain ⟨complete, rfl⟩ := by
      simpa only [Option.ite_none_left_eq_some, Option.some.injEq] using shown
    simp only [not_or, Bool.not_eq_true', Bool.not_eq_false] at complete
    obtain ⟨_, _, _, consistent, full⟩ := complete
    have gauges : gaugeSamples evidence = gauge := by
      unfold gaugeSamples
      rw [listed]
    exact ⟨items, observed, _, rfl, rfl, consistent, gauges ▸ full, by rw [gauges]⟩
  next => cases shown

theorem storedSeries_samples (store : SessionIdentity × Rat × Rat → SessionSample)
    {sorted : List (SessionIdentity × Rat × Rat)}
    (stored : ∀ accepted ∈ sorted, sessionIdentity codec (asMapping (store accepted).toValue) =
      accepted.1 ∧
      (store accepted).sampleTimestamp = accepted.2.2)
    (distinct : (sorted.map Prod.fst).Nodup) :
    storedSeries codec "sample_timestamp" (.list ((sorted.map store).map SessionSample.toValue)) =
      some (sorted.map fun accepted => (accepted.1, accepted.2.2)) := by
  unfold storedSeries
  refine congrArg some ?_
  rw [List.map_map, List.filterMap_map]
  have keys : ((sorted.map fun accepted => (accepted.1, accepted.2.2)).map Prod.fst).Nodup := by
    rw [List.map_map]
    exact distinct
  refine Eq.trans (congrArg Dict.ofPairs ?_) (Dict.ofPairs_eq_self keys)
  rw [← List.filterMap_eq_map]
  refine List.filterMap_congr fun accepted member => ?_
  obtain ⟨identity, timestamp⟩ := stored accepted member
  change some (sessionIdentity codec (asMapping (store accepted).toValue),
    (store accepted).sampleTimestamp) = some (accepted.1, accepted.2.2)
  rw [identity, timestamp]

theorem seriesConsistent_some
    (consistent : seriesConsistent (.list items) (some series) previous = true) :
    series.length = items.length ∧
      ∃ known, previous = some known ∧ sameMembers (known.map Prod.fst) (series.map Prod.fst) =
        true := by
  unfold seriesConsistent at consistent
  simp only [Bool.and_eq_true, decide_eq_true_eq] at consistent
  obtain ⟨⟨⟨length, _⟩, _⟩, matching⟩ := consistent
  cases previous with
  | none => cases matching
  | some known => exact ⟨length, known, rfl, matching⟩

theorem sessionsComplete_some
    (complete : sessionsComplete protectedItems (some series) found = true) :
    found.Nodup ∧ sameMembers found (series.map Prod.fst) = true := by
  unfold sessionsComplete at complete
  simp only [Bool.and_eq_true, decide_eq_true_eq] at complete
  exact ⟨complete.1.1.1, complete.1.1.2⟩

theorem sessions_recorded {verification : Verification}
    (listed : verification.protectedSessionBaseline = .list items)
    (nothingNewer : NothingNewer codec verification evidence)
    (shown : verification.sessions codec evidence = some samples) :
    ∃ known other, storedSeries codec "sample_timestamp" verification.previousSamples = some known ∧
      storedSeries codec "sample_timestamp" { verification with
        lastSessionSamples := .list (samples.map SessionSample.toValue) }.previousSamples =
          some other ∧
      ∀ identity, known.lookup identity = other.lookup identity := by
  have newer := nothingNewer samples shown
  obtain ⟨workloads, observed, found, _, isFound, consistent, complete, rfl⟩ :=
    protectedActiveSessionSeries_some codec shown
  obtain ⟨series, isSeries⟩ : ∃ series, storedSeries codec "value" (.list items) = some series :=
    ⟨_, rfl⟩
  rw [listed, isSeries] at consistent complete
  obtain ⟨length, known, isKnown, knownKeys⟩ := seriesConsistent_some consistent
  obtain ⟨distinct, foundKeys⟩ := sessionsComplete_some complete
  have permuted := found.perm_insertionSort fun left right => left.1.order ≤ right.1.order
  generalize found.insertionSort (fun left right => left.1.order ≤ right.1.order) =
    sorted at permuted newer ⊢
  rw [← (permuted.map Prod.fst).nodup_iff] at distinct
  have origin : ∀ accepted ∈ sorted, ∃ sample ∈ gaugeSamples evidence,
      acceptedSession codec (protectedByWorkload codec workloads)
        (storedSeries codec "value" verification.protectedSessionBaseline)
        (storedSeries codec "sample_timestamp" verification.previousSamples) observed
        continuitySampleMaxAgeSeconds sample = some accepted := by
    intro accepted member
    rw [permuted.mem_iff, isFound] at member
    exact List.mem_filterMap.mp member
  have recorded := storedSeries_samples codec (sessionSample (protectedByWorkload codec workloads))
    (fun accepted member => by
      obtain ⟨sample, _, isAccepted⟩ := origin accepted member
      exact ⟨sessionIdentity_stored codec isAccepted, rfl⟩) distinct
  refine ⟨known, sorted.map fun accepted => (accepted.1, accepted.2.2), isKnown, ?_,
    fun identity => ?_⟩
  · unfold Verification.previousSamples
    dsimp only
    split
    next => exact recorded
    next empty =>
      -- No series is protected, so the baseline has none either.
      have none_ : sorted = [] := by simpa [truthy] using empty
      subst none_
      have noSeries : series = [] := by
        rw [← List.map_eq_nil_iff, List.eq_nil_iff_forall_not_mem]
        intro identity member
        rw [← sameMembers_iff.mp foundKeys, permuted.symm.eq_nil] at member
        cases member
      rw [noSeries, List.length_nil, eq_comm, List.length_eq_zero_iff] at length
      rw [listed, length]
      rfl
  · have keys : identity ∈ known.map Prod.fst ↔ identity ∈ sorted.map Prod.fst := by
      rw [sameMembers_iff.mp knownKeys, ← sameMembers_iff.mp foundKeys,
        (permuted.map Prod.fst).mem_iff]
    by_cases member : identity ∈ sorted.map Prod.fst
    · obtain ⟨⟨_, value, timestamp⟩, among, rfl⟩ := List.mem_map.mp member
      obtain ⟨sample, inWindow, isAccepted⟩ := origin _ among
      obtain ⟨_, _, _, _, notOlder⟩ := acceptedSession_some codec isAccepted
      obtain ⟨stored, isStored⟩ :=
        Option.isSome_iff_exists.mp (Dict.mem_keys_iff.mp (keys.mpr member))
      rw [isKnown] at notOlder
      have older := notOlder stored isStored
      have notNewer := newer _ (List.mem_map_of_mem among) stored (by
        rw [sessionIdentity_stored codec isAccepted, isKnown]
        exact isStored)
      rw [isStored, Rat.le_antisymm older notNewer]
      symm
      refine Dict.lookup_of_mem ?_ (List.mem_map.mpr ⟨_, among, rfl⟩)
      rw [List.map_map]
      exact distinct
    · have unknown : known.lookup identity = none := by
        rw [← Option.not_isSome_iff_eq_none, ← Dict.mem_keys_iff, keys]
        exact member
      have unshown : (sorted.map fun accepted => (accepted.1, accepted.2.2)).lookup identity =
          none := by
        rw [← Option.not_isSome_iff_eq_none, ← Dict.mem_keys_iff, List.map_map]
        exact member
      rw [unknown, unshown]

end sessions

section frame
variable {one two : Verification}

/-- Verifications that differ only in what was reported of windows, and in stored
session samples against which every window is read alike, or that protect nothing. -/
structure Alike (one two : Verification) : Prop where
  same : ∃ status reasonCode reason after samples, two = { one with
    status := status
    lastReasonCode := reasonCode
    lastReason := reason
    after := after
    lastSessionSamples := samples }
  sessions : one.protects codec = 0 ∨
    ∀ evidence, two.sessions codec evidence = one.sessions codec evidence

/-- Sessions matter to the checks only when workloads are protected. -/
theorem Alike.checks (alike : Alike codec one two) (evidence : Entries)
    (alerts : List Entries) (now : Int) :
    (windowAfter codec planPayload two evidence alerts now).checks =
      (windowAfter codec planPayload one evidence alerts now).checks := by
  obtain ⟨⟨status, reasonCode, reason, after, samples, rfl⟩, sessions⟩ := alike
  obtain unprotected | read := sessions
  · have none_ : (codec.nonnegativeInt (getOrNone "protected_workloads" one.expected)).getD 0 = 0 :=
      unprotected
    unfold windowAfter verificationChecks whenProtected
    simp only [none_, Nat.lt_irrefl, if_false]
    rfl
  · have sameSessions := read evidence
    unfold Verification.sessions Verification.previousSamples at sameSessions
    unfold windowAfter observedAfter
    dsimp only at sameSessions ⊢
    rw [sameSessions]

/-- What a decision lets the verification go on with. -/
def VerificationDecision.outcome (decision : VerificationDecision) :
    VerificationStatus × ReasonCode × Streak.Clock × String :=
  (decision.status, decision.reasonCode, decision.clock, decision.lastEvidenceKey)

theorem unhealthyDecision_outcome {first second : After} (checks : first.checks = second.checks) :
    (unhealthyDecision verification first key now).outcome =
      (unhealthyDecision verification second key now).outcome := by
  unfold unhealthyDecision
  rw [checks]
  dsimp only
  split <;> rfl

theorem healthyDecision_outcome (verification : Verification) (first second : After) :
    (healthyDecision codec verification first cadence key observedAt now).outcome =
      (healthyDecision codec verification second cadence key observedAt now).outcome := by
  unfold healthyDecision
  dsimp only
  split
  · split <;> rfl
  · rfl

/-- Verifications that are alike come to the same verdict and go on alike. -/
theorem Alike.outcome (alike : Alike codec one two) (delivery : Delivery) :
    (judge codec planPayload two delivery).outcome =
      (judge codec planPayload one delivery).outcome := by
  have checks := alike.checks codec planPayload delivery.evidence delivery.alerts delivery.now
  obtain ⟨⟨status, reasonCode, reason, after, samples, changed⟩, _⟩ := alike
  have duplicate : isDuplicate two delivery.evidence = isDuplicate one delivery.evidence := by
    rw [changed]
    rfl
  have trusted : trustedStart codec two delivery.evidence delivery.now =
      trustedStart codec one delivery.evidence delivery.now := by
    rw [changed]
    rfl
  have cadence : two.cadence codec = one.cadence codec := by
    rw [changed]
    rfl
  have lastKey : two.lastEvidenceKey = one.lastEvidenceKey := by rw [changed]
  unfold judge evaluateRecoveryEvidence
  -- From here on only the checks of the windows count.
  generalize windowAfter codec planPayload two delivery.evidence delivery.alerts delivery.now =
    secondAfter at checks ⊢
  generalize windowAfter codec planPayload one delivery.evidence delivery.alerts delivery.now =
    firstAfter at checks ⊢
  simp only [duplicate, trusted, cadence, lastKey, checks]
  split
  · rw [changed]
    rfl
  · split
    · rw [changed]
      rfl
    · split
      · refine (unhealthyDecision_outcome checks).trans ?_
        rw [changed]
        rfl
      · split
        · rfl
        · rfl
        · refine (healthyDecision_outcome codec two _ firstAfter).trans ?_
          rw [changed]
          rfl

theorem judge_sessions (verification : Verification) (delivery : Delivery) :
    (judge codec planPayload verification delivery).after.protectedActiveSessions =
      verification.sessions codec delivery.evidence := by
  unfold judge evaluateRecoveryEvidence
  dsimp only
  split
  · rfl
  · split
    · rfl
    · split
      · unfold unhealthyDecision
        dsimp only
        split <;> rfl
      · split
        · rfl
        · rfl
        · unfold healthyDecision
          dsimp only
          split
          · split <;> rfl
          · rfl

theorem sessions_congr (workloads : two.protectedBaseline = one.protectedBaseline)
    (baseline : two.protectedSessionBaseline = one.protectedSessionBaseline)
    (stored : two.lastSessionSamples = one.lastSessionSamples) (evidence : Entries) :
    two.sessions codec evidence = one.sessions codec evidence := by
  unfold Verification.sessions Verification.previousSamples
  rw [workloads, baseline, stored]

theorem record_sessions (verification : Verification) {decision : VerificationDecision}
    (unread : decision.after.protectedActiveSessions = none) :
    (verification.record decision).sessions codec evidence =
      verification.sessions codec evidence := by
  apply sessions_congr codec
  · rfl
  · rfl
  · unfold Verification.record
    rw [unread]

theorem record_alike (alike : Alike codec one two) (delivery : Delivery) :
    Alike codec (one.record (judge codec planPayload one delivery))
      (two.record (judge codec planPayload two delivery)) := by
  have outcome := alike.outcome codec planPayload delivery
  obtain ⟨⟨status, reasonCode, reason, after, samples, same⟩, sessions⟩ := alike
  simp only [VerificationDecision.outcome, VerificationDecision.clock, Prod.mk.injEq,
    Streak.Clock.mk.injEq] at outcome
  obtain ⟨sameStatus, sameReason, ⟨since, last, count⟩, key⟩ := outcome
  refine ⟨⟨(judge codec planPayload two delivery).status,
    some (judge codec planPayload two delivery).reasonCode,
    (judge codec planPayload two delivery).reason,
    some (judge codec planPayload two delivery).after,
    (two.record (judge codec planPayload two delivery)).lastSessionSamples, ?_⟩, ?_⟩
  · unfold Verification.record
    rw [since, last, count, key, same]
  · refine sessions.imp_right fun read evidence => ?_
    have workloads : two.protectedBaseline = one.protectedBaseline := by rw [same]
    have baseline : two.protectedSessionBaseline = one.protectedSessionBaseline := by rw [same]
    have reported := judge_sessions codec planPayload one delivery
    have reportedToo :=
      (judge_sessions codec planPayload two delivery).trans (read delivery.evidence)
    cases shown : one.sessions codec delivery.evidence with
    | some samples =>
      apply sessions_congr codec
      · exact workloads
      · exact baseline
      · unfold Verification.record
        rw [reported, reportedToo, shown]
    | none =>
      rw [record_sessions codec two (reportedToo.trans shown),
        record_sessions codec one (reported.trans shown)]
      exact read evidence

theorem Alike.verdicts (alike : Alike codec one two) (deliveries : List Delivery) :
    verdicts codec planPayload two deliveries = Rca.verdicts codec planPayload one deliveries := by
  induction deliveries generalizing one two with
  | nil => rfl
  | cons delivery deliveries ih =>
    have outcome := alike.outcome codec planPayload delivery
    simp only [VerificationDecision.outcome, Prod.mk.injEq] at outcome
    obtain ⟨status, reasonCode, _⟩ := outcome
    simp only [Rca.verdicts, status, reasonCode]
    rw [ih (record_alike codec planPayload alike delivery)]

theorem acceptedWindow_reason
    (accepted : acceptedWindow codec planPayload verification delivery = some window) :
    (judge codec planPayload verification delivery).reasonCode ∉
      [ReasonCode.duplicateEvidenceWindow, .staleEvidenceWindow] := by
  simp only [acceptedWindow, Option.ite_none_left_eq_some, Option.map_eq_some_iff] at accepted
  obtain ⟨fresh, observedAt, trusted, _⟩ := accepted
  unfold judge evaluateRecoveryEvidence
  dsimp only
  rw [if_neg fresh, trusted]
  dsimp only
  split
  · unfold unhealthyDecision
    dsimp only
    split
    · simp [interrupted]
    · unfold interrupted
      dsimp only
      split <;> decide
  · split
    · simp [interrupted]
    · simp [interrupted]
    · unfold healthyDecision
      dsimp only
      split
      · split <;> simp
      · simp

/-- The verdict on a rejected window that shows no newer samples leaves the
verification as it was, in all that later verdicts depend on. -/
theorem rejected_alike {verification : Verification}
    (rejected : acceptedWindow codec planPayload verification delivery = none)
    (unadvancing : Unadvancing codec verification delivery.evidence) :
    Alike codec verification (verification.record
      (judge codec planPayload verification delivery)) := by
  obtain ⟨_, clock, key⟩ := judge_rejected codec planPayload rejected
  simp only [VerificationDecision.clock, Verification.clock, Streak.Clock.mk.injEq] at clock
  obtain ⟨since, last, count⟩ := clock
  have reported := judge_sessions codec planPayload verification delivery
  refine ⟨⟨(judge codec planPayload verification delivery).status,
    some (judge codec planPayload verification delivery).reasonCode,
    (judge codec planPayload verification delivery).reason,
    some (judge codec planPayload verification delivery).after,
    (verification.record (judge codec planPayload verification delivery)).lastSessionSamples, ?_⟩,
      ?_⟩
  · unfold Verification.record
    rw [since, last, count, key]
  · refine unadvancing.imp_right ?_
    intro stores evidence
    cases shown : verification.sessions codec delivery.evidence with
    | none => exact record_sessions codec verification (reported.trans shown)
    | some samples =>
      obtain nothing | ⟨⟨items, listed⟩, nothingNewer⟩ := stores
      · cases nothing.symm.trans shown
      obtain ⟨known, other, before, after, same⟩ :=
        sessions_recorded codec listed nothingNewer shown
      have stored :
          (verification.record (judge codec planPayload verification delivery)).previousSamples =
          { verification with
            lastSessionSamples := .list (samples.map SessionSample.toValue) }.previousSamples := by
        unfold Verification.record Verification.previousSamples
        rw [reported, shown]
      unfold Verification.sessions
      rw [stored]
      exact (protectedActiveSessionSeries_congr codec before after same).symm

end frame

/-- A rejected window has no effect, unless it stores newer session samples than those
there are: every sequence of further windows gets the verdicts that it would have got
without the rejected window. -/
theorem rejected_window_no_effect {verification : Verification}
    (rejected : (judge codec planPayload verification delivery).reasonCode ∈
      [ReasonCode.duplicateEvidenceWindow, .staleEvidenceWindow])
    (unadvancing : Unadvancing codec verification delivery.evidence) (deliveries : List Delivery) :
    verdicts codec planPayload (verification.record
      (judge codec planPayload verification delivery)) deliveries =
      verdicts codec planPayload verification deliveries := by
  have notAccepted : acceptedWindow codec planPayload verification delivery = none := by
    rw [Option.eq_none_iff_forall_ne_some]
    intro window accepted
    exact acceptedWindow_reason codec planPayload accepted rejected
  exact (rejected_alike codec planPayload notAccepted unadvancing).verdicts codec
    planPayload deliveries

section sample

/-- The samples are taken at whole seconds. -/
def sampleSessionCodec : Codec :=
  { sampleCodec with fromTimestamp := fun timestamp => some (timestamp.num * second) }

def sampleSnapshot : Value :=
  objectValue [
    ("workload", objectValue [("kind", textValue "deployment"), ("namespace", textValue "shop"),
      ("name", textValue "chat"), ("uid", textValue "uid-1")]),
    ("deployment_status", objectValue [("desired_replicas", intValue 1),
      ("ready_replicas", intValue 1), ("available_replicas", intValue 1)]),
    ("pod_statuses",
      .list [objectValue [("ready", .scalar (.bool true)), ("uid", textValue "pod-1")]])]

def sampleGauge (timestamp : Int) : Value :=
  objectValue [("samples", .list [objectValue [
    ("metric", objectValue [("namespace", textValue "shop"),
      ("resource_kind", textValue "deployment"), ("resource_name", textValue "chat"),
      ("continuity_id", textValue "group-1"), ("pod_uid", textValue "pod-1")]),
    ("value", intValue 5), ("timestamp", intValue timestamp)]])]

/-- A healthy window that also shows the sessions of the protected workload `chat`. -/
def sampleSessionEvidence (key start : String) (timestamp : Int) : Entries :=
  let window := sampleEvidence key start 0
  let results := getMapping "results" (getMapping "metrics" window)
  let snapshots := (currentWorkloadSnapshots window).getD []
  Entries.assign (.str "metrics") (objectValue [("results",
      .dict (results ++ [(.str continuityActiveSessionsMetric, sampleGauge timestamp)]))])
    (Entries.assign (.str "metadata") (objectValue [("current_workload_snapshots",
      .list (snapshots ++ [sampleSnapshot]))]) window)

def sampleProtected : Verification :=
  { sampleVerification with
    expected := Entries.assign (.str "protected_workloads") (intValue 1) sampleVerification.expected
    protectedBaseline :=
      .list [objectValue [("kind", textValue "deployment"), ("namespace", textValue "shop"),
        ("name", textValue "chat"), ("uid", textValue "uid-1"),
        ("pod_uids", .list [textValue "pod-1"]),
      ("pod_start_times", .list []), ("restart_count", intValue 0)]]
    protectedSessionBaseline := .list [objectValue [("namespace", textValue "shop"),
      ("kind", textValue "deployment"), ("name", textValue "chat"),
      ("continuity_id", textValue "group-1"), ("pod_uid", textValue "pod-1"), ("value", intValue 5),
      ("sample_timestamp", intValue 0)]] }

/-- A window of the future, with the sample of the given second. -/
def sampleFuture (timestamp : Int) : Delivery :=
  ⟨sampleSessionEvidence "window-2" "2026-07-01T00:02:30+00:00" timestamp, [sampleAlert],
    10 * second⟩

def samplePresent : Delivery :=
  ⟨sampleSessionEvidence "window-1" "2026-07-01T00:00:00+00:00" 0, [sampleAlert], 20 * second⟩

end sample

/-- A window of the future whose sample is not newer leaves the next verdict as it is. -/
theorem rejected_window_no_effect_future :
    (judge sampleSessionCodec [] sampleProtected (sampleFuture 0)).reasonCode =
      .staleEvidenceWindow ∧ verdicts sampleSessionCodec []
          (sampleProtected.record (judge sampleSessionCodec [] sampleProtected (sampleFuture 0)))
            [samplePresent] =
        verdicts sampleSessionCodec [] sampleProtected [samplePresent] := by
  have stale : (judge sampleSessionCodec [] sampleProtected (sampleFuture 0)).reasonCode =
      .staleEvidenceWindow := by
    decide +kernel
  have nothingNewer : NothingNewer sampleSessionCodec sampleProtected
      (sampleFuture 0).evidence := by
    decide +kernel
  exact ⟨stale, rejected_window_no_effect sampleSessionCodec [] (by rw [stale]; decide)
    (.inr (.inr ⟨⟨_, rfl⟩, nothingNewer⟩)) [samplePresent]⟩

/-- A window of the future with a newer sample is rejected as stale, and then makes the
sessions of the present window unreadable: its verdict is no longer a healthy one. -/
theorem rejected_window_effect :
    (judge sampleSessionCodec [] sampleProtected (sampleFuture 150)).reasonCode =
      .staleEvidenceWindow ∧ verdicts sampleSessionCodec [] sampleProtected [samplePresent] =
        [(.pending, .stabilizationWindowInProgress)] ∧
      verdicts sampleSessionCodec []
          (sampleProtected.record (judge sampleSessionCodec [] sampleProtected (sampleFuture 150)))
          [samplePresent] =
        [(.pending, .verificationEvidenceMissing)] := by
  decide +kernel

end K8sOps.Rca
