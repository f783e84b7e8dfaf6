import K8sOps.Rca.RejectedWindows
import K8sOps.Rca.Cause.Signals

/-! Session continuity. Samples of the gauge that do not count sessions are dropped before
the series is checked, so the verdict says nothing about them. On all others it is a
verdict on every sample. -/
namespace K8sOps.Rca
open Python
variable (codec : Codec)

section reading
variable (previousSamples : Value) (observedAt : Option Int) (age : Int)

/-- Taken close enough to the observation of the window. -/
def Fresh (sample : Entries) : Prop :=
  ∃ observed ∈ observedAt, ∃ timestamp ∈ codec.finiteFloat (getOrNone "timestamp" sample),
    ∃ taken ∈ codec.fromTimestamp timestamp, (observed - taken).natAbs ≤ age * second

/-- Not older than the previous sample of its series. -/
def NotOlder (sample : Entries) : Prop :=
  ∀ timestamp ∈ codec.finiteFloat (getOrNone "timestamp" sample),
    ∀ earlier ∈ (storedSeries codec "sample_timestamp" previousSamples).bind
      (·.lookup (gaugeIdentity codec sample)), earlier ≤ timestamp

/-- The sample is one of the item's series that the window has to be judged on. -/
structure Judged (item sample : Entries) : Prop where
  identity : gaugeIdentity codec sample = sessionIdentity codec item
  fresh : Fresh codec observedAt age sample
  notOlder : NotOlder codec previousSamples sample

def CountsSessions (sample : Entries) : Prop :=
  ∃ value ∈ codec.finiteFloat (getOrNone "value" sample), 0 < value ∧ value.den = 1

/-- No fewer sessions than in the baseline. -/
def Maintains (item sample : Entries) : Prop :=
  ∃ before ∈ codec.finiteFloat (getOrNone "value" item),
    ∃ value ∈ codec.finiteFloat (getOrNone "value" sample), before ≤ value

end reading

section accepted
variable {codec} {protectedItems : List ((String × String × String) × Entries)}
  {expected previous : Option (List (SessionIdentity × Rat))} {observedAt age : Int}

/-- The series is of a protected Pod and, when series are stored, one of them. -/
def Watched (protectedItems : List ((String × String × String) × Entries))
    (expected : Option (List (SessionIdentity × Rat))) (identity : SessionIdentity) : Prop :=
  ¬(identity.continuityId = "" ∨ identity.podUid = "" ∨
    (!match protectedItems.lookup identity.workload with
      | some item =>
        match getOrNone "pod_uids" item with
        | .list uids => decide (identity.podUid ∈ uids.map asText)
        | _ => false
      | none => false) = true ∨
    (!match expected with
      | some series => decide (identity ∈ series.map Prod.fst)
      | none => true) = true)

theorem acceptedSession_watched
    (accepted : acceptedSession codec protectedItems expected previous observedAt age
      (.dict entries) = some found) :
    Watched protectedItems expected (gaugeIdentity codec entries) :=
  (Option.ite_none_left_eq_some.mp accepted).1

/-- The sample is older than the previous one of its series. -/
def wentBack (previous : Option (List (SessionIdentity × Rat))) (identity : SessionIdentity)
    (timestamp : Rat) : Bool :=
  match previous.bind (·.lookup identity) with
  | some earlier => timestamp < earlier
  | none => false

theorem wentBack_eq_false {timestamp : Rat}
    (notOlder : ∀ earlier ∈ previous.bind (·.lookup identity), earlier ≤ timestamp) :
    wentBack previous identity timestamp = false := by
  rw [wentBack]
  split
  next earlier stored => exact decide_eq_false (Rat.not_lt.mpr (notOlder earlier stored))
  next => rfl

/-- Whether a sample that counts sessions, is fresh and is not older is accepted depends
on its series only. -/
theorem acceptedSession_of_watched
    (watched : Watched protectedItems expected (gaugeIdentity codec entries))
    (value : codec.finiteFloat (getOrNone "value" entries) = some sessions)
    (positive : 0 < sessions) (whole : sessions.den = 1)
    (read : codec.finiteFloat (getOrNone "timestamp" entries) = some timestamp)
    (moment : codec.fromTimestamp timestamp = some taken)
    (fresh : (observedAt - taken).natAbs ≤ age * second)
    (notOlder : ∀ earlier ∈ previous.bind (·.lookup (gaugeIdentity codec entries)), earlier ≤
      timestamp) :
    acceptedSession codec protectedItems expected previous observedAt age (.dict entries) =
      some (gaugeIdentity codec entries, sessions, timestamp) := by
  have counted : ¬(sessions ≤ 0 ∨ sessions.den ≠ 1) := by
    rw [not_or]
    exact ⟨Rat.not_le.mpr positive, not_not.mpr whole⟩
  refine (if_neg watched).trans ?_
  rw [value, read]
  dsimp only
  rw [if_neg counted, moment]
  dsimp only
  rw [if_neg]
  · rfl
  · rw [not_or]
    refine ⟨not_lt.mpr fresh, fun backwards => ?_⟩
    exact absurd backwards (Bool.eq_false_iff.mp (wentBack_eq_false notOlder))

end accepted

section values
variable {codec}

theorem sessionValues_some {items : List Value} {parsed result : List (SessionIdentity × Rat)}
    (done : sessionValues codec parsed items = some result)
    (distinct : (parsed.map Prod.fst).Nodup) :
    (result.map Prod.fst).Nodup ∧ parsed ⊆ result ∧ ∀ item, .dict item ∈ items →
      ∃ value, codec.finiteFloat (getOrNone "value" item) = some value ∧
        (sessionIdentity codec item, value) ∈ result := by
  induction items generalizing parsed with
  | nil =>
    cases done
    exact ⟨distinct, fun _ => id, fun item member => nomatch member⟩
  | cons first items ih =>
    cases first with
    | scalar | list => cases done
    | dict entries =>
      rw [sessionValues] at done
      cases value : codec.finiteFloat (getOrNone "value" entries) with
      | none => simp [value] at done
      | some number =>
        simp only [value, Option.ite_none_left_eq_some, not_or] at done
        obtain ⟨⟨_, absent⟩, done⟩ := done
        have extended :
            ((parsed ++ [(sessionIdentity codec entries, number)]).map Prod.fst).Nodup := by
          rw [List.map_append, List.nodup_append]
          refine ⟨distinct, List.nodup_singleton _, fun identity member other singleton same => ?_⟩
          cases List.mem_singleton.mp singleton
          exact absent (same.symm ▸ member : (sessionIdentity codec entries, number).1 ∈
            parsed.map Prod.fst)
        obtain ⟨unique, kept, each⟩ := ih done extended
        refine ⟨unique, fun entry member => kept (List.mem_append_left _ member),
          fun item member => ?_⟩
        rcases List.mem_cons.mp member with same | later
        · cases same
          exact ⟨number, value, kept (List.mem_append_right _ (List.mem_singleton_self _))⟩
        · exact each item later

theorem mem_dictItems {value : Value} :
    item ∈ dictItems value ↔ ∃ items, value = .list items ∧ .dict item ∈ items := by
  cases value with
  | scalar | dict => simp [dictItems]
  | list items =>
    simp only [dictItems, List.mem_filterMap, Value.list.injEq, exists_eq_left']
    constructor
    · rintro ⟨found, member, isItem⟩
      split at isItem
      · cases isItem
        exact member
      · cases isItem
    · exact fun member => ⟨_, member, rfl⟩

theorem maintained_some {baseline : Value} {current : Option (List SessionSample)}
    (maintained : protectedActiveSessionsMaintained codec baseline current = some true) :
    ∃ items samples before after, baseline = .list items ∧ current = some samples ∧
      sessionValues codec [] items = some before ∧
      sessionValues codec [] (samples.map SessionSample.toValue) = some after ∧
      ∀ entry ∈ before, (after.lookup entry.1).any (fun value => entry.2 ≤ value) = true := by
  rw [protectedActiveSessionsMaintained.eq_def] at maintained
  split at maintained
  next first items samples =>
    split at maintained
    next before after parsedBefore parsedAfter =>
      obtain ⟨_, maintained⟩ := Option.ite_none_right_eq_some.mp maintained
      exact ⟨_, samples, before, after, rfl, rfl, parsedBefore, parsedAfter,
        List.all_eq_true.mp (Option.some.inj maintained)⟩
    next => cases maintained
  next => cases maintained

/-- A maintained verdict compares every item of the baseline with the sample of its series. -/
theorem maintained_item {baseline : Value} {samples : List SessionSample}
    (maintained : protectedActiveSessionsMaintained codec baseline (some samples) = some true)
    (member : item ∈ dictItems baseline) :
    ∃ before, codec.finiteFloat (getOrNone "value" item) = some before ∧ ∀ sample ∈ samples,
      sessionIdentity codec (asMapping sample.toValue) = sessionIdentity codec item →
      before ≤ sample.value := by
  obtain ⟨items, _, before, after, rfl, same, parsedBefore, parsedAfter, compared⟩ :=
    maintained_some maintained
  cases same
  obtain ⟨_, same, listed⟩ := mem_dictItems.mp member
  cases same
  obtain ⟨_, _, eachBefore⟩ := sessionValues_some parsedBefore List.nodup_nil
  obtain ⟨distinct, _, eachAfter⟩ := sessionValues_some parsedAfter List.nodup_nil
  obtain ⟨number, value, entry⟩ := eachBefore item listed
  refine ⟨number, value, fun sample shown identity => ?_⟩
  obtain ⟨_, read, found⟩ :=
    eachAfter (asMapping sample.toValue) (List.mem_map.mpr ⟨sample, shown, rfl⟩)
  cases read
  have comparison := compared _ entry
  rw [← identity, Dict.lookup_of_mem distinct found] at comparison
  exact of_decide_eq_true comparison

theorem storedSeries_item {baseline : Value} (member : item ∈ dictItems baseline)
    (value : codec.finiteFloat (getOrNone key item) = some number) :
    ∃ series, storedSeries codec key baseline = some series ∧
      sessionIdentity codec item ∈ series.map Prod.fst := by
  obtain ⟨items, rfl, listed⟩ := mem_dictItems.mp member
  refine ⟨_, rfl,
    Dict.mem_keys_ofPairs.mpr (List.mem_map.mpr ⟨(sessionIdentity codec item, number), ?_, rfl⟩)⟩
  refine List.mem_filterMap.mpr ⟨_, listed, ?_⟩
  dsimp only
  rw [value]
  rfl

end values

/-- A maintained verdict judges every sample that counts sessions, so it judges all of
them exactly when no other sample shows that sessions were lost. -/
theorem sessions_judged_iff (codec : Codec) (evidence : Entries)
    (protectedBaseline baseline previousSamples : Value) (observedAt : Option Int) (age : Int)
    (maintained : protectedActiveSessionsMaintained codec baseline
      (protectedActiveSessionSeries codec evidence protectedBaseline baseline previousSamples
      observedAt age) =
        some true) :
    (∀ sample ∈ dictItems (metricSamples evidence continuityActiveSessionsMetric),
      ∀ item ∈ dictItems baseline,
      Judged codec previousSamples observedAt age item sample → Maintains codec item sample) ↔
    ∀ sample ∈ dictItems (metricSamples evidence continuityActiveSessionsMetric),
      ∀ item ∈ dictItems baseline,
      Judged codec previousSamples observedAt age item sample → ¬CountsSessions codec sample →
        Maintains codec item sample := by
  refine ⟨fun each sample shown item member judged _ => each sample shown item member judged,
    fun uncounted sample shown item member judged => ?_⟩
  by_cases counts : CountsSessions codec sample
  swap
  · exact uncounted sample shown item member judged counts
  obtain ⟨_, samples, _, _, _, shownSeries, _⟩ := maintained_some maintained
  rw [shownSeries] at maintained
  obtain ⟨items, observed, found, rfl, isFound, _, complete, rfl⟩ :=
    protectedActiveSessionSeries_some codec shownSeries
  obtain ⟨before, number, compared⟩ := maintained_item maintained member
  obtain ⟨series, isSeries, known⟩ := storedSeries_item member number
  -- Another sample of the series was accepted, so the series is watched.
  rw [isSeries] at complete isFound
  obtain ⟨_, sameSeries⟩ := sessionsComplete_some complete
  obtain ⟨⟨identity, other⟩, accepted, rfl⟩ :=
    List.mem_map.mp ((sameMembers_iff.mp sameSeries _).mpr known)
  rw [isFound] at accepted
  obtain ⟨otherSample, _, accepted⟩ := List.mem_filterMap.mp accepted
  obtain ⟨entries, rfl, isIdentity, _⟩ := acceptedSession_some codec accepted
  have watched := acceptedSession_watched accepted
  rw [← isIdentity, ← judged.identity] at watched
  obtain ⟨value, read, positive, whole⟩ := counts
  obtain ⟨_, observation, timestamp, stamped, taken, moment, recent⟩ := judged.fresh
  cases observation
  have mine := acceptedSession_of_watched watched read positive whole stamped moment recent
    (judged.notOlder timestamp stamped)
  obtain ⟨_, gauge, listed⟩ := mem_dictItems.mp shown
  have among : (gaugeIdentity codec sample, value, timestamp) ∈ found := by
    rw [isFound, gaugeSamples, gauge]
    exact List.mem_filterMap.mpr ⟨_, listed, mine⟩
  refine ⟨before, number, value, read,
    compared _ (List.mem_map_of_mem ((List.mem_insertionSort _).mpr among)) ?_⟩
  rw [sessionIdentity_stored codec mine, judged.identity]

section sample

def chatSample (sessions : Int) : Entries :=
  [(.str "metric", objectValue [("namespace", textValue "shop"),
    ("resource_kind", textValue "deployment"),
    ("resource_name", textValue "chat"), ("continuity_id", textValue "group-1"),
    ("pod_uid", textValue "pod-1")]),
    (.str "value", intValue sessions), (.str "timestamp", intValue 0)]

def chatEvidence (samples : List Entries) : Entries :=
  [(.str "metrics", objectValue [("results", objectValue [(continuityActiveSessionsMetric,
    objectValue [("samples", .list (samples.map .dict))])])])]

def chatItem : Entries :=
  [(.str "namespace", textValue "shop"), (.str "kind", textValue "deployment"),
    (.str "name", textValue "chat"), (.str "continuity_id", textValue "group-1"),
    (.str "pod_uid", textValue "pod-1"), (.str "value", intValue 5),
    (.str "sample_timestamp", intValue 0)]

def chatBaseline : Value := .list [.dict chatItem]

def chatMaintained (samples : List Entries) : Option Bool :=
  protectedActiveSessionsMaintained sampleSessionCodec chatBaseline
    (protectedActiveSessionSeries sampleSessionCodec (chatEvidence samples)
      sampleProtected.protectedBaseline
      chatBaseline chatBaseline (some 0) continuitySampleMaxAgeSeconds)

theorem chatSample_judged (sessions : Int) : Judged sampleSessionCodec chatBaseline (some 0)
    continuitySampleMaxAgeSeconds chatItem (chatSample sessions) where
  identity := rfl
  fresh := ⟨0, rfl, 0, rfl, 0, rfl, by decide⟩
  notOlder := by
    intro timestamp read earlier stored
    cases read
    have found : earlier = (0 : Rat) := by
      have same : some (0 : Rat) = some earlier := stored
      exact (Option.some.inj same).symm
    rw [found]
    decide

theorem sessions_judged_iff_sample : chatMaintained [chatSample 6] = some true ∧
    Maintains sampleSessionCodec chatItem (chatSample 6) := by
  have maintained : chatMaintained [chatSample 6] = some true := by decide +kernel
  refine ⟨maintained, (sessions_judged_iff _ _ _ _ _ _ _ maintained).mpr ?_
    (chatSample 6) List.mem_cons_self chatItem List.mem_cons_self (chatSample_judged 6)⟩
  intro sample shown item _ _ uncounted
  cases List.mem_singleton.mp shown
  exact absurd ⟨6, rfl, by decide, rfl⟩ uncounted

/-- Next to a sample of five sessions, one of none is dropped: the sessions of the window
count as maintained. -/
theorem sessions_judged_dropped : chatMaintained [chatSample 5, chatSample 0] = some true ∧
    chatSample 0 ∈ dictItems (metricSamples (chatEvidence [chatSample 5, chatSample 0])
      continuityActiveSessionsMetric) ∧
    chatItem ∈ dictItems chatBaseline ∧
    Judged sampleSessionCodec chatBaseline (some 0) continuitySampleMaxAgeSeconds chatItem
      (chatSample 0) ∧
    ¬Maintains sampleSessionCodec chatItem (chatSample 0) := by
  refine ⟨by decide +kernel, List.mem_cons_of_mem _ List.mem_cons_self, List.mem_cons_self,
    chatSample_judged 0, ?_⟩
  rintro ⟨before, five, value, none_, fewer⟩
  cases five
  cases none_
  revert fewer
  decide

end sample

end K8sOps.Rca
