import K8sOps.Rca.Alignment

/-! Whether an alert and an agent's window are joined should not depend on which of them is
processed last. The repository reads a range that is turned around for the second
direction, but the worker's own test of the distance is not, so an alert that starts well
after the window is only joined when the alert is processed last. -/
namespace K8sOps.Rca.Alignment
open Python
variable {texts : EvidenceTexts}

section stored

/-- A window as it was stored for an event, at the time that it says itself. -/
structure StoredWindow (texts : EvidenceTexts) (row : WindowRow)
    (evt : ClusterEvidence) : Prop where
  workspaceId : row.workspaceId = evt.workspaceId
  clusterId : row.clusterId = evt.clusterId
  sourceId : evt.sourceId = some row.sourceId
  windowStart : evt.windowStart = some row.windowStart
  payload : ∃ payload, row.payload = .dict payload ∧
    getOrNone "kubernetes" payload = .dict evt.kubernetes ∧
    getOrNone "metrics" payload = .dict evt.metrics ∧
    getOrNone "window_start" payload = .scalar (.str row.windowStart)
  updatedAt : parseTimestamp texts row.windowStart = some row.updatedAt

/-- The agent has seen the failure that the alert is about. -/
def SameFailure (texts : EvidenceTexts) (alertEvt agentEvt : ClusterEvidence) : Prop :=
  ∃ identity, standardSliIdentity texts alertEvt.metrics = some identity ∧
    sliIdentityMatchesIncident texts identity alertEvt.kubernetes = true ∧
    ∃ observed ∈ observedIdentities texts agentEvt.metrics,
      sameSliIdentity texts observed identity = true

/-- An alert's window and an agent's window about the same failure. -/
structure Counterparts (texts : EvidenceTexts) (alert agent : WindowRow)
    (alertEvt agentEvt : ClusterEvidence) : Prop where
  alertStored : StoredWindow texts alert alertEvt
  agentStored : StoredWindow texts agent agentEvt
  workspaceId : alert.workspaceId = agent.workspaceId
  clusterId : alert.clusterId = agent.clusterId
  alertSource : alert.sourceId = alertmanagerSourceId
  agentSource : agent.sourceId ≠ alertmanagerSourceId
  agentId : agent.agentId.isSome
  identity : SameFailure texts alertEvt agentEvt

/-- The repository can read the time of the event, and the other window has a key. -/
def Findable (texts : EvidenceTexts) (event other : WindowRow) : Prop :=
  (texts.codec.fromIsoformat event.windowStart).isSome ∧
    rowEvidenceKey texts other (asMapping other.payload) ≠ ""

/-- Where joined evidence names the other window. -/
def joinField (evt : ClusterEvidence) : String :=
  if evt.sourceId ≠ some alertmanagerSourceId then "aligned_alertmanager_evidence"
  else "aligned_evidence"

/-- The evidence that is passed on for an event names the window that it was joined with. -/
def Names (evt joined : ClusterEvidence) (evidenceKey : String) : Prop :=
  getOrNone "evidence_key" (getMapping (joinField evt) joined.metadata) = jsonText evidenceKey

def Joins (texts : EvidenceTexts) (rows : List WindowRow) (evt : ClusterEvidence)
    (row : WindowRow) : Prop :=
  ∃ evidenceKey, alignedWindow texts rows evt = some (asMapping row.payload, evidenceKey) ∧
    Names evt (attachAlignedClusterEvidence texts rows evt) evidenceKey

variable {row event : WindowRow} {evt : ClusterEvidence} {payload : Entries}

theorem optionalText_str {key value : String} {entries : Entries}
    (stored : getOrNone key entries = .scalar (.str value)) :
    optionalText texts key entries = value := by
  rw [optionalText, stored]
  by_cases empty : value = ""
  · simp [truthy, empty]
  · simp [truthy, empty, texts.toText_str]

theorem StoredWindow.nonempty (stored : StoredWindow texts row evt) : row.windowStart ≠ "" := by
  intro empty
  have parsed := stored.updatedAt
  rw [parseTimestamp, empty, show strip "" = "" from rfl, texts.fromIsoformat_empty] at parsed
  cases parsed

theorem StoredWindow.observed (stored : StoredWindow texts row evt)
    (readable : (texts.codec.fromIsoformat row.windowStart).isSome) :
    texts.codec.fromIsoformat row.windowStart = some row.updatedAt := by
  obtain ⟨observed, read⟩ := Option.isSome_iff_exists.mp readable
  have same := (texts.fromIsoformat_strip _ read).symm.trans stored.updatedAt
  rw [read, same]

theorem StoredWindow.distance (stored : StoredWindow texts row evt)
    (isPayload : row.payload = .dict payload)
    (start : parseTimestamp texts event.windowStart = some event.updatedAt) :
    windowDistance texts row payload event.windowStart =
      if -seconds 60 ≤ event.updatedAt - row.updatedAt ∧
      event.updatedAt - row.updatedAt ≤ seconds 600 then
        some (event.updatedAt - row.updatedAt).natAbs
      else none := by
  obtain ⟨entries, isEntries, _, _, windowStart⟩ := stored.payload
  cases isPayload.symm.trans isEntries
  have trusted : trustedWindowTime texts row payload = some row.updatedAt := by
    rw [trustedWindowTime, optionalText_str windowStart, stored.updatedAt]
    exact if_pos rfl
  rw [windowDistance, start, trusted]
  rfl

end stored

section selection
variable {row other : WindowRow} {payload : Entries} {workspaceId clusterId observedAt : String}
  {wanted : WindowRow → Bool} {before after observed : Int}

theorem listWindows_pair (workspace : row.workspaceId = workspaceId)
    (cluster : row.clusterId = clusterId) (isWanted : wanted row = true)
    (unwanted : wanted other = false) (isPayload : row.payload = .dict payload)
    (read : texts.codec.fromIsoformat observedAt = some observed) {rows : List WindowRow}
    (pair : rows = [row, other] ∨ rows = [other, row]) :
    listWindows texts rows workspaceId clusterId observedAt wanted before after
      alignedEvidenceLimit =
      if observed - seconds before ≤ row.updatedAt ∧ row.updatedAt ≤ observed + seconds after then
        [row] else [] := by
  have only : (rows.filter fun row => row.workspaceId = workspaceId && row.clusterId = clusterId &&
      wanted row &&
      observed - seconds before ≤ row.updatedAt && row.updatedAt ≤ observed + seconds after) =
      if observed - seconds before ≤ row.updatedAt ∧ row.updatedAt ≤ observed + seconds after then
        [row] else [] := by
    rcases pair with rfl | rfl <;>
      simp [List.filter_cons, workspace, cluster, isWanted, unwanted]
  rw [listWindows, read]
  simp only [only]
  split
  · simp [alignedEvidenceLimit, isPayload, dict?]
  · simp

theorem uniqueNearestWindow_single (candidate : Nat × Entries × String) :
    uniqueNearestWindow [candidate] = some candidate.2 := by
  simp [uniqueNearestWindow]

theorem candidate_passing {test : Entries → Bool} {distance : WindowRow → Entries → Option Nat}
    (isPayload : row.payload = .dict payload) (passes : test payload = true) :
    candidate texts test distance row = (distance row payload).bind fun distance =>
      if rowEvidenceKey texts row payload ≠ "" then
        some (distance, payload, rowEvidenceKey texts row payload) else none := by
  rw [candidate, isPayload, dict?, Option.bind_some, if_pos passes]

theorem selected_iff {test : Entries → Bool} {distance : WindowRow → Entries → Option Nat}
    {inRange near : Prop} [Decidable inRange] [Decidable near] {far : Nat}
    (isPayload : row.payload = .dict payload) (passes : test payload = true)
    (isDistance : distance row payload = if near then some far else none) :
    (uniqueNearestWindow ((if inRange then [row]
  else []).filterMap (candidate texts test distance))).map Prod.fst =
        some (asMapping row.payload) ↔
      inRange ∧ near ∧ rowEvidenceKey texts row (asMapping row.payload) ≠ "" := by
  rw [isPayload, asMapping]
  by_cases ranged : inRange
  · rw [if_pos ranged, List.filterMap_cons, candidate_passing isPayload passes, isDistance]
    by_cases close : near
    · by_cases keyed : rowEvidenceKey texts row payload ≠ ""
      · simp [ranged, close, keyed, uniqueNearestWindow_single]
      · simp [close, keyed, uniqueNearestWindow]
    · simp [close, uniqueNearestWindow]
  · simp [ranged, uniqueNearestWindow]

end selection

section identity
variable {left right : SliIdentity} {metrics : Entries}

theorem sameSliIdentity_iff :
    sameSliIdentity texts left right = true ↔ left.normalized texts = right.normalized texts := by
  simp only [sameSliIdentity, SliIdentity.normalized, SliIdentity.mk.injEq, Bool.and_eq_true,
    decide_eq_true_eq, and_assoc]

theorem alertIdentity_complete {alert : Value} {identity : SliIdentity}
    (found : alertIdentity texts alert = some identity) :
    identity.complete = true := by
  obtain ⟨entries, _, found⟩ := Option.bind_eq_some_iff.mp found
  rw [Option.ite_none_left_eq_some] at found
  obtain ⟨labels, _, found⟩ := Option.bind_eq_some_iff.mp found.2
  rw [Option.ite_none_left_eq_some, Option.ite_none_right_eq_some] at found
  obtain ⟨_, complete, isIdentity⟩ := found
  cases isIdentity
  exact complete

theorem standardSliIdentity_complete {identity : SliIdentity}
    (found : standardSliIdentity texts metrics = some identity) :
    identity.complete = true := by
  rw [standardSliIdentity] at found
  split at found
  next normalized only single =>
    cases found
    have listed := Dict.mem_of_mem_ofPairs (single ▸ List.mem_singleton_self (normalized, identity))
    obtain ⟨_, member, isPair⟩ := List.mem_map.mp listed
    cases isPair
    obtain ⟨alert, _, isIdentity⟩ := List.mem_filterMap.mp member
    exact alertIdentity_complete isIdentity
  next => cases found

theorem standardSliIdentity_alertmanager {identity : SliIdentity}
    (found : standardSliIdentity texts metrics = some identity) :
    ∃ alertmanager, getOrNone "alertmanager" metrics = .dict alertmanager := by
  rw [standardSliIdentity] at found
  cases isAlertmanager : getOrNone "alertmanager" metrics with
  | dict alertmanager => exact ⟨alertmanager, rfl⟩
  | scalar scalar => rw [isAlertmanager] at found; cases found
  | list items => rw [isAlertmanager] at found; cases found

theorem complete_of_same (complete : right.complete = true)
    (same : sameSliIdentity texts left right = true) :
    left.complete = true := by
  simp only [SliIdentity.complete, Bool.and_eq_true, decide_eq_true_eq, and_assoc] at complete ⊢
  simp only [sameSliIdentity, Bool.and_eq_true, decide_eq_true_eq, and_assoc] at same
  obtain ⟨sameNamespace, sameKind, sameName, sameService, sameSli, sameSymptom⟩ := same
  rw [sameNamespace, sameName, sameService, sameSli, sameSymptom]
  refine ⟨complete.1, fun empty => complete.2.1 ?_, complete.2.2⟩
  rw [← texts.casefold_empty, ← sameKind, texts.casefold_empty]
  exact empty

theorem sameSliIdentity_symm (same : sameSliIdentity texts left right = true) :
    sameSliIdentity texts right left = true := by
  rw [sameSliIdentity_iff] at same ⊢
  exact same.symm

end identity

section directions
variable {alert agent : WindowRow} {alertEvt agentEvt : ClusterEvidence} {rows : List WindowRow}

theorem alignedWindow_start {evt : ClusterEvidence} {windowStart : String}
    (start : evt.windowStart = some windowStart) (nonempty : windowStart ≠ "") :
    alignedWindow texts rows evt =
      if evt.sourceId ≠ some alertmanagerSourceId then alignedAlertWindow texts rows evt windowStart
      else alignedAgentWindow texts rows evt windowStart := by
  rw [alignedWindow]
  split
  next absent => cases absent.symm.trans start
  next empty => exact absurd (Option.some.inj (start.symm.trans empty)) nonempty
  next found => cases start.symm.trans found; rfl

/-- An alert that cannot be placed in time finds nothing, and neither does an agent's window. -/
theorem listWindows_unreadable {workspaceId clusterId observedAt : String}
    {wanted : WindowRow → Bool} {before after limit : Int}
    (unreadable : ¬(texts.codec.fromIsoformat observedAt).isSome) :
    listWindows texts rows workspaceId clusterId observedAt wanted before after limit = [] := by
  rw [listWindows, Option.not_isSome_iff_eq_none.mp unreadable]

theorem names_assigned {evt joined : ClusterEvidence} {record metadata : Entries}
    (assigned : joined.metadata = Entries.assign (.str (joinField evt))
      (.dict ((.str "evidence_key", jsonText evidenceKey) :: record)) metadata) :
    Names evt joined evidenceKey := by
  rw [Names, assigned, getMapping, getOrNone, getOrNone, getKey, getKey, Entries.lookup_assign]
  rfl

theorem alert_names {evt : ClusterEvidence} {payload : Entries}
    (isAlert : ¬evt.sourceId ≠ some alertmanagerSourceId)
    (chosen : alignedWindow texts rows evt = some (payload, evidenceKey)) :
    Names evt (attachAlignedClusterEvidence texts rows evt) evidenceKey := by
  rw [attachAlignedClusterEvidence, chosen]
  simp only [if_neg isAlert]
  apply names_assigned
  rw [joinField, if_neg isAlert]
  rfl

/-- An alert with an identity has the parts that the agent's evidence takes over. -/
theorem agent_names {evt : ClusterEvidence} {payload metrics kubernetes : Entries}
    {identity : SliIdentity} (isAgent : evt.sourceId ≠ some alertmanagerSourceId)
    (isMetrics : getOrNone "metrics" payload = .dict metrics)
    (isKubernetes : getOrNone "kubernetes" payload = .dict kubernetes)
    (isIdentity : standardSliIdentity texts metrics = some identity)
    (chosen : alignedWindow texts rows evt = some (payload, evidenceKey)) :
    Names evt (attachAlignedClusterEvidence texts rows evt) evidenceKey := by
  obtain ⟨alertmanager, isAlertmanager⟩ := standardSliIdentity_alertmanager isIdentity
  rw [attachAlignedClusterEvidence, chosen]
  simp only [if_pos isAgent, mergeAlertmanagerEvidence, isMetrics, asMapping, isAlertmanager,
    isKubernetes]
  apply names_assigned
  rw [joinField, if_pos isAgent]

/-- A merge that names the window which was chosen leaves only the choice to look at. -/
theorem joins_iff_chosen {evt : ClusterEvidence} {row : WindowRow}
    (names : ∀ evidenceKey,
      alignedWindow texts rows evt = some (asMapping row.payload, evidenceKey) →
      Names evt (attachAlignedClusterEvidence texts rows evt) evidenceKey) :
    Joins texts rows evt row ↔
      (alignedWindow texts rows evt).map Prod.fst = some (asMapping row.payload) := by
  rw [Option.map_eq_some_iff]
  constructor
  · rintro ⟨evidenceKey, chosen, _⟩
    exact ⟨_, chosen, rfl⟩
  · rintro ⟨⟨_, evidenceKey⟩, chosen, rfl⟩
    exact ⟨evidenceKey, chosen, names evidenceKey chosen⟩

/-- The alert is processed while the agent's window is there. -/
theorem alert_joins_iff (pair : Counterparts texts alert agent alertEvt agentEvt)
    (both : rows = [agent, alert] ∨ rows = [alert, agent]) :
    Joins texts rows alertEvt agent ↔ Findable texts alert agent ∧
      -seconds 60 ≤ alert.updatedAt - agent.updatedAt ∧
      alert.updatedAt - agent.updatedAt ≤ seconds 600 := by
  obtain ⟨identity, isIdentity, isIncident, observed, isObserved, same⟩ := pair.identity
  obtain ⟨payload, isPayload, _, isMetrics, _⟩ := pair.agentStored.payload
  have isAlert : ¬alertEvt.sourceId ≠ some alertmanagerSourceId := by
    rw [pair.alertStored.sourceId, pair.alertSource]
    exact not_not_intro rfl
  rw [joins_iff_chosen fun _ => alert_names isAlert,
    alignedWindow_start pair.alertStored.windowStart pair.alertStored.nonempty, if_neg isAlert,
    alignedAgentWindow, isIdentity, Option.bind_some, if_pos isIncident,
    listAlignedEvidenceWindowPayloads]
  by_cases readable : (texts.codec.fromIsoformat alert.windowStart).isSome
  · have passes : payloadMatchesSliIdentity texts payload identity = true := by
      rw [payloadMatchesSliIdentity, isMetrics, asMapping]
      exact List.any_eq_true.mpr ⟨observed, isObserved, same⟩
    rw [listWindows_pair (pair.workspaceId.symm.trans pair.alertStored.workspaceId)
      (pair.clusterId.symm.trans pair.alertStored.clusterId)
        (by simp [pair.agentSource, pair.agentId])
      (by simp [pair.alertSource]) isPayload (pair.alertStored.observed readable) both,
      selected_iff isPayload passes
        (pair.agentStored.distance isPayload pair.alertStored.updatedAt), Findable]
    simp only [readable, true_and, alignedEvidenceBeforeSeconds,
      alignedEvidenceAfterSeconds, seconds]
    constructor
    · rintro ⟨_, near, keyed⟩
      exact ⟨keyed, near⟩
    · rintro ⟨keyed, near⟩
      exact ⟨by omega, near, keyed⟩
  · rw [listWindows_unreadable readable]
    simp [uniqueNearestWindow, Findable, readable]

/-- The agent's window is processed while the alert is there. -/
theorem agent_joins_iff (pair : Counterparts texts alert agent alertEvt agentEvt)
    (both : rows = [alert, agent] ∨ rows = [agent, alert]) :
    Joins texts rows agentEvt alert ↔ Findable texts agent alert ∧
      -seconds 60 ≤ alert.updatedAt - agent.updatedAt ∧
      alert.updatedAt - agent.updatedAt ≤ seconds 60 := by
  obtain ⟨identity, isIdentity, isIncident, observed, isObserved, same⟩ := pair.identity
  obtain ⟨payload, isPayload, isKubernetes, isMetrics, _⟩ := pair.alertStored.payload
  have isAgent : agentEvt.sourceId ≠ some alertmanagerSourceId := by
    rw [pair.agentStored.sourceId]
    exact fun source => pair.agentSource (Option.some.inj source)
  have listed : observed ∈ standardSliResultIdentities texts agentEvt.metrics :=
    List.mem_filter.mpr ⟨isObserved,
      complete_of_same (standardSliIdentity_complete isIdentity) same⟩
  have nonempty : ¬(standardSliResultIdentities texts agentEvt.metrics).isEmpty = true := by
    rw [List.isEmpty_iff]
    exact List.ne_nil_of_mem listed
  have isMapping : asMapping alert.payload = payload := by rw [isPayload, asMapping]
  rw [joins_iff_chosen fun _ => isMapping ▸ agent_names isAgent isMetrics isKubernetes isIdentity,
    alignedWindow_start pair.agentStored.windowStart pair.agentStored.nonempty, if_pos isAgent,
    alignedAlertWindow, if_neg nonempty, listAlignedAlertmanagerWindowPayloads]
  by_cases readable : (texts.codec.fromIsoformat agent.windowStart).isSome
  · have passes : alertMatches texts (standardSliResultIdentities texts agentEvt.metrics) payload =
        true := by
      simp only [alertMatches, isMetrics, isIdentity, isKubernetes, isIncident, Bool.and_true]
      exact List.any_eq_true.mpr ⟨observed, listed, sameSliIdentity_symm same⟩
    rw [listWindows_pair (pair.workspaceId.trans pair.agentStored.workspaceId)
      (pair.clusterId.trans pair.agentStored.clusterId) (by simp [pair.alertSource])
      (by simp [pair.agentSource]) isPayload (pair.agentStored.observed readable) both,
      selected_iff isPayload passes
        (pair.alertStored.distance isPayload pair.agentStored.updatedAt), Findable]
    simp only [readable, true_and, alignedEvidenceBeforeSeconds,
      alignedEvidenceAfterSeconds, seconds]
    constructor
    · rintro ⟨_, near, keyed⟩
      exact ⟨keyed, by omega⟩
    · rintro ⟨keyed, near⟩
      exact ⟨by omega, by omega, keyed⟩
  · rw [listWindows_unreadable readable]
    simp [uniqueNearestWindow, Findable, readable]

/-- The two windows are either too far apart or at most a minute, and then each can be found
from the other one. -/
structure Balanced (texts : EvidenceTexts) (alert agent : WindowRow) : Prop where
  near : -seconds 60 ≤ alert.updatedAt - agent.updatedAt →
    alert.updatedAt - agent.updatedAt ≤ seconds 60 →
    (Findable texts alert agent ↔ Findable texts agent alert)
  late : seconds 60 < alert.updatedAt - agent.updatedAt →
    alert.updatedAt - agent.updatedAt ≤ seconds 600 → ¬Findable texts alert agent

/-- The order of arrival does not matter exactly where the alert is not more than a minute
late. -/
theorem joins_in_either_order_iff (pair : Counterparts texts alert agent alertEvt agentEvt)
    (both : rows = [alert, agent] ∨ rows = [agent, alert]) :
    (Joins texts rows alertEvt agent ↔ Joins texts rows agentEvt alert) ↔
    Balanced texts alert agent := by
  rw [alert_joins_iff pair both.symm, agent_joins_iff pair both]
  simp only [seconds]
  constructor
  · intro same
    constructor
    · intro lower upper
      simp only [seconds] at lower upper
      constructor
      · intro found
        exact (same.mp ⟨found, lower, by omega⟩).1
      · intro found
        exact (same.mpr ⟨found, lower, upper⟩).1
    · intro late upper found
      simp only [seconds] at late upper
      have near := (same.mp ⟨found, by omega, upper⟩).2.2
      omega
  · intro balanced
    constructor
    · rintro ⟨found, lower, upper⟩
      by_cases near : alert.updatedAt - agent.updatedAt ≤ seconds 60
      · exact ⟨(balanced.near lower near).mp found, lower, near⟩
      · exact absurd found (balanced.late (Int.not_le.mp near) upper)
    · rintro ⟨found, lower, upper⟩
      exact ⟨(balanced.near lower upper).mpr found, lower, by omega⟩

section sample

def sampleTime (text : String) : Option Int :=
  if text = "0" then some 0 else if text = "30" then some 30000000
  else if text = "300" then some 300000000 else none

theorem sampleTime_strip {moment : Int} (text : String) (found : sampleTime text = some moment) :
    sampleTime (strip text) = some moment := by
  rw [sampleTime] at found
  split at found
  next isText => subst isText; cases found; decide +kernel
  next =>
    split at found
    next isText => subst isText; cases found; decide +kernel
    next =>
      split at found
      next isText => subst isText; cases found; decide +kernel
      next => cases found

def sampleText : Value → String
  | .scalar (.str text) => text
  | _ => "?"

def sampleTexts : EvidenceTexts where
  codec := ⟨id, id, fun _ => none, fun _ => none, id, sampleTime, fun _ => "", fun _ => none⟩
  toText := sampleText
  toText_str _ := rfl
  casefold_empty _ := Iff.rfl
  fromIsoformat_empty := by decide
  fromIsoformat_strip := sampleTime_strip

def sampleLabels (label : String → String) : Entries :=
  [("namespace", "shop"), ("resource_kind", "Deployment"), ("resource_name", "web"),
    ("service", "web"), ("sli", "ratio"), ("symptom", "errors")].map fun entry =>
      (Scalar.str (label entry.1), jsonText entry.2)

def sampleIncident : Entries :=
  [(.str "resource", .dict [(.str "namespace", jsonText "shop"),
    (.str "kind", jsonText "Deployment"), (.str "name", jsonText "web")])]

def sampleAlerts : Entries :=
  [(.str "alertmanager", .dict [(.str "alerts", .list [.dict [(.str "status", jsonText "firing"),
    (.str "labels", .dict ((.str "alertname", jsonText "KyroSliFailureRatioHigh") ::
      sampleLabels ("kyro_" ++ ·)))]])])]

def sampleIdentity : SliIdentity := ⟨"shop", "Deployment", "web", "web", "ratio", "errors"⟩

def sampleAlertEvent (windowStart : String) : ClusterEvidence where
  clusterId := "c"
  kubernetes := sampleIncident
  metrics := sampleAlerts
  logs := []
  traces := []
  workspaceId := "w"
  sourceId := some alertmanagerSourceId
  windowStart := some windowStart
  collectionStatus := []
  metadata := []

def sampleAgentEvent : ClusterEvidence where
  clusterId := "c"
  kubernetes := []
  metrics := [(.str "results", .dict [(.str "kyro_sli_failure_ratio", .dict [(.str "samples",
    .list [.dict [(.str "metric", .dict (sampleLabels id))]])])])]
  logs := []
  traces := []
  workspaceId := "w"
  sourceId := some "agent"
  windowStart := some "0"
  collectionStatus := []
  metadata := []

def sampleRow (evidenceKey sourceId windowStart : String) (agentId : Option String)
    (updatedAt : Int) (evt : ClusterEvidence) : WindowRow where
  evidenceKey := evidenceKey
  workspaceId := "w"
  clusterId := "c"
  sourceId := sourceId
  windowStart := windowStart
  agentId := agentId
  payload := .dict [(.str "kubernetes", .dict evt.kubernetes), (.str "metrics", .dict evt.metrics),
    (.str "window_start", jsonText windowStart)]
  updatedAt := updatedAt

def sampleAlertRow (windowStart : String) (updatedAt : Int) : WindowRow :=
  sampleRow "alert" alertmanagerSourceId windowStart none updatedAt (sampleAlertEvent windowStart)

def sampleAgentRow : WindowRow := sampleRow "agent" "agent" "0" (some "a") 0 sampleAgentEvent

theorem sample_counterparts {windowStart : String} {updatedAt : Int}
    (time : parseTimestamp sampleTexts windowStart = some updatedAt) :
    Counterparts sampleTexts (sampleAlertRow windowStart updatedAt) sampleAgentRow
      (sampleAlertEvent windowStart) sampleAgentEvent where
  alertStored := ⟨rfl, rfl, rfl, rfl, ⟨_, rfl, rfl, rfl, rfl⟩, time⟩
  agentStored := ⟨rfl, rfl, rfl, rfl, ⟨_, rfl, rfl, rfl, rfl⟩, by decide +kernel⟩
  workspaceId := rfl
  clusterId := rfl
  alertSource := rfl
  agentSource := by decide
  agentId := rfl
  identity := ⟨sampleIdentity, show standardSliIdentity sampleTexts sampleAlerts =
    some sampleIdentity by decide +kernel,
    show sliIdentityMatchesIncident sampleTexts sampleIdentity sampleIncident = true by
      decide +kernel,
    sampleIdentity, by decide +kernel, by decide +kernel⟩

theorem joins_in_either_order_iff_sample :
    Balanced sampleTexts (sampleAlertRow "30" 30000000) sampleAgentRow ∧
      (Joins sampleTexts [sampleAlertRow "30" 30000000,
        sampleAgentRow] (sampleAlertEvent "30") sampleAgentRow ↔
        Joins sampleTexts [sampleAlertRow "30" 30000000,
          sampleAgentRow] sampleAgentEvent (sampleAlertRow "30" 30000000)) := by
  have pair :=
    sample_counterparts (show parseTimestamp sampleTexts "30" = some 30000000 by decide +kernel)
  have balanced : Balanced sampleTexts (sampleAlertRow "30" 30000000) sampleAgentRow := by
    refine ⟨fun _ _ => ?_, fun late _ => absurd late (by decide)⟩
    exact iff_of_true ⟨by decide, by decide +kernel⟩ ⟨by decide, by decide +kernel⟩
  exact ⟨balanced, (joins_in_either_order_iff pair (.inl rfl)).mpr balanced⟩

/-- The alert starts five minutes after the agent's window. -/
theorem late_alert_joins_only_last :
    Counterparts sampleTexts (sampleAlertRow "300" 300000000) sampleAgentRow
      (sampleAlertEvent "300") sampleAgentEvent ∧
      Joins sampleTexts [sampleAlertRow "300" 300000000,
        sampleAgentRow] (sampleAlertEvent "300") sampleAgentRow ∧
      ¬Joins sampleTexts [sampleAlertRow "300" 300000000, sampleAgentRow] sampleAgentEvent
        (sampleAlertRow "300" 300000000) := by
  have pair :=
    sample_counterparts (show parseTimestamp sampleTexts "300" = some 300000000 by decide +kernel)
  refine ⟨pair, (alert_joins_iff pair (.inr rfl)).mpr ⟨⟨by decide, by decide +kernel⟩, by decide⟩,
    ?_⟩
  rw [agent_joins_iff pair (.inl rfl)]
  rintro ⟨_, _, near⟩
  exact absurd near (by decide)

end sample

end directions

end K8sOps.Rca.Alignment
