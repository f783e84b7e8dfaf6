import K8sOps.Rca.Evidence

/-! The named checks that decide whether one evidence window is healthy. A check
without its evidence has no value, which is neither a pass nor a failure. -/
namespace K8sOps.Rca
open Python
variable (codec : Codec)

section alerts

def standardSliSeriesIdentity (value : Value) : Option (List (String × String)) :=
  metricIdentity (asMapping value)

def alertMatchesTarget (alert : Entries) (target : Target) : Bool :=
  let subject := getMapping "subject" alert
  getText "cluster" subject = target.clusterId && getText "namespace" subject = target.namespace &&
    codec.casefold (getText "kind" subject) = codec.casefold target.resourceKind &&
    getText "name" subject = target.resourceName

def alertMatchesOriginalSeries (alert before : Entries) (target : Target) : Bool :=
  let expected := standardSliSeriesIdentity (getOrNone "series_identity" before)
  let current := standardSliSeriesIdentity (getOrNone "series_identity" alert)
  alertMatchesTarget codec alert target &&
    (getText "rule_name" before ≠ standardSliAlertName || expected.isSome && current = expected) &&
    ["rule_id", "rule_name", "source", "subject_key"].all fun field =>
      getText field before = "" || getText field alert = getText field before

/-- The alert that opened the incident, and whether its series fired again. -/
structure AlertScan where
  original : Option Entries
  refired : Bool

def AlertScan.step (before : Entries) (target : Target) (verificationStartedAt : Option Int)
    (scan : AlertScan) (alert : Entries) : AlertScan :=
  let originalId := getText "alert_event_id" before
  if !alertMatchesOriginalSeries codec alert before target then scan
  else if originalId ≠ "" ∧ getText "event_id" alert = originalId then
    { scan with original := some alert }
  else
    match verificationStartedAt, codec.parseDatetime (getOrNone "fired_at" alert) with
    -- A refire that is already resolved again still counts.
    | some startedAt, some firedAt => { scan with refired := scan.refired || startedAt ≤ firedAt }
    | _, _ => scan

def alertChecks (alerts : List Entries) (before : Entries) (target : Target)
    (verificationStartedAt : Option Int) : Option Bool × Option Bool :=
  let scan := alerts.foldl (AlertScan.step codec before target verificationStartedAt) ⟨none, false⟩
  match scan.original with
  | none => (none, if scan.refired then some false else none)
  | some original =>
    (some (codec.casefold (getText "status" original) = "resolved" &&
        (codec.parseDatetime (getOrNone "resolved_at" original)).isSome),
      some !scan.refired)

end alerts

section protection

def Workload.toEntries (workload : Workload) : Entries :=
  let texts (items : List String) : Value := .list (items.map fun item => .scalar (.str item))
  [(.str "kind", .scalar (.str workload.kind)),
    (.str "namespace", .scalar (.str workload.namespace)),
    (.str "name", .scalar (.str workload.name)), (.str "uid", workload.uid),
    (.str "pod_uids", texts workload.podUids),
    (.str "pod_start_times", texts workload.podStartTimes),
    (.str "restart_count", .scalar (.int workload.restartCount)),
    (.str "healthy", .scalar (.bool workload.healthy))]

def normalizedWorkload (item : Entries) : Value :=
  .dict (["name", "kind", "namespace", "uid", "pod_uids", "pod_start_times", "restart_count"].map
    fun key => (.str key, getOrNone key item))

/-- A missing baseline is never rebuilt from later evidence. -/
def protectedWorkloadsUnchanged (baseline : Value)
    (current : Option (List Workload)) : Option Bool :=
  let normalized : Value → Option Value
    | .dict item => some (normalizedWorkload item)
    | _ => none
  match baseline, current with
  | .list (item :: items), some workloads =>
    some (Value.same (.list ((item :: items).filterMap normalized))
      (.list (workloads.map fun workload => normalizedWorkload workload.toEntries)))
  | _, _ => none

/-- The sessions of every series, unless an item is incomplete or repeated. -/
def sessionValues (parsed : List (SessionIdentity × Rat)) :
    List Value → Option (List (SessionIdentity × Rat))
  | [] => some parsed
  | .dict item :: items =>
    let identity := sessionIdentity codec item
    match codec.finiteFloat (getOrNone "value" item) with
    | some value =>
      if "" ∈ identity.order ∨ identity ∈ parsed.map Prod.fst then none
      else sessionValues (parsed ++ [(identity, value)]) items
    | none => none
  | _ :: _ => none

/-- New sessions are welcome; no series may have fewer than before. -/
def protectedActiveSessionsMaintained (baseline : Value)
    (current : Option (List SessionSample)) : Option Bool :=
  match baseline, current with
  | .list (item :: items), some samples =>
    match sessionValues codec [] (item :: items),
      sessionValues codec [] (samples.map SessionSample.toValue) with
    | some before, some after =>
      if sameMembers (before.map Prod.fst) (after.map Prod.fst) then
        some (before.all fun entry => (after.lookup entry.1).any fun value => entry.2 ≤ value)
      else none
    | _, _ => none
  | _, _ => none

end protection

abbrev Checks := List (String × Option Bool)

/-- `left == right if left is not None and right is not None else None`. -/
def matched (left right : Option Nat) : Option Bool :=
  match left, right with
  | some left, some right => some (left = right)
  | _, _ => none

def requestRateNearBaseline (requestRate baseline toleranceRatio : Option Rat) : Option Bool :=
  match requestRate, baseline, toleranceRatio with
  | some rate, some base, some tolerance =>
    if 0 < base ∧ 0 ≤ tolerance ∧ tolerance < 1 then
      let bound := codec.rounded (base * tolerance)
      some (-bound ≤ codec.rounded (rate - base) && codec.rounded (rate - base) ≤ bound)
    else none
  | _, _, _ => none

/-- A deployment that the window does not show. -/
def Deployment.unknown : Deployment := ⟨none, none, none, none, none, none, none, false⟩

/-- An omitted count of unavailable replicas is zero only when the rollout is
otherwise complete. -/
def unavailableReplicasZero (replicas : Option Nat) (deployment : Deployment) : Option Bool :=
  match deployment.unavailableReplicas with
  | some unavailable => some (unavailable = 0)
  | none =>
    match replicas, deployment.generation, deployment.observedGeneration with
    | some expected, some generation, some observed =>
      if deployment.unavailableReplicasOmitted ∧ deployment.desiredReplicas = some expected ∧
          deployment.readyReplicas = some expected ∧ deployment.updatedReplicas = some expected ∧
          deployment.availableReplicas = some expected ∧ generation ≤ observed then some true
      else none
    | _, _, _ => none

/-- A check on the protected workloads passes when none are expected. -/
def whenProtected (protectedExpected : Nat) (check : Option Bool) : Option Bool :=
  if 0 < protectedExpected then check else some true

def verificationChecks (after : Observation) (alerts : List Entries) (before : Entries)
    (target : Target) (expected : Entries) (protectedBaseline protectedSessionBaseline : Value)
    (verificationStartedAt : Option Int) : Checks :=
  let number (key : String) := codec.finiteFloat (getOrNone key expected)
  let replicas := codec.nonnegativeInt (getOrNone "replicas" expected)
  let deployment := after.deployment.getD .unknown
  let protectedExpected := (codec.nonnegativeInt (getOrNone "protected_workloads" expected)).getD 0
  let sessionExpected := match protectedSessionBaseline with
    | .list items => some items.length
    | _ => none
  let (alertResolved, noRefire) := alertChecks codec alerts before target verificationStartedAt
  [("failure_ratio_below_threshold",
      match after.failureRatio, number "failure_ratio_max" with
      | some ratio, some most => some (ratio ≤ most)
      | _, _ => none),
    ("request_rate_near_baseline", requestRateNearBaseline codec after.requestRate
      (number "request_rate_baseline") (number "request_rate_tolerance_ratio")),
    ("desired_replicas_restored", matched deployment.desiredReplicas replicas),
    ("ready_replicas_restored", matched deployment.readyReplicas replicas),
    ("updated_replicas_restored", matched deployment.updatedReplicas replicas),
    ("available_replicas_restored", matched deployment.availableReplicas replicas),
    ("unavailable_replicas_zero", unavailableReplicasZero replicas deployment),
    ("deployment_generation_observed", matched deployment.observedGeneration deployment.generation),
    ("protected_workloads_present", whenProtected protectedExpected
      (after.protectedWorkloads.map fun workloads => protectedExpected ≤ workloads.length)),
    ("protected_workloads_healthy", whenProtected protectedExpected
      (after.protectedWorkloads.map fun workloads => workloads.all (·.healthy))),
    ("protected_workloads_uninterrupted", whenProtected protectedExpected
      (protectedWorkloadsUnchanged protectedBaseline after.protectedWorkloads)),
    ("protected_active_session_series_present", whenProtected protectedExpected
      (matched (after.protectedActiveSessions.map List.length) sessionExpected)),
    ("protected_active_sessions_maintained", whenProtected protectedExpected
      (protectedActiveSessionsMaintained codec protectedSessionBaseline
        after.protectedActiveSessions)),
    ("alertmanager_resolved", alertResolved),
    ("alertmanager_no_refire", noRefire)]

def failedChecks (checks : Checks) : List String :=
  (checks.filter fun check => check.2 = some false).map Prod.fst

def missingChecks (checks : Checks) : List String :=
  (checks.filter fun check => check.2 = none).map Prod.fst

/-- Every check has passed. -/
def allPassed (checks : Checks) : Bool := checks.all fun check => check.2 = some true

theorem allPassed_iff (checks : Checks) :
    allPassed checks = true ↔ failedChecks checks = [] ∧ missingChecks checks = [] := by
  simp only [allPassed, failedChecks, missingChecks, List.all_eq_true, List.map_eq_nil_iff,
    List.filter_eq_nil_iff, decide_eq_true_eq]
  constructor
  · intro passed
    refine ⟨fun check member => ?_, fun check member => ?_⟩ <;> simp [passed check member]
  · rintro ⟨noneFailed, noneMissing⟩ check member
    match value : check.2 with
    | some true => rfl
    | some false => exact absurd value (noneFailed check member)
    | none => exact absurd value (noneMissing check member)

end K8sOps.Rca
