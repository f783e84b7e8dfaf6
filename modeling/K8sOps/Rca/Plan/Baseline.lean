import Mathlib.Algebra.Order.Ring.Unbundled.Rat
import K8sOps.Rca.Plan.Store

/-! What a verification will be judged against. The baseline is taken from the
approved parameters and the incident's evidence when the Safe PR is tracked; what
is missing from it blocks the merge. -/
namespace K8sOps.Rca
open Python
variable (codec : Codec)

def optionalNumber : Option Rat → Value
  | some value => .scalar (.float (.finite value))
  | none => .scalar .none

def optionalCount : Option Nat → Value
  | some value => .scalar (.int value)
  | none => .scalar .none

def identityValue : Option (List (String × String)) → Value
  | some identity => .dict (identity.map fun entry => (.str entry.1, .scalar (.str entry.2)))
  | none => .scalar .none

section alert

/-- The alert fired for this incident on the recovered series, above its threshold. -/
def isOriginalAlert (target : Target) (correlationId incidentId : String)
    (expectedIdentity : Option (List (String × String))) (alert : Entries) : Bool :=
  let status := codec.casefold (getText "status" alert)
  let firedAt := codec.parseDatetime (getOrNone "fired_at" alert)
  let resolvedAt := codec.parseDatetime (getOrNone "resolved_at" alert)
  let seriesIdentity := standardSliSeriesIdentity (getOrNone "series_identity" alert)
  alertMatchesTarget codec alert target &&
    getText "incident_id" alert ∈ [correlationId, incidentId] &&
    codec.casefold (getText "source" alert) = "alertmanager" &&
    getText "rule_name" alert = standardSliAlertName &&
    status ∈ ["firing", "acked", "resolved"] &&
    (match decide (status = "resolved"), firedAt, resolvedAt with
      | true, some fired, some resolved => fired ≤ resolved
      | true, _, _ => false
      | false, fired, _ => fired.isSome) &&
    (match codec.finiteFloat (getOrNone "observed_value" alert),
        codec.finiteFloat (getOrNone "threshold" alert) with
      | some observed, some threshold => threshold < observed
      | _, _ => false) &&
    seriesIdentity.isSome &&
    metricLabelsMatchTarget codec (asMapping (identityValue seriesIdentity)) target &&
    (expectedIdentity.isNone || seriesIdentity = expectedIdentity)

/-- The snapshot when there is not exactly one such alert. -/
def unavailableAlert (reasonCode : String) : Entries :=
  [(.str "available", .scalar (.bool false)), (.str "reason_code", .scalar (.str reasonCode))]

def beforeAlertSnapshot (alerts : List Entries) (target : Target)
    (correlationId incidentId : String)
    (expectedIdentity : Option (List (String × String))) : Entries :=
  let fields :=
    ["rule_id", "rule_name", "source", "subject_key", "series_identity", "observed_value",
      "threshold", "fired_at", "subject"]
  match alerts.filter (isOriginalAlert codec target correlationId incidentId expectedIdentity) with
  | [] => unavailableAlert "pre_recovery_alert_missing"
  | [alert] =>
    (.str "available", .scalar (.bool true)) :: (.str "alert_event_id",
      getOrNone "event_id" alert) :: fields.map fun field => (.str field, getOrNone field alert)
  | _ => unavailableAlert "pre_recovery_alert_ambiguous"

end alert

/-- What the handler reads besides the plan and its approval: the incident's
evidence and alerts, the registration of the cluster, and the settings. -/
structure BaselineSources where
  evidence : Entries
  alerts : List Entries
  registrationSettings : Entries
  minimumSetting : Option Int
  maximumSetting : Option Int
  toleranceSetting : Option Rat
  now : Int

def boundedEnvSeconds (setting : Option Int) (default lower upper : Nat) : Nat :=
  max lower (min (setting.getD default).toNat upper)

def verificationWindowSeconds (sources : BaselineSources) : Nat × Nat :=
  let minimum :=
    boundedEnvSeconds sources.minimumSetting defaultMinimumSeconds defaultMinimumSeconds
    defaultMaximumSeconds
  (minimum,
    boundedEnvSeconds sources.maximumSetting defaultMaximumSeconds minimum defaultMaximumSeconds)

def boundedRatio (setting : Option Rat) : Rat :=
  match setting with
  | none => codec.rounded (1 / 5)
  | some ratio => max 0 (min ratio (1 / 2))

/-- `[dict(item) for item in value if isinstance(item, Mapping)]`, or nothing. -/
def mappingItems : Value → List Value
  | .list items => items.filter Value.isDict
  | _ => []

/-- A sample's value and identity: the approved ones, or else the collected ones. -/
def baselineSample (params : Entries) (valueKey identityKey metricName : String) (target : Target)
    (evidence : Entries) : Option Rat × Option (List (String × String)) :=
  let collected := metricSampleWithIdentity codec evidence metricName target []
  let approvedIdentity := getMapping identityKey params
  ((codec.finiteFloat (getOrNone valueKey params)).or (collected.map Prod.fst),
    if approvedIdentity.isEmpty then collected.map Prod.snd else metricIdentity approvedIdentity)

/-- What the merge has to wait for. -/
def missingPrerequisites (continuityMissing : Bool) (failureRatio requestRate : Option Rat)
    (failureIdentity requestIdentity : Option (List (String × String))) (before : Entries)
    (expectedReplicas cadence : Option Nat) (authorizedChanges : List Value) : List String :=
  let listed (missing : Bool) (names : List String) := if missing then names else []
  (listed continuityMissing ["metadata:current_workload_snapshots",
    "metrics:kyro_continuity_active_sessions"] ++
    listed failureRatio.isNone ["metrics:kyro_sli_failure_ratio"] ++
    listed failureIdentity.isNone ["metrics:kyro_sli_failure_ratio_identity"] ++
    listed (!requestRate.any (0 < ·)) ["metrics:kyro_sli_request_rate"] ++
    listed requestIdentity.isNone ["metrics:kyro_sli_request_rate_identity"] ++
    listed (!isTrue (getOrNone "available" before) ||
        (codec.finiteFloat (getOrNone "threshold" before)).isNone)
          ["alertmanager:original_exact_alert"] ++
    listed expectedReplicas.isNone ["gitops:approved_replica_baseline"] ++
    listed authorizedChanges.isEmpty ["gitops:approved_change_contract"] ++
    listed (!cadence.any (0 < ·)) ["cluster:evidence_cadence"]).dedup.insertionSort (· ≤ ·)

def trackedVerification (params : Entries) (authorizedChanges : List Value) (target : Target)
    (correlationId incidentId : String) (sources : BaselineSources) : Verification :=
  let (failureRatio, failureIdentity) :=
    baselineSample codec params "verification_failure_ratio_before"
    "verification_failure_ratio_metric_identity" standardFailureRatioMetric target sources.evidence
  let (requestRate, requestIdentity) :=
    baselineSample codec params "verification_request_rate_baseline"
    "verification_request_rate_metric_identity" standardRequestRateMetric target sources.evidence
  let protectedBefore := (protectedWorkloads codec sources.evidence target (.scalar .none)).getD []
  let protectedBaseline := mappingItems (getOrNone "protected_baseline" params)
  let sessionBaseline := mappingItems (getOrNone "protected_session_baseline" params)
  let continuity := getText "verification_contract" params = "protected_workload_continuity"
  let approvedAlert := getMapping "verification_alert_before" params
  let alertBefore :=
    if approvedAlert.isEmpty then
      beforeAlertSnapshot codec sources.alerts target correlationId incidentId failureIdentity
    else approvedAlert
  let additions : List (String × Value) := [
    ("captured_at", .scalar (.str (codec.isoformat sources.now))),
    ("failure_ratio", optionalNumber failureRatio),
    ("request_rate", optionalNumber requestRate),
    ("metrics_evidence_ref", getOrNone "object_ref" sources.evidence),
    ("protected_workloads", .list (protectedBefore.map fun workload => .dict workload.toEntries)),
    ("protected_active_sessions", .list sessionBaseline)]
  let before :=
    additions.foldl (fun entries entry => Entries.assign (.str entry.1) entry.2 entries) alertBefore
  let (minimum, maximum) := verificationWindowSeconds sources
  let expectedReplicas := codec.nonnegativeInt (getOrNone "expected_replicas" params)
  let cadence :=
    (codec.nonnegativeInt (getOrNone "verification_evidence_cadence_seconds" params)).or
    (codec.nonnegativeInt (getOrNone "evidence_interval_seconds" sources.registrationSettings))
  let blockers := missingPrerequisites codec
    (continuity && (protectedBaseline.isEmpty || sessionBaseline.isEmpty)) failureRatio requestRate
    failureIdentity requestIdentity before expectedReplicas cadence authorizedChanges
  { status := if blockers.isEmpty then .waitingForMerge else .mergeBlocked
    expected := [
      (.str "failure_ratio_max", optionalNumber (codec.finiteFloat (getOrNone "threshold" before))),
      (.str "request_rate_baseline", optionalNumber requestRate),
      (.str "request_rate_tolerance_ratio",
        optionalNumber (some (boundedRatio codec sources.toleranceSetting))),
      (.str "replicas", optionalCount expectedReplicas),
      (.str "failure_ratio_metric_identity", identityValue failureIdentity),
      (.str "request_rate_metric_identity", identityValue requestIdentity),
      (.str "evidence_cadence_seconds", optionalCount cadence),
      (.str "protected_workloads",
        .scalar (.int (if continuity then protectedBaseline.length else 0)))]
    target := some target
    startedAt := none
    deadlineAt := none
    expiredAt := none
    minimumSeconds := .scalar (.int minimum)
    maximumSeconds := maximum
    retryAttempt := none
    blockers
    before
    protectedBaseline := .list protectedBaseline
    protectedSessionBaseline := .list sessionBaseline
    lastSessionSamples := .scalar .none
    healthySince := none
    lastHealthyObservedAt := none
    distinctEvidenceCount := 0
    lastEvidenceKey := ""
    lastReasonCode := none
    lastReason := ""
    after := none }

end K8sOps.Rca
