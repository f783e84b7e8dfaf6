import Mathlib.Algebra.GroupWithZero.Nat
import K8sOps.Python.Convert
import Mathlib.Data.List.Sort
import Mathlib.Data.String.Basic

/-! What one evidence window shows about a recovered workload: the two SLI
samples, the replicas of the deployment, the protected workloads around it and
their active sessions. A reading is absent when it is missing or ambiguous. -/
namespace K8sOps.Rca
open Python
variable (codec : Codec)

structure Target where
  clusterId : String
  «namespace» : String
  resourceKind : String
  resourceName : String
  deriving DecidableEq

def standardFailureRatioMetric : String := "kyro_sli_failure_ratio"
def standardRequestRateMetric : String := "kyro_sli_request_rate"
def standardSliAlertName : String := "KyroSliFailureRatioHigh"
def continuityActiveSessionsMetric : String := "kyro_continuity_active_sessions"
def continuitySampleMaxAgeSeconds : Int := 30
def recoveryContinuityLabel : String := "kyro.dev/recovery-continuity"
def recoveryContinuityProtectedValue : String := "protected"

def standardSliIdentityLabels : List String :=
  ["namespace", "resource_kind", "resource_name", "service", "sli", "symptom"]

/-- Times are in microseconds. -/
def second : Int := 1000000

def recoveryTarget (planPayload : Entries) : Target :=
  let target := getMapping "target" planPayload
  let selectedId := getText "recommended_action_id" planPayload
  let isSelected : Value → Bool
    | .dict candidate => getText "action_id" candidate = selectedId
    | _ => false
  let selected := match getOrNone "candidates" planPayload with
    | .list candidates => ((candidates.find? isSelected).map asMapping).getD []
    | _ => []
  let draft := getMapping "draft" selected
  let either (key : String) :=
    if getText key target ≠ "" then getText key target else getText key draft
  ⟨getText "cluster_id" target, either "namespace", either "resource_kind", either "resource_name"⟩

section metrics

/-- Only the aggregate vector counts: the six labels, with or without the metric's name. -/
def exactStandardSliLabelSet (labels : Entries) (metricName : String) : Bool :=
  let keys := labels.map Prod.fst
  let expected := standardSliIdentityLabels.map Scalar.str
  sameMembers keys expected ||
    sameMembers keys (expected ++ [.str "__name__"]) && getText "__name__" labels = metricName

def metricIdentity (labels : Entries) : Option (List (String × String)) :=
  let identity := standardSliIdentityLabels.map fun key => (key, getText key labels)
  if identity.any fun entry => entry.2 = "" then none else some identity

def metricLabelsMatchTarget (labels : Entries) (target : Target) : Bool :=
  getText "namespace" labels = target.namespace &&
    codec.casefold (getText "resource_kind" labels) = codec.casefold target.resourceKind &&
    getText "resource_name" labels = target.resourceName

/-- The identity label that a key of the expected identity is compared with. -/
def identityLabel (identity : List (String × String)) : Scalar → String
  | .str key => strip ((identity.lookup key).getD "")
  | _ => ""

def matchedSample (metricName : String) (target : Target) (expectedIdentity : Entries) :
    Value → Option (Rat × List (String × String))
  | .dict sample =>
    let labels := getMapping "metric" sample
    if exactStandardSliLabelSet labels metricName &&
        metricLabelsMatchTarget codec labels target then
      match metricIdentity labels with
      | none => none
      | some identity =>
        if expectedIdentity.any fun entry => identityLabel identity entry.1 ≠ asText entry.2 then
          none
        else (codec.finiteFloat (getOrNone "value" sample)).map (·, identity)
    else none
  | _ => none

def metricSamples (evidence : Entries) (metricName : String) : Value :=
  getOrNone "samples" (getMapping metricName (getMapping "results" (getMapping "metrics" evidence)))

def metricSampleWithIdentity (evidence : Entries) (metricName : String) (target : Target)
    (expectedIdentity : Entries) : Option (Rat × List (String × String)) :=
  match metricSamples evidence metricName with
  | .list samples =>
    match samples.filterMap (matchedSample codec metricName target expectedIdentity) with
    | [only] => some only
    | _ => none
  | _ => none

def metricSample (evidence : Entries) (metricName : String) (target : Target)
    (expectedIdentity : Entries) : Option Rat :=
  (metricSampleWithIdentity codec evidence metricName target expectedIdentity).map Prod.fst

end metrics

section workloads

structure Deployment where
  generation : Option Nat
  observedGeneration : Option Nat
  desiredReplicas : Option Nat
  readyReplicas : Option Nat
  updatedReplicas : Option Nat
  availableReplicas : Option Nat
  unavailableReplicas : Option Nat
  unavailableReplicasOmitted : Bool
  deriving DecidableEq

/-- The snapshots of the window, or else those of its change context. -/
def currentWorkloadSnapshots (evidence : Entries) : Option (List Value) :=
  let metadata := getMapping "metadata" evidence
  match getOrNone "current_workload_snapshots" metadata with
  | .list snapshots => some snapshots
  | _ =>
    match getOrNone "current_workload_snapshots" (getMapping "change_context" metadata) with
    | .list snapshots => some snapshots
    | _ => none

def matchedDeployment (target : Target) : Value → Option Deployment
  | .dict snapshot =>
    let workload := getMapping "workload" snapshot
    let status := getMapping "deployment_status" snapshot
    let count (key : String) (entries : Entries) := codec.nonnegativeInt (getOrNone key entries)
    if codec.casefold (getText "kind" workload) = codec.casefold target.resourceKind &&
        getText "namespace" workload = target.namespace &&
        getText "name" workload = target.resourceName then
      some {
        generation := count "generation" workload
        observedGeneration := count "observed_generation" status
        desiredReplicas := count "desired_replicas" status
        readyReplicas := count "ready_replicas" status
        updatedReplicas := count "updated_replicas" status
        availableReplicas := count "available_replicas" status
        unavailableReplicas := count "unavailable_replicas" status
        unavailableReplicasOmitted := (getKey "unavailable_replicas" status).isNone }
    else none
  | _ => none

def deploymentReplicas (evidence : Entries) (target : Target) : Option Deployment :=
  match currentWorkloadSnapshots evidence with
  | none => none
  | some snapshots =>
    match snapshots.filterMap (matchedDeployment codec target) with
    | [only] => some only
    | _ => none

structure Workload where
  kind : String
  «namespace» : String
  name : String
  uid : Value
  podUids : List String
  podStartTimes : List String
  restartCount : Nat
  healthy : Bool

def workloadIdentity (item : Entries) : String × String × String :=
  (codec.casefold (getText "kind" item), getText "namespace" item, getText "name" item)

/-- Before the recovery the label selects the workloads; during verification the
identities of the stored baseline do. -/
def isProtected (expectedIdentities : Option (List (String × String × String)))
    (snapshot : Entries) : Bool :=
  let marked (key : String) :=
    codec.casefold (getText recoveryContinuityLabel (getMapping key snapshot)) =
      recoveryContinuityProtectedValue
  match expectedIdentities with
  | some identities => workloadIdentity codec (getMapping "workload" snapshot) ∈ identities
  | none => marked "deployment_labels" && marked "pod_template_labels"

/-- A Pod that is ready and not being deleted carries the sessions. -/
def servingPods (snapshot : Entries) : List Entries :=
  let serving : Value → Option Entries
    | .dict pod =>
      if isTrue (getOrNone "ready" pod) ∧ getText "deletion_timestamp" pod = "" then some pod
      else none
    | _ => none
  match getOrNone "pod_statuses" snapshot with
  | .list pods => pods.filterMap serving
  | _ => []

def observedWorkload (snapshot : Entries) : Workload :=
  let workload := getMapping "workload" snapshot
  let status := getMapping "deployment_status" snapshot
  let serving := servingPods snapshot
  let texts (key : String) := ((serving.map (getText key)).filter (· ≠ "")).insertionSort (· ≤ ·)
  { kind := getText "kind" workload
    «namespace» := getText "namespace" workload
    name := getText "name" workload
    uid := getOrNone "uid" workload
    podUids := texts "uid"
    podStartTimes := texts "start_time"
    restartCount :=
      (serving.map fun pod => (codec.nonnegativeInt (getOrNone "restart_count" pod)).getD 0).sum
    healthy :=
      match codec.nonnegativeInt (getOrNone "desired_replicas" status),
        codec.nonnegativeInt (getOrNone "ready_replicas" status),
        codec.nonnegativeInt (getOrNone "available_replicas" status) with
      | some desired, some ready, some available =>
        0 < desired && desired ≤ ready && desired ≤ available && desired ≤ serving.length &&
          !isTrue (getOrNone "pod_statuses_truncated" snapshot)
      | _, _, _ => false }

/-- The recovered workload itself is left out: its rollout is judged by its replicas. -/
def protectedWorkload (target : Target)
    (expectedIdentities : Option (List (String × String × String))) :
    Value → Option Workload
  | .dict snapshot =>
    let workload := getMapping "workload" snapshot
    let kind := codec.casefold (getText "kind" workload)
    if getText "namespace" workload ≠ target.namespace ∨ kind ≠ "deployment" then none
    else if kind = codec.casefold target.resourceKind ∧
        getText "name" workload = target.resourceName then none
    else if isProtected codec expectedIdentities snapshot then
      some (observedWorkload codec snapshot)
    else none
  | _ => none

def protectedWorkloads (evidence : Entries) (target : Target) (baseline : Value) :
    Option (List Workload) :=
  let identityOf : Value → Option (String × String × String)
    | .dict item => some (workloadIdentity codec item)
    | _ => none
  let expectedIdentities := match baseline with
    | .list items => some (items.filterMap identityOf)
    | _ => none
  let order (item : Workload) := [item.namespace, item.kind, item.name]
  (currentWorkloadSnapshots evidence).map fun snapshots =>
    (snapshots.filterMap (protectedWorkload codec target expectedIdentities)).insertionSort
      fun left right => order left ≤ order right

end workloads

section sessions

/-- The workload of an active-session series, the session group and its Pod. -/
structure SessionIdentity where
  workload : String × String × String
  continuityId : String
  podUid : String
  deriving DecidableEq

structure SessionSample where
  «namespace» : String
  kind : String
  name : String
  continuityId : String
  podUid : String
  value : Rat
  sampleTimestamp : Rat
  deriving DecidableEq

def SessionSample.toValue (sample : SessionSample) : Value :=
  .dict [(.str "namespace", .scalar (.str sample.namespace)),
    (.str "kind", .scalar (.str sample.kind)), (.str "name", .scalar (.str sample.name)),
    (.str "continuity_id", .scalar (.str sample.continuityId)),
    (.str "pod_uid", .scalar (.str sample.podUid)),
    (.str "value", .scalar (.float (.finite sample.value))),
    (.str "sample_timestamp", .scalar (.float (.finite sample.sampleTimestamp)))]

def sessionWorkload (kindKey nameKey : String) (item : Entries) : String × String × String :=
  (getText "namespace" item, codec.casefold (getText kindKey item), getText nameKey item)

def sessionIdentity (item : Entries) : SessionIdentity :=
  ⟨sessionWorkload codec "kind" "name" item, getText "continuity_id" item, getText "pod_uid" item⟩

/-- The numbers stored under one key of each item, by series. -/
def storedSeries (key : String) : Value → Option (List (SessionIdentity × Rat))
  | .list items =>
    let entry : Value → Option (SessionIdentity × Rat)
      | .dict item => (codec.finiteFloat (getOrNone key item)).map (sessionIdentity codec item, ·)
      | _ => none
    some (Dict.ofPairs (items.filterMap entry))
  | _ => none

def protectedByWorkload (items : List Value) : List ((String × String × String) × Entries) :=
  let entry : Value → Option ((String × String × String) × Entries)
    | .dict item => some (sessionWorkload codec "kind" "name" item, item)
    | _ => none
  Dict.ofPairs (items.filterMap entry)

/-- The stored series must be complete, with one session group and one Pod each,
and the previous samples must be of exactly these series. -/
def seriesConsistent (expectedBaseline : Value)
    (expected previous : Option (List (SessionIdentity × Rat))) : Bool :=
  match expected, expectedBaseline with
  | some series, .list items =>
    series.length = items.length &&
      (series.map fun entry => entry.1.continuityId).Nodup &&
      (series.map fun entry => entry.1.podUid).Nodup &&
      match previous with
      | some timestamps => sameMembers (timestamps.map Prod.fst) (series.map Prod.fst)
      | none => false
  | _, _ => true

/-- One sample of the gauge, if it belongs to a protected Pod, counts sessions,
is fresh and is no older than the previous sample of its series. -/
def acceptedSession (protectedItems : List ((String × String × String) × Entries))
    (expected previous : Option (List (SessionIdentity × Rat)))
    (observedAt maxSampleAgeSeconds : Int) :
    Value → Option (SessionIdentity × Rat × Rat)
  | .dict sample =>
    let labels := getMapping "metric" sample
    let identity : SessionIdentity := ⟨sessionWorkload codec "resource_kind" "resource_name" labels,
      getText "continuity_id" labels, getText "pod_uid" labels⟩
    let podKnown : Bool := match protectedItems.lookup identity.workload with
      | some item =>
        match getOrNone "pod_uids" item with
        | .list uids => identity.podUid ∈ uids.map asText
        | _ => false
      | none => false
    let seriesKnown : Bool := match expected with
      | some series => identity ∈ series.map Prod.fst
      | none => true
    if identity.continuityId = "" ∨ identity.podUid = "" ∨ !podKnown ∨ !seriesKnown then none
    else
      match codec.finiteFloat (getOrNone "value" sample),
        codec.finiteFloat (getOrNone "timestamp" sample) with
      | some value, some timestamp =>
        if value ≤ 0 ∨ value.den ≠ 1 then none
        else
          match codec.fromTimestamp timestamp with
          | none => none
          | some sampleTime =>
            let backwards : Bool := match previous.bind (·.lookup identity) with
              | some earlier => timestamp < earlier
              | none => false
            if maxSampleAgeSeconds * second < (observedAt - sampleTime).natAbs ∨ backwards then none
            else some (identity, value, timestamp)
      | _, _ => none
  | _ => none

def sessionSample (protectedItems : List ((String × String × String) × Entries))
    (accepted : SessionIdentity × Rat × Rat) : SessionSample :=
  let identity := accepted.1
  { «namespace» := identity.workload.1
    kind := getText "kind" ((protectedItems.lookup identity.workload).getD [])
    name := identity.workload.2.2
    continuityId := identity.continuityId
    podUid := identity.podUid
    value := accepted.2.1
    sampleTimestamp := accepted.2.2 }

/-- Every expected series once, or else every protected workload once. -/
def sessionsComplete (protectedItems : List ((String × String × String) × Entries))
    (expected : Option (List (SessionIdentity × Rat))) (found : List SessionIdentity) : Bool :=
  found.Nodup &&
    (match expected with
      | some series => sameMembers found (series.map Prod.fst)
      | none => sameMembers (found.map (·.workload)) (protectedItems.map Prod.fst) &&
          found.length = protectedItems.length) &&
    (found.map (·.continuityId)).Nodup && (found.map (·.podUid)).Nodup

def SessionIdentity.order (identity : SessionIdentity) : List String :=
  [identity.workload.1, identity.workload.2.1, identity.workload.2.2, identity.continuityId,
    identity.podUid]

/-- One active-session gauge series for every protected workload. -/
def protectedActiveSessionSeries (evidence : Entries)
    (protectedBaseline expectedBaseline previousSamples : Value) (observedAt : Option Int)
    (maxSampleAgeSeconds : Int) : Option (List SessionSample) :=
  match protectedBaseline, observedAt, metricSamples evidence continuityActiveSessionsMetric with
  | .list items, some observed, .list samples =>
    let protectedItems := protectedByWorkload codec items
    let expected := storedSeries codec "value" expectedBaseline
    let previous := storedSeries codec "sample_timestamp" previousSamples
    let found := samples.filterMap
      (acceptedSession codec protectedItems expected previous observed maxSampleAgeSeconds)
    if items = [] ∨ protectedItems.length ≠ items.length ∨ maxSampleAgeSeconds ≤ 0 ∨
        !seriesConsistent expectedBaseline expected previous ∨
        !sessionsComplete protectedItems expected (found.map Prod.fst) then none
    else some ((found.insertionSort fun left right => left.1.order ≤ right.1.order).map
      (sessionSample protectedItems))
  | _, _, _ => none

end sessions

structure Observation where
  failureRatio : Option Rat
  requestRate : Option Rat
  deployment : Option Deployment
  protectedWorkloads : Option (List Workload)
  protectedActiveSessions : Option (List SessionSample)

def observedAfter (evidence : Entries) (target : Target) (expected : Entries)
    (protectedBaseline protectedSessionBaseline previousSessionSamples : Value) : Observation where
  failureRatio := metricSample codec evidence standardFailureRatioMetric target
    (getMapping "failure_ratio_metric_identity" expected)
  requestRate := metricSample codec evidence standardRequestRateMetric target
    (getMapping "request_rate_metric_identity" expected)
  deployment := deploymentReplicas codec evidence target
  protectedWorkloads := protectedWorkloads codec evidence target protectedBaseline
  protectedActiveSessions := protectedActiveSessionSeries codec evidence protectedBaseline
    protectedSessionBaseline
    (if truthy previousSessionSamples then previousSessionSamples else protectedSessionBaseline)
    (codec.parseDatetime (getOrNone "window_start" evidence)) continuitySampleMaxAgeSeconds

end K8sOps.Rca
