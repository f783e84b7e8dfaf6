import K8sOps.Timeline.Event
import K8sOps.Keyed

/-! The gaps in the capture of Kubernetes events, projected from a sequence of inventory snapshots.
One version folds the interleaved sequence with a state per cluster, the other one groups the
observations by cluster, sorts them and folds each group. -/
namespace K8sOps.Timeline
open Python

section capture

/-- What the projections take from the standard library. `milliseconds` is
`int(value.timestamp() * 1000)`, which goes through a float. -/
structure CaptureRuntime where
  str : Value → String
  parseInt : String → Option Int
  /-- `datetime.fromisoformat`, in microseconds; a naive time is in UTC. -/
  fromIsoformat : String → Option Int
  milliseconds : Int → Int

variable (runtime : CaptureRuntime)

def CaptureRuntime.normalizedText : Value → String
  | .scalar .none => ""
  | .scalar (.str text) => strip text
  | value => strip (runtime.str value)

def CaptureRuntime.positiveInt : Value → Option Int
  | .scalar (.int value) => if 1 ≤ value then some value else none
  | .scalar (.str text) => (runtime.parseInt text).filter (1 ≤ ·)
  | _ => none

def exactNonnegativeInt : Value → Option Int
  | .scalar (.int value) => if 0 ≤ value then some value else none
  | _ => none

def CaptureRuntime.parseTimestamp : Value → Option Int
  | .scalar (.str text) => if strip text = "" then none else runtime.fromIsoformat text
  | _ => none

structure KubernetesEventCapture where
  complete : Bool
  truncated : Bool
  reason : String := ""
  observedAt : Option Int := none
  maxAgeSeconds : Option Int := none
  coverage : Entries := []

/-- `value == text`. -/
def isText (text : String) : Value → Bool
  | .scalar (.str found) => found == text
  | _ => false

namespace KubernetesEventCapture

def fromSnapshotSummary (summary : Entries) : KubernetesEventCapture :=
  match getOrNone "kubernetes_event_capture" summary with
  | .dict capture =>
    match getOrNone "complete" capture, getOrNone "truncated" capture with
    | .scalar (.bool complete), .scalar (.bool truncated) =>
      let freshness := getMapping "freshness" capture
      { complete, truncated
        reason := runtime.normalizedText (getOrNone "reason" capture)
        observedAt := runtime.parseTimestamp (getOrNone "observed_at" freshness)
        maxAgeSeconds := runtime.positiveInt (getOrNone "max_age_seconds" freshness)
        coverage := getMapping "coverage" capture }
    | _, _ => { complete := false, truncated := false }
  | _ => { complete := false, truncated := false }

/-- The capture was of every namespace and page by page. -/
def global (capture : KubernetesEventCapture) : Bool :=
  isText "all_namespaces" (getOrNone "scope" capture.coverage) &&
    isText "continue" (getOrNone "pagination" capture.coverage)

def authoritative (capture : KubernetesEventCapture) : Bool :=
  capture.complete && !capture.truncated && capture.reason == "complete" &&
    capture.observedAt.isSome &&
    capture.maxAgeSeconds.any (0 < ·) && capture.global &&
      !truthy (getOrNone "gap" capture.coverage)

def isExplicitGap (capture : KubernetesEventCapture) : Bool :=
  let gap := runtime.normalizedText (getOrNone "gap" capture.coverage)
  !capture.complete && gap != "" && capture.reason == gap && capture.global

def isProvenRecovery (capture : KubernetesEventCapture) : Bool :=
  capture.authoritative && (runtime.positiveInt (getOrNone "page_count" capture.coverage)).isSome &&
    (exactNonnegativeInt (getOrNone "event_count" capture.coverage)).isSome &&
    runtime.normalizedText (getOrNone "resource_version" capture.coverage) != ""

end KubernetesEventCapture

end capture

section projection

inductive CaptureState where
  | gap
  | recovery
  deriving DecidableEq

structure CaptureObservation where
  clusterId : String
  observedAt : Int
  state : CaptureState
  deriving DecidableEq

structure TimelineWindow where
  fromMs : Int
  toMs : Int

inductive CoverageReason where
  | collectionGap
  | retentionBoundary
  | partialScope
  deriving DecidableEq

structure TimelineCoverage where
  scope : ClusterScope
  source : TimelineSource
  fromMs : Int
  toMs : Int
  reason : CoverageReason
  deriving DecidableEq

inductive CoverageError where
  | limitExceeded
  | validationError
  | notOrdered
  deriving DecidableEq

/-- `ge=0`, `gt=0` and `validate_bounds`. -/
def TimelineCoverage.check (coverage : TimelineCoverage) : Bool :=
  0 ≤ coverage.fromMs && 0 < coverage.toMs && coverage.fromMs < coverage.toMs

def TimelineSource.text : TimelineSource → String
  | .inventory => "inventory"
  | .incident => "incident"
  | .applicationWorkflow => "application_workflow"
  | .kubernetesEvent => "kubernetes_event"
  | .gitops => "gitops"

def CoverageReason.text : CoverageReason → String
  | .collectionGap => "collection_gap"
  | .retentionBoundary => "retention_boundary"
  | .partialScope => "partial_scope"

/-- The order of `_scope_key`. -/
def compareScope : ClusterScope → ClusterScope → Ordering :=
  compareLex (compareOn (·.workspaceId))
    (compareLex (compareOn (·.clusterId)) (compareOn (·.namespaces)))

/-- The order of `_coverage_sort_key`. -/
def compareCoverage : TimelineCoverage → TimelineCoverage → Ordering :=
  compareLex (compareOn (·.fromMs))
    (compareLex (compareOn (·.toMs)) (compareLex (compareOn (·.scope.workspaceId))
    (compareLex (compareOn (·.scope.clusterId)) (compareLex (compareOn (·.scope.namespaces))
      (compareLex (compareOn (·.source.text)) (compareOn (·.reason.text)))))))

def sortedCoverage (projected : List TimelineCoverage) : List TimelineCoverage :=
  projected.insertionSort fun one other => (compareCoverage one other).isLE = true

/-- The scopes of a cluster whose events the reader may see; none of them means that the cluster
is not a key of the dictionary. -/
def authorizedScopes (kubernetesEventClusterIds : List String) (scopes : List ClusterScope)
    (clusterId : String) : List ClusterScope :=
  (scopes.filter fun scope => scope.clusterId == clusterId &&
    kubernetesEventClusterIds.contains scope.clusterId).insertionSort
    fun one other => (compareScope one other).isLE = true

/-- What a projection is asked for. -/
structure CoverageRequest where
  kubernetesEventClusterIds : List String
  scopes : List ClusterScope
  window : TimelineWindow
  maxIntervals : Option Int

variable (runtime : CaptureRuntime) (request : CoverageRequest)

def CoverageRequest.scopesOf (clusterId : String) : List ClusterScope :=
  authorizedScopes request.kubernetesEventClusterIds request.scopes clusterId

def captureObservation (snapshot : Entries) : Option CaptureObservation :=
  if runtime.normalizedText (getOrNone "status" snapshot) = "ignored_stale" then none
  else
    let clusterId := runtime.normalizedText (getOrNone "cluster_id" snapshot)
    if (request.scopesOf clusterId).isEmpty then none
    else do
      let summary ← dict? (getOrNone "summary" snapshot)
      let sourceSummary ← dict? (getOrNone "summary" summary)
      let capture := KubernetesEventCapture.fromSnapshotSummary runtime sourceSummary
      let observedAt ← capture.observedAt
      if request.window.toMs ≤ runtime.milliseconds observedAt then none
      else if capture.isExplicitGap runtime then some ⟨clusterId, observedAt, .gap⟩
      else if capture.isProvenRecovery runtime then some ⟨clusterId, observedAt, .recovery⟩
      else none

def intersectsWindow (fromMs toMs : Int) (window : TimelineWindow) :
    Bool := fromMs < window.toMs && window.fromMs < toMs

/-- One turn of the loop of `_append_coverage_intervals`. -/
def pushCoverage (projected : List TimelineCoverage) (coverage : TimelineCoverage) :
    Except CoverageError (List TimelineCoverage) :=
  if request.maxIntervals.any fun (limit : Int) => limit ≤ projected.length then
    .error .limitExceeded
  else if coverage.check then .ok (projected ++ [coverage])
  else .error .validationError

def appendCoverageIntervals (projected : List TimelineCoverage) (scopes : List ClusterScope)
    (fromMs toMs : Int) : Except CoverageError (List TimelineCoverage) :=
  (scopes.map fun scope =>
    (⟨scope, .kubernetesEvent, fromMs, toMs, .collectionGap⟩ : TimelineCoverage)).foldlM
    (pushCoverage request) projected

/-- A gap that a recovery has closed. -/
def closeGap (projected : List TimelineCoverage) (clusterId : String) (openedAt observedAt : Int) :
    Except CoverageError (List TimelineCoverage) :=
  let fromMs := runtime.milliseconds openedAt
  let toMs := runtime.milliseconds observedAt
  if intersectsWindow fromMs toMs request.window then
    appendCoverageIntervals request projected (request.scopesOf clusterId) fromMs toMs
  else .ok projected

structure OrderedState where
  openedByCluster : String → Option Int
  lastObservedByCluster : String → Option Int
  projected : List TimelineCoverage

def orderedStep (state : OrderedState) (observation : CaptureObservation) :
    Except CoverageError OrderedState :=
  let cluster := observation.clusterId
  if (state.lastObservedByCluster cluster).any (observation.observedAt < ·) then .error .notOrdered
  else
    let state := { state with
      lastObservedByCluster := Function.update state.lastObservedByCluster cluster
        (some observation.observedAt) }
    match observation.state with
    | .gap => .ok { state with
        openedByCluster := Function.update state.openedByCluster cluster
          (some ((state.openedByCluster cluster).getD observation.observedAt)) }
    | .recovery =>
      match state.openedByCluster cluster with
      | none => .ok state
      | some openedAt =>
        if observation.observedAt ≤ openedAt then .ok state
        else do
          let projected ←
            closeGap runtime request state.projected cluster openedAt observation.observedAt
          return { state with
              projected, openedByCluster := Function.update state.openedByCluster cluster none }

def projectOrderedCaptureCoverage (observations : List CaptureObservation) :
    Except CoverageError (List TimelineCoverage) :=
  (observations.foldlM (orderedStep runtime request) ⟨fun _ => none, fun _ => none, []⟩).map
    fun state =>
    sortedCoverage state.projected

/-- `opened_at` and the coverage so far, for one cluster. -/
def bufferedStep (clusterId : String) (state : Option Int × List TimelineCoverage)
    (observation : CaptureObservation) :
    Except CoverageError (Option Int × List TimelineCoverage) :=
  match observation.state with
  | .gap => .ok (some (state.1.getD observation.observedAt), state.2)
  | .recovery =>
    match state.1 with
    | none => .ok state
    | some openedAt =>
      if observation.observedAt ≤ openedAt then .ok state
      else do
        let projected ← closeGap runtime request state.2 clusterId openedAt observation.observedAt
        return (none, projected)

/-- `observations_by_cluster`, in the order in which the clusters were first seen. -/
def observationsByCluster (observations : List CaptureObservation) :
    List (String × List CaptureObservation) :=
  ((Dict.ofPairs (observations.map fun observation => (observation.clusterId, ()))).map
    Prod.fst).map fun clusterId =>
    (clusterId, observations.filter fun observation => observation.clusterId == clusterId)

def bufferedCluster (projected : List TimelineCoverage) (group : String × List CaptureObservation) :
    Except CoverageError (List TimelineCoverage) :=
  ((group.2.insertionSort fun one other => one.observedAt ≤ other.observedAt).foldlM
    (bufferedStep runtime request group.1) (none, projected)).map Prod.snd

def projectBufferedCaptureCoverage (observations : List CaptureObservation) :
    Except CoverageError (List TimelineCoverage) :=
  ((observationsByCluster observations).foldlM (bufferedCluster runtime request)
    []).map sortedCoverage

def projectKubernetesEventCaptureCoverage (snapshots : List Entries) (snapshotsOrdered : Bool) :
    Except CoverageError (List TimelineCoverage) :=
  let observations := snapshots.filterMap (captureObservation runtime request)
  if snapshotsOrdered then projectOrderedCaptureCoverage runtime request observations
  else projectBufferedCaptureCoverage runtime request observations

end projection

end K8sOps.Timeline
