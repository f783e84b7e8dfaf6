import Mathlib.Data.List.Sort
import Mathlib.Data.String.Basic
import K8sOps.Inventory.CollectionLimits
import K8sOps.Python.Convert

/-! The snapshot of a cluster. Each query brings the raw lists of one namespace, some of
them marked as unavailable; the snapshot collects what they show, where it was looked for
and which collections are not to be trusted. -/
namespace K8sOps.Inventory
open Python

inductive Collection where
  | pods
  | nodes
  | workloads
  | workloadRevisions
  | services
  | ingresses
  | resourceQuotas
  | endpoints
  | events
  | customResources
  deriving DecidableEq

/-- The lists of the API that a namespace query asks for. -/
inductive RawList where
  | pods
  | events
  | nodes
  | deployments
  | statefulSets
  | daemonSets
  | replicaSets
  | controllerRevisions
  | jobs
  | cronJobs
  | services
  | endpointSlices
  | ingresses
  | resourceQuotas
  deriving DecidableEq

def RawList.key : RawList → String
  | .pods => "pods"
  | .events => "events"
  | .nodes => "nodes"
  | .deployments => "deployments"
  | .statefulSets => "statefulsets"
  | .daemonSets => "daemonsets"
  | .replicaSets => "replicasets"
  | .controllerRevisions => "controllerrevisions"
  | .jobs => "jobs"
  | .cronJobs => "cronjobs"
  | .services => "services"
  | .endpointSlices => "endpointslices"
  | .ingresses => "ingresses"
  | .resourceQuotas => "resourcequotas"

def Collection.sources : Collection → List RawList
  | .pods => [.pods]
  | .events => [.events]
  | .nodes => [.nodes]
  | .workloads => [.deployments, .statefulSets, .daemonSets, .replicaSets, .jobs, .cronJobs]
  | .workloadRevisions => [.replicaSets, .controllerRevisions]
  | .services => [.services]
  | .endpoints => [.endpointSlices]
  | .ingresses => [.ingresses]
  | .resourceQuotas => [.resourceQuotas]
  | .customResources => []

structure CollectionScope where
  «namespace» : String
  labelSelector : Option String

structure CollectionStatus where
  observed : Bool
  reasonCodes : List String

/-- What coverage reads of a snapshot; `limits` is the record of the lists that were cut. -/
structure KubernetesSnapshot where
  scopes : List CollectionScope
  statuses : List (Collection × CollectionStatus)
  lists : Collection → List Value
  limits : Collection → Option CollectionLimit

/-- A query of one namespace. -/
structure KubernetesSnapshotQuery where
  «namespace» : String
  labelSelector : Option String

/-- How objects are summarised and measured. -/
structure Summaries where
  /-- `str(value)`. -/
  toText : Value → String
  /-- What a collection shows of the items of the raw lists. -/
  summarize : Collection → (RawList → List Entries) → CollectionScope → List Value
  /-- The identity of a node: its uid, its name or nothing. -/
  nodeKey : Value → String
  namespaceGroupKey : Value → String
  /-- The length of the JSON text, of the payload and of one of its lists. -/
  payloadSize : (Collection → List Value) → Nat
  listSize : List Value → Nat

section statuses

def listCollectionStatusKey : String := "kyro_collection_status"
def collectionRbacDeniedReason : String := "collection_rbac_denied"
def collectionStatusReasonCodes : List String := [collectionRbacDeniedReason]

/-- `sorted(set(texts))`. -/
def sortedSet (texts : List String) : List String := (texts.insertionSort (· ≤ ·)).eraseDups

def isFalse : Value → Bool
  | .scalar (.bool value) => !value
  | _ => false

def nonemptyText : Value → Option String
  | .scalar (.str text) => if text = "" then none else some text
  | _ => none

def dynamicReasonCodes : Value → List String
  | .list codes => codes.filterMap nonemptyText
  | _ => []

def collectionStatusFromSource (source : Value) : Entries :=
  asMapping (getOrNone listCollectionStatusKey (asMapping source))

/-- What the sources of a collection say about it, if they say anything. -/
def collectionStatus (sources : List Value) : Option CollectionStatus :=
  let statuses := sources.map collectionStatusFromSource
  let observed := !statuses.any fun status => isFalse (getOrNone "observed" status)
  let reasonCodes :=
    sortedSet ((statuses.flatMap fun status =>
      dynamicReasonCodes (getOrNone "reason_codes" status)).filter
    (collectionStatusReasonCodes.contains ·))
  if !observed || !reasonCodes.isEmpty then some ⟨observed, reasonCodes⟩ else none

def judgedCollections : List Collection :=
  [.pods, .events, .nodes, .workloads, .workloadRevisions, .services, .endpoints, .ingresses,
    .resourceQuotas]

def rawList (payload : Entries) (list : RawList) : Value := getOrNone list.key payload

def collectionStatusesFromSources (payload : Entries) : List (Collection × CollectionStatus) :=
  judgedCollections.filterMap fun collection =>
    (collectionStatus (collection.sources.map (rawList payload))).map (collection, ·)

end statuses

section snapshots
variable (summaries : Summaries)

/-- The items of a list response. Whatever is no such response has none. -/
def items (payload : Value) : List Entries :=
  match getOrNone "items" (asMapping payload) with
  | .list rawItems => rawItems.filterMap dict?
  | _ => []

def resourceLabels (item : Entries) : Entries := getMapping "labels" (getMapping "metadata" item)

/-- `text.partition("=")`, if there is a separator. -/
def partitionEquals (text : String) : Option (String × String) :=
  match text.toList.span (· ≠ '=') with
  | (_, []) => none
  | (key, _ :: value) => some (String.ofList key, String.ofList value)

/-- The items with the label; a selector without a value selects nothing. -/
def scopedItems (payload : Value) (labelSelector : Option String) : List Entries :=
  match labelSelector with
  | none | some "" => items payload
  | some selector =>
    match partitionEquals selector with
    | none => []
    | some (key, value) =>
      (items payload).filter fun row =>
        (getOrNone key (resourceLabels row)).equal (.scalar (.str value))

def emptySnapshot : KubernetesSnapshot := ⟨[], [], fun _ => [], fun _ => none⟩

def targetNamespace : String := "target"

/-- `str(payload.get("namespace") or query.namespace or TARGET_NAMESPACE)`. -/
def queriedNamespace (payload : Entries) (query : KubernetesSnapshotQuery) : String :=
  let value := getOrNone "namespace" payload
  if truthy value then summaries.toText value
  else if query.namespace ≠ "" then query.namespace
  else targetNamespace

/-- The status of the query itself is not looked at. Nodes, events and endpoint slices are
read without the selector. -/
def normalizePayload (payload : Entries) (query : KubernetesSnapshotQuery) : KubernetesSnapshot :=
  let scope : CollectionScope := ⟨queriedNamespace summaries payload query, query.labelSelector⟩
  let rows (list : RawList) : List Entries :=
    match list with
    | .nodes | .events | .endpointSlices => items (rawList payload list)
    | _ => scopedItems (rawList payload list) query.labelSelector
  { scopes := [scope]
    statuses := collectionStatusesFromSources payload
    lists := fun collection => summaries.summarize collection rows scope
    limits := fun _ => none }

/-- The same nodes come with every namespace; the last one counts. -/
def mergeClusterScopedNodes (target source : List Value) : List Value :=
  let named := ((target ++ source).filter fun node => (dict? node).isSome &&
    summaries.nodeKey node ≠ "").map fun node =>
    (summaries.nodeKey node, node)
  (Dict.ofPairs named).map Prod.snd

def mergeSnapshot (target source : KubernetesSnapshot) : KubernetesSnapshot where
  scopes := target.scopes ++ source.scopes
  statuses := source.statuses.foldl (fun statuses entry =>
    Dict.assign entry.1 entry.2 statuses) target.statuses
  lists
    | .nodes => mergeClusterScopedNodes summaries (target.lists .nodes) (source.lists .nodes)
    | collection => target.lists collection ++ source.lists collection
  limits := target.limits

/-- The lists that are limited, with how many items they may have. -/
def kubernetesListLimits : List (Collection × Nat) :=
  [(.pods, 500), (.events, 200), (.nodes, 100), (.workloads, 500), (.workloadRevisions, 500),
    (.services, 300), (.endpoints, 300), (.ingresses, 300), (.resourceQuotas, 200),
    (.customResources, 1000)]

/-- All but the nodes are cut namespace by namespace. -/
def listGroupKey : Collection → Option (Value → String)
  | .nodes => none
  | _ => some summaries.namespaceGroupKey

def maxProviderPayloadBytes : Nat := 1048576 - 65536

/-- Records of earlier limits are kept for the lists that are not cut again. -/
def limitKubernetesSnapshot (snapshot : KubernetesSnapshot) : KubernetesSnapshot :=
  let listed := kubernetesListLimits.foldl (fun payload entry =>
    limitPayloadList entry.1 entry.2 (listGroupKey summaries entry.1) payload) ⟨snapshot.lists,
      fun _ => none⟩
  let sized := limitPayloadSize summaries.payloadSize summaries.listSize maxProviderPayloadBytes
    (kubernetesListLimits.map Prod.fst) (listGroupKey summaries) listed
  { snapshot with
    lists := sized.lists
    limits := fun collection => (sized.limits collection).or (snapshot.limits collection) }

/-- What a query brings when the API is not configured. -/
def unavailablePayload («namespace» clusterId : String) : Entries :=
  [(.str "status", .scalar (.str "unavailable")),
    (.str "reason", .scalar (.str "kubernetes api is not configured")),
    (.str "namespace", .scalar (.str «namespace»)), (.str "cluster_id", .scalar (.str clusterId))]

/-- A query with the payload that it brought. -/
structure Reading where
  payload : Entries
  query : KubernetesSnapshotQuery

def collectSnapshot (readings : List Reading) : KubernetesSnapshot :=
  readings.foldl (fun results reading =>
    mergeSnapshot summaries results (normalizePayload summaries reading.payload reading.query))
    emptySnapshot

end snapshots

end K8sOps.Inventory
