import K8sOps.Inventory.Snapshot

/-! What a snapshot proves about a collection, and where the absence of an object proves
that it was deleted. -/
namespace K8sOps.Inventory
open Python

inductive ScopeKind where
  | namespace
  | cluster
  deriving DecidableEq

/-- What is claimed about one collection in one scope. -/
structure CoverageEntry where
  collection : Collection
  resourceTypes : List String
  scope : ScopeKind
  «namespace» : Option String
  labelSelector : Option String
  observed : Bool
  complete : Bool
  deleteSafe : Bool
  truncated : Bool
  reasonCodes : List String

def resourceTypesByCollection : Collection → List String
  | .pods => ["pod"]
  | .nodes => ["node"]
  | .workloads => ["workload"]
  | .workloadRevisions => ["workload_revision"]
  | .services => ["service"]
  | .ingresses => ["ingress"]
  | .resourceQuotas => ["resourcequota"]
  | .endpoints => ["endpoint"]
  | .events => ["event"]
  | .customResources => ["custom_resource"]

def namespacedCollections : List Collection :=
  [.pods, .workloads, .workloadRevisions, .services, .ingresses, .resourceQuotas,
    .endpoints, .events]

def clusterCollections : List Collection := [.nodes]

def deleteSafeCollections : List Collection :=
  [.pods, .nodes, .workloads, .workloadRevisions, .services, .ingresses, .resourceQuotas,
    .endpoints]

section coverage

/-- `_text`: nothing is the empty text. -/
def scopeText (value : Option String) : String := (value.map strip).getD ""

def orNone (text : String) : Option String := if text = "" then none else some text

/-- `_reason_codes`: blank ones do not count. -/
def reasonTexts (codes : List String) : List String := (codes.map strip).filter (· ≠ "")

def coverageEntry (collection : Collection) (scope : ScopeKind) («namespace» : Option String)
    (labelSelector : String) (observed truncated : Bool)
    (reasonCodes : List String) : CoverageEntry :=
  let coverageReasons := reasonCodes ++ (if observed then [] else ["collection_not_observed"]) ++
    (if scope = .namespace ∧ namespace.getD "" = "" then ["namespace_scope_unavailable"] else []) ++
    (if labelSelector = "" then [] else ["label_selector_scope"]) ++
    (if truncated then ["collection_truncated"] else [])
  let deleteReasons := coverageReasons ++
    (if deleteSafeCollections.contains collection then []
  else ["collection_not_delete_authoritative"])
  { collection
    resourceTypes := resourceTypesByCollection collection
    scope
    «namespace»
    labelSelector := orNone labelSelector
    observed
    complete := coverageReasons.isEmpty
    deleteSafe := deleteReasons.isEmpty
    truncated
    reasonCodes := sortedSet deleteReasons }

/-- A snapshot always has the list; only a status can say that it was not observed. -/
def collectionObserved (status : Option CollectionStatus) : Bool := status.all (·.observed)

def snapshotEntry (snapshot : KubernetesSnapshot) (collection : Collection) (scope : ScopeKind)
    («namespace» : Option String) (labelSelector : String) : CoverageEntry :=
  let status := snapshot.statuses.lookup collection
  coverageEntry collection scope «namespace» labelSelector (collectionObserved status)
    (snapshot.limits collection).isSome (reasonTexts ((status.map (·.reasonCodes)).getD []))

def kubernetesCollectionCoverage (snapshot : KubernetesSnapshot) : List CoverageEntry :=
  if snapshot.scopes.isEmpty then []
  else
    (snapshot.scopes.flatMap fun scope => namespacedCollections.map fun collection =>
      snapshotEntry snapshot collection .namespace (some (strip scope.namespace))
        (scopeText scope.labelSelector)) ++
    clusterCollections.map fun collection => snapshotEntry snapshot collection .cluster none ""

end coverage

section deletion

structure InventoryDeleteScope where
  resourceType : String
  «namespace» : Option String
  deriving DecidableEq

structure SourceSummary where
  liveInventory : Bool
  collectionCoverage : List CoverageEntry

def deleteAuthoritativeEntry (entry : CoverageEntry) : Bool :=
  entry.complete && entry.deleteSafe && entry.observed && !entry.truncated &&
    scopeText entry.labelSelector = "" && (reasonTexts entry.reasonCodes).isEmpty

def entryDeletionScopes (entry : CoverageEntry) : List InventoryDeleteScope :=
  if !deleteSafeCollections.contains entry.collection ||
    (resourceTypesByCollection entry.collection).isEmpty ||
      !deleteAuthoritativeEntry entry then []
  else
    let «namespace» := scopeText entry.namespace
    if namespacedCollections.contains entry.collection && entry.scope = .namespace &&
        «namespace» ≠ "" then
      (resourceTypesByCollection entry.collection).map (⟨·, some «namespace»⟩)
    else if clusterCollections.contains entry.collection && entry.scope = .cluster then
      (resourceTypesByCollection entry.collection).map (⟨·, none⟩)
    else []

def InventoryDeleteScope.isBefore (one two : InventoryDeleteScope) : Bool :=
  one.resourceType < two.resourceType || one.resourceType = two.resourceType &&
    one.namespace.getD "" ≤ two.namespace.getD ""

/-- The scopes in which the absence of an object proves its deletion. -/
def inventoryDeletionScopes (summary : SourceSummary) : List InventoryDeleteScope :=
  if summary.liveInventory then
    (summary.collectionCoverage.flatMap entryDeletionScopes).eraseDups.insertionSort fun one two =>
      one.isBefore two
  else []

end deletion

end K8sOps.Inventory
