import K8sOps.Inventory.Coverage

/-! Deletion is inferred where everything was looked at. A scope in which absence proves
deletion goes back to a query of its namespace that brought all the lists, provided that
each query brought the lists at all: a query that failed as a whole leaves no trace. -/
namespace K8sOps.Inventory
open Python
variable {summaries : Summaries}

section readings

def Reading.namespace (summaries : Summaries) (reading : Reading) : String :=
  queriedNamespace summaries reading.payload reading.query

def Reading.normalized (summaries : Summaries) (reading : Reading) : KubernetesSnapshot :=
  normalizePayload summaries reading.payload reading.query

/-- A list of the API, whatever it is marked with. -/
def IsList (raw : Value) : Prop :=
  ∃ entries items, raw = .dict entries ∧ getOrNone "items" entries = .list items

/-- A list that the API returned. -/
def Returned (raw : Value) : Prop :=
  IsList raw ∧ isFalse (getOrNone "observed" (collectionStatusFromSource raw)) = false

def Unselected (query : KubernetesSnapshotQuery) :
    Prop := query.labelSelector = none ∨ query.labelSelector = some ""

/-- A successful query, whose namespace and selector are not padded with blanks. -/
structure Successful (summaries : Summaries) (reading : Reading) : Prop where
  lists : ∀ list, IsList (rawList reading.payload list)
  selector : ∀ selector, reading.query.labelSelector = some selector → strip selector = "" →
    selector = ""
  «namespace» : strip (reading.namespace summaries) = reading.namespace summaries

/-- What a deletion scope of a namespace needs: a query without a selector that brought all
lists of the collection, no query that tells otherwise, and a list that was not cut. -/
structure Proven (summaries : Summaries) (readings : List Reading) (collection : Collection)
    («namespace» : String) : Prop where
  queried : ∃ reading ∈ readings, reading.namespace summaries = «namespace» ∧
    Unselected reading.query ∧ ∀ list ∈ collection.sources, Returned (rawList reading.payload list)
  unreported : ∀ reading ∈ readings, (reading.normalized summaries).statuses.lookup collection =
    none
  uncut : (limitKubernetesSnapshot summaries (collectSnapshot summaries readings)).lists
    collection = (collectSnapshot summaries readings).lists collection

end readings

section statuses
variable {sources : List Value} {status : CollectionStatus}

theorem mem_sortedSet {texts : List String} {text : String} :
    text ∈ sortedSet texts ↔ text ∈ texts := by
  rw [sortedSet, List.mem_eraseDups, (List.perm_insertionSort _ _).mem_iff]

/-- A status says something: the collection was not observed, or why it may be incomplete. -/
def CollectionStatus.Telling (status : CollectionStatus) : Prop :=
  status.observed = false ∨ ∃ reason ∈ status.reasonCodes, strip reason ≠ ""

theorem collectionStatus_telling (found : collectionStatus sources = some status) :
    status.Telling := by
  rw [collectionStatus, Option.ite_none_right_eq_some] at found
  obtain ⟨telling, isStatus⟩ := found
  cases isStatus
  rw [Bool.or_eq_true, Bool.not_eq_true', Bool.not_eq_true'] at telling
  refine telling.imp id fun given => ?_
  obtain ⟨reason, member⟩ := List.exists_mem_of_ne_nil _ (List.isEmpty_eq_false_iff.mp given)
  refine ⟨reason, member, ?_⟩
  have known := (List.mem_filter.mp (mem_sortedSet.mp member)).2
  cases List.mem_singleton.mp (List.contains_iff_mem.mp known)
  decide +kernel

theorem collectionStatus_none (silent : collectionStatus sources = none) {source : Value}
    (member : source ∈ sources) :
    isFalse (getOrNone "observed" (collectionStatusFromSource source)) = false := by
  rw [collectionStatus, ite_eq_right_iff] at silent
  have quiet : ¬(sources.map collectionStatusFromSource).any (fun status =>
      isFalse (getOrNone "observed" status)) = true := by
    intro marked
    cases silent (by rw [marked]; rfl)
  rw [List.any_eq_true] at quiet
  rw [← Bool.not_eq_true]
  intro marked
  exact quiet ⟨_, List.mem_map.mpr ⟨source, member, rfl⟩, marked⟩

theorem lookup_eq_none {entries : List (Collection × CollectionStatus)} {collection : Collection} :
    entries.lookup collection = none ↔ collection ∉ entries.map Prod.fst := by
  rw [List.lookup_eq_none_iff, List.mem_map]
  constructor
  · rintro absent ⟨entry, member, rfl⟩
    have := absent entry member
    simp at this
  · intro absent entry member
    rw [bne_iff_ne]
    rintro rfl
    exact absent ⟨entry, member, rfl⟩

theorem mem_of_lookup {entries : List (Collection × CollectionStatus)} {collection : Collection}
    (found : entries.lookup collection = some status) : (collection, status) ∈ entries := by
  induction entries with
  | nil => cases found
  | cons entry entries ih =>
    rw [List.lookup_cons] at found
    split at found
    next same =>
      cases found
      rw [beq_iff_eq.mp same]
      exact List.mem_cons_self
    next => exact List.mem_cons_of_mem _ (ih found)

theorem mem_merged_keys {target : List (Collection × CollectionStatus)}
    (source : List (Collection × CollectionStatus)) {collection : Collection} :
    collection ∈ (source.foldl (fun statuses entry => Dict.assign entry.1 entry.2 statuses)
      target).map Prod.fst ↔
      collection ∈ source.map Prod.fst ∨ collection ∈ target.map Prod.fst := by
  induction source generalizing target with
  | nil => simp
  | cons entry source ih =>
    rw [List.foldl_cons, ih, Dict.mem_assign, List.map_cons, List.mem_cons]
    tauto

theorem mem_merged {target source : List (Collection × CollectionStatus)}
    {entry : Collection × CollectionStatus}
    (member : entry ∈ source.foldl (fun statuses entry =>
      Dict.assign entry.1 entry.2 statuses) target) :
    entry ∈ source ∨ entry ∈ target := by
  induction source generalizing target with
  | nil => exact .inr member
  | cons first source ih =>
    rcases ih member with later | assigned
    · exact .inl (List.mem_cons_of_mem _ later)
    · rcases Dict.mem_of_mem_assign assigned with rfl | before
      · exact .inl List.mem_cons_self
      · exact .inr before

end statuses

section collected
variable {readings : List Reading} {collection : Collection}

/-- What the snapshot has of each reading. -/
structure Collected (summaries : Summaries) (readings : List Reading)
    (snapshot : KubernetesSnapshot) : Prop where
  scopes : ∀ scope ∈ snapshot.scopes, ∃ reading ∈ readings,
    scope = ⟨reading.namespace summaries, reading.query.labelSelector⟩
  telling : ∀ entry ∈ snapshot.statuses, entry.2.Telling
  statuses : ∀ reading ∈ readings, ∀ collection ∈
    (reading.normalized summaries).statuses.map Prod.fst,
    collection ∈ snapshot.statuses.map Prod.fst
  limits : ∀ collection, snapshot.limits collection = none

theorem normalized_telling (reading : Reading) :
    ∀ entry ∈ (reading.normalized summaries).statuses, entry.2.Telling := by
  intro entry member
  obtain ⟨collection, _, found⟩ := List.mem_filterMap.mp member
  obtain ⟨status, isStatus, rfl⟩ := Option.map_eq_some_iff.mp found
  exact collectionStatus_telling isStatus

theorem Collected.merge {snapshot : KubernetesSnapshot}
    (collected : Collected summaries readings snapshot) (reading : Reading) :
    Collected summaries (readings ++ [reading])
      (mergeSnapshot summaries snapshot (reading.normalized summaries)) where
  scopes scope member := by
    rcases List.mem_append.mp member with before | new
    · obtain ⟨earlier, isEarlier, same⟩ := collected.scopes scope before
      exact ⟨earlier, List.mem_append_left _ isEarlier, same⟩
    · exact ⟨reading, List.mem_append_right _ (List.mem_singleton_self _),
        List.mem_singleton.mp new⟩
  telling entry member := by
    rcases mem_merged member with new | before
    · exact normalized_telling reading entry new
    · exact collected.telling entry before
  statuses other member collection reported := by
    refine (mem_merged_keys (reading.normalized summaries).statuses).mpr ?_
    rcases List.mem_append.mp member with before | new
    · exact .inr (collected.statuses other before collection reported)
    · cases List.mem_singleton.mp new
      exact .inl reported
  limits := collected.limits

theorem collectSnapshot_collected (summaries : Summaries) (readings : List Reading) :
    Collected summaries readings (collectSnapshot summaries readings) := by
  induction readings using List.reverseRecOn with
  | nil =>
    constructor
    · intro scope member
      cases member
    · intro entry member
      cases member
    · intro reading member
      cases member
    · intro collection
      rfl
  | append_singleton readings reading ih =>
    rw [collectSnapshot, List.foldl_concat]
    exact ih.merge reading

theorem limitKubernetesSnapshot_uncut {snapshot : KubernetesSnapshot}
    (unrecorded : (limitKubernetesSnapshot summaries snapshot).limits collection = none) :
    (limitKubernetesSnapshot summaries snapshot).lists collection = snapshot.lists collection := by
  have listed (entries : List (Collection × Nat)) (payload : LimitedLists Collection Value) :
      Recorded payload (entries.foldl (fun payload entry =>
        limitPayloadList entry.1 entry.2 (listGroupKey summaries entry.1) payload) payload) := by
    induction entries generalizing payload with
    | nil => exact .refl payload
    | cons entry entries ih =>
      exact Recorded.trans (limitPayloadList_recorded payload entry.1 entry.2 _) (ih _)
  have recorded := Recorded.trans (listed kubernetesListLimits ⟨snapshot.lists, fun _ => none⟩)
    (limitPayloadSize_recorded summaries.payloadSize summaries.listSize maxProviderPayloadBytes
      (kubernetesListLimits.map Prod.fst) (listGroupKey summaries) _)
  exact (recorded collection (Option.or_eq_none_iff.mp unrecorded).1).2

end collected

section scopes
variable {readings : List Reading} {collection : Collection} {snapshot : KubernetesSnapshot}

theorem mem_inventoryDeletionScopes {summary : SourceSummary} {scope : InventoryDeleteScope}
    (member : scope ∈ inventoryDeletionScopes summary) :
    ∃ entry ∈ summary.collectionCoverage, scope ∈ entryDeletionScopes entry := by
  rw [inventoryDeletionScopes] at member
  split at member
  next =>
    rw [(List.perm_insertionSort _ _).mem_iff, List.mem_eraseDups] at member
    exact List.mem_flatMap.mp member
  next => cases member

/-- A deletion scope with a namespace comes from a complete entry for that namespace. -/
theorem mem_entryDeletionScopes {entry : CoverageEntry} {resourceType name : String}
    (member : (⟨resourceType, some name⟩ : InventoryDeleteScope) ∈ entryDeletionScopes entry) :
    entry.scope = .namespace ∧ scopeText entry.namespace = name ∧ entry.complete = true ∧
      resourceType ∈ resourceTypesByCollection entry.collection := by
  rw [entryDeletionScopes] at member
  split at member
  next => cases member
  next safe =>
    have complete : entry.complete = true := by
      simp only [Bool.or_eq_true, Bool.not_eq_true', not_or, Bool.not_eq_false,
        deleteAuthoritativeEntry, Bool.and_eq_true] at safe
      exact safe.2.1.1.1.1.1
    dsimp only at member
    split at member
    next namespaced =>
      obtain ⟨type, isType, same⟩ := List.mem_map.mp member
      cases same
      simp only [Bool.and_eq_true, decide_eq_true_eq] at namespaced
      exact ⟨namespaced.1.2, rfl, complete, isType⟩
    next =>
      split at member
      next =>
        obtain ⟨type, _, same⟩ := List.mem_map.mp member
        cases same
      next => cases member

theorem mem_coverage {entry : CoverageEntry}
    (member : entry ∈ kubernetesCollectionCoverage snapshot)
    (namespaced : entry.scope = .namespace) :
    ∃ scope ∈ snapshot.scopes, entry.collection ∈ namespacedCollections ∧
      entry = snapshotEntry snapshot entry.collection .namespace (some (strip scope.namespace))
        (scopeText scope.labelSelector) := by
  rw [kubernetesCollectionCoverage] at member
  split at member
  next => cases member
  next =>
    rcases List.mem_append.mp member with inNamespace | inCluster
    · obtain ⟨scope, isScope, found⟩ := List.mem_flatMap.mp inNamespace
      obtain ⟨collection, isCollection, rfl⟩ := List.mem_map.mp found
      exact ⟨scope, isScope, isCollection, rfl⟩
    · obtain ⟨collection, _, rfl⟩ := List.mem_map.mp inCluster
      cases namespaced

theorem snapshotEntry_complete {scope : ScopeKind} {name : Option String} {labelSelector : String}
    (complete : (snapshotEntry snapshot collection scope name labelSelector).complete = true) :
    collectionObserved (snapshot.statuses.lookup collection) = true ∧
      reasonTexts (((snapshot.statuses.lookup collection).map (·.reasonCodes)).getD []) = [] ∧
      labelSelector = "" ∧ snapshot.limits collection = none := by
  simp only [snapshotEntry, coverageEntry, List.isEmpty_iff, List.append_eq_nil_iff] at complete
  obtain ⟨⟨⟨⟨reasons, observed⟩, _⟩, selector⟩, truncated⟩ := complete
  refine ⟨?_, reasons, ?_, ?_⟩
  · by_contra unobserved
    rw [if_neg unobserved] at observed
    cases observed
  · by_contra selected
    rw [if_neg selected] at selector
    cases selector
  · by_contra cut
    rw [if_pos (Option.isSome_iff_ne_none.mpr cut)] at truncated
    cases truncated

theorem status_absent (telling : ∀ entry ∈ snapshot.statuses, entry.2.Telling)
    (observed : collectionObserved (snapshot.statuses.lookup collection) = true)
    (reasons : reasonTexts (((snapshot.statuses.lookup collection).map (·.reasonCodes)).getD []) =
      []) :
    snapshot.statuses.lookup collection = none := by
  cases found : snapshot.statuses.lookup collection with
  | none => rfl
  | some status =>
    rw [found] at observed reasons
    rcases telling _ (mem_of_lookup found) with unobserved | ⟨reason, member, nonblank⟩
    · cases unobserved.symm.trans observed
    · have listed : strip reason ∈ reasonTexts status.reasonCodes :=
        List.mem_filter.mpr ⟨List.mem_map.mpr ⟨reason, member, rfl⟩, decide_eq_true nonblank⟩
      rw [show reasonTexts status.reasonCodes = [] from reasons] at listed
      cases listed

theorem judged_of_namespaced (namespaced : collection ∈ namespacedCollections) :
    collection ∈ judgedCollections := by
  revert namespaced
  cases collection <;> decide

theorem returned_of_unreported {reading : Reading} (successful : Successful summaries reading)
    (judged : collection ∈ judgedCollections)
    (unreported : collection ∉ (reading.normalized summaries).statuses.map Prod.fst) :
    ∀ list ∈ collection.sources, Returned (rawList reading.payload list) := by
  intro list member
  refine ⟨successful.lists list, ?_⟩
  have silent : collectionStatus (collection.sources.map (rawList reading.payload)) = none := by
    by_contra told
    obtain ⟨status, isStatus⟩ := Option.ne_none_iff_exists'.mp told
    refine unreported (List.mem_map.mpr ⟨(collection, status),
      List.mem_filterMap.mpr ⟨collection, judged, ?_⟩, rfl⟩)
    rw [isStatus]
    rfl
  exact collectionStatus_none silent (List.mem_map.mpr ⟨list, member, rfl⟩)

/-- Over any sequence of successful queries. -/
theorem deletion_scopes_proven (readings : List Reading)
    (successful : ∀ reading ∈ readings, Successful summaries reading) {resourceType name : String}
    (inferred : (⟨resourceType, some name⟩ : InventoryDeleteScope) ∈ inventoryDeletionScopes ⟨true,
      kubernetesCollectionCoverage
      (limitKubernetesSnapshot summaries (collectSnapshot summaries readings))⟩) :
    ∃ collection, resourceType ∈ resourceTypesByCollection collection ∧
      Proven summaries readings collection name := by
  obtain ⟨entry, isEntry, isScope⟩ := mem_inventoryDeletionScopes inferred
  obtain ⟨namespaced, isName, complete, isType⟩ := mem_entryDeletionScopes isScope
  obtain ⟨scope, isThere, isCollection, same⟩ := mem_coverage isEntry namespaced
  rw [same] at complete isName
  obtain ⟨observed, reasons, selector, unrecorded⟩ := snapshotEntry_complete complete
  have collected := collectSnapshot_collected summaries readings
  have absent := lookup_eq_none.mp (status_absent collected.telling observed reasons)
  have unreported {reading : Reading} (member : reading ∈ readings) :
      entry.collection ∉ (reading.normalized summaries).statuses.map Prod.fst :=
    fun reported => absent (collected.statuses reading member _ reported)
  obtain ⟨reading, member, isReading⟩ := collected.scopes scope isThere
  have ready := successful reading member
  subst isReading
  refine ⟨entry.collection, isType, ?_,
    fun other isOther => lookup_eq_none.mpr (unreported isOther),
    limitKubernetesSnapshot_uncut unrecorded⟩
  refine ⟨reading, member, ?_, ?_,
    returned_of_unreported ready (judged_of_namespaced isCollection) (unreported member)⟩
  · change strip (strip (reading.namespace summaries)) = name at isName
    rw [ready.namespace, ready.namespace] at isName
    exact isName
  · cases chosen : reading.query.labelSelector with
    | none => exact .inl chosen
    | some text =>
      change scopeText reading.query.labelSelector = "" at selector
      rw [chosen] at selector
      exact .inr (by rw [chosen, ready.selector text chosen selector])

end scopes

section sample

theorem limitKubernetesSnapshot_small {snapshot : KubernetesSnapshot}
    (short : ∀ entry ∈ kubernetesListLimits, (snapshot.lists entry.1).length ≤ entry.2)
    (small : summaries.payloadSize snapshot.lists ≤ maxProviderPayloadBytes) :
    limitKubernetesSnapshot summaries snapshot = snapshot := by
  have listed (entries : List (Collection × Nat))
    (within : ∀ entry ∈ entries, (snapshot.lists entry.1).length ≤ entry.2) :
      entries.foldl (fun payload entry =>
        limitPayloadList entry.1 entry.2 (listGroupKey summaries entry.1) payload)
        ⟨snapshot.lists, fun _ => none⟩ = ⟨snapshot.lists, fun _ => none⟩ := by
    induction entries with
    | nil => rfl
    | cons entry entries ih =>
      rw [List.foldl_cons, limitPayloadList, if_pos (within entry List.mem_cons_self)]
      exact ih fun other member => within other (List.mem_cons_of_mem _ member)
  rw [limitKubernetesSnapshot, listed kubernetesListLimits short, limitPayloadSize.eq_def,
    if_pos small]
  rfl

def sampleSummaries : Summaries where
  toText
    | .scalar (.str text) => text
    | _ => "?"
  summarize collection rows _ := (collection.sources.flatMap rows).map .dict
  nodeKey _ := ""
  namespaceGroupKey _ := ""
  payloadSize _ := 0
  listSize := List.length

/-- A query of a namespace with an object in each list. -/
def sampleReading (name : String) (labelSelector : Option String) : Reading where
  payload := [(.str "status", .scalar (.str "success")), (.str "namespace", .scalar (.str name))] ++
    [RawList.pods, .events, .nodes, .deployments, .statefulSets, .daemonSets, .replicaSets,
      .controllerRevisions, .jobs, .cronJobs, .services, .endpointSlices, .ingresses,
      .resourceQuotas].map fun list =>
        (.str list.key,
          .dict [(.str "items", .list [.dict [(.str "namespace", .scalar (.str name))]])])
  query := ⟨name, labelSelector⟩

/-- The pods of one namespace, and a selection of those of another. -/
def sampleReadings : List Reading :=
  [sampleReading "prod" none, sampleReading "stage" (some "app=web")]

/-- The query of a namespace when the API is not configured. -/
def failedReading : Reading where
  payload := unavailablePayload "prod" "cluster-1"
  query := ⟨"prod", none⟩

theorem deletion_scopes_proven_sample :
    (⟨"pod", some "prod"⟩ : InventoryDeleteScope) ∈
      inventoryDeletionScopes ⟨true, kubernetesCollectionCoverage
      (limitKubernetesSnapshot sampleSummaries (collectSnapshot sampleSummaries sampleReadings))⟩ ∧
    ∃ collection, "pod" ∈ resourceTypesByCollection collection ∧
      Proven sampleSummaries sampleReadings collection "prod" := by
  have inferred : (⟨"pod", some "prod"⟩ : InventoryDeleteScope) ∈ inventoryDeletionScopes ⟨true,
      kubernetesCollectionCoverage (limitKubernetesSnapshot sampleSummaries
        (collectSnapshot sampleSummaries sampleReadings))⟩ := by
    rw [limitKubernetesSnapshot_small (by decide +kernel) (Nat.zero_le _)]
    decide +kernel
  refine ⟨inferred, deletion_scopes_proven sampleReadings (fun reading member => ?_) inferred⟩
  obtain rfl | rfl : reading = sampleReading "prod" none ∨
      reading = sampleReading "stage" (some "app=web") := by
    simpa [sampleReadings] using member
  · refine ⟨fun list => by cases list <;> exact ⟨_, _, rfl, rfl⟩,
      fun selector isSelector => ?_, by decide +kernel⟩
    cases isSelector
  · refine ⟨fun list => by cases list <;> exact ⟨_, _, rfl, rfl⟩,
      fun selector isSelector => ?_, by decide +kernel⟩
    cases isSelector
    decide +kernel

/-- No list was asked for, and yet every pod of the namespace counts as deleted. -/
theorem failed_query_deletes :
    (⟨"pod", some "prod"⟩ : InventoryDeleteScope) ∈
      inventoryDeletionScopes ⟨true, kubernetesCollectionCoverage
      (limitKubernetesSnapshot sampleSummaries (collectSnapshot sampleSummaries [failedReading]))⟩ ∧
    ∀ list, ¬Returned (rawList failedReading.payload list) := by
  constructor
  · rw [limitKubernetesSnapshot_small (by decide +kernel) (Nat.zero_le _)]
    decide +kernel
  · rintro list ⟨⟨entries, items, isList, _⟩, _⟩
    cases list <;> cases isList

end sample

end K8sOps.Inventory
