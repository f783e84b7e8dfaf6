import K8sOps.Keyed
import K8sOps.Python.Convert
import K8sOps.Target.EvidenceJobs

/-! The evidence of a window put together from the results of its jobs. Each provider has one bucket
of the payload and one record of the collection status. -/
namespace K8sOps.Target
open Python

section normalization

/-- `TypeError`: a list or an object has no hash. -/
inductive HashError where
  | unhashable
  deriving DecidableEq

def collectionStates : List String := ["completed", "partial", "unavailable", "not_queried"]

/-- `state in COLLECTION_STATES`, for a state from outside. -/
def isCollectionState : Value → Except HashError Bool
  | .scalar (.str state) => .ok (collectionStates.contains state)
  | .scalar _ => .ok false
  | .list _ | .dict _ => .error .unhashable

def maxCollectionReasonCodes : Nat := 8

/-- `text[:MAX_COLLECTION_REASON_CODE_LENGTH]`. -/
def cutReason (text : String) : String := String.ofList (text.toList.take 120)

def reasonCode : Value → Option Value
  | .scalar (.str reason) => if reason = "" then none else some (.scalar (.str (cutReason reason)))
  | _ => none

def collectionCountFields : List String :=
  ["query_count", "completed_query_count", "failed_query_count"]

/-- What is kept of a field of a status. The state has been checked before. -/
def boundedField (field : String) (value : Value) : Option Value :=
  if field = "status" then some value
  else if field = "source" then reasonCode value
  else if field = "reason_codes" then
    (list? value).map fun reasons =>
      .list ((reasons.take maxCollectionReasonCodes).filterMap reasonCode)
  else match value with
    | .scalar (.int count) => if 0 ≤ count then some value else none
    | _ => none

/-- The fields in the order in which they are assigned. -/
def statusFields : List String :=
  "status" :: "source" :: (collectionCountFields ++ ["reason_codes"])

def boundedStatus (raw : Entries) : Entries :=
  statusFields.filterMap fun field => (boundedField field (getOrNone field raw)).map fun value =>
    (.str field, value)

/-- The status that a result reports for a provider, as it came. -/
def rawStatus (providerKey : String) (result : Entries) : Option Entries := do
  let collectionStatus ← dict? (getOrNone "collection_status" result)
  let providers ← dict? (getOrNone "providers" collectionStatus)
  dict? (getOrNone providerKey providers)

def normalizedProviderCollectionStatus (providerKey : String) (result : Entries) :
    Except HashError Entries :=
  match rawStatus providerKey result with
  | none => .ok []
  | some raw => do
    if ← isCollectionState (getOrNone "status" raw) then .ok (boundedStatus raw) else .ok []

/-- An older agent sends the bucket itself. -/
def providerBucket (providerKey : String) (result : Entries) :
    Value := (getKey providerKey result).getD (.dict result)

def normalizeEvidenceProviderResult (providerKey : String) (result : Entries) :
    Except HashError Entries := do
  let normalized : Entries := [(.str providerKey, providerBucket providerKey result)]
  let providerStatus ← normalizedProviderCollectionStatus providerKey result
  if providerStatus.isEmpty then .ok normalized
  else
    .ok (normalized.assign (.str "collection_status")
      (.dict [(.str "providers", .dict [(.str providerKey, .dict providerStatus)])]))

end normalization

section merge

/-- `entries.update(others)`. -/
def updateEntries (entries others : Entries) : Entries :=
  others.foldl (fun entries entry => entries.assign entry.1 entry.2) entries

def withoutKey (key : String) (entries : Entries) : Entries :=
  entries.filter fun entry => !entry.1.same (.str key)

def mergeEvidenceProviderPayload (payload providerPayload : Entries) : Entries :=
  let providerPayload := withoutKey "collection_status" providerPayload
  match dict? (getOrNone "metadata" providerPayload) with
  | some providerMetadata =>
    let merged := updateEntries (asMapping (getOrNone "metadata" payload)) providerMetadata
    updateEntries (payload.assign (.str "metadata") (.dict merged))
      (withoutKey "metadata" providerPayload)
  | none => updateEntries payload providerPayload

def emptyProviderPayload (providerKey : String) :
    Value := if providerKey = "logs" then .list [] else .dict []

end merge

section status

/-- `value in (None, "", [], {})`. -/
def isEmptyValue : Value → Bool
  | .scalar .none | .scalar (.str "") | .list [] | .dict [] => true
  | _ => false

def filledDict (value : Value) : Bool := (dict? value).any fun entries => !entries.isEmpty

def queriedResults (source : String) (bucket : Entries) : Option Bool :=
  let isSource := match getOrNone "source" bucket with
    | .scalar (.str found) => found == source
    | _ => false
  if isSource || (getKey "results" bucket).isSome then
    some (filledDict (getOrNone "results" bucket)) else none

def hasContent (bucket : Entries) : Bool :=
  bucket.any fun entry => !entry.1.same (.str "_lineage") && !isEmptyValue entry.2

def providerPayloadHasResults (providerKey : String) (providerPayload : Value) : Bool :=
  if providerKey = "logs" then (list? providerPayload).any fun items => !items.isEmpty
  else match providerPayload with
    | .dict bucket =>
      if providerKey = "metrics" then
        filledDict (getOrNone "alertmanager" bucket) ||
          (queriedResults "prometheus" bucket).getD (hasContent bucket)
      else if providerKey = "traces" then (queriedResults "tempo" bucket).getD (hasContent bucket)
      else hasContent bucket
    | _ => false

/-- A status that has passed the normalization: its state is a text, or there is none. -/
def stateOf (status : Entries) : Option String :=
  match getOrNone "status" status with
  | .scalar (.str state) => some state
  | _ => none

def mergeReasonCodes (current : Value) (reason : String) : List Value :=
  let texts := ((list? current).getD []).filterMap fun value =>
    match value with
    | .scalar (.str text) => if text = "" then none else some text
    | _ => none
  ((if texts.contains reason then texts else texts ++ [reason]).take maxCollectionReasonCodes).map
    fun text => .scalar (.str text)

def resolvedProviderCollectionStatus (providerKey : String) (providerPayload : Value)
    (reported : Entries) : Entries :=
  if stateOf reported = some "unavailable" ∨ stateOf reported = some "not_queried" then reported
  else if !providerPayloadHasResults providerKey providerPayload then
    let status := reported.assign (.str "status") (.scalar (.str "unavailable"))
    status.assign (.str "reason_codes")
      (.list (mergeReasonCodes (getOrNone "reason_codes" status) "no_provider_results"))
  else if stateOf reported = some "completed" ∨ stateOf reported = some "partial" then reported
  else [(.str "status", .scalar (.str "completed")), (.str "reason_codes", .list [])]

def failedStatus : Entries :=
  [(.str "status", .scalar (.str "unavailable")),
    (.str "reason_codes", .list [.scalar (.str "provider_job_failed")])]

/-- The providers with one of these states, in order. -/
def providersIn (states : List String) (statuses : List (String × Entries)) : List String :=
  ((statuses.filter fun entry => (stateOf entry.2).any states.contains).map Prod.fst).insertionSort
    (· ≤ ·)

def texts (names : List String) : Value := .list (names.map fun name => .scalar (.str name))

def aggregateCollectionStatus (statuses : List (String × Entries)) : Entries :=
  let completed := providersIn ["completed"] statuses
  [(.str "complete", .scalar (.bool (completed.length = statuses.length))),
    (.str "completed_providers", texts completed),
    (.str "partial_providers", texts (providersIn ["partial"] statuses)),
    (.str "failed_providers", texts (providersIn ["unavailable", "not_queried"] statuses)),
    (.str "pending_providers", .list []),
    (.str "providers", .dict (statuses.map fun entry => (.str entry.1, .dict entry.2)))]

end status

section aggregate

def commonReleaseContext (rows : List EvidenceJob) : Entries :=
  let contexts := rows.filterMap fun row =>
    (dict? (getOrNone "release_context" row.providerPolicy)).filter fun context => !context.isEmpty
  match contexts with
  | [] => []
  | first :: others =>
    if others.all fun context => (Value.dict context).equal (.dict first) then first else []

def optionalText : Option String → Value
  | none => .scalar .none
  | some text => .scalar (.str text)

/-- The payload before the first result. -/
def windowPayload (first : EvidenceJob) (rows : List EvidenceJob) : Entries :=
  let payload : Entries := [(.str "workspace_id", .scalar (.str first.workspaceId)),
    (.str "cluster_id", .scalar (.str first.clusterId)),
    (.str "source_id", .scalar (.str first.sourceId)),
    (.str "window_start", .scalar (.str first.windowStart)),
    (.str "evidence_key", .scalar (.str first.evidenceKey)),
    (.str "agent_id", optionalText first.agentId), (.str "kubernetes", .dict [])]
  let context := commonReleaseContext rows
  if context.isEmpty then payload
  else
    let payload := payload.assign (.str "release_context") (.dict context)
    match getOrNone "correlation_id" context with
    | .scalar (.str correlationId) =>
      if correlationId = "" then payload
      else payload.assign (.str "correlation_id") (.scalar (.str correlationId))
    | _ => payload

/-- One row of the loop. -/
def aggregateRow (state : Entries × List (String × Entries)) (row : EvidenceJob) :
    Except HashError (Entries × List (String × Entries)) :=
  match row.status, row.result with
  | .completed, some result => do
    let normalized ← normalizeEvidenceProviderResult row.providerKey result
    let reported ← normalizedProviderCollectionStatus row.providerKey normalized
    .ok (mergeEvidenceProviderPayload state.1 normalized, Dict.assign row.providerKey
      (resolvedProviderCollectionStatus row.providerKey (getOrNone row.providerKey normalized)
        reported) state.2)
  | .failed, _ =>
    let payload := if (getKey row.providerKey state.1).isSome then state.1
      else state.1.assign (.str row.providerKey) (emptyProviderPayload row.providerKey)
    .ok (payload, Dict.assign row.providerKey failedStatus state.2)
  | _, _ => .ok state

def terminal (status : EvidenceJobStatus) : Bool := status = .completed || status = .failed

def aggregateEvidencePayload (rows : List EvidenceJob) : Except HashError (Option Entries) :=
  match rows with
  | [] => .ok none
  | first :: _ =>
    if rows.any fun row => !terminal row.status then .ok none
    else if rows.any fun row => row.failurePolicy = "strict" && row.status = .failed then .ok none
    else do
      let (payload, statuses) ← rows.foldlM aggregateRow (windowPayload first rows, [])
      .ok (some (payload.assign (.str "collection_status")
        (.dict (aggregateCollectionStatus statuses))))

end aggregate

section idempotence

theorem cutReason_cutReason (text : String) : cutReason (cutReason text) = cutReason text := by
  simp [cutReason, List.take_take]

theorem cutReason_ne {text : String} (filled : text ≠ "") : cutReason text ≠ "" := by
  intro cut
  apply filled
  have taken := congrArg String.toList cut
  rw [cutReason, String.toList_ofList] at taken
  have empty : text.toList = [] := (List.take_eq_nil_iff.mp taken).resolve_left (by decide)
  exact String.toList_inj.mp empty

theorem reasonCode_reasonCode {value : Value} (kept : reasonCode value = some code) :
    reasonCode code = some code := by
  unfold reasonCode at kept
  split at kept
  next reason =>
    split at kept
    next => cases kept
    next filled =>
      cases kept
      rw [reasonCode, if_neg (cutReason_ne filled), cutReason_cutReason]
  next => cases kept

theorem reasonCodes_reasonCodes (reasons : List Value) :
    (reasons.filterMap reasonCode).filterMap reasonCode = reasons.filterMap reasonCode := by
  induction reasons with
  | nil => rfl
  | cons reason reasons ih =>
    cases kept : reasonCode reason with
    | none => rw [List.filterMap_cons_none kept, ih]
    | some code =>
      rw [List.filterMap_cons_some kept, List.filterMap_cons_some (reasonCode_reasonCode kept), ih]

theorem boundedField_boundedField (field : String) (value : Value) :
    boundedField field ((boundedField field value).getD (.scalar .none)) =
      boundedField field value := by
  unfold boundedField
  split
  next => rfl
  split
  next =>
    cases kept : reasonCode value with
    | none => rfl
    | some code => exact reasonCode_reasonCode kept
  split
  next =>
    cases list? value with
    | none => rfl
    | some reasons =>
      have short : ((reasons.take maxCollectionReasonCodes).filterMap reasonCode).length ≤
          maxCollectionReasonCodes :=
        (List.length_filterMap_le _ _).trans (List.length_take_le _ _)
      change some (Value.list _) = some (.list _)
      rw [List.take_of_length_le short, reasonCodes_reasonCodes]
  next =>
    cases value with
    | scalar found =>
      cases found with
      | int count =>
        by_cases counted : 0 ≤ count
        · simp only [counted, if_true, Option.getD_some]
        · simp only [counted, if_false, Option.getD_none]
      | _ => rfl
    | list | dict => rfl

theorem getKey_fields (fields : List String) (value : String → Option Value)
    (absent : field ∉ fields → value field = none) :
    getKey field (fields.filterMap fun name => (value name).map fun found => (.str name, found)) =
      value field := by
  induction fields with
  | nil => exact (absent List.not_mem_nil).symm
  | cons name fields ih =>
    by_cases same : name = field
    · subst same
      cases found : value name with
      | none =>
        rw [List.filterMap_cons_none (by rw [found]; rfl), ih fun _ => found, found]
      | some kept =>
        rw [List.filterMap_cons_some (by rw [found]; rfl)]
        simp [getKey, Entries.lookup]
    · have later := ih fun other => absent (by simp [other, Ne.symm same])
      cases found : value name with
      | none => rw [List.filterMap_cons_none (by rw [found]; rfl), later]
      | some kept =>
        rw [List.filterMap_cons_some (by rw [found]; rfl), ← later]
        simp [getKey, Entries.lookup, Scalar.canonical, same]

theorem boundedStatus_boundedStatus (raw : Entries) :
    boundedStatus (boundedStatus raw) = boundedStatus raw := by
  refine List.filterMap_congr fun field member => congrArg _ ?_
  have read : getOrNone field (boundedStatus raw) =
      (boundedField field (getOrNone field raw)).getD (.scalar .none) := by
    rw [getOrNone, boundedStatus, getKey_fields statusFields _ fun other => absurd member other]
  rw [read, boundedField_boundedField]

/-- The state that a result reports can be hashed, as `in` for a set asks. -/
def hashableState (providerKey : String) (result : Entries) : Bool :=
  match (rawStatus providerKey result).map (getOrNone "status") with
  | some (.list _) | some (.dict _) => false
  | _ => true

theorem normalizedStatus_cases (providerKey : String) (result : Entries) :
    hashableState providerKey result = false ∧
        normalizedProviderCollectionStatus providerKey result = .error .unhashable ∨
      hashableState providerKey result = true ∧
      ∃ status, normalizedProviderCollectionStatus providerKey result = .ok status ∧
        (status = [] ∨ boundedStatus status = status ∧
          isCollectionState (getOrNone "status" status) = .ok true) := by
  unfold hashableState normalizedProviderCollectionStatus
  cases rawStatus providerKey result with
  | none => exact .inr ⟨rfl, [], rfl, .inl rfl⟩
  | some raw =>
    rw [Option.map_some]
    have kept : getOrNone "status" (boundedStatus raw) = getOrNone "status" raw := rfl
    dsimp only
    cases state : getOrNone "status" raw with
    | list => exact .inl ⟨rfl, rfl⟩
    | dict => exact .inl ⟨rfl, rfl⟩
    | scalar found =>
      obtain ⟨known, isKnown⟩ : ∃ known, isCollectionState (.scalar found) = .ok known := by
        cases found <;> exact ⟨_, rfl⟩
      refine .inr ⟨rfl, ?_⟩
      rw [isKnown]
      cases known with
      | false => exact ⟨[], rfl, .inl rfl⟩
      | true => exact ⟨_, rfl, .inr ⟨boundedStatus_boundedStatus raw, by rw [kept, state, isKnown]⟩⟩

theorem normalize_cases (result : Entries) (other : providerKey ≠ "collection_status") :
    hashableState providerKey result = false ∧
    normalizeEvidenceProviderResult providerKey result = .error .unhashable ∨
      hashableState providerKey result = true ∧ ∃ status normalized,
        normalizedProviderCollectionStatus providerKey result = .ok status ∧
        normalizeEvidenceProviderResult providerKey result = .ok normalized ∧
        withoutKey "collection_status" normalized =
          [(.str providerKey, providerBucket providerKey result)] ∧
        getKey providerKey normalized = some (providerBucket providerKey result) ∧
        normalizedProviderCollectionStatus providerKey normalized = .ok status ∧
        normalizeEvidenceProviderResult providerKey normalized = .ok normalized := by
  obtain ⟨unhashable, failed⟩ | ⟨hashable, status, found, shape⟩ :=
    normalizedStatus_cases providerKey result
  · refine .inl ⟨unhashable, ?_⟩
    rw [normalizeEvidenceProviderResult, failed]
    rfl
  · refine .inr ⟨hashable, status, ?_⟩
    have apart : (Scalar.str providerKey).same (.str "collection_status") = false := by
      simp [Scalar.same, Scalar.canonical, other]
    unfold normalizeEvidenceProviderResult
    rw [found]
    obtain rfl | ⟨bounded, known⟩ := shape
    · have none : normalizedProviderCollectionStatus providerKey
          [(.str providerKey, providerBucket providerKey result)] = .ok [] := by
        simp [normalizedProviderCollectionStatus, rawStatus, getOrNone, getKey, Entries.lookup,
          Scalar.canonical, other, dict?]
      refine ⟨_, rfl, rfl, ?_, ?_, none, ?_⟩
      · simp [withoutKey, apart]
      · simp [getKey, Entries.lookup]
      · rw [none]
        simp [bind, Except.bind, providerBucket, getKey, Entries.lookup]
    · have filled : status.isEmpty = false := by
        rw [← bounded]
        rfl
      let normalized : Entries := [(.str providerKey, providerBucket providerKey result),
        (.str "collection_status",
          .dict [(.str "providers", .dict [(.str providerKey, .dict status)])])]
      have again : normalizedProviderCollectionStatus providerKey normalized = .ok status := by
        have raw : rawStatus providerKey normalized = some status := by
          simp [normalized, rawStatus, getOrNone, getKey, Entries.lookup, Scalar.canonical,
            other, dict?]
        rw [normalizedProviderCollectionStatus, raw]
        simp only [known, bounded, bind, Except.bind, if_true]
      refine ⟨normalized, rfl, ?_, ?_, ?_, again, ?_⟩
      · simp [bind, Except.bind, filled, normalized, Entries.assign, Scalar.canonical, other]
      · simp [normalized, withoutKey, apart]
      · simp [normalized, getKey, Entries.lookup]
      · rw [again]
        simp [bind, Except.bind, filled, normalized, Entries.assign, Scalar.canonical, other,
          providerBucket, getKey, Entries.lookup]

end idempotence

section rows

def reservedKeys : List String :=
  ["workspace_id", "cluster_id", "source_id", "window_start", "evidence_key", "agent_id",
  "release_context", "correlation_id", "collection_status"]

/-- Rows from which a payload is put together. -/
structure Aggregable (rows : List EvidenceJob) : Prop where
  nonempty : rows ≠ []
  terminal : ∀ row ∈ rows, terminal row.status = true
  lenient : ∀ row ∈ rows, ¬ (row.failurePolicy = "strict" ∧ row.status = .failed)
  results : ∀ row ∈ rows, row.status = .completed → row.result.isSome = true
  distinct : (rows.map EvidenceJob.providerKey).Nodup
  unreserved : ∀ row ∈ rows, row.providerKey ∉ reservedKeys

def hashableRow (row : EvidenceJob) : Bool :=
  match row.status, row.result with
  | .completed, some result => hashableState row.providerKey result
  | _, _ => true

/-- The metadata are copied entry by entry. -/
def copied (providerKey : String) : Value → Value
  | .dict entries => .dict (if providerKey = "metadata" then updateEntries [] entries else entries)
  | value => value

def bucketValue (providerKey : String) (result : Entries) :
    Value := copied providerKey (providerBucket providerKey result)

def putRow (payload : Entries) (row : EvidenceJob) : Entries :=
  match row.status, row.result with
  | .completed, some result =>
    payload.assign (.str row.providerKey) (bucketValue row.providerKey result)
  | _, _ =>
    if (getKey row.providerKey payload).isSome then payload
    else payload.assign (.str row.providerKey) (emptyProviderPayload row.providerKey)

def reportedStatus (providerKey : String) (result : Entries) : Entries :=
  (normalizedProviderCollectionStatus providerKey result).toOption.getD []

def rowStatus (row : EvidenceJob) : Entries :=
  match row.status, row.result with
  | .completed, some result =>
    resolvedProviderCollectionStatus row.providerKey (providerBucket row.providerKey result)
      (reportedStatus row.providerKey result)
  | _, _ => failedStatus

theorem merge_single (payload normalized : Entries) (bucket : Value)
    (only : withoutKey "collection_status" normalized = [(.str providerKey, bucket)])
    (fresh : providerKey = "metadata" → getKey "metadata" payload = none) :
    mergeEvidenceProviderPayload payload normalized =
      payload.assign (.str providerKey) (copied providerKey bucket) := by
  unfold mergeEvidenceProviderPayload
  rw [only]
  by_cases metadata : providerKey = "metadata"
  · subst metadata
    have current : getOrNone "metadata" payload = .scalar .none := by rw [getOrNone, fresh rfl]; rfl
    have found : getOrNone "metadata" [(.str "metadata", bucket)] = bucket := rfl
    have left : withoutKey "metadata" [(.str "metadata", bucket)] = [] := rfl
    dsimp only
    rw [found, left, current]
    cases bucket <;> rfl
  · have found : getOrNone "metadata" [(.str providerKey, bucket)] = .scalar .none := by
      simp [getOrNone, getKey, Entries.lookup, Scalar.canonical, metadata]
    dsimp only
    rw [found]
    cases bucket <;> simp [dict?, copied, metadata, updateEntries]

theorem aggregateRow_eq {row : EvidenceJob} (isTerminal : terminal row.status = true)
    (hasResult : row.status = .completed → row.result.isSome = true)
    (unreserved : row.providerKey ∉ reservedKeys)
    (fresh : row.providerKey = "metadata" → getKey "metadata" payload = none)
    (statuses : List (String × Entries)) :
    aggregateRow (payload, statuses) row =
      if hashableRow row then .ok (putRow payload row,
        Dict.assign row.providerKey (rowStatus row) statuses)
      else .error .unhashable := by
  cases status : row.status with
  | queued | leased =>
    rw [status] at isTerminal
    cases isTerminal
  | failed => simp only [aggregateRow, hashableRow, putRow, rowStatus, status, if_true]
  | completed =>
    obtain ⟨result, isResult⟩ := Option.isSome_iff_exists.mp (hasResult status)
    have other : row.providerKey ≠ "collection_status" := by
      intro same
      exact unreserved (same ▸ by decide)
    simp only [aggregateRow, hashableRow, putRow, rowStatus, status, isResult]
    obtain ⟨unhashable, failed⟩ | ⟨hashable, reported, normalized, first, normal, only, bucket,
      again, _⟩ := normalize_cases result other
    · rw [failed, unhashable]
      rfl
    · have read : getOrNone row.providerKey normalized = providerBucket row.providerKey result := by
        rw [getOrNone, bucket]; rfl
      have isReported : reportedStatus row.providerKey result = reported := by
        rw [reportedStatus, first]; rfl
      rw [normal, hashable, isReported]
      simp only [bind, Except.bind, again, read, merge_single payload normalized _ only fresh,
        bucketValue, if_true]

theorem getKey_putRow {key : String} {row : EvidenceJob} (different : key ≠ row.providerKey) :
    getKey key (putRow payload row) = getKey key payload := by
  unfold putRow
  split
  · exact getKey_assign_ne different _ _
  · split
    · rfl
    · exact getKey_assign_ne different _ _

theorem aggregateRows_eq {rows : List EvidenceJob}
    (isTerminal : ∀ row ∈ rows, terminal row.status = true)
    (results : ∀ row ∈ rows, row.status = .completed → row.result.isSome = true)
    (unreserved : ∀ row ∈ rows, row.providerKey ∉ reservedKeys) {statuses : List (String × Entries)}
    (distinct : (statuses.map Prod.fst ++ rows.map EvidenceJob.providerKey).Nodup)
    (fresh : "metadata" ∈ rows.map EvidenceJob.providerKey → getKey "metadata" payload = none) :
    rows.foldlM aggregateRow (payload, statuses) =
      if rows.all hashableRow then .ok (rows.foldl putRow payload,
        statuses ++ rows.map fun row => (row.providerKey, rowStatus row))
      else .error .unhashable := by
  induction rows generalizing payload statuses with
  | nil => simp [pure, Except.pure]
  | cons row rows ih =>
    rw [List.foldlM_cons, aggregateRow_eq (isTerminal row List.mem_cons_self)
      (results row List.mem_cons_self)
      (unreserved row List.mem_cons_self) fun same =>
        fresh (List.mem_map.mpr ⟨row, List.mem_cons_self, same⟩), List.all_cons]
    cases hashableRow row with
    | false => rfl
    | true =>
      have new : row.providerKey ∉ statuses.map Prod.fst := fun known =>
        List.disjoint_of_nodup_append distinct known List.mem_cons_self
      have next : (statuses ++ [(row.providerKey, rowStatus row)]).map Prod.fst ++
          rows.map EvidenceJob.providerKey =
          statuses.map Prod.fst ++ (row :: rows).map EvidenceJob.providerKey := by simp
      rw [if_pos rfl, Dict.assign_new new]
      refine (ih (fun other member => isTerminal other (List.mem_cons_of_mem _ member))
        (fun other member => results other (List.mem_cons_of_mem _ member))
        (fun other member => unreserved other (List.mem_cons_of_mem _ member))
          (next ▸ distinct) fun later => ?_).trans ?_
      · have other : "metadata" ≠ row.providerKey := by
          rintro same
          exact (List.nodup_cons.mp (List.nodup_append.mp distinct).2.1).1 (same ▸ later)
        rw [getKey_putRow other, fresh (List.mem_cons_of_mem _ later)]
      · simp

def statusesOf (rows : List EvidenceJob) : List (String × Entries) :=
  rows.map fun row => (row.providerKey, rowStatus row)

/-- The payload of rows whose states can all be hashed. -/
def payloadOf : List EvidenceJob → Entries
  | [] => []
  | first :: others =>
    ((first :: others).foldl putRow (windowPayload first (first :: others))).assign
      (.str "collection_status")
      (.dict (aggregateCollectionStatus (statusesOf (first :: others))))

theorem windowPayload_metadata (first : EvidenceJob) (rows : List EvidenceJob) :
    getKey "metadata" (windowPayload first rows) = none := by
  unfold windowPayload
  dsimp only
  split
  · rfl
  · split
    · split
      · rfl
      · rw [getKey_assign_ne (by decide)]
        rfl
    · rfl

theorem aggregateEvidencePayload_eq {rows : List EvidenceJob} (aggregable : Aggregable rows) :
    aggregateEvidencePayload rows = if rows.all hashableRow then .ok (some (payloadOf rows))
  else .error .unhashable := by
  cases rows with
  | nil => exact absurd rfl aggregable.nonempty
  | cons first others =>
    have ready : ((first :: others).any fun row => !terminal row.status) = false := by
      rw [List.any_eq_false]
      intro row member
      rw [aggregable.terminal row member]
      decide
    have lenient : ((first :: others).any fun row => row.failurePolicy = "strict" &&
        row.status = .failed) = false := by
      rw [List.any_eq_false]
      intro row member
      simpa using aggregable.lenient row member
    unfold aggregateEvidencePayload
    dsimp only
    have run := aggregateRows_eq aggregable.terminal aggregable.results aggregable.unreserved
      (by simpa using aggregable.distinct :
        (([] : List (String × Entries)).map Prod.fst ++ _).Nodup)
      fun _ => windowPayload_metadata first (first :: others)
    rw [ready, lenient, if_neg (by decide), if_neg (by decide), run]
    cases (first :: others).all hashableRow <;> rfl

end rows

section views

/-- Other values under the same keys. -/
def mapValues (f : Scalar → Value → Value) (entries : Entries) : Entries :=
  entries.map fun entry => (entry.1, f entry.1 entry.2)

theorem mapValues_assign (f : Scalar → Value → Value) (key : String) (value : Value)
    (entries : Entries) :
    mapValues f (entries.assign (.str key) value) =
      (mapValues f entries).assign (.str key) (f (.str key) value) := by
  induction entries with
  | nil => rfl
  | cons entry entries ih =>
    obtain ⟨found, old⟩ := entry
    by_cases same : found.same (.str key) = true
    · cases Scalar.canonical_str.mp (Scalar.same_iff.mp same)
      simp [mapValues, Entries.assign]
    · simp only [mapValues, List.map_cons, Entries.assign, same, if_false,
        Bool.false_eq_true] at ih ⊢
      rw [ih]

theorem getKey_mapValues (f : Scalar → Value → Value) (key : String) (entries : Entries) :
    (getKey key (mapValues f entries)).isSome = (getKey key entries).isSome := by
  induction entries with
  | nil => rfl
  | cons entry entries ih =>
    simp only [getKey, mapValues, List.map_cons, Entries.lookup] at ih ⊢
    split
    · rfl
    · exact ih

variable {rows : List EvidenceJob} {report : EvidenceJob → Option Entries}

def withResult (report : EvidenceJob → Option Entries) (row : EvidenceJob) : EvidenceJob :=
  { row with result := report row }

theorem Aggregable.withResults (aggregable : Aggregable rows)
    (reported : ∀ row, row.result.isSome = true → (report row).isSome = true) :
    Aggregable (rows.map (withResult report)) where
  nonempty := by simpa using aggregable.nonempty
  terminal := List.forall_mem_map.mpr aggregable.terminal
  lenient := List.forall_mem_map.mpr aggregable.lenient
  results := List.forall_mem_map.mpr fun row member completed =>
    reported row (aggregable.results row member completed)
  distinct := by
    rw [List.map_map]
    exact aggregable.distinct
  unreserved := List.forall_mem_map.mpr aggregable.unreserved

theorem windowPayload_withResult (first : EvidenceJob) (rows : List EvidenceJob) :
    windowPayload (withResult report first) (rows.map (withResult report)) =
      windowPayload first rows := by
  have context : commonReleaseContext (rows.map (withResult report)) =
      commonReleaseContext rows := by
    unfold commonReleaseContext
    rw [List.filterMap_map]
    rfl
  unfold windowPayload
  rw [context]
  rfl

theorem putRow_other (row : EvidenceJob) (other : row.status ≠ .completed) : putRow payload row =
    if (getKey row.providerKey payload).isSome then payload
    else payload.assign (.str row.providerKey) (emptyProviderPayload row.providerKey) := by
  unfold putRow
  split
  · exact absurd ‹_› other
  · rfl

theorem foldl_putRow_view (view : Scalar → Value → Value)
    (shown : ∀ row ∈ rows, row.status = .completed →
      ∃ result after, row.result = some result ∧ report row = some after ∧
      view (.str row.providerKey) (bucketValue row.providerKey after) =
      view (.str row.providerKey) (bucketValue row.providerKey result))
    (same : mapValues view payload = mapValues view other) :
    mapValues view ((rows.map (withResult report)).foldl putRow payload) =
      mapValues view (rows.foldl putRow other) := by
  induction rows generalizing payload other with
  | nil => exact same
  | cons row rows ih =>
    refine ih (fun next member => shown next (List.mem_cons_of_mem _ member)) ?_
    by_cases completed : row.status = .completed
    · obtain ⟨result, after, isResult, isAfter, alike⟩ := shown row List.mem_cons_self completed
      simp only [putRow, withResult, completed, isResult, isAfter, mapValues_assign, same]
      rw [alike]
    · rw [putRow_other row completed, putRow_other (withResult report row) completed]
      have present : (getKey row.providerKey payload).isSome =
          (getKey row.providerKey other).isSome := by
        rw [← getKey_mapValues view, same, getKey_mapValues]
      change mapValues view (if (getKey row.providerKey payload).isSome then payload
        else payload.assign (.str row.providerKey) (emptyProviderPayload row.providerKey)) = _
      rw [present]
      split
      · exact same
      · rw [mapValues_assign, mapValues_assign, same]

theorem rowStatus_withResult {row : EvidenceJob} (kept : report row = row.result) :
    rowStatus (withResult report row) = rowStatus row := by
  have same : withResult report row = row := by
    rw [withResult, kept]
  rw [same]

end views

section isolation

def namesWithout (provider : String) (names : List Value) : List Value :=
  names.filter fun name => match name with
    | .scalar (.str name) => name != provider
    | _ => true

def recordsWithout (provider : String) (records : Entries) : Entries :=
  mapValues (fun name record => if name = .str provider then .scalar .none else record) records

def partWithout (provider : String) (key : Scalar) (part : Value) : Value :=
  if key = .str "complete" then .scalar .none
  else match part with
    | .list names => .list (namesWithout provider names)
    | .dict records => .dict (recordsWithout provider records)
    | part => part

def statusWithout (provider : String) : Value → Value
  | .dict parts => .dict (mapValues (partWithout provider) parts)
  | status => status

def hideProvider (provider : String) (key : Scalar) (value : Value) : Value :=
  if key = .str provider then .scalar .none
  else if key = .str "collection_status" then statusWithout provider value else value

/-- The payload without the bucket of a provider and its part of the collection status. -/
def withoutProvider (provider : String) (payload : Entries) : Entries :=
  mapValues (hideProvider provider) payload

/-- Statuses that differ in the record of one provider at most. -/
def AlikeBut (provider : String) (one two : List (String × Entries)) : Prop :=
  List.Forall₂ (fun left right => left.1 = right.1 ∧ (left.1 ≠ provider → left.2 = right.2)) one two

theorem AlikeBut.names (alike : AlikeBut provider one two) (states : List String) :
    (providersIn states one).filter (· != provider) =
      (providersIn states two).filter (· != provider) := by
  let named (statuses : List (String × Entries)) :=
    (statuses.filter fun entry => (stateOf entry.2).any states.contains).map Prod.fst
  have same : (named one).filter (· != provider) = (named two).filter (· != provider) := by
    induction alike with
    | nil => rfl
    | @cons left right _ _ first _ ih =>
      obtain ⟨name, status⟩ := left
      obtain ⟨other, after⟩ := right
      obtain ⟨rfl, kept⟩ := first
      simp only [named, List.filter_cons] at ih ⊢
      by_cases own : name = provider
      · subst own
        split <;> split <;> simpa using ih
      · cases kept own
        split <;> simpa [own] using ih
  have sorted (names : List String) :=
    (List.pairwise_insertionSort (· ≤ ·) names).filter (· != provider)
  have perm (names : List String) := (List.perm_insertionSort (· ≤ ·) names).filter (· != provider)
  refine List.Perm.eq_of_pairwise (fun _ _ _ _ less more => le_antisymm less more)
    (sorted (named one)) (sorted (named two)) ?_
  exact (perm _).trans (same ▸ (perm _).symm)

theorem AlikeBut.records (alike : AlikeBut provider one two) :
    recordsWithout provider (one.map fun entry => (.str entry.1, .dict entry.2)) =
      recordsWithout provider (two.map fun entry => (.str entry.1, .dict entry.2)) := by
  induction alike with
  | nil => rfl
  | @cons left right _ _ first _ ih =>
    obtain ⟨name, status⟩ := left
    obtain ⟨other, after⟩ := right
    obtain ⟨rfl, kept⟩ := first
    simp only [recordsWithout, mapValues, List.map_cons, List.cons.injEq] at ih ⊢
    refine ⟨?_, ih⟩
    by_cases own : name = provider
    · simp [own]
    · cases kept own
      rfl

theorem namesWithout_texts (provider : String) (names : List String) :
    namesWithout provider (names.map fun name => .scalar (.str name)) =
      (names.filter (· != provider)).map fun name => .scalar (.str name) := by
  rw [namesWithout, List.filter_map]
  rfl

theorem AlikeBut.status (alike : AlikeBut provider one two) :
    statusWithout provider (.dict (aggregateCollectionStatus one)) =
      statusWithout provider (.dict (aggregateCollectionStatus two)) := by
  simp [statusWithout, aggregateCollectionStatus, mapValues, partWithout, texts, namesWithout_texts,
    alike.names, alike.records]

theorem withoutProvider_assign (unreserved : provider ≠ "collection_status") (status : Value)
    (payload : Entries) :
    withoutProvider provider (payload.assign (.str "collection_status") status) =
      (withoutProvider provider payload).assign (.str "collection_status")
        (statusWithout provider status) := by
  rw [withoutProvider, mapValues_assign]
  simp [hideProvider, withoutProvider, unreserved.symm]

/-- The rows after the result of a provider has changed. -/
def changeResult (provider : String) (changed : Entries)
    (rows : List EvidenceJob) : List EvidenceJob :=
  rows.map (withResult fun row => if row.providerKey = provider then some changed else row.result)

variable {rows : List EvidenceJob}

theorem payloadOf_changeResult (aggregable : Aggregable rows)
    (unreserved : provider ≠ "collection_status") (changed : Entries) :
    withoutProvider provider (payloadOf (changeResult provider changed rows)) =
      withoutProvider provider (payloadOf rows) := by
  cases rows with
  | nil => rfl
  | cons first others =>
    let report (row : EvidenceJob) :=
      if row.providerKey = provider then some changed else row.result
    have alike : AlikeBut provider (statusesOf ((first :: others).map (withResult report)))
        (statusesOf (first :: others)) := by
      unfold AlikeBut statusesOf
      rw [List.map_map, List.forall₂_map_left_iff, List.forall₂_map_right_iff, List.forall₂_same]
      intro row _
      refine ⟨rfl, fun other => ?_⟩
      rw [Function.comp_apply, rowStatus_withResult (if_neg other)]
    have values :
        mapValues (hideProvider provider) (((first :: others).map (withResult report)).foldl putRow
          (windowPayload (withResult report first) ((first :: others).map (withResult report)))) =
        mapValues (hideProvider provider)
          ((first :: others).foldl putRow (windowPayload first (first :: others))) := by
      refine foldl_putRow_view _ (fun row member completed => ?_) (by rw [windowPayload_withResult])
      obtain ⟨result, isResult⟩ :=
        Option.isSome_iff_exists.mp (aggregable.results row member completed)
      by_cases own : row.providerKey = provider
      · exact ⟨result, changed, isResult, if_pos own, by simp [hideProvider, own]⟩
      · exact ⟨result, result, isResult, (if_neg own).trans isResult, rfl⟩
    change withoutProvider provider (Entries.assign _ _ _) =
      withoutProvider provider (Entries.assign _ _ _)
    rw [withoutProvider_assign unreserved, withoutProvider_assign unreserved]
    change Entries.assign _ (statusWithout provider
      (.dict (aggregateCollectionStatus (statusesOf ((first :: others).map (withResult report))))))
        _ = _
    rw [alike.status]
    exact congrArg _ values

end isolation

section completeness

/-- `payload["collection_status"]["complete"]`. -/
def completeFlag (payload : Entries) : Value :=
  getOrNone "complete" (getMapping "collection_status" payload)

/-- A row that counts as completed: the job is, there are results for its provider, and it has
reported nothing else. -/
def Collected (row : EvidenceJob) : Prop :=
  row.status = .completed ∧ ∃ result reported, row.result = some result ∧
    normalizedProviderCollectionStatus row.providerKey result = .ok reported ∧
    providerPayloadHasResults row.providerKey (providerBucket row.providerKey result) = true ∧
    ∀ state ∈ ["partial", "unavailable", "not_queried"], stateOf reported ≠ some state

theorem stateOf_resolved (providerKey : String) (bucket : Value) (reported : Entries) :
    stateOf (resolvedProviderCollectionStatus providerKey bucket reported) = some "completed" ↔
      providerPayloadHasResults providerKey bucket = true ∧
        ∀ state ∈ ["partial", "unavailable", "not_queried"], stateOf reported ≠ some state := by
  have missing (codes : Value) :
      stateOf ((reported.assign (.str "status") (.scalar (.str "unavailable"))).assign
      (.str "reason_codes") codes) = some "unavailable" := by
    rw [stateOf, getOrNone, getKey_assign_ne (by decide), getKey, Entries.lookup_assign]
    rfl
  unfold resolvedProviderCollectionStatus
  split
  next absent => obtain absent | absent := absent <;> simp [absent]
  next present =>
    cases found : providerPayloadHasResults providerKey bucket with
    | false => simp [missing]
    | true =>
      rw [not_or] at present
      simp only [Bool.not_true, Bool.false_eq_true, if_false, true_and, List.forall_mem_cons,
        List.not_mem_nil, false_implies, implies_true, and_true]
      split
      next known => obtain known | known := known <;> simp [known]
      next unknown =>
        rw [not_or] at unknown
        exact iff_of_true rfl ⟨unknown.2, present.1, present.2⟩

theorem stateOf_rowStatus {row : EvidenceJob} (hashable : hashableRow row = true)
    (hasResult : row.status = .completed → row.result.isSome = true) :
    stateOf (rowStatus row) = some "completed" ↔ Collected row := by
  by_cases completed : row.status = .completed
  · obtain ⟨result, isResult⟩ := Option.isSome_iff_exists.mp (hasResult completed)
    simp only [hashableRow, completed, isResult] at hashable
    obtain ⟨unhashable, _⟩ | ⟨_, reported, found, _⟩ :=
      normalizedStatus_cases row.providerKey result
    · rw [hashable] at unhashable
      cases unhashable
    · have isReported : reportedStatus row.providerKey result = reported := by
        rw [reportedStatus, found]; rfl
      simp only [rowStatus, completed, isResult, stateOf_resolved, isReported]
      constructor
      · intro fully
        exact ⟨completed, result, reported, isResult, found, fully⟩
      · rintro ⟨_, other, status, isOther, isStatus, fully⟩
        cases isResult.symm.trans isOther
        cases found.symm.trans isStatus
        exact fully
  · have failed : rowStatus row = failedStatus := by
      unfold rowStatus
      split
      · exact absurd ‹_› completed
      · rfl
    rw [failed]
    exact iff_of_false (by decide) fun collected => completed collected.1

theorem complete_iff {rows : List EvidenceJob} (nonempty : rows ≠ []) :
    completeFlag (payloadOf rows) = .scalar (.bool true) ↔
    ∀ row ∈ rows, stateOf (rowStatus row) = some "completed" := by
  cases rows with
  | nil => exact absurd rfl nonempty
  | cons first others =>
    have flag : completeFlag (payloadOf (first :: others)) = .scalar (.bool (decide
        ((providersIn ["completed"] (statusesOf (first :: others))).length =
          (statusesOf (first :: others)).length))) := by
      have status : getOrNone "collection_status" (payloadOf (first :: others)) =
          .dict (aggregateCollectionStatus (statusesOf (first :: others))) := by
        rw [getOrNone, getKey, payloadOf, Entries.lookup_assign, Option.getD_some]
      rw [completeFlag, getMapping, status]
      rfl
    rw [flag]
    simp only [Value.scalar.injEq, Scalar.bool.injEq, decide_eq_true_eq]
    rw [providersIn, List.length_insertionSort, List.length_map, List.length_filter_eq_length_iff,
      statusesOf, List.forall_mem_map]
    refine forall₂_congr fun row _ => ?_
    cases stateOf (rowStatus row) <;> simp

end completeness

section results
variable {rows : List EvidenceJob}

/-- A row whose result has been normalized on arrival. -/
def normalizeRow (row : EvidenceJob) : Except HashError EvidenceJob :=
  match row.status, row.result with
  | .completed, some result =>
    do .ok { row with result := some (← normalizeEvidenceProviderResult row.providerKey result) }
  | _, _ => .ok row

def normalizedResult (row : EvidenceJob) : Option Entries :=
  match row.status, row.result with
  | .completed, some result =>
    some ((normalizeEvidenceProviderResult row.providerKey result).toOption.getD result)
  | _, result => result

/-- A normalized row counts as the row itself. -/
structure Normalized (row : EvidenceJob) : Prop where
  result : normalizeRow row = .ok (withResult normalizedResult row)
  hashable : hashableRow (withResult normalizedResult row) = true
  status : rowStatus (withResult normalizedResult row) = rowStatus row
  bucket : ∀ result, row.status = .completed → row.result = some result →
    ∃ after, normalizedResult row = some after ∧
    bucketValue row.providerKey after = bucketValue row.providerKey result

theorem normalized_of_unchanged {row : EvidenceJob} (hashable : hashableRow row = true)
    (same : normalizedResult row = row.result)
    (own : normalizeRow row = .ok row) : Normalized row := by
  have unchanged : withResult normalizedResult row = row := by rw [withResult, same]
  exact ⟨unchanged.symm ▸ own, unchanged.symm ▸ hashable, unchanged.symm ▸ rfl,
    fun result _ isResult => ⟨result, same.trans isResult, rfl⟩⟩

theorem normalizeRow_normalized {row : EvidenceJob} (hashable : hashableRow row = true)
    (unreserved : row.providerKey ∉ reservedKeys) : Normalized row := by
  by_cases completed : row.status = .completed
  · cases isResult : row.result with
    | none =>
      exact normalized_of_unchanged hashable (by simp [normalizedResult, isResult])
        (by simp [normalizeRow, isResult])
    | some result =>
      have other : row.providerKey ≠ "collection_status" :=
        fun same => unreserved (same ▸ by decide)
      simp only [hashableRow, completed, isResult] at hashable
      obtain ⟨unhashable, _⟩ | ⟨_, reported, normalized, first, normal, _, bucket, again, _⟩ :=
        normalize_cases result other
      · rw [hashable] at unhashable
        cases unhashable
      have stillHashable : hashableState row.providerKey normalized = true := by
        obtain ⟨_, failed⟩ | ⟨fine, _⟩ := normalizedStatus_cases row.providerKey normalized
        · rw [failed] at again
          cases again
        · exact fine
      have sameBucket : providerBucket row.providerKey normalized =
          providerBucket row.providerKey result := by
        rw [providerBucket, bucket, Option.getD_some]
      have sameReport : reportedStatus row.providerKey normalized =
          reportedStatus row.providerKey result := by
        rw [reportedStatus, reportedStatus, first, again]
      have after : normalizedResult row = some normalized := by
        simp [normalizedResult, completed, isResult, normal, Except.toOption]
      refine ⟨?_, ?_, ?_, ?_⟩
      · simp [normalizeRow, withResult, completed, isResult, normal, after, bind, Except.bind]
      · simp [hashableRow, withResult, completed, after, stillHashable]
      · simp [rowStatus, withResult, completed, isResult, after, sameBucket, sameReport]
      · rintro found _ isFound
        cases isResult.symm.trans isFound
        exact ⟨normalized, after, by rw [bucketValue, sameBucket, bucketValue]⟩
  · refine normalized_of_unchanged hashable ?_ ?_
    · unfold normalizedResult
      split
      · exact absurd ‹_› completed
      · rfl
    · unfold normalizeRow
      split
      · exact absurd ‹_› completed
      · rfl

theorem Aggregable.changed (aggregable : Aggregable rows) (provider : String) (changed : Entries) :
    Aggregable (changeResult provider changed rows) := by
  refine aggregable.withResults fun row reported => ?_
  split
  · rfl
  · exact reported

theorem Aggregable.normalized (aggregable : Aggregable rows) :
    Aggregable (rows.map (withResult normalizedResult)) := by
  refine aggregable.withResults fun row reported => ?_
  unfold normalizedResult
  split
  · rfl
  · exact reported

/-- Normalizing the results on arrival makes no difference. -/
theorem payloadOf_normalized (aggregable : Aggregable rows) (each : ∀ row ∈ rows, Normalized row) :
    payloadOf (rows.map (withResult normalizedResult)) = payloadOf rows := by
  cases rows with
  | nil => rfl
  | cons first others =>
    have unchanged (entries : Entries) : mapValues (fun _ value => value) entries = entries :=
      List.map_id _
    have values : mapValues (fun _ value => value)
        (((first :: others).map (withResult normalizedResult)).foldl putRow
          (windowPayload (withResult normalizedResult first)
            ((first :: others).map (withResult normalizedResult)))) =
        mapValues (fun _ value => value)
          ((first :: others).foldl putRow (windowPayload first (first :: others))) := by
      refine foldl_putRow_view _ (fun row member completed => ?_) (by rw [windowPayload_withResult])
      obtain ⟨result, isResult⟩ :=
        Option.isSome_iff_exists.mp (aggregable.results row member completed)
      obtain ⟨after, isAfter, same⟩ := (each row member).bucket result completed isResult
      exact ⟨result, after, isResult, isAfter, same⟩
    have statuses : statusesOf ((first :: others).map (withResult normalizedResult)) =
        statusesOf (first :: others) := by
      rw [statusesOf, statusesOf, List.map_map]
      refine List.map_congr_left fun row member => ?_
      rw [Function.comp_apply, (each row member).status]
      rfl
    rw [unchanged, unchanged] at values
    change Entries.assign _ _ _ = Entries.assign _ _ _
    rw [← List.map_cons, statuses, values]

/-- A change of one result shows in the bucket of its provider and in its part of the collection
status only, normalizing first makes no difference, and the evidence is complete exactly if every
row is, unless some state that is reported for a provider has no hash: then there is no payload. -/
theorem aggregation_isolated_iff (aggregable : Aggregable rows) (member : target ∈ rows)
    (changed : Entries) :
    (∃ payload after, aggregateEvidencePayload rows = .ok (some payload) ∧
      aggregateEvidencePayload (changeResult target.providerKey changed rows) = .ok (some after) ∧
      withoutProvider target.providerKey after = withoutProvider target.providerKey payload ∧
      rows.mapM normalizeRow >>= aggregateEvidencePayload = .ok (some payload) ∧
      (completeFlag payload = .scalar (.bool true) ↔ ∀ row ∈ rows, Collected row)) ↔
    (∀ row ∈ rows, hashableRow row = true) ∧
    hashableRow { target with result := some changed } = true := by
  have first := aggregateEvidencePayload_eq aggregable
  have second := aggregateEvidencePayload_eq (aggregable.changed target.providerKey changed)
  have alone (row : EvidenceJob) (among : row ∈ rows) (same : row.providerKey =
    target.providerKey) : row = target :=
    List.inj_on_of_nodup_map aggregable.distinct among member same
  constructor
  · rintro ⟨payload, after, isPayload, isAfter, _⟩
    rw [first] at isPayload
    rw [second] at isAfter
    have all : rows.all hashableRow = true := by
      by_contra unhashable
      rw [if_neg unhashable] at isPayload
      cases isPayload
    have allChanged : (changeResult target.providerKey changed rows).all hashableRow = true := by
      by_contra unhashable
      rw [if_neg unhashable] at isAfter
      cases isAfter
    have own := List.all_eq_true.mp allChanged _ (List.mem_map_of_mem member)
    rw [withResult, if_pos rfl] at own
    exact ⟨List.all_eq_true.mp all, own⟩
  · rintro ⟨hashable, own⟩
    have all : rows.all hashableRow = true := List.all_eq_true.mpr hashable
    have allChanged : (changeResult target.providerKey changed rows).all hashableRow = true := by
      rw [List.all_eq_true, changeResult, List.forall_mem_map]
      intro row among
      rw [withResult]
      split
      next same => exact alone row among same ▸ own
      next => exact hashable row among
    have unreserved : target.providerKey ≠ "collection_status" :=
      fun same => aggregable.unreserved target member (same ▸ by decide)
    have each (row : EvidenceJob) (among : row ∈ rows) :=
      normalizeRow_normalized (hashable row among) (aggregable.unreserved row among)
    have normalized : rows.mapM normalizeRow = .ok (rows.map (withResult normalizedResult)) :=
      mapM_eq_map fun row among => (each row among).result
    have third := aggregateEvidencePayload_eq aggregable.normalized
    have allNormalized : (rows.map (withResult normalizedResult)).all hashableRow = true := by
      rw [List.all_eq_true, List.forall_mem_map]
      exact fun row among => (each row among).hashable
    rw [if_pos all] at first
    rw [if_pos allChanged] at second
    rw [if_pos allNormalized, payloadOf_normalized aggregable each] at third
    refine ⟨_, _, first, second, payloadOf_changeResult aggregable unreserved changed, ?_, ?_⟩
    · rw [normalized]
      exact third
    · rw [complete_iff aggregable.nonempty]
      exact forall₂_congr fun row among =>
        stateOf_rowStatus (hashable row among) (aggregable.results row among)

def sampleRow (providerKey : String) (status : EvidenceJobStatus)
    (result : Option Entries) : EvidenceJob :=
  { (QueueRequest.job ⟨"w", "c", "s", "t", [providerKey], "lenient", 1, 1, []⟩ 0 providerKey) with
    status, result }

def sampleRows : List EvidenceJob :=
  [sampleRow "kubernetes" .completed (some [(.str "pods", .list [.scalar (.int 1)])]),
    sampleRow "logs" .failed none]

theorem sampleRows_aggregable : Aggregable sampleRows :=
  ⟨by simp [sampleRows], by decide, by decide, by decide, by decide, by decide⟩

theorem aggregation_isolated_sample :
    ∃ payload after, aggregateEvidencePayload sampleRows = .ok (some payload) ∧
    aggregateEvidencePayload (changeResult "kubernetes" [] sampleRows) = .ok (some after) ∧
    withoutProvider "kubernetes" after = withoutProvider "kubernetes" payload := by
  obtain ⟨payload, after, isPayload, isAfter, same, _⟩ :=
    (aggregation_isolated_iff sampleRows_aggregable (List.mem_cons_self (l := _ :: [])) []).mpr
      ⟨by decide, by decide⟩
  exact ⟨payload, after, isPayload, isAfter, same⟩

def unhashableRow : EvidenceJob := sampleRow "kubernetes" .completed
  (some [(.str "collection_status",
    .dict [(.str "providers", .dict [(.str "kubernetes", .dict [(.str "status", .list [])])])])])

theorem unhashable_state_refused :
    Aggregable [unhashableRow] ∧ aggregateEvidencePayload [unhashableRow] = .error .unhashable :=
  ⟨⟨by simp, by decide, by decide, by decide, by decide, by decide⟩, rfl⟩

end results

end K8sOps.Target
