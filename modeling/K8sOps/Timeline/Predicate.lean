import K8sOps.Sql
import K8sOps.Text.Like
import K8sOps.Timeline.Event

/-! The membership of an event in a timeline read, once as Python tests the event and once as
PostgreSQL tests the row that stores it. The two agree on every checked event. -/
namespace K8sOps.Timeline
open Python Text

section selection

structure TimelineReadScope where
  scopes : List ClusterScope
  inventoryClusterIds : List String
  kubernetesEventClusterIds : List String
  incidentClusterIds : List String
  applicationWorkflowIds : List String
  gitopsApplicationIds : List String

inductive TimelineReadMode where
  | live
  | frozen
  deriving DecidableEq

structure TimelineEvidenceFilters where
  activity : List TimelineActivity := []
  kinds : List String := []
  includeDeleted : Bool := true
  pinnedOnly : Bool := false
  search : String := ""

structure TimelineReplayIdentity where
  fromMs : Nat
  toMs : Nat
  filters : TimelineEvidenceFilters
  mode : TimelineReadMode

structure TimelinePinMembership where
  resourceIdentities : List (String × String) := []
  applicationIds : List String := []

/-- A predicate on pins comes with the membership that they resolve to. -/
structure TimelineEvidencePredicate where
  readScope : TimelineReadScope
  replayIdentity : TimelineReplayIdentity
  pinMembership : Option TimelinePinMembership
  resolved : replayIdentity.filters.pinnedOnly = true → pinMembership.isSome = true

/-- The folding of case by `str.casefold` and by the database, which agree on ASCII text, and the
moment of a number of milliseconds. -/
structure TimelineRuntime where
  casefold : String → String
  lower : String → String
  fromDatetime : Nat → Int

def Ascii (text : String) : Prop := ∀ c ∈ text.toList, c.toNat < 128

theorem ascii_iff {text : String} :
    Ascii text ↔ text.toList.all (fun c => c.toNat < 128) = true := by
  simp only [Ascii, List.all_eq_true, decide_eq_true_eq]

def FoldsAscii (fold : String → String) : Prop :=
  ∀ text, Ascii text → (fold text).toList = text.toList.map Char.toLower

structure TimelineRuntime.Standard (runtime : TimelineRuntime) : Prop where
  casefold : FoldsAscii runtime.casefold
  lower : FoldsAscii runtime.lower

end selection

section python

/-- `value in values`; `None` is in no collection of texts. -/
def oneOf (values : List String) (value : Option String) :
    Bool := value.any fun found => values.contains found

def eventNamespace (event : TimelineEventFields) : Option String :=
  match event.resource, event.subject with
  | some resource, _ => resource.inNamespace
  | none, .resource ref => ref.inNamespace
  | none, .inventoryLocator _ _ _ _ inNamespace _ => inNamespace
  | none, _ => none

def resourceKind (event : TimelineEventFields) : Option String :=
  match event.resource, event.subject with
  | some resource, _ => some resource.kind
  | none, .resource ref => some ref.kind
  | none, .inventoryLocator _ _ _ resourceKind _ _ => some resourceKind
  | none, _ => none

def scopeMatches (event : TimelineEventFields) (scopes : List ClusterScope) : Bool :=
  scopes.any fun scope =>
    event.scope.workspaceId == scope.workspaceId && event.scope.clusterId == scope.clusterId &&
      (scope.namespaces.isEmpty || oneOf scope.namespaces (eventNamespace event))

def TimelineSubject.application : TimelineSubject → Option String
  | .applicationWorkflow applicationId _ _ => some applicationId
  | _ => none

def sourceIsAuthorized (event : TimelineEventFields) (readScope : TimelineReadScope) : Bool :=
  match event.source with
  | .inventory => readScope.inventoryClusterIds.contains event.scope.clusterId
  | .kubernetesEvent => readScope.kubernetesEventClusterIds.contains event.scope.clusterId
  | .incident => readScope.incidentClusterIds.contains event.scope.clusterId
  | .applicationWorkflow => oneOf readScope.applicationWorkflowIds event.subject.application
  | .gitops => oneOf readScope.gitopsApplicationIds event.subject.application

def isWithinSnapshotWindow (runtime : TimelineRuntime) (event : TimelineEventFields)
    (identity : TimelineReplayIdentity) : Bool :=
  event.occurredAt.aware &&
    (runtime.fromDatetime identity.fromMs ≤ event.occurredAt.instant &&
      event.occurredAt.instant < runtime.fromDatetime identity.toMs)

def isWithinStreamWindow (runtime : TimelineRuntime) (event : TimelineEventFields)
    (identity : TimelineReplayIdentity) (now : Int) : Bool :=
  if !event.occurredAt.aware || event.occurredAt.instant < runtime.fromDatetime identity.fromMs then
    false
  else if identity.mode = .frozen then event.occurredAt.instant < runtime.fromDatetime identity.toMs
  else event.occurredAt.instant ≤ now

def searchValues (event : TimelineEventFields) : List String :=
  [event.eventId, event.sourceKey, event.nativeId, event.title] ++
    (event.resource.elim [] fun resource => [resource.kind, resource.name, resource.uid]) ++
    match event.subject with
    | .resource ref => [ref.kind, ref.name, ref.uid]
    | .inventoryLocator inventoryKey _ _ resourceKind _ name => [resourceKind, name, inventoryKey]
    | .applicationWorkflow applicationId bindingId workflowRunId =>
      [applicationId, bindingId, workflowRunId]
    | .incident incidentId correlationId => incidentId :: correlationId.toList

def searchMatches (runtime : TimelineRuntime) (event : TimelineEventFields)
    (search : String) : Bool :=
  (searchValues event).any fun value =>
    isWithin (runtime.casefold search).toList (runtime.casefold value).toList

def matchesFilters (runtime : TimelineRuntime) (event : TimelineEventFields)
    (filters : TimelineEvidenceFilters) : Bool :=
  if !filters.activity.isEmpty && !filters.activity.contains event.activity then false
  else if !filters.kinds.isEmpty && !oneOf filters.kinds (resourceKind event) then false
  else if !filters.includeDeleted && event.eventType == .delete then false
  else filters.search == "" || searchMatches runtime event filters.search

def TimelineSubject.resourceRef : TimelineSubject → Option ResourceRef
  | .resource ref => some ref
  | _ => none

def matchesPins (event : TimelineEventFields) (filters : TimelineEvidenceFilters)
    (membership : Option TimelinePinMembership) : Bool :=
  if !filters.pinnedOnly then true
  else membership.any fun membership =>
    ((event.resource.or event.subject.resourceRef).any fun resource =>
      membership.resourceIdentities.contains (event.scope.clusterId, resource.uid)) ||
    oneOf membership.applicationIds event.subject.application

namespace TimelineEvidencePredicate

def matchesSnapshot (runtime : TimelineRuntime) (predicate : TimelineEvidencePredicate)
    (event : TimelineEventFields) : Bool :=
  scopeMatches event predicate.readScope.scopes && sourceIsAuthorized event predicate.readScope &&
    isWithinSnapshotWindow runtime event predicate.replayIdentity &&
    matchesFilters runtime event predicate.replayIdentity.filters &&
    matchesPins event predicate.replayIdentity.filters predicate.pinMembership

def matchesStream (runtime : TimelineRuntime) (predicate : TimelineEvidencePredicate) (now : Int)
    (event : TimelineEventFields) : Bool :=
  scopeMatches event predicate.readScope.scopes && sourceIsAuthorized event predicate.readScope &&
    isWithinStreamWindow runtime event predicate.replayIdentity now &&
    matchesFilters runtime event predicate.replayIdentity.filters &&
    matchesPins event predicate.replayIdentity.filters predicate.pinMembership

end TimelineEvidencePredicate

end python

section sql

inductive ReadPhase where
  | snapshot
  | stream
  deriving DecidableEq

/-- `column["key"]["key"].astext`. The paths below lead to texts, to nulls or to nothing. -/
def jsonText : List String → Value → Option String
  | [], .scalar (.str text) => some text
  | [], _ => none
  | key :: path, value =>
    (dict? value).bind fun entries => (getKey key entries).bind (jsonText path)

/-- `column.ilike(pattern, escape="\\")`. -/
def ilike (runtime : TimelineRuntime) (pattern : String) (column : Option String) : Sql.Truth :=
  column.bind fun text => like '\\' (runtime.lower pattern).toList (runtime.lower text).toList

def escapedContainsPattern (search : String) :
    String := String.ofList (containsPattern search.toList)

def scopeSqlPredicate (row : LedgerRow) (scopes : List ClusterScope) : Sql.Truth :=
  Sql.disjunction (scopes.map fun scope =>
    let predicate := Sql.eq (some row.clusterId) (some scope.clusterId)
    if scope.namespaces.isEmpty then predicate
    else Sql.and predicate (Sql.inList row.inNamespace scope.namespaces))

/-- One kind of source, with the column that its grants are about. -/
def sourceGrant (row : LedgerRow) (source : TimelineSource) (column : Option String)
    (granted : List String) : List Sql.Truth :=
  if granted.isEmpty then [] else
    [Sql.and (Sql.eq (some row.source) (some source)) (Sql.inList column granted)]

/-- `or_(*predicates) if predicates else false()`. -/
def anyPredicate (predicates : List Sql.Truth) : Sql.Truth :=
  if predicates.isEmpty then some false else Sql.disjunction predicates

def sourceAuthorizationSqlPredicate (row : LedgerRow) (readScope : TimelineReadScope) : Sql.Truth :=
  anyPredicate (sourceGrant row .inventory (some row.clusterId) readScope.inventoryClusterIds ++
    sourceGrant row .kubernetesEvent (some row.clusterId) readScope.kubernetesEventClusterIds ++
    sourceGrant row .incident (some row.clusterId) readScope.incidentClusterIds ++
    sourceGrant row .applicationWorkflow (jsonText ["application_id"] row.subject)
      readScope.applicationWorkflowIds ++
    sourceGrant row .gitops (jsonText ["application_id"] row.subject)
      readScope.gitopsApplicationIds)

def pinMembershipSqlPredicate (row : LedgerRow) : Option TimelinePinMembership → Sql.Truth
  | none => some false
  | some membership =>
    anyPredicate ((membership.resourceIdentities.map fun identity =>
        Sql.and (Sql.eq (some row.clusterId) (some identity.1))
          (Sql.or (Sql.eq (jsonText ["uid"] row.resource) (some identity.2))
            (Sql.eq (jsonText ["resource", "uid"] row.subject) (some identity.2)))) ++
      if membership.applicationIds.isEmpty then []
      else [Sql.inList (jsonText ["application_id"] row.subject) membership.applicationIds])

def timelineResourceKindSql (row : LedgerRow) : Option String :=
  Sql.coalesce (jsonText ["kind"] row.resource)
    (Sql.coalesce (jsonText ["resource", "kind"] row.subject)
      (jsonText ["resource_kind"] row.subject))

def searchColumns (row : LedgerRow) : List (Option String) :=
  [some row.eventId, some row.sourceKey, some row.nativeId, some row.title,
    jsonText ["kind"] row.resource, jsonText ["name"] row.resource, jsonText ["uid"] row.resource,
    jsonText ["resource", "kind"] row.subject, jsonText ["resource", "name"] row.subject,
    jsonText ["resource", "uid"] row.subject, jsonText ["resource_kind"] row.subject,
    jsonText ["name"] row.subject, jsonText ["inventory_key"] row.subject,
    jsonText ["application_id"] row.subject, jsonText ["binding_id"] row.subject,
    jsonText ["workflow_run_id"] row.subject, jsonText ["incident_id"] row.subject,
    jsonText ["correlation_id"] row.subject]

/-- `if asked: conditions.append(condition)`. -/
def condition (asked : Bool) (holds : Sql.Truth) : List Sql.Truth := if asked then [holds] else []

/-- `now` is the clock of the database. -/
def timelineEvidenceSqlPredicate (runtime : TimelineRuntime) (row : LedgerRow)
    (predicate : TimelineEvidencePredicate) (phase : ReadPhase) (now : Int) : Sql.Truth :=
  let identity := predicate.replayIdentity
  let filters := identity.filters
  Sql.conjunction (
    [scopeSqlPredicate row predicate.readScope.scopes,
      sourceAuthorizationSqlPredicate row predicate.readScope,
      some (runtime.fromDatetime identity.fromMs ≤ row.occurredAt),
      if phase = .snapshot ∨ identity.mode = .frozen then
        some (row.occurredAt < runtime.fromDatetime identity.toMs)
      else some (row.occurredAt ≤ now)] ++
    condition (!filters.activity.isEmpty) (Sql.inList (some row.activity) filters.activity) ++
    condition (!filters.kinds.isEmpty) (Sql.inList (timelineResourceKindSql row) filters.kinds) ++
    condition (!filters.includeDeleted) (Sql.ne (some row.eventType) (some .delete)) ++
    condition (filters.search != "")
      (Sql.disjunction ((searchColumns row).map
        (ilike runtime (escapedContainsPattern filters.search)))) ++
    condition filters.pinnedOnly (pinMembershipSqlPredicate row predicate.pinMembership))

end sql

section columns
variable {event : TimelineEvent} {value : String}

theorem oneOf_iff {values : List String} {value : Option String} :
    oneOf values value = true ↔ ∃ found, value = some found ∧ found ∈ values := by
  cases value <;> simp [oneOf]

theorem TimelineEvent.resource_of_subject (event : TimelineEvent)
    (isResource : event.subject = .resource ref) :
    event.resource = some ref := by
  have related := event.related
  unfold TimelineEventFields.validateExactResourceRelation at related
  rw [isResource] at related
  exact beq_iff_eq.mp (Bool.and_eq_true_iff.mp related).2

theorem storedNamespace_eq (event : TimelineEvent) :
    storedNamespace event.toTimelineEventFields = eventNamespace event.toTimelineEventFields := by
  have exact_resource (ref : ResourceRef) : event.subject = .resource ref →
      event.resource = some ref := event.resource_of_subject
  unfold storedNamespace eventNamespace
  cases has : event.resource with
  | some resource => rfl
  | none =>
    cases isSubject : event.subject with
    | resource ref =>
      have same := exact_resource ref isSubject
      rw [has] at same
      cases same
    | _ => rfl

theorem jsonText_resource (resource : Option ResourceRef) :
    jsonText ["kind"] (ResourceRef.dumpOptional resource) = resource.map (·.kind) ∧
      jsonText ["name"] (ResourceRef.dumpOptional resource) = resource.map (·.name) ∧
      jsonText ["uid"] (ResourceRef.dumpOptional resource) = resource.map (·.uid) := by
  cases resource with
  | none => exact ⟨rfl, rfl, rfl⟩
  | some ref =>
    simp [ResourceRef.dumpOptional, ResourceRef.modelDump, jsonText, dict?, getKey, Entries.lookup,
      Scalar.same, Scalar.canonical, textValue]

theorem jsonText_subject_resource (subject : TimelineSubject) :
    jsonText ["resource", "kind"] subject.modelDump = subject.resourceRef.map (·.kind) ∧
      jsonText ["resource", "name"] subject.modelDump = subject.resourceRef.map (·.name) ∧
      jsonText ["resource", "uid"] subject.modelDump = subject.resourceRef.map (·.uid) := by
  cases subject <;>
    simp [TimelineSubject.modelDump, TimelineSubject.resourceRef, ResourceRef.modelDump, jsonText,
      dict?, getKey, Entries.lookup, Scalar.same, Scalar.canonical, textValue]

theorem jsonText_application (subject : TimelineSubject) :
    jsonText ["application_id"] subject.modelDump = subject.application := by
  cases subject <;>
    simp [TimelineSubject.modelDump, TimelineSubject.application, jsonText, dict?, getKey,
      Entries.lookup, Scalar.same, Scalar.canonical, textValue]

theorem timelineResourceKindSql_eq (event : TimelineEventFields) (sequence : Nat) :
    timelineResourceKindSql (eventValues event sequence) = resourceKind event := by
  unfold timelineResourceKindSql resourceKind
  simp only [eventValues, (jsonText_resource _).1, (jsonText_subject_resource _).1]
  cases event.resource with
  | some resource => rfl
  | none =>
    cases event.subject <;>
      simp [TimelineSubject.modelDump, TimelineSubject.resourceRef, Sql.coalesce, jsonText, dict?,
        getKey, Entries.lookup, Scalar.same, Scalar.canonical, textValue]

theorem mem_searchColumns (event : TimelineEventFields) (sequence : Nat) (value : String) :
    some value ∈ searchColumns (eventValues event sequence) ↔ value ∈ searchValues event := by
  obtain ⟨kind, name, uid⟩ := jsonText_resource event.resource
  obtain ⟨subjectKind, subjectName, subjectUid⟩ := jsonText_subject_resource event.subject
  unfold searchColumns searchValues
  simp only [eventValues, kind, name, uid, subjectKind, subjectName, subjectUid,
    jsonText_application]
  cases event.subject with
  | incident incidentId correlationId =>
    cases event.resource <;> cases correlationId <;>
      simp [TimelineSubject.modelDump, TimelineSubject.resourceRef, TimelineSubject.application,
        jsonText, dict?, getKey, Entries.lookup, Scalar.same, Scalar.canonical, textValue,
        optionalTextValue]
  | _ =>
    cases event.resource <;>
      simp [TimelineSubject.modelDump, TimelineSubject.resourceRef, TimelineSubject.application,
        jsonText, dict?, getKey, Entries.lookup, Scalar.same, Scalar.canonical, textValue]

end columns

section agreement
variable {runtime : TimelineRuntime} (event : TimelineEvent) (sequence : Nat)

theorem anyPredicate_true_iff {predicates : List Sql.Truth} :
    anyPredicate predicates = some true ↔ ∃ predicate ∈ predicates, predicate = some true := by
  unfold anyPredicate
  split
  next none =>
    rw [List.isEmpty_iff] at none
    simp [none]
  next present =>
    rw [List.isEmpty_iff] at present
    exact Sql.disjunction_true_iff present

theorem condition_true_iff {asked : Bool} {holds : Sql.Truth} :
    (∀ found ∈ condition asked holds, found = some true) ↔ (asked = true → holds = some true) := by
  cases asked <;> simp [condition]

theorem scope_agrees {scopes : List ClusterScope} (present : scopes ≠ [])
    (own : ∀ scope ∈ scopes, scope.workspaceId = event.scope.workspaceId) :
    scopeMatches event.toTimelineEventFields scopes = true ↔
      scopeSqlPredicate (eventValues event.toTimelineEventFields sequence) scopes = some true := by
  unfold scopeMatches scopeSqlPredicate
  rw [Sql.disjunction_true_iff (by simpa using present), List.any_eq_true]
  simp only [List.mem_map, exists_exists_and_eq_and, eventValues, storedNamespace_eq]
  refine exists_congr fun scope => and_congr_right fun member => ?_
  rw [own scope member]
  by_cases unrestricted : scope.namespaces.isEmpty
  · simp [unrestricted]
  · simp [unrestricted, oneOf_iff, Sql.inList_true_iff]

theorem sourceGrant_true_iff {row : LedgerRow} {source : TimelineSource} {column : Option String}
    {granted : List String} :
    (∃ predicate ∈ sourceGrant row source column granted, predicate = some true) ↔
      row.source = source ∧ oneOf granted column = true := by
  unfold sourceGrant
  rw [oneOf_iff]
  split
  next none =>
    rw [List.isEmpty_iff] at none
    simp [none]
  next =>
    simp only [List.mem_singleton, exists_eq_left, Sql.and_true_iff, Sql.eq_true_iff,
      Sql.inList_true_iff]
    simp

theorem source_agrees (readScope : TimelineReadScope) :
    sourceIsAuthorized event.toTimelineEventFields readScope = true ↔
      sourceAuthorizationSqlPredicate (eventValues event.toTimelineEventFields sequence) readScope =
        some true := by
  unfold sourceAuthorizationSqlPredicate
  rw [anyPredicate_true_iff]
  simp only [List.mem_append, or_and_right, exists_or, sourceGrant_true_iff, eventValues,
    jsonText_application]
  unfold sourceIsAuthorized
  cases event.source <;> simp [oneOf]

theorem pins_agree {filters : TimelineEvidenceFilters} {membership : Option TimelinePinMembership} :
    matchesPins event.toTimelineEventFields filters membership = true ↔ (filters.pinnedOnly = true →
      pinMembershipSqlPredicate (eventValues event.toTimelineEventFields sequence) membership =
        some true) := by
  unfold matchesPins
  cases filters.pinnedOnly with
  | false => simp
  | true =>
    cases membership with
    | none => simp [pinMembershipSqlPredicate]
    | some membership =>
      -- The two columns hold one resource where both are set.
      have identified (uid : String) :
          (Sql.eq (jsonText ["uid"] (ResourceRef.dumpOptional event.resource)) (some uid) =
            some true ∨
            Sql.eq (jsonText ["resource", "uid"] event.subject.modelDump) (some uid) = some true) ↔
          ((event.resource.or event.subject.resourceRef).map (·.uid)) = some uid := by
        rw [(jsonText_resource _).2.2, (jsonText_subject_resource _).2.2]
        have exact_resource (ref : ResourceRef) : event.subject = .resource ref →
            event.resource = some ref :=
          event.resource_of_subject
        cases isSubject : event.subject with
        | resource ref => simp [exact_resource ref isSubject, TimelineSubject.resourceRef]
        | _ => cases event.resource <;> simp [TimelineSubject.resourceRef]
      unfold pinMembershipSqlPredicate
      dsimp only
      rw [anyPredicate_true_iff]
      simp only [List.mem_append, or_and_right, exists_or, List.mem_map, exists_exists_and_eq_and,
        eventValues, Sql.and_true_iff, Sql.or_true_iff, identified, jsonText_application]
      simp only [Bool.not_true, Bool.false_eq_true, if_false, Option.any_some, Bool.or_eq_true,
        true_implies]
      refine or_congr ?_ ?_
      · cases event.resource.or event.subject.resourceRef with
        | none => simp
        | some resource =>
          simp only [Option.any_some, List.contains_iff_mem, Option.map_some, Option.some.injEq,
            Sql.eq_true_iff, Option.isSome_some, true_and]
          constructor
          · intro member
            exact ⟨_, member, rfl, rfl⟩
          · rintro ⟨⟨cluster, uid⟩, member, rfl, rfl⟩
            exact member
      · rw [oneOf_iff]
        split
        next none =>
          rw [List.isEmpty_iff] at none
          simp [none]
        next => simp only [List.mem_singleton, exists_eq_left, Sql.inList_true_iff]

theorem ilike_agrees (standard : runtime.Standard) {search value : String}
    (asciiSearch : Ascii search) (ascii : Ascii value) :
    isWithin (runtime.casefold search).toList (runtime.casefold value).toList = true ↔
      ilike runtime (escapedContainsPattern search) (some value) = some true := by
  have asciiPattern : Ascii (escapedContainsPattern search) := by
    intro c member
    rw [escapedContainsPattern, String.toList_ofList] at member
    obtain among | rfl | rfl | rfl := mem_containsPattern member
    · exact asciiSearch c among
    all_goals decide
  unfold ilike
  rw [Option.bind_some, standard.lower _ asciiPattern, standard.lower _ ascii,
    standard.casefold _ asciiSearch, standard.casefold _ ascii, escapedContainsPattern,
    String.toList_ofList, toLower_containsPattern, like_containsPattern, isWithin_iff]

theorem search_agrees (standard : runtime.Standard) {search : String} (asciiSearch : Ascii search)
    (ascii : ∀ value ∈ searchValues event.toTimelineEventFields, Ascii value) :
    searchMatches runtime event.toTimelineEventFields search = true ↔
      Sql.disjunction ((searchColumns (eventValues event.toTimelineEventFields sequence)).map
        (ilike runtime (escapedContainsPattern search))) = some true := by
  rw [Sql.disjunction_true_iff (by simp [searchColumns]), searchMatches, List.any_eq_true]
  simp only [List.mem_map, exists_exists_and_eq_and]
  constructor
  · rintro ⟨value, member, within⟩
    exact ⟨some value, (mem_searchColumns _ _ _).mpr member,
      (ilike_agrees standard asciiSearch (ascii value member)).mp within⟩
  · rintro ⟨column, member, matched⟩
    cases column with
    | none => cases matched
    | some value =>
      have among := (mem_searchColumns _ _ _).mp member
      exact ⟨value, among, (ilike_agrees standard asciiSearch (ascii value among)).mpr matched⟩

/-- `if asked and not holds: return False`. -/
theorem refused_true_iff {asked holds rest : Bool} :
    (if asked && !holds then false else rest) = true ↔
    (asked = true → holds = true) ∧ rest = true := by
  cases asked <;> cases holds <;> simp

theorem filters_agree (standard : runtime.Standard) {filters : TimelineEvidenceFilters}
    (asciiSearch : Ascii filters.search)
    (ascii : ∀ value ∈ searchValues event.toTimelineEventFields, Ascii value) :
    let row := eventValues event.toTimelineEventFields sequence
    matchesFilters runtime event.toTimelineEventFields filters = true ↔
      ((!filters.activity.isEmpty) = true →
        Sql.inList (some row.activity) filters.activity = some true) ∧
      ((!filters.kinds.isEmpty) = true →
        Sql.inList (timelineResourceKindSql row) filters.kinds = some true) ∧
      ((!filters.includeDeleted) = true → Sql.ne (some row.eventType) (some .delete) = some true) ∧
      ((filters.search != "") = true → Sql.disjunction ((searchColumns row).map
        (ilike runtime (escapedContainsPattern filters.search))) = some true) := by
  intro row
  have activity : Sql.inList (some row.activity) filters.activity = some true ↔
      filters.activity.contains event.activity = true := by simp [Sql.inList, row, eventValues]
  have kinds : Sql.inList (timelineResourceKindSql row) filters.kinds = some true ↔
      oneOf filters.kinds (resourceKind event.toTimelineEventFields) = true := by
    rw [timelineResourceKindSql_eq, Sql.inList_true_iff, oneOf_iff]
  have kept : Sql.ne (some row.eventType) (some .delete) = some true ↔
      (event.eventType != .delete) = true := by
    rw [Sql.ne_true_iff, bne_iff_ne]
    rfl
  have deleted : (event.eventType == .delete) = !(event.eventType != .delete) := by
    rw [bne, Bool.not_not]
  rw [← search_agrees event sequence standard asciiSearch ascii, activity, kinds, kept]
  unfold matchesFilters
  rw [deleted, refused_true_iff, refused_true_iff, refused_true_iff]
  refine and_congr_right fun _ => and_congr_right fun _ => and_congr_right fun _ => ?_
  by_cases empty : filters.search = "" <;> simp [empty]

theorem membership_agrees (standard : runtime.Standard) {predicate : TimelineEvidencePredicate}
    {phase : ReadPhase} {now : Int} {within : Bool}
    (asciiSearch : Ascii predicate.replayIdentity.filters.search)
    (ascii : ∀ value ∈ searchValues event.toTimelineEventFields, Ascii value)
    (present : predicate.readScope.scopes ≠ [])
    (own : ∀ scope ∈ predicate.readScope.scopes, scope.workspaceId = event.scope.workspaceId)
    (window : within = true ↔ runtime.fromDatetime predicate.replayIdentity.fromMs ≤
      event.occurredAt.instant ∧
      if phase = .snapshot ∨ predicate.replayIdentity.mode = .frozen then
        event.occurredAt.instant < runtime.fromDatetime predicate.replayIdentity.toMs
      else event.occurredAt.instant ≤ now) :
    (scopeMatches event.toTimelineEventFields predicate.readScope.scopes &&
      sourceIsAuthorized event.toTimelineEventFields predicate.readScope && within &&
      matchesFilters runtime event.toTimelineEventFields predicate.replayIdentity.filters &&
      matchesPins event.toTimelineEventFields predicate.replayIdentity.filters
        predicate.pinMembership) = true ↔
    timelineEvidenceSqlPredicate runtime (eventValues event.toTimelineEventFields sequence)
      predicate phase now = some true := by
  unfold timelineEvidenceSqlPredicate
  dsimp only
  rw [Sql.conjunction_true_iff]
  simp only [List.forall_mem_append, List.forall_mem_cons, condition_true_iff, Bool.and_eq_true,
    scope_agrees event sequence present own, source_agrees event sequence,
    pins_agree event sequence, window, filters_agree event sequence standard asciiSearch ascii]
  have ends : ((if phase = .snapshot ∨ predicate.replayIdentity.mode = .frozen then
        some (decide (event.occurredAt.instant <
          runtime.fromDatetime predicate.replayIdentity.toMs))
      else some (decide (event.occurredAt.instant ≤ now))) = some true) ↔
      if phase = .snapshot ∨ predicate.replayIdentity.mode = .frozen then
        event.occurredAt.instant < runtime.fromDatetime predicate.replayIdentity.toMs
      else event.occurredAt.instant ≤ now := by
    split <;> simp
  have moment : (eventValues event.toTimelineEventFields sequence).occurredAt =
      event.occurredAt.instant := rfl
  simp only [moment, ends, Option.some.injEq, decide_eq_true_eq, List.not_mem_nil,
    IsEmpty.forall_iff, implies_true, and_true, and_assoc]

theorem snapshotWindow_iff {event : TimelineEventFields} (aware : event.occurredAt.aware = true)
    (identity : TimelineReplayIdentity) :
    isWithinSnapshotWindow runtime event identity = true ↔
      runtime.fromDatetime identity.fromMs ≤ event.occurredAt.instant ∧
        event.occurredAt.instant < runtime.fromDatetime identity.toMs := by
  simp [isWithinSnapshotWindow, aware]

theorem streamWindow_iff {event : TimelineEventFields} (aware : event.occurredAt.aware = true)
    (identity : TimelineReplayIdentity) (now : Int) :
    isWithinStreamWindow runtime event identity now = true ↔
      runtime.fromDatetime identity.fromMs ≤ event.occurredAt.instant ∧
        if identity.mode = .frozen then event.occurredAt.instant <
          runtime.fromDatetime identity.toMs
        else event.occurredAt.instant ≤ now := by
  unfold isWithinStreamWindow
  rw [aware, Bool.not_true, Bool.false_or]
  by_cases early : event.occurredAt.instant < runtime.fromDatetime identity.fromMs
  · simp [early, Int.not_le.mpr early]
  · have late := Int.not_lt.mp early
    simp only [early, decide_false, Bool.false_eq_true, if_false, late, true_and]
    split <;> exact decide_eq_true_iff

theorem timeline_membership_agrees (standard : runtime.Standard)
    (predicate : TimelineEvidencePredicate) (now : Int) (aware : event.occurredAt.aware = true)
    (ascii : ∀ value ∈ searchValues event.toTimelineEventFields, Ascii value)
    (asciiSearch : Ascii predicate.replayIdentity.filters.search)
    (present : predicate.readScope.scopes ≠ [])
    (own : ∀ scope ∈ predicate.readScope.scopes, scope.workspaceId = event.scope.workspaceId) :
    let row := eventValues event.toTimelineEventFields sequence
    (predicate.matchesSnapshot runtime event.toTimelineEventFields = true ↔
      timelineEvidenceSqlPredicate runtime row predicate .snapshot now = some true) ∧
    (predicate.matchesStream runtime now event.toTimelineEventFields = true ↔
      timelineEvidenceSqlPredicate runtime row predicate .stream now = some true) := by
  intro row
  constructor
  · apply membership_agrees event sequence standard asciiSearch ascii present own
    rw [snapshotWindow_iff aware, if_pos (.inl rfl)]
  · apply membership_agrees event sequence standard asciiSearch ascii present own
    rw [streamWindow_iff aware]
    simp

def lowercase (text : String) : String := String.ofList (text.toList.map Char.toLower)

def asciiRuntime : TimelineRuntime :=
  ⟨lowercase, lowercase, fun milliseconds => milliseconds * 1000⟩

theorem asciiRuntime_standard : asciiRuntime.Standard :=
  ⟨fun _ _ => String.toList_ofList, fun _ _ => String.toList_ofList⟩

def usageReport : TimelineEvent where
  eventId := "e"
  source := .incident
  sourceKey := "k"
  nativeId := "n"
  activity := .warning
  occurredAt := ⟨1500000, true⟩
  scope := { workspaceId := "w", clusterId := "c" }
  subject := .incident "i" none
  eventType := .incident
  severity := .warning
  title := "CPU_100%"
  checked := by decide +kernel

/-- A search whose characters all mean something to `LIKE`. -/
def usagePredicate : TimelineEvidencePredicate where
  readScope := ⟨[{ workspaceId := "w", clusterId := "c" }], [], [], ["c"], [], []⟩
  replayIdentity := ⟨1000, 2000, { includeDeleted := false, search := "u_1" }, .frozen⟩
  pinMembership := none
  resolved := by decide

theorem timeline_membership_agrees_sample :
    usagePredicate.matchesSnapshot asciiRuntime usageReport.toTimelineEventFields = true ∧
      timelineEvidenceSqlPredicate asciiRuntime (eventValues usageReport.toTimelineEventFields 7)
        usagePredicate .snapshot 0 =
        some true := by
  have matched : usagePredicate.matchesSnapshot asciiRuntime usageReport.toTimelineEventFields =
      true := by decide +kernel
  have values : (searchValues usageReport.toTimelineEventFields).all
      (fun value => value.toList.all fun c => c.toNat < 128) = true := by decide +kernel
  have agrees := timeline_membership_agrees usageReport 7 asciiRuntime_standard usagePredicate 0 rfl
    (fun value member => ascii_iff.mpr (List.all_eq_true.mp values value member))
      (ascii_iff.mpr (by decide +kernel))
    (List.cons_ne_nil _ _) (by decide +kernel)
  exact ⟨matched, agrees.1.mp matched⟩

end agreement

end K8sOps.Timeline
