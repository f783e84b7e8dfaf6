import Mathlib.Data.Option.Basic
import K8sOps.Python.Convert

/-! Timeline events, checked as the contract checks them, and the ledger row that stores one.
Subject, resource and owner are JSON columns, so reading a row back parses and checks it again. -/
namespace K8sOps.Timeline
open Python

section contract

inductive Freshness where
  | live
  | stale
  | partialScope
  | disconnected
  deriving DecidableEq

structure ClusterScope where
  workspaceId : String
  clusterId : String
  namespaces : List String := []
  freshness : Freshness := .live
  deriving DecidableEq

structure ResourceRef where
  apiGroup : String := ""
  version : String := ""
  kind : String
  inNamespace : Option String := none
  name : String
  uid : String
  deriving DecidableEq

inductive TimelineActivity where
  | change
  | k8sEvent
  | warning
  | unhealthy
  deriving DecidableEq

inductive TimelineSource where
  | inventory
  | incident
  | applicationWorkflow
  | kubernetesEvent
  | gitops
  deriving DecidableEq

inductive TimelineEventType where
  | add
  | update
  | delete
  | k8sEvent
  | incident
  | deployment
  | gitopsChange
  deriving DecidableEq

inductive TimelineSeverity where
  | info
  | warning
  | critical
  | unknown
  deriving DecidableEq

inductive TimelineSubject where
  | resource (ref : ResourceRef)
  | inventoryLocator (inventoryKey apiGroup version resourceKind : String)
      (inNamespace : Option String) (name : String)
  | incident (incidentId : String) (correlationId : Option String)
  | applicationWorkflow (applicationId bindingId workflowRunId : String)
  deriving DecidableEq

/-- A moment in microseconds since the epoch. A naive one is the moment that the session of the
database reads it as. -/
structure Datetime where
  instant : Int
  aware : Bool
  deriving DecidableEq

structure TimelineEventFields where
  eventId : String
  source : TimelineSource
  sourceKey : String
  nativeId : String
  activity : TimelineActivity
  occurredAt : Datetime
  scope : ClusterScope
  subject : TimelineSubject
  resource : Option ResourceRef := none
  eventType : TimelineEventType
  severity : TimelineSeverity
  title : String
  owner : Option ResourceRef := none
  metadata : Entries := []

def withinLength (least most : Nat) (text : String) :
    Bool := least ≤ text.length && text.length ≤ most

def ResourceRef.check (ref : ResourceRef) : Bool :=
  ref.kind != "" && ref.name != "" && ref.uid != ""

def TimelineSubject.check : TimelineSubject → Bool
  | .resource ref => ref.check
  | .inventoryLocator inventoryKey _ _ resourceKind inNamespace name =>
    withinLength 1 512 inventoryKey && withinLength 1 253 resourceKind &&
      inNamespace.all (withinLength 0 253) && withinLength 1 253 name
  | .incident incidentId correlationId =>
    withinLength 1 512 incidentId && correlationId.all (withinLength 1 512)
  | .applicationWorkflow applicationId bindingId workflowRunId =>
    withinLength 1 512 applicationId && withinLength 1 512 bindingId &&
      withinLength 1 512 workflowRunId

def TimelineSubject.isApplicationWorkflow : TimelineSubject → Bool
  | .applicationWorkflow _ _ _ => true
  | _ => false

namespace TimelineEventFields

def validateExactResourceRelation (event : TimelineEventFields) : Bool :=
  (event.source != .applicationWorkflow && event.source != .gitops ||
    event.subject.isApplicationWorkflow) &&
    match event.subject with
    | .resource resource => event.resource == some resource
    | .inventoryLocator _ _ _ _ _ _ => event.resource.isNone
    | _ => true

def check (event : TimelineEventFields) : Bool :=
  withinLength 1 512 event.eventId && withinLength 1 1024 event.sourceKey &&
    withinLength 1 1024 event.nativeId &&
    withinLength 1 1000 event.title && event.scope.workspaceId != "" &&
      event.scope.clusterId != "" &&
    event.subject.check && event.resource.all ResourceRef.check &&
      event.owner.all ResourceRef.check &&
    event.validateExactResourceRelation

end TimelineEventFields

structure TimelineEvent extends TimelineEventFields where
  checked : toTimelineEventFields.check = true

theorem TimelineEvent.related (event : TimelineEvent) :
    event.validateExactResourceRelation = true := by
  have checked := event.checked
  unfold TimelineEventFields.check at checked
  exact (Bool.and_eq_true_iff.mp checked).2

end contract

section json

def textValue (text : String) : Value := .scalar (.str text)

def optionalTextValue : Option String → Value
  | none => .scalar .none
  | some text => textValue text

def textAt (key : String) (entries : Entries) : Option String :=
  match getKey key entries with
  | some (.scalar (.str text)) => some text
  | _ => none

def defaultTextAt (key : String) (entries : Entries) : Option String :=
  match getKey key entries with
  | none => some ""
  | some (.scalar (.str text)) => some text
  | some _ => none

def optionalTextAt (key : String) (entries : Entries) : Option (Option String) :=
  match getKey key entries with
  | none | some (.scalar .none) => some none
  | some (.scalar (.str text)) => some (some text)
  | some _ => none

/-- Whether no key is unknown to the model. -/
def onlyKeys (keys : List String) (entries : Entries) : Bool :=
  entries.all fun entry => keys.any fun key => entry.1.same (.str key)

namespace ResourceRef

def modelDump (ref : ResourceRef) : Value :=
  .dict [(.str "api_group", textValue ref.apiGroup), (.str "version", textValue ref.version),
    (.str "kind", textValue ref.kind), (.str "namespace", optionalTextValue ref.inNamespace),
    (.str "name", textValue ref.name), (.str "uid", textValue ref.uid)]

def modelValidate (value : Value) : Option ResourceRef := do
  let entries ← dict? value
  guard (onlyKeys ["api_group", "version", "kind", "namespace", "name", "uid"] entries)
  return {
    apiGroup := ← defaultTextAt "api_group" entries
    version := ← defaultTextAt "version" entries
    kind := ← textAt "kind" entries
    inNamespace := ← optionalTextAt "namespace" entries
    name := ← textAt "name" entries
    uid := ← textAt "uid" entries }

def dumpOptional (ref : Option ResourceRef) : Value := ref.elim (.scalar .none) modelDump

def validateOptional : Value → Option (Option ResourceRef)
  | .scalar .none => some none
  | value => (modelValidate value).map some

end ResourceRef

namespace TimelineSubject

def modelDump : TimelineSubject → Value
  | .resource ref => .dict [(.str "kind", textValue "resource"), (.str "resource", ref.modelDump)]
  | .inventoryLocator inventoryKey apiGroup version resourceKind inNamespace name =>
    .dict [(.str "kind", textValue "inventory_locator"),
      (.str "inventory_key", textValue inventoryKey), (.str "api_group", textValue apiGroup),
      (.str "version", textValue version), (.str "resource_kind", textValue resourceKind),
      (.str "namespace", optionalTextValue inNamespace), (.str "name", textValue name)]
  | .incident incidentId correlationId =>
    .dict [(.str "kind", textValue "incident"), (.str "incident_id", textValue incidentId),
      (.str "correlation_id", optionalTextValue correlationId)]
  | .applicationWorkflow applicationId bindingId workflowRunId =>
    .dict [(.str "kind", textValue "application_workflow"),
      (.str "application_id", textValue applicationId), (.str "binding_id", textValue bindingId),
      (.str "workflow_run_id", textValue workflowRunId)]

/-- The four shapes, told apart by `kind`. -/
def modelValidate (value : Value) : Option TimelineSubject := do
  let entries ← dict? value
  match ← textAt "kind" entries with
  | "resource" =>
    guard (onlyKeys ["kind", "resource"] entries)
    return .resource (← ResourceRef.modelValidate (getOrNone "resource" entries))
  | "inventory_locator" =>
    guard (onlyKeys ["kind", "inventory_key", "api_group", "version", "resource_kind", "namespace",
      "name"] entries)
    return .inventoryLocator (← textAt "inventory_key" entries)
      (← defaultTextAt "api_group" entries)
      (← defaultTextAt "version" entries) (← textAt "resource_kind" entries)
        (← optionalTextAt "namespace" entries)
      (← textAt "name" entries)
  | "incident" =>
    guard (onlyKeys ["kind", "incident_id", "correlation_id"] entries)
    return .incident (← textAt "incident_id" entries) (← optionalTextAt "correlation_id" entries)
  | "application_workflow" =>
    guard (onlyKeys ["kind", "application_id", "binding_id", "workflow_run_id"] entries)
    return .applicationWorkflow (← textAt "application_id" entries) (← textAt "binding_id" entries)
      (← textAt "workflow_run_id" entries)
  | _ => none

end TimelineSubject

end json

section rows

/-- The columns of `timeline_ledger_events`. -/
structure LedgerRow where
  workspaceId : String
  sequence : Nat
  sourceKey : String
  eventId : String
  source : TimelineSource
  nativeId : String
  activity : TimelineActivity
  clusterId : String
  inNamespace : Option String
  freshness : Freshness
  eventType : TimelineEventType
  severity : TimelineSeverity
  title : String
  subject : Value
  resource : Value
  owner : Value
  metadata : Entries
  occurredAt : Int

/-- `getattr(subject, "namespace", None)`: a resource subject keeps its namespace in the
resource. -/
def TimelineSubject.namespaceAttribute : TimelineSubject → Option String
  | .inventoryLocator _ _ _ _ inNamespace _ => inNamespace
  | _ => none

def storedNamespace (event : TimelineEventFields) : Option String :=
  match event.resource with
  | some resource => resource.inNamespace
  | none => event.subject.namespaceAttribute

def eventValues (event : TimelineEventFields) (sequence : Nat) : LedgerRow where
  workspaceId := event.scope.workspaceId
  sequence := sequence
  sourceKey := event.sourceKey
  eventId := event.eventId
  source := event.source
  nativeId := event.nativeId
  activity := event.activity
  clusterId := event.scope.clusterId
  inNamespace := storedNamespace event
  freshness := event.scope.freshness
  eventType := event.eventType
  severity := event.severity
  title := event.title
  subject := event.subject.modelDump
  resource := ResourceRef.dumpOptional event.resource
  owner := ResourceRef.dumpOptional event.owner
  metadata := event.metadata
  occurredAt := event.occurredAt.instant

/-- `none` is a validation error. -/
def eventFromRow (row : LedgerRow) : Option TimelineEvent := do
  let subject ← TimelineSubject.modelValidate row.subject
  let resource ← ResourceRef.validateOptional row.resource
  let owner ← ResourceRef.validateOptional row.owner
  let fields : TimelineEventFields := {
    eventId :=
      row.eventId, source := row.source, sourceKey := row.sourceKey, nativeId := row.nativeId,
    activity := row.activity, occurredAt := ⟨row.occurredAt, true⟩,
    scope :=
      { workspaceId := row.workspaceId, clusterId := row.clusterId, freshness := row.freshness },
    subject, resource, eventType :=
      row.eventType, severity := row.severity, title := row.title, owner,
    metadata := row.metadata }
  if checked : fields.check = true then some ⟨fields, checked⟩ else none

/-- What the ledger keeps of an event: the namespaces of its scope are not stored, and its moment
comes back as an aware one. -/
def TimelineEvent.stored (event : TimelineEvent) : TimelineEvent where
  toTimelineEventFields := { event.toTimelineEventFields with
    scope := { event.scope with namespaces := [] }, occurredAt := ⟨event.occurredAt.instant, true⟩ }
  checked := event.checked

theorem ResourceRef.modelValidate_modelDump (ref : ResourceRef) :
    modelValidate ref.modelDump = some ref := by
  obtain ⟨apiGroup, version, kind, inNamespace, name, uid⟩ := ref
  cases inNamespace <;>
    simp [modelValidate, modelDump, dict?, onlyKeys, defaultTextAt, textAt, optionalTextAt, getKey,
      Entries.lookup, textValue, optionalTextValue, Scalar.same, Scalar.canonical]

theorem ResourceRef.validateOptional_dumpOptional (ref : Option ResourceRef) :
    validateOptional (dumpOptional ref) = some ref := by
  cases ref with
  | none => rfl
  | some ref =>
    have validated := modelValidate_modelDump ref
    unfold modelDump at validated
    simp only [dumpOptional, Option.elim_some, modelDump, validateOptional, validated,
      Option.map_some]

theorem TimelineSubject.modelValidate_modelDump (subject : TimelineSubject) :
    modelValidate subject.modelDump = some subject := by
  cases subject with
  | resource ref =>
    simp [modelValidate, modelDump, dict?, onlyKeys, textAt, getKey, getOrNone, Entries.lookup,
      textValue, Scalar.same, Scalar.canonical, ResourceRef.modelValidate_modelDump]
  | inventoryLocator inventoryKey apiGroup version resourceKind inNamespace name =>
    cases inNamespace <;>
      simp [modelValidate, modelDump, dict?, onlyKeys, textAt, defaultTextAt, optionalTextAt,
        getKey, Entries.lookup, textValue, optionalTextValue, Scalar.same, Scalar.canonical]
  | incident incidentId correlationId =>
    cases correlationId <;>
      simp [modelValidate, modelDump, dict?, onlyKeys, textAt, optionalTextAt, getKey,
        Entries.lookup, textValue, optionalTextValue, Scalar.same, Scalar.canonical]
  | applicationWorkflow applicationId bindingId workflowRunId =>
    simp [modelValidate, modelDump, dict?, onlyKeys, textAt, getKey, Entries.lookup, textValue,
      Scalar.same, Scalar.canonical]

theorem eventFromRow_eventValues (event : TimelineEvent) (sequence : Nat) :
    eventFromRow (eventValues event.toTimelineEventFields sequence) = some event.stored := by
  unfold eventFromRow
  simp only [eventValues, TimelineSubject.modelValidate_modelDump,
    ResourceRef.validateOptional_dumpOptional, Option.bind_eq_bind, Option.bind_some]
  exact dif_pos event.stored.checked

end rows

end K8sOps.Timeline
