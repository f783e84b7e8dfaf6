import Mathlib.Data.List.Sort
import Mathlib.Data.String.Basic
import K8sOps.Python.Convert

/-! Evidence of an alert and of an agent about the same failure. Whichever of the two
windows is processed looks for the other one in the database and joins it: the repository
reads the windows that are near in time, and the worker checks identity and distance once
more. -/
namespace K8sOps.Rca.Alignment
open Python

/-- The conversions that the worker uses. -/
structure EvidenceTexts where
  codec : Codec
  /-- `str(value)`. -/
  toText : Value → String
  toText_str (text : String) : toText (.scalar (.str text)) = text
  casefold_empty (text : String) : codec.casefold text = "" ↔ text = ""
  fromIsoformat_empty : codec.fromIsoformat "" = none
  /-- Blanks around a time do not change it. -/
  fromIsoformat_strip (text : String) : codec.fromIsoformat text = some moment →
    codec.fromIsoformat (strip text) = some moment

structure SliIdentity where
  «namespace» : String
  resourceKind : String
  resourceName : String
  service : String
  sli : String
  symptom : String
  deriving DecidableEq

/-- `all(identity)`. -/
def SliIdentity.complete (identity : SliIdentity) : Bool :=
  identity.namespace ≠ "" && identity.resourceKind ≠ "" && identity.resourceName ≠ "" &&
    identity.service ≠ "" && identity.sli ≠ "" && identity.symptom ≠ ""

/-- A body of received evidence. -/
structure ClusterEvidence where
  clusterId : String
  kubernetes : Entries
  metrics : Entries
  logs : List Value
  traces : Entries
  workspaceId : String
  sourceId : Option String
  windowStart : Option String
  collectionStatus : Entries
  metadata : Entries

/-- A stored window, with the columns that the join reads. -/
structure WindowRow where
  evidenceKey : String
  workspaceId : String
  clusterId : String
  sourceId : String
  windowStart : String
  agentId : Option String
  payload : Value
  updatedAt : Int

def alertmanagerSourceId : String := "alertmanager-webhook"
def alignedEvidenceBeforeSeconds : Int := 600
def alignedEvidenceAfterSeconds : Int := 60
def alignedEvidenceLimit : Int := 12

/-- Times are in microseconds. -/
def seconds (count : Int) : Int := count * 1000000

variable (texts : EvidenceTexts)

section identity

/-- `str(entries.get(key) or "")`. -/
def optionalText (key : String) (entries : Entries) : String :=
  let value := getOrNone key entries
  if truthy value then texts.toText value else ""

def labelIdentity (label : String → String) (labels : Entries) : SliIdentity where
  «namespace» := strip (optionalText texts (label "namespace") labels)
  resourceKind := strip (optionalText texts (label "resource_kind") labels)
  resourceName := strip (optionalText texts (label "resource_name") labels)
  service := strip (optionalText texts (label "service") labels)
  sli := strip (optionalText texts (label "sli") labels)
  symptom := strip (optionalText texts (label "symptom") labels)

def SliIdentity.normalized (identity : SliIdentity) : SliIdentity :=
  { identity with resourceKind := texts.codec.casefold identity.resourceKind }

def sameSliIdentity (left right : SliIdentity) : Bool :=
  left.namespace = right.namespace &&
    texts.codec.casefold left.resourceKind = texts.codec.casefold right.resourceKind &&
    left.resourceName = right.resourceName && left.service = right.service &&
      left.sli = right.sli &&
    left.symptom = right.symptom

/-- The identity of a firing alert of the standard rule. -/
def alertIdentity (alert : Value) : Option SliIdentity :=
  (dict? alert).bind fun alert =>
    if optionalText texts "status" alert ≠ "firing" then none
    else (dict? (getOrNone "labels" alert)).bind fun labels =>
      if optionalText texts "alertname" labels ≠ "KyroSliFailureRatioHigh" then none
      else
        let identity := labelIdentity texts ("kyro_" ++ ·) labels
        if identity.complete then some identity else none

/-- Alerts that differ only in the spelling of the kind count once; the last one names it. -/
def standardSliIdentity (metrics : Entries) : Option SliIdentity :=
  let alerts := (list? (getOrNone "alerts" (asMapping (getOrNone "alertmanager" metrics)))).getD []
  let identities := (alerts.filterMap (alertIdentity texts)).map fun identity =>
    (identity.normalized texts, identity)
  match Dict.ofPairs identities with
  | [(_, identity)] => some identity
  | _ => none

def metricSamples (result : Entries) : List Entries :=
  ((["samples", "result", "data"].findSome? fun key => list? (getOrNone key result)).getD
    []).filterMap dict?

def observedIdentities (metrics : Entries) : List SliIdentity :=
  let results := asMapping (getOrNone "results" metrics)
  match getOrNone "kyro_sli_failure_ratio" results with
  | .dict result =>
    ((metricSamples result).filterMap fun sample => dict? (getOrNone "metric" sample)).map
      (labelIdentity texts id)
  | _ => []

def standardSliResultIdentities (metrics : Entries) : List SliIdentity :=
  (observedIdentities texts metrics).filter (·.complete)

def payloadMatchesSliIdentity (payload : Entries) (identity : SliIdentity) : Bool :=
  (observedIdentities texts (asMapping (getOrNone "metrics" payload))).any fun observed =>
    sameSliIdentity texts observed identity

def evidenceResource (key : String) (kubernetes : Entries) : String :=
  match getKey key (asMapping (getOrNone "resource" kubernetes)) with
  | some value => strip (texts.toText value)
  | none => ""

def sliIdentityMatchesIncident (identity : SliIdentity) (kubernetes : Entries) : Bool :=
  let resource := fun key => evidenceResource texts key kubernetes
  if resource "namespace" = "" || resource "kind" = "" || resource "name" = "" then false
  else
    let symptom := strip (optionalText texts "symptom" kubernetes)
    identity.namespace = resource "namespace" &&
      texts.codec.casefold identity.resourceKind = texts.codec.casefold (resource "kind") &&
      identity.resourceName = resource "name" && (symptom = "" || identity.symptom = symptom)

end identity

section windows

def parseTimestamp (text : String) : Option Int := texts.codec.fromIsoformat (strip text)

/-- The columns and the payload must agree. -/
def trustedWindowTime (row : WindowRow) (payload : Entries) : Option Int :=
  match parseTimestamp texts row.windowStart,
    parseTimestamp texts (optionalText texts "window_start" payload) with
  | some rowTime, some payloadTime => if rowTime = payloadTime then some rowTime else none
  | _, _ => none

/-- How far a stored window is from the time of the event, if it is not too far. -/
def windowDistance (row : WindowRow) (payload : Entries) (startedAt : String) : Option Nat :=
  match parseTimestamp texts startedAt, trustedWindowTime texts row payload with
  | some eventTime, some windowTime =>
    let distance := eventTime - windowTime
    if -seconds alignedEvidenceAfterSeconds ≤ distance ∧
        distance ≤ seconds alignedEvidenceBeforeSeconds then
      some distance.natAbs
    else none
  | _, _ => none

def alignedWindowDistanceSeconds (row : WindowRow) (payload : Entries)
    (alertStartedAt : String) : Option Nat :=
  windowDistance texts row payload alertStartedAt

/-- The sign of the distance is taken as in the other direction. -/
def inverseWindowDistanceSeconds (row : WindowRow) (payload : Entries)
    (agentWindowStart : String) : Option Nat :=
  windowDistance texts row payload agentWindowStart

/-- Two windows at the same distance are ambiguous. -/
def uniqueNearestWindow (candidates : List (Nat × Entries × String)) : Option (Entries × String) :=
  (candidates.map Prod.fst).min?.bind fun nearest =>
    match candidates.filter fun candidate => candidate.1 = nearest with
    | [candidate] => some candidate.2
    | _ => none

/-- `ORDER BY updated_at DESC, evidence_key DESC`. -/
def WindowRow.isBefore (one two : WindowRow) : Prop :=
  two.updatedAt < one.updatedAt ∨ one.updatedAt = two.updatedAt ∧ two.evidenceKey ≤ one.evidenceKey

instance : DecidableRel WindowRow.isBefore := fun _ _ => inferInstanceAs (Decidable (_ ∨ _))

/-- The windows of a cluster that were updated around a time, which is read as it is. -/
def listWindows (rows : List WindowRow) (workspaceId clusterId observedAt : String)
    (wanted : WindowRow → Bool) (before after limit : Int) : List WindowRow :=
  match texts.codec.fromIsoformat observedAt with
  | none => []
  | some observed =>
    let near := rows.filter fun row => row.workspaceId = workspaceId && row.clusterId = clusterId &&
      wanted row &&
      observed - seconds before ≤ row.updatedAt && row.updatedAt ≤ observed + seconds after
    ((near.insertionSort WindowRow.isBefore).take (max 1 (min limit 50)).toNat).filter fun row =>
      (dict? row.payload).isSome

def listAlignedEvidenceWindowPayloads (rows : List WindowRow)
    (workspaceId clusterId observedAt excludeSourceId : String)
    (beforeSeconds afterSeconds limit : Int) : List WindowRow :=
  listWindows texts rows workspaceId clusterId observedAt
    (fun row => row.sourceId ≠ excludeSourceId && row.agentId.isSome)
    (max 0 (min beforeSeconds 3600)) (max 0 (min afterSeconds 300)) limit

def listAlignedAlertmanagerWindowPayloads (rows : List WindowRow)
    (workspaceId clusterId observedAt sourceId : String)
    (beforeSeconds afterSeconds limit : Int) : List WindowRow :=
  listWindows texts rows workspaceId clusterId observedAt (fun row => row.sourceId = sourceId)
    (max 0 (min beforeSeconds 300)) (max 0 (min afterSeconds 3600)) limit

end windows

section join

def rowEvidenceKey (row : WindowRow) (payload : Entries) : String :=
  strip (if row.evidenceKey ≠ "" then row.evidenceKey
else optionalText texts "evidence_key" payload)

/-- A row that passes the test of its payload and is near enough. -/
def candidate (test : Entries → Bool) (distance : WindowRow → Entries → Option Nat)
    (row : WindowRow) : Option (Nat × Entries × String) :=
  (dict? row.payload).bind fun payload =>
    if test payload then
      (distance row payload).bind fun distance =>
        let evidenceKey := rowEvidenceKey texts row payload
        if evidenceKey ≠ "" then some (distance, payload, evidenceKey) else none
    else none

/-- The window of an agent that an alert is joined with. -/
def alignedAgentWindow (rows : List WindowRow) (evt : ClusterEvidence) (windowStart : String) :
    Option (Entries × String) :=
  (standardSliIdentity texts evt.metrics).bind fun identity =>
    if sliIdentityMatchesIncident texts identity evt.kubernetes then
      uniqueNearestWindow
        ((listAlignedEvidenceWindowPayloads texts rows evt.workspaceId evt.clusterId windowStart
        alertmanagerSourceId alignedEvidenceBeforeSeconds alignedEvidenceAfterSeconds
          alignedEvidenceLimit).filterMap
          (candidate texts (payloadMatchesSliIdentity texts · identity)
            (alignedWindowDistanceSeconds texts · · windowStart)))
    else none

/-- An alert's window about one of the identities that the agent has seen. -/
def alertMatches (identities : List SliIdentity) (payload : Entries) : Bool :=
  match getOrNone "metrics" payload with
  | .dict metrics =>
    match standardSliIdentity texts metrics with
    | some alertIdentity =>
      identities.any (sameSliIdentity texts alertIdentity) &&
        match getOrNone "kubernetes" payload with
        | .dict kubernetes => sliIdentityMatchesIncident texts alertIdentity kubernetes
        | _ => false
    | none => false
  | _ => false

/-- The window of an alert that an agent's evidence is joined with. The two bounds are
passed the other way round. -/
def alignedAlertWindow (rows : List WindowRow) (evt : ClusterEvidence) (windowStart : String) :
    Option (Entries × String) :=
  let identities := standardSliResultIdentities texts evt.metrics
  if identities.isEmpty then none
  else
    uniqueNearestWindow
      ((listAlignedAlertmanagerWindowPayloads texts rows evt.workspaceId evt.clusterId windowStart
      alertmanagerSourceId alignedEvidenceAfterSeconds alignedEvidenceBeforeSeconds
        alignedEvidenceLimit).filterMap
        (candidate texts (alertMatches texts identities)
          (inverseWindowDistanceSeconds texts · · windowStart)))

/-- `value not in (None, "", [], {})`. -/
def isPresent : Value → Bool
  | .scalar .none | .scalar (.str "") | .list [] | .dict [] => false
  | _ => true

def jsonText (value : String) : Value := .scalar (.str value)

/-- The alert keeps its resource and takes over what the agent has collected. -/
def mergeAlignedEvidence (alertEvt : ClusterEvidence) (payload : Entries)
    (evidenceKey : String) : ClusterEvidence :=
  let metrics := asMapping (getOrNone "metrics" payload)
  let refs :=
    (["logs", "traces"].filter fun source => isPresent (getOrNone source payload)).map fun source =>
    (Scalar.str source, jsonText evidenceKey)
  let metadata := Entries.assign (.str "aligned_evidence_refs") (.dict refs)
    (asMapping (getOrNone "metadata" payload))
  { alertEvt with
    metrics :=
      Entries.assign (.str "alertmanager") (getOrNone "alertmanager" alertEvt.metrics) metrics
    logs := ((list? (getOrNone "logs" payload)).getD []).filter fun item => (dict? item).isSome
    traces := asMapping (getOrNone "traces" payload)
    metadata :=
      Entries.assign (.str "aligned_evidence") (.dict [(.str "evidence_key", jsonText evidenceKey),
        (.str "source_id", jsonText (optionalText texts "source_id" payload)),
      (.str "window_start", jsonText (optionalText texts "window_start" payload)),
      (.str "join", jsonText "workspace_cluster_time_standard_sli_identity")]) metadata
    collectionStatus := (dict? (getOrNone "collection_status" payload)).getD
      alertEvt.collectionStatus }

/-- The agent's evidence takes over what the alert says about the incident. -/
def mergeAlertmanagerEvidence (agentEvt : ClusterEvidence) (alertPayload : Entries)
    (evidenceKey : String) : ClusterEvidence :=
  match getOrNone "alertmanager" (asMapping (getOrNone "metrics" alertPayload)),
    getOrNone "kubernetes" alertPayload with
  | .dict alertmanager, .dict alertKubernetes =>
    let kubernetes := ["resource", "symptom", "severity", "category"].foldl (fun kubernetes key =>
      if isPresent (getOrNone key alertKubernetes) then
        Entries.assign (.str key) (getOrNone key alertKubernetes) kubernetes
      else kubernetes) agentEvt.kubernetes
    let refs := Entries.assign (.str "metrics") (jsonText evidenceKey)
      (asMapping (getOrNone "aligned_evidence_refs" agentEvt.metadata))
    { agentEvt with
      kubernetes
      metrics := Entries.assign (.str "alertmanager") (.dict alertmanager) agentEvt.metrics
      metadata := Entries.assign (.str "aligned_alertmanager_evidence")
        (.dict [(.str "evidence_key", jsonText evidenceKey),
          (.str "window_start", jsonText (optionalText texts "window_start" alertPayload)),
        (.str "join", jsonText "workspace_cluster_time_standard_sli_identity")])
          (Entries.assign (.str "aligned_evidence_refs") (.dict refs) agentEvt.metadata) }
  | _, _ => agentEvt

/-- The window that an event is joined with. -/
def alignedWindow (rows : List WindowRow) (evt : ClusterEvidence) : Option (Entries × String) :=
  match evt.windowStart with
  | none | some "" => none
  | some windowStart =>
    if evt.sourceId ≠ some alertmanagerSourceId then alignedAlertWindow texts rows evt windowStart
    else alignedAgentWindow texts rows evt windowStart

def attachAlignedClusterEvidence (rows : List WindowRow)
    (evt : ClusterEvidence) : ClusterEvidence :=
  match alignedWindow texts rows evt with
  | none => evt
  | some (payload, evidenceKey) =>
    if evt.sourceId ≠ some alertmanagerSourceId then
      mergeAlertmanagerEvidence texts evt payload evidenceKey
    else mergeAlignedEvidence texts evt payload evidenceKey

end join

end K8sOps.Rca.Alignment
