import K8sOps.Python.Value
import K8sOps.Sql

/-! The ledger of alerts. Deliveries of one alert are merged into one row, which a later
incident reopens and a late notification of the same incident does not. -/
namespace K8sOps.Alert
open Python

inductive AlertStatus where
  | firing
  | resolved
  deriving DecidableEq

/-- What one notification says about an alert. -/
structure AlertPayload where
  eventId : String
  workspaceId : String
  ruleName : String
  source : String
  severity : String
  subjectKey : String
  subject : Value
  firedAt : Int
  resolvedAt : Option Int
  status : AlertStatus
  observedValue : Option Rat
  threshold : Option Rat
  seriesIdentity : Option Value
  evidence : Value
  incidentId : Option String

structure AlertEvent extends AlertPayload where
  acknowledgedAt : Option Int := none
  acknowledgedBy : Option String := none
  promotedAt : Option Int := none
  promotedBy : Option String := none

/-- The row that is inserted belongs to another incident than the stored one. -/
def incidentChanged (stored : AlertEvent) (excluded : AlertPayload) : Sql.Truth :=
  Sql.changed excluded.incidentId stored.incidentId

def resolvedIsTerminal (stored : AlertEvent) (excluded : AlertPayload) : Sql.Truth :=
  Sql.and (Sql.and (some (stored.status = .resolved)) (some (excluded.status ≠ .resolved)))
    (Sql.not (incidentChanged stored excluded))

/-- The event id and the time of firing stay as they were first stored. -/
def mergedAlertEvent (excluded : AlertPayload) (stored : AlertEvent) : AlertEvent :=
  let changed := incidentChanged stored excluded
  let terminal := resolvedIsTerminal stored excluded
  { stored with
    workspaceId := excluded.workspaceId
    ruleName := excluded.ruleName
    source := excluded.source
    severity := excluded.severity
    subjectKey := excluded.subjectKey
    subject := excluded.subject
    resolvedAt := Sql.case terminal stored.resolvedAt excluded.resolvedAt
    status := Sql.case terminal stored.status excluded.status
    observedValue := Sql.case terminal stored.observedValue excluded.observedValue
    threshold := Sql.case terminal stored.threshold excluded.threshold
    seriesIdentity := Sql.coalesce excluded.seriesIdentity stored.seriesIdentity
    evidence := Sql.case terminal stored.evidence excluded.evidence
    incidentId := Sql.coalesce excluded.incidentId stored.incidentId
    acknowledgedAt := Sql.case changed none stored.acknowledgedAt
    acknowledgedBy := Sql.case changed none stored.acknowledgedBy
    promotedAt := Sql.case changed none stored.promotedAt
    promotedBy := Sql.case changed none stored.promotedBy }

def upsertExternalAlertEvent (table : Sql.Table String AlertEvent) (payload : AlertPayload) :
    Sql.Table String AlertEvent :=
  Sql.upsert payload.eventId { payload with } (mergedAlertEvent payload) table

section merge
variable {stored : AlertEvent} {excluded : AlertPayload}

theorem incidentChanged_iff : incidentChanged stored excluded = some true ↔
    ∃ old new, stored.incidentId = some old ∧ excluded.incidentId = some new ∧ new ≠ old := by
  rw [incidentChanged, Sql.changed_eq]
  cases stored.incidentId <;> cases excluded.incidentId <;> simp

theorem incidentChanged_cases (stored : AlertEvent) (excluded : AlertPayload) :
    incidentChanged stored excluded = some true ∨ incidentChanged stored excluded = some false := by
  rw [incidentChanged, Sql.changed_eq]
  cases excluded.incidentId.isSome && stored.incidentId.isSome &&
    decide (excluded.incidentId ≠ stored.incidentId) <;> simp

theorem resolvedIsTerminal_iff : resolvedIsTerminal stored excluded = some true ↔
    stored.status = .resolved ∧ excluded.status = .firing ∧
    incidentChanged stored excluded ≠ some true := by
  have unresolved : excluded.status ≠ .resolved ↔ excluded.status = .firing := by
    cases excluded.status <;> decide
  rw [resolvedIsTerminal, Sql.and_true_iff, Sql.and_true_iff, Sql.not_true_iff, and_assoc]
  rcases incidentChanged_cases stored excluded with yes | no
  · simp [yes]
  · simp [no, unresolved]

end merge

section delivery

/-- The outcome that the resolved notifications of an alert agree on. -/
structure Resolution where
  resolvedAt : Option Int
  observedValue : Option Rat
  threshold : Option Rat
  evidence : Value

def AlertPayload.resolution (payload : AlertPayload) : Resolution :=
  ⟨payload.resolvedAt, payload.observedValue, payload.threshold, payload.evidence⟩

/-- What the row of an alert says after some notifications of one incident. -/
structure Delivered (incident : String) (resolution : Resolution) (payloads : List AlertPayload)
    (row : AlertEvent) : Prop where
  incidentId : row.incidentId =
    if payloads.any (·.incidentId = some incident) then some incident else none
  status : row.status = .resolved ↔ ∃ payload ∈ payloads, payload.status = .resolved
  resolution : row.status = .resolved → row.resolution = resolution

variable {incident : String} {resolution : Resolution} {payloads : List AlertPayload}
  {payload : AlertPayload} {row : AlertEvent}

theorem Delivered.first (incidents : payload.incidentId = none ∨ payload.incidentId = some incident)
    (agrees : payload.status = .resolved → payload.resolution = resolution) :
    Delivered incident resolution [payload] { payload with } where
  incidentId := by
    rcases incidents with missing | same
    · simp [missing]
    · simp [same]
  status := by simp
  resolution := agrees

/-- Notifications of one incident never change it. -/
theorem Delivered.unchanged (delivered : Delivered incident resolution payloads row)
    (incidents : payload.incidentId = none ∨ payload.incidentId = some incident) :
    incidentChanged row payload ≠ some true := by
  rw [Ne, incidentChanged_iff]
  rintro ⟨old, new, stored, excluded, different⟩
  rw [delivered.incidentId, Option.ite_none_right_eq_some] at stored
  rcases incidents with missing | same
  · cases missing.symm.trans excluded
  · cases stored.2
    cases same.symm.trans excluded
    exact different rfl

theorem Delivered.next (delivered : Delivered incident resolution payloads row)
    (incidents : payload.incidentId = none ∨ payload.incidentId = some incident)
    (agrees : payload.status = .resolved → payload.resolution = resolution) :
    Delivered incident resolution (payloads ++ [payload]) (mergedAlertEvent payload row) := by
  have unchanged := delivered.unchanged incidents
  have incidentId : (mergedAlertEvent payload row).incidentId =
      if (payloads ++ [payload]).any (·.incidentId = some incident) then some incident
      else none := by
    change payload.incidentId.or row.incidentId = _
    rw [delivered.incidentId]
    rcases incidents with missing | same
    · simp [missing]
    · simp [same]
  by_cases terminal : resolvedIsTerminal row payload = some true
  · obtain ⟨resolved, firing, _⟩ := resolvedIsTerminal_iff.mp terminal
    have status : (mergedAlertEvent payload row).status = row.status := if_pos terminal
    have kept : (mergedAlertEvent payload row).resolution = row.resolution := by
      simp only [mergedAlertEvent, AlertPayload.resolution, terminal, Sql.case_true]
    refine ⟨incidentId, ?_, fun _ => kept.trans (delivered.resolution resolved)⟩
    obtain ⟨earlier, member, isResolved⟩ := delivered.status.mp resolved
    rw [status]
    exact iff_of_true resolved ⟨earlier, List.mem_append_left _ member, isResolved⟩
  · have status : (mergedAlertEvent payload row).status = payload.status := if_neg terminal
    have taken : (mergedAlertEvent payload row).resolution = payload.resolution := by
      simp only [mergedAlertEvent, AlertPayload.resolution, Sql.case, if_neg terminal]
    rw [resolvedIsTerminal_iff] at terminal
    refine ⟨incidentId, ?_, fun resolved => taken.trans (agrees (status.symm.trans resolved))⟩
    rw [status]
    constructor
    · intro resolved
      exact ⟨payload, List.mem_append_right _ (List.mem_singleton_self _), resolved⟩
    · rintro ⟨earlier, member, isResolved⟩
      rcases List.mem_append.mp member with before | last
      · by_contra firing
        have isFiring : payload.status = .firing := by
          cases found : payload.status with
          | firing => rfl
          | resolved => exact absurd found firing
        exact terminal ⟨delivered.status.mpr ⟨earlier, before, isResolved⟩, isFiring, unchanged⟩
      · cases List.mem_singleton.mp last
        exact isResolved

theorem delivered_all {table : Sql.Table String AlertEvent} {eventId : String}
    (absent : table eventId = none) (nonempty : payloads ≠ [])
    (one : ∀ payload ∈ payloads, payload.eventId = eventId)
    (incidents : ∀ payload ∈ payloads, payload.incidentId = none ∨
      payload.incidentId = some incident)
    (agree : ∀ payload ∈ payloads, payload.status = .resolved → payload.resolution = resolution) :
    ∃ row, payloads.foldl upsertExternalAlertEvent table eventId = some row ∧
      Delivered incident resolution payloads row := by
  induction payloads using List.reverseRecOn with
  | nil => exact absurd rfl nonempty
  | append_singleton payloads last ih =>
    have isLast : last ∈ payloads ++ [last] := List.mem_append_right _ (List.mem_singleton_self _)
    have earlier {payload : AlertPayload} (member : payload ∈ payloads) :
        payload ∈ payloads ++ [last] :=
      List.mem_append_left _ member
    rw [List.foldl_concat, upsertExternalAlertEvent, one last isLast, Sql.upsert_self]
    by_cases start : payloads = []
    · subst start
      rw [List.foldl_nil, absent]
      exact ⟨_, rfl, .first (incidents last isLast) (agree last isLast)⟩
    · obtain ⟨row, stored, delivered⟩ :=
        ih start (fun payload member => one payload (earlier member))
        (fun payload member => incidents payload (earlier member)) fun payload member =>
          agree payload (earlier member)
      rw [stored]
      exact ⟨_, rfl, delivered.next (incidents last isLast) (agree last isLast)⟩

/-- Within one incident the order and the repetition of notifications do not matter: one
resolved notification resolves the alert for good. -/
theorem deliveries_converge (table : Sql.Table String AlertEvent) (eventId incident : String)
    (resolution : Resolution) (payloads : List AlertPayload) (absent : table eventId = none)
    (one : ∀ payload ∈ payloads, payload.eventId = eventId)
    (incidents : ∀ payload ∈ payloads, payload.incidentId = none ∨
      payload.incidentId = some incident)
    (resolved : ∃ payload ∈ payloads, payload.status = .resolved)
    (agree : ∀ payload ∈ payloads, payload.status = .resolved → payload.resolution = resolution) :
    ∃ row, payloads.foldl upsertExternalAlertEvent table eventId = some row ∧
      row.status = .resolved ∧ row.resolution = resolution ∧
      row.incidentId = if payloads.any (·.incidentId = some incident) then some incident
    else none := by
  have nonempty : payloads ≠ [] := by
    obtain ⟨payload, member, _⟩ := resolved
    exact List.ne_nil_of_mem member
  obtain ⟨row, stored, delivered⟩ := delivered_all absent nonempty one incidents agree
  have isResolved := delivered.status.mpr resolved
  exact ⟨row, stored, isResolved, delivered.resolution isResolved, delivered.incidentId⟩

section sample

def samplePayload (status : AlertStatus) (incidentId : Option String) : AlertPayload where
  eventId := "ale-am-1"
  workspaceId := "workspace"
  ruleName := "Failures"
  source := "alertmanager"
  severity := "warning"
  subjectKey := "subject"
  subject := .dict []
  firedAt := 0
  resolvedAt := if status = .resolved then some 60 else none
  status := status
  observedValue := none
  threshold := none
  seriesIdentity := none
  evidence := .list []
  incidentId := incidentId

/-- A resolved notification without an incident, overtaken by a firing one. -/
theorem deliveries_converge_late :
    ∃ row, [samplePayload .resolved none,
      samplePayload .firing (some "incident")].foldl upsertExternalAlertEvent
        (fun _ => none) "ale-am-1" = some row ∧ row.status = .resolved ∧ row.resolvedAt = some 60 ∧
      row.incidentId = some "incident" := by
  obtain ⟨row, stored, status, resolution, incidentId⟩ :=
    deliveries_converge (fun _ => none) "ale-am-1" "incident"
    (samplePayload .resolved none).resolution [samplePayload .resolved none,
      samplePayload .firing (some "incident")]
    rfl (by simp [samplePayload]) (by simp [samplePayload]) (by simp [samplePayload])
    (by simp [samplePayload, AlertPayload.resolution])
  exact ⟨row, stored, status, congrArg Resolution.resolvedAt resolution, incidentId⟩

end sample

end delivery

end K8sOps.Alert
