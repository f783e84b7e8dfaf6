import Mathlib.Data.Fintype.Basic
import K8sOps.Alert.EvidenceStory
import K8sOps.Alert.GroupKey
import K8sOps.Alert.Ledger

/-! Concurrent deliveries of an alert group. A delivery reads the evidence window, records or
rotates it and then writes the alerts with the incident that it found. Nothing ties the
write to the window, so a delivery that is late puts an alert back to an incident that the
window has left. -/
namespace K8sOps.Alert
open Python Text Transition

/-- An alert as it was sent, with the columns that are derived from its labels. -/
structure NotifiedAlert extends AlertmanagerAlert where
  event : AlertPayload

structure WebhookRequest where
  alerts : List NotifiedAlert
  values : WindowValues

/-- Whether the incident of a window is still worked on. -/
inductive Disposition where
  | active
  | pending
  | terminal
  | orphan

def Disposition.reopens : Disposition → Bool
  | .terminal | .orphan => true
  | .active | .pending => false

section calls

/-- The call as one transaction: the new windows, and the pair that the key has then. -/
def recordEvidenceEventOnce (evidenceKey : String) (values : WindowValues) (now : Int)
    (windows : Sql.Table String EvidenceWindow) :
    Sql.Table String EvidenceWindow × (String × String) :=
  match windows evidenceKey with
  | none => (Sql.insertIgnore evidenceKey (values.newRow now) windows, envelopeIds values.trusted)
  | some existing => (windows, existing.ids)

def rotateAlertmanagerEvidenceWindow (digest : String → String) (evidenceKey : String)
    (expected : String × String) (values : WindowValues) (now : Int)
    (windows : Sql.Table String EvidenceWindow) :
    Sql.Table String EvidenceWindow × (String × String) :=
  match windows evidenceKey with
  | none => (Sql.insertIgnore evidenceKey (values.newRow now) windows, envelopeIds values.trusted)
  | some current =>
    if current.ids = expected then
      (replaceWindow evidenceKey expected values now (archive digest evidenceKey current windows),
        envelopeIds values.trusted)
    else (windows, current.ids)

def buildAlertmanagerAlertEvent (letters : LowerCase) (alert : NotifiedAlert)
    (incidentId : Option String) : AlertPayload :=
  { alert.event with
    status := if letters.lower (strip alert.status) = "resolved" then .resolved else .firing
    incidentId := incidentId }

end calls

section machine

/-- How far a delivery has got. -/
inductive RequestPhase where
  | received
  | looked (existing : Option (String × String))
  | reopening (existing : String × String)
  | persisting (incidentId : Option String) (alerts : List NotifiedAlert)

structure WebhookWorld (ι : Type) where
  windows : Sql.Table String EvidenceWindow
  alerts : Sql.Table String AlertEvent
  phase : ι → RequestPhase

def WebhookWorld.initial : WebhookWorld ι := ⟨fun _ => none, fun _ => none, fun _ => .received⟩

/-- A delivery goes on, with the disposition and the time that it would read, or an
operator acknowledges an alert. -/
inductive WebhookLabel (ι : Type) where
  | advance (index : ι) (disposition : Disposition) (now : Int)
  | acknowledge (eventId : String) (time : Int) (operator : String)

variable {ι : Type} [DecidableEq ι] (letters : LowerCase) (digest : String → String)
  (evidenceKey : String) (requests : ι → WebhookRequest)

def WebhookWorld.enter (world : WebhookWorld ι) (index : ι)
    (phase : RequestPhase) : WebhookWorld ι :=
  { world with phase := Function.update world.phase index phase }

/-- The window is recorded or rotated, and its correlation is the incident of the alerts. -/
def WebhookWorld.resolve (world : WebhookWorld ι) (index : ι) (alerts : List NotifiedAlert)
    (recorded : Sql.Table String EvidenceWindow × (String × String)) : WebhookWorld ι :=
  { world.enter index (.persisting (some recorded.2.2) alerts) with windows := recorded.1 }

def alertmanagerWebhook (world : WebhookWorld ι) (index : ι) (disposition : Disposition)
    (now : Int) : Option (WebhookWorld ι) :=
  let request := requests index
  match world.phase index with
  | .received =>
    if request.alerts.any (·.countsAsFiring letters) then
      some (world.enter index (.looked ((world.windows evidenceKey).map EvidenceWindow.ids)))
    else some (world.enter index (.persisting none request.alerts))
  | .looked none =>
    some (world.resolve index request.alerts
      (recordEvidenceEventOnce evidenceKey request.values now world.windows))
  | .looked (some existing) =>
    if disposition.reopens then some (world.enter index (.reopening existing))
    else some (world.enter index (.persisting (some existing.2) request.alerts))
  | .reopening existing =>
    some (world.resolve index request.alerts
      (rotateAlertmanagerEvidenceWindow digest evidenceKey existing request.values
        now world.windows))
  | .persisting _ [] => none
  | .persisting incidentId (alert :: alerts) =>
    some { world.enter index (.persisting incidentId alerts) with
      alerts := upsertExternalAlertEvent world.alerts
        (buildAlertmanagerAlertEvent letters alert incidentId) }

def acknowledgeAlert (world : WebhookWorld ι) (eventId : String) (time : Int)
    (operator : String) : WebhookWorld ι :=
  { world with
    alerts := Function.update world.alerts eventId ((world.alerts eventId).map fun row =>
      { row with acknowledgedAt := some time, acknowledgedBy := some operator }) }

def nextDelivery (world : WebhookWorld ι) : WebhookLabel ι → Option (WebhookWorld ι)
  | .advance index disposition now =>
    alertmanagerWebhook letters digest evidenceKey requests world index disposition now
  | .acknowledge eventId time operator => some (acknowledgeAlert world eventId time operator)

end machine

section schedule
variable {ι : Type} [DecidableEq ι] {letters : LowerCase} {digest : String → String}
  {evidenceKey : String} {requests : ι → WebhookRequest} {s t : WebhookWorld ι}
  {label : WebhookLabel ι}

def WebhookWorld.correlation (evidenceKey : String) (world : WebhookWorld ι) : Option String :=
  (world.windows evidenceKey).map EvidenceWindow.correlationId

/-- The incident that a delivery has found for its alerts, and the alerts it has yet to write. -/
def RequestPhase.pending (request : WebhookRequest) :
    RequestPhase → Option String × List NotifiedAlert
  | .looked existing => (existing.map Prod.snd, request.alerts)
  | .persisting incidentId alerts => (incidentId, alerts)
  | .received | .reopening _ => (none, [])

/-- The correlation that a delivery is about to replace. -/
def RequestPhase.rotates : RequestPhase → Option String
  | .reopening existing => some existing.2
  | _ => none

/-- A delivery that found the incident has yet to write the alert. -/
def Owes (requests : ι → WebhookRequest) (eventId incident : String) (world : WebhookWorld ι)
    (index : ι) : Prop :=
  ((world.phase index).pending (requests index)).1 = some incident ∧
    ∃ alert ∈ ((world.phase index).pending (requests index)).2, alert.event.eventId = eventId

instance (world : WebhookWorld ι) (index : ι) (eventId incident : String) :
    Decidable (Owes requests eventId incident world index) :=
  inferInstanceAs (Decidable (_ ∧ ∃ alert ∈ _, _ = _))

/-- The key is not rotated while a delivery that found its correlation has yet to write the
alert. -/
def Patient (requests : ι → WebhookRequest) (eventId : String) (world : WebhookWorld ι) :
    WebhookLabel ι → Prop
  | .acknowledge .. => True
  | .advance index _ _ =>
    ∀ incident ∈ (world.phase index).rotates, ∀ other, ¬Owes requests eventId incident world other

instance [Fintype ι] (world : WebhookWorld ι) (eventId : String) :
    ∀ label, Decidable (Patient requests eventId world label)
  | .acknowledge .. => .isTrue trivial
  | .advance .. => inferInstanceAs (Decidable (∀ incident ∈ _, ∀ other, ¬Owes _ _ incident _ other))

def IsPersisting (phase : RequestPhase) : Prop :=
  ∃ incidentId alerts, phase = .persisting incidentId alerts

def WebhookRequest.correlationId (request : WebhookRequest) :
    String := request.values.envelope.correlationId

/-- What a call leaves at the key: the pair that it returns, which was there or is new. A new
one takes the place of nothing or of the expected one. -/
structure Leaves (evidenceKey correlationId : String) (expected : Option String)
    (windows : Sql.Table String EvidenceWindow)
    (recorded : Sql.Table String EvidenceWindow × (String × String)) : Prop where
  live : (recorded.1 evidenceKey).map EvidenceWindow.correlationId = some recorded.2.2
  moved : recorded.1 evidenceKey = windows evidenceKey ∨ recorded.2.2 = correlationId ∧
    ((windows evidenceKey).map EvidenceWindow.correlationId = none ∨
      (windows evidenceKey).map EvidenceWindow.correlationId = expected)

theorem leaves_insert {windows : Sql.Table String EvidenceWindow}
    (absent : windows evidenceKey = none) (values : WindowValues) (now : Int) :
    Leaves evidenceKey values.envelope.correlationId expected windows
      (Sql.insertIgnore evidenceKey (values.newRow now) windows, envelopeIds values.trusted) := by
  refine ⟨?_, .inr ⟨rfl, .inl (congrArg (Option.map _) absent)⟩⟩
  rw [insertIgnore_new absent]
  change (Function.update windows evidenceKey (some (values.newRow now)) evidenceKey).map _ = _
  rw [Function.update_self]
  rfl

theorem leaves_current {windows : Sql.Table String EvidenceWindow}
    (found : windows evidenceKey = some current) :
    Leaves evidenceKey correlationId expected windows (windows, current.ids) :=
  ⟨congrArg (Option.map _) found, .inl rfl⟩

theorem recordEvidenceEventOnce_leaves (values : WindowValues) (now : Int)
    (windows : Sql.Table String EvidenceWindow) :
    Leaves evidenceKey values.envelope.correlationId none windows
      (recordEvidenceEventOnce evidenceKey values now windows) := by
  rw [recordEvidenceEventOnce]
  cases found : windows evidenceKey with
  | none => exact leaves_insert found values now
  | some existing => exact leaves_current found

theorem rotateAlertmanagerEvidenceWindow_leaves (expected : String × String) (values : WindowValues)
    (now : Int) (windows : Sql.Table String EvidenceWindow) :
    Leaves evidenceKey values.envelope.correlationId (some expected.2) windows
      (rotateAlertmanagerEvidenceWindow digest evidenceKey expected values now windows) := by
  rw [rotateAlertmanagerEvidenceWindow]
  cases found : windows evidenceKey with
  | none => exact leaves_insert found values now
  | some current =>
    dsimp only
    split
    next same =>
      have archived : archive digest evidenceKey current windows evidenceKey = some current := by
        rw [archive, Sql.insertIgnore, Function.update_of_ne (historyKey_ne current.ids).symm]
        exact found
      refine ⟨?_, .inr ⟨rfl, .inr ?_⟩⟩
      · dsimp only
        rw [replaceWindow, Function.update_self, archived, Option.map_some, if_pos same]
        rfl
      · rw [found, ← same]
        rfl
    next => exact leaves_current found

/-- What a step can do to the window and to the alerts, and what the delivery owes then. -/
inductive Delivers (letters : LowerCase) (evidenceKey : String) (requests : ι → WebhookRequest)
    (s t : WebhookWorld ι) : WebhookLabel ι → Prop where
  | looks (before : ¬IsPersisting (s.phase index))
      (others : ∀ other ≠ index, t.phase other = s.phase other)
      (after : ((t.phase index).pending (requests index)).1 = none ∨
        ((t.phase index).pending (requests index)).1 = s.correlation evidenceKey ∨
        (t.phase index).pending (requests index) = (s.phase index).pending (requests index))
      (windows : t.windows = s.windows) (alerts : t.alerts = s.alerts) :
      Delivers letters evidenceKey requests s t (.advance index disposition now)
  | resolves (before : ¬IsPersisting (s.phase index))
      (others : ∀ other ≠ index, t.phase other = s.phase other)
      (after : t.phase index = .persisting (t.correlation evidenceKey) (requests index).alerts)
      (alerts : t.alerts = s.alerts)
      (correlation : t.correlation evidenceKey = s.correlation evidenceKey ∨
        t.correlation evidenceKey = some (requests index).correlationId ∧
          (s.correlation evidenceKey = none ∨
            s.correlation evidenceKey = (s.phase index).rotates)) :
      Delivers letters evidenceKey requests s t (.advance index disposition now)
  | writes (before : s.phase index = .persisting incidentId (alert :: alerts))
      (others : ∀ other ≠ index, t.phase other = s.phase other)
        (after : t.phase index = .persisting incidentId alerts)
      (windows : t.windows = s.windows) (written : t.alerts =
        upsertExternalAlertEvent s.alerts (buildAlertmanagerAlertEvent letters alert incidentId)) :
      Delivers letters evidenceKey requests s t (.advance index disposition now)
  | acknowledges (result : t = acknowledgeAlert s eventId time operator) :
      Delivers letters evidenceKey requests s t (.acknowledge eventId time operator)

theorem resolve_delivers {index : ι}
    {recorded : Sql.Table String EvidenceWindow × (String × String)}
    (before : ¬IsPersisting (s.phase index))
    (leaves : Leaves evidenceKey (requests index).correlationId (s.phase index).rotates
      s.windows recorded) :
    Delivers letters evidenceKey requests s (s.resolve index (requests index).alerts recorded)
      (.advance index disposition now) := by
  refine .resolves before (fun other different => Function.update_of_ne different ..) ?_ rfl ?_
  · have live : (s.resolve index (requests index).alerts recorded).correlation evidenceKey =
        some recorded.2.2 :=
      leaves.live
    rw [live]
    exact Function.update_self ..
  · refine leaves.moved.imp (congrArg (Option.map _)) fun ⟨new, replaced⟩ => ⟨?_, replaced⟩
    rw [← new]
    exact leaves.live

theorem nextDelivery_delivers
    (steps : nextDelivery letters digest evidenceKey requests s label = some t) :
    Delivers letters evidenceKey requests s t label := by
  cases label with
  | acknowledge eventId time operator =>
    cases steps
    exact .acknowledges rfl
  | advance index disposition now =>
    have others {phase : RequestPhase} :
        ∀ other ≠ index, (s.enter index phase).phase other = s.phase other :=
      fun other different => Function.update_of_ne different ..
    have entered {phase : RequestPhase} : (s.enter index phase).phase index = phase :=
      Function.update_self ..
    rw [nextDelivery, alertmanagerWebhook] at steps
    split at steps
    next received =>
      have before : ¬IsPersisting (s.phase index) := by simp [received, IsPersisting]
      split at steps
      · cases steps
        refine .looks before others (.inr (.inl ?_)) rfl rfl
        rw [entered, WebhookWorld.correlation]
        cases s.windows evidenceKey <;> rfl
      · cases steps
        exact .looks before others (.inl (by rw [entered]; rfl)) rfl rfl
    next looked =>
      cases steps
      refine resolve_delivers (by simp [looked, IsPersisting]) ?_
      rw [looked]
      exact recordEvidenceEventOnce_leaves ..
    next looked =>
      have before : ¬IsPersisting (s.phase index) := by simp [looked, IsPersisting]
      split at steps
      · cases steps
        exact .looks before others (.inl (by rw [entered]; rfl)) rfl rfl
      · cases steps
        exact .looks before others (.inr (.inr (by rw [entered, looked]; rfl))) rfl rfl
    next reopening =>
      cases steps
      refine resolve_delivers (by simp [reopening, IsPersisting]) ?_
      rw [reopening]
      exact rotateAlertmanagerEvidenceWindow_leaves ..
    next => cases steps
    next persisting =>
      cases steps
      exact .writes persisting others entered rfl rfl

theorem Delivers.persisting (delivers : Delivers letters evidenceKey requests s t label) {index : ι}
    (persisting : IsPersisting (s.phase index)) : IsPersisting (t.phase index) := by
  have others {actor : ι} (before : ¬IsPersisting (s.phase actor)) : index ≠ actor := by
    rintro rfl
    exact before persisting
  cases delivers with
  | looks before same _ _ _ =>
    rw [same index (others before)]
    exact persisting
  | resolves before same _ _ _ =>
    rw [same index (others before)]
    exact persisting
  | @writes actor incidentId alert alerts _ _ before same after _ _ =>
    by_cases isActor : index = actor
    · exact ⟨incidentId, alerts, isActor ▸ after⟩
    · rw [same index isActor]
      exact persisting
  | acknowledges result =>
    subst result
    exact persisting

omit [DecidableEq ι] in
/-- The key keeps its correlation or gets that of a delivery that has not written yet. -/
theorem Delivers.correlation (delivers : Delivers letters evidenceKey requests s t label) :
    t.correlation evidenceKey = s.correlation evidenceKey ∨ ∃ index, ¬IsPersisting (s.phase index) ∧
      IsPersisting (t.phase index) ∧
      t.correlation evidenceKey = some (requests index).correlationId := by
  cases delivers with
  | looks _ _ _ windows _ => exact .inl (by rw [WebhookWorld.correlation, windows]; rfl)
  | @resolves actor _ _ before _ after _ correlation =>
    exact correlation.imp id fun new => ⟨actor, before, ⟨_, _, after⟩, new.1⟩
  | writes _ _ _ windows _ => exact .inl (by rw [WebhookWorld.correlation, windows]; rfl)
  | acknowledges result =>
    subst result
    exact .inl rfl

/-- Who has yet to write the alert has found the live correlation. -/
def Current (evidenceKey : String) (requests : ι → WebhookRequest) (eventId : String)
    (s : WebhookWorld ι) : Prop :=
  ∀ index incident, Owes requests eventId incident s index →
    s.correlation evidenceKey = some incident

theorem Current.step (current : Current evidenceKey requests eventId s)
    (patient : Patient requests eventId s label)
    (delivers : Delivers letters evidenceKey requests s t label) :
    Current evidenceKey requests eventId t := by
  intro index incident owes
  have earlier (same : t.phase index = s.phase index) :
      s.correlation evidenceKey = some incident := by
    rw [Owes, same] at owes
    exact current index incident owes
  cases delivers with
  | @looks actor _ _ _ others after windows _ =>
    rw [WebhookWorld.correlation, windows]
    by_cases isActor : index = actor
    · subst isActor
      obtain nothing | live | still := after
      · cases nothing.symm.trans owes.1
      · exact live.symm.trans owes.1
      · rw [Owes, still] at owes
        exact current index incident owes
    · exact earlier (others index isActor)
  | @resolves actor _ _ _ others after _ correlation =>
    by_cases isActor : index = actor
    · subst isActor
      rw [Owes, after] at owes
      exact owes.1
    · have found := earlier (others index isActor)
      obtain same | ⟨_, absent | replaced⟩ := correlation
      · exact same.trans found
      · cases absent.symm.trans found
      · have waiting : Owes requests eventId incident s index := by
          rwa [Owes, others index isActor] at owes
        exact absurd waiting (patient incident (replaced.symm.trans found) index)
  | @writes actor _ _ _ _ _ before others after windows _ =>
    rw [WebhookWorld.correlation, windows]
    by_cases isActor : index = actor
    · subst isActor
      rw [Owes, after] at owes
      obtain ⟨found, pending, among, isAlert⟩ := owes
      apply current index incident
      rw [Owes, before]
      exact ⟨found, pending, List.mem_cons_of_mem _ among, isAlert⟩
    · exact earlier (others index isActor)
  | acknowledges result =>
    subst result
    exact earlier rfl

/-- The delivery that opened the live correlation is past its call. -/
def Opened (evidenceKey : String) (requests : ι → WebhookRequest) (s : WebhookWorld ι) : Prop :=
  ∀ index, s.correlation evidenceKey = some (requests index).correlationId →
    IsPersisting (s.phase index)

theorem Opened.step (fresh : Function.Injective fun index => (requests index).correlationId)
    (opened : Opened evidenceKey requests s)
    (delivers : Delivers letters evidenceKey requests s t label) :
    Opened evidenceKey requests t := by
  intro index live
  rcases delivers.correlation with same | ⟨actor, _, after, new⟩
  · exact delivers.persisting (opened index (same ▸ live))
  · have isActor : index = actor := fresh (Option.some.inj (live.symm.trans new))
    exact isActor ▸ after

/-- The key has left a correlation, and nobody will put it back. -/
structure Left (evidenceKey : String) (requests : ι → WebhookRequest) (incident : String)
    (s : WebhookWorld ι) : Prop where
  other : s.correlation evidenceKey ≠ some incident
  opener : ∀ index, (requests index).correlationId = incident → IsPersisting (s.phase index)

theorem Left.step {incident : String} (left : Left evidenceKey requests incident s)
    (delivers : Delivers letters evidenceKey requests s t label) :
    Left evidenceKey requests incident t := by
  refine ⟨?_, fun index isOpener => delivers.persisting (left.opener index isOpener)⟩
  rcases delivers.correlation with same | ⟨actor, before, _, new⟩
  · rw [same]
    exact left.other
  · intro live
    exact before (left.opener actor (Option.some.inj (new.symm.trans live)))

end schedule

section rows
variable {ι : Type} [DecidableEq ι] {letters : LowerCase} {digest : String → String}
  {evidenceKey : String} {requests : ι → WebhookRequest} {s t : WebhookWorld ι}
  {label : WebhookLabel ι} {eventId incident : String}

/-- The alert has another incident, which came after. -/
structure MovedOn (evidenceKey : String) (requests : ι → WebhookRequest) (eventId incident : String)
    (s : WebhookWorld ι) : Prop where
  left : Left evidenceKey requests incident s
  current : Current evidenceKey requests eventId s
  row : ∃ row other, s.alerts eventId = some row ∧ row.incidentId = some other ∧ other ≠ incident

omit [DecidableEq ι] in
/-- No write of a delivery that found the incident meets the row. -/
theorem MovedOn.unmet (moved : MovedOn evidenceKey requests eventId incident s) {index : ι}
    {alert : NotifiedAlert} {alerts : List NotifiedAlert}
    (resolved : s.phase index = .persisting (some incident) (alert :: alerts)) :
    alert.event.eventId ≠ eventId := by
  intro same
  refine moved.left.other (moved.current index incident ?_)
  rw [Owes, resolved]
  exact ⟨rfl, alert, List.mem_cons_self, same⟩

theorem upsert_incident {table : Sql.Table String AlertEvent} {row : AlertEvent}
    (alert : NotifiedAlert) (incidentId : Option String)
    (stored : table alert.event.eventId = some row) :
    ∃ merged, upsertExternalAlertEvent table (buildAlertmanagerAlertEvent letters alert incidentId)
        alert.event.eventId = some merged ∧ merged.incidentId = incidentId.or row.incidentId := by
  have merges := Sql.upsert_self (buildAlertmanagerAlertEvent letters alert incidentId).eventId
    { buildAlertmanagerAlertEvent letters alert incidentId with }
    (mergedAlertEvent (buildAlertmanagerAlertEvent letters alert incidentId)) table
  rw [show table (buildAlertmanagerAlertEvent letters alert incidentId).eventId =
    some row from stored] at merges
  exact ⟨_, merges, rfl⟩

theorem upsert_other {table : Sql.Table String AlertEvent} {alert : NotifiedAlert}
    (incidentId : Option String) (different : eventId ≠ alert.event.eventId) :
    upsertExternalAlertEvent table (buildAlertmanagerAlertEvent letters alert incidentId) eventId =
      table eventId :=
  Sql.upsert_ne different ..

theorem MovedOn.step :
    Stable (Step (nextDelivery letters digest evidenceKey requests) (Patient requests eventId))
    (MovedOn evidenceKey requests eventId incident) := by
  rintro s label t ⟨patient, steps⟩ moved
  have delivers := nextDelivery_delivers steps
  refine ⟨moved.left.step delivers, moved.current.step patient delivers, ?_⟩
  obtain ⟨row, other, stored, incidentId, different⟩ := moved.row
  cases delivers with
  | looks _ _ _ _ alerts => exact ⟨row, other, by rw [alerts]; exact stored, incidentId, different⟩
  | resolves _ _ _ alerts _ =>
    exact ⟨row, other, by rw [alerts]; exact stored, incidentId, different⟩
  | @writes index written alert alerts _ _ before _ _ _ upserted =>
    rw [upserted]
    by_cases met : eventId = alert.event.eventId
    · obtain ⟨merged, isMerged, mergedIncident⟩ := upsert_incident alert written (met ▸ stored)
      refine ⟨merged, written.getD other, met ▸ isMerged, ?_, ?_⟩
      · rw [mergedIncident, incidentId]
        cases written <;> rfl
      · rintro same
        cases written with
        | none => exact different same
        | some new =>
          cases same
          exact moved.unmet before met.symm
    · exact ⟨row, other, (upsert_other written met).trans stored, incidentId, different⟩
  | @acknowledges acknowledged time operator result =>
    subst result
    by_cases met : eventId = acknowledged
    · subst met
      refine ⟨{ row with acknowledgedAt := some time, acknowledgedBy := some operator }, other, ?_,
        incidentId, different⟩
      change Function.update s.alerts eventId ((s.alerts eventId).map _) eventId = _
      rw [Function.update_self, stored, Option.map_some]
    · refine ⟨row, other, ?_, incidentId, different⟩
      change Function.update s.alerts acknowledged _ eventId = _
      rw [Function.update_of_ne met]
      exact stored

/-- What a late delivery must not do to an alert. -/
def Reverts (incident eventId : String) (s t : WebhookWorld ι) : Prop :=
  ∃ before after, s.alerts eventId = some before ∧ t.alerts eventId = some after ∧
    (after.incidentId = some incident ∨ before.status = .resolved ∧ after.status = .firing ∨
      before.acknowledgedAt.isSome ∧ after.acknowledgedAt = none ∨
      before.acknowledgedBy.isSome ∧ after.acknowledgedBy = none)

/-- The runs in which the key waits for those who have found its correlation. -/
abbrev PatientRun (letters : LowerCase) (digest : String → String) (evidenceKey : String)
    (requests : ι → WebhookRequest) (eventId : String) :=
  Run (Step (nextDelivery letters digest evidenceKey requests) (Patient requests eventId))

/-- If the key is not rotated before those who found its correlation have written the alert,
then an alert that was written with the next incident of the key does not get the one before
again, and stays out of reach of the deliveries that resolved to that. -/
theorem patient_deliveries_keep_incident
    (fresh : Function.Injective fun index => (requests index).correlationId)
    {incident next : String} {s₀ s₁ s₂ : WebhookWorld ι}
    (before : PatientRun letters digest evidenceKey requests eventId .initial labels s₀)
    (held : s₀.correlation evidenceKey = some incident)
    (rotates : PatientRun letters digest evidenceKey requests eventId s₀ rotating s₁)
    (holds : s₁.correlation evidenceKey = some next) (different : next ≠ incident)
    (writes : PatientRun letters digest evidenceKey requests eventId s₁ writing s₂)
    (written : (s₂.alerts eventId).bind (·.incidentId) = some next)
    (later : PatientRun letters digest evidenceKey requests eventId s₂ more s) :
    (s.alerts eventId).bind (·.incidentId) ≠ some incident ∧
      ∀ index remaining disposition now t, s.phase index = .persisting (some incident) remaining →
        nextDelivery letters digest evidenceKey requests s (.advance index disposition now) =
          some t →
        ¬Reverts incident eventId s t := by
  have started : Opened evidenceKey requests s₀ ∧ Current evidenceKey requests eventId s₀ := by
    refine before.holds
      (P := fun world => Opened evidenceKey requests world ∧
        Current evidenceKey requests eventId world) ?_ ⟨?_, ?_⟩
    · rintro world label after ⟨patient, steps⟩ ⟨opened, current⟩
      have delivers := nextDelivery_delivers steps
      exact ⟨opened.step fresh delivers, current.step patient delivers⟩
    · intro index live
      cases live
    · intro index incident owes
      cases owes.1
  obtain ⟨opened, current⟩ := started
  have left : Left evidenceKey requests incident s₁ := by
    refine ⟨?_, fun index isOwner => ?_⟩
    · rw [holds]
      exact fun same => different (Option.some.inj same)
    · have stays :
          Stable (Step (nextDelivery letters digest evidenceKey requests)
            (Patient requests eventId))
          fun world => IsPersisting (world.phase index) :=
        fun _ _ _ step persisting => (nextDelivery_delivers step.2).persisting persisting
      have stayed := rotates.holds stays (opened index (held.trans (congrArg some isOwner.symm)))
      exact stayed
  have currently :
      Stable (Step (nextDelivery letters digest evidenceKey requests) (Patient requests eventId))
      (Current evidenceKey requests eventId) :=
    fun _ _ _ step current => current.step step.1 (nextDelivery_delivers step.2)
  have moved : MovedOn evidenceKey requests eventId incident s₂ := by
    refine ⟨writes.holds (fun _ _ _ step left => left.step (nextDelivery_delivers step.2)) left,
      writes.holds currently (rotates.holds currently current), ?_⟩
    obtain ⟨row, stored, incidentId⟩ := Option.bind_eq_some_iff.mp written
    exact ⟨row, next, stored, incidentId, different⟩
  have movedLater := later.holds MovedOn.step moved
  obtain ⟨row, other, stored, incidentId, isOther⟩ := movedLater.row
  have elsewhere : (s.alerts eventId).bind (·.incidentId) ≠ some incident := by
    rw [stored, Option.bind_some, incidentId]
    exact fun same => isOther (Option.some.inj same)
  refine ⟨elsewhere, ?_⟩
  rintro index remaining disposition now t resolved step ⟨before, after, isBefore,
    isAfter, reverted⟩
  have unchanged : t.alerts eventId = s.alerts eventId := by
    cases nextDelivery_delivers step with
    | looks _ _ _ _ alerts => rw [alerts]
    | resolves _ _ _ alerts _ => rw [alerts]
    | writes persisting _ _ _ upserted =>
      rw [upserted]
      cases resolved.symm.trans persisting
      exact upsert_other _ (movedLater.unmet persisting).symm
  cases isBefore.symm.trans (unchanged.symm.trans isAfter)
  rcases reverted with back | ⟨isResolved, isFiring⟩ | ⟨isSet, isCleared⟩ | ⟨isSet, isCleared⟩
  · exact elsewhere (by rw [isBefore]; exact back)
  · cases isResolved.symm.trans isFiring
  · simp [isCleared] at isSet
  · simp [isCleared] at isSet

def sampleLetters : LowerCase := ⟨id, rfl⟩

def sampleNotified (status : String) : NotifiedAlert where
  status := status
  startsAt := "t"
  fingerprint := "f"
  event := samplePayload (if status = "resolved" then .resolved else .firing) none

/-- A delivery that opens an incident, one that finds it, one that rotates the key and one
that says that the alert is resolved. -/
def sampleRequests : Fin 4 → WebhookRequest
  | 0 => ⟨[sampleNotified "firing"], sampleValues "e1" "i1"⟩
  | 1 => ⟨[sampleNotified "firing"], sampleValues "e2" "i2"⟩
  | 2 => ⟨[sampleNotified "firing"], sampleValues "e3" "i3"⟩
  | 3 => ⟨[sampleNotified "resolved"], sampleValues "e4" "i4"⟩

def sampleSteps (index : Fin 4) (steps : Nat) : List (WebhookLabel (Fin 4)) :=
  List.replicate steps (.advance index (if index = 2 then .terminal else .active) 0)

/-- The second delivery has found the first incident. -/
def sampleOpening : List (WebhookLabel (Fin 4)) := sampleSteps 0 3 ++ sampleSteps 1 2

/-- The alert is resolved and acknowledged in the next incident. -/
def sampleSettling : List (WebhookLabel (Fin 4)) :=
  sampleSteps 2 1 ++ sampleSteps 3 2 ++ [.acknowledge "ale-am-1" 90 "operator"]

def sampleNext : WebhookWorld (Fin 4) → WebhookLabel (Fin 4) → Option (WebhookWorld (Fin 4)) :=
  nextDelivery sampleLetters id "k" sampleRequests

def settled (world : WebhookWorld (Fin 4)) : Option (Option String × AlertStatus × Option Int) :=
  (world.alerts "ale-am-1").map fun row => (row.incidentId, row.status, row.acknowledgedAt)

/-- The second delivery waits with its alert until the next incident is settled. -/
theorem late_delivery_reverts : ∃ s₀ s₁ s₂ t : WebhookWorld (Fin 4),
    execute sampleNext always .initial sampleOpening = some s₀ ∧
    s₀.correlation "k" = some "i1" ∧
    s₀.phase 1 = .persisting (some "i1") [sampleNotified "firing"] ∧
    execute sampleNext always s₀ (sampleSteps 2 3) = some s₁ ∧ s₁.correlation "k" = some "i3" ∧
    execute sampleNext always s₁ sampleSettling = some s₂ ∧
    settled s₂ = some (some "i3", .resolved, some 90) ∧
    sampleNext s₂ (.advance 1 .active 0) = some t ∧
    settled t = some (some "i1", .firing, none) := by
  refine ⟨_, _, _, _, rfl, ?_, rfl, rfl, ?_, rfl, ?_, rfl, ?_⟩ <;> decide

/-- It writes its alert before the key is rotated. -/
theorem patient_deliveries_keep_incident_sample : ∃ s : WebhookWorld (Fin 4),
    execute sampleNext (Patient sampleRequests "ale-am-1") .initial
      (sampleOpening ++ sampleSteps 1 1 ++ sampleSteps 2 3 ++ sampleSettling) = some s ∧
    s.phase 1 = .persisting (some "i1") [] ∧ settled s = some (some "i3", .resolved, some 90) ∧
    (s.alerts "ale-am-1").bind (·.incidentId) ≠ some "i1" := by
  have fresh : Function.Injective fun index => (sampleRequests index).correlationId := by
    intro one two same
    revert one two
    decide
  have opening := execute_run (show execute sampleNext (Patient sampleRequests "ale-am-1")
    .initial (sampleOpening ++ sampleSteps 1 1) = some _ from rfl)
  refine ⟨_, rfl, rfl, by decide, ?_⟩
  exact (patient_deliveries_keep_incident fresh opening (by decide)
    (execute_run (show execute sampleNext (Patient sampleRequests "ale-am-1") _ (sampleSteps 2 3) =
      _ from rfl))
    (show _ = some "i3" by decide) (by decide)
    (execute_run (show execute sampleNext (Patient sampleRequests "ale-am-1") _ (sampleSteps 2 1) =
      _ from rfl))
    (by decide)
    (execute_run (show execute sampleNext (Patient sampleRequests "ale-am-1") _
      (sampleSteps 3 2 ++ [.acknowledge "ale-am-1" 90 "operator"]) = _ from rfl))).1

end rows

end K8sOps.Alert
