import K8sOps.Outbox.Relay
import K8sOps.Sql

/-! The evidence window of an alert group: the row that the stable key points to, the
archive of the rows that it pointed to before, and the transactions that record a first
window or rotate the key to a new one. A transaction is taken statement by statement, with
the locks that it holds and writes that nobody sees before it commits. -/
namespace K8sOps.Alert
open Outbox Python

structure EvidenceWindow where
  workspaceId : String
  clusterId : String
  sourceId : String
  windowStart : String
  agentId : Option String
  eventId : String
  correlationId : String
  payload : Entries
  createdAt : Int
  updatedAt : Int

/-- What a call wants the key to point to. -/
structure WindowValues where
  workspaceId : String
  clusterId : String
  sourceId : String
  windowStart : String
  agentId : Option String
  envelope : EventEnvelope
  payload : Entries

inductive WindowCall where
  | record (values : WindowValues)
  | rotate (expectedEventId expectedCorrelationId : String) (values : WindowValues)

def WindowCall.values : WindowCall → WindowValues
  | .record values | .rotate _ _ values => values

def WindowCall.expected : WindowCall → Option (String × String)
  | .record _ => none
  | .rotate eventId correlationId _ => some (eventId, correlationId)

/-- The value of the key: an event and its correlation. -/
def EvidenceWindow.ids (window : EvidenceWindow) : String × String :=
  (window.eventId, window.correlationId)

def envelopeIds (envelope : EventEnvelope) : String × String :=
  (envelope.eventId, envelope.correlationId)

section statements

/-- The event is staged for the caller's workspace. -/
def WindowValues.trusted (values : WindowValues) : EventEnvelope :=
  { values.envelope with workspaceId := some values.workspaceId }

def WindowValues.newRow (values : WindowValues) (now : Int) : EvidenceWindow where
  workspaceId := values.workspaceId
  clusterId := values.clusterId
  sourceId := values.sourceId
  windowStart := values.windowStart
  agentId := values.agentId
  eventId := values.envelope.eventId
  correlationId := values.envelope.correlationId
  payload := values.payload
  createdAt := now
  updatedAt := now

/-- The update leaves the time of creation. -/
def WindowValues.update (values : WindowValues) (now : Int)
    (current : EvidenceWindow) : EvidenceWindow :=
  { values.newRow now with createdAt := current.createdAt }

/-- The key that an event and its correlation are archived under. -/
def historyKey (digest : String → String) (evidenceKey : String) (ids : String × String) : String :=
  evidenceKey ++ ":history:" ++ digest (ids.1 ++ "\x00" ++ ids.2)

def archive (digest : String → String) (evidenceKey : String) (current : EvidenceWindow)
    (windows : Sql.Table String EvidenceWindow) : Sql.Table String EvidenceWindow :=
  Sql.insertIgnore (historyKey digest evidenceKey current.ids) current windows

/-- The update only meets the row that the caller expects. -/
def replaceWindow (evidenceKey : String) (expected : String × String) (values : WindowValues)
    (now : Int) (windows : Sql.Table String EvidenceWindow) : Sql.Table String EvidenceWindow :=
  Function.update windows evidenceKey
    ((windows evidenceKey).map fun row => if row.ids = expected then values.update now row else row)

end statements

section machine
variable {ι : Type} [DecidableEq ι]

inductive WindowOutcome where
  | opened
  | replaced
  | duplicate (eventId correlationId : String)

/-- How far a call has got. -/
inductive WindowPhase where
  | waiting
  | locked
  | missing
  | inserted (row : EvidenceWindow)
  | conflicted
  | holding (current : EvidenceWindow)
  | finished (outcome : WindowOutcome)
  | aborted

/-- What is committed, and who holds the advisory lock of the key and its row: the lock of
`FOR UPDATE`, or an insert that is not committed. -/
structure EvidenceDatabase (ι : Type) where
  windows : Sql.Table String EvidenceWindow
  outbox : List OutboxRow
  advisory : Option ι
  writer : Option ι
  phase : ι → WindowPhase

def EvidenceDatabase.initial : EvidenceDatabase ι :=
  ⟨fun _ => none, [], none, none, fun _ => .waiting⟩

namespace EvidenceDatabase

def enter (database : EvidenceDatabase ι) (index : ι) (phase : WindowPhase) : EvidenceDatabase ι :=
  { database with phase := Function.update database.phase index phase }

/-- The end of a transaction releases its locks. -/
def leave (database : EvidenceDatabase ι) (index : ι) (phase : WindowPhase) : EvidenceDatabase ι :=
  { database.enter index phase with
    advisory := if database.advisory = some index then none else database.advisory
    writer := if database.writer = some index then none else database.writer }

end EvidenceDatabase

/-- A statement of a call, which reads the clock, or the loss of its transaction. -/
inductive WindowLabel (ι : Type) where
  | run (index : ι) (now : Int)
  | abort (index : ι)

variable (digest : String → String) (evidenceKey : String) (calls : ι → WindowCall)

/-- `INSERT … ON CONFLICT DO NOTHING` waits for a row that is not committed. -/
def insertWindow (database : EvidenceDatabase ι) (index : ι) (now : Int) :
    Option (EvidenceDatabase ι) :=
  match database.windows evidenceKey with
  | some _ => some (database.enter index .conflicted)
  | none =>
    if database.writer = none then
      some { database.enter index (.inserted ((calls index).values.newRow now)) with
          writer := some index }
    else none

/-- `SELECT … FOR UPDATE` does not see a row that is not committed, and waits for a locked one. -/
def lockWindow (database : EvidenceDatabase ι) (index : ι) : Option (EvidenceDatabase ι) :=
  match database.windows evidenceKey with
  | none => some (database.enter index .missing)
  | some current =>
    if database.writer ≠ none then none
    else if (calls index).expected = some current.ids then
      some { database.enter index (.holding current) with writer := some index }
    else some (database.leave index (.finished (.duplicate current.eventId current.correlationId)))

def stageWindow (values : WindowValues) (database : EvidenceDatabase ι) : EvidenceDatabase ι :=
  { database with outbox := insertEvent database.outbox values.trusted }

/-- The next statement of a call. Archive, update and staging are seen together when the
transaction commits. -/
def runStatement (database : EvidenceDatabase ι) (index : ι) (now : Int) :
    Option (EvidenceDatabase ι) :=
  let values := (calls index).values
  match database.phase index with
  | .waiting =>
    match calls index with
    | .record _ => insertWindow evidenceKey calls database index now
    | .rotate .. =>
      if database.advisory = none then
        some { database.enter index .locked with advisory := some index } else none
  | .locked => lockWindow evidenceKey calls database index
  | .missing => insertWindow evidenceKey calls database index now
  | .inserted row =>
    some ((stageWindow values { database with
      windows := Sql.insertIgnore evidenceKey row database.windows }).leave index
        (.finished .opened))
  | .conflicted =>
    (database.windows evidenceKey).map fun row =>
      database.leave index (.finished (.duplicate row.eventId row.correlationId))
  | .holding current =>
    some ((stageWindow values { database with
      windows := replaceWindow evidenceKey current.ids values now
        (archive digest evidenceKey current database.windows) }).leave index (.finished .replaced))
  | .finished _ | .aborted => none

def nextWindow (database : EvidenceDatabase ι) : WindowLabel ι → Option (EvidenceDatabase ι)
  | .run index now => runStatement digest evidenceKey calls database index now
  | .abort index =>
    match database.phase index with
    | .finished _ => none
    | _ => some (database.leave index .aborted)

end machine

end K8sOps.Alert
