import K8sOps.Concurrent
import K8sOps.Python.Value
import K8sOps.Transition
import K8sOps.Worker.Ledger

/-! The transactional outbox: the table of staged events, its statements, and the relays
that lease rows, publish their events and mark them. -/
namespace K8sOps.Outbox
open Calls Program Python

structure EventEnvelope where
  eventId : String
  subject : String
  source : String
  correlationId : String
  causationId : Option String
  createdAt : String
  payload : Entries
  schemaVersion : Int
  workspaceId : Option String

/-- A staged event with the columns of its relay. -/
structure OutboxRow where
  id : Nat
  event : EventEnvelope
  leaseId : Option String
  leasedUntil : Option Int
  sentAt : Option Int

inductive DeadLetterStatus where
  | opened
  | replayed
  | archived
  deriving DecidableEq

structure EventDeadLetter where
  originalEventId : String
  originalSubject : String
  consumer : String
  correlationId : String
  attempts : Nat
  error : String
  payload : Entries
  status : DeadLetterStatus

/-- The rows of the outbox are in the order of their ids. -/
structure Database where
  outbox : List OutboxRow
  deadLetters : List EventDeadLetter

section statements

def defaultOutboxLeaseSeconds : Int := 60

/-- `ON CONFLICT DO NOTHING` on the event's id. -/
def insertEvent (outbox : List OutboxRow) (event : EventEnvelope) : List OutboxRow :=
  if outbox.any fun row => row.event.eventId = event.eventId then outbox
  else outbox ++ [⟨outbox.length, event, none, none, none⟩]

def stageEvents (events : List EventEnvelope) (database : Database) : Database :=
  { database with outbox := events.foldl insertEvent database.outbox }

/-- When and where a statement runs: the clocks of the database and of the relay, the
lease's new name, the rows that other transactions have locked, and the order in which
`RETURNING` gives rows back. -/
structure Moment where
  now : Int
  clock : Int
  leaseId : String
  locked : List Nat
  arrange : List OutboxRow → List OutboxRow
  arrange_perm (rows : List OutboxRow) : (arrange rows).Perm rows

/-- A comparison with an absent time is not true. -/
def OutboxRow.available (now : Int) (row : OutboxRow) : Bool :=
  row.leaseId.isNone || row.leasedUntil.any (· < now)

/-- The rows that the statement selects; locked ones are skipped. -/
def OutboxRow.claimable (source : Option String) (moment : Moment) (row : OutboxRow) : Bool :=
  row.sentAt.isNone && row.available moment.now && source.all (row.event.source = ·) &&
    !moment.locked.contains row.id

def OutboxRow.lease (moment : Moment) (row : OutboxRow) : OutboxRow :=
  { row with
    leaseId := some moment.leaseId, leasedUntil := some (moment.clock + defaultOutboxLeaseSeconds) }

def OutboxRow.markSent (now : Int) (row : OutboxRow) : OutboxRow :=
  { row with sentAt := some now, leaseId := none, leasedUntil := none }

/-- `ORDER BY id LIMIT … FOR UPDATE SKIP LOCKED`. -/
def claimedIds (limit : Nat) (source : Option String) (moment : Moment)
    (outbox : List OutboxRow) : List Nat :=
  ((outbox.filter (·.claimable source moment)).take limit).map (·.id)

def unsentEvents (limit : Nat) (source : Option String) (moment : Moment) (database : Database) :
    List EventEnvelope × Database :=
  let ids := claimedIds limit source moment database.outbox
  let outbox := database.outbox.map fun row => if row.id ∈ ids then row.lease moment else row
  ((moment.arrange (outbox.filter fun row => row.id ∈ ids)).map (·.event), { database with outbox })

/-- Mark by the event's id, whoever has the lease. -/
def sentRows (eventIds : List String) (now : Int) (outbox : List OutboxRow) : List OutboxRow :=
  outbox.map fun row => if row.event.eventId ∈ eventIds then row.markSent now else row

def markEventsSent (eventIds : List String) (now : Int) (database : Database) : Database :=
  { database with outbox := sentRows eventIds now database.outbox }

def deadLetter (consumer error : String) (event : EventEnvelope) : EventDeadLetter where
  originalEventId := event.eventId
  originalSubject := event.subject
  consumer := consumer
  correlationId := event.correlationId
  attempts := 1
  error := Worker.compactError error
  payload := event.payload
  status := .opened

/-- The dead letters and the marks are one transaction. -/
def markEventsDeadLettered (events : List EventEnvelope) (consumer error : String) (now : Int)
    (database : Database) : Database where
  outbox := sentRows (events.map (·.eventId)) now database.outbox
  deadLetters := database.deadLetters ++ events.map (deadLetter consumer error)

end statements

section calls

/-- A raised exception. Cancellation is not an `Exception`. -/
structure Failure where
  className : String
  text : String
  isException : Bool
  retryableDbConflict : Bool

inductive Call where
  | unsentEvents (limit : Nat) (source : Option String)
  | publishEnvelope (event : EventEnvelope)
  | markEventsDeadLettered (events : List EventEnvelope) (consumer error : String)
  | markEventsSent (eventIds : List String)

@[reducible] def Call.Answer : Call → Type
  | .unsentEvents _ _ => Except Failure (List EventEnvelope)
  | .publishEnvelope _ => Except Failure Unit
  | .markEventsDeadLettered _ _ _ => Except Failure Unit
  | .markEventsSent _ => Except Failure Unit

/-- A call that returns took effect. One that raises may have taken effect as well: the
answer can be lost, late or cancelled. -/
inductive Outcome where
  | returned
  | raised (failure : Failure) (tookEffect : Bool)

def Outcome.tookEffect : Outcome → Bool
  | .returned => true
  | .raised _ tookEffect => tookEffect

def Outcome.answer (outcome : Outcome) (value : α) : Except Failure α :=
  match outcome with
  | .returned => .ok value
  | .raised failure _ => .error failure

/-- The database, and what the broker has accepted. -/
structure World where
  database : Database
  broker : List EventEnvelope

/-- What a call answers, and what it changes if it takes effect. -/
def Call.effect (moment : Moment) (world : World) : (call : Call) → World
  | .unsentEvents limit source =>
    { world with database := (Outbox.unsentEvents limit source moment world.database).2 }
  | .publishEnvelope event => { world with broker := world.broker ++ [event] }
  | .markEventsDeadLettered events consumer error =>
    { world with
      database := Outbox.markEventsDeadLettered events consumer error moment.now world.database }
  | .markEventsSent eventIds =>
    { world with database := Outbox.markEventsSent eventIds moment.now world.database }

def Call.answer (outcome : Outcome) (moment : Moment) (world : World) : (call : Call) → call.Answer
  | .unsentEvents limit source =>
    outcome.answer (Outbox.unsentEvents limit source moment world.database).1
  | .publishEnvelope _ => outcome.answer ()
  | .markEventsDeadLettered _ _ _ => outcome.answer ()
  | .markEventsSent _ => outcome.answer ()

def Call.after (outcome : Outcome) (moment : Moment) (world : World) (call : Call) : World :=
  if outcome.tookEffect then call.effect moment world else world

end calls

section relay

structure Relay where
  source : Option String
  batch : Nat

def Relay.consumerName (relay : Relay) : String :=
  "outbox-relay:" ++ if (relay.source.getD "") = "" then "all" else relay.source.getD ""

def nonRetryablePublishErrors : List String := ["MaxPayloadError"]

def isNonRetryablePublishError (failure : Failure) :
    Bool := nonRetryablePublishErrors.contains failure.className

abbrev Process (α : Type) := Program Call Call.Answer α

def ask (call : Call) : Process call.Answer := .call call .done

def asyncRetryDbConflict (operation : Process (Except Failure α)) : Nat → Process (Except Failure α)
  | 0 => pure (.error ⟨"RuntimeError", "unreachable db retry state", true, false⟩)
  | attempts + 1 => do
    match ← operation with
    | .ok value => pure (.ok value)
    | .error failure =>
      if !failure.retryableDbConflict || attempts = 0 then pure (.error failure)
      else asyncRetryDbConflict operation attempts

/-- The loop of the `try`: the ids that were published, and what it raised. -/
def publishRows (relay : Relay) :
    List EventEnvelope → List String → Process (List String × Option Failure)
  | [], published => pure (published, none)
  | event :: rows, published => do
    match ← ask (.publishEnvelope event) with
    | .ok _ => publishRows relay rows (published ++ [event.eventId])
    | .error failure =>
      if failure.isException && isNonRetryablePublishError failure then
        match ← ask (.markEventsDeadLettered [event] relay.consumerName failure.text) with
        | .ok _ => publishRows relay rows published
        | .error failure => pure (published, some failure)
      else pure (published, some failure)

/-- A batch. What the `finally` raises replaces what the loop raised. -/
def runOnce (relay : Relay) : Process (Except Failure Nat) := do
  match ← asyncRetryDbConflict (ask (.unsentEvents relay.batch relay.source)) 3 with
  | .error failure => pure (.error failure)
  | .ok rows =>
    let (published, raised) ← publishRows relay rows []
    let result := match raised with
      | some failure => .error failure
      | none => .ok published.length
    if published = [] then pure result
    else
      match ← ask (.markEventsSent published) with
      | .error failure => pure (.error failure)
      | .ok _ => pure result

end relay

section system

/-- Any number of relays, each between batches or inside of one. -/
structure System where
  world : World
  relays : Pool Nat Call Call.Answer (Except Failure Nat)

inductive System.Label where
  | stage (events : List EventEnvelope)
  | start (index : Nat) (relay : Relay)
  | call (index : Nat) (outcome : Outcome) (moment : Moment)
  | stop (index : Nat)

namespace System

/-- Staging commits; a relay starts a batch, makes its next call, or stops: at the end of a
batch, or by a crash. -/
def next (system : System) : Label → Option System
  | .stage events => some { system with
      world := { system.world with database := stageEvents events system.world.database } }
  | .start index relay =>
    some { system with relays := system.relays.set index (some (runOnce relay)) }
  | .call index outcome moment =>
    match system.relays index with
    | some (.call op rest) => some {
        world := op.after outcome moment system.world
        relays := system.relays.set index (some (rest (op.answer outcome moment system.world))) }
    | _ => none
  | .stop index => some { system with relays := system.relays.set index none }

def empty (deadLetters : List EventDeadLetter) (broker : List EventEnvelope) : System :=
  ⟨⟨⟨[], deadLetters⟩, broker⟩, fun _ => none⟩

end System

end system

end K8sOps.Outbox
