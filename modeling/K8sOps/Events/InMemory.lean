import Mathlib.Data.List.Perm.Basic
import Mathlib.Logic.Function.Basic
import K8sOps.Transition

/-! The in-memory event bus. A subscription moves its events between the queue, the table of
deliveries in flight and the tasks that wait to put them back, and forgets those that are
acknowledged. -/
namespace K8sOps.Events
open Transition

section subjects

/-- `_subject_matches` on the tokens of the pattern and of the subject. -/
def tokensMatch : List (List Char) → List (List Char) → Bool
  | [], subject => subject.isEmpty
  | token :: pattern, subject =>
    if token = ['>'] then pattern.isEmpty && !subject.isEmpty
    else
      match subject with
      | [] => false
      | found :: rest => if token ≠ ['*'] ∧ token ≠ found then false else tokensMatch pattern rest

def subjectMatches (pattern subject : String) : Bool :=
  tokensMatch (pattern.toList.splitOn '.') (subject.toList.splitOn '.')

/-- The token rules of NATS: `*` is one token, `>` is one or more trailing ones and only last. -/
inductive Covers : List (List Char) → List (List Char) → Prop where
  | done : Covers [] []
  | literal (plain : token ≠ ['>']) (later : Covers pattern subject) : Covers (token :: pattern)
      (token :: subject)
  | star (later : Covers pattern subject) : Covers (['*'] :: pattern) (token :: subject)
  | tail (some : subject ≠ []) : Covers [['>']] subject

theorem tokensMatch_iff (pattern subject : List (List Char)) :
    tokensMatch pattern subject = true ↔ Covers pattern subject := by
  induction pattern generalizing subject with
  | nil =>
    rw [tokensMatch, List.isEmpty_iff]
    constructor
    · rintro rfl
      exact .done
    · intro covers
      cases covers
      rfl
  | cons token pattern ih =>
    rw [tokensMatch.eq_def]
    dsimp only
    by_cases last : token = ['>']
    · subst last
      rw [if_pos rfl, Bool.and_eq_true, List.isEmpty_iff, Bool.not_eq_true',
        List.isEmpty_eq_false_iff]
      constructor
      · rintro ⟨rfl, some⟩
        exact .tail some
      · intro covers
        cases covers with
        | literal plain => exact absurd rfl plain
        | tail some => exact ⟨rfl, some⟩
    · rw [if_neg last]
      cases subject with
      | nil =>
        constructor
        · intro impossible
          cases impossible
        · intro covers
          cases covers
          exact absurd rfl last
      | cons found rest =>
        dsimp only
        by_cases other : token ≠ ['*'] ∧ token ≠ found
        · rw [if_pos other]
          constructor
          · intro impossible
            cases impossible
          · intro covers
            cases covers with
            | literal => exact absurd rfl other.2
            | star => exact absurd rfl other.1
            | tail => exact absurd rfl last
        · rw [if_neg other, ih]
          constructor
          · intro later
            by_cases star : token = ['*']
            · exact star ▸ .star later
            · have same : token = found := by
                by_contra different
                exact other ⟨star, different⟩
              exact same ▸ .literal last later
          · intro covers
            cases covers with
            | literal _ later => exact later
            | star later => exact later
            | tail => exact absurd rfl last

end subjects

section model

structure StoredEvent where
  subject : String
  data : String
  deriving DecidableEq

structure QueuedEvent where
  stored : StoredEvent
  redelivery : Bool
  deriving DecidableEq

/-- A subscription that is open. `delayed` are the events of the waiting tasks, `settled` the
deliveries whose message has been settled; `acknowledged` keeps what the program forgets. -/
structure Subscription where
  subject : String
  durable : String
  queue : List QueuedEvent
  inFlight : List (Nat × QueuedEvent)
  nextDeliveryId : Nat
  redelivered : Nat
  scheduled : Nat
  delayed : List QueuedEvent
  settled : List Nat
  acknowledged : List StoredEvent

namespace Subscription

def opened (subject durable : String) : Subscription :=
  ⟨subject, durable, [], [], 1, 0, 0, [], [], []⟩

def enqueue (subscription : Subscription) (stored : StoredEvent) : Subscription :=
  { subscription with queue := subscription.queue ++ [⟨stored, false⟩] }

def deliver (subscription : Subscription) (queued : QueuedEvent) : Subscription :=
  { subscription with
    nextDeliveryId := subscription.nextDeliveryId + 1
    inFlight := subscription.inFlight ++ [(subscription.nextDeliveryId, queued)]
    redelivered := subscription.redelivered + if queued.redelivery then 1 else 0 }

/-- `fetch` once there is an event: as many as there are, up to the batch. -/
def fetch (subscription : Subscription) (batch : Nat) : Option Subscription :=
  if batch < 1 ∨ subscription.queue = [] then none
  else
    some ((subscription.queue.take batch).foldl deliver { subscription with
        queue := subscription.queue.drop batch })

def pop (subscription : Subscription) (id : Nat) : Option QueuedEvent × Subscription :=
  ((subscription.inFlight.find? (·.1 == id)).map Prod.snd,
    { subscription with inFlight := subscription.inFlight.eraseP (·.1 == id) })

def ack (subscription : Subscription) (id : Nat) : Subscription :=
  match subscription.pop id with
  | (none, popped) => popped
  | (some queued, popped) => { popped with acknowledged := popped.acknowledged ++ [queued.stored] }

def nak (subscription : Subscription) (id delay : Nat) : Subscription :=
  match subscription.pop id with
  | (none, popped) => popped
  | (some queued, popped) =>
    if delay = 0 then { popped with queue := popped.queue ++ [⟨queued.stored, true⟩] }
    else { popped with
        scheduled := popped.scheduled + 1, delayed := popped.delayed ++ [⟨queued.stored, true⟩] }

/-- A message settles once: later settlements do nothing. -/
def settle (subscription : Subscription) (id : Nat) (action : Subscription → Subscription) :
    Option Subscription :=
  if subscription.nextDeliveryId ≤ id then none
  else if subscription.settled.contains id then some subscription
  else some (action { subscription with settled := id :: subscription.settled })

/-- A waiting task is over: its event is queued and the counter goes down. -/
def expire (subscription : Subscription) (task : Nat) : Option Subscription :=
  (subscription.delayed[task]?).map fun queued =>
    { subscription with
      queue := subscription.queue ++ [queued]
      delayed := subscription.delayed.eraseIdx task
      scheduled := subscription.scheduled - 1 }

def pending (subscription : Subscription) : Nat :=
  subscription.queue.length + subscription.scheduled

def ackPending (subscription : Subscription) : Nat := subscription.inFlight.length

end Subscription

/-- A connected bus that has not been closed. -/
structure InMemoryEventBus where
  events : List StoredEvent
  subscriptions : String × String → Option Subscription

def InMemoryEventBus.connected : InMemoryEventBus := ⟨[], fun _ => none⟩

inductive BusLabel where
  | publish (event : StoredEvent)
  | subscribe (subject durable : String)
  | fetch (consumer : String × String) (batch : Nat)
  | ack (consumer : String × String) (id : Nat)
  | nak (consumer : String × String) (id delay : Nat)
  | expire (consumer : String × String) (task : Nat)

namespace InMemoryEventBus

def publish (bus : InMemoryEventBus) (event : StoredEvent) : InMemoryEventBus :=
  ⟨bus.events ++ [event], fun key => (bus.subscriptions key).map fun subscription =>
    if subjectMatches subscription.subject event.subject then subscription.enqueue event
    else subscription⟩

/-- A new consumer replays what was published before. -/
def subscribe (bus : InMemoryEventBus) (subject durable : String) : InMemoryEventBus :=
  match bus.subscriptions (subject, durable) with
  | some _ => bus
  | none =>
    let replayed := (bus.events.filter fun event => subjectMatches subject event.subject).foldl
      Subscription.enqueue (.opened subject durable)
    { bus with
      subscriptions := Function.update bus.subscriptions (subject, durable) (some replayed) }

def update (bus : InMemoryEventBus) (consumer : String × String)
    (action : Subscription → Option Subscription) : Option InMemoryEventBus :=
  ((bus.subscriptions consumer).bind action).map fun next =>
    { bus with subscriptions := Function.update bus.subscriptions consumer (some next) }

def next (bus : InMemoryEventBus) : BusLabel → Option InMemoryEventBus
  | .publish event => some (bus.publish event)
  | .subscribe subject durable => some (bus.subscribe subject durable)
  | .fetch consumer batch => bus.update consumer (·.fetch batch)
  | .ack consumer id => bus.update consumer (·.settle id (·.ack id))
  | .nak consumer id delay => bus.update consumer (·.settle id (·.nak id delay))
  | .expire consumer task => bus.update consumer (·.expire task)

end InMemoryEventBus

end model

section conservation

/-- The events of a subscription in the four places. -/
def Subscription.held (subscription : Subscription) : List StoredEvent :=
  (subscription.queue ++ subscription.delayed ++ subscription.inFlight.map Prod.snd).map
    (·.stored) ++ subscription.acknowledged

/-- What moves events only between the places. -/
structure Moves (before after : Subscription) : Prop where
  subject : after.subject = before.subject
  held : after.held.Perm before.held
  scheduled : before.scheduled = before.delayed.length → after.scheduled = after.delayed.length

variable {subscription next : Subscription} {events : List StoredEvent}

theorem enqueue_held (subscription : Subscription) (stored : StoredEvent) :
    (subscription.enqueue stored).held.Perm (subscription.held ++ [stored]) := by
  rw [List.perm_iff_count]
  intro event
  simp only [Subscription.held, Subscription.enqueue, List.map_append, List.count_append,
    List.map_cons, List.map_nil]
  omega

theorem deliver_held (subscription : Subscription) (queued : QueuedEvent) :
    (subscription.deliver queued).held.Perm (queued.stored :: subscription.held) := by
  rw [List.perm_iff_count]
  intro event
  rw [← List.singleton_append]
  simp only [Subscription.held, Subscription.deliver, List.map_append, List.count_append,
    List.map_cons, List.map_nil]
  omega

theorem foldl_deliver (batch : List QueuedEvent) (subscription : Subscription) :
    let after := batch.foldl Subscription.deliver subscription
    after.subject = subscription.subject ∧
      after.held.Perm (batch.map (·.stored) ++ subscription.held) ∧
      after.scheduled = subscription.scheduled ∧ after.delayed = subscription.delayed := by
  induction batch generalizing subscription with
  | nil => exact ⟨rfl, .refl _, rfl, rfl⟩
  | cons queued batch ih =>
    obtain ⟨subject, held, scheduled, delayed⟩ := ih (subscription.deliver queued)
    refine ⟨subject, held.trans ?_, scheduled, delayed⟩
    exact ((deliver_held subscription queued).append_left _).trans List.perm_middle

theorem fetch_moves (fetched : subscription.fetch batch = some next) : Moves subscription next := by
  rw [Subscription.fetch] at fetched
  split at fetched
  next => cases fetched
  next =>
    cases fetched
    obtain ⟨subject, held, scheduled, delayed⟩ := foldl_deliver (subscription.queue.take batch)
      { subscription with queue := subscription.queue.drop batch }
    refine ⟨subject, held.trans ?_,
      fun same => scheduled.trans (same.trans (congrArg List.length delayed.symm))⟩
    rw [List.perm_iff_count]
    intro event
    conv_rhs => rw [Subscription.held, ← List.take_append_drop batch subscription.queue]
    simp only [Subscription.held, List.map_append, List.count_append]
    omega

theorem pop_held (subscription : Subscription) (id : Nat) :
    subscription.held.Perm ((subscription.pop id).1.toList.map (·.stored) ++
      (subscription.pop id).2.held) := by
  rw [Subscription.pop]
  cases found : subscription.inFlight.find? (·.1 == id) with
  | none =>
    have unchanged : subscription.inFlight.eraseP (·.1 == id) = subscription.inFlight :=
      List.eraseP_of_forall_not (List.find?_eq_none.mp found)
    rw [unchanged]
    exact .refl _
  | some delivery =>
    obtain ⟨holds, front, back, split, before⟩ := List.find?_eq_some_iff_append.mp found
    have here : (delivery :: back).eraseP (·.1 == id) = back := List.eraseP_cons_of_pos holds
    have erased : subscription.inFlight.eraseP (·.1 == id) = front ++ back := by
      rw [split, List.eraseP_append_right _ fun other among => by simpa using before other among,
        here]
    rw [List.perm_iff_count]
    intro event
    rw [erased, Subscription.held, split]
    simp only [Subscription.held, Option.map_some, Option.toList_some, List.map_append,
      List.map_cons, List.map_nil, List.count_append, List.count_cons, List.count_nil]
    omega

/-- A delivery that is taken out of the table and put into one of the places has moved. -/
theorem Moves.of_pop {id : Nat} {popped : Subscription}
    (same : subscription.pop id = (taken, popped)) (subject : next.subject = popped.subject)
    (placed : ∀ event, next.held.count event = (taken.toList.map (·.stored)).count event +
      popped.held.count event)
    (scheduled : popped.scheduled = popped.delayed.length → next.scheduled = next.delayed.length) :
    Moves subscription next := by
  have held := pop_held subscription id
  rw [same] at held
  obtain ⟨_, rfl⟩ := Prod.mk.inj same
  refine ⟨subject, .trans (List.perm_iff_count.mpr fun event => ?_) held.symm, scheduled⟩
  rw [placed, List.count_append]

theorem ack_moves (subscription : Subscription) (id : Nat) :
    Moves subscription (subscription.ack id) := by
  rw [Subscription.ack]
  split
  next popped same => exact .of_pop same rfl (by simp) fun counted => counted
  next queued popped same =>
    refine .of_pop same rfl (fun event => ?_) fun counted => counted
    simp only [Subscription.held, Option.toList_some, List.map_append, List.map_cons, List.map_nil,
      List.count_append]
    omega

theorem nak_moves (subscription : Subscription) (id delay : Nat) :
    Moves subscription (subscription.nak id delay) := by
  rw [Subscription.nak]
  split
  next popped same => exact .of_pop same rfl (by simp) fun counted => counted
  next queued popped same =>
    split
    · refine .of_pop same rfl (fun event => ?_) fun counted => counted
      simp only [Subscription.held, Option.toList_some, List.map_append, List.map_cons,
        List.map_nil, List.count_append]
      omega
    · refine .of_pop same rfl (fun event => ?_) fun counted => ?_
      · simp only [Subscription.held, Option.toList_some, List.map_append, List.map_cons,
          List.map_nil, List.count_append]
        omega
      · rw [List.length_append]
        exact congrArg (· + 1) counted

theorem settle_moves {id : Nat} {action : Subscription → Subscription}
    (moves : ∀ subscription, Moves subscription (action subscription))
    (settled : subscription.settle id action = some next) : Moves subscription next := by
  rw [Subscription.settle] at settled
  split at settled
  next => cases settled
  next =>
    split at settled
    next =>
      cases settled
      exact ⟨rfl, .refl _, fun counted => counted⟩
    next =>
      cases settled
      have moved := moves { subscription with settled := id :: subscription.settled }
      exact ⟨moved.subject, moved.held, moved.scheduled⟩

theorem expire_moves (expired : subscription.expire task = some next) :
    Moves subscription next := by
  obtain ⟨queued, waiting, rfl⟩ := Option.map_eq_some_iff.mp expired
  obtain ⟨bound, isQueued⟩ := List.getElem?_eq_some_iff.mp waiting
  have taken : subscription.delayed.Perm (queued :: subscription.delayed.eraseIdx task) := by
    rw [← isQueued]
    exact (List.getElem_cons_eraseIdx_perm bound).symm
  refine ⟨rfl, ?_, fun counted => ?_⟩
  · rw [List.perm_iff_count]
    intro event
    have counts := (taken.map (·.stored)).count_eq event
    rw [List.map_cons, ← List.singleton_append, List.count_append] at counts
    simp only [Subscription.held, List.map_append, List.map_cons, List.map_nil, List.count_append]
    omega
  · rw [List.length_eraseIdx_of_lt bound, ← counted]

/-- A subscription holds what was published for it, and counts its waiting tasks. -/
structure Conserves (events : List StoredEvent) (subscription : Subscription) : Prop where
  held : subscription.held.Perm (events.filter fun event =>
    subjectMatches subscription.subject event.subject)
  scheduled : subscription.scheduled = subscription.delayed.length

theorem Conserves.moves (conserves : Conserves events subscription)
    (moves : Moves subscription next) :
    Conserves events next := by
  refine ⟨?_, moves.scheduled conserves.scheduled⟩
  rw [moves.subject]
  exact moves.held.trans conserves.held

theorem Conserves.publish (conserves : Conserves events subscription) (event : StoredEvent) :
    Conserves (events ++ [event])
      (if subjectMatches subscription.subject event.subject then subscription.enqueue event
    else subscription) := by
  by_cases matched : subjectMatches subscription.subject event.subject = true
  · rw [if_pos matched]
    refine ⟨?_, conserves.scheduled⟩
    have added : (events ++ [event]).filter (fun event =>
        subjectMatches subscription.subject event.subject) =
        events.filter (fun event => subjectMatches subscription.subject event.subject) ++
          [event] := by
      rw [List.filter_append]
      simp [matched]
    exact (enqueue_held subscription event).trans
      ((conserves.held.append_right _).trans (.of_eq added.symm))
  · rw [if_neg matched]
    refine ⟨?_, conserves.scheduled⟩
    have none : [event].filter (fun event => subjectMatches subscription.subject event.subject) =
        [] := by simp [matched]
    rw [List.filter_append, none, List.append_nil]
    exact conserves.held

theorem foldl_enqueue (replayed : List StoredEvent) (subscription : Subscription) :
    let after := replayed.foldl Subscription.enqueue subscription
    after.subject = subscription.subject ∧ after.held.Perm (subscription.held ++ replayed) ∧
      after.scheduled = subscription.scheduled ∧ after.delayed = subscription.delayed := by
  induction replayed generalizing subscription with
  | nil => exact ⟨rfl, .of_eq (List.append_nil _).symm, rfl, rfl⟩
  | cons stored replayed ih =>
    obtain ⟨subject, held, scheduled, delayed⟩ := ih (subscription.enqueue stored)
    refine ⟨subject, held.trans ?_, scheduled, delayed⟩
    rw [List.append_cons]
    exact (enqueue_held subscription stored).append_right _

/-- Every consumer of the bus conserves its events, under the subject of its key. -/
def Delivers (bus : InMemoryEventBus) : Prop :=
  ∀ consumer subscription, bus.subscriptions consumer = some subscription →
    subscription.subject = consumer.1 ∧ Conserves bus.events subscription

theorem Delivers.update {bus after : InMemoryEventBus} {action : Subscription → Option Subscription}
    (delivers : Delivers bus)
    (moves : ∀ subscription next, action subscription = some next → Moves subscription next)
    (updated : bus.update consumer action = some after) : Delivers after := by
  obtain ⟨next, acted, rfl⟩ := Option.map_eq_some_iff.mp updated
  obtain ⟨old, present, acted⟩ := Option.bind_eq_some_iff.mp acted
  intro other subscription found
  obtain ⟨subject, conserves⟩ := delivers consumer old present
  have moved := moves old next acted
  dsimp only at found
  by_cases own : other = consumer
  · subst own
    rw [Function.update_self] at found
    cases found
    exact ⟨moved.subject.trans subject, conserves.moves moved⟩
  · rw [Function.update_of_ne own] at found
    exact delivers other subscription found

theorem Delivers.stays : Stable (Step InMemoryEventBus.next always) Delivers := by
  rintro bus label after ⟨_, stepped⟩ delivers
  cases label with
  | publish event =>
    cases stepped
    intro consumer subscription found
    obtain ⟨old, present, rfl⟩ := Option.map_eq_some_iff.mp found
    obtain ⟨subject, conserves⟩ := delivers consumer old present
    refine ⟨?_, conserves.publish event⟩
    split
    · exact subject
    · exact subject
  | subscribe subject durable =>
    cases stepped
    unfold InMemoryEventBus.subscribe
    split
    next => exact delivers
    next =>
      intro consumer subscription found
      dsimp only at found
      by_cases own : consumer = (subject, durable)
      · subst own
        rw [Function.update_self] at found
        cases found
        obtain ⟨same, held, scheduled, delayed⟩ := foldl_enqueue
          (bus.events.filter fun event => subjectMatches subject event.subject)
            (.opened subject durable)
        refine ⟨same, ?_, scheduled.trans (congrArg List.length delayed.symm)⟩
        rw [same]
        exact held
      · rw [Function.update_of_ne own] at found
        exact delivers consumer subscription found
  | fetch consumer batch => exact delivers.update (fun _ _ fetched => fetch_moves fetched) stepped
  | ack consumer id =>
    exact delivers.update (fun _ _ settled => settle_moves (ack_moves · id) settled) stepped
  | nak consumer id delay =>
    exact delivers.update (fun _ _ settled => settle_moves (nak_moves · id delay) settled) stepped
  | expire consumer task => exact delivers.update (fun _ _ expired => expire_moves expired) stepped

/-- After any steps every consumer has each event of its pattern in one of the four places, so the
metrics with the acknowledged events add up to those published; and the patterns are those of
NATS. -/
theorem delivery_conserves (run : Run (Step InMemoryEventBus.next always) .connected labels bus) :
    (∀ consumer subscription, bus.subscriptions consumer = some subscription →
      (∀ event, (subscription.queue.map (·.stored)).count event +
        (subscription.delayed.map (·.stored)).count event +
          (subscription.inFlight.map (·.2.stored)).count event +
            subscription.acknowledged.count event =
        (bus.events.filter fun event => subjectMatches consumer.1 event.subject).count event) ∧
      subscription.pending + subscription.ackPending + subscription.acknowledged.length =
        (bus.events.filter fun event => subjectMatches consumer.1 event.subject).length) ∧
    ∀ pattern subject : String, subjectMatches pattern subject = true ↔
      Covers (pattern.toList.splitOn '.') (subject.toList.splitOn '.') := by
  have delivers : Delivers bus := run.holds Delivers.stays fun _ _ absent => by cases absent
  refine ⟨fun consumer subscription found => ?_, fun pattern subject => tokensMatch_iff _ _⟩
  obtain ⟨subject, held, scheduled⟩ := delivers consumer subscription found
  rw [subject] at held
  constructor
  · intro event
    rw [← held.count_eq event]
    simp only [Subscription.held, List.map_append, List.map_map, List.count_append]
    rfl
  · rw [← held.length_eq, Subscription.pending, Subscription.ackPending, scheduled]
    simp only [Subscription.held, List.length_append, List.length_map]

/-- Two deliveries: one is put back later, one is acknowledged twice. -/
def sampleLabels : List BusLabel :=
  [.publish ⟨"a.b", "1"⟩, .subscribe "a.*" "d", .publish ⟨"a.c", "2"⟩, .publish ⟨"b", "3"⟩,
    .fetch ("a.*", "d") 5, .nak ("a.*", "d") 1 30, .ack ("a.*", "d") 2, .ack ("a.*", "d") 2]

theorem delivery_conserves_sample : ∃ bus subscription,
    execute InMemoryEventBus.next always .connected sampleLabels = some bus ∧
    bus.subscriptions ("a.*", "d") = some subscription ∧
    subscription.pending + subscription.ackPending + subscription.acknowledged.length =
      (bus.events.filter fun event => subjectMatches "a.*" event.subject).length := by
  have present : ((execute InMemoryEventBus.next always .connected sampleLabels).bind
      (·.subscriptions ("a.*", "d"))).isSome = true := by decide +kernel
  obtain ⟨subscription, found⟩ := Option.isSome_iff_exists.mp present
  obtain ⟨bus, executed, found⟩ := Option.bind_eq_some_iff.mp found
  exact ⟨bus, subscription, executed, found,
    ((delivery_conserves (execute_run executed)).1 _ _ found).2⟩

end conservation

end K8sOps.Events
