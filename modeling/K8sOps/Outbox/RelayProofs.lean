import Mathlib.Data.List.Nodup
import K8sOps.Outbox.Relay

/-! Relays mark only what was published or dead-lettered, in any interleaving, and every
other row can be leased again when its lease has passed. -/
namespace K8sOps.Outbox
open Calls Program Python Transition

section rows

def Database.events (database : Database) : List EventEnvelope := database.outbox.map (·.event)

theorem map_event {outbox : List OutboxRow} {change : OutboxRow → OutboxRow}
    (kept : ∀ row, (change row).event = row.event) :
    (outbox.map change).map (·.event) = outbox.map (·.event) := by
  rw [List.map_map]
  exact List.map_congr_left fun row _ => kept row

theorem unsentEvents_events (limit : Nat) (source : Option String) (moment : Moment)
    (database : Database) :
    (unsentEvents limit source moment database).2.events = database.events :=
  map_event fun row => by split <;> rfl

theorem sentRows_events (eventIds : List String) (now : Int) (database : Database)
    (letters : List EventDeadLetter) :
    (⟨sentRows eventIds now database.outbox, letters⟩ : Database).events = database.events :=
  map_event fun row => by split <;> rfl

theorem unsentEvents_subset (limit : Nat) (source : Option String) (moment : Moment)
    (database : Database) :
    (unsentEvents limit source moment database).1 ⊆ database.events := by
  intro event member
  obtain ⟨row, returned, rfl⟩ := List.mem_map.mp member
  have among := List.mem_of_mem_filter ((moment.arrange_perm _).mem_iff.mp returned)
  have kept := List.mem_map_of_mem (f := fun row : OutboxRow => row.event) among
  rw [map_event fun row => by split <;> rfl] at kept
  exact kept

theorem insertEvent_cases (outbox : List OutboxRow) (event : EventEnvelope) :
    insertEvent outbox event = outbox ∨
      insertEvent outbox event = outbox ++ [⟨outbox.length, event, none, none, none⟩] ∧
        ∀ row ∈ outbox, row.event.eventId ≠ event.eventId := by
  unfold insertEvent
  split
  next => exact .inl rfl
  next absent =>
    refine .inr ⟨rfl, fun row member same => absent ?_⟩
    exact List.any_eq_true.mpr ⟨row, member, by simpa using same⟩

end rows

section lease
variable {limit : Nat} {source : Option String} {moment : Moment} {database : Database}
  {row : OutboxRow}

theorem mem_unsentEvents (member : row ∈ database.outbox)
    (claimed : row.id ∈ claimedIds limit source moment database.outbox) :
    row.event ∈ (unsentEvents limit source moment database).1 := by
  refine List.mem_map.mpr ⟨row.lease moment, (moment.arrange_perm _).mem_iff.mpr ?_, rfl⟩
  exact List.mem_filter.mpr ⟨List.mem_map.mpr ⟨row, member, if_pos claimed⟩, decide_eq_true claimed⟩

theorem claimedIds_room (split : outbox = front ++ row :: back)
    (claimable : row.claimable source moment = true)
    (room : front.countP (·.claimable source moment) < limit) :
    row.id ∈ claimedIds limit source moment outbox := by
  refine List.mem_map.mpr ⟨row, ?_, rfl⟩
  rw [split, List.filter_append, List.filter_cons_of_pos claimable, List.take_append,
    List.mem_append]
  rw [List.countP_eq_length_filter] at room
  obtain ⟨more, isMore⟩ := Nat.exists_eq_add_of_lt room
  have left : limit - (front.filter (·.claimable source moment)).length = more + 1 := by omega
  rw [left, List.take_succ_cons]
  exact .inr List.mem_cons_self

/-- A claimable row is leased by a call with room for the claimable rows before it. -/
theorem unsentEvents_leases (split : database.outbox = front ++ row :: back)
    (claimable : row.claimable source moment = true)
    (room : front.countP (·.claimable source moment) < limit) :
    row.event ∈ (unsentEvents limit source moment database).1 :=
  mem_unsentEvents (by rw [split]; simp) (claimedIds_room split claimable room)

theorem unsentEvents_split (split : database.outbox = front ++ row :: back)
    (skipped : row.id ∉ claimedIds limit source moment database.outbox) :
    (unsentEvents limit source moment database).2.outbox =
      front.map (fun other => if other.id ∈ claimedIds limit source moment database.outbox then
        other.lease moment
        else other) ++ row :: back.map fun other =>
        if other.id ∈ claimedIds limit source moment database.outbox then other.lease moment
        else other := by
  have mapped := congrArg (List.map fun other : OutboxRow =>
    if other.id ∈ claimedIds limit source moment database.outbox then other.lease moment
    else other) split
  rw [List.map_append, List.map_cons, if_neg skipped] at mapped
  exact mapped

theorem lease_claimable (lasting : moment.now ≤ moment.clock + defaultOutboxLeaseSeconds) :
    (row.lease moment).claimable source moment = false := by
  have unavailable : (row.lease moment).available moment.now = false := by
    simpa [OutboxRow.available, OutboxRow.lease] using lasting
  rw [OutboxRow.claimable, unavailable, Bool.and_false, Bool.false_and, Bool.false_and]

/-- A call that does not get to the row leaves fewer claimable rows before it. -/
theorem unsentEvents_count (split : database.outbox = front ++ row :: back)
    (claimable : row.claimable source moment = true) (positive : 0 < limit)
    (lasting : moment.now ≤ moment.clock + defaultOutboxLeaseSeconds)
    (skipped : row.id ∉ claimedIds limit source moment database.outbox) :
    (front.map fun other => if other.id ∈ claimedIds limit source moment database.outbox then
      other.lease moment
      else other).countP (·.claimable source moment) <
        front.countP (·.claimable source moment) := by
  have full : limit ≤ front.countP (·.claimable source moment) :=
    Nat.le_of_not_lt fun room => skipped (claimedIds_room split claimable room)
  obtain ⟨first, inFront, claimableFirst, claimed⟩ :
      ∃ first ∈ front, first.claimable source moment = true ∧
      first.id ∈ claimedIds limit source moment database.outbox := by
    rw [List.countP_eq_length_filter] at full
    obtain ⟨first, rest, found⟩ := List.exists_cons_of_length_pos (Nat.lt_of_lt_of_le positive full)
    have among : first ∈ front.filter (·.claimable source moment) := found ▸ List.mem_cons_self
    obtain ⟨inFront, claimableFirst⟩ := List.mem_filter.mp among
    refine ⟨first, inFront, claimableFirst, List.mem_map.mpr ⟨first, ?_, rfl⟩⟩
    obtain ⟨limit, rfl⟩ := Nat.exists_eq_succ_of_ne_zero (Nat.ne_of_gt positive)
    rw [split, List.filter_append, found, List.cons_append, List.take_succ_cons]
    exact List.mem_cons_self
  have kept :
      (fun other : OutboxRow => (if other.id ∈ claimedIds limit source moment database.outbox then
        other.lease moment else other).claimable source moment) =
      fun other => other.claimable source moment &&
        !decide (other.id ∈ claimedIds limit source moment database.outbox) := by
    funext other
    split
    next isClaimed =>
      rw [lease_claimable lasting, decide_eq_true isClaimed, Bool.not_true, Bool.and_false]
    next notClaimed => rw [decide_eq_false notClaimed, Bool.not_false, Bool.and_true]
  rw [List.countP_map, List.countP_eq_countP_filter_add front (·.claimable source moment)
    (fun other => decide (other.id ∈ claimedIds limit source moment database.outbox)),
    Function.comp_def, kept, ← List.countP_filter]
  refine Nat.lt_add_of_pos_left (List.countP_pos_iff.mpr ⟨first, ?_, claimableFirst⟩)
  exact List.mem_filter.mpr ⟨inFront, decide_eq_true claimed⟩

/-- With leases that are not past already, calls of any positive size get to every row. -/
theorem unsentEvents_reaches (split : database.outbox = front ++ row :: back)
    (claimable : row.claimable source moment = true) (positive : 0 < limit)
    (lasting : moment.now ≤ moment.clock + defaultOutboxLeaseSeconds) :
    ∃ calls, row.event ∈
      (unsentEvents limit source moment
        ((fun db => (unsentEvents limit source moment db).2)^[calls] database)).1 := by
  generalize size : front.countP (·.claimable source moment) = count
  induction count using Nat.strong_induction_on generalizing database front back with
  | _ count ih =>
    by_cases claimed : row.id ∈ claimedIds limit source moment database.outbox
    · have member : row ∈ database.outbox := by rw [split]; simp
      exact ⟨0, mem_unsentEvents member claimed⟩
    · obtain ⟨calls, reached⟩ :=
        ih _ (size ▸ unsentEvents_count split claimable positive lasting claimed)
        (unsentEvents_split split claimed) rfl
      exact ⟨calls + 1, reached⟩

end lease

section marks

/-- What a call can answer, and what it can leave. -/
def Respond (op : Call) (s : World) (answer : op.Answer) (t : World) : Prop :=
  ∃ outcome moment, answer = op.answer outcome moment s ∧ t = op.after outcome moment s

/-- Nothing that was published or staged goes away. -/
structure Grows (s t : World) : Prop where
  broker : s.broker ⊆ t.broker
  events : s.database.events ⊆ t.database.events

theorem Grows.refl (s : World) : Grows s s := ⟨List.Subset.refl _, List.Subset.refl _⟩

theorem Grows.trans ⦃s t u : World⦄ (first : Grows s t) (second : Grows t u) : Grows s u :=
  ⟨List.Subset.trans first.broker second.broker, List.Subset.trans first.events second.events⟩

/-- The event of this id is staged and was published. -/
def Published (world : World) (eventId : String) : Prop :=
  ∃ event ∈ world.broker, event ∈ world.database.events ∧ event.eventId = eventId

theorem Published.later (published : Published s eventId) (grows : Grows s t) :
    Published t eventId := by
  obtain ⟨event, sent, staged, named⟩ := published
  exact ⟨event, grows.broker sent, grows.events staged, named⟩

/-- Only published events are marked as sent. -/
def Allowed : Call → World → Prop
  | .markEventsSent eventIds, world => ∀ eventId ∈ eventIds, Published world eventId
  | _, _ => True

theorem Call.effect_grows (moment : Moment) (world : World) (op : Call) :
    Grows world (op.effect moment world) := by
  cases op with
  | unsentEvents limit source =>
    exact ⟨List.Subset.refl _, (unsentEvents_events ..).symm ▸ List.Subset.refl _⟩
  | publishEnvelope event => exact ⟨List.subset_append_left .., List.Subset.refl _⟩
  | markEventsDeadLettered events consumer error =>
    exact ⟨List.Subset.refl _, (sentRows_events ..).symm ▸ List.Subset.refl _⟩
  | markEventsSent eventIds =>
    exact ⟨List.Subset.refl _, (sentRows_events ..).symm ▸ List.Subset.refl _⟩

theorem Respond.grows (response : Respond op s answer t) : Grows s t := by
  obtain ⟨outcome, moment, _, rfl⟩ := response
  unfold Call.after
  split
  · exact op.effect_grows moment s
  · exact .refl s

abbrev Cautious (process : Process α) (world : World) (post : α → World → Prop) : Prop :=
  Careful Respond Grows Allowed process world post

/-- A call that is allowed whatever the others do, and what follows each answer. -/
theorem Cautious.ask_bind {next : op.Answer → Process α} {post : α → World → Prop}
    (permitted : ∀ t, Grows world t → Allowed op t)
    (rest : ∀ t outcome moment, Grows world t →
      Cautious (next (op.answer outcome moment t)) (op.after outcome moment t) post) :
    Cautious (ask op >>= next) world post := by
  intro t grows
  refine ⟨permitted t grows, fun answer u response => ?_⟩
  obtain ⟨outcome, moment, rfl, rfl⟩ := response
  exact rest t outcome moment grows

theorem Call.after_grows (outcome : Outcome) (moment : Moment) (world : World) (op : Call) :
    Grows world (op.after outcome moment world) := Respond.grows ⟨outcome, moment, rfl, rfl⟩

theorem publishRows_cautious (relay : Relay) (rows : List EventEnvelope)
    (staged : rows ⊆ world.database.events)
    (known : ∀ eventId ∈ published, Published world eventId) :
    Cautious (publishRows relay rows published) world
      fun result t => ∀ eventId ∈ result.1, Published t eventId := by
  induction rows generalizing world published with
  | nil => exact Careful.of_pure fun t grows eventId member => (known eventId member).later grows
  | cons event rows ih =>
    refine Cautious.ask_bind (fun _ _ => trivial) fun t outcome moment grows => ?_
    have still := grows.trans (Call.after_grows outcome moment t (.publishEnvelope event))
    have stagedLater :
        rows ⊆ (Call.after outcome moment t (.publishEnvelope event)).database.events :=
      List.Subset.trans (List.subset_cons_self ..) (List.Subset.trans staged still.events)
    cases outcome with
    | returned =>
      refine ih stagedLater fun eventId member => ?_
      rcases List.mem_append.mp member with old | new
      · exact (known eventId old).later still
      · rw [List.mem_singleton.mp new]
        exact ⟨event, List.mem_append_right _ (List.mem_singleton_self _),
          grows.events (staged List.mem_cons_self), rfl⟩
    | raised failure tookEffect =>
      have knownLater : ∀ eventId ∈ published,
          Published (Call.after (.raised failure tookEffect) moment t (.publishEnvelope event))
            eventId :=
        fun eventId member => (known eventId member).later still
      dsimp only [Call.answer, Outcome.answer]
      split
      · refine Cautious.ask_bind (fun _ _ => trivial) fun u outcome moment growsMore => ?_
        have more := growsMore.trans (Call.after_grows outcome moment u
          (.markEventsDeadLettered [event] relay.consumerName failure.text))
        cases outcome with
        | returned =>
          exact ih (List.Subset.trans stagedLater more.events) fun eventId member =>
            (knownLater eventId member).later more
        | raised =>
          exact Careful.of_pure fun _ last eventId member =>
            (knownLater eventId member).later (more.trans last)
      · exact Careful.of_pure fun _ last eventId member => (knownLater eventId member).later last

theorem asyncRetryDbConflict_cautious {operation : Process (Except Failure α)}
    {post : Except Failure α → World → Prop} (careful : ∀ world, Cautious operation world post)
    (stable : ∀ result ⦃s t⦄, Grows s t → post result s → post result t)
    (failed : ∀ failure world, post (.error failure) world) (attempts : Nat) (world : World) :
    Cautious (asyncRetryDbConflict operation attempts) world post := by
  induction attempts generalizing world with
  | zero => exact Careful.of_pure fun t _ => failed _ t
  | succ attempts ih =>
    refine Careful.bind Grows.refl (careful world) fun result t met => ?_
    cases result with
    | ok value => exact Careful.of_pure fun _ grows => stable _ grows met
    | error failure =>
      dsimp only
      split
      · exact Careful.of_pure fun _ grows => stable _ grows met
      · exact ih t

theorem unsentEvents_cautious (limit : Nat) (source : Option String) (world : World) :
    Cautious (ask (.unsentEvents limit source)) world
      fun result t => ∀ rows, result = .ok rows → rows ⊆ t.database.events := by
  intro t _
  refine ⟨trivial, fun answer u response v grows rows returned => ?_⟩
  obtain ⟨outcome, moment, rfl, rfl⟩ := response
  cases outcome with
  | returned =>
    cases returned
    refine List.Subset.trans ?_ grows.events
    exact List.Subset.trans (unsentEvents_subset ..)
      (Call.after_grows .returned moment t (.unsentEvents limit source)).events
  | raised => cases returned

/-- Every call of a batch is allowed, whatever the others do in between. -/
theorem runOnce_cautious (relay : Relay) (world : World) :
    Cautious (runOnce relay) world fun _ _ => True := by
  have leased := asyncRetryDbConflict_cautious (unsentEvents_cautious relay.batch relay.source)
    (fun result s t grows staged rows returned =>
      List.Subset.trans (staged rows returned) grows.events)
    (fun _ _ _ failed => nomatch failed) 3 world
  refine Careful.bind Grows.refl leased fun result t staged => ?_
  cases result with
  | error failure => exact Careful.of_pure fun _ _ => trivial
  | ok rows =>
    refine Careful.bind Grows.refl (publishRows_cautious relay rows (staged rows rfl) fun _ none_ =>
      nomatch none_) fun result u known => ?_
    obtain ⟨published, raised⟩ := result
    dsimp only
    split
    · exact Careful.of_pure fun _ _ => trivial
    · refine Cautious.ask_bind (fun _ grows eventId member => (known eventId member).later grows)
        fun _ outcome _ _ => ?_
      cases outcome with
      | returned => exact Careful.of_pure fun _ _ => trivial
      | raised => exact Careful.of_pure fun _ _ => trivial

end marks

section invariant

/-- The table keeps event ids apart, and a row with a lease has the end of it. -/
structure Sane (database : Database) : Prop where
  unique : (database.events.map (·.eventId)).Nodup
  leased : ∀ row ∈ database.outbox, row.leaseId.isSome = true → row.leasedUntil.isSome = true

theorem Sane.map {change : OutboxRow → OutboxRow} {letters : List EventDeadLetter}
    (sane : Sane database) (kept : ∀ row, (change row).event = row.event)
    (paired : ∀ row ∈ database.outbox, (row.leaseId.isSome = true → row.leasedUntil.isSome = true) →
      (change row).leaseId.isSome = true → (change row).leasedUntil.isSome = true) :
    Sane ⟨database.outbox.map change, letters⟩ := by
  constructor
  · have same : (⟨database.outbox.map change, letters⟩ : Database).events = database.events :=
      map_event kept
    rw [same]
    exact sane.unique
  · intro row member
    obtain ⟨old, among, rfl⟩ := List.mem_map.mp member
    exact paired old among (sane.leased old among)

theorem Sane.effect (sane : Sane world.database) (op : Call) (moment : Moment) :
    Sane (op.effect moment world).database := by
  have marked (eventIds : List String) (letters : List EventDeadLetter) :
      Sane ⟨sentRows eventIds moment.now world.database.outbox, letters⟩ :=
    sane.map (fun row => by split <;> rfl) fun row _ paired => by
      split
      · exact fun impossible => nomatch impossible
      · exact paired
  cases op with
  | publishEnvelope event => exact sane
  | unsentEvents limit source =>
    refine sane.map (fun row => by split <;> rfl) fun row _ paired => ?_
    split
    · exact fun _ => rfl
    · exact paired
  | markEventsDeadLettered events consumer error => exact marked ..
  | markEventsSent eventIds => exact marked ..

theorem Sane.insertEvent (sane : Sane ⟨outbox, letters⟩) (event : EventEnvelope) :
    Sane ⟨Outbox.insertEvent outbox event, letters⟩ := by
  rcases insertEvent_cases outbox event with same | ⟨added, fresh⟩
  · rw [same]
    exact sane
  · rw [added]
    constructor
    · have events : (⟨outbox ++ [⟨outbox.length, event, none, none, none⟩],
          letters⟩ : Database).events.map (·.eventId) =
          outbox.map (fun row => row.event.eventId) ++ [event.eventId] := by
        simp [Database.events]
      have unique : (outbox.map fun row => row.event.eventId).Nodup := by
        simpa [Database.events, Function.comp_def] using sane.unique
      rw [events, List.nodup_append]
      refine ⟨unique, List.nodup_singleton _, fun one member two isNew => ?_⟩
      obtain ⟨row, among, rfl⟩ := List.mem_map.mp member
      rw [List.mem_singleton.mp isNew]
      exact fresh row among
    · intro row member
      rcases List.mem_append.mp member with old | new
      · exact sane.leased row old
      · rw [List.mem_singleton.mp new]
        exact fun impossible => nomatch impossible

theorem Sane.stageEvents (sane : Sane database) (events : List EventEnvelope) :
    Sane (Outbox.stageEvents events database) := by
  obtain ⟨outbox, letters⟩ := database
  show Sane ⟨events.foldl Outbox.insertEvent outbox, letters⟩
  induction events generalizing outbox with
  | nil => exact sane
  | cons event events ih => exact ih _ (sane.insertEvent event)

theorem stageEvents_grows (events : List EventEnvelope) (world : World) :
    Grows world { world with database := Outbox.stageEvents events world.database } := by
  refine ⟨List.Subset.refl _, ?_⟩
  show world.database.outbox.map (·.event) ⊆
    (events.foldl insertEvent world.database.outbox).map (·.event)
  generalize world.database.outbox = outbox
  induction events generalizing outbox with
  | nil => exact List.Subset.refl _
  | cons event events ih =>
    refine List.Subset.trans ?_ (ih (insertEvent outbox event))
    rcases insertEvent_cases outbox event with same | ⟨added, _⟩
    · rw [same]
      exact List.Subset.refl _
    · rw [added, List.map_append]
      exact List.subset_append_left ..

/-- What holds between steps: the table is sane and every running relay is cautious. -/
structure System.Invariant (system : System) : Prop where
  sane : Sane system.world.database
  careful : system.relays.Careful Respond Grows Allowed system.world

theorem System.empty_invariant (letters : List EventDeadLetter) (broker : List EventEnvelope) :
    (System.empty letters broker).Invariant :=
  ⟨⟨List.nodup_nil, fun _ none_ => nomatch none_⟩, fun _ _ none_ => nomatch none_⟩

theorem System.Invariant.call {system : System} (holds : system.Invariant)
    (running : system.relays index = some (.call op rest)) (outcome : Outcome) (moment : Moment) :
    Allowed op system.world ∧ System.Invariant {
      world := op.after outcome moment system.world
      relays := system.relays.set index
        (some (rest (op.answer outcome moment system.world))) } := by
  obtain ⟨allowed, careful⟩ := holds.careful.call Grows.refl Grows.trans
    (fun op s answer t _ response => response.grows) running ⟨outcome, moment, rfl, rfl⟩
  refine ⟨allowed, ?_, careful⟩
  show Sane (op.after outcome moment system.world).database
  unfold Call.after
  split
  · exact holds.sane.effect op moment
  · exact holds.sane

theorem System.invariant_stable : Stable (Step System.next always) System.Invariant := by
  intro system label later step holds
  obtain ⟨_, next⟩ := step
  cases label with
  | stage events =>
    cases next
    exact ⟨holds.sane.stageEvents events,
      holds.careful.later Grows.trans (stageEvents_grows events _)⟩
  | start index relay =>
    cases next
    refine ⟨holds.sane, holds.careful.set fun program same => ?_⟩
    cases same
    exact runOnce_cautious relay _
  | stop index =>
    cases next
    exact ⟨holds.sane, holds.careful.set fun program none_ => nomatch none_⟩
  | call index outcome moment =>
    rw [System.next] at next
    split at next
    next op rest running =>
      cases next
      exact (holds.call running outcome moment).2
    next => cases next

end invariant

section marking
variable {system : System} {row : OutboxRow}

theorem mem_sentRows (member : row ∈ sentRows eventIds now outbox) :
    row ∈ outbox ∨ row.event ∈ outbox.map (·.event) ∧ row.event.eventId ∈ eventIds := by
  obtain ⟨before, among, changed⟩ := List.mem_map.mp member
  split at changed
  next named =>
    subst changed
    exact .inr ⟨List.mem_map.mpr ⟨before, among, rfl⟩, named⟩
  next =>
    subst changed
    exact .inl among

theorem Sane.event_eq (sane : Sane database) (one : first ∈ database.events)
    (two : second ∈ database.events) (same : first.eventId = second.eventId) : first = second :=
  List.inj_on_of_nodup_map sane.unique one two same

/-- What a change of the table may do to a row that was not sent before. -/
def Accounted (before after : World) (row : OutboxRow) : Prop :=
  (∃ old ∈ before.database.outbox, old.id = row.id ∧ old.event = row.event ∧
    old.sentAt.isSome = true) ∨ row.event ∈ before.broker ∨
    ∃ added, after.database.deadLetters = before.database.deadLetters ++ added ∧
      ∃ letter ∈ added, letter.originalEventId = row.event.eventId ∧ letter.status = .opened

/-- A row that a call marks was published, or gets a dead letter in the same transaction. -/
theorem System.Invariant.call_accounted (holds : system.Invariant)
    (running : system.relays index = some (.call op rest)) (outcome : Outcome) (moment : Moment)
    (member : row ∈ (op.after outcome moment system.world).database.outbox)
    (sent : row.sentAt.isSome = true) :
    Accounted system.world (op.after outcome moment system.world) row := by
  have allowed := (holds.call running outcome moment).1
  unfold Call.after at member ⊢
  split at member
  next tookEffect =>
    rw [if_pos tookEffect]
    cases op with
    | publishEnvelope event => exact .inl ⟨row, member, rfl, rfl, sent⟩
    | unsentEvents limit source =>
      obtain ⟨before, among, changed⟩ := List.mem_map.mp member
      split at changed
      next =>
        subst changed
        exact .inl ⟨before, among, rfl, rfl, sent⟩
      next =>
        subst changed
        exact .inl ⟨before, among, rfl, rfl, sent⟩
    | markEventsSent eventIds =>
      rcases mem_sentRows member with same | ⟨staged, named⟩
      · exact .inl ⟨row, same, rfl, rfl, sent⟩
      · obtain ⟨event, published, alsoStaged, isEvent⟩ := allowed _ named
        rw [holds.sane.event_eq alsoStaged staged isEvent] at published
        exact .inr (.inl published)
    | markEventsDeadLettered events consumer error =>
      rcases mem_sentRows member with same | ⟨_, named⟩
      · exact .inl ⟨row, same, rfl, rfl, sent⟩
      · obtain ⟨event, among, isEvent⟩ := List.mem_map.mp named
        exact .inr (.inr ⟨_, rfl, deadLetter consumer error event, List.mem_map_of_mem among,
          isEvent, rfl⟩)
  next => exact .inl ⟨row, member, rfl, rfl, sent⟩

theorem mem_foldl_insertEvent {events : List EventEnvelope}
    (member : row ∈ events.foldl insertEvent outbox) (sent : row.sentAt.isSome = true) :
    row ∈ outbox := by
  induction events generalizing outbox with
  | nil => exact member
  | cons event events ih =>
    have inserted := ih member
    rcases insertEvent_cases outbox event with same | ⟨added, _⟩
    · exact same ▸ inserted
    · rw [added] at inserted
      rcases List.mem_append.mp inserted with old | new
      · exact old
      · rw [List.mem_singleton.mp new] at sent
        cases sent

theorem System.Invariant.accounted (holds : system.Invariant)
    (next : system.next label = some later) (member : row ∈ later.world.database.outbox)
    (sent : row.sentAt.isSome = true) :
    Accounted system.world later.world row := by
  cases label with
  | stage events =>
    cases next
    exact .inl ⟨row, mem_foldl_insertEvent member sent, rfl, rfl, sent⟩
  | start index relay =>
    cases next
    exact .inl ⟨row, member, rfl, rfl, sent⟩
  | stop index =>
    cases next
    exact .inl ⟨row, member, rfl, rfl, sent⟩
  | call index outcome moment =>
    rw [System.next] at next
    split at next
    next op rest running =>
      cases next
      exact holds.call_accounted running outcome moment member sent
    next => cases next

theorem Sane.claimable {moment : Moment} (sane : Sane database) (member : row ∈ database.outbox)
    (unsent : row.sentAt = none)
    (passed : ∀ leasedUntil, row.leasedUntil = some leasedUntil → leasedUntil < moment.now)
    (wanted : ∀ name, source = some name → row.event.source = name)
    (unlocked : row.id ∉ moment.locked) :
    row.claimable source moment = true := by
  have available : row.available moment.now = true := by
    rw [OutboxRow.available]
    cases lease : row.leaseId with
    | none => rfl
    | some leaseId =>
      obtain ⟨leasedUntil, found⟩ :=
        Option.isSome_iff_exists.mp (sane.leased row member (by rw [lease]; rfl))
      simp [found, passed leasedUntil found]
  have matching : source.all (row.event.source = ·) = true := by
    cases source with
    | none => rfl
    | some name => simpa using wanted name rfl
  simp [OutboxRow.claimable, unsent, available, matching, unlocked]

/-- Relays lose nothing, in any interleaving of batches, failures and crashes. A row is
marked only when its event has been published, or together with its dead letter. A call
that comes after the lease of an unmarked row leases it, if it has room, and calls of any
positive size get to it if their own leases last. -/
theorem outbox_loses_nothing (deadLetters : List EventDeadLetter) (broker : List EventEnvelope)
    (run : Run (Step System.next always) (System.empty deadLetters broker) labels system) :
    (∀ label later, system.next label = some later →
      ∀ row ∈ later.world.database.outbox, row.sentAt.isSome = true →
      Accounted system.world later.world row) ∧
    ∀ front row back, system.world.database.outbox = front ++ row :: back → row.sentAt = none →
      ∀ (moment : Moment) (source : Option String),
        (∀ leasedUntil, row.leasedUntil = some leasedUntil → leasedUntil < moment.now) →
        (∀ name, source = some name → row.event.source = name) → row.id ∉ moment.locked →
        (∀ limit, front.countP (·.claimable source moment) < limit →
          row.event ∈ (unsentEvents limit source moment system.world.database).1) ∧
        ∀ limit, 0 < limit → moment.now ≤ moment.clock + defaultOutboxLeaseSeconds → ∃ calls,
          row.event ∈ (unsentEvents limit source moment
            ((fun database => (unsentEvents limit source moment database).2)^[calls]
              system.world.database)).1 := by
  have holds := run.holds System.invariant_stable (System.empty_invariant deadLetters broker)
  refine ⟨fun label later next row member sent => holds.accounted next member sent, ?_⟩
  intro front row back split unsent moment source passed wanted unlocked
  have member : row ∈ system.world.database.outbox := by rw [split]; simp
  have claimable := holds.sane.claimable member unsent passed wanted unlocked
  exact ⟨fun limit room => unsentEvents_leases split claimable room,
    fun limit positive lasting => unsentEvents_reaches split claimable positive lasting⟩

section sample

def stagedEvent (eventId : String) : EventEnvelope where
  eventId := eventId
  subject := "git.changed"
  source := "gitops"
  correlationId := "flow"
  causationId := none
  createdAt := "2026-01-01T00:00:00Z"
  payload := []
  schemaVersion := 1
  workspaceId := none

def sampleMoment : Moment := ⟨100, 100, "lease", [], id, fun _ => List.Perm.refl _⟩

def publishedLabels : List System.Label :=
  [.stage [stagedEvent "one", stagedEvent "two"], .start 0 ⟨none, 1⟩,
    .call 0 .returned sampleMoment, .call 0 .returned sampleMoment]

def publishedSystem : Option System :=
  execute System.next always (System.empty [] []) publishedLabels

/-- The first row is marked next, and the second can be leased. -/
theorem outbox_loses_nothing_sample : ∃ system later,
    Run (Step System.next always) (System.empty [] []) publishedLabels system ∧
    system.next (.call 0 .returned sampleMoment) = some later ∧
    (∃ row ∈ later.world.database.outbox, row.sentAt.isSome = true ∧
      Accounted system.world later.world row) ∧
    ∃ row ∈ system.world.database.outbox, row.sentAt = none ∧
      row.event ∈ (unsentEvents 2 none sampleMoment system.world.database).1 := by
  let system := publishedSystem.get (by decide +kernel)
  let later := (system.next (.call 0 .returned sampleMoment)).get (by decide +kernel)
  have run : Run (Step System.next always) (System.empty [] []) publishedLabels system :=
    execute_run (Option.some_get _).symm
  have next : system.next (.call 0 .returned sampleMoment) = some later := (Option.some_get _).symm
  obtain ⟨accounted, leases⟩ := outbox_loses_nothing [] [] run
  have marked : later.world.database.outbox.any (fun row => row.sentAt.isSome) = true := by
    decide +kernel
  have waiting : system.world.database.outbox.any (fun row => row.sentAt.isNone &&
      row.leasedUntil.isNone) = true := by
    decide +kernel
  have size : system.world.database.outbox.length = 2 := by decide +kernel
  obtain ⟨row, member, sent⟩ := List.any_eq_true.mp marked
  obtain ⟨other, staged, open_⟩ := List.any_eq_true.mp waiting
  rw [Bool.and_eq_true, Option.isNone_iff_eq_none, Option.isNone_iff_eq_none] at open_
  obtain ⟨unsent, unleased⟩ := open_
  refine ⟨system, later, run, next, ⟨row, member, sent, accounted _ later next row member sent⟩,
    other, staged, unsent, ?_⟩
  obtain ⟨front, back, split⟩ := List.append_of_mem staged
  have passed : ∀ leasedUntil, other.leasedUntil = some leasedUntil →
      leasedUntil < sampleMoment.now := by
    intro leasedUntil found
    cases unleased.symm.trans found
  refine (leases front other back split unsent sampleMoment none passed nofun
    (List.not_mem_nil)).1 2 ?_
  rw [split, List.length_append, List.length_cons] at size
  have bound :=
    List.countP_le_length (p := fun row : OutboxRow => row.claimable none sampleMoment) (l := front)
  omega

end sample

end marking

end K8sOps.Outbox
