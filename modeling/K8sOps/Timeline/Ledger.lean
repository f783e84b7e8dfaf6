import K8sOps.Timeline.Event
import K8sOps.Transition
import Mathlib.Data.List.Nodup

/-! The durable ledger of one workspace. A transaction that appends holds the row of the cursor, so
the transactions take turns, and one that rolls back leaves neither rows nor numbers behind. The
stored sequences are gap-free, and the first committed occurrence of a source key is the one
kept. -/
namespace K8sOps.Timeline
open Python Transition

section append

structure LedgerCursor where
  lastSequence : Nat
  retainedFromSequence : Nat

/-- The rows of one workspace. -/
structure TimelineLedger where
  cursor : Option LedgerCursor
  rows : List LedgerRow

structure TimelineLedgerAppend where
  event : TimelineEvent
  sequence : Nat
  inserted : Bool

def TimelineLedger.empty : TimelineLedger := ⟨none, []⟩

def timelineAppendChunk : Nat := 1000

/-- `dict.fromkeys(event.source_key for event in batch)`. -/
def sourceKeys (batch : List TimelineEvent) : List String :=
  (Dict.ofPairs (batch.map fun event => (event.sourceKey, ()))).map Prod.fst

def firstEvents (batch : List TimelineEvent) : List (String × TimelineEvent) :=
  Dict.ofPairs (batch.map fun event => (event.sourceKey, event)).reverse

def existingRows (keys : List String) (rows : List LedgerRow) : List (String × LedgerRow) :=
  Dict.ofPairs ((rows.filter fun row => keys.contains row.sourceKey).map fun row =>
    (row.sourceKey, row))

def newEvents (batch : List TimelineEvent)
    (existing : List (String × LedgerRow)) : List TimelineEvent :=
  (sourceKeys batch).filterMap fun key =>
    if (existing.lookup key).isSome then none else (firstEvents batch).lookup key

/-- One `INSERT`; `none` is a violation of the primary key or of the unique source key. -/
def insertRows (rows chunk : List LedgerRow) : Option (List LedgerRow) :=
  chunk.foldlM (fun rows row =>
    if rows.any fun other => other.sequence == row.sequence ||
        other.sourceKey == row.sourceKey then none
    else some (rows ++ [row])) rows

/-- One chunk, and `inserted_rows.update` with the rows that came back. -/
def insertChunk (state : List LedgerRow × List (String × LedgerRow)) (chunk : List LedgerRow) :
    Option (List LedgerRow × List (String × LedgerRow)) :=
  (insertRows state.1 chunk).map fun rows =>
    (rows, chunk.foldl (fun inserted row => Dict.assign row.sourceKey row inserted) state.2)

/-- `[values[start : start + size] for start in range(0, len(values), size)]`. -/
def slices (size : Nat) (values : List α) : List (List α) :=
  (List.range ((values.length + size - 1) / size)).map fun index =>
    (values.drop (index * size)).take size

/-- Number the new events after the last ones and insert them. -/
def insertNew (events : List TimelineEvent) (cursor : LedgerCursor) (rows : List LedgerRow) :
    Option (LedgerCursor × List LedgerRow × List (String × LedgerRow)) :=
  if events.isEmpty then some (cursor, rows, [])
  else
    let highWater := cursor.lastSequence + events.length
    let firstSequence := highWater - events.length + 1
    let values := events.mapIdx fun index event =>
      eventValues event.toTimelineEventFields (firstSequence + index)
    ((slices timelineAppendChunk values).foldlM insertChunk (rows, [])).map fun state =>
      ({ cursor with lastSequence := highWater }, state)

/-- The reports in the order of the batch; a key is reported as inserted once. -/
def reportAppends (rowsByKey : String → Option LedgerRow) (inserted : String → Bool) :
    List String → List TimelineEvent → Option (List TimelineLedgerAppend)
  | _, [] => some []
  | reported, event :: rest => do
    let row ← rowsByKey event.sourceKey
    let stored ← eventFromRow row
    let appends ← reportAppends rowsByKey inserted (event.sourceKey :: reported) rest
    return ⟨stored, row.sequence, inserted event.sourceKey &&
      !reported.contains event.sourceKey⟩ :: appends

/-- `none` is an exception. A batch is appended to the ledger of its workspace, so one that
names another workspace, or more than one, is refused here. -/
def appendTimelineEvents (workspaceId : String) (batch : List TimelineEvent)
    (ledger : TimelineLedger) : Option (List TimelineLedgerAppend × TimelineLedger) :=
  if batch.isEmpty then some ([], ledger)
  else if batch.any fun event => event.scope.workspaceId != workspaceId then none
  else do
    -- `ON CONFLICT DO NOTHING`, and the lock on the row.
    let cursor := ledger.cursor.getD ⟨0, 1⟩
    let existing := existingRows (sourceKeys batch) ledger.rows
    let (cursor, rows, inserted) ← insertNew (newEvents batch existing) cursor ledger.rows
    -- `{**existing_rows, **inserted_rows}`.
    let appends ← reportAppends (fun key => (inserted.lookup key).or (existing.lookup key))
      (fun key => (inserted.lookup key).isSome) [] batch
    return (appends, ⟨some cursor, rows⟩)

end append

section transactions
variable {ι : Type} [DecidableEq ι]

/-- A call with what it returned. -/
abbrev AppendCall := List TimelineEvent × List TimelineLedgerAppend

/-- The transaction that holds the row of the cursor, with the ledger as it sees it. -/
structure LedgerTransaction (ι : Type) where
  owner : ι
  ledger : TimelineLedger
  calls : List AppendCall

structure LedgerWorld (ι : Type) where
  committed : TimelineLedger
  transaction : Option (LedgerTransaction ι)
  /-- The calls of the committed transactions, in the order of the commits. -/
  calls : List AppendCall

inductive LedgerLabel (ι : Type) where
  | append (index : ι) (batch : List TimelineEvent)
  | commit (index : ι)
  | rollback (index : ι)

namespace LedgerWorld

def initial : LedgerWorld ι := ⟨.empty, none, []⟩

/-- What a transaction may go on with once it holds the row; `none` waits for another one. -/
def begin (world : LedgerWorld ι) (index : ι) : Option (LedgerTransaction ι) :=
  match world.transaction with
  | none => some ⟨index, world.committed, []⟩
  | some transaction => if transaction.owner = index then some transaction else none

/-- An empty batch returns and a batch of another workspace raises before the database is asked.
Any later exception rolls the transaction back. -/
def next (workspaceId : String) (world : LedgerWorld ι) : LedgerLabel ι → Option (LedgerWorld ι)
  | .append index batch =>
    if batch.isEmpty || batch.any fun event => event.scope.workspaceId != workspaceId then
      some world
    else (world.begin index).map fun transaction =>
      match appendTimelineEvents workspaceId batch transaction.ledger with
      | none => { world with transaction := none }
      | some (appends, ledger) =>
        { world with transaction := some ⟨index, ledger, transaction.calls ++ [(batch, appends)]⟩ }
  | .commit index =>
    match world.transaction with
    | none => none
    | some transaction =>
      if transaction.owner = index then
        some ⟨transaction.ledger, none, world.calls ++ transaction.calls⟩ else none
  | .rollback index =>
    match world.transaction with
    | none => none
    | some transaction =>
      if transaction.owner = index then some { world with transaction := none } else none

end LedgerWorld

end transactions

section inserting
variable {rows chunk : List LedgerRow}

theorem insertRows_append (rows front back : List LedgerRow) :
    insertRows rows (front ++ back) = (insertRows rows front).bind fun middle =>
      insertRows middle back := by
  unfold insertRows
  rw [List.foldlM_append]
  rfl

theorem insertRows_distinct (sequences : ((rows ++ chunk).map (·.sequence)).Nodup)
    (keys : ((rows ++ chunk).map (·.sourceKey)).Nodup) :
    insertRows rows chunk = some (rows ++ chunk) := by
  induction chunk generalizing rows with
  | nil => simp [insertRows]
  | cons row chunk ih =>
    have fresh : (rows.any fun other => other.sequence == row.sequence ||
        other.sourceKey == row.sourceKey) = false := by
      rw [List.any_eq_false]
      intro other member clash
      rw [Bool.or_eq_true, beq_iff_eq, beq_iff_eq] at clash
      rw [List.map_append, List.nodup_append] at sequences keys
      obtain same | same := clash
      · exact sequences.2.2 _ (List.mem_map_of_mem member) _ List.mem_cons_self same
      · exact keys.2.2 _ (List.mem_map_of_mem member) _ List.mem_cons_self same
    have later : insertRows (rows ++ [row]) chunk = _ :=
      ih (by simpa using sequences) (by simpa using keys)
    rw [insertRows, List.foldlM_cons, fresh]
    simpa [insertRows] using later

theorem insertChunk_flatten (chunks : List (List LedgerRow))
    (state : List LedgerRow × List (String × LedgerRow)) :
    chunks.foldlM insertChunk state = insertChunk state chunks.flatten := by
  induction chunks generalizing state with
  | nil => simp [insertChunk, insertRows]
  | cons chunk chunks ih =>
    rw [List.foldlM_cons, List.flatten_cons]
    unfold insertChunk
    rw [insertRows_append]
    cases insertRows state.1 chunk with
    | none => rfl
    | some middle =>
      change chunks.foldlM insertChunk _ = _
      rw [ih]
      unfold insertChunk
      rw [List.foldl_append]
      rfl

theorem slices_flatten {size : Nat} (positive : 0 < size) (values : List α) :
    (slices size values).flatten = values := by
  have counted (count : Nat) :
      ((List.range count).map fun index => (values.drop (index * size)).take size).flatten =
        values.take (count * size) := by
    induction count with
    | zero => simp
    | succ count ih =>
      rw [List.range_succ, List.map_append, List.flatten_append, ih, Nat.succ_mul, List.take_add]
      simp
  have enough : values.length ≤ (values.length + size - 1) / size * size := by
    have := Nat.div_add_mod (values.length + size - 1) size
    have := Nat.mod_lt (values.length + size - 1) positive
    rw [Nat.mul_comm]
    omega
  unfold slices
  rw [counted, List.take_of_length_le enough]

end inserting

section batches
variable {batch : List TimelineEvent} {rows : List LedgerRow} {key : String}

theorem mem_sourceKeys : key ∈ sourceKeys batch ↔ ∃ event ∈ batch, event.sourceKey = key := by
  unfold sourceKeys
  rw [Dict.mem_keys_ofPairs]
  simp

theorem sourceKeys_nodup (batch : List TimelineEvent) : (sourceKeys batch).Nodup :=
  Dict.ofPairs_nodup _

theorem lookup_firstEvents (batch : List TimelineEvent) (key : String) :
    (firstEvents batch).lookup key = batch.find? fun event => event.sourceKey == key := by
  unfold firstEvents
  rw [Dict.lookup_ofPairs_reverse, Dict.lookup_map_key]

theorem lookup_existingRows (unique : (rows.map (·.sourceKey)).Nodup)
    (asked : key ∈ sourceKeys batch) :
    (existingRows (sourceKeys batch) rows).lookup key = rows.find? fun row =>
      row.sourceKey == key := by
  unfold existingRows
  have distinct : (((rows.filter fun row => (sourceKeys batch).contains row.sourceKey).map
      fun row => (row.sourceKey, row)).map Prod.fst).Nodup := by
    rw [List.map_map]
    exact unique.sublist (List.filter_sublist.map _)
  rw [Dict.ofPairs_eq_self distinct, Dict.lookup_map_key, List.find?_filter]
  congr 1
  funext row
  by_cases same : row.sourceKey = key
  · simp [same, asked]
  · simp [same]

/-- The rows of the ledger hold this source key. -/
def HasKey (rows : List LedgerRow) (key : String) : Prop := ∃ row ∈ rows, row.sourceKey = key

theorem find_isSome :
    (rows.find? fun row => row.sourceKey == key).isSome = true ↔ HasKey rows key := by
  simp [HasKey]

theorem mem_newEvents (unique : (rows.map (·.sourceKey)).Nodup) {event : TimelineEvent} :
    event ∈ newEvents batch (existingRows (sourceKeys batch) rows) ↔
      batch.find? (fun other => other.sourceKey == event.sourceKey) = some event ∧
      ¬ HasKey rows event.sourceKey := by
  unfold newEvents
  rw [List.mem_filterMap]
  constructor
  · rintro ⟨key, asked, found⟩
    rw [lookup_existingRows unique asked, lookup_firstEvents] at found
    split at found
    · cases found
    next absent =>
      have own := List.find?_some found
      rw [beq_iff_eq] at own
      subst own
      exact ⟨found, fun has => absent (find_isSome.mpr has)⟩
  · rintro ⟨found, absent⟩
    have asked : event.sourceKey ∈ sourceKeys batch :=
      mem_sourceKeys.mpr ⟨event, List.mem_of_find?_eq_some found, rfl⟩
    refine ⟨event.sourceKey, asked, ?_⟩
    rw [lookup_existingRows unique asked, lookup_firstEvents,
      if_neg (fun has => absent (find_isSome.mp has)), found]

theorem newEvents_nodup (batch : List TimelineEvent) (existing : List (String × LedgerRow)) :
    ((newEvents batch existing).map (·.sourceKey)).Nodup := by
  -- The event that is found for a key has that key.
  have own {key found : String}
      (member : found ∈ (if (existing.lookup key).isSome then none
    else (firstEvents batch).lookup key).map
        (·.sourceKey)) : found = key := by
    obtain ⟨event, isEvent, rfl⟩ := Option.map_eq_some_iff.mp member
    split at isEvent
    · cases isEvent
    · rw [lookup_firstEvents] at isEvent
      have same := List.find?_some isEvent
      exact beq_iff_eq.mp same
  unfold newEvents
  rw [List.map_filterMap]
  refine List.Nodup.filterMap ?_ (sourceKeys_nodup batch)
  intro key other found first second
  exact (own first).symm.trans (own second)

end batches

section numbering

/-- The sequences are `1 .. n`, `n` is the cursor's, and no source key is stored twice. -/
structure Numbered (ledger : TimelineLedger) : Prop where
  sequences : ledger.rows.map (·.sequence) = List.range' 1 ledger.rows.length
  last : (ledger.cursor.getD ⟨0, 1⟩).lastSequence = ledger.rows.length
  unique : (ledger.rows.map (·.sourceKey)).Nodup

theorem numbered_empty : Numbered .empty := ⟨rfl, rfl, List.nodup_nil⟩

def numberedRows (first : Nat) (events : List TimelineEvent) : List LedgerRow :=
  events.mapIdx fun index event => eventValues event.toTimelineEventFields (first + index)

theorem numberedRows_sequences (first : Nat) (events : List TimelineEvent) :
    (numberedRows first events).map (·.sequence) = List.range' first events.length := by
  refine List.ext_getElem (by simp [numberedRows]) fun index _ _ => ?_
  simp [numberedRows, eventValues]

theorem numberedRows_sourceKeys (first : Nat) (events : List TimelineEvent) :
    (numberedRows first events).map (·.sourceKey) = events.map (·.sourceKey) := by
  refine List.ext_getElem (by simp [numberedRows]) fun index _ _ => ?_
  simp [numberedRows, eventValues]

theorem mem_numberedRows {row : LedgerRow} (member : row ∈ numberedRows first events) :
    ∃ event ∈ events, row = eventValues event.toTimelineEventFields row.sequence := by
  obtain ⟨index, bound, rfl⟩ := List.mem_mapIdx.mp member
  exact ⟨events[index], List.getElem_mem bound, rfl⟩

variable {ledger : TimelineLedger} {events : List TimelineEvent}

theorem insertNew_numbered (numbered : Numbered ledger)
    (distinct : (events.map (·.sourceKey)).Nodup)
    (fresh : ∀ event ∈ events, ¬ HasKey ledger.rows event.sourceKey) :
    let stored := numberedRows (ledger.rows.length + 1) events
    ∃ cursor, insertNew events (ledger.cursor.getD ⟨0, 1⟩) ledger.rows =
        some (cursor, ledger.rows ++ stored, stored.map fun row => (row.sourceKey, row)) ∧
      Numbered ⟨some cursor, ledger.rows ++ stored⟩ := by
  intro stored
  have length : stored.length = events.length := by simp [stored, numberedRows]
  have sequences : (ledger.rows ++ stored).map (·.sequence) =
      List.range' 1 (ledger.rows ++ stored).length := by
    rw [List.map_append, numbered.sequences, numberedRows_sequences, List.length_append, length,
      Nat.add_comm _ 1, List.range'_append_1]
  have unique : ((ledger.rows ++ stored).map (·.sourceKey)).Nodup := by
    rw [List.map_append, numberedRows_sourceKeys]
    refine numbered.unique.append distinct fun key old new => ?_
    obtain ⟨event, member, rfl⟩ := List.mem_map.mp new
    exact fresh event member (List.mem_map.mp old)
  unfold insertNew
  split
  next none =>
    rw [List.isEmpty_iff] at none
    subst none
    exact ⟨ledger.cursor.getD ⟨0, 1⟩, by simp [stored, numberedRows], sequences,
      by simpa [stored, numberedRows] using numbered.last, unique⟩
  next =>
    refine ⟨{ ledger.cursor.getD ⟨0, 1⟩ with lastSequence := ledger.rows.length + events.length },
      ?_, sequences, ?_, unique⟩
    · dsimp only
      rw [numbered.last, Nat.add_sub_cancel, insertChunk_flatten, slices_flatten (by decide)]
      change (insertChunk (ledger.rows, []) stored).map _ = _
      unfold insertChunk
      rw [insertRows_distinct (by rw [sequences]; exact List.nodup_range') unique]
      have back : stored.foldl (fun inserted row => Dict.assign row.sourceKey row inserted) [] =
          stored.map fun row => (row.sourceKey, row) := by
        have keys : ((stored.map fun row => (row.sourceKey, row)).map Prod.fst).Nodup := by
          rw [List.map_map]
          exact unique.sublist ((List.sublist_append_right _ _).map _)
        have display := Dict.ofPairs_eq_self keys
        rwa [Dict.ofPairs, List.foldl_map] at display
      rw [back]
      rfl
    · simp [length]

end numbering

section reports
variable {rows more : List LedgerRow} {event : TimelineEvent} {append : TimelineLedgerAppend}

/-- The append reports the stored event and sequence of the event's source key. -/
def Reports (rows : List LedgerRow) (event : TimelineEvent)
    (append : TimelineLedgerAppend) : Prop :=
  ∃ row ∈ rows, row.sourceKey = event.sourceKey ∧ eventFromRow row = some append.event ∧
    append.sequence = row.sequence

theorem Reports.mono (reports : Reports rows event append) (within : ∀ row ∈ rows, row ∈ more) :
    Reports more event append := by
  obtain ⟨row, member, facts⟩ := reports
  exact ⟨row, within row member, facts⟩

theorem Reports.hasKey (reports : Reports rows event append) : HasKey rows event.sourceKey := by
  obtain ⟨row, member, same, _⟩ := reports
  exact ⟨row, member, same⟩

theorem eventFromRow_sourceKey {row : LedgerRow} {stored : TimelineEvent}
    (read : eventFromRow row = some stored) :
    stored.sourceKey = row.sourceKey := by
  unfold eventFromRow at read
  obtain ⟨subject, _, read⟩ := Option.bind_eq_some_iff.mp read
  obtain ⟨resource, _, read⟩ := Option.bind_eq_some_iff.mp read
  obtain ⟨owner, _, read⟩ := Option.bind_eq_some_iff.mp read
  obtain ⟨_, same⟩ := Option.dite_none_right_eq_some.mp read
  cases same
  rfl

/-- Reported as inserted for this source key. -/
def insertedFor (key : String) (append : TimelineLedgerAppend) :
    Bool := append.inserted && append.event.sourceKey == key

/-- The loop over the batch: a report for every event, and for every inserted key one that
says so, unless an earlier event had the key. -/
theorem reportAppends_spec (rowsByKey : String → Option LedgerRow) (inserted : String → Bool)
    {batch : List TimelineEvent}
    (known : ∀ event ∈ batch, ∃ row ∈ rows, ∃ stored : TimelineEvent, rowsByKey event.sourceKey =
      some row ∧
      row.sourceKey = event.sourceKey ∧ eventFromRow row = some stored) (reported : List String) :
    ∃ appends, reportAppends rowsByKey inserted reported batch = some appends ∧
      List.Forall₂ (Reports rows) batch appends ∧
      ∀ key, appends.countP (insertedFor key) =
        if inserted key = true ∧ key ∉ reported ∧ (∃ event ∈ batch, event.sourceKey = key) then 1
        else 0 := by
  induction batch generalizing reported with
  | nil => exact ⟨[], rfl, .nil, fun key => by simp⟩
  | cons event batch ih =>
    obtain ⟨row, member, stored, found, own, read⟩ := known event List.mem_cons_self
    obtain ⟨appends, later, reports, counted⟩ :=
      ih (fun other among => known other (List.mem_cons_of_mem _ among))
        (event.sourceKey :: reported)
    refine ⟨⟨stored, row.sequence, inserted event.sourceKey &&
      !reported.contains event.sourceKey⟩ :: appends, ?_,
        .cons ⟨row, member, own, read, rfl⟩ reports, fun key => ?_⟩
    · simp [reportAppends, found, read, later]
    · have key_stored : stored.sourceKey = event.sourceKey :=
        (eventFromRow_sourceKey read).trans own
      rw [List.countP_cons, counted key]
      by_cases same : event.sourceKey = key
      · subst same
        simp [insertedFor, key_stored]
      · have other : stored.sourceKey ≠ key := key_stored ▸ same
        simp [insertedFor, other, same, Ne.symm same]

end reports

section calls

/-- What one call did to the ledger that it saw. -/
structure Appended (before : TimelineLedger) (batch : List TimelineEvent)
    (appends : List TimelineLedgerAppend) (after : TimelineLedger)
    (fresh : List LedgerRow) : Prop where
  numbered : Numbered after
  rows : after.rows = before.rows ++ fresh
  first : ∀ row ∈ fresh, ∃ event, batch.find? (fun other => other.sourceKey == row.sourceKey) =
    some event ∧ row = eventValues event.toTimelineEventFields row.sequence
  reports : List.Forall₂ (Reports after.rows) batch appends
  once : ∀ key, HasKey fresh key → appends.countP (insertedFor key) = 1
  silent : ∀ key, ¬ HasKey fresh key → appends.countP (insertedFor key) = 0

/-- Every row was written for an event. -/
def Written (ledger : TimelineLedger) : Prop :=
  ∀ row ∈ ledger.rows, ∃ event : TimelineEvent, row =
    eventValues event.toTimelineEventFields row.sequence

variable {workspaceId : String} {batch : List TimelineEvent} {ledger : TimelineLedger}

theorem appendTimelineEvents_appended (numbered : Numbered ledger) (written : Written ledger)
    (some_event : batch ≠ []) (own : ∀ event ∈ batch, event.scope.workspaceId = workspaceId) :
    ∃ appends after fresh, appendTimelineEvents workspaceId batch ledger = some (appends, after) ∧
      Appended ledger batch appends after fresh := by
  have unique := numbered.unique
  obtain ⟨cursor, inserted, after⟩ := insertNew_numbered numbered
    (newEvents_nodup batch (existingRows (sourceKeys batch) ledger.rows)) fun event member =>
      ((mem_newEvents unique).mp member).2
  generalize stored_eq : numberedRows (ledger.rows.length + 1)
    (newEvents batch (existingRows (sourceKeys batch) ledger.rows)) = stored at inserted after
  have first : ∀ row ∈ stored,
      ∃ event, batch.find? (fun other => other.sourceKey == row.sourceKey) = some event ∧
      row = eventValues event.toTimelineEventFields row.sequence := by
    intro row member
    obtain ⟨event, among, same⟩ := mem_numberedRows (stored_eq ▸ member)
    refine ⟨event, ?_, same⟩
    have found := ((mem_newEvents unique).mp among).1
    rw [same]
    exact found
  have fresh_iff (key : String) : HasKey stored key ↔
      (∃ event ∈ batch, event.sourceKey = key) ∧ ¬ HasKey ledger.rows key := by
    have keys : HasKey stored key ↔ key ∈ stored.map (·.sourceKey) := List.mem_map.symm
    rw [keys, ← stored_eq, numberedRows_sourceKeys, List.mem_map]
    constructor
    · rintro ⟨event, among, rfl⟩
      obtain ⟨found, absent⟩ := (mem_newEvents unique).mp among
      exact ⟨⟨event, List.mem_of_find?_eq_some found, rfl⟩, absent⟩
    · rintro ⟨⟨event, member, rfl⟩, absent⟩
      obtain ⟨found, isFound⟩ := Option.isSome_iff_exists.mp (List.find?_isSome
        (p := fun other => other.sourceKey == event.sourceKey).mpr ⟨event, member,
          beq_iff_eq.mpr rfl⟩)
      have same := List.find?_some isFound
      rw [beq_iff_eq] at same
      exact ⟨found, (mem_newEvents unique).mpr ⟨same ▸ isFound, same ▸ absent⟩, same⟩
  have readable : ∀ row ∈ ledger.rows ++ stored, ∃ event :
      TimelineEvent, eventFromRow row = some event := by
    intro row member
    obtain ⟨event, same⟩ : ∃ event : TimelineEvent, row =
        eventValues event.toTimelineEventFields row.sequence := by
      obtain old | new := List.mem_append.mp member
      · exact written row old
      · obtain ⟨event, _, same⟩ := first row new
        exact ⟨event, same⟩
    exact ⟨event.stored, by rw [same, eventFromRow_eventValues]⟩
  have known : ∀ event ∈ batch, ∃ row ∈ ledger.rows ++ stored, ∃ read : TimelineEvent,
      ((stored.map fun row => (row.sourceKey, row)).lookup event.sourceKey).or
        ((existingRows (sourceKeys batch) ledger.rows).lookup event.sourceKey) = some row ∧
      row.sourceKey = event.sourceKey ∧ eventFromRow row = some read := by
    intro event member
    have asked : event.sourceKey ∈ sourceKeys batch := mem_sourceKeys.mpr ⟨event, member, rfl⟩
    rw [lookup_existingRows unique asked, Dict.lookup_map_key, ← List.find?_append]
    have present : ((stored ++ ledger.rows).find? fun row =>
        row.sourceKey == event.sourceKey).isSome = true := by
      rw [find_isSome]
      by_cases new : HasKey stored event.sourceKey
      · obtain ⟨row, among, same⟩ := new
        exact ⟨row, List.mem_append_left _ among, same⟩
      · have old : HasKey ledger.rows event.sourceKey := by
          by_contra absent
          exact new ((fresh_iff _).mpr ⟨⟨event, member, rfl⟩, absent⟩)
        obtain ⟨row, among, same⟩ := old
        exact ⟨row, List.mem_append_right _ among, same⟩
    obtain ⟨row, found⟩ := Option.isSome_iff_exists.mp present
    have within := (List.perm_append_comm.mem_iff).mp (List.mem_of_find?_eq_some found)
    have same := List.find?_some found
    obtain ⟨read, isRead⟩ := readable row within
    exact ⟨row, within, read, found, beq_iff_eq.mp same, isRead⟩
  obtain ⟨appends, reported, reports, counted⟩ := reportAppends_spec
    (fun key => ((stored.map fun row => (row.sourceKey, row)).lookup key).or
      ((existingRows (sourceKeys batch) ledger.rows).lookup key))
    (fun key => ((stored.map fun row => (row.sourceKey, row)).lookup key).isSome) known []
  have is_fresh (key : String) :
      ((stored.map fun row => (row.sourceKey, row)).lookup key).isSome = true ↔
      HasKey stored key := by
    rw [Dict.lookup_map_key, find_isSome]
  refine ⟨appends, ⟨some cursor, ledger.rows ++ stored⟩, stored, ?_, after, rfl, first,
    reports, ?_, ?_⟩
  · have no_other : (batch.any fun event => event.scope.workspaceId != workspaceId) = false := by
      rw [List.any_eq_false]
      intro event member
      simp [own event member]
    unfold appendTimelineEvents
    rw [if_neg (by simpa using some_event), no_other, if_neg Bool.false_ne_true]
    dsimp only
    rw [inserted]
    dsimp only [Option.bind_eq_bind, Option.bind_some]
    rw [reported]
    rfl
  · intro key new
    rw [counted key, if_pos ⟨(is_fresh key).mpr new, List.not_mem_nil, ((fresh_iff key).mp new).1⟩]
  · intro key old
    rw [counted key, if_neg fun both => old ((is_fresh key).mp both.1)]

end calls

section histories
variable {calls : List AppendCall} {ledger : TimelineLedger}

/-- The row holds the first event with its source key, in the first of the calls that had one. -/
def FirstOccurrence (calls : List AppendCall) (row : LedgerRow) : Prop :=
  ∃ earlier batch appends later event, calls = earlier ++ (batch, appends) :: later ∧
    (∀ call ∈ earlier, ∀ other ∈ call.1, other.sourceKey ≠ row.sourceKey) ∧
    batch.find? (fun other => other.sourceKey == row.sourceKey) = some event ∧
    row = eventValues event.toTimelineEventFields row.sequence

/-- How often the calls reported the source key as inserted. -/
def insertions (calls : List AppendCall) (key : String) :
    Nat := (calls.flatMap (·.2)).countP (insertedFor key)

/-- The ledger is what the calls made of an empty one. -/
structure Accounts (calls : List AppendCall) (ledger : TimelineLedger) : Prop where
  numbered : Numbered ledger
  first : ∀ row ∈ ledger.rows, FirstOccurrence calls row
  reports : ∀ call ∈ calls, List.Forall₂ (Reports ledger.rows) call.1 call.2
  once : ∀ key, HasKey ledger.rows key → insertions calls key = 1
  silent : ∀ key, ¬ HasKey ledger.rows key → insertions calls key = 0

theorem accounts_empty : Accounts [] .empty where
  numbered := numbered_empty
  first := by simp [TimelineLedger.empty]
  reports := by simp
  once := by simp [HasKey, TimelineLedger.empty]
  silent := by simp [insertions]

theorem Accounts.hasKey (accounts : Accounts calls ledger) (member : call ∈ calls)
    (among : event ∈ call.1) :
    HasKey ledger.rows event.sourceKey := by
  obtain ⟨batch, appends⟩ := call
  have reports : List.Forall₂ (Reports ledger.rows) batch appends := accounts.reports _ member
  clear member
  induction reports with
  | nil => cases among
  | cons report _ ih =>
    obtain rfl | later := List.mem_cons.mp among
    · exact report.hasKey
    · exact ih later

theorem Accounts.written (accounts : Accounts calls ledger) : Written ledger := by
  intro row member
  obtain ⟨_, _, _, _, event, _, _, _, same⟩ := accounts.first row member
  exact ⟨event, same⟩

theorem FirstOccurrence.append {row : LedgerRow} (first : FirstOccurrence calls row)
    (call : AppendCall) :
    FirstOccurrence (calls ++ [call]) row := by
  obtain ⟨earlier, batch, appends, later, event, split, facts⟩ := first
  exact ⟨earlier, batch, appends, later ++ [call], event,
    by rw [split, List.append_assoc, List.cons_append], facts⟩

theorem insertions_append (calls : List AppendCall) (call : AppendCall) (key : String) :
    insertions (calls ++ [call]) key = insertions calls key + call.2.countP (insertedFor key) := by
  simp [insertions]

theorem Accounts.append (accounts : Accounts calls ledger)
    (appended : Appended ledger batch appends after fresh) :
    Accounts (calls ++ [(batch, appends)]) after := by
  have unique := appended.numbered.unique
  have has_iff (key : String) : HasKey after.rows key ↔
      HasKey ledger.rows key ∨ HasKey fresh key := by
    simp only [HasKey, appended.rows, List.mem_append, or_and_right, exists_or]
  have apart (key : String) (old : HasKey ledger.rows key) : ¬ HasKey fresh key := by
    rintro ⟨new, among, same⟩
    obtain ⟨row, member, own⟩ := old
    rw [appended.rows, List.map_append, List.nodup_append] at unique
    exact unique.2.2 _ (List.mem_map_of_mem member) _ (List.mem_map_of_mem among)
      (own.trans same.symm)
  refine ⟨appended.numbered, ?_, ?_, ?_, ?_⟩
  · intro row member
    rw [appended.rows, List.mem_append] at member
    obtain old | new := member
    · exact (accounts.first row old).append _
    · obtain ⟨event, found, same⟩ := appended.first row new
      refine ⟨calls, batch, appends, [], event, rfl, ?_, found, same⟩
      intro call earlier other among clash
      exact apart _ (accounts.hasKey earlier among) ⟨row, new, clash.symm⟩
  · intro call member
    obtain old | new := List.mem_append.mp member
    · refine (accounts.reports call old).imp fun event append reports => reports.mono ?_
      intro row among
      rw [appended.rows]
      exact List.mem_append_left _ among
    · rw [List.mem_singleton.mp new]
      exact appended.reports
  · intro key has
    rw [insertions_append]
    obtain old | new := (has_iff key).mp has
    · rw [accounts.once key old, appended.silent key (apart key old)]
    · rw [accounts.silent key fun old => apart key old new, appended.once key new]
  · intro key absent
    rw [has_iff, not_or] at absent
    rw [insertions_append, accounts.silent key absent.1, appended.silent key absent.2]

end histories

section runs
variable {ι : Type} {world : LedgerWorld ι} {transaction : LedgerTransaction ι}

/-- The committed ledger accounts for the committed calls, and the open transaction's for its own
on top of them. -/
structure LedgerWorld.Sound (world : LedgerWorld ι) : Prop where
  committed : Accounts world.calls world.committed
  working : ∀ transaction, world.transaction = some transaction →
    Accounts (world.calls ++ transaction.calls) transaction.ledger

theorem sound_initial : (LedgerWorld.initial : LedgerWorld ι).Sound :=
  ⟨accounts_empty, by simp [LedgerWorld.initial]⟩

variable [DecidableEq ι]

theorem LedgerWorld.Sound.begin (sound : world.Sound) {index : ι}
    (started : world.begin index = some transaction) :
    Accounts (world.calls ++ transaction.calls) transaction.ledger := by
  unfold LedgerWorld.begin at started
  split at started
  next =>
    cases started
    rw [List.append_nil]
    exact sound.committed
  next holder held =>
    obtain ⟨_, same⟩ := Option.ite_none_right_eq_some.mp started
    exact sound.working _ (held.trans same)

theorem LedgerWorld.next_sound (workspaceId : String) :
    Stable (Step (LedgerWorld.next workspaceId) always) (LedgerWorld.Sound : LedgerWorld ι →
      Prop) := by
  intro world label after step sound
  have next := step.2
  cases label with
  | append index batch =>
    rw [LedgerWorld.next] at next
    split at next
    next =>
      cases next
      exact sound
    next checked =>
      obtain ⟨transaction, started, same⟩ := Option.map_eq_some_iff.mp next
      rw [Bool.or_eq_true, not_or, List.any_eq_true, List.isEmpty_iff] at checked
      have own : ∀ event ∈ batch, event.scope.workspaceId = workspaceId := by
        intro event member
        by_contra other
        exact checked.2 ⟨event, member, bne_iff_ne.mpr other⟩
      have accounts := sound.begin started
      obtain ⟨appends, ledger, fresh, appended, facts⟩ :=
        appendTimelineEvents_appended accounts.numbered accounts.written checked.1 own
      rw [appended] at same
      cases same
      refine ⟨sound.committed, fun _ isTransaction => ?_⟩
      cases isTransaction
      have extended := accounts.append facts
      rwa [List.append_assoc] at extended
  | commit index =>
    rw [LedgerWorld.next] at next
    split at next
    · cases next
    next transaction held =>
      obtain ⟨_, same⟩ := Option.ite_none_right_eq_some.mp next
      cases same
      exact ⟨sound.working transaction held, by simp⟩
  | rollback index =>
    rw [LedgerWorld.next] at next
    split at next
    · cases next
    next transaction held =>
      obtain ⟨_, same⟩ := Option.ite_none_right_eq_some.mp next
      cases same
      exact ⟨sound.committed, by simp⟩

theorem timeline_ledger_numbering {workspaceId : String} {labels : List (LedgerLabel ι)}
    (run : Run (Step (LedgerWorld.next workspaceId) always) LedgerWorld.initial labels world) :
    let ledger := world.committed
    ledger.rows.map (·.sequence) = List.range' 1 (ledger.cursor.getD ⟨0, 1⟩).lastSequence ∧
      (ledger.rows.map (·.sourceKey)).Nodup ∧
      (∀ row ∈ ledger.rows, FirstOccurrence world.calls row) ∧
      (∀ call ∈ world.calls, List.Forall₂ (Reports ledger.rows) call.1 call.2) ∧
      (∀ transaction, world.transaction = some transaction →
        ∀ call ∈ transaction.calls, List.Forall₂ (Reports transaction.ledger.rows) call.1 call.2) ∧
      ∀ call ∈ world.calls, ∀ event ∈ call.1, insertions world.calls event.sourceKey = 1 := by
  obtain ⟨committed, working⟩ := run.holds (LedgerWorld.next_sound workspaceId) sound_initial
  refine ⟨?_, committed.numbered.unique, committed.first, committed.reports, ?_, ?_⟩
  · rw [committed.numbered.last]
    exact committed.numbered.sequences
  · intro transaction held call member
    exact (working transaction held).reports call (List.mem_append_right _ member)
  · intro call member event among
    exact committed.once _ (committed.hasKey member among)

def incidentFields (sourceKey title : String) : TimelineEventFields where
  eventId := "e"
  source := .incident
  sourceKey := sourceKey
  nativeId := "n"
  activity := .change
  occurredAt := ⟨0, true⟩
  scope := { workspaceId := "w", clusterId := "c" }
  subject := .incident "i" none
  eventType := .incident
  severity := .info
  title := title

def firstReport : TimelineEvent := ⟨incidentFields "a" "1", by decide +kernel⟩

def secondReport : TimelineEvent := ⟨incidentFields "a" "2", by decide +kernel⟩

def otherReport : TimelineEvent := ⟨incidentFields "b" "3", by decide +kernel⟩

/-- One transaction that rolls back, one with a repeated key and one that brings nothing new. -/
def reportLabels : List (LedgerLabel Nat) :=
  [.append 0 [otherReport], .rollback 0, .append 1 [firstReport, secondReport, otherReport],
    .commit 1, .append 0 [secondReport], .commit 0]

theorem timeline_ledger_numbering_sample : ∃ world : LedgerWorld Nat,
    execute (LedgerWorld.next "w") always .initial reportLabels = some world ∧
      world.calls.map (fun call =>
        call.2.map fun append => (append.event.title, append.sequence, append.inserted)) =
        [[("1", 1, true), ("1", 1, false), ("3", 2, true)], [("1", 1, false)]] ∧
      world.committed.rows.map (·.sequence) =
        List.range' 1 (world.committed.cursor.getD ⟨0, 1⟩).lastSequence := by
  have result :
      (execute (LedgerWorld.next "w") always (.initial : LedgerWorld Nat) reportLabels).map
      (fun world => world.calls.map fun call => call.2.map fun append =>
        (append.event.title, append.sequence, append.inserted)) =
        some [[("1", 1, true), ("1", 1, false), ("3", 2, true)], [("1", 1, false)]] := by
          decide +kernel
  obtain ⟨world, executed, seen⟩ := Option.map_eq_some_iff.mp result
  exact ⟨world, executed, seen, (timeline_ledger_numbering (execute_run executed)).1⟩

end runs

end K8sOps.Timeline
