import K8sOps.Alert.EvidenceWindow
import K8sOps.Outbox.RelayProofs
import Mathlib.Data.Set.Function

/-! One key, one story: whatever calls record and rotate the evidence window of a key, each
value that the key has had was announced by one event and is still there, as the current
row or in the archive. -/
namespace K8sOps.Alert
open Outbox Python Transition EvidenceDatabase
variable {ι : Type} {digest : String → String} {evidenceKey : String} {calls : ι → WindowCall}

/-- The pairs of ids that the calls write. -/
def Written (calls : ι → WindowCall) (ids : String × String) : Prop :=
  ∃ index, envelopeIds (calls index).values.trusted = ids

/-- The digest of the history key tells the pairs apart that the calls write. -/
def TellsApart (digest : String → String) (calls : ι → WindowCall) : Prop :=
  Set.InjOn (fun ids : String × String => digest (ids.1 ++ "\x00" ++ ids.2))
    { ids | Written calls ids }

section keys

theorem historyKey_ne (ids : String × String) :
    historyKey digest evidenceKey ids ≠ evidenceKey := by
  intro same
  have lengths := congrArg (·.toList.length) same
  simp [historyKey] at lengths

theorem historyKey_inj (apart : TellsApart digest calls) {one two : String × String}
    (first : Written calls one) (second : Written calls two)
    (same : historyKey digest evidenceKey one = historyKey digest evidenceKey two) :
    one = two := by
  apply apart first second
  have lists := congrArg String.toList same
  simp only [historyKey, String.toList_append, List.append_cancel_left_eq] at lists
  exact String.toList_inj.mp (by simpa using lists)

end keys

section phases
variable [DecidableEq ι] {s t : EvidenceDatabase ι} {index other : ι} {phase : WindowPhase}

theorem enter_self : (s.enter index phase).phase index = phase := Function.update_self ..

theorem enter_ne (different : other ≠ index) : (s.enter index phase).phase other = s.phase other :=
  Function.update_of_ne different ..

theorem leave_self : (s.leave index phase).phase index = phase := Function.update_self ..

theorem leave_ne (different : other ≠ index) : (s.leave index phase).phase other = s.phase other :=
  Function.update_of_ne different ..

/-- A call that owns the row of the key. -/
def Owns (phase : WindowPhase) : Prop :=
  (∃ row, phase = .inserted row) ∨ ∃ current, phase = .holding current

/-- The writer owns the row, and what it has read or inserted is still so. -/
structure Consistent (evidenceKey : String) (calls : ι → WindowCall)
    (s : EvidenceDatabase ι) : Prop where
  writer : ∀ index, Owns (s.phase index) → s.writer = some index
  inserted : ∀ index row, s.phase index = .inserted row →
    s.windows evidenceKey = none ∧ ∃ now, row = (calls index).values.newRow now
  holding : ∀ index current, s.phase index = .holding current →
    s.windows evidenceKey = some current ∧ (calls index).expected = some current.ids

omit [DecidableEq ι] in
theorem Consistent.initial : Consistent evidenceKey calls EvidenceDatabase.initial := by
  constructor
  · rintro index (⟨_, inserted⟩ | ⟨_, holding⟩)
    · cases inserted
    · cases holding
  · intro index row inserted
    cases inserted
  · intro index current holding
    cases holding

theorem Consistent.enter (consistent : Consistent evidenceKey calls s) (idle : ¬Owns phase)
    (advisory : Option ι) :
    Consistent evidenceKey calls { s.enter index phase with advisory } := by
  have earlier {other : ι} (owns : Owns ((s.enter index phase).phase other)) :
      (s.enter index phase).phase other = s.phase other := by
    by_cases same : other = index
    · subst same
      rw [enter_self] at owns
      exact absurd owns idle
    · exact enter_ne same
  constructor
  · intro other owns
    exact consistent.writer other (earlier owns ▸ owns)
  · intro other row inserted
    exact consistent.inserted other row (earlier (.inl ⟨row, inserted⟩) ▸ inserted)
  · intro other current holding
    exact consistent.holding other current (earlier (.inr ⟨current, holding⟩) ▸ holding)

theorem Consistent.leave (consistent : Consistent evidenceKey calls s) (idle : ¬Owns phase) :
    Consistent evidenceKey calls (s.leave index phase) := by
  have entered : Consistent evidenceKey calls { s.enter index phase with advisory := s.advisory } :=
    consistent.enter idle s.advisory
  refine ⟨fun other owns => ?_, entered.inserted, entered.holding⟩
  have held : s.writer = some other := entered.writer other owns
  have different : other ≠ index := by
    rintro rfl
    rw [leave_self] at owns
    exact idle owns
  change (if s.writer = some index then none else s.writer) = some other
  rw [held, if_neg fun same => different (Option.some.inj same)]

theorem Consistent.own (consistent : Consistent evidenceKey calls s) (free : s.writer = none)
    (inserted : ∀ row, phase = .inserted row →
      s.windows evidenceKey = none ∧ ∃ now, row = (calls index).values.newRow now)
    (holding : ∀ current, phase = .holding current →
      s.windows evidenceKey = some current ∧ (calls index).expected = some current.ids) :
    Consistent evidenceKey calls { s.enter index phase with writer := some index } := by
  have only {other : ι} (owns : Owns ((s.enter index phase).phase other)) : other = index := by
    by_contra different
    rw [enter_ne different] at owns
    cases free.symm.trans (consistent.writer other owns)
  constructor
  · intro other owns
    rw [only owns]
  · intro other row isInserted
    cases only (.inl ⟨row, isInserted⟩)
    exact inserted row (enter_self.symm.trans isInserted)
  · intro other current isHolding
    cases only (.inr ⟨current, isHolding⟩)
    exact holding current (enter_self.symm.trans isHolding)

theorem Consistent.commit (consistent : Consistent evidenceKey calls s)
    (owner : Owns (s.phase index)) (idle : ¬Owns phase) (phases : t.phase = s.phase) :
    Consistent evidenceKey calls (t.leave index phase) := by
  have nobody (other : ι) : ¬Owns ((t.leave index phase).phase other) := by
    intro owns
    by_cases same : other = index
    · subst same
      rw [leave_self] at owns
      exact idle owns
    · rw [leave_ne same, phases] at owns
      exact same (Option.some.inj ((consistent.writer other owns).symm.trans
        (consistent.writer index owner)))
  exact ⟨fun other owns => absurd owns (nobody other),
    fun other row inserted => absurd (.inl ⟨row, inserted⟩) (nobody other),
    fun other current holding => absurd (.inr ⟨current, holding⟩) (nobody other)⟩

end phases

section commits
variable {s t : EvidenceDatabase ι} {index : ι}

def EvidenceDatabase.staged (database : EvidenceDatabase ι) : List EventEnvelope :=
  database.outbox.map (·.event)

def Committed (phase : WindowPhase) : Prop :=
  phase = .finished .opened ∨ phase = .finished .replaced

/-- What every run keeps: the staged events are those of the calls that have committed,
and their values are the live one and the archived ones. -/
structure Story (digest : String → String) (evidenceKey : String) (calls : ι → WindowCall)
    (s : EvidenceDatabase ι) : Prop where
  distinct : (s.staged.map (·.eventId)).Nodup
  origin : ∀ event ∈ s.staged, ∃ index, event = (calls index).values.trusted ∧
    Committed (s.phase index)
  live : ∀ row, s.windows evidenceKey = some row → row.ids ∈ s.staged.map envelopeIds
  archived : ∀ ids row, Written calls ids →
    s.windows (historyKey digest evidenceKey ids) = some row →
    row.ids = ids ∧ ids ∈ s.staged.map envelopeIds ∧
    ∀ current, s.windows evidenceKey = some current → current.ids ≠ ids
  covered : ∀ ids ∈ s.staged.map envelopeIds,
    (∃ row, s.windows evidenceKey = some row ∧ row.ids = ids) ∨
    ∃ row, s.windows (historyKey digest evidenceKey ids) = some row
  replaced : ∀ index, s.phase index = .finished .replaced → ∃ ids row, Written calls ids ∧
    (calls index).expected = some ids ∧ s.windows (historyKey digest evidenceKey ids) = some row
  once : ∀ one two, s.phase one = .finished .replaced → s.phase two = .finished .replaced →
    (calls one).expected = (calls two).expected → one = two

/-- A call that takes the key over from the row that it held, if it held one. -/
structure TakesOver (digest : String → String) (evidenceKey : String) (calls : ι → WindowCall)
    (s t : EvidenceDatabase ι) (index : ι) : Prop where
  before : ¬Committed (s.phase index)
  after : t.phase index = .finished .opened ∨ t.phase index = .finished .replaced ∧
    ∃ current, s.windows evidenceKey = some current ∧ (calls index).expected = some current.ids
  others : ∀ other ≠ index, t.phase other = s.phase other
  staged : t.staged = s.staged ++ [(calls index).values.trusted]
  live : ∃ row, t.windows evidenceKey = some row ∧
    row.ids = envelopeIds (calls index).values.trusted
  archived : ∀ current, s.windows evidenceKey = some current →
    t.windows (historyKey digest evidenceKey current.ids) = some current
  kept : ∀ ids, Written calls ids →
    (∀ current, s.windows evidenceKey = some current → current.ids ≠ ids) →
    t.windows (historyKey digest evidenceKey ids) = s.windows (historyKey digest evidenceKey ids)

theorem Story.written (story : Story digest evidenceKey calls s) {ids : String × String}
    (staged : ids ∈ s.staged.map envelopeIds) : Written calls ids := by
  obtain ⟨event, member, rfl⟩ := List.mem_map.mp staged
  obtain ⟨index, rfl, _⟩ := story.origin event member
  exact ⟨index, rfl⟩

theorem Story.nodup_ids (story : Story digest evidenceKey calls s) :
    (s.staged.map envelopeIds).Nodup := by
  apply List.Nodup.of_map Prod.fst
  rw [List.map_map]
  exact story.distinct

section uncommitted
variable (fresh : Function.Injective fun index => (calls index).values.envelope.eventId)
  (story : Story digest evidenceKey calls s)
include fresh story

theorem Story.unstaged (uncommitted : ¬Committed (s.phase index)) :
    (calls index).values.envelope.eventId ∉ s.staged.map (·.eventId) := by
  intro staged
  obtain ⟨event, member, same⟩ := List.mem_map.mp staged
  obtain ⟨other, rfl, committed⟩ := story.origin event member
  have sameCall : other = index := fresh same
  exact uncommitted (sameCall ▸ committed)

theorem Story.unstaged_ids (uncommitted : ¬Committed (s.phase index)) :
    envelopeIds (calls index).values.trusted ∉ s.staged.map envelopeIds := by
  intro staged
  apply story.unstaged fresh uncommitted
  obtain ⟨event, member, same⟩ := List.mem_map.mp staged
  exact List.mem_map.mpr ⟨event, member, congrArg Prod.fst same⟩

theorem Story.stages (uncommitted : ¬Committed (s.phase index)) :
    (insertEvent s.outbox (calls index).values.trusted).map (·.event) =
      s.staged ++ [(calls index).values.trusted] := by
  have absent := story.unstaged fresh uncommitted
  have unseen : (s.outbox.any fun row =>
      decide (row.event.eventId = (calls index).values.trusted.eventId)) = false := by
    rw [List.any_eq_false]
    intro row member same
    apply absent
    rw [EvidenceDatabase.staged, List.map_map]
    exact List.mem_map.mpr ⟨row, member, of_decide_eq_true same⟩
  rw [insertEvent, unseen, if_neg Bool.false_ne_true, List.map_append]
  rfl

end uncommitted

theorem TakesOver.archive_stays (taken : TakesOver digest evidenceKey calls s t index)
    (story : Story digest evidenceKey calls s) {ids : String × String} {row : EvidenceWindow}
    (written : Written calls ids)
    (stored : s.windows (historyKey digest evidenceKey ids) = some row) :
    t.windows (historyKey digest evidenceKey ids) = some row := by
  rw [taken.kept ids written (story.archived ids row written stored).2.2]
  exact stored

theorem TakesOver.mem_staged (taken : TakesOver digest evidenceKey calls s t index)
    {ids : String × String} :
    ids ∈ t.staged.map envelopeIds ↔
    ids ∈ s.staged.map envelopeIds ∨ ids = envelopeIds (calls index).values.trusted := by
  rw [taken.staged, List.map_append, List.mem_append, List.map_singleton, List.mem_singleton]

theorem TakesOver.committed_ne (taken : TakesOver digest evidenceKey calls s t index) {other : ι}
    (committed : Committed (s.phase other)) : t.phase other = s.phase other := by
  apply taken.others
  rintro rfl
  exact taken.before committed

theorem TakesOver.archived_before (taken : TakesOver digest evidenceKey calls s t index)
    (story : Story digest evidenceKey calls s) {ids : String × String} {row : EvidenceWindow}
    (written : Written calls ids)
    (stored : t.windows (historyKey digest evidenceKey ids) = some row) :
    row.ids = ids ∧ ids ∈ s.staged.map envelopeIds := by
  by_cases wasLive : ∃ current, s.windows evidenceKey = some current ∧ current.ids = ids
  · obtain ⟨current, live, rfl⟩ := wasLive
    cases (taken.archived current live).symm.trans stored
    exact ⟨rfl, story.live _ live⟩
  · rw [taken.kept ids written fun current live same => wasLive ⟨current, live, same⟩] at stored
    obtain ⟨same, staged, _⟩ := story.archived ids row written stored
    exact ⟨same, staged⟩

theorem TakesOver.replaced_before (taken : TakesOver digest evidenceKey calls s t index)
    {other : ι} (replaced : t.phase other = .finished .replaced) :
    (other = index ∧ ∃ current, s.windows evidenceKey = some current ∧
      (calls index).expected = some current.ids) ∨
      other ≠ index ∧ s.phase other = .finished .replaced := by
  by_cases same : other = index
  · subst same
    rcases taken.after with opened | ⟨_, taken⟩
    · cases opened.symm.trans replaced
    · exact .inl ⟨rfl, taken⟩
  · exact .inr ⟨same, (taken.others other same).symm.trans replaced⟩

/-- The pair that a call replaces was not replaced before. -/
theorem Story.replaces_new (story : Story digest evidenceKey calls s) {other : ι}
    {current : EvidenceWindow} (live : s.windows evidenceKey = some current)
    (expects : (calls index).expected = some current.ids)
    (replaced : s.phase other = .finished .replaced) :
    (calls other).expected ≠ (calls index).expected := by
  intro same
  obtain ⟨ids, row, written, expected, stored⟩ := story.replaced other replaced
  have sameIds : ids = current.ids := Option.some.inj (expected.symm.trans (same.trans expects))
  exact (story.archived ids row written stored).2.2 current live sameIds.symm

theorem Story.takesOver
    (fresh : Function.Injective fun index => (calls index).values.envelope.eventId)
    (story : Story digest evidenceKey calls s)
    (taken : TakesOver digest evidenceKey calls s t index) :
    Story digest evidenceKey calls t := by
  constructor
  · rw [taken.staged, List.map_append, List.map_singleton]
    exact List.nodup_append.mpr ⟨story.distinct, List.nodup_singleton _,
      fun id staged new isNew same =>
      story.unstaged fresh taken.before
        (by rw [List.mem_singleton.mp isNew] at same; exact same ▸ staged)⟩
  · intro event member
    rw [taken.staged, List.mem_append, List.mem_singleton] at member
    rcases member with earlier | rfl
    · obtain ⟨other, isTrusted, committed⟩ := story.origin event earlier
      exact ⟨other, isTrusted, by rw [taken.committed_ne committed]; exact committed⟩
    · exact ⟨index, rfl, taken.after.imp id (·.1)⟩
  · intro row live
    obtain ⟨new, newLive, newIds⟩ := taken.live
    cases newLive.symm.trans live
    exact taken.mem_staged.mpr (.inr newIds)
  · intro ids row written stored
    obtain ⟨same, staged⟩ := taken.archived_before story written stored
    refine ⟨same, taken.mem_staged.mpr (.inl staged), fun current live sameIds => ?_⟩
    obtain ⟨new, newLive, newIds⟩ := taken.live
    cases newLive.symm.trans live
    apply story.unstaged_ids fresh taken.before
    rw [← newIds, sameIds]
    exact staged
  · intro ids staged
    rcases taken.mem_staged.mp staged with earlier | rfl
    · right
      rcases story.covered ids earlier with ⟨row, live, rfl⟩ | ⟨row, stored⟩
      · exact ⟨row, taken.archived row live⟩
      · exact ⟨row, taken.archive_stays story (story.written earlier) stored⟩
    · exact .inl taken.live
  · intro other replaced
    rcases taken.replaced_before replaced with ⟨rfl, current, live, expected⟩ | ⟨_, earlier⟩
    · exact ⟨current.ids, current, story.written (story.live current live), expected,
        taken.archived current live⟩
    · obtain ⟨ids, row, written, expected, stored⟩ := story.replaced other earlier
      exact ⟨ids, row, written, expected, taken.archive_stays story written stored⟩
  · intro one two first second same
    rcases taken.replaced_before first with ⟨rfl, current, live, expected⟩ | ⟨_, firstEarlier⟩
    · rcases taken.replaced_before second with ⟨rfl, _⟩ | ⟨_, secondEarlier⟩
      · rfl
      · exact absurd same.symm (story.replaces_new live expected secondEarlier)
    · rcases taken.replaced_before second with ⟨rfl, current, live, expected⟩ | ⟨_, secondEarlier⟩
      · exact absurd same (story.replaces_new live expected firstEarlier)
      · exact story.once one two firstEarlier secondEarlier same

/-- A step that no other call can see. -/
structure Quiet (s t : EvidenceDatabase ι) : Prop where
  windows : t.windows = s.windows
  outbox : t.outbox = s.outbox
  opened : ∀ index, t.phase index = .finished .opened ↔ s.phase index = .finished .opened
  replaced : ∀ index, t.phase index = .finished .replaced ↔ s.phase index = .finished .replaced

theorem Story.quiet (story : Story digest evidenceKey calls s) (quiet : Quiet s t) :
    Story digest evidenceKey calls t := by
  have staged : t.staged = s.staged := congrArg (List.map OutboxRow.event) quiet.outbox
  constructor
  · rw [staged]
    exact story.distinct
  · intro event member
    rw [staged] at member
    obtain ⟨index, isTrusted, committed⟩ := story.origin event member
    exact ⟨index, isTrusted, committed.imp (quiet.opened index).mpr (quiet.replaced index).mpr⟩
  · rw [staged, quiet.windows]
    exact story.live
  · rw [staged, quiet.windows]
    exact story.archived
  · rw [staged, quiet.windows]
    exact story.covered
  · intro index replaced
    rw [quiet.windows]
    exact story.replaced index ((quiet.replaced index).mp replaced)
  · intro one two first second
    exact story.once one two ((quiet.replaced one).mp first) ((quiet.replaced two).mp second)

theorem Story.initial : Story digest evidenceKey calls EvidenceDatabase.initial := by
  constructor
  · exact List.nodup_nil
  · intro event member
    cases member
  · intro row live
    cases live
  · intro ids row written stored
    cases stored
  · intro ids staged
    cases staged
  · intro index replaced
    cases replaced
  · intro one two replaced
    cases replaced

end commits

section steps
variable [DecidableEq ι] {s t : EvidenceDatabase ι} {index : ι} {phase : WindowPhase} {now : Int}

theorem not_committed_of_owns (owns : Owns phase) : ¬Committed phase := by
  rcases owns with ⟨row, rfl⟩ | ⟨current, rfl⟩ <;> simp [Committed]

theorem quiet_of_update (before : ¬Committed (s.phase index)) (after : ¬Committed phase)
    (windows : t.windows = s.windows) (outbox : t.outbox = s.outbox)
    (phases : t.phase = Function.update s.phase index phase) : Quiet s t := by
  have same (outcome : WindowOutcome) (commits : Committed (.finished outcome)) (other : ι) :
      t.phase other = .finished outcome ↔ s.phase other = .finished outcome := by
    rw [phases]
    by_cases isIndex : other = index
    · subst isIndex
      rw [Function.update_self]
      constructor
      · rintro rfl
        exact absurd commits after
      · intro finished
        exact absurd (finished ▸ commits) before
    · rw [Function.update_of_ne isIndex]
  exact ⟨windows, outbox, same .opened (.inl rfl), same .replaced (.inr rfl)⟩

theorem insertIgnore_new {windows : Sql.Table String EvidenceWindow} {key : String}
    (free : windows key = none) (row : EvidenceWindow) :
    Sql.insertIgnore key row windows = Function.update windows key (some row) := by
  rw [Sql.insertIgnore, free]
  rfl

theorem takesOver_inserted
    (fresh : Function.Injective fun index => (calls index).values.envelope.eventId)
    (consistent : Consistent evidenceKey calls s) (story : Story digest evidenceKey calls s)
    {row : EvidenceWindow} (inserted : s.phase index = .inserted row) :
    TakesOver digest evidenceKey calls s ((stageWindow (calls index).values { s with
      windows := Sql.insertIgnore evidenceKey row s.windows }).leave index
        (.finished .opened)) index := by
  obtain ⟨free, written, isNew⟩ := consistent.inserted index row inserted
  have uncommitted : ¬Committed (s.phase index) := not_committed_of_owns (.inl ⟨row, inserted⟩)
  have absent {current : EvidenceWindow} (live : s.windows evidenceKey = some current) : False := by
    cases free.symm.trans live
  constructor
  · exact uncommitted
  · exact .inl leave_self
  · intro other different
    exact leave_ne different
  · have stages := story.stages fresh uncommitted
    exact stages
  · refine ⟨row, ?_, congrArg EvidenceWindow.ids isNew⟩
    change Sql.insertIgnore evidenceKey row s.windows evidenceKey = some row
    rw [insertIgnore_new free, Function.update_self]
  · intro current live
    exact (absent live).elim
  · intro others _ _
    change Sql.insertIgnore evidenceKey row s.windows _ = _
    rw [insertIgnore_new free, Function.update_of_ne (historyKey_ne others)]

theorem takesOver_holding
    (fresh : Function.Injective fun index => (calls index).values.envelope.eventId)
    (apart : TellsApart digest calls) (consistent : Consistent evidenceKey calls s)
    (story : Story digest evidenceKey calls s) {current : EvidenceWindow}
    (holding : s.phase index = .holding current) :
    TakesOver digest evidenceKey calls s ((stageWindow (calls index).values { s with
      windows := replaceWindow evidenceKey current.ids (calls index).values now
        (archive digest evidenceKey current s.windows) }).leave index
          (.finished .replaced)) index := by
  obtain ⟨live, expected⟩ := consistent.holding index current holding
  have uncommitted : ¬Committed (s.phase index) := not_committed_of_owns (.inr ⟨current, holding⟩)
  have written : Written calls current.ids := story.written (story.live current live)
  have free : s.windows (historyKey digest evidenceKey current.ids) = none := by
    by_contra stored
    obtain ⟨row, stored⟩ := Option.ne_none_iff_exists'.mp stored
    exact (story.archived current.ids row written stored).2.2 current live rfl
  have archives : archive digest evidenceKey current s.windows =
      Function.update s.windows (historyKey digest evidenceKey current.ids) (some current) :=
        insertIgnore_new free current
  have liveThen : archive digest evidenceKey current s.windows evidenceKey = some current := by
    rw [archives, Function.update_of_ne (historyKey_ne current.ids).symm]
    exact live
  constructor
  · exact uncommitted
  · exact .inr ⟨leave_self, current, live, expected⟩
  · intro other different
    exact leave_ne different
  · have stages := story.stages fresh uncommitted
    exact stages
  · refine ⟨(calls index).values.update now current, ?_, rfl⟩
    change replaceWindow _ _ _ _ _ _ = _
    rw [replaceWindow, Function.update_self, liveThen, Option.map_some, if_pos rfl]
  · intro row rowLive
    cases live.symm.trans rowLive
    change replaceWindow _ _ _ _ _ _ = _
    rw [replaceWindow, Function.update_of_ne (historyKey_ne current.ids), archives,
      Function.update_self]
  · intro ids isWritten different
    change replaceWindow _ _ _ _ _ _ = _
    have otherKey : historyKey digest evidenceKey ids ≠
        historyKey digest evidenceKey current.ids := by
      intro same
      exact different current live (historyKey_inj apart written isWritten same.symm)
    rw [replaceWindow, Function.update_of_ne (historyKey_ne ids), archives,
      Function.update_of_ne otherKey]

/-- What a step keeps and what it does. -/
structure Advances (digest : String → String) (evidenceKey : String) (calls : ι → WindowCall)
    (s t : EvidenceDatabase ι) : Prop where
  consistent : Consistent evidenceKey calls t
  effect : Quiet s t ∨ ∃ index, TakesOver digest evidenceKey calls s t index

theorem insertWindow_advances (consistent : Consistent evidenceKey calls s)
    (uncommitted : ¬Committed (s.phase index))
    (inserts : insertWindow evidenceKey calls s index now = some t) :
    Advances digest evidenceKey calls s t := by
  rw [insertWindow] at inserts
  split at inserts
  next =>
    cases inserts
    refine ⟨consistent.enter (by simp [Owns]) s.advisory, .inl ?_⟩
    exact quiet_of_update uncommitted (by simp [Committed]) rfl rfl rfl
  next absent =>
    split at inserts
    next free =>
      cases inserts
      constructor
      · apply consistent.own free
        · rintro row isRow
          cases isRow
          exact ⟨absent, now, rfl⟩
        · intro current isCurrent
          cases isCurrent
      · exact .inl (quiet_of_update uncommitted (by simp [Committed]) rfl rfl rfl)
    next => cases inserts

theorem lockWindow_advances (consistent : Consistent evidenceKey calls s)
    (uncommitted : ¬Committed (s.phase index))
    (locks : lockWindow evidenceKey calls s index = some t) :
    Advances digest evidenceKey calls s t := by
  rw [lockWindow] at locks
  split at locks
  next =>
    cases locks
    refine ⟨consistent.enter (by simp [Owns]) s.advisory, .inl ?_⟩
    exact quiet_of_update uncommitted (by simp [Committed]) rfl rfl rfl
  next current live =>
    split at locks
    next => cases locks
    next free =>
      split at locks
      next expected =>
        cases locks
        constructor
        · apply consistent.own (not_not.mp free)
          · intro row isRow
            cases isRow
          · intro row isRow
            cases isRow
            exact ⟨live, expected⟩
        · exact .inl (quiet_of_update uncommitted (by simp [Committed]) rfl rfl rfl)
      next =>
        cases locks
        refine ⟨consistent.leave (by simp [Owns]), .inl ?_⟩
        exact quiet_of_update uncommitted (by simp [Committed]) rfl rfl rfl

variable (fresh : Function.Injective fun index => (calls index).values.envelope.eventId)
  (apart : TellsApart digest calls) (consistent : Consistent evidenceKey calls s)
  (story : Story digest evidenceKey calls s)
include fresh apart consistent story

theorem runStatement_advances (runs : runStatement digest evidenceKey calls s index now = some t) :
    Advances digest evidenceKey calls s t := by
  rw [runStatement] at runs
  split at runs
  next waits =>
    have uncommitted : ¬Committed (s.phase index) := by simp [waits, Committed]
    split at runs
    next => exact insertWindow_advances consistent uncommitted runs
    next =>
      split at runs
      next =>
        cases runs
        refine ⟨consistent.enter (by simp [Owns]) (some index), .inl ?_⟩
        exact quiet_of_update uncommitted (by simp [Committed]) rfl rfl rfl
      next => cases runs
  next locked => exact lockWindow_advances consistent (by simp [locked, Committed]) runs
  next missing => exact insertWindow_advances consistent (by simp [missing, Committed]) runs
  next row inserted =>
    cases runs
    have owns : Owns (s.phase index) := .inl ⟨row, inserted⟩
    exact ⟨consistent.commit owns (by simp [Owns]) rfl,
      .inr ⟨index, takesOver_inserted fresh consistent story inserted⟩⟩
  next conflicted =>
    obtain ⟨row, live, rfl⟩ := Option.map_eq_some_iff.mp runs
    refine ⟨consistent.leave (by simp [Owns]), .inl ?_⟩
    exact quiet_of_update (by simp [conflicted, Committed]) (by simp [Committed]) rfl rfl rfl
  next current holding =>
    cases runs
    have owns : Owns (s.phase index) := .inr ⟨current, holding⟩
    exact ⟨consistent.commit owns (by simp [Owns]) rfl,
      .inr ⟨index, takesOver_holding fresh apart consistent story holding⟩⟩
  next => cases runs
  next => cases runs

theorem nextWindow_advances {label : WindowLabel ι}
    (steps : nextWindow digest evidenceKey calls s label = some t) :
    Advances digest evidenceKey calls s t := by
  rcases label with ⟨index, now⟩ | index
  · exact runStatement_advances fresh apart consistent story steps
  · rw [nextWindow] at steps
    split at steps
    next => cases steps
    next unfinished =>
      cases steps
      refine ⟨consistent.leave (by simp [Owns]), .inl ?_⟩
      refine quiet_of_update ?_ (by simp [Committed]) rfl rfl rfl
      rintro (opened | replaced)
      · exact unfinished _ opened
      · exact unfinished _ replaced

end steps

section runs
variable [DecidableEq ι] {s t : EvidenceDatabase ι}

/-- Both invariants, kept by every step. -/
def Sound (digest : String → String) (evidenceKey : String) (calls : ι → WindowCall)
    (s : EvidenceDatabase ι) : Prop :=
  Consistent evidenceKey calls s ∧ Story digest evidenceKey calls s

theorem Sound.step (fresh : Function.Injective fun index => (calls index).values.envelope.eventId)
    (apart : TellsApart digest calls) :
    Stable (Step (nextWindow digest evidenceKey calls) always)
      (Sound digest evidenceKey calls) := by
  rintro s label t ⟨-, steps⟩ ⟨consistent, story⟩
  obtain ⟨after, quiet | ⟨index, taken⟩⟩ := nextWindow_advances fresh apart consistent story steps
  · exact ⟨after, story.quiet quiet⟩
  · exact ⟨after, story.takesOver fresh taken⟩

/-- A row that the key pointed to is current or archived. -/
def Kept (digest : String → String) (evidenceKey : String) (row : EvidenceWindow)
    (s : EvidenceDatabase ι) : Prop :=
  s.windows evidenceKey = some row ∨ s.windows (historyKey digest evidenceKey row.ids) = some row

theorem Kept.step (fresh : Function.Injective fun index => (calls index).values.envelope.eventId)
    (apart : TellsApart digest calls) (row : EvidenceWindow) (written : Written calls row.ids) :
    Stable (Step (nextWindow digest evidenceKey calls) always) fun s =>
      Sound digest evidenceKey calls s ∧ Kept digest evidenceKey row s := by
  rintro s label t step ⟨sound, kept⟩
  refine ⟨Sound.step fresh apart step sound, ?_⟩
  obtain ⟨-, quiet | ⟨index, taken⟩⟩ := nextWindow_advances fresh apart sound.1 sound.2 step.2
  · rw [Kept, quiet.windows]
    exact kept
  · rcases kept with live | stored
    · exact .inr (taken.archived row live)
    · exact .inr (taken.archive_stays sound.2 written stored)

/-- What holds of the key after some steps, and of what it pointed to before them. -/
structure OneStory (digest : String → String) (evidenceKey : String) (calls : ι → WindowCall)
    (earlier later : EvidenceDatabase ι) : Prop where
  announced : ∀ row, earlier.windows evidenceKey = some row →
    (later.staged.map envelopeIds).count row.ids = 1
  kept : ∀ row, earlier.windows evidenceKey = some row → Kept digest evidenceKey row later
  nothingElse : ∀ event ∈ later.staged, ∃ row, row.ids = envelopeIds event ∧
    Kept digest evidenceKey row later
  duplicates : ∀ index eventId correlationId, later.phase index =
    .finished (.duplicate eventId correlationId) →
    (calls index).values.envelope.eventId ∉ later.staged.map (·.eventId)
  once : ∀ one two, later.phase one = .finished .replaced → later.phase two = .finished .replaced →
    (calls one).expected = (calls two).expected → one = two

/-- However the calls interleave. -/
theorem windows_one_story
    (fresh : Function.Injective fun index => (calls index).values.envelope.eventId)
    (apart : TellsApart digest calls)
    (before : Run (Step (nextWindow digest evidenceKey calls) always) EvidenceDatabase.initial
      labels s) (since : Run (Step (nextWindow digest evidenceKey calls) always) s more t) :
    OneStory digest evidenceKey calls s t := by
  have soundBefore := before.holds (Sound.step fresh apart) ⟨Consistent.initial, Story.initial⟩
  have sound := since.holds (Sound.step fresh apart) soundBefore
  have keeps (row : EvidenceWindow) (live : s.windows evidenceKey = some row) :
      Kept digest evidenceKey row t :=
    (since.holds (Kept.step fresh apart row (soundBefore.2.written (soundBefore.2.live row live)))
      ⟨soundBefore, .inl live⟩).2
  constructor
  · intro row live
    apply List.count_eq_one_of_mem sound.2.nodup_ids
    rcases keeps row live with isLive | stored
    · exact sound.2.live row isLive
    · exact (sound.2.archived _ row
        (soundBefore.2.written (soundBefore.2.live row live)) stored).2.1
  · exact keeps
  · intro event member
    have staged : envelopeIds event ∈ t.staged.map envelopeIds :=
      List.mem_map.mpr ⟨event, member, rfl⟩
    rcases sound.2.covered _ staged with ⟨row, live, same⟩ | ⟨row, stored⟩
    · exact ⟨row, same, .inl live⟩
    · have same := (sound.2.archived _ row (sound.2.written staged) stored).1
      exact ⟨row, same, .inr (by rw [same]; exact stored)⟩
  · intro index eventId correlationId duplicate
    exact sound.2.unstaged fresh (by simp [duplicate, Committed])
  · exact sound.2.once

def sampleEnvelope (eventId correlationId : String) : EventEnvelope where
  eventId := eventId
  subject := "evidence.ready"
  source := "alertmanager"
  correlationId := correlationId
  causationId := none
  createdAt := "t"
  payload := []
  schemaVersion := 1
  workspaceId := none

def sampleValues (eventId correlationId : String) : WindowValues :=
  ⟨"w", "c", "alertmanager", "t", none, sampleEnvelope eventId correlationId, []⟩

/-- A window is recorded and rotated. -/
def sampleCalls : Bool → WindowCall
  | false => .record (sampleValues "e1" "i1")
  | true => .rotate "e1" "i1" (sampleValues "e2" "i2")

/-- The rotation has the advisory lock while the row is inserted and committed. -/
def sampleRecording : List (WindowLabel Bool) := [.run false 1, .run true 2, .run false 3]

def sampleRotation : List (WindowLabel Bool) := [.run true 4, .run true 5]

theorem windows_one_story_sample : ∃ s t,
    execute (nextWindow id "k" sampleCalls) always EvidenceDatabase.initial sampleRecording =
      some s ∧
    execute (nextWindow id "k" sampleCalls) always s sampleRotation = some t ∧
    (s.windows "k").map EvidenceWindow.ids = some ("e1", "i1") ∧
    (t.windows "k").map EvidenceWindow.ids = some ("e2", "i2") ∧
    OneStory id "k" sampleCalls s t := by
  have fresh : Function.Injective fun index => (sampleCalls index).values.envelope.eventId := by
    rintro (_ | _) (_ | _) same
    · rfl
    · exact absurd same (by decide)
    · exact absurd same (by decide)
    · rfl
  have apart : TellsApart id sampleCalls := by
    rintro _ ⟨one, rfl⟩ _ ⟨two, rfl⟩ same
    rcases one with _ | _ <;> rcases two with _ | _
    · rfl
    · exact absurd same (by decide)
    · exact absurd same (by decide)
    · rfl
  refine ⟨_, _, rfl, rfl, by decide, by decide, ?_⟩
  exact windows_one_story fresh apart
    (execute_run (show execute _ _ _ sampleRecording = _ from rfl))
    (execute_run (show execute _ _ _ sampleRotation = _ from rfl))

end runs

end K8sOps.Alert
