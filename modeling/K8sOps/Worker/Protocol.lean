import K8sOps.Transition
import K8sOps.Worker.Processor
import Mathlib.Logic.Function.Basic

/-! Any number of workers processing deliveries of one `(event_id, consumer)`
pair over one ledger row. A delivery may arrive at any idle worker at any time,
so every redelivery schedule is covered; the calls of different workers
interleave freely and database time advances between them. -/
namespace K8sOps.Worker
open Transition

/-- The claim a worker acts under while it still has ledger writes to make. -/
def Control.claim? : Control → Option Claim
  | .handle claim | .capture claim _ | .deadLetter claim _ | .retry claim _ => some claim
  | .decode | .captureRaw _ | .begin | .ack | .nak | .stopped _ => none

/-- The calls whose effect is an update of the claimed row. -/
def Control.writesLedger : Control → Bool
  | .handle _ | .deadLetter _ _ | .retry _ _ => true
  | _ => false

def Control.idle : Control → Bool
  | .stopped _ => true
  | _ => false

/-- What one call can do to the row, the committed transactions and the claim. -/
inductive Effect (settings : Settings) (w : World) (control : Control) (outcome : Outcome)
    (w' : World) (control' : Control) : Prop where
  | quiet (row : w'.row = w.row) (commits : w'.commits = w.commits)
      (holder : control'.claim? = none ∨ control'.claim? = control.claim?)
  | claims (claimed : EventProcessing)
      (claim : claimEventProcessing settings.staleSeconds w.now w.row = some claimed)
      (row : w'.row = some claimed) (commits : w'.commits = w.commits)
      (holder : control'.claim? = none ∨ control'.claim? = some ⟨claimed.attempts, w.now⟩)
  | commits (claim : Claim) (held : control = .handle claim) (took : outcome.tookEffect)
      (row : w'.row = w.row.map (finishEventProcessing w.now (some outcome.elapsedMs)))
      (commits : w'.commits = w.commits ++ [claim.attempts])
      (holder : control'.claim? = none ∨ ∃ error elapsed, outcome = .raised error true elapsed)
  | marks (claim : Claim) (failure : Failure) (status : EventProcessingStatus)
      (held : control = .deadLetter claim failure ∨ control = .retry claim failure)
      (took : outcome.tookEffect)
      (row : w'.row = w.row.map
        (failEventProcessing w.now failure.error status (some failure.durationMs)))
      (commits : w'.commits = w.commits) (holder : control'.claim? = none)

namespace Control

theorem failing_claim (settings : Settings) (claim : Claim) (failure : Failure) :
    (failing settings claim failure).claim? = some claim := by
  unfold failing
  split <;> rfl

theorem begin_effect (settings : Settings) (w : World) (outcome : Outcome) {control' : Control}
    (next : control'.claim? = none ∨ control' = afterBegin settings w) :
    Effect settings w .begin outcome (w.begun settings) control' := by
  obtain ⟨claimed, claim, begun⟩ | ⟨existing, _, terminal, begun⟩ | ⟨existing, _, _, begun⟩ :=
    begin_cases settings.staleSeconds w.now w.row
  · refine .claims claimed claim (by simp only [World.begun, begun]) rfl (next.imp_right ?_)
    rintro rfl
    simp [afterBegin, begun, terminalStatuses, claim?]
  · refine .quiet (by simp only [World.begun, begun]) rfl (.inl (next.elim id ?_))
    rintro rfl
    have skipping : afterBegin settings w = .ack := by
      simp only [afterBegin, begun]
      exact if_pos terminal
    rw [skipping, claim?]
  · refine .quiet (by simp only [World.begun, begun]) rfl (.inl (next.elim id ?_))
    rintro rfl
    simp only [afterBegin, begun, claim?]

/-- The inversion lemma of a step: every invariant below is derived from it. -/
theorem step_effect (settings : Settings) (message : Message) (w : World) (outcome : Outcome)
    (control : Control) :
    Effect settings w control outcome (control.step settings message w outcome).1
      (control.step settings message w outcome).2 := by
  cases control with
  | decode =>
    cases outcome <;> cases decoded : message.decodeError <;>
      simp only [step, decoded] <;> exact .quiet rfl rfl (.inl rfl)
  | begin =>
    have refused : Effect settings w .begin outcome w (.stopped .raised) ∧
        Effect settings w .begin outcome w (.stopped .crashed) :=
      ⟨.quiet rfl rfl (.inl rfl), .quiet rfl rfl (.inl rfl)⟩
    exact call_holds (P := Effect settings w .begin outcome) outcome
      (begin_effect settings w outcome (.inr rfl))
      (fun _ => ⟨refused.1, begin_effect settings w outcome (.inl rfl)⟩)
      ⟨refused.2, begin_effect settings w outcome (.inl rfl)⟩
  | handle claim =>
    cases outcome with
    | returned elapsed => exact .commits claim rfl rfl rfl rfl (.inl rfl)
    | raised error took elapsed =>
      cases took with
      | false => exact .quiet rfl rfl (.inr (failing_claim settings claim _))
      | true => exact .commits claim rfl rfl rfl rfl (.inr ⟨error, elapsed, rfl⟩)
    | crashed took elapsed =>
      cases took with
      | false => exact .quiet rfl rfl (.inl rfl)
      | true => exact .commits claim rfl rfl rfl rfl (.inl rfl)
  | deadLetter claim failure =>
    cases outcome with
    | returned elapsed => exact .marks claim failure _ (.inl rfl) rfl rfl rfl rfl
    | raised _ took _ | crashed took _ =>
      cases took with
      | false => exact .quiet rfl rfl (.inl rfl)
      | true => exact .marks claim failure _ (.inl rfl) rfl rfl rfl rfl
  | retry claim failure =>
    cases outcome with
    | returned elapsed => exact .marks claim failure _ (.inr rfl) rfl rfl rfl rfl
    | raised _ took _ | crashed took _ =>
      cases took with
      | false => exact .quiet rfl rfl (.inl rfl)
      | true => exact .marks claim failure _ (.inr rfl) rfl rfl rfl rfl
  | capture claim failure =>
    cases outcome with
    | returned elapsed => exact .quiet rfl rfl (.inr rfl)
    | raised _ took _ | crashed took _ =>
      cases took <;> first | exact .quiet rfl rfl (.inr rfl) | exact .quiet rfl rfl (.inl rfl)
  | captureRaw | ack | nak =>
    cases outcome with
    | returned elapsed => exact .quiet rfl rfl (.inl rfl)
    | raised _ took _ | crashed took _ => cases took <;> exact .quiet rfl rfl (.inl rfl)
  | stopped how => exact .quiet rfl rfl (.inl rfl)

theorem step_now (settings : Settings) (message : Message) (w : World) (outcome : Outcome)
    (control : Control) : (control.step settings message w outcome).1.now = w.now := by
  cases control with
  | decode => cases outcome <;> cases decoded : message.decodeError <;> simp only [step, decoded]
  | stopped how => rfl
  | _ =>
    cases outcome with
    | returned elapsed => rfl
    | raised _ took _ | crashed took _ => cases took <;> rfl

end Control

structure System (ι : Type) where
  world : World
  workers : ι → Control

inductive Label (ι : Type) where
  | deliver (worker : ι)
  | act (worker : ι) (outcome : Outcome)
  | tick (seconds : Nat)

namespace System
variable {ι : Type} [DecidableEq ι]

/-- No row, nothing committed, every worker idle. -/
def start (now : Int) : System ι := ⟨.start now none, fun _ => .stopped .nacked⟩

/-- Deliveries of this event carry bytes that decode to it. -/
def acted (settings : Settings) (s : System ι) (worker : ι) (outcome : Outcome) : System ι :=
  let result := (s.workers worker).step settings ⟨none⟩ s.world outcome
  ⟨result.1, Function.update s.workers worker result.2⟩

def next (settings : Settings) (s : System ι) : Label ι → Option (System ι)
  | .deliver worker =>
    if (s.workers worker).idle then
      some { s with workers := Function.update s.workers worker .decode }
    else none
  | .act worker outcome =>
    if (s.workers worker).idle then none else some (s.acted settings worker outcome)
  | .tick seconds => some { s with world.now := s.world.now + seconds }

/-- The claim's row would be taken over by the next delivery. -/
def expired (settings : Settings) (s : System ι) (claim : Claim) : Prop :=
  claim.claimedAt < s.world.now - settings.staleSeconds

/-- The timing contract: a claim holder acts before its claim becomes stale. -/
def Timely (settings : Settings) (s : System ι) : Label ι → Prop
  | .act worker _ => ∀ claim, (s.workers worker).claim? = some claim → ¬ s.expired settings claim
  | _ => True

/-- A handler transaction that took effect is not reported as an error. -/
def Truthful (s : System ι) : Label ι → Prop
  | .act worker (.raised _ true _) => ∀ claim, s.workers worker ≠ .handle claim
  | _ => True

/-- A worker whose finish, retry or dead-letter update takes effect still holds
the latest claim on the row. -/
def Current (s : System ι) : Label ι → Prop
  | .act worker outcome => (s.workers worker).writesLedger → outcome.tookEffect →
      ∀ claim, (s.workers worker).claim? = some claim →
        ∃ row, s.world.row = some row ∧ row.attempts = claim.attempts
  | _ => True

/-- What a step does to the row, the commits and the claims of all workers. -/
theorem next_cases {settings : Settings} {s t : System ι} {label : Label ι}
    (stepped : s.next settings label = some t) :
    (t.world = s.world ∧ ∃ worker, t.workers = Function.update s.workers worker .decode) ∨
    (∃ seconds : Nat, t.world.row = s.world.row ∧ t.world.commits = s.world.commits ∧
      t.world.now = s.world.now + seconds ∧ t.workers = s.workers) ∨
    (∃ worker outcome control, label = .act worker outcome ∧ t.world.now = s.world.now ∧
      t.workers = Function.update s.workers worker control ∧
      Effect settings s.world (s.workers worker) outcome t.world control) := by
  cases label with
  | deliver worker =>
    simp only [next, Option.ite_none_right_eq_some, Option.some.injEq] at stepped
    obtain ⟨_, rfl⟩ := stepped
    exact .inl ⟨rfl, worker, rfl⟩
  | act worker outcome =>
    simp only [next, Option.ite_none_left_eq_some, Option.some.injEq] at stepped
    obtain ⟨_, rfl⟩ := stepped
    exact .inr (.inr ⟨worker, outcome, _, rfl, Control.step_now .., rfl, Control.step_effect ..⟩)
  | tick seconds =>
    cases stepped
    exact .inr (.inl ⟨seconds, rfl, rfl, rfl, rfl⟩)

theorem claim_update {workers : ι → Control} {worker other : ι} {control : Control} {claim : Claim}
    (held : (Function.update workers worker control other).claim? = some claim) :
    (other = worker ∧ control.claim? = some claim) ∨
      (other ≠ worker ∧ (workers other).claim? = some claim) := by
  by_cases same : other = worker
  · subst same
    exact .inl ⟨rfl, by simpa using held⟩
  · exact .inr ⟨same, by simpa [Function.update_of_ne same] using held⟩

/-- The row is the one this claim wrote and nothing has changed it since. -/
def owns (s : System ι) (claim : Claim) : Prop :=
  ∃ row, s.world.row = some row ∧ row.status = .processing ∧ row.attempts = claim.attempts ∧
    row.updatedAt = claim.claimedAt

/-- The inductive invariant behind single commitment: a live claim owns the row,
live claims are unique, and a commit closes the row. -/
structure Exclusive (settings : Settings) (s : System ι) : Prop where
  owner : ∀ worker claim, (s.workers worker).claim? = some claim →
    s.owns claim ∨ s.expired settings claim
  unique : ∀ first second claim other, (s.workers first).claim? = some claim →
    (s.workers second).claim? = some other → ¬ s.expired settings claim →
    ¬ s.expired settings other → first = second
  closed : s.world.commits ≠ [] → ∃ row, s.world.row = some row ∧ row.status = .processed
  single : s.world.commits.length ≤ 1

omit [DecidableEq ι] in
theorem exclusive_start (settings : Settings) (now : Int) :
    Exclusive settings (start now : System ι) where
  owner _ _ held := by cases held
  unique _ _ _ _ held := by cases held
  closed committed := absurd rfl committed
  single := Nat.zero_le _

section Exclusive
variable {settings : Settings} {s t : System ι}

omit [DecidableEq ι] in
theorem expired_later (later : s.world.now ≤ t.world.now) (old : s.expired settings claim) :
    t.expired settings claim := by
  unfold expired at old ⊢
  omega

omit [DecidableEq ι] in
theorem exclusive_fewer (exclusive : s.Exclusive settings) (row : t.world.row = s.world.row)
    (commits : t.world.commits = s.world.commits) (later : s.world.now ≤ t.world.now)
    (fewer : ∀ worker claim, (t.workers worker).claim? = some claim →
      (s.workers worker).claim? = some claim) : t.Exclusive settings where
  owner worker claim held := by
    obtain owned | old := exclusive.owner worker claim (fewer worker claim held)
    · exact .inl (by simpa only [owns, row] using owned)
    · exact .inr (expired_later later old)
  unique first second claim other held heldOther live liveOther :=
    exclusive.unique first second claim other (fewer _ _ held) (fewer _ _ heldOther)
      (fun old => live (expired_later later old)) (fun old => liveOther (expired_later later old))
  closed committed := by
    rw [row]
    exact exclusive.closed (commits ▸ committed)
  single := commits ▸ exclusive.single

omit [DecidableEq ι] in
theorem exclusive_expired
    (old : ∀ worker claim, (t.workers worker).claim? = some claim → t.expired settings claim)
    (closed : t.world.commits ≠ [] → ∃ row, t.world.row = some row ∧ row.status = .processed)
    (single : t.world.commits.length ≤ 1) : t.Exclusive settings where
  owner worker claim held := .inr (old worker claim held)
  unique first _ claim _ held _ live _ := absurd (old first claim held) live
  closed := closed
  single := single

omit [DecidableEq ι] in
/-- A row that can be claimed has not been committed and has no live holder. -/
theorem exclusive_claimable (exclusive : s.Exclusive settings)
    (claim : claimEventProcessing settings.staleSeconds s.world.now s.world.row = some claimed) :
    s.world.commits = [] ∧
      ∀ worker held, (s.workers worker).claim? = some held → s.expired settings held := by
  obtain ⟨_, _, replaces⟩ := claim_spec claim
  constructor
  · by_contra committed
    obtain ⟨row, present, processed⟩ := exclusive.closed committed
    have «open» := (replaces row present).2.1
    exact «open» (by simp [EventProcessing.terminal, terminalStatuses, processed])
  · intro worker held holds
    obtain ⟨row, present, processing, _, written⟩ | old := exclusive.owner worker held holds
    · obtain busy | stale := (replaces row present).2.2
      · exact absurd processing busy
      · unfold expired
        rw [← written]
        exact stale
    · exact old

theorem exclusive_writes (exclusive : s.Exclusive settings) {worker : ι} {claim : Claim}
    {control : Control} (held : (s.workers worker).claim? = some claim)
    (live : ¬ s.expired settings claim) (now : t.world.now = s.world.now)
    (workers : t.workers = Function.update s.workers worker control)
    (released : control.claim? = none) :
    ∀ other claim, (t.workers other).claim? = some claim → t.expired settings claim := by
  intro other otherClaim holds
  rw [workers] at holds
  obtain ⟨_, again⟩ | ⟨different, kept⟩ := claim_update holds
  · rw [released] at again
    cases again
  · by_contra fresh
    refine different (exclusive.unique other worker otherClaim claim kept held ?_ live)
    exact fun old => fresh (expired_later (Int.le_of_eq now.symm) old)

omit [DecidableEq ι] in
theorem exclusive_live (exclusive : s.Exclusive settings)
    (held : (s.workers worker).claim? = some claim) (live : ¬ s.expired settings claim) :
    s.owns claim ∧ s.world.commits = [] := by
  have owned := (exclusive.owner worker claim held).resolve_right live
  refine ⟨owned, ?_⟩
  by_contra committed
  obtain ⟨row, present, processing, _⟩ := owned
  obtain ⟨same, found, processed⟩ := exclusive.closed committed
  cases present.symm.trans found
  exact EventProcessingStatus.noConfusion (processing.symm.trans processed)

/-- The contract of the single-commit theorem. -/
def Contract (settings : Settings) (s : System ι) (label : Label ι) : Prop :=
  s.Timely settings label ∧ s.Truthful label

theorem exclusive_stable (settings : Settings) :
    Stable (Step (next settings) (Contract settings)) (Exclusive settings : System ι → Prop) := by
  rintro s label t ⟨⟨timely, truthful⟩, stepped⟩ exclusive
  obtain ⟨world, worker, workers⟩ | ⟨seconds, row, commits, now, workers⟩ |
    ⟨worker, outcome, control, rfl, now, workers, effect⟩ := next_cases stepped
  · refine exclusive_fewer exclusive (by rw [world]) (by rw [world])
      (Int.le_of_eq (by rw [world])) ?_
    intro other claim held
    rw [workers] at held
    obtain ⟨_, absent⟩ | ⟨_, kept⟩ := claim_update held
    · cases absent
    · exact kept
  · exact exclusive_fewer exclusive row commits (by omega) (fun _ _ held => workers ▸ held)
  · cases effect with
    | quiet row commits holder =>
      refine exclusive_fewer exclusive row commits (Int.le_of_eq now.symm) ?_
      intro other claim held
      rw [workers] at held
      obtain ⟨rfl, mine⟩ | ⟨_, kept⟩ := claim_update held
      · obtain none | same := holder
        · rw [none] at mine
          cases mine
        · rw [← same, mine]
      · exact kept
    | claims claimed claim row commits holder =>
      obtain ⟨uncommitted, old⟩ := exclusive_claimable exclusive claim
      obtain ⟨processing, written, _⟩ := claim_spec claim
      have mine : ∀ other held, (t.workers other).claim? = some held →
          (other = worker ∧ held = ⟨claimed.attempts, s.world.now⟩) ∨ t.expired settings held := by
        intro other held holds
        rw [workers] at holds
        obtain ⟨rfl, new⟩ | ⟨_, kept⟩ := claim_update holds
        · obtain none | some := holder
          · rw [none] at new
            cases new
          · exact .inl ⟨rfl, Option.some.inj (new.symm.trans some)⟩
        · exact .inr (expired_later (Int.le_of_eq now.symm) (old other held kept))
      refine ⟨?_, ?_, fun committed => absurd (commits.trans uncommitted) committed, ?_⟩
      · intro other held holds
        obtain ⟨_, rfl⟩ | past := mine other held holds
        · exact .inl ⟨claimed, row, processing, rfl, written⟩
        · exact .inr past
      · intro first second claim other heldFirst heldSecond live liveOther
        have isWorker := ((mine first claim heldFirst).resolve_right live).1
        have isSecond := ((mine second other heldSecond).resolve_right liveOther).1
        rw [isWorker, isSecond]
      · rw [commits, uncommitted]
        exact Nat.zero_le _
    | commits claim held took row commits holder =>
      have holds : (s.workers worker).claim? = some claim := by rw [held, Control.claim?]
      have live := timely claim holds
      have released : control.claim? = none := by
        obtain released | ⟨error, elapsed, rfl⟩ := holder
        · exact released
        · exact absurd held (truthful claim)
      obtain ⟨⟨before, present, _⟩, uncommitted⟩ := exclusive_live exclusive holds live
      refine exclusive_expired (exclusive_writes exclusive holds live now workers released) ?_ ?_
      · intro _
        exact ⟨_, row.trans (by rw [present, Option.map_some]), rfl⟩
      · rw [commits, uncommitted]
        exact Nat.le_refl _
    | marks claim failure status held took row commits released =>
      have holds : (s.workers worker).claim? = some claim := by
        obtain held | held := held <;> rw [held, Control.claim?]
      have live := timely claim holds
      have uncommitted := (exclusive_live exclusive holds live).2
      refine exclusive_expired (exclusive_writes exclusive holds live now workers released) ?_ ?_
      · intro committed
        exact absurd (commits.trans uncommitted) committed
      · rw [commits, uncommitted]
        exact Nat.zero_le _

end Exclusive

/-- Under the timing contract at most one handler transaction ever commits. -/
theorem commits_at_most_once (settings : Settings) (now : Int) (labels : List (Label ι))
    (s : System ι) (run : Run (Step (next settings) (Contract settings)) (start now) labels s) :
    s.world.commits.length ≤ 1 :=
  (run.holds (exclusive_stable settings) (exclusive_start settings now)).single

/-- A crashed holder is taken over by the second worker, which commits. -/
theorem commits_at_most_once_takeover :
    ∃ s : System Bool, Run (Step (next ⟨3, 10⟩) (Contract ⟨3, 10⟩)) (start 0)
      [.deliver true, .act true (.returned 0), .act true (.returned 0),
        .act true (.crashed false 0),
        .tick 11, .deliver false, .act false (.returned 0), .act false (.returned 0),
        .act false (.returned 5)] s ∧
      s.world.commits = [2] ∧ s.world.commits.length ≤ 1 := by
  have run : ∃ s : System Bool, Run (Step (next ⟨3, 10⟩) (Contract ⟨3, 10⟩)) (start 0)
      [.deliver true, .act true (.returned 0), .act true (.returned 0),
        .act true (.crashed false 0), .tick 11, .deliver false, .act false (.returned 0),
        .act false (.returned 0), .act false (.returned 5)] s ∧ s.world.commits = [2] := by
    refine ⟨_, .cons ⟨⟨trivial, trivial⟩, rfl⟩ <| .cons ⟨⟨?_, trivial⟩, rfl⟩ <|
      .cons ⟨⟨?_, trivial⟩, rfl⟩ <| .cons ⟨⟨?_, trivial⟩, rfl⟩ <| .cons ⟨⟨trivial, trivial⟩, rfl⟩ <|
      .cons ⟨⟨trivial, trivial⟩, rfl⟩ <| .cons ⟨⟨?_, trivial⟩, rfl⟩ <| .cons ⟨⟨?_, trivial⟩, rfl⟩ <|
      .cons ⟨⟨?_, trivial⟩, rfl⟩ (.nil _), rfl⟩
    all_goals
      intro claim held
      cases held
    all_goals
      unfold expired
      decide
  obtain ⟨s, run, committed⟩ := run
  exact ⟨s, run, committed, commits_at_most_once ⟨3, 10⟩ 0 _ s run⟩

section Recovery
variable {settings : Settings} {s : System ι} {worker : ι}

theorem returned_step {control : Control} (here : s.workers worker = control)
    (busy : control.idle = false)
    (timely : ∀ claim, control.claim? = some claim → ¬ s.expired settings claim) :
    Step (next settings) (Contract settings) s (.act worker (.returned 0))
      ⟨(control.step settings ⟨none⟩ s.world (.returned 0)).1,
        Function.update s.workers worker
          (control.step settings ⟨none⟩ s.world (.returned 0)).2⟩ := by
  subst here
  exact ⟨⟨timely, trivial⟩, by rw [next, busy]; rfl⟩

/-- Whatever was lost before, there is a time after which an event that is still open is committed
exactly once by a delivery to any idle worker. -/
theorem open_event_recoverable (fresh : 0 ≤ settings.staleSeconds)
    (run : Run (Step (next settings) (Contract settings)) (start now) labels s)
    (unfinished : ∀ row, s.world.row = some row → ¬ row.terminal) :
    ∃ seconds, ∀ worker, (s.workers worker).idle = true →
      ∃ t, Run (Step (next settings) (Contract settings)) s
        (.tick seconds :: .deliver worker :: List.replicate 4 (.act worker (.returned 0))) t ∧
      t.world.commits.length = 1 ∧ (∃ row, t.world.row = some row ∧ row.status = .processed) ∧
      t.world.acks = s.world.acks + 1 := by
  have exclusive := run.holds (exclusive_stable settings) (exclusive_start settings now)
  have uncommitted : s.world.commits = [] := by
    by_contra committed
    obtain ⟨row, present, processed⟩ := exclusive.closed committed
    exact unfinished row present (by simp [EventProcessing.terminal, terminalStatuses, processed])
  -- Long enough for the claim on the row to be stale.
  obtain ⟨seconds, claimed, claim⟩ : ∃ (seconds : Nat) (claimed : EventProcessing),
      claimEventProcessing settings.staleSeconds (s.world.now + seconds) s.world.row =
        some claimed := by
    cases present : s.world.row with
    | none => exact ⟨0, _, rfl⟩
    | some row =>
      refine ⟨(row.updatedAt + settings.staleSeconds + 1 - s.world.now).toNat, _,
        if_pos ⟨unfinished row present, .inr ?_⟩⟩
      unfold EventProcessing.stale
      omega
  have begun : beginEventProcessing settings.staleSeconds (s.world.now + seconds) s.world.row =
      (⟨.row .processing, claimed.attempts⟩, some claimed) := by
    simp only [beginEventProcessing, claim, (claim_spec claim).1]
  have handles : Control.afterBegin settings { s.world with now := s.world.now + seconds } =
      .handle ⟨claimed.attempts, s.world.now + seconds⟩ := by
    simp [Control.afterBegin, begun, terminalStatuses]
  refine ⟨seconds, fun worker idle => ?_⟩
  refine ⟨_, .cons ⟨⟨trivial, trivial⟩, rfl⟩ <| .cons ⟨⟨trivial, trivial⟩, if_pos idle⟩ <|
    .cons (returned_step (Function.update_self ..) rfl (by rintro _ ⟨⟩)) <|
    .cons (returned_step (Function.update_self ..) rfl (by rintro _ ⟨⟩)) <|
    .cons (returned_step ((Function.update_self ..).trans handles) rfl ?_) <|
    .cons (returned_step (Function.update_self ..) rfl (by rintro _ ⟨⟩)) (.nil _), ?_, ?_, rfl⟩
  · rintro _ ⟨⟩
    simp [expired, Control.step, call, World.begun, Outcome.tookEffect]
    omega
  · simp [Control.step, call, World.begun, World.handled, World.acked, Outcome.tookEffect,
      uncommitted]
  · simp [Control.step, call, World.begun, World.handled, World.acked, Outcome.tookEffect, begun,
      finishEventProcessing]

/-- The worker that held the claim has crashed. -/
theorem open_event_recoverable_crashed : ∃ (s t : System Bool) (seconds : Nat),
    s.world.row = some ⟨.processing, 1, none, none, 0⟩ ∧
    Run (Step (next ⟨3, 10⟩) (Contract ⟨3, 10⟩)) s
      (.tick seconds :: .deliver false :: List.replicate 4 (.act false (.returned 0))) t ∧
      t.world.commits.length = 1 := by
  have crashed : ∃ s : System Bool, Run (Step (next ⟨3, 10⟩) (Contract ⟨3, 10⟩)) (start 0)
      [.deliver true, .act true (.returned 0), .act true (.returned 0),
        .act true (.crashed false 0)] s ∧
      s.world.row = some ⟨.processing, 1, none, none, 0⟩ ∧ (s.workers false).idle = true := by
    refine ⟨_, .cons ⟨⟨trivial, trivial⟩, rfl⟩ <| .cons ⟨⟨nofun, trivial⟩, rfl⟩ <|
      .cons ⟨⟨nofun, trivial⟩, rfl⟩ <| .cons ⟨⟨?_, trivial⟩, rfl⟩ (.nil _), rfl, rfl⟩
    rintro _ ⟨⟩
    unfold expired
    decide
  obtain ⟨s, run, held, idle⟩ := crashed
  obtain ⟨seconds, recovers⟩ :=
    open_event_recoverable (by decide) run (by rw [held]; rintro _ ⟨⟩; decide)
  obtain ⟨t, later, committed, _⟩ := recovers false idle
  exact ⟨s, t, seconds, held, later, committed⟩

end Recovery

/-- Attempt numbers order the claims: only the latest can equal the row's, and a
terminal row has lost its holder. -/
structure Ordered (s : System ι) : Prop where
  bounded : ∀ worker claim, (s.workers worker).claim? = some claim →
    ∃ row, s.world.row = some row ∧ claim.attempts ≤ row.attempts
  distinct : ∀ first second claim other, (s.workers first).claim? = some claim →
    (s.workers second).claim? = some other → claim.attempts = other.attempts → first = second
  released : ∀ row, s.world.row = some row → row.terminal →
    ∀ worker claim, (s.workers worker).claim? = some claim → claim.attempts ≠ row.attempts

section Ordered
variable {settings : Settings} {s t : System ι}

omit [DecidableEq ι] in
theorem ordered_start (now : Int) : Ordered (start now : System ι) where
  bounded _ _ held := by cases held
  distinct _ _ _ _ held := by cases held
  released _ absent := by cases absent

omit [DecidableEq ι] in
theorem ordered_fewer (ordered : s.Ordered) (row : t.world.row = s.world.row)
    (fewer : ∀ worker claim, (t.workers worker).claim? = some claim →
      (s.workers worker).claim? = some claim) : t.Ordered where
  bounded worker claim held := by
    rw [row]
    exact ordered.bounded worker claim (fewer _ _ held)
  distinct first second claim other held heldOther :=
    ordered.distinct first second claim other (fewer _ _ held) (fewer _ _ heldOther)
  released found present terminal worker claim held :=
    ordered.released found (row ▸ present) terminal worker claim (fewer _ _ held)

/-- An update by the latest holder keeps the order, whatever status it writes. -/
theorem ordered_writes (ordered : s.Ordered) {worker : ι} {claim : Claim} {control : Control}
    {row : EventProcessing} {update : EventProcessing → EventProcessing}
    (held : (s.workers worker).claim? = some claim) (present : s.world.row = some row)
    (latest : row.attempts = claim.attempts)
    (attempts : ∀ row, (update row).attempts = row.attempts)
    (written : t.world.row = s.world.row.map update)
    (workers : t.workers = Function.update s.workers worker control)
    (released : control.claim? = none) : t.Ordered := by
  have others : ∀ other claim, (t.workers other).claim? = some claim →
      other ≠ worker ∧ (s.workers other).claim? = some claim := by
    intro other otherClaim holds
    rw [workers] at holds
    obtain ⟨_, again⟩ | kept := claim_update holds
    · rw [released] at again
      cases again
    · exact kept
  have result : t.world.row = some (update row) := by rw [written, present, Option.map_some]
  refine ⟨?_, ?_, ?_⟩
  · intro other otherClaim holds
    obtain ⟨found, same, below⟩ :=
      ordered.bounded other otherClaim (others other otherClaim holds).2
    cases present.symm.trans same
    exact ⟨update row, result, by rw [attempts]; exact below⟩
  · intro first second one two heldOne heldTwo
    exact ordered.distinct first second one two (others _ _ heldOne).2 (others _ _ heldTwo).2
  · intro found same _ other otherClaim holds equal
    cases result.symm.trans same
    obtain ⟨different, kept⟩ := others other otherClaim holds
    rw [attempts, latest] at equal
    exact different (ordered.distinct other worker otherClaim claim kept held equal)

theorem ordered_claims (ordered : s.Ordered) {worker : ι} {control : Control}
    (claim : claimEventProcessing settings.staleSeconds s.world.now s.world.row = some claimed)
    (row : t.world.row = some claimed)
    (workers : t.workers = Function.update s.workers worker control)
    (holder : control.claim? = none ∨ control.claim? = some ⟨claimed.attempts, s.world.now⟩) :
    t.Ordered := by
  obtain ⟨processing, _, replaces⟩ := claim_spec claim
  have older : ∀ other held, (s.workers other).claim? = some held →
      held.attempts < claimed.attempts := by
    intro other held holds
    obtain ⟨before, present, below⟩ := ordered.bounded other held holds
    have bumped := (replaces before present).1
    omega
  have mine : ∀ other held, (t.workers other).claim? = some held →
      (other = worker ∧ held.attempts = claimed.attempts) ∨
        (s.workers other).claim? = some held := by
    intro other held holds
    rw [workers] at holds
    obtain ⟨rfl, new⟩ | ⟨_, kept⟩ := claim_update holds
    · obtain none | some := holder
      · rw [none] at new
        cases new
      · cases new.symm.trans some
        exact .inl ⟨rfl, rfl⟩
    · exact .inr kept
  refine ⟨?_, ?_, ?_⟩
  · intro other held holds
    refine ⟨claimed, row, ?_⟩
    obtain ⟨_, same⟩ | kept := mine other held holds
    · exact Nat.le_of_eq same
    · exact Nat.le_of_lt (older other held kept)
  · intro first second one two heldOne heldTwo equal
    obtain ⟨isFirst, sameOne⟩ | keptOne := mine first one heldOne <;>
      obtain ⟨isSecond, sameTwo⟩ | keptTwo := mine second two heldTwo
    · rw [isFirst, isSecond]
    · have := older second two keptTwo
      omega
    · have := older first one keptOne
      omega
    · exact ordered.distinct first second one two keptOne keptTwo equal
  · intro found same terminal
    cases row.symm.trans same
    simp [EventProcessing.terminal, terminalStatuses, processing] at terminal

/-- No writer has been superseded and no commit is reported as a failure. -/
def Undisturbed (s : System ι) (label : Label ι) : Prop := s.Current label ∧ s.Truthful label

omit [DecidableEq ι] in
theorem effect_cases {control : Control} {outcome : Outcome}
    (truthful : s.Truthful (.act worker outcome))
    (effect : Effect settings s.world (s.workers worker) outcome t.world control) :
    (t.world.row = s.world.row ∧
      (control.claim? = none ∨ control.claim? = (s.workers worker).claim?)) ∨
    (∃ claimed, claimEventProcessing settings.staleSeconds s.world.now s.world.row = some claimed ∧
      t.world.row = some claimed ∧
      (control.claim? = none ∨ control.claim? = some ⟨claimed.attempts, s.world.now⟩)) ∨
    (∃ claim update, (s.workers worker).claim? = some claim ∧ (s.workers worker).writesLedger ∧
      outcome.tookEffect ∧ (∀ row : EventProcessing, (update row).attempts = row.attempts) ∧
      t.world.row = s.world.row.map update ∧ control.claim? = none) := by
  cases effect with
  | quiet row commits holder => exact .inl ⟨row, holder⟩
  | claims claimed claim row commits holder => exact .inr (.inl ⟨claimed, claim, row, holder⟩)
  | commits claim held took row commits holder =>
    refine .inr (.inr ⟨claim, finishEventProcessing s.world.now (some outcome.elapsedMs), ?_, ?_,
      took, fun _ => rfl, row, ?_⟩)
    · rw [held, Control.claim?]
    · rw [held, Control.writesLedger]
    · obtain released | ⟨error, elapsed, rfl⟩ := holder
      · exact released
      · exact absurd held (truthful claim)
  | marks claim failure status held took row commits released =>
    refine .inr (.inr ⟨claim, failEventProcessing s.world.now failure.error status
      (some failure.durationMs), ?_, ?_, took, fun _ => rfl, row, released⟩)
    · obtain held | held := held <;> rw [held, Control.claim?]
    · obtain held | held := held <;> rw [held, Control.writesLedger]

theorem undisturbed_step (stepped : Step (next settings) Undisturbed s label t)
    (ordered : s.Ordered) :
    t.Ordered ∧ ∀ row, s.world.row = some row → row.terminal → t.world.row = some row := by
  obtain ⟨⟨current, truthful⟩, stepped⟩ := stepped
  obtain ⟨world, worker, workers⟩ | ⟨seconds, row, _, _, workers⟩ |
    ⟨worker, outcome, control, rfl, _, workers, effect⟩ := next_cases stepped
  · refine ⟨ordered_fewer ordered (by rw [world]) ?_, fun _ present _ => by rw [world, present]⟩
    intro other claim held
    rw [workers] at held
    obtain ⟨_, absent⟩ | ⟨_, kept⟩ := claim_update held
    · cases absent
    · exact kept
  · exact ⟨ordered_fewer ordered row (fun _ _ held => workers ▸ held),
      fun _ present _ => row.trans present⟩
  · obtain ⟨row, holder⟩ | ⟨claimed, claim, row, holder⟩ |
      ⟨claim, update, held, writes, took, attempts, row, released⟩ := effect_cases truthful effect
    · refine ⟨ordered_fewer ordered row ?_, fun _ present _ => row.trans present⟩
      intro other claim held
      rw [workers] at held
      obtain ⟨rfl, mine⟩ | ⟨_, kept⟩ := claim_update held
      · obtain none | same := holder
        · rw [none] at mine
          cases mine
        · rw [← same, mine]
      · exact kept
    · refine ⟨ordered_claims ordered claim row workers holder, fun before present terminal => ?_⟩
      exact absurd terminal ((claim_spec claim).2.2 before present).2.1
    · obtain ⟨before, present, latest⟩ := current writes took claim held
      refine ⟨ordered_writes ordered held present latest attempts row workers released, ?_⟩
      intro found same terminal
      cases present.symm.trans same
      exact absurd latest.symm (ordered.released before present terminal worker claim held)

end Ordered

/-- While no superseded worker writes and no commit is reported as a failure, a
row that has become terminal keeps its status through every later step. -/
theorem terminal_absorbing (settings : Settings) (now : Int) (labels more : List (Label ι))
    (s t : System ι) (row : EventProcessing)
    (reached : Run (Step (next settings) Undisturbed) (start now) labels s)
    (present : s.world.row = some row) (terminal : row.terminal)
    (later : Run (Step (next settings) Undisturbed) s more t) :
    ∃ final, t.world.row = some final ∧ final.status = row.status := by
  have ordered : s.Ordered := reached.holds
    (fun _ _ _ stepped ordered => (undisturbed_step stepped ordered).1) (ordered_start now)
  have kept : t.Ordered ∧ t.world.row = some row := by
    refine later.holds (P := fun u => u.Ordered ∧ u.world.row = some row) ?_ ⟨ordered, present⟩
    rintro u label v stepped ⟨ordered, present⟩
    have step := undisturbed_step stepped ordered
    exact ⟨step.1, step.2 row present terminal⟩
  exact ⟨row, kept.2, rfl⟩

/-- One delivery commits; its redelivery finds the row closed. -/
theorem terminal_absorbing_redelivery :
    ∃ s t : System Unit, (∃ row, s.world.row = some row ∧ row.terminal) ∧
      Run (Step (next ⟨3, 10⟩) Undisturbed) s
        [.act () (.returned 0), .deliver (), .act () (.returned 0), .act () (.returned 0)] t ∧
      ∃ final, t.world.row = some final ∧ final.status = .processed := by
  have silent (s : System Unit) (outcome : Outcome) (quiet : (s.workers ()).writesLedger = false) :
      s.Current (.act () outcome) := fun writes => by simp [quiet] at writes
  have runs : ∃ s t : System Unit, Run (Step (next ⟨3, 10⟩) Undisturbed) (start 0)
      [.deliver (), .act () (.returned 0), .act () (.returned 0), .act () (.returned 5)] s ∧
      s.world.row = some ⟨.processed, 1, none, some 5, 0⟩ ∧
      Run (Step (next ⟨3, 10⟩) Undisturbed) s
        [.act () (.returned 0), .deliver (), .act () (.returned 0), .act () (.returned 0)] t := by
    refine ⟨_, _, .cons ⟨⟨trivial, trivial⟩, rfl⟩ <| .cons ⟨⟨silent _ _ rfl, trivial⟩, rfl⟩ <|
      .cons ⟨⟨silent _ _ rfl, trivial⟩, rfl⟩ <| .cons ⟨⟨?_, trivial⟩, rfl⟩ (.nil _), rfl,
      .cons ⟨⟨silent _ _ rfl, trivial⟩, rfl⟩ <| .cons ⟨⟨trivial, trivial⟩, rfl⟩ <|
      .cons ⟨⟨silent _ _ rfl, trivial⟩, rfl⟩ <| .cons ⟨⟨silent _ _ rfl, trivial⟩, rfl⟩ (.nil _)⟩
    intro _ _ claim held
    cases held
    exact ⟨_, rfl, rfl⟩
  obtain ⟨s, t, reached, present, later⟩ := runs
  have terminal : (⟨.processed, 1, none, some 5, 0⟩ : EventProcessing).terminal := by decide
  exact ⟨s, t, ⟨_, present, terminal⟩, later,
    terminal_absorbing ⟨3, 10⟩ 0 _ _ s t _ reached present terminal later⟩

/-- Without the condition a closed row is reopened: the handler transaction takes
effect but its commit is reported as an error, so the same worker marks a retry. -/
theorem processed_row_reopened :
    ∃ s t : System Unit,
      Run (Step (next ⟨3, 10⟩) always) (start 0)
        [.deliver (), .act () (.returned 0), .act () (.returned 0),
          .act () (.raised "connection lost" true 5)] s ∧
      s.world.row.map (·.status) = some .processed ∧
      Run (Step (next ⟨3, 10⟩) always) s [.act () (.returned 0)] t ∧
      t.world.row.map (·.status) = some .retrying :=
  ⟨_, _, execute_run rfl, rfl, execute_run rfl, rfl⟩

end System

end K8sOps.Worker
