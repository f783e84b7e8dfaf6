import K8sOps.Worker.Ledger
import Mathlib.Tactic.Common

/-! `EventProcessor.process` and `EventProcessor.fail` for one delivered message,
as a small-step program. Each step is one awaited call or one committed
transaction of the source. The environment decides how the call ends: it may
return, raise or crash (the process dies, or is unwound past `except Exception`),
and a call that does not return may or may not have had its durable effect. -/
namespace K8sOps.Worker

structure Settings where
  maxAttempts : Nat
  staleSeconds : Int
  deriving DecidableEq, Repr

/-- How one call ends. `effect` says whether its durable effect took place. -/
inductive Outcome where
  | returned (elapsedMs : Nat)
  | raised (error : String) (effect : Bool) (elapsedMs : Nat)
  | crashed (effect : Bool) (elapsedMs : Nat)
  deriving DecidableEq, Repr

def Outcome.tookEffect : Outcome → Bool
  | .returned _ => true
  | .raised _ effect _ | .crashed effect _ => effect

def Outcome.elapsedMs : Outcome → Nat
  | .returned elapsed | .raised _ _ elapsed | .crashed _ elapsed => elapsed

structure DeadLetter where
  error : String
  attempts : Nat
  deriving DecidableEq, Repr

/-- What is durable for one event and one consumer, with the broker's view of
the message. `commits` holds the attempt number of every handler transaction
that committed: business writes, staged outbox rows and the ledger's finish. -/
structure World where
  now : Int
  row : Option EventProcessing
  recorded : Bool
  commits : List Nat
  deadLetters : List DeadLetter
  rawDeadLetters : List String
  acks : Nat
  naks : Nat
  deriving DecidableEq, Repr

def World.start (now : Int) (row : Option EventProcessing) : World :=
  ⟨now, row, false, [], [], [], 0, 0⟩

/-- The bytes of a message either decode to the event or make the codec raise. -/
structure Message where
  decodeError : Option String
  deriving DecidableEq, Repr

/-- The claim a worker believes it holds. -/
structure Claim where
  attempts : Nat
  claimedAt : Int
  deriving DecidableEq, Repr

structure Failure where
  error : String
  durationMs : Nat
  deriving DecidableEq, Repr

inductive Stop where
  | acked
  | nacked
  | raised
  | crashed
  deriving DecidableEq, Repr

/-- The next call of `process` or `fail`. -/
inductive Control where
  | decode
  | captureRaw (error : String)
  | begin
  | handle (claim : Claim)
  | capture (claim : Claim) (failure : Failure)
  | deadLetter (claim : Claim) (failure : Failure)
  | retry (claim : Claim) (failure : Failure)
  | ack
  | nak
  | stopped (how : Stop)
  deriving DecidableEq, Repr

namespace World

def capturedRaw (error : String) (w : World) : World :=
  { w with rawDeadLetters := w.rawDeadLetters ++ [error] }

/-- `Ledger.begin`, in one unit of work: record the event and try to claim it. -/
def begun (settings : Settings) (w : World) : World :=
  { w with
    recorded := true, row := (beginEventProcessing settings.staleSeconds w.now w.row).2 }

/-- The handler's unit of work commits: effects, outbox and ledger in one step. -/
def handled (claim : Claim) (elapsedMs : Nat) (w : World) : World :=
  { w with
    commits := w.commits ++ [claim.attempts],
    row := w.row.map (finishEventProcessing w.now (some elapsedMs)) }

def captured (claim : Claim) (failure : Failure) (w : World) : World :=
  { w with deadLetters := w.deadLetters ++ [⟨failure.error, claim.attempts⟩] }

/-- `Ledger.retry` and `Ledger.dead_letter` differ only in the status written. -/
def failed (status : EventProcessingStatus) (failure : Failure) (w : World) : World :=
  { w with
    row := w.row.map (failEventProcessing w.now failure.error status (some failure.durationMs)) }

def acked (w : World) : World := { w with acks := w.acks + 1 }

def nacked (w : World) : World := { w with naks := w.naks + 1 }

end World

/-- Where `process` continues after the claim has been committed. -/
def Control.afterBegin (settings : Settings) (w : World) : Control :=
  let record := (beginEventProcessing settings.staleSeconds w.now w.row).1
  match record.status with
  | .row status =>
    if status ∈ terminalStatuses then .ack
    else if status ≠ .processing then .nak
    else .handle ⟨record.attempts, w.now⟩
  | .claimBlocked | .unknown => .nak

/-- The entry of `fail`: a dead letter once the attempts are used up. -/
def Control.failing (settings : Settings) (claim : Claim) (failure : Failure) : Control :=
  if claim.attempts ≥ settings.maxAttempts then .capture claim failure else .retry claim failure

/-- One call with its durable effect and its two continuations. -/
def call (outcome : Outcome) (effect : World → World) (returned : Control)
    (raised : String → Control) (w : World) : World × Control :=
  let w := if outcome.tookEffect then effect w else w
  match outcome with
  | .returned _ => (w, returned)
  | .raised error _ _ => (w, raised error)
  | .crashed _ _ => (w, .stopped .crashed)

def Control.step (settings : Settings) (message : Message) (w : World) (outcome : Outcome) :
    Control → World × Control
  | .decode =>
    -- The codec is a function of the bytes, so only a crash is left to the environment.
    match outcome, message.decodeError with
    | .crashed _ _, _ => (w, .stopped .crashed)
    | _, none => (w, .begin)
    | _, some error => (w, .captureRaw error)
  | .captureRaw error => call outcome (World.capturedRaw error) .ack (fun _ => .nak) w
  | .begin =>
    call outcome (World.begun settings) (.afterBegin settings w) (fun _ => .stopped .raised) w
  | .handle claim =>
    call outcome (World.handled claim outcome.elapsedMs) .ack
      (fun error => .failing settings claim ⟨error, outcome.elapsedMs⟩) w
  | .capture claim failure =>
    call outcome (World.captured claim failure) (.deadLetter claim failure)
      (fun _ => .retry claim failure) w
  | .deadLetter _ failure =>
    call outcome (World.failed .deadLettered failure) .ack (fun _ => .stopped .raised) w
  | .retry _ failure =>
    call outcome (World.failed .retrying failure) .nak (fun _ => .stopped .raised) w
  | .ack => call outcome World.acked (.stopped .acked) (fun _ => .stopped .raised) w
  | .nak => call outcome World.nacked (.stopped .nacked) (fun _ => .stopped .raised) w
  | .stopped how => (w, .stopped how)

/-- One call of `process`: the outcomes of its calls in order. -/
def process (settings : Settings) (message : Message) (w : World) (outcomes : List Outcome) :
    World × Control :=
  outcomes.foldl (fun state outcome => state.2.step settings message state.1 outcome) (w, .decode)

/-- To show a property after a call, show it for the five ways the call can end. -/
theorem call_holds {P : World → Control → Prop} (outcome : Outcome)
    (returns : P (effect w) returned)
    (raises : ∀ error, P w (raised error) ∧ P (effect w) (raised error))
    (crashes : P w (.stopped .crashed) ∧ P (effect w) (.stopped .crashed)) :
    P (call outcome effect returned raised w).1 (call outcome effect returned raised w).2 := by
  cases outcome with
  | returned elapsed => exact returns
  | raised error took elapsed =>
    cases took with
    | false => exact (raises error).1
    | true => exact (raises error).2
  | crashed took elapsed =>
    cases took with
    | false => exact crashes.1
    | true => exact crashes.2

/-- The event is accounted for: handled, dead-lettered, captured raw because its
bytes do not decode, or found closed in the ledger before this delivery. -/
def Accounted (message : Message) (before : Option EventProcessing) (w : World) : Prop :=
  (w.commits ≠ [] ∧ ∃ row, w.row = some row ∧ row.status = .processed) ∨
  (w.deadLetters ≠ [] ∧ ∃ row, w.row = some row ∧ row.status = .deadLettered) ∨
  (message.decodeError ≠ none ∧ w.rawDeadLetters ≠ []) ∨
  (∃ row, before = some row ∧ row.terminal)

/-- What holds whenever the program is about to make its next call. -/
def Control.Sound (message : Message) (before : Option EventProcessing) (w : World) :
    Control → Prop
  | .decode | .begin => w.acks = 0 ∧ w.row = before
  | .captureRaw _ => w.acks = 0 ∧ message.decodeError ≠ none
  | .handle _ | .capture _ _ => w.acks = 0 ∧ ∃ row, w.row = some row
  | .deadLetter _ _ => w.acks = 0 ∧ w.deadLetters ≠ [] ∧ ∃ row, w.row = some row
  | .retry _ _ | .nak => w.acks = 0
  | .ack => w.acks = 0 ∧ Accounted message before w
  | .stopped .acked => 0 < w.acks ∧ Accounted message before w
  | .stopped .nacked => w.acks = 0 ∧ 0 < w.naks
  | .stopped .raised | .stopped .crashed => 0 < w.acks → Accounted message before w

namespace Control

theorem sound_raised (fresh : w.acks = 0) : Sound message before w (.stopped .raised) := by
  intro acked
  omega

theorem sound_crashed (fresh : w.acks = 0) : Sound message before w (.stopped .crashed) := by
  intro acked
  omega

/-- The rule for a call that does not acknowledge: a crash needs no argument. -/
theorem sound_call (outcome : Outcome) (fresh : w.acks = 0) (quiet : (effect w).acks = 0)
    (returns : Sound message before (effect w) returned)
    (raises : ∀ error, Sound message before w (raised error) ∧
      Sound message before (effect w) (raised error)) :
    Sound message before (call outcome effect returned raised w).1
      (call outcome effect returned raised w).2 :=
  call_holds outcome returns raises ⟨sound_crashed fresh, sound_crashed quiet⟩

theorem sound_afterBegin (settings : Settings) (fresh : w.acks = 0) :
    Sound message w.row (w.begun settings) (afterBegin settings w) := by
  obtain ⟨claimed, _, begun⟩ | ⟨existing, same, terminal, begun⟩ | ⟨existing, same, busy, begun⟩ :=
    begin_cases settings.staleSeconds w.now w.row
  · have handling : afterBegin settings w = .handle ⟨claimed.attempts, w.now⟩ := by
      simp [afterBegin, begun, terminalStatuses]
    rw [handling]
    exact ⟨fresh, claimed, by simp only [World.begun, begun]⟩
  · have skipping : afterBegin settings w = .ack := by
      simp only [afterBegin, begun]
      exact if_pos terminal
    rw [skipping]
    exact ⟨fresh, .inr (.inr (.inr ⟨existing, same, terminal⟩))⟩
  · have waiting : afterBegin settings w = .nak := by simp only [afterBegin, begun]
    rw [waiting]
    exact fresh

theorem sound_failing (settings : Settings) (claim : Claim) (failure : Failure)
    (fresh : w.acks = 0) (present : ∃ row, w.row = some row) :
    Sound message before w (failing settings claim failure) := by
  unfold failing
  split
  · exact ⟨fresh, present⟩
  · exact fresh

theorem sound_step (settings : Settings) (outcome : Outcome) {control : Control}
    (sound : Sound message before w control) :
    Sound message before (control.step settings message w outcome).1
      (control.step settings message w outcome).2 := by
  cases control with
  | decode =>
    cases outcome with
    | crashed => exact sound_crashed sound.1
    | returned | raised =>
      cases decoded : message.decodeError with
      | none =>
        simp only [step, decoded]
        exact sound
      | some error =>
        simp only [step, decoded]
        exact ⟨sound.1, by simp [decoded]⟩
  | captureRaw error =>
    obtain ⟨fresh, undecodable⟩ := sound
    have captured : Accounted message before (w.capturedRaw error) :=
      .inr (.inr (.inl ⟨undecodable, by simp [World.capturedRaw]⟩))
    exact sound_call outcome fresh fresh ⟨fresh, captured⟩ (fun _ => ⟨fresh, fresh⟩)
  | begin =>
    obtain ⟨fresh, rfl⟩ := sound
    exact sound_call outcome fresh fresh (sound_afterBegin settings fresh)
      (fun _ => ⟨sound_raised fresh, sound_raised fresh⟩)
  | handle claim =>
    obtain ⟨fresh, row, present⟩ := sound
    have finished : ∃ row, (w.handled claim outcome.elapsedMs).row = some row ∧
        row.status = .processed :=
      ⟨finishEventProcessing w.now (some outcome.elapsedMs) row,
        congrArg (Option.map _) present, rfl⟩
    refine sound_call outcome fresh fresh ⟨fresh, .inl ⟨by simp [World.handled], finished⟩⟩
      (fun error => ⟨?_, ?_⟩)
    · exact sound_failing settings claim _ fresh ⟨row, present⟩
    · exact sound_failing settings claim _ fresh (finished.imp fun _ found => found.1)
  | capture claim failure =>
    obtain ⟨fresh, present⟩ := sound
    exact sound_call outcome fresh fresh ⟨fresh, by simp [World.captured], present⟩
      (fun _ => ⟨fresh, fresh⟩)
  | deadLetter claim failure =>
    obtain ⟨fresh, captured, row, present⟩ := sound
    have closed : ∃ row, (w.failed .deadLettered failure).row = some row ∧
        row.status = .deadLettered :=
      ⟨failEventProcessing w.now failure.error .deadLettered (some failure.durationMs) row,
        congrArg (Option.map _) present, rfl⟩
    exact sound_call outcome fresh fresh ⟨fresh, .inr (.inl ⟨captured, closed⟩)⟩
      (fun _ => ⟨sound_raised fresh, sound_raised fresh⟩)
  | retry claim failure =>
    have fresh : w.acks = 0 := sound
    exact sound_call outcome fresh fresh fresh (fun _ => ⟨sound_raised fresh, sound_raised fresh⟩)
  | ack =>
    obtain ⟨_, accounted⟩ := sound
    exact call_holds outcome ⟨Nat.succ_pos _, accounted⟩
      (fun _ => ⟨fun _ => accounted, fun _ => accounted⟩) ⟨fun _ => accounted, fun _ => accounted⟩
  | nak =>
    have fresh : w.acks = 0 := sound
    exact sound_call outcome fresh fresh ⟨fresh, Nat.succ_pos _⟩
      (fun _ => ⟨sound_raised fresh, sound_raised fresh⟩)
  | stopped how => exact sound

/-- An upper bound on the calls still to be made. -/
def rank : Control → Nat
  | .decode => 6
  | .begin => 5
  | .handle _ => 4
  | .capture _ _ => 3
  | .captureRaw _ | .deadLetter _ _ | .retry _ _ => 2
  | .ack | .nak => 1
  | .stopped _ => 0

theorem rank_step (settings : Settings) (message : Message) (w : World) (outcome : Outcome)
    (control : Control) : (control.step settings message w outcome).2.rank ≤ control.rank - 1 := by
  cases control with
  | decode => cases outcome <;> cases decoded : message.decodeError <;> simp [step, decoded, rank]
  | begin =>
    refine call_holds (P := fun _ c => c.rank ≤ 4) outcome ?_ (fun _ => by simp [rank])
      (by simp [rank])
    unfold afterBegin
    dsimp only
    repeat' split
    all_goals simp [rank]
  | handle claim =>
    refine call_holds (P := fun _ c => c.rank ≤ 3) outcome (by simp [rank]) (fun _ => ?_)
      (by simp [rank])
    unfold failing
    split <;> simp [rank]
  | captureRaw | capture | deadLetter | retry | ack | nak =>
    cases outcome <;> simp [step, call, rank]
  | stopped how => exact Nat.zero_le _

theorem stopped_of_rank {control : Control} (done : control.rank = 0) :
    ∃ how, control = .stopped how := by
  cases control with
  | stopped how => exact ⟨how, rfl⟩
  | _ => cases done

end Control

theorem process_holds {P : World → Control → Prop} (settings : Settings) (message : Message)
    (preserved : ∀ w control outcome, P w control →
      P (control.step settings message w outcome).1 (control.step settings message w outcome).2)
    (outcomes : List Outcome) (start : P w .decode) :
    P (process settings message w outcomes).1 (process settings message w outcomes).2 := by
  unfold process
  generalize Control.decode = control at start
  induction outcomes generalizing w control with
  | nil => exact start
  | cons outcome rest ih => exact ih _ (preserved w control outcome start)

theorem process_stops (settings : Settings) (message : Message) (w : World)
    (outcomes : List Outcome) (enough : 6 ≤ outcomes.length) :
    ∃ how, (process settings message w outcomes).2 = .stopped how := by
  have bound : ∀ (outcomes : List Outcome) (state : World × Control),
      (outcomes.foldl (fun state outcome => state.2.step settings message state.1 outcome)
        state).2.rank ≤ state.2.rank - outcomes.length := by
    intro outcomes
    induction outcomes with
    | nil => intro state; exact Nat.le_refl _
    | cons outcome rest ih =>
      intro state
      have later := ih (state.2.step settings message state.1 outcome)
      have first := state.2.rank_step settings message state.1 outcome
      simp only [List.foldl_cons, List.length_cons]
      omega
  have spent := bound outcomes (w, .decode)
  have full : Control.decode.rank = 6 := rfl
  exact Control.stopped_of_rank (by unfold process; dsimp only at spent; omega)

/-- An acknowledged message is accounted for, and a call that ends without an
acknowledgement has asked for redelivery, raised or crashed. -/
theorem process_acks_only_accounted (settings : Settings) (message : Message) (now : Int)
    (row : Option EventProcessing) (outcomes : List Outcome) :
    (0 < (process settings message (.start now row) outcomes).1.acks →
      Accounted message row (process settings message (.start now row) outcomes).1) ∧
    (6 ≤ outcomes.length → (process settings message (.start now row) outcomes).1.acks = 0 →
      ((process settings message (.start now row) outcomes).2 = .stopped .nacked ∧
        0 < (process settings message (.start now row) outcomes).1.naks) ∨
      (process settings message (.start now row) outcomes).2 = .stopped .raised ∨
      (process settings message (.start now row) outcomes).2 = .stopped .crashed) := by
  have sound := process_holds (P := fun w control => control.Sound message row w) settings message
    (fun _ _ outcome sound => Control.sound_step settings outcome sound) outcomes
    (show Control.Sound message row (.start now row) .decode from ⟨rfl, rfl⟩)
  have stops := process_stops settings message (.start now row) outcomes
  generalize process settings message (.start now row) outcomes = final at sound stops
  obtain ⟨w, control⟩ := final
  refine ⟨fun acked => ?_, fun enough unacked => ?_⟩
  · cases control with
    | ack => exact sound.2
    | stopped how =>
      cases how with
      | acked => exact sound.2
      | nacked => exact absurd sound.1 (Nat.ne_of_gt acked)
      | raised | crashed => exact sound acked
    | retry | nak => exact absurd sound (Nat.ne_of_gt acked)
    | _ => exact absurd sound.1 (Nat.ne_of_gt acked)
  · obtain ⟨how, rfl⟩ := stops enough
    cases how with
    | acked => exact absurd unacked (Nat.ne_of_gt sound.1)
    | nacked => exact .inl ⟨rfl, sound.2⟩
    | raised => exact .inr (.inl rfl)
    | crashed => exact .inr (.inr rfl)

end K8sOps.Worker
