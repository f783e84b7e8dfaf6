import K8sOps.Concurrent
import K8sOps.Session.MemoryLimiter

/-! The rate limits of the Redis session store. Counting and setting the expiry are two
commands, so a call that ends in between leaves a key that never expires. Where no call ends
there, every key expires or is about to be given its expiry. -/
namespace K8sOps.Session
open Calls Transition
open Calls.Program (Pool)

section redis

/-- A value with the time, in milliseconds, at which it expires. -/
structure RedisEntry where
  value : Int
  expiresAt : Option Int
  deriving DecidableEq

structure Redis where
  now : Int
  entries : String → Option RedisEntry

namespace Redis

def get (redis : Redis) (key : String) : Option RedisEntry :=
  (redis.entries key).filter fun entry => entry.expiresAt.all (redis.now < ·)

def set (redis : Redis) (key : String) (entry : Option RedisEntry) : Redis :=
  { redis with entries := fun other => if other = key then entry else redis.entries other }

/-- A key that is new has no expiry. -/
def incr (redis : Redis) (key : String) : Int × Redis :=
  match redis.get key with
  | none => (1, redis.set key (some ⟨1, none⟩))
  | some entry => (entry.value + 1, redis.set key (some { entry with value := entry.value + 1 }))

/-- No time left: the key is deleted. -/
def expire (redis : Redis) (key : String) (seconds : Int) : Redis :=
  match redis.get key with
  | none => redis
  | some entry =>
    redis.set key (if seconds ≤ 0 then none
  else some { entry with expiresAt := some (redis.now + seconds * 1000) })

/-- Whether the expiry is valid. -/
def setex (redis : Redis) (key : String) (seconds value : Int) : Bool × Redis :=
  if seconds ≤ 0 then (false, redis)
  else (true, redis.set key (some ⟨value, some (redis.now + seconds * 1000)⟩))

/-- In seconds, rounded; negative without a key or an expiry. -/
def ttl (redis : Redis) (key : String) : Int :=
  match redis.get key with
  | none => -2
  | some ⟨_, none⟩ => -1
  | some ⟨_, some expiresAt⟩ => (expiresAt - redis.now + 500) / 1000

end Redis

inductive Command where
  | ttl (key : String)
  | incr (key : String)
  | expire (key : String) (seconds : Int)
  | setex (key : String) (seconds value : Int)

def Command.Answer : Command → Type
  | .ttl _ | .incr _ => Int
  | .expire _ _ => Unit
  | .setex _ _ _ => Bool

def Command.run : Server Command Command.Answer Redis
  | .ttl key, redis => (redis.ttl key, redis)
  | .incr key, redis => redis.incr key
  | .expire key seconds, redis => ((), redis.expire key seconds)
  | .setex key seconds value, redis => redis.setex key seconds value

end redis

section limits

structure RedisSessionStoreConfig extends RateLimitConfig where
  rateLimitKeyPrefix : String

inductive LimitVerdict where
  | admitted
  | rateLimitExceeded (retryAfter : Int)
  | indexError
  | responseError

abbrev LimitCheck := Program Command Command.Answer LimitVerdict

/-- `count = await client.incr(key)`, and `if count == 1: await client.expire(key, seconds)`. -/
def counted (key : String) (seconds : Int) (rest : Int → LimitCheck) : LimitCheck :=
  .call (.incr key) fun (count : Int) => if count = 1 then
    .call (.expire key seconds) fun _ => rest count else rest count

namespace RedisSessionStoreConfig

def checkRateLimit (config : RedisSessionStoreConfig) (key : String)
    (limit windowSeconds : Option Int) : LimitCheck :=
  let threshold := limit.getD config.rateLimit
  let window := windowSeconds.getD config.rateLimitWindowSeconds
  let redisKey := config.rateLimitKeyPrefix ++ ":" ++ key
  counted redisKey window fun count =>
    if threshold < count then .call (.ttl redisKey) fun (retryAfter : Int) =>
      .done (.rateLimitExceeded (max 1 retryAfter))
    else .done .admitted

def checkEscalatingRateLimit (config : RedisSessionStoreConfig) (key : String)
    (limit windowSeconds : Int) (lockStepsSeconds : List Int)
    (strikeTtlSeconds : Int) : LimitCheck :=
  let lockKey := config.rateLimitKeyPrefix ++ ":lock:" ++ key
  .call (.ttl lockKey) fun (retryAfter : Int) =>
    if 0 < retryAfter then .done (.rateLimitExceeded retryAfter)
    else counted (config.rateLimitKeyPrefix ++ ":count:" ++ key) windowSeconds fun count =>
      if count ≤ limit then .done .admitted
      else counted (config.rateLimitKeyPrefix ++ ":strike:" ++ key) strikeTtlSeconds
        fun strikeCount =>
        match pythonIndex lockStepsSeconds (min strikeCount lockStepsSeconds.length - 1) with
        | none => .done .indexError
        | some lockSeconds => .call (.setex lockKey lockSeconds strikeCount) fun (valid : Bool) =>
            .done (if valid then .rateLimitExceeded lockSeconds else .responseError)

end RedisSessionStoreConfig

/-- A call of the store with its arguments. -/
inductive LimitCall where
  | rateLimit (key : String) (limit windowSeconds : Option Int)
  | escalating (key : String) (limit windowSeconds : Int) (lockStepsSeconds : List Int)
      (strikeTtlSeconds : Int)

def LimitCall.check (config : RedisSessionStoreConfig) : LimitCall → LimitCheck
  | .rateLimit key limit windowSeconds => config.checkRateLimit key limit windowSeconds
  | .escalating key limit windowSeconds lockStepsSeconds strikeTtlSeconds =>
    config.checkEscalatingRateLimit key limit windowSeconds lockStepsSeconds strikeTtlSeconds

end limits

section clients
variable {ι : Type} [DecidableEq ι]

/-- Redis, and the calls that are running. -/
structure LimiterWorld (ι : Type) where
  redis : Redis
  calls : Pool ι Command Command.Answer LimitVerdict

def LimiterWorld.initial : LimiterWorld ι := ⟨⟨0, fun _ => none⟩, fun _ => none⟩

/-- A command may fail for its client, whether or not Redis has carried it out. -/
inductive LimiterLabel (ι : Type) where
  | start (index : ι) (call : LimitCall)
  | command (index : ι)
  | fail (index : ι) (performed : Bool)
  | crash (index : ι)
  | tick (milliseconds : Nat)

def nextLimiter (config : RedisSessionStoreConfig) (w : LimiterWorld ι) :
    LimiterLabel ι → Option (LimiterWorld ι)
  | .start index call =>
    match w.calls index with
    | none => some { w with calls := w.calls.set index (some (call.check config)) }
    | some _ => none
  | .command index =>
    match w.calls index with
    | none => none
    | some (.done _) => some { w with calls := w.calls.set index none }
    | some (.call command rest) =>
      some ⟨(command.run w.redis).2, w.calls.set index (some (rest (command.run w.redis).1))⟩
  | .fail index performed =>
    match w.calls index with
    | none | some (.done _) => none
    | some (.call command _) =>
      some ⟨if performed then (command.run w.redis).2 else w.redis, w.calls.set index none⟩
  | .crash index => some { w with calls := w.calls.set index none }
  | .tick milliseconds =>
    some { w with redis := { w.redis with now := w.redis.now + milliseconds } }

def LimiterWorld.upcoming (w : LimiterWorld ι) (index : ι) : Option Command :=
  match w.calls index with
  | some (.call command _) => some command
  | _ => none

/-- A call can end at this command without leaving a key that never expires: an expiry that is
not set, and the first count of a key that is lost on the way back, are the exceptions. -/
def Command.harmless (redis : Redis) (performed : Bool) : Command → Bool
  | .expire _ _ => performed
  | .incr key => !performed || (redis.get key).isSome
  | .ttl _ | .setex _ _ _ => true

def Careful (w : LimiterWorld ι) : LimiterLabel ι → Bool
  | .fail index performed => (w.upcoming index).all (·.harmless w.redis performed)
  | .crash index => (w.upcoming index).all (·.harmless w.redis false)
  | .start _ _ | .command _ | .tick _ => true

end clients

section prompt

/-- The first count of a key is followed by its expiry. -/
def Command.follows : (command : Command) → (command.Answer → LimitCheck) → Prop
  | .incr key, rest => ∃ seconds next, rest (1 : Int) = .call (.expire key seconds) next
  | .ttl _, _ | .expire _ _, _ | .setex _ _ _, _ => True

def Prompt : LimitCheck → Prop
  | .done _ => True
  | .call command rest => command.follows rest ∧ ∀ answer, Prompt (rest answer)

theorem counted_prompt {key : String} {seconds : Int} {rest : Int → LimitCheck}
    (prompt : ∀ count, Prompt (rest count)) :
    Prompt (counted key seconds rest) := by
  refine ⟨⟨seconds, fun _ => rest 1, if_pos rfl⟩, fun (count : Int) => ?_⟩
  dsimp only
  split
  · exact ⟨trivial, fun _ => prompt count⟩
  · exact prompt count

theorem checkRateLimit_prompt (config : RedisSessionStoreConfig) (key : String)
    (limit windowSeconds : Option Int) :
    Prompt (config.checkRateLimit key limit windowSeconds) := by
  apply counted_prompt
  intro count
  split
  · exact ⟨trivial, fun _ => trivial⟩
  · trivial

theorem checkEscalatingRateLimit_prompt (config : RedisSessionStoreConfig) (key : String)
    (limit windowSeconds : Int) (lockStepsSeconds : List Int) (strikeTtlSeconds : Int) :
    Prompt (config.checkEscalatingRateLimit key limit windowSeconds lockStepsSeconds
      strikeTtlSeconds) := by
  refine ⟨trivial, fun (retryAfter : Int) => ?_⟩
  dsimp only
  split
  · trivial
  · apply counted_prompt
    intro count
    split
    · trivial
    · apply counted_prompt
      intro strikeCount
      split
      · trivial
      · exact ⟨trivial, fun _ => trivial⟩

theorem LimitCall.check_prompt (config : RedisSessionStoreConfig) (call : LimitCall) :
    Prompt (call.check config) := by
  cases call with
  | rateLimit => exact checkRateLimit_prompt ..
  | escalating => exact checkEscalatingRateLimit_prompt ..

end prompt

section expiry
variable {ι : Type} {redis : Redis} {key : String} {entry : RedisEntry}

theorem Redis.get_some (found : redis.get key = some entry) : redis.entries key = some entry :=
  (Option.filter_eq_some_iff.mp found).1

theorem Redis.get_forever (found : redis.entries key = some entry)
    (forever : entry.expiresAt = none) :
    redis.get key = some entry := by
  rw [Redis.get, Option.filter_eq_some_iff]
  exact ⟨found, by rw [forever]; rfl⟩

/-- A key that never expires was there before and is not given an expiry, or it is counted
for the first time. -/
theorem Command.run_forever {command : Command}
    (found : (command.run redis).2.entries key = some entry) (forever : entry.expiresAt = none) :
    (∃ old, redis.entries key = some old ∧ old.expiresAt = none ∧
      ∀ seconds, command ≠ .expire key seconds) ∨ command = .incr key ∧ redis.get key = none := by
  -- Redis as it was, or another value under one key.
  have kept (same : redis.entries key = some entry)
    (other : ∀ seconds, command ≠ .expire key seconds) :
      ∃ old, redis.entries key = some old ∧ old.expiresAt = none ∧
        ∀ seconds, command ≠ .expire key seconds :=
    ⟨entry, same, forever, other⟩
  have written {changed : String} {value : Option RedisEntry}
    (set : (redis.set changed value).entries key = some entry) :
      key = changed ∧ value = some entry ∨ key ≠ changed ∧ redis.entries key = some entry := by
    rw [Redis.set] at set
    dsimp only at set
    split at set
    next own => exact .inl ⟨own, set⟩
    next other => exact .inr ⟨other, set⟩
  cases command with
  | ttl => exact .inl (kept found (by simp))
  | incr counted =>
    change (redis.incr counted).2.entries key = some entry at found
    rw [Redis.incr] at found
    split at found
    next absent =>
      obtain ⟨rfl, _⟩ | ⟨_, same⟩ := written found
      · exact .inr ⟨rfl, absent⟩
      · exact .inl (kept same (by simp))
    next old present =>
      obtain ⟨rfl, isEntry⟩ | ⟨_, same⟩ := written found
      · cases isEntry
        exact .inl ⟨old, Redis.get_some present, forever, by simp⟩
      · exact .inl (kept same (by simp))
  | expire expiring seconds =>
    change (redis.expire expiring seconds).entries key = some entry at found
    have other {limit : Int} (different : key ≠ expiring) :
        Command.expire expiring seconds ≠ .expire key limit := by
      intro same
      cases same
      exact different rfl
    rw [Redis.expire] at found
    split at found
    next absent =>
      refine .inl (kept found fun limit => other ?_)
      rintro rfl
      rw [Redis.get_forever found forever] at absent
      cases absent
    next old present =>
      obtain ⟨_, isEntry⟩ | ⟨different, same⟩ := written found
      · split at isEntry
        · cases isEntry
        · cases isEntry
          cases forever
      · exact .inl (kept same fun _ => other different)
  | setex locked seconds value =>
    change (redis.setex locked seconds value).2.entries key = some entry at found
    rw [Redis.setex] at found
    split at found
    next => exact .inl (kept found (by simp))
    next =>
      obtain ⟨_, isEntry⟩ | ⟨_, same⟩ := written found
      · cases isEntry
        cases forever
      · exact .inl (kept same (by simp))

/-- Every key expires, or a running call is about to see to it. -/
structure Timed (w : LimiterWorld ι) : Prop where
  prompt : ∀ index program, w.calls index = some program → Prompt program
  expires : ∀ key entry, w.redis.entries key = some entry → entry.expiresAt = none →
    ∃ index seconds, w.upcoming index = some (.expire key seconds)

theorem timed_initial : Timed (.initial : LimiterWorld ι) := by
  constructor
  · intro index program running
    cases running
  · intro key entry found
    cases found

variable {w : LimiterWorld ι} {index : ι}

theorem upcoming_call {command : Command} {rest : command.Answer → LimitCheck}
    (running : w.calls index = some (.call command rest)) : w.upcoming index = some command := by
  rw [LimiterWorld.upcoming, running]

variable [DecidableEq ι]

theorem upcoming_set_ne {other : ι} {redis : Redis} {program : Option LimitCheck}
    (different : other ≠ index) :
    (LimiterWorld.mk redis (w.calls.set index program)).upcoming other = w.upcoming other := by
  have same : (LimiterWorld.mk redis (w.calls.set index program)).calls other = w.calls other :=
    if_neg different
  rw [LimiterWorld.upcoming, LimiterWorld.upcoming, same]

theorem upcoming_set_self {redis : Redis} {command : Command} {rest : command.Answer → LimitCheck} :
    (LimiterWorld.mk redis (w.calls.set index (some (.call command rest)))).upcoming index =
      some command := by
  have own : (LimiterWorld.mk redis (w.calls.set index (some (.call command rest)))).calls index =
      some (.call command rest) := if_pos rfl
  rw [LimiterWorld.upcoming, own]

theorem Timed.set_prompt (timed : Timed w) {replaced : Option LimitCheck}
    (own : ∀ program, replaced = some program → Prompt program) (other : ι) (program : LimitCheck)
    (running : w.calls.set index replaced other = some program) : Prompt program := by
  rw [Pool.set] at running
  split at running
  next => exact own program running
  next => exact timed.prompt other program running

theorem Timed.frame (timed : Timed w) {redis : Redis} {replaced : Option LimitCheck}
    (own : ∀ program, replaced = some program → Prompt program)
    (forever : ∀ key entry, redis.entries key = some entry → entry.expiresAt = none →
      (∃ old, w.redis.entries key = some old ∧ old.expiresAt = none ∧
        ∀ seconds, w.upcoming index ≠ some (.expire key seconds)) ∨
      ∃ seconds, (LimiterWorld.mk redis (w.calls.set index replaced)).upcoming index =
      some (.expire key seconds)) :
    Timed ⟨redis, w.calls.set index replaced⟩ := by
  constructor
  · exact fun other program running => timed.set_prompt own other program running
  · intro key entry found isForever
    rcases forever key entry found isForever with ⟨old, before, wasForever, unset⟩ | ⟨seconds, next⟩
    · obtain ⟨other, seconds, next⟩ := timed.expires key old before wasForever
      have different : other ≠ index := by
        rintro rfl
        exact unset seconds next
      exact ⟨other, seconds, (upcoming_set_ne different).trans next⟩
    · exact ⟨index, seconds, next⟩

variable {config : RedisSessionStoreConfig}

/-- A call may go where its next command is harmless. -/
theorem Timed.drop (timed : Timed w)
    (harmless : ∀ command, w.upcoming index = some command →
      command.harmless w.redis false = true) :
    Timed { w with calls := w.calls.set index none } := by
  refine timed.frame (fun program running => by cases running) fun key entry found forever => ?_
  refine .inl ⟨entry, found, forever, fun seconds next => ?_⟩
  cases harmless _ next

theorem Timed.command {command : Command} {rest : command.Answer → LimitCheck} (timed : Timed w)
    (running : w.calls index = some (.call command rest)) :
    Timed ⟨(command.run w.redis).2, w.calls.set index (some (rest (command.run w.redis).1))⟩ := by
  obtain ⟨follows, continued⟩ := timed.prompt index _ running
  refine timed.frame (fun program same => ?_) fun key entry found forever => ?_
  · cases same
    exact continued _
  · rcases Command.run_forever found forever with ⟨old, before, wasForever, other⟩ | ⟨rfl, absent⟩
    · refine .inl ⟨old, before, wasForever, fun seconds next => other seconds ?_⟩
      exact Option.some.inj ((upcoming_call running).symm.trans next)
    · obtain ⟨seconds, next, isNext⟩ := follows
      have first : (Command.run (.incr key) w.redis).1 = (1 : Int) := by
        change (w.redis.incr key).1 = 1
        rw [Redis.incr, absent]
      rw [first, isNext]
      exact .inr ⟨seconds, upcoming_set_self⟩

theorem Timed.fail {command : Command} {rest : command.Answer → LimitCheck} (timed : Timed w)
    (running : w.calls index = some (.call command rest)) (performed : Bool)
    (harmless : command.harmless w.redis performed = true) :
    Timed ⟨if performed then (command.run w.redis).2 else w.redis, w.calls.set index none⟩ := by
  refine timed.frame (fun program same => by cases same) fun key entry found forever => ?_
  cases performed with
  | false =>
    refine .inl ⟨entry, found, forever, fun seconds next => ?_⟩
    cases (upcoming_call running).symm.trans next
    cases harmless
  | true =>
    rcases Command.run_forever found forever with ⟨old, before, wasForever, other⟩ | ⟨rfl, absent⟩
    · refine .inl ⟨old, before, wasForever, fun seconds next => other seconds ?_⟩
      exact Option.some.inj ((upcoming_call running).symm.trans next)
    · rw [Command.harmless, absent] at harmless
      cases harmless

theorem Timed.stays :
    Stable (Step (nextLimiter config) fun (w : LimiterWorld ι) label =>
      Careful w label = true) Timed := by
  rintro w label t ⟨careful, stepped⟩ timed
  cases label with
  | start index call =>
    rw [nextLimiter] at stepped
    split at stepped
    next idle =>
      cases stepped
      refine timed.frame (fun program same => ?_) fun key entry found forever => ?_
      · cases same
        exact call.check_prompt config
      · refine .inl ⟨entry, found, forever, fun seconds next => ?_⟩
        rw [LimiterWorld.upcoming, idle] at next
        cases next
    next => cases stepped
  | command index =>
    rw [nextLimiter] at stepped
    split at stepped
    next => cases stepped
    next value finished =>
      cases stepped
      refine timed.drop fun command next => ?_
      rw [LimiterWorld.upcoming, finished] at next
      cases next
    next command rest running =>
      cases stepped
      exact timed.command running
  | fail index performed =>
    rw [nextLimiter] at stepped
    split at stepped
    next => cases stepped
    next => cases stepped
    next command rest running =>
      cases stepped
      rw [Careful, upcoming_call running] at careful
      exact timed.fail running performed careful
  | crash index =>
    cases stepped
    refine timed.drop fun command next => ?_
    rw [Careful, next] at careful
    exact careful
  | tick milliseconds =>
    cases stepped
    exact ⟨timed.prompt, timed.expires⟩

/-- Where no call ends between the first count of a key and its expiry, every key that is not
about to be given its expiry has one. -/
theorem limiter_keys_expire {labels : List (LimiterLabel ι)}
    (run : Run (Step (nextLimiter config) fun w label => Careful w label = true)
      (.initial : LimiterWorld ι) labels w)
    (settled : ∀ index seconds, w.upcoming index ≠ some (.expire key seconds))
    (found : w.redis.get key = some entry) :
    entry.expiresAt.isSome := by
  have timed : Timed w := run.holds Timed.stays timed_initial
  rw [Option.isSome_iff_ne_none]
  intro forever
  obtain ⟨index, seconds, next⟩ := timed.expires key entry (Redis.get_some found) forever
  exact settled index seconds next

def sampleConfig : RedisSessionStoreConfig := ⟨⟨5, 60⟩, "rl"⟩

theorem limiter_keys_expire_sample : ∃ w : LimiterWorld Unit,
    execute (nextLimiter sampleConfig) (fun w label => Careful w label = true) .initial
      [.start () (.rateLimit "u" none none), .command (), .command (), .crash (), .tick 500] =
        some w ∧
    w.redis.get "rl:u" = some ⟨1, some 60000⟩ ∧
    (⟨1, some 60000⟩ : RedisEntry).expiresAt.isSome := by
  have result :
      (execute (nextLimiter sampleConfig) (fun w label => Careful w label = true)
        (.initial : LimiterWorld Unit)
      [.start () (.rateLimit "u" none none), .command (), .command (), .crash (), .tick 500]).map
        (fun w => (w.redis.get "rl:u", (w.upcoming ()).isNone)) =
          some (some ⟨1, some 60000⟩, true) := by decide +kernel
  obtain ⟨w, executed, seen⟩ := Option.map_eq_some_iff.mp result
  obtain ⟨found, idle⟩ := Prod.mk.inj seen
  refine ⟨w, executed, found, limiter_keys_expire (execute_run executed) (fun index seconds next =>
    ?_) found⟩
  rw [next] at idle
  cases idle

/-- The client crashes after it has counted: the key is there without an expiry. -/
theorem crash_leaves_key :
    (execute (nextLimiter sampleConfig) always (.initial : LimiterWorld Unit)
      [.start () (.rateLimit "u" none none), .command (), .crash (), .tick 1000000000]).map
        (·.redis.get "rl:u") =
        some (some ⟨1, none⟩) := by
  decide +kernel

end expiry

end K8sOps.Session
