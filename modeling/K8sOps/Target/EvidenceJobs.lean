import Mathlib.Data.List.Sort
import Mathlib.Data.String.Basic
import Mathlib.Logic.Function.Basic
import K8sOps.Python.Value
import K8sOps.Transition

/-! The table of evidence jobs. Agents lease a job, collect what it asks for and report it;
a lease may expire, and a janitor gives up the jobs that have used all their attempts. -/
namespace K8sOps.Target
open Python

inductive EvidenceJobStatus where
  | queued
  | leased
  | completed
  | failed
  deriving DecidableEq

structure EvidenceJob where
  jobId : String
  evidenceKey : String
  workspaceId : String
  clusterId : String
  sourceId : String
  providerKey : String
  windowStart : String
  policyGeneration : Int
  providerPolicy : Entries
  status : EvidenceJobStatus
  leaseId : Option String
  agentId : Option String
  leasedUntil : Option Int
  attemptCount : Int
  maxAttempts : Int
  failurePolicy : String
  result : Option Entries
  error : Option String
  createdAt : Int
  updatedAt : Int

section queue

structure QueueRequest where
  workspaceId : String
  clusterId : String
  sourceId : String
  windowStart : String
  providerKeys : List String
  failurePolicy : String
  maxAttempts : Int
  policyGeneration : Int
  providerPolicies : List (String × Entries)

def evidenceKey (workspaceId clusterId sourceId windowStart : String) : String :=
  ":".intercalate [workspaceId, clusterId, sourceId, windowStart]

def evidenceJobId (workspaceId clusterId sourceId windowStart providerKey : String) : String :=
  ":".intercalate [evidenceKey workspaceId clusterId sourceId windowStart, providerKey]

def QueueRequest.job (request : QueueRequest) (now : Int) (providerKey : String) : EvidenceJob where
  jobId :=
    evidenceJobId request.workspaceId request.clusterId request.sourceId
      request.windowStart providerKey
  evidenceKey :=
    evidenceKey request.workspaceId request.clusterId request.sourceId request.windowStart
  workspaceId := request.workspaceId
  clusterId := request.clusterId
  sourceId := request.sourceId
  providerKey := providerKey
  windowStart := request.windowStart
  policyGeneration := request.policyGeneration
  providerPolicy := (request.providerPolicies.lookup providerKey).getD []
  status := .queued
  leaseId := none
  agentId := none
  leasedUntil := none
  attemptCount := 0
  maxAttempts := request.maxAttempts
  failurePolicy := request.failurePolicy
  result := none
  error := none
  createdAt := now
  updatedAt := now

/-- `INSERT … ON CONFLICT (job_id) DO NOTHING RETURNING job_id`. -/
def insertJob (table : List EvidenceJob × List String) (job : EvidenceJob) :
    List EvidenceJob × List String :=
  if table.1.any (·.jobId = job.jobId) then table else (table.1 ++ [job], table.2 ++ [job.jobId])

/-- The table, and the ids of the jobs that are new. -/
def queueEvidenceJobs (request : QueueRequest) (now : Int) (jobs : List EvidenceJob) :
    List EvidenceJob × List String :=
  (request.providerKeys.eraseDups.map (request.job now)).foldl insertJob (jobs, [])

end queue

section lease

structure LeaseRequest where
  workspaceId : String
  clusterId : String
  providerKey : String
  agentId : String
  leaseSeconds : Int

/-- When a statement runs: the clocks of the database and of the caller, the lease's new
name, and the order in which the database finds rows. -/
structure LeaseMoment where
  now : Int
  clock : Int
  leaseId : String
  arrange : List EvidenceJob → List EvidenceJob
  arrange_perm (jobs : List EvidenceJob) : (arrange jobs).Perm jobs

/-- A comparison with an absent time is not true. -/
def EvidenceJob.expired (now : Int) (job : EvidenceJob) : Bool :=
  job.status = .leased && job.leasedUntil.any (· < now)

def EvidenceJob.available (now : Int) (job : EvidenceJob) : Bool :=
  job.status = .queued || job.expired now

def EvidenceJob.leasable (request : LeaseRequest) (now : Int) (job : EvidenceJob) : Bool :=
  job.workspaceId = request.workspaceId && job.clusterId = request.clusterId &&
    job.providerKey = request.providerKey && job.available now && job.attemptCount < job.maxAttempts

def EvidenceJob.lease (request : LeaseRequest) (moment : LeaseMoment)
    (job : EvidenceJob) : EvidenceJob :=
  { job with
    status := .leased
    leaseId := some moment.leaseId
    agentId := some request.agentId
    leasedUntil := some (moment.clock + request.leaseSeconds)
    attemptCount := job.attemptCount + 1
    error := none
    updatedAt := moment.now }

def updateJob (jobId : String) (change : EvidenceJob → EvidenceJob)
    (jobs : List EvidenceJob) : List EvidenceJob :=
  jobs.map fun job => if job.jobId = jobId then change job else job

/-- `ORDER BY created_at LIMIT 1 FOR UPDATE SKIP LOCKED`. -/
def leaseCandidate (request : LeaseRequest) (moment : LeaseMoment) (locked : String → Bool)
    (jobs : List EvidenceJob) : Option EvidenceJob :=
  ((moment.arrange (jobs.filter fun job => job.leasable request moment.now &&
    !locked job.jobId)).insertionSort
    (·.createdAt ≤ ·.createdAt)).head?

/-- The table, and the job that was leased. -/
def leaseEvidenceJob (request : LeaseRequest) (moment : LeaseMoment) (locked : String → Bool)
    (jobs : List EvidenceJob) : List EvidenceJob × Option EvidenceJob :=
  match leaseCandidate request moment locked jobs with
  | none => (jobs, none)
  | some job => (updateJob job.jobId (·.lease request moment) jobs, some (job.lease request moment))

end lease

section janitor

def EvidenceJob.exhausted (now : Int) (job : EvidenceJob) : Bool :=
  job.expired now && job.attemptCount ≥ job.maxAttempts

def EvidenceJob.giveUp (now : Int) (job : EvidenceJob) : EvidenceJob :=
  { job with
    status := .failed
    result := none
    error := some "lease expired; retry attempts exhausted"
    updatedAt := now }

/-- `ORDER BY job_id LIMIT … FOR UPDATE SKIP LOCKED`. -/
def exhaustedJobs (limit : Nat) (now : Int) (locked : String → Bool)
    (jobs : List EvidenceJob) : List EvidenceJob :=
  ((jobs.filter fun job => job.exhausted now && !locked job.jobId).insertionSort
    (·.jobId ≤ ·.jobId)).take limit

/-- The table, and the windows whose jobs were given up. -/
def failExhaustedEvidenceJobs (limit : Nat) (now : Int) (locked : String → Bool)
    (jobs : List EvidenceJob) : List EvidenceJob × List String :=
  let exhausted := exhaustedJobs limit now locked jobs
  (jobs.map fun job => if (exhausted.map (·.jobId)).contains job.jobId then job.giveUp now else job,
    ((exhausted.map (·.evidenceKey)).insertionSort (· ≤ ·)).eraseDups)

end janitor

section complete

/-- What an agent reports. -/
structure Completion where
  workspaceId : String
  clusterId : String
  jobId : String
  leaseId : String
  agentId : String
  status : String
  result : Entries
  error : String

def Completion.owns (call : Completion) (job : EvidenceJob) : Bool :=
  job.jobId = call.jobId && job.workspaceId = call.workspaceId && job.clusterId = call.clusterId &&
    job.leaseId = some call.leaseId && job.agentId = some call.agentId

/-- An expired lease counts as long as nobody else has leased the job. -/
def Completion.active (call : Completion) (job : EvidenceJob) : Bool :=
  call.owns job && job.status = .leased

def Completion.existing (call : Completion) (job : EvidenceJob) : Bool :=
  call.owns job && (job.status = .completed || job.status = .failed || job.status = .queued)

/-- Whatever is not a failure completes the job. -/
def Completion.nextStatus (call : Completion) (job : EvidenceJob) : EvidenceJobStatus :=
  if call.status = "failed" then
    if job.attemptCount ≥ job.maxAttempts then .failed else .queued
  else .completed

/-- The lease keeps its name. -/
def Completion.report (normalize : String → Entries → Entries) (call : Completion)
    (active : EvidenceJob) (now : Int) (job : EvidenceJob) : EvidenceJob :=
  { job with
    status := call.nextStatus active
    result := if call.nextStatus active = .completed then
      some (normalize active.providerKey call.result) else none
    error := if call.error = "" then none else some call.error
    updatedAt := now }

end complete

section machine
variable {ι : Type} [DecidableEq ι]

/-- How far a report has got: its transaction holds the row that it has selected. -/
inductive CompletionPhase where
  | waiting
  | holding (active : EvidenceJob)
  | missed
  | finished (reply : Option EvidenceJob)
  | aborted

/-- The table and its row locks, with what the callers were told: which lease of a job went
to whom, and whose result was stored. -/
structure JobWorld (ι : Type) where
  jobs : List EvidenceJob
  lock : String → Option ι
  phase : ι → CompletionPhase
  leases : String → List (String × String)
  stores : String → List (String × String)

def JobWorld.initial : JobWorld ι :=
  ⟨[], fun _ => none, fun _ => .waiting, fun _ => [], fun _ => []⟩

def JobWorld.locked (world : JobWorld ι) (jobId : String) : Bool := (world.lock jobId).isSome

/-- The end of a report's transaction. -/
def JobWorld.release (world : JobWorld ι) (index : ι) (phase : CompletionPhase) : JobWorld ι :=
  { world with
    phase := Function.update world.phase index phase
    lock := fun jobId => if world.lock jobId = some index then none else world.lock jobId }

inductive JobLabel (ι : Type) where
  | queue (request : QueueRequest) (now : Int)
  | lease (request : LeaseRequest) (moment : LeaseMoment)
  | failExhausted (limit : Nat) (now : Int)
  | complete (index : ι) (now : Int)
  | abort (index : ι)

variable (normalize : String → Entries → Entries) (calls : ι → Completion)

def JobWorld.reported (world : JobWorld ι) (call : Completion) (active : EvidenceJob)
    (now : Int) : JobWorld ι :=
  { world with
    jobs := updateJob call.jobId (call.report normalize active now) world.jobs
    stores :=
      if call.nextStatus active = .completed then
        Function.update world.stores call.jobId (world.stores call.jobId ++
          [(call.leaseId, call.agentId)])
      else world.stores }

/-- The next statement of a report; `SELECT … FOR UPDATE` waits for a locked row. -/
def completeEvidenceJob (world : JobWorld ι) (index : ι) (now : Int) : Option (JobWorld ι) :=
  let call := calls index
  match world.phase index with
  | .waiting =>
    match world.jobs.find? call.active with
    | none => some { world with phase := Function.update world.phase index .missed }
    | some active =>
      if world.locked active.jobId then none
      else some { world with
        phase := Function.update world.phase index (.holding active)
        lock := Function.update world.lock active.jobId (some index) }
  | .missed => some (world.release index (.finished (world.jobs.find? call.existing)))
  | .holding active =>
    let after := world.reported normalize call active now
    some (after.release index (.finished (after.jobs.find? (·.jobId = call.jobId))))
  | .finished _ | .aborted => none

def nextJobs (world : JobWorld ι) : JobLabel ι → Option (JobWorld ι)
  | .queue request now => some { world with jobs := (queueEvidenceJobs request now world.jobs).1 }
  | .lease request moment =>
    match leaseEvidenceJob request moment world.locked world.jobs with
    | (jobs, none) => some { world with jobs }
    | (jobs, some job) => some { world with
        jobs
        leases := Function.update world.leases job.jobId
          (world.leases job.jobId ++ [(moment.leaseId, request.agentId)]) }
  | .failExhausted limit now =>
    some { world with jobs := (failExhaustedEvidenceJobs limit now world.locked world.jobs).1 }
  | .complete index now => completeEvidenceJob normalize calls world index now
  | .abort index =>
    match world.phase index with
    | .finished _ => none
    | _ => some (world.release index .aborted)

end machine

end K8sOps.Target
