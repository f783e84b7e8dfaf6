import Mathlib.Data.List.Nodup
import K8sOps.Target.EvidenceJobs

/-! Whatever agents lease and report, a job is collected once: its attempts are bounded, its
result is stored by the agent that holds the current lease, and a job that is done stays
as it is. -/
namespace K8sOps.Target
open Python Transition
variable {ι : Type} {normalize : String → Entries → Entries} {calls : ι → Completion}

section rows
variable {job : EvidenceJob} {leases stores : List (String × String)} {request : LeaseRequest}
  {moment : LeaseMoment} {now : Int}

def EvidenceJob.Settled (job : EvidenceJob) : Prop := job.status = .completed ∨ job.status = .failed

/-- What holds of a job with its leases, oldest first, and with the leases that stored a
result. -/
structure JobRules (job : EvidenceJob) (leases stores : List (String × String)) : Prop where
  attempts : job.attemptCount = leases.length
  bound : job.attemptCount ≤ job.maxAttempts
  queued : job.status = .queued → job.attemptCount < job.maxAttempts
  holder : job.status = .leased →
    ∃ leaseId agentId, job.leaseId = some leaseId ∧ job.agentId = some agentId ∧
    leases.getLast? = some (leaseId, agentId)
  result : job.result.isSome ↔ job.status = .completed
  stores : stores.length = if job.status = .completed then 1 else 0
  distinct : (leases.map Prod.fst).Nodup

theorem JobRules.new {request : QueueRequest} (positive : 1 ≤ request.maxAttempts)
    (providerKey : String) : JobRules (request.job now providerKey) [] [] where
  attempts := rfl
  bound := Int.le_trans (show (0 : Int) ≤ 1 by decide) positive
  queued _ := positive
  holder leased := by cases leased
  result := by simp [QueueRequest.job]
  stores := rfl
  distinct := List.nodup_nil

theorem EvidenceJob.leasable_iff :
    job.leasable request now = true ↔ job.workspaceId = request.workspaceId ∧
    job.clusterId = request.clusterId ∧ job.providerKey = request.providerKey ∧
    job.available now = true ∧ job.attemptCount < job.maxAttempts := by
  simp only [EvidenceJob.leasable, Bool.and_eq_true, decide_eq_true_eq, and_assoc]

theorem EvidenceJob.open_of_available (available : job.available now = true) :
    job.status = .queued ∨ job.status = .leased := by
  simp only [EvidenceJob.available, EvidenceJob.expired, Bool.or_eq_true, Bool.and_eq_true,
    decide_eq_true_eq] at available
  exact available.imp id (·.1)

theorem EvidenceJob.not_settled (isOpen : job.status = .queued ∨ job.status = .leased) :
    ¬job.Settled := by
  rcases isOpen with status | status <;> simp [EvidenceJob.Settled, status]

theorem JobRules.lease (rules : JobRules job leases stores)
    (leasable : job.leasable request now = true) (fresh : moment.leaseId ∉ leases.map Prod.fst) :
    JobRules (job.lease request moment) (leases ++ [(moment.leaseId, request.agentId)]) stores := by
  obtain ⟨_, _, _, available, room⟩ := EvidenceJob.leasable_iff.mp leasable
  have unsettled := EvidenceJob.not_settled (EvidenceJob.open_of_available available)
  have incomplete : job.status ≠ .completed := fun completed => unsettled (.inl completed)
  constructor
  · rw [List.length_append, List.length_singleton]
    change job.attemptCount + 1 = _
    rw [rules.attempts]
    rfl
  · exact room
  · intro queued
    cases queued
  · intro _
    exact ⟨_, _, rfl, rfl, List.getLast?_concat ..⟩
  · change job.result.isSome = true ↔ EvidenceJobStatus.leased = .completed
    rw [rules.result]
    simp [incomplete]
  · have none := rules.stores
    rw [if_neg incomplete] at none
    exact none
  · rw [List.map_append, List.map_singleton, List.nodup_append]
    refine ⟨rules.distinct, List.nodup_singleton _, fun id member new isNew same => fresh ?_⟩
    cases List.mem_singleton.mp isNew
    cases same
    exact member

theorem JobRules.giveUp (rules : JobRules job leases stores) (leased : job.status = .leased) :
    JobRules (job.giveUp now) leases stores := by
  have none := rules.stores
  rw [leased] at none
  constructor
  · exact rules.attempts
  · exact rules.bound
  · intro queued
    cases queued
  · intro isLeased
    cases isLeased
  · simp [EvidenceJob.giveUp]
  · exact none
  · exact rules.distinct

theorem Completion.active_iff {call : Completion} :
    call.active job = true ↔ job.jobId = call.jobId ∧
    job.workspaceId = call.workspaceId ∧ job.clusterId = call.clusterId ∧
    job.leaseId = some call.leaseId ∧ job.agentId = some call.agentId ∧ job.status = .leased := by
  simp only [Completion.active, Completion.owns, Bool.and_eq_true, decide_eq_true_eq, and_assoc]

theorem Completion.nextStatus_queued {call : Completion} (queued : call.nextStatus job = .queued) :
    job.attemptCount < job.maxAttempts := by
  rw [Completion.nextStatus] at queued
  split at queued
  next =>
    split at queued
    next => cases queued
    next room => exact Int.not_le.mp room
  next => cases queued

theorem Completion.nextStatus_ne {call : Completion} : call.nextStatus job ≠ .leased := by
  rw [Completion.nextStatus]
  split
  · split <;> simp
  · simp

theorem JobRules.report (rules : JobRules job leases stores) {call : Completion}
    (active : call.active job = true) :
    JobRules (call.report normalize job now job) leases
      (if call.nextStatus job = .completed then stores ++ [(call.leaseId, call.agentId)]
    else stores) := by
  obtain ⟨_, _, _, _, _, leased⟩ := Completion.active_iff.mp active
  have none := rules.stores
  rw [leased] at none
  have empty : stores = [] := List.eq_nil_of_length_eq_zero none
  constructor
  · exact rules.attempts
  · exact rules.bound
  · exact Completion.nextStatus_queued
  · intro isLeased
    exact absurd isLeased Completion.nextStatus_ne
  · change (if call.nextStatus job = .completed then some _ else Option.none).isSome = true ↔
      call.nextStatus job = .completed
    split <;> simp [*]
  · change (if call.nextStatus job = .completed then _ else _ : List _).length =
      if call.nextStatus job = .completed then 1 else 0
    rw [empty]
    split <;> rfl
  · exact rules.distinct

end rows

section worlds
variable {w : JobWorld ι}

def jobIds (jobs : List EvidenceJob) : List String := jobs.map (·.jobId)

theorem job_eq {jobs : List EvidenceJob} (distinct : (jobIds jobs).Nodup) {one two : EvidenceJob}
    (first : one ∈ jobs) (second : two ∈ jobs) (same : one.jobId = two.jobId) : one = two :=
  List.inj_on_of_nodup_map distinct first second same

/-- The rules of all jobs, and the reports that are under way: each holds its row, and the
row is still as it was selected. -/
structure Leasing (calls : ι → Completion) (w : JobWorld ι) : Prop where
  distinct : (jobIds w.jobs).Nodup
  rules : ∀ job ∈ w.jobs, JobRules job (w.leases job.jobId) (w.stores job.jobId)
  unknown : ∀ jobId, jobId ∉ jobIds w.jobs → w.leases jobId = [] ∧ w.stores jobId = []
  held : ∀ index active, w.phase index = .holding active →
    w.lock active.jobId = some index ∧ active ∈ w.jobs ∧ (calls index).active active = true
  holder : ∀ jobId index, w.lock jobId = some index →
    ∃ active, w.phase index = .holding active ∧ active.jobId = jobId

/-- What a step does to the jobs that were there. -/
structure Moves (calls : ι → Completion) (s t : JobWorld ι) (reporter : Option ι) : Prop where
  leasing : Leasing calls t
  settled : ∀ job ∈ s.jobs, job.Settled → job ∈ t.jobs
  stored : ∀ before ∈ s.jobs, ∀ after ∈ t.jobs, before.jobId = after.jobId → before.result = none →
    after.result.isSome → ∃ index, reporter = some index ∧ (calls index).active before = true

theorem Leasing.initial : Leasing calls JobWorld.initial where
  distinct := List.nodup_nil
  rules job member := by cases member
  unknown jobId _ := ⟨rfl, rfl⟩
  held index active holding := by cases holding
  holder jobId index locked := by cases locked

/-- A locked row is leased, so a queued one is not locked. -/
theorem Leasing.unlocked (leasing : Leasing calls w) {job : EvidenceJob} (member : job ∈ w.jobs)
    (queued : job.status = .queued) : w.lock job.jobId = none := by
  by_contra locked
  obtain ⟨index, locked⟩ := Option.ne_none_iff_exists'.mp locked
  obtain ⟨active, holding, same⟩ := leasing.holder job.jobId index locked
  obtain ⟨_, isThere, isActive⟩ := leasing.held index active holding
  cases job_eq leasing.distinct isThere member same
  obtain ⟨_, _, _, _, _, leased⟩ := Completion.active_iff.mp isActive
  cases leased.symm.trans queued

theorem Leasing.mapped (leasing : Leasing calls w) {change : EvidenceJob → EvidenceJob}
    {leases stores : String → List (String × String)} (ids : ∀ job, (change job).jobId = job.jobId)
    (rules : ∀ job ∈ w.jobs, JobRules (change job) (leases job.jobId) (stores job.jobId))
    (others : ∀ jobId, jobId ∉ jobIds w.jobs →
      leases jobId = w.leases jobId ∧ stores jobId = w.stores jobId)
    {lock : String → Option ι} {phase : ι → CompletionPhase}
    (held : ∀ index active, phase index = .holding active → w.phase index = .holding active ∧
      lock active.jobId = w.lock active.jobId ∧ change active = active)
    (holder : ∀ jobId index, lock jobId = some index →
      w.lock jobId = some index ∧ phase index = w.phase index) :
    Leasing calls ⟨w.jobs.map change, lock, phase, leases, stores⟩ := by
  have sameIds : jobIds (w.jobs.map change) = jobIds w.jobs := by
    rw [jobIds, jobIds, List.map_map]
    exact List.map_congr_left fun job _ => ids job
  constructor
  · rw [sameIds]
    exact leasing.distinct
  · intro job member
    obtain ⟨old, isOld, rfl⟩ := List.mem_map.mp member
    rw [ids]
    exact rules old isOld
  · intro jobId unknown
    rw [sameIds] at unknown
    obtain ⟨sameLeases, sameStores⟩ := others jobId unknown
    obtain ⟨noLeases, noStores⟩ := leasing.unknown jobId unknown
    exact ⟨sameLeases.trans noLeases, sameStores.trans noStores⟩
  · intro index active holding
    obtain ⟨before, sameLock, same⟩ := held index active holding
    obtain ⟨locked, member, isActive⟩ := leasing.held index active before
    exact ⟨sameLock.trans locked, List.mem_map.mpr ⟨active, member, same⟩, isActive⟩
  · intro jobId index locked
    obtain ⟨before, samePhase⟩ := holder jobId index locked
    obtain ⟨active, holding, same⟩ := leasing.holder jobId index before
    exact ⟨active, samePhase.trans holding, same⟩

theorem mapped_after {jobs : List EvidenceJob} {change : EvidenceJob → EvidenceJob}
    {before after : EvidenceJob} (distinct : (jobIds jobs).Nodup)
    (ids : ∀ job, (change job).jobId = job.jobId) (isBefore : before ∈ jobs)
    (isAfter : after ∈ jobs.map change) (same : before.jobId = after.jobId) :
    after = change before := by
  obtain ⟨old, isOld, rfl⟩ := List.mem_map.mp isAfter
  rw [job_eq distinct isBefore isOld (same.trans (ids old))]

theorem Leasing.skipping (leasing : Leasing calls w) {change : EvidenceJob → EvidenceJob}
    {leases stores : String → List (String × String)} (ids : ∀ job, (change job).jobId = job.jobId)
    (rules : ∀ job ∈ w.jobs, JobRules (change job) (leases job.jobId) (stores job.jobId))
    (others : ∀ jobId, jobId ∉ jobIds w.jobs →
      leases jobId = w.leases jobId ∧ stores jobId = w.stores jobId)
    (skips : ∀ job ∈ w.jobs, w.locked job.jobId = true → change job = job) :
    Leasing calls { w with jobs := w.jobs.map change, leases, stores } := by
  refine leasing.mapped ids rules others (fun index active holding =>
    ⟨holding, rfl, ?_⟩) fun _ _ locked => ⟨locked, rfl⟩
  obtain ⟨locked, member, _⟩ := leasing.held index active holding
  exact skips active member (by rw [JobWorld.locked, locked]; rfl)

end worlds

section queue
variable {w : JobWorld ι} {request : QueueRequest} {now : Int}

theorem insertJobs_spec (added : List EvidenceJob) (table : List EvidenceJob × List String) :
    ∃ new, (added.foldl insertJob table).1 = table.1 ++ new ∧ new ⊆ added ∧
      ((jobIds table.1).Nodup → (jobIds (table.1 ++ new)).Nodup) := by
  induction added generalizing table with
  | nil =>
    exact ⟨[], (List.append_nil _).symm, List.Subset.refl _, by rw [List.append_nil]; exact id⟩
  | cons job added ih =>
    rw [List.foldl_cons]
    by_cases known : table.1.any (·.jobId = job.jobId) = true
    · obtain ⟨new, table', subset, distinct⟩ := ih table
      rw [insertJob, if_pos known]
      exact ⟨new, table', List.Subset.trans subset (List.subset_cons_self ..), distinct⟩
    · obtain ⟨new, table', subset, distinct⟩ := ih (table.1 ++ [job], table.2 ++ [job.jobId])
      rw [insertJob, if_neg known]
      refine ⟨job :: new, by rw [table', List.append_assoc]; rfl, List.cons_subset_cons job subset,
        fun old => ?_⟩
      rw [← List.singleton_append, ← List.append_assoc]
      apply distinct
      rw [jobIds, List.map_append, List.map_singleton, List.nodup_append]
      refine ⟨old, List.nodup_singleton _, fun id member other isNew same => known ?_⟩
      cases List.mem_singleton.mp isNew
      obtain ⟨found, isThere, isSame⟩ := List.mem_map.mp member
      exact List.any_eq_true.mpr ⟨found, isThere, decide_eq_true (isSame.trans same)⟩

theorem queue_moves (leasing : Leasing calls w) (positive : 1 ≤ request.maxAttempts) :
    Moves calls w { w with jobs := (queueEvidenceJobs request now w.jobs).1 } none := by
  obtain ⟨new, table, subset, distinct⟩ :=
    insertJobs_spec (request.providerKeys.eraseDups.map (request.job now)) (w.jobs, [])
  rw [show (queueEvidenceJobs request now w.jobs).1 = w.jobs ++ new from table]
  have allDistinct := distinct leasing.distinct
  have isNew {job : EvidenceJob} (member : job ∈ new) : job.jobId ∉ jobIds w.jobs := by
    rw [jobIds, List.map_append, List.nodup_append] at allDistinct
    intro old
    exact allDistinct.2.2 _ old _ (List.mem_map.mpr ⟨job, member, rfl⟩) rfl
  constructor
  · constructor
    · exact allDistinct
    · intro job member
      rcases List.mem_append.mp member with old | added
      · exact leasing.rules job old
      · obtain ⟨noLeases, noStores⟩ := leasing.unknown job.jobId (isNew added)
        obtain ⟨providerKey, _, rfl⟩ := List.mem_map.mp (subset added)
        change JobRules _ (w.leases _) (w.stores _)
        rw [noLeases, noStores]
        exact .new positive providerKey
    · intro jobId unknown
      apply leasing.unknown jobId
      intro old
      apply unknown
      rw [jobIds, List.map_append]
      exact List.mem_append_left _ old
    · intro index active holding
      obtain ⟨locked, member, isActive⟩ := leasing.held index active holding
      exact ⟨locked, List.mem_append_left _ member, isActive⟩
    · exact leasing.holder
  · intro job member _
    exact List.mem_append_left _ member
  · intro before isBefore after isAfter same unset isSet
    cases job_eq allDistinct (List.mem_append_left _ isBefore) isAfter same
    simp [unset] at isSet

end queue

section lease
variable {w : JobWorld ι} {request : LeaseRequest} {moment : LeaseMoment} {job : EvidenceJob}

theorem leaseCandidate_spec {locked : String → Bool} {jobs : List EvidenceJob}
    (chosen : leaseCandidate request moment locked jobs = some job) :
    job ∈ jobs ∧ job.leasable request moment.now = true ∧ locked job.jobId = false := by
  have member :=
    (moment.arrange_perm _).mem_iff.mp
      ((List.perm_insertionSort _ _).mem_iff.mp (List.mem_of_head? chosen))
  simpa only [List.mem_filter, Bool.and_eq_true, Bool.not_eq_true'] using member

theorem lease_moves (leasing : Leasing calls w)
    (fresh : ∀ jobId, moment.leaseId ∉ (w.leases jobId).map Prod.fst)
    (chosen : leaseCandidate request moment w.locked w.jobs = some job) :
    Moves calls w { w with
      jobs := updateJob job.jobId (·.lease request moment) w.jobs
      leases := Function.update w.leases job.jobId (w.leases job.jobId ++
        [(moment.leaseId, request.agentId)]) } none := by
  obtain ⟨member, leasable, unlocked⟩ := leaseCandidate_spec chosen
  have only {other : EvidenceJob} (isThere : other ∈ w.jobs) (same : other.jobId = job.jobId) :
      other = job :=
    job_eq leasing.distinct isThere member same
  have ids (other : EvidenceJob) :
      (if other.jobId = job.jobId then other.lease request moment else other).jobId =
        other.jobId := by
    split <;> rfl
  obtain ⟨_, _, _, available, _⟩ := EvidenceJob.leasable_iff.mp leasable
  have unsettled := EvidenceJob.not_settled (EvidenceJob.open_of_available available)
  constructor
  · apply leasing.skipping ids
    · intro other isThere
      by_cases same : other.jobId = job.jobId
      · cases only isThere same
        rw [if_pos rfl, Function.update_self]
        exact (leasing.rules _ member).lease leasable (fresh _)
      · rw [if_neg same, Function.update_of_ne same]
        exact leasing.rules other isThere
    · intro jobId unknown
      refine ⟨Function.update_of_ne ?_ .., rfl⟩
      rintro rfl
      exact unknown (List.mem_map.mpr ⟨job, member, rfl⟩)
    · intro other _ locked
      rw [if_neg]
      intro same
      rw [same, unlocked] at locked
      cases locked
  · intro other isThere settled
    refine List.mem_map.mpr ⟨other, isThere, if_neg fun same => ?_⟩
    cases only isThere same
    exact unsettled settled
  · intro before isBefore after isAfter same unset isSet
    cases mapped_after leasing.distinct ids isBefore isAfter same
    split at isSet <;> simp [EvidenceJob.lease, unset] at isSet

end lease

section janitor
variable {w : JobWorld ι} {limit : Nat} {now : Int} {job : EvidenceJob}

theorem exhaustedJobs_spec {locked : String → Bool} {jobs : List EvidenceJob}
    (chosen : job ∈ exhaustedJobs limit now locked jobs) :
    job ∈ jobs ∧ job.status = .leased ∧ locked job.jobId = false := by
  have member := (List.perm_insertionSort _ _).mem_iff.mp (List.mem_of_mem_take chosen)
  simp only [List.mem_filter, EvidenceJob.exhausted, EvidenceJob.expired, Bool.and_eq_true,
    decide_eq_true_eq, Bool.not_eq_true'] at member
  exact ⟨member.1, member.2.1.1.1, member.2.2⟩

theorem failExhausted_moves (leasing : Leasing calls w) :
    Moves calls w { w with
        jobs := (failExhaustedEvidenceJobs limit now w.locked w.jobs).1 } none := by
  have chosen {other : EvidenceJob} (isThere : other ∈ w.jobs)
      (known : ((exhaustedJobs limit now w.locked w.jobs).map (·.jobId)).contains other.jobId =
        true) :
      other.status = .leased ∧ w.locked other.jobId = false := by
    obtain ⟨job, isChosen, same⟩ := List.mem_map.mp (List.contains_iff_mem.mp known)
    obtain ⟨member, leased, unlocked⟩ := exhaustedJobs_spec isChosen
    cases job_eq leasing.distinct member isThere same
    exact ⟨leased, unlocked⟩
  have ids (other : EvidenceJob) :
      (if ((exhaustedJobs limit now w.locked w.jobs).map (·.jobId)).contains other.jobId
      then other.giveUp now else other).jobId = other.jobId := by
    split <;> rfl
  constructor
  · apply leasing.skipping ids
    · intro other isThere
      split
      next known => exact (leasing.rules other isThere).giveUp (chosen isThere known).1
      next => exact leasing.rules other isThere
    · intro jobId _
      exact ⟨rfl, rfl⟩
    · intro other isThere locked
      rw [if_neg]
      intro known
      cases locked.symm.trans (chosen isThere known).2
  · intro other isThere settled
    refine List.mem_map.mpr ⟨other, isThere, if_neg fun known => ?_⟩
    exact EvidenceJob.not_settled (.inr (chosen isThere known).1) settled
  · intro before isBefore after isAfter same unset isSet
    cases mapped_after leasing.distinct ids isBefore isAfter same
    split at isSet <;> simp [EvidenceJob.giveUp, unset] at isSet

end janitor

theorem Leasing.idle {w t : JobWorld ι} (leasing : Leasing calls t) (jobs : t.jobs = w.jobs)
    (reporter : Option ι) :
    Moves calls w t reporter := by
  refine ⟨leasing, fun job member _ => by rw [jobs]; exact member,
    fun before isBefore after isAfter same unset isSet => ?_⟩
  cases job_eq leasing.distinct (jobs ▸ isBefore) isAfter same
  simp [unset] at isSet

section complete
variable [DecidableEq ι] {w : JobWorld ι} {index : ι} {active : EvidenceJob}
  {phase : CompletionPhase} {now : Int}

theorem release_held (leasing : Leasing calls w) (ended : ∀ active, phase ≠ .holding active)
    {other : ι} (holding : (w.release index phase).phase other = .holding active) :
    other ≠ index ∧ w.phase other = .holding active ∧
      (w.release index phase).lock active.jobId = w.lock active.jobId := by
  have different : other ≠ index := by
    rintro rfl
    exact ended active ((Function.update_self ..).symm.trans holding)
  have before : w.phase other = .holding active :=
    (Function.update_of_ne different ..).symm.trans holding
  refine ⟨different, before, ?_⟩
  change (if w.lock active.jobId = some index then none else w.lock active.jobId) =
    w.lock active.jobId
  rw [(leasing.held other active before).1, if_neg fun same => different (Option.some.inj same)]

theorem release_holder {other : ι} {jobId : String}
    (locked : (w.release index phase).lock jobId = some other) :
    w.lock jobId = some other ∧ (w.release index phase).phase other = w.phase other := by
  change (if w.lock jobId = some index then none else w.lock jobId) = some other at locked
  split at locked
  next => cases locked
  next free =>
    refine ⟨locked, Function.update_of_ne ?_ ..⟩
    rintro rfl
    exact free locked

theorem Leasing.release (leasing : Leasing calls w) (ended : ∀ active, phase ≠ .holding active) :
    Leasing calls (w.release index phase) where
  distinct := leasing.distinct
  rules := leasing.rules
  unknown := leasing.unknown
  held other active holding := by
    obtain ⟨_, before, sameLock⟩ := release_held leasing ended holding
    obtain ⟨locked, rest⟩ := leasing.held other active before
    exact ⟨sameLock.trans locked, rest⟩
  holder jobId other locked := by
    obtain ⟨before, same⟩ := release_holder locked
    obtain ⟨active, holding, isJob⟩ := leasing.holder jobId other before
    exact ⟨active, same.trans holding, isJob⟩

theorem Leasing.enter (leasing : Leasing calls w) (waiting : w.phase index = .waiting)
    (ended : ∀ active, phase ≠ .holding active) :
    Leasing calls { w with phase := Function.update w.phase index phase } where
  distinct := leasing.distinct
  rules := leasing.rules
  unknown := leasing.unknown
  held other active holding := by
    by_cases same : other = index
    · subst same
      exact absurd ((Function.update_self ..).symm.trans holding) (ended active)
    · exact leasing.held other active ((Function.update_of_ne same ..).symm.trans holding)
  holder jobId other locked := by
    obtain ⟨active, holding, isJob⟩ := leasing.holder jobId other locked
    refine ⟨active, (Function.update_of_ne ?_ ..).trans holding, isJob⟩
    rintro rfl
    cases waiting.symm.trans holding

/-- `SELECT … FOR UPDATE` finds the row and locks it. -/
theorem Leasing.select (leasing : Leasing calls w) (waiting : w.phase index = .waiting)
    (found : w.jobs.find? (calls index).active = some active)
    (unlocked : w.lock active.jobId = none) :
    Leasing calls { w with
      phase := Function.update w.phase index (.holding active)
      lock := Function.update w.lock active.jobId (some index) } where
  distinct := leasing.distinct
  rules := leasing.rules
  unknown := leasing.unknown
  held other held holding := by
    by_cases same : other = index
    · subst same
      cases (Function.update_self ..).symm.trans holding
      exact ⟨Function.update_self .., List.mem_of_find?_eq_some found, List.find?_some found⟩
    · obtain ⟨locked, rest⟩ :=
        leasing.held other held ((Function.update_of_ne same ..).symm.trans holding)
      refine ⟨(Function.update_of_ne ?_ ..).trans locked, rest⟩
      intro sameJob
      rw [sameJob, unlocked] at locked
      cases locked
  holder jobId other locked := by
    by_cases same : jobId = active.jobId
    · subst same
      cases (Function.update_self ..).symm.trans locked
      exact ⟨active, Function.update_self .., rfl⟩
    · obtain ⟨held, holding, isJob⟩ :=
        leasing.holder jobId other ((Function.update_of_ne same ..).symm.trans locked)
      refine ⟨held, (Function.update_of_ne ?_ ..).trans holding, isJob⟩
      rintro rfl
      cases waiting.symm.trans holding

omit [DecidableEq ι] in
theorem reported_stores_self (w : JobWorld ι) (call : Completion)
    (active : EvidenceJob) (now : Int) :
    (w.reported normalize call active now).stores call.jobId =
      if call.nextStatus active = .completed then
        w.stores call.jobId ++ [(call.leaseId, call.agentId)]
      else w.stores call.jobId := by
  change (if call.nextStatus active = .completed then Function.update w.stores call.jobId _
else w.stores) call.jobId = _
  split
  · rw [Function.update_self]
  · rfl

omit [DecidableEq ι] in
theorem reported_stores_ne (w : JobWorld ι) {call : Completion} {jobId : String}
    (different : jobId ≠ call.jobId) :
    (w.reported normalize call active now).stores jobId = w.stores jobId := by
  change (if call.nextStatus active = .completed then Function.update w.stores call.jobId _
else w.stores) jobId = _
  split
  · rw [Function.update_of_ne different]
  · rfl

theorem report_moves (leasing : Leasing calls w) (holding : w.phase index = .holding active)
    (reply : Option EvidenceJob) :
    Moves calls w ((w.reported normalize (calls index) active now).release index (.finished reply))
      (some index) := by
  obtain ⟨locked, member, isActive⟩ := leasing.held index active holding
  obtain ⟨isJob, _, _, _, _, leased⟩ := Completion.active_iff.mp isActive
  have only {other : EvidenceJob} (isThere : other ∈ w.jobs) (same : other.jobId =
    (calls index).jobId) : other = active :=
    job_eq leasing.distinct isThere member (same.trans isJob.symm)
  have ids (other : EvidenceJob) : (if other.jobId = (calls index).jobId
      then (calls index).report normalize active now other else other).jobId = other.jobId := by
    split <;> rfl
  have ended (other : EvidenceJob) : CompletionPhase.finished reply ≠ .holding other := by simp
  constructor
  · refine leasing.mapped ids ?_ ?_ ?_ ?_
    · intro other isThere
      by_cases same : other.jobId = (calls index).jobId
      · cases only isThere same
        have rules : JobRules ((calls index).report normalize active now active) _ _ :=
          (leasing.rules active member).report isActive
        rw [if_pos same, isJob, reported_stores_self]
        rw [isJob] at rules
        exact rules
      · rw [if_neg same, reported_stores_ne w same]
        exact leasing.rules other isThere
    · intro jobId unknown
      refine ⟨rfl, reported_stores_ne w ?_⟩
      rintro rfl
      exact unknown (List.mem_map.mpr ⟨active, member, isJob⟩)
    · intro other held isHolding
      obtain ⟨different, before, sameLock⟩ := release_held leasing ended isHolding
      refine ⟨before, sameLock, if_neg fun sameJob => different ?_⟩
      have heldLock := (leasing.held other held before).1
      rw [sameJob.trans isJob.symm, locked] at heldLock
      exact (Option.some.inj heldLock).symm
    · intro jobId other isLocked
      exact release_holder isLocked
  · intro other isThere settled
    refine List.mem_map.mpr ⟨other, isThere, if_neg fun same => ?_⟩
    cases only isThere same
    exact EvidenceJob.not_settled (.inr leased) settled
  · intro before isBefore after isAfter same unset isSet
    cases mapped_after leasing.distinct ids isBefore isAfter same
    split at isSet
    next isReported => exact ⟨index, rfl, by rw [only isBefore isReported]; exact isActive⟩
    next => simp [unset] at isSet

end complete

section runs
variable [DecidableEq ι] {s t : JobWorld ι} {label : JobLabel ι}

/-- Jobs may be tried at least once, and leases have fresh names. -/
def Orderly (world : JobWorld ι) : JobLabel ι → Prop
  | .queue request _ => 1 ≤ request.maxAttempts
  | .lease _ moment => ∀ jobId, moment.leaseId ∉ (world.leases jobId).map Prod.fst
  | .failExhausted .. | .complete .. | .abort _ => True

/-- Whose report a step is. -/
def JobLabel.reporter : JobLabel ι → Option ι
  | .complete index _ => some index
  | .queue .. | .lease .. | .failExhausted .. | .abort _ => none

theorem completeEvidenceJob_moves {index : ι} {now : Int} (leasing : Leasing calls s)
    (steps : completeEvidenceJob normalize calls s index now = some t) :
    Moves calls s t (some index) := by
  rw [completeEvidenceJob] at steps
  split at steps
  next waiting =>
    split at steps
    next =>
      cases steps
      refine Leasing.idle (leasing.enter waiting ?_) (by rfl) _
      intro active holding
      cases holding
    next active found =>
      split at steps
      next => cases steps
      next unlocked =>
        cases steps
        rw [JobWorld.locked, Bool.not_eq_true, Option.isSome_eq_false_iff,
          Option.isNone_iff_eq_none] at unlocked
        refine Leasing.idle ?_ (by rfl) _
        exact leasing.select waiting found unlocked
  next =>
    cases steps
    refine Leasing.idle (leasing.release ?_) (by rfl) _
    intro active holding
    cases holding
  next active holding =>
    cases steps
    exact report_moves leasing holding _
  next => cases steps
  next => cases steps

theorem nextJobs_moves (leasing : Leasing calls s) (orderly : Orderly s label)
    (steps : nextJobs normalize calls s label = some t) : Moves calls s t label.reporter := by
  cases label with
  | queue request now =>
    cases steps
    exact queue_moves leasing orderly
  | lease request moment =>
    cases chosen : leaseCandidate request moment s.locked s.jobs with
    | none =>
      rw [nextJobs, leaseEvidenceJob, chosen] at steps
      cases steps
      exact leasing.idle rfl _
    | some job =>
      rw [nextJobs, leaseEvidenceJob, chosen] at steps
      cases steps
      exact lease_moves leasing orderly chosen
  | failExhausted limit now =>
    cases steps
    exact failExhausted_moves leasing
  | complete index now => exact completeEvidenceJob_moves leasing steps
  | abort index =>
    rw [nextJobs] at steps
    split at steps
    next => cases steps
    next =>
      cases steps
      refine Leasing.idle (leasing.release ?_) (by rfl) _
      intro active holding
      cases holding

theorem Leasing.step : Stable (Step (nextJobs normalize calls) Orderly) (Leasing calls) :=
  fun _ _ _ step leasing => (nextJobs_moves leasing step.1 step.2).leasing

def LeaseRequest.asksFor (request : LeaseRequest) (job : EvidenceJob) : Prop :=
  job.workspaceId = request.workspaceId ∧ job.clusterId = request.clusterId ∧
    job.providerKey = request.providerKey

/-- The job whose lease is the last one that was given out, and no other lease has its name. -/
def HoldsLease (call : Completion) (job : EvidenceJob) (leases : List (String × String)) : Prop :=
  job.status = .leased ∧ job.leaseId = some call.leaseId ∧ job.agentId = some call.agentId ∧
    ∃ earlier, leases = earlier ++ [(call.leaseId, call.agentId)] ∧
      call.leaseId ∉ earlier.map Prod.fst

/-- What is promised of the jobs after some steps, of those that were settled before them,
and of the next step. -/
structure CollectedOnce (normalize : String → Entries → Entries) (calls : ι → Completion)
    (s t : JobWorld ι) : Prop where
  settled : ∀ job ∈ s.jobs, job.Settled → job ∈ t.jobs
  single : (jobIds t.jobs).Nodup
  attempts : ∀ job ∈ t.jobs, (t.leases job.jobId).length ≤ job.maxAttempts
  once : ∀ jobId, (t.stores jobId).length ≤ 1
  results : ∀ job ∈ t.jobs, job.result.isSome ↔ job.status = .completed
  holder : ∀ label u, Step (nextJobs normalize calls) Orderly t label u →
    ∀ before ∈ t.jobs, ∀ after ∈ u.jobs, before.jobId = after.jobId → before.result = none →
      after.result.isSome →
      ∃ index, label.reporter = some index ∧ HoldsLease (calls index) before (t.leases before.jobId)
  queued : ∀ job ∈ t.jobs, job.status = .queued → job.attemptCount < job.maxAttempts ∧
    ∀ request moment, request.asksFor job → (leaseCandidate request moment t.locked t.jobs).isSome

omit [DecidableEq ι] in
theorem Leasing.holdsLease (leasing : Leasing calls t) {job : EvidenceJob} {call : Completion}
    (member : job ∈ t.jobs) (active : call.active job = true) :
    HoldsLease call job (t.leases job.jobId) := by
  obtain ⟨_, _, _, leaseId, agentId, leased⟩ := Completion.active_iff.mp active
  have rules := leasing.rules job member
  obtain ⟨last, agent, isLast, isAgent, given⟩ := rules.holder leased
  cases leaseId.symm.trans isLast
  cases agentId.symm.trans isAgent
  obtain ⟨earlier, split⟩ := List.getLast?_eq_some_iff.mp given
  refine ⟨leased, leaseId, agentId, earlier, split, ?_⟩
  have distinct := rules.distinct
  rw [split, List.map_append, List.nodup_append] at distinct
  intro known
  exact distinct.2.2 _ known _ (List.mem_singleton_self _) rfl

omit [DecidableEq ι] in
theorem Leasing.queued_leasable (leasing : Leasing calls t) {job : EvidenceJob}
    (member : job ∈ t.jobs) (queued : job.status = .queued) {request : LeaseRequest}
    (asks : request.asksFor job) (moment : LeaseMoment) :
    (leaseCandidate request moment t.locked t.jobs).isSome := by
  have room := (leasing.rules job member).queued queued
  have leasable : job.leasable request moment.now = true :=
    EvidenceJob.leasable_iff.mpr ⟨asks.1, asks.2.1, asks.2.2,
      by simp [EvidenceJob.available, queued], room⟩
  have unlocked : t.locked job.jobId = false := by
    rw [JobWorld.locked, leasing.unlocked member queued]
    rfl
  have listed : job ∈ (moment.arrange (t.jobs.filter fun job =>
      job.leasable request moment.now && !t.locked job.jobId)).insertionSort
        (·.createdAt ≤ ·.createdAt) :=
    (List.perm_insertionSort _ _).mem_iff.mpr <| (moment.arrange_perm _).mem_iff.mpr <|
      List.mem_filter.mpr ⟨member, by simp [leasable, unlocked]⟩
  rw [Option.isSome_iff_ne_none]
  intro absent
  rw [List.head?_eq_none_iff.mp absent] at listed
  cases listed

/-- However leases, reports, losses and the janitor interleave. -/
theorem jobs_collected_once
    (before : Run (Step (nextJobs normalize calls) Orderly) .initial labels s)
    (since : Run (Step (nextJobs normalize calls) Orderly) s more t) :
    CollectedOnce normalize calls s t := by
  have leasingBefore : Leasing calls s := before.holds Leasing.step Leasing.initial
  have leasing : Leasing calls t := since.holds Leasing.step leasingBefore
  constructor
  · intro job member settled
    have stays : Stable (Step (nextJobs normalize calls) Orderly) fun world => Leasing calls world ∧
        job ∈ world.jobs :=
      fun _ _ _ step holds =>
        have moves := nextJobs_moves holds.1 step.1 step.2
        ⟨moves.leasing, moves.settled job holds.2 settled⟩
    have stayed := since.holds stays ⟨leasingBefore, member⟩
    exact stayed.2
  · exact leasing.distinct
  · intro job member
    have rules := leasing.rules job member
    rw [← rules.attempts]
    exact rules.bound
  · intro jobId
    by_cases known : jobId ∈ jobIds t.jobs
    · obtain ⟨job, member, rfl⟩ := List.mem_map.mp known
      rw [(leasing.rules job member).stores]
      split <;> decide
    · rw [(leasing.unknown jobId known).2]
      exact Nat.zero_le _
  · intro job member
    exact (leasing.rules job member).result
  · intro label u step earlier isEarlier after isAfter same unset isSet
    have moves := nextJobs_moves leasing step.1 step.2
    obtain ⟨index, isReporter, active⟩ :=
      moves.stored earlier isEarlier after isAfter same unset isSet
    exact ⟨index, isReporter, leasing.holdsLease isEarlier active⟩
  · intro job member queued
    exact ⟨(leasing.rules job member).queued queued, fun request moment asks =>
      leasing.queued_leasable member queued asks moment⟩

def sampleQueue : QueueRequest := ⟨"w", "c", "s", "t", ["metrics"], "fail", 2, 1, []⟩

def sampleLease : LeaseRequest := ⟨"w", "c", "metrics", "agent", 60⟩

def sampleMoment : LeaseMoment := ⟨10, 10, "lease", id, fun _ => .refl _⟩

def sampleReport (_ : Unit) : Completion :=
  ⟨"w", "c", "w:c:s:t:metrics", "lease", "agent", "completed", [], ""⟩

/-- A job is queued, leased and reported. -/
theorem jobs_collected_once_sample : ∃ s t : JobWorld Unit,
    s.jobs.map (·.status) = [.leased] ∧ t.jobs.map (·.status) = [.completed] ∧
    t.stores "w:c:s:t:metrics" = [("lease", "agent")] ∧
    CollectedOnce (fun _ result => result) sampleReport s t := by
  have opening : Run (Step (nextJobs (fun _ result => result) sampleReport) Orderly) .initial
      [.queue sampleQueue 0, .lease sampleLease sampleMoment] _ :=
    .cons ⟨show (1 : Int) ≤ 2 by decide, rfl⟩ (.cons ⟨fun _ => List.not_mem_nil, rfl⟩ (.nil _))
  refine ⟨_, _, ?_, ?_, ?_,
    jobs_collected_once opening (show Run _ _ [.complete () 20, .complete () 20] _ from
    .cons ⟨trivial, rfl⟩ (.cons ⟨trivial, rfl⟩ (.nil _)))⟩ <;> decide

end runs

end K8sOps.Target
