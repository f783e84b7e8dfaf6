import Mathlib.Algebra.Order.Field.Basic
import K8sOps.Gitops.FieldPath
import K8sOps.Rca.Cause.Engine

/-! An analysis completes exactly when a candidate is fully evidenced, and then it names
such a candidate. An evaluation that raises completes nothing. -/
namespace K8sOps.Rca
open Python Gitops

section groups

/-- `isinstance` of a type that can be iterated. -/
def iterable : Value → Bool
  | .list _ | .dict _ | .scalar (.str _) => true
  | .scalar (.other type _) => type = "bytes"
  | .scalar _ => false

/-- A group whose declaration of matchers can be gone through. -/
def describable (group : Entries) : Bool :=
  !truthy (getOrNone "any_of" group) || iterable (getOrNone "any_of" group)

theorem iterated_ok {value : Value} :
    (∃ items, iterated value = .ok items) ↔ iterable value = true := by
  cases value with
  | list | dict => simp [iterated, iterable]
  | scalar value =>
    cases value with
    | other type content =>
      by_cases bytes : type = "bytes"
      · simp [iterated, iterable, bytes]
      · simp [iterated, iterable, bytes]
    | _ => simp [iterated, iterable]

theorem describeSignalGroup_ok {group : Entries} :
    (∃ text, describeSignalGroup group = .ok text) ↔ describable group = true := by
  have mapped : (∃ text, describeSignalGroup group = .ok text) ↔
      ∃ matchers, declaredMatchers group = .ok matchers := by
    rw [describeSignalGroup]
    cases declaredMatchers group <;> simp [Except.map]
  rw [mapped, declaredMatchers, describable]
  by_cases declared : truthy (getOrNone "any_of" group) = true
  · rw [if_pos declared, iterated_ok, declared, Bool.not_true, Bool.false_or]
  · rw [if_neg declared, Bool.not_eq_true _ |>.mp declared]
    simp

end groups

section evaluation
variable {codec : Codec} {texts : TextCodec} {bundle : EvidenceBundle} {signals : BundleSignals}
  {candidate : CauseCandidate} {evaluation : CauseEvaluation}

theorem missingSignalChecks_ok {unmatched : List Entries} :
    (∃ checks, missingSignalChecks texts unmatched = .ok checks) ↔
    ∀ group ∈ unmatched, describable group = true := by
  rw [missingSignalChecks, mapM_isOk]
  refine forall₂_congr fun group _ => ?_
  rw [← describeSignalGroup_ok]
  constructor
  · rintro ⟨check, done⟩
    obtain ⟨text, described, _⟩ := bind_eq_ok.mp done
    exact ⟨text, described⟩
  · rintro ⟨text, described⟩
    exact ⟨_, bind_eq_ok.mpr ⟨text, described, rfl⟩⟩

/-- Everything that the candidate expects is there, and something is. -/
structure FullyEvidenced (codec : Codec) (bundle : EvidenceBundle) (signals : BundleSignals)
    (candidate : CauseCandidate) : Prop where
  expects : candidate.expectedEvidence ≠ []
  evidence : ∀ key ∈ candidate.expectedEvidence, key ∈ evidenceKeys bundle
  signals : ∀ group ∈ candidate.signals, matchSignalGroup codec group signals = true

/-- The numbers of an evaluation: what supports the candidate and what is missing make up
what it asks for. -/
structure Evaluates (codec : Codec) (bundle : EvidenceBundle) (signals : BundleSignals)
    (candidate : CauseCandidate) (evaluation : CauseEvaluation) : Prop where
  named : evaluation.candidateId = candidate.candidateId
  supporting : evaluation.supportingEvidence ≠ [] ↔
    ∃ key ∈ candidate.expectedEvidence, key ∈ evidenceKeys bundle
  missing : evaluation.missingEvidence = [] ↔
    (∀ key ∈ candidate.expectedEvidence, key ∈ evidenceKeys bundle) ∧
    ∀ group ∈ candidate.signals, matchSignalGroup codec group signals = true
  eligible : evaluation.discriminatorEligible = true ↔
    ∀ group ∈ candidate.signals, matchSignalGroup codec group signals = true
  score : evaluation.supportingEvidence ≠ [] → evaluation.score ≤ 1 ∧
    (evaluation.score = 1 ↔ evaluation.missingEvidence = [])

theorem splitSignalGroups_eq (groups : List Entries) : splitSignalGroups codec groups signals =
    (groups.filter (matchSignalGroup codec · signals),
      groups.filter fun group => !matchSignalGroup codec group signals) := by
  rw [splitSignalGroups, List.partition_eq_filter_filter]
  rfl

/-- A share of everything that is asked for is at most one, and one only when nothing is
missing. -/
theorem share_le_one {whole : Nat} (found missing : Nat) (parts : whole = found + missing)
    (some_ : 0 < found) :
    (if whole ≠ 0 then (found : Rat) / (whole : Rat) else 0) ≤ 1 ∧
      ((if whole ≠ 0 then (found : Rat) / (whole : Rat) else 0) = 1 ↔ missing = 0) := by
  have positive : (0 : Rat) < (whole : Rat) := by exact_mod_cast (show 0 < whole by omega)
  rw [if_pos (by omega)]
  constructor
  · rw [div_le_one positive]
    exact_mod_cast (show found ≤ whole by omega)
  · rw [div_eq_one_iff_eq (ne_of_gt positive)]
    norm_cast
    omega

theorem insertionSort_eq_nil {items : List String} :
    items.insertionSort (· ≤ ·) = [] ↔ items = [] := by
  rw [← List.length_eq_zero_iff, List.length_insertionSort, List.length_eq_zero_iff]

theorem evaluateCandidate_ok
    (done : evaluateCandidate codec texts bundle signals candidate = .ok evaluation) :
    Evaluates codec bundle signals candidate evaluation := by
  obtain ⟨checks, _, done⟩ := bind_eq_ok.mp done
  rw [splitSignalGroups_eq] at done
  cases done
  have missing :
      (candidate.expectedEvidence.dedup.filter (· ∉ evidenceKeys bundle)).insertionSort (· ≤ ·) ++
      (candidate.signals.filter fun group => !matchSignalGroup codec group signals).map
        (signalMissingToken texts) = [] ↔
      (∀ key ∈ candidate.expectedEvidence, key ∈ evidenceKeys bundle) ∧
        ∀ group ∈ candidate.signals, matchSignalGroup codec group signals = true := by
    rw [List.append_eq_nil_iff, insertionSort_eq_nil, List.map_eq_nil_iff, List.filter_eq_nil_iff,
      List.filter_eq_nil_iff]
    simp
  have supporting :
      (candidate.expectedEvidence.dedup.filter (· ∈ evidenceKeys bundle)).insertionSort (· ≤ ·) ≠
        [] ↔
      ∃ key ∈ candidate.expectedEvidence, key ∈ evidenceKeys bundle := by
    rw [ne_eq, insertionSort_eq_nil, List.filter_eq_nil_iff]
    simp
  have groups :=
    List.length_eq_length_filter_add (l := candidate.signals) (matchSignalGroup codec · signals)
  refine ⟨rfl, supporting, missing, ?_, fun some_ => ?_⟩
  · have allMatched : (candidate.signals.filter fun group =>
        !matchSignalGroup codec group signals).length = 0 ↔
        ∀ group ∈ candidate.signals, matchSignalGroup codec group signals = true := by
      rw [List.length_eq_zero_iff, List.filter_eq_nil_iff]
      simp
    rw [← allMatched, CauseEvaluation.discriminatorEligible, Bool.or_eq_true, decide_eq_true_eq,
      decide_eq_true_eq]
    dsimp only
    omega
  · have keys := List.length_eq_length_filter_add (l := candidate.expectedEvidence.dedup)
      (· ∈ evidenceKeys bundle)
    have positive := List.length_pos_iff.mpr some_
    rw [← List.length_eq_zero_iff]
    refine share_le_one _ _ ?_ (Nat.add_pos_left positive _)
    simp only [List.length_append, List.length_map, List.length_insertionSort, decide_not]
    omega

theorem evaluateCandidate_isOk :
    (∃ evaluation, evaluateCandidate codec texts bundle signals candidate = .ok evaluation) ↔
      ∀ group ∈ candidate.signals, matchSignalGroup codec group signals = true ∨
        describable group = true := by
  have checked :
      (∃ evaluation, evaluateCandidate codec texts bundle signals candidate = .ok evaluation) ↔
      ∃ checks, missingSignalChecks texts (splitSignalGroups codec candidate.signals signals).2 =
        .ok checks := by
    constructor
    · rintro ⟨evaluation, done⟩
      obtain ⟨checks, found, _⟩ := bind_eq_ok.mp done
      exact ⟨checks, found⟩
    · rintro ⟨checks, found⟩
      exact ⟨_, bind_eq_ok.mpr ⟨checks, found, rfl⟩⟩
  rw [checked, missingSignalChecks_ok, splitSignalGroups_eq]
  refine ⟨fun each group member => ?_, fun each group member => ?_⟩
  · by_cases matched : matchSignalGroup codec group signals = true
    · exact .inl matched
    · exact .inr (each group (List.mem_filter.mpr ⟨member, by simpa using matched⟩))
  · obtain ⟨among, unmatched⟩ := List.mem_filter.mp member
    rcases each group among with matched | described
    · simp [matched] at unmatched
    · exact described

theorem Evaluates.fullyEvidenced (evaluates : Evaluates codec bundle signals candidate evaluation)
    (supported : evaluation.supportingEvidence ≠ []) (complete : evaluation.missingEvidence = []) :
    FullyEvidenced codec bundle signals candidate := by
  obtain ⟨key, expected, _⟩ := evaluates.supporting.mp supported
  obtain ⟨evidence, matched⟩ := evaluates.missing.mp complete
  exact ⟨List.ne_nil_of_mem expected, evidence, matched⟩

theorem Evaluates.of_fullyEvidenced
    (evaluates : Evaluates codec bundle signals candidate evaluation)
    (full : FullyEvidenced codec bundle signals candidate) :
    evaluation.discriminatorEligible = true ∧ evaluation.supportingEvidence ≠ [] ∧
    evaluation.score = 1 := by
  obtain ⟨key, expected⟩ := List.exists_mem_of_ne_nil _ full.expects
  have supported := evaluates.supporting.mpr ⟨key, expected, full.evidence key expected⟩
  have complete := evaluates.missing.mpr ⟨full.evidence, full.signals⟩
  exact ⟨evaluates.eligible.mpr full.signals, supported, (evaluates.score supported).2.mpr complete⟩

end evaluation

section selection
variable {evaluations : List CauseEvaluation} {selected : CauseEvaluation}

theorem mem_supportedEvaluations {evaluation : CauseEvaluation} :
    evaluation ∈ supportedEvaluations evaluations ↔
    evaluation ∈ evaluations ∧ evaluation.discriminatorEligible = true ∧
    evaluation.supportingEvidence ≠ [] := by
  rw [supportedEvaluations, List.mem_filter, List.mem_filter, decide_eq_true_eq, and_assoc]

theorem score_le_selected {evaluation : CauseEvaluation}
    (chosen : List.argmin CauseEvaluation.order (supportedEvaluations evaluations) = some selected)
    (supported : evaluation ∈ supportedEvaluations evaluations) :
    evaluation.score ≤ selected.score := by
  have least := List.le_of_mem_argmin supported (Option.mem_def.mpr chosen)
  have first : -selected.score ≤ -evaluation.score := Prod.Lex.monotone_fst _ _ least
  exact neg_le_neg_iff.mp first

def reservedIds : List String := ["unknown", "none", "insufficient_evidence"]

/-- Without reserved ids the minimum is the root cause. -/
theorem analyzeRootCause_selected
    (free : ∀ evaluation ∈ evaluations, evaluation.candidateId ∉ reservedIds)
    (chosen : List.argmin CauseEvaluation.order (supportedEvaluations evaluations) =
      some selected) :
    analyzeRootCause evaluations = selectedRootCause selected := by
  cases evaluations with
  | nil => cases chosen
  | cons first rest =>
    have known : first.candidateId ≠ unknownEvaluationId :=
      fun same => free first List.mem_cons_self (by
      rw [same]
      decide)
    rw [analyzeRootCause, if_neg known, chosen]

theorem blockReasonCode_none
    (free : ∀ evaluation ∈ evaluations, evaluation.candidateId ∉ reservedIds) :
    blockReasonCode none (analyzeRootCause evaluations) = none ↔
      ∃ selected, List.argmin CauseEvaluation.order (supportedEvaluations evaluations) =
        some selected ∧ selected.missingEvidence = [] := by
  cases chosen : List.argmin CauseEvaluation.order (supportedEvaluations evaluations) with
  | none =>
    refine iff_of_false (fun unblocked => ?_) fun ⟨_, none_, _⟩ => nomatch none_
    cases evaluations with
    | nil => simp [analyzeRootCause, noEvaluationRootCause, blockReasonCode] at unblocked
    | cons first rest =>
      rw [analyzeRootCause, chosen] at unblocked
      split at unblocked
      · simp [unknownRootCause, unknownEvaluationId, blockReasonCode] at unblocked
      · simp [insufficientEvidenceRootCause, blockReasonCode] at unblocked
  | some selected =>
    have member := (mem_supportedEvaluations.mp (List.argmin_mem (Option.mem_def.mpr chosen))).1
    have unreserved := free selected member
    simp only [reservedIds, List.mem_cons, List.not_mem_nil, or_false, not_or] at unreserved
    rw [analyzeRootCause_selected free chosen]
    by_cases complete : selected.missingEvidence = []
    · simp [blockReasonCode, selectedRootCause, unreserved, complete]
    · simp [blockReasonCode, selectedRootCause, unreserved, complete]

end selection

section completion
variable {codec : Codec} {texts : TextCodec} {Evidence Incident : Type}
  {planned : RcaCandidatesPlannedBody Evidence Incident} {bundle : EvidenceBundle}
variable {candidates : List CauseCandidate} {evaluations : List CauseEvaluation}
  {signals : BundleSignals}

/-- Every signal group of the plan is matched, or can at least be described. -/
def Describable (codec : Codec) (signals : BundleSignals)
    (candidates : List CauseCandidate) : Prop :=
  ∀ candidate ∈ candidates, ∀ group ∈ candidate.signals,
    matchSignalGroup codec group signals = true ∨ describable group = true

theorem analyzePlan_completed {body : RcaCompletedBody Evidence Incident}
    (present : planned.evidenceBundle = some bundle) (hasEvidence : planned.evidence.isSome = true)
    (hasIncident : planned.incident.isSome = true) :
    analyzePlan codec texts planned = .ok (.completed body) ↔
      ∃ evaluations, evaluateCauses codec texts planned.candidates bundle planned.ruleMissing =
        .ok evaluations ∧
        blockReasonCode planned.ruleMissing (analyzeRootCause evaluations) = none ∧
        body = ⟨(analyzeRootCause evaluations).rootCause, recommendedAction,
          { planned with evaluations }, analyzeRootCause evaluations⟩ := by
  have context : ¬(planned.evidence.isNone = true ∨ planned.incident.isNone = true ∨
      planned.evidenceBundle.isNone = true) := by
    rw [present, Option.isNone_eq_false_iff.mpr hasEvidence,
      Option.isNone_eq_false_iff.mpr hasIncident]
    simp
  rw [analyzePlan, present]
  refine Iff.trans bind_eq_ok (exists_congr fun evaluations => and_congr_right fun _ => ?_)
  rw [completeBody, if_neg context]
  dsimp only
  cases blockReasonCode planned.ruleMissing (analyzeRootCause evaluations) with
  | some => simp
  | none => simp [eq_comm]

theorem evaluateCauses_none :
    evaluateCauses codec texts candidates bundle none = .ok evaluations ↔
      ∃ signals, extractBundleSignals codec texts bundle = .ok signals ∧ List.Forall₂
        (fun candidate evaluation => evaluateCandidate codec texts bundle signals candidate =
          .ok evaluation)
        candidates evaluations := by
  rw [evaluateCauses]
  exact bind_eq_ok.trans (exists_congr fun signals => and_congr_right fun _ => mapM_ok_iff)

theorem selected_fullyEvidenced {selected : CauseEvaluation} (evaluated : List.Forall₂
      (fun candidate evaluation => evaluateCandidate codec texts bundle signals candidate =
      .ok evaluation)
      candidates evaluations)
    (chosen : List.argmin CauseEvaluation.order (supportedEvaluations evaluations) = some selected)
    (complete : selected.missingEvidence = []) :
    (∃ candidate ∈ candidates, FullyEvidenced codec bundle signals candidate ∧
      selected.candidateId = candidate.candidateId) ∧ selected.score = 1 := by
  obtain ⟨member, _, supported⟩ :=
    mem_supportedEvaluations.mp (List.argmin_mem (Option.mem_def.mpr chosen))
  obtain ⟨candidate, among, done⟩ := forall₂_mem_left evaluated.flip member
  have evaluates := evaluateCandidate_ok done
  exact ⟨⟨candidate, among, evaluates.fullyEvidenced supported complete, evaluates.named⟩,
    (evaluates.score supported).2.mpr complete⟩

theorem exists_selected {candidate : CauseCandidate} (evaluated : List.Forall₂
      (fun candidate evaluation => evaluateCandidate codec texts bundle signals candidate =
      .ok evaluation)
      candidates evaluations)
    (among : candidate ∈ candidates) (full : FullyEvidenced codec bundle signals candidate) :
    ∃ selected, List.argmin CauseEvaluation.order (supportedEvaluations evaluations) =
      some selected ∧ selected.missingEvidence = [] := by
  obtain ⟨evaluation, member, done⟩ := forall₂_mem_left evaluated among
  obtain ⟨eligible, supported, scored⟩ := (evaluateCandidate_ok done).of_fullyEvidenced full
  have listed := mem_supportedEvaluations.mpr ⟨member, eligible, supported⟩
  cases chosen : List.argmin CauseEvaluation.order (supportedEvaluations evaluations) with
  | none =>
    rw [List.argmin_eq_none] at chosen
    rw [chosen] at listed
    cases listed
  | some selected =>
    obtain ⟨memberSelected, _, supportedSelected⟩ :=
      mem_supportedEvaluations.mp (List.argmin_mem (Option.mem_def.mpr chosen))
    obtain ⟨_, _, doneSelected⟩ := forall₂_mem_left evaluated.flip memberSelected
    obtain ⟨bounded, complete⟩ := (evaluateCandidate_ok doneSelected).score supportedSelected
    have highest := score_le_selected chosen listed
    rw [scored] at highest
    exact ⟨selected, rfl, complete.mp (le_antisymm bounded highest)⟩

theorem unreserved (evaluated : List.Forall₂
      (fun candidate evaluation => evaluateCandidate codec texts bundle signals candidate =
      .ok evaluation)
      candidates evaluations)
    (free : ∀ candidate ∈ candidates, candidate.candidateId ∉ reservedIds) :
    ∀ evaluation ∈ evaluations, evaluation.candidateId ∉ reservedIds := by
  intro evaluation member
  obtain ⟨candidate, among, done⟩ := forall₂_mem_left evaluated.flip member
  rw [(evaluateCandidate_ok done).named]
  exact free candidate among

theorem completed_names {body : RcaCompletedBody Evidence Incident}
    (present : planned.evidenceBundle = some bundle) (hasEvidence : planned.evidence.isSome = true)
    (hasIncident : planned.incident.isSome = true)
    (free : ∀ candidate ∈ planned.candidates, candidate.candidateId ∉ reservedIds)
    (completed : analyzePlan codec texts planned = .ok (.completed body)) :
    planned.ruleMissing = none ∧ ∃ signals, extractBundleSignals codec texts bundle = .ok signals ∧
      Describable codec signals planned.candidates ∧
      (∃ candidate ∈ planned.candidates, FullyEvidenced codec bundle signals candidate ∧
        body.rootCause = candidate.candidateId) ∧
      body.rcaDetail.confidence = 1 ∧ body.rcaDetail.missingEvidence = [] := by
  obtain ⟨evaluations, evaluated, unblocked, rfl⟩ :=
    (analyzePlan_completed present hasEvidence hasIncident).mp completed
  cases missing : planned.ruleMissing with
  | some rule => simp [missing, blockReasonCode] at unblocked
  | none =>
    rw [missing] at evaluated unblocked
    obtain ⟨signals, extracted, evaluated⟩ := evaluateCauses_none.mp evaluated
    have named := unreserved evaluated free
    obtain ⟨selected, chosen, complete⟩ := (blockReasonCode_none named).mp unblocked
    obtain ⟨full, scored⟩ := selected_fullyEvidenced evaluated chosen complete
    refine ⟨rfl, signals, extracted, fun candidate among => ?_, ?_⟩
    · obtain ⟨evaluation, _, done⟩ := forall₂_mem_left evaluated among
      exact evaluateCandidate_isOk.mp ⟨evaluation, done⟩
    · rw [analyzeRootCause_selected named chosen]
      exact ⟨full, scored, complete⟩

theorem fullyEvidenced_completes {candidate : CauseCandidate}
    (present : planned.evidenceBundle = some bundle)
    (hasEvidence : planned.evidence.isSome = true) (hasIncident : planned.incident.isSome = true)
    (free : ∀ candidate ∈ planned.candidates, candidate.candidateId ∉ reservedIds)
    (missing : planned.ruleMissing = none)
    (extracted : extractBundleSignals codec texts bundle = .ok signals)
    (described : Describable codec signals planned.candidates)
    (among : candidate ∈ planned.candidates)
    (full : FullyEvidenced codec bundle signals candidate) :
    ∃ body, analyzePlan codec texts planned = .ok (.completed body) := by
  have each : ∀ candidate ∈ planned.candidates, ∃ evaluation,
      evaluateCandidate codec texts bundle signals candidate = .ok evaluation :=
    fun candidate among => evaluateCandidate_isOk.mpr (described candidate among)
  obtain ⟨evaluations, mapped⟩ := mapM_isOk.mpr each
  have evaluated := mapM_ok_iff.mp mapped
  have unblocked :=
    (blockReasonCode_none (unreserved evaluated free)).mpr (exists_selected evaluated among full)
  refine ⟨_, (analyzePlan_completed present hasEvidence hasIncident).mpr ⟨evaluations, ?_, ?_, rfl⟩⟩
  · rw [missing]
    exact evaluateCauses_none.mpr ⟨signals, extracted, evaluated⟩
  · rw [missing]
    exact unblocked

section sample

def plainCodec : Codec :=
  ⟨id, id, fun _ => none, fun _ => none, id, fun _ => none, fun _ => "", fun _ => none⟩

def plainTexts : TextCodec := .plain

/-- One log line, and a candidate that asks for it. -/
def logBundle : EvidenceBundle :=
  ⟨[⟨"logs", "tail",
    [(.str "entries", .list [.dict [(.str "line", .scalar (.str "panic: boom"))]])], "", "",
    "", none⟩]⟩

def panicCandidate : CauseCandidate where
  candidateId := "panic"
  expectedEvidence := ["logs"]
  checks := []
  signals := [[(.str "id", .scalar (.str "panic")),
    (.str "any_of", .list [.dict [(.str "log_pattern", .scalar (.str "panic"))]])]]

def logPlan (candidates : List CauseCandidate) : RcaCandidatesPlannedBody Unit Unit where
  candidateCount := candidates.length
  evidenceRef := "evidence"
  candidates := candidates
  workspaceId := "workspace"
  evidence := some ()
  incident := some ()
  evidenceBundle := some logBundle
  ruleMissing := none

def logSignals : BundleSignals := ⟨[], ["panic: boom"], []⟩

theorem extract_logBundle :
    extractBundleSignals plainCodec plainTexts logBundle = .ok logSignals := by rfl

theorem panicCandidate_full : FullyEvidenced plainCodec logBundle logSignals panicCandidate :=
  ⟨by decide, by decide, by decide +kernel⟩

end sample

end completion

end K8sOps.Rca
