import Mathlib.Algebra.Order.Field.Rat
import Mathlib.Data.List.MinMax
import Mathlib.Data.Prod.Lex
import K8sOps.Rca.Cause.Signals

/-! The evaluation of cause candidates against a bundle, the choice of the root cause, and
the events that the analysis ends in. -/
namespace K8sOps.Rca
open Python

structure CauseCandidate where
  candidateId : String
  expectedEvidence : List String
  checks : List String
  signals : List Entries

structure MissingEvidenceCheck where
  checkId : String
  source : String
  status : String
  reason : String
  deriving DecidableEq

structure CauseEvaluation where
  candidateId : String
  score : Rat
  checks : List String
  supportingEvidence : List String
  missingEvidence : List String
  reason : String
  supportingEvidenceRefs : List EvidenceReference := []
  missingEvidenceChecks : List MissingEvidenceCheck := []
  matchedSignalCount : Nat := 0
  requiredSignalCount : Nat := 0

structure RcaRuleMissing where
  incidentId : String
  symptom : String
  evidenceRef : String
  missingEvidence : List String
  message : String
  workspaceId : String

structure RcaReportDetail where
  rootCause : String
  confidence : Rat
  selectedCandidateId : String
  supportingEvidence : List String
  missingEvidence : List String
  reason : String
  missingEvidenceChecks : List MissingEvidenceCheck
  supportingEvidenceRefs : List EvidenceReference

def matchingCauseRuleEvidence : String := "matching_cause_rule"

def noMatchingRuleMessage : String := "정의된 RCA rule 없음"

def unknownEvaluationId : String := "unknown"

section evaluate
variable (codec : Codec) (texts : Gitops.TextCodec)

def evidenceKey (source name : String) : String := source ++ ":" ++ name

def evidenceKeys (bundle : EvidenceBundle) : List String :=
  bundle.items.flatMap fun item => [item.source, evidenceKey item.source item.name]

def evidenceRefsForKeys (bundle : EvidenceBundle) (keys : List String) : List EvidenceReference :=
  (bundle.items.filter fun item => item.source ∈ keys ∨
    evidenceKey item.source item.name ∈ keys).map (·.reference)

def missingEvidenceReason (source : String) (candidateChecks : List String) : String :=
  if candidateChecks = [] then
    source ++ " evidence query/check must complete before RCA can be finalized."
  else source ++ " evidence is required to evaluate checks: " ++
    String.intercalate ", " candidateChecks

def missingEvidenceChecks (missingEvidence candidateChecks : List String) :
    List MissingEvidenceCheck :=
  missingEvidence.map fun source =>
    ⟨"evidence:" ++ source ++ ":required", source, "missing",
      missingEvidenceReason source candidateChecks⟩

def missingSignalChecks (unmatched : List Entries) :
    Except EvaluationError (List MissingEvidenceCheck) :=
  unmatched.mapM fun group => do
    let described ← describeSignalGroup group
    .ok ⟨signalMissingToken texts group, "signals", "missing",
      "판별 신호 미충족 — 다음 중 하나가 관측되어야 합니다: " ++ described⟩

def buildEvaluationReason (expectedCount supportingCount signalCount matchedSignalCount : Nat) :
    String :=
  let reason := "필요한 근거 " ++ toString expectedCount ++ "개 중 " ++ toString supportingCount ++
    "개가 수집되었습니다."
  if signalCount ≠ 0 then
    reason ++ " 판별 신호 " ++ toString signalCount ++ "개 중 " ++ toString matchedSignalCount ++
      "개가 확인되었습니다."
  else reason

/-- The expected keys are a set, and so are the keys of the bundle. -/
def evaluateCandidate (bundle : EvidenceBundle) (bundleSignals : BundleSignals)
    (candidate : CauseCandidate) :
    Except EvaluationError CauseEvaluation := do
  let expected := candidate.expectedEvidence.dedup
  let supporting := (expected.filter (· ∈ evidenceKeys bundle)).insertionSort (· ≤ ·)
  let missingSources := (expected.filter (· ∉ evidenceKeys bundle)).insertionSort (· ≤ ·)
  let matched := (splitSignalGroups codec candidate.signals bundleSignals).1
  let unmatched := (splitSignalGroups codec candidate.signals bundleSignals).2
  let denominator := expected.length + candidate.signals.length
  let signalChecks ← missingSignalChecks texts unmatched
  .ok {
    candidateId := candidate.candidateId
    score := if denominator ≠ 0 then
      ((supporting.length + matched.length : Nat) : Rat) / (denominator : Rat) else 0
    checks := candidate.checks
    supportingEvidence := supporting
    missingEvidence := missingSources ++ unmatched.map (signalMissingToken texts)
    reason :=
      buildEvaluationReason expected.length supporting.length
        candidate.signals.length matched.length
    supportingEvidenceRefs := evidenceRefsForKeys bundle supporting
    missingEvidenceChecks := missingEvidenceChecks missingSources candidate.checks ++ signalChecks
    matchedSignalCount := matched.length
    requiredSignalCount := candidate.signals.length }

def evaluateCauses (candidates : List CauseCandidate) (bundle : EvidenceBundle)
    (ruleMissing : Option RcaRuleMissing) : Except EvaluationError (List CauseEvaluation) :=
  match ruleMissing with
  | some rule => .ok [{
      candidateId := unknownEvaluationId
      score := 0
      checks := [matchingCauseRuleEvidence]
      supportingEvidence := []
      missingEvidence := rule.missingEvidence
      reason := noMatchingRuleMessage }]
  | none => do
    let bundleSignals ← extractBundleSignals codec texts bundle
    candidates.mapM (evaluateCandidate codec texts bundle bundleSignals)

end evaluate

section analyze

def uniqueOrdered (values : List String) : List String :=
  values.foldl (fun result value => if value ∈ result then result else result ++ [value]) []

def buildRootCauseReason (selected : CauseEvaluation) : String :=
  if selected.candidateId = unknownEvaluationId then noMatchingRuleMessage
  else selected.candidateId ++ " 후보가 가장 높은 점수로 평가되었고, 누락 근거 " ++
    toString selected.missingEvidence.length ++ "개, 충족 근거 " ++
      toString selected.supportingEvidence.length ++
    "개를 기준으로 최종 원인으로 선택했습니다."

def unknownRootCause (evaluation : CauseEvaluation) : RcaReportDetail :=
  let missing := uniqueOrdered (matchingCauseRuleEvidence :: evaluation.missingEvidence)
  { rootCause := unknownEvaluationId
    confidence := 0
    selectedCandidateId := unknownEvaluationId
    supportingEvidence := []
    missingEvidence := missing
    reason := noMatchingRuleMessage
    missingEvidenceChecks := missingEvidenceChecks missing []
    supportingEvidenceRefs := evaluation.supportingEvidenceRefs }

def insufficientEvidenceRootCause (evaluations : List CauseEvaluation) : RcaReportDetail :=
  let missing := uniqueOrdered (evaluations.flatMap (·.missingEvidence))
  { rootCause := "insufficient_evidence"
    confidence := 0
    selectedCandidateId := "none"
    supportingEvidence := []
    missingEvidence := missing
    reason := "후보는 생성됐지만 매칭된 근거가 없어 최종 원인을 확정하지 않았습니다."
    missingEvidenceChecks := missingEvidenceChecks missing []
    supportingEvidenceRefs := [] }

def noEvaluationRootCause : RcaReportDetail where
  rootCause := "분석 가능한 원인 후보 없음"
  confidence := 0
  selectedCandidateId := "none"
  supportingEvidence := []
  missingEvidence := []
  reason := "평가된 원인 후보가 없어 최종 원인을 선택할 수 없습니다."
  missingEvidenceChecks := []
  supportingEvidenceRefs := []

def CauseEvaluation.discriminatorEligible (evaluation : CauseEvaluation) : Bool :=
  evaluation.requiredSignalCount = 0 ||
    evaluation.matchedSignalCount = evaluation.requiredSignalCount

def supportedEvaluations (evaluations : List CauseEvaluation) : List CauseEvaluation :=
  (evaluations.filter (·.discriminatorEligible)).filter (·.supportingEvidence ≠ [])

/-- The keys of the minimum are compared component by component. -/
def Rank : Type := Lex (Rat × Lex (Int × Nat))

instance Rank.linearOrder : LinearOrder Rank :=
  @Prod.Lex.instLinearOrder Rat (Lex (Int × Nat)) Rat.linearOrder
    (@Prod.Lex.instLinearOrder Int Nat Int.instLinearOrder Nat.instLinearOrder)

/-- The key of the minimum: higher scores, then more signals, then less that is missing. -/
def CauseEvaluation.order (evaluation : CauseEvaluation) : Rank :=
  toLex (-evaluation.score, toLex (-(evaluation.matchedSignalCount : Int),
    evaluation.missingEvidence.length))

def selectedRootCause (selected : CauseEvaluation) : RcaReportDetail where
  rootCause := selected.candidateId
  confidence := selected.score
  selectedCandidateId := selected.candidateId
  supportingEvidence := selected.supportingEvidence
  missingEvidence := selected.missingEvidence
  reason := buildRootCauseReason selected
  missingEvidenceChecks := selected.missingEvidenceChecks
  supportingEvidenceRefs := selected.supportingEvidenceRefs

/-- There is no minimum exactly when nothing is supported; of equal ones the first is it. -/
def analyzeRootCause : List CauseEvaluation → RcaReportDetail
  | [] => noEvaluationRootCause
  | first :: rest =>
    if first.candidateId = unknownEvaluationId then unknownRootCause first
    else
      match List.argmin CauseEvaluation.order (supportedEvaluations (first :: rest)) with
      | none => insufficientEvidenceRootCause (first :: rest)
      | some selected => selectedRootCause selected

end analyze

section bodies
variable {Evidence Incident : Type}

/-- The evidence and the incident are handed on as they are. -/
structure RcaCandidatesPlannedBody (Evidence Incident : Type) where
  candidateCount : Nat
  evidenceRef : String
  candidates : List CauseCandidate
  workspaceId : String
  evidence : Option Evidence
  incident : Option Incident
  evidenceBundle : Option EvidenceBundle
  ruleMissing : Option RcaRuleMissing

structure RcaCandidatesEvaluatedBody (Evidence Incident : Type) extends
    RcaCandidatesPlannedBody Evidence Incident where
  evaluations : List CauseEvaluation

structure RcaAnalysisBlockedBody (Evidence Incident : Type) where
  reasonCode : String
  reason : String
  context : RcaCandidatesEvaluatedBody Evidence Incident
  rcaDetail : RcaReportDetail
  missingEvidence : List String
  diagnosedRootCause : String

structure RcaCompletedBody (Evidence Incident : Type) where
  rootCause : String
  action : String
  context : RcaCandidatesEvaluatedBody Evidence Incident
  rcaDetail : RcaReportDetail

inductive RcaBody (Evidence Incident : Type) where
  | contractFailed (contract reason : String)
  | actionRequired (reason evidenceRef workspaceId : String)
  | analysisBlocked (body : RcaAnalysisBlockedBody Evidence Incident)
  | completed (body : RcaCompletedBody Evidence Incident)

def missingAnalysisContext : String := "RCA analysis context is missing"

def recommendedAction : String := "plan_recovery"

def blockReasonCode (ruleMissing : Option RcaRuleMissing)
    (detail : RcaReportDetail) : Option String :=
  if ruleMissing.isSome ∨ detail.rootCause = "unknown" then some "rule_missing"
  else if detail.rootCause = "insufficient_evidence" then some "insufficient_evidence"
  else if detail.selectedCandidateId = "none" then some "no_evaluation"
  else if detail.missingEvidence ≠ [] then some "insufficient_evidence"
  else none

def completeBody (evaluated : RcaCandidatesEvaluatedBody Evidence Incident) :
    RcaBody Evidence Incident :=
  if evaluated.evidence.isNone ∨ evaluated.incident.isNone ∨ evaluated.evidenceBundle.isNone then
    .actionRequired missingAnalysisContext evaluated.evidenceRef evaluated.workspaceId
  else
    let detail := analyzeRootCause evaluated.evaluations
    match blockReasonCode evaluated.ruleMissing detail with
    | some reasonCode => .analysisBlocked {
        reasonCode
        reason := detail.reason
        context := evaluated
        rcaDetail := detail
        missingEvidence := detail.missingEvidence
        diagnosedRootCause := detail.rootCause }
    | none => .completed {
        rootCause := detail.rootCause
        action := recommendedAction
        context := evaluated
        rcaDetail := detail }

/-- The evaluation of a plan, and the analysis of what it evaluates to. -/
def analyzePlan (codec : Codec) (texts : Gitops.TextCodec)
    (planned : RcaCandidatesPlannedBody Evidence Incident) :
    Except EvaluationError (RcaBody Evidence Incident) :=
  match planned.evidenceBundle with
  | none => .ok (.contractFailed "RcaCandidatesPlannedBody.evidence_bundle" missingAnalysisContext)
  | some bundle => do
    let evaluations ← evaluateCauses codec texts planned.candidates bundle planned.ruleMissing
    .ok (completeBody { planned with evaluations })

end bodies

end K8sOps.Rca
