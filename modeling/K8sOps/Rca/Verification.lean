import K8sOps.Rca.Checks
import K8sOps.Streak

/-! The verdict on one evidence window after a recovery was deployed. The verdict
completes a verification only after an uninterrupted stretch of healthy windows,
whose start, end and length are stored with the plan between windows. -/
namespace K8sOps.Rca
open Python Streak
variable (codec : Codec)

/-- The status of the verification document. A verdict is one of the last three. -/
inductive VerificationStatus where
  | mergeBlocked
  | waitingForMerge
  | waitingForDeploy
  | verificationPending
  | pending
  | failed
  | completed
  deriving DecidableEq

inductive ReasonCode where
  | waitingForPostDeployEvidence
  | duplicateEvidenceWindow
  | staleEvidenceWindow
  | verificationRegressed
  | verificationEvidenceMissing
  | verificationWindowExpired
  | stabilizationWindowInProgress
  | recoveryVerified
  deriving DecidableEq

def ReasonCode.label : ReasonCode → String
  | .waitingForPostDeployEvidence => "waiting_for_post_deploy_evidence"
  | .duplicateEvidenceWindow => "duplicate_evidence_window"
  | .staleEvidenceWindow => "stale_evidence_window"
  | .verificationRegressed => "verification_regressed"
  | .verificationEvidenceMissing => "verification_evidence_missing"
  | .verificationWindowExpired => "verification_window_expired"
  | .stabilizationWindowInProgress => "stabilization_window_in_progress"
  | .recoveryVerified => "recovery_verified"

/-- What is reported about a window, with the state of the stretch when it was computed. -/
structure After extends Observation where
  checks : Checks
  observedAt : Int
  evidenceObservedAt : Option Int
  evidenceRef : String
  healthySince : Option Int
  stableMicroseconds : Option Int
  distinctEvidenceCount : Option Nat

/-- The verification document of a plan. Moments are kept parsed; an absent
evidence key is the empty text. -/
structure Verification where
  status : VerificationStatus
  expected : Entries
  target : Option Target
  startedAt : Option Int
  deadlineAt : Option Int
  expiredAt : Option Int
  minimumSeconds : Value
  maximumSeconds : Nat
  retryAttempt : Option Nat
  blockers : List String
  before : Entries
  protectedBaseline : Value
  protectedSessionBaseline : Value
  lastSessionSamples : Value
  healthySince : Option Int
  lastHealthyObservedAt : Option Int
  distinctEvidenceCount : Nat
  lastEvidenceKey : String
  lastReasonCode : Option ReasonCode
  lastReason : String
  after : Option After

structure VerificationDecision where
  status : VerificationStatus
  reasonCode : ReasonCode
  reason : String
  after : After
  healthySince : Option Int
  lastHealthyObservedAt : Option Int
  distinctEvidenceCount : Nat
  lastEvidenceKey : String

def defaultMinimumSeconds : Nat := 300
def defaultMaximumSeconds : Nat := 600

def boundedSeconds (value : Value) (default minimum maximum : Nat) : Nat :=
  match codec.nonnegativeInt value with
  | none => default
  | some parsed => max minimum (min parsed maximum)

def Verification.minimum (verification : Verification) : Nat :=
  boundedSeconds codec verification.minimumSeconds defaultMinimumSeconds defaultMinimumSeconds
    defaultMaximumSeconds

def Verification.cadence (verification : Verification) : Option Nat :=
  codec.nonnegativeInt (getOrNone "evidence_cadence_seconds" verification.expected)

/-- `max(2, math.ceil(minimum_seconds / cadence_seconds) + 1)`. -/
def minimumDistinct (minimum cadence : Nat) : Nat := max 2 ((minimum + cadence - 1) / cadence + 1)

def Verification.expired (verification : Verification) (now : Int) : Bool :=
  match verification.deadlineAt with
  | some deadline => deadline ≤ now
  | none => false

/-- A window that is not judged leaves the stretch as it was. -/
def unjudged (verification : Verification) (after : After) (reasonCode : ReasonCode)
    (reason : String) : VerificationDecision where
  status := .pending
  reasonCode := reasonCode
  reason := reason
  after := after
  healthySince := verification.healthySince
  lastHealthyObservedAt := verification.lastHealthyObservedAt
  distinctEvidenceCount := verification.distinctEvidenceCount
  lastEvidenceKey := verification.lastEvidenceKey

/-- A judged window that is not healthy ends the stretch. -/
def interrupted (status : VerificationStatus) (after : After) (reasonCode : ReasonCode)
    (reason evidenceKey : String) : VerificationDecision where
  status := status
  reasonCode := reasonCode
  reason := reason
  after := after
  healthySince := none
  lastHealthyObservedAt := none
  distinctEvidenceCount := 0
  lastEvidenceKey := evidenceKey

def unhealthyDecision (verification : Verification) (after : After) (evidenceKey : String)
    (now : Int) : VerificationDecision :=
  let failed := failedChecks after.checks
  let missing := missingChecks after.checks
  let reasonCode := if failed ≠ [] then .verificationRegressed else .verificationEvidenceMissing
  let reason :=
    if failed ≠ [] then "복구 검증 조건이 충족되지 않았습니다: " ++ ", ".intercalate failed
    else "복구 검증 근거가 아직 없습니다: " ++ ", ".intercalate missing
  if verification.expired now then
    interrupted .failed after .verificationWindowExpired
      ("최대 검증 시간 안에 정상화 근거를 확보하지 못했습니다. " ++ reason) evidenceKey
  else interrupted .pending after reasonCode reason evidenceKey

/-- The stretch a healthy window continues. A window that is not later than the
last one, or more than one and a half periods later, continues none. -/
def continuedStretch (verification : Verification) (cadence : Nat)
    (observedAt : Int) : Option Int × Nat :=
  match verification.lastHealthyObservedAt with
  | some previous =>
    if observedAt - previous ≤ 0 ∨ 3 * (cadence * second) < 2 * (observedAt - previous) then
      (none, 0)
    else (verification.healthySince, verification.distinctEvidenceCount)
  | none => (verification.healthySince, verification.distinctEvidenceCount)

def healthyDecision (verification : Verification) (after : After) (cadence : Nat)
    (evidenceKey : String) (observedAt now : Int) : VerificationDecision :=
  let (healthySince, continued) := continuedStretch verification cadence observedAt
  let stableFrom := healthySince.getD observedAt
  let distinctCount := continued + 1
  let stable := max 0 (observedAt - stableFrom)
  let minimum := verification.minimum codec
  let decide (status : VerificationStatus) (reasonCode : ReasonCode) (reason : String) :
      VerificationDecision :=
    { status, reasonCode, reason
      after := { after with
        healthySince := some stableFrom
        stableMicroseconds := some stable
        distinctEvidenceCount := some distinctCount }
      healthySince := some stableFrom
      lastHealthyObservedAt := some observedAt
      distinctEvidenceCount := distinctCount
      lastEvidenceKey := evidenceKey }
  if stable < minimum * second ∨ distinctCount < minimumDistinct minimum cadence then
    if verification.expired now then
      decide .failed .verificationWindowExpired
        "최대 검증 시간 안에 최소 연속 정상화 시간을 충족하지 못했습니다."
    else
      decide .pending .stabilizationWindowInProgress
        ("정상화 조건이 " ++ toString (stable / second) ++ "초 유지됐습니다. " ++
          "최소 " ++ toString minimum ++ "초 연속 관측 후 완료합니다.")
  else
    decide .completed .recoveryVerified
      ("동일 부하에서 실패율·Deployment replica·Alertmanager 해소 상태가 " ++
        toString minimum ++ "초 이상 안정적으로 유지됐습니다.")

/-- The checks on a window, with the observations they were computed from. -/
def windowAfter (planPayload : Entries) (verification : Verification) (evidence : Entries)
    (alerts : List Entries) (now : Int) : After :=
  let target := verification.target.getD (recoveryTarget planPayload)
  let observation :=
    observedAfter codec evidence target verification.expected verification.protectedBaseline
    verification.protectedSessionBaseline verification.lastSessionSamples
  { observation with
    checks :=
      verificationChecks codec observation alerts verification.before target verification.expected
      verification.protectedBaseline verification.protectedSessionBaseline verification.startedAt
    observedAt := now
    evidenceObservedAt := codec.parseDatetime (getOrNone "window_start" evidence)
    evidenceRef := getText "evidence_key" evidence
    healthySince := none
    stableMicroseconds := none
    distinctEvidenceCount := none }

def isDuplicate (verification : Verification) (evidence : Entries) : Bool :=
  let evidenceKey := getText "evidence_key" evidence
  evidenceKey ≠ "" && evidenceKey = verification.lastEvidenceKey

/-- The time of a window that started within the verification and not in the future. -/
def trustedStart (verification : Verification) (evidence : Entries) (now : Int) : Option Int :=
  match codec.parseDatetime (getOrNone "window_start" evidence), verification.startedAt with
  | some observedAt, some startedAt =>
    if observedAt < startedAt ∨ now < observedAt then none else some observedAt
  | _, _ => none

def evaluateRecoveryEvidence (planPayload : Entries) (verification : Verification)
    (evidence : Entries) (alerts : List Entries) (now : Int) : VerificationDecision :=
  let after := windowAfter codec planPayload verification evidence alerts now
  if isDuplicate verification evidence then
    unjudged verification after .duplicateEvidenceWindow
      "이미 판정한 evidence 창의 재전달은 안정화 시간에 포함하지 않습니다."
  else
    match trustedStart codec verification evidence now with
    | none =>
      unjudged verification after .staleEvidenceWindow
        "검증 시작 이후의 trusted window_start를 가진 evidence만 사용합니다."
    | some observedAt =>
      let evidenceKey :=
        if getText "evidence_key" evidence ≠ "" then getText "evidence_key" evidence
        else verification.lastEvidenceKey
      if failedChecks after.checks ≠ [] ∨ missingChecks after.checks ≠ [] then
        unhealthyDecision verification after evidenceKey now
      else
        match verification.cadence codec with
        | none | some 0 =>
          interrupted .pending after .verificationEvidenceMissing
            "설치 정책의 evidence 수집 주기를 확인할 수 없어 안정화 시간을 계산하지 않습니다." evidenceKey
        | some cadence =>
          healthyDecision codec verification after cadence evidenceKey observedAt now

/-- The verification document that is stored with a verdict. -/
def Verification.record (verification : Verification)
    (decision : VerificationDecision) : Verification :=
  { verification with
    status := decision.status
    healthySince := decision.healthySince
    lastHealthyObservedAt := decision.lastHealthyObservedAt
    distinctEvidenceCount := decision.distinctEvidenceCount
    lastEvidenceKey := decision.lastEvidenceKey
    lastReasonCode := some decision.reasonCode
    lastReason := decision.reason
    after := some decision.after
    lastSessionSamples :=
      match decision.after.protectedActiveSessions with
      | some samples => .list (samples.map SessionSample.toValue)
      | none => verification.lastSessionSamples }

end K8sOps.Rca
