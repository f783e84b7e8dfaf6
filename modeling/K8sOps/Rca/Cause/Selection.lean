import K8sOps.Rca.Cause.Completion

/-! The root cause and the order of the candidates. Of the candidates with the best
standing the first is selected, so the selection is independent of their order exactly
when there is one best candidate at most. -/
namespace K8sOps.Rca
open Python Gitops

theorem mapM_error {f : α → Except ε β} {items : List α} {failure : ε}
    (each : ∀ item raised, f item = .error raised → raised = failure)
    (failed : ¬∃ results, items.mapM f = .ok results) : items.mapM f = .error failure := by
  induction items with
  | nil => exact absurd ⟨[], rfl⟩ failed
  | cons item items ih =>
    rw [List.mapM_cons] at failed ⊢
    cases first : f item with
    | error raised =>
      rw [each item raised first]
      rfl
    | ok result =>
      rw [first] at failed
      rw [ih fun ⟨results, done⟩ => failed ⟨result :: results, by rw [done]; rfl⟩]
      rfl

section minimum
variable {α β : Type} [LinearOrder β] {key : α → β} {items : List α}

theorem argmin_cons_of_le (least : ∀ other ∈ items, key item ≤ key other) :
    List.argmin key (item :: items) = some item := by
  rw [List.argmin_cons]
  cases chosen : List.argmin key items with
  | none => rfl
  | some other =>
    exact if_neg (not_lt.mpr (least other (List.argmin_mem (Option.mem_def.mpr chosen))))

theorem argmin_perm (chosen : List.argmin key items = some item)
    (only : ∀ other ∈ items, key other ≤ key item → other = item) (permuted : others.Perm items) :
    List.argmin key others = some item := by
  have member := permuted.mem_iff.mpr (List.argmin_mem (Option.mem_def.mpr chosen))
  cases again : List.argmin key others with
  | none =>
    rw [List.argmin_eq_none.mp again] at member
    cases member
  | some other =>
    have listed := permuted.mem_iff.mp (List.argmin_mem (Option.mem_def.mpr again))
    rw [only other listed (List.le_of_mem_argmin member (Option.mem_def.mpr again))]

end minimum

section standing
variable (codec : Codec) (bundle : EvidenceBundle) (signals : BundleSignals)

/-- The expected keys that the bundle has, and those that it lacks. -/
def CauseCandidate.found (candidate : CauseCandidate) : Nat :=
  (candidate.expectedEvidence.dedup.filter (· ∈ evidenceKeys bundle)).length

def CauseCandidate.lacked (candidate : CauseCandidate) : Nat :=
  (candidate.expectedEvidence.dedup.filter (· ∉ evidenceKeys bundle)).length

/-- All its groups are observed, and some of the evidence it expects. -/
structure CauseCandidate.Contends (candidate : CauseCandidate) : Prop where
  signals : ∀ group ∈ candidate.signals, matchSignalGroup codec group signals = true
  evidence : ∃ key ∈ candidate.expectedEvidence, key ∈ evidenceKeys bundle

/-- The share of what it asks for that is there, then the number of its groups, then how
much is lacked. -/
def CauseCandidate.standing (candidate : CauseCandidate) : Rank :=
  let groups := candidate.signals.length
  let asked := candidate.expectedEvidence.dedup.length + groups
  toLex (-(((candidate.found bundle + groups : Nat) : Rat) / (asked : Rat)),
    toLex (-(groups : Int), candidate.lacked bundle))

structure Best (candidates : List CauseCandidate) (candidate : CauseCandidate) : Prop where
  listed : candidate ∈ candidates
  contends : candidate.Contends codec bundle signals
  standing : ∀ other ∈ candidates, other.Contends codec bundle signals →
    candidate.standing bundle ≤ other.standing bundle

/-- At most one candidate is best. -/
def Untied (candidates : List CauseCandidate) : Prop :=
  ∀ ⦃first second⦄, Best codec bundle signals candidates first →
    Best codec bundle signals candidates second →
    first = second

end standing

section evaluation
variable {codec : Codec} {texts : TextCodec} {bundle : EvidenceBundle} {signals : BundleSignals}
  {candidate : CauseCandidate} {evaluation : CauseEvaluation} {failure : EvaluationError}

theorem supported_iff_contends
    (done : evaluateCandidate codec texts bundle signals candidate = .ok evaluation) :
    (evaluation.discriminatorEligible = true ∧ evaluation.supportingEvidence ≠ []) ↔
      candidate.Contends codec bundle signals := by
  have evaluates := evaluateCandidate_ok done
  rw [evaluates.eligible, evaluates.supporting]
  exact ⟨fun ⟨groups, evidence⟩ => ⟨groups, evidence⟩,
    fun contends => ⟨contends.signals, contends.evidence⟩⟩

theorem order_eq_standing
    (done : evaluateCandidate codec texts bundle signals candidate = .ok evaluation)
    (contends : candidate.Contends codec bundle signals) :
    evaluation.order = candidate.standing bundle := by
  obtain ⟨checks, _, done⟩ := bind_eq_ok.mp done
  have matched : candidate.signals.filter (matchSignalGroup codec · signals) = candidate.signals :=
    List.filter_eq_self.mpr contends.signals
  have unmatched : candidate.signals.filter (fun group => !matchSignalGroup codec group signals) =
      [] :=
    List.filter_eq_nil_iff.mpr fun group among => by simp [contends.signals group among]
  have asked : candidate.expectedEvidence.dedup.length + candidate.signals.length ≠ 0 := by
    obtain ⟨key, expected, _⟩ := contends.evidence
    have := List.length_pos_of_mem (List.mem_dedup.mpr expected)
    omega
  rw [splitSignalGroups_eq, matched, unmatched] at done
  cases done
  simp only [CauseEvaluation.order, CauseCandidate.standing, CauseCandidate.found,
    CauseCandidate.lacked, if_pos asked, List.length_append, List.length_map,
    List.length_insertionSort, List.length_nil, Nat.add_zero]
  rfl

theorem iterated_error {value : Value} (failed : iterated value = .error failure) :
    failure = .typeError := by
  cases value with
  | list | dict => cases failed
  | scalar value =>
    cases value with
    | str => cases failed
    | other type content =>
      rw [iterated] at failed
      split at failed
      · cases failed
      · exact (Except.error.inj failed).symm
    | _ => exact (Except.error.inj failed).symm

theorem describeSignalGroup_error {group : Entries}
    (failed : describeSignalGroup group = .error failure) :
    failure = .typeError := by
  rw [describeSignalGroup] at failed
  cases declared : declaredMatchers group with
  | ok => simp [declared, Except.map] at failed
  | error found =>
    rw [declared] at failed
    cases failed
    rw [declaredMatchers] at declared
    split at declared
    · exact iterated_error declared
    · cases declared

theorem evaluateCandidate_error
    (failed : evaluateCandidate codec texts bundle signals candidate = .error failure) :
    failure = .typeError := by
  have described (group : Entries) (raised : EvaluationError)
      (failed : (do
        let described ← describeSignalGroup group
        .ok (⟨signalMissingToken texts group, "signals", "missing",
          "판별 신호 미충족 — 다음 중 하나가 관측되어야 합니다: " ++ described⟩ : MissingEvidenceCheck)) =
            .error raised) :
      raised = .typeError := by
    cases found : describeSignalGroup group with
    | ok => simp [found, bind, Except.bind] at failed
    | error raised =>
      rw [found] at failed
      cases failed
      exact describeSignalGroup_error found
  rw [evaluateCandidate, missingSignalChecks] at failed
  by_cases done :
    ∃ checks, missingSignalChecks texts (splitSignalGroups codec candidate.signals signals).2 =
      .ok checks
  · obtain ⟨checks, done⟩ := done
    rw [missingSignalChecks] at done
    rw [done] at failed
    cases failed
  · rw [mapM_error described done] at failed
    cases failed
    rfl

end evaluation

section selection
variable (codec : Codec) (texts : TextCodec) (bundle : EvidenceBundle)

/-- The id that the analysis of the candidates selects. -/
def selectedCandidateId (candidates : List CauseCandidate) (ruleMissing : Option RcaRuleMissing) :
    Except EvaluationError String :=
  (evaluateCauses codec texts candidates bundle ruleMissing).map fun evaluations =>
    (analyzeRootCause evaluations).selectedCandidateId

variable {codec texts bundle} {signals : BundleSignals} {candidates : List CauseCandidate}
  {evaluate : CauseCandidate → CauseEvaluation}

instance : Inhabited CauseEvaluation := ⟨⟨"", 0, [], [], [], "", [], [], 0, 0⟩⟩

/-- The evaluations of describable candidates, as a function of the candidate. -/
theorem exists_evaluate (texts : TextCodec) (bundle : EvidenceBundle)
    (described : Describable codec signals candidates) :
    ∃ evaluate : CauseCandidate → CauseEvaluation, ∀ candidate ∈ candidates,
      evaluateCandidate codec texts bundle signals candidate = .ok (evaluate candidate) := by
  have each (candidate : CauseCandidate) : ∃ evaluation, candidate ∈ candidates →
      evaluateCandidate codec texts bundle signals candidate = .ok evaluation := by
    by_cases among : candidate ∈ candidates
    · obtain ⟨evaluation, done⟩ := evaluateCandidate_isOk.mpr (described candidate among)
      exact ⟨evaluation, fun _ => done⟩
    · exact ⟨default, fun member => absurd member among⟩
  exact ⟨fun candidate => (each candidate).choose, fun candidate => (each candidate).choose_spec⟩

theorem selectedCandidateId_eq (extracted : extractBundleSignals codec texts bundle = .ok signals)
    (each : ∀ candidate ∈ candidates,
      evaluateCandidate codec texts bundle signals candidate = .ok (evaluate candidate))
    (free : ∀ candidate ∈ candidates, candidate.candidateId ∉ reservedIds) :
    selectedCandidateId codec texts bundle candidates none =
      .ok ((List.argmin CauseEvaluation.order (supportedEvaluations (candidates.map evaluate))).elim
        "none" (·.candidateId)) := by
  have named : ∀ evaluation ∈ candidates.map evaluate, evaluation.candidateId ∉ reservedIds :=
    unreserved (mapM_ok_iff.mp (mapM_eq_map each)) free
  rw [selectedCandidateId, evaluateCauses, extracted]
  change Except.map _ (candidates.mapM _) = _
  rw [mapM_eq_map each]
  refine congrArg Except.ok ?_
  dsimp only
  cases chosen : List.argmin CauseEvaluation.order (supportedEvaluations (candidates.map evaluate))
    with
  | some selected =>
    rw [analyzeRootCause_selected named chosen]
    rfl
  | none =>
    cases listed : candidates.map evaluate with
    | nil => rfl
    | cons first rest =>
      have known : first.candidateId ≠ unknownEvaluationId :=
        fun same => named first (by simp [listed]) (by
        rw [same]
        decide)
      rw [listed] at chosen
      rw [analyzeRootCause, if_neg known, chosen]
      rfl

theorem mem_supported_map (each : ∀ candidate ∈ candidates,
      evaluateCandidate codec texts bundle signals candidate = .ok (evaluate candidate)) :
    evaluation ∈ supportedEvaluations (candidates.map evaluate) ↔
      ∃ candidate ∈ candidates, candidate.Contends codec bundle signals ∧
        evaluate candidate = evaluation := by
  rw [mem_supportedEvaluations, List.mem_map]
  constructor
  · rintro ⟨⟨candidate, among, rfl⟩, supported⟩
    exact ⟨candidate, among, (supported_iff_contends (each candidate among)).mp supported, rfl⟩
  · rintro ⟨candidate, among, contends, rfl⟩
    exact ⟨⟨candidate, among, rfl⟩, (supported_iff_contends (each candidate among)).mpr contends⟩

/-- What is selected is the evaluation of a best candidate. -/
theorem selected_best (each : ∀ candidate ∈ candidates,
      evaluateCandidate codec texts bundle signals candidate = .ok (evaluate candidate))
    (chosen : List.argmin CauseEvaluation.order (supportedEvaluations (candidates.map evaluate)) =
      some selected) :
    ∃ candidate, Best codec bundle signals candidates candidate ∧
      evaluate candidate = selected := by
  obtain ⟨candidate, among, contends, rfl⟩ :=
    (mem_supported_map each).mp (List.argmin_mem (Option.mem_def.mpr chosen))
  refine ⟨candidate, ⟨among, contends, fun other listed otherContends => ?_⟩, rfl⟩
  rw [← order_eq_standing (each candidate among) contends,
    ← order_eq_standing (each other listed) otherContends]
  exact List.le_of_mem_argmin ((mem_supported_map each).mpr ⟨other, listed, otherContends, rfl⟩)
    (Option.mem_def.mpr chosen)

theorem selectedCandidateId_untied
    (extracted : extractBundleSignals codec texts bundle = .ok signals)
    (described : Describable codec signals candidates)
    (untied : Untied codec bundle signals candidates)
    (free : ∀ candidate ∈ candidates, candidate.candidateId ∉ reservedIds)
    (permuted : others.Perm candidates) :
    selectedCandidateId codec texts bundle others none =
      selectedCandidateId codec texts bundle candidates none := by
  obtain ⟨evaluate, each⟩ := exists_evaluate texts bundle described
  have supported : (supportedEvaluations (others.map evaluate)).Perm
      (supportedEvaluations (candidates.map evaluate)) :=
    ((permuted.map evaluate).filter _).filter _
  rw [selectedCandidateId_eq extracted each free, selectedCandidateId_eq extracted
    (fun candidate member => each candidate (permuted.mem_iff.mp member))
    (fun candidate member => free candidate (permuted.mem_iff.mp member))]
  cases chosen : List.argmin CauseEvaluation.order (supportedEvaluations (candidates.map evaluate))
    with
  | none =>
    rw [List.argmin_eq_none] at chosen
    rw [chosen] at supported
    rw [List.perm_nil.mp supported]
    rfl
  | some selected =>
    obtain ⟨best, isBest, rfl⟩ := selected_best each chosen
    rw [argmin_perm chosen (fun other listed least => ?_) supported]
    obtain ⟨candidate, among, contends, rfl⟩ := (mem_supported_map each).mp listed
    rw [order_eq_standing (each candidate among) contends,
      order_eq_standing (each best isBest.listed) isBest.contends] at least
    have alsoBest : Best codec bundle signals candidates candidate :=
      ⟨among, contends, fun other listed otherContends =>
        least.trans (isBest.standing other listed otherContends)⟩
    rw [untied alsoBest isBest]

theorem selectedCandidateId_first
    (extracted : extractBundleSignals codec texts bundle = .ok signals)
    (described : Describable codec signals candidates)
    (free : ∀ candidate ∈ candidates, candidate.candidateId ∉ reservedIds)
    (best : Best codec bundle signals candidates candidate) :
    ∃ others : List CauseCandidate, others.Perm candidates ∧
      selectedCandidateId codec texts bundle others none = .ok candidate.candidateId := by
  obtain ⟨before, after, rfl⟩ := List.mem_iff_append.mp best.listed
  have permuted : (candidate :: (before ++ after)).Perm (before ++ candidate :: after) :=
    List.perm_middle.symm
  obtain ⟨evaluate, each⟩ := exists_evaluate texts bundle described
  have evaluated := each candidate best.listed
  have evaluates : ∀ other ∈ candidate :: (before ++ after),
      evaluateCandidate codec texts bundle signals other = .ok (evaluate other) :=
    fun other member => each other (permuted.mem_iff.mp member)
  refine ⟨_, permuted, ?_⟩
  rw [selectedCandidateId_eq extracted evaluates fun other member =>
    free other (permuted.mem_iff.mp member)]
  have first : supportedEvaluations ((candidate :: (before ++ after)).map evaluate) =
      evaluate candidate :: supportedEvaluations ((before ++ after).map evaluate) := by
    obtain ⟨eligible, supported⟩ := (supported_iff_contends evaluated).mpr best.contends
    rw [List.map_cons, supportedEvaluations, List.filter_cons_of_pos eligible, List.filter_cons,
      if_pos (by simpa), supportedEvaluations]
  rw [first, argmin_cons_of_le]
  · exact congrArg Except.ok (evaluateCandidate_ok evaluated).named
  · intro other member
    obtain ⟨competitor, among, contends, rfl⟩ := (mem_supported_map evaluates).mp (by
      rw [first]
      exact List.mem_cons_of_mem _ member)
    rw [order_eq_standing evaluated best.contends,
      order_eq_standing (evaluates competitor among) contends]
    exact best.standing competitor (permuted.mem_iff.mp among) contends

theorem selectedCandidateId_raises
    (extracted : extractBundleSignals codec texts bundle = .ok signals)
    (undescribed : ¬Describable codec signals candidates) :
    selectedCandidateId codec texts bundle candidates none = .error .typeError := by
  rw [selectedCandidateId, evaluateCauses, extracted]
  change Except.map _ (candidates.mapM _) = _
  rw [mapM_error (fun candidate raised => evaluateCandidate_error) fun done =>
    undescribed fun candidate among =>
    evaluateCandidate_isOk.mp (mapM_isOk.mp done candidate among)]
  rfl

theorem Describable.perm (described : Describable codec signals candidates)
    (permuted : others.Perm candidates) :
    Describable codec signals others :=
  fun candidate member => described candidate (permuted.mem_iff.mp member)

/-- The selected cause is independent of the order in which the candidates are declared
exactly when at most one candidate is best. -/
theorem selectedCandidateId_perm_iff (codec : Codec) (texts : TextCodec) (bundle : EvidenceBundle)
    (candidates : List CauseCandidate) (ruleMissing : Option RcaRuleMissing)
    (distinct : (candidates.map (·.candidateId)).Nodup)
    (free : ∀ candidate ∈ candidates, candidate.candidateId ∉ reservedIds) :
    (∀ others : List CauseCandidate, others.Perm candidates →
      selectedCandidateId codec texts bundle others ruleMissing =
        selectedCandidateId codec texts bundle candidates ruleMissing) ↔
    (ruleMissing = none → ∀ signals, extractBundleSignals codec texts bundle = .ok signals →
      Describable codec signals candidates → Untied codec bundle signals candidates) := by
  constructor
  · intro same missing signals extracted described first second bestFirst bestSecond
    subst missing
    obtain ⟨firstOrder, permutedFirst, selectsFirst⟩ :=
      selectedCandidateId_first extracted described free bestFirst
    obtain ⟨secondOrder, permutedSecond, selectsSecond⟩ :=
      selectedCandidateId_first extracted described free bestSecond
    have ids : first.candidateId = second.candidateId := by
      have both := (same _ permutedFirst).trans (same _ permutedSecond).symm
      rw [selectsFirst, selectsSecond] at both
      exact Except.ok.inj both
    exact List.inj_on_of_nodup_map distinct bestFirst.listed bestSecond.listed ids
  · intro untied others permuted
    cases ruleMissing with
    | some rule => rfl
    | none =>
      cases extracted : extractBundleSignals codec texts bundle with
      | error raised =>
        rw [selectedCandidateId, selectedCandidateId, evaluateCauses, evaluateCauses, extracted]
        rfl
      | ok signals =>
        by_cases described : Describable codec signals candidates
        · exact selectedCandidateId_untied extracted described
            (untied rfl signals extracted described) free permuted
        · rw [selectedCandidateId_raises extracted described,
            selectedCandidateId_raises extracted fun other => described (other.perm permuted.symm)]

section sample

/-- The same declaration as `panicCandidate` under another id. -/
def crashCandidate : CauseCandidate := { panicCandidate with candidateId := "crash" }

def latencyCandidate : CauseCandidate := ⟨"latency", ["logs", "metrics"], [], []⟩

theorem panicCandidate_ahead (signals : BundleSignals)
    (extracted : extractBundleSignals plainCodec plainTexts logBundle = .ok signals)
    (best : Best plainCodec logBundle signals [panicCandidate, latencyCandidate] candidate) :
    candidate = panicCandidate := by
  cases extract_logBundle.symm.trans extracted
  have ahead : ¬latencyCandidate.standing logBundle ≤ panicCandidate.standing logBundle := by
    decide +kernel
  rcases List.mem_cons.mp best.listed with same | other
  · exact same
  · cases List.mem_singleton.mp other
    have contends : panicCandidate.Contends plainCodec logBundle logSignals :=
      ⟨panicCandidate_full.signals, "logs", by decide, by decide⟩
    exact absurd (best.standing panicCandidate List.mem_cons_self contends) ahead

theorem selectedCandidateId_perm_iff_sample :
    ([panicCandidate, latencyCandidate].map (·.candidateId)).Nodup ∧
      ∀ others : List CauseCandidate, others.Perm [panicCandidate, latencyCandidate] →
        selectedCandidateId plainCodec plainTexts logBundle others none =
          selectedCandidateId plainCodec plainTexts logBundle [panicCandidate,
            latencyCandidate] none := by
  refine ⟨by decide,
    (selectedCandidateId_perm_iff plainCodec plainTexts logBundle [panicCandidate, latencyCandidate]
    none (by decide) (by decide)).mpr ?_⟩
  intro _ signals extracted _ first second bestFirst bestSecond
  rw [panicCandidate_ahead signals extracted bestFirst,
    panicCandidate_ahead signals extracted bestSecond]

/-- Two candidates with the same standing: the one declared first is selected. -/
theorem selectedCandidateId_tied :
    ([panicCandidate, crashCandidate].map (·.candidateId)).Nodup ∧
    (∀ candidate ∈ [panicCandidate, crashCandidate], candidate.candidateId ∉ reservedIds) ∧
    [crashCandidate, panicCandidate].Perm [panicCandidate, crashCandidate] ∧
    selectedCandidateId plainCodec plainTexts logBundle [panicCandidate, crashCandidate] none =
      .ok "panic" ∧
    selectedCandidateId plainCodec plainTexts logBundle [crashCandidate, panicCandidate] none =
      .ok "crash" :=
  ⟨by decide, by decide, List.Perm.swap _ _ _, toOption_ok (by decide +kernel),
    toOption_ok (by decide +kernel)⟩

end sample

end selection

end K8sOps.Rca
