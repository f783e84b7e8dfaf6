import K8sOps.Accumulation
import K8sOps.Rca.Cause.Completion

/-! More evidence. The signals of a bundle are the sum of what its items hold, so a bundle
with more items supports every candidate at least as well, and an analysis that completed
completes again. -/
namespace K8sOps.Rca
open Python Gitops

namespace BundleSignals

instance : Zero BundleSignals := ⟨⟨[], [], []⟩⟩

instance : Add BundleSignals where
  add left right := ⟨left.facts ++ right.facts, left.logLines ++ right.logLines,
    left.eventTexts ++ right.eventTexts⟩

theorem add_eq (left right : BundleSignals) : left + right =
    ⟨left.facts ++ right.facts, left.logLines ++ right.logLines,
      left.eventTexts ++ right.eventTexts⟩ := rfl

theorem zero_eq : (0 : BundleSignals) = ⟨[], [], []⟩ := rfl

instance : AddMonoid BundleSignals where
  add_assoc left middle right := by simp [add_eq]
  zero_add signals := by simp [add_eq, zero_eq]
  add_zero signals := by simp [add_eq, zero_eq]
  nsmul := nsmulRec

/-- Everything that the one holds, the other holds. -/
structure Within (fewer more : BundleSignals) : Prop where
  facts : fewer.facts ⊆ more.facts
  logLines : fewer.logLines ⊆ more.logLines
  eventTexts : fewer.eventTexts ⊆ more.eventTexts

namespace Within

theorem refl (signals : BundleSignals) : Within signals signals :=
  ⟨fun _ => id, fun _ => id, fun _ => id⟩

theorem trans (first : Within fewer middle) (second : Within middle more) : Within fewer more :=
  ⟨fun _ member => second.facts (first.facts member),
    fun _ member => second.logLines (first.logLines member),
    fun _ member => second.eventTexts (first.eventTexts member)⟩

theorem left (first second : BundleSignals) : Within first (first + second) :=
  ⟨List.subset_append_left _ _, List.subset_append_left _ _, List.subset_append_left _ _⟩

theorem right (first second : BundleSignals) : Within second (first + second) :=
  ⟨List.subset_append_right _ _, List.subset_append_right _ _, List.subset_append_right _ _⟩

theorem add (first : Within one more) (second : Within two more) : Within (one + two) more :=
  ⟨List.append_subset.mpr ⟨first.facts, second.facts⟩,
    List.append_subset.mpr ⟨first.logLines, second.logLines⟩,
    List.append_subset.mpr ⟨first.eventTexts, second.eventTexts⟩⟩

theorem of_mem {parts : List BundleSignals} (member : part ∈ parts) : Within part parts.sum := by
  induction parts with
  | nil => cases member
  | cons first parts ih =>
    rw [List.sum_cons]
    rcases List.mem_cons.mp member with rfl | later
    · exact left part parts.sum
    · exact (ih later).trans (right first parts.sum)

theorem sum {parts : List BundleSignals} (each : ∀ part ∈ parts, Within part more) :
    Within parts.sum more := by
  induction parts with
  | nil => exact ⟨List.nil_subset _, List.nil_subset _, List.nil_subset _⟩
  | cons first parts ih =>
    rw [List.sum_cons]
    exact (each first List.mem_cons_self).add (ih fun part member =>
      each part (List.mem_cons_of_mem _ member))

end Within

theorem addFact_adds (fact : α → String) : Adds fun signals item => addFact (fact item) signals :=
  fun signals item => by simp [addFact, add_eq, zero_eq]

theorem addLogLine_adds (line : α → String) :
    Adds fun signals item => addLogLine (line item) signals :=
  fun signals item => by simp [addLogLine, add_eq, zero_eq]

theorem addEventText_adds (text : α → String) :
    Adds fun signals item => addEventText (text item) signals :=
  fun signals item => by simp [addEventText, add_eq, zero_eq]

end BundleSignals

section collect
open BundleSignals
variable (codec : Codec) (texts : TextCodec)

theorem adds_ite {step : BundleSignals → α → BundleSignals} (condition : α → Prop)
    [DecidablePred condition] (adds : Adds step) :
    Adds fun signals item => if condition item then step signals item else signals := by
  intro signals item
  by_cases holds : condition item
  · simp only [if_pos holds]
    exact adds signals item
  · simp only [if_neg holds]
    exact (add_zero signals).symm

theorem addExitCodeFact_accumulates (container : Entries) :
    Accumulates (addExitCodeFact codec container) := by
  intro signals key
  rw [addExitCodeFact, addExitCodeFact]
  split
  · exact congrArg Except.ok (add_zero signals).symm
  · exact congrArg Except.ok (add_zero signals).symm
  · rfl
  · cases codec.toInt (getOrNone key container) with
    | none => exact congrArg Except.ok (add_zero signals).symm
    | some code =>
      have adds := (addFact_adds fun code : Int => "exit_code=" ++ toString code).next
        (adds_ite (fun code => code ≠ 0 ∧ code ≠ oomExitCode) (addFact_adds fun _ =>
          factExitCodeNonOom))
      exact congrArg Except.ok (adds signals code)

theorem addExitCodeFacts_accumulates : Accumulates (addExitCodeFacts codec) :=
  fun signals container => (addExitCodeFact_accumulates codec container).foldlM signals _

theorem addLabelFact_adds : Adds (addLabelFact texts) := by
  intro signals label
  simp only [addLabelFact]
  split
  · exact addFact_adds id signals _
  · exact (add_zero signals).symm

theorem collectPodSignals_accumulates : Accumulates (collectPodSignals codec texts) := by
  have labels := (addLabelFact_adds texts).foldl.comp (getMapping "labels")
  have waiting := (addFact_adds ("waiting_reason=" ++ ·)).foldl.comp
    fun pod => textItems texts (getOrNone "waiting_reasons" pod)
  have terminated := (addFact_adds ("terminated_reason=" ++ ·)).foldl.comp
    fun pod => textItems texts (getOrNone "terminated_reasons" pod)
  have containers := (addExitCodeFacts_accumulates codec).foldlM.comp
    fun pod => dictItems (getOrNone "containers" pod)
  exact ((labels.next waiting).next terminated).ok.next containers

theorem collectEventSignals_adds : Adds (collectEventSignals texts) := by
  have reasons :=
    adds_ite (fun event : String × String => event.1 ≠ "") (addFact_adds ("event_reason=" ++ ·.1))
  have messages := adds_ite (fun event : String × String => event.1 ≠ "" ∨ event.2 ≠ "")
    (addEventText_adds fun event => strip (event.1 ++ " " ++ event.2))
  exact fun signals event => (reasons.next messages) signals
    (strip (textOr texts "reason" "" event), strip (textOr texts "message" "" event))

theorem collectKubernetesSignals_accumulates :
    Accumulates fun signals value => collectKubernetesSignals codec texts value signals :=
  ((collectPodSignals_accumulates codec texts).foldlM.comp fun value =>
    dictItems (getOrNone "pods" value)).next
    ((collectEventSignals_adds texts).foldl.comp fun value =>
      dictItems (getOrNone "events" value)).ok

theorem addLine_adds : Adds addLine := by
  intro signals entry
  rw [addLine, addLine]
  split
  · exact adds_ite (· ≠ "") (addLogLine_adds id) signals _
  · exact (add_zero signals).symm

theorem collectLogLines_adds : Adds fun signals value => collectLogLines value signals := by
  have values := addLine_adds.foldl.comp fun stream => dictItems (getOrNone "values" stream)
  have streams := values.foldl.comp fun entry => dictItems (getOrNone "streams" entry)
  exact (addLine_adds.next streams).foldl.comp fun value => dictItems (getOrNone "entries" value)

theorem collectAlertFact_adds : Adds (collectAlertFact texts) := by
  intro signals alert
  simp only [collectAlertFact]
  split
  · exact (add_zero signals).symm
  split
  · exact addFact_adds id signals _
  · exact (add_zero signals).symm

theorem collectAlertFacts_adds : Adds fun signals value => collectAlertFacts texts value signals :=
  (collectAlertFact_adds texts).foldl.comp fun value =>
    dictItems (getOrNone "alerts" (getMapping "alertmanager" value))

theorem collectSignals_accumulates : Accumulates (collectSignals codec texts) := by
  intro signals item
  rw [collectSignals, collectSignals]
  split
  · exact collectKubernetesSignals_accumulates codec texts signals item.value
  split
  · exact congrArg Except.ok (collectLogLines_adds signals item.value)
  split
  · exact congrArg Except.ok (collectAlertFacts_adds texts signals item.value)
  · exact congrArg Except.ok (add_zero signals).symm

end collect

section growth
variable {codec : Codec} {texts : TextCodec} {fewer more : EvidenceBundle}
  {fewerSignals moreSignals : BundleSignals}

/-- A bundle with more items holds more signals. -/
theorem extractBundleSignals_within (within : fewer.items ⊆ more.items)
    (first : extractBundleSignals codec texts fewer = .ok fewerSignals)
    (second : extractBundleSignals codec texts more = .ok moreSignals) :
    fewerSignals.Within moreSignals := by
  obtain ⟨fewerParts, eachFewer, rfl⟩ := (collectSignals_accumulates codec texts).foldlM_ok.mp first
  obtain ⟨moreParts, eachMore, rfl⟩ := (collectSignals_accumulates codec texts).foldlM_ok.mp second
  refine .sum fun part member => ?_
  obtain ⟨item, among, found⟩ := forall₂_mem_left eachFewer.flip member
  obtain ⟨other, listed, again⟩ := forall₂_mem_left eachMore (within among)
  cases found.symm.trans again
  exact .of_mem listed

theorem extractBundleSignals_isOk {bundle : EvidenceBundle}
    (readable : ∀ item ∈ bundle.items, ∃ signals, extractBundleSignals codec texts ⟨[item]⟩ =
      .ok signals) :
    ∃ signals, extractBundleSignals codec texts bundle = .ok signals := by
  refine (collectSignals_accumulates codec texts).foldlM_isOk.mpr fun item member => ?_
  obtain ⟨signals, done⟩ := readable item member
  obtain ⟨part, found, _⟩ := bind_eq_ok.mp done
  exact ⟨part, found⟩

theorem evidenceKeys_within (within : fewer.items ⊆ more.items) :
    evidenceKeys fewer ⊆ evidenceKeys more := by
  intro key member
  obtain ⟨item, among, keyed⟩ := List.mem_flatMap.mp member
  exact List.mem_flatMap.mpr ⟨item, within among, keyed⟩

theorem matchOne_within {matcher : Entries} (within : fewerSignals.Within moreSignals)
    (matched : matchOne codec matcher fewerSignals = true) :
    matchOne codec matcher moreSignals = true := by
  rw [matchOne] at matched ⊢
  split at matched
  · exact List.contains_iff_mem.mpr (within.facts (List.contains_iff_mem.mp matched))
  split at matched
  · obtain ⟨line, member, found⟩ := List.any_eq_true.mp matched
    exact List.any_eq_true.mpr ⟨line, within.logLines member, found⟩
  split at matched
  · obtain ⟨text, member, found⟩ := List.any_eq_true.mp matched
    exact List.any_eq_true.mpr ⟨text, within.eventTexts member, found⟩
  · exact matched

theorem matchSignalGroup_within {group : Entries} (within : fewerSignals.Within moreSignals)
    (matched : matchSignalGroup codec group fewerSignals = true) :
    matchSignalGroup codec group moreSignals = true := by
  obtain ⟨matcher, member, found⟩ := List.any_eq_true.mp matched
  exact List.any_eq_true.mpr ⟨matcher, member, matchOne_within within found⟩

theorem FullyEvidenced.grow {candidate : CauseCandidate}
    (full : FullyEvidenced codec fewer fewerSignals candidate) (items : fewer.items ⊆ more.items)
    (signals : fewerSignals.Within moreSignals) :
    FullyEvidenced codec more moreSignals candidate where
  expects := full.expects
  evidence key expected := evidenceKeys_within items (full.evidence key expected)
  signals group among := matchSignalGroup_within signals (full.signals group among)

theorem Describable.grow {candidates : List CauseCandidate}
    (described : Describable codec fewerSignals candidates)
    (signals : fewerSignals.Within moreSignals) : Describable codec moreSignals candidates :=
  fun candidate among group member =>
    (described candidate among group member).imp_left (matchSignalGroup_within signals)

variable {Evidence Incident : Type}

theorem completeBody_context {evaluated : RcaCandidatesEvaluatedBody Evidence Incident}
    {body : RcaCompletedBody Evidence Incident}
    (completed : completeBody evaluated = .completed body) :
    evaluated.evidence.isSome = true ∧ evaluated.incident.isSome = true := by
  rw [completeBody] at completed
  split at completed
  · cases completed
  · next present =>
    rw [not_or, not_or] at present
    exact ⟨Option.isSome_iff_ne_none.mpr fun missing => present.1 (by rw [missing]; rfl),
      Option.isSome_iff_ne_none.mpr fun missing => present.2.1 (by rw [missing]; rfl)⟩

/-- More evidence never un-completes an analysis, unless the added evidence cannot be read. -/
theorem analyzePlan_more_evidence (codec : Codec) (texts : TextCodec)
    (planned : RcaCandidatesPlannedBody Evidence Incident) (fewer more : EvidenceBundle)
    (items : fewer.items ⊆ more.items)
    (free : ∀ candidate ∈ planned.candidates, candidate.candidateId ∉ reservedIds)
    (readable : ∀ item ∈ more.items, ∃ signals, extractBundleSignals codec texts ⟨[item]⟩ =
      .ok signals)
    (completed : ∃ body, analyzePlan codec texts { planned with
        evidenceBundle := some fewer } = .ok (.completed body)) :
    ∃ body, analyzePlan codec texts { planned with evidenceBundle := some more } =
      .ok (.completed body) := by
  obtain ⟨body, completed⟩ := completed
  obtain ⟨evaluations, _, done⟩ := bind_eq_ok.mp completed
  obtain ⟨hasEvidence, hasIncident⟩ := completeBody_context (Except.ok.inj done)
  obtain ⟨missing, fewerSignals, extracted, described, ⟨candidate, among, full, _⟩, _⟩ :=
    completed_names rfl hasEvidence hasIncident free completed
  obtain ⟨moreSignals, read⟩ := extractBundleSignals_isOk readable
  have signals := extractBundleSignals_within items extracted read
  exact fullyEvidenced_completes rfl hasEvidence hasIncident free missing read
    (described.grow signals) among (full.grow items signals)

section sample

def metricsItem : EvidenceItem := ⟨"metrics", "alerts", [], "", "", "", none⟩

/-- A Pod one of whose containers reports an infinite exit code. -/
def unreadableItem : EvidenceItem where
  source := "kubernetes"
  name := "pods"
  value := [(.str "pods", .list [.dict [(.str "containers",
    .list [.dict [(.str "exit_code", .scalar (.float (.infinity false)))]])]])]
  summary := ""
  evidenceRef := ""
  checkId := ""
  query := none

/-- A candidate under a reserved id that asks for the metrics too. -/
def reservedCandidate : CauseCandidate where
  candidateId := "none"
  expectedEvidence := ["logs", "metrics"]
  checks := []
  signals := panicCandidate.signals ++ panicCandidate.signals

def logPlanWith (candidates : List CauseCandidate) (added : List EvidenceItem) :
    RcaCandidatesPlannedBody Unit Unit :=
  { logPlan candidates with evidenceBundle := some ⟨logBundle.items ++ added⟩ }

def completes (plan : RcaCandidatesPlannedBody Unit Unit) : Bool :=
  match analyzePlan plainCodec plainTexts plan with
  | .ok (.completed _) => true
  | _ => false

theorem completes_iff {plan : RcaCandidatesPlannedBody Unit Unit} :
    completes plan = true ↔ ∃ body, analyzePlan plainCodec plainTexts plan =
      .ok (.completed body) := by
  rw [completes]
  cases analyzePlan plainCodec plainTexts plan with
  | error => simp
  | ok body => cases body <;> simp

theorem analyzePlan_more_evidence_sample :
    logBundle.items ⊆ logBundle.items ++ [metricsItem] ∧
    completes (logPlanWith [panicCandidate] []) = true ∧
      ∃ body, analyzePlan plainCodec plainTexts (logPlanWith [panicCandidate] [metricsItem]) =
        .ok (.completed body) := by
  have items := List.subset_append_left logBundle.items [metricsItem]
  have completed : completes (logPlanWith [panicCandidate] []) = true := by decide +kernel
  refine ⟨items, completed, analyzePlan_more_evidence plainCodec plainTexts
    (logPlan [panicCandidate]) logBundle
    ⟨logBundle.items ++ [metricsItem]⟩ items (by decide) ?_ (completes_iff.mp completed)⟩
  intro item member
  rcases List.mem_append.mp member with first | added
  · cases List.mem_singleton.mp first
    exact ⟨logSignals, rfl⟩
  · cases List.mem_singleton.mp added
    exact ⟨⟨[], [], []⟩, rfl⟩

/-- Added evidence un-completes the analysis when it cannot be read, or when it makes a
candidate with a reserved id the best one. -/
theorem analyzePlan_uncompleted :
    (completes (logPlanWith [panicCandidate] []) = true ∧
      completes (logPlanWith [panicCandidate] [unreadableItem]) = false) ∧
    (completes (logPlanWith [panicCandidate, reservedCandidate] []) = true ∧
      completes (logPlanWith [panicCandidate, reservedCandidate] [metricsItem]) = false) := by
  decide +kernel

end sample

end growth

end K8sOps.Rca
