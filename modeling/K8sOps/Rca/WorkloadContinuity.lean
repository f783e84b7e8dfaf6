import K8sOps.Keyed
import K8sOps.Rca.RejectedWindows
import K8sOps.Rca.Cause.Signals

/-! Workload continuity. The verdict that protected workloads are unchanged compares the
sorted uids of their serving Pods and the sum of the restarts, so a Pod without a uid can
make up for the restart of one that has one. -/
namespace K8sOps.Rca
open Python
variable (codec : Codec)

section baseline

/-- What is stored of a workload before the recovery. -/
def baselineItem (workload : Entries) : Entries :=
  ["kind", "namespace", "name", "uid", "pod_uids", "pod_start_times",
    "restart_count"].map fun key =>
    (.str key, getOrNone key workload)

def listedPodUids (item : Entries) : List String :=
  match getOrNone "pod_uids" item with
  | .list uids => uids.map asText
  | _ => []

def validPodMetadata (item : Entries) : Bool :=
  (match getOrNone "pod_uids" item, getOrNone "pod_start_times" item with
    | .list uids, .list startTimes =>
      !uids.isEmpty && startTimes.length = uids.length && startTimes.all (asText · ≠ "")
    | _, _ => false) &&
  (codec.nonnegativeInt (getOrNone "restart_count" item)).isSome

/-- The healthy workloads, if they can be told apart, and so can their Pods. -/
def protectedWorkloadBaseline (workloads : List Entries) : List Entries :=
  let baseline :=
    (workloads.filter fun workload => isTrue (getOrNone "healthy" workload)).map baselineItem
  let identities := baseline.map (workloadIdentity codec)
  let workloadUids := baseline.map (getText "uid")
  let podUids := baseline.flatMap listedPodUids
  if baseline.isEmpty ∨ identities.any (fun identity => identity.1 = "" ∨ identity.2.1 = "" ∨
    identity.2.2 = "") ∨
      ¬identities.Nodup ∨ "" ∈ workloadUids ∨ ¬workloadUids.Nodup ∨ "" ∈ podUids ∨ ¬podUids.Nodup ∨
      !baseline.all (validPodMetadata codec) then []
  else baseline

/-- The verdict on a window against the baseline of an earlier one. -/
def workloadVerdict (baseline : List Entries) (target : Target)
    (evidence : Entries) : Option Bool :=
  protectedWorkloadsUnchanged (.list (baseline.map .dict))
    (protectedWorkloads codec evidence target (.list (baseline.map .dict)))

end baseline

section window

def windowSnapshots (evidence : Entries) : List Entries :=
  dictItems (.list ((currentWorkloadSnapshots evidence).getD []))

def snapshotIdentity (snapshot : Entries) : String × String × String :=
  workloadIdentity codec (getMapping "workload" snapshot)

/-- The serving Pods that can be told apart, and the others. -/
def identifiedPods (snapshot : Entries) : List Entries :=
  (servingPods snapshot).filter fun pod => getText "uid" pod ≠ ""

def anonymousPods (snapshot : Entries) : List Entries :=
  (servingPods snapshot).filter fun pod => getText "uid" pod = ""

def restarts (pod : Entries) : Option Nat := codec.nonnegativeInt (getOrNone "restart_count" pod)

def restartSum (pods : List Entries) : Nat := (pods.map fun pod => (restarts codec pod).getD 0).sum

/-- The restart counts of the Pods are present and do not decrease. -/
def CountsGrow (before after : Entries) : Prop :=
  ∀ pod ∈ identifiedPods before, ∀ later ∈ identifiedPods after, getText "uid" pod =
    getText "uid" later → ∃ count ∈ restarts codec pod, ∃ more ∈ restarts codec later, count ≤ more

def NoRestart (before after : Entries) : Prop :=
  ∀ pod ∈ identifiedPods before, ∀ later ∈ identifiedPods after, getText "uid" pod =
    getText "uid" later → restarts codec later = restarts codec pod

/-- The Pods without a uid were restarted equally often. -/
def Balanced (before after : Entries) : Prop :=
  restartSum codec (anonymousPods before) = restartSum codec (anonymousPods after)

/-- The same workload with the same serving Pods. -/
structure SameWorkload (before after : Entries) : Prop where
  uid : (getOrNone "uid" (getMapping "workload" before)).same
    (getOrNone "uid" (getMapping "workload" after)) = true
  podUids : ∀ uid, uid ∈ (identifiedPods before).map (getText "uid") ↔
    uid ∈ (identifiedPods after).map (getText "uid")

end window

section observed
variable {codec} {target : Target}

def Workload.identity (codec : Codec) (workload : Workload) : String × String × String :=
  (codec.casefold workload.kind, workload.namespace, workload.name)

theorem identity_observed (snapshot : Entries) :
    (observedWorkload codec snapshot).identity codec = snapshotIdentity codec snapshot := rfl

theorem workloadIdentity_baselineItem (snapshot : Entries) :
    workloadIdentity codec (baselineItem (observedWorkload codec snapshot).toEntries) =
      snapshotIdentity codec snapshot := by
  change (codec.casefold (strip (getText "kind" _)), strip (getText "namespace" _),
    strip (getText "name" _)) = _
  rw [strip_getText, strip_getText, strip_getText]
  rfl

/-- The fields that the verdict compares. -/
structure Workload.Alike (one two : Workload) : Prop where
  name : one.name = two.name
  kind : one.kind = two.kind
  «namespace» : one.namespace = two.namespace
  uid : one.uid.same two.uid = true
  podUids : one.podUids = two.podUids
  podStartTimes : one.podStartTimes = two.podStartTimes
  restartCount : one.restartCount = two.restartCount

theorem lookup_fields {keys : List String} (fields : String → Value) (member : key ∈ keys) :
    Entries.lookup (.str key) (keys.map fun key => (.str key, fields key)) = some (fields key) := by
  induction keys with
  | nil => cases member
  | cons first keys ih =>
    rw [List.map_cons, Entries.lookup]
    split
    next same => rw [Scalar.str.inj (Scalar.canonical_str.mp (Scalar.same_iff.mp same))]
    next different =>
      refine ih ((List.mem_cons.mp member).resolve_left fun same => different ?_)
      rw [same]
      exact Scalar.same_iff.mpr rfl

theorem same_fields {keys : List String} (one two : String → Value) :
    (Value.dict (keys.map fun key => (.str key, one key))).same
      (.dict (keys.map fun key => (.str key, two key))) =
      true ↔ ∀ key ∈ keys, (one key).same (two key) = true := by
  constructor
  · intro same key member
    have looked := Value.same_lookup same (.str key)
    rw [lookup_fields one member, lookup_fields two member] at looked
    cases looked with
    | some alike => exact alike
  · intro each
    rw [Value.same, Bool.and_eq_true, Value.sameEntries_iff, List.all_eq_true]
    constructor
    · intro entry member
      obtain ⟨key, listed, rfl⟩ := List.mem_map.mp member
      exact Value.sameEntry_iff.mpr ⟨two key, lookup_fields two listed, each key listed⟩
    · intro entry member
      obtain ⟨key, listed, rfl⟩ := List.mem_map.mp member
      rw [lookup_fields one listed]
      rfl

theorem same_text {one two : String} :
    Value.same (.scalar (.str one)) (.scalar (.str two)) = true ↔ one = two := by
  rw [Value.same_str]
  simp [eq_comm]

theorem same_texts {left right : List String} :
    Value.same (.list (left.map fun text => .scalar (.str text)))
      (.list (right.map fun text => .scalar (.str text))) =
      true ↔ left = right := by
  rw [Value.same, Value.sameItems_iff, List.forall₂_map_left_iff, List.forall₂_map_right_iff]
  simp only [same_text, List.forall₂_eq_eq_eq]

theorem same_count {one two : Nat} :
    Value.same (.scalar (.int one)) (.scalar (.int two)) = true ↔ one = two := by
  rw [Value.same, Scalar.same_iff, Scalar.canonical, Scalar.canonical, Canonical.number.injEq]
  norm_cast

theorem normalized_same (one two : Workload) :
    (normalizedWorkload (baselineItem one.toEntries)).same (normalizedWorkload two.toEntries) =
      true ↔
      one.Alike two := by
  rw [normalizedWorkload, normalizedWorkload, same_fields]
  constructor
  · intro each
    exact {
      name := same_text.mp (each "name" (by simp))
      kind := same_text.mp (each "kind" (by simp))
      «namespace» := same_text.mp (each "namespace" (by simp))
      uid := each "uid" (by simp)
      podUids := same_texts.mp (each "pod_uids" (by simp))
      podStartTimes := same_texts.mp (each "pod_start_times" (by simp))
      restartCount := same_count.mp (each "restart_count" (by simp)) }
  · intro alike key member
    simp only [List.mem_cons, List.not_mem_nil, or_false] at member
    rcases member with rfl | rfl | rfl | rfl | rfl | rfl | rfl
    · exact same_text.mpr alike.name
    · exact same_text.mpr alike.kind
    · exact same_text.mpr alike.namespace
    · exact alike.uid
    · exact same_texts.mpr alike.podUids
    · exact same_texts.mpr alike.podStartTimes
    · exact same_count.mpr alike.restartCount

end observed

section selection
variable (target : Target)

/-- A Deployment of the target's namespace other than the target itself. -/
def Protectable (identity : String × String × String) : Prop :=
  identity.2.1 = target.namespace ∧ identity.1 = "deployment" ∧
    ¬(identity.1 = codec.casefold target.resourceKind ∧ identity.2.2 = target.resourceName)

instance (identity : String × String × String) : Decidable (Protectable codec target identity) :=
  inferInstanceAs (Decidable (_ ∧ _ ∧ ¬(_ ∧ _)))

/-- The snapshots of a window that a baseline with these identities selects. -/
def chosenSnapshots (identities : List (String × String × String))
    (snapshots : List Entries) : List Entries :=
  snapshots.filter fun snapshot =>
    decide (Protectable codec target (snapshotIdentity codec snapshot)) &&
      identities.contains (snapshotIdentity codec snapshot)

def Workload.order (workload : Workload) : List String :=
  [workload.namespace, workload.kind, workload.name]

variable {codec target}

theorem protectedWorkload_some :
    protectedWorkload codec target expected (.dict snapshot) = some workload ↔
      Protectable codec target (snapshotIdentity codec snapshot) ∧
      isProtected codec expected snapshot = true ∧
        workload = observedWorkload codec snapshot := by
  rw [protectedWorkload]
  simp only [Option.ite_none_left_eq_some, Option.ite_none_right_eq_some, Option.some.injEq,
    Protectable, not_or, not_not, ne_eq, and_assoc, eq_comm (a := workload)]
  rfl

theorem isProtected_baseline : isProtected codec (some identities) snapshot = true ↔
    snapshotIdentity codec snapshot ∈ identities := decide_eq_true_iff

theorem filterMap_protectedWorkload (identities : List (String × String × String))
    (snapshots : List Value) :
    snapshots.filterMap (protectedWorkload codec target (some identities)) =
      (chosenSnapshots codec target identities (dictItems (.list snapshots))).map
        (observedWorkload codec) := by
  induction snapshots with
  | nil => rfl
  | cons first snapshots ih =>
    cases first with
    | scalar | list =>
      rw [List.filterMap_cons_none rfl, ih]
      rfl
    | dict snapshot =>
      have listed : dictItems (.list (.dict snapshot :: snapshots)) =
          snapshot :: dictItems (.list snapshots) := rfl
      by_cases chosen : Protectable codec target (snapshotIdentity codec snapshot) ∧
          snapshotIdentity codec snapshot ∈ identities
      · rw [List.filterMap_cons_some (protectedWorkload_some.mpr ⟨chosen.1,
          isProtected_baseline.mpr chosen.2, rfl⟩), ih, listed, chosenSnapshots, chosenSnapshots,
            List.filter_cons_of_pos (by simpa using chosen), List.map_cons]
      · rw [List.filterMap_cons_none, ih, listed, chosenSnapshots, chosenSnapshots,
          List.filter_cons_of_neg (by simpa using chosen)]
        rw [Option.eq_none_iff_forall_ne_some]
        intro workload selected
        obtain ⟨protectable, known, _⟩ := protectedWorkload_some.mp selected
        exact chosen ⟨protectable, isProtected_baseline.mp known⟩

theorem filterMap_dict {read : Value → Option β} (value : Entries → β)
    (each : ∀ item, read (.dict item) = some (value item))
    (items : List Entries) : (items.map Value.dict).filterMap read = items.map value := by
  rw [List.filterMap_map, ← List.filterMap_eq_map]
  exact List.filterMap_congr fun item _ => each item

theorem protectedWorkloads_eq (baseline : List Entries) (evidence : Entries) :
    protectedWorkloads codec evidence target (.list (baseline.map .dict)) =
      (currentWorkloadSnapshots evidence).map fun snapshots =>
        ((chosenSnapshots codec target (baseline.map (workloadIdentity codec))
          (dictItems (.list snapshots))).map
          (observedWorkload codec)).insertionSort fun left right => left.order ≤ right.order := by
  rw [protectedWorkloads]
  refine congrArg (Option.map · (currentWorkloadSnapshots evidence)) (funext fun snapshots => ?_)
  dsimp only
  rw [filterMap_dict (workloadIdentity codec), filterMap_protectedWorkload]
  · rfl
  · exact fun _ => rfl

end selection

section verdict
variable {codec} {target : Target}

theorem protectedWorkloadsUnchanged_some {baseline : List Entries} (nonempty : baseline ≠ [])
    (workloads : List Workload) :
    ∃ verdict, protectedWorkloadsUnchanged (.list (baseline.map .dict)) (some workloads) =
      some verdict ∧ (verdict = true ↔ List.Forall₂ (fun item workload =>
        (normalizedWorkload item).same (normalizedWorkload workload.toEntries) = true) baseline
          workloads) := by
  cases baseline with
  | nil => exact absurd rfl nonempty
  | cons item items =>
    refine ⟨_, rfl, ?_⟩
    rw [Value.same, Value.sameItems_iff, List.forall₂_map_right_iff, ← List.map_cons,
      filterMap_dict normalizedWorkload]
    · exact List.forall₂_map_left_iff
    · exact fun _ => rfl

/-- What a baseline that is not empty guarantees. -/
structure Distinct (codec : Codec) (baseline : List Entries) : Prop where
  identities : (baseline.map (workloadIdentity codec)).Nodup
  podUids : ∀ item ∈ baseline, (listedPodUids item).Nodup

theorem protectedWorkloadBaseline_distinct {workloads : List Entries}
    (member : item ∈ protectedWorkloadBaseline codec workloads) :
    Distinct codec (protectedWorkloadBaseline codec workloads) ∧
    ∃ workload ∈ workloads, item = baselineItem workload := by
  rw [protectedWorkloadBaseline] at member ⊢
  split at member
  next => cases member
  next valid =>
    rw [if_neg valid]
    simp only [not_or, not_not] at valid
    obtain ⟨_, _, identities, _, _, _, podUids, _⟩ := valid
    refine ⟨⟨identities, fun item among => (List.nodup_flatMap.mp podUids).1 item among⟩, ?_⟩
    obtain ⟨workload, healthy, rfl⟩ := List.mem_map.mp member
    exact ⟨workload, List.mem_of_mem_filter healthy, rfl⟩

theorem mem_protectedWorkloads {baseline : Value} {workloads : List Workload}
    (observed : protectedWorkloads codec evidence target baseline = some workloads)
    (member : workload ∈ workloads) :
    ∃ snapshot ∈ windowSnapshots evidence, workload = observedWorkload codec snapshot ∧
      Protectable codec target (snapshotIdentity codec snapshot) := by
  obtain ⟨snapshots, present, rfl⟩ := Option.map_eq_some_iff.mp observed
  obtain ⟨value, among, selected⟩ := List.mem_filterMap.mp ((List.mem_insertionSort _).mp member)
  cases value with
  | scalar | list => cases selected
  | dict snapshot =>
    obtain ⟨protectable, _, rfl⟩ := protectedWorkload_some.mp selected
    refine ⟨snapshot, ?_, rfl, protectable⟩
    rw [windowSnapshots, present]
    exact List.mem_filterMap.mpr ⟨_, among, rfl⟩

/-- The baseline of a window, built from the workloads that it protects. -/
structure BaselineOf (codec : Codec) (target : Target) (evidence : Entries)
    (baseline : List Entries) : Prop where
  distinct : Distinct codec baseline
  observed : ∀ item ∈ baseline, ∃ snapshot ∈ windowSnapshots evidence,
    item = baselineItem (observedWorkload codec snapshot).toEntries ∧
      Protectable codec target (snapshotIdentity codec snapshot)

theorem baselineOf {labels : Value} {workloads : List Workload}
    (observed : protectedWorkloads codec evidence target labels = some workloads) :
    BaselineOf codec target evidence
      (protectedWorkloadBaseline codec (workloads.map (·.toEntries))) := by
  constructor
  · cases listed : protectedWorkloadBaseline codec (workloads.map (·.toEntries)) with
    | nil => exact ⟨List.nodup_nil, fun item member => nomatch member⟩
    | cons item items =>
      have member : item ∈ protectedWorkloadBaseline codec (workloads.map (·.toEntries)) := by
        rw [listed]
        exact List.mem_cons_self
      exact listed ▸ (protectedWorkloadBaseline_distinct member).1
  · intro item member
    obtain ⟨_, entries, among, rfl⟩ := protectedWorkloadBaseline_distinct member
    obtain ⟨workload, listed, rfl⟩ := List.mem_map.mp among
    obtain ⟨snapshot, shown, rfl, protectable⟩ := mem_protectedWorkloads observed listed
    exact ⟨snapshot, shown, rfl, protectable⟩

variable {first later : Entries} {baseline : List Entries}

theorem workloadVerdict_true
    (unchanged : workloadVerdict codec baseline target later = some true) : ∃ workloads,
      List.Perm workloads ((chosenSnapshots codec target (baseline.map (workloadIdentity codec))
        (windowSnapshots later)).map (observedWorkload codec)) ∧
      List.Forall₂ (fun item workload =>
        (normalizedWorkload item).same (normalizedWorkload workload.toEntries) =
          true) baseline workloads := by
  rw [workloadVerdict, protectedWorkloads_eq] at unchanged
  cases present : currentWorkloadSnapshots later with
  | none =>
    rw [present, protectedWorkloadsUnchanged.eq_def] at unchanged
    split at unchanged <;> simp_all
  | some snapshots =>
    rw [present] at unchanged
    have nonempty : baseline ≠ [] := by
      rintro rfl
      cases unchanged
    obtain ⟨verdict, decided, holds⟩ := protectedWorkloadsUnchanged_some nonempty
      (((chosenSnapshots codec target (baseline.map (workloadIdentity codec))
        (dictItems (.list snapshots))).map
        (observedWorkload codec)).insertionSort fun left right => left.order ≤ right.order)
    cases decided.symm.trans unchanged
    refine ⟨_, ?_, holds.mp rfl⟩
    rw [windowSnapshots, present]
    exact List.perm_insertionSort _ _

theorem identity_of_same {workload : Workload}
    (same : (normalizedWorkload (baselineItem (observedWorkload codec before).toEntries)).same
      (normalizedWorkload workload.toEntries) = true) :
    workload.identity codec = snapshotIdentity codec before := by
  have alike := (normalized_same _ _).mp same
  rw [← identity_observed, Workload.identity, Workload.identity, alike.kind, alike.namespace,
    alike.name]

theorem identities_of_same (built : BaselineOf codec target first baseline)
    {workloads : List Workload} (compared : List.Forall₂ (fun item workload =>
      (normalizedWorkload item).same (normalizedWorkload workload.toEntries) = true) baseline
      workloads) :
    baseline.map (workloadIdentity codec) = workloads.map (Workload.identity codec) := by
  rw [← List.forall₂_eq_eq_eq, List.forall₂_map_left_iff, List.forall₂_map_right_iff]
  refine List.forall₂_iff_get.mpr ⟨compared.length_eq, fun index inBaseline inWorkloads => ?_⟩
  obtain ⟨before, _, isItem, _⟩ := built.observed _ (List.get_mem baseline ⟨index, inBaseline⟩)
  have same := compared.get inBaseline inWorkloads
  rw [isItem] at same ⊢
  rw [workloadIdentity_baselineItem, identity_of_same same]

theorem chosen_identities (built : BaselineOf codec target first baseline)
    (unchanged : workloadVerdict codec baseline target later = some true) :
    ((chosenSnapshots codec target (baseline.map (workloadIdentity codec))
      (windowSnapshots later)).map
      (snapshotIdentity codec)).Perm (baseline.map (workloadIdentity codec)) := by
  obtain ⟨workloads, permuted, compared⟩ := workloadVerdict_true unchanged
  have mapped := (permuted.map (Workload.identity codec)).symm
  rw [List.map_map, ← identities_of_same built compared] at mapped
  exact mapped

theorem shown_once (built : BaselineOf codec target first baseline)
    (unchanged : workloadVerdict codec baseline target later = some true)
    (member : item ∈ baseline) :
    ∃ after, (windowSnapshots later).filter (snapshotIdentity codec · =
      workloadIdentity codec item) = [after] ∧
      (normalizedWorkload item).same (normalizedWorkload (observedWorkload codec after).toEntries) =
        true := by
  have identities := chosen_identities built unchanged
  have listed : workloadIdentity codec item ∈ baseline.map (workloadIdentity codec) :=
    List.mem_map_of_mem member
  obtain ⟨after, found⟩ :=
    filter_key_eq_singleton (identities.nodup_iff.mpr built.distinct.identities)
    (identities.mem_iff.mpr listed)
  obtain ⟨before, _, isItem, protectable⟩ := built.observed item member
  have identity : workloadIdentity codec item = snapshotIdentity codec before := by
    rw [isItem, workloadIdentity_baselineItem]
  have whole : (windowSnapshots later).filter (snapshotIdentity codec · =
      workloadIdentity codec item) = [after] := by
    rw [← found, chosenSnapshots, List.filter_filter]
    refine List.filter_congr fun snapshot _ => ?_
    by_cases same : snapshotIdentity codec snapshot = workloadIdentity codec item
    · have selected : Protectable codec target (workloadIdentity codec item) :=
        identity ▸ protectable
      simp [same, selected, listed]
    · simp [same]
  obtain ⟨workloads, permuted, compared⟩ := workloadVerdict_true unchanged
  obtain ⟨workload, among, same⟩ := forall₂_mem_left compared member
  obtain ⟨snapshot, chosen, rfl⟩ := List.mem_map.mp (permuted.mem_iff.mp among)
  have isAfter : snapshot ∈ [after] := by
    rw [← found, List.mem_filter]
    refine ⟨chosen, decide_eq_true ?_⟩
    rw [identity, ← identity_observed]
    exact identity_of_same (isItem ▸ same)
  cases List.mem_singleton.mp isAfter
  exact ⟨after, whole, same⟩

end verdict

section restarts
variable {codec}

theorem podUids_observed (snapshot : Entries) : (observedWorkload codec snapshot).podUids =
    ((identifiedPods snapshot).map (getText "uid")).insertionSort (· ≤ ·) := by
  change (((servingPods snapshot).map (getText "uid")).filter (· ≠ "")).insertionSort (· ≤ ·) = _
  rw [List.filter_map]
  rfl

theorem restartCount_observed (snapshot : Entries) :
    (observedWorkload codec snapshot).restartCount =
    restartSum codec (identifiedPods snapshot) + restartSum codec (anonymousPods snapshot) := by
  have parts :=
    List.filter_append_perm (fun pod => decide (getText "uid" pod ≠ "")) (servingPods snapshot)
  have others : anonymousPods snapshot = (servingPods snapshot).filter fun pod =>
      !decide (getText "uid" pod ≠ "") := by
    simp [anonymousPods]
  rw [restartSum, restartSum, others, ← List.sum_append, ← List.map_append]
  exact (parts.map _).sum_eq.symm

/-- Without a change of the sums, no Pod with a uid was restarted exactly if those without
one were not restarted more or less often. -/
theorem noRestart_iff_balanced {before after : Entries}
    (podUids : (observedWorkload codec before).podUids = (observedWorkload codec after).podUids)
    (restartCount : (observedWorkload codec before).restartCount =
      (observedWorkload codec after).restartCount)
    (distinct : (observedWorkload codec before).podUids.Nodup)
    (grow : CountsGrow codec before after) :
    NoRestart codec before after ↔ Balanced codec before after := by
  rw [podUids_observed, podUids_observed] at podUids
  rw [podUids_observed, (List.perm_insertionSort _ _).nodup_iff] at distinct
  rw [restartCount_observed, restartCount_observed] at restartCount
  have keys : ((identifiedPods before).map (getText "uid")).Perm
      ((identifiedPods after).map (getText "uid")) :=
    (List.perm_insertionSort (· ≤ ·) _).symm.trans
      (podUids.symm ▸ List.perm_insertionSort (· ≤ ·) _)
  have counted := keyed_sum_eq_iff (fun pod => (restarts codec pod).getD 0) keys distinct (by
    intro pod among other listed same
    obtain ⟨count, present, more, presentLater, grown⟩ := grow pod among other listed same
    rw [present, presentLater]
    exact grown)
  have sums : Balanced codec before after ↔
      restartSum codec (identifiedPods before) = restartSum codec (identifiedPods after) := by
    rw [Balanced]
    omega
  rw [sums, restartSum, restartSum, counted, NoRestart]
  refine forall₂_congr fun pod among => forall₂_congr fun other listed =>
    imp_congr_right fun same => ?_
  obtain ⟨count, present, more, presentLater, _⟩ := grow pod among other listed same
  rw [present, presentLater]
  simp [eq_comm]

end restarts

section reordering
variable {codec} {target : Target} {one two first later other : Entries} {baseline : List Entries}

/-- The same snapshot, its Pods in another order. -/
structure SamePods (one two : Entries) : Prop where
  fields : ∀ key, key ≠ "pod_statuses" → getOrNone key one = getOrNone key two
  pods : getOrNone "pod_statuses" one = getOrNone "pod_statuses" two ∨ ∃ pods others,
    getOrNone "pod_statuses" one = .list pods ∧ getOrNone "pod_statuses" two = .list others ∧
    pods.Perm others

/-- The same window, its snapshots and their Pods in another order. -/
structure Reordered (later other : Entries) : Prop where
  present : (currentWorkloadSnapshots later).isSome = (currentWorkloadSnapshots other).isSome
  snapshots : ∃ middle, List.Forall₂ SamePods (windowSnapshots later) middle ∧
    middle.Perm (windowSnapshots other)

theorem servingPods_perm (same : SamePods one two) : (servingPods one).Perm (servingPods two) := by
  rw [servingPods, servingPods]
  rcases same.pods with equal | ⟨pods, others, left, right, permuted⟩
  · rw [equal]
  · rw [left, right]
    exact permuted.filterMap _

theorem snapshotIdentity_samePods (same : SamePods one two) :
    snapshotIdentity codec one = snapshotIdentity codec two := by
  rw [snapshotIdentity, snapshotIdentity, getMapping, getMapping,
    same.fields "workload" (by decide)]

theorem observedWorkload_samePods (same : SamePods one two) :
    observedWorkload codec one = observedWorkload codec two := by
  have serving := servingPods_perm same
  have texts (key : String) : (((servingPods one).map (getText key)).filter (· ≠ "")).insertionSort
      (· ≤ ·) = (((servingPods two).map (getText key)).filter (· ≠ "")).insertionSort (· ≤ ·) :=
    insertionSort_perm id ((serving.map _).filter _) fun _ _ _ _ => id
  have workload : getMapping "workload" one = getMapping "workload" two := by
    rw [getMapping, getMapping, same.fields "workload" (by decide)]
  have status : getMapping "deployment_status" one = getMapping "deployment_status" two := by
    rw [getMapping, getMapping, same.fields "deployment_status" (by decide)]
  have truncated := same.fields "pod_statuses_truncated" (by decide)
  rw [observedWorkload, observedWorkload]
  dsimp only
  rw [workload, status, truncated, texts, texts, serving.length_eq, (serving.map _).sum_eq]

theorem chosen_reordered (codec : Codec) (target : Target)
    (identities : List (String × String × String)) (reordered : Reordered later other) :
    ((chosenSnapshots codec target identities (windowSnapshots later)).map
      (observedWorkload codec)).Perm
      ((chosenSnapshots codec target identities (windowSnapshots other)).map
        (observedWorkload codec)) := by
  have read (snapshots : List Entries) :
      (chosenSnapshots codec target identities snapshots).map (observedWorkload codec) =
        ((snapshots.map fun snapshot =>
          (snapshotIdentity codec snapshot, observedWorkload codec snapshot)).filter
          fun shown => decide (Protectable codec target shown.1) &&
            identities.contains shown.1).map Prod.snd := by
    rw [List.filter_map, List.map_map]
    rfl
  obtain ⟨middle, each, permuted⟩ := reordered.snapshots
  have aligned : (windowSnapshots later).map (fun snapshot =>
      (snapshotIdentity codec snapshot, observedWorkload codec snapshot)) =
      middle.map fun snapshot => (snapshotIdentity codec snapshot,
        observedWorkload codec snapshot) := by
    rw [← List.forall₂_eq_eq_eq, List.forall₂_map_left_iff, List.forall₂_map_right_iff]
    exact each.imp fun one two same => by
      rw [snapshotIdentity_samePods same, observedWorkload_samePods same]
  rw [read, read, aligned]
  exact ((permuted.map _).filter _).map _

/-- Workloads that compare with a baseline are told apart by what they are sorted by. -/
theorem order_distinct (built : BaselineOf codec target first baseline) {workloads : List Workload}
    (compared : List.Forall₂ (fun item workload =>
      (normalizedWorkload item).same (normalizedWorkload workload.toEntries) = true) baseline
      workloads) :
    ∀ one ∈ workloads, ∀ two ∈ workloads, Workload.order one = Workload.order two → one = two := by
  intro one among two listed same
  have distinct : (workloads.map (Workload.identity codec)).Nodup :=
    identities_of_same built compared ▸ built.distinct.identities
  refine List.inj_on_of_nodup_map distinct among listed ?_
  simp only [Workload.order, List.cons.injEq, and_true] at same
  rw [Workload.identity, Workload.identity, same.1, same.2.1, same.2.2]

theorem sorted_once (built : BaselineOf codec target first baseline) {left right : List Workload}
    (permuted : left.Perm right)
    (compared : List.Forall₂ (fun item workload =>
      (normalizedWorkload item).same (normalizedWorkload workload.toEntries) = true) baseline
      (left.insertionSort fun left right => left.order ≤ right.order)) :
    left.insertionSort (fun left right => left.order ≤ right.order) =
      right.insertionSort fun left right => left.order ≤ right.order := by
  refine insertionSort_perm Workload.order permuted fun one among two listed => ?_
  have sorted :=
    List.perm_insertionSort (fun left right : Workload => left.order ≤ right.order) left
  exact order_distinct built compared one (sorted.mem_iff.mpr among) two (sorted.mem_iff.mpr listed)

theorem workloadVerdict_reordered (built : BaselineOf codec target first baseline)
    (reordered : Reordered later other) :
    workloadVerdict codec baseline target other = workloadVerdict codec baseline target later := by
  rw [workloadVerdict, workloadVerdict, protectedWorkloads_eq, protectedWorkloads_eq]
  have chosen := chosen_reordered codec target (baseline.map (workloadIdentity codec)) reordered
  have presence := reordered.present
  rw [windowSnapshots, windowSnapshots] at chosen
  cases present : currentWorkloadSnapshots later with
  | none =>
    rw [present, Option.isSome_none, eq_comm, Option.isSome_eq_false_iff,
      Option.isNone_iff_eq_none] at presence
    rw [presence]
  | some snapshots =>
    rw [present, Option.isSome_some, eq_comm] at presence
    obtain ⟨others, isOther⟩ := Option.isSome_iff_exists.mp presence
    rw [present, isOther] at chosen
    rw [isOther]
    by_cases empty : baseline = []
    · subst empty
      rfl
    simp only [Option.getD_some, Option.map_some] at chosen ⊢
    generalize (chosenSnapshots codec target (baseline.map (workloadIdentity codec))
      (dictItems (.list snapshots))).map (observedWorkload codec) = shown at chosen ⊢
    generalize (chosenSnapshots codec target (baseline.map (workloadIdentity codec))
      (dictItems (.list others))).map (observedWorkload codec) = otherShown at chosen ⊢
    obtain ⟨verdict, decided, holds⟩ := protectedWorkloadsUnchanged_some empty
      (shown.insertionSort fun left right => left.order ≤ right.order)
    obtain ⟨otherVerdict, otherDecided, otherHolds⟩ := protectedWorkloadsUnchanged_some empty
      (otherShown.insertionSort fun left right => left.order ≤ right.order)
    rw [decided, otherDecided]
    refine congrArg some (Bool.eq_iff_iff.mpr
      (otherHolds.trans (Iff.trans ⟨fun compared => ?_, fun compared => ?_⟩ holds.symm)))
    · exact sorted_once built chosen.symm compared ▸ compared
    · exact sorted_once built chosen compared ▸ compared

end reordering

section continuity
variable (codec : Codec) (target : Target) (first later : Entries)

/-- The snapshot of the first window that an item of the baseline was built from. -/
structure Source (item before : Entries) : Prop where
  shown : before ∈ windowSnapshots first
  built : item = baselineItem (observedWorkload codec before).toEntries

/-- The later window shows the workload once, with the same Pods, none of them restarted
as far as their restart counts tell. -/
def Uninterrupted (item : Entries) : Prop :=
  (∃ before, Source codec first item before) ∧ ∃ after,
    (windowSnapshots later).filter (snapshotIdentity codec · = workloadIdentity codec item) =
      [after] ∧ ∀ before, Source codec first item before → SameWorkload before after ∧
        (CountsGrow codec before after → NoRestart codec before after)

variable {codec target first later}

theorem Workload.Alike.continued {before after : Entries}
    (alike : (observedWorkload codec before).Alike (observedWorkload codec after)) :
    SameWorkload before after where
  uid := alike.uid
  podUids uid := by
    have podUids := alike.podUids
    rw [podUids_observed, podUids_observed] at podUids
    rw [← List.mem_insertionSort (· ≤ ·), podUids, List.mem_insertionSort]

theorem distinct_podUids (snapshot : Entries)
    (distinct : (listedPodUids (baselineItem (observedWorkload codec snapshot).toEntries)).Nodup) :
    (observedWorkload codec snapshot).podUids.Nodup := by
  have listed : listedPodUids (baselineItem (observedWorkload codec snapshot).toEntries) =
      (observedWorkload codec snapshot).podUids.map strip := by
    change List.map asText (List.map _ _) = _
    rw [List.map_map]
    rfl
  rw [listed] at distinct
  exact distinct.of_map

/-- The verdict on protected workloads does not depend on any order. When it says that
they are unchanged, they ran uninterrupted exactly if the Pods without a uid, which only
count towards the sum of the restarts, did not make up for a restart. -/
theorem protected_uninterrupted_iff (codec : Codec) (target : Target) (first later : Entries)
    (labels : Value) (workloads : List Workload)
    (observed : protectedWorkloads codec first target labels = some workloads) :
    let baseline := protectedWorkloadBaseline codec (workloads.map (·.toEntries))
    (∀ other, Reordered later other →
      workloadVerdict codec baseline target other = workloadVerdict codec baseline target later) ∧
    (workloadVerdict codec baseline target later = some true →
      ((∀ item ∈ baseline, Uninterrupted codec first later item) ↔
        ∀ item ∈ baseline, ∀ before, Source codec first item before →
          ∀ after ∈ windowSnapshots later, snapshotIdentity codec after =
            workloadIdentity codec item → CountsGrow codec before after →
            Balanced codec before after)) := by
  intro baseline
  have built : BaselineOf codec target first baseline := baselineOf observed
  refine ⟨fun other reordered => workloadVerdict_reordered built reordered, fun unchanged =>
    forall₂_congr fun item member => ?_⟩
  obtain ⟨after, once, same⟩ := shown_once built unchanged member
  have only (snapshot : Entries) (shown : snapshot ∈ windowSnapshots later)
      (identity : snapshotIdentity codec snapshot = workloadIdentity codec item) :
        snapshot = after := by
    have found : snapshot ∈ [after] := once ▸ List.mem_filter.mpr ⟨shown, decide_eq_true identity⟩
    exact List.mem_singleton.mp found
  have alike (before : Entries) (source : Source codec first item before) :
      (observedWorkload codec before).Alike (observedWorkload codec after) :=
    (normalized_same _ _).mp (source.built ▸ same)
  have restarted (before : Entries) (source : Source codec first item before)
    (grow : CountsGrow codec before after) :
      NoRestart codec before after ↔ Balanced codec before after :=
    noRestart_iff_balanced (alike before source).podUids (alike before source).restartCount
      (distinct_podUids before (source.built ▸ built.distinct.podUids item member)) grow
  constructor
  · rintro ⟨_, found, alsoOnce, each⟩ before source snapshot shown identity grow
    cases List.singleton_inj.mp (alsoOnce.symm.trans once)
    cases only snapshot shown identity
    exact (restarted before source grow).mp ((each before source).2 grow)
  · intro balanced
    obtain ⟨before, shown, isItem, _⟩ := built.observed item member
    refine ⟨⟨before, shown, isItem⟩, after, once, fun before source => ?_⟩
    obtain ⟨afterShown, identity⟩ := List.mem_filter.mp (once ▸ List.mem_singleton_self after)
    refine ⟨(alike before source).continued, fun grow => (restarted before source grow).mpr ?_⟩
    exact balanced before source after afterShown (of_decide_eq_true identity) grow

section sample

/-- A ready Pod with its uid, which also tells when it started. -/
def chatPod (uid : String) (restartCount : Int) : Value :=
  objectValue [("ready", .scalar (.bool true)), ("uid", textValue uid),
    ("start_time", textValue uid), ("restart_count", intValue restartCount)]

def chatSnapshot (pods : List Value) : Entries :=
  let marked := objectValue [(recoveryContinuityLabel, textValue recoveryContinuityProtectedValue)]
  [(.str "workload", objectValue [("kind", textValue "deployment"), ("namespace", textValue "shop"),
      ("name", textValue "chat"), ("uid", textValue "uid-1")]),
    (.str "deployment_labels", marked), (.str "pod_template_labels", marked),
    (.str "deployment_status", objectValue [("desired_replicas", intValue 1),
      ("ready_replicas", intValue 1), ("available_replicas", intValue 1)]),
    (.str "pod_statuses", .list pods)]

def chatWindow (pods : List Value) : Entries :=
  [(.str "metadata",
    objectValue [("current_workload_snapshots", .list [.dict (chatSnapshot pods)])])]

def shopTarget : Target := ⟨"cluster", "shop", "Deployment", "checkout"⟩

/-- The baseline of a window, labels deciding what is protected. -/
def chatWorkloads (pods : List Value) : List Workload :=
  (protectedWorkloads sampleCodec (chatWindow pods) shopTarget (.scalar .none)).getD []

def chatBaselineItems (pods : List Value) : List Entries :=
  protectedWorkloadBaseline sampleCodec ((chatWorkloads pods).map (·.toEntries))

/-- Next to the Pod `pod-1`, one without a uid that was restarted before. -/
def chatBefore : List Value := [chatPod "pod-1" 0, chatPod "" 1]

/-- The other Pod is gone, and `pod-1` was restarted. -/
def chatAfter : List Value := [chatPod "pod-1" 1]

theorem identifiedPods_chat :
    identifiedPods (chatSnapshot chatBefore) = [asMapping (chatPod "pod-1" 0)] ∧
    identifiedPods (chatSnapshot chatAfter) = [asMapping (chatPod "pod-1" 1)] := ⟨rfl, rfl⟩

theorem countsGrow_chat :
    CountsGrow sampleCodec (chatSnapshot chatBefore) (chatSnapshot chatAfter) := by
  intro pod among other listed _
  cases List.mem_singleton.mp (identifiedPods_chat.1 ▸ among)
  cases List.mem_singleton.mp (identifiedPods_chat.2 ▸ listed)
  exact ⟨0, rfl, 1, rfl, Nat.zero_le 1⟩

/-- The sum of the restarts is the same, so the restart of `pod-1` goes unnoticed. -/
theorem protected_restart_hidden :
    workloadVerdict sampleCodec (chatBaselineItems chatBefore) shopTarget (chatWindow chatAfter) =
      some true ∧ ∃ item ∈ chatBaselineItems chatBefore,
        ¬Uninterrupted sampleCodec (chatWindow chatBefore) (chatWindow chatAfter) item := by
  have baseline : chatBaselineItems chatBefore =
      [baselineItem (observedWorkload sampleCodec (chatSnapshot chatBefore)).toEntries] := rfl
  refine ⟨by rfl, _, baseline ▸ List.mem_singleton_self _, ?_⟩
  rintro ⟨_, after, once, each⟩
  have found : [chatSnapshot chatAfter] = [after] := once
  cases List.singleton_inj.mp found
  have unrestarted :=
    (each (chatSnapshot chatBefore) ⟨List.mem_singleton_self _, rfl⟩).2 countsGrow_chat
  have counts :=
    unrestarted (asMapping (chatPod "pod-1" 0)) (identifiedPods_chat.1 ▸ List.mem_singleton_self _)
    (asMapping (chatPod "pod-1" 1)) (identifiedPods_chat.2 ▸ List.mem_singleton_self _) rfl
  exact absurd counts (by decide)

/-- Without Pods that have no uid the verdict is about each Pod. -/
theorem protected_uninterrupted_iff_sample :
    workloadVerdict sampleCodec (chatBaselineItems chatAfter) shopTarget (chatWindow chatAfter) =
      some true ∧ ∀ item ∈ chatBaselineItems chatAfter,
        Uninterrupted sampleCodec (chatWindow chatAfter) (chatWindow chatAfter) item := by
  have unchanged : workloadVerdict sampleCodec (chatBaselineItems chatAfter) shopTarget
      (chatWindow chatAfter) = some true := by rfl
  refine ⟨unchanged,
    ((protected_uninterrupted_iff sampleCodec shopTarget (chatWindow chatAfter)
      (chatWindow chatAfter)
    (.scalar .none) (chatWorkloads chatAfter) rfl).2 unchanged).mpr ?_⟩
  rintro item _ before ⟨shown, _⟩ after afterShown _ _
  cases List.mem_singleton.mp shown
  cases List.mem_singleton.mp afterShown
  rfl

end sample

end continuity

end K8sOps.Rca
