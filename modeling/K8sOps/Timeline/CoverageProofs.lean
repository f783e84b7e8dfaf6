import K8sOps.Accumulation
import K8sOps.Timeline.Coverage

/-! The two projections agree wherever the observations of each cluster come in order. Both push the
closed gaps of every cluster in the order of that cluster, so what they push differs by a
permutation that keeps the items with equal sort keys in place. -/
namespace K8sOps.Timeline
open Python

section pushing
variable {request : CoverageRequest} {items : List TimelineCoverage}

/-- The items are valid, and they still fit below the limit. -/
def Fits (request : CoverageRequest) (count : Nat) (items : List TimelineCoverage) : Prop :=
  (∀ item ∈ items, item.check = true) ∧
    ∀ limit, request.maxIntervals = some limit → items ≠ [] → (count + items.length : Int) ≤ limit

theorem push_fits {projected : List TimelineCoverage} (fits : Fits request projected.length items) :
    items.foldlM (pushCoverage request) projected = .ok (projected ++ items) := by
  induction items generalizing projected with
  | nil => simp [pure, Except.pure]
  | cons item items ih =>
    obtain ⟨valid, room⟩ := fits
    have space : (request.maxIntervals.any fun (limit : Int) => limit ≤ projected.length) =
        false := by
      cases isLimit : request.maxIntervals with
      | none => rfl
      | some limit =>
        have bound := room limit isLimit (List.cons_ne_nil _ _)
        simp only [Option.any_some, decide_eq_false_iff_not, List.length_cons] at bound ⊢
        omega
    have first : pushCoverage request projected item = .ok (projected ++ [item]) := by
      unfold pushCoverage
      rw [space, valid item List.mem_cons_self]
      rfl
    have rest : Fits request (projected ++ [item]).length items := by
      refine ⟨fun other among => valid other (List.mem_cons_of_mem _ among),
        fun limit isLimit _ => ?_⟩
      have bound := room limit isLimit (List.cons_ne_nil _ _)
      simp only [List.length_cons, List.length_append, List.length_nil] at bound ⊢
      omega
    have later := ih rest
    rw [List.append_assoc] at later
    rw [List.foldlM_cons, first]
    exact later

/-- Otherwise something is raised, and it is the limit where every item is valid. -/
theorem push_error (projected : List TimelineCoverage)
    (crowded : ¬ Fits request projected.length items) :
    ∃ error, items.foldlM (pushCoverage request) projected = .error error ∧
      (error = .limitExceeded ∨ error = .validationError) ∧
      ((∀ item ∈ items, item.check = true) → error = .limitExceeded) := by
  induction items generalizing projected with
  | nil => simp [Fits] at crowded
  | cons item items ih =>
    rw [List.foldlM_cons]
    unfold pushCoverage
    split
    · exact ⟨.limitExceeded, rfl, .inl rfl, fun _ => rfl⟩
    next space =>
      split
      next checked =>
        have still : ¬ Fits request (projected ++ [item]).length items := by
          rintro ⟨valid, room⟩
          refine crowded ⟨List.forall_mem_cons.mpr ⟨checked, valid⟩, fun limit isLimit _ => ?_⟩
          rw [isLimit] at space
          simp only [Option.any_some, decide_eq_true_eq, Int.not_le] at space
          by_cases last : items = []
          · simp only [last, List.length_cons, List.length_nil]
            omega
          · have bound := room limit isLimit last
            simp only [List.length_cons, List.length_append, List.length_nil] at bound ⊢
            omega
        obtain ⟨error, raised, kind, limited⟩ := ih _ still
        exact ⟨error, raised, kind, fun valid =>
          limited fun other among => valid other (List.mem_cons_of_mem _ among)⟩
      next failed =>
        exact ⟨.validationError, rfl, .inr rfl,
          fun valid => absurd (valid item List.mem_cons_self) failed⟩

theorem Fits.perm (fits : Fits request count items) (permuted : items.Perm others) :
    Fits request count others := by
  refine ⟨fun item among => fits.1 item (permuted.mem_iff.mpr among),
    fun limit isLimit some_item => ?_⟩
  rw [← permuted.length_eq]
  refine fits.2 limit isLimit fun none => some_item ?_
  rw [none] at permuted
  exact List.nil_perm.mp permuted

end pushing

section gaps
variable (runtime : CaptureRuntime) (request : CoverageRequest)

/-- An observation of a cluster: when its gap is open afterwards, and the gap that it closes. -/
def observe (opened : Option Int) (observation : CaptureObservation) :
    Option Int × List (Int × Int) :=
  match observation.state, opened with
  | .gap, _ => (some (opened.getD observation.observedAt), [])
  | .recovery, none => (none, [])
  | .recovery, some openedAt =>
    if observation.observedAt ≤ openedAt then (some openedAt, [])
    else (none, [(openedAt, observation.observedAt)])

def closedGaps (opened : Option Int) : List CaptureObservation → List (Int × Int)
  | [] => []
  | observation :: rest =>
    (observe opened observation).2 ++ closedGaps (observe opened observation).1 rest

/-- The gaps of all clusters in the order in which they are closed. -/
def closedByCluster (opened : String → Option Int) :
    List CaptureObservation → List (String × Int × Int)
  | [] => []
  | observation :: rest =>
    let cluster := observation.clusterId
    let observed := observe (opened cluster) observation
    observed.2.map (cluster, ·) ++ closedByCluster (Function.update opened cluster observed.1) rest

def gapItems (gap : String × Int × Int) : List TimelineCoverage :=
  let fromMs := runtime.milliseconds gap.2.1
  let toMs := runtime.milliseconds gap.2.2
  if intersectsWindow fromMs toMs request.window then
    (request.scopesOf gap.1).map fun scope =>
      ⟨scope, .kubernetesEvent, fromMs, toMs, .collectionGap⟩
  else []

theorem closeGap_eq (projected : List TimelineCoverage) (clusterId : String)
    (openedAt observedAt : Int) :
    closeGap runtime request projected clusterId openedAt observedAt =
      (gapItems runtime request (clusterId, openedAt, observedAt)).foldlM
        (pushCoverage request) projected := by
  unfold closeGap gapItems appendCoverageIntervals
  dsimp only
  split <;> rfl

theorem closedByCluster_filter (opened : String → Option Int)
    (observations : List CaptureObservation) (cluster : String) :
    (closedByCluster opened observations).filter (fun gap => gap.1 == cluster) =
      (closedGaps (opened cluster) (observations.filter fun observation =>
        observation.clusterId == cluster)).map (cluster, ·) := by
  induction observations generalizing opened with
  | nil => rfl
  | cons observation rest ih =>
    unfold closedByCluster
    dsimp only
    rw [List.filter_append, ih]
    by_cases same : observation.clusterId = cluster
    · subst same
      have own : ((observe (opened observation.clusterId) observation).2.map (observation.clusterId,
          ·)).filter
          (fun gap => gap.1 == observation.clusterId) =
          (observe (opened observation.clusterId) observation).2.map (observation.clusterId,
            ·) := by
        rw [List.filter_eq_self]
        intro gap member
        obtain ⟨span, _, rfl⟩ := List.mem_map.mp member
        simp
      rw [own, Function.update_self, List.filter_cons_of_pos (by simp), closedGaps, List.map_append]
    · have other :
          ((observe (opened observation.clusterId) observation).2.map (observation.clusterId,
            ·)).filter
          (fun gap => gap.1 == cluster) = [] := by
        rw [List.filter_eq_nil_iff]
        intro gap member
        obtain ⟨span, _, rfl⟩ := List.mem_map.mp member
        simp [same]
      rw [other, List.nil_append, Function.update_of_ne (Ne.symm same),
        List.filter_cons_of_neg (by simpa using same)]

end gaps

section loops
variable {runtime : CaptureRuntime} {request : CoverageRequest}

/-- The observations of each cluster are in non-decreasing time order. -/
def InOrder (observations : List CaptureObservation) : Prop :=
  observations.Pairwise fun earlier later => earlier.clusterId = later.clusterId →
    earlier.observedAt ≤ later.observedAt

/-- The loop over the whole sequence has seen nothing later than what is to come. -/
def OrderedState.Ready (state : OrderedState) (observations : List CaptureObservation) : Prop :=
  InOrder observations ∧ ∀ observation ∈ observations, ∀ last,
    state.lastObservedByCluster observation.clusterId = some last → last ≤ observation.observedAt

def OrderedState.items (runtime : CaptureRuntime) (request : CoverageRequest) (state : OrderedState)
    (observations : List CaptureObservation) : List TimelineCoverage :=
  (closedByCluster state.openedByCluster observations).flatMap (gapItems runtime request)

theorem orderedStep_eq {state : OrderedState} {observation : CaptureObservation}
    (inOrder : ∀ last, state.lastObservedByCluster observation.clusterId = some last →
      last ≤ observation.observedAt) :
    let cluster := observation.clusterId
    let observed := observe (state.openedByCluster cluster) observation
    orderedStep runtime request state observation =
      (((observed.2.map (cluster, ·)).flatMap (gapItems runtime request)).foldlM
        (pushCoverage request) state.projected).map fun projected =>
          ⟨Function.update state.openedByCluster cluster observed.1,
            Function.update state.lastObservedByCluster cluster (some observation.observedAt),
            projected⟩ := by
  intro cluster observed
  have later : ((state.lastObservedByCluster cluster).any (observation.observedAt < ·)) =
      false := by
    cases isLast : state.lastObservedByCluster cluster with
    | none => rfl
    | some last => simpa using inOrder last isLast
  unfold orderedStep
  dsimp only
  rw [later, if_neg Bool.false_ne_true]
  unfold observed observe
  cases observation.state with
  | gap => rfl
  | recovery =>
    cases isOpened : state.openedByCluster cluster with
    | none =>
      have same : Function.update state.openedByCluster cluster none = state.openedByCluster := by
        rw [← isOpened, Function.update_eq_self]
      dsimp only
      rw [same]
      rfl
    | some openedAt =>
      dsimp only
      split
      next =>
        have same : Function.update state.openedByCluster cluster (some openedAt) =
            state.openedByCluster := by
          rw [← isOpened, Function.update_eq_self]
        rw [same]
        rfl
      next =>
        rw [closeGap_eq, List.map_singleton, List.flatMap_singleton]
        cases (gapItems runtime request (cluster, openedAt, observation.observedAt)).foldlM
          (pushCoverage request) state.projected <;> rfl

theorem orderedStep_emits :
    Emits (pushCoverage request) (orderedStep runtime request) OrderedState.projected
    (OrderedState.items runtime request) OrderedState.Ready := by
  rintro state observation rest ⟨inOrder, notLater⟩
  obtain ⟨first, others⟩ := List.pairwise_cons.mp inOrder
  refine ⟨_, _, orderedStep_eq (notLater observation List.mem_cons_self),
    fun pushed => ⟨rfl, ⟨others, ?_⟩, ?_⟩⟩
  · intro other among last isLast
    dsimp only at isLast
    by_cases same : other.clusterId = observation.clusterId
    · rw [same, Function.update_self, Option.some.injEq] at isLast
      rw [← isLast]
      exact first other among same.symm
    · rw [Function.update_of_ne same] at isLast
      exact notLater other (List.mem_cons_of_mem _ among) last isLast
  · rw [OrderedState.items, closedByCluster, List.flatMap_append]
    rfl

theorem ordered_pushes {observations : List CaptureObservation} (inOrder : InOrder observations) :
    projectOrderedCaptureCoverage runtime request observations =
      (((closedByCluster (fun _ => none) observations).flatMap (gapItems runtime request)).foldlM
        (pushCoverage request) []).map sortedCoverage := by
  have start : OrderedState.Ready ⟨fun _ => none, fun _ => none, []⟩ observations :=
    ⟨inOrder, by simp⟩
  have emits : Emits (pushCoverage request) (orderedStep runtime request) OrderedState.projected
    (OrderedState.items runtime request) OrderedState.Ready := orderedStep_emits
  have pushed := emits.foldlM (fun _ => rfl) start
  change _ =
    (OrderedState.items runtime request ⟨fun _ => none, fun _ => none, []⟩ observations).foldlM
    (pushCoverage request) [] at pushed
  unfold projectOrderedCaptureCoverage
  rw [OrderedState.items] at pushed
  rw [← pushed]
  cases observations.foldlM (orderedStep runtime request) ⟨fun _ => none, fun _ => none, []⟩ <;> rfl

theorem bufferedStep_eq (cluster : String) (state : Option Int × List TimelineCoverage)
    (observation : CaptureObservation) :
    bufferedStep runtime request cluster state observation =
      ((((observe state.1 observation).2.map (cluster, ·)).flatMap
        (gapItems runtime request)).foldlM (pushCoverage request)
        state.2).map fun projected => ((observe state.1 observation).1, projected) := by
  obtain ⟨opened, projected⟩ := state
  unfold bufferedStep observe
  cases observation.state with
  | gap => rfl
  | recovery =>
    cases opened with
    | none => rfl
    | some openedAt =>
      dsimp only
      split
      · rfl
      · rw [closeGap_eq, List.map_singleton, List.flatMap_singleton]
        cases (gapItems runtime request (cluster, openedAt, observation.observedAt)).foldlM
          (pushCoverage request) projected <;> rfl

def groupItems (runtime : CaptureRuntime) (request : CoverageRequest)
    (group : String × List CaptureObservation) : List TimelineCoverage :=
  ((closedGaps none group.2).map (group.1, ·)).flatMap (gapItems runtime request)

theorem bufferedCluster_eq {group : String × List CaptureObservation}
    (projected : List TimelineCoverage)
    (sorted : group.2.Pairwise fun earlier later => earlier.observedAt ≤ later.observedAt) :
    bufferedCluster runtime request projected group =
      (groupItems runtime request group).foldlM (pushCoverage request) projected := by
  have emits : Emits (pushCoverage request) (bufferedStep runtime request group.1) Prod.snd
      (fun state observations => ((closedGaps state.1 observations).map (group.1, ·)).flatMap
        (gapItems runtime request))
      (fun _ _ => True) := by
    intro state observation rest _
    refine ⟨_, _, bufferedStep_eq group.1 state observation, fun pushed => ⟨rfl, trivial, ?_⟩⟩
    dsimp only
    rw [closedGaps, List.map_append, List.flatMap_append]
  unfold bufferedCluster
  rw [List.Pairwise.insertionSort_eq sorted, emits.foldlM (fun _ => rfl) trivial]
  rfl

theorem buffered_pushes {observations : List CaptureObservation} (inOrder : InOrder observations) :
    projectBufferedCaptureCoverage runtime request observations =
      (((observationsByCluster observations).flatMap (groupItems runtime request)).foldlM
        (pushCoverage request) []).map sortedCoverage := by
  have sorted : ∀ group ∈ observationsByCluster observations,
      group.2.Pairwise fun earlier later => earlier.observedAt ≤ later.observedAt := by
    intro group member
    obtain ⟨cluster, _, rfl⟩ := List.mem_map.mp member
    refine (inOrder.filter _).imp_of_mem fun one other ordered => ordered ?_
    have oneHere := (List.mem_filter.mp one).2
    have otherHere := (List.mem_filter.mp other).2
    exact (beq_iff_eq.mp oneHere).trans (beq_iff_eq.mp otherHere).symm
  have emits : Emits (pushCoverage request) (bufferedCluster runtime request) id
      (fun _ groups => groups.flatMap (groupItems runtime request))
      (fun _ groups => ∀ group ∈ groups, group.2.Pairwise fun earlier later =>
        earlier.observedAt ≤ later.observedAt) := by
    intro projected group rest ready
    refine ⟨groupItems runtime request group, id, ?_,
      fun pushed => ⟨rfl, fun other among => ready other
      (List.mem_cons_of_mem _ among), List.flatMap_cons⟩⟩
    rw [bufferedCluster_eq projected (ready group List.mem_cons_self)]
    exact (id_map _).symm
  have pushed :
      ((observationsByCluster observations).foldlM (bufferedCluster runtime request) []).map id =
      ((observationsByCluster observations).flatMap (groupItems runtime request)).foldlM
        (pushCoverage request) [] :=
    emits.foldlM (fun _ => rfl) sorted
  unfold projectBufferedCaptureCoverage
  rw [← pushed]
  cases (observationsByCluster observations).foldlM (bufferedCluster runtime request) [] <;> rfl

end loops

section permutations
variable {runtime : CaptureRuntime} {request : CoverageRequest}

/-- The gaps of the groups, one group after the other. -/
def bufferedGaps (observations : List CaptureObservation) : List (String × Int × Int) :=
  (observationsByCluster observations).flatMap fun group =>
    (closedGaps none group.2).map (group.1, ·)

theorem flatMap_filter_key {keys : List String} (distinct : keys.Nodup) (spans : String → List β)
    (cluster : String) :
    (keys.flatMap fun key => (spans key).map (key, ·)).filter (fun item => item.1 == cluster) =
      if cluster ∈ keys then (spans cluster).map (cluster, ·) else [] := by
  induction keys with
  | nil => rfl
  | cons key keys ih =>
    obtain ⟨absent, later⟩ := List.nodup_cons.mp distinct
    rw [List.flatMap_cons, List.filter_append, ih later]
    by_cases same : key = cluster
    · subst same
      rw [if_neg absent, if_pos List.mem_cons_self, List.append_nil, List.filter_eq_self]
      intro item member
      obtain ⟨span, _, rfl⟩ := List.mem_map.mp member
      simp
    · have other : ((spans key).map (key, ·)).filter (fun item => item.1 == cluster) = [] := by
        rw [List.filter_eq_nil_iff]
        intro item member
        obtain ⟨span, _, rfl⟩ := List.mem_map.mp member
        simp [same]
      rw [other, List.nil_append]
      simp [Ne.symm same]

theorem bufferedGaps_filter (observations : List CaptureObservation) (cluster : String) :
    (bufferedGaps observations).filter (fun gap => gap.1 == cluster) =
      (closedByCluster (fun _ => none) observations).filter fun gap => gap.1 == cluster := by
  rw [closedByCluster_filter]
  unfold bufferedGaps observationsByCluster
  rw [List.flatMap_map, flatMap_filter_key (Dict.ofPairs_nodup _)
    (fun key => closedGaps none (observations.filter fun observation =>
      observation.clusterId == key))]
  split
  · rfl
  next absent =>
    have none : observations.filter (fun observation => observation.clusterId == cluster) = [] := by
      rw [List.filter_eq_nil_iff]
      intro observation member same
      refine absent (Dict.mem_keys_ofPairs.mpr ?_)
      rw [List.map_map]
      exact List.mem_map.mpr ⟨observation, member, beq_iff_eq.mp same⟩
    rw [none]
    rfl

theorem bufferedGaps_perm (observations : List CaptureObservation) :
    (bufferedGaps observations).Perm (closedByCluster (fun _ => none) observations) := by
  rw [List.perm_iff_count]
  intro gap
  have counted (gaps : List (String × Int × Int)) :
      gaps.count gap = (gaps.filter fun other => other.1 == gap.1).count gap :=
    (List.count_filter (by simp)).symm
  rw [counted, bufferedGaps_filter, ← counted]

theorem mem_scopesOf (member : scope ∈ request.scopesOf cluster) : scope.clusterId = cluster := by
  have among := (List.mem_insertionSort _).mp member
  have both := (List.mem_filter.mp among).2
  rw [Bool.and_eq_true, beq_iff_eq] at both
  exact both.1

theorem mem_gapItems {gap : String × Int × Int} (member : item ∈ gapItems runtime request gap) :
    item.scope.clusterId = gap.1 := by
  unfold gapItems at member
  dsimp only at member
  split at member
  · obtain ⟨scope, among, rfl⟩ := List.mem_map.mp member
    exact mem_scopesOf among
  · cases member

instance : Std.TransCmp compareCoverage := by
  unfold compareCoverage
  infer_instance

theorem cluster_of_equal {one other : TimelineCoverage}
    (less : (compareCoverage one other).isLE = true)
    (more : (compareCoverage other one).isLE = true) :
    one.scope.clusterId = other.scope.clusterId := by
  have equal := Std.OrientedCmp.isLE_antisymm less more
  unfold compareCoverage at equal
  simp only [compareLex_eq_eq, compareOn] at equal
  exact Std.LawfulEqOrd.eq_of_compare equal.2.2.2.1

theorem filter_equal_items (gaps : List (String × Int × Int)) (item : TimelineCoverage) :
    (gaps.flatMap (gapItems runtime request)).filter
        (fun other => (compareCoverage item other).isLE = true ∧
          (compareCoverage other item).isLE = true) =
      ((gaps.filter fun gap => gap.1 == item.scope.clusterId).flatMap
        (gapItems runtime request)).filter
        fun other => (compareCoverage item other).isLE = true ∧
          (compareCoverage other item).isLE = true := by
  induction gaps with
  | nil => rfl
  | cons gap gaps ih =>
    rw [List.flatMap_cons, List.filter_append, ih]
    by_cases same : gap.1 = item.scope.clusterId
    · rw [List.filter_cons_of_pos (by simpa using same), List.flatMap_cons, List.filter_append]
    · have none : (gapItems runtime request gap).filter
          (fun other => (compareCoverage item other).isLE = true ∧
            (compareCoverage other item).isLE = true) = [] := by
        rw [List.filter_eq_nil_iff]
        intro other member equal
        obtain ⟨less, more⟩ := of_decide_eq_true equal
        exact same ((mem_gapItems member).symm.trans (cluster_of_equal less more).symm)
      rw [none, List.nil_append, List.filter_cons_of_neg (by simpa using same)]

theorem sortedCoverage_gaps {left right : List (String × Int × Int)}
    (same : ∀ cluster, left.filter (fun gap => gap.1 == cluster) = right.filter fun gap =>
      gap.1 == cluster) :
    sortedCoverage (left.flatMap (gapItems runtime request)) =
      sortedCoverage (right.flatMap (gapItems runtime request)) := by
  refine insertionSort_eq_of_classes ?_ ?_ fun item => ?_
  · intro one other
    have swapped : compareCoverage other one = (compareCoverage one other).swap :=
      Std.OrientedCmp.eq_swap
    rw [swapped]
    cases compareCoverage one other <;> simp
  · intro one two three
    exact Std.TransCmp.isLE_trans
  · rw [filter_equal_items, same, ← filter_equal_items]

end permutations

section agreement
variable {runtime : CaptureRuntime} {request : CoverageRequest}

/-- No gap that is closed begins before the epoch, and in milliseconds too each ends after it
begins. -/
def Representable (runtime : CaptureRuntime) (observations : List CaptureObservation) : Prop :=
  ∀ gap ∈ closedByCluster (fun _ => none) observations, 0 ≤ runtime.milliseconds gap.2.1 ∧
    runtime.milliseconds gap.2.1 < runtime.milliseconds gap.2.2

theorem closedByCluster_valid {observations : List CaptureObservation}
    (representable : Representable runtime observations)
    (member : item ∈ (closedByCluster (fun _ => none) observations).flatMap
      (gapItems runtime request)) :
    item.check = true := by
  obtain ⟨gap, closed, among⟩ := List.mem_flatMap.mp member
  have bounds := representable gap closed
  unfold gapItems at among
  dsimp only at among
  split at among
  · obtain ⟨scope, _, rfl⟩ := List.mem_map.mp among
    simp only [TimelineCoverage.check, Bool.and_eq_true, decide_eq_true_eq]
    omega
  · cases among

theorem coverage_projections_agree (runtime : CaptureRuntime) (request : CoverageRequest)
    (snapshots : List Entries)
    (inOrder : InOrder (snapshots.filterMap (captureObservation runtime request))) :
    let project := projectKubernetesEventCaptureCoverage runtime request snapshots
    (∃ coverage, project true = .ok coverage ∧ project false = .ok coverage) ∨
      ∃ one other, project true = .error one ∧ project false = .error other ∧
        (one = .limitExceeded ∨ one = .validationError) ∧
        (other = .limitExceeded ∨ other = .validationError) ∧
        (Representable runtime (snapshots.filterMap (captureObservation runtime request)) →
          one = .limitExceeded ∧ other = .limitExceeded) := by
  generalize isObservations : snapshots.filterMap (captureObservation runtime request) =
    observations at inOrder
  intro project
  have ordered : project true = _ :=
    (congrArg (projectOrderedCaptureCoverage runtime request) isObservations).trans
    (ordered_pushes inOrder)
  have buffered : project false = _ :=
    (congrArg (projectBufferedCaptureCoverage runtime request) isObservations).trans
    (buffered_pushes inOrder)
  have regrouped : (observationsByCluster observations).flatMap (groupItems runtime request) =
      (bufferedGaps observations).flatMap (gapItems runtime request) := List.flatMap_assoc.symm
  have permuted := (bufferedGaps_perm observations).flatMap_right (gapItems runtime request)
  rw [regrouped] at buffered
  by_cases fits : Fits request 0 ((closedByCluster (fun _ => none) observations).flatMap
    (gapItems runtime request))
  · left
    refine ⟨_, ordered.trans (congrArg (Except.map sortedCoverage) (push_fits fits)),
      (buffered.trans (congrArg (Except.map sortedCoverage)
        (push_fits (fits.perm permuted.symm)))).trans ?_⟩
    exact congrArg Except.ok (sortedCoverage_gaps (bufferedGaps_filter observations))
  · right
    have crowded :
        ¬ Fits request 0 ((bufferedGaps observations).flatMap (gapItems runtime request)) :=
      fun small => fits (small.perm permuted)
    obtain ⟨one, oneRaised, oneKind, oneLimit⟩ := push_error [] fits
    obtain ⟨other, otherRaised, otherKind, otherLimit⟩ := push_error [] crowded
    refine ⟨one, other, ordered.trans (congrArg (Except.map sortedCoverage) oneRaised),
      buffered.trans (congrArg (Except.map sortedCoverage) otherRaised), oneKind, otherKind,
      fun representable => ?_⟩
    have valid :
        ∀ item ∈ (closedByCluster (fun _ => none) observations).flatMap (gapItems runtime request),
          item.check = true := fun _ member => closedByCluster_valid representable member
    exact ⟨oneLimit valid, otherLimit fun item member => valid item (permuted.mem_iff.mp member)⟩

def sampleTimes : String → Option Int
  | "1969-12-31T23:59:59Z" => some (-1000000)
  | "1970-01-01T00:00:01Z" => some 1000000
  | "1970-01-01T00:00:02Z" => some 2000000
  | _ => none

def sampleRuntime : CaptureRuntime :=
  ⟨fun _ => "", fun _ => none, sampleTimes, fun microseconds => microseconds.tdiv 1000⟩

def sampleRequest : CoverageRequest :=
  ⟨["c"], [{ workspaceId := "w", clusterId := "c" }], ⟨0, 5000⟩, some 10⟩

def captureSnapshot (capture : Entries) : Entries :=
  [(.str "cluster_id", textValue "c"),
    (.str "summary",
      .dict [(.str "summary", .dict [(.str "kubernetes_event_capture", .dict capture)])])]

def gapSnapshot (observedAt : String) : Entries :=
  captureSnapshot [(.str "complete", .scalar (.bool false)),
    (.str "truncated", .scalar (.bool false)), (.str "reason", textValue "timeout"),
    (.str "freshness", .dict [(.str "observed_at", textValue observedAt)]),
    (.str "coverage", .dict [(.str "gap", textValue "timeout"),
      (.str "scope", textValue "all_namespaces"), (.str "pagination", textValue "continue")])]

def recoverySnapshot (observedAt : String) : Entries :=
  captureSnapshot [(.str "complete", .scalar (.bool true)),
    (.str "truncated", .scalar (.bool false)), (.str "reason", textValue "complete"),
    (.str "freshness", .dict [(.str "observed_at", textValue observedAt),
      (.str "max_age_seconds", .scalar (.int 60))]),
    (.str "coverage", .dict [(.str "scope", textValue "all_namespaces"),
      (.str "pagination", textValue "continue"), (.str "page_count", .scalar (.int 1)),
      (.str "event_count", .scalar (.int 0)), (.str "resource_version", textValue "7")])]

theorem coverage_projections_agree_sample :
    let project := projectKubernetesEventCaptureCoverage sampleRuntime sampleRequest
      [gapSnapshot "1970-01-01T00:00:01Z", recoverySnapshot "1970-01-01T00:00:02Z"]
    project true = project false := by
  have observed : [gapSnapshot "1970-01-01T00:00:01Z",
      recoverySnapshot "1970-01-01T00:00:02Z"].filterMap
      (captureObservation sampleRuntime sampleRequest) =
        [⟨"c", 1000000, .gap⟩, ⟨"c", 2000000, .recovery⟩] := by
    decide +kernel
  have agreed := coverage_projections_agree sampleRuntime sampleRequest _ (by
    rw [observed]
    simp [InOrder])
  obtain ⟨coverage, one, other⟩ | ⟨one, other, oneRaised, otherRaised, _, _, limits⟩ := agreed
  · exact one.trans other.symm
  · rw [observed] at limits
    obtain ⟨rfl, rfl⟩ := limits (by unfold Representable; decide)
    exact oneRaised.trans otherRaised.symm

/-- A gap that began before the epoch makes an interval that the contract refuses, in both modes. -/
theorem early_gap_refused :
    let snapshots := [gapSnapshot "1969-12-31T23:59:59Z", recoverySnapshot "1970-01-01T00:00:01Z"]
    let project := projectKubernetesEventCaptureCoverage sampleRuntime sampleRequest snapshots
    InOrder (snapshots.filterMap (captureObservation sampleRuntime sampleRequest)) ∧
      project true = .error .validationError ∧ project false = .error .validationError := by
  intro snapshots project
  have observed : snapshots.filterMap (captureObservation sampleRuntime sampleRequest) =
      [⟨"c", -1000000, .gap⟩, ⟨"c", 1000000, .recovery⟩] := by decide +kernel
  refine ⟨?_, ?_, ?_⟩
  · rw [observed]
    simp [InOrder]
  · unfold project projectKubernetesEventCaptureCoverage
    dsimp only
    rw [observed, if_pos rfl]
    decide +kernel
  · unfold project projectKubernetesEventCaptureCoverage
    dsimp only
    rw [observed, if_neg Bool.false_ne_true]
    decide +kernel

end agreement

end K8sOps.Timeline
