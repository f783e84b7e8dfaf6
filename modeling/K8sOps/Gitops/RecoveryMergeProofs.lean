import K8sOps.Gitops.DiffingProofs
import K8sOps.Gitops.FieldPathSyntax
import K8sOps.Gitops.RecoveryMerge
import K8sOps.Gitops.SourcePatchProofs

/-! An accepted diff changes the cluster only by the approved scalars: a field
that Git still has to change becomes its live value with exactly the approved
scalars at or below it moved to their desired values. -/
namespace K8sOps.Gitops
open Python Focus

/-- What a stored contract guarantees about its changes. -/
structure ValidContract (approved : List ApprovedChange) : Prop where
  distinct : (approved.map (·.path)).Nodup
  parsed : ∀ change ∈ approved, fieldPathSegments change.path ≠ []
  current : ∀ change ∈ approved, scalarValue change.current = true
  desired : ∀ change ∈ approved, scalarValue change.desired = true
  moves : ∀ change ∈ approved, change.current.sameScalar change.desired = false

theorem addApproved_valid (valid : ValidContract approved)
    (added : addApproved codec approved item = some result) : ValidContract result := by
  unfold addApproved at added
  split at added
  next entries =>
    dsimp only at added
    split at added
    next => cases added
    next accepted =>
      cases added
      simp only [not_or, Bool.not_eq_true', Bool.not_eq_false, Bool.not_eq_true] at accepted
      obtain ⟨_, fresh, parsed, current, desired, moves⟩ := accepted
      have extend {P : ApprovedChange → Prop} (old : ∀ change ∈ approved, P change)
          {new : ApprovedChange} (last : P new) : ∀ change ∈ approved ++ [new], P change := by
        intro change member
        obtain before | after := List.mem_append.mp member
        · exact old change before
        · rw [List.mem_singleton.mp after]
          exact last
      refine ⟨?_, extend valid.parsed parsed, extend valid.current current,
        extend valid.desired desired, extend valid.moves moves⟩
      rw [List.map_append, List.map_singleton]
      exact List.nodup_append.mpr ⟨valid.distinct, List.nodup_singleton _, by
        intro path old other new same
        rw [same, List.mem_singleton.mp new] at old
        exact fresh old⟩
  next => cases added

theorem foldlM_addApproved_valid (valid : ValidContract approved)
    (added : List.foldlM (addApproved codec) approved items = some result) :
    ValidContract result := by
  induction items generalizing approved with
  | nil =>
    cases added
    exact valid
  | cons item items ih =>
    rw [List.foldlM_cons] at added
    obtain ⟨middle, first, later⟩ := Option.bind_eq_some_iff.mp added
    exact ih (addApproved_valid valid first) later

theorem approvedChangeContract_valid
    (stored : approvedChangeContract codec payload = some approved) :
    ValidContract approved := by
  unfold approvedChangeContract at stored
  split at stored
  next items =>
    split at stored
    next =>
      have empty : ValidContract [] := ⟨List.nodup_nil, by simp, by simp, by simp, by simp⟩
      exact foldlM_addApproved_valid empty stored
    next => cases stored
  next => cases stored

/-- The contract's desired values, read from the manifest that will be applied. -/
def ManifestHolds (approved : List ApprovedChange) (desired : Entries) : Prop :=
  ∀ change ∈ approved, ∃ found, objectValueAt (.dict desired) (fieldPathSegments change.path) =
    .ok found ∧ found.sameScalar change.desired = true

theorem manifestHolds_iff : manifestHolds desired change = true ↔
    ∃ found, objectValueAt (.dict desired) (fieldPathSegments change.path) = .ok found ∧
      found.sameScalar change.desired = true := by
  unfold manifestHolds
  split <;> simp_all

theorem path_injective (valid : ValidContract approved) (oneIn : one ∈ approved)
    (twoIn : two ∈ approved) (same : one.path = two.path) : one = two :=
  List.inj_on_of_nodup_map valid.distinct oneIn twoIn same

theorem isBelow_text (below : isBelow parent path = true) :
    path.toList = parent.toList ++ '.' :: path.toList.drop (parent.toList.length + 1) := by
  unfold isBelow startsWith at below
  obtain ⟨rest, text⟩ := List.isPrefixOf_iff_prefix.mp below
  rw [String.toList_append] at text
  have dot : ".".toList = ['.'] := rfl
  rw [← text, dot]
  simp

theorem below_segments (parsed : fieldPathSegments path ≠ []) (below : isBelow parent path = true)
    (balanced : fieldPathSegments parent ≠ [] ∨ relativeSegments parent path ≠ []) :
    relativeSegments parent path ≠ [] ∧
      fieldPathSegments path = fieldPathSegments parent ++ relativeSegments parent path := by
  have text : path.toList = parent.toList ++
      '.' :: (String.ofList (path.toList.drop (parent.toList.length + 1))).toList := by
    rw [String.toList_ofList]
    exact isBelow_text below
  have cut := fieldPathSegments_cut parsed text balanced
  exact ⟨cut.2.1, cut.2.2⟩

/-- The location of an approved path inside the value of a managed path. -/
def relativeLocation (parent path : String) : List Step :=
  if path = parent then [] else location (relativeSegments parent path)

/-- `result` is `live` with exactly the approved scalars at or below the path
moved from their current to their desired values. -/
def MovedTo (path : String) (approved : List ApprovedChange) (live result : Value) : Prop :=
  ∃ changes, changes.Perm (matchedChanges path approved) ∧ changes ≠ [] ∧
    (changes.Pairwise fun one two =>
      Apart (relativeLocation path one.path) (relativeLocation path two.path)) ∧
    (∀ change ∈ changes, ∃ found,
      Value.access.read (relativeLocation path change.path) live = some found ∧
        found.sameScalar change.current = true) ∧
    Value.access.writeAll
      (changes.map fun change => (relativeLocation path change.path, change.desired)) live =
        some result

theorem projectChange_ok (below : isBelow parent change.path = true)
    (projected : projectChange parent source change = .ok result) :
    relativeSegments parent change.path ≠ [] ∧ ∃ found,
      objectValueAt source (relativeSegments parent change.path) = .ok found ∧
      found.sameScalar change.current = true ∧
      setObjectValue change.desired (relativeSegments parent change.path) source = .ok result := by
  unfold projectChange at projected
  rw [if_pos below] at projected
  dsimp only at projected
  split at projected
  next => cases projected
  next nonempty =>
    obtain ⟨found, read, projected⟩ := bind_eq_ok.mp projected
    split at projected
    next same => exact ⟨nonempty, found, read, same, projected⟩
    next => cases projected

def editBelow (parent : String) (change : ApprovedChange) : List Step × Value :=
  (location (relativeSegments parent change.path), change.desired)

section Contract
variable {approved : List ApprovedChange} {desired : Entries} (valid : ValidContract approved)
  (holds : ManifestHolds approved desired)
include valid holds

theorem manifest_scalar (member : change ∈ approved) : ∃ found,
      Value.access.read (location (fieldPathSegments change.path)) (.dict desired) =
        some (.scalar found) ∧ (Value.scalar found).sameScalar change.desired = true := by
  obtain ⟨found, read, same⟩ := holds change member
  obtain ⟨wanted, isScalar⟩ := scalar_of_scalarValue (valid.desired change member)
  obtain ⟨scalar, rfl, _⟩ := Value.scalar_of_sameScalar (isScalar ▸ same)
  exact ⟨scalar, objectValueAt_ok.mp read, same⟩

theorem approved_apart (oneIn : one ∈ approved) (twoIn : two ∈ approved) (different : one ≠ two) :
    Apart (location (fieldPathSegments one.path)) (location (fieldPathSegments two.path)) := by
  obtain ⟨first, firstRead, _⟩ := manifest_scalar valid holds oneIn
  obtain ⟨second, secondRead, _⟩ := manifest_scalar valid holds twoIn
  refine location_apart (fun same => different ?_) firstRead secondRead
  exact path_injective valid oneIn twoIn (fieldPathSegments_injective (valid.parsed one oneIn) same)

theorem approved_not_below (oneIn : one ∈ approved) (twoIn : two ∈ approved) :
    isBelow one.path two.path = false := by
  by_contra below
  have below : isBelow one.path two.path = true := by simpa using below
  obtain ⟨nonempty, segments⟩ := below_segments (valid.parsed two twoIn) below
    (.inl (valid.parsed one oneIn))
  have leads : location (fieldPathSegments one.path) <+: location (fieldPathSegments two.path) := by
    rw [segments, location_append]
    exact List.prefix_append _ _
  have different : one ≠ two := by
    rintro rfl
    exact nonempty (by simpa using segments)
  exact (approved_apart valid holds oneIn twoIn different).1 leads

/-- Moving a scalar from the current to a different desired value never renames
the entry that the path selects it by. -/
theorem approved_not_name (member : change ∈ approved)
    (segments : fieldPathSegments change.path = above ++ relative)
    (read : Value.access.read (location relative) live = some found)
    (current : found.sameScalar change.current = true) : ¬ endsAtName relative := by
  intro ends
  obtain ⟨name, reads⟩ := read_name ends
  obtain ⟨stored, manifest, wanted⟩ := manifest_scalar valid holds member
  rw [segments, location_append] at manifest
  rw [reads _ _ _ manifest] at wanted
  rw [reads [] live found (by simpa using read)] at current
  have moves := valid.moves change member
  rw [Value.sameScalar_str wanted, Value.sameScalar_str current] at moves
  simp [Value.sameScalar, Scalar.sameType, Scalar.equal, Scalar.isNan, Scalar.same] at moves

theorem below_apart (oneIn : one ∈ approved) (twoIn : two ∈ approved) (different : one ≠ two)
    (oneBelow : isBelow parent one.path = true) (twoBelow : isBelow parent two.path = true)
    (oneParsed : relativeSegments parent one.path ≠ [])
    (twoParsed : relativeSegments parent two.path ≠ []) :
    Apart (location (relativeSegments parent one.path))
      (location (relativeSegments parent two.path)) := by
  have apart := approved_apart valid holds oneIn twoIn different
  rw [(below_segments (valid.parsed one oneIn) oneBelow (.inr oneParsed)).2,
    (below_segments (valid.parsed two twoIn) twoBelow (.inr twoParsed)).2,
    location_append, location_append] at apart
  exact ⟨fun leads => apart.1 ((List.prefix_append_right_inj _).mpr leads),
    fun leads => apart.2 ((List.prefix_append_right_inj _).mpr leads)⟩

/-- The projection moves the approved scalars below its parent. -/
theorem foldlM_projectChange {changes : List ApprovedChange}
    (among : ∀ change ∈ changes, change ∈ approved)
    (below : ∀ change ∈ changes, isBelow parent change.path = true) (distinct : changes.Nodup)
    (projected : changes.foldlM (projectChange parent) source = .ok result) :
    (∀ change ∈ changes, relativeSegments parent change.path ≠ [] ∧ ∃ found,
      Value.access.read (location (relativeSegments parent change.path)) source = some found ∧
        found.sameScalar change.current = true) ∧
    Value.access.writeAll (changes.map (editBelow parent)) source = some result := by
  induction changes generalizing source with
  | nil =>
    cases projected
    exact ⟨by simp, rfl⟩
  | cons change changes ih =>
    rw [List.foldlM_cons] at projected
    obtain ⟨middle, first, later⟩ := bind_eq_ok.mp projected
    obtain ⟨fresh, distinct⟩ := List.nodup_cons.mp distinct
    have changeIn := among change List.mem_cons_self
    have changeBelow := below change List.mem_cons_self
    obtain ⟨nonempty, found, read, current, assigned⟩ := projectChange_ok changeBelow first
    have stored := objectValueAt_ok.mp read
    have permitted := approved_not_name valid holds changeIn
      (below_segments (valid.parsed change changeIn) changeBelow (.inr nonempty)).2 stored current
    have written := setObjectValue_write assigned stored permitted
    obtain ⟨reads, writes⟩ := ih (fun other member => among other (List.mem_cons_of_mem _ member))
      (fun other member => below other (List.mem_cons_of_mem _ member)) distinct later
    constructor
    · intro other member
      obtain rfl | member := List.mem_cons.mp member
      · exact ⟨nonempty, found, stored, current⟩
      · obtain ⟨otherParsed, value, otherRead, same⟩ := reads other member
        have different : change ≠ other := fun equal => fresh (equal ▸ member)
        have apart := below_apart valid holds changeIn (among other (List.mem_cons_of_mem _ member))
          different changeBelow (below other (List.mem_cons_of_mem _ member)) nonempty otherParsed
        rw [Access.read_write_apart apart written] at otherRead
        exact ⟨otherParsed, value, otherRead, same⟩
    · rw [List.map_cons, editBelow, Access.writeAll, written, Option.bind_some]
      exact writes

end Contract

theorem textOf_str (codec : TextCodec) (text : String) :
    textOf codec (.scalar (.str text)) = strip text := by
  by_cases empty : text = ""
  · subst empty
    rfl
  · simp [textOf, truthy, empty, TextCodec.toText]

theorem strip_label (classification : Classification) :
    strip classification.label = classification.label := by
  cases classification <;> decide

theorem label_injective {one two : Classification} (same : one.label = two.label) : one = two := by
  revert same
  cases one <;> cases two <;> decide

theorem toEntries_path (codec : TextCodec) (change : FieldChange) :
    getText codec "field_path" change.toEntries = strip change.fieldPath := textOf_str codec _

theorem toEntries_classification (codec : TextCodec) (change : FieldChange) :
    getText codec "classification" change.toEntries = change.classification.label :=
  (textOf_str codec _).trans (strip_label _)

theorem find_by_path {changes : List ApprovedChange} (distinct : (changes.map (·.path)).Nodup)
    (member : change ∈ changes) : changes.find? (·.path = change.path) = some change := by
  cases found : changes.find? (·.path = change.path) with
  | none => simpa using List.find?_eq_none.mp found change member
  | some other =>
    have same : other.path = change.path := by simpa using List.find?_some found
    rw [List.inj_on_of_nodup_map distinct (List.mem_of_find?_eq_some found) member same]

theorem scopedChanges_perm (codec : TextCodec) {matched : List ApprovedChange}
    (distinct : (matched.map (·.path)).Nodup) : (scopedChanges codec matched).Perm matched := by
  have ordered : ((matched.map (·.path)).filterMap fun path => matched.find? (·.path = path)) =
      matched := by
    rw [List.filterMap_map]
    calc matched.filterMap ((fun path => matched.find? (·.path = path)) ∘ (·.path))
        = matched.filterMap some :=
          List.filterMap_congr fun change member => find_by_path distinct member
      _ = matched := List.filterMap_some
  have perm := (codec.setOrder_perm (matched.map (·.path))).filterMap
    fun path => matched.find? (·.path = path)
  rwa [ordered] at perm

theorem matchedChanges_sublist (path : String) (approved : List ApprovedChange) :
    (matchedChanges path approved).Sublist approved := List.filter_sublist

theorem relativeLocation_below (below : isBelow parent path = true) :
    relativeLocation parent path = location (relativeSegments parent path) := by
  unfold relativeLocation
  refine if_neg fun same => ?_
  have text := congrArg List.length (isBelow_text below)
  rw [same] at text
  simp at text

theorem moved_exact (valid : ValidContract approved)
    (exact_ : exactChange path (matchedChanges path approved) = some only)
    (before : live.sameScalar only.current = true) (after : new.sameScalar only.desired = true) :
    ∃ moved, MovedTo path approved live moved ∧ moved.equal new = true := by
  unfold exactChange at exact_
  split at exact_
  next change single =>
    simp only [Option.ite_none_right_eq_some, Option.some.injEq] at exact_
    obtain ⟨here, rfl⟩ := exact_
    have member : change ∈ approved :=
      (matchedChanges_sublist path approved).subset (single ▸ List.mem_singleton_self change)
    obtain ⟨wanted, isScalar⟩ := scalar_of_scalarValue (valid.desired change member)
    rw [isScalar] at after
    obtain ⟨found, rfl, _, equal⟩ := Value.scalar_of_sameScalar after
    have root : relativeLocation path change.path = [] := if_pos here
    refine ⟨change.desired, ⟨[change], single ▸ List.Perm.refl _, List.cons_ne_nil _ _,
      List.pairwise_singleton _ _, ?_, ?_⟩, ?_⟩
    · intro other among
      rw [List.mem_singleton.mp among, root]
      exact ⟨live, rfl, before⟩
    · simp [root, Access.writeAll, Access.write]
    · rw [isScalar]
      exact Scalar.equal_symm equal
  next => cases exact_

theorem foldlM_coverChange (codec : TextCodec) {changes : List Value}
    (covered : changes.foldlM (coverChange codec approved) state = some result) :
    (∀ raw ∈ changes, ∃ entries matched, raw = .dict entries ∧
      approvedChangeMatchesDiff codec entries approved = some matched) ∧
    ∀ path ∈ result.1, path ∈ state.1 ∨ ∃ entries matched, .dict entries ∈ changes ∧
      approvedChangeMatchesDiff codec entries approved = some matched ∧ path ∈ matched := by
  induction changes generalizing state with
  | nil =>
    cases covered
    exact ⟨by simp, fun path member => .inl member⟩
  | cons raw changes ih =>
    rw [List.foldlM_cons] at covered
    obtain ⟨middle, first, later⟩ := Option.bind_eq_some_iff.mp covered
    obtain ⟨others, sources⟩ := ih later
    unfold coverChange at first
    split at first
    next entries =>
      split at first
      next => cases first
      next matched accepted =>
        cases first
        constructor
        · intro other member
          obtain rfl | member := List.mem_cons.mp member
          · exact ⟨entries, matched, rfl, accepted⟩
          · exact others other member
        · intro path member
          obtain before | ⟨source, paths, among, found, inside⟩ := sources path member
          · obtain old | new := List.mem_append.mp before
            · exact .inl old
            · exact .inr ⟨entries, matched, List.mem_cons_self, accepted, new⟩
          · exact .inr ⟨source, paths, List.mem_cons_of_mem _ among, found, inside⟩
    next => cases first

section Accepted
variable {approved : List ApprovedChange} {desired : Entries} (codec : TextCodec)
  (valid : ValidContract approved) (holds : ManifestHolds approved desired)
include valid holds

theorem matched_below (inexact : exactChange path (matchedChanges path approved) = none)
    (member : change ∈ matchedChanges path approved) : isBelow path change.path = true := by
  obtain ⟨changeIn, matched⟩ := List.mem_filter.mp member
  by_contra notBelow
  have exact_ : change.path = path := by simpa [notBelow] using matched
  have only : ∀ other ∈ matchedChanges path approved, other = change := by
    intro other otherMember
    obtain ⟨otherIn, otherMatched⟩ := List.mem_filter.mp otherMember
    have notUnder := approved_not_below valid holds changeIn otherIn
    rw [exact_] at notUnder
    have same : other.path = path := by simpa [notUnder] using otherMatched
    exact path_injective valid otherIn changeIn (same.trans exact_.symm)
  have distinct : (matchedChanges path approved).Nodup :=
    (List.Nodup.of_map _ valid.distinct).sublist (matchedChanges_sublist path approved)
  have single : matchedChanges path approved = [change] := by
    refine List.perm_singleton.mp ?_
    refine (List.perm_ext_iff_of_nodup distinct (List.nodup_singleton _)).mpr fun other => ?_
    rw [List.mem_singleton]
    exact ⟨only other, fun same => same ▸ member⟩
  rw [single, exactChange, if_pos exact_] at inexact
  cases inexact

theorem moved_parent (nonempty : matchedChanges path approved ≠ [])
    (inexact : exactChange path (matchedChanges path approved) = none)
    (projects : projectsTo live path (scopedChanges codec (matchedChanges path approved)) new =
      true) :
    ∃ moved, MovedTo path approved live moved ∧ moved.equal new = true := by
  have sublist := matchedChanges_sublist path approved
  have perm := scopedChanges_perm codec (valid.distinct.sublist (sublist.map _))
  have distinct : (scopedChanges codec (matchedChanges path approved)).Nodup :=
    perm.nodup_iff.mpr ((List.Nodup.of_map _ valid.distinct).sublist sublist)
  have below : ∀ change ∈ scopedChanges codec (matchedChanges path approved),
      isBelow path change.path = true :=
    fun change member => matched_below valid holds inexact (perm.mem_iff.mp member)
  have among : ∀ change ∈ scopedChanges codec (matchedChanges path approved), change ∈ approved :=
    fun change member => sublist.subset (perm.mem_iff.mp member)
  unfold projectsTo projectedParentValue at projects
  split at projects
  next moved projected =>
    split at projected
    next =>
      obtain ⟨reads, writes⟩ := foldlM_projectChange valid holds among below distinct projected
      refine ⟨moved, ⟨_, perm, ?_, ?_, ?_, ?_⟩, projects⟩
      · intro empty
        rw [empty] at perm
        exact nonempty perm.symm.eq_nil
      · refine distinct.imp_of_mem ?_
        intro one two oneIn twoIn different
        rw [relativeLocation_below (below one oneIn), relativeLocation_below (below two twoIn)]
        exact below_apart valid holds (among one oneIn) (among two twoIn) different
          (below one oneIn) (below two twoIn) (reads one oneIn).1 (reads two twoIn).1
      · intro change member
        rw [relativeLocation_below (below change member)]
        exact (reads change member).2
      · have edits : (scopedChanges codec (matchedChanges path approved)).map (fun change =>
            (relativeLocation path change.path, change.desired)) =
              (scopedChanges codec (matchedChanges path approved)).map (editBelow path) :=
          List.map_congr_left fun change member => by
            rw [relativeLocation_below (below change member), editBelow]
        rw [← writes, edits]
    next => cases projected
  next => cases projects

/-- A reported change that the contract accepts is converged or moves exactly
what was approved. -/
theorem approvedChangeMatchesDiff_sound (change : FieldChange)
    (trimmed : strip change.fieldPath = change.fieldPath)
    (accepted : approvedChangeMatchesDiff codec change.toEntries approved = some matched) :
    (change.classification = .alreadyConverged ∨
      ∃ moved, MovedTo change.fieldPath approved change.live moved ∧
        moved.equal change.newDesired = true) ∧
    ∀ path ∈ matched, path = change.fieldPath ∨ isBelow change.fieldPath path = true := by
  unfold approvedChangeMatchesDiff at accepted
  dsimp only at accepted
  rw [toEntries_path, trimmed, toEntries_classification] at accepted
  change (if (matchedChanges change.fieldPath approved).isEmpty = true then _ else _) =
    _ at accepted
  split at accepted
  next =>
    split at accepted
    next converged =>
      cases accepted
      exact ⟨.inl (label_injective converged), by simp⟩
    next => cases accepted
  next nonempty =>
    have found : matchedChanges change.fieldPath approved ≠ [] := by simpa using nonempty
    split at accepted
    next => cases accepted
    next permitted =>
      simp only [Option.ite_none_right_eq_some, Option.some.injEq] at accepted
      obtain ⟨confirmed, rfl⟩ := accepted
      constructor
      · by_cases converged : change.classification = .alreadyConverged
        · exact .inl converged
        · right
          have notConverged : change.classification.label ≠ Classification.alreadyConverged.label :=
            fun same => converged (label_injective same)
          have intended : change.classification.label = Classification.intendedChange.label := by
            by_contra other
            exact permitted ⟨other, notConverged⟩
          split at confirmed
          next only exact_ =>
            simp only [intended, if_true, Bool.and_eq_true] at confirmed
            exact moved_exact valid exact_ confirmed.2 confirmed.1.2
          next inexact =>
            simp only [intended, if_true, Bool.and_eq_true] at confirmed
            exact moved_parent codec valid holds found inexact confirmed.2
      · intro path member
        obtain ⟨entry, among, rfl⟩ := List.mem_map.mp member
        simpa using (List.mem_filter.mp among).2

end Accepted

/-- The diff of a comparison, with the other parts of a rendered diff. -/
def comparedDiff (diff : Diff) (old : Option ManagedFields) (live new : ManagedFields) : Diff :=
  let changes := compareManagedFields old live new none []
  { diff with
    hasChanges := changes.any (·.classification ≠ .alreadyConverged),
    status := summarizeStatus changes,
    changes := changes.map fun change => .dict change.toEntries }

theorem applyFieldPolicy_default (values : ManagedFields) :
    applyFieldPolicy none [] values = values := by
  obtain ⟨fields, distinct, trimmed⟩ := values
  simp [applyFieldPolicy]

theorem compareManagedFields_default (old : Option ManagedFields) (live new : ManagedFields) :
    compareManagedFields old live new none [] =
      ((managedPaths old live new).map (fieldChange old live new)).filter
        (·.classification ≠ .noChange) := by
  have same : old.map (applyFieldPolicy none []) = old := by
    cases old <;> simp [applyFieldPolicy_default]
  simp only [compareManagedFields, applyFieldPolicy_default, same]

theorem managedPaths_trimmed (member : path ∈ managedPaths old live new) : strip path = path := by
  have known (values : ManagedFields) (among : path ∈ values.fields.map Prod.fst) :
      strip path = path := by
    obtain ⟨entry, stored, rfl⟩ := List.mem_map.mp among
    exact values.trimmed entry stored
  simp only [managedPaths, List.mem_insertionSort, List.mem_dedup, List.mem_append] at member
  obtain (inOld | inLive) | inNew := member
  · cases old with
    | none => cases inOld
    | some old => exact known old inOld
  · exact known live inLive
  · exact known new inNew

theorem unsatisfied_reported (member : path ∈ managedPaths old live new)
    (unsatisfied : declaredValueMatchesLive (valueOrMissing new path) (valueOrMissing live path) =
      false) :
    fieldChange old live new path ∈ compareManagedFields old live new none [] ∧
      (fieldChange old live new path).classification ≠ .alreadyConverged := by
  have pending : ¬ ((fieldChange old live new path).classification = .noChange ∨
      (fieldChange old live new path).classification = .alreadyConverged) := by
    intro satisfied
    rw [classify_clean_iff.mp satisfied] at unsatisfied
    cases unsatisfied
  rw [not_or] at pending
  refine ⟨?_, pending.2⟩
  rw [compareManagedFields_default]
  exact List.mem_filter.mpr ⟨List.mem_map_of_mem member, by simpa using pending.1⟩

theorem reported_trimmed (member : change ∈ compareManagedFields old live new none []) :
    strip change.fieldPath = change.fieldPath := by
  rw [compareManagedFields_default] at member
  obtain ⟨path, among, rfl⟩ := List.mem_map.mp (List.mem_filter.mp member).1
  exact managedPaths_trimmed among

/-- What the loop over the reported changes has established when it accepts. -/
theorem changesCovered_sound (codec : TextCodec) (valid : ValidContract approved)
    (holds : ManifestHolds approved desired) {changes : List FieldChange}
    (trimmed : ∀ change ∈ changes, strip change.fieldPath = change.fieldPath)
    (covered : changesCovered codec approved (changes.map fun change => .dict change.toEntries) =
      true) :
    (∀ change ∈ changes, change.classification = .alreadyConverged ∨
      ∃ moved, MovedTo change.fieldPath approved change.live moved ∧
        moved.equal change.newDesired = true) ∧
    ∀ entry ∈ approved, ∃ reported ∈ changes,
      entry.path = reported.fieldPath ∨ isBelow reported.fieldPath entry.path = true := by
  unfold changesCovered at covered
  split at covered
  next => cases covered
  next paths intended folded =>
    obtain ⟨each, sources⟩ := foldlM_coverChange codec folded
    simp only [Bool.and_eq_true, List.all_eq_true, List.contains_iff_mem] at covered
    constructor
    · intro change member
      obtain ⟨entries, matched, same, accepted⟩ := each _ (List.mem_map_of_mem member)
      cases same
      exact (approvedChangeMatchesDiff_sound codec valid holds
        change (trimmed change member) accepted).1
    · intro entry member
      obtain absent | ⟨entries, matched, among, accepted, inside⟩ :=
        sources entry.path (covered.1.2 entry member)
      · cases absent
      · obtain ⟨change, reported, same⟩ := List.mem_map.mp among
        cases same
        exact ⟨change, reported, (approvedChangeMatchesDiff_sound codec valid holds change
          (trimmed change reported) accepted).2 entry.path inside⟩

/-- A merged diff that is accepted never exceeds the approval. -/
theorem accepted_diff_within_approval (codec : TextCodec) (payload : Entries) (diff : Diff)
    (old : Option ManagedFields) (live new : ManagedFields)
    (accepted :
      recoveryDiffMatchesApprovedScope codec payload (comparedDiff diff old live new) = true) :
    ∃ approved, approvedChangeContract codec payload = some approved ∧
      (∀ path ∈ managedPaths old live new,
        declaredValueMatchesLive (valueOrMissing new path) (valueOrMissing live path) = true ∨
        ∃ moved, MovedTo path approved (valueOrMissing live path) moved ∧
          moved.equal (valueOrMissing new path) = true) ∧
      ((∃ path ∈ managedPaths old live new,
        declaredValueMatchesLive (valueOrMissing new path) (valueOrMissing live path) = false) →
        ∀ change ∈ approved, ∃ reported ∈ compareManagedFields old live new none [],
          change.path = reported.fieldPath ∨ isBelow reported.fieldPath change.path = true) ∧
      ManifestHolds approved (asMapping diff.desiredManifest) := by
  unfold recoveryDiffMatchesApprovedScope at accepted
  split at accepted
  next => cases accepted
  next approved stored =>
    simp only [Bool.and_eq_true, List.all_eq_true] at accepted
    obtain ⟨⟨_, manifest⟩, scope⟩ := accepted
    have valid := approvedChangeContract_valid stored
    have holds : ManifestHolds approved (asMapping diff.desiredManifest) :=
      fun change member => manifestHolds_iff.mp (manifest change member)
    -- An unsatisfied field makes the diff one with changes, so the loop has run.
    have loop (path : String) (member : path ∈ managedPaths old live new)
        (unsatisfied : declaredValueMatchesLive (valueOrMissing new path)
          (valueOrMissing live path) = false) := by
      obtain ⟨reported, pending⟩ := unsatisfied_reported member unsatisfied
      have changed : (comparedDiff diff old live new).hasChanges = true :=
        List.any_eq_true.mpr ⟨_, reported, by simpa using pending⟩
      rw [if_pos changed] at scope
      exact changesCovered_sound codec valid holds (fun _ => reported_trimmed) scope
    refine ⟨approved, stored, fun path member => ?_, ?_, holds⟩
    · cases satisfied : declaredValueMatchesLive (valueOrMissing new path)
        (valueOrMissing live path) with
      | true => exact .inl rfl
      | false =>
        obtain ⟨reported, pending⟩ := unsatisfied_reported member satisfied
        exact .inr (((loop path member satisfied).1 _ reported).resolve_left pending)
    · rintro ⟨path, member, unsatisfied⟩
      exact (loop path member unsatisfied).2

def sampleCodec : TextCodec := .plain

def sampleText (value : String) : Value := .scalar (.str value)

def sampleObject (entries : List (String × Value)) : Value :=
  .dict (entries.map fun entry => (.str entry.1, entry.2))

def sampleResources (memory : String) : Value :=
  sampleObject [("limits", sampleObject [("memory", sampleText memory)])]

def sampleFields (memory : String) : ManagedFields :=
  ManagedFields.empty.assign "spec.template.spec.containers[name=api].resources"
    (sampleResources memory) (by decide)

def samplePayload : Entries :=
  asMapping <| sampleObject [("lifecycle", sampleObject [("authorization", sampleObject
  [("target", sampleObject [("namespace", sampleText "prod"),
    ("resource_kind", sampleText "Deployment"),
    ("resource_name", sampleText "api")]),
    ("changes", .list [sampleObject
      [("field_path", sampleText "spec.template.spec.containers[name=api].resources.limits.memory"),
        ("current_value", sampleText "1Gi"), ("desired_value", sampleText "2Gi")]])])])]

def sampleDiff : Diff where
  resource := "Deployment/api"
  «namespace» := "prod"
  desiredManifest := sampleObject [("kind", sampleText "Deployment"),
    ("metadata", sampleObject [("name", sampleText "api")]),
    ("spec", sampleObject [("template", sampleObject [("spec", sampleObject [("containers", .list
      [sampleObject [("name", sampleText "api"), ("resources", sampleResources "2Gi")]])])])])]
  hasChanges := false
  status := ""
  changes := []

/-- A memory limit raised below a managed `resources` field. -/
theorem accepted_diff_within_approval_memory :
    recoveryDiffMatchesApprovedScope sampleCodec samplePayload
      (comparedDiff sampleDiff (some (sampleFields "1Gi")) (sampleFields "1Gi")
        (sampleFields "2Gi")) =
        true ∧
    ∃ approved moved, approvedChangeContract sampleCodec samplePayload = some approved ∧
      MovedTo "spec.template.spec.containers[name=api].resources" approved
        (sampleResources "1Gi") moved ∧
      moved.equal (sampleResources "2Gi") = true := by
  have accepted : recoveryDiffMatchesApprovedScope sampleCodec samplePayload
      (comparedDiff sampleDiff (some (sampleFields "1Gi")) (sampleFields "1Gi")
        (sampleFields "2Gi")) = true := by decide +kernel
  obtain ⟨approved, stored, fields, _, _⟩ :=
    accepted_diff_within_approval sampleCodec samplePayload sampleDiff _ _ _ accepted
  have member : "spec.template.spec.containers[name=api].resources" ∈
      managedPaths (some (sampleFields "1Gi")) (sampleFields "1Gi") (sampleFields "2Gi") := by
    decide +kernel
  obtain satisfied | ⟨moved, moves, equal⟩ := fields _ member
  · have pending : declaredValueMatchesLive (sampleResources "2Gi") (sampleResources "1Gi") =
        false := by
      decide +kernel
    cases pending.symm.trans satisfied
  · exact ⟨accepted, approved, moved, stored, moves, equal⟩

end K8sOps.Gitops
