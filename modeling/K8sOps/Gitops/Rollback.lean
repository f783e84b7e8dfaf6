import K8sOps.Gitops.FieldPathSyntax
import K8sOps.Gitops.SourcePatchProofs
import K8sOps.Python.Equality
import Mathlib.Data.List.Perm.Subperm

/-! The rollback of a patch restores the parse of the source, in whatever order the
plan lists its rollback. The assignments of the patch are all written again by the
rollback, with the values that the source had. -/
namespace K8sOps.Gitops
open Python Text Focus

/-- A runtime whose loader builds dictionaries, which have no two equal keys. -/
structure Loader extends Runtime where
  loads_wellFormed : safeLoadAll source = .ok values → ∀ value ∈ values, value.WellFormed

section paths

def FieldPathSegment.plain (segment : FieldPathSegment) : Prop := segment.selectedName = none

theorem setObjectValue_plain (assigned : setObjectValue value segments root = .ok result) :
    ∃ final ∈ segments.getLast?, final.plain := by
  induction segments generalizing root result with
  | nil => cases assigned
  | cons segment rest ih =>
    cases rest with
    | nil =>
      obtain ⟨_, _, unselected, _⟩ := setObjectValue_last assigned
      exact ⟨segment, rfl, unselected⟩
    | cons next rest =>
      obtain ⟨_, _, _, _, _, _, through⟩ := setObjectValue_cons assigned
      obtain ⟨_, inner⟩ | ⟨_, _, _, _, _, _, _, inner, _⟩ := through
      · exact ih inner
      · exact ih inner

theorem setObjectValue_exists {root old : Value} (read : objectValueAt root segments = .ok old)
    (last : final ∈ segments.getLast?) (plain : final.plain) (value : Value) :
    ∃ result, setObjectValue value segments root = .ok result := by
  induction segments generalizing root with
  | nil => cases last
  | cons segment rest ih =>
    cases root with
    | scalar | list => cases read
    | dict entries =>
      cases rest with
      | nil =>
        obtain rfl : segment = final := Option.some.inj last
        have unselected : segment.selectedName = none := plain
        exact ⟨_, by simp only [setObjectValue, unselected]; rfl⟩
      | cons next rest =>
        simp only [objectValueAt] at read
        split at read
        next => cases read
        next child found unselected =>
          obtain ⟨updated, inner⟩ := ih read last
          exact ⟨_, by simp only [setObjectValue, found, unselected, inner]; rfl⟩
        next items name found selected =>
          obtain ⟨item, chosen, read⟩ := bind_eq_ok.mp read
          obtain ⟨updated, inner⟩ := ih read last
          let items := items.map fun old => if old.hasName name then updated else old
          refine ⟨.dict (Entries.assign (.str segment.key) (.list items) entries), ?_⟩
          simp only [setObjectValue, found, selected]
          exact bind_eq_ok.mpr ⟨item, chosen, bind_eq_ok.mpr ⟨updated, inner, rfl⟩⟩
        next => cases read

theorem location_writable (last : final ∈ segments.getLast?) (plain : final.plain)
    (permitted : ¬endsAtName segments) : Value.access.Writable (location segments) := by
  intro new whole old read
  obtain ⟨result, assigned⟩ := setObjectValue_exists (objectValueAt_ok.mpr read) last plain new
  exact ⟨result, setObjectValue_write assigned read permitted⟩

end paths

section scalars

theorem same_of_sameScalar {left right : Value} (alike : left.sameScalar right = true) :
    left.same right = true := by
  cases left with
  | scalar left =>
    cases right with
    | scalar right =>
      simp only [Value.sameScalar, Scalar.equal, Bool.and_eq_true] at alike
      simp only [Value.same, alike.2.2]
    | list | dict => exact alike
  | list | dict => cases right <;> exact alike

theorem scalarValue_of_sameScalar {left right : Value} (alike : left.sameScalar right = true)
    (scalar : scalarValue right = true) : scalarValue left = true := by
  obtain ⟨value, rfl⟩ := scalar_of_scalarValue scalar
  obtain ⟨found, rfl, sameType, _⟩ := Value.scalar_of_sameScalar alike
  cases found with
  | other type content =>
    cases value with
    | other => cases scalar
    | none | bool | int | float | str => cases sameType
  | none | bool | int | float | str => rfl

theorem sameScalar_common {one two : Value} (scalar : scalarValue value = true)
    (first : one.sameScalar value = true) (second : two.sameScalar value = true) :
    one.same two = true := by
  obtain ⟨shared, rfl⟩ := scalar_of_scalarValue scalar
  obtain ⟨left, rfl, _, leftEqual⟩ := Value.scalar_of_sameScalar first
  obtain ⟨right, rfl, _, rightEqual⟩ := Value.scalar_of_sameScalar second
  simp only [Scalar.equal, Bool.and_eq_true, Scalar.same_iff] at leftEqual rightEqual
  exact Scalar.same_iff.mpr (leftEqual.2.trans rightEqual.2.symm)

end scalars

section inverse
variable {plan : ManifestScalarPatchPlan}

/-- The rollback has exactly the paths of the plan, in some order. -/
theorem undone (valid : validateScalarPatchPlan plan = .ok done) :
    ∀ rollback ∈ plan.rollbackReplacements, ∃ item ∈ plan.replacements, Undoes rollback item := by
  obtain ⟨_, lengths, distinct, distinctBack, approved⟩ := validateScalarPatchPlan_ok valid
  have covered : plan.replacements.map (·.fieldPath) ⊆
      plan.rollbackReplacements.map (·.fieldPath) := by
    intro path member
    obtain ⟨item, among, rfl⟩ := List.mem_map.mp member
    obtain ⟨rollback, amongBack, undoes⟩ := (approved item among).undone
    exact List.mem_map.mpr ⟨rollback, amongBack, undoes.path⟩
  have perm : (plan.replacements.map (·.fieldPath)).Perm
      (plan.rollbackReplacements.map (·.fieldPath)) := by
    refine (distinct.subperm covered).perm_of_length_le ?_
    rw [List.length_map, List.length_map, lengths]
  intro rollback member
  obtain ⟨item, among, path⟩ := List.mem_map.mp (perm.mem_iff.mpr (List.mem_map_of_mem member))
  obtain ⟨other, amongBack, undoes⟩ := (approved item among).undone
  obtain rfl := List.inj_on_of_nodup_map distinctBack amongBack member (undoes.path.trans path)
  exact ⟨item, among, undoes⟩

/-- A plan that assigns the name of a selected entry cannot be rolled back. -/
theorem undone_permitted (approved : ∀ item ∈ plan.replacements, Approved plan item)
    (forward : List.Forall₂ (Selected runtime root original) plan.replacements edits)
    (backward : List.Forall₂ (Selected runtime rootBack parsed)
      plan.rollbackReplacements editsBack) :
    ∀ item ∈ plan.replacements, ¬endsAtName item.segments := by
  intro item member ends
  obtain ⟨name, reads⟩ := read_name ends
  have holds {document value : Value} (read : objectValueAt document item.segments = .ok value) :
      value = .scalar (.str name) := reads [] document value (objectValueAt_ok.mp read)
  obtain ⟨rollback, amongBack, undoes⟩ := (approved item member).undone
  obtain ⟨_, _, chosen⟩ := selected_item forward item member
  obtain ⟨_, _, chosenBack⟩ := selected_item backward rollback amongBack
  obtain ⟨current, read, isCurrent⟩ := chosen.current
  obtain ⟨after, readBack, isAfter⟩ := chosenBack.current
  rw [ScalarFieldReplacement.segments, undoes.path] at readBack
  rw [holds read] at isCurrent
  rw [holds readBack] at isAfter
  have desired := undoes.current
  rw [Value.sameScalar_str isAfter] at desired
  have unchanged := (approved item member).changes
  rw [Value.sameScalar_str isCurrent, Value.sameScalar_str desired] at unchanged
  simp [Value.sameScalar, Scalar.sameType, Scalar.equal, Scalar.isNan, Scalar.same] at unchanged

theorem assignAll_plain (assigned : assignAll items document = .ok final) :
    ∀ item ∈ items, ∃ last ∈ item.segments.getLast?, last.plain := by
  induction items generalizing document with
  | nil => simp
  | cons first items ih =>
    rw [assignAll, List.foldlM_cons] at assigned
    obtain ⟨middle, here, later⟩ := bind_eq_ok.mp assigned
    intro item member
    obtain rfl | member := List.mem_cons.mp member
    · exact setObjectValue_plain here
    · exact ih later item member

theorem selected_present (selected : List.Forall₂ (Selected runtime root original) items edits)
    (scalars : ∀ item ∈ items, scalarValue item.currentValue = true) :
    ∀ item ∈ items, ∃ old, Value.access.read item.location original = some old := by
  intro item member
  obtain ⟨edit, _, chosen⟩ := selected_item selected item member
  obtain ⟨current, read⟩ := selected_scalar chosen (scalars item member)
  exact ⟨_, read⟩

/-- The assignments of the rollback, with the values that the source itself holds. -/
def sourceEdits (original : Value) (items : List ScalarFieldReplacement) :
    List (List Step × Value) :=
  items.map fun item => (item.location,
    (Value.access.read item.location original).getD item.desiredValue)

theorem rollback_same {original parsed expected expectedBack : Value}
    (valid : validateScalarPatchPlan plan = .ok done)
    (forward : List.Forall₂ (Selected runtime root original) plan.replacements edits)
    (distinct : (edits.map Edit.span).Nodup)
    (assigned : assignAll plan.replacements original = .ok expected) (formed : parsed.WellFormed)
    (alike : parsed.same expected = true)
    (backward : List.Forall₂ (Selected runtime rootBack parsed) plan.rollbackReplacements editsBack)
    (distinctBack : (editsBack.map Edit.span).Nodup)
    (assignedBack : assignAll plan.rollbackReplacements parsed = .ok expectedBack) :
    expectedBack.same original = true := by
  obtain ⟨_, _, _, _, approved⟩ := validateScalarPatchPlan_ok valid
  have back := undone valid
  have permitted := undone_permitted approved forward backward
  have scalars : ∀ item ∈ plan.replacements, scalarValue item.currentValue = true :=
    fun item member => (approved item member).current
  have scalarsBack : ∀ item ∈ plan.rollbackReplacements, scalarValue item.currentValue = true := by
    intro rollback member
    obtain ⟨item, among, undoes⟩ := back rollback member
    exact scalarValue_of_sameScalar undoes.current (approved item among).desired
  have place {rollback item : ScalarFieldReplacement} (undoes : Undoes rollback item) :
      rollback.segments = item.segments := congrArg fieldPathSegments undoes.path
  have apart := selected_apart forward distinct scalars
  have present := selected_present forward scalars
  have written := assignAll_writes assigned present apart permitted
  have permittedBack : ∀ rollback ∈ plan.rollbackReplacements, ¬endsAtName rollback.segments := by
    intro rollback member
    obtain ⟨item, among, undoes⟩ := back rollback member
    rw [place undoes]
    exact permitted item among
  have writtenBack := assignAll_writes assignedBack (selected_present backward scalarsBack)
    (selected_apart backward distinctBack scalarsBack) permittedBack
  -- The rollback writes values equal to those of the source.
  have holds : ∀ rollback ∈ plan.rollbackReplacements, ∃ old,
      Value.access.read rollback.location original = some old ∧
      rollback.desiredValue.same old = true := by
    intro rollback member
    obtain ⟨item, among, undoes⟩ := back rollback member
    obtain ⟨_, _, chosen⟩ := selected_item forward item among
    obtain ⟨current, read, isCurrent⟩ := chosen.current
    rw [ScalarFieldReplacement.location, place undoes]
    exact ⟨current, objectValueAt_ok.mp read,
      sameScalar_common (scalars item among) undoes.desired isCurrent⟩
  have sameEdits : Value.SameEdits (plan.rollbackReplacements.map fun item =>
      (item.location, item.desiredValue))
      (sourceEdits original plan.rollbackReplacements) := by
    refine List.forall₂_map_left_iff.mpr (List.forall₂_map_right_iff.mpr (List.forall₂_same.mpr ?_))
    intro rollback member
    obtain ⟨old, read, equal⟩ := holds rollback member
    exact ⟨rfl, by rw [read]; exact equal⟩
  have valuesFormed : ∀ edit ∈ plan.rollbackReplacements.map fun item =>
      (item.location, item.desiredValue), edit.2.WellFormed := by
    intro edit member
    obtain ⟨rollback, among, rfl⟩ := List.mem_map.mp member
    obtain ⟨item, amongPlan, undoes⟩ := back rollback among
    obtain ⟨value, isScalar⟩ :=
      scalar_of_scalarValue (scalarValue_of_sameScalar undoes.desired (scalars item amongPlan))
    dsimp only
    rw [isScalar]
    exact .scalar
  obtain ⟨final, rewritten, finalAlike⟩ :=
    Value.writeAll_same sameEdits formed valuesFormed alike writtenBack
  have superseded : Value.access.writeAll (sourceEdits original plan.rollbackReplacements)
      original = some final := by
    refine Access.writeAll_superseded Value.access_exact ?_ ?_ ?_ ?_ written rewritten
    · intro edit member
      obtain ⟨item, among, rfl⟩ := List.mem_map.mp member
      obtain ⟨last, isLast, plain⟩ := assignAll_plain assigned item among
      exact location_writable isLast plain (permitted item among)
    · intro edit member
      obtain ⟨item, among, rfl⟩ := List.mem_map.mp member
      obtain ⟨last, isLast, plain⟩ := assignAll_plain assignedBack item among
      exact location_writable isLast plain (permittedBack item among)
    · intro edit member other memberBack
      obtain ⟨item, among, rfl⟩ := List.mem_map.mp member
      obtain ⟨rollback, amongBack, rfl⟩ := List.mem_map.mp memberBack
      obtain ⟨undoneItem, amongPlan, undoes⟩ := back rollback amongBack
      simp only [ScalarFieldReplacement.location, place undoes]
      by_cases same : item = undoneItem
      · exact .inl (by rw [same])
      · have symmetric : Std.Symm fun one two : ScalarFieldReplacement =>
            Apart one.location two.location :=
          ⟨fun _ _ => Apart.symm⟩
        exact .inr (apart.forall among amongPlan same)
    · intro edit member
      obtain ⟨item, among, rfl⟩ := List.mem_map.mp member
      obtain ⟨rollback, amongBack, undoes⟩ := (approved item among).undone
      exact ⟨_, List.mem_map_of_mem amongBack,
        by rw [ScalarFieldReplacement.location, place undoes]⟩
  have unchanged : Value.access.writeAll (sourceEdits original plan.rollbackReplacements) original =
      some original := by
    refine Access.writeAll_read Value.access_exact fun edit member => ?_
    obtain ⟨rollback, among, rfl⟩ := List.mem_map.mp member
    obtain ⟨old, read, _⟩ := holds rollback among
    rw [read, Option.getD_some]
  cases superseded.symm.trans unchanged
  exact finalAlike

theorem parseSingleManifest_wellFormed (loader : Loader)
    (parsed : parseSingleManifest loader.toRuntime source rawYaml = .ok value) :
    value.WellFormed := by
  obtain ⟨found, loaded, parsed⟩ := bind_eq_ok.mp parsed
  split at parsed
  next =>
    cases parsed
    rw [loadSingleDocument, if_neg (by decide), if_pos rfl] at loaded
    split at loaded
    next only =>
      cases loaded
      exact loader.loads_wellFormed (orInvalid_ok only) value (List.mem_singleton_self value)
    next => cases loaded
    next => cases loaded
  next => cases parsed

/-- Rolling a patched source back gives a source whose parse is that of the original. -/
theorem materializeScalarRollback_inverse (loader : Loader) (source : String)
    (plan : ManifestScalarPatchPlan) (digest : String)
    (forward : materializeScalarPatch loader.toRuntime source plan = .ok patched)
    (backward : materializeScalarRollback loader.toRuntime patched plan digest = .ok restored) :
    ∃ original final, parseSingleManifest loader.toRuntime source plan.sourceType = .ok original ∧
      parseSingleManifest loader.toRuntime restored plan.sourceType = .ok final ∧
      final.equal original = true := by
  obtain ⟨_, valid, materialized⟩ := bind_eq_ok.mp forward
  obtain ⟨_, _, backward⟩ := bind_eq_ok.mp backward
  split at backward
  next => cases backward
  next =>
    obtain ⟨original, root, edits, expected, parsed, parsedSource, _, selection, distinct, _,
      reparsed, equal⟩ :=
      materializeScalarReplacements_ok materialized
    obtain ⟨middle, rootBack, editsBack, expectedBack, final, parsedPatched, _, selectionBack,
      distinctBack, _, reparsedBack, equalBack⟩ := materializeScalarReplacements_ok backward
    cases reparsed.symm.trans parsedPatched
    obtain ⟨selected, assigned⟩ := selectEdits_spec selection
    obtain ⟨selectedBack, assignedBack⟩ := selectEdits_spec selectionBack
    obtain ⟨sourceType, _⟩ := validateScalarPatchPlan_ok valid
    have object := parseSingleManifest_dict reparsedBack
    have alike := Value.same_of_equal equal
    rw [sourceType] at reparsed reparsedBack parsedSource ⊢
    have formed := parseSingleManifest_wellFormed loader reparsed
    have restoredAlike :=
      rollback_same valid selected distinct assigned formed alike selectedBack distinctBack
      assignedBack
    refine ⟨original, final, parsedSource, reparsedBack, ?_⟩
    have same := Value.same_trans (parseSingleManifest_wellFormed loader reparsedBack)
      (Value.same_of_equal equalBack) restoredAlike
    cases final with
    | dict => cases original <;> exact same
    | scalar | list => cases object

/-- The library of the sample, for both texts. -/
def sampleLoader : Loader where
  safeLoadAll := sampleRuntime.safeLoadAll
  safeLoad := sampleRuntime.safeLoad
  scanHasAnchors := sampleRuntime.scanHasAnchors
  composeAll source :=
    if source = sampleSource then .ok [sampleNode "1" "2"]
    else if source = samplePatched then .ok [sampleNode "3" "4"]
    else .error .yamlError
  jsonLoads := sampleRuntime.jsonLoads
  floatText := sampleRuntime.floatText
  canonicalManifestDigest := sampleRuntime.canonicalManifestDigest
  spans_inside {source nodes} composed := by
    split at composed
    next same =>
      cases composed
      rw [same]
      decide
    next =>
      split at composed
      next same =>
        cases composed
        rw [same]
        decide
      next => cases composed
  spans_disjoint {source nodes} composed := by
    split at composed
    next =>
      cases composed
      unfold ScalarNode.disjoint
      decide
    next =>
      split at composed
      next =>
        cases composed
        unfold ScalarNode.disjoint
        decide
      next => cases composed
  loads_wellFormed {source values} loaded := by
    have inner (seconds : Int) :
        (Value.dict [(.str "timeoutSeconds", .scalar (.int seconds))]).WellFormed := by
      refine .dict (List.nodup_singleton _) fun entry member => ?_
      cases List.mem_singleton.mp member
      exact .scalar
    have formed (live ready : Int) : (sampleManifest live ready).WellFormed := by
      refine .dict (by simp [Entries.Distinct, Scalar.canonical]) fun entry member => ?_
      simp only [List.mem_cons, List.not_mem_nil, or_false] at member
      obtain rfl | rfl | rfl := member
      · exact .scalar
      · exact inner live
      · exact inner ready
    simp only [sampleRuntime] at loaded
    split at loaded
    next =>
      cases loaded
      intro value member
      cases List.mem_singleton.mp member
      exact formed 1 2
    next =>
      split at loaded
      next =>
        cases loaded
        intro value member
        cases List.mem_singleton.mp member
        exact formed 3 4
      next => cases loaded

theorem materializeScalarRollback_inverse_sample : ∃ patched restored original final,
    materializeScalarPatch sampleLoader.toRuntime sampleSource samplePlan = .ok patched ∧
    materializeScalarRollback sampleLoader.toRuntime patched samplePlan sampleDigest =
      .ok restored ∧
    parseSingleManifest sampleLoader.toRuntime sampleSource "raw-yaml" = .ok original ∧
    parseSingleManifest sampleLoader.toRuntime restored "raw-yaml" = .ok final ∧
    final.equal original = true := by
  have forward : materializeScalarPatch sampleLoader.toRuntime sampleSource samplePlan =
      .ok samplePatched :=
    toOption_ok (by decide +kernel)
  have backward : materializeScalarRollback sampleLoader.toRuntime samplePatched samplePlan
      sampleDigest = .ok sampleSource := toOption_ok (by decide +kernel)
  obtain ⟨original, final, parsed, reparsed, equal⟩ :=
    materializeScalarRollback_inverse sampleLoader sampleSource samplePlan sampleDigest
      forward backward
  exact ⟨_, _, original, final, forward, backward, parsed, reparsed, equal⟩

end inverse

end K8sOps.Gitops
