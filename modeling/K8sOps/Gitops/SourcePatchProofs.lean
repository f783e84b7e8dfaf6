import K8sOps.Gitops.SourcePatch

/-! A patched source differs from the original only in the spans of the selected
scalars, and its parse only at the approved locations. -/
namespace K8sOps.Gitops
open Python Text Focus

abbrev ScalarFieldReplacement.segments (item : ScalarFieldReplacement) : List FieldPathSegment :=
  fieldPathSegments item.fieldPath

abbrev ScalarFieldReplacement.location (item : ScalarFieldReplacement) : List Step :=
  Gitops.location item.segments

/-- The assignments of the loop on their own. -/
def assignAll (replacements : List ScalarFieldReplacement) (document : Value) :
    Except PatchError Value :=
  replacements.foldlM (fun document item => setObjectValue item.desiredValue item.segments document)
    document

theorem mem_entriesScalars {entries : List (Node × Node)} (member : entry ∈ entries) :
    entry.2.scalars ⊆ Node.entriesScalars entries := by
  induction entries with
  | nil => cases member
  | cons first entries ih =>
    rw [Node.entriesScalars]
    obtain rfl | member := List.mem_cons.mp member
    · obtain ⟨key, value⟩ := entry
      rw [Node.entryScalars]
      exact List.Subset.trans (List.subset_append_right _ _) (List.subset_append_left _ _)
    · exact List.Subset.trans (ih member) (List.subset_append_right _ _)

theorem mem_itemsScalars {items : List Node} (member : item ∈ items) :
    item.scalars ⊆ Node.itemsScalars items := by
  induction items with
  | nil => cases member
  | cons first items ih =>
    rw [Node.itemsScalars]
    obtain rfl | member := List.mem_cons.mp member
    · exact List.subset_append_left _ _
    · exact List.Subset.trans (ih member) (List.subset_append_right _ _)

theorem mappingValue_scalars {entries : List (Node × Node)}
    (found : mappingValue key entries = some child) :
    child.scalars ⊆ (Node.mapping entries).scalars := by
  obtain ⟨entry, stored, rfl⟩ := Option.map_eq_some_iff.mp found
  rw [Node.scalars]
  exact mem_entriesScalars (List.mem_of_find?_eq_some stored)

theorem nodeValueAt_scalars {root node : Node} {segments : List FieldPathSegment}
    (found : nodeValueAt root segments = .ok node) : node.scalars ⊆ root.scalars := by
  induction segments generalizing root with
  | nil =>
    cases root <;> cases found <;> exact List.Subset.refl _
  | cons segment rest ih =>
    cases root with
    | scalar | sequence => cases found
    | mapping entries =>
      unfold nodeValueAt at found
      split at found
      next => cases found
      next child present _ => exact List.Subset.trans (ih found) (mappingValue_scalars present)
      next items name present _ =>
        split at found
        next item only =>
          have member : item ∈ items.filter (nodeHasName name) := by
            rw [only]
            exact List.mem_singleton_self item
          have inside : item.scalars ⊆ (Node.sequence items).scalars := by
            rw [Node.scalars]
            exact mem_itemsScalars (List.mem_filter.mp member).1
          exact List.Subset.trans (ih found)
            (List.Subset.trans inside (mappingValue_scalars present))
        next => cases found
      next => cases found

/-- What the loop has checked and computed for one replacement. -/
structure Selected (runtime : Runtime) (root : Node) (original : Value)
    (item : ScalarFieldReplacement) (edit : Edit Char) : Prop where
  current : ∃ current, objectValueAt original item.segments = .ok current ∧
    current.sameScalar item.currentValue = true
  node : ∃ node, nodeValueAt root item.segments = .ok (.scalar node) ∧
    edit.span = (node.start, node.stop)

theorem selectEdits_spec
    (selected : selectEdits runtime root original items expected = .ok (edits, final)) :
    List.Forall₂ (Selected runtime root original) items edits ∧
      assignAll items expected = .ok final := by
  induction items generalizing expected edits with
  | nil =>
    cases selected
    exact ⟨.nil, rfl⟩
  | cons item items ih =>
    simp only [selectEdits] at selected
    obtain ⟨current, read, selected⟩ := bind_eq_ok.mp selected
    split at selected
    next approved =>
      obtain ⟨node, found, selected⟩ := bind_eq_ok.mp selected
      split at selected
      next leaf =>
        obtain ⟨encoded, _, selected⟩ := bind_eq_ok.mp selected
        obtain ⟨assigned, assign, selected⟩ := bind_eq_ok.mp selected
        obtain ⟨⟨later, final⟩, rest, selected⟩ := bind_eq_ok.mp selected
        cases selected
        obtain ⟨others, document⟩ := ih rest
        refine ⟨.cons ⟨⟨current, read, approved⟩, leaf, found, rfl⟩ others, ?_⟩
        rw [assignAll, List.foldlM_cons]
        exact bind_eq_ok.mpr ⟨assigned, assign, document⟩
      next => cases selected
    next => cases selected

theorem orInvalid_ok (done : orInvalid action = .ok value) : action = .ok value := by
  unfold orInvalid at done
  split at done
  next => cases done
  next => cases done
  next => exact done

/-- The source with the spans of the selected scalar nodes replaced: the gaps
between the spans are copied in order. -/
def ReplacesSpans (runtime : Runtime) (source : String) (replacements : List ScalarFieldReplacement)
    (patched : String) : Prop :=
  ∃ root edits ascending, runtime.composeAll source = .ok [root] ∧
    List.Forall₂ (fun item (edit : Edit Char) => ∃ node,
      nodeValueAt root item.segments = .ok (.scalar node) ∧ edit.span = (node.start, node.stop))
      replacements edits ∧
    ascending.Perm edits ∧ Ascending ascending ∧ (∀ edit ∈ ascending, edit.inside source.toList) ∧
    patched.toList = weave source.toList 0 ascending

theorem selected_leaf (selected : List.Forall₂ (Selected runtime root original) items edits) :
    ∀ edit ∈ edits, ∃ node ∈ root.scalars, edit.span = (node.start, node.stop) := by
  induction selected with
  | nil => simp
  | cons chosen _ ih =>
    intro edit member
    obtain rfl | member := List.mem_cons.mp member
    · obtain ⟨node, found, span⟩ := chosen.node
      have leaf : node ∈ (Node.scalar node).scalars := by
        rw [Node.scalars]
        exact List.mem_singleton_self node
      exact ⟨node, nodeValueAt_scalars found leaf, span⟩
    · exact ih edit member

instance : Std.Symm ScalarNode.disjoint := ⟨fun _ _ => Or.symm⟩

theorem replacesSpans (composed : runtime.composeAll source = .ok [root])
    (selected : List.Forall₂ (Selected runtime root original) items edits)
    (distinct : (edits.map Edit.span).Nodup) :
    ReplacesSpans runtime source items (String.ofList (spliceAll source.toList edits)) := by
  have leaf := selected_leaf selected
  have inside : ∀ edit ∈ edits, edit.inside source.toList := by
    intro edit member
    obtain ⟨node, among, span⟩ := leaf edit member
    obtain ⟨start, stop⟩ := Prod.mk.inj span
    have bounds := runtime.spans_inside composed root (List.mem_singleton_self root) node among
    unfold Edit.inside
    rw [start, stop]
    exact bounds
  have disjoint : ∀ one ∈ edits, ∀ two ∈ edits, one.span ≠ two.span → one.disjoint two := by
    intro one oneIn two twoIn different
    obtain ⟨first, firstIn, oneSpan⟩ := leaf one oneIn
    obtain ⟨second, secondIn, twoSpan⟩ := leaf two twoIn
    have nodes : first ≠ second := fun same => different (by rw [oneSpan, twoSpan, same])
    have apart := (runtime.spans_disjoint composed root (List.mem_singleton_self root)).forall
      firstIn secondIn nodes
    obtain ⟨oneStart, oneStop⟩ := Prod.mk.inj oneSpan
    obtain ⟨twoStart, twoStop⟩ := Prod.mk.inj twoSpan
    unfold Edit.disjoint
    rw [oneStart, oneStop, twoStart, twoStop]
    exact apart
  obtain ⟨ascending, perm, ordered, woven⟩ := spliceAll_weave inside distinct disjoint
  refine ⟨root, edits, ascending, composed, selected.imp fun _ _ chosen => chosen.node,
    perm, ordered, fun edit member => inside edit (perm.mem_iff.mp member), ?_⟩
  rw [String.toList_ofList, woven]

theorem selected_item (selected : List.Forall₂ (Selected runtime root original) items edits) :
    ∀ item ∈ items, ∃ edit ∈ edits, Selected runtime root original item edit := by
  induction selected with
  | nil => simp
  | @cons _ edit _ _ chosen _ ih =>
    intro item member
    obtain rfl | member := List.mem_cons.mp member
    · exact ⟨edit, List.mem_cons_self, chosen⟩
    · obtain ⟨edit, among, chosen⟩ := ih item member
      exact ⟨edit, List.mem_cons_of_mem _ among, chosen⟩

theorem scalar_of_scalarValue {value : Value} (scalar : scalarValue value = true) :
    ∃ found, value = .scalar found := by
  cases value with
  | scalar found => exact ⟨found, rfl⟩
  | list | dict => cases scalar

theorem selected_scalar (chosen : Selected runtime root original item edit)
    (scalar : scalarValue item.currentValue = true) :
    ∃ current, Value.access.read item.location original = some (.scalar current) := by
  obtain ⟨current, read, approved⟩ := chosen.current
  obtain ⟨approvedScalar, isScalar⟩ := scalar_of_scalarValue scalar
  rw [isScalar] at approved
  obtain ⟨found, rfl, _⟩ := Value.scalar_of_sameScalar approved
  exact ⟨found, objectValueAt_ok.mp read⟩

theorem selected_apart (selected : List.Forall₂ (Selected runtime root original) items edits)
    (distinct : (edits.map Edit.span).Nodup)
    (scalars : ∀ item ∈ items, scalarValue item.currentValue = true) :
    items.Pairwise fun one two => Apart one.location two.location := by
  induction selected with
  | nil => exact .nil
  | @cons item edit items edits chosen others ih =>
    rw [List.map_cons, List.nodup_cons] at distinct
    refine .cons ?_ (ih distinct.2 fun item member => scalars item (List.mem_cons_of_mem _ member))
    have against : ∀ {items edits}, List.Forall₂ (Selected runtime root original) items edits →
        (∀ item ∈ items, scalarValue item.currentValue = true) →
        edit.span ∉ edits.map Edit.span → ∀ other ∈ items, Apart item.location other.location := by
      intro items edits selected scalar fresh
      induction selected with
      | nil => simp
      | @cons second secondEdit items edits chosenSecond _ ih =>
        simp only [List.map_cons, List.mem_cons, not_or] at fresh
        intro other member
        obtain rfl | member := List.mem_cons.mp member
        · obtain ⟨first, firstRead⟩ := selected_scalar chosen (scalars item List.mem_cons_self)
          obtain ⟨last, lastRead⟩ := selected_scalar chosenSecond (scalar _ List.mem_cons_self)
          refine location_apart (fun same => fresh.1 ?_) firstRead lastRead
          obtain ⟨node, found, span⟩ := chosen.node
          obtain ⟨node', found', span'⟩ := chosenSecond.node
          rw [same, found'] at found
          cases found
          rw [span, span']
        · exact ih (fun item member => scalar item (List.mem_cons_of_mem _ member))
            fresh.2 other member
    exact against others (fun item member =>
      scalars item (List.mem_cons_of_mem _ member)) distinct.1

theorem assignAll_writes {items : List ScalarFieldReplacement} {document final : Value}
    (assigned : assignAll items document = .ok final)
    (present : ∀ item ∈ items, ∃ old, Value.access.read item.location document = some old)
    (apart : items.Pairwise fun one two => Apart one.location two.location)
    (permitted : ∀ item ∈ items, ¬ endsAtName item.segments) :
    Value.access.writeAll (items.map fun item => (item.location, item.desiredValue)) document =
      some final := by
  induction items generalizing document with
  | nil =>
    cases assigned
    rfl
  | cons item items ih =>
    rw [assignAll, List.foldlM_cons] at assigned
    obtain ⟨middle, first, later⟩ := bind_eq_ok.mp assigned
    obtain ⟨fromFirst, others⟩ := List.pairwise_cons.mp apart
    obtain ⟨old, stored⟩ := present item List.mem_cons_self
    have write := setObjectValue_write first stored (permitted item List.mem_cons_self)
    rw [List.map_cons, Access.writeAll, write, Option.bind_some]
    refine ih later ?_ others fun item member => permitted item (List.mem_cons_of_mem _ member)
    intro other member
    rw [Access.read_write_apart (fromFirst other member) write]
    exact present other (List.mem_cons_of_mem _ member)

/-- The parse of the patched source is the parse of the original with every
approved location set. Reading is compared up to Python's equality. -/
def ReadsApproved (replacements : List ScalarFieldReplacement) (original parsed : Value) : Prop :=
  (∃ expected, assignAll replacements original = .ok expected ∧ parsed.equal expected = true) ∧
  ((∀ item ∈ replacements, ¬ endsAtName item.segments) →
    (∀ item ∈ replacements, ∃ value, objectValueAt parsed item.segments = .ok value ∧
      value.same item.desiredValue = true) ∧
    ∀ segments, (∀ item ∈ replacements, Apart item.location (location segments)) →
      Value.Agree (objectValueAt parsed segments).toOption
        (objectValueAt original segments).toOption)

theorem readsApproved {original parsed expected : Value}
    (selected : List.Forall₂ (Selected runtime root original) items edits)
    (distinct : (edits.map Edit.span).Nodup)
    (scalars : ∀ item ∈ items, scalarValue item.currentValue = true)
    (assigned : assignAll items original = .ok expected) (equal : parsed.equal expected = true) :
    ReadsApproved items original parsed := by
  refine ⟨⟨expected, assigned, equal⟩, fun permitted => ?_⟩
  have alike := Value.same_of_equal equal
  have apart := selected_apart selected distinct scalars
  have present : ∀ item ∈ items, ∃ old, Value.access.read item.location original = some old := by
    intro item member
    obtain ⟨edit, _, chosen⟩ := selected_item selected item member
    obtain ⟨current, read⟩ := selected_scalar chosen (scalars item member)
    exact ⟨_, read⟩
  have written := assignAll_writes assigned present apart permitted
  have reads := Access.read_writeAll (List.pairwise_map.mpr apart) written
  constructor
  · intro item member
    have agree := Value.read_same alike item.location
    rw [reads _ (List.mem_map_of_mem member)] at agree
    cases found : Value.access.read item.location parsed with
    | none =>
      rw [found] at agree
      cases agree
    | some value =>
      rw [found] at agree
      cases agree with
      | some equal => exact ⟨value, objectValueAt_ok.mpr found, equal⟩
  · intro segments outside
    have apart : ∀ edit ∈ items.map fun item => (item.location, item.desiredValue),
        Apart edit.1 (location segments) := by
      intro edit member
      obtain ⟨item, among, rfl⟩ := List.mem_map.mp member
      exact outside item among
    have untouched := Access.read_writeAll_apart apart written
    rw [objectValueAt_toOption, objectValueAt_toOption, ← untouched]
    exact Value.read_same alike (location segments)

/-- The rollback that undoes an item of the plan. -/
structure Undoes (rollback item : ScalarFieldReplacement) : Prop where
  path : rollback.fieldPath = item.fieldPath
  current : rollback.currentValue.sameScalar item.desiredValue = true
  desired : rollback.desiredValue.sameScalar item.currentValue = true

/-- What the loop over the items of a plan establishes for each of them. -/
structure Approved (plan : ManifestScalarPatchPlan) (item : ScalarFieldReplacement) : Prop where
  current : scalarValue item.currentValue = true
  desired : scalarValue item.desiredValue = true
  changes : item.currentValue.sameScalar item.desiredValue = false
  undone : ∃ rollback ∈ plan.rollbackReplacements, Undoes rollback item

theorem validateReplacement_ok_iff : validateReplacement plan item = .ok () ↔
    ∃ rollback, plan.rollbackReplacements.find? (·.fieldPath == item.fieldPath) = some rollback ∧
      fieldPathSegments item.fieldPath ≠ [] ∧ scalarValue item.currentValue = true ∧
      scalarValue item.desiredValue = true ∧
      item.currentValue.sameScalar item.desiredValue = false ∧
      rollback.currentValue.sameScalar item.desiredValue = true ∧
      rollback.desiredValue.sameScalar item.currentValue = true ∧
      actionAllowsReplacement plan.actionType item = .ok true := by
  rw [validateReplacement]
  cases found : plan.rollbackReplacements.find? (·.fieldPath == item.fieldPath) with
  | none => simp
  | some rollback =>
    dsimp only
    split
    next refused =>
      constructor
      · intro raised
        cases raised
      · rintro ⟨_, only, addressed, current, desired, changes, currentBack, desiredBack, _⟩
        cases only
        simp [addressed, current, desired, changes, currentBack, desiredBack] at refused
    next accepted =>
      simp only [not_or, Bool.not_eq_true', Bool.not_eq_false, Bool.not_eq_true] at accepted
      obtain ⟨addressed, current, desired, changes, currentBack, desiredBack⟩ := accepted
      rw [bind_eq_ok]
      constructor
      · rintro ⟨allowed, checked, done⟩
        cases allowed with
        | false => cases done
        | true =>
          exact ⟨rollback, rfl, addressed, current, desired, changes, currentBack,
            desiredBack, checked⟩
      · rintro ⟨_, _, _, _, _, _, _, _, allowed⟩
        exact ⟨true, allowed, rfl⟩

theorem validateReplacement_ok (checked : validateReplacement plan item = .ok ()) :
    Approved plan item := by
  obtain ⟨rollback, found, _, current, desired, changes, currentBack, desiredBack, _⟩ :=
    validateReplacement_ok_iff.mp checked
  have path : rollback.fieldPath = item.fieldPath := by simpa using List.find?_some found
  exact ⟨current, desired, changes, rollback, List.mem_of_find?_eq_some found, path, currentBack,
    desiredBack⟩

/-- The metadata that every plan must have. -/
structure Complete (plan : ManifestScalarPatchPlan) : Prop where
  action : plan.actionType ∈ patchActions
  source : plan.sourceType = rawYaml
  digest : sha256Text plan.sourceManifestSha256 = true
  commit : commitText plan.expectedBaseSha = true
  path : safeManifestPath plan.manifestPath = true
  some : plan.replacements ≠ []
  few : plan.replacements.length ≤ 4
  paired : plan.rollbackReplacements.length = plan.replacements.length

theorem validateScalarPatchPlan_ok_iff : validateScalarPatchPlan plan = .ok () ↔
    Complete plan ∧ (plan.replacements.map (·.fieldPath)).Nodup ∧
      (plan.rollbackReplacements.map (·.fieldPath)).Nodup ∧
      ∀ item ∈ plan.replacements, validateReplacement plan item = .ok () := by
  rw [validateScalarPatchPlan]
  split
  next missing =>
    constructor
    · intro raised
      cases raised
    · rintro ⟨complete, _⟩
      simp [complete.action, complete.source, complete.digest, complete.commit, complete.path,
        complete.some, complete.paired, Nat.not_lt.mpr complete.few] at missing
  next present =>
    simp only [not_or, not_not, ne_eq, Bool.not_eq_true', Bool.not_eq_false, Nat.not_lt] at present
    obtain ⟨action, source, digest, commit, path, some, few, paired⟩ := present
    have complete : Complete plan := ⟨action, source, digest, commit, path, some, few, paired⟩
    split
    next repeated => simp [repeated]
    next distinct =>
      split
      next repeated => simp [repeated]
      next distinctBack =>
        rw [not_not] at distinct distinctBack
        rw [forM_ok_iff]
        exact ⟨fun each => ⟨complete, distinct, distinctBack, each⟩, fun all => all.2.2.2⟩

theorem validateScalarPatchPlan_ok (valid : validateScalarPatchPlan plan = .ok ()) :
    plan.sourceType = rawYaml ∧ plan.rollbackReplacements.length = plan.replacements.length ∧
    (plan.replacements.map (·.fieldPath)).Nodup ∧
    (plan.rollbackReplacements.map (·.fieldPath)).Nodup ∧
    ∀ item ∈ plan.replacements, Approved plan item := by
  obtain ⟨complete, distinct, distinctBack, each⟩ := validateScalarPatchPlan_ok_iff.mp valid
  exact ⟨complete.source, complete.paired, distinct, distinctBack, fun item member =>
    validateReplacement_ok (each item member)⟩

theorem parseSingleManifest_dict
    (parsed : parseSingleManifest runtime source sourceType = .ok value) :
    value.isDict = true := by
  unfold parseSingleManifest at parsed
  obtain ⟨found, _, parsed⟩ := bind_eq_ok.mp parsed
  split at parsed
  next object =>
    cases parsed
    exact object
  next => cases parsed

/-- What a successful run of the replacement function has established. -/
theorem materializeScalarReplacements_ok
    (done : materializeScalarReplacements runtime source sourceType digest items = .ok patched) :
    ∃ original root edits expected parsed,
      parseSingleManifest runtime source sourceType = .ok original ∧
      runtime.composeAll source = .ok [root] ∧
      selectEdits runtime root original items original = .ok (edits, expected) ∧
      (edits.map Edit.span).Nodup ∧ patched = String.ofList (spliceAll source.toList edits) ∧
      parseSingleManifest runtime patched sourceType = .ok parsed ∧
      parsed.equal expected = true := by
  unfold materializeScalarReplacements at done
  obtain ⟨original, parsedSource, done⟩ := bind_eq_ok.mp done
  split at done
  next => cases done
  next =>
    obtain ⟨_, _, done⟩ := bind_eq_ok.mp done
    split at done
    next => cases done
    next =>
      obtain ⟨_, _, done⟩ := bind_eq_ok.mp done
      split at done
      next => cases done
      next =>
        obtain ⟨nodes, composed, done⟩ := bind_eq_ok.mp done
        split at done
        next entries =>
          obtain ⟨⟨edits, expected⟩, selected, done⟩ := bind_eq_ok.mp done
          dsimp only at done
          split at done
          next distinct =>
            obtain ⟨parsed, reparsed, done⟩ := bind_eq_ok.mp done
            split at done
            next equal =>
              cases done
              exact ⟨original, .mapping entries, edits, expected, parsed, parsedSource,
                orInvalid_ok composed, selected, distinct, rfl, reparsed, equal⟩
            next => cases done
          next => cases done
        next => cases done

/-- Either the patch raises, or it returns the source with only the selected
spans replaced, whose parse differs from the original's only where approved. -/
theorem materializeScalarPatch_frame (runtime : Runtime) (source : String)
    (plan : ManifestScalarPatchPlan) :
    (∃ error, materializeScalarPatch runtime source plan = .error error) ∨
    ∃ patched original parsed, materializeScalarPatch runtime source plan = .ok patched ∧
      parseSingleManifest runtime source plan.sourceType = .ok original ∧
      parseSingleManifest runtime patched plan.sourceType = .ok parsed ∧
      ReplacesSpans runtime source plan.replacements patched ∧
      ReadsApproved plan.replacements original parsed := by
  cases done : materializeScalarPatch runtime source plan with
  | error error => exact .inl ⟨error, rfl⟩
  | ok patched =>
    obtain ⟨_, valid, materialized⟩ := bind_eq_ok.mp done
    obtain ⟨original, root, edits, expected, parsed, parsedSource, composed, selection,
      distinct, rfl, reparsed, equal⟩ := materializeScalarReplacements_ok materialized
    obtain ⟨selected, assigned⟩ := selectEdits_spec selection
    obtain ⟨_, _, _, _, approved⟩ := validateScalarPatchPlan_ok valid
    exact .inr ⟨_, original, parsed, rfl, parsedSource, reparsed,
      replacesSpans composed selected distinct,
      readsApproved selected distinct (fun item member =>
        (approved item member).current) assigned equal⟩

/-- A parser for two fixed sources, enough to run one patch of two values. -/
def sampleSource : String :=
  "kind: Deployment\nlive:\n  timeoutSeconds: 1\nready:\n  timeoutSeconds: 2\n"

def samplePatched : String :=
  "kind: Deployment\nlive:\n  timeoutSeconds: 3\nready:\n  timeoutSeconds: 4\n"

def sampleManifest (live ready : Int) : Value :=
  .dict [(.str "kind", .scalar (.str "Deployment")),
    (.str "live", .dict [(.str "timeoutSeconds", .scalar (.int live))]),
    (.str "ready", .dict [(.str "timeoutSeconds", .scalar (.int ready))])]

def sampleNode (live ready : String) : Node :=
  .mapping [(.scalar ⟨0, 4, none, "kind"⟩, .scalar ⟨6, 16, none, "Deployment"⟩),
    (.scalar ⟨17, 21, none, "live"⟩,
      .mapping [(.scalar ⟨25, 39, none, "timeoutSeconds"⟩, .scalar ⟨41, 42, none, live⟩)]),
    (.scalar ⟨43, 48, none, "ready"⟩,
      .mapping [(.scalar ⟨52, 66, none, "timeoutSeconds"⟩, .scalar ⟨68, 69, none, ready⟩)])]

def sampleDigest : String := "sha256:" ++ String.ofList (List.replicate 64 'a')

def sampleRuntime : Runtime where
  safeLoadAll source :=
    if source = sampleSource then .ok [sampleManifest 1 2]
    else if source = samplePatched then .ok [sampleManifest 3 4]
    else .error .yamlError
  safeLoad _ := .error .yamlError
  scanHasAnchors _ := .ok false
  composeAll source := if source = sampleSource then .ok [sampleNode "1" "2"] else .error .yamlError
  jsonLoads _ := .error .yamlError
  floatText _ := ""
  canonicalManifestDigest _ := .ok sampleDigest
  spans_inside {source nodes} composed := by
    split at composed
    next same =>
      cases composed
      rw [same]
      decide
    next => cases composed
  spans_disjoint {source nodes} composed := by
    split at composed
    next same =>
      cases composed
      unfold ScalarNode.disjoint
      decide
    next => cases composed

def samplePlan : ManifestScalarPatchPlan :=
  ⟨"probe_fix", "raw-yaml", sampleDigest, String.ofList (List.replicate 40 'b'), "deploy/app.yaml",
    [⟨"live.timeoutSeconds", .scalar (.int 1), .scalar (.int 3)⟩,
      ⟨"ready.timeoutSeconds", .scalar (.int 2), .scalar (.int 4)⟩],
    [⟨"ready.timeoutSeconds", .scalar (.int 4), .scalar (.int 2)⟩,
      ⟨"live.timeoutSeconds", .scalar (.int 3), .scalar (.int 1)⟩]⟩

theorem materializeScalarPatch_frame_sample : ∃ original parsed,
    materializeScalarPatch sampleRuntime sampleSource samplePlan = .ok samplePatched ∧
    ReplacesSpans sampleRuntime sampleSource samplePlan.replacements samplePatched ∧
    ReadsApproved samplePlan.replacements original parsed := by
  have run : materializeScalarPatch sampleRuntime sampleSource samplePlan = .ok samplePatched :=
    toOption_ok (by decide +kernel)
  obtain ⟨error, raised⟩ | ⟨patched, original, parsed, done, _, _, spans, reads⟩ :=
    materializeScalarPatch_frame sampleRuntime sampleSource samplePlan
  · cases raised.symm.trans run
  · cases done.symm.trans run
    exact ⟨original, parsed, run, spans, reads⟩

end K8sOps.Gitops
