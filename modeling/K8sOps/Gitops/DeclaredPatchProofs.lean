import K8sOps.Gitops.DeclaredPatch
import K8sOps.Gitops.Rollback

/-! Declared patching is idempotent: a patched source selects the same document again,
every declared scalar has its desired value, and nothing is left to edit. -/
namespace K8sOps.Gitops
open Python Text Focus

/-- The edit that writes the desired value of a replacement over its node. -/
def Encodes (runtime : Runtime) (root : Node) (item : ScalarFieldReplacement)
    (edit : Edit Char) : Prop :=
  ∃ node encoded, nodeValueAt root item.segments = .ok (.scalar node) ∧
    encodedScalarValue runtime node item.desiredValue = .ok encoded ∧
    edit = ⟨node.start, node.stop, encoded.toList⟩

/-- A parser that loads what it composes, and that reads encoded scalars back: if each
one is read as an equal value, it is read with its type, no anchor has appeared, and the
other scalars have kept their types. -/
structure Parser extends Loader where
  composes : safeLoadAll source = .ok documents → ∃ nodes, composeAll source = .ok nodes ∧
    List.Forall₂ (fun document node => document.isDict = true → ∃ entries, node = .mapping entries)
      documents nodes
  reads_back {items : List ScalarFieldReplacement}
      {index : Nat} : scanHasAnchors source = .ok false →
    composeAll source = .ok nodes → nodes[index]? = some root →
    safeLoadAll source = .ok originals → originals[index]? = some original →
    List.Forall₂ (Encodes toRuntime root) items edits → (edits.map Edit.span).Nodup →
    safeLoadAll (String.ofList (spliceAll source.toList edits)) = .ok documents →
    documents[index]? = some document →
    (∀ item ∈ items, ∃ value, objectValueAt document item.segments = .ok value ∧
      value.same item.desiredValue = true) →
    scanHasAnchors (String.ofList (spliceAll source.toList edits)) = .ok false ∧
    (∀ item ∈ items, ∀ value, objectValueAt document item.segments = .ok value →
      value.sameScalar item.desiredValue = true) ∧
    ∀ segments, (∀ item ∈ items, item.segments ≠ segments) → ∀ old new,
      objectValueAt original segments = .ok (.scalar old) →
      objectValueAt document segments = .ok (.scalar new) →
      old.same new = true → old.sameType new = true

section run

/-- Everything that a successful call has computed and checked. -/
structure DeclaredRun (runtime : Runtime) (source : String) (patch : DeclaredScalarPatch)
    (allow : Bool) (patched : String) where
  nodes : List Node
  originals : List Value
  documents : List Value
  index : Nat
  original : Entries
  root : List (Node × Node)
  edits : List (Edit Char)
  expected : Value
  sourceType : patch.sourceType ∈ declaredSourceTypes
  nonempty : patch.replacements ≠ []
  scanned : runtime.scanHasAnchors source = .ok false
  composed : runtime.composeAll source = .ok nodes
  loaded : runtime.safeLoadAll source = .ok originals
  lengths : nodes.length = originals.length
  selected : documentIndex patch.documentIdentity originals = .ok index
  document : originals[index]? = some (.dict original)
  node : nodes[index]? = some (.mapping root)
  edited : selectDeclaredEdits runtime (.mapping root) (.dict original) allow patch.replacements
    (.dict original) = .ok (edits, expected)
  distinct : (edits.map Edit.span).Nodup
  text : patched = String.ofList (spliceAll source.toList edits)
  reloaded : runtime.safeLoadAll patched = .ok documents
  accepted : Value.sameItems documents (originals.set index expected) = true

theorem orYamlError_ok : orYamlError message action = .ok value ↔ action = .ok value := by
  unfold orYamlError
  split
  next => simp
  next => rfl

theorem declaredDocuments_ok : declaredDocuments runtime source = .ok (nodes, originals) ↔
    runtime.scanHasAnchors source = .ok false ∧ runtime.composeAll source = .ok nodes ∧
      runtime.safeLoadAll source = .ok originals ∧ nodes.length = originals.length := by
  unfold declaredDocuments
  constructor
  · intro done
    obtain ⟨anchors, scanned, done⟩ := bind_eq_ok.mp done
    cases anchors with
    | true => cases done
    | false =>
      obtain ⟨found, composed, done⟩ := bind_eq_ok.mp done
      obtain ⟨values, loaded, done⟩ := bind_eq_ok.mp done
      split at done
      next => cases done
      next lengths =>
        cases done
        exact ⟨orYamlError_ok.mp scanned, orYamlError_ok.mp composed, orYamlError_ok.mp loaded,
          not_not.mp lengths⟩
  · rintro ⟨scanned, composed, loaded, lengths⟩
    refine bind_eq_ok.mpr ⟨false, orYamlError_ok.mpr scanned, ?_⟩
    refine bind_eq_ok.mpr ⟨nodes, orYamlError_ok.mpr composed, ?_⟩
    refine bind_eq_ok.mpr ⟨originals, orYamlError_ok.mpr loaded, ?_⟩
    rw [if_neg (not_not.mpr lengths)]

theorem materializeDeclaredScalarPatch_ok :
    materializeDeclaredScalarPatch runtime source patch allow = .ok patched ↔
      Nonempty (DeclaredRun runtime source patch allow patched) := by
  unfold materializeDeclaredScalarPatch
  constructor
  · intro done
    split at done
    next => cases done
    next sourceType =>
      split at done
      next => cases done
      next nonempty =>
        obtain ⟨⟨nodes, originals⟩, read, done⟩ := bind_eq_ok.mp done
        obtain ⟨scanned, composed, loaded, lengths⟩ := declaredDocuments_ok.mp read
        obtain ⟨index, selected, done⟩ := bind_eq_ok.mp done
        split at done
        next original root document node =>
          obtain ⟨⟨edits, expected⟩, edited, done⟩ := bind_eq_ok.mp done
          dsimp only at done
          split at done
          next distinct =>
            obtain ⟨documents, reloaded, done⟩ := bind_eq_ok.mp done
            split at done
            next accepted =>
              cases done
              exact ⟨{
                nodes, originals, documents, index, original, root, edits, expected, nonempty,
                scanned, composed, loaded, lengths, selected, document, node, edited,
                distinct, accepted
                sourceType := not_not.mp sourceType
                text := rfl
                reloaded := orYamlError_ok.mp reloaded }⟩
            next => cases done
          next => cases done
        next => cases done
  · rintro ⟨run⟩
    rw [if_neg (not_not.mpr run.sourceType), if_neg run.nonempty]
    have read := declaredDocuments_ok.mpr ⟨run.scanned, run.composed, run.loaded, run.lengths⟩
    refine bind_eq_ok.mpr ⟨(run.nodes, run.originals), read,
      bind_eq_ok.mpr ⟨run.index, run.selected, ?_⟩⟩
    simp only [run.document, run.node]
    refine bind_eq_ok.mpr ⟨(run.edits, run.expected), run.edited, ?_⟩
    simp only [if_pos run.distinct, ← run.text]
    exact bind_eq_ok.mpr ⟨run.documents, orYamlError_ok.mpr run.reloaded, if_pos run.accepted⟩

/-- What the loop has found for one replacement: its desired value, or its approved
current value, which it then edits. -/
def Held (original : Value) (edited : List ScalarFieldReplacement)
    (item : ScalarFieldReplacement) : Prop :=
  ∃ current, objectValueAt original item.segments = .ok current ∧
    (current.sameScalar item.desiredValue = true ∨
      item ∈ edited ∧ current.sameScalar item.currentValue = true)

theorem selectDeclaredEdits_spec
    (done : selectDeclaredEdits runtime root original allow items expected = .ok (edits, final)) :
    assignAll items expected = .ok final ∧ ∃ edited, edited.Sublist items ∧
      List.Forall₂ (Encodes runtime root) edited edits ∧
      ∀ item ∈ items, Held original edited item := by
  induction items generalizing expected edits with
  | nil =>
    cases done
    exact ⟨rfl, [], .slnil, .nil, by simp⟩
  | cons item items ih =>
    simp only [selectDeclaredEdits] at done
    obtain ⟨current, read, done⟩ := bind_eq_ok.mp done
    split at done
    next applied =>
      obtain ⟨assigned, assign, done⟩ := bind_eq_ok.mp done
      obtain ⟨document, edited, sublist, encoded, held⟩ := ih done
      refine ⟨?_, edited, sublist.cons item, encoded, fun other member => ?_⟩
      · rw [assignAll, List.foldlM_cons]
        exact bind_eq_ok.mpr ⟨assigned, assign, document⟩
      · obtain rfl | member := List.mem_cons.mp member
        · exact ⟨current, read, .inl (Bool.and_eq_true_iff.mp applied).2⟩
        · exact held other member
    next =>
      split at done
      next approved =>
        obtain ⟨node, found, done⟩ := bind_eq_ok.mp done
        split at done
        next leaf =>
          obtain ⟨text, encodes, done⟩ := bind_eq_ok.mp done
          obtain ⟨assigned, assign, done⟩ := bind_eq_ok.mp done
          obtain ⟨⟨later, last⟩, rest, done⟩ := bind_eq_ok.mp done
          cases done
          obtain ⟨document, edited, sublist, encoded, held⟩ := ih rest
          refine ⟨?_, item :: edited, sublist.cons_cons item,
            .cons ⟨leaf, text, found, encodes, rfl⟩ encoded, fun other member => ?_⟩
          · rw [assignAll, List.foldlM_cons]
            exact bind_eq_ok.mpr ⟨assigned, assign, document⟩
          · obtain rfl | member := List.mem_cons.mp member
            · exact ⟨current, read, .inr ⟨List.mem_cons_self, approved⟩⟩
            · obtain ⟨value, stored, holds⟩ := held other member
              exact ⟨value, stored, holds.imp_right fun both =>
                ⟨List.mem_cons_of_mem _ both.1, both.2⟩⟩
        next => cases done
      next => cases done

theorem selectDeclaredEdits_applied (assigned : assignAll items expected = .ok final)
    (applied : ∀ item ∈ items, ∃ value, objectValueAt original item.segments = .ok value ∧
      value.sameScalar item.desiredValue = true) :
    selectDeclaredEdits runtime root original true items expected = .ok ([], final) := by
  induction items generalizing expected with
  | nil =>
    cases assigned
    rfl
  | cons item items ih =>
    rw [assignAll, List.foldlM_cons] at assigned
    obtain ⟨middle, assign, assigned⟩ := bind_eq_ok.mp assigned
    obtain ⟨value, read, holds⟩ := applied item List.mem_cons_self
    have rest := ih assigned fun item member => applied item (List.mem_cons_of_mem _ member)
    rw [selectDeclaredEdits]
    refine bind_eq_ok.mpr ⟨value, read, ?_⟩
    rw [if_pos (by simpa using holds)]
    exact bind_eq_ok.mpr ⟨middle, assign, rest⟩

end run

section identity

/-- The namespace that a value at `metadata.namespace` stands for, if it can. -/
def namespaceOf : Option Value → Option (Option String)
  | none | some (.scalar .none) => some none
  | some (.scalar (.str namespace_)) => some (some namespace_)
  | some _ => none

def identitySegments : List (List FieldPathSegment) :=
  [[⟨"apiVersion", none⟩], [⟨"kind", none⟩], [⟨"metadata", none⟩, ⟨"name", none⟩],
    [⟨"metadata", none⟩, ⟨"namespace", none⟩]]

theorem read_key (entries : Entries) (key : String) :
    Value.access.read [.key key] (.dict entries) = Entries.lookup (.str key) entries := by
  simp only [Access.read, Value.access, Value.getStep, Option.bind_fun_some]

theorem read_below (found : Entries.lookup (.str key) entries = some child) (rest : List Step) :
    Value.access.read (.key key :: rest) (.dict entries) = Value.access.read rest child := by
  rw [Access.read, show Value.access.get (.key key) (.dict entries) = some child from found,
    Option.bind_some]

/-- The identity of a document is what it reads at four places. -/
theorem documentIdentity_iff {document : Value} : documentIdentity document = some identity ↔
    Value.access.read [.key "apiVersion"] document = some (.scalar (.str identity.apiVersion)) ∧
    Value.access.read [.key "kind"] document = some (.scalar (.str identity.kind)) ∧
    Value.access.read [.key "metadata", .key "name"] document =
      some (.scalar (.str identity.name)) ∧
    namespaceOf (Value.access.read [.key "metadata", .key "namespace"] document) =
      some identity.namespace_ ∧
    (notBlank identity.apiVersion && notBlank identity.kind && notBlank identity.name) = true := by
  cases document with
  | scalar | list => exact ⟨nofun, fun reads => nomatch reads.1⟩
  | dict resource =>
    simp only [documentIdentity, manifestIdentity, read_key]
    constructor
    · intro found
      split at found
      next metadata stored =>
        simp only [read_below stored, read_key]
        split at found
        next apiVersion kind name storedVersion storedKind storedName =>
          split at found
          next texts =>
            split at found
            next absent =>
              cases found
              exact ⟨storedVersion, storedKind, storedName, by rw [absent]; rfl, texts⟩
            next null =>
              cases found
              exact ⟨storedVersion, storedKind, storedName, by rw [null]; rfl, texts⟩
            next namespace_ storedNamespace =>
              cases found
              exact ⟨storedVersion, storedKind, storedName, by rw [storedNamespace]; rfl, texts⟩
            next => cases found
          next => cases found
        next => cases found
      next => cases found
    · rintro ⟨storedVersion, storedKind, storedName, storedNamespace, texts⟩
      obtain ⟨child, stored, inner⟩ := Option.bind_eq_some_iff.mp storedName
      change Entries.lookup (.str "metadata") resource = some child at stored
      cases child with
      | scalar | list => cases inner
      | dict metadata =>
        rw [read_below stored, read_key] at storedName storedNamespace
        simp only [stored, storedVersion, storedKind, storedName, if_pos texts]
        obtain ⟨apiVersion, kind, namespace_, name⟩ := identity
        split
        next absent =>
          rw [absent] at storedNamespace
          cases storedNamespace
          rfl
        next null =>
          rw [null] at storedNamespace
          cases storedNamespace
          rfl
        next found =>
          rw [found] at storedNamespace
          cases storedNamespace
          rfl
        next other absent null text =>
          rw [text] at storedNamespace
          unfold namespaceOf at storedNamespace
          split at storedNamespace <;> simp_all

theorem agree_str (agree : Value.Agree one two) :
    one = some (.scalar (.str text)) ↔ two = some (.scalar (.str text)) := by
  cases agree with
  | none => rfl
  | @some left right equal =>
    simp only [Option.some.injEq]
    constructor
    · rintro rfl
      exact Value.same_str.mp equal
    · rintro rfl
      exact Value.same_str_right.mp equal

theorem namespaceOf_scalar (value : Scalar) : namespaceOf (some (.scalar value)) =
    match value.canonical with
    | .none => some none
    | .str text => some (some text)
    | _ => none := by
  cases value with
  | float number => cases number <;> rfl
  | none | bool | int | str | other => rfl

theorem agree_namespaceOf (agree : Value.Agree one two) : namespaceOf one = namespaceOf two := by
  cases agree with
  | none => rfl
  | @some left right equal =>
    cases left with
    | scalar left =>
      cases right with
      | scalar right =>
        rw [namespaceOf_scalar, namespaceOf_scalar, Scalar.same_iff.mp equal]
      | list | dict => cases equal
    | list left =>
      cases right with
      | list => rfl
      | scalar | dict => cases equal
    | dict left =>
      cases right with
      | dict => rfl
      | scalar | list => cases equal

theorem documentIdentity_agree {one two : Value}
    (agree : ∀ segments ∈ identitySegments, Value.Agree (Value.access.read (location segments) one)
      (Value.access.read (location segments) two)) :
    documentIdentity one = documentIdentity two := by
  simp only [identitySegments, List.forall_mem_cons] at agree
  obtain ⟨version, kind, name, namespace_, _⟩ := agree
  refine Option.ext fun identity => ?_
  rw [documentIdentity_iff, documentIdentity_iff]
  have spaces := agree_namespaceOf namespace_
  simp only [location, FieldPathSegment.steps, List.flatMap_cons, List.flatMap_nil, Option.map_none,
    Option.toList_none, List.append_nil, List.cons_append,
    List.nil_append] at version kind name spaces
  rw [agree_str version, agree_str kind, agree_str name, spaces]

theorem identity_apart {document : Value} {segments : List FieldPathSegment}
    (identified : documentIdentity document = some identity)
    (read : Value.access.read (location segments) document = some (.scalar value))
    (outside : segments ∉ identitySegments) :
    ∀ protected_ ∈ identitySegments, Apart (location segments) (location protected_) := by
  obtain ⟨version, kind, name, namespace_, _⟩ := documentIdentity_iff.mp identified
  simp only [identitySegments, List.mem_cons, List.not_mem_nil, or_false, not_or] at outside
  obtain ⟨notVersion, notKind, notName, notNamespace⟩ := outside
  intro protected_ member
  simp only [identitySegments, List.mem_cons, List.not_mem_nil, or_false] at member
  rcases member with rfl | rfl | rfl | rfl
  · exact location_apart notVersion read version
  · exact location_apart notKind read kind
  · exact location_apart notName read name
  · cases stored : Value.access.read [.key "metadata", .key "namespace"] document with
    | some space =>
      rw [stored] at namespace_
      cases space with
      | scalar space => exact location_apart notNamespace read stored
      | list | dict => cases namespace_
    | none =>
      -- Without a namespace, a place at or above it is no scalar, and nothing is below it.
      have place : location [⟨"metadata", none⟩, ⟨"namespace", none⟩] =
          [.key "metadata", .key "namespace"] := rfl
      obtain ⟨metadata, found, inner⟩ := Option.bind_eq_some_iff.mp name
      rw [place]
      generalize location segments = path at read
      constructor
      · rintro ⟨rest, extended⟩
        cases path with
        | nil =>
          cases read
          cases identified
        | cons first path =>
          cases path with
          | nil =>
            cases extended
            obtain ⟨_, again, read⟩ := Option.bind_eq_some_iff.mp read
            cases found.symm.trans again
            cases read
            cases inner
          | cons second path =>
            cases path with
            | nil =>
              cases extended
              cases stored.symm.trans read
            | cons third more => cases extended
      · rintro ⟨rest, extended⟩
        rw [← extended, Access.read_append, stored] at read
        cases read

end identity

section idempotence

/-- No replacement addresses the identity of the document, or the name of an entry that
its own path selects by that name. -/
def DeclaredScalarPatch.Addressable (patch : DeclaredScalarPatch) : Prop :=
  ∀ item ∈ patch.replacements, item.segments ∉ identitySegments ∧ ¬endsAtName item.segments

theorem forall₂_getElem? {R : α → β → Prop} {lefts : List α} {rights : List β}
    (related : List.Forall₂ R lefts rights) (index : Nat) :
    Option.Rel R lefts[index]? rights[index]? := by
  induction related generalizing index with
  | nil => exact .none
  | cons first _ ih =>
    cases index with
    | zero => exact .some first
    | succ index => exact ih index

theorem forall₂_set {R : α → α → Prop} {items : List α} (same : ∀ item ∈ items, R item item)
    (replaced : ∀ item ∈ items[index]?, R item new) :
    List.Forall₂ R items (items.set index new) := by
  induction items generalizing index with
  | nil => exact .nil
  | cons first items ih =>
    have rest : ∀ item ∈ items, R item item :=
      fun item member => same item (List.mem_cons_of_mem _ member)
    cases index with
    | zero => exact .cons (replaced first rfl) (List.forall₂_same.mpr rest)
    | succ index => exact .cons (same first List.mem_cons_self) (ih rest replaced)

theorem assignAll_exists {items : List ScalarFieldReplacement} {document : Value}
    (present : ∀ item ∈ items, ∃ old, Value.access.read item.location document = some old)
    (apart : items.Pairwise fun one two => Apart one.location two.location)
    (permitted : ∀ item ∈ items, ¬endsAtName item.segments)
    (plain : ∀ item ∈ items, ∃ last ∈ item.segments.getLast?, last.plain) :
    ∃ final, assignAll items document = .ok final := by
  induction items generalizing document with
  | nil => exact ⟨document, rfl⟩
  | cons item items ih =>
    obtain ⟨fromFirst, others⟩ := List.pairwise_cons.mp apart
    obtain ⟨old, stored⟩ := present item List.mem_cons_self
    obtain ⟨last, isLast, isPlain⟩ := plain item List.mem_cons_self
    obtain ⟨middle, assign⟩ :=
      setObjectValue_exists (objectValueAt_ok.mpr stored) isLast isPlain item.desiredValue
    have write := setObjectValue_write assign stored (permitted item List.mem_cons_self)
    have rest : ∀ other ∈ items, ∃ old, Value.access.read other.location middle = some old := by
      intro other member
      rw [Access.read_write_apart (fromFirst other member) write]
      exact present other (List.mem_cons_of_mem _ member)
    obtain ⟨final, assigned⟩ :=
      ih rest others (fun item member => permitted item (List.mem_cons_of_mem _ member))
      fun item member => plain item (List.mem_cons_of_mem _ member)
    refine ⟨final, ?_⟩
    rw [assignAll, List.foldlM_cons]
    exact bind_eq_ok.mpr ⟨middle, assign, assigned⟩

theorem assignAll_equal {items : List ScalarFieldReplacement} {document : Value}
    (formed : document.WellFormed)
    (written : Value.access.writeAll (items.map fun item => (item.location, item.desiredValue))
      document = some final)
    (holds : ∀ item ∈ items, ∃ value, Value.access.read item.location document =
      some (.scalar value) ∧
      (Value.scalar value).same item.desiredValue = true) : document.same final = true := by
  have unchanged : Value.access.writeAll (sourceEdits document items) document = some document := by
    refine Access.writeAll_read Value.access_exact fun edit member => ?_
    obtain ⟨item, among, rfl⟩ := List.mem_map.mp member
    obtain ⟨value, read, _⟩ := holds item among
    rw [read, Option.getD_some]
  have edits : Value.SameEdits (sourceEdits document items)
      (items.map fun item => (item.location, item.desiredValue)) := by
    refine List.forall₂_map_left_iff.mpr (List.forall₂_map_right_iff.mpr (List.forall₂_same.mpr ?_))
    intro item member
    obtain ⟨value, read, equal⟩ := holds item member
    exact ⟨rfl, by rw [read]; exact equal⟩
  have valuesFormed : ∀ edit ∈ sourceEdits document items, edit.2.WellFormed := by
    intro edit member
    obtain ⟨item, among, rfl⟩ := List.mem_map.mp member
    obtain ⟨value, read, _⟩ := holds item among
    rw [read]
    exact .scalar
  obtain ⟨counterpart, rewritten, alike⟩ :=
    Value.writeAll_same edits formed valuesFormed (Value.same_refl formed) unchanged
  cases rewritten.symm.trans written
  exact alike

theorem Held.scalar (held : Held original edited item)
    (current : scalarValue item.currentValue = true)
    (desired : scalarValue item.desiredValue = true) :
    ∃ value, Value.access.read item.location original = some (.scalar value) := by
  obtain ⟨value, read, applied | ⟨_, approved⟩⟩ := held
  · obtain ⟨found, rfl⟩ := scalar_of_scalarValue (scalarValue_of_sameScalar applied desired)
    exact ⟨found, objectValueAt_ok.mp read⟩
  · obtain ⟨found, rfl⟩ := scalar_of_scalarValue (scalarValue_of_sameScalar approved current)
    exact ⟨found, objectValueAt_ok.mp read⟩

namespace DeclaredRun
variable {parser : Parser} {patch : DeclaredScalarPatch}

section patched
variable (run : DeclaredRun parser.toRuntime source patch true patched)
include run

theorem scalars : ∀ item ∈ patch.replacements, ∃ value,
    Value.access.read item.location (.dict run.original) = some (.scalar value) := by
  obtain ⟨_, edited, _, _, held⟩ := selectDeclaredEdits_spec run.edited
  intro item member
  obtain ⟨current, desired⟩ := patch.typed item member
  exact (held item member).scalar current desired

theorem document_same : ∃ changed, run.documents[run.index]? = some changed ∧
    changed.same run.expected = true := by
  have related := forall₂_getElem? (Value.sameItems_iff.mp run.accepted) run.index
  have bound : run.index < run.originals.length := (List.getElem?_eq_some_iff.mp run.document).1
  rw [List.getElem?_set_self bound] at related
  generalize run.documents[run.index]? = found at related
  cases related with
  | some equal => exact ⟨_, rfl, equal⟩

theorem others_agree (other : Nat) (different : other ≠ run.index) :
    Value.Agree run.documents[other]? run.originals[other]? := by
  have related := forall₂_getElem? (Value.sameItems_iff.mp run.accepted) other
  rwa [List.getElem?_set_ne different.symm] at related

theorem lengths_eq : run.documents.length = run.originals.length := by
  have related := (Value.sameItems_iff.mp run.accepted).length_eq
  rwa [List.length_set] at related

variable (distinct : (patch.replacements.map (·.fieldPath)).Nodup)
include distinct

theorem segments_ne :
    patch.replacements.Pairwise fun one two => one.segments ≠ two.segments := by
  refine (List.pairwise_map.mp distinct).imp_of_mem fun {one two} oneIn _ different same => ?_
  refine different (fieldPathSegments_injective ?_ same)
  intro empty
  obtain ⟨value, read⟩ := run.scalars one oneIn
  rw [ScalarFieldReplacement.location, ScalarFieldReplacement.segments, empty] at read
  cases read

theorem apart :
    patch.replacements.Pairwise fun one two => Apart one.location two.location := by
  refine (run.segments_ne distinct).imp_of_mem fun {one two} oneIn twoIn different => ?_
  obtain ⟨_, oneRead⟩ := run.scalars one oneIn
  obtain ⟨_, twoRead⟩ := run.scalars two twoIn
  exact location_apart different oneRead twoRead

variable (addressable : patch.Addressable)
include addressable

theorem written :
    Value.access.writeAll (patch.replacements.map fun item => (item.location, item.desiredValue))
      (.dict run.original) = some run.expected := by
  refine assignAll_writes (selectDeclaredEdits_spec run.edited).1 ?_ (run.apart distinct) ?_
  · intro item member
    obtain ⟨value, read⟩ := run.scalars item member
    exact ⟨_, read⟩
  · intro item member
    exact (addressable item member).2

theorem reads_desired (alike : changed.same run.expected = true) :
    ∀ item ∈ patch.replacements, ∃ value,
      objectValueAt changed item.segments = .ok value ∧ value.same item.desiredValue = true := by
  intro item member
  have reads := Access.read_writeAll (List.pairwise_map.mpr (run.apart distinct))
    (run.written distinct addressable)
  have agree := Value.read_same alike item.location
  rw [reads _ (List.mem_map_of_mem member)] at agree
  cases found : Value.access.read item.location changed with
  | none =>
    rw [found] at agree
    cases agree
  | some value =>
    rw [found] at agree
    cases agree with
    | some equal => exact ⟨value, objectValueAt_ok.mpr found, equal⟩

theorem reads_apart (alike : changed.same run.expected = true)
    (outside : ∀ item ∈ patch.replacements, Apart item.location path) :
    Value.Agree (Value.access.read path changed) (Value.access.read path (.dict run.original)) := by
  have apart : ∀ edit ∈ patch.replacements.map fun item => (item.location, item.desiredValue),
      Apart edit.1 path := by
    intro edit member
    obtain ⟨item, among, rfl⟩ := List.mem_map.mp member
    exact outside item among
  rw [← Access.read_writeAll_apart apart (run.written distinct addressable)]
  exact Value.read_same alike path

theorem reads_typed (stored : run.documents[run.index]? = some changed)
    (alike : changed.same run.expected = true) :
    parser.scanHasAnchors patched = .ok false ∧ ∀ item ∈ patch.replacements, ∃ value,
      objectValueAt changed item.segments = .ok value ∧
      value.sameScalar item.desiredValue = true := by
  obtain ⟨_, edited, sublist, encoded, held⟩ := selectDeclaredEdits_spec run.edited
  have desired := run.reads_desired distinct addressable alike
  have reloaded := (congrArg parser.safeLoadAll run.text).symm.trans run.reloaded
  obtain ⟨scanned, typed, kept⟩ :=
    parser.reads_back run.scanned run.composed run.node run.loaded run.document
    encoded run.distinct reloaded stored fun item member => desired item (sublist.subset member)
  refine ⟨(congrArg parser.scanHasAnchors run.text).trans scanned, fun item member => ?_⟩
  obtain ⟨value, read, equal⟩ := desired item member
  refine ⟨value, read, ?_⟩
  by_cases inEdited : item ∈ edited
  · exact typed item inEdited value read
  · obtain ⟨current, before, applied | ⟨impossible, _⟩⟩ := held item member
    · obtain ⟨wanted, isScalar⟩ := scalar_of_scalarValue (patch.typed item member).2
      rw [isScalar] at applied equal ⊢
      obtain ⟨old, rfl, sameType, sameValue⟩ := Value.scalar_of_sameScalar applied
      cases value with
      | list | dict => cases equal
      | scalar new =>
        have canonical := Scalar.same_iff.mp equal
        have elsewhere : ∀ other ∈ edited, other.segments ≠ item.segments := by
          intro other among
          have different : other ≠ item := fun same => inEdited (same ▸ among)
          have symmetric : Std.Symm fun one two : ScalarFieldReplacement =>
              one.segments ≠ two.segments :=
            ⟨fun _ _ => Ne.symm⟩
          exact (run.segments_ne distinct).forall (sublist.subset among) member different
        have sameOld : old.same new = true := by
          simp only [Scalar.equal, Bool.and_eq_true, Scalar.same_iff] at sameValue
          exact Scalar.same_iff.mpr (sameValue.2.trans canonical.symm)
        have kind := kept item.segments elsewhere old new before read sameOld
        exact Value.sameScalar_retyped kind sameOld applied
    · exact absurd impossible inEdited

theorem index_stable :
    documentIndex patch.documentIdentity run.documents = .ok run.index := by
  have selected := run.selected
  cases asked : patch.documentIdentity with
  | none =>
    rw [asked] at selected
    simpa only [documentIndex, run.lengths_eq] using selected
  | some identity =>
    rw [asked] at selected
    have identified : documentIdentity (.dict run.original) = some identity := by
      simp only [documentIndex] at selected
      split at selected
      next index only =>
        cases selected
        have member : run.index ∈ identityMatches identity run.originals :=
          only ▸ List.mem_singleton_self _
        simpa [run.document] using (List.mem_filter.mp member).2
      next => cases selected
    have same (other : Nat) : run.documents[other]?.bind documentIdentity =
        run.originals[other]?.bind documentIdentity := by
      by_cases isIndex : other = run.index
      · obtain ⟨changed, stored, alike⟩ := run.document_same
        rw [isIndex, stored, run.document, Option.bind_some, Option.bind_some]
        refine documentIdentity_agree fun segments member => ?_
        refine run.reads_apart distinct addressable alike fun item among => ?_
        obtain ⟨value, read⟩ := run.scalars item among
        exact identity_apart identified read (addressable item among).1 segments member
      · have agree := run.others_agree other isIndex
        generalize run.documents[other]? = one at agree
        generalize run.originals[other]? = two at agree
        cases agree with
        | none => rfl
        | some alike =>
          exact documentIdentity_agree fun segments _ => Value.read_same alike (location segments)
    simpa only [documentIndex, identityMatches, run.lengths_eq, same] using selected

/-- The same call on the patched source goes through, and has nothing to edit. -/
theorem again :
    Nonempty (DeclaredRun parser.toRuntime patched patch true patched) := by
  obtain ⟨changed, stored, alike⟩ := run.document_same
  obtain ⟨scanned, typed⟩ := run.reads_typed distinct addressable stored alike
  obtain ⟨nodes, composed, matching⟩ := parser.composes run.reloaded
  have formed := parser.loads_wellFormed run.reloaded
  have changedFormed := formed changed (List.mem_of_getElem? stored)
  have holds : ∀ item ∈ patch.replacements, ∃ value, Value.access.read item.location changed =
      some (.scalar value) ∧ (Value.scalar value).same item.desiredValue = true := by
    intro item member
    obtain ⟨value, read, equal⟩ := typed item member
    obtain ⟨found, rfl⟩ :=
      scalar_of_scalarValue (scalarValue_of_sameScalar equal (patch.typed item member).2)
    exact ⟨found, objectValueAt_ok.mp read, same_of_sameScalar equal⟩
  have object : ∃ entries, changed = .dict entries := by
    obtain ⟨item, member⟩ := List.exists_mem_of_ne_nil _ run.nonempty
    obtain ⟨_, before⟩ := run.scalars item member
    obtain ⟨_, after, _⟩ := holds item member
    rw [ScalarFieldReplacement.location] at before after
    cases segments : item.segments with
    | nil =>
      rw [segments] at before
      cases before
    | cons segment rest =>
      rw [segments] at after
      cases changed with
      | dict entries => exact ⟨entries, rfl⟩
      | scalar | list => cases after
  obtain ⟨entries, rfl⟩ := object
  obtain ⟨root, node⟩ : ∃ root, nodes[run.index]? = some (.mapping root) := by
    have related := forall₂_getElem? matching run.index
    rw [stored] at related
    generalize nodes[run.index]? = found at related
    cases related with
    | some mapping =>
      obtain ⟨root, rfl⟩ := mapping rfl
      exact ⟨root, rfl⟩
  have plain := assignAll_plain (selectDeclaredEdits_spec run.edited).1
  have present : ∀ item ∈ patch.replacements, ∃ old,
      Value.access.read item.location (.dict entries) = some old := by
    intro item member
    obtain ⟨value, read, _⟩ := holds item member
    exact ⟨_, read⟩
  have permitted : ∀ item ∈ patch.replacements, ¬endsAtName item.segments :=
    fun item member => (addressable item member).2
  obtain ⟨final, assigned⟩ := assignAll_exists present (run.apart distinct) permitted plain
  have written := assignAll_writes assigned present (run.apart distinct) permitted
  have equal := assignAll_equal changedFormed written holds
  refine ⟨{
    nodes, composed, scanned, node
    originals := run.documents
    documents := run.documents
    index := run.index
    original := entries
    root := root
    edits := []
    expected := final
    sourceType := run.sourceType
    nonempty := run.nonempty
    loaded := run.reloaded
    lengths := matching.length_eq.symm
    selected := run.index_stable distinct addressable
    document := stored
    edited := selectDeclaredEdits_applied assigned typed
    distinct := .nil
    text := (String.ofList_toList).symm
    reloaded := run.reloaded
    accepted := ?_ }⟩
  refine Value.sameItems_iff.mpr
    (forall₂_set (fun item member => Value.same_refl (formed item member)) ?_)
  intro item member
  cases stored.symm.trans member
  exact equal

end patched

end DeclaredRun

/-- What a patched source holds: every declared scalar at its desired value, and
everything else as the source has it. -/
def Declares (patch : DeclaredScalarPatch) (originals documents : List Value)
    (index : Nat) : Prop :=
  ∃ original document, originals[index]? = some original ∧ documents[index]? = some document ∧
    (∀ item ∈ patch.replacements, ∃ value, objectValueAt document item.segments = .ok value ∧
      value.sameScalar item.desiredValue = true) ∧
    (∀ segments, (∀ item ∈ patch.replacements, Apart item.location (location segments)) →
      Value.Agree (objectValueAt document segments).toOption
        (objectValueAt original segments).toOption) ∧
    ∀ other ≠ index, Value.Agree documents[other]? originals[other]?

/-- The selected document holds, at a declared place, neither the approved current nor
the desired value. -/
def Conflicts (patch : DeclaredScalarPatch) (originals : List Value) (index : Nat) : Prop :=
  ∃ original item value, originals[index]? = some original ∧ item ∈ patch.replacements ∧
    objectValueAt original item.segments = .ok value ∧ value.sameScalar item.currentValue = false ∧
    value.sameScalar item.desiredValue = false

/-- Declared patching is idempotent, all-or-nothing, and refuses third values. -/
theorem materializeDeclaredScalarPatch_idempotent (parser : Parser) (source : String)
    (patch : DeclaredScalarPatch) (distinct : (patch.replacements.map (·.fieldPath)).Nodup)
    (addressable : patch.Addressable) :
    (∀ patched, materializeDeclaredScalarPatch parser.toRuntime source patch true = .ok patched →
      materializeDeclaredScalarPatch parser.toRuntime patched patch true = .ok patched ∧
      ∃ originals documents index, parser.safeLoadAll source = .ok originals ∧
        parser.safeLoadAll patched = .ok documents ∧
        documentIndex patch.documentIdentity originals = .ok index ∧
          Declares patch originals documents index) ∧
    ∀ originals index, parser.safeLoadAll source = .ok originals →
      documentIndex patch.documentIdentity originals = .ok index → Conflicts patch originals index →
      ∃ error, materializeDeclaredScalarPatch parser.toRuntime source patch true =
        .error error := by
  constructor
  · intro patched done
    obtain ⟨run⟩ := materializeDeclaredScalarPatch_ok.mp done
    refine ⟨materializeDeclaredScalarPatch_ok.mpr (run.again distinct addressable), run.originals,
      run.documents, run.index, run.loaded, run.reloaded, run.selected, ?_⟩
    obtain ⟨changed, stored, alike⟩ := run.document_same
    refine ⟨.dict run.original, changed, run.document, stored,
      (run.reads_typed distinct addressable stored alike).2,
      fun segments outside => ?_, run.others_agree⟩
    rw [objectValueAt_toOption, objectValueAt_toOption]
    exact run.reads_apart distinct addressable alike outside
  · intro originals index loaded selected conflict
    cases done : materializeDeclaredScalarPatch parser.toRuntime source patch true with
    | error error => exact ⟨error, rfl⟩
    | ok patched =>
      obtain ⟨run⟩ := materializeDeclaredScalarPatch_ok.mp done
      cases loaded.symm.trans run.loaded
      cases selected.symm.trans run.selected
      obtain ⟨original, item, value, stored, member, read, notCurrent, notDesired⟩ := conflict
      cases stored.symm.trans run.document
      obtain ⟨_, edited, _, _, held⟩ := selectDeclaredEdits_spec run.edited
      obtain ⟨found, again, applied | ⟨_, approved⟩⟩ := held item member
      · cases read.symm.trans again
        cases notDesired.symm.trans applied
      · cases read.symm.trans again
        cases notCurrent.symm.trans approved

section sample

def quotedSource (texts : String × String) : String :=
  "a: '" ++ texts.1 ++ "'\nb: '" ++ texts.2 ++ "'\n"

def quotedDocument (texts : String × String) : Value :=
  .dict [(.str "a", .scalar (.str texts.1)), (.str "b", .scalar (.str texts.2))]

def quotedNode : Node :=
  .mapping [(.scalar ⟨0, 1, none, "a"⟩, .scalar ⟨3, 6, some '\'', ""⟩),
    (.scalar ⟨7, 8, none, "b"⟩, .scalar ⟨10, 13, some '\'', ""⟩)]

/-- Three sources with two quoted texts each. -/
def quotedTexts (source : String) : Option (String × String) :=
  [("1", "1"), ("2", "1"), ("2", "2")].find? fun texts => source = quotedSource texts

theorem quotedDocument_wellFormed (texts : String × String) :
    (quotedDocument texts).WellFormed := by
  refine .dict (by simp [Entries.Distinct, Scalar.canonical]) fun entry member => ?_
  simp only [List.mem_cons, List.not_mem_nil, or_false] at member
  obtain rfl | rfl := member <;> exact .scalar

theorem quotedDocument_scalar {segments : List FieldPathSegment} {value : Scalar}
    (read : objectValueAt (quotedDocument texts) segments = .ok (.scalar value)) :
    ∃ text, value = .str text := by
  rw [objectValueAt_ok] at read
  generalize location segments = path at read
  cases path with
  | nil => cases read
  | cons step rest =>
    obtain ⟨child, found, read⟩ := Option.bind_eq_some_iff.mp read
    cases step with
    | named => cases found
    | key key =>
      obtain ⟨stored, member, _⟩ :=
        Entries.mem_of_lookup (show Entries.lookup (.str key) _ = some child from found)
      have isText : ∃ text, child = .scalar (.str text) := by
        simp only [List.mem_cons, List.not_mem_nil, or_false] at member
        obtain same | same := member <;> cases same <;> exact ⟨_, rfl⟩
      obtain ⟨text, rfl⟩ := isText
      cases rest with
      | nil =>
        cases read
        exact ⟨text, rfl⟩
      | cons step _ => cases step <;> cases read

/-- Loading and composing both go by the texts. -/
def quotedResult (result : String × String → α) (source : String) : Except PatchError α :=
  match quotedTexts source with
  | some texts => .ok (result texts)
  | none => .error .yamlError

theorem quotedResult_ok (done : quotedResult result source = .ok value) :
    ∃ texts, quotedTexts source = some texts ∧ value = result texts := by
  unfold quotedResult at done
  split at done
  next texts found =>
    cases done
    exact ⟨texts, found, rfl⟩
  next => cases done

def quotedParser : Parser where
  safeLoadAll := quotedResult fun texts => [quotedDocument texts]
  safeLoad _ := .error .yamlError
  scanHasAnchors _ := .ok false
  composeAll := quotedResult fun _ => [quotedNode]
  jsonLoads _ := .error .yamlError
  floatText _ := ""
  canonicalManifestDigest _ := .error .typeError
  spans_inside {source nodes} composed := by
    obtain ⟨texts, found, rfl⟩ := quotedResult_ok composed
    rw [quotedTexts] at found
    have same : source = quotedSource texts := by simpa using List.find?_some found
    have member := List.mem_of_find?_eq_some found
    simp only [List.mem_cons, List.not_mem_nil, or_false] at member
    obtain rfl | rfl | rfl := member <;> rw [same] <;> decide
  spans_disjoint {source nodes} composed := by
    obtain ⟨text, _, rfl⟩ := quotedResult_ok composed
    unfold ScalarNode.disjoint
    decide
  loads_wellFormed {source values} loaded := by
    obtain ⟨text, _, rfl⟩ := quotedResult_ok loaded
    intro value member
    cases List.mem_singleton.mp member
    exact quotedDocument_wellFormed text
  composes {source documents} loaded := by
    obtain ⟨text, found, rfl⟩ := quotedResult_ok loaded
    exact ⟨[quotedNode], by rw [quotedResult, found], .cons (fun _ => ⟨_, rfl⟩) .nil⟩
  reads_back {source nodes root originals original edits documents document items index} _ _ _
    loaded before _ _
      reloaded after reads := by
    obtain ⟨old, _, rfl⟩ := quotedResult_ok loaded
    obtain ⟨new, _, rfl⟩ := quotedResult_ok reloaded
    have isOld : original = quotedDocument old := by simpa using List.mem_of_getElem? before
    have isNew : document = quotedDocument new := by simpa using List.mem_of_getElem? after
    subst isOld isNew
    refine ⟨rfl, fun item member value read => ?_, fun segments _ one two readOld readNew _ => ?_⟩
    · obtain ⟨found, again, equal⟩ := reads item member
      cases read.symm.trans again
      cases value with
      | scalar value =>
        obtain ⟨text, rfl⟩ := quotedDocument_scalar read
        rw [Value.same_str.mp equal]
        simp [Value.sameScalar, Scalar.sameType, Scalar.equal, Scalar.isNan, Scalar.same]
      | list | dict =>
        generalize item.desiredValue = wanted at equal ⊢
        cases wanted <;> exact equal
    · obtain ⟨_, rfl⟩ := quotedDocument_scalar readOld
      obtain ⟨_, rfl⟩ := quotedDocument_scalar readNew
      rfl

def quotedPatch (changes : List (String × String × String)) : DeclaredScalarPatch where
  sourceType := "raw-yaml"
  sourcePath := "values.yaml"
  replacements :=
    changes.map fun change => ⟨change.1, .scalar (.str change.2.1), .scalar (.str change.2.2)⟩
  documentIdentity := none
  typed item member := by
    obtain ⟨change, _, rfl⟩ := List.mem_map.mp member
    exact ⟨rfl, rfl⟩

theorem quotedPatch_addressable {changes : List (String × String × String)}
    (paths : ∀ change ∈ changes, change.1 ∈ ["a", "b"]) : (quotedPatch changes).Addressable := by
  intro item member
  obtain ⟨change, among, rfl⟩ := List.mem_map.mp member
  have segments : ∀ path ∈ ["a", "b"], fieldPathSegments path = [⟨path, none⟩] := by decide
  have others : ∀ path ∈ ["a", "b"], [⟨path, none⟩] ∉ identitySegments := by decide
  rw [ScalarFieldReplacement.segments, segments change.1 (paths change among)]
  exact ⟨others change.1 (paths change among), not_false⟩

theorem materializeDeclaredScalarPatch_idempotent_sample :
    let patch := quotedPatch [("a", "1", "2"), ("b", "1", "2")]
    materializeDeclaredScalarPatch quotedParser.toRuntime (quotedSource ("1", "1")) patch true =
      .ok (quotedSource ("2", "2")) ∧
    materializeDeclaredScalarPatch quotedParser.toRuntime (quotedSource ("2", "2")) patch true =
      .ok (quotedSource ("2", "2")) := by
  intro patch
  have run :
      (materializeDeclaredScalarPatch quotedParser.toRuntime (quotedSource ("1", "1")) patch
        true).toOption =
      some (quotedSource ("2", "2")) := by decide +kernel
  have done := toOption_ok run
  have distinct : (patch.replacements.map (·.fieldPath)).Nodup := by decide
  obtain ⟨idempotent, _⟩ :=
    materializeDeclaredScalarPatch_idempotent quotedParser (quotedSource ("1", "1"))
    patch distinct (quotedPatch_addressable (by decide))
  exact ⟨done, (idempotent _ done).1⟩

/-- Two replacements of one place, the first already applied: the second undoes it. -/
theorem materializeDeclaredScalarPatch_not_idempotent :
    let patch := quotedPatch [("a", "5", "1"), ("a", "1", "2")]
    patch.Addressable ∧
    materializeDeclaredScalarPatch quotedParser.toRuntime (quotedSource ("1", "1")) patch true =
      .ok (quotedSource ("2", "1")) ∧
    materializeDeclaredScalarPatch quotedParser.toRuntime (quotedSource ("2", "1")) patch true =
      .error (patchError declaredSourceStaleValueMessage) := by
  intro patch
  have first :
      (materializeDeclaredScalarPatch quotedParser.toRuntime (quotedSource ("1", "1")) patch
        true).toOption =
      some (quotedSource ("2", "1")) := by decide +kernel
  refine ⟨quotedPatch_addressable (by decide), toOption_ok first, ?_⟩
  decide +kernel

end sample

end idempotence

end K8sOps.Gitops
