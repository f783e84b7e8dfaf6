import K8sOps.Gitops.RemediationSource
import K8sOps.Gitops.SourcePatchProofs

/-! Which repository files an accepted contract names. The parts of a path are tested after
`PurePosixPath` has dropped the `.` segments, and the guards compare texts, so the paths of a
contract are canonical exactly when none of them has such a segment and no manifest is the
contract itself. -/
namespace K8sOps.Gitops
open Python Text

section paths

def normalForm (path : String) : String := joined (pathParts path)

theorem pathParts_of_inside (inside : Inside path) : pathParts path = slashed path := by
  refine List.filter_eq_self.mpr ?_
  intro part member
  obtain ⟨named, other, _⟩ := inside.2 part member
  simp [named, other]

theorem normalForm_of_inside (inside : Inside path) : normalForm path = path := by
  rw [normalForm, pathParts_of_inside inside, joined_slashed]

theorem eq_of_pathParts_eq (one : normalForm path = path) (two : normalForm other = other)
    (same : pathParts path = pathParts other) : path = other := by
  rw [← one, ← two, normalForm, normalForm, same]

structure SafePath (value : Value) (path : String) : Prop where
  text : value = .scalar (.str path)
  nonempty : path ≠ ""
  named : ∀ part ∈ slashed path, part ≠ []
  below : ['.', '.'] ∉ pathParts path

theorem safeRepoPath_ok (accepted : safeRepoPath value field = .ok path) : SafePath value path := by
  rw [safeRepoPath.eq_def] at accepted
  split at accepted
  next text =>
    split at accepted
    next => cases accepted
    next safe =>
      cases accepted
      push Not at safe
      obtain ⟨nonempty, _, first, last, _, single, _, _, _, below, _⟩ := safe
      refine ⟨rfl, nonempty, ?_, below⟩
      intro part member
      refine ne_nil_of_mem_splitOn ?_ ?_ ?_ single member
      · intro empty
        exact nonempty (String.toList_eq_nil_iff.mp empty)
      · intro slash
        obtain ⟨rest, text⟩ := List.head?_eq_some_iff.mp slash
        exact first (by simp [startsWith, text])
      · intro slash
        obtain ⟨rest, text⟩ := List.getLast?_eq_some_iff.mp slash
        exact last (by simp [endsWith, text])
  next => cases accepted

/-- An accepted path is in normal form exactly when it has no `.` segment. -/
theorem SafePath.canonical_iff (safe : SafePath value path) :
    (normalForm path = path ∧ Inside path) ↔ ['.'] ∉ slashed path := by
  constructor
  · rintro ⟨_, inside⟩ member
    exact (inside.2 _ member).2.1 rfl
  · intro undotted
    have inside : Inside path := by
      refine ⟨safe.nonempty, fun part member => ⟨safe.named part member, ?_, ?_⟩⟩
      · rintro rfl
        exact undotted member
      · rintro rfl
        exact safe.below (List.mem_filter.mpr ⟨member, by decide⟩)
    exact ⟨normalForm_of_inside inside, inside⟩

end paths

section contract

/-- What an entry of the document and its declaration have in common. -/
structure EntryDeclares (entry : Entries) (declared : RemediationSourceDeclaration) : Prop where
  manifest : SafePath (getOrNone "manifestPath" entry) declared.manifestPath
  source : SafePath (getOrNone "path" entry) declared.sourcePath
  foreign : declared.sourcePath ≠ remediationSourceContractPath

theorem parseSource_ok (accepted : parseSource value = .ok declared) :
    ∃ entry, value = .dict entry ∧ EntryDeclares entry declared := by
  rw [parseSource.eq_def] at accepted
  split at accepted
  next entry =>
    obtain ⟨sourceType, _, accepted⟩ := bind_eq_ok.mp accepted
    split at accepted
    next => cases accepted
    next =>
      obtain ⟨manifestPath, manifest, accepted⟩ := bind_eq_ok.mp accepted
      obtain ⟨sourcePath, source, accepted⟩ := bind_eq_ok.mp accepted
      split at accepted
      next => cases accepted
      next foreign =>
        obtain ⟨imagePath, _, accepted⟩ := bind_eq_ok.mp accepted
        obtain ⟨imageTagPath, _, accepted⟩ := bind_eq_ok.mp accepted
        obtain ⟨replicaPath, _, accepted⟩ := bind_eq_ok.mp accepted
        obtain ⟨probePaths, _, accepted⟩ := bind_eq_ok.mp accepted
        obtain ⟨imageNames, _, accepted⟩ := bind_eq_ok.mp accepted
        dsimp only at accepted
        split at accepted
        next => cases accepted
        next =>
          split at accepted
          next => cases accepted
          next =>
            cases accepted
            exact ⟨entry, rfl, safeRepoPath_ok manifest, safeRepoPath_ok source, foreign⟩
  next => cases accepted

variable (runtime : Runtime)

/-- The entries that the document lists under `spec.sources`. -/
def contractEntries (content : String) : List Entries :=
  match runtime.safeLoad content with
  | .ok payload =>
    match getOrNone "sources" (getMapping "spec" (asMapping payload)) with
    | .list items => items.map asMapping
    | _ => []
  | .error _ => []

theorem loadContract_ok (loaded : loadContract runtime content = .ok payload) :
    runtime.safeLoad content = .ok payload := by
  rw [loadContract] at loaded
  split at loaded
  next => cases loaded
  next =>
    obtain ⟨anchors, _, loaded⟩ := bind_eq_ok.mp loaded
    split at loaded
    next => cases loaded
    next =>
      obtain ⟨nodes, _, loaded⟩ := bind_eq_ok.mp loaded
      split at loaded
      next =>
        split at loaded
        next => cases loaded
        next =>
          cases read : runtime.safeLoad content with
          | error error =>
            rw [read] at loaded
            cases loaded
          | ok value =>
            rw [read] at loaded
            cases loaded
            rfl
      next => cases loaded

theorem parseRemediationSourceContract_ok
    (accepted : parseRemediationSourceContract runtime content = .ok contract) :
    List.Forall₂ EntryDeclares (contractEntries runtime content) contract.sources := by
  rw [parseRemediationSourceContract] at accepted
  obtain ⟨payload, loaded, accepted⟩ := bind_eq_ok.mp accepted
  have read := loadContract_ok runtime loaded
  split at accepted
  next payload =>
    split at accepted
    next => cases accepted
    next =>
      split at accepted
      next => cases accepted
      next =>
        split at accepted
        next spec isSpec =>
          split at accepted
          next => cases accepted
          next =>
            split at accepted
            next first rest items =>
              obtain ⟨sources, parsed, accepted⟩ := bind_eq_ok.mp accepted
              split at accepted
              next =>
                cases accepted
                have listed : contractEntries runtime content = (first :: rest).map asMapping := by
                  rw [contractEntries, read]
                  dsimp only
                  rw [asMapping, getMapping, isSpec, asMapping, items]
                rw [listed, List.forall₂_map_left_iff]
                refine (mapM_ok_iff.mp parsed).imp ?_
                intro value declared found
                obtain ⟨entry, rfl, declares⟩ := parseSource_ok found
                exact declares
              next => cases accepted
            next => cases accepted
        next => cases accepted
  next => cases accepted

end contract

section canonical

def RemediationSourceDeclaration.paths (declared : RemediationSourceDeclaration) : List String :=
  [declared.manifestPath, declared.sourcePath]

/-- Every path is its own normal form, different manifest paths denote different files and no
path denotes the contract. -/
structure Canonical (contract : RemediationSourceContract) : Prop where
  normal : ∀ declared ∈ contract.sources, ∀ path ∈ declared.paths, normalForm path = path ∧
    Inside path
  injective : ∀ one ∈ contract.sources, ∀ two ∈ contract.sources, one.manifestPath ≠
    two.manifestPath → pathParts one.manifestPath ≠ pathParts two.manifestPath
  foreign : ∀ declared ∈ contract.sources, ∀ path ∈ declared.paths,
    pathParts path ≠ pathParts remediationSourceContractPath

def textAt (key : String) (entry : Entries) : String :=
  match getOrNone key entry with
  | .scalar (.str text) => text
  | _ => ""

/-- The entry spells its paths without `.` segments and its manifest is not the contract. -/
def Undotted (entry : Entries) : Prop :=
  ['.'] ∉ slashed (textAt "manifestPath" entry) ∧ ['.'] ∉ slashed (textAt "path" entry) ∧
    textAt "manifestPath" entry ≠ remediationSourceContractPath

instance (entry : Entries) : Decidable (Undotted entry) :=
  decidable_of_iff ((slashed (textAt "manifestPath" entry)).contains ['.'] = false ∧
    (slashed (textAt "path" entry)).contains ['.'] = false ∧
    textAt "manifestPath" entry ≠ remediationSourceContractPath) (by simp [Undotted])

theorem SafePath.textAt (safe : SafePath (getOrNone key entry) path) : textAt key entry = path := by
  rw [Gitops.textAt, safe.text]

theorem EntryDeclares.undotted_iff (declares : EntryDeclares entry declared) : Undotted entry ↔
    ['.'] ∉ slashed declared.manifestPath ∧ ['.'] ∉ slashed declared.sourcePath ∧
      declared.manifestPath ≠ remediationSourceContractPath := by
  rw [Undotted, declares.manifest.textAt, declares.source.textAt]

theorem EntryDeclares.undotted_of_normal (declares : EntryDeclares entry declared)
    (normal : ∀ path ∈ declared.paths, normalForm path = path ∧ Inside path)
    (foreign : ∀ path ∈ declared.paths, pathParts path ≠ pathParts remediationSourceContractPath) :
    Undotted entry := by
  refine declares.undotted_iff.mpr ⟨?_, ?_, ?_⟩
  · exact declares.manifest.canonical_iff.mp (normal _ List.mem_cons_self)
  · exact declares.source.canonical_iff.mp (normal _ (List.mem_cons_of_mem _ List.mem_cons_self))
  · intro same
    exact foreign _ List.mem_cons_self (congrArg pathParts same)

theorem EntryDeclares.normal (declares : EntryDeclares entry declared) (undotted : Undotted entry) :
    ∀ path ∈ declared.paths, normalForm path = path ∧ Inside path := by
  obtain ⟨manifest, source, _⟩ := declares.undotted_iff.mp undotted
  intro path member
  simp only [RemediationSourceDeclaration.paths, List.mem_cons, List.not_mem_nil,
    or_false] at member
  rcases member with rfl | rfl
  · exact declares.manifest.canonical_iff.mpr manifest
  · exact declares.source.canonical_iff.mpr source

theorem EntryDeclares.apart (declares : EntryDeclares entry declared) (undotted : Undotted entry) :
    ∀ path ∈ declared.paths, pathParts path ≠ pathParts remediationSourceContractPath := by
  have contractNormal : normalForm remediationSourceContractPath =
      remediationSourceContractPath := by decide +kernel
  obtain ⟨_, _, manifest⟩ := declares.undotted_iff.mp undotted
  intro path member same
  have text := eq_of_pathParts_eq (declares.normal undotted path member).1 contractNormal same
  simp only [RemediationSourceDeclaration.paths, List.mem_cons, List.not_mem_nil,
    or_false] at member
  rcases member with rfl | rfl
  · exact manifest text
  · exact declares.foreign text

variable (runtime : Runtime)

/-- The paths of an accepted contract are canonical exactly when its entries spell no `.`
segment and name no manifest at the contract's own path. -/
theorem parseRemediationSourceContract_canonical_iff
    (accepted : parseRemediationSourceContract runtime content = .ok contract) :
    Canonical contract ↔ ∀ entry ∈ contractEntries runtime content, Undotted entry := by
  have declares := parseRemediationSourceContract_ok runtime accepted
  constructor
  · intro canonical entry member
    obtain ⟨declared, among, pair⟩ := forall₂_mem_left declares member
    exact pair.undotted_of_normal (canonical.normal declared among)
      (canonical.foreign declared among)
  · intro undotted
    have origin : ∀ declared ∈ contract.sources, ∃ entry, EntryDeclares entry declared ∧
        Undotted entry := by
      intro declared member
      obtain ⟨entry, among, pair⟩ := forall₂_mem_left declares.flip member
      exact ⟨entry, pair, undotted entry among⟩
    refine ⟨?_, ?_, ?_⟩
    · intro declared member
      obtain ⟨entry, pair, plain⟩ := origin declared member
      exact pair.normal plain
    · intro one oneIn two twoIn different same
      obtain ⟨_, first, firstPlain⟩ := origin one oneIn
      obtain ⟨_, second, secondPlain⟩ := origin two twoIn
      exact different (eq_of_pathParts_eq (first.normal firstPlain _ List.mem_cons_self).1
        (second.normal secondPlain _ List.mem_cons_self).1 same)
    · intro declared member
      obtain ⟨entry, pair, plain⟩ := origin declared member
      exact pair.apart plain

end canonical

section samples

def contractHeader : String :=
  "apiVersion: remediation.kyro.dev/v1alpha1\nkind: RemediationSource\nspec:\n  sources:\n"

/-- The text of one entry, with what YAML reads from it. -/
def entryText (manifestPath path : String) : String :=
  "  - manifestPath: " ++ manifestPath ++ "\n    sourceType: raw-yaml\n    path: " ++ path ++
    "\n    replicaPath: spec.replicas\n"

def plainNode (start : Nat) (value : String) :
    Node := .scalar ⟨start, start + value.length, none, value⟩

def entryNode (start : Nat) (manifestPath path : String) : Node :=
  let later := start + 18 + manifestPath.length
  let last := later + 36 + path.length
  .mapping [(plainNode (start + 4) "manifestPath", plainNode (start + 18) manifestPath),
    (plainNode (later + 5) "sourceType", plainNode (later + 17) "raw-yaml"),
    (plainNode (later + 30) "path", plainNode (later + 36) path),
    (plainNode (last + 5) "replicaPath", plainNode (last + 18) "spec.replicas")]

def entryValue (manifestPath path : String) : Value :=
  .dict [(.str "manifestPath", .scalar (.str manifestPath)),
    (.str "sourceType", .scalar (.str "raw-yaml")), (.str "path", .scalar (.str path)),
    (.str "replicaPath", .scalar (.str "spec.replicas"))]

/-- A contract for `deploy/app.yaml` and a second manifest. -/
def contractText (manifestPath path : String) : String :=
  contractHeader ++ entryText "deploy/app.yaml" "deploy/app.yaml" ++ entryText manifestPath path

def contractNode (manifestPath path : String) : Node :=
  .mapping [(plainNode 0 "apiVersion", plainNode 12 "remediation.kyro.dev/v1alpha1"),
    (plainNode 42 "kind", plainNode 48 "RemediationSource"),
    (plainNode 66 "spec", .mapping [(plainNode 74 "sources", .sequence [
      entryNode 83 "deploy/app.yaml" "deploy/app.yaml",
      entryNode (83 + (entryText "deploy/app.yaml" "deploy/app.yaml").length) manifestPath path])])]

def contractValue (manifestPath path : String) : Value :=
  .dict [(.str "apiVersion", .scalar (.str "remediation.kyro.dev/v1alpha1")),
    (.str "kind", .scalar (.str "RemediationSource")),
    (.str "spec", .dict [(.str "sources", .list [entryValue "deploy/app.yaml" "deploy/app.yaml",
      entryValue manifestPath path])])]

def plainContract : String := contractText "deploy/job.yaml" "deploy/job.yaml"

/-- The second entry is for the first one's manifest and patches the contract. -/
def dottedContract : String := contractText "deploy/./app.yaml" ".remediation.yaml/."

theorem entryText_length (manifestPath path : String) :
    (entryText manifestPath path).length = manifestPath.length + path.length + 86 := by
  have front : "  - manifestPath: ".length = 18 := by decide +kernel
  have middle : "\n    sourceType: raw-yaml\n    path: ".length = 36 := by decide +kernel
  have back : "\n    replicaPath: spec.replicas\n".length = 32 := by decide +kernel
  delta entryText
  simp only [String.length_append, front, middle, back]
  omega

theorem contractText_length (manifestPath path : String) :
    (contractText manifestPath path).length = 285 + manifestPath.length + path.length := by
  have header : contractHeader.length = 83 := by decide +kernel
  have first : "deploy/app.yaml".length = 15 := by decide +kernel
  delta contractText
  generalize contractHeader = text at header
  simp only [String.length_append, entryText_length, header, first]
  omega

def ScalarNode.before (one two : ScalarNode) : Prop := one.start ≤ one.stop ∧ one.stop ≤ two.start

theorem ScalarNode.before_trans {one two three : ScalarNode} (first : one.before two)
    (second : two.before three) :
    one.before three :=
  ⟨first.1, first.2.trans (second.1.trans second.2)⟩

theorem spans_of_chain {leaves : List ScalarNode} {last : ScalarNode}
    (chain : List.IsChain ScalarNode.before (leaves ++ [last])) :
    (∀ leaf ∈ leaves, leaf.start ≤ leaf.stop ∧ leaf.stop ≤ last.start) ∧
    leaves.Pairwise ScalarNode.disjoint := by
  have : IsTrans ScalarNode ScalarNode.before := ⟨fun _ _ _ => ScalarNode.before_trans⟩
  obtain ⟨ordered, _, ended⟩ := List.pairwise_append.mp (List.isChain_iff_pairwise.mp chain)
  constructor
  · intro leaf member
    exact ended leaf member last (List.mem_singleton_self last)
  · exact ordered.imp fun before => .inl before.2

theorem contractNode_ascending (manifestPath path : String) :
    List.IsChain ScalarNode.before ((contractNode manifestPath path).scalars ++
      [⟨(contractText manifestPath path).length, (contractText manifestPath path).length, none,
        ""⟩]) := by
  have first : "deploy/app.yaml".length = 15 := by decide +kernel
  have header : "apiVersion".length = 10 ∧ "remediation.kyro.dev/v1alpha1".length = 29 ∧
      "kind".length = 4 ∧
      "RemediationSource".length = 17 ∧ "spec".length = 4 ∧ "sources".length = 7 := by
        decide +kernel
  have keys : "manifestPath".length = 12 ∧ "sourceType".length = 10 ∧ "raw-yaml".length = 8 ∧
      "path".length = 4 ∧
      "replicaPath".length = 11 ∧ "spec.replicas".length = 13 := by decide +kernel
  rw [contractText_length]
  simp only [contractNode, entryNode, plainNode, Node.scalars, Node.entriesScalars,
    Node.entryScalars, Node.itemsScalars, List.append_nil, List.cons_append, List.nil_append,
    List.isChain_cons_cons, List.IsChain.singleton, and_true, ScalarNode.before, entryText_length,
    first, header, keys]
  omega

theorem contract_spans {source manifestPath path : String} {nodes : List Node}
    (same : source = contractText manifestPath path)
    (composed : nodes = [contractNode manifestPath path]) :
    (∀ node ∈ nodes, ∀ leaf ∈ node.scalars, leaf.start ≤ leaf.stop ∧
      leaf.stop ≤ source.toList.length) ∧
      ∀ node ∈ nodes, node.scalars.Pairwise ScalarNode.disjoint := by
  subst same composed
  obtain ⟨inside, disjoint⟩ := spans_of_chain (contractNode_ascending manifestPath path)
  rw [List.forall_mem_singleton, List.forall_mem_singleton, String.length_toList]
  exact ⟨inside, disjoint⟩

theorem contract_composed {source : String} {nodes : List Node}
    (composed : (if source = plainContract then
      .ok [contractNode "deploy/job.yaml" "deploy/job.yaml"]
      else if source = dottedContract then
      .ok [contractNode "deploy/./app.yaml" ".remediation.yaml/."]
      else .error PatchError.yamlError) = Except.ok nodes) :
    (∀ node ∈ nodes, ∀ leaf ∈ node.scalars, leaf.start ≤ leaf.stop ∧
      leaf.stop ≤ source.toList.length) ∧
      ∀ node ∈ nodes, node.scalars.Pairwise ScalarNode.disjoint := by
  split at composed
  next same =>
    rw [plainContract] at same
    exact contract_spans same (Except.ok.inj composed).symm
  next =>
    split at composed
    next same =>
      rw [dottedContract] at same
      exact contract_spans same (Except.ok.inj composed).symm
    next => cases composed

def contractRuntime : Runtime where
  safeLoadAll _ := .error .yamlError
  safeLoad source :=
    if source = plainContract then .ok (contractValue "deploy/job.yaml" "deploy/job.yaml")
    else if source = dottedContract then
      .ok (contractValue "deploy/./app.yaml" ".remediation.yaml/.")
    else .error .yamlError
  scanHasAnchors _ := .ok false
  composeAll source :=
    if source = plainContract then .ok [contractNode "deploy/job.yaml" "deploy/job.yaml"]
    else if source = dottedContract then
      .ok [contractNode "deploy/./app.yaml" ".remediation.yaml/."]
    else .error .yamlError
  jsonLoads _ := .error .yamlError
  floatText _ := ""
  canonicalManifestDigest _ := .ok sampleDigest
  spans_inside composed := (contract_composed composed).1
  spans_disjoint composed := (contract_composed composed).2

def declaring (manifestPath path : String) : RemediationSourceDeclaration :=
  ⟨manifestPath, "raw-yaml", path, none, none, [], some "spec.replicas", []⟩

theorem parseRemediationSourceContract_canonical_plain :
    Canonical ⟨[declaring "deploy/app.yaml" "deploy/app.yaml",
      declaring "deploy/job.yaml" "deploy/job.yaml"]⟩ := by
  have accepted : parseRemediationSourceContract contractRuntime plainContract =
      .ok ⟨[declaring "deploy/app.yaml" "deploy/app.yaml",
        declaring "deploy/job.yaml" "deploy/job.yaml"]⟩ :=
    toOption_ok (by decide +kernel)
  exact (parseRemediationSourceContract_canonical_iff contractRuntime accepted).mpr
    (by decide +kernel)

/-- Two entries for one manifest, one of which patches the contract, are accepted. -/
theorem parseRemediationSourceContract_dotted :
    parseRemediationSourceContract contractRuntime dottedContract =
      .ok ⟨[declaring "deploy/app.yaml" "deploy/app.yaml",
        declaring "deploy/./app.yaml" ".remediation.yaml/."]⟩ ∧
    pathParts "deploy/./app.yaml" = pathParts "deploy/app.yaml" ∧
    pathParts ".remediation.yaml/." = pathParts remediationSourceContractPath ∧
    ¬Canonical ⟨[declaring "deploy/app.yaml" "deploy/app.yaml",
      declaring "deploy/./app.yaml" ".remediation.yaml/."]⟩ := by
  refine ⟨toOption_ok (by decide +kernel), by decide +kernel, by decide +kernel, ?_⟩
  intro canonical
  exact canonical.injective (declaring "deploy/./app.yaml" ".remediation.yaml/.") (by simp)
    (declaring "deploy/app.yaml" "deploy/app.yaml") (by simp) (by decide) (by decide +kernel)

end samples

end K8sOps.Gitops
