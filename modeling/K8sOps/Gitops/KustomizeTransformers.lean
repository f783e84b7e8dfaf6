import K8sOps.Gitops.FieldPathSyntax
import K8sOps.Gitops.KustomizeOwnershipProofs
import K8sOps.Gitops.KustomizeTargets
import K8sOps.Python.Pointer

/-! Which of Kustomize's own transformers the detector sees. An `images`, `replicas` or
`replacements` entry rewrites a field of the object in its own way; for each kind of entry
the question is whether every graph that has it is reported. -/
namespace K8sOps.Gitops
open Python Value

section kustomize

def imageRepository (image : String) : String :=
  let named := image.toList.takeWhile (· ≠ '@')
  let last := (named.reverse.takeWhile (· ≠ '/')).reverse
  String.ofList (named.take (named.length - last.length) ++ last.takeWhile (· ≠ ':'))

/-- A part of a field path of a replacement leads where the step leads: by key, by the value
of a field of an entry, by index, or everywhere. -/
def PartLeads (part : List Char) : Step → Value → Prop
  | .key key, .dict _ => part = key.toList ∨ part = ['*']
  | .named name, .list items =>
    part = ['*'] ∨ listIndex part = some (items.findIdx (hasName name)) ∨
      ∃ field text entries, part = '[' :: field ++ '=' :: text ++ [']'] ∧
        getStep (.named name) (.list items) = some (.dict entries) ∧
        Entries.lookup (.str (String.ofList field)) entries =
          some (.scalar (.str (String.ofList text)))
  | _, _ => False

/-- A field path of a replacement is at, above or below a location of the object. -/
def Meets : List (List Char) → List Step → Value → Prop
  | [], _, _ => True
  | _, [], _ => True
  | part :: parts, step :: steps, value =>
    PartLeads part step value ∧ ∃ child, getStep step value = some child ∧ Meets parts steps child

/-- An entry of a transformer. A replacement stands in the kustomization itself or in a file
that the kustomization names. -/
inductive Transformer where
  | images (entry : Entries)
  | replicas (entry : Entries)
  | replacement (select : Value) (fieldPath : String) (inline : Bool)

/-- The entry rewrites the field of the object. -/
def Transformer.Rewrites (rules : KustomizeRules) (selected : ManifestIdentity) (object : Entries)
    (protectedPath : String) : Transformer → Prop
  | .images entry => ∃ image segment front,
      fieldPathSegments protectedPath = front ++ [segment] ∧ segment.key = "image" ∧
      readIn (fieldLocation protectedPath) (some (.dict object)) = some (.scalar (.str image)) ∧
      getOrNone "name" entry = .scalar (.str (imageRepository image))
  | .replicas entry =>
    protectedPath = "spec.replicas" ∧ getOrNone "name" entry = .scalar (.str selected.name)
  | .replacement select fieldPath _ =>
      Selects rules selected select ∧
      Meets (fieldPathParts fieldPath.toList) (fieldLocation protectedPath) (.dict object)

/-- One of the targets of a replacement is the one of the entry. -/
def HasTarget (select : Value) (fieldPath : String) (replacement : Value) : Prop :=
  ∃ entries targets target fieldPaths, replacement = .dict entries ∧
    getOrNone "targets" entries = .list targets ∧ .dict target ∈ targets ∧
    getOrNone "select" target = select ∧ getOrNone "fieldPaths" target = .list fieldPaths ∧
    .scalar (.str fieldPath) ∈ fieldPaths

/-- The replacement in a file, or one of those in it. -/
def inFile (loaded : Value) : List Value :=
  match loaded with
  | .list replacements => replacements
  | replacement => [replacement]

/-- The kustomization in a directory has the entry. -/
def Transformer.StandsIn (kustomize : Kustomize) (contents : SourceContents) (directory : String)
    (document : Entries) : Transformer → Prop
  | .images entry => ∃ items, getOrNone "images" document = .list items ∧ .dict entry ∈ items
  | .replicas entry => ∃ items, getOrNone "replicas" document = .list items ∧ .dict entry ∈ items
  | .replacement select fieldPath true => ∃ items replacement,
      getOrNone "replacements" document = .list items ∧ replacement ∈ items ∧
      HasTarget select fieldPath replacement
  | .replacement select fieldPath false =>
    ∃ items entry reference file content text loaded replacement,
      getOrNone "replacements" document = .list items ∧ .dict entry ∈ items ∧
      getOrNone "path" entry = .scalar (.str reference) ∧
      kustomize.localReference reference "replacements.path" directory = .ok file ∧
      contents.get file = some content ∧ String.fromUTF8? content = some text ∧
      kustomize.runtime.safeLoad text = .ok loaded ∧ replacement ∈ inFile loaded ∧
      HasTarget select fieldPath replacement

def Transformer.In (kustomize : Kustomize) (contents : SourceContents)
    (entry : Transformer) : Prop :=
  ∃ file ∈ contents, isKustomizationFile file.1 = true ∧ ∃ document,
    parseKustomizationDocument kustomize file.2 file.1 = .ok document ∧
    entry.StandsIn kustomize contents (parentPath file.1) document

end kustomize

/-- The entries that the detector sees: those of `replicas`, and replacements in the
kustomization itself whose selector is not mistaken and whose field path is, as a text, the
protected path or begins with it, or the other way round. -/
def Transformer.Seen (kustomize : Kustomize) (selected : ManifestIdentity)
    (protectedFieldPaths : List String) :
    Transformer → Prop
  | .images _ => False
  | .replicas _ => True
  | .replacement select fieldPath inline =>
      inline = true ∧ ¬DecidedByDots kustomize selected select ∧
      ∃ protectedPath ∈ protectedFieldPaths, semanticFieldsOverlap fieldPath protectedPath = true

section scan
variable {kustomize : Kustomize} {contents : SourceContents} {selected : ManifestIdentity}
variable {protectedFieldPaths : List String}

theorem scanKustomizations_free {files : SourceContents}
    (free : scanKustomizations kustomize contents selected protectedFieldPaths files before =
      .ok (paths, false))
    (member : file ∈ files) (isFile : isKustomizationFile file.1 = true)
    (parsed : parseKustomizationDocument kustomize file.2 file.1 = .ok document) :
    kustomizationOwnsProtectedField kustomize (parentPath file.1) contents.get selected
      protectedFieldPaths document =
      .ok false := by
  induction files generalizing before with
  | nil => cases member
  | cons first files ih =>
    rw [scanKustomizations] at free
    split at free
    next =>
      obtain ⟨found, loaded, free⟩ := bind_eq_ok.mp free
      obtain ⟨added, _, free⟩ := bind_eq_ok.mp free
      obtain ⟨owns, checked, free⟩ := bind_eq_ok.mp free
      split at free
      next => cases free
      next clear =>
        obtain rfl | later := List.mem_cons.mp member
        · cases loaded.symm.trans parsed
          rw [checked, Bool.eq_false_iff.mpr clear]
        · exact ih free later
    next other =>
      obtain rfl | later := List.mem_cons.mp member
      · exact absurd isFile other
      · exact ih free later

theorem kustomizationOwnsProtectedField_free (guarded : protectedFieldPaths ≠ [])
    (clear : kustomizationOwnsProtectedField kustomize directory files selected
      protectedFieldPaths document =
      .ok false) :
    ("spec.replicas" ∈ protectedFieldPaths →
      replicasOwnField kustomize selected document = .ok false) ∧
      replacementsOwnField kustomize selected protectedFieldPaths
        (getOrNone "replacements" document) = .ok false := by
  rw [kustomizationOwnsProtectedField, if_neg guarded] at clear
  obtain ⟨_, clear⟩ := orNext_false.mp clear
  obtain ⟨replicas, clear⟩ := orNext_false.mp clear
  obtain ⟨_, clear⟩ := orNext_false.mp clear
  obtain ⟨_, replacements⟩ := orNext_false.mp clear
  refine ⟨fun named => ?_, replacements⟩
  rwa [if_pos named] at replicas

theorem replicasOwnField_named {document : Entries}
    (items : getOrNone "replicas" document = .list entries) (member : .dict entry ∈ entries)
    (named : getOrNone "name" entry = .scalar (.str selected.name)) :
    replicasOwnField kustomize selected document ≠ .ok false := by
  rw [replicasOwnField, items]
  change (if _ then (.ok true : Except OwnershipError Bool) else .ok _) ≠ _
  split
  · intro absurd
    cases absurd
  · have hit : entries.any (fun replica => textOrEmpty kustomize "name" (asMapping replica) ==
        selected.name) = true := by
      rw [List.any_eq_true]
      refine ⟨.dict entry, member, ?_⟩
      rw [asMapping, textOrEmpty_str named, beq_self_eq_true]
    rw [hit]
    intro absurd
    cases absurd

theorem replacementTargetOwnsField_hit {target : Entries}
    (accepted : targetMaySelect kustomize selected (getOrNone "select" target) = true)
    (listed : getOrNone "fieldPaths" target = .list fieldPaths)
    (member : .scalar (.str fieldPath) ∈ fieldPaths) (guarded : protectedPath ∈ protectedFieldPaths)
    (overlaps : semanticFieldsOverlap fieldPath protectedPath = true) :
    replacementTargetOwnsField kustomize selected protectedFieldPaths (.dict target) = true := by
  rw [replacementTargetOwnsField, accepted, Bool.true_and, listed]
  refine List.any_eq_true.mpr ⟨_, member, ?_⟩
  exact List.any_eq_true.mpr ⟨protectedPath, guarded, overlaps⟩

theorem replacementsOwnField_target (targeted : HasTarget select fieldPath replacement)
    (member : replacement ∈ replacements)
    (accepted : targetMaySelect kustomize selected select = true)
    (guarded : protectedPath ∈ protectedFieldPaths)
    (overlaps : semanticFieldsOverlap fieldPath protectedPath = true) :
    replacementsOwnField kustomize selected protectedFieldPaths (.list replacements) ≠
      .ok false := by
  intro clear
  obtain ⟨entries, targets, target, fieldPaths, rfl, listed, among, rfl, paths, inPaths⟩ := targeted
  have each := anyOwns_false.mp clear _ member
  rw [replacementOwnsField, listed] at each
  have hit : targets.any (replacementTargetOwnsField kustomize selected protectedFieldPaths) =
      true :=
    List.any_eq_true.mpr ⟨_, among,
      replacementTargetOwnsField_hit accepted paths inPaths guarded overlaps⟩
  change Except.ok (targets.any _) = Except.ok false at each
  rw [hit] at each
  cases each

end scan

/-- The same rules with another loader and other references. -/
def KustomizeRules.reading (rules : KustomizeRules) (runtime : Runtime)
    (localReference : String → String → String → Except String String) : KustomizeRules :=
  { rules with runtime, localReference }

section seen
variable {rules : KustomizeRules} {contents : SourceContents} {selected : ManifestIdentity}
  {object : Entries}
variable {protectedFieldPaths : List String} {protectedPath : String} {entry : Transformer}

/-- A graph of that form is reported, if the entry is seen in its kustomization. -/
theorem reported_of_owned (formed : GraphFormed rules.toKustomize contents)
    (present : entry.In rules.toKustomize contents)
    (owned : ∀ directory document, entry.StandsIn rules.toKustomize contents directory document →
      kustomizationOwnsProtectedField rules.toKustomize directory contents.get selected
      protectedFieldPaths document ≠
        .ok false) :
    ∃ paths, kustomizeResourcePathsAndFieldOwnership rules.toKustomize contents selected
      protectedFieldPaths =
      .ok (paths, true) := by
  obtain ⟨file, member, isFile, document, parsed, stands⟩ := present
  obtain ⟨⟨paths, reported⟩, result⟩ :
      ∃ result, kustomizeResourcePathsAndFieldOwnership rules.toKustomize contents
      selected protectedFieldPaths = .ok result := scanKustomizations_ok formed []
  cases reported with
  | true => exact ⟨paths, result⟩
  | false => exact absurd (scanKustomizations_free result member isFile parsed) (owned _ _ stands)

theorem reported_of_seen (member : protectedPath ∈ protectedFieldPaths)
    (rewrites : entry.Rewrites rules selected object protectedPath)
    (seen : entry.Seen rules.toKustomize selected protectedFieldPaths)
    (formed : GraphFormed rules.toKustomize contents)
    (present : entry.In rules.toKustomize contents) :
    ∃ paths, kustomizeResourcePathsAndFieldOwnership rules.toKustomize contents selected
      protectedFieldPaths =
      .ok (paths, true) := by
  have guarded : protectedFieldPaths ≠ [] := List.ne_nil_of_mem member
  apply reported_of_owned formed present
  intro directory document stands clear
  obtain ⟨replicas, replacements⟩ := kustomizationOwnsProtectedField_free guarded clear
  cases entry with
  | images => exact seen
  | replicas entry =>
    obtain ⟨rfl, named⟩ := rewrites
    obtain ⟨items, listed, among⟩ := stands
    exact replicasOwnField_named listed among named (replicas member)
  | replacement select fieldPath inline =>
    obtain ⟨rfl, undotted, other, guards, overlaps⟩ := seen
    obtain ⟨items, replacement, listed, among, targeted⟩ := stands
    have accepted : targetMaySelect rules.toKustomize selected select = true :=
      (targetMaySelect_sound_iff rules selected select).mpr (fun _ => undotted) rewrites.1
    rw [listed] at replacements
    exact replacementsOwnField_target targeted among accepted guards overlaps replacements

end seen

section alone

/-- A kustomization with one section, and a file next to it. -/
def soloGraph : SourceContents :=
  [("kustomization.yaml", ByteArray.empty), ("replacement.yaml", "-".toUTF8)]

/-- The kustomization of the graph is this document, and its other file this value. -/
def KustomizeRules.solo (rules : KustomizeRules) (document : Entries)
    (other : Value) : KustomizeRules :=
  rules.reading { sampleRuntime with
      safeLoad := fun text => .ok (if text = "" then .dict document else other) }
    fun reference _ _ => .ok reference

variable {rules : KustomizeRules} {selected : ManifestIdentity} {protectedFieldPaths : List String}

theorem kustomizationOwnsProtectedField_quiet {kustomize : Kustomize} {document : Entries}
    (transformers : getOrNone "transformers" document = .scalar .none)
    (replicas : getOrNone "replicas" document = .scalar .none)
    (patches : getOrNone "patches" document = .scalar .none)
    (operations : getOrNone "patchesJson6902" document = .scalar .none)
    (merges : getOrNone "patchesStrategicMerge" document = .scalar .none)
    (replacements : replacementsOwnField kustomize selected protectedFieldPaths
      (getOrNone "replacements" document) =
      .ok false) :
    kustomizationOwnsProtectedField kustomize directory files selected protectedFieldPaths
      document = .ok false := by
  rw [kustomizationOwnsProtectedField]
  split
  · rfl
  · apply orNext_false.mpr
    constructor
    · rw [transformersOwnField, transformers]
      rfl
    apply orNext_false.mpr
    constructor
    · split
      · rw [replicasOwnField, replicas]
        rfl
      · rfl
    apply orNext_false.mpr
    constructor
    · apply anyOwns_false.mpr
      intro field member
      have absent : getOrNone field document = .scalar .none := by
        simp only [List.mem_cons, List.not_mem_nil, or_false] at member
        obtain rfl | rfl := member
        · exact patches
        · exact operations
      rw [patchesOwnField, absent]
      rfl
    apply orNext_false.mpr
    constructor
    · rw [strategicMergesOwnField, merges]
      rfl
    · exact replacements

theorem addFields_absent {kustomize : Kustomize} {document : Entries}
    (absent : ∀ field ∈ fields, getOrNone field document = .scalar .none) (paths : List String) :
    addFields kustomize directories directory document fields paths = .ok paths := by
  induction fields with
  | nil => rfl
  | cons field fields ih =>
    rw [addFields, absent field List.mem_cons_self]
    exact ih fun other member => absent other (List.mem_cons_of_mem _ member)

theorem scanKustomizations_quiet {kustomize : Kustomize} {contents files : SourceContents}
    (isFile : isKustomizationFile path = true)
    (parsed : parseKustomizationDocument kustomize content path = .ok document)
    (absent : ∀ field ∈ ["resources", "bases", "components"],
      getOrNone field document = .scalar .none)
    (quiet : kustomizationOwnsProtectedField kustomize (parentPath path) contents.get selected
      protectedFieldPaths
      document = .ok false) :
    scanKustomizations kustomize contents selected protectedFieldPaths
      ((path, content) :: files) paths =
      scanKustomizations kustomize contents selected protectedFieldPaths files paths := by
  rw [scanKustomizations, if_pos isFile, parsed]
  change (addFields kustomize _ _ document _ paths >>= _) = _
  rw [addFields_absent absent]
  change (kustomizationOwnsProtectedField kustomize _ _ _ _ document >>= _) = _
  rw [quiet]
  rfl

theorem solo_parsed {document : Entries} {other : Value} :
    parseKustomizationDocument (rules.solo document other).toKustomize ByteArray.empty
      "kustomization.yaml" =
      .ok document := by
  have text : String.fromUTF8? ByteArray.empty = some "" := by decide +kernel
  rw [parseKustomizationDocument, text]
  rfl

theorem solo_free {document : Entries} {other : Value}
    (absent : ∀ field ∈ ["resources", "bases", "components"],
      getOrNone field document = .scalar .none)
    (quiet : ∀ directory, kustomizationOwnsProtectedField
      (rules.solo document other).toKustomize directory
      soloGraph.get selected protectedFieldPaths document = .ok false) :
    kustomizeResourcePathsAndFieldOwnership (rules.solo document other).toKustomize
      soloGraph selected protectedFieldPaths = .ok ([], false) := by
  have isFile : isKustomizationFile "kustomization.yaml" = true := by decide
  have isOther : ¬isKustomizationFile "replacement.yaml" = true := by decide
  calc kustomizeResourcePathsAndFieldOwnership (rules.solo document other).toKustomize soloGraph
        selected protectedFieldPaths
      = scanKustomizations (rules.solo document other).toKustomize soloGraph selected
          protectedFieldPaths [("replacement.yaml", "-".toUTF8)] [] :=
        scanKustomizations_quiet isFile solo_parsed absent (quiet _)
    _ = .ok ([], false) := by
      rw [scanKustomizations, if_neg isOther]
      rfl

theorem solo_in {document : Entries} {other : Value} {entry : Transformer}
    (stands : entry.StandsIn (rules.solo document other).toKustomize soloGraph
      (parentPath "kustomization.yaml") document) :
    entry.In (rules.solo document other).toKustomize soloGraph := by
  exact ⟨("kustomization.yaml", ByteArray.empty), List.mem_cons_self, by decide, document,
    solo_parsed, stands⟩

end alone

section graphs

def oneTarget (select : Value) (fieldPath : String) : Value :=
  .dict [(.str "targets", .list [.dict [(.str "select", select),
    (.str "fieldPaths", .list [.scalar (.str fieldPath)])]])]

theorem hasTarget_oneTarget (select : Value) (fieldPath : String) :
    HasTarget select fieldPath (oneTarget select fieldPath) :=
  ⟨_, _, _, _, rfl, rfl, List.mem_singleton_self _, rfl, rfl, List.mem_singleton_self _⟩

/-- A kustomization that has the entry and nothing else, with what its file holds. -/
def Transformer.document : Transformer → Entries
  | .images entry => [(.str "images", .list [.dict entry])]
  | .replicas entry => [(.str "replicas", .list [.dict entry])]
  | .replacement select fieldPath true =>
    [(.str "replacements", .list [oneTarget select fieldPath])]
  | .replacement _ _ false =>
    [(.str "replacements", .list [.dict [(.str "path", .scalar (.str "replacement.yaml"))]])]

def Transformer.file : Transformer → Value
  | .replacement select fieldPath false => oneTarget select fieldPath
  | _ => .scalar .none

variable {rules : KustomizeRules} {selected : ManifestIdentity} {protectedFieldPaths : List String}

theorem solo_standsIn (rules : KustomizeRules) (entry : Transformer) :
    entry.In (rules.solo entry.document entry.file).toKustomize soloGraph := by
  apply solo_in
  cases entry with
  | images entry => exact ⟨_, rfl, List.mem_singleton_self _⟩
  | replicas entry => exact ⟨_, rfl, List.mem_singleton_self _⟩
  | replacement select fieldPath inline =>
    cases inline with
    | true => exact ⟨_, _, rfl, List.mem_singleton_self _, hasTarget_oneTarget select fieldPath⟩
    | false =>
      have text : String.fromUTF8? "-".toUTF8 = some "-" := by decide +kernel
      have stored : soloGraph.get "replacement.yaml" = some "-".toUTF8 := rfl
      exact ⟨_, _, "replacement.yaml", "replacement.yaml", _, _, _, _, rfl,
        List.mem_singleton_self _, rfl, rfl, stored, text, rfl, List.mem_singleton_self _,
        hasTarget_oneTarget select fieldPath⟩

theorem Transformer.document_absent (entry : Transformer) :
    ∀ field ∈ ["resources", "bases", "components",
    "transformers", "patches", "patchesJson6902", "patchesStrategicMerge"],
    getOrNone field entry.document = .scalar .none := by
  simp only [List.forall_mem_cons]
  cases entry with
  | images | replicas => exact ⟨rfl, rfl, rfl, rfl, rfl, rfl, rfl, by simp⟩
  | replacement _ _ inline => cases inline <;> exact ⟨rfl, rfl, rfl, rfl, rfl, rfl, rfl, by simp⟩

theorem solo_formed (rules : KustomizeRules) (entry : Transformer) :
    GraphFormed (rules.solo entry.document entry.file).toKustomize soloGraph := by
  intro file member isFile
  obtain rfl | rfl : file = ("kustomization.yaml", ByteArray.empty) ∨
      file = ("replacement.yaml", "-".toUTF8) := by
    simpa [soloGraph] using member
  · refine ⟨entry.document, solo_parsed, ?_⟩
    have absent (form : Value → Prop) (field : String) (other : field ∈
      ["resources", "bases", "components",
        "transformers", "patches", "patchesJson6902", "patchesStrategicMerge"]) :
        SectionOf form (getOrNone field entry.document) := .inl (entry.document_absent field other)
    refine ⟨fun field among => absent _ field ?_, absent _ _ (by decide), ?_,
      fun field among => absent _ field ?_, absent _ _ (by decide), ?_⟩
    · revert field
      decide
    · cases entry with
      | images => exact .inl rfl
      | replicas => exact .inr ⟨_, rfl, fun _ _ => trivial⟩
      | replacement _ _ inline => cases inline <;> exact .inl rfl
    · revert field
      decide
    · cases entry with
      | images | replicas => exact .inl rfl
      | replacement _ _ inline =>
        refine .inr ?_
        cases inline <;> refine ⟨_, rfl, fun item only entry same => ?_⟩ <;>
          obtain rfl := List.mem_singleton.mp only <;> cases same
        · exact .inl rfl
        · exact .inr ⟨_, rfl, fun _ _ => trivial⟩
  · exact absurd isFile (by decide)

theorem replacementsOwnField_oneTarget (kustomize : Kustomize) (select : Value)
    (fieldPath : String) :
    replacementsOwnField kustomize selected protectedFieldPaths
      (.list [oneTarget select fieldPath]) =
      .ok (targetMaySelect kustomize selected select &&
        protectedFieldPaths.any (semanticFieldsOverlap fieldPath)) := by
  change orNext (.ok ([Value.dict _].any _)) (.ok false) = _
  rw [List.any_cons, List.any_nil, Bool.or_false]
  change orNext (.ok (targetMaySelect kustomize selected select &&
    [Value.scalar (.str fieldPath)].any _)) (.ok false) = _
  rw [List.any_cons, List.any_nil, Bool.or_false]
  dsimp only
  cases targetMaySelect kustomize selected select &&
    protectedFieldPaths.any (semanticFieldsOverlap fieldPath) <;> rfl

/-- Alone in a kustomization, an entry that is not seen is not reported. -/
theorem solo_unseen {entry : Transformer}
    (rewrites : entry.Rewrites rules selected object protectedPath)
    (unseen : ¬entry.Seen rules.toKustomize selected protectedFieldPaths) :
    kustomizeResourcePathsAndFieldOwnership (rules.solo entry.document entry.file).toKustomize
      soloGraph selected protectedFieldPaths = .ok ([], false) := by
  have absent := entry.document_absent
  apply solo_free
  · intro field member
    apply absent
    revert field
    decide
  intro directory
  apply kustomizationOwnsProtectedField_quiet (absent _ (by decide)) ?_ (absent _ (by decide))
    (absent _ (by decide)) (absent _ (by decide))
  · cases entry with
    | images => rfl
    | replicas => exact absurd trivial unseen
    | replacement _ _ inline =>
      cases inline with
      | false => rfl
      | true =>
        change replacementsOwnField _ selected protectedFieldPaths (.list [oneTarget _ _]) = _
        rw [replacementsOwnField_oneTarget]
        congr 1
        rw [← Bool.not_eq_true, Bool.and_eq_true]
        rintro ⟨accepted, overlapping⟩
        obtain ⟨other, guards, overlaps⟩ := List.any_eq_true.mp overlapping
        apply unseen
        refine ⟨rfl, ?_, other, guards, overlaps⟩
        exact (targetMaySelect_sound_iff rules selected _).mp (fun _ => accepted) rewrites.1
  · cases entry with
    | images => rfl
    | replicas => exact absurd trivial unseen
    | replacement _ _ inline => cases inline <;> rfl

end graphs

/-- Every graph of well-formed kustomizations with an entry that rewrites the field is reported
exactly if the entry is of those that the detector sees. -/
theorem transformer_reported_iff (rules : KustomizeRules) (selected : ManifestIdentity)
    (object : Entries) (protectedFieldPaths : List String) (protectedPath : String)
    (member : protectedPath ∈ protectedFieldPaths) (entry : Transformer) :
    (entry.Rewrites rules selected object protectedPath →
      ∀ runtime localReference contents,
        GraphFormed (rules.reading runtime localReference).toKustomize contents →
        entry.In (rules.reading runtime localReference).toKustomize contents →
        ∃ paths, kustomizeResourcePathsAndFieldOwnership
          (rules.reading runtime localReference).toKustomize contents
          selected protectedFieldPaths = .ok (paths, true)) ↔
    (entry.Rewrites rules selected object protectedPath →
      entry.Seen rules.toKustomize selected protectedFieldPaths) := by
  refine forall_congr' fun rewrites => ?_
  constructor
  · intro reported
    by_contra unseen
    obtain ⟨paths, owned⟩ :=
      reported _ _ soloGraph (solo_formed rules entry) (solo_standsIn rules entry)
    cases (solo_unseen rewrites unseen).symm.trans owned
  · intro seen runtime localReference contents formed present
    have still : entry.Rewrites (rules.reading runtime localReference) selected object
        protectedPath := by
      cases entry <;> exact rewrites
    have again : entry.Seen (rules.reading runtime localReference).toKustomize selected
        protectedFieldPaths := by
      cases entry <;> exact seen
    exact reported_of_seen member still again formed present

section sample

theorem transformer_reported_iff_sample :
    ∃ paths, kustomizeResourcePathsAndFieldOwnership
      (dottedRules.solo [(.str "replicas", .list [.dict [(.str "name", .scalar (.str "web"))]])]
        (.scalar .none)).toKustomize soloGraph webDeployment ["spec.replicas"] =
          .ok (paths, true) := by
  have reported :=
    (transformer_reported_iff dottedRules webDeployment [] ["spec.replicas"] "spec.replicas"
    (List.mem_singleton_self _) (.replicas [(.str "name", .scalar (.str "web"))])).mpr
      (fun _ => trivial) ⟨rfl, rfl⟩
  exact reported _ _ soloGraph
    (solo_formed dottedRules (.replicas [(.str "name", .scalar (.str "web"))]))
    (solo_standsIn dottedRules (.replicas [(.str "name", .scalar (.str "web"))]))

def apiObject : Entries :=
  [(.str "spec", .dict [(.str "containers", .list [.dict [
    (.str "name", .scalar (.str "api")), (.str "image", .scalar (.str "registry/api:1"))]])])]

def apiImage : Transformer :=
  .images [(.str "name", .scalar (.str "registry/api")), (.str "newTag", .scalar (.str "2"))]

/-- Kustomize writes the selection of an entry as a part of its own. -/
def apiReplacement : Transformer :=
  .replacement (.dict [(.str "name", .scalar (.str "web"))]) "spec.containers.[name=api].image" true

theorem fieldLocation_image : fieldLocation "spec.containers[name=api].image" =
    [.key "spec", .key "containers", .named "api", .key "image"] := by decide

theorem apiImage_rewrites :
    apiImage.Rewrites dottedRules webDeployment apiObject "spec.containers[name=api].image" := by
  refine ⟨"registry/api:1", ⟨"image", none⟩, [⟨"spec", none⟩, ⟨"containers", some "api"⟩],
    by decide, rfl, ?_, ?_⟩
  · rw [fieldLocation_image]
    rfl
  · have repository : imageRepository "registry/api:1" = "registry/api" := by decide +kernel
    rw [repository]
    rfl

theorem apiReplacement_rewrites :
    apiReplacement.Rewrites dottedRules webDeployment apiObject
      "spec.containers[name=api].image" := by
  constructor
  · intro field member pattern present
    simp only [exactFields, List.mem_cons, List.not_mem_nil, or_false] at member
    obtain rfl | rfl | rfl := member
    · cases present
    · cases present
      exact ⟨by decide, by decide⟩
    · cases present
  · have parts : fieldPathParts "spec.containers.[name=api].image".toList =
        ["spec".toList, "containers".toList, "[name=api]".toList, "image".toList] := by
          decide +kernel
    rw [parts, fieldLocation_image]
    refine ⟨.inl rfl, _, rfl, .inl rfl, _, rfl, .inr (.inr ?_), _, rfl, .inl rfl, _, rfl, trivial⟩
    exact ⟨"name".toList, "api".toList, _, rfl, rfl, rfl⟩

/-- The image and the field path of a replacement are rewritten, and reported as free. -/
theorem transformers_unreported :
    (apiImage.Rewrites dottedRules webDeployment apiObject "spec.containers[name=api].image" ∧
      apiImage.In (dottedRules.solo apiImage.document apiImage.file).toKustomize soloGraph ∧
      kustomizeResourcePathsAndFieldOwnership
        (dottedRules.solo apiImage.document apiImage.file).toKustomize
        soloGraph webDeployment ["spec.containers[name=api].image"] = .ok ([], false)) ∧
    apiReplacement.Rewrites dottedRules webDeployment apiObject "spec.containers[name=api].image" ∧
      apiReplacement.In (dottedRules.solo apiReplacement.document
        apiReplacement.file).toKustomize soloGraph ∧
      kustomizeResourcePathsAndFieldOwnership
        (dottedRules.solo apiReplacement.document apiReplacement.file).toKustomize
          soloGraph webDeployment
        ["spec.containers[name=api].image"] = .ok ([], false) := by
  refine ⟨⟨apiImage_rewrites, solo_standsIn _ _, solo_unseen apiImage_rewrites not_false⟩,
    apiReplacement_rewrites, solo_standsIn _ _, solo_unseen apiReplacement_rewrites ?_⟩
  rintro ⟨_, _, guarded, member, overlaps⟩
  obtain rfl := List.mem_singleton.mp member
  revert overlaps
  decide +kernel

end sample

end K8sOps.Gitops
