import K8sOps.Gitops.KustomizeOwnership
import K8sOps.Gitops.SourcePatchProofs
import K8sOps.Python.MergePatch

/-! When the detector sees that a merge patch sets a protected field. It reads the path in
the patch and compares the identity in the patch; a merge also works through the parents of
the path, and a target selects whatever identity the patch has. -/
namespace K8sOps.Gitops
open Python Value

section sequences

theorem orNext_false {first next : Except OwnershipError Bool} :
    orNext first next = .ok false ↔ first = .ok false ∧ next = .ok false := by
  rcases first with _ | _ | _ <;> simp [orNext, Except.bind]

theorem anyOwns_false {owns : α → Except OwnershipError Bool} :
    anyOwns owns items = .ok false ↔ ∀ item ∈ items, owns item = .ok false := by
  induction items with
  | nil => simp [anyOwns]
  | cons item items ih => rw [anyOwns, orNext_false, ih, List.forall_mem_cons]

theorem textOrEmpty_str {kustomize : Kustomize} {entries : Entries}
    (stored : getOrNone key entries = .scalar (.str text)) :
    textOrEmpty kustomize key entries = text := by
  rw [textOrEmpty, stored, truthy]
  by_cases empty : text = ""
  · simp [empty]
  · simp [empty, TextCodec.toText]

end sequences

section formed
variable (kustomize : Kustomize) (contents : SourceContents) (directory : String)

/-- Absent, or a list of entries of this form. -/
def SectionOf (form : Value → Prop) (value : Value) : Prop :=
  value = .scalar .none ∨ ∃ items, value = .list items ∧ ∀ item ∈ items, form item

/-- Absent, or a list of texts of this form. -/
def TextsOf (form : String → Prop) : Value → Prop :=
  SectionOf fun item => ∃ text, pathText item = some text ∧ form text

/-- The text of a patch: it is loaded, or it is no YAML; each operation of a JSON patch has
a scalar for its `op`. -/
def PatchFormed (content : String) : Prop :=
  kustomize.runtime.safeLoad content = .error .yamlError ∨
    ∃ loaded, kustomize.runtime.safeLoad content = .ok loaded ∧ ∀ items, loaded = .list items →
      ∀ entry, .dict entry ∈ items → ∃ op, getOrNone "op" entry = .scalar op

/-- The path of a patch: if there is a text at it, that is the text of a patch. -/
def PatchFileFormed (field reference : String) : Prop :=
  ∃ path, kustomize.localReference reference field directory = .ok path ∧
    ∀ text, (contents.get path).bind String.fromUTF8? = some text → PatchFormed kustomize text

def PatchEntryFormed (field : String) (item : Value) : Prop :=
  ∀ entry, item = .dict entry →
    (∀ patch, getOrNone "patch" entry = .scalar (.str patch) → PatchFormed kustomize patch) ∧
    ∀ path, getOrNone "path" entry = .scalar (.str path) →
      PatchFileFormed kustomize contents directory (field ++ ".path") path

/-- A patch itself, if it has more than one line, or its path. -/
def MergeFormed (text : String) : Prop :=
  if '\n' ∈ text.toList then PatchFormed kustomize text
  else PatchFileFormed kustomize contents directory "patchesStrategicMerge" text

def ReplacementFormed (item : Value) : Prop :=
  ∀ entry, item = .dict entry → SectionOf (fun _ => True) (getOrNone "targets" entry)

/-- The sections that the detector reads have the form that they have in Kustomize. -/
structure KustomizationFormed (document : Entries) : Prop where
  references : ∀ field ∈ ["resources", "bases", "components"],
    TextsOf (fun text => ∃ path, kustomize.localReference text field directory = .ok path)
      (getOrNone field document)
  transformers : SectionOf (fun _ => True) (getOrNone "transformers" document)
  replicas : SectionOf (fun _ => True) (getOrNone "replicas" document)
  patches : ∀ field ∈ ["patches", "patchesJson6902"],
    SectionOf (PatchEntryFormed kustomize contents directory field) (getOrNone field document)
  merges : TextsOf (MergeFormed kustomize contents directory)
      (getOrNone "patchesStrategicMerge" document)
  replacements : SectionOf ReplacementFormed (getOrNone "replacements" document)

/-- Each kustomization of the graph is a document of that form. -/
def GraphFormed : Prop :=
  ∀ file ∈ contents, isKustomizationFile file.1 = true → ∃ document,
    parseKustomizationDocument kustomize file.2 file.1 = .ok document ∧
    KustomizationFormed kustomize contents (parentPath file.1) document

end formed

section answers
variable {kustomize : Kustomize} {contents : SourceContents} {directory : String}
variable {selected : ManifestIdentity} {protectedFieldPaths : List String} {document : Entries}

theorem orNext_ok {first next : Except OwnershipError Bool} (one : ∃ owns, first = .ok owns)
    (other : ∃ owns, next = .ok owns) : ∃ owns, orNext first next = .ok owns := by
  obtain ⟨owns, rfl⟩ := one
  cases owns
  · exact other
  · exact ⟨true, rfl⟩

theorem anyOwns_ok {owns : α → Except OwnershipError Bool}
    (each : ∀ item ∈ items, ∃ answer, owns item = .ok answer) :
    ∃ answer, anyOwns owns items = .ok answer := by
  induction items with
  | nil => exact ⟨false, rfl⟩
  | cons item items ih =>
    obtain ⟨first, rest⟩ := List.forall_mem_cons.mp each
    exact orNext_ok first (ih rest)

theorem sequenceValue_ok (formed : SectionOf form value) (field : String) :
    ∃ items, sequenceValue value field = .ok items ∧ ∀ item ∈ items, form item := by
  obtain rfl | ⟨items, rfl, each⟩ := formed
  · exact ⟨[], rfl, by simp⟩
  · exact ⟨items, rfl, each⟩

theorem stringSequence_ok (formed : TextsOf form value) (field : String) :
    ∃ texts, stringSequence value field = .ok texts ∧ ∀ text ∈ texts, form text := by
  obtain ⟨items, listed, each⟩ := sequenceValue_ok formed field
  have read : ∃ texts, items.mapM pathText = some texts ∧ ∀ text ∈ texts, form text := by
    clear listed
    induction items with
    | nil => exact ⟨[], rfl, by simp⟩
    | cons item items ih =>
      obtain ⟨⟨text, found, fits⟩, rest⟩ := List.forall_mem_cons.mp each
      obtain ⟨texts, others, all⟩ := ih rest
      refine ⟨text :: texts, ?_, List.forall_mem_cons.mpr ⟨fits, all⟩⟩
      simp [List.mapM_cons, found, others]
  obtain ⟨texts, mapped, all⟩ := read
  refine ⟨texts, ?_, all⟩
  refine bind_eq_ok.mpr ⟨items, listed, ?_⟩
  rw [mapped]

theorem section_ok {owns : Value → Except OwnershipError Bool} (formed : SectionOf form value)
    (each : ∀ item, form item → ∃ answer, owns item = .ok answer) (field : String) :
    ∃ answer, (do anyOwns owns (← sequenceValue value field)) = .ok answer := by
  obtain ⟨items, listed, all⟩ := sequenceValue_ok formed field
  rw [listed]
  exact anyOwns_ok fun item member => each item (all item member)

theorem patchContentOwnsField_ok (formed : PatchFormed kustomize content) (targetDeclared : Bool) :
    ∃ answer, patchContentOwnsField kustomize selected protectedFieldPaths content targetDeclared =
      .ok answer := by
  rw [patchContentOwnsField]
  obtain failed | ⟨loaded, read, operations⟩ := formed
  · rw [failed]
    exact ⟨true, rfl⟩
  rw [read]
  cases loaded with
  | scalar => exact ⟨true, rfl⟩
  | dict payload =>
    dsimp only
    repeat' split
    all_goals exact ⟨_, rfl⟩
  | list items =>
    refine anyOwns_ok fun item member => ?_
    cases item with
    | scalar | list => exact ⟨false, rfl⟩
    | dict entry =>
      obtain ⟨op, stored⟩ := operations items rfl entry member
      rw [operationOwnsField, stored]
      cases op <;> exact ⟨_, rfl⟩

theorem referencedContentOwnsField_ok
    (formed : PatchFileFormed kustomize contents directory field reference)
    (targetDeclared : Bool) :
    ∃ answer, referencedContentOwnsField kustomize directory contents.get selected
      protectedFieldPaths reference field targetDeclared = .ok answer := by
  obtain ⟨path, resolved, patch⟩ := formed
  have read : referencedText kustomize directory contents.get reference field =
      .ok ((contents.get path).bind String.fromUTF8?) := by rw [referencedText, resolved]
  rw [referencedContentOwnsField, read]
  cases text : (contents.get path).bind String.fromUTF8? with
  | none => exact ⟨true, rfl⟩
  | some content => exact patchContentOwnsField_ok (patch content text) targetDeclared

theorem patchEntryOwnsField_ok (formed : PatchEntryFormed kustomize contents directory field item) :
    ∃ answer, patchEntryOwnsField kustomize directory contents.get selected
      protectedFieldPaths field item =
      .ok answer := by
  cases item with
  | scalar | list => exact ⟨true, rfl⟩
  | dict entry =>
    obtain ⟨inline, file⟩ := formed entry rfl
    rw [patchEntryOwnsField]
    split
    · split
      next patch stored => exact patchContentOwnsField_ok (inline patch stored) _
      next path stored _ => exact referencedContentOwnsField_ok (file path stored) _
      next => exact ⟨true, rfl⟩
    · exact ⟨false, rfl⟩

theorem strategicMergeOwnsField_ok (formed : MergeFormed kustomize contents directory text) :
    ∃ answer, strategicMergeOwnsField kustomize directory contents.get selected
      protectedFieldPaths text =
      .ok answer := by
  rw [MergeFormed] at formed
  rw [strategicMergeOwnsField]
  split at formed
  next inline =>
    rw [if_pos inline]
    exact patchContentOwnsField_ok formed _
  next file =>
    rw [if_neg file]
    exact referencedContentOwnsField_ok formed _

theorem replacementOwnsField_ok (formed : ReplacementFormed item) :
    ∃ answer, replacementOwnsField kustomize selected protectedFieldPaths item = .ok answer := by
  cases item with
  | scalar | list => exact ⟨true, rfl⟩
  | dict entry =>
    obtain ⟨targets, listed, _⟩ := sequenceValue_ok (formed entry rfl) "replacements.targets"
    rw [replacementOwnsField, listed]
    exact ⟨_, rfl⟩

/-- Of a kustomization of that form the detector says whether it owns the field. -/
theorem kustomizationOwnsProtectedField_ok
    (formed : KustomizationFormed kustomize contents directory document) :
    ∃ answer, kustomizationOwnsProtectedField kustomize directory contents.get selected
      protectedFieldPaths document = .ok answer := by
  rw [kustomizationOwnsProtectedField]
  split
  · exact ⟨false, rfl⟩
  · apply orNext_ok
    · obtain ⟨items, listed, _⟩ := sequenceValue_ok formed.transformers "transformers"
      rw [transformersOwnField, listed]
      exact ⟨_, rfl⟩
    apply orNext_ok
    · split
      · obtain ⟨items, listed, _⟩ := sequenceValue_ok formed.replicas "replicas"
        rw [replicasOwnField, listed]
        change ∃ answer, (if items.any fun replica => !replica.isDict then _ else _) = _
        split <;> exact ⟨_, rfl⟩
      · exact ⟨false, rfl⟩
    apply orNext_ok
    · exact anyOwns_ok fun field member =>
        section_ok (formed.patches field member) (fun _ => patchEntryOwnsField_ok) field
    apply orNext_ok
    · obtain ⟨texts, listed, each⟩ := stringSequence_ok formed.merges "patchesStrategicMerge"
      rw [strategicMergesOwnField, listed]
      exact anyOwns_ok fun text member => strategicMergeOwnsField_ok (each text member)
    · exact section_ok formed.replacements (fun _ => replacementOwnsField_ok) "replacements"

theorem addReferences_ok
    (resolve : ∀ text ∈ references, ∃ path, kustomize.localReference text field directory =
      .ok path) (paths : List String) :
    ∃ added, addReferences kustomize directories directory field references paths = .ok added := by
  induction references generalizing paths with
  | nil => exact ⟨paths, rfl⟩
  | cons reference references ih =>
    obtain ⟨⟨path, resolved⟩, rest⟩ := List.forall_mem_cons.mp resolve
    rw [addReferences, resolved]
    exact ih rest _

theorem addFields_ok (formed : ∀ field ∈ fields, TextsOf
      (fun text => ∃ path, kustomize.localReference text field directory = .ok path)
      (getOrNone field document))
    (paths : List String) :
    ∃ added, addFields kustomize directories directory document fields paths = .ok added := by
  induction fields generalizing paths with
  | nil => exact ⟨paths, rfl⟩
  | cons field fields ih =>
    obtain ⟨first, rest⟩ := List.forall_mem_cons.mp formed
    obtain ⟨references, listed, resolve⟩ := stringSequence_ok first field
    obtain ⟨added, done⟩ : ∃ added,
        addReferences kustomize directories directory field references paths = .ok added :=
      addReferences_ok resolve paths
    obtain ⟨all, others⟩ := ih rest added
    exact ⟨all, bind_eq_ok.mpr ⟨references, listed, bind_eq_ok.mpr ⟨added, done, others⟩⟩⟩

theorem scanKustomizations_ok {files : SourceContents}
    (formed : ∀ file ∈ files, isKustomizationFile file.1 = true →
      ∃ document, parseKustomizationDocument kustomize file.2 file.1 = .ok document ∧
        KustomizationFormed kustomize contents (parentPath file.1) document) (paths : List String) :
    ∃ result, scanKustomizations kustomize contents selected protectedFieldPaths files paths =
      .ok result := by
  induction files generalizing paths with
  | nil => exact ⟨(paths, false), rfl⟩
  | cons file files ih =>
    obtain ⟨first, rest⟩ := List.forall_mem_cons.mp formed
    rw [scanKustomizations]
    split
    next isFile =>
      obtain ⟨document, parsed, sections⟩ := first isFile
      obtain ⟨added, listed⟩ := addFields_ok sections.references paths
      obtain ⟨owns, answered⟩ := kustomizationOwnsProtectedField_ok sections
      have next : ∃ result, (if owns then .ok (added, true) else
          scanKustomizations kustomize contents selected protectedFieldPaths files added) =
            .ok result := by
        cases owns
        · exact ih rest added
        · exact ⟨_, rfl⟩
      obtain ⟨result, done⟩ := next
      exact ⟨result, bind_eq_ok.mpr ⟨document, parsed, bind_eq_ok.mpr ⟨added, listed,
        bind_eq_ok.mpr ⟨owns, answered, done⟩⟩⟩⟩
    next => exact ih rest paths

end answers

section merging

def fieldLocation (fieldPath : String) : List Step := location (fieldPathSegments fieldPath)

theorem mappingDeclaresField_iff {body : Entries} {fieldPath : String} :
    mappingDeclaresField body fieldPath = true ↔
    readIn (fieldLocation fieldPath) (some (.dict body)) ≠ none := by
  rw [mappingDeclaresField, readIn, Option.bind_some, fieldLocation, ← objectValueAt_toOption]
  split
  next none => simp [none, objectValueAt, Except.toOption]
  next =>
    cases objectValueAt (.dict body) (fieldPathSegments fieldPath) <;>
      simp [Except.toBool, Except.toOption]

/-- Merging the patch into the object changes, adds or removes the value at the path. -/
def Changes (body object : Entries) (fieldPath : String) : Prop :=
  readIn (fieldLocation fieldPath) (mergePatch (.dict body) (some (.dict object))) ≠
    readIn (fieldLocation fieldPath) (some (.dict object))

/-- The patch changes the value at the path in some object of the identity. -/
def Affects (selected : ManifestIdentity) (body : Entries) (fieldPath : String) : Prop :=
  ∃ object, manifestIdentity object = some selected ∧ Changes body object fieldPath

/-- Some object of the identity has a value at the path. -/
def HasRoom (selected : ManifestIdentity) (fieldPath : String) : Prop :=
  ∃ object, manifestIdentity object = some selected ∧
    readIn (fieldLocation fieldPath) (some (.dict object)) ≠ none

/-- A path that the patch does not declare is changed through its parents only. -/
theorem affects_iff_of_undeclared {body : Entries} (formed : WellFormed (.dict body))
    (undeclared : ¬mappingDeclaresField body fieldPath = true) :
    Affects selected body fieldPath ↔
      ¬leavesAlone (fieldLocation fieldPath) (.dict body) ∧ HasRoom selected fieldPath := by
  rw [mappingDeclaresField_iff, not_not] at undeclared
  by_cases alone : leavesAlone (fieldLocation fieldPath) (.dict body)
  · refine ⟨fun ⟨object, _, changes⟩ => ?_, fun ⟨disturbed, _⟩ => absurd alone disturbed⟩
    exact absurd (readIn_mergePatch_alone formed alone _) changes
  · have removed (object : Entries) :=
      readIn_mergePatch_blocked formed alone undeclared (some (.dict object))
    constructor
    · rintro ⟨object, identity, changes⟩
      rw [Changes, removed] at changes
      exact ⟨alone, object, identity, changes.symm⟩
    · rintro ⟨_, object, identity, present⟩
      refine ⟨object, identity, ?_⟩
      rw [Changes, removed]
      exact present.symm

end merging

section detection
variable (kustomize : Kustomize) (selected : ManifestIdentity) (targetDeclared : Bool)
  (body : Entries)

/-- Kustomize applies the patch to the object: its target selects it, or the patch has no
target and has the object's identity. -/
def Applies : Prop :=
  targetDeclared = true ∨
    ∃ identity, manifestIdentity body = some identity ∧
      identityMatchesSelected kustomize selected identity = true

/-- The identity in the patch, if there is one, is the object's. -/
def Recognized : Prop :=
  ∀ identity, manifestIdentity body = some identity →
    identityMatchesSelected kustomize selected identity = true

/-- The patches of which the detector misses nothing. -/
def Noticeable (paths : List String) : Prop :=
  (Recognized kustomize selected body →
    (∃ path ∈ paths, mappingDeclaresField body path = true) ∨
      ∀ path ∈ paths, leavesAlone (fieldLocation path) (.dict body) ∨ ¬HasRoom selected path) ∧
  (¬Recognized kustomize selected body → ∀ path ∈ paths, ¬Affects selected body path)

variable {kustomize selected targetDeclared body}

theorem patchContentOwnsField_of_applies
    (loaded : kustomize.runtime.safeLoad content = .ok (.dict body))
    (applies : Applies kustomize selected targetDeclared body) (paths : List String) :
    patchContentOwnsField kustomize selected paths content targetDeclared = .ok true ↔
      Recognized kustomize selected body ∧
      ∃ path ∈ paths, mappingDeclaresField body path = true := by
  rw [patchContentOwnsField, loaded]
  dsimp only
  cases found : manifestIdentity body with
  | none =>
    obtain rfl | ⟨identity, present, _⟩ := applies
    · simp [Recognized, found]
    · cases found.symm.trans present
  | some identity =>
    dsimp only
    by_cases accepted : identityMatchesSelected kustomize selected identity = true
    · rw [if_pos accepted]
      simp [Recognized, found, accepted]
    · rw [if_neg accepted]
      simp [Recognized, found, accepted]

/-- A merge patch that changes a protected field is seen exactly if the patch has the
object's identity or none, and declares a protected path or touches none of their parents. -/
theorem patchContentOwnsField_sees_iff (kustomize : Kustomize) (selected : ManifestIdentity)
    (paths : List String) (targetDeclared : Bool) (content : String) (body : Entries)
    (loaded : kustomize.runtime.safeLoad content = .ok (.dict body))
    (formed : WellFormed (.dict body)) :
    (Applies kustomize selected targetDeclared body → (∃ path ∈ paths, Affects selected body path) →
        patchContentOwnsField kustomize selected paths content targetDeclared = .ok true) ↔
      (Applies kustomize selected targetDeclared body →
        Noticeable kustomize selected body paths) := by
  refine forall_congr' fun applies => ?_
  rw [patchContentOwnsField_of_applies loaded applies]
  constructor
  · intro seen
    refine ⟨fun recognized => ?_, fun unknown path member affected => ?_⟩
    · by_cases declared : ∃ path ∈ paths, mappingDeclaresField body path = true
      · exact .inl declared
      · refine .inr fun path member => ?_
        have undeclared : ¬mappingDeclaresField body path = true :=
          fun declares => declared ⟨path, member, declares⟩
        have unaffected : ¬Affects selected body path :=
          fun affected => declared (seen ⟨path, member, affected⟩).2
        rw [affects_iff_of_undeclared formed undeclared] at unaffected
        by_cases alone : leavesAlone (fieldLocation path) (.dict body)
        · exact .inl alone
        · exact .inr fun room => unaffected ⟨alone, room⟩
    · exact unknown (seen ⟨path, member, affected⟩).1
  · rintro ⟨known, foreign⟩ ⟨path, member, affected⟩
    by_cases recognized : Recognized kustomize selected body
    · refine ⟨recognized, ?_⟩
      obtain declared | untouched := known recognized
      · exact declared
      · by_contra none
        have undeclared : ¬mappingDeclaresField body path = true :=
          fun declares => none ⟨path, member, declares⟩
        obtain ⟨disturbed, room⟩ := (affects_iff_of_undeclared formed undeclared).mp affected
        exact (untouched path member).elim disturbed fun full => full room
    · exact absurd affected (foreign recognized path member)

section sample

def deployment (name : String) (spec : Value) : Entries :=
  [(.str "apiVersion", .scalar (.str "apps/v1")), (.str "kind", .scalar (.str "Deployment")),
    (.str "metadata", .dict [(.str "name", .scalar (.str name))]), (.str "spec", spec)]

def replicas (count : Int) : Value := .dict [(.str "replicas", .scalar (.int count))]

def webDeployment : ManifestIdentity := ⟨"apps/v1", "Deployment", none, "web"⟩

def loading (body : Entries) : Kustomize where
  runtime := { sampleRuntime with safeLoad := fun _ => .ok (.dict body) }
  texts := .plain
  isalnum := Char.isAlphanum
  localReference reference _ _ := .ok reference

theorem deployment_wellFormed (name : String) (formed : spec.WellFormed) :
    WellFormed (.dict (deployment name spec)) := by
  have metadata : WellFormed (.dict [(.str "name", .scalar (.str name))]) :=
    .dict (List.nodup_singleton _) (by simpa using WellFormed.scalar)
  have keys : (["apiVersion", "kind", "metadata", "spec"].map fun key =>
      (Scalar.str key).canonical).Nodup := by
    decide
  refine .dict keys fun entry member => ?_
  simp only [deployment, List.mem_cons, List.not_mem_nil, or_false] at member
  obtain rfl | rfl | rfl | rfl := member
  · exact .scalar
  · exact .scalar
  · exact metadata
  · exact formed

theorem replicas_wellFormed (count : Int) : (replicas count).WellFormed :=
  .dict (List.nodup_singleton _) (by simpa using WellFormed.scalar)

theorem fieldLocation_replicas :
    fieldLocation "spec.replicas" = [.key "spec", .key "replicas"] := by decide

theorem manifestIdentity_deployment (spec : Value) :
    manifestIdentity (deployment "web" spec) = some webDeployment := by
  rfl

theorem affects_replicas (name : String) :
    Affects webDeployment (deployment name (replicas 3)) "spec.replicas" ∧
      Affects webDeployment (deployment name (.scalar .none)) "spec.replicas" := by
  constructor
  · refine ⟨deployment "web" (replicas 2), manifestIdentity_deployment _, ?_⟩
    rw [Changes, fieldLocation_replicas]
    intro same
    cases same
  · refine ⟨deployment "web" (replicas 2), manifestIdentity_deployment _, ?_⟩
    rw [Changes, fieldLocation_replicas]
    intro same
    cases same

theorem patchContentOwnsField_sees_iff_sample :
    patchContentOwnsField (loading (deployment "web" (replicas 3))) webDeployment
      ["spec.replicas"] "" false =
      .ok true := by
  have matched : identityMatchesSelected (loading (deployment "web" (replicas 3))) webDeployment
      webDeployment = true := by decide
  have recognized : Recognized (loading (deployment "web" (replicas 3))) webDeployment
      (deployment "web" (replicas 3)) := by
    intro identity found
    rw [manifestIdentity_deployment] at found
    cases found
    exact matched
  have declared : mappingDeclaresField (deployment "web" (replicas 3)) "spec.replicas" = true := by
    decide +kernel
  refine (patchContentOwnsField_sees_iff _ _ ["spec.replicas"] _ _ _ rfl
    (deployment_wellFormed "web" (replicas_wellFormed 3))).mpr ?_ ?_ ?_
  · exact fun _ => ⟨fun _ => .inl ⟨_, List.mem_singleton_self _, declared⟩,
      fun unknown => absurd recognized unknown⟩
  · exact .inr ⟨_, manifestIdentity_deployment _, matched⟩
  · exact ⟨_, List.mem_singleton_self _, (affects_replicas "web").1⟩

/-- A patch with a target and a placeholder for a name, and a patch that deletes the parent
of the field: both change the field, and neither is seen. -/
theorem patchContentOwnsField_misses :
    let placeholder := deployment "any" (replicas 3)
    let deletion := deployment "web" (.scalar .none)
    (Applies (loading placeholder) webDeployment true placeholder ∧
      Affects webDeployment placeholder "spec.replicas" ∧
      patchContentOwnsField (loading placeholder) webDeployment ["spec.replicas"] "" true =
        .ok false) ∧
    (Applies (loading deletion) webDeployment false deletion ∧
      Affects webDeployment deletion "spec.replicas" ∧
      patchContentOwnsField (loading deletion) webDeployment ["spec.replicas"] "" false =
        .ok false) := by
  refine ⟨⟨.inl rfl, (affects_replicas "any").1, ?_⟩, .inr ⟨_, manifestIdentity_deployment _, ?_⟩,
    (affects_replicas "web").2, ?_⟩
  · decide +kernel
  · decide
  · decide +kernel

end sample

end detection

end K8sOps.Gitops
