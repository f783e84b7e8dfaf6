import K8sOps.Gitops.KustomizeOwnership
import K8sOps.Text.Slashes
import K8sOps.Worklist

/-! `collect_kustomize_source_contents`: read the kustomization of a directory, and whatever
it refers to, from a repository. The references are relative paths. Only files of the tree
are read, and no more than the limits allow. -/
namespace K8sOps.Gitops
open Python Text

section paths

def stripSlashes (text : List Char) : List Char :=
  ((text.dropWhile (· = '/')).reverse.dropWhile (· = '/')).reverse

/-- The empty text stands for a path that is refused. -/
def normalizeTreePath (path : String) : String :=
  let path := stripSlashes (strip path).toList
  if path = [] ∨ '\\' ∈ path then ""
  else
    let parts := (path.splitOn '/').filter (· ≠ [])
    if parts.any fun part => part = ['.'] || part = ['.', '.'] then "" else joined parts

def pathIsUnderDirectory (path directory : String) : Bool :=
  directory == "." || path == directory || startsWith path (directory ++ "/")

/-- `posixpath.join` of a base that does not end in a slash and a relative path. -/
def joinPath (base reference : String) : String :=
  if base = "" then reference else base ++ "/" ++ reference

/-- The parts of `posixpath.normpath`, the last one first. -/
def normalParts : List (List Char) → List (List Char) → List (List Char)
  | kept, [] => kept
  | kept, part :: parts =>
    if part = [] ∨ part = ['.'] then normalParts kept parts
    else if part ≠ ['.', '.'] then normalParts (part :: kept) parts
    else
      match kept with
      | [] => normalParts [part] parts
      | last :: others =>
        if last = ['.', '.'] then normalParts (part :: last :: others) parts
        else normalParts others parts

/-- `posixpath.normpath` of a relative path. -/
def normpath (path : String) : String :=
  match (normalParts [] (slashed path)).reverse with
  | [] => "."
  | parts => joined parts

/-- The pattern `^[a-z][a-z0-9+.-]*:`. -/
def hasScheme (lowered : List Char) : Bool :=
  match lowered with
  | [] => false
  | first :: rest =>
    first.isLower && (rest.dropWhile fun c => c.isLower || c.isDigit || c ∈ ['+', '.', '-']).head? =
      some ':'

def isRemoteKustomizeReference (texts : TextCodec) (reference : String) : Bool :=
  let lowered := texts.casefold reference
  hasScheme lowered.toList ||
    ["git@", "//", "github.com/", "gitlab.com/", "bitbucket.org/",
      "dev.azure.com/"].any (startsWith lowered) ||
    decide (".git//".toList <:+: lowered.toList) || decide ("?ref=".toList <:+: lowered.toList)

def normalizeKustomizeLocalReference (texts : TextCodec)
    (rawReference field currentDirectory : String) : Except OwnershipError String :=
  let reference := strip rawReference
  let refuse (message shown : String) : Except OwnershipError String :=
    .error (.manifestRenderValidation (message ++ " in " ++ field ++ ": " ++ shown))
  if isRemoteKustomizeReference texts reference then
    refuse "Kustomize remote reference is not allowed" reference
  else if reference = "" ∨ '\\' ∈ reference.toList ∨ startsWith reference "/" then
    refuse "Kustomize local reference is invalid" (if reference = "" then "<empty>" else reference)
  else
    let base := if currentDirectory = "." then "" else currentDirectory
    let normalized := normpath (joinPath base reference)
    if normalized ∈ ["", ".", ".."] ∨ startsWith normalized "../" then
      refuse "Kustomize local reference escapes repository" reference
    else if normalizeTreePath normalized = "" then
      refuse "Kustomize local reference is invalid" reference
    else .ok (normalizeTreePath normalized)

end paths

section references

/-- A reference: the field that has it, its text, and whether it may name a directory. -/
structure LocalReference where
  field : String
  rawReference : String
  mayBeDirectory : Bool
  deriving DecidableEq

def mappingSequence (value : Value) (field : String) : Except OwnershipError (List Entries) := do
  let values ← sequenceValue value field
  if values.any fun item => !item.isDict then
    .error (.manifestRenderValidation ("Kustomize " ++ field ++ " entries must be objects"))
  else .ok (values.map asMapping)

def stringReferences (document : Entries) (mayBeDirectory : Bool) (field : String) :
    Except OwnershipError (List LocalReference) :=
  (stringSequence (getOrNone field document) field).map fun values =>
    values.map fun value => ⟨field, value, mayBeDirectory⟩

def gather (read : α → Except OwnershipError (List LocalReference)) :
    List α → Except OwnershipError (List LocalReference)
  | [] => .ok []
  | item :: items => do
    let references ← read item
    .ok (references ++ (← gather read items))

def pathReferences (document : Entries) (field : String) :
    Except OwnershipError (List LocalReference) :=
  (sequenceValue (getOrNone field document) field).map fun patches => patches.filterMap fun
    | .dict patch =>
      match getOrNone "path" patch with
      | .scalar (.str path) => some ⟨field ++ ".path", path, false⟩
      | _ => none
    | _ => none

def kustomizePatchReferences (document : Entries) :
    Except OwnershipError (List LocalReference) := do
  let patches ← pathReferences document "patches"
  let operations ← pathReferences document "patchesJson6902"
  let merges ← stringSequence (getOrNone "patchesStrategicMerge" document) "patchesStrategicMerge"
  let files := merges.filter fun patch => '\n' ∉ patch.toList
  .ok (patches ++ operations ++ files.map fun patch => ⟨"patchesStrategicMerge", patch, false⟩)

/-- The path after the first `=`. -/
def generatorFilePath (reference : String) : String :=
  if '=' ∈ reference.toList then String.ofList ((reference.toList.dropWhile (· ≠ '=')).drop 1)
  else reference

/-- `isinstance(value, str) and value.strip()`. -/
def textReference (field : String) : Value → List LocalReference
  | .scalar (.str text) => if notBlank text then [⟨field, text, false⟩] else []
  | _ => []

def generatorReferences (generatorField : String) (generator : Entries) :
    Except OwnershipError (List LocalReference) := do
  let files ← gather (fun fileField =>
    (stringSequence (getOrNone fileField generator) (generatorField ++ "." ++ fileField)).map
      fun values =>
      values.map fun value => ⟨generatorField ++ "." ++ fileField, generatorFilePath value, false⟩)
        ["files", "envs"]
  .ok (files ++ textReference (generatorField ++ ".env") (getOrNone "env" generator))

def kustomizeGeneratorReferences (document : Entries) :
    Except OwnershipError (List LocalReference) :=
  gather (fun generatorField => do
    gather (generatorReferences generatorField)
      (← mappingSequence (getOrNone generatorField document) generatorField))
    ["configMapGenerator", "secretGenerator"]

def fieldText (key : String) : Value → Option String
  | .dict entries =>
    match getOrNone key entries with
    | .scalar (.str text) => some text
    | _ => none
  | _ => none

def chartReferences (texts : TextCodec) (chart : Entries) :
    Except OwnershipError (List LocalReference) := do
  let remote := match getOrNone "repo" chart with
    | .scalar (.str repository) => notBlank repository
    | _ => false
  let pathBased := match getOrNone "name" chart with
    | .scalar (.str chartName) =>
      isRemoteKustomizeReference texts (strip chartName) || '/' ∈ chartName.toList ||
        '\\' ∈ chartName.toList || strip chartName ∈ ["", ".", ".."]
    | _ => false
  if remote then
    .error (.manifestRenderValidation "Kustomize remote reference is not allowed: helmCharts.repo")
  else if pathBased then
    .error (.manifestRenderValidation
      "Kustomize remote or path-based chart name is not allowed: helmCharts.name")
  else
    let additional ←
      stringSequence (getOrNone "additionalValuesFiles" chart) "helmCharts.additionalValuesFiles"
    .ok (textReference "helmCharts.valuesFile" (getOrNone "valuesFile" chart) ++
      additional.map fun value => ⟨"helmCharts.additionalValuesFiles", value, false⟩)

def kustomizeLocalReferences (texts : TextCodec) (document : Entries) :
    Except OwnershipError (List LocalReference) := do
  let directories ← gather (stringReferences document true) ["resources", "bases", "components"]
  let files ← gather (stringReferences document false) ["crds", "configurations", "generators",
    "transformers"]
  let patches ← kustomizePatchReferences document
  let generators ← kustomizeGeneratorReferences document
  let openapi := (fieldText "path" (getOrNone "openapi" document)).map fun path =>
    (⟨"openapi.path", path, false⟩ : LocalReference)
  let chartHome := (fieldText "chartHome" (getOrNone "helmGlobals" document)).map fun path =>
    (⟨"helmGlobals.chartHome", path, true⟩ : LocalReference)
  let charts ←
    gather (chartReferences texts)
      (← mappingSequence (getOrNone "helmCharts" document) "helmCharts")
  .ok (directories ++ files ++ patches ++ generators ++ openapi.toList ++
    chartHome.toList ++ charts)

end references

section collection

def maxRenderSourceFiles : Nat := 500

def maxRenderSourceBytes : Nat := 5 * 1048576

/-- A repository at one revision. The tree has one mapping for each of its items; reading a
file may fail with a detail. -/
structure Repository where
  runtime : Runtime
  texts : TextCodec
  tree : List Entries
  content : String → Except String ByteArray

/-- `str(item.get(key) or "")`. -/
def Repository.itemText (repository : Repository) (key : String) (item : Entries) : String :=
  let value := getOrNone key item
  if truthy value then repository.texts.toText value else ""

def Repository.blobPaths (repository : Repository) : List String :=
  let blobs := repository.tree.filter fun item => repository.itemText "type" item = "blob"
  (blobs.map fun item => normalizeTreePath (repository.itemText "path" item)).filter (· ≠ "")

/-- The texts before each slash of a path: its parent, the parent of that, and so on. -/
def parents : List Char → List Char → List (List Char)
  | _, [] => []
  | before, c :: rest =>
    if c = '/' then before :: parents (before ++ [c]) rest else parents (before ++ [c]) rest

def repositoryDirectories (blobPaths : List String) : List String :=
  "." :: blobPaths.flatMap fun path => (parents [] path.toList).map String.ofList

def inDirectory (directory name : String) : String :=
  if directory = "." then name else directory ++ "/" ++ name

def findKustomizationPath (directory : String) (blobPaths : List String) :
    Except OwnershipError String :=
  match (kustomizationFiles.map (inDirectory directory)).filter (· ∈ blobPaths) with
  | [] => .error (.manifestRenderValidation
      ("Kustomize source is missing kustomization.yaml under " ++ directory))
  | [path] => .ok path
  | _ => .error (.manifestRenderValidation
      ("Kustomize source has multiple kustomization files under " ++ directory))

/-- The files that were read, in their order, with their size, and whether a reference led
out of the source directory. -/
structure Collected where
  contents : SourceContents
  totalBytes : Nat
  usedExternalLocalReference : Bool

def limitText (kind : String) (found limit : Nat) : OwnershipError :=
  .manifestRenderValidation ("kustomize render source exceeds " ++ kind ++ " limit (" ++
    toString found ++ " > " ++ toString limit ++ ")")

variable (repository : Repository)

/-- The content of a file. Each file is read once. -/
def fetch (path : String) (state : Collected) : Except OwnershipError (ByteArray × Collected) :=
  match state.contents.get path with
  | some cached => .ok (cached, state)
  | none =>
    if path ∉ repository.blobPaths then
      .error (.manifestRenderValidation
        ("Kustomize local reference does not exist in repository: " ++ path))
    else if maxRenderSourceFiles ≤ state.contents.length then
      .error (limitText "file" (state.contents.length + 1) maxRenderSourceFiles)
    else
      match repository.content path with
      | .error detail =>
        .error (.manifestRenderValidation ("render source content fetch failed for " ++ path ++
          ": " ++ detail))
      | .ok content =>
        if maxRenderSourceBytes < state.totalBytes + content.size then
          .error (limitText "byte" (state.totalBytes + content.size) maxRenderSourceBytes)
        else
          .ok (content, { state with
            contents := state.contents ++ [(path, content)]
            totalBytes := state.totalBytes + content.size })

/-- Follow the references of one kustomization. The directories among them are pushed. -/
def followReferences (sourceDir directory : String) :
    List LocalReference → Collected → Except OwnershipError (List String × Collected)
  | [], state => .ok ([], state)
  | found :: rest, state => do
    let reference ←
      normalizeKustomizeLocalReference repository.texts found.rawReference found.field directory
    let state := if reference ≠ directory ∧ ¬pathIsUnderDirectory reference sourceDir then
      { state with usedExternalLocalReference := true } else state
    if found.mayBeDirectory ∧ reference ∈ repositoryDirectories repository.blobPaths then
      let (more, state) ← followReferences sourceDir directory rest state
      .ok (reference :: more, state)
    else
      let (_, state) ← fetch repository reference state
      followReferences sourceDir directory rest state

def parseIn (content : ByteArray) (path : String) : Except OwnershipError Entries :=
  parseKustomizationDocument ⟨repository.runtime, repository.texts,
    fun _ => false, fun path _ _ => .ok path⟩ content path

def visitDirectory (sourceDir : String) : Worklist.Visit String Collected OwnershipError :=
  fun directory state => do
  let kustomizationPath ← findKustomizationPath directory repository.blobPaths
  let (content, state) ← fetch repository kustomizationPath state
  let document ← parseIn repository content kustomizationPath
  followReferences repository sourceDir directory
    (← kustomizeLocalReferences repository.texts document) state

structure SourceCollection where
  contents : SourceContents
  warnings : List String

def collection (state : Collected) : SourceCollection where
  contents := state.contents
  warnings := if state.usedExternalLocalReference then
    ["Kustomize parent or sibling references were resolved within the bounded repository tree"]
  else []

/-- What is returned or raised, beside the directories that were visited. Each round of the loop
takes one unit of fuel. -/
def collectKustomizeSourceContents (sourceDir : String) (fuel : Nat) :
    Option (List String × Except OwnershipError SourceCollection) :=
  let selected := (repository.blobPaths.filter (pathIsUnderDirectory · sourceDir)).dedup
  if maxRenderSourceFiles < selected.length then
    some ([], .error (limitText "file" selected.length maxRenderSourceFiles))
  else
    (Worklist.run (visitDirectory repository sourceDir) fuel [sourceDir] [] ⟨[], 0, false⟩).map
      fun ended => (ended.1, ended.2.map collection)

end collection

end K8sOps.Gitops
