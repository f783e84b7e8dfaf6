import K8sOps.Gitops.SourcePatch
import K8sOps.Python.Convert
import K8sOps.Text.Slashes

/-! `parse_remediation_source_contract`: the contract in which a repository declares where the
sources of its manifests are. -/
namespace K8sOps.Gitops
open Python Text

inductive ContractError where
  | contract (message : String)
  | patch (error : PatchError)
  deriving DecidableEq

def ContractError.source (message : String) : ContractError :=
  .contract ("remediation source " ++ message)

structure RemediationSourceDeclaration where
  manifestPath : String
  sourceType : String
  sourcePath : String
  imagePath : Option String
  imageTagPath : Option String
  imageNames : List String
  replicaPath : Option String
  probePaths : List (String × String)
  deriving DecidableEq

structure RemediationSourceContract where
  sources : List RemediationSourceDeclaration
  deriving DecidableEq

def remediationSourceContractPath : String := ".remediation.yaml"

def maxContractBytes : Nat := 64 * 1024

section fields

/-- `[A-Za-z0-9_-]+(?:\[name=[^\[\]]+\])?` for a whole part. -/
def contractSegment (part : List Char) : Bool :=
  part.takeWhile keyCharacter ≠ [] &&
    match part.dropWhile keyCharacter with
    | [] => true
    | '[' :: 'n' :: 'a' :: 'm' :: 'e' :: '=' :: more =>
      let name := more.takeWhile fun c => c ≠ '[' && c ≠ ']'
      name ≠ [] && more.dropWhile (fun c => c ≠ '[' && c ≠ ']') = [']']
    | _ => false

def validFieldPath (value : String) : Bool :=
  value ≠ "" && (value.toList.splitOn '.').all contractSegment

def optionalFieldPath (value : Value) (field : String) : Except ContractError (Option String) :=
  match value with
  | .scalar .none => .ok none
  | .scalar (.str text) =>
    if validFieldPath text then .ok (some text) else .error (.source (field ++ " is invalid"))
  | _ => .error (.source (field ++ " is invalid"))

def probeFieldSuffixes : List String :=
  ["readinessProbe.httpGet.path", "readinessProbe.httpGet.port", "readinessProbe.timeoutSeconds",
    "livenessProbe.httpGet.path", "livenessProbe.httpGet.port", "livenessProbe.timeoutSeconds"]

def parseProbePath : Scalar × Value → Except ContractError (String × String)
  | (.str semanticField, .scalar (.str path)) =>
    if !validFieldPath semanticField || !probeFieldSuffixes.any (endsWith semanticField) then
      .error (.source "probe field is unsupported")
    else if !validFieldPath path then .error (.source "probePaths is invalid")
    else .ok (semanticField, path)
  | _ => .error (.source "probe field is unsupported")

def parseProbePaths : Value → Except ContractError (List (String × String))
  | .scalar .none => .ok []
  | .dict (entry :: entries) => (entry :: entries).mapM parseProbePath
  | _ => .error (.source "probePaths is invalid")

def imageCharacter (c : Char) : Bool := c.isAlphanum || c ∈ ['.', '_', '/', ':', '+', '-']

/-- `[A-Za-z0-9][A-Za-z0-9._/:+-]*[A-Za-z0-9]` for the whole name. -/
def imageNameText (name : List Char) : Bool :=
  2 ≤ name.length && name.all imageCharacter && name.head?.any Char.isAlphanum &&
    name.getLast?.any Char.isAlphanum

/-- The keys of a mapping, as a set. -/
def keysAre (wanted : List String) (entries : Entries) : Bool :=
  entries.all (fun entry => wanted.any fun key => entry.1 = .str key) &&
    wanted.all fun key => (getKey key entries).isSome

def parseImageName : Value → Except ContractError String
  | .dict item =>
    if !keysAre ["name"] item then .error (.source "image entry is invalid")
    else
      match getOrNone "name" item with
      | .scalar (.str name) =>
        if '@' ∈ name.toList ∨ !imageNameText name.toList then
          .error (.source "image name is invalid") else .ok name
      | _ => .error (.source "image name is invalid")
  | _ => .error (.source "image entry is invalid")

def parseImageNames : Value → Except ContractError (List String)
  | .scalar .none => .ok []
  | .list (item :: items) => do
    let names ← (item :: items).mapM parseImageName
    if names.Nodup then .ok names else .error (.source "image name is duplicated")
  | _ => .error (.source "images are invalid")

end fields

section repoPaths

/-- `PurePosixPath(value).parts` of a relative path: empty and `.` parts are dropped. -/
def pathParts (value : String) : List (List Char) :=
  (slashed value).filter fun part => part ≠ [] && part ≠ ['.']

def repoPathCharacter (c : Char) : Bool := c.isAlphanum || c ∈ ['.', '_', '/', '-']

def safeRepoPath (value : Value) (field : String) : Except ContractError String :=
  match value with
  | .scalar (.str value) =>
    if value = "" ∨ strip value ≠ value ∨ startsWith value "/" ∨ endsWith value "/" ∨
      startsWith value "./" ∨
        "//".toList <:+: value.toList ∨ '\\' ∈ value.toList ∨ '\x00' ∈ value.toList ∨
        !value.toList.all repoPathCharacter ∨ ['.', '.'] ∈ pathParts value ∨
        (pathParts value).any (fun part => part = [] || part = ['.']) then
          .error (.source (field ++ " is unsafe"))
    else .ok value
  | _ => .error (.source (field ++ " must be text"))

end repoPaths

section contract
variable (runtime : Runtime)

def allowedKeys (sourceType : String) : List String :=
  ["manifestPath", "sourceType", "path"] ++
    (if sourceType = "raw-yaml" then ["imagePath", "replicaPath", "probePaths"]
    else if sourceType = "helm-values" then ["imageTagPath", "replicaPath", "probePaths"]
    else ["images"])

/-- `source_type not in SOURCE_TYPES`. A value that cannot be hashed is an error. -/
def sourceTypeOf (entry : Entries) : Except ContractError String :=
  match getOrNone "sourceType" entry with
  | .scalar (.str sourceType) =>
    if sourceType ∈ ["raw-yaml", "helm-values", "kustomize"] then .ok sourceType
    else .error (.source "type is unsupported")
  | .scalar _ => .error (.source "type is unsupported")
  | .list _ | .dict _ => .error (.patch .typeError)

/-- The fields that a declaration of its type must have. -/
def declaresNothing (declared : RemediationSourceDeclaration) : Option ContractError :=
  if declared.sourceType = "raw-yaml" ∧ declared.imagePath = none ∧ declared.replicaPath = none ∧
      declared.probePaths = [] then
    some (.contract "raw remediation source declares no fields")
  else if declared.sourceType = "helm-values" ∧ declared.imageTagPath = none ∧
    declared.replicaPath = none ∧
      declared.probePaths = [] then
    some (.contract "Helm remediation source declares no fields")
  else if declared.sourceType = "kustomize" ∧ declared.imageNames = [] then
    some (.contract "Kustomize remediation source declares no images")
  else none

def declaredFieldPaths (declared : RemediationSourceDeclaration) : List String :=
  declared.imagePath.toList ++ declared.imageTagPath.toList ++ declared.replicaPath.toList ++
    declared.probePaths.map (·.2)

def parseSource : Value → Except ContractError RemediationSourceDeclaration
  | .dict entry => do
    let sourceType ← sourceTypeOf entry
    if ! ["manifestPath", "sourceType", "path"].all (fun key => (getKey key entry).isSome) ||
        !entry.all (fun found => (allowedKeys sourceType).any fun key => found.1 = .str key) then
      .error (.source "entry keys are invalid")
    else
      let manifestPath ← safeRepoPath (getOrNone "manifestPath" entry) "manifestPath"
      let sourcePath ← safeRepoPath (getOrNone "path" entry) "path"
      if sourcePath = remediationSourceContractPath then
        .error (.source "contract cannot patch itself")
      else
        let imagePath ← optionalFieldPath (getOrNone "imagePath" entry) "imagePath"
        let imageTagPath ← optionalFieldPath (getOrNone "imageTagPath" entry) "imageTagPath"
        let replicaPath ← optionalFieldPath (getOrNone "replicaPath" entry) "replicaPath"
        let probePaths ← parseProbePaths (getOrNone "probePaths" entry)
        let imageNames ← parseImageNames (getOrNone "images" entry)
        let declared : RemediationSourceDeclaration :=
          ⟨manifestPath, sourceType, sourcePath, imagePath, imageTagPath, imageNames, replicaPath,
            probePaths⟩
        if ¬(declaredFieldPaths declared).Nodup then .error (.source "field path is duplicated")
        else
          match declaresNothing declared with
          | some error => .error error
          | none => .ok declared
  | _ => .error (.source "entry is invalid")

mutual
/-- Some mapping of the document has a key twice, or a key that is not a scalar. -/
def Node.duplicated : Node → Bool
  | .scalar _ => false
  | .mapping entries => entriesDuplicated [] entries
  | .sequence items => itemsDuplicated items
  termination_by structural node => node

def Node.itemsDuplicated : List Node → Bool
  | [] => false
  | item :: items => item.duplicated || itemsDuplicated items
  termination_by structural items => items

def Node.entriesDuplicated (keys : List String) : List (Node × Node) → Bool
  | [] => false
  | entry :: entries =>
    match entry.1 with
    | .scalar key =>
      key.value ∈ keys || entryDuplicated entry || entriesDuplicated (key.value :: keys) entries
    | _ => true
  termination_by structural entries => entries

def Node.entryDuplicated : Node × Node → Bool
  | (_, value) => value.duplicated
  termination_by structural entry => entry
end

/-- The checks on the text of the contract, and its value. -/
def loadContract (content : String) : Except ContractError Value :=
  let invalid : ContractError := .source "contract is invalid YAML"
  let caught : PatchError → ContractError
    | .yamlError => invalid
    | error => .patch error
  if content = "" ∨ maxContractBytes < content.utf8ByteSize then
    .error (.source "contract size is invalid")
  else do
    if ← (runtime.scanHasAnchors content).mapError caught then
      .error (.source "contract anchors and aliases are unsupported")
    else
      match ← (runtime.composeAll content).mapError caught with
      | [.mapping entries] =>
        if Node.duplicated (.mapping entries) then
          .error (.source "contract mapping key is duplicated or invalid")
        else (runtime.safeLoad content).mapError caught
      | _ => .error (.source "contract must contain one mapping")

def isText (text : String) : Value → Bool
  | .scalar (.str found) => found == text
  | _ => false

def parseRemediationSourceContract (content : String) :
    Except ContractError RemediationSourceContract := do
  match ← loadContract runtime content with
  | .dict payload =>
    if !keysAre ["apiVersion", "kind", "spec"] payload then
      .error (.source "contract root is invalid")
    else if !isText "remediation.kyro.dev/v1alpha1" (getOrNone "apiVersion" payload) ||
        !isText "RemediationSource" (getOrNone "kind" payload) then
      .error (.source "contract version is unsupported")
    else
      match getOrNone "spec" payload with
      | .dict spec =>
        if !keysAre ["sources"] spec then .error (.source "contract spec is invalid")
        else
          match getOrNone "sources" spec with
          | .list (first :: rest) => do
            let sources ← (first :: rest).mapM parseSource
            if (sources.map (·.manifestPath)).Nodup then .ok ⟨sources⟩
            else .error (.source "manifestPath is duplicated")
          | _ => .error (.source "contract sources are missing")
      | _ => .error (.source "contract spec is invalid")
  | _ => .error (.source "contract root is invalid")

end contract

end K8sOps.Gitops
