import K8sOps.Gitops.DeclaredPatch
import K8sOps.Gitops.Diffing

/-! `kustomization_owns_protected_field`: whether something in a kustomization may set a
field that is about to be edited in the file of the object itself. The edit is made only
when nothing may. -/
namespace K8sOps.Gitops
open Python

/-- What the detector calls: the YAML loader, the text conversions, `str.isalnum` for one
character, and `normalize_kustomize_local_reference` of a reference, a field and a
directory, with the message that it is refused with. -/
structure Kustomize where
  runtime : Runtime
  texts : TextCodec
  isalnum : Char → Bool
  localReference : String → String → String → Except String String

inductive OwnershipError where
  | manifestRenderValidation (message : String)
  | patch (error : PatchError)
  deriving DecidableEq

/-- The next check is made only if the first one finds nothing. -/
def orNext (first next : Except OwnershipError Bool) : Except OwnershipError Bool :=
  first.bind fun owns => if owns then .ok true else next

section sequences

def sequenceValue (value : Value) (field : String) : Except OwnershipError (List Value) :=
  match value with
  | .scalar .none => .ok []
  | .list items => .ok items
  | _ => .error (.manifestRenderValidation ("Kustomize " ++ field ++ " must be a list"))

def pathText : Value → Option String
  | .scalar (.str text) => if notBlank text then some text else none
  | _ => none

def stringSequence (value : Value) (field : String) : Except OwnershipError (List String) := do
  let values ← sequenceValue value field
  match values.mapM pathText with
  | some texts => .ok texts
  | none => .error (.manifestRenderValidation ("Kustomize " ++ field ++ " entries must be paths"))

/-- `any(…)` over a sequence, which stops at the first hit. -/
def anyOwns (owns : α → Except OwnershipError Bool) : List α → Except OwnershipError Bool
  | [] => .ok false
  | item :: items => orNext (owns item) (anyOwns owns items)

end sequences

section patches
variable (kustomize : Kustomize) (selected : ManifestIdentity) (protectedFieldPaths : List String)

def identityMatchesSelected (identity : ManifestIdentity) : Bool :=
  identity.apiVersion == selected.apiVersion &&
    kustomize.texts.casefold identity.kind == kustomize.texts.casefold selected.kind &&
    identity.name == selected.name &&
    (identity.namespace_ == selected.namespace_ || identity.namespace_ == none)

/-- One field of a target: it is decided if the target has another value there. A plain
text is another object's; a pattern may select anything. -/
def selectorField (target : Entries) (field : String × String) : Option Bool :=
  match getOrNone field.1 target with
  | .scalar .none => none
  | .scalar (.str value) =>
    if value = field.2 then none
    else some (!value.toList.all fun c => kustomize.isalnum c || c ∈ ['.', '_', '-'])
  | _ => some true

def targetMaySelect : Value → Bool
  | .dict target =>
    let exact :=
      [("kind", selected.kind), ("name", selected.name), ("namespace", selected.namespace_.getD "")]
    (exact.findSome? (selectorField kustomize target)).getD true
  | _ => true

def jsonPointerOverlapsField (pointer fieldPath : String) : Bool :=
  let slashed := fieldPath.toList.map fun c => if c = '.' then '/' else c
  let guarded := String.ofList ('/' :: slashed)
  pointer == guarded || startsWith pointer (guarded ++ "/") || startsWith guarded (pointer ++ "/")

/-- `str(item.get(key) or "")`. -/
def textOrEmpty (key : String) (entries : Entries) : String :=
  let value := getOrNone key entries
  if truthy value then kustomize.texts.toText value else ""

/-- One operation of a JSON patch. An operation that cannot be hashed is an error. -/
def operationOwnsField : Value → Except OwnershipError Bool
  | .dict item =>
    match getOrNone "op" item with
    | .scalar (.str op) =>
      .ok (op ∈ ["add", "copy", "move", "remove", "replace"] &&
        protectedFieldPaths.any fun path =>
          jsonPointerOverlapsField (textOrEmpty kustomize "path" item) path ||
            (op ∈ ["copy", "move"] &&
              jsonPointerOverlapsField (textOrEmpty kustomize "from" item) path))
    | .scalar _ => .ok false
    | .list _ | .dict _ => .error (.patch .typeError)
  | _ => .ok false

/-- A path without segments counts as declared. -/
def mappingDeclaresField (value : Entries) (fieldPath : String) : Bool :=
  match fieldPathSegments fieldPath with
  | [] => true
  | segments => (objectValueAt (.dict value) segments).toBool

def patchContentOwnsField (content : String) (targetDeclared : Bool) : Except OwnershipError Bool :=
  match kustomize.runtime.safeLoad content with
  | .error .yamlError => .ok true
  | .error error => .error (.patch error)
  | .ok (.list payload) => anyOwns (operationOwnsField kustomize protectedFieldPaths) payload
  | .ok (.scalar _) => .ok true
  | .ok (.dict payload) =>
    match manifestIdentity payload with
    | none =>
      if targetDeclared then .ok (protectedFieldPaths.any (mappingDeclaresField payload))
      else .ok true
    | some identity =>
      if identityMatchesSelected kustomize selected identity then
        .ok (protectedFieldPaths.any (mappingDeclaresField payload))
      else .ok false

end patches

section kustomization
variable (kustomize : Kustomize) (directory : String) (contents : String → Option ByteArray)
variable (selected : ManifestIdentity) (protectedFieldPaths : List String)

/-- The file that a reference names, if it is there and is text. -/
def referencedText (reference field : String) : Except OwnershipError (Option String) :=
  match kustomize.localReference reference field directory with
  | .ok path => .ok ((contents path).bind String.fromUTF8?)
  | .error message => .error (.manifestRenderValidation message)

/-- What cannot be read may own anything. -/
def referencedContentOwnsField (reference field : String) (targetDeclared : Bool) :
    Except OwnershipError Bool := do
  match ← referencedText kustomize directory contents reference field with
  | some content =>
    patchContentOwnsField kustomize selected protectedFieldPaths content targetDeclared
  | none => .ok true

def patchEntryOwnsField (field : String) : Value → Except OwnershipError Bool
  | .dict entry =>
    let target := getOrNone "target" entry
    if targetMaySelect kustomize selected target then
      match getOrNone "patch" entry, getOrNone "path" entry with
      | .scalar (.str patch), _ =>
        patchContentOwnsField kustomize selected protectedFieldPaths patch target.isDict
      | _, .scalar (.str path) =>
        referencedContentOwnsField kustomize directory contents selected protectedFieldPaths path
          (field ++ ".path") target.isDict
      | _, _ => .ok true
    else .ok false
  | _ => .ok true

def strategicMergeOwnsField (rawReference : String) : Except OwnershipError Bool :=
  if '\n' ∈ rawReference.toList then
    patchContentOwnsField kustomize selected protectedFieldPaths rawReference false
  else
    referencedContentOwnsField kustomize directory contents selected
      protectedFieldPaths rawReference
      "patchesStrategicMerge" false

def replicasOwnField (document : Entries) : Except OwnershipError Bool := do
  let rawReplicas ← sequenceValue (getOrNone "replicas" document) "replicas"
  if rawReplicas.any fun replica => !replica.isDict then .ok true
  else .ok (rawReplicas.any fun replica => textOrEmpty kustomize "name" (asMapping replica) ==
    selected.name)

def semanticFieldsOverlap (left right : String) : Bool :=
  left == right || startsWith left (right ++ ".") || startsWith right (left ++ ".")

/-- The field paths of one target of a replacement. -/
def replacementTargetOwnsField : Value → Bool
  | .dict target =>
    targetMaySelect kustomize selected (getOrNone "select" target) &&
      match getOrNone "fieldPaths" target with
      | .list fieldPaths => fieldPaths.any fun
        | .scalar (.str path) => protectedFieldPaths.any (semanticFieldsOverlap path)
        | _ => true
      | _ => true
  | _ => true

def replacementOwnsField : Value → Except OwnershipError Bool
  | .dict replacement => do
    let targets ← sequenceValue (getOrNone "targets" replacement) "replacements.targets"
    .ok (targets.any (replacementTargetOwnsField kustomize selected protectedFieldPaths))
  | _ => .ok true

def replacementsOwnField (value : Value) : Except OwnershipError Bool := do
  anyOwns (replacementOwnsField kustomize selected protectedFieldPaths)
    (← sequenceValue value "replacements")

def patchesOwnField (document : Entries) (field : String) : Except OwnershipError Bool := do
  anyOwns (patchEntryOwnsField kustomize directory contents selected protectedFieldPaths field)
    (← sequenceValue (getOrNone field document) field)

def strategicMergesOwnField (document : Entries) : Except OwnershipError Bool := do
  anyOwns (strategicMergeOwnsField kustomize directory contents selected protectedFieldPaths)
    (← stringSequence (getOrNone "patchesStrategicMerge" document) "patchesStrategicMerge")

def transformersOwnField (document : Entries) : Except OwnershipError Bool :=
  (sequenceValue (getOrNone "transformers" document) "transformers").map fun transformers =>
    !transformers.isEmpty

def kustomizationOwnsProtectedField (document : Entries) : Except OwnershipError Bool :=
  if protectedFieldPaths = [] then .ok false
  else
    orNext (transformersOwnField document) <|
    orNext (if "spec.replicas" ∈ protectedFieldPaths then
      replicasOwnField kustomize selected document
      else .ok false) <|
    orNext
      (anyOwns (patchesOwnField kustomize directory contents selected protectedFieldPaths document)
      ["patches", "patchesJson6902"]) <|
    orNext (strategicMergesOwnField kustomize directory contents selected
      protectedFieldPaths document) <|
    replacementsOwnField kustomize selected protectedFieldPaths (getOrNone "replacements" document)

end kustomization

section graph
variable (kustomize : Kustomize)

def kustomizationFiles : List String := ["kustomization.yaml", "kustomization.yml", "Kustomization"]

/-- `path.rsplit("/", 1)[-1]`. -/
def baseName (path : String) : String :=
  String.ofList (path.toList.reverse.takeWhile (· ≠ '/')).reverse

def parentPath (path : String) : String :=
  if '/' ∈ path.toList then String.ofList ((path.toList.reverse.dropWhile (· ≠ '/')).drop 1).reverse
  else "."

def isKustomizationFile (path : String) : Bool := baseName path ∈ kustomizationFiles

/-- The message of a parse error goes on with the text of the loader's exception. -/
def parseKustomizationDocument (content : ByteArray) (path : String) :
    Except OwnershipError Entries :=
  match String.fromUTF8? content with
  | none => .error (.manifestRenderValidation ("Kustomize source is not valid utf-8: " ++ path))
  | some text =>
    match kustomize.runtime.safeLoad text with
    | .error .yamlError =>
      .error (.manifestRenderValidation ("Kustomize source parse failed for " ++ path))
    | .error error => .error (.patch error)
    | .ok (.dict document) => .ok document
    | .ok _ => .error (.manifestRenderValidation ("Kustomize source must be an object: " ++ path))

/-- The files of a graph, in the order of their paths. -/
abbrev SourceContents := List (String × ByteArray)

def SourceContents.get (contents : SourceContents) (path : String) : Option ByteArray :=
  (contents.find? (·.1 = path)).map (·.2)

def SourceContents.kustomizationDirectories (contents : SourceContents) : List String :=
  (contents.filter fun file => isKustomizationFile file.1).map fun file => parentPath file.1

/-- The references of one field, without those to other kustomizations. -/
def addReferences (directories : List String) (directory field : String) :
    List String → List String → Except OwnershipError (List String)
  | [], paths => .ok paths
  | rawReference :: rest, paths =>
    match kustomize.localReference rawReference field directory with
    | .error message => .error (.manifestRenderValidation message)
    | .ok reference =>
      addReferences directories directory field rest
        (if reference ∈ directories ∨ reference ∈ paths then paths else paths ++ [reference])

def addFields (directories : List String) (directory : String) (document : Entries) :
    List String → List String → Except OwnershipError (List String)
  | [], paths => .ok paths
  | field :: fields, paths => do
    let references ← stringSequence (getOrNone field document) field
    addFields directories directory document fields
      (← addReferences kustomize directories directory field references paths)

def scanKustomizations (contents : SourceContents) (selected : ManifestIdentity)
    (protectedFieldPaths : List String) :
    SourceContents → List String → Except OwnershipError (List String × Bool)
  | [], paths => .ok (paths, false)
  | (path, content) :: rest, paths =>
    if isKustomizationFile path then do
      let document ← parseKustomizationDocument kustomize content path
      let paths ← addFields kustomize contents.kustomizationDirectories (parentPath path) document
        ["resources", "bases", "components"] paths
      if ← kustomizationOwnsProtectedField kustomize (parentPath path) contents.get selected
        protectedFieldPaths
          document then .ok (paths, true)
      else scanKustomizations contents selected protectedFieldPaths rest paths
    else scanKustomizations contents selected protectedFieldPaths rest paths

def kustomizeResourcePathsAndFieldOwnership (contents : SourceContents)
    (selected : ManifestIdentity) (protectedFieldPaths : List String) :
    Except OwnershipError (List String × Bool) :=
  scanKustomizations kustomize contents selected protectedFieldPaths contents []

end graph

end K8sOps.Gitops
