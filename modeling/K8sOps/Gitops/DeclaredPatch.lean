import K8sOps.Gitops.SourcePatch

/-! `materialize_declared_scalar_patch`: change the scalars that a repository contract
declares, in one document of a source that may have several. -/
namespace K8sOps.Gitops
open Python Text

structure ManifestIdentity where
  apiVersion : String
  kind : String
  namespace_ : Option String
  name : String
  deriving DecidableEq

def manifestIdentity (resource : Entries) : Option ManifestIdentity :=
  match Entries.lookup (.str "metadata") resource with
  | some (.dict metadata) =>
    match Entries.lookup (.str "apiVersion") resource, Entries.lookup (.str "kind") resource,
        Entries.lookup (.str "name") metadata with
    | some (.scalar (.str apiVersion)), some (.scalar (.str kind)), some (.scalar (.str name)) =>
      if notBlank apiVersion && notBlank kind && notBlank name then
        match Entries.lookup (.str "namespace") metadata with
        | none | some (.scalar .none) => some ⟨apiVersion, kind, none, name⟩
        | some (.scalar (.str namespace_)) => some ⟨apiVersion, kind, some namespace_, name⟩
        | some _ => none
      else none
    | _, _, _ => none
  | _ => none

/-- `isinstance(document, Mapping)` and its identity. -/
def documentIdentity : Value → Option ManifestIdentity
  | .dict resource => manifestIdentity resource
  | .scalar _ | .list _ => none

/-- The values of a replacement are scalars, as its type says. -/
structure DeclaredScalarPatch where
  sourceType : String
  sourcePath : String
  replacements : List ScalarFieldReplacement
  documentIdentity : Option ManifestIdentity
  typed : ∀ item ∈ replacements, scalarValue item.currentValue = true ∧
    scalarValue item.desiredValue = true

def declaredSourceTypes : List String := ["raw-yaml", "helm-values", "kustomize"]

def declaredSourceStaleValueMessage : String :=
  "declared source scalar does not match approved value"

/-- `_unsupported`. -/
def unsupported (reason : String) : PatchError :=
  patchError ("remediation source patch unsupported: " ++ reason)

/-- `except yaml.YAMLError` with a message. -/
def orYamlError (message : String) (action : Except PatchError α) : Except PatchError α :=
  match action with
  | .error .yamlError => .error (patchError message)
  | other => other

def declaredDocuments (runtime : Runtime) (source : String) :
    Except PatchError (List Node × List Value) := do
  if ← orYamlError "declared source is invalid" (runtime.scanHasAnchors source) then
    .error (patchError "declared source anchors and aliases are not patchable")
  else
    let nodes ← orYamlError "declared source is invalid" (runtime.composeAll source)
    let originals ← orYamlError "declared source is invalid" (runtime.safeLoadAll source)
    if nodes.length ≠ originals.length then
      .error (patchError "declared source document structure is invalid")
    else .ok (nodes, originals)

def identityMatches (identity : ManifestIdentity) (originals : List Value) : List Nat :=
  (List.range originals.length).filter fun index =>
    (originals[index]?.bind documentIdentity) = some identity

def documentIndex (identity : Option ManifestIdentity) (originals : List Value) :
    Except PatchError Nat :=
  match identity with
  | none =>
    if originals.length ≠ 1 then .error (patchError "declared source must contain one object")
    else .ok 0
  | some identity =>
    match identityMatches identity originals with
    | [index] => .ok index
    | _ => .error (patchError "declared source document is missing or ambiguous")

/-- The loop over the replacements. A scalar that already has its desired value is
left alone if that is allowed. -/
def selectDeclaredEdits (runtime : Runtime) (root : Node) (original : Value)
    (allowAlreadyApplied : Bool) :
    List ScalarFieldReplacement → Value → Except PatchError (List (Edit Char) × Value)
  | [], expected => .ok ([], expected)
  | item :: rest, expected => do
    let segments := fieldPathSegments item.fieldPath
    let current ← objectValueAt original segments
    if allowAlreadyApplied && current.sameScalar item.desiredValue then
      let expected ← setObjectValue item.desiredValue segments expected
      selectDeclaredEdits runtime root original allowAlreadyApplied rest expected
    else if current.sameScalar item.currentValue then
      match ← nodeValueAt root segments with
      | .scalar node => do
        let encoded ← encodedScalarValue runtime node item.desiredValue
        let expected ← setObjectValue item.desiredValue segments expected
        let (edits, expected) ←
          selectDeclaredEdits runtime root original allowAlreadyApplied rest expected
        .ok (⟨node.start, node.stop, encoded.toList⟩ :: edits, expected)
      | _ => .error (patchError "declared source target is not one scalar")
    else .error (patchError declaredSourceStaleValueMessage)

def materializeDeclaredScalarPatch (runtime : Runtime) (source : String)
    (patch : DeclaredScalarPatch) (allowAlreadyApplied : Bool) : Except PatchError String :=
  if patch.sourceType ∉ declaredSourceTypes then
    .error (unsupported "declared source adapter is unsupported")
  else if patch.replacements = [] then .error (unsupported "declared source has no replacement")
  else do
    let (nodes, originals) ← declaredDocuments runtime source
    let index ← documentIndex patch.documentIdentity originals
    match originals[index]?, nodes[index]? with
    | some (.dict original), some (.mapping root) => do
      let (edits, expected) ←
        selectDeclaredEdits runtime (.mapping root) (.dict original) allowAlreadyApplied
        patch.replacements (.dict original)
      if (edits.map Edit.span).Nodup then
        let patched := String.ofList (spliceAll source.toList edits)
        let documents ←
          orYamlError "declared patch produced invalid YAML" (runtime.safeLoadAll patched)
        if Value.sameItems documents (originals.set index expected) then .ok patched
        else .error (patchError "declared patch changed fields outside approved scalars")
      else .error (patchError "declared source targets overlap")
    | _, _ => .error (patchError "declared source must contain one object")

end K8sOps.Gitops
