import Mathlib.Algebra.Group.Nat.Defs
import K8sOps.Gitops.FieldPath
import K8sOps.Text.Splice

/-! `materialize_scalar_patch`: replace approved scalars of a manifest source
without serialising it again. The YAML library is a parameter: it returns values
and composed nodes, and each scalar node covers a span of the source that no
other scalar node overlaps. -/
namespace K8sOps.Gitops
open Python Text

def patchError (message : String) : PatchError := .manifestSourcePatch message

structure ScalarFieldReplacement where
  fieldPath : String
  currentValue : Value
  desiredValue : Value

structure ManifestScalarPatchPlan where
  actionType : String
  sourceType : String
  sourceManifestSha256 : String
  expectedBaseSha : String
  manifestPath : String
  replacements : List ScalarFieldReplacement
  rollbackReplacements : List ScalarFieldReplacement

def rawJson : String := "raw-json"

def rawYaml : String := "raw-yaml"

/-- `scalar_value`: dates and bytes are not scalars of a plan. -/
def scalarValue : Value → Bool
  | .scalar (.other _ _) | .list _ | .dict _ => false
  | .scalar _ => true

def hexDigit (c : Char) : Bool := c.isDigit || ('a' ≤ c && c ≤ 'f')

/-- `re.fullmatch(r"sha256:[0-9a-f]{64}", text)`. -/
def sha256Text (text : String) : Bool :=
  let digits := text.toList.drop 7
  text.toList.take 7 == "sha256:".toList && digits.length == 64 && digits.all hexDigit

/-- `re.fullmatch(r"[0-9a-f]{40,64}", text)`. -/
def commitText (text : String) : Bool :=
  40 ≤ text.toList.length && text.toList.length ≤ 64 && text.toList.all hexDigit

def pathComponents (text : List Char) : List (List Char) := text.splitOn '/'

def safeManifestPath (value : String) : Bool :=
  value ≠ "" && value.toList.head? ≠ some '/' && !value.toList.contains '\\' &&
    !(pathComponents value.toList).contains ['.', '.']

/-- The code points of the decimal digit zero; each starts a run of ten digits. -/
def decimalZeros : List Nat :=
  [0x30, 0x660, 0x6F0, 0x7C0, 0x966, 0x9E6, 0xA66, 0xAE6, 0xB66, 0xBE6, 0xC66, 0xCE6, 0xD66, 0xDE6,
    0xE50, 0xED0, 0xF20, 0x1040, 0x1090, 0x17E0, 0x1810, 0x1946, 0x19D0, 0x1A80, 0x1A90, 0x1B50,
    0x1BB0, 0x1C40, 0x1C50, 0xA620, 0xA8D0, 0xA900, 0xA9D0, 0xA9F0, 0xAA50, 0xABF0, 0xFF10, 0x104A0,
    0x10D30, 0x11066, 0x110F0, 0x11136, 0x111D0, 0x112F0, 0x11450, 0x114D0, 0x11650,
    0x116C0, 0x11730, 0x118E0, 0x11950, 0x11C50, 0x11D50, 0x11DA0, 0x11F50, 0x16A60, 0x16AC0,
    0x16B50, 0x1D7CE, 0x1D7D8, 0x1D7E2, 0x1D7EC, 0x1D7F6, 0x1E140, 0x1E2F0, 0x1E4F0,
    0x1E950, 0x1FBF0]

/-- The value of a character that `\d` matches. -/
def decimalDigit (c : Char) : Option Nat :=
  (decimalZeros.find? fun first => first ≤ c.toNat && c.toNat < first + 10).map (c.toNat - ·)

/-- The conversion limit of `int` for text, in digits. -/
def intMaxStrDigits : Nat := 4300

/-- `memory_quantity_bytes`. Text with too many digits makes `int` raise. -/
def memoryQuantityBytes : Value → Except PatchError (Option Nat)
  | .scalar (.str text) =>
    let characters := text.toList
    let factor := match characters.drop (characters.length - 2) with
      | ['K', 'i'] => some 1024
      | ['M', 'i'] => some (1024 ^ 2)
      | ['G', 'i'] => some (1024 ^ 3)
      | _ => none
    match factor, (characters.take (characters.length - 2)).mapM decimalDigit with
    | some factor, some (first :: rest) =>
      if intMaxStrDigits < rest.length + 1 then .error (.other "ValueError")
      else .ok (some ((first :: rest).foldl (fun total digit => total * 10 + digit) 0 * factor))
    | _, _ => .ok none
  | _ => .ok none

def memoryIncreasesWithinCap (current desired : Value) : Except PatchError Bool := do
  let current ← memoryQuantityBytes current
  let desired ← memoryQuantityBytes desired
  match current, desired with
  | some current, some desired => .ok (current < desired && desired ≤ 4 * 1024 ^ 3)
  | _, _ => .ok false

def endsWith (text suffix : String) : Bool := suffix.toList.isSuffixOf text.toList

def startsWith (text start : String) : Bool := start.toList.isPrefixOf text.toList

/-- `isinstance(value, str) and bool(value.strip())`. -/
def nonBlankText : Value → Bool
  | .scalar (.str text) => notBlank text
  | _ => false

/-- `type(value) is int`. -/
def exactInt : Value → Option Int
  | .scalar (.int value) => some value
  | _ => none

/-- Both values are integers with `1 <= current < desired <= bound`. -/
def increasesUpTo (bound : Int) (item : ScalarFieldReplacement) : Bool :=
  match exactInt item.currentValue, exactInt item.desiredValue with
  | some current, some desired => 1 ≤ current && current < desired && desired ≤ bound
  | _, _ => false

def actionAllowsReplacement (actionType : String) (item : ScalarFieldReplacement) :
    Except PatchError Bool :=
  let path := item.fieldPath
  let texts := nonBlankText item.currentValue && nonBlankText item.desiredValue
  if actionType = "image_rollback" ∨ actionType = "image_tag_fix" then
    .ok (endsWith path ".image" && texts)
  else if actionType = "replica_scale" then
    .ok (path == "spec.replicas" && increasesUpTo 10 item)
  else if actionType = "oom_memory" then
    if endsWith path ".resources.requests.memory" || endsWith path ".resources.limits.memory" then
      memoryIncreasesWithinCap item.currentValue item.desiredValue
    else .ok false
  else if actionType = "probe_fix" then
    if endsWith path ".timeoutSeconds" then .ok (increasesUpTo 30 item)
    else if endsWith path ".httpGet.port" then
      .ok (match exactInt item.desiredValue with
        | some port => 1 ≤ port && port ≤ 65535
        | none => false)
    else if endsWith path ".httpGet.path" then
      .ok (match item.desiredValue with
        | .scalar (.str text) => startsWith text "/"
        | _ => false)
    else .ok false
  else if actionType = "selector_fix" then
    .ok ((startsWith path "spec.selector.matchLabels." ||
      startsWith path "spec.template.metadata.labels.") && texts)
  else .ok false

def patchActions : List String :=
  ["oom_memory", "image_rollback", "image_tag_fix", "replica_scale", "probe_fix", "selector_fix"]

def incomplete : PatchError := patchError "structured scalar patch metadata is incomplete"

def notInverse : PatchError := patchError "structured scalar rollback is not an exact inverse"

/-- One item of the plan against the rollback stored for its path. -/
def validateReplacement (plan : ManifestScalarPatchPlan) (item : ScalarFieldReplacement) :
    Except PatchError Unit :=
  -- A dictionary keeps the last item of a path; paths are distinct by then.
  match plan.rollbackReplacements.find? (·.fieldPath == item.fieldPath) with
  | none => .error notInverse
  | some rollback => do
    if fieldPathSegments item.fieldPath = [] ∨ !scalarValue item.currentValue ∨
        !scalarValue item.desiredValue ∨ item.currentValue.sameScalar item.desiredValue ∨
        !rollback.currentValue.sameScalar item.desiredValue ∨
        !rollback.desiredValue.sameScalar item.currentValue then .error notInverse
    else if ← actionAllowsReplacement plan.actionType item then .ok ()
    else .error notInverse

def validateScalarPatchPlan (plan : ManifestScalarPatchPlan) : Except PatchError Unit :=
  if plan.actionType ∉ patchActions ∨ plan.sourceType ≠ rawYaml ∨
      !sha256Text plan.sourceManifestSha256 ∨ !commitText plan.expectedBaseSha ∨
      !safeManifestPath plan.manifestPath ∨ plan.replacements = [] ∨ 4 < plan.replacements.length ∨
      plan.rollbackReplacements.length ≠ plan.replacements.length then .error incomplete
  else if ¬ (plan.replacements.map (·.fieldPath)).Nodup then
    .error (patchError "structured scalar patch target is duplicated")
  else if ¬ (plan.rollbackReplacements.map (·.fieldPath)).Nodup then .error notInverse
  else plan.replacements.forM (validateReplacement plan)

structure ScalarNode where
  start : Nat
  stop : Nat
  style : Option Char
  value : String
  deriving DecidableEq

inductive Node where
  | scalar (node : ScalarNode)
  | mapping (entries : List (Node × Node))
  | sequence (items : List Node)

namespace Node

mutual
/-- Every scalar node of a composed document, keys included, in document order. -/
def scalars : Node → List ScalarNode
  | .scalar node => [node]
  | .mapping entries => entriesScalars entries
  | .sequence items => itemsScalars items
  termination_by structural node => node

def itemsScalars : List Node → List ScalarNode
  | [] => []
  | item :: items => scalars item ++ itemsScalars items
  termination_by structural items => items

def entriesScalars : List (Node × Node) → List ScalarNode
  | [] => []
  | entry :: entries => entryScalars entry ++ entriesScalars entries
  termination_by structural entries => entries

def entryScalars : Node × Node → List ScalarNode
  | (key, value) => scalars key ++ scalars value
  termination_by structural entry => entry
end

end Node

def ScalarNode.disjoint (one two : ScalarNode) : Prop :=
  one.stop ≤ two.start ∨ two.stop ≤ one.start

/-- The libraries around a patch: PyYAML, `json.loads`, the float text of
`json.dumps` and the digest of a manifest. Only the spans of composed scalar
nodes are constrained. -/
structure Runtime where
  safeLoadAll : String → Except PatchError (List Value)
  safeLoad : String → Except PatchError Value
  scanHasAnchors : String → Except PatchError Bool
  composeAll : String → Except PatchError (List Node)
  jsonLoads : String → Except PatchError Value
  floatText : Rat → String
  canonicalManifestDigest : Value → Except PatchError String
  spans_inside : composeAll source = .ok nodes → ∀ node ∈ nodes, ∀ leaf ∈ node.scalars,
    leaf.start ≤ leaf.stop ∧ leaf.stop ≤ source.toList.length
  spans_disjoint : composeAll source = .ok nodes → ∀ node ∈ nodes,
    node.scalars.Pairwise ScalarNode.disjoint

/-- `except yaml.YAMLError` and `except json.JSONDecodeError` with one message. -/
def orInvalid (action : Except PatchError α) : Except PatchError α :=
  match action with
  | .error .yamlError | .error (.other "JSONDecodeError") =>
    .error (patchError "manifest source is invalid")
  | other => other

/-- The one document of a source, whatever its shape. -/
def loadSingleDocument (runtime : Runtime) (source sourceType : String) : Except PatchError Value :=
  if sourceType = rawJson then orInvalid (runtime.jsonLoads source)
  else if sourceType = rawYaml then
    match orInvalid (runtime.safeLoadAll source) with
    | .ok [value] => .ok value
    | .ok _ => .error (patchError "manifest source must contain one document")
    | .error error => .error error
  else .error (patchError "unsupported manifest source type")

def parseSingleManifest (runtime : Runtime) (source sourceType : String) :
    Except PatchError Value := do
  let value ← loadSingleDocument runtime source sourceType
  if value.isDict then .ok value else .error (patchError "manifest source must be one object")

def mappingValue (key : String) (entries : List (Node × Node)) : Option Node :=
  (entries.find? fun entry =>
    match entry.1 with
    | .scalar node => node.value == key
    | _ => false).map (·.2)

/-- The node is a mapping whose `name` is this scalar. -/
def nodeHasName (name : String) : Node → Bool
  | .mapping entries =>
    match mappingValue "name" entries with
    | some (.scalar node) => node.value == name
    | _ => false
  | _ => false

def nodeValueAt : Node → List FieldPathSegment → Except PatchError Node
  | current, [] => .ok current
  | .mapping entries, segment :: rest =>
    match mappingValue segment.key entries, segment.selectedName with
    | none, _ => .error missing
    | some child, none => nodeValueAt child rest
    | some (.sequence items), some name =>
      match items.filter (nodeHasName name) with
      | [item] => nodeValueAt item rest
      | _ => .error notUnique
    | some _, some _ => .error missing
  | _, _ :: _ => .error missing

def hexCharacter (digit : Nat) : Char := ("0123456789abcdef".toList.getD digit '0')

/-- The escape of one character by `json.dumps(..., ensure_ascii=False)`. -/
def jsonEscape (c : Char) : List Char :=
  if c = '"' then ['\\', '"']
  else if c = '\\' then ['\\', '\\']
  else if c = '\n' then ['\\', 'n']
  else if c = '\r' then ['\\', 'r']
  else if c = '\t' then ['\\', 't']
  else if c.toNat = 12 then ['\\', 'f']
  else if c.toNat = 8 then ['\\', 'b']
  else if c.toNat < 32 then
    ['\\', 'u', '0', '0', hexCharacter (c.toNat / 16), hexCharacter (c.toNat % 16)]
  else [c]

def jsonText (text : String) : String :=
  String.ofList (['"'] ++ text.toList.flatMap jsonEscape ++ ['"'])

/-- `json.dumps(value, ensure_ascii=False, allow_nan=False)` of a scalar. -/
def jsonScalar (runtime : Runtime) : Scalar → Except PatchError String
  | .none => .ok "null"
  | .bool value => .ok (if value then "true" else "false")
  | .int value =>
    if intMaxStrDigits < (toString value.natAbs).toList.length then .error (.other "ValueError")
    else .ok (toString value)
  | .float (.finite value) => .ok (runtime.floatText value)
  | .float .negativeZero => .ok "-0.0"
  | .float (.infinity _) | .float (.nan _) => .error (.other "ValueError")
  | .str text => .ok (jsonText text)
  | .other _ _ => .error .typeError

/-- Plain text stays plain only if it loads back as the same text. -/
def encodedPlainText (runtime : Runtime) (text : String) : Except PatchError String :=
  match runtime.safeLoad text with
  | .ok loaded => .ok (if loaded.equal (.scalar (.str text)) then text else jsonText text)
  | .error .yamlError => .ok (jsonText text)
  | .error error => .error error

def encodedScalarValue (runtime : Runtime) (node : ScalarNode) : Value → Except PatchError String
  | .scalar (.str text) =>
    if node.style = some '\'' then
      .ok (String.ofList (['\''] ++
        text.toList.flatMap (fun c => if c = '\'' then ['\'', '\''] else [c]) ++ ['\'']))
    else if node.style = none ∧ '\n' ∉ text.toList then encodedPlainText runtime text
    else .ok (jsonText text)
  | .scalar value =>
    if node.style ≠ none then .error (patchError "manifest scalar style is not patchable")
    else jsonScalar runtime value
  | .list _ | .dict _ => .error .typeError

/-- The loop over the replacements: the spans with their new text, and the
document the patched source must parse to. -/
def selectEdits (runtime : Runtime) (root : Node) (original : Value) :
    List ScalarFieldReplacement → Value → Except PatchError (List (Edit Char) × Value)
  | [], expected => .ok ([], expected)
  | item :: rest, expected => do
    let segments := fieldPathSegments item.fieldPath
    let current ← objectValueAt original segments
    if current.sameScalar item.currentValue then
      match ← nodeValueAt root segments with
      | .scalar node => do
        let encoded ← encodedScalarValue runtime node item.desiredValue
        let expected ← setObjectValue item.desiredValue segments expected
        let (edits, expected) ← selectEdits runtime root original rest expected
        .ok (⟨node.start, node.stop, encoded.toList⟩ :: edits, expected)
      | _ => .error notUnique
    else .error (patchError "manifest scalar does not match approved artifact")

def manifestKind (manifest : Value) : Option Value := Value.getStep (.key "kind") manifest

def isDeployment (manifest : Value) : Bool :=
  match manifestKind manifest with
  | some kind => kind.equal (.scalar (.str "Deployment"))
  | none => false

def materializeScalarReplacements (runtime : Runtime)
    (source sourceType expectedSourceSha256 : String) (replacements : List ScalarFieldReplacement) :
    Except PatchError String := do
  let original ← parseSingleManifest runtime source sourceType
  if !isDeployment original then .error (patchError "manifest source must be a Deployment")
  else if (← runtime.canonicalManifestDigest original) ≠ expectedSourceSha256 then
    .error (patchError "manifest source digest does not match approved artifact")
  else if ← orInvalid (runtime.scanHasAnchors source) then
    .error (patchError "manifest anchors and aliases are not patchable")
  else
    match ← orInvalid (runtime.composeAll source) with
    | [.mapping entries] => do
      let (edits, expected) ← selectEdits runtime (.mapping entries) original replacements original
      if (edits.map Edit.span).Nodup then
        -- The spans are distinct, so the sort never compares the replacement texts.
        let patched := String.ofList (spliceAll source.toList edits)
        let parsed ← parseSingleManifest runtime patched sourceType
        if parsed.equal expected then .ok patched
        else .error (patchError "manifest patch changed fields outside approved scalars")
      else .error (patchError "manifest scalar target overlaps")
    | _ => .error (patchError "manifest source must contain one object")

def materializeScalarPatch (runtime : Runtime) (source : String) (plan : ManifestScalarPatchPlan) :
    Except PatchError String := do
  validateScalarPatchPlan plan
  materializeScalarReplacements runtime source plan.sourceType plan.sourceManifestSha256
    plan.replacements

def materializeScalarRollback (runtime : Runtime) (source : String) (plan : ManifestScalarPatchPlan)
    (expectedSourceSha256 : String) : Except PatchError String := do
  validateScalarPatchPlan plan
  if !sha256Text expectedSourceSha256 then .error (patchError "rollback source digest is invalid")
  else
    materializeScalarReplacements runtime source plan.sourceType expectedSourceSha256
      plan.rollbackReplacements

end K8sOps.Gitops
