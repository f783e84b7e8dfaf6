import K8sOps.Gitops.Diffing
import K8sOps.Gitops.SourcePatch

/-! The check that binds an operator-merged recovery pull request to the scalar
changes that were approved for it. -/
namespace K8sOps.Gitops
open Python

/-- `text`: `str(value or "").strip()`. -/
def textOf (codec : TextCodec) (value : Value) : String :=
  strip (if truthy value then codec.toText value else "")

def getText (codec : TextCodec) (key : String) (entries : Entries) : String :=
  textOf codec (getOrNone key entries)

/-- The parts of a rendered diff that the check reads. -/
structure Diff where
  resource : String
  «namespace» : String
  desiredManifest : Value
  hasChanges : Bool
  status : String
  changes : List Value

structure ApprovedChange where
  path : String
  current : Value
  desired : Value

def authorizationOf (payload : Entries) : Entries :=
  asMapping (getOrNone "authorization" (asMapping (getOrNone "lifecycle" payload)))

/-- One item of the stored contract; a duplicate or malformed item voids it. -/
def addApproved (codec : TextCodec) (approved : List ApprovedChange) (item : Value) :
    Option (List ApprovedChange) :=
  match item with
  | .dict entries =>
    let path := getText codec "field_path" entries
    let current := getOrNone "current_value" entries
    let desired := getOrNone "desired_value" entries
    if path = "" ∨ path ∈ approved.map (·.path) ∨ fieldPathSegments path = [] ∨
        !scalarValue current ∨ !scalarValue desired ∨ current.sameScalar desired then none
    else some (approved ++ [⟨path, current, desired⟩])
  | _ => none

def approvedChangeContract (codec : TextCodec) (payload : Entries) : Option (List ApprovedChange) :=
  match getOrNone "changes" (authorizationOf payload) with
  | .list items =>
    if 1 ≤ items.length ∧ items.length ≤ 4 then items.foldlM (addApproved codec) [] else none
  | _ => none

/-- The path lies strictly below its parent: `path.startswith(f"{parent}.")`. -/
def isBelow (parent path : String) : Bool := startsWith path (parent ++ ".")

def relativeSegments (parent path : String) : List FieldPathSegment :=
  fieldPathSegments (String.ofList (path.toList.drop (parent.toList.length + 1)))

def projectChange (parent : String) (projected : Value) (change : ApprovedChange) :
    Except PatchError Value :=
  if isBelow parent change.path then do
    let segments := relativeSegments parent change.path
    let mismatch := patchError "approved parent change does not match current value"
    if segments = [] then .error mismatch
    else
      let found ← objectValueAt projected segments
      if found.sameScalar change.current then setObjectValue change.desired segments projected
      else .error mismatch
  else .ok projected

def projectedParentValue (source : Value) (parent : String) (approved : List ApprovedChange) :
    Except PatchError Value :=
  if source.isDict then approved.foldlM (projectChange parent) source
  else .error (patchError "approved parent change is not an object")

/-- The projection compared with a value; a raised error counts as a mismatch. -/
def projectsTo (source : Value) (parent : String) (approved : List ApprovedChange)
    (result : Value) : Bool :=
  match projectedParentValue source parent approved with
  | .ok projected => projected.equal result
  | .error _ => false

/-- The change of exactly this path, when it is the only one at or below it. -/
def exactChange (path : String) : List ApprovedChange → Option ApprovedChange
  | [only] => if only.path = path then some only else none
  | _ => none

/-- The matched changes in the order in which Python iterates the set of paths. -/
def scopedChanges (codec : TextCodec) (matched : List ApprovedChange) : List ApprovedChange :=
  (codec.setOrder (matched.map (·.path))).filterMap fun path => matched.find? (·.path = path)

def matchedChanges (path : String) (approved : List ApprovedChange) : List ApprovedChange :=
  approved.filter fun change => change.path = path || isBelow path change.path

def approvedChangeMatchesDiff (codec : TextCodec) (change : Entries)
    (approved : List ApprovedChange) : Option (List String) :=
  let path := getText codec "field_path" change
  let classification := getText codec "classification" change
  let oldDesired := getOrNone "old_desired" change
  let before := getOrNone "before" change
  let after := getOrNone "after" change
  let matched := matchedChanges path approved
  let intended := classification = Classification.intendedChange.label
  let converged := classification = Classification.alreadyConverged.label
  if matched.isEmpty then if converged then some [] else none
  else if ¬ intended ∧ ¬ converged then none
  else
    let valid := match exactChange path matched with
      | some only =>
        oldDesired.sameScalar only.current && after.sameScalar only.desired &&
          before.sameScalar (if intended then only.current else only.desired)
      | none =>
        if intended then
          oldDesired.equal before && projectsTo before path (scopedChanges codec matched) after
        else projectsTo oldDesired path (scopedChanges codec matched) before && before.equal after
    if valid then some (matched.map (·.path)) else none

/-- Both sides of the first slash, if there is one. -/
def partitionSlash (text : String) : Option (String × String) :=
  match text.toList.dropWhile (· ≠ '/') with
  | [] => none
  | _ :: name => some (String.ofList (text.toList.takeWhile (· ≠ '/')), String.ofList name)

/-- The identity of the target in the contract, the diff and the manifest agree. -/
def targetMatches (codec : TextCodec) (payload : Entries) (diff : Diff) : Bool :=
  let target := asMapping (getOrNone "target" (authorizationOf payload))
  let «namespace» := getText codec "namespace" target
  let kind := getText codec "resource_kind" target
  let name := getText codec "resource_name" target
  let desired := asMapping diff.desiredManifest
  let metadata := asMapping (getOrNone "metadata" desired)
  let manifestNamespace := getText codec "namespace" metadata
  let resource := match partitionSlash (strip diff.resource) with
    | some (diffKind, diffName) =>
      codec.casefold diffKind == codec.casefold kind && diffName == name
    | none => false
  «namespace» ≠ "" && kind ≠ "" && name ≠ "" && diff.namespace == «namespace» && resource &&
    codec.casefold (getText codec "kind" desired) == codec.casefold kind &&
    getText codec "name" metadata == name &&
    (manifestNamespace == "" || manifestNamespace == «namespace»)

def manifestHolds (desired : Entries) (change : ApprovedChange) : Bool :=
  match objectValueAt (.dict desired) (fieldPathSegments change.path) with
  | .ok found => found.sameScalar change.desired
  | .error _ => false

/-- One reported change: the covered paths so far and the count of intended ones. -/
def coverChange (codec : TextCodec) (approved : List ApprovedChange) (state : List String × Nat)
    (raw : Value) : Option (List String × Nat) :=
  match raw with
  | .dict change =>
    match approvedChangeMatchesDiff codec change approved with
    | none => none
    | some matched =>
      let intended := !matched.isEmpty &&
        getText codec "classification" change == Classification.intendedChange.label
      some (state.1 ++ matched, if intended then state.2 + 1 else state.2)
  | _ => none

def isConverged (codec : TextCodec) : Value → Bool
  | .dict change => getText codec "classification" change == Classification.alreadyConverged.label
  | _ => false

def changesCovered (codec : TextCodec) (approved : List ApprovedChange)
    (changes : List Value) : Bool :=
  match changes.foldlM (coverChange codec approved) ([], 0) with
  | none => false
  | some (covered, intended) =>
    0 < intended && approved.all (fun change => covered.contains change.path) &&
      covered.all fun path => approved.any (·.path == path)

def recoveryDiffMatchesApprovedScope (codec : TextCodec) (payload : Entries) (diff : Diff) : Bool :=
  match approvedChangeContract codec payload with
  | none => false
  | some approved =>
    targetMatches codec payload diff &&
      approved.all (manifestHolds (asMapping diff.desiredManifest)) &&
      if diff.hasChanges then changesCovered codec approved diff.changes
      else (diff.status == "already_converged" || diff.status == "no_change") &&
        diff.changes.all (isConverged codec)

end K8sOps.Gitops
