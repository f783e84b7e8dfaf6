import K8sOps.Python.Convert
import K8sOps.Python.Path
import Mathlib.Data.List.Dedup
import Mathlib.Data.List.Sort
import Mathlib.Data.String.Basic

/-! The three-way comparison of managed fields: what Git declared before, what
the cluster reports and what Git declares now. -/
namespace K8sOps.Gitops
open Python

/-- How the program turns values into text. Text itself is unchanged by `str`;
other values, case folding and the iteration order of a set are left open. -/
structure TextCodec where
  str : Value → String
  casefold : String → String
  lower : String → String
  setOrder : List String → List String
  setOrder_perm : ∀ items, (setOrder items).Perm items

def TextCodec.plain : TextCodec := ⟨fun _ => "", id, id, id, fun _ => List.Perm.refl _⟩

def TextCodec.toText (codec : TextCodec) : Value → String
  | .scalar (.str text) => text
  | value => codec.str value

/-- Field paths with their values, as a dictionary: each path once. Extracted
paths have no surrounding whitespace. -/
structure ManagedFields where
  fields : List (String × Value)
  distinct : (fields.map Prod.fst).Nodup
  trimmed : ∀ entry ∈ fields, strip entry.1 = entry.1

def missingMarker : Value := .scalar (.str "<missing>")

def valueOrMissing (values : Option ManagedFields) (path : String) : Value :=
  ((values.bind fun values => values.fields.lookup path)).getD missingMarker

inductive Classification where
  | noChange
  | alreadyConverged
  | adoptionRequired
  | intendedChange
  | drift
  | conflictOrManualChange
  deriving DecidableEq, Repr

def Classification.label : Classification → String
  | .noChange => "no_change"
  | .alreadyConverged => "already_converged"
  | .adoptionRequired => "adoption_required"
  | .intendedChange => "intended_change"
  | .drift => "drift"
  | .conflictOrManualChange => "conflict_or_manual_change"

mutual
/-- `_declared_value_matches_live`: keys the cluster added are ignored, list
membership is exact. -/
def declaredValueMatchesLive : Value → Value → Bool
  | .scalar declared, live => (Value.scalar declared).equal live
  | .list declared, .list live => declaredItemsMatchLive declared live
  | .dict declared, .dict live => declaredEntriesMatchLive declared live
  | _, _ => false
  termination_by structural declared => declared

def declaredItemsMatchLive : List Value → List Value → Bool
  | [], [] => true
  | item :: items, live :: lives =>
    declaredValueMatchesLive item live && declaredItemsMatchLive items lives
  | _, _ => false
  termination_by structural declared => declared

def declaredEntriesMatchLive : List (Scalar × Value) → Entries → Bool
  | [], _ => true
  | entry :: entries, live =>
    declaredEntryMatchesLive entry live && declaredEntriesMatchLive entries live
  termination_by structural declared => declared

def declaredEntryMatchesLive : Scalar × Value → Entries → Bool
  | (key, value), live =>
    match Entries.lookup key live with
    | some found => declaredValueMatchesLive value found
    | none => false
  termination_by structural declared => declared
end

def classifyFieldChange (oldDesired live newDesired : Value) : Classification :=
  let newMatches := declaredValueMatchesLive newDesired live
  let oldMatches := declaredValueMatchesLive oldDesired live
  let unchanged := oldDesired.equal newDesired
  if oldDesired.equal missingMarker then
    if newMatches then .alreadyConverged else .adoptionRequired
  else if oldMatches && newMatches && unchanged then .noChange
  else if newMatches then .alreadyConverged
  else if oldMatches then .intendedChange
  else if unchanged then .drift
  else .conflictOrManualChange

/-- One reported change; `before` and `after` repeat the live and the new value. -/
structure FieldChange where
  fieldPath : String
  classification : Classification
  oldDesired : Value
  live : Value
  newDesired : Value

/-- The change as the dictionary that is stored in the diff. -/
def FieldChange.toEntries (change : FieldChange) : Entries :=
  [(.str "field_path", .scalar (.str change.fieldPath)),
    (.str "classification", .scalar (.str change.classification.label)),
    (.str "old_desired", change.oldDesired), (.str "live", change.live),
    (.str "new_desired", change.newDesired), (.str "before", change.live),
    (.str "after", change.newDesired)]

/-- `sorted(set(old_desired or {}) | set(live) | set(new_desired))`. -/
def managedPaths (oldDesired : Option ManagedFields)
    (live newDesired : ManagedFields) : List String :=
  let paths (values : ManagedFields) := values.fields.map Prod.fst
  ((oldDesired.elim [] paths ++ paths live ++ paths newDesired).dedup).insertionSort (· ≤ ·)

def fieldChange (oldDesired : Option ManagedFields) (live newDesired : ManagedFields)
    (path : String) : FieldChange :=
  let old := valueOrMissing oldDesired path
  let current := valueOrMissing live path
  let new := valueOrMissing newDesired path
  ⟨path, classifyFieldChange old current new, old, current, new⟩

/-- `apply_field_policy`: keep the managed paths that are not ignored. -/
def applyFieldPolicy (managed : Option (List String)) (ignored : List String)
    (values : ManagedFields) : ManagedFields where
  fields := values.fields.filter fun entry =>
    (managed.elim true (·.contains entry.1)) && !ignored.contains entry.1
  distinct := values.distinct.sublist (List.filter_sublist.map Prod.fst)
  trimmed entry member := values.trimmed entry (List.mem_of_mem_filter member)

def compareManagedFields (oldDesired : Option ManagedFields) (live newDesired : ManagedFields)
    (managed : Option (List String)) (ignored : List String) : List FieldChange :=
  let old := oldDesired.map (applyFieldPolicy managed ignored)
  let current := applyFieldPolicy managed ignored live
  let new := applyFieldPolicy managed ignored newDesired
  ((managedPaths old current new).map (fieldChange old current new)).filter
    (·.classification ≠ .noChange)

def summarizeStatus (changes : List FieldChange) : String :=
  let classes := changes.map (·.classification)
  if .conflictOrManualChange ∈ classes then "review_required"
  else if .adoptionRequired ∈ classes then "adoption_required"
  else if .intendedChange ∈ classes then "intended_change"
  else if .drift ∈ classes then "drift"
  else if .alreadyConverged ∈ classes then "already_converged"
  else "no_change"

def ManagedFields.empty : ManagedFields := ⟨[], List.nodup_nil, by simp⟩

def ManagedFields.assign (path : String) (value : Value) (trimmed : strip path = path)
    (values : ManagedFields) : ManagedFields where
  fields := Dict.assign path value values.fields
  distinct := Dict.assign_nodup values.distinct
  trimmed entry member := by
    obtain same | member := Dict.mem_assign.mp (List.mem_map_of_mem member)
    · rw [same, trimmed]
    · obtain ⟨stored, among, same⟩ := List.mem_map.mp member
      rw [← same]
      exact values.trimmed stored among

end K8sOps.Gitops
