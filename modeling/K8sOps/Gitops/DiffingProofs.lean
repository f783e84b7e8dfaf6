import K8sOps.Gitops.Diffing
import K8sOps.Python.Equality

/-! The verdict of the managed comparison. Satisfaction of a declared value is a preorder on JSON
values, and the summary is clean exactly when the cluster satisfies Git on every compared path. -/
namespace K8sOps.Gitops
open Python

section json

def plainScalar : Scalar → Bool
  | .none | .bool _ | .int _ | .str _ | .float (.finite _) | .float .negativeZero => true
  | .float (.infinity _) | .float (.nan _) | .other _ _ => false

/-- The values of a JSON document: objects have text keys, each of them once. -/
inductive Json : Value → Prop
  | scalar (plain : plainScalar value = true) : Json (.scalar value)
  | list (inner : ∀ item ∈ items, Json item) : Json (.list items)
  | dict (distinct : Entries.Distinct entries) (keys : ∀ entry ∈ entries, ∃ key, entry.1 = .str key)
      (inner : ∀ entry ∈ entries, Json entry.2) : Json (.dict entries)

theorem Json.wellFormed (json : Json value) : Value.WellFormed value := by
  induction json with
  | scalar => exact .scalar
  | list _ ih => exact .list ih
  | dict distinct _ _ ih => exact .dict distinct ih

theorem plainScalar_equal (plain : plainScalar value = true) : value.equal value = true := by
  have number : value.isNan = false := by
    cases value with
    | float number => cases number <;> first | rfl | cases plain
    | _ => rfl
  rw [Scalar.equal, number]
  exact Scalar.same_iff.mpr rfl

theorem Json.equal_self (json : Json value) : value.equal value = true := by
  cases json with
  | scalar plain => exact plainScalar_equal plain
  | list inner => exact Value.same_refl (Json.list inner).wellFormed
  | dict distinct keys inner => exact Value.same_refl (Json.dict distinct keys inner).wellFormed

end json

section satisfaction

theorem declaredItemsMatchLive_iff {declared live : List Value} :
    declaredItemsMatchLive declared live = true ↔
    List.Forall₂ (fun item found => declaredValueMatchesLive item found = true) declared live := by
  induction declared generalizing live with
  | nil => cases live <;> simp [declaredItemsMatchLive]
  | cons item declared ih => cases live <;> simp [declaredItemsMatchLive, ih]

theorem declaredEntryMatchesLive_iff {live : Entries} :
    declaredEntryMatchesLive (key, value) live = true ↔
    ∃ found, live.lookup key = some found ∧ declaredValueMatchesLive value found = true := by
  rw [declaredEntryMatchesLive]
  cases Entries.lookup key live <;> simp

theorem declaredEntriesMatchLive_iff {declared live : Entries} :
    declaredEntriesMatchLive declared live = true ↔
    ∀ entry ∈ declared, ∃ found, live.lookup entry.1 = some found ∧
      declaredValueMatchesLive entry.2 found = true := by
  induction declared with
  | nil => simp [declaredEntriesMatchLive]
  | cons entry declared ih =>
    rw [declaredEntriesMatchLive, Bool.and_eq_true, ih, List.forall_mem_cons]
    exact and_congr_left fun _ => declaredEntryMatchesLive_iff

theorem declaredValueMatchesLive_refl (json : Json value) :
    declaredValueMatchesLive value value = true := by
  induction json with
  | scalar plain => exact plainScalar_equal plain
  | list _ ih =>
    rw [declaredValueMatchesLive, declaredItemsMatchLive_iff]
    exact List.forall₂_same.mpr ih
  | dict distinct _ _ ih =>
    rw [declaredValueMatchesLive, declaredEntriesMatchLive_iff]
    intro entry member
    exact ⟨entry.2, distinct.lookup_of_mem member, ih entry member⟩

theorem equal_trans {one two three : Scalar} (first : one.equal two = true)
    (second : two.equal three = true) :
    one.equal three = true := by
  simp only [Scalar.equal, Bool.and_eq_true, Scalar.same_iff] at first second ⊢
  exact ⟨first.1, first.2.trans second.2⟩

/-- What satisfies a value satisfies whatever that value satisfies. -/
theorem declaredValueMatchesLive_trans {declared middle live : Value} (json : Json declared)
    (first : declaredValueMatchesLive declared middle = true)
    (second : declaredValueMatchesLive middle live = true) :
    declaredValueMatchesLive declared live = true := by
  induction json generalizing middle live with
  | scalar =>
    cases middle with
    | scalar middle =>
      cases live with
      | scalar live => exact equal_trans first second
      | list | dict => cases second
    | list | dict => cases first
  | @list items _ ih =>
    cases middle with
    | list middle =>
      cases live with
      | list live =>
        rw [declaredValueMatchesLive, declaredItemsMatchLive_iff] at first second ⊢
        exact Value.forall₂_trans_of_mem ih first second
      | scalar | dict => cases second
    | scalar | dict => cases first
  | dict _ _ _ ih =>
    cases middle with
    | dict middle =>
      cases live with
      | dict live =>
        rw [declaredValueMatchesLive, declaredEntriesMatchLive_iff] at first second ⊢
        intro entry member
        obtain ⟨between, found, matched⟩ := first entry member
        -- The key that is stored between may be another object that is equal.
        obtain ⟨stored, among, same⟩ := Entries.mem_of_lookup found
        obtain ⟨last, seen, next⟩ := second (stored, between) among
        exact ⟨last, Entries.lookup_congr live same ▸ seen, ih entry member matched next⟩
      | scalar | list => cases second
    | scalar | list => cases first

end satisfaction

section lookups

def ManagedFields.paths (values : ManagedFields) : List String := values.fields.map Prod.fst

def ManagedFields.get (values : ManagedFields) (path : String) : Option Value :=
  values.fields.lookup path

/-- No value is the marker of an absent one. -/
def ManagedFields.Unmarked (values : ManagedFields) :
    Prop := ∀ entry ∈ values.fields, entry.2 ≠ missingMarker

/-- `path` passes the policy. -/
def Managed (managed : Option (List String)) (ignored : List String) (path : String) : Prop :=
  (∀ paths, managed = some paths → path ∈ paths) ∧ path ∉ ignored

variable {managed : Option (List String)} {ignored : List String}

theorem managed_iff : ((managed.elim true (·.contains path)) && !ignored.contains path) = true ↔
    Managed managed ignored path := by
  cases managed <;> simp [Managed]

theorem get_applyFieldPolicy (values : ManagedFields) (kept : Managed managed ignored path) :
    (applyFieldPolicy managed ignored values).get path = values.get path := by
  have filtered :=
    Dict.lookup_filter (fun key => managed.elim true (·.contains key) && !ignored.contains key)
    values.fields path
  rw [if_pos (managed_iff.mpr kept)] at filtered
  exact filtered

theorem mem_paths_applyFieldPolicy {values : ManagedFields} :
    path ∈ (applyFieldPolicy managed ignored values).paths ↔
    path ∈ values.paths ∧ Managed managed ignored path := by
  simp only [ManagedFields.paths, applyFieldPolicy, List.mem_map, List.mem_filter, managed_iff]
  constructor
  · rintro ⟨entry, ⟨member, kept⟩, rfl⟩
    exact ⟨⟨entry, member, rfl⟩, kept⟩
  · rintro ⟨⟨entry, member, rfl⟩, kept⟩
    exact ⟨entry, ⟨member, kept⟩, rfl⟩

end lookups

section verdict

/-- The live value of a path satisfies the new one. What is absent is satisfied by what is
absent. -/
def Satisfied : Option Value → Option Value → Prop
  | some new, some live => declaredValueMatchesLive new live = true
  | none, none => True
  | _, _ => False

theorem ManagedFields.Unmarked.get {values : ManagedFields} (unmarked : values.Unmarked)
    (found : values.get path = some value) :
    value ≠ missingMarker := by
  obtain ⟨front, back, fields, _⟩ := List.lookup_eq_some_iff.mp found
  exact unmarked (path, value) (fields ▸ List.mem_append_right _ List.mem_cons_self)

theorem matches_marker {value : Value} :
    declaredValueMatchesLive missingMarker value = true ↔ value = missingMarker := by
  rw [missingMarker, declaredValueMatchesLive]
  cases value with
  | scalar value =>
    rw [Value.equal, Scalar.equal, Bool.and_eq_true, Scalar.same_iff]
    constructor
    · rintro ⟨_, same⟩
      rw [Scalar.canonical_str.mp same.symm]
    · rintro ⟨⟩
      exact ⟨rfl, rfl⟩
  | list | dict => simp [Value.equal, Value.same]

theorem marker_matches {value : Value}
    (matched : declaredValueMatchesLive value missingMarker = true) :
    value = missingMarker := by
  cases value with
  | scalar value =>
    rw [missingMarker, declaredValueMatchesLive, Value.equal, Scalar.equal, Bool.and_eq_true,
      Scalar.same_iff] at matched
    rw [Scalar.canonical_str.mp matched.2, missingMarker]
  | list | dict => cases matched

theorem matches_iff_satisfied {live new : ManagedFields} (liveUnmarked : live.Unmarked)
    (newUnmarked : new.Unmarked) :
    declaredValueMatchesLive (valueOrMissing (some new) path) (valueOrMissing (some live) path) =
      true ↔
      Satisfied (new.get path) (live.get path) := by
  change declaredValueMatchesLive ((new.get path).getD missingMarker)
    ((live.get path).getD missingMarker) = true ↔ _
  cases isNew : new.get path with
  | none =>
    cases isLive : live.get path with
    | none => exact iff_of_true (matches_marker.mpr rfl) trivial
    | some found =>
      exact iff_of_false (fun matched => liveUnmarked.get isLive (matches_marker.mp matched)) id
  | some value =>
    cases isLive : live.get path with
    | none => exact iff_of_false (fun matched => newUnmarked.get isNew (marker_matches matched)) id
    | some found => exact Iff.rfl

def Classification.clean (classification : Classification) : Prop :=
  classification = .noChange ∨ classification = .alreadyConverged

theorem classify_clean_iff :
    (classifyFieldChange old live new).clean ↔ declaredValueMatchesLive new live = true := by
  rw [Classification.clean, classifyFieldChange]
  cases declaredValueMatchesLive new live
  · cases declaredValueMatchesLive old live <;> cases old.equal new <;>
      cases old.equal missingMarker <;> decide
  · cases declaredValueMatchesLive old live <;> cases old.equal new <;>
      cases old.equal missingMarker <;> decide

theorem summarizeStatus_clean_iff {changes : List FieldChange} :
    summarizeStatus changes ∈ ["no_change", "already_converged"] ↔
    ∀ change ∈ changes, change.classification.clean := by
  have pending : summarizeStatus changes ∈ ["no_change", "already_converged"] ↔
      ∀ pending ∈ [.conflictOrManualChange, .adoptionRequired, .intendedChange, .drift],
        pending ∉ changes.map (·.classification) := by
    rw [summarizeStatus]
    split_ifs <;> simp_all
  rw [pending]
  constructor
  · intro none change member
    have among := List.mem_map_of_mem (f := (·.classification)) member
    cases is : change.classification with
    | noChange => exact .inl rfl
    | alreadyConverged => exact .inr rfl
    | adoptionRequired | intendedChange | drift | conflictOrManualChange =>
      exact absurd (is ▸ among) (none _ (by decide))
  · intro clean classification pending among
    obtain ⟨change, member, rfl⟩ := List.mem_map.mp among
    rcases clean change member with is | is <;> rw [is] at pending <;>
      exact absurd pending (by decide)

theorem mem_managedPaths {old : Option ManagedFields} {live new : ManagedFields} :
    path ∈ managedPaths old live new ↔
    (∃ values, old = some values ∧ path ∈ values.paths) ∨ path ∈ live.paths ∨ path ∈ new.paths := by
  rw [managedPaths, List.mem_insertionSort, List.mem_dedup, List.mem_append,
    List.mem_append, or_assoc]
  refine or_congr_left ?_
  cases old with
  | none => simp
  | some values => simp [ManagedFields.paths]

/-- A path of one of the maps that the policy keeps. -/
def Compared (old : Option ManagedFields) (live new : ManagedFields)
    (managed : Option (List String)) (ignored : List String) (path : String) : Prop :=
  Managed managed ignored path ∧
    ((∃ values, old = some values ∧ path ∈ values.paths) ∨ path ∈ live.paths ∨ path ∈ new.paths)

theorem mem_managedPaths_policy {old : Option ManagedFields} {live new : ManagedFields} :
    path ∈ managedPaths (old.map (applyFieldPolicy managed ignored))
      (applyFieldPolicy managed ignored live)
      (applyFieldPolicy managed ignored new) ↔ Compared old live new managed ignored path := by
  rw [mem_managedPaths, mem_paths_applyFieldPolicy, mem_paths_applyFieldPolicy, Compared]
  cases old with
  | none => simp; tauto
  | some values =>
    simp only [Option.map_some, Option.some.injEq, exists_eq_left', mem_paths_applyFieldPolicy]
    tauto

/-- The changes that are left out are clean. -/
theorem compareManagedFields_clean_iff {old : Option ManagedFields} {live new : ManagedFields} :
    (∀ change ∈ compareManagedFields old live new managed ignored, change.classification.clean) ↔
      ∀ path, Compared old live new managed ignored path →
        (fieldChange (old.map (applyFieldPolicy managed ignored))
          (applyFieldPolicy managed ignored live)
          (applyFieldPolicy managed ignored new) path).classification.clean := by
  rw [compareManagedFields]
  constructor
  · intro clean path compared
    by_cases same :
      (fieldChange (old.map (applyFieldPolicy managed ignored))
        (applyFieldPolicy managed ignored live)
        (applyFieldPolicy managed ignored new) path).classification = .noChange
    · exact .inl same
    · refine clean _ (List.mem_filter.mpr
        ⟨List.mem_map_of_mem (mem_managedPaths_policy.mpr compared), ?_⟩)
      simpa using same
  · intro clean change member
    obtain ⟨path, among, rfl⟩ := List.mem_map.mp (List.mem_filter.mp member).1
    exact clean path (mem_managedPaths_policy.mp among)

theorem ManagedFields.Unmarked.policy {values : ManagedFields} (unmarked : values.Unmarked) :
    (applyFieldPolicy managed ignored values).Unmarked := by
  intro entry member
  exact unmarked entry (List.mem_of_mem_filter member)

theorem summarizeStatus_satisfied_iff (old : Option ManagedFields) {live new : ManagedFields}
    (managed : Option (List String)) (ignored : List String) (liveUnmarked : live.Unmarked)
    (newUnmarked : new.Unmarked) :
    summarizeStatus (compareManagedFields old live new managed ignored) ∈
      ["no_change", "already_converged"] ↔
      ∀ path, Compared old live new managed ignored path →
        Satisfied (new.get path) (live.get path) := by
  rw [summarizeStatus_clean_iff, compareManagedFields_clean_iff]
  refine forall₂_congr fun path compared => ?_
  rw [fieldChange, classify_clean_iff, matches_iff_satisfied liveUnmarked.policy newUnmarked.policy,
    get_applyFieldPolicy new compared.1, get_applyFieldPolicy live compared.1]

theorem equal_marker {value : Value} (equal : value.equal missingMarker = true) :
    value = missingMarker := by
  cases value with
  | scalar => exact marker_matches equal
  | list | dict => cases equal

theorem classify_unchanged_iff (json : Json new) (unmarked : new ≠ missingMarker) :
    classifyFieldChange new live new = .noChange ↔ declaredValueMatchesLive new live = true := by
  have present : new.equal missingMarker = false := by
    by_contra marked
    exact unmarked (equal_marker (by simpa using marked))
  rw [classifyFieldChange, json.equal_self, present]
  cases declaredValueMatchesLive new live <;> simp

theorem compareManagedFields_eq_nil_iff {old : Option ManagedFields} {live new : ManagedFields} :
    compareManagedFields old live new managed ignored = [] ↔
    ∀ path, Compared old live new managed ignored path →
      (fieldChange (old.map (applyFieldPolicy managed ignored))
        (applyFieldPolicy managed ignored live)
        (applyFieldPolicy managed ignored new) path).classification = .noChange := by
  rw [compareManagedFields, List.filter_eq_nil_iff, List.forall_mem_map]
  refine forall_congr' fun path => ?_
  rw [mem_managedPaths_policy]
  exact forall_congr' fun _ => by simp

theorem mem_paths_iff {values : ManagedFields} :
    path ∈ values.paths ↔ ∃ value, values.get path = some value := by
  rw [ManagedFields.paths, Dict.mem_keys_iff, ManagedFields.get, Option.isSome_iff_exists]

theorem fieldChange_unchanged_iff {live new : ManagedFields} (liveUnmarked : live.Unmarked)
    (newUnmarked : new.Unmarked) (kept : Managed managed ignored path)
    (declared : new.get path = some value) (json : Json value) :
    (fieldChange (some (applyFieldPolicy managed ignored new))
      (applyFieldPolicy managed ignored live)
      (applyFieldPolicy managed ignored new) path).classification = .noChange ↔
        Satisfied (some value) (live.get path) := by
  have found := get_applyFieldPolicy new kept
  have stored : valueOrMissing (some (applyFieldPolicy managed ignored new)) path = value := by
    change ((applyFieldPolicy managed ignored new).get path).getD missingMarker = value
    rw [found, declared]
    rfl
  have satisfied :
      declaredValueMatchesLive (valueOrMissing (some (applyFieldPolicy managed ignored new)) path)
      (valueOrMissing (some (applyFieldPolicy managed ignored live)) path) = true ↔ _ :=
    matches_iff_satisfied liveUnmarked.policy newUnmarked.policy
  rw [found, get_applyFieldPolicy live kept, declared, stored] at satisfied
  rw [fieldChange, stored]
  exact (classify_unchanged_iff json (newUnmarked.get declared)).trans satisfied

/-- With Git unchanged and only its declared paths managed, nothing is reported exactly when the
cluster satisfies every declared value. -/
theorem compareManagedFields_declared_iff {live new : ManagedFields} (ignored : List String)
    (json : ∀ path value, new.get path = some value → Json value) (liveUnmarked : live.Unmarked)
    (newUnmarked : new.Unmarked) :
    compareManagedFields (some new) live new (some new.paths) ignored = [] ↔
      ∀ path value, new.get path = some value → path ∉ ignored →
        Satisfied (some value) (live.get path) := by
  rw [compareManagedFields_eq_nil_iff]
  constructor
  · intro clean path value declared heeded
    have member := mem_paths_iff.mpr ⟨value, declared⟩
    have kept : Managed (some new.paths) ignored path :=
      ⟨fun paths same => Option.some.inj same ▸ member, heeded⟩
    exact (fieldChange_unchanged_iff liveUnmarked newUnmarked kept declared
      (json path value declared)).mp (clean path ⟨kept, .inr (.inr member)⟩)
  · rintro satisfied path ⟨kept, _⟩
    obtain ⟨value, declared⟩ := mem_paths_iff.mp (kept.1 new.paths rfl)
    exact (fieldChange_unchanged_iff liveUnmarked newUnmarked kept declared
      (json path value declared)).mpr (satisfied path value declared kept.2)

/-- The verdict of the comparison is exact, and satisfaction is a preorder on JSON values. -/
theorem compareManagedFields_exact :
    (∀ (old : Option ManagedFields) (live new : ManagedFields) (managed : Option (List String))
      (ignored : List String), live.Unmarked → new.Unmarked →
      (summarizeStatus (compareManagedFields old live new managed ignored) ∈
        ["no_change", "already_converged"] ↔
        ∀ path, Compared old live new managed ignored path →
          Satisfied (new.get path) (live.get path))) ∧
    (∀ value, Json value → declaredValueMatchesLive value value = true) ∧
    (∀ one two three, Json one → Json two → Json three → declaredValueMatchesLive one two = true →
      declaredValueMatchesLive two three = true → declaredValueMatchesLive one three = true) ∧
    ∀ (live new : ManagedFields) (ignored : List String),
      (∀ path value, new.get path = some value → Json value) → live.Unmarked → new.Unmarked →
      (compareManagedFields (some new) live new (some new.paths) ignored = [] ↔
        ∀ path value, new.get path = some value → path ∉ ignored →
          Satisfied (some value) (live.get path)) := by
  refine ⟨?_, ?_, ?_, ?_⟩
  · intro old live new managed ignored liveUnmarked newUnmarked
    exact summarizeStatus_satisfied_iff old managed ignored liveUnmarked newUnmarked
  · intro value json
    exact declaredValueMatchesLive_refl json
  · intro one two three json _ _ first second
    exact declaredValueMatchesLive_trans json first second
  · intro live new ignored json liveUnmarked newUnmarked
    exact compareManagedFields_declared_iff ignored json liveUnmarked newUnmarked

def probeMap (probe : Entries) : ManagedFields where
  fields := [("spec.template.spec.containers[name=api].readinessProbe", .dict probe)]
  distinct := List.nodup_singleton _
  trimmed := by
    intro entry member
    rw [List.mem_singleton.mp member]
    exact (by decide +kernel : strip "spec.template.spec.containers[name=api].readinessProbe" =
      "spec.template.spec.containers[name=api].readinessProbe")

theorem probeMap_unmarked (probe : Entries) : (probeMap probe).Unmarked := by
  intro entry member
  rw [List.mem_singleton.mp member]
  exact Value.noConfusion

def declaredProbe : Entries := [(.str "periodSeconds", .scalar (.int 5))]

/-- The probe with a default that the API server added. -/
def defaultedProbe : Entries := declaredProbe ++ [(.str "successThreshold", .scalar (.int 1))]

theorem compareManagedFields_exact_defaulted :
    summarizeStatus (compareManagedFields (some (probeMap declaredProbe)) (probeMap defaultedProbe)
      (probeMap declaredProbe) none []) ∈ ["no_change", "already_converged"] := by
  refine (compareManagedFields_exact.1 _ _ _ none [] (probeMap_unmarked _)
    (probeMap_unmarked _)).mpr ?_
  rintro path ⟨_, known⟩
  have same : path = "spec.template.spec.containers[name=api].readinessProbe" := by
    rcases known with ⟨values, old, member⟩ | member | member
    · cases old
      exact List.mem_singleton.mp member
    · exact List.mem_singleton.mp member
    · exact List.mem_singleton.mp member
  rw [same, ManagedFields.get, probeMap, List.lookup_cons_self, ManagedFields.get, probeMap,
    List.lookup_cons_self]
  exact (by decide +kernel :
    declaredValueMatchesLive (.dict declaredProbe) (.dict defaultedProbe) = true)

end verdict

end K8sOps.Gitops
