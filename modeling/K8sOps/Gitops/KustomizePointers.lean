import K8sOps.Gitops.FieldPathSyntax
import K8sOps.Gitops.KustomizeOwnershipProofs
import K8sOps.Python.Pointer

/-! When the detector sees that a JSON patch touches a protected field. It compares the text
of a pointer with the text of the path. Both agree as long as the path has keys only; where
the path selects an entry of a list by name, a pointer has an index. -/
namespace K8sOps.Gitops
open Python

section operations

/-- An operation of a JSON patch: its kind and its pointer are texts. -/
def IsOperation (item : Value) : Prop := ∃ entries op pointer,
  item = .dict entries ∧ getOrNone "op" entries = .scalar (.str op) ∧
    getOrNone "path" entries = .scalar (.str pointer)

/-- The operation writes what the pointer denotes, or moves it away. -/
def Writes (item : Value) (pointer : String) : Prop := ∃ entries op,
  item = .dict entries ∧ getOrNone "op" entries = .scalar (.str op) ∧
    op ∈ ["add", "copy", "move", "remove", "replace"] ∧
    (getOrNone "path" entries = .scalar (.str pointer) ∨
      op = "move" ∧ getOrNone "from" entries = .scalar (.str pointer))

/-- The operation writes, in the object, the place of the field or one above or below it. -/
def Touches (object : Value) (fieldPath : String) (item : Value) : Prop :=
  ∃ pointer tokens reached places, Writes item pointer ∧ pointerTokens pointer = some tokens ∧
    denoted tokens object = some reached ∧ placesOf (fieldLocation fieldPath) object = some places ∧
    Overlap reached places

/-- The keys of a path before the first list that it selects an entry of. -/
def keysAbove (fieldPath : String) : List String :=
  ((fieldPathSegments fieldPath).takeWhile (·.selectedName.isNone)).map (·.key)

/-- The operation writes a place above every list that the path of the field selects from. -/
def TouchesAbove (object : Value) (fieldPath : String) (item : Value) : Prop :=
  ∃ pointer tokens reached, Writes item pointer ∧ pointerTokens pointer = some tokens ∧
    denoted tokens object = some reached ∧ reached <+: (keysAbove fieldPath).map .key

theorem operationOwnsField_ok (kustomize : Kustomize) (paths : List String)
    (operation : IsOperation item) :
    ∃ owns, operationOwnsField kustomize paths item = .ok owns := by
  obtain ⟨entries, op, pointer, rfl, kind, _⟩ := operation
  rw [operationOwnsField, kind]
  exact ⟨_, rfl⟩

theorem anyOwns_true {owns : α → Except OwnershipError Bool}
    (total : ∀ item ∈ items, ∃ hit, owns item = .ok hit) (member : item ∈ items)
    (hit : owns item = .ok true) : anyOwns owns items = .ok true := by
  obtain ⟨answer, answered⟩ := anyOwns_ok total
  cases answer with
  | true => exact answered
  | false => cases hit.symm.trans (anyOwns_false.mp answered item member)

end operations

section texts

def slash (c : Char) : Char := if c = '.' then '/' else c

/-- The protected path as the detector compares it, segment by segment. -/
def guardTokens (fieldPath : String) : List (List Char) :=
  (fieldPathSegments fieldPath).map fun segment => segment.text.map slash

theorem slash_joinParts (part : List Char) (parts : List (List Char)) :
    '/' :: (joinParts (part :: parts)).map slash =
      pointerText ((part :: parts).map (List.map slash)) := by
  induction parts generalizing part with
  | nil => simp [joinParts, pointerText]
  | cons second parts ih =>
    have later := ih second
    rw [joinParts_cons _ (List.cons_ne_nil _ _), List.map_append, List.map_cons,
      show slash '.' = '/' from rfl, later]
    simp [pointerText]

theorem guarded_text (parsed : fieldPathSegments fieldPath ≠ []) :
    '/' :: fieldPath.toList.map slash = pointerText (guardTokens fieldPath) := by
  rw [fieldPathSegments_text parsed, guardTokens]
  obtain ⟨segment, segments, split⟩ := List.exists_cons_of_ne_nil parsed
  rw [split, List.map_cons, slash_joinParts, ← List.map_cons, List.map_map]
  rfl

theorem jsonPointerOverlapsField_iff (parsed : fieldPathSegments fieldPath ≠ []) :
    jsonPointerOverlapsField pointer fieldPath = true ↔
      pointer.toList = pointerText (guardTokens fieldPath) ∨
      pointerText (guardTokens fieldPath) ++ ['/'] <+: pointer.toList ∨
      pointer.toList ++ ['/'] <+: pointerText (guardTokens fieldPath) := by
  rw [← guarded_text parsed, jsonPointerOverlapsField, Bool.or_eq_true, Bool.or_eq_true, or_assoc,
    startsWith, startsWith, List.isPrefixOf_iff_prefix, List.isPrefixOf_iff_prefix, beq_iff_eq,
    ← String.toList_inj]
  simp only [String.toList_append, String.toList_ofList]
  rfl

theorem keyCharacter_plain (accepted : keyCharacter c = true) : c ≠ '.' ∧ c ≠ '/' ∧ c ≠ '~' := by
  refine ⟨?_, ?_, ?_⟩ <;>
  · rintro rfl
    revert accepted
    decide

theorem slash_key {segment : FieldPathSegment} (member : segment ∈ fieldPathSegments fieldPath) :
    segment.key.toList.map slash = segment.key.toList := by
  have fixed (c : Char) (inside : c ∈ segment.key.toList) : slash c = id c :=
    if_neg (keyCharacter_plain (fieldPathSegments_key member c inside)).1
  rw [List.map_congr_left fixed, List.map_id]

theorem key_plain {segment : FieldPathSegment} (member : segment ∈ fieldPathSegments fieldPath) :
    '~' ∉ segment.key.toList ∧ '/' ∉ segment.key.toList :=
  ⟨fun inside => (keyCharacter_plain (fieldPathSegments_key member _ inside)).2.2 rfl,
    fun inside => (keyCharacter_plain (fieldPathSegments_key member _ inside)).2.1 rfl⟩

theorem text_slash {segment : FieldPathSegment} (member : segment ∈ fieldPathSegments fieldPath)
    (unnamed : segment.selectedName = none) : segment.text.map slash = segment.key.toList := by
  rw [FieldPathSegment.text, unnamed, List.append_nil, slash_key member]

theorem location_unnamed {segments : List FieldPathSegment}
    (unnamed : ∀ segment ∈ segments, segment.selectedName = none) :
    location segments = (segments.map (·.key)).map .key := by
  induction segments with
  | nil => rfl
  | cons segment segments ih =>
    rw [location_cons, FieldPathSegment.steps, unnamed segment List.mem_cons_self,
      ih fun other member => unnamed other (List.mem_cons_of_mem _ member)]
    rfl

end texts

section keys
variable {keys : List String}

def placeCharacters : Place → List Char
  | .key key => key.toList
  | .index _ => []

theorem map_placeCharacters (keys : List String) :
    (keys.map Place.key).map placeCharacters = keys.map String.toList := List.map_map

theorem token_of_key (token : List Char) (place : Place)
    (along : ∀ key, place = .key key → token = key.toList) (among : place ∈ keys.map Place.key) :
    token = placeCharacters place := by
  obtain ⟨key, _, rfl⟩ := List.mem_map.mp among
  exact along key rfl

theorem raw_of_token (plain : ∀ key ∈ keys, '~' ∉ key.toList ∧ '/' ∉ key.toList)
    (raw token : List Char) (along : unescape raw = some token)
    (among : token ∈ keys.map String.toList) : raw = id token := by
  obtain ⟨key, inKeys, rfl⟩ := List.mem_map.mp among
  exact unescape_plain along (plain key inKeys)

theorem keysAbove_plain : ∀ key ∈ keysAbove fieldPath, '~' ∉ key.toList ∧ '/' ∉ key.toList := by
  intro key member
  obtain ⟨segment, among, rfl⟩ := List.mem_map.mp member
  exact key_plain ((List.takeWhile_prefix _).subset among)

theorem guardTokens_above (fieldPath : String) :
    (keysAbove fieldPath).map String.toList <+: guardTokens fieldPath := by
  have whole := List.takeWhile_prefix (l := fieldPathSegments fieldPath) (·.selectedName.isNone)
  rw [keysAbove, List.map_map, guardTokens]
  refine (List.map_congr_left fun segment among => ?_) ▸ whole.map fun segment =>
    segment.text.map slash
  have unnamed := List.all_eq_true.mp (List.all_takeWhile) segment among
  exact text_slash (whole.subset among) (Option.isNone_iff_eq_none.mp unnamed)

/-- A pointer to a place above the first name overlaps the text of the path. -/
theorem overlaps_of_above (parsed : fieldPathSegments fieldPath ≠ [])
    (read : pointerTokens pointer = some tokens) (reached : denoted tokens object = some denotes)
    (above : denotes <+: (keysAbove fieldPath).map .key) :
    jsonPointerOverlapsField pointer fieldPath = true := by
  obtain ⟨raws, text, decoded⟩ := pointerTokens_some read
  rw [mapM_eq_some] at decoded
  have short := map_placeCharacters _ ▸ forall₂_map_prefix (denoted_keys reached) above token_of_key
  have texts := forall₂_map_prefix decoded short (raw_of_token keysAbove_plain)
  rw [List.map_id] at texts
  rw [jsonPointerOverlapsField_iff parsed, text]
  obtain same | inside := pointerText_prefix (texts.trans (guardTokens_above fieldPath))
  · exact .inl same
  · exact .inr (.inr inside)

end keys

section unnamed
variable {fieldPath : String} (parsed : fieldPathSegments fieldPath ≠ [])
variable (unnamed : ∀ segment ∈ fieldPathSegments fieldPath, segment.selectedName = none)
include unnamed

theorem keysAbove_unnamed : keysAbove fieldPath = (fieldPathSegments fieldPath).map (·.key) := by
  rw [keysAbove, List.takeWhile_eq_self_iff.mpr]
  intro segment member
  rw [unnamed segment member]
  rfl

theorem guardTokens_unnamed : guardTokens fieldPath = (keysAbove fieldPath).map String.toList := by
  rw [guardTokens, keysAbove_unnamed unnamed, List.map_map]
  exact List.map_congr_left fun segment member => text_slash member (unnamed segment member)

include parsed

theorem overlaps_of_unnamed (read : pointerTokens pointer = some tokens)
    (reached : denoted tokens object = some denotes)
    (found : placesOf (fieldLocation fieldPath) object = some places)
    (overlap : Overlap denotes places) :
    jsonPointerOverlapsField pointer fieldPath = true := by
  rw [fieldLocation, location_unnamed unnamed, ← keysAbove_unnamed unnamed,
    ← List.append_nil (List.map _ _)] at found
  obtain ⟨below, later, rfl, remaining, _⟩ := placesOf_keys found
  cases remaining
  rw [List.append_nil] at overlap
  obtain above | below := overlap
  · exact overlaps_of_above parsed read reached above
  · obtain ⟨raws, text, decoded⟩ := pointerTokens_some read
    rw [mapM_eq_some] at decoded
    have long :=
      map_placeCharacters _ ▸ map_prefix_forall₂ (denoted_keys reached) below token_of_key
    have texts := map_prefix_forall₂ decoded long (raw_of_token keysAbove_plain)
    rw [List.map_id] at texts
    rw [jsonPointerOverlapsField_iff parsed, guardTokens_unnamed unnamed, text]
    obtain same | inside := pointerText_prefix texts
    · exact .inl same.symm
    · exact .inr (.inl inside)

end unnamed

section named

/-- The list that a segment selects from is above the field, and does not overlap its text. -/
theorem list_unseen {front back : List FieldPathSegment} {segment : FieldPathSegment}
    (split : fieldPathSegments fieldPath = front ++ segment :: back)
    (unnamed : ∀ other ∈ front, other.selectedName = none)
    (selected : segment.selectedName = some name) :
    jsonPointerOverlapsField
      (String.ofList (pointerText (((front ++ [segment]).map (·.key)).map String.toList)))
        fieldPath = false := by
  have parsed : fieldPathSegments fieldPath ≠ [] := by simp [split]
  have inFront (other : FieldPathSegment) (member : other ∈ front) :
      other ∈ fieldPathSegments fieldPath := by
    rw [split]
    exact List.mem_append_left _ member
  have inMiddle : segment ∈ fieldPathSegments fieldPath := by simp [split]
  have keys : front.map (fun other => other.text.map slash) = front.map fun other =>
      other.key.toList :=
    List.map_congr_left fun other member => text_slash (inFront other member) (unnamed other member)
  obtain ⟨rest, guarded⟩ : ∃ rest, pointerText (guardTokens fieldPath) =
      pointerText (((front ++ [segment]).map (·.key)).map String.toList) ++ '[' :: rest := by
    refine ⟨("name=".toList ++ name.toList ++ [']']).map slash ++
      pointerText (back.map fun other => other.text.map slash), ?_⟩
    have own : segment.text.map slash =
        segment.key.toList ++ '[' :: ("name=".toList ++ name.toList ++ [']']).map slash := by
      rw [FieldPathSegment.text, selected, List.map_append, slash_key inMiddle]
      rfl
    rw [guardTokens, split, List.map_append, List.map_cons, keys, own]
    simp [pointerText, Function.comp_def]
  rw [← Bool.not_eq_true, jsonPointerOverlapsField_iff parsed, String.toList_ofList, guarded]
  rintro (same | ⟨more, below⟩ | ⟨more, above⟩)
  · simpa using congrArg List.length same
  · have := congrArg List.length below
    simp only [List.length_append, List.length_cons, List.length_nil] at this
    omega
  · rw [List.append_assoc, List.append_cancel_left_eq] at above
    cases above

end named

section detection

theorem operationOwnsField_of_writes (kustomize : Kustomize) (member : fieldPath ∈ paths)
    (writes : Writes item pointer) (overlaps : jsonPointerOverlapsField pointer fieldPath = true) :
    operationOwnsField kustomize paths item = .ok true := by
  obtain ⟨entries, op, rfl, kind, known, through⟩ := writes
  rw [operationOwnsField, kind]
  dsimp only
  rw [decide_eq_true known, Bool.true_and, List.any_eq_true.mpr]
  refine ⟨fieldPath, member, ?_⟩
  obtain path | ⟨rfl, source⟩ := through
  · rw [textOrEmpty_str path, overlaps, Bool.true_or]
  · rw [textOrEmpty_str source, overlaps, Bool.or_eq_true]
    exact .inr rfl

def replacing (pointer : String) : Value :=
  .dict [(.str "op", .scalar (.str "replace")), (.str "path", .scalar (.str pointer))]

def loadingOperations (operations : List Value) : Kustomize :=
  { loading [] with runtime := { sampleRuntime with safeLoad := fun _ => .ok (.list operations) } }

theorem patchContentOwnsField_replacing (pointer fieldPath : String) (selected : ManifestIdentity) :
    patchContentOwnsField (loadingOperations [replacing pointer]) selected [fieldPath] "" true =
      .ok (jsonPointerOverlapsField pointer fieldPath) := by
  have path : textOrEmpty (loadingOperations [replacing pointer]) "path"
      [(.str "op", .scalar (.str "replace")), (.str "path", .scalar (.str pointer))] = pointer :=
        textOrEmpty_str rfl
  change orNext (.ok ([fieldPath].any fun path =>
    jsonPointerOverlapsField (textOrEmpty _ "path" _) path || false)) (.ok false) = _
  rw [path]
  cases checked : jsonPointerOverlapsField pointer fieldPath <;> simp [checked, orNext, Except.bind]

theorem writes_replacing (pointer : String) : Writes (replacing pointer) pointer :=
  ⟨_, "replace", rfl, rfl, by decide, .inl rfl⟩

theorem isOperation_replacing (pointer : String) : IsOperation (replacing pointer) :=
  ⟨_, _, _, rfl, rfl, rfl⟩

theorem patchContentOwnsField_of_writes {operations : List Value} (member : fieldPath ∈ paths)
    (loaded : kustomize.runtime.safeLoad content = .ok (.list operations))
    (formed : ∀ item ∈ operations, IsOperation item) (among : item ∈ operations)
    (writes : Writes item pointer) (overlaps : jsonPointerOverlapsField pointer fieldPath = true) :
    patchContentOwnsField kustomize selected paths content targetDeclared = .ok true := by
  rw [patchContentOwnsField, loaded]
  exact anyOwns_true (fun other inside =>
    operationOwnsField_ok kustomize paths (formed other inside)) among
    (operationOwnsField_of_writes kustomize member writes overlaps)

/-- Every patch that touches a field is seen exactly if the path of the field selects no entry of
a list by name. If it does, the patches that write above the first such list are still seen. -/
theorem patchContentOwnsField_sees_pointers_iff (fieldPath : String) (object : Value)
    (parsed : fieldPathSegments fieldPath ≠ [])
    (resolves : (Value.access.read (fieldLocation fieldPath) object).isSome = true) :
    ((∀ (kustomize : Kustomize) (selected : ManifestIdentity) (paths : List String)
      (content : String)
        (targetDeclared : Bool) (operations : List Value),
      fieldPath ∈ paths → kustomize.runtime.safeLoad content = .ok (.list operations) →
      (∀ item ∈ operations, IsOperation item) →
      (∃ item ∈ operations, Touches object fieldPath item) →
      patchContentOwnsField kustomize selected paths content targetDeclared = .ok true) ↔
    ∀ segment ∈ fieldPathSegments fieldPath, segment.selectedName = none) ∧
    ∀ (kustomize : Kustomize) (selected : ManifestIdentity) (paths : List String) (content : String)
        (targetDeclared : Bool) (operations : List Value),
      fieldPath ∈ paths → kustomize.runtime.safeLoad content = .ok (.list operations) →
      (∀ item ∈ operations, IsOperation item) →
      (∃ item ∈ operations, TouchesAbove object fieldPath item) →
      patchContentOwnsField kustomize selected paths content targetDeclared = .ok true := by
  refine ⟨⟨?_, ?_⟩, ?_⟩
  · intro seen
    by_contra named
    -- The list of the first segment with a name is above the field.
    obtain ⟨found, member, selects⟩ :
        ∃ segment ∈ fieldPathSegments fieldPath, segment.selectedName.isSome = true := by
      simpa [Option.isSome_iff_ne_none] using named
    obtain ⟨segment, first⟩ :
        ∃ segment, (fieldPathSegments fieldPath).find? (·.selectedName.isSome) = some segment :=
      Option.isSome_iff_exists.mp (List.find?_isSome.mpr ⟨found, member, selects⟩)
    obtain ⟨selects, front, back, split, earlier⟩ := List.find?_eq_some_iff_append.mp first
    obtain ⟨name, selects⟩ := Option.isSome_iff_exists.mp selects
    have unnamed (other : FieldPathSegment) (among : other ∈ front) :
        other.selectedName = none := by
      simpa using earlier other among
    have unseen := list_unseen split unnamed selects
    have plain (token : List Char) (among : token ∈
      ((front ++ [segment]).map (·.key)).map String.toList) :
        '~' ∉ token ∧ '/' ∉ token := by
      obtain ⟨key, inKeys, rfl⟩ := List.mem_map.mp among
      obtain ⟨other, inside, rfl⟩ := List.mem_map.mp inKeys
      have parsed : other ∈ fieldPathSegments fieldPath := by
        rw [split]
        rcases List.mem_append.mp inside with old | last
        · exact List.mem_append_left _ old
        · exact List.mem_append_right _ (List.mem_cons.mpr (.inl (List.mem_singleton.mp last)))
      exact key_plain parsed
    obtain ⟨places, placed⟩ := Option.isSome_iff_exists.mp (placesOf_isSome.trans resolves)
    have steps : fieldLocation fieldPath =
        ((front ++ [segment]).map (·.key)).map .key ++ (.named name :: location back) := by
      rw [fieldLocation, split, location_append, location_cons, location_unnamed unnamed,
        FieldPathSegment.steps, selects]
      simp
    rw [steps] at placed
    obtain ⟨below, later, rfl, _, reached⟩ := placesOf_keys placed
    have owned := seen (loadingOperations [replacing _]) ⟨"", "", none, ""⟩ [fieldPath] "" true _
      (List.mem_singleton_self _) rfl (fun item among =>
        List.mem_singleton.mp among ▸ isOperation_replacing _)
      ⟨_, List.mem_singleton_self _, _, _, _, _, writes_replacing _,
        pointerTokens_text plain, reached, steps ▸ placed, .inl (List.prefix_append _ _)⟩
    rw [patchContentOwnsField_replacing, unseen] at owned
    cases owned
  · rintro unnamed kustomize selected paths content targetDeclared operations member loaded formed
      ⟨item, among, pointer, tokens, reached, places, writes, read, denotes, placed, overlap⟩
    exact patchContentOwnsField_of_writes member loaded formed among writes
      (overlaps_of_unnamed parsed unnamed read denotes placed overlap)
  · rintro kustomize selected paths content targetDeclared operations member loaded formed
      ⟨item, among, pointer, tokens, reached, writes, read, denotes, above⟩
    exact patchContentOwnsField_of_writes member loaded formed among writes
      (overlaps_of_above parsed read denotes above)

end detection

section sample

def containerManifest : Value :=
  .dict [(.str "spec", .dict [(.str "containers", .list [.dict [
    (.str "name", .scalar (.str "api")), (.str "image", .scalar (.str "api:1"))]])])]

theorem touches_replacing (tokens : List (List Char)) (denotes places : List Place)
    (read : pointerTokens pointer = some tokens) (reached : denoted tokens object = some denotes)
    (placed : placesOf (fieldLocation fieldPath) object = some places)
    (overlap : Overlap denotes places) :
    Touches object fieldPath (replacing pointer) :=
  ⟨pointer, tokens, denotes, places, writes_replacing pointer, read, reached, placed, overlap⟩

/-- The specification is above the list of the containers. -/
theorem patchContentOwnsField_sees_pointers_iff_sample :
    patchContentOwnsField (loadingOperations [replacing "/spec"]) webDeployment
      ["spec.containers"] "" true =
      .ok true ∧
    patchContentOwnsField (loadingOperations [replacing "/spec"]) webDeployment
      ["spec.containers[name=api].image"] "" true = .ok true := by
  have formed : ∀ item ∈ [replacing "/spec"], IsOperation item :=
    fun item among => List.mem_singleton.mp among ▸ isOperation_replacing _
  have read : pointerTokens "/spec" = some ["spec".toList] := by decide +kernel
  have reached : denoted ["spec".toList] containerManifest = some [.key "spec"] := by decide +kernel
  constructor
  · refine (patchContentOwnsField_sees_pointers_iff "spec.containers" containerManifest (by decide)
      (by decide +kernel)).1.mpr (by decide) _ _ _ _ _ [replacing "/spec"]
        (List.mem_singleton_self _) rfl formed
      ⟨_, List.mem_singleton_self _,
        touches_replacing _ _ [.key "spec", .key "containers"] read reached
        (by decide +kernel) (.inl (by decide))⟩
  · exact (patchContentOwnsField_sees_pointers_iff "spec.containers[name=api].image"
      containerManifest (by decide)
      (by decide +kernel)).2 _ _ _ _ _ [replacing "/spec"] (List.mem_singleton_self _) rfl formed
      ⟨_, List.mem_singleton_self _, "/spec", _, _, writes_replacing _, read, reached, by decide⟩

/-- A pointer by index to the image that is protected by the name of its container. -/
theorem patchContentOwnsField_misses_index :
    Touches containerManifest "spec.containers[name=api].image"
      (replacing "/spec/containers/0/image") ∧
      patchContentOwnsField (loadingOperations [replacing "/spec/containers/0/image"]) webDeployment
        ["spec.containers[name=api].image"] "" true = .ok false := by
  refine ⟨touches_replacing (["spec", "containers", "0", "image"].map String.toList)
    [.key "spec", .key "containers", .index 0, .key "image"]
    [.key "spec", .key "containers", .index 0, .key "image"] (by decide +kernel) (by decide +kernel)
    (by decide +kernel) (.inl (List.prefix_refl _)), ?_⟩
  decide +kernel

end sample

end K8sOps.Gitops
