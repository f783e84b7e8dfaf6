import K8sOps.Python.Path
import K8sOps.Python.Text
import K8sOps.Results

/-! Field paths such as `spec.containers[name=api].image`: their syntax, and
reading and assigning through them in a manifest. The reading and assigning
functions are those of `source_patch.py`; they are then shown to be reads and
writes of the lawful document access. -/
namespace K8sOps.Gitops
open Python Focus

/-- The exceptions a patch function can leave with. -/
inductive PatchError where
  | manifestSourcePatch (message : String)
  | keyError
  | typeError
  | indexError
  | yamlError
  | other (type : String)
  deriving DecidableEq, Repr

structure FieldPathSegment where
  key : String
  selectedName : Option String
  deriving DecidableEq, Repr

/-- `_field_path_parts` from a bracket depth and the part read so far. -/
def scanParts (depth : Nat) (part : List Char) : List Char → Option (List (List Char))
  | [] => if depth = 0 then some [part] else none
  | c :: rest =>
    if c = '[' then scanParts (depth + 1) (part ++ [c]) rest
    else if c = ']' then if depth = 0 then none else scanParts (depth - 1) (part ++ [c]) rest
    else if c = '.' ∧ depth = 0 then (scanParts 0 [] rest).map (part :: ·)
    else scanParts depth (part ++ [c]) rest

/-- `_field_path_parts`, with the empty tuple for unbalanced brackets. -/
def fieldPathParts (value : List Char) : List (List Char) := (scanParts 0 [] value).getD []

def keyCharacter (c : Char) : Bool := c.isAlphanum || c == '_' || c == '-'

/-- `FIELD_PATH_SEGMENT_PATTERN.fullmatch`, with the check for a blank name. -/
def fieldPathSegment (raw : List Char) : Option FieldPathSegment :=
  let key := raw.takeWhile keyCharacter
  if key = [] then none
  else
    match raw.dropWhile keyCharacter with
    | [] => some ⟨String.ofList key, none⟩
    | '[' :: 'n' :: 'a' :: 'm' :: 'e' :: '=' :: more =>
      let name := more.takeWhile (· ≠ ']')
      if more.dropWhile (· ≠ ']') = [']'] ∧ notBlank (String.ofList name) then
        some ⟨String.ofList key, some (String.ofList name)⟩
      else none
    | _ => none

def fieldPathSegments (value : String) : List FieldPathSegment :=
  ((fieldPathParts value.toList).mapM fieldPathSegment).getD []

def missing : PatchError := .manifestSourcePatch "manifest scalar target is missing"

def notUnique : PatchError := .manifestSourcePatch "manifest scalar target is not unique"

def selectNamed (name : String) (items : List Value) : Except PatchError Value :=
  match items.filter (Value.hasName name) with
  | [item] => .ok item
  | _ => .error notUnique

def objectValueAt : Value → List FieldPathSegment → Except PatchError Value
  | current, [] => .ok current
  | .dict entries, segment :: rest =>
    match Entries.lookup (.str segment.key) entries, segment.selectedName with
    | none, _ => .error missing
    | some child, none => objectValueAt child rest
    | some (.list items), some name => do objectValueAt (← selectNamed name items) rest
    | some _, some _ => .error missing
  | _, _ :: _ => .error missing

/-- Iterating a value that is not a list: text and dictionaries yield no
matching entry, other scalars are not iterable. -/
def notIterated : Value → PatchError
  | .scalar (.str _) | .dict _ | .list _ => notUnique
  | .scalar _ => .typeError

/-- `set_object_value`, returning the assigned document. -/
def setObjectValue (value : Value) : List FieldPathSegment → Value → Except PatchError Value
  | [], _ => .error .indexError
  | [final], current =>
    match final.selectedName, current with
    | none, .dict entries => .ok (.dict (Entries.assign (.str final.key) value entries))
    | _, _ => .error missing
  | segment :: rest, .dict entries =>
    match Entries.lookup (.str segment.key) entries, segment.selectedName with
    | none, _ => .error .keyError
    | some child, none => do
      let child ← setObjectValue value rest child
      .ok (.dict (Entries.assign (.str segment.key) child entries))
    | some (.list items), some name => do
      let item ← setObjectValue value rest (← selectNamed name items)
      let items := items.map fun old => if old.hasName name then item else old
      .ok (.dict (Entries.assign (.str segment.key) (.list items) entries))
    | some child, some _ => .error (notIterated child)
  | _ :: _, _ => .error missing

def FieldPathSegment.steps (segment : FieldPathSegment) : List Step :=
  .key segment.key :: (segment.selectedName.map Step.named).toList

def location (segments : List FieldPathSegment) : List Step :=
  segments.flatMap FieldPathSegment.steps

/-- The path ends in the name key of an entry selected by that name. -/
def endsAtName : List FieldPathSegment → Prop
  | [] | [_] => False
  | [segment, final] => segment.selectedName ≠ none ∧ final.key = "name"
  | _ :: rest => endsAtName rest

example : fieldPathSegments "spec.containers[name=a.b].image" =
    [⟨"spec", none⟩, ⟨"containers", some "a.b"⟩, ⟨"image", none⟩] := by decide

theorem selectNamed_ok : selectNamed name items = .ok item ↔
    Value.getStep (.named name) (.list items) = some item := by
  unfold selectNamed Value.getStep
  split <;> simp_all

theorem location_cons (segment : FieldPathSegment) (rest : List FieldPathSegment) :
    location (segment :: rest) = segment.steps ++ location rest := List.flatMap_cons

/-- `object_value_at` is a read of the location, up to the error raised. -/
theorem objectValueAt_ok {root value : Value} {segments : List FieldPathSegment} :
    objectValueAt root segments = .ok value ↔
      Value.access.read (location segments) root = some value := by
  induction segments generalizing root with
  | nil => simp [objectValueAt, location, Access.read]
  | cons segment rest ih =>
    rw [location_cons, Access.read_append, FieldPathSegment.steps]
    cases root with
    | scalar | list => simp [objectValueAt, Access.read, Value.access, Value.getStep]
    | dict entries =>
      cases found : Entries.lookup (.str segment.key) entries with
      | none =>
        simp [objectValueAt, Access.read, Value.access, Value.getStep, found]
      | some child =>
        cases selected : segment.selectedName with
        | none =>
          simpa [objectValueAt, Access.read, Value.access, Value.getStep, found, selected] using ih
        | some name =>
          cases child with
          | scalar | dict =>
            simp [objectValueAt, Access.read, Value.access, Value.getStep, found, selected]
          | list items =>
            have reads : Value.access.read [.key segment.key, .named name] (.dict entries) =
                Value.getStep (.named name) (.list items) := by
              simp [Access.read, Value.access, Value.getStep, found]
            simp only [objectValueAt, found, selected, Option.map_some, Option.toList_some, reads]
            cases named : selectNamed name items with
            | ok item =>
              rw [selectNamed_ok.mp named]
              exact ih
            | error error =>
              have absent : Value.getStep (.named name) (.list items) = none := by
                by_contra present
                obtain ⟨item, present⟩ := Option.ne_none_iff_exists'.mp present
                simp [selectNamed_ok.mpr present] at named
              simp [absent, bind, Except.bind]

theorem setObjectValue_last (assigned : setObjectValue value [final] current = .ok result) :
    ∃ entries, current = .dict entries ∧ final.selectedName = none ∧
      result = .dict (Entries.assign (.str final.key) value entries) := by
  unfold setObjectValue at assigned
  split at assigned
  next unselected =>
    cases assigned
    exact ⟨_, rfl, unselected, rfl⟩
  next => cases assigned

theorem setObjectValue_cons {segment : FieldPathSegment}
    (assigned : setObjectValue value (segment :: next :: rest) current = .ok result) :
    ∃ entries child updated, current = .dict entries ∧
      Entries.lookup (.str segment.key) entries = some child ∧
      result = .dict (Entries.assign (.str segment.key) updated entries) ∧
      ((segment.selectedName = none ∧ setObjectValue value (next :: rest) child = .ok updated) ∨
        ∃ name items item new, segment.selectedName = some name ∧ child = .list items ∧
          selectNamed name items = .ok item ∧ setObjectValue value (next :: rest) item = .ok new ∧
          updated = .list (items.map fun old => if old.hasName name then new else old)) := by
  cases current with
  | scalar | list => cases assigned
  | dict entries =>
    simp only [setObjectValue] at assigned
    split at assigned
    next => cases assigned
    next child found unselected =>
      obtain ⟨updated, inner, outer⟩ := bind_eq_ok.mp assigned
      cases outer
      exact ⟨entries, child, updated, rfl, found, rfl, .inl ⟨unselected, inner⟩⟩
    next items name found selected =>
      obtain ⟨item, chosen, later⟩ := bind_eq_ok.mp assigned
      obtain ⟨new, inner, outer⟩ := bind_eq_ok.mp later
      cases outer
      exact ⟨entries, .list items, _, rfl, found, rfl,
        .inr ⟨name, items, item, new, selected, rfl, chosen, inner, rfl⟩⟩
    next => cases assigned

theorem setObjectValue_scalar (segments : List FieldPathSegment) :
    setObjectValue value segments (.scalar current) ≠ .ok result := by
  intro assigned
  match segments with
  | [] => cases assigned
  | [final] =>
    obtain ⟨_, absurd, _⟩ := setObjectValue_last assigned
    cases absurd
  | segment :: next :: rest =>
    obtain ⟨_, _, _, absurd, _⟩ := setObjectValue_cons assigned
    cases absurd

theorem objectValueAt_toOption (root : Value) (segments : List FieldPathSegment) :
    (objectValueAt root segments).toOption = Value.access.read (location segments) root := by
  cases result : objectValueAt root segments with
  | ok value => exact (objectValueAt_ok.mp result).symm
  | error error =>
    cases found : Value.access.read (location segments) root with
    | none => rfl
    | some value =>
      rw [objectValueAt_ok.mpr found] at result
      cases result

theorem setObjectValue_hasName {value current result : Value} {segments : List FieldPathSegment}
    (assigned : setObjectValue value segments current = .ok result)
    (named : current.hasName name = true) (other : segments ≠ [⟨"name", none⟩]) :
    result.hasName name = true := by
  obtain ⟨entries, rfl, stored⟩ := Value.hasName_iff.mp named
  have kept (key : String) (different : key ≠ "name") (new : Value) :
      (Value.dict (Entries.assign (.str key) new entries)).hasName name = true := by
    refine Value.hasName_iff.mpr ⟨_, rfl, ?_⟩
    rw [Entries.lookup_assign_ne entries new (by simpa [Scalar.canonical] using different), stored]
  match segments with
  | [] => cases assigned
  | [final] =>
    obtain ⟨_, same, unselected, rfl⟩ := setObjectValue_last assigned
    cases same
    refine kept final.key (fun isName => other ?_) value
    cases final
    simp_all
  | segment :: next :: rest =>
    obtain ⟨_, child, updated, same, found, rfl, through⟩ := setObjectValue_cons assigned
    cases same
    refine kept segment.key (fun isName => ?_) updated
    -- The name is text, so nothing can be assigned below it.
    rw [isName, stored] at found
    cases found
    obtain ⟨_, inner⟩ | ⟨_, _, _, _, _, list, _⟩ := through
    · exact setObjectValue_scalar _ inner
    · cases list

theorem location_injective {one two : List FieldPathSegment} (same : location one = location two) :
    one = two := by
  induction one generalizing two with
  | nil => cases two <;> simp_all [location, FieldPathSegment.steps]
  | cons first rest ih =>
    cases two with
    | nil => simp [location, FieldPathSegment.steps] at same
    | cons second others =>
      obtain ⟨key, name⟩ := first
      obtain ⟨key', name'⟩ := second
      simp only [location_cons, FieldPathSegment.steps, List.cons_append, List.cons.injEq,
        Step.key.injEq] at same
      obtain ⟨rfl, later⟩ := same
      -- A location continues with a key, so a name belongs to the segment before it.
      have noName (segments : List FieldPathSegment) (name : String) (tail : List Step) :
          location segments ≠ .named name :: tail := by
        cases segments <;> simp [location, FieldPathSegment.steps]
      cases name with
      | none =>
        cases name' with
        | none => rw [ih later]
        | some name' => exact absurd later (noName rest name' _)
      | some name =>
        cases name' with
        | none => exact absurd later.symm (noName others name _)
        | some name' =>
          simp only [Option.map_some, Option.toList_some, List.cons_append, List.nil_append,
            List.cons.injEq, Step.named.injEq] at later
          rw [later.1, ih later.2]

/-- Two scalars of a document are never one above the other: nothing is below a scalar. -/
theorem location_apart {one two : List FieldPathSegment} (different : one ≠ two)
    (oneScalar : Value.access.read (location one) document = some (.scalar first))
    (twoScalar : Value.access.read (location two) document = some (.scalar second)) :
    Apart (location one) (location two) := by
  have above {upper lower : List FieldPathSegment} {left right : Scalar}
      (leftRead : Value.access.read (location upper) document = some (.scalar left))
      (rightRead : Value.access.read (location lower) document = some (.scalar right))
      (leads : location upper <+: location lower) : upper = lower := by
    obtain ⟨rest, extended⟩ := leads
    rw [← extended, Access.read_append, leftRead, Option.bind_some] at rightRead
    cases rest with
    | nil => exact location_injective (by simpa using extended)
    | cons step rest => cases step <;> cases rightRead
  exact ⟨fun leads => different (above oneScalar twoScalar leads),
    fun leads => different (above twoScalar oneScalar leads).symm⟩

theorem endsAtName_cons {segment : FieldPathSegment} (ends : endsAtName (next :: rest)) :
    endsAtName (segment :: next :: rest) := by
  cases rest with
  | nil => cases ends
  | cons => exact ends

theorem put_key {entries : Entries} (found : Entries.lookup (.str key) entries = some child)
    (new : Value) : Value.access.put (.key key) new (.dict entries) =
      some (.dict (Entries.assign (.str key) new entries)) := by
  simp [Value.access, Value.putStep, found]

theorem selectNamed_single (chosen : selectNamed name items = .ok item) :
    items.filter (Value.hasName name) = [item] ∧ item.hasName name = true := by
  unfold selectNamed at chosen
  split at chosen
  next only =>
    cases chosen
    have member : item ∈ items.filter (Value.hasName name) := by
      rw [only]
      exact List.mem_singleton_self item
    exact ⟨only, (List.mem_filter.mp member).2⟩
  next => cases chosen

theorem put_named (chosen : selectNamed name items = .ok item) {new : Value}
    (named : new.hasName name = true) : Value.access.put (.named name) new (.list items) =
      some (.list (items.map fun old => if old.hasName name then new else old)) := by
  simp [Value.access, Value.putStep, named, (selectNamed_single chosen).1]

theorem setObjectValue_write {value root result old : Value} {segments : List FieldPathSegment}
    (assigned : setObjectValue value segments root = .ok result)
    (present : Value.access.read (location segments) root = some old)
    (permitted : ¬ endsAtName segments) :
    Value.access.write (location segments) value root = some result := by
  induction segments generalizing root result with
  | nil => cases assigned
  | cons segment rest ih =>
    rw [location_cons] at present ⊢
    cases rest with
    | nil =>
      obtain ⟨entries, rfl, unselected, rfl⟩ := setObjectValue_last assigned
      rw [FieldPathSegment.steps, unselected] at present ⊢
      obtain ⟨child, found, _⟩ := Option.bind_eq_some_iff.mp present
      change Entries.lookup (.str segment.key) entries = some child at found
      have get : Value.access.get (.key segment.key) (.dict entries) = some child := found
      simp only [Option.map_none, Option.toList_none, location, List.flatMap_nil, List.append_nil,
        Access.write, get, Option.bind_some, put_key found]
    | cons next rest =>
      obtain ⟨entries, child, updated, rfl, found, rfl, through⟩ := setObjectValue_cons assigned
      have get : Value.access.get (.key segment.key) (.dict entries) = some child := found
      have below : ¬ endsAtName (next :: rest) := fun ends => permitted (endsAtName_cons ends)
      obtain ⟨unselected, inner⟩ | ⟨name, items, item, new, selected, rfl, chosen, inner, rfl⟩ :=
        through
      · rw [FieldPathSegment.steps, unselected] at present ⊢
        simp only [Option.map_none, Option.toList_none, List.cons_append, List.nil_append,
          Access.read, Access.write, get, Option.bind_some] at present ⊢
        rw [ih inner present below, Option.bind_some, put_key found]
      · have select : Value.access.get (.named name) (.list items) = some item :=
          selectNamed_ok.mp chosen
        rw [FieldPathSegment.steps, selected] at present ⊢
        simp only [Option.map_some, Option.toList_some, List.cons_append, List.nil_append,
          Access.read, Access.write, get, select, Option.bind_some] at present ⊢
        have renamed : next :: rest ≠ [⟨"name", none⟩] := by
          intro same
          cases same
          exact permitted ⟨by simp [selected], rfl⟩
        have named := setObjectValue_hasName inner (selectNamed_single chosen).2 renamed
        rw [ih inner present below, Option.bind_some, put_named chosen named, Option.bind_some,
          put_key found]

end K8sOps.Gitops
