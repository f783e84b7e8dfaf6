import K8sOps.Python.Equality

/-! Merge patches of documents: mappings are merged key by key, a null deletes its key, a
list of named entries is merged by name, and anything else replaces what is there. What a
path reads after a merge depends on what the patch has on the way. -/
namespace K8sOps.Python
open Focus

namespace Entries

def erase (key : Scalar) (entries : Entries) : Entries :=
  entries.filter fun entry => !entry.1.same key

theorem lookup_erase (entries : Entries) (key other : Scalar) :
    lookup other (erase key entries) = if key.same other then none else lookup other entries := by
  induction entries with
  | nil => simp [erase, lookup]
  | cons entry entries ih =>
    obtain ⟨found, value⟩ := entry
    rw [erase] at ih
    by_cases dropped : found.same key = true
    · have same : found.same other = key.same other := by
        simp only [Scalar.same, Scalar.same_iff.mp dropped]
      rw [erase, List.filter_cons_of_neg (by simp [dropped]), ih, lookup, same]
      split <;> rfl
    · rw [erase, List.filter_cons_of_pos (by rw [Bool.eq_false_iff.mpr dropped]; rfl), lookup,
        lookup, ih]
      by_cases hit : found.same other = true
      · have different : ¬key.same other = true := fun same => dropped
          (Scalar.same_iff.mpr ((Scalar.same_iff.mp hit).trans (Scalar.same_iff.mp same).symm))
        rw [if_pos hit, if_neg different, if_pos hit]
      · rw [if_neg hit, if_neg hit]

end Entries

namespace Value

def nameOf : Value → Option String
  | .dict entries =>
    match Entries.lookup (.str "name") entries with
    | some (.scalar (.str name)) => some name
    | _ => none
  | _ => none

theorem nameOf_eq_some {value : Value} : value.nameOf = some name ↔ value.hasName name = true := by
  rw [hasName_iff]
  cases value with
  | scalar | list => simp [nameOf]
  | dict entries =>
    simp only [nameOf, dict.injEq, exists_eq_left']
    split
    next found stored => simp [stored]
    next absent => simpa using absent name

/-- A list whose entries are told apart by their names. -/
def namedEntries (items : List Value) : Bool :=
  items.all (·.nameOf.isSome) && decide (items.filterMap nameOf).Nodup

def fieldsOf : Option Value → Entries
  | some (.dict fields) => fields
  | _ => []

def itemsOf : Option Value → List Value
  | some (.list items) => items
  | _ => []

def counterpart (items : List Value) (item : Value) : Option Value :=
  item.nameOf.bind fun name => (items.filter (hasName name)).head?

/-- Put the merged entry in the place of its counterpart, or at the end. -/
def placeItem (items : List Value) (item : Value) : Option Value → List Value
  | none => items
  | some merged =>
    match item.nameOf with
    | none => items
    | some name =>
      if items.any (hasName name) then items.map fun old => if old.hasName name then merged else old
      else items ++ [merged]

mutual
/-- Merge a patch into what is there, if anything is. -/
def mergePatch : Value → Option Value → Option Value
  | .scalar .none, _ => none
  | .scalar value, _ => some (.scalar value)
  | .list items, object =>
    some (.list (if namedEntries items then mergeItems items (itemsOf object) else items))
  | .dict entries, object => some (.dict (mergeEntries entries (fieldsOf object)))
  termination_by structural patch => patch

def mergeItems : List Value → List Value → List Value
  | [], olds => olds
  | item :: items, olds =>
    mergeItems items (placeItem olds item (mergePatch item (counterpart olds item)))
  termination_by structural patch => patch

def mergeEntries : List (Scalar × Value) → Entries → Entries
  | [], fields => fields
  | entry :: entries, fields => mergeEntries entries (mergeEntry entry fields)
  termination_by structural patch => patch

def mergeEntry : Scalar × Value → Entries → Entries
  | (key, value), fields =>
    match mergePatch value (Entries.lookup key fields) with
    | some merged => Entries.assign key merged fields
    | none => Entries.erase key fields
  termination_by structural patch => patch
end

section entries

theorem lookup_mergeEntry (key other : Scalar) (value : Value) (fields : Entries) :
    Entries.lookup other (mergeEntry (key, value) fields) =
      if key.same other then mergePatch value (Entries.lookup other fields)
      else Entries.lookup other fields := by
  rw [mergeEntry]
  by_cases same : key.same other = true
  · rw [if_pos same, ← Entries.lookup_congr fields (Scalar.same_iff.mp same)]
    split
    next merged found =>
      rw [found, ← Entries.lookup_congr _ (Scalar.same_iff.mp same), Entries.lookup_assign]
    next deleted => rw [deleted, Entries.lookup_erase, if_pos same]
  · rw [if_neg same]
    split
    next merged _ =>
      exact Entries.lookup_assign_ne fields merged fun alike => same (Scalar.same_iff.mpr alike)
    next => rw [Entries.lookup_erase, if_neg same]

/-- A merged mapping has at each key what the patch makes of it, if it has that key. -/
theorem lookup_mergeEntries {entries : Entries} (distinct : entries.Distinct) (key : Scalar)
    (fields : Entries) :
    Entries.lookup key (mergeEntries entries fields) =
      match Entries.lookup key entries with
      | none => Entries.lookup key fields
      | some value => mergePatch value (Entries.lookup key fields) := by
  induction entries generalizing fields with
  | nil => rfl
  | cons entry entries ih =>
    obtain ⟨found, value⟩ := entry
    obtain ⟨fresh, distinct⟩ := List.nodup_cons.mp distinct
    rw [mergeEntries, ih distinct, lookup_mergeEntry, Entries.lookup]
    by_cases hit : found.same key = true
    · have absent : Entries.lookup key entries = none := by
        by_contra present
        obtain ⟨other, present⟩ := Option.ne_none_iff_exists'.mp present
        obtain ⟨stored, member, alike⟩ := Entries.mem_of_lookup present
        refine fresh (List.mem_map.mpr ⟨_, member, ?_⟩)
        exact alike.trans (Scalar.same_iff.mp hit).symm
      rw [if_pos hit, if_pos hit, absent]
    · rw [if_neg hit, if_neg hit]

end entries

section items

theorem any_iff_filter {items : List Value} {keep : Value → Bool} :
    items.any keep = true ↔ items.filter keep ≠ [] := by
  rw [ne_eq, List.filter_eq_nil_iff, List.any_eq_true]
  simp

theorem hasName_mergePatch {item merged : Value} (formed : WellFormed item)
    (named : item.nameOf = some name) (found : mergePatch item object = some merged) :
    merged.hasName name = true := by
  obtain ⟨entries, rfl, stored⟩ := hasName_iff.mp (nameOf_eq_some.mp named)
  cases formed with
  | dict distinct _ =>
    rw [mergePatch] at found
    cases found
    refine hasName_iff.mpr ⟨_, rfl, ?_⟩
    rw [lookup_mergeEntries distinct, stored]
    rfl

theorem filter_placeItem {item merged : Value} (named : item.nameOf = some name)
    (kept : merged.hasName name = true) (items : List Value) :
    (placeItem items item (some merged)).filter (hasName name) =
      if items.filter (hasName name) = [] then [merged]
      else (items.filter (hasName name)).map fun _ => merged := by
  rw [placeItem, named]
  dsimp only
  by_cases present : items.filter (hasName name) = []
  · have absent : ¬items.any (hasName name) = true := fun any => any_iff_filter.mp any present
    rw [if_neg absent, if_pos present, List.filter_append, present, List.filter_cons_of_pos kept]
    rfl
  · rw [if_pos (any_iff_filter.mpr present), if_neg present, filter_replace items kept]

theorem filter_placeItem_ne {item merged : Value} (named : item.nameOf = some name)
    (kept : merged.hasName name = true) (different : name ≠ other) (items : List Value) :
    (placeItem items item (some merged)).filter (hasName other) = items.filter (hasName other) := by
  rw [placeItem, named]
  dsimp only
  split
  · exact filter_replace_ne items kept different
  · have refused : merged.hasName other = false := by
      by_contra both
      exact different (hasName_unique kept (by simpa using both))
    rw [List.filter_append, List.filter_cons_of_neg (by simp [refused]), List.filter_nil,
      List.append_nil]

theorem namedEntries_cons {item : Value} (named : namedEntries (item :: items) = true) :
    ∃ name, item.nameOf = some name ∧ items.find? (hasName name) = none ∧
      namedEntries items = true := by
  rw [namedEntries, Bool.and_eq_true, List.all_cons, Bool.and_eq_true, decide_eq_true_iff] at named
  obtain ⟨⟨first, rest⟩, distinct⟩ := named
  obtain ⟨name, first⟩ := Option.isSome_iff_exists.mp first
  rw [List.filterMap_cons, first] at distinct
  obtain ⟨fresh, distinct⟩ := List.nodup_cons.mp distinct
  refine ⟨name, first, ?_, ?_⟩
  · rw [List.find?_eq_none]
    exact fun other member taken =>
      fresh (List.mem_filterMap.mpr ⟨other, member, nameOf_eq_some.mpr taken⟩)
  · rw [namedEntries, rest, decide_eq_true distinct]
    rfl

/-- The entries of one name after an item of that name was merged into the list. -/
def placed (merged : Option Value) : List Value → List Value
  | [] => merged.toList
  | old :: more => (old :: more).map fun other => merged.getD other

/-- A merged list has under each name what the patch makes of it, if it has that name. -/
theorem filter_mergeItems {items : List Value} (formed : ∀ item ∈ items, WellFormed item)
    (named : namedEntries items = true) (name : String) (olds : List Value) :
    (mergeItems items olds).filter (hasName name) =
      match items.find? (hasName name) with
      | none => olds.filter (hasName name)
      | some item =>
        placed (mergePatch item (olds.filter (hasName name)).head?)
          (olds.filter (hasName name)) := by
  induction items generalizing olds with
  | nil => rfl
  | cons item items ih =>
    obtain ⟨own, called, unique, rest⟩ := namedEntries_cons named
    have first := formed item List.mem_cons_self
    replace formed (other : Value) (member : other ∈ items) :=
      formed other (List.mem_cons_of_mem _ member)
    obtain ⟨entries, rfl, _⟩ := hasName_iff.mp (nameOf_eq_some.mp called)
    obtain ⟨merged, found⟩ :
        ∃ merged, mergePatch (.dict entries) (counterpart olds (.dict entries)) = some merged :=
      ⟨_, by rw [mergePatch]⟩
    have kept := hasName_mergePatch first called found
    rw [mergeItems, ih formed rest, found]
    by_cases same : own = name
    · subst same
      have hit : hasName own (.dict entries) = true := nameOf_eq_some.mp called
      rw [unique, List.find?_cons_of_pos hit]
      dsimp only
      rw [filter_placeItem called kept]
      rw [counterpart, called, Option.bind_some] at found
      rw [found]
      cases olds.filter (hasName own) with
      | nil => rfl
      | cons old more => rfl
    · have miss : ¬hasName name (.dict entries) = true := fun hit =>
        same (hasName_unique (nameOf_eq_some.mp called) hit)
      rw [filter_placeItem_ne called kept same, List.find?_cons_of_neg miss]

end items

section paths

def readIn (path : List Step) (object : Option Value) : Option Value :=
  object.bind (Value.access.read path)

/-- No step of the path is replaced or deleted by the patch, nor is what it reads. -/
def leavesAlone : List Step → Value → Prop
  | .key key :: path, .dict entries =>
    match Entries.lookup (.str key) entries with
    | none => True
    | some value => leavesAlone path value
  | .named name :: path, .list items =>
    namedEntries items = true ∧
      match items.find? (hasName name) with
      | none => True
      | some item => leavesAlone path item
  | _, _ => False

theorem readIn_cons (step : Step) (path : List Step) (object : Option Value) :
    readIn (step :: path) object = readIn path (object.bind (getStep step)) := by
  cases object <;> rfl

theorem lookup_fieldsOf (key : String) (object : Option Value) :
    Entries.lookup (.str key) (fieldsOf object) = object.bind (getStep (.key key)) := by
  rcases object with _ | _ | _ | _ <;> rfl

theorem getStep_itemsOf (name : String) (object : Option Value) :
    getStep (.named name) (.list (itemsOf object)) = object.bind (getStep (.named name)) := by
  rcases object with _ | _ | _ | _ <;> rfl

theorem getStep_of_find {items : List Value} (named : namedEntries items = true)
    (found : items.find? (hasName name) = some item) :
    getStep (.named name) (.list items) = some item := by
  have only : items.filter (hasName name) = [item] := by
    induction items with
    | nil => cases found
    | cons first items ih =>
      obtain ⟨own, called, unique, rest⟩ := namedEntries_cons named
      by_cases hit : hasName name first = true
      · rw [List.find?_cons_of_pos hit] at found
        cases found
        cases hasName_unique (nameOf_eq_some.mp called) hit
        rw [List.filter_cons_of_pos hit, List.filter_eq_nil_iff.mpr (List.find?_eq_none.mp unique)]
      · rw [List.find?_cons_of_neg hit] at found
        rw [List.filter_cons_of_neg hit, ih rest found]
  rw [getStep, only]

section merged
variable {items : List Value} (formed : ∀ item ∈ items, WellFormed item)
  (named : namedEntries items = true)
include formed named

theorem getStep_mergeItems_absent (absent : items.find? (hasName name) = none) (olds : List Value) :
    getStep (.named name) (.list (mergeItems items olds)) = getStep (.named name) (.list olds) := by
  rw [getStep, filter_mergeItems formed named, absent, getStep]

theorem getStep_mergeItems_present (found : items.find? (hasName name) = some item)
    (olds : List Value) :
    getStep (.named name) (.list (mergeItems items olds)) =
        mergePatch item (getStep (.named name) (.list olds)) ∨
      getStep (.named name) (.list (mergeItems items olds)) = none ∧
        getStep (.named name) (.list olds) = none := by
  simp only [getStep, filter_mergeItems formed named, found]
  rcases olds.filter (hasName name) with _ | ⟨old, _ | ⟨second, more⟩⟩
  · left
    rw [placed, List.head?_nil]
    cases mergePatch item none <;> rfl
  · left
    obtain ⟨entries, rfl, _⟩ := hasName_iff.mp (List.find?_some found)
    rfl
  · exact .inr ⟨rfl, rfl⟩

end merged

/-- A path that a patch leaves alone reads the same after the merge. -/
theorem readIn_mergePatch_alone {path : List Step} {patch : Value} (formed : WellFormed patch)
    (alone : leavesAlone path patch) (object : Option Value) :
    readIn path (mergePatch patch object) = readIn path object := by
  induction path generalizing patch object with
  | nil => cases alone
  | cons step path ih =>
    rw [readIn_cons, readIn_cons]
    cases step with
    | key key =>
      cases formed with
      | scalar | list => cases alone
      | @dict entries distinct values =>
        rw [mergePatch, Option.bind_some, getStep, lookup_mergeEntries distinct, lookup_fieldsOf]
        rw [leavesAlone] at alone
        cases found : Entries.lookup (.str key) entries with
        | none => rfl
        | some value =>
          rw [found] at alone
          obtain ⟨stored, member, _⟩ := Entries.mem_of_lookup found
          exact ih (values _ member) alone _
    | named name =>
      cases formed with
      | scalar | dict => cases alone
      | @list items values =>
        obtain ⟨named, alone⟩ := alone
        rw [mergePatch, if_pos named, Option.bind_some]
        cases found : items.find? (hasName name) with
        | none => rw [getStep_mergeItems_absent values named found, getStep_itemsOf]
        | some item =>
          rw [found] at alone
          have inner := ih (values _ (List.mem_of_find?_eq_some found)) alone
          rw [← getStep_itemsOf]
          obtain merged | ⟨lost, absent⟩ :=
            getStep_mergeItems_present values named found (itemsOf object)
          · rw [merged, inner]
          · rw [lost, absent]

/-- A path that a patch does not leave alone reads what the patch has there, and nothing
if the patch has nothing there. -/
theorem readIn_mergePatch_blocked {path : List Step} {patch : Value} (formed : WellFormed patch)
    (disturbed : ¬leavesAlone path patch) (undeclared : readIn path (some patch) = none)
    (object : Option Value) :
    readIn path (mergePatch patch object) = none := by
  induction path generalizing patch object with
  | nil => cases undeclared
  | cons step path ih =>
    rw [readIn_cons, Option.bind_some] at undeclared
    rw [readIn_cons]
    cases step with
    | key key =>
      cases formed with
      | @scalar value => cases value <;> rfl
      | list values => rfl
      | @dict entries distinct values =>
        rw [mergePatch, Option.bind_some, getStep, lookup_mergeEntries distinct]
        rw [leavesAlone] at disturbed
        rw [getStep] at undeclared
        cases found : Entries.lookup (.str key) entries with
        | none =>
          rw [found] at disturbed
          exact absurd trivial disturbed
        | some value =>
          rw [found] at disturbed undeclared
          obtain ⟨stored, member, _⟩ := Entries.mem_of_lookup found
          exact ih (values _ member) disturbed undeclared _
    | named name =>
      cases formed with
      | @scalar value => cases value <;> rfl
      | dict distinct values => rfl
      | @list items values =>
        rw [mergePatch, Option.bind_some]
        by_cases named : namedEntries items = true
        · rw [if_pos named]
          rw [leavesAlone] at disturbed
          cases found : items.find? (hasName name) with
          | none =>
            rw [found] at disturbed
            exact absurd ⟨named, trivial⟩ disturbed
          | some item =>
            rw [found] at disturbed
            rw [getStep_of_find named found] at undeclared
            have inner := ih (values _ (List.mem_of_find?_eq_some found)) (fun alone =>
              disturbed ⟨named, alone⟩)
              undeclared
            obtain merged | ⟨lost, _⟩ :=
              getStep_mergeItems_present values named found (itemsOf object)
            · rw [merged, inner]
            · rw [lost]
              rfl
        · rw [if_neg named]
          exact undeclared

end paths

end Value

end K8sOps.Python
