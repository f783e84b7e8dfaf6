import K8sOps.Python.Path

/-! Equality of documents under overwriting. The access to documents is exact, and
overwriting equal documents with equal values gives equal documents. -/
namespace K8sOps.Python
open Focus

namespace Scalar

theorem isNan_canonical (value : Scalar) : value.isNan = match value.canonical with
    | .nan _ => true
    | _ => false := by
  cases value with
  | float number => cases number <;> rfl
  | none | bool | int | str | other => rfl

theorem sameType_trans {one two three : Scalar} (first : one.sameType two = true)
    (second : one.sameType three = true) : two.sameType three = true := by
  cases one <;> cases two <;> cases three <;> simp_all [sameType]

end Scalar

namespace Entries
variable {entries : Entries}

theorem assign_lookup (found : lookup key entries = some value) :
    assign key value entries = entries := by
  induction entries with
  | nil => cases found
  | cons entry rest ih =>
    obtain ⟨stored, old⟩ := entry
    by_cases hit : stored.same key
    · simp only [lookup, hit, if_true, Option.some.injEq] at found
      simp only [assign, hit, if_true, found]
    · simp only [lookup, hit, Bool.false_eq_true, if_false] at found
      simp only [assign, hit, Bool.false_eq_true, if_false, ih found]

theorem assign_assign (entries : Entries) (key : Scalar) (first second : Value) :
    assign key second (assign key first entries) = assign key second entries := by
  induction entries with
  | nil => simp [assign]
  | cons entry rest ih =>
    obtain ⟨stored, old⟩ := entry
    by_cases hit : stored.same key
    · simp only [assign, hit, if_true]
    · simp only [assign, hit, Bool.false_eq_true, if_false, ih]

theorem assign_comm {key other : Scalar} (different : key.canonical ≠ other.canonical)
    (hasKey : (lookup key entries).isSome = true) (hasOther : (lookup other entries).isSome = true)
    (first second : Value) :
    assign key first (assign other second entries) =
      assign other second (assign key first entries) := by
  induction entries with
  | nil => cases hasKey
  | cons entry rest ih =>
    obtain ⟨stored, old⟩ := entry
    by_cases isKey : stored.same key = true
    · have notOther : stored.same other = false := by
        simp only [Scalar.same_iff] at isKey
        simp [Scalar.same, isKey, different]
      simp only [assign, isKey, notOther, if_true, Bool.false_eq_true, if_false]
    · by_cases isOther : stored.same other = true
      · simp only [assign, isKey, isOther, if_true, Bool.false_eq_true, if_false]
      · simp only [lookup, isKey, isOther, Bool.false_eq_true, if_false] at hasKey hasOther
        simp only [assign, isKey, isOther, Bool.false_eq_true, if_false, ih hasKey hasOther]

theorem isSome_assign (entries : Entries) (key other : Scalar) (value : Value)
    (present : (lookup other entries).isSome = true) :
    (lookup other (assign key value entries)).isSome = true := by
  by_cases same : key.canonical = other.canonical
  · rw [← lookup_congr _ same, lookup_assign]
    rfl
  · rw [lookup_assign_ne entries value same]
    exact present

/-- No two keys of a dictionary are equal. -/
def Distinct (entries : Entries) : Prop := (entries.map (·.1.canonical)).Nodup

theorem Distinct.lookup_of_mem (distinct : entries.Distinct) (member : (key, value) ∈ entries) :
    lookup key entries = some value := by
  induction entries with
  | nil => cases member
  | cons entry rest ih =>
    obtain ⟨fresh, distinct⟩ := List.nodup_cons.mp distinct
    cases member with
    | head => simp only [lookup, Scalar.same_iff.mpr rfl, if_true]
    | tail _ member =>
      have miss : ¬entry.1.same key = true := by
        intro hit
        exact fresh (List.mem_map.mpr ⟨(key, value), member, (Scalar.same_iff.mp hit).symm⟩)
      rw [lookup, if_neg miss, ih distinct member]

theorem keys_assign (present : (lookup key entries).isSome = true) (value : Value) :
    (assign key value entries).map (·.1.canonical) = entries.map (·.1.canonical) := by
  induction entries with
  | nil => cases present
  | cons entry rest ih =>
    by_cases hit : entry.1.same key = true
    · simp only [assign, hit, if_true, List.map_cons]
    · simp only [lookup, hit, Bool.false_eq_true, if_false] at present
      simp only [assign, hit, Bool.false_eq_true, if_false, List.map_cons, ih present]

end Entries

namespace Value

/-- A document that a loader can build: in none of its dictionaries are two keys equal. -/
inductive WellFormed : Value → Prop
  | scalar : WellFormed (.scalar value)
  | list (inner : ∀ item ∈ items, WellFormed item) : WellFormed (.list items)
  | dict (distinct : Entries.Distinct entries) (inner : ∀ entry ∈ entries, WellFormed entry.2) :
      WellFormed (.dict entries)

section equality

theorem same_dict_iff {left right : Entries} (distinct : left.Distinct) :
    (dict left).same (dict right) = true ↔ ∀ key, Agree (left.lookup key) (right.lookup key) := by
  refine ⟨fun alike key => same_lookup alike key, fun agree => ?_⟩
  simp only [same, Bool.and_eq_true, sameEntries_iff, List.all_eq_true]
  constructor
  · rintro ⟨key, value⟩ member
    have found := agree key
    rw [distinct.lookup_of_mem member] at found
    cases stored : Entries.lookup key right with
    | none =>
      rw [stored] at found
      cases found
    | some other =>
      rw [stored] at found
      cases found with
      | some alike => exact sameEntry_iff.mpr ⟨other, stored, alike⟩
  · rintro ⟨key, value⟩ member
    have found := agree key
    obtain ⟨stored, present⟩ := Entries.lookup_of_mem member
    rw [present] at found
    generalize Entries.lookup key left = one at found
    cases found
    rfl

theorem same_refl (formed : WellFormed value) : value.same value = true := by
  induction formed with
  | scalar => exact Scalar.same_iff.mpr rfl
  | list _ ih =>
    simp only [same]
    exact sameItems_iff.mpr (List.forall₂_same.mpr ih)
  | @dict entries distinct _ ih =>
    refine (same_dict_iff distinct).mpr fun key => ?_
    cases found : Entries.lookup key entries with
    | none => exact .none
    | some value =>
      obtain ⟨stored, member, _⟩ := Entries.mem_of_lookup found
      exact .some (ih (stored, value) member)

theorem forall₂_trans_of_mem {one two both : α → α → Prop} {left middle right : List α}
    (members : ∀ item ∈ left, ∀ {middle right : α}, one item middle → two middle right →
      both item right)
    (first : List.Forall₂ one left middle) (second : List.Forall₂ two middle right) :
    List.Forall₂ both left right := by
  induction first generalizing right with
  | nil =>
    cases second
    exact .nil
  | cons equal _ ih =>
    cases second with
    | cons next rest =>
      have tail := ih (fun item member => members item (List.mem_cons_of_mem _ member)) rest
      exact .cons (members _ List.mem_cons_self equal next) tail

theorem same_trans {left middle right : Value} (formed : WellFormed left)
    (first : left.same middle = true) (second : middle.same right = true) :
    left.same right = true := by
  induction formed generalizing middle right with
  | scalar =>
    cases middle with
    | scalar middle =>
      cases right with
      | scalar right =>
        exact Scalar.same_iff.mpr ((Scalar.same_iff.mp first).trans (Scalar.same_iff.mp second))
      | list | dict => cases second
    | list | dict => cases first
  | @list items _ ih =>
    cases middle with
    | list middle =>
      cases right with
      | list right =>
        simp only [same] at first second ⊢
        rw [sameItems_iff] at first second ⊢
        exact forall₂_trans_of_mem ih first second
      | scalar | dict => cases second
    | scalar | dict => cases first
  | @dict entries distinct _ ih =>
    cases middle with
    | dict middle =>
      cases right with
      | dict right =>
        refine (same_dict_iff distinct).mpr fun key => ?_
        have one := same_lookup first key
        have two := same_lookup second key
        cases found : Entries.lookup key entries with
        | none =>
          rw [found] at one
          generalize Entries.lookup key middle = between at one two
          cases one
          exact two
        | some value =>
          obtain ⟨stored, member, _⟩ := Entries.mem_of_lookup found
          rw [found] at one
          generalize Entries.lookup key middle = between at one two
          generalize Entries.lookup key right = last at two
          cases one with
          | some equal =>
            cases two with
            | some next => exact .some (ih (stored, value) member equal next)
      | scalar | list => cases second
    | scalar | list => cases first

end equality

theorem sameScalar_retyped {old new wanted : Scalar} (kind : old.sameType new = true)
    (equal : old.same new = true) (holds : (scalar old).sameScalar (scalar wanted) = true) :
    (scalar new).sameScalar (scalar wanted) = true := by
  simp only [sameScalar, Scalar.equal, Bool.and_eq_true, Scalar.same_iff] at holds equal ⊢
  obtain ⟨sameType, finite, canonical⟩ := holds
  refine ⟨Scalar.sameType_trans kind sameType, ?_, equal.symm.trans canonical⟩
  rwa [Scalar.isNan_canonical, ← equal, ← Scalar.isNan_canonical]

section exactness

theorem replace_single {items : List Value} (only : items.filter (hasName name) = [item]) :
    (items.map fun old => if old.hasName name then item else old) = items := by
  refine (List.map_congr_left fun old member => ?_).trans (List.map_id items)
  split
  next hit =>
    have among : old ∈ items.filter (hasName name) := List.mem_filter.mpr ⟨member, hit⟩
    rw [only, List.mem_singleton] at among
    exact among.symm
  next => rfl

theorem replace_replace (items : List Value) (accepted : first.hasName name = true)
    (second : Value) :
    ((items.map fun old => if old.hasName name then first else old).map
      fun old => if old.hasName name then second else old) =
        items.map fun old => if old.hasName name then second else old := by
  rw [List.map_map]
  refine List.map_congr_left fun old _ => ?_
  dsimp only [Function.comp_apply]
  by_cases hit : old.hasName name = true
  · rw [if_pos hit, if_pos accepted, if_pos hit]
  · rw [if_neg hit, if_neg hit]

theorem replace_comm (items : List Value) (different : name ≠ other)
    (firstNamed : first.hasName name = true) (secondNamed : second.hasName other = true) :
    ((items.map fun old => if old.hasName name then first else old).map
      fun old => if old.hasName other then second else old) =
        (items.map fun old => if old.hasName other then second else old).map
          fun old => if old.hasName name then first else old := by
  have refuses {value : Value} {one two : String} (apart : one ≠ two)
    (named : value.hasName one = true) :
      ¬value.hasName two = true := fun both => apart (hasName_unique named both)
  rw [List.map_map, List.map_map]
  refine List.map_congr_left fun old _ => ?_
  dsimp only [Function.comp_apply]
  by_cases hit : old.hasName name = true
  · rw [if_pos hit, if_neg (refuses different firstNamed), if_neg (refuses different hit),
      if_pos hit]
  · by_cases hitOther : old.hasName other = true
    · rw [if_neg hit, if_pos hitOther, if_neg (refuses different.symm secondNamed)]
    · rw [if_neg hit, if_neg hitOther, if_neg hit]

theorem access_exact : access.Exact where
  put_get {step whole part} found := by
    cases step with
    | key key =>
      cases whole with
      | dict entries =>
        have stored : Entries.lookup (.str key) entries = some part := found
        simp only [access, putStep, stored, Option.isSome_some, if_true,
          Entries.assign_lookup stored]
      | scalar | list => cases found
    | named name =>
      cases whole with
      | list items =>
        simp only [access, getStep] at found
        split at found
        next item only =>
          cases found
          have member : part ∈ items.filter (hasName name) := by
            rw [only]
            exact List.mem_singleton_self part
          have named := (List.mem_filter.mp member).2
          simp only [access, putStep, named, only, List.length_singleton, and_self, if_true,
            replace_single only]
        next => cases found
      | scalar | dict => cases found
  put_put {step first whole middle second} written := by
    cases step with
    | key key =>
      cases whole with
      | dict entries =>
        simp only [access, putStep, Option.ite_none_right_eq_some, Option.some.injEq] at written
        obtain ⟨present, rfl⟩ := written
        simp only [access, putStep, Entries.lookup_assign, Option.isSome_some, present, if_true,
          Entries.assign_assign]
      | scalar | list => cases written
    | named name =>
      cases whole with
      | list items =>
        simp only [access, putStep, Option.ite_none_right_eq_some, Option.some.injEq] at written
        obtain ⟨⟨named, single⟩, rfl⟩ := written
        simp only [access, putStep, filter_replace items named, List.length_map,
          replace_replace items named]
      | scalar | dict => cases written
  put_comm {step other first whole second} different := by
    cases whole with
    | scalar => cases step <;> cases other <;> rfl
    | dict entries =>
      cases step with
      | named =>
        cases other with
        | named => rfl
        | key =>
          simp only [access, putStep, Option.bind_none]
          split <;> rfl
      | key key =>
        cases other with
        | named =>
          simp only [access, putStep, Option.bind_none]
          split <;> rfl
        | key second_ =>
          have keys : (Scalar.str key).canonical ≠ (Scalar.str second_).canonical := by
            intro same
            exact different (congrArg Step.key (by simpa [Scalar.canonical] using same))
          simp only [access, putStep]
          by_cases hasKey : (Entries.lookup (.str key) entries).isSome = true
          · by_cases hasOther : (Entries.lookup (.str second_) entries).isSome = true
            · simp only [putStep, hasKey, hasOther, if_true, Option.bind_some,
                Entries.isSome_assign entries _ _ _ hasKey,
                Entries.isSome_assign entries _ _ _ hasOther,
                Entries.assign_comm keys hasKey hasOther]
            · simp only [putStep, hasKey, hasOther, if_true, if_false, Option.bind_some,
                Option.bind_none, Entries.lookup_assign_ne entries _ keys, Bool.false_eq_true]
          · by_cases hasOther : (Entries.lookup (.str second_) entries).isSome = true
            · simp only [putStep, hasKey, hasOther, if_true, if_false, Option.bind_some,
                Option.bind_none, Entries.lookup_assign_ne entries _ keys.symm, Bool.false_eq_true]
            · simp only [hasKey, hasOther, if_false, Option.bind_none, Bool.false_eq_true]
    | list items =>
      cases step with
      | key =>
        cases other with
        | key => rfl
        | named =>
          simp only [access, putStep, Option.bind_none]
          split <;> rfl
      | named name =>
        cases other with
        | key =>
          simp only [access, putStep, Option.bind_none]
          split <;> rfl
        | named second_ =>
          have names : name ≠ second_ := fun same => different (congrArg Step.named same)
          simp only [access, putStep]
          by_cases hasName_ : first.hasName name = true ∧ (items.filter (hasName name)).length = 1
          · by_cases hasOther : second.hasName second_ = true ∧
              (items.filter (hasName second_)).length = 1
            · simp only [putStep, if_pos hasName_, if_pos hasOther, Option.bind_some,
                filter_replace_ne items hasName_.1 names,
                filter_replace_ne items hasOther.1 names.symm,
                replace_comm items names hasName_.1 hasOther.1]
            · simp only [putStep, if_pos hasName_, if_neg hasOther, Option.bind_some,
                Option.bind_none, filter_replace_ne items hasName_.1 names]
          · by_cases hasOther : second.hasName second_ = true ∧
              (items.filter (hasName second_)).length = 1
            · simp only [putStep, if_neg hasName_, if_pos hasOther, Option.bind_some,
                Option.bind_none, filter_replace_ne items hasOther.1 names.symm]
            · simp only [if_neg hasName_, if_neg hasOther, Option.bind_none]

end exactness

section congruence

theorem wellFormed_getStep (formed : WellFormed whole) (found : getStep step whole = some part) :
    WellFormed part := by
  cases formed with
  | scalar => cases step <;> cases found
  | list inner =>
    cases step with
    | key => cases found
    | named name =>
      simp only [getStep] at found
      split at found
      next item only =>
        cases found
        have member : part ∈ List.filter (hasName name) _ := only ▸ List.mem_singleton_self part
        exact inner part (List.mem_filter.mp member).1
      next => cases found
  | dict _ inner =>
    cases step with
    | named => cases found
    | key =>
      obtain ⟨stored, member, _⟩ := Entries.mem_of_lookup found
      exact inner (stored, part) member

theorem wellFormed_putStep (formed : WellFormed whole) (newFormed : WellFormed new)
    (written : putStep step new whole = some result) : WellFormed result := by
  cases formed with
  | scalar => cases step <;> cases written
  | list inner =>
    cases step with
    | key => cases written
    | named name =>
      simp only [putStep, Option.ite_none_right_eq_some, Option.some.injEq] at written
      obtain ⟨_, rfl⟩ := written
      refine .list fun item member => ?_
      obtain ⟨old, among, rfl⟩ := List.mem_map.mp member
      split
      · exact newFormed
      · exact inner old among
  | dict distinct inner =>
    cases step with
    | named => cases written
    | key key =>
      simp only [putStep, Option.ite_none_right_eq_some, Option.some.injEq] at written
      obtain ⟨present, rfl⟩ := written
      refine .dict ?_ fun entry member => ?_
      · rw [Entries.Distinct, Entries.keys_assign present]
        exact distinct
      · rcases Entries.mem_assign member with replaced | old
        · exact replaced ▸ newFormed
        · exact inner entry old

theorem wellFormed_write (formed : WellFormed whole) (newFormed : WellFormed new)
    (written : access.write path new whole = some result) : WellFormed result := by
  induction path generalizing whole result with
  | nil =>
    cases written
    exact newFormed
  | cons step path ih =>
    obtain ⟨child, changed, found, inner, outer⟩ := Access.write_cons written
    exact wellFormed_putStep formed (ih (wellFormed_getStep formed found) inner) outer

theorem putStep_same {left right new other : Value} (formed : WellFormed left)
    (alike : left.same right = true) (equal : new.same other = true)
    (written : putStep step new left = some result) :
    ∃ counterpart, putStep step other right = some counterpart ∧
      result.same counterpart = true := by
  cases formed with
  | scalar => cases step <;> cases written
  | list inner =>
    cases right with
    | list right =>
      cases step with
      | key => cases written
      | named name =>
        simp only [putStep, Option.ite_none_right_eq_some, Option.some.injEq] at written
        obtain ⟨⟨named, single⟩, rfl⟩ := written
        simp only [same] at alike
        rw [sameItems_iff] at alike
        have matching := (filter_same name alike).length_eq
        refine ⟨_, if_pos ⟨hasName_same equal name ▸ named, matching ▸ single⟩, ?_⟩
        simp only [same]
        rw [sameItems_iff]
        refine List.rel_map (R := fun one two => one.same two = true) (fun one two both => ?_) alike
        rw [← hasName_same both name]
        split
        · exact equal
        · exact both
    | scalar | dict => cases alike
  | @dict left distinct inner =>
    cases right with
    | dict right =>
      cases step with
      | named => cases written
      | key key =>
        simp only [putStep, Option.ite_none_right_eq_some, Option.some.injEq] at written
        obtain ⟨present, rfl⟩ := written
        have stored : (Entries.lookup (.str key) right).isSome = true := by
          have found := same_lookup alike (.str key)
          generalize Entries.lookup (.str key) right = other at found
          generalize Entries.lookup (.str key) left = one at found present
          cases found with
          | none => cases present
          | some => rfl
        refine ⟨_, if_pos stored, ?_⟩
        have kept : Entries.Distinct (Entries.assign (.str key) new left) := by
          rw [Entries.Distinct, Entries.keys_assign present]
          exact distinct
        refine (same_dict_iff kept).mpr fun asked => ?_
        by_cases hit : (Scalar.str key).canonical = asked.canonical
        · rw [← Entries.lookup_congr _ hit, ← Entries.lookup_congr _ hit, Entries.lookup_assign,
            Entries.lookup_assign]
          exact .some equal
        · rw [Entries.lookup_assign_ne _ _ hit, Entries.lookup_assign_ne _ _ hit]
          exact same_lookup alike asked
    | scalar | list => cases alike

theorem write_same {left right new other : Value} (formed : WellFormed left)
    (alike : left.same right = true) (equal : new.same other = true)
    (written : access.write path new left = some result) :
    ∃ counterpart, access.write path other right = some counterpart ∧
      result.same counterpart = true := by
  induction path generalizing left right result with
  | nil =>
    cases written
    exact ⟨other, rfl, equal⟩
  | cons step path ih =>
    obtain ⟨child, changed, found, inner, outer⟩ := Access.write_cons written
    have both := getStep_same alike step
    rw [show getStep step left = some child from found] at both
    cases foundRight : getStep step right with
    | none =>
      rw [foundRight] at both
      cases both
    | some childRight =>
      rw [foundRight] at both
      cases both with
      | some childAlike =>
        obtain ⟨changedRight, innerRight, changedAlike⟩ :=
          ih (wellFormed_getStep formed found) childAlike inner
        obtain ⟨resultRight, outerRight, resultAlike⟩ :=
          putStep_same formed alike changedAlike outer
        refine ⟨resultRight, ?_, resultAlike⟩
        rw [Access.write, show access.get step right = some childRight from foundRight,
          Option.bind_some, innerRight]
        exact outerRight

/-- Edits at the same paths with equal values. -/
abbrev SameEdits : List (List Step × Value) → List (List Step × Value) → Prop :=
  List.Forall₂ fun one two => one.1 = two.1 ∧ one.2.same two.2 = true

theorem writeAll_same {left right : Value} (edits : SameEdits one two) (formed : WellFormed left)
    (valuesFormed : ∀ edit ∈ one, WellFormed edit.2) (alike : left.same right = true)
    (written : access.writeAll one left = some result) :
    ∃ counterpart, access.writeAll two right = some counterpart ∧
      result.same counterpart = true := by
  induction edits generalizing left right with
  | nil =>
    cases written
    exact ⟨right, rfl, alike⟩
  | @cons edit other one two head _ ih =>
    obtain ⟨middle, first, rest⟩ := Option.bind_eq_some_iff.mp written
    obtain ⟨place, equal⟩ := head
    obtain ⟨counterpart, firstRight, middleAlike⟩ := write_same formed alike equal first
    have valueFormed := valuesFormed edit List.mem_cons_self
    obtain ⟨last, restRight, lastAlike⟩ := ih (wellFormed_write formed valueFormed first)
      (fun edit member => valuesFormed edit (List.mem_cons_of_mem _ member)) middleAlike rest
    refine ⟨last, ?_, lastAlike⟩
    rw [Access.writeAll, ← place, firstRight]
    exact restRight

end congruence

end Value

end K8sOps.Python
