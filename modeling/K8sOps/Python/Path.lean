import K8sOps.Python.Value

/-! Paths into documents: by dictionary key, or into a list by the `name` of the
one dictionary entry that carries it. Overwriting a named entry is allowed only
while it keeps its name, which makes both kinds of step lawful. -/
namespace K8sOps.Python
open Focus

inductive Step where
  | key (key : String)
  | named (name : String)
  deriving DecidableEq, Repr

namespace Value

/-- `isinstance(item, Mapping) and item.get("name") == name`. -/
def hasName (name : String) : Value → Bool
  | .dict entries =>
    match Entries.lookup (.str "name") entries with
    | some (.scalar (.str found)) => found == name
    | _ => false
  | _ => false

def getStep : Step → Value → Option Value
  | .key key, .dict entries => Entries.lookup (.str key) entries
  | .named name, .list items =>
    match items.filter (hasName name) with
    | [item] => some item
    | _ => none
  | _, _ => none

def putStep : Step → Value → Value → Option Value
  | .key key, new, .dict entries =>
    if (Entries.lookup (.str key) entries).isSome then
      some (.dict (Entries.assign (.str key) new entries)) else none
  | .named name, new, .list items =>
    if new.hasName name ∧ (items.filter (hasName name)).length = 1 then
      some (.list (items.map fun item => if item.hasName name then new else item))
    else none
  | _, _, _ => none

theorem hasName_iff {value : Value} : value.hasName name = true ↔ ∃ entries,
    value = .dict entries ∧ Entries.lookup (.str "name") entries = some (.scalar (.str name)) := by
  cases value with
  | scalar | list => simp [hasName]
  | dict entries =>
    simp only [hasName, dict.injEq, exists_eq_left']
    split
    next found stored => simp [stored]
    next absent => simpa using absent name

theorem hasName_unique {value : Value} (one : value.hasName name = true)
    (two : value.hasName other = true) : name = other := by
  obtain ⟨entries, rfl, found⟩ := hasName_iff.mp one
  obtain ⟨_, same, again⟩ := hasName_iff.mp two
  cases same
  simpa using found.symm.trans again

theorem filter_length_one {items : List Value} (single : (items.filter keep).length = 1) :
    ∃ item, items.filter keep = [item] ∧ keep item = true := by
  obtain ⟨item, only⟩ := List.length_eq_one_iff.mp single
  have member : item ∈ items.filter keep := by rw [only]; exact List.mem_singleton_self item
  exact ⟨item, only, (List.mem_filter.mp member).2⟩

theorem filter_replace (items : List Value) (accepted : new.hasName name = true) :
    (items.map fun item => if item.hasName name then new else item).filter (hasName name) =
      (items.filter (hasName name)).map fun _ => new := by
  induction items with
  | nil => rfl
  | cons item items ih =>
    by_cases hit : item.hasName name = true
    · simp only [List.map_cons, hit, if_true, List.filter_cons, accepted, ih]
    · simp only [List.map_cons, hit, Bool.false_eq_true, if_false, List.filter_cons, ih]

theorem filter_replace_ne (items : List Value) (accepted : new.hasName name = true)
    (different : name ≠ other) :
    (items.map fun item => if item.hasName name then new else item).filter (hasName other) =
      items.filter (hasName other) := by
  have refuses (value : Value) (named : value.hasName name = true) :
      value.hasName other = false := by
    by_contra both
    exact different (hasName_unique named (by simpa using both))
  induction items with
  | nil => rfl
  | cons item items ih =>
    by_cases hit : item.hasName name = true
    · simp only [List.map_cons, hit, if_true, List.filter_cons, refuses new accepted,
        refuses item hit, Bool.false_eq_true, if_false, ih]
    · simp only [List.map_cons, hit, Bool.false_eq_true, if_false, List.filter_cons, ih]

/-- Document steps are a lawful access. -/
def access : Access Step Value where
  get := getStep
  put := putStep
  get_put {step new whole result} written := by
    cases step with
    | key key =>
      cases whole with
      | dict entries =>
        simp only [putStep, Option.ite_none_right_eq_some, Option.some.injEq] at written
        obtain ⟨_, rfl⟩ := written
        exact Entries.lookup_assign entries (.str key) new
      | scalar | list => cases written
    | named name =>
      cases whole with
      | list items =>
        simp only [putStep, Option.ite_none_right_eq_some, Option.some.injEq] at written
        obtain ⟨⟨accepted, single⟩, rfl⟩ := written
        obtain ⟨item, only, _⟩ := filter_length_one single
        simp only [getStep, filter_replace items accepted, only, List.map_cons, List.map_nil]
      | scalar | dict => cases written
  get_put_ne {step other new whole result} different written := by
    cases step with
    | key key =>
      cases whole with
      | dict entries =>
        simp only [putStep, Option.ite_none_right_eq_some, Option.some.injEq] at written
        obtain ⟨_, rfl⟩ := written
        cases other with
        | key second =>
          refine Entries.lookup_assign_ne entries new ?_
          intro same
          exact different (congrArg Step.key (by simpa [Scalar.canonical] using same))
        | named => rfl
      | scalar | list => cases written
    | named name =>
      cases whole with
      | list items =>
        simp only [putStep, Option.ite_none_right_eq_some, Option.some.injEq] at written
        obtain ⟨⟨accepted, _⟩, rfl⟩ := written
        cases other with
        | key => rfl
        | named second =>
          have names : name ≠ second := fun same => different (congrArg Step.named same)
          simp only [getStep, filter_replace_ne items accepted names]
      | scalar | dict => cases written
  get_of_put {step new whole result} written := by
    cases step with
    | key key =>
      cases whole with
      | dict entries =>
        simp only [putStep, Option.ite_none_right_eq_some] at written
        exact Option.isSome_iff_exists.mp written.1
      | scalar | list => cases written
    | named name =>
      cases whole with
      | list items =>
        simp only [putStep, Option.ite_none_right_eq_some] at written
        obtain ⟨item, only, _⟩ := filter_length_one written.1.2
        exact ⟨item, by simp only [getStep, only]⟩
      | scalar | dict => cases written

/-- The comparison that containers make on optional parts. -/
abbrev Agree : Option Value → Option Value → Prop := Option.Rel fun one two => one.same two = true

theorem hasName_same {left right : Value} (alike : left.same right = true) (name : String) :
    left.hasName name = right.hasName name := by
  cases left with
  | dict left =>
    cases right with
    | dict right =>
      have named := same_lookup alike (.str "name")
      rw [Bool.eq_iff_iff, hasName_iff, hasName_iff]
      simp only [dict.injEq, exists_eq_left']
      constructor
      · intro found
        rw [found] at named
        cases stored : Entries.lookup (.str "name") right with
        | none =>
          rw [stored] at named
          cases named
        | some value =>
          rw [stored] at named
          cases named with
          | some equal => rw [same_str.mp equal]
      · intro found
        rw [found] at named
        cases stored : Entries.lookup (.str "name") left with
        | none =>
          rw [stored] at named
          cases named
        | some value =>
          rw [stored] at named
          cases named with
          | some equal => rw [same_str_right.mp equal]
    | scalar | list => simp [same] at alike
  | scalar left =>
    cases right with
    | scalar right => rfl
    | list | dict => simp [same] at alike
  | list left =>
    cases right with
    | list right => rfl
    | scalar | dict => simp [same] at alike

theorem filter_same {left right : List Value} (name : String)
    (alike : List.Forall₂ (fun one two => one.same two = true) left right) :
    List.Forall₂ (fun one two => one.same two = true) (left.filter (hasName name))
      (right.filter (hasName name)) := by
  induction alike with
  | nil => exact .nil
  | @cons one two left right equal _ ih =>
    have both := hasName_same equal name
    by_cases hit : one.hasName name = true
    · rw [List.filter_cons_of_pos hit, List.filter_cons_of_pos (both ▸ hit)]
      exact .cons equal ih
    · rw [List.filter_cons_of_neg hit, List.filter_cons_of_neg (both ▸ hit)]
      exact ih

theorem getStep_same {left right : Value} (alike : left.same right = true) (step : Step) :
    Agree (getStep step left) (getStep step right) := by
  cases left with
  | dict left =>
    cases right with
    | dict right =>
      cases step with
      | key key => exact same_lookup alike (.str key)
      | named name => exact .none
    | scalar | list => simp [same] at alike
  | scalar left =>
    cases right with
    | scalar right => cases step <;> exact .none
    | list | dict => simp [same] at alike
  | list left =>
    cases right with
    | list right =>
      cases step with
      | key key => exact .none
      | named name =>
        have matching := filter_same name (sameItems_iff.mp (by simpa only [same] using alike))
        simp only [getStep]
        generalize left.filter (hasName name) = lefts at matching ⊢
        generalize right.filter (hasName name) = rights at matching ⊢
        cases matching with
        | nil => exact .none
        | cons equal rest =>
          cases rest with
          | nil => exact .some equal
          | cons => exact .none
    | scalar | dict => simp [same] at alike

theorem read_same {left right : Value} (alike : left.same right = true) (path : List Step) :
    Agree (access.read path left) (access.read path right) := by
  induction path generalizing left right with
  | nil => exact .some alike
  | cons step path ih =>
    have first := getStep_same alike step
    simp only [Access.read, access]
    cases one : getStep step left with
    | none =>
      rw [one] at first
      cases two : getStep step right with
      | none => exact .none
      | some part =>
        rw [two] at first
        cases first
    | some part =>
      rw [one] at first
      cases two : getStep step right with
      | none =>
        rw [two] at first
        cases first
      | some other =>
        rw [two] at first
        cases first with
        | some equal => exact ih equal

end Value

end K8sOps.Python
