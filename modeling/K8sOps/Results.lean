import Mathlib.Data.List.Forall2

/-! Fallible computations: what a success of a sequence of steps, or of one step for each item
of a list, says about the steps. -/
namespace K8sOps

theorem bind_eq_ok {action : Except ε α} {next : α → Except ε β} :
    action >>= next = .ok result ↔ ∃ value, action = .ok value ∧ next value = .ok result := by
  cases action <;> simp [bind, Except.bind]

theorem toOption_ok {action : Except ε α} (value : action.toOption = some result) :
    action = .ok result := by
  cases action with
  | error => cases value
  | ok found => exact congrArg Except.ok (Option.some.inj value)

theorem mapM_eq_some {f : α → Option β} {items : List α} :
    items.mapM f = some results ↔
    List.Forall₂ (fun item result => f item = some result) items results := by
  induction items generalizing results with
  | nil => cases results <;> simp
  | cons item items ih =>
    rw [List.mapM_cons]
    cases results with
    | nil => cases f item <;> cases items.mapM f <;> simp
    | cons result results =>
      rw [List.forall₂_cons, ← ih]
      cases f item <;> cases items.mapM f <;> simp

theorem mapM_ok_iff {items : List α} {f : α → Except ε β} {results : List β} :
    items.mapM f = .ok results ↔
    List.Forall₂ (fun item result => f item = .ok result) items results := by
  induction items generalizing results with
  | nil => cases results <;> simp [pure, Except.pure]
  | cons item items ih =>
    rw [List.mapM_cons]
    constructor
    · intro done
      obtain ⟨first, found, done⟩ := bind_eq_ok.mp done
      obtain ⟨rest, mapped, done⟩ := bind_eq_ok.mp done
      cases done
      exact .cons found (ih.mp mapped)
    · rintro (_ | ⟨found, mapped⟩)
      exact bind_eq_ok.mpr ⟨_, found, bind_eq_ok.mpr ⟨_, ih.mpr mapped, rfl⟩⟩

theorem mapM_eq_map {f : α → Except ε β} {value : α → β} {items : List α}
    (each : ∀ item ∈ items, f item = .ok (value item)) : items.mapM f = .ok (items.map value) := by
  rw [mapM_ok_iff]
  induction items with
  | nil => exact .nil
  | cons item items ih =>
    exact .cons (each item List.mem_cons_self) (ih fun item member =>
      each item (List.mem_cons_of_mem _ member))

theorem forall₂_mem_left {related : α → β → Prop} {left : List α} {right : List β}
    (pairs : List.Forall₂ related left right) (member : item ∈ left) :
    ∃ other ∈ right, related item other := by
  induction pairs with
  | nil => cases member
  | cons first _ ih =>
    rcases List.mem_cons.mp member with rfl | later
    · exact ⟨_, List.mem_cons_self, first⟩
    · obtain ⟨other, among, found⟩ := ih later
      exact ⟨other, List.mem_cons_of_mem _ among, found⟩

theorem mapM_isOk {items : List α} {f : α → Except ε β} :
    (∃ results, items.mapM f = .ok results) ↔ ∀ item ∈ items, ∃ result, f item = .ok result := by
  constructor
  · rintro ⟨results, done⟩ item member
    obtain ⟨result, _, found⟩ := forall₂_mem_left (mapM_ok_iff.mp done) member
    exact ⟨result, found⟩
  · intro each
    induction items with
    | nil => exact ⟨[], rfl⟩
    | cons item items ih =>
      obtain ⟨first, found⟩ := each item List.mem_cons_self
      obtain ⟨rest, mapped⟩ := ih fun item member => each item (List.mem_cons_of_mem _ member)
      exact ⟨first :: rest, mapM_ok_iff.mpr (.cons found (mapM_ok_iff.mp mapped))⟩

theorem forM_ok_iff {items : List α} {check : α → Except ε Unit} :
    items.forM check = .ok () ↔ ∀ item ∈ items, check item = .ok () := by
  induction items with
  | nil => simp [pure, Except.pure]
  | cons first items ih =>
    change check first >>= (fun _ => items.forM check) = .ok () ↔ _
    rw [bind_eq_ok, List.forall_mem_cons]
    constructor
    · rintro ⟨_, here, later⟩
      exact ⟨here, ih.mp later⟩
    · rintro ⟨here, later⟩
      exact ⟨(), here, ih.mpr later⟩

end K8sOps
