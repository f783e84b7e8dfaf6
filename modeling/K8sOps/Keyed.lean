import Mathlib.Data.List.Sort
import Mathlib.Algebra.BigOperators.Group.List.Basic
import Mathlib.Algebra.Order.Group.Nat
import Mathlib.Algebra.GroupWithZero.Nat
import K8sOps.Results

/-! Lists whose items are told apart by a key: sorting by the key does not depend on the
order, and counters of the same keys are compared key by key through their sums. -/
namespace K8sOps
variable {α β γ δ κ : Type}

theorem insertionSort_perm [LinearOrder κ] (key : α → κ) {left right : List α}
    (permuted : left.Perm right)
    (distinct : ∀ one ∈ left, ∀ other ∈ left, key one = key other → one = other) :
    left.insertionSort (key · ≤ key ·) = right.insertionSort (key · ≤ key ·) := by
  have total : Std.Total fun one other : α => key one ≤ key other := ⟨fun one other => le_total _ _⟩
  have trans : IsTrans α fun one other : α => key one ≤ key other := ⟨fun one two three => le_trans⟩
  have sorted (items : List α) := items.pairwise_insertionSort fun one other => key one ≤ key other
  have leftPerm := left.perm_insertionSort fun one other => key one ≤ key other
  have rightPerm := right.perm_insertionSort fun one other => key one ≤ key other
  refine List.Perm.eq_of_pairwise (fun one other oneMember otherMember less more => ?_)
    (sorted left) (sorted right) (leftPerm.trans (permuted.trans rightPerm.symm))
  exact distinct one (leftPerm.mem_iff.mp oneMember) other
    (permuted.mem_iff.mpr (rightPerm.mem_iff.mp otherMember)) (le_antisymm less more)

theorem find?_key_iff [BEq κ] [LawfulBEq κ] {key : α → κ} {items : List α}
    (distinct : (items.map key).Nodup) :
    items.find? (fun item => key item == wanted) = some found ↔
    found ∈ items ∧ key found = wanted := by
  constructor
  · intro hit
    have isWanted := List.find?_some hit
    exact ⟨List.mem_of_find?_eq_some hit, eq_of_beq isWanted⟩
  · rintro ⟨member, rfl⟩
    cases hit : items.find? fun item => key item == key found with
    | none => exact absurd (beq_self_eq_true (key found)) (List.find?_eq_none.mp hit found member)
    | some other =>
      have same : key other = key found := eq_of_beq (List.find?_some hit :)
      exact congrArg some (List.inj_on_of_nodup_map distinct
        (List.mem_of_find?_eq_some hit) member same)

theorem find?_perm [BEq κ] [LawfulBEq κ] {key : α → κ} {left right : List α}
    (perm : left.Perm right) (distinct : (left.map key).Nodup) (wanted : κ) :
    left.find? (fun item => key item == wanted) = right.find? (fun item => key item == wanted) := by
  refine Option.ext fun found => ?_
  rw [find?_key_iff distinct, find?_key_iff ((perm.map key).nodup_iff.mp distinct), perm.mem_iff]

theorem rel_bind {related : α → β → Prop} {results : γ → δ → Prop} {one : Option α} {two : Option β}
    {f : α → Option γ} {g : β → Option δ} (first : Option.Rel related one two)
    (next : ∀ x y, related x y → Option.Rel results (f x) (g y)) :
    Option.Rel results (one >>= f) (two >>= g) := by
  cases first with
  | none => exact .none
  | some holds => exact next _ _ holds

theorem rel_orElse {relation : α → β → Prop} {one two : Option α} {left right : Option β}
    (first : Option.Rel relation one left) (second : Option.Rel relation two right) :
    Option.Rel relation (one <|> two) (left <|> right) := by
  cases first with
  | none => exact second
  | some related => exact .some related

theorem getD_perm {one two : Option (List α)} (related : Option.Rel List.Perm one two) :
    (one.getD []).Perm (two.getD []) := by
  cases related with
  | none => exact .refl []
  | some perm => exact perm

theorem isEmpty_perm {left right : List α} (perm : left.Perm right) :
    left.isEmpty = right.isEmpty := by
  rw [Bool.eq_iff_iff, List.isEmpty_iff, List.isEmpty_iff, ← List.length_eq_zero_iff,
    perm.length_eq, List.length_eq_zero_iff]

theorem map_perm {one two : Option (List α)} {f : List α → β}
    (related : Option.Rel List.Perm one two)
    (same : ∀ left right : List α, left.Perm right → f left = f right) : one.map f = two.map f := by
  cases related with
  | none => rfl
  | some perm => exact congrArg some (same _ _ perm)

theorem rel_refl (action : Option α) : Option.Rel Eq action action := by
  cases action with
  | none => exact .none
  | some value => exact .some rfl

theorem rel_perm_trans {one two three : Option (List α)} (first : Option.Rel List.Perm one two)
    (second : Option.Rel List.Perm two three) : Option.Rel List.Perm one three := by
  cases first with
  | none => exact second
  | some perm =>
    cases second with
    | some later => exact .some (perm.trans later)

/-- A step for each item, some of which fail, does not depend on the order up to the order of the
results. -/
theorem mapM_perm {f : α → Option β} {left right : List α} (perm : left.Perm right) :
    Option.Rel List.Perm (left.mapM f) (right.mapM f) := by
  induction perm with
  | nil => exact .some .nil
  | cons item _ ih =>
    rw [List.mapM_cons, List.mapM_cons]
    refine rel_bind (rel_refl _) ?_
    rintro value _ rfl
    exact rel_bind ih fun _ _ perm => .some (perm.cons value)
  | swap one two items =>
    simp only [List.mapM_cons]
    cases f one with
    | none => cases f two <;> exact .none
    | some value =>
      cases f two with
      | none => exact .none
      | some other =>
        cases items.mapM f with
        | none => exact .none
        | some values => exact .some (.swap value other values)
  | trans _ _ first second => exact rel_perm_trans first second

section classes
variable {le : α → α → Prop} [DecidableRel le]

theorem filter_orderedInsert (item first : α) (items : List α)
    (trans : ∀ one two three, le one two → le two three → le one three) :
    (items.orderedInsert le first).filter (fun other => le item other ∧ le other item) =
      (first :: items).filter fun other => le item other ∧ le other item := by
  induction items with
  | nil => rfl
  | cons second items ih =>
    rw [List.orderedInsert]
    split
    · rfl
    next after =>
      by_cases same : le item second ∧ le second item
      · have apart : ¬ (le item first ∧ le first item) :=
          fun both => after (trans _ _ _ both.2 same.1)
        rw [List.filter_cons_of_pos (by simpa using same), ih,
          List.filter_cons_of_neg (by simpa using apart),
          List.filter_cons_of_neg (by simpa using apart),
          List.filter_cons_of_pos (by simpa using same)]
      · have skipped (rest : List α) :
            (second :: rest).filter (fun other => le item other ∧ le other item) =
            rest.filter fun other => le item other ∧ le other item :=
              List.filter_cons_of_neg (by simpa using same)
        rw [skipped, ih, List.filter_cons, List.filter_cons, skipped]

theorem filter_insertionSort (item : α) (items : List α)
    (trans : ∀ one two three, le one two → le two three → le one three) :
    (items.insertionSort le).filter (fun other => le item other ∧ le other item) =
      items.filter fun other => le item other ∧ le other item := by
  induction items with
  | nil => rfl
  | cons first items ih =>
    rw [List.insertionSort_cons, filter_orderedInsert _ _ _ trans, List.filter_cons,
      List.filter_cons, ih]

theorem eq_of_classes {left right : List α} (refl : ∀ item, le item item)
    (leftSorted : left.Pairwise le) (rightSorted : right.Pairwise le)
    (classes : ∀ item, left.filter (fun other => le item other ∧ le other item) =
      right.filter fun other => le item other ∧ le other item) : left = right := by
  induction left generalizing right with
  | nil =>
    cases right with
    | nil => rfl
    | cons second right =>
      have none := classes second
      simp [refl] at none
  | cons first left ih =>
    have own (rest : List α) (item : α) :
        (item :: rest).filter (fun other => le item other ∧ le other item) =
        item :: rest.filter fun other => le item other ∧ le other item :=
      List.filter_cons_of_pos (by simpa using refl item)
    cases right with
    | nil =>
      have none := classes first
      simp [refl] at none
    | cons second right =>
      have among : first ∈ second :: right := by
        have member : first ∈ (first :: left).filter fun other => le first other ∧
            le other first := by simp [refl]
        rw [classes first] at member
        exact (List.mem_filter.mp member).1
      have back : second ∈ first :: left := by
        have member : second ∈ (second :: right).filter fun other => le second other ∧
            le other second := by simp [refl]
        rw [← classes second] at member
        exact (List.mem_filter.mp member).1
      have below : le second first := by
        obtain rfl | later := List.mem_cons.mp among
        · exact refl _
        · exact List.rel_of_pairwise_cons rightSorted later
      have above : le first second := by
        obtain rfl | later := List.mem_cons.mp back
        · exact refl _
        · exact List.rel_of_pairwise_cons leftSorted later
      have heads := classes first
      rw [own, List.filter_cons_of_pos (by simpa using And.intro above below)] at heads
      obtain ⟨rfl, _⟩ := List.cons.inj heads
      rw [ih leftSorted.of_cons rightSorted.of_cons]
      intro item
      have same := classes item
      rw [List.filter_cons, List.filter_cons] at same
      split at same
      · exact (List.cons.inj same).2
      · exact same

/-- A stable sort depends only on the order within each class of equal items. -/
theorem insertionSort_eq_of_classes {left right : List α}
    (total : ∀ one other, le one other ∨ le other one)
    (trans : ∀ one two three, le one two → le two three → le one three)
    (classes : ∀ item, left.filter (fun other => le item other ∧ le other item) =
      right.filter fun other => le item other ∧ le other item) :
    left.insertionSort le = right.insertionSort le := by
  have isTotal : Std.Total le := ⟨total⟩
  have isTrans : IsTrans α le := ⟨trans⟩
  refine eq_of_classes (fun item => (total item item).elim id id) (List.pairwise_insertionSort _ _)
    (List.pairwise_insertionSort _ _) ?_
  intro item
  rw [filter_insertionSort _ _ trans, filter_insertionSort _ _ trans, classes]

end classes

theorem filter_key_eq_singleton [DecidableEq κ] {key : α → κ} {items : List α}
    (distinct : (items.map key).Nodup) (member : wanted ∈ items.map key) :
    ∃ item, items.filter (key · = wanted) = [item] := by
  induction items with
  | nil => cases member
  | cons first items ih =>
    rw [List.map_cons, List.nodup_cons] at distinct
    by_cases here : key first = wanted
    · refine ⟨first, ?_⟩
      rw [List.filter_cons_of_pos (by simpa using here), List.filter_eq_nil_iff.mpr]
      intro item among same
      refine distinct.1 ?_
      rw [here, ← of_decide_eq_true same]
      exact List.mem_map_of_mem among
    · rw [List.filter_cons_of_neg (by simpa using here)]
      exact ih distinct.2 ((List.mem_cons.mp member).resolve_left (Ne.symm here))

theorem exists_aligned {key : α → κ} {other : β → κ} {left : List α} {right : List β}
    (keys : (left.map key).Perm (right.map other)) :
    ∃ aligned : List β, aligned.Perm right ∧
      List.Forall₂ (fun one two => key one = other two) left aligned := by
  induction left generalizing right with
  | nil => exact ⟨[], by simp [List.map_eq_nil_iff.mp (List.nil_perm.mp keys)], .nil⟩
  | cons first left ih =>
    obtain ⟨partner, among, same⟩ := List.mem_map.mp (keys.mem_iff.mp List.mem_cons_self)
    obtain ⟨before, after, rfl⟩ := List.mem_iff_append.mp among
    have front : (before ++ partner :: after).Perm (partner :: (before ++ after)) :=
      List.perm_middle
    have rest : (left.map key).Perm ((before ++ after).map other) := by
      have both := keys.trans (front.map other)
      rw [List.map_cons, List.map_cons, same] at both
      exact both.cons_inv
    obtain ⟨aligned, permuted, pairs⟩ := ih rest
    exact ⟨partner :: aligned, (permuted.cons partner).trans front.symm, .cons same.symm pairs⟩

section sums
variable {count : α → Nat} {more : β → Nat} {left : List α} {right : List β} {paired : α → β → Prop}

theorem sum_le_of_pairs
    (pairs : List.Forall₂ (fun one two => paired one two ∧ count one ≤ more two) left right) :
    (left.map count).sum ≤ (right.map more).sum := by
  induction pairs with
  | nil => exact Nat.le_refl 0
  | cons first _ ih =>
    rw [List.map_cons, List.map_cons, List.sum_cons, List.sum_cons]
    exact Nat.add_le_add first.2 ih

/-- Counters that only grew have the same sum exactly if none of them grew. -/
theorem sum_eq_iff_of_pairs
    (pairs : List.Forall₂ (fun one two => paired one two ∧ count one ≤ more two) left right) :
    (left.map count).sum = (right.map more).sum ↔
      List.Forall₂ (fun one two => paired one two ∧ count one = more two) left right := by
  induction pairs with
  | nil => simp
  | cons first later ih =>
    have rest := sum_le_of_pairs later
    rw [List.map_cons, List.map_cons, List.sum_cons, List.sum_cons, List.forall₂_cons, ← ih]
    constructor
    · intro sums
      exact ⟨⟨first.1, by omega⟩, by omega⟩
    · rintro ⟨⟨_, same⟩, sums⟩
      rw [same, sums]

end sums

theorem keyed_sum_eq_iff (count : α → Nat) {key : α → κ} {left right : List α}
    (keys : (left.map key).Perm (right.map key)) (distinct : (left.map key).Nodup)
    (grows : ∀ one ∈ left, ∀ other ∈ right, key one = key other → count one ≤ count other) :
    (left.map count).sum = (right.map count).sum ↔
      ∀ one ∈ left, ∀ other ∈ right, key one = key other → count one = count other := by
  obtain ⟨aligned, permuted, pairs⟩ := exists_aligned keys
  have members : List.Forall₂ (fun one other => one ∈ left ∧ other ∈ right ∧ key one = key other)
      left aligned := by
    refine List.forall₂_iff_get.mpr ⟨pairs.length_eq, fun index inLeft inAligned => ?_⟩
    exact ⟨List.get_mem _ _, permuted.mem_iff.mp (List.get_mem _ _), pairs.get inLeft inAligned⟩
  have grown : List.Forall₂ (fun one other => (one ∈ left ∧ other ∈ right ∧ key one = key other) ∧
      count one ≤ count other) left aligned :=
    members.imp fun one other member => ⟨member, grows one member.1 other member.2.1 member.2.2⟩
  rw [← (permuted.map count).sum_eq, sum_eq_iff_of_pairs grown]
  constructor
  · intro equal one among other listed same
    obtain ⟨partner, _, ⟨_, alsoListed, partnerKey⟩, counted⟩ := forall₂_mem_left equal among
    rw [List.inj_on_of_nodup_map (keys.nodup_iff.mp distinct) listed alsoListed
      (same.symm.trans partnerKey)]
    exact counted
  · intro each
    exact members.imp fun one other member =>
      ⟨member, each one member.1 other member.2.1 member.2.2⟩

end K8sOps
