import K8sOps.Focus
import Mathlib.Data.List.Forall2
import Mathlib.Data.Rat.Defs

/-! Python values as they come out of a JSON or YAML document, with Python's
equality. Inside containers Python compares by identity first, so `same` treats a
NaN as equal to itself only; at the top level `==` never accepts a NaN. -/
namespace K8sOps.Python

/-- Floats by value. A NaN carries the identity of its object. -/
inductive PyFloat where
  | finite (value : Rat)
  | negativeZero
  | infinity (negative : Bool)
  | nan (object : Nat)
  deriving DecidableEq

/-- `other` stands for the remaining immutable types of a YAML document, such as
dates and bytes, by type name and content. -/
inductive Scalar where
  | none
  | bool (value : Bool)
  | int (value : Int)
  | float (value : PyFloat)
  | str (value : String)
  | other (type content : String)
  deriving DecidableEq

/-- What two scalars must share to be equal: numbers compare across types. -/
inductive Canonical where
  | none
  | number (value : Rat)
  | infinity (negative : Bool)
  | nan (object : Nat)
  | str (value : String)
  | other (type content : String)
  deriving DecidableEq

namespace Scalar

def canonical : Scalar → Canonical
  | .none => .none
  | .bool value => .number (if value then 1 else 0)
  | .int value => .number value
  | .float (.finite value) => .number value
  | .float .negativeZero => .number 0
  | .float (.infinity negative) => .infinity negative
  | .float (.nan object) => .nan object
  | .str value => .str value
  | .other type content => .other type content

/-- Identity or equality, as containers compare their members. -/
def same (left right : Scalar) : Bool := left.canonical == right.canonical

/-- `type(left) is type(right)`. -/
def sameType : Scalar → Scalar → Bool
  | .none, .none | .bool _, .bool _ | .int _, .int _ | .float _, .float _ | .str _, .str _ => true
  | .other left _, .other right _ => left == right
  | _, _ => false

def isNan : Scalar → Bool
  | .float (.nan _) => true
  | _ => false

/-- The operator `==`. -/
def equal (left right : Scalar) : Bool := !left.isNan && left.same right

@[simp] theorem same_iff {left right : Scalar} :
    left.same right = true ↔ left.canonical = right.canonical := beq_iff_eq

theorem equal_symm {left right : Scalar} (equal : left.equal right = true) :
    right.equal left = true := by
  simp only [Scalar.equal, Bool.and_eq_true, same_iff] at equal ⊢
  refine ⟨?_, equal.2.symm⟩
  have finite := equal.1
  cases right with
  | float number =>
    cases number with
    | nan object =>
      have canonical := equal.2
      cases left with
      | float other => cases other <;> simp_all [Scalar.canonical, isNan]
      | _ => cases canonical
    | _ => rfl
  | _ => rfl

theorem canonical_str {scalar : Scalar} : scalar.canonical = .str value ↔ scalar = .str value := by
  constructor
  · intro canonical
    cases scalar with
    | str found =>
      simp only [Scalar.canonical, Canonical.str.injEq] at canonical
      rw [canonical]
    | float number => cases number <;> cases canonical
    | _ => cases canonical
  · rintro rfl
    rfl

end Scalar

inductive Value where
  | scalar (value : Scalar)
  | list (items : List Value)
  | dict (entries : List (Scalar × Value))

/-- Dictionaries in insertion order. -/
abbrev Entries := List (Scalar × Value)

namespace Entries

def lookup (key : Scalar) : Entries → Option Value
  | [] => none
  | (found, value) :: rest => if found.same key then some value else lookup key rest

/-- `entries[key] = value`: an existing key keeps its place and its object. -/
def assign (key : Scalar) (value : Value) : Entries → Entries
  | [] => [(key, value)]
  | (found, old) :: rest =>
    if found.same key then (found, value) :: rest else (found, old) :: assign key value rest

theorem lookup_congr (entries : Entries) {key other : Scalar}
    (same : key.canonical = other.canonical) :
    lookup key entries = lookup other entries := by
  induction entries with
  | nil => rfl
  | cons entry rest ih =>
    have alike : entry.1.same key = entry.1.same other := by simp only [Scalar.same, same]
    simp only [lookup, alike, ih]

theorem lookup_assign (entries : Entries) (key : Scalar) (value : Value) :
    lookup key (assign key value entries) = some value := by
  induction entries with
  | nil => simp [assign, lookup]
  | cons entry rest ih =>
    obtain ⟨found, old⟩ := entry
    by_cases hit : found.same key
    · simp only [assign, hit, if_true, lookup]
    · simp only [assign, hit, lookup, if_false, ih, Bool.false_eq_true]

theorem lookup_assign_ne (entries : Entries) {key other : Scalar} (value : Value)
    (different : key.canonical ≠ other.canonical) :
    lookup other (assign key value entries) = lookup other entries := by
  induction entries with
  | nil => simp [assign, lookup, different]
  | cons entry rest ih =>
    obtain ⟨found, old⟩ := entry
    by_cases hit : found.same key
    · have miss : found.same other = false := by
        simp only [Scalar.same_iff] at hit
        simp [Scalar.same, hit, different]
      simp only [assign, hit, if_true, lookup, miss, Bool.false_eq_true, if_false]
    · simp only [assign, hit, Bool.false_eq_true, if_false, lookup, ih]

theorem mem_assign {entries : Entries} (member : entry ∈ assign key value entries) :
    entry.2 = value ∨ entry ∈ entries := by
  induction entries with
  | nil => exact .inl (congrArg Prod.snd (List.mem_singleton.mp member))
  | cons first rest ih =>
    by_cases hit : first.1.same key = true
    · simp only [assign, hit, if_true, List.mem_cons] at member
      rcases member with rfl | member
      · exact .inl rfl
      · exact .inr (List.mem_cons_of_mem _ member)
    · simp only [assign, hit, Bool.false_eq_true, if_false, List.mem_cons] at member
      rcases member with rfl | member
      · exact .inr List.mem_cons_self
      · exact (ih member).imp_right (List.mem_cons_of_mem _)

theorem lookup_of_mem {entries : Entries} (member : (key, value) ∈ entries) :
    ∃ found, lookup key entries = some found := by
  induction entries with
  | nil => cases member
  | cons entry rest ih =>
    by_cases hit : entry.1.same key
    · exact ⟨entry.2, by simp only [lookup, hit, if_true]⟩
    · obtain rfl | member := List.mem_cons.mp member
      · exact absurd (Scalar.same_iff.mpr rfl) hit
      · obtain ⟨found, later⟩ := ih member
        exact ⟨found, by simpa only [lookup, hit, Bool.false_eq_true, if_false] using later⟩

theorem mem_of_lookup {entries : Entries} (found : lookup key entries = some value) :
    ∃ stored, (stored, value) ∈ entries ∧ stored.canonical = key.canonical := by
  induction entries with
  | nil => cases found
  | cons entry rest ih =>
    obtain ⟨stored, old⟩ := entry
    by_cases hit : stored.same key
    · simp only [lookup, hit, if_true, Option.some.injEq] at found
      subst found
      exact ⟨stored, List.mem_cons_self, Scalar.same_iff.mp hit⟩
    · simp only [lookup, hit, Bool.false_eq_true, if_false] at found
      obtain ⟨key, member, equal⟩ := ih found
      exact ⟨key, List.mem_cons_of_mem _ member, equal⟩

end Entries

namespace Value

mutual
/-- Identity or equality of values, by the structure of the left one. -/
def same : Value → Value → Bool
  | .scalar left, .scalar right => left.same right
  | .list left, .list right => sameItems left right
  | .dict left, .dict right =>
    sameEntries left right && right.all fun entry => (Entries.lookup entry.1 left).isSome
  | _, _ => false
  termination_by structural left => left

def sameItems : List Value → List Value → Bool
  | [], [] => true
  | left :: lefts, right :: rights => same left right && sameItems lefts rights
  | _, _ => false
  termination_by structural left => left

def sameEntries : List (Scalar × Value) → Entries → Bool
  | [], _ => true
  | entry :: entries, right => sameEntry entry right && sameEntries entries right
  termination_by structural left => left

def sameEntry : Scalar × Value → Entries → Bool
  | (key, value), right =>
    match Entries.lookup key right with
    | some other => same value other
    | none => false
  termination_by structural left => left
end

/-- The operator `==`. -/
def equal : Value → Value → Bool
  | .scalar left, .scalar right => left.equal right
  | left, right => same left right

/-- `type(left) is type(right) and left == right`. -/
def sameScalar : Value → Value → Bool
  | .scalar left, .scalar right => left.sameType right && left.equal right
  | left, right => same left right

def isDict : Value → Bool
  | .dict _ => true
  | _ => false

theorem same_of_equal {left right : Value} (equal : left.equal right = true) :
    left.same right = true := by
  cases left with
  | scalar one =>
    cases right with
    | scalar two =>
      simp only [Value.equal, Scalar.equal, Bool.and_eq_true] at equal
      exact equal.2
    | list | dict => exact equal
  | list | dict => exact equal

theorem scalar_of_sameScalar {value : Value} (alike : value.sameScalar (.scalar other) = true) :
    ∃ found, value = .scalar found ∧ found.sameType other = true ∧ found.equal other = true := by
  cases value with
  | scalar found => exact ⟨found, rfl, by simpa only [sameScalar, Bool.and_eq_true] using alike⟩
  | list items => exact Bool.noConfusion alike
  | dict entries => exact Bool.noConfusion alike

theorem sameScalar_str {value : Value} (alike : (scalar (.str text)).sameScalar value = true) :
    value = scalar (.str text) := by
  cases value with
  | scalar other =>
    simp only [sameScalar, Bool.and_eq_true, Scalar.equal, Scalar.same_iff] at alike
    rw [Scalar.canonical_str.mp alike.2.2.symm]
  | list items => exact Bool.noConfusion alike
  | dict entries => exact Bool.noConfusion alike

theorem sameItems_iff {left right : List Value} :
    sameItems left right = true ↔ List.Forall₂ (fun one two => one.same two = true) left right := by
  induction left generalizing right with
  | nil => cases right <;> simp [sameItems]
  | cons one left ih => cases right <;> simp [sameItems, ih]

theorem sameEntry_iff {right : Entries} : sameEntry (key, value) right = true ↔
    ∃ other, Entries.lookup key right = some other ∧ value.same other = true := by
  unfold sameEntry
  cases Entries.lookup key right <;> simp

theorem sameEntries_iff {left right : Entries} : sameEntries left right = true ↔
    ∀ entry ∈ left, sameEntry entry right = true := by
  induction left with
  | nil => simp [sameEntries]
  | cons entry left ih => simp [sameEntries, ih]

theorem same_lookup {left right : Entries} (equal : (dict left).same (dict right) = true)
    (key : Scalar) :
    Option.Rel (fun one two => one.same two = true) (left.lookup key) (right.lookup key) := by
  simp only [same, Bool.and_eq_true, sameEntries_iff, List.all_eq_true] at equal
  obtain ⟨forward, backward⟩ := equal
  cases found : Entries.lookup key left with
  | some value =>
    obtain ⟨stored, member, canonical⟩ := Entries.mem_of_lookup found
    obtain ⟨other, other_found, alike⟩ := sameEntry_iff.mp (forward (stored, value) member)
    rw [← Entries.lookup_congr right canonical, other_found]
    exact .some alike
  | none =>
    cases missing : Entries.lookup key right with
    | none => exact .none
    | some value =>
      obtain ⟨stored, member, canonical⟩ := Entries.mem_of_lookup missing
      have present := backward (stored, value) member
      rw [Entries.lookup_congr left canonical, found] at present
      cases present

theorem same_str {value : Value} :
    (scalar (.str text)).same value = true ↔ value = scalar (.str text) := by
  cases value with
  | scalar other =>
    rw [same, Scalar.same_iff, eq_comm]
    exact Scalar.canonical_str.trans (by simp)
  | list | dict => simp [same]

theorem same_str_right {value : Value} :
    value.same (scalar (.str text)) = true ↔ value = scalar (.str text) := by
  cases value with
  | scalar other =>
    rw [same, Scalar.same_iff]
    exact Scalar.canonical_str.trans (by simp)
  | list | dict => simp [same]

end Value

end K8sOps.Python
