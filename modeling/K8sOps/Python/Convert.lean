import K8sOps.Python.Text
import K8sOps.Python.Value

/-! Reading documents whose shape is not trusted: lookups that default, and the
conversions to text, numbers and times that accept a value or report nothing. -/
namespace K8sOps.Python

/-- `bool(value)`. -/
def truthy : Value → Bool
  | .scalar .none => false
  | .scalar (.bool value) => value
  | .scalar (.int value) => value ≠ 0
  | .scalar (.float (.finite value)) => value ≠ 0
  | .scalar (.float .negativeZero) => false
  | .scalar (.float _) => true
  | .scalar (.str text) => text ≠ ""
  | .scalar (.other _ content) => content ≠ ""
  | .list items => !items.isEmpty
  | .dict entries => !entries.isEmpty

/-- `value is True`. -/
def isTrue : Value → Bool
  | .scalar (.bool value) => value
  | _ => false

/-- `mapping`: a value that is not a mapping counts as an empty one. -/
def asMapping : Value → Entries
  | .dict entries => entries
  | _ => []

/-- The value if it is a mapping. -/
def dict? : Value → Option Entries
  | .dict entries => some entries
  | _ => none

def list? : Value → Option (List Value)
  | .list items => some items
  | _ => none

def getKey (key : String) (entries : Entries) : Option Value := Entries.lookup (.str key) entries

theorem dict?_eq_some {value : Value} : dict? value = some entries ↔ value = .dict entries := by
  cases value <;> simp [dict?]

theorem list?_eq_some {value : Value} : list? value = some items ↔ value = .list items := by
  cases value <;> simp [list?]

theorem getKey_assign_ne {key other : String} (different : key ≠ other) (value : Value)
    (entries : Entries) :
    getKey key (Entries.assign (.str other) value entries) = getKey key entries :=
  Entries.lookup_assign_ne entries value (by simpa [Scalar.canonical] using different.symm)

/-- `entries.get(key)`. -/
def getOrNone (key : String) (entries : Entries) :
    Value := (getKey key entries).getD (.scalar .none)

/-- `mapping(entries.get(key))`. -/
def getMapping (key : String) (entries : Entries) : Entries := asMapping (getOrNone key entries)

/-- `text`: `value.strip()` for a string and the empty text for everything else. -/
def asText : Value → String
  | .scalar (.str value) => strip value
  | _ => ""

def getText (key : String) (entries : Entries) : String := asText (getOrNone key entries)

/-- The conversions of the standard library. A moment is the number of
microseconds since the epoch in UTC; `none` is the exception that callers catch. -/
structure Codec where
  casefold : String → String
  /-- The database's `lower`. -/
  lower : String → String
  parseInt : String → Option Int
  parseFloat : String → Option Rat
  /-- The float nearest to an exact result. -/
  rounded : Rat → Rat
  /-- `datetime.fromisoformat` in UTC, a trailing `Z` allowed. -/
  fromIsoformat : String → Option Int
  isoformat : Int → String
  fromTimestamp : Rat → Option Int

namespace Codec
variable (codec : Codec)

/-- `float(value)` when it is finite. A bool is not a number here. -/
def finiteFloat : Value → Option Rat
  | .scalar (.int value) => some (codec.rounded value)
  | .scalar (.float (.finite value)) => some value
  | .scalar (.float .negativeZero) => some 0
  | .scalar (.str value) => codec.parseFloat value
  | _ => none

/-- `int(value)`, which drops the fraction of a float. The documents are JSON
columns of the database, so no number in them is infinite. -/
def toInt : Value → Option Int
  | .scalar (.int value) => some value
  | .scalar (.float (.finite value)) => some (value.num.tdiv value.den)
  | .scalar (.float .negativeZero) => some 0
  | .scalar (.str value) => codec.parseInt value
  | _ => none

def nonnegativeInt (value : Value) : Option Nat :=
  (codec.toInt value).bind Int.toNat?

def parseDatetime : Value → Option Int
  | .scalar (.str value) => if strip value = "" then none else codec.fromIsoformat value
  | _ => none

end Codec

namespace Dict
variable [DecidableEq κ]
variable {entries : List (κ × β)}

/-- Dictionary assignment: a known key keeps its place and gets the new value. -/
def assign (key : κ) (value : β) : List (κ × β) → List (κ × β)
  | [] => [(key, value)]
  | (found, old) :: rest =>
    if found = key then (found, value) :: rest else (found, old) :: assign key value rest

/-- A dictionary display: the last value of a repeated key wins. -/
def ofPairs (pairs : List (κ × β)) : List (κ × β) :=
  pairs.foldl (fun entries pair => assign pair.1 pair.2 entries) []

theorem mem_assign :
    other ∈ (assign key value entries).map Prod.fst ↔
    other = key ∨ other ∈ entries.map Prod.fst := by
  induction entries with
  | nil => simp [assign]
  | cons entry entries ih =>
    unfold assign
    split
    next same =>
      subst same
      simp
    next =>
      simp only [List.map_cons, List.mem_cons, ih]
      tauto

theorem assign_nodup (distinct : (entries.map Prod.fst).Nodup) :
    ((assign key value entries).map Prod.fst).Nodup := by
  induction entries with
  | nil => simp [assign]
  | cons entry entries ih =>
    rw [List.map_cons, List.nodup_cons] at distinct
    unfold assign
    split
    next => exact List.nodup_cons.mpr distinct
    next different =>
      refine List.nodup_cons.mpr ⟨fun member => ?_, ih distinct.2⟩
      obtain same | member := mem_assign.mp member
      · exact different same
      · exact distinct.1 member

theorem mem_of_mem_assign (member : entry ∈ assign key value entries) :
    entry = (key, value) ∨ entry ∈ entries := by
  induction entries with
  | nil => exact .inl (List.mem_singleton.mp member)
  | cons first entries ih =>
    unfold assign at member
    split at member
    next same =>
      obtain rfl | later := List.mem_cons.mp member
      · exact .inl (by rw [same])
      · exact .inr (List.mem_cons_of_mem _ later)
    next =>
      obtain rfl | later := List.mem_cons.mp member
      · exact .inr List.mem_cons_self
      · exact (ih later).imp_right (List.mem_cons_of_mem _)

theorem mem_of_mem_ofPairs {pairs : List (κ × β)}
    (member : entry ∈ ofPairs pairs) : entry ∈ pairs := by
  induction pairs using List.reverseRecOn with
  | nil => exact member
  | append_singleton pairs last ih =>
    unfold ofPairs at member
    rw [List.foldl_concat] at member
    obtain rfl | earlier := mem_of_mem_assign member
    · exact List.mem_append_right _ List.mem_cons_self
    · exact List.mem_append_left _ (ih earlier)

theorem mem_keys_ofPairs {pairs : List (κ × β)} :
    key ∈ (ofPairs pairs).map Prod.fst ↔ key ∈ pairs.map Prod.fst := by
  induction pairs using List.reverseRecOn with
  | nil => rfl
  | append_singleton pairs last ih =>
    unfold ofPairs at ih ⊢
    rw [List.foldl_concat, mem_assign, ih, List.map_append, List.mem_append, or_comm]
    simp

theorem assign_new (absent : key ∉ entries.map Prod.fst) :
    assign key value entries = entries ++ [(key, value)] := by
  induction entries with
  | nil => rfl
  | cons first entries ih =>
    rw [List.map_cons, List.mem_cons, not_or] at absent
    unfold assign
    rw [if_neg (Ne.symm absent.1), ih absent.2]
    rfl

theorem ofPairs_eq_self {pairs : List (κ × β)} (distinct : (pairs.map Prod.fst).Nodup) :
    ofPairs pairs = pairs := by
  induction pairs using List.reverseRecOn with
  | nil => rfl
  | append_singleton pairs last ih =>
    rw [List.map_append, List.nodup_append] at distinct
    have absent : last.1 ∉ pairs.map Prod.fst :=
      fun member => distinct.2.2 _ member _ List.mem_cons_self rfl
    have before := ih distinct.1
    unfold ofPairs at before ⊢
    rw [List.foldl_concat, before, assign_new absent]

theorem mem_keys_iff :
    key ∈ entries.map Prod.fst ↔ (entries.lookup key).isSome = true := by
  rw [List.lookup_isSome_iff]
  simp only [List.mem_map, beq_iff_eq]
  exact exists_congr fun entry => and_congr_right fun _ => eq_comm

theorem lookup_of_mem (distinct : (entries.map Prod.fst).Nodup)
    (member : (key, value) ∈ entries) : entries.lookup key = some value := by
  induction entries with
  | nil => cases member
  | cons first entries ih =>
    rw [List.map_cons, List.nodup_cons] at distinct
    obtain rfl | later := List.mem_cons.mp member
    · exact List.lookup_cons_self
    · have other : key ≠ first.1 := by
        rintro rfl
        exact distinct.1 (List.mem_map.mpr ⟨_, later, rfl⟩)
      rw [List.lookup_cons, beq_eq_false_iff_ne.mpr other]
      exact ih distinct.2 later

theorem lookup_assign (key other : κ) (value : β) (entries : List (κ × β)) :
    (assign key value entries).lookup other = if other = key then some value
  else entries.lookup other := by
  induction entries with
  | nil =>
    by_cases same : other = key
    · simp [assign, same]
    · simp [assign, same, List.lookup_cons, beq_eq_false_iff_ne.mpr same]
  | cons entry entries ih =>
    obtain ⟨found, old⟩ := entry
    unfold assign
    split
    next same =>
      subst same
      by_cases hit : other = found
      · simp [hit]
      · simp [hit, List.lookup_cons, beq_eq_false_iff_ne.mpr hit]
    next different =>
      by_cases hit : other = found
      · subst hit
        simp [different]
      · simp [List.lookup_cons, beq_eq_false_iff_ne.mpr hit, ih]

/-- Read from the back, a display keeps the first value of each key. -/
theorem lookup_ofPairs_reverse (pairs : List (κ × β)) (key : κ) :
    (ofPairs pairs.reverse).lookup key = pairs.lookup key := by
  induction pairs with
  | nil => rfl
  | cons pair pairs ih =>
    have last : ofPairs (pair :: pairs).reverse = assign pair.1 pair.2 (ofPairs pairs.reverse) := by
      unfold ofPairs
      rw [List.reverse_cons, List.foldl_concat]
    rw [last, lookup_assign, ih, List.lookup_cons]
    by_cases same : key = pair.1
    · simp [same]
    · simp [same, beq_eq_false_iff_ne.mpr same]

theorem ofPairs_nodup (pairs : List (κ × β)) : ((ofPairs pairs).map Prod.fst).Nodup := by
  induction pairs using List.reverseRecOn with
  | nil => exact List.nodup_nil
  | append_singleton pairs last ih =>
    unfold ofPairs at ih ⊢
    rw [List.foldl_concat]
    exact assign_nodup ih

theorem lookup_map_key (items : List β) (keyOf : β → κ) (key : κ) :
    (items.map fun item => (keyOf item, item)).lookup key = items.find? fun item =>
      keyOf item == key := by
  induction items with
  | nil => rfl
  | cons item items ih =>
    rw [List.map_cons, List.lookup_cons, List.find?_cons, ih, Bool.beq_comm]

theorem lookup_filter (keep : κ → Bool) (entries : List (κ × β)) (key : κ) :
    (entries.filter fun entry => keep entry.1).lookup key = if keep key then entries.lookup key
  else none := by
  induction entries with
  | nil => simp
  | cons entry entries ih =>
    obtain ⟨found, value⟩ := entry
    by_cases same : key = found
    · subst same
      by_cases kept : keep key = true
      · simp [kept]
      · simp [kept, ih]
    · have miss : (key == found) = false := beq_eq_false_iff_ne.mpr same
      by_cases kept : keep found = true
      · simp [kept, List.lookup_cons, miss, ih]
      · simp [kept, List.lookup_cons, miss, ih]

end Dict

/-- Equality of the sets of members. -/
def sameMembers [DecidableEq α] (left right : List α) : Bool :=
  left.all (· ∈ right) && right.all (· ∈ left)

theorem sameMembers_iff [DecidableEq α] {left right : List α} :
    sameMembers left right = true ↔ ∀ item, item ∈ left ↔ item ∈ right := by
  unfold sameMembers
  simp only [Bool.and_eq_true, List.all_eq_true, decide_eq_true_eq]
  exact ⟨fun both item => ⟨both.1 item, both.2 item⟩,
    fun same => ⟨fun item => (same item).mp, fun item => (same item).mpr⟩⟩

end K8sOps.Python
