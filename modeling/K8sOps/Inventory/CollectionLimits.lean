import Mathlib.Data.List.MinMax
import Mathlib.Logic.Function.Basic

/-! Limits on the lists of a provider's payload. A list that is cut is recorded, so that
nobody takes what is left for everything there was. -/
namespace K8sOps.Inventory

section groups
variable {α : Type}

/-- Items by group, in the order in which the groups were first seen. -/
abbrev Buckets (α : Type) := List (String × List α)

def addToBucket (key : String) (item : α) : Buckets α → Buckets α
  | [] => [(key, [item])]
  | (found, bucket) :: rest =>
    if found = key then (found, bucket ++ [item]) :: rest
    else (found, bucket) :: addToBucket key item rest

/-- One item of each group while there is room. A group that is used up is dropped. -/
def takeRound : Nat → Buckets α → List α × Buckets α
  | _, [] => ([], [])
  | room, (_, []) :: rest => takeRound room rest
  | room, (key, item :: left) :: rest =>
    if room ≤ 1 then ([item], (key, left) :: rest)
    else
      let later := takeRound (room - 1) rest
      (item :: later.1, if left.isEmpty then later.2 else (key, left) :: later.2)

def weight : Buckets α → Nat
  | [] => 0
  | (_, bucket) :: rest => bucket.length + 1 + weight rest

theorem takeRound_weight_le (room : Nat) (buckets : Buckets α) :
    weight (takeRound room buckets).2 ≤ weight buckets := by
  fun_induction takeRound room buckets with
  | case1 => exact Nat.le_refl _
  | case2 room key rest ih => simp only [weight]; omega
  | case3 room key item left rest few => simp only [weight, List.length_cons]; omega
  | case4 room key item left rest many later ih =>
    change weight later.2 ≤ weight rest at ih
    simp only [weight, List.length_cons]
    split
    · omega
    · simp only [weight]; omega

theorem takeRound_weight_lt {buckets : Buckets α} (nonempty : buckets ≠ []) (room : Nat) :
    weight (takeRound room buckets).2 < weight buckets := by
  rcases buckets with _ | ⟨⟨key, _ | ⟨item, left⟩⟩, rest⟩
  · exact absurd rfl nonempty
  · have later := takeRound_weight_le room rest
    simp only [takeRound, weight, List.length_nil]
    omega
  · have later := takeRound_weight_le (room - 1) rest
    simp only [takeRound]
    split
    · simp only [weight, List.length_cons]; omega
    · simp only [weight, List.length_cons]
      split
      · omega
      · simp only [weight]; omega

theorem takeRound_length {room : Nat} (some : 0 < room) (buckets : Buckets α) :
    (takeRound room buckets).1.length ≤ room := by
  fun_induction takeRound room buckets with
  | case1 => exact Nat.zero_le _
  | case2 room key rest ih => exact ih some
  | case3 room key item left rest few => exact some
  | case4 room key item left rest many later ih =>
    have rest : later.1.length ≤ room - 1 := ih (by omega)
    rw [List.length_cons]
    omega

def takeRounds (room : Nat) (buckets : Buckets α) : List α :=
  if _ended : buckets = [] ∨ room = 0 then []
  else
    let taken := takeRound room buckets
    taken.1 ++ takeRounds (room - taken.1.length) taken.2
termination_by weight buckets
decreasing_by exact takeRound_weight_lt (fun empty => _ended (.inl empty)) room

/-- Items across the groups, so that a large one does not hide the rest. -/
def roundRobinGroups (items : List α) (maxItems : Nat) (groupKey : α → String) : List α :=
  takeRounds maxItems (items.foldl (fun buckets item =>
    addToBucket (groupKey item) item buckets) [])

theorem takeRounds_length (room : Nat) (buckets : Buckets α) :
    (takeRounds room buckets).length ≤ room := by
  fun_induction takeRounds room buckets with
  | case1 => exact Nat.zero_le _
  | case2 room buckets more taken ih =>
    have first := takeRound_length (Nat.pos_of_ne_zero fun empty => more (.inr empty)) buckets
    rw [List.length_append]
    change taken.1.length ≤ room at first
    omega

def limitList (items : List α) (maxItems : Nat) (groupKey : Option (α → String)) : List α :=
  if items.length ≤ maxItems then items
  else match groupKey with
    | none => items.take maxItems
    | some groupKey => roundRobinGroups items maxItems groupKey

theorem limitList_length (items : List α) (maxItems : Nat) (groupKey : Option (α → String)) :
    (limitList items maxItems groupKey).length ≤ maxItems := by
  rw [limitList.eq_def]
  split
  next fits => exact fits
  next =>
    split
    · exact List.length_take_le ..
    · exact takeRounds_length ..

end groups

section payload
variable {κ α : Type} [DecidableEq κ]

/-- A record is only made for a list that was cut. -/
structure CollectionLimit where
  originalCount : Nat
  returnedCount : Nat

/-- The lists of a payload and the records of those that were cut. -/
structure LimitedLists (κ α : Type) where
  lists : κ → List α
  limits : κ → Option CollectionLimit

def originalCountFor (limits : κ → Option CollectionLimit) (key : κ) (fallback : Nat) : Nat :=
  ((limits key).map CollectionLimit.originalCount).getD fallback

/-- Cut one list and keep the count that it had first. -/
def cutList (payload : LimitedLists κ α) (key : κ) (maxItems : Nat)
    (groupKey : Option (α → String)) : LimitedLists κ α :=
  let value := payload.lists key
  let limited := limitList value maxItems groupKey
  { lists := Function.update payload.lists key limited
    limits := Function.update payload.limits key
      (some ⟨originalCountFor payload.limits key value.length, limited.length⟩) }

theorem cutList_self (payload : LimitedLists κ α) (key : κ) (maxItems : Nat)
    (groupKey : Option (α → String)) :
    (cutList payload key maxItems groupKey).lists key =
      limitList (payload.lists key) maxItems groupKey :=
  Function.update_self ..

theorem cutList_ne (payload : LimitedLists κ α) {key other : κ} (different : other ≠ key)
    (maxItems : Nat) (groupKey : Option (α → String)) :
    (cutList payload key maxItems groupKey).lists other = payload.lists other :=
  Function.update_of_ne different ..

def limitPayloadList (key : κ) (maxItems : Nat) (groupKey : Option (α → String))
    (payload : LimitedLists κ α) : LimitedLists κ α :=
  if (payload.lists key).length ≤ maxItems then payload else cutList payload key maxItems groupKey

/-- The first of the largest lists that are not empty. -/
def largestShrinkableList (listSize : List α → Nat) (keys : List κ)
    (lists : κ → List α) : Option κ :=
  (keys.filter fun key => 0 < (lists key).length).argmax fun key => listSize (lists key)

def totalLength (lists : κ → List α) : List κ → Nat
  | [] => 0
  | key :: keys => (lists key).length + totalLength lists keys

omit [DecidableEq κ] in
theorem totalLength_le {lists later : κ → List α}
    (shorter : ∀ key, (later key).length ≤ (lists key).length) (keys : List κ) :
    totalLength later keys ≤ totalLength lists keys := by
  induction keys with
  | nil => exact Nat.le_refl _
  | cons key keys ih => exact Nat.add_le_add (shorter key) ih

omit [DecidableEq κ] in
theorem totalLength_lt {lists later : κ → List α}
    (shorter : ∀ key, (later key).length ≤ (lists key).length) {keys : List κ} {key : κ}
    (member : key ∈ keys) (cut : (later key).length < (lists key).length) :
    totalLength later keys < totalLength lists keys := by
  induction keys with
  | nil => cases member
  | cons first keys ih =>
    rcases List.mem_cons.mp member with rfl | rest
    · exact Nat.add_lt_add_of_lt_of_le cut (totalLength_le shorter keys)
    · exact Nat.add_lt_add_of_le_of_lt (shorter first) (ih rest)

omit [DecidableEq κ] in
theorem largestShrinkableList_spec {listSize : List α → Nat} {keys : List κ}
    {lists : κ → List α} {key : κ} (found : largestShrinkableList listSize keys lists = some key) :
    key ∈ keys ∧ 0 < (lists key).length := by
  simpa only [List.mem_filter, decide_eq_true_eq] using List.argmax_mem found

theorem cutList_shorter (payload : LimitedLists κ α) (key : κ) (groupKey : Option (α → String)) :
    ∀ other, ((cutList payload key ((payload.lists key).length / 2) groupKey).lists other).length ≤
      (payload.lists other).length := by
  intro other
  by_cases same : other = key
  · subst same
    have limited :=
      limitList_length (payload.lists other) ((payload.lists other).length / 2) groupKey
    rw [cutList_self]
    omega
  · rw [cutList_ne payload same]

/-- Halve the largest list until the payload fits or every list is empty. -/
def limitPayloadSize (size : (κ → List α) → Nat) (listSize : List α → Nat) (maxBytes : Nat)
    (keys : List κ) (groupKey : κ → Option (α → String))
    (payload : LimitedLists κ α) : LimitedLists κ α :=
  if size payload.lists ≤ maxBytes then payload
  else match found : largestShrinkableList listSize keys payload.lists with
    | none => payload
    | some key =>
      limitPayloadSize size listSize maxBytes keys groupKey
        (cutList payload key ((payload.lists key).length / 2) (groupKey key))
termination_by totalLength payload.lists keys
decreasing_by
  obtain ⟨member, nonempty⟩ := largestShrinkableList_spec found
  refine totalLength_lt (cutList_shorter payload key (groupKey key)) member ?_
  have limited :=
    limitList_length (payload.lists key) ((payload.lists key).length / 2) (groupKey key)
  rw [cutList_self]
  omega

/-- What is not recorded was not cut. -/
def Recorded (before after : LimitedLists κ α) : Prop :=
  ∀ key, after.limits key = none → before.limits key = none ∧ after.lists key = before.lists key

omit [DecidableEq κ] in
theorem Recorded.refl (payload : LimitedLists κ α) : Recorded payload payload :=
  fun _ none => ⟨none, rfl⟩

omit [DecidableEq κ] in
theorem Recorded.trans {first second third : LimitedLists κ α} (one : Recorded first second)
    (two : Recorded second third) :
    Recorded first third := by
  intro key unrecorded
  obtain ⟨between, same⟩ := two key unrecorded
  obtain ⟨before, earlier⟩ := one key between
  exact ⟨before, same.trans earlier⟩

theorem cutList_recorded (payload : LimitedLists κ α) (key : κ) (maxItems : Nat)
    (groupKey : Option (α → String)) :
    Recorded payload (cutList payload key maxItems groupKey) := by
  intro other unrecorded
  by_cases same : other = key
  · subst same
    cases (Function.update_self ..).symm.trans unrecorded
  · exact ⟨(Function.update_of_ne same ..).symm.trans unrecorded,
      cutList_ne payload same maxItems groupKey⟩

theorem limitPayloadList_recorded (payload : LimitedLists κ α) (key : κ) (maxItems : Nat)
    (groupKey : Option (α → String)) :
    Recorded payload (limitPayloadList key maxItems groupKey payload) := by
  rw [limitPayloadList]
  split
  · exact .refl payload
  · exact cutList_recorded payload key maxItems groupKey

theorem limitPayloadSize_recorded (size : (κ → List α) → Nat) (listSize : List α → Nat)
    (maxBytes : Nat) (keys : List κ) (groupKey : κ → Option (α → String))
    (payload : LimitedLists κ α) :
    Recorded payload (limitPayloadSize size listSize maxBytes keys groupKey payload) := by
  fun_induction limitPayloadSize size listSize maxBytes keys groupKey payload with
  | case1 => exact .refl _
  | case2 => exact .refl _
  | case3 payload large key found ih =>
    exact Recorded.trans (cutList_recorded payload key _ (groupKey key)) ih

end payload

end K8sOps.Inventory
