import K8sOps.Inventory.CollectionLimits

/-! How lists are cut. Items are taken from the groups in turn, so no group gets two items
more than another one that still has some; lists are halved until the payload fits or there
is nothing left to cut, and the records tell how long they were at first. -/
namespace K8sOps.Inventory

section buckets
variable {α : Type} {groupKey : α → String} {buckets rest : Buckets α} {key group : String}

def bucketOf (group : String) : Buckets α → List α
  | [] => []
  | (key, bucket) :: rest => if key = group then bucket else bucketOf group rest

def bucketTotal : Buckets α → Nat
  | [] => 0
  | (_, bucket) :: rest => bucket.length + bucketTotal rest

def share (groupKey : α → String) (group : String) (items : List α) :
    List α := items.filter (groupKey · = group)

/-- One bucket for each group, with items of that group. -/
structure Grouped (groupKey : α → String) (buckets : Buckets α) : Prop where
  distinct : (buckets.map Prod.fst).Nodup
  homogeneous : ∀ bucket ∈ buckets, ∀ item ∈ bucket.2, groupKey item = bucket.1

theorem bucketOf_eq_nil (absent : group ∉ buckets.map Prod.fst) : bucketOf group buckets = [] := by
  induction buckets with
  | nil => rfl
  | cons bucket rest ih =>
    rw [List.map_cons, List.mem_cons, not_or] at absent
    rw [bucketOf, if_neg fun same => absent.1 same.symm, ih absent.2]

theorem Grouped.nil : Grouped groupKey [] := ⟨.nil, fun _ member => by cases member⟩

theorem Grouped.tail (grouped : Grouped groupKey ((key, bucket) :: rest)) :
    Grouped groupKey rest ∧ bucketOf key rest = [] ∧ ∀ item ∈ bucket, groupKey item = key := by
  obtain ⟨fresh, distinct⟩ := List.nodup_cons.mp grouped.distinct
  refine ⟨⟨distinct, fun other member => grouped.homogeneous other (List.mem_cons_of_mem _ member)⟩,
    ?_, ?_⟩
  · exact bucketOf_eq_nil fresh
  · exact grouped.homogeneous (key, bucket) List.mem_cons_self

theorem share_cons_self {item : α} (own : groupKey item = group) (items : List α) :
    share groupKey group (item :: items) = item :: share groupKey group items :=
  List.filter_cons_of_pos (by simpa using own)

theorem share_cons_ne {item : α} (other : groupKey item ≠ group) (items : List α) :
    share groupKey group (item :: items) = share groupKey group items :=
  List.filter_cons_of_neg (by simpa using other)

theorem share_append (front back : List α) :
    share groupKey group (front ++ back) = share groupKey group front ++
      share groupKey group back :=
  List.filter_append ..

end buckets

section grouping
variable {α : Type} {groupKey : α → String} {buckets : Buckets α} {key group : String}

theorem bucketOf_addToBucket (item : α) (buckets : Buckets α) :
    bucketOf group (addToBucket key item buckets) = bucketOf group buckets ++ if key = group then
      [item] else [] := by
  induction buckets with
  | nil => rw [addToBucket, bucketOf, bucketOf, bucketOf, List.nil_append]
  | cons bucket rest ih =>
    obtain ⟨found, bucket⟩ := bucket
    rw [addToBucket]
    split
    next same =>
      subst same
      simp only [bucketOf]
      split
      next => rfl
      next => rw [List.append_nil]
    next different =>
      simp only [bucketOf, ih]
      split
      next same => rw [if_neg fun other => different (same.trans other.symm), List.append_nil]
      next => rfl

theorem keys_addToBucket (item : α) (buckets : Buckets α) :
    (addToBucket key item buckets).map Prod.fst = buckets.map Prod.fst ∨
      key ∉ buckets.map Prod.fst ∧
      (addToBucket key item buckets).map Prod.fst = buckets.map Prod.fst ++ [key] := by
  induction buckets with
  | nil => exact .inr ⟨List.not_mem_nil, rfl⟩
  | cons bucket rest ih =>
    obtain ⟨found, bucket⟩ := bucket
    rw [addToBucket]
    split
    next => exact .inl rfl
    next different =>
      rcases ih with same | ⟨fresh, more⟩
      · exact .inl (by rw [List.map_cons, same, List.map_cons])
      · refine .inr ⟨fun member => ?_, by rw [List.map_cons, more, List.map_cons, List.cons_append]⟩
        rcases List.mem_cons.mp member with same | later
        · exact different same.symm
        · exact fresh later

theorem bucketTotal_addToBucket (item : α) (buckets : Buckets α) :
    bucketTotal (addToBucket key item buckets) = bucketTotal buckets + 1 := by
  induction buckets with
  | nil => rfl
  | cons bucket rest ih =>
    obtain ⟨found, bucket⟩ := bucket
    rw [addToBucket]
    split
    · simp only [bucketTotal, List.length_append, List.length_singleton]
      omega
    · simp only [bucketTotal, ih]
      omega

theorem Grouped.addToBucket (grouped : Grouped groupKey buckets) (item : α) :
    Grouped groupKey (addToBucket (groupKey item) item buckets) := by
  constructor
  · rcases keys_addToBucket item buckets with same | ⟨fresh, more⟩
    · exact same ▸ grouped.distinct
    · rw [more]
      exact List.nodup_append.mpr ⟨grouped.distinct, List.pairwise_singleton _ _,
        fun key member other isOther same =>
        fresh (List.mem_singleton.mp isOther ▸ same ▸ member)⟩
  · have homogeneous := grouped.homogeneous
    clear grouped
    induction buckets with
    | nil => simp [Inventory.addToBucket]
    | cons bucket rest ih =>
      obtain ⟨found, bucket⟩ := bucket
      have later := ih fun other member => homogeneous other (List.mem_cons_of_mem _ member)
      have first := homogeneous (found, bucket) List.mem_cons_self
      rw [Inventory.addToBucket]
      split
      next same =>
        intro other member
        obtain rfl | member := List.mem_cons.mp member
        · intro one among
          rcases List.mem_append.mp among with old | new
          · exact first one old
          · rw [List.mem_singleton.mp new, same]
        · exact homogeneous other (List.mem_cons_of_mem _ member)
      next =>
        intro other member
        obtain rfl | member := List.mem_cons.mp member
        · exact first
        · exact later other member

def sortedBuckets (groupKey : α → String) (items : List α) (buckets : Buckets α) : Buckets α :=
  items.foldl (fun buckets item => addToBucket (groupKey item) item buckets) buckets

theorem sortedBuckets_spec (items : List α) (grouped : Grouped groupKey buckets) :
    Grouped groupKey (sortedBuckets groupKey items buckets) ∧
    bucketTotal (sortedBuckets groupKey items buckets) = bucketTotal buckets + items.length ∧
    ∀ group, bucketOf group (sortedBuckets groupKey items buckets) =
      bucketOf group buckets ++ share groupKey group items := by
  induction items generalizing buckets with
  | nil =>
    refine ⟨grouped, rfl, fun group => ?_⟩
    exact (List.append_nil _).symm
  | cons item items ih =>
    obtain ⟨laterGrouped, total, parts⟩ := ih (grouped.addToBucket item)
    refine ⟨laterGrouped, ?_, fun group => ?_⟩
    · change bucketTotal (sortedBuckets groupKey items _) = _
      rw [total, bucketTotal_addToBucket, List.length_cons]
      omega
    · change bucketOf group (sortedBuckets groupKey items _) = _
      rw [parts, bucketOf_addToBucket, List.append_assoc]
      split
      next own => rw [share_cons_self own]; rfl
      next other => rw [share_cons_ne other]; rfl

end grouping

section rounds
variable {α : Type} {groupKey : α → String} {buckets : Buckets α} {group : String}

/-- A round takes at most one item of each group, from the front of its bucket; unless it
fills the room, it takes one of every group that has any. -/
structure Round (groupKey : α → String) (room : Nat) (buckets : Buckets α) (taken : List α)
    (left : Buckets α) : Prop where
  grouped : Grouped groupKey left
  total : taken.length + bucketTotal left = bucketTotal buckets
  front : ∀ group, bucketOf group buckets = share groupKey group taken ++ bucketOf group left
  single : ∀ group, (share groupKey group taken).length ≤ 1
  everyone : taken.length < room → ∀ group, bucketOf group buckets ≠ [] →
    (share groupKey group taken).length = 1

theorem takeRound_keys (room : Nat) (buckets : Buckets α) :
    ((takeRound room buckets).2.map Prod.fst).Sublist (buckets.map Prod.fst) := by
  fun_induction takeRound room buckets with
  | case1 => exact .slnil
  | case2 room key rest ih => exact ih.cons key
  | case3 room key item left rest few => exact .refl _
  | case4 room key item left rest many later ih =>
    change (later.2.map Prod.fst).Sublist (rest.map Prod.fst) at ih
    split
    · exact ih.cons key
    · exact ih.cons_cons key

theorem Round.cons (round : Round groupKey room rest taken left)
    (grouped : Grouped groupKey ((key, item :: bucket) :: rest))
    (keys : (left.map Prod.fst).Sublist (rest.map Prod.fst)) :
    Round groupKey (room + 1) ((key, item :: bucket) :: rest) (item :: taken)
      ((key, bucket) :: left) := by
  obtain ⟨_, empty, homogeneous⟩ := grouped.tail
  have own : groupKey item = key := homogeneous item List.mem_cons_self
  have none : share groupKey key taken = [] :=
    (List.append_eq_nil_iff.mp ((round.front key).symm.trans empty)).1
  refine ⟨⟨?_, ?_⟩, ?_, fun group => ?_, fun group => ?_, fun fewer group nonempty => ?_⟩
  · exact List.nodup_cons.mpr ⟨fun member =>
      (List.nodup_cons.mp grouped.distinct).1 (keys.subset member), round.grouped.distinct⟩
  · intro other member
    obtain rfl | member := List.mem_cons.mp member
    · exact fun one among => homogeneous one (List.mem_cons_of_mem _ among)
    · exact round.grouped.homogeneous other member
  · have total := round.total
    simp only [List.length_cons, bucketTotal]
    omega
  · simp only [bucketOf]
    split
    next same =>
      subst same
      rw [share_cons_self own, none]
      rfl
    next other => rw [share_cons_ne fun same => other (own.symm.trans same), round.front]
  · by_cases same : key = group
    · subst same
      rw [share_cons_self own, none]
      exact Nat.le_refl _
    · rw [share_cons_ne fun isGroup => same (own.symm.trans isGroup)]
      exact round.single group
  · by_cases same : key = group
    · subst same
      rw [share_cons_self own, none]
      rfl
    · rw [bucketOf, if_neg same] at nonempty
      rw [share_cons_ne fun isGroup => same (own.symm.trans isGroup)]
      exact round.everyone (Nat.lt_of_succ_lt_succ fewer) group nonempty

theorem Round.drop (round : Round groupKey room buckets taken ((key, bucket) :: left)) :
    Round groupKey room buckets taken (if bucket.isEmpty then left else (key, bucket) :: left) := by
  split
  next none =>
    obtain ⟨grouped, empty, _⟩ := round.grouped.tail
    cases List.isEmpty_iff.mp none
    refine ⟨grouped, ?_, fun group => ?_, round.single, round.everyone⟩
    · have total := round.total
      rwa [bucketTotal, List.length_nil, Nat.zero_add] at total
    · rw [round.front, bucketOf]
      split
      next own => rw [← own, empty]
      next => rfl
  next => exact round

theorem takeRound_round {room : Nat} (some : 0 < room) (grouped : Grouped groupKey buckets) :
    Round groupKey room buckets (takeRound room buckets).1 (takeRound room buckets).2 := by
  fun_induction takeRound room buckets with
  | case1 =>
    exact ⟨.nil, rfl, fun _ => rfl, fun _ => Nat.zero_le _, fun _ _ nonempty => absurd rfl nonempty⟩
  | case2 room key rest ih =>
    obtain ⟨restGrouped, empty, _⟩ := grouped.tail
    have round := ih some restGrouped
    have same (group : String) : bucketOf group ((key, []) :: rest) = bucketOf group rest := by
      rw [bucketOf]
      split
      next own => rw [← own, empty]
      next => rfl
    refine ⟨round.grouped, ?_, fun group => ?_, round.single, fun fewer group nonempty => ?_⟩
    · rw [round.total, bucketTotal, List.length_nil, Nat.zero_add]
    · rw [same, round.front]
    · exact round.everyone fewer group (same group ▸ nonempty)
  | case3 room key item left rest few =>
    have nothing : Round groupKey 0 rest [] rest :=
      ⟨grouped.tail.1, Nat.zero_add _,
        fun _ => rfl, fun _ => Nat.zero_le _, fun fewer => absurd fewer (Nat.lt_irrefl 0)⟩
    have round := nothing.cons grouped (.refl _)
    rwa [Nat.le_antisymm few some]
  | case4 room key item left rest many later ih =>
    have round := (ih (by omega) grouped.tail.1).cons grouped (takeRound_keys (room - 1) rest)
    rw [Nat.sub_add_cancel (by omega)] at round
    exact round.drop

/-- So many items as there is room for, the first ones of each bucket; a bucket gives two
items less than another one only if it is used up. -/
structure FairlyTaken (groupKey : α → String) (room : Nat) (buckets : Buckets α)
    (taken : List α) : Prop where
  length : taken.length = min room (bucketTotal buckets)
  front : ∀ group, share groupKey group taken <+: bucketOf group buckets
  fair : ∀ group other,
    min (bucketOf group buckets).length ((share groupKey other taken).length - 1) ≤
      (share groupKey group taken).length

/-- A round that fills the room is the last one. -/
theorem Round.full (round : Round groupKey room buckets taken left) (full : taken.length = room) :
    FairlyTaken groupKey room buckets taken := by
  refine ⟨?_, fun group => ?_, fun group other => ?_⟩
  · have total := round.total
    omega
  · rw [round.front]
    exact List.prefix_append ..
  · have single := round.single other
    omega

theorem Round.more (round : Round groupKey room buckets taken left) (fewer : taken.length < room)
    (fair : FairlyTaken groupKey (room - taken.length) left later) :
    FairlyTaken groupKey room buckets (taken ++ later) := by
  refine ⟨?_, fun group => ?_, fun group other => ?_⟩
  · have total := round.total
    have length := fair.length
    rw [List.length_append]
    omega
  · rw [round.front, share_append]
    exact (List.prefix_append_right_inj _).mpr (fair.front group)
  · have apart := fair.fair group other
    have single := round.single other
    have parts := congrArg List.length (round.front group)
    rw [List.length_append] at parts
    rw [share_append, share_append, List.length_append, List.length_append]
    by_cases none : bucketOf group buckets = []
    · rw [none, List.length_nil]
      omega
    · have one := round.everyone fewer group none
      omega

theorem takeRounds_fair (room : Nat) (grouped : Grouped groupKey buckets) :
    FairlyTaken groupKey room buckets (takeRounds room buckets) := by
  fun_induction takeRounds room buckets with
  | case1 room buckets ended =>
    refine ⟨?_, fun group => List.nil_prefix, fun group other => ?_⟩
    · rcases ended with rfl | rfl
      · exact (Nat.min_zero _).symm
      · exact (Nat.zero_min _).symm
    · exact Nat.min_le_right _ _
  | case2 room buckets more taken ih =>
    have some : 0 < room := Nat.pos_of_ne_zero fun empty => more (.inr empty)
    have round : Round groupKey room buckets taken.1 taken.2 := takeRound_round some grouped
    have bound : taken.1.length ≤ room := takeRound_length some buckets
    rcases Nat.lt_or_eq_of_le bound with fewer | full
    · exact round.more fewer (ih round.grouped)
    · rw [full, Nat.sub_self, takeRounds, dif_pos (.inr rfl), List.append_nil]
      exact round.full full

theorem roundRobinGroups_fair (items : List α) (maxItems : Nat) (groupKey : α → String) :
    (roundRobinGroups items maxItems groupKey).length = min maxItems items.length ∧
    (∀ group, share groupKey group (roundRobinGroups items maxItems groupKey) <+:
      share groupKey group items) ∧
    ∀ group other, min (share groupKey group items).length
      ((share groupKey other (roundRobinGroups items maxItems groupKey)).length - 1) ≤
        (share groupKey group (roundRobinGroups items maxItems groupKey)).length := by
  have empty : Grouped groupKey [] := .nil
  obtain ⟨grouped, total, parts⟩ := sortedBuckets_spec items empty
  have fair := takeRounds_fair maxItems grouped
  have buckets (group : String) : bucketOf group (sortedBuckets groupKey items []) =
      share groupKey group items := parts group
  refine ⟨?_, fun group => ?_, fun group other => ?_⟩
  · have length := fair.length
    rw [total, bucketTotal, Nat.zero_add] at length
    exact length
  · exact buckets group ▸ fair.front group
  · exact buckets group ▸ fair.fair group other

end rounds

section sizes
variable {κ α : Type} [DecidableEq κ] {before payload : LimitedLists κ α} {key : κ}

/-- Each list is as it was or has a record with both of its lengths. -/
def Counted (before after : LimitedLists κ α) : Prop :=
  ∀ key, after.limits key = none ∧ after.lists key = before.lists key ∨
    after.limits key = some ⟨(before.lists key).length, (after.lists key).length⟩

theorem Counted.cutList (counted : Counted before payload) (key : κ) (maxItems : Nat)
    (groupKey : Option (α → String)) :
    Counted before (cutList payload key maxItems groupKey) := by
  intro other
  by_cases same : other = key
  · subst same
    have original : originalCountFor payload.limits other (payload.lists other).length =
        (before.lists other).length := by
      rw [originalCountFor]
      rcases counted other with ⟨unrecorded, unchanged⟩ | recorded
      · rw [unrecorded, unchanged]
        rfl
      · rw [recorded]
        rfl
    refine .inr ?_
    rw [cutList_self, ← original]
    exact Function.update_self ..
  · have limits : (Inventory.cutList payload key maxItems groupKey).limits other =
        payload.limits other :=
      Function.update_of_ne same ..
    rw [limits, cutList_ne payload same]
    exact counted other

theorem Counted.limitPayloadList (counted : Counted before payload) (key : κ) (maxItems : Nat)
    (groupKey : Option (α → String)) :
    Counted before (limitPayloadList key maxItems groupKey payload) := by
  rw [Inventory.limitPayloadList]
  split
  · exact counted
  · exact counted.cutList key maxItems groupKey

variable {size : (κ → List α) → Nat} {listSize : List α → Nat} {maxBytes : Nat} {keys : List κ}
  {groupKey : κ → Option (α → String)}

theorem Counted.limitPayloadSize (counted : Counted before payload) :
    Counted before (limitPayloadSize size listSize maxBytes keys groupKey payload) := by
  fun_induction Inventory.limitPayloadSize size listSize maxBytes keys groupKey payload with
  | case1 => exact counted
  | case2 => exact counted
  | case3 payload large key found ih => exact ih (counted.cutList key _ (groupKey key))

theorem limitPayloadSize_ends (payload : LimitedLists κ α) :
    size (limitPayloadSize size listSize maxBytes keys groupKey payload).lists ≤ maxBytes ∨
      ∀ key ∈ keys, (limitPayloadSize size listSize maxBytes keys groupKey payload).lists key =
        [] := by
  fun_induction limitPayloadSize size listSize maxBytes keys groupKey payload with
  | case1 payload small => exact .inl small
  | case2 payload large found =>
    refine .inr fun key member => ?_
    rw [largestShrinkableList, List.argmax_eq_none, List.filter_eq_nil_iff] at found
    have empty := found key member
    rwa [decide_eq_true_eq, Nat.not_lt, Nat.le_zero, List.length_eq_zero_iff] at empty
  | case3 payload large key found ih => exact ih

/-- Only the lists that are named are touched. -/
theorem limitPayloadSize_frame (payload : LimitedLists κ α) (unlisted : key ∉ keys) :
    (limitPayloadSize size listSize maxBytes keys groupKey payload).lists key = payload.lists key ∧
      (limitPayloadSize size listSize maxBytes keys groupKey payload).limits key =
        payload.limits key := by
  fun_induction limitPayloadSize size listSize maxBytes keys groupKey payload with
  | case1 => exact ⟨rfl, rfl⟩
  | case2 => exact ⟨rfl, rfl⟩
  | case3 payload large cut found ih =>
    have different : key ≠ cut := by
      rintro rfl
      exact unlisted (largestShrinkableList_spec found).1
    exact ⟨ih.1.trans (cutList_ne payload different ..),
      ih.2.trans (Function.update_of_ne different ..)⟩

def shrinkOnce (size : (κ → List α) → Nat) (listSize : List α → Nat) (maxBytes : Nat)
    (keys : List κ) (groupKey : κ → Option (α → String)) (payload : LimitedLists κ α) :
    Option (LimitedLists κ α) :=
  if size payload.lists ≤ maxBytes then none
  else (largestShrinkableList listSize keys payload.lists).map fun key =>
    cutList payload key ((payload.lists key).length / 2) (groupKey key)

def shrinkPasses (size : (κ → List α) → Nat) (listSize : List α → Nat) (maxBytes : Nat)
    (keys : List κ) (groupKey : κ → Option (α → String)) :
    Nat → LimitedLists κ α → Option (LimitedLists κ α)
  | 0, payload =>
    if (shrinkOnce size listSize maxBytes keys groupKey payload).isNone then some payload else none
  | passes + 1, payload =>
    match shrinkOnce size listSize maxBytes keys groupKey payload with
    | none => some payload
    | some next => shrinkPasses size listSize maxBytes keys groupKey passes next

theorem shrinkPasses_ended (ended : shrinkOnce size listSize maxBytes keys groupKey payload = none)
    (passes : Nat) :
    shrinkPasses size listSize maxBytes keys groupKey passes payload = some payload := by
  cases passes with
  | zero => rw [shrinkPasses, ended]; rfl
  | succ => rw [shrinkPasses, ended]

theorem shrinkPasses_enough (payload : LimitedLists κ α) {passes : Nat}
    (enough : totalLength payload.lists keys ≤ passes) :
    shrinkPasses size listSize maxBytes keys groupKey passes payload =
      some (limitPayloadSize size listSize maxBytes keys groupKey payload) := by
  fun_induction limitPayloadSize size listSize maxBytes keys groupKey payload
    generalizing passes with
  | case1 payload small => exact shrinkPasses_ended (if_pos small) passes
  | case2 payload large found =>
    refine shrinkPasses_ended ?_ passes
    rw [shrinkOnce, if_neg large, found]
    rfl
  | case3 payload large key found ih =>
    obtain ⟨member, nonempty⟩ := largestShrinkableList_spec found
    have fewer :
        totalLength (cutList payload key ((payload.lists key).length / 2)
          (groupKey key)).lists keys <
        totalLength payload.lists keys := by
      refine totalLength_lt (cutList_shorter payload key (groupKey key)) member ?_
      have limited :=
        limitList_length (payload.lists key) ((payload.lists key).length / 2) (groupKey key)
      rw [cutList_self]
      omega
    have once : shrinkOnce size listSize maxBytes keys groupKey payload =
        some (cutList payload key ((payload.lists key).length / 2) (groupKey key)) := by
      rw [shrinkOnce, if_neg large, found]
      rfl
    cases passes with
    | zero => omega
    | succ passes =>
      rw [shrinkPasses, once]
      exact ih (by omega)

/-- Limits of single lists, on a payload without records. -/
def fillLimits (steps : List (κ × Nat × Option (α → String)))
    (lists : κ → List α) : LimitedLists κ α :=
  steps.foldl (fun payload step => limitPayloadList step.1 step.2.1 step.2.2 payload) ⟨lists,
    fun _ => none⟩

theorem fillLimits_counted (steps : List (κ × Nat × Option (α → String))) (lists : κ → List α) :
    Counted ⟨lists, fun _ => none⟩ (fillLimits steps lists) := by
  have grown (payload : LimitedLists κ α) (counted : Counted ⟨lists, fun _ => none⟩ payload) :
      Counted ⟨lists, fun _ => none⟩
        (steps.foldl (fun payload step =>
          limitPayloadList step.1 step.2.1 step.2.2 payload) payload) := by
    induction steps generalizing payload with
    | nil => exact counted
    | cons step steps ih => exact ih _ (counted.limitPayloadList step.1 step.2.1 step.2.2)
  exact grown _ fun _ => .inl ⟨rfl, rfl⟩

/-- Items are chosen fairly, and the loop that shrinks a payload ends with what it should. -/
theorem payload_limiting_fair (items : List α) (maxItems : Nat) (itemKey : α → String)
    (lists : κ → List α) (steps : List (κ × Nat × Option (α → String))) (size : (κ → List α) → Nat)
    (listSize : List α → Nat) (maxBytes : Nat) (keys : List κ)
    (groupKey : κ → Option (α → String)) :
    ((roundRobinGroups items maxItems itemKey).length = min maxItems items.length ∧
      (∀ group, share itemKey group (roundRobinGroups items maxItems itemKey) <+:
        share itemKey group items) ∧
      ∀ group other, min (share itemKey group items).length
        ((share itemKey other (roundRobinGroups items maxItems itemKey)).length - 1) ≤
          (share itemKey group (roundRobinGroups items maxItems itemKey)).length) ∧
    ∃ limited, shrinkPasses size listSize maxBytes keys groupKey
      (totalLength (fillLimits steps lists).lists keys)
        (fillLimits steps lists) = some limited ∧
      limitPayloadSize size listSize maxBytes keys groupKey (fillLimits steps lists) = limited ∧
      (size limited.lists ≤ maxBytes ∨ ∀ key ∈ keys, limited.lists key = []) ∧
      (∀ key, key ∉ keys → limited.lists key = (fillLimits steps lists).lists key ∧
        limited.limits key = (fillLimits steps lists).limits key) ∧
      ∀ key, (limited.lists key).length < (lists key).length →
        limited.limits key = some ⟨(lists key).length, (limited.lists key).length⟩ := by
  refine ⟨roundRobinGroups_fair items maxItems itemKey, _,
    shrinkPasses_enough _ (Nat.le_refl _), rfl, limitPayloadSize_ends _,
    fun key unlisted => limitPayloadSize_frame _ unlisted, fun key shrunk => ?_⟩
  rcases (fillLimits_counted steps lists).limitPayloadSize key with ⟨_, unchanged⟩ | recorded
  · rw [unchanged] at shrunk
    exact absurd shrunk (Nat.lt_irrefl _)
  · exact recorded

end sizes

end K8sOps.Inventory
