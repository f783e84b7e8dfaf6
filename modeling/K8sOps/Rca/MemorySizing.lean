import Mathlib.Tactic.Linarith
import K8sOps.Gitops.SourcePatchProofs
import K8sOps.Rca.Replacements

/-! The memory that an action against out-of-memory kills proposes. In exact arithmetic the new
request and limit both grow, keep their order and leave the margins that the factors promise;
the text written for a number of mebibytes is read back as that number. -/
namespace K8sOps.Rca
open Python Gitops

section quantities

theorem mapM_decimalDigit_toDigits (count : Nat) : ∃ first rest,
    (Nat.toDigits 10 count).mapM decimalDigit = some (first :: rest) ∧ rest.length ≤ count ∧
      (first :: rest).foldl (fun total digit => total * 10 + digit) 0 = count := by
  have digit : ∀ value < 10, decimalDigit value.digitChar = some value := by decide +kernel
  induction count using Nat.strongRecOn with
  | ind count ih =>
    rcases Nat.lt_or_ge count 10 with small | large
    · refine ⟨count, [], ?_, Nat.zero_le _, by simp⟩
      rw [Nat.toDigits_of_lt_base small]
      simp [digit count small]
    · have smaller : count / 10 < count := Nat.div_lt_self (by omega) (by decide)
      obtain ⟨first, rest, read, short, value⟩ := ih (count / 10) smaller
      refine ⟨first, rest ++ [count % 10], ?_, ?_, ?_⟩
      · rw [Nat.toDigits_of_base_le (by decide) large, List.mapM_append, read]
        simp [digit (count % 10) (Nat.mod_lt _ (by decide))]
      · rw [List.length_append, List.length_singleton]
        omega
      · rw [← List.cons_append, List.foldl_append, value, List.foldl_cons, List.foldl_nil]
        omega

theorem memoryQuantityBytes_mebi {text : String} {digits : List Char}
    (unit : text.toList = digits ++ ['M', 'i']) :
    memoryQuantityBytes (.scalar (.str text)) =
      match digits.mapM decimalDigit with
      | some (first :: rest) =>
        if intMaxStrDigits < rest.length + 1 then .error (.other "ValueError")
        else .ok (some ((first :: rest).foldl (fun total digit => total * 10 + digit) 0 * mib))
      | _ => .ok none := by
  have length : text.toList.length - 2 = digits.length := by simp [unit]
  rw [memoryQuantityBytes, length, unit, List.drop_left, List.take_left]
  rcases digits.mapM decimalDigit with _ | _ | ⟨first, rest⟩ <;> rfl

/-- A number of mebibytes up to the cap is read back from its text, and a negative one is no
quantity. -/
theorem memoryQuantityBytes_mibText {count : Int} (capped : count ≤ 4096) :
    memoryQuantityBytes (mibText count) = .ok (if 0 ≤ count then some (count.toNat * mib)
  else none) := by
  cases count with
  | ofNat count =>
    have text : (toString (Int.ofNat count) ++ "Mi").toList =
        Nat.toDigits 10 count ++ ['M', 'i'] := by
      change (count.repr ++ "Mi").toList = _
      simp
    obtain ⟨first, rest, read, short, value⟩ := mapM_decimalDigit_toDigits count
    have few : ¬intMaxStrDigits < rest.length + 1 := by
      rw [intMaxStrDigits]
      have bound : count ≤ 4096 := Int.ofNat_le.mp capped
      omega
    rw [mibText, memoryQuantityBytes_mebi text, read]
    dsimp only
    rw [if_neg few, value]
    simp
  | negSucc count =>
    have text : (toString (Int.negSucc count) ++ "Mi").toList =
        ('-' :: Nat.toDigits 10 (count + 1)) ++ ['M', 'i'] := by
      change ("-" ++ (count + 1).repr ++ "Mi").toList = _
      simp
    have sign : decimalDigit '-' = none := by decide +kernel
    rw [mibText, memoryQuantityBytes_mebi text]
    simp [sign]

theorem exceeds_mibText {count : Int} (capped : count ≤ 4096) (natural : 0 ≤ count) (bytes : Nat) :
    exceeds (mibText count) bytes = .ok (decide (bytes < count.toNat * mib)) := by
  rw [exceeds, memoryQuantityBytes_mibText capped, if_pos natural]
  rfl

end quantities

section exact
variable {convert : Conversions} (exact : ∀ value, convert.rounded value = some value)
include exact

theorem toFloat_exact (value : Rat) : toFloat convert value = .ok value := by
  rw [toFloat, exact]

theorem ceilMib_exact (bytes factor : Rat) :
    ceilMib convert bytes factor = .ok ⌈bytes * factor / mib⌉ := by
  rw [ceilMib, toFloat_exact exact]
  change (do let quotient ← toFloat convert (bytes * factor / mib); .ok ⌈quotient⌉) = _
  rw [toFloat_exact exact]
  rfl

end exact

/-- What the new request and limit are to the old ones and the usage, in bytes. -/
structure Sizing (request limit : Nat) (usage : Rat) (newRequest newLimit : Nat) : Prop where
  request_grows : request < newRequest
  limit_grows : limit < newLimit
  ordered : newRequest ≤ newLimit
  limit_margin : 5 / 4 * limit ≤ (newLimit : Rat)
  usage_margin : 5 / 4 * usage ≤ newLimit
  capped : newLimit ≤ 4 * 1024 ^ 3
  request_margin : 5 / 4 * request ≤ (newRequest : Rat) ∨ newRequest = newLimit

section sizing

theorem le_bytes {value : Rat} {count : Int} (enough : ⌈value / mib⌉ ≤ count) :
    value ≤ (count.toNat * mib : Nat) := by
  have unit : (0 : Rat) < (mib : Nat) := by norm_num [mib]
  have scaled : value ≤ count * (mib : Nat) := (div_le_iff₀ unit).mp (Int.ceil_le.mp enough)
  have natural : (count : Rat) ≤ (count.toNat : Nat) := by exact_mod_cast Int.self_le_toNat count
  calc value ≤ count * (mib : Nat) := scaled
    _ ≤ (count.toNat : Nat) * (mib : Nat) := mul_le_mul_of_nonneg_right natural unit.le
    _ = (count.toNat * mib : Nat) := by push_cast; rfl

theorem ceil_le_ceil_mib {one two : Rat} (ordered : one ≤ two) : ⌈one / mib⌉ ≤ ⌈two / mib⌉ :=
  Int.ceil_le_ceil (div_le_div_of_nonneg_right ordered (Nat.cast_nonneg _))

/-- Rounding up to mebibytes and capping the request by the limit keeps every margin. -/
theorem sizing_of_counts {request limit : Nat} {usage : Rat} {limitCount requestCount : Int}
    (positive : 0 < request) (ordered : request ≤ limit) (capped : limitCount ≤ 4096)
    (forLimit : ⌈(limit : Rat) * (5 / 4) / mib⌉ ≤ limitCount)
    (forUsage : ⌈usage * (5 / 4) / mib⌉ ≤ limitCount)
    (forRequest : ⌈(request : Rat) * (5 / 4) / mib⌉ ≤ requestCount)
    (below : requestCount ≤ limitCount) :
    Sizing request limit usage (requestCount.toNat * mib) (limitCount.toNat * mib) := by
  have requestPositive : (0 : Rat) < request := by exact_mod_cast positive
  have limitPositive : (0 : Rat) < limit := by exact_mod_cast Nat.lt_of_lt_of_le positive ordered
  have newLimit := le_bytes forLimit
  have newRequest := le_bytes forRequest
  have newUsage := le_bytes forUsage
  refine ⟨?_, ?_, ?_, ?_, ?_, ?_, ?_⟩
  · have grows : (request : Rat) < (requestCount.toNat * mib : Nat) := by linarith
    exact_mod_cast grows
  · have grows : (limit : Rat) < (limitCount.toNat * mib : Nat) := by linarith
    exact_mod_cast grows
  · exact Nat.mul_le_mul_right mib (Int.toNat_le_toNat below)
  · linarith
  · linarith
  · have few : limitCount.toNat ≤ 4096 := Int.toNat_le.mpr capped
    calc limitCount.toNat * mib ≤ 4096 * mib := Nat.mul_le_mul_right mib few
      _ = 4 * 1024 ^ 3 := by norm_num [mib]
  · exact .inl (by linarith)

end sizing

theorem growing_mibText {count : Int} {bytes : Nat} (capped : count ≤ 4096) (natural : 0 ≤ count)
    (grows : bytes < count.toNat * mib) (path : String) (current : Value) :
    growing path current bytes (mibText count) = .ok [⟨path, current, mibText count⟩] := by
  rw [growing, exceeds_mibText capped natural, decide_eq_true grows]
  rfl

def resized (container : Entries) (request limit : Value) : List ScalarFieldReplacement :=
  let above := containerPath (firstStr [getOrNone "name" container]) ++ ".resources"
  [⟨above ++ ".requests.memory", requestOf container, request⟩,
    ⟨above ++ ".limits.memory", limitOf container, limit⟩]

/-- In exact arithmetic a proposal replaces both the request and the limit, consistently. -/
theorem oomMemoryReplacements_consistent {convert : Conversions}
    {authority : GitOpsAuthorityContext} {container : Entries} {request limit : Nat} {usage : Rat}
    {items : List ScalarFieldReplacement} (exact : ∀ value, convert.rounded value = some value)
    (requested : memoryQuantityBytes (requestOf container) = .ok (some request))
    (limited : memoryQuantityBytes (limitOf container) = .ok (some limit))
    (measured : usageOf convert authority = .ok (some usage))
    (positive : 0 < request) (ordered : request ≤ limit)
    (returned : oomMemoryReplacements convert authority (some container) = .ok items)
    (some : items ≠ []) :
    ∃ requestText limitText newRequest newLimit, items = resized container requestText limitText ∧
      memoryQuantityBytes requestText = .ok (.some newRequest) ∧
      memoryQuantityBytes limitText = .ok (.some newLimit) ∧
      Sizing request limit usage newRequest newLimit := by
  rw [oomMemoryReplacements, requested, limited, measured] at returned
  simp only [toFloat_exact exact, ceilMib_exact exact, bind, Except.bind] at returned
  split at returned
  next =>
    cases returned
    exact absurd rfl some
  next =>
    generalize limitIs : max ⌈(limit : Rat) * (5 / 4) / mib⌉ ⌈usage * (5 / 4) / mib⌉ =
      limitCount at returned
    generalize requestIs :
      min (max ⌈(request : Rat) * (5 / 4) / mib⌉ ⌈usage * (4 / 5) / mib⌉) limitCount =
        requestCount at returned
    split at returned
    next =>
      cases returned
      exact absurd rfl some
    next small =>
      have capped : limitCount ≤ 4096 := Int.not_lt.mp small
      have forLimit : ⌈(limit : Rat) * (5 / 4) / mib⌉ ≤ limitCount := limitIs ▸ le_max_left _ _
      have forUsage : ⌈usage * (5 / 4) / mib⌉ ≤ limitCount := limitIs ▸ le_max_right _ _
      have below : requestCount ≤ limitCount := requestIs ▸ min_le_right _ _
      -- The cap does not cost the request its margin, because the limit has the same one.
      have forRequest : ⌈(request : Rat) * (5 / 4) / mib⌉ ≤ requestCount := by
        have casts : (request : Rat) ≤ limit := by exact_mod_cast ordered
        rw [← requestIs]
        refine le_min (le_max_left _ _) ((ceil_le_ceil_mib ?_).trans forLimit)
        linarith
      have sizing := sizing_of_counts positive ordered capped forLimit forUsage forRequest below
      have natural : 0 ≤ requestCount := by
        refine le_trans (Int.ceil_nonneg ?_) forRequest
        positivity
      rw [growing_mibText (below.trans capped) natural sizing.request_grows,
        growing_mibText capped (natural.trans below) sizing.limit_grows] at returned
      cases returned
      refine ⟨_, _, _, _, rfl, ?_, ?_, sizing⟩
      · rw [memoryQuantityBytes_mibText (below.trans capped), if_pos natural]
      · rw [memoryQuantityBytes_mibText capped, if_pos (natural.trans below)]

/-- A container of 256Mi with a limit of 512Mi that uses 500Mi. -/
def workedContainer : Entries :=
  [(.str "name", .scalar (.str "api")),
    (.str "resources", .dict [(.str "requests", .dict [(.str "memory", .scalar (.str "256Mi"))]),
      (.str "limits", .dict [(.str "memory", .scalar (.str "512Mi"))])])]

def workedAuthority : GitOpsAuthorityContext :=
  ⟨[(.str "container_memory_working_set_bytes", .scalar (.int (500 * 1024 ^ 2)))]⟩

def exactConversions : Conversions := ⟨some⟩

theorem oomMemoryReplacements_worked : ∃ items,
    oomMemoryReplacements exactConversions workedAuthority (some workedContainer) = .ok items ∧
    ∃ requestText limitText newRequest newLimit, items =
      resized workedContainer requestText limitText ∧
      memoryQuantityBytes requestText = .ok (some newRequest) ∧
      memoryQuantityBytes limitText = .ok (some newLimit) ∧
      Sizing (256 * 1024 ^ 2) (512 * 1024 ^ 2) (500 * 1024 ^ 2) newRequest newLimit := by
  have two :
      (oomMemoryReplacements exactConversions workedAuthority (some workedContainer)).toOption.map
      List.length = some 2 := by decide +kernel
  obtain ⟨items, found, length⟩ := Option.map_eq_some_iff.mp two
  have returned := toOption_ok found
  have nonempty : items ≠ [] := List.ne_nil_of_length_pos (by omega)
  exact ⟨items, returned, oomMemoryReplacements_consistent (fun _ => rfl)
    (toOption_ok (by decide +kernel))
    (toOption_ok (by decide +kernel)) (toOption_ok (by decide +kernel)) (by decide)
      (by decide) returned nonempty⟩

end K8sOps.Rca
