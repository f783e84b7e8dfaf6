import K8sOps.Python.Value
import K8sOps.Text.Like

/-! Redaction of structured values before they cross a log boundary. What stands under a sensitive
key is hidden whatever it is, and the three limits cut a value down without looking at what is
hidden. -/
namespace K8sOps.Security
open Python Text

section keys

def sensitiveKeys : List String :=
  ["password", "passwd", "pwd", "token", "access_token", "access-token", "refresh_token",
    "refresh-token", "id_token", "id-token", "secret", "api_key", "api-key", "apikey",
    "client_secret", "client-secret", "credential", "credentials", "private_key", "private-key",
    "ssh_key", "ssh-key"]

def sensitiveHeaderKeys : List String := ["authorization", "cookie", "set-cookie"]

/-- What the redaction takes from outside: `str.casefold`, `str` of a scalar that is not a text, and
the redaction of a line. -/
structure RedactionRuntime where
  casefold : String → String
  str : Scalar → String
  redactLogLine : String → String

variable (runtime : RedactionRuntime)

def normalizedSensitiveKey (value : String) : List Char :=
  replaceChar ' ' ['_'] (replaceChar '.' ['_']
    (replaceChar '-' ['_'] (runtime.casefold value).toList))

def sensitiveValueKeyParts : List (List Char) :=
  (sensitiveKeys ++ sensitiveHeaderKeys).map (normalizedSensitiveKey runtime)

def isSensitiveValueKey (key : String) : Bool :=
  let normalized := normalizedSensitiveKey runtime key
  let compact := replaceChar '_' [] normalized
  (sensitiveValueKeyParts runtime).any fun part => isWithin part normalized ||
    isWithin (replaceChar '_' [] part) compact

/-- `str(key)`. -/
def keyText : Scalar → String
  | .str text => text
  | key => runtime.str key

end keys

section redaction

def maxLogLineLength : Nat := 4096

def truncatedLogLineSuffix : String := " [TRUNCATED]"

def truncateLogLine (line : String) : String × Bool :=
  if line.length ≤ maxLogLineLength then (line, false)
  else (String.ofList (line.toList.take (maxLogLineLength - truncatedLogLineSuffix.length)) ++
    truncatedLogLineSuffix, true)

structure RedactionLimits where
  maxDepth : Int
  maxMappingItems : Int
  maxSequenceItems : Int

def truncatedValue : Value := .scalar (.str "[TRUNCATED]")

def redactedValue : Value := .scalar (.str "[REDACTED]")

/-- How many items `items[:stop]` has; a negative stop counts from the end. -/
def sliceLength (stop : Int) (length : Nat) :
    Nat := if 0 ≤ stop then min stop.toNat length else (length + stop).toNat

variable (runtime : RedactionRuntime) (limits : RedactionLimits)

def redactText (text : String) : Value :=
  .scalar (.str (truncateLogLine (runtime.redactLogLine text)).1)

def redactScalar : Scalar → Value
  | .str text => redactText runtime text
  | .other type content => redactText runtime (runtime.str (.other type content))
  | scalar => .scalar scalar

/-- `if depth >= max_depth: return TRUNCATED_VALUE`. -/
def cutAt (depth : Nat) (value : Value) : Value :=
  if limits.maxDepth ≤ depth then truncatedValue else value

mutual
/-- `_redact_sensitive_value`. -/
def redactAt (depth : Nat) : Value → Value
  | .scalar scalar => cutAt limits depth (redactScalar runtime scalar)
  | .list items =>
    cutAt limits depth
      (.list (redactItems (depth + 1) (sliceLength limits.maxSequenceItems items.length) items ++
      if limits.maxSequenceItems < items.length then [truncatedValue] else []))
  | .dict entries => cutAt limits depth (.dict (redactEntries (depth + 1) 0 [] entries))
  termination_by structural value => value

def redactItems (depth : Nat) : Nat → List Value → List Value
  | count + 1, item :: items => redactAt depth item :: redactItems depth count items
  | _, _ => []
  termination_by structural _ items => items

/-- The loop over the items of a mapping, with the index and what is redacted so far. -/
def redactEntries (depth index : Nat) (redacted : Entries) : List (Scalar × Value) → Entries
  | [] => redacted
  | entry :: entries =>
    if limits.maxMappingItems ≤ index then
      redacted.assign (.str "_truncated") (.scalar (.bool true))
    else redactEntries depth (index + 1) (redactEntry depth redacted entry) entries
  termination_by structural entries => entries

def redactEntry (depth : Nat) (redacted : Entries) : Scalar × Value → Entries
  | (key, item) =>
    redacted.assign (.str (keyText runtime key))
      (if isSensitiveValueKey runtime (keyText runtime key) then redactedValue
    else redactAt depth item)
  termination_by structural entry => entry
end

def redactSensitiveValue (value : Value) : Value := redactAt runtime limits 0 value

end redaction

section masking
variable (runtime : RedactionRuntime) (marker : Value)

mutual
/-- The value with the marker in the place of every value under a sensitive key. -/
def maskValue : Value → Value
  | .scalar scalar => .scalar scalar
  | .list items => .list (maskItems items)
  | .dict entries => .dict (maskEntries entries)
  termination_by structural value => value

def maskItems : List Value → List Value
  | [] => []
  | item :: items => maskValue item :: maskItems items
  termination_by structural items => items

def maskEntries : List (Scalar × Value) → List (Scalar × Value)
  | [] => []
  | entry :: entries => maskEntry entry :: maskEntries entries
  termination_by structural entries => entries

def maskEntry : Scalar × Value → Scalar × Value
  | (key, item) =>
    (key, if isSensitiveValueKey runtime (keyText runtime key) then marker else maskValue item)
  termination_by structural entry => entry
end

variable {runtime marker} {limits : RedactionLimits}

theorem maskItems_length (items : List Value) :
    (maskItems runtime marker items).length = items.length := by
  induction items with
  | nil => rfl
  | cons item items ih => rw [maskItems, List.length_cons, List.length_cons, ih]

mutual
/-- The redaction does not look below a sensitive key. -/
theorem redactAt_maskValue (depth : Nat) : ∀ value : Value,
    redactAt runtime limits depth (maskValue runtime marker value) =
      redactAt runtime limits depth value
  | .scalar scalar => rfl
  | .list items => by
    rw [maskValue, redactAt, redactAt, maskItems_length, redactItems_maskItems]
  | .dict entries => by
    rw [maskValue, redactAt, redactAt, redactEntries_maskEntries]
  termination_by structural value => value

theorem redactItems_maskItems (depth count : Nat) : ∀ items : List Value,
    redactItems runtime limits depth count (maskItems runtime marker items) =
      redactItems runtime limits depth count items
  | [] => rfl
  | item :: items => by
    cases count with
    | zero => rfl
    | succ count =>
      rw [maskItems, redactItems, redactItems, redactAt_maskValue, redactItems_maskItems]
  termination_by structural items => items

theorem redactEntries_maskEntries (depth index : Nat) (redacted : Entries) :
    ∀ entries : List (Scalar × Value),
    redactEntries runtime limits depth index redacted (maskEntries runtime marker entries) =
      redactEntries runtime limits depth index redacted entries
  | [] => rfl
  | entry :: entries => by
    rw [maskEntries, redactEntries, redactEntries, redactEntry_maskEntry, redactEntries_maskEntries]
  termination_by structural entries => entries

theorem redactEntry_maskEntry (depth : Nat) (redacted : Entries) : ∀ entry : Scalar × Value,
    redactEntry runtime limits depth redacted (maskEntry runtime marker entry) =
      redactEntry runtime limits depth redacted entry
  | (key, item) => by
    rw [maskEntry, redactEntry, redactEntry]
    split
    · rfl
    · rw [redactAt_maskValue]
  termination_by structural entry => entry
end

end masking

section bounds

/-- No more containers inside each other than `depth`, and no mapping, list or text beyond its
limit. -/
def Bounded (mappingItems sequenceItems : Nat) : Nat → Value → Prop
  | _, .scalar (.str text) => text.length ≤ maxLogLineLength
  | _, .scalar _ => True
  | 0, .list _ | 0, .dict _ => False
  | depth + 1, .list items =>
    items.length ≤ sequenceItems + 1 ∧ ∀ item ∈ items, Bounded mappingItems sequenceItems depth item
  | depth + 1, .dict entries =>
    entries.length ≤ mappingItems + 1 ∧
      ∀ entry ∈ entries, Bounded mappingItems sequenceItems depth entry.2

theorem truncateLogLine_length (line : String) :
    (truncateLogLine line).1.length ≤ maxLogLineLength := by
  unfold truncateLogLine
  split
  next short => exact short
  next =>
    have suffix : truncatedLogLineSuffix.length = 12 := rfl
    rw [String.length_append, String.length_ofList, suffix, List.length_take]
    unfold maxLogLineLength
    omega

theorem assign_length (key : Scalar) (value : Value) (entries : Entries) :
    (entries.assign key value).length ≤ entries.length + 1 := by
  induction entries with
  | nil => simp [Entries.assign]
  | cons entry entries ih =>
    rw [Entries.assign]
    split
    · simp
    · simpa using ih

variable {runtime : RedactionRuntime} {depth mappingItems sequenceItems : Nat}

def countedLimits (maxDepth mappingItems sequenceItems : Nat) : RedactionLimits :=
  ⟨maxDepth, mappingItems, sequenceItems⟩

theorem bounded_truncated (depth : Nat) :
    Bounded mappingItems sequenceItems depth truncatedValue := by
  unfold truncatedValue Bounded
  decide

theorem bounded_redacted (depth : Nat) :
    Bounded mappingItems sequenceItems depth redactedValue := by
  unfold redactedValue Bounded
  decide

theorem bounded_mark (depth : Nat) :
    Bounded mappingItems sequenceItems depth (.scalar (.bool true)) := by
  simp [Bounded]

theorem bounded_redactScalar (depth : Nat) (scalar : Scalar) :
    Bounded mappingItems sequenceItems depth (redactScalar runtime scalar) := by
  cases scalar with
  | str text =>
    unfold redactScalar redactText Bounded
    exact truncateLogLine_length _
  | other type content =>
    unfold redactScalar redactText Bounded
    exact truncateLogLine_length _
  | _ =>
    unfold redactScalar Bounded
    trivial

theorem redactItems_length (runtime : RedactionRuntime) (limits : RedactionLimits)
    (depth count : Nat) (items : List Value) :
    (redactItems runtime limits depth count items).length ≤ count := by
  induction items generalizing count with
  | nil => cases count <;> simp [redactItems]
  | cons item items ih =>
    cases count with
    | zero => simp [redactItems]
    | succ count =>
      rw [redactItems, List.length_cons]
      exact Nat.succ_le_succ (ih count)

/-- The mapping is never ahead of the index, and the mark of the cut is one more. -/
theorem redactEntries_length (limits : RedactionLimits) (depth : Nat) {index : Nat}
    {redacted : Entries} (entries : List (Scalar × Value))
    (counted : limits.maxMappingItems = mappingItems) (sofar : redacted.length ≤ index)
    (within : index ≤ mappingItems) :
    (redactEntries runtime limits depth index redacted entries).length ≤ mappingItems + 1 := by
  induction entries generalizing index redacted with
  | nil =>
    rw [redactEntries]
    omega
  | cons entry entries ih =>
    rw [redactEntries]
    split
    next =>
      have one := assign_length (.str "_truncated") (.scalar (.bool true)) redacted
      omega
    next more =>
      refine ih ?_ ?_
      · obtain ⟨key, item⟩ := entry
        rw [redactEntry]
        exact (assign_length _ _ _).trans (Nat.succ_le_succ sofar)
      · rw [counted] at more
        omega

theorem bounded_cutAt {value : Value} (maxDepth depth : Nat)
    (inner : depth < maxDepth →
      Bounded mappingItems sequenceItems (maxDepth - (depth + 1) + 1) value) :
    Bounded mappingItems sequenceItems (maxDepth - depth)
      (cutAt (countedLimits maxDepth mappingItems sequenceItems) depth value) := by
  unfold cutAt
  split
  · exact bounded_truncated _
  next shallow =>
    have below : depth < maxDepth := Int.ofNat_lt.mp (Int.not_le.mp shallow)
    rw [show maxDepth - depth = maxDepth - (depth + 1) + 1 by omega]
    exact inner below

mutual
theorem bounded_redactAt (maxDepth depth : Nat) : ∀ value : Value,
    Bounded mappingItems sequenceItems (maxDepth - depth)
      (redactAt runtime (countedLimits maxDepth mappingItems sequenceItems) depth value)
  | .scalar scalar => by
    rw [redactAt]
    exact bounded_cutAt _ _ fun _ => bounded_redactScalar _ scalar
  | .list items => by
    rw [redactAt]
    refine bounded_cutAt _ _ fun _ => ⟨?_, ?_⟩
    · have shown :=
        redactItems_length runtime (countedLimits maxDepth mappingItems sequenceItems) (depth + 1)
        (sliceLength sequenceItems items.length) items
      have slice : sliceLength sequenceItems items.length ≤ sequenceItems := by
        unfold sliceLength
        rw [if_pos (Int.natCast_nonneg _), Int.toNat_natCast]
        exact Nat.min_le_left _ _
      rw [List.length_append]
      refine Nat.add_le_add (shown.trans slice) ?_
      split <;> simp
    · intro item member
      obtain here | last := List.mem_append.mp member
      · exact bounded_redactItems _ _ _ items item here
      · split at last
        · rw [List.mem_singleton.mp last]
          exact bounded_truncated _
        · cases last
  | .dict entries => by
    rw [redactAt]
    refine bounded_cutAt _ _ fun _ =>
      ⟨redactEntries_length _ _ entries rfl (Nat.le_refl 0) (Nat.zero_le _), ?_⟩
    exact bounded_redactEntries _ _ _ [] (by simp) entries
  termination_by structural value => value

theorem bounded_redactItems (maxDepth depth count : Nat) : ∀ items : List Value,
    ∀ item ∈ redactItems runtime (countedLimits maxDepth mappingItems sequenceItems) depth
      count items, Bounded mappingItems sequenceItems (maxDepth - depth) item
  | [] => by cases count <;> simp [redactItems]
  | first :: items => by
    cases count with
    | zero => simp [redactItems]
    | succ count =>
      rw [redactItems]
      intro item member
      obtain rfl | later := List.mem_cons.mp member
      · exact bounded_redactAt _ _ first
      · exact bounded_redactItems _ _ _ items item later
  termination_by structural items => items

theorem bounded_redactEntries (maxDepth depth index : Nat) (redacted : Entries)
    (sofar : ∀ entry ∈ redacted, Bounded mappingItems sequenceItems (maxDepth - depth) entry.2) :
    ∀ entries : List (Scalar × Value),
      ∀ entry ∈ redactEntries runtime (countedLimits maxDepth mappingItems sequenceItems) depth
        index redacted entries, Bounded mappingItems sequenceItems (maxDepth - depth) entry.2
  | [] => by
    rw [redactEntries]
    exact sofar
  | first :: entries => by
    rw [redactEntries]
    split
    · intro entry member
      obtain isMark | old := Entries.mem_assign member
      · rw [isMark]
        exact bounded_mark _
      · exact sofar entry old
    · exact bounded_redactEntries _ _ _ _ (bounded_redactEntry _ _ redacted sofar first) entries
  termination_by structural entries => entries

theorem bounded_redactEntry (maxDepth depth : Nat) (redacted : Entries)
    (sofar : ∀ entry ∈ redacted, Bounded mappingItems sequenceItems (maxDepth - depth) entry.2) :
    ∀ first : Scalar × Value,
      ∀ entry ∈ redactEntry runtime (countedLimits maxDepth mappingItems sequenceItems) depth
        redacted first, Bounded mappingItems sequenceItems (maxDepth - depth) entry.2
  | (key, item) => by
    rw [redactEntry]
    intro entry member
    obtain isValue | old := Entries.mem_assign member
    · rw [isValue]
      split
      · exact bounded_redacted _
      · exact bounded_redactAt _ _ item
    · exact sofar entry old
  termination_by structural first => first
end

theorem redaction_hides_and_bounds (runtime : RedactionRuntime) (limits : RedactionLimits)
    (marker one other : Value)
    (alike : maskValue runtime marker one = maskValue runtime marker other) :
    redactSensitiveValue runtime limits one = redactSensitiveValue runtime limits other ∧
      ∀ (maxDepth mappingItems sequenceItems : Nat) (value : Value),
        Bounded mappingItems sequenceItems maxDepth
        (redactSensitiveValue runtime
          (countedLimits maxDepth mappingItems sequenceItems) value) := by
  constructor
  · calc redactSensitiveValue runtime limits one
        = redactAt runtime limits 0 (maskValue runtime marker one) :=
          (redactAt_maskValue 0 one).symm
      _ = redactAt runtime limits 0 (maskValue runtime marker other) := by rw [alike]
      _ = redactSensitiveValue runtime limits other := redactAt_maskValue 0 other
  · intro maxDepth mappingItems sequenceItems value
    exact bounded_redactAt maxDepth 0 value

def plainRuntime : RedactionRuntime := ⟨id, fun _ => "", id⟩

def loginValue (secret : Value) : Value :=
  .dict [(.str "user", .scalar (.str "u")), (.str "pass-word", secret)]

theorem redaction_hides_and_bounds_sample :
    redactSensitiveValue plainRuntime (countedLimits 2 5 5) (loginValue (.list [truncatedValue])) =
      redactSensitiveValue plainRuntime (countedLimits 2 5 5) (loginValue (.scalar .none)) := by
  have sensitive : isSensitiveValueKey plainRuntime "pass-word" = true := by decide +kernel
  refine (redaction_hides_and_bounds plainRuntime (countedLimits 2 5 5) redactedValue _ _ ?_).1
  simp [loginValue, maskValue, maskEntries, maskEntry, keyText, sensitive]

end bounds

end K8sOps.Security
