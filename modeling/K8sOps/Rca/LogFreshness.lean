import Mathlib.Algebra.Order.Ring.Cast
import Mathlib.Algebra.Order.Ring.Rat
import K8sOps.Rca.MemorySizing

/-! Whether a log sample is current. Its stamp is a date or a number, whose unit is guessed from its
size; a stamp that gives no time counts as current. -/
namespace K8sOps.Rca
open Python Gitops

section model

/-- `datetime.fromisoformat` in UTC, a trailing `Z` allowed, in seconds since the epoch, and `int`
of a text. A text of digits only is not a date; up to twenty of them are read as the number. -/
structure StampRuntime where
  isoTime : String → Option Rat
  readInt : String → Option Int
  digits : ∀ count : Nat, isoTime (toString count) = none
  decimal : ∀ count : Nat, count < 10 ^ 20 → readInt (toString count) = some count

/-- `MAX_LOG_SIGNAL_AGE` in seconds. -/
def maxLogSignalAge : Rat := 300

/-- The first second of the year 1 and the first one behind the year 9999. -/
def firstSecond : Int := -62135596800

def endSecond : Int := 253402300800

/-- `datetime.fromtimestamp` in UTC. -/
def fromTimestamp (seconds : Rat) : Option Rat :=
  if (firstSecond : Rat) ≤ seconds ∧ seconds < (endSecond : Rat) then some seconds else none

def parseDatetime (runtime : StampRuntime) : Value → Option Rat
  | .scalar (.str text) => if text = "" then none else runtime.isoTime text
  | _ => none

def logTimestamp (runtime : StampRuntime) (value : Value) : Option Rat :=
  match parseDatetime runtime value with
  | some parsed => some parsed
  | none =>
    match value with
    | .scalar (.str text) =>
      if text = "" then none
      else
        (runtime.readInt text).bind fun raw =>
          if 10000000000000000 < raw then fromTimestamp ((raw : Rat) / 1000000000)
          else if 10000000000000 < raw then fromTimestamp ((raw : Rat) / 1000)
          else fromTimestamp raw
    | _ => none

def logSampleIsCurrent (timestamp collectedAt : Option Rat) : Bool :=
  match timestamp, collectedAt with
  | some timestamp, some collectedAt => decide (|collectedAt - timestamp| ≤ maxLogSignalAge)
  | _, _ => true

end model

section units

inductive StampUnit where
  | seconds
  | milliseconds
  | microseconds
  | nanoseconds

def StampUnit.perSecond : StampUnit → Nat
  | .seconds => 1
  | .milliseconds => 1000
  | .microseconds => 1000000
  | .nanoseconds => 1000000000

def StampUnit.written (unit : StampUnit) (instant : Nat) :
    Value := .scalar (.str (toString (instant * unit.perSecond)))

/-- The first second of 2001-09-10 and the first one behind the year 2100. -/
def InEra (instant : Nat) : Prop := 1000080000 ≤ instant ∧ instant < 4133980800

variable {instant : Nat}

theorem logTimestamp_digits (runtime : StampRuntime) {count : Nat} (short : count < 10 ^ 20) :
    logTimestamp runtime (.scalar (.str (toString count))) =
      if 10000000000000000 < (count : Int) then fromTimestamp (((count : Int) : Rat) / 1000000000)
      else if 10000000000000 < (count : Int) then fromTimestamp (((count : Int) : Rat) / 1000)
      else fromTimestamp ((count : Int) : Rat) := by
  have written : toString count ≠ "" := by
    intro empty
    have none : Nat.toDigits 10 count = [] := by simpa using congrArg String.toList empty
    exact Nat.toDigits_ne_nil none
  rw [logTimestamp, parseDatetime, if_neg written, runtime.digits, if_neg written,
    runtime.decimal count short]
  rfl

theorem fromTimestamp_second (era : InEra instant) :
    fromTimestamp ((instant : Int) : Rat) = some (instant : Rat) := by
  have first : firstSecond ≤ (instant : Int) := by
    rw [firstSecond]
    omega
  have last : (instant : Int) < endSecond := by
    obtain ⟨_, before⟩ := era
    rw [endSecond]
    omega
  rw [fromTimestamp, if_pos ⟨Int.cast_le.mpr first, Int.cast_lt.mpr last⟩, Int.cast_natCast]

/-- Thousandths of a second taken for seconds lie behind the year 9999. -/
theorem fromTimestamp_thousandth (era : InEra instant) :
    fromTimestamp (((instant * 1000 : Nat) : Int) : Rat) = none := by
  have behind : endSecond ≤ ((instant * 1000 : Nat) : Int) := by
    obtain ⟨after, _⟩ := era
    rw [endSecond]
    omega
  rw [fromTimestamp, if_neg fun inside => absurd inside.2 (not_lt.mpr (Int.cast_le.mpr behind))]

theorem cast_mul_div (instant per : Nat) (positive : per ≠ 0) :
    (((instant * per : Nat) : Int) : Rat) / (per : Rat) = ((instant : Int) : Rat) := by
  rw [Int.cast_natCast, Nat.cast_mul, Int.cast_natCast]
  exact mul_div_cancel_right₀ _ (Nat.cast_ne_zero.mpr positive)

/-- The time that is read: in two of the units there is none. -/
def StampUnit.read (instant : Nat) : StampUnit → Option Rat
  | .seconds | .nanoseconds => some instant
  | .milliseconds | .microseconds => none

theorem logTimestamp_written (runtime : StampRuntime) (era : InEra instant) (unit : StampUnit) :
    logTimestamp runtime (unit.written instant) = unit.read instant := by
  obtain ⟨after, before⟩ := id era
  have short : instant * unit.perSecond < 10 ^ 20 := by
    cases unit <;> (rw [StampUnit.perSecond]; omega)
  rw [StampUnit.written, logTimestamp_digits runtime short]
  cases unit with
  | seconds =>
    rw [StampUnit.perSecond, if_neg (by omega), if_neg (by omega), Nat.mul_one]
    exact fromTimestamp_second era
  | milliseconds =>
    rw [StampUnit.perSecond, if_neg (by omega), if_neg (by omega)]
    exact fromTimestamp_thousandth era
  | microseconds =>
    have thousandths : instant * 1000000 = instant * 1000 * 1000 := by omega
    have divided := cast_mul_div (instant * 1000) 1000 (by decide)
    rw [StampUnit.perSecond, if_neg (by omega), if_pos (by omega), thousandths]
    exact (congrArg fromTimestamp divided).trans (fromTimestamp_thousandth era)
  | nanoseconds =>
    have divided := cast_mul_div instant 1000000000 (by decide)
    rw [StampUnit.perSecond, if_pos (by omega)]
    exact (congrArg fromTimestamp divided).trans (fromTimestamp_second era)

/-- The verdict is the same in every unit, that of the age, exactly if the age is within the bound:
in milliseconds and microseconds there is no other verdict. -/
theorem log_freshness_units_iff (runtime : StampRuntime) (era : InEra instant)
    (collectedAt : Option Rat) :
    (∀ unit : StampUnit, logSampleIsCurrent
      (logTimestamp runtime (unit.written instant)) collectedAt =
      logSampleIsCurrent (some instant) collectedAt) ↔
    ∀ collected, collectedAt = some collected → |collected - instant| ≤ maxLogSignalAge := by
  constructor
  · rintro same collected rfl
    have verdict := same .milliseconds
    rw [logTimestamp_written runtime era] at verdict
    exact of_decide_eq_true verdict.symm
  · intro within unit
    have current : logSampleIsCurrent (some instant) collectedAt = true := by
      cases collectedAt with
      | none => rfl
      | some collected => exact decide_eq_true (within collected rfl)
    rw [logTimestamp_written runtime era, current]
    cases unit with
    | seconds | nanoseconds => exact current
    | milliseconds | microseconds => rfl

/-- Digits are numbers and nothing is a date. -/
def digitRuntime : StampRuntime where
  isoTime _ := none
  readInt text := (text.toList.mapM decimalDigit).map fun digits =>
    Int.ofNat (digits.foldl (fun total digit => total * 10 + digit) 0)
  digits _ := rfl
  decimal count _ := by
    obtain ⟨first, rest, read, _, value⟩ := mapM_decimalDigit_toDigits count
    have text : (toString count).toList = Nat.toDigits 10 count := by simp
    rw [text, read, Option.map_some, value]
    rfl

/-- A sample of the second in which the evidence was collected. -/
theorem log_freshness_same_second :
    logSampleIsCurrent (logTimestamp digitRuntime (StampUnit.written .microseconds 1000080000))
      (some 1000080000) =
      logSampleIsCurrent (some (1000080000 : Nat)) (some 1000080000) := by
  refine (log_freshness_units_iff digitRuntime ⟨le_rfl, by decide⟩ _).mpr ?_ .microseconds
  rintro collected same
  cases same
  decide +kernel

/-- A sample that is an hour old is stale in seconds and current in milliseconds. -/
theorem hour_old_milliseconds_current :
    logSampleIsCurrent (logTimestamp digitRuntime (StampUnit.written .seconds 1000080000))
      (some 1000083600) = false ∧
    logSampleIsCurrent (logTimestamp digitRuntime (StampUnit.written .milliseconds 1000080000))
      (some 1000083600) = true := by
  have era : InEra 1000080000 := ⟨le_rfl, by decide⟩
  rw [logTimestamp_written digitRuntime era, logTimestamp_written digitRuntime era]
  decide +kernel

end units

end K8sOps.Rca
