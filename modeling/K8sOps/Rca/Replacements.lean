import Mathlib.Algebra.Order.Floor.Ring
import Mathlib.Algebra.Order.Ring.Unbundled.Rat
import Mathlib.Data.Rat.Floor
import K8sOps.Gitops.Diffing
import K8sOps.Gitops.SourcePatch

/-! `oom_memory_replacements`: the memory request and limit that a recovery action proposes for a
container that ran out of memory. -/
namespace K8sOps.Rca
open Python Gitops

/-- The conversions that the generator uses. -/
structure Conversions where
  /-- The float nearest to a number, or nothing if it is out of range. -/
  rounded : Rat → Option Rat

/-- The part of an authority context that the generator reads. -/
structure GitOpsAuthorityContext where
  evidence : Entries

def firstStr (values : List Value) : String := ((values.map asText).find? (· ≠ "")).getD ""

def nestedValue : Value → List String → Value
  | current, [] => current
  | .dict entries, key :: keys => nestedValue (getOrNone key entries) keys
  | _, _ :: _ => .scalar .none

variable (convert : Conversions)

def containerPath (name : String) : String := "spec.template.spec.containers[name=" ++ name ++ "]"

def overflow : PatchError := .other "OverflowError"

def toFloat (value : Rat) : Except PatchError Rat :=
  match convert.rounded value with
  | some number => .ok number
  | none => .error overflow

/-- A number of the evidence as a finite float. -/
def numericCandidate : Value → Except PatchError (Option Rat)
  | .scalar (.int value) => do .ok (some (← toFloat convert value))
  | .scalar (.float (.finite value)) => .ok (some value)
  | .scalar (.float .negativeZero) => .ok (some 0)
  | _ => .ok none

mutual
/-- The first number under the key, level by level from the outside. -/
def numericEvidenceValue (key : String) : Value → Except PatchError (Option Rat)
  | .dict entries => do
    match ← numericCandidate convert (getOrNone key entries) with
    | some found => .ok (some found)
    | none => numericEvidenceEntries key entries
  | .list items => numericEvidenceItems key items
  | .scalar _ => .ok none
  termination_by structural value => value

def numericEvidenceItems (key : String) : List Value → Except PatchError (Option Rat)
  | [] => .ok none
  | item :: items => do
    match ← numericEvidenceValue key item with
    | some found => .ok (some found)
    | none => numericEvidenceItems key items
  termination_by structural items => items

def numericEvidenceEntries (key : String) : List (Scalar × Value) → Except PatchError (Option Rat)
  | [] => .ok none
  | entry :: entries => do
    match ← numericEvidenceEntry key entry with
    | some found => .ok (some found)
    | none => numericEvidenceEntries key entries
  termination_by structural entries => entries

def numericEvidenceEntry (key : String) : Scalar × Value → Except PatchError (Option Rat)
  | (_, value) => numericEvidenceValue key value
  termination_by structural entry => entry
end

def mib : Nat := 1024 ^ 2

/-- `math.ceil(bytes * factor / mib)` of floats. An infinite result cannot be rounded up. -/
def ceilMib (bytes factor : Rat) : Except PatchError Int := do
  let product ← toFloat convert (bytes * factor)
  let quotient ← toFloat convert (product / mib)
  .ok ⌈quotient⌉

def mibText (count : Int) : Value := .scalar (.str (toString count ++ "Mi"))

/-- `memory_quantity_bytes(desired) > bytes`. -/
def exceeds (desired : Value) (bytes : Nat) : Except PatchError Bool := do
  match ← memoryQuantityBytes desired with
  | some found => .ok (bytes < found)
  | none => .error .typeError

/-- The replacement of a quantity that grows. -/
def growing (path : String) (current : Value) (bytes : Nat) (desired : Value) :
    Except PatchError (List ScalarFieldReplacement) := do
  .ok (if ← exceeds desired bytes then [⟨path, current, desired⟩] else [])

def requestOf (container : Entries) : Value :=
  nestedValue (.dict container) ["resources", "requests", "memory"]

def limitOf (container : Entries) : Value :=
  nestedValue (.dict container) ["resources", "limits", "memory"]

def usageOf (authority : GitOpsAuthorityContext) : Except PatchError (Option Rat) :=
  numericEvidenceValue convert "container_memory_working_set_bytes" (.dict authority.evidence)

def oomMemoryReplacements (authority : GitOpsAuthorityContext) :
    Option Entries → Except PatchError (List ScalarFieldReplacement)
  | none => .ok []
  | some container => do
    let name := firstStr [getOrNone "name" container]
    let requestBytes ← memoryQuantityBytes (requestOf container)
    let limitBytes ← memoryQuantityBytes (limitOf container)
    let usageBytes ← usageOf convert authority
    match requestBytes, limitBytes, usageBytes with
    | some requestBytes, some limitBytes, some usageBytes =>
      if name = "" ∨ usageBytes ≤ 0 then .ok []
      else
        let limit ← toFloat convert limitBytes
        let limitForLimit ← ceilMib convert limit (5 / 4)
        let limitForUsage ← ceilMib convert usageBytes (5 / 4)
        let request ← toFloat convert requestBytes
        let requestForRequest ← ceilMib convert request (5 / 4)
        let share ← toFloat convert (4 / 5)
        let requestForUsage ← ceilMib convert usageBytes share
        let desiredLimitMib := max limitForLimit limitForUsage
        if 4096 < desiredLimitMib then .ok []
        else
          let desiredRequestMib := min (max requestForRequest requestForUsage) desiredLimitMib
          let above := containerPath name ++ ".resources"
          let requests ← growing (above ++ ".requests.memory") (requestOf container) requestBytes
            (mibText desiredRequestMib)
          let limits ← growing (above ++ ".limits.memory") (limitOf container) limitBytes
            (mibText desiredLimitMib)
          .ok (requests ++ limits)
    | _, _, _ => .ok []

end K8sOps.Rca
