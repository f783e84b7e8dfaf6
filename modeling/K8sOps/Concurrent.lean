import K8sOps.Calls

/-! Programs that run side by side against one server. What a call answers is not
determined by the state of the server, and other programs make their calls in between.
What they may change is the rely; what a program may ask for is allowed or not. -/
namespace K8sOps.Calls.Program
variable {Op : Type} {Answer : Op → Type} {S α β ι : Type}

section careful
variable (respond : (op : Op) → S → Answer op → S → Prop) (rely : S → S → Prop)
  (allowed : Op → S → Prop)

/-- Whatever happens between its calls, each of them is allowed when it is made, and the
result meets `post`. -/
def Careful : Program Op Answer α → S → (α → S → Prop) → Prop
  | .done value, s, post => ∀ t, rely s t → post value t
  | .call op next, s, post =>
    ∀ t, rely s t → allowed op t ∧ ∀ answer u, respond op t answer u → Careful (next answer) u post

end careful

variable {respond : (op : Op) → S → Answer op → S → Prop} {rely : S → S → Prop}
  {allowed : Op → S → Prop} {program : Program Op Answer α} {next : α → Program Op Answer β}
  {post : α → S → Prop}

namespace Careful

theorem later (trans : ∀ ⦃s t u⦄, rely s t → rely t u → rely s u)
    (careful : Careful respond rely allowed program s post) (changed : rely s t) :
    Careful respond rely allowed program t post := by
  cases program with
  | done => exact fun u more => careful u (trans changed more)
  | call => exact fun u more => careful u (trans changed more)

theorem of_pure {value : α} (met : ∀ t, rely s t → post value t) :
    Careful respond rely allowed (pure value : Program Op Answer α) s post := met

theorem bind {more : β → S → Prop} (refl : ∀ s, rely s s)
    (first : Careful respond rely allowed program s post)
    (rest : ∀ value t, post value t → Careful respond rely allowed (next value) t more) :
    Careful respond rely allowed (program >>= next) s more := by
  induction program generalizing s with
  | done value => exact rest value s (first s (refl s))
  | call op following ih =>
    intro t changed
    obtain ⟨permitted, answered⟩ := first t changed
    exact ⟨permitted, fun answer u response => ih answer (answered answer u response)⟩

end Careful

/-- The programs that are running, each with what is left of it. -/
abbrev Pool (ι : Type) (Op : Type) (Answer : Op → Type) (α : Type) :=
  ι → Option (Program Op Answer α)

def Pool.Careful (respond : (op : Op) → S → Answer op → S → Prop) (rely : S → S → Prop)
    (allowed : Op → S → Prop) (pool : Pool ι Op Answer α) (s : S) : Prop :=
  ∀ index program, pool index = some program →
    Program.Careful respond rely allowed program s fun _ _ => True

namespace Pool
variable {pool : Pool ι Op Answer α}

theorem Careful.later (trans : ∀ ⦃s t u⦄, rely s t → rely t u → rely s u)
    (careful : pool.Careful respond rely allowed s) (changed : rely s t) :
    pool.Careful respond rely allowed t :=
  fun index program running => (careful index program running).later trans changed

variable [DecidableEq ι]

def set (pool : Pool ι Op Answer α) (index : ι)
    (program : Option (Program Op Answer α)) : Pool ι Op Answer α :=
  fun other => if other = index then program else pool other

theorem Careful.set {replaced : Option (Program Op Answer α)}
    (careful : pool.Careful respond rely allowed s)
    (own : ∀ program, replaced = some program →
      Program.Careful respond rely allowed program s fun _ _ => True) :
    (pool.set index replaced).Careful respond rely allowed s := by
  intro other program running
  rw [Pool.set] at running
  split at running
  next => exact own program running
  next => exact careful other program running

/-- A call of one program: it is allowed, and what it changes is what the others rely on. -/
theorem Careful.call {next : Answer op → Program Op Answer α} (refl : ∀ s, rely s s)
    (trans : ∀ ⦃s t u⦄, rely s t → rely t u → rely s u)
    (guarantee : ∀ ⦃op s answer t⦄, allowed op s → respond op s answer t → rely s t)
    (careful : pool.Careful respond rely allowed s) (running : pool index = some (.call op next))
    (answered : respond op s answer t) :
    allowed op s ∧ (pool.set index (some (next answer))).Careful respond rely allowed t := by
  obtain ⟨permitted, continued⟩ := careful index _ running s (refl s)
  have others := careful.later trans (guarantee permitted answered)
  refine ⟨permitted, others.set fun program same => ?_⟩
  cases same
  exact continued answer t answered

end Pool

end K8sOps.Calls.Program
