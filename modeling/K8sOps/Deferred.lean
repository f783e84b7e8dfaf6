import K8sOps.Transition

/-! Handlers that read a shared state and write to it later. Between the two steps
other handlers read and write, and other actors change the state at once. One rule
derives what still holds of every pending write from what each kind of step keeps. -/
namespace K8sOps.Deferred
open Transition
variable {S P R W O : Type}

/-- A read yields tasks; each is written later, with what is known at that time. -/
structure Machine (S P R W O : Type) where
  read : S → R → List P
  write : S → P → W → S
  act : S → O → Option S

structure State (S P : Type) where
  shared : S
  pending : List P

inductive Label (R W O : Type) where
  | read (request : R)
  | write (index : Nat) (input : W)
  | act (action : O)

def Machine.next (machine : Machine S P R W O) (state : State S P) :
    Label R W O → Option (State S P)
  | .read request =>
    some { state with pending := machine.read state.shared request ++ state.pending }
  | .write index input =>
    state.pending[index]?.map fun task =>
      ⟨machine.write state.shared task input, state.pending.eraseIdx index⟩
  | .act action => (machine.act state.shared action).map fun shared => { state with shared }

/-- The state is sound, every task is fresh, and pending tasks are apart. -/
structure Settled (Sound : S → Prop) (Fresh : S → P → Prop) (Apart : P → P → Prop)
    (state : State S P) : Prop where
  sound : Sound state.shared
  fresh : ∀ task ∈ state.pending, Fresh state.shared task
  apart : state.pending.Pairwise Apart

/-- What each step has to keep, when it is taken in a state that meets the guard. -/
structure Rule (machine : Machine S P R W O) (guard : State S P → Label R W O → Prop)
    (Sound : S → Prop) (Fresh : S → P → Prop) (Apart : P → P → Prop) : Prop where
  symm : ∀ ⦃one two⦄, Apart one two → Apart two one
  apart : ∀ ⦃state request⦄, guard state (.read request) → Sound state.shared →
    (machine.read state.shared request).Pairwise Apart ∧
      ∀ task ∈ machine.read state.shared request, ∀ other ∈ state.pending, Apart task other
  read : ∀ ⦃shared request⦄, Sound shared → ∀ task ∈ machine.read shared request, Fresh shared task
  write : ∀ ⦃state index input task⦄, guard state (.write index input) →
    state.pending[index]? = some task →
    Sound state.shared → Fresh state.shared task → Sound (machine.write state.shared task input) ∧
      ∀ other, Fresh state.shared other → Apart task other →
        Fresh (machine.write state.shared task input) other
  act : ∀ ⦃shared action next⦄, Sound shared → machine.act shared action = some next → Sound next ∧
    ∀ task, Fresh shared task → Fresh next task

theorem pairwise_eraseIdx {Apart : P → P → Prop} (symm : ∀ ⦃one two⦄, Apart one two → Apart two one)
    {tasks : List P} (apart : tasks.Pairwise Apart) (found : tasks[index]? = some task)
    (other : P) (remaining : other ∈ tasks.eraseIdx index) : Apart task other := by
  obtain ⟨place, different, elsewhere⟩ := List.mem_eraseIdx_iff_getElem?.mp remaining
  obtain ⟨here, rfl⟩ := List.getElem?_eq_some_iff.mp found
  obtain ⟨there, rfl⟩ := List.getElem?_eq_some_iff.mp elsewhere
  rw [List.pairwise_iff_getElem] at apart
  obtain before | after := Nat.lt_or_gt_of_ne different
  · exact symm (apart place index there here before)
  · exact apart index place here there after

variable {machine : Machine S P R W O} {guard : State S P → Label R W O → Prop} {Sound : S → Prop}
  {Fresh : S → P → Prop} {Apart : P → P → Prop}

/-- The rule keeps a state settled. -/
theorem Rule.stable (rule : Rule machine guard Sound Fresh Apart) :
    Stable (Step machine.next guard) (Settled Sound Fresh Apart) := by
  intro state label next step settled
  obtain ⟨guarded, stepped⟩ := step
  cases label with
  | read request =>
    cases stepped
    obtain ⟨together, others⟩ := rule.apart guarded settled.sound
    refine ⟨settled.sound, fun task member => ?_,
      List.pairwise_append.mpr ⟨together, settled.apart, others⟩⟩
    obtain new | earlier := List.mem_append.mp member
    · exact rule.read settled.sound task new
    · exact settled.fresh task earlier
  | write index input =>
    obtain ⟨task, found, rfl⟩ := Option.map_eq_some_iff.mp stepped
    obtain ⟨sound, keeps⟩ := rule.write guarded found settled.sound
      (settled.fresh task (List.mem_of_getElem? found))
    refine ⟨sound, fun other remaining => ?_, settled.apart.sublist (List.eraseIdx_sublist _ _)⟩
    exact keeps other (settled.fresh other (List.mem_of_mem_eraseIdx remaining))
      (pairwise_eraseIdx rule.symm settled.apart found other remaining)
  | act action =>
    obtain ⟨shared, acted, rfl⟩ := Option.map_eq_some_iff.mp stepped
    obtain ⟨sound, keeps⟩ := rule.act settled.sound acted
    exact ⟨sound, fun task member => keeps task (settled.fresh task member), settled.apart⟩

end K8sOps.Deferred
