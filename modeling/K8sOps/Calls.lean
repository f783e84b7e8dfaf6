import Mathlib.Logic.Basic

/-! Programs that work by calls to a server, each of which the server makes in one
step. -/
namespace K8sOps.Calls

inductive Program (Op : Type) (Answer : Op → Type) (α : Type) where
  | done (value : α)
  | call (op : Op) (next : Answer op → Program Op Answer α)

/-- What the server answers to a call, and what it becomes. -/
abbrev Server (Op : Type) (Answer : Op → Type) (S : Type) := (op : Op) → S → Answer op × S

namespace Program
variable {Op : Type} {Answer : Op → Type} {α β : Type}

def bind : Program Op Answer α → (α → Program Op Answer β) → Program Op Answer β
  | .done value, next => next value
  | .call op rest, next => .call op fun answer => (rest answer).bind next

instance : Monad (Program Op Answer) where
  pure := .done
  bind := bind

end Program

end K8sOps.Calls
