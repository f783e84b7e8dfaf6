import Mathlib.Data.List.Forall2

/-! Regular expressions that must match a whole text. Nothing is assumed of an engine but
what a pattern without operators means: its characters stand for themselves, and a dot for
any character of the line. -/
namespace K8sOps.Text

/-- The characters that are operators of a pattern. -/
def metacharacters : List Char :=
  ['\\', '.', '+', '*', '?', '(', ')', '|', '[', ']', '\x7b', '\x7d', '^', '$']

/-- No operator but the dot. -/
def Plain (pattern : String) : Prop := ∀ c ∈ pattern.toList, c = '.' ∨ c ∉ metacharacters

/-- Both texts agree wherever the first has no dot. -/
def Covers (pattern text : String) : Prop :=
  List.Forall₂ (fun p c => p = c ∨ p = '.' ∧ c ≠ '\n') pattern.toList text.toList

structure Engine where
  fullmatch : String → String → Prop
  plain : Plain pattern → (fullmatch pattern text ↔ Covers pattern text)

instance (pattern text : String) : Decidable (Covers pattern text) :=
  inferInstanceAs (Decidable (List.Forall₂ ..))

instance (pattern : String) : Decidable (Plain pattern) :=
  decidable_of_iff (pattern.toList.all fun c => c = '.' ∨ c ∉ metacharacters) (by simp [Plain])

/-- The engine that knows no operator but the dot. -/
def Engine.dotsOnly : Engine where
  fullmatch pattern text := Plain pattern ∧ Covers pattern text
  plain plain := and_iff_right plain

end K8sOps.Text
