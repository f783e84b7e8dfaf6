import K8sOps.Gitops.KustomizeOwnership
import K8sOps.Gitops.SourcePatchProofs
import K8sOps.Text.Pattern

/-! When the targets that the detector dismisses do not select the object. Kustomize takes
the fields of a target as patterns. The detector takes a field that has only letters,
digits, dots, underscores and hyphens for a literal name; a dot in it is an operator. -/
namespace K8sOps.Gitops
open Python Text

/-- The program together with the patterns of Kustomize. Letters and digits are no operators. -/
structure KustomizeRules extends Kustomize where
  engine : Engine
  isalnum_literal : isalnum c = true → c ∉ metacharacters

def exactFields (selected : ManifestIdentity) : List (String × String) :=
  [("kind", selected.kind), ("name", selected.name), ("namespace", selected.namespace_.getD "")]

/-- Kustomize's rule: every pattern of the target matches the whole text of its field. -/
def Selects (rules : KustomizeRules) (selected : ManifestIdentity) : Value → Prop
  | .dict target => ∀ field ∈ exactFields selected, ∀ pattern,
      getOrNone field.1 target = .scalar (.str pattern) → rules.engine.fullmatch pattern field.2
  | _ => True

/-- A text of letters, digits, dots, underscores and hyphens. -/
def NameText (kustomize : Kustomize) (pattern : String) : Prop :=
  ∀ c ∈ pattern.toList, kustomize.isalnum c = true ∨ c ∈ ['.', '_', '-']

/-- The first field of the target that is not the object's own looks like a name, and
differs from the object's only where it has dots. -/
def DecidedByDots (kustomize : Kustomize) (selected : ManifestIdentity) : Value → Prop
  | .dict target => ∃ before field after pattern,
      exactFields selected = before ++ field :: after ∧
      (∀ earlier ∈ before, selectorField kustomize target earlier = none) ∧
      getOrNone field.1 target = .scalar (.str pattern) ∧ pattern ≠ field.2 ∧
      NameText kustomize pattern ∧ Covers pattern field.2
  | _ => False

theorem NameText.plain {rules : KustomizeRules}
    (name : NameText rules.toKustomize pattern) : Plain pattern := by
  intro c member
  obtain letter | other := name c member
  · exact .inr (rules.isalnum_literal letter)
  · simp only [List.mem_cons, List.not_mem_nil, or_false] at other
    obtain rfl | rfl | rfl := other
    · exact .inl rfl
    · exact .inr (by decide)
    · exact .inr (by decide)

theorem selectorField_dismisses {kustomize : Kustomize} {target : Entries}
    {field : String × String} :
    selectorField kustomize target field = some false ↔ ∃ pattern,
      getOrNone field.1 target = .scalar (.str pattern) ∧ pattern ≠ field.2 ∧
      NameText kustomize pattern := by
  rw [selectorField]
  cases getOrNone field.1 target with
  | list | dict => simp
  | scalar value =>
    cases value with
    | str value =>
      by_cases same : value = field.2
      · simp [same]
      · simp [same, NameText]
    | none | bool | int | float | other => simp

theorem targetMaySelect_dismisses {kustomize : Kustomize} {target : Entries} :
    targetMaySelect kustomize selected (.dict target) = false ↔ ∃ before field after,
      exactFields selected = before ++ field :: after ∧
      (∀ earlier ∈ before, selectorField kustomize target earlier = none) ∧
      selectorField kustomize target field = some false := by
  rw [targetMaySelect]
  change ((exactFields selected).findSome? (selectorField kustomize target)).getD true = false ↔ _
  cases found : (exactFields selected).findSome? (selectorField kustomize target) with
  | none =>
    refine iff_of_false (by simp) ?_
    rintro ⟨before, field, after, split, _, dismissed⟩
    have undecided := List.findSome?_eq_none_iff.mp found field (by simp [split])
    cases undecided.symm.trans dismissed
  | some decision =>
    rw [Option.getD_some]
    constructor
    · rintro rfl
      obtain ⟨before, field, after, split, dismissed, undecided⟩ :=
        List.findSome?_eq_some_iff.mp found
      exact ⟨before, field, after, split, undecided, dismissed⟩
    · rintro ⟨before, field, after, split, undecided, dismissed⟩
      have again :=
        List.findSome?_eq_some_iff.mpr ⟨before, field, after, split, dismissed, undecided⟩
      exact Option.some.inj (found.symm.trans again)

/-- A target that selects the object is dismissed exactly if a dot is taken for a literal. -/
theorem targetMaySelect_sound_iff (rules : KustomizeRules) (selected : ManifestIdentity)
    (target : Value) :
    (Selects rules selected target → targetMaySelect rules.toKustomize selected target = true) ↔
      (Selects rules selected target → ¬DecidedByDots rules.toKustomize selected target) := by
  refine forall_congr' fun selects => ?_
  cases target with
  | scalar | list => exact iff_of_true rfl not_false
  | dict target =>
    rw [← Bool.not_eq_false, not_iff_not, targetMaySelect_dismisses]
    constructor
    · rintro ⟨before, field, after, split, undecided, dismissed⟩
      obtain ⟨pattern, present, different, name⟩ := selectorField_dismisses.mp dismissed
      have matched := selects field (by simp [split]) pattern present
      exact ⟨before, field, after, pattern, split, undecided, present, different, name,
        (rules.engine.plain name.plain).mp matched⟩
    · rintro ⟨before, field, after, pattern, split, undecided, present, different, name, _⟩
      exact ⟨before, field, after, split, undecided,
        selectorField_dismisses.mpr ⟨pattern, present, different, name⟩⟩

section sample

/-- Patterns without operators but the dot. -/
def dottedRules : KustomizeRules where
  runtime := sampleRuntime
  texts := .plain
  isalnum := Char.isAlphanum
  localReference reference _ _ := .ok reference
  engine := .dotsOnly
  isalnum_literal {c} letter special := by
    have none : metacharacters.all (fun c => !c.isAlphanum) = true := by decide
    exact absurd letter (by simpa using List.all_eq_true.mp none c special)

/-- The name `we.` matches `web`, and is taken for another name. -/
theorem targetMaySelect_dismisses_dotted :
    Selects dottedRules ⟨"apps/v1", "Deployment", none,
      "web"⟩ (.dict [(.str "name", .scalar (.str "we."))]) ∧
      targetMaySelect dottedRules.toKustomize ⟨"apps/v1", "Deployment", none, "web"⟩
        (.dict [(.str "name", .scalar (.str "we."))]) = false := by
  refine ⟨?_, by decide +kernel⟩
  intro field member pattern present
  simp only [exactFields, List.mem_cons, List.not_mem_nil, or_false] at member
  obtain rfl | rfl | rfl := member
  · cases present
  · cases present
    exact ⟨by decide, by decide⟩
  · cases present

end sample

end K8sOps.Gitops
