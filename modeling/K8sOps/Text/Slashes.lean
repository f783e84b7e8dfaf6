import Mathlib.Data.List.Infix

/-! Texts of parts with a separator between them, and paths, whose separator is the slash. -/
namespace K8sOps.Text

def slashed (path : String) : List (List Char) := path.toList.splitOn '/'

def joined (parts : List (List Char)) : String := String.ofList (['/'].intercalate parts)

theorem not_mem_of_mem_splitOn {separator : Char} {text part : List Char}
    (member : part ∈ text.splitOn separator) :
    separator ∉ part := by
  induction text generalizing part with
  | nil =>
    rw [List.splitOn_nil, List.mem_singleton] at member
    rw [member]
    exact List.not_mem_nil
  | cons c text ih =>
    rw [List.splitOn_cons_eq_if_modifyHead] at member
    split at member
    next =>
      obtain rfl | later := List.mem_cons.mp member
      · exact List.not_mem_nil
      · exact ih later
    next other =>
      obtain ⟨first, rest, split⟩ := List.exists_cons_of_ne_nil (List.splitOn_ne_nil separator text)
      rw [split, List.modifyHead_cons] at member
      obtain rfl | later := List.mem_cons.mp member
      · intro inside
        obtain same | inside := List.mem_cons.mp inside
        · exact other (beq_iff_eq.mpr same.symm)
        · exact ih (split ▸ List.mem_cons_self) inside
      · exact ih (split ▸ List.mem_cons_of_mem _ later)

theorem intercalate_append {separator : Char} {front back : List (List Char)} (first : front ≠ [])
    (last : back ≠ []) :
    [separator].intercalate (front ++ back) =
      [separator].intercalate front ++ separator :: [separator].intercalate back := by
  obtain ⟨next, back, rfl⟩ := List.exists_cons_of_ne_nil last
  induction front with
  | nil => exact absurd rfl first
  | cons part front ih =>
    cases front with
    | nil => simp
    | cons other front =>
      rw [List.cons_append, List.cons_append, List.intercalate_cons_cons, ← List.cons_append,
        ih (List.cons_ne_nil _ _), List.intercalate_cons_cons]
      simp

theorem separated_inj {separator : Char} {front other : List Char} (plain : separator ∉ front)
    (otherPlain : separator ∉ other)
    (same : front ++ separator :: back = other ++ separator :: otherBack) :
    front = other ∧ back = otherBack := by
  induction front generalizing other with
  | nil =>
    cases other with
    | nil => exact ⟨rfl, List.tail_eq_of_cons_eq same⟩
    | cons c other => exact absurd (List.head_eq_of_cons_eq same ▸ List.mem_cons_self) otherPlain
  | cons c front ih =>
    cases other with
    | nil => exact absurd (List.head_eq_of_cons_eq same ▸ List.mem_cons_self) plain
    | cons d other =>
      obtain ⟨rfl, rest⟩ := List.cons.inj same
      obtain ⟨rfl, backs⟩ := ih (fun inside => plain (List.mem_cons_of_mem _ inside))
        (fun inside => otherPlain (List.mem_cons_of_mem _ inside)) rest
      exact ⟨rfl, backs⟩

/-- A text and parts without the separator, joined: the text is split, the parts are read back. -/
theorem splitOn_intercalate_cons {separator : Char} (text : List Char) {parts : List (List Char)}
    (plain : ∀ part ∈ parts, separator ∉ part) :
    ([separator].intercalate (text :: parts)).splitOn separator =
      text.splitOn separator ++ parts := by
  have whole : [separator].intercalate (text :: parts) =
      [separator].intercalate (text.splitOn separator ++ parts) := by
    cases parts with
    | nil => rw [List.append_nil, List.intercalate_splitOn, List.intercalate_singleton]
    | cons part parts =>
      rw [intercalate_append (List.splitOn_ne_nil _ _) (List.cons_ne_nil _ _),
        List.intercalate_splitOn, List.intercalate_cons_cons]
      simp
  rw [whole, List.splitOn_intercalate]
  · intro part member
    rcases List.mem_append.mp member with own | other
    · exact not_mem_of_mem_splitOn own
    · exact plain part other
  · exact List.append_ne_nil_of_left_ne_nil (List.splitOn_ne_nil _ _) _

theorem slashed_joined {parts : List (List Char)} (plain : ∀ part ∈ parts, '/' ∉ part)
    (nonempty : parts ≠ []) :
    slashed (joined parts) = parts := by
  rw [slashed, joined, String.toList_ofList, List.splitOn_intercalate '/' plain nonempty]

theorem joined_slashed (path : String) : joined (slashed path) = path := by
  rw [joined, slashed, List.intercalate_splitOn, String.ofList_toList]

/-- A path of named parts below the root of the repository. -/
def Inside (path : String) : Prop :=
  path ≠ "" ∧ ∀ part ∈ slashed path, part ≠ [] ∧ part ≠ ['.'] ∧ part ≠ ['.', '.']

theorem ne_nil_of_mem_splitOn {text part : List Char} (nonempty : text ≠ [])
    (first : text.head? ≠ some '/') (last : text.getLast? ≠ some '/')
    (single : ¬['/', '/'] <:+: text) (member : part ∈ text.splitOn '/') :
    part ≠ [] := by
  rintro rfl
  have whole : ['/'].intercalate (text.splitOn '/') = text := List.intercalate_splitOn '/'
  obtain ⟨front, back, parts⟩ := List.append_of_mem member
  rw [parts] at whole
  rcases front.eq_nil_or_concat with rfl | ⟨before, near, rfl⟩
  · cases back with
    | nil => exact nonempty (by rw [← whole]; rfl)
    | cons next back =>
      rw [List.nil_append, List.intercalate_cons_cons] at whole
      exact first (by rw [← whole]; rfl)
  · rw [intercalate_append (by simp) (List.cons_ne_nil _ _)] at whole
    cases back with
    | nil => exact last (by rw [← whole]; simp [List.intercalate])
    | cons next back =>
      rw [List.intercalate_cons_cons] at whole
      exact single ⟨_, _, by rw [List.append_assoc]; exact whole⟩

end K8sOps.Text
