import Mathlib.Data.List.DropRight

/-! The parts of Python's `str` that the program uses on arbitrary text. -/
namespace K8sOps.Python

/-- `str.isspace` for one character. -/
def isSpace (c : Char) : Bool :=
  let code := c.toNat
  (9 ≤ code && code ≤ 13) || (28 ≤ code && code ≤ 32) || code == 0x85 || code == 0xA0 ||
    code == 0x1680 || (0x2000 ≤ code && code ≤ 0x200A) || code == 0x2028 || code == 0x2029 ||
    code == 0x202F || code == 0x205F || code == 0x3000

def stripChars (text : List Char) : List Char :=
  ((text.dropWhile isSpace).reverse.dropWhile isSpace).reverse

/-- `str.strip()`. -/
def strip (text : String) : String := String.ofList (stripChars text.toList)

theorem stripChars_stripChars (text : List Char) :
    stripChars (stripChars text) = stripChars text := by
  have starts : (stripChars text).dropWhile isSpace = stripChars text := by
    obtain ⟨rest, split⟩ := List.rdropWhile_prefix isSpace (text.dropWhile isSpace)
    have visible := List.head?_dropWhile_not isSpace text
    have whole : stripChars text ++ rest = text.dropWhile isSpace := split
    rw [← whole] at visible
    cases kept : stripChars text with
    | nil => rfl
    | cons first more =>
      rw [kept] at visible
      exact List.dropWhile_cons_of_neg (by simpa using visible)
  have ends := List.rdropWhile_idempotent isSpace (text.dropWhile isSpace)
  change List.rdropWhile isSpace ((stripChars text).dropWhile isSpace) = _
  rw [starts]
  exact ends

@[simp] theorem strip_strip (text : String) : strip (strip text) = strip text := by
  unfold strip
  rw [String.toList_ofList, stripChars_stripChars]

/-- `bool(text.strip())`. -/
def notBlank (text : String) : Bool := text.toList.any fun c => !isSpace c

end K8sOps.Python
