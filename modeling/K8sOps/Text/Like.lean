import Mathlib.Data.List.Infix

/-! The patterns of SQL's `LIKE` with an escape character, and the pattern that finds a text
taken literally. -/
namespace K8sOps.Text

inductive LikeToken where
  | any
  | one
  | char (c : Char)

def LikeToken.ofChar (c : Char) : LikeToken :=
  if c = '%' then .any else if c = '_' then .one else .char c

/-- `none` is an error: a pattern must not end with the escape character. -/
def likeTokens (escape : Char) : List Char → Option (List LikeToken)
  | [] => some []
  | [c] => if c = escape then none else some [.ofChar c]
  | c :: d :: rest =>
    if c = escape then (likeTokens escape rest).map (.char d :: ·)
    else (likeTokens escape (d :: rest)).map (.ofChar c :: ·)

def likeMatches : List LikeToken → List Char → Bool
  | [], text => text.isEmpty
  | .any :: tokens, text => text.tails.any (likeMatches tokens)
  | .one :: tokens, text =>
    match text with
    | [] => false
    | _ :: rest => likeMatches tokens rest
  | .char c :: tokens, text =>
    match text with
    | [] => false
    | d :: rest => c == d && likeMatches tokens rest

/-- `text LIKE pattern ESCAPE escape`. -/
def like (escape : Char) (pattern text : List Char) : Option Bool :=
  (likeTokens escape pattern).map fun tokens => likeMatches tokens text

/-- `text.replace(old, new)` for one character. -/
def replaceChar (old : Char) (new text : List Char) : List Char :=
  text.flatMap fun c => if c = old then new else [c]

/-- The characters with a meaning of their own, escaped one after the other. -/
def escapeLike (text : List Char) : List Char :=
  replaceChar '_' ['\\', '_'] (replaceChar '%' ['\\', '%'] (replaceChar '\\' ['\\', '\\'] text))

def containsPattern (text : List Char) : List Char := '%' :: escapeLike text ++ ['%']

def escapeChar (c : Char) : List Char := if c = '\\' ∨ c = '%' ∨ c = '_' then ['\\', c] else [c]

/-- No replacement touches what an earlier one wrote. -/
theorem escapeLike_eq (text : List Char) : escapeLike text = text.flatMap escapeChar := by
  unfold escapeLike replaceChar
  rw [List.flatMap_assoc, List.flatMap_assoc]
  congr 1
  funext c
  unfold escapeChar
  by_cases backslash : c = '\\'
  · subst backslash
    rfl
  by_cases percent : c = '%'
  · subst percent
    rfl
  by_cases underscore : c = '_'
  · subst underscore
    rfl
  simp [backslash, percent, underscore]

theorem likeTokens_escapeChar (c : Char) {rest : List Char} (tokens : List LikeToken)
    (later : likeTokens '\\' rest = some tokens) :
    likeTokens '\\' (escapeChar c ++ rest) = some (.char c :: tokens) := by
  unfold escapeChar
  split
  next => simp [likeTokens, later]
  next plain =>
    simp only [not_or] at plain
    obtain ⟨backslash, percent, underscore⟩ := plain
    have own : LikeToken.ofChar c = .char c := by simp [LikeToken.ofChar, percent, underscore]
    cases rest with
    | nil =>
      cases later
      simp [likeTokens, backslash, own]
    | cons d rest => simp [likeTokens, backslash, own, later]

theorem likeTokens_escapeLike (text : List Char) {rest : List Char} {tokens : List LikeToken}
    (later : likeTokens '\\' rest = some tokens) :
    likeTokens '\\' (escapeLike text ++ rest) = some (text.map .char ++ tokens) := by
  rw [escapeLike_eq]
  induction text with
  | nil => exact later
  | cons c text ih =>
    rw [List.flatMap_cons, List.append_assoc, likeTokens_escapeChar c _ ih]
    rfl

theorem likeMatches_literal (literal : List Char) (tokens : List LikeToken) (text : List Char) :
    likeMatches (literal.map .char ++ tokens) text = true ↔
    ∃ rest, text = literal ++ rest ∧ likeMatches tokens rest = true := by
  induction literal generalizing text with
  | nil => simp
  | cons c literal ih =>
    cases text with
    | nil => simp [likeMatches]
    | cons d text =>
      simp only [List.map_cons, List.cons_append, likeMatches, Bool.and_eq_true, beq_iff_eq, ih,
        List.cons.injEq]
      constructor
      · rintro ⟨rfl, rest, same, later⟩
        exact ⟨rest, ⟨rfl, same⟩, later⟩
      · rintro ⟨rest, ⟨rfl, same⟩, later⟩
        exact ⟨rfl, rest, same, later⟩

theorem likeMatches_any (tokens : List LikeToken) (text : List Char) :
    likeMatches (.any :: tokens) text = true ↔
    ∃ front rest, text = front ++ rest ∧ likeMatches tokens rest = true := by
  simp only [likeMatches, List.any_eq_true, List.mem_tails]
  constructor
  · rintro ⟨rest, ⟨front, rfl⟩, later⟩
    exact ⟨front, rest, rfl, later⟩
  · rintro ⟨front, rest, rfl, later⟩
    exact ⟨rest, ⟨front, rfl⟩, later⟩

theorem like_containsPattern (needle text : List Char) :
    like '\\' (containsPattern needle) text = some true ↔ needle <:+: text := by
  have last : likeTokens '\\' ['%'] = some [.any] := rfl
  have tokens : likeTokens '\\' (containsPattern needle) =
      some (.any :: (needle.map .char ++ [.any])) := by
    have inner := likeTokens_escapeLike needle last
    unfold containsPattern
    obtain ⟨d, rest, isRest⟩ : ∃ d rest, escapeLike needle ++ ['%'] = d :: rest :=
      List.exists_cons_of_ne_nil (by simp)
    rw [isRest] at inner
    rw [List.cons_append, isRest, likeTokens, if_neg (by decide), inner]
    rfl
  have ends (rest : List Char) : likeMatches [.any] rest = true := by
    rw [likeMatches_any]
    exact ⟨rest, [], (List.append_nil rest).symm, rfl⟩
  unfold like
  rw [tokens, Option.map_some, Option.some.injEq, likeMatches_any]
  constructor
  · rintro ⟨front, rest, rfl, matched⟩
    obtain ⟨back, rfl, _⟩ := (likeMatches_literal needle [.any] rest).mp matched
    exact ⟨front, back, List.append_assoc _ _ _⟩
  · rintro ⟨front, back, rfl⟩
    exact ⟨front, needle ++ back, List.append_assoc _ _ _,
      (likeMatches_literal needle [.any] _).mpr ⟨back, rfl, ends back⟩⟩

/-- A change of case that neither makes nor unmakes a special character goes through the pattern. -/
theorem map_containsPattern {fold : Char → Char} (backslash : ∀ c, fold c = '\\' ↔ c = '\\')
    (percent : ∀ c, fold c = '%' ↔ c = '%') (underscore : ∀ c, fold c = '_' ↔ c = '_')
    (text : List Char) :
    (containsPattern text).map fold = containsPattern (text.map fold) := by
  have each (c : Char) : (escapeChar c).map fold = escapeChar (fold c) := by
    unfold escapeChar
    simp only [backslash, percent, underscore]
    split
    · simp [(backslash _).mpr rfl]
    · rfl
  unfold containsPattern
  rw [escapeLike_eq, escapeLike_eq, List.map_append, List.map_cons, (percent _).mpr rfl,
    List.map_flatMap, List.flatMap_map]
  simp only [each, List.map_cons, List.map_nil, (percent _).mpr rfl]

theorem toLower_eq_iff {special : Char}
    (other : special.toNat < 65 ∨ 90 < special.toNat ∧ special.toNat < 97) (c : Char) :
    c.toLower = special ↔ c = special := by
  unfold Char.toLower
  split
  next upper =>
    obtain ⟨least, most⟩ := upper
    rw [ge_iff_le, UInt32.le_iff_toNat_le] at least
    rw [UInt32.le_iff_toNat_le] at most
    change 65 ≤ c.toNat at least
    change c.toNat ≤ 90 at most
    have moved : (c.val + ('a'.val - 'A'.val)).toNat = c.toNat + 32 := by
      rw [UInt32.toNat_add]
      change (c.toNat + 32) % 4294967296 = _
      omega
    constructor
    · rintro rfl
      rw [Char.toNat, moved] at other
      omega
    · rintro rfl
      omega
  next => rfl

theorem toLower_containsPattern (text : List Char) :
    (containsPattern text).map Char.toLower = containsPattern (text.map Char.toLower) :=
  map_containsPattern (toLower_eq_iff (by decide)) (toLower_eq_iff (by decide))
    (toLower_eq_iff (by decide)) text

theorem mem_containsPattern {c : Char} {text : List Char} (member : c ∈ containsPattern text) :
    c ∈ text ∨ c = '\\' ∨ c = '%' ∨ c = '_' := by
  unfold containsPattern at member
  rw [escapeLike_eq] at member
  simp only [List.cons_append, List.mem_cons, List.mem_append, List.mem_flatMap, List.not_mem_nil,
    or_false] at member
  obtain rfl | ⟨d, among, own⟩ | rfl := member
  · exact .inr (.inr (.inl rfl))
  · unfold escapeChar at own
    split at own
    · obtain rfl | own := List.mem_cons.mp own
      · exact .inr (.inl rfl)
      · exact .inl (List.mem_singleton.mp own ▸ among)
    · exact .inl (List.mem_singleton.mp own ▸ among)
  · exact .inr (.inr (.inl rfl))

/-- `needle in text`. -/
def isWithin (needle text : List Char) : Bool := text.tails.any fun rest => needle.isPrefixOf rest

theorem isWithin_iff (needle text : List Char) :
    isWithin needle text = true ↔ needle <:+: text := by
  simp only [isWithin, List.any_eq_true, List.mem_tails, List.isPrefixOf_iff_prefix]
  constructor
  · rintro ⟨rest, suffix, front⟩
    exact front.isInfix.trans suffix.isInfix
  · rintro ⟨front, back, rfl⟩
    exact ⟨needle ++ back, ⟨front, (List.append_assoc _ _ _).symm⟩, List.prefix_append _ _⟩

end K8sOps.Text
