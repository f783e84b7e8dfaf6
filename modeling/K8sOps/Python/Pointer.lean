import K8sOps.Python.Path

/-! JSON pointers, and the places of a document that pointers and paths denote. A pointer
goes through a list by index, a path by the name of an entry; both denote a sequence of keys
and indices. -/
namespace K8sOps.Python

/-- One step down in a document as it is stored. -/
inductive Place where
  | key (key : String)
  | index (index : Nat)
  deriving DecidableEq

section pointers

/-- `~1` stands for a slash and `~0` for a tilde. -/
def unescape : List Char → Option (List Char)
  | [] => some []
  | '~' :: '0' :: rest => (unescape rest).map ('~' :: ·)
  | '~' :: '1' :: rest => (unescape rest).map ('/' :: ·)
  | '~' :: _ => none
  | c :: rest => (unescape rest).map (c :: ·)

/-- The tokens of a pointer. The empty pointer is the whole document. -/
def pointerTokens (pointer : String) : Option (List (List Char)) :=
  match pointer.toList with
  | [] => some []
  | '/' :: rest => (rest.splitOn '/').mapM unescape
  | _ => none

/-- Decimal digits without a leading zero. -/
def listIndex (token : List Char) : Option Nat :=
  if token ≠ [] ∧ token.all Char.isDigit ∧ (token = ['0'] ∨ token.head? ≠ some '0') then
    some (token.foldl (fun total digit => 10 * total + (digit.toNat - '0'.toNat)) 0)
  else none

/-- What a pointer denotes in a document. Only its last step may lead to something new: a
key, or the place after the last item of a list. -/
def denoted : List (List Char) → Value → Option (List Place)
  | [], _ => some []
  | token :: tokens, .dict entries =>
    let key := String.ofList token
    match Entries.lookup (.str key) entries with
    | some child => (denoted tokens child).map (.key key :: ·)
    | none => if tokens = [] then some [.key key] else none
  | token :: tokens, .list items =>
    match if token = ['-'] then some items.length else listIndex token with
    | none => none
    | some index =>
      match items[index]? with
      | some child => (denoted tokens child).map (.index index :: ·)
      | none => if tokens = [] ∧ index = items.length then some [.index index] else none
  | _ :: _, .scalar _ => none

end pointers

def placesOf : List Step → Value → Option (List Place)
  | [], _ => some []
  | .key key :: path, .dict entries =>
    (Entries.lookup (.str key) entries).bind fun child => (placesOf path child).map (.key key :: ·)
  | .named name :: path, .list items =>
    (Value.getStep (.named name) (.list items)).bind fun item =>
      (placesOf path item).map (.index (items.findIdx (Value.hasName name)) :: ·)
  | _ :: _, _ => none

/-- One of the places is the other, or is inside it. -/
def Overlap (one two : List Place) : Prop := one <+: two ∨ two <+: one

section tokens

theorem unescape_plain {raw token : List Char} (decoded : unescape raw = some token)
    (plain : '~' ∉ token ∧ '/' ∉ token) : raw = token := by
  fun_induction unescape raw generalizing token with
  | case1 => exact Option.some.inj decoded
  | case2 rest ih =>
    obtain ⟨token, _, rfl⟩ := Option.map_eq_some_iff.mp decoded
    simp at plain
  | case3 rest ih =>
    obtain ⟨token, _, rfl⟩ := Option.map_eq_some_iff.mp decoded
    simp at plain
  | case4 => cases decoded
  | case5 c rest _ _ _ ih =>
    obtain ⟨token, later, rfl⟩ := Option.map_eq_some_iff.mp decoded
    simp only [List.mem_cons, not_or] at plain
    rw [ih later ⟨plain.1.2, plain.2.2⟩]

theorem unescape_self {token : List Char} (plain : '~' ∉ token) : unescape token = some token := by
  fun_induction unescape token with
  | case1 => rfl
  | case2 | case3 | case4 => simp at plain
  | case5 c rest _ _ _ ih =>
    rw [ih (fun member => plain (List.mem_cons_of_mem _ member)), Option.map_some]

def pointerText (tokens : List (List Char)) : List Char := tokens.flatMap ('/' :: ·)

theorem pointerText_eq (token : List Char) (tokens : List (List Char)) :
    pointerText (token :: tokens) = '/' :: ['/'].intercalate (token :: tokens) := by
  induction tokens generalizing token with
  | nil => simp [pointerText]
  | cons second tokens ih =>
    have later := ih second
    simp only [pointerText, List.flatMap_cons] at later ⊢
    rw [List.intercalate_cons_cons, later]
    simp

theorem pointerTokens_some (parsed : pointerTokens pointer = some tokens) :
    ∃ raws, pointer.toList = pointerText raws ∧ raws.mapM unescape = some tokens := by
  rw [pointerTokens] at parsed
  split at parsed
  next empty =>
    cases parsed
    exact ⟨[], empty, rfl⟩
  next rest text =>
    refine ⟨rest.splitOn '/', ?_, parsed⟩
    obtain ⟨token, tokens, split⟩ := List.exists_cons_of_ne_nil (List.splitOn_ne_nil '/' rest)
    rw [text, split, pointerText_eq, ← split, List.intercalate_splitOn]
  next => cases parsed

theorem mapM_unescape_self {tokens : List (List Char)} (plain : ∀ token ∈ tokens, '~' ∉ token) :
    tokens.mapM unescape = some tokens := by
  induction tokens with
  | nil => rfl
  | cons token tokens ih =>
    rw [List.mapM_cons, unescape_self (plain token List.mem_cons_self),
      ih fun other member => plain other (List.mem_cons_of_mem _ member)]
    rfl

theorem pointerTokens_text {tokens : List (List Char)}
    (plain : ∀ token ∈ tokens, '~' ∉ token ∧ '/' ∉ token) :
    pointerTokens (String.ofList (pointerText tokens)) = some tokens := by
  rw [pointerTokens, String.toList_ofList]
  cases tokens with
  | nil => rfl
  | cons token tokens =>
    rw [pointerText_eq]
    change (List.splitOn '/' (['/'].intercalate (token :: tokens))).mapM unescape = _
    rw [List.splitOn_intercalate '/' (fun other member => (plain other member).2)
      (List.cons_ne_nil _ _)]
    exact mapM_unescape_self fun other member => (plain other member).1

theorem pointerText_prefix {one two : List (List Char)} (above : one <+: two) :
    pointerText one = pointerText two ∨ pointerText one ++ ['/'] <+: pointerText two := by
  obtain ⟨more, rfl⟩ := above
  cases more with
  | nil => exact .inl (by rw [List.append_nil])
  | cons token more =>
    right
    refine ⟨token ++ pointerText more, ?_⟩
    simp [pointerText]

end tokens

section related
variable {related : α → β → Prop} {shown : β → α} {bounds : List β}

/-- A sequence that is determined along the other one ends where that one does. -/
theorem forall₂_map_prefix (along : List.Forall₂ related left right) (above : right <+: bounds)
    (fixed : ∀ one two, related one two → two ∈ bounds → one = shown two) :
    left <+: bounds.map shown := by
  induction along generalizing bounds with
  | nil => exact List.nil_prefix
  | cons first _ ih =>
    obtain ⟨more, rfl⟩ := above
    rw [List.cons_append, List.map_cons, fixed _ _ first List.mem_cons_self, List.cons_prefix_cons]
    exact ⟨rfl, ih (List.prefix_append _ _) fun one two along among =>
      fixed one two along (List.mem_cons_of_mem _ among)⟩

theorem map_prefix_forall₂ (along : List.Forall₂ related left right) (below : bounds <+: right)
    (fixed : ∀ one two, related one two → two ∈ bounds → one = shown two) :
    bounds.map shown <+: left := by
  induction along generalizing bounds with
  | nil =>
    rw [List.prefix_nil.mp below]
    exact List.nil_prefix
  | cons first _ ih =>
    cases bounds with
    | nil => exact List.nil_prefix
    | cons bound bounds =>
      obtain ⟨rfl, inner⟩ := List.cons_prefix_cons.mp below
      rw [List.map_cons, fixed _ _ first List.mem_cons_self, List.cons_prefix_cons]
      exact ⟨rfl, ih inner fun one two along among =>
        fixed one two along (List.mem_cons_of_mem _ among)⟩

end related

section places

theorem denoted_keys (reached : denoted tokens document = some places) :
    List.Forall₂ (fun token place => ∀ key, place = .key key → token = key.toList)
      tokens places := by
  induction tokens generalizing document places with
  | nil =>
    cases reached
    exact .nil
  | cons token tokens ih =>
    cases document with
    | scalar => cases reached
    | dict entries =>
      rw [denoted] at reached
      have own (key : String) (same : Place.key (String.ofList token) = .key key) :
          token = key.toList := by
        cases same
        exact String.toList_ofList.symm
      split at reached
      next child _ =>
        obtain ⟨later, below, rfl⟩ := Option.map_eq_some_iff.mp reached
        exact .cons own (ih below)
      next =>
        obtain ⟨rfl, same⟩ := Option.ite_none_right_eq_some.mp reached
        cases same
        exact .cons own .nil
    | list items =>
      rw [denoted] at reached
      split at reached
      next => cases reached
      next index _ =>
        split at reached
        next child _ =>
          obtain ⟨later, below, rfl⟩ := Option.map_eq_some_iff.mp reached
          exact .cons (fun _ same => nomatch same) (ih below)
        next =>
          obtain ⟨⟨rfl, _⟩, same⟩ := Option.ite_none_right_eq_some.mp reached
          cases same
          exact .cons (fun _ same => nomatch same) .nil

theorem placesOf_isSome {path : List Step} {document : Value} :
    (placesOf path document).isSome = (Value.access.read path document).isSome := by
  induction path generalizing document with
  | nil => rfl
  | cons step path ih =>
    cases step with
    | key key =>
      cases document with
      | scalar | list => rfl
      | dict entries =>
        change ((Entries.lookup (.str key) entries).bind _).isSome =
          ((Entries.lookup (.str key) entries).bind _).isSome
        cases Entries.lookup (.str key) entries with
        | none => rfl
        | some child => simpa using ih
    | named name =>
      cases document with
      | scalar | dict => rfl
      | list items =>
        change ((Value.getStep (.named name) (.list items)).bind _).isSome =
          ((Value.getStep (.named name) (.list items)).bind _).isSome
        cases Value.getStep (.named name) (.list items) with
        | none => rfl
        | some child => simpa using ih

theorem placesOf_keys {keys : List String}
    (found : placesOf (keys.map .key ++ path) document = some places) :
    ∃ below later, places = keys.map .key ++ later ∧ placesOf path below = some later ∧
      denoted (keys.map String.toList) document = some (keys.map .key) := by
  induction keys generalizing document places with
  | nil => exact ⟨document, places, rfl, found, rfl⟩
  | cons key keys ih =>
    cases document with
    | scalar | list => cases found
    | dict entries =>
      obtain ⟨child, present, tail⟩ := Option.bind_eq_some_iff.mp found
      obtain ⟨rest, inner, rfl⟩ := Option.map_eq_some_iff.mp tail
      obtain ⟨below, later, rfl, remaining, reached⟩ := ih inner
      refine ⟨below, later, rfl, remaining, ?_⟩
      rw [List.map_cons, denoted, String.ofList_toList, present]
      dsimp only
      rw [reached, Option.map_some, List.map_cons]

end places

end K8sOps.Python
