import K8sOps.Gitops.FieldPath

/-! Field paths as text: a parsed path determines its text, and cutting a path at
a dot outside brackets cuts its segments. -/
namespace K8sOps.Gitops
open Python Focus

def joinParts : List (List Char) → List Char
  | [] => []
  | [part] => part
  | part :: parts => part ++ '.' :: joinParts parts

theorem joinParts_cons (part : List Char) (nonempty : parts ≠ []) :
    joinParts (part :: parts) = part ++ '.' :: joinParts parts := by
  cases parts with
  | nil => exact absurd rfl nonempty
  | cons => rfl

theorem scanParts_nonempty (scanned : scanParts depth part text = some parts) : parts ≠ [] := by
  fun_induction scanParts depth part text generalizing parts with
  | case1 =>
    cases scanned
    exact List.cons_ne_nil _ _
  | case2 | case4 => cases scanned
  | case6 =>
    obtain ⟨rest, _, rfl⟩ := Option.map_eq_some_iff.mp scanned
    exact List.cons_ne_nil _ _
  | case3 _ _ _ ih | case5 _ _ _ _ _ ih | case7 _ _ _ _ _ _ _ ih => exact ih scanned

theorem scanParts_join (scanned : scanParts depth part text = some parts) :
    joinParts parts = part ++ text := by
  fun_induction scanParts depth part text generalizing parts with
  | case1 =>
    cases scanned
    simp [joinParts]
  | case2 | case4 => cases scanned
  | case6 _ _ _ _ _ _ dot ih =>
    obtain ⟨rest, later, rfl⟩ := Option.map_eq_some_iff.mp scanned
    rw [joinParts_cons _ (scanParts_nonempty later), ih later, dot.1, List.nil_append]
  | case3 _ _ _ ih | case5 _ _ _ _ _ ih | case7 _ _ _ _ _ _ _ ih =>
    rw [ih scanned, List.append_assoc, List.singleton_append]

theorem scanParts_append (front : scanParts depth part text = some parts) (more : List Char) :
    scanParts depth part (text ++ '.' :: more) = (scanParts 0 [] more).map (parts ++ ·) := by
  fun_induction scanParts depth part text generalizing parts with
  | case1 =>
    cases front
    simp [scanParts]
  | case2 | case4 => cases front
  | case3 _ _ _ ih =>
    rw [List.cons_append, scanParts]
    simpa using ih front
  | case5 _ _ _ inside _ ih =>
    rw [List.cons_append, scanParts]
    simpa [inside] using ih front
  | case6 _ _ _ _ _ _ dot ih =>
    obtain ⟨rest, later, rfl⟩ := Option.map_eq_some_iff.mp front
    rw [List.cons_append, scanParts]
    simp [dot, ih later, Option.map_map, Function.comp_def]
  | case7 _ _ _ _ notOpening notClosing plain ih =>
    rw [List.cons_append, scanParts]
    simpa only [notOpening, notClosing, plain, if_false] using ih front

/-- Text that is balanced from one depth leaves brackets open from a larger one. -/
theorem scanParts_deeper (scanned : scanParts depth part text = some parts) (positive : 0 < extra)
    (other : List Char) : scanParts (depth + extra) other text = none := by
  fun_induction scanParts depth part text generalizing parts other with
  | case1 => simp [scanParts, Nat.ne_of_gt positive]
  | case2 | case4 => cases scanned
  | case3 depth _ _ ih =>
    rw [scanParts]
    simpa [Nat.add_right_comm] using ih scanned _
  | case5 depth _ _ inside _ ih =>
    have shift : depth + extra - 1 = depth - 1 + extra := by omega
    rw [scanParts]
    simpa [Nat.ne_of_gt positive, shift] using ih scanned _
  | case6 _ _ _ _ _ _ dot ih =>
    obtain ⟨rest, later, rfl⟩ := Option.map_eq_some_iff.mp scanned
    rw [scanParts]
    simpa [dot, Nat.ne_of_gt positive] using ih later _
  | case7 depth _ c _ notOpening notClosing plain ih =>
    have plainDeeper : ¬ (c = '.' ∧ depth + extra = 0) := fun dot => by omega
    rw [scanParts]
    simp only [notOpening, notClosing, plainDeeper, if_false]
    exact ih scanned _

/-- The dot after which the rest is balanced again is outside brackets. -/
theorem scanParts_cut (whole : scanParts depth part (text ++ '.' :: more) = some parts)
    (rest : scanParts 0 [] more = some tail) : ∃ front, scanParts depth part text = some front := by
  fun_induction scanParts depth part text generalizing parts with
  | case1 => exact ⟨_, rfl⟩
  | case2 depth part inside =>
    have deeper := scanParts_deeper rest (Nat.pos_of_ne_zero inside) (part ++ ['.'])
    rw [Nat.zero_add] at deeper
    rw [List.nil_append, scanParts] at whole
    simp [inside, deeper] at whole
  | case3 _ _ _ ih =>
    rw [List.cons_append, scanParts] at whole
    exact ih (by simpa using whole)
  | case4 =>
    rw [List.cons_append, scanParts] at whole
    simp at whole
  | case5 _ _ _ inside _ ih =>
    rw [List.cons_append, scanParts] at whole
    exact ih (by simpa [inside] using whole)
  | case6 _ _ _ _ _ _ dot ih =>
    rw [List.cons_append, scanParts] at whole
    simp only [dot, and_self, if_true] at whole
    obtain ⟨later, scanned, _⟩ := Option.map_eq_some_iff.mp (by simpa using whole)
    obtain ⟨front, found⟩ := ih scanned
    exact ⟨_, by rw [found, Option.map_some]⟩
  | case7 _ _ _ _ notOpening notClosing plain ih =>
    rw [List.cons_append, scanParts] at whole
    simp only [notOpening, notClosing, plain, if_false] at whole
    exact ih whole

def FieldPathSegment.text (segment : FieldPathSegment) : List Char :=
  segment.key.toList ++
    match segment.selectedName with
    | none => []
    | some name => "[name=".toList ++ name.toList ++ [']']

theorem fieldPathSegment_text {segment : FieldPathSegment}
    (parsed : fieldPathSegment raw = some segment) :
    segment.text = raw := by
  unfold fieldPathSegment at parsed
  dsimp only at parsed
  split at parsed
  next => cases parsed
  next =>
    have halves := List.takeWhile_append_dropWhile (p := keyCharacter) (l := raw)
    split at parsed
    next rest =>
      cases parsed
      rw [rest] at halves
      simpa [FieldPathSegment.text] using halves
    next more rest =>
      split at parsed
      next closed =>
        cases parsed
        have name := List.takeWhile_append_dropWhile (p := (· ≠ ']')) (l := more)
        rw [closed.1] at name
        rw [rest, ← name] at halves
        simpa [FieldPathSegment.text] using halves
      next => cases parsed
    next => cases parsed

theorem fieldPathSegments_parts (nonempty : fieldPathSegments path ≠ []) :
    ∃ parts, scanParts 0 [] path.toList = some parts ∧
      parts.mapM fieldPathSegment = some (fieldPathSegments path) := by
  unfold fieldPathSegments fieldPathParts at nonempty ⊢
  cases scanned : scanParts 0 [] path.toList with
  | none => simp [scanned] at nonempty
  | some parts =>
    refine ⟨parts, rfl, ?_⟩
    cases parsed : parts.mapM fieldPathSegment with
    | none => simp [scanned, parsed] at nonempty
    | some segments => simp [parsed]

theorem mapM_segment_text {parts : List (List Char)}
    (parsed : parts.mapM fieldPathSegment = some segments) :
    segments.map FieldPathSegment.text = parts := by
  induction parts generalizing segments with
  | nil =>
    cases parsed
    rfl
  | cons part parts ih =>
    rw [List.mapM_cons] at parsed
    obtain ⟨segment, first, parsed⟩ := Option.bind_eq_some_iff.mp parsed
    obtain ⟨others, later, parsed⟩ := Option.bind_eq_some_iff.mp parsed
    cases parsed
    rw [List.map_cons, fieldPathSegment_text first, ih later]

theorem fieldPathSegments_text (nonempty : fieldPathSegments path ≠ []) :
    path.toList = joinParts ((fieldPathSegments path).map FieldPathSegment.text) := by
  obtain ⟨parts, scanned, parsed⟩ := fieldPathSegments_parts nonempty
  rw [mapM_segment_text parsed, scanParts_join scanned, List.nil_append]

theorem fieldPathSegments_injective (nonempty : fieldPathSegments one ≠ [])
    (same : fieldPathSegments one = fieldPathSegments two) : one = two := by
  have characters : one.toList = two.toList := by
    rw [fieldPathSegments_text nonempty, fieldPathSegments_text (same ▸ nonempty), same]
  exact String.toList_injective characters

theorem fieldPathSegment_key {segment : FieldPathSegment}
    (parsed : fieldPathSegment raw = some segment) :
    ∀ c ∈ segment.key.toList, keyCharacter c = true := by
  have taken (c : Char) (member : c ∈ (String.ofList (raw.takeWhile keyCharacter)).toList) :
      keyCharacter c = true := by
    rw [String.toList_ofList] at member
    exact List.mem_takeWhile_imp member
  unfold fieldPathSegment at parsed
  dsimp only at parsed
  split at parsed
  next => cases parsed
  next =>
    split at parsed
    next =>
      cases parsed
      exact taken
    next =>
      split at parsed
      next =>
        cases parsed
        exact taken
      next => cases parsed
    next => cases parsed

theorem fieldPathSegments_key {segment : FieldPathSegment}
    (member : segment ∈ fieldPathSegments path) :
    ∀ c ∈ segment.key.toList, keyCharacter c = true := by
  obtain ⟨parts, -, parsed⟩ := fieldPathSegments_parts (List.ne_nil_of_mem member)
  rw [mapM_eq_some] at parsed
  generalize fieldPathSegments path = segments at member parsed
  induction parsed with
  | nil => cases member
  | cons first _ ih =>
    obtain rfl | later := List.mem_cons.mp member
    · exact fieldPathSegment_key first
    · exact ih later

theorem mapM_append_segments {front back : List (List Char)}
    (parsed : (front ++ back).mapM fieldPathSegment = some segments) :
    ∃ first last, front.mapM fieldPathSegment = some first ∧
      back.mapM fieldPathSegment = some last ∧ segments = first ++ last := by
  rw [List.mapM_append] at parsed
  obtain ⟨first, front, parsed⟩ := Option.bind_eq_some_iff.mp parsed
  obtain ⟨last, back, parsed⟩ := Option.bind_eq_some_iff.mp parsed
  cases parsed
  exact ⟨first, last, front, back, rfl⟩

theorem fieldPathSegments_of_parts (scanned : scanParts 0 [] path.toList = some parts)
    (parsed : parts.mapM fieldPathSegment = some segments) : fieldPathSegments path = segments := by
  simp [fieldPathSegments, fieldPathParts, scanned, parsed]

/-- The segments of a path whose text is another path, a dot and a rest: the dot
is outside brackets if either side is balanced on its own. -/
theorem fieldPathSegments_cut (whole : fieldPathSegments path ≠ [])
    (text : path.toList = upper.toList ++ '.' :: rest.toList)
    (balanced : fieldPathSegments upper ≠ [] ∨ fieldPathSegments rest ≠ []) :
    fieldPathSegments upper ≠ [] ∧ fieldPathSegments rest ≠ [] ∧
      fieldPathSegments path = fieldPathSegments upper ++ fieldPathSegments rest := by
  obtain ⟨parts, scanned, parsed⟩ := fieldPathSegments_parts whole
  rw [text] at scanned
  obtain ⟨front, frontScan⟩ : ∃ front, scanParts 0 [] upper.toList = some front := by
    obtain upperParsed | restParsed := balanced
    · obtain ⟨front, frontScan, _⟩ := fieldPathSegments_parts upperParsed
      exact ⟨front, frontScan⟩
    · obtain ⟨tail, tailScan, _⟩ := fieldPathSegments_parts restParsed
      exact scanParts_cut scanned tailScan
  rw [scanParts_append frontScan] at scanned
  obtain ⟨tail, tailScan, rfl⟩ := Option.map_eq_some_iff.mp scanned
  obtain ⟨first, last, frontParsed, tailParsed, segments⟩ := mapM_append_segments parsed
  rw [segments, fieldPathSegments_of_parts frontScan frontParsed,
    fieldPathSegments_of_parts tailScan tailParsed]
  have nonempty {parts : List (List Char)} {segments : List FieldPathSegment} (found : parts ≠ [])
      (parsed : parts.mapM fieldPathSegment = some segments) : segments ≠ [] := by
    rintro rfl
    exact found (by simpa using (mapM_segment_text parsed).symm)
  exact ⟨nonempty (scanParts_nonempty frontScan) frontParsed,
    nonempty (scanParts_nonempty tailScan) tailParsed, rfl⟩

theorem fieldPathSegments_append (text : path.toList = upper.toList ++ '.' :: rest.toList)
    (front : fieldPathSegments upper ≠ []) (back : fieldPathSegments rest ≠ []) :
    fieldPathSegments path = fieldPathSegments upper ++ fieldPathSegments rest := by
  obtain ⟨frontParts, frontScan, frontParsed⟩ := fieldPathSegments_parts front
  obtain ⟨backParts, backScan, backParsed⟩ := fieldPathSegments_parts back
  have scanned : scanParts 0 [] path.toList = some (frontParts ++ backParts) := by
    rw [text, scanParts_append frontScan, backScan]
    rfl
  have parsed : (frontParts ++ backParts).mapM fieldPathSegment =
      some (fieldPathSegments upper ++ fieldPathSegments rest) := by
    rw [List.mapM_append, frontParsed, backParsed]
    rfl
  exact fieldPathSegments_of_parts scanned parsed

/-- Text without syntax at its depth is read as it is. -/
theorem scanParts_plain {text : List Char}
    (plain : ∀ c ∈ text, c ≠ '[' ∧ c ≠ ']' ∧ (c = '.' → depth ≠ 0)) (part rest : List Char) :
    scanParts depth part (text ++ rest) = scanParts depth (part ++ text) rest := by
  induction text generalizing part with
  | nil => simp
  | cons c text ih =>
    obtain ⟨opening, closing, dot⟩ := plain c List.mem_cons_self
    have inside : ¬(c = '.' ∧ depth = 0) := fun both => dot both.1 both.2
    rw [List.cons_append, scanParts, if_neg opening, if_neg closing, if_neg inside,
      ih (fun other member => plain other (List.mem_cons_of_mem _ member)), List.append_assoc,
      List.singleton_append]

theorem keyCharacter_unscanned (key : keyCharacter c = true) :
    c ≠ '[' ∧ c ≠ ']' ∧ (c = '.' → depth ≠ 0) := by
  refine ⟨?_, ?_, ?_⟩ <;> rintro rfl <;> exact absurd key (by decide)

theorem fieldPathSegments_plainKey {key : String} (nonempty : key ≠ "")
    (plain : ∀ c ∈ key.toList, keyCharacter c = true) : fieldPathSegments key = [⟨key, none⟩] := by
  have scanned : scanParts 0 [] key.toList = some [key.toList] := by
    have outside : ∀ c ∈ key.toList, c ≠ '[' ∧ c ≠ ']' ∧ (c = '.' → (0 : Nat) ≠ 0) :=
      fun c member =>
      keyCharacter_unscanned (plain c member)
    have read := scanParts_plain outside [] []
    rw [List.append_nil] at read
    rw [read, List.nil_append, scanParts, if_pos rfl]
  have parsed : fieldPathSegment key.toList = some ⟨key, none⟩ := by
    have taken : key.toList.takeWhile keyCharacter = key.toList :=
      List.takeWhile_eq_self_iff.mpr plain
    have dropped : key.toList.dropWhile keyCharacter = [] := List.dropWhile_eq_nil_iff.mpr plain
    have characters : key.toList ≠ [] := fun empty => nonempty (String.toList_eq_nil_iff.mp empty)
    rw [fieldPathSegment]
    simp only [taken, dropped, if_neg characters, String.ofList_toList]
  exact fieldPathSegments_of_parts scanned (by simp [parsed])

theorem fieldPathSegments_named {path key name : String}
    (text : path.toList = key.toList ++ "[name=".toList ++ name.toList ++ [']'])
    (nonempty : key ≠ "") (plain : ∀ c ∈ key.toList, keyCharacter c = true)
    (visible : notBlank name = true) (unbracketed : ∀ c ∈ name.toList, c ≠ '[' ∧ c ≠ ']') :
    fieldPathSegments path = [⟨key, some name⟩] := by
  have scanned : scanParts 0 [] path.toList = some [path.toList] := by
    have inside : ∀ c ∈ "name=".toList ++ name.toList, c ≠ '[' ∧ c ≠ ']' ∧ (c = '.' → 1 ≠ 0) := by
      intro c member
      rcases List.mem_append.mp member with fixed | named
      · have none : "name=".toList.all (fun c => c ≠ '[' ∧ c ≠ ']') = true := by decide
        obtain ⟨opening, closing⟩ : c ≠ '[' ∧ c ≠ ']' := by
          simpa using List.all_eq_true.mp none c fixed
        exact ⟨opening, closing, fun _ => by decide⟩
      · exact ⟨(unbracketed c named).1, (unbracketed c named).2, fun _ => by decide⟩
    have split : path.toList = key.toList ++
        ('[' :: (("name=".toList ++ name.toList) ++ [']'])) := by
      rw [text]
      simp
    rw [split, scanParts_plain (fun c member => keyCharacter_unscanned (plain c member)),
      List.nil_append, scanParts, if_pos rfl, scanParts_plain inside, scanParts, if_neg (by decide),
      if_pos rfl, if_neg (by decide), scanParts, if_pos rfl]
    simp
  have parsed : fieldPathSegment path.toList = some ⟨key, some name⟩ := by
    have taken : path.toList.takeWhile keyCharacter = key.toList := by
      rw [text, List.append_assoc, List.append_assoc, List.takeWhile_append_of_pos plain]
      simp [keyCharacter]
    have dropped : path.toList.dropWhile keyCharacter = '[' :: 'n' :: 'a' :: 'm' :: 'e' :: '=' ::
        (name.toList ++ [']']) := by
      rw [text, List.append_assoc, List.append_assoc, List.dropWhile_append_of_pos plain]
      simp [keyCharacter]
    have nameTaken : (name.toList ++ [']']).takeWhile (· ≠ ']') = name.toList := by
      rw [List.takeWhile_append_of_pos (fun c member => by simpa using (unbracketed c member).2)]
      simp
    have nameDropped : (name.toList ++ [']']).dropWhile (· ≠ ']') = [']'] := by
      rw [List.dropWhile_append_of_pos (fun c member => by simpa using (unbracketed c member).2)]
      simp
    have characters : key.toList ≠ [] := fun empty => nonempty (String.toList_eq_nil_iff.mp empty)
    rw [fieldPathSegment]
    simp only [taken, dropped, if_neg characters, nameTaken, nameDropped, String.ofList_toList,
      visible, and_self, if_true]
  exact fieldPathSegments_of_parts scanned (by simp [parsed])

section grammar

/-- A segment as the grammar has it: a key, and perhaps a name that is not blank and has no
brackets. -/
structure FieldPathSegment.Spelled (segment : FieldPathSegment) : Prop where
  nonempty : segment.key ≠ ""
  plain : ∀ c ∈ segment.key.toList, keyCharacter c = true
  visible : ∀ name, segment.selectedName = some name → notBlank name = true
  unbracketed : ∀ name, segment.selectedName = some name → ∀ c ∈ name.toList, c ≠ '[' ∧ c ≠ ']'

theorem scanParts_balanced (scanned : scanParts depth part text = some parts)
    (here : part.count '[' = part.count ']' + depth) :
    ∀ other ∈ parts, other.count '[' = other.count ']' := by
  fun_induction scanParts depth part text generalizing parts with
  | case1 =>
    cases scanned
    intro other member
    rw [List.mem_singleton.mp member]
    exact here
  | case2 | case4 => cases scanned
  | case3 depth part rest ih =>
    refine ih scanned ?_
    rw [List.count_append, List.count_append, here]
    simp
    omega
  | case5 depth part rest inside _ ih =>
    refine ih scanned ?_
    rw [List.count_append, List.count_append, here]
    simp
    omega
  | case6 part c rest notOpening notClosing _ dot ih =>
    obtain ⟨others, later, rfl⟩ := Option.map_eq_some_iff.mp scanned
    intro other member
    obtain rfl | inLater := List.mem_cons.mp member
    · rw [here, dot.2, Nat.add_zero]
    · exact ih later rfl other inLater
  | case7 depth part c rest opening closing _ ih =>
    refine ih scanned ?_
    rw [List.count_append, List.count_append, here]
    simp [opening, closing]

theorem fieldPathSegment_name {segment : FieldPathSegment}
    (parsed : fieldPathSegment raw = some segment) :
    segment.key ≠ "" ∧ ∀ name, segment.selectedName = some name →
      notBlank name = true ∧ ']' ∉ name.toList := by
  unfold fieldPathSegment at parsed
  dsimp only at parsed
  split at parsed
  next => cases parsed
  next nonempty =>
    have key : String.ofList (raw.takeWhile keyCharacter) ≠ "" := fun empty =>
      nonempty (by simpa using congrArg String.toList empty)
    split at parsed
    next =>
      cases parsed
      exact ⟨key, fun _ absent => by cases absent⟩
    next more _ =>
      split at parsed
      next closed =>
        cases parsed
        refine ⟨key, fun name same => ?_⟩
        cases same
        refine ⟨closed.2, fun member => ?_⟩
        rw [String.toList_ofList] at member
        exact absurd (List.mem_takeWhile_imp member) (by decide)
      next => cases parsed
    next => cases parsed

theorem fieldPathSegment_spelled {segment : FieldPathSegment}
    (parsed : fieldPathSegment raw = some segment)
    (balanced : raw.count '[' = raw.count ']') : segment.Spelled := by
  obtain ⟨nonempty, named⟩ := fieldPathSegment_name parsed
  refine ⟨nonempty, fieldPathSegment_key parsed,
    fun name same => (named name same).1, fun name same c member => ?_⟩
  obtain ⟨_, unclosed⟩ := named name same
  have absent (bracket : Char) (other : keyCharacter bracket = false) :
      bracket ∉ segment.key.toList := fun inKey =>
    absurd (fieldPathSegment_key parsed bracket inKey) (by simp [other])
  -- The pattern has one closing bracket, so the name has no opening one.
  have opened : name.toList.count '[' = 0 := by
    rw [← fieldPathSegment_text parsed, FieldPathSegment.text, same] at balanced
    simp only [List.count_append, List.count_eq_zero_of_not_mem (absent '[' rfl),
      List.count_eq_zero_of_not_mem (absent ']' rfl),
      List.count_eq_zero_of_not_mem unclosed] at balanced
    have fixed : "[name=".toList.count '[' = 1 ∧ "[name=".toList.count ']' = 0 := by decide
    rw [fixed.1, fixed.2] at balanced
    simp at balanced
    omega
  constructor
  · rintro rfl
    exact List.count_eq_zero.mp opened member
  · rintro rfl
    exact unclosed member

theorem fieldPathSegments_spelled (nonempty : fieldPathSegments path ≠ []) :
    ∀ segment ∈ fieldPathSegments path, segment.Spelled := by
  obtain ⟨parts, scanned, parsed⟩ := fieldPathSegments_parts nonempty
  have balanced := scanParts_balanced scanned rfl
  rw [mapM_eq_some] at parsed
  intro segment member
  obtain ⟨part, inParts, read⟩ := forall₂_mem_left parsed.flip member
  exact fieldPathSegment_spelled read (balanced part inParts)

theorem fieldPathSegments_single {segment : FieldPathSegment} (spelled : segment.Spelled) :
    fieldPathSegments (String.ofList segment.text) = [segment] := by
  obtain ⟨key, selected⟩ := segment
  cases selected with
  | none =>
    have text : String.ofList (FieldPathSegment.text ⟨key, none⟩) = key := by
      simp [FieldPathSegment.text]
    rw [text]
    exact fieldPathSegments_plainKey spelled.nonempty spelled.plain
  | some name =>
    refine fieldPathSegments_named ?_ spelled.nonempty spelled.plain (spelled.visible name rfl)
      (spelled.unbracketed name rfl)
    simp [FieldPathSegment.text]

theorem fieldPathSegments_joined {segments : List FieldPathSegment} (nonempty : segments ≠ [])
    (spelled : ∀ segment ∈ segments, segment.Spelled) :
    fieldPathSegments (String.ofList (joinParts (segments.map FieldPathSegment.text))) =
      segments := by
  induction segments with
  | nil => exact absurd rfl nonempty
  | cons segment rest ih =>
    obtain ⟨first, later⟩ := List.forall_mem_cons.mp spelled
    have single := fieldPathSegments_single first
    cases rest with
    | nil => exact single
    | cons next rest =>
      have others := ih (List.cons_ne_nil _ _) later
      have text :
          (String.ofList (joinParts ((segment :: next :: rest).map FieldPathSegment.text))).toList =
          (String.ofList segment.text).toList ++ '.' ::
              (String.ofList (joinParts ((next :: rest).map FieldPathSegment.text))).toList := by
        simp [joinParts]
      have front : fieldPathSegments (String.ofList segment.text) ≠ [] := by
        rw [single]
        exact List.cons_ne_nil _ _
      have back :
          fieldPathSegments (String.ofList (joinParts ((next :: rest).map FieldPathSegment.text))) ≠
            [] := by
        rw [others]
        exact List.cons_ne_nil _ _
      have joined := fieldPathSegments_append text front back
      rw [joined, single, others]
      rfl

/-- A text has segments exactly if it is a text of the grammar; the segments give the text back, and
no two texts have the same ones. -/
theorem field_paths_unique :
    (∀ path, fieldPathSegments path ≠ [] ↔
      ∃ segments, segments ≠ [] ∧ (∀ segment ∈ segments, segment.Spelled) ∧
      path.toList = joinParts (segments.map FieldPathSegment.text)) ∧
    (∀ path, fieldPathSegments path ≠ [] →
      path.toList = joinParts ((fieldPathSegments path).map FieldPathSegment.text)) ∧
    ∀ one two, fieldPathSegments one ≠ [] → fieldPathSegments one = fieldPathSegments two →
      one = two := by
  refine ⟨fun path => ⟨fun parsed => ?_, ?_⟩, fun _ => fieldPathSegments_text,
    fun _ _ => fieldPathSegments_injective⟩
  · exact ⟨_, parsed, fieldPathSegments_spelled parsed, fieldPathSegments_text parsed⟩
  · rintro ⟨segments, nonempty, spelled, text⟩
    have isPath : path = String.ofList (joinParts (segments.map FieldPathSegment.text)) :=
      String.toList_injective (by simp [text])
    rw [isPath, fieldPathSegments_joined nonempty spelled]
    exact nonempty

/-- A dot in a name does not cut the path. -/
theorem field_path_dotted_name :
    fieldPathSegments "a[name=b.c].d" = [⟨"a", some "b.c"⟩, ⟨"d", none⟩] ∧
    "a[name=b.c].d".toList =
      joinParts ((fieldPathSegments "a[name=b.c].d").map FieldPathSegment.text) :=
  ⟨by decide +kernel, field_paths_unique.2.1 _ (by decide +kernel)⟩

end grammar

theorem location_append (front back : List FieldPathSegment) :
    location (front ++ back) = location front ++ location back := List.flatMap_append

theorem endsAtName_location (ends : endsAtName segments) :
    ∃ front name tail, location segments = front ++ .named name :: .key "name" :: tail := by
  induction segments with
  | nil => cases ends
  | cons segment rest ih =>
    match rest with
    | [] => cases ends
    | [final] =>
      obtain ⟨selected, isName⟩ := ends
      obtain ⟨name, selected⟩ := Option.ne_none_iff_exists'.mp selected
      refine ⟨[.key segment.key], name, (final.selectedName.map Step.named).toList, ?_⟩
      simp [location, FieldPathSegment.steps, selected, isName]
    | next :: last :: rest =>
      obtain ⟨front, name, tail, found⟩ := ih ends
      exact ⟨segment.steps ++ front, name, tail, by
        rw [location_cons, found, List.append_assoc]⟩

/-- A path that ends in the name of the entry it selects reads that name, in
whatever document and below whatever other path it is read. -/
theorem read_name (ends : endsAtName segments) : ∃ name, ∀ above document value,
    Value.access.read (above ++ location segments) document = some value →
      value = .scalar (.str name) := by
  obtain ⟨front, name, tail, ending⟩ := endsAtName_location ends
  refine ⟨name, fun above document value found => ?_⟩
  rw [ending, ← List.append_assoc, Access.read_append] at found
  obtain ⟨parent, _, found⟩ := Option.bind_eq_some_iff.mp found
  obtain ⟨item, selected, found⟩ := Option.bind_eq_some_iff.mp found
  obtain ⟨stored, named, found⟩ := Option.bind_eq_some_iff.mp found
  cases parent with
  | scalar | dict => cases selected
  | list items =>
    obtain ⟨entries, rfl, lookup⟩ :=
      Value.hasName_iff.mp (selectNamed_single (selectNamed_ok.mpr selected)).2
    cases lookup.symm.trans named
    cases tail with
    | nil =>
      cases found
      rfl
    | cons step tail => cases step <;> cases found

end K8sOps.Gitops
