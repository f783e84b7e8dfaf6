import K8sOps.Gitops.DeclaredPatch
import K8sOps.Gitops.RemediationSource

/-! `_declared_image_replacement`: sources that declare only the tag of an image get the tags of the
approved images, which recompose these images behind the common repository. -/
namespace K8sOps.Gitops
open Python

section definitions

/-- `str.rfind` of one character. -/
def rfind (c : Char) : List Char → Int
  | [] => -1
  | d :: rest => if 0 ≤ rfind c rest then rfind c rest + 1 else if d = c then 0 else -1

def tagCharacter (c : Char) : Bool := c.isAlphanum || c == '.' || c == '_' || c == '-'

/-- `[A-Za-z0-9_][A-Za-z0-9._-]{0,127}` for a whole text. -/
def isTag : List Char → Bool
  | [] => false
  | first :: rest =>
    (first.isAlphanum || first == '_') && rest.all tagCharacter && rest.length ≤ 127

def taggedImage (value : String) : Option (String × String) :=
  let text := value.toList
  if text.isEmpty || text.contains '@' || text.any isSpace then none
  else
    let separator := rfind ':' text
    if separator ≤ rfind '/' text ∨ separator = text.length - 1 then none
    else
      let repository := text.take separator.toNat
      let tag := text.drop (separator.toNat + 1)
      if repository.isEmpty || !isTag tag then none
      else some (String.ofList repository, String.ofList tag)

def declaredImageReplacement (source : RemediationSourceDeclaration)
    (replacement : ScalarFieldReplacement) : Except PatchError ScalarFieldReplacement :=
  match replacement.currentValue, replacement.desiredValue with
  | .scalar (.str current), .scalar (.str desired) =>
    if source.sourceType = "raw-yaml" then
      match source.imagePath with
      | some path =>
        if replacement.fieldPath = path then
          .ok ⟨path, .scalar (.str current), .scalar (.str desired)⟩
        else .error (unsupported "raw image field is not declared")
      | none => .error (unsupported "raw image field is not declared")
    else
      match taggedImage current, taggedImage desired with
      | some (repository, currentTag), some (other, desiredTag) =>
        if repository ≠ other then
          .error (unsupported "tag adapter cannot change image repository or digest")
        else
          match source.imageTagPath with
          | some path =>
            if source.sourceType = "helm-values" then
              .ok ⟨path, .scalar (.str currentTag), .scalar (.str desiredTag)⟩
            else if source.sourceType = "kustomize" && source.imageNames.contains repository then
              .ok ⟨"images[name=" ++ repository ++ "].newTag", .scalar (.str currentTag),
                .scalar (.str desiredTag)⟩
            else .error (unsupported "image field is not declared")
          | none =>
            if source.sourceType = "kustomize" && source.imageNames.contains repository then
              .ok ⟨"images[name=" ++ repository ++ "].newTag", .scalar (.str currentTag),
                .scalar (.str desiredTag)⟩
            else .error (unsupported "image field is not declared")
      | _, _ => .error (unsupported "tag adapter cannot change image repository or digest")
  | _, _ => .error (unsupported "image replacement is not textual")

end definitions

section splitting

theorem rfind_lower (c : Char) (text : List Char) : -1 ≤ rfind c text := by
  induction text with
  | nil => exact le_rfl
  | cons d rest ih =>
    rw [rfind]
    split
    · omega
    · split <;> omega

theorem rfind_nonneg {c : Char} {text : List Char} (member : c ∈ text) : 0 ≤ rfind c text := by
  induction text with
  | nil => cases member
  | cons d rest ih =>
    rw [rfind]
    split
    next later => exact Int.add_nonneg later Int.one_nonneg
    next none =>
      obtain rfl | later := List.mem_cons.mp member
      · rw [if_pos rfl]
      · exact absurd (ih later) none

theorem rfind_split {c : Char} {text : List Char} (found : 0 ≤ rfind c text) :
    text = text.take (rfind c text).toNat ++ c :: text.drop ((rfind c text).toNat + 1) ∧
      c ∉ text.drop ((rfind c text).toNat + 1) := by
  induction text with
  | nil => cases found
  | cons d rest ih =>
    by_cases later : 0 ≤ rfind c rest
    · have index : (rfind c (d :: rest)).toNat = (rfind c rest).toNat + 1 := by
        rw [rfind, if_pos later]
        omega
      obtain ⟨whole, absent⟩ := ih later
      rw [index, List.take_succ_cons, List.drop_succ_cons, List.cons_append]
      exact ⟨congrArg (d :: ·) whole, absent⟩
    · rw [rfind, if_neg later] at found ⊢
      split at found
      next here =>
        rw [if_pos here, here]
        exact ⟨rfl, fun member => later (rfind_nonneg member)⟩
      next => cases found

/-- The text is the repository, a colon and the tag, which has neither a colon nor the slash that
stands behind a registry port; and it is so in no other way. -/
structure Splits (value repository tag : String) : Prop where
  text : value.toList = repository.toList ++ ':' :: tag.toList
  named : repository ≠ ""
  tagged : isTag tag.toList = true
  undigested : '@' ∉ value.toList
  unique : ∀ front back : String, value.toList = front.toList ++ ':' :: back.toList →
    ':' ∉ back.toList → front = repository ∧ back = tag

theorem tagCharacter_of_isTag {tag : List Char} (isTag_ : isTag tag = true) :
    ∀ c ∈ tag, tagCharacter c = true := by
  cases tag with
  | nil => cases isTag_
  | cons first rest =>
    simp only [isTag, Bool.and_eq_true, Bool.or_eq_true, List.all_eq_true] at isTag_
    rintro c (_ | ⟨_, member⟩)
    · obtain alphanum | underscore := isTag_.1.1
      · simp [tagCharacter, alphanum]
      · simp [tagCharacter, underscore]
    · exact isTag_.1.2 c member

theorem isTag_plain {tag : List Char} (isTag_ : isTag tag = true) : ':' ∉ tag ∧ '/' ∉ tag :=
  ⟨fun member => absurd (tagCharacter_of_isTag isTag_ _ member) (by decide),
    fun member => absurd (tagCharacter_of_isTag isTag_ _ member) (by decide)⟩

/-- There is one way to cut a text at its last separator. -/
theorem split_unique {c : Char} {front back first last : List Char}
    (same : front ++ c :: back = first ++ c :: last) (absent : c ∉ back) (free : c ∉ last) :
    front = first ∧ back = last := by
  have mirrored : back.reverse ++ c :: front.reverse = last.reverse ++ c :: first.reverse := by
    simpa using congrArg List.reverse same
  obtain ⟨sameBack, sameFront⟩ :=
    Text.separated_inj (by simpa using absent) (by simpa using free) mirrored
  exact ⟨List.reverse_injective sameFront, List.reverse_injective sameBack⟩

theorem taggedImage_splits {value repository tag : String}
    (tagged : taggedImage value = some (repository, tag)) :
    Splits value repository tag := by
  unfold taggedImage at tagged
  dsimp only at tagged
  split at tagged
  next => cases tagged
  next plain =>
    split at tagged
    next => cases tagged
    next behind =>
      split at tagged
      next => cases tagged
      next valid =>
        cases tagged
        have found : 0 ≤ rfind ':' value.toList := by
          have lower := rfind_lower '/' value.toList
          omega
        obtain ⟨whole, _⟩ := rfind_split found
        simp only [Bool.or_eq_true, not_or, Bool.not_eq_true, List.isEmpty_eq_false_iff,
          Bool.not_eq_false'] at valid
        simp only [Bool.or_eq_true, not_or, List.contains_iff_mem] at plain
        refine ⟨by simpa using whole,
          fun empty => valid.1 (by simpa using congrArg String.toList empty), ?_, plain.1.2, ?_⟩
        · simpa using valid.2
        · intro front back other free
          obtain ⟨sameFront, sameBack⟩ :=
            split_unique (other.symm.trans whole) free (isTag_plain valid.2).1
          rw [← sameFront, ← sameBack, String.ofList_toList, String.ofList_toList]
          exact ⟨rfl, rfl⟩

end splitting

section results

theorem declaredImageReplacement_ok {source : RemediationSourceDeclaration}
    {replacement result : ScalarFieldReplacement} (adapter : source.sourceType ≠ "raw-yaml")
    (accepted : declaredImageReplacement source replacement = .ok result) :
    ∃ current desired repository currentTag desiredTag,
      replacement.currentValue = .scalar (.str current) ∧
      replacement.desiredValue = .scalar (.str desired) ∧
      taggedImage current = some (repository, currentTag) ∧
      taggedImage desired = some (repository, desiredTag) ∧
      result.currentValue = .scalar (.str currentTag) ∧
      result.desiredValue = .scalar (.str desiredTag) := by
  unfold declaredImageReplacement at accepted
  split at accepted
  next current desired isCurrent isDesired =>
    rw [if_neg adapter] at accepted
    split at accepted
    next repository currentTag other desiredTag currentSplit desiredSplit =>
      split at accepted
      next => cases accepted
      next same =>
        obtain rfl : repository = other := not_not.mp same
        refine ⟨current, desired, repository, currentTag, desiredTag, isCurrent, isDesired,
          currentSplit, desiredSplit, ?_⟩
        split at accepted
        · split at accepted
          · cases accepted
            exact ⟨rfl, rfl⟩
          · split at accepted
            · cases accepted
              exact ⟨rfl, rfl⟩
            · cases accepted
        · split at accepted
          · cases accepted
            exact ⟨rfl, rfl⟩
          · cases accepted
    next => cases accepted
  next => cases accepted

/-- An accepted replacement splits both images, in the one way there is, behind the same repository,
and returns their tags. A digest, a missing tag or another repository is refused. -/
theorem tag_adapters_recompose (source : RemediationSourceDeclaration)
    (replacement : ScalarFieldReplacement)
    (adapter : source.sourceType = "helm-values" ∨ source.sourceType = "kustomize") :
    (∀ result, declaredImageReplacement source replacement = .ok result →
      ∃ current desired repository currentTag desiredTag : String,
        replacement.currentValue = .scalar (.str current) ∧
        replacement.desiredValue = .scalar (.str desired) ∧
        result.currentValue = .scalar (.str currentTag) ∧
        result.desiredValue = .scalar (.str desiredTag) ∧
        Splits current repository currentTag ∧ Splits desired repository desiredTag ∧
        current = repository ++ ":" ++ currentTag ∧ repository ++ ":" ++ desiredTag = desired) ∧
    ∀ current desired : String, replacement.currentValue = .scalar (.str current) →
      replacement.desiredValue = .scalar (.str desired) →
      ('@' ∈ current.toList ∨ '@' ∈ desired.toList ∨
        (∀ repository tag, ¬ Splits current repository tag) ∨
        (∀ repository tag, ¬ Splits desired repository tag) ∨
        ∃ one oneTag two twoTag, Splits current one oneTag ∧ Splits desired two twoTag ∧
          one ≠ two) →
      ∃ error, declaredImageReplacement source replacement = .error error := by
  have declared : source.sourceType ≠ "raw-yaml" := by
    intro raw
    rw [raw] at adapter
    obtain impossible | impossible := adapter <;> exact absurd impossible (by decide)
  have joined {value repository tag : String} (splits : Splits value repository tag) :
      value = repository ++ ":" ++ tag :=
    String.toList_injective (by simp [splits.text])
  constructor
  · intro result accepted
    obtain ⟨current, desired, repository, currentTag, desiredTag, isCurrent, isDesired, first,
      second, tags⟩ :=
      declaredImageReplacement_ok declared accepted
    have currentSplits := taggedImage_splits first
    have desiredSplits := taggedImage_splits second
    exact ⟨current, desired, repository, currentTag, desiredTag, isCurrent, isDesired, tags.1,
      tags.2, currentSplits, desiredSplits, joined currentSplits, (joined desiredSplits).symm⟩
  · intro current desired isCurrent isDesired refused
    cases outcome : declaredImageReplacement source replacement with
    | error error => exact ⟨error, rfl⟩
    | ok result =>
      obtain ⟨found, wanted, repository, currentTag, desiredTag, same, other, first, second, _⟩ :=
        declaredImageReplacement_ok declared outcome
      cases isCurrent.symm.trans same
      cases isDesired.symm.trans other
      have currentSplits := taggedImage_splits first
      have desiredSplits := taggedImage_splits second
      obtain digest | digest | untagged | untagged | ⟨one, oneTag, two, twoTag, oneSplits,
        twoSplits, moved⟩ := refused
      · exact absurd digest currentSplits.undigested
      · exact absurd digest desiredSplits.undigested
      · exact absurd currentSplits (untagged _ _)
      · exact absurd desiredSplits (untagged _ _)
      · obtain ⟨rfl, _⟩ :=
          currentSplits.unique one oneTag oneSplits.text (isTag_plain oneSplits.tagged).1
        obtain ⟨rfl, _⟩ :=
          desiredSplits.unique two twoTag twoSplits.text (isTag_plain twoSplits.tagged).1
        exact absurd rfl moved

/-- A registry port stays in the repository, and a digest is refused. -/
theorem tag_adapters_recompose_port :
    (∃ repository, Splits "r:5000/app:1" repository "1" ∧
      repository ++ ":" ++ "2" = "r:5000/app:2") ∧
    ∃ error, declaredImageReplacement ⟨"m.yaml", "kustomize", "k", none, none, ["r"], none, []⟩
      ⟨"image", .scalar (.str "r@1"), .scalar (.str "r:2")⟩ = .error error := by
  refine ⟨?_, (tag_adapters_recompose _ _ (.inr rfl)).2 "r@1" "r:2" rfl rfl (.inl (by decide))⟩
  have accepted : declaredImageReplacement ⟨"m.yaml", "kustomize", "k", none, none,
      ["r:5000/app"], none, []⟩
      ⟨"image", .scalar (.str "r:5000/app:1"), .scalar (.str "r:5000/app:2")⟩ =
    .ok ⟨"images[name=r:5000/app].newTag", .scalar (.str "1"), .scalar (.str "2")⟩ := by rfl
  obtain ⟨current, desired, repository, currentTag, desiredTag, isCurrent, isDesired, isOld, isNew,
    splits, _, _, joined⟩ :=
    (tag_adapters_recompose _ _ (.inr rfl)).1 _ accepted
  cases isCurrent
  cases isDesired
  cases isOld
  cases isNew
  exact ⟨repository, splits, joined⟩

end results

end K8sOps.Gitops
