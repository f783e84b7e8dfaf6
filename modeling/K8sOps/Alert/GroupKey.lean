import Mathlib.Data.String.Basic
import K8sOps.Keyed
import K8sOps.Python.Text
import K8sOps.Text.Slashes

/-! The key under which the notifications of an alert group are merged. It joins free texts
with separators that are not escaped, and it counts an alert as firing by the exact
spelling of its status, so it tells groups apart only where neither matters. -/
namespace K8sOps.Alert
open Python Text

structure AlertmanagerAlert where
  status : String
  startsAt : String
  fingerprint : String

structure AlertmanagerWebhookRequest where
  groupKey : String
  alerts : List AlertmanagerAlert

/-- `str.lower`, of which only one text matters. -/
structure LowerCase where
  lower : String → String
  firing : lower "firing" = "firing"

namespace AlertmanagerAlert

def isFiring (alert : AlertmanagerAlert) : Bool := alert.status = "firing"

/-- The test of the webhook. -/
def countsAsFiring (letters : LowerCase) (alert : AlertmanagerAlert) : Bool :=
  letters.lower (strip alert.status) = "firing"

def label (alert : AlertmanagerAlert) : String := alert.fingerprint ++ "@" ++ alert.startsAt

end AlertmanagerAlert

namespace AlertmanagerWebhookRequest

def firing (payload : AlertmanagerWebhookRequest) : List String :=
  ((payload.alerts.filter (·.isFiring)).map (·.label)).insertionSort (· ≤ ·)

def raw (payload : AlertmanagerWebhookRequest) : String :=
  String.intercalate "|" (payload.groupKey :: payload.firing)

/-- The alerts that the webhook opens an incident for. -/
def firingPairs (letters : LowerCase) (payload : AlertmanagerWebhookRequest) :
    List (String × String) :=
  (payload.alerts.filter (·.countsAsFiring letters)).map fun alert =>
    (alert.fingerprint, alert.startsAt)

end AlertmanagerWebhookRequest

def alertmanagerEvidenceKey (digest : String → String) (workspaceId clusterId : String)
    (payload : AlertmanagerWebhookRequest) : String :=
  workspaceId ++ ":" ++ clusterId ++ ":alertmanager:" ++ digest payload.raw

structure SameGroup (letters : LowerCase) (one two : AlertmanagerWebhookRequest) : Prop where
  groupKey : one.groupKey = two.groupKey
  firing : (one.firingPairs letters).Perm (two.firingPairs letters)

/-- Texts in which the separators cannot be mistaken, and statuses as Alertmanager spells
them. -/
structure Spelled (letters : LowerCase) (payload : AlertmanagerWebhookRequest) : Prop where
  statuses : ∀ alert ∈ payload.alerts, alert.countsAsFiring letters = true → alert.status = "firing"
  fingerprints : ∀ alert ∈ payload.alerts, alert.status = "firing" →
    '|' ∉ alert.fingerprint.toList ∧ '@' ∉ alert.fingerprint.toList
  starts : ∀ alert ∈ payload.alerts, alert.status = "firing" → '|' ∉ alert.startsAt.toList
  groupKey : ∀ part ∈ (payload.groupKey.toList.splitOn '|').tail, '@' ∉ part

variable {letters : LowerCase} {one two payload : AlertmanagerWebhookRequest}
  {alert : AlertmanagerAlert}

theorem toList_label :
    alert.label.toList = alert.fingerprint.toList ++ '@' :: alert.startsAt.toList := by
  rw [AlertmanagerAlert.label, String.toList_append, String.toList_append]
  simp

theorem at_mem_label : '@' ∈ alert.label.toList := by
  rw [toList_label]
  exact List.mem_append_right _ List.mem_cons_self

/-- The pair that a label without further separators was made of. -/
def labelPair (label : String) : String × String :=
  (String.ofList (label.toList.takeWhile (· ≠ '@')),
    String.ofList (label.toList.dropWhile (· ≠ '@')).tail)

theorem labelPair_label (plain : '@' ∉ alert.fingerprint.toList) :
    labelPair alert.label = (alert.fingerprint, alert.startsAt) := by
  have before : ∀ c ∈ alert.fingerprint.toList, decide (c ≠ '@') = true := by
    intro c member
    exact decide_eq_true fun same => plain (same ▸ member)
  rw [labelPair, toList_label, List.takeWhile_append_of_pos before,
    List.dropWhile_append_of_pos before]
  simp

theorem division_unique {marked : α → Bool} {first other : α}
    {front back otherFront otherBack : List α} (unmarked : ∀ item ∈ front, marked item = false)
    (otherUnmarked : ∀ item ∈ otherFront, marked item = false)
    (isMarked : ∀ item ∈ back, marked item = true)
    (otherMarked : ∀ item ∈ otherBack, marked item = true)
    (same : first :: front ++ back = other :: otherFront ++ otherBack) :
    first :: front = other :: otherFront ∧ back = otherBack := by
  have until_ {front back : List α} (unmarked : ∀ item ∈ front, marked item = false)
      (isMarked : ∀ item ∈ back, marked item = true) :
        (front ++ back).takeWhile (fun item => !marked item) = front := by
    rw [List.takeWhile_append_of_pos fun item member => by rw [unmarked item member]; rfl]
    cases back with
    | nil => simp
    | cons next back => simp [isMarked next List.mem_cons_self]
  rw [List.cons_append, List.cons_append, List.cons.injEq] at same
  obtain ⟨rfl, rest⟩ := same
  have fronts : front = otherFront := by
    rw [← until_ unmarked isMarked, rest, until_ otherUnmarked otherMarked]
  subst fronts
  exact ⟨rfl, List.append_cancel_left rest⟩

namespace Spelled

theorem isFiring_iff (spelled : Spelled letters payload) (member : alert ∈ payload.alerts) :
    alert.countsAsFiring letters = true ↔ alert.isFiring = true := by
  constructor
  · intro counted
    exact decide_eq_true (spelled.statuses alert member counted)
  · intro firing
    have trimmed : strip "firing" = "firing" := by decide +kernel
    rw [AlertmanagerAlert.countsAsFiring, of_decide_eq_true firing, trimmed, letters.firing]
    rfl

theorem firingPairs_eq (spelled : Spelled letters payload) : payload.firingPairs letters =
    (payload.alerts.filter (·.isFiring)).map fun alert => (alert.fingerprint, alert.startsAt) := by
  rw [AlertmanagerWebhookRequest.firingPairs]
  refine congrArg (List.map _) (List.filter_congr fun alert member => ?_)
  rw [Bool.eq_iff_iff]
  exact spelled.isFiring_iff member

theorem firing_pairs (spelled : Spelled letters payload) :
    (payload.firing.map labelPair).Perm (payload.firingPairs letters) := by
  rw [spelled.firingPairs_eq, AlertmanagerWebhookRequest.firing]
  refine ((List.perm_insertionSort _ _).map _).trans (List.Perm.of_eq ?_)
  rw [List.map_map]
  refine List.map_congr_left fun alert member => ?_
  obtain ⟨listed, firing⟩ := List.mem_filter.mp member
  exact labelPair_label (spelled.fingerprints alert listed (of_decide_eq_true firing)).2

theorem firing_labels (spelled : Spelled letters payload) {label : String}
    (member : label ∈ payload.firing) :
    '|' ∉ label.toList ∧ '@' ∈ label.toList := by
  obtain ⟨alert, found, rfl⟩ := List.mem_map.mp ((List.mem_insertionSort _).mp member)
  obtain ⟨listed, firing⟩ := List.mem_filter.mp found
  have isFiring := of_decide_eq_true firing
  refine ⟨?_, at_mem_label⟩
  rw [toList_label, List.mem_append, List.mem_cons, not_or, not_or]
  exact ⟨(spelled.fingerprints alert listed isFiring).1, by decide,
    spelled.starts alert listed isFiring⟩

theorem splitOn_raw (spelled : Spelled letters payload) :
    payload.raw.toList.splitOn '|' = payload.groupKey.toList.splitOn '|' ++
      payload.firing.map String.toList := by
  rw [AlertmanagerWebhookRequest.raw, String.toList_intercalate, List.map_cons]
  refine splitOn_intercalate_cons _ fun part member => ?_
  obtain ⟨label, among, rfl⟩ := List.mem_map.mp member
  exact (spelled.firing_labels among).1

/-- The labels begin where parts after the first one hold an `@`. -/
theorem parts_unique (first : Spelled letters one) (second : Spelled letters two)
    (same : one.raw = two.raw) :
    one.groupKey = two.groupKey ∧ one.firing = two.firing := by
  have parts := second.splitOn_raw
  rw [← same, first.splitOn_raw] at parts
  have marked {payload : AlertmanagerWebhookRequest} (spelled : Spelled letters payload) :
      ∀ part ∈ payload.firing.map String.toList, part.contains '@' = true := by
    intro part member
    obtain ⟨label, among, rfl⟩ := List.mem_map.mp member
    exact List.contains_iff_mem.mpr (spelled.firing_labels among).2
  have unmarked {payload : AlertmanagerWebhookRequest} (spelled : Spelled letters payload)
      {head : List Char} {tail : List (List Char)} (split : payload.groupKey.toList.splitOn '|' =
        head :: tail) :
      ∀ part ∈ tail, part.contains '@' = false := by
    intro part member
    have plain := spelled.groupKey
    rw [split] at plain
    exact Bool.eq_false_iff.mpr fun found => plain part member (List.contains_iff_mem.mp found)
  obtain ⟨head, tail, split⟩ :=
    List.exists_cons_of_ne_nil (List.splitOn_ne_nil '|' one.groupKey.toList)
  obtain ⟨otherHead, otherTail, otherSplit⟩ :=
    List.exists_cons_of_ne_nil (List.splitOn_ne_nil '|' two.groupKey.toList)
  rw [split, otherSplit] at parts
  obtain ⟨groups, labels⟩ :=
    division_unique (unmarked first split) (unmarked second otherSplit) (marked first)
    (marked second) parts
  constructor
  · have texts := congrArg ['|'].intercalate (split.trans (groups.trans otherSplit.symm))
    rw [List.intercalate_splitOn, List.intercalate_splitOn] at texts
    exact String.toList_inj.mp texts
  · exact List.map_injective_iff.mpr (fun _ _ => String.toList_inj.mp) labels

end Spelled

theorem evidenceKey_inj {digest : String → String} (injective : Function.Injective digest)
    {workspaceId clusterId : String} :
    alertmanagerEvidenceKey digest workspaceId clusterId one =
      alertmanagerEvidenceKey digest workspaceId clusterId two ↔
      one.raw = two.raw := by
  rw [alertmanagerEvidenceKey, alertmanagerEvidenceKey, String.append_right_inj]
  exact injective.eq_iff

/-- For spelled notifications the key identifies the alert group. -/
theorem evidenceKey_eq_iff (letters : LowerCase) (digest : String → String)
    (injective : Function.Injective digest) (workspaceId clusterId : String)
    (one two : AlertmanagerWebhookRequest) (first : Spelled letters one)
    (second : Spelled letters two) :
    alertmanagerEvidenceKey digest workspaceId clusterId one =
        alertmanagerEvidenceKey digest workspaceId clusterId two ↔
      SameGroup letters one two := by
  rw [evidenceKey_inj injective]
  constructor
  · intro same
    obtain ⟨groupKey, firing⟩ := first.parts_unique second same
    exact ⟨groupKey, first.firing_pairs.symm.trans (firing ▸ second.firing_pairs)⟩
  · rintro ⟨groupKey, firing⟩
    have labels (payload : AlertmanagerWebhookRequest) (spelled : Spelled letters payload) :
        (payload.alerts.filter (·.isFiring)).map (·.label) =
          (payload.firingPairs letters).map fun pair => pair.1 ++ "@" ++ pair.2 := by
      rw [spelled.firingPairs_eq, List.map_map]
      rfl
    have sorted : one.firing = two.firing := by
      rw [AlertmanagerWebhookRequest.firing, AlertmanagerWebhookRequest.firing, labels one first,
        labels two second]
      exact insertionSort_perm (fun label : String => label) (firing.map _) fun _ _ _ _ => id
    rw [AlertmanagerWebhookRequest.raw, AlertmanagerWebhookRequest.raw, groupKey, sorted]

section sample

/-- Enough of `str.lower` for one capital. -/
def capitalF : LowerCase := ⟨fun text => if text = "Firing" then "firing" else text, by decide⟩

def sampleAlert (status fingerprint : String) : AlertmanagerAlert := ⟨status, "t", fingerprint⟩

theorem evidenceKey_eq_iff_sample :
    alertmanagerEvidenceKey id "w" "c" ⟨"g", [sampleAlert "firing" "a", sampleAlert "firing" "b"]⟩ =
      alertmanagerEvidenceKey id "w" "c"
        ⟨"g", [sampleAlert "firing" "b", sampleAlert "resolved" "c",
          sampleAlert "firing" "a"]⟩ := by
  refine (evidenceKey_eq_iff capitalF id Function.injective_id "w" "c" _ _ ?_ ?_).mpr ⟨rfl, ?_⟩
  · exact ⟨by decide +kernel, by decide +kernel, by decide +kernel, by decide +kernel⟩
  · exact ⟨by decide +kernel, by decide +kernel, by decide +kernel, by decide +kernel⟩
  · decide +kernel

/-- A status spelled with a capital counts as firing and leaves the key alone, and a group
key can pass for one with a label. -/
theorem evidenceKey_confused :
    (alertmanagerEvidenceKey id "w" "c" ⟨"g", [sampleAlert "Firing" "a"]⟩ =
        alertmanagerEvidenceKey id "w" "c" ⟨"g", [sampleAlert "Firing" "b"]⟩ ∧
      ¬SameGroup capitalF ⟨"g", [sampleAlert "Firing" "a"]⟩ ⟨"g", [sampleAlert "Firing" "b"]⟩) ∧
    (alertmanagerEvidenceKey id "w" "c" ⟨"g|a@t", [sampleAlert "firing" "b"]⟩ =
        alertmanagerEvidenceKey id "w" "c" ⟨"g",
          [sampleAlert "firing" "a", sampleAlert "firing" "b"]⟩ ∧
      ¬SameGroup capitalF ⟨"g|a@t", [sampleAlert "firing" "b"]⟩
        ⟨"g", [sampleAlert "firing" "a", sampleAlert "firing" "b"]⟩) := by
  have keys {one two : AlertmanagerWebhookRequest} (same : one.raw = two.raw) :
      alertmanagerEvidenceKey id "w" "c" one = alertmanagerEvidenceKey id "w" "c" two := by
    rw [alertmanagerEvidenceKey, alertmanagerEvidenceKey, same]
  refine ⟨⟨keys (by decide +kernel), fun same => ?_⟩, keys (by decide +kernel), fun same => ?_⟩
  · exact absurd same.firing (by decide +kernel)
  · exact absurd same.groupKey (by decide)

end sample

end K8sOps.Alert
