import Mathlib.Data.List.Dedup
import Mathlib.Data.List.Perm.Basic
import K8sOps.Keyed
import K8sOps.Python.Convert

/-! The Deployment that stands for a Pod or a ReplicaSet of an incident. Metadata names it by a kept
lineage or by the one snapshot that lists the resource; it is taken if all metadata that name one
agree. -/
namespace K8sOps.Rca
open Python

section model
variable (casefold : String → String)

structure WorkloadTarget where
  «namespace» : String
  resourceKind : String
  resourceName : String
  originalNamespace : String
  originalResourceKind : String
  originalResourceName : String
  resolutionSource : String
  deriving DecidableEq

def WorkloadTarget.resolved (target : WorkloadTarget) : Bool := target.resolutionSource != ""

def workloadSnapshotSource : String := "metadata:current_workload_snapshots"

/-- Membership in `CONTROLLER_RESOLUTION_KINDS`. -/
def isControllerKind (kind : String) : Bool :=
  casefold kind == "pod" || casefold kind == "replicaset"

/-- The first list among the four places where metadata keep snapshots. -/
def workloadSnapshots (metadata : Value) : List Entries :=
  let fields := asMapping metadata
  let nested := (dict? (getOrNone "change_context" fields)).bind fun context =>
    list? (getOrNone "current_workload_snapshots" context)
  let raw := list? (getOrNone "current_workload_snapshots" fields) <|> nested <|>
    list? (getOrNone "items" fields) <|> list? (getOrNone "workloads" fields)
  (raw.getD []).filterMap dict?

def ownershipKey (kind : String) : String :=
  if casefold kind = "replicaset" then "replicaset_revisions" else "pod_statuses"

/-- The items of a snapshot that are the resource. -/
def ownedMatches (name : String) (owned : List Value) : List Entries :=
  (owned.filterMap dict?).filter fun item => getText "name" item == name

def deploymentOwnerFromSnapshot (owned : String) (kind name : String) (snapshot : Entries) :
    Option (String × String) :=
  (dict? (getOrNone "workload" snapshot)).bind fun workload =>
    if casefold (getText "kind" workload) ≠ "deployment" ∨ getText "namespace" workload ≠ owned ∨
        getText "name" workload = "" then none
    else
      (list? (getOrNone (ownershipKey casefold kind) snapshot)).bind fun items =>
        if (ownedMatches name items).length ≠ 1 then none
        else some (getText "namespace" workload, getText "name" workload)

def resolveWorkloadTarget («namespace» kind name metadata : Value) : WorkloadTarget :=
  let original : WorkloadTarget :=
    { «namespace» := asText «namespace», resourceKind := asText kind, resourceName := asText name,
      originalNamespace := asText «namespace», originalResourceKind :=
        asText kind, originalResourceName := asText name,
      resolutionSource := "" }
  if isControllerKind casefold original.resourceKind = false ∨ original.namespace = "" ∨
    original.resourceKind = "" ∨
      original.resourceName = "" then original
  else
    match (workloadSnapshots metadata).filterMap
        (deploymentOwnerFromSnapshot casefold original.namespace original.resourceKind
          original.resourceName) with
    | [(foundNamespace, foundName)] =>
      { original with
        «namespace» := foundNamespace, resourceKind := "Deployment", resourceName := foundName,
        resolutionSource := workloadSnapshotSource }
    | _ => original

def declaredResolvedTarget (original : WorkloadTarget) (metadata : Value) : Option WorkloadTarget :=
  (dict? metadata).bind fun fields =>
    if getText "gitops_target_resolution" fields ≠ workloadSnapshotSource then none
    else
      (dict? (getOrNone "original_target" fields)).bind fun declaredOriginal =>
        (dict? (getOrNone "gitops_target" fields)).bind fun declared =>
          if getText "namespace" declaredOriginal ≠ original.namespace ∨
              casefold (getText "resource_kind" declaredOriginal) ≠ casefold original.resourceKind ∨
              getText "resource_name" declaredOriginal ≠ original.resourceName then none
          else if isControllerKind casefold original.resourceKind = false ∨
              getText "namespace" declared ≠ original.namespace ∨
              casefold (getText "resource_kind" declared) ≠ "deployment" ∨
              getText "resource_name" declared = "" then none
          else
            some { «namespace» := getText "namespace" declared, resourceKind := "Deployment",
                   resourceName :=
                     getText "resource_name" declared, originalNamespace := original.namespace,
                   originalResourceKind :=
                     original.resourceKind, originalResourceName := original.resourceName,
                   resolutionSource := workloadSnapshotSource }

/-- What one metadata object gives for the resource. -/
def metadataCandidate (original : WorkloadTarget) (metadata : Value) : WorkloadTarget :=
  (declaredResolvedTarget casefold original metadata).getD
    (resolveWorkloadTarget casefold (.scalar (.str original.namespace))
      (.scalar (.str original.resourceKind))
      (.scalar (.str original.resourceName)) metadata)

def resolvedTargetFromMetadata («namespace» kind name : Value)
    (metadataValues : List Value) : WorkloadTarget :=
  let original := resolveWorkloadTarget casefold «namespace» kind name (.scalar .none)
  let resolved :=
    (metadataValues.map (metadataCandidate casefold original)).filter WorkloadTarget.resolved
  let identities :=
    (resolved.map fun item => (item.namespace, casefold item.resourceKind, item.resourceName)).dedup
  if identities.length ≠ 1 then original else resolved.head?.getD original

end model

section candidates
variable {casefold : String → String}

/-- The resource as it stands when nothing is promoted. -/
def WorkloadTarget.unpromoted («namespace» kind name : Value) : WorkloadTarget :=
  { «namespace» := asText «namespace», resourceKind := asText kind, resourceName := asText name,
    originalNamespace :=
      asText «namespace», originalResourceKind := asText kind, originalResourceName := asText name,
    resolutionSource := "" }

/-- The resource promoted to a Deployment of its namespace. -/
def WorkloadTarget.promoted (original : WorkloadTarget) (deployment : String) : WorkloadTarget :=
  { «namespace» := original.namespace, resourceKind := "Deployment", resourceName := deployment,
    originalNamespace := original.namespace, originalResourceKind := original.resourceKind,
    originalResourceName := original.resourceName, resolutionSource := workloadSnapshotSource }

/-- The metadata declare the Deployment with a lineage that names the resource. -/
def Declares (casefold : String → String) (original : WorkloadTarget) (deployment : String)
    (metadata : Value) : Prop :=
  ∃ fields declaredOriginal declared, metadata = .dict fields ∧
    getText "gitops_target_resolution" fields = workloadSnapshotSource ∧
    getOrNone "original_target" fields = .dict declaredOriginal ∧
    getOrNone "gitops_target" fields = .dict declared ∧
    (getText "namespace" declaredOriginal = original.namespace ∧
      casefold (getText "resource_kind" declaredOriginal) = casefold original.resourceKind ∧
      getText "resource_name" declaredOriginal = original.resourceName) ∧
    getText "namespace" declared = original.namespace ∧
      casefold (getText "resource_kind" declared) = "deployment" ∧
    getText "resource_name" declared = deployment ∧ deployment ≠ ""

/-- A snapshot of a Deployment in the namespace of the resource that lists the resource once. -/
def Owner (casefold : String → String) (original : WorkloadTarget) (deployment : String)
    (snapshot : Entries) : Prop :=
  ∃ workload items, getOrNone "workload" snapshot = .dict workload ∧
    casefold (getText "kind" workload) = "deployment" ∧
    getText "namespace" workload = original.namespace ∧ getText "name" workload = deployment ∧
    deployment ≠ "" ∧
    getOrNone (ownershipKey casefold original.resourceKind) snapshot = .list items ∧
    (ownedMatches original.resourceName items).length = 1

/-- Exactly one snapshot of the metadata owns the resource. -/
def OnlyOwner (casefold : String → String) (original : WorkloadTarget) (deployment : String)
    (metadata : Value) : Prop :=
  ∃ before snapshot after, workloadSnapshots metadata = before ++ snapshot :: after ∧
    Owner casefold original deployment snapshot ∧
    ∀ other ∈ before ++ after, ∀ name, ¬ Owner casefold original name other

theorem declared_spec {original : WorkloadTarget} {metadata : Value} :
    declaredResolvedTarget casefold original metadata = some target ↔
      isControllerKind casefold original.resourceKind = true ∧
        ∃ deployment, Declares casefold original deployment metadata ∧
          target = original.promoted deployment := by
  constructor
  · intro found
    obtain ⟨fields, isFields, found⟩ := Option.bind_eq_some_iff.mp found
    rw [dict?_eq_some] at isFields
    split at found
    · cases found
    next source =>
    obtain ⟨declaredOriginal, isOriginal, found⟩ := Option.bind_eq_some_iff.mp found
    obtain ⟨declared, isDeclared, found⟩ := Option.bind_eq_some_iff.mp found
    rw [dict?_eq_some] at isOriginal isDeclared
    split at found
    · cases found
    next lineage =>
    split at found
    · cases found
    next named =>
    simp only [not_or, not_not, Bool.not_eq_false] at source lineage named
    obtain ⟨controller, sameNamespace, kind, present⟩ := named
    cases found
    refine ⟨controller, getText "resource_name" declared, ?_, ?_⟩
    · exact ⟨fields, declaredOriginal, declared, isFields, source, isOriginal, isDeclared, lineage,
        sameNamespace, kind,
        rfl, present⟩
    · rw [WorkloadTarget.promoted, sameNamespace]
  · rintro ⟨controller, deployment,
      ⟨fields, declaredOriginal, declared, rfl, source, isOriginal, isDeclared, lineage,
        sameNamespace, kind, rfl, present⟩, rfl⟩
    have lineageHolds : ¬(getText "namespace" declaredOriginal ≠ original.namespace ∨
        casefold (getText "resource_kind" declaredOriginal) ≠ casefold original.resourceKind ∨
        getText "resource_name" declaredOriginal ≠ original.resourceName) := by
      simpa only [not_or, not_not] using lineage
    have named : ¬(isControllerKind casefold original.resourceKind = false ∨
        getText "namespace" declared ≠ original.namespace ∨
        casefold (getText "resource_kind" declared) ≠ "deployment" ∨
          getText "resource_name" declared = "") := by
      simpa only [not_or, not_not, Bool.not_eq_false] using ⟨controller, sameNamespace,
        kind, present⟩
    rw [declaredResolvedTarget, dict?, Option.bind_some, if_neg (not_not.mpr source), isOriginal,
      dict?, Option.bind_some, isDeclared, dict?, Option.bind_some, if_neg lineageHolds,
      if_neg named, WorkloadTarget.promoted, sameNamespace]

theorem owner_spec {original : WorkloadTarget} {snapshot : Entries} :
    deploymentOwnerFromSnapshot casefold original.namespace original.resourceKind
      original.resourceName snapshot =
        some found ↔
      ∃ deployment, Owner casefold original deployment snapshot ∧
        found = (original.namespace, deployment) := by
  constructor
  · intro owned
    obtain ⟨workload, isWorkload, owned⟩ := Option.bind_eq_some_iff.mp owned
    rw [dict?_eq_some] at isWorkload
    split at owned
    · cases owned
    next identity =>
    obtain ⟨items, isItems, owned⟩ := Option.bind_eq_some_iff.mp owned
    rw [list?_eq_some] at isItems
    split at owned
    · cases owned
    next once =>
    simp only [not_or, not_not] at identity once
    obtain ⟨kind, sameNamespace, present⟩ := identity
    cases owned
    refine ⟨getText "name" workload,
      ⟨workload, items, isWorkload, kind, sameNamespace, rfl, present, isItems, once⟩, ?_⟩
    rw [sameNamespace]
  · rintro ⟨deployment, ⟨workload, items, isWorkload, kind, sameNamespace, rfl, present, isItems,
      once⟩, rfl⟩
    have identity : ¬(casefold (getText "kind" workload) ≠ "deployment" ∨
        getText "namespace" workload ≠ original.namespace ∨ getText "name" workload = "") := by
      simpa only [not_or, not_not] using ⟨kind, sameNamespace, present⟩
    rw [deploymentOwnerFromSnapshot, isWorkload, dict?, Option.bind_some, if_neg identity, isItems,
      list?, Option.bind_some, if_neg (not_not.mpr once), sameNamespace]

theorem onlyOwner_iff (original : WorkloadTarget) {metadata : Value} :
    (workloadSnapshots metadata).filterMap
        (deploymentOwnerFromSnapshot casefold original.namespace original.resourceKind
          original.resourceName) = [found] ↔
      ∃ deployment, OnlyOwner casefold original deployment metadata ∧
        found = (original.namespace, deployment) := by
  have unowned :
      ∀ snapshot, deploymentOwnerFromSnapshot casefold original.namespace original.resourceKind
      original.resourceName snapshot = none ↔ ∀ name, ¬ Owner casefold original name snapshot := by
    intro snapshot
    rw [Option.eq_none_iff_forall_ne_some]
    constructor
    · exact fun absent name owner => absent _ (owner_spec.mpr ⟨name, owner, rfl⟩)
    · intro absent found owned
      obtain ⟨name, owner, _⟩ := owner_spec.mp owned
      exact absent name owner
  constructor
  · intro owners
    obtain ⟨before, snapshot, after, split, quiet, owned, later⟩ :=
      List.filterMap_eq_cons_iff.mp owners
    obtain ⟨deployment, owner, rfl⟩ := owner_spec.mp owned
    refine ⟨deployment, ⟨before, snapshot, after, split, owner,
      fun other member => (unowned other).mp ?_⟩, rfl⟩
    obtain early | late := List.mem_append.mp member
    · exact quiet other early
    · exact List.filterMap_eq_nil_iff.mp later other late
  · rintro ⟨deployment, ⟨before, snapshot, after, split, owner, quiet⟩, rfl⟩
    refine List.filterMap_eq_cons_iff.mpr ⟨before, snapshot, after, split, fun other member => ?_,
      owner_spec.mpr ⟨deployment, owner, rfl⟩, List.filterMap_eq_nil_iff.mpr fun other member => ?_⟩
    · exact (unowned other).mpr (quiet other (List.mem_append_left _ member))
    · exact (unowned other).mpr (quiet other (List.mem_append_right _ member))

theorem resolve_cases (casefold : String → String) («namespace» kind name metadata : Value) :
    resolveWorkloadTarget casefold «namespace» kind name metadata =
      .unpromoted «namespace» kind name ∨ isControllerKind casefold (asText kind) = true ∧
        ∃ deployment, OnlyOwner casefold (.unpromoted «namespace» kind name) deployment metadata ∧
          resolveWorkloadTarget casefold «namespace» kind name metadata =
            (WorkloadTarget.unpromoted «namespace» kind name).promoted deployment := by
  rw [resolveWorkloadTarget]
  split
  · exact .inl rfl
  next complete =>
    simp only [not_or, Bool.not_eq_false] at complete
    split
    next foundNamespace foundName owners =>
      obtain ⟨deployment, only, same⟩ :=
        (onlyOwner_iff (.unpromoted «namespace» kind name)).mp owners
      cases same
      exact .inr ⟨complete.1, _, only, rfl⟩
    · exact .inl rfl

theorem asText_asText (value : Value) : asText (.scalar (.str (asText value))) = asText value := by
  have empty : strip "" = "" := by decide
  cases value with
  | scalar found =>
    cases found with
    | str text => exact strip_strip text
    | none | bool | int | float | other => exact empty
  | list | dict => exact empty

end candidates

section consensus
variable {casefold : String → String} {resource kind name : Value}

theorem resolve_without_metadata :
    resolveWorkloadTarget casefold resource kind name (.scalar .none) =
      .unpromoted resource kind name := by
  have none : workloadSnapshots (.scalar .none) = [] := rfl
  obtain same | ⟨_, _, ⟨before, snapshot, after, split, _⟩, _⟩ :=
    resolve_cases casefold resource kind name (.scalar .none)
  · exact same
  · rw [none, List.nil_eq, List.append_eq_nil_iff] at split
    cases split.2

/-- What one metadata object gives, if it gives anything. -/
theorem candidate_spec (metadata : Value)
    (resolved : (metadataCandidate casefold (.unpromoted resource kind name) metadata).resolved =
      true) :
    isControllerKind casefold (asText kind) = true ∧
      ∃ deployment, (Declares casefold (.unpromoted resource kind name) deployment metadata ∨
          OnlyOwner casefold (.unpromoted resource kind name) deployment metadata) ∧
        metadataCandidate casefold (.unpromoted resource kind name) metadata =
          (WorkloadTarget.unpromoted resource kind name).promoted deployment := by
  rw [metadataCandidate] at resolved ⊢
  cases declared : declaredResolvedTarget casefold (.unpromoted resource kind name) metadata with
  | some target =>
    obtain ⟨controller, deployment, declares, rfl⟩ := declared_spec.mp declared
    exact ⟨controller, deployment, .inl declares, rfl⟩
  | none =>
    have again : WorkloadTarget.unpromoted (.scalar (.str (asText resource)))
        (.scalar (.str (asText kind)))
        (.scalar (.str (asText name))) = .unpromoted resource kind name := by
      simp only [WorkloadTarget.unpromoted, asText_asText]
    rw [declared] at resolved
    obtain same | ⟨controller, deployment, only, same⟩ := resolve_cases casefold
      (.scalar (.str (asText resource))) (.scalar (.str (asText kind)))
        (.scalar (.str (asText name))) metadata
    · rw [Option.getD_none, WorkloadTarget.unpromoted, same] at resolved
      cases resolved
    · rw [again] at only same
      rw [asText_asText] at controller
      exact ⟨controller, deployment, .inr only, same⟩

theorem dedup_length_one [DecidableEq α] {items : List α} :
    items.dedup.length = 1 ↔ items ≠ [] ∧ ∀ one ∈ items, ∀ two ∈ items, one = two := by
  rw [List.length_eq_one_iff]
  constructor
  · rintro ⟨only, same⟩
    have all : ∀ item ∈ items, item = only := fun item member =>
      List.mem_singleton.mp (same ▸ List.mem_dedup.mpr member)
    refine ⟨?_, fun one first two second => (all one first).trans (all two second).symm⟩
    rintro rfl
    cases same
  · rintro ⟨present, alike⟩
    cases distinct : items.dedup with
    | nil => exact absurd ((List.dedup_eq_nil items).mp distinct) present
    | cons first rest =>
      have members : ∀ item ∈ first :: rest, item ∈ items := fun item member =>
        List.mem_dedup.mp (distinct ▸ member)
      cases rest with
      | nil => exact ⟨first, rfl⟩
      | cons second rest =>
        have nodup := distinct ▸ List.nodup_dedup items
        have same := alike first (members first (by simp)) second (members second (by simp))
        rw [same] at nodup
        exact absurd List.mem_cons_self (List.nodup_cons.mp nodup).1

def resolvedTargets (casefold : String → String) (resource kind name : Value)
    (metadataValues : List Value) : List WorkloadTarget :=
  (metadataValues.map (metadataCandidate casefold (.unpromoted resource kind name))).filter
    WorkloadTarget.resolved

theorem promoted_of_mem {metadataValues : List Value}
    (member : target ∈ resolvedTargets casefold resource kind name metadataValues) :
    ∃ deployment, target = (WorkloadTarget.unpromoted resource kind name).promoted deployment := by
  obtain ⟨among, resolved⟩ := List.mem_filter.mp member
  obtain ⟨metadata, _, rfl⟩ := List.mem_map.mp among
  obtain ⟨_, deployment, _, same⟩ := candidate_spec metadata resolved
  exact ⟨deployment, same⟩

/-- The targets of the metadata agree if their identities do, since a promotion differs from another
one of the same resource in the name only. -/
theorem targets_agree_iff {metadataValues : List Value} :
    ((resolvedTargets casefold resource kind name metadataValues).map fun item =>
        (item.namespace, casefold item.resourceKind, item.resourceName)).dedup.length = 1 ↔
      resolvedTargets casefold resource kind name metadataValues ≠ [] ∧
        ∀ one ∈ resolvedTargets casefold resource kind name metadataValues,
          ∀ two ∈ resolvedTargets casefold resource kind name metadataValues, one = two := by
  rw [dedup_length_one, ne_eq, List.map_eq_nil_iff, List.forall_mem_map]
  refine and_congr Iff.rfl (forall₂_congr fun one first => ?_)
  rw [List.forall_mem_map]
  refine forall₂_congr fun two second => ?_
  obtain ⟨deployment, rfl⟩ := promoted_of_mem first
  obtain ⟨other, rfl⟩ := promoted_of_mem second
  constructor
  · intro same
    simp only [Prod.mk.injEq] at same
    exact congrArg _ same.2.2
  · rintro same
    rw [same]

theorem resolvedTarget_eq (metadataValues : List Value) :
    resolvedTargetFromMetadata casefold resource kind name metadataValues =
      if ((resolvedTargets casefold resource kind name metadataValues).map fun item =>
          (item.namespace, casefold item.resourceKind, item.resourceName)).dedup.length ≠ 1 then
        .unpromoted resource kind name
      else
        (resolvedTargets casefold resource kind name metadataValues).head?.getD
          (.unpromoted resource kind name) := by
  rw [resolvedTargetFromMetadata, resolve_without_metadata]
  rfl

theorem resolvedTarget_resolved_iff {metadataValues : List Value} :
    resolvedTargetFromMetadata casefold resource kind name metadataValues = target ∧
    target.resolved = true ↔
      target ∈ resolvedTargets casefold resource kind name metadataValues ∧
        ∀ other ∈ resolvedTargets casefold resource kind name metadataValues, other = target := by
  rw [resolvedTarget_eq]
  constructor
  · rintro ⟨result, resolved⟩
    split at result
    · rw [← result] at resolved
      cases resolved
    next agree =>
      obtain ⟨present, alike⟩ := targets_agree_iff.mp (not_not.mp agree)
      obtain ⟨first, rest, targets⟩ := List.exists_cons_of_ne_nil present
      rw [targets] at result alike ⊢
      cases result
      exact ⟨List.mem_cons_self, fun other member => alike other member _ List.mem_cons_self⟩
  · rintro ⟨member, alike⟩
    have agree := targets_agree_iff.mpr ⟨List.ne_nil_of_mem member,
      fun one first two second => (alike one first).trans (alike two second).symm⟩
    rw [if_neg (not_not.mpr agree)]
    obtain ⟨first, rest, targets⟩ := List.exists_cons_of_ne_nil (List.ne_nil_of_mem member)
    refine ⟨?_, (List.mem_filter.mp member).2⟩
    rw [targets] at alike ⊢
    exact alike first List.mem_cons_self

theorem resolvedTarget_cases (casefold : String → String) (resource kind name : Value)
    (metadataValues : List Value) :
    resolvedTargetFromMetadata casefold resource kind name metadataValues =
      .unpromoted resource kind name ∨
      (resolvedTargetFromMetadata casefold resource kind name metadataValues).resolved = true := by
  rw [resolvedTarget_eq]
  split
  · exact .inl rfl
  next agree =>
    obtain ⟨first, rest, targets⟩ :=
      List.exists_cons_of_ne_nil (targets_agree_iff.mp (not_not.mp agree)).1
    have member : first ∈ resolvedTargets casefold resource kind name metadataValues := by
      rw [targets]
      exact List.mem_cons_self
    rw [targets]
    exact .inr (List.mem_filter.mp member).2

theorem resolvedTarget_perm {metadataValues others : List Value}
    (perm : (metadataValues.map (metadataCandidate casefold (.unpromoted resource kind name))).Perm
      (others.map (metadataCandidate casefold (.unpromoted resource kind name)))) :
    resolvedTargetFromMetadata casefold resource kind name metadataValues =
      resolvedTargetFromMetadata casefold resource kind name others := by
  have same : ∀ target, target ∈ resolvedTargets casefold resource kind name metadataValues ↔
      target ∈ resolvedTargets casefold resource kind name others :=
        fun target => (perm.filter _).mem_iff
  have result :
      ∀ target, (resolvedTargetFromMetadata casefold resource kind name metadataValues = target ∧
      target.resolved = true) ↔
        (resolvedTargetFromMetadata casefold resource kind name others = target ∧
          target.resolved = true) := by
    intro target
    rw [resolvedTarget_resolved_iff, resolvedTarget_resolved_iff]
    simp only [same]
  obtain original | resolved := resolvedTarget_cases casefold resource kind name metadataValues
  · obtain otherOriginal | resolved := resolvedTarget_cases casefold resource kind name others
    · exact original.trans otherOriginal.symm
    · exact ((result _).mpr ⟨rfl, resolved⟩).1
  · exact ((result _).mp ⟨rfl, resolved⟩).1.symm

end consensus

section order
variable {casefold : String → String}

/-- The same value, or a list with its items in another order. -/
def ListReordered (left right : Value) : Prop :=
  left = right ∨ ∃ items others, left = .list items ∧ right = .list others ∧ items.Perm others

/-- Metadata with the snapshots in another order, in each of the four places where they may be. -/
structure SnapshotsReordered (left right : Entries) : Prop where
  declared : ∀ key ∈ ["gitops_target_resolution", "original_target", "gitops_target"],
    getOrNone key left = getOrNone key right
  current : ListReordered (getOrNone "current_workload_snapshots" left)
      (getOrNone "current_workload_snapshots" right)
  context : getOrNone "change_context" left = getOrNone "change_context" right ∨
    ∃ one two, getOrNone "change_context" left = .dict one ∧
      getOrNone "change_context" right = .dict two ∧
      ListReordered (getOrNone "current_workload_snapshots" one)
        (getOrNone "current_workload_snapshots" two)
  items : ListReordered (getOrNone "items" left) (getOrNone "items" right)
  workloads : ListReordered (getOrNone "workloads" left) (getOrNone "workloads" right)

def MetadataReordered (left right : Value) : Prop :=
  left = right ∨ ∃ fields others, left = .dict fields ∧ right = .dict others ∧
    SnapshotsReordered fields others

theorem ListReordered.list? {left right : Value} (reordered : ListReordered left right) :
    Option.Rel List.Perm (list? left) (list? right) := by
  obtain rfl | ⟨items, others, rfl, rfl, perm⟩ := reordered
  · cases Python.list? left with
    | none => exact .none
    | some items => exact .some (.refl items)
  · exact .some perm

theorem workloadSnapshots_perm {left right : Entries} (reordered : SnapshotsReordered left right) :
    (workloadSnapshots (.dict left)).Perm (workloadSnapshots (.dict right)) := by
  have nested : Option.Rel List.Perm
      ((dict? (getOrNone "change_context" left)).bind fun context =>
        list? (getOrNone "current_workload_snapshots" context))
      ((dict? (getOrNone "change_context" right)).bind fun context =>
        list? (getOrNone "current_workload_snapshots" context)) := by
    obtain same | ⟨one, two, isOne, isTwo, inner⟩ := reordered.context
    · rw [same]
      cases dict? (getOrNone "change_context" right) with
      | none => exact .none
      | some context => exact ListReordered.list? (.inl rfl)
    · rw [isOne, isTwo]
      exact inner.list?
  have raw := rel_orElse reordered.current.list?
    (rel_orElse nested (rel_orElse reordered.items.list? reordered.workloads.list?))
  exact (getD_perm raw).filterMap _

theorem declared_reordered (original : WorkloadTarget) {left right : Entries}
    (reordered : SnapshotsReordered left right) :
    declaredResolvedTarget casefold original (.dict left) =
      declaredResolvedTarget casefold original (.dict right) := by
  have resolution : getText "gitops_target_resolution" left =
      getText "gitops_target_resolution" right :=
    congrArg asText (reordered.declared _ (by decide))
  rw [declaredResolvedTarget, declaredResolvedTarget]
  change (some left).bind _ = (some right).bind _
  simp only [Option.bind_some, resolution, reordered.declared "original_target" (by decide),
    reordered.declared "gitops_target" (by decide)]

theorem candidate_reordered (original : WorkloadTarget) {left right : Value}
    (reordered : MetadataReordered left right) :
    metadataCandidate casefold original left = metadataCandidate casefold original right := by
  obtain rfl | ⟨fields, others, rfl, rfl, reordered⟩ := reordered
  · rfl
  · have owners := (workloadSnapshots_perm reordered).filterMap
      (deploymentOwnerFromSnapshot casefold (strip original.namespace) (strip original.resourceKind)
        (strip original.resourceName))
    rw [metadataCandidate, metadataCandidate, declared_reordered original reordered]
    congr 1
    rw [resolveWorkloadTarget, resolveWorkloadTarget]
    split
    · rfl
    · revert owners
      dsimp only [asText]
      generalize (workloadSnapshots (.dict fields)).filterMap _ = one
      generalize (workloadSnapshots (.dict others)).filterMap _ = two
      intro owners
      -- One owner is the same on both sides; of several owners nothing is read.
      obtain _ | ⟨only, _ | ⟨second, rest⟩⟩ := one
      · rw [owners.nil_eq]
      · rw [owners.singleton_eq]
      · obtain _ | ⟨_, _ | ⟨_, _⟩⟩ := two
        · cases owners.length_eq
        · cases owners.length_eq
        · rfl

theorem candidates_reordered (original : WorkloadTarget) {left right : List Value}
    (reordered : List.Forall₂ MetadataReordered left right) :
    left.map (metadataCandidate casefold original) =
      right.map (metadataCandidate casefold original) := by
  induction reordered with
  | nil => rfl
  | cons first _ ih => rw [List.map_cons, List.map_cons, candidate_reordered original first, ih]

/-- A promoted target is a Deployment in the namespace of a Pod or a ReplicaSet that some metadata
declare or show as its only owner, and no metadata give another one. Neither the order of the
metadata nor the order of the snapshots in them matters. -/
theorem workload_promotion_unambiguous (casefold : String → String) (resource kind name : Value)
    (metadataValues : List Value) :
    (∀ target, resolvedTargetFromMetadata casefold resource kind name metadataValues = target →
      target.resolved = true →
      isControllerKind casefold (asText kind) = true ∧ target.resourceKind = "Deployment" ∧
        target.namespace = asText resource ∧
        (∃ metadata ∈ metadataValues,
          Declares casefold (.unpromoted resource kind name) target.resourceName metadata ∨
          OnlyOwner casefold (.unpromoted resource kind name) target.resourceName metadata) ∧
        ∀ metadata ∈ metadataValues,
          (metadataCandidate casefold (.unpromoted resource kind name) metadata).resolved = true →
          metadataCandidate casefold (.unpromoted resource kind name) metadata = target) ∧
      ∀ permuted others, metadataValues.Perm permuted →
        List.Forall₂ MetadataReordered permuted others →
        resolvedTargetFromMetadata casefold resource kind name others =
          resolvedTargetFromMetadata casefold resource kind name metadataValues := by
  refine ⟨fun target result resolved => ?_, fun permuted others perm reordered => ?_⟩
  · obtain ⟨member, alike⟩ := resolvedTarget_resolved_iff.mp ⟨result, resolved⟩
    obtain ⟨among, _⟩ := List.mem_filter.mp member
    obtain ⟨metadata, given, isTarget⟩ := List.mem_map.mp among
    obtain ⟨controller, deployment, source, same⟩ := candidate_spec metadata (isTarget ▸ resolved)
    obtain rfl := isTarget.symm.trans same
    refine ⟨controller, rfl, rfl, ⟨metadata, given, source⟩, fun other present otherResolved => ?_⟩
    exact alike _ (List.mem_filter.mpr ⟨List.mem_map_of_mem present, otherResolved⟩)
  · refine (resolvedTarget_perm ?_).symm
    rw [← candidates_reordered _ reordered]
    exact perm.map _

def promotionSnapshot : Value :=
  .dict [(.str "workload", .dict [(.str "kind", .scalar (.str "deployment")),
    (.str "namespace", .scalar (.str "shop")),
    (.str "name", .scalar (.str "web"))]),
    (.str "pod_statuses", .list [.dict [(.str "name", .scalar (.str "web-1"))]])]

def promotionMetadata (snapshots : List Value) : List Value :=
  [.scalar .none, .dict [(.str "items", .list snapshots)]]

def promotionTarget : List Value → WorkloadTarget :=
  resolvedTargetFromMetadata (fun text => text) (.scalar (.str "shop")) (.scalar (.str "pod"))
    (.scalar (.str "web-1"))

theorem workload_promotion_pod :
    (promotionTarget (promotionMetadata [promotionSnapshot, .dict []])).namespace = "shop" ∧
      promotionTarget (promotionMetadata [.dict [], promotionSnapshot]) =
        promotionTarget (promotionMetadata [promotionSnapshot, .dict []]) := by
  obtain ⟨safe, ordered⟩ :=
    workload_promotion_unambiguous (fun text => text) (.scalar (.str "shop"))
    (.scalar (.str "pod")) (.scalar (.str "web-1"))
      (promotionMetadata [promotionSnapshot, .dict []])
  have kept : ∀ key ∈ ["gitops_target_resolution", "original_target", "gitops_target"],
      getOrNone key [(.str "items", .list [promotionSnapshot, .dict []])] =
        getOrNone key [(.str "items", .list [.dict [], promotionSnapshot])] := by
    simp only [List.forall_mem_cons, List.not_mem_nil, false_implies, implies_true, and_true]
    exact ⟨rfl, rfl, rfl⟩
  have reordered : MetadataReordered (.dict [(.str "items", .list [promotionSnapshot, .dict []])])
      (.dict [(.str "items", .list [.dict [], promotionSnapshot])]) :=
    .inr ⟨_, _, rfl, rfl, kept, .inl rfl, .inl rfl, .inr ⟨_, _, rfl, rfl, .swap _ _ _⟩, .inl rfl⟩
  refine ⟨(safe _ rfl (by decide +kernel)).2.2.1, ?_⟩
  exact ordered _ _ (.refl _) (.cons (.inl rfl) (.cons reordered .nil))

end order

end K8sOps.Rca
