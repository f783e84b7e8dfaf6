import K8sOps.Gitops.FieldPathSyntax
import K8sOps.Gitops.SourcePatchProofs

/-! Which fields the replacements of an accepted plan address. The validator compares texts:
the end of the path for images, memory and probes, its start for labels. These tests fix the
field, but for all of them except the replicas not the object that the field belongs to. -/
namespace K8sOps.Gitops
open Python

def plainKeys (keys : List String) : List FieldPathSegment := keys.map (⟨·, none⟩)

section fields

inductive ContainerAt : List FieldPathSegment → Prop where
  | container (kind : list ∈ ["initContainers", "containers"]) (name : String) :
    ContainerAt (plainKeys ["spec", "template", "spec"] ++ [⟨list, some name⟩])

inductive ProbeAt : List FieldPathSegment → Prop where
  | probe (owner : ContainerAt container)
      (kind : key ∈ ["readinessProbe", "livenessProbe", "startupProbe"]) :
    ProbeAt (container ++ plainKeys [key])

inductive LabelsAt : List FieldPathSegment → Prop where
  | selector : LabelsAt (plainKeys ["spec", "selector", "matchLabels"])
  | template : LabelsAt (plainKeys ["spec", "template", "metadata", "labels"])

/-- The fields of a Deployment that an action is about. -/
inductive Addresses : String → List FieldPathSegment → Prop where
  | image (action : actionType ∈ ["image_rollback", "image_tag_fix"])
      (owner : ContainerAt container) :
    Addresses actionType (container ++ plainKeys ["image"])
  | memory (owner : ContainerAt container) (kind : key ∈ ["requests", "limits"]) :
    Addresses "oom_memory" (container ++ plainKeys ["resources", key, "memory"])
  | timeout (owner : ProbeAt probe) : Addresses "probe_fix" (probe ++ plainKeys ["timeoutSeconds"])
  | httpGet (owner : ProbeAt probe) (kind : key ∈ ["port", "path"]) :
    Addresses "probe_fix" (probe ++ plainKeys ["httpGet", key])
  | replicas : Addresses "replica_scale" (plainKeys ["spec", "replicas"])
  | label (owner : LabelsAt labels)
      (key : String) : Addresses "selector_fix" (labels ++ plainKeys [key])

/-- What the tests on the text of a path leave open: above the field anything, below the
labels any path. -/
inductive Tested : String → List FieldPathSegment → Prop where
  | image (action : actionType ∈ ["image_rollback", "image_tag_fix"])
      (above : List FieldPathSegment) :
    Tested actionType (above ++ plainKeys ["image"])
  | memory (above : List FieldPathSegment) (kind : key ∈ ["requests", "limits"]) :
    Tested "oom_memory" (above ++ plainKeys ["resources", key, "memory"])
  | timeout (above : List FieldPathSegment) :
      Tested "probe_fix" (above ++ plainKeys ["timeoutSeconds"])
  | httpGet (above : List FieldPathSegment) (kind : key ∈ ["port", "path"]) :
    Tested "probe_fix" (above ++ plainKeys ["httpGet", key])
  | replicas : Tested "replica_scale" (plainKeys ["spec", "replicas"])
  | label (owner : LabelsAt labels)
      (nonempty : below ≠ []) : Tested "selector_fix" (labels ++ below)

/-- The object whose field the path ends in, by the number of keys that the field takes. -/
def fieldOwner (actionType : String) (segments : List FieldPathSegment) : List FieldPathSegment :=
  if actionType = "oom_memory" then segments.dropLast.dropLast.dropLast
  else if actionType = "probe_fix" ∧ segments.getLast? ≠ some ⟨"timeoutSeconds", none⟩ then
    segments.dropLast.dropLast
  else segments.dropLast

/-- The path stands below an object of the kind that the action is about. -/
def OwnerFits (actionType : String) (segments : List FieldPathSegment) : Prop :=
  if actionType = "replica_scale" then True
  else if actionType = "probe_fix" then ProbeAt (fieldOwner actionType segments)
  else if actionType = "selector_fix" then
    LabelsAt (fieldOwner actionType segments) ∧ ∀ last ∈ segments.getLast?, last.selectedName = none
  else ContainerAt (fieldOwner actionType segments)

end fields

section owners

theorem Addresses.ownerFits (addresses : Addresses actionType segments) :
    OwnerFits actionType segments := by
  cases addresses with
  | image action owner =>
    simp only [List.mem_cons, List.not_mem_nil, or_false] at action
    rcases action with rfl | rfl <;> simpa [OwnerFits, fieldOwner, plainKeys] using owner
  | memory owner =>
    simpa [OwnerFits, fieldOwner, plainKeys, List.dropLast_append_of_ne_nil] using owner
  | timeout owner => simpa [OwnerFits, fieldOwner, plainKeys] using owner
  | httpGet owner kind =>
    simp only [List.mem_cons, List.not_mem_nil, or_false] at kind
    rcases kind with rfl | rfl <;>
      simpa [OwnerFits, fieldOwner, plainKeys, List.dropLast_append_of_ne_nil] using owner
  | replicas => simp [OwnerFits]
  | label owner => simpa [OwnerFits, fieldOwner, plainKeys] using owner

theorem Tested.addresses (tested : Tested actionType segments)
    (fits : OwnerFits actionType segments) :
    Addresses actionType segments := by
  cases tested with
  | image action above =>
    refine .image action ?_
    simp only [List.mem_cons, List.not_mem_nil, or_false] at action
    rcases action with rfl | rfl <;> simpa [OwnerFits, fieldOwner, plainKeys] using fits
  | memory above kind =>
    refine .memory ?_ kind
    simpa [OwnerFits, fieldOwner, plainKeys, List.dropLast_append_of_ne_nil] using fits
  | timeout above =>
    refine .timeout ?_
    simpa [OwnerFits, fieldOwner, plainKeys] using fits
  | httpGet above kind =>
    refine .httpGet ?_ kind
    simp only [List.mem_cons, List.not_mem_nil, or_false] at kind
    rcases kind with rfl | rfl <;>
      simpa [OwnerFits, fieldOwner, plainKeys, List.dropLast_append_of_ne_nil] using fits
  | replicas => exact .replicas
  | @label labels below owner nonempty =>
    obtain ⟨front, last, rfl⟩ := below.eq_nil_or_concat.resolve_left nonempty
    have whole : labels ++ front.concat last = (labels ++ front) ++ [last] := by simp
    rw [whole] at fits ⊢
    obtain ⟨owned, plain⟩ : LabelsAt (labels ++ front) ∧ last.selectedName = none := by
      simpa [OwnerFits, fieldOwner] using fits
    have same : [last] = plainKeys [last.key] := by
      rw [plainKeys, List.map_singleton, ← plain]
    rw [same]
    exact .label owned last.key

end owners

section validator

theorem Tested.of_endsWith (field : String) (addressed : fieldPathSegments path ≠ [])
    (ends : endsWith path ending = true) (dotted : ending.toList = '.' :: field.toList)
    (parsed : fieldPathSegments field = plainKeys keys) (some : plainKeys keys ≠ [])
    (tested : ∀ above, Tested actionType (above ++ plainKeys keys)) :
    Tested actionType (fieldPathSegments path) := by
  obtain ⟨front, text⟩ := List.isSuffixOf_iff_suffix.mp ends
  have cut : path.toList = (String.ofList front).toList ++ '.' :: field.toList := by
    rw [String.toList_ofList, ← dotted, text]
  rw [← parsed] at some
  rw [(fieldPathSegments_cut addressed cut (.inr some)).2.2, parsed]
  exact tested _

theorem Tested.of_startsWith (above : String) (addressed : fieldPathSegments path ≠ [])
    (starts : startsWith path start = true) (dotted : start.toList = above.toList ++ ['.'])
    (labels : LabelsAt (fieldPathSegments above)) :
    Tested "selector_fix" (fieldPathSegments path) := by
  obtain ⟨rest, text⟩ := List.isPrefixOf_iff_prefix.mp starts
  have cut : path.toList = above.toList ++ '.' :: (String.ofList rest).toList := by
    rw [String.toList_ofList, ← text, dotted, List.append_assoc]
    rfl
  have parsed : fieldPathSegments above ≠ [] := by
    intro empty
    rw [empty] at labels
    cases labels
  obtain ⟨_, nonempty, segments⟩ := fieldPathSegments_cut addressed cut (.inl parsed)
  rw [segments]
  exact .label labels nonempty

theorem actionAllowsReplacement_tested (addressed : fieldPathSegments item.fieldPath ≠ [])
    (allowed : actionAllowsReplacement actionType item = .ok true) :
    Tested actionType (fieldPathSegments item.fieldPath) := by
  rw [actionAllowsReplacement] at allowed
  split at allowed
  next action =>
    simp only [Except.ok.injEq, Bool.and_eq_true] at allowed
    exact .of_endsWith "image" addressed allowed.1 (by decide) (by decide +kernel) (by decide)
      (.image (by simpa using action))
  next =>
    split at allowed
    next action =>
      simp only [Except.ok.injEq, Bool.and_eq_true, beq_iff_eq] at allowed
      have parsed : fieldPathSegments "spec.replicas" = plainKeys ["spec", "replicas"] := by
        decide +kernel
      rw [action, allowed.1, parsed]
      exact .replicas
    next =>
      split at allowed
      next action =>
        rw [action]
        split at allowed
        next ends =>
          rcases Bool.or_eq_true_iff.mp ends with requests | limits
          · exact .of_endsWith "resources.requests.memory" addressed requests (by decide)
              (by decide +kernel) (by decide) (.memory · (by decide : "requests" ∈ _))
          · exact .of_endsWith "resources.limits.memory" addressed limits (by decide)
              (by decide +kernel) (by decide) (.memory · (by decide : "limits" ∈ _))
        next => cases allowed
      next =>
        split at allowed
        next action =>
          rw [action]
          split at allowed
          next ends =>
            exact .of_endsWith "timeoutSeconds" addressed ends (by decide) (by decide +kernel)
              (by decide) .timeout
          next =>
            split at allowed
            next ends =>
              exact .of_endsWith "httpGet.port" addressed ends (by decide) (by decide +kernel)
                (by decide) (.httpGet · (by decide : "port" ∈ _))
            next =>
              split at allowed
              next ends =>
                exact .of_endsWith "httpGet.path" addressed ends (by decide) (by decide +kernel)
                  (by decide) (.httpGet · (by decide : "path" ∈ _))
              next => cases allowed
        next =>
          split at allowed
          next action =>
            rw [action]
            simp only [Except.ok.injEq, Bool.and_eq_true, Bool.or_eq_true] at allowed
            have selector : fieldPathSegments "spec.selector.matchLabels" =
                plainKeys ["spec", "selector", "matchLabels"] := by decide +kernel
            have template : fieldPathSegments "spec.template.metadata.labels" =
                plainKeys ["spec", "template", "metadata", "labels"] := by decide +kernel
            rcases allowed.1 with starts | starts
            · exact .of_startsWith "spec.selector.matchLabels" addressed starts (by decide)
                (selector ▸ .selector)
            · exact .of_startsWith "spec.template.metadata.labels" addressed starts (by decide)
                (template ▸ .template)
          next => cases allowed

/-- The replacements of an accepted plan address the fields of its action exactly when each of
them stands below a container, a probe or labels of the Deployment. -/
theorem validateScalarPatchPlan_scope_iff (accepted : validateScalarPatchPlan plan = .ok ()) :
    (∀ item ∈ plan.replacements, Addresses plan.actionType (fieldPathSegments item.fieldPath)) ↔
      ∀ item ∈ plan.replacements, OwnerFits plan.actionType (fieldPathSegments item.fieldPath) := by
  obtain ⟨_, _, _, each⟩ := validateScalarPatchPlan_ok_iff.mp accepted
  constructor
  · intro addresses item member
    exact (addresses item member).ownerFits
  · intro fits item member
    obtain ⟨_, _, addressed, _, _, _, _, _, allowed⟩ :=
      validateReplacement_ok_iff.mp (each item member)
    exact (actionAllowsReplacement_tested addressed allowed).addresses (fits item member)

/-- A rollback of an image that is the text at this path. -/
def imagePlan (fieldPath : String) : ManifestScalarPatchPlan :=
  { samplePlan with
    actionType := "image_rollback"
    replacements := [⟨fieldPath, .scalar (.str "api:2"), .scalar (.str "api:1")⟩]
    rollbackReplacements := [⟨fieldPath, .scalar (.str "api:1"), .scalar (.str "api:2")⟩] }

theorem validateScalarPatchPlan_scope_container :
    Addresses "image_rollback" (fieldPathSegments
      "spec.template.spec.containers[name=api].image") := by
  have accepted :
      validateScalarPatchPlan (imagePlan "spec.template.spec.containers[name=api].image") =
        .ok () :=
    toOption_ok (by decide +kernel)
  have segments : fieldPathSegments "spec.template.spec.containers[name=api].image" =
      plainKeys ["spec", "template", "spec"] ++ [⟨"containers", some "api"⟩] ++
        plainKeys ["image"] := by decide +kernel
  refine (validateScalarPatchPlan_scope_iff accepted).mpr ?_ _ (List.mem_singleton_self _)
  intro item member
  cases List.mem_singleton.mp member
  change OwnerFits "image_rollback"
    (fieldPathSegments "spec.template.spec.containers[name=api].image")
  rw [segments]
  exact .container (by decide) "api"

/-- An annotation is taken for an image. -/
theorem validateScalarPatchPlan_accepts_annotation :
    validateScalarPatchPlan (imagePlan "metadata.annotations.image") = .ok () ∧
      ¬Addresses "image_rollback" (fieldPathSegments "metadata.annotations.image") := by
  refine ⟨toOption_ok (by decide +kernel), ?_⟩
  intro addresses
  have owner : fieldOwner "image_rollback" (fieldPathSegments "metadata.annotations.image") =
      plainKeys ["metadata", "annotations"] := by decide +kernel
  have fits : ContainerAt (plainKeys ["metadata", "annotations"]) := owner ▸ addresses.ownerFits
  generalize annotations : plainKeys ["metadata", "annotations"] = segments at fits
  cases fits
  simp [plainKeys] at annotations

end validator

end K8sOps.Gitops
