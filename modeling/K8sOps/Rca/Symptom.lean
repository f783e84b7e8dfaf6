import Mathlib.Data.Prod.Lex
import Mathlib.Data.String.Basic
import K8sOps.Rca.WorkloadTarget
import K8sOps.Text.Like

/-! The symptom of a Kubernetes snapshot. Its pods, warning events and services give signals, which
are ranked by priority, source, weight, resource name and label; the first one is the symptom of the
incident. -/
namespace K8sOps.Rca.Symptom
open Python Text

section model

/-- `str` of a value, `int` of one (`none` where it raises), `str.lower`, and
`datetime.fromisoformat` in UTC, in microseconds, a `Z` allowed for the offset. -/
structure SymptomRuntime where
  str : Value → String
  int : Value → Option Int
  lower : String → String
  isoTime : String → Option Int
  str_text : ∀ text, str (.scalar (.str text)) = text

structure SymptomSignal where
  signal : String
  symptom : String
  priority : Int
  resourceKind : String
  resourceName : String
  «namespace» : Option String
  sourceRank : Int
  weight : Int
  deriving DecidableEq

structure DerivedSymptom where
  symptom : String
  secondarySymptoms : List String
  signal : Option SymptomSignal
  deriving DecidableEq

variable (runtime : SymptomRuntime)

/-- `str(entries.get(key) or default)`. -/
def textOr (default key : String) (entries : Entries) : String :=
  if truthy (getOrNone key entries) then runtime.str (getOrNone key entries) else default

def optionalText (value : Value) : Option String :=
  if truthy value then some (runtime.str value) else none

def textItems : Value → List String
  | .list items => (items.filter truthy).map runtime.str
  | _ => []

/-- `int(entries.get(key) or 0)`. -/
def intOrZero (key : String) (entries : Entries) : Option Int :=
  if truthy (getOrNone key entries) then runtime.int (getOrNone key entries) else some 0

def snapshotItems (kubernetes : Entries) (key : String) : List Entries :=
  ((list? (getOrNone key kubernetes)).getD []).filterMap dict?

/-- The status of the first condition of the type Ready. -/
def readyStatus (conditions : List Value) : Option String :=
  ((conditions.filterMap dict?).find? fun condition =>
    runtime.str (getOrNone "type" condition) == "Ready").map
    fun condition => runtime.str (getOrNone "status" condition)

/-- `none` where the conditions cannot be iterated over. The keys of an object and the characters of
a text are no conditions. -/
def podNotReady (pod : Entries) : Option Bool :=
  if truthy (getOrNone "conditions" pod) then
    match getOrNone "conditions" pod with
    | .list conditions => some ((readyStatus runtime conditions).any (· != "True"))
    | .dict _ | .scalar (.str _) => some false
    | .scalar _ => none
  else some false

def podResourceHint (pod : Entries) : String × String :=
  match optionalText runtime (getOrNone "owner_kind" pod),
    optionalText runtime (getOrNone "owner_name" pod) with
  | some kind, some name =>
    if kind ≠ "" ∧ name ≠ "" then (kind, name) else ("Pod", textOr runtime "unknown" "name" pod)
  | _, _ => ("Pod", textOr runtime "unknown" "name" pod)

def podSignal (pod : Entries) (signal symptom : String) (priority : Int) : Option SymptomSignal :=
  (intOrZero runtime "restart_total" pod).map fun weight =>
    { signal, symptom, priority, resourceKind := (podResourceHint runtime pod).1,
      resourceName := (podResourceHint runtime pod).2, «namespace» :=
        optionalText runtime (getOrNone "namespace" pod),
      sourceRank := 0, weight }

def imagePullWaitingReasons : List String :=
  ["ImagePullBackOff", "ErrImagePull", "InvalidImageName", "ErrImageNeverPull"]

/-- The signals of a pod as label, symptom and priority. -/
def waitingSignals (reasons : List String) : List (String × String × Int) :=
  reasons.filterMap fun reason =>
    if imagePullWaitingReasons.contains reason then some (reason, "ImagePullBackOff", 1)
    else if reason = "CrashLoopBackOff" then some (reason, "CrashLoopBackOff", 2)
    else none

def podSignals (pod : Entries) : Option (List SymptomSignal) := do
  let waiting := waitingSignals (textItems runtime (getOrNone "waiting_reasons" pod))
  let killed :=
    if (textItems runtime (getOrNone "terminated_reasons" pod)).contains "OOMKilled" then
    [("OOMKilled", "CrashLoopBackOff", (3 : Int))] else []
  let pending :=
    if textOr runtime "" "phase" pod = "Pending" ∧ truthy (getOrNone "node_name" pod) = false then
    [("FailedScheduling", "FailedScheduling", (4 : Int))] else []
  let signals ← (waiting ++ killed ++ pending).mapM fun (signal, symptom, priority) =>
    podSignal runtime pod signal symptom priority
  if signals = [] ∧ textOr runtime "" "phase" pod = "Running" then
    if ← podNotReady runtime pod then
      let signal ← podSignal runtime pod "PodNotReady" "Pod readiness failure" 6
      return [signal]
    else return signals
  else return signals

/-- `parse_event_time`. -/
def parseEventTime : Value → Option Int
  | .scalar (.str text) => if text = "" then none else runtime.isoTime text
  | _ => none

def collectedAtTime (kubernetes : Entries) : Option Int :=
  (dict? (getOrNone "cluster" kubernetes)).bind fun cluster =>
    parseEventTime runtime (getOrNone "collected_at" cluster)

def eventSignalMaxAge : Int := 600000000

def eventIsCurrentWarning (event : Entries) (collectedAt : Option Int) : Bool :=
  if textOr runtime "" "type" event ≠ "" ∧ textOr runtime "" "type" event ≠ "Warning" then false
  else
    let stamp := if truthy (getOrNone "last_timestamp" event) then getOrNone "last_timestamp" event
      else getOrNone "first_timestamp" event
    match collectedAt, parseEventTime runtime stamp with
    | some collected, some lastSeen => decide (collected - lastSeen ≤ eventSignalMaxAge)
    | _, _ => true

def podKey (pod : Entries) : String × Option String :=
  (textOr runtime "" "name" pod, optionalText runtime (getOrNone "namespace" pod))

def currentPod (pods : List Entries) (key : String × Option String) : Option Entries :=
  pods.find? fun pod => podKey runtime pod == key

def mentions (text message : String) : Bool := isWithin text.toList message.toList

def isProbeFailure (event : Entries) : Bool :=
  textOr runtime "" "reason" event == "Unhealthy" &&
    mentions "probe" (runtime.lower (textOr runtime "" "message" event))

def eventIsActiveForSnapshot (event : Entries) (pods : List Entries) : Option Bool :=
  if textOr runtime "" "involved_kind" event ≠ "Pod" then some true
  else
    match currentPod runtime pods
        (textOr runtime "" "involved_name" event,
          optionalText runtime (getOrNone "namespace" event)) with
    | none => some false
    | some pod => if isProbeFailure runtime event then podNotReady runtime pod else some true

def probeSignalLabel (message : String) : String :=
  if mentions "readiness probe" message then "ReadinessProbeFailed"
  else if mentions "liveness probe" message then "LivenessProbeFailed"
  else if mentions "startup probe" message then "StartupProbeFailed"
  else "ProbeFailed"

def probeFailureSymptom (message : String) : String :=
  if mentions "readiness probe" message then "Readiness probe response failure"
  else if mentions "liveness probe" message then "Liveness probe response failure"
  else if mentions "startup probe" message then "Startup probe response failure"
  else "Probe response failure"

def eventSignal (event : Entries) (pods : List Entries) (signal symptom : String) (priority : Int) :
    Option SymptomSignal :=
  let kind := textOr runtime "Unknown" "involved_kind" event
  let name := textOr runtime "unknown" "involved_name" event
  let «namespace» := optionalText runtime (getOrNone "namespace" event)
  let resource := if kind = "Pod" then
    ((currentPod runtime pods (name, «namespace»)).map (podResourceHint runtime)).getD (kind, name)
  else (kind, name)
  (intOrZero runtime "count" event).map fun weight =>
    { signal, symptom, priority, resourceKind := resource.1, resourceName := resource.2,
      «namespace», sourceRank := 1, weight }

/-- The label, the symptom and the priority of an event, and whether its pod is looked up. -/
def eventLabel (reason message : String) : Option (String × String × Int × Bool) :=
  if reason = "FailedScheduling" then some ("FailedScheduling", "FailedScheduling", 4, false)
  else if reason = "OOMKilling" ∨ mentions "oomkilled" message then
    some ("OOMKilled", "CrashLoopBackOff", 3, false)
  else if reason = "Failed" ∧ (mentions "pull image" message ∨ mentions "errimagepull" message) then
    some ("ErrImagePull", "ImagePullBackOff", 1, false)
  else if reason = "BackOff" ∧ mentions "pulling image" message then
    some ("ImagePullBackOff", "ImagePullBackOff", 1, false)
  else if reason = "BackOff" ∧ mentions "restarting failed container" message then
    some ("CrashLoopBackOff", "CrashLoopBackOff", 2, false)
  else if reason = "Unhealthy" ∧ mentions "probe" message then
    some (probeSignalLabel message, probeFailureSymptom message, 5, true)
  else none

def eventSignals (event : Entries) (pods : List Entries) : Option (List SymptomSignal) :=
  match eventLabel (textOr runtime "" "reason" event)
    (runtime.lower (textOr runtime "" "message" event)) with
  | none => some []
  | some (signal, symptom, priority, withPods) =>
    (eventSignal runtime event (if withPods then pods else []) signal symptom priority).map ([·])

def eventPart (pods : List Entries) (collectedAt : Option Int) (event : Entries) :
    Option (List SymptomSignal) := do
  if eventIsCurrentWarning runtime event collectedAt then
    if ← eventIsActiveForSnapshot runtime event pods then eventSignals runtime event pods
    else return []
  else return []

def sliceBelongsToService (endpointSlice service : Entries) : Bool :=
  let sliceName := textOr runtime "" "name" endpointSlice
  let serviceName := textOr runtime "" "name" service
  optionalText runtime (getOrNone "namespace" endpointSlice) ==
    optionalText runtime (getOrNone "namespace" service) && (sliceName != "" && serviceName != "" &&
      (sliceName == serviceName || (serviceName ++ "-").toList.isPrefixOf sliceName.toList))

def selectorMatchesPod (selector pod : Entries) : Bool :=
  match getOrNone "labels" pod with
  | .dict labels => selector.all fun (key, value) =>
    runtime.str (getOrNone (runtime.str (.scalar key)) labels) == runtime.str value
  | _ => false

def serviceSignals (pods endpoints : List Entries) (service : Entries) :
    Option (List SymptomSignal) :=
  match getOrNone "selector" service with
  | .dict selector =>
    let slices := endpoints.filter fun item => sliceBelongsToService runtime item service
    if selector.isEmpty || slices.isEmpty then some []
    else
      (slices.mapM (intOrZero runtime "endpoint_count")).map fun counts =>
        if 0 < counts.foldl (· + ·) 0 then []
        else if pods.any (selectorMatchesPod runtime selector) then []
        else
          [{ signal := "ServiceEndpointsEmpty", symptom := "Service has no ready endpoints",
             priority := 7, resourceKind := "Service",
             resourceName := textOr runtime "unknown" "name" service,
             «namespace» := optionalText runtime (getOrNone "namespace" service), sourceRank := 2,
             weight := 0 }]
  | _ => some []

/-- `none` where a conversion raises. -/
def collectSignals (kubernetes : Entries) : Option (List SymptomSignal) := do
  let pods := snapshotItems kubernetes "pods"
  let ofPods ← pods.mapM (podSignals runtime)
  let ofEvents ← (snapshotItems kubernetes "events").mapM
    (eventPart runtime pods (collectedAtTime runtime kubernetes))
  let ofServices ← (snapshotItems kubernetes "services").mapM
    (serviceSignals runtime pods (snapshotItems kubernetes "endpoints"))
  return (ofPods ++ ofEvents ++ ofServices).flatten

def SignalRank : Type := Lex (Int × Lex (Int × Lex (Int × Lex (String × String))))

instance SignalRank.linearOrder : LinearOrder SignalRank :=
  inferInstanceAs (LinearOrder (Lex (Int × Lex (Int × Lex (Int × Lex (String × String))))))

def signalSortKey (signal : SymptomSignal) : SignalRank :=
  toLex (signal.priority, toLex (signal.sourceRank,
    toLex (-signal.weight, toLex (signal.resourceName, signal.signal))))

def ranked (signals : List SymptomSignal) : List SymptomSignal :=
  signals.insertionSort fun left right => signalSortKey left ≤ signalSortKey right

def uniqueSignalLabels (exclude : String) (signals : List SymptomSignal) : List String :=
  signals.foldl (fun labels signal =>
    if signal.signal = exclude ∨ labels.contains signal.signal then labels
    else labels ++ [signal.signal]) []

def deriveSymptom (kubernetes : Entries) : Option DerivedSymptom :=
  let explicit := strip (textOr runtime "" "symptom" kubernetes)
  if explicit ≠ "" then some ⟨explicit, [], none⟩
  else
    (collectSignals runtime kubernetes).map fun signals =>
      match ranked signals with
      | [] => ⟨"unknown", [], none⟩
      | primary :: rest => ⟨primary.symptom, uniqueSignalLabels primary.signal rest, some primary⟩

/-- The kind and the name as text and the namespace as the resource gives it. -/
def resolveResource (kubernetes : Entries) (signal : Option SymptomSignal) :
    String × String × Value :=
  match getOrNone "resource" kubernetes with
  | .dict (first :: rest) =>
    (((getKey "kind" (first :: rest)).map runtime.str).getD "Unknown",
      ((getKey "name" (first :: rest)).map runtime.str).getD "unknown",
        getOrNone "namespace" (first :: rest))
  | _ =>
    match signal with
    | some signal => (signal.resourceKind, signal.resourceName,
        (signal.namespace.map fun text => Value.scalar (.str text)).getD (.scalar .none))
    | none => ("Unknown", "unknown", .scalar .none)

end model

section order
variable {runtime : SymptomRuntime}
variable {kubernetes : Entries}

/-- The same snapshot with its four lists in another order. -/
structure SnapshotReordered (left right : Entries) : Prop where
  kept : ∀ key ∈ ["symptom", "resource", "cluster"], getOrNone key left = getOrNone key right
  lists : ∀ key ∈ ["pods", "events", "services", "endpoints"],
    ListReordered (getOrNone key left) (getOrNone key right)

theorem SnapshotReordered.items {left right : Entries} (reordered : SnapshotReordered left right)
    (listed : key ∈ ["pods", "events", "services", "endpoints"]) :
    (snapshotItems left key).Perm (snapshotItems right key) :=
  (getD_perm (reordered.lists key listed).list?).filterMap _

theorem eventPart_congr {pods others : List Entries}
    (same : currentPod runtime pods = currentPod runtime others) (collectedAt : Option Int) :
    eventPart runtime pods collectedAt = eventPart runtime others collectedAt := by
  have signals (event : Entries) : eventSignals runtime event pods =
      eventSignals runtime event others := by
    rw [eventSignals, eventSignals]
    split
    · rfl
    next signal symptom priority withPods _ =>
      cases withPods with
      | false => rfl
      | true => simp only [eventSignal, if_true, same]
  funext event
  simp only [eventPart, eventIsActiveForSnapshot, same, signals]

theorem serviceSignals_perm {pods others endpoints rest : List Entries} (podPerm : pods.Perm others)
    (endpointPerm : endpoints.Perm rest) :
    serviceSignals runtime pods endpoints = serviceSignals runtime others rest := by
  funext service
  rw [serviceSignals, serviceSignals]
  split
  next selector isSelector =>
    have slices := endpointPerm.filter fun item => sliceBelongsToService runtime item service
    dsimp only
    rw [isEmpty_perm slices, podPerm.any_eq]
    split
    · rfl
    · exact map_perm (mapM_perm slices) fun counts others perm => by rw [perm.foldl_eq]
  · rfl

/-- The signals of a snapshot do not depend on the order of its lists, up to their own order. -/
theorem collectSignals_perm {left right : Entries} (reordered : SnapshotReordered left right)
    (distinct : ((snapshotItems left "pods").map (podKey runtime)).Nodup) :
    Option.Rel List.Perm (collectSignals runtime left) (collectSignals runtime right) := by
  have pods : (snapshotItems left "pods").Perm (snapshotItems right "pods") :=
    reordered.items (by decide)
  have lookups : currentPod runtime (snapshotItems left "pods") =
      currentPod runtime (snapshotItems right "pods") :=
    funext fun wanted => find?_perm pods distinct wanted
  have collected : collectedAtTime runtime left = collectedAtTime runtime right := by
    rw [collectedAtTime, collectedAtTime, reordered.kept "cluster" (by decide)]
  rw [collectSignals, collectSignals, eventPart_congr lookups,
    serviceSignals_perm pods (reordered.items (by decide)), collected]
  refine rel_bind (mapM_perm pods) fun ofPods otherPods podPerm => ?_
  refine rel_bind (mapM_perm (reordered.items (by decide))) fun ofEvents otherEvents eventPerm => ?_
  refine rel_bind (mapM_perm (reordered.items (by decide)))
    fun ofServices otherServices servicePerm => ?_
  exact .some ((podPerm.append eventPerm).append servicePerm).flatten

theorem ranked_least {signals : List SymptomSignal} (first : ranked signals = primary :: rest) :
    primary ∈ signals ∧ ∀ signal ∈ signals, signalSortKey primary ≤ signalSortKey signal := by
  have total : Std.Total fun one other : SymptomSignal => signalSortKey one ≤ signalSortKey other :=
    ⟨fun one other => le_total _ _⟩
  have trans : IsTrans SymptomSignal fun one other => signalSortKey one ≤ signalSortKey other :=
    ⟨fun one two three => le_trans⟩
  have perm : (ranked signals).Perm signals := signals.perm_insertionSort _
  have sorted : (ranked signals).Pairwise fun one other =>
      signalSortKey one ≤ signalSortKey other :=
    signals.pairwise_insertionSort _
  rw [first] at perm sorted
  refine ⟨perm.mem_iff.mp List.mem_cons_self, fun signal member => ?_⟩
  obtain rfl | later := List.mem_cons.mp (perm.mem_iff.mpr member)
  · exact le_rfl
  · exact (List.pairwise_cons.mp sorted).1 signal later

def symptomOf (signal : String) : String :=
  if imagePullWaitingReasons.contains signal then "ImagePullBackOff"
  else if signal = "CrashLoopBackOff" ∨ signal = "OOMKilled" then "CrashLoopBackOff"
  else if signal = "FailedScheduling" then "FailedScheduling"
  else if signal = "ReadinessProbeFailed" then "Readiness probe response failure"
  else if signal = "LivenessProbeFailed" then "Liveness probe response failure"
  else if signal = "StartupProbeFailed" then "Startup probe response failure"
  else if signal = "ProbeFailed" then "Probe response failure"
  else if signal = "PodNotReady" then "Pod readiness failure"
  else "Service has no ready endpoints"

/-- What the signals of one item of the snapshot share. -/
structure Made (rank : Int) (kind : String) (inside : Option String)
    (signal : SymptomSignal) : Prop where
  sourceRank : signal.sourceRank = rank
  resourceKind : signal.resourceKind = kind
  «namespace» : signal.namespace = inside
  symptom : signal.symptom = symptomOf signal.signal

def MadeAlike (rank : Int) (signals : List SymptomSignal) : Prop :=
  ∃ kind inside, ∀ signal ∈ signals, Made rank kind inside signal

theorem madeAlike_nil : MadeAlike rank [] := ⟨"", none, fun _ impossible => by cases impossible⟩

theorem madeAlike_singleton (symptom : signal.symptom = symptomOf signal.signal) :
    MadeAlike signal.sourceRank [signal] :=
  ⟨signal.resourceKind, signal.namespace, fun other member => by
    cases List.mem_singleton.mp member
    exact ⟨rfl, rfl, rfl, symptom⟩⟩

theorem podSignal_made {pod : Entries}
    (made : podSignal runtime pod label symptom priority = some signal)
    (standard : symptom = symptomOf label) :
    Made 0 (podResourceHint runtime pod).1
      (optionalText runtime (getOrNone "namespace" pod)) signal := by
  obtain ⟨weight, _, rfl⟩ := Option.map_eq_some_iff.mp made
  exact ⟨rfl, rfl, rfl, standard⟩

theorem podSignals_made {pod : Entries} (signals : podSignals runtime pod = some found) :
    MadeAlike 0 found := by
  obtain ⟨early, made, signals⟩ := Option.bind_eq_some_iff.mp signals
  have standard : MadeAlike 0 early := by
    refine ⟨(podResourceHint runtime pod).1, optionalText runtime (getOrNone "namespace" pod),
      fun signal member => ?_⟩
    obtain ⟨⟨label, symptom, priority⟩, listed, made⟩ :=
      forall₂_mem_left (mapM_eq_some.mp made).flip member
    refine podSignal_made made ?_
    rw [List.mem_append, List.mem_append] at listed
    obtain (waiting | killed) | pending := listed
    · obtain ⟨reason, _, chosen⟩ := List.mem_filterMap.mp waiting
      split at chosen
      next pull =>
        cases chosen
        rw [symptomOf, if_pos pull]
      · split at chosen
        next crash =>
          cases chosen
          rw [crash]
          rfl
        · cases chosen
    · split at killed
      · cases List.mem_singleton.mp killed
        rfl
      · cases killed
    · split at pending
      · cases List.mem_singleton.mp pending
        rfl
      · cases pending
  split at signals
  · obtain ⟨notReady, _, signals⟩ := Option.bind_eq_some_iff.mp signals
    split at signals
    · obtain ⟨ready, made, signals⟩ := Option.bind_eq_some_iff.mp signals
      cases signals
      refine ⟨(podResourceHint runtime pod).1, optionalText runtime (getOrNone "namespace" pod),
        fun signal member => ?_⟩
      cases List.mem_singleton.mp member
      exact podSignal_made made rfl
    · cases signals
      exact standard
  · cases signals
    exact standard

theorem eventLabel_symptom
    (labelled : eventLabel reason message = some (label, symptom, priority, withPods)) :
    symptom = symptomOf label := by
  have probe : probeFailureSymptom message = symptomOf (probeSignalLabel message) := by
    rw [probeFailureSymptom, probeSignalLabel]
    repeat' split
    all_goals rfl
  rw [eventLabel] at labelled
  repeat' split at labelled
  all_goals cases labelled
  all_goals first | exact probe | rfl

theorem eventPart_made {event : Entries}
    (signals : eventPart runtime pods collectedAt event = some found) :
    MadeAlike 1 found := by
  rw [eventPart] at signals
  split at signals
  · obtain ⟨active, _, signals⟩ := Option.bind_eq_some_iff.mp signals
    split at signals
    · rw [eventSignals] at signals
      split at signals
      · cases signals
        exact madeAlike_nil
      next label symptom priority withPods labelled =>
        obtain ⟨made, isMade, rfl⟩ := Option.map_eq_some_iff.mp signals
        obtain ⟨weight, _, rfl⟩ := Option.map_eq_some_iff.mp isMade
        exact madeAlike_singleton (eventLabel_symptom labelled)
    · cases signals
      exact madeAlike_nil
  · cases signals
    exact madeAlike_nil

theorem serviceSignals_made {service : Entries}
    (signals : serviceSignals runtime pods endpoints service = some found) :
    MadeAlike 2 found := by
  rw [serviceSignals] at signals
  split at signals
  · dsimp only at signals
    split at signals
    · cases signals
      exact madeAlike_nil
    · obtain ⟨counts, _, rfl⟩ := Option.map_eq_some_iff.mp signals
      split
      · exact madeAlike_nil
      · split
        · exact madeAlike_nil
        · exact madeAlike_singleton rfl
  · cases signals
    exact madeAlike_nil

/-- The signals of a snapshot, item by item. -/
structure Parts (runtime : SymptomRuntime) (kubernetes : Entries)
    (ofPods ofEvents ofServices : List (List SymptomSignal)) : Prop where
  pods : List.Forall₂ (fun pod part => podSignals runtime pod = some part)
      (snapshotItems kubernetes "pods") ofPods
  events : List.Forall₂ (fun event part => eventPart runtime (snapshotItems kubernetes "pods")
    (collectedAtTime runtime kubernetes) event = some part)
      (snapshotItems kubernetes "events") ofEvents
  services : List.Forall₂ (fun service part =>
    serviceSignals runtime (snapshotItems kubernetes "pods")
    (snapshotItems kubernetes "endpoints") service = some part)
    (snapshotItems kubernetes "services") ofServices

theorem parts_of_collected (signals : collectSignals runtime kubernetes = some found) :
    ∃ ofPods ofEvents ofServices, Parts runtime kubernetes ofPods ofEvents ofServices ∧
      found = ofPods.flatten ++ ofEvents.flatten ++ ofServices.flatten := by
  obtain ⟨ofPods, fromPods, signals⟩ := Option.bind_eq_some_iff.mp signals
  obtain ⟨ofEvents, fromEvents, signals⟩ := Option.bind_eq_some_iff.mp signals
  obtain ⟨ofServices, fromServices, signals⟩ := Option.bind_eq_some_iff.mp signals
  cases signals
  refine ⟨ofPods, ofEvents, ofServices,
    ⟨mapM_eq_some.mp fromPods, mapM_eq_some.mp fromEvents, mapM_eq_some.mp fromServices⟩, ?_⟩
  rw [List.flatten_append, List.flatten_append]

theorem Parts.rank (parts : Parts runtime kubernetes ofPods ofEvents ofServices) :
    (∀ part ∈ ofPods, MadeAlike 0 part) ∧ (∀ part ∈ ofEvents, MadeAlike 1 part) ∧
    ∀ part ∈ ofServices, MadeAlike 2 part := by
  refine ⟨fun part listed => ?_, fun part listed => ?_, fun part listed => ?_⟩
  · obtain ⟨pod, _, made⟩ := forall₂_mem_left parts.pods.flip listed
    exact podSignals_made made
  · obtain ⟨event, _, made⟩ := forall₂_mem_left parts.events.flip listed
    exact eventPart_made made
  · obtain ⟨service, _, made⟩ := forall₂_mem_left parts.services.flip listed
    exact serviceSignals_made made

theorem rank_of_flatten {parts : List (List SymptomSignal)}
    (made : ∀ part ∈ parts, MadeAlike rank part) (member : signal ∈ parts.flatten) :
    signal.sourceRank = rank ∧ signal.symptom = symptomOf signal.signal := by
  obtain ⟨part, listed, member⟩ := List.mem_flatten.mp member
  obtain ⟨_, _, each⟩ := made part listed
  exact ⟨(each signal member).sourceRank, (each signal member).symptom⟩

theorem collected_symptom (signals : collectSignals runtime kubernetes = some found)
    (member : signal ∈ found) :
    signal.symptom = symptomOf signal.signal := by
  obtain ⟨ofPods, ofEvents, ofServices, parts, rfl⟩ := parts_of_collected signals
  obtain ⟨pods, events, services⟩ := parts.rank
  rw [List.mem_append, List.mem_append] at member
  obtain (listed | listed) | listed := member
  · exact (rank_of_flatten pods listed).2
  · exact (rank_of_flatten events listed).2
  · exact (rank_of_flatten services listed).2

theorem ranked_perm {left right : List SymptomSignal} (perm : left.Perm right) :
    (ranked left = [] ∧ ranked right = []) ∨
    ∃ primary rest other later, ranked left = primary :: rest ∧
      ranked right = other :: later ∧ primary ∈ left ∧ other ∈ left ∧
      (∀ signal ∈ left, signalSortKey primary ≤ signalSortKey signal) ∧
      signalSortKey other = signalSortKey primary := by
  have length : (ranked left).length = (ranked right).length := by
    rw [ranked, ranked, List.length_insertionSort, List.length_insertionSort, perm.length_eq]
  cases first : ranked left with
  | nil =>
    rw [first] at length
    exact .inl ⟨rfl, List.eq_nil_of_length_eq_zero length.symm⟩
  | cons primary rest =>
    cases second : ranked right with
    | nil =>
      rw [first, second] at length
      cases length
    | cons other later =>
      obtain ⟨member, least⟩ := ranked_least first
      obtain ⟨otherMember, otherLeast⟩ := ranked_least second
      have among := perm.mem_iff.mpr otherMember
      refine .inr ⟨primary, rest, other, later, rfl, rfl, member, among, least,
        le_antisymm ?_ (least other among)⟩
      exact otherLeast primary (perm.mem_iff.mp member)

/-- The signals tied for the first place name resources of one kind in one namespace. -/
def TiesAgree (runtime : SymptomRuntime) (kubernetes : Entries) : Prop :=
  ∀ signals, collectSignals runtime kubernetes = some signals → ∀ one ∈ signals, ∀ two ∈ signals,
    (∀ signal ∈ signals, signalSortKey one ≤ signalSortKey signal) →
    signalSortKey two = signalSortKey one →
    two.resourceKind = one.resourceKind ∧ two.namespace = one.namespace

def outcome (runtime : SymptomRuntime) (kubernetes : Entries) :
    Option (String × Option SymptomSignal × String × String × Value) :=
  (deriveSymptom runtime kubernetes).map fun derived =>
    (derived.symptom, derived.signal, resolveResource runtime kubernetes derived.signal)

theorem signal_eq {one two : SymptomSignal} (tied : signalSortKey one = signalSortKey two)
    (kind : one.resourceKind = two.resourceKind) (inside : one.namespace = two.namespace)
    (oneSymptom : one.symptom = symptomOf one.signal)
    (twoSymptom : two.symptom = symptomOf two.signal) : one = two := by
  obtain ⟨priority, tied⟩ := Prod.mk.inj (toLex.injective tied)
  obtain ⟨rank, tied⟩ := Prod.mk.inj (toLex.injective tied)
  obtain ⟨weight, tied⟩ := Prod.mk.inj (toLex.injective tied)
  obtain ⟨name, label⟩ := Prod.mk.inj (toLex.injective tied)
  have symptom : one.symptom = two.symptom := by rw [oneSymptom, twoSymptom, label]
  cases one
  cases two
  rw [SymptomSignal.mk.injEq]
  exact ⟨label, symptom, priority, kind, name, inside, rank, neg_inj.mp weight⟩

theorem outcome_reordered {kubernetes other : Entries}
    (reordered : SnapshotReordered kubernetes other)
    (distinct : ((snapshotItems kubernetes "pods").map (podKey runtime)).Nodup)
    (agree : TiesAgree runtime kubernetes) :
    outcome runtime other = outcome runtime kubernetes := by
  have explicit : textOr runtime "" "symptom" other = textOr runtime "" "symptom" kubernetes := by
    rw [textOr, textOr, reordered.kept "symptom" (by decide)]
  have resource : resolveResource runtime other = resolveResource runtime kubernetes := by
    funext signal
    simp only [resolveResource, reordered.kept "resource" (by decide)]
  rw [outcome, outcome, deriveSymptom, deriveSymptom, explicit, resource]
  split
  · rfl
  have signals := collectSignals_perm reordered distinct
  cases collected : collectSignals runtime kubernetes with
  | none =>
    rw [collected] at signals
    cases raised : collectSignals runtime other with
    | none => rfl
    | some => rw [raised] at signals; cases signals
  | some found =>
    rw [collected] at signals
    cases otherCollected : collectSignals runtime other with
    | none => rw [otherCollected] at signals; cases signals
    | some others =>
      rw [otherCollected] at signals
      cases signals with
      | some perm =>
        obtain ⟨none, otherNone⟩ | ⟨primary, rest, second, later, first, ranking, member, among,
          least, tied⟩ :=
          ranked_perm perm
        · simp only [Option.map_some, none, otherNone]
        · obtain ⟨kind, inside⟩ := agree _ collected primary member second among least tied
          have whole := signal_eq tied kind inside (collected_symptom collected among)
            (collected_symptom collected member)
          simp only [Option.map_some, first, ranking, whole]

/-- The ranking is stable: the primary signal is the first one with its key. -/
theorem ranked_stable {signals : List SymptomSignal} (first : ranked signals = primary :: rest) :
    ∃ before after, signals = before ++ primary :: after ∧
      ∀ signal ∈ before, signalSortKey signal ≠ signalSortKey primary := by
  induction signals generalizing primary rest with
  | nil => cases first
  | cons signal signals ih =>
    rw [ranked, List.insertionSort_cons, ← ranked] at first
    cases later : ranked signals with
    | nil =>
      rw [later] at first
      cases first
      exact ⟨[], signals, rfl, fun _ impossible => by cases impossible⟩
    | cons second others =>
      rw [later, List.orderedInsert] at first
      split at first
      · cases first
        exact ⟨[], signals, rfl, fun _ impossible => by cases impossible⟩
      next larger =>
        cases first
        obtain ⟨before, after, rfl, apart⟩ := ih later
        refine ⟨signal :: before, after, rfl, List.forall_mem_cons.mpr ⟨fun tied => ?_, apart⟩⟩
        exact larger tied.le

theorem ranked_part {front part rest : List SymptomSignal} (whole : signals = front ++ part ++ rest)
    (alike : MadeAlike rank part) (inPart : tied ∈ part)
    (apart : ∀ signal ∈ front, signal.sourceRank ≠ rank)
    (least : ∀ signal ∈ signals, signalSortKey tied ≤ signalSortKey signal) :
    ∃ later, ranked signals = tied :: later := by
  obtain ⟨kind, inside, each⟩ := alike
  subst whole
  have member : tied ∈ front ++ part ++ rest :=
    List.mem_append_left _ (List.mem_append_right _ inPart)
  cases first : ranked (front ++ part ++ rest) with
  | nil =>
    have none := List.perm_insertionSort (fun left right =>
      signalSortKey left ≤ signalSortKey right) (front ++ part ++ rest)
    rw [← ranked, first] at none
    cases none.mem_iff.mpr member
  | cons primary later =>
    obtain ⟨inSignals, primaryLeast⟩ := ranked_least first
    have same := le_antisymm (primaryLeast tied member) (least primary inSignals)
    obtain ⟨before, after, split, earlier⟩ := ranked_stable first
    have notBefore : tied ∉ before := fun early => earlier tied early same.symm
    have among : primary ∈ front ++ part := by
      obtain ⟨more, rfl, _⟩ | ⟨more, whole, later⟩ := List.append_eq_append_iff.mp split
      · exact absurd (List.mem_append_left _ (List.mem_append_right _ inPart)) notBefore
      · cases more with
        | nil =>
          rw [List.append_nil] at whole
          exact absurd (whole ▸ List.mem_append_right _ inPart) notBefore
        | cons head tail =>
          cases later
          rw [whole]
          exact List.mem_append_right _ List.mem_cons_self
    obtain early | own := List.mem_append.mp among
    · have key := (Prod.mk.inj (toLex.injective (Prod.mk.inj (toLex.injective same)).2)).1
      exact absurd (key.trans (each tied inPart).sourceRank) (apart primary early)
    · have one := each primary own
      have two := each tied inPart
      rw [signal_eq same (one.resourceKind.trans two.resourceKind.symm)
        (one.namespace.trans two.namespace.symm) one.symptom two.symptom]
      exact ⟨later, rfl⟩

theorem snapshotItems_congr {left right : Entries}
    (same : getOrNone key left = getOrNone key right) :
    snapshotItems left key = snapshotItems right key := by
  rw [snapshotItems, same, ← snapshotItems]

theorem exists_moved (listed : key ∈ ["pods", "events", "services", "endpoints"])
    (member : item ∈ snapshotItems kubernetes key) :
    ∃ other rest, SnapshotReordered kubernetes other ∧ snapshotItems other key = item :: rest ∧
      ∀ name, name ≠ key → getOrNone name other = getOrNone name kubernetes := by
  obtain ⟨value, among, isItem⟩ := List.mem_filterMap.mp member
  obtain ⟨raw, isRaw⟩ : ∃ raw, getOrNone key kubernetes = .list raw := by
    cases found : list? (getOrNone key kubernetes) with
    | none =>
      rw [found] at among
      cases among
    | some raw => exact ⟨raw, list?_eq_some.mp found⟩
  rw [isRaw] at among
  rw [dict?_eq_some] at isItem
  obtain ⟨before, after, rfl⟩ := List.append_of_mem among
  have moved :
      getOrNone key (Entries.assign (.str key) (.list (value :: (before ++ after))) kubernetes) =
      .list (value :: (before ++ after)) := by
    rw [getOrNone, getKey, Entries.lookup_assign]
    rfl
  have others (name : String) (different : name ≠ key) :
      getOrNone name (Entries.assign (.str key) (.list (value :: (before ++ after))) kubernetes) =
        getOrNone name kubernetes := by
    rw [getOrNone, getKey_assign_ne different, ← getOrNone]
  refine ⟨_, ((before ++ after).filterMap dict?),
    ⟨fun name kept => (others name ?_).symm, fun name among => ?_⟩, ?_, others⟩
  · have apart : ∀ name ∈ ["symptom", "resource", "cluster"],
        name ∉ ["pods", "events", "services", "endpoints"] := by decide
    exact fun same => apart name kept (same ▸ listed)
  · by_cases same : name = key
    · rw [same, isRaw, moved]
      exact .inr ⟨_, _, rfl, rfl, List.perm_middle⟩
    · rw [others name same]
      exact .inl rfl
  · rw [snapshotItems, moved, isItem]
    rfl

/-- Any signal tied for the first place is the primary one of some order. -/
theorem exists_primary (distinct : ((snapshotItems kubernetes "pods").map (podKey runtime)).Nodup)
    (collected : collectSignals runtime kubernetes = some signals) (member : tied ∈ signals)
    (least : ∀ signal ∈ signals, signalSortKey tied ≤ signalSortKey signal) :
    ∃ other found later, SnapshotReordered kubernetes other ∧
      collectSignals runtime other = some found ∧ ranked found = tied :: later := by
  obtain ⟨ofPods, ofEvents, ofServices, parts, rfl⟩ := parts_of_collected collected
  -- A reordered snapshot has the same signals, split into parts of its own.
  have reordered {other : Entries} (order : SnapshotReordered kubernetes other) :
      ∃ pods events services, Parts runtime other pods events services ∧
        collectSignals runtime other = some (pods.flatten ++ events.flatten ++ services.flatten) ∧
        ∀ signal ∈ pods.flatten ++ events.flatten ++ services.flatten, signalSortKey tied ≤
          signalSortKey signal := by
    have perm := collectSignals_perm order distinct
    rw [collected] at perm
    cases again : collectSignals runtime other with
    | none =>
      rw [again] at perm
      cases perm
    | some found =>
      rw [again] at perm
      obtain ⟨pods, events, services, others, rfl⟩ := parts_of_collected again
      cases perm with
      | some perm =>
        exact ⟨pods, events, services, others, rfl,
          fun signal among => least signal (perm.mem_iff.mpr among)⟩
  rw [List.mem_append, List.mem_append] at member
  obtain (inPods | inEvents) | inServices := member
  · obtain ⟨part, listed, inPart⟩ := List.mem_flatten.mp inPods
    obtain ⟨pod, present, made⟩ := forall₂_mem_left parts.pods.flip listed
    obtain ⟨other, rest, order, front, _⟩ := exists_moved (by decide) present
    obtain ⟨pods, events, services, others, again, least⟩ := reordered order
    have first := others.pods
    rw [front] at first
    obtain _ | @⟨_, _, _, more, own, _⟩ := first
    cases own.symm.trans made
    have whole : (part :: more).flatten ++ events.flatten ++ services.flatten =
        [] ++ part ++ (more.flatten ++ events.flatten ++ services.flatten) := by simp
    have none : ∀ signal ∈ ([] : List SymptomSignal), signal.sourceRank ≠ 0 :=
      fun _ impossible => by cases impossible
    obtain ⟨later, ranking⟩ := ranked_part whole (podSignals_made made) inPart none least
    exact ⟨other, _, later, order, again, ranking⟩
  · obtain ⟨part, listed, inPart⟩ := List.mem_flatten.mp inEvents
    obtain ⟨event, present, made⟩ := forall₂_mem_left parts.events.flip listed
    obtain ⟨other, rest, order, front, kept⟩ := exists_moved (by decide) present
    obtain ⟨pods, events, services, others, again, least⟩ := reordered order
    have first := others.events
    rw [front, snapshotItems_congr (kept "pods" (by decide)), collectedAtTime,
      kept "cluster" (by decide), ← collectedAtTime] at first
    obtain _ | @⟨_, _, _, more, own, _⟩ := first
    cases own.symm.trans made
    have whole : pods.flatten ++ (part :: more).flatten ++ services.flatten =
        pods.flatten ++ part ++ (more.flatten ++ services.flatten) := by simp
    have apart : ∀ signal ∈ pods.flatten, signal.sourceRank ≠ 1 := by
      intro signal among
      rw [(rank_of_flatten others.rank.1 among).1]
      decide
    obtain ⟨later, ranking⟩ := ranked_part whole (eventPart_made made) inPart apart least
    exact ⟨other, _, later, order, again, ranking⟩
  · obtain ⟨part, listed, inPart⟩ := List.mem_flatten.mp inServices
    obtain ⟨service, present, made⟩ := forall₂_mem_left parts.services.flip listed
    obtain ⟨other, rest, order, front, kept⟩ := exists_moved (by decide) present
    obtain ⟨pods, events, services, others, again, least⟩ := reordered order
    have first := others.services
    rw [front, snapshotItems_congr (kept "pods" (by decide)),
      snapshotItems_congr (kept "endpoints" (by decide))] at first
    obtain _ | @⟨_, _, _, more, own, _⟩ := first
    cases own.symm.trans made
    have whole : pods.flatten ++ events.flatten ++ (part :: more).flatten =
        (pods.flatten ++ events.flatten) ++ part ++ more.flatten := by simp
    have apart : ∀ signal ∈ pods.flatten ++ events.flatten, signal.sourceRank ≠ 2 := by
      intro signal among
      obtain early | late := List.mem_append.mp among
      · rw [(rank_of_flatten others.rank.1 early).1]
        decide
      · rw [(rank_of_flatten others.rank.2.1 late).1]
        decide
    obtain ⟨later, ranking⟩ := ranked_part whole (serviceSignals_made made) inPart apart least
    exact ⟨other, _, later, order, again, ranking⟩

/-- No reordering of the lists changes the outcome exactly if the signals tied for the first place
agree on the kind and the namespace, which are no part of the rank. -/
theorem primary_symptom_order_free_iff {kubernetes : Entries}
    (implicit : strip (textOr runtime "" "symptom" kubernetes) = "")
    (distinct : ((snapshotItems kubernetes "pods").map (podKey runtime)).Nodup) :
    (∀ other, SnapshotReordered kubernetes other →
      outcome runtime other = outcome runtime kubernetes) ↔
      TiesAgree runtime kubernetes := by
  constructor
  · intro free signals collected one first two second least tied
    have primary {signal : SymptomSignal} (member : signal ∈ signals)
        (least : ∀ other ∈ signals, signalSortKey signal ≤ signalSortKey other) :
        (outcome runtime kubernetes).map (·.2.1) = some (some signal) := by
      obtain ⟨other, found, later, order, again, ranking⟩ :=
        exists_primary distinct collected member least
      have explicit : textOr runtime "" "symptom" other =
          textOr runtime "" "symptom" kubernetes := by
        rw [textOr, textOr, order.kept "symptom" (by decide)]
      rw [← free other order, outcome, deriveSymptom, explicit, implicit,
        if_neg (not_not.mpr rfl), again]
      simp only [Option.map_some, ranking]
    have same :=
      (primary first least).symm.trans (primary second fun other among => tied ▸ least other among)
    cases same
    exact ⟨rfl, rfl⟩
  · exact fun agree other order => outcome_reordered order distinct agree

end order

section sample

/-- Texts are what they are and every number is one. -/
def plainRuntime : SymptomRuntime where
  str
    | .scalar (.str text) => text
    | _ => ""
  int
    | .scalar (.int value) => some value
    | _ => none
  lower text := text
  isoTime _ := none
  str_text _ := rfl

def crashingPod (inside : String) : Value :=
  .dict [(.str "name", .scalar (.str "web")), (.str "namespace", .scalar (.str inside)),
    (.str "waiting_reasons", .list [.scalar (.str "CrashLoopBackOff")])]

def podSnapshot (pods : List Value) : Entries := [(.str "pods", .list pods)]

theorem podSnapshot_reordered {pods others : List Value} (perm : pods.Perm others) :
    SnapshotReordered (podSnapshot pods) (podSnapshot others) where
  kept key listed := by
    obtain rfl | rfl | rfl := by simpa using listed
    all_goals rfl
  lists key listed := by
    obtain rfl | rfl | rfl | rfl := by simpa using listed
    · exact .inr ⟨pods, others, rfl, rfl, perm⟩
    all_goals exact .inl rfl

/-- A crashing pod and one without signals. -/
theorem primary_symptom_order_free_pod :
    outcome plainRuntime (podSnapshot [.dict [], crashingPod "a"]) =
      outcome plainRuntime (podSnapshot [crashingPod "a", .dict []]) := by
  have agree : TiesAgree plainRuntime (podSnapshot [crashingPod "a", .dict []]) := by
    intro signals collected one first two second _ _
    cases collected.symm.trans
      (by decide +kernel : collectSignals plainRuntime (podSnapshot [crashingPod "a", .dict []]) =
      some [⟨"CrashLoopBackOff", "CrashLoopBackOff", 2, "Pod", "web", some "a", 0, 0⟩])
    rw [List.mem_singleton.mp first, List.mem_singleton.mp second]
    exact ⟨rfl, rfl⟩
  exact (primary_symptom_order_free_iff (by decide +kernel) (by decide +kernel)).mpr agree _
    (podSnapshot_reordered (.swap _ _ _))

/-- Pods of one name that crash equally often in two namespaces: the first one in the list is the
incident. -/
theorem primary_symptom_tie :
    ((snapshotItems (podSnapshot [crashingPod "a", crashingPod "b"]) "pods").map
      (podKey plainRuntime)).Nodup ∧
      SnapshotReordered (podSnapshot [crashingPod "a", crashingPod "b"])
        (podSnapshot [crashingPod "b", crashingPod "a"]) ∧
      ((deriveSymptom plainRuntime (podSnapshot [crashingPod "a", crashingPod "b"])).bind
        fun derived =>
        derived.signal.map (·.namespace)) = some (some "a") ∧
      ((deriveSymptom plainRuntime (podSnapshot [crashingPod "b", crashingPod "a"])).bind
        fun derived =>
        derived.signal.map (·.namespace)) = some (some "b") := by
  refine ⟨by decide +kernel, podSnapshot_reordered (.swap _ _ _), by decide +kernel,
    by decide +kernel⟩

end sample

end K8sOps.Rca.Symptom
