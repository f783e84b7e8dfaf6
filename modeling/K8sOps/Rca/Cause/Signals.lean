import K8sOps.Gitops.Diffing

/-! The signals that an evidence bundle holds, and the groups of matchers that a cause
candidate declares over them. -/
namespace K8sOps.Rca
open Python

/-- What an evaluation can raise. -/
inductive EvaluationError where
  | overflowError
  | typeError
  deriving DecidableEq

structure EvidenceReference where
  evidenceRef : String
  source : String
  name : String
  checkId : String
  summary : String
  query : Option String
  deriving DecidableEq

structure EvidenceItem where
  source : String
  name : String
  value : Entries
  summary : String
  evidenceRef : String
  checkId : String
  query : Option String

def EvidenceItem.reference (item : EvidenceItem) : EvidenceReference where
  evidenceRef := item.evidenceRef
  source := item.source
  name := item.name
  checkId := item.checkId
  summary := item.summary
  query := item.query

structure EvidenceBundle where
  items : List EvidenceItem

/-- The facts are a set: only membership is asked. -/
structure BundleSignals where
  facts : List String
  logLines : List String
  eventTexts : List String

namespace BundleSignals

def addFact (fact : String) (signals : BundleSignals) : BundleSignals :=
  { signals with facts := signals.facts ++ [fact] }

def addLogLine (line : String) (signals : BundleSignals) : BundleSignals :=
  { signals with logLines := signals.logLines ++ [line] }

def addEventText (text : String) (signals : BundleSignals) : BundleSignals :=
  { signals with eventTexts := signals.eventTexts ++ [text] }

end BundleSignals

section collect
variable (codec : Codec) (texts : Gitops.TextCodec)

def dictItems : Value → List Entries
  | .list items => items.filterMap fun item =>
    match item with
    | .dict entries => some entries
    | _ => none
  | _ => []

def textItems : Value → List String
  | .list items => (items.filter truthy).map texts.toText
  | _ => []

/-- `str(entries.get(key) or default)`. -/
def textOr (key default : String) (entries : Entries) : String :=
  let value := getOrNone key entries
  if truthy value then texts.toText value else default

def oomExitCode : Int := 137

def factExitCodeNonOom : String := "exit_code=non_oom"

/-- `int` of an infinite float is the one error that is not caught. -/
def addExitCodeFact (container : Entries) (signals : BundleSignals) (key : String) :
    Except EvaluationError BundleSignals :=
  match getOrNone key container with
  | .scalar .none | .scalar (.bool _) => .ok signals
  | .scalar (.float (.infinity _)) => .error .overflowError
  | raw =>
    match codec.toInt raw with
    | none => .ok signals
    | some code =>
      let signals := signals.addFact ("exit_code=" ++ toString code)
      .ok (if code ≠ 0 ∧ code ≠ oomExitCode then signals.addFact factExitCodeNonOom else signals)

def addExitCodeFacts (signals : BundleSignals) (container : Entries) :
    Except EvaluationError BundleSignals :=
  ["exit_code", "last_exit_code"].foldlM (addExitCodeFact codec container) signals

def addLabelFact (signals : BundleSignals) (label : Scalar × Value) : BundleSignals :=
  let key := strip (texts.toText (.scalar label.1))
  let value := strip (texts.toText label.2)
  if key ≠ "" ∧ value ≠ "" then signals.addFact ("pod_label:" ++ key ++ "=" ++ value) else signals

def collectPodSignals (signals : BundleSignals) (pod : Entries) :
    Except EvaluationError BundleSignals :=
  let signals := (getMapping "labels" pod).foldl (addLabelFact texts) signals
  let signals := (textItems texts (getOrNone "waiting_reasons" pod)).foldl
    (fun signals reason => signals.addFact ("waiting_reason=" ++ reason)) signals
  let signals := (textItems texts (getOrNone "terminated_reasons" pod)).foldl
    (fun signals reason => signals.addFact ("terminated_reason=" ++ reason)) signals
  (dictItems (getOrNone "containers" pod)).foldlM (addExitCodeFacts codec) signals

def collectEventSignals (signals : BundleSignals) (event : Entries) : BundleSignals :=
  let reason := strip (textOr texts "reason" "" event)
  let message := strip (textOr texts "message" "" event)
  let signals := if reason ≠ "" then signals.addFact ("event_reason=" ++ reason) else signals
  if reason ≠ "" ∨ message ≠ "" then signals.addEventText (strip (reason ++ " " ++ message))
  else signals

def collectKubernetesSignals (value : Entries) (signals : BundleSignals) :
    Except EvaluationError BundleSignals := do
  let signals ← (dictItems (getOrNone "pods" value)).foldlM (collectPodSignals codec texts) signals
  .ok ((dictItems (getOrNone "events" value)).foldl (collectEventSignals texts) signals)

def addLine (signals : BundleSignals) (entry : Entries) : BundleSignals :=
  match getOrNone "line" entry with
  | .scalar (.str line) => if line ≠ "" then signals.addLogLine line else signals
  | _ => signals

def collectLogLines (value : Entries) (signals : BundleSignals) : BundleSignals :=
  (dictItems (getOrNone "entries" value)).foldl (fun signals entry =>
    (dictItems (getOrNone "streams" entry)).foldl (fun signals stream =>
      (dictItems (getOrNone "values" stream)).foldl addLine signals)
        (addLine signals entry)) signals

def collectAlertFact (signals : BundleSignals) (alert : Entries) : BundleSignals :=
  if textOr texts "status" "firing" alert ≠ "firing" then signals
  else
    let name := strip (textOr texts "alertname" "" (getMapping "labels" alert))
    if name ≠ "" then signals.addFact ("alert_name=" ++ name) else signals

def collectAlertFacts (value : Entries) (signals : BundleSignals) : BundleSignals :=
  (dictItems (getOrNone "alerts" (getMapping "alertmanager" value))).foldl
    (collectAlertFact texts) signals

def collectSignals (signals : BundleSignals) (item : EvidenceItem) :
    Except EvaluationError BundleSignals :=
  if item.source = "kubernetes" then collectKubernetesSignals codec texts item.value signals
  else if item.source = "logs" then .ok (collectLogLines item.value signals)
  else if item.source = "metrics" then .ok (collectAlertFacts texts item.value signals)
  else .ok signals

def extractBundleSignals (bundle : EvidenceBundle) : Except EvaluationError BundleSignals :=
  bundle.items.foldlM (collectSignals codec texts) ⟨[], [], []⟩

end collect

section groups
variable (codec : Codec) (texts : Gitops.TextCodec)

/-- `needle in text.casefold()`. -/
def occurs (needle text : String) : Bool := decide (needle.toList <:+: (codec.casefold text).toList)

/-- The first key with a text decides how a matcher is read. -/
def matchOne (matcher : Entries) (signals : BundleSignals) : Bool :=
  match getOrNone "fact" matcher with
  | .scalar (.str fact) => signals.facts.contains fact
  | _ =>
    match getOrNone "log_pattern" matcher with
    | .scalar (.str pattern) => signals.logLines.any (occurs codec (codec.casefold pattern))
    | _ =>
      match getOrNone "event_pattern" matcher with
      | .scalar (.str pattern) => signals.eventTexts.any (occurs codec (codec.casefold pattern))
      | _ => false

/-- A group is matched by one of its matchers. Without a list there is none. -/
def matchSignalGroup (group : Entries) (signals : BundleSignals) : Bool :=
  (dictItems (getOrNone "any_of" group)).any (matchOne codec · signals)

def splitSignalGroups (groups : List Entries) (signals : BundleSignals) :
    List Entries × List Entries :=
  groups.partition (matchSignalGroup codec · signals)

def signalGroupId (group : Entries) : String := textOr texts "id" "unnamed" group

def signalMissingToken (group : Entries) : String := "signal:" ++ signalGroupId texts group

def matcherKeys : List String := ["fact", "log_pattern", "event_pattern"]

/-- What a `for` loop goes over; numbers and dates cannot be iterated. -/
def iterated : Value → Except EvaluationError (List Value)
  | .list items => .ok items
  | .dict entries => .ok (entries.map fun entry => .scalar entry.1)
  | .scalar (.str text) => .ok (text.toList.map fun c => .scalar (.str (String.singleton c)))
  | .scalar (.other type _) => if type = "bytes" then .ok [] else .error .typeError
  | .scalar _ => .error .typeError

def describeMatcher (matcher : Entries) : List String :=
  matcherKeys.filterMap fun key =>
    match getOrNone key matcher with
    | .scalar (.str value) => some (key ++ ":" ++ value)
    | _ => none

/-- `group.get("any_of") or []`, as the loop goes over it. -/
def declaredMatchers (group : Entries) : Except EvaluationError (List Value) :=
  let declared := getOrNone "any_of" group
  if truthy declared then iterated declared else .ok []

def describeSignalGroup (group : Entries) : Except EvaluationError String :=
  (declaredMatchers group).map fun matchers =>
    let parts := (dictItems (.list matchers)).flatMap describeMatcher
    if parts = [] then "정의된 matcher 없음" else String.intercalate " | " parts

end groups

end K8sOps.Rca
