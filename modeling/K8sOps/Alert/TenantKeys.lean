import K8sOps.Alert.GroupKey
import K8sOps.Python.Value

/-! The keys of evidence windows. The workspace and the cluster of the sender are put in
front of what the sender chooses, with colons between them that the identifiers may have
as well. -/
namespace K8sOps.Alert
open Python

/-- Who sends, by its token. -/
structure ClusterAgentIdentity where
  workspaceId : String
  clusterId : String
  deriving DecidableEq

/-- `content` holds the fields that only the digest reads. -/
structure AgentEvidenceRequest where
  workspaceId : String
  clusterId : String
  correlationId : Option String
  sourceId : Option String
  windowStart : Option String
  evidenceKey : Option String
  content : Entries

/-- `text or default`. -/
def orText (text : Option String) (default : String) : String :=
  match text with
  | none => default
  | some text => if text = "" then default else text

def scopedEvidenceKey (identity : ClusterAgentIdentity)
    (evidenceKey : Option String) : Option String :=
  match evidenceKey with
  | none | some "" => none
  | some key => some (identity.workspaceId ++ ":" ++ identity.clusterId ++ ":" ++ key)

def defaultEvidenceSourceId : String := "cluster-snapshot"

/-- What the digest is made of: the sender's claims about itself are replaced, and the
correlation is left out. -/
def AgentEvidenceRequest.trusted (identity : ClusterAgentIdentity)
    (payload : AgentEvidenceRequest) : AgentEvidenceRequest :=
  { payload with
    workspaceId := identity.workspaceId
    clusterId := identity.clusterId
    correlationId := none
    evidenceKey := none }

section keys
variable (encode : AgentEvidenceRequest → String) (digest : String → String)

/-- `encode` is the JSON text of a request. -/
def agentEvidenceKey (identity : ClusterAgentIdentity) (payload : AgentEvidenceRequest) : String :=
  orText (scopedEvidenceKey identity payload.evidenceKey) <|
    identity.workspaceId ++ ":" ++ identity.clusterId ++ ":" ++
      orText payload.sourceId defaultEvidenceSourceId ++ ":" ++
      orText payload.windowStart (orText payload.correlationId "adhoc") ++ ":" ++
        digest (encode (payload.trusted identity))

/-- What evidence is sent as. -/
inductive EvidenceMessage where
  | agent (payload : AgentEvidenceRequest)
  | alertmanager (payload : AlertmanagerWebhookRequest)

def EvidenceMessage.key (identity : ClusterAgentIdentity) : EvidenceMessage → String
  | .agent payload => agentEvidenceKey encode digest identity payload
  | .alertmanager payload =>
    alertmanagerEvidenceKey digest identity.workspaceId identity.clusterId payload

end keys

section scopes
variable {encode : AgentEvidenceRequest → String} {digest : String → String}
  {one two identity : ClusterAgentIdentity}

def ClusterAgentIdentity.scope (identity : ClusterAgentIdentity) : List Char :=
  identity.workspaceId.toList ++ ':' :: identity.clusterId.toList ++ [':']

theorem colon_toList : ":".toList = [':'] := by decide

theorem toList_scoped (identity : ClusterAgentIdentity) (rest : String) :
    (identity.workspaceId ++ ":" ++ identity.clusterId ++ ":" ++ rest).toList =
      identity.scope ++ rest.toList := by
  simp [ClusterAgentIdentity.scope, colon_toList]

theorem scopedEvidenceKey_some {key : String} (given : key ≠ "") :
    scopedEvidenceKey identity (some key) =
      some (identity.workspaceId ++ ":" ++ identity.clusterId ++ ":" ++ key) := by
  rw [scopedEvidenceKey.eq_def]
  split
  next isNone => cases isNone
  next isEmpty => exact absurd (Option.some.inj isEmpty) given
  next isSome => rw [Option.some.inj isSome]

theorem agentEvidenceKey_chosen {payload : AgentEvidenceRequest} {key : String}
    (isKey : payload.evidenceKey = some key) (given : key ≠ "") :
    (agentEvidenceKey encode digest identity payload).toList = identity.scope ++ key.toList := by
  have long : identity.workspaceId ++ ":" ++ identity.clusterId ++ ":" ++ key ≠ "" := by
    intro empty
    have nothing := congrArg String.toList empty
    rw [toList_scoped] at nothing
    simp [ClusterAgentIdentity.scope] at nothing
  rw [agentEvidenceKey, isKey, scopedEvidenceKey_some given, orText, if_neg long, toList_scoped]

theorem EvidenceMessage.key_scoped (encode : AgentEvidenceRequest → String)
    (digest : String → String) (identity : ClusterAgentIdentity) (message : EvidenceMessage) :
    identity.scope <+: (message.key encode digest identity).toList := by
  have derived (rest : String) :
      identity.scope <+: (identity.workspaceId ++ ":" ++ identity.clusterId ++ ":" ++
        rest).toList := by
    rw [toList_scoped]
    exact List.prefix_append _ _
  cases message with
  | agent payload =>
    rw [EvidenceMessage.key]
    cases chosen : scopedEvidenceKey identity payload.evidenceKey with
    | none =>
      rw [agentEvidenceKey, chosen, orText]
      simpa only [String.append_assoc] using derived _
    | some found =>
      rw [scopedEvidenceKey.eq_def] at chosen
      split at chosen
      next => cases chosen
      next => cases chosen
      next key other isKey =>
        rw [agentEvidenceKey_chosen isKey other]
        exact List.prefix_append _ _
  | alertmanager payload =>
    have word : ":alertmanager:" = ":" ++ "alertmanager:" := by decide
    rw [EvidenceMessage.key, alertmanagerEvidenceKey, word]
    simpa only [String.append_assoc] using derived ("alertmanager:" ++ digest payload.raw)

def choosing (key : List Char) : EvidenceMessage :=
  .agent ⟨"", "", none, none, none, some (String.ofList (key ++ ['0'])), []⟩

theorem choosing_key (key : List Char) :
    ((choosing key).key encode digest identity).toList = identity.scope ++ (key ++ ['0']) := by
  have given : String.ofList (key ++ ['0']) ≠ "" := by
    intro empty
    have nothing := congrArg String.toList empty
    simp at nothing
  rw [choosing, EvidenceMessage.key, agentEvidenceKey_chosen rfl given, String.toList_ofList]

/-- Where the scope of one sender continues that of another one, the other one can choose
the key of a window of the first. -/
theorem keys_meet (encode : AgentEvidenceRequest → String) (digest : String → String)
    (continued : one.scope <+: two.scope) :
    ∃ mine theirs, EvidenceMessage.key encode digest one mine =
      EvidenceMessage.key encode digest two theirs := by
  obtain ⟨rest, isScope⟩ := continued
  refine ⟨choosing rest, choosing [], String.toList_injective ?_⟩
  rw [choosing_key, choosing_key, ← isScope]
  simp

theorem keys_apart (forward : ¬one.scope <+: two.scope) (backward : ¬two.scope <+: one.scope)
    (mine theirs : EvidenceMessage) :
    mine.key encode digest one ≠ theirs.key encode digest two := by
  intro same
  have first := mine.key_scoped encode digest one
  have second := theirs.key_scoped encode digest two
  rw [← same] at second
  exact (List.prefix_or_prefix_of_prefix first second).elim forward backward

/-- Two senders never share a key exactly when neither of their scopes continues the other. -/
theorem keys_apart_iff (encode : AgentEvidenceRequest → String) (digest : String → String)
    (one two : ClusterAgentIdentity) :
    (∀ mine theirs, EvidenceMessage.key encode digest one mine ≠
      EvidenceMessage.key encode digest two theirs) ↔
      ¬one.scope <+: two.scope ∧ ¬two.scope <+: one.scope := by
  constructor
  · intro apart
    constructor
    · intro continued
      obtain ⟨mine, theirs, same⟩ := keys_meet encode digest continued
      exact apart mine theirs same
    · intro continued
      obtain ⟨theirs, mine, same⟩ := keys_meet encode digest continued
      exact apart mine theirs same.symm
  · rintro ⟨forward, backward⟩
    exact keys_apart forward backward

/-- Two tenants of which one can take the windows of the other. -/
theorem keys_meet_colon :
    (⟨"a", "b:c"⟩ : ClusterAgentIdentity) ≠ ⟨"a:b", "c"⟩ ∧
      EvidenceMessage.key (fun _ => "") id ⟨"a", "b:c"⟩ (choosing []) =
        EvidenceMessage.key (fun _ => "") id ⟨"a:b", "c"⟩ (choosing []) := by
  decide +kernel

end scopes

end K8sOps.Alert
