import Mathlib.Data.List.Infix
import K8sOps.Python.Text

/-! The request for a Safe PR, and the repository and branches that it names. -/
namespace K8sOps.Scm
open Python

structure FilePatch where
  path : String
  content : String
  description : String
  deriving DecidableEq

/-- A request as `normalize_safe_pr_request` returns it. -/
structure SafePrRequest where
  title : String
  body : String
  patches : List FilePatch
  prKind : String
  workspaceId : String
  repositoryId : String
  bindingId : String
  applicationId : String
  workflowRunId : String
  environment : String
  manifestPath : String
  repoRef : String
  baseBranch : String
  commitSha : String
  patchSha256 : String
  approvalRef : Option String
  policyDecisionRef : Option String
  deriving DecidableEq

/-- What the provider returns for an open PR. -/
structure PullRequestResult where
  url : String
  number : Option Int
  nodeId : String
  headRef : String
  headSha : String
  deriving DecidableEq

/-- The environment of the worker. -/
structure Settings where
  repo : String
  baseBranch : String

inductive RefError where
  | missingConfig
  | invalidRepoRef
  | invalidBranchRef
  deriving DecidableEq

def isNameChar (c : Char) : Bool := c.isAlphanum || c ∈ ['_', '.', '-']

/-- `owner/name`. -/
def isRepoRef (repo : String) : Bool :=
  match repo.toList.splitOn '/' with
  | [owner, name] => owner ≠ [] && name ≠ [] && owner.all isNameChar && name.all isNameChar
  | _ => false

def isBranchText (ref : List Char) : Bool := ref ≠ [] && ref.all fun c => isNameChar c || c = '/'

def isBranchPart (part : List Char) : Bool :=
  part ≠ [] && part ≠ ['.'] && part ≠ ['.', '.'] && !".lock".toList.isSuffixOf part

def normalizeBranchRef (branch : String) : Except RefError String :=
  let ref := (strip branch).toList
  if !isBranchText ref || ['/'].isPrefixOf ref || ['/'].isSuffixOf ref || ['/', '/'] <:+: ref ||
      ['\\'] <:+: ref || ['.', '.'] <:+: ref || ['@', '\x7b'] <:+: ref || ['.'].isSuffixOf ref ||
      ".lock".toList.isSuffixOf ref || (ref.splitOn '/').any (!isBranchPart ·) then
    .error .invalidBranchRef
  else .ok (strip branch)

variable (settings : Settings)

def requestRepo (request : SafePrRequest) : Except RefError String :=
  let repo := strip (if request.repoRef ≠ "" then request.repoRef else settings.repo)
  if repo = "" then .error .missingConfig
  else if !isRepoRef repo then .error .invalidRepoRef
  else .ok repo

def requestBaseBranch (request : SafePrRequest) : Except RefError String :=
  let requested := strip request.baseBranch
  let configured := strip settings.baseBranch
  normalizeBranchRef
    (if requested ≠ "" then requested else if configured ≠ "" then configured else "main")

/-- The repository that the created PR is reported for. -/
def createdRepoRef (request : SafePrRequest) :
    String := (requestRepo settings request).toOption.getD request.repoRef

def createdBaseBranch (request : SafePrRequest) : String :=
  (requestBaseBranch settings request).toOption.getD request.baseBranch

end K8sOps.Scm
