import K8sOps.Alert.TenantKeys
import K8sOps.Alert.Webhook
import K8sOps.Events.InMemory
import K8sOps.Events.Body
import K8sOps.Gitops.DeclaredPatchProofs
import K8sOps.Gitops.KustomizeGraphProofs
import K8sOps.Gitops.KustomizePointers
import K8sOps.Gitops.KustomizeTransformers
import K8sOps.Gitops.PatchScope
import K8sOps.Gitops.RecoveryMergeProofs
import K8sOps.Gitops.RemediationSourceProofs
import K8sOps.Gitops.TaggedImage
import K8sOps.Inventory.DeletionScopes
import K8sOps.Inventory.LimitFairness
import K8sOps.Rca.ArrivalOrder
import K8sOps.Rca.Cause.Growth
import K8sOps.Rca.Cause.Selection
import K8sOps.Rca.LogFreshness
import K8sOps.Rca.Plan.AttemptInterleaving
import K8sOps.Rca.Plan.Dispatch
import K8sOps.Rca.Plan.EvidenceInterleaving
import K8sOps.Rca.SessionContinuity
import K8sOps.Rca.WorkloadContinuity
import K8sOps.Rca.Symptom
import K8sOps.Security.SensitiveValue
import K8sOps.Session.EscalatingLimiter
import K8sOps.Session.RedisLimiter
import K8sOps.Target.Aggregation
import K8sOps.Target.JobLeasing
import K8sOps.Timeline.CoverageProofs
import K8sOps.Timeline.Ledger
import K8sOps.Timeline.Predicate
import K8sOps.Worker.Protocol
