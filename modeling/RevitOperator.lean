import RevitOperator.AssignmentKernel.SettlementOrder
import RevitOperator.AssignmentKernel.BlockingChildren
import RevitOperator.AssignmentKernel.RunFencing
import RevitOperator.AssignmentKernel.ProviderCallHistory
import RevitOperator.AssignmentKernel.UnknownEffectFence
import RevitOperator.AssignmentKernel.CounterStates
import RevitOperator.Assignments.KernelPublication
import RevitOperator.Courier.DecisionProtocol
import RevitOperator.Courier.AtMostOnce
import RevitOperator.OperatorDeploy.ForeignControl
import RevitOperator.SafeReadHost.HandOff
import RevitOperator.ControlPlane.EffectTruth
import RevitOperator.ControlPlane.ReplayedApply
import RevitOperator.ControlPlane.Verdicts
import RevitOperator.ControlPlane.SettlementRelease
import RevitOperator.Evidence.PageAgreement
import RevitOperator.Courier.TimeoutTruth
import RevitOperator.AssignmentKernel.FollowupHistory
import RevitOperator.AssignmentKernel.ClarificationHistory
import RevitOperator.AssignmentKernel.UnitCompletion
import RevitOperator.AssignmentKernel.Progress.IdleClock
import RevitOperator.AssignmentKernel.CriterionVerdict
import RevitOperator.Assignments.Redelivery
import RevitOperator.AssignmentKernel.AllowanceHistory
import RevitOperator.AssignmentKernel.WorkPlanIntegrity
import RevitOperator.RevitActionEffect.Classifiers
import RevitOperator.Contracts.CompletionDelivery
import RevitOperator.Courier.EnumerationHistory
import RevitOperator.McpServer.NativeInterleaving
import RevitOperator.McpServer.DynamicCodeSession
import RevitOperator.SafeReadHost.StaleBindings
import RevitOperator.DynamicRevitSdk.CanonicalRecords
import RevitOperator.DynamicRevitSdk.ExecutionTrace
import RevitOperator.DynamicRevitSdk.PreviewReceipt
import RevitOperator.SafeReadHost.CanonicalReceipt
import RevitOperator.Contracts.EvidenceTargets
import RevitOperator.OperatorBackend.ProviderTurnQueue
import RevitOperator.RevitBridge.OperatorWriteGrant
import RevitOperator.RevitBridge.HeadingFlow
import RevitOperator.RevitBridge.SpatialPolygonUtil
import RevitOperator.NativeTransport.CompletionTruth
import RevitOperator.DynamicRevitSandboxSupervisor.RuntimeImagePool
import RevitOperator.ExistingConditions.SharedLedger
