import BlogOps.AccountSessions
import BlogOps.ActiveTopics
import BlogOps.AdminCommands
import BlogOps.AnalyticsSyncs
import BlogOps.AppErrors
import BlogOps.ApprovalEvidence
import BlogOps.ApprovalProgress
import BlogOps.ApprovalQuorum
import BlogOps.ApprovalRequests
import BlogOps.ApprovalVersions
import BlogOps.BackupRuns
import BlogOps.BalanceBounds
import BlogOps.BriefRequests
import BlogOps.BriefReviews
import BlogOps.BudgetPolicy
import BlogOps.BudgetReservations
import BlogOps.BulkBudget
import BlogOps.BulkClosing
import BlogOps.BulkCommands
import BlogOps.BulkDelivery
import BlogOps.BulkKillSwitch
import BlogOps.BulkMaterialization
import BlogOps.BulkProgress
import BlogOps.BulkReplays
import BlogOps.BulkRequests
import BlogOps.BulkRows
import BlogOps.BulkSteps
import BlogOps.BulkWorker
import BlogOps.CalendarBriefs
import BlogOps.CalendarRequests
import BlogOps.CalendarSpacing
import BlogOps.CampaignSpend
import BlogOps.ChunkBounds
import BlogOps.ConfigApproval
import BlogOps.ConnectionDisconnect
import BlogOps.ConnectionJobs
import BlogOps.ConnectionRuns
import BlogOps.ConsentHistory
import BlogOps.ContentEdits
import BlogOps.ContentHistory
import BlogOps.CopyrightCases
import BlogOps.CreditConservation
import BlogOps.CreditInvariant
import BlogOps.CreditOperations
import BlogOps.CreditRows
import BlogOps.CreditSettlement
import BlogOps.DeskBooks
import BlogOps.DeskChanges
import BlogOps.DigitRounding
import BlogOps.DisjointSets
import BlogOps.EffectRules
import BlogOps.EvidenceChains
import BlogOps.FactDefinitions
import BlogOps.GenerationJobs
import BlogOps.GenerationOrder
import BlogOps.GenerationPlan
import BlogOps.GenerationRetry
import BlogOps.GenerationWork
import BlogOps.HoldPlacements
import BlogOps.HoldSafety
import BlogOps.IncidentTimeline
import BlogOps.InsertionDicts
import BlogOps.IpAddresses
import BlogOps.JobSettlement
import BlogOps.JobStates
import BlogOps.KeyedTables
import BlogOps.KeywordClusters
import BlogOps.KeywordComponents
import BlogOps.KnowledgeDeletion
import BlogOps.KnowledgeDeliveries
import BlogOps.KnowledgeParsing
import BlogOps.KnowledgeReads
import BlogOps.KnowledgeReview
import BlogOps.KnowledgeSearch
import BlogOps.KnowledgeSources
import BlogOps.KnowledgeSteps
import BlogOps.KnowledgeVersions
import BlogOps.LegalHolds
import BlogOps.LinkedHistories
import BlogOps.LoginPolicies
import BlogOps.MediaMetadata
import BlogOps.NewHolds
import BlogOps.OutboundGuards
import BlogOps.ParentForests
import BlogOps.PasswordResets
import BlogOps.PatternMatching
import BlogOps.PlanningRows
import BlogOps.PlanningRules
import BlogOps.PortalGrants
import BlogOps.PortalInvitations
import BlogOps.PricingRules
import BlogOps.PrivacyCompletion
import BlogOps.PrivacyRequests
import BlogOps.PublishFrames
import BlogOps.PublishOutcomes
import BlogOps.PublishProcess
import BlogOps.PublishQuota
import BlogOps.PublishQuotaCounts
import BlogOps.PublishRedelivery
import BlogOps.PublishRequests
import BlogOps.PublishRuns
import BlogOps.PublishSaga
import BlogOps.PublishSession
import BlogOps.PublishSettlement
import BlogOps.PublishSound
import BlogOps.PublishSystem
import BlogOps.PublishSystemSteps
import BlogOps.PublishingRows
import BlogOps.PublishingRules
import BlogOps.PythonText
import BlogOps.QualityEvidence
import BlogOps.QualityRows
import BlogOps.QualityRules
import BlogOps.QualitySystem
import BlogOps.RefreshRotation
import BlogOps.ReleaseGates
import BlogOps.RepurposeDeliveries
import BlogOps.RepurposeJobs
import BlogOps.RepurposeRecords
import BlogOps.RepurposeRequests
import BlogOps.RepurposeReservations
import BlogOps.RepurposeRetry
import BlogOps.RepurposeSettlement
import BlogOps.ResearchApprovals
import BlogOps.RetentionSweeps
import BlogOps.RunningBalances
import BlogOps.ScimProvisioning
import BlogOps.ScoreBounds
import BlogOps.SecurityRules
import BlogOps.SessionEffects
import BlogOps.SyncOutcomes
import BlogOps.SyncRequests
import BlogOps.TerminalSettlements
import BlogOps.TextRedaction
import BlogOps.TopicLocks
import BlogOps.TopicTree
import BlogOps.TrackingLinks
import BlogOps.TransitionRuns
import BlogOps.UsageRecords
import BlogOps.VariantApprovals
import BlogOps.VariantExits
import BlogOps.WebhookAccounting
import BlogOps.WebhookDeliveries
import BlogOps.WebhookRuns
import BlogOps.WebhookSends
import BlogOps.WorkspaceMembers
import BlogOps.WorkspaceOwnership
