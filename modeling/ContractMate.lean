import ContractMate.AdmissionBounds
import ContractMate.AdmissionOutage
import ContractMate.AdmissionRetries
import ContractMate.ContractIntake
import ContractMate.ContractWorker
import ContractMate.DailyQuota
import ContractMate.EffectProgram
import ContractMate.EmailDelivery
import ContractMate.EmailOutbox
import ContractMate.EnvelopeDurability
import ContractMate.EnvelopeRetries
import ContractMate.InboundEmailEvents
import ContractMate.IntakeCalls
import ContractMate.IntakeFootprints
import ContractMate.JobMessages
import ContractMate.OutboxOrder
import ContractMate.TransactionBlock
import ContractMate.ProgramPool
import ContractMate.QueueCounts
import ContractMate.QueueDeliveries
import ContractMate.QueueHandover
import ContractMate.QueuePhases
import ContractMate.RateLimitDecisions
import ContractMate.RateLimitScripts
import ContractMate.ResendInbound
import ContractMate.ReviewCalls
import ContractMate.ReviewDatabase
import ContractMate.ReviewEmails
import ContractMate.ReviewExecutions
import ContractMate.ReviewFootprints
import ContractMate.ReviewJobOutbox
import ContractMate.ReviewJobSources
import ContractMate.RunHistory
import ContractMate.SlackIntake
import ContractMate.SlackLeaseFencing
import ContractMate.SlackRendering
import ContractMate.SlackReplyDurability
import ContractMate.SubmissionEnvelopes
import ContractMate.ThreadOrder
import ContractMate.TokenBucket
import ContractMate.UploadLeases
import ContractMate.UploadReservations
import ContractMate.SlackInstallations
import ContractMate.SlackDelivery
import ContractMate.KnowledgeOutbox
import ContractMate.KnowledgeDispatch
import ContractMate.KnowledgeWorker
import ContractMate.KnowledgeRecovery
import ContractMate.ReviewFinalization
import ContractMate.ContractDeletion
import ContractMate.ContractContent
import ContractMate.ReviewIndexing
import ContractMate.ContractUniqueness
import ContractMate.EventRuns
import ContractMate.ContractObjects
import ContractMate.IntakeCrossing
import ContractMate.ReadCommitted
import ContractMate.RowWrites
import ContractMate.TransactionDiscipline
import ContractMate.InstallationOwnership
import ContractMate.OAuthStates
import ContractMate.ChatTranscripts
import ContractMate.AccountIdentity
import ContractMate.AttemptTimelines
import ContractMate.BlockOutcomes
import ContractMate.UnknownSenders
import ContractMate.RankedSelection
import ContractMate.WorkspaceDelivery
import ContractMate.BracketedGroups
import ContractMate.ChatEvidence
import ContractMate.ChatAnswers
import ContractMate.KnowledgeBase
import ContractMate.HybridSearch
import ContractMate.SearchedIndexes
import ContractMate.ScopedReads
import ContractMate.ChatTools
import ContractMate.ToolIsolation
import ContractMate.BudgetedPrefix
import ContractMate.ConversationPrompts
import ContractMate.ChatHistories
import ContractMate.FusedSearch
import ContractMate.PageChunking
import ContractMate.Patterns
import ContractMate.ParsedPages
import ContractMate.SarvamArchives
import ContractMate.SarvamVision
import ContractMate.OcrPageNumbers
import ContractMate.EvidenceValidation
import ContractMate.MarkdownPages
import ContractMate.OcrFaithfulness
import ContractMate.StagedTransactions
import ContractMate.SigningRequests
import ContractMate.SigningReads
import ContractMate.SigningWrites
import ContractMate.SigningAtomicity
import ContractMate.JobLineages
import ContractMate.DeliverySpending
import ContractMate.BoundedProcessing
import ContractMate.AdmissionScripts
import ContractMate.AdmissionAgreement
import ContractMate.RetryAdvice
import ContractMate.ReservationKeys
import ContractMate.FileSniffing
import ContractMate.ProgramTraces
import ContractMate.SettledDeliveries
import ContractMate.JsonText
import ContractMate.JsonRoundTrip
import ContractMate.JobBodies
import ContractMate.LabelledItems
import ContractMate.ContractIndexing
import ContractMate.TextSplitting
import ContractMate.StreamDecoder
import ContractMate.JsonNumbers
import ContractMate.JsonValues
import ContractMate.ChatStream
import ContractMate.ChatStreamBlocks
import ContractMate.ChatStreamRoundTrip
import ContractMate.KnowledgeRetries
import ContractMate.RetriedIndexes
import ContractMate.RequestStatuses
import ContractMate.EscapedText
import ContractMate.SlackEscaping
import ContractMate.LexicographicText
import ContractMate.CivilTime
import ContractMate.StoredTimestamps
import ContractMate.SlackDownloads
import ContractMate.HtmlText
import ContractMate.HtmlTemplates
import ContractMate.ReviewEmailHtml
import ContractMate.HeaderAuthentication
import ContractMate.Base64RoundTrip
import ContractMate.SlackTokenCipher
import ContractMate.Reranking
import ContractMate.SigningChanges
import ContractMate.SigningStatuses
import ContractMate.SigningRuns
import ContractMate.SqlStatements
import ContractMate.ContractErasure
