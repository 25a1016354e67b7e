import ContractMate.SlackTables

/-!
# Calls of the Slack repository

The operations on the Slack tables as values, so that a run is a list of them.
-/

namespace ContractMate

/-- One `SlackRepository` call with its arguments. -/
inductive SlackCall where
  | enqueueEvent (eventId teamId eventType payload : String)
  | claimDueEvents (limit leaseSeconds : Int)
  | completeEvent (rowId leaseToken : Uuid) (ignored : Bool)
  | retryEvent (rowId leaseToken : Uuid) (attempts maxAttempts : Int)
      (retryAfterSeconds : Option Int)
  | retryEventContention (rowId leaseToken : Uuid) (retryAfterSeconds : Int)
  | claimFileSubmission (eventId fileId : String) (leaseSeconds : Int)
  | completeFileSubmission (eventId fileId : String) (leaseToken : Uuid)
  | releaseFileSubmission (eventId fileId : String) (leaseToken : Uuid)
  | claimReviewExecution (submissionKey : String) (leaseSeconds : Int)
  | getReviewExecutionStatus (submissionKey : String)
  | completeReviewExecution (submissionKey : String) (leaseToken : Uuid)
  | renewReviewExecution (submissionKey : String) (leaseToken : Uuid)
      (leaseSeconds : Int)
  | releaseReviewExecution (submissionKey : String) (leaseToken : Uuid)
  | persistReviewJob (submissionKey : String) (jobId : Uuid)
      (payload : JobPayload)
  | claimDueReviewJobs (limit leaseSeconds : Int)
  | markReviewJobPublished (submissionKey : String) (leaseToken : Uuid)
  | retryReviewJobPublish (submissionKey : String) (leaseToken : Uuid)
      (attempts : Int)
  | enqueueOutbound (intent : OutboundSlackIntent)
  | claimDueOutbound (limit leaseSeconds : Int)
  | markOutboundSent (outboxId leaseToken : Uuid)
  | rescheduleOutbound (outboxId leaseToken : Uuid) (attempts maxAttempts : Int)
      (retryAfterSeconds : Option Int)
  | disconnectInstallation (installationId accountId : String)
  | markInstallationRevoked (installationId : String)

namespace SlackCall

/-- What a call returns. -/
def Ret : SlackCall → Type
  | claimDueEvents .. => List InboundSlackEvent
  | retryEvent .. | rescheduleOutbound .. => RetryOutcome
  | claimFileSubmission .. | claimReviewExecution .. => SlackLeaseClaim
  | getReviewExecutionStatus .. => Option SubmissionStatus
  | persistReviewJob .. | markInstallationRevoked .. => Unit
  | claimDueReviewJobs .. => List SlackReviewJobOutboxItem
  | enqueueOutbound .. => Uuid
  | claimDueOutbound .. => List OutboundSlackItem
  | _ => Bool

/-- A call as the body of its transaction block. -/
def body (stamp : Stamp) (tables : SlackTables) :
    (call : SlackCall) → Except Exn (call.Ret × SlackTables)
  | enqueueEvent eventId teamId eventType payload =>
      .ok (tables.enqueueEvent stamp eventId teamId eventType payload)
  | claimDueEvents limit leaseSeconds =>
      .ok (tables.claimDueEvents stamp limit leaseSeconds)
  | completeEvent rowId leaseToken ignored =>
      .ok (tables.completeEvent rowId leaseToken ignored)
  | retryEvent rowId leaseToken attempts maxAttempts retryAfterSeconds =>
      .ok (tables.retryEvent stamp rowId leaseToken attempts maxAttempts
        retryAfterSeconds)
  | retryEventContention rowId leaseToken retryAfterSeconds =>
      .ok (tables.retryEventContention stamp rowId leaseToken retryAfterSeconds)
  | claimFileSubmission eventId fileId leaseSeconds =>
      .ok (tables.claimFileSubmission stamp eventId fileId leaseSeconds)
  | completeFileSubmission eventId fileId leaseToken =>
      .ok (tables.completeFileSubmission eventId fileId leaseToken)
  | releaseFileSubmission eventId fileId leaseToken =>
      .ok (tables.releaseFileSubmission eventId fileId leaseToken)
  | claimReviewExecution submissionKey leaseSeconds =>
      .ok (tables.claimReviewExecution stamp submissionKey leaseSeconds)
  | getReviewExecutionStatus submissionKey =>
      .ok (tables.getReviewExecutionStatus submissionKey, tables)
  | completeReviewExecution submissionKey leaseToken =>
      .ok (tables.completeReviewExecution submissionKey leaseToken)
  | renewReviewExecution submissionKey leaseToken leaseSeconds =>
      .ok (tables.renewReviewExecution stamp submissionKey leaseToken
        leaseSeconds)
  | releaseReviewExecution submissionKey leaseToken =>
      .ok (tables.releaseReviewExecution submissionKey leaseToken)
  | persistReviewJob submissionKey jobId payload =>
      (tables.persistReviewJob stamp submissionKey jobId payload).map
        fun persisted => ((), persisted)
  | claimDueReviewJobs limit leaseSeconds =>
      .ok (tables.claimDueReviewJobs stamp limit leaseSeconds)
  | markReviewJobPublished submissionKey leaseToken =>
      .ok (tables.markReviewJobPublished submissionKey leaseToken)
  | retryReviewJobPublish submissionKey leaseToken attempts =>
      .ok (tables.retryReviewJobPublish stamp submissionKey leaseToken attempts)
  | enqueueOutbound intent => tables.enqueueOutbound stamp intent
  | claimDueOutbound limit leaseSeconds =>
      .ok (tables.claimDueOutbound stamp limit leaseSeconds)
  | markOutboundSent outboxId leaseToken =>
      .ok (tables.markOutboundSent outboxId leaseToken)
  | rescheduleOutbound outboxId leaseToken attempts maxAttempts
      retryAfterSeconds =>
      .ok (tables.rescheduleOutbound stamp outboxId leaseToken attempts
        maxAttempts retryAfterSeconds)
  | disconnectInstallation installationId accountId =>
      .ok (tables.disconnectInstallation installationId accountId)
  | markInstallationRevoked installationId =>
      .ok ((), tables.markInstallationRevoked installationId)

/-- The tables a call leaves: those of its block, or the old ones when the block
is rolled back. -/
def after (stamp : Stamp) (tables : SlackTables) (call : SlackCall) :
    SlackTables :=
  match call.body stamp tables with
  | .ok (_, changed) => changed
  | .error _ => tables

end SlackCall

end ContractMate
