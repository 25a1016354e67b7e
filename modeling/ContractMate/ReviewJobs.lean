import Mathlib

/-!
# Review jobs

The values that pass between the intake, the broker, the workers and the
database: identifiers, the clock a repository call reads, exceptions, workflow
states and the job envelope.
-/

namespace ContractMate

/-- A value drawn by `uuid4()`.  Repository calls are numbered in the order in
which they start, so a draw is known by its call and its position there; no two
draws coincide. -/
structure Uuid where
  call : Nat
  position : Nat
deriving DecidableEq, Repr

namespace Uuid

/-- The order in which identifiers sort in an `ORDER BY`. -/
def le (first second : Uuid) : Bool :=
  first.call < second.call ||
    (first.call == second.call && first.position ≤ second.position)

end Uuid

/-- What a repository call reads from outside the database: the time of
`datetime.now(timezone.utc)` and `CURRENT_TIMESTAMP`, in microseconds, and its
own number. -/
structure Stamp where
  now : Int
  call : Nat
deriving DecidableEq, Repr

/-- The identifiers a call draws, in order. -/
def Stamp.uuid4 (stamp : Stamp) (position : Nat) : Uuid :=
  ⟨stamp.call, position⟩

/-- `timedelta(seconds=…)` in microseconds. -/
def seconds (count : Int) : Int :=
  count * 1000000

/-- The exception classes that the modelled handlers tell apart. -/
inductive ExnKind where
  | valueError
  | runtimeError
  | assertionError
  | httpError
  | ocrProcessingError
  | databaseError
  | brokerError
  | invalidInboundSender
  | superAdminInboundRejected
  | permanentAttachmentRejection
  | slackFileSubmissionBusy
  | otherError
deriving DecidableEq, Repr

/-- A raised exception; `message` is what `str(exc)` gives. -/
structure Exn where
  kind : ExnKind
  message : String
deriving DecidableEq, Repr

namespace Exn

def valueError (message : String) : Exn := ⟨.valueError, message⟩
def runtimeError (message : String) : Exn := ⟨.runtimeError, message⟩
def assertionError : Exn := ⟨.assertionError, ""⟩

/-- The error a unique constraint raises. -/
def uniqueViolation (constraint : String) : Exn :=
  ⟨.databaseError,
    "duplicate key value violates unique constraint " ++ constraint⟩

end Exn

/-- `WorkflowState`. -/
inductive WorkflowState where
  | received
  | validating
  | rejectedFile
  | queued
  | parsing
  | ocrRequired
  | parseFailed
  | analysing
  | analysisFailed
  | validatingEvidence
  | reviewReady
  | draftRequested
  | awaitingApproval
  | rejectedAction
  | approvedAction
  | completed
deriving DecidableEq, Repr

namespace WorkflowState

/-- `_ACTIVE_PROCESSING_STATES`: contracts that may not be deleted yet. -/
def activeProcessing : WorkflowState → Bool
  | received | validating | queued | parsing | analysing
  | validatingEvidence => true
  | _ => false

end WorkflowState

/-- `source_channel`. -/
inductive SourceChannel where
  | browser
  | email
  | slack
deriving DecidableEq, Repr

/-- The truthy part of an optional text: absent and empty texts count alike. -/
def truthy (value : Option String) : Option String :=
  value.filter fun text => text ≠ ""

/-- `ContractReviewJob`. -/
structure ContractReviewJob where
  jobId : Uuid
  contractId : Uuid
  contractVersionId : Uuid
  workspaceId : String
  emailThreadId : String
  requestedBy : String
  sourceChannel : SourceChannel := .email
  sourceThreadKey : Option String := none
  slackInstallationId : Option String := none
  slackChannelId : Option String := none
  slackThreadTs : Option String := none
  sourceSubmissionKey : Option String := none
  recipientName : Option String := none
  responseAddress : Option String := none
  originalSubject : Option String := none
  inReplyTo : Option String := none
  references : Option String := none
  sendReviewEmail : Bool := false
  processingRunId : Option Uuid := none
  attempt : Int := 1
deriving DecidableEq, Repr

namespace ContractReviewJob

/-- The submission key of a job that goes through a Slack execution:
`source_channel == "slack" and source_submission_key`. -/
def slackSubmission (job : ContractReviewJob) : Option String :=
  if job.sourceChannel = .slack then truthy job.sourceSubmissionKey else none

/-- `slack_installation_id`, `slack_channel_id` and `slack_thread_ts`, when
none of them is missing. -/
def replyTarget (job : ContractReviewJob) :
    Option (String × String × String) :=
  match truthy job.slackInstallationId, truthy job.slackChannelId,
      truthy job.slackThreadTs with
  | some installation, some channel, some thread =>
      some (installation, channel, thread)
  | _, _, _ => none

end ContractReviewJob

/-- The `job_payload` dictionary, keyed by the argument names of
`queue.enqueue`. -/
structure JobPayload where
  jobId : Option Uuid
  contractId : Uuid
  contractVersionId : Uuid
  workspaceId : String
  emailThreadId : String
  requestedBy : String
  recipientName : Option String
  responseAddress : Option String
  originalSubject : Option String
  inReplyTo : Option String
  references : Option String
  sendReviewEmail : Bool
  processingRunId : Option Uuid
  sourceChannel : SourceChannel
  sourceThreadKey : Option String
  slackInstallationId : Option String
  slackChannelId : Option String
  slackThreadTs : Option String
  sourceSubmissionKey : Option String
deriving DecidableEq, Repr

/-- The job `queue.enqueue(**payload)` publishes; `drawn` is the identifier used
when the payload carries none. -/
def JobPayload.toJob (payload : JobPayload) (drawn : Uuid) :
    ContractReviewJob where
  jobId := payload.jobId.getD drawn
  contractId := payload.contractId
  contractVersionId := payload.contractVersionId
  workspaceId := payload.workspaceId
  emailThreadId := payload.emailThreadId
  requestedBy := payload.requestedBy
  sourceChannel := payload.sourceChannel
  sourceThreadKey := payload.sourceThreadKey
  slackInstallationId := payload.slackInstallationId
  slackChannelId := payload.slackChannelId
  slackThreadTs := payload.slackThreadTs
  sourceSubmissionKey := payload.sourceSubmissionKey
  recipientName := payload.recipientName
  responseAddress := payload.responseAddress
  originalSubject := payload.originalSubject
  inReplyTo := payload.inReplyTo
  references := payload.references
  sendReviewEmail := payload.sendReviewEmail
  processingRunId := payload.processingRunId

theorem three_attempts : (1 : Int) ≤ 3 := by
  decide

/-- The part of `QueueTopology` that the deliveries consult; pydantic rejects
`max_attempts` below one. -/
structure QueueTopology where
  maxAttempts : Int := 3
  maxAttempts_pos : 1 ≤ maxAttempts := by first | exact three_attempts | decide

end ContractMate
