import ContractMate.ReviewCalls
import ContractMate.SlackRendering

/-!
# The contract review worker

`ContractWorker._process_delivery` and what it runs: the review of a stored
contract, the queueing of replies, the failure handler and the settling of the
delivery, as programs over repository and external calls.
-/

namespace ContractMate

/-- The settings that worker and processing service consult.  `ocrSupports` is
absent without an OCR backend. -/
structure WorkerSettings where
  topology : QueueTopology := {}
  frontendOrigin : String := ""
  ocrSupports : Option (String → Bool) := none
  emailFromAddress : String := ""

/-- `ContractProcessingResult`; an empty `contract_id` is `none`. -/
structure ContractProcessingResult where
  contractId : Option Uuid
  contractVersionId : Option Uuid
  status : WorkflowState
  review : Option ContractReview := none
  message : String
  processingRunId : Option Uuid := none

/-- `IngestedContract`. -/
structure IngestedContract where
  contractId : Uuid
  contractVersionId : Uuid
  workspaceId : String
  emailThreadId : String
  sourceChannel : SourceChannel
  requestedBy : String
  originalFilename : String
  mimeType : String
  sha256 : String
  objectKey : String

/-! ## Repository methods of several parts -/

/-- `ProcessingRunRepository.create_run`: an insert and a trailing read. -/
def createRun (workspaceId : String) (contractId contractVersionId : Uuid)
    (source : MetricsSource) (jobId : Option Uuid) :
    ReviewProg ProcessingRun := do
  let runId : Uuid ← callDatabase
    (.insertRun workspaceId contractId contractVersionId source jobId)
  let run : Option ProcessingRun ← callDatabase (.getRun runId)
  match run with
  | some run => pure run
  | none => .raise (Exn.runtimeError "Processing run could not be persisted")

/-- `start_stage`: an upsert and a trailing read. -/
def startStage (runId : Uuid) (stage : StageName) :
    ReviewProg ProcessingStageRow := do
  let _ ← callDatabase (.upsertStage runId stage)
  let persisted : Option ProcessingStageRow ←
    callDatabase (.getStage runId stage)
  match persisted with
  | some row => pure row
  | none => .raise (Exn.runtimeError "Processing stage could not be persisted")

/-- `complete_stage`: starts the stage first when it is missing. -/
def completeStage (runId : Uuid) (stage : StageName)
    (status : ProcessingStageStatus) : ReviewProg Unit := do
  let found : Option ProcessingStageRow ← callDatabase (.getStage runId stage)
  Prog.onlyIf found.isNone do
    let _ ← startStage runId stage
    pure ()
  let _ ← callDatabase (.updateStage runId stage status)
  let persisted : Option ProcessingStageRow ←
    callDatabase (.getStage runId stage)
  match persisted with
  | some _ => pure ()
  | none => .raise (Exn.runtimeError "Processing stage could not be completed")

/-- `mark_latest_failed_for_contract`. -/
def markLatestFailedForContract (workspaceId : String) (contractId : Uuid) :
    ReviewProg Unit := do
  let latest : Option Uuid ←
    callDatabase (.latestActiveRun workspaceId contractId)
  match latest with
  | some runId =>
      let _ ← callDatabase (.markRun runId .failed)
      pure ()
  | none => pure ()

/-! ## Metrics -/

/-- `_metric_call`: a metric that cannot be persisted is only logged. -/
def metricCall (metric : ReviewProg Unit) : ReviewProg Unit :=
  metric.tryExcept fun _ => pure ()

/-- A metric of a run; without a run there is nothing to record. -/
def metricOfRun (runId : Option Uuid) (metric : Uuid → ReviewProg Unit) :
    ReviewProg Unit :=
  match runId with
  | some runId => metricCall (metric runId)
  | none => pure ()

def metricWorkerStarted (runId : Option Uuid) : ReviewProg Unit :=
  metricOfRun runId fun runId => do
    let _ ← callDatabase (.markWorkerStarted runId)
    pure ()

def metricStart (runId : Option Uuid) (stage : StageName) : ReviewProg Unit :=
  metricOfRun runId fun runId => do
    let _ ← startStage runId stage
    pure ()

def metricFinish (runId : Option Uuid) (stage : StageName) : ReviewProg Unit :=
  metricOfRun runId fun runId => completeStage runId stage .succeeded

def metricCompleted (runId : Option Uuid) : ReviewProg Unit :=
  metricOfRun runId fun runId => do
    let _ ← callDatabase (.markRun runId .succeeded)
    pure ()

def metricFailed (runId : Option Uuid) : ReviewProg Unit :=
  metricOfRun runId fun runId => do
    let _ ← callDatabase (.markRun runId .failed)
    pure ()

/-- `_metric_attempt_failed`: two metrics, each on its own. -/
def metricAttemptFailed (runId : Option Uuid) (stage : StageName) :
    ReviewProg Unit := do
  metricOfRun runId fun runId => completeStage runId stage .failed
  metricOfRun runId fun runId => do
    let _ ← callDatabase (.recordAttemptFailure runId)
    pure ()

/-! ## Reviewing a stored contract -/

def updateContractStatus (contractId : Uuid) (status : WorkflowState) :
    ReviewProg Unit := do
  let _ ← callDatabase (.updateContractStatus contractId status)
  pure ()

def recordAudit (workspaceId : String) (contractId : Uuid)
    (eventType : AuditEventType) : ReviewProg Unit := do
  let _ ← callDatabase (.recordAudit workspaceId contractId eventType)
  pure ()

/-- The OCR branch of `_review_ingested_file`: the extracted document, or the
result with which the review ends. -/
def extractText (settings : WorkerSettings) (ingested : IngestedContract)
    (runId : Option Uuid) (parsed : ParsedDocument) :
    ReviewProg (ContractProcessingResult ⊕ ParsedDocument) := do
  if !(settings.ocrSupports.any fun supports => supports parsed.mimeType) then
    updateContractStatus ingested.contractId .ocrRequired
    pure (.inl {
      contractId := ingested.contractId
      contractVersionId := ingested.contractVersionId
      status := .ocrRequired
      message :=
        "The document requires OCR, but no compatible OCR provider is enabled." })
  else
    recordAudit ingested.workspaceId ingested.contractId .ocrStarted
    let attempt : ReviewProg ParsedDocument := do
      metricStart runId .ocr
      callExternal (.ocrExtract parsed)
    -- Only OCR errors end the review here; others reach the caller.
    attempt.handle fun
      | .ok extracted => do
          metricFinish runId .ocr
          let _ ← callDatabase
            (.saveParsedDocument ingested.contractVersionId extracted)
          recordAudit ingested.workspaceId ingested.contractId .ocrCompleted
          pure (.inr extracted)
      | .error error =>
          if error.kind = .ocrProcessingError then do
            metricFailed runId
            updateContractStatus ingested.contractId .parseFailed
            recordAudit ingested.workspaceId ingested.contractId .ocrFailed
            pure (.inl {
              contractId := ingested.contractId
              contractVersionId := ingested.contractVersionId
              status := .parseFailed
              message :=
                "OCR could not process the document: " ++ error.message })
          else
            .raise error

/-- The model review and its persistence, the last part of
`_review_ingested_file`. -/
def analyseDocument (ingested : IngestedContract) (runId : Option Uuid)
    (document : ParsedDocument) : ReviewProg ContractProcessingResult := do
  updateContractStatus ingested.contractId .analysing
  metricStart runId .review
  let validated : EvidenceValidationResult ←
    callExternal (.createValidatedReview ingested.contractId document)
  metricFinish runId .review
  metricStart runId .reviewPersist
  let _ ← callDatabase (.finalizeContractReview ingested.workspaceId
    ingested.contractId ingested.contractVersionId validated.validReview
    (if validated.issues.isEmpty then "valid"
      else "valid_with_removed_findings"))
  metricFinish runId .reviewPersist
  pure {
    contractId := ingested.contractId
    contractVersionId := ingested.contractVersionId
    status := .reviewReady
    review := some validated.validReview
    message := "Contract review is ready."
    processingRunId := runId }

/-- `_review_ingested_file`. -/
def reviewIngestedFile (settings : WorkerSettings)
    (ingested : IngestedContract) (runId : Option Uuid) :
    ReviewProg ContractProcessingResult := do
  updateContractStatus ingested.contractId .parsing
  metricStart runId .parsing
  let parsed : ParsedDocument ← callExternal
    (.parse ingested.contractId ingested.sha256 ingested.mimeType)
  metricFinish runId .parsing
  let _ ← callDatabase (.saveParsedDocument ingested.contractVersionId parsed)
  if parsed.requiresOcr then
    let extracted ← extractText settings ingested runId parsed
    match extracted with
    | .inl result => pure result
    | .inr document => analyseDocument ingested runId document
  else
    analyseDocument ingested runId parsed

/-- The part of `review_stored_contract` that works on a temporary file. -/
def reviewDownloadedFile (settings : WorkerSettings)
    (contractId contractVersionId : Uuid) (workspaceId : String)
    (runId : Option Uuid) (row : ContractVersionView) :
    ReviewProg ContractProcessingResult := do
  metricWorkerStarted runId
  metricStart runId .documentDownload
  let _ ← callExternal (.downloadContractFile row.version.objectKey)
  metricFinish runId .documentDownload
  let validation : FileValidation ←
    callExternal (.validateUploadedFile (some row.version.mimeType))
  if !validation.ok || validation.sha256 ≠ some row.version.sha256 then
    .raise (Exn.valueError
      "Stored contract failed integrity validation before review.")
  else
    let result ← reviewIngestedFile settings {
      contractId, contractVersionId, workspaceId
      emailThreadId := row.emailThreadId, sourceChannel := .browser
      requestedBy := row.createdBy
      originalFilename := row.version.originalFilename
      mimeType := row.version.mimeType, sha256 := row.version.sha256
      objectKey := row.version.objectKey } runId
    Prog.onlyIf (result.status ≠ .parseFailed) (metricCompleted runId)
    pure { result with processingRunId := runId }

/-- `review_stored_contract`. -/
def reviewStoredContract (settings : WorkerSettings)
    (contractId contractVersionId : Uuid) (workspaceId : String)
    (runId : Option Uuid) : ReviewProg ContractProcessingResult := do
  let found : Option ContractVersionView ←
    callDatabase (.getContractVersion contractId contractVersionId)
  match found.filter fun row => row.workspaceId = workspaceId with
  | none =>
      .raise (Exn.valueError
        "Queued contract version was not found in the expected workspace.")
  | some row =>
      let existing : Option ContractReview ←
        callDatabase (.getContractReview contractId contractVersionId)
      match existing with
      | some review =>
          updateContractStatus contractId .reviewReady
          metricWorkerStarted runId
          metricCompleted runId
          pure {
            contractId, contractVersionId
            status := .reviewReady
            review := some review
            message := "Contract review is already ready."
            processingRunId := runId }
      | none =>
          let _ ← callExternal .createTempFile
          let attempt := (reviewDownloadedFile settings contractId
              contractVersionId workspaceId runId row).tryExcept fun error => do
            metricAttemptFailed runId .review
            .raise error
          attempt.tryFinally (callExternal .unlinkFile)

/-- The metric of `mark_analysis_failed`: of the given run, or of the latest
active one. -/
def markRunFailed (contractId : Uuid) (workspaceId : String)
    (runId : Option Uuid) : ReviewProg Unit :=
  match runId with
  | some _ => metricFailed runId
  | none => metricCall (markLatestFailedForContract workspaceId contractId)

/-- `mark_analysis_failed`. -/
def markAnalysisFailed (contractId : Uuid) (workspaceId : String)
    (runId : Option Uuid) : ReviewProg Unit := do
  markRunFailed contractId workspaceId runId
  updateContractStatus contractId .analysisFailed
  recordAudit workspaceId contractId .analysisFailed

/-! ## Replies -/

/-- `source_submission_key or job_id`. -/
def ContractReviewJob.replySource (job : ContractReviewJob) : ReplySource :=
  match truthy job.sourceSubmissionKey with
  | some key => .submission key
  | none => .job job.jobId

/-- `_contract_url`. -/
def contractUrl (settings : WorkerSettings) (contractId : Uuid) : ContractUrl :=
  ⟨String.ofList (settings.frontendOrigin.toList.rdropWhile (· = '/')),
    contractId⟩

/-- The file name a reply mentions. -/
def replyFilename (row : Option ContractVersionView) : String :=
  (row.map fun row => row.version.originalFilename).getD "contract"

/-- `_queue_slack_review`. -/
def queueSlackReview (settings : WorkerSettings) (job : ContractReviewJob)
    (result : ContractProcessingResult) : ReviewProg Unit :=
  match job.replyTarget with
  | none =>
      .raise (Exn.valueError "Slack review job is missing its reply target")
  | some (installationId, channelId, threadTs) => do
      let row : Option ContractVersionView ←
        callDatabase (.getContractVersion job.contractId job.contractVersionId)
      let message := SlackRendering.reviewMessage result.review
        (replyFilename row) (contractUrl settings job.contractId) result.message
      let _ ← callSlack (.enqueueOutbound {
        workspaceId := job.workspaceId, installationId, channelId, threadTs
        messageType := .review, textBody := message.1, blocks := some message.2
        contractId := job.contractId
        contractVersionId := job.contractVersionId
        idempotencyKey := .review job.replySource })
      pure ()

/-- `_queue_slack_failure`: without a reply target there is nobody to tell. -/
def queueSlackFailure (job : ContractReviewJob) : ReviewProg Unit :=
  match job.replyTarget with
  | none => pure ()
  | some (installationId, channelId, threadTs) => do
      let row : Option ContractVersionView ←
        callDatabase (.getContractVersion job.contractId job.contractVersionId)
      let message := SlackRendering.failureMessage (replyFilename row)
      let _ ← callSlack (.enqueueOutbound {
        workspaceId := job.workspaceId, installationId, channelId, threadTs
        messageType := .failure, textBody := message.1, blocks := some message.2
        contractId := job.contractId
        contractVersionId := job.contractVersionId
        idempotencyKey := .failure job.replySource })
      pure ()

/-- `_queue_review_email`. -/
def queueReviewEmail (job : ContractReviewJob) : ReviewProg Unit := do
  let _ ← callDatabase (.enqueueEmail {
    workspaceId := job.workspaceId, contractId := job.contractId
    contractVersionId := job.contractVersionId, threadKey := job.emailThreadId
    toAddress := (truthy job.responseAddress).getD job.requestedBy
    inReplyTo := job.inReplyTo, references := job.references
    reviewJobId := job.jobId })
  pure ()

/-! ## Settling the delivery -/

/-- `delivery.ack()`. -/
def ackDelivery : ReviewProg Unit :=
  callExternal .basicAck

/-- `channel.basic_nack(requeue=True)`. -/
def nackDelivery : ReviewProg Unit :=
  callExternal .basicNack

/-- Publish under confirmation, then acknowledge. -/
def republish (route : PublishRoute) (job : ContractReviewJob) :
    ReviewProg Unit := do
  let _ ← callExternal (.publishConfirmed route job)
  callExternal .basicAck

/-- `delivery.retry()`: dead-letters a job whose attempts are used up. -/
def retryDelivery (settings : WorkerSettings) (job : ContractReviewJob) :
    ReviewProg Unit :=
  if settings.topology.maxAttempts ≤ job.attempt then
    republish .dead job
  else
    republish .retry { job with attempt := job.attempt + 1 }

/-- `delivery.retry_contention()`. -/
def retryContention (job : ContractReviewJob) : ReviewProg Unit :=
  republish .retry job

/-! ## The delivery handler -/

/-- The local variables of the handler that its clauses share. -/
structure WorkerLocals where
  service : Bool := false
  slackExecution : Option Uuid := none
  heartbeat : Bool := false

/-- How the `try` body ends without an exception. -/
inductive Flow where
  | returned
  | completed

/-- `source_submission_key or ""`. -/
def ContractReviewJob.executionKey (job : ContractReviewJob) : String :=
  (truthy job.sourceSubmissionKey).getD ""

/-- `if slack_execution and not renew_review_execution(…)`: whether the worker
may go on. -/
def renewExecution (job : ContractReviewJob) (slackExecution : Option Uuid) :
    ReviewProg Bool :=
  match slackExecution with
  | some token =>
      callSlack (.renewReviewExecution job.executionKey token 900)
  | none => pure true

def leaseChanged : Exn :=
  Exn.runtimeError "Slack review execution lease ownership changed"

/-- The Slack part of the `try` body after the review. -/
def queueSlackReply (settings : WorkerSettings) (job : ContractReviewJob)
    (slackExecution : Option Uuid) (result : ContractProcessingResult) :
    ReviewProg Unit := do
  let owned ← renewExecution job slackExecution
  if !owned then
    .raise leaseChanged
  else if result.status = .reviewReady then
    queueSlackReview settings job result
  else
    queueSlackFailure job

/-- The completion that ends the `try` body. -/
def completeExecution (job : ContractReviewJob)
    (slackExecution : Option Uuid) : ReviewProg Unit :=
  match slackExecution with
  | none => pure ()
  | some token => do
      let completed : Bool ←
        callSlack (.completeReviewExecution job.executionKey token)
      Prog.onlyIf (!completed) (.raise leaseChanged)

/-- The `try` body from the review on. -/
def reviewAndReply (settings : WorkerSettings) (job : ContractReviewJob)
    (slackExecution : Option Uuid) : ReviewProg Unit := do
  let result ← reviewStoredContract settings job.contractId
    job.contractVersionId job.workspaceId job.processingRunId
  Prog.onlyIf job.sendReviewEmail (queueReviewEmail job)
  Prog.onlyIf (job.sourceChannel = .slack)
    (queueSlackReply settings job slackExecution result)
  completeExecution job slackExecution

/-- Record how a part of the `try` body ended, with the locals it leaves. -/
def settleBody (locals : WorkerLocals) (flow : Flow)
    (program : ReviewProg Unit) :
    ReviewProg (WorkerLocals × Except Exn Flow) :=
  program.handle fun result =>
    pure (locals, result.map fun _ => flow)

/-- The `try` body after a claimed execution. -/
def attemptOwned (settings : WorkerSettings) (job : ContractReviewJob)
    (key : String) (token : Uuid) :
    ReviewProg (WorkerLocals × Except Exn Flow) :=
  (callExternal (.createHeartbeat key token)).handle fun
    | .error error => pure (⟨true, some token, false⟩, .error error)
    | .ok _ => settleBody ⟨true, some token, true⟩ .completed do
        let _ ← callExternal .startHeartbeat
        reviewAndReply settings job (some token)

/-- The `try` body of the handler. -/
def attemptDelivery (settings : WorkerSettings) (job : ContractReviewJob) :
    ReviewProg (WorkerLocals × Except Exn Flow) :=
  (callExternal .openService).handle fun
    | .error error => pure ({}, .error error)
    | .ok _ =>
        match job.slackSubmission with
        | none =>
            settleBody ⟨true, none, false⟩ .completed
              (reviewAndReply settings job none)
        | some key =>
            let claiming : ReviewProg SlackLeaseClaim :=
              callSlack (.claimReviewExecution key 900)
            claiming.handle fun
              | .error error => pure (⟨true, none, false⟩, .error error)
              | .ok claim =>
                  match claim.status, claim.leaseToken with
                  | .completed, _ =>
                      settleBody ⟨true, none, false⟩ .returned ackDelivery
                  | .busy, _ =>
                      settleBody ⟨true, none, false⟩ .returned
                        (retryContention job)
                  | .claimed, none =>
                      pure (⟨true, none, false⟩, .error Exn.assertionError)
                  | .claimed, some token => attemptOwned settings job key token

/-- The database part of the `except` clause of a worker that is still
responsible. -/
def failAttempt (settings : WorkerSettings) (job : ContractReviewJob)
    (locals : WorkerLocals) : ReviewProg Unit := do
  if locals.service && settings.topology.maxAttempts ≤ job.attempt then
    markAnalysisFailed job.contractId job.workspaceId job.processingRunId
    Prog.onlyIf (job.sourceChannel = .slack) (queueSlackFailure job)
    match locals.slackExecution with
    | some token =>
        let _ ← callSlack (.completeReviewExecution job.executionKey token)
        pure ()
    | none => pure ()
  else
    match locals.slackExecution with
    | some token =>
        let _ ← callSlack (.releaseReviewExecution job.executionKey token)
        pure ()
    | none => pure ()

/-- The `except` clause: a stale worker only acknowledges. -/
def recoverDelivery (settings : WorkerSettings) (job : ContractReviewJob)
    (locals : WorkerLocals) : ReviewProg Unit := do
  let owned ← renewExecution job locals.slackExecution
  if !owned then
    ackDelivery
  else
    failAttempt settings job locals
    retryDelivery settings job

/-- The `finally` clause. -/
def closeDelivery (locals : WorkerLocals) : ReviewProg Unit := do
  Prog.onlyIf locals.heartbeat (callExternal .stopHeartbeat)
  Prog.onlyIf locals.service (callExternal .closeService)

/-- The `else` and `except` clauses. -/
def settleDelivery (settings : WorkerSettings) (job : ContractReviewJob)
    (locals : WorkerLocals) : Except Exn Flow → ReviewProg Unit
  | .ok .returned => pure ()
  | .ok .completed => ackDelivery
  | .error _ => recoverDelivery settings job locals

/-- `_process_delivery`. -/
def processDelivery (settings : WorkerSettings) (job : ContractReviewJob) :
    ReviewProg Unit := do
  let attempt ← attemptDelivery settings job
  (settleDelivery settings job attempt.1 attempt.2).tryFinally
    (closeDelivery attempt.1)

/-- The callback of `consume`: an exception of the handler requeues the
delivery, if the channel still can. -/
def consumeDelivery (settings : WorkerSettings) (job : ContractReviewJob) :
    ReviewProg Unit :=
  (processDelivery settings job).tryExcept fun _ =>
    nackDelivery.tryExcept fun _ => pure ()

/-! ## A sample job -/

def sampleJob : ContractReviewJob where
  jobId := ⟨0, 1⟩
  contractId := ⟨0, 2⟩
  contractVersionId := ⟨0, 3⟩
  workspaceId := "W1"
  emailThreadId := "slack:C1:T1"
  requestedBy := "ana@example.com"
  sourceChannel := .slack
  slackInstallationId := some "I1"
  slackChannelId := some "C1"
  slackThreadTs := some "T1"
  sourceSubmissionKey := some "E1:F1"

def sampleReview : ContractReview where
  contractId := "K1"
  contractType := "lease"
  recommendedNextAction := "sign"

/-- The contract of the sample job, queued and not reviewed yet. -/
def sampleDatabase : ReviewDatabase :=
  { (default : ReviewDatabase) with
    contracts := ⟨[{
      id := ⟨0, 2⟩, workspaceId := "W1", emailThreadId := "slack:C1:T1"
      title := "lease.pdf", status := .queued, currentVersionId := ⟨0, 3⟩
      createdBy := "ana@example.com" }], List.nodup_singleton _⟩
    versions := ⟨[{
      id := ⟨0, 3⟩, contractId := ⟨0, 2⟩, originalFilename := "lease.pdf"
      mimeType := "application/pdf", sizeBytes := 1, sha256 := "00"
      objectKey := "W1/00", uploadedBy := "ana@example.com"
      createdAt := 0 }], List.nodup_singleton _⟩ }

/-- The same contract with its review. -/
def reviewedDatabase : ReviewDatabase :=
  { sampleDatabase with
    reviews := ⟨[{
      contractVersionId := ⟨0, 3⟩, id := ⟨0, 4⟩, review := sampleReview
      status := "valid", createdAt := 0 }], List.nodup_singleton _⟩ }

end ContractMate
