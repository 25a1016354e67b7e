import ContractMate.ContractWorker

/-!
# Contract intake

`ContractProcessingService.enqueue_local_file` with the parts it runs, the
dispatcher of durable review envelopes, and the handling of one Slack attachment.
-/

namespace ContractMate

/-- The arguments of `enqueue_local_file` that describe the submission. -/
structure IntakeRequest where
  workspaceId : String
  emailThreadId : String
  requestedBy : String
  declaredMimeType : Option String := none
  displayFilename : String
  storedObjectKey : Option String := none
  sendReviewEmail : Bool := false
  recipientName : Option String := none
  responseAddress : Option String := none
  originalSubject : Option String := none
  inReplyTo : Option String := none
  references : Option String := none
  sourceChannel : SourceChannel := .browser
  slackInstallationId : Option String := none
  slackChannelId : Option String := none
  slackThreadTs : Option String := none
  sourceSubmissionKey : Option String := none
  reviewJobId : Option Uuid := none
deriving DecidableEq, Repr

/-! ## Ingesting a file -/

/-- `create_contract_with_version`: a lookup, then two inserts in one block. -/
def createContractWithVersion (contract : NewContract) :
    ReviewProg (Uuid × Uuid) := do
  let existing : Option (Uuid × Uuid) ← callDatabase
    (.findContract contract.workspaceId contract.sha256)
  match existing with
  | some ids => pure ids
  | none => callDatabase (.insertContract contract)

/-- `validation.message or validation.error_code or "File rejected."`. -/
def FileValidation.rejection (validation : FileValidation) : String :=
  ((truthy validation.message).or (truthy validation.errorCode)).getD
    "File rejected."

/-- The object key: that of a stored object, or of the newly stored file. -/
def storedObject (request : IntakeRequest) (sha256 : String) :
    ReviewProg String :=
  match truthy request.storedObjectKey with
  | some objectKey => pure objectKey
  | none => callExternal (.storeContractFile request.workspaceId sha256)

/-- `_ingest_local_file`. -/
def ingestLocalFile (request : IntakeRequest) :
    ReviewProg (ContractProcessingResult ⊕ IngestedContract) := do
  let validation : FileValidation ←
    callExternal (.validateUploadedFile request.declaredMimeType)
  if !validation.ok then
    pure (.inl {
      contractId := none, contractVersionId := none, status := .rejectedFile
      message := validation.rejection })
  else
    match truthy validation.sha256, truthy validation.mimeType with
    | some sha256, some mimeType => do
        let objectKey ← storedObject request sha256
        let ids ← createContractWithVersion {
          workspaceId := request.workspaceId
          emailThreadId := request.emailThreadId
          title := request.displayFilename
          originalFilename := request.displayFilename
          mimeType, sizeBytes := validation.sizeBytes, sha256, objectKey
          uploadedBy := request.requestedBy }
        let source : Option ContractSourceRow ←
          callDatabase (.getContractSource ids.1)
        Prog.onlyIf source.isNone
          (callDatabase (.upsertContractSource ids.1 request.sourceChannel
            request.emailThreadId))
        recordAudit request.workspaceId ids.1 .received
        pure (.inr {
          contractId := ids.1, contractVersionId := ids.2
          workspaceId := request.workspaceId
          emailThreadId := request.emailThreadId
          sourceChannel := request.sourceChannel
          requestedBy := request.requestedBy
          originalFilename := request.displayFilename
          mimeType, sha256, objectKey })
    | _, _ => .raise Exn.assertionError

/-! ## Publishing durable envelopes -/

/-- One item of `drain_once`: publish it and record the outcome. -/
def publishReviewJob (item : SlackReviewJobOutboxItem) : ReviewProg Unit :=
  let publishing : ReviewProg Unit := do
    let job : ContractReviewJob ← callExternal (.enqueueJob item.payload)
    Prog.onlyIf (job.jobId ≠ item.jobId)
      (.raise (Exn.runtimeError
        "RabbitMQ returned a different stable review job identifier"))
  publishing.handle fun
    | .error _ => do
        let _ ← callSlack (.retryReviewJobPublish item.submissionKey
          item.leaseToken item.attempts)
        pure ()
    | .ok _ => do
        let _ ← callSlack
          (.markReviewJobPublished item.submissionKey item.leaseToken)
        pure ()

/-- The loop of `drain_once`. -/
def publishReviewJobs : List SlackReviewJobOutboxItem → ReviewProg Unit
  | [] => pure ()
  | item :: items => do
      publishReviewJob item
      publishReviewJobs items

/-- `SlackReviewPublishDispatcher.drain_once`. -/
def drainOnce (limit : Int) : ReviewProg Nat := do
  let items : List SlackReviewJobOutboxItem ←
    callSlack (.claimDueReviewJobs limit 60)
  publishReviewJobs items
  pure items.length

/-! ## Queueing a review -/

/-- The source under which a run is recorded. -/
def metricsSource : SourceChannel → MetricsSource
  | .slack => .slack
  | .email => .inboundEmail
  | .browser => .browserUpload

/-- `_queue_processing_run`: best effort. -/
def queueProcessingRun (ingested : IngestedContract) (jobId : Option Uuid) :
    ReviewProg (Option Uuid) :=
  (createRun ingested.workspaceId ingested.contractId
      ingested.contractVersionId (metricsSource ingested.sourceChannel)
      jobId).handle fun
    | .ok run => pure (some run.id)
    | .error _ => pure none

/-- The envelope of a submission. -/
def jobPayload (request : IntakeRequest) (ingested : IngestedContract)
    (runId : Option Uuid) : JobPayload where
  jobId := request.reviewJobId
  contractId := ingested.contractId
  contractVersionId := ingested.contractVersionId
  workspaceId := ingested.workspaceId
  emailThreadId := ingested.emailThreadId
  requestedBy := ingested.requestedBy
  recipientName := request.recipientName
  responseAddress := request.responseAddress
  originalSubject := request.originalSubject
  inReplyTo := request.inReplyTo
  references := request.references
  sendReviewEmail := request.sendReviewEmail
  processingRunId := runId
  sourceChannel := request.sourceChannel
  sourceThreadKey := some ingested.emailThreadId
  slackInstallationId := request.slackInstallationId
  slackChannelId := request.slackChannelId
  slackThreadTs := request.slackThreadTs
  sourceSubmissionKey := request.sourceSubmissionKey

/-- The submission key and job of a request whose envelope is kept durably. -/
def IntakeRequest.durable (request : IntakeRequest) : Option (String × Uuid) :=
  if request.sourceChannel = .slack then
    match truthy request.sourceSubmissionKey, request.reviewJobId with
    | some key, some jobId => some (key, jobId)
    | _, _ => none
  else
    none

/-- The `try` body around the publication; returns the published job. -/
def publishSubmission (request : IntakeRequest) (payload : JobPayload) :
    ReviewProg Uuid :=
  match request.durable with
  | some (key, jobId) => do
      let _ ← callSlack (.persistReviewJob key jobId payload)
      let _ ← drainOnce 10
      pure jobId
  | none => do
      let job : ContractReviewJob ← callExternal (.enqueueJob payload)
      pure job.jobId

/-- The run of the envelope: the one found, or a new one. -/
def processingRun (request : IntakeRequest) (ingested : IngestedContract)
    (existingRun : Option ProcessingRun) : ReviewProg (Option Uuid) :=
  match existingRun with
  | some run => pure (some run.id)
  | none => queueProcessingRun ingested request.reviewJobId

/-- `enqueue_local_file` from the status write on. -/
def queueReview (request : IntakeRequest) (ingested : IngestedContract)
    (existingRun : Option ProcessingRun) :
    ReviewProg ContractProcessingResult := do
  updateContractStatus ingested.contractId .queued
  let runId ← processingRun request ingested existingRun
  let publishing := publishSubmission request
    (jobPayload request ingested runId)
  publishing.handle fun
    | .error error => do
        metricFailed runId
        updateContractStatus ingested.contractId .analysisFailed
        recordAudit ingested.workspaceId ingested.contractId .queueFailed
        .raise error
    | .ok jobId => do
        recordAudit ingested.workspaceId ingested.contractId .queued
        metricOfRun runId fun runId => do
          let _ ← callDatabase (.setRunJobId runId jobId)
          pure ()
        pure {
          contractId := ingested.contractId
          contractVersionId := ingested.contractVersionId
          status := .queued
          message := "Contract review has been queued."
          processingRunId := runId }

/-- The answer for a submission whose execution is completed. -/
def completedSubmission (ingested : IngestedContract)
    (existingRun : Option ProcessingRun) :
    ReviewProg ContractProcessingResult := do
  let review : Option ContractReview ← callDatabase
    (.getContractReview ingested.contractId ingested.contractVersionId)
  let status : Option WorkflowState ←
    callDatabase (.getContractStatus ingested.contractId)
  pure {
    contractId := ingested.contractId
    contractVersionId := ingested.contractVersionId
    status := status.getD
      (if review.isSome then .reviewReady else .analysisFailed)
    review
    message :=
      if review.isSome then "Contract review is already ready."
      else "Contract processing has already completed."
    processingRunId := existingRun.map ProcessingRun.id }

/-- A run that belongs to the ingested contract. -/
def ProcessingRun.belongsTo (run : ProcessingRun)
    (ingested : IngestedContract) : Bool :=
  run.workspaceId = ingested.workspaceId &&
    run.contractId = ingested.contractId &&
    run.contractVersionId = ingested.contractVersionId

/-- `execution_status`. -/
def executionStatus (request : IntakeRequest) :
    ReviewProg (Option SubmissionStatus) :=
  match truthy request.sourceSubmissionKey with
  | some key => callSlack (.getReviewExecutionStatus key)
  | none => pure none

/-- `existing_run`. -/
def existingRun (request : IntakeRequest) :
    ReviewProg (Option ProcessingRun) :=
  match request.reviewJobId with
  | some jobId => callDatabase (.getRunByJobId jobId)
  | none => pure none

/-- `enqueue_local_file` after the ingestion. -/
def submitIngested (request : IntakeRequest) (ingested : IngestedContract) :
    ReviewProg ContractProcessingResult := do
  let executionStatus ← executionStatus request
  let existingRun ← existingRun request
  if executionStatus = some .completed then
    completedSubmission ingested existingRun
  else
    match existingRun with
    | some run =>
        if !run.belongsTo ingested then
          .raise (Exn.valueError
            "Stable review job identifier belongs to a different contract submission.")
        else if executionStatus = some .processing then
          pure {
            contractId := ingested.contractId
            contractVersionId := ingested.contractVersionId
            status := .queued
            message := "Contract review is already being processed."
            processingRunId := some run.id }
        else
          queueReview request ingested existingRun
    | none => queueReview request ingested existingRun

/-- `enqueue_local_file`. -/
def enqueueLocalFile (request : IntakeRequest) :
    ReviewProg ContractProcessingResult := do
  let ingestion ← ingestLocalFile request
  match ingestion with
  | .inl rejected => pure rejected
  | .inr ingested => submitIngested request ingested

/-! ## One Slack attachment -/

/-- What `_process_file` knows about the event and its sender. -/
structure SlackSubmission where
  eventId : String
  fileId : Option String
  fileIndex : Nat
  installationId : String
  workspaceId : String
  accountEmail : String
  channelId : String
  threadTs : String
  sourceKey : String
  reviewJobId : Uuid
  maxFileSizeMb : Nat
deriving DecidableEq, Repr

namespace SlackSubmission

/-- `file_key`. -/
def fileKey (submission : SlackSubmission) : String :=
  (truthy submission.fileId).getD (toString submission.fileIndex)

/-- `{event_id}:{file_key}`. -/
def key (submission : SlackSubmission) : String :=
  submission.eventId ++ ":" ++ submission.fileKey

/-- The `enqueue_local_file` arguments of the submission. -/
def request (submission : SlackSubmission) (file : LiveFile) :
    IntakeRequest where
  workspaceId := submission.workspaceId
  emailThreadId := submission.sourceKey
  requestedBy := submission.accountEmail
  declaredMimeType := truthy file.mimeType
  displayFilename := file.filename
  sourceChannel := .slack
  slackInstallationId := some submission.installationId
  slackChannelId := some submission.channelId
  slackThreadTs := some submission.threadTs
  sourceSubmissionKey := some submission.key
  reviewJobId := some submission.reviewJobId

end SlackSubmission

/-- `_queue_rejection`. -/
def queueRejection (submission : SlackSubmission) (message : String) :
    ReviewProg Unit := do
  let rendered := SlackRendering.rejectionMessage message
  let _ ← callSlack (.enqueueOutbound {
    workspaceId := submission.workspaceId
    installationId := submission.installationId
    channelId := submission.channelId
    threadTs := submission.threadTs
    messageType := .failure, textBody := rendered.1, blocks := some rendered.2
    idempotencyKey := .rejection submission.key })
  pure ()

/-- The `try` body of `_process_file`. -/
def submitSlackFile (submission : SlackSubmission) (file : LiveFile) :
    ReviewProg Unit := do
  let _ ← callExternal (.downloadSlackFile file.url)
  let validation : FileValidation ←
    callExternal (.validateUploadedFile (truthy file.mimeType))
  if !validation.ok then
    .raise (Exn.valueError
      ((truthy validation.message).getD "file validation failed"))
  else
    let receipt := SlackRendering.receiptMessage file.filename
    let _ ← callSlack (.enqueueOutbound {
      workspaceId := submission.workspaceId
      installationId := submission.installationId
      channelId := submission.channelId
      threadTs := submission.threadTs
      messageType := .receipt, textBody := receipt.1, blocks := some receipt.2
      idempotencyKey := .receipt submission.key })
    let result ← enqueueLocalFile (submission.request file)
    Prog.onlyIf result.contractId.isNone
      (queueRejection submission (file.filename ++ ": " ++ result.message))

/-- `_process_file`: HTTP and value errors become a rejection message. -/
def processFile (submission : SlackSubmission) : ReviewProg Unit :=
  match truthy submission.fileId with
  | none =>
      queueRejection submission
        "A Slack attachment was missing its file identifier."
  | some fileId => do
      let file : LiveFile ← callExternal (.filesInfo fileId)
      if (submission.maxFileSizeMb : Int) * 1024 * 1024 < file.declaredSize then
        queueRejection submission (file.filename ++ " exceeds the " ++
          toString submission.maxFileSizeMb ++ " MB limit.")
      else
        let _ ← callExternal .createTempFile
        let submitting := (submitSlackFile submission file).tryExcept
          fun error =>
            if error.kind = .httpError ∨ error.kind = .valueError then
              queueRejection submission (file.filename ++
                " could not be downloaded or validated: " ++ error.message)
            else
              .raise error
        submitting.tryFinally (callExternal .unlinkFile)

end ContractMate
