import ContractMate.ContractIntake

/-!
# Which calls a part of the worker can make

Metrics touch processing runs and stages only, and the review of a stored
contract makes no call to the Slack tables, to the delivery or to the connection.
-/

namespace ContractMate

/-- Calls on the rows of processing runs and their stages. -/
def ReviewCall.measuring : ReviewCall → Prop
  | .database (.markWorkerStarted _) => True
  | .database (.recordAttemptFailure _) => True
  | .database (.markRun _ _) => True
  | .database (.latestActiveRun _ _) => True
  | .database (.upsertStage _ _) => True
  | .database (.getStage _ _) => True
  | .database (.updateStage _ _ _) => True
  | _ => False

/-- Calls to object store, parser, OCR provider, model and file system. -/
def ExternalCall.serves : ExternalCall → Prop
  | .createTempFile => True
  | .unlinkFile => True
  | .validateUploadedFile _ => True
  | .downloadContractFile _ => True
  | .parse _ _ _ => True
  | .ocrExtract _ => True
  | .createValidatedReview _ _ => True
  | _ => False

/-- Calls on the tables other than the Slack tables and the email outbox, and calls
to services. -/
def ReviewCall.reviewing : ReviewCall → Prop
  | .slack _ => False
  | .database (.enqueueEmail _) => False
  | .database _ => True
  | .external call => call.serves

theorem ReviewCall.measuring.reviewing {call : ReviewCall}
    (measures : call.measuring) : call.reviewing := by
  cases call with
  | slack call => exact measures
  | database call => cases call <;> trivial
  | external call => exact measures.elim

section Metrics

theorem startStage_calls (runId : Uuid) (stage : StageName) :
    (startStage runId stage).Calls ReviewCall.measuring := by
  refine Prog.Calls.perform trivial fun _ => ?_
  refine Prog.Calls.perform trivial fun persisted => ?_
  cases persisted with
  | none => exact Prog.calls_raise
  | some row => exact Prog.calls_pure

theorem completeStage_calls (runId : Uuid) (stage : StageName)
    (status : ProcessingStageStatus) :
    (completeStage runId stage status).Calls ReviewCall.measuring := by
  refine Prog.Calls.perform trivial fun found => ?_
  refine Prog.Calls.bind (.onlyIf fun _ => ?_) fun _ => ?_
  · exact (startStage_calls runId stage).bind fun _ => Prog.calls_pure
  · refine Prog.Calls.perform trivial fun _ => ?_
    refine Prog.Calls.perform trivial fun persisted => ?_
    cases persisted with
    | none => exact Prog.calls_raise
    | some row => exact Prog.calls_pure

theorem metricCall_calls {allowed : ReviewCall → Prop}
    {metric : ReviewProg Unit} (calls : metric.Calls allowed) :
    (metricCall metric).Calls allowed :=
  calls.tryExcept fun _ => Prog.calls_pure

theorem metricOfRun_calls {allowed : ReviewCall → Prop} (runId : Option Uuid)
    {metric : Uuid → ReviewProg Unit}
    (calls : ∀ runId, (metric runId).Calls allowed) :
    (metricOfRun runId metric).Calls allowed := by
  cases runId with
  | none => exact Prog.calls_pure
  | some runId => exact metricCall_calls (calls runId)

theorem metricWorkerStarted_calls (runId : Option Uuid) :
    (metricWorkerStarted runId).Calls ReviewCall.measuring :=
  metricOfRun_calls runId fun _ =>
    Prog.Calls.perform trivial fun _ => Prog.calls_pure

theorem metricStart_calls (runId : Option Uuid) (stage : StageName) :
    (metricStart runId stage).Calls ReviewCall.measuring :=
  metricOfRun_calls runId fun runId =>
    (startStage_calls runId stage).bind fun _ => Prog.calls_pure

theorem metricFinish_calls (runId : Option Uuid) (stage : StageName) :
    (metricFinish runId stage).Calls ReviewCall.measuring :=
  metricOfRun_calls runId fun runId => completeStage_calls runId stage _

theorem metricCompleted_calls (runId : Option Uuid) :
    (metricCompleted runId).Calls ReviewCall.measuring :=
  metricOfRun_calls runId fun _ =>
    Prog.Calls.perform trivial fun _ => Prog.calls_pure

theorem metricFailed_calls (runId : Option Uuid) :
    (metricFailed runId).Calls ReviewCall.measuring :=
  metricOfRun_calls runId fun _ =>
    Prog.Calls.perform trivial fun _ => Prog.calls_pure

theorem metricAttemptFailed_calls (runId : Option Uuid) (stage : StageName) :
    (metricAttemptFailed runId stage).Calls ReviewCall.measuring := by
  refine Prog.Calls.bind ?_ fun _ => ?_
  · exact metricOfRun_calls runId fun runId => completeStage_calls runId stage _
  · exact metricOfRun_calls runId fun _ =>
      Prog.Calls.perform trivial fun _ => Prog.calls_pure

theorem markLatestFailedForContract_calls (workspaceId : String)
    (contractId : Uuid) :
    (markLatestFailedForContract workspaceId contractId).Calls
      ReviewCall.measuring := by
  refine Prog.Calls.perform trivial fun latest => ?_
  cases latest with
  | none => exact Prog.calls_pure
  | some runId =>
      exact Prog.Calls.perform trivial fun _ => Prog.calls_pure

end Metrics

section Review

theorem callDatabase_calls {call : DatabaseCall}
    (reviews : (ReviewCall.database call).reviewing) :
    (callDatabase call).Calls ReviewCall.reviewing :=
  Prog.calls_perform reviews

theorem updateContractStatus_calls (contractId : Uuid)
    (status : WorkflowState) :
    (updateContractStatus contractId status).Calls ReviewCall.reviewing :=
  Prog.Calls.bind (callDatabase_calls trivial) fun _ => Prog.calls_pure

theorem recordAudit_calls (workspaceId : String) (contractId : Uuid)
    (eventType : AuditEventType) :
    (recordAudit workspaceId contractId eventType).Calls
      ReviewCall.reviewing :=
  Prog.Calls.bind (callDatabase_calls trivial) fun _ => Prog.calls_pure

theorem metric_reviewing {metric : ReviewProg Unit}
    (calls : metric.Calls ReviewCall.measuring) :
    metric.Calls ReviewCall.reviewing :=
  calls.mono fun _ => ReviewCall.measuring.reviewing

variable (settings : WorkerSettings) (ingested : IngestedContract)
  (runId : Option Uuid)

theorem extractText_calls (parsed : ParsedDocument) :
    (extractText settings ingested runId parsed).Calls
      ReviewCall.reviewing := by
  unfold extractText
  split
  · exact (updateContractStatus_calls _ _).bind fun _ => Prog.calls_pure
  · refine (recordAudit_calls _ _ _).bind fun _ => ?_
    refine Prog.Calls.handle ?_ fun result => ?_
    · exact (metric_reviewing (metricStart_calls _ _)).bind fun _ =>
        Prog.calls_perform trivial
    · cases result with
      | ok extracted =>
          refine (metric_reviewing (metricFinish_calls _ _)).bind fun _ => ?_
          refine Prog.Calls.bind (callDatabase_calls trivial) fun _ => ?_
          exact (recordAudit_calls _ _ _).bind fun _ => Prog.calls_pure
      | error error =>
          dsimp only
          split
          · refine (metric_reviewing (metricFailed_calls _)).bind fun _ => ?_
            refine (updateContractStatus_calls _ _).bind fun _ => ?_
            exact (recordAudit_calls _ _ _).bind fun _ => Prog.calls_pure
          · exact Prog.calls_raise

theorem analyseDocument_calls (document : ParsedDocument) :
    (analyseDocument ingested runId document).Calls ReviewCall.reviewing := by
  refine (updateContractStatus_calls _ _).bind fun _ => ?_
  refine (metric_reviewing (metricStart_calls _ _)).bind fun _ => ?_
  refine Prog.Calls.perform trivial fun validated => ?_
  refine (metric_reviewing (metricFinish_calls _ _)).bind fun _ => ?_
  refine (metric_reviewing (metricStart_calls _ _)).bind fun _ => ?_
  refine Prog.Calls.bind (callDatabase_calls trivial) fun _ => ?_
  exact (metric_reviewing (metricFinish_calls _ _)).bind fun _ =>
    Prog.calls_pure

theorem reviewIngestedFile_calls :
    (reviewIngestedFile settings ingested runId).Calls
      ReviewCall.reviewing := by
  refine (updateContractStatus_calls _ _).bind fun _ => ?_
  refine (metric_reviewing (metricStart_calls _ _)).bind fun _ => ?_
  refine Prog.Calls.perform trivial fun parsed => ?_
  refine (metric_reviewing (metricFinish_calls _ _)).bind fun _ => ?_
  refine Prog.Calls.bind (callDatabase_calls trivial) fun _ => ?_
  split
  · refine (extractText_calls settings ingested runId _).bind fun extracted => ?_
    cases extracted with
    | inl result => exact Prog.calls_pure
    | inr document => exact analyseDocument_calls ingested runId document
  · exact analyseDocument_calls ingested runId _

theorem reviewDownloadedFile_calls (contractId contractVersionId : Uuid)
    (workspaceId : String) (row : ContractVersionView) :
    (reviewDownloadedFile settings contractId contractVersionId workspaceId
      runId row).Calls ReviewCall.reviewing := by
  refine (metric_reviewing (metricWorkerStarted_calls _)).bind fun _ => ?_
  refine (metric_reviewing (metricStart_calls _ _)).bind fun _ => ?_
  refine Prog.Calls.perform trivial fun _ => ?_
  refine (metric_reviewing (metricFinish_calls _ _)).bind fun _ => ?_
  refine Prog.Calls.perform trivial fun validation => ?_
  split
  · exact Prog.calls_raise
  · refine (reviewIngestedFile_calls settings _ runId).bind fun result => ?_
    refine Prog.Calls.bind (.onlyIf fun _ => ?_) fun _ => Prog.calls_pure
    exact metric_reviewing (metricCompleted_calls _)

/-- Reviewing a stored contract leaves Slack tables, delivery and connection
alone. -/
theorem reviewStoredContract_calls (contractId contractVersionId : Uuid)
    (workspaceId : String) :
    (reviewStoredContract settings contractId contractVersionId workspaceId
      runId).Calls ReviewCall.reviewing := by
  refine Prog.Calls.bind (callDatabase_calls trivial) fun found => ?_
  split
  · exact Prog.calls_raise
  · refine Prog.Calls.bind (callDatabase_calls trivial) fun existing => ?_
    cases existing with
    | some review =>
        refine (updateContractStatus_calls _ _).bind fun _ => ?_
        refine (metric_reviewing (metricWorkerStarted_calls _)).bind fun _ => ?_
        exact (metric_reviewing (metricCompleted_calls _)).bind fun _ =>
          Prog.calls_pure
    | none =>
        refine Prog.Calls.perform trivial fun _ => ?_
        refine Prog.Calls.tryFinally ?_ (Prog.calls_perform trivial)
        refine (reviewDownloadedFile_calls settings runId _ _ _ _).tryExcept
          fun error => ?_
        exact (metric_reviewing (metricAttemptFailed_calls _ _)).bind fun _ =>
          Prog.calls_raise

theorem markAnalysisFailed_calls (contractId : Uuid) (workspaceId : String) :
    (markAnalysisFailed contractId workspaceId runId).Calls
      ReviewCall.reviewing := by
  refine Prog.Calls.bind ?_ fun _ => ?_
  · cases runId with
    | some runId => exact metric_reviewing (metricFailed_calls _)
    | none =>
        exact metric_reviewing
          (metricCall_calls (markLatestFailedForContract_calls _ _))
  · exact (updateContractStatus_calls _ _).bind fun _ => recordAudit_calls _ _ _

end Review

/-! ## The rest of the handler -/

/-- Every call but those that claim or complete an execution and those that open
or close the service. -/
def ReviewCall.steady : ReviewCall → Prop
  | .slack (.claimReviewExecution _ _) => False
  | .slack (.completeReviewExecution _ _) => False
  | .external .openService => False
  | .external .closeService => False
  | _ => True

/-- The calls that settle a delivery. -/
def ReviewCall.settling : ReviewCall → Prop
  | .external (.publishConfirmed _ _) => True
  | .external .basicAck => True
  | _ => False

theorem ReviewCall.reviewing.steady {call : ReviewCall}
    (reviews : call.reviewing) : call.steady := by
  cases call with
  | slack call => exact reviews.elim
  | database call => trivial
  | external call => cases call <;> trivial

theorem ReviewCall.settling.steady {call : ReviewCall}
    (settles : call.settling) : call.steady := by
  cases call with
  | slack call => exact settles.elim
  | database call => exact settles.elim
  | external call => cases call <;> trivial

section Handler

variable (settings : WorkerSettings) (job : ContractReviewJob)

theorem ackDelivery_calls : ackDelivery.Calls ReviewCall.settling :=
  Prog.calls_perform trivial

theorem republish_calls (route : PublishRoute) :
    (republish route job).Calls ReviewCall.settling :=
  Prog.Calls.perform trivial fun _ =>
    Prog.calls_perform trivial

theorem retryDelivery_calls :
    (retryDelivery settings job).Calls ReviewCall.settling := by
  unfold retryDelivery
  split
  · exact republish_calls _ _
  · exact republish_calls _ _

theorem renewExecution_calls (slackExecution : Option Uuid) :
    (renewExecution job slackExecution).Calls ReviewCall.steady := by
  cases slackExecution with
  | none => exact Prog.calls_pure
  | some token => exact Prog.calls_perform trivial

theorem queueSlackFailure_calls :
    (queueSlackFailure job).Calls ReviewCall.steady := by
  unfold queueSlackFailure
  split
  · exact Prog.calls_pure
  · refine Prog.Calls.perform trivial fun _ => ?_
    exact Prog.Calls.perform trivial fun _ => Prog.calls_pure

theorem queueReviewEmail_calls :
    (queueReviewEmail job).Calls ReviewCall.steady :=
  Prog.Calls.perform trivial fun _ => Prog.calls_pure

end Handler

/-! ## The handler's job -/

/-- Calls that queue an email and republish a job only for one job. -/
def ReviewCall.ofJob (jobId : Uuid) : ReviewCall → Prop
  | .database (.enqueueEmail intent) => intent.reviewJobId = jobId
  | .external (.publishConfirmed _ job) => job.jobId = jobId
  | .external (.enqueueJob _) => False
  | _ => True

theorem ReviewCall.reviewing.ofJob {call : ReviewCall} {jobId : Uuid}
    (reviews : call.reviewing) : call.ofJob jobId := by
  cases call with
  | slack call => trivial
  | database call => cases call <;> trivial
  | external call => cases call <;> trivial

section JobFootprint

variable (settings : WorkerSettings) (job : ContractReviewJob)

theorem reviewing_ofJob {Value : Type} {program : ReviewProg Value}
    (calls : program.Calls ReviewCall.reviewing) :
    program.Calls (ReviewCall.ofJob job.jobId) :=
  calls.mono fun _ reviews => reviews.ofJob

theorem republish_ofJob (route : PublishRoute) {republished : ContractReviewJob}
    (same : republished.jobId = job.jobId) :
    (republish route republished).Calls (ReviewCall.ofJob job.jobId) :=
  Prog.Calls.perform same fun _ => Prog.calls_perform trivial

theorem queueSlackFailure_ofJob :
    (queueSlackFailure job).Calls (ReviewCall.ofJob job.jobId) := by
  unfold queueSlackFailure
  split
  · exact Prog.calls_pure
  · refine Prog.Calls.perform trivial fun _ => ?_
    exact Prog.Calls.perform trivial fun _ => Prog.calls_pure

theorem renewExecution_ofJob (slackExecution : Option Uuid) :
    (renewExecution job slackExecution).Calls (ReviewCall.ofJob job.jobId) := by
  cases slackExecution with
  | none => exact Prog.calls_pure
  | some token => exact Prog.calls_perform trivial

theorem queueSlackReply_ofJob (slackExecution : Option Uuid)
    (result : ContractProcessingResult) :
    (queueSlackReply settings job slackExecution result).Calls
      (ReviewCall.ofJob job.jobId) := by
  refine (renewExecution_ofJob job slackExecution).bind fun owned => ?_
  split_ifs
  · exact Prog.calls_raise
  · unfold queueSlackReview
    split
    · exact Prog.calls_raise
    · refine Prog.Calls.perform trivial fun _ => ?_
      exact Prog.Calls.perform trivial fun _ => Prog.calls_pure
  · exact queueSlackFailure_ofJob job

theorem reviewAndReply_ofJob (slackExecution : Option Uuid) :
    (reviewAndReply settings job slackExecution).Calls
      (ReviewCall.ofJob job.jobId) := by
  refine Prog.Calls.bind (reviewing_ofJob job
    (reviewStoredContract_calls settings _ _ _ _)) fun result => ?_
  refine Prog.Calls.bind (.onlyIf fun _ => ?_) fun _ => ?_
  · exact Prog.Calls.perform rfl fun _ => Prog.calls_pure
  · refine Prog.Calls.bind (.onlyIf fun _ =>
      queueSlackReply_ofJob settings job slackExecution result) fun _ => ?_
    cases slackExecution with
    | none => exact Prog.calls_pure
    | some token =>
        refine Prog.Calls.perform trivial fun completed => ?_
        exact .onlyIf fun _ => Prog.calls_raise

theorem settleBody_ofJob {locals : WorkerLocals} {flow : Flow}
    {program : ReviewProg Unit}
    (calls : program.Calls (ReviewCall.ofJob job.jobId)) :
    (settleBody locals flow program).Calls (ReviewCall.ofJob job.jobId) :=
  calls.handle fun _ => Prog.calls_pure

theorem attemptDelivery_ofJob :
    (attemptDelivery settings job).Calls (ReviewCall.ofJob job.jobId) := by
  refine Prog.Calls.handle (Prog.calls_perform trivial) fun opened => ?_
  cases opened with
  | error error => exact Prog.calls_pure
  | ok _ =>
      dsimp only
      cases job.slackSubmission with
      | none =>
          exact settleBody_ofJob job (reviewAndReply_ofJob settings job none)
      | some key =>
          refine Prog.Calls.handle (Prog.calls_perform trivial) fun claimed => ?_
          cases claimed with
          | error error => exact Prog.calls_pure
          | ok claim =>
              dsimp only
              split
              · exact settleBody_ofJob job (Prog.calls_perform trivial)
              · exact settleBody_ofJob job (republish_ofJob job .retry rfl)
              · exact Prog.calls_pure
              · refine Prog.Calls.handle (Prog.calls_perform trivial)
                  fun created => ?_
                cases created with
                | error error => exact Prog.calls_pure
                | ok _ =>
                    apply settleBody_ofJob
                    refine Prog.Calls.perform trivial
                      fun _ => ?_
                    exact reviewAndReply_ofJob settings job _

theorem failAttempt_ofJob (locals : WorkerLocals) :
    (failAttempt settings job locals).Calls (ReviewCall.ofJob job.jobId) := by
  unfold failAttempt
  split
  · refine Prog.Calls.bind (reviewing_ofJob job (markAnalysisFailed_calls _ _ _))
      fun _ => ?_
    refine Prog.Calls.bind (.onlyIf fun _ => queueSlackFailure_ofJob job)
      fun _ => ?_
    cases locals.slackExecution with
    | none => exact Prog.calls_pure
    | some token =>
        exact Prog.Calls.perform trivial fun _ =>
          Prog.calls_pure
  · cases locals.slackExecution with
    | none => exact Prog.calls_pure
    | some token =>
        exact Prog.Calls.perform trivial fun _ =>
          Prog.calls_pure

theorem recoverDelivery_ofJob (locals : WorkerLocals) :
    (recoverDelivery settings job locals).Calls
      (ReviewCall.ofJob job.jobId) := by
  refine (renewExecution_ofJob job _).bind fun owned => ?_
  split
  · exact Prog.calls_perform trivial
  · refine (failAttempt_ofJob settings job locals).bind fun _ => ?_
    unfold retryDelivery
    split
    · exact republish_ofJob job .dead rfl
    · exact republish_ofJob job .retry rfl

/-- A delivery queues emails and republishes for its own job only. -/
theorem consumeDelivery_ofJob :
    (consumeDelivery settings job).Calls (ReviewCall.ofJob job.jobId) := by
  refine Prog.Calls.tryExcept ?_ fun _ =>
    Prog.Calls.tryExcept (Prog.calls_perform trivial) fun _ => Prog.calls_pure
  refine (attemptDelivery_ofJob settings job).bind fun attempt => ?_
  refine Prog.Calls.tryFinally ?_ ?_
  · cases attempt.2 with
    | error error => exact recoverDelivery_ofJob settings job attempt.1
    | ok flow =>
        cases flow with
        | returned => exact Prog.calls_pure
        | completed => exact Prog.calls_perform trivial
  · exact Prog.Calls.bind (.onlyIf fun _ => Prog.calls_perform trivial)
      fun _ => .onlyIf fun _ => Prog.calls_perform trivial

end JobFootprint

/-! ## The intake -/

/-- The calls before the contract is marked as queued. -/
def ReviewCall.gathering : ReviewCall → Prop
  | .database (.insertRun _ _ _ _ _) => False
  | .database (.updateContractStatus _ _) => False
  | .database (.enqueueEmail _) => False
  | .database _ => True
  | .slack (.getReviewExecutionStatus _) => True
  | .external (.validateUploadedFile _) => True
  | .external (.storeContractFile _ _) => True
  | _ => False

/-- The calls that look up what became of a submission. -/
def ReviewCall.inquiring : ReviewCall → Prop
  | .database (.getRunByJobId _) => True
  | .database (.getContractReview _ _) => True
  | .database (.getContractStatus _) => True
  | .slack (.getReviewExecutionStatus _) => True
  | _ => False

/-- The calls that record a run. -/
def ReviewCall.recording : ReviewCall → Prop
  | .database (.insertRun _ _ _ _ _) => True
  | .database (.getRun _) => True
  | _ => False

/-- The calls that hand a job over, with the outbox of Slack submissions or without. -/
def ReviewCall.publishing : ReviewCall → Prop
  | .slack _ => True
  | .external (.enqueueJob _) => True
  | _ => False

theorem ReviewCall.inquiring.gathering {call : ReviewCall}
    (inquires : call.inquiring) : call.gathering := by
  cases call with
  | slack call => cases call <;> exact inquires
  | database call => cases call <;> trivial
  | external call => exact inquires.elim

theorem ReviewCall.recording.reviewing {call : ReviewCall}
    (records : call.recording) : call.reviewing := by
  cases call with
  | slack call => exact records.elim
  | database call => cases call <;> trivial
  | external call => exact records.elim

section Intake

variable {request : IntakeRequest} {ingested : IngestedContract}

theorem createContractWithVersion_calls (contract : NewContract) :
    (createContractWithVersion contract).Calls ReviewCall.gathering := by
  refine Prog.Calls.perform trivial fun existing => ?_
  cases existing with
  | none => exact Prog.calls_perform trivial
  | some ids => exact Prog.calls_pure

theorem ingestLocalFile_calls :
    (ingestLocalFile request).Calls ReviewCall.gathering := by
  refine Prog.Calls.perform trivial fun validation => ?_
  split
  · exact Prog.calls_pure
  · split
    · refine Prog.Calls.bind ?_ fun _ => ?_
      · unfold storedObject
        split
        · exact Prog.calls_pure
        · exact Prog.calls_perform trivial
      · refine (createContractWithVersion_calls _).bind fun _ => ?_
        refine Prog.Calls.perform trivial fun _ => ?_
        refine Prog.Calls.bind (.onlyIf fun _ => Prog.calls_perform trivial)
          fun _ => ?_
        refine Prog.Calls.bind ?_ fun _ => Prog.calls_pure
        exact Prog.Calls.perform trivial fun _ =>
          Prog.calls_pure
    · exact Prog.calls_raise

theorem executionStatus_calls :
    (executionStatus request).Calls ReviewCall.inquiring := by
  unfold executionStatus
  split
  · exact Prog.calls_perform trivial
  · exact Prog.calls_pure

theorem existingRun_calls :
    (existingRun request).Calls ReviewCall.inquiring := by
  unfold existingRun
  split
  · exact Prog.calls_perform trivial
  · exact Prog.calls_pure

theorem completedSubmission_calls (run : Option ProcessingRun) :
    (completedSubmission ingested run).Calls ReviewCall.inquiring := by
  refine Prog.Calls.perform trivial fun _ => ?_
  exact Prog.Calls.perform trivial fun _ => Prog.calls_pure

/-- Calls that queue no email and republish no job. -/
def ReviewCall.submitting : ReviewCall → Prop
  | .database (.enqueueEmail _) => False
  | .external (.publishConfirmed _ _) => False
  | _ => True

variable {call : ReviewCall} {Value : Type} {program : ReviewProg Value}

theorem ReviewCall.gathering.submitting (gathers : call.gathering) : call.submitting := by
  cases call with
  | slack call => trivial
  | database call => cases call <;> trivial
  | external call => cases call <;> trivial

theorem ReviewCall.reviewing.submitting (reviews : call.reviewing) : call.submitting := by
  cases call with
  | slack call => trivial
  | database call => cases call <;> trivial
  | external call => cases call <;> trivial

theorem ReviewCall.publishing.submitting
    (publishes : call.publishing) : call.submitting := by
  cases call with
  | slack call => trivial
  | database call => exact publishes.elim
  | external call => cases call <;> trivial

theorem gathering_submitting (calls : program.Calls ReviewCall.gathering) :
    program.Calls ReviewCall.submitting :=
  calls.mono fun _ gathers => gathers.submitting

theorem inquiring_gathering (calls : program.Calls ReviewCall.inquiring) :
    program.Calls ReviewCall.gathering :=
  calls.mono fun _ inquires => inquires.gathering

theorem reviewing_submitting (calls : program.Calls ReviewCall.reviewing) :
    program.Calls ReviewCall.submitting :=
  calls.mono fun _ reviews => reviews.submitting

theorem publishReviewJobs_calls (items : List SlackReviewJobOutboxItem) :
    (publishReviewJobs items).Calls ReviewCall.publishing := by
  induction items with
  | nil => exact Prog.calls_pure
  | cons item items induction =>
      refine Prog.Calls.bind ?_ fun _ => induction
      refine Prog.Calls.handle ?_ fun result => ?_
      · refine Prog.Calls.perform trivial fun _ => ?_
        exact .onlyIf fun _ => Prog.calls_raise
      · cases result with
        | ok _ | error _ =>
            exact Prog.Calls.perform trivial fun _ =>
              Prog.calls_pure

theorem publishSubmission_calls (payload : JobPayload) :
    (publishSubmission request payload).Calls ReviewCall.publishing := by
  unfold publishSubmission
  split
  · refine Prog.Calls.perform trivial fun _ => ?_
    refine Prog.Calls.bind ?_ fun _ => Prog.calls_pure
    refine Prog.Calls.perform trivial fun items => ?_
    exact (publishReviewJobs_calls items).bind fun _ => Prog.calls_pure
  · exact Prog.Calls.perform trivial fun _ => Prog.calls_pure

theorem processingRun_calls (existing : Option ProcessingRun) :
    (processingRun request ingested existing).Calls ReviewCall.recording := by
  cases existing with
  | some run => exact Prog.calls_pure
  | none =>
      refine Prog.Calls.handle ?_ fun result => ?_
      · refine Prog.Calls.perform trivial fun _ => ?_
        refine Prog.Calls.perform trivial fun run => ?_
        cases run with
        | some run => exact Prog.calls_pure
        | none => exact Prog.calls_raise
      · cases result with
        | ok run => exact Prog.calls_pure
        | error error => exact Prog.calls_pure

/-- The part of `enqueue_local_file` after the publication. -/
def afterPublication (ingested : IngestedContract) (runId : Option Uuid) :
    Except Exn Uuid → ReviewProg ContractProcessingResult
  | .error error => do
      metricFailed runId
      updateContractStatus ingested.contractId .analysisFailed
      recordAudit ingested.workspaceId ingested.contractId .queueFailed
      .raise error
  | .ok jobId => do
      recordAudit ingested.workspaceId ingested.contractId .queued
      metricOfRun runId fun runId => do
        let _ ← callDatabase (.setRunJobId runId jobId)
        pure ()
      pure {
        contractId := ingested.contractId
        contractVersionId := ingested.contractVersionId
        status := .queued
        message := "Contract review has been queued."
        processingRunId := runId }

theorem queueReview_eq (existing : Option ProcessingRun) :
    queueReview request ingested existing = (do
      updateContractStatus ingested.contractId .queued
      let runId ← processingRun request ingested existing
      (publishSubmission request (jobPayload request ingested runId)).handle
        (afterPublication ingested runId)) :=
  rfl

theorem afterPublication_calls (ingested : IngestedContract) (runId : Option Uuid)
    (result : Except Exn Uuid) :
    (afterPublication ingested runId result).Calls ReviewCall.reviewing := by
  cases result with
  | error error =>
      refine Prog.Calls.bind (metric_reviewing (metricFailed_calls _))
        fun _ => ?_
      refine (updateContractStatus_calls _ _).bind fun _ => ?_
      exact (recordAudit_calls _ _ _).bind fun _ => Prog.calls_raise
  | ok jobId =>
      refine (recordAudit_calls _ _ _).bind fun _ => ?_
      refine Prog.Calls.bind (metricOfRun_calls runId fun _ => ?_)
        fun _ => Prog.calls_pure
      exact Prog.Calls.perform trivial fun _ => Prog.calls_pure

theorem queueReview_calls (existing : Option ProcessingRun) :
    (queueReview request ingested existing).Calls ReviewCall.submitting := by
  rw [queueReview_eq]
  refine Prog.Calls.bind
    (reviewing_submitting (updateContractStatus_calls _ _)) fun _ => ?_
  refine Prog.Calls.bind ((processingRun_calls existing).mono fun _ records =>
    records.reviewing.submitting) fun runId => ?_
  exact ((publishSubmission_calls _).mono fun _ publishes =>
    publishes.submitting).handle fun result =>
      reviewing_submitting (afterPublication_calls ingested runId result)

/-- The intake queues no email and republishes no job. -/
theorem enqueueLocalFile_calls (request : IntakeRequest) :
    (enqueueLocalFile request).Calls ReviewCall.submitting := by
  refine Prog.Calls.bind (gathering_submitting ingestLocalFile_calls)
    fun ingestion => ?_
  cases ingestion with
  | inl rejected => exact Prog.calls_pure
  | inr ingested =>
      refine Prog.Calls.bind
        (gathering_submitting (inquiring_gathering executionStatus_calls)) fun _ => ?_
      refine Prog.Calls.bind
        (gathering_submitting (inquiring_gathering existingRun_calls)) fun existing => ?_
      split
      · exact gathering_submitting
          (inquiring_gathering (completedSubmission_calls _))
      · cases existing with
        | none => exact queueReview_calls none
        | some run =>
            dsimp only
            split_ifs
            · exact Prog.calls_raise
            · exact Prog.calls_pure
            · exact queueReview_calls (some run)

end Intake

end ContractMate
