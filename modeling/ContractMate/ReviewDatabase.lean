import ContractMate.ReviewSchemas
import ContractMate.SlackCalls

/-!
# The review database

The tables behind contract intake and review, and the statements that the
contract, source, audit, processing-run and email repositories run on them.  A
`DatabaseCall` is what one transaction block, or one statement outside a block,
does; repository methods that consist of several such parts are programs over
them.
-/

namespace ContractMate

structure ContractRow where
  id : Uuid
  workspaceId : String
  emailThreadId : String
  title : String
  status : WorkflowState
  currentVersionId : Uuid
  createdBy : String
deriving DecidableEq, Repr

structure ContractVersionRow where
  id : Uuid
  contractId : Uuid
  originalFilename : String
  mimeType : String
  sizeBytes : Nat
  sha256 : String
  objectKey : String
  uploadedBy : String
  createdAt : Int
deriving DecidableEq, Repr

structure ContractReviewRow where
  contractVersionId : Uuid
  id : Uuid
  review : ContractReview
  status : String
  createdAt : Int
deriving DecidableEq

structure ParsedDocumentRow where
  contractVersionId : Uuid
  id : Uuid
  document : ParsedDocument
deriving DecidableEq

structure ContractSourceRow where
  contractId : Uuid
  sourceChannel : SourceChannel
  sourceThreadKey : String
deriving DecidableEq, Repr

structure KnowledgeIntentRow where
  id : Uuid
  workspaceId : String
  contractId : Uuid
  contractVersionId : Uuid
deriving DecidableEq, Repr

/-- `UNIQUE(workspace_id, contract_version_id)`. -/
abbrev KnowledgeIntentRow.key (row : KnowledgeIntentRow) : String × Uuid :=
  (row.workspaceId, row.contractVersionId)

/-- The event types that intake and review record. -/
inductive AuditEventType where
  | received
  | queueFailed
  | queued
  | analysisFailed
  | ocrStarted
  | ocrFailed
  | ocrCompleted
  | reviewReady
deriving DecidableEq, Repr

structure AuditEventRow where
  id : Uuid
  workspaceId : String
  contractId : Uuid
  eventType : AuditEventType
deriving DecidableEq, Repr

/-- `contract_processing_runs.source`. -/
inductive MetricsSource where
  | slack
  | inboundEmail
  | browserUpload
deriving DecidableEq, Repr

/-- `ProcessingRunStatus`. -/
inductive ProcessingRunStatus where
  | queued
  | running
  | succeeded
  | failed
deriving DecidableEq, Repr

/-- The columns of a processing run that intake reads back. -/
structure ProcessingRun where
  id : Uuid
  workspaceId : String
  contractId : Uuid
  contractVersionId : Uuid
  jobId : Option Uuid
  source : MetricsSource
  status : ProcessingRunStatus := .queued
  queuedAt : Int
deriving DecidableEq, Repr

/-- The stages of a processing run. -/
inductive StageName where
  | documentDownload
  | parsing
  | ocr
  | review
  | reviewPersist
deriving DecidableEq, Repr

/-- `ProcessingStageStatus`, without the unused `skipped`. -/
inductive ProcessingStageStatus where
  | running
  | succeeded
  | failed
deriving DecidableEq, Repr

structure ProcessingStageRow where
  runId : Uuid
  stage : StageName
  status : ProcessingStageStatus
deriving DecidableEq, Repr

/-- `UNIQUE(processing_run_id, stage)`. -/
abbrev ProcessingStageRow.key (row : ProcessingStageRow) : Uuid × StageName :=
  (row.runId, row.stage)

/-- The part of `OutboundEmailIntent` that is not rendered text. -/
structure OutboundEmailIntent where
  workspaceId : String
  contractId : Uuid
  contractVersionId : Uuid
  threadKey : String
  toAddress : String
  inReplyTo : Option String
  references : Option String
  reviewJobId : Uuid
deriving DecidableEq, Repr

/-- A queued review email; `review:{job_id}` is its idempotency key. -/
structure OutboundEmailRow where
  reviewJobId : Uuid
  id : Uuid
  intent : OutboundEmailIntent
  threadPosition : Int
deriving DecidableEq, Repr

/-- The database behind intake and review. -/
structure ReviewDatabase where
  slack : SlackTables
  contracts : RowTable ContractRow.id
  versions : RowTable ContractVersionRow.id
  reviews : RowTable ContractReviewRow.contractVersionId
  documents : RowTable ParsedDocumentRow.contractVersionId
  sources : RowTable ContractSourceRow.contractId
  intents : RowTable KnowledgeIntentRow.key
  audit : List AuditEventRow
  runs : RowTable ProcessingRun.id
  stages : RowTable ProcessingStageRow.key
  emails : RowTable OutboundEmailRow.reviewJobId

instance : Inhabited ReviewDatabase where
  default := ⟨default, default, default, default, default, default, default, [],
    default, default, default⟩

/-- The row `get_contract_version` joins from version and contract. -/
structure ContractVersionView where
  version : ContractVersionRow
  workspaceId : String
  emailThreadId : String
  createdBy : String
  title : String
deriving DecidableEq, Repr

/-- The arguments of `create_contract_with_version`. -/
structure NewContract where
  workspaceId : String
  emailThreadId : String
  title : String
  originalFilename : String
  mimeType : String
  sizeBytes : Nat
  sha256 : String
  objectKey : String
  uploadedBy : String
deriving DecidableEq, Repr

/-- One transaction block or one bare statement. -/
inductive DatabaseCall where
  | findContract (workspaceId sha256 : String)
  | insertContract (contract : NewContract)
  | updateContractStatus (contractId : Uuid) (status : WorkflowState)
  | getContractStatus (contractId : Uuid)
  | getContractVersion (contractId contractVersionId : Uuid)
  | getContractReview (contractId contractVersionId : Uuid)
  | saveParsedDocument (contractVersionId : Uuid) (document : ParsedDocument)
  | finalizeContractReview (workspaceId : String)
      (contractId contractVersionId : Uuid) (review : ContractReview)
      (reviewStatus : String)
  | getContractSource (contractId : Uuid)
  | upsertContractSource (contractId : Uuid) (sourceChannel : SourceChannel)
      (sourceThreadKey : String)
  | recordAudit (workspaceId : String) (contractId : Uuid)
      (eventType : AuditEventType)
  | insertRun (workspaceId : String) (contractId contractVersionId : Uuid)
      (source : MetricsSource) (jobId : Option Uuid)
  | getRun (runId : Uuid)
  | getRunByJobId (jobId : Uuid)
  | setRunJobId (runId jobId : Uuid)
  | markWorkerStarted (runId : Uuid)
  | recordAttemptFailure (runId : Uuid)
  | markRun (runId : Uuid) (status : ProcessingRunStatus)
  | latestActiveRun (workspaceId : String) (contractId : Uuid)
  | upsertStage (runId : Uuid) (stage : StageName)
  | getStage (runId : Uuid) (stage : StageName)
  | updateStage (runId : Uuid) (stage : StageName)
      (status : ProcessingStageStatus)
  | enqueueEmail (intent : OutboundEmailIntent)

/-- How a call meets the connection: a statement outside any block, a block that
ends in `connection.commit()`, or a block under `connection.transaction()`. -/
inductive BlockKind where
  | bare
  | commits
  | nested
deriving DecidableEq, Repr

namespace DatabaseCall

def Ret : DatabaseCall → Type
  | findContract .. => Option (Uuid × Uuid)
  | insertContract .. => Uuid × Uuid
  | getContractStatus .. => Option WorkflowState
  | getContractVersion .. => Option ContractVersionView
  | getContractReview .. => Option ContractReview
  | getContractSource .. => Option ContractSourceRow
  | insertRun .. => Uuid
  | getRun .. | getRunByJobId .. => Option ProcessingRun
  | setRunJobId .. | markWorkerStarted .. | recordAttemptFailure ..
  | markRun .. => Bool
  | latestActiveRun .. => Option Uuid
  | getStage .. => Option ProcessingStageRow
  | _ => Unit

def kind : DatabaseCall → BlockKind
  | findContract .. | getContractStatus .. | getContractVersion ..
  | getContractReview .. | getContractSource .. | upsertContractSource ..
  | getRun .. | getRunByJobId .. | latestActiveRun .. | getStage .. => .bare
  | _ => .commits

end DatabaseCall

namespace ReviewDatabase

/-- The newest version with given bytes among a workspace's contracts. -/
def findContract (database : ReviewDatabase) (workspaceId sha256 : String) :
    Option (Uuid × Uuid) :=
  let versions := database.versions.select fun version =>
    version.sha256 = sha256 &&
      (database.contracts.find? version.contractId).any fun contract =>
        contract.workspaceId = workspaceId
  ((orderedFirst versions ContractVersionRow.createdAt
      (fun first second => second ≤ first) 1).head?).map fun version =>
    (version.contractId, version.id)

/-- The two inserts of `create_contract_with_version`. -/
def insertContract (database : ReviewDatabase) (stamp : Stamp)
    (contract : NewContract) : Except Exn ((Uuid × Uuid) × ReviewDatabase) :=
  let contractId := stamp.uuid4 0
  let versionId := stamp.uuid4 1
  match database.contracts.insert?
      { id := contractId, workspaceId := contract.workspaceId
        emailThreadId := contract.emailThreadId, title := contract.title
        status := .received, currentVersionId := versionId
        createdBy := contract.uploadedBy },
    database.versions.insert?
      { id := versionId, contractId
        originalFilename := contract.originalFilename
        mimeType := contract.mimeType, sizeBytes := contract.sizeBytes
        sha256 := contract.sha256, objectKey := contract.objectKey
        uploadedBy := contract.uploadedBy, createdAt := stamp.now } with
  | some contracts, some versions =>
      .ok ((contractId, versionId), { database with contracts, versions })
  | _, _ => .error (Exn.uniqueViolation "contracts_pkey")

/-- `update_contract_status`. -/
def updateContractStatus (database : ReviewDatabase) (contractId : Uuid)
    (status : WorkflowState) : ReviewDatabase :=
  { database with
    contracts := database.contracts.updateWhere
      (fun row => row.id = contractId)
      ⟨fun row => { row with status }, fun _ => rfl⟩ }

/-- `get_contract_status`. -/
def getContractStatus (database : ReviewDatabase) (contractId : Uuid) :
    Option WorkflowState :=
  (database.contracts.find? contractId).map ContractRow.status

/-- `get_contract_version`. -/
def getContractVersion (database : ReviewDatabase)
    (contractId contractVersionId : Uuid) : Option ContractVersionView := do
  let version ← database.versions.find? contractVersionId
  let contract ← database.contracts.find? contractId
  if version.contractId = contract.id then
    some {
      version, workspaceId := contract.workspaceId
      emailThreadId := contract.emailThreadId, createdBy := contract.createdBy
      title := contract.title }
  else
    none

/-- `get_contract_review` for one version. -/
def getContractReview (database : ReviewDatabase)
    (contractId contractVersionId : Uuid) : Option ContractReview := do
  let row ← database.reviews.find? contractVersionId
  let version ← database.versions.find? contractVersionId
  if version.contractId = contractId then some row.review else none

/-- `save_parsed_document`. -/
def saveParsedDocument (database : ReviewDatabase) (stamp : Stamp)
    (contractVersionId : Uuid) (document : ParsedDocument) : ReviewDatabase :=
  { database with
    documents := database.documents.upsert
      { contractVersionId, id := stamp.uuid4 0, document }
      ⟨fun row => { row with id := stamp.uuid4 0, document }, fun _ => rfl⟩ }

/-- `SELECT 1` of `finalize_contract_review`. -/
def isCurrentVersion (database : ReviewDatabase) (workspaceId : String)
    (contractId contractVersionId : Uuid) : Bool :=
  (database.contracts.find? contractId).any fun contract =>
    contract.workspaceId = workspaceId &&
      contract.currentVersionId = contractVersionId &&
      (database.versions.find? contractVersionId).any fun version =>
        version.contractId = contractId

/-- `finalize_contract_review`: review, status, audit event and index intent. -/
def finalizeContractReview (database : ReviewDatabase) (stamp : Stamp)
    (workspaceId : String) (contractId contractVersionId : Uuid)
    (review : ContractReview) (reviewStatus : String) :
    Except Exn ReviewDatabase :=
  if database.isCurrentVersion workspaceId contractId contractVersionId then
    .ok { database with
      reviews := database.reviews.upsert
        { contractVersionId, id := stamp.uuid4 0, review
          status := reviewStatus, createdAt := stamp.now }
        ⟨fun row =>
          { row with id := stamp.uuid4 0, review, status := reviewStatus },
          fun _ => rfl⟩
      contracts := database.contracts.updateWhere
        (fun row =>
          row.workspaceId = workspaceId && row.id = contractId &&
            row.currentVersionId = contractVersionId)
        ⟨fun row => { row with status := .reviewReady }, fun _ => rfl⟩
      audit := database.audit ++
        [{ id := stamp.uuid4 1, workspaceId, contractId
           eventType := .reviewReady }]
      intents := database.intents.insertIgnore
        { id := stamp.uuid4 2, workspaceId, contractId, contractVersionId } }
  else
    .error (Exn.valueError
      "Contract version is not the current version in the expected workspace.")

/-- `ContractSourceRepository.upsert`. -/
def upsertContractSource (database : ReviewDatabase) (contractId : Uuid)
    (sourceChannel : SourceChannel) (sourceThreadKey : String) :
    ReviewDatabase :=
  { database with
    sources := database.sources.upsert
      { contractId, sourceChannel, sourceThreadKey }
      ⟨fun row => { row with sourceChannel, sourceThreadKey }, fun _ => rfl⟩ }

/-- `AuditService.record`. -/
def recordAudit (database : ReviewDatabase) (stamp : Stamp)
    (workspaceId : String) (contractId : Uuid) (eventType : AuditEventType) :
    ReviewDatabase :=
  { database with
    audit := database.audit ++
      [{ id := stamp.uuid4 0, workspaceId, contractId, eventType }] }

/-! ## Processing runs -/

/-- The insert of `create_run`. -/
def insertRun (database : ReviewDatabase) (stamp : Stamp)
    (workspaceId : String) (contractId contractVersionId : Uuid)
    (source : MetricsSource) (jobId : Option Uuid) :
    Except Exn (Uuid × ReviewDatabase) :=
  match database.runs.insert?
      { id := stamp.uuid4 0, workspaceId, contractId, contractVersionId, jobId
        source, queuedAt := stamp.now } with
  | some runs => .ok (stamp.uuid4 0, { database with runs })
  | none => .error (Exn.uniqueViolation "contract_processing_runs_pkey")

/-- `ORDER BY queued_at DESC, id DESC LIMIT 1`. -/
def newestRun (runs : List ProcessingRun) : Option ProcessingRun :=
  (orderedFirst runs (fun run => (run.queuedAt, run.id))
    (fun first second =>
      second.1 < first.1 || (first.1 == second.1 && second.2.le first.2))
    1).head?

/-- `get_by_job_id`. -/
def getRunByJobId (database : ReviewDatabase) (jobId : Uuid) :
    Option ProcessingRun :=
  newestRun (database.runs.select fun run => run.jobId = some jobId)

/-- `set_job_id`: only a run without a job takes one. -/
def setRunJobId (database : ReviewDatabase) (runId jobId : Uuid) :
    Bool × ReviewDatabase :=
  let updated := updateOne database.runs runId (fun run => run.jobId.isNone)
    ⟨fun run => { run with jobId := some jobId }, fun _ => rfl⟩
  (updated.1, { database with runs := updated.2 })

/-- A run that may still be marked. -/
def runActive (run : ProcessingRun) : Bool :=
  run.status = .queued || run.status = .running

/-- `mark_worker_started`, `record_attempt_failure`, `mark_succeeded` and
`mark_failed`: an active run takes the given status. -/
def markRun (database : ReviewDatabase) (runId : Uuid)
    (status : ProcessingRunStatus) : Bool × ReviewDatabase :=
  let updated := updateOne database.runs runId runActive
    ⟨fun run => { run with status }, fun _ => rfl⟩
  (updated.1, { database with runs := updated.2 })

/-- The `SELECT` of `mark_latest_failed_for_contract`. -/
def latestActiveRun (database : ReviewDatabase) (workspaceId : String)
    (contractId : Uuid) : Option Uuid :=
  (newestRun (database.runs.select fun run =>
    run.workspaceId = workspaceId && run.contractId = contractId &&
      runActive run)).map ProcessingRun.id

/-- The upsert of `start_stage`. -/
def upsertStage (database : ReviewDatabase) (runId : Uuid)
    (stage : StageName) : ReviewDatabase :=
  { database with
    stages := database.stages.upsert { runId, stage, status := .running }
      ⟨fun row => { row with status := .running }, fun _ => rfl⟩ }

/-- The update of `complete_stage`. -/
def updateStage (database : ReviewDatabase) (runId : Uuid) (stage : StageName)
    (status : ProcessingStageStatus) : ReviewDatabase :=
  { database with
    stages := database.stages.updateWhere
      (fun row => row.runId = runId && row.stage = stage)
      ⟨fun row => { row with status }, fun _ => rfl⟩ }

/-- `OutboundEmailOutboxRepository.enqueue`, for a review email. -/
def enqueueEmail (database : ReviewDatabase) (stamp : Stamp)
    (intent : OutboundEmailIntent) : ReviewDatabase :=
  let last := ((database.emails.select fun row =>
      row.intent.threadKey = intent.threadKey).map
    OutboundEmailRow.threadPosition).max?.getD 0
  { database with
    emails := database.emails.insertIgnore
      { reviewJobId := intent.reviewJobId, id := stamp.uuid4 0, intent
        threadPosition := last + 1 } }

/-! ## The rows of a new contract -/

section NewRows

variable {database after : ReviewDatabase} {stamp : Stamp} {contract : NewContract}
  {ids : Uuid × Uuid}

/-- The rows that `create_contract_with_version` inserts. -/
def newContractRow (stamp : Stamp) (contract : NewContract) : ContractRow where
  id := stamp.uuid4 0
  workspaceId := contract.workspaceId
  emailThreadId := contract.emailThreadId
  title := contract.title
  status := .received
  currentVersionId := stamp.uuid4 1
  createdBy := contract.uploadedBy

def newVersionRow (stamp : Stamp) (contract : NewContract) : ContractVersionRow where
  id := stamp.uuid4 1
  contractId := stamp.uuid4 0
  originalFilename := contract.originalFilename
  mimeType := contract.mimeType
  sizeBytes := contract.sizeBytes
  sha256 := contract.sha256
  objectKey := contract.objectKey
  uploadedBy := contract.uploadedBy
  createdAt := stamp.now

/-- What the insert of a contract does when it succeeds. -/
theorem insertContract_ok
    (inserted : database.insertContract stamp contract = .ok (ids, after)) :
    ids = (stamp.uuid4 0, stamp.uuid4 1) ∧
      ∃ contracts versions,
        database.contracts.insert? (newContractRow stamp contract) = some contracts ∧
        database.versions.insert? (newVersionRow stamp contract) = some versions ∧
        after = { database with contracts, versions } := by
  unfold insertContract at inserted
  simp only at inserted
  split at inserted
  · rename_i contracts versions contractInserted versionInserted
    cases inserted
    exact ⟨rfl, contracts, versions, contractInserted, versionInserted, rfl⟩
  · cases inserted

end NewRows

end ReviewDatabase

namespace DatabaseCall

/-- The body of a block or statement. -/
def body (stamp : Stamp) (database : ReviewDatabase) :
    (call : DatabaseCall) → Except Exn (call.Ret × ReviewDatabase)
  | findContract workspaceId sha256 =>
      .ok (database.findContract workspaceId sha256, database)
  | insertContract contract => database.insertContract stamp contract
  | updateContractStatus contractId status =>
      .ok ((), database.updateContractStatus contractId status)
  | getContractStatus contractId =>
      .ok (database.getContractStatus contractId, database)
  | getContractVersion contractId contractVersionId =>
      .ok (database.getContractVersion contractId contractVersionId, database)
  | getContractReview contractId contractVersionId =>
      .ok (database.getContractReview contractId contractVersionId, database)
  | saveParsedDocument contractVersionId document =>
      .ok ((), database.saveParsedDocument stamp contractVersionId document)
  | finalizeContractReview workspaceId contractId contractVersionId review
      reviewStatus =>
      (database.finalizeContractReview stamp workspaceId contractId
        contractVersionId review reviewStatus).map fun after => ((), after)
  | getContractSource contractId =>
      .ok (database.sources.find? contractId, database)
  | upsertContractSource contractId sourceChannel sourceThreadKey =>
      .ok ((), database.upsertContractSource contractId sourceChannel
        sourceThreadKey)
  | recordAudit workspaceId contractId eventType =>
      .ok ((), database.recordAudit stamp workspaceId contractId eventType)
  | insertRun workspaceId contractId contractVersionId source jobId =>
      database.insertRun stamp workspaceId contractId contractVersionId source
        jobId
  | getRun runId => .ok (database.runs.find? runId, database)
  | getRunByJobId jobId => .ok (database.getRunByJobId jobId, database)
  | setRunJobId runId jobId => .ok (database.setRunJobId runId jobId)
  | markWorkerStarted runId => .ok (database.markRun runId .running)
  | recordAttemptFailure runId => .ok (database.markRun runId .running)
  | markRun runId status => .ok (database.markRun runId status)
  | latestActiveRun workspaceId contractId =>
      .ok (database.latestActiveRun workspaceId contractId, database)
  | upsertStage runId stage => .ok ((), database.upsertStage runId stage)
  | getStage runId stage => .ok (database.stages.find? (runId, stage), database)
  | updateStage runId stage status =>
      .ok ((), database.updateStage runId stage status)
  | enqueueEmail intent => .ok ((), database.enqueueEmail stamp intent)

end DatabaseCall

end ContractMate
