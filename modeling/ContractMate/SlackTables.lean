import ContractMate.ReviewJobs
import ContractMate.RowTable

/-!
# The Slack tables

Rows of the Slack installation, event, attachment, execution, job-outbox and
message-outbox tables, and the statements that `SlackRepository` runs on them.
Each operation here is the body of one transaction block: what it returns and
the tables it leaves, or the exception after which the block is rolled back.
-/

namespace ContractMate

/-- `slack_installations.status`. -/
inductive InstallationStatus where
  | active
  | disconnected
  | revoked
deriving DecidableEq, Repr

structure SlackInstallationRow where
  id : String
  teamId : String
  teamName : Option String := none
  botUserId : Option String := none
  encryptedBotToken : String
  installedByAccountId : String
  status : InstallationStatus
deriving DecidableEq, Repr

/-- `inbound_slack_events.status`. -/
inductive SlackEventStatus where
  | pending
  | processing
  | processed
  | ignored
  | failed
deriving DecidableEq, Repr

structure InboundSlackEventRow where
  id : Uuid
  eventId : String
  teamId : String
  eventType : String
  payload : String
  status : SlackEventStatus := .pending
  attempts : Nat := 0
  nextAttemptAt : Int
  leaseToken : Option Uuid := none
  leaseExpiresAt : Option Int := none
  receivedAt : Int
deriving DecidableEq, Repr

/-- The status of an attachment or of a review execution. -/
inductive SubmissionStatus where
  | pending
  | processing
  | completed
deriving DecidableEq, Repr

structure FileSubmissionRow where
  eventId : String
  fileId : String
  status : SubmissionStatus := .processing
  leaseToken : Option Uuid
  reviewJobId : Uuid
  leaseExpiresAt : Option Int
deriving DecidableEq, Repr

/-- `PRIMARY KEY(event_id, file_id)`. -/
abbrev FileSubmissionRow.key (row : FileSubmissionRow) : String × String :=
  (row.eventId, row.fileId)

structure ReviewExecutionRow where
  submissionKey : String
  status : SubmissionStatus := .processing
  leaseToken : Option Uuid
  leaseExpiresAt : Option Int
deriving DecidableEq, Repr

/-- `slack_review_job_outbox.status`. -/
inductive PublishStatus where
  | pending
  | publishing
  | published
deriving DecidableEq, Repr

structure ReviewJobRow where
  submissionKey : String
  jobId : Uuid
  contractId : Uuid
  contractVersionId : Uuid
  payload : JobPayload
  status : PublishStatus := .pending
  attempts : Nat := 0
  nextAttemptAt : Int
  leaseToken : Option Uuid := none
  leaseExpiresAt : Option Int := none
  createdAt : Int
deriving DecidableEq, Repr

/-- `source_submission_key or job_id`: the text after the prefix of a reply's
idempotency key.  Submission keys contain a colon and job identifiers do not, so
the two never coincide. -/
inductive ReplySource where
  | submission (key : String)
  | job (id : Uuid)
deriving DecidableEq, Repr

/-- The idempotency keys of outbound messages, by their prefixes. -/
inductive IdempotencyKey where
  | receipt (submission : String)
  | rejection (subject : String)
  | review (source : ReplySource)
  | failure (source : ReplySource)
deriving DecidableEq, Repr

/-- `outbound_slack_outbox.message_type`. -/
inductive MessageType where
  | receipt
  | review
  | failure
deriving DecidableEq, Repr

/-- The address `{frontend_origin}/contracts/{contract_id}`. -/
structure ContractUrl where
  origin : String
  contractId : Uuid
deriving DecidableEq, Repr

/-- The Block Kit elements that the renderers build. -/
inductive SlackBlock where
  | header (text : String)
  | section (mrkdwn : String)
  | actions (label : String) (url : ContractUrl)
deriving DecidableEq, Repr

/-- `outbound_slack_outbox.status`. -/
inductive SlackOutboxStatus where
  | pending
  | sending
  | sent
  | failed
deriving DecidableEq, Repr

structure OutboundSlackRow where
  id : Uuid
  workspaceId : String
  installationId : String
  contractId : Option Uuid
  contractVersionId : Option Uuid
  channelId : String
  threadTs : String
  threadPosition : Int
  messageType : MessageType
  textBody : String
  blocks : Option (List SlackBlock)
  idempotencyKey : IdempotencyKey
  status : SlackOutboxStatus := .pending
  attempts : Nat := 0
  nextAttemptAt : Int
  leaseToken : Option Uuid := none
  leaseExpiresAt : Option Int := none
  createdAt : Int
deriving DecidableEq, Repr

/-- `OutboundSlackIntent`. -/
structure OutboundSlackIntent where
  workspaceId : String
  installationId : String
  channelId : String
  threadTs : String
  messageType : MessageType
  textBody : String
  idempotencyKey : IdempotencyKey
  contractId : Option Uuid := none
  contractVersionId : Option Uuid := none
  blocks : Option (List SlackBlock) := none
  threadPosition : Option Int := none
deriving DecidableEq, Repr

/-- `InboundSlackEvent`. -/
structure InboundSlackEvent where
  id : Uuid
  eventId : String
  teamId : String
  eventType : String
  payload : String
  attempts : Nat
  leaseToken : Uuid
deriving DecidableEq, Repr

/-- `OutboundSlackItem`. -/
structure OutboundSlackItem where
  id : Uuid
  installationId : String
  channelId : String
  threadTs : String
  messageType : MessageType
  textBody : String
  blocks : Option (List SlackBlock)
  attempts : Nat
  leaseToken : Uuid
deriving DecidableEq, Repr

/-- `SlackLeaseClaim.status`. -/
inductive ClaimStatus where
  | claimed
  | busy
  | completed
deriving DecidableEq, Repr

/-- `SlackLeaseClaim`. -/
structure SlackLeaseClaim where
  status : ClaimStatus
  leaseToken : Option Uuid := none
  reviewJobId : Option Uuid := none
deriving DecidableEq, Repr

/-- `SlackReviewJobOutboxItem`. -/
structure SlackReviewJobOutboxItem where
  submissionKey : String
  jobId : Uuid
  payload : JobPayload
  attempts : Nat
  leaseToken : Uuid
deriving DecidableEq, Repr

/-- What `retry_event` and `reschedule_outbound` return. -/
inductive RetryOutcome where
  | pending
  | failed
  | stale
deriving DecidableEq, Repr

/-- The tables `SlackRepository` reads and writes here. -/
structure SlackTables where
  installations : RowTable SlackInstallationRow.id
  events : RowTable InboundSlackEventRow.id
  files : RowTable FileSubmissionRow.key
  executions : RowTable ReviewExecutionRow.submissionKey
  jobs : RowTable ReviewJobRow.submissionKey
  outbound : RowTable OutboundSlackRow.id

instance : Inhabited SlackTables where
  default := ⟨default, default, default, default, default, default⟩

/-! ## Statement patterns -/

section Patterns

variable {Row Key Item : Type} {key : Row → Key} [DecidableEq Key]

/-- `UPDATE … WHERE key = ? AND guard` followed by `rowcount == 1`. -/
def updateOne (table : RowTable key) (value : Key) (guard : Row → Bool)
    (change : RowTable.Change key) : Bool × RowTable key :=
  let condition := fun row => decide (key row = value) && guard row
  (table.affected condition = 1, table.updateWhere condition change)

/-- The loop of the claiming operations: every selected row in turn gets a token
of its own.  With `skips`, a row whose update reports nothing is passed over. -/
def claimEach (skips : Bool) (guard : Row → Bool)
    (take : Row → Uuid → RowTable.Change key)
    (item : Row → Uuid → Item) (stamp : Stamp) :
    Nat → List Row → RowTable key → List Item × RowTable key
  | _, [], table => ([], table)
  | position, selected :: rest, table =>
      let token := stamp.uuid4 position
      let updated := updateOne table (key selected) guard (take selected token)
      let later := claimEach skips guard take item stamp (position + 1)
        rest updated.2
      (if skips && !updated.1 then later.1 else item selected token :: later.1,
        later.2)

/-- `ORDER BY first, second LIMIT count`; ties keep insertion order. -/
def orderedFirst {Rank : Type} (rows : List Row) (rank : Row → Rank)
    (before : Rank → Rank → Bool) (count : Int) : List Row :=
  (rows.insertionSort fun first second =>
    before (rank first) (rank second) = true).take count.toNat

end Patterns

/-- `lease_expires_at IS NOT NULL AND lease_expires_at <= now`. -/
def leaseExpired (expiry : Option Int) (now : Int) : Bool :=
  expiry.any fun moment => moment ≤ now

/-- `now + timedelta(seconds=max(lease_seconds, 1))`. -/
def leaseUntil (stamp : Stamp) (leaseSeconds : Int) : Int :=
  stamp.now + seconds (max leaseSeconds 1)

/-- The delay before attempt number `attempts + 1` of events and messages. -/
def retryDelay (attempts : Int) (retryAfterSeconds : Option Int) : Int :=
  retryAfterSeconds.getD (min (30 * 2 ^ (attempts - 1).toNat) 3600)

/-- Lexicographic order of two timestamps. -/
def timesLe (first second : Int × Int) : Bool :=
  first.1 < second.1 || (first.1 == second.1 && first.2 ≤ second.2)

namespace SlackTables

/-! ## Inbound events -/

/-- `enqueue_event`: `ON CONFLICT(event_id) DO NOTHING`. -/
def enqueueEvent (tables : SlackTables) (stamp : Stamp)
    (eventId teamId eventType payload : String) : Bool × SlackTables :=
  if tables.events.affected (fun row => row.eventId = eventId) = 0 then
    let row : InboundSlackEventRow :=
      { id := stamp.uuid4 0, eventId, teamId, eventType, payload
        nextAttemptAt := stamp.now, receivedAt := stamp.now }
    ((tables.events.insert? row).isSome,
      { tables with events := tables.events.insertIgnore row })
  else
    (false, tables)

/-- The rows `claim_due_events` selects. -/
def eventDue (now : Int) (row : InboundSlackEventRow) : Bool :=
  (row.status = .pending && row.nextAttemptAt ≤ now) ||
    (row.status = .processing && leaseExpired row.leaseExpiresAt now)

/-- `claim_due_events`. -/
def claimDueEvents (tables : SlackTables) (stamp : Stamp)
    (limit leaseSeconds : Int) : List InboundSlackEvent × SlackTables :=
  if limit < 1 then
    ([], tables)
  else
    let rows := orderedFirst (tables.events.select (eventDue stamp.now))
      (fun row => (row.receivedAt, row.id))
      (fun first second =>
        first.1 < second.1 || (first.1 == second.1 && first.2.le second.2))
      limit
    let claimed := claimEach false (fun _ => true)
      (fun selected token => ⟨fun row =>
        { row with
          status := .processing
          attempts := selected.attempts + 1
          leaseToken := some token
          leaseExpiresAt := some (leaseUntil stamp leaseSeconds) }, fun _ => rfl⟩)
      (fun row token =>
        { id := row.id, eventId := row.eventId, teamId := row.teamId
          eventType := row.eventType, payload := row.payload
          attempts := row.attempts + 1, leaseToken := token : InboundSlackEvent })
      stamp 0 rows tables.events
    (claimed.1, { tables with events := claimed.2 })

/-- `WHERE … status = 'processing' AND lease_token = ?` on events. -/
def eventOwned (token : Uuid) (row : InboundSlackEventRow) : Bool :=
  row.status = .processing && row.leaseToken = some token

/-- `complete_event`; `ignored` chooses between its two statuses. -/
def completeEvent (tables : SlackTables) (rowId token : Uuid)
    (ignored : Bool) : Bool × SlackTables :=
  let updated := updateOne tables.events rowId (eventOwned token)
    ⟨fun row =>
      { row with
        status := if ignored then .ignored else .processed
        leaseToken := none
        leaseExpiresAt := none }, fun _ => rfl⟩
  (updated.1, { tables with events := updated.2 })

/-- `retry_event`. -/
def retryEvent (tables : SlackTables) (stamp : Stamp) (rowId token : Uuid)
    (attempts maxAttempts : Int) (retryAfterSeconds : Option Int) :
    RetryOutcome × SlackTables :=
  let terminal := decide (max maxAttempts 1 ≤ attempts)
  let delay := retryDelay attempts retryAfterSeconds
  let updated := updateOne tables.events rowId (eventOwned token)
    ⟨fun row =>
      { row with
        status := if terminal then .failed else .pending
        nextAttemptAt := stamp.now + seconds (max delay 1)
        leaseToken := none
        leaseExpiresAt := none }, fun _ => rfl⟩
  (if updated.1 then (if terminal then .failed else .pending) else .stale,
    { tables with events := updated.2 })

/-- `retry_event_contention`. -/
def retryEventContention (tables : SlackTables) (stamp : Stamp)
    (rowId token : Uuid) (retryAfterSeconds : Int) : Bool × SlackTables :=
  let updated := updateOne tables.events rowId (eventOwned token)
    ⟨fun row =>
      { row with
        status := .pending
        attempts := row.attempts - 1
        nextAttemptAt := stamp.now + seconds (max retryAfterSeconds 1)
        leaseToken := none
        leaseExpiresAt := none }, fun _ => rfl⟩
  (updated.1, { tables with events := updated.2 })

/-! ## Attachments -/

/-- `claim_file_submission`: the token is the first identifier drawn, the job
identifier of a new row the second. -/
def claimFileSubmission (tables : SlackTables) (stamp : Stamp)
    (eventId fileId : String) (leaseSeconds : Int) :
    SlackLeaseClaim × SlackTables :=
  let token := stamp.uuid4 0
  let lease := leaseUntil stamp leaseSeconds
  let fresh : FileSubmissionRow :=
    { eventId, fileId, leaseToken := some token
      reviewJobId := stamp.uuid4 1, leaseExpiresAt := some lease }
  match tables.files.insert? fresh with
  | some files =>
      (⟨.claimed, some token, some fresh.reviewJobId⟩, { tables with files })
  | none =>
      match tables.files.find? (eventId, fileId) with
      | none => (⟨.busy, none, none⟩, tables)
      | some row =>
          if row.status = .completed then
            (⟨.completed, none, some row.reviewJobId⟩, tables)
          else
            let updated := updateOne tables.files (eventId, fileId)
              (fun row =>
                (row.status = .pending || row.status = .processing) &&
                  (row.status = .pending ||
                    leaseExpired row.leaseExpiresAt stamp.now))
              ⟨fun row =>
                { row with
                  status := .processing
                  leaseToken := some token
                  leaseExpiresAt := some lease }, fun _ => rfl⟩
            (if updated.1 then ⟨.claimed, some token, some row.reviewJobId⟩
              else ⟨.busy, none, some row.reviewJobId⟩,
              { tables with files := updated.2 })

/-- `WHERE … status = 'processing' AND lease_token = ?` on attachments. -/
def fileOwned (token : Uuid) (row : FileSubmissionRow) : Bool :=
  row.status = .processing && row.leaseToken = some token

/-- `complete_file_submission`. -/
def completeFileSubmission (tables : SlackTables) (eventId fileId : String)
    (token : Uuid) : Bool × SlackTables :=
  let updated := updateOne tables.files (eventId, fileId) (fileOwned token)
    ⟨fun row =>
      { row with
        status := .completed, leaseToken := none, leaseExpiresAt := none }, fun _ => rfl⟩
  (updated.1, { tables with files := updated.2 })

/-- `release_file_submission`. -/
def releaseFileSubmission (tables : SlackTables) (eventId fileId : String)
    (token : Uuid) : Bool × SlackTables :=
  let updated := updateOne tables.files (eventId, fileId) (fileOwned token)
    ⟨fun row =>
      { row with
        status := .pending, leaseToken := none, leaseExpiresAt := none }, fun _ => rfl⟩
  (updated.1, { tables with files := updated.2 })

/-! ## Review executions -/

/-- `claim_review_execution`. -/
def claimReviewExecution (tables : SlackTables) (stamp : Stamp)
    (submissionKey : String) (leaseSeconds : Int) :
    SlackLeaseClaim × SlackTables :=
  let token := stamp.uuid4 0
  let lease := leaseUntil stamp leaseSeconds
  let fresh : ReviewExecutionRow :=
    { submissionKey, leaseToken := some token, leaseExpiresAt := some lease }
  match tables.executions.insert? fresh with
  | some executions => (⟨.claimed, some token, none⟩, { tables with executions })
  | none =>
      if (tables.executions.find? submissionKey).any
          fun row => row.status = .completed then
        (⟨.completed, none, none⟩, tables)
      else
        let updated := updateOne tables.executions submissionKey
          (fun row =>
            (row.status = .pending || row.status = .processing) &&
              (row.status = .pending ||
                leaseExpired row.leaseExpiresAt stamp.now))
          ⟨fun row =>
            { row with
              status := .processing
              leaseToken := some token
              leaseExpiresAt := some lease }, fun _ => rfl⟩
        (if updated.1 then ⟨.claimed, some token, none⟩ else ⟨.busy, none, none⟩,
          { tables with executions := updated.2 })

/-- `get_review_execution_status`. -/
def getReviewExecutionStatus (tables : SlackTables) (submissionKey : String) :
    Option SubmissionStatus :=
  (tables.executions.find? submissionKey).map ReviewExecutionRow.status

/-- `WHERE … status = 'processing' AND lease_token = ?` on executions. -/
def executionOwned (token : Uuid) (row : ReviewExecutionRow) : Bool :=
  row.status = .processing && row.leaseToken = some token

/-- `complete_review_execution`. -/
def completeReviewExecution (tables : SlackTables) (submissionKey : String)
    (token : Uuid) : Bool × SlackTables :=
  let updated := updateOne tables.executions submissionKey
    (executionOwned token)
    ⟨fun row =>
      { row with
        status := .completed, leaseToken := none, leaseExpiresAt := none }, fun _ => rfl⟩
  (updated.1, { tables with executions := updated.2 })

/-- `renew_review_execution`. -/
def renewReviewExecution (tables : SlackTables) (stamp : Stamp)
    (submissionKey : String) (token : Uuid) (leaseSeconds : Int) :
    Bool × SlackTables :=
  let updated := updateOne tables.executions submissionKey
    (executionOwned token)
    ⟨fun row =>
      { row with leaseExpiresAt := some (leaseUntil stamp leaseSeconds) }, fun _ => rfl⟩
  (updated.1, { tables with executions := updated.2 })

/-- `release_review_execution`. -/
def releaseReviewExecution (tables : SlackTables) (submissionKey : String)
    (token : Uuid) : Bool × SlackTables :=
  let updated := updateOne tables.executions submissionKey
    (executionOwned token)
    ⟨fun row =>
      { row with
        status := .pending, leaseToken := none, leaseExpiresAt := none }, fun _ => rfl⟩
  (updated.1, { tables with executions := updated.2 })

/-! ## The job outbox -/

/-- `persist_review_job`.  Encoded envelopes are compared as dictionaries: the
encoding sorts the keys, so equal texts and equal dictionaries are the same. -/
def persistReviewJob (tables : SlackTables) (stamp : Stamp)
    (submissionKey : String) (jobId : Uuid) (payload : JobPayload) :
    Except Exn SlackTables :=
  let fresh : ReviewJobRow :=
    { submissionKey, jobId, contractId := payload.contractId
      contractVersionId := payload.contractVersionId, payload
      nextAttemptAt := stamp.now, createdAt := stamp.now }
  if (tables.jobs.find? submissionKey).isNone &&
      tables.jobs.affected (fun row => row.jobId = jobId) ≠ 0 then
    .error (Exn.uniqueViolation "slack_review_job_outbox_job_id_key")
  else
    let jobs := tables.jobs.insertIgnore fresh
    match jobs.find? submissionKey with
    | none =>
        .error (Exn.runtimeError
          "Slack review job outbox row could not be persisted")
    | some row =>
        if row.jobId ≠ jobId ∨ row.payload ≠ payload then
          .error (Exn.valueError
            "Slack submission already has a different review job envelope")
        else
          .ok { tables with jobs }

/-- The rows `claim_due_review_jobs` selects. -/
def jobDue (now : Int) (row : ReviewJobRow) : Bool :=
  (row.status = .pending && row.nextAttemptAt ≤ now) ||
    (row.status = .publishing && leaseExpired row.leaseExpiresAt now)

/-- `claim_due_review_jobs`. -/
def claimDueReviewJobs (tables : SlackTables) (stamp : Stamp)
    (limit leaseSeconds : Int) :
    List SlackReviewJobOutboxItem × SlackTables :=
  let rows := orderedFirst (tables.jobs.select (jobDue stamp.now))
    (fun row => (row.nextAttemptAt, row.createdAt)) timesLe (max limit 1)
  let claimed := claimEach true
    (fun row => row.status = .pending || row.status = .publishing)
    (fun selected token => ⟨fun row =>
      { row with
        status := .publishing
        attempts := selected.attempts + 1
        leaseToken := some token
        leaseExpiresAt := some (leaseUntil stamp leaseSeconds) }, fun _ => rfl⟩)
    (fun row token =>
      { submissionKey := row.submissionKey, jobId := row.jobId
        payload := row.payload, attempts := row.attempts + 1
        leaseToken := token : SlackReviewJobOutboxItem })
    stamp 0 rows tables.jobs
  (claimed.1, { tables with jobs := claimed.2 })

/-- `WHERE … status = 'publishing' AND lease_token = ?` on envelopes. -/
def jobOwned (token : Uuid) (row : ReviewJobRow) : Bool :=
  row.status = .publishing && row.leaseToken = some token

/-- `mark_review_job_published`. -/
def markReviewJobPublished (tables : SlackTables) (submissionKey : String)
    (token : Uuid) : Bool × SlackTables :=
  let updated := updateOne tables.jobs submissionKey (jobOwned token)
    ⟨fun row =>
      { row with
        status := .published, leaseToken := none, leaseExpiresAt := none }, fun _ => rfl⟩
  (updated.1, { tables with jobs := updated.2 })

/-- `retry_review_job_publish`. -/
def retryReviewJobPublish (tables : SlackTables) (stamp : Stamp)
    (submissionKey : String) (token : Uuid) (attempts : Int) :
    Bool × SlackTables :=
  let delay : Int := min (2 ^ (attempts - 1).toNat) 60
  let updated := updateOne tables.jobs submissionKey (jobOwned token)
    ⟨fun row =>
      { row with
        status := .pending
        nextAttemptAt := stamp.now + seconds delay
        leaseToken := none
        leaseExpiresAt := none }, fun _ => rfl⟩
  (updated.1, { tables with jobs := updated.2 })

/-! ## Outbound messages -/

/-- `SELECT 1 FROM slack_installations WHERE id = ? AND status = 'active'`. -/
def installationActive (tables : SlackTables) (installationId : String) : Bool :=
  (tables.installations.find? installationId).any fun row =>
    row.status = .active

/-- Two messages of one Slack thread. -/
def sameThread (installationId channelId threadTs : String)
    (row : OutboundSlackRow) : Bool :=
  row.installationId = installationId && row.channelId = channelId &&
    row.threadTs = threadTs

/-- `COALESCE(MAX(thread_position), 0)`. -/
def lastThreadPosition (tables : SlackTables)
    (installationId channelId threadTs : String) : Int :=
  ((tables.outbound.select (sameThread installationId channelId threadTs)).map
    OutboundSlackRow.threadPosition).max?.getD 0

/-- The row with an idempotency key. -/
def outboundWithKey (tables : SlackTables) (key : IdempotencyKey) :
    Option OutboundSlackRow :=
  tables.outbound.rows.find? fun row => row.idempotencyKey = key

/-- `enqueue_outbound`.  A message for an installation that is not active is
stored as failed at once. -/
def enqueueOutbound (tables : SlackTables) (stamp : Stamp)
    (intent : OutboundSlackIntent) : Except Exn (Uuid × SlackTables) :=
  match tables.outboundWithKey intent.idempotencyKey with
  | some existing => .ok (existing.id, tables)
  | none =>
      let position := intent.threadPosition.getD
        (tables.lastThreadPosition intent.installationId intent.channelId
          intent.threadTs + 1)
      let row : OutboundSlackRow :=
        { id := stamp.uuid4 0, workspaceId := intent.workspaceId
          installationId := intent.installationId
          contractId := intent.contractId
          contractVersionId := intent.contractVersionId
          channelId := intent.channelId, threadTs := intent.threadTs
          threadPosition := position, messageType := intent.messageType
          textBody := intent.textBody
          blocks := intent.blocks.filter fun blocks => !blocks.isEmpty
          idempotencyKey := intent.idempotencyKey
          status :=
            if tables.installationActive intent.installationId then .pending
            else .failed
          nextAttemptAt := stamp.now, createdAt := stamp.now }
      if position < 1 then
        .error ⟨.databaseError, "check constraint violated: thread_position"⟩
      else if tables.outbound.affected
          (fun other =>
            sameThread intent.installationId intent.channelId intent.threadTs
              other && other.threadPosition = position) ≠ 0 then
        .error (Exn.uniqueViolation "outbound_slack_outbox_thread_key")
      else
        match tables.outbound.insert? row with
        | none => .error (Exn.uniqueViolation "outbound_slack_outbox_pkey")
        | some outbound => .ok (row.id, { tables with outbound })

/-- The rows `claim_due_outbound` selects: due, with nothing live before them in
their thread. -/
def outboundDue (tables : SlackTables) (now : Int) (row : OutboundSlackRow) :
    Bool :=
  ((row.status = .pending && row.nextAttemptAt ≤ now) ||
      (row.status = .sending && leaseExpired row.leaseExpiresAt now)) &&
    !tables.outbound.rows.any fun earlier =>
      sameThread row.installationId row.channelId row.threadTs earlier &&
        earlier.threadPosition < row.threadPosition &&
        (earlier.status = .pending || earlier.status = .sending)

/-- `claim_due_outbound`. -/
def claimDueOutbound (tables : SlackTables) (stamp : Stamp)
    (limit leaseSeconds : Int) : List OutboundSlackItem × SlackTables :=
  let rows := orderedFirst
    (tables.outbound.select (tables.outboundDue stamp.now))
    (fun row => (row.nextAttemptAt, row.createdAt)) timesLe (max limit 1)
  let claimed := claimEach false (fun _ => true)
    (fun selected token => ⟨fun row =>
      { row with
        status := .sending
        attempts := selected.attempts + 1
        leaseToken := some token
        leaseExpiresAt := some (leaseUntil stamp leaseSeconds) }, fun _ => rfl⟩)
    (fun row token =>
      { id := row.id, installationId := row.installationId
        channelId := row.channelId, threadTs := row.threadTs
        messageType := row.messageType, textBody := row.textBody
        blocks := row.blocks, attempts := row.attempts + 1
        leaseToken := token : OutboundSlackItem })
    stamp 0 rows tables.outbound
  (claimed.1, { tables with outbound := claimed.2 })

/-- `WHERE … status = 'sending' AND lease_token = ?` on messages. -/
def outboundOwned (token : Uuid) (row : OutboundSlackRow) : Bool :=
  row.status = .sending && row.leaseToken = some token

/-- `mark_outbound_sent`. -/
def markOutboundSent (tables : SlackTables) (outboxId token : Uuid) :
    Bool × SlackTables :=
  let updated := updateOne tables.outbound outboxId (outboundOwned token)
    ⟨fun row =>
      { row with
        status := .sent, leaseToken := none, leaseExpiresAt := none }, fun _ => rfl⟩
  (updated.1, { tables with outbound := updated.2 })

/-- `reschedule_outbound`: guarded by the installation as well. -/
def rescheduleOutbound (tables : SlackTables) (stamp : Stamp)
    (outboxId token : Uuid) (attempts maxAttempts : Int)
    (retryAfterSeconds : Option Int) : RetryOutcome × SlackTables :=
  let terminal := decide (max maxAttempts 1 ≤ attempts)
  let delay := retryDelay attempts retryAfterSeconds
  let updated := updateOne tables.outbound outboxId
    (fun row =>
      outboundOwned token row && tables.installationActive row.installationId)
    ⟨fun row =>
      { row with
        status := if terminal then .failed else .pending
        nextAttemptAt := stamp.now + seconds (max delay 1)
        leaseToken := none
        leaseExpiresAt := none }, fun _ => rfl⟩
  (if updated.1 then (if terminal then .failed else .pending) else .stale,
    { tables with outbound := updated.2 })

/-- The second statement of `disconnect_installation` and
`mark_installation_revoked`. -/
def failLiveOutbound (tables : SlackTables) (installationId : String) :
    RowTable OutboundSlackRow.id :=
  tables.outbound.updateWhere
    (fun row =>
      row.installationId = installationId &&
        (row.status = .pending || row.status = .sending))
    ⟨fun row =>
      { row with
        status := .failed, leaseToken := none, leaseExpiresAt := none }, fun _ => rfl⟩

/-- `disconnect_installation`. -/
def disconnectInstallation (tables : SlackTables)
    (installationId accountId : String) : Bool × SlackTables :=
  let updated := updateOne tables.installations installationId
    (fun row => row.installedByAccountId = accountId && row.status = .active)
    ⟨fun row => { row with status := .disconnected }, fun _ => rfl⟩
  (updated.1,
    { tables with
      installations := updated.2
      outbound :=
        if updated.1 then tables.failLiveOutbound installationId
        else tables.outbound })

/-- `mark_installation_revoked`. -/
def markInstallationRevoked (tables : SlackTables) (installationId : String) :
    SlackTables :=
  { tables with
    installations := tables.installations.updateWhere
      (fun row => row.id = installationId)
      ⟨fun row => { row with status := .revoked }, fun _ => rfl⟩
    outbound := tables.failLiveOutbound installationId }

end SlackTables

end ContractMate
