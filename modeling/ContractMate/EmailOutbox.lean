import ContractMate.StatementPatterns

/-!
# The email outbox

The rows of the outbound email outbox and the statements of its repository, each
as the body of one transaction block, and what a contract's deletion does to it.
-/

namespace ContractMate

namespace EmailOutbox

/-- `OutboundEmailType`. -/
inductive MessageType where
  | receipt
  | review
deriving DecidableEq, Repr

/-- `OutboundEmailStatus`. -/
inductive Status where
  | pending
  | sending
  | sent
  | failed
deriving DecidableEq, Repr

/-- What is sent. -/
structure Message where
  toAddress : String
  fromAddress : String
  subject : String
  textBody : String
  htmlBody : Option String := none
  inReplyTo : Option String := none
  references : Option String := none
deriving DecidableEq, Repr

/-- `OutboundEmailIntent`. -/
structure Intent where
  workspaceId : String
  threadKey : String
  messageType : MessageType
  message : Message
  idempotencyKey : String
  contractId : Option Uuid := none
  contractVersionId : Option Uuid := none
  threadPosition : Option Int := none
deriving DecidableEq, Repr

structure Row where
  id : Uuid
  workspaceId : String
  contractId : Option Uuid
  contractVersionId : Option Uuid
  threadKey : String
  threadPosition : Int
  messageType : MessageType
  message : Message
  idempotencyKey : String
  status : Status := .pending
  attempts : Int := 0
  nextAttemptAt : Int
  leaseExpiresAt : Option Int := none
  createdAt : Int
deriving DecidableEq, Repr

/-- `OutboundEmailOutboxItem`. -/
structure Item where
  id : Uuid
  workspaceId : String
  contractId : Option Uuid
  contractVersionId : Option Uuid
  threadKey : String
  threadPosition : Int
  messageType : MessageType
  message : Message
  idempotencyKey : String
  status : Status
  attempts : Int
deriving DecidableEq, Repr

abbrev Table := RowTable Row.id

variable (table : Table)

/-- `COALESCE(MAX(thread_position), 0)`. -/
def latestPosition (threadKey : String) : Int :=
  ((table.select fun row => row.threadKey = threadKey).map
    Row.threadPosition).max?.getD 0

/-- `enqueue`. -/
def enqueue (stamp : Stamp) (intent : Intent) : Except Exn (Uuid × Table) :=
  match table.rows.find? fun row => row.idempotencyKey = intent.idempotencyKey with
  | some existing => .ok (existing.id, table)
  | none =>
      let position := intent.threadPosition.getD
        (latestPosition table intent.threadKey + 1)
      let row : Row :=
        { id := stamp.uuid4 0, workspaceId := intent.workspaceId
          contractId := intent.contractId
          contractVersionId := intent.contractVersionId
          threadKey := intent.threadKey, threadPosition := position
          messageType := intent.messageType, message := intent.message
          idempotencyKey := intent.idempotencyKey
          nextAttemptAt := stamp.now, createdAt := stamp.now }
      if position < 1 then
        .error (Exn.valueError "thread_position must be at least 1")
      else if table.rows.any fun other =>
          other.threadKey = intent.threadKey && other.threadPosition = position then
        .error (Exn.valueError
          "thread_position is already assigned in this email thread")
      else
        match table.insert? row with
        | none => .error (Exn.uniqueViolation "outbound_email_outbox_pkey")
        | some inserted => .ok (row.id, inserted)

/-- The rows `claim_due` selects: due, with nothing live before them in their
thread. -/
def due (now : Int) (row : Row) : Bool :=
  ((row.status = .pending && row.nextAttemptAt ≤ now) ||
      (row.status = .sending && leaseExpired row.leaseExpiresAt now)) &&
    !table.rows.any fun earlier =>
      earlier.threadKey = row.threadKey &&
        earlier.threadPosition < row.threadPosition &&
        (earlier.status = .pending || earlier.status = .sending)

/-- `ORDER BY next_attempt_at, created_at, id`. -/
def dueBefore (first second : Int × Int × Uuid) : Bool :=
  first.1 < second.1 ||
    (first.1 == second.1 &&
      (first.2.1 < second.2.1 ||
        (first.2.1 == second.2.1 && first.2.2.le second.2.2)))

/-- The claimed row. -/
def taken (stamp : Stamp) (leaseSeconds : Int) (selected : Row) :
    RowTable.Change Row.id :=
  ⟨fun row =>
    { row with
      status := .sending
      attempts := selected.attempts + 1
      leaseExpiresAt := some (leaseUntil stamp leaseSeconds) }, fun _ => rfl⟩

/-- `_item_from_row` of a claimed row. -/
def claimedItem (row : Row) : Item :=
  { id := row.id, workspaceId := row.workspaceId, contractId := row.contractId
    contractVersionId := row.contractVersionId, threadKey := row.threadKey
    threadPosition := row.threadPosition, messageType := row.messageType
    message := row.message, idempotencyKey := row.idempotencyKey
    status := .sending, attempts := row.attempts + 1 }

/-- The rows that `claim_due` takes, in order. -/
def dueRows (stamp : Stamp) (limit : Int) : List Row :=
  orderedFirst (table.select (due table stamp.now))
    (fun row => (row.nextAttemptAt, row.createdAt, row.id)) dueBefore limit

/-- `claim_due`; a claim carries no token. -/
def claimDue (stamp : Stamp) (limit leaseSeconds : Int) : List Item × Table :=
  if limit < 1 then ([], table)
  else
    claimEach false (fun _ => true) (fun selected _ => taken stamp leaseSeconds selected)
      (fun row _ => claimedItem row) stamp 0 (dueRows table stamp limit) table

/-- `mark_sent`. -/
def markSent (outboxId : Uuid) : Bool × Table :=
  updateOne table outboxId (fun row => row.status = .sending)
    ⟨fun row => { row with status := .sent, leaseExpiresAt := none }, fun _ => rfl⟩

/-- `reschedule`. -/
def reschedule (stamp : Stamp) (outboxId : Uuid)
    (attempts maxAttempts baseBackoffSeconds : Int) : Status × Table :=
  let terminal := decide (max maxAttempts 1 ≤ attempts)
  let delay := min (max baseBackoffSeconds 1 * 2 ^ (max (attempts - 1) 0).toNat) 3600
  let status : Status := if terminal then .failed else .pending
  (status,
    (updateOne table outboxId (fun row => row.status = .sending)
      ⟨fun row =>
        { row with
          status
          nextAttemptAt := stamp.now + seconds delay
          leaseExpiresAt := none }, fun _ => rfl⟩).2)

/-- `mark_failed`. -/
def markFailed (outboxId : Uuid) : Bool × Table :=
  updateOne table outboxId
    (fun row => row.status = .pending || row.status = .sending)
    ⟨fun row => { row with status := .failed, leaseExpiresAt := none }, fun _ => rfl⟩

/-- `is_sending`. -/
def isSending (outboxId : Uuid) : Bool :=
  (table.find? outboxId).any fun row => row.status = .sending

/-- What `delete_contract` removes. -/
def deleteContract (workspaceId : String) (contractId : Uuid) : Table :=
  table.deleteWhere fun row =>
    row.workspaceId = workspaceId && row.contractId = some contractId

end EmailOutbox

/-- A call of the outbox repository, or a contract's deletion. -/
inductive EmailOutboxCall where
  | enqueue (intent : EmailOutbox.Intent)
  | claimDue (limit leaseSeconds : Int)
  | markSent (outboxId : Uuid)
  | reschedule (outboxId : Uuid) (attempts maxAttempts baseBackoffSeconds : Int)
  | markFailed (outboxId : Uuid)
  | deleteContract (workspaceId : String) (contractId : Uuid)

namespace EmailOutboxCall

/-- The table after the call; a call that raises is rolled back. -/
def after (stamp : Stamp) (table : EmailOutbox.Table) :
    EmailOutboxCall → EmailOutbox.Table
  | enqueue intent =>
      match EmailOutbox.enqueue table stamp intent with
      | .ok (_, inserted) => inserted
      | .error _ => table
  | claimDue limit leaseSeconds =>
      (EmailOutbox.claimDue table stamp limit leaseSeconds).2
  | markSent outboxId => (EmailOutbox.markSent table outboxId).2
  | reschedule outboxId attempts maxAttempts baseBackoffSeconds =>
      (EmailOutbox.reschedule table stamp outboxId attempts maxAttempts
        baseBackoffSeconds).2
  | markFailed outboxId => (EmailOutbox.markFailed table outboxId).2
  | deleteContract workspaceId contractId =>
      EmailOutbox.deleteContract table workspaceId contractId

/-- The items that the call claims. -/
def claims (stamp : Stamp) (table : EmailOutbox.Table) :
    EmailOutboxCall → List EmailOutbox.Item
  | claimDue limit leaseSeconds =>
      (EmailOutbox.claimDue table stamp limit leaseSeconds).1
  | _ => []

end EmailOutboxCall

end ContractMate
