import ContractMate.PythonText
import ContractMate.RateLimitDecisions
import ContractMate.ReviewJobs
import ContractMate.RowTable
import ContractMate.StagedTransactions

/-!
# Signing requests

`SigningRepository` over its tables: `create_request`, `add_signer` and `append_event` as
checks, one transaction and what follows its commit, with the status that is derived from
the signers' latest events.
-/

namespace ContractMate

namespace SigningRequests

open TransactionBlock PythonText
open ReadCommitted (statements)

/-- `SignerStatus`. -/
inductive SignerStatus where
  | pending
  | sent
  | viewed
  | signed
  | declined
  | expired
  | cancelled
deriving DecidableEq, Repr

namespace SignerStatus

def value : SignerStatus → String
  | pending => "pending"
  | sent => "sent"
  | viewed => "viewed"
  | signed => "signed"
  | declined => "declined"
  | expired => "expired"
  | cancelled => "cancelled"

def all : List SignerStatus :=
  [pending, sent, viewed, signed, declined, expired, cancelled]

/-- `SignerStatus(text)`, unless it raises. -/
def ofValue? (text : String) : Option SignerStatus :=
  all.find? fun status => status.value = text

@[simp]
theorem ofValue?_value (status : SignerStatus) : ofValue? status.value = some status := by
  cases status <;> decide

/-- `TERMINAL_SIGNER_STATUSES`. -/
def terminal : SignerStatus → Bool
  | declined | expired | cancelled => true
  | _ => false

end SignerStatus

/-- `SigningRequestStatus`. -/
inductive SigningRequestStatus where
  | notStarted
  | inProgress
  | completed
  | declined
  | expired
  | cancelled
deriving DecidableEq, Repr

/-- `TERMINAL_REQUEST_STATUSES`. -/
def SigningRequestStatus.terminal : SigningRequestStatus → Bool
  | completed | declined | expired | cancelled => true
  | notStarted | inProgress => false

structure SignerCreate where
  name : String
  email : Text
  role : Option String := none
  required : Bool := true
  displayOrder : Option Nat := none
deriving DecidableEq, Repr

/-- The order of a signer that is added after `maxOrder`. -/
def SignerCreate.orderAfter (signer : SignerCreate) (maxOrder : Int) : Int :=
  (signer.displayOrder.map Int.ofNat).getD (maxOrder + 1)

structure SignerStatusEventCreate where
  id : String
  status : SignerStatus
  note : Option String := none
deriving DecidableEq, Repr

structure SignerStatusEventOut where
  id : String
  signerId : String
  status : SignerStatus
  note : Option String
  actorEmail : String
  actorName : String
  createdAt : Int
deriving DecidableEq, Repr

structure SignerOut where
  id : String
  name : String
  email : Text
  role : Option String
  required : Bool
  displayOrder : Int
  latestStatus : SignerStatus
  createdAt : Int
  events : List SignerStatusEventOut
deriving DecidableEq, Repr

structure SigningRequestOut where
  id : String
  workspaceId : String
  contractId : String
  contractTitle : String
  contractVersionId : String
  status : SigningRequestStatus
  active : Bool
  createdBy : String
  createdAt : Int
  closedAt : Option Int
  signers : List SignerOut
deriving DecidableEq, Repr

/-- The terminal statuses in the order in which `derive_request_status` looks for them, each
with the request status of the same value. -/
def terminalStatuses : List (SignerStatus × SigningRequestStatus) :=
  [(.declined, .declined), (.expired, .expired), (.cancelled, .cancelled)]

def deriveRequestStatus (signers : List SignerOut) : SigningRequestStatus :=
  if signers.isEmpty || signers.all (fun signer => signer.latestStatus = .pending) then
    .notStarted
  else
    let required := signers.filter fun signer => signer.required
    match terminalStatuses.find? fun terminal =>
        required.any fun signer => signer.latestStatus = terminal.1 with
    | some terminal => terminal.2
    | none =>
        if !required.isEmpty && required.all (fun signer => signer.latestStatus = .signed) then
          .completed
        else if required.isEmpty && signers.any (fun signer => signer.latestStatus.terminal) then
          .inProgress
        else .inProgress

/-! ## The tables -/

/-- The columns of a contract that signing reads. -/
structure SigningContractRow where
  id : String
  workspaceId : String
  title : String
  currentVersionId : Option String
deriving DecidableEq, Repr

structure SigningRequestRow where
  id : String
  workspaceId : String
  contractId : String
  contractVersionId : String
  active : Bool
  createdBy : String
  createdAt : Int
  closedAt : Option Int
deriving DecidableEq, Repr

structure SignerRow where
  id : String
  signingRequestId : String
  name : String
  email : Text
  role : Option String
  required : Bool
  displayOrder : Int
  createdAt : Int
deriving DecidableEq, Repr

/-- `signer_status_events`; nothing constrains the text of a status. -/
structure StatusEventRow where
  id : String
  signerId : String
  status : String
  note : Option String
  actorEmail : String
  actorName : String
  createdAt : Int
deriving DecidableEq, Repr

/-- `audit_events`; the metadata are kept as the value that is dumped. -/
structure SigningAuditRow where
  id : String
  workspaceId : String
  contractId : String
  actorType : String
  actorId : String
  eventType : String
  metadata : Json
  createdAt : Int

/-- The tables under their primary keys. -/
@[ext]
structure SigningTables where
  contracts : RowTable SigningContractRow.id := .empty
  requests : RowTable SigningRequestRow.id := .empty
  signers : RowTable SignerRow.id := .empty
  events : RowTable StatusEventRow.id := .empty
  audits : RowTable SigningAuditRow.id := .empty

/-- What Python and the database make of texts: `str.casefold`, `str.lower`, `lower` of an
index, and the order of identifiers in `ORDER BY`. -/
structure TextRules where
  casefold : Text → Text
  lower : Text → Text
  sqlLower : Text → Text
  precedes : String → String → Bool

/-- What a call reads from outside the database: the time of its statements, and the
identifiers that `uuid4` draws. -/
structure Draws where
  now : Int
  uuid4 : Nat → String
  distinct : Function.Injective uuid4

/-! ## Exceptions -/

/-- A `SigningError`, or an exception of another class. -/
inductive SigningExn where
  | signing (statusCode : Nat) (message code : String)
  | other (error : Exn)
deriving DecidableEq, Repr

namespace SigningExn

/-- `str(exc)`. -/
def text : SigningExn → String
  | signing _ message _ => message
  | other error => error.message

/-- `SigningNotFound()`. -/
def notFound : SigningExn :=
  signing 404 "Resource not found." "not_found"

/-- `SigningConflict(message, code=…)`. -/
def conflict (message code : String) : SigningExn :=
  signing 409 message code

def duplicateEmail : SigningExn :=
  conflict "Signer email already exists for this request." "duplicate_signer_email"

/-- `_is_unique_violation`. -/
def isUniqueViolation (rules : TextRules) (exc : SigningExn) : Bool :=
  let message := rules.lower exc.text.toList
  decide ("unique".toList <:+: message) || decide ("duplicate key".toList <:+: message)

/-- What a unique constraint raises. -/
def unique (constraint : String) : SigningExn :=
  other (.uniqueViolation constraint)

end SigningExn

/-! ## Statements -/

/-- The columns of `_get_signer_with_request`. -/
structure SignerRequest where
  signerId : String
  requestId : String
  contractId : String
  workspaceId : String
deriving DecidableEq, Repr

inductive SigningStatement where
  | selectContract (workspaceId contractId : String)
  /-- `_active_request_for_contract` -/
  | selectActive (workspaceId contractId : String)
  /-- `_fetch_request_rows`, with the contract's title -/
  | selectRequest (workspaceId requestId : String)
  /-- `… ORDER BY display_order ASC, created_at ASC` -/
  | selectSigners (requestId : String)
  /-- `… ORDER BY created_at ASC, id ASC` -/
  | selectEvents (signerId : String)
  /-- `SELECT COALESCE(MAX(display_order), -1) …` -/
  | maxOrder (requestId : String)
  | selectSignerWithRequest (workspaceId signerId : String)
  | selectEvent (eventId : String)
  /-- `… ORDER BY created_at DESC, id DESC LIMIT 1` -/
  | selectLatest (signerId : String)
  | insertRequest (row : SigningRequestRow)
  | insertSigner (row : SignerRow)
  | insertEvent (row : StatusEventRow)
  | insertAudit (row : SigningAuditRow)
  /-- `UPDATE signing_requests SET active = ?, closed_at = CASE …` -/
  | updateActive (requestId : String) (active : Bool) (now : Int)

def SigningStatement.Ret : SigningStatement → Type
  | selectContract _ _ => Option SigningContractRow
  | selectActive _ _ => Option SigningRequestRow
  | selectRequest _ _ => List (SigningRequestRow × String)
  | selectSigners _ => List SignerRow
  | selectEvents _ => List StatusEventRow
  | maxOrder _ => Int
  | selectSignerWithRequest _ _ => Option SignerRequest
  | selectEvent _ => Option StatusEventRow
  | selectLatest _ => Option StatusEventRow
  | insertRequest _ | insertSigner _ | insertEvent _ | insertAudit _ => Unit
  | updateActive _ _ _ => Unit

abbrev SigningBody := Prog SigningStatement SigningStatement.Ret SigningExn

abbrev SigningProg :=
  Prog (BlockCall SigningStatement) (BlockCall.Reply SigningStatement.Ret) SigningExn

/-- `connection.execute(…)` -/
def execute (statement : SigningStatement) : SigningBody statement.Ret :=
  Prog.perform statement

namespace SigningTables

variable (rules : TextRules) (tables : SigningTables)

def contract? (workspaceId contractId : String) : Option SigningContractRow :=
  (tables.contracts.find? contractId).filter fun row => row.workspaceId = workspaceId

def active? (workspaceId contractId : String) : Option SigningRequestRow :=
  tables.requests.rows.find? fun row =>
    row.workspaceId = workspaceId && row.contractId = contractId && row.active

/-- The request's row with the title of its contract. -/
def requestRows (workspaceId requestId : String) : List (SigningRequestRow × String) :=
  (((tables.requests.find? requestId).filter fun row => row.workspaceId = workspaceId).bind
    fun row => (tables.contracts.find? row.contractId).map fun contract =>
      (row, contract.title)).toList

def signersOf (requestId : String) : List SignerRow :=
  (tables.signers.rows.filter fun row => row.signingRequestId = requestId).insertionSort
    fun first second =>
      first.displayOrder < second.displayOrder ||
        first.displayOrder = second.displayOrder && first.createdAt ≤ second.createdAt

def eventsOf (signerId : String) : List StatusEventRow :=
  (tables.events.rows.filter fun row => row.signerId = signerId).insertionSort
    fun first second =>
      first.createdAt < second.createdAt ||
        first.createdAt = second.createdAt && rules.precedes first.id second.id

def lastOrder (requestId : String) : Int :=
  ((tables.signers.rows.filter fun row => row.signingRequestId = requestId).map
    SignerRow.displayOrder).max?.getD (-1)

def signerRequest? (workspaceId signerId : String) : Option SignerRequest :=
  (tables.signers.find? signerId).bind fun signer =>
    ((tables.requests.find? signer.signingRequestId).filter
      fun row => row.workspaceId = workspaceId).map fun row =>
        ⟨signer.id, signer.signingRequestId, row.contractId, row.workspaceId⟩

/-- Another active request of the contract: what the unique index refuses. -/
def occupied (contractId requestId : String) : Bool :=
  tables.requests.rows.any fun row =>
    row.id ≠ requestId && row.active && row.contractId = contractId

/-- The request has a signer of the address. -/
def taken (requestId : String) (email : Text) : Bool :=
  tables.signers.rows.any fun row =>
    row.signingRequestId = requestId && rules.sqlLower row.email = rules.sqlLower email

/-- The `SET` part of the update of the flag. -/
def setActive (active : Bool) (now : Int) : RowTable.Change SigningRequestRow.id where
  apply row := { row with active := active, closedAt := if active then none else some now }
  keeps _ := rfl

/-- An insert under a primary key. -/
def inserted {Row : Type} {key : Row → String} (constraint : String) (table : RowTable key)
    (row : Row) (store : RowTable key → SigningTables) :
    Except SigningExn (Unit × SigningTables) :=
  match table.insert? row with
  | some table => .ok ((), store table)
  | none => .error (.unique constraint)

def exec : TransactionBlock.Exec SigningStatement SigningStatement.Ret SigningExn SigningTables :=
  fun tables statement =>
    match statement with
    | .selectContract workspaceId contractId =>
        .ok (tables.contract? workspaceId contractId, tables)
    | .selectActive workspaceId contractId =>
        .ok (tables.active? workspaceId contractId, tables)
    | .selectRequest workspaceId requestId =>
        .ok (tables.requestRows workspaceId requestId, tables)
    | .selectSigners requestId => .ok (tables.signersOf requestId, tables)
    | .selectEvents signerId => .ok (tables.eventsOf rules signerId, tables)
    | .maxOrder requestId => .ok (tables.lastOrder requestId, tables)
    | .selectSignerWithRequest workspaceId signerId =>
        .ok (tables.signerRequest? workspaceId signerId, tables)
    | .selectEvent eventId => .ok (tables.events.find? eventId, tables)
    | .selectLatest signerId => .ok ((tables.eventsOf rules signerId).getLast?, tables)
    | .insertRequest row =>
        if row.active && tables.occupied row.contractId row.id then
          .error (.unique "ux_signing_requests_active_contract")
        else
          inserted "signing_requests_pkey" tables.requests row
            fun requests => { tables with requests := requests }
    | .insertSigner row =>
        if tables.taken rules row.signingRequestId row.email then
          .error (.unique "ux_signers_request_email")
        else
          inserted "signers_pkey" tables.signers row
            fun signers => { tables with signers := signers }
    | .insertEvent row =>
        inserted "signer_status_events_pkey" tables.events row
          fun events => { tables with events := events }
    | .insertAudit row =>
        inserted "audit_events_pkey" tables.audits row
          fun audits => { tables with audits := audits }
    | .updateActive requestId active now =>
        if active && (tables.requests.find? requestId).any
            (fun row => tables.occupied row.contractId requestId) then
          .error (.unique "ux_signing_requests_active_contract")
        else
          .ok ((), { tables with
            requests := tables.requests.updateWhere (fun row => row.id = requestId)
              (setActive active now) })

end SigningTables

/-! ## Reading a request -/

def StatusEventRow.out? (row : StatusEventRow) : Except SigningExn SignerStatusEventOut :=
  match SignerStatus.ofValue? row.status with
  | none => .error (.other (.valueError "not a valid SignerStatus"))
  | some status => .ok {
      id := row.id
      signerId := row.signerId
      status := status
      note := row.note
      actorEmail := row.actorEmail
      actorName := row.actorName
      createdAt := row.createdAt }

/-- The events of `_build_signer`, up to the first that has no valid status. -/
def eventOuts : List StatusEventRow → Except SigningExn (List SignerStatusEventOut)
  | [] => .ok []
  | row :: rows =>
      match row.out? with
      | .error error => .error error
      | .ok event => (eventOuts rows).map fun events => event :: events

def SignerRow.out (row : SignerRow) (events : List SignerStatusEventOut) : SignerOut where
  id := row.id
  name := row.name
  email := row.email
  role := row.role
  required := row.required
  displayOrder := row.displayOrder
  latestStatus := (events.getLast?.map SignerStatusEventOut.status).getD .pending
  createdAt := row.createdAt
  events := events

def SigningRequestRow.out (row : SigningRequestRow) (title : String)
    (signers : List SignerOut) : SigningRequestOut where
  id := row.id
  workspaceId := row.workspaceId
  contractId := row.contractId
  contractTitle := title
  contractVersionId := row.contractVersionId
  status := deriveRequestStatus signers
  active := row.active
  createdBy := row.createdBy
  createdAt := row.createdAt
  closedAt := row.closedAt
  signers := signers

/-- What a body makes of a value that may raise. -/
def raised {Value : Type} : Except SigningExn Value → SigningBody Value
  | .ok value => pure value
  | .error error => Prog.raise error

/-- `_build_signer`. -/
def buildSigner (row : SignerRow) : SigningBody SignerOut := do
  let rows ← execute (.selectEvents row.id)
  let events ← raised (eventOuts rows)
  pure (row.out events)

def buildSigners : List SignerRow → SigningBody (List SignerOut)
  | [] => pure []
  | row :: rows => do
      let signer ← buildSigner row
      let signers ← buildSigners rows
      pure (signer :: signers)

/-- `_build_request`, of the first row. -/
def buildRequest (row : SigningRequestRow × String) : SigningBody SigningRequestOut := do
  let rows ← execute (.selectSigners row.1.id)
  let signers ← buildSigners rows
  pure (row.1.out row.2 signers)

def getRequest (workspaceId requestId : String) : SigningBody (Option SigningRequestOut) := do
  let rows ← execute (.selectRequest workspaceId requestId)
  match rows with
  | [] => pure none
  | row :: _ => do
      let request ← buildRequest row
      pure (some request)

/-- `get_request`, and the assertion that there is one. -/
def readRequest (workspaceId requestId : String) : SigningBody SigningRequestOut := do
  let request ← getRequest workspaceId requestId
  match request with
  | none => Prog.raise (.other .assertionError)
  | some request => pure request

/-! ## Writing -/

section Operations

variable (rules : TextRules) (draws : Draws)

/-- `actor_email` and `actor_name`. -/
structure Actor where
  email : String
  name : String
deriving DecidableEq, Repr

/-- The rows of `_insert_signer`. -/
def newSigner (position : Nat) (requestId : String) (signer : SignerCreate)
    (displayOrder : Int) : SignerRow where
  id := draws.uuid4 position
  signingRequestId := requestId
  name := signer.name
  email := signer.email
  role := signer.role
  required := signer.required
  displayOrder := displayOrder
  createdAt := draws.now

def signerAdded (position : Nat) (actor : Actor) : StatusEventRow where
  id := draws.uuid4 (position + 1)
  signerId := draws.uuid4 position
  status := SignerStatus.pending.value
  note := some "Signer added."
  actorEmail := actor.email
  actorName := actor.name
  createdAt := draws.now

/-- `except Exception as exc`: a unique violation is a conflict. -/
def duplicateConflict {Value : Type} (exc : SigningExn) : SigningBody Value :=
  if exc.isUniqueViolation rules then Prog.raise .duplicateEmail else Prog.raise exc

/-- `_insert_signer`, which draws two identifiers. -/
def insertSigner (position : Nat) (requestId : String) (signer : SignerCreate)
    (displayOrder : Int) (actor : Actor) : SigningBody String := do
  let _ ← (execute (.insertSigner (newSigner draws position requestId signer displayOrder))
    ).tryExcept (duplicateConflict rules)
  let _ ← execute (.insertEvent (signerAdded draws position actor))
  pure (draws.uuid4 position)

/-- The row of `_record_audit`. -/
def auditRow (position : Nat) (workspaceId contractId : String) (actor : Actor)
    (eventType : String) (metadata : List (String × Json)) : SigningAuditRow where
  id := draws.uuid4 position
  workspaceId := workspaceId
  contractId := contractId
  actorType := "user"
  actorId := actor.email
  eventType := eventType
  metadata := .object metadata
  createdAt := draws.now

/-- `_record_audit`. -/
def recordAudit (position : Nat) (workspaceId contractId : String) (actor : Actor)
    (eventType : String) (metadata : List (String × Json)) : SigningBody Unit :=
  execute (.insertAudit
    (auditRow draws position workspaceId contractId actor eventType metadata))

/-- `signer.created`. -/
def recordSigner (position : Nat) (workspaceId contractId requestId : String)
    (signer : SignerCreate) (actor : Actor) : SigningBody Unit :=
  recordAudit draws position workspaceId contractId actor "signer.created"
    [("request_id", .text requestId), ("email", .text (String.ofList signer.email))]

/-- The loop of `create_request`, from the signer at `index`. -/
def insertSigners (workspaceId contractId requestId : String) (actor : Actor) :
    List SignerCreate → (index : Nat) → SigningBody Unit
  | [], _ => pure ()
  | signer :: signers, index => do
      let order : Nat := signer.displayOrder.getD index
      let _ ← insertSigner rules draws (3 * index + 1) requestId signer order actor
      let _ ← recordSigner draws (3 * index + 3) workspaceId contractId requestId signer actor
      insertSigners workspaceId contractId requestId actor signers (index + 1)

/-! ## The operations -/

/-- The checks of `create_request`. -/
def creatable (workspaceId contractId : String) (signers : List SignerCreate) :
    SigningBody (SigningRequestOut ⊕ SigningContractRow) := do
  let contract ← execute (.selectContract workspaceId contractId)
  match contract with
  | none => Prog.raise .notFound
  | some contract =>
      if contract.currentVersionId.getD "" = "" then
        Prog.raise (.conflict "Contract has no current version to pin."
          "contract_version_missing")
      else if ¬ (signers.map fun signer => rules.casefold signer.email).Nodup then
        Prog.raise (.conflict "Signer emails must be unique within a signing request."
          "duplicate_signer_email")
      else do
        let active ← execute (.selectActive workspaceId contractId)
        match active with
        | some _ =>
            Prog.raise (.conflict "Contract already has an active signing request."
              "active_request_exists")
        | none => pure (.inr contract)

/-- The row of a new request. -/
def newRequest (workspaceId contractId : String) (actor : Actor)
    (contract : SigningContractRow) : SigningRequestRow where
  id := draws.uuid4 0
  workspaceId := workspaceId
  contractId := contractId
  contractVersionId := contract.currentVersionId.getD ""
  active := true
  createdBy := actor.email
  createdAt := draws.now
  closedAt := none

/-- The block of `create_request`. -/
def writeRequest (workspaceId contractId : String) (signers : List SignerCreate)
    (actor : Actor) (contract : SigningContractRow) : SigningBody Unit := do
  let requestId := draws.uuid4 0
  let _ ← execute (.insertRequest (newRequest draws workspaceId contractId actor contract))
  let _ ← insertSigners rules draws workspaceId contractId requestId actor signers 0
  recordAudit draws (3 * signers.length + 1) workspaceId contractId actor
    "signing_request.created"
    [("request_id", .text requestId), ("signer_count", .int signers.length)]

def createRequest (workspaceId contractId : String) (signers : List SignerCreate)
    (actor : Actor) : SigningProg SigningRequestOut :=
  staged (creatable rules workspaceId contractId signers)
    (writeRequest rules draws workspaceId contractId signers actor)
    fun _ => statements (readRequest workspaceId (draws.uuid4 0))

/-- The checks of `add_signer`, with the order that it reads. -/
def extendable (workspaceId requestId : String) (signer : SignerCreate) :
    SigningBody (SigningRequestOut ⊕ SigningRequestOut × Int) := do
  let request ← getRequest workspaceId requestId
  match request with
  | none => Prog.raise .notFound
  | some request =>
      if request.status.terminal then
        Prog.raise (.conflict "Cannot add a signer to a terminal signing request."
          "request_terminal")
      else do
        let maxOrder ← execute (.maxOrder requestId)
        pure (.inr (request, signer.orderAfter maxOrder))

/-- The block of `add_signer`. -/
def writeSigner (workspaceId requestId : String) (signer : SignerCreate) (actor : Actor)
    (context : SigningRequestOut × Int) : SigningBody Unit := do
  let _ ← (insertSigner rules draws 0 requestId signer context.2 actor).tryExcept
    (duplicateConflict rules)
  recordSigner draws 2 workspaceId context.1.contractId requestId signer actor

def addSigner (workspaceId requestId : String) (signer : SignerCreate) (actor : Actor) :
    SigningProg SigningRequestOut :=
  staged (extendable workspaceId requestId signer)
    (writeSigner rules draws workspaceId requestId signer actor)
    fun _ => statements (readRequest workspaceId requestId)

/-- `existing["note"] or None` -/
def orNone (note : Option String) : Option String :=
  note.filter fun text => text ≠ ""

/-- The event was stored before, with the same data. -/
def StatusEventRow.repeats (row : StatusEventRow) (signerId : String)
    (payload : SignerStatusEventCreate) : Bool :=
  row.signerId = signerId && row.status = payload.status.value &&
    orNone row.note = orNone payload.note

/-- The checks of `append_event`: an event that was stored before is not stored again. -/
def appendable (workspaceId signerId : String) (payload : SignerStatusEventCreate) :
    SigningBody (SigningRequestOut ⊕ SignerRequest) := do
  let signer ← execute (.selectSignerWithRequest workspaceId signerId)
  match signer with
  | none => Prog.raise .notFound
  | some signer => do
      let existing ← execute (.selectEvent payload.id)
      match existing with
      | some existing =>
          if existing.repeats signerId payload then do
            let request ← readRequest workspaceId signer.requestId
            pure (.inl request)
          else
            Prog.raise (.conflict
              "Event id was already used for a different signer status event."
              "event_id_conflict")
      | none => do
          let latest ← execute (.selectLatest signerId)
          if latest.any fun row => row.status = payload.status.value then
            Prog.raise (.conflict "Signer already has this latest status."
              "duplicate_consecutive_status")
          else pure (.inr signer)

/-- The row of an event. -/
def eventRow (signerId : String) (payload : SignerStatusEventCreate) (actor : Actor) :
    StatusEventRow where
  id := payload.id
  signerId := signerId
  status := payload.status.value
  note := payload.note
  actorEmail := actor.email
  actorName := actor.name
  createdAt := draws.now

/-- The block of `append_event`. -/
def writeEvent (workspaceId signerId : String) (payload : SignerStatusEventCreate)
    (actor : Actor) (signer : SignerRequest) : SigningBody Unit := do
  let _ ← execute (.insertEvent (eventRow draws signerId payload actor))
  recordAudit draws 0 workspaceId signer.contractId actor "signer.status_changed"
    [("request_id", .text signer.requestId), ("signer_id", .text signerId),
      ("status", .text payload.status.value), ("note", (payload.note.map Json.text).getD .null)]

/-- The check of `_sync_request_active_flag`. -/
def checkReactivation (request : SigningRequestOut) : SigningBody Unit :=
  Prog.onlyIf (!request.status.terminal) do
    let other ← execute (.selectActive request.workspaceId request.contractId)
    if other.any fun row => row.id ≠ request.id then
      Prog.raise (.conflict
        "Cannot reactivate this request while another signing request is active."
        "active_request_exists")
    else pure ()

def updateActive (requestId : String) (active : Bool) (now : Int) : SigningBody Unit :=
  execute (.updateActive requestId active now)

/-- `_sync_request_active_flag`. -/
def syncRequestActiveFlag (request : SigningRequestOut) : SigningProg Unit := do
  let shouldBeActive := !request.status.terminal
  let _ ← statements (checkReactivation request)
  Prog.onlyIf (request.active != shouldBeActive)
    (block (updateActive request.id shouldBeActive draws.now))

def appendEvent (workspaceId signerId : String) (payload : SignerStatusEventCreate)
    (actor : Actor) : SigningProg SigningRequestOut :=
  staged (appendable workspaceId signerId payload)
    (writeEvent draws workspaceId signerId payload actor)
    fun signer => do
      let request ← statements (readRequest workspaceId signer.requestId)
      let _ ← syncRequestActiveFlag draws request
      statements (readRequest workspaceId signer.requestId)

end Operations

/-- The three operations with their arguments. -/
inductive SigningCall where
  | createRequest (workspaceId contractId : String) (signers : List SignerCreate)
      (actor : Actor)
  | addSigner (workspaceId requestId : String) (signer : SignerCreate) (actor : Actor)
  | appendEvent (workspaceId signerId : String) (payload : SignerStatusEventCreate)
      (actor : Actor)
deriving DecidableEq, Repr

def SigningCall.program (rules : TextRules) (draws : Draws) :
    SigningCall → SigningProg SigningRequestOut
  | createRequest workspaceId contractId signers actor =>
      SigningRequests.createRequest rules draws workspaceId contractId signers actor
  | addSigner workspaceId requestId signer actor =>
      SigningRequests.addSigner rules draws workspaceId requestId signer actor
  | appendEvent workspaceId signerId payload actor =>
      SigningRequests.appendEvent draws workspaceId signerId payload actor

end SigningRequests

end ContractMate
