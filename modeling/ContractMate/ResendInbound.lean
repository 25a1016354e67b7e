import ContractMate.ContractIntake
import ContractMate.IntakeCalls

/-!
# Inbound email

`ResendInboundService.process` with the ingestion service it runs, as programs
over the calls of the intake paths.
-/

namespace ContractMate

open PythonText

/-- The functions of Python's library on addresses, names and paths. -/
structure MailFunctions where
  casefold : String → String
  parseaddr : String → String × String
  getaddresses : List String → List (String × String)
  split : String → List String
  pathName : String → String
  pathSuffix : String → String

/-- `RateLimitPolicy("inbound-email", hourly_limit=2, daily_limit=5)`. -/
def inboundEmailPolicy : RateLimitPolicy where
  operation := "inbound-email"
  named := by decide
  hourlyLimit := some 2
  dailyLimit := some 5
  windowed := by decide
  positive := by decide

/-- The policies of known and unknown senders, by the operations they are told
apart by. -/
structure SenderPolicies where
  known : RateLimitPolicy := reviewPolicy
  unknown : RateLimitPolicy := inboundEmailPolicy
  knownOperation : known.operation = "review" := by rfl
  unknownOperation : unknown.operation = "inbound-email" := by rfl

/-- The settings that inbound email consults.  `queued` is false without a review
queue, and limiter and accounts may be absent. -/
structure InboundSettings where
  emailWorkspaceId : String
  resendInboundRecipients : List String
  maxFileSizeMb : Nat := 15
  autoSendReviewEmail : Bool := true
  queued : Bool := true
  accountAccess : Bool := true
  limiter : Option LimiterSettings
  policies : SenderPolicies := {}
  worker : WorkerSettings := {}

/-- `ResendWebhookEvent`, with the identifiers of its delivery. -/
structure ResendWebhookEvent where
  eventId : String
  type : String
  emailId : String
  payloadHash : String
deriving DecidableEq, Repr

/-- `ResendInboundResult.status`. -/
inductive InboundStatus where
  | processed
  | ignored
  | duplicate
  | processing
  | rateLimited
deriving DecidableEq, Repr

/-- `ResendInboundResult`. -/
structure ResendInboundResult where
  eventId : String
  emailId : String
  status : InboundStatus
  processedAttachments : Nat := 0
  ignoredAttachments : List String := []
deriving DecidableEq, Repr

/-- `EmailAttachment`; the webhook always gives a local path, and its place among
the supported attachments tells an attachment apart. -/
structure EmailAttachment where
  filename : String
  mimeType : String
  position : Nat
deriving DecidableEq, Repr

/-- `InboundEmailMessage`. -/
structure InboundEmailMessage where
  messageId : String
  threadId : String
  fromAddress : String
  fromName : Option String
  responseAddress : String
  subject : String
  originalMessageId : Option String
  references : Option String
  attachments : List EmailAttachment
deriving DecidableEq, Repr

namespace ResendInbound

variable (library : MailFunctions) (settings : InboundSettings)

/-! ## Reading an email -/

def stripped (text : String) : String :=
  String.ofList (strip text.toList)

/-- `recipient_is_allowed`. -/
def recipientIsAllowed (addresses : List String) : Bool :=
  let allowed := settings.resendInboundRecipients.map library.casefold
  ((library.getaddresses addresses).filter fun entry => entry.2 ≠ "").any
    fun entry => allowed.contains (library.casefold entry.2)

/-- `_parse_email_identity`. -/
def parseEmailIdentity (value : String) : Option String × Option String :=
  let parsed := library.parseaddr value
  let name := stripped parsed.1
  let address := stripped parsed.2
  if '@' ∈ address.toList then (truthy (some name), some address)
  else (none, none)

/-- `_parse_email_address`. -/
def parseEmailAddress (value : String) : Option String :=
  (parseEmailIdentity library value).2

/-- `_safe_header_value`. -/
def safeHeaderValue (value : String) : Option String :=
  let normalized := stripped value
  if normalized = "" ∨ '\r' ∈ normalized.toList ∨ '\n' ∈ normalized.toList ∨
      998 < normalized.length then
    none
  else
    some normalized

/-- `_header_value`: the first header of that name with a value decides. -/
def headerValue (headers : Option (List (String × String))) (name : String) :
    Option String :=
  ((headers.getD []).find? fun entry =>
      decide (library.casefold entry.1 = library.casefold name) &&
        decide (entry.2 ≠ "")).bind fun entry =>
    safeHeaderValue entry.2

/-- `_append_reference`. -/
def appendReference (references messageId : Option String) : Option String :=
  let values := (references.map library.split).getD []
  let extended :=
    match messageId with
    | some id => if values.contains id then values else values ++ [id]
    | none => values
  truthy (some (" ".intercalate extended))

/-- `_supported_attachments` on one attachment: its name. -/
def attachmentName (attachment : ReceivedAttachment) : String :=
  library.pathName
    ((truthy (some attachment.filename)).getD "unnamed-attachment")

/-- `partition(";")[0].strip().casefold()`. -/
def attachmentMimeType (attachment : ReceivedAttachment) : String :=
  library.casefold (stripped (String.ofList
    (attachment.contentType.toList.takeWhile fun character =>
      character ≠ ';')))

/-- `SUPPORTED_ATTACHMENTS`. -/
def supportedAttachments : List (String × String) :=
  [("application/pdf", ".pdf"),
    ("application/vnd.openxmlformats-officedocument.wordprocessingml.document",
      ".docx"),
    ("text/plain", ".txt")]

def expectedSuffix (attachment : ReceivedAttachment) : Option String :=
  supportedAttachments.lookup (attachmentMimeType library attachment)

/-- `MAX_ATTACHMENTS_PER_EMAIL`. -/
def maxAttachmentsPerEmail : Nat := 5

def maxBytes : Int :=
  (settings.maxFileSizeMb : Int) * 1024 * 1024

/-- The condition under which an attachment is taken. -/
def isSupported (attachment : ReceivedAttachment) (taken : Nat) : Bool :=
  attachment.contentDisposition = "attachment" &&
    ((expectedSuffix library attachment).any fun suffix =>
      library.casefold (library.pathSuffix (attachmentName library attachment)) =
        suffix) &&
    attachment.size ≤ maxBytes settings && taken < maxAttachmentsPerEmail

/-- The loop of `_supported_attachments`. -/
def splitAttachments : List ReceivedAttachment → List ReceivedAttachment →
    List String → List ReceivedAttachment × List String
  | [], supported, ignored => (supported, ignored)
  | attachment :: rest, supported, ignored =>
      if isSupported library settings attachment supported.length then
        splitAttachments rest (supported ++ [attachment]) ignored
      else
        splitAttachments rest supported
          (ignored ++ [attachmentName library attachment])

/-! ## Admission -/

/-- The policy of a sender and the identifier it is charged under: active users
share the budget of browser uploads. -/
def admissionPolicy (account : Option UserAccount) (sender : String) :
    RateLimitPolicy × String :=
  match account with
  | some account =>
      if account.role = .user ∧ account.state = .active then
        (settings.policies.known, account.id)
      else (settings.policies.unknown, sender)
  | none => (settings.policies.unknown, sender)

variable (intOfText : String → Option Int)

/-- `UpstashRateLimiter.consume`. -/
def consume (limiter : LimiterSettings) (policy : RateLimitPolicy)
    (identifier : String) (units : Nat) : IntakeProg RateLimitDecision :=
  if units < 1 then .raise (Exn.valueError "units must be at least 1")
  else if identifier = "" then .raise (Exn.valueError "identifier is required")
  else if !limiter.configured then pure (disabledDecision limiter)
  else
    (callLimiter (.consume policy identifier units)).andThen fun reply =>
      .done (consumeDecision intOfText limiter reply)

/-- The admission of an email: true when it is refused. -/
def refused (account : Option UserAccount) (sender : String) (units : Nat) :
    IntakeProg Bool :=
  match settings.limiter with
  | none => pure false
  | some limiter => do
      let chosen := admissionPolicy settings account sender
      let decision ← consume intOfText limiter chosen.1 chosen.2 units
      if decision.reason = .unavailable ∧ decision.allowed = false then
        .raise (Exn.runtimeError
          "Inbound rate-limit admission is unavailable")
      else
        pure !decision.allowed

/-! ## Downloading -/

/-- Temporary files are removed one by one. -/
def unlinkFiles : Nat → IntakeProg Unit
  | 0 => pure ()
  | count + 1 => do
      callService .unlinkFile
      unlinkFiles count

/-- An exception during the downloads removes what was downloaded. -/
def discardFiles {Value : Type} (files : Nat) (error : Exn) : IntakeProg Value := do
  unlinkFiles files
  .raise error

/-- What `_download_supported_attachments` returns. -/
structure Downloads where
  downloaded : List EmailAttachment := []
  ignored : List String := []
  temporaryFiles : Nat := 0

/-- The loop of `_download_supported_attachments`. -/
def downloadEach :
    Nat → List ReceivedAttachment → Downloads → IntakeProg Downloads
  | _, [], downloads => pure downloads
  | position, attachment :: rest, downloads =>
      match expectedSuffix library attachment with
      | none =>
          downloadEach (position + 1) rest
            { downloads with
              ignored := downloads.ignored ++ [attachmentName library attachment] }
      | some suffix =>
          (callService (.createTempFile suffix)).handle fun
            | .error error => discardFiles downloads.temporaryFiles error
            | .ok _ =>
                let files := downloads.temporaryFiles + 1
                (callService (.downloadAttachment attachment.downloadUrl
                    (maxBytes settings))).handle fun
                  | .ok _ =>
                      downloadEach (position + 1) rest
                        { downloads with
                          downloaded := downloads.downloaded ++
                            [⟨attachmentName library attachment,
                              attachmentMimeType library attachment, position⟩]
                          temporaryFiles := files }
                  | .error error =>
                      if error.kind = .permanentAttachmentRejection then
                        downloadEach (position + 1) rest
                          { downloads with
                            ignored := downloads.ignored ++
                              [attachmentName library attachment]
                            temporaryFiles := files }
                      else
                        discardFiles files error

/-- `_download_supported_attachments`. -/
def downloadSupportedAttachments (attachments : List ReceivedAttachment) :
    IntakeProg Downloads := do
  callService .makeAttachmentDir
  downloadEach library settings 0 attachments {}

/-! ## Ingestion -/

/-- The `enqueue_local_file` arguments of an attachment. -/
def intakeRequest (message : InboundEmailMessage) (workspaceId : String)
    (attachment : EmailAttachment) : IntakeRequest where
  workspaceId := workspaceId
  emailThreadId := message.threadId
  requestedBy := message.fromAddress
  declaredMimeType := some attachment.mimeType
  displayFilename := attachment.filename
  sendReviewEmail := settings.autoSendReviewEmail
  recipientName := message.fromName
  responseAddress := some message.responseAddress
  originalSubject := some message.subject
  inReplyTo := message.originalMessageId
  references := message.references
  sourceChannel := .email

/-- `review_local_file`. -/
def reviewLocalFile (request : IntakeRequest) :
    ReviewProg ContractProcessingResult := do
  let ingestion ← ingestLocalFile request
  match ingestion with
  | .inl rejected => pure rejected
  | .inr ingested => reviewIngestedFile settings.worker ingested none

/-- The body of the loop of `process_inbound_email`. -/
def processAttachment (message : InboundEmailMessage) (workspaceId : String)
    (attachment : EmailAttachment) : IntakeProg ContractProcessingResult :=
  let request := intakeRequest settings message workspaceId attachment
  forAttachment attachment.position
    (if settings.queued then enqueueLocalFile request
    else reviewLocalFile settings request)

/-- The loop of `process_inbound_email`. -/
def processAttachments (message : InboundEmailMessage) (workspaceId : String) :
    List EmailAttachment → IntakeProg (List ContractProcessingResult)
  | [] => pure []
  | attachment :: rest => do
      let result ← processAttachment settings message workspaceId attachment
      let results ← processAttachments message workspaceId rest
      pure (result :: results)

/-- `_reply_subject`. -/
def replySubject (originalSubject : String) : String :=
  let subject := stripped
    ((truthy (some originalSubject)).getD "Contract review")
  if (library.casefold subject).startsWith "re:" then subject
  else "Re: " ++ subject

/-- `_queue_receipt`. -/
def receiptIntent (message : InboundEmailMessage) (workspaceId : String) :
    ReceiptIntent where
  workspaceId := workspaceId
  threadKey := message.threadId
  toAddress := message.responseAddress
  subject := replySubject library message.subject
  attachmentCount := message.attachments.length
  inReplyTo := message.originalMessageId
  references := message.references
  idempotencyKey := "receipt:" ++ message.messageId

/-- `process_inbound_email`: the results, and the attachments they ignore. -/
def processInboundEmail (message : InboundEmailMessage) (workspaceId : String) :
    IntakeProg (Nat × List String) := do
  Prog.onlyIf
    (settings.autoSendReviewEmail && settings.queued &&
      !message.attachments.isEmpty)
    (callService (.queueReceipt (receiptIntent library message workspaceId)))
  let processed ← processAttachments settings message workspaceId
    message.attachments
  let immediate := processed.filter fun result => result.status ≠ .queued
  Prog.onlyIf (settings.autoSendReviewEmail && !immediate.isEmpty)
    (callService (.sendReviewResponse message.responseAddress
      (replySubject library message.subject) immediate.length))
  let ignored := (message.attachments.zip processed).filter fun entry =>
    entry.2.contractId.isNone
  pure (processed.length, ignored.map fun entry => entry.1.filename)

/-! ## The webhook -/

variable (event : ResendWebhookEvent)

/-- A result of the event with some status. -/
def outcome (status : InboundStatus) (ignored : List String) :
    ResendInboundResult where
  eventId := event.eventId
  emailId := event.emailId
  status := status
  ignoredAttachments := ignored

/-- `mark_completed`, and a result. -/
def completeWith (result : ResendInboundResult) :
    IntakeProg ResendInboundResult := do
  callEvent (.markCompleted event.emailId)
  pure result

/-- The `InboundEmailMessage` of an email. -/
def inboundMessage (email : ReceivedEmail) (senderName : Option String)
    (sender : String) (attachments : List EmailAttachment) :
    InboundEmailMessage :=
  let originalMessageId := safeHeaderValue email.messageId
  { messageId := event.emailId
    threadId := originalMessageId.getD event.emailId
    fromAddress := sender
    fromName := senderName
    responseAddress :=
      (email.replyTo.findSome? (parseEmailAddress library)).getD sender
    subject := email.subject
    originalMessageId
    references := appendReference library
      (headerValue library email.headers "references") originalMessageId
    attachments }

/-- An admitted email whose attachments are downloaded. -/
structure PreparedEmail where
  message : InboundEmailMessage
  workspaceId : String
  ignored : List String
  temporaryFiles : Nat

/-- `get_by_email`. -/
def getByEmail (email : String) : IntakeProg (Option UserAccount) :=
  callService (.getByEmail email)

/-- The account whose policy applies. -/
def existingAccount (sender : String) : IntakeProg (Option UserAccount) :=
  if settings.accountAccess then getByEmail sender else pure none

/-- The workspace of the sender, or nothing if the sender may not submit. -/
def senderWorkspace (senderName : Option String) (sender : String) :
    IntakeProg (Option String) :=
  if !settings.accountAccess then pure (some settings.emailWorkspaceId)
  else
    (callService (.resolveInboundSender
        (match senderName with
        | some name => name ++ " <" ++ sender ++ ">"
        | none => sender))).handle fun
      | .ok workspaceId => pure (some workspaceId)
      | .error error =>
          if error.kind = .invalidInboundSender ∨
              error.kind = .superAdminInboundRejected then
            pure none
          else
            .raise error

/-- `process` for an email from `sender` with attachments to download, from the
admission to the downloads. -/
def prepareAdmitted (email : ReceivedEmail) (senderName : Option String)
    (sender : String) (supported : List ReceivedAttachment)
    (ignored : List String) :
    IntakeProg (ResendInboundResult ⊕ PreparedEmail) := do
  let account ← existingAccount settings sender
  let isRefused ← refused settings intOfText account sender supported.length
  if isRefused then
    let result ← completeWith event (outcome event .rateLimited ignored)
    pure (.inl result)
  else
    let workspace ← senderWorkspace settings senderName sender
    match workspace with
    | none =>
        let result ← completeWith event (outcome event .ignored [])
        pure (.inl result)
    | some workspaceId =>
        callEvent (.updateWorkspace event.emailId workspaceId)
        let downloads ← downloadSupportedAttachments library settings supported
        pure (.inr {
          message := inboundMessage library event email senderName sender
            downloads.downloaded
          workspaceId
          ignored := ignored ++ downloads.ignored
          temporaryFiles := downloads.temporaryFiles })

/-- `process` from the claimed event to the downloads. -/
def prepare : IntakeProg (ResendInboundResult ⊕ PreparedEmail) := do
  let email ← callService (.getEmail event.emailId)
  if !recipientIsAllowed library settings
      (email.receivedFor ++ email.toAddresses) then
    let result ← completeWith event (outcome event .ignored [])
    pure (.inl result)
  else
    match parseEmailIdentity library email.sender with
    | (_, none) => do
        let result ← completeWith event (outcome event .ignored [])
        pure (.inl result)
    | (senderName, some sender) => do
        let attachments ← callService (.listAttachments event.emailId)
        let listed := splitAttachments library settings attachments [] []
        if listed.1.isEmpty then
          let result ← completeWith event (outcome event .ignored listed.2)
          pure (.inl result)
        else
          prepareAdmitted library settings intOfText event email senderName sender
            listed.1 listed.2

/-- `process` from the message on, which requires a sender of three characters. -/
def ingest (prepared : PreparedEmail) : IntakeProg ResendInboundResult := do
  if prepared.message.fromAddress.length < 3 then
    .raise (Exn.valueError "String should have at least 3 characters")
  else
    let ingestion ← processInboundEmail library settings prepared.message
      prepared.workspaceId
    completeWith event
      { outcome event .processed (prepared.ignored ++ ingestion.2) with
        processedAttachments := ingestion.1 }

/-- `except Exception` of a claimed event. -/
def failEvent {Value : Type} (error : Exn) : IntakeProg Value := do
  callEvent (.markFailed event.emailId)
  .raise error

/-- `process` on a claimed event. -/
def processClaimed : IntakeProg ResendInboundResult :=
  (prepare library settings intOfText event).handle fun
    | .error error => failEvent event error
    | .ok (.inl result) => pure result
    | .ok (.inr prepared) =>
        ((ingest library settings event prepared).tryExcept
          (failEvent event)).tryFinally (unlinkFiles prepared.temporaryFiles)

/-- `ResendInboundService.process`. -/
def process : IntakeProg ResendInboundResult := do
  let claim ← callEvent (.claim event.eventId event.emailId
    settings.emailWorkspaceId event.type event.payloadHash)
  match claim with
  | .completed => pure (outcome event .duplicate [])
  | .processing => pure (outcome event .processing [])
  | .acquired => processClaimed library settings intOfText event

end ResendInbound

end ContractMate
