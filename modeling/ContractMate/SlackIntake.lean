import ContractMate.ContractIntake
import ContractMate.IntakeCalls

/-!
# Slack intake

How the intake worker handles one claimed event: `_process`, and what `run_once`
records about its outcome.
-/

namespace ContractMate

open PythonText

/-- An attachment of an event; a missing identifier is empty. -/
structure SlackFile where
  id : String := ""
deriving DecidableEq, Repr

/-- The event in a payload; missing texts are empty. -/
structure SlackEventBody where
  botId : String := ""
  subtype : String := ""
  type : String := ""
  channelType : String := ""
  user : String := ""
  files : List SlackFile := []
  channel : Option String := none
  ts : Option String := none
  threadTs : String := ""
deriving DecidableEq, Repr

/-- `SlackMemberIdentity`. -/
structure SlackMemberIdentity where
  email : String
  displayName : Option String
deriving DecidableEq, Repr

/-- The settings of the intake worker.  `bodyOf` reads the event in a payload, and
`casefold` is the method of texts. -/
structure SlackIntakeSettings where
  slackPilotTeamIds : List String := []
  maxFileSizeMb : Nat := 15
  limiter : LimiterSettings
  policy : RateLimitPolicy := reviewPolicy
  bodyOf : String → Option SlackEventBody
  casefold : String → String

/-- `_MAX_ATTACHMENTS`. -/
def maxSlackAttachments : Nat := 5

/-- The two statuses that `_process` returns. -/
inductive SlackEventOutcome where
  | processed
  | ignored
deriving DecidableEq, Repr

/-- `KeyError`. -/
def keyError (key : String) : Exn := ⟨.otherError, key⟩

/-- `event.get("thread_ts") or event["ts"]`. -/
def SlackEventBody.thread (body : SlackEventBody) : Option String :=
  (truthy (some body.threadTs)).or body.ts

/-- `_is_supported_event`. -/
def SlackEventBody.isSupported (body : SlackEventBody) : Bool :=
  if body.botId ≠ "" || body.subtype ≠ "" then false
  else
    body.type = "app_mention" ||
      (body.type = "message" && body.channelType = "im")

namespace SlackIntake

variable (settings : SlackIntakeSettings) (intOfText : String → Option Int)
  (record : InboundSlackEvent)

/-- `_installation_workspace`. -/
def installationWorkspace (installation : SlackInstallation) :
    IntakeProg String := do
  let owner : Option UserAccount ←
    callService (.getById installation.installedByAccountId)
  pure ((owner.bind fun owner => truthy owner.personalWorkspaceId).getD
    ("slack:" ++ installation.teamId))

/-- `_resolve_user`. -/
def resolveUser (slackUserId : String) :
    IntakeProg (Option SlackMemberIdentity) :=
  if slackUserId = "" then pure none
  else do
    let member : SlackMember ← callService (.usersInfo slackUserId)
    let email := settings.casefold
      (String.ofList (strip member.email.toList))
    let displayName := String.ofList (strip
      ((truthy (some member.displayName)).getD member.realName).toList)
    if email = "" || member.deleted || member.isBot || member.isAppUser ||
        member.isRestricted || member.isUltraRestricted || member.isStranger then
      pure none
    else
      pure (some ⟨email, truthy (some displayName)⟩)

/-- The conversation that an event belongs to. -/
structure Conversation where
  installation : SlackInstallation
  channelId : String
  threadTs : String

/-- `_queue_rejection`; the key is the event's with a suffix. -/
def queueRejection (conversation : Conversation) (workspaceId suffix : String)
    (message : String) : IntakeProg Unit := do
  let rendered := SlackRendering.rejectionMessage message
  let _ ← callIntakeSlack (.enqueueOutbound {
    workspaceId
    installationId := conversation.installation.id
    channelId := conversation.channelId
    threadTs := conversation.threadTs
    messageType := .failure, textBody := rendered.1, blocks := some rendered.2
    idempotencyKey := .rejection (record.eventId ++ ":" ++ suffix) })
  pure ()

/-- A rejection with which the event is ignored. -/
def reject (conversation : Conversation) (workspaceId suffix : String)
    (message : String) : IntakeProg SlackEventOutcome := do
  queueRejection record conversation workspaceId suffix message
  pure .ignored

/-- `UpstashRateLimiter.reserve_upload`, for half an hour. -/
def reserveUpload (identifier pathname : String) (units : Nat) :
    IntakeProg RateLimitDecision :=
  if pathname = "" then .raise (Exn.valueError "pathname is required")
  else if units < 1 then .raise (Exn.valueError "units must be at least 1")
  else if !settings.limiter.configured then
    pure (disabledDecision settings.limiter)
  else
    (callLimiter (.reserve settings.policy identifier pathname 1800 units
        (settings.limiter.mode = .observe))).andThen fun reply =>
      .done (reserveDecision intOfText settings.limiter reply)

/-! ## Attachments -/

/-- What `_process` passes on to `_process_file`. -/
def submission (conversation : Conversation) (account : UserAccount)
    (position : Nat) (file : SlackFile) (reviewJobId : Uuid) :
    SlackSubmission where
  eventId := record.eventId
  fileId := truthy (some file.id)
  fileIndex := position
  installationId := conversation.installation.id
  workspaceId := account.personalWorkspaceId.getD ""
  accountEmail := account.email
  channelId := conversation.channelId
  threadTs := conversation.threadTs
  sourceKey := "slack:" ++ record.teamId ++ ":" ++ conversation.channelId ++ ":" ++
    conversation.threadTs
  reviewJobId := reviewJobId
  maxFileSizeMb := settings.maxFileSizeMb

/-- `SlackFileSubmissionBusy`. -/
def busy (message : String) : Exn := ⟨.slackFileSubmissionBusy, message⟩

/-- An attachment whose submission is claimed. -/
def processClaimedFile (conversation : Conversation) (account : UserAccount)
    (position : Nat) (file : SlackFile) (leaseToken reviewJobId : Uuid) :
    IntakeProg Unit :=
  let submission := submission settings record conversation account position file
    reviewJobId
  (forAttachment position (processFile submission)).handle fun
    | .error error => do
        let _ ← callIntakeSlack (.releaseFileSubmission record.eventId
          submission.fileKey leaseToken)
        .raise error
    | .ok _ => do
        let completed : Bool ← callIntakeSlack (.completeFileSubmission
          record.eventId submission.fileKey leaseToken)
        Prog.onlyIf (!completed)
          (.raise (busy
            "Slack attachment lease ownership changed during processing"))

/-- The loop over the attachments; the flag says that one of them was busy. -/
def processFiles (conversation : Conversation) (account : UserAccount) :
    Nat → List SlackFile → Bool → IntakeProg Bool
  | _, [], busySubmission => pure busySubmission
  | position, file :: rest, busySubmission => do
      let fileKey := (truthy (some file.id)).getD (toString position)
      let claim : SlackLeaseClaim ←
        callIntakeSlack (.claimFileSubmission record.eventId fileKey 300)
      match claim.status with
      | .completed =>
          processFiles conversation account (position + 1) rest busySubmission
      | .busy => processFiles conversation account (position + 1) rest true
      | .claimed =>
          match claim.leaseToken, claim.reviewJobId with
          | some leaseToken, some reviewJobId => do
              processClaimedFile settings record conversation account position file
                leaseToken reviewJobId
              processFiles conversation account (position + 1) rest busySubmission
          | _, _ => .raise Exn.assertionError

/-- `_process` after the admission. -/
def processAdmitted (body : SlackEventBody) (conversation : Conversation)
    (account : UserAccount) (files : List SlackFile) :
    IntakeProg SlackEventOutcome := do
  callService (.linkUser record.teamId body.user account.id account.email)
  let _ ← Prog.perform (IntakeCall.review none (.external .openService))
  let closing : IntakeProg Unit := do
    let _ ← Prog.perform (IntakeCall.review none (.external .closeService))
    pure ()
  let busySubmission ←
    (processFiles settings record conversation account 0 files false).tryFinally
      closing
  if busySubmission then
    .raise (busy
      "A Slack attachment is still being processed by another event delivery")
  else
    pure .processed

/-! ## Events -/

/-- `_process` with the account that the sender is charged under. -/
def processAccount (body : SlackEventBody) (conversation : Conversation)
    (fallbackWorkspace : String) (account : UserAccount)
    (files : List SlackFile) : IntakeProg SlackEventOutcome :=
  match truthy account.personalWorkspaceId with
  | none =>
      reject record conversation fallbackWorkspace "account"
        "Your Samvid account cannot currently accept contracts."
  | some workspaceId =>
      if account.state ≠ .active ∧ account.state ≠ .unclaimed then
        reject record conversation fallbackWorkspace "account"
          "Your Samvid account cannot currently accept contracts."
      else do
        let quota ← reserveUpload settings intOfText account.id
          ("slack-event/" ++ record.eventId) files.length
        if !quota.allowed then
          reject record conversation workspaceId "review-limit"
            "Your contract review limit has been reached. Please try again later."
        else
          processAdmitted settings record body conversation account files

/-- `_process` with an identified sender and attachments. -/
def processSender (body : SlackEventBody) (conversation : Conversation)
    (fallbackWorkspace : String) (user : SlackMemberIdentity)
    (files : List SlackFile) : IntakeProg SlackEventOutcome := do
  let found : Option UserAccount ← callService (.getByEmail user.email)
  match found with
  | some account =>
      processAccount settings intOfText record body conversation fallbackWorkspace
        account files
  | none =>
      let capacity : Bool ← callService
        (.consumeUnknownSenderCapacity record.teamId body.user files.length
          record.eventId)
      if !capacity then
        reject record conversation fallbackWorkspace "bootstrap-limit"
          "The new-user Slack intake limit has been reached. Please try again later."
      else
        let account : UserAccount ←
          callService (.provisionInboundUser user.email user.displayName)
        processAccount settings intOfText record body conversation
          fallbackWorkspace account files

/-- `_process` of a supported event of a known installation. -/
def processSupported (body : SlackEventBody)
    (installation : SlackInstallation) : IntakeProg SlackEventOutcome := do
  let _ ← callService (.decryptToken installation.encryptedBotToken)
  let user ← resolveUser settings body.user
  let files := body.files.take maxSlackAttachments
  match body.channel, body.thread with
  | some channelId, some threadTs =>
      let conversation : Conversation := { installation, channelId, threadTs }
      let fallbackWorkspace ← installationWorkspace installation
      match user with
      | none =>
          reject record conversation fallbackWorkspace "identity"
            "Only active, native human workspace members with an email address can submit contracts."
      | some user =>
          if files.isEmpty then
            reject record conversation fallbackWorkspace "files"
              "Attach a PDF, DOCX, or plain-text contract to your DM or @mention."
          else
            processSender settings intOfText record body conversation
              fallbackWorkspace user files
  | none, _ => .raise (keyError "'channel'")
  | some _, none => .raise (keyError "'ts'")

/-- `SlackIntakeWorker._process`. -/
def process : IntakeProg SlackEventOutcome :=
  if settings.slackPilotTeamIds ≠ [] ∧
      record.teamId ∉ settings.slackPilotTeamIds then
    pure .ignored
  else
    match settings.bodyOf record.payload with
    | none => pure .ignored
    | some body =>
        if !body.isSupported then pure .ignored
        else do
          let installation : Option SlackInstallation ←
            callService (.getInstallationByTeam record.teamId)
          match installation with
          | none => pure .ignored
          | some installation =>
              processSupported settings intOfText record body installation

/-- `_queue_terminal_event_failure`. -/
def queueTerminalEventFailure : IntakeProg Unit :=
  match settings.bodyOf record.payload with
  | none => pure ()
  | some body =>
      match truthy body.channel, truthy body.ts with
      | some channelId, some ts => do
          let installation : Option SlackInstallation ←
            callService (.getInstallationByTeam record.teamId)
          match installation with
          | none => pure ()
          | some installation => do
              let workspaceId ← installationWorkspace installation
              queueRejection record
                { installation, channelId
                  threadTs := (truthy (some body.threadTs)).getD ts }
                workspaceId "terminal"
                "Samvid could not process this Slack request after several attempts. Please try again."
      | _, _ => pure ()

/-- `complete_event`. -/
def completeEvent (outcome : SlackEventOutcome) : IntakeProg Unit := do
  let _ ← callIntakeSlack (.completeEvent record.id record.leaseToken
    (outcome = .ignored))
  pure ()

/-- `retry_event_contention`. -/
def retryContention : IntakeProg Unit := do
  let _ ← callIntakeSlack (.retryEventContention record.id record.leaseToken 30)
  pure ()

/-- `retry_event`, and the notice that the attempts are used up. -/
def retryEvent : IntakeProg Unit := do
  let retryStatus : RetryOutcome ← callIntakeSlack (.retryEvent record.id
    record.leaseToken record.attempts 5 none)
  Prog.onlyIf (retryStatus = .failed)
    ((queueTerminalEventFailure settings record).tryExcept fun _ => pure ())

/-- `run_once` on one claimed event. -/
def handleEvent : IntakeProg Unit :=
  (process settings intOfText record).handle fun
    | .ok outcome => completeEvent record outcome
    | .error error =>
        if error.kind = .slackFileSubmissionBusy then retryContention record
        else retryEvent settings record

end SlackIntake

end ContractMate
