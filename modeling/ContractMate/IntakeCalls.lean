import ContractMate.InboundEmailEvents
import ContractMate.RateLimitDecisions
import ContractMate.ReviewCalls

/-!
# Calls of the intake paths

What the processing of inbound emails and of Slack events asks of its
repositories, the rate limiter and the services around it, and a world that
answers.
-/

namespace ContractMate

open PythonText

/-- `user_accounts.role`. -/
inductive AccountRole where
  | user
  | superAdmin
deriving DecidableEq, Repr

/-- `user_accounts.state`. -/
inductive AccountState where
  | unclaimed
  | active
deriving DecidableEq, Repr

/-- The columns of `UserAccount` that intake reads. -/
structure UserAccount where
  id : String
  email : String
  role : AccountRole
  state : AccountState
  personalWorkspaceId : Option String
deriving DecidableEq, Repr

/-- What `get_email` returns; missing lists and texts are empty. -/
structure ReceivedEmail where
  receivedFor : List String := []
  toAddresses : List String := []
  sender : String := ""
  replyTo : List String := []
  messageId : String := ""
  headers : Option (List (String × String)) := none
  subject : String := ""
  text : String := ""
deriving DecidableEq, Repr

/-- An entry of `list_attachments`; missing texts are empty and a missing size is
zero. -/
structure ReceivedAttachment where
  filename : String := ""
  contentType : String := ""
  contentDisposition : String := ""
  size : Int := 0
  downloadUrl : String := ""
deriving DecidableEq, Repr

/-- `SlackInstallation`, as intake reads it. -/
structure SlackInstallation where
  id : String
  teamId : String
  encryptedBotToken : String
  installedByAccountId : String
deriving DecidableEq, Repr

/-- The user that `users_info` describes. -/
structure SlackMember where
  email : String := ""
  deleted : Bool := false
  isBot : Bool := false
  isAppUser : Bool := false
  isRestricted : Bool := false
  isUltraRestricted : Bool := false
  isStranger : Bool := false
  displayName : String := ""
  realName : String := ""
deriving DecidableEq, Repr

/-- The receipt that `_queue_receipt` queues, without its rendered text. -/
structure ReceiptIntent where
  workspaceId : String
  threadKey : String
  toAddress : String
  subject : String
  attachmentCount : Nat
  inReplyTo : Option String
  references : Option String
  idempotencyKey : String
deriving DecidableEq, Repr

/-- A call of a service whose own state is of no consequence here. -/
inductive ServiceCall where
  | getEmail (emailId : String)
  | listAttachments (emailId : String)
  | makeAttachmentDir
  | createTempFile (suffix : String)
  | downloadAttachment (url : String) (maxBytes : Int)
  | unlinkFile
  | queueReceipt (intent : ReceiptIntent)
  | sendReviewResponse (toAddress subject : String) (results : Nat)
  | getByEmail (email : String)
  | getById (accountId : String)
  | resolveInboundSender (sender : String)
  | provisionInboundUser (email : String) (displayName : Option String)
  | getInstallationByTeam (teamId : String)
  | decryptToken (encrypted : String)
  | usersInfo (user : String)
  | consumeUnknownSenderCapacity (teamId slackUserId : String)
      (attachments : Nat) (eventId : String)
  | linkUser (teamId slackUserId accountId email : String)
deriving DecidableEq, Repr

def ServiceCall.Ret : ServiceCall → Type
  | getEmail _ => ReceivedEmail
  | listAttachments _ => List ReceivedAttachment
  | getByEmail _ | getById _ => Option UserAccount
  | resolveInboundSender _ => String
  | provisionInboundUser .. => UserAccount
  | getInstallationByTeam _ => Option SlackInstallation
  | decryptToken _ => String
  | usersInfo _ => SlackMember
  | consumeUnknownSenderCapacity .. => Bool
  | _ => Unit

/-- A request of the rate limiter's client to Redis. -/
inductive LimiterRequest where
  | consume (policy : RateLimitPolicy) (identifier : String) (units : Nat)
  | reserve (policy : RateLimitPolicy) (identifier pathname : String)
      (ttlSeconds units : Nat) (observe : Bool)

/-- A call of an intake path.  Repository calls on behalf of one attachment carry
its position. -/
inductive IntakeCall where
  | event (call : InboundEventCall)
  | limiter (request : LimiterRequest)
  | service (call : ServiceCall)
  | review (attachment : Option Nat) (call : ReviewCall)

def InboundEventCall.Ret : InboundEventCall → Type
  | claim .. => InboundEventClaim
  | _ => Unit

def IntakeCall.Ret : IntakeCall → Type
  | event call => call.Ret
  | limiter _ => HttpReply
  | service call => call.Ret
  | review _ call => call.Ret

/-- Programs of the intake paths. -/
abbrev IntakeProg := Prog IntakeCall IntakeCall.Ret Exn

def callEvent (call : InboundEventCall) : IntakeProg call.Ret :=
  Prog.perform (IntakeCall.event call)

def callLimiter (request : LimiterRequest) : IntakeProg HttpReply :=
  Prog.perform (IntakeCall.limiter request)

def callService (call : ServiceCall) : IntakeProg call.Ret :=
  Prog.perform (IntakeCall.service call)

/-- A Slack repository call outside the attachments. -/
def callIntakeSlack (call : SlackCall) : IntakeProg call.Ret :=
  Prog.perform (IntakeCall.review none (.slack call))

/-- A program of the processing service on behalf of an attachment. -/
def forAttachment {Value : Type} (attachment : Nat)
    (program : ReviewProg Value) : IntakeProg Value :=
  program.translate (IntakeCall.review (some attachment))
    fun _ reply => reply

/-! ## The world -/

/-- What the repositories and Redis hold.  Quota keys belong to an operation and an
identifier, reservations to an identifier and a pathname. -/
structure IntakeWorld where
  review : ReviewWorld
  events : InboundEmailEvents := RowTable.empty
  quota : String → String → QuotaKeys := fun _ _ => {}
  reservations : String → String → Option (RedisKey Text) := fun _ _ => none
  redisNow : RedisTime := 0

/-- How a request to Redis comes out: answered, or with a reply that cannot be
read, whether or not the script ran. -/
inductive LimiterOutcome where
  | answered
  | garbled (ran : Bool) (reply : HttpReply)

/-- How a call of an intake path comes out. -/
inductive IntakeChoice where
  | event (failure : Option Exn)
  | limiter (outcome : LimiterOutcome)
  | service (call : ServiceCall) (reply : Except Exn call.Ret)
  | review (choice : Choice)

/-- The body of a reply with a script's numbers. -/
def scriptReply (numbers : List Int) : HttpReply :=
  .decoded (.object [("result", .list (numbers.map Json.int))])

/-- The numbers that the consuming script returns. -/
def WindowsReply.numbers (reply : WindowsReply) : List Int :=
  [if reply.allowed then 1 else 0, reply.minuteRemaining, reply.hourlyRemaining,
    reply.dailyRemaining, reply.minuteRetry, reply.hourlyRetry, reply.dailyRetry]

/-- The numbers that the reserving script returns. -/
def ReservationReply.numbers (reply : ReservationReply) : List Int :=
  reply.action :: reply.windows.numbers

/-- What the client returns for an email's event. -/
def InboundEventCall.answer (table : InboundEmailEvents) (now : Int) :
    (call : InboundEventCall) → call.Ret
  | .claim eventId emailMessageId workspaceId eventType payloadHash =>
      (table.claim now eventId emailMessageId workspaceId eventType payloadHash).1
  | .updateWorkspace .. | .markCompleted _ | .markFailed _ => ()

section Respond

variable (intOfText : String → Option Int)

/-- What the client's reading of a reply raises. -/
def LimiterRequest.readError (reply : HttpReply) :
    LimiterRequest → Option ReplyError
  | consume .. => raisedBy (readConsumed intOfText reply)
  | reserve .. => raisedBy (readReserved intOfText reply)

namespace IntakeWorld

/-- What the script of a request returns, and what it leaves in Redis. -/
def runScript (world : IntakeWorld) : LimiterRequest → List Int × IntakeWorld
  | .consume policy identifier units =>
      let (reply, keys) := consumeWindows policy.limits units world.redisNow
        (world.quota policy.operation identifier)
      (reply.numbers,
        { world with
          quota := Function.update world.quota policy.operation
            (Function.update (world.quota policy.operation) identifier keys) })
  | .reserve policy identifier pathname ttlSeconds units observe =>
      let (reply, keys, reservation) := reserveUploadScript policy.limits units
        (max 1 ttlSeconds) observe world.redisNow
        (world.quota policy.operation identifier,
          world.reservations identifier pathname)
      (reply.numbers,
        { world with
          quota := Function.update world.quota policy.operation
            (Function.update (world.quota policy.operation) identifier keys)
          reservations := Function.update world.reservations identifier
            (Function.update (world.reservations identifier) pathname
              reservation) })

def respondLimiter (world : IntakeWorld) (request : LimiterRequest) :
    LimiterOutcome → Option (HttpReply × IntakeWorld)
  | .answered =>
      some (scriptReply (world.runScript request).1, (world.runScript request).2)
  | .garbled ran reply =>
      if (request.readError intOfText reply).isSome then
        some (reply, if ran then (world.runScript request).2 else world)
      else none

def respondEvent (world : IntakeWorld) (call : InboundEventCall) :
    Option Exn → Except Exn call.Ret × IntakeWorld
  | none =>
      (.ok (call.answer world.events world.review.now),
        { world with events := (call.run world.review.now world.events).2 })
  | some error => (.error error, world)

/-- How the world answers a call of the task numbered `delivery`. -/
def respond (delivery : Nat) :
    Prog.Respond IntakeCall IntakeCall.Ret Exn IntakeWorld IntakeChoice :=
  fun choice world request =>
    match request, choice with
    | .event call, .event failure => some (world.respondEvent call failure)
    | .limiter request, .limiter outcome =>
        (world.respondLimiter intOfText request outcome).map fun answer =>
          (.ok answer.1, answer.2)
    | .service call, .service answered reply =>
        if same : answered = call then some (same ▸ reply, world) else none
    | .review _ call, .review choice =>
        (ReviewWorld.respond delivery choice world.review call).map fun answer =>
          (answer.1, { world with review := answer.2 })
    | _, _ => none

end IntakeWorld

end Respond

end ContractMate
