import ContractMate.EffectProgram
import ContractMate.ReviewDatabase
import ContractMate.SessionTransaction

/-!
# Calls of intake and worker

Everything that the intake and the review worker ask of their surroundings:
repository calls, and calls to the broker, the object store, the parser, the OCR
provider and the model.  Two environments answer them.  In a `ReviewWorld` every
repository call is one committed transaction; in a `SessionWorld` the calls share
one PostgreSQL connection and commit only where that connection does.
-/

namespace ContractMate

open SessionTransaction

/-- The routing keys under which a delivery republishes its job. -/
inductive PublishRoute where
  | retry
  | dead
deriving DecidableEq, Repr

/-- What `files_info` tells about an attachment, with the fallbacks of the event
already applied. -/
structure LiveFile where
  filename : String
  declaredSize : Int := 0
  url : String := ""
  mimeType : Option String := none
deriving DecidableEq, Repr

/-- A call to anything but the database. -/
inductive ExternalCall where
  | openService
  | closeService
  | createHeartbeat (submissionKey : String) (leaseToken : Uuid)
  | startHeartbeat
  | stopHeartbeat
  | createTempFile
  | unlinkFile
  | filesInfo (fileKey : String)
  | downloadSlackFile (url : String)
  | validateUploadedFile (declaredMimeType : Option String)
  | storeContractFile (workspaceId sha256 : String)
  | downloadContractFile (objectKey : String)
  | parse (documentId : Uuid) (sha256 mimeType : String)
  | ocrExtract (document : ParsedDocument)
  | createValidatedReview (contractId : Uuid) (document : ParsedDocument)
  | enqueueJob (payload : JobPayload)
  | publishConfirmed (route : PublishRoute) (job : ContractReviewJob)
  | basicAck
  | basicNack

namespace ExternalCall

def Ret : ExternalCall → Type
  | filesInfo .. => LiveFile
  | validateUploadedFile .. => FileValidation
  | storeContractFile .. => String
  | parse .. | ocrExtract .. => ParsedDocument
  | createValidatedReview .. => EvidenceValidationResult
  | enqueueJob .. => ContractReviewJob
  | _ => Unit

end ExternalCall

/-- A call of intake or worker. -/
inductive ReviewCall where
  | slack (call : SlackCall)
  | database (call : DatabaseCall)
  | external (call : ExternalCall)

def ReviewCall.Ret : ReviewCall → Type
  | slack call => call.Ret
  | database call => call.Ret
  | external call => call.Ret

/-- One answered call of a run. -/
abbrev ReviewAnswer := (request : ReviewCall) × Except Exn request.Ret

/-- Programs of intake and worker. -/
abbrev ReviewProg := Prog ReviewCall ReviewCall.Ret Exn

def callSlack (call : SlackCall) : ReviewProg call.Ret :=
  Prog.perform (ReviewCall.slack call)

def callDatabase (call : DatabaseCall) : ReviewProg call.Ret :=
  Prog.perform (ReviewCall.database call)

def callExternal (call : ExternalCall) : ReviewProg call.Ret :=
  Prog.perform (ReviewCall.external call)

/-- How a call comes out.  `raiseAfter` raises although the broker took the
message or the acknowledgement; `abort` leaves the connection's transaction
failed; the others are the answers of external services. -/
inductive Choice where
  | proceed
  | raise (error : Exn)
  | raiseAfter (error : Exn)
  | abort (error : Exn)
  | described (file : LiveFile)
  | validated (validation : FileValidation)
  | stored (objectKey : String)
  | parsed (document : ParsedDocument)
  | reviewed (result : EvidenceValidationResult)

/-- The broker: jobs waiting in the review and retry queues, deliveries that are
not acknowledged yet, and dead letters. -/
structure Broker where
  ready : List ContractReviewJob := []
  unacked : List (Nat × ContractReviewJob) := []
  dead : List ContractReviewJob := []

namespace Broker

def holds (broker : Broker) (delivery : Nat) : Bool :=
  broker.unacked.any fun entry => entry.1 = delivery

def drop (broker : Broker) (delivery : Nat) : List (Nat × ContractReviewJob) :=
  broker.unacked.filter fun entry => entry.1 ≠ delivery

def publish (broker : Broker) (route : PublishRoute) (job : ContractReviewJob) :
    Broker :=
  match route with
  | .retry => { broker with ready := broker.ready ++ [job] }
  | .dead => { broker with dead := broker.dead ++ [job] }

def ack (broker : Broker) (delivery : Nat) : Broker :=
  { broker with unacked := broker.drop delivery }

/-- The delivery's job goes back to the queue. -/
def requeue (broker : Broker) (delivery : Nat) : Broker :=
  { broker with
    unacked := broker.drop delivery
    ready := broker.ready ++
      (broker.unacked.filter fun entry => entry.1 = delivery).map Prod.snd }

end Broker

/-- What a broken channel raises. -/
def channelClosed : Exn := ⟨.brokerError, "Channel is closed."⟩

/-- What a connection raises whose transaction has failed. -/
def inFailedTransaction : Exn :=
  ⟨.databaseError, "current transaction is aborted"⟩

/-- An operation of a delivery on its channel. -/
def respondChannel (broker after : Broker) (delivery : Nat) :
    Choice → Option (Except Exn Unit × Broker)
  | .proceed =>
      if broker.holds delivery then some (.ok (), after)
      else some (.error channelClosed, broker)
  | .raise error => some (.error error, broker)
  | .raiseAfter error =>
      if broker.holds delivery then some (.error error, after)
      else some (.error channelClosed, broker)
  | _ => none

/-- An operation whose outcome is of no further consequence. -/
def respondPlain (broker : Broker) :
    Choice → Option (Except Exn Unit × Broker)
  | .proceed => some (.ok (), broker)
  | .raise error => some (.error error, broker)
  | _ => none

/-- How the surroundings answer the calls of the delivery numbered `delivery`. -/
def respondExternal (stamp : Stamp) (broker : Broker) (delivery : Nat)
    (choice : Choice) : (call : ExternalCall) →
    Option (Except Exn call.Ret × Broker)
  | .filesInfo .. =>
      match choice with
      | .described file => some (.ok file, broker)
      | .raise error => some (.error error, broker)
      | _ => none
  | .validateUploadedFile .. =>
      match choice with
      | .validated validation => some (.ok validation, broker)
      | .raise error => some (.error error, broker)
      | _ => none
  | .storeContractFile .. =>
      match choice with
      | .stored objectKey => some (.ok objectKey, broker)
      | .raise error => some (.error error, broker)
      | _ => none
  | .parse .. =>
      match choice with
      | .parsed document => some (.ok document, broker)
      | .raise error => some (.error error, broker)
      | _ => none
  | .ocrExtract .. =>
      match choice with
      | .parsed document => some (.ok document, broker)
      | .raise error => some (.error error, broker)
      | _ => none
  | .createValidatedReview .. =>
      match choice with
      | .reviewed result => some (.ok result, broker)
      | .raise error => some (.error error, broker)
      | _ => none
  | .enqueueJob payload =>
      let job := payload.toJob (stamp.uuid4 0)
      match choice with
      | .proceed => some (.ok job, broker.publish .retry job)
      | .raise error => some (.error error, broker)
      | .raiseAfter error => some (.error error, broker.publish .retry job)
      | _ => none
  | .publishConfirmed route job =>
      respondChannel broker (broker.publish route job) delivery choice
  | .basicAck => respondChannel broker (broker.ack delivery) delivery choice
  | .basicNack => respondChannel broker (broker.requeue delivery) delivery choice
  | .openService => respondPlain broker choice
  | .closeService => respondPlain broker choice
  | .createHeartbeat _ _ => respondPlain broker choice
  | .startHeartbeat => respondPlain broker choice
  | .stopHeartbeat => respondPlain broker choice
  | .createTempFile => respondPlain broker choice
  | .unlinkFile => respondPlain broker choice
  | .downloadContractFile _ => respondPlain broker choice
  | .downloadSlackFile _ => respondPlain broker choice

/-- The body of a Slack call on the whole database. -/
def ReviewDatabase.slackBody (database : ReviewDatabase) (stamp : Stamp)
    (call : SlackCall) : Except Exn (call.Ret × ReviewDatabase) :=
  (call.body stamp database.slack).map fun answer =>
    (answer.1, { database with slack := answer.2 })

/-! ## Committed calls -/

/-- The world in which every repository call commits when it returns. -/
structure ReviewWorld where
  database : ReviewDatabase
  now : Int := 0
  calls : Nat := 0
  broker : Broker := {}

namespace ReviewWorld

def stamp (world : ReviewWorld) : Stamp :=
  ⟨world.now, world.calls⟩

/-- A repository call: all of its body, or nothing and an exception. -/
def respondBody {Value : Type} (world : ReviewWorld)
    (body : Except Exn (Value × ReviewDatabase)) :
    Choice → Option (Except Exn Value × ReviewWorld)
  | .proceed =>
      match body with
      | .ok (value, database) =>
          some (.ok value, { world with database, calls := world.calls + 1 })
      | .error error =>
          some (.error error, { world with calls := world.calls + 1 })
  | .raise error =>
      some (.error error, { world with calls := world.calls + 1 })
  | _ => none

/-- How the world answers a call of the delivery numbered `delivery`. -/
def respond (delivery : Nat) :
    Prog.Respond ReviewCall ReviewCall.Ret Exn ReviewWorld Choice :=
  fun choice world request =>
    match request with
    | .slack call =>
        world.respondBody (world.database.slackBody world.stamp call) choice
    | .database call =>
        world.respondBody (call.body world.stamp world.database) choice
    | .external call =>
        (respondExternal world.stamp world.broker delivery choice call).map
          fun answer =>
            (answer.1,
              { world with broker := answer.2, calls := world.calls + 1 })

section Answers

variable {world after : ReviewWorld} {choice : Choice} {delivery : Nat}

/-- A repository call commits its body, or raises and changes nothing. -/
theorem respond_slack {call : SlackCall} {reply : Except Exn call.Ret}
    (run : ReviewWorld.respond delivery choice world (.slack call) =
      some (reply, after)) :
    after = { world with database := after.database, calls := world.calls + 1 } ∧
      ((∃ answer, reply = .ok answer ∧
        world.database.slackBody world.stamp call =
          .ok (answer, after.database)) ∨
      (reply.isOk = false ∧ after.database = world.database)) := by
  simp only [ReviewWorld.respond, respondBody] at run
  split at run
  · split at run
    · cases run
      exact ⟨rfl, .inl ⟨_, rfl, ‹_›⟩⟩
    · cases run
      exact ⟨rfl, .inr ⟨rfl, rfl⟩⟩
  · cases run
    exact ⟨rfl, .inr ⟨rfl, rfl⟩⟩
  · cases run

theorem respond_database {call : DatabaseCall} {reply : Except Exn call.Ret}
    (run : ReviewWorld.respond delivery choice world (.database call) =
      some (reply, after)) :
    after = { world with database := after.database, calls := world.calls + 1 } ∧
      ((∃ answer, reply = .ok answer ∧
        call.body world.stamp world.database = .ok (answer, after.database)) ∨
      (reply.isOk = false ∧ after.database = world.database)) := by
  simp only [ReviewWorld.respond, respondBody] at run
  split at run
  · split at run
    · cases run
      exact ⟨rfl, .inl ⟨_, rfl, ‹_›⟩⟩
    · cases run
      exact ⟨rfl, .inr ⟨rfl, rfl⟩⟩
  · cases run
    exact ⟨rfl, .inr ⟨rfl, rfl⟩⟩
  · cases run

/-- An external call leaves the database. -/
theorem respond_external {call : ExternalCall} {reply : Except Exn call.Ret}
    (run : ReviewWorld.respond delivery choice world (.external call) =
      some (reply, after)) :
    after = { world with broker := after.broker, calls := world.calls + 1 } ∧
      respondExternal world.stamp world.broker delivery choice call =
        some (reply, after.broker) := by
  simp only [ReviewWorld.respond] at run
  obtain ⟨answer, answered, same⟩ := Option.map_eq_some_iff.mp run
  cases same
  exact ⟨rfl, answered⟩

end Answers

end ReviewWorld

/-! ## Calls on one PostgreSQL connection -/

/-- The world of one PostgreSQL connection. -/
structure SessionWorld where
  session : Session ReviewDatabase
  now : Int := 0
  calls : Nat := 0
  broker : Broker := {}

namespace SessionWorld

def stamp (world : SessionWorld) : Stamp :=
  ⟨world.now, world.calls⟩

/-- The failure a choice injects into a repository call. -/
def fault : Choice → Option (Option (Fault Exn))
  | .proceed => some none
  | .raise error => some (some ⟨error, false⟩)
  | .abort error => some (some ⟨error, true⟩)
  | _ => none

/-- A repository call on the connection, by the kind of its block. -/
def respondBlock {Value : Type} (world : SessionWorld) (kind : BlockKind)
    (body : ReviewDatabase → Except Exn (Value × ReviewDatabase))
    (choice : Choice) : Option (Except Exn Value × SessionWorld) :=
  (fault choice).map fun fault =>
    let answer := match kind with
      | .bare => world.session.bare inFailedTransaction body fault
      | .commits => world.session.commits inFailedTransaction body fault
      | .nested => world.session.nested inFailedTransaction body fault
    (answer.1,
      { world with session := answer.2, calls := world.calls + 1 })

/-- The service owns the connection: it is opened and closed with it. -/
def sessionAfter : ExternalCall → Session ReviewDatabase →
    Session ReviewDatabase
  | .openService, session => session.close
  | .closeService, session => session.close
  | _, session => session

/-- How the connection's world answers a call. -/
def respond (delivery : Nat) :
    Prog.Respond ReviewCall ReviewCall.Ret Exn SessionWorld Choice :=
  fun choice world request =>
    match request with
    | .slack call =>
        world.respondBlock .nested
          (fun database => database.slackBody world.stamp call) choice
    | .database call =>
        world.respondBlock call.kind (call.body world.stamp) choice
    | .external call =>
        (respondExternal world.stamp world.broker delivery choice call).map
          fun answer =>
            (answer.1,
              { world with
                session := sessionAfter call world.session
                broker := answer.2
                calls := world.calls + 1 })

section Answers

variable {world after : SessionWorld} {choice : Choice} {delivery : Nat}

theorem respond_slack {call : SlackCall} {reply : Except Exn call.Ret}
    (run : SessionWorld.respond delivery choice world (.slack call) =
      some (reply, after)) :
    ∃ fault, world.session.nested inFailedTransaction
      (fun database => database.slackBody world.stamp call) fault =
        (reply, after.session) := by
  simp only [SessionWorld.respond, SessionWorld.respondBlock] at run
  obtain ⟨fault, _, same⟩ := Option.map_eq_some_iff.mp run
  cases same
  exact ⟨fault, rfl⟩

theorem respond_database {call : DatabaseCall}
    {reply : Except Exn call.Ret}
    (run : SessionWorld.respond delivery choice world (.database call) =
      some (reply, after)) :
    ∃ fault, (match call.kind with
      | .bare =>
          world.session.bare inFailedTransaction (call.body world.stamp) fault
      | .commits =>
          world.session.commits inFailedTransaction (call.body world.stamp)
            fault
      | .nested =>
          world.session.nested inFailedTransaction (call.body world.stamp)
            fault) = (reply, after.session) := by
  simp only [SessionWorld.respond, SessionWorld.respondBlock] at run
  obtain ⟨fault, _, same⟩ := Option.map_eq_some_iff.mp run
  cases same
  refine ⟨fault, ?_⟩
  cases call.kind <;> rfl

theorem respond_calls {request : ReviewCall} {reply : Except Exn request.Ret}
    (run : SessionWorld.respond delivery choice world request =
      some (reply, after)) : after.calls = world.calls + 1 := by
  cases request with
  | slack call | database call =>
      obtain ⟨fault, _, same⟩ := Option.map_eq_some_iff.mp run
      cases same
      rfl
  | external call =>
      obtain ⟨answer, _, same⟩ := Option.map_eq_some_iff.mp run
      cases same
      rfl

/-- An external call keeps the session or closes it. -/
theorem respond_external {call : ExternalCall}
    {reply : Except Exn call.Ret}
    (run : SessionWorld.respond delivery choice world (.external call) =
      some (reply, after)) :
    after.session = SessionWorld.sessionAfter call world.session := by
  simp only [SessionWorld.respond] at run
  obtain ⟨answer, _, same⟩ := Option.map_eq_some_iff.mp run
  cases same
  rfl

theorem sessionAfter_committed (call : ExternalCall)
    (session : Session ReviewDatabase) :
    (SessionWorld.sessionAfter call session).committed = session.committed := by
  cases call <;> rfl

end Answers

end SessionWorld

end ContractMate
