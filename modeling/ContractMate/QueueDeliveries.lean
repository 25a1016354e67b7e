import ContractMate.JobMessages
import ContractMate.ProgramPool
import ContractMate.RowTable

/-!
# Deliveries of the job queues

Publishers and consumers of the RabbitMQ queues, as programs over the calls to
their connections.  A delivery acknowledges its message, or republishes its job and
then acknowledges it; any of these calls may fail before or after the broker acts.
-/

namespace ContractMate

/-! ## Families of jobs -/

/-- The methods of a delivery. -/
inductive DeliveryMethod where
  | ack
  | retry
  | retryContention
  | deadLetter
deriving DecidableEq, Repr

/-- A kind of job with its messages, its topology's `max_attempts` and the methods
of its deliveries.  `read` is a job as it arrives. -/
structure JobFamily where
  Job : Type
  [decidableJob : DecidableEq Job]
  Method : Type
  delivery : Method → DeliveryMethod
  toMessage : Job → Json
  fromMessage : Json → Except Exn Job
  read : Job → Job
  attempt : Job → Int
  withAttempt : Job → Int → Job
  maxAttempts : Int
  maxAttempts_pos : 1 ≤ maxAttempts
  reads : ∀ job, fromMessage (toMessage job) = .ok (read job)
  read_read : ∀ job, read (read job) = read job
  read_withAttempt : ∀ job count,
    read (withAttempt job count) = withAttempt (read job) count
  attempt_read : ∀ job, attempt (read job) = attempt job
  attempt_withAttempt : ∀ job count, attempt (withAttempt job count) = count
  withAttempt_withAttempt : ∀ job count other,
    withAttempt (withAttempt job count) other = withAttempt job other
  withAttempt_attempt : ∀ job, withAttempt job (attempt job) = job

attribute [instance] JobFamily.decidableJob

/-- `KnowledgeQueueTopology`, as the deliveries consult it. -/
structure KnowledgeQueueTopology where
  maxAttempts : Int := 3
  maxAttempts_pos : 1 ≤ maxAttempts := by first | exact three_attempts | decide

/-- The methods of a `RabbitMQKnowledgeDelivery`. -/
inductive KnowledgeDeliveryMethod where
  | ack
  | retry
  | deadLetter
deriving DecidableEq, Repr

def KnowledgeDeliveryMethod.delivery : KnowledgeDeliveryMethod → DeliveryMethod
  | ack => .ack
  | retry => .retry
  | deadLetter => .deadLetter

section Families

variable (strOf : Json → String) (intOfText : String → Option Int)

/-- Contract-review jobs. -/
def reviewJobs (topology : QueueTopology) : JobFamily where
  Job := QueuedReviewJob
  Method := DeliveryMethod
  delivery := id
  toMessage := QueuedReviewJob.toMessage
  fromMessage := QueuedReviewJob.fromMessage strOf intOfText
  read := QueuedReviewJob.read
  attempt := QueuedReviewJob.attempt
  withAttempt := fun job attempt => { job with attempt }
  maxAttempts := topology.maxAttempts
  maxAttempts_pos := topology.maxAttempts_pos
  reads := QueuedReviewJob.fromMessage_toMessage
  read_read := QueuedReviewJob.read_read
  read_withAttempt := fun _ _ => rfl
  attempt_read := fun _ => rfl
  attempt_withAttempt := fun _ _ => rfl
  withAttempt_withAttempt := fun _ _ _ => rfl
  withAttempt_attempt := fun _ => rfl

/-- Knowledge-index jobs. -/
def indexJobs (topology : KnowledgeQueueTopology) : JobFamily where
  Job := KnowledgeIndexJob
  Method := KnowledgeDeliveryMethod
  delivery := KnowledgeDeliveryMethod.delivery
  toMessage := KnowledgeIndexJob.toMessage
  fromMessage := KnowledgeIndexJob.fromMessage strOf intOfText
  read := id
  attempt := KnowledgeIndexJob.attempt
  withAttempt := fun job attempt => { job with attempt }
  maxAttempts := topology.maxAttempts
  maxAttempts_pos := topology.maxAttempts_pos
  reads := KnowledgeIndexJob.fromMessage_toMessage
  read_read := fun _ => rfl
  read_withAttempt := fun _ _ => rfl
  attempt_read := fun _ => rfl
  attempt_withAttempt := fun _ _ => rfl
  withAttempt_withAttempt := fun _ _ _ => rfl
  withAttempt_attempt := fun _ => rfl

end Families

/-! ## Calls -/

/-- The routing keys of a topology, each bound to one durable queue. -/
inductive QueueRoute where
  | requested
  | retry
  | dead
deriving DecidableEq, Repr

/-- A call to a connection.  An acknowledgement carries the method that makes
it. -/
inductive QueueCall where
  | openConnection
  | openChannel
  | confirmsEnabled
  | confirmDelivery
  | basicPublish (route : QueueRoute) (message : Json)
  | basicGet
  | basicAck (method : DeliveryMethod)
  | basicNack
  | closeConnection

def QueueCall.Ret : QueueCall → Type
  | confirmsEnabled => Bool
  | basicGet => Option Json
  | _ => Unit

abbrev QueueProg := Prog QueueCall QueueCall.Ret Exn

def callQueue (call : QueueCall) : QueueProg call.Ret :=
  Prog.perform call

/-! ## Publishing -/

section Programs

variable (family : JobFamily)

/-- `publish`. -/
def publishJob (route : QueueRoute) (job : family.Job) : QueueProg Unit := do
  callQueue .openConnection
  Prog.tryFinally
    (do
      callQueue .openChannel
      callQueue .confirmDelivery
      callQueue (.basicPublish route (family.toMessage job)))
    (callQueue .closeConnection)

/-! ## Deliveries -/

/-- `RabbitMQDelivery` and `RabbitMQKnowledgeDelivery`, without connection, channel
and tag, which the calls of a delivery belong to. -/
structure RabbitMQDelivery where
  job : family.Job
  closeConnectionOnFinish : Bool := true

namespace RabbitMQDelivery

variable {family} (delivery : RabbitMQDelivery family)

/-- `getattr(channel, "_contractmate_confirms_enabled", False)`. -/
def confirmsOn : QueueProg Bool :=
  callQueue .confirmsEnabled

/-- `_publish_confirmed_on_channel`. -/
def publishConfirmed (route : QueueRoute) (job : family.Job) : QueueProg Unit := do
  let enabled ← confirmsOn
  Prog.onlyIf (!enabled) (callQueue .confirmDelivery)
  callQueue (.basicPublish route (family.toMessage job))

/-- `_close_connection_if_needed`. -/
def closeConnectionIfNeeded : QueueProg Unit :=
  .onlyIf delivery.closeConnectionOnFinish (callQueue .closeConnection)

/-- `ack`. -/
def ack : QueueProg Unit :=
  (callQueue (.basicAck .ack)).tryFinally delivery.closeConnectionIfNeeded

/-- The republishing methods put a job on a queue and then acknowledge the
message. -/
def republish (method : DeliveryMethod) (route : QueueRoute) (job : family.Job) :
    QueueProg Unit :=
  Prog.tryFinally
    (do
      publishConfirmed route job
      callQueue (.basicAck method))
    delivery.closeConnectionIfNeeded

/-- `dead_letter`. -/
def deadLetter : QueueProg Unit :=
  delivery.republish .deadLetter .dead delivery.job

/-- `retry`. -/
def retry : QueueProg Unit :=
  if family.maxAttempts ≤ family.attempt delivery.job then delivery.deadLetter
  else
    delivery.republish .retry .retry
      (family.withAttempt delivery.job (family.attempt delivery.job + 1))

/-- `retry_contention`. -/
def retryContention : QueueProg Unit :=
  delivery.republish .retryContention .retry delivery.job

def run : DeliveryMethod → QueueProg Unit
  | .ack => delivery.ack
  | .retry => delivery.retry
  | .retryContention => delivery.retryContention
  | .deadLetter => delivery.deadLetter

end RabbitMQDelivery

/-- What a worker does with a job, as far as its delivery is concerned: it calls
methods and goes on with what each of them raises or returns. -/
abbrev DeliveryHandler :=
  family.Job → Prog family.Method (fun _ => Unit) Exn Unit

variable {family}

/-- A handler's calls, carried out on a delivery. -/
def handleDelivery (delivery : RabbitMQDelivery family) :
    Prog family.Method (fun _ => Unit) Exn Unit → QueueProg Unit
  | .done result => .done result
  | .call method next =>
      (delivery.run (family.delivery method)).handle fun reply =>
        handleDelivery delivery (next reply)

/-- A message becomes a delivery. -/
def openDelivery (closes : Bool) (message : Json) :
    QueueProg (RabbitMQDelivery family) :=
  match family.fromMessage message with
  | .ok job => pure ⟨job, closes⟩
  | .error error => .raise error

/-- The broker's next message, if it has one. -/
def nextMessage : QueueProg (Option Json) :=
  callQueue .basicGet

/-- The callback of `consume`: an exception requeues the message, if the channel
still can. -/
def consumeMessage (closes : Bool) (handler : DeliveryHandler family) :
    QueueProg Unit := do
  let message ← nextMessage
  match message with
  | none => pure ()
  | some message =>
      Prog.tryExcept
        (do
          let delivery ← openDelivery closes message
          handleDelivery delivery (handler delivery.job))
        fun _ => (callQueue .basicNack).tryExcept fun _ => pure ()

/-- `receive`, and the worker that called it. -/
def receiveMessage (closes : Bool) (handler : DeliveryHandler family) :
    QueueProg Unit :=
  Prog.handle
    (do
      let message ← nextMessage
      match message with
      | none => pure none
      | some message => do
          let delivery ← openDelivery closes message
          pure (some delivery))
    fun
      | .error error => do
          callQueue .closeConnection
          .raise error
      | .ok none => pure ()
      | .ok (some delivery) => handleDelivery delivery (handler delivery.job)

end Programs

/-! ## The broker -/

/-- The durable queues, the messages that are not acknowledged yet by the delivery
that holds them, and the channels on which publications are confirmed. -/
structure QueueWorld where
  requested : List Json := []
  retry : List Json := []
  dead : List Json := []
  unacked : RowTable (Prod.fst : Nat × Json → Nat) := RowTable.empty
  confirming : Nat → Bool := fun _ => false

namespace QueueWorld

variable (world : QueueWorld)

/-- A message is stored in the queue that its routing key is bound to. -/
def store (route : QueueRoute) (message : Json) : QueueWorld :=
  match route with
  | .requested => { world with requested := world.requested ++ [message] }
  | .retry => { world with retry := world.retry ++ [message] }
  | .dead => { world with dead := world.dead ++ [message] }

/-- The broker forgets what a delivery holds. -/
def drop (delivery : Nat) : QueueWorld :=
  { world with
    unacked := world.unacked.deleteWhere fun entry => entry.1 = delivery }

/-- The message goes back to its queue. -/
def requeue (delivery : Nat) : QueueWorld :=
  match world.unacked.find? delivery with
  | none => world
  | some entry => { world.drop delivery with requested := world.requested ++ [entry.2] }

/-- The broker hands one of the waiting messages to a delivery that holds none. -/
def hand (delivery index : Nat) : Option (Json × QueueWorld) :=
  match world.requested[index]? with
  | none => none
  | some message =>
      (world.unacked.insert? (delivery, message)).map fun unacked =>
        (message, { world with requested := world.requested.eraseIdx index, unacked })

/-- A message has waited for `retry_ttl_ms` and goes on to the review queue. -/
def expire (index : Nat) : Option QueueWorld :=
  world.retry[index]?.map fun message =>
    { world with
      retry := world.retry.eraseIdx index
      requested := world.requested ++ [message] }

def confirm (delivery : Nat) (confirms : Bool) : QueueWorld :=
  { world with confirming := Function.update world.confirming delivery confirms }

end QueueWorld

/-- How a call comes out: it is done, it is refused, it is done but raises all the
same, or it returns although its frame never arrives. -/
inductive QueueChoice where
  | done
  | refused (error : Exn)
  | doneRaising (error : Exn)
  | lost
  | handed (index : Nat) (failure : Option Exn)

/-- The broker has acted. -/
def QueueChoice.acts : QueueChoice → Bool
  | done | doneRaising _ => true
  | _ => false

/-- A call that nothing depends on. -/
def respondIdle (world : QueueWorld) :
    QueueChoice → Option (Except Exn Unit × QueueWorld)
  | .done => some (.ok (), world)
  | .refused error => some (.error error, world)
  | _ => none

/-- A call of which the client only learns whether its frame went out. -/
def respondUnconfirmed (world after : QueueWorld) :
    QueueChoice → Option (Except Exn Unit × QueueWorld)
  | .done => some (.ok (), after)
  | .refused error => some (.error error, world)
  | .doneRaising error => some (.error error, after)
  | .lost => some (.ok (), world)
  | .handed .. => none

/-- How the broker answers a call of the delivery, or publication, numbered
`delivery`.  A publication that returns on a confirming channel is stored. -/
def QueueWorld.respond (delivery : Nat) :
    Prog.Respond QueueCall QueueCall.Ret Exn QueueWorld QueueChoice :=
  fun choice world request =>
    match request with
    | .openConnection => respondIdle world choice
    | .openChannel => respondIdle world choice
    | .confirmsEnabled =>
        match choice with
        | .done => some (.ok (world.confirming delivery), world)
        | _ => none
    | .confirmDelivery =>
        match choice with
        | .done => some (.ok (), world.confirm delivery true)
        | .refused error => some (.error error, world)
        | _ => none
    | .basicPublish route message =>
        match choice with
        | .lost =>
            if world.confirming delivery then none else some (.ok (), world)
        | choice => respondUnconfirmed world (world.store route message) choice
    | .basicGet =>
        match choice with
        | .handed index failure =>
            (world.hand delivery index).map fun handed =>
              match failure with
              | none => (.ok (some handed.1), handed.2)
              | some error => (.error error, handed.2)
        | .lost => some (.ok none, world)
        | .refused error => some (.error error, world)
        | _ => none
    | .basicAck _ => respondUnconfirmed world (world.drop delivery) choice
    | .basicNack => respondUnconfirmed world (world.requeue delivery) choice
    | .closeConnection => respondUnconfirmed world (world.requeue delivery) choice

/-! ## Publishers and consumers -/

/-- A publication, or a message consumed by callback or by `receive`.  A consumer's
own channels have `confirms` on and outlive their deliveries. -/
inductive QueueTask (family : JobFamily) where
  | publish (route : QueueRoute) (job : family.Job)
  | consume (confirms closes : Bool) (handler : DeliveryHandler family)
  | receive (confirms closes : Bool) (handler : DeliveryHandler family)

def QueueTask.confirms {family : JobFamily} : QueueTask family → Bool
  | .publish .. => false
  | .consume confirms .. | .receive confirms .. => confirms

/-- A connection is lost, or a message has waited long enough. -/
inductive QueueEvent where
  | disconnect (delivery : Nat)
  | expire (index : Nat)
deriving DecidableEq, Repr

/-- The publishers and consumers of a family's queues. -/
def queuePool (family : JobFamily) :
    PoolSystem (QueueTask family) QueueCall QueueCall.Ret Exn Unit QueueWorld
      QueueChoice QueueEvent where
  body
    | .publish route job => publishJob family route job
    | .consume _ closes handler => consumeMessage closes handler
    | .receive _ closes handler => receiveMessage closes handler
  respond := QueueWorld.respond
  launch := fun delivery task world =>
    if (world.unacked.find? delivery).isNone then
      some (world.confirm delivery task.confirms)
    else none
  outside := fun event world =>
    match event with
    | .disconnect delivery => some (world.requeue delivery)
    | .expire index => world.expire index

abbrev QueueStep (family : JobFamily) :=
  PoolStep (QueueTask family) QueueCall QueueCall.Ret Exn Unit QueueWorld QueueChoice
    QueueEvent

abbrev QueueState (family : JobFamily) :=
  PoolState (QueueTask family) QueueCall QueueCall.Ret Exn Unit QueueWorld

abbrev QueueAnswer (family : JobFamily) :=
  PoolAnswer (QueueTask family) QueueCall QueueCall.Ret Exn QueueWorld QueueChoice

end ContractMate
