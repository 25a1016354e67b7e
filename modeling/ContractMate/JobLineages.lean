import ContractMate.EventRuns
import ContractMate.QueueDeliveries

/-!
# Lineages of queued jobs

A message body that reaches a job queue, with the retry copies that are made of it:
what the workers do with a delivery, what the broker holds for it, and how deliveries
overlap, end and lose their connections.
-/

namespace ContractMate

/-! ## What the workers do with a delivery -/

/-- How the `except` clause of `ContractWorker._process_delivery` goes before it
settles the delivery: the lease has a newer owner, the failure is noted, or the clause
raises in its turn. -/
inductive FailureCourse where
  | leaseLost
  | noted
  | raised (error : Exn)
deriving DecidableEq, Repr

/-- How `ContractWorker._process_delivery` goes before it settles the delivery. -/
inductive ReviewCourse where
  | completed (failure : FailureCourse)
  | busy (failure : FailureCourse)
  | reviewed
  | failed (failure : FailureCourse)
deriving DecidableEq, Repr

/-- How the knowledge worker's `_process_delivery` goes before it settles the
delivery.  What follows the indexing, or its failure, may raise. -/
inductive IndexCourse where
  | missing
  | indexed (raised : Option Exn)
  | failed (raised : Option Exn)
deriving DecidableEq, Repr

/-- The calls of a worker on its delivery. -/
abbrev SettlingProg (Method : Type) :=
  Prog Method (fun _ => Unit) Exn

def raiseAny {Method : Type} : Option Exn → SettlingProg Method Unit
  | none => pure ()
  | some error => .raise error

namespace FailureCourse

def settle : FailureCourse → SettlingProg DeliveryMethod Unit
  | leaseLost => .perform .ack
  | noted => .perform .retry
  | raised error => .raise error

end FailureCourse

namespace ReviewCourse

/-- A completed or busy review is settled inside the `try`. -/
def settle : ReviewCourse → SettlingProg DeliveryMethod Unit
  | completed failure =>
      Prog.tryExcept (.perform DeliveryMethod.ack) fun _ => failure.settle
  | busy failure =>
      Prog.tryExcept (.perform DeliveryMethod.retryContention) fun _ => failure.settle
  | reviewed => .perform .ack
  | failed failure => failure.settle

end ReviewCourse

namespace IndexCourse

def settle : IndexCourse → SettlingProg KnowledgeDeliveryMethod Unit
  | missing => .perform .ack
  | indexed raised => do
      raiseAny raised
      Prog.perform KnowledgeDeliveryMethod.ack
  | failed raised => do
      raiseAny raised
      Prog.perform KnowledgeDeliveryMethod.retry

end IndexCourse

/-- A job queue and the worker that consumes it. -/
structure ConsumedQueue where
  family : JobFamily
  Course : Type
  settle : Course → SettlingProg family.Method Unit

section Queues

variable (strOf : Json → String) (intOfText : String → Option Int)

def reviewQueue (topology : QueueTopology) : ConsumedQueue where
  family := reviewJobs strOf intOfText topology
  Course := ReviewCourse
  settle := ReviewCourse.settle

def knowledgeQueue (topology : KnowledgeQueueTopology) : ConsumedQueue where
  family := indexJobs strOf intOfText topology
  Course := IndexCourse
  settle := IndexCourse.settle

end Queues

/-! ## Deliveries of a body -/

/-- A message body, as `json.loads(body.decode("utf-8"))` reads it. -/
abbrev MessageBody := Except Exn Json

def loadBody : MessageBody → QueueProg Json
  | .ok message => pure message
  | .error error => .raise error

/-- Whether a body reaches the callback of `consume` or comes from `receive`. -/
inductive Consumer where
  | callback
  | polling
deriving DecidableEq, Repr

namespace ConsumedQueue

variable (queue : ConsumedQueue)

/-- `_process_delivery`; its `finally` closes what it opened, which may raise. -/
def handler (course : queue.Course) (closing : Option Exn) :
    DeliveryHandler queue.family :=
  fun _ => (queue.settle course).tryFinally (raiseAny closing)

/-- `json.loads` and `from_message`. -/
def acceptBody (body : MessageBody) : QueueProg (RabbitMQDelivery queue.family) := do
  let message ← loadBody body
  openDelivery false message

/-- `_callback`, or `receive` and the worker that called it, with a body. -/
def deliver (handler : DeliveryHandler queue.family) (body : MessageBody) :
    Consumer → QueueProg Unit
  | .callback =>
      Prog.tryExcept
        (do
          let delivery ← queue.acceptBody body
          handleDelivery delivery (handler delivery.job))
        fun _ => (callQueue .basicNack).tryExcept fun _ => pure ()
  | .polling =>
      (queue.acceptBody body).handle fun
        | .error error => do
            callQueue .closeConnection
            .raise error
        | .ok delivery => handleDelivery delivery (handler delivery.job)

end ConsumedQueue

/-! ## The channel of a delivery -/

/-- What has become of a delivery: whether the broker still holds its message for it,
by which method it gave the message up, the retry copy and the dead letter it stored,
and whether it has failed. -/
structure DeliveryChannel where
  confirming : Bool := true
  held : Bool := true
  settledBy : Option DeliveryMethod := none
  copied : Option Json := none
  buried : Bool := false
  failed : Bool := false

/-- The worker asks for a retry or a dead letter. -/
def DeliveryMethod.failing : DeliveryMethod → Bool
  | retry | deadLetter => true
  | ack | retryContention => false

namespace DeliveryChannel

variable (channel : DeliveryChannel)

def publish (route : QueueRoute) (message : Json) : DeliveryChannel :=
  match route with
  | .requested => channel
  | .retry => { channel with copied := some message }
  | .dead => { channel with buried := true }

def ask (method : DeliveryMethod) : DeliveryChannel :=
  { channel with failed := channel.failed || method.failing }

/-- The broker forgets the message. -/
def release (method : DeliveryMethod) : DeliveryChannel :=
  if channel.held then { channel with held := false, settledBy := some method }
  else channel

/-- An exception has reached the consumer. -/
def fail : DeliveryChannel :=
  { channel with failed := true }

def requeue : DeliveryChannel :=
  { channel with held := false }

/-- A call of which the client only learns whether its frame went out. -/
def respondFrame (before after : DeliveryChannel) :
    QueueChoice → Option (Except Exn Unit × DeliveryChannel)
  | .done => some (.ok (), after)
  | .refused error => some (.error error, before)
  | .doneRaising error => some (.error error, after)
  | .lost => some (.ok (), before)
  | .handed .. => none

/-- How the calls of a delivery come out.  A publication that returns on a confirming
channel is stored.  Only an exception lets a consumer requeue its message or close its
connection. -/
def respond : Prog.Respond QueueCall QueueCall.Ret Exn DeliveryChannel QueueChoice :=
  fun choice channel request =>
    match request with
    | .confirmsEnabled =>
        match choice with
        | .done => some (.ok channel.confirming, channel)
        | _ => none
    | .confirmDelivery =>
        match choice with
        | .done => some (.ok (), { channel with confirming := true })
        | .refused error => some (.error error, channel)
        | _ => none
    | .basicPublish route message =>
        match choice with
        | .lost => if channel.confirming then none else some (.ok (), channel)
        | choice => respondFrame channel (channel.publish route message) choice
    | .basicAck method =>
        respondFrame (channel.ask method) ((channel.ask method).release method) choice
    | .basicNack => respondFrame channel.fail channel.fail.requeue choice
    | .closeConnection => respondFrame channel.fail channel.fail.requeue choice
    | .openConnection | .openChannel | .basicGet => none

end DeliveryChannel

/-! ## Lineages -/

/-- A delivery that has not ended, with its body and what is left of its program. -/
structure Flight where
  body : MessageBody
  rest : QueueProg Unit
  channel : DeliveryChannel := {}

namespace Flight

variable (flight : Flight)

/-- Nothing is left to do, and the broker no longer waits for an acknowledgement. -/
def closed : Bool :=
  match flight.rest with
  | .done _ => !flight.channel.held
  | .call .. => false

/-- The delivery ends in a processing failure: its worker asked for a retry or a dead
letter, or an exception reached the consumer. -/
def fails : Bool :=
  flight.channel.failed ||
    match flight.rest with
    | .done (.error _) => true
    | _ => false

end Flight

/-- A body and its retry copies: those that wait on the queue, or for their TTL on the
retry queue, the deliveries under way and the dead letters, with the numbers of
acknowledgements, failed deliveries and interrupted deliveries. -/
structure Lineage where
  waiting : List MessageBody
  flights : List Flight := []
  dead : List MessageBody := []
  acknowledged : Nat := 0
  failures : Nat := 0
  interruptions : Nat := 0

namespace Lineage

variable (state : Lineage)

def store (route : QueueRoute) (message : Json) : Lineage :=
  match route with
  | .requested | .retry => { state with waiting := state.waiting ++ [.ok message] }
  | .dead => { state with dead := state.dead ++ [.ok message] }

/-- The broker carries a call of a delivery out. -/
def act (body : MessageBody) (channel : DeliveryChannel) (request : QueueCall) :
    Lineage :=
  match request with
  | .basicPublish route message => state.store route message
  | .basicAck .ack =>
      if channel.held then { state with acknowledged := state.acknowledged + 1 }
      else state
  | .basicNack | .closeConnection =>
      if channel.held then { state with waiting := state.waiting ++ [body] } else state
  | _ => state

end Lineage

/-- A waiting body is delivered, a delivery makes its next call, it ends, or its
connection or its worker is lost. -/
inductive LineageEvent (queue : ConsumedQueue) where
  | deliver (place : Nat) (consumer : Consumer) (course : queue.Course)
      (closing : Option Exn)
  | call (place : Nat) (choice : QueueChoice)
  | finish (place : Nat)
  | interrupt (place : Nat)

/-- The lineage after an event, if it can happen.  A delivery that still holds its
message ends with its connection. -/
def Lineage.next? (queue : ConsumedQueue) (state : Lineage) :
    LineageEvent queue → Option Lineage
  | .deliver place consumer course closing =>
      state.waiting[place]?.map fun body =>
        { state with
          waiting := state.waiting.eraseIdx place
          flights := ⟨body, queue.deliver (queue.handler course closing) body consumer, {}⟩
            :: state.flights }
  | .call place choice =>
      match state.flights[place]? with
      | some ⟨body, .call request next, channel⟩ =>
          (channel.respond choice request).map fun answer =>
            let reached := if choice.acts then state.act body channel request else state
            { reached with
              flights := ⟨body, next answer.1, answer.2⟩ :: state.flights.eraseIdx place }
      | _ => none
  | .finish place =>
      match state.flights[place]? with
      | some flight =>
          if flight.closed then
            some { state with
              flights := state.flights.eraseIdx place
              failures := state.failures + flight.fails.toNat }
          else none
      | none => none
  | .interrupt place =>
      match state.flights[place]? with
      | some flight =>
          if flight.closed then none
          else
            some { state with
              waiting :=
                if flight.channel.held then state.waiting ++ [flight.body]
                else state.waiting
              flights := state.flights.eraseIdx place
              failures := state.failures + flight.fails.toNat
              interruptions := state.interruptions + 1 }
      | none => none

abbrev LineageStep (queue : ConsumedQueue) :=
  EventStep Lineage (LineageEvent queue)

/-- The runs of a body that has reached the queue. -/
abbrev LineageRun (queue : ConsumedQueue) (body : MessageBody) :
    List (LineageStep queue) → Lineage → Prop :=
  EventStep.Run (Lineage.next? queue) { waiting := [body] }

end ContractMate
