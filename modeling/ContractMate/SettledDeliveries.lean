import ContractMate.DeliverySpending
import ContractMate.ProgramTraces

/-!
# Settled deliveries

A delivery is settled by an acknowledgement of its worker or by a negative
acknowledgement of the callback.  The callback answers every exception, also one that
the worker's cleanup raises after the delivery was settled.
-/

namespace ContractMate

/-! ## Settlements -/

/-- A call to the connection and its answer. -/
abbrev QueueAnswered := Prog.Answered QueueCall QueueCall.Ret Exn

/-- `basic_ack` and `basic_nack`. -/
def QueueCall.settles : QueueCall → Bool
  | basicAck _ | basicNack => true
  | _ => false

/-- The settlements that are sent to the broker. -/
def sentSettlements (log : List QueueAnswered) : Nat :=
  log.countP fun answered => answered.request.settles

/-- No settlement raises. -/
def SettlementsWork (log : List QueueAnswered) : Prop :=
  ∀ answered ∈ log, answered.request.settles = true → ∃ value, answered.reply = .ok value

theorem sentSettlements_append (first second : List QueueAnswered) :
    sentSettlements (first ++ second) = sentSettlements first + sentSettlements second :=
  List.countP_append

theorem settlementsWork_append {first second : List QueueAnswered} :
    SettlementsWork (first ++ second) ↔ SettlementsWork first ∧ SettlementsWork second :=
  List.forall_mem_append

/-! ## What the worker's calls settle -/

section Settling

variable {family : JobFamily} {log : List QueueAnswered} {result : Except Exn Unit}

/-- A trace that returns has settled the delivery, and one that raises has not. -/
def SettledBy (log : List QueueAnswered) (result : Except Exn Unit) : Prop :=
  sentSettlements log = if result.isOk then 1 else 0

theorem settledBy_ack {method : DeliveryMethod} (works : SettlementsWork log)
    (takes : (callQueue (.basicAck method)).Takes log result) : SettledBy log result := by
  have only : log = [⟨.basicAck method, result⟩] := Prog.takes_perform.mp takes
  obtain ⟨value, same⟩ := works ⟨.basicAck method, result⟩ (by rw [only]; exact .head _) rfl
  simp only at same
  rw [only, same]
  rfl

/-- Publishing settles nothing. -/
theorem sentSettlements_publishConfirmed {route : QueueRoute} {job : family.Job}
    (takes : (RabbitMQDelivery.publishConfirmed route job).Takes log result) :
    sentSettlements log = 0 := by
  have calls : (RabbitMQDelivery.publishConfirmed route job).Calls
      fun call => call.settles = false := by
    have harmless (call : QueueCall) (same : call.settles = false) :
        (callQueue call).Calls fun call => call.settles = false := Prog.calls_perform same
    apply Prog.Calls.bind (harmless .confirmsEnabled rfl)
    intro enabled
    apply Prog.Calls.bind
    · exact Prog.Calls.onlyIf fun _ => harmless .confirmDelivery rfl
    · exact fun _ => harmless (.basicPublish route _) rfl
  have none := takes.allowed calls
  rw [sentSettlements, List.countP_eq_zero]
  intro answered member
  simp [none answered member]

/-- On the channel of a consumer nothing is closed. -/
theorem tryFinally_idle (program : QueueProg Unit) (job : family.Job) :
    program.tryFinally
        (RabbitMQDelivery.closeConnectionIfNeeded
          ({ job, closeConnectionOnFinish := false } : RabbitMQDelivery family)) =
      program := by
  induction program with
  | done result => rfl
  | call request next induction => exact congrArg (Prog.call request) (funext induction)

theorem settledBy_republish {method : DeliveryMethod} {route : QueueRoute}
    {job copy : family.Job} (works : SettlementsWork log)
    (takes : (RabbitMQDelivery.republish
      ({ job, closeConnectionOnFinish := false } : RabbitMQDelivery family) method route
        copy).Takes log result) :
    SettledBy log result := by
  obtain ⟨acknowledge, same⟩ :
      ∃ acknowledge : QueueProg Unit, acknowledge = callQueue (.basicAck method) := ⟨_, rfl⟩
  have published : RabbitMQDelivery.republish
      ({ job, closeConnectionOnFinish := false } : RabbitMQDelivery family) method route copy =
        (RabbitMQDelivery.publishConfirmed route copy >>= fun _ => acknowledge) := by
    rw [same]
    exact tryFinally_idle _ job
  rw [published, Prog.takes_bind] at takes
  rcases takes with ⟨error, rfl, raised⟩ | ⟨first, value, second, rfl, published, acked⟩
  · exact sentSettlements_publishConfirmed raised
  · have none := sentSettlements_publishConfirmed published
    rw [same] at acked
    have one := settledBy_ack (settlementsWork_append.mp works).2 acked
    rw [SettledBy, sentSettlements_append, none, Nat.zero_add]
    exact one

/-- Every method of a delivery settles it if it returns. -/
theorem settledBy_run (method : DeliveryMethod) {job : family.Job}
    (works : SettlementsWork log)
    (takes : (RabbitMQDelivery.run
      ({ job, closeConnectionOnFinish := false } : RabbitMQDelivery family) method).Takes log
        result) :
    SettledBy log result := by
  cases method with
  | ack =>
      have acked : RabbitMQDelivery.ack
          ({ job, closeConnectionOnFinish := false } : RabbitMQDelivery family) =
            (callQueue (.basicAck .ack) : QueueProg Unit) := tryFinally_idle _ job
      rw [RabbitMQDelivery.run, acked] at takes
      exact settledBy_ack works takes
  | retry =>
      rw [RabbitMQDelivery.run, RabbitMQDelivery.retry] at takes
      split at takes
      · exact settledBy_republish works takes
      · exact settledBy_republish works takes
  | retryContention => exact settledBy_republish works takes
  | deadLetter => exact settledBy_republish works takes

/-! ## What the workers settle -/

/-- A worker stops at the first method that returns, and ends in an exception without
one. -/
def SettlesOnce {Method : Type} : SettlingProg Method Unit → Prop
  | .done result => result.isOk = false
  | .call _ next =>
      next (.ok ()) = .done (.ok ()) ∧ ∀ error, SettlesOnce (next (.error error))

theorem settlesOnce_failure (course : FailureCourse) : SettlesOnce course.settle := by
  cases course with
  | leaseLost => exact ⟨rfl, fun _ => rfl⟩
  | noted => exact ⟨rfl, fun _ => rfl⟩
  | raised error => rfl

theorem settlesOnce_review (course : ReviewCourse) : SettlesOnce course.settle := by
  cases course with
  | completed failure | busy failure => exact ⟨rfl, fun _ => settlesOnce_failure failure⟩
  | reviewed => exact ⟨rfl, fun _ => rfl⟩
  | failed failure => exact settlesOnce_failure failure

theorem settlesOnce_index (course : IndexCourse) : SettlesOnce course.settle := by
  cases course with
  | missing => exact ⟨rfl, fun _ => rfl⟩
  | indexed raised | failed raised =>
      cases raised with
      | none => exact ⟨rfl, fun _ => rfl⟩
      | some error => rfl

theorem settledBy_worker {job : family.Job}
    {worker : Prog family.Method (fun _ => Unit) Exn Unit} (once : SettlesOnce worker)
    (works : SettlementsWork log)
    (takes : (handleDelivery
      ({ job, closeConnectionOnFinish := false } : RabbitMQDelivery family) worker).Takes log
        result) :
    SettledBy log result := by
  induction worker generalizing log with
  | done ended =>
      obtain ⟨rfl, rfl⟩ := Prog.takes_done.mp takes
      have raised : result.isOk = false := once
      simp [SettledBy, raised, sentSettlements]
  | call method next induction =>
      rw [handleDelivery, Prog.takes_handle] at takes
      obtain ⟨first, reply, second, rfl, ran, rest⟩ := takes
      obtain ⟨worksFirst, worksSecond⟩ := settlementsWork_append.mp works
      have settled := settledBy_run _ worksFirst ran
      cases reply with
      | ok value =>
          rw [once.1] at rest
          obtain ⟨rfl, rfl⟩ := Prog.takes_done.mp rest
          rw [List.append_nil]
          exact settled
      | error error =>
          have later := induction (.error error) (once.2 error) worksSecond rest
          have none : sentSettlements first = 0 := settled
          rw [SettledBy, sentSettlements_append, none, Nat.zero_add]
          exact later

/-- What follows a worker follows its calls on the delivery. -/
theorem handleDelivery_handle (delivery : RabbitMQDelivery family)
    (worker : Prog family.Method (fun _ => Unit) Exn Unit)
    (next : Except Exn Unit → Prog family.Method (fun _ => Unit) Exn Unit) :
    handleDelivery delivery (worker.handle next) =
      (handleDelivery delivery worker).handle fun result =>
        handleDelivery delivery (next result) := by
  induction worker with
  | done result => rfl
  | call method answer induction =>
      simp only [Prog.handle, handleDelivery, Prog.handle_handle, induction]

/-- The callback's own answer to an exception. -/
theorem sentSettlements_nack
    (takes : Prog.Takes
      ((callQueue .basicNack).tryExcept fun _ => pure () : QueueProg Unit) log result) :
    sentSettlements log = 1 := by
  obtain ⟨first, reply, second, rfl, nacked, rest⟩ := Prog.takes_handle.mp takes
  have sent : first = [⟨.basicNack, reply⟩] := Prog.takes_perform.mp nacked
  have silent : second = [] := by
    cases reply with
    | ok value => exact (Prog.takes_done.mp rest).1
    | error error => exact (Prog.takes_done.mp rest).1
  rw [sent, silent]
  rfl

end Settling

/-! ## Deliveries to the callback -/

namespace ConsumedQueue

variable (queue : ConsumedQueue)

/-- The body is a job, and the worker's `try` statement has come to its end without an
exception before the cleanup begins. -/
def WorkReturned (course : queue.Course) (body : MessageBody) (log : List QueueAnswered) :
    Prop :=
  ∃ job earlier, queue.readBody body = .ok job ∧ earlier <+: log ∧
    (handleDelivery
      ({ job, closeConnectionOnFinish := false } : RabbitMQDelivery queue.family)
      (queue.settle course)).Takes earlier (.ok ())

/-- Whatever exceptions a delivery meets, exactly one settlement is sent for it while no
settlement raises, unless the cleanup raises after the work has returned. -/
def SettledOnce : Prop :=
  ∀ (course : queue.Course) (closing : Option Exn) (body : MessageBody)
    (log : List QueueAnswered) (result : Except Exn Unit),
    (queue.deliver (queue.handler course closing) body .callback).Takes log result →
      SettlementsWork log →
        (sentSettlements log = 1 ↔
          ¬ (closing ≠ none ∧ queue.WorkReturned course body log))

variable {queue}

theorem acceptBody_eq (body : MessageBody) :
    queue.acceptBody body =
      .done ((queue.readBody body).map fun job => { job, closeConnectionOnFinish := false }) := by
  cases body with
  | error error => rfl
  | ok message =>
      have opened : queue.acceptBody (.ok message) = openDelivery false message := rfl
      have read : queue.readBody (.ok message) = queue.family.fromMessage message := rfl
      rw [opened, read, openDelivery]
      cases queue.family.fromMessage message <;> rfl

/-- The cleanup after a worker calls nothing and raises what it may raise. -/
theorem takes_handler {course : queue.Course} {closing : Option Exn} {job : queue.family.Job}
    {delivery : RabbitMQDelivery queue.family} {log : List QueueAnswered}
    {result : Except Exn Unit}
    (takes : (handleDelivery delivery (queue.handler course closing job)).Takes log result) :
    ∃ ended, (handleDelivery delivery (queue.settle course)).Takes log ended ∧
      result.isOk = (ended.isOk && closing.isNone) := by
  rw [handler, Prog.tryFinally, handleDelivery_handle] at takes
  obtain ⟨first, ended, second, rfl, worked, cleaned⟩ := Prog.takes_handle.mp takes
  cases closing with
  | none =>
      obtain ⟨rfl, rfl⟩ := Prog.takes_done.mp cleaned
      rw [List.append_nil]
      exact ⟨result, worked, by simp⟩
  | some error =>
      obtain ⟨rfl, rfl⟩ := Prog.takes_done.mp cleaned
      rw [List.append_nil]
      exact ⟨ended, worked, by simp [Except.isOk, Except.toBool]⟩

theorem settledOnce_of_settlesOnce (once : ∀ course, SettlesOnce (queue.settle course)) :
    queue.SettledOnce := by
  intro course closing body log result takes works
  obtain ⟨first, middle, second, rfl, handled, answered⟩ := Prog.takes_handle.mp takes
  obtain ⟨worksFirst, _⟩ := settlementsWork_append.mp works
  rw [acceptBody_eq] at handled
  cases read : queue.readBody body with
  | error error =>
      rw [read] at handled
      obtain ⟨rfl, rfl⟩ := Prog.takes_done.mp handled
      have none : ¬ queue.WorkReturned course body ([] ++ second) := by
        rintro ⟨job, _, same, _⟩
        rw [read] at same
        cases same
      rw [List.nil_append, sentSettlements_nack answered]
      simp only [List.nil_append] at none
      simp [none]
  | ok job =>
      rw [read] at handled
      have ran : (handleDelivery { job, closeConnectionOnFinish := false }
          (queue.handler course closing job)).Takes first middle := handled
      obtain ⟨ended, worked, outcome⟩ := takes_handler ran
      have sent : SettledBy first ended := settledBy_worker (once course) worksFirst worked
      have returned : queue.WorkReturned course body (first ++ second) ↔ ended = .ok () := by
        constructor
        · rintro ⟨job', earlier, same, shared, work⟩
          rw [read] at same
          cases same
          exact (worked.deterministic work shared).2
        · rintro rfl
          exact ⟨job, first, read, List.prefix_append first second, worked⟩
      rw [returned, sentSettlements_append, sent]
      cases middle with
      | ok value =>
          obtain ⟨rfl, _⟩ := Prog.takes_done.mp answered
          have quiet : ended.isOk = true ∧ closing.isNone = true := by
            rw [← Bool.and_eq_true, ← outcome]
            rfl
          simp [quiet.1, Option.isNone_iff_eq_none.mp quiet.2, sentSettlements]
      | error error =>
          rw [sentSettlements_nack answered]
          cases ended with
          | ok value =>
              cases closing with
              | none => simp [Except.isOk, Except.toBool] at outcome
              | some error => simp [Except.isOk, Except.toBool]
          | error error => simp [Except.isOk, Except.toBool]

end ConsumedQueue

/-- Both workers settle each delivery of `consume` once, unless their cleanup raises after
their work has returned. -/
theorem settled_once (strOf : Json → String) (intOfText : String → Option Int)
    (topology : QueueTopology) (knowledgeTopology : KnowledgeQueueTopology) :
    (reviewQueue strOf intOfText topology).SettledOnce ∧
      (knowledgeQueue strOf intOfText knowledgeTopology).SettledOnce := by
  constructor
  · exact ConsumedQueue.settledOnce_of_settlesOnce settlesOnce_review
  · exact ConsumedQueue.settledOnce_of_settlesOnce settlesOnce_index

/-! ## A delivery that is settled twice -/

def reviewedJob : QueuedReviewJob where
  jobId := "J1"
  contractId := "K1"
  contractVersionId := "V1"
  workspaceId := "W1"
  emailThreadId := "email-1"
  requestedBy := "user@mail.test"

def closeFailure : Exn := ⟨.otherError, "connection is lost"⟩

/-- A review is acknowledged, closing its service fails, and the callback answers that. -/
def settledTwice : List QueueAnswered :=
  [⟨.basicAck .ack, .ok ()⟩, ⟨.basicNack, .ok ()⟩]

theorem settled_twice :
    let queue := reviewQueue (fun _ => "") (fun _ => none) {}
    let body : MessageBody := .ok reviewedJob.toMessage
    (queue.deliver (queue.handler .reviewed (some closeFailure)) body .callback).Takes
        settledTwice (.ok ()) ∧
      SettlementsWork settledTwice ∧ sentSettlements settledTwice = 2 := by
  intro queue body
  refine ⟨?_, ?_, rfl⟩
  · have read : queue.readBody body = .ok reviewedJob.read :=
      queue.family.reads reviewedJob
    apply Prog.takes_handle.mpr
    refine ⟨[⟨.basicAck .ack, .ok ()⟩], .error closeFailure, [⟨.basicNack, .ok ()⟩], rfl,
      ?_, ?_⟩
    · rw [ConsumedQueue.acceptBody_eq, read]
      exact @Prog.Takes.call QueueCall QueueCall.Ret Exn Unit (.basicAck .ack) _ (.ok ()) [] _
        (.done _)
    · exact @Prog.Takes.call QueueCall QueueCall.Ret Exn Unit .basicNack _ (.ok ()) [] _
        (.done _)
  · intro answered member _
    rcases List.mem_cons.mp member with rfl | member
    · exact ⟨(), rfl⟩
    · rw [List.mem_singleton.mp member]
      exact ⟨(), rfl⟩

end ContractMate
