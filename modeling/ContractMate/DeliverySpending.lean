import ContractMate.JobLineages

/-!
# What deliveries spend

A delivery of a job may fail as often as its attempts still allow, and its retry copy
takes over what is left of that.  The programs of both workers make at most one copy,
and acknowledge its original next.
-/

namespace ContractMate

/-! ## What a body still allows -/

/-- The failed deliveries that a job has left. -/
def JobFamily.allowance (family : JobFamily) (job : family.Job) : Nat :=
  max 1 (family.maxAttempts + 1 - family.attempt job).toNat

namespace ConsumedQueue

variable (queue : ConsumedQueue)

def readBody (body : MessageBody) : Except Exn queue.family.Job :=
  body >>= queue.family.fromMessage

/-- The body is JSON that `from_message` accepts, and counts its attempts from one. -/
def counts (body : MessageBody) : Bool :=
  match queue.readBody body with
  | .ok job => decide (1 ≤ queue.family.attempt job)
  | .error _ => false

def allowance (body : MessageBody) : Nat :=
  match queue.readBody body with
  | .ok job => queue.family.allowance job
  | .error _ => 1

end ConsumedQueue

/-! ## Calls that come out well -/

/-- A retry copy is stored by a call that returns, its original is acknowledged by a
call that returns, and no message is requeued for an exception. -/
def DeliveryChannel.tolerates (channel : DeliveryChannel) (choice : QueueChoice) :
    QueueCall → Bool
  | .basicPublish .retry _ =>
      match choice with
      | .doneRaising _ => false
      | _ => true
  | .basicAck _ =>
      match choice with
      | .done => true
      | _ => !(channel.held && channel.copied.isSome)
  | .basicNack | .closeConnection => !(channel.held && choice.acts)
  | _ => true

/-! ## What a delivery calls -/

namespace ConsumedQueue

variable (queue : ConsumedQueue)

/-- Publications are confirmed, a delivery makes one copy that its own allowance
covers, and it acknowledges by a method that has done its part. -/
def permits (limit : Nat) (channel : DeliveryChannel) : QueueCall → Prop
  | .basicPublish .requested _ => False
  | .basicPublish .retry message =>
      channel.confirming = true ∧ channel.copied = none ∧
        queue.counts (.ok message) = true ∧ queue.allowance (.ok message) ≤ limit ∧
        (channel.held = true ∨ queue.allowance (.ok message) < limit)
  | .basicPublish .dead _ => channel.confirming = true
  | .basicAck .ack => channel.held = true → channel.copied = none
  | .basicAck .deadLetter =>
      channel.held = true → channel.copied = none ∧ channel.buried = true
  | .basicAck .retry => channel.held = true →
      ∃ message, channel.copied = some message ∧ queue.allowance (.ok message) < limit
  | .basicAck .retryContention => channel.held = true → channel.copied.isSome = true
  | _ => True

/-- The deliveries of a body that allows `limit` failures. -/
abbrev spending (limit : Nat) : Monitor QueueCall QueueCall.Ret Exn where
  Phase := DeliveryChannel
  permitted := queue.permits limit
  answers := fun channel request reply after => ∃ choice,
    channel.tolerates choice request = true ∧
      channel.respond choice request = some (reply, after)

end ConsumedQueue

/-- No copy is stored yet. -/
def DeliveryChannel.Fresh (channel : DeliveryChannel) : Prop :=
  channel.confirming = true ∧ channel.copied = none

section Conformance

variable {queue : ConsumedQueue} {limit : Nat} {channel after : DeliveryChannel}
  {message : Json} {reply : Except Exn Unit}

theorem answers_publish_retry (confirming : channel.confirming = true)
    (answered : (queue.spending limit).answers channel (.basicPublish .retry message)
      reply after) :
    reply = .ok () ∧ after = channel.publish .retry message ∨
      ∃ error, reply = .error error ∧ after = channel := by
  obtain ⟨choice, tolerated, responds⟩ := answered
  cases choice with
  | done =>
      cases responds
      exact .inl ⟨rfl, rfl⟩
  | refused error =>
      cases responds
      exact .inr ⟨error, rfl, rfl⟩
  | doneRaising error => cases tolerated
  | lost =>
      have lost : channel.respond .lost (.basicPublish .retry message) = none :=
        if_pos confirming
      simp [lost] at responds
  | handed index failure => cases responds

theorem answers_publish_dead (confirming : channel.confirming = true)
    (answered : (queue.spending limit).answers channel (.basicPublish .dead message)
      reply after) :
    after = channel.publish .dead message ∨
      after = channel ∧ ∃ error, reply = .error error := by
  obtain ⟨choice, _, responds⟩ := answered
  cases choice with
  | done =>
      cases responds
      exact .inl rfl
  | refused error =>
      cases responds
      exact .inr ⟨rfl, error, rfl⟩
  | doneRaising error =>
      cases responds
      exact .inl rfl
  | lost =>
      have lost : channel.respond .lost (.basicPublish .dead message) = none :=
        if_pos confirming
      simp [lost] at responds
  | handed index failure => cases responds

theorem DeliveryChannel.copied_release (channel : DeliveryChannel)
    (method : DeliveryMethod) : (channel.release method).copied = channel.copied := by
  unfold release
  split <;> rfl

theorem DeliveryChannel.buried_release (channel : DeliveryChannel)
    (method : DeliveryMethod) : (channel.release method).buried = channel.buried := by
  unfold release
  split <;> rfl

theorem DeliveryChannel.confirming_release (channel : DeliveryChannel)
    (method : DeliveryMethod) :
    (channel.release method).confirming = channel.confirming := by
  unfold release
  split <;> rfl

theorem respondFrame_cases {before effect : DeliveryChannel} {choice : QueueChoice}
    (responds : DeliveryChannel.respondFrame before effect choice = some (reply, after)) :
    after = before ∧ choice.acts = false ∨ after = effect ∧ choice.acts = true := by
  cases choice with
  | done =>
      cases responds
      exact .inr ⟨rfl, rfl⟩
  | refused error =>
      cases responds
      exact .inl ⟨rfl, rfl⟩
  | doneRaising error =>
      cases responds
      exact .inr ⟨rfl, rfl⟩
  | lost =>
      cases responds
      exact .inl ⟨rfl, rfl⟩
  | handed index failure => cases responds

theorem fresh_of_basicAck {method : DeliveryMethod} (fresh : channel.Fresh)
    (answered : (queue.spending limit).answers channel (.basicAck method) reply after) :
    after.Fresh := by
  obtain ⟨choice, _, responds⟩ := answered
  rcases respondFrame_cases responds with ⟨rfl, _⟩ | ⟨rfl, _⟩
  · exact fresh
  · constructor
    · rw [DeliveryChannel.confirming_release]
      exact fresh.1
    · rw [DeliveryChannel.copied_release]
      exact fresh.2

variable {job : queue.family.Job}

/-- Without a connection to close, the finalizer of a method does nothing. -/
theorem spends_closing {program : QueueProg Unit}
    {post : Except Exn Unit → DeliveryChannel → Prop}
    (conforms : (queue.spending limit).Conforms program post channel) :
    (queue.spending limit).Conforms
      (program.tryFinally
        (RabbitMQDelivery.mk job false).closeConnectionIfNeeded) post channel := by
  apply conforms.tryFinally
  intro result after reached
  exact reached

theorem spends_publishConfirmed {route : QueueRoute}
    {post : Except Exn Unit → DeliveryChannel → Prop}
    (confirming : channel.confirming = true)
    (publishes : (queue.spending limit).Conforms
      (callQueue (.basicPublish route (queue.family.toMessage job))) post channel) :
    (queue.spending limit).Conforms
      (RabbitMQDelivery.publishConfirmed route job) post channel := by
  apply Monitor.Conforms.perform trivial
  · rintro enabled after ⟨choice, _, responds⟩
    cases choice with
    | done =>
        cases responds
        rw [confirming]
        exact publishes
    | _ => cases responds
  · rintro error after ⟨choice, _, responds⟩
    cases choice <;> cases responds

theorem spends_ack (fresh : channel.Fresh) :
    (queue.spending limit).Conforms ((RabbitMQDelivery.mk job false).run .ack)
      (fun _ after => after.Fresh) channel := by
  apply spends_closing
  refine ⟨fun _ => fresh.2, ?_⟩
  intro reply after answered
  exact fresh_of_basicAck fresh answered

/-- The worker asks for a dead letter. -/
theorem spends_deadLetter (fresh : channel.Fresh) :
    (queue.spending limit).Conforms ((RabbitMQDelivery.mk job false).run .deadLetter)
      (fun _ _ => True) channel := by
  apply spends_closing
  have published : (queue.spending limit).Conforms
      (callQueue (.basicPublish .dead (queue.family.toMessage job)))
      (fun result after => result.isOk = true →
        after = channel.publish .dead (queue.family.toMessage job)) channel := by
    refine ⟨fresh.1, ?_⟩
    intro reply after answered
    rcases answers_publish_dead fresh.1 answered with stored | ⟨_, error, rfl⟩
    · exact fun _ => stored
    · nofun
  apply (spends_publishConfirmed fresh.1 published).bind
  · intro _ after stored
    obtain rfl := stored rfl
    exact ⟨fun _ => ⟨fresh.2, rfl⟩, fun _ _ _ => trivial⟩
  · intro error after _
    trivial

/-- The worker asks for a copy of the job, with what `method` acknowledges. -/
theorem spends_republish (job : queue.family.Job) {copy : queue.family.Job}
    (method : DeliveryMethod) (fresh : channel.Fresh)
    (counts : queue.counts (.ok (queue.family.toMessage copy)) = true)
    (within : queue.allowance (.ok (queue.family.toMessage copy)) ≤ limit)
    (less : channel.held = true ∨
      queue.allowance (.ok (queue.family.toMessage copy)) < limit)
    (acknowledges : queue.permits limit
      (channel.publish .retry (queue.family.toMessage copy)) (.basicAck method)) :
    (queue.spending limit).Conforms
      ((RabbitMQDelivery.mk job false).republish method .retry copy)
      (fun result after => channel.held = true → result.isOk = false → after.Fresh)
      channel := by
  apply spends_closing
  have published : (queue.spending limit).Conforms
      (callQueue (.basicPublish .retry (queue.family.toMessage copy)))
      (fun result after => match result with
        | .ok _ => after = channel.publish .retry (queue.family.toMessage copy)
        | .error _ => after = channel) channel := by
    refine ⟨⟨fresh.1, fresh.2, counts, within, less⟩, ?_⟩
    intro reply after answered
    rcases answers_publish_retry fresh.1 answered with
      ⟨rfl, stored⟩ | ⟨error, rfl, same⟩
    · exact stored
    · exact same
  apply (spends_publishConfirmed fresh.1 published).bind
  · rintro _ after rfl
    refine ⟨acknowledges, ?_⟩
    rintro reply after ⟨choice, tolerated, responds⟩ held raised
    cases choice with
    | done =>
        cases responds
        cases raised
    | _ => simp [DeliveryChannel.tolerates, DeliveryChannel.publish, held] at tolerated
  · rintro error after rfl _ _
    exact fresh

end Conformance

/-! ## What the workers call -/

namespace ConsumedQueue

variable (queue : ConsumedQueue)

theorem readBody_toMessage (job : queue.family.Job) :
    queue.readBody (.ok (queue.family.toMessage job)) = .ok (queue.family.read job) :=
  queue.family.reads job

theorem counts_toMessage (job : queue.family.Job) :
    queue.counts (.ok (queue.family.toMessage job)) = true ↔
      1 ≤ queue.family.attempt job := by
  rw [counts, readBody_toMessage, decide_eq_true_iff, queue.family.attempt_read]

theorem allowance_toMessage (job : queue.family.Job) :
    queue.allowance (.ok (queue.family.toMessage job)) = queue.family.allowance job := by
  rw [allowance, readBody_toMessage]
  simp only [JobFamily.allowance, queue.family.attempt_read]

variable {queue} in
theorem counts_iff {body : MessageBody} :
    queue.counts body = true ↔ ∃ job, queue.readBody body = .ok job ∧
      1 ≤ queue.family.attempt job ∧ queue.allowance body = queue.family.allowance job := by
  unfold counts allowance
  cases queue.readBody body with
  | ok job => simp
  | error error => simp

theorem allowance_pos (body : MessageBody) : 0 < queue.allowance body := by
  unfold allowance
  split
  · unfold JobFamily.allowance
    omega
  · exact Nat.one_pos

end ConsumedQueue

theorem JobFamily.allowance_withAttempt (family : JobFamily) {job : family.Job}
    (left : family.attempt job < family.maxAttempts) :
    family.allowance (family.withAttempt job (family.attempt job + 1)) <
      family.allowance job := by
  unfold allowance
  rw [family.attempt_withAttempt]
  omega

section Workers

variable {queue : ConsumedQueue} {job : queue.family.Job} {channel : DeliveryChannel}

theorem spends_retryContention (fresh : channel.Fresh)
    (counted : 1 ≤ queue.family.attempt job) (held : channel.held = true) :
    (queue.spending (queue.family.allowance job)).Conforms
      ((RabbitMQDelivery.mk job false).run .retryContention)
      (fun result after => result.isOk = false → after.Fresh) channel := by
  have same := queue.allowance_toMessage job
  have counts := (queue.counts_toMessage job).mpr counted
  have republished := spends_republish job .retryContention fresh counts
    (Nat.le_of_eq same) (.inl held) fun _ => rfl
  exact republished.mono fun result after reached raised => reached held raised

theorem spends_retry (fresh : channel.Fresh)
    (counted : 1 ≤ queue.family.attempt job) :
    (queue.spending (queue.family.allowance job)).Conforms
      ((RabbitMQDelivery.mk job false).run .retry) (fun _ _ => True) channel := by
  simp only [RabbitMQDelivery.run, RabbitMQDelivery.retry]
  split_ifs with exhausted
  · exact spends_deadLetter fresh
  · have less := queue.family.allowance_withAttempt (Int.not_le.mp exhausted)
    rw [← queue.allowance_toMessage] at less
    have later : queue.counts (.ok (queue.family.toMessage
        (queue.family.withAttempt job (queue.family.attempt job + 1)))) = true := by
      rw [queue.counts_toMessage, queue.family.attempt_withAttempt]
      omega
    have republished := spends_republish job .retry fresh later
      (Nat.le_of_lt less) (.inr less) fun _ => ⟨_, rfl, less⟩
    exact republished.mono fun _ _ _ => trivial

/-- The rule of sequencing, for the calls of a worker. -/
theorem spends_settling {limit : Nat}
    {program : SettlingProg queue.family.Method Unit}
    {next : Except Exn Unit → SettlingProg queue.family.Method Unit}
    {middle post : Except Exn Unit → DeliveryChannel → Prop}
    (first : (queue.spending limit).Conforms
      (handleDelivery (RabbitMQDelivery.mk job false) program) middle channel)
    (then_ : ∀ result after, middle result after → (queue.spending limit).Conforms
      (handleDelivery (RabbitMQDelivery.mk job false) (next result)) post after) :
    (queue.spending limit).Conforms
      (handleDelivery (RabbitMQDelivery.mk job false) (program.handle next)) post
      channel := by
  induction program generalizing channel with
  | done result => exact then_ result channel first
  | call method answer induction =>
      apply Monitor.conforms_handle.mpr
      apply (Monitor.conforms_handle.mp first).mono
      intro reply after reached
      exact induction reply reached

theorem spends_method {limit : Nat} {method : queue.family.Method}
    {post : Except Exn Unit → DeliveryChannel → Prop}
    (conforms : (queue.spending limit).Conforms
      ((RabbitMQDelivery.mk job false).run (queue.family.delivery method)) post
      channel) :
    (queue.spending limit).Conforms
      (handleDelivery (RabbitMQDelivery.mk job false) (.perform method)) post
      channel := by
  apply conforms.handle
  intro reply after reached
  exact reached

/-- A worker settles the delivery it is given within the allowance of its job. -/
def ConsumedQueue.Disciplined (queue : ConsumedQueue) : Prop :=
  ∀ (course : queue.Course) (job : queue.family.Job) (channel : DeliveryChannel),
    channel.Fresh → channel.held = true → 1 ≤ queue.family.attempt job →
      (queue.spending (queue.family.allowance job)).Conforms
        (handleDelivery (RabbitMQDelivery.mk job false) (queue.settle course))
        (fun _ _ => True) channel

/-- The `finally` of a worker makes no calls on the delivery. -/
theorem spends_handler (disciplined : queue.Disciplined) (course : queue.Course)
    (closing : Option Exn) (fresh : channel.Fresh) (held : channel.held = true)
    (counted : 1 ≤ queue.family.attempt job) :
    (queue.spending (queue.family.allowance job)).Conforms
      (handleDelivery (RabbitMQDelivery.mk job false)
        (queue.handler course closing job)) (fun _ _ => True) channel := by
  apply spends_settling (disciplined course job channel fresh held counted)
  intro result after _
  cases closing <;> trivial

/-- What a consumer does with a body that counts. -/
theorem spends_deliver (disciplined : queue.Disciplined) (course : queue.Course)
    (closing : Option Exn) (consumer : Consumer) {body : MessageBody}
    (counts : queue.counts body = true) :
    (queue.spending (queue.allowance body)).Conforms
      (queue.deliver (queue.handler course closing) body consumer)
      (fun _ _ => True) {} := by
  obtain ⟨job, read, counted, same⟩ := ConsumedQueue.counts_iff.mp counts
  have accepted : queue.acceptBody body = pure ⟨job, false⟩ := by
    cases body with
    | error error => cases read
    | ok message =>
        change queue.family.fromMessage message = .ok job at read
        change openDelivery false message = _
        rw [openDelivery, read]
  have fresh : ({} : DeliveryChannel).Fresh := ⟨rfl, rfl⟩
  have handled := spends_handler disciplined course closing fresh rfl counted
  rw [same]
  cases consumer with
  | polling =>
      simp only [ConsumedQueue.deliver, accepted]
      exact handled
  | callback =>
      simp only [ConsumedQueue.deliver, accepted]
      apply Monitor.Conforms.tryExcept handled
      · intro _ _ _
        trivial
      · intro error after _
        refine ⟨trivial, ?_⟩
        intro reply _ _
        cases reply <;> trivial

end Workers

section Queues

variable (strOf : Json → String) (intOfText : String → Option Int)

theorem reviewQueue_disciplined (topology : QueueTopology) :
    (reviewQueue strOf intOfText topology).Disciplined := by
  intro course job channel fresh held counted
  have failing (failure : FailureCourse) {channel : DeliveryChannel}
      (fresh : channel.Fresh) :
      ((reviewQueue strOf intOfText topology).spending
        ((reviewQueue strOf intOfText topology).family.allowance job)).Conforms
        (handleDelivery (RabbitMQDelivery.mk job false) failure.settle)
        (fun _ _ => True) channel := by
    cases failure with
    | leaseLost => exact spends_method ((spends_ack fresh).mono fun _ _ _ => trivial)
    | noted => exact spends_method (spends_retry fresh counted)
    | raised error => trivial
  cases course with
  | completed failure =>
      apply spends_settling (spends_method (spends_ack fresh))
      intro result after fresh
      cases result with
      | ok _ => trivial
      | error error => exact failing failure fresh
  | busy failure =>
      apply spends_settling (spends_method (spends_retryContention fresh counted held))
      intro result after fresh
      cases result with
      | ok _ => trivial
      | error error => exact failing failure (fresh rfl)
  | reviewed => exact spends_method ((spends_ack fresh).mono fun _ _ _ => trivial)
  | failed failure => exact failing failure fresh

theorem knowledgeQueue_disciplined (topology : KnowledgeQueueTopology) :
    (knowledgeQueue strOf intOfText topology).Disciplined := by
  intro course job channel fresh held counted
  cases course with
  | missing => exact spends_method ((spends_ack fresh).mono fun _ _ _ => trivial)
  | indexed raised =>
      cases raised with
      | none => exact spends_method ((spends_ack fresh).mono fun _ _ _ => trivial)
      | some error => trivial
  | failed raised =>
      cases raised with
      | none => exact spends_method (spends_retry fresh counted)
      | some error => trivial

end Queues

end ContractMate
