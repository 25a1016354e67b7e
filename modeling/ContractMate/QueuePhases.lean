import ContractMate.QueueDeliveries

/-!
# The phases of a delivery

What publishers and deliveries may call, phase by phase: publications are confirmed,
a delivery sends what it has read with a new attempt, and it acknowledges a message
that it does not settle only after it has stored such a copy.
-/

namespace ContractMate

/-! ## Jobs and their messages -/

namespace JobFamily

variable (family : JobFamily)

/-- What tells a job apart: all of it but its attempt. -/
def identity (job : family.Job) : family.Job :=
  family.withAttempt (family.read job) 1

/-- The message carries the job, whatever the attempt. -/
def carries (job : family.Job) (message : Json) : Bool :=
  match family.fromMessage message with
  | .ok found => family.identity found = family.identity job
  | .error _ => false

/-- The message is the job as it was published, or a copy that differs from what
arrives of it in the attempt only. -/
def Copies (job : family.Job) (message : Json) : Prop :=
  message = family.toMessage job ∨
    ∃ attempt, message =
      family.toMessage (family.withAttempt (family.read job) attempt) ∧
      family.attempt job ≤ attempt ∧
      (attempt = family.attempt job ∨ attempt ≤ family.maxAttempts)

variable {family} {job found : family.Job} {message : Json} {attempt : Int}

theorem identity_withAttempt :
    family.identity (family.withAttempt job attempt) = family.identity job := by
  rw [identity, family.read_withAttempt, family.withAttempt_withAttempt, identity]

theorem identity_read : family.identity (family.read job) = family.identity job := by
  rw [identity, family.read_read, identity]

theorem fromMessage_copy :
    family.fromMessage (family.toMessage
      (family.withAttempt (family.read job) attempt)) =
      .ok (family.withAttempt (family.read job) attempt) := by
  rw [family.reads, family.read_withAttempt, family.read_read]

/-- What a worker reads of a copy is the job with some attempt. -/
theorem Copies.reads (copies : family.Copies job message) :
    ∃ attempt, family.fromMessage message =
        .ok (family.withAttempt (family.read job) attempt) ∧
      family.attempt job ≤ attempt ∧
      (attempt = family.attempt job ∨ attempt ≤ family.maxAttempts) := by
  rcases copies with rfl | ⟨attempt, rfl, later, bounded⟩
  · refine ⟨family.attempt job, ?_, le_refl _, .inl rfl⟩
    have same := family.withAttempt_attempt (family.read job)
    rw [family.attempt_read] at same
    rw [family.reads, same]
  · exact ⟨attempt, fromMessage_copy, later, bounded⟩

/-- A message and what is republished of it carry the same jobs. -/
theorem carries_republished {other : family.Job}
    (read : family.fromMessage message = .ok found)
    (reading : family.read found = found) :
    family.carries other (family.toMessage (family.withAttempt found attempt)) =
      family.carries other message := by
  have again : family.fromMessage
      (family.toMessage (family.withAttempt found attempt)) =
        .ok (family.withAttempt found attempt) := by
    rw [family.reads, family.read_withAttempt, reading]
  simp [JobFamily.carries, read, again, identity_withAttempt]

end JobFamily

/-! ## What a delivery may call -/

/-- How far a publication or a delivery has come: the message it holds, whether its
channel confirms publications, and whether it has stored a copy. -/
inductive QueuePhase (family : JobFamily) where
  | publishing (job : family.Job) (confirmed : Bool)
  | handling (held : Option Json) (confirmed republished : Bool)

namespace QueuePhase

variable {family : JobFamily}

/-- Publications are confirmed.  Publishers send their job, deliveries what they
have read with a new attempt, and they acknowledge what they do not settle only
after that. -/
def permits : QueuePhase family → QueueCall → Prop
  | publishing job confirmed, .basicPublish _ message =>
      confirmed = true ∧ message = family.toMessage job
  | publishing .., .basicAck _ => False
  | publishing .., .basicGet => False
  | handling held confirmed _, .basicPublish _ message =>
      confirmed = true ∧ ∃ source found attempt, held = some source ∧
        family.fromMessage source = .ok found ∧
        message = family.toMessage (family.withAttempt found attempt) ∧
        family.attempt found ≤ attempt ∧
        (attempt = family.attempt found ∨ attempt ≤ family.maxAttempts)
  | handling held _ republished, .basicAck method =>
      held.isSome = true ∧ (method = .ack ∨ republished = true)
  | handling held _ republished, .basicGet => held = none ∧ republished = false
  | _, _ => True

def next : QueuePhase family → (request : QueueCall) → Except Exn request.Ret →
    QueuePhase family
  | publishing job _, .confirmDelivery, .ok _ => publishing job true
  | handling held _ republished, .confirmDelivery, .ok _ =>
      handling held true republished
  | handling held confirmed republished, .confirmsEnabled, .ok enabled =>
      handling held (confirmed || enabled) republished
  | handling held confirmed _, .basicPublish .., .ok _ => handling held confirmed true
  | handling _ confirmed republished, .basicGet, .ok (some message) =>
      handling (some message) confirmed republished
  | phase, _, _ => phase

/-- Publishers and deliveries start without anything. -/
def start : QueueTask family → QueuePhase family
  | .publish _ job => publishing job false
  | .consume .. => handling none false false
  | .receive .. => handling none false false

/-- A delivery of the message. -/
def Holds (message : Json) (phase : QueuePhase family) : Prop :=
  ∃ confirmed republished, phase = handling (some message) confirmed republished

end QueuePhase

abbrev handoverMonitor (family : JobFamily) :
    Monitor QueueCall QueueCall.Ret Exn :=
  Monitor.deterministic QueuePhase.permits (@QueuePhase.next family)

section Conformance

variable {family : JobFamily} {Value : Type} {message : Json}
  {phase : QueuePhase family}

/-- A call that permits any phase of a delivery and leaves what it holds. -/
theorem holds_of_idle {request : QueueCall} (held : phase.Holds message)
    (permitted : ∀ confirmed republished,
      (@QueuePhase.handling family (some message) confirmed
        republished).permits request)
    (stays : ∀ confirmed republished (reply : Except Exn request.Ret),
      ((@QueuePhase.handling family (some message) confirmed
        republished).next request reply).Holds message) :
    (handoverMonitor family).Conforms (callQueue request)
      (fun _ after => QueuePhase.Holds message after) phase := by
  obtain ⟨confirmed, republished, rfl⟩ := held
  refine ⟨permitted confirmed republished, ?_⟩
  rintro reply after rfl
  exact stays confirmed republished reply

theorem holds_closeConnection (held : phase.Holds message) :
    (handoverMonitor family).Conforms (callQueue .closeConnection)
      (fun _ after => QueuePhase.Holds message after) phase :=
  holds_of_idle held (fun _ _ => trivial) fun _ _ reply => by
    cases reply <;> exact ⟨_, _, rfl⟩

theorem holds_basicNack (held : phase.Holds message) :
    (handoverMonitor family).Conforms (callQueue .basicNack)
      (fun _ after => QueuePhase.Holds message after) phase :=
  holds_of_idle held (fun _ _ => trivial) fun _ _ reply => by
    cases reply <;> exact ⟨_, _, rfl⟩

theorem holds_closeConnectionIfNeeded (delivery : RabbitMQDelivery family)
    (held : phase.Holds message) :
    (handoverMonitor family).Conforms delivery.closeConnectionIfNeeded
      (fun _ after => QueuePhase.Holds message after) phase := by
  apply Monitor.Conforms.onlyIf
  · intro _
    exact holds_closeConnection held
  · intro _
    exact held

/-- A copy of what the delivery has read is published on a confirming channel. -/
theorem holds_publishConfirmed {found : family.Job} {attempt : Int}
    (route : QueueRoute) (held : phase.Holds message)
    (read : family.fromMessage message = .ok found)
    (later : family.attempt found ≤ attempt)
    (bounded : attempt = family.attempt found ∨ attempt ≤ family.maxAttempts) :
    (handoverMonitor family).Conforms
      (RabbitMQDelivery.publishConfirmed route (family.withAttempt found attempt))
      (fun result after => QueuePhase.Holds message after ∧
        (result.isOk = true → ∃ confirmed,
          after = .handling (some message) confirmed true)) phase := by
  obtain ⟨confirmed, republished, rfl⟩ := held
  have published (confirmed republished : Bool) (on : confirmed = true) :
      (handoverMonitor family).Conforms
        (callQueue (.basicPublish route
          (family.toMessage (family.withAttempt found attempt))))
        (fun result after => QueuePhase.Holds message after ∧
          (result.isOk = true → ∃ confirmed,
            after = .handling (some message) confirmed true))
        (.handling (some message) confirmed republished) := by
    refine ⟨⟨on, message, found, attempt, rfl, read, rfl, later, bounded⟩, ?_⟩
    rintro reply after rfl
    cases reply with
    | ok _ => exact ⟨⟨_, _, rfl⟩, fun _ => ⟨_, rfl⟩⟩
    | error error => exact ⟨⟨_, _, rfl⟩, nofun⟩
  apply Monitor.Conforms.perform trivial
  · rintro enabled after rfl
    cases enabled with
    | true => exact published _ republished (by simp)
    | false =>
        have confirming : (handoverMonitor family).Conforms
            (callQueue .confirmDelivery)
            (fun result after => QueuePhase.Holds message after ∧
              (result.isOk = true → ∃ republished,
                after = .handling (some message) true republished))
            (.handling (some message) confirmed republished) := by
          refine ⟨trivial, ?_⟩
          rintro reply after rfl
          cases reply with
          | ok _ => exact ⟨⟨_, _, rfl⟩, fun _ => ⟨_, rfl⟩⟩
          | error error => exact ⟨⟨_, _, rfl⟩, nofun⟩
        simp only [QueuePhase.next, Bool.or_false]
        apply confirming.bind
        · rintro _ after ⟨_, reached⟩
          obtain ⟨stored, rfl⟩ := reached rfl
          exact published true stored rfl
        · rintro error after ⟨holds, _⟩
          exact ⟨holds, nofun⟩
  · rintro error after rfl
    exact ⟨⟨_, _, rfl⟩, nofun⟩

/-- An acknowledgement that settles, or one that follows a copy. -/
theorem holds_basicAck {method : DeliveryMethod} (held : phase.Holds message)
    (covered : method = .ack ∨ ∃ confirmed,
      phase = .handling (some message) confirmed true) :
    (handoverMonitor family).Conforms (callQueue (.basicAck method))
      (fun _ after => QueuePhase.Holds message after) phase := by
  have stays (confirmed republished : Bool) (reply : Except Exn Unit) :
      ((@QueuePhase.handling family (some message) confirmed
        republished).next (.basicAck method) reply).Holds message := by
    cases reply <;> exact ⟨_, _, rfl⟩
  rcases covered with rfl | ⟨confirmed, rfl⟩
  · exact holds_of_idle held (fun _ _ => ⟨rfl, .inl rfl⟩) stays
  · refine ⟨⟨rfl, .inr rfl⟩, ?_⟩
    rintro reply after rfl
    exact stays confirmed true reply

theorem holds_tryFinally {program : QueueProg Unit}
    (delivery : RabbitMQDelivery family)
    (body : (handoverMonitor family).Conforms program
      (fun _ after => QueuePhase.Holds message after) phase) :
    (handoverMonitor family).Conforms
      (program.tryFinally delivery.closeConnectionIfNeeded)
      (fun _ after => QueuePhase.Holds message after) phase := by
  apply body.tryFinally
  intro result after held
  apply (holds_closeConnectionIfNeeded delivery held).mono
  intro final last held
  cases final <;> exact held

theorem holds_republish (delivery : RabbitMQDelivery family) {found : family.Job}
    {attempt : Int} (method : DeliveryMethod) (route : QueueRoute)
    (held : phase.Holds message) (read : family.fromMessage message = .ok found)
    (later : family.attempt found ≤ attempt)
    (bounded : attempt = family.attempt found ∨ attempt ≤ family.maxAttempts) :
    (handoverMonitor family).Conforms
      (delivery.republish method route (family.withAttempt found attempt))
      (fun _ after => QueuePhase.Holds message after) phase := by
  apply holds_tryFinally
  apply (holds_publishConfirmed route held read later bounded).bind
  · rintro _ after ⟨held, stored⟩
    exact holds_basicAck held (.inr (stored rfl))
  · rintro error after ⟨held, _⟩
    exact held

/-- Every method of a delivery keeps to the phases. -/
theorem holds_run (delivery : RabbitMQDelivery family) (method : DeliveryMethod)
    (held : phase.Holds message)
    (read : family.fromMessage message = .ok delivery.job) :
    (handoverMonitor family).Conforms (delivery.run method)
      (fun _ after => QueuePhase.Holds message after) phase := by
  have same (method : DeliveryMethod) (route : QueueRoute) :
      (handoverMonitor family).Conforms
        (delivery.republish method route delivery.job)
        (fun _ after => QueuePhase.Holds message after) phase := by
    have republished := holds_republish delivery method route held read le_rfl
      (.inl rfl)
    rwa [family.withAttempt_attempt] at republished
  cases method with
  | ack => exact holds_tryFinally delivery (holds_basicAck held (.inl rfl))
  | retryContention => exact same .retryContention .retry
  | deadLetter => exact same .deadLetter .dead
  | retry =>
      simp only [RabbitMQDelivery.run, RabbitMQDelivery.retry]
      split_ifs with exhausted
      · exact same .deadLetter .dead
      · exact holds_republish delivery .retry .retry held read (by omega)
          (.inr (by omega))

/-- Whatever a worker does with the methods. -/
theorem holds_handleDelivery (delivery : RabbitMQDelivery family)
    (handler : Prog family.Method (fun _ => Unit) Exn Unit)
    (held : phase.Holds message)
    (read : family.fromMessage message = .ok delivery.job) :
    (handoverMonitor family).Conforms (handleDelivery delivery handler)
      (fun _ after => QueuePhase.Holds message after) phase := by
  induction handler generalizing phase with
  | done result => exact held
  | call method next induction =>
      apply (holds_run delivery (family.delivery method) held read).handle
      intro reply after held
      exact induction reply held

/-- What the broker hands out is what the delivery holds. -/
theorem holds_nextMessage {confirmed : Bool} :
    (handoverMonitor family).Conforms nextMessage
      (fun result after => ∀ found, result = .ok (some found) →
        QueuePhase.Holds found after)
      (.handling none confirmed false) := by
  refine ⟨⟨rfl, rfl⟩, ?_⟩
  rintro reply after rfl found rfl
  exact ⟨_, _, rfl⟩

theorem openDelivery_read (closes : Bool) (held : phase.Holds message) :
    (handoverMonitor family).Conforms
      (openDelivery closes message : QueueProg (RabbitMQDelivery family))
      (fun result after => QueuePhase.Holds message after ∧
        ∀ delivery, result = .ok delivery →
          family.fromMessage message = .ok delivery.job) phase := by
  unfold openDelivery
  split
  · rename_i job read
    refine ⟨held, ?_⟩
    rintro delivery same
    cases same
    exact read
  · exact ⟨held, nofun⟩

theorem conforms_consumeMessage (closes : Bool)
    (handler : DeliveryHandler family) :
    (handoverMonitor family).Conforms (consumeMessage closes handler)
      (fun _ _ => True) (.handling none false false) := by
  apply holds_nextMessage.bind
  · rintro (_ | message) after received
    · trivial
    · have held := received message rfl
      have body : (handoverMonitor family).Conforms
          (do
            let delivery ← openDelivery closes message
            handleDelivery delivery (handler delivery.job))
          (fun _ after => QueuePhase.Holds message after) after := by
        apply (openDelivery_read closes held).bind
        · rintro delivery last ⟨held, read⟩
          exact holds_handleDelivery delivery _ held (read delivery rfl)
        · rintro error last ⟨held, _⟩
          exact held
      apply body.tryExcept
      · exact fun _ _ _ => trivial
      · intro error last held
        apply (holds_basicNack held).tryExcept
        · exact fun _ _ _ => trivial
        · exact fun _ _ _ => trivial
  · exact fun _ _ _ => trivial

theorem conforms_receiveMessage (closes : Bool)
    (handler : DeliveryHandler family) :
    (handoverMonitor family).Conforms (receiveMessage closes handler)
      (fun _ _ => True) (.handling none false false) := by
  have closing (error : Exn) (phase : QueuePhase family) :
      (handoverMonitor family).Conforms
        (do
          callQueue .closeConnection
          (.raise error : QueueProg Unit))
        (fun _ _ => True) phase := by
    apply Monitor.Conforms.perform
    · cases phase <;> trivial
    · exact fun _ _ _ => trivial
    · exact fun _ _ _ => trivial
  refine Monitor.Conforms.handle
    (show (handoverMonitor family).Conforms _
      (fun result after => ∀ delivery, result = .ok (some delivery) →
        ∃ message, QueuePhase.Holds message after ∧
          family.fromMessage message = .ok delivery.job)
      (.handling none false false) from ?_) ?_
  · apply holds_nextMessage.bind
    · rintro (_ | message) after received
      · intro delivery same
        cases same
      · apply (openDelivery_read closes (received message rfl)).bind
        · rintro delivery last ⟨held, read⟩ other same
          cases same
          exact ⟨message, held, read delivery rfl⟩
        · intro error after raised delivery same
          cases same
    · intro error after raised delivery same
      cases same
  · rintro (error | _ | delivery) after reached
    · exact closing error after
    · trivial
    · obtain ⟨message, held, read⟩ := reached delivery rfl
      exact (holds_handleDelivery delivery _ held read).mono fun _ _ _ => trivial

theorem conforms_publishJob (route : QueueRoute) (job : family.Job) :
    (handoverMonitor family).Conforms (publishJob family route job)
      (fun _ _ => True) (.publishing job false) := by
  have closing (phase : QueuePhase family) :
      (handoverMonitor family).Conforms (callQueue .closeConnection)
        (fun _ _ => True) phase :=
    ⟨by cases phase <;> trivial, fun _ _ _ => trivial⟩
  apply Monitor.Conforms.perform trivial
  · rintro _ after rfl
    have body : (handoverMonitor family).Conforms
        (do
          callQueue .openChannel
          callQueue .confirmDelivery
          callQueue (.basicPublish route (family.toMessage job)))
        (fun _ _ => True) (.publishing job false) := by
      apply Monitor.Conforms.perform trivial
      · rintro _ after rfl
        apply Monitor.Conforms.perform trivial
        · rintro _ after rfl
          exact ⟨⟨rfl, rfl⟩, fun _ _ _ => trivial⟩
        · exact fun _ _ _ => trivial
      · exact fun _ _ _ => trivial
    apply body.tryFinally
    intro result after _
    apply (closing after).mono
    intro final last _
    cases final <;> trivial
  · exact fun _ _ _ => trivial

theorem conforms_body (task : QueueTask family) :
    (handoverMonitor family).Conforms ((queuePool family).body task)
      (fun _ _ => True) (QueuePhase.start task) := by
  cases task with
  | publish route job => exact conforms_publishJob route job
  | consume confirms closes handler => exact conforms_consumeMessage closes handler
  | receive confirms closes handler => exact conforms_receiveMessage closes handler

end Conformance

end ContractMate
