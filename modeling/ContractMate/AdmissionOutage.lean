import ContractMate.IntakeFootprints
import ContractMate.ReviewExecutions

/-!
# Admission outages

What an attempt at an inbound email or at a Slack event leaves behind when the rate
limiter cannot be asked: the email path raises and leaves its event to a retry, and
the Slack path takes the decision for a refusal.
-/

namespace ContractMate

/-- One answered call of an attempt. -/
abbrev IntakeAnswer := (request : IntakeCall) × Except Exn request.Ret

/-- An attempt at an inbound request. -/
inductive IntakeAttempt where
  | email (library : MailFunctions) (settings : InboundSettings)
      (event : ResendWebhookEvent)
  | slack (settings : SlackIntakeSettings) (record : InboundSlackEvent)

namespace IntakeAttempt

/-- The attempt as a program; an email's ends with a status. -/
def program (intOfText : String → Option Int) :
    IntakeAttempt → IntakeProg (Option InboundStatus)
  | email library settings event => do
      let result ← ResendInbound.process library settings intOfText event
      pure (some result.status)
  | slack settings record => do
      SlackIntake.handleEvent settings intOfText record
      pure none

/-- The rate limiter is configured in enforce mode. -/
def Enforced : IntakeAttempt → Prop
  | email _ settings _ => settings.limiter = some ⟨.enforce, true⟩
  | slack settings _ => settings.limiter = ⟨.enforce, true⟩

end IntakeAttempt

section Statement

variable (intOfText : String → Option Int) (attempt : IntakeAttempt)
  (before after : IntakeWorld) (result : Except Exn (Option InboundStatus))
  (answers : List IntakeAnswer)

/-- The limiter's reply could not be read. -/
def Outage : Prop :=
  ∃ (request : LimiterRequest) (reply : HttpReply),
    (⟨.limiter request, .ok reply⟩ : IntakeAnswer) ∈ answers ∧
      (request.readError intOfText reply).isSome

/-- Reading the limiter's reply raised an exception that the client does not turn
into a decision. -/
def Unclassified : Prop :=
  ∃ (request : LimiterRequest) (reply : HttpReply) (error : ReplyError),
    (⟨.limiter request, .ok reply⟩ : IntakeAnswer) ∈ answers ∧
      request.readError intOfText reply = some error ∧ error.caught = false

/-- The key of the message that a review limit has been reached. -/
def limitKey (record : InboundSlackEvent) : IdempotencyKey :=
  .rejection (record.eventId ++ ":" ++ "review-limit")

/-- The message that a limit was reached is queued. -/
def LimitQueued (record : InboundSlackEvent) : Prop :=
  ∃ (intent : OutboundSlackIntent) (id : Uuid),
    intent.idempotencyKey = limitKey record ∧
      (⟨.review none (.slack (.enqueueOutbound intent)), .ok id⟩ :
        IntakeAnswer) ∈ answers

/-- The message that a limit was reached could not be queued. -/
def LimitUnqueued (record : InboundSlackEvent) : Prop :=
  ∃ (intent : OutboundSlackIntent) (error : Exn),
    intent.idempotencyKey = limitKey record ∧
      (⟨.review none (.slack (.enqueueOutbound intent)), .error error⟩ :
        IntakeAnswer) ∈ answers

/-- The user is told that a limit was reached. -/
def IntakeAttempt.Told : Prop :=
  match attempt with
  | email .. => result = .ok (some .rateLimited)
  | slack _ record => LimitQueued answers record

/-- The call marks an email completed, or an event processed or ignored. -/
def Settles : IntakeCall → Prop
  | .event (.markCompleted _) => True
  | .review _ (.slack (.completeEvent ..)) => True
  | _ => False

/-- The call marks the event for a retry. -/
def MarksRetry (record : InboundSlackEvent) : SlackCall → Prop
  | .retryEvent rowId leaseToken attempts maxAttempts _ =>
      rowId = record.id ∧ leaseToken = record.leaseToken ∧
        attempts = record.attempts ∧ maxAttempts = 5
  | .retryEventContention rowId leaseToken _ =>
      rowId = record.id ∧ leaseToken = record.leaseToken
  | _ => False

/-- The event can be retried: it is marked so, or its attempts are used up, or the
write that marks it failed and the event is still claimed. -/
def IntakeAttempt.Retryable : Prop :=
  match attempt with
  | email _ _ event =>
      after.events.status? event.emailId = some .failed ∨
        after.events.status? event.emailId = some .processing ∧
          ∃ error, (⟨.event (.markFailed event.emailId), .error error⟩ :
            IntakeAnswer) ∈ answers
  | slack _ record =>
      ∀ row, before.review.database.slack.events.find? record.id = some row →
        SlackTables.eventOwned record.leaseToken row = true →
        ∃ row', after.review.database.slack.events.find? record.id = some row' ∧
          (row'.status = .pending ∨
            row'.status = .failed ∧ 5 ≤ record.attempts ∨
            row' = row ∧ ∃ (call : SlackCall) (error : Exn),
              MarksRetry record call ∧
                (⟨.review none (.slack call), .error error⟩ : IntakeAnswer) ∈
                  answers)

/-- The attempt leaves its event to a retry: it settles nothing, and nobody is told
about a limit. -/
structure IntakeAttempt.Spared : Prop where
  retryable : attempt.Retryable before after answers
  unsettled : ∀ (request : IntakeCall) (reply : Except Exn request.Ret),
    (⟨request, reply⟩ : IntakeAnswer) ∈ answers → ¬ Settles request
  untold : ¬ attempt.Told result answers

end Statement

/-! ## The email path -/

/-- How far an attempt at an email has come. -/
inductive EmailPhase where
  | unclaimed
  | claimed
  | past
  | out
  | marked
  | unmarked
deriving DecidableEq

namespace EmailPhase

variable (intOfText : String → Option Int) (event : ResendWebhookEvent)

/-- The phase after a claim. -/
def afterClaim : Except Exn InboundEventClaim → EmailPhase
  | .ok .acquired => claimed
  | _ => past

/-- The phase after an answer of the limiter. -/
def afterLimiter (request : LimiterRequest) : Except Exn HttpReply → EmailPhase
  | .ok reply => if (request.readError intOfText reply).isSome then out else past
  | .error _ => past

/-- The phase after the write that marks the event failed. -/
def afterFailure : Except Exn Unit → EmailPhase
  | .ok _ => marked
  | .error _ => unmarked

/-- Where an answer leads. -/
def next (phase : EmailPhase) (request : IntakeCall)
    (reply : Except Exn request.Ret) : EmailPhase :=
  match phase, request with
  | unclaimed, .event (.claim ..) => afterClaim reply
  | claimed, .service _ => claimed
  | claimed, .limiter request => afterLimiter intOfText request reply
  | claimed, _ => past
  | out, .event (.markFailed _) => afterFailure reply
  | phase, _ => phase

/-- The calls of a phase. -/
def Permits : EmailPhase → IntakeCall → Prop
  | unclaimed, .event (.claim _ emailId ..) => emailId = event.emailId
  | claimed, _ => True
  | past, request => request.OffLimiter
  | out, .event (.markFailed emailId) => emailId = event.emailId
  | _, _ => False

end EmailPhase

/-- The monitor of an attempt at an email. -/
def emailMonitor (intOfText : String → Option Int) (event : ResendWebhookEvent) :
    Monitor IntakeCall IntakeCall.Ret Exn where
  Phase := EmailPhase
  permitted := EmailPhase.Permits event
  answers := fun phase request reply after =>
    after = phase.next intOfText request reply

section EmailConformance

variable {library : MailFunctions} {settings : InboundSettings}
  {intOfText : String → Option Int} {event : ResendWebhookEvent} {Value : Type}

/-- No outage has been met. -/
def EmailPhase.Quiet (phase : EmailPhase) : Prop :=
  phase = .claimed ∨ phase = .past

/-- Without the limiter there is no outage. -/
theorem conforms_quiet {program : IntakeProg Value} {phase : EmailPhase}
    (calls : program.Calls IntakeCall.OffLimiter) (quiet : phase.Quiet) :
    (emailMonitor intOfText event).Conforms program
      (fun _ after => EmailPhase.Quiet after) phase := by
  have stays (phase : EmailPhase) (request : IntakeCall) (quiet : phase.Quiet)
      (off : request.OffLimiter) :
      phase.Permits event request ∧ ∀ reply after,
        after = phase.next intOfText request reply → after.Quiet := by
    rcases quiet with rfl | rfl
    · refine ⟨trivial, ?_⟩
      rintro reply after rfl
      cases request with
      | service call => exact .inl rfl
      | limiter request => exact off.elim
      | event call => exact .inr rfl
      | review position call => exact .inr rfl
    · refine ⟨off, ?_⟩
      rintro reply after rfl
      cases request <;> exact .inr rfl
  exact Monitor.conforms_of_calls calls stays quiet

/-- The limiter is asked no more than once. -/
theorem conforms_past {program : IntakeProg Value}
    (calls : program.Calls IntakeCall.OffLimiter) :
    (emailMonitor intOfText event).Conforms program
      (fun _ after => after = .past) .past := by
  have stays (phase : EmailPhase) (request : IntakeCall) (past : phase = .past)
      (off : request.OffLimiter) :
      phase.Permits event request ∧ ∀ reply after,
        after = phase.next intOfText request reply → after = .past := by
    subst past
    refine ⟨off, ?_⟩
    rintro reply after rfl
    cases request <;> rfl
  exact Monitor.conforms_of_calls calls stays rfl

/-- An admission that cannot be asked for is no admission, and no refusal. -/
theorem conforms_refused (enforced : settings.limiter = some ⟨.enforce, true⟩)
    (account : Option UserAccount) (sender : String) (units : Nat) :
    (emailMonitor intOfText event).Conforms
      (ResendInbound.refused settings intOfText account sender units)
      (fun result after => after = .past ∨
        ∃ error, result = .error error ∧ (after = .claimed ∨ after = .out))
      .claimed := by
  have consumed (policy : RateLimitPolicy) (identifier : String) :
      (emailMonitor intOfText event).Conforms
        (ResendInbound.consume intOfText ⟨.enforce, true⟩ policy identifier units)
        (fun result after => after = .past ∨
          (after = .claimed ∧ ∃ error, result = .error error) ∨
          (after = .out ∧ (result = .ok (unavailableDecision ⟨.enforce, true⟩) ∨
            ∃ error, result = .error error))) .claimed := by
    unfold ResendInbound.consume
    split_ifs
    · exact .inr (.inl ⟨rfl, _, rfl⟩)
    · exact .inr (.inl ⟨rfl, _, rfl⟩)
    · contradiction
    · refine ⟨trivial, ?_⟩
      rintro reply after rfl
      cases reply with
      | error error => exact .inl rfl
      | ok reply =>
          cases failed : (LimiterRequest.consume policy identifier units).readError
              intOfText reply with
          | none =>
              left
              exact if_neg (by simp [failed])
          | some error =>
              right
              right
              constructor
              · exact if_pos (by simp [failed])
              · cases caught : error.caught with
                | true => exact .inl (decideOn_of_caught failed caught)
                | false =>
                    exact .inr ⟨_, decideOn_of_not_caught failed caught⟩
  unfold ResendInbound.refused
  rw [enforced]
  apply (consumed _ _).bind
  · rintro decision after (rfl | ⟨_, _, raised⟩ | ⟨rfl, unavailable | ⟨_, raised⟩⟩)
    · split_ifs
      · exact .inl rfl
      · exact .inl rfl
    · cases raised
    · cases unavailable
      exact .inr ⟨_, rfl, .inr rfl⟩
    · cases raised
  · rintro error after (rfl | ⟨rfl, _⟩ | ⟨rfl, _⟩)
    · exact .inl rfl
    · exact .inr ⟨_, rfl, .inl rfl⟩
    · exact .inr ⟨_, rfl, .inr rfl⟩

/-- Where the preparation of an email can end. -/
def PreparationEnd (result : Except Exn Value) (after : EmailPhase) : Prop :=
  after.Quiet ∨ after = .out ∧ ∃ error, result = .error error

theorem conforms_prepareAdmitted
    (enforced : settings.limiter = some ⟨.enforce, true⟩) (email : ReceivedEmail)
    (senderName : Option String) (sender : String)
    (supported : List ReceivedAttachment) (ignored : List String) :
    (emailMonitor intOfText event).Conforms
      (ResendInbound.prepareAdmitted library settings intOfText event email
        senderName sender supported ignored) PreparationEnd .claimed := by
  have found : (emailMonitor intOfText event).Conforms
      (ResendInbound.existingAccount settings sender)
      (fun _ after => after = .claimed) .claimed := by
    unfold ResendInbound.existingAccount
    split_ifs
    · constructor
      · trivial
      · rintro reply after rfl
        rfl
    · rfl
  apply found.bind
  · rintro account after rfl
    apply (conforms_refused enforced account sender supported.length).bind
    · rintro isRefused after (rfl | ⟨_, raised, _⟩)
      · -- After a readable answer nothing asks the limiter again.
        apply (conforms_past (off_of_plain _)).mono fun _ _ past => .inl (.inr past)
        split_ifs
        · exact .bind (ResendInbound.completeWith_calls _ _) fun _ =>
            Prog.calls_pure
        · refine .bind (ResendInbound.senderWorkspace_calls _ _ _) fun workspace => ?_
          cases workspace with
          | none =>
              exact .bind (ResendInbound.completeWith_calls _ _) fun _ =>
                Prog.calls_pure
          | some workspaceId =>
              refine .perform trivial fun _ => ?_
              refine .bind ?_ fun _ => Prog.calls_pure
              exact ResendInbound.downloads_calls _ _ _
      · cases raised
    · rintro error after (rfl | ⟨_, _, rfl | rfl⟩)
      · exact .inl (.inr rfl)
      · exact .inl (.inl rfl)
      · exact .inr ⟨rfl, _, rfl⟩
  · rintro error after rfl
    exact .inl (.inl rfl)

theorem conforms_prepare (enforced : settings.limiter = some ⟨.enforce, true⟩) :
    (emailMonitor intOfText event).Conforms
      (ResendInbound.prepare library settings intOfText event) PreparationEnd
      .claimed := by
  have completed (result : ResendInboundResult) :
      (emailMonitor intOfText event).Conforms
        (do
          let result ← ResendInbound.completeWith event result
          pure (Sum.inl result) :
            IntakeProg (ResendInboundResult ⊕ ResendInbound.PreparedEmail))
        PreparationEnd .claimed :=
    (conforms_quiet (off_of_plain (.bind (ResendInbound.completeWith_calls _ _)
      fun _ => Prog.calls_pure)) (.inl rfl)).mono fun _ _ quiet => .inl quiet
  apply Monitor.Conforms.perform trivial
  · rintro email after rfl
    split
    · exact completed _
    · split
      · exact completed _
      · apply Monitor.Conforms.perform trivial
        · rintro attachments after rfl
          dsimp only
          split
          · exact completed _
          · exact conforms_prepareAdmitted enforced _ _ _ _ _
        · rintro error after rfl
          exact .inl (.inl rfl)
  · rintro error after rfl
    exact .inl (.inl rfl)

/-- Where an attempt at an email can end. -/
def EmailEnd (result : Except Exn Value) (after : EmailPhase) : Prop :=
  after.Quiet ∨
    (after = .marked ∨ after = .unmarked) ∧ ∃ error, result = .error error

theorem conforms_failEvent_out (error : Exn) :
    (emailMonitor intOfText event).Conforms
      (ResendInbound.failEvent event error : IntakeProg Value) EmailEnd .out := by
  apply Monitor.Conforms.perform rfl
  · rintro _ after rfl
    exact .inr ⟨.inl rfl, _, rfl⟩
  · rintro raised after rfl
    exact .inr ⟨.inr rfl, _, rfl⟩

/-- An attempt at an email that meets an outage marks the event failed and
raises. -/
theorem conforms_email (enforced : settings.limiter = some ⟨.enforce, true⟩) :
    (emailMonitor intOfText event).Conforms
      (ResendInbound.process library settings intOfText event) EmailEnd
      .unclaimed := by
  apply Monitor.Conforms.perform rfl
  · rintro claim after rfl
    cases claim with
    | completed => exact .inl (.inr rfl)
    | processing => exact .inl (.inr rfl)
    | acquired =>
        apply (conforms_prepare enforced).handle
        rintro (error | result | prepared) after (quiet | ⟨rfl, _, raised⟩)
        · exact (conforms_quiet (off_of_plain (ResendInbound.failEvent_calls _ _))
            quiet).mono fun _ _ quiet => .inl quiet
        · exact conforms_failEvent_out error
        · exact .inl quiet
        · cases raised
        · apply (conforms_quiet _ quiet).mono fun _ _ quiet => .inl quiet
          apply off_of_submits
          exact .tryFinally (.tryExcept (ResendInbound.ingest_calls _ _ _ _)
            fun _ => submits_of_plain (ResendInbound.failEvent_calls _ _))
              (submits_of_plain (ResendInbound.unlinkFiles_calls _))
        · cases raised
  · rintro error after rfl
    exact .inl (.inr rfl)

end EmailConformance

/-! ## Answers -/

section Answers

variable {intOfText : String → Option Int} {answers : List IntakeAnswer}
  {request : IntakeCall} {reply : Except Exn request.Ret}

/-- Nothing has been settled. -/
def NoneSettled (answers : List IntakeAnswer) : Prop :=
  ∀ (request : IntakeCall) (reply : Except Exn request.Ret),
    (⟨request, reply⟩ : IntakeAnswer) ∈ answers → ¬ Settles request

theorem noneSettled_nil : NoneSettled [] :=
  fun _ _ member => absurd member List.not_mem_nil

theorem NoneSettled.append (none : NoneSettled answers)
    (spares : ¬ Settles request) : NoneSettled (answers ++ [⟨request, reply⟩]) := by
  intro other _ member
  rcases List.mem_append.mp member with old | new
  · exact none _ _ old
  · rw [List.mem_singleton] at new
    cases new
    exact spares

theorem not_outage_nil : ¬ Outage intOfText [] := by
  rintro ⟨_, _, member, _⟩
  cases member

/-- Only the limiter brings an outage. -/
theorem not_outage_append (none : ¬ Outage intOfText answers)
    (off : request.OffLimiter) :
    ¬ Outage intOfText (answers ++ [⟨request, reply⟩]) := by
  rintro ⟨asked, answer, member, failed⟩
  rcases List.mem_append.mp member with old | new
  · exact none ⟨asked, answer, old, failed⟩
  · rw [List.mem_singleton] at new
    cases new
    exact off

theorem not_outage_append_limiter {asked : LimiterRequest} {answer : HttpReply}
    (quiet : ¬ Outage intOfText answers)
    (readable : asked.readError intOfText answer = none) :
    ¬ Outage intOfText (answers ++ [⟨.limiter asked, .ok answer⟩]) := by
  rintro ⟨other, otherAnswer, member, failed⟩
  rcases List.mem_append.mp member with old | new
  · exact quiet ⟨other, otherAnswer, old, failed⟩
  · rw [List.mem_singleton] at new
    cases new
    simp [readable] at failed

variable {world after : IntakeWorld} {choice : IntakeChoice} {delivery : Nat}

/-- A call for an email's event is run, or raises and changes nothing. -/
theorem IntakeWorld.respond_event {call : InboundEventCall}
    {reply : Except Exn call.Ret}
    (run : IntakeWorld.respond intOfText delivery choice world (.event call) =
      some (reply, after)) :
    (reply = .ok (call.answer world.events world.review.now) ∧
        after = { world with
          events := (call.run world.review.now world.events).2 }) ∨
      (∃ error, reply = .error error) ∧ after = world := by
  cases choice with
  | event failure =>
      cases failure with
      | none =>
          cases run
          exact .inl ⟨rfl, rfl⟩
      | some error =>
          cases run
          exact .inr ⟨⟨error, rfl⟩, rfl⟩
  | limiter outcome | service call reply | review choice => cases run

/-- Services leave the world. -/
theorem IntakeWorld.respond_service {call : ServiceCall}
    {reply : Except Exn call.Ret}
    (run : IntakeWorld.respond intOfText delivery choice world (.service call) =
      some (reply, after)) : after = world := by
  cases choice with
  | service answered given =>
      simp only [IntakeWorld.respond] at run
      split_ifs at run
      cases run
      rfl
  | event failure | limiter outcome | review choice => cases run

/-- A script touches the limiter's keys only. -/
theorem IntakeWorld.runScript_else (request : LimiterRequest) :
    (world.runScript request).2.events = world.events ∧
      (world.runScript request).2.review = world.review := by
  cases request <;> exact ⟨rfl, rfl⟩

theorem IntakeWorld.respond_limiter {asked : LimiterRequest}
    {reply : Except Exn HttpReply}
    (run : IntakeWorld.respond intOfText delivery choice world (.limiter asked) =
      some (reply, after)) :
    (∃ answer, reply = .ok answer) ∧ after.events = world.events ∧
      after.review = world.review := by
  cases choice with
  | limiter outcome =>
      simp only [IntakeWorld.respond] at run
      obtain ⟨answer, answered, same⟩ := Option.map_eq_some_iff.mp run
      cases same
      refine ⟨⟨_, rfl⟩, ?_⟩
      cases outcome with
      | answered =>
          cases answered
          exact runScript_else asked
      | garbled ran reply =>
          simp only [IntakeWorld.respondLimiter] at answered
          split_ifs at answered
          · cases answered
            exact runScript_else asked
          · cases answered
            exact ⟨rfl, rfl⟩
  | event failure | service call reply | review choice => cases run

/-- A recorded answer is the last of the log. -/
theorem recording_eq {before reached : IntakeWorld × List IntakeAnswer}
    (run : Prog.recording (IntakeWorld.respond intOfText delivery) choice before
      request = some (reply, reached)) :
    IntakeWorld.respond intOfText delivery choice before.1 request =
        some (reply, reached.1) ∧
      reached.2 = before.2 ++ [⟨request, reply⟩] := by
  simp only [Prog.recording] at run
  obtain ⟨answer, answered, same⟩ := Option.map_eq_some_iff.mp run
  cases same
  exact ⟨answered, rfl⟩

end Answers

/-! ## What an attempt at an email leaves -/

section EmailWorld

variable {intOfText : String → Option Int} {event : ResendWebhookEvent}

/-- What is known in each phase. -/
def EmailHolds (intOfText : String → Option Int) (event : ResendWebhookEvent)
    (phase : EmailPhase) (world : IntakeWorld) (answers : List IntakeAnswer) :
    Prop :=
  match phase with
  | .unclaimed => ¬ Outage intOfText answers ∧ NoneSettled answers
  | .claimed => ¬ Outage intOfText answers ∧ NoneSettled answers ∧
      world.events.status? event.emailId = some .processing
  | .past => ¬ Outage intOfText answers
  | .out => NoneSettled answers ∧
      world.events.status? event.emailId = some .processing
  | .marked => NoneSettled answers ∧
      world.events.status? event.emailId = some .failed
  | .unmarked => NoneSettled answers ∧
      world.events.status? event.emailId = some .processing ∧
        ∃ error, (⟨.event (.markFailed event.emailId), .error error⟩ :
          IntakeAnswer) ∈ answers

variable {world after : IntakeWorld} {answers : List IntakeAnswer}
  {choice : IntakeChoice} {delivery : Nat}

/-- The claim of the event. -/
theorem emailHolds_claim
    {eventId workspaceId eventType payloadHash : String}
    {reply : Except Exn InboundEventClaim}
    (holds : EmailHolds intOfText event .unclaimed world answers)
    (run : IntakeWorld.respond intOfText delivery choice world (.event (.claim
      eventId event.emailId workspaceId eventType payloadHash)) =
        some (reply, after)) :
    EmailHolds intOfText event (EmailPhase.afterClaim reply) after
      (answers ++ [⟨.event (.claim eventId event.emailId workspaceId eventType
        payloadHash), reply⟩]) := by
  obtain ⟨quiet, unsettled⟩ := holds
  have quiet : ¬ Outage intOfText (answers ++ [⟨.event (.claim eventId
      event.emailId workspaceId eventType payloadHash), reply⟩]) :=
    not_outage_append quiet trivial
  rcases IntakeWorld.respond_event run with ⟨rfl, rfl⟩ | ⟨⟨error, rfl⟩, rfl⟩
  · cases claimed : (world.events.claim world.review.now eventId event.emailId
        workspaceId eventType payloadHash).1 with
    | acquired =>
        simp only [InboundEventCall.answer, claimed] at quiet ⊢
        exact ⟨quiet, unsettled.append id,
          InboundEmailEvents.status?_claim_of_acquired _ _ _ _ claimed⟩
    | completed | processing =>
        simp only [InboundEventCall.answer, claimed] at quiet ⊢
        exact quiet
  · exact quiet

/-- The limiter's answer. -/
theorem emailHolds_limiter {asked : LimiterRequest} {reply : Except Exn HttpReply}
    (holds : EmailHolds intOfText event .claimed world answers)
    (run : IntakeWorld.respond intOfText delivery choice world (.limiter asked) =
      some (reply, after)) :
    EmailHolds intOfText event (EmailPhase.afterLimiter intOfText asked reply) after
      (answers ++ [⟨.limiter asked, reply⟩]) := by
  obtain ⟨quiet, unsettled, processing⟩ := holds
  obtain ⟨⟨answer, rfl⟩, sameEvents, _⟩ := IntakeWorld.respond_limiter run
  cases failed : asked.readError intOfText answer with
  | none =>
      simp only [EmailPhase.afterLimiter, failed, Option.isSome_none,
        Bool.false_eq_true, if_false]
      exact not_outage_append_limiter quiet failed
  | some error =>
      simp only [EmailPhase.afterLimiter, failed, Option.isSome_some, if_true]
      exact ⟨unsettled.append id, sameEvents ▸ processing⟩

/-- The write that marks the event failed. -/
theorem emailHolds_failure {reply : Except Exn Unit}
    (holds : EmailHolds intOfText event .out world answers)
    (run : IntakeWorld.respond intOfText delivery choice world
      (.event (.markFailed event.emailId)) = some (reply, after)) :
    EmailHolds intOfText event (EmailPhase.afterFailure reply) after
      (answers ++ [⟨.event (.markFailed event.emailId), reply⟩]) := by
  obtain ⟨unsettled, processing⟩ := holds
  rcases IntakeWorld.respond_event run with ⟨rfl, rfl⟩ | ⟨⟨error, rfl⟩, rfl⟩
  · refine ⟨unsettled.append id, ?_⟩
    simp only [InboundEventCall.run]
    rw [InboundEmailEvents.status?_mark, if_pos rfl, processing]
    rfl
  · exact ⟨unsettled.append id, processing, error,
      List.mem_append_right _ (List.mem_singleton_self _)⟩

theorem emailHolds_next {phase : EmailPhase} {request : IntakeCall}
    {reply : Except Exn request.Ret}
    (holds : EmailHolds intOfText event phase world answers)
    (permitted : phase.Permits event request)
    (run : IntakeWorld.respond intOfText delivery choice world request =
      some (reply, after)) :
    EmailHolds intOfText event (phase.next intOfText request reply) after
      (answers ++ [⟨request, reply⟩]) := by
  cases phase with
  | unclaimed =>
      cases request with
      | event call =>
          cases call with
          | claim eventId emailId workspaceId eventType payloadHash =>
              have same : emailId = event.emailId := permitted
              subst same
              exact emailHolds_claim holds run
          | updateWorkspace emailId workspaceId | markCompleted emailId
          | markFailed emailId => exact permitted.elim
      | limiter request | service call | review position call => exact permitted.elim
  | claimed =>
      cases request with
      | event call => exact not_outage_append holds.1 trivial
      | limiter asked => exact emailHolds_limiter holds run
      | service call =>
          obtain ⟨quiet, unsettled, processing⟩ := holds
          have same := IntakeWorld.respond_service run
          exact ⟨not_outage_append quiet trivial, unsettled.append id,
            same ▸ processing⟩
      | review position call => exact not_outage_append holds.1 trivial
  | past => cases request <;> exact not_outage_append holds permitted
  | out =>
      cases request with
      | event call =>
          cases call with
          | markFailed emailId =>
              have same : emailId = event.emailId := permitted
              subst same
              exact emailHolds_failure holds run
          | claim eventId emailId workspaceId eventType payloadHash
          | updateWorkspace emailId workspaceId | markCompleted emailId =>
              exact permitted.elim
      | limiter request | service call | review position call => exact permitted.elim
  | marked => cases request <;> exact permitted.elim
  | unmarked => cases request <;> exact permitted.elim

/-- An attempt at an email that meets an outage leaves the email to a retry. -/
theorem email_spared (library : MailFunctions) {settings : InboundSettings}
    (enforced : settings.limiter = some ⟨.enforce, true⟩)
    {before : IntakeWorld} {choices : List IntakeChoice}
    {result : Except Exn (Option InboundStatus)}
    (run : ((IntakeAttempt.email library settings event).program intOfText).finish
      (Prog.recording (IntakeWorld.respond intOfText delivery)) (before, [])
        choices = some (result, after, answers))
    (outage : Outage intOfText answers) :
    (IntakeAttempt.email library settings event).Spared before after result
      answers := by
  have conforms : (emailMonitor intOfText event).Conforms
      ((IntakeAttempt.email library settings event).program intOfText) EmailEnd
      .unclaimed := by
    apply (conforms_email enforced).bind
    · rintro value last (quiet | ⟨_, _, raised⟩)
      · exact .inl quiet
      · cases raised
    · rintro error last (quiet | ⟨marked, _⟩)
      · exact .inl quiet
      · exact .inr ⟨marked, _, rfl⟩
  have follows (phase : EmailPhase) (state : IntakeWorld × List IntakeAnswer)
      (request : IntakeCall) (choice : IntakeChoice)
      (reply : Except Exn request.Ret) (reached : IntakeWorld × List IntakeAnswer)
      (holds : EmailHolds intOfText event phase state.1 state.2)
      (permitted : phase.Permits event request)
      (answered : Prog.recording (IntakeWorld.respond intOfText delivery) choice
        state request = some (reply, reached)) :
      ∃ next, next = phase.next intOfText request reply ∧
        EmailHolds intOfText event next reached.1 reached.2 := by
    obtain ⟨answered, log⟩ := recording_eq answered
    exact ⟨_, rfl, log ▸ emailHolds_next holds permitted answered⟩
  obtain ⟨last, holds, ended⟩ := Monitor.Conforms.finish follows choices conforms
    ⟨not_outage_nil, noneSettled_nil⟩ run
  have raised : (last = .marked ∨ last = .unmarked) ∧ ∃ error, result = .error error := by
    rcases ended with (rfl | rfl) | marked
    · exact absurd outage holds.1
    · exact absurd outage holds
    · exact marked
  obtain ⟨marked, error, rfl⟩ := raised
  rcases marked with rfl | rfl
  · exact ⟨.inl holds.2, holds.1, nofun⟩
  · exact ⟨.inr holds.2, holds.1, nofun⟩

end EmailWorld

/-! ## The Slack path -/

/-- How far an attempt at a Slack event has come. -/
inductive SlackPhase where
  | early
  | past
  | refused
  | raised
  | told
  | untold
  | retried
  | unretried
deriving DecidableEq

namespace SlackPhase

variable (intOfText : String → Option Int) (record : InboundSlackEvent)

/-- The phase after an answer of the limiter. -/
def afterLimiter (request : LimiterRequest) : Except Exn HttpReply → SlackPhase
  | .ok reply =>
      match request.readError intOfText reply with
      | none => past
      | some error => if error.caught then refused else raised
  | .error _ => past

variable {intOfText} {request : LimiterRequest} {reply : HttpReply}
  {error : ReplyError}

theorem afterLimiter_of_none (readable : request.readError intOfText reply = none) :
    afterLimiter intOfText request (.ok reply) = past := by
  simp [afterLimiter, readable]

theorem afterLimiter_of_caught
    (failed : request.readError intOfText reply = some error)
    (caught : error.caught = true) :
    afterLimiter intOfText request (.ok reply) = refused := by
  simp [afterLimiter, failed, caught]

theorem afterLimiter_of_not_caught
    (failed : request.readError intOfText reply = some error)
    (uncaught : error.caught = false) :
    afterLimiter intOfText request (.ok reply) = raised := by
  simp [afterLimiter, failed, uncaught]

variable (intOfText)

/-- The phase after a write that succeeds or fails. -/
def afterWrite {Value : Type} (done failed : SlackPhase) :
    Except Exn Value → SlackPhase
  | .ok _ => done
  | .error _ => failed

/-- Where an answer leads. -/
def next (phase : SlackPhase) (request : IntakeCall)
    (reply : Except Exn request.Ret) : SlackPhase :=
  match phase, request with
  | early, .service _ => early
  | early, .limiter request => afterLimiter intOfText request reply
  | early, _ => past
  | refused, .review none (.slack (.enqueueOutbound _)) =>
      afterWrite told untold reply
  | untold, .review none (.slack _) => afterWrite retried unretried reply
  | raised, .review none (.slack _) => afterWrite retried unretried reply
  | phase, _ => phase

/-- The calls of a phase. -/
def Permits : SlackPhase → IntakeCall → Prop
  | early, _ => True
  | past, request => request.OffLimiter
  | refused, .review none (.slack (.enqueueOutbound intent)) =>
      intent.idempotencyKey = limitKey record
  | told, .review none (.slack (.completeEvent ..)) => True
  | untold, .review none (.slack call) => MarksRetry record call
  | raised, .review none (.slack call) => MarksRetry record call
  | retried, .service _ => True
  | retried, .review none (.slack (.enqueueOutbound intent)) =>
      intent.idempotencyKey ≠ limitKey record
  | _, _ => False

end SlackPhase

/-- The monitor of an attempt at a Slack event. -/
def slackMonitor (intOfText : String → Option Int) (record : InboundSlackEvent) :
    Monitor IntakeCall IntakeCall.Ret Exn where
  Phase := SlackPhase
  permitted := SlackPhase.Permits record
  answers := fun phase request reply after =>
    after = phase.next intOfText request reply

section SlackConformance

variable {settings : SlackIntakeSettings} {intOfText : String → Option Int}
  {record : InboundSlackEvent} {Value : Type}

/-- No outage has been met. -/
def SlackPhase.Quiet (phase : SlackPhase) : Prop :=
  phase = .early ∨ phase = .past

theorem slack_conforms_quiet {program : IntakeProg Value} {phase : SlackPhase}
    (calls : program.Calls IntakeCall.OffLimiter) (quiet : phase.Quiet) :
    (slackMonitor intOfText record).Conforms program
      (fun _ after => SlackPhase.Quiet after) phase := by
  have stays (phase : SlackPhase) (request : IntakeCall) (quiet : phase.Quiet)
      (off : request.OffLimiter) :
      phase.Permits record request ∧ ∀ reply after,
        after = phase.next intOfText request reply → after.Quiet := by
    rcases quiet with rfl | rfl
    · refine ⟨trivial, ?_⟩
      rintro reply after rfl
      cases request with
      | service call => exact .inl rfl
      | limiter request => exact off.elim
      | event call => exact .inr rfl
      | review position call => exact .inr rfl
    · refine ⟨off, ?_⟩
      rintro reply after rfl
      cases request <;> exact .inr rfl
  exact Monitor.conforms_of_calls calls stays quiet

/-- Where `_process` can end. -/
def ProcessEnd (result : Except Exn SlackEventOutcome) (after : SlackPhase) :
    Prop :=
  after.Quiet ∨ (after = .told ∧ result = .ok .ignored) ∨
    (after = .untold ∧ ∃ error, result = .error error) ∨
    (after = .raised ∧ ∃ error : ReplyError, error.caught = false ∧
      result = .error error.raised)

theorem processEnd_of_quiet {program : IntakeProg SlackEventOutcome} {phase : SlackPhase}
    (calls : program.Calls IntakeCall.OffLimiter) (quiet : phase.Quiet) :
    (slackMonitor intOfText record).Conforms program ProcessEnd phase :=
  (slack_conforms_quiet calls quiet).mono fun _ _ quiet => .inl quiet

/-- The user of a request that was taken for refused is told so. -/
theorem conforms_reject (conversation : SlackIntake.Conversation)
    (workspaceId message : String) :
    (slackMonitor intOfText record).Conforms
      (SlackIntake.reject record conversation workspaceId "review-limit" message)
      ProcessEnd .refused := by
  have queued : (slackMonitor intOfText record).Conforms
      (SlackIntake.queueRejection record conversation workspaceId "review-limit"
        message)
      (fun result after => (after = .told ∧ ∃ value, result = .ok value) ∨
        after = .untold ∧ ∃ error, result = .error error) .refused := by
    apply Monitor.Conforms.perform rfl
    · rintro _ after rfl
      exact .inl ⟨rfl, (), rfl⟩
    · rintro error after rfl
      exact .inr ⟨rfl, error, rfl⟩
  apply queued.bind
  · rintro _ after (⟨rfl, _⟩ | ⟨_, _, raised⟩)
    · exact .inr (.inl ⟨rfl, rfl⟩)
    · cases raised
  · rintro error after (⟨_, _, succeeded⟩ | ⟨rfl, _⟩)
    · cases succeeded
    · exact .inr (.inr (.inl ⟨rfl, _, rfl⟩))

theorem conforms_processAccount (enforced : settings.limiter = ⟨.enforce, true⟩)
    (body : SlackEventBody) (conversation : SlackIntake.Conversation)
    (fallbackWorkspace : String) (account : UserAccount)
    (files : List SlackFile) :
    (slackMonitor intOfText record).Conforms
      (SlackIntake.processAccount settings intOfText record body conversation
        fallbackWorkspace account files) ProcessEnd .early := by
  have reserved (identifier pathname : String) (units : Nat) :
      (slackMonitor intOfText record).Conforms
        (SlackIntake.reserveUpload settings intOfText identifier pathname units)
        (fun result after => after.Quiet ∨
          (after = .refused ∧
            result = .ok (unavailableDecision ⟨.enforce, true⟩)) ∨
          (after = .raised ∧ ∃ error : ReplyError, error.caught = false ∧
            result = .error error.raised)) .early := by
    unfold SlackIntake.reserveUpload
    rw [enforced]
    split_ifs
    · exact .inl (.inl rfl)
    · exact .inl (.inl rfl)
    · contradiction
    · refine ⟨trivial, ?_⟩
      intro reply after leads
      cases reply with
      | error error => exact .inl (.inr leads)
      | ok reply =>
          cases failed : raisedBy (readReserved intOfText reply) with
          | none =>
              exact .inl (.inr
                (Eq.trans leads (SlackPhase.afterLimiter_of_none failed)))
          | some error =>
              cases caught : error.caught with
              | true =>
                  exact .inr (.inl
                    ⟨Eq.trans leads (SlackPhase.afterLimiter_of_caught failed caught),
                      decideOn_of_caught failed caught⟩)
              | false =>
                  exact .inr (.inr
                    ⟨Eq.trans leads
                        (SlackPhase.afterLimiter_of_not_caught failed caught),
                      error, caught, decideOn_of_not_caught failed caught⟩)
  unfold SlackIntake.processAccount
  split
  · exact processEnd_of_quiet (SlackIntake.reject_calls _ _ _ _ _) (.inl rfl)
  · split_ifs
    · exact processEnd_of_quiet (SlackIntake.reject_calls _ _ _ _ _) (.inl rfl)
    · apply (reserved _ _ _).bind
      · rintro quota after (still | ⟨rfl, unavailable⟩ | ⟨_, _, _, raised⟩)
        · split_ifs
          · exact processEnd_of_quiet (SlackIntake.reject_calls _ _ _ _ _) still
          · exact processEnd_of_quiet (SlackIntake.processAdmitted_calls _ _ _ _ _ _) still
        · cases unavailable
          exact conforms_reject _ _ _
        · cases raised
      · rintro error after (still | ⟨_, unavailable⟩ | ⟨rfl, failure, uncaught, raised⟩)
        · exact .inl still
        · cases unavailable
        · cases raised
          exact .inr (.inr (.inr ⟨rfl, failure, uncaught, rfl⟩))

theorem conforms_processSender (enforced : settings.limiter = ⟨.enforce, true⟩)
    (body : SlackEventBody) (conversation : SlackIntake.Conversation)
    (fallbackWorkspace : String) (user : SlackMemberIdentity)
    (files : List SlackFile) :
    (slackMonitor intOfText record).Conforms
      (SlackIntake.processSender settings intOfText record body conversation
        fallbackWorkspace user files) ProcessEnd .early := by
  apply Monitor.Conforms.perform trivial
  · rintro found after rfl
    cases found with
    | some account => exact conforms_processAccount enforced _ _ _ _ _
    | none =>
        apply Monitor.Conforms.perform trivial
        · rintro (capacity : Bool) after rfl
          cases capacity with
          | false =>
              exact processEnd_of_quiet (SlackIntake.reject_calls _ _ _ _ _) (.inl rfl)
          | true =>
              apply Monitor.Conforms.perform trivial
              · rintro account after rfl
                exact conforms_processAccount enforced _ _ _ _ _
              · rintro error after rfl
                exact .inl (.inl rfl)
        · rintro error after rfl
          exact .inl (.inl rfl)
  · rintro error after rfl
    exact .inl (.inl rfl)

theorem conforms_resolveUser (slackUserId : String) :
    (slackMonitor intOfText record).Conforms
      (SlackIntake.resolveUser settings slackUserId)
      (fun _ after => after = .early) .early := by
  unfold SlackIntake.resolveUser
  split_ifs
  · rfl
  · apply Monitor.Conforms.perform trivial
    · rintro member after rfl
      dsimp only
      split_ifs
      · rfl
      · rfl
    · rintro error after rfl
      rfl

theorem conforms_installationWorkspace (installation : SlackInstallation) :
    (slackMonitor intOfText record).Conforms
      (SlackIntake.installationWorkspace installation)
      (fun _ after => after = .early) .early := by
  apply Monitor.Conforms.perform trivial
  · rintro owner after rfl
    rfl
  · rintro error after rfl
    rfl

theorem conforms_processSupported (enforced : settings.limiter = ⟨.enforce, true⟩)
    (body : SlackEventBody) (installation : SlackInstallation) :
    (slackMonitor intOfText record).Conforms
      (SlackIntake.processSupported settings intOfText record body installation)
      ProcessEnd .early := by
  apply Monitor.Conforms.perform trivial
  · rintro token after rfl
    apply (conforms_resolveUser body.user).bind
    · rintro user after rfl
      dsimp only
      split
      · apply (conforms_installationWorkspace installation).bind
        · rintro fallbackWorkspace after rfl
          split
          · exact processEnd_of_quiet (SlackIntake.reject_calls _ _ _ _ _) (.inl rfl)
          · split_ifs
            · exact processEnd_of_quiet (SlackIntake.reject_calls _ _ _ _ _) (.inl rfl)
            · exact conforms_processSender enforced _ _ _ _ _
        · rintro error after rfl
          exact .inl (.inl rfl)
      · exact .inl (.inl rfl)
      · exact .inl (.inl rfl)
    · rintro error after rfl
      exact .inl (.inl rfl)
  · rintro error after rfl
    exact .inl (.inl rfl)

theorem conforms_slackProcess (enforced : settings.limiter = ⟨.enforce, true⟩) :
    (slackMonitor intOfText record).Conforms
      (SlackIntake.process settings intOfText record) ProcessEnd .early := by
  unfold SlackIntake.process
  split_ifs
  · exact .inl (.inl rfl)
  · split
    · exact .inl (.inl rfl)
    · split_ifs
      · exact .inl (.inl rfl)
      · apply Monitor.Conforms.perform trivial
        · rintro installation after rfl
          cases installation with
          | none => exact .inl (.inl rfl)
          | some installation => exact conforms_processSupported enforced _ _
        · rintro error after rfl
          exact .inl (.inl rfl)

/-- Where the handling of an event can end. -/
def SlackEnd (_ : Except Exn Value) (after : SlackPhase) : Prop :=
  after.Quiet ∨ after = .told ∨ after = .retried ∨ after = .unretried

theorem terminal_ne_limitKey :
    IdempotencyKey.rejection (record.eventId ++ ":" ++ "terminal") ≠
      limitKey record := by
  intro same
  rw [limitKey, IdempotencyKey.rejection.injEq] at same
  have tail := congrArg String.toList same
  simp only [String.toList_append, List.append_assoc, List.append_cancel_left_eq]
    at tail
  revert tail
  decide

/-- The notice of an event whose attempts are used up speaks of no limit. -/
theorem conforms_terminal :
    (slackMonitor intOfText record).Conforms
      ((SlackIntake.queueTerminalEventFailure settings record).tryExcept
        fun _ => pure ()) (fun _ after => after = .retried) .retried := by
  have allowed : (SlackIntake.queueTerminalEventFailure settings record).Calls
      (SlackPhase.Permits record .retried) := by
    unfold SlackIntake.queueTerminalEventFailure
    split
    · exact Prog.calls_pure
    · split
      · refine .perform trivial fun installation => ?_
        cases installation with
        | none => exact Prog.calls_pure
        | some installation =>
            refine .bind (.perform trivial fun _ =>
              Prog.calls_pure) fun workspaceId => ?_
            exact .perform terminal_ne_limitKey fun _ =>
              Prog.calls_pure
      · exact Prog.calls_pure
  have stays (phase : SlackPhase) (request : IntakeCall) (retried : phase = .retried)
      (allowed : SlackPhase.Permits record .retried request) :
      phase.Permits record request ∧ ∀ reply after,
        after = phase.next intOfText request reply → after = .retried := by
    subst retried
    refine ⟨allowed, ?_⟩
    rintro reply after rfl
    cases request <;> rfl
  exact Monitor.conforms_of_calls (allowed.tryExcept fun _ => Prog.calls_pure) stays
    rfl

/-- The exceptions that the client lets through are no busy attachments. -/
theorem raised_ne_busy (error : ReplyError) :
    error.raised.kind ≠ .slackFileSubmissionBusy := by
  cases error <;> simp [ReplyError.raised]

/-- The writes that mark an event for a retry. -/
theorem conforms_marks {phase : SlackPhase} {call : SlackCall}
    {next : call.Ret → IntakeProg Unit}
    (waits : phase = .untold ∨ phase = .raised) (marks : MarksRetry record call)
    (then_ : ∀ value, (slackMonitor intOfText record).Conforms (next value) SlackEnd
      .retried) :
    (slackMonitor intOfText record).Conforms (callIntakeSlack call >>= next)
      SlackEnd phase := by
  rcases waits with rfl | rfl
  · apply Monitor.Conforms.perform marks
    · rintro value after rfl
      exact then_ value
    · rintro error after rfl
      exact .inr (.inr (.inr rfl))
  · apply Monitor.Conforms.perform marks
    · rintro value after rfl
      exact then_ value
    · rintro error after rfl
      exact .inr (.inr (.inr rfl))

theorem conforms_retryEvent {phase : SlackPhase}
    (waits : phase = .untold ∨ phase = .raised) :
    (slackMonitor intOfText record).Conforms
      (SlackIntake.retryEvent settings record) SlackEnd phase := by
  have marks : MarksRetry record (.retryEvent record.id record.leaseToken
      record.attempts 5 none) := ⟨rfl, rfl, rfl, rfl⟩
  apply conforms_marks waits marks
  intro retryStatus
  apply Monitor.Conforms.onlyIf
  · intro _
    exact conforms_terminal.mono fun _ _ retried => .inr (.inr (.inl retried))
  · intro _
    exact .inr (.inr (.inl rfl))

theorem conforms_retryContention :
    (slackMonitor intOfText record).Conforms
      (SlackIntake.retryContention record) SlackEnd .untold := by
  have marks : MarksRetry record (.retryEventContention record.id
      record.leaseToken 30) := ⟨rfl, rfl⟩
  apply conforms_marks (.inl rfl) marks
  intro _
  exact .inr (.inr (.inl rfl))

/-- An attempt at a Slack event that meets an outage tells the user about a limit,
unless the limiter's client raised or the message could not be queued. -/
theorem conforms_slack (enforced : settings.limiter = ⟨.enforce, true⟩) :
    (slackMonitor intOfText record).Conforms
      (SlackIntake.handleEvent settings intOfText record) SlackEnd .early := by
  apply (conforms_slackProcess enforced).handle
  rintro (error | outcome) after
    (quiet | ⟨rfl, ended⟩ | ⟨rfl, _, ended⟩ | ⟨rfl, failure, _, ended⟩)
  · apply (slack_conforms_quiet _ quiet).mono fun _ _ quiet => .inl quiet
    dsimp only
    split
    · exact .perform trivial fun _ => Prog.calls_pure
    · exact SlackIntake.retryEvent_calls _ _
  · cases ended
  · dsimp only
    split_ifs
    · exact conforms_retryContention
    · exact conforms_retryEvent (.inl rfl)
  · cases ended
    dsimp only
    rw [if_neg (raised_ne_busy failure)]
    exact conforms_retryEvent (.inr rfl)
  · apply (slack_conforms_quiet _ quiet).mono fun _ _ quiet => .inl quiet
    exact .perform trivial fun _ => Prog.calls_pure
  · apply Monitor.Conforms.perform trivial
    · rintro _ after rfl
      exact .inr (.inl rfl)
    · rintro _ after rfl
      exact .inr (.inl rfl)
  · cases ended
  · cases ended

end SlackConformance

/-! ## What an attempt at a Slack event leaves -/

section SlackAnswers

variable {intOfText : String → Option Int} {record : InboundSlackEvent}
  {answers : List IntakeAnswer} {request : IntakeCall}
  {reply : Except Exn request.Ret}

/-- A call of a service or of the limiter. -/
def IntakeCall.Silent : IntakeCall → Prop
  | .service _ => True
  | .limiter _ => True
  | _ => False

/-- Only services and the limiter have been asked. -/
def Silent (answers : List IntakeAnswer) : Prop :=
  ∀ answer ∈ answers, answer.1.Silent

theorem Silent.append (silent : Silent answers) (asks : request.Silent) :
    Silent (answers ++ [⟨request, reply⟩]) := by
  intro answer member
  rcases List.mem_append.mp member with old | new
  · exact silent answer old
  · rw [List.mem_singleton] at new
    subst new
    exact asks

theorem Silent.noneSettled (silent : Silent answers) : NoneSettled answers := by
  intro request reply member
  have asks := silent _ member
  cases request with
  | service call => exact id
  | limiter request => exact id
  | event call => exact asks.elim
  | review position call => exact asks.elim

theorem Silent.not_limitQueued (silent : Silent answers) :
    ¬ LimitQueued answers record := by
  rintro ⟨_, _, _, member⟩
  exact silent _ member

theorem Silent.not_limitUnqueued (silent : Silent answers) :
    ¬ LimitUnqueued answers record := by
  rintro ⟨_, _, _, member⟩
  exact silent _ member

/-- The call queues the message that a limit was reached. -/
def QueuesLimit (record : InboundSlackEvent) : IntakeCall → Prop
  | .review none (.slack (.enqueueOutbound intent)) =>
      intent.idempotencyKey = limitKey record
  | _ => False

theorem not_limitQueued_append (unqueued : ¬ LimitQueued answers record)
    (other : ¬ QueuesLimit record request ∨ ∃ error, reply = .error error) :
    ¬ LimitQueued (answers ++ [⟨request, reply⟩]) record := by
  rintro ⟨intent, id, named, member⟩
  rcases List.mem_append.mp member with old | new
  · exact unqueued ⟨intent, id, named, old⟩
  · rw [List.mem_singleton] at new
    cases new
    rcases other with other | ⟨_, raised⟩
    · exact other named
    · cases raised

theorem not_limitUnqueued_append (queued : ¬ LimitUnqueued answers record)
    (other : ¬ QueuesLimit record request ∨ ∃ value, reply = .ok value) :
    ¬ LimitUnqueued (answers ++ [⟨request, reply⟩]) record := by
  rintro ⟨intent, error, named, member⟩
  rcases List.mem_append.mp member with old | new
  · exact queued ⟨intent, error, named, old⟩
  · rw [List.mem_singleton] at new
    cases new
    rcases other with other | ⟨_, succeeded⟩
    · exact other named
    · cases succeeded

theorem LimitQueued.append (queued : LimitQueued answers record)
    (new : IntakeAnswer) : LimitQueued (answers ++ [new]) record := by
  obtain ⟨intent, id, named, member⟩ := queued
  exact ⟨intent, id, named, List.mem_append_left _ member⟩

theorem LimitUnqueued.append (unqueued : LimitUnqueued answers record)
    (new : IntakeAnswer) : LimitUnqueued (answers ++ [new]) record := by
  obtain ⟨intent, error, named, member⟩ := unqueued
  exact ⟨intent, error, named, List.mem_append_left _ member⟩

theorem Unclassified.append (unclassified : Unclassified intOfText answers)
    (new : IntakeAnswer) : Unclassified intOfText (answers ++ [new]) := by
  obtain ⟨asked, answer, error, member, failed⟩ := unclassified
  exact ⟨asked, answer, error, List.mem_append_left _ member, failed⟩

theorem not_unclassified_append (classified : ¬ Unclassified intOfText answers)
    (off : request.OffLimiter) :
    ¬ Unclassified intOfText (answers ++ [⟨request, reply⟩]) := by
  rintro ⟨asked, answer, error, member, failed⟩
  rcases List.mem_append.mp member with old | new
  · exact classified ⟨asked, answer, error, old, failed⟩
  · rw [List.mem_singleton] at new
    cases new
    exact off

end SlackAnswers

section SlackWorld

variable {intOfText : String → Option Int} {record : InboundSlackEvent}
  {before world after : IntakeWorld} {answers : List IntakeAnswer}
  {choice : IntakeChoice} {delivery : Nat}

/-- The row of the event. -/
def IntakeWorld.eventRow (world : IntakeWorld) (record : InboundSlackEvent) :
    Option InboundSlackEventRow :=
  world.review.database.slack.events.find? record.id

/-- The event is marked for a retry, or its attempts are used up. -/
def Retried (record : InboundSlackEvent) (before after : IntakeWorld) : Prop :=
  ∀ row, before.eventRow record = some row →
    SlackTables.eventOwned record.leaseToken row = true →
    ∃ row', after.eventRow record = some row' ∧
      (row'.status = .pending ∨ row'.status = .failed ∧ 5 ≤ record.attempts)

/-- A Slack call commits its body, or raises and changes nothing. -/
theorem IntakeWorld.respond_slack {position : Option Nat} {call : SlackCall}
    {reply : Except Exn call.Ret}
    (run : IntakeWorld.respond intOfText delivery choice world
      (.review position (.slack call)) = some (reply, after)) :
    (∃ stamp, reply.isOk = true ∧ after.review.database.slack =
        call.after stamp world.review.database.slack) ∨
      (∃ error, reply = .error error) ∧
        after.review.database = world.review.database := by
  cases choice with
  | review choice =>
      simp only [IntakeWorld.respond] at run
      obtain ⟨answer, answered, same⟩ := Option.map_eq_some_iff.mp run
      cases same
      rcases (ReviewWorld.respond_slack answered).2 with
        ⟨value, succeeded, body⟩ | ⟨raised, kept⟩
      · left
        refine ⟨world.review.stamp, by rw [succeeded]; rfl, ?_⟩
        exact congrArg ReviewDatabase.slack (slackBody_ok body).2
      · right
        refine ⟨?_, kept⟩
        cases replied : answer.1 with
        | ok value =>
            rw [replied] at raised
            cases raised
        | error error => exact ⟨error, rfl⟩
  | event failure | limiter outcome | service call reply => cases run

/-- Queueing a message leaves the events. -/
theorem eventRow_enqueueOutbound {position : Option Nat}
    {intent : OutboundSlackIntent} {reply : Except Exn Uuid}
    (run : IntakeWorld.respond intOfText delivery choice world
      (.review position (.slack (.enqueueOutbound intent))) = some (reply, after)) :
    after.eventRow record = world.eventRow record := by
  rcases IntakeWorld.respond_slack run with ⟨stamp, _, changed⟩ | ⟨_, kept⟩
  · have other : (SlackCall.enqueueOutbound intent).target ≠ some .events := by
      simp [SlackCall.target]
    have same : ((SlackCall.enqueueOutbound intent).after stamp
        world.review.database.slack).events.find? =
          world.review.database.slack.events.find? :=
      row_after_of_not_target stamp _ _ other
    rw [IntakeWorld.eventRow, changed, same, IntakeWorld.eventRow]
  · rw [IntakeWorld.eventRow, kept, IntakeWorld.eventRow]

/-- A write that marks the event for a retry does so while its lease is held. -/
theorem retried_of_marks {call : SlackCall} {tables : SlackTables} {stamp : Stamp}
    (marks : MarksRetry record call) {row : InboundSlackEventRow}
    (found : tables.events.find? record.id = some row)
    (owned : SlackTables.eventOwned record.leaseToken row = true) :
    ∃ row', (call.after stamp tables).events.find? record.id = some row' ∧
      (row'.status = .pending ∨ row'.status = .failed ∧ 5 ≤ record.attempts) := by
  cases call with
  | retryEvent rowId leaseToken attempts maxAttempts retryAfterSeconds =>
      obtain ⟨rfl, rfl, rfl, rfl⟩ := marks
      simp only [SlackCall.after, SlackCall.body, SlackTables.retryEvent, updateOne]
      rw [RowTable.find?_updateWhere_key, if_pos rfl, found]
      refine ⟨_, rfl, ?_⟩
      simp only [owned, if_true]
      by_cases terminal : (max 5 1 : Int) ≤ record.attempts
      · right
        simp only [terminal, decide_true, if_true, true_and]
        omega
      · left
        simp only [terminal, decide_false]
        rfl
  | retryEventContention rowId leaseToken retryAfterSeconds =>
      obtain ⟨rfl, rfl⟩ := marks
      simp only [SlackCall.after, SlackCall.body, SlackTables.retryEventContention,
        updateOne]
      rw [RowTable.find?_updateWhere_key, if_pos rfl, found]
      refine ⟨_, rfl, .inl ?_⟩
      simp only [owned, if_true]
  | _ => exact marks.elim

/-- What is known in each phase. -/
def SlackHolds (intOfText : String → Option Int) (record : InboundSlackEvent)
    (before : IntakeWorld) (phase : SlackPhase) (world : IntakeWorld)
    (answers : List IntakeAnswer) : Prop :=
  match phase with
  | .early => ¬ Outage intOfText answers ∧ Silent answers ∧
      world.eventRow record = before.eventRow record
  | .past => ¬ Outage intOfText answers
  | .refused => ¬ Unclassified intOfText answers ∧ Silent answers ∧
      world.eventRow record = before.eventRow record
  | .raised => Unclassified intOfText answers ∧ Silent answers ∧
      world.eventRow record = before.eventRow record
  | .told => ¬ Unclassified intOfText answers ∧ ¬ LimitUnqueued answers record ∧
      LimitQueued answers record
  | .untold => LimitUnqueued answers record ∧ NoneSettled answers ∧
      ¬ LimitQueued answers record ∧
      world.eventRow record = before.eventRow record
  | .retried => (Unclassified intOfText answers ∨ LimitUnqueued answers record) ∧
      NoneSettled answers ∧ ¬ LimitQueued answers record ∧
      Retried record before world
  | .unretried => (Unclassified intOfText answers ∨ LimitUnqueued answers record) ∧
      NoneSettled answers ∧ ¬ LimitQueued answers record ∧
      world.eventRow record = before.eventRow record ∧
      ∃ (call : SlackCall) (error : Exn), MarksRetry record call ∧
        (⟨.review none (.slack call), .error error⟩ : IntakeAnswer) ∈ answers

/-- The limiter's answer. -/
theorem slackHolds_limiter {asked : LimiterRequest} {reply : Except Exn HttpReply}
    (holds : SlackHolds intOfText record before .early world answers)
    (run : IntakeWorld.respond intOfText delivery choice world (.limiter asked) =
      some (reply, after)) :
    SlackHolds intOfText record before (SlackPhase.afterLimiter intOfText asked reply)
      after (answers ++ [⟨.limiter asked, reply⟩]) := by
  obtain ⟨quiet, silent, same⟩ := holds
  obtain ⟨⟨answer, rfl⟩, _, kept⟩ := IntakeWorld.respond_limiter run
  have same : after.eventRow record = before.eventRow record := by
    rw [← same, IntakeWorld.eventRow, kept, IntakeWorld.eventRow]
  have silent : Silent (answers ++ [⟨.limiter asked, .ok answer⟩]) :=
    silent.append trivial
  cases failed : asked.readError intOfText answer with
  | none =>
      rw [SlackPhase.afterLimiter_of_none failed]
      exact not_outage_append_limiter quiet failed
  | some error =>
      cases caught : error.caught with
      | true =>
          rw [SlackPhase.afterLimiter_of_caught failed caught]
          refine ⟨?_, silent, same⟩
          rintro ⟨other, otherAnswer, otherError, member, raised, uncaught⟩
          rcases List.mem_append.mp member with old | new
          · exact quiet ⟨other, otherAnswer, old, by rw [raised]; rfl⟩
          · rw [List.mem_singleton] at new
            cases new
            rw [failed] at raised
            cases raised
            rw [caught] at uncaught
            cases uncaught
      | false =>
          rw [SlackPhase.afterLimiter_of_not_caught failed caught]
          exact ⟨⟨asked, answer, error,
            List.mem_append_right _ (List.mem_singleton_self _), failed, caught⟩,
              silent, same⟩

/-- The message that a limit was reached. -/
theorem slackHolds_refusal {intent : OutboundSlackIntent}
    {reply : Except Exn Uuid}
    (holds : SlackHolds intOfText record before .refused world answers)
    (named : intent.idempotencyKey = limitKey record)
    (run : IntakeWorld.respond intOfText delivery choice world
      (.review none (.slack (.enqueueOutbound intent))) = some (reply, after)) :
    SlackHolds intOfText record before (SlackPhase.afterWrite .told .untold reply)
      after (answers ++
        [⟨.review none (.slack (.enqueueOutbound intent)), reply⟩]) := by
  obtain ⟨classified, silent, same⟩ := holds
  have recorded : (⟨.review none (.slack (.enqueueOutbound intent)), reply⟩ :
      IntakeAnswer) ∈ answers ++
        [⟨.review none (.slack (.enqueueOutbound intent)), reply⟩] :=
    List.mem_append_right _ (List.mem_singleton_self _)
  have kept : after.eventRow record = world.eventRow record :=
    eventRow_enqueueOutbound run
  cases reply with
  | ok id =>
      exact ⟨not_unclassified_append classified trivial,
        not_limitUnqueued_append silent.not_limitUnqueued (.inr ⟨id, rfl⟩),
        intent, id, named, recorded⟩
  | error error =>
      exact ⟨⟨intent, error, named, recorded⟩, silent.noneSettled.append id,
        not_limitQueued_append silent.not_limitQueued (.inr ⟨error, rfl⟩),
        kept.trans same⟩

/-- The write that marks the event for a retry. -/
theorem slackHolds_retry {call : SlackCall} {reply : Except Exn call.Ret}
    (cause : Unclassified intOfText answers ∨ LimitUnqueued answers record)
    (unsettled : NoneSettled answers) (untold : ¬ LimitQueued answers record)
    (same : world.eventRow record = before.eventRow record)
    (marks : MarksRetry record call)
    (run : IntakeWorld.respond intOfText delivery choice world
      (.review none (.slack call)) = some (reply, after)) :
    SlackHolds intOfText record before (SlackPhase.afterWrite .retried .unretried reply)
      after (answers ++ [⟨.review none (.slack call), reply⟩]) := by
  have spares : ¬ Settles (.review none (.slack call)) := by
    intro settles
    cases call <;> first | exact marks.elim | exact settles.elim
  have other : ¬ QueuesLimit record (.review none (.slack call)) := by
    intro queues
    cases call <;> first | exact marks.elim | exact queues.elim
  have cause : Unclassified intOfText
        (answers ++ [⟨.review none (.slack call), reply⟩]) ∨
      LimitUnqueued (answers ++ [⟨.review none (.slack call), reply⟩]) record :=
    cause.imp (fun raised => raised.append _) fun unqueued => unqueued.append _
  have unsettled : NoneSettled (answers ++ [⟨.review none (.slack call), reply⟩]) :=
    unsettled.append spares
  have untold : ¬ LimitQueued
      (answers ++ [⟨.review none (.slack call), reply⟩]) record :=
    not_limitQueued_append untold (.inl other)
  rcases IntakeWorld.respond_slack run with ⟨stamp, done, changed⟩ | ⟨⟨error, rfl⟩, kept⟩
  · cases reply with
    | error error => cases done
    | ok value =>
        refine ⟨cause, unsettled, untold, ?_⟩
        intro row found owned
        rw [← same] at found
        rw [IntakeWorld.eventRow, changed]
        exact retried_of_marks marks found owned
  · refine ⟨cause, unsettled, untold, ?_, call, error, marks,
      List.mem_append_right _ (List.mem_singleton_self _)⟩
    rw [← same, IntakeWorld.eventRow, kept, IntakeWorld.eventRow]

/-- The notice that follows the last attempt. -/
theorem slackHolds_notice {request : IntakeCall} {reply : Except Exn request.Ret}
    (holds : SlackHolds intOfText record before .retried world answers)
    (permitted : SlackPhase.retried.Permits record request)
    (run : IntakeWorld.respond intOfText delivery choice world request =
      some (reply, after)) :
    SlackHolds intOfText record before .retried after
      (answers ++ [⟨request, reply⟩]) := by
  obtain ⟨cause, unsettled, untold, retried⟩ := holds
  have cause : Unclassified intOfText (answers ++ [⟨request, reply⟩]) ∨
      LimitUnqueued (answers ++ [⟨request, reply⟩]) record :=
    cause.imp (fun raised => raised.append _) fun unqueued => unqueued.append _
  have kept (spares : ¬ Settles request) (other : ¬ QueuesLimit record request)
      (same : after.eventRow record = world.eventRow record) :
      SlackHolds intOfText record before .retried after
        (answers ++ [⟨request, reply⟩]) := by
    refine ⟨cause, unsettled.append spares,
      not_limitQueued_append untold (.inl other), ?_⟩
    intro row found owned
    rw [same]
    exact retried row found owned
  cases request with
  | service call =>
      have same := IntakeWorld.respond_service run
      exact kept id id (by rw [same])
  | review position call =>
      cases position with
      | some position => exact permitted.elim
      | none =>
          cases call with
          | slack call =>
              cases call with
              | enqueueOutbound intent =>
                  exact kept id permitted (eventRow_enqueueOutbound run)
              | _ => exact permitted.elim
          | database call => exact permitted.elim
          | external call => exact permitted.elim
  | event call => exact permitted.elim
  | limiter request => exact permitted.elim

theorem slackHolds_next {phase : SlackPhase} {request : IntakeCall}
    {reply : Except Exn request.Ret}
    (holds : SlackHolds intOfText record before phase world answers)
    (permitted : phase.Permits record request)
    (run : IntakeWorld.respond intOfText delivery choice world request =
      some (reply, after)) :
    SlackHolds intOfText record before (phase.next intOfText request reply) after
      (answers ++ [⟨request, reply⟩]) := by
  cases phase with
  | early =>
      cases request with
      | service call =>
          obtain ⟨quiet, silent, kept⟩ := holds
          have same := IntakeWorld.respond_service run
          exact ⟨not_outage_append quiet trivial, silent.append trivial,
            by rw [same, kept]⟩
      | limiter asked => exact slackHolds_limiter holds run
      | event call => exact not_outage_append holds.1 trivial
      | review position call => exact not_outage_append holds.1 trivial
  | past => cases request <;> exact not_outage_append holds permitted
  | refused =>
      cases request with
      | review position call =>
          cases position with
          | some position => exact permitted.elim
          | none =>
              cases call with
              | slack call =>
                  cases call with
                  | enqueueOutbound intent => exact slackHolds_refusal holds permitted run
                  | _ => exact permitted.elim
              | database call => exact permitted.elim
              | external call => exact permitted.elim
      | event call | limiter request | service call => exact permitted.elim
  | told =>
      obtain ⟨classified, queued, told⟩ := holds
      cases request with
      | review position call =>
          cases position with
          | some position => exact permitted.elim
          | none =>
              cases call with
              | slack call =>
                  cases call with
                  | completeEvent rowId leaseToken ignored =>
                      exact ⟨not_unclassified_append classified trivial,
                        not_limitUnqueued_append queued (.inl id), told.append _⟩
                  | _ => exact permitted.elim
              | database call => exact permitted.elim
              | external call => exact permitted.elim
      | event call | limiter request | service call => exact permitted.elim
  | untold =>
      obtain ⟨unqueued, unsettled, untold, same⟩ := holds
      cases request with
      | review position call =>
          cases position with
          | some position => exact permitted.elim
          | none =>
              cases call with
              | slack call =>
                  exact slackHolds_retry (.inr unqueued) unsettled untold same
                    permitted run
              | database call => exact permitted.elim
              | external call => exact permitted.elim
      | event call | limiter request | service call => exact permitted.elim
  | raised =>
      obtain ⟨raised, silent, same⟩ := holds
      cases request with
      | review position call =>
          cases position with
          | some position => exact permitted.elim
          | none =>
              cases call with
              | slack call =>
                  exact slackHolds_retry (.inl raised) silent.noneSettled
                    silent.not_limitQueued same permitted run
              | database call => exact permitted.elim
              | external call => exact permitted.elim
      | event call | limiter request | service call => exact permitted.elim
  | retried =>
      have stays : SlackPhase.next intOfText .retried request reply = .retried := by
        cases request <;> rfl
      rw [stays]
      exact slackHolds_notice holds permitted run
  | unretried => cases request <;> exact permitted.elim

end SlackWorld

/-! ## Both paths -/

/-- The request came by email. -/
def IntakeAttempt.ByEmail : IntakeAttempt → Prop
  | email .. => True
  | slack .. => False

/-- The message that a limit was reached could not be queued. -/
def IntakeAttempt.TellingFailed (answers : List IntakeAnswer) :
    IntakeAttempt → Prop
  | email .. => False
  | slack _ record => LimitUnqueued answers record

section Both

variable {intOfText : String → Option Int} {before after : IntakeWorld}
  {answers : List IntakeAnswer} {delivery : Nat} {choices : List IntakeChoice}
  {result : Except Exn (Option InboundStatus)}

/-- What an attempt at a Slack event that meets an outage comes to. -/
theorem slack_spared_iff {settings : SlackIntakeSettings}
    {record : InboundSlackEvent} (enforced : settings.limiter = ⟨.enforce, true⟩)
    (run : ((IntakeAttempt.slack settings record).program intOfText).finish
      (Prog.recording (IntakeWorld.respond intOfText delivery)) (before, [])
        choices = some (result, after, answers))
    (outage : Outage intOfText answers) :
    (IntakeAttempt.slack settings record).Spared before after result answers ↔
      Unclassified intOfText answers ∨ LimitUnqueued answers record := by
  have conforms : (slackMonitor intOfText record).Conforms
      ((IntakeAttempt.slack settings record).program intOfText) SlackEnd .early := by
    apply (conforms_slack enforced).bind
    · exact fun _ _ ended => ended
    · exact fun _ _ ended => ended
  have follows (phase : SlackPhase) (state : IntakeWorld × List IntakeAnswer)
      (request : IntakeCall) (choice : IntakeChoice)
      (reply : Except Exn request.Ret) (reached : IntakeWorld × List IntakeAnswer)
      (holds : SlackHolds intOfText record before phase state.1 state.2)
      (permitted : phase.Permits record request)
      (answered : Prog.recording (IntakeWorld.respond intOfText delivery) choice
        state request = some (reply, reached)) :
      ∃ next, next = phase.next intOfText request reply ∧
        SlackHolds intOfText record before next reached.1 reached.2 := by
    obtain ⟨answered, log⟩ := recording_eq answered
    exact ⟨_, rfl, log ▸ slackHolds_next holds permitted answered⟩
  have initially : SlackHolds intOfText record before .early before [] :=
    ⟨not_outage_nil, fun _ member => absurd member List.not_mem_nil, rfl⟩
  obtain ⟨last, holds, ended⟩ := Monitor.Conforms.finish follows choices conforms
    initially run
  rcases ended with (rfl | rfl) | rfl | rfl | rfl
  · exact absurd outage holds.1
  · exact absurd outage holds
  · -- The user was told.
    obtain ⟨classified, queued, told⟩ := holds
    constructor
    · exact fun spared => absurd told spared.untold
    · exact fun cause => absurd cause (not_or.mpr ⟨classified, queued⟩)
  · obtain ⟨cause, unsettled, untold, retried⟩ := holds
    refine iff_of_true ⟨?_, unsettled, untold⟩ cause
    intro row found owned
    obtain ⟨row', found', marked⟩ := retried row found owned
    exact ⟨row', found', marked.imp_right .inl⟩
  · obtain ⟨cause, unsettled, untold, same, write⟩ := holds
    refine iff_of_true ⟨?_, unsettled, untold⟩ cause
    intro row found owned
    exact ⟨row, same.trans found, .inr (.inr ⟨rfl, write⟩)⟩

/-- In enforce mode, an attempt whose limiter could not be asked leaves its request
to a retry, without telling anybody about a limit, exactly if the request came by
email, or the limiter's client raised, or the message about the limit could not be
queued. -/
theorem outage_spares_iff (attempt : IntakeAttempt) (enforced : attempt.Enforced)
    (run : (attempt.program intOfText).finish
      (Prog.recording (IntakeWorld.respond intOfText delivery)) (before, [])
        choices = some (result, after, answers))
    (outage : Outage intOfText answers) :
    attempt.Spared before after result answers ↔
      attempt.ByEmail ∨ Unclassified intOfText answers ∨
        attempt.TellingFailed answers := by
  cases attempt with
  | email library settings event =>
      exact iff_of_true (email_spared library enforced run outage) (.inl trivial)
  | slack settings record =>
      rw [slack_spared_iff enforced run outage]
      exact ⟨.inr, fun cause => cause.resolve_left id⟩

end Both

/-! ## An outage on the Slack path -/

/-- A direct message with one file. -/
def sampleMessage : SlackEventBody where
  type := "message"
  channelType := "im"
  user := "U1"
  files := [⟨"F1"⟩]
  channel := some "D1"
  ts := some "1.0"

def sampleIntakeSettings : SlackIntakeSettings where
  limiter := ⟨.enforce, true⟩
  bodyOf := fun _ => some sampleMessage
  casefold := id

def sampleClaimedEvent : InboundSlackEvent where
  id := ⟨0, 0⟩
  eventId := "E1"
  teamId := "T1"
  eventType := "message"
  payload := "{}"
  attempts := 1
  leaseToken := ⟨1, 0⟩

def sampleInstallation : SlackInstallation where
  id := "I1"
  teamId := "T1"
  encryptedBotToken := "cipher"
  installedByAccountId := "A0"

def sampleAccount : UserAccount where
  id := "A1"
  email := "user@mail.test"
  role := .user
  state := .active
  personalWorkspaceId := some "workspace"

/-- Redis answers with an error, and everything else goes well. -/
def outageChoices : List IntakeChoice :=
  [.service (.getInstallationByTeam "T1") (.ok (some sampleInstallation)),
    .service (.decryptToken "cipher") (.ok "token"),
    .service (.usersInfo "U1") (.ok { email := "user@mail.test" }),
    .service (.getById "A0") (.ok none),
    .service (.getByEmail "user@mail.test") (.ok (some sampleAccount)),
    .limiter (.garbled false .failed),
    .review .proceed,
    .review .proceed]

def sampleIntakeWorld : IntakeWorld where
  review := { database := default }

def outageRun : Option (Except Exn (Option InboundStatus) ×
    (IntakeWorld × List IntakeAnswer)) :=
  ((IntakeAttempt.slack sampleIntakeSettings sampleClaimedEvent).program
    fun _ => none).finish
    (Prog.recording (IntakeWorld.respond (fun _ => none) 0)) (sampleIntakeWorld, [])
    outageChoices

theorem outageRun_isSome : outageRun.isSome := by
  decide

/-- The user of a Slack event is told about a limit that nobody checked. -/
theorem outage_taken_for_limit :
    ¬ ∀ (intOfText : String → Option Int) (attempt : IntakeAttempt)
        (delivery : Nat) (before after : IntakeWorld)
        (choices : List IntakeChoice)
        (result : Except Exn (Option InboundStatus))
        (answers : List IntakeAnswer), attempt.Enforced →
      (attempt.program intOfText).finish
        (Prog.recording (IntakeWorld.respond intOfText delivery)) (before, [])
          choices = some (result, after, answers) →
      Outage intOfText answers →
        attempt.Spared before after result answers := by
  intro spared
  have outage : Outage (fun _ => none)
      (outageRun.get outageRun_isSome).2.2 :=
    ⟨_, _, List.mem_iff_getElem?.mpr ⟨5, rfl⟩, rfl⟩
  have left := spared (fun _ => none)
    (.slack sampleIntakeSettings sampleClaimedEvent) 0 sampleIntakeWorld _ outageChoices
    _ _ rfl (Option.some_get outageRun_isSome).symm outage
  exact left.untold ⟨_, _, rfl, List.mem_iff_getElem?.mpr ⟨6, rfl⟩⟩

/-! ## An outage on the email path -/

/-- The library on one email. -/
def sampleMail : MailFunctions where
  casefold := id
  parseaddr := fun text => ("", text)
  getaddresses := fun texts => texts.map fun text => ("", text)
  split := fun text => [text]
  pathName := id
  pathSuffix := fun name => if name = "contract.pdf" then ".pdf" else ""

def sampleInboundSettings : InboundSettings where
  emailWorkspaceId := "inbox"
  resendInboundRecipients := ["inbox@mail.test"]
  limiter := some ⟨.enforce, true⟩

def sampleWebhook : ResendWebhookEvent where
  eventId := "event-1"
  type := "email.received"
  emailId := "email-1"
  payloadHash := "hash"

def sampleEmail : ReceivedEmail where
  toAddresses := ["inbox@mail.test"]
  sender := "user@mail.test"

def sampleAttachment : ReceivedAttachment where
  filename := "contract.pdf"
  contentType := "application/pdf"
  contentDisposition := "attachment"
  size := 1000

def emailOutageChoices : List IntakeChoice :=
  [.event none,
    .service (.getEmail "email-1") (.ok sampleEmail),
    .service (.listAttachments "email-1") (.ok [sampleAttachment]),
    .service (.getByEmail "user@mail.test") (.ok none),
    .limiter (.garbled false .failed),
    .event none]

def emailOutageRun : Option (Except Exn (Option InboundStatus) ×
    (IntakeWorld × List IntakeAnswer)) :=
  ((IntakeAttempt.email sampleMail sampleInboundSettings sampleWebhook).program
    fun _ => none).finish
    (Prog.recording (IntakeWorld.respond (fun _ => none) 0)) (sampleIntakeWorld, [])
    emailOutageChoices

theorem emailOutageRun_isSome : emailOutageRun.isSome := by
  decide

theorem outage_spares_iff_sample :
    (IntakeAttempt.email sampleMail sampleInboundSettings sampleWebhook).Spared
      sampleIntakeWorld (emailOutageRun.get emailOutageRun_isSome).2.1
      (emailOutageRun.get emailOutageRun_isSome).1
      (emailOutageRun.get emailOutageRun_isSome).2.2 :=
  (outage_spares_iff
    (.email sampleMail sampleInboundSettings sampleWebhook) rfl
    (Option.some_get emailOutageRun_isSome).symm
    ⟨_, _, List.mem_iff_getElem?.mpr ⟨4, rfl⟩, rfl⟩).mpr (.inl trivial)

end ContractMate
