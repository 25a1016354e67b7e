import ContractMate.AdmissionRetries
import ContractMate.ReviewJobSources

/-!
# Review emails

Deliveries of inbound emails publish review jobs, and workers queue an email for
each job they finish.  Any number of both run interleaved, and may fail or die at
any call.  A job is queued for one email however often it is delivered, so an
attachment is answered once if no second delivery of its email publishes a job for
it.
-/

namespace ContractMate

/-- A delivery of the webhook, or of a review job. -/
inductive ReviewTask where
  | deliver (event : ResendWebhookEvent)
  | work (job : ContractReviewJob)

/-- Time passes, or the broker takes an unacknowledged delivery back. -/
inductive ReviewEvent where
  | tick (tick : ClockTick)
  | requeue (delivery : Nat)

/-- The broker hands a waiting job to a delivery. -/
def Broker.deliver (broker : Broker) (delivery : Nat) (job : ContractReviewJob) :
    Option Broker :=
  if job ∈ broker.ready ∧ broker.holds delivery = false then
    some { broker with
      ready := broker.ready.erase job
      unacked := broker.unacked ++ [(delivery, job)] }
  else none

def IntakeWorld.withBroker (world : IntakeWorld) (broker : Broker) : IntakeWorld :=
  { world with review := { world.review with broker } }

/-- The deliveries of webhook and broker. -/
def reviewPool (library : MailFunctions) (settings : InboundSettings)
    (intOfText : String → Option Int) :
    PoolSystem ReviewTask IntakeCall IntakeCall.Ret Exn
      (Option ResendInboundResult) IntakeWorld IntakeChoice ReviewEvent where
  body
    | .deliver event => do
        let result ← ResendInbound.process library settings intOfText event
        pure (some result)
    | .work job => do
        (consumeDelivery settings.worker job).translate (IntakeCall.review none)
          fun _ reply => reply
        pure none
  respond := IntakeWorld.respond intOfText
  launch := fun delivery task world =>
    match task with
    | .deliver _ => some world
    | .work job => (world.review.broker.deliver delivery job).map world.withBroker
  outside := fun event world =>
    match event with
    | .tick tick => some (world.tick tick)
    | .requeue delivery =>
        some (world.withBroker (world.review.broker.requeue delivery))

abbrev ReviewStep :=
  PoolStep ReviewTask IntakeCall IntakeCall.Ret Exn (Option ResendInboundResult)
    IntakeWorld IntakeChoice ReviewEvent

abbrev ReviewState :=
  PoolState ReviewTask IntakeCall IntakeCall.Ret Exn (Option ResendInboundResult)
    IntakeWorld

abbrev ReviewPoolAnswer :=
  PoolAnswer ReviewTask IntakeCall IntakeCall.Ret Exn IntakeWorld IntakeChoice

/-! ## Publications -/

/-- The broker has a job for an attachment: which delivery published it, and for
which email and attachment. -/
structure Publication where
  delivery : Nat
  emailId : String
  position : Nat
  jobId : Uuid
deriving DecidableEq, Repr

def ReviewPoolAnswer.publication? (answer : ReviewPoolAnswer) :
    Option Publication :=
  match answer with
  | ⟨thread, .deliver event, .review (some position)
      (.external (.enqueueJob payload)), .review choice, _, world, _⟩ =>
      if choice.taken then
        some
          { delivery := thread
            emailId := event.emailId
            position
            jobId := (payload.toJob (world.review.stamp.uuid4 0)).jobId }
      else none
  | _ => none

section Statement

variable (library : MailFunctions) (settings : InboundSettings)
  (intOfText : String → Option Int)

def ReviewStep.publication? (step : ReviewStep) : Option Publication :=
  ((reviewPool library settings intOfText).answer? step).bind
    ReviewPoolAnswer.publication?

/-- The row answers the attachment: its job was published for it. -/
def Answers (steps : List ReviewStep) (row : OutboundEmailRow) (emailId : String)
    (position : Nat) : Prop :=
  ∃ step ∈ steps, ∃ publication,
    step.publication? library settings intOfText = some publication ∧
      publication.emailId = emailId ∧ publication.position = position ∧
      publication.jobId = row.reviewJobId

/-- The outbox holds at most one review email for each attachment, and none that
answers no attachment. -/
structure AnsweredOnce (steps : List ReviewStep) (final : ReviewState) : Prop where
  unique : ∀ emailId position,
    ∀ first ∈ final.world.review.database.emails.rows,
    ∀ second ∈ final.world.review.database.emails.rows,
      Answers library settings intOfText steps first emailId position →
      Answers library settings intOfText steps second emailId position →
        first = second
  answering : ∀ row ∈ final.world.review.database.emails.rows,
    ∃ emailId position,
      Answers library settings intOfText steps row emailId position

/-- Two steps belong to one delivery: no other starts under its number. -/
def SameDelivery (steps : List ReviewStep) (i j : Nat) (delivery : Nat) : Prop :=
  ∀ k step, i < k → k < j → steps[k]? = some step →
    ∀ task, step.event ≠ .start delivery task

/-- No delivery publishes a job for an attachment for which another one did. -/
def PublishedByOne (steps : List ReviewStep) : Prop :=
  ∀ i j first second earlier later, i < j → steps[i]? = some first →
    steps[j]? = some second →
    first.publication? library settings intOfText = some earlier →
    second.publication? library settings intOfText = some later →
    earlier.emailId = later.emailId → earlier.position = later.position →
      earlier.delivery = later.delivery ∧ SameDelivery steps i j later.delivery

end Statement

/-! ## What a delivery publishes -/

/-- The call hands a job to the broker. -/
def ReviewCall.publishes : ReviewCall → Bool
  | .external (.enqueueJob _) => true
  | _ => false

theorem ReviewCall.gathering.silent {call : ReviewCall} (gathers : call.gathering) :
    call.publishes = false := by
  cases call with
  | slack call => rfl
  | database call => rfl
  | external call => cases call <;> first | rfl | exact gathers.elim

theorem ReviewCall.reviewing.silent {call : ReviewCall} (reviews : call.reviewing) :
    call.publishes = false := by
  cases call with
  | slack call => rfl
  | database call => rfl
  | external call => cases call <;> first | rfl | exact reviews.elim

/-- At most one call hands a job to the broker. -/
abbrev onceMonitor : Monitor ReviewCall ReviewCall.Ret Exn :=
  Monitor.deterministic (fun asked call => call.publishes = true → asked = false)
    fun asked call _ => asked || call.publishes

section Once

variable {Value : Type} {program : ReviewProg Value} {asked : Bool}

theorem once_of_silent (calls : program.Calls fun call => call.publishes = false) :
    onceMonitor.Conforms program (fun _ after => after = asked) asked := by
  have stays (phase : Bool) (call : ReviewCall) (same : phase = asked)
      (silent : call.publishes = false) :
      (call.publishes = true → phase = false) ∧
        ∀ (reply : Except Exn call.Ret) (after : Bool),
          after = (phase || call.publishes) → after = asked := by
    refine ⟨fun publishes => absurd publishes (by simp [silent]), ?_⟩
    rintro reply after rfl
    simp [silent, same]
  exact Monitor.conforms_of_calls calls stays rfl

theorem once_of_gathering (calls : program.Calls ReviewCall.gathering) :
    onceMonitor.Conforms program (fun _ after => after = asked) asked :=
  once_of_silent (calls.mono fun _ gathers => gathers.silent)

theorem once_of_reviewing (calls : program.Calls ReviewCall.reviewing) :
    onceMonitor.Conforms program (fun _ after => after = asked) asked :=
  once_of_silent (calls.mono fun _ reviews => reviews.silent)

theorem once_queueReview {request : IntakeRequest} (direct : request.durable = none)
    (ingested : IngestedContract) (existing : Option ProcessingRun) :
    onceMonitor.Conforms (queueReview request ingested existing) (fun _ _ => True)
      false := by
  rw [queueReview_eq]
  apply (once_of_reviewing (updateContractStatus_calls _ _)).bind
  · rintro _ after rfl
    apply (once_of_reviewing ((processingRun_calls existing).mono fun _ records =>
      records.reviewing)).bind
    · rintro runId after rfl
      have published : onceMonitor.Conforms
          (publishSubmission request (jobPayload request ingested runId))
          (fun _ _ => True) false := by
        unfold publishSubmission
        rw [direct]
        exact ⟨fun _ => rfl, fun reply _ _ => by cases reply <;> trivial⟩
      apply published.handle
      intro result after _
      exact (once_of_reviewing (afterPublication_calls ingested runId result)).mono
        fun _ _ _ => trivial
    · exact fun _ _ _ => trivial
  · exact fun _ _ _ => trivial

/-- The intake of an email's attachment publishes one job at most. -/
theorem once_enqueueLocalFile {request : IntakeRequest}
    (direct : request.durable = none) :
    onceMonitor.Conforms (enqueueLocalFile request) (fun _ _ => True) false := by
  apply (once_of_gathering ingestLocalFile_calls).bind
  · rintro ingestion after rfl
    cases ingestion with
    | inl rejected => trivial
    | inr ingested =>
        apply (once_of_gathering (inquiring_gathering executionStatus_calls)).bind
        · rintro status after rfl
          apply (once_of_gathering (inquiring_gathering existingRun_calls)).bind
          · rintro existing after rfl
            split
            · exact (once_of_gathering (inquiring_gathering (completedSubmission_calls _))).mono
                fun _ _ _ => trivial
            · cases existing with
              | none => exact once_queueReview direct ingested none
              | some run =>
                  dsimp only
                  split_ifs
                  · trivial
                  · trivial
                  · exact once_queueReview direct ingested (some run)
          · exact fun _ _ _ => trivial
        · exact fun _ _ _ => trivial
  · exact fun _ _ _ => trivial

end Once

/-- The attachment for which a call hands a job to the broker. -/
def IntakeCall.asks : IntakeCall → Option Nat
  | .review (some position) call =>
      if call.publishes then some position else none
  | _ => none

/-- The attachments for which a delivery has called so far. -/
def askedAfter (asked : List Nat) (request : IntakeCall)
    (_ : Except Exn request.Ret) : List Nat :=
  request.asks.toList ++ asked

/-- No attachment's job is handed over twice. -/
abbrev publishingMonitor : Monitor IntakeCall IntakeCall.Ret Exn :=
  Monitor.deterministic (fun asked request =>
    ∀ position, request.asks = some position → position ∉ asked) askedAfter

section Publishing

variable {Value : Type} {asked : List Nat} {position : Nat}

theorem asks_none_stays (phase : List Nat) (request : IntakeCall)
    (same : phase = asked) (silent : request.asks = none) :
    (∀ position, request.asks = some position → position ∉ phase) ∧
      ∀ (reply : Except Exn request.Ret) (after : List Nat),
        after = askedAfter phase request reply → after = asked := by
  constructor
  · intro position asks
    rw [silent] at asks
    cases asks
  · rintro reply after rfl
    simp [askedAfter, silent, same]

theorem IntakeCall.Checks.asks {policies : SenderPolicies} {request : IntakeCall}
    (checks : request.Checks policies) : request.asks = none := by
  cases request with
  | review position call => exact checks.elim
  | limiter asked | event call | service call => rfl

/-- The calls outside the attachments publish nothing. -/
theorem publishing_of_checks (policies : SenderPolicies)
    {program : IntakeProg Value} {ended : Except Exn Value → Prop}
    (calls : program.Calls (IntakeCall.Checks policies))
    (ends : program.Ends ended) :
    publishingMonitor.Conforms program
      (fun result after => after = asked ∧ ended result) asked :=
  Monitor.conforms_of_calls_ends calls
    (fun phase request same checks => asks_none_stays phase request same checks.asks)
    ends rfl

/-- Neither do those of a finished delivery, whatever has been published. -/
theorem publishing_of_plain {program : IntakeProg Value}
    (calls : program.Calls IntakeCall.Plain) :
    publishingMonitor.Conforms program (fun _ _ => True) asked :=
  (publishing_of_checks {} (checks_of_plain calls) Prog.ends_true).mono fun _ _ _ => trivial

/-- The attachments asked for once an attachment's own intake has or has not called
the broker. -/
def Asked (position : Nat) (asked : List Nat) (done : Bool) (after : List Nat) :
    Prop :=
  after = if done then position :: asked else asked

/-- The intake of an attachment hands over a job for that attachment at most. -/
theorem publishing_forAttachment {program : ReviewProg Value}
    (once : onceMonitor.Conforms program (fun _ _ => True) false)
    (fresh : position ∉ asked) :
    publishingMonitor.Conforms (forAttachment position program)
      (fun _ after => after = asked ∨ after = position :: asked) asked := by
  have permits (done : Bool) (after : List Nat) (call : ReviewCall)
      (stands : Asked position asked done after)
      (permitted : call.publishes = true → done = false) (other : Nat)
      (asks : (IntakeCall.review (some position) call).asks = some other) :
      other ∉ after := by
    cases publishes : call.publishes with
    | false => simp [IntakeCall.asks, publishes] at asks
    | true =>
        simp only [IntakeCall.asks, publishes, if_true, Option.some.injEq] at asks
        rw [stands, permitted publishes, ← asks]
        exact fresh
  have follows (done : Bool) (after : List Nat) (call : ReviewCall)
      (reply : Except Exn call.Ret) (last : List Nat)
      (stands : Asked position asked done after)
      (permitted : call.publishes = true → done = false)
      (moved : last = askedAfter after (.review (some position) call) reply) :
      ∃ next, next = (done || call.publishes) ∧ Asked position asked next last := by
    refine ⟨_, rfl, ?_⟩
    unfold Asked at stands ⊢
    cases publishes : call.publishes with
    | false => simp [moved, stands, askedAfter, IntakeCall.asks, publishes]
    | true =>
        simp [moved, stands, askedAfter, IntakeCall.asks, publishes,
          permitted publishes]
  have related : publishingMonitor.Conforms
      (program.translate (IntakeCall.review (some position)) fun _ reply => reply)
      (fun _ after => ∃ done, Asked position asked done after ∧ True) asked :=
    Monitor.Conforms.translate once (show Asked position asked false asked from rfl)
      permits follows
  apply related.mono
  rintro result after ⟨done, stands, _⟩
  rw [stands]
  cases done with
  | false => exact .inl rfl
  | true => exact .inr rfl

variable (library : MailFunctions) (settings : InboundSettings)
  (intOfText : String → Option Int) (event : ResendWebhookEvent)

theorem publishing_processAttachment (message : InboundEmailMessage)
    (workspaceId : String) (attachment : EmailAttachment)
    (fresh : attachment.position ∉ asked) :
    publishingMonitor.Conforms
      (ResendInbound.processAttachment settings message workspaceId attachment)
      (fun _ after => after = asked ∨ after = attachment.position :: asked)
      asked := by
  apply publishing_forAttachment _ fresh
  split
  · exact once_enqueueLocalFile rfl
  · have silent : (ResendInbound.reviewLocalFile settings
        (ResendInbound.intakeRequest settings message workspaceId
          attachment)).Calls fun call => call.publishes = false := by
      refine Prog.Calls.bind
        (ingestLocalFile_calls.mono fun _ gathers => gathers.silent)
        fun ingestion => ?_
      cases ingestion with
      | inl rejected => exact Prog.calls_pure
      | inr ingested =>
          exact (reviewIngestedFile_calls settings.worker _ _).mono
            fun _ reviews => reviews.silent
    exact (once_of_silent silent).mono fun _ _ _ => trivial

/-- Attachments at different places hand over jobs for different attachments. -/
theorem publishing_processAttachments (message : InboundEmailMessage)
    (workspaceId : String) (attachments : List EmailAttachment)
    (distinct : (attachments.map EmailAttachment.position).Nodup)
    (fresh : ∀ attachment ∈ attachments, attachment.position ∉ asked) :
    publishingMonitor.Conforms
      (ResendInbound.processAttachments settings message workspaceId attachments)
      (fun _ _ => True) asked := by
  induction attachments generalizing asked with
  | nil => trivial
  | cons attachment rest induction =>
      rw [List.map_cons, List.nodup_cons] at distinct
      have first := publishing_processAttachment settings message workspaceId
        attachment (fresh attachment (by simp))
      apply first.bind
      · intro result (after : List Nat) reached
        have later : ∀ other ∈ rest, other.position ∉ after := by
          intro other member
          have unasked := fresh other (List.mem_cons_of_mem _ member)
          rcases reached with rfl | rfl
          · exact unasked
          · rw [List.mem_cons, not_or]
            refine ⟨?_, unasked⟩
            intro same
            exact distinct.1 (List.mem_map.mpr ⟨other, member, same⟩)
        apply (induction distinct.2 later).bind
        · exact fun _ _ _ => trivial
        · exact fun _ _ _ => trivial
      · exact fun _ _ _ => trivial

/-- The attachments downloaded so far stand at different places, all before the
next one. -/
def Placed (position : Nat) (attachments : List EmailAttachment) : Prop :=
  (attachments.map EmailAttachment.position).Nodup ∧
    ∀ attachment ∈ attachments, attachment.position < position

theorem Placed.next {attachments : List EmailAttachment}
    (placed : Placed position attachments) : Placed (position + 1) attachments :=
  ⟨placed.1, fun attachment member =>
    Nat.lt_succ_of_lt (placed.2 attachment member)⟩

theorem Placed.concat {attachments : List EmailAttachment}
    (placed : Placed position attachments) (filename mimeType : String) :
    Placed (position + 1) (attachments ++ [⟨filename, mimeType, position⟩]) := by
  obtain ⟨distinct, before⟩ := placed
  constructor
  · rw [List.map_append, List.nodup_append]
    refine ⟨distinct, by simp, ?_⟩
    intro earlier member last single
    obtain ⟨attachment, inside, rfl⟩ := List.mem_map.mp member
    have smaller := before attachment inside
    simp only [List.map_singleton, List.mem_singleton] at single
    omega
  · intro attachment member
    rcases List.mem_append.mp member with member | last
    · exact Nat.lt_succ_of_lt (before attachment member)
    · rw [List.mem_singleton.mp last]
      exact Nat.lt_succ_self position

theorem downloadEach_returns (attachments : List ReceivedAttachment)
    (downloads : ResendInbound.Downloads)
    (placed : Placed position downloads.downloaded) :
    (ResendInbound.downloadEach library settings position attachments
      downloads).Returns fun final =>
        (final.downloaded.map EmailAttachment.position).Nodup := by
  induction attachments generalizing position downloads with
  | nil => exact Prog.returns_pure.mpr placed.1
  | cons attachment rest induction =>
      have discards (files : Nat) (error : Exn) :
          (ResendInbound.discardFiles files error :
            IntakeProg ResendInbound.Downloads).Returns fun final =>
              (final.downloaded.map EmailAttachment.position).Nodup :=
        Prog.returns_true.bind fun _ _ => Prog.returns_raise
      unfold ResendInbound.downloadEach
      split
      · exact induction _ placed.next
      · refine Prog.returns_handle fun created => ?_
        cases created with
        | error error => exact discards _ _
        | ok _ =>
            refine Prog.returns_handle fun downloaded => ?_
            cases downloaded with
            | ok _ => exact induction _ (placed.concat _ _)
            | error error =>
                dsimp only
                split
                · exact induction _ placed.next
                · exact discards _ _

/-- A prepared email's attachments stand at different places. -/
def PlacedApart : ResendInboundResult ⊕ ResendInbound.PreparedEmail → Prop
  | .inl _ => True
  | .inr prepared =>
      (prepared.message.attachments.map EmailAttachment.position).Nodup

theorem completed_returns (result : ResendInboundResult) :
    (ResendInbound.completeWith event result >>= fun result =>
      (pure (.inl result) :
        IntakeProg (ResendInboundResult ⊕ ResendInbound.PreparedEmail))).Returns
      PlacedApart :=
  Prog.returns_true.bind fun _ _ => Prog.returns_pure.mpr trivial

theorem prepareAdmitted_returns (email : ReceivedEmail)
    (senderName : Option String) (sender : String)
    (supported : List ReceivedAttachment) (ignored : List String) :
    (ResendInbound.prepareAdmitted library settings intOfText event email
      senderName sender supported ignored).Returns PlacedApart := by
  refine Prog.returns_true.bind fun account _ => ?_
  refine Prog.returns_true.bind fun isRefused _ => ?_
  split
  · exact completed_returns event _
  · refine Prog.returns_true.bind fun workspace _ => ?_
    cases workspace with
    | none => exact completed_returns event _
    | some workspaceId =>
        refine Prog.returns_true.bind fun _ _ => ?_
        have downloads : (ResendInbound.downloadSupportedAttachments library
            settings supported).Returns fun final =>
              (final.downloaded.map EmailAttachment.position).Nodup :=
          Prog.returns_true.bind fun _ _ =>
            downloadEach_returns library settings supported {}
              ⟨List.nodup_nil, by simp⟩
        exact downloads.bind fun _ distinct => Prog.returns_pure.mpr distinct

theorem prepare_returns :
    (ResendInbound.prepare library settings intOfText event).Returns
      PlacedApart := by
  refine Prog.returns_true.bind fun email _ => ?_
  split
  · exact completed_returns event _
  · split
    · exact completed_returns event _
    · refine Prog.returns_true.bind fun attachments _ => ?_
      dsimp only
      split
      · exact completed_returns event _
      · exact prepareAdmitted_returns _ _ _ _ _ _ _ _ _

/-- Nothing is handed over before the attachments or after them. -/
theorem publishing_processInboundEmail (message : InboundEmailMessage)
    (workspaceId : String)
    (distinct : (message.attachments.map EmailAttachment.position).Nodup) :
    publishingMonitor.Conforms
      (ResendInbound.processInboundEmail library settings message workspaceId)
      (fun _ _ => True) [] := by
  unfold ResendInbound.processInboundEmail
  have receipt : publishingMonitor.Conforms
      (Prog.onlyIf
        (settings.autoSendReviewEmail && settings.queued &&
          !message.attachments.isEmpty)
        (callService (.queueReceipt
          (ResendInbound.receiptIntent library message workspaceId))))
      (fun _ (after : List Nat) => after = [] ∧ True) [] :=
    publishing_of_checks {} (.onlyIf fun _ => Prog.calls_perform trivial)
      Prog.ends_true
  apply receipt.bind
  · rintro _ after ⟨rfl, _⟩
    have attachments : publishingMonitor.Conforms
        (ResendInbound.processAttachments settings message workspaceId
          message.attachments) (fun _ _ => True) [] :=
      publishing_processAttachments settings message workspaceId
        message.attachments distinct (by simp)
    apply attachments.bind
    · intro results asked _
      exact publishing_of_plain (.bind
        (.onlyIf fun _ => Prog.calls_perform trivial) fun _ => Prog.calls_pure)
    · exact fun _ _ _ => trivial
  · exact fun _ _ _ => trivial

theorem publishing_ingest (prepared : ResendInbound.PreparedEmail)
    (distinct : PlacedApart (.inr prepared)) :
    publishingMonitor.Conforms
      (ResendInbound.ingest library settings event prepared) (fun _ _ => True)
      [] := by
  unfold ResendInbound.ingest
  split
  · trivial
  · apply (publishing_processInboundEmail library settings prepared.message
      prepared.workspaceId distinct).bind
    · intro ingestion asked _
      exact publishing_of_plain (ResendInbound.completeWith_calls _ _)
    · exact fun _ _ _ => trivial

/-- A delivery hands over one job for each attachment at most. -/
theorem publishing_process :
    publishingMonitor.Conforms
      (ResendInbound.process library settings intOfText event)
      (fun _ _ => True) [] := by
  have failing (error : Exn) (asked : List Nat) : publishingMonitor.Conforms
      (ResendInbound.failEvent event error : IntakeProg ResendInboundResult)
      (fun _ _ => True) asked :=
    publishing_of_plain (ResendInbound.failEvent_calls event error)
  have claimed : publishingMonitor.Conforms
      (callEvent (.claim event.eventId event.emailId settings.emailWorkspaceId
        event.type event.payloadHash))
      (fun _ (after : List Nat) => after = [] ∧ True) [] :=
    publishing_of_checks {} (Prog.calls_perform trivial) Prog.ends_true
  apply claimed.bind
  · rintro claim after ⟨rfl, _⟩
    cases claim with
    | completed => trivial
    | processing => trivial
    | acquired =>
        have prepared : publishingMonitor.Conforms
            (ResendInbound.prepare library settings intOfText event)
            (fun result (after : List Nat) => after = [] ∧
              ∀ value, result = .ok value → PlacedApart value) [] :=
          publishing_of_checks settings.policies
            (ResendInbound.prepare_calls library settings intOfText event)
            (prepare_returns library settings intOfText event)
        apply prepared.handle
        rintro (error | result | prepared) after ⟨rfl, distinct⟩
        · exact failing error _
        · trivial
        · have handled : publishingMonitor.Conforms
              ((ResendInbound.ingest library settings event prepared).tryExcept
                (ResendInbound.failEvent event)) (fun _ _ => True) [] := by
            apply (publishing_ingest library settings event prepared
              (distinct _ rfl)).tryExcept
            · exact fun _ _ _ => trivial
            · exact fun error asked _ => failing error asked
          apply handled.tryFinally
          intro result asked _
          apply (publishing_of_plain
            (ResendInbound.unlinkFiles_calls prepared.temporaryFiles)).mono
          intro final _ _
          cases final <;> trivial
  · exact fun _ _ _ => trivial

/-- A worker hands over no job for an attachment. -/
theorem publishing_consumeDelivery (job : ContractReviewJob) :
    publishingMonitor.Conforms
      ((consumeDelivery settings.worker job).translate (IntakeCall.review none)
        fun _ reply => reply)
      (fun _ (after : List Nat) => after = []) [] := by
  have silent : ((consumeDelivery settings.worker job).translate
      (IntakeCall.review none) fun _ reply => reply : IntakeProg Unit).Calls
        fun request => request.asks = none :=
    Prog.calls_true.translate fun _ _ => rfl
  exact Monitor.conforms_of_calls silent
    (fun phase request same silent => asks_none_stays phase request same silent)
    rfl

end Publishing

/-! ## Runs -/

section Runs

variable {library : MailFunctions} {settings : InboundSettings}
  {intOfText : String → Option Int} {start : IntakeWorld} {final : ReviewState}
  {steps : List ReviewStep}

theorem publication?_eq_some {step : ReviewStep} {publication : Publication}
    (published : step.publication? library settings intOfText = some publication) :
    ∃ event payload choice reply world after,
      (reviewPool library settings intOfText).answer? step =
          some ⟨publication.delivery, .deliver event,
            .review (some publication.position) (.external (.enqueueJob payload)),
            .review choice, reply, world, after⟩ ∧
        choice.taken = true ∧ publication.emailId = event.emailId ∧
        publication.jobId = (payload.toJob (world.review.stamp.uuid4 0)).jobId := by
  obtain ⟨answer, answered, read⟩ := Option.bind_eq_some_iff.mp published
  unfold ReviewPoolAnswer.publication? at read
  split at read
  · split_ifs at read with taken
    cases read
    exact ⟨_, _, _, _, _, _, answered, taken, rfl, rfl⟩
  · cases read

theorem publishing_body (task : ReviewTask) :
    publishingMonitor.Conforms ((reviewPool library settings intOfText).body task)
      (fun _ _ => True) [] := by
  cases task with
  | deliver event =>
      apply (publishing_process library settings intOfText event).bind
      · exact fun _ _ _ => trivial
      · exact fun _ _ _ => trivial
  | work job =>
      apply (publishing_consumeDelivery settings job).bind
      · exact fun _ _ _ => trivial
      · exact fun _ _ _ => trivial

/-- One delivery does not publish a second job for an attachment. -/
theorem not_published_again
    (run : (reviewPool library settings intOfText).Run start steps final)
    {i j : Nat} {first second : ReviewStep} {earlier later : Publication}
    (ordered : i < j) (found : steps[i]? = some first)
    (found' : steps[j]? = some second)
    (published : first.publication? library settings intOfText = some earlier)
    (published' : second.publication? library settings intOfText = some later)
    (position : earlier.position = later.position)
    (delivery : earlier.delivery = later.delivery) :
    ¬ SameDelivery steps i j later.delivery := by
  intro same
  obtain ⟨_, _, _, reply, _, _, answered, _⟩ := publication?_eq_some published
  obtain ⟨_, _, _, _, _, _, answered', _⟩ := publication?_eq_some published'
  have stays (phase : List Nat) (request : IntakeCall)
      (reply : Except Exn request.Ret) (member : later.position ∈ phase) :
      later.position ∈ askedAfter phase request reply :=
    List.mem_append_right _ member
  have established (phase : List Nat) :
      later.position ∈ askedAfter phase _ reply :=
    List.mem_append_left _ (by
      simp [IntakeCall.asks, ReviewCall.publishes, position])
  obtain ⟨phase, member, permitted⟩ := PoolSystem.permitted_after_answer
    publishing_body run (later.position ∈ ·) stays ordered found found' answered
    answered' delivery same established
  exact permitted later.position rfl member

/-! ## Where emails come from -/

/-- The job was published for an attachment. -/
def JobPublished (library : MailFunctions) (settings : InboundSettings)
    (intOfText : String → Option Int) (steps : List ReviewStep) (jobId : Uuid) :
    Prop :=
  ∃ step ∈ steps, ∃ publication,
    step.publication? library settings intOfText = some publication ∧
      publication.jobId = jobId

/-- The jobs and emails of a state belong to known jobs. -/
structure ReviewState.Sourced (known : Uuid → Prop) (state : ReviewState) :
    Prop where
  world : state.world.review.Sourced known
  workers : ∀ thread running job, state.threads thread = some running →
    running.task = .work job → known job.jobId

/-- The calls of a task, by what they may bring. -/
def ReviewTask.Makes (policies : SenderPolicies) : ReviewTask → IntakeCall → Prop
  | .deliver _, request => request.Processes policies
  | .work job, .review none call => call.ofJob job.jobId
  | .work _, _ => False

theorem body_calls (task : ReviewTask) :
    ((reviewPool library settings intOfText).body task).Calls
      (task.Makes settings.policies) := by
  cases task with
  | deliver event =>
      exact .bind (ResendInbound.process_calls library settings intOfText event)
        fun _ => Prog.calls_pure
  | work job =>
      refine .bind ?_ fun _ => Prog.calls_pure
      exact (consumeDelivery_ofJob settings.worker job).translate fun _ own => own

/-- A task brings nothing but for its own job and for jobs it publishes. -/
theorem sources_of_answer
    (run : (reviewPool library settings intOfText).Run start steps final)
    {step : ReviewStep} (member : step ∈ steps)
    (sourced : ReviewState.Sourced
      (JobPublished library settings intOfText steps) step.before)
    {thread : Nat} {task : ReviewTask} {attachment : Option Nat}
    {call : ReviewCall} {choice : Choice}
    {reply : Except Exn call.Ret} {world after : IntakeWorld}
    (answered : (reviewPool library settings intOfText).answer? step =
      some ⟨thread, task, .review attachment call, .review choice, reply, world,
        after⟩) :
    call.Sources (JobPublished library settings intOfText steps)
      world.review.stamp choice := by
  have makes : task.Makes settings.policies (.review attachment call) :=
    PoolSystem.calls_of_run run body_calls member answered
  cases task with
  | deliver event =>
      cases attachment with
      | none => exact makes.elim
      | some position =>
          cases call with
          | slack call => trivial
          | database call =>
              intro row brings
              cases call <;> first | exact brings.elim | exact makes.elim
          | external call =>
              intro job brings
              cases call with
              | enqueueJob payload =>
                  obtain ⟨taken, rfl⟩ := brings
                  refine ⟨step, member, ⟨thread, event.emailId, position, _⟩, ?_,
                    rfl⟩
                  unfold ReviewStep.publication?
                  rw [answered]
                  simp [ReviewPoolAnswer.publication?, taken]
              | publishConfirmed route republished => exact makes.elim
              | _ => exact brings.elim
  | work job =>
      cases attachment with
      | some position => exact makes.elim
      | none =>
          obtain ⟨_, ⟨next, stands⟩, _⟩ :=
            PoolSystem.answer?_eq_some_iff.mp answered
          have known := sourced.workers thread _ job stands rfl
          cases call with
          | slack call => trivial
          | database call =>
              intro row brings
              cases call with
              | enqueueEmail intent =>
                  rw [brings, show intent.reviewJobId = job.jobId from makes]
                  exact known
              | _ => exact brings.elim
          | external call =>
              intro other brings
              cases call with
              | publishConfirmed route republished =>
                  rw [brings, show republished.jobId = job.jobId from makes]
                  exact known
              | enqueueJob payload => exact makes.elim
              | _ => exact brings.elim

section Step

variable {known : Uuid → Prop} {world after : IntakeWorld}

/-- The calls outside the review leave its jobs and emails. -/
theorem IntakeWorld.sourced_respond {delivery : Nat} {choice : IntakeChoice}
    {request : IntakeCall} {reply : Except Exn request.Ret}
    (sourced : world.review.Sourced known)
    (sources : ∀ attachment call chosen, request = .review attachment call →
      choice = .review chosen → call.Sources known world.review.stamp chosen)
    (answered : IntakeWorld.respond intOfText delivery choice world request =
      some (reply, after)) :
    after.review.Sourced known := by
  cases request with
  | event call =>
      rcases IntakeWorld.respond_event answered with ⟨_, rfl⟩ | ⟨_, rfl⟩
      · exact sourced
      · exact sourced
  | limiter asked =>
      rw [(IntakeWorld.respond_limiter answered).2.2]
      exact sourced
  | service call =>
      rw [IntakeWorld.respond_service answered]
      exact sourced
  | review attachment call =>
      cases choice with
      | review chosen =>
          obtain ⟨answer, responded, same⟩ := Option.map_eq_some_iff.mp answered
          cases same
          exact sourced.respond (sources attachment call chosen rfl rfl) responded
      | event failure | limiter outcome | service call reply => cases answered

/-- Only a waiting job is delivered. -/
theorem Broker.has_of_delivered {broker delivered : Broker} {delivery : Nat}
    {job : ContractReviewJob}
    (taken : broker.deliver delivery job = some delivered) : broker.Has job := by
  unfold Broker.deliver at taken
  split_ifs at taken with waiting
  exact .inl waiting.1

theorem Broker.has_of_deliver {broker delivered : Broker} {delivery : Nat}
    {job other : ContractReviewJob}
    (taken : broker.deliver delivery job = some delivered)
    (has : delivered.Has other) : broker.Has other := by
  unfold Broker.deliver at taken
  split_ifs at taken with waiting
  cases taken
  rcases has with ready | ⟨holder, unacked⟩ | dead
  · exact .inl (List.mem_of_mem_erase ready)
  · rcases List.mem_append.mp unacked with unacked | new
    · exact .inr (.inl ⟨holder, unacked⟩)
    · cases List.mem_singleton.mp new
      exact .inl waiting.1
  · exact .inr (.inr dead)

end Step

/-- A step keeps the jobs and emails of known jobs. -/
theorem sourced_step
    (run : (reviewPool library settings intOfText).Run start steps final)
    {step : ReviewStep} (member : step ∈ steps)
    (allowed : (reviewPool library settings intOfText).Allowed step)
    (sourced : ReviewState.Sourced
      (JobPublished library settings intOfText steps) step.before) :
    ReviewState.Sourced (JobPublished library settings intOfText steps)
      ((reviewPool library settings intOfText).after step) := by
  have moves := PoolSystem.moves_of_allowed allowed
  generalize (reviewPool library settings intOfText).after step = reached at moves
  obtain ⟨event, before⟩ := step
  simp only at moves sourced
  have updated {world : IntakeWorld}
      (kept : world.review.Sourced (JobPublished library settings intOfText steps))
      (thread : Nat) (task : ReviewTask)
      (rest : IntakeProg (Option ResendInboundResult))
      (own : ∀ job, task = .work job →
        JobPublished library settings intOfText steps job.jobId) :
      ReviewState.Sourced (JobPublished library settings intOfText steps)
        ⟨world, Function.update before.threads thread (some ⟨task, rest⟩)⟩ := by
    refine ⟨kept, ?_⟩
    intro other running job stands works
    simp only [Function.update_apply] at stands
    split_ifs at stands
    · cases stands
      exact own job works
    · exact sourced.workers other running job stands works
  cases moves with
  | @start thread task world idle launched =>
      cases task with
      | deliver event =>
          cases launched
          exact updated sourced.world thread _ _ fun job works => nomatch works
      | work job =>
          obtain ⟨broker, taken, rfl⟩ := Option.map_eq_some_iff.mp launched
          have kept : (before.world.withBroker broker).review.Sourced
              (JobPublished library settings intOfText steps) := by
            refine ⟨?_, sourced.world.emails⟩
            intro other has
            exact sourced.world.jobs other (Broker.has_of_deliver taken has)
          apply updated kept
          intro other works
          cases works
          exact sourced.world.jobs job (Broker.has_of_delivered taken)
  | @call thread choice task request next reply world stands answered =>
      refine updated ?_ thread task _ fun job works =>
        sourced.workers thread _ job stands works
      apply IntakeWorld.sourced_respond sourced.world _ answered
      rintro attachment call chosen rfl rfl
      have answer :=
        PoolSystem.answer?_of_call (reviewPool library settings intOfText) stands answered
      exact sources_of_answer run member sourced answer
  | @stop thread stopped stands =>
      refine ⟨sourced.world, ?_⟩
      intro other running job standing works
      simp only [Function.update_apply] at standing
      split_ifs at standing
      exact sourced.workers other running job standing works
  | @outside event world happens =>
      refine ⟨?_, sourced.workers⟩
      cases event with
      | tick tick =>
          cases happens
          exact ⟨sourced.world.jobs, sourced.world.emails⟩
      | requeue delivery =>
          cases happens
          refine ⟨?_, sourced.world.emails⟩
          intro job has
          exact sourced.world.jobs job (Broker.has_of_requeue has)

/-- Every email of a run answers an attachment, and no attachment has two of them if
no second delivery publishes a job for it. -/
theorem answered_once_of_published_by_one (library : MailFunctions)
    (settings : InboundSettings) (intOfText : String → Option Int)
    {start : IntakeWorld} {final : ReviewState} {steps : List ReviewStep}
    (jobless : ∀ job, ¬ start.review.broker.Has job)
    (unsent : start.review.database.emails.rows = [])
    (run : (reviewPool library settings intOfText).Run start steps final)
    (once : PublishedByOne library settings intOfText steps) :
    AnsweredOnce library settings intOfText steps final := by
  constructor
  · intro emailId position first inFirst second inSecond
    rintro ⟨step, member, earlier, published, rfl, rfl, answers⟩
      ⟨step', member', later, published', email, position, answers'⟩
    obtain ⟨i, found⟩ := List.mem_iff_getElem?.mp member
    obtain ⟨j, found'⟩ := List.mem_iff_getElem?.mp member'
    have same : first.reviewJobId = second.reviewJobId := by
      rcases Nat.lt_trichotomy i j with before | rfl | after
      · obtain ⟨delivery, alone⟩ := once i j step step' earlier later before found
          found' published published' email.symm position.symm
        exact absurd alone (not_published_again run before found found' published
          published' position.symm delivery)
      · rw [found] at found'
        cases found'
        rw [published] at published'
        cases published'
        rw [← answers, answers']
      · obtain ⟨delivery, alone⟩ := once j i step' step later earlier after found'
          found published' published email position
        exact absurd alone (not_published_again run after found' found published'
          published position delivery)
    have foundFirst := RowTable.find?_of_mem inFirst
    have foundSecond := RowTable.find?_of_mem inSecond
    rw [same, foundSecond] at foundFirst
    exact (Option.some.inj foundFirst).symm
  · intro row member
    have sourced := (run.invariant
      (ReviewState.Sourced (JobPublished library settings intOfText steps))
      ⟨⟨fun job has => absurd has (jobless job), by simp [unsent]⟩,
        fun thread running job stands => nomatch stands⟩
      fun step member allowed => sourced_step run member allowed).1
    obtain ⟨step, member, publication, published, same⟩ :=
      sourced.world.emails row member
    exact ⟨publication.emailId, publication.position, step, member, publication,
      published, rfl, rfl, same⟩

/-! ## An email and its retry -/

def reviewReceipt : ReceiptIntent where
  workspaceId := "W1"
  threadKey := "email-1"
  toAddress := "user@mail.test"
  subject := "Re: Contract review"
  attachmentCount := 1
  inReplyTo := none
  references := none
  idempotencyKey := "receipt:email-1"

def attachedFile : FileValidation where
  ok := true
  mimeType := some "application/pdf"
  sha256 := some "00"
  sizeBytes := 1000

def attachedDocument : ParsedDocument where
  documentId := "d"
  sha256 := "00"
  mimeType := "application/pdf"
  pageCount := 1
  pages := []
  parserName := "p"
  parserVersion := "1"
  requiresOcr := false

def proceeding (calls : Nat) : List IntakeChoice :=
  List.replicate calls (.review .proceed)

/-- From the claim of an email to the job for its attachment, whose contract a retry
finds in the database. -/
def queueingChoices (calls : Nat) : List IntakeChoice :=
  admissionChoices [sampleAttachment] ++
    [.service (.resolveInboundSender "user@mail.test") (.ok "W1"),
      .event none,
      .service .makeAttachmentDir (.ok ()),
      .service (.createTempFile ".pdf") (.ok ()),
      .service (.downloadAttachment "" 15728640) (.ok ()),
      .service (.queueReceipt reviewReceipt) (.ok ()),
      .review (.validated attachedFile),
      .review (.stored "W1/00")] ++
    proceeding calls

def completion : List IntakeChoice :=
  [.event none, .service .unlinkFile (.ok ())]

/-- The job is queued, but the email cannot be marked as completed. -/
def failedCompletion : List IntakeChoice :=
  [.event (some ⟨.databaseError, "connection lost"⟩), .event none,
    .service .unlinkFile (.ok ())]

/-- From the open connection to the acknowledged delivery. -/
def reviewingChoices : List IntakeChoice :=
  proceeding 11 ++ [.review (.validated attachedFile)] ++ proceeding 3 ++
    [.review (.parsed attachedDocument)] ++ proceeding 7 ++
    [.review (.reviewed ⟨sampleReview, []⟩)] ++ proceeding 14

abbrev ReviewScript :=
  ReviewState → List (PoolEvent ReviewTask IntakeChoice ReviewEvent)

def deliverySteps (delivery : Nat) (choices : List IntakeChoice) : ReviewScript :=
  fun _ =>
    .start delivery (.deliver sampleWebhook) ::
      choices.map (PoolEvent.call delivery)

/-- A worker takes the first waiting job. -/
def workSteps (delivery : Nat) (choices : List IntakeChoice) : ReviewScript :=
  fun state =>
    match state.world.review.broker.ready with
    | [] => []
    | job :: _ =>
        .start delivery (.work job) :: choices.map (PoolEvent.call delivery)

def sampleReviews (scripts : List ReviewScript) :
    Option (List ReviewStep × ReviewState) :=
  (reviewPool sampleMail sampleInboundSettings fun _ => none).follow []
    { world := sampleIntakeWorld } scripts

/-- One delivery queues a job, and a worker finishes it. -/
def answeredRun : Option (List ReviewStep × ReviewState) :=
  sampleReviews [deliverySteps 0 (queueingChoices 11 ++ completion),
    workSteps 1 reviewingChoices]

theorem answeredRun_isSome : answeredRun.isSome := by
  decide +kernel

/-- The first delivery fails after it has queued its job, and a second one queues
another. -/
def retriedReview : Option (List ReviewStep × ReviewState) :=
  sampleReviews [deliverySteps 0 (queueingChoices 11 ++ failedCompletion),
    deliverySteps 1 (queueingChoices 9 ++ completion),
    workSteps 2 reviewingChoices, workSteps 3 (proceeding 9)]

theorem retriedReview_isSome : retriedReview.isSome := by
  decide +kernel

def answeredSteps : List ReviewStep :=
  (answeredRun.get answeredRun_isSome).1

def answeredState : ReviewState :=
  (answeredRun.get answeredRun_isSome).2

theorem answeredSteps_run :
    (reviewPool sampleMail sampleInboundSettings fun _ => none).Run
      sampleIntakeWorld answeredSteps answeredState :=
  PoolSystem.run_of_follow .nil (Option.some_get answeredRun_isSome).symm

/-- Only one step publishes. -/
theorem answeredSteps_publishes : ∀ i, i < answeredSteps.length →
    (answeredSteps[i]?.bind (ReviewStep.publication? sampleMail
      sampleInboundSettings fun _ => none)).isSome → i = 22 := by
  decide +kernel

theorem answeredSteps_publishedByOne :
    PublishedByOne sampleMail sampleInboundSettings (fun _ => none)
      answeredSteps := by
  intro i j first second earlier later ordered found found' published published'
  have first : i = 22 :=
    answeredSteps_publishes i (RunHistory.lt_length_of_getElem? found)
      (by simp [found, published])
  have second : j = 22 :=
    answeredSteps_publishes j (RunHistory.lt_length_of_getElem? found')
      (by simp [found', published'])
  omega

theorem answered_once_of_published_by_one_sample :
    answeredState.world.review.database.emails.rows.length = 1 ∧
      AnsweredOnce sampleMail sampleInboundSettings (fun _ => none) answeredSteps
        answeredState :=
  ⟨by decide +kernel,
    answered_once_of_published_by_one sampleMail sampleInboundSettings
      (fun _ => none)
      (by
        rintro job (ready | ⟨holder, unacked⟩ | dead)
        · cases ready
        · cases unacked
        · cases dead)
      rfl answeredSteps_run answeredSteps_publishedByOne⟩

/-- The email whose attachments a delivery lists, and what it is told. -/
def ReviewStep.listed? (step : ReviewStep) :
    Option (String × List ReceivedAttachment) :=
  match step.event with
  | .call _ (.service (.listAttachments emailId) (.ok attachments)) =>
      some (emailId, attachments)
  | _ => none

/-- Every delivery of an email lists the same attachments. -/
def Relists (listing : String → List ReceivedAttachment) (steps : List ReviewStep) :
    Prop :=
  ∀ step ∈ steps, ∀ listed ∈ step.listed?, listed.2 = listing listed.1

instance (listing : String → List ReceivedAttachment) (steps : List ReviewStep) :
    Decidable (Relists listing steps) :=
  inferInstanceAs (Decidable (∀ step ∈ steps, ∀ listed ∈ step.listed?, _))

instance (library : MailFunctions) (settings : InboundSettings)
    (intOfText : String → Option Int) (steps : List ReviewStep)
    (row : OutboundEmailRow) (emailId : String) (position : Nat) :
    Decidable (Answers library settings intOfText steps row emailId position) :=
  have (step : ReviewStep) : Decidable (∃ publication,
      step.publication? library settings intOfText = some publication ∧
        publication.emailId = emailId ∧ publication.position = position ∧
        publication.jobId = row.reviewJobId) :=
    match step.publication? library settings intOfText with
    | none => isFalse (by simp)
    | some publication =>
        decidable_of_iff (publication.emailId = emailId ∧
          publication.position = position ∧
          publication.jobId = row.reviewJobId) (by simp)
  inferInstanceAs (Decidable (∃ step ∈ steps, _))

/-- The retry of an email whose job was already queued leads to a second review
email for the same attachment. -/
theorem attachment_answered_twice :
    ¬ ∀ (library : MailFunctions) (settings : InboundSettings)
        (intOfText : String → Option Int) (start : IntakeWorld)
        (final : ReviewState) (steps : List ReviewStep)
        (listing : String → List ReceivedAttachment),
      (∀ job, ¬ start.review.broker.Has job) →
      start.review.database.emails.rows = [] →
      (reviewPool library settings intOfText).Run start steps final →
      Relists listing steps →
        AnsweredOnce library settings intOfText steps final := by
  intro answered
  have once := answered sampleMail sampleInboundSettings (fun _ => none)
    sampleIntakeWorld _ _ (fun _ => [sampleAttachment])
    (by
      rintro job (ready | ⟨holder, unacked⟩ | dead)
      · cases ready
      · cases unacked
      · cases dead)
    rfl (PoolSystem.run_of_follow .nil (Option.some_get retriedReview_isSome).symm)
    (by decide +kernel)
  have twice : ¬ ∀ first ∈ (retriedReview.get
        retriedReview_isSome).2.world.review.database.emails.rows,
      ∀ second ∈ (retriedReview.get
        retriedReview_isSome).2.world.review.database.emails.rows,
      Answers sampleMail sampleInboundSettings (fun _ => none)
          (retriedReview.get retriedReview_isSome).1 first "email-1" 0 →
      Answers sampleMail sampleInboundSettings (fun _ => none)
          (retriedReview.get retriedReview_isSome).1 second "email-1" 0 →
        first = second := by
    decide +kernel
  exact twice (once.unique "email-1" 0)

end Runs

end ContractMate
