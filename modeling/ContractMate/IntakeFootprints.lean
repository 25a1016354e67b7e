import ContractMate.ResendInbound
import ContractMate.ReviewFootprints
import ContractMate.SlackIntake

/-!
# Which calls an intake path can make

Outside the admission and the intake of single attachments an inbound email only
asks services and its event, and the checks of its admission are under the policy
of their operation.
-/

namespace ContractMate

/-- A call of something else than the limiter. -/
def IntakeCall.OffLimiter : IntakeCall → Prop
  | .limiter _ => False
  | _ => True

/-- A call for an email's event, or of a service. -/
def IntakeCall.Plain : IntakeCall → Prop
  | .event _ => True
  | .service _ => True
  | _ => False

/-- A plain call, or one of an attachment's intake. -/
def IntakeCall.Submits : IntakeCall → Prop
  | .limiter _ => False
  | .review none _ => False
  | .review (some _) call => call.submitting
  | _ => True

/-- The policy of an operation. -/
def SenderPolicies.named (policies : SenderPolicies) (operation : String) :
    RateLimitPolicy :=
  if operation = "review" then policies.known else policies.unknown

/-- A plain call, or a check under the policy of its operation. -/
def IntakeCall.Checks (policies : SenderPolicies) : IntakeCall → Prop
  | .limiter (.consume policy _ _) => policy = policies.named policy.operation
  | .limiter (.reserve ..) => False
  | .review .. => False
  | _ => True

/-- A call of a delivery of the webhook. -/
def IntakeCall.Processes (policies : SenderPolicies) : IntakeCall → Prop
  | .limiter (.consume policy _ _) => policy = policies.named policy.operation
  | .limiter (.reserve ..) => False
  | .review none _ => False
  | .review (some _) call => call.submitting
  | _ => True

section Implications

variable {policies : SenderPolicies} {request : IntakeCall} {Value : Type}
  {program : IntakeProg Value}

theorem IntakeCall.Plain.checks (plain : request.Plain) :
    request.Checks policies := by
  cases request with
  | event call => trivial
  | service call => trivial
  | limiter asked => exact plain.elim
  | review position call => exact plain.elim

theorem IntakeCall.Plain.submits (plain : request.Plain) : request.Submits := by
  cases request with
  | event call => trivial
  | service call => trivial
  | limiter asked => exact plain.elim
  | review position call => exact plain.elim

theorem IntakeCall.Submits.offLimiter (submits : request.Submits) :
    request.OffLimiter := by
  cases request with
  | limiter asked => exact submits.elim
  | event call => trivial
  | service call => trivial
  | review position call => trivial

theorem IntakeCall.Checks.processes (checks : request.Checks policies) :
    request.Processes policies := by
  cases request with
  | limiter asked => cases asked <;> exact checks
  | event call => trivial
  | service call => trivial
  | review position call => exact checks.elim

theorem IntakeCall.Submits.processes (submits : request.Submits) :
    request.Processes policies := by
  cases request with
  | limiter asked => exact submits.elim
  | event call => trivial
  | service call => trivial
  | review position call => cases position <;> exact submits

theorem checks_of_plain (calls : program.Calls IntakeCall.Plain) :
    program.Calls (IntakeCall.Checks policies) :=
  calls.mono fun _ plain => plain.checks

theorem submits_of_plain (calls : program.Calls IntakeCall.Plain) :
    program.Calls IntakeCall.Submits :=
  calls.mono fun _ plain => plain.submits

theorem off_of_submits (calls : program.Calls IntakeCall.Submits) :
    program.Calls IntakeCall.OffLimiter :=
  calls.mono fun _ submits => submits.offLimiter

theorem off_of_plain (calls : program.Calls IntakeCall.Plain) :
    program.Calls IntakeCall.OffLimiter :=
  off_of_submits (submits_of_plain calls)

theorem processes_of_checks
    (calls : program.Calls (IntakeCall.Checks policies)) :
    program.Calls (IntakeCall.Processes policies) :=
  calls.mono fun _ checks => checks.processes

theorem processes_of_submits (calls : program.Calls IntakeCall.Submits) :
    program.Calls (IntakeCall.Processes policies) :=
  calls.mono fun _ submits => submits.processes

theorem forAttachment_off (position : Nat) (program : ReviewProg Value) :
    (forAttachment position program).Calls IntakeCall.OffLimiter :=
  Prog.calls_true.translate fun _ _ => trivial

end Implications

namespace ResendInbound

variable (library : MailFunctions) (settings : InboundSettings)
  (intOfText : String → Option Int) (event : ResendWebhookEvent)

theorem unlinkFiles_calls (count : Nat) :
    (unlinkFiles count).Calls IntakeCall.Plain := by
  induction count with
  | zero => exact Prog.calls_pure
  | succ count induction =>
      exact .perform trivial fun _ => induction

theorem discardFiles_calls {Value : Type} (files : Nat) (error : Exn) :
    (discardFiles files error : IntakeProg Value).Calls IntakeCall.Plain :=
  .bind (unlinkFiles_calls files) fun _ => Prog.calls_raise

theorem downloadEach_calls (position : Nat)
    (attachments : List ReceivedAttachment) (downloads : Downloads) :
    (downloadEach library settings position attachments downloads).Calls
      IntakeCall.Plain := by
  induction attachments generalizing position downloads with
  | nil => exact Prog.calls_pure
  | cons attachment rest induction =>
      unfold downloadEach
      split
      · exact induction _ _
      · refine .handle (Prog.calls_perform trivial) fun created => ?_
        cases created with
        | error error => exact discardFiles_calls _ _
        | ok _ =>
            refine .handle (Prog.calls_perform trivial) fun downloaded => ?_
            cases downloaded with
            | ok _ => exact induction _ _
            | error error =>
                dsimp only
                split
                · exact induction _ _
                · exact discardFiles_calls _ _

theorem forAttachment_calls {Value : Type} (position : Nat)
    {program : ReviewProg Value} (calls : program.Calls ReviewCall.submitting) :
    (forAttachment position program).Calls IntakeCall.Submits :=
  calls.translate fun _ submits => submits

theorem reviewLocalFile_calls (request : IntakeRequest) :
    (reviewLocalFile settings request).Calls ReviewCall.submitting := by
  refine Prog.Calls.bind (gathering_submitting ingestLocalFile_calls)
    fun ingestion => ?_
  cases ingestion with
  | inl rejected => exact Prog.calls_pure
  | inr ingested =>
      exact reviewing_submitting (reviewIngestedFile_calls settings.worker _ _)

theorem processAttachment_calls (message : InboundEmailMessage)
    (workspaceId : String) (attachment : EmailAttachment) :
    (processAttachment settings message workspaceId attachment).Calls
      IntakeCall.Submits := by
  apply forAttachment_calls
  split
  · exact enqueueLocalFile_calls _
  · exact reviewLocalFile_calls settings _

theorem processAttachments_calls (message : InboundEmailMessage)
    (workspaceId : String) (attachments : List EmailAttachment) :
    (processAttachments settings message workspaceId attachments).Calls
      IntakeCall.Submits := by
  induction attachments with
  | nil => exact Prog.calls_pure
  | cons attachment rest induction =>
      refine .bind (processAttachment_calls _ _ _ _) fun _ => ?_
      exact .bind induction fun _ => Prog.calls_pure

theorem completeWith_calls (result : ResendInboundResult) :
    (completeWith event result).Calls IntakeCall.Plain :=
  .perform trivial fun _ => Prog.calls_pure

theorem failEvent_calls {Value : Type} (error : Exn) :
    (failEvent event error : IntakeProg Value).Calls IntakeCall.Plain :=
  .perform trivial fun _ => Prog.calls_raise

theorem ingest_calls (prepared : PreparedEmail) :
    (ingest library settings event prepared).Calls IntakeCall.Submits := by
  unfold ingest
  split
  · exact Prog.calls_raise
  · refine .bind ?_ fun _ => submits_of_plain (completeWith_calls _ _)
    refine .bind (.onlyIf fun _ => Prog.calls_perform trivial) fun _ => ?_
    refine .bind (processAttachments_calls _ _ _ _) fun _ => ?_
    exact .bind (.onlyIf fun _ => Prog.calls_perform trivial) fun _ =>
      Prog.calls_pure

theorem senderWorkspace_calls (senderName : Option String) (sender : String) :
    (senderWorkspace settings senderName sender).Calls IntakeCall.Plain := by
  unfold senderWorkspace
  split
  · exact Prog.calls_pure
  · refine .handle (Prog.calls_perform trivial) fun resolved => ?_
    cases resolved with
    | ok _ => exact Prog.calls_pure
    | error error =>
        dsimp only
        split
        · exact Prog.calls_pure
        · exact Prog.calls_raise

theorem downloads_calls (attachments : List ReceivedAttachment) :
    (downloadSupportedAttachments library settings attachments).Calls
      IntakeCall.Plain :=
  .perform trivial fun _ => downloadEach_calls _ _ _ _ _

theorem admissionPolicy_named (account : Option UserAccount) (sender : String) :
    (admissionPolicy settings account sender).1 =
      settings.policies.named
        (admissionPolicy settings account sender).1.operation := by
  have known := settings.policies.knownOperation
  have unknown := settings.policies.unknownOperation
  unfold admissionPolicy SenderPolicies.named
  split
  · split_ifs <;> simp_all
  · simp [unknown]

theorem refused_calls (account : Option UserAccount) (sender : String)
    (units : Nat) :
    (refused settings intOfText account sender units).Calls
      (IntakeCall.Checks settings.policies) := by
  unfold refused
  split
  · exact Prog.calls_pure
  · refine .bind ?_ fun decision => ?_
    · unfold consume
      split_ifs
      · exact Prog.calls_raise
      · exact Prog.calls_raise
      · exact Prog.calls_pure
      · exact .bind (Prog.calls_perform
          (admissionPolicy_named settings account sender)) fun _ =>
            Prog.calls_done
    · split_ifs
      · exact Prog.calls_raise
      · exact Prog.calls_pure

theorem prepareAdmitted_calls (email : ReceivedEmail) (senderName : Option String)
    (sender : String) (supported : List ReceivedAttachment)
    (ignored : List String) :
    (prepareAdmitted library settings intOfText event email senderName sender
      supported ignored).Calls (IntakeCall.Checks settings.policies) := by
  have account : (existingAccount settings sender).Calls
      IntakeCall.Plain := by
    unfold existingAccount
    split
    · exact Prog.calls_perform trivial
    · exact Prog.calls_pure
  refine .bind (checks_of_plain account) fun _ => ?_
  refine .bind (refused_calls settings intOfText _ sender supported.length)
    fun isRefused => ?_
  split
  · exact .bind (checks_of_plain (completeWith_calls event _)) fun _ => Prog.calls_pure
  · refine .bind (checks_of_plain
      (senderWorkspace_calls settings senderName sender)) fun workspace => ?_
    split
    · exact .bind (checks_of_plain (completeWith_calls event _)) fun _ =>
        Prog.calls_pure
    · refine .perform trivial fun _ => ?_
      exact .bind (checks_of_plain
        (downloads_calls library settings supported)) fun _ => Prog.calls_pure

theorem prepare_calls :
    (prepare library settings intOfText event).Calls
      (IntakeCall.Checks settings.policies) := by
  have completed (result : ResendInboundResult) :
      (completeWith event result >>= fun result =>
        (pure (.inl result) : IntakeProg (ResendInboundResult ⊕ PreparedEmail))).Calls
        (IntakeCall.Checks settings.policies) :=
    .bind (checks_of_plain (completeWith_calls event result)) fun _ => Prog.calls_pure
  refine .perform trivial fun email => ?_
  split
  · exact completed _
  · split
    · exact completed _
    · refine .perform trivial fun attachments => ?_
      dsimp only
      split
      · exact completed _
      · exact prepareAdmitted_calls _ _ _ _ _ _ _ _ _

theorem process_calls :
    (process library settings intOfText event).Calls
      (IntakeCall.Processes settings.policies) := by
  refine .perform trivial fun claim => ?_
  split
  · exact Prog.calls_pure
  · exact Prog.calls_pure
  · refine .handle (processes_of_checks (prepare_calls _ _ _ _)) fun prepared => ?_
    split
    · exact processes_of_checks (checks_of_plain (failEvent_calls event _))
    · exact Prog.calls_pure
    · apply processes_of_submits
      refine .tryFinally (.tryExcept (ingest_calls _ _ _ _) fun error => ?_)
        (submits_of_plain (unlinkFiles_calls _))
      exact submits_of_plain (failEvent_calls event error)

end ResendInbound

namespace SlackIntake

variable (settings : SlackIntakeSettings) (record : InboundSlackEvent)

theorem queueRejection_calls (conversation : Conversation)
    (workspaceId suffix message : String) :
    (queueRejection record conversation workspaceId suffix message).Calls
      IntakeCall.OffLimiter :=
  .perform trivial fun _ => Prog.calls_pure

theorem reject_calls (conversation : Conversation)
    (workspaceId suffix message : String) :
    (reject record conversation workspaceId suffix message).Calls
      IntakeCall.OffLimiter :=
  .bind (queueRejection_calls _ _ _ _ _) fun _ => Prog.calls_pure

theorem processClaimedFile_calls (conversation : Conversation)
    (account : UserAccount) (position : Nat) (file : SlackFile)
    (leaseToken reviewJobId : Uuid) :
    (processClaimedFile settings record conversation account position file
      leaseToken reviewJobId).Calls IntakeCall.OffLimiter := by
  refine .handle (forAttachment_off _ _) fun result => ?_
  cases result with
  | error error =>
      exact .perform trivial fun _ => Prog.calls_raise
  | ok _ =>
      exact .perform trivial fun _ =>
        .onlyIf fun _ => Prog.calls_raise

theorem processFiles_calls (conversation : Conversation) (account : UserAccount)
    (position : Nat) (files : List SlackFile) (busySubmission : Bool) :
    (processFiles settings record conversation account position files
      busySubmission).Calls IntakeCall.OffLimiter := by
  induction files generalizing position busySubmission with
  | nil => exact Prog.calls_pure
  | cons file rest induction =>
      refine .perform trivial fun claim => ?_
      split
      · exact induction _ _
      · exact induction _ _
      · split
        · exact .bind (processClaimedFile_calls _ _ _ _ _ _ _ _) fun _ =>
            induction _ _
        · exact Prog.calls_raise

theorem processAdmitted_calls (body : SlackEventBody)
    (conversation : Conversation) (account : UserAccount)
    (files : List SlackFile) :
    (processAdmitted settings record body conversation account files).Calls
      IntakeCall.OffLimiter := by
  refine .perform trivial fun _ => ?_
  refine .perform trivial fun _ => ?_
  refine .bind (.tryFinally (processFiles_calls _ _ _ _ _ _ _)
    (.perform trivial fun _ => Prog.calls_pure)) fun busy => ?_
  split
  · exact Prog.calls_raise
  · exact Prog.calls_pure

theorem queueTerminalEventFailure_calls :
    (queueTerminalEventFailure settings record).Calls IntakeCall.OffLimiter := by
  unfold queueTerminalEventFailure
  split
  · exact Prog.calls_pure
  · split
    · refine .perform trivial fun installation => ?_
      cases installation with
      | none => exact Prog.calls_pure
      | some installation =>
          refine .bind (.perform trivial fun _ =>
            Prog.calls_pure) fun workspaceId => ?_
          exact queueRejection_calls _ _ _ _ _
    · exact Prog.calls_pure

theorem retryEvent_calls :
    (retryEvent settings record).Calls IntakeCall.OffLimiter :=
  .perform trivial fun _ => .onlyIf fun _ =>
    .tryExcept (queueTerminalEventFailure_calls _ _) fun _ => Prog.calls_pure

end SlackIntake

end ContractMate
