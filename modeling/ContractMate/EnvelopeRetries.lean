import ContractMate.SubmissionEnvelopes

/-!
# Repeated intakes of one submission

Every intake of a submission rebuilds its envelope.  The processing run in it is
found by the job identifier or created on the way, and both are best effort: a
submission whose envelope was persisted without a run is refused as soon as a
later intake obtains one.
-/

namespace ContractMate

/-- An attachment that passes every check of the intake. -/
structure AcceptedFile (submission : SlackSubmission) where
  live : LiveFile
  validation : FileValidation
  fileId : String
  sha256 : String
  mimeType : String
  fileId_eq : truthy submission.fileId = some fileId
  small : live.declaredSize ≤ (submission.maxFileSizeMb : Int) * 1024 * 1024
  valid : validation.ok = true
  sha256_eq : truthy validation.sha256 = some sha256
  mimeType_eq : truthy validation.mimeType = some mimeType

/-! ## Intakes in which only metrics fail -/

/-- The calls on processing runs that are best effort. -/
def DatabaseCall.isMetric : DatabaseCall → Bool
  | insertRun .. | getRun .. | setRunJobId .. | markWorkerStarted ..
  | recordAttemptFailure .. | markRun .. | latestActiveRun .. | upsertStage ..
  | getStage .. | updateStage .. => true
  | _ => false

/-- How a call may come out when nothing but metrics and publications fails and
the attachment is always the same. -/
def AcceptedFile.allows {submission : SlackSubmission}
    (file : AcceptedFile submission) : ReviewCall → Choice → Bool
  | .external (.filesInfo _), .described live => live = file.live
  | .external (.filesInfo _), _ => false
  | .external (.validateUploadedFile _), .validated validation =>
      validation = file.validation
  | .external (.validateUploadedFile _), _ => false
  | .external (.storeContractFile _ _), .stored _ => true
  | .external (.storeContractFile _ _), _ => false
  | .external (.enqueueJob _), _ => true
  | .database _, .proceed => true
  -- The lookup is not best effort: its error ends the intake.
  | .database (.getRunByJobId _), .raise error => error.kind = .databaseError
  | .database call, _ => call.isMetric
  | _, .proceed => true
  | _, _ => false

/-- What other parties do between two calls of an intake. -/
structure Interference (submission : SlackSubmission) (sha256 : String) where
  change : ReviewWorld → ReviewWorld
  undisturbed : ∀ world,
    Undisturbed submission sha256 world.database (change world).database
  sameContract : ∀ world,
    (change world).database.findContract submission.workspaceId sha256 =
      world.database.findContract submission.workspaceId sha256

def Interference.none (submission : SlackSubmission) (sha256 : String) :
    Interference submission sha256 where
  change := id
  undisturbed _ := .refl _
  sameContract _ := rfl

/-- The world of such an intake. -/
def AcceptedFile.respond {submission : SlackSubmission}
    (file : AcceptedFile submission) :
    Prog.Respond ReviewCall ReviewCall.Ret Exn ReviewWorld
      (Choice × Interference submission file.sha256) :=
  fun choice world request =>
    if file.allows request choice.1 then
      ReviewWorld.respond 0 choice.1 (choice.2.change world) request
    else
      none

/-! ## What an intake does to its submission -/

/-- What the processing of one attachment has come to: whether the envelope was
handed to the outbox, whether that or the contract failed, and which calls gave
the intake a processing run. -/
structure IntakeProgress where
  persisted : Bool := false
  spoiled : Bool := false
  found : Bool := false
  inserted : Bool := false
  read : Bool := false

namespace ReviewAnswer

def persists : ReviewAnswer → Bool
  | ⟨.slack (.persistReviewJob _ _ _), _⟩ => true
  | _ => false

/-- A refused envelope, a failed contract or a rejection message. -/
def spoils : ReviewAnswer → Bool
  | ⟨.slack (.persistReviewJob _ _ _), reply⟩ => !reply.isOk
  | ⟨.slack (.enqueueOutbound intent), _⟩ =>
      match intent.idempotencyKey with
      | .rejection _ => true
      | _ => false
  | ⟨.database (.updateContractStatus _ .analysisFailed), _⟩ => true
  | _ => false

/-- The lookup found a run of the job. -/
def findsRun : ReviewAnswer → Bool
  | ⟨.database (.getRunByJobId _), reply⟩ =>
      match (reply : Except Exn (Option ProcessingRun)) with
      | .ok (some _) => true
      | _ => false
  | _ => false

/-- The new run was read back. -/
def readsRun : ReviewAnswer → Bool
  | ⟨.database (.getRun _), reply⟩ =>
      match (reply : Except Exn (Option ProcessingRun)) with
      | .ok (some _) => true
      | _ => false
  | _ => false

end ReviewAnswer

namespace IntakeProgress

def of (log : List ReviewAnswer) : IntakeProgress where
  persisted := log.any ReviewAnswer.persists
  spoiled := log.any ReviewAnswer.spoils
  found := log.any ReviewAnswer.findsRun
  inserted := log.any ReviewAnswer.insertsRun
  read := log.any ReviewAnswer.readsRun

/-- The intake found a processing run or created one. -/
def obtained (progress : IntakeProgress) : Bool :=
  progress.found || (progress.inserted && progress.read)

/-- Exactly a run for an envelope stored without one spoils an intake. -/
def balanced (stored : Option JobPayload) (progress : IntakeProgress) : Bool :=
  progress.spoiled ==
    (stored.any (fun payload => payload.processingRunId.isNone) &&
      progress.persisted && progress.obtained)

def next (progress : IntakeProgress) (answer : ReviewAnswer) :
    IntakeProgress where
  persisted := progress.persisted || answer.persists
  spoiled := progress.spoiled || answer.spoils
  found := progress.found || answer.findsRun
  inserted := progress.inserted || answer.insertsRun
  read := progress.read || answer.readsRun

theorem of_append (log : List ReviewAnswer) (answer : ReviewAnswer) :
    of (log ++ [answer]) = (of log).next answer := by
  simp [of, next]

end IntakeProgress

/-- One intake: the envelope stored before it, and its answered calls. -/
structure IntakeRecord where
  stored : Option JobPayload
  log : List ReviewAnswer

namespace IntakeRecord

/-- The envelope was not refused, the contract not marked as failed and no
rejection queued. -/
def clean (record : IntakeRecord) : Bool :=
  !(IntakeProgress.of record.log).spoiled

/-- The intake comes to its envelope with a processing run, while the stored
envelope has none. -/
def mismatched (record : IntakeRecord) : Bool :=
  record.stored.any (fun payload => payload.processingRunId.isNone) &&
    (IntakeProgress.of record.log).persisted &&
      (IntakeProgress.of record.log).obtained

end IntakeRecord

/-! ## Assertions about an intake -/

section Assertions

variable {submission : SlackSubmission} {file : AcceptedFile submission}
  {stored : Option JobPayload} {progress : IntakeProgress}
  {fact : ReviewDatabase → Prop}

/-- The submission is consistent, the intake has come as far as `progress`, and
`fact` holds. -/
structure AcceptedFile.At (file : AcceptedFile submission)
    (progress : IntakeProgress) (fact : ReviewDatabase → Prop)
    (state : ReviewWorld × List ReviewAnswer) : Prop where
  consistent : SubmissionConsistent submission file.sha256 state.1.database
  progress : IntakeProgress.of state.2 = progress
  fact : fact state.1.database

/-- What holds at every call. -/
def AcceptedFile.invariant (file : AcceptedFile submission)
    (stored : Option JobPayload)
    (state : ReviewWorld × List ReviewAnswer) : Prop :=
  SubmissionConsistent submission file.sha256 state.1.database ∧
    (IntakeProgress.of state.2).balanced stored = true

/-- The rule system of one intake. -/
def AcceptedFile.monitor (file : AcceptedFile submission)
    (stored : Option JobPayload) : Monitor ReviewCall ReviewCall.Ret Exn :=
  Monitor.ofRespond (Prog.recording file.respond) (file.invariant stored)

theorem AcceptedFile.At.invariant {state : ReviewWorld × List ReviewAnswer}
    (here : file.At progress fact state)
    (balanced : progress.balanced stored = true) :
    file.invariant stored state :=
  ⟨here.consistent, by rw [here.progress, balanced]⟩

/-- The errors that `_process_file` answers with a rejection. -/
def Exn.rejects (error : Exn) : Prop :=
  error.kind = .httpError ∨ error.kind = .valueError

/-- How a part of the intake may fail: an error that leads to a rejection has
spoiled the intake already. -/
def AcceptedFile.Failed (file : AcceptedFile submission)
    (stored : Option JobPayload) (error : Exn)
    (state : ReviewWorld × List ReviewAnswer) : Prop :=
  file.invariant stored state ∧
    (error.rejects → (IntakeProgress.of state.2).spoiled = true)

/-- A fact that other parties and unobtrusive calls leave. -/
def Stable (submission : SlackSubmission) (sha256 : String)
    (fact : ReviewDatabase → Prop) : Prop :=
  ∀ before after, Undisturbed submission sha256 before after →
    fact before → fact after

/-- A call meets the state that other parties have left, and is recorded. -/
theorem AcceptedFile.At.answered {request : ReviewCall}
    {reply : Except Exn request.Ret}
    {choice : Choice × Interference submission file.sha256}
    {state after : ReviewWorld × List ReviewAnswer}
    (here : file.At progress fact state)
    (kept : fact state.1.database →
      fact (choice.2.change state.1).database)
    (run : Prog.recording file.respond choice state request =
      some (reply, after)) :
    ∃ world, file.At progress fact (world, state.2) ∧
      file.allows request choice.1 = true ∧
      ReviewWorld.respond 0 choice.1 world request = some (reply, after.1) ∧
      IntakeProgress.of after.2 = progress.next ⟨request, reply⟩ := by
  obtain ⟨answer, responded, same⟩ := Option.map_eq_some_iff.mp run
  cases same
  unfold AcceptedFile.respond at responded
  split at responded
  · rename_i allowed
    refine ⟨choice.2.change state.1, ⟨?_, here.progress, kept here.fact⟩,
      allowed, responded, ?_⟩
    · exact here.consistent.undisturbed (choice.2.undisturbed state.1)
    · rw [IntakeProgress.of_append, here.progress]
  · cases responded

end Assertions

/-! ## Calls that do not matter -/

/-- Calls that neither persist the envelope nor concern a run of the job. -/
def ReviewCall.closing : ReviewCall → Bool
  | .database (.getRunByJobId _) => false
  | .database (.getRun _) => false
  | call => call.harmless

/-- Calls that neither add to the progress nor touch the submission. -/
def ReviewCall.unobtrusive : ReviewCall → Bool
  | .database (.updateContractStatus _ .analysisFailed) => false
  | .database (.getRunByJobId _) => false
  | .database (.getRun _) => false
  | .slack (.enqueueOutbound intent) =>
      match intent.idempotencyKey with
      | .rejection _ => false
      | _ => true
  | call => call.harmless

/-- Calls whose errors stay without consequence. -/
def ReviewCall.bestEffort : ReviewCall → Bool
  | .database call => call.isMetric
  | .external (.enqueueJob _) => true
  | _ => false

section Unobtrusive

variable {submission : SlackSubmission} {file : AcceptedFile submission}
  {stored : Option JobPayload} {progress : IntakeProgress}
  {fact : ReviewDatabase → Prop} {request : ReviewCall}
  {reply : Except Exn request.Ret} {Value Other : Type}
  {state after : ReviewWorld × List ReviewAnswer}

theorem ReviewCall.closing_of_unobtrusive
    (unobtrusive : request.unobtrusive = true) : request.closing = true := by
  cases request with
  | external call => rfl
  | slack call => cases call <;> first | rfl | cases unobtrusive
  | database call => cases call <;> first | rfl | exact unobtrusive

theorem ReviewCall.harmless_of_closing (closing : request.closing = true) :
    request.harmless = true := by
  unfold ReviewCall.closing at closing
  split at closing
  · rfl
  · rfl
  · exact closing

theorem next_of_closing (closing : request.closing = true) :
    progress.next ⟨request, reply⟩ =
      { progress with spoiled := progress.spoiled ||
                        ReviewAnswer.spoils ⟨request, reply⟩ } := by
  have silent : ReviewAnswer.persists ⟨request, reply⟩ = false ∧
      ReviewAnswer.findsRun ⟨request, reply⟩ = false ∧
      ReviewAnswer.insertsRun ⟨request, reply⟩ = false ∧
      ReviewAnswer.readsRun ⟨request, reply⟩ = false := by
    cases request with
    | external call => exact ⟨rfl, rfl, rfl, rfl⟩
    | slack call | database call =>
        cases call <;> first | exact ⟨rfl, rfl, rfl, rfl⟩ | cases closing
  obtain ⟨persists, finds, inserts, reads⟩ := silent
  simp [IntakeProgress.next, persists, finds, inserts, reads]

theorem spoils_of_unobtrusive (unobtrusive : request.unobtrusive = true) :
    ReviewAnswer.spoils ⟨request, reply⟩ = false := by
  cases request with
  | external call => rfl
  | slack call =>
      cases call with
      | enqueueOutbound intent =>
          simp only [ReviewCall.unobtrusive] at unobtrusive
          simp only [ReviewAnswer.spoils]
          split
          · rename_i rejection
            rw [rejection] at unobtrusive
            cases unobtrusive
          · rfl
      | persistReviewJob => cases unobtrusive
      | _ => rfl
  | database call =>
      cases call with
      | updateContractStatus contractId status =>
          cases status with
          | analysisFailed => cases unobtrusive
          | _ => rfl
      | _ => rfl

theorem next_of_unobtrusive (unobtrusive : request.unobtrusive = true) :
    progress.next ⟨request, reply⟩ = progress := by
  rw [next_of_closing (ReviewCall.closing_of_unobtrusive unobtrusive),
    spoils_of_unobtrusive unobtrusive, Bool.or_false]

/-- Calls after a refusal leave the intake spoiled. -/
theorem AcceptedFile.At.closing
    {choice : Choice × Interference submission file.sha256}
    (here : file.At progress fact state)
    (stable : Stable submission file.sha256 fact)
    (closing : request.closing = true) (spoiled : progress.spoiled = true)
    (run : Prog.recording file.respond choice state request =
      some (reply, after)) : file.At progress fact after := by
  obtain ⟨world, was, _, responded, came⟩ :=
    here.answered (stable _ _ (choice.2.undisturbed _)) run
  have undisturbed : Undisturbed submission file.sha256 world.database
      after.1.database :=
    respond_harmless (ReviewCall.harmless_of_closing closing) responded
  refine ⟨was.consistent.undisturbed undisturbed, came.trans ?_,
    stable _ _ undisturbed was.fact⟩
  rw [next_of_closing closing, spoiled, Bool.true_or, ← spoiled]

theorem AcceptedFile.At.unobtrusive
    {choice : Choice × Interference submission file.sha256}
    (here : file.At progress fact state)
    (stable : Stable submission file.sha256 fact)
    (unobtrusive : request.unobtrusive = true)
    (run : Prog.recording file.respond choice state request =
      some (reply, after)) : file.At progress fact after := by
  obtain ⟨world, was, _, responded, came⟩ :=
    here.answered (stable _ _ (choice.2.undisturbed _)) run
  have undisturbed : Undisturbed submission file.sha256 world.database
      after.1.database :=
    respond_harmless (ReviewCall.harmless_of_closing
      (ReviewCall.closing_of_unobtrusive unobtrusive)) responded
  exact ⟨was.consistent.undisturbed undisturbed,
    came.trans (next_of_unobtrusive unobtrusive),
    stable _ _ undisturbed was.fact⟩

variable {stamp : Stamp} {error : Exn} {program : ReviewProg Value}

theorem enqueueOutbound_error {tables : SlackTables} {intent : OutboundSlackIntent}
    (raised : tables.enqueueOutbound stamp intent = .error error) :
    error.kind = .databaseError := by
  unfold SlackTables.enqueueOutbound at raised
  split at raised
  · cases raised
  · dsimp only at raised
    split at raised
    · cases raised
      rfl
    · split at raised
      · cases raised
        rfl
      · split at raised
        · cases raised
          rfl
        · cases raised

theorem slackBody_error {call : SlackCall} {database : ReviewDatabase}
    (unlike : ∀ key jobId payload, call ≠ .persistReviewJob key jobId payload)
    (raised : database.slackBody stamp call = .error error) :
    error.kind = .databaseError := by
  cases call with
  | enqueueOutbound intent =>
      simp only [ReviewDatabase.slackBody, SlackCall.body] at raised
      cases body : database.slack.enqueueOutbound stamp intent with
      | ok answer =>
          rw [body] at raised
          cases raised
      | error failure =>
          rw [body] at raised
          cases raised
          exact enqueueOutbound_error body
  | persistReviewJob key jobId payload => exact absurd rfl (unlike _ _ _)
  | _ => cases raised

theorem leavesSubmission_error {call : DatabaseCall}
    {database : ReviewDatabase} (leaves : call.leavesSubmission = true) :
    call.body stamp database ≠ .error error := by
  intro raised
  cases call <;> first | cases raised | cases leaves

theorem respondExternal_error {call : ExternalCall} {broker last : Broker} {choice : Choice}
    (injected : ∀ failure, choice ≠ .raise failure ∧ choice ≠ .raiseAfter failure)
    (run : respondExternal stamp broker 0 choice call =
      some (.error error, last)) : error = channelClosed := by
  cases choice with
  | raise failure => exact absurd rfl (injected failure).1
  | raiseAfter failure => exact absurd rfl (injected failure).2
  | proceed =>
      cases call with
      | publishConfirmed | basicAck | basicNack =>
          simp only [respondExternal, respondChannel] at run
          split at run <;> cases run
          rfl
      | _ => cases run
  | _ => cases call <;> cases run

/-- The errors of the calls that may end the intake are not answered with a
rejection. -/
theorem not_rejects_of_allowed {choice : Choice} {world last : ReviewWorld}
    (unobtrusive : request.unobtrusive = true)
    (needed : request.bestEffort = false)
    (allowed : file.allows request choice = true)
    (run : ReviewWorld.respond 0 choice world request = some (reply, last))
    (error : Exn) (raised : reply = .error error) : ¬ error.rejects := by
  subst raised
  cases request with
  | slack call =>
      cases choice with
      | proceed =>
          have unlike (key : String) (jobId : Uuid) (payload : JobPayload) :
              call ≠ .persistReviewJob key jobId payload := by
            rintro rfl
            cases unobtrusive
          simp only [ReviewWorld.respond, ReviewWorld.respondBody] at run
          split at run
          · cases run
          · cases run
            rename_i body
            simp [Exn.rejects, slackBody_error unlike body]
      | _ => cases allowed
  | database call =>
      cases choice with
      | proceed =>
          have leaves : call.leavesSubmission = true :=
            ReviewCall.harmless_of_closing
              (ReviewCall.closing_of_unobtrusive unobtrusive)
          simp only [ReviewWorld.respond, ReviewWorld.respondBody] at run
          split at run
          · cases run
          · exact absurd ‹_› (leavesSubmission_error leaves)
      | _ =>
          exfalso
          cases call <;> first
            | (cases unobtrusive; done)
            | (cases needed; done)
            | cases allowed
  | external call =>
      have answered := (ReviewWorld.respond_external run).2
      have closed : error = channelClosed := by
        refine respondExternal_error ?_ answered
        intro failure
        constructor
        · rintro rfl
          cases call <;> first | (cases allowed; done) | cases needed
        · rintro rfl
          cases call <;> first | (cases allowed; done) | cases needed
      rw [closed]
      simp [Exn.rejects, channelClosed]

/-- A part of the intake that may only end in an error without a rejection. -/
def AcceptedFile.Calm (file : AcceptedFile submission)
    (progress : IntakeProgress) (fact : ReviewDatabase → Prop)
    (result : Except Exn Value) (state : ReviewWorld × List ReviewAnswer) :
    Prop :=
  file.At progress fact state ∧
    ∀ error, result = .error error → ¬ error.rejects

theorem AcceptedFile.Calm.failed
    (calm : file.Calm progress fact (.error error : Except Exn Value) state)
    (balanced : progress.balanced stored = true) :
    file.Failed stored error state :=
  ⟨calm.1.invariant balanced, fun rejects => absurd rejects (calm.2 error rfl)⟩

/-- A program of unobtrusive calls that fails only where one of them does. -/
def AcceptedFile.CalmProg (file : AcceptedFile submission)
    (stored : Option JobPayload) (program : ReviewProg Value) : Prop :=
  ∀ progress fact state, Stable submission file.sha256 fact →
    progress.balanced stored = true → file.At progress fact state →
    (file.monitor stored).Conforms program (file.Calm progress fact) state

theorem calm_pure (value : Value) : file.CalmProg stored (pure value) :=
  fun _ _ _ _ _ here => ⟨here, fun _ impossible => by cases impossible⟩

theorem calm_call (unobtrusive : request.unobtrusive = true)
    (needed : request.bestEffort = false) :
    file.CalmProg stored (Prog.perform request) := by
  intro progress fact state stable balanced here
  refine ⟨here.invariant balanced, ?_⟩
  rintro reply after ⟨choice, answered⟩
  obtain ⟨world, _, allowed, responded, _⟩ :=
    here.answered (stable _ _ (choice.2.undisturbed _)) answered
  exact ⟨here.unobtrusive stable unobtrusive answered,
    not_rejects_of_allowed unobtrusive needed allowed responded⟩

theorem AcceptedFile.CalmProg.bind
    {next : Value → ReviewProg Other} (first : file.CalmProg stored program)
    (then_ : ∀ value, file.CalmProg stored (next value)) :
    file.CalmProg stored (program >>= next) := by
  intro progress fact state stable balanced here
  refine (first progress fact state stable balanced here).bind ?_ ?_
  · intro value after calm
    exact then_ value progress fact after stable balanced calm.1
  · rintro error after ⟨stands, calm⟩
    refine ⟨stands, ?_⟩
    rintro _ ⟨⟩
    exact calm error rfl

theorem AcceptedFile.CalmProg.onlyIf {condition : Bool}
    {program : ReviewProg Unit} (calm : file.CalmProg stored program) :
    file.CalmProg stored (.onlyIf condition program) := by
  cases condition with
  | false => exact calm_pure ()
  | true => exact calm

/-- The rule of sequencing after a calm program. -/
theorem AcceptedFile.CalmProg.step {next : Value → ReviewProg Other}
    {post : Except Exn Other → ReviewWorld × List ReviewAnswer → Prop}
    (calm : file.CalmProg stored program)
    (stable : Stable submission file.sha256 fact)
    (balanced : progress.balanced stored = true)
    (here : file.At progress fact state)
    (continues : ∀ value after, file.At progress fact after →
      (file.monitor stored).Conforms (next value) post after)
    (failed : ∀ error after, file.Failed stored error after →
      post (.error error) after) :
    (file.monitor stored).Conforms (program >>= next) post state :=
  (calm progress fact state stable balanced here).bind
    (fun value after reached => continues value after reached.1)
    fun error after reached => failed error after (reached.failed balanced)

/-- Unobtrusive calls whose errors are caught leave everything as it is. -/
theorem conforms_unobtrusive (calls : program.Calls fun call => call.unobtrusive = true)
    (stable : Stable submission file.sha256 fact)
    (balanced : progress.balanced stored = true)
    (here : file.At progress fact state) :
    (file.monitor stored).Conforms program
      (fun _ after => file.At progress fact after) state := by
  refine Monitor.conforms_of_calls calls ?_ here
  intro state request stands unobtrusive
  refine ⟨stands.invariant balanced, ?_⟩
  rintro reply after ⟨choice, answered⟩
  exact stands.unobtrusive stable unobtrusive answered

/-- Calls on the job outbox that cannot fail. -/
theorem sure_call {call : SlackCall}
    (unobtrusive : ReviewCall.unobtrusive (.slack call) = true)
    (sure : ∀ stamp tables, ∃ answer, call.body stamp tables = .ok answer)
    (stable : Stable submission file.sha256 fact)
    (balanced : progress.balanced stored = true)
    (here : file.At progress fact state) :
    (file.monitor stored).Conforms (callSlack call)
      (fun result after => file.At progress fact after ∧ result.isOk = true)
      state := by
  refine ⟨here.invariant balanced, ?_⟩
  rintro reply after ⟨choice, answered⟩
  refine ⟨here.unobtrusive stable unobtrusive answered, ?_⟩
  obtain ⟨world, _, allowed, responded, _⟩ :=
    here.answered (stable _ _ (choice.2.undisturbed _)) answered
  obtain ⟨tables, body⟩ := sure world.stamp world.database.slack
  rcases choice with ⟨choice, others⟩
  cases choice with
  | proceed =>
      simp only [ReviewWorld.respond, ReviewWorld.respondBody,
        ReviewDatabase.slackBody, body, Except.map] at responded
      rw [← (Prod.mk.inj (Option.some.inj responded)).1]
      rfl
  | _ => cases allowed

end Unobtrusive

/-! ## The parts of the intake -/

section Facts

variable {submission : SlackSubmission} {sha256 : String}

theorem Stable.and {first second : ReviewDatabase → Prop}
    (one : Stable submission sha256 first)
    (two : Stable submission sha256 second) :
    Stable submission sha256 fun database => first database ∧ second database :=
  fun before after undisturbed both =>
    ⟨one before after undisturbed both.1, two before after undisturbed both.2⟩

theorem stable_stored (stored : Option JobPayload) :
    Stable submission sha256 fun database =>
      database.storedEnvelope submission.key = stored :=
  fun _ _ undisturbed same => undisturbed.stored.trans same

theorem stable_contract (ids : Uuid × Uuid) :
    Stable submission sha256 fun database =>
      database.findContract submission.workspaceId sha256 = some ids :=
  fun _ _ undisturbed found => undisturbed.contract ids found

theorem stable_noRun : Stable submission sha256 submission.NoRun := by
  intro before after undisturbed absent runId run found ours
  obtain ⟨earlier, was, sameJob, _⟩ :=
    undisturbed.runs_old runId run found ours
  exact absent runId earlier was (sameJob.trans ours)

theorem stable_hasRun (runId : Option Uuid) :
    Stable submission sha256 fun database =>
      ∀ id, runId = some id → submission.HasRun id database := by
  rintro before after undisturbed has id rfl
  obtain ⟨run, found, ours⟩ := has id rfl
  exact undisturbed.runs_kept id run found ours

/-- Contract and envelope as the intake knows them. -/
def SlackSubmission.Known (submission : SlackSubmission) (sha256 : String)
    (stored : Option JobPayload) (ids : Uuid × Uuid)
    (database : ReviewDatabase) : Prop :=
  database.storedEnvelope submission.key = stored ∧
    database.findContract submission.workspaceId sha256 = some ids

theorem stable_known (stored : Option JobPayload) (ids : Uuid × Uuid) :
    Stable submission sha256 (submission.Known sha256 stored ids) :=
  (stable_stored stored).and (stable_contract ids)

/-- While the job has no run, no stored envelope has one. -/
theorem SubmissionConsistent.without_run {database : ReviewDatabase}
    {stored : JobPayload}
    (consistent : SubmissionConsistent submission sha256 database)
    (absent : submission.NoRun database)
    (found : database.storedEnvelope submission.key = some stored) :
    stored.processingRunId = none := by
  obtain ⟨row, present, rfl⟩ := Option.map_eq_some_iff.mp found
  obtain ⟨_, _, ids, runId, _, payload, runs⟩ :=
    consistent.envelope submission.key row present (.inl rfl)
  rw [payload]
  cases runId with
  | none => rfl
  | some id =>
      obtain ⟨run, ran, ours⟩ := runs id rfl
      exact absurd ours (absent id run ran)

end Facts

section Parts

variable {submission : SlackSubmission} {file : AcceptedFile submission}
  {stored : Option JobPayload} {progress : IntakeProgress}
  {fact : ReviewDatabase → Prop} {ids : Uuid × Uuid} {objectKey : String}
  {state : ReviewWorld × List ReviewAnswer}

/-- What the ingestion of the attachment returns. -/
def AcceptedFile.ingested (file : AcceptedFile submission) (ids : Uuid × Uuid)
    (objectKey : String) : IngestedContract where
  contractId := ids.1
  contractVersionId := ids.2
  workspaceId := submission.workspaceId
  emailThreadId := submission.sourceKey
  sourceChannel := .slack
  requestedBy := submission.accountEmail
  originalFilename := file.live.filename
  mimeType := file.mimeType
  sha256 := file.sha256
  objectKey := objectKey

variable {world after : ReviewWorld} {choice : Choice} {error : Exn} {Value : Type}
  {runId : Option Uuid}

theorem respond_proceed {call : DatabaseCall} {reply : Except Exn call.Ret}
    (needed : call.isMetric = false)
    (notLookup : ∀ jobId, call ≠ .getRunByJobId jobId)
    (allowed : file.allows (.database call) choice = true)
    (run : ReviewWorld.respond 0 choice world (.database call) =
      some (reply, after)) :
    match call.body world.stamp world.database with
    | .ok (value, database) => reply = .ok value ∧ after.database = database
    | .error error => reply = .error error ∧ after.database = world.database := by
  cases choice with
  | proceed =>
      simp only [ReviewWorld.respond, ReviewWorld.respondBody] at run
      split at run
      · rename_i value database body
        obtain ⟨rfl, rfl⟩ := Prod.mk.inj (Option.some.inj run)
        rw [body]
        exact ⟨rfl, rfl⟩
      · rename_i error body
        obtain ⟨rfl, rfl⟩ := Prod.mk.inj (Option.some.inj run)
        rw [body]
        exact ⟨rfl, rfl⟩
  | _ =>
      exfalso
      cases call <;> first
        | exact notLookup _ rfl
        | (cases needed; done)
        | cases allowed

theorem insertContract_error {database : ReviewDatabase} {stamp : Stamp}
    {contract : NewContract}
    (raised : database.insertContract stamp contract = .error error) :
    error.kind = .databaseError := by
  unfold ReviewDatabase.insertContract at raised
  dsimp only at raised
  split at raised
  · cases raised
  · cases raised
    rfl

theorem next_insertContract (contract : NewContract)
    (reply : Except Exn (Uuid × Uuid)) :
    progress.next ⟨.database (.insertContract contract), reply⟩ = progress := by
  simp [IntakeProgress.next, ReviewAnswer.persists, ReviewAnswer.spoils,
    ReviewAnswer.findsRun, ReviewAnswer.insertsRun, ReviewAnswer.readsRun]

/-- The contract of the attachment is found or created. -/
theorem createContractWithVersion_conforms {contract : NewContract}
    (workspace : contract.workspaceId = submission.workspaceId)
    (bytes : contract.sha256 = file.sha256)
    (balanced : progress.balanced stored = true)
    (here : file.At progress
      (fun database => database.storedEnvelope submission.key = stored) state) :
    (file.monitor stored).Conforms (createContractWithVersion contract)
      (fun result after => match result with
        | .ok ids => file.At progress
            (submission.Known file.sha256 stored ids) after
        | .error error => file.Failed stored error after) state := by
  refine Monitor.conforms_bind.mpr ⟨here.invariant balanced, ?_⟩
  rintro reply after ⟨choice, answered⟩
  obtain ⟨world, was, allowed, responded, came⟩ :=
    here.answered (stable_stored _ _ _ (choice.2.undisturbed _)) answered
  have found := respond_proceed rfl (fun _ => by simp) allowed responded
  dsimp only [DatabaseCall.body] at found
  obtain ⟨rfl, same⟩ := found
  have stands : file.At progress
      (fun database => database.storedEnvelope submission.key = stored ∧
        database.findContract submission.workspaceId file.sha256 =
          world.database.findContract submission.workspaceId file.sha256)
      after :=
    ⟨same ▸ was.consistent, came.trans (next_of_unobtrusive rfl),
      same ▸ was.fact, by rw [same]⟩
  rw [workspace, bytes]
  dsimp only
  cases known : world.database.findContract submission.workspaceId
      file.sha256 with
  | some ids =>
      rw [known] at stands
      exact stands
  | none =>
      rw [known] at stands
      refine ⟨stands.invariant balanced, ?_⟩
      rintro reply last ⟨choice, answered⟩
      obtain ⟨world, was, allowed, responded, came⟩ := stands.answered
        (fun both => ⟨(choice.2.undisturbed _).stored.trans both.1,
          (choice.2.sameContract _).trans both.2⟩) answered
      have inserted := respond_proceed rfl (fun _ => by simp) allowed responded
      replace came := came.trans (next_insertContract contract reply)
      cases body : world.database.insertContract world.stamp contract with
      | error error =>
          simp only [DatabaseCall.body, body] at inserted
          obtain ⟨rfl, same⟩ := inserted
          have unchanged : file.At progress (fun _ => True) last :=
            ⟨same ▸ was.consistent, came, trivial⟩
          refine ⟨unchanged.invariant balanced, fun rejects => ?_⟩
          simp [Exn.rejects, insertContract_error body] at rejects
      | ok answer =>
          obtain ⟨ids, database⟩ := answer
          simp only [DatabaseCall.body, body] at inserted
          obtain ⟨rfl, same⟩ := inserted
          obtain ⟨consistent, contract⟩ :=
            was.consistent.insertContract workspace bytes was.fact.2 body
          refine ⟨same ▸ consistent, came, ?_, same ▸ contract⟩
          obtain ⟨_, _, _, _, _, kept⟩ := ReviewDatabase.insertContract_ok body
          rw [same, kept]
          exact was.fact.1

theorem calm_updateContractStatus (contractId : Uuid) :
    file.CalmProg stored (updateContractStatus contractId .queued) :=
  (calm_call rfl rfl).bind fun _ => calm_pure ()

theorem calm_recordAudit (workspaceId : String) (contractId : Uuid)
    (eventType : AuditEventType) :
    file.CalmProg stored (recordAudit workspaceId contractId eventType) :=
  (calm_call rfl rfl).bind fun _ => calm_pure ()

theorem validate_reply {declared : Option String} {reply : Except Exn FileValidation}
    (allowed : file.allows (.external (.validateUploadedFile declared)) choice =
      true)
    (run : ReviewWorld.respond 0 choice world
      (.external (.validateUploadedFile declared)) = some (reply, after)) :
    reply = .ok file.validation := by
  have answered := (ReviewWorld.respond_external run).2
  cases choice with
  | validated validation =>
      obtain rfl : validation = file.validation := of_decide_eq_true allowed
      exact ((Prod.mk.inj (Option.some.inj answered)).1).symm
  | _ => cases allowed

/-- The validation of the attachment, which succeeds. -/
theorem validate_conforms {declared : Option String}
    {next : FileValidation → ReviewProg Value}
    {post : Except Exn Value → ReviewWorld × List ReviewAnswer → Prop}
    (stable : Stable submission file.sha256 fact)
    (balanced : progress.balanced stored = true)
    (here : file.At progress fact state)
    (continues : ∀ after, file.At progress fact after →
      (file.monitor stored).Conforms (next file.validation) post after) :
    (file.monitor stored).Conforms (do
      let validation : FileValidation ←
        callExternal (.validateUploadedFile declared)
      next validation) post state := by
  refine Monitor.conforms_bind.mpr ⟨here.invariant balanced, ?_⟩
  rintro reply after ⟨choice, answered⟩
  obtain ⟨world, _, allowed, responded, _⟩ :=
    here.answered (stable _ _ (choice.2.undisturbed _)) answered
  obtain rfl := validate_reply allowed responded
  exact continues after (here.unobtrusive stable rfl answered)

/-- The ingestion of the attachment. -/
theorem ingestLocalFile_conforms (balanced : progress.balanced stored = true)
    (here : file.At progress
      (fun database => database.storedEnvelope submission.key = stored) state) :
    (file.monitor stored).Conforms
      (ingestLocalFile (submission.request file.live))
      (fun result after => match result with
        | .ok ingestion => ∃ ids objectKey,
            ingestion = .inr (file.ingested ids objectKey) ∧
              file.At progress (submission.Known file.sha256 stored ids) after
        | .error error => file.Failed stored error after) state := by
  refine validate_conforms (stable_stored stored) balanced here ?_
  intro state here
  rw [file.valid, file.sha256_eq, file.mimeType_eq]
  have storing : file.CalmProg stored (storedObject
      (submission.request file.live) file.sha256) := calm_call rfl rfl
  refine storing.step (stable_stored stored) balanced here ?_
    fun _ _ failed => failed
  intro objectKey state here
  refine (createContractWithVersion_conforms rfl rfl balanced here).bind ?_
    fun _ _ failed => failed
  intro ids state here
  have known : Stable submission file.sha256
      (submission.Known file.sha256 stored ids) := stable_known stored ids
  have reading : file.CalmProg stored
      (callDatabase (.getContractSource ids.1)) := calm_call rfl rfl
  refine reading.step known balanced here ?_ fun _ _ failed => failed
  intro source state here
  have sourcing : file.CalmProg stored (Prog.onlyIf (Option.isNone source)
      (callDatabase (.upsertContractSource ids.1 .slack
        submission.sourceKey))) :=
    AcceptedFile.CalmProg.onlyIf (calm_call rfl rfl)
  refine sourcing.step known balanced here ?_ fun _ _ failed => failed
  intro _ state here
  refine (calm_recordAudit _ _ _).step known balanced here ?_
    fun _ _ failed => failed
  intro _ state here
  exact ⟨ids, objectKey, rfl, here⟩

/-- The run of the job is looked up. -/
theorem existingRun_conforms (objectKey : String)
    (here : file.At {} (submission.Known file.sha256 stored ids) state) :
    (file.monitor stored).Conforms (existingRun (submission.request file.live))
      (fun result after => match result with
        | .ok none => file.At {} (fun database =>
            submission.Known file.sha256 stored ids database ∧
              submission.NoRun database) after ∧
            ∀ payload, stored = some payload → payload.processingRunId = none
        | .ok (some run) => file.At { found := true } (fun database =>
            submission.Known file.sha256 stored ids database ∧
              ∀ id, some run.id = some id → submission.HasRun id database)
            after ∧
            run.belongsTo (file.ingested ids objectKey) = true
        | .error error => file.Failed stored error after) state := by
  have balanced : IntakeProgress.balanced stored {} = true := by
    simp [IntakeProgress.balanced, IntakeProgress.obtained]
  refine ⟨here.invariant balanced, ?_⟩
  rintro reply after ⟨choice, answered⟩
  obtain ⟨world, was, allowed, responded, came⟩ :=
    here.answered (stable_known stored ids _ _ (choice.2.undisturbed _)) answered
  obtain ⟨choice, others⟩ := choice
  cases choice with
  | raise error =>
      obtain ⟨rfl, last⟩ := Prod.mk.inj (Option.some.inj responded)
      have unchanged : file.At {} (fun _ => True) after :=
        ⟨last ▸ was.consistent, came, trivial⟩
      refine ⟨unchanged.invariant balanced, fun rejects => ?_⟩
      have kind : error.kind = .databaseError := of_decide_eq_true allowed
      simp [Exn.rejects, kind] at rejects
  | proceed =>
      obtain ⟨replied, last⟩ := Prod.mk.inj (Option.some.inj responded)
      have same : after.1.database = world.database := by rw [← last]
      replace replied : reply =
          .ok (world.database.getRunByJobId submission.reviewJobId) :=
        replied.symm
      cases lookup : world.database.getRunByJobId submission.reviewJobId with
      | none =>
          rw [lookup] at replied
          subst replied
          have absent : submission.NoRun world.database :=
            fun _ _ found => getRunByJobId_none lookup found
          refine ⟨⟨same ▸ was.consistent, came, ?_⟩, ?_⟩
          · rw [same]
            exact ⟨was.fact, absent⟩
          · rintro payload rfl
            exact was.consistent.without_run absent was.fact.1
      | some run =>
          rw [lookup] at replied
          subst replied
          obtain ⟨found, ours⟩ := getRunByJobId_some lookup
          obtain ⟨space, contract⟩ :=
            was.consistent.run_contract run.id run found ours
          obtain rfl := Option.some.inj (was.fact.2.symm.trans contract)
          refine ⟨⟨same ▸ was.consistent, came, ?_⟩, ?_⟩
          · rw [same]
            refine ⟨was.fact, ?_⟩
            rintro _ ⟨⟩
            exact ⟨run, found, ours⟩
          · simp [ProcessingRun.belongsTo, AcceptedFile.ingested, space]
  | _ => cases allowed

/-- The intake is about to persist an envelope with this run. -/
structure AcceptedFile.Prepared (file : AcceptedFile submission)
    (stored : Option JobPayload) (ids : Uuid × Uuid) (runId : Option Uuid)
    (progress : IntakeProgress) : Prop where
  unpersisted : progress.persisted = false
  unspoiled : progress.spoiled = false
  obtained : progress.obtained = runId.isSome
  without : runId = none → ∀ payload, stored = some payload →
    payload.processingRunId = none

/-- Contract, envelope and run as the intake knows them. -/
def SlackSubmission.KnownRun (submission : SlackSubmission) (sha256 : String)
    (stored : Option JobPayload) (ids : Uuid × Uuid) (runId : Option Uuid)
    (database : ReviewDatabase) : Prop :=
  submission.Known sha256 stored ids database ∧
    ∀ id, runId = some id → submission.HasRun id database

theorem stable_knownRun (runId : Option Uuid) :
    Stable submission file.sha256
      (submission.KnownRun file.sha256 stored ids runId) :=
  (stable_known stored ids).and (stable_hasRun runId)

/-- A run is created as far as the metrics allow. -/
theorem queueProcessingRun_conforms
    (without : ∀ payload, stored = some payload →
      payload.processingRunId = none)
    (here : file.At {} (fun database =>
      submission.Known file.sha256 stored ids database ∧
        submission.NoRun database) state) :
    (file.monitor stored).Conforms
      (queueProcessingRun (file.ingested ids objectKey)
        (some submission.reviewJobId))
      (fun result after => ∃ runId progress, result = .ok runId ∧
        file.Prepared stored ids runId progress ∧
        file.At progress (submission.KnownRun file.sha256 stored ids runId)
          after) state := by
  have balanced (inserted read : Bool) : IntakeProgress.balanced stored
      { inserted, read } = true := by
    simp [IntakeProgress.balanced, IntakeProgress.obtained]
  refine Monitor.conforms_handle.mpr (Monitor.conforms_bind.mpr
    ⟨here.invariant (balanced false false), ?_⟩)
  rintro reply after ⟨choice, answered⟩
  obtain ⟨world, was, allowed, responded, came⟩ := here.answered
    (((stable_known stored ids).and stable_noRun) _ _
      (choice.2.undisturbed _)) answered
  rcases (ReviewWorld.respond_database responded).2 with
    ⟨runId, rfl, body⟩ | ⟨refused, same⟩
  · obtain ⟨consistent, contract, envelope, has⟩ :=
      was.consistent.insertRun was.fact.1.2 was.fact.2 body
    have inserted : file.At { inserted := true }
        (submission.KnownRun file.sha256 stored ids (some runId)) after := by
      refine ⟨consistent, came, ⟨envelope.trans was.fact.1.1, contract⟩, ?_⟩
      rintro _ ⟨⟩
      exact has
    refine Monitor.conforms_bind.mpr
      ⟨inserted.invariant (balanced true false), ?_⟩
    rintro reply last ⟨choice, answered⟩
    obtain ⟨world, was, allowed, responded, came⟩ := inserted.answered
      ((stable_knownRun (some runId)) _ _ (choice.2.undisturbed _)) answered
    rcases (ReviewWorld.respond_database responded).2 with
      ⟨found, rfl, body⟩ | ⟨refused, same⟩
    · obtain ⟨run, present, ours⟩ := was.fact.2 runId rfl
      obtain ⟨read, same⟩ := Prod.mk.inj (Except.ok.inj body)
      obtain rfl : found = some run := read.symm.trans present
      obtain rfl : run.id = runId := RowTable.key_of_find? present
      exact ⟨some run.id, { inserted := true, read := true }, rfl,
        ⟨rfl, rfl, rfl, by simp⟩, same ▸ was.consistent, came, same ▸ was.fact⟩
    · cases reply with
      | ok found => cases refused
      | error error =>
          exact ⟨none, { inserted := true }, rfl,
            ⟨rfl, rfl, rfl, fun _ => without⟩, same ▸ was.consistent, came,
            same ▸ ⟨was.fact.1, by simp⟩⟩
  · cases reply with
    | ok runId => cases refused
    | error error =>
        exact ⟨none, {}, rfl, ⟨rfl, rfl, rfl, fun _ => without⟩,
          same ▸ was.consistent, came, same ▸ ⟨was.fact.1, by simp⟩⟩

/-- Recording how a publication went never fails. -/
theorem publishReviewJob_sure (item : SlackReviewJobOutboxItem)
    (stable : Stable submission file.sha256 fact)
    (balanced : progress.balanced stored = true)
    (here : file.At progress fact state) :
    (file.monitor stored).Conforms (publishReviewJob item)
      (fun result after => file.At progress fact after ∧ result.isOk = true)
      state := by
  have sending : Prog.Calls (fun call : ReviewCall => call.unobtrusive = true)
      (do
        let job : ContractReviewJob ← callExternal (.enqueueJob item.payload)
        Prog.onlyIf (job.jobId ≠ item.jobId)
          (.raise (Exn.runtimeError
            "RabbitMQ returned a different stable review job identifier"))) :=
    Prog.Calls.perform rfl fun _ =>
      .onlyIf fun _ => Prog.calls_raise
  refine (conforms_unobtrusive sending stable balanced here).handle ?_
  intro result state here
  have recording {call : SlackCall}
      (unobtrusive : ReviewCall.unobtrusive (.slack call) = true)
      (sure : ∀ stamp tables, ∃ answer, call.body stamp tables = .ok answer) :
      (file.monitor stored).Conforms (do
          let _ ← callSlack call
          pure ())
        (fun result after => file.At progress fact after ∧ result.isOk = true)
        state :=
    (sure_call unobtrusive sure stable balanced here).bind
      (fun _ _ reached => ⟨reached.1, rfl⟩) fun _ _ reached => reached
  cases result with
  | error error => exact recording rfl fun _ _ => ⟨_, rfl⟩
  | ok _ => exact recording rfl fun _ _ => ⟨_, rfl⟩

theorem publishReviewJobs_sure
    (stable : Stable submission file.sha256 fact)
    (balanced : progress.balanced stored = true) :
    ∀ (items : List SlackReviewJobOutboxItem)
      (state : ReviewWorld × List ReviewAnswer),
      file.At progress fact state →
      (file.monitor stored).Conforms (publishReviewJobs items)
        (fun result after => file.At progress fact after ∧ result.isOk = true)
        state
  | [], _, here => ⟨here, rfl⟩
  | item :: items, _, here =>
      (publishReviewJob_sure item stable balanced here).bind
        (fun _ after reached =>
          publishReviewJobs_sure stable balanced items after reached.1)
        fun _ _ reached => reached

theorem drainOnce_sure (limit : Int)
    (stable : Stable submission file.sha256 fact)
    (balanced : progress.balanced stored = true)
    (here : file.At progress fact state) :
    (file.monitor stored).Conforms (drainOnce limit)
      (fun result after => file.At progress fact after ∧ result.isOk = true)
      state := by
  have claiming : (file.monitor stored).Conforms
      (callSlack (.claimDueReviewJobs limit 60))
      (fun result after => file.At progress fact after ∧ result.isOk = true)
      state := sure_call rfl (fun _ _ => ⟨_, rfl⟩) stable balanced here
  refine claiming.bind ?_ fun _ _ reached => reached
  rintro items state ⟨here, _⟩
  exact (publishReviewJobs_sure stable balanced items state here).bind
    (fun _ _ reached => reached) fun _ _ reached => reached

theorem request_durable (live : LiveFile) :
    (submission.request live).durable =
      some (submission.key, submission.reviewJobId) := by
  have named : submission.key ≠ "" := by
    intro empty
    have length := congrArg String.length empty
    simp [SlackSubmission.key, String.length_append] at length
  have kept : truthy (some submission.key) = some submission.key := by
    simp [truthy, Option.filter, named]
  simp [IntakeRequest.durable, SlackSubmission.request, kept]

theorem next_persistReviewJob (key : String) (jobId : Uuid)
    (payload : JobPayload) (reply : Except Exn Unit) :
    progress.next ⟨.slack (.persistReviewJob key jobId payload), reply⟩ =
      { progress with persisted := true
                      spoiled := progress.spoiled || !reply.isOk } := by
  simp [IntakeProgress.next, ReviewAnswer.persists, ReviewAnswer.spoils,
    ReviewAnswer.findsRun, ReviewAnswer.insertsRun, ReviewAnswer.readsRun]
  rfl

theorem balanced_persisted {refused : Bool}
    (spec : (stored.any (fun payload => payload.processingRunId.isNone) &&
      progress.obtained) = refused) :
    IntakeProgress.balanced stored
      { progress with persisted := true, spoiled := refused } = true := by
  subst spec
  simp [IntakeProgress.balanced, IntakeProgress.obtained]

/-- The envelope is refused exactly where that balances the intake. -/
theorem publishSubmission_conforms_retried
    (prepared : file.Prepared stored ids runId progress)
    (here : file.At progress (submission.KnownRun file.sha256 stored ids runId)
      state) :
    (file.monitor stored).Conforms
      (publishSubmission (submission.request file.live)
        (submission.envelope ids runId))
      (fun result after => ∃ later, later.balanced stored = true ∧
        file.At later (fun database => ∀ id, runId = some id →
          submission.HasRun id database) after ∧
        later.spoiled = !result.isOk) state := by
  have balanced : progress.balanced stored = true := by
    simp [IntakeProgress.balanced, prepared.unspoiled, prepared.unpersisted]
  unfold publishSubmission
  rw [request_durable]
  refine Monitor.conforms_bind.mpr ⟨here.invariant balanced, ?_⟩
  rintro reply after ⟨choice, answered⟩
  obtain ⟨world, was, allowed, responded, came⟩ := here.answered
    (stable_knownRun runId _ _ (choice.2.undisturbed _)) answered
  have spec := was.consistent.persist world.stamp was.fact.1.2
    was.fact.2 fun none => by
      rw [was.fact.1.1]
      exact prepared.without none
  rw [was.fact.1.1] at spec
  obtain ⟨choice, others⟩ := choice
  cases choice with
  | proceed =>
      simp only [ReviewWorld.respond, ReviewWorld.respondBody,
        ReviewDatabase.slackBody, SlackCall.body] at responded
      rw [← prepared.obtained] at spec
      replace came := came.trans (next_persistReviewJob _ _ _ reply)
      rw [prepared.unspoiled] at came
      cases persisted : world.database.slack.persistReviewJob world.stamp
          submission.key submission.reviewJobId
          (submission.envelope ids runId) with
      | error error =>
          rw [persisted] at spec responded
          obtain ⟨rfl, last⟩ := Prod.mk.inj (Option.some.inj responded)
          exact ⟨_, balanced_persisted spec, ⟨last ▸ was.consistent, came,
            last ▸ was.fact.2⟩, rfl⟩
      | ok tables =>
          rw [persisted] at spec responded
          obtain ⟨rfl, last⟩ := Prod.mk.inj (Option.some.inj responded)
          have stands : file.At { progress with persisted := true
                                                spoiled := false }
              (fun database => ∀ id, runId = some id →
                submission.HasRun id database) after :=
            ⟨last ▸ spec.1, came, last ▸ was.fact.2⟩
          have balanced : IntakeProgress.balanced stored
              { progress with persisted := true, spoiled := false } = true :=
            balanced_persisted spec.2
          refine (drainOnce_sure 10 (stable_hasRun runId) balanced stands).bind
            (fun _ last reached => ⟨_, balanced, reached.1, rfl⟩) ?_
          rintro error last ⟨_, impossible⟩
          cases impossible
  | _ => cases allowed

/-- Giving the run its job again changes nothing. -/
theorem setRunJobId_conforms {jobId : Uuid} (balanced : progress.balanced stored = true)
    (here : file.At progress (fun database => ∀ id, runId = some id →
      submission.HasRun id database) state) :
    (file.monitor stored).Conforms
      (metricOfRun runId fun runId => do
        let _ ← callDatabase (.setRunJobId runId jobId)
        pure ())
      (fun result after => result.isOk = true ∧
        file.At progress (fun _ => True) after) state := by
  cases runId with
  | none => exact ⟨rfl, here.consistent, here.progress, trivial⟩
  | some runId =>
      refine Monitor.conforms_tryExcept.mpr
        (Monitor.conforms_bind.mpr ⟨here.invariant balanced, ?_⟩)
      rintro reply after ⟨choice, answered⟩
      obtain ⟨world, was, _, responded, came⟩ := here.answered
        (stable_hasRun _ _ _ (choice.2.undisturbed _)) answered
      have stands : file.At progress (fun _ => True) after := by
        refine ⟨?_, came.trans ?_, trivial⟩
        · rcases (ReviewWorld.respond_database responded).2 with
            ⟨answer, _, body⟩ | ⟨_, same⟩
          · obtain ⟨run, found, ours⟩ := was.fact runId rfl
            have same := Prod.mk.inj (Except.ok.inj body)
            rw [← same.2]
            exact was.consistent.undisturbed
              (undisturbed_setRunJobId found (by rw [ours]; rfl))
          · rw [same]
            exact was.consistent
        · simp [IntakeProgress.next, ReviewAnswer.persists, ReviewAnswer.spoils,
            ReviewAnswer.findsRun, ReviewAnswer.insertsRun,
            ReviewAnswer.readsRun]
      cases reply with
      | ok answer => exact ⟨rfl, stands⟩
      | error error => exact ⟨rfl, stands⟩

/-- How the intake of a submission ends. -/
def AcceptedFile.Submitted (file : AcceptedFile submission)
    (stored : Option JobPayload)
    (result : Except Exn ContractProcessingResult)
    (state : ReviewWorld × List ReviewAnswer) : Prop :=
  match result with
  | .ok result => file.invariant stored state ∧ result.contractId.isSome = true
  | .error error => file.Failed stored error state

theorem conforms_spoiled {program : ReviewProg Value}
    (calls : program.Calls fun call => call.closing = true)
    (spoiled : progress.spoiled = true)
    (balanced : progress.balanced stored = true)
    (here : file.At progress (fun _ => True) state) :
    (file.monitor stored).Conforms program
      (fun _ after => file.At progress (fun _ => True) after) state := by
  refine Monitor.conforms_of_calls calls ?_ here
  intro state request stands closing
  refine ⟨stands.invariant balanced, ?_⟩
  rintro reply after ⟨choice, answered⟩
  exact stands.closing (fun _ _ _ _ => trivial) closing spoiled answered

theorem AcceptedFile.At.failed_of_spoiled (here : file.At progress fact state)
    (balanced : progress.balanced stored = true)
    (spoiled : progress.spoiled = true) : file.Failed stored error state :=
  ⟨here.invariant balanced, fun _ => by rw [here.progress, spoiled]⟩

/-- The intake from its envelope on. -/
theorem publishing_conforms (prepared : file.Prepared stored ids runId progress)
    (here : file.At progress (submission.KnownRun file.sha256 stored ids runId)
      state) :
    (file.monitor stored).Conforms
      ((publishSubmission (submission.request file.live)
        (submission.envelope ids runId)).handle fun
        | .error error => do
            metricFailed runId
            updateContractStatus ids.1 .analysisFailed
            recordAudit submission.workspaceId ids.1 .queueFailed
            .raise error
        | .ok jobId => do
            recordAudit submission.workspaceId ids.1 .queued
            metricOfRun runId fun runId => do
              let _ ← callDatabase (.setRunJobId runId jobId)
              pure ()
            pure {
              contractId := ids.1
              contractVersionId := ids.2
              status := .queued
              message := "Contract review has been queued."
              processingRunId := runId })
      (file.Submitted stored) state := by
  refine (publishSubmission_conforms_retried prepared here).handle ?_
  rintro result state ⟨later, balanced, here, spoiled⟩
  cases result with
  | error error =>
      have marking : Prog.Calls (fun call : ReviewCall => call.closing = true)
          (metricFailed runId) :=
        metricOfRun_calls runId fun _ =>
          Prog.Calls.perform rfl fun _ => Prog.calls_pure
      have forgotten : file.At later (fun _ => True) state :=
        ⟨here.consistent, here.progress, trivial⟩
      have failed (error : Exn) (after : ReviewWorld × List ReviewAnswer)
          (here : file.At later (fun _ => True) after) :
          file.Submitted stored (.error error) after :=
        here.failed_of_spoiled balanced spoiled
      refine (conforms_spoiled marking spoiled balanced forgotten).bind ?_
        fun error after => failed error after
      intro _ state here
      have writing : (updateContractStatus ids.1 .analysisFailed).Calls
          fun call => call.closing = true :=
        Prog.Calls.perform rfl fun _ => Prog.calls_pure
      refine (conforms_spoiled writing spoiled balanced here).bind ?_
        fun error after => failed error after
      intro _ state here
      have auditing : (recordAudit submission.workspaceId ids.1
          .queueFailed).Calls fun call => call.closing = true :=
        Prog.Calls.perform rfl fun _ => Prog.calls_pure
      refine (conforms_spoiled auditing spoiled balanced here).bind ?_
        fun error after => failed error after
      intro _ state here
      exact failed error state here
  | ok jobId =>
      refine (calm_recordAudit _ _ _).step (stable_hasRun runId) balanced here
        ?_ fun _ _ failed => failed
      intro _ state here
      refine (setRunJobId_conforms balanced here).bind ?_ ?_
      · rintro _ state ⟨_, here⟩
        exact ⟨here.invariant balanced, rfl⟩
      · rintro _ state ⟨impossible, _⟩
        cases impossible

/-- The intake from the status write on. -/
theorem queueReview_conforms_retried
    (existing : Option ProcessingRun)
    (here : match existing with
      | none => file.At {} (fun database =>
          submission.Known file.sha256 stored ids database ∧
            submission.NoRun database) state ∧
          ∀ payload, stored = some payload → payload.processingRunId = none
      | some run => file.At { found := true }
          (submission.KnownRun file.sha256 stored ids (some run.id)) state) :
    (file.monitor stored).Conforms
      (queueReview (submission.request file.live)
        (file.ingested ids objectKey) existing)
      (file.Submitted stored) state := by
  cases existing with
  | none =>
      obtain ⟨here, without⟩ := here
      refine (calm_updateContractStatus _).step
        ((stable_known stored ids).and stable_noRun)
        (by simp [IntakeProgress.balanced, IntakeProgress.obtained]) here ?_
        fun _ _ failed => failed
      intro _ state here
      refine (queueProcessingRun_conforms without here).bind ?_ ?_
      · rintro _ state ⟨runId, progress, ⟨⟩, prepared, here⟩
        exact publishing_conforms prepared here
      · rintro _ state ⟨runId, progress, impossible, _⟩
        cases impossible
  | some run =>
      refine (calm_updateContractStatus _).step (stable_knownRun _)
        (by simp [IntakeProgress.balanced, IntakeProgress.obtained]) here ?_
        fun _ _ failed => failed
      intro _ state here
      exact publishing_conforms ⟨rfl, rfl, rfl, by simp⟩ here

theorem calm_executionStatus (request : IntakeRequest) :
    file.CalmProg stored (executionStatus request) := by
  unfold executionStatus
  split
  · exact calm_call rfl rfl
  · exact calm_pure none

/-- A completed submission is only reported. -/
theorem completedSubmission_conforms {run : Option ProcessingRun}
    (stable : Stable submission file.sha256 fact)
    (balanced : progress.balanced stored = true)
    (here : file.At progress fact state) :
    (file.monitor stored).Conforms
      (completedSubmission (file.ingested ids objectKey) run)
      (file.Submitted stored) state := by
  have reading : file.CalmProg stored
      (callDatabase (.getContractReview ids.1 ids.2)) := calm_call rfl rfl
  refine reading.step stable balanced here ?_ fun _ _ failed => failed
  intro review state here
  have status : file.CalmProg stored
      (callDatabase (.getContractStatus ids.1)) := calm_call rfl rfl
  refine status.step stable balanced here ?_ fun _ _ failed => failed
  intro status state here
  exact ⟨here.invariant balanced, rfl⟩

/-- The intake after the ingestion. -/
theorem submitIngested_conforms
    (here : file.At {} (submission.Known file.sha256 stored ids) state) :
    (file.monitor stored).Conforms
      (submitIngested (submission.request file.live)
        (file.ingested ids objectKey))
      (file.Submitted stored) state := by
  have balanced (found : Bool) :
      IntakeProgress.balanced stored { found } = true := by
    simp [IntakeProgress.balanced, IntakeProgress.obtained]
  refine (calm_executionStatus _).step (stable_known stored ids)
    (balanced false) here ?_ fun _ _ failed => failed
  intro status state here
  refine (existingRun_conforms objectKey here).bind ?_
    fun _ _ failed => failed
  intro existing state here
  cases existing with
  | none =>
      split
      · exact completedSubmission_conforms
          ((stable_known stored ids).and stable_noRun) (balanced false) here.1
      · exact queueReview_conforms_retried none here
  | some run =>
      obtain ⟨here, belongs⟩ := here
      split
      · exact completedSubmission_conforms (stable_knownRun (some run.id))
          (balanced true) here
      · dsimp only
        rw [belongs, if_neg (by simp)]
        split
        · exact ⟨here.invariant (balanced true), rfl⟩
        · exact queueReview_conforms_retried (some run) here

/-- The intake of an accepted attachment. -/
theorem enqueueLocalFile_conforms_retried
    (here : file.At {}
      (fun database => database.storedEnvelope submission.key = stored) state) :
    (file.monitor stored).Conforms
      (enqueueLocalFile (submission.request file.live))
      (file.Submitted stored) state := by
  have balanced : IntakeProgress.balanced stored {} = true := by
    simp [IntakeProgress.balanced, IntakeProgress.obtained]
  refine (ingestLocalFile_conforms balanced here).bind ?_
    fun _ _ failed => failed
  rintro _ state ⟨ids, objectKey, rfl, here⟩
  exact submitIngested_conforms here

/-- The `try` body of `_process_file`. -/
theorem submitSlackFile_conforms
    (here : file.At {}
      (fun database => database.storedEnvelope submission.key = stored) state) :
    (file.monitor stored).Conforms (submitSlackFile submission file.live)
      (fun result after => match result with
        | .ok _ => file.invariant stored after
        | .error error => file.Failed stored error after) state := by
  have balanced : IntakeProgress.balanced stored {} = true := by
    simp [IntakeProgress.balanced, IntakeProgress.obtained]
  have downloading : file.CalmProg stored
      (callExternal (.downloadSlackFile file.live.url)) := calm_call rfl rfl
  refine downloading.step (stable_stored stored) balanced here ?_
    fun _ _ failed => failed
  intro _ state here
  refine validate_conforms (stable_stored stored) balanced here ?_
  intro state here
  rw [file.valid]
  have receiving : file.CalmProg stored (callSlack (.enqueueOutbound {
      workspaceId := submission.workspaceId
      installationId := submission.installationId
      channelId := submission.channelId
      threadTs := submission.threadTs
      messageType := .receipt
      textBody := (SlackRendering.receiptMessage file.live.filename).1
      blocks := some (SlackRendering.receiptMessage file.live.filename).2
      idempotencyKey := .receipt submission.key })) := calm_call rfl rfl
  refine receiving.step (stable_stored stored) balanced here ?_
    fun _ _ failed => failed
  intro _ state here
  refine (enqueueLocalFile_conforms_retried here).bind ?_ fun _ _ failed => failed
  rintro result state ⟨stands, contract⟩
  refine .onlyIf (fun absent => ?_) fun _ => stands
  rw [Option.isNone_iff_eq_none] at absent
  rw [absent] at contract
  cases contract

theorem queueRejection_calls (message : String) :
    (queueRejection submission message).Calls
      fun call => call.closing = true :=
  Prog.Calls.perform rfl fun _ => Prog.calls_pure

theorem filesInfo_reply {fileId : String} {reply : Except Exn LiveFile}
    (allowed : file.allows (.external (.filesInfo fileId)) choice = true)
    (run : ReviewWorld.respond 0 choice world (.external (.filesInfo fileId)) =
      some (reply, after)) : reply = .ok file.live := by
  have answered := (ReviewWorld.respond_external run).2
  cases choice with
  | described live =>
      obtain rfl : live = file.live := of_decide_eq_true allowed
      exact ((Prod.mk.inj (Option.some.inj answered)).1).symm
  | _ => cases allowed

theorem filesInfo_conforms {fileId : String} {next : LiveFile → ReviewProg Value}
    {post : Except Exn Value → ReviewWorld × List ReviewAnswer → Prop}
    (stable : Stable submission file.sha256 fact)
    (balanced : progress.balanced stored = true)
    (here : file.At progress fact state)
    (continues : ∀ after, file.At progress fact after →
      (file.monitor stored).Conforms (next file.live) post after) :
    (file.monitor stored).Conforms (do
      let live : LiveFile ← callExternal (.filesInfo fileId)
      next live) post state := by
  refine Monitor.conforms_bind.mpr ⟨here.invariant balanced, ?_⟩
  rintro reply after ⟨choice, answered⟩
  obtain ⟨world, _, allowed, responded, _⟩ :=
    here.answered (stable _ _ (choice.2.undisturbed _)) answered
  obtain rfl := filesInfo_reply allowed responded
  exact continues after (here.unobtrusive stable rfl answered)

/-- A rejection is queued only by an intake that is spoiled already. -/
theorem recover_conforms {message : String} (failed : file.Failed stored error state) :
    (file.monitor stored).Conforms
      (if error.kind = .httpError ∨ error.kind = .valueError then
        queueRejection submission message
      else
        .raise error)
      (fun _ after => file.invariant stored after) state := by
  obtain ⟨⟨consistent, balanced⟩, spoils⟩ := failed
  split
  · rename_i rejects
    have here : file.At (IntakeProgress.of state.2) (fun _ => True) state :=
      ⟨consistent, rfl, trivial⟩
    exact (conforms_spoiled (queueRejection_calls message) (spoils rejects)
      balanced here).mono fun _ _ here => here.invariant balanced
  · exact ⟨consistent, balanced⟩

/-- The handling of an accepted attachment. -/
theorem processFile_conforms
    (here : file.At {}
      (fun database => database.storedEnvelope submission.key = stored) state) :
    (file.monitor stored).Conforms (processFile submission)
      (fun _ after => file.invariant stored after) state := by
  have balanced : IntakeProgress.balanced stored {} = true := by
    simp [IntakeProgress.balanced, IntakeProgress.obtained]
  unfold processFile
  rw [file.fileId_eq]
  refine filesInfo_conforms (stable_stored stored) balanced here ?_
  intro state here
  rw [if_neg (not_lt.mpr file.small)]
  have creating : file.CalmProg stored (callExternal .createTempFile) :=
    calm_call rfl rfl
  refine creating.step (stable_stored stored) balanced here ?_
    fun _ _ failed => failed.1
  intro _ state here
  have submitting : (file.monitor stored).Conforms
      ((submitSlackFile submission file.live).tryExcept fun error =>
        if error.kind = .httpError ∨ error.kind = .valueError then
          queueRejection submission (file.live.filename ++
            " could not be downloaded or validated: " ++ error.message)
        else
          .raise error)
      (fun _ after => file.invariant stored after) state :=
    (submitSlackFile_conforms here).tryExcept (fun _ _ stands => stands)
      fun error after failed => recover_conforms failed
  refine submitting.tryFinally ?_
  rintro result state ⟨consistent, balanced⟩
  have here : file.At (IntakeProgress.of state.2) (fun _ => True) state :=
    ⟨consistent, rfl, trivial⟩
  have unlinking : (callExternal .unlinkFile).Calls
      fun call => call.unobtrusive = true := Prog.calls_perform rfl
  refine (conforms_unobtrusive unlinking (fun _ _ _ _ => trivial) balanced
    here).mono ?_
  intro final last here
  cases final with
  | ok _ => exact here.invariant balanced
  | error error => exact here.invariant balanced

end Parts

/-! ## Every retry -/

/-- The intakes of a submission, one after the other, as far as each of them got. -/
inductive Retries {submission : SlackSubmission}
    (file : AcceptedFile submission) (start : ReviewWorld) :
    List IntakeRecord → ReviewWorld → Prop where
  | start : Retries file start [] start
  | others {records : List IntakeRecord} {world after : ReviewWorld}
      (before : Retries file start records world)
      (undisturbed : Undisturbed submission file.sha256 world.database
        after.database) : Retries file start records after
  | intake {records : List IntakeRecord} {world after : ReviewWorld}
      {choices : List (Choice × Interference submission file.sha256)}
      {rest : ReviewProg Unit} {log : List ReviewAnswer}
      (before : Retries file start records world)
      (run : (processFile submission).advance (Prog.recording file.respond)
        (world, []) choices = some (rest, (after, log))) :
      Retries file start (records ++
        [⟨world.database.storedEnvelope submission.key, log⟩]) after

/-- A database without any trace of the submission. -/
structure Unsubmitted (submission : SlackSubmission)
    (database : ReviewDatabase) : Prop where
  owned : database.VersionsOwned
  noRun : submission.NoRun database
  noEnvelope : ∀ key row, database.slack.jobs.find? key = some row →
    key ≠ submission.key ∧ row.jobId ≠ submission.reviewJobId

theorem Unsubmitted.consistent {submission : SlackSubmission}
    {database : ReviewDatabase} (fresh : Unsubmitted submission database)
    (sha256 : String) : SubmissionConsistent submission sha256 database where
  owned := fresh.owned
  run_contract := fun runId run found ours =>
    absurd ours (fresh.noRun runId run found)
  run_unique := fun firstId first _ _ found _ ours _ =>
    absurd ours (fresh.noRun firstId first found)
  envelope := fun key row found ours => by
    obtain ⟨otherKey, otherJob⟩ := fresh.noEnvelope key row found
    exact (ours.elim otherKey otherJob).elim

/-- One intake keeps the submission consistent, and is clean exactly when it is
not mismatched. -/
theorem intake_record {submission : SlackSubmission}
    {file : AcceptedFile submission} {world after : ReviewWorld}
    {choices : List (Choice × Interference submission file.sha256)}
    {rest : ReviewProg Unit} {log : List ReviewAnswer}
    (consistent : SubmissionConsistent submission file.sha256 world.database)
    (run : (processFile submission).advance (Prog.recording file.respond)
      (world, []) choices = some (rest, (after, log))) :
    SubmissionConsistent submission file.sha256 after.database ∧
      let record : IntakeRecord :=
        ⟨world.database.storedEnvelope submission.key, log⟩
      (record.clean = true ↔ record.mismatched = false) := by
  have here : file.At {} (fun database =>
      database.storedEnvelope submission.key =
        world.database.storedEnvelope submission.key) (world, []) :=
    ⟨consistent, rfl, rfl⟩
  have conforms := processFile_conforms here
  obtain ⟨stands, balanced⟩ := conforms.keeps choices run
  refine ⟨stands, ?_⟩
  have same : (IntakeProgress.of log).spoiled =
      IntakeRecord.mismatched
        ⟨world.database.storedEnvelope submission.key, log⟩ :=
    eq_of_beq balanced
  simp [IntakeRecord.clean, same]

/-- However often a submission is taken in again, an intake stays clean exactly
if it does not bring a processing run to an envelope stored without one. -/
theorem retries_clean_iff {submission : SlackSubmission}
    (file : AcceptedFile submission) {start world : ReviewWorld}
    {records : List IntakeRecord}
    (fresh : Unsubmitted submission start.database)
    (retries : Retries file start records world) :
    ∀ record ∈ records, record.clean = true ↔ record.mismatched = false := by
  suffices kept : SubmissionConsistent submission file.sha256 world.database ∧
      ∀ record ∈ records, record.clean = true ↔ record.mismatched = false from
    kept.2
  induction retries with
  | start => exact ⟨fresh.consistent _, by simp⟩
  | others before undisturbed induction =>
      exact ⟨induction.1.undisturbed undisturbed, induction.2⟩
  | intake before run induction =>
      obtain ⟨consistent, clean⟩ := intake_record induction.1 run
      refine ⟨consistent, ?_⟩
      intro record member
      rw [List.mem_append, List.mem_singleton] at member
      rcases member with old | rfl
      · exact induction.2 record old
      · exact clean

/-! ## A refused retry -/

def sampleSubmission : SlackSubmission where
  eventId := "E1"
  fileId := some "F1"
  fileIndex := 0
  installationId := "I1"
  workspaceId := "W1"
  accountEmail := "ana@example.com"
  channelId := "C1"
  threadTs := "T1"
  sourceKey := "slack:C1:T1"
  reviewJobId := ⟨0, 1⟩
  maxFileSizeMb := 25

def sampleFile : AcceptedFile sampleSubmission where
  live := { filename := "lease.pdf" }
  validation := sampleValidation
  fileId := "F1"
  sha256 := "00"
  mimeType := "application/pdf"
  fileId_eq := by decide
  small := by decide
  valid := rfl
  sha256_eq := by decide
  mimeType_eq := by decide

def sampleStart : ReviewWorld where
  database := default
  calls := 1

/-- Choices of an intake without interference. -/
def undisturbedChoices (choices : List Choice) :
    List (Choice × Interference sampleSubmission sampleFile.sha256) :=
  choices.map fun choice => (choice, .none _ _)

/-- The first intake cannot create its processing run and stops after its
envelope is persisted. -/
def sampleFirstIntake :
    Option (ReviewProg Unit × (ReviewWorld × List ReviewAnswer)) :=
  (processFile sampleSubmission).advance (Prog.recording sampleFile.respond)
    (sampleStart, []) (undisturbedChoices
      ([.described sampleFile.live, .proceed, .proceed,
        .validated sampleValidation, .proceed, .validated sampleValidation,
        .stored "W1/00"] ++ List.replicate 8 .proceed ++
        [.raise ⟨.databaseError, "timeout"⟩, .proceed]))

theorem sampleFirstIntake_isSome : sampleFirstIntake.isSome := by
  decide

/-- The retry creates the run, so its envelope differs. -/
def sampleSecondIntake :
    Option (ReviewProg Unit × (ReviewWorld × List ReviewAnswer)) :=
  (processFile sampleSubmission).advance (Prog.recording sampleFile.respond)
    ((sampleFirstIntake.get sampleFirstIntake_isSome).2.1, [])
    (undisturbedChoices
      ([.described sampleFile.live, .proceed, .proceed,
        .validated sampleValidation, .proceed, .validated sampleValidation,
        .stored "W1/00"] ++ List.replicate 13 .proceed))

theorem sampleSecondIntake_isSome : sampleSecondIntake.isSome := by
  decide

def sampleRecord : IntakeRecord where
  stored := (sampleFirstIntake.get
    sampleFirstIntake_isSome).2.1.database.storedEnvelope sampleSubmission.key
  log := (sampleSecondIntake.get sampleSecondIntake_isSome).2.2

theorem sampleStart_unsubmitted :
    Unsubmitted sampleSubmission sampleStart.database where
  owned := by
    intro version member
    cases member
  noRun := by
    intro runId run found
    cases found
  noEnvelope := by
    intro key row found
    cases found

theorem sampleRetries : ∃ record, Retries sampleFile sampleStart
    [record, sampleRecord]
    (sampleSecondIntake.get sampleSecondIntake_isSome).2.1 := by
  refine ⟨_, Retries.intake (Retries.intake .start
    (Option.some_get sampleFirstIntake_isSome).symm)
    (Option.some_get sampleSecondIntake_isSome).symm⟩

theorem retries_clean_iff_sample :
    sampleRecord.clean = true ↔ sampleRecord.mismatched = false := by
  obtain ⟨record, retries⟩ := sampleRetries
  exact retries_clean_iff sampleFile sampleStart_unsubmitted retries
    sampleRecord (by simp)

/-- Every intake would stay clean: the retry here is refused. -/
theorem retry_refused :
    ¬ ∀ (submission : SlackSubmission) (file : AcceptedFile submission)
      (start world : ReviewWorld) (records : List IntakeRecord),
      Unsubmitted submission start.database →
      Retries file start records world →
      ∀ record ∈ records, record.clean = true := by
  intro clean
  obtain ⟨record, retries⟩ := sampleRetries
  have kept := clean sampleSubmission sampleFile sampleStart _ _
    sampleStart_unsubmitted retries sampleRecord (by simp)
  revert kept
  decide

end ContractMate
