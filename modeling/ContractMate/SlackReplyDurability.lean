import ContractMate.ReviewExecutions
import ContractMate.ReviewFootprints

/-!
# What a delivery commits of its reply

On a PostgreSQL connection without autocommit the reply of a review and the
completion of its execution are written inside a transaction that a bare read has
opened, so closing the connection discards them.
-/

namespace ContractMate

open SessionTransaction

/-! ## What the finished delivery should have left -/

namespace ReviewAnswer

/-- `claim_review_execution` handed out the lease. -/
def claims (key : String) : ReviewAnswer → Bool
  | ⟨.slack (.claimReviewExecution submissionKey _), reply⟩ =>
      match (reply : Except Exn SlackLeaseClaim) with
      | .ok claim => submissionKey = key && claim.status = .claimed
      | .error _ => false
  | _ => false

/-- `complete_review_execution` succeeded, which only the owner's call does. -/
def completes (key : String) : ReviewAnswer → Bool
  | ⟨.slack (.completeReviewExecution submissionKey _), reply⟩ =>
      match (reply : Except Exn Bool) with
      | .ok completed => submissionKey = key && completed
      | .error _ => false
  | _ => false

/-- The delivery was acknowledged, directly or after its dead-lettering. -/
def acknowledges : ReviewAnswer → Bool
  | ⟨.external .basicAck, reply⟩ => reply.isOk
  | _ => false

def closes : ReviewAnswer → Bool
  | ⟨.external .closeService, reply⟩ => reply.isOk
  | _ => false

end ReviewAnswer

/-- The delivery claimed the execution, owned it to the end, was acknowledged and
closed its connection. -/
def ownedToTheEnd (key : String) (log : List ReviewAnswer) : Bool :=
  log.any (ReviewAnswer.claims key) && log.any (ReviewAnswer.completes key) &&
    log.any ReviewAnswer.acknowledges && log.any ReviewAnswer.closes

/-- The review or failure message of a job is queued and its execution is
completed. -/
def replyDurable (job : ContractReviewJob) (key : String)
    (database : ReviewDatabase) : Bool :=
  ((database.slack.outboundWithKey (.review job.replySource)).isSome ||
      (database.slack.outboundWithKey (.failure job.replySource)).isSome) &&
    database.slack.getReviewExecutionStatus key = some .completed

/-! ## The connection through a delivery -/

/-- What is known of the connection: before the claim whether it is idle, after
it whether a read has opened a transaction, and whether the completion was
written there. -/
inductive ConnectionPhase where
  | unclaimed (idle : Bool)
  | claimed (opened : Bool)
  | completed
  | ended

namespace ConnectionPhase

/-- A completion is only written inside an open transaction, and no repository
call follows it. -/
def permitted (key : String) : ConnectionPhase → ReviewCall → Prop
  | unclaimed idle, .slack (.claimReviewExecution submissionKey _) =>
      idle = true ∧ submissionKey = key
  | unclaimed _, _ => True
  | claimed _, .slack (.claimReviewExecution _ _) => False
  | claimed opened, .slack (.completeReviewExecution _ _) => opened = true
  | claimed _, _ => True
  | completed, .external _ => True
  | _, _ => False

/-- Whether a transaction is open after a call of the database. -/
def stillOpen (opened : Bool) : BlockKind → Bool
  | .bare => true
  | .commits => false
  | .nested => opened

def next : ConnectionPhase → (request : ReviewCall) →
    Except Exn request.Ret → ConnectionPhase
  | unclaimed _, .slack (.claimReviewExecution _ _), reply =>
      match (reply : Except Exn SlackLeaseClaim) with
      | .ok claim =>
          if claim.status = .claimed then claimed false else unclaimed false
      | .error _ => unclaimed false
  | unclaimed _, .external .openService, _ => unclaimed true
  | unclaimed _, .external .closeService, _ => ended
  | unclaimed _, _, _ => unclaimed false
  | claimed opened, .slack (.completeReviewExecution _ _), reply =>
      match (reply : Except Exn Bool) with
      | .ok true => completed
      | _ => claimed opened
  | claimed opened, .database call, _ => claimed (stillOpen opened call.kind)
  | claimed _, .external .openService, _ => ended
  | claimed _, .external .closeService, _ => ended
  | claimed opened, _, _ => claimed opened
  | completed, .external .openService, _ => ended
  | completed, .external .closeService, _ => ended
  | completed, _, _ => completed
  | ended, _, _ => ended

end ConnectionPhase

def connectionMonitor (key : String) :
    Monitor ReviewCall ReviewCall.Ret Exn where
  Phase := ConnectionPhase
  permitted := ConnectionPhase.permitted key
  answers := fun phase request reply after => after = phase.next request reply

/-- The execution is not completed. -/
def unfinished (key : String) (database : ReviewDatabase) : Prop :=
  database.slack.execution key ≠ .completed

/-- What a phase says of the connection and of the calls answered so far. -/
def connectionHolds (key : String) :
    ConnectionPhase → SessionWorld × List ReviewAnswer → Prop
  | .unclaimed idle, (world, log) =>
      (idle = true → world.session.Idle) ∧
        log.any (ReviewAnswer.claims key) = false
  | .claimed opened, (world, _) =>
      world.session.Holds (unfinished key) ∧
        (opened = true → ¬ world.session.Idle)
  | .completed, (world, _) =>
      unfinished key world.session.committed ∧ ¬ world.session.Idle
  | .ended, (world, log) =>
      log.any (ReviewAnswer.claims key) = true →
        unfinished key world.session.committed

section Preservation

variable {key : String} {world after : SessionWorld} {choice : Choice}
  {delivery : Nat} {log : List ReviewAnswer}

/-- A Slack call other than the completion keeps the execution unfinished. -/
theorem slackBody_unfinished {call : SlackCall} {stamp : Stamp}
    (unlike : ∀ token, call ≠ .completeReviewExecution key token)
    {store result : ReviewDatabase} {value : call.Ret}
    (open_ : unfinished key store)
    (run : store.slackBody stamp call = .ok (value, result)) :
    unfinished key result := by
  rw [(slackBody_ok run).2]
  exact SlackCall.execution_ne_completed open_ unlike

theorem databaseBody_unfinished {call : DatabaseCall} {stamp : Stamp}
    {store result : ReviewDatabase} {value : call.Ret}
    (open_ : unfinished key store)
    (run : call.body stamp store = .ok (value, result)) :
    unfinished key result := by
  unfold unfinished
  rw [DatabaseCall.slack_of_body run]
  exact open_

/-- The claim is committed at once, on an execution that is not completed. -/
theorem claim_preserved {submissionKey : String} {leaseSeconds : Int}
    {claim : SlackLeaseClaim} {fault : Option (Fault Exn)}
    (idle : world.session.Idle)
    (quiet : log.any (ReviewAnswer.claims submissionKey) = false)
    (ran : world.session.nested inFailedTransaction (fun database =>
        database.slackBody world.stamp
          (.claimReviewExecution submissionKey leaseSeconds)) fault =
      (.ok claim, after.session)) :
    connectionHolds submissionKey
      ((ConnectionPhase.unclaimed true).next
        (.slack (.claimReviewExecution submissionKey leaseSeconds)) (.ok claim))
      (after, log ++
        [⟨.slack (.claimReviewExecution submissionKey leaseSeconds),
          .ok claim⟩]) := by
  by_cases claimed : claim.status = .claimed
  · obtain ⟨result, answered, committed⟩ := Session.nested_ok_of_idle idle ran
    have next : (ConnectionPhase.unclaimed true).next
        (.slack (.claimReviewExecution submissionKey leaseSeconds))
        (.ok claim) = .claimed false := by
      simp [ConnectionPhase.next, claimed]
    rw [next]
    refine ⟨?_, by simp⟩
    rw [committed]
    refine .opened ?_
    obtain ⟨⟨tables, body⟩, same⟩ := slackBody_ok answered
    have leased := (SlackCall.execution_of_claimed body claimed).2.2
      submissionKey
    rw [← SlackCall.after_eq_of_body body] at leased
    rw [same]
    unfold unfinished
    rw [leased, if_pos rfl]
    simp
  · have next : (ConnectionPhase.unclaimed true).next
        (.slack (.claimReviewExecution submissionKey leaseSeconds))
        (.ok claim) = .unclaimed false := by
      simp [ConnectionPhase.next, claimed]
    rw [next]
    exact ⟨by simp, by simp [quiet, ReviewAnswer.claims, claimed]⟩

variable {request : ReviewCall} {reply : Except Exn request.Ret}

/-- Before the claim: the connection is idle once it is open. -/
theorem unclaimed_preserved {idle : Bool}
    (holds : connectionHolds key (.unclaimed idle) (world, log))
    (permitted : (ConnectionPhase.unclaimed idle).permitted key request)
    (run : SessionWorld.respond delivery choice world request =
      some (reply, after)) :
    connectionHolds key ((ConnectionPhase.unclaimed idle).next request reply)
      (after, log ++ [⟨request, reply⟩]) := by
  obtain ⟨isIdle, quiet⟩ := holds
  cases request with
  | slack call =>
      cases call with
      | claimReviewExecution submissionKey leaseSeconds =>
          obtain ⟨ready, rfl⟩ := permitted
          obtain ⟨fault, ran⟩ := SessionWorld.respond_slack run
          cases reply with
          | error error =>
              exact ⟨by simp, by simp [quiet, ReviewAnswer.claims]⟩
          | ok claim =>
              exact claim_preserved (isIdle ready) quiet ran
      | _ => exact ⟨by simp, by simp [quiet, ReviewAnswer.claims]⟩
  | database call => exact ⟨by simp, by simp [quiet, ReviewAnswer.claims]⟩
  | external call =>
      have session := SessionWorld.respond_external run
      cases call with
      | openService =>
          refine ⟨fun _ => ?_, by simp [quiet, ReviewAnswer.claims]⟩
          rw [session]
          rfl
      | closeService =>
          intro claimed
          simp [quiet, ReviewAnswer.claims] at claimed
      | _ => exact ⟨by simp, by simp [quiet, ReviewAnswer.claims]⟩

/-- After the claim: nothing but the completion completes the execution. -/
theorem claimed_preserved {opened : Bool}
    (holds : connectionHolds key (.claimed opened) (world, log))
    (permitted : (ConnectionPhase.claimed opened).permitted key request)
    (run : SessionWorld.respond delivery choice world request =
      some (reply, after)) :
    connectionHolds key ((ConnectionPhase.claimed opened).next request reply)
      (after, log ++ [⟨request, reply⟩]) := by
  obtain ⟨stores, busy⟩ := holds
  cases request with
  | slack call =>
      obtain ⟨fault, ran⟩ := SessionWorld.respond_slack run
      have stays : opened = true → ¬ after.session.Idle := fun isOpen =>
        (Session.nested_of_not_idle (busy isOpen) ran).2
      cases call with
      | claimReviewExecution submissionKey leaseSeconds => cases permitted
      | completeReviewExecution submissionKey leaseToken =>
          obtain rfl : opened = true := permitted
          have kept := Session.nested_of_not_idle (busy rfl) ran
          match reply with
          | .ok true =>
              refine ⟨?_, kept.2⟩
              rw [kept.1]
              exact stores.1
          | .ok false =>
              refine ⟨stores.nested ?_ ran, stays⟩
              rintro store value result unfinished_ ⟨⟩ answered
              obtain ⟨⟨tables, body⟩, same⟩ := slackBody_ok answered
              rw [same, SlackCall.after_eq_of_body body]
              unfold unfinished
              rw [SlackCall.execution_of_refused body]
              exact unfinished_
          | .error error =>
              refine ⟨stores.nested ?_ ran, stays⟩
              rintro store value result unfinished_ ⟨⟩
      | _ =>
          refine ⟨stores.nested ?_ ran, stays⟩
          intro store value result open_ _ answered
          exact slackBody_unfinished (by simp) open_ answered
  | database call =>
      obtain ⟨fault, ran⟩ := SessionWorld.respond_database run
      simp only [ConnectionPhase.next]
      cases kind : call.kind with
      | bare =>
          rw [kind] at ran
          exact ⟨stores.bare (fun _ _ _ open_ _ => databaseBody_unfinished open_)
            ran, fun _ => Session.bare_not_idle ran⟩
      | commits =>
          rw [kind] at ran
          exact ⟨stores.commits
            (fun _ _ _ open_ _ => databaseBody_unfinished open_) ran, by simp [ConnectionPhase.stillOpen]⟩
      | nested =>
          rw [kind] at ran
          exact ⟨stores.nested
            (fun _ _ _ open_ _ => databaseBody_unfinished open_) ran,
            fun isOpen => (Session.nested_of_not_idle (busy isOpen) ran).2⟩
  | external call =>
      have session := SessionWorld.respond_external run
      have committed : unfinished key after.session.committed := by
        rw [session, SessionWorld.sessionAfter_committed]
        exact stores.1
      cases call with
      | openService => exact fun _ => committed
      | closeService => exact fun _ => committed
      | _ =>
          refine ⟨?_, fun isOpen => ?_⟩
          · rw [session]
            exact stores
          · rw [session]
            exact busy isOpen

/-- After the completion: only the close ends the open transaction. -/
theorem completed_preserved (holds : connectionHolds key .completed (world, log))
    (permitted : ConnectionPhase.completed.permitted key request)
    (run : SessionWorld.respond delivery choice world request =
      some (reply, after)) :
    connectionHolds key (ConnectionPhase.completed.next request reply)
      (after, log ++ [⟨request, reply⟩]) := by
  obtain ⟨unfinished_, busy⟩ := holds
  cases request with
  | slack call => cases permitted
  | database call => cases permitted
  | external call =>
      have session := SessionWorld.respond_external run
      have committed : unfinished key after.session.committed := by
        rw [session, SessionWorld.sessionAfter_committed]
        exact unfinished_
      cases call with
      | openService => exact fun _ => committed
      | closeService => exact fun _ => committed
      | _ =>
          refine ⟨committed, ?_⟩
          rw [session]
          exact busy

/-- What the phases say holds through every permitted call. -/
theorem connection_preserved {phase : ConnectionPhase}
    (holds : connectionHolds key phase (world, log))
    (permitted : phase.permitted key request)
    (run : SessionWorld.respond delivery choice world request =
      some (reply, after)) :
    connectionHolds key (phase.next request reply)
      (after, log ++ [⟨request, reply⟩]) := by
  cases phase with
  | unclaimed idle => exact unclaimed_preserved holds permitted run
  | claimed opened => exact claimed_preserved holds permitted run
  | completed => exact completed_preserved holds permitted run
  | ended => cases request <;> cases permitted

end Preservation

/-! ## The handler keeps to the phases -/

section Conformance

variable {key : String} {Value : Type}

def ConnectionPhase.Unclaimed (phase : ConnectionPhase) : Prop :=
  ∃ idle, phase = .unclaimed idle

def ConnectionPhase.Claimed (phase : ConnectionPhase) : Prop :=
  ∃ opened, phase = .claimed opened

variable {program : ReviewProg Value} {phase : ConnectionPhase}

theorem conforms_unclaimed
    (calls : program.Calls ReviewCall.steady) (inside : phase.Unclaimed) :
    (connectionMonitor key).Conforms program
      (fun _ after => ConnectionPhase.Unclaimed after) phase := by
  refine Monitor.conforms_of_calls calls ?_ inside
  rintro _ request ⟨idle, rfl⟩ steady
  cases request with
  | slack call | external call =>
      cases call <;> first
        | exact steady.elim
        | exact ⟨trivial, fun _ _ same => ⟨false, same⟩⟩
  | database call => exact ⟨trivial, fun _ _ same => ⟨false, same⟩⟩

theorem conforms_claimed
    (calls : program.Calls ReviewCall.steady) (inside : phase.Claimed) :
    (connectionMonitor key).Conforms program
      (fun _ after => ConnectionPhase.Claimed after) phase := by
  refine Monitor.conforms_of_calls calls ?_ inside
  rintro _ request ⟨opened, rfl⟩ steady
  cases request with
  | slack call | external call =>
      cases call <;> first
        | exact steady.elim
        | exact ⟨trivial, fun _ _ same => ⟨opened, same⟩⟩
  | database call => exact ⟨trivial, fun _ _ same => ⟨_, same⟩⟩

theorem conforms_completed (calls : program.Calls ReviewCall.settling) :
    (connectionMonitor key).Conforms program
      (fun _ after => after = ConnectionPhase.completed)
      ConnectionPhase.completed := by
  refine Monitor.conforms_of_calls calls ?_ rfl
  rintro _ request rfl settles
  cases request with
  | slack call => exact settles.elim
  | database call => exact settles.elim
  | external call =>
      cases call <;> first
        | exact settles.elim
        | exact ⟨trivial, fun _ _ same => same⟩

/-- The phase between two calls of the reply: the read has opened a
transaction. -/
def replied (result : Except Exn Unit) (phase : ConnectionPhase) : Prop :=
  match result with
  | .ok _ => phase = .claimed true
  | .error _ => phase.Claimed

/-- A read of the version, then the message: whatever the message is, the
transaction is open when it is queued. -/
theorem reply_conforms {job : ContractReviewJob}
    {intent : Option ContractVersionView → OutboundSlackIntent}
    (inside : phase.Claimed) :
    (connectionMonitor key).Conforms (do
      let row : Option ContractVersionView ← callDatabase
        (.getContractVersion job.contractId job.contractVersionId)
      let _ ← callSlack (.enqueueOutbound (intent row))
      pure ()) replied phase := by
  obtain ⟨opened, rfl⟩ := inside
  refine Monitor.conforms_bind.mpr ⟨trivial, ?_⟩
  rintro reply _ rfl
  cases reply with
  | error error => exact ⟨_, rfl⟩
  | ok row =>
      refine Monitor.conforms_bind.mpr ⟨trivial, ?_⟩
      rintro reply _ rfl
      cases reply with
      | error error => exact ⟨_, rfl⟩
      | ok id => rfl

theorem slack_of_submission {job : ContractReviewJob}
    (submission : job.slackSubmission = some key) :
    job.sourceChannel = .slack := by
  unfold ContractReviewJob.slackSubmission at submission
  split at submission
  · assumption
  · cases submission

section Handler

variable {settings : WorkerSettings} {job : ContractReviewJob}
  {phase : ConnectionPhase} {token : Uuid}

theorem queueSlackReview_conforms (target : job.replyTarget.isSome)
    (result : ContractProcessingResult) (inside : phase.Claimed) :
    (connectionMonitor key).Conforms (queueSlackReview settings job result)
      replied phase := by
  obtain ⟨⟨installationId, channelId, threadTs⟩, found⟩ :=
    Option.isSome_iff_exists.mp target
  unfold queueSlackReview
  rw [found]
  exact reply_conforms inside

theorem queueSlackFailure_conforms (target : job.replyTarget.isSome)
    (inside : phase.Claimed) :
    (connectionMonitor key).Conforms (queueSlackFailure job) replied phase := by
  obtain ⟨⟨installationId, channelId, threadTs⟩, found⟩ :=
    Option.isSome_iff_exists.mp target
  unfold queueSlackFailure
  rw [found]
  exact reply_conforms inside

theorem queueSlackReply_conforms (target : job.replyTarget.isSome)
    (result : ContractProcessingResult) (inside : phase.Claimed) :
    (connectionMonitor key).Conforms
      (queueSlackReply settings job (some token) result) replied phase := by
  refine (conforms_claimed (renewExecution_calls job _) inside).bind ?_
    fun _ _ reached => reached
  intro owned middle reached
  split
  · exact reached
  · split
    · exact queueSlackReview_conforms target result reached
    · exact queueSlackFailure_conforms target reached

/-- How a completion ends the phases. -/
def concluded (result : Except Exn Unit) (phase : ConnectionPhase) : Prop :=
  match result with
  | .ok _ => phase = .completed
  | .error _ => phase.Claimed

theorem completeExecution_conforms :
    (connectionMonitor key).Conforms (completeExecution job (some token))
      concluded (ConnectionPhase.claimed true) := by
  refine Monitor.conforms_bind.mpr ⟨rfl, ?_⟩
  rintro reply _ rfl
  match reply with
  | .ok true => exact rfl
  | .ok false => exact ⟨true, rfl⟩
  | .error _ => exact ⟨true, rfl⟩

theorem reviewAndReply_conforms (slack : job.sourceChannel = .slack)
    (target : job.replyTarget.isSome) (inside : phase.Claimed) :
    (connectionMonitor key).Conforms
      (reviewAndReply settings job (some token)) concluded phase := by
  have review := (reviewStoredContract_calls settings job.processingRunId
    job.contractId job.contractVersionId job.workspaceId).mono
      fun _ => ReviewCall.reviewing.steady
  refine (conforms_claimed review inside).bind ?_ fun _ _ reached => reached
  intro result middle reached
  have email : (Prog.onlyIf job.sendReviewEmail (queueReviewEmail job)).Calls
      ReviewCall.steady :=
    .onlyIf fun _ => queueReviewEmail_calls job
  refine (conforms_claimed email reached).bind ?_ fun _ _ reached => reached
  intro _ middle reached
  have reply : (connectionMonitor key).Conforms
      (Prog.onlyIf (job.sourceChannel = .slack)
        (queueSlackReply settings job (some token) result)) replied middle :=
    .onlyIf (fun _ => queueSlackReply_conforms target result reached)
      fun other => by simp [slack] at other
  refine reply.bind ?_ fun _ _ reached => reached
  rintro _ _ rfl
  exact completeExecution_conforms

/-- How the `try` body ends. -/
def attempted (result : Except Exn (WorkerLocals × Except Exn Flow))
    (phase : ConnectionPhase) : Prop :=
  match result with
  | .ok (_, .ok .completed) => phase = .completed
  | .ok (_, .ok .returned) => phase.Unclaimed
  | .ok (locals, .error _) =>
      (phase.Unclaimed ∧ locals.slackExecution = none) ∨ phase.Claimed
  | .error _ => False

theorem attemptOwned_conforms (slack : job.sourceChannel = .slack)
    (target : job.replyTarget.isSome) (submissionKey : String)
    (inside : phase.Claimed) :
    (connectionMonitor key).Conforms
      (attemptOwned settings job submissionKey token) attempted phase := by
  have heartbeat : (callExternal (.createHeartbeat submissionKey token)).Calls
      ReviewCall.steady := Prog.calls_perform trivial
  refine (conforms_claimed heartbeat inside).handle ?_
  intro created middle reached
  cases created with
  | error error => exact .inr reached
  | ok _ =>
      have start : (callExternal .startHeartbeat).Calls ReviewCall.steady :=
        Prog.calls_perform trivial
      have body : (connectionMonitor key).Conforms (do
          let _ ← callExternal .startHeartbeat
          reviewAndReply settings job (some token)) concluded middle :=
        (conforms_claimed start reached).bind
          (fun _ _ reached => reviewAndReply_conforms slack target reached)
          fun _ _ reached => reached
      refine body.handle ?_
      intro result after ended
      cases result with
      | ok _ => exact ended
      | error error => exact .inr ended

theorem conforms_returned {program : ReviewProg Unit}
    (calls : program.Calls ReviewCall.settling) (inside : phase.Unclaimed) :
    (connectionMonitor key).Conforms
      (settleBody ⟨true, none, false⟩ .returned program) attempted phase := by
  have steady := calls.mono fun _ => ReviewCall.settling.steady
  refine (conforms_unclaimed steady inside).handle ?_
  intro result after reached
  cases result with
  | ok _ => exact reached
  | error error => exact .inl ⟨reached, rfl⟩

theorem attemptDelivery_conforms (submission : job.slackSubmission = some key)
    (target : job.replyTarget.isSome) :
    (connectionMonitor key).Conforms (attemptDelivery settings job) attempted
      (ConnectionPhase.unclaimed false) := by
  have slack : job.sourceChannel = .slack :=
    slack_of_submission submission
  refine Monitor.conforms_perform_handle.mpr ⟨trivial, ?_⟩
  rintro opened _ rfl
  cases opened with
  | error error => exact .inl ⟨⟨_, rfl⟩, rfl⟩
  | ok _ =>
      dsimp only
      rw [submission]
      refine Monitor.conforms_perform_handle.mpr ⟨⟨rfl, rfl⟩, ?_⟩
      rintro claimed _ rfl
      cases claimed with
      | error error => exact .inl ⟨⟨_, rfl⟩, rfl⟩
      | ok claim =>
          obtain ⟨status, leaseToken, reviewJobId⟩ := claim
          cases status with
          | claimed =>
              cases leaseToken with
              | none => exact .inr ⟨_, rfl⟩
              | some token =>
                  exact attemptOwned_conforms slack target key ⟨_, rfl⟩
          | busy =>
              exact conforms_returned (republish_calls _ _) ⟨_, rfl⟩
          | completed => exact conforms_returned ackDelivery_calls ⟨_, rfl⟩

/-- The handler of an attempt without a claim makes steady calls only. -/
theorem recoverDelivery_calls {locals : WorkerLocals}
    (unclaimed : locals.slackExecution = none) :
    (recoverDelivery settings job locals).Calls ReviewCall.steady := by
  obtain ⟨service, _, heartbeat⟩ := locals
  obtain rfl : _ = none := unclaimed
  refine (renewExecution_calls job none).bind fun owned => ?_
  split
  · exact ackDelivery_calls.mono fun _ => ReviewCall.settling.steady
  · refine Prog.Calls.bind ?_ fun _ =>
      (retryDelivery_calls settings job).mono fun _ => ReviewCall.settling.steady
    unfold failAttempt
    split
    · refine ((markAnalysisFailed_calls _ _ _).mono
        fun _ => ReviewCall.reviewing.steady).bind fun _ => ?_
      exact (Prog.Calls.onlyIf fun _ => queueSlackFailure_calls job).bind
        fun _ => Prog.calls_pure
    · exact Prog.calls_pure

/-- After the failure handler the completion is written or nothing is. -/
def failed (result : Except Exn Unit) (phase : ConnectionPhase) : Prop :=
  phase.Claimed ∨ (phase = .completed ∧ result = .ok ())

theorem failAttempt_conforms (slack : job.sourceChannel = .slack)
    (target : job.replyTarget.isSome) {locals : WorkerLocals}
    (claimed : locals.slackExecution = some token) (inside : phase.Claimed) :
    (connectionMonitor key).Conforms (failAttempt settings job locals) failed
      phase := by
  unfold failAttempt
  rw [claimed]
  split
  · have mark := (markAnalysisFailed_calls job.processingRunId job.contractId
      job.workspaceId).mono fun _ => ReviewCall.reviewing.steady
    refine (conforms_claimed mark inside).bind ?_ fun _ _ reached => .inl reached
    intro _ middle reached
    have reply : (connectionMonitor key).Conforms
        (Prog.onlyIf (job.sourceChannel = .slack) (queueSlackFailure job))
        replied middle :=
      .onlyIf (fun _ => queueSlackFailure_conforms target reached)
        fun other => by simp [slack] at other
    refine reply.bind ?_ fun _ _ reached => .inl reached
    rintro _ _ rfl
    refine Monitor.conforms_bind.mpr ⟨rfl, ?_⟩
    rintro reply _ rfl
    match reply with
    | .ok true => exact .inr ⟨rfl, rfl⟩
    | .ok false => exact .inl ⟨true, rfl⟩
    | .error _ => exact .inl ⟨true, rfl⟩
  · have release : (callSlack (.releaseReviewExecution job.executionKey
        token)).Calls ReviewCall.steady := Prog.calls_perform trivial
    exact (conforms_claimed release inside).bind
      (fun _ _ reached => .inl reached) fun _ _ reached => .inl reached

/-- A phase before the service is closed. -/
def ConnectionPhase.Live (phase : ConnectionPhase) : Prop :=
  phase.Unclaimed ∨ phase.Claimed ∨ phase = .completed

theorem conforms_settling {program : ReviewProg Unit}
    (calls : program.Calls ReviewCall.settling) (inside : phase.Live) :
    (connectionMonitor key).Conforms program
      (fun _ after => ConnectionPhase.Live after) phase := by
  have steady := calls.mono fun _ => ReviewCall.settling.steady
  rcases inside with unclaimed | claimed | rfl
  · exact (conforms_unclaimed steady unclaimed).mono
      fun _ _ reached => .inl reached
  · exact (conforms_claimed steady claimed).mono
      fun _ _ reached => .inr (.inl reached)
  · exact (conforms_completed calls).mono fun _ _ reached => .inr (.inr reached)

theorem recoverDelivery_conforms (slack : job.sourceChannel = .slack)
    (target : job.replyTarget.isSome) (locals : WorkerLocals)
    (inside : phase.Claimed) :
    (connectionMonitor key).Conforms (recoverDelivery settings job locals)
      (fun _ after => ConnectionPhase.Live after) phase := by
  cases claimed : locals.slackExecution with
  | none =>
      exact (conforms_claimed (recoverDelivery_calls claimed) inside).mono
        fun _ _ reached => .inr (.inl reached)
  | some token =>
  refine (conforms_claimed (renewExecution_calls job _) inside).bind ?_
    fun _ _ reached => .inr (.inl reached)
  intro owned middle reached
  split
  · exact conforms_settling ackDelivery_calls (.inr (.inl reached))
  · refine (failAttempt_conforms slack target claimed reached).bind ?_ ?_
    · intro _ after ended
      refine conforms_settling (retryDelivery_calls settings job) ?_
      rcases ended with claimed | ⟨completed, _⟩
      · exact .inr (.inl claimed)
      · exact .inr (.inr completed)
    · rintro error after (claimed | ⟨_, ⟨⟩⟩)
      exact .inr (.inl claimed)

theorem closeDelivery_conforms (locals : WorkerLocals) (inside : phase.Live) :
    (connectionMonitor key).Conforms (closeDelivery locals)
      (fun _ _ => True) phase := by
  have stop : (connectionMonitor key).Conforms
      (Prog.onlyIf locals.heartbeat (callExternal .stopHeartbeat))
      (fun _ after => ConnectionPhase.Live after) phase := by
    refine .onlyIf (fun _ => ⟨?_, ?_⟩) fun _ => inside
    · rcases inside with ⟨idle, rfl⟩ | ⟨opened, rfl⟩ | rfl <;> trivial
    · rintro reply _ rfl
      rcases inside with ⟨idle, rfl⟩ | ⟨opened, rfl⟩ | rfl
      · exact .inl ⟨_, rfl⟩
      · exact .inr (.inl ⟨_, rfl⟩)
      · exact .inr (.inr rfl)
  refine stop.bind ?_ fun _ _ _ => trivial
  intro _ middle reached
  refine .onlyIf (fun _ => ⟨?_, fun _ _ _ => trivial⟩) fun _ => trivial
  rcases reached with ⟨idle, rfl⟩ | ⟨opened, rfl⟩ | rfl <;> trivial

/-- The handler of a Slack job keeps to the phases of the connection. -/
theorem processDelivery_conforms (submission : job.slackSubmission = some key)
    (target : job.replyTarget.isSome) :
    (connectionMonitor key).Conforms (processDelivery settings job)
      (fun _ _ => True) (ConnectionPhase.unclaimed false) := by
  have slack : job.sourceChannel = .slack :=
    slack_of_submission submission
  refine (attemptDelivery_conforms submission target).bind ?_
    fun _ _ ended => ended.elim
  rintro ⟨locals, flow⟩ middle ended
  have settling : (connectionMonitor key).Conforms
      (settleDelivery settings job locals flow)
      (fun _ after => ConnectionPhase.Live after) middle := by
    match flow with
    | .ok .returned => exact .inl ended
    | .ok .completed =>
        exact conforms_settling ackDelivery_calls (.inr (.inr ended))
    | .error _ =>
        rcases ended with ⟨unclaimed, none⟩ | claimed
        · exact (conforms_unclaimed (recoverDelivery_calls none) unclaimed).mono
            fun _ _ reached => .inl reached
        · exact recoverDelivery_conforms slack target locals claimed
  refine settling.tryFinally ?_
  intro result after live
  refine (closeDelivery_conforms locals live).mono ?_
  intro final last _
  cases final <;> trivial

end Handler

end Conformance

/-- No run of the handler leaves a committed reply with a completed execution,
although it claimed the execution, owned it to the end and was acknowledged. -/
theorem slackReply_never_durable (settings : WorkerSettings)
    (job : ContractReviewJob) (key : String)
    (submission : job.slackSubmission = some key)
    (target : job.replyTarget.isSome) (delivery : Nat) (world : SessionWorld)
    (choices : List Choice) (result : Except Exn Unit) (after : SessionWorld)
    (log : List ReviewAnswer)
    (run : (processDelivery settings job).finish
      (Prog.recording (SessionWorld.respond delivery)) (world, []) choices =
        some (result, (after, log)))
    (owned : ownedToTheEnd key log = true) :
    replyDurable job key after.session.committed = false := by
  have claimed : log.any (ReviewAnswer.claims key) = true := by
    simp only [ownedToTheEnd, Bool.and_eq_true] at owned
    exact owned.1.1.1
  have preserves (phase : ConnectionPhase)
      (state : SessionWorld × List ReviewAnswer) (request : ReviewCall)
      (choice : Choice) (reply : Except Exn request.Ret)
      (last : SessionWorld × List ReviewAnswer)
      (holds : connectionHolds key phase state)
      (permitted : phase.permitted key request)
      (answered : Prog.recording (SessionWorld.respond delivery) choice state
        request = some (reply, last)) :
      ∃ next, next = phase.next request reply ∧ connectionHolds key next last := by
    obtain ⟨answer, responded, same⟩ := Option.map_eq_some_iff.mp answered
    cases same
    exact ⟨_, rfl, connection_preserved holds permitted responded⟩
  obtain ⟨phase, holds, _⟩ := Monitor.Conforms.finish preserves choices
    (processDelivery_conforms submission target)
    (show connectionHolds key (.unclaimed false) (world, []) from
      ⟨by simp, rfl⟩) run
  have unfinished_ : unfinished key after.session.committed := by
    cases phase with
    | unclaimed idle => exact absurd holds.2 (by simp [claimed])
    | claimed opened => exact holds.1.1
    | completed => exact holds.1
    | ended => exact holds claimed
  have status : after.session.committed.slack.getReviewExecutionStatus key ≠
      some .completed := fun done =>
    unfinished_ (getReviewExecutionStatus_eq_completed_iff.mp done)
  simp [replyDurable, status]

/-- The delivery of a job whose contract is already reviewed. -/
def sampleSession : SessionWorld where
  session := Session.opened reviewedDatabase
  broker := { unacked := [(0, sampleJob)] }

/-- The run in which no call fails. -/
def sampleDelivery : Option
    (Except Exn Unit × (SessionWorld × List ReviewAnswer)) :=
  (processDelivery {} sampleJob).finish
    (Prog.recording (SessionWorld.respond 0)) (sampleSession, [])
    (List.replicate 14 .proceed)

theorem sampleDelivery_isSome : sampleDelivery.isSome := by
  decide

theorem slackReply_never_durable_sample :
    replyDurable sampleJob "E1:F1"
      (sampleDelivery.get sampleDelivery_isSome).2.1.session.committed =
        false :=
  slackReply_never_durable {} sampleJob "E1:F1" rfl (by decide) 0
    sampleSession (List.replicate 14 .proceed)
    (sampleDelivery.get sampleDelivery_isSome).1
    (sampleDelivery.get sampleDelivery_isSome).2.1
    (sampleDelivery.get sampleDelivery_isSome).2.2
    (Option.some_get sampleDelivery_isSome).symm (by decide)

/-- Every finished delivery of an owned execution would leave its reply
durable: it does not, even when no call fails. -/
theorem slackReply_lost :
    ¬ ∀ (settings : WorkerSettings) (job : ContractReviewJob) (key : String),
      job.slackSubmission = some key → job.replyTarget.isSome →
      ∀ (delivery : Nat) (world : SessionWorld) (choices : List Choice)
        (result : Except Exn Unit) (after : SessionWorld)
        (log : List ReviewAnswer),
        (processDelivery settings job).finish
          (Prog.recording (SessionWorld.respond delivery)) (world, [])
            choices = some (result, (after, log)) →
        ownedToTheEnd key log = true →
        replyDurable job key after.session.committed = true := by
  intro durable
  have claimed := durable {} sampleJob "E1:F1" rfl (by decide) 0 sampleSession
    (List.replicate 14 .proceed) _ _ _
    (Option.some_get sampleDelivery_isSome).symm (by decide)
  revert claimed
  decide

end ContractMate
