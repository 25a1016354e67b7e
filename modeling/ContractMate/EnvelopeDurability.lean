import ContractMate.ReviewFootprints
import ContractMate.ReviewJobOutbox

/-!
# What is committed when an envelope is published

On a PostgreSQL connection the dispatcher publishes an envelope whose row and
lease are committed, unless the intake has just created a processing run: reading
that run back opens the transaction in which the envelope is then written.
-/

namespace ContractMate

open SessionTransaction

namespace ReviewAnswer

/-- The run of this intake was inserted. -/
def insertsRun : ReviewAnswer → Bool
  | ⟨.database (.insertRun _ _ _ _ _), reply⟩ => reply.isOk
  | _ => false

/-- The envelopes handed to the dispatcher. -/
def claimedItems : ReviewAnswer → List SlackReviewJobOutboxItem
  | ⟨.slack (.claimDueReviewJobs _ _), reply⟩ =>
      match (reply : Except Exn (List SlackReviewJobOutboxItem)) with
      | .ok items => items
      | .error _ => []
  | _ => []

end ReviewAnswer

/-- The envelope that is being published is committed, with exactly this payload
and under the lease of its claim. -/
def envelopeDurable (payload : JobPayload) (log : List ReviewAnswer)
    (database : ReviewDatabase) : Bool :=
  (log.flatMap ReviewAnswer.claimedItems).any fun item =>
    item.payload = payload && database.slack.publishing item

/-- The payload of a program that is about to call `queue.enqueue`. -/
def publication {Value : Type} : ReviewProg Value → Option JobPayload
  | .call (.external (.enqueueJob payload)) _ => some payload
  | _ => none

/-- Every lease token in the job outbox was drawn before call number `count`. -/
def tokensBefore (count : Nat) (database : ReviewDatabase) : Prop :=
  ∀ key row token, database.slack.jobs.find? key = some row →
    row.leaseToken = some token → token.call < count

/-! ## The connection through an intake -/

/-- How far an intake is, as its connection sees it. -/
inductive EnvelopePhase where
  | early
  | queued
  | inserted
  | opened
  | unsure
  | kept
  | publishing (durable : Bool) (items : List SlackReviewJobOutboxItem)
  | ended

namespace EnvelopePhase

def permitted : EnvelopePhase → ReviewCall → Prop
  | early, .database (.insertRun _ _ _ _ _) => False
  | early, .database _ => True
  | early, .slack (.getReviewExecutionStatus _) => True
  | early, .external (.validateUploadedFile _) => True
  | early, .external (.storeContractFile _ _) => True
  | queued, .database (.insertRun _ _ _ _ _) => True
  | queued, .slack (.persistReviewJob _ _ _) => True
  | inserted, .database (.getRun _) => True
  | opened, .slack (.persistReviewJob _ _ _) => True
  | opened, .slack (.claimDueReviewJobs _ _) => True
  | unsure, .slack (.persistReviewJob _ _ _) => True
  | kept, .slack (.claimDueReviewJobs _ _) => True
  | publishing _ (item :: _), .external (.enqueueJob payload) =>
      payload = item.payload
  | publishing _ (item :: _), .slack (.markReviewJobPublished key token) =>
      key = item.submissionKey ∧ token = item.leaseToken
  | publishing _ (item :: _), .slack (.retryReviewJobPublish key token _) =>
      key = item.submissionKey ∧ token = item.leaseToken
  | publishing _ [], .database _ => True
  | ended, .database _ => True
  | _, _ => False

def next : EnvelopePhase → (request : ReviewCall) →
    Except Exn request.Ret → EnvelopePhase
  | early, .database (.updateContractStatus _ .queued), reply =>
      if reply.isOk then queued else early
  | early, _, _ => early
  | queued, .database _, reply => if reply.isOk then inserted else unsure
  | queued, _, reply => if reply.isOk then kept else ended
  | inserted, _, _ => opened
  | opened, .slack (.claimDueReviewJobs _ _), reply =>
      match (reply : Except Exn (List SlackReviewJobOutboxItem)) with
      | .ok items => publishing false items
      | .error _ => ended
  | opened, _, reply => if reply.isOk then opened else ended
  | unsure, _, reply => if reply.isOk then kept else ended
  | kept, .slack (.claimDueReviewJobs _ _), reply =>
      match (reply : Except Exn (List SlackReviewJobOutboxItem)) with
      | .ok items => publishing true items
      | .error _ => ended
  | kept, _, _ => ended
  | publishing durable (item :: items), .external _, _ =>
      publishing durable (item :: items)
  | publishing durable (_ :: items), _, reply =>
      if reply.isOk then publishing durable items else ended
  | publishing _ [], _, _ => ended
  | ended, _, _ => ended

end EnvelopePhase

def envelopeMonitor : Monitor ReviewCall ReviewCall.Ret Exn where
  Phase := EnvelopePhase
  permitted := EnvelopePhase.permitted
  answers := fun phase request reply after => after = phase.next request reply

/-- What a phase says of the connection and of the calls answered so far;
`start` is the number of the first call. -/
def envelopeHolds (start : Nat) :
    EnvelopePhase → SessionWorld × List ReviewAnswer → Prop
  | .early, (world, log) =>
      world.session.Holds (tokensBefore start) ∧ start ≤ world.calls ∧
        log.any ReviewAnswer.insertsRun = false ∧
        log.flatMap ReviewAnswer.claimedItems = []
  | .queued, (world, log) =>
      world.session.Idle ∧
        world.session.Holds (tokensBefore start) ∧ start ≤ world.calls ∧
        log.any ReviewAnswer.insertsRun = false ∧
        log.flatMap ReviewAnswer.claimedItems = []
  | .inserted, (world, log) =>
      tokensBefore start world.session.committed ∧ start ≤ world.calls ∧
        log.any ReviewAnswer.insertsRun = true ∧
        log.flatMap ReviewAnswer.claimedItems = []
  | .opened, (world, log) =>
      ¬ world.session.Idle ∧
        tokensBefore start world.session.committed ∧ start ≤ world.calls ∧
        log.any ReviewAnswer.insertsRun = true ∧
        log.flatMap ReviewAnswer.claimedItems = []
  | .unsure, (world, log) =>
      (∀ working, world.session.txn ≠ .active working) ∧
        log.any ReviewAnswer.insertsRun = false
  | .kept, (world, log) =>
      world.session.Idle ∧ log.any ReviewAnswer.insertsRun = false
  | .publishing true items, (world, log) =>
      world.session.Idle ∧ log.any ReviewAnswer.insertsRun = false ∧
        (items.map SlackReviewJobOutboxItem.submissionKey).Nodup ∧
        ∀ item ∈ items, item ∈ log.flatMap ReviewAnswer.claimedItems ∧
          world.session.committed.slack.publishing item = true
  | .publishing false _, (world, log) =>
      ¬ world.session.Idle ∧
        tokensBefore start world.session.committed ∧
        log.any ReviewAnswer.insertsRun = true ∧
        ∀ item ∈ log.flatMap ReviewAnswer.claimedItems,
          start ≤ item.leaseToken.call
  | .ended, _ => True

section Preservation

variable {start delivery : Nat} {world after : SessionWorld} {choice : Choice}
  {log : List ReviewAnswer}

theorem databaseBody_tokens {call : DatabaseCall} {stamp : Stamp}
    {store result : ReviewDatabase} {value : call.Ret}
    (tokens : tokensBefore start store)
    (run : call.body stamp store = .ok (value, result)) :
    tokensBefore start result := by
  unfold tokensBefore
  rw [DatabaseCall.slack_of_body run]
  exact tokens

/-- A call of the database keeps the tokens of every store of its session. -/
theorem database_tokens {call : DatabaseCall} {reply : Except Exn call.Ret}
    (tokens : world.session.Holds (tokensBefore start))
    (run : SessionWorld.respond delivery choice world (.database call) =
      some (reply, after)) : after.session.Holds (tokensBefore start) := by
  obtain ⟨fault, ran⟩ := SessionWorld.respond_database run
  cases kind : call.kind with
  | bare =>
      rw [kind] at ran
      exact tokens.bare (fun _ _ _ before _ => databaseBody_tokens before) ran
  | commits =>
      rw [kind] at ran
      exact tokens.commits (fun _ _ _ before _ => databaseBody_tokens before) ran
  | nested =>
      rw [kind] at ran
      exact tokens.nested (fun _ _ _ before _ => databaseBody_tokens before) ran

/-- An intake that has neither inserted a run nor claimed envelopes. -/
def untouched (log : List ReviewAnswer) : Prop :=
  log.any ReviewAnswer.insertsRun = false ∧
    log.flatMap ReviewAnswer.claimedItems = []

theorem untouched_append {answer : ReviewAnswer} (before : untouched log)
    (inserts : answer.insertsRun = false) (claims : answer.claimedItems = []) :
    untouched (log ++ [answer]) := by
  simp [untouched, before.1, before.2, inserts, claims]

variable {request : ReviewCall} {reply : Except Exn request.Ret}

theorem early_preserved (holds : envelopeHolds start .early (world, log))
    (permitted : EnvelopePhase.early.permitted request)
    (run : SessionWorld.respond delivery choice world request =
      some (reply, after)) :
    envelopeHolds start (EnvelopePhase.early.next request reply)
      (after, log ++ [⟨request, reply⟩]) := by
  obtain ⟨tokens, later, quiet⟩ := holds
  have calls := SessionWorld.respond_calls run
  have number : start ≤ after.calls := by omega
  cases request with
  | slack call =>
      cases call with
      | getReviewExecutionStatus submissionKey =>
          obtain ⟨fault, ran⟩ := SessionWorld.respond_slack run
          refine ⟨tokens.nested ?_ ran, number, untouched_append quiet rfl rfl⟩
          intro store value result before _ answered
          rw [(slackBody_ok answered).2]
          exact before
      | _ => cases permitted
  | database call =>
      have kept := database_tokens tokens run
      obtain ⟨fault, ran⟩ := SessionWorld.respond_database run
      cases call with
      | insertRun => cases permitted
      | updateContractStatus contractId status =>
          have stays : untouched (log ++
              [⟨.database (.updateContractStatus contractId status), reply⟩]) :=
            untouched_append quiet rfl rfl
          cases status with
          | queued =>
              cases reply with
              | ok _ => exact ⟨Session.commits_idle ran, kept, number, stays⟩
              | error error => exact ⟨kept, number, stays⟩
          | _ => exact ⟨kept, number, stays⟩
      | _ => exact ⟨kept, number, untouched_append quiet rfl rfl⟩
  | external call =>
      have session := SessionWorld.respond_external run
      cases call with
      | validateUploadedFile declaredMimeType | storeContractFile workspaceId sha256 =>
          exact ⟨session ▸ tokens, number, untouched_append quiet rfl rfl⟩
      | _ => cases permitted

/-- The envelope is persisted on an idle connection, or not at all. -/
theorem persist_preserved {key : String} {jobId : Uuid} {payload : JobPayload}
    {reply : Except Exn Unit}
    (inactive : ∀ working, world.session.txn ≠ .active working)
    (quiet : log.any ReviewAnswer.insertsRun = false)
    (run : SessionWorld.respond delivery choice world
      (.slack (.persistReviewJob key jobId payload)) = some (reply, after)) :
    envelopeHolds start (if reply.isOk then .kept else .ended)
      (after, log ++ [⟨.slack (.persistReviewJob key jobId payload), reply⟩]) := by
  obtain ⟨fault, ran⟩ := SessionWorld.respond_slack run
  cases reply with
  | error error => trivial
  | ok _ =>
      have idle := Session.idle_of_nested_ok inactive ran
      obtain ⟨result, _, committed⟩ := Session.nested_ok_of_idle idle ran
      refine ⟨?_, by simp [quiet, ReviewAnswer.insertsRun]⟩
      rw [committed]
      rfl

theorem queued_preserved (holds : envelopeHolds start .queued (world, log))
    (permitted : EnvelopePhase.queued.permitted request)
    (run : SessionWorld.respond delivery choice world request =
      some (reply, after)) :
    envelopeHolds start (EnvelopePhase.queued.next request reply)
      (after, log ++ [⟨request, reply⟩]) := by
  obtain ⟨idle, tokens, later, quiet⟩ := holds
  have calls := SessionWorld.respond_calls run
  have number : start ≤ after.calls := by omega
  cases request with
  | slack call =>
      cases call with
      | persistReviewJob key jobId payload =>
          refine persist_preserved ?_ quiet.1 run
          intro working active
          rw [show world.session.txn = .idle from idle] at active
          cases active
      | _ => cases permitted
  | database call =>
      cases call with
      | insertRun workspaceId contractId versionId source jobId =>
          have kept := database_tokens tokens run
          obtain ⟨fault, ran⟩ := SessionWorld.respond_database run
          cases reply with
          | ok runId =>
              have inserts : ReviewAnswer.insertsRun ⟨.database (.insertRun
                  workspaceId contractId versionId source jobId), .ok runId⟩ =
                    true := rfl
              exact ⟨kept.1, number, by simp [inserts],
                by simp [quiet.2, ReviewAnswer.claimedItems]⟩
          | error error =>
              have fails : ReviewAnswer.insertsRun ⟨.database (.insertRun
                  workspaceId contractId versionId source jobId),
                    .error error⟩ = false := rfl
              exact ⟨Session.commits_not_active ran, by simp [quiet.1, fails]⟩
      | _ => cases permitted
  | external call => cases permitted

theorem inserted_preserved (holds : envelopeHolds start .inserted (world, log))
    (permitted : EnvelopePhase.inserted.permitted request)
    (run : SessionWorld.respond delivery choice world request =
      some (reply, after)) :
    envelopeHolds start (EnvelopePhase.inserted.next request reply)
      (after, log ++ [⟨request, reply⟩]) := by
  obtain ⟨tokens, later, inserted, unclaimed⟩ := holds
  have calls := SessionWorld.respond_calls run
  cases request with
  | slack call => cases permitted
  | database call =>
      cases call with
      | getRun runId =>
          obtain ⟨fault, ran⟩ := SessionWorld.respond_database run
          refine ⟨Session.bare_not_idle ran, ?_, by omega, by simp [inserted],
            by simp [unclaimed, ReviewAnswer.claimedItems]⟩
          rw [Session.bare_committed ran]
          exact tokens
      | _ => cases permitted
  | external call => cases permitted

theorem opened_preserved (holds : envelopeHolds start .opened (world, log))
    (permitted : EnvelopePhase.opened.permitted request)
    (run : SessionWorld.respond delivery choice world request =
      some (reply, after)) :
    envelopeHolds start (EnvelopePhase.opened.next request reply)
      (after, log ++ [⟨request, reply⟩]) := by
  obtain ⟨busy, tokens, later, inserted, unclaimed⟩ := holds
  have calls := SessionWorld.respond_calls run
  cases request with
  | slack call =>
      obtain ⟨fault, ran⟩ := SessionWorld.respond_slack run
      have kept := Session.nested_of_not_idle busy ran
      have uncommitted : tokensBefore start after.session.committed := by
        rw [kept.1]
        exact tokens
      cases call with
      | persistReviewJob key jobId payload =>
          cases reply with
          | error error => trivial
          | ok _ =>
              exact ⟨kept.2, uncommitted, by omega, by simp [inserted],
                by simp [unclaimed, ReviewAnswer.claimedItems]⟩
      | claimDueReviewJobs limit leaseSeconds =>
          match reply with
          | .error error => trivial
          | .ok (items : List SlackReviewJobOutboxItem) =>
              refine ⟨kept.2, uncommitted, by simp [inserted], ?_⟩
              intro item member
              rw [List.flatMap_append, unclaimed, List.nil_append,
                List.flatMap_singleton] at member
              have claimed : item ∈ items := member
              obtain ⟨store, result, answered⟩ := Session.body_of_nested_ok ran
              obtain ⟨⟨tables, body⟩, _⟩ := slackBody_ok answered
              have same : store.slack.claimDueReviewJobs world.stamp limit
                  leaseSeconds = (items, tables) := Except.ok.inj body
              have spec := claimDueReviewJobs_spec store.slack world.stamp limit
                leaseSeconds
              rw [same] at spec
              rw [(spec.2 item claimed).1]
              exact later
      | _ => cases permitted
  | database call => cases permitted
  | external call => cases permitted

theorem unsure_preserved (holds : envelopeHolds start .unsure (world, log))
    (permitted : EnvelopePhase.unsure.permitted request)
    (run : SessionWorld.respond delivery choice world request =
      some (reply, after)) :
    envelopeHolds start (EnvelopePhase.unsure.next request reply)
      (after, log ++ [⟨request, reply⟩]) := by
  cases request with
  | slack call =>
      cases call with
      | persistReviewJob key jobId payload =>
          exact persist_preserved holds.1 holds.2 run
      | _ => cases permitted
  | database call => cases permitted
  | external call => cases permitted

theorem kept_preserved (holds : envelopeHolds start .kept (world, log))
    (permitted : EnvelopePhase.kept.permitted request)
    (run : SessionWorld.respond delivery choice world request =
      some (reply, after)) :
    envelopeHolds start (EnvelopePhase.kept.next request reply)
      (after, log ++ [⟨request, reply⟩]) := by
  obtain ⟨idle, fresh⟩ := holds
  cases request with
  | slack call =>
      cases call with
      | claimDueReviewJobs limit leaseSeconds =>
          obtain ⟨fault, ran⟩ := SessionWorld.respond_slack run
          match reply with
          | .error error => trivial
          | .ok (items : List SlackReviewJobOutboxItem) =>
              obtain ⟨result, answered, committed⟩ :=
                Session.nested_ok_of_idle idle ran
              obtain ⟨⟨tables, body⟩, same⟩ := slackBody_ok answered
              have claimed : world.session.committed.slack.claimDueReviewJobs
                  world.stamp limit leaseSeconds = (items, tables) :=
                Except.ok.inj body
              have spec := claimDueReviewJobs_spec
                world.session.committed.slack world.stamp limit leaseSeconds
              rw [claimed] at spec
              have now : after.session.committed.slack = tables := by
                rw [committed, same, SlackCall.after_eq_of_body body]
                rfl
              refine ⟨by rw [committed]; rfl,
                by simp [fresh, ReviewAnswer.insertsRun], spec.1, ?_⟩
              intro item member
              refine ⟨List.mem_flatMap.mpr ⟨_, List.mem_append_right _
                (List.mem_singleton_self _), member⟩, ?_⟩
              rw [now]
              exact (spec.2 item member).2
      | _ => cases permitted
  | database call => cases permitted
  | external call => cases permitted

/-- Recording how one publication went leaves the leases of the other items. -/
theorem recorded_preserved {item : SlackReviewJobOutboxItem}
    {items : List SlackReviewJobOutboxItem} {call : SlackCall}
    {reply : Except Exn call.Ret}
    (records : (∃ token, call = .markReviewJobPublished item.submissionKey token) ∨
      ∃ token attempts,
        call = .retryReviewJobPublish item.submissionKey token attempts)
    (holds : envelopeHolds start (.publishing true (item :: items)) (world, log))
    (run : SessionWorld.respond delivery choice world (.slack call) =
      some (reply, after)) :
    envelopeHolds start (if reply.isOk then .publishing true items else .ended)
      (after, log ++ [⟨.slack call, reply⟩]) := by
  obtain ⟨idle, fresh, nodup, leased⟩ := holds
  rw [List.map_cons, List.nodup_cons] at nodup
  obtain ⟨fault, ran⟩ := SessionWorld.respond_slack run
  cases reply with
  | error error => trivial
  | ok answer =>
      obtain ⟨result, answered, committed⟩ := Session.nested_ok_of_idle idle ran
      have same := (slackBody_ok answered).2
      refine ⟨by rw [committed]; rfl, ?_, nodup.2, ?_⟩
      · rcases records with ⟨token, rfl⟩ | ⟨token, attempts, rfl⟩ <;>
          simp [fresh, ReviewAnswer.insertsRun]
      · intro other member
        obtain ⟨inLog, before⟩ := leased other (List.mem_cons_of_mem _ member)
        have different : other.submissionKey ≠ item.submissionKey := by
          intro equal
          exact nodup.1 (equal ▸ List.mem_map_of_mem member)
        refine ⟨by simp [inLog], ?_⟩
        rw [committed, same]
        rcases records with ⟨token, rfl⟩ | ⟨token, attempts, rfl⟩
        · exact (publishing_updateOne different).trans before
        · exact (publishing_updateOne different).trans before

theorem publishing_preserved {durable : Bool}
    {items : List SlackReviewJobOutboxItem}
    (holds : envelopeHolds start (.publishing durable items) (world, log))
    (permitted : (EnvelopePhase.publishing durable items).permitted request)
    (run : SessionWorld.respond delivery choice world request =
      some (reply, after)) :
    envelopeHolds start
      ((EnvelopePhase.publishing durable items).next request reply)
      (after, log ++ [⟨request, reply⟩]) := by
  cases items with
  | nil => cases request <;> trivial
  | cons item items =>
      cases durable with
      | true =>
          cases request with
          | slack call =>
              cases call with
              | markReviewJobPublished key token =>
                  obtain ⟨rfl, rfl⟩ := permitted
                  exact recorded_preserved (.inl ⟨_, rfl⟩) holds run
              | retryReviewJobPublish key token attempts =>
                  obtain ⟨rfl, rfl⟩ := permitted
                  exact recorded_preserved (.inr ⟨_, _, rfl⟩) holds run
              | _ => cases permitted
          | database call => cases permitted
          | external call =>
              cases call with
              | enqueueJob payload =>
                  have session := SessionWorld.respond_external run
                  obtain ⟨idle, fresh, nodup, leased⟩ := holds
                  refine ⟨session ▸ idle, by simp [fresh, ReviewAnswer.insertsRun],
                    nodup, ?_⟩
                  intro other member
                  refine ⟨by simp [(leased other member).1], ?_⟩
                  rw [session]
                  exact (leased other member).2
              | _ => cases permitted
      | false =>
          obtain ⟨busy, tokens, inserted, late⟩ := holds
          cases request with
          | slack call =>
              obtain ⟨fault, ran⟩ := SessionWorld.respond_slack run
              have kept := Session.nested_of_not_idle busy ran
              have claims : ReviewAnswer.claimedItems ⟨.slack call, reply⟩ =
                  [] := by
                cases call <;> first | rfl | cases permitted
              have uncommitted : envelopeHolds start (.publishing false items)
                  (after, log ++ [⟨.slack call, reply⟩]) :=
                ⟨kept.2, kept.1 ▸ tokens, by simp [inserted],
                  by simpa [claims] using late⟩
              cases call with
              | markReviewJobPublished key token
              | retryReviewJobPublish key token attempts =>
                  cases reply with
                  | ok _ => exact uncommitted
                  | error _ => trivial
              | _ => cases permitted
          | database call => cases permitted
          | external call =>
              cases call with
              | enqueueJob payload =>
                  have session := SessionWorld.respond_external run
                  exact ⟨session ▸ busy, session ▸ tokens, by simp [inserted],
                    by simpa [ReviewAnswer.claimedItems] using late⟩
              | _ => cases permitted

/-- What the phases say holds through every permitted call. -/
theorem envelope_preserved {phase : EnvelopePhase}
    (holds : envelopeHolds start phase (world, log))
    (permitted : phase.permitted request)
    (run : SessionWorld.respond delivery choice world request =
      some (reply, after)) :
    envelopeHolds start (phase.next request reply)
      (after, log ++ [⟨request, reply⟩]) := by
  cases phase with
  | early => exact early_preserved holds permitted run
  | queued => exact queued_preserved holds permitted run
  | inserted => exact inserted_preserved holds permitted run
  | opened => exact opened_preserved holds permitted run
  | unsure => exact unsure_preserved holds permitted run
  | kept => exact kept_preserved holds permitted run
  | publishing durable items => exact publishing_preserved holds permitted run
  | ended => trivial

end Preservation

/-! ## The intake keeps to the phases -/

section Conformance

variable {Value : Type} {request : IntakeRequest} {ingested : IngestedContract}

variable {program : ReviewProg Value} {phase : EnvelopePhase}

theorem conforms_early (calls : program.Calls ReviewCall.gathering) :
    envelopeMonitor.Conforms program
      (fun _ after => after = EnvelopePhase.early) EnvelopePhase.early := by
  refine Monitor.conforms_of_calls calls ?_ rfl
  rintro _ call rfl gathers
  cases call with
  | slack call | database call | external call =>
      cases call <;> first
        | exact gathers.elim
        | exact ⟨trivial, fun _ _ same => same⟩

/-- The last phases permit every call of the database. -/
def EnvelopePhase.Late (phase : EnvelopePhase) : Prop :=
  phase = .ended ∨ ∃ durable, phase = .publishing durable []

theorem conforms_late
    (calls : program.Calls fun call => ∃ database, call = .database database)
    (inside : phase.Late) :
    envelopeMonitor.Conforms program
      (fun _ after => EnvelopePhase.Late after) phase := by
  refine Monitor.conforms_of_calls calls ?_ inside
  rintro _ _ (rfl | ⟨durable, rfl⟩) ⟨call, rfl⟩
  · exact ⟨trivial, fun _ _ same => .inl same⟩
  · exact ⟨trivial, fun _ _ same => .inl same⟩

theorem database_of_measuring (calls : program.Calls ReviewCall.measuring) :
    program.Calls fun call => ∃ database, call = .database database := by
  refine calls.mono ?_
  intro call measures
  cases call with
  | slack call => exact measures.elim
  | database call => exact ⟨call, rfl⟩
  | external call => exact measures.elim

theorem updateContractStatus_database (contractId : Uuid)
    (status : WorkflowState) :
    (updateContractStatus contractId status).Calls
      fun call => ∃ database, call = .database database :=
  Prog.Calls.perform ⟨_, rfl⟩ fun _ => Prog.calls_pure

theorem recordAudit_database (workspaceId : String) (contractId : Uuid)
    (eventType : AuditEventType) :
    (recordAudit workspaceId contractId eventType).Calls
      fun call => ∃ database, call = .database database :=
  Prog.Calls.perform ⟨_, rfl⟩ fun _ => Prog.calls_pure

/-- A publication ends with its item recorded. -/
theorem publishReviewJob_conforms {durable : Bool}
    (item : SlackReviewJobOutboxItem) (items : List SlackReviewJobOutboxItem) :
    envelopeMonitor.Conforms (publishReviewJob item)
      (fun result after => match result with
        | .ok _ => after = EnvelopePhase.publishing durable items
        | .error _ => after = EnvelopePhase.ended)
      (EnvelopePhase.publishing durable (item :: items)) := by
  have publishing : envelopeMonitor.Conforms (do
        let job : ContractReviewJob ← callExternal (.enqueueJob item.payload)
        Prog.onlyIf (job.jobId ≠ item.jobId)
          (.raise (Exn.runtimeError
            "RabbitMQ returned a different stable review job identifier")))
      (fun _ after => after = EnvelopePhase.publishing durable (item :: items))
      (EnvelopePhase.publishing durable (item :: items)) := by
    refine Monitor.conforms_bind.mpr ⟨rfl, ?_⟩
    rintro reply _ rfl
    cases reply with
    | error error => exact rfl
    | ok job => exact .onlyIf (fun _ => rfl) fun _ => rfl
  refine publishing.handle ?_
  rintro result _ rfl
  cases result with
  | error error | ok _ =>
      refine Monitor.conforms_bind.mpr ⟨⟨rfl, rfl⟩, ?_⟩
      rintro reply _ rfl
      cases reply <;> rfl

theorem publishReviewJobs_conforms {durable : Bool} :
    ∀ items : List SlackReviewJobOutboxItem,
      envelopeMonitor.Conforms (publishReviewJobs items)
        (fun result after => match result with
          | .ok _ => after = EnvelopePhase.publishing durable []
          | .error _ => after = EnvelopePhase.ended)
        (EnvelopePhase.publishing durable items)
  | [] => rfl
  | item :: items => by
      refine (publishReviewJob_conforms item items).bind ?_
        fun _ _ reached => reached
      rintro _ _ rfl
      exact publishReviewJobs_conforms items

/-- Where the run of the envelope leaves the connection. -/
def EnvelopePhase.Prepared (phase : EnvelopePhase) : Prop :=
  phase = .queued ∨ phase = .unsure ∨ phase = .opened

theorem processingRun_conforms (existingRun : Option ProcessingRun) :
    envelopeMonitor.Conforms (processingRun request ingested existingRun)
      (fun result after => result.isOk = true ∧ EnvelopePhase.Prepared after)
      EnvelopePhase.queued := by
  cases existingRun with
  | some run => exact ⟨rfl, .inl rfl⟩
  | none =>
      refine Monitor.conforms_handle.mpr
        (Monitor.conforms_bind.mpr ⟨trivial, ?_⟩)
      rintro inserted _ rfl
      cases inserted with
      | error error => exact ⟨rfl, .inr (.inl rfl)⟩
      | ok runId =>
          refine Monitor.conforms_bind.mpr ⟨trivial, ?_⟩
          rintro found _ rfl
          match found with
          | .error error => exact ⟨rfl, .inr (.inr rfl)⟩
          | .ok none => exact ⟨rfl, .inr (.inr rfl)⟩
          | .ok (some run) => exact ⟨rfl, .inr (.inr rfl)⟩

theorem drainOnce_conforms (limit : Int) (ready : phase = .kept ∨ phase = .opened) :
    envelopeMonitor.Conforms (drainOnce limit)
      (fun _ after => EnvelopePhase.Late after) phase := by
  have drain (durable : Bool) (items : List SlackReviewJobOutboxItem) :
      envelopeMonitor.Conforms (do
          publishReviewJobs items
          pure items.length)
        (fun _ after => EnvelopePhase.Late after)
        (EnvelopePhase.publishing durable items) :=
    (publishReviewJobs_conforms items).bind
      (fun _ _ reached => .inr ⟨durable, reached⟩)
      fun _ _ reached => .inl reached
  rcases ready with rfl | rfl
  · refine Monitor.conforms_bind.mpr ⟨trivial, ?_⟩
    rintro claimed _ rfl
    cases claimed with
    | error error => exact .inl rfl
    | ok items => exact drain true items
  · refine Monitor.conforms_bind.mpr ⟨trivial, ?_⟩
    rintro claimed _ rfl
    cases claimed with
    | error error => exact .inl rfl
    | ok items => exact drain false items

theorem publishSubmission_conforms (durable : request.durable.isSome) (payload : JobPayload)
    (prepared : phase.Prepared) :
    envelopeMonitor.Conforms (publishSubmission request payload)
      (fun _ after => EnvelopePhase.Late after) phase := by
  obtain ⟨⟨key, jobId⟩, found⟩ := Option.isSome_iff_exists.mp durable
  unfold publishSubmission
  rw [found]
  have drain {phase : EnvelopePhase} (ready : phase = .kept ∨ phase = .opened) :
      envelopeMonitor.Conforms (do
          let _ ← drainOnce 10
          pure jobId)
        (fun _ after => EnvelopePhase.Late after) phase :=
    (drainOnce_conforms 10 ready).bind (fun _ _ reached => reached)
      fun _ _ reached => reached
  rcases prepared with rfl | rfl | rfl
  · refine Monitor.conforms_bind.mpr ⟨trivial, ?_⟩
    rintro persisted _ rfl
    cases persisted with
    | error error => exact .inl rfl
    | ok _ => exact drain (.inl rfl)
  · refine Monitor.conforms_bind.mpr ⟨trivial, ?_⟩
    rintro persisted _ rfl
    cases persisted with
    | error error => exact .inl rfl
    | ok _ => exact drain (.inl rfl)
  · refine Monitor.conforms_bind.mpr ⟨trivial, ?_⟩
    rintro persisted _ rfl
    cases persisted with
    | error error => exact .inl rfl
    | ok _ => exact drain (.inr rfl)

theorem queueReview_conforms (durable : request.durable.isSome)
    (existingRun : Option ProcessingRun) :
    envelopeMonitor.Conforms (queueReview request ingested existingRun)
      (fun _ _ => True) EnvelopePhase.early := by
  refine Monitor.conforms_bind.mpr
    (Monitor.conforms_bind.mpr ⟨trivial, ?_⟩)
  rintro written _ rfl
  cases written with
  | error error => trivial
  | ok _ =>
      refine (processingRun_conforms existingRun).bind ?_ fun _ _ _ => trivial
      rintro runId phase ⟨_, prepared⟩
      refine (publishSubmission_conforms durable _ prepared).handle ?_
      intro result after late
      cases result with
      | error error =>
          refine (conforms_late (database_of_measuring (metricFailed_calls _))
            late).bind ?_ fun _ _ _ => trivial
          intro _ after late
          refine (conforms_late (updateContractStatus_database _ _) late).bind ?_
            fun _ _ _ => trivial
          intro _ after late
          exact (conforms_late (recordAudit_database _ _ _) late).bind
            (fun _ _ _ => trivial) fun _ _ _ => trivial
      | ok jobId =>
          refine (conforms_late (recordAudit_database _ _ _) late).bind ?_
            fun _ _ _ => trivial
          intro _ after late
          have enqueued : (metricOfRun runId fun runId => do
              let _ ← callDatabase (.setRunJobId runId jobId)
              pure ()).Calls fun call => ∃ database, call = .database database :=
            metricOfRun_calls runId fun _ =>
              Prog.Calls.perform ⟨_, rfl⟩ fun _ =>
                Prog.calls_pure
          exact (conforms_late enqueued late).bind (fun _ _ _ => trivial)
            fun _ _ _ => trivial

/-- The intake of a durable submission keeps to the phases. -/
theorem enqueueLocalFile_conforms (durable : request.durable.isSome) :
    envelopeMonitor.Conforms (enqueueLocalFile request)
      (fun _ _ => True) EnvelopePhase.early := by
  refine (conforms_early ingestLocalFile_calls).bind ?_ fun _ _ _ => trivial
  rintro ingestion _ rfl
  cases ingestion with
  | inl rejected => trivial
  | inr ingested =>
      refine (conforms_early (inquiring_gathering executionStatus_calls)).bind ?_ fun _ _ _ => trivial
      rintro status _ rfl
      refine (conforms_early (inquiring_gathering existingRun_calls)).bind ?_ fun _ _ _ => trivial
      rintro existing _ rfl
      split
      · exact (conforms_early (inquiring_gathering
          (completedSubmission_calls existing))).mono
          fun _ _ _ => trivial
      · split
        · split
          · trivial
          · split
            · trivial
            · exact queueReview_conforms durable _
        · exact queueReview_conforms durable _

end Conformance

theorem publication_eq_some {Value : Type} {program : ReviewProg Value}
    {payload : JobPayload} (publishes : publication program = some payload) :
    ∃ next, program = .call (.external (.enqueueJob payload)) next := by
  unfold publication at publishes
  split at publishes
  · cases publishes
    exact ⟨_, rfl⟩
  · cases publishes

/-- When the dispatcher of an intake publishes an envelope, its row and lease are
committed exactly if the intake has not inserted a processing run. -/
theorem envelope_durable_iff (request : IntakeRequest)
    (durable : request.durable.isSome) (delivery : Nat) (world : SessionWorld)
    (drawn : world.session.Holds (tokensBefore world.calls))
    (choices : List Choice)
    (program : ReviewProg ContractProcessingResult) (after : SessionWorld)
    (log : List ReviewAnswer)
    (reached : (enqueueLocalFile request).advance
      (Prog.recording (SessionWorld.respond delivery)) (world, []) choices =
        some (program, (after, log)))
    (payload : JobPayload) (publishes : publication program = some payload) :
    envelopeDurable payload log after.session.committed = true ↔
      log.any ReviewAnswer.insertsRun = false := by
  have preserves (phase : EnvelopePhase)
      (state : SessionWorld × List ReviewAnswer) (request : ReviewCall)
      (choice : Choice) (reply : Except Exn request.Ret)
      (last : SessionWorld × List ReviewAnswer)
      (holds : envelopeHolds world.calls phase state)
      (permitted : phase.permitted request)
      (answered : Prog.recording (SessionWorld.respond delivery) choice state
        request = some (reply, last)) :
      ∃ next, next = phase.next request reply ∧
        envelopeHolds world.calls next last := by
    obtain ⟨answer, responded, same⟩ := Option.map_eq_some_iff.mp answered
    cases same
    exact ⟨_, rfl, envelope_preserved holds permitted responded⟩
  obtain ⟨phase, holds, conforms⟩ := Monitor.Conforms.advance preserves choices
    (enqueueLocalFile_conforms durable)
    (show envelopeHolds world.calls .early (world, []) from
      ⟨drawn, Nat.le_refl _, rfl, rfl⟩) reached
  obtain ⟨next, rfl⟩ := publication_eq_some publishes
  obtain ⟨permitted, _⟩ := conforms
  match phase with
  | .publishing true (item :: items) =>
      obtain rfl : payload = item.payload := permitted
      obtain ⟨_, fresh, _, leased⟩ := holds
      obtain ⟨inLog, publishing⟩ := leased item (by simp)
      refine ⟨fun _ => fresh, fun _ => ?_⟩
      rw [envelopeDurable, List.any_eq_true]
      exact ⟨item, inLog, by simp [publishing]⟩
  | .publishing false (item :: items) =>
      obtain ⟨_, tokens, inserted, late⟩ := holds
      rw [inserted]
      refine ⟨fun committed => ?_, by simp⟩
      rw [envelopeDurable, List.any_eq_true] at committed
      obtain ⟨other, inLog, both⟩ := committed
      rw [Bool.and_eq_true] at both
      obtain ⟨row, found, _, _, _, token⟩ := publishing_iff.mp both.2
      have before := tokens other.submissionKey row _ found token
      have after := late other inLog
      omega
  | .early | .queued | .inserted | .opened | .unsure | .kept | .ended
  | .publishing _ [] => exact permitted.elim

/-- The first intake of a submission. -/
def sampleRequest : IntakeRequest where
  workspaceId := "W1"
  emailThreadId := "slack:C1:T1"
  requestedBy := "ana@example.com"
  displayFilename := "lease.pdf"
  sourceChannel := .slack
  slackInstallationId := some "I1"
  slackChannelId := some "C1"
  slackThreadTs := some "T1"
  sourceSubmissionKey := some "E1:F1"
  reviewJobId := some ⟨0, 1⟩

def sampleValidation : FileValidation where
  ok := true
  mimeType := some "application/pdf"
  sha256 := some "00"
  sizeBytes := 1

def sampleIntake : SessionWorld where
  session := Session.opened default
  calls := 1

/-- The calls of the first intake up to the publication, none of which fails. -/
def samplePublication : Option
    (ReviewProg ContractProcessingResult × (SessionWorld × List ReviewAnswer)) :=
  (enqueueLocalFile sampleRequest).advance
    (Prog.recording (SessionWorld.respond 0)) (sampleIntake, [])
    (.validated sampleValidation :: .stored "W1/00" ::
      List.replicate 12 .proceed)

theorem samplePublication_isSome : samplePublication.isSome := by
  decide

theorem samplePublication_publishes :
    (publication (samplePublication.get samplePublication_isSome).1).isSome := by
  decide

theorem sampleIntake_drawn :
    sampleIntake.session.Holds (tokensBefore sampleIntake.calls) := by
  refine .opened ?_
  intro key row token found
  cases found

theorem envelope_durable_iff_sample :
    envelopeDurable
        ((publication (samplePublication.get samplePublication_isSome).1).get
          samplePublication_publishes)
        (samplePublication.get samplePublication_isSome).2.2
        (samplePublication.get
          samplePublication_isSome).2.1.session.committed = true ↔
      (samplePublication.get samplePublication_isSome).2.2.any
        ReviewAnswer.insertsRun = false :=
  envelope_durable_iff sampleRequest (by decide) 0 sampleIntake
    sampleIntake_drawn
    (.validated sampleValidation :: .stored "W1/00" ::
      List.replicate 12 .proceed)
    _ _ _ (Option.some_get samplePublication_isSome).symm _
    (Option.some_get samplePublication_publishes).symm

/-- Every published envelope would be committed: that of a first intake is not. -/
theorem envelope_uncommitted :
    ¬ ∀ (request : IntakeRequest), request.durable.isSome →
      ∀ (delivery : Nat) (world : SessionWorld),
        world.session.Holds (tokensBefore world.calls) →
      ∀ (choices : List Choice) (program : ReviewProg ContractProcessingResult)
        (after : SessionWorld) (log : List ReviewAnswer),
        (enqueueLocalFile request).advance
          (Prog.recording (SessionWorld.respond delivery)) (world, [])
            choices = some (program, (after, log)) →
      ∀ payload, publication program = some payload →
        envelopeDurable payload log after.session.committed = true := by
  intro durable
  have committed := durable sampleRequest (by decide) 0 sampleIntake
    sampleIntake_drawn
    (.validated sampleValidation :: .stored "W1/00" ::
      List.replicate 12 .proceed)
    _ _ _ (Option.some_get samplePublication_isSome).symm _
    (Option.some_get samplePublication_publishes).symm
  revert committed
  decide

end ContractMate
