import ContractMate.RowTable
import ContractMate.ReviewJobs
import ContractMate.RunHistory

/-!
# Inbound email events

The table of inbound email events, the statements of its repository, and runs of
webhook handlers that claim an event and record its outcome.
-/

namespace ContractMate

/-- `inbound_email_events.status`. -/
inductive InboundEmailStatus where
  | processing
  | completed
  | failed
deriving DecidableEq, Repr

structure InboundEmailEventRow where
  id : String
  emailMessageId : String
  workspaceId : String
  eventType : String
  payloadHash : String
  receivedAt : Int
  processedAt : Option Int := none
  status : InboundEmailStatus := .processing
deriving DecidableEq, Repr

/-- The table, under its unique column. -/
abbrev InboundEmailEvents := RowTable InboundEmailEventRow.emailMessageId

/-- `InboundEventClaim`. -/
inductive InboundEventClaim where
  | acquired
  | completed
  | processing
deriving DecidableEq, Repr

namespace InboundEmailEvents

variable (table : InboundEmailEvents)

/-- `status = 'failed' OR (status = 'processing' AND received_at <= now - '10
minutes')`. -/
def reclaimable (now : Int) (row : InboundEmailEventRow) : Bool :=
  row.status = .failed ||
    (row.status = .processing && row.receivedAt ≤ now - seconds 600)

/-- `INSERT … ON CONFLICT DO NOTHING`: neither its id nor its email may be
there. -/
def insertNew (row : InboundEmailEventRow) : Option InboundEmailEvents :=
  if table.rows.any fun old => old.id = row.id then none
  else table.insert? row

/-- `claim`. -/
def claim (now : Int)
    (eventId emailMessageId workspaceId eventType payloadHash : String) :
    InboundEventClaim × InboundEmailEvents :=
  match table.insertNew
      { id := eventId, emailMessageId, workspaceId, eventType, payloadHash
        receivedAt := now } with
  | some inserted => (.acquired, inserted)
  | none =>
      let row := table.find? emailMessageId
      if row.any fun row => row.status = .completed then (.completed, table)
      else
        let condition := fun row : InboundEmailEventRow =>
          decide (row.emailMessageId = emailMessageId) && reclaimable now row
        let reclaimed := table.updateWhere condition
          ⟨fun row =>
            { row with
              status := .processing
              payloadHash
              receivedAt := now
              processedAt := none }, fun _ => rfl⟩
        (if table.affected condition = 1 then .acquired else .processing,
          reclaimed)

/-- `_mark`. -/
def mark (now : Int) (emailMessageId : String) (status : InboundEmailStatus) :
    InboundEmailEvents :=
  table.updateWhere (fun row => row.emailMessageId = emailMessageId)
    ⟨fun row => { row with status, processedAt := some now }, fun _ => rfl⟩

/-- `update_workspace`. -/
def updateWorkspace (emailMessageId workspaceId : String) : InboundEmailEvents :=
  table.updateWhere
    (fun row => decide (row.emailMessageId = emailMessageId) &&
      decide (row.status = .processing))
    ⟨fun row => { row with workspaceId }, fun _ => rfl⟩

/-- The status of an email's event. -/
def status? (emailMessageId : String) : Option InboundEmailStatus :=
  (table.find? emailMessageId).map InboundEmailEventRow.status

end InboundEmailEvents

/-- A call of a webhook handler. -/
inductive InboundEventCall where
  | claim (eventId emailMessageId workspaceId eventType payloadHash : String)
  | updateWorkspace (emailMessageId workspaceId : String)
  | markCompleted (emailMessageId : String)
  | markFailed (emailMessageId : String)
deriving DecidableEq, Repr

/-- What the call returns, if it claims, and the table after it. -/
def InboundEventCall.run (now : Int) (table : InboundEmailEvents) :
    InboundEventCall → Option InboundEventClaim × InboundEmailEvents
  | .claim eventId emailMessageId workspaceId eventType payloadHash =>
      let (answer, claimed) :=
        table.claim now eventId emailMessageId workspaceId eventType payloadHash
      (some answer, claimed)
  | .updateWorkspace emailMessageId workspaceId =>
      (none, table.updateWorkspace emailMessageId workspaceId)
  | .markCompleted emailMessageId =>
      (none, table.mark now emailMessageId .completed)
  | .markFailed emailMessageId =>
      (none, table.mark now emailMessageId .failed)

/-- How far a handler's call of `process` has come. -/
inductive HandlerPhase where
  | idle
  | working (emailMessageId : String)
  | finished
deriving DecidableEq, Repr

/-- The table and the handlers. -/
structure HandlerState where
  table : InboundEmailEvents
  phase : Nat → HandlerPhase := fun _ => .idle

/-- A call of some handler at some time, with the state it finds. -/
structure HandlerStep where
  handler : Nat
  time : Int
  call : InboundEventCall
  before : HandlerState

namespace HandlerStep

/-- What the handler's claim returned. -/
def result (step : HandlerStep) : Option InboundEventClaim :=
  (step.call.run step.time step.before.table).1

/-- Where the call leaves its handler: only an acquired event is processed, and a
mark is the handler's last call. -/
def nextPhase (step : HandlerStep) : HandlerPhase :=
  match step.call with
  | .claim _ emailMessageId _ _ _ =>
      if step.result = some .acquired then .working emailMessageId
      else .finished
  | .updateWorkspace emailMessageId _ => .working emailMessageId
  | .markCompleted _ => .finished
  | .markFailed _ => .finished

def after (step : HandlerStep) : HandlerState where
  table := (step.call.run step.time step.before.table).2
  phase := Function.update step.before.phase step.handler step.nextPhase

/-- `process` claims first and marks only what it acquired. -/
def Allowed (step : HandlerStep) : Prop :=
  match step.call with
  | .claim .. => step.before.phase step.handler = .idle
  | .updateWorkspace emailMessageId _ =>
      step.before.phase step.handler = .working emailMessageId
  | .markCompleted emailMessageId =>
      step.before.phase step.handler = .working emailMessageId
  | .markFailed emailMessageId =>
      step.before.phase step.handler = .working emailMessageId

instance (step : HandlerStep) : Decidable step.Allowed := by
  unfold Allowed
  split <;> infer_instance

/-- The step claims the email's event and gets it. -/
def Acquires (step : HandlerStep) (emailMessageId : String) : Prop :=
  step.result = some .acquired ∧
    ∃ eventId workspaceId eventType payloadHash,
      step.call =
        .claim eventId emailMessageId workspaceId eventType payloadHash

end HandlerStep

/-- Runs of any number of handlers, each call by itself. -/
abbrev HandlerRun (table : InboundEmailEvents) :
    List HandlerStep → HandlerState → Prop :=
  RunHistory.Run HandlerStep.before HandlerStep.after HandlerStep.Allowed
    { table := table }

/-- Once the email's event is completed it stays so, and nobody acquires it. -/
def CompletedIsFinal (steps : List HandlerStep) (emailMessageId : String) :
    Prop :=
  ∀ (i j : Nat) (first later : HandlerStep), steps[i]? = some first →
    steps[j]? = some later → i ≤ j →
      first.before.table.status? emailMessageId = some .completed →
        later.after.table.status? emailMessageId = some .completed ∧
          ¬ later.Acquires emailMessageId

/-- No handler marks the email failed while its event is completed. -/
def FailsInTime (steps : List HandlerStep) (emailMessageId : String) : Prop :=
  ∀ step ∈ steps, step.call = .markFailed emailMessageId →
    step.before.table.status? emailMessageId ≠ some .completed

namespace InboundEmailEvents

variable {table : InboundEmailEvents} {email other : String} {now : Int}

theorem status?_eq_some_iff {status : InboundEmailStatus} :
    table.status? email = some status ↔
      ∃ row, table.find? email = some row ∧ row.status = status :=
  Option.map_eq_some_iff

theorem status?_mark (status : InboundEmailStatus) :
    (table.mark now email status).status? other =
      if other = email then (table.status? other).map fun _ => status
      else table.status? other := by
  rw [status?, mark, RowTable.find?_updateWhere, status?]
  cases found : table.find? other with
  | none => simp
  | some row =>
      have named := RowTable.key_of_find? found
      by_cases same : other = email
      · simp [named, same]
      · simp [named, same]

theorem status?_updateWorkspace (workspaceId : String) :
    (table.updateWorkspace email workspaceId).status? other =
      table.status? other := by
  rw [status?, updateWorkspace, RowTable.find?_updateWhere, status?]
  cases table.find? other with
  | none => rfl
  | some row =>
      simp only [Option.map_some]
      split_ifs <;> rfl

/-- A row that is inserted belongs to an email that had none. -/
theorem find?_insertNew {row : InboundEmailEventRow} {inserted : InboundEmailEvents}
    (success : table.insertNew row = some inserted) :
    table.find? row.emailMessageId = none ∧
      ∀ other, inserted.find? other =
        if row.emailMessageId = other then some row else table.find? other := by
  unfold insertNew at success
  split_ifs at success
  have absent := RowTable.insert?_isSome_iff.mp (by rw [success]; rfl)
  exact ⟨absent, RowTable.find?_insert? success⟩

/-- A completed event stays completed whoever claims whatever. -/
theorem status?_claim_of_completed
    (completed : table.status? email = some .completed)
    (eventId workspaceId eventType payloadHash : String) :
    (table.claim now eventId other workspaceId eventType
      payloadHash).2.status? email = some .completed := by
  obtain ⟨row, found, status⟩ := status?_eq_some_iff.mp completed
  have named := RowTable.key_of_find? found
  unfold claim
  split
  next inserted success =>
    obtain ⟨absent, lookup⟩ := find?_insertNew success
    have different : other ≠ email := by
      rintro rfl
      rw [found] at absent
      cases absent
    rw [status?_eq_some_iff]
    exact ⟨row, by rw [lookup, if_neg different, found], status⟩
  next refused =>
    dsimp only
    split_ifs
    · exact completed
    all_goals
      rw [status?_eq_some_iff]
      refine ⟨row, ?_, status⟩
      rw [RowTable.find?_updateWhere, found]
      simp [reclaimable, status]

/-- Whoever acquires an event processes it. -/
theorem status?_claim_of_acquired
    (eventId workspaceId eventType payloadHash : String)
    (acquired : (table.claim now eventId email workspaceId eventType
      payloadHash).1 = .acquired) :
    (table.claim now eventId email workspaceId eventType payloadHash).2.status?
      email = some .processing := by
  revert acquired
  unfold claim
  split
  next inserted success =>
    intro _
    rw [status?_eq_some_iff]
    exact ⟨_, by rw [(find?_insertNew success).2, if_pos rfl], rfl⟩
  next refused =>
    dsimp only
    split_ifs with completed affected
    · intro acquired
      cases acquired
    · intro _
      rw [RowTable.affected_key_eq_one_iff] at affected
      obtain ⟨row, found, free⟩ := affected
      rw [status?, RowTable.find?_updateWhere_key, found]
      simp [free]
    · intro acquired
      cases acquired

/-- Nobody acquires a completed event. -/
theorem claim_of_completed (completed : table.status? email = some .completed)
    (now : Int) (eventId workspaceId eventType payloadHash : String) :
    (table.claim now eventId email workspaceId eventType payloadHash).1 =
      .completed := by
  obtain ⟨row, found, status⟩ := status?_eq_some_iff.mp completed
  unfold claim
  split
  next inserted success =>
    have absent := (find?_insertNew success).1
    rw [found] at absent
    cases absent
  next refused => simp [found, status]

end InboundEmailEvents

section Runs

variable {table : InboundEmailEvents} {email : String} {step : HandlerStep}

/-- Only a late failure takes a completed event out of its status. -/
theorem HandlerStep.completed_after
    (completed : step.before.table.status? email = some .completed)
    (inTime : step.call ≠ .markFailed email) :
    step.after.table.status? email = some .completed := by
  simp only [HandlerStep.after]
  cases called : step.call with
  | claim eventId other workspaceId eventType payloadHash =>
      exact InboundEmailEvents.status?_claim_of_completed completed _ _ _ _
  | updateWorkspace other workspaceId =>
      simp only [InboundEventCall.run]
      rw [InboundEmailEvents.status?_updateWorkspace, completed]
  | markCompleted other =>
      simp only [InboundEventCall.run]
      rw [InboundEmailEvents.status?_mark, completed]
      split_ifs <;> rfl
  | markFailed other =>
      have different : email ≠ other := by
        rintro rfl
        exact inTime called
      simp only [InboundEventCall.run]
      rw [InboundEmailEvents.status?_mark, if_neg different, completed]

theorem HandlerStep.not_acquires_of_completed
    (completed : step.before.table.status? email = some .completed) :
    ¬ step.Acquires email := by
  rintro ⟨acquired, eventId, workspaceId, eventType, payloadHash, called⟩
  have answer := InboundEmailEvents.claim_of_completed completed step.time eventId
    workspaceId eventType payloadHash
  simp [HandlerStep.result, InboundEventCall.run, called, answer] at acquired

/-- A completed event is final exactly when no handler that was overtaken marks it
failed afterwards. -/
theorem completed_is_final_iff (table : InboundEmailEvents) (email : String)
    {steps : List HandlerStep} {state : HandlerState}
    (run : HandlerRun table steps state) :
    CompletedIsFinal steps email ↔ FailsInTime steps email := by
  constructor
  · intro final step member called completed
    obtain ⟨i, found⟩ := List.mem_iff_getElem?.mp member
    have after := (final i i step step found found le_rfl completed).1
    simp only [HandlerStep.after, called, InboundEventCall.run] at after
    rw [InboundEmailEvents.status?_mark, if_pos rfl, completed] at after
    cases after
  · intro inTime i j first later found found' ordered completed
    have before : later.before.table.status? email = some .completed := by
      apply run.stable (fun state => state.table.status? email = some .completed)
        found found' ordered _ completed
      intro m step _ _ inside _ holds
      exact step.completed_after holds fun called =>
        inTime step (RunHistory.mem_of_getElem? inside) called holds
    refine ⟨later.completed_after before ?_,
      later.not_acquires_of_completed before⟩
    intro called
    exact inTime later (RunHistory.mem_of_getElem? found') called before

/-- A handler claims an email. -/
def slowClaim : HandlerStep :=
  ⟨0, 0, .claim "event-1" "email" "inbox" "email.received" "hash",
    { table := RowTable.empty }⟩

/-- Ten minutes later another one reclaims it. -/
def overtakingClaim : HandlerStep :=
  ⟨1, seconds 600, .claim "event-1" "email" "inbox" "email.received" "hash",
    slowClaim.after⟩

/-- The first one fails in time, and the second one completes after a third has claimed. -/
def crossedFailure : HandlerStep :=
  ⟨0, seconds 601, .markFailed "email", overtakingClaim.after⟩

def retryingClaim : HandlerStep :=
  ⟨2, seconds 602, .claim "event-1" "email" "inbox" "email.received" "hash",
    crossedFailure.after⟩

def crossedCompletion : HandlerStep :=
  ⟨1, seconds 603, .markCompleted "email", retryingClaim.after⟩

def redelivery : HandlerStep :=
  ⟨3, seconds 2000, .claim "event-2" "email" "inbox" "email.received" "hash",
    crossedCompletion.after⟩

def retriedSteps : List HandlerStep :=
  [slowClaim, overtakingClaim, crossedFailure, retryingClaim, crossedCompletion, redelivery]

theorem retried_run : HandlerRun RowTable.empty retriedSteps redelivery.after :=
  .step (.step (.step (.step (.step (.step .nil slowClaim rfl (by decide)) overtakingClaim rfl
    (by decide)) crossedFailure rfl (by decide)) retryingClaim rfl (by decide))
      crossedCompletion rfl (by decide)) redelivery rfl (by decide)

/-- A failure before the completion reopens the event, and no claim after it does. -/
theorem completed_is_final_iff_sample :
    retryingClaim.Acquires "email" ∧ ¬ redelivery.Acquires "email" ∧
      CompletedIsFinal retriedSteps "email" := by
  have final : CompletedIsFinal retriedSteps "email" :=
    (completed_is_final_iff RowTable.empty "email" retried_run).mpr (by
      intro step member called
      simp only [retriedSteps, List.mem_cons, List.not_mem_nil, or_false] at member
      rcases member with rfl | rfl | rfl | rfl | rfl | rfl
      case inr.inr.inl => decide
      all_goals cases called)
  exact ⟨⟨by decide, "event-1", "inbox", "email.received", "hash", rfl⟩,
    (final 5 5 redelivery redelivery rfl rfl le_rfl (by decide)).2, final⟩

/-- Or the second one completes first, and then the first one fails. -/
def overtakingCompletion : HandlerStep :=
  ⟨1, seconds 601, .markCompleted "email", overtakingClaim.after⟩

def lateFailure : HandlerStep :=
  ⟨0, seconds 602, .markFailed "email", overtakingCompletion.after⟩

def thirdClaim : HandlerStep :=
  ⟨2, seconds 603, .claim "event-1" "email" "inbox" "email.received" "hash",
    lateFailure.after⟩

/-- Its late failure reopens the event, and a third handler acquires it. -/
theorem late_failure_reopens :
    ¬ ∀ (table : InboundEmailEvents) (steps : List HandlerStep)
        (state : HandlerState), HandlerRun table steps state →
          ∀ email, CompletedIsFinal steps email := by
  intro final
  have run : HandlerRun RowTable.empty
      [slowClaim, overtakingClaim, overtakingCompletion, lateFailure, thirdClaim]
      thirdClaim.after :=
    .step (.step (.step (.step (.step .nil slowClaim rfl (by decide))
      overtakingClaim rfl (by decide)) overtakingCompletion rfl (by decide))
        lateFailure rfl (by decide)) thirdClaim rfl (by decide)
  have kept := final _ _ _ run "email" 3 4 lateFailure thirdClaim rfl rfl
    (by decide) (by decide)
  exact kept.2 ⟨by decide, "event-1", "inbox", "email.received", "hash", rfl⟩

end Runs

end ContractMate
