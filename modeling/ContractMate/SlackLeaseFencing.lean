import ContractMate.LeaseFence
import ContractMate.SlackCalls
import ContractMate.StatementPatterns

/-!
# Lease fencing of the Slack tables

Five Slack tables hand rows to workers under a lease.  Every repository call is
shown to be a fenced step on each of the five, from which exclusivity, finality
and single completion follow for any run of calls.
-/

namespace ContractMate

open LeaseFence

/-! ## Fenced statement patterns -/

section Patterns

variable {Row Key Item : Type} {key : Row → Key} [DecidableEq Key]
  (fence : Fence Row Uuid) {presented : Option Uuid}

theorem updateWhere_tableStep (table : RowTable key) (condition : Row → Bool) (change : RowTable.Change key)
    (acts : ∀ row, condition row = true →
      fence.RowStep presented row (change.apply row)) :
    fence.TableStep presented table.find?
      (table.updateWhere condition change).find? := by
  intro value
  cases found : table.find? value with
  | none =>
      intro row present
      simp [RowTable.find?_updateWhere, found] at present
  | some old =>
      refine ⟨if condition old then change.apply old else old, ?_, ?_⟩
      · simp [RowTable.find?_updateWhere, found]
      · by_cases holds : condition old = true
        · simpa [holds] using acts old holds
        · simpa [holds] using Fence.RowStep.keep presented old

/-- A statement that acts under the token it presents. -/
theorem updateOne_tableStep (table : RowTable key) (value : Key)
    (token : Uuid) (guard : Row → Bool) (change : RowTable.Change key)
    (owned : ∀ row, guard row = true →
      fence.token row = some token ∧ fence.stage row = .leased)
    (sound : ∀ row, guard row = true → fence.Sound (change.apply row)) :
    fence.TableStep (some token) table.find?
      (updateOne table value guard change).2.find? := by
  refine updateWhere_tableStep fence table _ change ?_
  intro row holds
  rw [Bool.and_eq_true] at holds
  obtain ⟨owner, leased⟩ := owned row holds.2
  exact .present owner leased (sound row holds.2)

theorem insertIgnore_tableStep (table : RowTable key) {row : Row}
    (sound : fence.Sound row) :
    fence.TableStep presented table.find? (table.insertIgnore row).find? := by
  intro value
  cases found : table.find? value with
  | none =>
      intro new present
      rw [RowTable.find?_insertIgnore, found] at present
      split at present
      · simp only [Option.getD_none, Option.some.injEq] at present
        exact present ▸ sound
      · cases present
  | some old =>
      refine ⟨old, ?_, .keep presented old⟩
      rw [RowTable.find?_insertIgnore, found]
      split <;> rfl

theorem insert?_tableStep {table inserted : RowTable key} {row : Row}
    (success : table.insert? row = some inserted) (sound : fence.Sound row) :
    fence.TableStep presented table.find? inserted.find? := by
  have same : inserted = table.insertIgnore row := by
    simp [RowTable.insertIgnore, success]
  rw [same]
  exact insertIgnore_tableStep fence table sound

/-- A statement that takes a lease on a row that is not settled. -/
theorem updateOne_tableStep_of_unsettled (table : RowTable key) (value : Key)
    (guard : Row → Bool) (change : RowTable.Change key)
    (unsettled : ∀ row, table.find? value = some row → guard row = true →
      fence.stage row ≠ .settled)
    (sound : ∀ row, fence.Sound (change.apply row)) :
    fence.TableStep none table.find?
      (updateOne table value guard change).2.find? := by
  intro other
  simp only [updateOne, RowTable.find?_updateWhere_key]
  by_cases same : other = value
  · subst same
    rw [if_pos rfl]
    cases found : table.find? other with
    | none =>
        intro row present
        simp at present
    | some old =>
        refine ⟨if guard old then change.apply old else old, rfl, ?_⟩
        by_cases holds : guard old = true
        · rw [if_pos holds]
          exact .free (unsettled old found holds) (sound old)
        · rw [if_neg holds]
          exact .keep none old
  · rw [if_neg same]
    exact Fence.TableStep.refl none table.find? other

/-- The claiming loop only takes leases, provided it selects rows that are not
settled. -/
theorem claimEach_tableStep (skips : Bool) (guard : Row → Bool)
    (take : Row → Uuid → RowTable.Change key)
    (item : Row → Uuid → Item) (stamp : Stamp)
    (leases : ∀ selected token row,
      fence.stage ((take selected token).apply row) = .leased)
    (rows : List Row) :
    ∀ (position : Nat) (table : RowTable key),
      (∀ selected ∈ rows, ∀ row, table.find? (key selected) = some row →
        fence.stage row ≠ .settled) →
      fence.TableStep none table.find?
        (claimEach skips guard take item stamp position rows
          table).2.find? := by
  induction rows with
  | nil =>
      intro position table _
      exact Fence.TableStep.refl none _
  | cons selected rest induction =>
      intro position table unsettled
      have sound (token : Uuid) (row : Row) :
          fence.Sound ((take selected token).apply row) :=
        fun _ => leases selected token row
      have first := updateOne_tableStep_of_unsettled fence table
        (key selected) guard
        (take selected (stamp.uuid4 position))
        (fun row found _ => unsettled selected (by simp) row found)
        (sound (stamp.uuid4 position))
      refine first.trans (induction (position + 1) _ ?_)
      intro other member row found settled
      simp only [updateOne, RowTable.find?_updateWhere_key] at found
      split at found
      · cases old : table.find? (key selected) with
        | none => simp [old] at found
        | some previous =>
            rw [old, Option.map_some, Option.some.injEq] at found
            subst found
            split at settled
            · rw [leases] at settled
              cases settled
            · exact unsettled selected (by simp) previous old settled
      · exact unsettled other (by simp [member]) row found settled

end Patterns

/-! ## The five leased tables -/

/-- The tables whose rows are handed out under a lease. -/
inductive LeaseTable where
  | events
  | files
  | executions
  | jobs
  | outbound
deriving DecidableEq, Repr

namespace LeaseTable

def Key : LeaseTable → Type
  | events | outbound => Uuid
  | files => String × String
  | executions | jobs => String

instance : (table : LeaseTable) → DecidableEq table.Key
  | events | outbound => inferInstanceAs (DecidableEq Uuid)
  | files => inferInstanceAs (DecidableEq (String × String))
  | executions | jobs => inferInstanceAs (DecidableEq String)

def Row : LeaseTable → Type
  | events => InboundSlackEventRow
  | files => FileSubmissionRow
  | executions => ReviewExecutionRow
  | jobs => ReviewJobRow
  | outbound => OutboundSlackRow

end LeaseTable

def InboundSlackEventRow.stage (row : InboundSlackEventRow) : Stage :=
  match row.status with
  | .pending => .waiting
  | .processing => .leased
  | .processed | .ignored | .failed => .settled

def SubmissionStatus.stage : SubmissionStatus → Stage
  | .pending => .waiting
  | .processing => .leased
  | .completed => .settled

def ReviewJobRow.stage (row : ReviewJobRow) : Stage :=
  match row.status with
  | .pending => .waiting
  | .publishing => .leased
  | .published => .settled

def OutboundSlackRow.stage (row : OutboundSlackRow) : Stage :=
  match row.status with
  | .pending => .waiting
  | .sending => .leased
  | .sent | .failed => .settled

namespace LeaseTable

/-- The stage and the token of a row, by table.  The settled rows are the
processed, ignored and failed events, the completed attachments and executions,
the published envelopes and the sent and failed messages. -/
def fence : (table : LeaseTable) → Fence table.Row Uuid
  | events => ⟨InboundSlackEventRow.stage, InboundSlackEventRow.leaseToken⟩
  | files => ⟨fun row => row.status.stage, FileSubmissionRow.leaseToken⟩
  | executions => ⟨fun row => row.status.stage, ReviewExecutionRow.leaseToken⟩
  | jobs => ⟨ReviewJobRow.stage, ReviewJobRow.leaseToken⟩
  | outbound => ⟨OutboundSlackRow.stage, OutboundSlackRow.leaseToken⟩

end LeaseTable

namespace SlackTables

/-- The row under a key of one of the leased tables. -/
def row (tables : SlackTables) :
    (table : LeaseTable) → table.Key → Option table.Row
  | .events => tables.events.find?
  | .files => tables.files.find?
  | .executions => tables.executions.find?
  | .jobs => tables.jobs.find?
  | .outbound => tables.outbound.find?

end SlackTables

namespace SlackCall

/-- The row a call addresses under a token, and the token. -/
def presents : SlackCall → Option ((table : LeaseTable) × table.Key × Uuid)
  | completeEvent rowId leaseToken _ => some ⟨.events, rowId, leaseToken⟩
  | retryEvent rowId leaseToken _ _ _ => some ⟨.events, rowId, leaseToken⟩
  | retryEventContention rowId leaseToken _ =>
      some ⟨.events, rowId, leaseToken⟩
  | completeFileSubmission eventId fileId leaseToken =>
      some ⟨.files, (eventId, fileId), leaseToken⟩
  | releaseFileSubmission eventId fileId leaseToken =>
      some ⟨.files, (eventId, fileId), leaseToken⟩
  | completeReviewExecution submissionKey leaseToken =>
      some ⟨.executions, submissionKey, leaseToken⟩
  | renewReviewExecution submissionKey leaseToken _ =>
      some ⟨.executions, submissionKey, leaseToken⟩
  | releaseReviewExecution submissionKey leaseToken =>
      some ⟨.executions, submissionKey, leaseToken⟩
  | markReviewJobPublished submissionKey leaseToken =>
      some ⟨.jobs, submissionKey, leaseToken⟩
  | retryReviewJobPublish submissionKey leaseToken _ =>
      some ⟨.jobs, submissionKey, leaseToken⟩
  | markOutboundSent outboxId leaseToken =>
      some ⟨.outbound, outboxId, leaseToken⟩
  | rescheduleOutbound outboxId leaseToken _ _ _ =>
      some ⟨.outbound, outboxId, leaseToken⟩
  | _ => none

/-- The token a call presents to any row of a table. -/
def presentedToken (call : SlackCall) : Option Uuid :=
  call.presents.map fun address => address.2.2

end SlackCall

section Frames

variable (tables : SlackTables) (stamp : Stamp)

theorem enqueueEvent_frame (eventId teamId eventType payload : String) :
    (tables.enqueueEvent stamp eventId teamId eventType payload).2 =
      { tables with
        events := (tables.enqueueEvent stamp eventId teamId eventType
          payload).2.events } := by
  unfold SlackTables.enqueueEvent
  split <;> rfl

theorem claimDueEvents_frame (limit leaseSeconds : Int) :
    (tables.claimDueEvents stamp limit leaseSeconds).2 =
      { tables with
        events := (tables.claimDueEvents stamp limit
          leaseSeconds).2.events } := by
  unfold SlackTables.claimDueEvents
  split <;> rfl

theorem claimFileSubmission_frame (eventId fileId : String)
    (leaseSeconds : Int) :
    (tables.claimFileSubmission stamp eventId fileId leaseSeconds).2 =
      { tables with
        files := (tables.claimFileSubmission stamp eventId fileId
          leaseSeconds).2.files } := by
  unfold SlackTables.claimFileSubmission
  dsimp only
  split
  · rfl
  · split
    · rfl
    · split <;> rfl

theorem claimReviewExecution_frame (submissionKey : String)
    (leaseSeconds : Int) :
    (tables.claimReviewExecution stamp submissionKey leaseSeconds).2 =
      { tables with
        executions := (tables.claimReviewExecution stamp submissionKey
          leaseSeconds).2.executions } := by
  unfold SlackTables.claimReviewExecution
  dsimp only
  split
  · rfl
  · split <;> rfl

theorem persistReviewJob_ok {submissionKey : String} {jobId : Uuid}
    {payload : JobPayload} {persisted : SlackTables}
    (success : tables.persistReviewJob stamp submissionKey jobId payload =
      .ok persisted) :
    persisted =
      { tables with
        jobs := tables.jobs.insertIgnore
          { submissionKey, jobId, contractId := payload.contractId
            contractVersionId := payload.contractVersionId, payload
            nextAttemptAt := stamp.now, createdAt := stamp.now } } := by
  unfold SlackTables.persistReviewJob at success
  dsimp only at success
  split at success
  · cases success
  · split at success
    · cases success
    · split at success
      · cases success
      · exact (Except.ok.inj success).symm

theorem enqueueOutbound_ok {intent : OutboundSlackIntent} {id : Uuid}
    {queued : SlackTables}
    (success : tables.enqueueOutbound stamp intent = .ok (id, queued)) :
    queued = tables ∨
      ∃ row : OutboundSlackRow,
        row.leaseToken = none ∧
          row.idempotencyKey = intent.idempotencyKey ∧
          tables.outbound.insert? row = some queued.outbound ∧
          queued = { tables with outbound := queued.outbound } := by
  unfold SlackTables.enqueueOutbound at success
  split at success
  · cases success
    exact .inl rfl
  · dsimp only at success
    split at success
    · cases success
    · split at success
      · cases success
      · split at success
        · cases success
        · rename_i inserted insertion
          cases success
          exact .inr ⟨_, rfl, rfl, insertion, rfl⟩

end Frames

namespace SlackCall

/-- The leased table a call writes. -/
def target : SlackCall → Option LeaseTable
  | enqueueEvent .. | claimDueEvents .. | completeEvent .. | retryEvent ..
  | retryEventContention .. => some .events
  | claimFileSubmission .. | completeFileSubmission ..
  | releaseFileSubmission .. => some .files
  | claimReviewExecution .. | completeReviewExecution ..
  | renewReviewExecution .. | releaseReviewExecution .. => some .executions
  | getReviewExecutionStatus .. => none
  | persistReviewJob .. | claimDueReviewJobs .. | markReviewJobPublished ..
  | retryReviewJobPublish .. => some .jobs
  | enqueueOutbound .. | claimDueOutbound .. | markOutboundSent ..
  | rescheduleOutbound .. | disconnectInstallation ..
  | markInstallationRevoked .. => some .outbound

end SlackCall

section Steps

variable (stamp : Stamp) (tables : SlackTables)

/-- A call leaves the leased tables it does not write. -/
theorem row_after_of_not_target (call : SlackCall) {table : LeaseTable}
    (other : call.target ≠ some table) :
    (call.after stamp tables).row table = tables.row table := by
  cases call with
  | enqueueEvent eventId teamId eventType payload =>
      simp only [SlackCall.after, SlackCall.body]
      rw [enqueueEvent_frame]
      cases table <;> first | rfl | exact absurd rfl other
  | claimDueEvents limit leaseSeconds =>
      simp only [SlackCall.after, SlackCall.body]
      rw [claimDueEvents_frame]
      cases table <;> first | rfl | exact absurd rfl other
  | claimFileSubmission eventId fileId leaseSeconds =>
      simp only [SlackCall.after, SlackCall.body]
      rw [claimFileSubmission_frame]
      cases table <;> first | rfl | exact absurd rfl other
  | claimReviewExecution submissionKey leaseSeconds =>
      simp only [SlackCall.after, SlackCall.body]
      rw [claimReviewExecution_frame]
      cases table <;> first | rfl | exact absurd rfl other
  | persistReviewJob submissionKey jobId payload =>
      simp only [SlackCall.after, SlackCall.body]
      cases persisting :
          tables.persistReviewJob stamp submissionKey jobId payload with
      | error _ => rfl
      | ok persisted =>
          rw [persistReviewJob_ok tables stamp persisting]
          cases table <;> first | rfl | exact absurd rfl other
  | enqueueOutbound intent =>
      simp only [SlackCall.after, SlackCall.body]
      cases queueing : tables.enqueueOutbound stamp intent with
      | error _ => rfl
      | ok reply =>
          obtain ⟨id, queued⟩ := reply
          rcases enqueueOutbound_ok tables stamp queueing with
            same | ⟨row, _, _, _, changed⟩
          · rw [same]
          · dsimp only
            rw [changed]
            cases table <;> first | rfl | exact absurd rfl other
  | _ => cases table <;> first | rfl | exact absurd rfl other

variable {now : Int} {token : Uuid}

theorem eventDue_unsettled {row : InboundSlackEventRow}
    (due : SlackTables.eventDue now row = true) : row.stage ≠ .settled := by
  intro settled
  unfold InboundSlackEventRow.stage at settled
  unfold SlackTables.eventDue at due
  split at settled <;> simp_all

theorem eventOwned_leased {row : InboundSlackEventRow}
    (owned : SlackTables.eventOwned token row = true) :
    row.leaseToken = some token ∧ row.stage = .leased := by
  simp only [SlackTables.eventOwned, Bool.and_eq_true, decide_eq_true_eq]
    at owned
  simp [InboundSlackEventRow.stage, owned.1, owned.2]

theorem events_tableStep (call : SlackCall) :
    LeaseTable.events.fence.TableStep call.presentedToken tables.events.find?
      (call.after stamp tables).events.find? := by
  by_cases writes : call.target = some .events
  · cases call with
    | enqueueEvent eventId teamId eventType payload =>
        simp only [SlackCall.after, SlackCall.body, SlackTables.enqueueEvent]
        split
        · exact insertIgnore_tableStep LeaseTable.events.fence tables.events
            (Fence.Sound.of_no_token rfl)
        · exact Fence.TableStep.refl _ _
    | claimDueEvents limit leaseSeconds =>
        simp only [SlackCall.after, SlackCall.body, SlackTables.claimDueEvents]
        split
        · exact Fence.TableStep.refl _ _
        · refine claimEach_tableStep LeaseTable.events.fence _ _ _
            _ _ (by intro _ _ _; rfl) _ 0 tables.events ?_
          intro selected member row found
          exact eventDue_unsettled (condition_of_selected member found)
    | completeEvent rowId leaseToken ignored
    | retryEvent rowId leaseToken attempts maxAttempts retryAfterSeconds
    | retryEventContention rowId leaseToken retryAfterSeconds =>
        exact updateOne_tableStep LeaseTable.events.fence tables.events rowId leaseToken _ _
          (fun _ owned => eventOwned_leased owned)
          (by intro _ _; exact .of_no_token rfl)
    | _ => cases writes
  · have same : (call.after stamp tables).events.find? = tables.events.find? :=
      row_after_of_not_target stamp tables call writes
    rw [same]
    exact Fence.TableStep.refl _ _

theorem fileOwned_leased {row : FileSubmissionRow}
    (owned : SlackTables.fileOwned token row = true) :
    row.leaseToken = some token ∧ row.status.stage = .leased := by
  simp only [SlackTables.fileOwned, Bool.and_eq_true, decide_eq_true_eq]
    at owned
  simp [SubmissionStatus.stage, owned.1, owned.2]

theorem files_tableStep (call : SlackCall) :
    LeaseTable.files.fence.TableStep call.presentedToken tables.files.find?
      (call.after stamp tables).files.find? := by
  by_cases writes : call.target = some .files
  · cases call with
    | claimFileSubmission eventId fileId leaseSeconds =>
        simp only [SlackCall.after, SlackCall.body,
          SlackTables.claimFileSubmission]
        split
        · rename_i inserted insertion
          exact insert?_tableStep _ insertion (Fence.Sound.of_leased rfl)
        · split
          · exact Fence.TableStep.refl _ _
          · split
            · exact Fence.TableStep.refl _ _
            · refine updateOne_tableStep_of_unsettled LeaseTable.files.fence
                tables.files (eventId, fileId) _ _ ?_
                (by intro _; exact .of_leased rfl)
              intro other _ guard settled
              change other.status.stage = .settled at settled
              cases status : other.status <;>
                simp [status, SubmissionStatus.stage] at settled guard
    | completeFileSubmission eventId fileId leaseToken
    | releaseFileSubmission eventId fileId leaseToken =>
        exact updateOne_tableStep LeaseTable.files.fence tables.files (eventId, fileId) leaseToken _ _
          (fun _ owned => fileOwned_leased owned)
          (by intro _ _; exact .of_no_token rfl)
    | _ => cases writes
  · have same : (call.after stamp tables).files.find? = tables.files.find? :=
      row_after_of_not_target stamp tables call writes
    rw [same]
    exact Fence.TableStep.refl _ _

theorem executionOwned_leased {row : ReviewExecutionRow}
    (owned : SlackTables.executionOwned token row = true) :
    row.leaseToken = some token ∧ row.status.stage = .leased := by
  simp only [SlackTables.executionOwned, Bool.and_eq_true, decide_eq_true_eq]
    at owned
  simp [SubmissionStatus.stage, owned.1, owned.2]

theorem executions_tableStep (call : SlackCall) :
    LeaseTable.executions.fence.TableStep call.presentedToken
      tables.executions.find? (call.after stamp tables).executions.find? := by
  by_cases writes : call.target = some .executions
  · cases call with
    | claimReviewExecution submissionKey leaseSeconds =>
        simp only [SlackCall.after, SlackCall.body,
          SlackTables.claimReviewExecution]
        split
        · rename_i inserted insertion
          exact insert?_tableStep _ insertion (Fence.Sound.of_leased rfl)
        · split
          · exact Fence.TableStep.refl _ _
          · refine updateOne_tableStep_of_unsettled
              LeaseTable.executions.fence tables.executions
              submissionKey _ _ ?_ (by intro _; exact .of_leased rfl)
            intro row _ guard settled
            change row.status.stage = .settled at settled
            cases status : row.status <;>
              simp [status, SubmissionStatus.stage] at settled guard
    | completeReviewExecution submissionKey leaseToken
    | releaseReviewExecution submissionKey leaseToken =>
        exact updateOne_tableStep LeaseTable.executions.fence tables.executions submissionKey leaseToken _ _
          (fun _ owned => executionOwned_leased owned)
          (by intro _ _; exact .of_no_token rfl)
    | renewReviewExecution submissionKey leaseToken leaseSeconds =>
        exact updateOne_tableStep LeaseTable.executions.fence tables.executions submissionKey leaseToken _ _
          (fun _ owned => executionOwned_leased owned)
          (by intro _ owned; exact .of_leased (executionOwned_leased owned).2)
    | _ => cases writes
  · have same :
        (call.after stamp tables).executions.find? = tables.executions.find? :=
      row_after_of_not_target stamp tables call writes
    rw [same]
    exact Fence.TableStep.refl _ _

theorem jobDue_unsettled {row : ReviewJobRow}
    (due : SlackTables.jobDue now row = true) : row.stage ≠ .settled := by
  intro settled
  unfold ReviewJobRow.stage at settled
  unfold SlackTables.jobDue at due
  split at settled <;> simp_all

theorem jobOwned_leased {row : ReviewJobRow}
    (owned : SlackTables.jobOwned token row = true) :
    row.leaseToken = some token ∧ row.stage = .leased := by
  simp only [SlackTables.jobOwned, Bool.and_eq_true, decide_eq_true_eq]
    at owned
  simp [ReviewJobRow.stage, owned.1, owned.2]

theorem jobs_tableStep (call : SlackCall) :
    LeaseTable.jobs.fence.TableStep call.presentedToken tables.jobs.find?
      (call.after stamp tables).jobs.find? := by
  by_cases writes : call.target = some .jobs
  · cases call with
    | persistReviewJob submissionKey jobId payload =>
        simp only [SlackCall.after, SlackCall.body]
        cases persisting :
            tables.persistReviewJob stamp submissionKey jobId payload with
        | error _ => exact Fence.TableStep.refl _ _
        | ok persisted =>
            rw [persistReviewJob_ok tables stamp persisting]
            exact insertIgnore_tableStep LeaseTable.jobs.fence tables.jobs
              (Fence.Sound.of_no_token rfl)
    | claimDueReviewJobs limit leaseSeconds =>
        refine claimEach_tableStep LeaseTable.jobs.fence _ _ _
          _ _ (by intro _ _ _; rfl) _ 0 tables.jobs ?_
        intro selected member row found
        exact jobDue_unsettled (condition_of_selected member found)
    | markReviewJobPublished submissionKey leaseToken
    | retryReviewJobPublish submissionKey leaseToken attempts =>
        exact updateOne_tableStep LeaseTable.jobs.fence tables.jobs submissionKey leaseToken _ _
          (fun _ owned => jobOwned_leased owned)
          (by intro _ _; exact .of_no_token rfl)
    | _ => cases writes
  · have same : (call.after stamp tables).jobs.find? = tables.jobs.find? :=
      row_after_of_not_target stamp tables call writes
    rw [same]
    exact Fence.TableStep.refl _ _

theorem outboundDue_unsettled {row : OutboundSlackRow}
    (due : tables.outboundDue now row = true) : row.stage ≠ .settled := by
  intro settled
  unfold OutboundSlackRow.stage at settled
  unfold SlackTables.outboundDue at due
  split at settled <;> simp_all

theorem outboundOwned_leased {row : OutboundSlackRow}
    (owned : SlackTables.outboundOwned token row = true) :
    row.leaseToken = some token ∧ row.stage = .leased := by
  simp only [SlackTables.outboundOwned, Bool.and_eq_true, decide_eq_true_eq]
    at owned
  simp [OutboundSlackRow.stage, owned.1, owned.2]

/-- Losing the installation settles its live messages. -/
theorem failLiveOutbound_tableStep (installationId : String) :
    LeaseTable.outbound.fence.TableStep none tables.outbound.find?
      (tables.failLiveOutbound installationId).find? := by
  refine updateWhere_tableStep LeaseTable.outbound.fence tables.outbound _ _ ?_
  intro row live
  refine .free ?_ (Fence.Sound.of_no_token rfl)
  intro settled
  change row.stage = .settled at settled
  unfold OutboundSlackRow.stage at settled
  split at settled <;> simp_all

theorem outbound_tableStep (call : SlackCall) :
    LeaseTable.outbound.fence.TableStep call.presentedToken
      tables.outbound.find? (call.after stamp tables).outbound.find? := by
  by_cases writes : call.target = some .outbound
  · cases call with
    | enqueueOutbound intent =>
        simp only [SlackCall.after, SlackCall.body]
        cases queueing : tables.enqueueOutbound stamp intent with
        | error _ => exact Fence.TableStep.refl _ _
        | ok reply =>
            obtain ⟨id, queued⟩ := reply
            rcases enqueueOutbound_ok tables stamp queueing with
              same | ⟨row, unleased, _, insertion, _⟩
            · rw [same]
              exact Fence.TableStep.refl _ _
            · exact insert?_tableStep _ insertion
                (Fence.Sound.of_no_token unleased)
    | claimDueOutbound limit leaseSeconds =>
        refine claimEach_tableStep LeaseTable.outbound.fence _ _ _
          _ _ (by intro _ _ _; rfl) _ 0 tables.outbound ?_
        intro selected member row found
        exact outboundDue_unsettled tables (condition_of_selected member found)
    | markOutboundSent outboxId leaseToken =>
        exact updateOne_tableStep LeaseTable.outbound.fence tables.outbound outboxId leaseToken _ _
          (fun _ owned => outboundOwned_leased owned)
          (by intro _ _; exact .of_no_token rfl)
    | rescheduleOutbound outboxId leaseToken attempts maxAttempts
        retryAfterSeconds =>
        refine updateOne_tableStep LeaseTable.outbound.fence tables.outbound outboxId leaseToken _ _
          ?_ (by intro _ _; exact .of_no_token rfl)
        intro row guard
        rw [Bool.and_eq_true] at guard
        exact outboundOwned_leased guard.1
    | disconnectInstallation installationId accountId =>
        simp only [SlackCall.after, SlackCall.body,
          SlackTables.disconnectInstallation]
        split
        · exact failLiveOutbound_tableStep tables installationId
        · exact Fence.TableStep.refl _ _
    | markInstallationRevoked installationId =>
        exact failLiveOutbound_tableStep tables installationId
    | _ => cases writes
  · have same :
        (call.after stamp tables).outbound.find? = tables.outbound.find? :=
      row_after_of_not_target stamp tables call writes
    rw [same]
    exact Fence.TableStep.refl _ _

/-- Every call is a fenced step on every leased table. -/
theorem row_tableStep (call : SlackCall) (table : LeaseTable) :
    table.fence.TableStep call.presentedToken (tables.row table)
      ((call.after stamp tables).row table) := by
  cases table with
  | events => exact events_tableStep stamp tables call
  | files => exact files_tableStep stamp tables call
  | executions => exact executions_tableStep stamp tables call
  | jobs => exact jobs_tableStep stamp tables call
  | outbound => exact outbound_tableStep stamp tables call

end Steps

/-! ## Refusals and completions -/

namespace SlackCall

/-- The replies `False` and `'stale'` of the calls that present a token. -/
def refusal : (call : SlackCall) → call.Ret → Bool
  | completeEvent .. => fun reply : Bool => !reply
  | retryEvent .. => fun reply : RetryOutcome => reply = .stale
  | retryEventContention .. => fun reply : Bool => !reply
  | completeFileSubmission .. => fun reply : Bool => !reply
  | releaseFileSubmission .. => fun reply : Bool => !reply
  | completeReviewExecution .. => fun reply : Bool => !reply
  | renewReviewExecution .. => fun reply : Bool => !reply
  | releaseReviewExecution .. => fun reply : Bool => !reply
  | markReviewJobPublished .. => fun reply : Bool => !reply
  | retryReviewJobPublish .. => fun reply : Bool => !reply
  | markOutboundSent .. => fun reply : Bool => !reply
  | rescheduleOutbound .. => fun reply : RetryOutcome => reply = .stale
  | _ => fun _ => false

/-- The row that a completing call reports as completed. -/
def completed (tables : SlackTables) :
    SlackCall → Option ((table : LeaseTable) × table.Key)
  | completeEvent rowId leaseToken ignored =>
      if (tables.completeEvent rowId leaseToken ignored).1
        then some ⟨.events, rowId⟩ else none
  | completeFileSubmission eventId fileId leaseToken =>
      if (tables.completeFileSubmission eventId fileId leaseToken).1
        then some ⟨.files, (eventId, fileId)⟩ else none
  | completeReviewExecution submissionKey leaseToken =>
      if (tables.completeReviewExecution submissionKey leaseToken).1
        then some ⟨.executions, submissionKey⟩ else none
  | markReviewJobPublished submissionKey leaseToken =>
      if (tables.markReviewJobPublished submissionKey leaseToken).1
        then some ⟨.jobs, submissionKey⟩ else none
  | markOutboundSent outboxId leaseToken =>
      if (tables.markOutboundSent outboxId leaseToken).1
        then some ⟨.outbound, outboxId⟩ else none
  | _ => none

/-- The rows on which a call hands out a lease. -/
def claimed (stamp : Stamp) (tables : SlackTables) :
    SlackCall → List ((table : LeaseTable) × table.Key)
  | claimDueEvents limit leaseSeconds =>
      (tables.claimDueEvents stamp limit leaseSeconds).1.map fun item =>
        ⟨.events, item.id⟩
  | claimFileSubmission eventId fileId leaseSeconds =>
      if (tables.claimFileSubmission stamp eventId fileId
          leaseSeconds).1.status = .claimed
        then [⟨.files, (eventId, fileId)⟩] else []
  | claimReviewExecution submissionKey leaseSeconds =>
      if (tables.claimReviewExecution stamp submissionKey
          leaseSeconds).1.status = .claimed
        then [⟨.executions, submissionKey⟩] else []
  | claimDueReviewJobs limit leaseSeconds =>
      (tables.claimDueReviewJobs stamp limit leaseSeconds).1.map fun item =>
        ⟨.jobs, item.submissionKey⟩
  | claimDueOutbound limit leaseSeconds =>
      (tables.claimDueOutbound stamp limit leaseSeconds).1.map fun item =>
        ⟨.outbound, item.id⟩
  | _ => []

end SlackCall

section Verdicts

variable (stamp : Stamp) (tables : SlackTables)

variable {table : LeaseTable} {key : table.Key}

/-- A call whose token is not the row's is refused and changes nothing. -/
theorem body_of_stale_token (call : SlackCall) {token : Uuid}
    (presents : call.presents = some ⟨table, key, token⟩)
    (stale : ∀ row, tables.row table key = some row →
      table.fence.token row ≠ some token) :
    ∃ reply, call.body stamp tables = .ok (reply, tables) ∧
      call.refusal reply = true := by
  cases call with
  | completeEvent rowId leaseToken ignored
  | retryEventContention rowId leaseToken retryAfterSeconds
  | completeFileSubmission eventId fileId leaseToken
  | releaseFileSubmission eventId fileId leaseToken
  | completeReviewExecution submissionKey leaseToken
  | renewReviewExecution submissionKey leaseToken leaseSeconds
  | releaseReviewExecution submissionKey leaseToken
  | markReviewJobPublished submissionKey leaseToken
  | retryReviewJobPublish submissionKey leaseToken attempts
  | markOutboundSent outboxId leaseToken =>
      cases presents
      refine ⟨false, ?_, rfl⟩
      simp only [SlackCall.body, SlackTables.completeEvent, SlackTables.retryEventContention,
        SlackTables.completeFileSubmission, SlackTables.releaseFileSubmission,
        SlackTables.completeReviewExecution, SlackTables.renewReviewExecution,
        SlackTables.releaseReviewExecution, SlackTables.markReviewJobPublished,
        SlackTables.retryReviewJobPublish, SlackTables.markOutboundSent]
      rw [updateOne_refused]
      · rfl
      · intro row found
        have other : row.leaseToken ≠ some token := stale row found
        simp [SlackTables.eventOwned, SlackTables.fileOwned, SlackTables.executionOwned,
          SlackTables.jobOwned, SlackTables.outboundOwned, other]
  | retryEvent rowId leaseToken attempts maxAttempts retryAfterSeconds
  | rescheduleOutbound outboxId leaseToken attempts maxAttempts retryAfterSeconds =>
      cases presents
      refine ⟨RetryOutcome.stale, ?_, rfl⟩
      simp only [SlackCall.body, SlackTables.retryEvent, SlackTables.rescheduleOutbound]
      rw [updateOne_refused]
      · rfl
      · intro row found
        have other : row.leaseToken ≠ some token := stale row found
        simp [SlackTables.eventOwned, SlackTables.outboundOwned, other]
  | _ => cases presents

/-- A completion needs the row leased and leaves it settled. -/
theorem completed_row (call : SlackCall)
    (success : call.completed tables = some ⟨table, key⟩) :
    (∃ row, tables.row table key = some row ∧
        table.fence.stage row = .leased) ∧
      ∃ row, (call.after stamp tables).row table key = some row ∧
        table.fence.stage row = .settled := by
  cases call with
  | completeEvent rowId leaseToken ignored =>
      obtain ⟨reported, ⟨⟩⟩ := Option.ite_some_none_eq_some.mp success
      obtain ⟨row, found, owned, settled⟩ := updateOne_success reported
      refine ⟨⟨row, found, (eventOwned_leased owned).2⟩, _, settled, ?_⟩
      cases ignored <;> rfl
  | completeFileSubmission eventId fileId leaseToken =>
      obtain ⟨reported, ⟨⟩⟩ := Option.ite_some_none_eq_some.mp success
      obtain ⟨row, found, owned, settled⟩ := updateOne_success reported
      exact ⟨⟨row, found, (fileOwned_leased owned).2⟩, _, settled, rfl⟩
  | completeReviewExecution submissionKey leaseToken =>
      obtain ⟨reported, ⟨⟩⟩ := Option.ite_some_none_eq_some.mp success
      obtain ⟨row, found, owned, settled⟩ := updateOne_success reported
      exact ⟨⟨row, found, (executionOwned_leased owned).2⟩, _, settled, rfl⟩
  | markReviewJobPublished submissionKey leaseToken =>
      obtain ⟨reported, ⟨⟩⟩ := Option.ite_some_none_eq_some.mp success
      obtain ⟨row, found, owned, settled⟩ := updateOne_success reported
      exact ⟨⟨row, found, (jobOwned_leased owned).2⟩, _, settled, rfl⟩
  | markOutboundSent outboxId leaseToken =>
      obtain ⟨reported, ⟨⟩⟩ := Option.ite_some_none_eq_some.mp success
      obtain ⟨row, found, owned, settled⟩ := updateOne_success reported
      exact ⟨⟨row, found, (outboundOwned_leased owned).2⟩, _, settled, rfl⟩
  | _ => cases success

/-- A row selected for a claim is found under its key, and is due. -/
private theorem selected_row {Row Key Rank : Type} {rowKey : Row → Key}
    [DecidableEq Key] {leased : RowTable rowKey} {condition : Row → Bool}
    {rank : Row → Rank} {before : Rank → Rank → Bool} {count : Int}
    {selected : Row}
    (member : selected ∈
      orderedFirst (leased.select condition) rank before count) :
    leased.find? (rowKey selected) = some selected ∧
      condition selected = true := by
  have inSelect := mem_of_mem_orderedFirst member
  rw [RowTable.select, List.mem_filter] at inSelect
  exact ⟨RowTable.find?_of_mem inSelect.1, inSelect.2⟩

/-- No call hands out a lease on a settled row. -/
theorem claimed_unsettled (call : SlackCall)
    (claimed : ⟨table, key⟩ ∈ call.claimed stamp tables) :
    ∀ row, tables.row table key = some row →
      table.fence.stage row ≠ .settled := by
  cases call with
  | claimDueEvents limit leaseSeconds =>
      obtain ⟨item, member, ⟨⟩⟩ := List.mem_map.mp claimed
      simp only [SlackTables.claimDueEvents] at member
      split at member
      · cases member
      · obtain ⟨selected, selectedMember, token, rfl⟩ :=
          mem_claimEach _ _ _ _ _ _ _ _ _ member
        obtain ⟨found, due⟩ := selected_row selectedMember
        intro row rowFound
        obtain rfl : selected = row :=
          Option.some.inj (found.symm.trans rowFound)
        exact eventDue_unsettled due
  | claimFileSubmission eventId fileId leaseSeconds =>
      simp only [SlackCall.claimed] at claimed
      split at claimed
      · rename_i took
        obtain ⟨⟩ := List.mem_singleton.mp claimed
        intro (row : FileSubmissionRow) found settled
        have completed : row.status = .completed := by
          change row.status.stage = .settled at settled
          cases status : row.status <;>
            simp [status, SubmissionStatus.stage] at settled ⊢
        have present : tables.files.find? (eventId, fileId) = some row := found
        have taken := took
        simp only [SlackTables.claimFileSubmission] at taken
        split at taken
        · rename_i inserted insertion
          have absent := RowTable.insert?_isSome_iff.mp
            (Option.isSome_of_eq_some insertion)
          rw [present] at absent
          cases absent
        · simp [present, completed] at taken
      · cases claimed
  | claimReviewExecution submissionKey leaseSeconds =>
      simp only [SlackCall.claimed] at claimed
      split at claimed
      · rename_i took
        obtain ⟨⟩ := List.mem_singleton.mp claimed
        intro (row : ReviewExecutionRow) found settled
        have completed : row.status = .completed := by
          change row.status.stage = .settled at settled
          cases status : row.status <;>
            simp [status, SubmissionStatus.stage] at settled ⊢
        have present : tables.executions.find? submissionKey = some row := found
        have taken := took
        simp only [SlackTables.claimReviewExecution] at taken
        split at taken
        · rename_i inserted insertion
          have absent := RowTable.insert?_isSome_iff.mp
            (Option.isSome_of_eq_some insertion)
          rw [present] at absent
          cases absent
        · simp [present, completed] at taken
      · cases claimed
  | claimDueReviewJobs limit leaseSeconds =>
      obtain ⟨item, member, ⟨⟩⟩ := List.mem_map.mp claimed
      obtain ⟨selected, selectedMember, token, rfl⟩ :=
        mem_claimEach _ _ _ _ _ _ _ _ _ member
      obtain ⟨found, due⟩ := selected_row selectedMember
      intro row rowFound
      obtain rfl : selected = row :=
        Option.some.inj (found.symm.trans rowFound)
      exact jobDue_unsettled due
  | claimDueOutbound limit leaseSeconds =>
      obtain ⟨item, member, ⟨⟩⟩ := List.mem_map.mp claimed
      obtain ⟨selected, selectedMember, token, rfl⟩ :=
        mem_claimEach _ _ _ _ _ _ _ _ _ member
      obtain ⟨found, due⟩ := selected_row selectedMember
      intro row rowFound
      obtain rfl : selected = row :=
        Option.some.inj (found.symm.trans rowFound)
      exact outboundDue_unsettled tables due
  | _ => cases claimed

/-- No call changes the job identifier of an attachment. -/
theorem reviewJobId_after (call : SlackCall) {key : String × String}
    {row : FileSubmissionRow} (found : tables.files.find? key = some row) :
    ∃ after, (call.after stamp tables).files.find? key = some after ∧
      after.reviewJobId = row.reviewJobId := by
  by_cases writes : call.target = some .files
  · cases call with
    | claimFileSubmission eventId fileId leaseSeconds =>
        simp only [SlackCall.after, SlackCall.body,
          SlackTables.claimFileSubmission]
        split
        · rename_i inserted insertion
          have absent := RowTable.insert?_isSome_iff.mp
            (Option.isSome_of_eq_some insertion)
          refine ⟨row, ?_, rfl⟩
          change inserted.find? key = some row
          rw [RowTable.find?_insert? insertion]
          split
          · rename_i same
            rw [← same, absent] at found
            cases found
          · exact found
        · split
          · exact ⟨row, found, rfl⟩
          · split
            · exact ⟨row, found, rfl⟩
            · exact updateOne_column FileSubmissionRow.reviewJobId _ _ _
                (by intro _; rfl) found
    | completeFileSubmission eventId fileId leaseToken
    | releaseFileSubmission eventId fileId leaseToken =>
        exact updateOne_column FileSubmissionRow.reviewJobId _ _ _
          (by intro _; rfl) found
    | _ => cases writes
  · have same : (call.after stamp tables).files.find? = tables.files.find? :=
      row_after_of_not_target stamp tables call writes
    exact ⟨row, by rw [same, found], rfl⟩

/-- A claim returns the job identifier that the attachment's row carries afterwards. -/
theorem reviewJobId_of_claim (eventId fileId : String) (leaseSeconds : Int) :
    ∃ row, ((SlackCall.claimFileSubmission eventId fileId leaseSeconds).after
        stamp tables).files.find? (eventId, fileId) = some row ∧
      (tables.claimFileSubmission stamp eventId fileId leaseSeconds).1.reviewJobId =
        some row.reviewJobId := by
  cases found : tables.files.find? (eventId, fileId) with
  | none =>
      have inserts : (tables.files.insert?
          { eventId, fileId, leaseToken := some (stamp.uuid4 0)
            reviewJobId := stamp.uuid4 1
            leaseExpiresAt := some (leaseUntil stamp leaseSeconds) }).isSome :=
        RowTable.insert?_isSome_iff.mpr found
      obtain ⟨inserted, insertion⟩ := Option.isSome_iff_exists.mp inserts
      simp only [SlackCall.after, SlackCall.body,
        SlackTables.claimFileSubmission, insertion]
      rw [RowTable.find?_insert? insertion, if_pos rfl]
      exact ⟨_, rfl, rfl⟩
  | some row =>
      obtain ⟨after, afterFound, sameJob⟩ := reviewJobId_after stamp tables
        (.claimFileSubmission eventId fileId leaseSeconds) found
      refine ⟨after, afterFound, ?_⟩
      have refused : tables.files.insert?
          { eventId, fileId, leaseToken := some (stamp.uuid4 0)
            reviewJobId := stamp.uuid4 1
            leaseExpiresAt := some (leaseUntil stamp leaseSeconds) } = none :=
        RowTable.insert?_eq_none_iff.mpr (Option.isSome_of_eq_some found)
      rw [sameJob]
      simp only [SlackTables.claimFileSubmission, refused, found]
      split
      · rfl
      · split <;> rfl

end Verdicts

/-! ## Runs -/

/-- A call and the time that passes before it. -/
structure TimedSlackCall where
  elapsed : Nat
  call : SlackCall

/-- The tables, the clock and the number of calls so far. -/
structure SlackRun where
  tables : SlackTables
  now : Int
  calls : Nat

namespace SlackRun

/-- A run starts with installations and without rows in the leased tables. -/
def start (installations : RowTable SlackInstallationRow.id) (now : Int) :
    SlackRun :=
  ⟨{ (default : SlackTables) with installations }, now, 0⟩

/-- What the next call reads. -/
def stamp (run : SlackRun) (elapsed : Nat) : Stamp :=
  ⟨run.now + elapsed, run.calls⟩

/-- One call of one worker, as one serialised transaction. -/
def perform (run : SlackRun) (timed : TimedSlackCall) : SlackRun where
  tables := timed.call.after (run.stamp timed.elapsed) run.tables
  now := run.now + timed.elapsed
  calls := run.calls + 1

/-- The run after a list of calls. -/
def performAll (run : SlackRun) (calls : List TimedSlackCall) : SlackRun :=
  calls.foldl perform run

/-- How often a row is reported as completed. -/
def completions (run : SlackRun) (calls : List TimedSlackCall)
    (table : LeaseTable) (key : table.Key) : Nat :=
  fireCount perform
    (fun run timed => timed.call.completed run.tables = some ⟨table, key⟩)
    run calls

end SlackRun

/-- A property of the tables that every call preserves holds after any run. -/
theorem SlackRun.performAll_induction (holds : SlackTables → Prop)
    (preserves : ∀ stamp tables call, holds tables →
      holds (SlackCall.after stamp tables call))
    (calls : List TimedSlackCall) (run : SlackRun) (initially : holds run.tables) :
    holds (run.performAll calls).tables := by
  induction calls generalizing run with
  | nil => exact initially
  | cons timed calls induction =>
      exact induction (run.perform timed)
        (preserves _ run.tables timed.call initially)

theorem SlackRun.start_row (installations : RowTable SlackInstallationRow.id)
    (now : Int) (table : LeaseTable) (key : table.Key) :
    (SlackRun.start installations now).tables.row table key = none := by
  cases table <;> rfl

/-- A token is present only on leased rows, after any run. -/
theorem SlackRun.sound_performAll
    (installations : RowTable SlackInstallationRow.id) (now : Int)
    (calls : List TimedSlackCall) (table : LeaseTable) :
    ∀ key row,
      ((start installations now).performAll calls).tables.row table key =
        some row →
      table.fence.Sound row := by
  refine SlackRun.performAll_induction
    (fun tables => ∀ key row, tables.row table key = some row →
      table.fence.Sound row) ?_ calls (start installations now) ?_
  · intro stamp tables call sound
    exact (row_tableStep stamp tables call table).sound sound
  · intro key row found
    rw [start_row] at found
    cases found

/-- A settled row stays as it is, whatever calls follow. -/
theorem SlackRun.settled_performAll {table : LeaseTable} {key : table.Key}
    {row : table.Row} (run : SlackRun)
    (found : run.tables.row table key = some row)
    (settled : table.fence.stage row = .settled)
    (calls : List TimedSlackCall) :
    (run.performAll calls).tables.row table key = some row := by
  refine SlackRun.performAll_induction
    (fun tables => tables.row table key = some row) ?_ calls run found
  intro stamp tables call before
  exact (row_tableStep stamp tables call table).settled before settled

theorem SlackRun.completions_le_one (run : SlackRun)
    (calls : List TimedSlackCall) (table : LeaseTable) (key : table.Key) :
    run.completions calls table key ≤ 1 := by
  refine fireCount_le_one table.fence
    (fun run => run.tables.row table key) ?_ ?_ ?_ calls run
  · intro run timed row found settled
    exact (row_tableStep _ run.tables timed.call table).settled found settled
  · intro run timed fired
    exact (completed_row (run.stamp timed.elapsed) run.tables timed.call
      (of_decide_eq_true fired)).1
  · intro run timed fired
    exact (completed_row (run.stamp timed.elapsed) run.tables timed.call
      (of_decide_eq_true fired)).2

/-- The attachment's row keeps its job identifier through any run. -/
theorem SlackRun.reviewJobId_performAll {key : String × String}
    {jobId : Uuid} (run : SlackRun) (calls : List TimedSlackCall)
    (initially : ∃ row, run.tables.files.find? key = some row ∧
      row.reviewJobId = jobId) :
    ∃ row, (run.performAll calls).tables.files.find? key = some row ∧
      row.reviewJobId = jobId := by
  refine SlackRun.performAll_induction
    (fun tables => ∃ row, tables.files.find? key = some row ∧
      row.reviewJobId = jobId) ?_ calls run initially
  rintro stamp tables call ⟨row, found, same⟩
  obtain ⟨after, afterFound, afterSame⟩ :=
    reviewJobId_after stamp tables call found
  exact ⟨after, afterFound, afterSame.trans same⟩

/-- Lease fencing of the five Slack tables, after any run of calls: tokens sit on
leased rows only, stale tokens are refused without effect, settled rows are never
claimed or changed again, a row is completed at most once, and every claim of an
attachment returns the same job identifier. -/
theorem slackLeases_fenced (installations : RowTable SlackInstallationRow.id)
    (now : Int) (calls : List TimedSlackCall) :
    let run := (SlackRun.start installations now).performAll calls
    (∀ table key row, run.tables.row table key = some row →
      table.fence.token row ≠ none → table.fence.stage row = .leased) ∧
    (∀ call table key token, call.presents = some ⟨table, key, token⟩ →
      (∀ row, run.tables.row table key = some row →
        table.fence.token row ≠ some token) →
      ∀ elapsed, (run.perform ⟨elapsed, call⟩).tables = run.tables ∧
        ∃ reply, call.body (run.stamp elapsed) run.tables =
            .ok (reply, run.tables) ∧
          call.refusal reply = true) ∧
    (∀ table key row, run.tables.row table key = some row →
      table.fence.stage row = .settled →
      ∀ later, (run.performAll later).tables.row table key = some row ∧
        ∀ elapsed call, ⟨table, key⟩ ∉
          SlackCall.claimed ((run.performAll later).stamp elapsed)
            (run.performAll later).tables call) ∧
    (∀ table key,
      (SlackRun.start installations now).completions calls table key ≤ 1) ∧
    (∀ eventId fileId leaseSeconds elapsed, ∃ jobId,
      (run.tables.claimFileSubmission (run.stamp elapsed) eventId fileId
        leaseSeconds).1.reviewJobId = some jobId ∧
      ∀ later laterLeaseSeconds laterElapsed,
        let laterRun := (run.perform
          ⟨elapsed, .claimFileSubmission eventId fileId leaseSeconds⟩).performAll
            later
        (∃ row, laterRun.tables.files.find? (eventId, fileId) = some row ∧
          row.reviewJobId = jobId) ∧
        (laterRun.tables.claimFileSubmission (laterRun.stamp laterElapsed) eventId
          fileId laterLeaseSeconds).1.reviewJobId = some jobId) := by
  intro run
  refine ⟨SlackRun.sound_performAll installations now calls, ?_, ?_,
    SlackRun.completions_le_one _ calls, ?_⟩
  · intro call table key token presents stale elapsed
    obtain ⟨reply, refused, refusal⟩ := body_of_stale_token
      (run.stamp elapsed) run.tables call presents stale
    refine ⟨?_, reply, refused, refusal⟩
    simp only [SlackRun.perform, SlackCall.after, refused]
  · intro table key row found settled later
    have kept := run.settled_performAll found settled later
    refine ⟨kept, fun elapsed call claimed => ?_⟩
    exact claimed_unsettled _ _ call claimed row kept settled
  · intro eventId fileId leaseSeconds elapsed
    obtain ⟨claimed, claimedFound, returned⟩ := reviewJobId_of_claim
      (run.stamp elapsed) run.tables eventId fileId leaseSeconds
    refine ⟨claimed.reviewJobId, returned, ?_⟩
    intro later laterLeaseSeconds laterElapsed laterRun
    obtain ⟨row, found, same⟩ := SlackRun.reviewJobId_performAll
      (run.perform ⟨elapsed, .claimFileSubmission eventId fileId leaseSeconds⟩)
      later ⟨claimed, claimedFound, rfl⟩
    refine ⟨⟨row, found, same⟩, ?_⟩
    obtain ⟨after, afterFound, laterReturned⟩ := reviewJobId_of_claim
      (laterRun.stamp laterElapsed) laterRun.tables eventId fileId laterLeaseSeconds
    obtain ⟨kept, keptFound, keptSame⟩ := reviewJobId_after
      (laterRun.stamp laterElapsed) laterRun.tables
      (.claimFileSubmission eventId fileId laterLeaseSeconds) found
    obtain rfl : kept = after :=
      Option.some.inj (keptFound.symm.trans afterFound)
    rw [laterReturned, keptSame, same]

/-- An attachment whose lease ran out under its first worker. -/
def sampleReclaim : List TimedSlackCall :=
  [⟨0, .claimFileSubmission "event" "file" 60⟩,
    ⟨60000000, .claimFileSubmission "event" "file" 60⟩]

/-- The first worker's completion is refused, the second one's is not, and the job stays
the one that the first claim drew. -/
theorem slackLeases_fenced_sample :
    let run := (SlackRun.start RowTable.empty 0).performAll sampleReclaim
    (run.perform ⟨1, .completeFileSubmission "event" "file" ⟨0, 0⟩⟩).tables = run.tables ∧
      (run.tables.completeFileSubmission "event" "file" ⟨1, 0⟩).1 = true ∧
      (run.tables.claimFileSubmission (run.stamp 1) "event" "file" 60).1.reviewJobId =
        some ⟨0, 1⟩ := by
  intro run
  obtain ⟨_, fenced, _⟩ := slackLeases_fenced RowTable.empty 0 sampleReclaim
  obtain ⟨_, _, _, _, sameJob⟩ := slackLeases_fenced RowTable.empty 0 []
  refine ⟨?_, by decide, ?_⟩
  · refine (fenced (.completeFileSubmission "event" "file" ⟨0, 0⟩) .files ("event", "file")
      ⟨0, 0⟩ rfl ?_ 1).1
    have reclaimed : run.tables.row .files ("event", "file") =
        some ⟨"event", "file", .processing, some ⟨1, 0⟩, ⟨0, 1⟩, some 120000000⟩ := rfl
    intro row found
    rw [reclaimed] at found
    obtain rfl := Option.some.inj found
    change some (⟨1, 0⟩ : Uuid) ≠ some ⟨0, 0⟩
    decide
  · obtain ⟨jobId, drawn, kept⟩ := sameJob "event" "file" 60 0
    have first : jobId = ⟨0, 1⟩ := by
      have computed : ((SlackRun.start RowTable.empty 0).tables.claimFileSubmission
          ((SlackRun.start RowTable.empty 0).stamp 0) "event" "file" 60).1.reviewJobId =
          some ⟨0, 1⟩ := by decide
      exact Option.some.inj (drawn.symm.trans computed)
    rw [← first]
    exact (kept [⟨60000000, .claimFileSubmission "event" "file" 60⟩] 60 1).2

end ContractMate
