import ContractMate.ReviewCalls
import ContractMate.SlackLeaseFencing

/-!
# What the calls do to a review execution

The execution row of a submission under the four calls that write it, the
outbound messages by idempotency key, and the fact that nothing else touches
them.
-/

namespace ContractMate

/-- What a review execution row amounts to. -/
inductive Execution where
  | absent
  | pending
  | held (token : Option Uuid)
  | completed
deriving DecidableEq, Repr

def ReviewExecutionRow.execution (row : ReviewExecutionRow) : Execution :=
  match row.status with
  | .pending => .pending
  | .processing => .held row.leaseToken
  | .completed => .completed

namespace SlackTables

/-- The execution of a submission. -/
def execution (tables : SlackTables) (submissionKey : String) : Execution :=
  ((tables.executions.find? submissionKey).map
    ReviewExecutionRow.execution).getD .absent

end SlackTables

section Executions

variable {tables : SlackTables} {stamp : Stamp} {key : String} {token : Uuid}

theorem execution_eq_of_row {row : ReviewExecutionRow}
    (found : tables.executions.find? key = some row) :
    tables.execution key = row.execution := by
  simp [SlackTables.execution, found]

theorem executionOwned_iff {row : ReviewExecutionRow} :
    SlackTables.executionOwned token row = true ↔
      row.execution = .held (some token) := by
  unfold SlackTables.executionOwned ReviewExecutionRow.execution
  cases row.status <;> simp

theorem getReviewExecutionStatus_eq_completed_iff :
    tables.getReviewExecutionStatus key = some .completed ↔
      tables.execution key = .completed := by
  unfold SlackTables.getReviewExecutionStatus SlackTables.execution
    ReviewExecutionRow.execution
  cases tables.executions.find? key with
  | none => simp
  | some row => cases status : row.status <;> simp [status]

/-- An update under the lease token, seen as executions. -/
theorem ownedUpdate_execution (tables : SlackTables) (key : String)
    (token : Uuid) (change : RowTable.Change ReviewExecutionRow.submissionKey)
    (reached : Execution)
    (leads : ∀ row : ReviewExecutionRow,
      row.execution = .held (some token) →
        (change.apply row).execution = reached) :
    let updated := updateOne tables.executions key
      (SlackTables.executionOwned token) change
    let after : SlackTables := { tables with executions := updated.2 }
    (updated.1 = true ↔ tables.execution key = .held (some token)) ∧
      ∀ other, after.execution other =
        if other = key ∧ tables.execution key = .held (some token) then reached
        else tables.execution other := by
  rcases updateOne_cases tables.executions key
      (SlackTables.executionOwned token) change with
    ⟨row, found, owned, success, rows⟩ | ⟨refused, same⟩
  · have holder := execution_eq_of_row found
    rw [executionOwned_iff.mp owned] at holder
    refine ⟨⟨fun _ => holder, fun _ => success⟩, ?_⟩
    intro other
    have view : (⟨tables.installations, tables.events, tables.files, (updateOne
          tables.executions key (SlackTables.executionOwned token) change).2,
          tables.jobs, tables.outbound⟩ : SlackTables).execution other =
        (((updateOne tables.executions key (SlackTables.executionOwned token)
          change).2.find? other).map ReviewExecutionRow.execution).getD .absent :=
      rfl
    rw [view, rows other]
    by_cases here : other = key
    · subst here
      rw [if_pos rfl, if_pos ⟨rfl, holder⟩]
      exact leads row (executionOwned_iff.mp owned)
    · rw [if_neg here, if_neg (fun both => here both.1)]
      rfl
  · have nobody : tables.execution key ≠ .held (some token) := by
      intro holder
      cases found : tables.executions.find? key with
      | none => simp [SlackTables.execution, found] at holder
      | some row =>
        rw [execution_eq_of_row found] at holder
        have refusal := refused row found
        rw [executionOwned_iff.mpr holder] at refusal
        cases refusal
    simp only [same]
    exact ⟨by simpa using nobody, fun other => by simp [nobody]⟩

/-- `complete_review_execution` succeeds for the holder of the lease. -/
theorem completeReviewExecution_spec (tables : SlackTables) (key : String)
    (token : Uuid) :
    let answer := tables.completeReviewExecution key token
    (answer.1 = true ↔ tables.execution key = .held (some token)) ∧
      ∀ other, answer.2.execution other =
        if other = key ∧ tables.execution key = .held (some token)
        then .completed else tables.execution other :=
  ownedUpdate_execution tables key token _ _ fun _ _ => rfl

/-- `renew_review_execution` tells whether the lease is still held. -/
theorem renewReviewExecution_spec (tables : SlackTables) (stamp : Stamp)
    (key : String) (token : Uuid) (leaseSeconds : Int) :
    let answer := tables.renewReviewExecution stamp key token leaseSeconds
    (answer.1 = true ↔ tables.execution key = .held (some token)) ∧
      ∀ other, answer.2.execution other = tables.execution other := by
  have spec := ownedUpdate_execution tables key token
    ⟨fun row : ReviewExecutionRow =>
      { row with leaseExpiresAt := some (leaseUntil stamp leaseSeconds) },
      fun _ => rfl⟩ (.held (some token)) fun _ held => held
  refine ⟨spec.1, fun other => (spec.2 other).trans ?_⟩
  split
  · rename_i here
    rw [here.1, here.2]
  · rfl

/-- `release_review_execution` frees the lease of its holder. -/
theorem releaseReviewExecution_spec (tables : SlackTables) (key : String)
    (token : Uuid) :
    let answer := tables.releaseReviewExecution key token
    (answer.1 = true ↔ tables.execution key = .held (some token)) ∧
      ∀ other, answer.2.execution other =
        if other = key ∧ tables.execution key = .held (some token)
        then .pending else tables.execution other :=
  ownedUpdate_execution tables key token _ _ fun _ _ => rfl

/-- `claim_review_execution` hands out every execution that is neither completed
nor leased. -/
theorem claimReviewExecution_spec (tables : SlackTables) (stamp : Stamp)
    (key : String) (leaseSeconds : Int) :
    let answer := tables.claimReviewExecution stamp key leaseSeconds
    (answer.1 = ⟨.claimed, some (stamp.uuid4 0), none⟩ ∧
      tables.execution key ≠ .completed ∧
      ∀ other, answer.2.execution other =
        if other = key then .held (some (stamp.uuid4 0))
        else tables.execution other) ∨
    (answer = (⟨.completed, none, none⟩, tables) ∧
      tables.execution key = .completed) ∨
    (answer = (⟨.busy, none, none⟩, tables) ∧
      ∃ token, tables.execution key = .held token) := by
  unfold SlackTables.claimReviewExecution
  dsimp only
  split
  · rename_i executions inserted
    have absent : tables.executions.find? key = none :=
      RowTable.insert?_isSome_iff.mp (by rw [inserted]; rfl)
    refine .inl ⟨rfl, by simp [SlackTables.execution, absent], ?_⟩
    intro other
    simp only [SlackTables.execution,
      RowTable.find?_insert? inserted other]
    by_cases here : other = key
    · subst here
      rw [if_pos rfl, if_pos rfl]
      rfl
    · rw [if_neg (Ne.symm here), if_neg here]
  · rename_i taken
    obtain ⟨row, found⟩ :=
      Option.isSome_iff_exists.mp (RowTable.insert?_eq_none_iff.mp taken)
    have state := execution_eq_of_row found
    rw [found, Option.any_some]
    split
    · rename_i completed
      refine .inr (.inl ⟨rfl, ?_⟩)
      rw [state]
      simp [ReviewExecutionRow.execution, of_decide_eq_true completed]
    · rename_i incomplete
      have unfinished : row.status ≠ .completed := by simpa using incomplete
      rcases updateOne_cases tables.executions key
          (fun row : ReviewExecutionRow =>
            (row.status = .pending || row.status = .processing) &&
              (row.status = .pending ||
                leaseExpired row.leaseExpiresAt stamp.now))
          ⟨fun row =>
            { row with
              status := .processing
              leaseToken := some (stamp.uuid4 0)
              leaseExpiresAt := some (leaseUntil stamp leaseSeconds) },
            fun _ => rfl⟩ with
        ⟨old, oldFound, guard, success, rows⟩ | ⟨refused, same⟩
      · refine .inl ⟨by rw [success]; rfl, ?_, ?_⟩
        · rw [state]
          unfold ReviewExecutionRow.execution
          cases status : row.status <;> simp_all
        · intro other
          simp only [SlackTables.execution, rows other]
          split <;> rfl
      · refine .inr (.inr ⟨by rw [same]; rfl, row.leaseToken, ?_⟩)
        have refusal := refused row found
        rw [state]
        unfold ReviewExecutionRow.execution
        cases status : row.status <;> simp_all

end Executions

namespace SlackCall

variable {stamp : Stamp} {tables : SlackTables} {call : SlackCall}

theorem after_eq_of_body {answer : call.Ret} {after : SlackTables}
    (run : call.body stamp tables = .ok (answer, after)) :
    call.after stamp tables = after := by
  simp [SlackCall.after, run]

/-- A successful claim leaves the execution leased under the call's token. -/
theorem execution_of_claimed {key : String} {leaseSeconds : Int}
    {claim : SlackLeaseClaim} {after : SlackTables}
    (run : (claimReviewExecution key leaseSeconds).body stamp tables =
      .ok (claim, after))
    (claimed : claim.status = .claimed) :
    claim.leaseToken = some (stamp.uuid4 0) ∧ tables.execution key ≠ .completed ∧
      ∀ other, after.execution other =
        if other = key then .held (some (stamp.uuid4 0))
        else tables.execution other := by
  have answer : tables.claimReviewExecution stamp key leaseSeconds =
      (claim, after) := Except.ok.inj run
  rcases claimReviewExecution_spec tables stamp key leaseSeconds with
    ⟨reply, open_, rows⟩ | ⟨same, _⟩ | ⟨same, _⟩
  · rw [answer] at reply rows
    obtain rfl : claim = _ := reply
    exact ⟨rfl, open_, rows⟩
  · rw [answer] at same
    cases same
    cases claimed
  · rw [answer] at same
    cases same
    cases claimed

/-- A refused completion changes no execution. -/
theorem execution_of_refused {key : String} {token : Uuid} {after : SlackTables}
    (run : (completeReviewExecution key token).body stamp tables =
      .ok (false, after)) (other : String) :
    after.execution other = tables.execution other := by
  have answer : tables.completeReviewExecution key token = (false, after) :=
    Except.ok.inj run
  have spec := completeReviewExecution_spec tables key token
  rw [answer] at spec
  rw [spec.2 other, if_neg]
  intro held
  exact absurd (spec.1.mpr held.2) (by simp)

/-- Calls that do not write the execution table leave every execution. -/
theorem execution_of_not_target (other : call.target ≠ some .executions)
    (key : String) :
    (call.after stamp tables).execution key = tables.execution key := by
  have rows : (call.after stamp tables).executions.find? =
      tables.executions.find? :=
    row_after_of_not_target stamp tables call other
  simp only [SlackTables.execution, rows]

/-- Only `complete_review_execution` completes an execution. -/
theorem execution_ne_completed {key : String}
    (incomplete : tables.execution key ≠ .completed)
    (unlike : ∀ token, call ≠ completeReviewExecution key token) :
    (call.after stamp tables).execution key ≠ .completed := by
  by_cases writes : call.target = some .executions
  · cases call with
    | claimReviewExecution submissionKey leaseSeconds =>
        change (tables.claimReviewExecution stamp submissionKey
          leaseSeconds).2.execution key ≠ .completed
        rcases claimReviewExecution_spec tables stamp submissionKey leaseSeconds with
          ⟨_, _, rows⟩ | ⟨same, _⟩ | ⟨same, _⟩
        · rw [rows key]
          split
          · simp
          · exact incomplete
        · rw [same]
          exact incomplete
        · rw [same]
          exact incomplete
    | completeReviewExecution submissionKey leaseToken =>
        change (tables.completeReviewExecution submissionKey
          leaseToken).2.execution key ≠ .completed
        rw [(completeReviewExecution_spec _ _ _).2 key, if_neg]
        · exact incomplete
        · rintro ⟨rfl, _⟩
          exact unlike leaseToken rfl
    | renewReviewExecution submissionKey leaseToken leaseSeconds =>
        change (tables.renewReviewExecution stamp submissionKey leaseToken
          leaseSeconds).2.execution key ≠ .completed
        rw [(renewReviewExecution_spec _ _ _ _ _).2 key]
        exact incomplete
    | releaseReviewExecution submissionKey leaseToken =>
        change (tables.releaseReviewExecution submissionKey
          leaseToken).2.execution key ≠ .completed
        rw [(releaseReviewExecution_spec _ _ _).2 key]
        split
        · simp
        · exact incomplete
    | _ => cases writes
  · rw [execution_of_not_target writes key]
    exact incomplete

end SlackCall

theorem slackBody_ok {database result : ReviewDatabase} {stamp : Stamp}
    {call : SlackCall} {answer : call.Ret}
    (run : database.slackBody stamp call = .ok (answer, result)) :
    (∃ tables, call.body stamp database.slack = .ok (answer, tables)) ∧
      result = { database with slack := call.after stamp database.slack } := by
  unfold ReviewDatabase.slackBody at run
  cases ran : call.body stamp database.slack with
  | error error => simp [ran, Except.map] at run
  | ok reply =>
      rw [ran] at run
      cases run
      exact ⟨⟨_, rfl⟩, by rw [SlackCall.after_eq_of_body ran]⟩

/-- The calls on the other tables leave the Slack tables. -/
theorem DatabaseCall.slack_of_body {database result : ReviewDatabase}
    {stamp : Stamp} {call : DatabaseCall} {answer : call.Ret}
    (run : call.body stamp database = .ok (answer, result)) :
    result.slack = database.slack := by
  cases call with
  | insertContract contract =>
      simp only [DatabaseCall.body, ReviewDatabase.insertContract] at run
      split at run <;> cases run
      rfl
  | finalizeContractReview workspaceId contractId versionId review status =>
      simp only [DatabaseCall.body, ReviewDatabase.finalizeContractReview] at run
      split at run <;> cases run
      rfl
  | insertRun workspaceId contractId versionId source jobId =>
      simp only [DatabaseCall.body, ReviewDatabase.insertRun] at run
      split at run <;> cases run
      rfl
  | _ => cases run; rfl

end ContractMate
