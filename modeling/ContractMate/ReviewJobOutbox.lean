import ContractMate.ReviewExecutions

/-!
# What the calls do to the review job outbox

The durable envelopes under `persist_review_job`, the claim of due envelopes and
the two calls that record how a publication went.
-/

namespace ContractMate

namespace SlackTables

/-- An item holds the lease under which its envelope is being published. -/
def publishing (tables : SlackTables) (item : SlackReviewJobOutboxItem) :
    Bool :=
  (tables.jobs.find? item.submissionKey).any fun row =>
    row.jobId = item.jobId && row.payload = item.payload &&
      row.status = .publishing && row.leaseToken = some item.leaseToken

end SlackTables

section Outbox

variable {tables : SlackTables} {stamp : Stamp}

theorem publishing_iff {item : SlackReviewJobOutboxItem} :
    tables.publishing item = true ↔
      ∃ row, tables.jobs.find? item.submissionKey = some row ∧
        row.jobId = item.jobId ∧ row.payload = item.payload ∧
        row.status = .publishing ∧ row.leaseToken = some item.leaseToken := by
  unfold SlackTables.publishing
  cases tables.jobs.find? item.submissionKey with
  | none => simp
  | some row => simp [and_assoc]

/-- Every claimed envelope is leased under a token of the claim. -/
theorem claimDueReviewJobs_spec (tables : SlackTables) (stamp : Stamp)
    (limit leaseSeconds : Int) :
    let claimed := tables.claimDueReviewJobs stamp limit leaseSeconds
    (claimed.1.map SlackReviewJobOutboxItem.submissionKey).Nodup ∧
      ∀ item ∈ claimed.1, item.leaseToken.call = stamp.call ∧
        claimed.2.publishing item = true := by
  have nodup := orderedFirst_nodup tables.jobs (SlackTables.jobDue stamp.now)
    (fun row => (row.nextAttemptAt, row.createdAt)) timesLe (max limit 1)
  refine ⟨?_, ?_⟩
  · exact (claimEach_sublist _ _ _ stamp SlackReviewJobOutboxItem.submissionKey
      ReviewJobRow.submissionKey (fun _ _ => rfl) true _ _ _).nodup nodup
  · intro item member
    obtain ⟨selected, inRows, place, old, rfl, found, written⟩ :=
      claimEach_taken _ _ _ stamp _ _ _ nodup item member
    have inTable := mem_of_mem_orderedFirst inRows
    rw [RowTable.select, List.mem_filter] at inTable
    obtain rfl : selected = old :=
      Option.some.inj ((RowTable.find?_of_mem inTable.1).symm.trans found)
    exact ⟨rfl, publishing_iff.mpr ⟨_, written, rfl, rfl, rfl, rfl⟩⟩

/-- Job and payload of an envelope. -/
def ReviewJobRow.content (row : ReviewJobRow) : Uuid × JobPayload :=
  (row.jobId, row.payload)

theorem updateOne_content (value : String) (guard : ReviewJobRow → Bool)
    (change : RowTable.Change ReviewJobRow.submissionKey)
    (unset : ∀ row, (change.apply row).content = row.content) (key : String) :
    ((updateOne tables.jobs value guard change).2.find? key).map
        ReviewJobRow.content =
      (tables.jobs.find? key).map ReviewJobRow.content := by
  simp only [updateOne, RowTable.find?_updateWhere]
  cases tables.jobs.find? key with
  | none => rfl
  | some row =>
      simp only [Option.map_some, Option.some.injEq]
      split
      · exact unset row
      · rfl

/-- Only `persist_review_job` writes the content of an envelope. -/
theorem content_after (call : SlackCall)
    (unlike : ∀ key jobId payload, call ≠ .persistReviewJob key jobId payload)
    (key : String) :
    ((call.after stamp tables).jobs.find? key).map ReviewJobRow.content =
      (tables.jobs.find? key).map ReviewJobRow.content := by
  by_cases writes : call.target = some .jobs
  · cases call with
    | persistReviewJob submissionKey jobId payload =>
        exact absurd rfl (unlike submissionKey jobId payload)
    | claimDueReviewJobs limit leaseSeconds =>
        exact claimEach_column _ _ _ stamp ReviewJobRow.content
          (fun _ _ _ => rfl) true _ _ _ _
    | markReviewJobPublished submissionKey leaseToken =>
        exact updateOne_content _ _ _ (fun _ => rfl) key
    | retryReviewJobPublish submissionKey leaseToken attempts =>
        exact updateOne_content _ _ _ (fun _ => rfl) key
    | _ => cases writes
  · have rows : (call.after stamp tables).jobs.find? = tables.jobs.find? :=
      row_after_of_not_target stamp tables call writes
    rw [rows]

/-- Persisting an envelope again is accepted exactly when it is the same. -/
theorem persistReviewJob_stored {key : String} {jobId : Uuid}
    {payload : JobPayload} {row : ReviewJobRow}
    (found : tables.jobs.find? key = some row) :
    tables.persistReviewJob stamp key jobId payload =
      if row.jobId = jobId ∧ row.payload = payload then .ok tables
      else .error (Exn.valueError
        "Slack submission already has a different review job envelope") := by
  have taken (fresh : ReviewJobRow) (sameKey : fresh.submissionKey = key) :
      tables.jobs.insertIgnore fresh = tables.jobs := by
    rw [RowTable.insertIgnore, RowTable.insert?_eq_none_iff.mpr]
    · rfl
    · rw [sameKey, found]
      rfl
  unfold SlackTables.persistReviewJob
  dsimp only
  rw [found, if_neg (by simp), taken _ rfl, found]
  dsimp only
  by_cases same : row.jobId = jobId ∧ row.payload = payload
  · rw [if_neg (by simp [same.1, same.2]), if_pos same]
  · rw [if_pos (not_and_or.mp same), if_neg same]

/-- The first envelope of a submission is stored, unless its job is taken. -/
theorem persistReviewJob_first {key : String} {jobId : Uuid}
    {payload : JobPayload} (absent : tables.jobs.find? key = none)
    (free : ∀ other row, tables.jobs.find? other = some row →
      row.jobId ≠ jobId) :
    ∃ after, tables.persistReviewJob stamp key jobId payload = .ok after ∧
      ∀ other, (after.jobs.find? other).map ReviewJobRow.content =
        if other = key then some (jobId, payload)
        else (tables.jobs.find? other).map ReviewJobRow.content := by
  have unused : tables.jobs.affected (fun row => row.jobId = jobId) = 0 := by
    rw [RowTable.affected_eq_zero_iff]
    intro row member
    simpa using free _ row (RowTable.find?_of_mem member)
  unfold SlackTables.persistReviewJob
  dsimp only
  rw [absent, unused, if_neg (by simp), RowTable.find?_insertIgnore,
    if_pos rfl, absent]
  dsimp only [Option.getD_none]
  rw [if_neg (by simp)]
  refine ⟨_, rfl, fun other => ?_⟩
  dsimp only
  rw [RowTable.find?_insertIgnore]
  by_cases here : key = other
  · subst here
    rw [if_pos rfl, if_pos rfl, absent]
    rfl
  · rw [if_neg here, if_neg (Ne.symm here)]

/-- A keyed update leaves the envelopes of other submissions. -/
theorem publishing_updateOne {key : String} {guard : ReviewJobRow → Bool}
    {change : RowTable.Change ReviewJobRow.submissionKey}
    {item : SlackReviewJobOutboxItem} (other : item.submissionKey ≠ key) :
    ({ tables with jobs := (updateOne tables.jobs key guard change).2 } :
      SlackTables).publishing item = tables.publishing item := by
  simp only [SlackTables.publishing, updateOne,
    RowTable.find?_updateWhere_key, if_neg other]

end Outbox

end ContractMate
