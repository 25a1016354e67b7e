import ContractMate.EnvelopeDurability

/-!
# The envelope of a submission

Contract, processing runs and durable envelope of one Slack submission, what it
means that they belong together, and which statements keep it so.  The run of the
envelope is best effort: `persist_review_job` refuses a submission whose envelope
was stored without a run as soon as it comes with one.
-/

namespace ContractMate

/-- The envelope stored for a submission. -/
def ReviewDatabase.storedEnvelope (database : ReviewDatabase) (key : String) :
    Option JobPayload :=
  (database.slack.jobs.find? key).map ReviewJobRow.payload

/-- Every version belongs to a contract that exists. -/
def ReviewDatabase.VersionsOwned (database : ReviewDatabase) : Prop :=
  ∀ version ∈ database.versions.rows,
    (database.contracts.find? version.contractId).isSome

section Submission

variable (submission : SlackSubmission) (sha256 : String)

/-- The envelope of the submission for a contract and a processing run. -/
def SlackSubmission.envelope (ids : Uuid × Uuid) (runId : Option Uuid) :
    JobPayload where
  jobId := some submission.reviewJobId
  contractId := ids.1
  contractVersionId := ids.2
  workspaceId := submission.workspaceId
  emailThreadId := submission.sourceKey
  requestedBy := submission.accountEmail
  recipientName := none
  responseAddress := none
  originalSubject := none
  inReplyTo := none
  references := none
  sendReviewEmail := false
  processingRunId := runId
  sourceChannel := .slack
  sourceThreadKey := some submission.sourceKey
  slackInstallationId := some submission.installationId
  slackChannelId := some submission.channelId
  slackThreadTs := some submission.threadTs
  sourceSubmissionKey := some submission.key

/-- Contract, runs and envelope of the submission belong together. -/
structure SubmissionConsistent (database : ReviewDatabase) : Prop where
  owned : database.VersionsOwned
  run_contract : ∀ runId run, database.runs.find? runId = some run →
    run.jobId = some submission.reviewJobId →
    run.workspaceId = submission.workspaceId ∧
      database.findContract submission.workspaceId sha256 =
        some (run.contractId, run.contractVersionId)
  run_unique : ∀ firstId first secondId second,
    database.runs.find? firstId = some first →
    database.runs.find? secondId = some second →
    first.jobId = some submission.reviewJobId →
    second.jobId = some submission.reviewJobId → firstId = secondId
  envelope : ∀ key row, database.slack.jobs.find? key = some row →
    key = submission.key ∨ row.jobId = submission.reviewJobId →
    key = submission.key ∧ row.jobId = submission.reviewJobId ∧
      ∃ ids runId,
        database.findContract submission.workspaceId sha256 = some ids ∧
        row.payload = submission.envelope ids runId ∧
        ∀ id, runId = some id → ∃ run, database.runs.find? id = some run ∧
          run.jobId = some submission.reviewJobId

/-- What other parties may do meanwhile: they leave the identity of the contract,
of the runs of the job and of the stored envelope. -/
structure Undisturbed (before after : ReviewDatabase) : Prop where
  owned : before.VersionsOwned → after.VersionsOwned
  contract : ∀ ids,
    before.findContract submission.workspaceId sha256 = some ids →
    after.findContract submission.workspaceId sha256 = some ids
  runs_kept : ∀ runId run, before.runs.find? runId = some run →
    run.jobId = some submission.reviewJobId →
    ∃ later, after.runs.find? runId = some later ∧
      later.jobId = some submission.reviewJobId
  runs_old : ∀ runId run, after.runs.find? runId = some run →
    run.jobId = some submission.reviewJobId →
    ∃ earlier, before.runs.find? runId = some earlier ∧
      earlier.jobId = run.jobId ∧ earlier.workspaceId = run.workspaceId ∧
      earlier.contractId = run.contractId ∧
      earlier.contractVersionId = run.contractVersionId
  envelopes : ∀ key row, after.slack.jobs.find? key = some row →
    key = submission.key ∨ row.jobId = submission.reviewJobId →
    ∃ earlier, before.slack.jobs.find? key = some earlier ∧
      earlier.content = row.content
  stored : after.storedEnvelope submission.key =
    before.storedEnvelope submission.key

variable {submission sha256} {before after : ReviewDatabase}

theorem SubmissionConsistent.undisturbed
    (consistent : SubmissionConsistent submission sha256 before)
    (undisturbed : Undisturbed submission sha256 before after) :
    SubmissionConsistent submission sha256 after where
  owned := undisturbed.owned consistent.owned
  run_contract := by
    intro runId run found ours
    obtain ⟨earlier, was, sameJob, sameSpace, sameContract, sameVersion⟩ :=
      undisturbed.runs_old runId run found ours
    obtain ⟨space, contract⟩ :=
      consistent.run_contract runId earlier was (sameJob.trans ours)
    refine ⟨sameSpace ▸ space, undisturbed.contract _ ?_⟩
    rw [contract, sameContract, sameVersion]
  run_unique := by
    intro firstId first secondId second foundFirst foundSecond ours theirs
    obtain ⟨one, wasOne, sameOne, _⟩ :=
      undisturbed.runs_old firstId first foundFirst ours
    obtain ⟨two, wasTwo, sameTwo, _⟩ :=
      undisturbed.runs_old secondId second foundSecond theirs
    exact consistent.run_unique firstId one secondId two wasOne wasTwo
      (sameOne.trans ours) (sameTwo.trans theirs)
  envelope := by
    intro key row found ours
    obtain ⟨earlier, was, same⟩ := undisturbed.envelopes key row found ours
    obtain ⟨sameJob, samePayload⟩ := Prod.mk.inj same
    rw [← sameJob] at ours
    obtain ⟨same, job, ids, runId, contract, payload, run⟩ :=
      consistent.envelope key earlier was ours
    refine ⟨same, sameJob ▸ job, ids, runId, undisturbed.contract _ contract,
      samePayload ▸ payload, ?_⟩
    intro id isRun
    obtain ⟨old, foundOld, oldJob⟩ := run id isRun
    exact undisturbed.runs_kept id old foundOld oldJob

theorem Undisturbed.refl (database : ReviewDatabase) :
    Undisturbed submission sha256 database database where
  owned same := same
  contract _ found := found
  runs_kept _ run found ours := ⟨run, found, ours⟩
  runs_old _ run found _ := ⟨run, found, rfl, rfl, rfl, rfl⟩
  envelopes _ row found _ := ⟨row, found, rfl⟩
  stored := rfl

/-- Nothing that touches neither contracts' identity, runs nor envelopes
disturbs. -/
theorem Undisturbed.of_same
    (owned : before.VersionsOwned → after.VersionsOwned)
    (contract : after.findContract submission.workspaceId sha256 =
      before.findContract submission.workspaceId sha256)
    (runs : after.runs = before.runs)
    (jobs : ∀ key, (after.slack.jobs.find? key).map ReviewJobRow.content =
      (before.slack.jobs.find? key).map ReviewJobRow.content) :
    Undisturbed submission sha256 before after where
  owned := owned
  contract _ found := contract.trans found
  runs_kept _ run found ours := ⟨run, runs ▸ found, ours⟩
  runs_old _ run found _ := ⟨run, runs ▸ found, rfl, rfl, rfl, rfl⟩
  envelopes key row found _ := by
    have same := jobs key
    rw [found, Option.map_some] at same
    exact Option.map_eq_some_iff.mp same.symm
  stored := by
    have payloads :=
      congrArg (Option.map Prod.snd) (jobs submission.key)
    simpa [ReviewDatabase.storedEnvelope, Option.map_map, Function.comp_def,
      ReviewJobRow.content] using payloads

end Submission

/-! ## Lookups and inserts -/

section Lookups

variable {database after : ReviewDatabase} {stamp : Stamp}

theorem orderedFirst_eq_nil {Row Rank : Type} {rows : List Row}
    {rank : Row → Rank} {before : Rank → Rank → Bool} :
    (orderedFirst rows rank before 1).head? = none ↔ rows = [] := by
  unfold orderedFirst
  rw [List.head?_eq_none_iff, List.take_eq_nil_iff]
  constructor
  · rintro (impossible | empty)
    · cases impossible
    · have length := congrArg List.length empty
      rw [List.length_insertionSort, List.length_nil] at length
      exact List.length_eq_zero_iff.mp length
  · rintro rfl
    exact .inr rfl

theorem mem_of_newestRun {runs : List ProcessingRun} {run : ProcessingRun}
    (newest : ReviewDatabase.newestRun runs = some run) : run ∈ runs :=
  mem_of_mem_orderedFirst (List.mem_of_mem_head? newest)

theorem getRunByJobId_some {jobId : Uuid} {run : ProcessingRun}
    (found : database.getRunByJobId jobId = some run) :
    database.runs.find? run.id = some run ∧ run.jobId = some jobId := by
  have member := mem_of_newestRun found
  rw [RowTable.select, List.mem_filter] at member
  exact ⟨RowTable.find?_of_mem member.1, by simpa using member.2⟩

theorem getRunByJobId_none {jobId : Uuid}
    (absent : database.getRunByJobId jobId = none) {runId : Uuid}
    {run : ProcessingRun} (found : database.runs.find? runId = some run) :
    run.jobId ≠ some jobId := by
  have empty := orderedFirst_eq_nil.mp absent
  rw [RowTable.select, List.filter_eq_nil_iff] at empty
  simpa using empty run (RowTable.mem_of_find? found)

/-- The contract of some bytes depends on the versions and on the workspaces of
their contracts only. -/
theorem findContract_congr (workspaceId sha256 : String)
    (versions : after.versions = database.versions)
    (workspaces : ∀ id,
      (after.contracts.find? id).map ContractRow.workspaceId =
        (database.contracts.find? id).map ContractRow.workspaceId) :
    after.findContract workspaceId sha256 =
      database.findContract workspaceId sha256 := by
  have owner (id : Uuid) :
      (after.contracts.find? id).any
          (fun contract => contract.workspaceId = workspaceId) =
        (database.contracts.find? id).any
          (fun contract => contract.workspaceId = workspaceId) := by
    have same := congrArg
      (Option.any fun workspace => decide (workspace = workspaceId))
      (workspaces id)
    simpa [Option.any_map, Function.comp_def] using same
  unfold ReviewDatabase.findContract
  simp only [owner, versions]

theorem contracts_find?_updateContractStatus (contractId : Uuid)
    (status : WorkflowState) (id : Uuid) :
    (database.updateContractStatus contractId status).contracts.find? id =
      (database.contracts.find? id).map fun row =>
        if row.id = contractId then { row with status } else row := by
  simp [ReviewDatabase.updateContractStatus, RowTable.find?_updateWhere]

theorem versionsOwned_updateContractStatus (contractId : Uuid)
    (status : WorkflowState) (owned : database.VersionsOwned) :
    (database.updateContractStatus contractId status).VersionsOwned := by
  intro version member
  rw [contracts_find?_updateContractStatus, Option.isSome_map]
  exact owned version member

theorem findContract_updateContractStatus (workspaceId sha256 : String)
    (contractId : Uuid) (status : WorkflowState) :
    (database.updateContractStatus contractId status).findContract workspaceId
      sha256 = database.findContract workspaceId sha256 := by
  refine findContract_congr workspaceId sha256 rfl fun id => ?_
  rw [contracts_find?_updateContractStatus]
  cases database.contracts.find? id with
  | none => rfl
  | some row =>
      simp only [Option.map_some]
      split <;> rfl

theorem versionsOwned_insertContract {contract : NewContract}
    {ids : Uuid × Uuid} (owned : database.VersionsOwned)
    (inserted : database.insertContract stamp contract = .ok (ids, after)) :
    after.VersionsOwned := by
  obtain ⟨_, contracts, versions, newContract, newVersion, rfl⟩ :=
    ReviewDatabase.insertContract_ok inserted
  intro version member
  rw [RowTable.rows_of_insert? newVersion, List.mem_append, List.mem_singleton] at member
  rw [RowTable.find?_insert? newContract]
  split
  · rfl
  · rename_i different
    rcases member with old | rfl
    · exact owned version old
    · exact absurd rfl different

/-- A newly inserted contract is found by its bytes. -/
theorem findContract_insertContract {contract : NewContract}
    {ids : Uuid × Uuid} (owned : database.VersionsOwned)
    (absent : database.findContract contract.workspaceId contract.sha256 = none)
    (inserted : database.insertContract stamp contract = .ok (ids, after)) :
    after.findContract contract.workspaceId contract.sha256 = some ids := by
  obtain ⟨rfl, contracts, versions, newContract, newVersion, rfl⟩ :=
    ReviewDatabase.insertContract_ok inserted
  have none_before := orderedFirst_eq_nil.mp (Option.map_eq_none_iff.mp absent)
  rw [RowTable.select, List.filter_eq_nil_iff] at none_before
  have fresh : database.contracts.find? (stamp.uuid4 0) = none :=
    RowTable.insert?_isSome_iff.mp (Option.isSome_iff_exists.mpr ⟨_, newContract⟩)
  have selected : versions.select (fun version =>
      version.sha256 = contract.sha256 &&
        (contracts.find? version.contractId).any fun row =>
          row.workspaceId = contract.workspaceId) =
      [ReviewDatabase.newVersionRow stamp contract] := by
    rw [RowTable.select, RowTable.rows_of_insert? newVersion, List.filter_append,
      List.filter_eq_nil_iff.mpr, List.nil_append, List.filter_singleton]
    · rw [RowTable.find?_insert? newContract]
      simp [ReviewDatabase.newVersionRow, ReviewDatabase.newContractRow]
    · intro version old matching
      refine none_before version old ?_
      have known := owned version old
      rw [RowTable.find?_insert? newContract] at matching
      split at matching
      · rename_i same
        rw [← same] at known
        exact absurd known (by simp [ReviewDatabase.newContractRow, fresh])
      · exact matching
  unfold ReviewDatabase.findContract
  rw [selected]
  rfl

end Lookups

/-! ## Calls that leave the submission -/

section Calls

variable {submission : SlackSubmission} {sha256 : String}
  {before after : ReviewDatabase} {stamp : Stamp}

/-- The calls of an intake that neither insert a contract or a run nor give a run
its job. -/
def DatabaseCall.leavesSubmission : DatabaseCall → Bool
  | findContract .. | updateContractStatus .. | getContractStatus ..
  | getContractReview .. | getContractSource .. | upsertContractSource ..
  | recordAudit .. | getRun .. | getRunByJobId .. | markRun .. => true
  | _ => false

/-- Run updates that keep job, workspace and contract. -/
theorem undisturbed_updateRun (runId : Uuid) (guard : ProcessingRun → Bool)
    (change : RowTable.Change ProcessingRun.id)
    (keeps : ∀ run, guard run = true →
      (change.apply run).jobId = run.jobId ∧
      (change.apply run).workspaceId = run.workspaceId ∧
      (change.apply run).contractId = run.contractId ∧
      (change.apply run).contractVersionId = run.contractVersionId) :
    Undisturbed submission sha256 before
      { before with runs := (updateOne before.runs runId guard change).2 } := by
  rcases updateOne_cases before.runs runId guard change with
    ⟨old, found, holds, _, rows⟩ | ⟨_, same⟩
  · obtain ⟨job, workspace, contract, version⟩ := keeps old holds
    refine ⟨fun owned => owned, fun _ known => known, ?_, ?_,
      fun _ row present _ => ⟨row, present, rfl⟩, rfl⟩
    · intro id run present ours
      dsimp only
      rw [rows id]
      split
      · rename_i here
        subst here
        obtain rfl : old = run := Option.some.inj (found.symm.trans present)
        exact ⟨_, rfl, job.trans ours⟩
      · exact ⟨run, present, ours⟩
    · intro id run present _
      dsimp only at present
      rw [rows id] at present
      split at present
      · rename_i here
        subst here
        cases present
        exact ⟨old, found, job.symm, workspace.symm, contract.symm,
          version.symm⟩
      · exact ⟨run, present, rfl, rfl, rfl, rfl⟩
  · rw [same]
    exact .refl before

theorem undisturbed_database {call : DatabaseCall} {answer : call.Ret}
    (leaves : call.leavesSubmission = true)
    (run : call.body stamp before = .ok (answer, after)) :
    Undisturbed submission sha256 before after := by
  cases call with
  | updateContractStatus contractId status =>
      cases run
      exact .of_same (versionsOwned_updateContractStatus contractId status)
        (findContract_updateContractStatus _ _ contractId status) rfl
        fun _ => rfl
  | markRun runId status =>
      cases run
      exact undisturbed_updateRun runId ReviewDatabase.runActive _
        fun _ _ => ⟨rfl, rfl, rfl, rfl⟩
  | findContract | getContractStatus | getContractReview | getContractSource
  | getRun | getRunByJobId =>
      cases run
      exact .refl before
  | upsertContractSource | recordAudit =>
      cases run
      exact .of_same (fun owned => owned) rfl rfl fun _ => rfl
  | _ => cases leaves

theorem undisturbed_slack {call : SlackCall} {answer : call.Ret}
    (unlike : ∀ key jobId payload, call ≠ .persistReviewJob key jobId payload)
    (run : before.slackBody stamp call = .ok (answer, after)) :
    Undisturbed submission sha256 before after := by
  rw [(slackBody_ok run).2]
  exact .of_same (fun owned => owned) rfl rfl (content_after call unlike)

/-- A run that has its job already keeps it. -/
theorem undisturbed_setRunJobId {runId jobId : Uuid} {run : ProcessingRun}
    (found : before.runs.find? runId = some run)
    (assigned : run.jobId.isSome) :
    Undisturbed submission sha256 before (before.setRunJobId runId jobId).2 := by
  have refused (other : ProcessingRun)
      (present : before.runs.find? runId = some other) :
      other.jobId.isNone = false := by
    obtain rfl : run = other := Option.some.inj (found.symm.trans present)
    rw [Option.isNone_eq_false_iff]
    exact assigned
  unfold ReviewDatabase.setRunJobId
  rw [updateOne_refused _ refused]
  exact .refl before

/-- Calls that leave contract, runs and envelope of the submission. -/
def ReviewCall.harmless : ReviewCall → Bool
  | .database call => call.leavesSubmission
  | .slack (.persistReviewJob _ _ _) => false
  | .slack _ => true
  | .external _ => true

theorem respond_harmless {world last : ReviewWorld} {delivery : Nat}
    {choice : Choice} {request : ReviewCall} {reply : Except Exn request.Ret}
    (harmless : request.harmless = true)
    (run : ReviewWorld.respond delivery choice world request =
      some (reply, last)) :
    Undisturbed submission sha256 world.database last.database := by
  cases request with
  | slack call =>
      have unlike (key : String) (jobId : Uuid) (payload : JobPayload) :
          call ≠ .persistReviewJob key jobId payload := by
        rintro rfl
        cases harmless
      rcases (ReviewWorld.respond_slack run).2 with
        ⟨answer, _, body⟩ | ⟨_, same⟩
      · exact undisturbed_slack unlike body
      · rw [same]
        exact .refl _
  | database call =>
      rcases (ReviewWorld.respond_database run).2 with
        ⟨answer, _, body⟩ | ⟨_, same⟩
      · exact undisturbed_database harmless body
      · rw [same]
        exact .refl _
  | external call =>
      rw [(ReviewWorld.respond_external run).1]
      exact .refl _

end Calls

/-! ## Inserting contract, run and envelope -/

section Inserts

variable {submission : SlackSubmission} {sha256 : String}
  {before after : ReviewDatabase} {stamp : Stamp} {ids : Uuid × Uuid}

/-- Before the contract exists there is neither a run nor an envelope. -/
theorem SubmissionConsistent.insertContract {contract : NewContract}
    (consistent : SubmissionConsistent submission sha256 before)
    (workspace : contract.workspaceId = submission.workspaceId)
    (bytes : contract.sha256 = sha256)
    (absent : before.findContract submission.workspaceId sha256 = none)
    (inserted : before.insertContract stamp contract = .ok (ids, after)) :
    SubmissionConsistent submission sha256 after ∧
      after.findContract submission.workspaceId sha256 = some ids := by
  obtain ⟨_, _, _, _, _, same⟩ := ReviewDatabase.insertContract_ok inserted
  have runs : after.runs = before.runs := by rw [same]
  have slack : after.slack = before.slack := by rw [same]
  refine ⟨⟨versionsOwned_insertContract consistent.owned inserted, ?_, ?_, ?_⟩,
    ?_⟩
  · intro runId run found ours
    rw [runs] at found
    have known := (consistent.run_contract runId run found ours).2
    rw [absent] at known
    cases known
  · rw [runs]
    exact consistent.run_unique
  · intro key row found ours
    rw [slack] at found
    obtain ⟨_, _, others, _, known, _⟩ :=
      consistent.envelope key row found ours
    rw [absent] at known
    cases known
  · rw [← workspace, ← bytes] at absent ⊢
    exact findContract_insertContract consistent.owned absent inserted

/-- No run of the submission's job exists. -/
def SlackSubmission.NoRun (submission : SlackSubmission)
    (database : ReviewDatabase) : Prop :=
  ∀ runId run, database.runs.find? runId = some run →
    run.jobId ≠ some submission.reviewJobId

/-- The run belongs to the submission's job. -/
def SlackSubmission.HasRun (submission : SlackSubmission) (runId : Uuid)
    (database : ReviewDatabase) : Prop :=
  ∃ run, database.runs.find? runId = some run ∧
    run.jobId = some submission.reviewJobId

theorem SubmissionConsistent.insertRun {runId : Uuid} {source : MetricsSource}
    (consistent : SubmissionConsistent submission sha256 before)
    (contract : before.findContract submission.workspaceId sha256 = some ids)
    (absent : submission.NoRun before)
    (inserted : before.insertRun stamp submission.workspaceId ids.1 ids.2 source
      (some submission.reviewJobId) = .ok (runId, after)) :
    SubmissionConsistent submission sha256 after ∧
      after.findContract submission.workspaceId sha256 = some ids ∧
      after.storedEnvelope submission.key =
        before.storedEnvelope submission.key ∧
      submission.HasRun runId after := by
  unfold ReviewDatabase.insertRun at inserted
  split at inserted
  · rename_i runs success
    cases inserted
    have rows := RowTable.find?_insert? success
    refine ⟨⟨consistent.owned, ?_, ?_, ?_⟩, contract, rfl, ?_⟩
    · intro id run found ours
      dsimp only at found
      rw [rows] at found
      split at found
      · cases found
        exact ⟨rfl, contract⟩
      · exact absurd ours (absent _ _ found)
    · intro firstId first secondId second foundFirst foundSecond ours theirs
      dsimp only at foundFirst foundSecond
      rw [rows] at foundFirst foundSecond
      split at foundFirst
      · split at foundSecond
        · rename_i one two
          exact one.symm.trans two
        · exact absurd theirs (absent _ _ foundSecond)
      · exact absurd ours (absent _ _ foundFirst)
    · intro key row found ours
      obtain ⟨same, job, others, id, known, payload, run⟩ :=
        consistent.envelope key row found ours
      refine ⟨same, job, others, id, known, payload, ?_⟩
      intro wanted isRun
      obtain ⟨old, foundOld, oldJob⟩ := run wanted isRun
      exact absurd oldJob (absent _ _ foundOld)
    · exact ⟨_, (rows _).trans (if_pos rfl), rfl⟩
  · cases inserted

/-- `persist_review_job` refuses a consistent submission exactly when it brings a
run to an envelope stored without one. -/
theorem SubmissionConsistent.persist (stamp : Stamp) {runId : Option Uuid}
    (consistent : SubmissionConsistent submission sha256 before)
    (contract : before.findContract submission.workspaceId sha256 = some ids)
    (hasRun : ∀ id, runId = some id → submission.HasRun id before)
    (without : runId = none → ∀ stored,
      before.storedEnvelope submission.key = some stored →
      stored.processingRunId = none) :
    match before.slack.persistReviewJob stamp submission.key
      submission.reviewJobId (submission.envelope ids runId) with
    | .ok tables =>
        SubmissionConsistent submission sha256 { before with slack := tables } ∧
          ((before.storedEnvelope submission.key).any
            (fun stored => stored.processingRunId.isNone) &&
              runId.isSome) = false
    | .error _ =>
        ((before.storedEnvelope submission.key).any
          (fun stored => stored.processingRunId.isNone) &&
            runId.isSome) = true := by
  cases found : before.slack.jobs.find? submission.key with
  | none =>
      have free (other : String) (row : ReviewJobRow)
          (present : before.slack.jobs.find? other = some row) :
          row.jobId ≠ submission.reviewJobId := by
        intro ours
        have same := (consistent.envelope other row present (.inr ours)).1
        rw [same, found] at present
        cases present
      obtain ⟨tables, persisted, contents⟩ := persistReviewJob_first
        found free
      rw [persisted]
      refine ⟨⟨consistent.owned, consistent.run_contract, consistent.run_unique,
        ?_⟩, by simp [ReviewDatabase.storedEnvelope, found]⟩
      intro key row present ours
      have content := contents key
      dsimp only at present
      rw [present, Option.map_some] at content
      split at content
      · rename_i here
        obtain ⟨job, payload⟩ := Prod.mk.inj (Option.some.inj content)
        exact ⟨here, job, ids, runId, contract, payload, hasRun⟩
      · obtain ⟨old, wasOld, same⟩ := Option.map_eq_some_iff.mp content.symm
        obtain ⟨sameJob, samePayload⟩ := Prod.mk.inj same
        rw [← sameJob] at ours ⊢
        rw [← samePayload]
        exact consistent.envelope key old wasOld ours
  | some row =>
      obtain ⟨_, job, others, oldRun, known, payload, oldRuns⟩ :=
        consistent.envelope submission.key row found (.inl rfl)
      obtain rfl : ids = others := Option.some.inj (contract.symm.trans known)
      have stored : before.storedEnvelope submission.key =
          some (submission.envelope ids oldRun) := by
        rw [ReviewDatabase.storedEnvelope, found, Option.map_some, payload]
      rw [persistReviewJob_stored found, stored, job, payload]
      cases oldRun with
      | none =>
          cases runId with
          | none =>
              rw [if_pos ⟨rfl, rfl⟩]
              exact ⟨consistent, rfl⟩
          | some id =>
              rw [if_neg]
              · rfl
              · rintro ⟨_, same⟩
                cases congrArg JobPayload.processingRunId same
      | some old =>
          cases runId with
          | none => cases without rfl _ stored
          | some id =>
              obtain ⟨first, foundFirst, ours⟩ := oldRuns old rfl
              obtain ⟨second, foundSecond, theirs⟩ := hasRun id rfl
              obtain rfl := consistent.run_unique old first id second foundFirst
                foundSecond ours theirs
              rw [if_pos ⟨rfl, rfl⟩]
              exact ⟨consistent, rfl⟩

end Inserts

end ContractMate
