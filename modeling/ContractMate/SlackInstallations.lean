import ContractMate.RunHistory
import ContractMate.SlackLeaseFencing

/-!
# Slack installations

Installing, disconnecting and revoking a Slack installation, next to the operations on
the messages that are sent through it.  A message waits or is sent only while its
installation is active, and one that failed stays failed.
-/

namespace ContractMate

namespace SlackTables

/-- `SELECT … FROM slack_installations WHERE team_id = ?`. -/
def installationOfTeam (tables : SlackTables) (teamId : String) :
    Option SlackInstallationRow :=
  tables.installations.rows.find? fun row => row.teamId = teamId

/-- The block of `upsert_installation`; `drawn` is the identifier of a new row. -/
def upsertInstallation (tables : SlackTables) (drawn teamId : String)
    (teamName botUserId : Option String)
    (encryptedBotToken installedByAccountId : String) : Except Exn SlackTables :=
  match tables.installationOfTeam teamId with
  | some existing =>
      if existing.installedByAccountId ≠ installedByAccountId then
        .error ⟨.otherError,
          "Slack workspace is already connected to another Samvid account"⟩
      else
        .ok { tables with
          installations := tables.installations.updateWhere
            (fun row => row.teamId = teamId)
            ⟨fun row =>
              { row with teamName, botUserId, encryptedBotToken, status := .active },
              fun _ => rfl⟩ }
  | none =>
      match tables.installations.insert?
          { id := drawn, teamId, teamName, botUserId, encryptedBotToken
            installedByAccountId, status := .active } with
      | some installations => .ok { tables with installations }
      | none => .error (Exn.uniqueViolation "slack_installations_pkey")

/-- `get_installation`: only an active installation is found. -/
def getInstallation (tables : SlackTables) (installationId : String) :
    Option SlackInstallationRow :=
  (tables.installations.find? installationId).filter fun row => row.status = .active

end SlackTables

/-- What changes installations and messages. -/
inductive InstallationCall where
  | upsertInstallation (drawn teamId : String) (teamName botUserId : Option String)
      (encryptedBotToken installedByAccountId : String)
  | repository (call : SlackCall)

/-- The tables that a call leaves. -/
def InstallationCall.after (stamp : Stamp) (tables : SlackTables) :
    InstallationCall → SlackTables
  | .upsertInstallation drawn teamId teamName botUserId encryptedBotToken
      installedByAccountId =>
      match tables.upsertInstallation drawn teamId teamName botUserId
          encryptedBotToken installedByAccountId with
      | .ok changed => changed
      | .error _ => tables
  | .repository call => call.after stamp tables

/-! ## Messages and their installations -/

/-- A message that waits or is being sent. -/
def OutboundSlackRow.Live (row : OutboundSlackRow) : Prop :=
  row.status = .pending ∨ row.status = .sending

instance (row : OutboundSlackRow) : Decidable row.Live :=
  inferInstanceAs (Decidable (_ ∨ _))

namespace SlackTables

/-- Only messages of active installations are live. -/
def Deliverable (tables : SlackTables) : Prop :=
  ∀ id row, tables.outbound.find? id = some row → row.Live →
    tables.installationActive row.installationId = true

/-- The message has failed. -/
def Failed (tables : SlackTables) (id : Uuid) : Prop :=
  ∃ row, tables.outbound.find? id = some row ∧ row.status = .failed

/-- What every call preserves. -/
structure Settles (tables after : SlackTables) : Prop where
  deliverable : tables.Deliverable → after.Deliverable
  failed : ∀ id, tables.Failed id → after.Failed id

variable {tables after : SlackTables} {stamp : Stamp}

/-- Calls that leave the messages and deactivate no installation. -/
theorem Settles.of_same (messages : after.outbound.find? = tables.outbound.find?)
    (active : ∀ installationId, tables.installationActive installationId = true →
      after.installationActive installationId = true) : Settles tables after where
  deliverable := by
    intro deliverable id row found live
    rw [messages] at found
    exact active _ (deliverable id row found live)
  failed := by
    rintro id ⟨row, found, failed⟩
    exact ⟨row, by rw [messages, found], failed⟩

/-- Calls that change live messages only, and no installation. -/
theorem Settles.of_live (installations : after.installations = tables.installations)
    (changed : ∀ id, after.outbound.find? id = tables.outbound.find? id ∨
      ∃ old new, tables.outbound.find? id = some old ∧ old.Live ∧
        after.outbound.find? id = some new ∧
        new.installationId = old.installationId) : Settles tables after where
  deliverable := by
    intro deliverable id row found live
    rw [installationActive, installations]
    rcases changed id with same | ⟨old, new, was, waiting, written, kept⟩
    · rw [same] at found
      exact deliverable id row found live
    · rw [written, Option.some.injEq] at found
      subst found
      rw [kept]
      exact deliverable id old was waiting
  failed := by
    rintro id ⟨row, found, failed⟩
    rcases changed id with same | ⟨old, new, was, waiting, _⟩
    · exact ⟨row, by rw [same, found], failed⟩
    · rw [found, Option.some.injEq] at was
      subst was
      rcases waiting with pending | sending
      · rw [failed] at pending
        cases pending
      · rw [failed] at sending
        cases sending

theorem settles_updateOne (outboxId : Uuid) (guard : OutboundSlackRow → Bool)
    (change : RowTable.Change OutboundSlackRow.id)
    (live : ∀ row, guard row = true → row.Live)
    (kept : ∀ row, (change.apply row).installationId = row.installationId) :
    Settles tables
      { tables with outbound := (updateOne tables.outbound outboxId guard change).2 } := by
  refine Settles.of_live (by rfl) ?_
  intro id
  simp only [updateOne, RowTable.find?_updateWhere_key]
  by_cases same : id = outboxId
  · subst same
    cases found : tables.outbound.find? id with
    | none => simp
    | some row =>
        by_cases holds : guard row = true
        · right
          exact ⟨row, _, rfl, live row holds, by simp [holds], kept row⟩
        · left
          simp [holds]
  · left
    rw [if_neg same]

theorem live_of_owned {token : Uuid} {row : OutboundSlackRow}
    (owned : outboundOwned token row = true) : row.Live := by
  rw [outboundOwned, Bool.and_eq_true, decide_eq_true_eq] at owned
  exact .inr owned.1

theorem live_of_due {now : Int} {row : OutboundSlackRow}
    (isDue : tables.outboundDue now row = true) : row.Live := by
  simp only [outboundDue, Bool.and_eq_true, Bool.or_eq_true, decide_eq_true_eq] at isDue
  exact isDue.1.imp And.left And.left

theorem settles_claimDueOutbound (limit leaseSeconds : Int) :
    Settles tables (tables.claimDueOutbound stamp limit leaseSeconds).2 := by
  refine Settles.of_live (by rfl) ?_
  intro id
  have nodup := orderedFirst_nodup tables.outbound (tables.outboundDue stamp.now)
    (fun row => (row.nextAttemptAt, row.createdAt)) timesLe (max limit 1)
  rcases claimEach_find? (fun _ => true) _ _ stamp false _ 0 tables.outbound nodup id with
    same | ⟨selected, member, named, token, old, found, written⟩
  · exact .inl same
  · have waiting : old.Live := by
      have isDue : tables.outboundDue stamp.now old = true := by
        apply condition_of_selected member
        rw [named, found]
      exact live_of_due isDue
    exact .inr ⟨old, _, found, waiting, written, rfl⟩

theorem settles_enqueueOutbound {intent : OutboundSlackIntent} {id : Uuid}
    (success : tables.enqueueOutbound stamp intent = .ok (id, after)) :
    Settles tables after := by
  unfold enqueueOutbound at success
  split at success
  · cases success
    exact .of_same rfl fun _ => id
  · dsimp only at success
    split at success
    · cases success
    · split at success
      · cases success
      · split at success
        · cases success
        · rename_i outbound insertion
          cases success
          have absent := RowTable.insert?_isSome_iff.mp (Option.isSome_of_eq_some insertion)
          refine ⟨?_, ?_⟩
          · intro deliverable other row found live
            simp only [RowTable.find?_insert? insertion] at found
            by_cases same : stamp.uuid4 0 = other
            · rw [if_pos same, Option.some.injEq] at found
              subst found
              by_cases active : tables.installationActive intent.installationId = true
              · exact active
              · simp [OutboundSlackRow.Live, active] at live
            · rw [if_neg same] at found
              exact deliverable other row found live
          · rintro other ⟨row, found, failed⟩
            refine ⟨row, ?_, failed⟩
            simp only [RowTable.find?_insert? insertion]
            rw [if_neg]
            · exact found
            · rintro rfl
              rw [absent] at found
              cases found

theorem find?_failLiveOutbound (installationId : String) (id : Uuid) :
    (tables.failLiveOutbound installationId).find? id =
      (tables.outbound.find? id).map fun row =>
        if row.installationId = installationId ∧ row.Live then
          { row with status := .failed, leaseToken := none, leaseExpiresAt := none }
        else row := by
  rw [failLiveOutbound, RowTable.find?_updateWhere]
  congr 1
  funext row
  simp only [OutboundSlackRow.Live, Bool.and_eq_true, Bool.or_eq_true, decide_eq_true_eq]
  congr

/-- Failing the live messages of an installation that is deactivated. -/
theorem settles_failLiveOutbound (installationId : String)
    (messages : after.outbound = tables.failLiveOutbound installationId)
    (others : ∀ other, other ≠ installationId →
      after.installationActive other = tables.installationActive other) :
    Settles tables after := by
  refine ⟨?_, ?_⟩
  · intro deliverable id row found live
    rw [messages, find?_failLiveOutbound, Option.map_eq_some_iff] at found
    obtain ⟨old, was, rfl⟩ := found
    split_ifs at live ⊢ with own
    · simp [OutboundSlackRow.Live] at live
    · rw [others]
      · exact deliverable id old was live
      · intro same
        exact own ⟨same, live⟩
  · rintro id ⟨row, found, failed⟩
    rw [Failed, messages, find?_failLiveOutbound, found]
    refine ⟨_, rfl, ?_⟩
    dsimp only
    split_ifs
    · rfl
    · exact failed

theorem settles_disconnectInstallation (installationId accountId : String) :
    Settles tables (tables.disconnectInstallation installationId accountId).2 := by
  rcases updateOne_cases tables.installations installationId
      (fun row => row.installedByAccountId = accountId && row.status = .active)
      ⟨fun row => { row with status := .disconnected }, fun _ => rfl⟩ with
    ⟨row, _, _, reported, _⟩ | ⟨_, refused⟩
  · apply settles_failLiveOutbound installationId
    · simp [disconnectInstallation, reported]
    · intro other different
      simp [disconnectInstallation, installationActive, updateOne,
        RowTable.find?_updateWhere_key, different]
  · apply Settles.of_same
    · simp [disconnectInstallation, refused]
    · intro other active
      simp only [disconnectInstallation, installationActive, refused]
      exact active

theorem settles_markInstallationRevoked (installationId : String) :
    Settles tables (tables.markInstallationRevoked installationId) := by
  apply settles_failLiveOutbound installationId rfl
  intro other different
  simp only [markInstallationRevoked, installationActive, RowTable.find?_updateWhere]
  cases found : tables.installations.find? other with
  | none => rfl
  | some row =>
      have named : row.id ≠ installationId := by
        rw [RowTable.key_of_find? found]
        exact different
      simp [named]

theorem settles_upsertInstallation {drawn teamId : String}
    {teamName botUserId : Option String}
    {encryptedBotToken installedByAccountId : String}
    (success : tables.upsertInstallation drawn teamId teamName botUserId
      encryptedBotToken installedByAccountId = .ok after) :
    Settles tables after := by
  unfold upsertInstallation at success
  split at success
  · split at success
    · cases success
    · cases success
      refine Settles.of_same (by rfl) ?_
      intro other active
      simp only [installationActive, RowTable.find?_updateWhere] at active ⊢
      cases found : tables.installations.find? other with
      | none => simp [found] at active
      | some row =>
          rw [found, Option.any_some, decide_eq_true_eq] at active
          rw [Option.map_some, Option.any_some]
          split_ifs <;> simp [active]
  · split at success
    · rename_i installations insertion
      cases success
      refine Settles.of_same (by rfl) ?_
      intro other active
      have absent := RowTable.insert?_isSome_iff.mp (Option.isSome_of_eq_some insertion)
      simp only [installationActive, RowTable.find?_insert? insertion] at active ⊢
      rw [if_neg]
      · exact active
      · rintro rfl
        rw [absent] at active
        cases active
    · cases success

/-- Only two calls of the repository change installations. -/
theorem installations_after (call : SlackCall) (other : call.target ≠ some .outbound) :
    (call.after stamp tables).installations = tables.installations := by
  cases call with
  | enqueueEvent eventId teamId eventType payload =>
      simp only [SlackCall.after, SlackCall.body]
      rw [enqueueEvent_frame]
  | claimDueEvents limit leaseSeconds =>
      simp only [SlackCall.after, SlackCall.body]
      rw [claimDueEvents_frame]
  | claimFileSubmission eventId fileId leaseSeconds =>
      simp only [SlackCall.after, SlackCall.body]
      rw [claimFileSubmission_frame]
  | claimReviewExecution submissionKey leaseSeconds =>
      simp only [SlackCall.after, SlackCall.body]
      rw [claimReviewExecution_frame]
  | persistReviewJob submissionKey jobId payload =>
      simp only [SlackCall.after, SlackCall.body]
      cases persisting : tables.persistReviewJob stamp submissionKey jobId payload with
      | error _ => rfl
      | ok persisted =>
          simp only [Except.map]
          rw [persistReviewJob_ok tables stamp persisting]
  | enqueueOutbound intent | claimDueOutbound limit leaseSeconds
  | disconnectInstallation installationId accountId
  | markInstallationRevoked installationId => exact absurd rfl other
  | _ => rfl

theorem settles_after (call : InstallationCall) :
    Settles tables (call.after stamp tables) := by
  cases call with
  | upsertInstallation drawn teamId teamName botUserId encryptedBotToken accountId =>
      simp only [InstallationCall.after]
      split
      · rename_i changed success
        exact settles_upsertInstallation success
      · exact .of_same rfl fun _ => id
  | repository call =>
      simp only [InstallationCall.after]
      by_cases writes : call.target = some .outbound
      · cases call with
        | enqueueOutbound intent =>
            simp only [SlackCall.after, SlackCall.body]
            cases enqueued : tables.enqueueOutbound stamp intent with
            | error _ => exact .of_same rfl fun _ => id
            | ok reply => exact settles_enqueueOutbound enqueued
        | claimDueOutbound limit leaseSeconds =>
            exact settles_claimDueOutbound limit leaseSeconds
        | markOutboundSent outboxId leaseToken =>
            exact settles_updateOne outboxId _ _ (fun _ => live_of_owned) fun _ => rfl
        | rescheduleOutbound outboxId leaseToken attempts maxAttempts
            retryAfterSeconds =>
            apply settles_updateOne outboxId
            · intro row owned
              rw [Bool.and_eq_true] at owned
              exact live_of_owned owned.1
            · exact fun _ => rfl
        | disconnectInstallation installationId accountId =>
            exact settles_disconnectInstallation installationId accountId
        | markInstallationRevoked installationId =>
            exact settles_markInstallationRevoked installationId
        | _ => cases writes
      · apply Settles.of_same (row_after_of_not_target stamp tables call writes)
        intro installationId active
        rw [installationActive, installations_after call writes]
        exact active

end SlackTables

/-! ## Runs -/

/-- A call at some time, as one serialised transaction. -/
structure InstallationStep where
  stamp : Stamp
  call : InstallationCall
  before : SlackTables

def InstallationStep.after (step : InstallationStep) : SlackTables :=
  step.call.after step.stamp step.before

/-- The runs of the installations and their messages from empty tables. -/
abbrev InstallationRun : List InstallationStep → SlackTables → Prop :=
  RunHistory.Run InstallationStep.before InstallationStep.after (fun _ => True) default

/-- In every run only messages of active installations wait or are being sent, and a
message that has failed stays failed. -/
theorem messages_settle_with_installation {steps : List InstallationStep}
    {tables : SlackTables} (run : InstallationRun steps tables) :
    (∀ row ∈ tables.outbound.rows, row.status = .pending ∨ row.status = .sending →
      ∃ installation, tables.installations.find? row.installationId =
          some installation ∧ installation.status = .active) ∧
      ∀ (i : Nat) (step : InstallationStep), steps[i]? = some step → ∀ id,
        step.after.Failed id → tables.Failed id := by
  constructor
  · have deliverable := (run.invariant SlackTables.Deliverable
      (by intro id row found; cases found)
      (fun step _ _ => (SlackTables.settles_after step.call).deliverable)).1
    intro row member live
    have active := deliverable row.id row (RowTable.find?_of_mem member) live
    obtain ⟨installation, found, status⟩ := Option.any_eq_true _ _ |>.mp active
    exact ⟨installation, found, of_decide_eq_true status⟩
  · intro i step found id failed
    induction run with
    | nil => simp at found
    | @step steps state run next starts _ induction =>
        rcases RunHistory.getElem?_append_cases found with earlier | ⟨_, rfl⟩
        · apply (SlackTables.settles_after next.call).failed
          rw [starts]
          exact induction earlier
        · exact failed

/-- A team installs, a message is queued, the team disconnects and installs again. -/
def teamInstalls : InstallationStep :=
  ⟨⟨0, 0⟩, .upsertInstallation "installation" "team" none none "token" "account", default⟩

def messageQueued : InstallationStep :=
  ⟨⟨1, 1⟩, .repository (.enqueueOutbound
    { workspaceId := "inbox", installationId := "installation"
      channelId := "channel", threadTs := "1.0", messageType := .receipt
      textBody := "text", idempotencyKey := .receipt "event:file" }), teamInstalls.after⟩

def teamDisconnects : InstallationStep :=
  ⟨⟨2, 2⟩, .repository (.disconnectInstallation "installation" "account"),
    messageQueued.after⟩

def teamReinstalls : InstallationStep :=
  ⟨⟨3, 3⟩, .upsertInstallation "other" "team" none none "newer" "account",
    teamDisconnects.after⟩

/-- The message of the disconnected installation stays failed. -/
theorem messages_settle_with_installation_sample :
    teamReinstalls.after.Failed ⟨1, 0⟩ := by
  have run : InstallationRun [teamInstalls, messageQueued, teamDisconnects, teamReinstalls]
      teamReinstalls.after :=
    .step (.step (.step (.step .nil teamInstalls rfl trivial) messageQueued rfl trivial)
      teamDisconnects rfl trivial) teamReinstalls rfl trivial
  have failed : (teamDisconnects.after.outbound.find? ⟨1, 0⟩).any
      (fun row => row.status = .failed) = true := by decide
  obtain ⟨row, found, status⟩ := Option.any_eq_true _ _ |>.mp failed
  exact (messages_settle_with_installation run).2 2 teamDisconnects rfl ⟨1, 0⟩
    ⟨row, found, of_decide_eq_true status⟩

end ContractMate
