import ContractMate.EmailOutbox
import ContractMate.RunHistory
import ContractMate.SlackLeaseFencing
import ContractMate.ThreadOrder

/-!
# Order of the outboxes

Both outboxes assign a message the next position of its thread and claim it only
when no live message precedes it.  So whatever delivery workers do, a thread's
messages are sent one at a time and in the order of their positions.
-/

namespace ContractMate

open ThreadOrder

/-! ## Tables of labelled rows -/

section Tables

variable {Row Key Thread Item : Type} {key : Row → Key} [DecidableEq Key]

/-- A table as the order sees it. -/
def labels (label : Row → Label Thread) (table : RowTable key) :
    Key → Option (Label Thread) :=
  fun value => (table.find? value).map label

variable {label : Row → Label Thread} {table : RowTable key}

theorem labels_eq_some_iff {value : Key} {seen : Label Thread} :
    labels label table value = some seen ↔
      ∃ row, table.find? value = some row ∧ label row = seen :=
  Option.map_eq_some_iff

theorem leads_labels_iff {seen : Label Thread} :
    Leads (labels label table) seen ↔
      ∀ row ∈ table.rows, (label row).thread = seen.thread →
        (label row).position < seen.position → (label row).phase = .settled := by
  constructor
  · intro leads row member
    exact leads (key row) (label row)
      (labels_eq_some_iff.mpr ⟨row, RowTable.find?_of_mem member, rfl⟩)
  · intro leads value other found
    obtain ⟨row, present, rfl⟩ := labels_eq_some_iff.mp found
    exact leads row (RowTable.mem_of_find? present)

theorem ordered_updateWhere (ordered : Ordered (labels label table))
    (condition : Row → Bool) (change : RowTable.Change key)
    (advances : ∀ row, condition row = true →
      Advances (labels label table) (label row) (label (change.apply row))) :
    Ordered (labels label (table.updateWhere condition change)) := by
  apply ordered.update
  intro value new found
  obtain ⟨row, present, rfl⟩ := labels_eq_some_iff.mp found
  rw [RowTable.find?_updateWhere, Option.map_eq_some_iff] at present
  obtain ⟨old, was, rfl⟩ := present
  refine ⟨label old, labels_eq_some_iff.mpr ⟨old, was, rfl⟩, ?_⟩
  by_cases holds : condition old = true
  · rw [if_pos holds]
    exact advances old holds
  · rw [if_neg holds]
    exact .refl _

theorem ordered_updateOne (ordered : Ordered (labels label table)) (value : Key)
    (guard : Row → Bool) (change : RowTable.Change key)
    (advances : ∀ row, guard row = true →
      Advances (labels label table) (label row) (label (change.apply row))) :
    Ordered (labels label (updateOne table value guard change).2) := by
  apply ordered_updateWhere ordered
  intro row holds
  rw [Bool.and_eq_true] at holds
  exact advances row holds.2

theorem ordered_deleteWhere (ordered : Ordered (labels label table))
    (condition : Row → Bool) :
    Ordered (labels label (table.deleteWhere condition)) := by
  apply ordered.update
  intro value new found
  obtain ⟨row, present, rfl⟩ := labels_eq_some_iff.mp found
  rw [RowTable.find?_deleteWhere, Option.filter_eq_some_iff] at present
  exact ⟨label row, labels_eq_some_iff.mpr ⟨row, present.1, rfl⟩, .refl _⟩

theorem ordered_insert? (ordered : Ordered (labels label table)) {row : Row}
    {inserted : RowTable key} (success : table.insert? row = some inserted)
    (last : ∀ other ∈ table.rows, (label other).thread = (label row).thread →
      (label other).position < (label row).position)
    (quiet : (label row).phase ≠ .sending) :
    Ordered (labels label inserted) := by
  have added (other : Key) : labels label inserted other =
      if other = key row then some (label row) else labels label table other := by
    rw [labels, RowTable.find?_insert? success, labels]
    by_cases same : other = key row
    · simp [same]
    · simp [same, Ne.symm same]
  apply ordered.insert added _ quiet
  intro value seen found thread
  obtain ⟨other, present, rfl⟩ := labels_eq_some_iff.mp found
  exact last other (RowTable.mem_of_find? present) thread

/-- A claiming loop over leading rows keeps the order. -/
theorem ordered_claimEach (ordered : Ordered (labels label table)) (skips : Bool)
    (guard : Row → Bool) (take : Row → Uuid → RowTable.Change key)
    (item : Row → Uuid → Item) (stamp : Stamp) (rows : List Row)
    (nodup : (rows.map key).Nodup) (stored : ∀ selected ∈ rows,
      selected ∈ table.rows ∧ (label selected).phase ≠ .settled ∧
        Leads (labels label table) (label selected))
    (labelled : ∀ selected token row,
      (label ((take selected token).apply row)).thread = (label row).thread ∧
        (label ((take selected token).apply row)).position =
          (label row).position) :
    Ordered (labels label
      (claimEach skips guard take item stamp 0 rows table).2) := by
  apply ordered.update
  intro value new found
  obtain ⟨row, present, rfl⟩ := labels_eq_some_iff.mp found
  rcases claimEach_find? guard take item stamp skips rows 0 table nodup value with
    unchanged | ⟨selected, member, named, token, old, was, written⟩
  · rw [unchanged] at present
    exact ⟨label row, labels_eq_some_iff.mpr ⟨row, present, rfl⟩, .refl _⟩
  · obtain ⟨inTable, unsettled, leads⟩ := stored selected member
    have same : old = selected := by
      have here := RowTable.find?_of_mem inTable
      rw [named, was] at here
      exact Option.some.inj here
    subst same
    rw [written] at present
    cases present
    refine ⟨label old, labels_eq_some_iff.mpr ⟨old, was, rfl⟩, ?_⟩
    exact
      { thread := (labelled old token old).1
        position := (labelled old token old).2
        settled := fun settled => absurd settled unsettled
        taken := fun _ => .inr leads }

end Tables

/-- The next position of a thread is after all of its positions. -/
theorem lt_nextPosition {positions : List Int} {position : Int}
    (member : position ∈ positions) : position < positions.max?.getD 0 + 1 := by
  obtain ⟨greatest, is_max⟩ : ∃ greatest, positions.max? = some greatest := by
    cases positions with
    | nil => cases member
    | cons first rest => exact ⟨_, rfl⟩
  have bound := (List.max?_eq_some_iff.mp is_max).2 position member
  rw [is_max, Option.getD_some]
  omega

/-! ## The email outbox -/

namespace EmailOutbox

/-- How far an email has come. -/
def Row.phase (row : Row) : Phase :=
  match row.status with
  | .pending => .waiting
  | .sending => .sending
  | .sent | .failed => .settled

def Row.label (row : Row) : Label String :=
  ⟨row.threadKey, row.threadPosition, row.phase⟩

theorem Row.phase_eq_settled_iff {row : Row} :
    row.phase = .settled ↔ row.status = .sent ∨ row.status = .failed := by
  unfold Row.phase
  cases row.status <;> simp

theorem Row.phase_eq_sending_iff {row : Row} :
    row.phase = .sending ↔ row.status = .sending := by
  unfold Row.phase
  cases row.status <;> simp

theorem Row.live_iff {row : Row} :
    (row.status = .pending || row.status = .sending) = true ↔
      row.phase ≠ .settled := by
  unfold Row.phase
  cases row.status <;> simp

variable {table : Table} {stamp : Stamp}

/-- A due row leads its thread. -/
theorem leads_of_due {row : Row} (isDue : due table stamp.now row = true) :
    row.phase ≠ .settled ∧ Leads (labels Row.label table) row.label := by
  rw [due, Bool.and_eq_true, Bool.not_eq_true', List.any_eq_false] at isDue
  obtain ⟨live, first⟩ := isDue
  constructor
  · rw [← Row.live_iff]
    simp only [Bool.or_eq_true, Bool.and_eq_true] at live ⊢
    exact live.imp And.left And.left
  · rw [leads_labels_iff]
    intro earlier member thread position
    by_contra unsettled
    apply first earlier member
    rw [Bool.and_eq_true]
    refine ⟨?_, Row.live_iff.mpr unsettled⟩
    have thread : earlier.threadKey = row.threadKey := thread
    have position : earlier.threadPosition < row.threadPosition := position
    simp [thread, position]

theorem mem_dueRows {limit : Int} {row : Row}
    (member : row ∈ dueRows table stamp limit) :
    row ∈ table.rows ∧ due table stamp.now row = true := by
  have selected := mem_of_mem_orderedFirst member
  rwa [RowTable.select, List.mem_filter] at selected

theorem ordered_claimDue (ordered : Ordered (labels Row.label table))
    (limit leaseSeconds : Int) :
    Ordered (labels Row.label (claimDue table stamp limit leaseSeconds).2) := by
  unfold claimDue
  split_ifs with none
  · exact ordered
  · apply ordered_claimEach ordered
    · exact orderedFirst_nodup table _ _ _ limit
    · intro selected member
      obtain ⟨stored, isDue⟩ := mem_dueRows member
      exact ⟨stored, leads_of_due isDue⟩
    · intro selected token row
      exact ⟨rfl, rfl⟩

/-- Whatever the call claims leads its thread. -/
theorem claimed_leads {limit leaseSeconds : Int} {item : Item}
    (claimed : item ∈ (claimDue table stamp limit leaseSeconds).1) :
    ∃ row ∈ table.rows, row.id = item.id ∧
      ∀ earlier ∈ table.rows, earlier.threadKey = row.threadKey →
        earlier.threadPosition < row.threadPosition →
          earlier.status = .sent ∨ earlier.status = .failed := by
  unfold claimDue at claimed
  split_ifs at claimed with none
  · cases claimed
  · obtain ⟨row, member, _, rfl⟩ := mem_claimEach _ _ _ _ _ _ _ _ _ claimed
    obtain ⟨stored, isDue⟩ := mem_dueRows member
    refine ⟨row, stored, rfl, ?_⟩
    intro earlier inTable thread position
    rw [← Row.phase_eq_settled_iff]
    exact leads_labels_iff.mp (leads_of_due isDue).2 earlier inTable thread position

theorem enqueue_ok {intent : Intent} {id : Uuid} {inserted : Table}
    (assigned : intent.threadPosition = none)
    (success : enqueue table stamp intent = .ok (id, inserted)) :
    inserted = table ∨
      ∃ row : Row, row.threadKey = intent.threadKey ∧
        row.threadPosition = latestPosition table intent.threadKey + 1 ∧
        row.status = .pending ∧ table.insert? row = some inserted := by
  unfold enqueue at success
  split at success
  · cases success
    exact .inl rfl
  · rw [assigned] at success
    dsimp only at success
    split at success
    · cases success
    · split at success
      · cases success
      · split at success
        · cases success
        · rename_i table' insertion
          cases success
          exact .inr ⟨_, rfl, rfl, rfl, insertion⟩

/-- Every call keeps the order, if a message's position is left to the outbox. -/
theorem ordered_after (ordered : Ordered (labels Row.label table))
    (call : EmailOutboxCall) (assigned : ∀ intent, call = .enqueue intent →
      intent.threadPosition = none) :
    Ordered (labels Row.label (call.after stamp table)) := by
  cases call with
  | enqueue intent =>
      simp only [EmailOutboxCall.after]
      cases enqueued : enqueue table stamp intent with
      | error _ => exact ordered
      | ok reply =>
          obtain ⟨id, inserted⟩ := reply
          rcases enqueue_ok (assigned intent rfl) enqueued with
            same | ⟨row, thread, position, status, success⟩
          · rw [same]
            exact ordered
          · apply ordered_insert? ordered success
            · intro other member sameThread
              have sameThread : other.threadKey = row.threadKey := sameThread
              change other.threadPosition < row.threadPosition
              rw [position]
              apply lt_nextPosition
              apply List.mem_map_of_mem
              rw [RowTable.select, List.mem_filter]
              exact ⟨member, by simp [sameThread, thread]⟩
            · change row.phase ≠ .sending
              rw [ne_eq, Row.phase_eq_sending_iff, status]
              decide
  | claimDue limit leaseSeconds => exact ordered_claimDue ordered limit leaseSeconds
  | markSent outboxId | markFailed outboxId =>
      apply ordered_updateOne ordered
      intro row _
      exact ⟨rfl, rfl, fun _ => rfl, fun taken => by cases taken⟩
  | reschedule outboxId attempts maxAttempts baseBackoffSeconds =>
      apply ordered_updateOne ordered
      intro row sending
      have sending : row.phase = .sending :=
        Row.phase_eq_sending_iff.mpr (of_decide_eq_true sending)
      exact
        { thread := rfl
          position := rfl
          settled := by
            intro settled
            change row.phase = .settled at settled
            rw [sending] at settled
            cases settled
          taken := fun _ => .inl sending }
  | deleteContract workspaceId contractId => exact ordered_deleteWhere ordered _

end EmailOutbox

/-! ## The Slack outbox -/

namespace OutboundSlackRow

/-- How far a message has come. -/
def phase (row : OutboundSlackRow) : Phase :=
  match row.status with
  | .pending => .waiting
  | .sending => .sending
  | .sent | .failed => .settled

/-- The thread that a message belongs to. -/
def thread (row : OutboundSlackRow) : String × String × String :=
  (row.installationId, row.channelId, row.threadTs)

def label (row : OutboundSlackRow) : Label (String × String × String) :=
  ⟨row.thread, row.threadPosition, row.phase⟩

theorem phase_eq_settled_iff {row : OutboundSlackRow} :
    row.phase = .settled ↔ row.status = .sent ∨ row.status = .failed := by
  unfold phase
  cases row.status <;> simp

theorem phase_eq_sending_iff {row : OutboundSlackRow} :
    row.phase = .sending ↔ row.status = .sending := by
  unfold phase
  cases row.status <;> simp

theorem live_iff {row : OutboundSlackRow} :
    (row.status = .pending || row.status = .sending) = true ↔
      row.phase ≠ .settled := by
  unfold phase
  cases row.status <;> simp

end OutboundSlackRow

namespace SlackTables

variable {tables : SlackTables} {stamp : Stamp}

theorem sameThread_iff {first second : OutboundSlackRow} :
    sameThread first.installationId first.channelId first.threadTs second = true ↔
      second.thread = first.thread := by
  simp [sameThread, OutboundSlackRow.thread, and_assoc]

/-- A due row leads its thread. -/
theorem leads_of_outboundDue {row : OutboundSlackRow}
    (isDue : tables.outboundDue stamp.now row = true) :
    row.phase ≠ .settled ∧
      Leads (labels OutboundSlackRow.label tables.outbound) row.label := by
  rw [outboundDue, Bool.and_eq_true, Bool.not_eq_true', List.any_eq_false] at isDue
  obtain ⟨live, first⟩ := isDue
  constructor
  · rw [← OutboundSlackRow.live_iff]
    simp only [Bool.or_eq_true, Bool.and_eq_true] at live ⊢
    exact live.imp And.left And.left
  · rw [leads_labels_iff]
    intro earlier member thread position
    by_contra unsettled
    apply first earlier member
    rw [Bool.and_eq_true, Bool.and_eq_true]
    exact ⟨⟨sameThread_iff.mpr thread, decide_eq_true position⟩,
      OutboundSlackRow.live_iff.mpr unsettled⟩

/-- The rows that `claim_due_outbound` takes, in order. -/
def dueOutboundRows (tables : SlackTables) (stamp : Stamp) (limit : Int) :
    List OutboundSlackRow :=
  orderedFirst (tables.outbound.select (tables.outboundDue stamp.now))
    (fun row => (row.nextAttemptAt, row.createdAt)) timesLe (max limit 1)

theorem mem_dueOutboundRows {limit : Int} {row : OutboundSlackRow}
    (member : row ∈ tables.dueOutboundRows stamp limit) :
    row ∈ tables.outbound.rows ∧ tables.outboundDue stamp.now row = true := by
  have selected := mem_of_mem_orderedFirst member
  rwa [RowTable.select, List.mem_filter] at selected

/-- Whatever the call claims leads its thread. -/
theorem claimedOutbound_leads {limit leaseSeconds : Int} {item : OutboundSlackItem}
    (claimed : item ∈ (tables.claimDueOutbound stamp limit leaseSeconds).1) :
    ∃ row ∈ tables.outbound.rows, row.id = item.id ∧
      ∀ earlier ∈ tables.outbound.rows, earlier.thread = row.thread →
        earlier.threadPosition < row.threadPosition →
          earlier.status = .sent ∨ earlier.status = .failed := by
  obtain ⟨row, member, _, rfl⟩ := mem_claimEach _ _ _ _ _ _ _ _ _ claimed
  obtain ⟨stored, isDue⟩ := mem_dueOutboundRows member
  refine ⟨row, stored, rfl, ?_⟩
  intro earlier inTable thread position
  rw [← OutboundSlackRow.phase_eq_settled_iff]
  exact leads_labels_iff.mp (leads_of_outboundDue isDue).2 earlier inTable thread
    position

theorem enqueueOutbound_row {intent : OutboundSlackIntent} {id : Uuid}
    {queued : SlackTables} (assigned : intent.threadPosition = none)
    (success : tables.enqueueOutbound stamp intent = .ok (id, queued)) :
    queued = tables ∨
      ∃ row : OutboundSlackRow,
        row.thread = (intent.installationId, intent.channelId, intent.threadTs) ∧
          row.threadPosition = tables.lastThreadPosition intent.installationId
            intent.channelId intent.threadTs + 1 ∧
          row.status ≠ .sending ∧
          tables.outbound.insert? row = some queued.outbound := by
  unfold enqueueOutbound at success
  split at success
  · cases success
    exact .inl rfl
  · rw [assigned] at success
    dsimp only at success
    split at success
    · cases success
    · split at success
      · cases success
      · split at success
        · cases success
        · rename_i outbound insertion
          cases success
          refine .inr ⟨_, rfl, rfl, ?_, insertion⟩
          dsimp only
          split_ifs <;> decide

theorem ordered_failLiveOutbound
    (ordered : Ordered (labels OutboundSlackRow.label tables.outbound))
    (installationId : String) :
    Ordered (labels OutboundSlackRow.label
      (tables.failLiveOutbound installationId)) := by
  apply ordered_updateWhere ordered
  intro row _
  exact ⟨rfl, rfl, fun _ => rfl, fun taken => by cases taken⟩

theorem ordered_claimDueOutbound
    (ordered : Ordered (labels OutboundSlackRow.label tables.outbound))
    (limit leaseSeconds : Int) :
    Ordered (labels OutboundSlackRow.label
      (tables.claimDueOutbound stamp limit leaseSeconds).2.outbound) := by
  apply ordered_claimEach ordered
  · exact orderedFirst_nodup tables.outbound _ _ _ _
  · intro selected member
    obtain ⟨stored, isDue⟩ := mem_dueOutboundRows member
    exact ⟨stored, leads_of_outboundDue isDue⟩
  · intro selected token row
    exact ⟨rfl, rfl⟩

/-- Every repository call keeps the order, if a message's position is left to the
outbox. -/
theorem ordered_after
    (ordered : Ordered (labels OutboundSlackRow.label tables.outbound))
    (call : SlackCall) (assigned : ∀ intent, call = .enqueueOutbound intent →
      intent.threadPosition = none) :
    Ordered (labels OutboundSlackRow.label (call.after stamp tables).outbound) := by
  by_cases writes : call.target = some .outbound
  · cases call with
    | enqueueOutbound intent =>
        simp only [SlackCall.after, SlackCall.body]
        cases enqueued : tables.enqueueOutbound stamp intent with
        | error _ => exact ordered
        | ok reply =>
            obtain ⟨id, queued⟩ := reply
            rcases enqueueOutbound_row (assigned intent rfl) enqueued with
              same | ⟨row, thread, position, status, success⟩
            · rw [same]
              exact ordered
            · apply ordered_insert? ordered success
              · intro other member sameThread'
                change other.threadPosition < row.threadPosition
                rw [position]
                apply lt_nextPosition
                apply List.mem_map_of_mem
                rw [RowTable.select, List.mem_filter]
                refine ⟨member, ?_⟩
                have named : other.thread =
                    (intent.installationId, intent.channelId, intent.threadTs) :=
                  Eq.trans sameThread' thread
                simp only [OutboundSlackRow.thread, Prod.mk.injEq] at named
                simp [sameThread, named]
              · change row.phase ≠ .sending
                rwa [ne_eq, OutboundSlackRow.phase_eq_sending_iff]
    | claimDueOutbound limit leaseSeconds =>
        exact ordered_claimDueOutbound ordered limit leaseSeconds
    | markOutboundSent outboxId leaseToken =>
        apply ordered_updateOne ordered
        intro row _
        exact ⟨rfl, rfl, fun _ => rfl, fun taken => by cases taken⟩
    | rescheduleOutbound outboxId leaseToken attempts maxAttempts
        retryAfterSeconds =>
        apply ordered_updateOne ordered
        intro row owned
        rw [Bool.and_eq_true, outboundOwned, Bool.and_eq_true] at owned
        have sending : row.phase = .sending :=
          OutboundSlackRow.phase_eq_sending_iff.mpr (of_decide_eq_true owned.1.1)
        exact
          { thread := rfl
            position := rfl
            settled := by
              intro settled
              change row.phase = .settled at settled
              rw [sending] at settled
              cases settled
            taken := fun _ => .inl sending }
    | disconnectInstallation installationId accountId =>
        simp only [SlackCall.after, SlackCall.body, disconnectInstallation]
        split
        · exact ordered_failLiveOutbound ordered installationId
        · exact ordered
    | markInstallationRevoked installationId =>
        exact ordered_failLiveOutbound ordered installationId
    | _ => cases writes
  · have same :
        (call.after stamp tables).outbound.find? = tables.outbound.find? :=
      row_after_of_not_target stamp tables call writes
    rw [show labels OutboundSlackRow.label (call.after stamp tables).outbound =
      labels OutboundSlackRow.label tables.outbound by
        unfold labels
        rw [same]]
    exact ordered

end SlackTables

/-! ## Runs -/

section Rows

variable {Row Key Thread : Type} {key : Row → Key} [DecidableEq Key]
  {label : Row → Label Thread} {table : RowTable key} {first second : Row}

/-- No two rows of a thread share a position. -/
theorem eq_of_position (ordered : Ordered (labels label table))
    (stored : first ∈ table.rows) (stored' : second ∈ table.rows)
    (thread : (label first).thread = (label second).thread)
    (position : (label first).position = (label second).position) :
    first = second := by
  have found := RowTable.find?_of_mem stored
  have found' := RowTable.find?_of_mem stored'
  have keys : key first = key second := ordered.distinct _ _ _ _
    (labels_eq_some_iff.mpr ⟨first, found, rfl⟩)
    (labels_eq_some_iff.mpr ⟨second, found', rfl⟩) thread position
  rw [keys, found'] at found
  exact (Option.some.inj found).symm

/-- No two rows of a thread are being sent. -/
theorem eq_of_sending (ordered : Ordered (labels label table))
    (stored : first ∈ table.rows) (stored' : second ∈ table.rows)
    (thread : (label first).thread = (label second).thread)
    (sending : (label first).phase = .sending)
    (sending' : (label second).phase = .sending) : first = second := by
  have found := RowTable.find?_of_mem stored
  have found' := RowTable.find?_of_mem stored'
  have keys : key first = key second := ordered.exclusive
    (labels_eq_some_iff.mpr ⟨first, found, rfl⟩)
    (labels_eq_some_iff.mpr ⟨second, found', rfl⟩) thread sending sending'
  rw [keys, found'] at found
  exact (Option.some.inj found).symm

end Rows

/-- A call on the email outbox, by any worker at any time. -/
structure EmailOutboxStep where
  stamp : Stamp
  call : EmailOutboxCall
  before : EmailOutbox.Table

namespace EmailOutboxStep

def after (step : EmailOutboxStep) : EmailOutbox.Table :=
  step.call.after step.stamp step.before

/-- The position of a message is left to the outbox. -/
def Assigned (step : EmailOutboxStep) : Prop :=
  ∀ intent, step.call = .enqueue intent → intent.threadPosition = none

end EmailOutboxStep

/-- The runs of the email outbox from its creation. -/
abbrev EmailOutboxRun : List EmailOutboxStep → EmailOutbox.Table → Prop :=
  RunHistory.Run EmailOutboxStep.before EmailOutboxStep.after
    EmailOutboxStep.Assigned RowTable.empty

/-- What changes the Slack outbox and the installations it depends on. -/
inductive SlackOutboxCall where
  | repository (call : SlackCall)
  | deleteContract (workspaceId : String) (contractId : Uuid)
  | install (installations : RowTable SlackInstallationRow.id)

/-- A call on the Slack outbox, by any worker at any time. -/
structure SlackOutboxStep where
  stamp : Stamp
  call : SlackOutboxCall
  before : SlackTables

namespace SlackOutboxStep

def after (step : SlackOutboxStep) : SlackTables :=
  match step.call with
  | .repository call => call.after step.stamp step.before
  | .deleteContract workspaceId contractId =>
      { step.before with
        outbound := step.before.outbound.deleteWhere fun row =>
          row.workspaceId = workspaceId && row.contractId = some contractId
        jobs := step.before.jobs.deleteWhere fun row =>
          row.contractId = contractId }
  | .install installations => { step.before with installations }

/-- The position of a message is left to the outbox. -/
def Assigned (step : SlackOutboxStep) : Prop :=
  ∀ intent, step.call = .repository (.enqueueOutbound intent) →
    intent.threadPosition = none

/-- The items that the step claims. -/
def claims (step : SlackOutboxStep) : List OutboundSlackItem :=
  match step.call with
  | .repository (.claimDueOutbound limit leaseSeconds) =>
      (step.before.claimDueOutbound step.stamp limit leaseSeconds).1
  | _ => []

end SlackOutboxStep

/-- The runs of the Slack outbox from its creation. -/
abbrev SlackOutboxRun : List SlackOutboxStep → SlackTables → Prop :=
  RunHistory.Run SlackOutboxStep.before SlackOutboxStep.after
    SlackOutboxStep.Assigned default

theorem EmailOutboxRun.ordered {steps : List EmailOutboxStep}
    {table : EmailOutbox.Table} (run : EmailOutboxRun steps table) :
    Ordered (labels EmailOutbox.Row.label table) := by
  refine (run.invariant (fun table => Ordered (labels EmailOutbox.Row.label table))
    .empty ?_).1
  intro step _ assigned ordered
  exact EmailOutbox.ordered_after ordered step.call assigned

theorem SlackOutboxRun.ordered {steps : List SlackOutboxStep}
    {tables : SlackTables} (run : SlackOutboxRun steps tables) :
    Ordered (labels OutboundSlackRow.label tables.outbound) := by
  refine (run.invariant (fun tables =>
    Ordered (labels OutboundSlackRow.label tables.outbound)) .empty ?_).1
  rintro ⟨stamp, call, before⟩ _ assigned ordered
  cases call with
  | repository call =>
      apply SlackTables.ordered_after ordered call
      rintro intent rfl
      exact assigned intent rfl
  | deleteContract workspaceId contractId => exact ordered_deleteWhere ordered _
  | install installations => exact ordered

/-- In both outboxes no two rows of a thread share a position, at most one of them
is being sent, and a claimed row is preceded by settled rows only. -/
theorem outbox_threads_in_order :
    (∀ (steps : List EmailOutboxStep) (table : EmailOutbox.Table),
        EmailOutboxRun steps table →
          (∀ first ∈ table.rows, ∀ second ∈ table.rows,
            first.threadKey = second.threadKey →
              first.threadPosition = second.threadPosition → first = second) ∧
          (∀ first ∈ table.rows, ∀ second ∈ table.rows,
            first.threadKey = second.threadKey → first.status = .sending →
              second.status = .sending → first = second) ∧
          ∀ step ∈ steps, ∀ item ∈ step.call.claims step.stamp step.before,
            ∃ row ∈ step.before.rows, row.id = item.id ∧
              ∀ earlier ∈ step.before.rows, earlier.threadKey = row.threadKey →
                earlier.threadPosition < row.threadPosition →
                  earlier.status = .sent ∨ earlier.status = .failed) ∧
      ∀ (steps : List SlackOutboxStep) (tables : SlackTables),
        SlackOutboxRun steps tables →
          (∀ first ∈ tables.outbound.rows, ∀ second ∈ tables.outbound.rows,
            first.thread = second.thread →
              first.threadPosition = second.threadPosition → first = second) ∧
          (∀ first ∈ tables.outbound.rows, ∀ second ∈ tables.outbound.rows,
            first.thread = second.thread → first.status = .sending →
              second.status = .sending → first = second) ∧
          ∀ step ∈ steps, ∀ item ∈ step.claims,
            ∃ row ∈ step.before.outbound.rows, row.id = item.id ∧
              ∀ earlier ∈ step.before.outbound.rows, earlier.thread = row.thread →
                earlier.threadPosition < row.threadPosition →
                  earlier.status = .sent ∨ earlier.status = .failed := by
  constructor
  · intro steps table run
    refine ⟨?_, ?_, ?_⟩
    · intro first stored second stored' thread position
      exact eq_of_position run.ordered stored stored' thread position
    · intro first stored second stored' thread sending sending'
      exact eq_of_sending run.ordered stored stored' thread
        (EmailOutbox.Row.phase_eq_sending_iff.mpr sending)
        (EmailOutbox.Row.phase_eq_sending_iff.mpr sending')
    · rintro ⟨stamp, call, before⟩ _ item claimed
      cases call with
      | claimDue limit leaseSeconds => exact EmailOutbox.claimed_leads claimed
      | _ => cases claimed
  · intro steps tables run
    refine ⟨?_, ?_, ?_⟩
    · intro first stored second stored' thread position
      exact eq_of_position run.ordered stored stored' thread position
    · intro first stored second stored' thread sending sending'
      exact eq_of_sending run.ordered stored stored' thread
        (OutboundSlackRow.phase_eq_sending_iff.mpr sending)
        (OutboundSlackRow.phase_eq_sending_iff.mpr sending')
    · rintro ⟨stamp, call, before⟩ _ item claimed
      cases call with
      | repository call =>
          cases call with
          | claimDueOutbound limit leaseSeconds =>
              exact SlackTables.claimedOutbound_leads claimed
          | _ => cases claimed
      | _ => cases claimed

/-- Two emails of one thread are queued and the first one is claimed; once it is sent the
second one is. -/
def threadEmail (stamp : Stamp) (key : String) (before : EmailOutbox.Table) : EmailOutboxStep :=
  ⟨stamp, .enqueue
    { workspaceId := "inbox", threadKey := "thread", messageType := .receipt
      message := { toAddress := "to", fromAddress := "from", subject := "subject"
                   textBody := "text" }
      idempotencyKey := key }, before⟩

def firstEmail : EmailOutboxStep :=
  threadEmail ⟨0, 0⟩ "receipt:1" RowTable.empty

def secondEmail : EmailOutboxStep :=
  threadEmail ⟨1, 1⟩ "receipt:2" firstEmail.after

def firstEmailClaim : EmailOutboxStep :=
  ⟨⟨2, 2⟩, .claimDue 25 120, secondEmail.after⟩

def firstEmailSent : EmailOutboxStep :=
  ⟨⟨3, 3⟩, .markSent (Stamp.uuid4 ⟨0, 0⟩ 0), firstEmailClaim.after⟩

def secondEmailClaim : EmailOutboxStep :=
  ⟨⟨4, 4⟩, .claimDue 25 120, firstEmailSent.after⟩

/-- So are two messages of an installation. -/
def sampleInstall : SlackOutboxStep :=
  ⟨⟨0, 0⟩, .install ((default : RowTable SlackInstallationRow.id).insertIgnore
    { id := "installation", teamId := "team", encryptedBotToken := "token"
      installedByAccountId := "account", status := .active }), default⟩

def threadMessage (stamp : Stamp) (key : String) (before : SlackTables) : SlackOutboxStep :=
  ⟨stamp, .repository (.enqueueOutbound
    { workspaceId := "inbox", installationId := "installation"
      channelId := "channel", threadTs := "1.0", messageType := .receipt
      textBody := "text", idempotencyKey := .receipt key }), before⟩

def firstMessage : SlackOutboxStep :=
  threadMessage ⟨1, 1⟩ "event:file" sampleInstall.after

def secondMessage : SlackOutboxStep :=
  threadMessage ⟨2, 2⟩ "event:other" firstMessage.after

def firstMessageClaim : SlackOutboxStep :=
  ⟨⟨3, 3⟩, .repository (.claimDueOutbound 25 120), secondMessage.after⟩

def firstMessageSent : SlackOutboxStep :=
  ⟨⟨4, 4⟩, .repository (.markOutboundSent (Stamp.uuid4 ⟨1, 1⟩ 0) (Stamp.uuid4 ⟨3, 3⟩ 0)),
    firstMessageClaim.after⟩

def secondMessageClaim : SlackOutboxStep :=
  ⟨⟨5, 5⟩, .repository (.claimDueOutbound 25 120), firstMessageSent.after⟩

theorem outbox_threads_in_order_sample :
    ((secondEmailClaim.after.rows.map fun row => (row.threadPosition, row.status)) =
        [(1, .sent), (2, .sending)] ∧
      (∀ first ∈ secondEmailClaim.after.rows, ∀ second ∈ secondEmailClaim.after.rows,
        first.threadKey = second.threadKey →
          first.threadPosition = second.threadPosition → first = second) ∧
      (∀ first ∈ secondEmailClaim.after.rows, ∀ second ∈ secondEmailClaim.after.rows,
        first.threadKey = second.threadKey → first.status = .sending →
          second.status = .sending → first = second) ∧
      ∀ item ∈ secondEmailClaim.call.claims secondEmailClaim.stamp secondEmailClaim.before,
        ∃ row ∈ secondEmailClaim.before.rows, row.id = item.id ∧
          ∀ earlier ∈ secondEmailClaim.before.rows, earlier.threadKey = row.threadKey →
            earlier.threadPosition < row.threadPosition →
              earlier.status = .sent ∨ earlier.status = .failed) ∧
      (secondMessageClaim.after.outbound.rows.map fun row => (row.threadPosition, row.status)) =
        [(1, .sent), (2, .sending)] ∧
      (∀ first ∈ secondMessageClaim.after.outbound.rows,
        ∀ second ∈ secondMessageClaim.after.outbound.rows, first.thread = second.thread →
          first.threadPosition = second.threadPosition → first = second) ∧
      (∀ first ∈ secondMessageClaim.after.outbound.rows,
        ∀ second ∈ secondMessageClaim.after.outbound.rows, first.thread = second.thread →
          first.status = .sending → second.status = .sending → first = second) ∧
      ∀ item ∈ secondMessageClaim.claims,
        ∃ row ∈ secondMessageClaim.before.outbound.rows, row.id = item.id ∧
          ∀ earlier ∈ secondMessageClaim.before.outbound.rows, earlier.thread = row.thread →
            earlier.threadPosition < row.threadPosition →
              earlier.status = .sent ∨ earlier.status = .failed := by
  have emails : EmailOutboxRun [firstEmail, secondEmail, firstEmailClaim, firstEmailSent,
      secondEmailClaim] secondEmailClaim.after :=
    .step (.step (.step (.step (.step .nil firstEmail rfl (by rintro intent ⟨⟩; rfl))
      secondEmail rfl (by rintro intent ⟨⟩; rfl)) firstEmailClaim rfl (by rintro intent ⟨⟩))
        firstEmailSent rfl (by rintro intent ⟨⟩)) secondEmailClaim rfl (by rintro intent ⟨⟩)
  have messages : SlackOutboxRun [sampleInstall, firstMessage, secondMessage,
      firstMessageClaim, firstMessageSent, secondMessageClaim] secondMessageClaim.after :=
    .step (.step (.step (.step (.step (.step .nil sampleInstall rfl (by rintro intent ⟨⟩))
      firstMessage rfl (by rintro intent ⟨⟩; rfl)) secondMessage rfl (by rintro intent ⟨⟩; rfl))
        firstMessageClaim rfl (by rintro intent ⟨⟩)) firstMessageSent rfl
          (by rintro intent ⟨⟩)) secondMessageClaim rfl (by rintro intent ⟨⟩)
  obtain ⟨positions, sending, claimed⟩ := outbox_threads_in_order.1 _ _ emails
  obtain ⟨positions', sending', claimed'⟩ := outbox_threads_in_order.2 _ _ messages
  exact ⟨⟨by decide +kernel, positions, sending, claimed _ (by simp)⟩, by decide +kernel,
    positions', sending', claimed' _ (by simp)⟩

end ContractMate
