import ContractMate.StatementPatterns

/-!
# The knowledge outbox

`knowledge_index_outbox` holds one intent for each version whose review is to be
indexed.  A forced request starts the intent over; dispatchers claim due intents for a
while, publish their jobs and report back; a worker that fails notes it on an intent
that was published.
-/

namespace ContractMate

/-- `knowledge_index_outbox.status`. -/
inductive IntentStatus where
  | pending
  | publishing
  | published
  | failed
deriving DecidableEq, Repr

structure KnowledgeOutboxRow where
  id : Uuid
  workspaceId : String
  contractId : Uuid
  contractVersionId : Uuid
  status : IntentStatus := .pending
  attempts : Nat := 0
  nextAttemptAt : Int
  leaseExpiresAt : Option Int := none
  createdAt : Int
deriving DecidableEq, Repr

/-- `UNIQUE(workspace_id, contract_version_id)`. -/
abbrev KnowledgeOutboxRow.version (row : KnowledgeOutboxRow) : String × Uuid :=
  (row.workspaceId, row.contractVersionId)

/-- A claimed intent. -/
structure KnowledgeOutboxItem where
  id : Uuid
  workspaceId : String
  contractId : Uuid
  contractVersionId : Uuid
  attempts : Nat
deriving DecidableEq, Repr

abbrev KnowledgeOutboxItem.version (item : KnowledgeOutboxItem) : String × Uuid :=
  (item.workspaceId, item.contractVersionId)

/-- The table, with its two unique constraints. -/
structure KnowledgeOutbox where
  table : RowTable KnowledgeOutboxRow.id
  versions_nodup : (table.rows.map KnowledgeOutboxRow.version).Nodup

instance : Inhabited KnowledgeOutbox := ⟨default, List.nodup_nil⟩

namespace KnowledgeOutboxRow

/-- The condition of `claim_due`. -/
def due (row : KnowledgeOutboxRow) (now : Int) : Bool :=
  (row.status = .pending && row.nextAttemptAt ≤ now) ||
    (row.status = .publishing && leaseExpired row.leaseExpiresAt now)

/-- A row that a dispatcher takes over. -/
def claimed (row : KnowledgeOutboxRow) (leaseExpiresAt : Int) : KnowledgeOutboxRow :=
  { row with
    status := .publishing, attempts := row.attempts + 1
    leaseExpiresAt := some leaseExpiresAt }

/-- What the dispatcher gets of it. -/
def item (row : KnowledgeOutboxRow) : KnowledgeOutboxItem where
  id := row.id
  workspaceId := row.workspaceId
  contractId := row.contractId
  contractVersionId := row.contractVersionId
  attempts := row.attempts + 1

/-- The `DO UPDATE` of a forced request. -/
def restarted (row : KnowledgeOutboxRow) (contractId : Uuid) (now : Int) :
    KnowledgeOutboxRow :=
  { row with
    contractId, status := .pending, attempts := 0, nextAttemptAt := now
    leaseExpiresAt := none }

/-- `ORDER BY next_attempt_at, created_at, id`. -/
def rank (row : KnowledgeOutboxRow) : Int × Int × Uuid :=
  (row.nextAttemptAt, row.createdAt, row.id)

def rankLe (first second : Int × Int × Uuid) : Bool :=
  first.1 < second.1 || (first.1 == second.1 &&
    (first.2.1 < second.2.1 || (first.2.1 == second.2.1 && first.2.2.le second.2.2)))

end KnowledgeOutboxRow

namespace KnowledgeOutbox

/-! ## Statements -/

/-- `UPDATE … SET … WHERE` that sets neither of the unique columns. -/
def updateWhere (outbox : KnowledgeOutbox) (condition : KnowledgeOutboxRow → Bool)
    (change : RowTable.Change KnowledgeOutboxRow.id)
    (unset : ∀ row, (change.apply row).version = row.version) : KnowledgeOutbox where
  table := outbox.table.updateWhere condition change
  versions_nodup := by
    rw [RowTable.map_updateWhere KnowledgeOutboxRow.version _ _ _ unset]
    exact outbox.versions_nodup

/-- `DELETE … WHERE`. -/
def deleteWhere (outbox : KnowledgeOutbox) (condition : KnowledgeOutboxRow → Bool) :
    KnowledgeOutbox where
  table := outbox.table.deleteWhere condition
  versions_nodup :=
    (List.filter_sublist.map KnowledgeOutboxRow.version).nodup outbox.versions_nodup

/-- The table under its other key. -/
def byVersion (outbox : KnowledgeOutbox) : RowTable KnowledgeOutboxRow.version where
  rows := outbox.table.rows
  keys_nodup := outbox.versions_nodup

/-- `SELECT … WHERE workspace_id = ? AND contract_version_id = ?`. -/
def intent? (outbox : KnowledgeOutbox) (version : String × Uuid) :
    Option KnowledgeOutboxRow :=
  outbox.byVersion.find? version

instance lawfulBEqVersion : LawfulBEq (String × Uuid) :=
  inferInstance

/-- `INSERT`, refused when one of the unique columns is taken. -/
def insert? (outbox : KnowledgeOutbox) (row : KnowledgeOutboxRow) :
    Option KnowledgeOutbox :=
  if taken : row.version ∈ outbox.table.rows.map KnowledgeOutboxRow.version then
    none
  else
    match inserted : outbox.table.insert? row with
    | none => none
    | some table =>
        some {
          table
          versions_nodup := by
            rw [RowTable.rows_of_insert? inserted, List.map_append, List.map_singleton]
            exact List.nodup_append.mpr ⟨outbox.versions_nodup, by simp, by
              rintro version present _ single rfl
              exact taken (List.mem_singleton.mp single ▸ present)⟩ }

/-! ## Operations -/

/-- The `INSERT … ON CONFLICT` of `enqueue_intent`. -/
def upsertIntent (outbox : KnowledgeOutbox) (stamp : Stamp) (workspaceId : String)
    (contractId contractVersionId : Uuid) (force : Bool) :
    Except Exn KnowledgeOutbox :=
  match outbox.intent? (workspaceId, contractVersionId) with
  | some _ =>
      .ok (if force then
        outbox.updateWhere (fun row => row.version = (workspaceId, contractVersionId))
          ⟨fun row => row.restarted contractId stamp.now, fun _ => rfl⟩ fun _ => rfl
      else outbox)
  | none =>
      match outbox.insert?
          { id := stamp.uuid4 0, workspaceId, contractId, contractVersionId
            nextAttemptAt := stamp.now, createdAt := stamp.now } with
      | some inserted => .ok inserted
      | none => .error (Exn.uniqueViolation "knowledge_index_outbox_pkey")

/-- `enqueue_intent`. -/
def enqueueIntent (outbox : KnowledgeOutbox) (stamp : Stamp) (workspaceId : String)
    (contractId contractVersionId : Uuid) (force : Bool) :
    Except Exn (Uuid × KnowledgeOutbox) := do
  let upserted ←
    outbox.upsertIntent stamp workspaceId contractId contractVersionId force
  match upserted.intent? (workspaceId, contractVersionId) with
  | some row => .ok (row.id, upserted)
  | none => .error (Exn.runtimeError "Knowledge indexing intent could not be persisted")

/-- The rows that `claim_due` takes; `locked` are those that `SKIP LOCKED` passes
over. -/
def dueRows (outbox : KnowledgeOutbox) (now : Int) (locked : List Uuid) (limit : Int) :
    List KnowledgeOutboxRow :=
  orderedFirst
    (outbox.table.select fun row => row.due now && !locked.contains row.id)
    KnowledgeOutboxRow.rank KnowledgeOutboxRow.rankLe limit

/-- The update of a claimed row. -/
def claimChange (stamp : Stamp) (leaseSeconds : Int) (selected : KnowledgeOutboxRow)
    (_ : Uuid) : RowTable.Change KnowledgeOutboxRow.id where
  apply row :=
    { row with
      status := .publishing, attempts := selected.attempts + 1
      leaseExpiresAt := some (leaseUntil stamp leaseSeconds) }
  keeps := fun _ => rfl

/-- The claiming loop over some rows. -/
def claimRows (outbox : KnowledgeOutbox) (stamp : Stamp) (leaseSeconds : Int)
    (rows : List KnowledgeOutboxRow) :
    List KnowledgeOutboxItem × RowTable KnowledgeOutboxRow.id :=
  claimEach false (fun _ => true) (claimChange stamp leaseSeconds)
    (fun row _ => row.item) stamp 0 rows outbox.table

/-- `claim_due`. -/
def claimDue (outbox : KnowledgeOutbox) (stamp : Stamp) (locked : List Uuid)
    (limit leaseSeconds : Int) : List KnowledgeOutboxItem × KnowledgeOutbox :=
  if limit < 1 then ([], outbox)
  else
    let claimed := outbox.claimRows stamp leaseSeconds
      (outbox.dueRows stamp.now locked limit)
    (claimed.1, {
      table := claimed.2
      versions_nodup := by
        have same : claimed.2.rows.map KnowledgeOutboxRow.version =
            outbox.table.rows.map KnowledgeOutboxRow.version :=
          map_claimEach _ _ _ _ KnowledgeOutboxRow.version (fun _ _ _ => rfl) _ _ _ _
        rw [same]
        exact outbox.versions_nodup })

/-- `mark_published`. -/
def markPublished (outbox : KnowledgeOutbox) (outboxId : Uuid) : KnowledgeOutbox :=
  outbox.updateWhere (fun row => row.id = outboxId && row.status = .publishing)
    ⟨fun row => { row with status := .published, leaseExpiresAt := none },
      fun _ => rfl⟩ fun _ => rfl

/-- `record_consumer_failure`. -/
def recordConsumerFailure (outbox : KnowledgeOutbox) (outboxId : Uuid)
    (terminal : Bool) : KnowledgeOutbox :=
  outbox.updateWhere
    (fun row =>
      row.id = outboxId && (row.status = .published || row.status = .failed))
    ⟨fun row => { row with status := if terminal then .failed else row.status },
      fun _ => rfl⟩ fun _ => rfl

/-- The delay before attempt number `attempts + 1`, in seconds. -/
def backoffSeconds (attempts : Nat) (baseBackoffSeconds : Int) : Int :=
  min (max baseBackoffSeconds 1 * 2 ^ (attempts - 1)) 3600

/-- `reschedule`. -/
def reschedule (outbox : KnowledgeOutbox) (stamp : Stamp) (outboxId : Uuid)
    (attempts : Nat) (maxAttempts baseBackoffSeconds : Int) : KnowledgeOutbox :=
  outbox.updateWhere (fun row => row.id = outboxId && row.status = .publishing)
    ⟨fun row =>
      { row with
        status := if max maxAttempts 1 ≤ attempts then .failed else .pending
        nextAttemptAt :=
          stamp.now + seconds (backoffSeconds attempts baseBackoffSeconds)
        leaseExpiresAt := none }, fun _ => rfl⟩ fun _ => rfl

/-! ## What the operations do to a row -/

variable {outbox after : KnowledgeOutbox} {stamp : Stamp} {id : Uuid}
  {row : KnowledgeOutboxRow} {version : String × Uuid}

theorem intent?_eq_some_iff :
    outbox.intent? version = some row ↔
      outbox.table.find? row.id = some row ∧ row.version = version := by
  constructor
  · intro found
    obtain ⟨member, named⟩ := RowTable.find?_eq_some_iff.mp found
    have member : row ∈ outbox.table.rows := member
    exact ⟨RowTable.find?_of_mem member, named⟩
  · rintro ⟨found, named⟩
    have member : row ∈ outbox.table.rows := RowTable.mem_of_find? found
    have member : row ∈ outbox.byVersion.rows := member
    exact RowTable.find?_eq_some_iff.mpr ⟨member, named⟩

theorem find?_markPublished (other : Uuid) :
    (outbox.markPublished id).table.find? other =
      if other = id then
        (outbox.table.find? id).map fun row =>
          if row.status = .publishing then
            { row with status := .published, leaseExpiresAt := none }
          else row
      else outbox.table.find? other := by
  refine (RowTable.find?_updateWhere_key outbox.table id
    (fun row => row.status = .publishing) _ other).trans ?_
  simp

theorem find?_recordConsumerFailure (terminal : Bool) (other : Uuid) :
    (outbox.recordConsumerFailure id terminal).table.find? other =
      if other = id then
        (outbox.table.find? id).map fun row =>
          if row.status = .published ∨ row.status = .failed then
            { row with status := if terminal then .failed else row.status }
          else row
      else outbox.table.find? other := by
  refine (RowTable.find?_updateWhere_key outbox.table id
    (fun row => row.status = .published || row.status = .failed) _ other).trans ?_
  simp

theorem find?_reschedule (attempts : Nat) (maxAttempts baseBackoffSeconds : Int)
    (other : Uuid) :
    (outbox.reschedule stamp id attempts maxAttempts baseBackoffSeconds).table.find?
        other =
      if other = id then
        (outbox.table.find? id).map fun row =>
          if row.status = .publishing then
            { row with
              status := if max maxAttempts 1 ≤ attempts then .failed else .pending
              nextAttemptAt :=
                stamp.now + seconds (backoffSeconds attempts baseBackoffSeconds)
              leaseExpiresAt := none }
          else row
      else outbox.table.find? other := by
  refine (RowTable.find?_updateWhere_key outbox.table id
    (fun row => row.status = .publishing) _ other).trans ?_
  simp

/-! ## Claims -/

section Claims

variable {locked : List Uuid} {limit leaseSeconds : Int}

/-- The rows that a claim takes. -/
def takes (outbox : KnowledgeOutbox) (now : Int) (locked : List Uuid) (limit : Int) :
    List KnowledgeOutboxRow :=
  if limit < 1 then [] else outbox.dueRows now locked limit

theorem items_claimDue :
    (outbox.claimDue stamp locked limit leaseSeconds).1 =
      (outbox.takes stamp.now locked limit).map KnowledgeOutboxRow.item := by
  unfold claimDue takes
  split
  · rfl
  · exact claimEach_items _ _ _ KnowledgeOutboxRow.item _ _ _

theorem mem_takes (member : row ∈ outbox.takes stamp.now locked limit) :
    outbox.table.find? row.id = some row ∧ row.due stamp.now = true := by
  unfold takes at member
  split at member
  · cases member
  · have selected := mem_of_mem_orderedFirst member
    rw [RowTable.select, List.mem_filter, Bool.and_eq_true] at selected
    exact ⟨RowTable.find?_of_mem selected.1, selected.2.1⟩

/-- A claim leaves the rows that it does not take. -/
theorem find?_claimDue_of_not_taken
    (spared : ∀ row ∈ outbox.takes stamp.now locked limit, row.id ≠ id) :
    (outbox.claimDue stamp locked limit leaseSeconds).2.table.find? id =
      outbox.table.find? id := by
  unfold takes at spared
  unfold claimDue
  split
  · rfl
  · rename_i some_
    rw [if_neg some_] at spared
    apply claimEach_other
    intro member
    obtain ⟨row, taken, same⟩ := List.mem_map.mp member
    exact spared row taken same

/-- A taken row is leased to the claim. -/
theorem find?_claimDue_of_taken (member : row ∈ outbox.takes stamp.now locked limit) :
    (outbox.claimDue stamp locked limit leaseSeconds).2.table.find? row.id =
      some (row.claimed (leaseUntil stamp leaseSeconds)) := by
  have found := (mem_takes member).1
  unfold takes at member
  unfold claimDue
  split at member
  · cases member
  · rename_i some_
    rw [if_neg some_]
    have written := claimEach_selected (claimChange stamp leaseSeconds)
      (fun row _ => row.item) stamp false (outbox.dueRows stamp.now locked limit) 0
      outbox.table (orderedFirst_nodup _ _ _ _ _) row member row found
    exact written.choose_spec

/-- What a claim does to a row: it takes it or leaves it. -/
theorem claimDue_cases (outbox : KnowledgeOutbox) (stamp : Stamp) (locked : List Uuid)
    (limit leaseSeconds : Int) (id : Uuid) :
    (∃ row, outbox.table.find? id = some row ∧ row.due stamp.now = true ∧
      row.item ∈ (outbox.claimDue stamp locked limit leaseSeconds).1 ∧
      (∀ item ∈ (outbox.claimDue stamp locked limit leaseSeconds).1,
        item.id = id → item = row.item) ∧
      (outbox.claimDue stamp locked limit leaseSeconds).2.table.find? id =
        some (row.claimed (leaseUntil stamp leaseSeconds))) ∨
    ((∀ item ∈ (outbox.claimDue stamp locked limit leaseSeconds).1, item.id ≠ id) ∧
      (outbox.claimDue stamp locked limit leaseSeconds).2.table.find? id =
        outbox.table.find? id) := by
  rw [items_claimDue]
  by_cases taken : ∃ row ∈ outbox.takes stamp.now locked limit, row.id = id
  · obtain ⟨row, member, rfl⟩ := taken
    obtain ⟨found, due⟩ := mem_takes member
    refine .inl ⟨row, found, due, List.mem_map_of_mem member, ?_,
      find?_claimDue_of_taken member⟩
    intro item claimed named
    obtain ⟨other, otherMember, rfl⟩ := List.mem_map.mp claimed
    have stored := (mem_takes otherMember).1
    have same : other.id = row.id := named
    rw [same, found] at stored
    rw [Option.some.inj stored]
  · right
    constructor
    · intro item claimed named
      obtain ⟨row, member, rfl⟩ := List.mem_map.mp claimed
      exact taken ⟨row, member, named⟩
    · apply find?_claimDue_of_not_taken
      intro row member same
      exact taken ⟨row, member, same⟩

end Claims

/-! ## Requests -/

section Requests

variable {workspaceId : String} {contractId contractVersionId : Uuid} {force : Bool}

theorem rows_of_insert? (inserted : outbox.insert? row = some after) :
    after.table.rows = outbox.table.rows ++ [row] := by
  unfold insert? at inserted
  split at inserted
  · cases inserted
  · split at inserted
    · cases inserted
    · rename_i success
      cases inserted
      exact RowTable.rows_of_insert? success

/-- An insert adds its row. -/
theorem find?_insert? (inserted : outbox.insert? row = some after) :
    outbox.table.find? row.id = none ∧ ∀ other, after.table.find? other =
      if row.id = other then some row else outbox.table.find? other := by
  unfold insert? at inserted
  split at inserted
  · cases inserted
  · split at inserted
    · cases inserted
    · rename_i success
      cases inserted
      have absent := RowTable.insert?_isSome_iff.mp
        (Option.isSome_iff_exists.mpr ⟨_, success⟩)
      exact ⟨absent, RowTable.find?_insert? success⟩

/-- What a request does: it starts an intent over, leaves it, or adds it. -/
theorem upsertIntent_cases
    (upserted : outbox.upsertIntent stamp workspaceId contractId contractVersionId
      force = .ok after) :
    (∃ row, outbox.intent? (workspaceId, contractVersionId) = some row ∧
      ∀ other, after.table.find? other =
        if other = row.id then
          some (if force then row.restarted contractId stamp.now else row)
        else outbox.table.find? other) ∨
    (outbox.intent? (workspaceId, contractVersionId) = none ∧
      outbox.table.find? (stamp.uuid4 0) = none ∧
      ∀ other, after.table.find? other =
        if other = stamp.uuid4 0 then
          some { id := stamp.uuid4 0, workspaceId, contractId, contractVersionId
                 nextAttemptAt := stamp.now, createdAt := stamp.now }
        else outbox.table.find? other) := by
  unfold upsertIntent at upserted
  split at upserted
  · rename_i row found
    cases upserted
    obtain ⟨stored, named⟩ := intent?_eq_some_iff.mp found
    refine .inl ⟨row, found, ?_⟩
    intro other
    cases force with
    | false =>
        by_cases same : other = row.id
        · simp [same, stored]
        · simp [same]
    | true =>
        refine (RowTable.find?_updateWhere _ _ _ _).trans ?_
        by_cases same : other = row.id
        · subst same
          simp only [stored, Option.map_some, decide_eq_true_eq]
          rw [if_pos named]
          simp
        · rw [if_neg same]
          cases present : outbox.table.find? other with
          | none => rfl
          | some another =>
              have different : another.version ≠ (workspaceId, contractVersionId) := by
                intro version
                have key := RowTable.key_of_find? present
                have again := intent?_eq_some_iff.mpr
                  ⟨by rw [key]; exact present, version⟩
                rw [found] at again
                cases again
                exact same key.symm
              simp only [Option.map_some, decide_eq_true_eq, if_neg different]
  · rename_i absent
    split at upserted
    · rename_i inserted success
      cases upserted
      obtain ⟨fresh, rows⟩ := find?_insert? success
      refine .inr ⟨absent, fresh, ?_⟩
      intro other
      rw [rows]
      by_cases same : other = stamp.uuid4 0
      · rw [if_pos same.symm, if_pos same]
      · rw [if_neg (Ne.symm same), if_neg same]
    · cases upserted

end Requests

end KnowledgeOutbox

end ContractMate
