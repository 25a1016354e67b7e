import ContractMate.KnowledgeWorker
import ContractMate.ReviewDatabase
import ContractMate.TransactionBlock

/-!
# Finalising a review

`finalize_contract_review` writes the review, the status, the audit event and the index
intent of a version in one transaction block.  Wherever the block is interrupted, either
all four are committed or nothing is.
-/

namespace ContractMate

open TransactionBlock

/-- The tables around a finalised review. -/
structure ReviewStore where
  contracts : RowTable ContractRow.id
  versions : RowTable ContractVersionRow.id
  reviews : RowTable ContractReviewRow.contractVersionId
  audit : List AuditEventRow
  outbox : KnowledgeOutbox
  indexes : RowTable KnowledgeIndexRow.key

instance : Inhabited ReviewStore :=
  ⟨⟨default, default, default, [], default, default⟩⟩

/-- The arguments of `finalize_contract_review`. -/
structure FinalizedReview where
  workspaceId : String
  contractId : Uuid
  contractVersionId : Uuid
  review : ContractReview
  reviewStatus : String := "valid"

/-! ## Statements -/

inductive FinalizeStatement where
  | selectCurrentVersion (workspaceId : String) (contractId contractVersionId : Uuid)
  | upsertReview (row : ContractReviewRow)
  | updateStatus (workspaceId : String) (contractId contractVersionId : Uuid)
  | insertAudit (row : AuditEventRow)
  | insertIntent (row : KnowledgeOutboxRow)
  | selectIntent (workspaceId : String) (contractVersionId : Uuid)

/-- Rows of the `SELECT`s, and the row count of the `UPDATE`. -/
def FinalizeStatement.Ret : FinalizeStatement → Type
  | selectCurrentVersion .. => Bool
  | updateStatus .. => Nat
  | selectIntent .. => Option Uuid
  | _ => Unit

abbrev FinalizeProg :=
  Prog FinalizeStatement FinalizeStatement.Ret Exn

namespace FinalizeStatement

def currentVersion (workspaceId : String) (contractId contractVersionId : Uuid) :
    FinalizeProg Bool :=
  Prog.perform (selectCurrentVersion workspaceId contractId contractVersionId)

def writeReview (row : ContractReviewRow) : FinalizeProg Unit :=
  Prog.perform (upsertReview row)

def statusRows (workspaceId : String) (contractId contractVersionId : Uuid) :
    FinalizeProg Nat :=
  Prog.perform (updateStatus workspaceId contractId contractVersionId)

def recordReady (row : AuditEventRow) : FinalizeProg Unit :=
  Prog.perform (insertAudit row)

def intend (row : KnowledgeOutboxRow) : FinalizeProg Unit :=
  Prog.perform (insertIntent row)

def persistedIntent (workspaceId : String) (contractVersionId : Uuid) :
    FinalizeProg (Option Uuid) :=
  Prog.perform (selectIntent workspaceId contractVersionId)

end FinalizeStatement

/-- `ON CONFLICT (workspace_id, contract_version_id) DO NOTHING`. -/
def KnowledgeOutbox.insertIntent (outbox : KnowledgeOutbox) (row : KnowledgeOutboxRow) :
    Except Exn KnowledgeOutbox :=
  match outbox.intent? row.version with
  | some _ => .ok outbox
  | none =>
      match outbox.insert? row with
      | some inserted => .ok inserted
      | none => .error (Exn.uniqueViolation "knowledge_index_outbox_pkey")

namespace ReviewStore

variable (store : ReviewStore)

/-- `SELECT 1` of `finalize_contract_review`. -/
def isCurrentVersion (workspaceId : String) (contractId contractVersionId : Uuid) :
    Bool :=
  (store.contracts.find? contractId).any fun contract =>
    contract.workspaceId = workspaceId &&
      contract.currentVersionId = contractVersionId &&
      (store.versions.find? contractVersionId).any fun version =>
        version.contractId = contractId

/-- The `WHERE` of the status update. -/
def finalizedContract (workspaceId : String) (contractId contractVersionId : Uuid)
    (row : ContractRow) : Bool :=
  row.workspaceId = workspaceId && row.id = contractId &&
    row.currentVersionId = contractVersionId

/-- `ON CONFLICT (contract_version_id) DO UPDATE`. -/
def upsertReview (row : ContractReviewRow) : ReviewStore :=
  { store with
    reviews := store.reviews.upsert row
      ⟨fun old => { old with id := row.id, review := row.review, status := row.status },
        fun _ => rfl⟩ }

theorem id_reviewReady (row : ContractRow) :
    ({ row with status := .reviewReady } : ContractRow).id = row.id :=
  rfl

/-- `UPDATE contracts SET status`. -/
def markReviewReady (workspaceId : String) (contractId contractVersionId : Uuid) :
    ReviewStore :=
  { store with
    contracts := store.contracts.updateWhere
      (finalizedContract workspaceId contractId contractVersionId)
      ⟨fun row => { row with status := .reviewReady }, id_reviewReady⟩ }

/-- What the statements do. -/
def exec : Exec FinalizeStatement FinalizeStatement.Ret Exn ReviewStore :=
  fun store statement =>
    match statement with
    | .selectCurrentVersion workspaceId contractId contractVersionId =>
        .ok (store.isCurrentVersion workspaceId contractId contractVersionId, store)
    | .upsertReview row => .ok ((), store.upsertReview row)
    | .updateStatus workspaceId contractId contractVersionId =>
        .ok (store.contracts.affected
            (finalizedContract workspaceId contractId contractVersionId),
          store.markReviewReady workspaceId contractId contractVersionId)
    | .insertAudit row => .ok ((), { store with audit := store.audit ++ [row] })
    | .insertIntent row =>
        (store.outbox.insertIntent row).map fun outbox => ((), { store with outbox })
    | .selectIntent workspaceId contractVersionId =>
        .ok ((store.outbox.intent? (workspaceId, contractVersionId)).map
          KnowledgeOutboxRow.id, store)

end ReviewStore

/-! ## The block -/

namespace FinalizedReview

variable (arguments : FinalizedReview) (stamp : Stamp)

/-- The rows that the block writes; their identifiers are drawn before it. -/
def reviewRow : ContractReviewRow where
  contractVersionId := arguments.contractVersionId
  id := stamp.uuid4 0
  review := arguments.review
  status := arguments.reviewStatus
  createdAt := stamp.now

def auditRow : AuditEventRow where
  id := stamp.uuid4 1
  workspaceId := arguments.workspaceId
  contractId := arguments.contractId
  eventType := .reviewReady

def intentRow : KnowledgeOutboxRow where
  id := stamp.uuid4 2
  workspaceId := arguments.workspaceId
  contractId := arguments.contractId
  contractVersionId := arguments.contractVersionId
  nextAttemptAt := stamp.now
  createdAt := stamp.now

/-- The body of the block in `finalize_contract_review`. -/
def body : FinalizeProg (Uuid × Uuid) := do
  let current ← FinalizeStatement.currentVersion arguments.workspaceId
    arguments.contractId arguments.contractVersionId
  Prog.onlyIf (!current) (.raise (Exn.valueError
    "Contract version is not the current version in the expected workspace."))
  FinalizeStatement.writeReview (arguments.reviewRow stamp)
  let updated ← FinalizeStatement.statusRows arguments.workspaceId arguments.contractId
    arguments.contractVersionId
  Prog.onlyIf (updated ≠ 1) (.raise (Exn.valueError
    "Contract could not be finalized in the expected workspace."))
  FinalizeStatement.recordReady (arguments.auditRow stamp)
  FinalizeStatement.intend (arguments.intentRow stamp)
  let persisted ← FinalizeStatement.persistedIntent arguments.workspaceId
    arguments.contractVersionId
  match persisted with
  | some outboxId => pure (stamp.uuid4 0, outboxId)
  | none => .raise (Exn.runtimeError "Knowledge indexing intent was not persisted.")

/-- `finalize_contract_review`. -/
def finalize : Prog (BlockCall FinalizeStatement) (BlockCall.Reply FinalizeStatement.Ret)
    Exn (Uuid × Uuid) :=
  block (arguments.body stamp)

/-- What the whole body leaves. -/
def written (store : ReviewStore) (outbox : KnowledgeOutbox) : ReviewStore :=
  { (store.upsertReview (arguments.reviewRow stamp)).markReviewReady
      arguments.workspaceId arguments.contractId arguments.contractVersionId with
    audit := store.audit ++ [arguments.auditRow stamp]
    outbox }

/-- The review, the status, the audit event and the index intent are committed. -/
structure Finalized (store : ReviewStore) : Prop where
  review : ∃ row, store.reviews.find? arguments.contractVersionId = some row ∧
    row.id = stamp.uuid4 0 ∧ row.review = arguments.review ∧
      row.status = arguments.reviewStatus
  contract : ∃ row, store.contracts.find? arguments.contractId = some row ∧
    row.workspaceId = arguments.workspaceId ∧
      row.currentVersionId = arguments.contractVersionId ∧ row.status = .reviewReady
  audit : arguments.auditRow stamp ∈ store.audit
  intent : ∃ row, store.outbox.intent?
    (arguments.workspaceId, arguments.contractVersionId) = some row

section Body

variable {arguments : FinalizedReview} {stamp : Stamp} {store after : ReviewStore}
  {ids : Uuid × Uuid}

section Statements

variable {Value : Type} {workspaceId : String} {contractId contractVersionId : Uuid}

@[simp]
theorem eval_currentVersion (next : Bool → FinalizeProg Value) :
    eval ReviewStore.exec (FinalizeStatement.currentVersion workspaceId contractId
        contractVersionId >>= next) store =
      eval ReviewStore.exec
        (next (store.isCurrentVersion workspaceId contractId contractVersionId)) store :=
  rfl

@[simp]
theorem eval_writeReview (row : ContractReviewRow) (next : Unit → FinalizeProg Value) :
    eval ReviewStore.exec (FinalizeStatement.writeReview row >>= next) store =
      eval ReviewStore.exec (next ()) (store.upsertReview row) :=
  rfl

@[simp]
theorem eval_statusRows (next : Nat → FinalizeProg Value) :
    eval ReviewStore.exec (FinalizeStatement.statusRows workspaceId contractId
        contractVersionId >>= next) store =
      eval ReviewStore.exec
        (next (store.contracts.affected
          (ReviewStore.finalizedContract workspaceId contractId contractVersionId)))
        (store.markReviewReady workspaceId contractId contractVersionId) :=
  rfl

@[simp]
theorem eval_recordReady (row : AuditEventRow) (next : Unit → FinalizeProg Value) :
    eval ReviewStore.exec (FinalizeStatement.recordReady row >>= next) store =
      eval ReviewStore.exec (next ()) { store with audit := store.audit ++ [row] } :=
  rfl

@[simp]
theorem eval_intend (row : KnowledgeOutboxRow) (next : Unit → FinalizeProg Value) :
    eval ReviewStore.exec (FinalizeStatement.intend row >>= next) store =
      match store.outbox.insertIntent row with
      | .ok outbox => eval ReviewStore.exec (next ()) { store with outbox }
      | .error error => .error error := by
  change eval ReviewStore.exec (.call (.insertIntent row) _) store = _
  rw [eval]
  simp only [ReviewStore.exec]
  cases store.outbox.insertIntent row <;> rfl

@[simp]
theorem eval_persistedIntent (next : Option Uuid → FinalizeProg Value) :
    eval ReviewStore.exec (FinalizeStatement.persistedIntent workspaceId
        contractVersionId >>= next) store =
      eval ReviewStore.exec
        (next ((store.outbox.intent? (workspaceId, contractVersionId)).map
          KnowledgeOutboxRow.id)) store :=
  rfl

end Statements

theorem straight_body : Straight (arguments.body stamp) := by
  refine (straight_perform _).bind fun current => ?_
  refine (straight_raise _).onlyIf.bind fun _ => ?_
  refine (straight_perform _).bind fun _ => ?_
  refine (straight_perform _).bind fun updated => ?_
  refine (straight_raise _).onlyIf.bind fun _ => ?_
  refine (straight_perform _).bind fun _ => ?_
  refine (straight_perform _).bind fun _ => ?_
  refine (straight_perform _).bind fun persisted => ?_
  cases persisted <;> trivial

/-- What the body does when it returns. -/
theorem written_of_body
    (returns : eval ReviewStore.exec (arguments.body stamp) store = .ok (ids, after)) :
    store.isCurrentVersion arguments.workspaceId arguments.contractId
        arguments.contractVersionId = true ∧
      ∃ outbox, store.outbox.insertIntent (arguments.intentRow stamp) = .ok outbox ∧
        (∃ row, outbox.intent?
          (arguments.workspaceId, arguments.contractVersionId) = some row) ∧
        after = arguments.written stamp store outbox := by
  unfold body at returns
  rw [eval_currentVersion, eval_onlyIf] at returns
  cases current : store.isCurrentVersion arguments.workspaceId arguments.contractId
      arguments.contractVersionId with
  | false =>
      rw [current] at returns
      cases returns
  | true =>
      simp only [current, Bool.not_true, Bool.false_eq_true, if_false, eval_writeReview,
        eval_statusRows, eval_onlyIf, eval_recordReady, eval_intend,
        eval_persistedIntent] at returns
      by_cases one : (store.upsertReview (arguments.reviewRow stamp)).contracts.affected
          (ReviewStore.finalizedContract arguments.workspaceId arguments.contractId
            arguments.contractVersionId) = 1
      · rw [if_neg (by simp [one])] at returns
        refine ⟨rfl, ?_⟩
        have untouched : ((store.upsertReview (arguments.reviewRow stamp)).markReviewReady
            arguments.workspaceId arguments.contractId
            arguments.contractVersionId).outbox = store.outbox := rfl
        rw [untouched] at returns
        cases inserted : store.outbox.insertIntent (arguments.intentRow stamp) with
        | error error =>
            rw [inserted] at returns
            cases returns
        | ok outbox =>
            rw [inserted] at returns
            cases persisted : outbox.intent?
                (arguments.workspaceId, arguments.contractVersionId) with
            | none =>
                simp only [persisted, Option.map_none] at returns
                cases returns
            | some row =>
                simp only [persisted, Option.map_some] at returns
                cases returns
                exact ⟨outbox, rfl, ⟨row, persisted⟩, rfl⟩
      · rw [if_pos (by simp [one])] at returns
        cases returns

/-- What the whole body leaves is finalised. -/
theorem finalized_of_body
    (returns : eval ReviewStore.exec (arguments.body stamp) store = .ok (ids, after)) :
    arguments.Finalized stamp after := by
  obtain ⟨current, outbox, _, intent, rfl⟩ := written_of_body returns
  constructor
  · have stored : (arguments.written stamp store outbox).reviews.find?
        arguments.contractVersionId = _ :=
      RowTable.find?_upsert store.reviews (arguments.reviewRow stamp) _ _
    have own : (arguments.reviewRow stamp).contractVersionId =
        arguments.contractVersionId := rfl
    rw [if_pos own] at stored
    refine ⟨_, stored, ?_⟩
    cases store.reviews.find? arguments.contractVersionId <;> exact ⟨rfl, rfl, rfl⟩
  · obtain ⟨contract, found, conditions⟩ := Option.any_eq_true _ _ |>.mp current
    simp only [Bool.and_eq_true, decide_eq_true_eq] at conditions
    obtain ⟨⟨workspace, version⟩, _⟩ := conditions
    have stored : (arguments.written stamp store outbox).contracts.find?
        arguments.contractId = _ :=
      RowTable.find?_updateWhere store.contracts _ _ _
    have own : ReviewStore.finalizedContract arguments.workspaceId arguments.contractId
        arguments.contractVersionId contract = true := by
      simp [ReviewStore.finalizedContract, workspace, version,
        RowTable.key_of_find? found]
    rw [found, Option.map_some, if_pos own] at stored
    exact ⟨_, stored, workspace, version, rfl⟩
  · simp [written]
  · exact intent

/-- Wherever the block is interrupted, all four are committed or nothing is. -/
theorem finalize_all_or_nothing {choices : List (BlockChoice Exn)}
    {state : BlockState ReviewStore}
    {rest : Prog (BlockCall FinalizeStatement)
      (BlockCall.Reply FinalizeStatement.Ret) Exn (Uuid × Uuid)}
    (run : (arguments.finalize stamp).advance (respond ReviewStore.exec) (.idle store)
      choices = some (rest, state)) :
    state.committed = store ∨ arguments.Finalized stamp state.committed := by
  rcases all_or_nothing straight_body run with same | ⟨ids, returns⟩
  · exact .inl same
  · exact .inr (finalized_of_body returns)

end Body

end FinalizedReview

/-! ## The review database's view -/

/-- The intents of the review database. -/
def KnowledgeOutboxRow.intent (row : KnowledgeOutboxRow) : KnowledgeIntentRow where
  id := row.id
  workspaceId := row.workspaceId
  contractId := row.contractId
  contractVersionId := row.contractVersionId

def KnowledgeOutbox.intents (outbox : KnowledgeOutbox) :
    RowTable KnowledgeIntentRow.key where
  rows := outbox.table.rows.map KnowledgeOutboxRow.intent
  keys_nodup := by
    rw [List.map_map]
    exact outbox.versions_nodup

/-- An insert that meets no other conflict is the `DO NOTHING` of the view. -/
theorem KnowledgeOutbox.intents_insertIntent {outbox after : KnowledgeOutbox}
    {row : KnowledgeOutboxRow} (inserted : outbox.insertIntent row = .ok after) :
    after.intents = outbox.intents.insertIgnore row.intent := by
  have keys : outbox.intents.rows.map KnowledgeIntentRow.key =
      outbox.byVersion.rows.map KnowledgeOutboxRow.version := by
    simp [intents, byVersion, KnowledgeOutboxRow.intent]
  unfold insertIntent at inserted
  split at inserted
  · rename_i old found
    cases inserted
    have present : row.intent.key ∈ outbox.intents.rows.map KnowledgeIntentRow.key := by
      rw [keys]
      have named : old.version = row.intent.key := RowTable.key_of_find? found
      rw [← named]
      exact List.mem_map_of_mem (RowTable.mem_of_find? found)
    rw [RowTable.insertIgnore, RowTable.insert?, dif_pos present]
    rfl
  · rename_i absent
    split at inserted
    · rename_i success
      cases inserted
      have fresh : row.intent.key ∉ outbox.intents.rows.map KnowledgeIntentRow.key := by
        rw [keys]
        exact RowTable.find?_eq_none_iff.mp absent
      rw [RowTable.insertIgnore, RowTable.insert?, dif_neg fresh]
      apply RowTable.ext
      simp [intents, rows_of_insert? success]
    · cases inserted

/-- The store as the review worker's database sees it. -/
def ReviewStore.toDatabase (store : ReviewStore) (base : ReviewDatabase) :
    ReviewDatabase :=
  { base with
    contracts := store.contracts, versions := store.versions
    reviews := store.reviews, audit := store.audit, intents := store.outbox.intents }

/-- A block that commits does what `finalizeContractReview` does in one step. -/
theorem FinalizedReview.refines_finalizeContractReview {arguments : FinalizedReview}
    {stamp : Stamp} {store after : ReviewStore} {ids : Uuid × Uuid}
    (returns : eval ReviewStore.exec (arguments.body stamp) store = .ok (ids, after))
    (base : ReviewDatabase) :
    (store.toDatabase base).finalizeContractReview stamp arguments.workspaceId
        arguments.contractId arguments.contractVersionId arguments.review
        arguments.reviewStatus =
      .ok (after.toDatabase base) := by
  obtain ⟨current, outbox, inserted, _, rfl⟩ := written_of_body returns
  have current : (store.toDatabase base).isCurrentVersion arguments.workspaceId
      arguments.contractId arguments.contractVersionId = true := current
  rw [ReviewDatabase.finalizeContractReview, if_pos current]
  have intents := KnowledgeOutbox.intents_insertIntent inserted
  simp only [ReviewStore.toDatabase, written, intents]
  rfl

end ContractMate
