import ContractMate.JobBodies
import ContractMate.SqlStatements
import ContractMate.StagedTransactions

/-!
# Erasing a contract

`delete_contract` over all tables, as one transaction.  What it deletes is the closure of
the contract under the references between the tables, with the conversations about it.
-/

namespace TransactionBlock

variable {Call : Type} {Ret : Call → Type} {Err Store Value : Type}
  {exec : Exec Call Ret Err Store} {body : Prog Call Ret Err Value}

theorem Straight.propagates (straight : Straight body) : body.Propagates := by
  induction body with
  | done result => trivial
  | call request next induction =>
      refine ⟨?_, fun reply => induction _ (straight.2 reply)⟩
      intro error
      rw [straight.1 error]
      exact Prog.raises_raise error

/-- A block that returns has committed what its body computes. -/
theorem eval_of_returned (straight : Straight body) {store : Store}
    {choices : List (BlockChoice Err)} {value : Value} {after : BlockState Store}
    (run : (block body).finish (respond exec) (.idle store) choices =
      some (.ok value, after)) : eval exec body store = .ok (value, after.committed) := by
  rw [Prog.finish_eq_some_iff, block, Prog.spend_handle] at run
  cases inner : (ReadCommitted.statements body).spend (respond exec) (.idle store) choices with
  | none =>
      change ((ReadCommitted.statements body).spend _ _ _).bind _ = _ at run
      simp [inner] at run
  | some reached =>
      obtain ⟨outcome, reached, left⟩ := reached
      change ((ReadCommitted.statements body).spend _ _ _).bind _ = _ at run
      simp only [inner, Option.bind_some] at run
      rcases statements_cases straight.propagates inner with
        ⟨⟨error, rfl⟩, _⟩ | ⟨computed, written, rfl, evaluated, rfl, _⟩
      · rcases left with _ | ⟨_ | _ | _, left⟩ <;> cases run
      · rcases left with _ | ⟨_ | _ | _, left⟩ <;> cases run
        exact evaluated

end TransactionBlock

namespace ContractMate

namespace ContractErasure

open SqlStatements TransactionBlock

/-- The tables that `delete_contract` names, and the others. -/
inductive Table where
  | contracts
  | contractVersions
  | contractProcessingRuns
  | contractProcessingStages
  | proposedActions
  | approvals
  | signingRequests
  | signers
  | signerStatusEvents
  | chatSessions
  | chatMessages
  | knowledgeChunks
  | knowledgeIndexOutbox
  | knowledgeIndexes
  | outboundEmailOutbox
  | outboundSlackOutbox
  | slackReviewJobOutbox
  | contractSources
  | parsedDocuments
  | contractReviews
  | auditEvents
  | platformAccessEvents
  | emailThreads
  | other (name : String)
deriving DecidableEq, Repr

inductive Column where
  | id
  | workspaceId
  | contractId
  | contractVersionId
  | processingRunId
  | proposedActionId
  | signingRequestId
  | signerId
  | sessionId
  | emailThreadId
  | s3ObjectKey
  | status
  | citations
  | actorType
  | actorId
  | eventType
  | metadataJson
  | other (name : String)
deriving DecidableEq, Repr

abbrev Database := Tables Table Column

abbrev DatabaseRow := Row Column

/-! ## The operation -/

inductive ErasureCall where
  | select (table : Table) (conditions : List (Condition Column))
  | execute (change : Change Table Column)
  /-- `DELETE … WHERE … AND NOT EXISTS (SELECT 1 FROM … WHERE …)` -/
  | deleteUnless (table : Table) (conditions : List (Condition Column)) (others : Table)
      (otherConditions : List (Condition Column))
  | deleteObjects (keys : List String)

def ErasureCall.Ret : ErasureCall → Type
  | select _ _ => List DatabaseRow
  | execute _ => Nat
  | deleteUnless _ _ _ _ | deleteObjects _ => Unit

abbrev ErasureBody := Prog ErasureCall ErasureCall.Ret Exn

/-- What each statement answers and leaves; object storage is not part of the database. -/
def exec : Exec ErasureCall ErasureCall.Ret Exn Database :=
  fun tables call =>
    match call with
    | .select table conditions => .ok ((tables table).filter (Meets conditions), tables)
    | .execute change => .ok (change.affected (tables change.table), change.apply tables)
    | .deleteUnless table conditions others otherConditions =>
        .ok ((), if (tables others).any (Meets otherConditions) then tables
          else (Change.delete table conditions).apply tables)
    | .deleteObjects _ => .ok ((), tables)

/-- `str(row[column])`. -/
def textOf (column : Column) (row : DatabaseRow) : String :=
  (row column).getD "None"

def select (table : Table) (conditions : List (Condition Column)) :
    ErasureBody (List DatabaseRow) :=
  Prog.perform (ErasureCall.select table conditions)

def execute (change : Change Table Column) : ErasureBody Nat :=
  Prog.perform (ErasureCall.execute change)

/-- `delete_objects(object_keys)` -/
def deleteObjects (keys : List String) : ErasureBody Unit :=
  Prog.perform (ErasureCall.deleteObjects keys)

def deleteUnless (table : Table) (conditions : List (Condition Column)) (others : Table)
    (otherConditions : List (Condition Column)) : ErasureBody Unit :=
  Prog.perform (ErasureCall.deleteUnless table conditions others otherConditions)

def executeAll : List (Change Table Column) → ErasureBody Unit
  | [] => pure ()
  | change :: changes => do
      let _ ← execute change
      executeAll changes

/-- `_ACTIVE_PROCESSING_STATES`. -/
def activeProcessingStates : List String :=
  ["received", "validating", "queued", "parsing", "analysing", "validating_evidence"]

/-- `ContractDeletionNotFound`. -/
def deletionNotFound : Exn :=
  Exn.valueError "Contract not found."

/-- `ContractDeletionConflict`. -/
def deletionConflict : Exn :=
  Exn.valueError "Wait for contract review processing to finish before deleting it."

section Operation

-- `str` of a value that is no text, what `citations` decodes to, and `float.__repr__`
variable (strOf : Json → String) (citationsOf : Option String → Except Exn (List Json))
  (floatText : JsonFloat → List Char)

/-- The conditions of a row of the contract in its workspace. -/
def ofContract (workspaceId contractId : String) : List (Condition Column) :=
  [.equals .workspaceId workspaceId, .equals .contractId contractId]

/-- `_select_ids_for_contract`. -/
def selectIdsForContract (table : Table) (workspaceId contractId : String) :
    ErasureBody (List String) := do
  let rows ← select table (ofContract workspaceId contractId)
  pure (rows.map (textOf .id))

/-- `_select_ids`. -/
def selectIds (table : Table) (column : Column) (values : List String) :
    ErasureBody (List String) :=
  if values = [] then pure []
  else do
    let rows ← select table [.among column values]
    pure (rows.map (textOf .id))

/-- A citation of the contract. -/
def citesContract (contractId : String) : Json → Bool
  | .object fields => textOr strOf (.object fields) "contract_id" "None" = contractId
  | _ => false

/-- The sessions of the messages that cite the contract. -/
def citingSessions (contractId : String) : List DatabaseRow → Except Exn (List String)
  | [] => .ok []
  | row :: rows =>
      match citationsOf (row .citations) with
      | .error error => .error error
      | .ok citations =>
          (citingSessions contractId rows).map fun sessions =>
            if citations.any (citesContract strOf contractId) then
              textOf .sessionId row :: sessions
            else sessions

/-- What a body makes of a value that may raise. -/
def orRaise {Value : Type} : Except Exn Value → ErasureBody Value
  | .ok value => pure value
  | .error error => Prog.raise error

/-- `_contract_chat_session_ids`. -/
def contractChatSessionIds (workspaceId contractId : String) : ErasureBody (List String) := do
  let sessions ← select .chatSessions (ofContract workspaceId contractId)
  let messages ← select .chatMessages [.equals .workspaceId workspaceId]
  let citing ← orRaise (citingSessions strOf citationsOf contractId messages)
  pure ((sessions.map (textOf .id) ++ citing).eraseDups.insertionSort (· ≤ ·))

/-- The rows that are found before anything is deleted. -/
structure Dependents where
  versions : List DatabaseRow
  runIds : List String
  actionIds : List String
  requestIds : List String
  signerIds : List String
  chatSessionIds : List String

def dependentsOf (workspaceId contractId : String) : ErasureBody Dependents := do
  let versions ← select .contractVersions [.equals .contractId contractId]
  let runIds ← selectIdsForContract .contractProcessingRuns workspaceId contractId
  let actions ← select .proposedActions [.equals .contractId contractId]
  let requestIds ← selectIdsForContract .signingRequests workspaceId contractId
  let signerIds ← selectIds .signers .signingRequestId requestIds
  let chatSessionIds ← contractChatSessionIds strOf citationsOf workspaceId contractId
  pure ⟨versions, runIds, actions.map (textOf .id), requestIds, signerIds, chatSessionIds⟩

/-- `_delete_by_ids`; without identifiers it deletes nothing. -/
def deleteByIds (table : Table) (column : Column) (values : List String) :
    Change Table Column :=
  .delete table [.among column values]

/-- The statements between the deletion of the objects and that of the contract's row. -/
def dependentChanges (workspaceId contractId : String) (dependents : Dependents) :
    List (Change Table Column) :=
  let versionIds := dependents.versions.map (textOf .id)
  [deleteByIds .contractProcessingStages .processingRunId dependents.runIds,
    .delete .contractProcessingRuns (ofContract workspaceId contractId),
    deleteByIds .approvals .proposedActionId dependents.actionIds,
    .delete .proposedActions [.equals .contractId contractId],
    deleteByIds .signerStatusEvents .signerId dependents.signerIds,
    deleteByIds .signers .signingRequestId dependents.requestIds,
    .delete .signingRequests (ofContract workspaceId contractId),
    deleteByIds .chatMessages .sessionId dependents.chatSessionIds,
    deleteByIds .chatSessions .id dependents.chatSessionIds,
    .delete .knowledgeChunks (ofContract workspaceId contractId),
    .delete .knowledgeIndexOutbox (ofContract workspaceId contractId),
    .delete .knowledgeIndexes (ofContract workspaceId contractId),
    .delete .outboundEmailOutbox (ofContract workspaceId contractId),
    .delete .outboundSlackOutbox (ofContract workspaceId contractId),
    .delete .slackReviewJobOutbox [.equals .contractId contractId],
    .delete .contractSources [.equals .contractId contractId],
    deleteByIds .parsedDocuments .contractVersionId versionIds,
    deleteByIds .contractReviews .contractVersionId versionIds,
    .delete .auditEvents (ofContract workspaceId contractId),
    .clear .platformAccessEvents .contractId (ofContract workspaceId contractId),
    .delete .contractVersions [.equals .contractId contractId]]

/-- The keys of the objects, each once. -/
def objectKeys (versions : List DatabaseRow) : List String :=
  ((versions.filterMap fun row => row .s3ObjectKey).filter fun key => key ≠ "").eraseDups

/-- The event of the deletion. -/
def deletedEvent (eventId workspaceId deletedBy contractId : String) (versionCount : Nat) :
    DatabaseRow
  | .id => some eventId
  | .workspaceId => some workspaceId
  | .actorType => some "user"
  | .actorId => some deletedBy
  | .eventType => some "contract.deleted"
  | .metadataJson => some (String.ofList (JsonText.write defaultSeparators
      (numberText floatText) (Json.toValue (.object [("deleted_contract_id", .text contractId),
        ("version_count", .int versionCount)]))))
  | _ => none

/-- The conditions under which a contract of a thread remains. -/
def ofThread (workspaceId emailThreadId : String) : List (Condition Column) :=
  [.equals .workspaceId workspaceId, .equals .emailThreadId emailThreadId]

/-- What follows the deletion of the dependents. -/
def deleteOwnRows (eventId workspaceId contractId deletedBy : String) (contract : DatabaseRow)
    (versionCount : Nat) : ErasureBody Unit := do
  let deleted ← execute
    (.delete .contracts [.equals .workspaceId workspaceId, .equals .id contractId])
  if deleted ≠ 1 then Prog.raise deletionNotFound
  else do
    let _ ← execute (.insert .auditEvents
      (deletedEvent floatText eventId workspaceId deletedBy contractId versionCount))
    deleteUnless .emailThreads
      [.equals .workspaceId workspaceId, .equals .id (textOf .emailThreadId contract)]
      .contracts (ofThread workspaceId (textOf .emailThreadId contract))

/-- The body of `delete_contract`; `eventId` is what `uuid4` draws. -/
def deleteContract (eventId workspaceId contractId deletedBy : String) :
    ErasureBody (List String) := do
  let found ← select .contracts [.equals .workspaceId workspaceId, .equals .id contractId]
  match found with
  | [] => Prog.raise deletionNotFound
  | contract :: _ =>
      if activeProcessingStates.contains (textOf .status contract) then
        Prog.raise deletionConflict
      else do
        let dependents ← dependentsOf strOf citationsOf workspaceId contractId
        let _ ← deleteObjects (objectKeys dependents.versions)
        let _ ← executeAll (dependentChanges workspaceId contractId dependents)
        let _ ← deleteOwnRows floatText eventId workspaceId contractId deletedBy contract
          dependents.versions.length
        pure (objectKeys dependents.versions)

end Operation

/-! ## What the body computes -/

section Evaluation

variable {strOf : Json → String} {citationsOf : Option String → Except Exn (List Json)}
  {floatText : JsonFloat → List Char} {tables : Database} {Value : Type}

theorem eval_select (table : Table) (conditions : List (Condition Column))
    (next : List DatabaseRow → ErasureBody Value) :
    eval exec (select table conditions >>= next) tables =
      eval exec (next ((tables table).filter (Meets conditions))) tables :=
  eval_perform _ _ _

theorem eval_execute (change : Change Table Column) (next : Nat → ErasureBody Value) :
    eval exec (execute change >>= next) tables =
      eval exec (next (change.affected (tables change.table))) (change.apply tables) :=
  eval_perform _ _ _

theorem eval_deleteObjects (keys : List String) (next : Unit → ErasureBody Value) :
    eval exec (deleteObjects keys >>= next) tables = eval exec (next ()) tables :=
  eval_perform _ _ _

@[simp]
theorem eval_executeAll (changes : List (Change Table Column)) (tables : Database) :
    eval exec (executeAll changes) tables = .ok ((), changes.foldl Change.apply tables) := by
  induction changes generalizing tables with
  | nil => rfl
  | cons change changes induction => rw [executeAll, eval_execute, induction, List.foldl_cons]

/-- The identifiers of the rows that meet some conditions. -/
def idsOf (tables : Database) (table : Table) (conditions : List (Condition Column)) :
    List String :=
  ((tables table).filter (Meets conditions)).map (textOf .id)

theorem eval_selectIdsForContract (table : Table) (workspaceId contractId : String) :
    eval exec (selectIdsForContract table workspaceId contractId) tables =
      .ok (idsOf tables table (ofContract workspaceId contractId), tables) :=
  eval_select _ _ _

theorem eval_selectIds (table : Table) (column : Column) (values : List String) :
    eval exec (selectIds table column values) tables =
      .ok (idsOf tables table [.among column values], tables) := by
  rw [selectIds]
  split_ifs with empty
  · subst empty
    have none : (tables table).filter (Meets [Condition.among column []]) = [] := by
      rw [List.filter_eq_nil_iff]
      simp
    rw [idsOf, none]
    rfl
  · exact eval_select _ _ _

variable (strOf citationsOf) in
/-- The messages of the workspace whose citations are read. -/
def citingOf (tables : Database) (workspaceId contractId : String) : Except Exn (List String) :=
  citingSessions strOf citationsOf contractId
    ((tables .chatMessages).filter (Meets [.equals .workspaceId workspaceId]))

/-- The dependents of a contract, with the sessions of the messages that cite it. -/
def dependents (tables : Database) (workspaceId contractId : String) (citing : List String) :
    Dependents where
  versions := (tables .contractVersions).filter (Meets [.equals .contractId contractId])
  runIds := idsOf tables .contractProcessingRuns (ofContract workspaceId contractId)
  actionIds := idsOf tables .proposedActions [.equals .contractId contractId]
  requestIds := idsOf tables .signingRequests (ofContract workspaceId contractId)
  signerIds := idsOf tables .signers [.among .signingRequestId
    (idsOf tables .signingRequests (ofContract workspaceId contractId))]
  chatSessionIds := ((idsOf tables .chatSessions (ofContract workspaceId contractId) ++
    citing).eraseDups.insertionSort (· ≤ ·))

theorem eval_dependentsOf (workspaceId contractId : String) :
    eval exec (dependentsOf strOf citationsOf workspaceId contractId) tables =
      (citingOf strOf citationsOf tables workspaceId contractId).map fun citing =>
        (dependents tables workspaceId contractId citing, tables) := by
  rw [dependentsOf, eval_select, eval_bind, eval_selectIdsForContract]
  dsimp only
  rw [eval_select, eval_bind, eval_selectIdsForContract]
  dsimp only
  rw [eval_bind, eval_selectIds]
  dsimp only
  rw [contractChatSessionIds, eval_bind, eval_select, eval_select, citingOf]
  cases citingSessions strOf citationsOf contractId
    ((tables .chatMessages).filter (Meets [.equals .workspaceId workspaceId])) <;> rfl

/-- The tables after the deletion of the dependents. -/
def withoutDependents (tables : Database) (workspaceId contractId : String)
    (found : Dependents) : Database :=
  (dependentChanges workspaceId contractId found).foldl Change.apply tables

/-- The tables after the deletion of the contract's own rows. -/
def withoutContract (tables : Database) (workspaceId contractId : String)
    (event : DatabaseRow) (threadId : String) : Database :=
  let deleted := (Change.insert .auditEvents event).apply ((Change.delete .contracts
    [.equals .workspaceId workspaceId, .equals .id contractId]).apply tables)
  if (deleted .contracts).any (Meets (ofThread workspaceId threadId)) then deleted
  else (Change.delete .emailThreads
    [.equals .workspaceId workspaceId, .equals .id threadId]).apply deleted

theorem eval_deleteOwnRows_iff {eventId workspaceId contractId deletedBy : String}
    {contract : DatabaseRow} {versionCount : Nat} {after : Database} :
    eval exec (deleteOwnRows floatText eventId workspaceId contractId deletedBy contract
        versionCount) tables = .ok ((), after) ↔
      (tables .contracts).countP
          (Meets [.equals .workspaceId workspaceId, .equals .id contractId]) = 1 ∧
        after = withoutContract tables workspaceId contractId
          (deletedEvent floatText eventId workspaceId deletedBy contractId versionCount)
          (textOf .emailThreadId contract) := by
  have counted : (Change.delete Table.contracts
      [.equals .workspaceId workspaceId, .equals .id contractId]).affected
        (tables .contracts) = (tables .contracts).countP
          (Meets [.equals .workspaceId workspaceId, .equals .id contractId]) := rfl
  rw [deleteOwnRows, eval_execute, Change.table, counted]
  split_ifs with differs
  · simp [differs]
  · rw [ne_eq, not_not] at differs
    rw [eval_execute]
    simp only [differs, true_and]
    change Except.ok ((), withoutContract tables workspaceId contractId _ _) = _ ↔ _
    simp [eq_comm]

theorem eval_deleteContract_iff {eventId workspaceId contractId deletedBy : String}
    {keys : List String} {after : Database} :
    eval exec (deleteContract strOf citationsOf floatText eventId workspaceId contractId
        deletedBy) tables = .ok (keys, after) ↔
      ∃ contract others citing,
        (tables .contracts).filter (Meets
          [.equals .workspaceId workspaceId, .equals .id contractId]) = contract :: others ∧
        textOf .status contract ∉ activeProcessingStates ∧
        citingOf strOf citationsOf tables workspaceId contractId = .ok citing ∧
        keys = objectKeys (dependents tables workspaceId contractId citing).versions ∧
        eval exec (deleteOwnRows floatText eventId workspaceId contractId deletedBy contract
            (dependents tables workspaceId contractId citing).versions.length)
          (withoutDependents tables workspaceId contractId
            (dependents tables workspaceId contractId citing)) = .ok ((), after) := by
  rw [deleteContract, eval_select]
  cases (tables .contracts).filter (Meets
      [.equals .workspaceId workspaceId, .equals .id contractId]) with
  | nil => simp
  | cons contract others =>
      dsimp only
      split_ifs with active
      · simp only [List.contains_iff_mem] at active
        simp [active]
      · simp only [List.contains_iff_mem] at active
        rw [eval_bind, eval_dependentsOf]
        cases citingOf strOf citationsOf tables workspaceId contractId with
        | error error => simp [Except.map]
        | ok citing =>
            simp only [Except.map]
            rw [eval_deleteObjects, eval_bind, eval_executeAll]
            simp only
            rw [eval_bind]
            cases deleted : eval exec (deleteOwnRows floatText eventId workspaceId contractId
                deletedBy contract (dependents tables workspaceId contractId
                  citing).versions.length) ((dependentChanges workspaceId contractId
                    (dependents tables workspaceId contractId citing)).foldl Change.apply
                      tables) with
            | error error => simp [withoutDependents, deleted]
            | ok reply =>
                obtain ⟨_, written⟩ := reply
                simp [withoutDependents, deleted, active, eq_comm]

end Evaluation

/-! ## What belongs to a contract -/

/-- The tables whose rows belong to the contract that they name. -/
def Table.ofContract : Table → Bool
  | contractVersions | contractProcessingRuns | proposedActions | signingRequests
  | chatSessions | knowledgeChunks | knowledgeIndexOutbox | knowledgeIndexes
  | outboundEmailOutbox | outboundSlackOutbox | slackReviewJobOutbox | contractSources
  | auditEvents => true
  | _ => false

/-- The tables with a workspace beside the contract. -/
def Table.ofWorkspace : Table → Bool
  | contractProcessingRuns | signingRequests | chatSessions | knowledgeChunks
  | knowledgeIndexOutbox | knowledgeIndexes | outboundEmailOutbox | outboundSlackOutbox
  | auditEvents | platformAccessEvents => true
  | _ => false

/-- A table, its column that refers to rows of another table, and that table. -/
def references : List (Table × Column × Table) :=
  [(.contractProcessingStages, .processingRunId, .contractProcessingRuns),
    (.approvals, .proposedActionId, .proposedActions),
    (.signers, .signingRequestId, .signingRequests),
    (.signerStatusEvents, .signerId, .signers),
    (.parsedDocuments, .contractVersionId, .contractVersions),
    (.contractReviews, .contractVersionId, .contractVersions)]

section Closure

variable (strOf : Json → String) (citationsOf : Option String → Except Exn (List Json))
  (tables : Database) (workspaceId contractId : String)

def Cites (message : DatabaseRow) : Prop :=
  ∃ citations, citationsOf (message .citations) = .ok citations ∧
    citations.any (citesContract strOf contractId) = true

/-- A conversation that is about the contract now, or has cited it. -/
def Conversation (sessionId : String) : Prop :=
  (∃ session ∈ tables .chatSessions, session .id = some sessionId ∧
    session .contractId = some contractId) ∨
  ∃ message ∈ tables .chatMessages, message .sessionId = some sessionId ∧
    Cites strOf citationsOf contractId message

/-- The rows of the contract: its own, those that name it, those that refer to such rows,
and its conversations. -/
inductive Belongs : Table → DatabaseRow → Prop
  | contract {row : DatabaseRow} (member : row ∈ tables .contracts)
      (own : row .id = some contractId) : Belongs .contracts row
  | names {table : Table} {row : DatabaseRow} (member : row ∈ tables table)
      (column : table.ofContract = true) (own : row .contractId = some contractId) :
      Belongs table row
  | refers {table : Table} {column : Column} {parent : Table} {row owner : DatabaseRow}
      {ownerId : String} (reference : (table, column, parent) ∈ references)
      (owned : Belongs parent owner) (member : row ∈ tables table)
      (identified : owner .id = some ownerId) (own : row column = some ownerId) :
      Belongs table row
  | session {row : DatabaseRow} {sessionId : String}
      (about : Conversation strOf citationsOf tables contractId sessionId)
      (member : row ∈ tables .chatSessions) (own : row .id = some sessionId) :
      Belongs .chatSessions row
  | message {row : DatabaseRow} {sessionId : String}
      (about : Conversation strOf citationsOf tables contractId sessionId)
      (member : row ∈ tables .chatMessages) (own : row .sessionId = some sessionId) :
      Belongs .chatMessages row

/-- The rows of the contract are where the code that writes them puts them. -/
structure Placed : Prop where
  contract : ∀ row ∈ tables .contracts, row .id = some contractId →
    row .workspaceId = some workspaceId
  named : ∀ table : Table, table.ofWorkspace = true → ∀ row ∈ tables table,
    row .contractId = some contractId → row .workspaceId = some workspaceId
  cited : ∀ message ∈ tables .chatMessages, Cites strOf citationsOf contractId message →
    message .workspaceId = some workspaceId
  keyed : ∀ table ∈ [Table.contractVersions, .contractProcessingRuns, .proposedActions,
    .signingRequests, .signers, .chatSessions], ∀ row ∈ tables table, row .id ≠ none
  spoken : ∀ message ∈ tables .chatMessages, message .sessionId ≠ none

end Closure

section Deleted

variable {strOf : Json → String} {citationsOf : Option String → Except Exn (List Json)}
  {tables : Database} {workspaceId contractId : String} {citing : List String}

variable {table : Table} {row : DatabaseRow}

theorem belongs_iff :
    Belongs strOf citationsOf tables contractId table row ↔ row ∈ tables table ∧
      (table = .contracts ∧ row .id = some contractId ∨
        table.ofContract = true ∧ row .contractId = some contractId ∨
        (∃ column parent owner ownerId, (table, column, parent) ∈ references ∧
          Belongs strOf citationsOf tables contractId parent owner ∧
            owner .id = some ownerId ∧ row column = some ownerId) ∨
        (table = .chatSessions ∧ ∃ sessionId,
          Conversation strOf citationsOf tables contractId sessionId ∧
            row .id = some sessionId) ∨
        table = .chatMessages ∧ ∃ sessionId,
          Conversation strOf citationsOf tables contractId sessionId ∧
            row .sessionId = some sessionId) := by
  constructor
  · intro belongs
    cases belongs with
    | contract member own => exact ⟨member, .inl ⟨rfl, own⟩⟩
    | names member column own => exact ⟨member, .inr (.inl ⟨column, own⟩)⟩
    | refers reference owned member identified own =>
        exact ⟨member, .inr (.inr (.inl ⟨_, _, _, _, reference, owned, identified, own⟩))⟩
    | session about member own =>
        exact ⟨member, .inr (.inr (.inr (.inl ⟨rfl, _, about, own⟩)))⟩
    | message about member own =>
        exact ⟨member, .inr (.inr (.inr (.inr ⟨rfl, _, about, own⟩)))⟩
  · rintro ⟨member, ⟨rfl, own⟩ | ⟨column, own⟩ |
      ⟨column, parent, owner, ownerId, reference, owned, identified, own⟩ |
      ⟨rfl, sessionId, about, own⟩ | ⟨rfl, sessionId, about, own⟩⟩
    · exact .contract member own
    · exact .names member column own
    · exact .refers reference owned member identified own
    · exact .session about member own
    · exact .message about member own

theorem mem_citingSessions {rows : List DatabaseRow} {sessionId : String}
    (read : citingSessions strOf citationsOf contractId rows = .ok citing) :
    sessionId ∈ citing ↔ ∃ row ∈ rows, Cites strOf citationsOf contractId row ∧
      textOf .sessionId row = sessionId := by
  induction rows generalizing citing with
  | nil =>
      cases read
      simp
  | cons row rows induction =>
      rw [citingSessions] at read
      cases decoded : citationsOf (row .citations) with
      | error error => simp [decoded] at read
      | ok citations =>
          cases later : citingSessions strOf citationsOf contractId rows with
          | error error => simp [decoded, later, Except.map] at read
          | ok sessions =>
              simp only [decoded, later, Except.map, Except.ok.injEq] at read
              subst read
              have own : Cites strOf citationsOf contractId row ↔
                  citations.any (citesContract strOf contractId) = true := by
                simp [Cites, decoded]
              rw [List.exists_mem_cons_iff, ← induction later, own]
              split_ifs with cites
              · simp [cites, eq_comm]
              · simp [cites]

theorem textOf_eq_iff {column : Column} {value : String}
    (present : row column ≠ none) : textOf column row = value ↔ row column = some value := by
  obtain ⟨text, same⟩ := Option.ne_none_iff_exists'.mp present
  simp [textOf, same]

theorem mem_idsOf {conditions : List (Condition Column)} {id : String} :
    id ∈ idsOf tables table conditions ↔
      ∃ row ∈ tables table, Meets conditions row = true ∧ textOf .id row = id := by
  simp [idsOf, and_assoc]

/-- A row that names the contract is a row of the contract in its workspace. -/
theorem meets_ofContract (placed : Placed strOf citationsOf tables workspaceId contractId)
    (column : table.ofWorkspace = true) (member : row ∈ tables table) :
    Meets (ofContract workspaceId contractId) row = true ↔ row .contractId = some contractId := by
  simp only [ofContract, meets_equals, meets_nil, and_true, and_iff_right_iff_imp]
  exact placed.named table column row member

theorem mem_chatSessionIds (placed : Placed strOf citationsOf tables workspaceId contractId)
    (read : citingOf strOf citationsOf tables workspaceId contractId = .ok citing)
    (sessionId : String) :
    sessionId ∈ (dependents tables workspaceId contractId citing).chatSessionIds ↔
      Conversation strOf citationsOf tables contractId sessionId := by
  rw [dependents, List.mem_insertionSort, List.mem_eraseDups, List.mem_append, mem_idsOf,
    mem_citingSessions read, Conversation]
  refine or_congr ?_ ?_
  · refine exists_congr fun row => and_congr_right fun member => ?_
    rw [meets_ofContract placed rfl member,
      textOf_eq_iff (placed.keyed .chatSessions (by simp) row member), and_comm]
  · refine exists_congr fun row => ?_
    simp only [List.mem_filter, meets_equals, meets_nil, and_true]
    constructor
    · rintro ⟨⟨member, _⟩, cites, same⟩
      exact ⟨member, (textOf_eq_iff (placed.spoken row member)).mp same, cites⟩
    · rintro ⟨member, same, cites⟩
      exact ⟨⟨member, placed.cited row member cites⟩, cites,
        (textOf_eq_iff (placed.spoken row member)).mpr same⟩

/-- Of a table that nothing else brings in, the rows that name the contract belong to it. -/
theorem belongs_of_name (column : table.ofContract = true) (other : table ≠ .chatSessions) :
    Belongs strOf citationsOf tables contractId table row ↔
      row ∈ tables table ∧ row .contractId = some contractId := by
  rw [belongs_iff]
  cases table <;> simp_all [Table.ofContract, references]

/-- The rows that refer to the identifiers of some rows refer to rows that belong. -/
theorem refers_iff (placed : Placed strOf citationsOf tables workspaceId contractId)
    {parent : Table} (keyed : parent ∈ [Table.contractVersions, .contractProcessingRuns,
      .proposedActions, .signingRequests, .signers, .chatSessions])
    {conditions : List (Condition Column)}
    (owned : ∀ owner ∈ tables parent, Meets conditions owner = true ↔
      Belongs strOf citationsOf tables contractId parent owner) (cell : Option String) :
    (∃ id ∈ idsOf tables parent conditions, cell = some id) ↔
      ∃ owner, Belongs strOf citationsOf tables contractId parent owner ∧
        ∃ ownerId, owner .id = some ownerId ∧ cell = some ownerId := by
  constructor
  · rintro ⟨id, among, same⟩
    obtain ⟨owner, member, meets, identified⟩ := mem_idsOf.mp among
    rw [textOf_eq_iff (placed.keyed parent keyed owner member)] at identified
    exact ⟨owner, (owned owner member).mp meets, id, identified, same⟩
  · rintro ⟨owner, belongs, id, identified, same⟩
    have member := (belongs_iff.mp belongs).1
    refine ⟨id, mem_idsOf.mpr ⟨owner, member, (owned owner member).mpr belongs, ?_⟩, same⟩
    exact (textOf_eq_iff (placed.keyed parent keyed owner member)).mpr identified

section Owners

variable (placed : Placed strOf citationsOf tables workspaceId contractId) {owner : DatabaseRow}
include placed

theorem owned_in_workspace {parent : Table} (column : parent.ofContract = true)
    (both : parent.ofWorkspace = true) (other : parent ≠ .chatSessions)
    (member : owner ∈ tables parent) :
    Meets (ofContract workspaceId contractId) owner = true ↔
      Belongs strOf citationsOf tables contractId parent owner := by
  rw [meets_ofContract placed both member, belongs_of_name column other]
  simp [member]

theorem owned_signer (member : owner ∈ tables .signers) :
    Meets [.among .signingRequestId
        (idsOf tables .signingRequests (ofContract workspaceId contractId))] owner = true ↔
      Belongs strOf citationsOf tables contractId .signers owner := by
  have requests : (∃ id ∈ idsOf tables .signingRequests (ofContract workspaceId contractId),
      owner .signingRequestId = some id) ↔ _ :=
    refers_iff placed (by simp)
      (fun _ member => owned_in_workspace placed rfl rfl (by simp) member) _
  rw [belongs_iff]
  simpa [references, Table.ofContract, member] using requests

end Owners

theorem owned_by_name {parent : Table} (column : parent.ofContract = true)
    (other : parent ≠ .chatSessions) {owner : DatabaseRow} (member : owner ∈ tables parent) :
    Meets [.equals .contractId contractId] owner = true ↔
      Belongs strOf citationsOf tables contractId parent owner := by
  rw [belongs_of_name column other]
  simp [member]

/-- The conditions under which the dependents in a table are deleted. -/
def deletedWhen (workspaceId contractId : String) (dependents : Dependents) :
    Table → Option (List (Condition Column))
  | .contractProcessingStages => some [.among .processingRunId dependents.runIds]
  | .contractProcessingRuns | .signingRequests | .knowledgeChunks | .knowledgeIndexOutbox
  | .knowledgeIndexes | .outboundEmailOutbox | .outboundSlackOutbox | .auditEvents =>
      some (ofContract workspaceId contractId)
  | .approvals => some [.among .proposedActionId dependents.actionIds]
  | .proposedActions | .slackReviewJobOutbox | .contractSources | .contractVersions =>
      some [.equals .contractId contractId]
  | .signerStatusEvents => some [.among .signerId dependents.signerIds]
  | .signers => some [.among .signingRequestId dependents.requestIds]
  | .chatMessages => some [.among .sessionId dependents.chatSessionIds]
  | .chatSessions => some [.among .id dependents.chatSessionIds]
  | .parsedDocuments | .contractReviews =>
      some [.among .contractVersionId (dependents.versions.map (textOf .id))]
  | .contracts | .platformAccessEvents | .emailThreads | .other _ => none

theorem deletes_eq (workspaceId contractId : String) (dependents : Dependents) (table : Table)
    (row : DatabaseRow) :
    ((dependentChanges workspaceId contractId dependents).any fun change =>
      change.deletes table row) =
      (deletedWhen workspaceId contractId dependents table).any fun conditions =>
        Meets conditions row := by
  cases table <;> exact Bool.or_false _

theorem deletes_iff (placed : Placed strOf citationsOf tables workspaceId contractId)
    (read : citingOf strOf citationsOf tables workspaceId contractId = .ok citing)
    {table : Table} {row : DatabaseRow} (member : row ∈ tables table) :
    ((dependentChanges workspaceId contractId
        (dependents tables workspaceId contractId citing)).any fun change =>
      change.deletes table row) = true ↔
      table ≠ .contracts ∧ Belongs strOf citationsOf tables contractId table row := by
  rw [deletes_eq, belongs_iff]
  have conversation := mem_chatSessionIds placed read
  cases table <;>
    simp [deletedWhen, Table.ofContract, references, member, conversation, -List.mem_map]
  case contractProcessingRuns | signingRequests | knowledgeChunks | knowledgeIndexOutbox |
      knowledgeIndexes | outboundEmailOutbox | outboundSlackOutbox | auditEvents =>
    exact meets_ofContract placed rfl member
  case contractProcessingStages | signers =>
    exact refers_iff placed (by simp)
      (fun _ member => owned_in_workspace placed rfl rfl (by simp) member) _
  case approvals =>
    exact refers_iff placed (by simp) (fun _ member => owned_by_name rfl (by simp) member) _
  case signerStatusEvents =>
    exact refers_iff placed (by simp) (fun _ member => owned_signer placed member) _
  case parsedDocuments | contractReviews =>
    exact refers_iff placed (by simp) (fun _ member => owned_by_name rfl (by simp) member) _
  case chatSessions =>
    intro own
    obtain ⟨id, identified⟩ := Option.ne_none_iff_exists'.mp
      (placed.keyed .chatSessions (by simp) row member)
    exact ⟨id, .inl ⟨row, member, identified, own⟩, identified⟩
end Deleted

/-! ## What is left -/

section Erased

/-- A row that no longer names the contract. -/
def withoutName (contractId : String) (row : DatabaseRow) : DatabaseRow :=
  if row .contractId = some contractId then Function.update row .contractId none else row

open Classical in
/-- The tables without the rows of the contract.  Its access events stay without it, the
deletion is recorded, and its thread stays while another contract is in it. -/
structure Erased (strOf : Json → String)
    (citationsOf : Option String → Except Exn (List Json)) (workspaceId contractId : String)
    (contract event : DatabaseRow) (before after : Database) : Prop where
  rows : ∀ table, table ≠ .auditEvents → table ≠ .platformAccessEvents →
    table ≠ .emailThreads → after table = (before table).filter fun row =>
      ¬ Belongs strOf citationsOf before contractId table row
  audits : after .auditEvents = ((before .auditEvents).filter fun row =>
    ¬ Belongs strOf citationsOf before contractId .auditEvents row) ++ [event]
  accesses : after .platformAccessEvents =
    (before .platformAccessEvents).map (withoutName contractId)
  threads : after .emailThreads =
    if ∃ other ∈ after .contracts, other .workspaceId = some workspaceId ∧
        other .emailThreadId = some (textOf .emailThreadId contract) then before .emailThreads
    else (before .emailThreads).filter fun row => ¬ (row .workspaceId = some workspaceId ∧
      row .id = some (textOf .emailThreadId contract))

variable {strOf : Json → String} {citationsOf : Option String → Except Exn (List Json)}
  {tables : Database} {workspaceId contractId : String} {citing : List String}

open Classical in
/-- The deletion of the dependents, in tables whose rows are only deleted. -/
theorem rows_withoutDependents (placed : Placed strOf citationsOf tables workspaceId contractId)
    (read : citingOf strOf citationsOf tables workspaceId contractId = .ok citing)
    {table : Table} (deleted : table ≠ .platformAccessEvents) (own : table ≠ .contracts) :
    withoutDependents tables workspaceId contractId
        (dependents tables workspaceId contractId citing) table =
      (tables table).filter fun row =>
        ¬ Belongs strOf citationsOf tables contractId table row := by
  rw [withoutDependents, Change.foldl_deletes]
  · apply List.filter_congr
    intro row member
    have same := deletes_iff placed read member
    rw [and_iff_right own] at same
    rw [Bool.not_eq_eq_eq_not, decide_not, Bool.not_not, Bool.eq_iff_iff, same, decide_eq_true_iff]
  · cases table <;> simp_all [dependentChanges, deleteByIds, Change.table]

theorem contracts_withoutDependents (found : Dependents) :
    withoutDependents tables workspaceId contractId found .contracts = tables .contracts := by
  rw [withoutDependents, Change.foldl_apply]
  simp [dependentChanges, deleteByIds, Change.table]

theorem accesses_withoutDependents
    (placed : Placed strOf citationsOf tables workspaceId contractId) (found : Dependents) :
    withoutDependents tables workspaceId contractId found .platformAccessEvents =
      (tables .platformAccessEvents).map (withoutName contractId) := by
  have only : (dependentChanges workspaceId contractId found).filter
      (fun change => change.table = .platformAccessEvents) =
        [.clear .platformAccessEvents .contractId (ofContract workspaceId contractId)] := by
    simp [dependentChanges, deleteByIds, Change.table]
  rw [withoutDependents, Change.foldl_apply, only]
  apply List.map_congr_left
  intro row member
  have named : Meets (ofContract workspaceId contractId) row = true ↔ _ :=
    meets_ofContract placed (by rfl) member
  simp only [withoutName, named]

theorem threads_withoutDependents (found : Dependents) :
    withoutDependents tables workspaceId contractId found .emailThreads =
      tables .emailThreads := by
  rw [withoutDependents, Change.foldl_apply]
  simp [dependentChanges, deleteByIds, Change.table]

/-- What the deletion of the contract's own rows leaves. -/
theorem rows_withoutContract (workspaceId contractId : String) (tables : Database) (event : DatabaseRow) (threadId : String) :
    let after := withoutContract tables workspaceId contractId event threadId
    after .contracts = (tables .contracts).filter (fun row => !Meets
        [.equals .workspaceId workspaceId, .equals .id contractId] row) ∧
      after .auditEvents = tables .auditEvents ++ [event] ∧
      after .emailThreads =
        (if (after .contracts).any (Meets (ofThread workspaceId threadId)) then
          tables .emailThreads
        else (tables .emailThreads).filter fun row =>
          !Meets [.equals .workspaceId workspaceId, .equals .id threadId] row) ∧
      ∀ table, table ≠ .contracts → table ≠ .auditEvents → table ≠ .emailThreads →
        after table = tables table := by
  intro after
  let deleted : Database := (Change.insert .auditEvents event).apply ((Change.delete .contracts
    [.equals .workspaceId workspaceId, .equals .id contractId]).apply tables)
  have deleted_of_ne {table : Table} (own : table ≠ .contracts) (audits : table ≠ .auditEvents) :
      deleted table = tables table :=
    (Change.apply_of_ne audits).trans (Change.apply_of_ne own)
  have contracts : deleted .contracts = (tables .contracts).filter (fun row => !Meets
      [.equals .workspaceId workspaceId, .equals .id contractId] row) := rfl
  have after_of_ne {table : Table} (threads : table ≠ .emailThreads) :
      after table = deleted table := by
    simp only [after, withoutContract]
    split_ifs
    · rfl
    · exact Change.apply_of_ne threads
  refine ⟨?_, ?_, ?_, ?_⟩
  · rw [after_of_ne (by simp), contracts]
  · rw [after_of_ne (by simp)]
    rfl
  · have ends : after = if (deleted .contracts).any (Meets (ofThread workspaceId threadId)) then
        deleted
      else (Change.delete .emailThreads
        [.equals .workspaceId workspaceId, .equals .id threadId]).apply deleted := rfl
    have same : after .contracts = deleted .contracts := after_of_ne (by simp)
    rw [same, ends]
    split_ifs with remains
    · exact deleted_of_ne (by simp) (by simp)
    · exact Change.apply_self
  · intro table own audits threads
    rw [after_of_ne threads, deleted_of_ne own audits]

open Classical in
theorem erased_of_deleted (placed : Placed strOf citationsOf tables workspaceId contractId)
    (read : citingOf strOf citationsOf tables workspaceId contractId = .ok citing)
    (contract event : DatabaseRow) :
    Erased strOf citationsOf workspaceId contractId contract event tables
      (withoutContract (withoutDependents tables workspaceId contractId
        (dependents tables workspaceId contractId citing)) workspaceId contractId event
          (textOf .emailThreadId contract)) := by
  obtain ⟨contracts, audits, threads, others⟩ := rows_withoutContract
    workspaceId contractId (withoutDependents tables workspaceId contractId
      (dependents tables workspaceId contractId citing)) event (textOf .emailThreadId contract)
  constructor
  · intro table audit access thread
    by_cases own : table = .contracts
    · subst own
      rw [contracts, contracts_withoutDependents]
      apply List.filter_congr
      intro row member
      have own : Meets [.equals .workspaceId workspaceId, .equals .id contractId] row = true ↔
          Belongs strOf citationsOf tables contractId .contracts row := by
        rw [belongs_iff]
        simpa [Table.ofContract, references, member] using placed.contract row member
      rw [Bool.not_eq_eq_eq_not, decide_not, Bool.not_not, Bool.eq_iff_iff, own,
        decide_eq_true_iff]
    · rw [others table own audit thread, rows_withoutDependents placed read access own]
  · rw [audits, rows_withoutDependents placed read (by simp) (by simp)]
  · rw [others _ (by simp) (by simp) (by simp), accesses_withoutDependents placed]
  · rw [threads, threads_withoutDependents]
    simp only [List.any_eq_true, ofThread, meets_equals, meets_nil, and_true]
    congr 1
    apply List.filter_congr
    intro row _
    rw [Bool.not_eq_eq_eq_not, decide_not, Bool.not_not, Bool.eq_iff_iff, decide_eq_true_iff]
    simp

/-! ## The operation as a whole -/

section Straightness

variable {floatText : JsonFloat → List Char} {eventId deletedBy : String}

theorem straight_select (table : Table) (conditions : List (Condition Column)) :
    Straight (select table conditions) :=
  straight_perform _

theorem straight_selectIds (table : Table) (column : Column) (values : List String) :
    Straight (selectIds table column values) := by
  unfold selectIds
  split_ifs
  · trivial
  · exact (straight_select _ _).bind fun _ => trivial

theorem straight_executeAll (changes : List (Change Table Column)) :
    Straight (executeAll changes) := by
  induction changes with
  | nil => trivial
  | cons change changes induction => exact (straight_perform _).bind fun _ => induction

theorem straight_dependentsOf :
    Straight (dependentsOf strOf citationsOf workspaceId contractId) := by
  have ids (table : Table) : Straight (selectIdsForContract table workspaceId contractId) :=
    (straight_select _ _).bind fun _ => trivial
  refine (straight_select _ _).bind fun versions => (ids _).bind fun runIds => ?_
  refine (straight_select _ _).bind fun actions => (ids _).bind fun requestIds => ?_
  refine (straight_selectIds _ _ _).bind fun signerIds => Straight.bind ?_ fun _ => trivial
  refine (straight_select _ _).bind fun sessions => (straight_select _ _).bind fun messages => ?_
  refine Straight.bind ?_ fun _ => trivial
  cases citingSessions strOf citationsOf contractId messages <;> trivial

theorem straight_deleteContract : Straight (deleteContract strOf citationsOf floatText eventId
    workspaceId contractId deletedBy) := by
  refine (straight_select _ _).bind fun found => ?_
  rcases found with _ | ⟨contract, others⟩
  · trivial
  · dsimp only
    split_ifs
    · trivial
    · refine straight_dependentsOf.bind fun dependents => ?_
      refine (straight_perform _).bind fun _ => (straight_executeAll _).bind fun _ => ?_
      refine Straight.bind ?_ fun _ => trivial
      refine (straight_perform _).bind fun deleted => ?_
      split_ifs
      · trivial
      · exact (straight_perform _).bind fun _ => straight_perform _

end Straightness

/-- The contract's row is one of several under its identifier. -/
theorem erased_of_eval {floatText : JsonFloat → List Char} {eventId deletedBy : String}
    {keys : List String} {after : Database}
    (placed : Placed strOf citationsOf tables workspaceId contractId)
    (computed : eval exec (deleteContract strOf citationsOf floatText eventId workspaceId
      contractId deletedBy) tables = .ok (keys, after)) :
    ∃ contract ∈ tables .contracts, contract .id = some contractId ∧
      contract .workspaceId = some workspaceId ∧
      textOf .status contract ∉ activeProcessingStates ∧
      (∀ key, key ∈ keys ↔ key ≠ "" ∧ ∃ version ∈ tables .contractVersions,
        version .contractId = some contractId ∧ version .s3ObjectKey = some key) ∧
      Erased strOf citationsOf workspaceId contractId contract
        (deletedEvent floatText eventId workspaceId deletedBy contractId
          ((tables .contractVersions).countP fun version =>
            version .contractId = some contractId)) tables after := by
  obtain ⟨contract, others, citing, found, finished, read, rfl, deleted⟩ :=
    eval_deleteContract_iff.mp computed
  have member : contract ∈ (tables .contracts).filter (Meets
      [.equals .workspaceId workspaceId, .equals .id contractId]) := by
    rw [found]
    exact List.mem_cons_self
  simp only [List.mem_filter, meets_equals, meets_nil, and_true] at member
  obtain ⟨member, workspace, own⟩ := member
  have counted : (dependents tables workspaceId contractId citing).versions.length =
      (tables .contractVersions).countP fun version => version .contractId = some contractId := by
    rw [dependents, ← List.countP_eq_length_filter]
    apply List.countP_congr
    simp
  obtain ⟨_, rfl⟩ := eval_deleteOwnRows_iff.mp deleted
  refine ⟨contract, member, own, workspace, finished, ?_, ?_⟩
  · intro key
    simp only [objectKeys, dependents, List.mem_eraseDups, List.mem_filter,
      List.mem_filterMap, meets_equals, meets_nil, and_true, decide_eq_true_eq, and_assoc]
    rw [and_comm]
  · rw [counted]
    exact erased_of_deleted placed read contract _

/-- Nothing names the contract once its rows are erased. -/
theorem no_trace_of_erased {contract event : DatabaseRow} {after : Database}
    (erased : Erased strOf citationsOf workspaceId contractId contract event tables after)
    (recorded : event .contractId = none) {table : Table}
    (column : table.ofContract = true ∨ table = .platformAccessEvents) {row : DatabaseRow}
    (member : row ∈ after table) : row .contractId ≠ some contractId := by
  rcases column with column | rfl
  · by_cases audit : table = .auditEvents
    · subst audit
      rw [erased.audits, List.mem_append, List.mem_singleton] at member
      rcases member with kept | rfl
      · obtain ⟨stored, free⟩ := List.mem_filter.mp kept
        simp only [decide_eq_true_eq] at free
        exact fun own => free (.names stored column own)
      · rw [recorded]
        simp
    · have access : table ≠ .platformAccessEvents := by
        rintro rfl
        cases column
      have thread : table ≠ .emailThreads := by
        rintro rfl
        cases column
      rw [erased.rows table audit access thread] at member
      obtain ⟨stored, free⟩ := List.mem_filter.mp member
      simp only [decide_eq_true_eq] at free
      exact fun own => free (.names stored column own)
  · rw [erased.accesses] at member
    obtain ⟨old, _, rfl⟩ := List.mem_map.mp member
    rw [withoutName]
    split_ifs with own
    · simp
    · exact own

/-- Wherever `delete_contract` stops, the database is as before, or without the rows that
belong to the contract and otherwise as before, so that nothing names the contract; it is so
when the call returns. -/
theorem delete_contract_erases {floatText : JsonFloat → List Char}
    {eventId deletedBy : String} {choices : List (BlockChoice Exn)}
    {rest : Prog (BlockCall ErasureCall) (BlockCall.Reply ErasureCall.Ret) Exn (List String)}
    {after : BlockState Database}
    (placed : Placed strOf citationsOf tables workspaceId contractId)
    (run : (block (deleteContract strOf citationsOf floatText eventId workspaceId contractId
      deletedBy)).advance (respond exec) (.idle tables) choices = some (rest, after)) :
    (after.committed = tables ∧ ∀ keys, rest ≠ .done (.ok keys)) ∨
    ∃ contract ∈ tables .contracts, contract .id = some contractId ∧
      contract .workspaceId = some workspaceId ∧
      textOf .status contract ∉ activeProcessingStates ∧
      Erased strOf citationsOf workspaceId contractId contract
        (deletedEvent floatText eventId workspaceId deletedBy contractId
          ((tables .contractVersions).countP fun version =>
            version .contractId = some contractId)) tables after.committed ∧
      (∀ table : Table, table.ofContract = true ∨ table = .platformAccessEvents →
        ∀ row ∈ after.committed table, row .contractId ≠ some contractId) ∧
      ∀ keys, rest = .done (.ok keys) → ∀ key, key ∈ keys ↔
        key ≠ "" ∧ ∃ version ∈ tables .contractVersions,
          version .contractId = some contractId ∧ version .s3ObjectKey = some key := by
  have returned {keys : List String} (ends : rest = .done (.ok keys)) :
      eval exec (deleteContract strOf citationsOf floatText eventId workspaceId contractId
        deletedBy) tables = .ok (keys, after.committed) := by
    apply eval_of_returned straight_deleteContract
    rw [Prog.finish, run, ends]
  rcases all_or_nothing straight_deleteContract run with kept | ⟨keys, computed⟩
  · by_cases ends : ∃ keys, rest = .done (.ok keys)
    · obtain ⟨keys, ends⟩ := ends
      obtain ⟨contract, member, own, workspace, finished, objects, erased⟩ :=
        erased_of_eval placed (returned ends)
      refine .inr ⟨contract, member, own, workspace, finished, erased,
        fun table column row => no_trace_of_erased erased rfl column, ?_⟩
      intro keys' ends'
      rw [ends] at ends'
      cases ends'
      exact objects
    · exact .inl ⟨kept, fun keys ends' => ends ⟨keys, ends'⟩⟩
  · obtain ⟨contract, member, own, workspace, finished, objects, erased⟩ :=
      erased_of_eval placed computed
    refine .inr ⟨contract, member, own, workspace, finished, erased,
      fun table column row => no_trace_of_erased erased rfl column, ?_⟩
    intro keys' ends
    have same := (returned ends).symm.trans computed
    cases same
    exact objects

end Erased

/-! ## A contract with conversations -/

/-- A row with some cells. -/
def rowOf (cells : List (Column × String)) : DatabaseRow :=
  fun column => cells.lookup column

/-- Two contracts in one thread; a session about one of them, and one that has cited it. -/
def sampleDatabase : Database
  | .contracts =>
      [rowOf [(.id, "lease"), (.workspaceId, "acme"), (.emailThreadId, "thread"),
        (.status, "review_ready")],
      rowOf [(.id, "offer"), (.workspaceId, "acme"), (.emailThreadId, "thread"),
        (.status, "queued")]]
  | .contractVersions =>
      [rowOf [(.id, "first"), (.contractId, "lease"), (.s3ObjectKey, "contracts/lease")]]
  | .contractReviews => [rowOf [(.id, "review"), (.contractVersionId, "first")]]
  | .chatSessions =>
      [rowOf [(.id, "about"), (.workspaceId, "acme"), (.contractId, "lease")],
        rowOf [(.id, "cites"), (.workspaceId, "acme"), (.contractId, "offer")]]
  | .chatMessages =>
      [rowOf [(.id, "answer"), (.workspaceId, "acme"), (.sessionId, "cites"),
        (.citations, "[\x7b\"contract_id\": \"lease\"\x7d]")]]
  | .emailThreads => [rowOf [(.id, "thread"), (.workspaceId, "acme")]]
  | _ => []

/-- `json.loads` of a list without floats. -/
def sampleCitations (citations : Option String) : Except Exn (List Json) :=
  match (JsonText.read (numberOf fun _ => none) (citations.getD "[]").toList).map
    Json.ofValue with
  | some (.list items) => .ok items
  | _ => .error (Exn.valueError "JSONDecodeError")

theorem placed_sample :
    Placed (fun _ => "") sampleCitations sampleDatabase "acme" "lease" := by
  constructor
  · intro row member own
    simp only [sampleDatabase, List.mem_cons, List.not_mem_nil, or_false] at member
    rcases member with rfl | rfl <;> rfl
  · intro table column row member own
    have only : table = .chatSessions := by
      cases table <;> simp_all [Table.ofWorkspace, sampleDatabase]
    subst only
    simp only [sampleDatabase, List.mem_cons, List.not_mem_nil, or_false] at member
    rcases member with rfl | rfl <;> rfl
  · intro message member _
    simp only [sampleDatabase, List.mem_cons, List.not_mem_nil, or_false] at member
    rw [member]
    rfl
  · intro table among row member
    simp only [List.mem_cons, List.not_mem_nil, or_false] at among
    rcases among with rfl | rfl | rfl | rfl | rfl | rfl <;>
      simp only [sampleDatabase, List.mem_cons, List.not_mem_nil, or_false] at member
    · rw [member]
      simp [rowOf]
    · rcases member with rfl | rfl <;> simp [rowOf]
  · intro message member
    simp only [sampleDatabase, List.mem_cons, List.not_mem_nil, or_false] at member
    rw [member]
    simp [rowOf]

/-- The deletion of the sample contract, with its statements executed. -/
def sampleDeletion (statements : Nat) :
    Option (Prog (BlockCall ErasureCall) (BlockCall.Reply ErasureCall.Ret) Exn (List String) ×
      BlockState Database) :=
  (block (deleteContract (fun _ => "") sampleCitations (fun _ => []) "event" "acme" "lease"
    "owner")).advance (respond exec) (.idle sampleDatabase)
      (List.replicate statements .executes)

/-- The keys that a call returns, and the sessions and threads that it leaves. -/
def leftBy (outcome : Prog (BlockCall ErasureCall) (BlockCall.Reply ErasureCall.Ret) Exn
    (List String) × BlockState Database) : Option (List String) × List String × List String :=
  (match outcome.1 with
    | .done (.ok keys) => some keys
    | _ => none,
    (outcome.2.committed .chatSessions).map (textOf .id),
    (outcome.2.committed .emailThreads).map (textOf .id))

theorem delete_contract_erases_sample : ∃ keys after,
    sampleDeletion 33 = some (.done (.ok keys), after) ∧ keys = ["contracts/lease"] ∧
      (after.committed .chatSessions).map (textOf .id) = [] ∧
      (after.committed .emailThreads).map (textOf .id) = ["thread"] ∧
      ∀ table : Table, table.ofContract = true ∨ table = .platformAccessEvents →
        ∀ row ∈ after.committed table, row .contractId ≠ some "lease" := by
  have computed : (sampleDeletion 33).map leftBy =
      some (some ["contracts/lease"], [], ["thread"]) := by decide +kernel
  obtain ⟨⟨rest, after⟩, run, shown⟩ := Option.map_eq_some_iff.mp computed
  simp only [leftBy, Prod.mk.injEq] at shown
  obtain ⟨returned, sessions, threads⟩ := shown
  split at returned
  · cases returned
    refine ⟨_, after, run, rfl, sessions, threads, ?_⟩
    rcases delete_contract_erases placed_sample run with ⟨_, open_⟩ | ⟨_, _, _, _, _, _, trace, _⟩
    · exact absurd rfl (open_ _)
    · exact trace
  · cases returned

end ContractErasure

end ContractMate
