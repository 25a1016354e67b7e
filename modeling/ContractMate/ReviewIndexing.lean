import ContractMate.ContractDeletion
import ContractMate.KnowledgeDispatch
import ContractMate.ReviewFinalization

/-!
# Indexing every finalised review

Backfills and retries of failed indexing read the versions that they then request, so
that their requests may come after the contract was deleted.  A version is nevertheless
the version of one contract for good, and so no deletion of another contract takes the
intent of a review away.
-/

namespace ContractMate

open TransactionBlock

/-- Workspace, contract and version. -/
abbrev VersionTriple := String × Uuid × Uuid

namespace ReviewStore

variable (store : ReviewStore)

/-! ## Operations -/

/-- The inserts of `create_contract_with_version`. -/
def insertContract (stamp : Stamp) (contract : NewContract) : Except Exn ReviewStore :=
  ((store.toDatabase default).insertContract stamp contract).map fun inserted =>
    { store with contracts := inserted.2.contracts, versions := inserted.2.versions }

def updateContractStatus (contractId : Uuid) (status : WorkflowState) : ReviewStore :=
  { store with
    contracts :=
      ((store.toDatabase default).updateContractStatus contractId status).contracts }

/-- `create_or_get_index`. -/
def createOrGetIndex (worker : KnowledgeIndexWorker) (stamp : Stamp) (job : IndexJob) :
    ReviewStore :=
  { store with
    indexes := (KnowledgeWorld.createOrGetIndex
      { outbox := store.outbox, indexes := store.indexes } worker stamp job).2.indexes }

def setIndexStatus (workspaceId : String) (indexId : Uuid) (status : IndexStatus) :
    ReviewStore :=
  { store with
    indexes := (KnowledgeWorld.setIndexStatus
      { outbox := store.outbox, indexes := store.indexes } workspaceId indexId
      status).indexes }

/-- `enqueue_intent`; a request that raises is rolled back. -/
def enqueueIntent (stamp : Stamp) (triple : VersionTriple) (force : Bool) : ReviewStore :=
  match store.outbox.enqueueIntent stamp triple.1 triple.2.1 triple.2.2 force with
  | .ok (_, outbox) => { store with outbox }
  | .error _ => store

/-- `delete_contract`. -/
def deleteContract (workspaceId : String) (contractId : Uuid) : ReviewStore :=
  match (store.toDatabase default).deleteContract workspaceId contractId with
  | .ok database =>
      { contracts := database.contracts, versions := database.versions
        reviews := database.reviews, audit := database.audit
        outbox := store.outbox.deleteWhere fun row =>
          row.workspaceId = workspaceId && row.contractId = contractId
        indexes := store.indexes.deleteWhere fun row =>
          row.workspaceId = workspaceId && row.contractId = contractId }
  | .error _ => store

/-! ## Selections -/

/-- `AND contract_id = ?`, where a contract is given. -/
def named (contractId : Option Uuid) (id : Uuid) : Bool :=
  contractId.all fun contractId => id = contractId

def failedIndexes (contractId : Option Uuid) : List VersionTriple :=
  (store.indexes.select fun row =>
      row.status = .failed && named contractId row.contractId).map
    fun row => (row.workspaceId, row.contractId, row.contractVersionId)

def failedIntents (contractId : Option Uuid) : List VersionTriple :=
  (store.outbox.table.select fun row =>
      row.status = .failed && named contractId row.contractId).map
    fun row => (row.workspaceId, row.contractId, row.contractVersionId)

/-- The `UPDATE` of `retry_failed`. -/
def resetFailedIndexes (contractId : Option Uuid) : ReviewStore :=
  { store with
    indexes := store.indexes.updateWhere
      (fun row => row.status = .failed && named contractId row.contractId)
      ⟨fun row => { row with status := .pending }, fun _ => rfl⟩ }

/-- The rows of `backfill`: reviewed current versions without a ready index. -/
def unindexed (contractId : Option Uuid) : List VersionTriple :=
  (store.contracts.select fun row =>
      row.status = .reviewReady && named contractId row.id &&
        (store.versions.find? row.currentVersionId).any
          (fun version => version.contractId = row.id) &&
        (store.reviews.find? row.currentVersionId).isSome &&
        store.indexes.rows.all fun index =>
          !(index.workspaceId = row.workspaceId && index.contractId = row.id &&
            index.contractVersionId = row.currentVersionId && index.status = .ready)).map
    fun row => (row.workspaceId, row.id, row.currentVersionId)

end ReviewStore

/-! ## Requests for many versions -/

inductive IndexRequestCall where
  | selectFailedIndexes (contractId : Option Uuid)
  | selectFailedIntents (contractId : Option Uuid)
  | resetFailedIndexes (contractId : Option Uuid)
  | selectUnindexed (contractId : Option Uuid)
  | iterate (intents : List VersionTriple)
  | enqueueIntent (triple : VersionTriple)

/-- `iterate` tells in which order a set is gone through. -/
def IndexRequestCall.Ret : IndexRequestCall → Type
  | resetFailedIndexes _ | enqueueIntent _ => Unit
  | _ => List VersionTriple

abbrev IndexRequestProg := Prog IndexRequestCall IndexRequestCall.Ret Exn

namespace IndexRequestCall

def failedIndexes (contractId : Option Uuid) : IndexRequestProg (List VersionTriple) :=
  Prog.perform (selectFailedIndexes contractId)

def failedIntents (contractId : Option Uuid) : IndexRequestProg (List VersionTriple) :=
  Prog.perform (selectFailedIntents contractId)

def unindexed (contractId : Option Uuid) : IndexRequestProg (List VersionTriple) :=
  Prog.perform (selectUnindexed contractId)

def iterated (intents : List VersionTriple) : IndexRequestProg (List VersionTriple) :=
  Prog.perform (iterate intents)

def reset (contractId : Option Uuid) : IndexRequestProg Unit :=
  Prog.perform (resetFailedIndexes contractId)

/-- The loops over `enqueue_intent` with `force`. -/
def enqueueEach : List VersionTriple → IndexRequestProg Unit
  | [] => pure ()
  | triple :: rest => do
      Prog.perform (enqueueIntent triple)
      enqueueEach rest

end IndexRequestCall

/-- What the requests report. -/
inductive IndexRequestReport where
  | backfilled (count : Nat)
  | retried (knowledgeIndexes outboxIntents : Nat)
deriving DecidableEq, Repr

inductive IndexRequestTask where
  | backfill (contractId : Option Uuid)
  | retryFailed (contractId : Option Uuid)
deriving DecidableEq, Repr

namespace IndexRequestTask

open IndexRequestCall

/-- `backfill` and `retry_failed`. -/
def body : IndexRequestTask → IndexRequestProg IndexRequestReport
  | backfill contractId => do
      let rows ← unindexed contractId
      enqueueEach rows
      pure (.backfilled rows.length)
  | retryFailed contractId => do
      let failedIndexes ← failedIndexes contractId
      let failedOutbox ← failedIntents contractId
      reset contractId
      let intents ← iterated (failedIndexes ++ failedOutbox).dedup
      enqueueEach intents
      pure (.retried failedIndexes.length intents.length)

end IndexRequestTask

/-! ## The system -/

/-- The tables, and the versions ever created. -/
structure ReviewIndexingWorld where
  store : ReviewStore
  created : List VersionTriple := []

instance : Inhabited ReviewIndexingWorld := ⟨⟨default, []⟩⟩

/-- How a call comes out; the rows of a query come in any order. -/
inductive IndexRequestChoice where
  | answered (rows : List VersionTriple)
  | proceed (stamp : Stamp)
  | lost (stamp : Stamp) (error : Exn)
  | raised (error : Exn)

namespace IndexRequestChoice

variable {World : Type} (world : World)

/-- A query, or the order of a set. -/
def query (rows : List VersionTriple) :
    IndexRequestChoice → Option (Except Exn (List VersionTriple) × World)
  | answered given => if given.isPerm rows then some (.ok given, world) else none
  | raised error => some (.error error, world)
  | _ => none

/-- A transaction, which may commit although it raises. -/
def transact (body : Stamp → Except Exn Unit × World) :
    IndexRequestChoice → Option (Except Exn Unit × World)
  | proceed stamp => some (body stamp)
  | lost stamp error => some (.error error, (body stamp).2)
  | raised error => some (.error error, world)
  | answered _ => none

variable {world} {after : World} {choice : IndexRequestChoice}

/-- What a query can answer. -/
theorem query_cases {rows : List VersionTriple} {reply : Except Exn (List VersionTriple)}
    (queried : query world rows choice = some (reply, after)) :
    after = world ∧ ∀ answered, reply = .ok answered → answered.Perm rows := by
  cases choice with
  | answered answered =>
      simp only [query] at queried
      split_ifs at queried with permuted
      cases queried
      refine ⟨rfl, ?_⟩
      rintro _ same
      cases same
      exact List.isPerm_iff.mp permuted
  | raised error =>
      cases queried
      refine ⟨rfl, ?_⟩
      rintro _ same
      cases same
  | proceed stamp => cases queried
  | lost stamp error => cases queried

/-- What a transaction can do. -/
theorem transact_cases {body : Stamp → Except Exn Unit × World} {reply : Except Exn Unit}
    (transacts : transact world body choice = some (reply, after)) :
    (∃ stamp, after = (body stamp).2) ∨ after = world := by
  cases choice with
  | answered answered => cases transacts
  | raised error =>
      cases transacts
      exact .inr rfl
  | proceed stamp =>
      refine .inl ⟨stamp, ?_⟩
      rw [Option.some.inj transacts]
  | lost stamp error =>
      cases transacts
      exact .inl ⟨stamp, rfl⟩

end IndexRequestChoice

namespace ReviewIndexingWorld

variable (world : ReviewIndexingWorld)

def stored (store : ReviewStore) : ReviewIndexingWorld :=
  { world with store }

def respond :
    Prog.Respond IndexRequestCall IndexRequestCall.Ret Exn ReviewIndexingWorld
      IndexRequestChoice :=
  fun choice world request =>
    match request with
    | .selectFailedIndexes contractId =>
        IndexRequestChoice.query world (world.store.failedIndexes contractId) choice
    | .selectFailedIntents contractId =>
        IndexRequestChoice.query world (world.store.failedIntents contractId) choice
    | .selectUnindexed contractId =>
        IndexRequestChoice.query world (world.store.unindexed contractId) choice
    | .iterate intents => IndexRequestChoice.query world intents choice
    | .resetFailedIndexes contractId =>
        IndexRequestChoice.transact world
          (fun _ => (.ok (), world.stored (world.store.resetFailedIndexes contractId))) choice
    | .enqueueIntent triple =>
        IndexRequestChoice.transact world (fun stamp =>
          (.ok (), world.stored (world.store.enqueueIntent stamp triple true))) choice

end ReviewIndexingWorld

/-- One transaction of the other operations.  `finalize` may be interrupted anywhere;
contracts are created under identifiers that were never used, and callers name versions
that were created once. -/
inductive ReviewStoreEvent where
  | createContract (stamp : Stamp) (contract : NewContract)
  | updateContractStatus (contractId : Uuid) (status : WorkflowState)
  | finalize (stamp : Stamp) (arguments : FinalizedReview)
      (choices : List (BlockChoice Exn))
  | enqueueIntent (stamp : Stamp) (triple : VersionTriple) (force : Bool)
  | claimDue (stamp : Stamp) (locked : List Uuid) (limit leaseSeconds : Int)
  | markPublished (outboxId : Uuid)
  | recordConsumerFailure (outboxId : Uuid) (terminal : Bool)
  | reschedule (stamp : Stamp) (outboxId : Uuid) (attempts : Nat)
      (maxAttempts baseBackoffSeconds : Int)
  | createOrGetIndex (worker : KnowledgeIndexWorker) (stamp : Stamp) (job : IndexJob)
  | setIndexStatus (workspaceId : String) (indexId : Uuid) (status : IndexStatus)
  | deleteContract (workspaceId : String) (contractId : Uuid)

namespace ReviewStoreEvent

/-- The tables after a transaction that names versions. -/
def versioned (world : ReviewIndexingWorld) (triple : VersionTriple)
    (store : ReviewStore) : Option ReviewIndexingWorld :=
  if triple ∈ world.created then some { world with store } else none

def after (world : ReviewIndexingWorld) : ReviewStoreEvent → Option ReviewIndexingWorld
  | createContract stamp contract =>
      if world.created.all fun triple =>
          triple.2.1 ≠ stamp.uuid4 0 && triple.2.2 ≠ stamp.uuid4 1 then
        match world.store.insertContract stamp contract with
        | .ok store =>
            some
              { store
                created :=
                  (contract.workspaceId, stamp.uuid4 0, stamp.uuid4 1) :: world.created }
        | .error _ => some world
      else none
  | updateContractStatus contractId status =>
      some { world with store := world.store.updateContractStatus contractId status }
  | finalize stamp arguments choices =>
      ((arguments.finalize stamp).advance (TransactionBlock.respond ReviewStore.exec)
        (.idle world.store) choices).map fun ran => { world with store := ran.2.committed }
  | enqueueIntent stamp triple force =>
      versioned world triple (world.store.enqueueIntent stamp triple force)
  | claimDue stamp locked limit leaseSeconds =>
      some { world with store :=
        { world.store with
          outbox := (world.store.outbox.claimDue stamp locked limit leaseSeconds).2 } }
  | markPublished outboxId =>
      some { world with store :=
        { world.store with outbox := world.store.outbox.markPublished outboxId } }
  | recordConsumerFailure outboxId terminal =>
      some { world with store :=
        { world.store with
          outbox := world.store.outbox.recordConsumerFailure outboxId terminal } }
  | reschedule stamp outboxId attempts maxAttempts baseBackoffSeconds =>
      some { world with store :=
        { world.store with
          outbox := world.store.outbox.reschedule stamp outboxId attempts maxAttempts
            baseBackoffSeconds } }
  | createOrGetIndex worker stamp job =>
      versioned world (job.workspaceId, job.contractId, job.contractVersionId)
        (world.store.createOrGetIndex worker stamp job)
  | setIndexStatus workspaceId indexId status =>
      some { world with store := world.store.setIndexStatus workspaceId indexId status }
  | deleteContract workspaceId contractId =>
      some { world with store := world.store.deleteContract workspaceId contractId }

end ReviewStoreEvent

/-- Backfills and retries, among the transactions of the other operations. -/
def reviewIndexing :
    PoolSystem IndexRequestTask IndexRequestCall IndexRequestCall.Ret Exn
      IndexRequestReport ReviewIndexingWorld IndexRequestChoice ReviewStoreEvent where
  body := IndexRequestTask.body
  respond := fun _ => ReviewIndexingWorld.respond
  outside := fun event world => event.after world

abbrev ReviewIndexingStep :=
  PoolStep IndexRequestTask IndexRequestCall IndexRequestCall.Ret Exn
    IndexRequestReport ReviewIndexingWorld IndexRequestChoice ReviewStoreEvent

abbrev ReviewIndexingState :=
  PoolState IndexRequestTask IndexRequestCall IndexRequestCall.Ret Exn
    IndexRequestReport ReviewIndexingWorld

/-! ## What the operations keep -/

abbrev KnowledgeOutboxRow.triple (row : KnowledgeOutboxRow) : VersionTriple :=
  (row.workspaceId, row.contractId, row.contractVersionId)

abbrev KnowledgeIndexRow.triple (row : KnowledgeIndexRow) : VersionTriple :=
  (row.workspaceId, row.contractId, row.contractVersionId)

/-- The identifiers in the tables are those of created versions; a review has its version
and an intent. -/
structure ReviewStore.Consistent (created : List VersionTriple) (store : ReviewStore) :
    Prop where
  issued : (created.map fun triple => triple.2.2).Nodup
  versions : ∀ row ∈ store.versions.rows,
    ∃ workspaceId, (workspaceId, row.contractId, row.id) ∈ created
  contracts : ∀ row ∈ store.contracts.rows, ∀ triple ∈ created,
    triple.2.1 = row.id → triple.1 = row.workspaceId
  intents : ∀ triple ∈ store.outbox.table.rows.map KnowledgeOutboxRow.triple,
    triple ∈ created
  indexes : ∀ triple ∈ store.indexes.rows.map KnowledgeIndexRow.triple, triple ∈ created
  reviewed : ∀ review ∈ store.reviews.rows,
    ∃ version ∈ store.versions.rows, version.id = review.contractVersionId
  indexed : ∀ review ∈ store.reviews.rows,
    ∃ triple ∈ store.outbox.table.rows.map KnowledgeOutboxRow.triple,
      triple.2.2 = review.contractVersionId

/-- Every review has exactly one intent. -/
def ReviewStore.ReviewsIndexed (store : ReviewStore) : Prop :=
  ∀ review ∈ store.reviews.rows, ∃! row, row ∈ store.outbox.table.rows ∧
    row.contractVersionId = review.contractVersionId

/-- A version is created once. -/
theorem eq_of_version {created : List VersionTriple} {first second : VersionTriple}
    (issued : (created.map fun triple => triple.2.2).Nodup) (one : first ∈ created)
    (other : second ∈ created) (same : first.2.2 = second.2.2) : first = second :=
  List.inj_on_of_nodup_map issued one other same

namespace ReviewStore.Consistent

variable {created : List VersionTriple} {store : ReviewStore} {stamp : Stamp}

theorem reviewsIndexed (consistent : store.Consistent created) : store.ReviewsIndexed := by
  intro review member
  obtain ⟨triple, intended, version⟩ := consistent.indexed review member
  obtain ⟨row, stored, rfl⟩ := List.mem_map.mp intended
  refine ⟨row, ⟨stored, version⟩, ?_⟩
  rintro other ⟨present, same⟩
  have triples : other.triple = row.triple := eq_of_version consistent.issued
    (consistent.intents _ (List.mem_map_of_mem present)) (consistent.intents _ intended)
    (same.trans version.symm)
  have versions : other.version = row.version := by
    rw [Prod.mk.injEq, Prod.mk.injEq] at triples
    rw [Prod.mk.injEq]
    exact ⟨triples.1, triples.2.2⟩
  exact List.inj_on_of_nodup_map store.outbox.versions_nodup present stored versions

/-- A change of the outbox that keeps the identifiers of its rows. -/
theorem outbox (consistent : store.Consistent created) {outbox : KnowledgeOutbox}
    (same : outbox.table.rows.map KnowledgeOutboxRow.triple =
      store.outbox.table.rows.map KnowledgeOutboxRow.triple) :
    ({ store with outbox } : ReviewStore).Consistent created where
  issued := consistent.issued
  versions := consistent.versions
  contracts := consistent.contracts
  intents := by
    rw [same]
    exact consistent.intents
  indexes := consistent.indexes
  reviewed := consistent.reviewed
  indexed := by
    rw [same]
    exact consistent.indexed

theorem updateOutbox (consistent : store.Consistent created)
    (condition : KnowledgeOutboxRow → Bool) (change : RowTable.Change KnowledgeOutboxRow.id)
    (unset : ∀ row, (change.apply row).version = row.version)
    (kept : ∀ row, (change.apply row).triple = row.triple) :
    ({ store with outbox := store.outbox.updateWhere condition change unset } :
      ReviewStore).Consistent created :=
  consistent.outbox (RowTable.map_updateWhere _ _ _ _ kept)

theorem claimDue (consistent : store.Consistent created) (locked : List Uuid)
    (limit leaseSeconds : Int) :
    ({ store with outbox := (store.outbox.claimDue stamp locked limit leaseSeconds).2 } :
      ReviewStore).Consistent created := by
  apply consistent.outbox
  unfold KnowledgeOutbox.claimDue
  split
  · rfl
  · exact map_claimEach _ _ _ _ KnowledgeOutboxRow.triple (fun _ _ _ => rfl) _ _ _ _

/-- An outbox with one row more, of a created version. -/
theorem insertRow (consistent : store.Consistent created) {outbox : KnowledgeOutbox}
    {row : KnowledgeOutboxRow} (inserted : store.outbox.insert? row = some outbox)
    (own : row.triple ∈ created) :
    ({ store with outbox } : ReviewStore).Consistent created := by
  have rows : outbox.table.rows = store.outbox.table.rows ++ [row] :=
    KnowledgeOutbox.rows_of_insert? inserted
  constructor
  · exact consistent.issued
  · exact consistent.versions
  · exact consistent.contracts
  · intro triple member
    rw [rows, List.map_append, List.mem_append] at member
    rcases member with earlier | new
    · exact consistent.intents triple earlier
    · rw [List.map_singleton, List.mem_singleton] at new
      exact new ▸ own
  · exact consistent.indexes
  · exact consistent.reviewed
  · intro review member
    obtain ⟨triple, intended, version⟩ := consistent.indexed review member
    refine ⟨triple, ?_, version⟩
    rw [rows, List.map_append]
    exact List.mem_append_left _ intended

/-- A request for a created version leaves the contract of its intent as it is. -/
theorem enqueueIntent (consistent : store.Consistent created) {triple : VersionTriple}
    (own : triple ∈ created) (force : Bool) :
    (store.enqueueIntent stamp triple force).Consistent created := by
  obtain ⟨workspaceId, contractId, contractVersionId⟩ := triple
  unfold ReviewStore.enqueueIntent
  split
  · rename_i id outbox requested
    have upserted := KnowledgeOutbox.enqueueIntent_ok requested
    unfold KnowledgeOutbox.upsertIntent at upserted
    split at upserted
    · rename_i row found
      cases upserted
      cases force with
      | false => exact consistent
      | true =>
          apply consistent.outbox
          refine (List.map_map ..).trans (List.map_congr_left ?_)
          intro other member
          simp only [Function.comp_apply, decide_eq_true_eq]
          split_ifs with same
          · rw [Prod.mk.injEq] at same
            have known := consistent.intents _ (List.mem_map_of_mem member)
            have equal := eq_of_version consistent.issued known own same.2
            rw [equal]
            exact Prod.ext same.1 (Prod.ext rfl same.2)
          · rfl
    · split at upserted
      · rename_i success
        cases upserted
        exact consistent.insertRow success own
      · cases upserted
  · exact consistent

/-- Index rows of created versions. -/
theorem indexRows (consistent : store.Consistent created)
    {indexes : RowTable KnowledgeIndexRow.key}
    (own : ∀ triple ∈ indexes.rows.map KnowledgeIndexRow.triple, triple ∈ created) :
    ({ store with indexes } : ReviewStore).Consistent created where
  issued := consistent.issued
  versions := consistent.versions
  contracts := consistent.contracts
  intents := consistent.intents
  indexes := own
  reviewed := consistent.reviewed
  indexed := consistent.indexed

theorem createOrGetIndex (consistent : store.Consistent created)
    (worker : KnowledgeIndexWorker) {job : IndexJob}
    (own : (job.workspaceId, job.contractId, job.contractVersionId) ∈ created) :
    (store.createOrGetIndex worker stamp job).Consistent created := by
  have inserted : (store.createOrGetIndex worker stamp job).indexes =
      KnowledgeWorld.insertIndex store.indexes
        (KnowledgeWorld.newIndex worker stamp job) := by
    simp only [ReviewStore.createOrGetIndex, KnowledgeWorld.createOrGetIndex]
    split <;> rfl
  apply consistent.indexRows
  intro triple member
  change triple ∈ (store.createOrGetIndex worker stamp job).indexes.rows.map _ at member
  rw [inserted] at member
  obtain ⟨row, stored, rfl⟩ := List.mem_map.mp member
  rcases KnowledgeWorld.mem_insertIndex stored with earlier | rfl
  · exact consistent.indexes _ (List.mem_map_of_mem earlier)
  · exact own

/-- A change of the index rows that keeps their identifiers. -/
theorem updateIndexes (consistent : store.Consistent created)
    (condition : KnowledgeIndexRow → Bool) (change : RowTable.Change KnowledgeIndexRow.key)
    (kept : ∀ row, (change.apply row).triple = row.triple) :
    ({ store with indexes := store.indexes.updateWhere condition change } :
      ReviewStore).Consistent created := by
  apply consistent.indexRows
  rw [RowTable.map_updateWhere _ _ _ _ kept]
  exact consistent.indexes

/-- Another status of a contract. -/
theorem updateContracts (consistent : store.Consistent created)
    (condition : ContractRow → Bool) (change : RowTable.Change ContractRow.id)
    (kept : ∀ row, (change.apply row).workspaceId = row.workspaceId) :
    ({ store with contracts := store.contracts.updateWhere condition change } :
      ReviewStore).Consistent created where
  issued := consistent.issued
  versions := consistent.versions
  contracts := by
    intro row member triple known same
    obtain ⟨old, stored, rfl⟩ := List.mem_map.mp member
    have id : (if condition old then change.apply old else old).id = old.id := by
      split_ifs
      · exact change.keeps old
      · rfl
    have workspace : (if condition old then change.apply old else old).workspaceId =
        old.workspaceId := by
      split_ifs
      · exact kept old
      · rfl
    rw [workspace]
    exact consistent.contracts old stored triple known (same.trans id)
  intents := consistent.intents
  indexes := consistent.indexes
  reviewed := consistent.reviewed
  indexed := consistent.indexed

/-- A contract under fresh identifiers. -/
theorem insertContract (consistent : store.Consistent created) {contract : NewContract}
    (fresh : ∀ triple ∈ created,
      triple.2.1 ≠ stamp.uuid4 0 ∧ triple.2.2 ≠ stamp.uuid4 1)
    {after : ReviewStore} (inserted : store.insertContract stamp contract = .ok after) :
    after.Consistent
      ((contract.workspaceId, stamp.uuid4 0, stamp.uuid4 1) :: created) := by
  cases attempted : (store.toDatabase default).insertContract stamp contract with
  | error error =>
      rw [ReviewStore.insertContract, attempted] at inserted
      cases inserted
  | ok answer =>
    obtain ⟨ids, database⟩ := answer
    obtain ⟨-, contracts, versions, contractInserted, versionInserted, rfl⟩ :=
      ReviewDatabase.insertContract_ok attempted
    rw [ReviewStore.insertContract, attempted] at inserted
    cases inserted
    have contractRows := RowTable.rows_of_insert? contractInserted
    have versionRows := RowTable.rows_of_insert? versionInserted
    have absent := RowTable.insert?_isSome_iff.mp
      (Option.isSome_iff_exists.mpr ⟨_, contractInserted⟩)
    constructor
    · rw [List.map_cons, List.nodup_cons]
      refine ⟨?_, consistent.issued⟩
      intro member
      obtain ⟨triple, known, same⟩ := List.mem_map.mp member
      exact (fresh triple known).2 same
    · intro row member
      have member : row ∈ versions.rows := member
      rw [versionRows, List.mem_append, List.mem_singleton] at member
      rcases member with earlier | rfl
      · obtain ⟨workspaceId, known⟩ := consistent.versions row earlier
        exact ⟨workspaceId, List.mem_cons_of_mem _ known⟩
      · exact ⟨contract.workspaceId, List.mem_cons_self⟩
    · intro row member triple known same
      have member : row ∈ contracts.rows := member
      rw [contractRows, List.mem_append, List.mem_singleton] at member
      rcases member with earlier | rfl <;> rcases List.mem_cons.mp known with rfl | old
      · have found := RowTable.find?_of_mem earlier
        have taken : row.id = stamp.uuid4 0 := same.symm
        rw [taken] at found
        have absent : (store.toDatabase default).contracts.find? (stamp.uuid4 0) = none :=
          absent
        rw [absent] at found
        cases found
      · exact consistent.contracts row earlier triple old same
      · rfl
      · exact absurd same (fresh triple old).1
    · intro triple member
      exact List.mem_cons_of_mem _ (consistent.intents triple member)
    · intro triple member
      exact List.mem_cons_of_mem _ (consistent.indexes triple member)
    · intro review member
      obtain ⟨version, stored, same⟩ := consistent.reviewed review member
      refine ⟨version, ?_, same⟩
      change version ∈ versions.rows
      rw [versionRows]
      exact List.mem_append_left _ stored
    · exact consistent.indexed

/-- Deleting a contract takes the reviews of its versions with their intents, and no
other intents. -/
theorem deleteContract (consistent : store.Consistent created) (workspaceId : String)
    (contractId : Uuid) : (store.deleteContract workspaceId contractId).Consistent created := by
  unfold ReviewStore.deleteContract
  split
  · rename_i database deleted
    unfold ReviewDatabase.deleteContract at deleted
    cases checked : (store.toDatabase default).deletable workspaceId contractId with
    | error error =>
        rw [checked] at deleted
        cases deleted
    | ok contract =>
        rw [checked] at deleted
        cases deleted
        have kept {review : ContractReviewRow}
            (member : review ∈ (store.reviews.deleteWhere fun row =>
              (((store.toDatabase default).versionRows contractId).map
                ContractVersionRow.id).contains row.contractVersionId).rows) :
            review ∈ store.reviews.rows ∧ ∀ version ∈ store.versions.rows,
              version.id = review.contractVersionId → version.contractId ≠ contractId := by
          obtain ⟨stored, spared⟩ := List.mem_filter.mp member
          refine ⟨stored, ?_⟩
          intro version present same own
          have listed : version.id ∈ ((store.toDatabase default).versionRows
              contractId).map ContractVersionRow.id :=
            List.mem_map_of_mem (List.mem_filter.mpr ⟨present, by simpa using own⟩)
          rw [same] at listed
          simp [listed] at spared
        constructor
        · exact consistent.issued
        · intro row member
          exact consistent.versions row (List.mem_of_mem_filter member)
        · intro row member
          exact consistent.contracts row (List.mem_of_mem_filter member)
        · intro triple member
          obtain ⟨row, stored, rfl⟩ := List.mem_map.mp member
          exact consistent.intents _ (List.mem_map_of_mem (List.mem_of_mem_filter stored))
        · intro triple member
          obtain ⟨row, stored, rfl⟩ := List.mem_map.mp member
          exact consistent.indexes _ (List.mem_map_of_mem (List.mem_of_mem_filter stored))
        · intro review member
          obtain ⟨stored, spared⟩ := kept member
          obtain ⟨version, present, same⟩ := consistent.reviewed review stored
          have other := spared version present same
          exact ⟨version, List.mem_filter.mpr ⟨present, by simpa using other⟩, same⟩
        · intro review member
          obtain ⟨stored, spared⟩ := kept member
          obtain ⟨version, present, same⟩ := consistent.reviewed review stored
          obtain ⟨workspaceId', known⟩ := consistent.versions version present
          obtain ⟨triple, intended, named⟩ := consistent.indexed review stored
          have equal := eq_of_version consistent.issued
            (consistent.intents triple intended) known (named.trans same.symm)
          obtain ⟨row, intent, rfl⟩ := List.mem_map.mp intended
          have other : row.contractId ≠ contractId := by
            have contract : row.contractId = version.contractId :=
              congrArg (fun triple => triple.2.1) equal
            rw [contract]
            exact spared version present same
          exact ⟨row.triple, List.mem_map_of_mem
            (List.mem_filter.mpr ⟨intent, by simp [other]⟩), named⟩
  · exact consistent

/-- What the block of a review leaves. -/
theorem finalize (consistent : store.Consistent created) {arguments : FinalizedReview}
    {ids : Uuid × Uuid} {after : ReviewStore}
    (returns : eval ReviewStore.exec (arguments.body stamp) store = .ok (ids, after)) :
    after.Consistent created := by
  obtain ⟨current, outbox, inserted, intended, rfl⟩ :=
    FinalizedReview.written_of_body returns
  obtain ⟨contract, found, conditions⟩ := Option.any_eq_true _ _ |>.mp current
  simp only [Bool.and_eq_true, decide_eq_true_eq] at conditions
  obtain ⟨⟨workspace, _⟩, versioned⟩ := conditions
  obtain ⟨version, present, own⟩ := Option.any_eq_true _ _ |>.mp versioned
  have own := of_decide_eq_true own
  have stored := RowTable.mem_of_find? present
  have id := RowTable.key_of_find? present
  have known : (arguments.workspaceId, arguments.contractId,
      arguments.contractVersionId) ∈ created := by
    obtain ⟨workspaceId, known⟩ := consistent.versions version stored
    rw [own, id] at known
    have same := consistent.contracts contract (RowTable.mem_of_find? found) _ known
      (RowTable.key_of_find? found).symm
    rw [← workspace, ← same]
    exact known
  have outboxed : ({ store with outbox } : ReviewStore).Consistent created := by
    unfold KnowledgeOutbox.insertIntent at inserted
    split at inserted
    · cases inserted
      exact consistent
    · split at inserted
      · rename_i success
        cases inserted
        exact consistent.insertRow success known
      · cases inserted
  have statused := outboxed.updateContracts
    (ReviewStore.finalizedContract arguments.workspaceId arguments.contractId
      arguments.contractVersionId)
    ⟨fun row => { row with status := .reviewReady }, fun _ => rfl⟩ fun _ => rfl
  have reviews {review : ContractReviewRow}
      (member : review ∈ (arguments.written stamp store outbox).reviews.rows) :
      review.contractVersionId = arguments.contractVersionId ∨
        ∃ old ∈ store.reviews.rows, old.contractVersionId = review.contractVersionId := by
    have here := RowTable.find?_of_mem member
    by_cases same : arguments.contractVersionId = review.contractVersionId
    · exact .inl same.symm
    · have there : (arguments.written stamp store outbox).reviews.find?
          review.contractVersionId = _ :=
        RowTable.find?_upsert store.reviews (arguments.reviewRow stamp) _ _
      have other : (arguments.reviewRow stamp).contractVersionId ≠
          review.contractVersionId := same
      rw [if_neg other] at there
      rw [there] at here
      exact .inr ⟨review, RowTable.mem_of_find? here, rfl⟩
  constructor
  · exact consistent.issued
  · exact consistent.versions
  · exact statused.contracts
  · exact outboxed.intents
  · exact consistent.indexes
  · intro review member
    rcases reviews member with same | ⟨old, earlier, same⟩
    · exact ⟨version, stored, id.trans same.symm⟩
    · obtain ⟨version, stored, id⟩ := consistent.reviewed old earlier
      exact ⟨version, stored, id.trans same⟩
  · intro review member
    rcases reviews member with same | ⟨old, earlier, same⟩
    · obtain ⟨row, intent⟩ := intended
      obtain ⟨stored, named⟩ := KnowledgeOutbox.intent?_eq_some_iff.mp intent
      refine ⟨row.triple, List.mem_map_of_mem (RowTable.mem_of_find? stored), ?_⟩
      exact (congrArg Prod.snd named).trans same.symm
    · obtain ⟨triple, intended, named⟩ := outboxed.indexed old earlier
      exact ⟨triple, intended, named.trans same⟩

end ReviewStore.Consistent

/-! ## What is read is created -/

namespace ReviewIndexingWorld

/-- The tables are consistent with the versions created. -/
def Sound (world : ReviewIndexingWorld) : Prop :=
  world.store.Consistent world.created

variable {world after : ReviewIndexingWorld}

theorem Sound.unindexed (sound : world.Sound) (contractId : Option Uuid) :
    ∀ triple ∈ world.store.unindexed contractId, triple ∈ world.created := by
  intro triple member
  obtain ⟨row, selected, rfl⟩ := List.mem_map.mp member
  obtain ⟨stored, conditions⟩ := List.mem_filter.mp selected
  simp only [Bool.and_eq_true] at conditions
  obtain ⟨⟨⟨⟨_, _⟩, versioned⟩, _⟩, _⟩ := conditions
  obtain ⟨version, found, own⟩ := Option.any_eq_true _ _ |>.mp versioned
  obtain ⟨workspaceId, known⟩ := sound.versions version
    (RowTable.mem_of_find? found)
  rw [of_decide_eq_true own, RowTable.key_of_find? found] at known
  have same := sound.contracts row stored _ known rfl
  exact same ▸ known

theorem Sound.failedIndexes (sound : world.Sound) (contractId : Option Uuid) :
    ∀ triple ∈ world.store.failedIndexes contractId, triple ∈ world.created := by
  intro triple member
  obtain ⟨row, selected, rfl⟩ := List.mem_map.mp member
  exact sound.indexes _ (List.mem_map_of_mem (List.mem_of_mem_filter selected))

theorem Sound.failedIntents (sound : world.Sound) (contractId : Option Uuid) :
    ∀ triple ∈ world.store.failedIntents contractId, triple ∈ world.created := by
  intro triple member
  obtain ⟨row, selected, rfl⟩ := List.mem_map.mp member
  exact sound.intents _ (List.mem_map_of_mem (List.mem_of_mem_filter selected))


/-- Created versions stay created. -/
def Keeps (world after : ReviewIndexingWorld) : Prop :=
  ∀ triple ∈ world.created, triple ∈ after.created

theorem sound_event {event : ReviewStoreEvent} (sound : world.Sound)
    (happens : event.after world = some after) : after.Sound ∧ world.Keeps after := by
  have rewritten {store : ReviewStore} (consistent : store.Consistent world.created) :
      Sound { world with store } ∧ world.Keeps { world with store } :=
    ⟨consistent, fun _ known => known⟩
  cases event with
  | createContract stamp contract =>
      simp only [ReviewStoreEvent.after] at happens
      split_ifs at happens with fresh
      split at happens
      · rename_i store inserted
        cases happens
        refine ⟨sound.insertContract ?_ inserted,
          fun _ known => List.mem_cons_of_mem _ known⟩
        intro triple known
        simpa using List.all_eq_true.mp fresh triple known
      · cases happens
        exact rewritten sound
  | updateContractStatus contractId status =>
      cases happens
      exact rewritten (sound.updateContracts _ _ fun _ => rfl)
  | finalize stamp arguments choices =>
      obtain ⟨⟨rest, state⟩, ran, rfl⟩ := Option.map_eq_some_iff.mp happens
      rcases all_or_nothing FinalizedReview.straight_body ran with same | ⟨ids, returns⟩
      · simp only [same]
        exact rewritten sound
      · exact rewritten (sound.finalize returns)
  | enqueueIntent stamp triple force =>
      simp only [ReviewStoreEvent.after, ReviewStoreEvent.versioned] at happens
      split_ifs at happens with known
      cases happens
      exact rewritten (sound.enqueueIntent known force)
  | claimDue stamp locked limit leaseSeconds =>
      cases happens
      exact rewritten (sound.claimDue locked limit leaseSeconds)
  | markPublished outboxId | recordConsumerFailure outboxId terminal
  | reschedule stamp outboxId attempts maxAttempts baseBackoffSeconds =>
      cases happens
      exact rewritten (sound.updateOutbox _ _ _ fun _ => rfl)
  | createOrGetIndex worker stamp job =>
      simp only [ReviewStoreEvent.after, ReviewStoreEvent.versioned] at happens
      split_ifs at happens with known
      cases happens
      exact rewritten (sound.createOrGetIndex worker known)
  | setIndexStatus workspaceId indexId status =>
      cases happens
      exact rewritten (sound.updateIndexes _ _ fun _ => rfl)
  | deleteContract workspaceId contractId =>
      cases happens
      exact rewritten (sound.deleteContract workspaceId contractId)

end ReviewIndexingWorld

/-! ## What backfills and retries request -/

namespace IndexRequestCall

/-- Requests are for versions that were read. -/
def permits (known : List VersionTriple) : IndexRequestCall → Prop
  | iterate intents => ∀ triple ∈ intents, triple ∈ known
  | enqueueIntent triple => triple ∈ known
  | _ => True

def read (known : List VersionTriple) :
    (request : IndexRequestCall) → Except Exn request.Ret → List VersionTriple
  | selectFailedIndexes _, .ok rows | selectFailedIntents _, .ok rows
  | selectUnindexed _, .ok rows | iterate _, .ok rows => List.append known rows
  | _, _ => known

end IndexRequestCall

abbrev indexRequestMonitor : Monitor IndexRequestCall IndexRequestCall.Ret Exn :=
  .deterministic IndexRequestCall.permits IndexRequestCall.read

theorem conforms_enqueueEach {items known : List VersionTriple}
    (members : ∀ triple ∈ items, triple ∈ known) :
    indexRequestMonitor.Conforms (IndexRequestCall.enqueueEach items)
      (fun _ _ => True) known := by
  induction items with
  | nil => trivial
  | cons triple rest induction =>
      refine ⟨members triple (by simp), ?_⟩
      rintro reply after rfl
      cases reply with
      | error error => trivial
      | ok _ => exact induction fun other later => members other (by simp [later])

theorem conforms_enqueueEach_pure {items known : List VersionTriple}
    (report : IndexRequestReport) (members : ∀ triple ∈ items, triple ∈ known) :
    indexRequestMonitor.Conforms
      (do
        IndexRequestCall.enqueueEach items
        pure report)
      (fun _ _ => True) known :=
  (conforms_enqueueEach members).bind (fun _ _ _ => trivial) fun _ _ _ => trivial

theorem conforms_indexRequest (task : IndexRequestTask) :
    indexRequestMonitor.Conforms task.body (fun _ _ => True) [] := by
  cases task with
  | backfill contractId =>
      refine ⟨trivial, ?_⟩
      rintro reply after rfl
      cases reply with
      | error error => trivial
      | ok rows =>
          exact conforms_enqueueEach_pure _ fun triple member =>
            List.mem_append_right [] member
  | retryFailed contractId =>
      refine ⟨trivial, ?_⟩
      rintro reply after rfl
      cases reply with
      | error error => trivial
      | ok failedIndexes =>
          refine ⟨trivial, ?_⟩
          rintro reply after rfl
          cases reply with
          | error error => trivial
          | ok failedOutbox =>
              refine ⟨trivial, ?_⟩
              rintro reply after rfl
              cases reply with
              | error error => trivial
              | ok _ =>
                  refine ⟨?_, ?_⟩
                  · intro triple member
                    exact List.mem_dedup.mp member
                  · rintro reply after rfl
                    cases reply with
                    | error error => trivial
                    | ok intents =>
                        exact conforms_enqueueEach_pure _ fun triple member =>
                          List.mem_append_right _ member

section Runs

variable {start : ReviewIndexingWorld} {steps : List ReviewIndexingStep}
  {final : ReviewIndexingState} {thread : Nat}

/-- The versions that a thread has read. -/
abbrev versionsRead (thread : Nat) (steps : List ReviewIndexingStep) :
    Option (List VersionTriple) :=
  reviewIndexing.tracked (fun _ => []) IndexRequestCall.read thread steps

/-- The world is sound, and what the threads have read is created. -/
structure IndexingSound (steps : List ReviewIndexingStep) (final : ReviewIndexingState) :
    Prop where
  world : final.world.Sound
  read : ∀ thread known, versionsRead thread steps = some known →
    ∀ triple ∈ known, triple ∈ final.world.created

/-- A call keeps the world sound, and answers with created versions. -/
theorem sound_respond {world after : ReviewIndexingWorld} {choice : IndexRequestChoice}
    {request : IndexRequestCall} {reply : Except Exn request.Ret}
    {known : List VersionTriple} (sound : world.Sound)
    (created : ∀ triple ∈ known, triple ∈ world.created)
    (permitted : request.permits known)
    (responds : ReviewIndexingWorld.respond choice world request = some (reply, after)) :
    after.Sound ∧ after.created = world.created ∧
      ∀ triple ∈ IndexRequestCall.read known request reply, triple ∈ after.created := by
  have queried {rows : List VersionTriple} {reply : Except Exn (List VersionTriple)}
      (own : ∀ triple ∈ rows, triple ∈ world.created)
      (queries : IndexRequestChoice.query world rows choice = some (reply, after)) :
      after.Sound ∧ after.created = world.created ∧
        (∀ answered, reply = .ok answered → ∀ triple ∈ known ++ answered,
          triple ∈ after.created) ∧
        ∀ triple ∈ known, triple ∈ after.created := by
    obtain ⟨rfl, answers⟩ := IndexRequestChoice.query_cases queries
    refine ⟨sound, rfl, ?_, created⟩
    intro answered same triple member
    rcases List.mem_append.mp member with earlier | new
    · exact created triple earlier
    · exact own triple ((answers answered same).subset new)
  have settled {written : Stamp → ReviewStore} {reply : Except Exn Unit}
      (consistent : ∀ stamp, (written stamp).Consistent world.created)
      (settles : IndexRequestChoice.transact world
        (fun stamp => (.ok (), world.stored (written stamp))) choice =
          some (reply, after)) :
      after.Sound ∧ after.created = world.created ∧
        ∀ triple ∈ known, triple ∈ after.created := by
    rcases IndexRequestChoice.transact_cases settles with ⟨stamp, rfl⟩ | rfl
    · exact ⟨consistent stamp, rfl, created⟩
    · exact ⟨sound, rfl, created⟩
  cases request with
  | selectFailedIndexes contractId =>
      obtain ⟨still, same, answers, kept⟩ :=
        queried (sound.failedIndexes contractId) responds
      cases reply with
      | error error => exact ⟨still, same, kept⟩
      | ok rows => exact ⟨still, same, answers rows rfl⟩
  | selectFailedIntents contractId =>
      obtain ⟨still, same, answers, kept⟩ :=
        queried (sound.failedIntents contractId) responds
      cases reply with
      | error error => exact ⟨still, same, kept⟩
      | ok rows => exact ⟨still, same, answers rows rfl⟩
  | selectUnindexed contractId =>
      obtain ⟨still, same, answers, kept⟩ := queried (sound.unindexed contractId) responds
      cases reply with
      | error error => exact ⟨still, same, kept⟩
      | ok rows => exact ⟨still, same, answers rows rfl⟩
  | iterate intents =>
      obtain ⟨still, same, answers, kept⟩ :=
        queried (fun triple member => created triple (permitted triple member)) responds
      cases reply with
      | error error => exact ⟨still, same, kept⟩
      | ok rows => exact ⟨still, same, answers rows rfl⟩
  | resetFailedIndexes contractId =>
      exact settled (fun _ => sound.updateIndexes _ _ fun _ => rfl) responds
  | enqueueIntent triple =>
      exact settled (fun _ => sound.enqueueIntent (created triple permitted) true) responds

theorem indexingSound_of_run (run : reviewIndexing.Run default steps final) :
    IndexingSound steps final := by
  induction run with
  | nil =>
      exact ⟨⟨List.nodup_nil, nofun, nofun, nofun, nofun, nofun, nofun⟩, nofun⟩
  | @step steps state run last found permitted induction =>
      subst found
      have moves := PoolSystem.moves_of_allowed permitted
      generalize reviewIndexing.after last = next at moves
      obtain ⟨event, before⟩ := last
      obtain ⟨sound, read⟩ := induction
      simp only at sound read
      cases moves with
      | @start started task world vacant launched =>
          cases launched
          refine ⟨sound, ?_⟩
          intro thread known reached
          rw [versionsRead, PoolSystem.tracked_concat] at reached
          simp only [PoolSystem.track] at reached
          split_ifs at reached
          · cases reached
            intro triple member
            cases member
          · exact read thread known reached
      | @stop stopping stopped stands =>
          refine ⟨sound, ?_⟩
          intro thread known reached
          rw [versionsRead, PoolSystem.tracked_of_other (by simp) (by simp)] at reached
          exact read thread known reached
      | @outside event world happens =>
          obtain ⟨still, kept⟩ := ReviewIndexingWorld.sound_event sound happens
          refine ⟨still, ?_⟩
          intro thread known reached triple member
          rw [versionsRead, PoolSystem.tracked_of_other (by simp) (by simp)] at reached
          exact kept triple (read thread known reached triple member)
      | @call caller choice task request rest reply world stands answered =>
          have answer := PoolSystem.answer?_of_call reviewIndexing stands answered
          obtain ⟨own, tracked, conforms⟩ :=
            PoolSystem.conforms_of_run conforms_indexRequest run stands
          obtain ⟨still, same, answers⟩ :=
            sound_respond sound (read caller own tracked) conforms.1 answered
          refine ⟨still, ?_⟩
          intro thread known reached
          by_cases other : thread = caller
          · subst other
            have moved := PoolSystem.tracked_of_answer answer tracked
            rw [versionsRead, moved] at reached
            cases reached
            exact answers
          · rw [versionsRead, PoolSystem.tracked_of_other (by simp)] at reached
            · rw [same]
              exact read thread known reached
            · rintro choice event
              cases event
              exact other rfl

end Runs

/-- Finalising is all or nothing, and every finalised review keeps exactly one intent. -/
theorem finalization_indexed :
    (∀ (arguments : FinalizedReview) (stamp : Stamp) (store : ReviewStore)
        (choices : List (BlockChoice Exn)) (rest : Prog (BlockCall FinalizeStatement)
          (BlockCall.Reply FinalizeStatement.Ret) Exn (Uuid × Uuid))
        (state : BlockState ReviewStore),
      (arguments.finalize stamp).advance (respond ReviewStore.exec) (.idle store) choices =
          some (rest, state) →
        state.committed = store ∨ arguments.Finalized stamp state.committed) ∧
    ∀ (steps : List ReviewIndexingStep) (final : ReviewIndexingState),
      reviewIndexing.Run default steps final → final.world.store.ReviewsIndexed := by
  constructor
  · intro arguments stamp store choices rest state
    exact FinalizedReview.finalize_all_or_nothing
  · intro steps final run
    exact ReviewStore.Consistent.reviewsIndexed (indexingSound_of_run run).world

section Sample

def leaseContract : NewContract where
  workspaceId := "inbox"
  emailThreadId := "browser:1"
  title := "lease.pdf"
  originalFilename := "lease.pdf"
  mimeType := "application/pdf"
  sizeBytes := 10
  sha256 := "a1"
  objectKey := "contracts/inbox/a1/a1.pdf"
  uploadedBy := "ana@example.com"

def leaseFinalization : FinalizedReview where
  workspaceId := "inbox"
  contractId := ⟨0, 0⟩
  contractVersionId := ⟨0, 1⟩
  review := { contractId := "K1", contractType := "lease", recommendedNextAction := "sign" }

def offerFinalization : FinalizedReview :=
  { leaseFinalization with contractId := ⟨1, 0⟩, contractVersionId := ⟨1, 1⟩ }

/-- Two versions are finalised; a backfill that has read them requests them after one of the
contracts was deleted. -/
def finalizedEvents : List (PoolEvent IndexRequestTask IndexRequestChoice ReviewStoreEvent) :=
  [.outside (.createContract ⟨0, 0⟩ leaseContract),
    .outside (.createContract ⟨1, 1⟩ { leaseContract with sha256 := "b2" }),
    .outside (.finalize ⟨2, 2⟩ leaseFinalization (List.replicate 7 .executes)),
    .outside (.finalize ⟨3, 3⟩ offerFinalization (List.replicate 7 .executes)),
    .start 0 (.backfill none),
    .call 0 (.answered [("inbox", ⟨0, 0⟩, ⟨0, 1⟩), ("inbox", ⟨1, 0⟩, ⟨1, 1⟩)]),
    .outside (.deleteContract "inbox" ⟨0, 0⟩),
    .call 0 (.proceed ⟨4, 4⟩),
    .call 0 (.proceed ⟨5, 5⟩)]

theorem finalizedRun_isSome :
    (reviewIndexing.extend [] { world := default } finalizedEvents).isSome := by
  decide

def finalizedRun : List ReviewIndexingStep × ReviewIndexingState :=
  (reviewIndexing.extend [] { world := default } finalizedEvents).get finalizedRun_isSome

/-- The block of the second version, stopped at its index intent. -/
def interruptedBlock : Option (Prog (BlockCall FinalizeStatement)
    (BlockCall.Reply FinalizeStatement.Ret) Exn (Uuid × Uuid) × BlockState ReviewStore) :=
  (offerFinalization.finalize ⟨6, 6⟩).advance (respond ReviewStore.exec)
    (.idle finalizedRun.2.world.store)
    [.executes, .executes, .executes, .executes,
      .fails (Exn.runtimeError "connection lost"), .executes]

theorem finalization_indexed_sample :
    interruptedBlock.isSome = true ∧
    (∀ ran ∈ interruptedBlock, ran.2.committed = finalizedRun.2.world.store ∨
      offerFinalization.Finalized ⟨6, 6⟩ ran.2.committed) ∧
    finalizedRun.2.world.store.reviews.rows.length = 1 ∧
    finalizedRun.2.world.store.outbox.table.rows.length = 2 ∧
    finalizedRun.2.world.store.ReviewsIndexed := by
  refine ⟨by decide, ?_, by decide, by decide, ?_⟩
  · rintro ⟨rest, state⟩ ran
    exact finalization_indexed.1 _ _ _ _ rest state ran
  · exact finalization_indexed.2 _ _
      (PoolSystem.run_of_extend .nil (Option.some_get finalizedRun_isSome).symm)

end Sample

end ContractMate
