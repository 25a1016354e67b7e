import ContractMate.KnowledgeDispatch

/-!
# Indexing jobs

`_process_delivery` indexes the version of a job.  When that fails it notes the failure
on the index row, if it has got that far, and on the outbox row, and then puts the job
back or, at the last attempt, on the dead-letter queue.
-/

namespace ContractMate

/-- A `KnowledgeIndexJob` as the workers pass it on. -/
structure IndexJob where
  jobId : Uuid
  workspaceId : String
  contractId : Uuid
  contractVersionId : Uuid
  attempt : Int := 1
  outboxId : Option Uuid := none
deriving DecidableEq, Repr

abbrev IndexJob.version (job : IndexJob) : String × Uuid :=
  (job.workspaceId, job.contractVersionId)

/-- `knowledge_indexes.status`. -/
inductive IndexStatus where
  | pending
  | indexing
  | ready
  | failed
deriving DecidableEq, Repr

structure KnowledgeIndexRow where
  id : Uuid
  workspaceId : String
  contractId : Uuid
  contractVersionId : Uuid
  embeddingModel : String
  chunkingVersion : String
  status : IndexStatus := .pending
deriving DecidableEq, Repr

/-- `UNIQUE(workspace_id, contract_version_id, embedding_model, chunking_version)`. -/
abbrev KnowledgeIndexRow.key (row : KnowledgeIndexRow) :
    String × Uuid × String × String :=
  (row.workspaceId, row.contractVersionId, row.embeddingModel, row.chunkingVersion)

abbrev KnowledgeIndexRow.version (row : KnowledgeIndexRow) : String × Uuid :=
  (row.workspaceId, row.contractVersionId)

/-- The settings that a worker reads. -/
structure KnowledgeIndexWorker where
  embeddingModel : String
  chunkingVersion : String
  maxAttempts : Int

/-- The outbox, the index rows, and the broker's messages.  A message stays in its queue
until it is acknowledged; it may be delivered again while it does. -/
structure KnowledgeWorld where
  outbox : KnowledgeOutbox
  indexes : RowTable KnowledgeIndexRow.key
  queue : List IndexJob := []
  dead : List IndexJob := []

instance : Inhabited KnowledgeWorld := ⟨⟨default, default, [], []⟩⟩

/-! ## Calls of a worker -/

/-- The exchange routes of `retry`. -/
inductive IndexRoute where
  | retry
  | dead
deriving DecidableEq, Repr

inductive KnowledgeWorkerCall where
  | openDatabase
  | loadIndexInputs (job : IndexJob)
  | createOrGetIndex (job : IndexJob)
  | markIndexing (workspaceId : String) (indexId : Uuid)
  | embedChunks
  | replaceChunks (workspaceId : String) (indexId : Uuid)
  | markReady (workspaceId : String) (indexId : Uuid)
  | markFailed (workspaceId : String) (indexId : Uuid)
  | recordConsumerFailure (outboxId : Uuid) (terminal : Bool)
  | clearConsumerError (outboxId : Uuid)
  | publish (route : IndexRoute) (job : IndexJob)
  | ack (job : IndexJob)
  | closeConnection

/-- `loadIndexInputs` tells whether the row was found. -/
def KnowledgeWorkerCall.Ret : KnowledgeWorkerCall → Type
  | loadIndexInputs _ => Bool
  | createOrGetIndex _ => Uuid
  | _ => Unit

abbrev KnowledgeWorkerProg :=
  Prog KnowledgeWorkerCall KnowledgeWorkerCall.Ret Exn

/-- A call whose answer is not looked at. -/
def callWorker (call : KnowledgeWorkerCall) : KnowledgeWorkerProg Unit :=
  .call call fun
    | .ok _ => .done (.ok ())
    | .error error => .done (.error error)

namespace IndexJob

variable (job : IndexJob)

def loadInputs : KnowledgeWorkerProg Bool :=
  Prog.perform (KnowledgeWorkerCall.loadIndexInputs job)

def createOrGetIndex : KnowledgeWorkerProg Uuid :=
  Prog.perform (KnowledgeWorkerCall.createOrGetIndex job)

/-- `replace_index`. -/
def replaceIndex : KnowledgeWorkerProg Unit := do
  let indexId ← job.createOrGetIndex
  callWorker (.markIndexing job.workspaceId indexId)
  callWorker (.replaceChunks job.workspaceId indexId)
  callWorker (.markReady job.workspaceId indexId)

/-- `mark_indexing` and `index_contract`. -/
def indexVersion (indexId : Uuid) : KnowledgeWorkerProg Unit := do
  callWorker (.markIndexing job.workspaceId indexId)
  callWorker .embedChunks
  job.replaceIndex

end IndexJob

/-! ## `_process_delivery` -/

/-- What the `try` block comes to once there is a connection. -/
inductive IndexOutcome where
  | indexed
  | missing
  | failed (indexId : Option Uuid)
deriving DecidableEq, Repr

/-- The `try` block after `connect`. -/
def IndexJob.index (job : IndexJob) : KnowledgeWorkerProg IndexOutcome :=
  job.loadInputs.handle fun
    | .error _ => pure (.failed none)
    | .ok false => pure .missing
    | .ok true => job.createOrGetIndex.handle fun
        | .error _ => pure (.failed none)
        | .ok indexId => (job.indexVersion indexId).handle fun
            | .error _ => pure (.failed (some indexId))
            | .ok _ => pure .indexed

namespace KnowledgeIndexWorker

variable (worker : KnowledgeIndexWorker) (job : IndexJob)

/-- `delivery.retry`. -/
def retry : KnowledgeWorkerProg Unit :=
  if worker.maxAttempts ≤ job.attempt then do
    callWorker (.publish .dead job)
    callWorker (.ack job)
  else do
    callWorker (.publish .retry { job with attempt := job.attempt + 1 })
    callWorker (.ack job)

/-- What the handler of the exception notes. -/
def noteFailure (indexId : Option Uuid) : KnowledgeWorkerProg Unit := do
  match indexId with
  | some indexId => callWorker (.markFailed job.workspaceId indexId)
  | none => pure ()
  match job.outboxId with
  | some outboxId =>
      callWorker (.recordConsumerFailure outboxId (worker.maxAttempts ≤ job.attempt))
  | none => pure ()

/-- The clauses after the `try` block. -/
def conclude : IndexOutcome → KnowledgeWorkerProg Unit
  | .missing => callWorker (.ack job)
  | .failed indexId => do
      worker.noteFailure job indexId
      worker.retry job
  | .indexed => do
      match job.outboxId with
      | some outboxId => callWorker (.clearConsumerError outboxId)
      | none => pure ()
      callWorker (.ack job)

/-- `_process_delivery`: without a connection it notes nothing. -/
def processDelivery : KnowledgeWorkerProg Unit :=
  (callWorker .openDatabase).handle fun
    | .error _ => worker.retry job
    | .ok _ => Prog.tryFinally
        (do
          let outcome ← job.index
          worker.conclude job outcome)
        (callWorker .closeConnection)

end KnowledgeIndexWorker

/-! ## What the calls do -/

namespace KnowledgeWorld

variable (world : KnowledgeWorld)

/-- The unique key of the index row of a job. -/
def indexKey (worker : KnowledgeIndexWorker) (job : IndexJob) :
    String × Uuid × String × String :=
  (job.workspaceId, job.contractVersionId, worker.embeddingModel,
    worker.chunkingVersion)

/-- The row that `create_or_get_index` inserts. -/
def newIndex (worker : KnowledgeIndexWorker) (stamp : Stamp) (job : IndexJob) :
    KnowledgeIndexRow where
  id := stamp.uuid4 0
  workspaceId := job.workspaceId
  contractId := job.contractId
  contractVersionId := job.contractVersionId
  embeddingModel := worker.embeddingModel
  chunkingVersion := worker.chunkingVersion

/-- The `INSERT` of an index row: nothing is inserted under a primary key that is taken. -/
def insertIndex (indexes : RowTable KnowledgeIndexRow.key) (row : KnowledgeIndexRow) :
    RowTable KnowledgeIndexRow.key :=
  if row.id ∈ indexes.rows.map KnowledgeIndexRow.id then indexes
  else indexes.insertIgnore row

/-- `create_or_get_index`; what it changes of a failed row is not its status. -/
def createOrGetIndex (worker : KnowledgeIndexWorker) (stamp : Stamp) (job : IndexJob) :
    Except Exn Uuid × KnowledgeWorld :=
  let indexes := insertIndex world.indexes (newIndex worker stamp job)
  match indexes.find? (indexKey worker job) with
  | some row => (.ok row.id, { world with indexes })
  | none =>
      (.error (Exn.runtimeError "Knowledge index could not be created"),
        { world with indexes })

theorem mem_insertIndex {indexes : RowTable KnowledgeIndexRow.key}
    {added row : KnowledgeIndexRow} (member : row ∈ (insertIndex indexes added).rows) :
    row ∈ indexes.rows ∨ row = added := by
  unfold insertIndex at member
  split_ifs at member with taken
  · exact .inl member
  · exact RowTable.mem_insertIgnore member

/-- `_set_status`. -/
def setIndexStatus (workspaceId : String) (indexId : Uuid) (status : IndexStatus) :
    KnowledgeWorld :=
  { world with
    indexes := world.indexes.updateWhere
      (fun row => row.workspaceId = workspaceId && row.id = indexId)
      ⟨fun row => { row with status }, fun _ => rfl⟩ }

/-- The job of a claimed intent. -/
def jobOf (stamp : Stamp) (item : KnowledgeOutboxItem) : IndexJob where
  jobId := stamp.uuid4 0
  workspaceId := item.workspaceId
  contractId := item.contractId
  contractVersionId := item.contractVersionId
  outboxId := some item.id

def store (route : IndexRoute) (job : IndexJob) : KnowledgeWorld :=
  match route with
  | .retry => { world with queue := world.queue ++ [job] }
  | .dead => { world with dead := world.dead ++ [job] }

/-- The rows that `retry_failed` collects intents from. -/
def retrySelection : List (String × Uuid × Uuid) :=
  (world.indexes.select fun row => row.status = .failed).map
      (fun row => (row.workspaceId, row.contractId, row.contractVersionId)) ++
    (world.outbox.table.select fun row => row.status = .failed).map
      fun row => (row.workspaceId, row.contractId, row.contractVersionId)

end KnowledgeWorld

/-! ## Dispatchers and workers -/

inductive IndexingCall where
  | dispatch (call : KnowledgeDispatchCall)
  | work (call : KnowledgeWorkerCall)

def IndexingCall.Ret : IndexingCall → Type
  | dispatch call => call.Ret
  | work call => call.Ret

/-- How a call comes out; `found` answers a query that changes nothing. -/
inductive IndexingChoice where
  | proceed (stamp : Stamp) (locked : List Uuid)
  | lost (stamp : Stamp) (locked : List Uuid) (error : Exn)
  | raised (error : Exn)
  | found (present : Bool)

namespace KnowledgeWorld

/-- A call that may take effect although it raises. -/
def settle {Value : Type} (world : KnowledgeWorld)
    (body : Stamp → List Uuid → Except Exn Value × KnowledgeWorld) :
    IndexingChoice → Option (Except Exn Value × KnowledgeWorld)
  | .proceed stamp locked => some (body stamp locked)
  | .lost stamp locked error => some (.error error, (body stamp locked).2)
  | .raised error => some (.error error, world)
  | .found _ => none

def respondDispatch (choice : IndexingChoice) (world : KnowledgeWorld) :
    (call : KnowledgeDispatchCall) → Option (Except Exn call.Ret × KnowledgeWorld)
  | .claimDue limit leaseSeconds =>
      world.settle (fun stamp locked =>
        let claimed := world.outbox.claimDue stamp locked limit leaseSeconds
        (.ok claimed.1, { world with outbox := claimed.2 })) choice
  | .enqueue item =>
      world.settle (fun stamp _ =>
        (.ok (), { world with queue := world.queue ++ [jobOf stamp item] })) choice
  | .markPublished outboxId =>
      world.settle (fun _ _ =>
        (.ok (), { world with outbox := world.outbox.markPublished outboxId })) choice
  | .reschedule outboxId attempts maxAttempts baseBackoffSeconds =>
      world.settle (fun stamp _ =>
        (.ok (), { world with
          outbox := world.outbox.reschedule stamp outboxId attempts maxAttempts
            baseBackoffSeconds })) choice

def respondWork (worker : KnowledgeIndexWorker) (choice : IndexingChoice)
    (world : KnowledgeWorld) :
    (call : KnowledgeWorkerCall) → Option (Except Exn call.Ret × KnowledgeWorld)
  | .openDatabase => world.settle (fun _ _ => (.ok (), world)) choice
  | .loadIndexInputs _ =>
      match choice with
      | .found present => some (.ok present, world)
      | .raised error => some (.error error, world)
      | _ => none
  | .createOrGetIndex job =>
      world.settle (fun stamp _ => world.createOrGetIndex worker stamp job) choice
  | .markIndexing workspaceId indexId =>
      world.settle (fun _ _ =>
        (.ok (), world.setIndexStatus workspaceId indexId .indexing)) choice
  | .embedChunks => world.settle (fun _ _ => (.ok (), world)) choice
  | .replaceChunks workspaceId indexId =>
      world.settle (fun _ _ =>
        (.ok (), world.setIndexStatus workspaceId indexId .indexing)) choice
  | .markReady workspaceId indexId =>
      world.settle (fun _ _ =>
        (.ok (), world.setIndexStatus workspaceId indexId .ready)) choice
  | .markFailed workspaceId indexId =>
      world.settle (fun _ _ =>
        (.ok (), world.setIndexStatus workspaceId indexId .failed)) choice
  | .recordConsumerFailure outboxId terminal =>
      world.settle (fun _ _ =>
        (.ok (), { world with
          outbox := world.outbox.recordConsumerFailure outboxId terminal })) choice
  | .clearConsumerError _ => world.settle (fun _ _ => (.ok (), world)) choice
  | .publish route job =>
      world.settle (fun _ _ => (.ok (), world.store route job)) choice
  | .ack job =>
      world.settle (fun _ _ => (.ok (), { world with queue := world.queue.erase job }))
        choice
  | .closeConnection => world.settle (fun _ _ => (.ok (), world)) choice

def respond (worker : KnowledgeIndexWorker) :
    Prog.Respond IndexingCall IndexingCall.Ret Exn KnowledgeWorld IndexingChoice :=
  fun choice world request =>
    match request with
    | .dispatch call => world.respondDispatch choice call
    | .work call => world.respondWork worker choice call

end KnowledgeWorld

/-- A dispatcher's `drain_once`, or a worker that handles a delivery. -/
inductive IndexingTask where
  | drain (limit : Int)
  | handle (job : IndexJob)
deriving DecidableEq, Repr

def IndexingTask.body (dispatcher : KnowledgeOutboxDispatcher)
    (worker : KnowledgeIndexWorker) :
    IndexingTask → Prog IndexingCall IndexingCall.Ret Exn Unit
  | drain limit =>
      (Prog.translate IndexingCall.dispatch (fun _ reply => reply)
        (dispatcher.drainOnce limit)).andThen fun _ => .done (.ok ())
  | handle job =>
      Prog.translate IndexingCall.work (fun _ reply => reply)
        (worker.processDelivery job)

/-- Dispatchers and workers; a worker starts with a message of the queue. -/
def indexingPool (dispatcher : KnowledgeOutboxDispatcher)
    (worker : KnowledgeIndexWorker) :
    PoolSystem IndexingTask IndexingCall IndexingCall.Ret Exn Unit KnowledgeWorld
      IndexingChoice Empty where
  body := IndexingTask.body dispatcher worker
  respond := fun _ => KnowledgeWorld.respond worker
  launch := fun _ task world =>
    match task with
    | .drain _ => some world
    | .handle job => if job ∈ world.queue then some world else none
  outside := fun event _ => event.elim

abbrev IndexingStep :=
  PoolStep IndexingTask IndexingCall IndexingCall.Ret Exn Unit KnowledgeWorld
    IndexingChoice Empty

abbrev IndexingState :=
  PoolState IndexingTask IndexingCall IndexingCall.Ret Exn Unit KnowledgeWorld

abbrev IndexingAnswer :=
  PoolAnswer IndexingTask IndexingCall IndexingCall.Ret Exn KnowledgeWorld IndexingChoice

end ContractMate
