import ContractMate.KnowledgeRecovery
import ContractMate.ReviewIndexing

/-!
# Retrying failed indexing

`retry_failed` next to dispatchers, workers and other requests.  It reads the failed
indexes and the failed intents, sets every failed index back in one transaction, and then
writes one intent at a time.  Of each such call we follow what it has changed and written,
and the jobs that were published since.
-/

namespace ContractMate

/-! ## The system -/

inductive RecoveryTask where
  | indexing (task : IndexingTask)
  | retryFailed (contractId : Option Uuid)
deriving DecidableEq, Repr

inductive RecoveryCall where
  | indexing (call : IndexingCall)
  | request (call : IndexRequestCall)

def RecoveryCall.Ret : RecoveryCall → Type
  | indexing call => call.Ret
  | request call => call.Ret

inductive RecoveryChoice where
  | indexing (choice : IndexingChoice)
  | request (choice : IndexRequestChoice)

namespace KnowledgeWorld

variable (world : KnowledgeWorld)

/-- The tables that requests see. -/
def tables : ReviewStore :=
  { (default : ReviewStore) with outbox := world.outbox, indexes := world.indexes }

def resetFailedIndexes (contractId : Option Uuid) : KnowledgeWorld :=
  { world with indexes := (world.tables.resetFailedIndexes contractId).indexes }

/-- The rows that `retry_failed` sets back. -/
def resetRows (contractId : Option Uuid) : List KnowledgeIndexRow :=
  world.indexes.select fun row =>
    row.status = .failed && ReviewStore.named contractId row.contractId

/-- `enqueue_intent` with `force`. -/
def forceIntent (stamp : Stamp) (triple : VersionTriple) :
    Except Exn Unit × KnowledgeWorld :=
  match world.outbox.enqueueIntent stamp triple.1 triple.2.1 triple.2.2 true with
  | .ok (_, outbox) => (.ok (), { world with outbox })
  | .error error => (.error error, world)

def respondRequest (choice : IndexRequestChoice) :
    (call : IndexRequestCall) → Option (Except Exn call.Ret × KnowledgeWorld)
  | .selectFailedIndexes contractId =>
      IndexRequestChoice.query world (world.tables.failedIndexes contractId) choice
  | .selectFailedIntents contractId =>
      IndexRequestChoice.query world (world.tables.failedIntents contractId) choice
  | .selectUnindexed _ => none
  | .iterate intents => IndexRequestChoice.query world intents choice
  | .resetFailedIndexes contractId =>
      IndexRequestChoice.transact world
        (fun _ => (.ok (), world.resetFailedIndexes contractId)) choice
  | .enqueueIntent triple =>
      IndexRequestChoice.transact world (fun stamp => world.forceIntent stamp triple) choice

def respondRecovery (worker : KnowledgeIndexWorker) :
    Prog.Respond RecoveryCall RecoveryCall.Ret Exn KnowledgeWorld RecoveryChoice :=
  fun choice world request =>
    match choice, request with
    | .indexing choice, .indexing call => respond worker choice world call
    | .request choice, .request call => world.respondRequest choice call
    | _, _ => none

end KnowledgeWorld

def RecoveryTask.body (dispatcher : KnowledgeOutboxDispatcher)
    (worker : KnowledgeIndexWorker) :
    RecoveryTask → Prog RecoveryCall RecoveryCall.Ret Exn Unit
  | indexing task =>
      Prog.translate RecoveryCall.indexing (fun _ reply => reply)
        (task.body dispatcher worker)
  | retryFailed contractId =>
      (Prog.translate RecoveryCall.request (fun _ reply => reply)
        (IndexRequestTask.retryFailed contractId).body).andThen fun _ => .done (.ok ())

/-- Dispatchers, workers and calls of `retry_failed`; other requests come from outside. -/
def recoveryPool (dispatcher : KnowledgeOutboxDispatcher) (worker : KnowledgeIndexWorker) :
    PoolSystem RecoveryTask RecoveryCall RecoveryCall.Ret Exn Unit KnowledgeWorld
      RecoveryChoice KnowledgeOutboxEvent where
  body := RecoveryTask.body dispatcher worker
  respond := fun _ => KnowledgeWorld.respondRecovery worker
  launch := fun _ task world =>
    match task with
    | .indexing (.handle job) => if job ∈ world.queue then some world else none
    | _ => some world
  outside := fun event world => some { world with outbox := event.after world.outbox }

abbrev RecoveryStep :=
  PoolStep RecoveryTask RecoveryCall RecoveryCall.Ret Exn Unit KnowledgeWorld
    RecoveryChoice KnowledgeOutboxEvent

abbrev RecoveryState :=
  PoolState RecoveryTask RecoveryCall RecoveryCall.Ret Exn Unit KnowledgeWorld

abbrev RecoveryAnswer :=
  PoolAnswer RecoveryTask RecoveryCall RecoveryCall.Ret Exn KnowledgeWorld RecoveryChoice

/-! ## Phases of a call -/

/-- How far a call of `retry_failed` has got, with the intents that it has still to
write. -/
inductive RetryPhase where
  | starting
  | read (failedIndexes : List VersionTriple)
  | collected (intents : List VersionTriple)
  | reset (intents : List VersionTriple)
  | writing (intents : List VersionTriple)
  | raised
deriving DecidableEq, Repr

namespace RetryPhase

def permits : RetryPhase → IndexRequestCall → Prop
  | starting, .selectFailedIndexes _ => True
  | read _, .selectFailedIntents _ => True
  | collected _, .resetFailedIndexes _ => True
  | reset intents, .iterate items => items = intents.dedup
  | writing (next :: _), .enqueueIntent triple => triple = next
  | _, _ => False

def next : RetryPhase → (request : IndexRequestCall) → Except Exn request.Ret → RetryPhase
  | starting, .selectFailedIndexes _, .ok rows => read rows
  | read failedIndexes, .selectFailedIntents _, .ok rows =>
      collected (List.append failedIndexes rows)
  | collected intents, .resetFailedIndexes _, .ok _ => reset intents
  | reset _, .iterate _, .ok rows => writing rows
  | writing (_ :: rest), .enqueueIntent _, .ok _ => writing rest
  | _, _, _ => raised

/-- The intents that are to be written once the indexes are set back. -/
def remaining : RetryPhase → List VersionTriple
  | reset intents | writing intents => intents
  | _ => []

end RetryPhase

abbrev retryMonitor : Monitor IndexRequestCall IndexRequestCall.Ret Exn :=
  .deterministic RetryPhase.permits RetryPhase.next

/-- A call that returns has written everything. -/
theorem conforms_writing (intents : List VersionTriple) :
    retryMonitor.Conforms (IndexRequestCall.enqueueEach intents)
      (fun _ phase => phase.remaining = []) (.writing intents) := by
  induction intents with
  | nil => rfl
  | cons triple rest induction =>
      refine ⟨rfl, ?_⟩
      rintro reply after rfl
      cases reply with
      | error error => rfl
      | ok _ => exact induction

theorem conforms_retryFailed (contractId : Option Uuid) :
    retryMonitor.Conforms (IndexRequestTask.retryFailed contractId).body
      (fun _ phase => phase.remaining = []) .starting := by
  refine ⟨trivial, ?_⟩
  rintro reply after rfl
  cases reply with
  | error error => rfl
  | ok failedIndexes =>
      refine ⟨trivial, ?_⟩
      rintro reply after rfl
      cases reply with
      | error error => rfl
      | ok failedOutbox =>
          refine ⟨trivial, ?_⟩
          rintro reply after rfl
          cases reply with
          | error error => rfl
          | ok _ =>
              refine ⟨rfl, ?_⟩
              rintro reply after rfl
              cases reply with
              | error error => rfl
              | ok intents =>
                  exact (conforms_writing intents).bind (fun _ _ ended => ended)
                    fun _ _ ended => ended

/-- The same phases among the calls of the pool. -/
def RetryPhase.permitsCall : RetryPhase → RecoveryCall → Prop
  | phase, .request call => phase.permits call
  | _, .indexing _ => False

def RetryPhase.nextCall : RetryPhase → (request : RecoveryCall) →
    Except Exn request.Ret → RetryPhase
  | phase, .request call, reply => phase.next call reply
  | phase, .indexing _, _ => phase

abbrev recoveryMonitor : Monitor RecoveryCall RecoveryCall.Ret Exn :=
  .deterministic RetryPhase.permitsCall RetryPhase.nextCall

theorem conforms_recovery (dispatcher : KnowledgeOutboxDispatcher)
    (worker : KnowledgeIndexWorker) (contractId : Option Uuid) :
    recoveryMonitor.Conforms ((RecoveryTask.retryFailed contractId).body dispatcher worker)
      (fun _ phase => phase.remaining = []) .starting := by
  have retries : recoveryMonitor.Conforms
      (Prog.translate RecoveryCall.request (fun _ reply => reply)
        (IndexRequestTask.retryFailed contractId).body)
      (fun _ phase' => ∃ phase, phase' = phase ∧ phase.remaining = []) .starting := by
    refine (conforms_retryFailed contractId).translate ?_ ?_ ?_
    · rfl
    · rintro phase _ request rfl permitted
      exact permitted
    · rintro phase _ request reply _ rfl _ rfl
      exact ⟨_, rfl, rfl⟩
  apply retries.bind
  · rintro _ _ ⟨phase, rfl, ended⟩
    exact ended
  · rintro _ _ ⟨phase, rfl, ended⟩
    exact ended

/-! ## What has become of a call -/

/-- A call of `retry_failed`: its thread, whether that has not been stopped, how far it has
got, the index rows that it set back, and since then the versions whose intents it has
written and those of which a job was published. -/
structure RetryTrace where
  thread : Nat
  standing : Bool := true
  phase : RetryPhase := .starting
  changed : List KnowledgeIndexRow := []
  written : List (String × Uuid) := []
  published : List (String × Uuid) := []
deriving DecidableEq, Repr

/-- The version of an intent. -/
def VersionTriple.version (triple : VersionTriple) : String × Uuid :=
  (triple.1, triple.2.2)

namespace RecoveryChoice

/-- The transaction of a request commits. -/
def commits : RecoveryChoice → Bool
  | request (.proceed _) | request (.lost _ _) => true
  | indexing (.proceed _ _) | indexing (.lost _ _ _) => true
  | _ => false

/-- The stamp of a request. -/
def stamp? : RecoveryChoice → Option Stamp
  | request (.proceed stamp) | request (.lost stamp _) => some stamp
  | _ => none

end RecoveryChoice

/-- The rows that the answer sets back. -/
def resetBy? : RecoveryAnswer → Option (List KnowledgeIndexRow)
  | ⟨_, _, .request (.resetFailedIndexes contractId), choice, _, before, _⟩ =>
      if choice.commits then some (before.resetRows contractId) else none
  | _ => none

/-- The version whose intent the answer writes. -/
def writtenBy? : RecoveryAnswer → Option (String × Uuid)
  | ⟨_, _, .request (.enqueueIntent triple), choice, _, before, _⟩ =>
      if choice.stamp?.any fun stamp => (before.forceIntent stamp triple).1.isOk then
        some (VersionTriple.version triple)
      else none
  | _ => none

/-- The version of the job that the answer publishes, by a dispatcher or for another
attempt. -/
def publishedBy? : RecoveryAnswer → Option (String × Uuid)
  | ⟨_, _, .indexing (.dispatch (.enqueue item)), choice, _, _, _⟩ =>
      if choice.commits then some item.version else none
  | ⟨_, _, .indexing (.work (.publish .retry job)), choice, _, _, _⟩ =>
      if choice.commits then some job.version else none
  | _ => none

/-- A dispatcher's report that takes an intent out of publication: as published, or as
given up. -/
def reportedBy? : RecoveryAnswer → Option Uuid
  | ⟨_, _, .indexing (.dispatch (.markPublished outboxId)), choice, _, _, _⟩ =>
      if choice.commits then some outboxId else none
  | ⟨_, _, .indexing (.dispatch (.reschedule outboxId attempts maxAttempts _)), choice, _,
      _, _⟩ =>
      if choice.commits && max maxAttempts 1 ≤ attempts then some outboxId else none
  | _ => none

/-- The version whose intent is taken out of publication. -/
def retiredBy? (answer : RecoveryAnswer) : Option (String × Uuid) :=
  (reportedBy? answer).bind fun outboxId =>
    ((answer.before.outbox.table.find? outboxId).filter (·.status = .publishing)).map
      (·.version)

/-- The answer raises. -/
def raises (answer : RecoveryAnswer) : Bool :=
  match answer.reply with
  | .ok _ => false
  | .error _ => true

namespace RetryTrace

variable (trace : RetryTrace)

/-- The intents of all rows that were set back are written. -/
def complete : Bool :=
  trace.changed.all fun row => row.version ∈ trace.written

/-- The answer is to the call itself. -/
def owns (thread : Nat) : Bool :=
  trace.standing && trace.thread = thread

/-- The trace after a job of a version is published. -/
def notePublished (version : Option (String × Uuid)) : RetryTrace :=
  { trace with published := version.toList ++ trace.published }

/-- The trace after an answer to the call itself. -/
def advance (answer : RecoveryAnswer) : RetryTrace where
  thread := trace.thread
  standing := trace.standing
  phase := trace.phase.nextCall answer.request answer.reply
  changed := (resetBy? answer).getD trace.changed
  written :=
    if (resetBy? answer).isSome then [] else (writtenBy? answer).toList ++ trace.written
  published := if (resetBy? answer).isSome then [] else trace.published

def answered (answer : RecoveryAnswer) : RetryTrace :=
  let trace := trace.notePublished (publishedBy? answer)
  if trace.owns answer.thread then trace.advance answer else trace

def stopped (thread : Nat) : RetryTrace :=
  { trace with standing := trace.standing && trace.thread ≠ thread }

end RetryTrace

section Following

variable (dispatcher : KnowledgeOutboxDispatcher) (worker : KnowledgeIndexWorker)

/-- The calls of `retry_failed` after a step. -/
def followRetries (traces : List RetryTrace) (step : RecoveryStep) : List RetryTrace :=
  match step.event with
  | .start thread (.retryFailed _) => traces ++ [{ thread }]
  | .start _ (.indexing _) => traces
  | .call _ _ =>
      match (recoveryPool dispatcher worker).answer? step with
      | some answer => traces.map (·.answered answer)
      | none => traces
  | .stop thread => traces.map (·.stopped thread)
  | .outside _ => traces

/-- All calls of `retry_failed` in a run, in the order of their starts. -/
def retries (steps : List RecoveryStep) : List RetryTrace :=
  steps.foldl (followRetries dispatcher worker) []

end Following

end ContractMate
