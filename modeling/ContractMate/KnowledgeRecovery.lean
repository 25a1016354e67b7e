import ContractMate.KnowledgeWorker

/-!
# Recovering dead-lettered index jobs

`retry_failed` starts from failed index rows and failed intents.  A job whose last attempt
fails is found there if one of its attempts got as far as the index row, or if a last
failure was noted on an intent that had been marked as published.
-/

namespace ContractMate

/-! ## Answers that matter -/

/-- An attempt gets its index row. -/
def obtainedIndex? : IndexingAnswer → Option (IndexJob × Uuid)
  | ⟨_, _, .work (.createOrGetIndex job), _, .ok indexId, _, _⟩ => some (job, indexId)
  | _ => none

/-- A last failure is noted on an intent that is not being published any more. -/
def notedFailure? : IndexingAnswer → Option Uuid
  | ⟨_, _, .work (.recordConsumerFailure outboxId true), _, .ok _, before, _⟩ =>
      if (before.outbox.table.find? outboxId).any
          (fun row => row.status = .published || row.status = .failed) then
        some outboxId
      else none
  | _ => none

/-- The index row is ready: the attempt has not failed. -/
def indexReady : IndexingAnswer → Bool
  | ⟨_, _, .work (.markReady _ _), _, .ok _, _, _⟩ => true
  | _ => false

/-- The database cannot be reached when a failure is recorded. -/
def recordLost : IndexingAnswer → Bool
  | ⟨_, _, .work (.markFailed _ _), _, .error _, _, _⟩ => true
  | ⟨_, _, .work (.recordConsumerFailure _ _), _, .error _, _, _⟩ => true
  | _ => false

section Runs

variable (dispatcher : KnowledgeOutboxDispatcher) (worker : KnowledgeIndexWorker)

/-- The task is an attempt to index the version. -/
def IndexingTask.Attempts (version : String × Uuid) : IndexingTask → Prop
  | .drain _ => False
  | .handle job => job.version = version

/-- The handlers of a version have returned. -/
def HandlersDone (version : String × Uuid) (state : IndexingState) : Prop :=
  ∀ thread task rest, state.threads thread = some ⟨task, rest⟩ →
    task.Attempts version → ∃ result, rest = .done result

/-- Every attempt for the version fails, its failure can be recorded, and its handler
returns.  Other versions may be indexed meanwhile. -/
structure AttemptsFail (version : String × Uuid) (steps : List IndexingStep) : Prop where
  never_ready : ∀ step ∈ steps, ∀ answer,
    (indexingPool dispatcher worker).answer? step = some answer →
      answer.task.Attempts version → indexReady answer = false
  recorded : ∀ step ∈ steps, ∀ answer,
    (indexingPool dispatcher worker).answer? step = some answer →
      answer.task.Attempts version → recordLost answer = false
  returned : ∀ step ∈ steps, ∀ thread task rest, step.event = .stop thread →
    step.before.threads thread = some ⟨task, rest⟩ → task.Attempts version →
      ∃ result, rest = .done result

/-- `retry_failed` selects the version of a job. -/
def KnowledgeWorld.Recoverable (world : KnowledgeWorld) (job : IndexJob) : Prop :=
  ∃ contractId, (job.workspaceId, contractId, job.contractVersionId) ∈
    world.retrySelection

/-- A dead-lettered job can be recovered once the attempts for its version have failed
and their handlers have returned. -/
def DeadLettersRecoverable (steps : List IndexingStep) (final : IndexingState) : Prop :=
  ∀ job ∈ final.world.dead, AttemptsFail dispatcher worker job.version steps →
    HandlersDone job.version final → final.world.Recoverable job

/-- An attempt for the version of the job got its index row, or a last failure was noted
on the job's intent after `mark_published`. -/
def FailureNoted (steps : List IndexingStep) (job : IndexJob) : Prop :=
  ∃ step ∈ steps, ∃ answer,
    (indexingPool dispatcher worker).answer? step = some answer ∧
      ((∃ earlier indexId, obtainedIndex? answer = some (earlier, indexId) ∧
          earlier.version = job.version) ∨
        ∃ outboxId, notedFailure? answer = some outboxId ∧
          job.outboxId = some outboxId)

end Runs

/-! ## Phases -/

/-- Where a handler stands: before it has a connection, before it has the index row, with
the index row to be marked, and after that.  A row is replaced under the identifier that
is looked up again. -/
inductive WorkPhase where
  | opening (job : IndexJob)
  | creating (job : IndexJob)
  | holding (job : IndexJob) (indexId : Uuid)
  | replacing (job : IndexJob) (indexId target : Uuid)
  | owing (job : IndexJob) (indexId : Uuid)
  | settled (job : IndexJob)

namespace WorkPhase

def job : WorkPhase → IndexJob
  | opening job | creating job | holding job _ | replacing job _ _ | owing job _
  | settled job => job

/-- The handler has an index row, and has still to mark it. -/
def Owes (workspaceId : String) (indexId : Uuid) : WorkPhase → Prop
  | holding job held | replacing job held _ | owing job held =>
      job.workspaceId = workspaceId ∧ held = indexId
  | _ => False

def permits : WorkPhase → KnowledgeWorkerCall → Prop
  | opening _, .openDatabase => True
  | creating job, .loadIndexInputs asked => asked = job
  | creating job, .createOrGetIndex asked => asked = job
  | holding job indexId, .markIndexing workspaceId marked =>
      workspaceId = job.workspaceId ∧ marked = indexId
  | holding _ _, .embedChunks => True
  | holding job _, .createOrGetIndex asked => asked = job
  | replacing job _ target, .markIndexing workspaceId marked
  | replacing job _ target, .replaceChunks workspaceId marked
  | replacing job _ target, .markReady workspaceId marked =>
      workspaceId = job.workspaceId ∧ marked = target
  | owing job indexId, .markFailed workspaceId marked =>
      workspaceId = job.workspaceId ∧ marked = indexId
  | settled _, .recordConsumerFailure _ _ => True
  | settled _, .clearConsumerError _ => True
  | settled job, .publish _ published =>
      published.version = job.version ∧ published.outboxId = job.outboxId
  | settled _, .ack _ => True
  | settled _, .closeConnection => True
  | _, _ => False

def next : WorkPhase → (request : KnowledgeWorkerCall) →
    Except Exn request.Ret → WorkPhase
  | opening job, .openDatabase, .ok _ => creating job
  | opening job, .openDatabase, .error _ => settled job
  | creating job, .loadIndexInputs _, .ok true => creating job
  | creating job, .loadIndexInputs _, .ok false => settled job
  | creating job, .createOrGetIndex _, .ok indexId => holding job indexId
  | creating job, _, .error _ => settled job
  | holding job indexId, .createOrGetIndex _, .ok target =>
      replacing job indexId target
  | holding job indexId, _, .error _ => owing job indexId
  | replacing job _ _, .markReady _ _, .ok _ => settled job
  | replacing job indexId _, _, .error _ => owing job indexId
  | owing job _, .markFailed _ _, _ => settled job
  | phase, _, _ => phase

/-- The handler may end here. -/
def Settled (phase : WorkPhase) : Prop :=
  ∃ job, phase = settled job

end WorkPhase

abbrev workMonitor : Monitor KnowledgeWorkerCall KnowledgeWorkerCall.Ret Exn :=
  .deterministic WorkPhase.permits WorkPhase.next

section Conformance

variable {worker : KnowledgeIndexWorker} {job : IndexJob}

/-- A call of a handler that has nothing to mark. -/
theorem conforms_settled (call : KnowledgeWorkerCall)
    (permitted : (WorkPhase.settled job).permits call)
    {rest : KnowledgeWorkerProg Unit}
    (then_ : workMonitor.Conforms rest (fun _ phase => phase = .settled job)
      (.settled job)) :
    workMonitor.Conforms (callWorker call >>= fun _ => rest)
      (fun _ phase => phase = .settled job) (.settled job) := by
  refine ⟨permitted, ?_⟩
  rintro reply after rfl
  cases reply with
  | error error => rfl
  | ok _ => exact then_

theorem conforms_ack (acked : IndexJob) :
    workMonitor.Conforms (callWorker (.ack acked)) (fun _ phase => phase = .settled job)
      (.settled job) := by
  refine ⟨trivial, ?_⟩
  rintro reply after rfl
  cases reply <;> rfl

theorem conforms_republish (route : IndexRoute) (published : IndexJob)
    (same : published.version = job.version ∧ published.outboxId = job.outboxId) :
    workMonitor.Conforms
      (do
        callWorker (.publish route published)
        callWorker (.ack job))
      (fun _ phase => phase = .settled job) (.settled job) :=
  conforms_settled (.publish route published) same (conforms_ack job)

theorem conforms_retry :
    workMonitor.Conforms (worker.retry job) (fun _ phase => phase = .settled job)
      (.settled job) := by
  unfold KnowledgeIndexWorker.retry
  by_cases last : worker.maxAttempts ≤ job.attempt
  · rw [if_pos last]
    exact conforms_republish .dead job ⟨rfl, rfl⟩
  · rw [if_neg last]
    exact conforms_republish .retry _ ⟨rfl, rfl⟩

/-- Where the outcome of the `try` block leaves the handler. -/
def IndexOutcome.phase (job : IndexJob) : IndexOutcome → WorkPhase
  | .failed (some indexId) => .owing job indexId
  | _ => .settled job

theorem conforms_replaceIndex (indexId : Uuid) :
    workMonitor.Conforms job.replaceIndex
      (fun result phase => phase = match result with
        | .ok _ => .settled job
        | .error _ => .owing job indexId)
      (.holding job indexId) := by
  refine ⟨rfl, ?_⟩
  rintro reply after rfl
  cases reply with
  | error error => rfl
  | ok target =>
      refine ⟨⟨rfl, rfl⟩, ?_⟩
      rintro reply after rfl
      cases reply with
      | error error => rfl
      | ok _ =>
          refine ⟨⟨rfl, rfl⟩, ?_⟩
          rintro reply after rfl
          cases reply with
          | error error => rfl
          | ok _ =>
              refine ⟨⟨rfl, rfl⟩, ?_⟩
              rintro reply after rfl
              cases reply <;> rfl

theorem conforms_indexVersion (indexId : Uuid) :
    workMonitor.Conforms (job.indexVersion indexId)
      (fun result phase => phase = match result with
        | .ok _ => .settled job
        | .error _ => .owing job indexId)
      (.holding job indexId) := by
  refine ⟨⟨rfl, rfl⟩, ?_⟩
  rintro reply after rfl
  cases reply with
  | error error => rfl
  | ok _ =>
      refine ⟨trivial, ?_⟩
      rintro reply after rfl
      cases reply with
      | error error => rfl
      | ok _ => exact conforms_replaceIndex indexId

theorem conforms_index :
    workMonitor.Conforms job.index
      (fun result phase => ∃ outcome, result = .ok outcome ∧
        phase = outcome.phase job)
      (.creating job) := by
  refine ⟨rfl, ?_⟩
  rintro reply after rfl
  cases reply with
  | error error => exact ⟨_, rfl, rfl⟩
  | ok found =>
      cases found with
      | false => exact ⟨_, rfl, rfl⟩
      | true =>
          refine ⟨rfl, ?_⟩
          rintro reply after rfl
          cases reply with
          | error error => exact ⟨_, rfl, rfl⟩
          | ok indexId =>
              apply (conforms_indexVersion indexId).handle
              rintro result after rfl
              cases result with
              | ok _ => exact ⟨_, rfl, rfl⟩
              | error error => exact ⟨_, rfl, rfl⟩

/-- A handler without an index row to mark notes its failure. -/
theorem conforms_noteFailure_none :
    workMonitor.Conforms (worker.noteFailure job none)
      (fun _ phase => phase = .settled job) (.settled job) := by
  unfold KnowledgeIndexWorker.noteFailure
  cases job.outboxId with
  | none => rfl
  | some outboxId =>
      refine ⟨trivial, ?_⟩
      rintro reply after rfl
      cases reply <;> rfl

theorem conforms_noteFailure (indexId : Option Uuid) :
    workMonitor.Conforms (worker.noteFailure job indexId)
      (fun _ phase => phase = .settled job)
      ((IndexOutcome.failed indexId).phase job) := by
  cases indexId with
  | none => exact conforms_noteFailure_none
  | some indexId =>
      refine ⟨⟨rfl, rfl⟩, ?_⟩
      rintro reply after rfl
      cases reply with
      | error error => rfl
      | ok _ => exact conforms_noteFailure_none

theorem conforms_conclude (outcome : IndexOutcome) :
    workMonitor.Conforms (worker.conclude job outcome)
      (fun _ phase => phase = .settled job) (outcome.phase job) := by
  cases outcome with
  | missing => exact conforms_ack job
  | indexed =>
      unfold KnowledgeIndexWorker.conclude
      cases job.outboxId with
      | none => exact conforms_ack job
      | some outboxId =>
          exact conforms_settled (.clearConsumerError _) trivial (conforms_ack job)
  | failed indexId =>
      apply (conforms_noteFailure indexId).bind
      · rintro _ after rfl
        exact conforms_retry
      · rintro error after rfl
        rfl

/-- A handler keeps to its phases, and ends with nothing left to mark. -/
theorem conforms_processDelivery :
    workMonitor.Conforms (worker.processDelivery job)
      (fun _ phase => phase = .settled job) (.opening job) := by
  refine ⟨trivial, ?_⟩
  rintro reply after rfl
  cases reply with
  | error error => exact conforms_retry
  | ok _ =>
      have concluded : workMonitor.Conforms
          (do
            let outcome ← job.index
            worker.conclude job outcome)
          (fun _ phase => phase = .settled job) (.creating job) := by
        apply conforms_index.bind
        · rintro outcome after ⟨_, same, rfl⟩
          cases same
          exact conforms_conclude outcome
        · rintro error after ⟨_, same, _⟩
          cases same
      apply concluded.tryFinally
      rintro result after rfl
      refine ⟨trivial, ?_⟩
      rintro reply after rfl
      cases reply <;> rfl

end Conformance

/-! ## Dispatchers and workers together -/

/-- The phase of a thread of the pool. -/
inductive IndexingPhase where
  | dispatch (phase : DispatchPhase)
  | work (phase : WorkPhase)

namespace IndexingPhase

def initial : IndexingTask → IndexingPhase
  | .drain _ => dispatch .claiming
  | .handle job => work (.opening job)

def permits (dispatcher : KnowledgeOutboxDispatcher) :
    IndexingPhase → IndexingCall → Prop
  | dispatch phase, .dispatch call => phase.permits dispatcher call
  | work phase, .work call => phase.permits call
  | _, _ => False

def next : IndexingPhase → (request : IndexingCall) →
    Except Exn request.Ret → IndexingPhase
  | dispatch phase, .dispatch call, reply => dispatch (phase.next call reply)
  | work phase, .work call, reply => work (phase.next call reply)
  | phase, _, _ => phase

/-- Dispatchers may end anywhere, handlers with nothing left to mark. -/
def Ended : IndexingTask → IndexingPhase → Prop
  | .drain _, dispatch _ => True
  | .handle _, work phase => phase.Settled
  | _, _ => False

end IndexingPhase

abbrev indexingMonitor (dispatcher : KnowledgeOutboxDispatcher) :
    Monitor IndexingCall IndexingCall.Ret Exn :=
  .deterministic (IndexingPhase.permits dispatcher) IndexingPhase.next

theorem conforms_indexingTask {dispatcher : KnowledgeOutboxDispatcher}
    {worker : KnowledgeIndexWorker} (task : IndexingTask) :
    (indexingMonitor dispatcher).Conforms (task.body dispatcher worker)
      (fun _ phase => phase.Ended task) (IndexingPhase.initial task) := by
  cases task with
  | drain limit =>
      have drains : (indexingMonitor dispatcher).Conforms
          (Prog.translate IndexingCall.dispatch (fun _ reply => reply)
            (dispatcher.drainOnce limit))
          (fun _ phase' => ∃ phase, phase' = .dispatch phase ∧ True)
          (.dispatch .claiming) := by
        refine (conforms_drainOnce limit).translate ?_ ?_ ?_
        · rfl
        · rintro phase _ request rfl permitted
          exact permitted
        · rintro phase _ request reply _ rfl _ rfl
          exact ⟨_, rfl, rfl⟩
      apply drains.bind
      · rintro _ _ ⟨phase, rfl, _⟩
        trivial
      · rintro _ _ ⟨phase, rfl, _⟩
        trivial
  | handle job =>
      have handles : (indexingMonitor dispatcher).Conforms
          (Prog.translate IndexingCall.work (fun _ reply => reply)
            (worker.processDelivery job))
          (fun _ phase' => ∃ phase, phase' = .work phase ∧ phase = .settled job)
          (.work (.opening job)) := by
        refine conforms_processDelivery.translate ?_ ?_ ?_
        · rfl
        · rintro phase _ request rfl permitted
          exact permitted
        · rintro phase _ request reply _ rfl _ rfl
          exact ⟨_, rfl, rfl⟩
      apply handles.mono
      rintro _ _ ⟨phase, rfl, rfl⟩
      exact ⟨job, rfl⟩

/-! ## What the calls keep -/

/-- The intent of a job, if it has one, is of the same version. -/
def IndexJob.Named (job : IndexJob) (outbox : KnowledgeOutbox) : Prop :=
  ∀ outboxId, job.outboxId = some outboxId →
    ∃ row, outbox.table.find? outboxId = some row ∧ row.version = job.version

/-- Rows keep what identifies them. -/
structure KnowledgeWorld.Extends (world after : KnowledgeWorld) : Prop where
  outbox : world.outbox.Extends after.outbox
  indexes : ∀ key row, world.indexes.find? key = some row →
    ∃ later, after.indexes.find? key = some later ∧ later.id = row.id

/-- `id` is the primary key of the index rows. -/
def KnowledgeWorld.IdsUnique (world : KnowledgeWorld) : Prop :=
  (world.indexes.rows.map KnowledgeIndexRow.id).Nodup

instance (world : KnowledgeWorld) : Decidable world.IdsUnique :=
  inferInstanceAs (Decidable (world.indexes.rows.map KnowledgeIndexRow.id).Nodup)

/-- The messages name intents of their own versions. -/
def KnowledgeWorld.MessagesNamed (world : KnowledgeWorld) : Prop :=
  ∀ job, job ∈ world.queue ∨ job ∈ world.dead → job.Named world.outbox

/-- What a handler has in hand agrees with the tables. -/
structure WorkPhase.Agrees (phase : WorkPhase) (worker : KnowledgeIndexWorker)
    (world : KnowledgeWorld) : Prop where
  named : phase.job.Named world.outbox
  held : ∀ workspaceId indexId, phase.Owes workspaceId indexId →
    ∃ row, world.indexes.find? (KnowledgeWorld.indexKey worker phase.job) = some row ∧
      row.id = indexId
  target : ∀ job indexId target, phase = .replacing job indexId target →
    target = indexId

def IndexingPhase.Agrees (worker : KnowledgeIndexWorker) (world : KnowledgeWorld) :
    IndexingPhase → Prop
  | dispatch phase => phase.Named world.outbox
  | work phase => phase.Agrees worker world

section Keeping

variable {dispatcher : KnowledgeOutboxDispatcher} {worker : KnowledgeIndexWorker}
  {world after : KnowledgeWorld} {choice : IndexingChoice} {job : IndexJob}

theorem IndexJob.Named.mono {outbox later : KnowledgeOutbox} (named : job.Named outbox)
    (extends_ : outbox.Extends later) : job.Named later := by
  intro outboxId own
  obtain ⟨row, found, same⟩ := named outboxId own
  obtain ⟨row', found, kept⟩ := extends_ _ _ found
  exact ⟨row', found, kept.trans same⟩

theorem WorkPhase.Agrees.mono {phase : WorkPhase} (agrees : phase.Agrees worker world)
    (extends_ : world.Extends after) : phase.Agrees worker after where
  named := agrees.named.mono extends_.outbox
  held := by
    intro workspaceId indexId owes
    obtain ⟨row, found, same⟩ := agrees.held workspaceId indexId owes
    obtain ⟨later, found, kept⟩ := extends_.indexes _ _ found
    exact ⟨later, found, kept.trans same⟩
  target := agrees.target

variable {phase : IndexingPhase} {Value : Type}
  {body : Stamp → List Uuid → Except Exn Value × KnowledgeWorld}
  {call : KnowledgeDispatchCall} {request : IndexingCall}

theorem IndexingPhase.Agrees.mono
    (agrees : phase.Agrees worker world) (extends_ : world.Extends after) :
    phase.Agrees worker after := by
  cases phase with
  | dispatch phase => exact DispatchPhase.Named.mono agrees extends_.outbox
  | work phase => exact WorkPhase.Agrees.mono agrees extends_

/-- A call takes effect or raises. -/
theorem KnowledgeWorld.settle_cases {reply : Except Exn Value}
    (settles : world.settle body choice = some (reply, after)) :
    (∃ stamp locked, after = (body stamp locked).2 ∧
      (reply = (body stamp locked).1 ∨ ∃ error, reply = .error error)) ∨
    (after = world ∧ ∃ error, reply = .error error) := by
  cases choice with
  | proceed stamp locked =>
      have same := Option.some.inj settles
      exact .inl ⟨stamp, locked, by rw [same], .inl (by rw [same])⟩
  | lost stamp locked error =>
      cases settles
      exact .inl ⟨stamp, locked, rfl, .inr ⟨error, rfl⟩⟩
  | raised error =>
      cases settles
      exact .inr ⟨rfl, error, rfl⟩
  | found present => cases settles

/-- What holds before a call and after its effect holds after the call. -/
theorem KnowledgeWorld.settle_keeps {keeps : KnowledgeWorld → Prop} {Value : Type}
    {body : Stamp → List Uuid → Except Exn Value × KnowledgeWorld}
    {reply : Except Exn Value} (settles : world.settle body choice = some (reply, after))
    (here : keeps world) (effects : ∀ stamp locked, keeps (body stamp locked).2) :
    keeps after := by
  rcases settle_cases settles with ⟨stamp, locked, rfl, _⟩ | ⟨rfl, _⟩
  · exact effects stamp locked
  · exact here

theorem KnowledgeWorld.Extends.refl (world : KnowledgeWorld) : world.Extends world where
  outbox := .refl world.outbox
  indexes := fun _ row found => ⟨row, found, rfl⟩

/-- Calls on the outbox alone. -/
theorem KnowledgeWorld.Extends.of_outbox {outbox : KnowledgeOutbox}
    (extends_ : world.outbox.Extends outbox) :
    world.Extends { world with outbox } where
  outbox := extends_
  indexes := fun _ row found => ⟨row, found, rfl⟩

theorem find?_setIndexStatus (workspaceId : String) (indexId : Uuid)
    (status : IndexStatus) (key : String × Uuid × String × String) :
    (world.setIndexStatus workspaceId indexId status).indexes.find? key =
      (world.indexes.find? key).map fun row =>
        if row.workspaceId = workspaceId ∧ row.id = indexId then { row with status }
        else row := by
  refine (RowTable.find?_updateWhere _ _ _ _).trans ?_
  simp

theorem extends_setIndexStatus (workspaceId : String) (indexId : Uuid)
    (status : IndexStatus) :
    world.Extends (world.setIndexStatus workspaceId indexId status) where
  outbox := .refl world.outbox
  indexes := by
    intro key row found
    have written := @find?_setIndexStatus world workspaceId indexId status key
    rw [found, Option.map_some] at written
    refine ⟨_, written, ?_⟩
    split_ifs <;> rfl

/-- An index row that is there stays as it is. -/
theorem find?_createOrGetIndex {stamp : Stamp} {key : String × Uuid × String × String}
    {row : KnowledgeIndexRow} (found : world.indexes.find? key = some row) :
    (world.createOrGetIndex worker stamp job).2.indexes.find? key = some row := by
  have inserted (added : KnowledgeIndexRow) :
      (KnowledgeWorld.insertIndex world.indexes added).find? key = some row := by
    unfold KnowledgeWorld.insertIndex
    split_ifs with taken
    · exact found
    · rw [RowTable.find?_insertIgnore, found]
      split_ifs <;> rfl
  unfold KnowledgeWorld.createOrGetIndex
  dsimp only
  split <;> exact inserted _

theorem outbox_createOrGetIndex (stamp : Stamp) :
    (world.createOrGetIndex worker stamp job).2.outbox = world.outbox := by
  unfold KnowledgeWorld.createOrGetIndex
  dsimp only
  split <;> rfl

theorem extends_createOrGetIndex (stamp : Stamp) :
    world.Extends (world.createOrGetIndex worker stamp job).2 where
  outbox := by
    rw [outbox_createOrGetIndex]
    exact .refl world.outbox
  indexes := fun _ row found => ⟨row, find?_createOrGetIndex found, rfl⟩

/-- What is returned is the row of the job's key. -/
theorem find?_of_createOrGetIndex {stamp : Stamp} {indexId : Uuid}
    (returned : (world.createOrGetIndex worker stamp job).1 = .ok indexId) :
    ∃ row, (world.createOrGetIndex worker stamp job).2.indexes.find?
      (KnowledgeWorld.indexKey worker job) = some row ∧ row.id = indexId := by
  unfold KnowledgeWorld.createOrGetIndex at returned ⊢
  dsimp only at returned ⊢
  split at returned
  · rename_i row found
    cases returned
    simp only [found]
    exact ⟨row, rfl, rfl⟩
  · cases returned

theorem extends_settle {reply : Except Exn Value}
    (settles : world.settle body choice = some (reply, after))
    (extends_ : ∀ stamp locked, world.Extends (body stamp locked).2) : world.Extends after :=
  KnowledgeWorld.settle_keeps settles (.refl world) extends_

theorem extends_respondWork {call : KnowledgeWorkerCall} {reply : Except Exn call.Ret}
    (responds : world.respondWork worker choice call = some (reply, after)) :
    world.Extends after := by
  cases call with
  | openDatabase | embedChunks | clearConsumerError outboxId | closeConnection =>
      exact extends_settle responds fun _ _ => .refl world
  | loadIndexInputs asked =>
      cases choice <;> cases responds <;> exact .refl _
  | createOrGetIndex asked =>
      exact extends_settle responds fun stamp _ => extends_createOrGetIndex stamp
  | markIndexing workspaceId indexId | replaceChunks workspaceId indexId
  | markReady workspaceId indexId | markFailed workspaceId indexId =>
      exact extends_settle responds fun _ _ => extends_setIndexStatus _ _ _
  | recordConsumerFailure outboxId terminal =>
      exact extends_settle responds fun _ _ =>
        .of_outbox (KnowledgeOutbox.extends_updateWhere _ _ fun _ => rfl)
  | publish route published =>
      refine extends_settle responds fun _ _ => ?_
      cases route <;> exact ⟨.refl world.outbox, fun _ row found => ⟨row, found, rfl⟩⟩
  | ack acked =>
      exact extends_settle responds fun _ _ =>
        ⟨.refl world.outbox, fun _ row found => ⟨row, found, rfl⟩⟩

theorem extends_respondDispatch {reply : Except Exn call.Ret}
    (responds : world.respondDispatch choice call = some (reply, after)) :
    world.Extends after := by
  cases call with
  | claimDue limit leaseSeconds =>
      exact extends_settle responds fun stamp locked =>
        .of_outbox (KnowledgeOutbox.extends_claimDue locked limit leaseSeconds)
  | enqueue item =>
      exact extends_settle responds fun _ _ =>
        ⟨.refl world.outbox, fun _ row found => ⟨row, found, rfl⟩⟩
  | markPublished outboxId | reschedule outboxId attempts maxAttempts baseBackoffSeconds =>
      exact extends_settle responds fun _ _ =>
        .of_outbox (KnowledgeOutbox.extends_updateWhere _ _ fun _ => rfl)

theorem extends_respond {reply : Except Exn request.Ret}
    (responds : KnowledgeWorld.respond worker choice world request = some (reply, after)) :
    world.Extends after := by
  cases request with
  | dispatch call => exact extends_respondDispatch responds
  | work call => exact extends_respondWork responds

theorem idsUnique_setIndexStatus (unique : world.IdsUnique) (workspaceId : String)
    (indexId : Uuid) (status : IndexStatus) :
    (world.setIndexStatus workspaceId indexId status).IdsUnique := by
  unfold KnowledgeWorld.IdsUnique KnowledgeWorld.setIndexStatus
  rw [RowTable.map_updateWhere _ _ _ _ fun _ => rfl]
  exact unique

theorem idsUnique_insertIndex {indexes : RowTable KnowledgeIndexRow.key}
    (unique : (indexes.rows.map KnowledgeIndexRow.id).Nodup) (row : KnowledgeIndexRow) :
    ((KnowledgeWorld.insertIndex indexes row).rows.map KnowledgeIndexRow.id).Nodup := by
  unfold KnowledgeWorld.insertIndex RowTable.insertIgnore
  split_ifs with taken
  · exact unique
  · cases inserted : indexes.insert? row with
    | none => exact unique
    | some later =>
        rw [Option.getD_some, RowTable.rows_of_insert? inserted, List.map_append,
          List.map_singleton, ← List.concat_eq_append]
        exact unique.concat taken

theorem indexes_createOrGetIndex (stamp : Stamp) :
    (world.createOrGetIndex worker stamp job).2.indexes =
      KnowledgeWorld.insertIndex world.indexes
        (KnowledgeWorld.newIndex worker stamp job) := by
  unfold KnowledgeWorld.createOrGetIndex
  dsimp only
  split <;> rfl

/-- Identifiers stay unique. -/
theorem idsUnique_respond {reply : Except Exn request.Ret} (unique : world.IdsUnique)
    (responds : KnowledgeWorld.respond worker choice world request = some (reply, after)) :
    after.IdsUnique := by
  have kept := @KnowledgeWorld.settle_keeps world after choice KnowledgeWorld.IdsUnique
  cases request with
  | dispatch call => cases call <;> exact kept responds unique fun _ _ => unique
  | work call =>
      cases call with
      | loadIndexInputs asked => cases choice <;> cases responds <;> exact unique
      | createOrGetIndex asked =>
          refine kept responds unique fun stamp _ => ?_
          unfold KnowledgeWorld.IdsUnique
          rw [indexes_createOrGetIndex]
          exact idsUnique_insertIndex unique _
      | markIndexing workspaceId indexId | replaceChunks workspaceId indexId
      | markReady workspaceId indexId | markFailed workspaceId indexId =>
          exact kept responds unique fun _ _ => idsUnique_setIndexStatus unique _ _ _
      | publish route published =>
          exact kept responds unique fun _ _ => by cases route <;> exact unique
      | openDatabase | embedChunks | recordConsumerFailure outboxId terminal
      | clearConsumerError outboxId | ack acked | closeConnection =>
          exact kept responds unique fun _ _ => unique

/-- Every message is an old one or named. -/
def KnowledgeWorld.AddsNamed (world after : KnowledgeWorld) : Prop :=
  ∀ job, job ∈ after.queue ∨ job ∈ after.dead →
    (job ∈ world.queue ∨ job ∈ world.dead) ∨ job.Named world.outbox

theorem addsNamed_of_same (queue : after.queue = world.queue)
    (dead : after.dead = world.dead) : world.AddsNamed after := by
  intro job member
  rw [queue, dead] at member
  exact .inl member

theorem addsNamed_settle {reply : Except Exn Value}
    (settles : world.settle body choice = some (reply, after))
    (adds : ∀ stamp locked, world.AddsNamed (body stamp locked).2) :
    world.AddsNamed after :=
  KnowledgeWorld.settle_keeps settles (addsNamed_of_same rfl rfl) adds

theorem addsNamed_respondDispatch {reply : Except Exn call.Ret} {phase : DispatchPhase}
    (agrees : phase.Named world.outbox) (permitted : phase.permits dispatcher call)
    (responds : world.respondDispatch choice call = some (reply, after)) :
    world.AddsNamed after := by
  cases call with
  | claimDue limit leaseSeconds | markPublished outboxId
  | reschedule outboxId attempts maxAttempts baseBackoffSeconds =>
      exact addsNamed_settle responds fun _ _ => addsNamed_of_same rfl rfl
  | enqueue item =>
      have own : item ∈ phase.items := by
        cases phase with
        | working items => exact List.mem_of_mem_head? permitted
        | claiming | confirmed first items | refused first items => cases permitted
      obtain ⟨row, found, same⟩ := agrees item own
      refine addsNamed_settle responds fun stamp _ job member => ?_
      rcases member with queued | dead
      · rcases List.mem_append.mp queued with old | new
        · exact .inl (.inl old)
        · obtain rfl := List.mem_singleton.mp new
          right
          rintro outboxId named
          cases named
          exact ⟨row, found, same⟩
      · exact .inl (.inr dead)

theorem messages_createOrGetIndex (stamp : Stamp) :
    (world.createOrGetIndex worker stamp job).2.queue = world.queue ∧
      (world.createOrGetIndex worker stamp job).2.dead = world.dead := by
  unfold KnowledgeWorld.createOrGetIndex
  dsimp only
  split <;> exact ⟨rfl, rfl⟩

theorem addsNamed_respondWork {call : KnowledgeWorkerCall}
    {reply : Except Exn call.Ret} {phase : WorkPhase}
    (agrees : phase.Agrees worker world) (permitted : phase.permits call)
    (responds : world.respondWork worker choice call = some (reply, after)) :
    world.AddsNamed after := by
  cases call with
  | openDatabase | markIndexing workspaceId indexId | embedChunks
  | replaceChunks workspaceId indexId | markReady workspaceId indexId
  | markFailed workspaceId indexId | recordConsumerFailure outboxId terminal
  | clearConsumerError outboxId | closeConnection =>
      exact addsNamed_settle responds fun _ _ => addsNamed_of_same rfl rfl
  | loadIndexInputs asked =>
      cases choice <;> cases responds <;> exact addsNamed_of_same rfl rfl
  | createOrGetIndex asked =>
      exact addsNamed_settle responds fun stamp _ =>
        addsNamed_of_same (messages_createOrGetIndex stamp).1
          (messages_createOrGetIndex stamp).2
  | publish route published =>
      have own : published.Named world.outbox := by
        cases phase with
        | settled job =>
            obtain ⟨version, intent⟩ := permitted
            intro outboxId named
            rw [intent] at named
            rw [version]
            exact agrees.named outboxId named
        | opening job | creating job | holding job indexId | replacing job indexId target
        | owing job indexId => cases permitted
      refine addsNamed_settle responds fun _ _ job member => ?_
      have listed : (job ∈ world.queue ∨ job ∈ world.dead) ∨ job = published := by
        cases route with
        | retry =>
            rcases member with queued | dead
            · rcases List.mem_append.mp queued with old | new
              · exact .inl (.inl old)
              · exact .inr (List.mem_singleton.mp new)
            · exact .inl (.inr dead)
        | dead =>
            rcases member with queued | dead
            · exact .inl (.inl queued)
            · rcases List.mem_append.mp dead with old | new
              · exact .inl (.inr old)
              · exact .inr (List.mem_singleton.mp new)
      rcases listed with old | rfl
      · exact .inl old
      · exact .inr own
  | ack acked =>
      refine addsNamed_settle responds fun _ _ job member => ?_
      exact .inl (member.imp List.mem_of_mem_erase id)

/-- Published jobs and enqueued items keep the messages named. -/
theorem messages_respond {reply : Except Exn request.Ret} (named : world.MessagesNamed)
    (agrees : phase.Agrees worker world) (permitted : phase.permits dispatcher request)
    (responds : KnowledgeWorld.respond worker choice world request = some (reply, after)) :
    after.MessagesNamed := by
  have extends_ := extends_respond responds
  have adds : world.AddsNamed after := by
    cases phase with
    | dispatch phase =>
        cases request with
        | dispatch call => exact addsNamed_respondDispatch agrees permitted responds
        | work call => cases permitted
    | work phase =>
        cases request with
        | work call => exact addsNamed_respondWork agrees permitted responds
        | dispatch call => cases permitted
  intro job member
  rcases adds job member with old | own
  · exact (named job old).mono extends_.outbox
  · exact own.mono extends_.outbox

/-- A dispatcher's items belong to rows, as when it runs alone. -/
theorem DispatchPhase.Named.nextDispatch
    {reply : Except Exn call.Ret} {phase : DispatchPhase}
    (named : phase.Named world.outbox) (permitted : phase.permits dispatcher call)
    (responds : world.respondDispatch choice call = some (reply, after)) :
    (phase.next call reply).Named after.outbox := by
  have extends_ := extends_respondDispatch responds
  by_cases begun : phase = .claiming
  · subst begun
    cases call with
    | claimDue limit leaseSeconds =>
        cases reply with
        | error error => nofun
        | ok items =>
            cases choice with
            | lost stamp locked error | raised error | found present => cases responds
            | proceed stamp locked =>
                have alone : KnowledgeOutbox.respond (.proceed stamp locked) world.outbox
                    (.claimDue limit leaseSeconds) = some (.ok items, after.outbox) := by
                  cases responds
                  rfl
                exact DispatchPhase.Named.next named permitted alone
    | enqueue item | markPublished outboxId
    | reschedule outboxId attempts maxAttempts baseBackoffSeconds => cases permitted
  · intro item member
    exact named.mono extends_.outbox item (items_next call reply begun member)

/-- A handler works on one job. -/
theorem WorkPhase.job_next (phase : WorkPhase) (call : KnowledgeWorkerCall)
    (reply : Except Exn call.Ret) : (phase.next call reply).job = phase.job := by
  unfold WorkPhase.next
  split <;> rfl

/-- A handler that comes to owe nothing new agrees with the tables as before. -/
theorem WorkPhase.Agrees.of_owes {phase later : WorkPhase}
    (agrees : phase.Agrees worker world) (extends_ : world.Extends after)
    (job : later.job = phase.job)
    (owes : ∀ workspaceId indexId, later.Owes workspaceId indexId →
      phase.Owes workspaceId indexId)
    (target : ∀ job indexId target, later = .replacing job indexId target →
      phase = .replacing job indexId target) : later.Agrees worker after where
  named := by
    rw [job]
    exact agrees.named.mono extends_.outbox
  held := by
    intro workspaceId indexId owing
    rw [job]
    exact (agrees.mono extends_).held workspaceId indexId (owes _ _ owing)
  target := fun job indexId replaced same =>
    agrees.target job indexId replaced (target _ _ _ same)

/-- What `create_or_get_index` returns is the row of the job. -/
theorem created_of_respond {asked : IndexJob} {indexId : Uuid}
    (responds : world.respondWork worker choice (.createOrGetIndex asked) =
      some (.ok indexId, after)) :
    ∃ stamp, after = (world.createOrGetIndex worker stamp asked).2 ∧
      (world.createOrGetIndex worker stamp asked).1 = .ok indexId := by
  rcases KnowledgeWorld.settle_cases responds with
    ⟨stamp, _, rfl, same | ⟨_, raised⟩⟩ | ⟨_, _, raised⟩
  · exact ⟨stamp, rfl, same.symm⟩
  · cases raised
  · cases raised

theorem WorkPhase.Agrees.next {call : KnowledgeWorkerCall} {reply : Except Exn call.Ret}
    {phase : WorkPhase} (agrees : phase.Agrees worker world)
    (permitted : phase.permits call)
    (responds : world.respondWork worker choice call = some (reply, after)) :
    (phase.next call reply).Agrees worker after := by
  have extends_ := extends_respondWork responds
  have same := agrees.of_owes extends_ (phase.job_next call reply)
  cases phase with
  | opening job =>
      cases call with
      | openDatabase => cases reply <;> exact same nofun nofun
      | _ => cases permitted
  | creating job =>
      cases call with
      | loadIndexInputs asked =>
          cases reply with
          | error error => exact same nofun nofun
          | ok found => cases found <;> exact same nofun nofun
      | createOrGetIndex asked =>
          cases permitted
          cases reply with
          | error error => exact same nofun nofun
          | ok indexId =>
              obtain ⟨stamp, rfl, returned⟩ := created_of_respond responds
              refine ⟨agrees.named.mono extends_.outbox, ?_, nofun⟩
              rintro _ _ ⟨_, rfl⟩
              exact find?_of_createOrGetIndex returned
      | _ => cases permitted
  | holding job indexId =>
      have held := agrees.held job.workspaceId indexId ⟨rfl, rfl⟩
      cases call with
      | markIndexing workspaceId marked | embedChunks =>
          cases reply <;> exact same (fun _ _ owes => owes) nofun
      | createOrGetIndex asked =>
          cases permitted
          cases reply with
          | error error => exact same (fun _ _ owes => owes) nofun
          | ok target =>
              obtain ⟨stamp, rfl, returned⟩ := created_of_respond responds
              obtain ⟨row, found, named⟩ := held
              obtain ⟨again, found', named'⟩ := find?_of_createOrGetIndex returned
              have found : world.indexes.find? (KnowledgeWorld.indexKey worker job) =
                  some row := found
              have stays := @find?_createOrGetIndex worker world job stamp _ row found
              rw [stays] at found'
              cases found'
              refine ⟨agrees.named.mono extends_.outbox, ?_, ?_⟩
              · rintro _ _ ⟨_, rfl⟩
                exact ⟨row, stays, named⟩
              · rintro _ _ _ replaced
                cases replaced
                rw [← named, ← named']
      | _ => cases permitted
  | replacing job indexId target =>
      cases call with
      | markIndexing workspaceId marked | replaceChunks workspaceId marked =>
          cases reply with
          | error error => exact same (fun _ _ owes => owes) nofun
          | ok _ => exact same (fun _ _ owes => owes) fun _ _ _ replaced => replaced
      | markReady workspaceId marked =>
          cases reply with
          | error error => exact same (fun _ _ owes => owes) nofun
          | ok _ => exact same nofun nofun
      | _ => cases permitted
  | owing job indexId =>
      cases call with
      | markFailed workspaceId marked => cases reply <;> exact same nofun nofun
      | _ => cases permitted
  | settled job =>
      cases call with
      | recordConsumerFailure outboxId terminal | clearConsumerError outboxId
      | publish route published | ack acked | closeConnection => exact same nofun nofun
      | _ => cases permitted

theorem IndexingPhase.Agrees.next {reply : Except Exn request.Ret}
    (agrees : phase.Agrees worker world) (permitted : phase.permits dispatcher request)
    (responds : KnowledgeWorld.respond worker choice world request = some (reply, after)) :
    (phase.next request reply).Agrees worker after := by
  cases phase with
  | dispatch phase =>
      cases request with
      | dispatch call =>
          exact DispatchPhase.Named.nextDispatch agrees permitted responds
      | work call => cases permitted
  | work phase =>
      cases request with
      | work call => exact WorkPhase.Agrees.next agrees permitted responds
      | dispatch call => cases permitted

end Keeping

/-! ## Runs -/

section Runs

variable {dispatcher : KnowledgeOutboxDispatcher} {worker : KnowledgeIndexWorker}
  {start : KnowledgeWorld} {steps : List IndexingStep} {final : IndexingState}
  {thread : Nat}

/-- The phase of a thread after some steps. -/
abbrev indexingPhase (dispatcher : KnowledgeOutboxDispatcher)
    (worker : KnowledgeIndexWorker) (thread : Nat) (steps : List IndexingStep) :
    Option IndexingPhase :=
  (indexingPool dispatcher worker).tracked IndexingPhase.initial IndexingPhase.next
    thread steps

/-- The phase is one of the task, and of its job. -/
def IndexingPhase.Fits : IndexingTask → IndexingPhase → Prop
  | .drain _, dispatch _ => True
  | .handle job, work phase => phase.job = job
  | _, _ => False

theorem IndexingPhase.Fits.next {task : IndexingTask} {phase : IndexingPhase}
    (fits : phase.Fits task) (request : IndexingCall) (reply : Except Exn request.Ret) :
    (phase.next request reply).Fits task := by
  cases task <;> cases phase <;> cases request <;> try exact fits
  exact (WorkPhase.job_next _ _ _).trans fits

/-- A handler in a phase of the version attempts it. -/
theorem IndexingPhase.Fits.attempts {task : IndexingTask} {phase : WorkPhase}
    (fits : (IndexingPhase.work phase).Fits task) {version : String × Uuid}
    (own : phase.job.version = version) : task.Attempts version := by
  cases task with
  | drain limit => cases fits
  | handle job =>
      have same : phase.job = job := fits
      rw [same] at own
      exact own

/-- A running thread conforms in its phase, which is one of its task. -/
theorem conforms_of_indexing
    (run : (indexingPool dispatcher worker).Run start steps final)
    {running : PoolThread IndexingTask IndexingCall IndexingCall.Ret Exn Unit}
    (stands : final.threads thread = some running) :
    ∃ phase, indexingPhase dispatcher worker thread steps = some phase ∧
      (indexingMonitor dispatcher).Conforms running.rest
        (fun _ last => last.Ended running.task) phase ∧
      phase.Fits running.task := by
  apply PoolSystem.phases_of_run
    (fun task rest phase => (indexingMonitor dispatcher).Conforms rest
      (fun _ last => last.Ended task) phase ∧ phase.Fits task) _ _ run stands
  · intro task
    exact ⟨conforms_indexingTask task, by cases task <;> trivial⟩
  · rintro task request rest phase reply ⟨conforms, fits⟩
    exact ⟨conforms.2 reply _ rfl, fits.next request reply⟩

/-- A task starts in the world as it is. -/
theorem world_of_launched {task : IndexingTask} {world after : KnowledgeWorld}
    (launched : (indexingPool dispatcher worker).launch thread task world = some after) :
    after = world := by
  cases task with
  | drain limit => exact (Option.some.inj launched).symm
  | handle job =>
      simp only [indexingPool] at launched
      split_ifs at launched
      exact (Option.some.inj launched).symm

/-- What the answers keep, the steps keep. -/
theorem kept_of_moves (keeps : KnowledgeWorld → Prop) {before after : IndexingState}
    {event : PoolEvent IndexingTask IndexingChoice Empty}
    (moves : (indexingPool dispatcher worker).Moves before event after)
    (answers : ∀ choice request (reply : Except Exn request.Ret) later,
      KnowledgeWorld.respond worker choice before.world request = some (reply, later) →
        keeps later)
    (here : keeps before.world) : keeps after.world := by
  cases moves with
  | start vacant launched =>
      obtain rfl := world_of_launched launched
      exact here
  | call stands responds => exact answers _ _ _ _ responds
  | stop stands => exact here
  | @outside event world happens => exact event.elim

/-- Messages name their intents, and threads agree with the tables. -/
theorem agrees_of_run (run : (indexingPool dispatcher worker).Run start steps final)
    (idle : start.queue = []) (unburdened : start.dead = []) :
    final.world.MessagesNamed ∧ ∀ thread phase,
      indexingPhase dispatcher worker thread steps = some phase →
        phase.Agrees worker final.world := by
  induction run with
  | nil =>
      constructor
      · intro job member
        simp [idle, unburdened] at member
      · intro thread phase reached
        cases reached
  | @step steps state run last found permitted induction =>
      have moves := PoolSystem.moves_of_allowed permitted
      have conforms (thread : Nat)
          (running : PoolThread IndexingTask IndexingCall IndexingCall.Ret Exn Unit) :=
        @conforms_of_indexing dispatcher worker start steps state thread run running
      rw [← found] at induction conforms
      clear found
      generalize (indexingPool dispatcher worker).after last = next at moves
      obtain ⟨event, before⟩ := last
      obtain ⟨messages, threads⟩ := induction
      simp only at messages threads moves conforms
      cases moves with
      | @start started task world vacant launched =>
          obtain rfl := world_of_launched launched
          refine ⟨messages, ?_⟩
          intro thread phase reached
          rw [indexingPhase, PoolSystem.tracked_concat] at reached
          simp only [PoolSystem.track] at reached
          split_ifs at reached
          · cases reached
            cases task with
            | drain limit =>
                intro item member
                cases member
            | handle job =>
                simp only [indexingPool] at launched
                split_ifs at launched with queued
                refine ⟨messages job (.inl queued), ?_, ?_⟩
                · intro workspaceId indexId owes
                  cases owes
                · intro job indexId target same
                  cases same
          · exact threads thread phase reached
      | @call caller choice task request rest reply world stands answered =>
          have answer := PoolSystem.answer?_of_call (indexingPool dispatcher worker) stands answered
          obtain ⟨current, tracked, keeps, _⟩ := conforms caller _ stands
          have agrees := threads caller current tracked
          have extends_ := extends_respond answered
          refine ⟨messages_respond messages agrees keeps.1 answered, ?_⟩
          intro thread phase reached
          by_cases same : thread = caller
          · subst same
            rw [indexingPhase, PoolSystem.tracked_of_answer answer tracked,
              Option.some.injEq] at reached
            subst reached
            exact agrees.next keeps.1 answered
          · rw [indexingPhase, PoolSystem.tracked_of_other (by simp)] at reached
            · exact (threads thread phase reached).mono extends_
            · rintro choice event
              cases event
              exact same rfl
      | stop stands =>
          refine ⟨messages, fun thread phase reached => ?_⟩
          rw [indexingPhase, PoolSystem.tracked_of_other (by simp) (by simp)] at reached
          exact threads thread phase reached
      | @outside event world happens => exact event.elim

/-- The identifiers of the index rows stay unique. -/
theorem idsUnique_of_run (run : (indexingPool dispatcher worker).Run start steps final)
    (primary : start.IdsUnique) : final.world.IdsUnique := by
  induction run with
  | nil => exact primary
  | @step steps state run last found permitted induction =>
      rw [← found] at induction
      exact kept_of_moves KnowledgeWorld.IdsUnique (PoolSystem.moves_of_allowed permitted)
        (fun _ _ _ _ responds => idsUnique_respond induction responds) induction

end Runs

/-! ## The index row of an attempt -/

section Owed

variable {dispatcher : KnowledgeOutboxDispatcher} {worker : KnowledgeIndexWorker}
  {world after : KnowledgeWorld} {choice : IndexingChoice} {phase : WorkPhase}
  {key : String × Uuid × String × String} {row : KnowledgeIndexRow} {thread : Nat}
  {task : IndexingTask}

/-- The status of a row that is set, and by whom it is owed after that. -/
theorem marked_of_settle {workspaceId : String} {indexId : Uuid} {status : IndexStatus}
    {reply : Except Exn Unit}
    (settles : world.settle (fun _ _ =>
      (.ok (), world.setIndexStatus workspaceId indexId status)) choice =
        some (reply, after))
    (found : world.indexes.find? key = some row) :
    after.indexes.find? key = some row ∨
      (row.workspaceId = workspaceId ∧ row.id = indexId) ∧
        after.indexes.find? key = some { row with status } := by
  rcases KnowledgeWorld.settle_cases settles with ⟨_, _, rfl, _⟩ | ⟨rfl, _⟩
  · have written := @find?_setIndexStatus world workspaceId indexId status key
    rw [found, Option.map_some] at written
    by_cases hit : row.workspaceId = workspaceId ∧ row.id = indexId
    · rw [if_pos hit] at written
      exact .inr ⟨hit, written⟩
    · rw [if_neg hit] at written
      exact .inl written
  · exact .inl found

/-- A handler owes rows of the version it works on. -/
theorem version_of_owes (unique : world.IdsUnique) (agrees : phase.Agrees worker world)
    (found : world.indexes.find? key = some row)
    (owes : phase.Owes row.workspaceId row.id) : phase.job.version = row.version := by
  obtain ⟨held, stored, same⟩ := agrees.held row.workspaceId row.id owes
  have own : held = row := List.inj_on_of_nodup_map unique (RowTable.mem_of_find? stored)
    (RowTable.mem_of_find? found) same
  have key := RowTable.key_of_find? stored
  rw [own] at key
  exact (congrArg (fun key => (key.1, key.2.1)) key).symm

/-- An answer to a handler leaves a row as it is, marks it as failed, or marks it
otherwise in the hands of the handler, which then owes it. -/
theorem row_of_respondWork {call : KnowledgeWorkerCall} {reply : Except Exn call.Ret}
    (unique : world.IdsUnique) (agrees : phase.Agrees worker world)
    (permitted : phase.permits call)
    (responds : world.respondWork worker choice call = some (reply, after))
    (unready : phase.job.version = row.version →
      indexReady ⟨thread, task, .work call, choice, reply, world, after⟩ = false)
    (found : world.indexes.find? key = some row) :
    ∃ later, after.indexes.find? key = some later ∧ later.id = row.id ∧
      later.workspaceId = row.workspaceId ∧
      (later.status = row.status ∨ later.status = .failed ∨
        (phase.next call reply).Owes row.workspaceId row.id) := by
  have stays (same : after.indexes.find? key = some row) :
      ∃ later, after.indexes.find? key = some later ∧ later.id = row.id ∧
        later.workspaceId = row.workspaceId ∧
        (later.status = row.status ∨ later.status = .failed ∨
          (phase.next call reply).Owes row.workspaceId row.id) :=
    ⟨row, same, rfl, rfl, .inl rfl⟩
  have kept := @KnowledgeWorld.settle_keeps world after choice
    fun later => later.indexes.find? key = some row
  cases call with
  | openDatabase | embedChunks | recordConsumerFailure outboxId terminal
  | clearConsumerError outboxId | ack acked | closeConnection =>
      exact stays (kept responds found fun _ _ => found)
  | loadIndexInputs asked =>
      cases choice <;> cases responds <;> exact stays found
  | createOrGetIndex asked =>
      exact stays (kept responds found fun _ _ => find?_createOrGetIndex found)
  | publish route published =>
      exact stays (kept responds found fun _ _ => by cases route <;> exact found)
  | markFailed workspaceId indexId =>
      rcases marked_of_settle responds found with same | ⟨_, written⟩
      · exact stays same
      · exact ⟨_, written, rfl, rfl, .inr (.inl rfl)⟩
  | markIndexing workspaceId indexId =>
      rcases marked_of_settle responds found with same | ⟨⟨here, own⟩, written⟩
      · exact stays same
      · refine ⟨_, written, rfl, rfl, .inr (.inr ?_)⟩
        cases phase with
        | holding job held =>
            obtain ⟨rfl, rfl⟩ := permitted
            cases reply <;> exact ⟨here.symm, own.symm⟩
        | replacing job held target =>
            obtain ⟨rfl, rfl⟩ := permitted
            have same := agrees.target _ _ _ rfl
            cases reply <;> exact ⟨here.symm, same.symm.trans own.symm⟩
        | _ => cases permitted
  | replaceChunks workspaceId indexId =>
      rcases marked_of_settle responds found with same | ⟨⟨here, own⟩, written⟩
      · exact stays same
      · refine ⟨_, written, rfl, rfl, .inr (.inr ?_)⟩
        cases phase with
        | replacing job held target =>
            obtain ⟨rfl, rfl⟩ := permitted
            have same := agrees.target _ _ _ rfl
            cases reply <;> exact ⟨here.symm, same.symm.trans own.symm⟩
        | _ => cases permitted
  | markReady workspaceId indexId =>
      rcases marked_of_settle responds found with same | ⟨⟨here, own⟩, written⟩
      · exact stays same
      · refine ⟨_, written, rfl, rfl, .inr (.inr ?_)⟩
        cases phase with
        | replacing job held target =>
            obtain ⟨rfl, rfl⟩ := permitted
            have same := agrees.target _ _ _ rfl
            have owes : (WorkPhase.replacing job held indexId).Owes row.workspaceId row.id :=
              ⟨here.symm, same.symm.trans own.symm⟩
            cases reply with
            | error error => exact owes
            | ok _ => cases unready (version_of_owes unique agrees found owes)
        | _ => cases permitted

/-- A handler that owes a row owes it still, or has marked it as failed. -/
theorem owes_of_respondWork {call : KnowledgeWorkerCall} {reply : Except Exn call.Ret}
    (permitted : phase.permits call)
    (responds : world.respondWork worker choice call = some (reply, after))
    (unready : indexReady ⟨thread, task, .work call, choice, reply, world, after⟩ = false)
    (recorded : recordLost ⟨thread, task, .work call, choice, reply, world, after⟩ = false)
    (found : world.indexes.find? key = some row)
    (owes : phase.Owes row.workspaceId row.id) :
    (phase.next call reply).Owes row.workspaceId row.id ∨
      ∃ later, after.indexes.find? key = some later ∧ later.id = row.id ∧
        later.workspaceId = row.workspaceId ∧ later.status = .failed := by
  cases phase with
  | holding job held =>
      left
      cases call with
      | markIndexing workspaceId marked | embedChunks | createOrGetIndex asked =>
          cases reply <;> exact owes
      | _ => cases permitted
  | replacing job held target =>
      left
      cases call with
      | markIndexing workspaceId marked => cases reply <;> exact owes
      | replaceChunks workspaceId marked => cases reply <;> exact owes
      | markReady workspaceId marked =>
          cases reply with
          | error error => exact owes
          | ok _ => cases unready
      | _ => cases permitted
  | owing job held =>
      right
      cases call with
      | markFailed workspaceId marked =>
          obtain ⟨rfl, rfl⟩ := permitted
          cases reply with
          | error error => cases recorded
          | ok _ =>
              rcases KnowledgeWorld.settle_cases responds with
                ⟨_, _, rfl, _⟩ | ⟨_, _, raised⟩
              · have written := @find?_setIndexStatus world job.workspaceId marked
                  .failed key
                rw [found, Option.map_some,
                  if_pos ⟨owes.1.symm, owes.2.symm⟩] at written
                exact ⟨_, written, rfl, rfl, rfl⟩
              · cases raised
      | _ => cases permitted
  | _ => cases owes

end Owed

/-! ## Failed attempts along a run -/

section Attempts

variable {dispatcher : KnowledgeOutboxDispatcher} {worker : KnowledgeIndexWorker}
  {start : KnowledgeWorld} {steps : List IndexingStep} {final before : IndexingState}
  {indexId : Uuid} {job : IndexJob} {version : String × Uuid}

/-- The row that an attempt got has failed, or a running handler owes it. -/
def IndexMarked (dispatcher : KnowledgeOutboxDispatcher) (worker : KnowledgeIndexWorker)
    (job : IndexJob) (steps : List IndexingStep) (final : IndexingState) : Prop :=
  ∃ row, final.world.indexes.find? (KnowledgeWorld.indexKey worker job) = some row ∧
    (row.status = .failed ∨ ∃ thread phase, (final.threads thread).isSome = true ∧
      indexingPhase dispatcher worker thread steps = some (.work phase) ∧
        phase.Owes row.workspaceId row.id)

variable {step : IndexingStep} {answer : IndexingAnswer}

theorem AttemptsFail.init
    (fail : AttemptsFail dispatcher worker version (steps ++ [step])) :
    AttemptsFail dispatcher worker version steps where
  never_ready := fun earlier member =>
    fail.never_ready earlier (List.mem_append_left _ member)
  recorded := fun earlier member =>
    fail.recorded earlier (List.mem_append_left _ member)
  returned := fun earlier member =>
    fail.returned earlier (List.mem_append_left _ member)

/-- A handler that has returned owes nothing. -/
theorem owes_of_ended {task : IndexingTask} {phase : WorkPhase} {result : Except Exn Unit}
    {workspaceId : String}
    (ended : (indexingMonitor dispatcher).Conforms
      (.done result : Prog IndexingCall IndexingCall.Ret Exn Unit)
      (fun _ last => last.Ended task) (.work phase))
    (owes : phase.Owes workspaceId indexId) : False := by
  cases task with
  | drain limit => cases ended
  | handle job =>
      obtain ⟨settled, rfl⟩ := ended
      cases owes

/-- Dispatchers leave the index rows. -/
theorem indexes_respondDispatch {world after : KnowledgeWorld} {choice : IndexingChoice}
    {call : KnowledgeDispatchCall} {reply : Except Exn call.Ret}
    (responds : world.respondDispatch choice call = some (reply, after)) :
    after.indexes = world.indexes := by
  cases call <;>
    (rcases KnowledgeWorld.settle_cases responds with ⟨_, _, rfl, _⟩ | ⟨rfl, _⟩ <;> rfl)

/-- An attempt that gets the index row owes it. -/
theorem marked_of_obtained_last
    (run : (indexingPool dispatcher worker).Run start steps step.before)
    (idle : start.queue = []) (unburdened : start.dead = [])
    (answered : (indexingPool dispatcher worker).answer? step = some answer)
    (obtained : obtainedIndex? answer = some (job, indexId)) :
    IndexMarked dispatcher worker job (steps ++ [step])
      ((indexingPool dispatcher worker).after step) := by
  obtain ⟨thread, task, request, choice, reply, found, after⟩ := answer
  cases request with
  | dispatch call => cases obtained
  | work call =>
      cases call with
      | createOrGetIndex asked =>
          cases reply with
          | error error => cases obtained
          | ok returned =>
              cases obtained
              obtain ⟨called, ⟨rest, stands⟩, same, responds⟩ :=
                PoolSystem.answer?_eq_some_iff.mp answered
              simp only at called stands same responds
              have next : (indexingPool dispatcher worker).after step =
                  ⟨after, Function.update step.before.threads thread
                    (some ⟨task, rest (.ok indexId)⟩)⟩ := by
                simp only [PoolSystem.after, PoolSystem.next?, called, stands, responds]
                rfl
              obtain ⟨phase, tracked, keeps, _⟩ := conforms_of_indexing run stands
              have agrees := (agrees_of_run run idle unburdened).2 thread phase tracked
              have later := agrees.next keeps.1 responds
              have moved := PoolSystem.tracked_of_answer answered tracked
              cases phase with
              | dispatch phase => cases keeps.1
              | work phase =>
                  have held := created_of_respond responds
                  obtain ⟨stamp, rfl, created⟩ := held
                  obtain ⟨row, stored, named⟩ := find?_of_createOrGetIndex created
                  have key := RowTable.key_of_find? stored
                  have here : row.workspaceId = job.workspaceId :=
                    congrArg Prod.fst key
                  rw [next]
                  refine ⟨row, stored, .inr ⟨thread, _, by simp, moved, ?_⟩⟩
                  cases phase with
                  | creating own =>
                      obtain rfl : job = own := keeps.1
                      exact ⟨here.symm, named.symm⟩
                  | holding own held =>
                      obtain rfl : job = own := keeps.1
                      have target : indexId = held := later.target _ _ _ rfl
                      exact ⟨here.symm, target.symm.trans named.symm⟩
                  | _ => cases keeps.1
      | _ => cases obtained

/-- A row that has failed or is owed stays so while attempts fail. -/
theorem marked_of_step {after : IndexingState}
    {event : PoolEvent IndexingTask IndexingChoice Empty}
    (run : (indexingPool dispatcher worker).Run start steps before)
    (idle : start.queue = []) (unburdened : start.dead = []) (primary : start.IdsUnique)
    (fail : AttemptsFail dispatcher worker job.version (steps ++ [⟨event, before⟩]))
    (moves : (indexingPool dispatcher worker).Moves before event after)
    (marked : IndexMarked dispatcher worker job steps before) :
    IndexMarked dispatcher worker job (steps ++ [⟨event, before⟩]) after := by
  obtain ⟨row, found, marked⟩ := marked
  have unique := idsUnique_of_run run primary
  have own : row.version = job.version :=
    congrArg (fun key => (key.1, key.2.1)) (RowTable.key_of_find? found)
  have agrees {thread : Nat} {phase : WorkPhase}
      (tracked : indexingPhase dispatcher worker thread steps = some (.work phase)) :
      phase.Agrees worker before.world :=
    (agrees_of_run run idle unburdened).2 thread (.work phase) tracked
  have member : (⟨event, before⟩ : IndexingStep) ∈ steps ++ [⟨event, before⟩] := by simp
  cases moves with
  | @start started task world vacant launched =>
      obtain rfl := world_of_launched launched
      refine ⟨row, found, marked.imp id ?_⟩
      rintro ⟨thread, phase, runs, tracked, owes⟩
      have other : thread ≠ started := by
        rintro rfl
        rw [vacant] at runs
        cases runs
      refine ⟨thread, phase, by simpa [Function.update_apply, other] using runs, ?_, owes⟩
      rw [indexingPhase, PoolSystem.tracked_of_other _ nofun]
      · exact tracked
      · rintro task same
        cases same
        exact other rfl
  | @stop stopping stopped stands =>
      refine ⟨row, found, marked.imp id ?_⟩
      rintro ⟨thread, phase, runs, tracked, owes⟩
      have other : thread ≠ stopping := by
        rintro rfl
        obtain ⟨current, reached, conforms, fits⟩ := conforms_of_indexing run stands
        rw [tracked, Option.some.injEq] at reached
        subst reached
        obtain ⟨task, rest⟩ := stopped
        have attempts := fits.attempts
          ((version_of_owes unique (agrees tracked) found owes).trans own)
        obtain ⟨result, rfl⟩ := fail.returned _ member thread task rest rfl stands attempts
        exact owes_of_ended conforms owes
      refine ⟨thread, phase, by simpa [Function.update_apply, other] using runs, ?_, owes⟩
      rw [indexingPhase, PoolSystem.tracked_of_other nofun nofun]
      exact tracked
  | @outside event world happens => exact event.elim
  | @call caller choice task request rest reply world stands answered =>
      have answer := PoolSystem.answer?_of_call (indexingPool dispatcher worker) stands answered
      obtain ⟨current, reached, keeps, fits⟩ := conforms_of_indexing run stands
      have moved := PoolSystem.tracked_of_answer answer reached
      have others {thread : Nat} {phase : IndexingPhase} (different : thread ≠ caller)
          (tracked : indexingPhase dispatcher worker thread steps = some phase) :
          indexingPhase dispatcher worker thread
            (steps ++ [⟨.call caller choice, before⟩]) = some phase := by
        rw [indexingPhase, PoolSystem.tracked_of_other nofun]
        · exact tracked
        · rintro choice event
          cases event
          exact different rfl
      cases request with
      | dispatch call =>
          have stored : world.indexes.find? (KnowledgeWorld.indexKey worker job) =
              some row := by
            rw [indexes_respondDispatch answered]
            exact found
          refine ⟨row, stored, marked.imp id ?_⟩
          rintro ⟨thread, phase, runs, tracked, owes⟩
          have different : thread ≠ caller := by
            rintro rfl
            rw [tracked, Option.some.injEq] at reached
            subst reached
            cases keeps.1
          exact ⟨thread, phase, by simpa [Function.update_apply, different] using runs,
            others different tracked, owes⟩
      | work call =>
          cases current with
          | dispatch phase => cases keeps.1
          | work phase =>
              have attempts (works : phase.job.version = row.version) :
                  task.Attempts job.version :=
                fits.attempts (works.trans own)
              obtain ⟨later, stored, id, here, status⟩ := row_of_respondWork unique
                (agrees reached) keeps.1 answered
                (fun works => fail.never_ready _ member _ answer (attempts works)) found
              refine ⟨later, stored, ?_⟩
              rw [id, here]
              rcases status with kept | failed | owes
              · rcases marked with failed | ⟨thread, owing, runs, tracked, owes⟩
                · exact .inl (kept.trans failed)
                · by_cases same : thread = caller
                  · subst same
                    rw [tracked, Option.some.injEq, IndexingPhase.work.injEq] at reached
                    subst reached
                    have works := version_of_owes unique (agrees tracked) found owes
                    rcases owes_of_respondWork keeps.1 answered
                        (fail.never_ready _ member _ answer (attempts works))
                        (fail.recorded _ member _ answer (attempts works)) found
                        owes with still | ⟨again, stored', _, _, failed⟩
                    · exact .inr ⟨thread, _, by simp, moved, still⟩
                    · rw [stored, Option.some.injEq] at stored'
                      rw [← stored'] at failed
                      exact .inl failed
                  · exact .inr ⟨thread, owing,
                      by simpa [Function.update_apply, same] using runs,
                      others same tracked, owes⟩
              · exact .inl failed
              · exact .inr ⟨caller, _, by simp, moved, owes⟩

/-- While attempts fail, the row that one of them got has failed or is owed. -/
theorem marked_of_obtained (run : (indexingPool dispatcher worker).Run start steps final)
    (idle : start.queue = []) (unburdened : start.dead = []) (primary : start.IdsUnique)
    (fail : AttemptsFail dispatcher worker job.version steps) (member : step ∈ steps)
    (answered : (indexingPool dispatcher worker).answer? step = some answer)
    (obtained : obtainedIndex? answer = some (job, indexId)) :
    IndexMarked dispatcher worker job steps final := by
  induction run with
  | nil => cases member
  | @step steps state run last found permitted induction =>
      subst found
      rcases List.mem_append.mp member with earlier | last
      · exact marked_of_step run idle unburdened primary fail
          (PoolSystem.moves_of_allowed permitted) (induction fail.init earlier)
      · obtain rfl := List.mem_singleton.mp last
        exact marked_of_obtained_last run idle unburdened answered obtained

/-! ## Failed intents -/

/-- The intent has failed. -/
def KnowledgeOutbox.FailedAt (outbox : KnowledgeOutbox) (outboxId : Uuid) : Prop :=
  ∃ row, outbox.table.find? outboxId = some row ∧ row.status = .failed

/-- Dispatchers and workers leave a failed intent. -/
theorem failedAt_respond {world after : KnowledgeWorld} {choice : IndexingChoice}
    {request : IndexingCall} {reply : Except Exn request.Ret} {outboxId : Uuid}
    (failed : world.outbox.FailedAt outboxId)
    (responds : KnowledgeWorld.respond worker choice world request = some (reply, after)) :
    after.outbox.FailedAt outboxId := by
  obtain ⟨row, found, status⟩ := failed
  have here : world.outbox.FailedAt outboxId := ⟨row, found, status⟩
  have kept := @KnowledgeWorld.settle_keeps world after choice
    fun later => later.outbox.FailedAt outboxId
  cases request with
  | dispatch call =>
      cases call with
      | claimDue limit leaseSeconds =>
          refine kept responds here fun stamp locked => ?_
          rcases KnowledgeOutbox.claimDue_cases world.outbox stamp locked limit
              leaseSeconds outboxId with ⟨taken, present, due, _⟩ | ⟨_, same⟩
          · rw [found, Option.some.injEq] at present
            subst present
            simp [KnowledgeOutboxRow.due, status] at due
          · exact ⟨row, same.trans found, status⟩
      | enqueue item => exact kept responds here fun _ _ => here
      | markPublished marked =>
          refine kept responds here fun _ _ => ⟨row, ?_, status⟩
          rw [KnowledgeOutbox.find?_markPublished]
          split_ifs with same
          · subst same
            rw [found, Option.map_some, if_neg (by simp [status])]
          · exact found
      | reschedule marked attempts maxAttempts baseBackoffSeconds =>
          refine kept responds here fun _ _ => ⟨row, ?_, status⟩
          rw [KnowledgeOutbox.find?_reschedule]
          by_cases same : outboxId = marked
          · rw [if_pos same, ← same, found, Option.map_some, if_neg (by simp [status])]
          · rw [if_neg same, found]
  | work call =>
      cases call with
      | recordConsumerFailure marked terminal =>
          refine kept responds here fun _ _ => ?_
          have written := @KnowledgeOutbox.find?_recordConsumerFailure world.outbox marked
            terminal outboxId
          by_cases same : outboxId = marked
          · rw [if_pos same, ← same, found, Option.map_some,
              if_pos (.inr status)] at written
            rw [← same]
            exact ⟨_, written, by cases terminal <;> [exact status; rfl]⟩
          · rw [if_neg same, found] at written
            exact ⟨row, written, status⟩
      | loadIndexInputs asked =>
          cases choice <;> cases responds <;> exact ⟨row, found, status⟩
      | createOrGetIndex asked =>
          refine kept responds here fun stamp _ => ?_
          rw [outbox_createOrGetIndex]
          exact ⟨row, found, status⟩
      | publish route published =>
          refine kept responds here fun _ _ => ?_
          cases route <;> exact ⟨row, found, status⟩
      | openDatabase | markIndexing workspaceId marked | embedChunks
      | replaceChunks workspaceId marked | markReady workspaceId marked
      | markFailed workspaceId marked | clearConsumerError marked | ack acked
      | closeConnection => exact kept responds here fun _ _ => here

/-- A last failure that was noted stays noted. -/
theorem failedAt_of_noted (run : (indexingPool dispatcher worker).Run start steps final)
    (member : step ∈ steps)
    (answered : (indexingPool dispatcher worker).answer? step = some answer)
    {outboxId : Uuid} (noted : notedFailure? answer = some outboxId) :
    final.world.outbox.FailedAt outboxId := by
  induction run with
  | nil => cases member
  | @step steps state run last found permitted induction =>
      rcases List.mem_append.mp member with earlier | new
      · have failed := induction earlier
        rw [← found] at failed
        exact kept_of_moves (fun world => world.outbox.FailedAt outboxId)
          (PoolSystem.moves_of_allowed permitted)
          (fun _ _ _ _ responds => failedAt_respond failed responds) failed
      · obtain rfl := List.mem_singleton.mp new
        rw [PoolSystem.world_after_of_answer answered]
        obtain ⟨called, ⟨rest, stands⟩, same, responds⟩ :=
          PoolSystem.answer?_eq_some_iff.mp answered
        obtain ⟨thread, task, request, choice, reply, before, after⟩ := answer
        simp only at called stands same responds
        cases request with
        | dispatch call => cases noted
        | work call =>
            cases call with
            | recordConsumerFailure marked terminal =>
                cases terminal with
                | false => cases noted
                | true =>
                    cases reply with
                    | error error => cases noted
                    | ok _ =>
                        simp only [notedFailure?] at noted
                        split_ifs at noted with past
                        cases noted
                        obtain ⟨row, stored, status⟩ := Option.any_eq_true _ _ |>.mp past
                        rw [same] at stored
                        rcases KnowledgeWorld.settle_cases responds with
                          ⟨_, _, rfl, _⟩ | ⟨_, _, raised⟩
                        · have written := @KnowledgeOutbox.find?_recordConsumerFailure
                            step.before.world.outbox outboxId true outboxId
                          rw [if_pos rfl, stored, Option.map_some,
                            if_pos (by simpa using status)] at written
                          exact ⟨_, written, rfl⟩
                        · cases raised
            | _ => cases noted

/-- A job whose failure was noted is found by `retry_failed` once its attempts have
failed. -/
theorem dead_letters_recoverable (dispatcher : KnowledgeOutboxDispatcher)
    (worker : KnowledgeIndexWorker) {start : KnowledgeWorld} {steps : List IndexingStep}
    {final : IndexingState}
    (run : (indexingPool dispatcher worker).Run start steps final)
    (idle : start.queue = []) (unburdened : start.dead = []) (primary : start.IdsUnique)
    (noted : ∀ job ∈ final.world.dead, FailureNoted dispatcher worker steps job) :
    DeadLettersRecoverable dispatcher worker steps final := by
  intro job dead fail done
  obtain ⟨step, member, answer, answered, indexed | recorded⟩ := noted job dead
  · obtain ⟨earlier, indexId, obtained, version⟩ := indexed
    rw [← version] at fail
    obtain ⟨row, found, failed | owed⟩ :=
      marked_of_obtained run idle unburdened primary fail member answered obtained
    · have key := RowTable.key_of_find? found
      have here : row.workspaceId = earlier.workspaceId := congrArg Prod.fst key
      have own : row.contractVersionId = earlier.contractVersionId :=
        congrArg (fun key => key.2.1) key
      refine ⟨row.contractId, List.mem_append_left _ (List.mem_map.mpr ⟨row, ?_, ?_⟩)⟩
      · exact List.mem_filter.mpr ⟨RowTable.mem_of_find? found, by simp [failed]⟩
      · rw [here, own]
        have workspace : earlier.workspaceId = job.workspaceId := congrArg Prod.fst version
        have same : earlier.contractVersionId = job.contractVersionId :=
          congrArg Prod.snd version
        rw [workspace, same]
    · obtain ⟨thread, phase, runs, tracked, owes⟩ := owed
      obtain ⟨⟨task, rest⟩, stands⟩ := Option.isSome_iff_exists.mp runs
      obtain ⟨current, reached, conforms, fits⟩ := conforms_of_indexing run stands
      rw [tracked, Option.some.injEq] at reached
      subst reached
      have own : row.version = earlier.version :=
        congrArg (fun key => (key.1, key.2.1)) (RowTable.key_of_find? found)
      have agrees := (agrees_of_run run idle unburdened).2 thread _ tracked
      have works := version_of_owes (idsUnique_of_run run primary) agrees found owes
      obtain ⟨result, rfl⟩ := done thread task rest stands
        (fits.attempts ((works.trans own).trans version))
      exact (owes_of_ended conforms owes).elim
  · obtain ⟨outboxId, noted, own⟩ := recorded
    obtain ⟨row, found, status⟩ := failedAt_of_noted run member answered noted
    obtain ⟨named, stored, version⟩ :=
      (agrees_of_run run idle unburdened).1 job (.inr dead) outboxId own
    rw [found, Option.some.injEq] at stored
    subst stored
    refine ⟨row.contractId, List.mem_append_right _ (List.mem_map.mpr ⟨row, ?_, ?_⟩)⟩
    · exact List.mem_filter.mpr ⟨RowTable.mem_of_find? found, by simp [status]⟩
    · have workspace : row.workspaceId = job.workspaceId := congrArg Prod.fst version
      have same : row.contractVersionId = job.contractVersionId :=
        congrArg Prod.snd version
      rw [workspace, same]

end Attempts

/-! ## A last failure that comes early -/

section Sample

variable {dispatcher : KnowledgeOutboxDispatcher} {worker : KnowledgeIndexWorker}
  {start : KnowledgeWorld} {steps : List IndexingStep} {final : IndexingState}

/-- The program of a thread has returned. -/
def indexingReturned :
    PoolThread IndexingTask IndexingCall IndexingCall.Ret Exn Unit → Bool
  | ⟨_, .done _⟩ => true
  | _ => false

instance (version : String × Uuid) (task : IndexingTask) :
    Decidable (task.Attempts version) :=
  match task with
  | .drain _ => inferInstanceAs (Decidable False)
  | .handle job => inferInstanceAs (Decidable (job.version = version))

/-- What a run can check of `AttemptsFail`. -/
def attemptFails (dispatcher : KnowledgeOutboxDispatcher) (worker : KnowledgeIndexWorker)
    (version : String × Uuid) (step : IndexingStep) : Bool :=
  (((indexingPool dispatcher worker).answer? step).all fun answer =>
    !decide (answer.task.Attempts version) ||
      (!indexReady answer && !recordLost answer)) &&
  match step.event with
  | .stop thread => (step.before.threads thread).all indexingReturned
  | _ => true

/-- The threads that a run has started have returned. -/
def startedReturned (steps : List IndexingStep) (final : IndexingState) : Bool :=
  steps.all fun step =>
    match step.event with
    | .start thread _ => (final.threads thread).all indexingReturned
    | _ => true

/-- The last failure of a job is among the steps. -/
def failureNoted (dispatcher : KnowledgeOutboxDispatcher) (worker : KnowledgeIndexWorker)
    (steps : List IndexingStep) (job : IndexJob) : Bool :=
  steps.any fun step =>
    ((indexingPool dispatcher worker).answer? step).any fun answer =>
      (notedFailure? answer).any fun outboxId => job.outboxId = some outboxId

theorem done_of_indexingReturned
    {thread : PoolThread IndexingTask IndexingCall IndexingCall.Ret Exn Unit}
    (returned : indexingReturned thread = true) :
    ∃ result, thread.rest = .done result := by
  obtain ⟨task, rest⟩ := thread
  cases rest with
  | done result => exact ⟨result, rfl⟩
  | call request next => cases returned

theorem attemptsFail_of_check {version : String × Uuid}
    (fails : steps.all (attemptFails dispatcher worker version) = true) :
    AttemptsFail dispatcher worker version steps := by
  have each {step : IndexingStep} (member : step ∈ steps) :=
    Bool.and_eq_true_iff.mp (List.all_eq_true.mp fails step member)
  have checked {step : IndexingStep} (member : step ∈ steps) {answer : IndexingAnswer}
      (answered : (indexingPool dispatcher worker).answer? step = some answer)
      (attempts : answer.task.Attempts version) :
      indexReady answer = false ∧ recordLost answer = false := by
    have passed := (each member).1
    rw [answered, Option.all_some] at passed
    simpa [attempts] using passed
  constructor
  · intro step member answer answered attempts
    exact (checked member answered attempts).1
  · intro step member answer answered attempts
    exact (checked member answered attempts).2
  · intro step member thread task rest stopped stands _
    have checked := (each member).2
    rw [stopped] at checked
    simp only [stands, Option.all_some] at checked
    exact done_of_indexingReturned checked

/-- A thread that stands was started. -/
theorem started_of_run (run : (indexingPool dispatcher worker).Run start steps final)
    {thread : Nat}
    {standing : PoolThread IndexingTask IndexingCall IndexingCall.Ret Exn Unit}
    (stands : final.threads thread = some standing) :
    ∃ step ∈ steps, ∃ task, step.event = .start thread task := by
  induction run generalizing standing with
  | nil => cases stands
  | @step steps state run last found permitted induction =>
      subst found
      have moves := PoolSystem.moves_of_allowed permitted
      generalize (indexingPool dispatcher worker).after last = next at stands moves
      obtain ⟨event, before⟩ := last
      have earlier {standing}
          (stood : before.threads thread = some standing) :
          ∃ step ∈ steps ++ [⟨event, before⟩], ∃ task, step.event = .start thread task := by
        obtain ⟨step, member, task, same⟩ := induction stood
        exact ⟨step, List.mem_append_left _ member, task, same⟩
      cases moves with
      | @start started task world vacant launched =>
          by_cases same : thread = started
          · exact ⟨_, List.mem_append_right _ (List.mem_singleton.mpr rfl), task,
              by rw [same]⟩
          · exact earlier (by simpa [Function.update_apply, same] using stands)
      | @call caller choice task request rest reply world stood responds =>
          by_cases same : thread = caller
          · exact earlier (same ▸ stood)
          · exact earlier (by simpa [Function.update_apply, same] using stands)
      | @stop stopping stopped stood =>
          by_cases same : thread = stopping
          · simp [same] at stands
          · exact earlier (by simpa [Function.update_apply, same] using stands)
      | @outside event world happens => exact event.elim

theorem handlersDone_of_check {version : String × Uuid}
    (run : (indexingPool dispatcher worker).Run start steps final)
    (returned : startedReturned steps final = true) : HandlersDone version final := by
  intro thread task rest stands _
  obtain ⟨step, member, _, started⟩ := started_of_run run stands
  have checked := List.all_eq_true.mp returned step member
  simp only [started, stands, Option.all_some] at checked
  exact done_of_indexingReturned checked

theorem failureNoted_of_check {job : IndexJob}
    (noted : failureNoted dispatcher worker steps job = true) :
    FailureNoted dispatcher worker steps job := by
  obtain ⟨step, member, noted⟩ := List.any_eq_true.mp noted
  obtain ⟨answer, answered, noted⟩ := Option.any_eq_true _ _ |>.mp noted
  obtain ⟨outboxId, noted, own⟩ := Option.any_eq_true _ _ |>.mp noted
  exact ⟨step, member, answer, answered, .inr ⟨outboxId, noted, of_decide_eq_true own⟩⟩

/-- Another intent, as `finalize_contract_review` inserts it. -/
def KnowledgeWorld.intend (world : KnowledgeWorld) (stamp : Stamp)
    (contractId contractVersionId : Uuid) : KnowledgeWorld :=
  match world.outbox.enqueueIntent stamp "inbox" contractId contractVersionId false with
  | .ok (_, outbox) => { world with outbox }
  | .error _ => world

def intendedWorld : KnowledgeWorld :=
  KnowledgeWorld.intend default ⟨0, 0⟩ ⟨90, 0⟩ ⟨90, 1⟩

example : (intendedWorld.outbox.intent? ("inbox", ⟨90, 1⟩)).map (·.status) =
    some .pending := by
  decide

/-- Two versions of one workspace. -/
def pairedWorld : KnowledgeWorld :=
  intendedWorld.intend ⟨0, 10⟩ ⟨91, 0⟩ ⟨91, 1⟩

def intendedJob : IndexJob :=
  KnowledgeWorld.jobOf ⟨2, 2⟩ ⟨⟨0, 0⟩, "inbox", ⟨90, 0⟩, ⟨90, 1⟩, 1⟩

def pairedJob : IndexJob :=
  KnowledgeWorld.jobOf ⟨8, 8⟩ ⟨⟨10, 0⟩, "inbox", ⟨91, 0⟩, ⟨91, 1⟩, 1⟩

/-- The only attempt fails before it has an index row, and gives up. -/
def lastAttempt : List (PoolEvent IndexingTask IndexingChoice Empty) :=
  [.start 1 (.handle intendedJob),
    .call 1 (.proceed ⟨3, 3⟩ []),
    .call 1 (.raised (Exn.runtimeError "Contract version is not indexable")),
    .call 1 (.proceed ⟨4, 4⟩ []),
    .call 1 (.proceed ⟨5, 5⟩ []),
    .call 1 (.proceed ⟨6, 6⟩ []),
    .call 1 (.proceed ⟨7, 7⟩ [])]

/-- The dispatcher claims the intents and publishes the first job. -/
def indexPublication : List (PoolEvent IndexingTask IndexingChoice Empty) :=
  [.start 0 (.drain 25),
    .call 0 (.proceed ⟨1, 1⟩ []),
    .call 0 (.proceed ⟨2, 2⟩ [])]

def indexMarking : List (PoolEvent IndexingTask IndexingChoice Empty) :=
  [.call 0 (.proceed ⟨8, 8⟩ [])]

/-- The dispatcher goes on with the second intent, and its version is indexed. -/
def pairedAttempt : List (PoolEvent IndexingTask IndexingChoice Empty) :=
  [.call 0 (.proceed ⟨8, 8⟩ []),
    .call 0 (.proceed ⟨9, 9⟩ []),
    .start 2 (.handle pairedJob),
    .call 2 (.proceed ⟨10, 10⟩ []),
    .call 2 (.found true),
    .call 2 (.proceed ⟨11, 11⟩ []),
    .call 2 (.proceed ⟨12, 12⟩ []),
    .call 2 (.proceed ⟨13, 13⟩ []),
    .call 2 (.proceed ⟨14, 14⟩ []),
    .call 2 (.proceed ⟨15, 15⟩ []),
    .call 2 (.proceed ⟨16, 16⟩ []),
    .call 2 (.proceed ⟨17, 17⟩ []),
    .call 2 (.proceed ⟨18, 18⟩ []),
    .call 2 (.proceed ⟨19, 19⟩ []),
    .call 2 (.proceed ⟨20, 20⟩ [])]

def sampleIndexer : KnowledgeIndexWorker := ⟨"bge-small", "v1", 1⟩

def sampleIndexing (world : KnowledgeWorld)
    (events : List (PoolEvent IndexingTask IndexingChoice Empty)) :
    Option (List IndexingStep × IndexingState) :=
  (indexingPool sampleDispatcher sampleIndexer).extend [] { world } events

theorem orderlyIndexing_isSome :
    (sampleIndexing pairedWorld
      (indexPublication ++ indexMarking ++ pairedAttempt ++ lastAttempt)).isSome := by
  decide

theorem hastyIndexing_isSome :
    (sampleIndexing intendedWorld
      (indexPublication ++ lastAttempt ++ indexMarking)).isSome := by
  decide

/-- The intent is marked before the last attempt, and the other version is indexed. -/
def orderlyIndexing : List IndexingStep × IndexingState :=
  (sampleIndexing pairedWorld
    (indexPublication ++ indexMarking ++ pairedAttempt ++ lastAttempt)).get
      orderlyIndexing_isSome

/-- The last attempt comes before the intent is marked. -/
def hastyIndexing : List IndexingStep × IndexingState :=
  (sampleIndexing intendedWorld (indexPublication ++ lastAttempt ++ indexMarking)).get
    hastyIndexing_isSome

theorem orderlyIndexing_run :
    (indexingPool sampleDispatcher sampleIndexer).Run pairedWorld orderlyIndexing.1
      orderlyIndexing.2 :=
  PoolSystem.run_of_extend .nil (Option.some_get orderlyIndexing_isSome).symm

theorem hastyIndexing_run :
    (indexingPool sampleDispatcher sampleIndexer).Run intendedWorld hastyIndexing.1
      hastyIndexing.2 :=
  PoolSystem.run_of_extend .nil (Option.some_get hastyIndexing_isSome).symm

/-- The failed version is recovered although the other one is ready. -/
theorem dead_letters_recoverable_sample :
    orderlyIndexing.2.world.dead = [intendedJob] ∧
      (orderlyIndexing.2.world.indexes.rows.map fun row => (row.version, row.status)) =
        [(pairedJob.version, .ready)] ∧
      orderlyIndexing.2.world.Recoverable intendedJob := by
  have dead : orderlyIndexing.2.world.dead = [intendedJob] := by decide
  have noted : ∀ job ∈ orderlyIndexing.2.world.dead,
      FailureNoted sampleDispatcher sampleIndexer orderlyIndexing.1 job := by
    rw [dead]
    intro job member
    obtain rfl := List.mem_singleton.mp member
    exact failureNoted_of_check (by decide)
  have recovers := dead_letters_recoverable sampleDispatcher sampleIndexer
    orderlyIndexing_run (by decide) (by decide) (by decide) noted intendedJob
    (by simp [dead]) (attemptsFail_of_check (by decide))
    (handlersDone_of_check orderlyIndexing_run (by decide))
  exact ⟨dead, by decide, recovers⟩

/-- A last failure that comes before `mark_published` is not found again. -/
theorem early_failure_unrecoverable :
    ¬ ∀ (dispatcher : KnowledgeOutboxDispatcher) (worker : KnowledgeIndexWorker)
        (start : KnowledgeWorld) (steps : List IndexingStep) (final : IndexingState),
      (indexingPool dispatcher worker).Run start steps final → start.queue = [] →
        start.dead = [] → start.IdsUnique →
          DeadLettersRecoverable dispatcher worker steps final := by
  intro recoverable
  have dead : intendedJob ∈ hastyIndexing.2.world.dead := by decide
  have selected : hastyIndexing.2.world.retrySelection = [] := by decide
  obtain ⟨contractId, found⟩ := recoverable _ _ _ _ _ hastyIndexing_run
    (by decide) (by decide) (by decide) intendedJob dead
    (attemptsFail_of_check (by decide))
    (handlersDone_of_check hastyIndexing_run (by decide))
  rw [selected] at found
  cases found

end Sample

end ContractMate
