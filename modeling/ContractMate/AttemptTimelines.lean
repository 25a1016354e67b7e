import ContractMate.PythonText
import ContractMate.ReviewDatabase
import ContractMate.RowWrites

/-!
# Timelines of processing runs

`mark_worker_started`, `record_attempt_failure`, `mark_succeeded` and `mark_failed` by
several workers at once.  A call reads the metadata of a run, changes it and writes it back
by an update that checks only the status of the run.
-/

namespace ContractMate

namespace AttemptTimelines

open ReadCommitted TransactionBlock PythonText

/-- An entry of `attempt_history`, and the number of the call that has appended it. -/
structure AttemptEntry where
  attempt : Nat
  startedAt : String
  completedAt : Option String := none
  outcome : Option String := none
  failedAt : Option String := none
  failureStage : Option String := none
  failureError : Option Text := none
  terminal : Option Bool := none
  call : Nat
deriving DecidableEq, Repr

/-- `metadata_json`; other keys are kept as they are. -/
structure RunMetadata where
  attemptCount : Option Nat := none
  attemptHistory : Option (List AttemptEntry) := none
  others : String := "\x7b\x7d"
deriving DecidableEq, Repr

/-- `contract_processing_runs`, without the columns that the calls leave. -/
structure RunRow where
  id : Uuid
  status : ProcessingRunStatus := .queued
  outcome : Option String := none
  workerStartedAt : Option Int := none
  completedAt : Option Int := none
  failureStage : Option String := none
  failureError : Option Text := none
  metadata : RunMetadata := {}
  updatedAt : Int := 0
deriving DecidableEq, Repr

/-- The four calls, with their arguments and the timestamps that they put into the
metadata. -/
inductive TimelineOperation where
  | workerStarted (startedAt : String)
  | attemptFailure (startedAt failedAt : String) (stage : String) (error : Text)
  | succeeded (completedAt : String) (outcome : String)
  | failed (startedAt failedAt : String) (stage : String) (error : Text) (outcome : String)
deriving DecidableEq, Repr

/-- A call on a run, by its number, and `CURRENT_TIMESTAMP` of its transaction. -/
structure TimelineRequest where
  call : Nat
  runId : Uuid
  operation : TimelineOperation
  now : Int := 0
deriving DecidableEq, Repr

/-- The columns that an update sets besides `metadata_json` and `updated_at`. -/
inductive RunUpdate where
  | started
  | retrying
  | succeeded (outcome : String)
  | failed (outcome stage : String) (error : Text)
deriving DecidableEq, Repr

inductive TimelineCall where
  /-- `SELECT status, metadata_json … WHERE id = ?` -/
  | selectRun (runId : Uuid)
  /-- `UPDATE … WHERE id = ? AND status IN ('queued', 'running')` -/
  | updateRun (runId : Uuid) (update : RunUpdate) (metadata : RunMetadata) (now : Int)
deriving DecidableEq, Repr

/-- The update reports the number of its rows. -/
def TimelineCall.Ret : TimelineCall → Type
  | selectRun _ => Option (ProcessingRunStatus × RunMetadata)
  | updateRun _ _ _ _ => Nat

abbrev TimelineBody := Prog TimelineCall TimelineCall.Ret Exn

abbrev TimelineProg := Prog (BlockCall TimelineCall) (BlockCall.Reply TimelineCall.Ret) Exn

/-! ## Metadata -/

/-- `_attempt_history`. -/
def RunMetadata.history (metadata : RunMetadata) : List AttemptEntry :=
  metadata.attemptHistory.getD []

/-- `history[-1]` changed. -/
def updateLatest (change : AttemptEntry → AttemptEntry) (history : List AttemptEntry) :
    List AttemptEntry :=
  history.modify (history.length - 1) change

/-- `latest.update(…)` of the failures. -/
def AttemptEntry.failing (failedAt stage : String) (error : Text) (terminal : Bool)
    (latest : AttemptEntry) : AttemptEntry :=
  { latest with
    failedAt := some failedAt
    failureStage := some stage
    failureError := some (error.take 4000)
    terminal := some terminal }

/-- `history[-1].update(…)` of `mark_succeeded`. -/
def AttemptEntry.completing (completedAt outcome : String) (latest : AttemptEntry) :
    AttemptEntry :=
  { latest with completedAt := some completedAt, outcome := some outcome }

/-- What `mark_worker_started` makes of the metadata. -/
def startAttempt (call : Nat) (startedAt : String) (metadata : RunMetadata) : RunMetadata :=
  let attempt := metadata.history.length + 1
  { metadata with
    attemptCount := some attempt
    attemptHistory := some (metadata.history ++ [{ attempt, startedAt, call }]) }

/-- What `record_attempt_failure` and `mark_failed` make of the metadata. -/
def failAttempt (call : Nat) (startedAt failedAt stage : String) (error : Text)
    (terminal : Bool) (metadata : RunMetadata) : RunMetadata :=
  let started :=
    if metadata.history = [] then [{ attempt := 1, startedAt, call }] else metadata.history
  let history := updateLatest (AttemptEntry.failing failedAt stage error terminal) started
  { metadata with attemptCount := some history.length, attemptHistory := some history }

/-- What `mark_succeeded` makes of the metadata. -/
def completeAttempt (completedAt outcome : String) (metadata : RunMetadata) : RunMetadata :=
  if metadata.history = [] then metadata
  else
    { metadata with
      attemptHistory :=
        some (updateLatest (AttemptEntry.completing completedAt outcome) metadata.history) }

/-! ## The calls -/

def selectRun (runId : Uuid) : TimelineBody (Option (ProcessingRunStatus × RunMetadata)) :=
  Prog.perform (TimelineCall.selectRun runId)

def updateRun (runId : Uuid) (update : RunUpdate) (metadata : RunMetadata) (now : Int) :
    TimelineBody Nat :=
  Prog.perform (TimelineCall.updateRun runId update metadata now)

/-- `status IN ('queued', 'running')` -/
def active (status : ProcessingRunStatus) : Bool :=
  status = .queued || status = .running

def writeMetadata (runId : Uuid) (update : RunUpdate) (metadata : RunMetadata) (now : Int) :
    TimelineBody Bool := do
  let updated ← updateRun runId update metadata now
  pure (updated == 1)

/-- What the calls make of the row that they read. -/
def rewriteFound (runId : Uuid) (rewrite : RunMetadata → RunMetadata) (update : RunUpdate)
    (now : Int) : Option (ProcessingRunStatus × RunMetadata) → TimelineBody Bool
  | none => pure false
  | some (status, metadata) =>
      if active status then writeMetadata runId update (rewrite metadata) now else pure false

/-- The block that the calls have in common. -/
def rewriteRun (runId : Uuid) (rewrite : RunMetadata → RunMetadata) (update : RunUpdate)
    (now : Int) : TimelineBody Bool := do
  let row ← selectRun runId
  rewriteFound runId rewrite update now row

def markWorkerStarted (call : Nat) (runId : Uuid) (startedAt : String) (now : Int) :
    TimelineProg Bool :=
  block (rewriteRun runId (startAttempt call startedAt) .started now)

def recordAttemptFailure (call : Nat) (runId : Uuid) (startedAt failedAt stage : String)
    (error : Text) (now : Int) : TimelineProg Bool :=
  block (rewriteRun runId (failAttempt call startedAt failedAt stage error false) .retrying now)

def markSucceeded (runId : Uuid) (completedAt outcome : String) (now : Int) :
    TimelineProg Bool :=
  block (rewriteRun runId (completeAttempt completedAt outcome) (.succeeded outcome) now)

def markFailed (call : Nat) (runId : Uuid) (startedAt failedAt stage : String) (error : Text)
    (outcome : String) (now : Int) : TimelineProg Bool :=
  block (rewriteRun runId (failAttempt call startedAt failedAt stage error true)
    (.failed outcome stage error) now)

namespace TimelineRequest

variable (request : TimelineRequest)

def perform : TimelineProg Bool :=
  match request.operation with
  | .workerStarted startedAt =>
      markWorkerStarted request.call request.runId startedAt request.now
  | .attemptFailure startedAt failedAt stage error =>
      recordAttemptFailure request.call request.runId startedAt failedAt stage error request.now
  | .succeeded completedAt outcome =>
      markSucceeded request.runId completedAt outcome request.now
  | .failed startedAt failedAt stage error outcome =>
      markFailed request.call request.runId startedAt failedAt stage error outcome request.now

/-- What the call makes of the metadata. -/
def rewrite : RunMetadata → RunMetadata :=
  match request.operation with
  | .workerStarted startedAt => startAttempt request.call startedAt
  | .attemptFailure startedAt failedAt stage error =>
      failAttempt request.call startedAt failedAt stage error false
  | .succeeded completedAt outcome => completeAttempt completedAt outcome
  | .failed startedAt failedAt stage error _ =>
      failAttempt request.call startedAt failedAt stage error true

def update : RunUpdate :=
  match request.operation with
  | .workerStarted _ => .started
  | .attemptFailure _ _ _ _ => .retrying
  | .succeeded _ outcome => .succeeded outcome
  | .failed _ _ stage error outcome => .failed outcome stage error

theorem perform_eq : request.perform =
    block (rewriteRun request.runId request.rewrite request.update request.now) := by
  unfold perform rewrite update
  cases request.operation <;> rfl

end TimelineRequest

/-! ## The table -/

/-- `contract_processing_runs` by its primary key. -/
abbrev Runs := RowTable RunRow.id

def RunUpdate.set (metadata : RunMetadata) (now : Int) (row : RunRow) : RunUpdate → RunRow
  | .started =>
      { row with
        status := .running
        workerStartedAt := row.workerStartedAt.or (some now)
        metadata
        updatedAt := now }
  | .retrying =>
      { row with
        status := .running
        outcome := none
        completedAt := none
        failureStage := none
        failureError := none
        metadata
        updatedAt := now }
  | .succeeded outcome =>
      { row with
        status := .succeeded
        outcome := some outcome
        completedAt := some now
        failureStage := none
        failureError := none
        metadata
        updatedAt := now }
  | .failed outcome stage error =>
      { row with
        status := .failed
        outcome := some outcome
        completedAt := some now
        failureStage := some stage
        failureError := some (error.take 4000)
        metadata
        updatedAt := now }

/-- The row that an update meets. -/
def activeRun? (store : Runs) (runId : Uuid) : Option RunRow :=
  (store.find? runId).filter fun row => active row.status

def timelineEngine : Engine TimelineCall TimelineCall.Ret Exn Runs RunRow Uuid where
  locks
    | store, .updateRun runId _ _ _ => if (activeRun? store runId).isSome then [runId] else []
    | _, .selectRun _ => []
  exec
    | store, .selectRun runId =>
        .ok ((store.find? runId).map fun row => (row.status, row.metadata), [])
    | store, .updateRun runId update metadata now =>
        match activeRun? store runId with
        | none => .ok ((0 : Nat), [])
        | some row => .ok ((1 : Nat), [update.set metadata now row])
  apply := RowTable.put

/-- Connections of the workers. -/
abbrev timelineSystem := timelineEngine.system TimelineRequest.perform

abbrev TimelineStep := PoolStep TimelineRequest (BlockCall TimelineCall)
  (BlockCall.Reply TimelineCall.Ret) Exn Bool (World Runs RunRow Uuid) (BlockChoice Exn) Empty

abbrev TimelineState := PoolState TimelineRequest (BlockCall TimelineCall)
  (BlockCall.Reply TimelineCall.Ret) Exn Bool (World Runs RunRow Uuid)

/-- Runs as `create_run` leaves them. -/
structure QueuedRuns where
  table : Runs
  queued : ∀ row ∈ table.rows, row.status = .queued ∧ row.metadata.attemptCount = none ∧
    row.metadata.attemptHistory = none

abbrev TimelineRun (queued : QueuedRuns) : List TimelineStep → TimelineState → Prop :=
  timelineSystem.Run { committed := queued.table }

/-! ## Timelines -/

/-- The attempts are numbered from one on, and counted. -/
structure RunMetadata.Numbered (metadata : RunMetadata) : Prop where
  numbers : metadata.history.map AttemptEntry.attempt = List.range' 1 metadata.history.length
  count : metadata.attemptCount.getD 0 = metadata.history.length

/-- Histories are numbered in all states, runs that have ended stay as they are, and every
call of `mark_worker_started` that has returned `True` has an entry of its own. -/
structure Timelines (steps : List TimelineStep) (final : TimelineState) : Prop where
  numbered : ∀ row ∈ final.world.committed.rows, row.metadata.Numbered
  ended : ∀ step ∈ steps, ∀ row ∈ step.before.world.committed.rows,
    active row.status = false → row ∈ final.world.committed.rows
  entered : ∀ step ∈ steps, ∀ request startedAt,
    PoolSystem.ended? step = some (request, .ok true) →
    request.operation = .workerStarted startedAt →
      ∃ row ∈ final.world.committed.rows, row.id = request.runId ∧
        ∃ entry ∈ row.metadata.history, entry.call = request.call ∧ entry.startedAt = startedAt

/-- An update writes what its call would make of the metadata that the update meets. -/
def RewritesMet (request : TimelineRequest) (store : Runs) : TimelineCall → Prop
  | .updateRun runId _ metadata _ =>
      ∀ row ∈ activeRun? store runId, metadata = request.rewrite row.metadata
  | .selectRun _ => True

instance (request : TimelineRequest) (store : Runs) :
    DecidablePred (RewritesMet request store) := by
  intro statement
  unfold RewritesMet
  split <;> infer_instance

/-- The same of an answered statement. -/
def MeetsRead
    (answer : PoolAnswer TimelineRequest (BlockCall TimelineCall)
      (BlockCall.Reply TimelineCall.Ret) Exn (World Runs RunRow Uuid) (BlockChoice Exn)) : Prop :=
  match answer.request, answer.choice with
  | .statement request, .executes =>
      RewritesMet answer.task (timelineEngine.view (answer.before.session answer.thread)) request
  | _, _ => True

instance : DecidablePred MeetsRead := by
  intro answer
  unfold MeetsRead
  split <;> infer_instance

/-- No update of a run of the system is based on metadata that has changed since. -/
abbrev NoneStale (steps : List TimelineStep) : Prop :=
  ∀ step ∈ steps, ∀ answer ∈ timelineSystem.answer? step, MeetsRead answer

/-! ## What calls make of the metadata -/

section Metadata

variable {metadata : RunMetadata} {request : TimelineRequest}

/-- Who has appended the entries, and when. -/
def RunMetadata.starts (metadata : RunMetadata) : List (Nat × String) :=
  metadata.history.map fun entry => (entry.call, entry.startedAt)

@[simp]
theorem history_some {count : Option Nat} {history : List AttemptEntry} {others : String} :
    RunMetadata.history ⟨count, some history, others⟩ = history :=
  rfl

/-- A column that the change of the latest entry leaves. -/
theorem map_updateLatest {Column : Type} (column : AttemptEntry → Column)
    (change : AttemptEntry → AttemptEntry) (kept : ∀ entry, column (change entry) = column entry)
    (history : List AttemptEntry) :
    (updateLatest change history).map column = history.map column := by
  apply List.ext_getElem?
  intro i
  simp only [updateLatest, List.getElem?_map, List.getElem?_modify]
  cases history[i]? with
  | none => rfl
  | some entry =>
      by_cases last : history.length - 1 = i <;> simp [last, kept]

@[simp]
theorem length_updateLatest (change : AttemptEntry → AttemptEntry)
    (history : List AttemptEntry) : (updateLatest change history).length = history.length := by
  simp [updateLatest]

theorem numbered_startAttempt (numbered : metadata.Numbered) (call : Nat) (startedAt : String) :
    (startAttempt call startedAt metadata).Numbered := by
  constructor
  · simp only [startAttempt, history_some, List.map_append, List.map_singleton,
      List.length_append, List.length_singleton]
    rw [List.range'_1_concat, numbered.numbers, Nat.add_comm 1]
  · simp [startAttempt]

theorem numbered_failAttempt (numbered : metadata.Numbered) (call : Nat)
    (startedAt failedAt stage : String) (error : Text) (terminal : Bool) :
    (failAttempt call startedAt failedAt stage error terminal metadata).Numbered := by
  constructor
  · simp only [failAttempt, history_some, length_updateLatest]
    rw [map_updateLatest AttemptEntry.attempt (.failing failedAt stage error terminal)
      fun _ => rfl]
    split
    · rfl
    · exact numbered.numbers
  · simp [failAttempt]

theorem numbered_completeAttempt (numbered : metadata.Numbered) (completedAt outcome : String) :
    (completeAttempt completedAt outcome metadata).Numbered := by
  unfold completeAttempt
  split
  · exact numbered
  · constructor
    · simp only [history_some, length_updateLatest]
      rw [map_updateLatest AttemptEntry.attempt (.completing completedAt outcome) fun _ => rfl]
      exact numbered.numbers
    · simpa using numbered.count

/-- Every call keeps the numbering. -/
theorem numbered_rewrite (numbered : metadata.Numbered) :
    (request.rewrite metadata).Numbered := by
  obtain ⟨call, runId, operation, now⟩ := request
  cases operation with
  | workerStarted startedAt => exact numbered_startAttempt numbered call startedAt
  | attemptFailure startedAt failedAt stage error =>
      exact numbered_failAttempt numbered call startedAt failedAt stage error false
  | succeeded completedAt outcome => exact numbered_completeAttempt numbered completedAt outcome
  | failed startedAt failedAt stage error outcome =>
      exact numbered_failAttempt numbered call startedAt failedAt stage error true

theorem starts_failAttempt (call : Nat) (startedAt failedAt stage : String) (error : Text)
    (terminal : Bool) :
    metadata.starts <+:
      (failAttempt call startedAt failedAt stage error terminal metadata).starts := by
  simp only [RunMetadata.starts, failAttempt, history_some]
  rw [map_updateLatest _ (.failing failedAt stage error terminal) fun _ => rfl]
  split
  · rename_i empty
    rw [empty]
    exact List.nil_prefix
  · exact List.prefix_refl _

theorem starts_completeAttempt (completedAt outcome : String) :
    metadata.starts <+: (completeAttempt completedAt outcome metadata).starts := by
  unfold completeAttempt
  split
  · exact List.prefix_refl _
  · simp only [RunMetadata.starts, history_some]
    rw [map_updateLatest _ (.completing completedAt outcome) fun _ => rfl]

/-- No call loses an entry. -/
theorem starts_rewrite : metadata.starts <+: (request.rewrite metadata).starts := by
  obtain ⟨call, runId, operation, now⟩ := request
  cases operation with
  | workerStarted startedAt =>
      simp [RunMetadata.starts, TimelineRequest.rewrite, startAttempt]
  | attemptFailure startedAt failedAt stage error =>
      exact starts_failAttempt call startedAt failedAt stage error false
  | succeeded completedAt outcome => exact starts_completeAttempt completedAt outcome
  | failed startedAt failedAt stage error outcome =>
      exact starts_failAttempt call startedAt failedAt stage error true

/-- A started attempt is entered. -/
theorem started_mem_rewrite {startedAt : String}
    (started : request.operation = .workerStarted startedAt) :
    (request.call, startedAt) ∈ (request.rewrite metadata).starts := by
  simp [TimelineRequest.rewrite, started, startAttempt, RunMetadata.starts]

end Metadata

/-! ## A call -/

/-- A run later on: one that has ended is the same, and where no update is stale none of
its attempts is lost. -/
structure RunContinues (fresh : Prop) (row later : RunRow) : Prop where
  ended : active row.status = false → later = row
  starts : fresh → row.metadata.starts <+: later.metadata.starts

theorem RunContinues.refl (fresh : Prop) (row : RunRow) : RunContinues fresh row row :=
  ⟨fun _ => rfl, fun _ => List.prefix_refl _⟩

theorem RunContinues.trans {fresh : Prop} {first second third : RunRow}
    (earlier : RunContinues fresh first second) (later : RunContinues fresh second third) :
    RunContinues fresh first third where
  ended := by
    intro ended
    have same := earlier.ended ended
    subst same
    exact later.ended ended
  starts := fun fresh => (earlier.starts fresh).trans (later.starts fresh)

/-- A lock on a run guards its row. -/
def timelineDiscipline (fresh : Prop) :
    Discipline TimelineRequest TimelineCall Exn Runs Uuid where
  valid store := ∀ runId row, store.find? runId = some row → row.metadata.Numbered
  evolves first second := ∀ runId row, first.find? runId = some row →
    ∃ later, second.find? runId = some later ∧ RunContinues fresh row later
  Part _ := Option RunRow
  part runId store := store.find? runId
  allows request store statement := fresh → RewritesMet request store statement
  evolves_refl := fun _ _ row found => ⟨row, found, RunContinues.refl fresh row⟩
  evolves_trans := by
    intro first second third earlier later runId row found
    obtain ⟨middle, found, continues⟩ := earlier runId row found
    obtain ⟨last, found, continues'⟩ := later runId middle found
    exact ⟨last, found, continues.trans continues'⟩

section Safety

variable {fresh : Prop} {request : TimelineRequest} {here : Session Runs RunRow Uuid}
  {store seen : Runs} {result : Bool}

/-- The run has been updated, and is locked. -/
structure Updated (fresh : Prop) (request : TimelineRequest)
    (here : Session Runs RunRow Uuid) : Prop where
  locked : request.runId ∈ here.held
  pending : ∃ old row, here.committed.find? request.runId = some old ∧
    active old.status = true ∧ here.pending = [row] ∧ row.id = request.runId ∧
    row.metadata.Numbered ∧ (fresh → row.metadata = request.rewrite old.metadata)

/-- How the block of a call ends. -/
def Ended (fresh : Prop) (request : TimelineRequest) (result : Bool)
    (here : Session Runs RunRow Uuid) : Prop :=
  here.pending = [] ∧ result = false ∨ Updated fresh request here

theorem Ended.at_ (ended : Ended fresh request result here)
    (others : Meanwhile (timelineDiscipline fresh) here store) :
    Ended fresh request result (here.at_ store) := by
  rcases ended with unwritten | ⟨locked, old, row, found, rest⟩
  · exact .inl unwritten
  · have same : store.find? request.runId = here.committed.find? request.runId :=
      others.untouched request.runId locked
    exact .inr ⟨locked, old, row, same.trans found, rest⟩

theorem RunUpdate.set_metadata (update : RunUpdate) (metadata : RunMetadata) (now : Int)
    (row : RunRow) :
    (update.set metadata now row).id = row.id ∧ (update.set metadata now row).metadata = metadata := by
  cases update <;> exact ⟨rfl, rfl⟩

theorem safe_updateRun {metadata : RunMetadata} (numbered : metadata.Numbered) :
    Safe timelineEngine (timelineDiscipline fresh) request
      (Ends (fun _ => True) (Ended fresh request))
      (statements (writeMetadata request.runId request.update metadata request.now))
      { committed := seen } := by
  apply safe_statement (fun _ _ => trivial)
  intro store others allowed
  have view : timelineEngine.view (Session.at_ { committed := seen } store) = store := rfl
  rw [view] at allowed ⊢
  cases found : activeRun? store request.runId with
  | none =>
      simp only [timelineEngine, found]
      apply safe_pure
      intro later _
      exact .inl ⟨by simp [Session.at_, Session.extend], rfl⟩
  | some old =>
      simp only [timelineEngine, found]
      obtain ⟨there, isActive⟩ := Option.filter_eq_some_iff.mp found
      have named : old.id = request.runId := RowTable.key_of_find? there
      obtain ⟨id, kept⟩ := request.update.set_metadata metadata request.now old
      apply safe_pure
      intro later more
      apply Ended.at_ _ more
      refine .inr ⟨?_, old, request.update.set metadata request.now old, there, isActive, ?_,
        id.trans named, kept.symm ▸ numbered, ?_⟩
      · simp [Session.at_, Session.extend]
      · simp [Session.at_, Session.extend]
      · intro isFresh
        rw [kept]
        exact allowed isFresh old found

theorem safe_rewriteRun :
    Safe timelineEngine (timelineDiscipline fresh) request
      (Ends (fun _ => True) (Ended fresh request))
      (statements (rewriteRun request.runId request.rewrite request.update request.now))
      { committed := seen } := by
  apply safe_statement (fun _ _ => trivial)
  intro store others _
  have view : timelineEngine.view (Session.at_ { committed := seen } store) = store := rfl
  have unwritten : Safe timelineEngine (timelineDiscipline fresh) request
      (Ends (fun _ => True) (Ended fresh request))
      (.done (.ok false) : TimelineProg Bool) { committed := store } :=
    safe_pure fun _ _ => .inl ⟨rfl, rfl⟩
  rw [view]
  cases found : store.find? request.runId with
  | none =>
      simp only [timelineEngine, found]
      exact unwritten
  | some row =>
      simp only [timelineEngine, found, Option.map_some, rewriteFound]
      split
      · exact safe_updateRun (numbered_rewrite (others.valid request.runId row found))
      · exact unwritten

/-- What a call has written may be committed. -/
theorem commits_ended (ended : Ended fresh request result here)
    (valid : (timelineDiscipline fresh).valid here.committed) :
    Commits timelineEngine (timelineDiscipline fresh) here := by
  rcases ended with ⟨unwritten, _⟩ | ⟨locked, old, row, found, isActive, pending, named, numbered,
    rewritten⟩
  · exact commits_unwritten unwritten valid
  · have view : timelineEngine.view here = here.committed.put row := by
      simp [Engine.view, pending, timelineEngine]
    refine ⟨?_, ?_, ?_⟩
    · rw [view]
      intro runId other there
      rw [RowTable.find?_put] at there
      split_ifs at there
      · cases there
        exact numbered
      · exact valid runId other there
    · rw [view]
      intro runId other there
      rw [RowTable.find?_put]
      split_ifs with same
      · rw [← same, named, found] at there
        cases there
        refine ⟨row, rfl, ?_, ?_⟩
        · intro ended
          rw [isActive] at ended
          cases ended
        · intro isFresh
          rw [rewritten isFresh]
          exact starts_rewrite
      · exact ⟨other, there, RunContinues.refl fresh other⟩
    · intro runId free
      rw [view]
      refine (RowTable.find?_put _ _ _).trans (if_neg ?_)
      rintro rfl
      exact free (named ▸ locked)

/-- An attempt that has been started is entered. -/
def Entered (request : TimelineRequest) (store : Runs) : Prop :=
  ∀ startedAt, request.operation = .workerStarted startedAt →
    ∃ row, store.find? request.runId = some row ∧
      (request.call, startedAt) ∈ row.metadata.starts

theorem Entered.evolves (isFresh : fresh) (entered : Entered request seen)
    (evolves : (timelineDiscipline fresh).evolves seen store) : Entered request store := by
  intro startedAt started
  obtain ⟨row, found, member⟩ := entered startedAt started
  obtain ⟨later, kept, continues⟩ := evolves _ row found
  exact ⟨later, kept, (continues.starts isFresh).subset member⟩

theorem safe_perform_timeline :
    Safe timelineEngine (timelineDiscipline fresh) request
      (Ends (fun _ => True) fun result here =>
        result = true → fresh → Entered request here.committed)
      request.perform { committed := seen } := by
  rw [request.perform_eq]
  apply safe_block (fun _ _ => trivial) (fun _ _ => trivial) safe_rewriteRun
  · exact fun _ _ ended valid => commits_ended ended valid
  · intro result here store ended _ _ evolves success isFresh
    rcases ended with ⟨_, failed⟩ | ⟨_, old, row, found, _, pending, named, _, rewritten⟩
    · rw [success] at failed
      cases failed
    · apply Entered.evolves isFresh _ evolves
      intro startedAt started
      refine ⟨row, ?_, ?_⟩
      · simp [Engine.view, pending, timelineEngine, RowTable.find?_put, named]
      · rw [rewritten isFresh]
        exact started_mem_rewrite started

end Safety

/-! ## Runs -/

section Runs

variable {queued : QueuedRuns} {steps : List TimelineStep} {final : TimelineState}

theorem valid_queued (queued : QueuedRuns) (fresh : Prop) :
    (timelineDiscipline fresh).valid queued.table := by
  intro runId row found
  obtain ⟨_, count, history⟩ := queued.queued row (RowTable.mem_of_find? found)
  constructor <;> simp [RunMetadata.history, count, history]

theorem keepsTo_of_noneStale {fresh : Prop} (own : fresh → NoneStale steps) :
    KeepsTo timelineEngine (timelineDiscipline fresh) TimelineRequest.perform steps := by
  apply keepsTo_of_allowed
  · exact fun _ _ => ⟨trivial, trivial⟩
  · rintro step member ⟨thread, task, request, choice, reply, before, after⟩ answered statement
      rfl rfl isFresh
    exact own isFresh step member _ answered

section Steps

variable {fresh : Prop} {i : Nat} {step : TimelineStep}
  (run : TimelineRun queued steps final) (own : fresh → NoneStale steps)

include run own

theorem sound_timelines :
    ∀ runId row, final.world.committed.find? runId = some row → row.metadata.Numbered :=
  (sound_of_run (valid_queued queued fresh) (fun _ _ _ _ => safe_perform_timeline) run
    (keepsTo_of_noneStale own)).1.valid

theorem timelines_evolve (found : steps[i]? = some step) :
    (timelineDiscipline fresh).evolves step.before.world.committed final.world.committed :=
  (sound_before (valid_queued queued fresh) (fun _ _ _ _ => safe_perform_timeline) run
    (keepsTo_of_noneStale own) found).2

end Steps

/-- Histories are numbered, and ended runs stay, even where updates are stale. -/
theorem numbered_and_ended (run : TimelineRun queued steps final) :
    (∀ row ∈ final.world.committed.rows, row.metadata.Numbered) ∧
      ∀ step ∈ steps, ∀ row ∈ step.before.world.committed.rows,
        active row.status = false → row ∈ final.world.committed.rows := by
  constructor
  · intro row member
    exact sound_timelines run False.elim row.id row (RowTable.find?_of_mem member)
  · intro step member row there ended
    obtain ⟨i, found⟩ := List.mem_iff_getElem?.mp member
    obtain ⟨later, kept, continues⟩ :=
      timelines_evolve run False.elim found row.id row (RowTable.find?_of_mem there)
    have same := continues.ended ended
    subst same
    exact RowTable.mem_of_find? kept

/-- While no update is stale, every started attempt is entered. -/
theorem timelines_kept (run : TimelineRun queued steps final) (own : NoneStale steps) :
    Timelines steps final := by
  obtain ⟨numbered, ended⟩ := numbered_and_ended run
  refine ⟨numbered, ended, ?_⟩
  intro step member request startedAt ended started
  have own : True → NoneStale steps := fun _ => own
  obtain ⟨i, found⟩ := List.mem_iff_getElem?.mp member
  obtain ⟨_, entered⟩ := ended_as_promised (valid_queued queued True)
    (fun _ _ _ _ => safe_perform_timeline) run (keepsTo_of_noneStale own) found ended
  have entered := (entered rfl trivial).evolves trivial (timelines_evolve run own found)
  obtain ⟨row, there, member⟩ := entered startedAt started
  obtain ⟨entry, inside, same⟩ := List.mem_map.mp member
  simp only [Prod.mk.injEq] at same
  exact ⟨row, RowTable.mem_of_find? there, RowTable.key_of_find? there, entry, inside, same⟩

end Runs

/-! ## Two deliveries of a job -/

section Sample

/-- A run that has just been queued. -/
def sampleQueue : QueuedRuns where
  table := ⟨[{ id := ⟨0, 0⟩ }], by decide⟩
  queued := by decide

def startOf (call : Nat) (startedAt : String) : TimelineRequest where
  call := call
  runId := ⟨0, 0⟩
  operation := .workerStarted startedAt

/-- The next statements of a worker. -/
def working (thread count : Nat) : List (PoolEvent TimelineRequest (BlockChoice Exn) Empty) :=
  List.replicate count (.call thread .executes)

/-- The second delivery starts after the first has written. -/
def oneAfterTheOther : List (PoolEvent TimelineRequest (BlockChoice Exn) Empty) :=
  [.start 0 (startOf 1 "09:00")] ++ working 0 3 ++ [.start 1 (startOf 2 "09:01")] ++
    working 1 3 ++ [.stop 0, .stop 1]

/-- Both deliveries read the run before either writes. -/
def bothDeliveries : List (PoolEvent TimelineRequest (BlockChoice Exn) Empty) :=
  [.start 0 (startOf 1 "09:00"), .start 1 (startOf 2 "09:01")] ++ working 0 1 ++ working 1 1 ++
    working 0 2 ++ working 1 2 ++ [.stop 0, .stop 1]

def delivering (events : List (PoolEvent TimelineRequest (BlockChoice Exn) Empty)) :
    Option (List TimelineStep × TimelineState) :=
  timelineSystem.extend [] { world := { committed := sampleQueue.table } } events

theorem oneAfterTheOther_isSome : (delivering oneAfterTheOther).isSome := by
  decide

theorem bothDeliveries_isSome : (delivering bothDeliveries).isSome := by
  decide

theorem timelines_kept_sample :
    NoneStale ((delivering oneAfterTheOther).get oneAfterTheOther_isSome).1 ∧
      Timelines ((delivering oneAfterTheOther).get oneAfterTheOther_isSome).1
        ((delivering oneAfterTheOther).get oneAfterTheOther_isSome).2 :=
  have own : NoneStale ((delivering oneAfterTheOther).get oneAfterTheOther_isSome).1 := by
    decide
  have run : TimelineRun sampleQueue
      ((delivering oneAfterTheOther).get oneAfterTheOther_isSome).1
      ((delivering oneAfterTheOther).get oneAfterTheOther_isSome).2 :=
    PoolSystem.run_of_extend .nil (Option.some_get oneAfterTheOther_isSome).symm
  ⟨own, timelines_kept run own⟩

/-- Both calls return `True`, and the history has the entry of the second alone. -/
theorem first_attempt_lost :
    TimelineRun sampleQueue ((delivering bothDeliveries).get bothDeliveries_isSome).1
        ((delivering bothDeliveries).get bothDeliveries_isSome).2 ∧
      ((delivering bothDeliveries).get bothDeliveries_isSome).1.filterMap
          (fun step => (PoolSystem.ended? step).map fun ended =>
            (ended.1.call, ended.2.toOption)) = [(1, some true), (2, some true)] ∧
      ((delivering bothDeliveries).get bothDeliveries_isSome).2.world.committed.rows.map
          (fun row => row.metadata.history) =
        [[{ attempt := 1, startedAt := "09:01", call := 2 }]] ∧
      ¬ Timelines ((delivering bothDeliveries).get bothDeliveries_isSome).1
        ((delivering bothDeliveries).get bothDeliveries_isSome).2 := by
  refine ⟨PoolSystem.run_of_extend .nil (Option.some_get bothDeliveries_isSome).symm,
    by decide, by decide, ?_⟩
  intro timelines
  have returned : ∃ step ∈ ((delivering bothDeliveries).get bothDeliveries_isSome).1,
      PoolSystem.ended? step = some (startOf 1 "09:00", .ok true) := by
    decide
  have lost : ∀ row ∈
      ((delivering bothDeliveries).get bothDeliveries_isSome).2.world.committed.rows,
        ∀ entry ∈ row.metadata.history, entry.call ≠ 1 := by
    decide
  obtain ⟨step, member, ended⟩ := returned
  obtain ⟨row, there, _, entry, inside, own, _⟩ :=
    timelines.entered step member _ "09:00" ended rfl
  exact lost row there entry inside own

end Sample

end AttemptTimelines

end ContractMate
