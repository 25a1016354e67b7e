import ContractMate.KnowledgeRetries

/-!
# Indexes that were set back

Once `retry_failed` has returned or stopped, the version of every index that it set back
has an intent that is to be published, or a job that was published since.  This needs
that it wrote the intents of all of them, and that no dispatcher takes such an intent out
of publication before a job is published.
-/

namespace ContractMate

/-- The intent of a version is to be published. -/
def KnowledgeWorld.Intended (world : KnowledgeWorld) (version : String × Uuid) : Prop :=
  ∃ row, world.outbox.intent? version = some row ∧
    (row.status = .pending ∨ row.status = .publishing)

namespace RetryTrace

variable (trace : RetryTrace)

/-- The call has returned or stopped. -/
def Over (state : RecoveryState) : Prop :=
  trace.standing = false ∨
    ∃ task result, state.threads trace.thread = some ⟨task, .done result⟩

/-- The index row is not stranded: its version has an intent to be published or a job
published since, or the row is failed again. -/
def Kept (row : KnowledgeIndexRow) (world : KnowledgeWorld) : Prop :=
  world.Intended row.version ∨ row.version ∈ trace.published ∨
    ∃ now, world.indexes.find? row.key = some now ∧ now.status = .failed

end RetryTrace

section Runs

variable (dispatcher : KnowledgeOutboxDispatcher) (worker : KnowledgeIndexWorker)

/-- No call of `retry_failed` strands an index. -/
def NeverStrands (steps : List RecoveryStep) (final : RecoveryState) : Prop :=
  ∀ trace ∈ retries dispatcher worker steps, trace.Over final →
    ∀ row ∈ trace.changed, trace.Kept row final.world

/-! ## Disturbances -/

namespace RetryTrace

variable (trace : RetryTrace)

/-- Every row that the answer sets back is among the rows that were read before, or its
intent is. -/
def collects (answer : RecoveryAnswer) : Bool :=
  (resetBy? answer).all fun rows => rows.all fun row =>
    match trace.phase with
    | .collected intents => row.version ∈ intents.map VersionTriple.version
    | _ => false

/-- The call sets back what it has read and does not raise while it owes an intent, and
no report retires an intent that it has written before a job is published. -/
def undisturbedBy (answer : RecoveryAnswer) : Bool :=
  (!trace.owns answer.thread ||
    trace.collects answer && (!raises answer || (trace.answered answer).complete)) &&
  (retiredBy? answer).all fun version => trace.changed.all fun row =>
    row.version ≠ version || version ∉ trace.written || version ∈ trace.published

/-- Neither is the call stopped while it owes an intent. -/
def undisturbedAt (step : RecoveryStep) : Bool :=
  match step.event with
  | .call _ _ =>
      ((recoveryPool dispatcher worker).answer? step).all fun answer =>
        trace.undisturbedBy answer
  | .stop thread => !trace.owns thread || trace.complete
  | .start _ _ | .outside _ => true

end RetryTrace

/-- Nothing disturbs the calls of `retry_failed`. -/
def RetriesUndisturbed (steps : List RecoveryStep) : Prop :=
  ∀ i step, steps[i]? = some step → ∀ trace ∈ retries dispatcher worker (steps.take i),
    trace.undisturbedAt dispatcher worker step = true

end Runs

/-! ## Intents -/

section Intents

variable {outbox after : KnowledgeOutbox} {version : String × Uuid}

/-- An intent of the version that is to be published. -/
def KnowledgeOutbox.Awaits (outbox : KnowledgeOutbox) (version : String × Uuid) : Prop :=
  ∃ id row, outbox.table.find? id = some row ∧ row.version = version ∧
    (row.status = .pending ∨ row.status = .publishing)

theorem intended_iff {world : KnowledgeWorld} :
    world.Intended version ↔ world.outbox.Awaits version := by
  constructor
  · rintro ⟨row, found, status⟩
    obtain ⟨stored, named⟩ := KnowledgeOutbox.intent?_eq_some_iff.mp found
    exact ⟨row.id, row, stored, named, status⟩
  · rintro ⟨id, row, stored, named, status⟩
    exact ⟨row, KnowledgeOutbox.intent?_of_find? stored named, status⟩

theorem awaits_claimDue (awaits : outbox.Awaits version) (stamp : Stamp)
    (locked : List Uuid) (limit leaseSeconds : Int) :
    (outbox.claimDue stamp locked limit leaseSeconds).2.Awaits version := by
  obtain ⟨id, row, stored, named, status⟩ := awaits
  rcases outbox.claimDue_cases stamp locked limit leaseSeconds id with taken | spared
  · obtain ⟨row', found, _, _, _, claimed⟩ := taken
    rw [stored] at found
    cases found
    exact ⟨id, _, claimed, named, .inr rfl⟩
  · exact ⟨id, row, spared.2.trans stored, named, status⟩

theorem awaits_recordConsumerFailure (awaits : outbox.Awaits version) (outboxId : Uuid)
    (terminal : Bool) : (outbox.recordConsumerFailure outboxId terminal).Awaits version := by
  obtain ⟨id, row, stored, named, status⟩ := awaits
  refine ⟨id, row, ?_, named, status⟩
  rw [KnowledgeOutbox.find?_recordConsumerFailure]
  by_cases same : id = outboxId
  · have live : ¬(row.status = .published ∨ row.status = .failed) := by
      rcases status with pending | publishing
      · simp [pending]
      · simp [publishing]
    subst same
    rw [if_pos rfl, stored, Option.map_some, if_neg live]
  · rw [if_neg same, stored]

/-- A report leaves an intent to be published, or takes it out of publication. -/
theorem awaits_markPublished (awaits : outbox.Awaits version) (outboxId : Uuid) :
    (outbox.markPublished outboxId).Awaits version ∨
      ∃ row, outbox.table.find? outboxId = some row ∧ row.status = .publishing ∧
        row.version = version := by
  obtain ⟨id, row, stored, named, status⟩ := awaits
  by_cases own : id = outboxId ∧ row.status = .publishing
  · obtain ⟨rfl, publishing⟩ := own
    exact .inr ⟨row, stored, publishing, named⟩
  · refine .inl ⟨id, row, ?_, named, status⟩
    rw [KnowledgeOutbox.find?_markPublished]
    by_cases same : id = outboxId
    · subst same
      rw [if_pos rfl, stored, Option.map_some,
        if_neg fun publishing => own ⟨rfl, publishing⟩]
    · rw [if_neg same, stored]

theorem awaits_reschedule (awaits : outbox.Awaits version) (stamp : Stamp)
    (outboxId : Uuid) (attempts : Nat) (maxAttempts baseBackoffSeconds : Int) :
    (outbox.reschedule stamp outboxId attempts maxAttempts baseBackoffSeconds).Awaits
        version ∨
      max maxAttempts 1 ≤ attempts ∧ ∃ row, outbox.table.find? outboxId = some row ∧
        row.status = .publishing ∧ row.version = version := by
  obtain ⟨id, row, stored, named, status⟩ := awaits
  by_cases own : id = outboxId ∧ row.status = .publishing
  · obtain ⟨rfl, publishing⟩ := own
    by_cases last : max maxAttempts 1 ≤ attempts
    · exact .inr ⟨last, row, stored, publishing, named⟩
    · have again : (outbox.reschedule stamp id attempts maxAttempts
          baseBackoffSeconds).table.find? id =
            some { row with
              status := if max maxAttempts 1 ≤ attempts then .failed else .pending
              nextAttemptAt := stamp.now +
                seconds (KnowledgeOutbox.backoffSeconds attempts baseBackoffSeconds)
              leaseExpiresAt := none } := by
        rw [KnowledgeOutbox.find?_reschedule, if_pos rfl, stored, Option.map_some,
          if_pos publishing]
      exact .inl ⟨id, _, again, named, .inl (if_neg last)⟩
  · refine .inl ⟨id, row, ?_, named, status⟩
    rw [KnowledgeOutbox.find?_reschedule]
    by_cases same : id = outboxId
    · subst same
      rw [if_pos rfl, stored, Option.map_some,
        if_neg fun publishing => own ⟨rfl, publishing⟩]
    · rw [if_neg same, stored]

/-- A request leaves every intent to be published, and a forced one makes its own one
so. -/
theorem awaits_enqueueIntent {stamp : Stamp} {workspaceId : String}
    {contractId contractVersionId : Uuid} {force : Bool} {id : Uuid}
    (enqueued : outbox.enqueueIntent stamp workspaceId contractId contractVersionId force =
      .ok (id, after)) :
    (outbox.Awaits version → after.Awaits version) ∧
      (force = true → after.Awaits (workspaceId, contractVersionId)) := by
  rcases KnowledgeOutbox.upsertIntent_cases (KnowledgeOutbox.enqueueIntent_ok enqueued) with
    ⟨own, found, rows⟩ | ⟨_, fresh, rows⟩
  · obtain ⟨stored, named⟩ := KnowledgeOutbox.intent?_eq_some_iff.mp found
    have restarts (forced : force = true) :
        after.table.find? own.id = some (own.restarted contractId stamp.now) := by
      rw [rows, if_pos rfl, if_pos forced]
    constructor
    · rintro ⟨id, row, present, version, status⟩
      by_cases same : id = own.id
      · subst same
        rw [stored] at present
        cases present
        by_cases forced : force = true
        · exact ⟨own.id, _, restarts forced, version, .inl rfl⟩
        · refine ⟨own.id, own, ?_, version, status⟩
          rw [rows, if_pos rfl, if_neg forced]
      · exact ⟨id, row, by rw [rows, if_neg same, present], version, status⟩
    · intro forced
      exact ⟨own.id, _, restarts forced, named, .inl rfl⟩
  · constructor
    · rintro ⟨id, row, present, version, status⟩
      have other : id ≠ stamp.uuid4 0 := by
        rintro rfl
        rw [fresh] at present
        cases present
      exact ⟨id, row, by rw [rows, if_neg other, present], version, status⟩
    · intro _
      exact ⟨stamp.uuid4 0, _, (rows _).trans (if_pos rfl), rfl, .inl rfl⟩

end Intents

/-! ## Answers -/

section Answers

variable {worker : KnowledgeIndexWorker} {world after : KnowledgeWorld}
  {answer : RecoveryAnswer} {version : String × Uuid}

theorem KnowledgeWorld.Intended.of_outbox (same : after.outbox = world.outbox)
    (intended : world.Intended version) : after.Intended version := by
  obtain ⟨row, found, status⟩ := intended
  exact ⟨row, by rw [same]; exact found, status⟩

theorem intended_of_outboxEvent {event : KnowledgeOutboxEvent}
    (intended : world.Intended version) :
    KnowledgeWorld.Intended { world with outbox := event.after world.outbox } version := by
  rw [intended_iff] at intended ⊢
  obtain ⟨stamp, call⟩ := event
  cases call with
  | recordConsumerFailure outboxId terminal =>
      exact awaits_recordConsumerFailure intended outboxId terminal
  | enqueueIntent workspaceId contractId contractVersionId force =>
      simp only [KnowledgeOutboxEvent.after]
      cases enqueued : world.outbox.enqueueIntent stamp workspaceId contractId
          contractVersionId force with
      | error error => exact intended
      | ok result => exact (awaits_enqueueIntent enqueued).1 intended

/-- The outbox of an answer to a handler. -/
theorem intended_of_work {choice : IndexingChoice} {call : KnowledgeWorkerCall}
    {reply : Except Exn call.Ret}
    (responds : world.respondWork worker choice call = some (reply, after))
    (intended : world.Intended version) : after.Intended version := by
  have settled {Value : Type}
      {body : Stamp → List Uuid → Except Exn Value × KnowledgeWorld}
      {reply : Except Exn Value}
      (settles : world.settle body choice = some (reply, after))
      (keeps : ∀ stamp locked, (body stamp locked).2.Intended version) :
      after.Intended version := by
    rcases KnowledgeWorld.settle_cases settles with ⟨stamp, locked, rfl, _⟩ | ⟨rfl, _⟩
    · exact keeps stamp locked
    · exact intended
  cases call with
  | loadIndexInputs asked => cases choice <;> cases responds <;> exact intended
  | createOrGetIndex asked =>
      exact settled responds fun stamp _ =>
        intended.of_outbox (outbox_createOrGetIndex stamp)
  | recordConsumerFailure outboxId terminal =>
      refine settled responds fun _ _ => intended_iff.mpr ?_
      exact awaits_recordConsumerFailure (intended_iff.mp intended) outboxId terminal
  | publish route published =>
      exact settled responds fun _ _ => by cases route <;> exact intended
  | _ => exact settled responds fun _ _ => intended

/-- An answer to a dispatcher keeps an intent to be published, or is the report that takes
it out of publication. -/
theorem intended_of_dispatch {choice : IndexingChoice} {call : KnowledgeDispatchCall}
    {reply : Except Exn call.Ret} {thread : Nat} {task : RecoveryTask}
    (responds : world.respondDispatch choice call = some (reply, after))
    (intended : world.Intended version) :
    after.Intended version ∨
      retiredBy? ⟨thread, task, .indexing (.dispatch call), .indexing choice, reply, world,
        after⟩ = some version := by
  have awaits := intended_iff.mp intended
  cases call with
  | claimDue limit leaseSeconds =>
      left
      rcases KnowledgeWorld.settle_cases responds with ⟨stamp, locked, rfl, _⟩ | ⟨rfl, _⟩
      · exact intended_iff.mpr (awaits_claimDue awaits stamp locked limit leaseSeconds)
      · exact intended
  | enqueue item =>
      left
      rcases KnowledgeWorld.settle_cases responds with ⟨stamp, locked, rfl, _⟩ | ⟨rfl, _⟩
      · exact intended
      · exact intended
  | markPublished outboxId =>
      rcases awaits_markPublished awaits outboxId with kept | ⟨row, found, status, named⟩
      · left
        rcases KnowledgeWorld.settle_cases responds with ⟨_, _, rfl, _⟩ | ⟨rfl, _⟩
        · exact intended_iff.mpr kept
        · exact intended
      · cases choice with
        | found present => cases responds
        | raised error =>
            cases responds
            exact .inl intended
        | proceed stamp locked | lost stamp locked error =>
            right
            simp [retiredBy?, reportedBy?, RecoveryChoice.commits, found, status, named]
  | reschedule outboxId attempts maxAttempts baseBackoffSeconds =>
      cases choice with
      | found present => cases responds
      | raised error =>
          cases responds
          exact .inl intended
      | proceed stamp locked | lost stamp locked error =>
          cases responds
          rcases awaits_reschedule awaits stamp outboxId attempts maxAttempts
            baseBackoffSeconds with kept | ⟨last, row, found, status, named⟩
          · exact .inl (intended_iff.mpr kept)
          · right
            simp [retiredBy?, reportedBy?, RecoveryChoice.commits, last, found, status, named]

theorem intended_forceIntent (stamp : Stamp) (triple : VersionTriple)
    (intended : world.Intended version) :
    (world.forceIntent stamp triple).2.Intended version := by
  rw [KnowledgeWorld.forceIntent]
  cases enqueued : world.outbox.enqueueIntent stamp triple.1 triple.2.1 triple.2.2 true with
  | error error => exact intended
  | ok result =>
      exact intended_iff.mpr ((awaits_enqueueIntent enqueued).1 (intended_iff.mp intended))

/-- A request that is answered keeps the intents to be published. -/
theorem intended_of_request {choice : IndexRequestChoice} {call : IndexRequestCall}
    {reply : Except Exn call.Ret}
    (responds : world.respondRequest choice call = some (reply, after))
    (intended : world.Intended version) : after.Intended version := by
  cases call with
  | selectFailedIndexes contractId | selectFailedIntents contractId | iterate intents =>
      exact (IndexRequestChoice.query_cases responds).1 ▸ intended
  | selectUnindexed => cases responds
  | resetFailedIndexes contractId => cases choice <;> cases responds <;> exact intended
  | enqueueIntent triple =>
      cases choice with
      | answered answered => cases responds
      | raised error =>
          cases responds
          exact intended
      | proceed stamp =>
          have same : world.forceIntent stamp triple = (reply, after) :=
            Option.some.inj responds
          have later := intended_forceIntent stamp triple intended
          rw [same] at later
          exact later
      | lost stamp error =>
          cases responds
          exact intended_forceIntent stamp triple intended

theorem intended_of_answer (answer : RecoveryAnswer)
    (responds : KnowledgeWorld.respondRecovery worker answer.choice answer.before
      answer.request = some (answer.reply, answer.after))
    (intended : answer.before.Intended version) :
    answer.after.Intended version ∨ retiredBy? answer = some version := by
  obtain ⟨thread, task, request, choice, reply, world, after⟩ := answer
  cases choice with
  | indexing choice =>
      cases request with
      | request call => cases responds
      | indexing call =>
          cases call with
          | dispatch call => exact intended_of_dispatch responds intended
          | work call => exact .inl (intended_of_work responds intended)
  | request choice =>
      cases request with
      | indexing call => cases responds
      | request call => exact .inl (intended_of_request responds intended)

/-- A request with a stamp takes effect. -/
theorem after_of_stamp {choice : IndexRequestChoice} {triple : VersionTriple}
    {reply : Except Exn Unit} {stamp : Stamp}
    (responds : world.respondRequest choice (.enqueueIntent triple) = some (reply, after))
    (stamped : RecoveryChoice.stamp? (.request choice) = some stamp) :
    after = (world.forceIntent stamp triple).2 := by
  cases choice with
  | answered answered => cases stamped
  | raised error => cases stamped
  | proceed own =>
      cases stamped
      have same : world.forceIntent stamp triple = (reply, after) := Option.some.inj responds
      rw [same]
  | lost own error =>
      cases stamped
      cases responds
      rfl

/-- A written intent is the one of a forced request that is not rolled back. -/
theorem forced_of_writtenBy
    (responds : KnowledgeWorld.respondRecovery worker answer.choice answer.before
      answer.request = some (answer.reply, answer.after))
    (written : writtenBy? answer = some version) :
    ∃ stamp triple, (answer.before.forceIntent stamp triple).1.isOk = true ∧
      version = triple.version ∧ answer.after = (answer.before.forceIntent stamp triple).2 := by
  obtain ⟨thread, task, request, choice, reply, world, after⟩ := answer
  cases request with
  | indexing call => cases written
  | request call =>
      cases call with
      | enqueueIntent triple =>
          cases choice with
          | indexing choice => cases responds
          | request choice =>
              simp only [writtenBy?, Option.ite_none_right_eq_some, Option.some.injEq,
                Option.any_eq_true] at written
              obtain ⟨⟨stamp, stamped, succeeds⟩, rfl⟩ := written
              exact ⟨stamp, triple, succeeds, rfl, after_of_stamp responds stamped⟩
      | _ => cases written

/-- The intent that is written is to be published. -/
theorem intended_of_writtenBy
    (responds : KnowledgeWorld.respondRecovery worker answer.choice answer.before
      answer.request = some (answer.reply, answer.after))
    (written : writtenBy? answer = some version) : answer.after.Intended version := by
  obtain ⟨stamp, triple, forced, rfl, same⟩ := forced_of_writtenBy responds written
  rw [same]
  rw [KnowledgeWorld.forceIntent] at forced ⊢
  cases enqueued : answer.before.outbox.enqueueIntent stamp triple.1 triple.2.1
      triple.2.2 true with
  | error error =>
      rw [enqueued] at forced
      cases forced
  | ok result =>
      have both : (answer.before.outbox.Awaits triple.version →
          result.2.Awaits triple.version) ∧ (true = true → result.2.Awaits triple.version) :=
        awaits_enqueueIntent enqueued
      exact intended_iff.mpr (both.2 rfl)

end Answers

/-! ## Own answers -/

section Own

variable {worker : KnowledgeIndexWorker} {answer : RecoveryAnswer} {trace : RetryTrace}

/-- A request that returns has written its intent. -/
theorem writtenBy?_of_ok {world after : KnowledgeWorld} {choice : IndexRequestChoice}
    {triple : VersionTriple} {thread : Nat} {task : RecoveryTask}
    (responds : world.respondRequest choice (.enqueueIntent triple) = some (.ok (), after)) :
    writtenBy? ⟨thread, task, .request (.enqueueIntent triple), .request choice, .ok (), world,
      after⟩ = some triple.version := by
  cases choice with
  | answered answered | raised error | lost stamp error => cases responds
  | proceed stamp =>
      have same : world.forceIntent stamp triple = (.ok (), after) := Option.some.inj responds
      simp [writtenBy?, RecoveryChoice.stamp?, same, Except.isOk, Except.toBool]

/-- What remains to be written after an own answer that is not raised: an intent that
remained is written by it, or remains. -/
theorem remaining_of_answer {phase : RetryPhase} {version : String × Uuid}
    (responds : KnowledgeWorld.respondRecovery worker answer.choice answer.before
      answer.request = some (answer.reply, answer.after))
    (permitted : phase.permitsCall answer.request) (returns : raises answer = false)
    (remains : version ∈ phase.remaining.map VersionTriple.version) :
    writtenBy? answer = some version ∨
      version ∈ (phase.nextCall answer.request answer.reply).remaining.map
        VersionTriple.version := by
  obtain ⟨thread, task, request, choice, reply, world, after⟩ := answer
  cases reply with
  | error error => cases returns
  | ok value =>
      cases request with
      | indexing call => cases permitted
      | request call =>
          cases choice with
          | indexing choice => cases responds
          | request choice =>
              cases phase with
              | reset intents =>
                  cases call with
                  | iterate items =>
                      obtain rfl : items = intents.dedup := permitted
                      right
                      have same : value.Perm intents.dedup :=
                        (IndexRequestChoice.query_cases responds).2 value rfl
                      obtain ⟨triple, member, rfl⟩ := List.mem_map.mp remains
                      have listed := same.mem_iff.mpr (List.mem_dedup.mpr member)
                      exact List.mem_map_of_mem listed
                  | _ => cases permitted
              | writing intents =>
                  cases intents with
                  | nil => cases remains
                  | cons triple rest =>
                      cases call with
                      | enqueueIntent asked =>
                          obtain rfl : asked = triple := permitted
                          rcases List.mem_cons.mp remains with rfl | later
                          · exact .inl (writtenBy?_of_ok responds)
                          · exact .inr later
                      | _ => cases permitted
              | _ => cases remains

/-- The rows that are set back belong to intents that remain. -/
theorem remaining_of_reset {rows : List KnowledgeIndexRow} {row : KnowledgeIndexRow}
    (reset : resetBy? answer = some rows) (member : row ∈ rows)
    (collects : trace.collects answer = true) (returns : raises answer = false) :
    row.version ∈ (trace.phase.nextCall answer.request answer.reply).remaining.map
      VersionTriple.version := by
  rw [RetryTrace.collects, reset, Option.all_some] at collects
  have listed := List.all_eq_true.mp collects row member
  obtain ⟨thread, task, request, choice, reply, world, after⟩ := answer
  cases reply with
  | error error => cases returns
  | ok value =>
      cases request with
      | indexing call => cases reset
      | request call =>
          cases call with
          | resetFailedIndexes contractId =>
              cases phase : trace.phase with
              | collected intents =>
                  rw [phase] at listed
                  exact of_decide_eq_true listed
              | _ =>
                  rw [phase] at listed
                  cases listed
          | _ => cases reset

end Own

/-! ## Runs -/

namespace RetryTrace

variable {trace : RetryTrace} {answer : RecoveryAnswer} {version : Option (String × Uuid)}

theorem advance_reset {rows : List KnowledgeIndexRow} (reset : resetBy? answer = some rows) :
    (trace.notePublished version).advance answer =
      { thread := trace.thread, standing := trace.standing
        phase := trace.phase.nextCall answer.request answer.reply
        changed := rows } := by
  simp [advance, notePublished, reset]

theorem advance_none (reset : resetBy? answer = none) :
    (trace.notePublished version).advance answer =
      { trace with
        phase := trace.phase.nextCall answer.request answer.reply
        written := (writtenBy? answer).toList ++ trace.written
        published := version.toList ++ trace.published } := by
  simp [advance, notePublished, reset]

end RetryTrace

/-- What holds of a call wherever a run stands. -/
structure RetryTrace.Sound (trace : RetryTrace) (state : RecoveryState) : Prop where
  stands : trace.standing = true → ∃ task rest,
    state.threads trace.thread = some ⟨task, rest⟩ ∧
      recoveryMonitor.Conforms rest (fun _ phase => phase.remaining = []) trace.phase
  owed : ∀ row ∈ trace.changed, row.version ∈ trace.written ∨
    trace.standing = true ∧ row.version ∈ trace.phase.remaining.map VersionTriple.version
  intended : ∀ row ∈ trace.changed, row.version ∈ trace.written →
    state.world.Intended row.version ∨ row.version ∈ trace.published

section Sound

variable {dispatcher : KnowledgeOutboxDispatcher} {worker : KnowledgeIndexWorker}
  {trace : RetryTrace} {before after : RecoveryState} {thread : Nat}

/-- A step elsewhere. -/
theorem RetryTrace.Sound.elsewhere (sound : trace.Sound before)
    (threads : ∀ running, before.threads trace.thread = some running →
      after.threads trace.thread = some running)
    (intended : ∀ version, before.world.Intended version → after.world.Intended version) :
    trace.Sound after where
  stands := by
    intro standing
    obtain ⟨task, rest, stands, conforms⟩ := sound.stands standing
    exact ⟨task, rest, threads _ stands, conforms⟩
  owed := sound.owed
  intended := fun row member written =>
    (sound.intended row member written).imp (intended _) id

theorem RetryTrace.Sound.started {contractId : Option Uuid}
    (stands : after.threads thread = some ⟨.retryFailed contractId,
      (RecoveryTask.retryFailed contractId).body dispatcher worker⟩) :
    ({ thread } : RetryTrace).Sound after where
  stands := fun _ => ⟨_, _, stands, conforms_recovery dispatcher worker contractId⟩
  owed := nofun
  intended := nofun

theorem RetryTrace.Sound.stopped (sound : trace.Sound before)
    (undisturbed : trace.owns thread = true → trace.complete = true)
    (threads : ∀ running, trace.thread ≠ thread →
      before.threads trace.thread = some running →
        after.threads trace.thread = some running)
    (world : after.world = before.world) : (trace.stopped thread).Sound after where
  stands := by
    intro standing
    simp only [RetryTrace.stopped, Bool.and_eq_true, decide_eq_true_eq] at standing
    obtain ⟨task, rest, stands, conforms⟩ := sound.stands standing.1
    exact ⟨task, rest, threads _ standing.2 stands, conforms⟩
  owed := by
    intro row member
    by_cases own : trace.owns thread = true
    · exact .inl (of_decide_eq_true (List.all_eq_true.mp (undisturbed own) row member))
    · refine (sound.owed row member).imp id fun owed => ⟨?_, owed.2⟩
      simp only [RetryTrace.owns, owed.1, Bool.true_and, decide_eq_true_eq] at own
      simp [RetryTrace.stopped, owed.1, own]
  intended := by
    rw [world]
    exact sound.intended

/-- Written intents are to be published after an answer that does not disturb the call. -/
theorem intended_of_undisturbed {answer : RecoveryAnswer} (sound : trace.Sound before)
    (intended : ∀ version, before.world.Intended version →
      after.world.Intended version ∨ retiredBy? answer = some version)
    (undisturbed : trace.undisturbedBy answer = true) {row : KnowledgeIndexRow}
    (member : row ∈ trace.changed) (written : row.version ∈ trace.written) :
    after.world.Intended row.version ∨ row.version ∈ trace.published := by
  rcases sound.intended row member written with awaits | published
  · rcases intended row.version awaits with kept | retired
    · exact .inl kept
    · rw [RetryTrace.undisturbedBy, retired, Option.all_some, Bool.and_eq_true] at undisturbed
      have allowed := List.all_eq_true.mp undisturbed.2 row member
      simp only [ne_eq, not_true_eq_false, decide_false, Bool.false_or, written,
        Bool.false_or, decide_eq_true_eq] at allowed
      exact .inr allowed
  · exact .inr published

/-- An answer to another thread. -/
theorem RetryTrace.Sound.others {answer : RecoveryAnswer} (sound : trace.Sound before)
    (other : trace.owns answer.thread = false)
    (threads : ∀ running, trace.thread ≠ answer.thread →
      before.threads trace.thread = some running →
        after.threads trace.thread = some running)
    (intended : ∀ version, before.world.Intended version →
      after.world.Intended version ∨ retiredBy? answer = some version)
    (undisturbed : trace.undisturbedBy answer = true) :
    (trace.answered answer).Sound after := by
  have same : trace.answered answer = trace.notePublished (publishedBy? answer) := by
    have elsewhere : (trace.notePublished (publishedBy? answer)).owns answer.thread = false :=
      other
    rw [RetryTrace.answered, elsewhere]
    rfl
  rw [same]
  constructor
  · intro standing
    obtain ⟨task, rest, stands, conforms⟩ := sound.stands standing
    have apart : trace.thread ≠ answer.thread := by
      have standing : trace.standing = true := standing
      simpa [RetryTrace.owns, standing] using other
    exact ⟨task, rest, threads _ apart stands, conforms⟩
  · exact sound.owed
  · intro row member written
    exact (intended_of_undisturbed sound intended undisturbed member written).imp id
      (List.mem_append_right _)

/-- An answer to the call itself. -/
theorem RetryTrace.Sound.advances {answer : RecoveryAnswer} (sound : trace.Sound before)
    (own : trace.owns answer.thread = true)
    {rest : Except Exn answer.request.Ret → Prog RecoveryCall RecoveryCall.Ret Exn Unit}
    {task : RecoveryTask}
    (stood : before.threads answer.thread = some ⟨task, .call answer.request rest⟩)
    (stands : after.threads answer.thread = some ⟨task, rest answer.reply⟩)
    (responds : KnowledgeWorld.respondRecovery worker answer.choice answer.before
      answer.request = some (answer.reply, answer.after))
    (found : answer.before = before.world) (left : answer.after = after.world)
    (undisturbed : trace.undisturbedBy answer = true) :
    (trace.answered answer).Sound after := by
  have same : trace.answered answer =
      (trace.notePublished (publishedBy? answer)).advance answer := by
    have here : (trace.notePublished (publishedBy? answer)).owns answer.thread = true := own
    rw [RetryTrace.answered, here]
    rfl
  simp only [RetryTrace.owns, Bool.and_eq_true, decide_eq_true_eq] at own
  obtain ⟨standing, thread⟩ := own
  obtain ⟨_, _, stood', conforms⟩ := sound.stands standing
  rw [thread, stood] at stood'
  cases stood'
  obtain ⟨permitted, conforms⟩ := conforms
  have intended : ∀ version, before.world.Intended version →
      after.world.Intended version ∨ retiredBy? answer = some version := by
    rw [← found, ← left]
    exact fun version => intended_of_answer answer responds
  have guarded := undisturbed
  rw [RetryTrace.undisturbedBy, Bool.and_eq_true] at guarded
  have owning : trace.owns answer.thread = true := by
    simp [RetryTrace.owns, standing, thread]
  rw [owning, Bool.not_true, Bool.false_or, Bool.and_eq_true] at guarded
  obtain ⟨collects, finished⟩ := guarded.1
  have complete : raises answer = true → (trace.answered answer).complete = true := by
    intro raised
    rwa [raised, Bool.not_true, Bool.false_or] at finished
  rw [same] at complete ⊢
  have continues : ∃ task rest, after.threads trace.thread = some ⟨task, rest⟩ ∧
      recoveryMonitor.Conforms rest (fun _ phase => phase.remaining = [])
        (trace.phase.nextCall answer.request answer.reply) := by
    rw [thread]
    exact ⟨task, rest answer.reply, stands, conforms answer.reply _ rfl⟩
  cases reset : resetBy? answer with
  | some rows =>
      rw [RetryTrace.advance_reset reset] at complete ⊢
      refine ⟨fun _ => continues, ?_, nofun⟩
      intro row member
      cases raised : raises answer with
      | true => exact .inl (of_decide_eq_true (List.all_eq_true.mp (complete raised) row member))
      | false => exact .inr ⟨standing, remaining_of_reset reset member collects raised⟩
  | none =>
      rw [RetryTrace.advance_none reset] at complete ⊢
      refine ⟨fun _ => continues, ?_, ?_⟩
      · intro row member
        cases raised : raises answer with
        | true =>
            exact .inl (of_decide_eq_true (List.all_eq_true.mp (complete raised) row member))
        | false =>
            rcases sound.owed row member with written | ⟨_, remains⟩
            · exact .inl (List.mem_append_right _ written)
            · rcases remaining_of_answer responds permitted raised remains with own | later
              · exact .inl (List.mem_append_left _ (by simp [own]))
              · exact .inr ⟨standing, later⟩
      · intro row member written
        rcases List.mem_append.mp written with own | earlier
        · rw [Option.mem_toList] at own
          have awaits := intended_of_writtenBy responds own
          rw [left] at awaits
          exact .inl awaits
        · exact (intended_of_undisturbed sound intended undisturbed member earlier).imp id
            (List.mem_append_right _)

end Sound

section Runs

variable {dispatcher : KnowledgeOutboxDispatcher} {worker : KnowledgeIndexWorker}
  {start : KnowledgeWorld} {steps : List RecoveryStep} {final : RecoveryState}
  {step : RecoveryStep}

theorem retries_concat :
    retries dispatcher worker (steps ++ [step]) =
      followRetries dispatcher worker (retries dispatcher worker steps) step := by
  simp [retries, List.foldl_append]

theorem RetriesUndisturbed.init
    (undisturbed : RetriesUndisturbed dispatcher worker (steps ++ [step])) :
    RetriesUndisturbed dispatcher worker steps := by
  intro i earlier found trace member
  have inside := RunHistory.lt_length_of_getElem? found
  refine undisturbed i earlier (RunHistory.getElem?_append found) trace ?_
  rwa [List.take_append_of_le_length inside.le]

theorem RetriesUndisturbed.last
    (undisturbed : RetriesUndisturbed dispatcher worker (steps ++ [step])) :
    ∀ trace ∈ retries dispatcher worker steps,
      trace.undisturbedAt dispatcher worker step = true := by
  intro trace member
  refine undisturbed steps.length step List.getElem?_concat_length trace ?_
  rwa [List.take_left]

theorem world_of_launch {before : KnowledgeWorld} {thread : Nat} {task : RecoveryTask}
    {world : KnowledgeWorld}
    (launched : (recoveryPool dispatcher worker).launch thread task before = some world) :
    world = before := by
  cases task with
  | retryFailed contractId => exact (Option.some.inj launched).symm
  | indexing task =>
      cases task with
      | drain limit => exact (Option.some.inj launched).symm
      | handle job =>
          simp only [recoveryPool] at launched
          split_ifs at launched
          exact (Option.some.inj launched).symm

/-- Undisturbed calls are sound wherever a run stands. -/
theorem retries_sound_of_run (run : (recoveryPool dispatcher worker).Run start steps final)
    (undisturbed : RetriesUndisturbed dispatcher worker steps) :
    ∀ trace ∈ retries dispatcher worker steps, trace.Sound final := by
  induction run with
  | nil => nofun
  | @step steps state run last found permitted induction =>
      have sound := induction undisturbed.init
      have allowed := undisturbed.last
      have moves := PoolSystem.moves_of_allowed permitted
      rw [retries_concat]
      rw [← found] at sound
      clear found
      generalize (recoveryPool dispatcher worker).after last = next at moves
      obtain ⟨event, before⟩ := last
      simp only at sound moves
      cases moves with
      | @start started task world vacant launched =>
          obtain rfl := world_of_launch launched
          have earlier : ∀ trace ∈ retries dispatcher worker steps, trace.Sound
              ⟨before.world, Function.update before.threads started
                (some ⟨task, (recoveryPool dispatcher worker).body task⟩)⟩ := by
            intro trace member
            refine (sound trace member).elsewhere ?_ fun _ intended => intended
            intro running stands
            have apart : trace.thread ≠ started := by
              rintro rfl
              rw [vacant] at stands
              cases stands
            simpa [Function.update_apply, apart] using stands
          cases task with
          | indexing task => exact earlier
          | retryFailed contractId =>
              intro trace member
              rcases List.mem_append.mp member with old | new
              · exact earlier trace old
              · obtain rfl := List.mem_singleton.mp new
                have stands : Function.update before.threads started
                    (some ⟨.retryFailed contractId,
                      (RecoveryTask.retryFailed contractId).body dispatcher worker⟩) started =
                    some ⟨.retryFailed contractId,
                      (RecoveryTask.retryFailed contractId).body dispatcher worker⟩ :=
                  Function.update_self ..
                exact .started stands
      | @call caller choice task request rest reply world stands answered =>
          have answer := PoolSystem.answer?_of_call (recoveryPool dispatcher worker) stands answered
          have follows : followRetries dispatcher worker (retries dispatcher worker steps)
              ⟨.call caller choice, before⟩ =
                (retries dispatcher worker steps).map
                  (·.answered ⟨caller, task, request, choice, reply, before.world, world⟩) := by
            simp only [followRetries, answer]
          intro trace listed
          rw [follows] at listed
          obtain ⟨old, member, rfl⟩ := List.mem_map.mp listed
          have kept := allowed old member
          simp only [RetryTrace.undisturbedAt, answer, Option.all_some] at kept
          by_cases own : old.owns caller = true
          · exact (sound old member).advances own stands (Function.update_self ..) answered rfl
              rfl kept
          · refine (sound old member).others (Bool.not_eq_true _ ▸ own) ?_
              (fun _ => intended_of_answer
                ⟨caller, task, request, choice, reply, before.world, world⟩ answered) kept
            intro running apart stood
            simpa [Function.update_apply, apart] using stood
      | @stop stopping stopped stands =>
          intro trace listed
          obtain ⟨old, member, rfl⟩ := List.mem_map.mp listed
          have kept := allowed old member
          simp only [RetryTrace.undisturbedAt, Bool.or_eq_true, Bool.not_eq_true'] at kept
          refine (sound old member).stopped ?_ ?_ rfl
          · intro own
            exact kept.resolve_left (by simp [own])
          · intro running apart stands
            simpa [Function.update_apply, apart] using stands
      | @outside event world happens =>
          cases happens
          intro trace member
          exact (sound trace member).elsewhere (fun _ stands => stands)
            fun _ => intended_of_outboxEvent

/-- Calls of `retry_failed` that are not disturbed strand no index, whatever else the
workers, the dispatchers and other requests do. -/
theorem retry_failed_strands_none (dispatcher : KnowledgeOutboxDispatcher)
    (worker : KnowledgeIndexWorker) (start : KnowledgeWorld) (steps : List RecoveryStep)
    (final : RecoveryState) (run : (recoveryPool dispatcher worker).Run start steps final)
    (undisturbed : RetriesUndisturbed dispatcher worker steps) :
    NeverStrands dispatcher worker steps final := by
  intro trace member over_ row changed
  have sound := retries_sound_of_run run undisturbed trace member
  have written : row.version ∈ trace.written := by
    rcases sound.owed row changed with written | ⟨standing, remains⟩
    · exact written
    · rcases over_ with stopped | ⟨task, result, ended⟩
      · rw [standing] at stopped
        cases stopped
      · obtain ⟨_, _, stands, conforms⟩ := sound.stands standing
        rw [ended] at stands
        cases stands
        have nothing : trace.phase.remaining = [] := conforms
        rw [nothing] at remains
        cases remains
  rcases sound.intended row changed written with intended | published
  · exact .inl intended
  · exact .inr (.inl published)

end Runs

/-! ## Two runs -/

section Sample

variable {dispatcher : KnowledgeOutboxDispatcher} {worker : KnowledgeIndexWorker}
  {steps : List RecoveryStep}

/-- Each step with the steps before it. -/
def undisturbedSteps (dispatcher : KnowledgeOutboxDispatcher)
    (worker : KnowledgeIndexWorker) (steps : List RecoveryStep) : Bool :=
  (List.range steps.length).all fun i => steps[i]?.all fun step =>
    (retries dispatcher worker (steps.take i)).all
      (·.undisturbedAt dispatcher worker step)

theorem undisturbed_of_check (checked : undisturbedSteps dispatcher worker steps = true) :
    RetriesUndisturbed dispatcher worker steps := by
  intro i step found trace member
  have inside := List.mem_range.mpr (RunHistory.lt_length_of_getElem? found)
  have each := List.all_eq_true.mp checked i inside
  rw [found, Option.all_some] at each
  exact List.all_eq_true.mp each trace member

/-- An index that has failed, and its intent, which was published. -/
def failedIndex : KnowledgeIndexRow :=
  { id := ⟨1, 0⟩, workspaceId := "inbox", contractId := ⟨90, 0⟩, contractVersionId := ⟨90, 1⟩
    embeddingModel := "bge-small", chunkingVersion := "v1", status := .failed }

def publishedIntent : KnowledgeOutboxRow :=
  { id := ⟨0, 0⟩, workspaceId := "inbox", contractId := ⟨90, 0⟩, contractVersionId := ⟨90, 1⟩
    status := .published, attempts := 1, nextAttemptAt := 0, createdAt := 0 }

def failedWorld : KnowledgeWorld where
  outbox := ⟨⟨[publishedIntent], List.nodup_singleton _⟩, List.nodup_singleton _⟩
  indexes := ⟨[failedIndex], List.nodup_singleton _⟩

def failedTriple : VersionTriple :=
  ("inbox", ⟨90, 0⟩, ⟨90, 1⟩)

/-- The call reads the failed index, and sets it back. -/
def settingBack : List (PoolEvent RecoveryTask RecoveryChoice KnowledgeOutboxEvent) :=
  [.start 0 (.retryFailed none),
    .call 0 (.request (.answered [failedTriple])),
    .call 0 (.request (.answered [])),
    .call 0 (.request (.proceed ⟨3, 3⟩))]

/-- It writes the intent, and returns. -/
def writingIntents : List (PoolEvent RecoveryTask RecoveryChoice KnowledgeOutboxEvent) :=
  [.call 0 (.request (.answered [failedTriple])),
    .call 0 (.request (.proceed ⟨4, 4⟩))]

def sampleRecovery
    (events : List (PoolEvent RecoveryTask RecoveryChoice KnowledgeOutboxEvent)) :
    Option (List RecoveryStep × RecoveryState) :=
  (recoveryPool sampleDispatcher sampleIndexer).extend [] { world := failedWorld } events

example : (failedWorld.resetRows none).map (·.version) = [("inbox", ⟨90, 1⟩)] := by
  decide

theorem orderlyRetry_isSome :
    (sampleRecovery (settingBack ++ writingIntents)).isSome := by
  decide

theorem stoppedRetry_isSome : (sampleRecovery (settingBack ++ [.stop 0])).isSome := by
  decide

/-- The call returns. -/
def orderlyRetry : List RecoveryStep × RecoveryState :=
  (sampleRecovery (settingBack ++ writingIntents)).get orderlyRetry_isSome

/-- The call is stopped before it has written the intent. -/
def stoppedRetry : List RecoveryStep × RecoveryState :=
  (sampleRecovery (settingBack ++ [.stop 0])).get stoppedRetry_isSome

theorem orderlyRetry_run :
    (recoveryPool sampleDispatcher sampleIndexer).Run failedWorld orderlyRetry.1
      orderlyRetry.2 :=
  PoolSystem.run_of_extend .nil (Option.some_get orderlyRetry_isSome).symm

theorem stoppedRetry_run :
    (recoveryPool sampleDispatcher sampleIndexer).Run failedWorld stoppedRetry.1
      stoppedRetry.2 :=
  PoolSystem.run_of_extend .nil (Option.some_get stoppedRetry_isSome).symm

theorem retry_failed_strands_none_orderly :
    NeverStrands sampleDispatcher sampleIndexer orderlyRetry.1 orderlyRetry.2 ∧
      (retries sampleDispatcher sampleIndexer orderlyRetry.1).map (·.changed) =
        [[failedIndex]] := by
  constructor
  · exact retry_failed_strands_none sampleDispatcher sampleIndexer failedWorld orderlyRetry.1
      orderlyRetry.2 orderlyRetry_run (undisturbed_of_check (by decide))
  · decide

/-- A call that is stopped behind the update leaves an index with an intent that was
published before. -/
theorem stopped_retry_strands :
    ¬ ∀ (dispatcher : KnowledgeOutboxDispatcher) (worker : KnowledgeIndexWorker)
        (start : KnowledgeWorld) (steps : List RecoveryStep) (final : RecoveryState),
      (recoveryPool dispatcher worker).Run start steps final →
        NeverStrands dispatcher worker steps final := by
  intro never
  have strands := never _ _ _ _ _ stoppedRetry_run
  have traces : retries sampleDispatcher sampleIndexer stoppedRetry.1 =
      [{ thread := 0, standing := false, phase := .reset [failedTriple]
         changed := [failedIndex] }] := by
    decide
  have intents : (stoppedRetry.2.world.outbox.intent? failedIndex.version).map (·.status) =
      some .published := by
    decide
  have indexes : (stoppedRetry.2.world.indexes.find? failedIndex.key).map (·.status) =
      some .pending := by
    decide
  rw [NeverStrands, traces] at strands
  rcases strands _ (List.mem_singleton_self _) (.inl rfl) failedIndex
    (List.mem_singleton_self _) with ⟨row, found, status⟩ | published | ⟨now, found, failed⟩
  · rw [found, Option.map_some, Option.some.injEq] at intents
    simp [intents] at status
  · cases published
  · rw [found, Option.map_some, failed] at indexes
    cases indexes

end Sample

end ContractMate
