import ContractMate.KnowledgeOutbox
import ContractMate.ProgramPool

/-!
# Dispatching index jobs

`drain_once` claims due intents, publishes a job for each and reports back to the outbox.
Dispatchers run next to each other, to requests and to workers, and may stop anywhere.  A
report names the intent only, not the claim it belongs to.
-/

namespace ContractMate

/-! ## A dispatcher -/

/-- The settings of a dispatcher, raised to one by its constructor. -/
structure KnowledgeOutboxDispatcher where
  maxAttempts : Int
  baseBackoffSeconds : Int
  leaseSeconds : Int
  maxAttempts_pos : 1 ≤ maxAttempts

/-- `__init__`. -/
def KnowledgeOutboxDispatcher.init (maxAttempts baseBackoffSeconds leaseSeconds : Int) :
    KnowledgeOutboxDispatcher where
  maxAttempts := max maxAttempts 1
  baseBackoffSeconds := max baseBackoffSeconds 1
  leaseSeconds := max leaseSeconds 1
  maxAttempts_pos := le_max_right _ _

/-- `enqueue` publishes a job with the identifiers of the item. -/
inductive KnowledgeDispatchCall where
  | claimDue (limit leaseSeconds : Int)
  | enqueue (item : KnowledgeOutboxItem)
  | markPublished (outboxId : Uuid)
  | reschedule (outboxId : Uuid) (attempts : Nat) (maxAttempts baseBackoffSeconds : Int)

def KnowledgeDispatchCall.Ret : KnowledgeDispatchCall → Type
  | claimDue _ _ => List KnowledgeOutboxItem
  | _ => Unit

abbrev KnowledgeDispatchProg :=
  Prog KnowledgeDispatchCall KnowledgeDispatchCall.Ret Exn

def claimIntents (limit leaseSeconds : Int) :
    KnowledgeDispatchProg (List KnowledgeOutboxItem) :=
  Prog.perform (KnowledgeDispatchCall.claimDue limit leaseSeconds)

namespace KnowledgeOutboxItem

variable (item : KnowledgeOutboxItem)

def enqueueJob : KnowledgeDispatchProg Unit :=
  Prog.perform (KnowledgeDispatchCall.enqueue item)

def markIntentPublished : KnowledgeDispatchProg Unit :=
  Prog.perform (KnowledgeDispatchCall.markPublished item.id)

def rescheduleIntent (dispatcher : KnowledgeOutboxDispatcher) :
    KnowledgeDispatchProg Unit :=
  Prog.perform (KnowledgeDispatchCall.reschedule item.id item.attempts
    dispatcher.maxAttempts dispatcher.baseBackoffSeconds)

/-- The `try` block of the loop: whether the job was published. -/
def publish (dispatcher : KnowledgeOutboxDispatcher) : KnowledgeDispatchProg Bool :=
  Prog.tryExcept
    (do
      item.enqueueJob
      pure true)
    fun _ => do
      item.rescheduleIntent dispatcher
      pure false

end KnowledgeOutboxItem

namespace KnowledgeOutboxDispatcher

variable (dispatcher : KnowledgeOutboxDispatcher)

/-- The loop of `drain_once`, which counts the published jobs. -/
def drainItems (published : Nat) :
    List KnowledgeOutboxItem → KnowledgeDispatchProg Nat
  | [] => pure published
  | item :: rest => do
      let confirmed ← item.publish dispatcher
      if confirmed then
        item.markIntentPublished
        drainItems (published + 1) rest
      else
        drainItems published rest

/-- `drain_once`. -/
def drainOnce (limit : Int) : KnowledgeDispatchProg Nat := do
  let items ← claimIntents limit dispatcher.leaseSeconds
  dispatcher.drainItems 0 items

end KnowledgeOutboxDispatcher

/-! ## Dispatchers and the outbox -/

/-- How a call comes out: it succeeds, it takes effect but raises, or it raises.
`locked` are the rows that other transactions hold. -/
inductive KnowledgeChoice where
  | proceed (stamp : Stamp) (locked : List Uuid)
  | lost (stamp : Stamp) (locked : List Uuid) (error : Exn)
  | raised (error : Exn)

namespace KnowledgeChoice

/-- Whether the call takes effect. -/
def commits : KnowledgeChoice → Bool
  | proceed _ _ | lost _ _ _ => true
  | raised _ => false

/-- The items that the claim takes. -/
def claimedItems (outbox : KnowledgeOutbox) (limit leaseSeconds : Int) :
    KnowledgeChoice → List KnowledgeOutboxItem
  | proceed stamp locked | lost stamp locked _ =>
      (outbox.claimDue stamp locked limit leaseSeconds).1
  | raised _ => []

def respond {Value : Type} (outbox : KnowledgeOutbox)
    (body : Stamp → List Uuid → Value × KnowledgeOutbox) :
    KnowledgeChoice → Except Exn Value × KnowledgeOutbox
  | proceed stamp locked => (.ok (body stamp locked).1, (body stamp locked).2)
  | lost stamp locked error => (.error error, (body stamp locked).2)
  | raised error => (.error error, outbox)

end KnowledgeChoice

namespace KnowledgeOutbox

def respond : Prog.Respond KnowledgeDispatchCall KnowledgeDispatchCall.Ret Exn
    KnowledgeOutbox KnowledgeChoice :=
  fun choice outbox request =>
    match request with
    | .claimDue limit leaseSeconds =>
        some (choice.respond outbox fun stamp locked =>
          outbox.claimDue stamp locked limit leaseSeconds)
    | .enqueue _ => some (choice.respond outbox fun _ _ => ((), outbox))
    | .markPublished outboxId =>
        some (choice.respond outbox fun _ _ => ((), outbox.markPublished outboxId))
    | .reschedule outboxId attempts maxAttempts baseBackoffSeconds =>
        some (choice.respond outbox fun stamp _ =>
          ((), outbox.reschedule stamp outboxId attempts maxAttempts
            baseBackoffSeconds))

end KnowledgeOutbox

/-- What else happens to the outbox. -/
inductive KnowledgeOutboxCall where
  | enqueueIntent (workspaceId : String) (contractId contractVersionId : Uuid)
      (force : Bool)
  | recordConsumerFailure (outboxId : Uuid) (terminal : Bool)

structure KnowledgeOutboxEvent where
  stamp : Stamp
  call : KnowledgeOutboxCall

namespace KnowledgeOutboxEvent

variable (event : KnowledgeOutboxEvent) (outbox : KnowledgeOutbox)

/-- The outbox that the event leaves; a request that raises is rolled back. -/
def after : KnowledgeOutbox :=
  match event.call with
  | .enqueueIntent workspaceId contractId contractVersionId force =>
      match outbox.enqueueIntent event.stamp workspaceId contractId contractVersionId
          force with
      | .ok (_, after) => after
      | .error _ => outbox
  | .recordConsumerFailure outboxId terminal =>
      outbox.recordConsumerFailure outboxId terminal

/-- The event is a forced request for a version, and commits. -/
def forces (version : String × Uuid) : Bool :=
  match event.call with
  | .enqueueIntent workspaceId contractId contractVersionId force =>
      force && decide ((workspaceId, contractVersionId) = version) &&
        (outbox.enqueueIntent event.stamp workspaceId contractId contractVersionId
          force).isOk
  | .recordConsumerFailure _ _ => false

end KnowledgeOutboxEvent

/-- Dispatchers, each draining up to a limit of its own. -/
def knowledgeDispatchers (dispatcher : KnowledgeOutboxDispatcher) :
    PoolSystem Int KnowledgeDispatchCall KnowledgeDispatchCall.Ret Exn Nat
      KnowledgeOutbox KnowledgeChoice KnowledgeOutboxEvent where
  body := dispatcher.drainOnce
  respond := fun _ => KnowledgeOutbox.respond
  outside := fun event outbox => some (event.after outbox)

abbrev KnowledgeDispatchStep :=
  PoolStep Int KnowledgeDispatchCall KnowledgeDispatchCall.Ret Exn Nat
    KnowledgeOutbox KnowledgeChoice KnowledgeOutboxEvent

abbrev KnowledgeDispatchState :=
  PoolState Int KnowledgeDispatchCall KnowledgeDispatchCall.Ret Exn Nat KnowledgeOutbox

abbrev KnowledgeDispatchAnswer :=
  PoolAnswer Int KnowledgeDispatchCall KnowledgeDispatchCall.Ret Exn KnowledgeOutbox
    KnowledgeChoice

/-! ## What has become of a request -/

/-- A publish attempt: the thread that claimed the intent, whether the attempt has
failed, and whether the thread has stopped. -/
structure PublishAttempt where
  thread : Nat
  failed : Bool := false
  stopped : Bool := false
deriving DecidableEq, Repr

/-- The attempts that were claimed since the request, the latest first, and whether the
broker has confirmed a job of the version since. -/
structure RequestTrace where
  attempts : List PublishAttempt := []
  confirmed : Bool := false
deriving DecidableEq, Repr

namespace RequestTrace

variable (trace : RequestTrace)

/-- The latest attempt has failed: its lease has run out. -/
def expired : RequestTrace :=
  match trace.attempts with
  | latest :: older => { trace with attempts := { latest with failed := true } :: older }
  | [] => trace

def claimedBy (thread : Nat) : RequestTrace :=
  { trace with attempts := { thread } :: trace.attempts }

/-- The attempts of a thread that has not stopped have failed. -/
def raisedBy (thread : Nat) : RequestTrace :=
  { trace with
    attempts := trace.attempts.map fun attempt =>
      if attempt.thread = thread && !attempt.stopped then
        { attempt with failed := true }
      else attempt }

/-- The thread stops, and with it its attempts. -/
def stoppedBy (thread : Nat) : RequestTrace :=
  { trace with
    attempts := trace.attempts.map fun attempt =>
      if attempt.thread = thread then
        { attempt with failed := true, stopped := true }
      else attempt }

/-- The running thread holds the latest claim. -/
def LatestOf (thread : Nat) : Prop :=
  ∃ latest, trace.attempts.head? = some latest ∧ latest.thread = thread ∧
    latest.stopped = false

instance (thread : Nat) : Decidable (trace.LatestOf thread) :=
  decidable_of_iff
    (trace.attempts.head?.any fun latest =>
      latest.thread = thread && !latest.stopped) (by
    simp [LatestOf, Option.any_eq_true])

/-- The trace after an answer. -/
def answered (version : String × Uuid) (answer : KnowledgeDispatchAnswer) :
    RequestTrace :=
  match answer.request with
  | .claimDue limit leaseSeconds =>
      let items := answer.choice.claimedItems answer.before limit leaseSeconds
      if items.any (·.version = version) then
        let taken := answer.before.intent? version
        (if taken.any (·.status = .publishing) then trace.expired
          else trace).claimedBy answer.thread
      else trace
  | .enqueue item =>
      if item.version = version then
        if answer.choice.commits then { trace with confirmed := true }
        else trace.raisedBy answer.thread
      else trace
  | .markPublished _ | .reschedule .. => trace

end RequestTrace

section Requests

variable (dispatcher : KnowledgeOutboxDispatcher) (version : String × Uuid)

/-- A forced request opens a trace; the steps after it extend it. -/
def followRequest (trace : Option RequestTrace) (step : KnowledgeDispatchStep) :
    Option RequestTrace :=
  match step.event with
  | .start _ _ => trace
  | .call _ _ =>
      match (knowledgeDispatchers dispatcher).answer? step with
      | some answer => trace.map fun trace => trace.answered version answer
      | none => trace
  | .stop thread => trace.map fun trace => trace.stoppedBy thread
  | .outside event =>
      if event.forces step.before.world version then some {} else trace

/-- The latest forced request for a version. -/
def request? (steps : List KnowledgeDispatchStep) : Option RequestTrace :=
  steps.foldl (followRequest dispatcher version) none

end Requests

/-- The intent is due to be published again. -/
def KnowledgeOutboxRow.WillPublish (row : KnowledgeOutboxRow) : Prop :=
  row.status = .pending ∨
    row.status = .publishing ∧ row.leaseExpiresAt.isSome = true

/-- The request has not been lost. -/
def RequestTrace.Kept (trace : RequestTrace) (maxAttempts : Int)
    (row : KnowledgeOutboxRow) : Prop :=
  row.WillPublish ∨ trace.confirmed = true ∨
    row.status = .failed ∧ maxAttempts ≤ trace.attempts.countP (·.failed)

/-- Every forced request is kept. -/
def RequestsKept (dispatcher : KnowledgeOutboxDispatcher)
    (steps : List KnowledgeDispatchStep) (final : KnowledgeDispatchState) : Prop :=
  ∀ version trace, request? dispatcher version steps = some trace →
    ∃ row, final.world.intent? version = some row ∧
      trace.Kept dispatcher.maxAttempts row

/-- The intent that a report names. -/
def KnowledgeDispatchCall.reports? : KnowledgeDispatchCall → Option Uuid
  | markPublished outboxId | reschedule outboxId .. => some outboxId
  | claimDue .. | enqueue _ => none

/-- While no job has been confirmed since a forced request, only the holder of the
latest claim reports back to a publishing intent. -/
def HoldersReport (dispatcher : KnowledgeOutboxDispatcher)
    (steps : List KnowledgeDispatchStep) : Prop :=
  ∀ i step answer outboxId row trace, steps[i]? = some step →
    (knowledgeDispatchers dispatcher).answer? step = some answer →
    answer.request.reports? = some outboxId → answer.choice.commits = true →
    answer.before.table.find? outboxId = some row → row.status = .publishing →
    request? dispatcher row.version (steps.take i) = some trace →
    trace.confirmed = false → trace.LatestOf answer.thread

/-! ## Phases of a dispatcher -/

/-- Where a dispatcher stands: it claims, works on its items, or has just published or
failed to publish the first of them. -/
inductive DispatchPhase where
  | claiming
  | working (items : List KnowledgeOutboxItem)
  | confirmed (item : KnowledgeOutboxItem) (items : List KnowledgeOutboxItem)
  | refused (item : KnowledgeOutboxItem) (items : List KnowledgeOutboxItem)

namespace DispatchPhase

/-- The items that the dispatcher has not dealt with. -/
def items : DispatchPhase → List KnowledgeOutboxItem
  | claiming => []
  | working items => items
  | confirmed item items | refused item items => item :: items

def permits (dispatcher : KnowledgeOutboxDispatcher) :
    DispatchPhase → KnowledgeDispatchCall → Prop
  | claiming, .claimDue _ _ => True
  | working items, .enqueue item => items.head? = some item
  | confirmed item _, .markPublished outboxId => outboxId = item.id
  | refused item _, .reschedule outboxId attempts maxAttempts _ =>
      outboxId = item.id ∧ attempts = item.attempts ∧
        maxAttempts = dispatcher.maxAttempts
  | _, _ => False

def next : DispatchPhase → (request : KnowledgeDispatchCall) →
    Except Exn request.Ret → DispatchPhase
  | claiming, .claimDue _ _, .ok items => working items
  | claiming, .claimDue _ _, .error _ => working []
  | working (item :: items), .enqueue _, .ok _ => confirmed item items
  | working (item :: items), .enqueue _, .error _ => refused item items
  | confirmed _ items, .markPublished _, _ => working items
  | refused _ items, .reschedule .., _ => working items
  | phase, _, _ => phase

end DispatchPhase

abbrev dispatchMonitor (dispatcher : KnowledgeOutboxDispatcher) :
    Monitor KnowledgeDispatchCall KnowledgeDispatchCall.Ret Exn :=
  .deterministic (DispatchPhase.permits dispatcher) DispatchPhase.next

section Conformance

variable {dispatcher : KnowledgeOutboxDispatcher}

theorem conforms_publish (item : KnowledgeOutboxItem)
    (items : List KnowledgeOutboxItem) :
    (dispatchMonitor dispatcher).Conforms (item.publish dispatcher)
      (fun result after => ∀ confirmed, result = .ok confirmed →
        after = if confirmed then .confirmed item items else .working items)
      (.working (item :: items)) := by
  refine ⟨rfl, ?_⟩
  rintro reply after rfl
  cases reply with
  | ok _ =>
      rintro confirmed same
      cases same
      rfl
  | error error =>
      refine ⟨⟨rfl, rfl, rfl⟩, ?_⟩
      rintro reply after rfl
      cases reply with
      | error error => nofun
      | ok _ =>
          rintro confirmed same
          cases same
          rfl

theorem conforms_drainItems (published : Nat) (items : List KnowledgeOutboxItem) :
    (dispatchMonitor dispatcher).Conforms (dispatcher.drainItems published items)
      (fun _ _ => True) (.working items) := by
  induction items generalizing published with
  | nil => trivial
  | cons item items induction =>
      apply (conforms_publish item items).bind
      · intro confirmed after reached
        rw [reached confirmed rfl]
        cases confirmed with
        | false => exact induction published
        | true =>
            refine ⟨rfl, ?_⟩
            rintro reply after rfl
            cases reply with
            | error error => trivial
            | ok _ => exact induction (published + 1)
      · intro error after _
        trivial

/-- A dispatcher keeps to its phases. -/
theorem conforms_drainOnce (limit : Int) :
    (dispatchMonitor dispatcher).Conforms (dispatcher.drainOnce limit)
      (fun _ _ => True) .claiming := by
  refine ⟨trivial, ?_⟩
  rintro reply after rfl
  cases reply with
  | error error => trivial
  | ok items => exact conforms_drainItems 0 items

end Conformance

/-! ## Traces and rows -/

/-- A row keeps its identifier and its version. -/
def KnowledgeOutbox.Extends (outbox after : KnowledgeOutbox) : Prop :=
  ∀ id row, outbox.table.find? id = some row →
    ∃ later, after.table.find? id = some later ∧ later.version = row.version

namespace RequestTrace

variable {trace : RequestTrace} {maxAttempts : Int} {row : KnowledgeOutboxRow}
  {thread other : Nat}

/-- How the row of a request and the unconfirmed attempts since agree. -/
structure Fits (trace : RequestTrace) (maxAttempts : Int) (row : KnowledgeOutboxRow) :
    Prop where
  counted : row.attempts = trace.attempts.length
  older : ∀ attempt ∈ trace.attempts.tail, attempt.failed = true
  settled : row.status ≠ .publishing → ∀ attempt ∈ trace.attempts,
    attempt.failed = true
  leased : row.status = .publishing → row.leaseExpiresAt.isSome = true
  unpublished : row.status ≠ .published
  exhausted : row.status = .failed → maxAttempts ≤ trace.attempts.length

theorem Fits.kept (fits : trace.Fits maxAttempts row) : trace.Kept maxAttempts row := by
  cases status : row.status with
  | pending => exact .inl (.inl status)
  | publishing => exact .inl (.inr ⟨status, fits.leased status⟩)
  | published => exact absurd status fits.unpublished
  | failed =>
      have settled := fits.settled (by simp [status])
      have all : trace.attempts.countP (·.failed) = trace.attempts.length :=
        List.countP_eq_length.mpr settled
      refine .inr (.inr ⟨status, ?_⟩)
      rw [all]
      exact fits.exhausted status

/-- Attempts only come to fail. -/
theorem Fits.of_map {change : PublishAttempt → PublishAttempt}
    (fits : trace.Fits maxAttempts row)
    (fails : ∀ attempt, attempt.failed = true → (change attempt).failed = true) :
    ({ trace with attempts := trace.attempts.map change } : RequestTrace).Fits
      maxAttempts row where
  counted := by
    rw [List.length_map]
    exact fits.counted
  older := by
    rw [← List.map_tail]
    intro attempt member
    obtain ⟨before, present, rfl⟩ := List.mem_map.mp member
    exact fails before (fits.older before present)
  settled := by
    intro status attempt member
    obtain ⟨before, present, rfl⟩ := List.mem_map.mp member
    exact fails before (fits.settled status before present)
  leased := fits.leased
  unpublished := fits.unpublished
  exhausted := by
    rw [List.length_map]
    exact fits.exhausted

theorem Fits.raisedBy (fits : trace.Fits maxAttempts row) :
    (trace.raisedBy thread).Fits maxAttempts row := by
  apply fits.of_map
  intro attempt failed
  split_ifs
  · rfl
  · exact failed

theorem Fits.stoppedBy (fits : trace.Fits maxAttempts row) :
    (trace.stoppedBy thread).Fits maxAttempts row := by
  apply fits.of_map
  intro attempt failed
  split_ifs
  · rfl
  · exact failed

/-- A row is claimed: the attempts before have failed. -/
theorem Fits.claimedBy {expiry : Int} (fits : trace.Fits maxAttempts row) :
    ((if row.status = .publishing then trace.expired else trace).claimedBy thread).Fits
      maxAttempts (row.claimed expiry) := by
  have failed : ∀ attempt ∈ (if row.status = .publishing then trace.expired
      else trace).attempts, attempt.failed = true := by
    by_cases publishing : row.status = .publishing
    · rw [if_pos publishing]
      have older := fits.older
      unfold expired
      cases attempts : trace.attempts with
      | nil => simp [attempts]
      | cons latest rest => simpa [attempts] using older
    · rw [if_neg publishing]
      exact fits.settled publishing
  have length : (if row.status = .publishing then trace.expired
      else trace).attempts.length = trace.attempts.length := by
    split_ifs
    · unfold expired
      split
      · rename_i attempts
        simp [attempts]
      · rfl
    · rfl
  constructor
  · simp only [RequestTrace.claimedBy, List.length_cons, length]
    exact congrArg (· + 1) fits.counted
  · exact failed
  · exact fun status => absurd rfl status
  · exact fun _ => rfl
  · nofun
  · nofun

/-- The holder of the latest claim has failed to publish, and gives up or not. -/
theorem Fits.rescheduled {attempts : Nat} {nextAttemptAt : Int}
    (fits : trace.Fits maxAttempts row) (counted : attempts = trace.attempts.length)
    (positive : 1 ≤ maxAttempts)
    (failed : ∀ latest, trace.attempts.head? = some latest → latest.failed = true) :
    trace.Fits maxAttempts
      { row with
        status := if max maxAttempts 1 ≤ attempts then .failed else .pending
        nextAttemptAt, leaseExpiresAt := none } where
  counted := fits.counted
  older := fits.older
  settled := by
    intro _ attempt member
    cases attempts : trace.attempts with
    | nil => simp [attempts] at member
    | cons latest rest =>
        have older := fits.older
        rw [attempts] at member failed older
        rcases List.mem_cons.mp member with rfl | member
        · exact failed attempt rfl
        · exact older attempt member
  leased := by
    intro status
    simp only at status
    split_ifs at status
  unpublished := by
    simp only
    split_ifs <;> nofun
  exhausted := by
    intro status
    simp only at status
    split_ifs at status with reached
    omega

theorem latestOf_raisedBy (latest : (trace.raisedBy thread).LatestOf other) :
    trace.LatestOf other := by
  obtain ⟨attempt, head, own, running⟩ := latest
  rw [RequestTrace.raisedBy, List.head?_map, Option.map_eq_some_iff] at head
  obtain ⟨before, head, rfl⟩ := head
  split_ifs at own running <;> exact ⟨before, head, own, running⟩

theorem latestOf_stoppedBy (latest : (trace.stoppedBy thread).LatestOf other) :
    other ≠ thread ∧ trace.LatestOf other := by
  obtain ⟨attempt, head, own, running⟩ := latest
  rw [RequestTrace.stoppedBy, List.head?_map, Option.map_eq_some_iff] at head
  obtain ⟨before, head, rfl⟩ := head
  split_ifs at own running with same
  · exact ⟨by rw [← own]; exact same, before, head, own, running⟩

theorem latestOf_claimedBy :
    (trace.claimedBy thread).LatestOf other ↔ thread = other := by
  constructor
  · rintro ⟨attempt, head, own, _⟩
    cases head
    exact own
  · rintro rfl
    exact ⟨_, rfl, rfl, rfl⟩

end RequestTrace

/-! ## The holder of the latest claim -/

/-- What a dispatcher still knows of the latest claim of a version, which it holds. -/
structure DispatchPhase.Holds (phase : DispatchPhase) (version : String × Uuid)
    (trace : RequestTrace) : Prop where
  begun : phase ≠ .claiming
  counted : ∀ item ∈ phase.items, item.version = version →
    item.attempts = trace.attempts.length
  unconfirmed : ∀ item items, phase = .confirmed item items → item.version ≠ version
  failed : ∀ item items, phase = .refused item items → item.version = version →
    ∀ latest, trace.attempts.head? = some latest → latest.failed = true

/-- The items of a dispatcher belong to rows of the outbox. -/
def DispatchPhase.Named (phase : DispatchPhase) (outbox : KnowledgeOutbox) : Prop :=
  ∀ item ∈ phase.items, ∃ row, outbox.table.find? item.id = some row ∧
    row.version = item.version

namespace DispatchPhase

variable {phase : DispatchPhase} {version : String × Uuid} {trace : RequestTrace}
  {outbox after : KnowledgeOutbox}

theorem Named.mono (named : phase.Named outbox) (extends_ : outbox.Extends after) :
    phase.Named after := by
  intro item member
  obtain ⟨row, found, same⟩ := named item member
  obtain ⟨later, found, kept⟩ := extends_ _ _ found
  exact ⟨later, found, kept.trans same⟩

/-- Nobody else's failure matters to the holder. -/
theorem Holds.raisedBy {thread : Nat} (holds : phase.Holds version trace) :
    phase.Holds version (trace.raisedBy thread) where
  begun := holds.begun
  counted := by
    simp only [RequestTrace.raisedBy, List.length_map]
    exact holds.counted
  unconfirmed := holds.unconfirmed
  failed := by
    intro item items refused own latest head
    rw [RequestTrace.raisedBy, List.head?_map, Option.map_eq_some_iff] at head
    obtain ⟨before, head, rfl⟩ := head
    have failed := holds.failed item items refused own before head
    split_ifs
    · rfl
    · exact failed

theorem Holds.stoppedBy {thread : Nat} (holds : phase.Holds version trace) :
    phase.Holds version (trace.stoppedBy thread) where
  begun := holds.begun
  counted := by
    simp only [RequestTrace.stoppedBy, List.length_map]
    exact holds.counted
  unconfirmed := holds.unconfirmed
  failed := by
    intro item items refused own latest head
    rw [RequestTrace.stoppedBy, List.head?_map, Option.map_eq_some_iff] at head
    obtain ⟨before, head, rfl⟩ := head
    have failed := holds.failed item items refused own before head
    split_ifs
    · rfl
    · exact failed

/-- The holder has dealt with an item. -/
theorem Holds.working {items : List KnowledgeOutboxItem}
    (holds : phase.Holds version trace) (fewer : ∀ item ∈ items, item ∈ phase.items) :
    (working items).Holds version trace where
  begun := nofun
  counted := fun item member => holds.counted item (fewer item member)
  unconfirmed := nofun
  failed := nofun

end DispatchPhase

/-! ## What the outbox operations keep -/

namespace KnowledgeOutbox

variable {outbox after : KnowledgeOutbox} {stamp : Stamp}

theorem Extends.refl (outbox : KnowledgeOutbox) : outbox.Extends outbox :=
  fun _ row found => ⟨row, found, rfl⟩

theorem extends_updateWhere (condition : KnowledgeOutboxRow → Bool)
    (change : RowTable.Change KnowledgeOutboxRow.id)
    (unset : ∀ row, (change.apply row).version = row.version) :
    outbox.Extends (outbox.updateWhere condition change unset) := by
  intro id row found
  refine ⟨if condition row then change.apply row else row, ?_, ?_⟩
  · refine (RowTable.find?_updateWhere _ _ _ _).trans ?_
    rw [found, Option.map_some]
  · split_ifs
    · exact unset row
    · rfl

theorem extends_claimDue (locked : List Uuid) (limit leaseSeconds : Int) :
    outbox.Extends (outbox.claimDue stamp locked limit leaseSeconds).2 := by
  intro id row found
  rcases claimDue_cases outbox stamp locked limit leaseSeconds id with
    ⟨taken, present, _, _, _, written⟩ | ⟨_, same⟩
  · rw [found, Option.some.injEq] at present
    subst present
    exact ⟨_, written, rfl⟩
  · exact ⟨row, same.trans found, rfl⟩

theorem extends_upsertIntent {workspaceId : String}
    {contractId contractVersionId : Uuid} {force : Bool}
    (upserted : outbox.upsertIntent stamp workspaceId contractId contractVersionId
      force = .ok after) : outbox.Extends after := by
  intro id row found
  rcases upsertIntent_cases upserted with ⟨old, intent, rows⟩ | ⟨_, fresh, rows⟩
  · have stored := (intent?_eq_some_iff.mp intent).1
    rw [rows]
    by_cases same : id = old.id
    · subst same
      rw [stored, Option.some.injEq] at found
      subst found
      exact ⟨_, if_pos rfl, by cases force <;> rfl⟩
    · exact ⟨row, by rw [if_neg same, found], rfl⟩
  · have other : id ≠ stamp.uuid4 0 := by
      rintro rfl
      rw [fresh] at found
      cases found
    exact ⟨row, by rw [rows, if_neg other, found], rfl⟩

/-- A request that returns has upserted its intent. -/
theorem enqueueIntent_ok {workspaceId : String} {contractId contractVersionId : Uuid}
    {force : Bool} {id : Uuid}
    (enqueued : outbox.enqueueIntent stamp workspaceId contractId contractVersionId
      force = .ok (id, after)) :
    outbox.upsertIntent stamp workspaceId contractId contractVersionId force =
      .ok after := by
  unfold enqueueIntent at enqueued
  cases upserted : outbox.upsertIntent stamp workspaceId contractId contractVersionId
      force with
  | error error =>
      rw [upserted] at enqueued
      cases enqueued
  | ok written =>
      simp only [upserted, bind, Except.bind] at enqueued
      split at enqueued
      · cases enqueued
        rfl
      · cases enqueued

/-- A row of the version is its intent. -/
theorem intent?_of_find? {version : String × Uuid} {id : Uuid}
    {row : KnowledgeOutboxRow} (found : outbox.table.find? id = some row)
    (named : row.version = version) : outbox.intent? version = some row := by
  apply intent?_eq_some_iff.mpr
  rw [RowTable.key_of_find? found]
  exact ⟨found, named⟩

/-- A claim takes the row of a version, or leaves it. -/
theorem respond_claimDue {choice : KnowledgeChoice} {limit leaseSeconds : Int}
    {reply : Except Exn (List KnowledgeOutboxItem)} {version : String × Uuid}
    {row : KnowledgeOutboxRow}
    (responds : choice.respond outbox (fun stamp locked =>
      outbox.claimDue stamp locked limit leaseSeconds) = (reply, after))
    (intent : outbox.intent? version = some row) :
    ((choice.claimedItems outbox limit leaseSeconds).any (·.version = version) = true ∧
      (∃ expiry, after.intent? version = some (row.claimed expiry)) ∧
      ∀ items, reply = .ok items → ∀ item ∈ items, item.version = version →
        item.attempts = row.attempts + 1) ∨
    ((choice.claimedItems outbox limit leaseSeconds).any (·.version = version) = false ∧
      after.intent? version = some row) := by
  obtain ⟨stored, named⟩ := intent?_eq_some_iff.mp intent
  have own (stamp : Stamp) (locked : List Uuid) (item : KnowledgeOutboxItem)
      (member : item ∈ (outbox.claimDue stamp locked limit leaseSeconds).1)
      (same : item.version = version) : item = row.item := by
    rw [items_claimDue] at member
    obtain ⟨taken, present, rfl⟩ := List.mem_map.mp member
    have again := intent?_eq_some_iff.mpr ⟨(mem_takes present).1, same⟩
    rw [intent, Option.some.injEq] at again
    rw [again]
  have claims (stamp : Stamp) (locked : List Uuid) :
      (((outbox.claimDue stamp locked limit leaseSeconds).1.any
            (·.version = version)) = true ∧
        ∃ expiry, (outbox.claimDue stamp locked limit leaseSeconds).2.intent? version =
          some (row.claimed expiry)) ∨
      (((outbox.claimDue stamp locked limit leaseSeconds).1.any
            (·.version = version)) = false ∧
        (outbox.claimDue stamp locked limit leaseSeconds).2.intent? version =
          some row) := by
    rcases claimDue_cases outbox stamp locked limit leaseSeconds row.id with
      ⟨taken, found, _, member, _, written⟩ | ⟨spared, same⟩
    · rw [stored, Option.some.injEq] at found
      subst found
      refine .inl ⟨List.any_eq_true.mpr ⟨_, member, decide_eq_true named⟩, _,
        intent?_of_find? written named⟩
    · refine .inr ⟨List.any_eq_false.mpr ?_, intent?_of_find? (same.trans stored) named⟩
      intro item member same
      have same := of_decide_eq_true same
      apply spared item member
      rw [own stamp locked item member same]
      rfl
  cases choice with
  | raised error =>
      cases responds
      exact .inr ⟨rfl, intent⟩
  | lost stamp locked error =>
      cases responds
      exact (claims stamp locked).imp (fun ⟨taken, written⟩ => ⟨taken, written, nofun⟩) id
  | proceed stamp locked =>
      cases responds
      refine (claims stamp locked).imp (fun ⟨taken, written⟩ => ⟨taken, written, ?_⟩) id
      intro items same item member version
      cases same
      rw [own stamp locked item member version]
      rfl

theorem extends_respond {choice : KnowledgeChoice} {request : KnowledgeDispatchCall}
    {reply : Except Exn request.Ret}
    (responds : respond choice outbox request = some (reply, after)) :
    outbox.Extends after := by
  have either {Value : Type} {body : Stamp → List Uuid → Value × KnowledgeOutbox}
      {reply : Except Exn Value}
      (responds : choice.respond outbox body = (reply, after))
      (extends_ : ∀ stamp locked, outbox.Extends (body stamp locked).2) :
      outbox.Extends after := by
    cases choice with
    | proceed stamp locked =>
        cases responds
        exact extends_ stamp locked
    | lost stamp locked error =>
        cases responds
        exact extends_ stamp locked
    | raised error =>
        cases responds
        exact Extends.refl outbox
  cases request with
  | claimDue limit leaseSeconds =>
      exact either (Option.some.inj responds) fun stamp locked =>
        extends_claimDue locked limit leaseSeconds
  | enqueue item =>
      exact either (Option.some.inj responds) fun _ _ => Extends.refl outbox
  | markPublished outboxId | reschedule outboxId attempts maxAttempts baseBackoffSeconds =>
      exact either (Option.some.inj responds) fun _ _ =>
        extends_updateWhere _ _ fun _ => rfl

end KnowledgeOutbox

/-! ## Events -/

section Events

variable {event : KnowledgeOutboxEvent} {outbox : KnowledgeOutbox}
  {version : String × Uuid} {trace : RequestTrace} {maxAttempts : Int}
  {row : KnowledgeOutboxRow}

theorem RequestTrace.fits_of_pending (pending : row.status = .pending)
    (fresh : row.attempts = 0) : ({} : RequestTrace).Fits maxAttempts row where
  counted := fresh
  older := nofun
  settled := nofun
  leased := by simp [pending]
  unpublished := by simp [pending]
  exhausted := by simp [pending]

theorem KnowledgeOutboxEvent.extends_after : outbox.Extends (event.after outbox) := by
  unfold KnowledgeOutboxEvent.after
  split
  · split
    · rename_i enqueued
      exact KnowledgeOutbox.extends_upsertIntent
        (KnowledgeOutbox.enqueueIntent_ok enqueued)
    · exact .refl outbox
  · exact KnowledgeOutbox.extends_updateWhere _ _ fun _ => rfl

/-- A forced request makes its intent due. -/
theorem KnowledgeOutboxEvent.fits_of_forces (asked : event.forces outbox version = true) :
    ∃ row, (event.after outbox).intent? version = some row ∧
      ({} : RequestTrace).Fits maxAttempts row := by
  obtain ⟨stamp, call⟩ := event
  cases call with
  | recordConsumerFailure outboxId terminal => cases asked
  | enqueueIntent workspaceId contractId contractVersionId force =>
      simp only [forces, Bool.and_eq_true, decide_eq_true_eq] at asked
      obtain ⟨⟨rfl, rfl⟩, succeeds⟩ := asked
      simp only [KnowledgeOutboxEvent.after]
      cases enqueued : outbox.enqueueIntent stamp workspaceId contractId
          contractVersionId true with
      | error error =>
          rw [enqueued] at succeeds
          cases succeeds
      | ok result =>
          obtain ⟨id, written⟩ := result
          rcases KnowledgeOutbox.upsertIntent_cases
              (KnowledgeOutbox.enqueueIntent_ok enqueued) with
            ⟨old, intent, rows⟩ | ⟨_, _, rows⟩
          · have named := (KnowledgeOutbox.intent?_eq_some_iff.mp intent).2
            have found := rows old.id
            rw [if_pos rfl, if_pos rfl] at found
            exact ⟨_, KnowledgeOutbox.intent?_of_find? found named,
              RequestTrace.fits_of_pending rfl rfl⟩
          · have found := rows (stamp.uuid4 0)
            rw [if_pos rfl] at found
            exact ⟨_, KnowledgeOutbox.intent?_of_find? found rfl,
              RequestTrace.fits_of_pending rfl rfl⟩

/-- Other events leave what a request waits for. -/
theorem KnowledgeOutboxEvent.fits_of_other (other : event.forces outbox version = false)
    (intent : outbox.intent? version = some row) (fits : trace.Fits maxAttempts row) :
    ∃ row, (event.after outbox).intent? version = some row ∧
      trace.Fits maxAttempts row := by
  obtain ⟨stored, named⟩ := KnowledgeOutbox.intent?_eq_some_iff.mp intent
  obtain ⟨stamp, call⟩ := event
  cases call with
  | recordConsumerFailure outboxId terminal =>
      have found := @KnowledgeOutbox.find?_recordConsumerFailure outbox outboxId
        terminal row.id
      by_cases same : row.id = outboxId
      · subst same
        rw [if_pos rfl, stored, Option.map_some] at found
        refine ⟨_, KnowledgeOutbox.intent?_of_find? found ?_, ?_⟩
        · split_ifs <;> exact named
        · split_ifs with consumed again
          · have failed : row.status = .failed :=
              consumed.resolve_left fits.unpublished
            rw [← failed]
            exact fits
          · exact fits
          · exact fits
      · rw [if_neg same, stored] at found
        exact ⟨row, KnowledgeOutbox.intent?_of_find? found named, fits⟩
  | enqueueIntent workspaceId contractId contractVersionId force =>
      simp only [forces] at other
      simp only [KnowledgeOutboxEvent.after]
      cases enqueued : outbox.enqueueIntent stamp workspaceId contractId
          contractVersionId force with
      | error error => exact ⟨row, intent, fits⟩
      | ok result =>
          obtain ⟨id, written⟩ := result
          refine ⟨row, ?_, fits⟩
          rcases KnowledgeOutbox.upsertIntent_cases
              (KnowledgeOutbox.enqueueIntent_ok enqueued) with
            ⟨old, present, rows⟩ | ⟨_, fresh, rows⟩
          · refine KnowledgeOutbox.intent?_of_find? ((rows row.id).trans ?_) named
            by_cases same : row.id = old.id
            · obtain ⟨held, version⟩ := KnowledgeOutbox.intent?_eq_some_iff.mp present
              rw [← same, stored, Option.some.injEq] at held
              subst held
              have unforced : force = false := by
                simpa [← named, version, enqueued, Except.isOk, Except.toBool] using other
              rw [if_pos rfl, unforced]
              rfl
            · rw [if_neg same, stored]
          · have different : row.id ≠ stamp.uuid4 0 := by
              intro same
              rw [same, fresh] at stored
              cases stored
            refine KnowledgeOutbox.intent?_of_find? ((rows row.id).trans ?_) named
            rw [if_neg different, stored]

end Events

/-! ## Runs -/

section Runs

variable {dispatcher : KnowledgeOutboxDispatcher} {steps : List KnowledgeDispatchStep}
  {final : KnowledgeDispatchState} {thread : Nat} {phase : DispatchPhase}
  {outbox after : KnowledgeOutbox} {choice : KnowledgeChoice}

/-- The phase of a thread after some steps. -/
abbrev dispatchPhase (dispatcher : KnowledgeOutboxDispatcher) (thread : Nat)
    (steps : List KnowledgeDispatchStep) : Option DispatchPhase :=
  (knowledgeDispatchers dispatcher).tracked (fun _ => .claiming) DispatchPhase.next
    thread steps

theorem conforms_of_dispatch
    (run : (knowledgeDispatchers dispatcher).Run default steps final)
    {running : PoolThread Int KnowledgeDispatchCall KnowledgeDispatchCall.Ret Exn Nat}
    (stands : final.threads thread = some running) :
    ∃ phase, dispatchPhase dispatcher thread steps = some phase ∧
      (dispatchMonitor dispatcher).Conforms running.rest (fun _ _ => True) phase :=
  PoolSystem.conforms_of_run (fun limit => conforms_drainOnce limit) run stands

/-- A dispatcher gets no more items once it has claimed. -/
theorem DispatchPhase.items_next (request : KnowledgeDispatchCall)
    (reply : Except Exn request.Ret) (begun : phase ≠ .claiming)
    {item : KnowledgeOutboxItem} (member : item ∈ (phase.next request reply).items) :
    item ∈ phase.items := by
  unfold DispatchPhase.next at member
  split at member
  · exact absurd rfl begun
  · exact absurd rfl begun
  · exact member
  · exact member
  · exact List.mem_cons_of_mem _ member
  · exact List.mem_cons_of_mem _ member
  · exact member

/-- Claimed items belong to rows, and the items that are left do so still. -/
theorem DispatchPhase.Named.next {request : KnowledgeDispatchCall}
    {reply : Except Exn request.Ret} (named : phase.Named outbox)
    (permitted : phase.permits dispatcher request)
    (responds : KnowledgeOutbox.respond choice outbox request = some (reply, after)) :
    (phase.next request reply).Named after := by
  have extends_ := KnowledgeOutbox.extends_respond responds
  by_cases begun : phase = .claiming
  · subst begun
    cases request with
    | claimDue limit leaseSeconds =>
        cases reply with
        | error error => nofun
        | ok items =>
            cases choice with
            | lost stamp locked error => cases responds
            | raised error => cases responds
            | proceed stamp locked =>
                cases responds
                intro item member
                have member : item ∈
                    (outbox.claimDue stamp locked limit leaseSeconds).1 := member
                rw [KnowledgeOutbox.items_claimDue] at member
                obtain ⟨row, taken, rfl⟩ := List.mem_map.mp member
                obtain ⟨later, found, same⟩ :=
                  extends_ _ _ (KnowledgeOutbox.mem_takes taken).1
                exact ⟨later, found, same⟩
    | enqueue item | markPublished outboxId
    | reschedule outboxId attempts maxAttempts baseBackoffSeconds => cases permitted
  · intro item member
    exact named.mono extends_ item (items_next request reply begun member)

/-- The items that dispatchers hold belong to rows. -/
theorem named_of_run (run : (knowledgeDispatchers dispatcher).Run default steps final)
    (reached : dispatchPhase dispatcher thread steps = some phase) :
    phase.Named final.world := by
  induction run generalizing phase with
  | nil => cases reached
  | @step steps state run last found permitted induction =>
      have moves := PoolSystem.moves_of_allowed permitted
      have conforms := @conforms_of_dispatch dispatcher steps state thread run
      rw [dispatchPhase, PoolSystem.tracked_concat] at reached
      rw [← found] at induction conforms
      clear found
      generalize (knowledgeDispatchers dispatcher).after last = next at moves
      obtain ⟨event, before⟩ := last
      simp only at induction moves conforms
      cases moves with
      | @start started task world idle launched =>
          cases launched
          simp only [PoolSystem.track] at reached
          split_ifs at reached
          · cases reached
            intro item member
            cases member
          · exact induction reached
      | @call caller choice task request rest reply world stands answered =>
          simp only [PoolSystem.track] at reached
          have extends_ := KnowledgeOutbox.extends_respond answered
          by_cases same : caller = thread
          · subst same
            have answer :=
              PoolSystem.answer?_of_call (knowledgeDispatchers dispatcher) stands answered
            obtain ⟨current, tracked, keeps⟩ := conforms stands
            rw [if_pos rfl, answer] at reached
            simp only at reached
            rw [dispatchPhase] at tracked
            rw [tracked, Option.map_some, Option.some.injEq] at reached
            subst reached
            exact (induction tracked).next keeps.1 answered
          · rw [if_neg same] at reached
            exact (induction reached).mono extends_
      | stop stands => exact induction reached
      | @outside event world happens =>
          cases happens
          exact (induction reached).mono KnowledgeOutboxEvent.extends_after

end Runs

/-! ## What an answer does to a request -/

section Answers

variable {dispatcher : KnowledgeOutboxDispatcher} {version : String × Uuid}
  {maxAttempts : Int} {thread : Nat} {trace later : RequestTrace}
  {outbox after : KnowledgeOutbox} {choice : KnowledgeChoice}
  {row : KnowledgeOutboxRow} {phase next : DispatchPhase}

/-- The row fits the trace that an answer leaves, the answered thread knows of the
latest claim if it holds it, and the other threads know what they knew. -/
structure Follows (version : String × Uuid) (maxAttempts : Int) (thread : Nat)
    (trace later : RequestTrace) (after : KnowledgeOutbox) (next : DispatchPhase) :
    Prop where
  row : ∃ row, after.intent? version = some row ∧ later.Fits maxAttempts row
  own : later.LatestOf thread → next.Holds version later
  others : ∀ other, other ≠ thread → later.LatestOf other →
    trace.LatestOf other ∧
      ∀ phase : DispatchPhase, phase.Holds version trace → phase.Holds version later

/-- The row and the trace stay. -/
theorem Follows.of_same (intent : after.intent? version = some row)
    (fits : trace.Fits maxAttempts row)
    (own : trace.LatestOf thread → next.Holds version trace) :
    Follows version maxAttempts thread trace trace after next where
  row := ⟨row, intent, fits⟩
  own := own
  others := fun _ _ latest => ⟨latest, fun _ holds => holds⟩

variable {task : Int} {item : KnowledgeOutboxItem} {items : List KnowledgeOutboxItem}
  {reply : Except Exn Unit}

theorem follows_claimDue {limit leaseSeconds : Int}
    {reply : Except Exn (List KnowledgeOutboxItem)}
    (responds : choice.respond outbox (fun stamp locked =>
      outbox.claimDue stamp locked limit leaseSeconds) = (reply, after))
    (intent : outbox.intent? version = some row) (fits : trace.Fits maxAttempts row)
    (idle : ¬ trace.LatestOf thread) :
    Follows version maxAttempts thread trace
      (trace.answered version
        ⟨thread, task, .claimDue limit leaseSeconds, choice, reply, outbox, after⟩)
      after (DispatchPhase.next .claiming (.claimDue limit leaseSeconds) reply) := by
  rcases KnowledgeOutbox.respond_claimDue responds intent with
    ⟨taken, ⟨expiry, written⟩, counted⟩ | ⟨spared, written⟩
  · have claimed : ((if row.status = .publishing then trace.expired
        else trace).claimedBy thread).Fits maxAttempts (row.claimed expiry) :=
      fits.claimedBy
    simp only [RequestTrace.answered, taken, if_true, intent, Option.any_some,
      decide_eq_true_eq]
    refine ⟨⟨_, written, claimed⟩, ?_, ?_⟩
    · intro _
      have length := claimed.counted
      have number : (row.claimed expiry).attempts = row.attempts + 1 := rfl
      rw [number] at length
      cases reply with
      | error error => exact ⟨nofun, nofun, nofun, nofun⟩
      | ok items =>
          refine ⟨nofun, ?_, nofun, nofun⟩
          intro item member same
          rw [counted items rfl item member same, length]
    · intro other different latest
      exact absurd (RequestTrace.latestOf_claimedBy.mp latest) (Ne.symm different)
  · simp only [RequestTrace.answered, spared, Bool.false_eq_true, if_false]
    exact .of_same written fits fun latest => absurd latest idle

theorem follows_enqueue
    (responds : choice.respond outbox (fun _ _ => ((), outbox)) = (reply, after))
    (intent : outbox.intent? version = some row) (fits : trace.Fits maxAttempts row)
    (own : trace.LatestOf thread →
      (DispatchPhase.working (item :: items)).Holds version trace)
    (unconfirmed : (trace.answered version
      ⟨thread, task, .enqueue item, choice, reply, outbox, after⟩).confirmed = false) :
    Follows version maxAttempts thread trace
      (trace.answered version
        ⟨thread, task, .enqueue item, choice, reply, outbox, after⟩)
      after (DispatchPhase.next (.working (item :: items)) (.enqueue item) reply) := by
  have same : after = outbox := by
    cases choice <;> cases responds <;> rfl
  subst same
  by_cases named : item.version = version
  · cases choice with
    | proceed stamp locked | lost stamp locked error =>
        simp [RequestTrace.answered, named, KnowledgeChoice.commits] at unconfirmed
    | raised error =>
        cases responds
        simp only [RequestTrace.answered, named, if_true, KnowledgeChoice.commits,
          Bool.false_eq_true, if_false]
        refine ⟨⟨row, intent, fits.raisedBy⟩, ?_, ?_⟩
        · intro latest
          have before := RequestTrace.latestOf_raisedBy latest
          have holds : (DispatchPhase.working (item :: items)).Holds version
              (trace.raisedBy thread) := (own before).raisedBy
          refine ⟨nofun, holds.counted, nofun, ?_⟩
          intro _ _ _ _ attempt head
          obtain ⟨held, head', mine, running⟩ := before
          rw [RequestTrace.raisedBy, List.head?_map, head', Option.map_some,
            Option.some.injEq, if_pos (by simp [mine, running])] at head
          rw [← head]
        · intro other _ latest
          exact ⟨RequestTrace.latestOf_raisedBy latest, fun _ holds => holds.raisedBy⟩
  · simp only [RequestTrace.answered, if_neg named]
    apply Follows.of_same intent fits
    intro latest
    have holds := own latest
    cases reply with
    | ok _ =>
        refine ⟨nofun, holds.counted, ?_, nofun⟩
        intro first rest same
        cases same
        exact named
    | error error =>
        refine ⟨nofun, holds.counted, nofun, ?_⟩
        intro first rest same other
        cases same
        exact absurd other named

/-- A report of a thread that does not hold the latest claim does not reach a publishing
row, and one of the holder is about its own claim. -/
theorem follows_markPublished
    (responds : choice.respond outbox (fun _ _ => ((), outbox.markPublished item.id)) =
      (reply, after))
    (intent : outbox.intent? version = some row) (fits : trace.Fits maxAttempts row)
    (own : trace.LatestOf thread →
      (DispatchPhase.confirmed item items).Holds version trace)
    (named : (DispatchPhase.confirmed item items).Named outbox)
    (holder : choice.commits = true → row.id = item.id → row.status = .publishing →
      trace.LatestOf thread) :
    Follows version maxAttempts thread trace
      (trace.answered version
        ⟨thread, task, .markPublished item.id, choice, reply, outbox, after⟩)
      after
      (DispatchPhase.next (.confirmed item items) (.markPublished item.id) reply) := by
  obtain ⟨stored, version_⟩ := KnowledgeOutbox.intent?_eq_some_iff.mp intent
  have working : trace.LatestOf thread →
      (DispatchPhase.working items).Holds version trace :=
    fun latest => (own latest).working fun _ => List.mem_cons_of_mem _
  have marked (commits : choice.commits = true) :
      (outbox.markPublished item.id).intent? version = some row := by
    have found := @KnowledgeOutbox.find?_markPublished outbox item.id row.id
    refine KnowledgeOutbox.intent?_of_find? (found.trans ?_) version_
    by_cases same : row.id = item.id
    · have unleased : row.status ≠ .publishing := by
        intro publishing
        have holds := own (holder commits same publishing)
        obtain ⟨other, found, other_⟩ := named item (by simp [DispatchPhase.items])
        rw [← same, stored, Option.some.injEq] at found
        subst found
        exact holds.unconfirmed item items rfl (other_.symm.trans version_)
      rw [if_pos same, ← same, stored, Option.map_some, if_neg unleased]
    · rw [if_neg same, stored]
  cases choice with
  | proceed stamp locked | lost stamp locked error =>
      cases responds
      exact .of_same (marked rfl) fits working
  | raised error =>
      cases responds
      exact .of_same intent fits working

theorem follows_reschedule {task baseBackoffSeconds : Int}
    (responds : choice.respond outbox (fun stamp _ =>
      ((), outbox.reschedule stamp item.id item.attempts dispatcher.maxAttempts
        baseBackoffSeconds)) = (reply, after))
    (intent : outbox.intent? version = some row)
    (fits : trace.Fits dispatcher.maxAttempts row)
    (own : trace.LatestOf thread →
      (DispatchPhase.refused item items).Holds version trace)
    (named : (DispatchPhase.refused item items).Named outbox)
    (holder : choice.commits = true → row.id = item.id → row.status = .publishing →
      trace.LatestOf thread) :
    Follows version dispatcher.maxAttempts thread trace
      (trace.answered version
        ⟨thread, task, .reschedule item.id item.attempts dispatcher.maxAttempts
          baseBackoffSeconds, choice, reply, outbox, after⟩)
      after
      (DispatchPhase.next (.refused item items)
        (.reschedule item.id item.attempts dispatcher.maxAttempts baseBackoffSeconds)
        reply) := by
  obtain ⟨stored, version_⟩ := KnowledgeOutbox.intent?_eq_some_iff.mp intent
  have working : trace.LatestOf thread →
      (DispatchPhase.working items).Holds version trace :=
    fun latest => (own latest).working fun _ => List.mem_cons_of_mem _
  have rescheduled (stamp : Stamp) (commits : choice.commits = true) :
      ∃ row, (outbox.reschedule stamp item.id item.attempts dispatcher.maxAttempts
        baseBackoffSeconds).intent? version = some row ∧
          trace.Fits dispatcher.maxAttempts row := by
    have found := @KnowledgeOutbox.find?_reschedule outbox stamp item.id item.attempts
      dispatcher.maxAttempts baseBackoffSeconds row.id
    by_cases same : row.id = item.id
    · rw [if_pos same, ← same, stored, Option.map_some] at found
      by_cases publishing : row.status = .publishing
      · have holds := own (holder commits same publishing)
        obtain ⟨other, held, other_⟩ := named item (by simp [DispatchPhase.items])
        rw [← same, stored, Option.some.injEq] at held
        subst held
        have mine := other_.symm.trans version_
        rw [if_pos publishing] at found
        have counted := holds.counted item (by simp [DispatchPhase.items]) mine
        have failed := holds.failed item items rfl mine
        rw [← same]
        exact ⟨_, KnowledgeOutbox.intent?_of_find? found version_,
          fits.rescheduled counted dispatcher.maxAttempts_pos failed⟩
      · rw [if_neg publishing] at found
        rw [← same]
        exact ⟨row, KnowledgeOutbox.intent?_of_find? found version_, fits⟩
    · rw [if_neg same, stored] at found
      exact ⟨row, KnowledgeOutbox.intent?_of_find? found version_, fits⟩
  cases choice with
  | proceed stamp locked | lost stamp locked error =>
      cases responds
      obtain ⟨row, intent, fits⟩ := rescheduled stamp rfl
      exact .of_same intent fits working
  | raised error =>
      cases responds
      exact .of_same intent fits working

/-- Every answer does so. -/
theorem follows_answer {request : KnowledgeDispatchCall}
    {reply : Except Exn request.Ret}
    (responds : KnowledgeOutbox.respond choice outbox request = some (reply, after))
    (permitted : phase.permits dispatcher request)
    (intent : outbox.intent? version = some row)
    (fits : trace.Fits dispatcher.maxAttempts row)
    (own : trace.LatestOf thread → phase.Holds version trace)
    (named : phase.Named outbox)
    (holder : request.reports? = some row.id → choice.commits = true →
      row.status = .publishing → trace.LatestOf thread)
    (unconfirmed : (trace.answered version
      ⟨thread, task, request, choice, reply, outbox, after⟩).confirmed = false) :
    Follows version dispatcher.maxAttempts thread trace
      (trace.answered version ⟨thread, task, request, choice, reply, outbox, after⟩)
      after (phase.next request reply) := by
  cases phase with
  | claiming =>
      cases request with
      | claimDue limit leaseSeconds =>
          exact follows_claimDue (Option.some.inj responds) intent fits
            fun latest => (own latest).begun rfl
      | enqueue item | markPublished outboxId
      | reschedule outboxId attempts limit baseBackoffSeconds => cases permitted
  | working items =>
      cases request with
      | enqueue item =>
          cases items with
          | nil => cases permitted
          | cons first rest =>
              cases permitted
              exact follows_enqueue (Option.some.inj responds) intent fits own
                unconfirmed
      | claimDue limit leaseSeconds | markPublished outboxId
      | reschedule outboxId attempts limit baseBackoffSeconds => cases permitted
  | confirmed item items =>
      cases request with
      | markPublished outboxId =>
          obtain rfl : outboxId = item.id := permitted
          refine follows_markPublished (Option.some.inj responds) intent fits own named ?_
          intro commits same publishing
          exact holder (congrArg some same.symm) commits publishing
      | claimDue limit leaseSeconds | enqueue item
      | reschedule outboxId attempts limit baseBackoffSeconds => cases permitted
  | refused item items =>
      cases request with
      | reschedule outboxId attempts limit baseBackoffSeconds =>
          obtain ⟨rfl, rfl, rfl⟩ := permitted
          refine follows_reschedule (Option.some.inj responds) intent fits own named ?_
          intro commits same publishing
          exact holder (congrArg some same.symm) commits publishing
      | claimDue limit leaseSeconds | enqueue item | markPublished outboxId => cases permitted

end Answers

/-! ## Requests along a run -/

section Kept

variable {dispatcher : KnowledgeOutboxDispatcher} {steps : List KnowledgeDispatchStep}
  {final : KnowledgeDispatchState} {version : String × Uuid} {trace : RequestTrace}

/-- An unconfirmed request: its row, and who holds its latest claim. -/
structure RequestStands (dispatcher : KnowledgeOutboxDispatcher)
    (version : String × Uuid) (steps : List KnowledgeDispatchStep)
    (final : KnowledgeDispatchState) (trace : RequestTrace) : Prop where
  row : ∃ row, final.world.intent? version = some row ∧
    trace.Fits dispatcher.maxAttempts row
  holder : ∀ thread, trace.LatestOf thread → (final.threads thread).isSome = true ∧
    ∃ phase, dispatchPhase dispatcher thread steps = some phase ∧
      phase.Holds version trace

theorem request?_concat (step : KnowledgeDispatchStep) :
    request? dispatcher version (steps ++ [step]) =
      followRequest dispatcher version (request? dispatcher version steps) step := by
  simp [request?, List.foldl_append]

/-- Answers do not take a confirmation back. -/
theorem RequestTrace.confirmed_answered (answer : KnowledgeDispatchAnswer)
    (unconfirmed : (trace.answered version answer).confirmed = false) :
    trace.confirmed = false := by
  obtain ⟨thread, task, request, choice, reply, before, after⟩ := answer
  cases request with
  | claimDue limit leaseSeconds =>
      simp only [RequestTrace.answered] at unconfirmed
      split_ifs at unconfirmed
      · unfold RequestTrace.expired at unconfirmed
        split at unconfirmed <;> exact unconfirmed
      · exact unconfirmed
      · exact unconfirmed
  | enqueue item =>
      simp only [RequestTrace.answered] at unconfirmed
      split_ifs at unconfirmed
      · exact unconfirmed
      · exact unconfirmed
  | markPublished outboxId => exact unconfirmed
  | reschedule outboxId attempts maxAttempts baseBackoffSeconds => exact unconfirmed

theorem HoldersReport.init {step : KnowledgeDispatchStep}
    (holders : HoldersReport dispatcher (steps ++ [step])) :
    HoldersReport dispatcher steps := by
  intro i earlier answer outboxId row trace found answered reports commits stored
    publishing requested unconfirmed
  have inside := Nat.le_of_lt (RunHistory.lt_length_of_getElem? found)
  apply holders i earlier answer outboxId row trace (RunHistory.getElem?_append found)
    answered reports commits stored publishing _ unconfirmed
  rw [List.take_append_of_le_length inside]
  exact requested

/-- One step: an unconfirmed request stands on, or is opened anew. -/
theorem stands_of_step {before after : KnowledgeDispatchState}
    {event : PoolEvent Int KnowledgeChoice KnowledgeOutboxEvent}
    (run : (knowledgeDispatchers dispatcher).Run default steps before)
    (holders : HoldersReport dispatcher (steps ++ [⟨event, before⟩]))
    (moves : (knowledgeDispatchers dispatcher).Moves before event after)
    (stood : ∀ trace, request? dispatcher version steps = some trace →
      trace.confirmed = false → RequestStands dispatcher version steps before trace)
    (requested : request? dispatcher version (steps ++ [⟨event, before⟩]) = some trace)
    (unconfirmed : trace.confirmed = false) :
    RequestStands dispatcher version (steps ++ [⟨event, before⟩]) after trace := by
  rw [request?_concat] at requested
  cases moves with
  | @start started task world idle launched =>
      cases launched
      obtain ⟨row, holder⟩ := stood trace requested unconfirmed
      refine ⟨row, ?_⟩
      intro thread latest
      obtain ⟨runs, phase, tracked, holds⟩ := holder thread latest
      have other : thread ≠ started := by
        rintro rfl
        rw [idle] at runs
        cases runs
      refine ⟨by simpa [Function.update_apply, other] using runs, phase, ?_, holds⟩
      rw [dispatchPhase, PoolSystem.tracked_of_other _ nofun]
      · exact tracked
      · rintro task same
        cases same
        exact other rfl
  | @stop stopping stopped stands =>
      obtain ⟨earlier, asked, rfl⟩ := Option.map_eq_some_iff.mp requested
      obtain ⟨⟨row, intent, fits⟩, holder⟩ := stood earlier asked unconfirmed
      refine ⟨⟨row, intent, fits.stoppedBy⟩, ?_⟩
      intro thread latest
      obtain ⟨other, latest⟩ := RequestTrace.latestOf_stoppedBy latest
      obtain ⟨runs, phase, tracked, holds⟩ := holder thread latest
      refine ⟨by simpa [Function.update_apply, other] using runs, phase, ?_,
        holds.stoppedBy⟩
      rw [dispatchPhase, PoolSystem.tracked_of_other nofun nofun]
      exact tracked
  | @outside event world happens =>
      cases happens
      simp only [followRequest] at requested
      by_cases forces : event.forces before.world version = true
      · rw [if_pos forces] at requested
        cases requested
        exact ⟨KnowledgeOutboxEvent.fits_of_forces forces, nofun⟩
      · rw [if_neg forces] at requested
        obtain ⟨⟨row, intent, fits⟩, holder⟩ := stood trace requested unconfirmed
        refine ⟨KnowledgeOutboxEvent.fits_of_other (Bool.eq_false_iff.mpr forces) intent
          fits, ?_⟩
        intro thread latest
        obtain ⟨runs, phase, tracked, holds⟩ := holder thread latest
        refine ⟨runs, phase, ?_, holds⟩
        rw [dispatchPhase, PoolSystem.tracked_of_other nofun nofun]
        exact tracked
  | @call caller choice task request next reply world stands answered =>
      have answer := PoolSystem.answer?_of_call (knowledgeDispatchers dispatcher) stands answered
      simp only [followRequest, answer] at requested
      obtain ⟨earlier, asked, rfl⟩ := Option.map_eq_some_iff.mp requested
      have open_ := RequestTrace.confirmed_answered _ unconfirmed
      obtain ⟨⟨row, intent, fits⟩, holder⟩ := stood earlier asked open_
      obtain ⟨stored, version_⟩ := KnowledgeOutbox.intent?_eq_some_iff.mp intent
      obtain ⟨phase, tracked, conforms⟩ := conforms_of_dispatch run stands
      have own (latest : earlier.LatestOf caller) : phase.Holds version earlier := by
        obtain ⟨_, other, same, holds⟩ := holder caller latest
        rw [tracked, Option.some.injEq] at same
        exact same ▸ holds
      have reports (names : request.reports? = some row.id)
          (commits : choice.commits = true) (publishing : row.status = .publishing) :
          earlier.LatestOf caller := by
        apply holders steps.length _ _ row.id row earlier List.getElem?_concat_length
          answer names commits stored publishing _ open_
        rw [List.take_left, version_]
        exact asked
      have follows := follows_answer answered conforms.1 intent fits own
        (named_of_run run tracked) reports unconfirmed
      have moved := PoolSystem.tracked_of_answer answer tracked
      refine ⟨follows.row, ?_⟩
      intro thread latest
      by_cases same : thread = caller
      · subst same
        exact ⟨by simp, _, moved, follows.own latest⟩
      · obtain ⟨latest, keeps⟩ := follows.others thread same latest
        obtain ⟨runs, phase, tracked, holds⟩ := holder thread latest
        refine ⟨by simpa [Function.update_apply, same] using runs, phase, ?_,
          keeps phase holds⟩
        rw [dispatchPhase, PoolSystem.tracked_of_other nofun]
        · exact tracked
        · rintro choice event
          cases event
          exact same rfl

/-- While the holders of claims report, an unconfirmed request stands. -/
theorem stands_of_run (run : (knowledgeDispatchers dispatcher).Run default steps final)
    (holders : HoldersReport dispatcher steps)
    (requested : request? dispatcher version steps = some trace)
    (unconfirmed : trace.confirmed = false) :
    RequestStands dispatcher version steps final trace := by
  induction run generalizing trace with
  | nil => cases requested
  | step run last found permitted induction =>
      subst found
      exact stands_of_step run holders (PoolSystem.moves_of_allowed permitted)
        (fun _ => induction holders.init) requested unconfirmed

/-- The intent of a request is never removed. -/
theorem intent_of_request
    (run : (knowledgeDispatchers dispatcher).Run default steps final)
    (requested : request? dispatcher version steps = some trace) :
    ∃ row, final.world.intent? version = some row := by
  induction run generalizing trace with
  | nil => cases requested
  | @step steps state run last found permitted induction =>
      have moves := PoolSystem.moves_of_allowed permitted
      rw [request?_concat] at requested
      rw [← found] at induction
      clear found
      generalize (knowledgeDispatchers dispatcher).after last = next at moves
      obtain ⟨event, before⟩ := last
      have extended {outbox : KnowledgeOutbox} (extends_ : before.world.Extends outbox)
          (earlier : ∃ trace, request? dispatcher version steps = some trace) :
          ∃ row, outbox.intent? version = some row := by
        obtain ⟨trace, asked⟩ := earlier
        obtain ⟨row, intent⟩ := induction asked
        obtain ⟨stored, named⟩ := KnowledgeOutbox.intent?_eq_some_iff.mp intent
        obtain ⟨later, found, same⟩ := extends_ _ _ stored
        exact ⟨later, KnowledgeOutbox.intent?_of_find? found (same.trans named)⟩
      cases moves with
      | start idle launched =>
          cases launched
          exact extended (.refl _) ⟨trace, requested⟩
      | stop stands =>
          obtain ⟨earlier, asked, _⟩ := Option.map_eq_some_iff.mp requested
          exact extended (.refl _) ⟨earlier, asked⟩
      | @outside event world happens =>
          cases happens
          simp only [followRequest] at requested
          by_cases forces : event.forces before.world version = true
          · obtain ⟨row, intent, _⟩ :=
              @KnowledgeOutboxEvent.fits_of_forces event before.world version 1 forces
            exact ⟨row, intent⟩
          · rw [if_neg forces] at requested
            exact extended KnowledgeOutboxEvent.extends_after ⟨trace, requested⟩
      | @call caller choice task request rest reply world stands answered =>
          have answer :=
            PoolSystem.answer?_of_call (knowledgeDispatchers dispatcher) stands answered
          simp only [followRequest, answer] at requested
          obtain ⟨earlier, asked, _⟩ := Option.map_eq_some_iff.mp requested
          exact extended (KnowledgeOutbox.extends_respond answered) ⟨earlier, asked⟩

/-- If only the holders of claims report to publishing intents, every forced request is
kept, wherever the run stands. -/
theorem requests_kept_of_holders (dispatcher : KnowledgeOutboxDispatcher)
    {steps : List KnowledgeDispatchStep} {final : KnowledgeDispatchState}
    (run : (knowledgeDispatchers dispatcher).Run default steps final)
    (holders : HoldersReport dispatcher steps) : RequestsKept dispatcher steps final := by
  intro version trace requested
  cases confirmed : trace.confirmed with
  | true =>
      obtain ⟨row, intent⟩ := intent_of_request run requested
      exact ⟨row, intent, .inr (.inl confirmed)⟩
  | false =>
      obtain ⟨row, intent, fits⟩ := (stands_of_run run holders requested confirmed).row
      exact ⟨row, intent, fits.kept⟩

/-- A report that a run can check: the holder of the latest claim makes it. -/
def heldReport (dispatcher : KnowledgeOutboxDispatcher)
    (steps : List KnowledgeDispatchStep) (i : Nat) : Bool :=
  steps[i]?.all fun step =>
    ((knowledgeDispatchers dispatcher).answer? step).all fun answer =>
      answer.request.reports?.all fun outboxId =>
        (answer.before.table.find? outboxId).all fun row =>
          (request? dispatcher row.version (steps.take i)).all fun trace =>
            trace.LatestOf answer.thread

theorem holdersReport_of_held
    (held : ∀ i < steps.length, heldReport dispatcher steps i = true) :
    HoldersReport dispatcher steps := by
  intro i step answer outboxId row trace found answered reports _ stored _ requested _
  have reported := held i (RunHistory.lt_length_of_getElem? found)
  simpa [heldReport, found, answered, reports, stored, requested] using reported

end Kept

/-! ## A report that comes late -/

section Sample

/-- A request of the repository's callers. -/
def indexRequest (call : Nat) (force : Bool) :
    PoolEvent Int KnowledgeChoice KnowledgeOutboxEvent :=
  .outside ⟨⟨call, call⟩, .enqueueIntent "inbox" ⟨90, 0⟩ ⟨90, 1⟩ force⟩

/-- A job whose only attempt fails. -/
def exhaustedEvents : List (PoolEvent Int KnowledgeChoice KnowledgeOutboxEvent) :=
  [indexRequest 0 true,
    .start 0 25,
    .call 0 (.proceed ⟨1, 1⟩ []),
    .call 0 (.raised (Exn.runtimeError
      "RabbitMQ did not confirm knowledge index job publication")),
    .call 0 (.proceed ⟨2, 2⟩ [])]

/-- A dispatcher publishes and stalls; the request comes, and another dispatcher claims
the intent, before the first reports. -/
def lateReportEvents : List (PoolEvent Int KnowledgeChoice KnowledgeOutboxEvent) :=
  [indexRequest 0 false,
    .start 0 25,
    .call 0 (.proceed ⟨1, 1⟩ []),
    .call 0 (.proceed ⟨2, 2⟩ []),
    indexRequest 3 true,
    .start 1 25,
    .call 1 (.proceed ⟨4, 4⟩ []),
    .call 0 (.proceed ⟨5, 5⟩ [])]

def sampleDispatcher : KnowledgeOutboxDispatcher := .init 1 30 120

def sampleDispatch (events : List (PoolEvent Int KnowledgeChoice KnowledgeOutboxEvent)) :
    Option (List KnowledgeDispatchStep × KnowledgeDispatchState) :=
  (knowledgeDispatchers sampleDispatcher).extend [] { world := default } events

theorem exhaustedRun_isSome : (sampleDispatch exhaustedEvents).isSome := by
  decide

theorem lateReportRun_isSome : (sampleDispatch lateReportEvents).isSome := by
  decide

theorem requests_kept_of_holders_sample :
    RequestsKept sampleDispatcher
      ((sampleDispatch exhaustedEvents).get exhaustedRun_isSome).1
      ((sampleDispatch exhaustedEvents).get exhaustedRun_isSome).2 :=
  requests_kept_of_holders sampleDispatcher
    (PoolSystem.run_of_extend .nil (Option.some_get exhaustedRun_isSome).symm)
    (holdersReport_of_held (by decide))

/-- The run of the late report. -/
def lateReportRun : List KnowledgeDispatchStep × KnowledgeDispatchState :=
  (sampleDispatch lateReportEvents).get lateReportRun_isSome

/-- After the late report the intent is published, and no job was confirmed since the
request. -/
theorem lateReport_published :
    (request? sampleDispatcher ("inbox", ⟨90, 1⟩) lateReportRun.1).any
      (fun trace => !trace.confirmed) = true ∧
    (lateReportRun.2.world.intent? ("inbox", ⟨90, 1⟩)).map KnowledgeOutboxRow.status =
      some .published := by
  decide

/-- A forced request can be lost. -/
theorem forced_request_lost :
    ¬ ∀ (dispatcher : KnowledgeOutboxDispatcher) (steps : List KnowledgeDispatchStep)
        (final : KnowledgeDispatchState),
      (knowledgeDispatchers dispatcher).Run default steps final →
        RequestsKept dispatcher steps final := by
  intro kept
  obtain ⟨requested, published⟩ := lateReport_published
  obtain ⟨trace, requested, unconfirmed⟩ := Option.any_eq_true _ _ |>.mp requested
  have run : (knowledgeDispatchers sampleDispatcher).Run default lateReportRun.1
      lateReportRun.2 :=
    PoolSystem.run_of_extend .nil (Option.some_get lateReportRun_isSome).symm
  obtain ⟨row, intent, keeps⟩ := kept _ _ _ run _ trace requested
  rw [intent, Option.map_some, Option.some.injEq] at published
  rcases keeps with (pending | ⟨publishing, _⟩) | confirmed | ⟨failed, _⟩
  · simp [pending] at published
  · simp [publishing] at published
  · simp [confirmed] at unconfirmed
  · simp [failed] at published

end Sample

end ContractMate
