import ContractMate.ProgramPool
import ContractMate.TransactionBlock

/-!
# Concurrent transactions

Connections that run transactions against one store, statement by statement, at READ
COMMITTED isolation.  A statement sees what is committed and what its own transaction has
written.  It locks what it writes until its transaction ends, and waits while another
connection holds one of these locks.  What others do in between is said once, by a
discipline that every commit keeps.
-/

namespace ReadCommitted

open TransactionBlock (BlockCall BlockChoice)

variable {Call : Type} {Ret : Call → Type} {Err Store Write Lock : Type}

/-- The locks that a statement takes, what it answers and writes, and what a write does. -/
structure Engine (Call : Type) (Ret : Call → Type) (Err Store Write Lock : Type) where
  locks : Store → Call → List Lock
  exec : Store → (request : Call) → Except Err (Ret request × List Write)
  apply : Store → Write → Store

/-- A connection: what is committed, what it has written since, and the locks it holds. -/
structure Session (Store Write Lock : Type) where
  committed : Store
  pending : List Write := []
  held : List Lock := []

/-- The committed store and all connections. -/
structure World (Store Write Lock : Type) where
  committed : Store
  pending : Nat → List Write := fun _ => []
  held : List (Nat × Lock) := []

namespace World

variable (world : World Store Write Lock) (thread : Nat)

def session : Session Store Write Lock where
  committed := world.committed
  pending := world.pending thread
  held := (world.held.filter fun entry => entry.1 = thread).map Prod.snd

/-- The world after a statement of a transaction. -/
def record (writes : List Write) (locks : List Lock) : World Store Write Lock where
  committed := world.committed
  pending := Function.update world.pending thread (world.pending thread ++ writes)
  held := locks.map (fun lock => (thread, lock)) ++ world.held

/-- The world after a transaction that leaves `store`. -/
def finish (store : Store) : World Store Write Lock where
  committed := store
  pending := Function.update world.pending thread []
  held := world.held.filter fun entry => entry.1 ≠ thread

/-- No lock has two holders. -/
def Exclusive : Prop :=
  ∀ first second lock, lock ∈ (world.session first).held →
    lock ∈ (world.session second).held → first = second

section Blocking

variable [DecidableEq Lock]

/-- Another connection holds one of the locks. -/
def blocked (locks : List Lock) : Bool :=
  locks.any fun lock => world.held.any fun entry => entry.1 ≠ thread && entry.2 = lock

end Blocking

variable {world thread}

@[simp]
theorem mem_held_session {lock : Lock} :
    lock ∈ (world.session thread).held ↔ (thread, lock) ∈ world.held := by
  simp [session]

@[simp]
theorem session_committed : (world.session thread).committed = world.committed :=
  rfl

@[simp]
theorem session_pending : (world.session thread).pending = world.pending thread :=
  rfl

theorem session_record_self (writes : List Write) (locks : List Lock) :
    (world.record thread writes locks).session thread =
      { committed := world.committed
        pending := (world.session thread).pending ++ writes
        held := locks ++ (world.session thread).held } := by
  simp [session, record, List.filter_map, Function.comp_def]

theorem session_record_of_ne {other : Nat} (different : other ≠ thread)
    (writes : List Write) (locks : List Lock) :
    (world.record thread writes locks).session other = world.session other := by
  simp [session, record, List.filter_map, Function.comp_def, different, different.symm]

theorem session_finish_self (store : Store) :
    (world.finish thread store).session thread = { committed := store } := by
  simp [session, finish, List.filter_filter]

theorem session_finish_of_ne {other : Nat} (different : other ≠ thread) (store : Store) :
    (world.finish thread store).session other =
      { world.session other with committed := store } := by
  have kept : (world.held.filter fun entry => entry.1 = other && !decide (entry.1 = thread)) =
      world.held.filter fun entry => entry.1 = other := by
    apply List.filter_congr
    intro entry _
    by_cases same : entry.1 = other
    · simp [same, different]
    · simp [same]
  simp [session, finish, List.filter_filter, different, kept]

theorem exclusive_finish (store : Store) (exclusive : world.Exclusive) :
    (world.finish thread store).Exclusive := by
  intro first second lock holds holds'
  simp only [mem_held_session, finish, List.mem_filter] at holds holds'
  exact exclusive first second lock (by simpa using holds.1) (by simpa using holds'.1)

theorem exclusive_record [DecidableEq Lock] {writes : List Write} {locks : List Lock}
    (free : world.blocked thread locks = false) (exclusive : world.Exclusive) :
    (world.record thread writes locks).Exclusive := by
  have alone (other : Nat) (lock : Lock) (member : lock ∈ locks)
      (held : (other, lock) ∈ world.held) : other = thread := by
    by_contra different
    have waits : world.blocked thread locks = true := by
      simp only [blocked, List.any_eq_true, Bool.and_eq_true, decide_eq_true_eq]
      exact ⟨lock, member, (other, lock), held, different, rfl⟩
    rw [free] at waits
    cases waits
  intro first second lock holds holds'
  simp only [mem_held_session, record, List.mem_append, List.mem_map, Prod.mk.injEq] at holds holds'
  rcases holds with ⟨_, member, rfl, rfl⟩ | held
  · rcases holds' with ⟨_, _, rfl, _⟩ | held
    · rfl
    · exact (alone second _ member held).symm
  · rcases holds' with ⟨_, member, rfl, rfl⟩ | held'
    · exact alone first _ member held
    · exact exclusive first second lock (by simpa using held) (by simpa using held')

end World

namespace Engine

variable (engine : Engine Call Ret Err Store Write Lock)

/-- What a connection sees. -/
def view (session : Session Store Write Lock) : Store :=
  session.pending.foldl engine.apply session.committed

variable [DecidableEq Lock]

def respondStatement (thread : Nat) (world : World Store Write Lock) (request : Call) :
    BlockChoice Err → Option (Except Err (Ret request) × World Store Write Lock)
  | .executes =>
      let store := engine.view (world.session thread)
      if world.blocked thread (engine.locks store request) then none
      else
        match engine.exec store request with
        | .ok (reply, writes) =>
            some (.ok reply, world.record thread writes (engine.locks store request))
        | .error error => some (.error error, world)
  | .fails error => some (.error error, world)
  | .lost _ => none

def respond (thread : Nat) :
    Prog.Respond (BlockCall Call) (BlockCall.Reply Ret) Err (World Store Write Lock)
      (BlockChoice Err) :=
  fun choice world call =>
    match call with
    | .statement request => engine.respondStatement thread world request choice
    | .commit =>
        match choice with
        | .executes => some (.ok (), world.finish thread (engine.view (world.session thread)))
        | .fails error => some (.error error, world.finish thread world.committed)
        | .lost error =>
            some (.error error, world.finish thread (engine.view (world.session thread)))
    | .rollback =>
        match choice with
        | .executes => some (.ok (), world.finish thread world.committed)
        | .fails error | .lost error => some (.error error, world.finish thread world.committed)

/-- Tasks that each run their program on a connection of their own. -/
abbrev system {Task Value : Type}
    (body : Task → Prog (BlockCall Call) (BlockCall.Reply Ret) Err Value) :
    PoolSystem Task (BlockCall Call) (BlockCall.Reply Ret) Err Value
      (World Store Write Lock) (BlockChoice Err) Empty where
  body
  respond := engine.respond
  launch := fun thread _ world => some (world.finish thread world.committed)
  outside := fun event _ => nomatch event

/-! ## A connection on its own -/

/-- The thread stands at a point of its program, with what it has written, while no other
one holds a lock. -/
structure Alone {Task Value : Type} (thread : Nat) (task : Task)
    (rest : Prog (BlockCall Call) (BlockCall.Reply Ret) Err Value) (pending : List Write)
    (committed : Store)
    (state : PoolState Task (BlockCall Call) (BlockCall.Reply Ret) Err Value
      (World Store Write Lock)) : Prop where
  stands : state.threads thread = some ⟨task, rest⟩
  pending : state.world.pending thread = pending
  committed : state.world.committed = committed
  held : ∀ entry ∈ state.world.held, entry.1 = thread

namespace Alone

variable {Task Value : Type} {thread : Nat} {task : Task} {pending : List Write}
  {committed : Store}
  (body : Task → Prog (BlockCall Call) (BlockCall.Reply Ret) Err Value)
  {state : PoolState Task (BlockCall Call) (BlockCall.Reply Ret) Err Value
    (World Store Write Lock)}

theorem of_start (task : Task) (idle : state.threads thread = none)
    (held : ∀ entry ∈ state.world.held, entry.1 = thread) :
    ∃ after, (engine.system body).next? state (.start thread task) = some after ∧
      Alone thread task (body task) [] state.world.committed after := by
  refine ⟨⟨state.world.finish thread state.world.committed, Function.update state.threads
    thread (some ⟨task, body task⟩)⟩, by simp [PoolSystem.next?, idle], ?_⟩
  constructor
  · simp
  · simp [World.finish]
  · rfl
  · intro entry member
    exact held entry (List.mem_of_mem_filter member)

theorem executes {request : Call}
    {next : Except Err (Ret request) → Prog (BlockCall Call) (BlockCall.Reply Ret) Err Value}
    (alone : Alone thread task (.call (.statement request) next) pending committed state)
    {reply : Ret request} {writes : List Write}
    (executed : engine.exec (pending.foldl engine.apply committed) request =
      .ok (reply, writes)) :
    ∃ after, (engine.system body).next? state (.call thread .executes) = some after ∧
      Alone thread task (next (.ok reply)) (pending ++ writes) committed after := by
  have view : engine.view (state.world.session thread) =
      pending.foldl engine.apply committed := by
    rw [view, World.session_pending, World.session_committed, alone.pending, alone.committed]
  have free (locks : List Lock) : state.world.blocked thread locks = false := by
    rw [Bool.eq_false_iff]
    intro waits
    simp only [World.blocked, List.any_eq_true, Bool.and_eq_true, decide_eq_true_eq] at waits
    obtain ⟨_, _, entry, member, other, _⟩ := waits
    exact other (alone.held entry member)
  let taken := engine.locks (pending.foldl engine.apply committed) request
  have answered : engine.respondStatement thread state.world request .executes =
      some (.ok reply, state.world.record thread writes taken) := by
    simp only [respondStatement, view, free, executed]
    rfl
  refine ⟨⟨state.world.record thread writes taken,
    Function.update state.threads thread (some ⟨task, next (.ok reply)⟩)⟩, ?_, ?_⟩
  · simp only [PoolSystem.next?, alone.stands]
    simp only [respond, answered]
    rfl
  · constructor
    · simp
    · simp [World.record, alone.pending]
    · exact alone.committed
    · intro entry member
      simp only [World.record, List.mem_append, List.mem_map] at member
      rcases member with ⟨lock, _, rfl⟩ | held
      · rfl
      · exact alone.held entry held

theorem commits
    {next : Except Err Unit → Prog (BlockCall Call) (BlockCall.Reply Ret) Err Value}
    (alone : Alone thread task (.call .commit next) pending committed state) :
    ∃ after, (engine.system body).next? state (.call thread .executes) = some after ∧
      Alone thread task (next (.ok ())) [] (pending.foldl engine.apply committed) after := by
  have view : engine.view (state.world.session thread) =
      pending.foldl engine.apply committed := by
    rw [view, World.session_pending, World.session_committed, alone.pending, alone.committed]
  refine ⟨⟨state.world.finish thread (pending.foldl engine.apply committed),
    Function.update state.threads thread (some ⟨task, next (.ok ())⟩)⟩, ?_, ?_⟩
  · simp only [PoolSystem.next?, alone.stands]
    simp only [respond, view]
    rfl
  · constructor
    · simp
    · simp [World.finish]
    · rfl
    · intro entry member
      exact alone.held entry (List.mem_of_mem_filter member)

theorem stops {result : Except Err Value}
    (alone : Alone thread task (.done result) [] committed state) :
    ∃ after, (engine.system body).next? state (.stop thread) = some after ∧
      after.threads thread = none ∧ after.world = state.world := by
  refine ⟨⟨state.world, Function.update state.threads thread none⟩, ?_, ?_, rfl⟩
  · simp [PoolSystem.next?, alone.stands]
  · simp

end Alone

end Engine

end ReadCommitted
