import ContractMate.ReadCommitted

/-!
# Disciplines of concurrent transactions

A discipline says which stores are valid, how they evolve, and which part of the store a
lock guards.  A program is safe when each of its commits keeps to the discipline, whatever
the commits of others leave in between.  Connections that run safe programs keep to the
discipline, and each program ends as promised.
-/

namespace ReadCommitted

open TransactionBlock (BlockCall BlockChoice block)

variable {Task Call : Type} {Ret : Call → Type} {Err Store Write Lock Value Other : Type}

/-- What commits keep, which statements are assumed of a task, the errors with which
statements and commits may fail, and those of commits that take effect all the same. -/
structure Discipline (Task Call Err Store Lock : Type) where
  valid : Store → Prop
  evolves : Store → Store → Prop
  Part : Lock → Type
  part : (lock : Lock) → Store → Part lock
  allows : Task → Store → Call → Prop := fun _ _ _ => True
  fault : Err → Prop := fun _ => True
  loses : Err → Prop := fun _ => True
  evolves_refl : ∀ store, evolves store store
  evolves_trans : ∀ {first second third : Store}, evolves first second →
    evolves second third → evolves first third

namespace Session

/-- The session with another committed store. -/
def at_ (here : Session Store Write Lock) (store : Store) : Session Store Write Lock :=
  { here with committed := store }

/-- The session after a statement. -/
def extend (here : Session Store Write Lock) (writes : List Write) (locks : List Lock) :
    Session Store Write Lock where
  committed := here.committed
  pending := here.pending ++ writes
  held := locks ++ here.held

end Session

section Safety

variable (engine : Engine Call Ret Err Store Write Lock)
  (discipline : Discipline Task Call Err Store Lock) (task : Task)

/-- What others may have left: the parts under the session's locks are untouched. -/
structure Meanwhile (here : Session Store Write Lock) (store : Store) : Prop where
  valid : discipline.valid store
  evolves : discipline.evolves here.committed store
  untouched : ∀ lock ∈ here.held, discipline.part lock store = discipline.part lock here.committed

/-- A commit of the session keeps to the discipline. -/
structure Commits (here : Session Store Write Lock) : Prop where
  valid : discipline.valid (engine.view here)
  evolves : discipline.evolves here.committed (engine.view here)
  untouched : ∀ lock, lock ∉ here.held →
    discipline.part lock (engine.view here) = discipline.part lock here.committed

/-- Every answer to a call is as required. -/
def Answers (here : Session Store Write Lock) :
    (request : BlockCall Call) →
      (Except Err (BlockCall.Reply Ret request) → Session Store Write Lock → Prop) → Prop
  | .statement request, next =>
      (discipline.allows task (engine.view here) request →
        match engine.exec (engine.view here) request with
        | .ok (reply, writes) =>
            next (.ok reply) (here.extend writes (engine.locks (engine.view here) request))
        | .error error => next (.error error) here) ∧
      ∀ error, discipline.fault error → next (.error error) here
  | .commit, next =>
      Commits engine discipline here ∧
      next (.ok ()) { committed := engine.view here } ∧
      (∀ error, discipline.fault error → next (.error error) { committed := here.committed }) ∧
      ∀ error, discipline.loses error → next (.error error) { committed := engine.view here }
  | .rollback, next =>
      next (.ok ()) { committed := here.committed } ∧
      ∀ error, discipline.fault error → next (.error error) { committed := here.committed }

/-- However the calls are answered and whatever others commit in between, the commits keep
to the discipline and the program ends as promised. -/
def Safe (post : Except Err Value → Session Store Write Lock → Prop) :
    Prog (BlockCall Call) (BlockCall.Reply Ret) Err Value →
      Session Store Write Lock → Prop
  | .done result, here => ∀ store, Meanwhile discipline here store →
      post result (here.at_ store)
  | .call request next, here => ∀ store, Meanwhile discipline here store →
      Answers engine discipline task (here.at_ store) request fun reply after =>
        Safe post (next reply) after

end Safety

section Rules

variable {engine : Engine Call Ret Err Store Write Lock}
  {discipline : Discipline Task Call Err Store Lock} {task : Task}
  {post : Except Err Value → Session Store Write Lock → Prop}
  {program : Prog (BlockCall Call) (BlockCall.Reply Ret) Err Value}
  {here : Session Store Write Lock} {store : Store}

theorem Meanwhile.refl (here : Session Store Write Lock)
    (valid : discipline.valid here.committed) : Meanwhile discipline here here.committed :=
  ⟨valid, discipline.evolves_refl _, fun _ _ => rfl⟩

theorem Meanwhile.trans {later : Store} (first : Meanwhile discipline here store)
    (second : Meanwhile discipline (here.at_ store) later) :
    Meanwhile discipline here later where
  valid := second.valid
  evolves := discipline.evolves_trans first.evolves second.evolves
  untouched := by
    intro lock held
    rw [second.untouched lock held]
    exact first.untouched lock held

/-- Safe programs stay safe while others commit. -/
theorem Safe.meanwhile (safe : Safe engine discipline task post program here)
    (others : Meanwhile discipline here store) :
    Safe engine discipline task post program (here.at_ store) := by
  cases program with
  | done result | call request next => exact fun later more => safe later (others.trans more)

/-- It is enough to look at what others may leave. -/
theorem Safe.of_meanwhile
    (safe : ∀ store, Meanwhile discipline here store →
      Safe engine discipline task post program (here.at_ store)) :
    Safe engine discipline task post program here := by
  have settled {store : Store} (others : Meanwhile discipline here store) :
      Meanwhile discipline (here.at_ store) store :=
    Meanwhile.refl (here.at_ store) others.valid
  cases program with
  | done result | call request next =>
      exact fun store others => safe store others store (settled others)

theorem Answers.mono {request : BlockCall Call}
    {strong weak : Except Err (BlockCall.Reply Ret request) →
      Session Store Write Lock → Prop}
    (answers : Answers engine discipline task here request strong)
    (implies : ∀ reply after, strong reply after → weak reply after) :
    Answers engine discipline task here request weak := by
  cases request with
  | statement request =>
      refine ⟨?_, fun error fault => implies _ _ (answers.2 error fault)⟩
      intro allowed
      have answer := answers.1 allowed
      split at answer
      · exact implies _ _ answer
      · exact implies _ _ answer
  | commit =>
      obtain ⟨commits, committed, failed, lost⟩ := answers
      exact ⟨commits, implies _ _ committed,
        fun error fault => implies _ _ (failed error fault),
        fun error loses => implies _ _ (lost error loses)⟩
  | rollback =>
      obtain ⟨rolledBack, failed⟩ := answers
      exact ⟨implies _ _ rolledBack, fun error fault => implies _ _ (failed error fault)⟩

/-- What follows a program starts where it ends, and others may commit in between. -/
theorem Safe.handle {middle : Except Err Other → Session Store Write Lock → Prop}
    {first : Prog (BlockCall Call) (BlockCall.Reply Ret) Err Other}
    {next : Except Err Other → Prog (BlockCall Call) (BlockCall.Reply Ret) Err Value}
    (safe : Safe engine discipline task middle first here)
    (then_ : ∀ result after,
      (∀ store, Meanwhile discipline after store → middle result (after.at_ store)) →
      Safe engine discipline task post (next result) after) :
    Safe engine discipline task post (first.handle next) here := by
  induction first generalizing here with
  | done result => exact then_ result here safe
  | call request answer induction =>
      intro store others
      exact (safe store others).mono fun reply after safe => induction reply safe

theorem Safe.bind {middle : Except Err Other → Session Store Write Lock → Prop}
    {first : Prog (BlockCall Call) (BlockCall.Reply Ret) Err Other}
    {next : Other → Prog (BlockCall Call) (BlockCall.Reply Ret) Err Value}
    (safe : Safe engine discipline task middle first here)
    (then_ : ∀ value after,
      (∀ store, Meanwhile discipline after store → middle (.ok value) (after.at_ store)) →
      Safe engine discipline task post (next value) after)
    (raised : ∀ error after, middle (.error error) after → post (.error error) after) :
    Safe engine discipline task post (first >>= next) here := by
  apply safe.handle
  intro result after reached
  cases result with
  | ok value => exact then_ value after reached
  | error error => exact fun store others => raised error _ (reached store others)

end Rules

/-! ## Blocks -/

/-- How a program ends that raises as it may. -/
def Ends (raised : Err → Prop) (returns : Value → Session Store Write Lock → Prop) :
    Except Err Value → Session Store Write Lock → Prop
  | .ok value, here => returns value here
  | .error error, _ => raised error

/-- The statements of a block. -/
abbrev statements (body : Prog Call Ret Err Value) :
    Prog (BlockCall Call) (BlockCall.Reply Ret) Err Value :=
  Prog.translate BlockCall.statement (fun _ reply => reply) body

section Blocks

variable {engine : Engine Call Ret Err Store Write Lock}
  {discipline : Discipline Task Call Err Store Lock} {task : Task}
  {here : Session Store Write Lock} {raised : Err → Prop}
  {returns : Value → Session Store Write Lock → Prop}

theorem safe_raise {error : Err} (may : raised error) :
    Safe engine discipline task (Ends raised returns)
      (.done (.error error) : Prog (BlockCall Call) (BlockCall.Reply Ret) Err Value) here :=
  fun _ _ => may

theorem safe_pure {value : Value}
    (holds : ∀ store, Meanwhile discipline here store → returns value (here.at_ store)) :
    Safe engine discipline task (Ends raised returns)
      (.done (.ok value) : Prog (BlockCall Call) (BlockCall.Reply Ret) Err Value) here :=
  holds

/-- A statement, after whatever others have committed. -/
theorem safe_statement {request : Call} {next : Ret request → Prog Call Ret Err Value}
    (faults : ∀ error, discipline.fault error → raised error)
    (answered : ∀ store, Meanwhile discipline here store →
      discipline.allows task (engine.view (here.at_ store)) request →
      match engine.exec (engine.view (here.at_ store)) request with
      | .ok (reply, writes) =>
          Safe engine discipline task (Ends raised returns) (statements (next reply))
            ((here.at_ store).extend writes
              (engine.locks (engine.view (here.at_ store)) request))
      | .error error => raised error) :
    Safe engine discipline task (Ends raised returns)
      (statements (Prog.perform request >>= next)) here := by
  intro store others
  refine ⟨?_, fun error fault => safe_raise (faults error fault)⟩
  intro allowed
  have answer := answered store others allowed
  split at answer
  · exact answer
  · exact safe_raise answer

/-- A statement at the end of a block. -/
theorem safe_perform {request : Call} {returns : Ret request → Session Store Write Lock → Prop}
    (faults : ∀ error, discipline.fault error → raised error)
    (answered : ∀ store, Meanwhile discipline here store →
      discipline.allows task (engine.view (here.at_ store)) request →
      match engine.exec (engine.view (here.at_ store)) request with
      | .ok (reply, writes) =>
          ∀ later, Meanwhile discipline ((here.at_ store).extend writes
              (engine.locks (engine.view (here.at_ store)) request)) later →
            returns reply (((here.at_ store).extend writes
              (engine.locks (engine.view (here.at_ store)) request)).at_ later)
      | .error error => raised error) :
    Safe engine discipline task (Ends raised returns)
      (statements (Prog.perform request)) here := by
  intro store others
  refine ⟨?_, fun error fault => safe_raise (faults error fault)⟩
  intro allowed
  have answer := answered store others allowed
  split at answer
  · exact safe_pure answer
  · exact safe_raise answer

theorem statements_bind (body : Prog Call Ret Err Other)
    (next : Other → Prog Call Ret Err Value) :
    statements (body >>= next) = statements body >>= fun value => statements (next value) := by
  induction body with
  | done result => cases result <;> rfl
  | call request answer induction =>
      change Prog.call _ _ = Prog.call _ _
      congr 1
      funext reply
      exact induction reply

/-- The rule of sequencing within a block. -/
theorem safe_bind {body : Prog Call Ret Err Other} {next : Other → Prog Call Ret Err Value}
    {middle : Other → Session Store Write Lock → Prop}
    (safe : Safe engine discipline task (Ends raised middle) (statements body) here)
    (then_ : ∀ value after, middle value after → discipline.valid after.committed →
      Safe engine discipline task (Ends raised returns) (statements (next value)) after) :
    Safe engine discipline task (Ends raised returns) (statements (body >>= next)) here := by
  rw [statements_bind]
  apply safe.bind
  · intro value after reached
    apply Safe.of_meanwhile
    intro store others
    exact then_ value _ (reached store others) others.valid
  · exact fun error _ may => may

/-- A block is safe when its body is, and can commit what it leaves. -/
theorem safe_block {body : Prog Call Ret Err Value}
    {middle : Value → Session Store Write Lock → Prop}
    (faults : ∀ error, discipline.fault error → raised error)
    (losses : ∀ error, discipline.loses error → raised error)
    (safe : Safe engine discipline task (Ends raised middle) (statements body) here)
    (commits : ∀ value after, middle value after → discipline.valid after.committed →
      Commits engine discipline after)
    (then_ : ∀ value after store, middle value after → discipline.valid after.committed →
      discipline.valid store → discipline.evolves (engine.view after) store →
      returns value { committed := store }) :
    Safe engine discipline task (Ends raised returns) (block body) here := by
  apply safe.handle
  intro result after reached
  cases result with
  | ok value =>
      intro store others
      have ended : middle value (after.at_ store) := reached store others
      refine ⟨commits value _ ended others.valid, ?_, ?_, ?_⟩
      · intro later more
        exact then_ value _ later ended others.valid more.valid more.evolves
      · exact fun error fault => safe_raise (faults error fault)
      · exact fun error loses => safe_raise (losses error loses)
  | error error =>
      intro store others
      have may : raised error := reached store others
      exact ⟨safe_raise may, fun failure fault => safe_raise (faults failure fault)⟩

theorem view_of_unwritten (unwritten : here.pending = []) :
    engine.view here = here.committed := by
  simp [Engine.view, unwritten]

/-- What a first statement writes. -/
theorem view_of_first {seen later : Store} (unwritten : here.pending = [])
    (writes : List Write) (locks : List Lock) :
    engine.view (((here.at_ seen).extend writes locks).at_ later) =
      writes.foldl engine.apply later := by
  simp [Engine.view, Session.at_, Session.extend, unwritten]

/-- A transaction that has written nothing commits. -/
theorem commits_unwritten (unwritten : here.pending = [])
    (valid : discipline.valid here.committed) : Commits engine discipline here := by
  refine ⟨?_, ?_, ?_⟩
  · rwa [view_of_unwritten unwritten]
  · rw [view_of_unwritten unwritten]
    exact discipline.evolves_refl _
  · intro lock _
    rw [view_of_unwritten unwritten]

/-- A block that only reads. -/
theorem safe_read {request : Call} {store : Store}
    {returns : Ret request → Session Store Write Lock → Prop}
    (faults : ∀ error, discipline.fault error → raised error)
    (losses : ∀ error, discipline.loses error → raised error)
    (reads : ∀ seen, discipline.valid seen → discipline.evolves store seen →
      ∃ reply, engine.exec seen request = .ok (reply, []) ∧
        ∀ later, discipline.valid later → discipline.evolves seen later →
          returns reply { committed := later }) :
    Safe engine discipline task (Ends raised returns) (block (Prog.perform request))
      { committed := store } := by
  have safe : Safe engine discipline task
      (Ends raised fun (reply : Ret request) (here : Session Store Write Lock) =>
        here.pending = [] ∧ ∀ later, discipline.valid later →
          discipline.evolves here.committed later → returns reply { committed := later })
      (statements (Prog.perform request)) { committed := store } := by
    apply safe_perform faults
    intro seen others _
    obtain ⟨reply, read, kept⟩ := reads seen others.valid others.evolves
    have view : engine.view (Session.at_ { committed := store } seen) = seen := rfl
    rw [view, read]
    intro later more
    refine ⟨by simp [Session.at_, Session.extend], ?_⟩
    intro last valid evolves
    exact kept last valid (discipline.evolves_trans more.evolves evolves)
  apply safe_block faults losses safe
  · intro reply here ended valid
    exact commits_unwritten ended.1 valid
  · intro reply here later ended _ valid evolves
    rw [view_of_unwritten ended.1] at evolves
    exact ended.2 later valid evolves

/-- A block, in a transaction that may be opened by a statement of its own. -/
def transaction (opening : Option Call) (body : Prog Call Ret Err Value) :
    Prog (BlockCall Call) (BlockCall.Reply Ret) Err Value :=
  match opening with
  | none => block body
  | some call => statements (Prog.perform call) >>= fun _ => block body

/-- The opening statement takes some locks and writes nothing. -/
def Opens (engine : Engine Call Ret Err Store Write Lock) (locks : List Lock) :
    Option Call → Prop
  | none => locks = []
  | some call => ∀ store, engine.locks store call = locks ∧
      ∃ reply, engine.exec store call = .ok (reply, [])

/-- A transaction is safe when its body is, from its opening on. -/
theorem safe_transaction {opening : Option Call} {locks : List Lock} {store : Store}
    {body : Prog Call Ret Err Value} {middle : Value → Session Store Write Lock → Prop}
    (faults : ∀ error, discipline.fault error → raised error)
    (losses : ∀ error, discipline.loses error → raised error)
    (opens : Opens engine locks opening)
    (safe : ∀ seen, Safe engine discipline task (Ends raised middle) (statements body)
      { committed := seen, held := locks })
    (commits : ∀ value after, middle value after → discipline.valid after.committed →
      Commits engine discipline after)
    (then_ : ∀ value after store, middle value after → discipline.valid after.committed →
      discipline.valid store → discipline.evolves (engine.view after) store →
      returns value { committed := store }) :
    Safe engine discipline task (Ends raised returns) (transaction opening body)
      { committed := store } := by
  have blocks (seen : Store) : Safe engine discipline task (Ends raised returns) (block body)
      { committed := seen, held := locks } :=
    safe_block faults losses (safe seen) commits then_
  cases opening with
  | none =>
      have unlocked : locks = [] := opens
      subst unlocked
      exact blocks store
  | some call =>
      have begins : Safe engine discipline task
          (Ends raised fun _ here => ∃ seen, here = { committed := seen, held := locks })
          (statements (Prog.perform call)) { committed := store } := by
        apply safe_perform faults
        intro seen others _
        obtain ⟨locked, reply, executed⟩ := opens (engine.view (Session.at_ _ seen))
        rw [executed]
        intro later more
        rw [locked]
        exact ⟨later, by simp [Session.at_, Session.extend]⟩
      apply begins.bind
      · intro _ after reached
        apply Safe.of_meanwhile
        intro seen others
        obtain ⟨last, same⟩ := reached seen others
        rw [same]
        exact blocks last
      · exact fun error _ may => may

end Blocks

/-! ## Runs -/

section Leaving

variable {discipline : Discipline Task Call Err Store Lock}

variable (discipline) in
/-- What an answered call leaves to the other connections. -/
structure Leaves (world after : World Store Write Lock) (thread : Nat) : Prop where
  valid : discipline.valid after.committed
  evolves : discipline.evolves world.committed after.committed
  exclusive : after.Exclusive
  others : ∀ other, other ≠ thread →
    after.session other = (world.session other).at_ after.committed ∧
      Meanwhile discipline (world.session other) after.committed

theorem leaves_finish {world : World Store Write Lock} {thread : Nat} {store : Store}
    (exclusive : world.Exclusive) (valid : discipline.valid store)
    (evolves : discipline.evolves world.committed store)
    (untouched : ∀ lock, lock ∉ (world.session thread).held →
      discipline.part lock store = discipline.part lock world.committed) :
    Leaves discipline world (world.finish thread store) thread where
  valid := valid
  evolves := evolves
  exclusive := World.exclusive_finish store exclusive
  others := by
    intro other different
    refine ⟨World.session_finish_of_ne different store, valid, evolves, ?_⟩
    intro lock held
    apply untouched lock
    intro held'
    exact different (exclusive other thread lock held held')

theorem leaves_discarded {world : World Store Write Lock} {thread : Nat}
    (exclusive : world.Exclusive) (valid : discipline.valid world.committed) :
    Leaves discipline world (world.finish thread world.committed) thread :=
  leaves_finish exclusive valid (discipline.evolves_refl _) fun _ _ => rfl

theorem leaves_same {world : World Store Write Lock} {thread : Nat}
    (exclusive : world.Exclusive) (valid : discipline.valid world.committed) :
    Leaves discipline world world thread :=
  ⟨valid, discipline.evolves_refl _, exclusive,
    fun other _ => ⟨rfl, Meanwhile.refl (world.session other) valid⟩⟩

end Leaving

section Histories

variable {steps : List (PoolStep Task (BlockCall Call) (BlockCall.Reply Ret) Err Value
    (World Store Write Lock) (BlockChoice Err) Empty)}

/-- A task of the run. -/
def Starts (steps : List (PoolStep Task (BlockCall Call) (BlockCall.Reply Ret) Err Value
    (World Store Write Lock) (BlockChoice Err) Empty)) (task : Task) : Prop :=
  ∃ step ∈ steps, ∃ thread, step.event = .start thread task

/-- An error with which a statement or a commit of the run fails. -/
def Injected (steps : List (PoolStep Task (BlockCall Call) (BlockCall.Reply Ret) Err Value
    (World Store Write Lock) (BlockChoice Err) Empty)) (error : Err) : Prop :=
  ∃ step ∈ steps, ∃ thread,
    step.event = .call thread (.fails error) ∨ step.event = .call thread (.lost error)

theorem starts_iff_mem {task : Task} :
    Starts steps task ↔ task ∈ steps.filterMap PoolSystem.started? := by
  simp only [List.mem_filterMap, PoolSystem.started?_eq_some_iff]
  rfl

theorem Starts.append {task : Task}
    {last : PoolStep Task (BlockCall Call) (BlockCall.Reply Ret) Err Value
      (World Store Write Lock) (BlockChoice Err) Empty}
    (started : Starts steps task) : Starts (steps ++ [last]) task := by
  obtain ⟨step, member, thread, starts⟩ := started
  exact ⟨step, by simp [member], thread, starts⟩

theorem Starts.of_take {task : Task} {m : Nat} (started : Starts (steps.take m) task) :
    Starts steps task := by
  obtain ⟨step, member, thread, starts⟩ := started
  exact ⟨step, List.mem_of_mem_take member, thread, starts⟩

end Histories

section Runs

variable [DecidableEq Lock] {engine : Engine Call Ret Err Store Write Lock}
  {discipline : Discipline Task Call Err Store Lock}
  {body : Task → Prog (BlockCall Call) (BlockCall.Reply Ret) Err Value}
  {post : Task → Except Err Value → Session Store Write Lock → Prop}

variable (engine discipline) in
/-- The statement is allowed, and the error is one that may occur. -/
def Permitted
    (answer : PoolAnswer Task (BlockCall Call) (BlockCall.Reply Ret) Err
      (World Store Write Lock) (BlockChoice Err)) : Prop :=
  match answer.choice, answer.request with
  | .executes, .statement request =>
      discipline.allows answer.task
        (engine.view (answer.before.session answer.thread)) request
  | .executes, _ => True
  | .lost error, .commit => discipline.loses error
  | .fails error, _ | .lost error, _ => discipline.fault error

variable (engine discipline body) in
/-- Every answered call of a run is permitted. -/
def KeepsTo
    (steps : List (PoolStep Task (BlockCall Call) (BlockCall.Reply Ret) Err Value
      (World Store Write Lock) (BlockChoice Err) Empty)) : Prop :=
  ∀ step ∈ steps, ∀ answer, (engine.system body).answer? step = some answer →
    Permitted engine discipline answer

variable (engine discipline post) in
/-- The store is valid, no lock has two holders, and every connection is safe. -/
structure Sound
    (state : PoolState Task (BlockCall Call) (BlockCall.Reply Ret) Err Value
      (World Store Write Lock)) : Prop where
  valid : discipline.valid state.world.committed
  exclusive : state.world.Exclusive
  safe : ∀ thread running, state.threads thread = some running →
    Safe engine discipline running.task (post running.task) running.rest
      (state.world.session thread)

theorem leaves_record {world : World Store Write Lock} {thread : Nat}
    {writes : List Write} {locks : List Lock} (exclusive : world.Exclusive)
    (valid : discipline.valid world.committed) (free : world.blocked thread locks = false) :
    Leaves discipline world (world.record thread writes locks) thread where
  valid := valid
  evolves := discipline.evolves_refl _
  exclusive := World.exclusive_record free exclusive
  others := by
    intro other different
    exact ⟨World.session_record_of_ne different _ _,
      Meanwhile.refl (world.session other) valid⟩

/-- What an answered call leaves to its own connection and to the others. -/
theorem leaves_of_answers {world after : World Store Write Lock} {thread : Nat}
    {choice : BlockChoice Err} {request : BlockCall Call}
    {reply : Except Err (BlockCall.Reply Ret request)} {task : Task}
    {next : Except Err (BlockCall.Reply Ret request) → Session Store Write Lock → Prop}
    (exclusive : world.Exclusive) (valid : discipline.valid world.committed)
    (answers : Answers engine discipline task (world.session thread) request next)
    (answered : engine.respond thread choice world request = some (reply, after))
    (permitted : Permitted engine discipline
      ⟨thread, task, request, choice, reply, world, after⟩) :
    Leaves discipline world after thread ∧ next reply (after.session thread) := by
  have finished {store : Store} (reached : next reply { committed := store }) :
      next reply ((world.finish thread store).session thread) := by
    rwa [World.session_finish_self]
  cases request with
  | statement request =>
      cases choice with
      | executes =>
          simp only [Engine.respond, Engine.respondStatement] at answered
          split at answered
          · cases answered
          · rename_i free
            have answer := answers.1 permitted
            split at answered
            · rename_i value writes executed
              simp only [executed] at answer
              cases answered
              refine ⟨leaves_record exclusive valid (by simpa using free), ?_⟩
              rwa [World.session_record_self]
            · rename_i error executed
              simp only [executed] at answer
              cases answered
              exact ⟨leaves_same exclusive valid, answer⟩
      | fails error =>
          cases answered
          exact ⟨leaves_same exclusive valid, answers.2 error permitted⟩
      | lost error => cases answered
  | commit =>
      obtain ⟨commits, committed, rolledBack, lost⟩ := answers
      have leaves := leaves_finish exclusive commits.valid commits.evolves commits.untouched
      cases choice with
      | executes =>
          cases answered
          exact ⟨leaves, finished committed⟩
      | fails error =>
          cases answered
          exact ⟨leaves_discarded exclusive valid, finished (rolledBack error permitted)⟩
      | lost error =>
          cases answered
          exact ⟨leaves, finished (lost error permitted)⟩
  | rollback =>
      obtain ⟨rolledBack, raised⟩ := answers
      have leaves : Leaves discipline world (world.finish thread world.committed) thread :=
        leaves_discarded exclusive valid
      cases choice with
      | executes =>
          cases answered
          exact ⟨leaves, finished rolledBack⟩
      | fails error | lost error =>
          cases answered
          exact ⟨leaves, finished (raised error permitted)⟩

variable {steps : List (PoolStep Task (BlockCall Call) (BlockCall.Reply Ret) Err Value
    (World Store Write Lock) (BlockChoice Err) Empty)}
  {state reached : PoolState Task (BlockCall Call) (BlockCall.Reply Ret) Err Value
    (World Store Write Lock)} {store : Store}

/-- A step keeps the connections safe. -/
theorem Sound.next {event : PoolEvent Task (BlockChoice Err) Empty}
    (sound : Sound engine discipline post state)
    (bodies : ∀ thread task, event = .start thread task → ∀ store, discipline.valid store →
      Safe engine discipline task (post task) (body task) { committed := store })
    (permitted : ∀ answer, (engine.system body).answer? ⟨event, state⟩ = some answer →
      Permitted engine discipline answer)
    (moves : (engine.system body).Moves state event reached) :
    Sound engine discipline post reached ∧
      discipline.evolves state.world.committed reached.world.committed := by
  obtain ⟨valid, exclusive, safe⟩ := sound
  have others {world : World Store Write Lock} {thread : Nat}
      (leaves : Leaves discipline state.world world thread) (other : Nat)
      (different : other ≠ thread)
      (running : PoolThread Task (BlockCall Call) (BlockCall.Reply Ret) Err Value)
      (stands : state.threads other = some running) :
      Safe engine discipline running.task (post running.task) running.rest
        (world.session other) := by
    obtain ⟨same, meanwhile⟩ := leaves.others other different
    rw [same]
    exact (safe other running stands).meanwhile meanwhile
  cases moves with
  | @start thread task world idle launched =>
      cases launched
      have leaves : Leaves discipline state.world
          (state.world.finish thread state.world.committed) thread :=
        leaves_discarded exclusive valid
      refine ⟨⟨leaves.valid, leaves.exclusive, ?_⟩, leaves.evolves⟩
      intro other running stands
      simp only [Function.update_apply] at stands
      split_ifs at stands with same
      · cases stands
        subst same
        rw [World.session_finish_self]
        exact bodies other task rfl _ valid
      · exact others leaves other same running stands
  | @call thread choice task request next reply world stands answered =>
      have answer := PoolSystem.answer?_of_call (engine.system body) stands answered
      have allowed := permitted _ answer
      have answers := safe thread _ stands _
        (Meanwhile.refl (state.world.session thread) valid)
      obtain ⟨leaves, own⟩ := leaves_of_answers exclusive valid answers answered allowed
      refine ⟨⟨leaves.valid, leaves.exclusive, ?_⟩, leaves.evolves⟩
      intro other running stands
      simp only [Function.update_apply] at stands
      split_ifs at stands with same
      · cases stands
        subst same
        exact own
      · exact others leaves other same running stands
  | @stop thread stopped stands =>
      refine ⟨⟨valid, exclusive, ?_⟩, discipline.evolves_refl _⟩
      intro other running stands
      simp only [Function.update_apply] at stands
      split_ifs at stands
      exact safe other running stands
  | @outside event world happens => exact nomatch event

theorem keepsTo_of_allowed
    (faults : ∀ error, Injected steps error → discipline.fault error ∧ discipline.loses error)
    (allowed : ∀ step ∈ steps, ∀ answer, (engine.system body).answer? step = some answer →
      ∀ request, answer.request = .statement request → answer.choice = .executes →
        discipline.allows answer.task
          (engine.view (answer.before.session answer.thread)) request) :
    KeepsTo engine discipline body steps := by
  intro step member answer answered
  have called := (PoolSystem.answer?_eq_some_iff.mp answered).1
  have allowed := allowed step member answer answered
  obtain ⟨thread, task, request, choice, reply, before, after⟩ := answer
  cases choice with
  | executes =>
      cases request with
      | statement request => exact allowed request rfl rfl
      | commit => trivial
      | rollback => trivial
  | fails error =>
      have injected : Injected steps error := ⟨step, member, thread, .inl called⟩
      cases request <;> exact (faults error injected).1
  | lost error =>
      have injected : Injected steps error := ⟨step, member, thread, .inr called⟩
      cases request with
      | commit => exact (faults error injected).2
      | _ => exact (faults error injected).1

/-- Connections that start on a valid store and run safe programs stay safe. -/
theorem sound_of_run (valid : discipline.valid store)
    (bodies : ∀ task, Starts steps task → ∀ store, discipline.valid store →
      Safe engine discipline task (post task) (body task) { committed := store })
    (run : (engine.system body).Run { committed := store } steps state)
    (keeps : KeepsTo engine discipline body steps) :
    Sound engine discipline post state ∧
      discipline.evolves store state.world.committed := by
  induction run with
  | nil =>
      refine ⟨⟨valid, ?_, ?_⟩, discipline.evolves_refl _⟩
      · intro first second lock holds
        simp at holds
      · intro thread running stands
        cases stands
  | @step steps state run last starts allowed induction =>
      obtain ⟨sound, evolved⟩ := induction
        (fun task started => bodies task started.append)
        (fun step member => keeps step (by simp [member]))
      subst starts
      have moves := PoolSystem.moves_of_allowed allowed
      obtain ⟨next, evolves⟩ := sound.next
        (fun thread task started => bodies task ⟨last, by simp, thread, started⟩)
        (keeps last (by simp)) moves
      exact ⟨next, discipline.evolves_trans evolved evolves⟩

variable {i : Nat}
  {step : PoolStep Task (BlockCall Call) (BlockCall.Reply Ret) Err Value
    (World Store Write Lock) (BlockChoice Err) Empty}

/-- The same before each step, and the store evolves from there. -/
theorem sound_before (valid : discipline.valid store)
    (bodies : ∀ task, Starts steps task → ∀ store, discipline.valid store →
      Safe engine discipline task (post task) (body task) { committed := store })
    (run : (engine.system body).Run { committed := store } steps state)
    (keeps : KeepsTo engine discipline body steps) (found : steps[i]? = some step) :
    Sound engine discipline post step.before ∧
      discipline.evolves step.before.world.committed state.world.committed := by
  have before {m : Nat} {other : PoolStep Task (BlockCall Call) (BlockCall.Reply Ret) Err Value
      (World Store Write Lock) (BlockChoice Err) Empty} (place : steps[m]? = some other) :
      Sound engine discipline post other.before :=
    (sound_of_run valid (fun task started => bodies task started.of_take) (run.take place)
      fun earlier member => keeps earlier (List.mem_of_mem_take member)).1
  refine ⟨before found, ?_⟩
  apply run.stable_final
    (fun state => discipline.evolves step.before.world.committed state.world.committed)
    found _ (discipline.evolves_refl _)
  intro m other _ place allowed evolved
  have moves := PoolSystem.moves_of_allowed allowed
  have member := List.mem_of_getElem? place
  have next := (before place).next
    (fun thread task started => bodies task ⟨other, member, thread, started⟩)
    (keeps other member) moves
  exact discipline.evolves_trans evolved next.2

/-- A program that has ended has ended as promised. -/
theorem ended_as_promised (valid : discipline.valid store)
    (bodies : ∀ task, Starts steps task → ∀ store, discipline.valid store →
      Safe engine discipline task (post task) (body task) { committed := store })
    (run : (engine.system body).Run { committed := store } steps state)
    (keeps : KeepsTo engine discipline body steps) (found : steps[i]? = some step)
    {task : Task} {result : Except Err Value}
    (ended : PoolSystem.ended? step = some (task, result)) :
    ∃ thread, post task result (step.before.world.session thread) := by
  obtain ⟨sound, _⟩ := sound_before valid bodies run keeps found
  obtain ⟨thread, _, stands⟩ := PoolSystem.ended?_eq_some_iff.mp ended
  exact ⟨thread, sound.safe thread _ stands _
    (Meanwhile.refl (step.before.world.session thread) sound.valid)⟩

end Runs

end ReadCommitted
