import ContractMate.EffectProgram
import ContractMate.RunHistory

/-!
# Pools of programs

Threads that run the programs of their tasks call by call against one world.  A
task starts at any time, a thread may die at any call, and the world also changes
by events of its own.  What a step can do is said once, and an invariant of the
threads follows from what it survives.
-/

/-- What a pool runs: the program of a task, how the world answers the calls of a
thread, what a start takes from the world, and the world's own events. -/
structure PoolSystem (Task Call : Type) (Ret : Call → Type)
    (Err Value World Choice Event : Type) where
  body : Task → Prog Call Ret Err Value
  respond : Nat → Prog.Respond Call Ret Err World Choice
  launch : Nat → Task → World → Option World := fun _ _ world => some world
  outside : Event → World → Option World

/-- A task and what is left of its program. -/
structure PoolThread (Task Call : Type) (Ret : Call → Type) (Err Value : Type) where
  task : Task
  rest : Prog Call Ret Err Value

/-- The world and the threads. -/
structure PoolState (Task Call : Type) (Ret : Call → Type)
    (Err Value World : Type) where
  world : World
  threads : Nat → Option (PoolThread Task Call Ret Err Value) := fun _ => none

/-- A thread that stops with calls to go has died. -/
inductive PoolEvent (Task Choice Event : Type) where
  | start (thread : Nat) (task : Task)
  | call (thread : Nat) (choice : Choice)
  | stop (thread : Nat)
  | outside (event : Event)

/-- An event, with the state it finds. -/
structure PoolStep (Task Call : Type) (Ret : Call → Type)
    (Err Value World Choice Event : Type) where
  event : PoolEvent Task Choice Event
  before : PoolState Task Call Ret Err Value World

/-- An answered call. -/
structure PoolAnswer (Task Call : Type) (Ret : Call → Type) (Err World Choice : Type)
    where
  thread : Nat
  task : Task
  request : Call
  choice : Choice
  reply : Except Err (Ret request)
  before : World
  after : World

namespace PoolSystem

variable {Task Call : Type} {Ret : Call → Type}
  {Err Value World Choice Event : Type}
  (system : PoolSystem Task Call Ret Err Value World Choice Event)

/-- The state after an event, if it can happen. -/
def next? (state : PoolState Task Call Ret Err Value World) :
    PoolEvent Task Choice Event → Option (PoolState Task Call Ret Err Value World)
  | .start thread task =>
      match state.threads thread with
      | some _ => none
      | none =>
          (system.launch thread task state.world).map fun world =>
            ⟨world, Function.update state.threads thread
              (some ⟨task, system.body task⟩)⟩
  | .call thread choice =>
      match state.threads thread with
      | some ⟨task, .call request next⟩ =>
          (system.respond thread choice state.world request).map fun answer =>
            ⟨answer.2, Function.update state.threads thread
              (some ⟨task, next answer.1⟩)⟩
      | _ => none
  | .stop thread =>
      (state.threads thread).map fun _ =>
        ⟨state.world, Function.update state.threads thread none⟩
  | .outside event =>
      (system.outside event state.world).map fun world => ⟨world, state.threads⟩

/-- What an event can do. -/
inductive Moves (state : PoolState Task Call Ret Err Value World) :
    PoolEvent Task Choice Event → PoolState Task Call Ret Err Value World → Prop
  | start {thread : Nat} {task : Task} {world : World}
      (idle : state.threads thread = none)
      (launched : system.launch thread task state.world = some world) :
      Moves state (.start thread task)
        ⟨world, Function.update state.threads thread
          (some ⟨task, system.body task⟩)⟩
  | call {thread : Nat} {choice : Choice} {task : Task} {request : Call}
      {next : Except Err (Ret request) → Prog Call Ret Err Value}
      {reply : Except Err (Ret request)} {world : World}
      (stands : state.threads thread = some ⟨task, .call request next⟩)
      (answered : system.respond thread choice state.world request =
        some (reply, world)) :
      Moves state (.call thread choice)
        ⟨world, Function.update state.threads thread (some ⟨task, next reply⟩)⟩
  | stop {thread : Nat} {stopped : PoolThread Task Call Ret Err Value}
      (stands : state.threads thread = some stopped) :
      Moves state (.stop thread)
        ⟨state.world, Function.update state.threads thread none⟩
  | outside {event : Event} {world : World}
      (happens : system.outside event state.world = some world) :
      Moves state (.outside event) ⟨world, state.threads⟩

variable {system} in
theorem moves_of_next? {state reached : PoolState Task Call Ret Err Value World}
    {event : PoolEvent Task Choice Event}
    (next : system.next? state event = some reached) :
    system.Moves state event reached := by
  cases event with
  | start thread task =>
      simp only [next?] at next
      split at next
      · cases next
      · rename_i idle
        obtain ⟨world, launched, rfl⟩ := Option.map_eq_some_iff.mp next
        exact .start idle launched
  | call thread choice =>
      simp only [next?] at next
      split at next
      · rename_i stands
        obtain ⟨⟨reply, world⟩, answered, rfl⟩ := Option.map_eq_some_iff.mp next
        exact .call stands answered
      · cases next
  | stop thread =>
      obtain ⟨stopped, stands, rfl⟩ := Option.map_eq_some_iff.mp next
      exact .stop stands
  | outside event =>
      obtain ⟨world, happens, rfl⟩ := Option.map_eq_some_iff.mp next
      exact .outside happens

/-! ## Runs -/

/-- The state after a step. -/
def after (step : PoolStep Task Call Ret Err Value World Choice Event) :
    PoolState Task Call Ret Err Value World :=
  (system.next? step.before step.event).getD step.before

/-- The step can happen. -/
def Allowed (step : PoolStep Task Call Ret Err Value World Choice Event) : Prop :=
  (system.next? step.before step.event).isSome

instance (step : PoolStep Task Call Ret Err Value World Choice Event) :
    Decidable (system.Allowed step) :=
  inferInstanceAs (Decidable (_ = true))

/-- The runs of a pool from a world in which no thread runs. -/
abbrev Run (world : World) :
    List (PoolStep Task Call Ret Err Value World Choice Event) →
      PoolState Task Call Ret Err Value World → Prop :=
  RunHistory.Run PoolStep.before system.after system.Allowed { world := world }

/-- Continue a run by some events. -/
def extend (steps : List (PoolStep Task Call Ret Err Value World Choice Event))
    (state : PoolState Task Call Ret Err Value World) :
    List (PoolEvent Task Choice Event) →
      Option (List (PoolStep Task Call Ret Err Value World Choice Event) ×
        PoolState Task Call Ret Err Value World)
  | [] => some (steps, state)
  | event :: events =>
      match system.next? state event with
      | some after => extend (steps ++ [⟨event, state⟩]) after events
      | none => none

/-- Continue a run by scripts, each of which sees the state it starts from. -/
def follow (steps : List (PoolStep Task Call Ret Err Value World Choice Event))
    (state : PoolState Task Call Ret Err Value World) :
    List (PoolState Task Call Ret Err Value World →
        List (PoolEvent Task Choice Event)) →
      Option (List (PoolStep Task Call Ret Err Value World Choice Event) ×
        PoolState Task Call Ret Err Value World)
  | [] => some (steps, state)
  | script :: scripts =>
      match system.extend steps state (script state) with
      | some (longer, reached) => follow longer reached scripts
      | none => none

variable {system}
  {step : PoolStep Task Call Ret Err Value World Choice Event}
  {steps : List (PoolStep Task Call Ret Err Value World Choice Event)}
  {final : PoolState Task Call Ret Err Value World} {start : World}

theorem moves_of_allowed (allowed : system.Allowed step) :
    system.Moves step.before step.event (system.after step) := by
  obtain ⟨reached, next⟩ := Option.isSome_iff_exists.mp allowed
  rw [PoolSystem.after, next]
  exact moves_of_next? next

/-- What `extend` computes is a run. -/
theorem run_of_extend {events : List (PoolEvent Task Choice Event)}
    {before : List (PoolStep Task Call Ret Err Value World Choice Event)}
    {reached : PoolState Task Call Ret Err Value World}
    (run : system.Run start before reached)
    (extended : system.extend before reached events = some (steps, final)) :
    system.Run start steps final := by
  induction events generalizing before reached with
  | nil =>
      cases extended
      exact run
  | cons event events induction =>
      simp only [extend] at extended
      split at extended
      · rename_i after next
        have longer := run.step ⟨event, reached⟩ rfl (by simp [Allowed, next])
        simp only [PoolSystem.after, next, Option.getD_some] at longer
        exact induction longer extended
      · cases extended

theorem run_of_follow
    {scripts : List (PoolState Task Call Ret Err Value World →
      List (PoolEvent Task Choice Event))}
    {before : List (PoolStep Task Call Ret Err Value World Choice Event)}
    {reached : PoolState Task Call Ret Err Value World}
    (run : system.Run start before reached)
    (followed : system.follow before reached scripts = some (steps, final)) :
    system.Run start steps final := by
  induction scripts generalizing before reached with
  | nil =>
      cases followed
      exact run
  | cons script scripts induction =>
      simp only [follow] at followed
      split at followed
      · rename_i longer next extended
        exact induction (run_of_extend run extended) followed
      · cases followed

/-- The call that a step answers. -/
def answer? (step : PoolStep Task Call Ret Err Value World Choice Event) :
    Option (PoolAnswer Task Call Ret Err World Choice) :=
  match step.event with
  | .call thread choice =>
      match step.before.threads thread with
      | some ⟨task, .call request _⟩ =>
          (system.respond thread choice step.before.world request).map
            fun answer =>
              ⟨thread, task, request, choice, answer.1, step.before.world,
                answer.2⟩
      | _ => none
  | _ => none

/-- The task that stops at a step, and the result of its program. -/
def ended? (step : PoolStep Task Call Ret Err Value World Choice Event) :
    Option (Task × Except Err Value) :=
  match step.event with
  | .stop thread =>
      match step.before.threads thread with
      | some ⟨task, .done result⟩ => some (task, result)
      | _ => none
  | _ => none

/-- The task that a step starts. -/
def started? (step : PoolStep Task Call Ret Err Value World Choice Event) : Option Task :=
  match step.event with
  | .start _ task => some task
  | _ => none

/-- Every thread of a state is as required. -/
def EveryThread (keeps : Task → Prog Call Ret Err Value → Prop)
    (state : PoolState Task Call Ret Err Value World) : Prop :=
  ∀ thread running, state.threads thread = some running →
    keeps running.task running.rest

theorem answer?_eq_some_iff
    {answer : PoolAnswer Task Call Ret Err World Choice} :
    system.answer? step = some answer ↔
      step.event = .call answer.thread answer.choice ∧
        (∃ next, step.before.threads answer.thread =
          some ⟨answer.task, .call answer.request next⟩) ∧
        answer.before = step.before.world ∧
        system.respond answer.thread answer.choice step.before.world
          answer.request = some (answer.reply, answer.after) := by
  obtain ⟨event, before⟩ := step
  constructor
  · intro found
    cases event with
    | call thread choice =>
        simp only [answer?] at found
        split at found
        · rename_i stands
          obtain ⟨reply, answered, rfl⟩ := Option.map_eq_some_iff.mp found
          exact ⟨rfl, ⟨_, stands⟩, rfl, answered⟩
        · cases found
    | start thread task | stop thread | outside event => cases found
  · obtain ⟨thread, task, request, choice, reply, world, after⟩ := answer
    rintro ⟨called, ⟨next, stands⟩, same, answered⟩
    obtain rfl : event = .call thread choice := called
    obtain rfl : world = before.world := same
    simp only at stands answered
    simp [answer?, stands, answered]

variable (system) in
/-- A call that is answered. -/
theorem answer?_of_call {before : PoolState Task Call Ret Err Value World} {thread : Nat}
    {task : Task} {request : Call} {next : Except Err (Ret request) → Prog Call Ret Err Value}
    {choice : Choice} {reply : Except Err (Ret request)} {world : World}
    (stands : before.threads thread = some ⟨task, .call request next⟩)
    (answered : system.respond thread choice before.world request = some (reply, world)) :
    system.answer? ⟨.call thread choice, before⟩ =
      some ⟨thread, task, request, choice, reply, before.world, world⟩ :=
  answer?_eq_some_iff.mpr ⟨rfl, ⟨next, stands⟩, rfl, answered⟩

/-- An answered call leaves its world. -/
theorem world_after_of_answer {answer : PoolAnswer Task Call Ret Err World Choice}
    (answered : system.answer? step = some answer) :
    (system.after step).world = answer.after := by
  obtain ⟨called, ⟨rest, stands⟩, _, responds⟩ := answer?_eq_some_iff.mp answered
  simp only [after, next?, called, stands, responds]
  rfl

theorem ended?_eq_some_iff {task : Task} {result : Except Err Value} :
    ended? step = some (task, result) ↔
      ∃ thread, step.event = .stop thread ∧
        step.before.threads thread = some ⟨task, .done result⟩ := by
  obtain ⟨event, before⟩ := step
  constructor
  · intro found
    cases event with
    | stop thread =>
        simp only [ended?] at found
        split at found
        · rename_i stands
          cases found
          exact ⟨thread, rfl, stands⟩
        · cases found
    | start thread task | call thread choice | outside event => cases found
  · rintro ⟨thread, rfl, stands⟩
    simp only at stands
    simp [ended?, stands]

/-- What the programs of all tasks start with and every answered call preserves
holds of every thread, wherever the run stands. -/
theorem everyThread_of_run (keeps : Task → Prog Call Ret Err Value → Prop)
    (run : system.Run start steps final)
    (starts : ∀ task, keeps task (system.body task))
    (continues : ∀ step ∈ steps, ∀ answer, system.answer? step = some answer →
      ∀ next, keeps answer.task (.call answer.request next) →
        keeps answer.task (next answer.reply)) :
    EveryThread keeps final ∧ ∀ step ∈ steps, EveryThread keeps step.before := by
  apply run.invariant (EveryThread keeps)
  · intro thread running found
    cases found
  · intro step member allowed every thread running found
    have moves := moves_of_allowed allowed
    generalize ended : system.after step = reached at moves found
    obtain ⟨event, before⟩ := step
    simp only at every moves
    cases moves with
    | @start started task world idle launched =>
        simp only [Function.update_apply] at found
        split_ifs at found with same
        · cases found
          exact starts task
        · exact every thread running found
    | @call caller choice task request next reply world stands answered =>
        simp only [Function.update_apply] at found
        split_ifs at found with same
        · cases found
          have answer : system.answer? ⟨.call caller choice, before⟩ =
              some ⟨caller, task, request, choice, reply, before.world, world⟩ :=
            answer?_eq_some_iff.mpr ⟨rfl, ⟨next, stands⟩, rfl, answered⟩
          exact continues _ member _ answer next (every caller _ stands)
        · exact every thread running found
    | @stop stopping stopped stands =>
        simp only [Function.update_apply] at found
        split_ifs at found with same
        exact every thread running found
    | @outside event world happens => exact every thread running found

/-- The footprint of every task bounds the calls of a run. -/
theorem calls_of_run {allowed : Task → Call → Prop}
    (run : system.Run start steps final)
    (bodies : ∀ task, (system.body task).Calls (allowed task))
    (member : step ∈ steps) {answer : PoolAnswer Task Call Ret Err World Choice}
    (answered : system.answer? step = some answer) :
    allowed answer.task answer.request := by
  have every := (everyThread_of_run
    (fun task program => program.Calls (allowed task)) run bodies
    (fun _ _ answer _ next calls => calls.2 answer.reply)).2 step member
  obtain ⟨_, ⟨next, stands⟩, _⟩ := answer?_eq_some_iff.mp answered
  exact (every _ _ stands).1

/-! ## Phases along a run -/

section Tracking

variable {Phase : Type} (initial : Task → Phase)
  (next : Phase → (request : Call) → Except Err (Ret request) → Phase)
  (thread : Nat)

variable (system) in
/-- The phase of a thread after a step: it starts over with a task, and moves on
with the thread's own answers. -/
def track (phase : Option Phase)
    (step : PoolStep Task Call Ret Err Value World Choice Event) : Option Phase :=
  match step.event with
  | .start started task => if started = thread then some (initial task) else phase
  | .call caller _ =>
      if caller = thread then
        match system.answer? step with
        | some answer =>
            phase.map fun phase => next phase answer.request answer.reply
        | none => phase
      else phase
  | _ => phase

variable (system) in
/-- The phase of a thread after some steps. -/
def tracked (steps : List (PoolStep Task Call Ret Err Value World Choice Event)) :
    Option Phase :=
  steps.foldl (system.track initial next thread) none

variable {initial next thread}

theorem tracked_concat :
    system.tracked initial next thread (steps ++ [step]) =
      system.track initial next thread
        (system.tracked initial next thread steps) step := by
  simp [tracked, List.foldl_append]

/-- What tasks start with and answers preserve holds of every thread in its
phase. -/
theorem phases_of_run (keeps : Task → Prog Call Ret Err Value → Phase → Prop)
    (starts : ∀ task, keeps task (system.body task) (initial task))
    (continues : ∀ task request rest phase reply,
      keeps task (.call request rest) phase →
        keeps task (rest reply) (next phase request reply))
    (run : system.Run start steps final)
    {running : PoolThread Task Call Ret Err Value}
    (stands : final.threads thread = some running) :
    ∃ phase, system.tracked initial next thread steps = some phase ∧
      keeps running.task running.rest phase := by
  induction run generalizing running with
  | nil => cases stands
  | @step steps state run last found permitted induction =>
      have moves := moves_of_allowed permitted
      rw [tracked_concat]
      rw [← found] at induction
      clear found
      generalize system.after last = reached at moves stands
      obtain ⟨event, before⟩ := last
      simp only at induction moves
      cases moves with
      | @start started task world idle launched =>
          simp only [Function.update_apply, track] at stands ⊢
          by_cases same : thread = started
          · rw [if_pos same] at stands
            rw [if_pos same.symm]
            cases stands
            exact ⟨_, rfl, starts task⟩
          · rw [if_neg same] at stands
            rw [if_neg (Ne.symm same)]
            exact induction stands
      | @call caller choice task request rest reply world standing answered =>
          simp only [Function.update_apply, track] at stands ⊢
          by_cases same : thread = caller
          · subst same
            rw [if_pos rfl] at stands
            cases stands
            obtain ⟨phase, reached, kept⟩ := induction standing
            have answer : system.answer? ⟨.call thread choice, before⟩ =
                some ⟨thread, task, request, choice, reply, before.world, world⟩ :=
              answer?_eq_some_iff.mpr ⟨rfl, ⟨rest, standing⟩, rfl, answered⟩
            rw [if_pos rfl, answer, reached]
            exact ⟨_, rfl, continues task request rest phase reply kept⟩
          · rw [if_neg same] at stands
            rw [if_neg (Ne.symm same)]
            exact induction stands
      | @stop stopping stopped standing =>
          simp only [Function.update_apply] at stands
          split_ifs at stands
          exact induction stands
      | outside happens => exact induction stands

/-- Every thread of a run conforms in its phase. -/
theorem conforms_of_run {permitted : Phase → Call → Prop}
    {post : Task → Except Err Value → Phase → Prop}
    (bodies : ∀ task, (Monitor.deterministic permitted next).Conforms
      (system.body task) (post task) (initial task))
    (run : system.Run start steps final)
    {running : PoolThread Task Call Ret Err Value}
    (stands : final.threads thread = some running) :
    ∃ phase, system.tracked initial next thread steps = some phase ∧
      (Monitor.deterministic permitted next).Conforms running.rest
        (post running.task) phase :=
  phases_of_run
    (fun task rest phase =>
      (Monitor.deterministic permitted next).Conforms rest (post task) phase)
    bodies (fun _ _ _ _ reply conforms => conforms.2 reply _ rfl) run stands

/-- The other threads' phases stay. -/
theorem tracked_of_other {other : Nat} (unlike : ∀ task, step.event ≠ .start other task)
    (silent : ∀ choice, step.event ≠ .call other choice) :
    system.tracked initial next other (steps ++ [step]) =
      system.tracked initial next other steps := by
  rw [tracked_concat]
  unfold track
  split
  · rename_i started task event
    have different : started ≠ other := by
      rintro rfl
      exact unlike task event
    rw [if_neg different]
  · rename_i caller choice event
    have different : caller ≠ other := by
      rintro rfl
      exact silent choice event
    rw [if_neg different]
  · rfl

/-- An answer moves its own thread on. -/
theorem tracked_of_answer {answer : PoolAnswer Task Call Ret Err World Choice}
    (answered : system.answer? step = some answer) {phase : Phase}
    (found : system.tracked initial next answer.thread steps = some phase) :
    system.tracked initial next answer.thread (steps ++ [step]) =
      some (next phase answer.request answer.reply) := by
  obtain ⟨called, _⟩ := answer?_eq_some_iff.mp answered
  rw [tracked_concat, found]
  simp [track, called, answered]

/-- What the answers preserve stays with a thread until it starts over. -/
theorem tracked_stays (keeps : Phase → Prop)
    (preserved : ∀ phase request reply, keeps phase →
      keeps (next phase request reply))
    (more : List (PoolStep Task Call Ret Err Value World Choice Event))
    (same : ∀ step ∈ more, ∀ task, step.event ≠ .start thread task)
    {phase : Phase} (found : system.tracked initial next thread steps = some phase)
    (holds : keeps phase) :
    ∃ phase, system.tracked initial next thread (steps ++ more) = some phase ∧
      keeps phase := by
  induction more generalizing steps phase with
  | nil => exact ⟨phase, by simpa using found, holds⟩
  | cons step more induction =>
      have moved : ∃ after,
          system.tracked initial next thread (steps ++ [step]) = some after ∧
            keeps after := by
        rw [tracked_concat, found]
        unfold track
        split
        · rename_i started task event
          have other : started ≠ thread := by
            rintro rfl
            exact same step (by simp) task event
          rw [if_neg other]
          exact ⟨phase, rfl, holds⟩
        · split_ifs
          · split
            · exact ⟨_, rfl, preserved phase _ _ holds⟩
            · exact ⟨phase, rfl, holds⟩
          · exact ⟨phase, rfl, holds⟩
        · exact ⟨phase, rfl, holds⟩
      obtain ⟨after, found, holds⟩ := moved
      have rest := induction (fun step member => same step (by simp [member])) found
        holds
      rwa [List.append_assoc, List.singleton_append] at rest

/-- A later call of the same task meets the phases that an earlier answer reached
and that answers preserve. -/
theorem permitted_after_answer {permitted : Phase → Call → Prop}
    {post : Task → Except Err Value → Phase → Prop}
    (bodies : ∀ task, (Monitor.deterministic permitted next).Conforms
      (system.body task) (post task) (initial task))
    (run : system.Run start steps final) (keeps : Phase → Prop)
    (preserved : ∀ phase request reply, keeps phase →
      keeps (next phase request reply))
    {i j : Nat} {first second : PoolStep Task Call Ret Err Value World Choice Event}
    (ordered : i < j) (found : steps[i]? = some first)
    (found' : steps[j]? = some second)
    {earlier later : PoolAnswer Task Call Ret Err World Choice}
    (answered : system.answer? first = some earlier)
    (answered' : system.answer? second = some later)
    (own : earlier.thread = later.thread)
    (same : ∀ k step, i < k → k < j → steps[k]? = some step →
      ∀ task, step.event ≠ .start later.thread task)
    (established : ∀ phase, keeps (next phase earlier.request earlier.reply)) :
    ∃ phase, keeps phase ∧ permitted phase later.request := by
  obtain ⟨called, ⟨rest, standing⟩, _⟩ := answer?_eq_some_iff.mp answered
  obtain ⟨_, ⟨rest', standing'⟩, _⟩ := answer?_eq_some_iff.mp answered'
  obtain ⟨phase, tracked, conforms⟩ :=
    conforms_of_run bodies (run.take found') standing'
  obtain ⟨before, reached, _⟩ := conforms_of_run bodies (run.take found) standing
  have moved : system.tracked initial next later.thread (steps.take (i + 1)) =
      some (next before earlier.request earlier.reply) := by
    rw [List.take_add_one, found, Option.toList_some, ← own]
    exact tracked_of_answer answered reached
  have stays := tracked_stays keeps preserved ((steps.take j).drop (i + 1))
    (by
      intro step member
      obtain ⟨k, after, before, place⟩ :=
        RunHistory.getElem?_of_mem_between member
      exact same k step after before place)
    moved (established before)
  have split : steps.take (i + 1) ++ (steps.take j).drop (i + 1) =
      steps.take j := by
    have prefix_ : (steps.take j).take (i + 1) = steps.take (i + 1) := by
      rw [List.take_take, Nat.min_eq_left (by omega)]
    rw [← prefix_, List.take_append_drop]
  rw [split, tracked] at stays
  obtain ⟨last, same, holds⟩ := stays
  cases same
  exact ⟨phase, holds, conforms.1⟩

end Tracking

/-! ## Tasks that start once -/

section Once

variable {result : Except Err Value}

theorem started?_eq_some_iff {task : Task} :
    started? step = some task ↔ ∃ thread, step.event = .start thread task := by
  unfold started?
  constructor
  · intro starts
    split at starts
    · rename_i thread other event
      cases starts
      exact ⟨thread, event⟩
    · cases starts
  · rintro ⟨thread, event⟩
    rw [event]

/-- Where every task is started at most once, a task that stands has one thread and has not
ended, and a task ends once. -/
structure OneThread (steps : List (PoolStep Task Call Ret Err Value World Choice Event))
    (state : PoolState Task Call Ret Err Value World) : Prop where
  started : ∀ thread running, state.threads thread = some running →
    running.task ∈ steps.filterMap started?
  single : ∀ thread other running running', state.threads thread = some running →
    state.threads other = some running' → running.task = running'.task → thread = other
  standing : ∀ thread running, state.threads thread = some running → ∀ step ∈ steps,
    ∀ result, ended? step ≠ some (running.task, result)
  ended : ∀ step ∈ steps, ∀ task result, ended? step = some (task, result) →
    task ∈ steps.filterMap started?
  unique : ∀ (i j : Nat) (first second : PoolStep Task Call Ret Err Value World Choice Event)
    (task : Task) (result result' : Except Err Value), steps[i]? = some first →
    steps[j]? = some second → ended? first = some (task, result) →
    ended? second = some (task, result') → i = j

variable {state reached : PoolState Task Call Ret Err Value World}

/-- A step that starts no task, and after which the thread of a task that ends is idle. -/
theorem OneThread.next (one : OneThread steps state) (silent : started? step = none)
    (same : ∀ thread running, reached.threads thread = some running →
      ∃ old, state.threads thread = some old ∧ old.task = running.task)
    (ends : ∀ task result, ended? step = some (task, result) →
      ∃ thread old, state.threads thread = some old ∧ old.task = task ∧
        reached.threads thread = none) :
    OneThread (steps ++ [step]) reached := by
  have starts : (steps ++ [step]).filterMap started? = steps.filterMap started? := by
    simp [silent]
  have fresh (task : Task) (result : Except Err Value)
      (ended : ended? step = some (task, result)) (other : PoolStep Task Call Ret Err Value
        World Choice Event) (member : other ∈ steps) (result' : Except Err Value) :
      ended? other ≠ some (task, result') := by
    obtain ⟨thread, old, stands, named, _⟩ := ends task result ended
    rw [← named]
    exact one.standing thread old stands other member result'
  refine ⟨?_, ?_, ?_, ?_, ?_⟩
  · intro thread running stands
    obtain ⟨old, stood, named⟩ := same thread running stands
    rw [starts, ← named]
    exact one.started thread old stood
  · intro thread other running running' stands stands' task
    obtain ⟨old, stood, named⟩ := same thread running stands
    obtain ⟨old', stood', named'⟩ := same other running' stands'
    exact one.single thread other old old' stood stood'
      (named.trans (task.trans named'.symm))
  · intro thread running stands other member result ended
    obtain ⟨old, stood, named⟩ := same thread running stands
    rcases List.mem_append.mp member with earlier | last
    · exact one.standing thread old stood other earlier result (named ▸ ended)
    · rw [List.mem_singleton] at last
      subst last
      obtain ⟨ending, old', stood', named', idle⟩ := ends _ _ ended
      have here : ending = thread :=
        one.single ending thread old' old stood' stood (named'.trans named.symm)
      rw [here, stands] at idle
      cases idle
  · intro other member task result ended
    rw [starts]
    rcases List.mem_append.mp member with earlier | last
    · exact one.ended other earlier task result ended
    · rw [List.mem_singleton] at last
      subst last
      obtain ⟨thread, old, stood, named, _⟩ := ends task result ended
      exact named ▸ one.started thread old stood
  · intro i j first second task result result' found found' ended ended'
    rcases RunHistory.getElem?_append_cases found with before | ⟨rfl, rfl⟩
    · rcases RunHistory.getElem?_append_cases found' with before' | ⟨_, rfl⟩
      · exact one.unique i j first second task result result' before before' ended ended'
      · have member := List.mem_of_getElem? before
        exact absurd ended (fresh task result' ended' first member result)
    · rcases RunHistory.getElem?_append_cases found' with before' | ⟨last, _⟩
      · have member := List.mem_of_getElem? before'
        exact absurd ended' (fresh task result ended second member result')
      · exact last.symm

/-- A step that starts a task that was never started before. -/
theorem OneThread.launch (one : OneThread steps state) {thread : Nat} {task : Task}
    {world : World} (event : step.event = .start thread task)
    (distinct : ((steps ++ [step]).filterMap started?).Nodup) :
    OneThread (steps ++ [step])
      ⟨world, Function.update state.threads thread (some ⟨task, system.body task⟩)⟩ := by
  have silent (task : Task) (result : Except Err Value) :
      ended? step ≠ some (task, result) := by
    intro ended
    obtain ⟨stopping, stopped, _⟩ := ended?_eq_some_iff.mp ended
    rw [event] at stopped
    cases stopped
  have starts : (steps ++ [step]).filterMap started? = steps.filterMap started? ++ [task] := by
    simp [started?, event]
  rw [starts, List.nodup_append] at distinct
  have new (known : task ∈ steps.filterMap started?) : False :=
    distinct.2.2 task known task (by simp) rfl
  refine ⟨?_, ?_, ?_, ?_, ?_⟩
  · intro other running stands
    rw [starts, List.mem_append, List.mem_singleton]
    simp only [Function.update_apply] at stands
    split_ifs at stands
    · cases stands
      exact .inr rfl
    · exact .inl (one.started other running stands)
  · intro first second running running' stands stands' named
    simp only [Function.update_apply] at stands stands'
    split_ifs at stands with here <;> split_ifs at stands' with here'
    · exact here.trans here'.symm
    · cases stands
      have named : task = running'.task := named
      have known := one.started second running' stands'
      exact (new (named ▸ known)).elim
    · cases stands'
      have named : running.task = task := named
      have known := one.started first running stands
      exact (new (named ▸ known)).elim
    · exact one.single first second running running' stands stands' named
  · intro other running stands earlier member result ended
    rcases List.mem_append.mp member with before | last
    · simp only [Function.update_apply] at stands
      split_ifs at stands
      · cases stands
        exact new (one.ended earlier before task result ended)
      · exact one.standing other running stands earlier before result ended
    · rw [List.mem_singleton] at last
      subst last
      exact silent _ _ ended
  · intro earlier member other result ended
    rcases List.mem_append.mp member with before | last
    · rw [starts, List.mem_append]
      exact .inl (one.ended earlier before other result ended)
    · rw [List.mem_singleton] at last
      subst last
      exact absurd ended (silent _ _)
  · intro i j first second other result result' found found' ended ended'
    rcases RunHistory.getElem?_append_cases found with found | ⟨_, rfl⟩
    · rcases RunHistory.getElem?_append_cases found' with found' | ⟨_, rfl⟩
      · exact one.unique i j first second other result result' found found' ended ended'
      · exact absurd ended' (silent _ _)
    · exact absurd ended (silent _ _)

theorem oneThread_of_run (run : system.Run start steps final)
    (distinct : (steps.filterMap started?).Nodup) : OneThread steps final := by
  induction run with
  | nil => exact ⟨nofun, nofun, nofun, nofun, nofun⟩
  | @step steps state run last found permitted induction =>
      have one := induction (distinct.sublist (by simp))
      subst found
      have moves := moves_of_allowed permitted
      generalize system.after last = reached at moves ⊢
      obtain ⟨event, before⟩ := last
      cases moves with
      | start idle launched => exact one.launch rfl distinct
      | @call thread choice task request next reply world stands answered =>
          apply one.next rfl
          · intro other running standing
            simp only [Function.update_apply] at standing
            split_ifs at standing with same
            · cases standing
              subst same
              exact ⟨_, stands, rfl⟩
            · exact ⟨running, standing, rfl⟩
          · exact nofun
      | @stop thread stopped stands =>
          apply one.next rfl
          · intro other running standing
            simp only [Function.update_apply] at standing
            split_ifs at standing
            exact ⟨running, standing, rfl⟩
          · intro task result ended
            obtain ⟨stopping, stops, stood⟩ := ended?_eq_some_iff.mp ended
            cases stops
            exact ⟨_, _, stood, rfl, by simp⟩
      | outside happens => exact one.next rfl (fun _ running stands => ⟨running, stands, rfl⟩) nofun

/-- A task that is started at most once ends at most once. -/
theorem ended_unique (run : system.Run start steps final)
    (distinct : (steps.filterMap started?).Nodup) {i j : Nat}
    {first second : PoolStep Task Call Ret Err Value World Choice Event} {task : Task}
    {result' : Except Err Value} (found : steps[i]? = some first)
    (found' : steps[j]? = some second) (ended : ended? first = some (task, result))
    (ended' : ended? second = some (task, result')) : i = j :=
  (oneThread_of_run run distinct).unique i j first second task result result' found found'
    ended ended'

end Once

end PoolSystem
