import ContractMate.TransactionDiscipline

/-!
# Outcomes of blocks

Programs that are one block each, some of whose values are accepted.  When a body writes
nothing on its way to a value that is not accepted, and no commit of writes fails after
having taken effect, a call that raises or returns such a value leaves the committed store as it is.
-/

namespace ReadCommitted

open TransactionBlock (BlockCall BlockChoice block)

variable {Task Call : Type} {Ret : Call → Type} {Err Store Write Lock Value : Type}

section Thrift

variable (engine : Engine Call Ret Err Store Write Lock) (accepts : Value → Prop)

/-- A body that has written nothing when it returns a value that is not accepted. -/
def Thrifty : Prog Call Ret Err Value → List Write → Prop
  | .done (.ok value), pending => accepts value ∨ pending = []
  | .done (.error _), _ => True
  | .call request next, pending =>
      (∀ store reply writes, engine.exec store request = .ok (reply, writes) →
        Thrifty (next (.ok reply)) (pending ++ writes)) ∧
      ∀ error, Thrifty (next (.error error)) pending

variable {engine accepts} {body : Prog Call Ret Err Value} {pending : List Write}

theorem thrifty_accepted {value : Value} (accepted : accepts value) :
    Thrifty engine accepts (pure value : Prog Call Ret Err Value) pending :=
  .inl accepted

theorem thrifty_unwritten (value : Value) :
    Thrifty engine accepts (pure value : Prog Call Ret Err Value) [] :=
  .inr rfl

/-- A body whose values are all accepted. -/
theorem thrifty_of_returns (returns : body.Returns accepts) :
    Thrifty engine accepts body pending := by
  induction body generalizing pending with
  | done result =>
      cases result with
      | ok value => exact .inl (returns value rfl)
      | error error => trivial
  | call request next induction =>
      exact ⟨fun _ reply _ _ => induction (.ok reply) (returns (.ok reply)),
        fun error => induction (.error error) (returns (.error error))⟩

variable (engine) in
/-- A statement that writes nothing. -/
def OnlyReads (request : Call) : Prop :=
  ∀ store reply writes, engine.exec store request = .ok (reply, writes) → writes = []

/-- What reads before it goes on. -/
theorem thrifty_read {Other : Type} {first : Prog Call Ret Err Other}
    {next : Other → Prog Call Ret Err Value} (reads : first.Calls (OnlyReads engine))
    (continued : ∀ value, Thrifty engine accepts (next value) pending) :
    Thrifty engine accepts (first >>= next) pending := by
  induction first with
  | done result =>
      cases result with
      | ok value => exact continued value
      | error error => trivial
  | call request answer induction =>
      refine ⟨?_, fun error => induction (.error error) (reads.2 (.error error))⟩
      intro store reply writes executed
      rw [reads.1 store reply writes executed, List.append_nil]
      exact induction (.ok reply) (reads.2 (.ok reply))

end Thrift

section Runs

variable [DecidableEq Lock] {engine : Engine Call Ret Err Store Write Lock}
  {accepts : Value → Prop}
  {body : Task → Prog (BlockCall Call) (BlockCall.Reply Ret) Err Value}
  {steps : List (PoolStep Task (BlockCall Call) (BlockCall.Reply Ret) Err Value
    (World Store Write Lock) (BlockChoice Err) Empty)}
  {final : PoolState Task (BlockCall Call) (BlockCall.Reply Ret) Err Value
    (World Store Write Lock)}
  {store : Store} {thread : Nat}

/-- A transaction has written, and its commit fails although it takes effect. -/
def loses (step : PoolStep Task (BlockCall Call) (BlockCall.Reply Ret) Err Value
    (World Store Write Lock) (BlockChoice Err) Empty) : Bool :=
  match step.event with
  | .call thread (.lost _) => !(step.before.world.pending thread).isEmpty
  | _ => false

/-- No commit of writes fails after having taken effect. -/
abbrev NoneLost (steps : List (PoolStep Task (BlockCall Call) (BlockCall.Reply Ret) Err Value
    (World Store Write Lock) (BlockChoice Err) Empty)) : Prop :=
  ∀ step ∈ steps, loses step = false

variable (engine body) in
/-- The thread has changed the committed store since it was last started. -/
def HasChanged (steps : List (PoolStep Task (BlockCall Call) (BlockCall.Reply Ret) Err Value
    (World Store Write Lock) (BlockChoice Err) Empty)) (thread : Nat) : Prop :=
  ∃ i step answer, steps[i]? = some step ∧ (engine.system body).answer? step = some answer ∧
    answer.thread = thread ∧ answer.after.committed ≠ answer.before.committed ∧
    ∀ (k : Nat) (later : PoolStep Task (BlockCall Call) (BlockCall.Reply Ret) Err Value
      (World Store Write Lock) (BlockChoice Err) Empty),
      i < k → steps[k]? = some later → ∀ task, later.event ≠ .start thread task

variable (engine accepts) in
/-- A thread in its block has changed nothing, and one that has changed something returns
an accepted value. -/
def Standing (changed : Prop) (pending : List Write)
    (rest : Prog (BlockCall Call) (BlockCall.Reply Ret) Err Value) : Prop :=
  (∃ body, rest = block body ∧ Thrifty engine accepts body pending ∧ ¬ changed) ∨
    ∃ result, rest = .done result ∧ (changed → ∃ value, result = .ok value ∧ accepts value)

/-- What an answered call of a block leaves. -/
theorem standing_of_answer {world after : World Store Write Lock} {choice : BlockChoice Err}
    {request : BlockCall Call} {reply : Except Err (BlockCall.Reply Ret request)}
    {next : Except Err (BlockCall.Reply Ret request) →
      Prog (BlockCall Call) (BlockCall.Reply Ret) Err Value} {changed : Prop}
    (stands : Standing engine accepts changed (world.pending thread) (.call request next))
    (kept : ∀ error, choice = .lost error → world.pending thread = [])
    (answered : engine.respond thread choice world request = some (reply, after)) :
    Standing engine accepts (changed ∨ after.committed ≠ world.committed)
      (after.pending thread) (next reply) := by
  obtain ⟨body, same, thrifty, unchanged⟩ : ∃ body, .call request next = block body ∧
      Thrifty engine accepts body (world.pending thread) ∧ ¬ changed := by
    rcases stands with inside | ⟨result, same, _⟩
    · exact inside
    · cases same
  cases body with
  | done result =>
      right
      cases result with
      | ok value =>
          cases same
          cases choice with
          | executes =>
              cases answered
              refine ⟨.ok value, rfl, ?_⟩
              rintro (earlier | differs)
              · exact absurd earlier unchanged
              · rcases thrifty with accepted | unwritten
                · exact ⟨value, rfl, accepted⟩
                · exact absurd (view_of_unwritten unwritten) differs
          | fails error =>
              cases answered
              refine ⟨.error error, rfl, ?_⟩
              rintro (earlier | differs)
              · exact absurd earlier unchanged
              · exact absurd rfl differs
          | lost error =>
              cases answered
              refine ⟨.error error, rfl, ?_⟩
              rintro (earlier | differs)
              · exact absurd earlier unchanged
              · exact absurd (view_of_unwritten (kept error rfl)) differs
      | error raised =>
          cases same
          cases choice with
          | executes =>
              cases answered
              refine ⟨.error raised, rfl, ?_⟩
              rintro (earlier | differs)
              · exact absurd earlier unchanged
              · exact absurd rfl differs
          | fails error | lost error =>
              cases answered
              refine ⟨.error error, rfl, ?_⟩
              rintro (earlier | differs)
              · exact absurd earlier unchanged
              · exact absurd rfl differs
  | call statement rest =>
      left
      cases same
      cases choice with
      | executes =>
          simp only [Engine.respond, Engine.respondStatement] at answered
          split at answered
          · cases answered
          · split at answered
            · rename_i value writes executed
              cases answered
              refine ⟨rest (.ok value), rfl, ?_, by simpa [World.record] using unchanged⟩
              have written := thrifty.1 _ _ _ executed
              simpa [World.record] using written
            · rename_i error executed
              cases answered
              exact ⟨rest (.error error), rfl, thrifty.2 error, by simpa using unchanged⟩
      | fails error =>
          cases answered
          exact ⟨rest (.error error), rfl, thrifty.2 error, by simpa using unchanged⟩
      | lost error => cases answered

variable {step : PoolStep Task (BlockCall Call) (BlockCall.Reply Ret) Err Value
    (World Store Write Lock) (BlockChoice Err) Empty}

/-- A thread that has changed the store had done so, unless its last step did. -/
theorem HasChanged.of_append (changed : HasChanged engine body (steps ++ [step]) thread) :
    (∀ task, step.event ≠ .start thread task) ∧
      (HasChanged engine body steps thread ∨
        ∃ answer, (engine.system body).answer? step = some answer ∧ answer.thread = thread ∧
          answer.after.committed ≠ answer.before.committed) := by
  obtain ⟨i, other, answer, found, answered, own, differs, since⟩ := changed
  rcases RunHistory.getElem?_append_cases found with found | ⟨rfl, rfl⟩
  · constructor
    · intro task
      have inside := RunHistory.lt_length_of_getElem? found
      exact since steps.length step inside List.getElem?_concat_length task
    · left
      refine ⟨i, other, answer, found, answered, own, differs, ?_⟩
      intro k later after place
      exact since k later after (RunHistory.getElem?_append place)
  · constructor
    · intro task starts
      obtain ⟨called, _⟩ := PoolSystem.answer?_eq_some_iff.mp answered
      rw [called] at starts
      cases starts
    · exact .inr ⟨answer, answered, own, differs⟩

variable (engine accepts) in
/-- A task's program is a block, or ends at once. -/
def OneBlock (program : Prog (BlockCall Call) (BlockCall.Reply Ret) Err Value) : Prop :=
  (∃ body, program = block body ∧ Thrifty engine accepts body []) ∨
    ∃ result, program = .done result

/-- A call leaves what other threads have written. -/
theorem pending_of_respond {world after : World Store Write Lock} {caller : Nat}
    {choice : BlockChoice Err} {request : BlockCall Call}
    {reply : Except Err (BlockCall.Reply Ret request)}
    (answered : engine.respond caller choice world request = some (reply, after))
    (different : thread ≠ caller) : after.pending thread = world.pending thread := by
  cases request with
  | statement statement =>
      cases choice with
      | executes =>
          simp only [Engine.respond, Engine.respondStatement] at answered
          split at answered
          · cases answered
          · split at answered <;> cases answered
            · simp [World.record, different]
            · rfl
      | fails error =>
          cases answered
          rfl
      | lost error => cases answered
  | commit | rollback => cases choice <;> cases answered <;> simp [World.finish, different]

/-- Every thread of a run stands so. -/
theorem standing_of_run (bodies : ∀ task, OneBlock engine accepts (body task))
    (run : (engine.system body).Run { committed := store } steps final)
    (kept : NoneLost steps) {running : PoolThread Task (BlockCall Call) (BlockCall.Reply Ret)
      Err Value} (stands : final.threads thread = some running) :
    Standing engine accepts (HasChanged engine body steps thread) (final.world.pending thread)
      running.rest := by
  induction run generalizing running with
  | nil => cases stands
  | @step steps state run last starts allowed induction =>
      subst starts
      have induction {running : PoolThread Task (BlockCall Call) (BlockCall.Reply Ret) Err Value}
          (stands : last.before.threads thread = some running) :
          Standing engine accepts (HasChanged engine body steps thread)
            (last.before.world.pending thread) running.rest :=
        induction (fun step member => kept step (by simp [member])) stands
      have weaken {changed changed' : Prop} {pending : List Write}
          {rest : Prog (BlockCall Call) (BlockCall.Reply Ret) Err Value}
          (before : Standing engine accepts changed pending rest)
          (earlier : changed' → changed) : Standing engine accepts changed' pending rest := by
        rcases before with ⟨body, same, thrifty, unchanged⟩ | ⟨result, same, accepted⟩
        · exact .inl ⟨body, same, thrifty, fun now => unchanged (earlier now)⟩
        · exact .inr ⟨result, same, fun now => accepted (earlier now)⟩
      have moves := PoolSystem.moves_of_allowed allowed
      have choices : ∀ caller error, last.event = .call caller (.lost error) →
          last.before.world.pending caller = [] := by
        intro caller error lost
        have kept := kept last (by simp)
        rw [loses, lost] at kept
        simpa using kept
      obtain ⟨event, before⟩ := last
      -- steps of other threads leave the thread's writes, and are no change of its own
      have others {world : World Store Write Lock}
          (pending : world.pending thread = before.world.pending thread)
          (silent : ∀ answer, (engine.system body).answer? ⟨event, before⟩ = some answer →
            answer.thread ≠ thread)
          (stands : before.threads thread = some running) :
          Standing engine accepts (HasChanged engine body (steps ++ [⟨event, before⟩]) thread)
            (world.pending thread) running.rest := by
        rw [pending]
        apply weaken (induction stands)
        intro changed
        rcases changed.of_append.2 with earlier | ⟨answer, answered, own, _⟩
        · exact earlier
        · exact absurd own (silent answer answered)
      generalize (engine.system body).after ⟨event, before⟩ = reached at moves stands
      cases moves with
      | @start caller task world idle launched =>
          cases launched
          simp only [Function.update_apply] at stands
          split_ifs at stands with same
          · subst same
            cases stands
            have fresh : ¬ HasChanged engine body
                (steps ++ [⟨.start thread task, before⟩]) thread :=
              fun changed => changed.of_append.1 task rfl
            rcases bodies task with ⟨inner, same, thrifty⟩ | ⟨result, same⟩
            · exact .inl ⟨inner, same, by simpa [World.finish] using thrifty, fresh⟩
            · exact .inr ⟨result, same, fun changed => absurd changed fresh⟩
          · apply others _ _ stands
            · simp [World.finish, same]
            · intro answer answered
              cases answered
      | @call caller choice task request next reply world standing answered =>
          have answer := PoolSystem.answer?_of_call (engine.system body) standing answered
          simp only [Function.update_apply] at stands
          split_ifs at stands with same
          · subst same
            cases stands
            have stood := standing_of_answer (induction standing)
              (fun error same => choices thread error (by simp only [same])) answered
            apply weaken stood
            intro changed
            rcases changed.of_append.2 with earlier | ⟨other, answered', _, differs⟩
            · exact .inl earlier
            · rw [answer] at answered'
              cases answered'
              exact .inr differs
          · apply others _ _ stands
            · exact pending_of_respond answered same
            · intro other answered'
              rw [answer] at answered'
              cases answered'
              exact Ne.symm same
      | @stop caller stopped standing =>
          simp only [Function.update_apply] at stands
          split_ifs at stands
          apply others rfl _ stands
          intro answer answered
          cases answered
      | @outside event world happens => cases event

/-- Calls that raise or return a value that is not accepted have changed nothing. -/
theorem unchanged_of_rejected (bodies : ∀ task, OneBlock engine accepts (body task))
    (run : (engine.system body).Run { committed := store } steps final)
    (kept : NoneLost steps) {i j : Nat}
    {last : PoolStep Task (BlockCall Call) (BlockCall.Reply Ret) Err Value
      (World Store Write Lock) (BlockChoice Err) Empty}
    (found : steps[i]? = some step) (found' : steps[j]? = some last) (ordered : i < j)
    {answer : PoolAnswer Task (BlockCall Call) (BlockCall.Reply Ret) Err
      (World Store Write Lock) (BlockChoice Err)}
    (answered : (engine.system body).answer? step = some answer)
    (stops : last.event = .stop answer.thread)
    (same : ∀ (k : Nat) (between : PoolStep Task (BlockCall Call) (BlockCall.Reply Ret) Err
      Value (World Store Write Lock) (BlockChoice Err) Empty), i < k → k < j →
      steps[k]? = some between → ∀ task, between.event ≠ .start answer.thread task)
    {task : Task} {result : Except Err Value}
    (ended : PoolSystem.ended? last = some (task, result))
    (rejected : ∀ value, result = .ok value → ¬ accepts value) :
    answer.after.committed = answer.before.committed := by
  by_contra differs
  obtain ⟨thread, stops', stands⟩ := PoolSystem.ended?_eq_some_iff.mp ended
  rw [stops] at stops'
  cases stops'
  have stood := standing_of_run bodies (run.take found')
    (fun step member => kept step (List.mem_of_mem_take member)) stands
  have changed : HasChanged engine body (steps.take j) answer.thread := by
    refine ⟨i, step, answer, ?_, answered, rfl, differs, ?_⟩
    · rw [List.getElem?_take_of_lt ordered, found]
    · intro k between after place
      rw [List.getElem?_take] at place
      split_ifs at place with before
      exact same k between after before place
  rcases stood with ⟨inner, inside, _, unchanged⟩ | ⟨other, done, accepted⟩
  · exact unchanged changed
  · cases done
    obtain ⟨value, returned, holds⟩ := accepted changed
    exact rejected value returned holds

end Runs

end ReadCommitted
