import ContractMate.TransactionDiscipline

/-!
# Staged transactions

Programs that read and check, run one block of writes and go on after its commit.  A run
spends one choice for each statement, so what it has spent says how far it came.  Before
the commit it leaves the store as it is, and a second run that spends the same choices
raises the same exception.
-/

namespace Prog

variable {Call : Type} {Ret : Call → Type} {Err Value Other State Choice : Type}

section Spend

variable (respond : Respond Call Ret Err State Choice)

/-- Run a program to its end: the result, the final state, and the choices that are
left. -/
def spend : Prog Call Ret Err Value → State → List Choice →
    Option (Except Err Value × State × List Choice)
  | done result, state, choices => some (result, state, choices)
  | call _ _, _, [] => none
  | call request next, state, choice :: choices =>
      match respond choice state request with
      | none => none
      | some (reply, after) => spend (next reply) after choices

/-- A complete run spends every choice. -/
theorem finish_eq_some_iff {program : Prog Call Ret Err Value} {state after : State}
    {choices : List Choice} {result : Except Err Value} :
    program.finish respond state choices = some (result, after) ↔
      program.spend respond state choices = some (result, after, []) := by
  induction program generalizing state choices with
  | done reached =>
      cases choices with
      | nil => simp [finish, advance, spend]
      | cons choice choices => simp [finish, advance, spend]
  | call request next induction =>
      cases choices with
      | nil => simp [finish, advance, spend]
      | cons choice choices =>
          cases answered : respond choice state request with
          | none => simp [finish, advance, spend, answered]
          | some answer =>
              have followed : (call request next).finish respond state (choice :: choices) =
                  (next answer.1).finish respond answer.2 choices := by
                simp only [finish, advance, answered]
              rw [followed, induction]
              simp only [spend, answered]

/-- What follows a program spends what the program has left. -/
theorem spend_handle (program : Prog Call Ret Err Value)
    (next : Except Err Value → Prog Call Ret Err Other) (state : State)
    (choices : List Choice) :
    (program.handle next).spend respond state choices =
      (program.spend respond state choices).bind fun reached =>
        (next reached.1).spend respond reached.2.1 reached.2.2 := by
  induction program generalizing state choices with
  | done result => rfl
  | call request answer induction =>
      cases choices with
      | nil => rfl
      | cons choice choices =>
          cases answered : respond choice state request with
          | none => simp [handle, spend, answered]
          | some reply => simpa [handle, spend, answered] using induction _ _ _

end Spend

theorem bind_bind {Last : Type} (program : Prog Call Ret Err Value)
    (next : Value → Prog Call Ret Err Other) (last : Other → Prog Call Ret Err Last) :
    program >>= next >>= last = program >>= fun value => next value >>= last := by
  change (program.handle _).handle _ = program.handle _
  rw [handle_handle]
  congr 1
  funext result
  cases result <;> rfl

theorem handle_done (program : Prog Call Ret Err Value) : program.handle done = program := by
  induction program with
  | done result => rfl
  | call request answer induction =>
      exact congrArg (call request) (funext fun reply => induction reply)

section Raising

/-- Every result is an exception. -/
def Raises (program : Prog Call Ret Err Value) : Prop :=
  program.Ends fun result => ∃ error, result = .error error

/-- An exception of a call is raised, perhaps as another one. -/
def Propagates : Prog Call Ret Err Value → Prop
  | done _ => True
  | call _ next =>
      (∀ error, (next (.error error)).Raises) ∧ ∀ reply, Propagates (next (.ok reply))

variable {respond : Respond Call Ret Err State Choice} {program : Prog Call Ret Err Value}

theorem raises_raise (error : Err) : (raise error : Prog Call Ret Err Value).Raises :=
  ⟨error, rfl⟩

theorem Raises.handle {next : Except Err Value → Prog Call Ret Err Other}
    (raises : program.Raises) (then_ : ∀ error, (next (.error error)).Raises) :
    (program.handle next).Raises := by
  refine Ends.handle raises ?_
  rintro result ⟨error, rfl⟩
  exact then_ error

theorem Raises.result (raises : program.Raises) {state after : State}
    {choices rest : List Choice} {result : Except Err Value}
    (run : program.spend respond state choices = some (result, after, rest)) :
    ∃ error, result = .error error := by
  induction program generalizing state choices with
  | done reached =>
      cases run
      exact raises
  | call request next induction =>
      cases choices with
      | nil => cases run
      | cons choice choices =>
          cases answered : respond choice state request with
          | none => simp [spend, answered] at run
          | some answer =>
              simp only [spend, answered] at run
              exact induction _ (raises _) run

theorem Raises.propagates (raises : program.Raises) : program.Propagates := by
  induction program with
  | done result => trivial
  | call request next induction =>
      exact ⟨fun error => raises (.error error),
        fun reply => induction (.ok reply) (raises (.ok reply))⟩

theorem propagates_perform (request : Call) :
    (perform request : Prog Call Ret Err (Ret request)).Propagates :=
  ⟨fun error => ⟨error, rfl⟩, fun _ => trivial⟩

theorem Propagates.handle {next : Except Err Value → Prog Call Ret Err Other}
    (first : program.Propagates) (then_ : ∀ result, (next result).Propagates)
    (raises : ∀ error, (next (.error error)).Raises) :
    (program.handle next).Propagates := by
  induction program with
  | done result => exact then_ result
  | call request answer induction =>
      constructor
      · intro error
        exact (first.1 error).handle raises
      · intro reply
        exact induction (.ok reply) (first.2 reply)

theorem Propagates.bind {next : Value → Prog Call Ret Err Other}
    (first : program.Propagates) (then_ : ∀ value, (next value).Propagates) :
    (program >>= next).Propagates := by
  apply first.handle
  · rintro (error | value)
    · trivial
    · exact then_ value
  · exact fun error => ⟨error, rfl⟩

theorem Propagates.tryExcept {recover : Err → Prog Call Ret Err Value}
    (first : program.Propagates) (raises : ∀ error, (recover error).Raises)
    (propagates : ∀ error, (recover error).Propagates) :
    (program.tryExcept recover).Propagates := by
  apply first.handle
  · rintro (error | value)
    · exact propagates error
    · trivial
  · exact raises

end Raising

end Prog

namespace TransactionBlock

open ReadCommitted (statements)

variable {Call : Type} {Ret : Call → Type} {Err Store Value Other Context : Type}
  (exec : Exec Call Ret Err Store)

/-- The number of statements that a body executes. -/
def count : Prog Call Ret Err Value → Store → Nat
  | .done _, _ => 0
  | .call request next, store =>
      match exec store request with
      | .ok (reply, after) => count (next (.ok reply)) after + 1
      | .error _ => 0

variable {exec} {body : Prog Call Ret Err Value} {state after : BlockState Store}
  {choices rest : List (BlockChoice Err)} {result : Except Err Value} {store : Store}

variable {value : Value} {written : Store} {request : Call} {reply : Ret request}

theorem eval_ne_of_raises (raises : body.Raises) :
    eval exec body store ≠ .ok (value, written) := by
  induction body generalizing store with
  | done result =>
      obtain ⟨error, rfl⟩ := raises
      exact nofun
  | call request next induction =>
      cases executed : exec store request with
      | ok reply =>
          simp only [eval, executed]
          exact induction _ (raises _)
      | error error => simp [eval, executed]

theorem count_perform {next : Ret request → Prog Call Ret Err Value}
    (executed : exec store request = .ok (reply, written)) :
    count exec (Prog.perform request >>= next) store =
      count exec (next reply) written + 1 := by
  change count exec (.call request _) store = _
  rw [count, executed]
  rfl

theorem eval_bind (next : Value → Prog Call Ret Err Other) (store : Store) :
    eval exec (body >>= next) store =
      match eval exec body store with
      | .ok (value, written) => eval exec (next value) written
      | .error error => .error error := by
  induction body generalizing store with
  | done result => cases result <;> rfl
  | call request answer induction =>
      change eval exec (.call request fun reply => answer reply >>= next) store = _
      cases executed : exec store request with
      | ok reply => simp only [eval, executed, induction]
      | error error => simp only [eval, executed]

theorem count_bind {next : Value → Prog Call Ret Err Other}
    (computed : eval exec body store = .ok (value, written)) :
    count exec (body >>= next) store =
      count exec body store + count exec (next value) written := by
  induction body generalizing store with
  | done result =>
      cases result with
      | ok reached =>
          cases computed
          exact (Nat.zero_add _).symm
      | error error => cases computed
  | call request answer induction =>
      change count exec (.call request fun reply => answer reply >>= next) store = _
      cases executed : exec store request with
      | ok reply =>
          simp only [eval, executed] at computed
          simp only [count, executed, induction _ computed]
          omega
      | error error => simp [eval, executed] at computed

/-- A statement alone. -/
theorem eval_single (request : Call) (store : Store) :
    eval exec (Prog.perform request) store = exec store request := by
  change eval exec (.call request .done) store = _
  rw [eval]
  cases exec store request <;> rfl

theorem count_single (executed : exec store request = .ok (reply, written)) :
    count exec (Prog.perform request) store = 1 := by
  change count exec (.call request .done) store = _
  rw [count, executed]
  rfl

/-- A statement under a handler computes what the statement computes. -/
theorem eval_guarded (request : Call) (recover : Err → Prog Call Ret Err (Ret request))
    (store : Store) :
    eval exec ((Prog.perform request).tryExcept recover) store = exec store request := by
  change eval exec (.call request _) store = _
  rw [eval]
  cases exec store request <;> rfl

theorem count_guarded (recover : Err → Prog Call Ret Err (Ret request))
    (executed : exec store request = .ok (reply, written)) :
    count exec ((Prog.perform request).tryExcept recover) store = 1 := by
  change count exec (.call request _) store = _
  rw [count, executed]
  rfl

/-- A handler that raises changes neither the value nor the statements of a body. -/
theorem eval_tryExcept_iff {recover : Err → Prog Call Ret Err Value}
    (raises : ∀ error, (recover error).Raises) :
    eval exec (body.tryExcept recover) store = .ok (value, written) ↔
      eval exec body store = .ok (value, written) := by
  induction body generalizing store with
  | done result =>
      cases result with
      | ok reached => exact Iff.rfl
      | error error =>
          constructor
          · intro computed
            exact absurd computed (eval_ne_of_raises (raises error))
          · intro computed
            cases computed
  | call request next induction =>
      change eval exec (.call request fun reply => (next reply).tryExcept recover) store = _ ↔ _
      cases executed : exec store request with
      | ok reply =>
          simp only [eval, executed]
          exact induction _
      | error error => simp only [eval, executed]

theorem count_tryExcept {recover : Err → Prog Call Ret Err Value}
    (computed : eval exec body store = .ok (value, written)) :
    count exec (body.tryExcept recover) store = count exec body store := by
  induction body generalizing store with
  | done result =>
      cases result with
      | ok reached => rfl
      | error error => cases computed
  | call request next induction =>
      change count exec (.call request fun reply => (next reply).tryExcept recover) store = _
      cases executed : exec store request with
      | ok reply =>
          simp only [eval, executed] at computed
          simp only [count, executed]
          exact congrArg (· + 1) (induction _ computed)
      | error error => simp [eval, executed] at computed

section Body

variable {request : Call} {next : Except Err (Ret request) → Prog Call Ret Err Value}

theorem spend_executes {reply : Ret request} {written : Store}
    (executed : exec state.working request = .ok (reply, written)) :
    (statements (.call request next)).spend (respond exec) state (.executes :: choices) =
      (statements (next (.ok reply))).spend (respond exec) { state with working := written }
        choices := by
  simp [statements, Prog.translate, Prog.spend, respond, respondStatement, executed]

theorem spend_refuses {error : Err}
    (executed : exec state.working request = .error error) :
    (statements (.call request next)).spend (respond exec) state (.executes :: choices) =
      (statements (next (.error error))).spend (respond exec) state choices := by
  simp [statements, Prog.translate, Prog.spend, respond, respondStatement, executed]

theorem spend_fails {error : Err} :
    (statements (.call request next)).spend (respond exec) state (.fails error :: choices) =
      (statements (next (.error error))).spend (respond exec) state choices :=
  rfl

/-- Statements change nothing that is committed. -/
theorem committed_of_statements
    (run : (statements body).spend (respond exec) state choices =
      some (result, after, rest)) : after.committed = state.committed := by
  induction body generalizing state choices with
  | done reached =>
      cases run
      rfl
  | call request next induction =>
      rcases choices with _ | ⟨_ | error | error, choices⟩
      · cases run
      · cases executed : exec state.working request with
        | ok reply =>
            rw [spend_executes executed] at run
            have kept := induction _ run
            exact kept
        | error error =>
            rw [spend_refuses executed] at run
            exact induction _ run
      · exact induction _ run
      · cases run

/-- Statements that only raise. -/
theorem Raises.statements (raises : body.Raises) : (statements body).Raises := by
  induction body with
  | done result => exact raises
  | call request next induction => exact fun reply => induction reply (raises reply)

/-- Statements come to the value that the body computes and spend one choice for each of
them, or they raise: then the body raises by itself, or one of its statements fails. -/
theorem statements_cases (propagates : body.Propagates)
    (run : (statements body).spend (respond exec) state choices =
      some (result, after, rest)) :
    ((∃ error, result = .error error) ∧
      ∀ value written, eval exec body state.working = .ok (value, written) →
        ∃ error, .fails error ∈ choices.take (count exec body state.working)) ∨
    ∃ value written, result = .ok value ∧
      eval exec body state.working = .ok (value, written) ∧ after.working = written ∧
      choices = List.replicate (count exec body state.working) .executes ++ rest := by
  induction body generalizing state choices with
  | done reached =>
      cases reached with
      | ok value =>
          cases run
          exact .inr ⟨value, _, rfl, rfl, rfl, rfl⟩
      | error error =>
          cases run
          exact .inl ⟨⟨error, rfl⟩, fun _ _ computed => nomatch computed⟩
  | call request next induction =>
      rcases choices with _ | ⟨_ | error | error, choices⟩
      · cases run
      · cases executed : exec state.working request with
        | ok reply =>
            obtain ⟨reply, written⟩ := reply
            rw [spend_executes executed] at run
            rcases induction _ (propagates.2 reply) run with
              ⟨raised, failing⟩ | ⟨value, last, returned, computed, reached, spent⟩
            · refine .inl ⟨raised, ?_⟩
              intro value last computed
              simp only [eval, executed] at computed
              obtain ⟨error, failed⟩ := failing value last computed
              refine ⟨error, ?_⟩
              simp only [count, executed, List.take_succ_cons]
              exact List.mem_cons_of_mem _ failed
            · refine .inr ⟨value, last, returned, ?_, reached, ?_⟩
              · simpa only [eval, executed] using computed
              · simp only [count, executed, List.replicate_succ, List.cons_append]
                rw [← spent]
        | error error =>
            rw [spend_refuses executed] at run
            refine .inl ⟨(Raises.statements (propagates.1 error)).result run, ?_⟩
            intro value last computed
            simp [eval, executed] at computed
      · rw [spend_fails] at run
        refine .inl ⟨(Raises.statements (propagates.1 error)).result run, ?_⟩
        intro value last computed
        refine ⟨error, ?_⟩
        cases executed : exec state.working request with
        | ok reply => simp [count, executed]
        | error error => simp [eval, executed] at computed
      · cases run

end Body

/-- Statements that only read leave the store as it is. -/
theorem eval_of_reads {value : Value} {written : Store}
    (reads : body.Calls fun request => ∀ store reply written,
      exec store request = .ok (reply, written) → written = store)
    (computed : eval exec body store = .ok (value, written)) : written = store := by
  induction body generalizing store with
  | done result =>
      cases result with
      | ok reached =>
          cases computed
          rfl
      | error error => cases computed
  | call request next induction =>
      cases executed : exec store request with
      | ok reply =>
          simp only [eval, executed] at computed
          rw [induction _ (reads.2 _) computed]
          exact reads.1 _ _ _ executed
      | error error => simp [eval, executed] at computed

section Block

/-- A block raises before its commit, or its commit takes effect. -/
theorem block_cases {body : Prog Call Ret Err Unit} {result : Except Err Unit}
    (propagates : body.Propagates)
    (run : (block body).spend (respond exec) (.idle store) choices =
      some (result, after, rest)) :
    ((∃ error, result = .error error) ∧ after.committed = store ∧
      ∀ written, eval exec body store = .ok ((), written) →
        ∃ error, .fails error ∈ choices.take (count exec body store + 1)) ∨
    ∃ written, eval exec body store = .ok ((), written) ∧ after = .idle written ∧
      ((result = .ok () ∧
          choices = List.replicate (count exec body store + 1) .executes ++ rest) ∨
        ∃ error, result = .error error ∧
          choices = List.replicate (count exec body store) .executes ++
            .lost error :: rest) := by
  have taken {error : Err} (failed : .fails error ∈ choices.take (count exec body store)) :
      .fails error ∈ choices.take (count exec body store + 1) :=
    List.take_subset_take_left _ (Nat.le_succ _) failed
  rw [block, Prog.spend_handle] at run
  cases inner : (statements body).spend (respond exec) (.idle store) choices with
  | none => simp [inner] at run
  | some reached =>
      obtain ⟨outcome, reached, left⟩ := reached
      have kept : reached.committed = store := committed_of_statements inner
      simp only [inner, Option.bind_some] at run
      rcases statements_cases propagates inner with
        ⟨⟨error, rfl⟩, failing⟩ | ⟨value, written, rfl, computed, rfl, rfl⟩
      · -- The rollback follows, and raises as well.
        refine .inl ⟨?_, ?_, ?_⟩
        · rcases left with _ | ⟨choice, left⟩
          · cases run
          · cases choice <;> cases run <;> exact ⟨_, rfl⟩
        · rcases left with _ | ⟨choice, left⟩
          · cases run
          · cases choice <;> cases run <;> exact kept
        · intro written computed
          obtain ⟨error, failed⟩ := failing () written computed
          exact ⟨error, taken failed⟩
      · rcases left with _ | ⟨choice, left⟩
        · cases run
        · cases choice with
          | executes =>
              cases run
              refine .inr ⟨_, computed, rfl, .inl ⟨rfl, ?_⟩⟩
              rw [List.replicate_succ', List.append_assoc]
              rfl
          | fails error =>
              cases run
              refine .inl ⟨⟨error, rfl⟩, kept, ?_⟩
              intro _ _
              refine ⟨error, ?_⟩
              rw [List.take_append]
              simp [BlockState.idle]
          | lost error =>
              cases run
              exact .inr ⟨_, computed, rfl, .inr ⟨error, rfl, rfl⟩⟩

end Block

section Succeeds

variable (exec) in
/-- What an executed call answers. -/
def answer (state : BlockState Store) :
    (request : BlockCall Call) → Except Err (BlockCall.Reply Ret request) × BlockState Store
  | .statement request =>
      match exec state.working request with
      | .ok (reply, after) => (.ok reply, { state with working := after })
      | .error error => (.error error, state)
  | .commit => (.ok (), .idle state.working)
  | .rollback => (.ok (), .idle state.committed)

theorem respond_executes (state : BlockState Store) (request : BlockCall Call) :
    respond exec .executes state request = some (answer exec state request) := by
  cases request with
  | statement request =>
      cases executed : exec state.working request <;>
        simp only [respond, respondStatement, answer, executed] <;> rfl
  | commit => rfl
  | rollback => rfl

variable (exec) in
/-- With every call executed, the program returns. -/
def Succeeds : Prog (BlockCall Call) (BlockCall.Reply Ret) Err Value → BlockState Store → Prop
  | .done (.ok _), _ => True
  | .done (.error _), _ => False
  | .call request next, state =>
      Succeeds (next (answer exec state request).1) (answer exec state request).2

variable {program : Prog (BlockCall Call) (BlockCall.Reply Ret) Err Value}

/-- A call that is not executed answers with an exception. -/
theorem raised_of_respond {choice : BlockChoice Err} {request : BlockCall Call}
    {reply : Except Err (BlockCall.Reply Ret request)} (disturbed : choice ≠ .executes)
    (answered : respond exec choice state request = some (reply, after)) :
    ∃ error, reply = .error error := by
  cases choice with
  | executes => exact absurd rfl disturbed
  | fails error => cases request <;> cases answered <;> exact ⟨error, rfl⟩
  | lost error => cases request <;> cases answered <;> exact ⟨error, rfl⟩

/-- A run returns exactly when no call fails and the program succeeds. -/
theorem returns_iff (propagates : program.Propagates)
    (run : program.spend (respond exec) state choices = some (result, after, [])) :
    (∃ value, result = .ok value) ↔
      (∀ choice ∈ choices, choice = .executes) ∧ Succeeds exec program state := by
  induction program generalizing state choices with
  | done reached =>
      cases reached <;> cases run <;> simp [Succeeds]
  | call request next induction =>
      cases choices with
      | nil => cases run
      | cons choice choices =>
          cases answered : respond exec choice state request with
          | none => simp [Prog.spend, answered] at run
          | some reply =>
              simp only [Prog.spend, answered] at run
              by_cases executed : choice = .executes
              · subst executed
                rw [respond_executes] at answered
                cases answered
                have later := induction _ ?_ run
                · rw [later, Succeeds]
                  simp
                · cases replied : (answer exec state request).1 with
                  | ok value => exact propagates.2 value
                  | error error =>
                      have raises := propagates.1 error
                      rw [replied] at run
                      exact raises.propagates
              · obtain ⟨error, raised⟩ := raised_of_respond executed answered
                rw [raised] at run
                obtain ⟨failure, rfl⟩ := (propagates.1 error).result run
                simp [executed]

theorem not_succeeds_of_raises (raises : program.Raises) : ¬ Succeeds exec program state := by
  induction program generalizing state with
  | done result =>
      obtain ⟨error, rfl⟩ := raises
      exact id
  | call request next induction => exact induction _ (raises _)

section Sequence

variable {body : Prog Call Ret Err Other}

/-- What follows statements, in terms of the value that they compute. -/
theorem succeeds_handle_iff
    {next : Except Err Other → Prog (BlockCall Call) (BlockCall.Reply Ret) Err Value}
    (propagates : body.Propagates) (raises : ∀ error, (next (.error error)).Raises) :
    Succeeds exec ((statements body).handle next) state ↔
      ∃ value written, eval exec body state.working = .ok (value, written) ∧
        Succeeds exec (next (.ok value)) { state with working := written } := by
  induction body generalizing state with
  | done result =>
      cases result with
      | ok value =>
          constructor
          · exact fun succeeds => ⟨value, state.working, rfl, succeeds⟩
          · rintro ⟨reached, written, computed, succeeds⟩
            cases computed
            exact succeeds
      | error error =>
          constructor
          · exact fun succeeds => absurd succeeds (not_succeeds_of_raises (raises error))
          · rintro ⟨reached, written, computed, succeeds⟩
            cases computed
  | call request answers induction =>
      change Succeeds exec (.call (.statement request) fun reply =>
        (statements (answers reply)).handle next) state ↔ _
      rw [Succeeds]
      cases executed : exec state.working request with
      | ok reply =>
          simp only [answer, executed, eval]
          exact induction _ (propagates.2 _)
      | error error =>
          simp only [answer, executed, eval]
          constructor
          · have raising : ((statements (answers (.error error))).handle next).Raises :=
              (Raises.statements (propagates.1 error)).handle raises
            exact fun succeeds => absurd succeeds (not_succeeds_of_raises raising)
          · rintro ⟨reached, written, computed, succeeds⟩
            cases computed

theorem succeeds_statements_iff
    {next : Other → Prog (BlockCall Call) (BlockCall.Reply Ret) Err Value}
    (propagates : body.Propagates) :
    Succeeds exec (statements body >>= next) state ↔
      ∃ value written, eval exec body state.working = .ok (value, written) ∧
        Succeeds exec (next value) { state with working := written } :=
  succeeds_handle_iff propagates fun error => ⟨error, rfl⟩

theorem succeeds_single_iff (propagates : body.Propagates) :
    Succeeds exec (statements body) state ↔
      ∃ value written, eval exec body state.working = .ok (value, written) := by
  have raises (error : Err) : (Prog.done (.error error) :
      Prog (BlockCall Call) (BlockCall.Reply Ret) Err Other).Raises := ⟨error, rfl⟩
  rw [← Prog.handle_done (statements body)]
  refine (succeeds_handle_iff propagates raises).trans ?_
  simp [Succeeds]

/-- What follows a block, in terms of the value that its body computes. -/
theorem succeeds_block_iff
    {next : Other → Prog (BlockCall Call) (BlockCall.Reply Ret) Err Value}
    (propagates : body.Propagates) :
    Succeeds exec (block body >>= next) state ↔
      ∃ value written, eval exec body state.working = .ok (value, written) ∧
        Succeeds exec (next value) (.idle written) := by
  change Succeeds exec (Prog.handle (Prog.handle (statements body) _) _) state ↔ _
  rw [Prog.handle_handle, succeeds_handle_iff propagates]
  · exact Iff.rfl
  · rintro error (failure | reply)
    · exact ⟨failure, rfl⟩
    · exact ⟨error, rfl⟩

theorem propagates_statements (propagates : body.Propagates) :
    (statements body).Propagates := by
  induction body with
  | done result => trivial
  | call request next induction =>
      exact ⟨fun error => Raises.statements (propagates.1 error),
        fun reply => induction (.ok reply) (propagates.2 reply)⟩

theorem propagates_block (propagates : body.Propagates) : (block body).Propagates := by
  apply (propagates_statements propagates).handle
  · rintro (error | value)
    · refine ⟨fun failure => ⟨failure, rfl⟩, fun reply => trivial⟩
    · refine ⟨fun failure => ⟨failure, rfl⟩, fun reply => trivial⟩
  · rintro error (failure | reply)
    · exact ⟨failure, rfl⟩
    · exact ⟨error, rfl⟩

end Sequence

/-- What every statement keeps is kept of the committed store. -/
theorem committed_of_keeps {property : Store → Prop}
    (keeps : ∀ store request reply written, property store →
      exec store request = .ok (reply, written) → property written)
    (committed : property state.committed) (working : property state.working)
    (run : program.spend (respond exec) state choices = some (result, after, rest)) :
    property after.committed := by
  induction program generalizing state choices with
  | done reached =>
      cases run
      exact committed
  | call request next induction =>
      cases choices with
      | nil => cases run
      | cons choice choices =>
          cases answered : respond exec choice state request with
          | none => simp [Prog.spend, answered] at run
          | some reply =>
              obtain ⟨reply, reached⟩ := reply
              simp only [Prog.spend, answered] at run
              have both : property reached.committed ∧ property reached.working := by
                cases request with
                | statement request =>
                    cases choice with
                    | executes =>
                        cases executed : exec state.working request with
                        | ok answer =>
                            simp only [respond, respondStatement, executed] at answered
                            cases answered
                            exact ⟨committed, keeps _ _ _ _ working executed⟩
                        | error error =>
                            simp only [respond, respondStatement, executed] at answered
                            cases answered
                            exact ⟨committed, working⟩
                    | fails error =>
                        cases answered
                        exact ⟨committed, working⟩
                    | lost error => cases answered
                | commit =>
                    cases choice <;> cases answered
                    · exact ⟨working, working⟩
                    · exact ⟨committed, committed⟩
                    · exact ⟨working, working⟩
                | rollback => cases choice <;> cases answered <;> exact ⟨committed, committed⟩
              exact induction _ both.1 both.2 run

end Succeeds

section Staged

variable (checks : Prog Call Ret Err (Value ⊕ Context))
  (body : Context → Prog Call Ret Err Unit)
  (tail : Context → Prog (BlockCall Call) (BlockCall.Reply Ret) Err Value)

/-- The checks return at once or let the block run. -/
def opening : Prog (BlockCall Call) (BlockCall.Reply Ret) Err (Value ⊕ Context) :=
  statements checks >>= fun
    | .inl value => pure (.inl value)
    | .inr context => block (body context) >>= fun _ => pure (.inr context)

/-- Checks, a block, and what follows its commit. -/
def staged : Prog (BlockCall Call) (BlockCall.Reply Ret) Err Value :=
  opening checks body >>= fun
    | .inl value => pure value
    | .inr context => tail context

variable (exec) in
/-- The checks let the block run, and the block can write. -/
structure Admits (store : Store) (context : Context) (written : Store) : Prop where
  passes : eval exec checks store = .ok (.inr context, store)
  writes : eval exec (body context) store = .ok ((), written)

variable (exec) in
/-- The statements up to the commit. -/
def stage (store : Store) (context : Context) : Nat :=
  count exec checks store + count exec (body context) store

variable (exec) in
/-- How far an opening comes: nothing is committed, and where the block could have run a
statement has failed; or the commit takes effect, and is answered or lost. -/
inductive Opened (store : Store) (choices : List (BlockChoice Err)) :
    Except Err (Value ⊕ Context) → BlockState Store → List (BlockChoice Err) → Prop where
  | stayed {result : Except Err (Value ⊕ Context)} {after : BlockState Store}
      {rest : List (BlockChoice Err)} (kept : after.committed = store)
      (short : ∀ context, result ≠ .ok (.inr context))
      (failing : ∀ context written, Admits exec checks body store context written →
        ∃ error, .fails error ∈ choices.take (stage exec checks body store context + 1)) :
      Opened store choices result after rest
  | lost {context : Context} {written : Store} {error : Err}
      {rest : List (BlockChoice Err)} (admits : Admits exec checks body store context written)
      (spent : choices = List.replicate (stage exec checks body store context) .executes ++
        .lost error :: rest) :
      Opened store choices (.error error) (.idle written) rest
  | passed {context : Context} {written : Store} {rest : List (BlockChoice Err)}
      (admits : Admits exec checks body store context written)
      (spent : choices =
        List.replicate (stage exec checks body store context + 1) .executes ++ rest) :
      Opened store choices (.ok (.inr context)) (.idle written) rest

variable {checks body tail}

/-- The block that the checks have let run. -/
theorem opened_of_block {context : Context} {result : Except Err (Value ⊕ Context)}
    {left : List (BlockChoice Err)}
    (passes : eval exec checks store = .ok (.inr context, store))
    (propagates : (body context).Propagates)
    (run : (block (body context) >>= fun _ => pure (.inr context)).spend (respond exec)
      (.idle store) left = some (result, after, rest)) :
    Opened exec checks body store
      (List.replicate (count exec checks store) .executes ++ left) result after rest := by
  change ((block (body context)).handle _).spend _ _ _ = _ at run
  rw [Prog.spend_handle] at run
  cases inner : (block (body context)).spend (respond exec) (.idle store) left with
  | none => simp [inner] at run
  | some reached =>
      obtain ⟨outcome, reached, last⟩ := reached
      simp only [inner, Option.bind_some] at run
      rcases block_cases propagates inner with
        ⟨⟨error, rfl⟩, kept, failing⟩ | ⟨written, computed, rfl, ⟨rfl, rfl⟩ | ⟨error, rfl, rfl⟩⟩
      · cases run
        refine .stayed kept (fun _ => nofun) ?_
        rintro other written ⟨passes', computed⟩
        cases passes.symm.trans passes'
        obtain ⟨error, failed⟩ := failing written computed
        refine ⟨error, ?_⟩
        rw [stage, Nat.add_assoc, List.take_append, List.length_replicate,
          Nat.add_sub_cancel_left]
        exact List.mem_append_right _ failed
      · cases run
        refine .passed ⟨passes, computed⟩ ?_
        rw [← List.append_assoc, ← List.replicate_add, stage, Nat.add_assoc]
      · cases run
        refine .lost ⟨passes, computed⟩ ?_
        rw [← List.append_assoc, ← List.replicate_add, stage]

theorem opened_of_run {result : Except Err (Value ⊕ Context)}
    (reads : ∀ value written, eval exec checks store = .ok (value, written) →
      written = store)
    (checksPropagate : checks.Propagates) (bodyPropagates : ∀ context, (body context).Propagates)
    (run : (opening checks body).spend (respond exec) (.idle store) choices =
      some (result, after, rest)) :
    Opened exec checks body store choices result after rest := by
  change ((statements checks).handle _).spend _ _ _ = _ at run
  rw [Prog.spend_handle] at run
  cases inner : (statements checks).spend (respond exec) (.idle store) choices with
  | none => simp [inner] at run
  | some reached =>
      obtain ⟨outcome, reached, left⟩ := reached
      have kept : reached.committed = store := committed_of_statements inner
      simp only [inner, Option.bind_some] at run
      rcases statements_cases checksPropagate inner with
        ⟨⟨error, rfl⟩, failing⟩ | ⟨value, written, rfl, computed, rfl, rfl⟩
      · cases run
        refine .stayed kept (fun _ => nofun) ?_
        intro context written admits
        obtain ⟨error, failed⟩ := failing _ _ admits.passes
        refine ⟨error, List.take_subset_take_left _ ?_ failed⟩
        exact Nat.le_trans (Nat.le_add_right _ _) (Nat.le_succ _)
      · have unwritten : reached.working = store := reads _ _ computed
        rcases value with value | context
        · cases run
          refine .stayed kept (fun _ => nofun) ?_
          intro context written admits
          have passes := admits.passes.symm.trans computed
          cases passes
        · obtain ⟨committed, working⟩ := reached
          obtain rfl : committed = store := kept
          obtain rfl : working = committed := unwritten
          exact opened_of_block computed (bodyPropagates context) run

/-- An exception of the opening is one of the program. -/
theorem staged_of_opening {error : Err}
    (run : (opening checks body).spend (respond exec) (.idle store) choices =
      some (.error error, after, rest)) :
    (staged checks body tail).spend (respond exec) (.idle store) choices =
      some (.error error, after, rest) := by
  change ((opening checks body).handle _).spend _ _ _ = _
  rw [Prog.spend_handle, run]
  rfl

theorem Admits.unique {context context' : Context} {written written' : Store}
    (admits : Admits exec checks body store context written)
    (admits' : Admits exec checks body store context' written') :
    context = context' ∧ written = written' := by
  cases admits.passes.symm.trans admits'.passes
  cases admits.writes.symm.trans admits'.writes
  exact ⟨rfl, rfl⟩

/-- When the block writes and what follows undoes none of it, an exception leaves the store
as it is exactly when it comes before the commit. -/
theorem kept_iff (again : Err → Prop) (settles : Context → Store → Prop)
    (reads : ∀ value written, eval exec checks store = .ok (value, written) →
      written = store)
    (checksPropagate : checks.Propagates) (bodyPropagates : ∀ context, (body context).Propagates)
    (writes : ∀ context written, Admits exec checks body store context written →
      written ≠ store)
    (follows : ∀ context written choices result after,
      Admits exec checks body store context written →
      (tail context).spend (respond exec) (.idle written) choices = some (result, after, []) →
      after.committed ≠ store ∧
        ((∃ value, result = .ok value) ↔
          (∀ choice ∈ choices, choice = .executes) ∧ settles context written))
    (repeats : ∀ error after, (opening checks body).spend (respond exec) (.idle store) choices =
      some (.error error, after, []) → again error)
    (run : (staged checks body tail).spend (respond exec) (.idle store) choices =
      some (result, after, [])) :
    (∀ error, result = .error error → after.committed = store ∧ again error) ↔
      ∀ context written, Admits exec checks body store context written →
        (∃ error, .fails error ∈ choices.take (stage exec checks body store context + 1)) ∨
        (∀ choice ∈ choices, choice = .executes) ∧ settles context written := by
  change ((opening checks body).handle _).spend _ _ _ = _ at run
  rw [Prog.spend_handle] at run
  cases inner : (opening checks body).spend (respond exec) (.idle store) choices with
  | none => simp [inner] at run
  | some reached =>
      obtain ⟨outcome, reached, left⟩ := reached
      simp only [inner, Option.bind_some] at run
      cases opened_of_run reads checksPropagate bodyPropagates inner with
      | stayed kept short failing =>
          refine iff_of_true ?_ fun context written admits => .inl (failing _ _ admits)
          rcases outcome with failure | value | context
          · cases run
            rintro error same
            cases same
            exact ⟨kept, repeats _ _ inner⟩
          · cases run
            exact fun _ => nofun
          · exact absurd rfl (short context)
      | @lost context written failure _ admits spent =>
          cases run
          refine iff_of_false ?_ ?_
          · intro atomic
            exact writes _ _ admits (atomic failure rfl).1
          · intro condition
            rcases condition _ _ admits with ⟨error, failed⟩ | ⟨executed, _⟩
            · rw [spent, List.take_append] at failed
              simp [List.mem_replicate] at failed
            · have lost := executed (.lost failure) (by simp [spent])
              cases lost
      | @passed context written _ admits spent =>
          have followed := follows _ _ _ _ _ admits run
          constructor
          · intro atomic other written' admits'
            obtain ⟨rfl, rfl⟩ := admits.unique admits'
            refine .inr ?_
            cases result with
            | error error => exact absurd (atomic error rfl).1 followed.1
            | ok value =>
                obtain ⟨executed, settled⟩ := followed.2.mp ⟨value, rfl⟩
                refine ⟨?_, settled⟩
                intro choice member
                rw [spent, List.mem_append] at member
                rcases member with early | late
                · exact List.eq_of_mem_replicate early
                · exact executed choice late
          · intro condition error raised
            rcases condition _ _ admits with ⟨error, failed⟩ | ⟨executed, settled⟩
            · rw [spent, List.take_append] at failed
              simp [List.mem_replicate] at failed
            · have late : ∀ choice ∈ left, choice = .executes := by
                intro choice member
                exact executed choice (by rw [spent]; exact List.mem_append_right _ member)
              obtain ⟨value, returned⟩ := followed.2.mpr ⟨late, settled⟩
              cases returned.symm.trans raised

end Staged

section Twins

variable (exec) in
/-- Two bodies, on two stores, whose statements fare alike: they raise the same exceptions,
or come to values and stores in the relation `post`. -/
def Twins (post : Value → Store → Value → Store → Prop) :
    Prog Call Ret Err Value → Store → Prog Call Ret Err Value → Store → Prop
  | .done (.ok value), first, .done (.ok value'), second => post value first value' second
  | .done (.error error), _, .done (.error error'), _ => error = error'
  | .call request next, first, .call request' next', second =>
      (match exec first request, exec second request' with
        | .ok (reply, after), .ok (reply', after') =>
            Twins post (next (.ok reply)) after (next' (.ok reply')) after'
        | .error error, .error error' =>
            error = error' ∧ Twins post (next (.error error)) first (next' (.error error)) second
        | _, _ => False) ∧
      ∀ error, Twins post (next (.error error)) first (next' (.error error)) second
  | _, _, _, _ => False

variable {post : Value → Store → Value → Store → Prop} {body' : Prog Call Ret Err Value}
  {first second : Store}

theorem twins_pure {value value' : Value} (related : post value first value' second) :
    Twins exec post (pure value) first (pure value') second :=
  related

theorem twins_raise (error : Err) :
    Twins exec post (.raise error) first (.raise error) second :=
  rfl

variable {request request' : Call} {next : Ret request → Prog Call Ret Err Value}
  {next' : Ret request' → Prog Call Ret Err Value} {error : Err}

/-- Two statements that are executed. -/
theorem twins_perform {reply : Ret request} {reply' : Ret request'} {after after' : Store}
    (executed : exec first request = .ok (reply, after))
    (executed' : exec second request' = .ok (reply', after'))
    (continued : Twins exec post (next reply) after (next' reply') after') :
    Twins exec post (Prog.perform request >>= next) first
      (Prog.perform request' >>= next') second := by
  change Twins exec post (.call request _) first (.call request' _) second
  rw [Twins, executed, executed']
  exact ⟨continued, fun error => rfl⟩

/-- Two statements that are refused for the same reason. -/
theorem twins_refused (executed : exec first request = .error error)
    (executed' : exec second request' = .error error) :
    Twins exec post (Prog.perform request >>= next) first
      (Prog.perform request' >>= next') second := by
  change Twins exec post (.call request _) first (.call request' _) second
  rw [Twins, executed, executed']
  exact ⟨⟨rfl, rfl⟩, fun error => rfl⟩

/-- Two statements under handlers that raise alike. -/
theorem twins_guarded {recover : Err → Prog Call Ret Err (Ret request)}
    {recover' : Err → Prog Call Ret Err (Ret request')}
    (raises : ∀ error,
      Twins exec post (recover error >>= next) first (recover' error >>= next') second)
    (fared : match exec first request, exec second request' with
      | .ok (reply, after), .ok (reply', after') =>
          Twins exec post (next reply) after (next' reply') after'
      | .error error, .error error' => error = error'
      | _, _ => False) :
    Twins exec post ((Prog.perform request).tryExcept recover >>= next) first
      ((Prog.perform request').tryExcept recover' >>= next') second := by
  change Twins exec post (.call request _) first (.call request' _) second
  rw [Twins]
  refine ⟨?_, raises⟩
  cases executed : exec first request <;> cases executed' : exec second request' <;>
    simp only [executed, executed'] at fared ⊢
  · exact ⟨fared, raises _⟩
  · exact fared

theorem Twins.handle {post' : Other → Store → Other → Store → Prop}
    {next next' : Except Err Value → Prog Call Ret Err Other}
    (twins : Twins exec post body first body' second)
    (returned : ∀ value first value' second, post value first value' second →
      Twins exec post' (next (.ok value)) first (next' (.ok value')) second)
    (raised : ∀ error first second,
      Twins exec post' (next (.error error)) first (next' (.error error)) second) :
    Twins exec post' (body.handle next) first (body'.handle next') second := by
  induction body generalizing first body' second with
  | done result =>
      cases body' with
      | done result' =>
          cases result <;> cases result'
          · obtain rfl : _ = _ := twins
            exact raised _ _ _
          · exact twins.elim
          · exact twins.elim
          · exact returned _ _ _ _ twins
      | call request' answer' => cases result <;> exact twins.elim
  | call request answer induction =>
      cases body' with
      | done result' => exact twins.elim
      | call request' answer' =>
          rw [Twins] at twins
          change Twins exec post' (.call request _) first (.call request' _) second
          rw [Twins]
          refine ⟨?_, fun error => induction _ (twins.2 error)⟩
          have fared := twins.1
          cases executed : exec first request <;> cases executed' : exec second request' <;>
            simp only [executed, executed'] at fared ⊢
          · exact ⟨fared.1, induction _ fared.2⟩
          · exact induction _ fared

theorem Twins.bind {post' : Other → Store → Other → Store → Prop}
    {next next' : Value → Prog Call Ret Err Other}
    (twins : Twins exec post body first body' second)
    (then_ : ∀ value first value' second, post value first value' second →
      Twins exec post' (next value) first (next' value') second) :
    Twins exec post' (body >>= next) first (body' >>= next') second :=
  twins.handle then_ fun error _ _ => twins_raise error

/-- Handlers that raise the same exceptions. -/
theorem Twins.tryExcept {recover recover' : Err → Prog Call Ret Err Value}
    (twins : Twins exec post body first body' second)
    (recovers : ∀ error first second,
      Twins exec post (recover error) first (recover' error) second) :
    Twins exec post (body.tryExcept recover) first (body'.tryExcept recover') second :=
  twins.handle (fun _ _ _ _ related => related) recovers

/-- With the same choices, twins raise the same exceptions. -/
theorem Twins.statements {committed committed' : Store}
    (twins : Twins exec post body first body' second)
    (run : (statements body).spend (respond exec) ⟨committed, first⟩ choices =
      some (result, after, rest)) :
    ∃ result' after', (ReadCommitted.statements body').spend (respond exec)
        ⟨committed', second⟩ choices = some (result', after', rest) ∧
      after'.committed = committed' ∧
      ∀ error, result = .error error ↔ result' = .error error := by
  induction body generalizing first body' second choices with
  | done reached =>
      cases body' with
      | done reached' =>
          cases run
          refine ⟨reached', _, rfl, rfl, ?_⟩
          intro error
          cases result <;> cases reached'
          · obtain rfl : _ = _ := twins
            exact Iff.rfl
          · exact twins.elim
          · exact twins.elim
          · simp
      | call request' answer' => cases reached <;> exact twins.elim
  | call request answer induction =>
      cases body' with
      | done reached' => exact twins.elim
      | call request' answer' =>
          rw [Twins] at twins
          obtain ⟨fared, failed⟩ := twins
          rcases choices with _ | ⟨_ | error | error, choices⟩
          · cases run
          · cases executed : exec first request <;>
              cases executed' : exec second request' <;>
              simp only [executed, executed'] at fared
            · obtain ⟨rfl, fared⟩ := fared
              rw [spend_refuses executed] at run
              rw [spend_refuses executed']
              exact induction _ fared run
            · rw [spend_executes executed] at run
              rw [spend_executes executed']
              exact induction _ fared run
          · rw [spend_fails] at run ⊢
            exact induction _ (failed error) run
          · cases run

variable {checks : Prog Call Ret Err (Value ⊕ Context)}
  {writes writes' : Context → Prog Call Ret Err Unit}
  {related : Unit → Store → Unit → Store → Prop}

theorem Twins.block {body body' : Prog Call Ret Err Unit}
    (twins : Twins exec related body store body' store)
    (run : (block body).spend (respond exec) (.idle store) choices =
      some (.error error, after, rest)) :
    ∃ after', (TransactionBlock.block body').spend (respond exec) (.idle store) choices =
      some (.error error, after', rest) := by
  rw [TransactionBlock.block, Prog.spend_handle] at run ⊢
  cases inner : (ReadCommitted.statements body).spend (respond exec) (.idle store)
      choices with
  | none => simp [inner] at run
  | some reached =>
      obtain ⟨outcome, reached, left⟩ := reached
      obtain ⟨outcome', reached', inner', _, alike⟩ := twins.statements inner
      have inner' : (ReadCommitted.statements body').spend (respond exec) (.idle store)
          choices = some (outcome', reached', left) := inner'
      simp only [inner, inner', Option.bind_some] at run ⊢
      cases outcome with
      | error failure =>
          obtain rfl := (alike failure).mp rfl
          rcases left with _ | ⟨_ | last | last, left⟩ <;> cases run <;> exact ⟨_, rfl⟩
      | ok value =>
          cases outcome' with
          | error failure => cases (alike failure).mpr rfl
          | ok value' =>
              rcases left with _ | ⟨_ | last | last, left⟩ <;> cases run <;> exact ⟨_, rfl⟩

/-- An opening that raises does so again, with other values of the same block. -/
theorem opening_again
    (twins : ∀ context, eval exec checks store = .ok (.inr context, store) →
      ∃ related, Twins exec related (writes context) store (writes' context) store)
    (reads : ∀ value written, eval exec checks store = .ok (value, written) →
      written = store)
    (propagates : checks.Propagates)
    (run : (opening checks writes).spend (respond exec) (.idle store) choices =
      some (.error error, after, rest)) :
    ∃ after', (opening checks writes').spend (respond exec) (.idle store) choices =
      some (.error error, after', rest) := by
  change ((ReadCommitted.statements checks).handle _).spend _ _ _ = _ at run
  change ∃ after', ((ReadCommitted.statements checks).handle _).spend _ _ _ = _
  rw [Prog.spend_handle] at run
  simp only [Prog.spend_handle]
  cases inner : (ReadCommitted.statements checks).spend (respond exec) (.idle store)
      choices with
  | none => simp [inner] at run
  | some reached =>
      obtain ⟨outcome, reached, left⟩ := reached
      have kept : reached.committed = store := committed_of_statements inner
      simp only [inner, Option.bind_some] at run ⊢
      rcases statements_cases propagates inner with
        ⟨⟨failure, rfl⟩, _⟩ | ⟨value, written, rfl, computed, reaches, _⟩
      · cases run
        exact ⟨_, rfl⟩
      · have unwritten : reached.working = store := reaches.trans (reads _ _ computed)
        have unwritten' := reads _ _ computed
        rcases value with value | context
        · cases run
        · obtain ⟨committed, working⟩ := reached
          obtain rfl : committed = store := kept
          obtain rfl : working = committed := unwritten
          rw [unwritten'] at computed
          change ((TransactionBlock.block (writes context)).handle _).spend _
            (BlockState.idle working) _ = _ at run
          change ∃ after', ((TransactionBlock.block (writes' context)).handle _).spend
            _ (BlockState.idle working) _ = _
          rw [Prog.spend_handle] at run
          simp only [Prog.spend_handle]
          cases last : (TransactionBlock.block (writes context)).spend (respond exec)
              (.idle working) left with
          | none => simp [last] at run
          | some ended =>
              obtain ⟨outcome, ended, final⟩ := ended
              simp only [last, Option.bind_some] at run ⊢
              cases outcome with
              | ok value => cases run
              | error failure =>
                  cases run
                  obtain ⟨related, twins⟩ := twins context computed
                  obtain ⟨after', again⟩ := twins.block last
                  refine ⟨after', ?_⟩
                  simp only [again, Option.bind_some]
                  rfl

end Twins

end TransactionBlock
