import ContractMate.EffectProgram

/-!
# Transaction blocks

A block runs statements on a working copy of a store, commits when its body returns and
rolls back when it raises.  Any statement, and the commit itself, may fail.  A body that
lets every failure through is then all or nothing: the committed store is the one before
or the one that the whole body computes.
-/

namespace TransactionBlock

variable {Call : Type} {Ret : Call → Type} {Err Store Value Other : Type}

/-- A statement of the body, or the end of the block. -/
inductive BlockCall (Call : Type) where
  | statement (call : Call)
  | commit
  | rollback

def BlockCall.Reply (Ret : Call → Type) : BlockCall Call → Type
  | statement call => Ret call
  | commit | rollback => Unit

/-- `try: yield` with `rollback` on an exception, and `commit` otherwise. -/
def block (body : Prog Call Ret Err Value) :
    Prog (BlockCall Call) (BlockCall.Reply Ret) Err Value :=
  (Prog.translate BlockCall.statement (fun _ reply => reply) body).handle fun
    | .ok value => .call .commit fun
        | .ok _ => .done (.ok value)
        | .error error => .done (.error error)
    | .error error => .call .rollback fun
        | .ok _ => .done (.error error)
        | .error failure => .done (.error failure)

/-- What is committed, and what the connection sees. -/
structure BlockState (Store : Type) where
  committed : Store
  working : Store

/-- A connection without a transaction. -/
def BlockState.idle (store : Store) : BlockState Store :=
  ⟨store, store⟩

/-- How a statement comes out.  A `lost` commit took effect although it raises. -/
inductive BlockChoice (Err : Type) where
  | executes
  | fails (error : Err)
  | lost (error : Err)

section Run

/-- What a statement answers, and what it leaves. -/
abbrev Exec (Call : Type) (Ret : Call → Type) (Err Store : Type) :=
  Store → (request : Call) → Except Err (Ret request × Store)

variable (exec : Exec Call Ret Err Store)

def respondStatement (state : BlockState Store) (request : Call) :
    BlockChoice Err → Option (Except Err (Ret request) × BlockState Store)
  | .executes =>
      match exec state.working request with
      | .ok (reply, after) => some (.ok reply, { state with working := after })
      | .error error => some (.error error, state)
  | .fails error => some (.error error, state)
  | .lost _ => none

def respond :
    Prog.Respond (BlockCall Call) (BlockCall.Reply Ret) Err (BlockState Store)
      (BlockChoice Err) :=
  fun choice state call =>
    match call with
    | .statement request => respondStatement exec state request choice
    | .commit =>
        match choice with
        | .executes => some (.ok (), .idle state.working)
        | .fails error => some (.error error, .idle state.committed)
        | .lost error => some (.error error, .idle state.working)
    | .rollback =>
        match choice with
        | .executes => some (.ok (), .idle state.committed)
        | .fails error | .lost error => some (.error error, .idle state.committed)

/-- The body with every statement executed. -/
def eval : Prog Call Ret Err Value → Store → Except Err (Value × Store)
  | .done (.ok value), store => .ok (value, store)
  | .done (.error error), _ => .error error
  | .call request next, store =>
      match exec store request with
      | .ok (reply, after) => eval (next (.ok reply)) after
      | .error error => .error error

end Run

/-- A failing statement ends the body. -/
def Straight : Prog Call Ret Err Value → Prop
  | .done _ => True
  | .call _ next =>
      (∀ error, next (.error error) = .done (.error error)) ∧
        ∀ reply, Straight (next (.ok reply))

@[simp]
theorem straight_raise (error : Err) :
    Straight (.raise error : Prog Call Ret Err Value) :=
  trivial

theorem straight_perform (request : Call) :
    Straight (Prog.perform request : Prog Call Ret Err (Ret request)) :=
  ⟨fun _ => rfl, fun _ => trivial⟩

theorem Straight.bind {body : Prog Call Ret Err Value}
    {next : Value → Prog Call Ret Err Other} (straight : Straight body)
    (then_ : ∀ value, Straight (next value)) : Straight (body >>= next) := by
  induction body with
  | done result =>
      cases result with
      | ok value => exact then_ value
      | error error => trivial
  | call request answer induction =>
      constructor
      · intro error
        change (answer (.error error) >>= next) = _
        rw [straight.1 error]
        rfl
      · intro reply
        exact induction (.ok reply) (straight.2 reply)

theorem Straight.onlyIf {condition : Bool} {body : Prog Call Ret Err Unit}
    (straight : Straight body) : Straight (Prog.onlyIf condition body) := by
  cases condition with
  | false => trivial
  | true => exact straight

section AllOrNothing

variable {exec : Exec Call Ret Err Store} {body : Prog Call Ret Err Value}

@[simp]
theorem eval_pure (value : Value) (store : Store) :
    eval exec (pure value) store = .ok (value, store) :=
  rfl

@[simp]
theorem eval_raise (error : Err) (store : Store) :
    eval exec (.raise error : Prog Call Ret Err Value) store = .error error :=
  rfl

/-- A body that starts with a statement. -/
theorem eval_perform (request : Call) (next : Ret request → Prog Call Ret Err Value)
    (store : Store) :
    eval exec (Prog.perform request >>= next) store =
      match exec store request with
      | .ok (reply, after) => eval exec (next reply) after
      | .error error => .error error := by
  change eval exec (.call request _) store = _
  rw [eval]
  cases exec store request <;> rfl

theorem eval_onlyIf (condition : Bool) (first : Prog Call Ret Err Unit)
    (next : Unit → Prog Call Ret Err Value) (store : Store) :
    eval exec (Prog.onlyIf condition first >>= next) store =
      if condition then eval exec (first >>= next) store
      else eval exec (next ()) store := by
  cases condition <;> rfl

/-- The end of a block leaves the working copy or the committed store. -/
theorem committed_of_end {store : Store} {result : Except Err Value}
    {state after : BlockState Store} {choices : List (BlockChoice Err)}
    {rest : Prog (BlockCall Call) (BlockCall.Reply Ret) Err Value}
    (before : state.committed = store)
    (run : (block (.done result : Prog Call Ret Err Value)).advance (respond exec) state
      choices = some (rest, after)) :
    after.committed = store ∨
      ∃ value, result = .ok value ∧ after.committed = state.working := by
  cases result with
  | ok value =>
      rcases choices with _ | ⟨choice, _ | _⟩
      · cases run
        exact .inl before
      · cases choice <;> cases run
        · exact .inr ⟨value, rfl, rfl⟩
        · exact .inl before
        · exact .inr ⟨value, rfl, rfl⟩
      · cases choice <;> cases run
  | error error =>
      rcases choices with _ | ⟨choice, _ | _⟩
      · cases run
        exact .inl before
      · cases choice <;> cases run <;> exact .inl before
      · cases choice <;> cases run

/-- Wherever a block stands, the store is the one before, or what the whole body
computes. -/
theorem all_or_nothing (straight : Straight body) {store : Store}
    {choices : List (BlockChoice Err)} {after : BlockState Store}
    {rest : Prog (BlockCall Call) (BlockCall.Reply Ret) Err Value}
    (run : (block body).advance (respond exec) (.idle store) choices =
      some (rest, after)) :
    after.committed = store ∨
      ∃ value, eval exec body store = .ok (value, after.committed) := by
  -- What is left of the body computes on the working copy what the body computes.
  suffices kept : ∀ (body : Prog Call Ret Err Value) (state : BlockState Store)
      (choices : List (BlockChoice Err)), Straight body → state.committed = store →
      (block body).advance (respond exec) state choices = some (rest, after) →
      after.committed = store ∨
        ∃ value, eval exec body state.working = .ok (value, after.committed) by
    exact kept body (.idle store) choices straight rfl run
  clear straight run
  intro body
  induction body with
  | done result =>
      intro state choices _ before run
      rcases committed_of_end before run with same | ⟨value, rfl, committed⟩
      · exact .inl same
      · exact .inr ⟨value, by rw [committed]; rfl⟩
  | call request next induction =>
      intro state choices straight before run
      have raised {error : Err} {state : BlockState Store}
          (before : state.committed = store)
          {choices : List (BlockChoice Err)}
          (run : (block (next (.error error))).advance (respond exec) state choices =
            some (rest, after)) : after.committed = store := by
        rw [straight.1 error] at run
        rcases committed_of_end before run with same | ⟨_, absurd_, _⟩
        · exact same
        · cases absurd_
      cases choices with
      | nil =>
          cases run
          exact .inl before
      | cons choice choices =>
          cases choice with
          | executes =>
              cases executed : exec state.working request with
              | ok answer =>
                  obtain ⟨reply, written⟩ := answer
                  have run : (block (next (.ok reply))).advance (respond exec)
                      { state with working := written } choices = some (rest, after) := by
                    simpa [block, Prog.translate, Prog.handle, Prog.advance, respond,
                      respondStatement, executed] using run
                  have computed := induction (.ok reply)
                    { state with working := written } choices (straight.2 reply) before run
                  simpa [eval, executed] using computed
              | error error =>
                  have run : (block (next (.error error))).advance (respond exec) state
                      choices = some (rest, after) := by
                    simpa [block, Prog.translate, Prog.handle, Prog.advance, respond,
                      respondStatement, executed] using run
                  exact .inl (raised before run)
          | fails error => exact .inl (raised before run)
          | lost error => cases run

end AllOrNothing

end TransactionBlock
