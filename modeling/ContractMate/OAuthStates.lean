import ContractMate.RowWrites
import ContractMate.ReviewJobs

/-!
# OAuth states

`create_oauth_state` and `consume_oauth_state`, any number of them at once, on PostgreSQL or
in SQLite's immediate transactions.  A state is consumed by an update whose guard looks at
the row again, under the row's lock.
-/

namespace ContractMate

namespace OAuthStates

open ReadCommitted TransactionBlock

/-- `slack_oauth_states`. -/
structure OAuthStateRow where
  stateHash : String
  accountId : String
  expiresAt : Int
  consumedAt : Option Int := none
deriving DecidableEq, Repr

/-- The arguments of a call, with its readings of the clock. -/
inductive OAuthOperation where
  | create (accountId rawState : String) (ttlSeconds now : Int)
  | consume (rawState : String) (now stamp : Int)
deriving DecidableEq, Repr

/-- A call; calls are told apart by their numbers. -/
structure OAuthTask where
  number : Nat
  operation : OAuthOperation
deriving DecidableEq, Repr

/-- A state that a committed `create_oauth_state` was called for. -/
structure Creation where
  rawState : String
  accountId : String
  expiresAt : Int
deriving DecidableEq, Repr

inductive OAuthCall where
  | beginImmediate
  /-- `INSERT … ON CONFLICT(state_hash) DO NOTHING`, for a creation. -/
  | insertState (stateHash : String) (creation : Creation)
  /-- `SELECT account_id, expires_at, consumed_at … WHERE state_hash = ?` -/
  | selectState (stateHash : String)
  /-- `UPDATE … SET consumed_at … WHERE state_hash = ? AND consumed_at IS NULL`, by a call. -/
  | markConsumed (stateHash : String) (stamp : Int) (number : Nat)
deriving DecidableEq, Repr

def OAuthCall.Ret : OAuthCall → Type
  | beginImmediate => Unit
  | insertState _ _ => Unit
  | selectState _ => Option OAuthStateRow
  | markConsumed _ _ _ => Nat

abbrev OAuthBody := Prog OAuthCall OAuthCall.Ret Exn

abbrev OAuthProg := Prog (BlockCall OAuthCall) (BlockCall.Reply OAuthCall.Ret) Exn

def insertState (stateHash : String) (creation : Creation) : OAuthBody Unit :=
  Prog.perform (OAuthCall.insertState stateHash creation)

def selectState (stateHash : String) : OAuthBody (Option OAuthStateRow) :=
  Prog.perform (OAuthCall.selectState stateHash)

def markConsumed (stateHash : String) (stamp : Int) (number : Nat) : OAuthBody Nat :=
  Prog.perform (OAuthCall.markConsumed stateHash stamp number)

section Programs

variable (sqlite : Bool) (digest : String → String)

/-- `_transaction(immediate=not self.is_postgres)` -/
def immediately {Value : Type} (body : OAuthBody Value) : OAuthProg Value :=
  transaction (if sqlite then some .beginImmediate else none) body

def creation (accountId rawState : String) (ttlSeconds now : Int) : Creation where
  rawState := rawState
  accountId := accountId
  expiresAt := now + seconds (max ttlSeconds 60)

def createOauthState (accountId rawState : String) (ttlSeconds now : Int) :
    OAuthProg (Option String) :=
  immediately sqlite do
    insertState (digest rawState) (creation accountId rawState ttlSeconds now)
    pure none

/-- The guarded update of a row that was found unconsumed and not expired. -/
def consumeRow (stateHash : String) (stamp : Int) (number : Nat) (row : OAuthStateRow) :
    OAuthBody (Option String) := do
  let updated ← markConsumed stateHash stamp number
  pure (if updated = 1 then some row.accountId else none)

def consumeBody (rawState : String) (now stamp : Int) (number : Nat) :
    OAuthBody (Option String) := do
  let row ← selectState (digest rawState)
  match row with
  | none => pure none
  | some row =>
      if row.consumedAt.isSome || row.expiresAt ≤ now then pure none
      else consumeRow (digest rawState) stamp number row

def consumeOauthState (rawState : String) (now stamp : Int) (number : Nat) :
    OAuthProg (Option String) :=
  immediately sqlite (consumeBody digest rawState now stamp number)

def runOperation (task : OAuthTask) : OAuthProg (Option String) :=
  match task.operation with
  | .create accountId rawState ttlSeconds now =>
      createOauthState sqlite digest accountId rawState ttlSeconds now
  | .consume rawState now stamp =>
      consumeOauthState sqlite digest rawState now stamp task.number

end Programs

/-! ## The table -/

/-- The table, and beside it the creations and the consumptions committed so far. -/
structure OAuthStore where
  states : RowTable OAuthStateRow.stateHash := .empty
  created : List (String × Creation) := []
  consumed : List (String × Nat) := []

inductive OAuthWrite where
  | row (row : OAuthStateRow)
  | created (stateHash : String) (creation : Creation)
  | consumed (stateHash : String) (number : Nat)
deriving DecidableEq, Repr

inductive OAuthLock where
  | database
  | state (stateHash : String)
deriving DecidableEq, Repr

namespace OAuthStore

def apply (store : OAuthStore) : OAuthWrite → OAuthStore
  | .row row => { store with states := store.states.put row }
  | .created stateHash creation =>
      { store with created := store.created ++ [(stateHash, creation)] }
  | .consumed stateHash number =>
      { store with consumed := store.consumed ++ [(stateHash, number)] }

def exec (store : OAuthStore) :
    (request : OAuthCall) → Except Exn (request.Ret × List OAuthWrite)
  | .beginImmediate => .ok ((), [])
  | .insertState stateHash creation =>
      match store.states.find? stateHash with
      | some _ => .ok ((), [.created stateHash creation])
      | none =>
          .ok ((), [
            .row {
              stateHash, accountId := creation.accountId, expiresAt := creation.expiresAt },
            .created stateHash creation])
  | .selectState stateHash => .ok (store.states.find? stateHash, [])
  | .markConsumed stateHash stamp number =>
      match (store.states.find? stateHash).filter fun row => row.consumedAt.isNone with
      | some row =>
          .ok ((1 : Nat), [.row { row with consumedAt := some stamp }, .consumed stateHash number])
      | none => .ok ((0 : Nat), [])

/-- A new row and a row that is updated are locked. -/
def locks (store : OAuthStore) : OAuthCall → List OAuthLock
  | .beginImmediate => [.database]
  | .insertState stateHash _ =>
      if (store.states.find? stateHash).isSome then [] else [.state stateHash]
  | .markConsumed stateHash _ _ =>
      if (store.states.find? stateHash).any fun row => row.consumedAt.isNone then
        [.state stateHash]
      else []
  | .selectState _ => []

end OAuthStore

def oauthEngine : Engine OAuthCall OAuthCall.Ret Exn OAuthStore OAuthWrite OAuthLock where
  locks := OAuthStore.locks
  exec := OAuthStore.exec
  apply := OAuthStore.apply

abbrev OAuthStep := PoolStep OAuthTask (BlockCall OAuthCall) (BlockCall.Reply OAuthCall.Ret)
  Exn (Option String) (World OAuthStore OAuthWrite OAuthLock) (BlockChoice Exn) Empty

abbrev OAuthState := PoolState OAuthTask (BlockCall OAuthCall) (BlockCall.Reply OAuthCall.Ret)
  Exn (Option String) (World OAuthStore OAuthWrite OAuthLock)

abbrev OAuthRun (sqlite : Bool) (digest : String → String) :
    List OAuthStep → OAuthState → Prop :=
  (oauthEngine.system (runOperation sqlite digest)).Run { committed := {} }

/-! ## Single use -/

/-- The creation that a call stands for. -/
def OAuthTask.creates (task : OAuthTask) (creation : Creation) : Prop :=
  ∃ accountId rawState ttlSeconds now,
    task.operation = .create accountId rawState ttlSeconds now ∧
      creation = OAuthStates.creation accountId rawState ttlSeconds now

/-- The call consumed a state for an account, having read the clock. -/
def Consumes (step : OAuthStep) (task : OAuthTask) (rawState accountId : String) (now : Int) :
    Prop :=
  PoolSystem.ended? step = some (task, .ok (some accountId)) ∧
    ∃ stamp, task.operation = .consume rawState now stamp

/-- Of the calls that consume a state one returns an account, which is the one that the
state was created for first, and reads the clock before the state expires. -/
structure SingleUse (steps : List OAuthStep) (final : OAuthState) : Prop where
  once : ∀ (i j : Nat) (first second : OAuthStep) (task other : OAuthTask)
    (rawState accountId accountId' : String) (now now' : Int), steps[i]? = some first →
    steps[j]? = some second → Consumes first task rawState accountId now →
    Consumes second other rawState accountId' now' → i = j
  rightful : ∀ step ∈ steps, ∀ task rawState accountId now,
    Consumes step task rawState accountId now → ∃ creation,
      (final.world.committed.created.map Prod.snd).find? (fun creation =>
        creation.rawState = rawState) = some creation ∧
      creation.accountId = accountId ∧ now < creation.expiresAt
  created : ∀ entry ∈ final.world.committed.created, ∃ task, Starts steps task ∧
    task.creates entry.2
  recorded : ∀ step ∈ steps, ∀ task creation result,
    PoolSystem.ended? step = some (task, .ok result) → task.creates creation →
    creation ∈ final.world.committed.created.map Prod.snd

/-- What holds of the table in a run. -/
structure ValidStates (digest : String → String) (steps : List OAuthStep)
    (store : OAuthStore) : Prop where
  rows : ∀ stateHash row, store.states.find? stateHash = some row → ∃ creation,
    store.created.find? (fun entry => entry.1 = stateHash) = some (stateHash, creation) ∧
      creation.accountId = row.accountId ∧ creation.expiresAt = row.expiresAt
  created : ∀ entry ∈ store.created, entry.1 = digest entry.2.rawState ∧
    (∃ task, Starts steps task ∧ task.creates entry.2) ∧
      (store.states.find? entry.1).isSome = true
  consumed : ∀ entry ∈ store.consumed, ∃ row, store.states.find? entry.1 = some row ∧
    row.consumedAt.isSome = true
  once : (store.consumed.map Prod.fst).Nodup

/-- How the table grows. -/
structure GrowsTo (first second : OAuthStore) : Prop where
  rows : ∀ stateHash row, first.states.find? stateHash = some row → ∃ later,
    second.states.find? stateHash = some later ∧ later.accountId = row.accountId ∧
      later.expiresAt = row.expiresAt
  created : first.created <+: second.created
  consumed : ∀ entry ∈ first.consumed, entry ∈ second.consumed

theorem GrowsTo.refl (store : OAuthStore) : GrowsTo store store :=
  ⟨fun _ row found => ⟨row, found, rfl, rfl⟩, List.prefix_refl _, fun _ => id⟩

theorem GrowsTo.trans {first second third : OAuthStore} (earlier : GrowsTo first second)
    (later : GrowsTo second third) : GrowsTo first third := by
  refine ⟨?_, earlier.created.trans later.created, ?_⟩
  · intro stateHash row found
    obtain ⟨middle, found, account, expires⟩ := earlier.rows stateHash row found
    obtain ⟨last, found, account', expires'⟩ := later.rows stateHash middle found
    exact ⟨last, found, account'.trans account, expires'.trans expires⟩
  · exact fun entry member => later.consumed entry (earlier.consumed entry member)

def oauthDiscipline (digest : String → String) (steps : List OAuthStep) :
    Discipline OAuthTask OAuthCall Exn OAuthStore OAuthLock where
  valid := ValidStates digest steps
  evolves := GrowsTo
  Part
    | .database => Unit
    | .state _ => Option OAuthStateRow
  part
    | .database, _ => ()
    | .state stateHash, store => store.states.find? stateHash
  evolves_refl := GrowsTo.refl
  evolves_trans := GrowsTo.trans

section Writes

variable {digest : String → String} {steps : List OAuthStep} {store : OAuthStore}
  {stateHash : String} {creation : Creation} {row : OAuthStateRow} {number : Nat}

/-- The store after a new row. -/
def OAuthStore.inserting (store : OAuthStore) (stateHash : String) (creation : Creation) :
    OAuthStore where
  states := store.states.put {
    stateHash, accountId := creation.accountId, expiresAt := creation.expiresAt }
  created := store.created ++ [(stateHash, creation)]
  consumed := store.consumed

/-- The store after a creation that found a row. -/
def OAuthStore.recording (store : OAuthStore) (stateHash : String) (creation : Creation) :
    OAuthStore :=
  { store with created := store.created ++ [(stateHash, creation)] }

/-- The store after the guarded update of a row. -/
def OAuthStore.consuming (store : OAuthStore) (row : OAuthStateRow) (stateHash : String)
    (stamp : Int) (number : Nat) : OAuthStore where
  states := store.states.put { row with consumedAt := some stamp }
  created := store.created
  consumed := store.consumed ++ [(stateHash, number)]

theorem find?_created_append (known : ∃ entry ∈ store.created, entry.1 = stateHash)
    (more : List (String × Creation)) :
    (store.created ++ more).find? (fun entry => entry.1 = stateHash) =
      store.created.find? fun entry => entry.1 = stateHash := by
  obtain ⟨entry, member, named⟩ := known
  rw [List.find?_append]
  apply Option.or_of_isSome
  rw [List.find?_isSome]
  exact ⟨entry, member, by simp [named]⟩

/-- A row has been created for a known creation. -/
theorem known_of_row (valid : ValidStates digest steps store)
    (found : store.states.find? stateHash = some row) :
    ∃ entry ∈ store.created, entry.1 = stateHash := by
  obtain ⟨creation, first, _⟩ := valid.rows stateHash row found
  exact ⟨_, List.mem_of_find?_eq_some first, rfl⟩

/-- A row for a state that was never created. -/
theorem valid_insert (valid : ValidStates digest steps store)
    (absent : store.states.find? stateHash = none)
    (hashed : stateHash = digest creation.rawState)
    (started : ∃ task, Starts steps task ∧ task.creates creation) :
    ValidStates digest steps (store.inserting stateHash creation) ∧
      GrowsTo store (store.inserting stateHash creation) := by
  have unknown : ∀ entry ∈ store.created, entry.1 ≠ stateHash := by
    rintro entry member rfl
    have found := (valid.created entry member).2.2
    rw [absent] at found
    cases found
  refine ⟨⟨?_, ?_, ?_, valid.once⟩, ?_, List.prefix_append _ _, fun _ => id⟩
  · intro other row found
    simp only [OAuthStore.inserting, RowTable.find?_put] at found
    split_ifs at found with same
    · subst same
      cases found
      refine ⟨creation, ?_, rfl, rfl⟩
      rw [OAuthStore.inserting, List.find?_append, List.find?_eq_none.mpr]
      · simp
      · intro entry member
        simpa using unknown entry member
    · simp only [OAuthStore.inserting]
      rw [find?_created_append (known_of_row valid found)]
      exact valid.rows other row found
  · intro entry member
    rcases List.mem_append.mp member with earlier | new
    · obtain ⟨named, begun, found⟩ := valid.created entry earlier
      refine ⟨named, begun, ?_⟩
      simp only [OAuthStore.inserting, RowTable.find?_put]
      rw [if_neg (unknown entry earlier).symm]
      exact found
    · rw [List.mem_singleton] at new
      subst new
      exact ⟨hashed, started, by simp [OAuthStore.inserting, RowTable.find?_put]⟩
  · intro entry member
    obtain ⟨row, found, used⟩ := valid.consumed entry member
    refine ⟨row, ?_, used⟩
    simp only [OAuthStore.inserting, RowTable.find?_put]
    rw [if_neg, found]
    rintro rfl
    rw [absent] at found
    cases found
  · intro other row found
    refine ⟨row, ?_, rfl, rfl⟩
    simp only [OAuthStore.inserting, RowTable.find?_put]
    rw [if_neg, found]
    rintro rfl
    rw [absent] at found
    cases found

/-- A state that was created before keeps its row. -/
theorem valid_record (valid : ValidStates digest steps store)
    (present : (store.states.find? stateHash).isSome = true)
    (hashed : stateHash = digest creation.rawState)
    (started : ∃ task, Starts steps task ∧ task.creates creation) :
    ValidStates digest steps (store.recording stateHash creation) ∧
      GrowsTo store (store.recording stateHash creation) := by
  refine ⟨⟨?_, ?_, valid.consumed, valid.once⟩, ?_, List.prefix_append _ _, fun _ => id⟩
  · intro other row found
    simp only [OAuthStore.recording]
    rw [find?_created_append (known_of_row valid found)]
    exact valid.rows other row found
  · intro entry member
    rcases List.mem_append.mp member with earlier | new
    · exact valid.created entry earlier
    · rw [List.mem_singleton] at new
      subst new
      exact ⟨hashed, started, present⟩
  · exact fun _ row found => ⟨row, found, rfl, rfl⟩

/-- An unconsumed row is consumed. -/
theorem valid_consume (valid : ValidStates digest steps store)
    (found : store.states.find? stateHash = some row) (unused : row.consumedAt = none)
    (stamp : Int) :
    ValidStates digest steps (store.consuming row stateHash stamp number) ∧
      GrowsTo store (store.consuming row stateHash stamp number) := by
  have named : row.stateHash = stateHash := RowTable.key_of_find? found
  have states (other : String) : (store.consuming row stateHash stamp number).states.find? other =
      if stateHash = other then some { row with consumedAt := some stamp }
      else store.states.find? other := by
    simp only [OAuthStore.consuming, RowTable.find?_put, named]
  refine ⟨⟨?_, ?_, ?_, ?_⟩, ?_, List.prefix_refl _, ?_⟩
  · intro other later here
    rw [states] at here
    split_ifs at here with same
    · subst same
      cases here
      exact valid.rows stateHash row found
    · exact valid.rows other later here
  · intro entry member
    obtain ⟨hashed, started, present⟩ := valid.created entry member
    refine ⟨hashed, started, ?_⟩
    rw [states]
    split_ifs
    · rfl
    · exact present
  · intro entry member
    rcases List.mem_append.mp member with earlier | new
    · obtain ⟨used, here, consumed⟩ := valid.consumed entry earlier
      rw [states]
      split_ifs
      · exact ⟨_, rfl, rfl⟩
      · exact ⟨used, here, consumed⟩
    · rw [List.mem_singleton] at new
      subst new
      exact ⟨_, by rw [states, if_pos rfl], rfl⟩
  · simp only [OAuthStore.consuming, List.map_append, List.nodup_append]
    refine ⟨valid.once, by simp, ?_⟩
    rintro used member _ single rfl
    simp only [List.map_cons, List.map_nil, List.mem_singleton] at single
    obtain ⟨entry, consumed, rfl⟩ := List.mem_map.mp member
    obtain ⟨other, here, used⟩ := valid.consumed entry consumed
    rw [single, found] at here
    cases here
    rw [unused] at used
    cases used
  · intro other old here
    rw [states]
    split_ifs with same
    · subst same
      rw [found] at here
      cases here
      exact ⟨_, rfl, rfl, rfl⟩
    · exact ⟨old, here, rfl, rfl⟩
  · exact fun entry member => List.mem_append_left _ member

end Writes

/-! ## The calls -/

section Safety

variable {digest : String → String} {steps : List OAuthStep} {task : OAuthTask}
  {here : Session OAuthStore OAuthWrite OAuthLock} {store : OAuthStore} {sqlite : Bool}

/-- What the table shows after a call has returned. -/
def Answered (digest : String → String) (task : OAuthTask) (result : Option String)
    (store : OAuthStore) : Prop :=
  (∀ creation, task.creates creation → creation ∈ store.created.map Prod.snd) ∧
    ∀ rawState now stamp accountId, task.operation = .consume rawState now stamp →
      result = some accountId → ∃ row, store.states.find? (digest rawState) = some row ∧
        row.accountId = accountId ∧ now < row.expiresAt ∧
          (digest rawState, task.number) ∈ store.consumed

theorem Answered.grows {result : Option String} {later : OAuthStore}
    (answered : Answered digest task result store) (grows : GrowsTo store later) :
    Answered digest task result later := by
  constructor
  · intro creation creates
    exact (grows.created.map Prod.snd).subset (answered.1 creation creates)
  · intro rawState now stamp accountId consumes returned
    obtain ⟨row, found, account, fresh, consumed⟩ :=
      answered.2 rawState now stamp accountId consumes returned
    obtain ⟨last, found, account', expires⟩ := grows.rows _ row found
    exact ⟨last, found, account'.trans account, by rwa [expires], grows.consumed _ consumed⟩

/-- The transaction can commit and then has answered. -/
def Finishes (digest : String → String) (steps : List OAuthStep) (task : OAuthTask)
    (result : Option String) (here : Session OAuthStore OAuthWrite OAuthLock) : Prop :=
  ValidStates digest steps here.committed →
    Commits oauthEngine (oauthDiscipline digest steps) here ∧
      Answered digest task result (oauthEngine.view here)

theorem safe_immediately {body : OAuthBody (Option String)}
    (safe : ∀ here : Session OAuthStore OAuthWrite OAuthLock, here.pending = [] →
      Safe oauthEngine (oauthDiscipline digest steps) task
        (Ends (fun _ => True) (Finishes digest steps task)) (statements body) here) :
    Safe oauthEngine (oauthDiscipline digest steps) task
      (Ends (fun _ => True) fun result here => Answered digest task result here.committed)
      (immediately sqlite body) { committed := store } := by
  have opens : Opens oauthEngine (if sqlite then [.database] else [])
      (if sqlite then some .beginImmediate else none) := by
    cases sqlite with
    | false => rfl
    | true => exact fun store => ⟨rfl, (), rfl⟩
  apply safe_transaction (fun _ _ => trivial) (fun _ _ => trivial) opens
  · exact fun seen => safe _ rfl
  · exact fun _ _ ended valid => (ended valid).1
  · exact fun _ _ _ ended valid _ grows => (ended valid).2.grows grows

theorem finishes_unwritten {result : Option String} (unwritten : here.pending = [])
    (returned : result = none) (creates : ∀ creation, ¬ task.creates creation) :
    Finishes digest steps task result here := by
  subst returned
  intro valid
  refine ⟨commits_unwritten unwritten valid, ?_, nofun⟩
  exact fun creation created => absurd created (creates creation)

theorem commits_rows {after : OAuthStore} (view : oauthEngine.view here = after)
    (kept : ValidStates digest steps after ∧ GrowsTo here.committed after)
    (rows : ∀ stateHash, OAuthLock.state stateHash ∉ here.held →
      after.states.find? stateHash = here.committed.states.find? stateHash) :
    Commits oauthEngine (oauthDiscipline digest steps) here := by
  subst view
  refine ⟨kept.1, kept.2, ?_⟩
  intro lock free
  cases lock with
  | database => rfl
  | state stateHash => exact rows stateHash free

theorem safe_create {accountId rawState : String} {ttlSeconds now : Int}
    (started : Starts steps task)
    (creates : task.operation = .create accountId rawState ttlSeconds now) :
    Safe oauthEngine (oauthDiscipline digest steps) task
      (Ends (fun _ => True) fun result here => Answered digest task result here.committed)
      (createOauthState sqlite digest accountId rawState ttlSeconds now)
      { committed := store } := by
  have known : ∃ task, Starts steps task ∧
      task.creates (creation accountId rawState ttlSeconds now) :=
    ⟨task, started, accountId, rawState, ttlSeconds, now, creates, rfl⟩
  have answered {store : OAuthStore}
      (member : creation accountId rawState ttlSeconds now ∈ store.created.map Prod.snd) :
      Answered digest task none store := by
    refine ⟨?_, nofun⟩
    rintro other ⟨account, raw, ttl, clock, same, rfl⟩
    rw [creates] at same
    cases same
    exact member
  apply safe_immediately
  intro here unwritten
  apply safe_statement (fun _ _ => trivial)
  intro seen others _
  have first : oauthEngine.view (here.at_ seen) = seen := view_of_unwritten unwritten
  have view (writes : List OAuthWrite) (locks : List OAuthLock) (later : OAuthStore) :
      oauthEngine.view (((here.at_ seen).extend writes locks).at_ later) =
        writes.foldl OAuthStore.apply later :=
    view_of_first unwritten writes locks
  rw [first]
  cases found : seen.states.find? (digest rawState) with
  | none =>
      simp only [oauthEngine, OAuthStore.exec, OAuthStore.locks, found]
      apply safe_pure
      intro later more valid
      have untouched : later.states.find? (digest rawState) = none := by
        have kept := more.untouched (.state (digest rawState)) (by simp [Session.extend])
        exact kept.trans found
      have valid : ValidStates digest steps later := valid
      have kept := valid_insert valid untouched rfl known
      have recorded : creation accountId rawState ttlSeconds now ∈
          (later.inserting (digest rawState)
            (creation accountId rawState ttlSeconds now)).created.map Prod.snd := by
        simp [OAuthStore.inserting]
      refine ⟨commits_rows (view _ _ _) kept ?_, ?_⟩
      · intro stateHash free
        change (later.inserting _ _).states.find? stateHash = later.states.find? stateHash
        simp only [OAuthStore.inserting, RowTable.find?_put]
        rw [if_neg]
        rintro rfl
        simp [Session.at_, Session.extend] at free
      · rw [view]
        exact answered recorded
  | some row =>
      simp only [oauthEngine, OAuthStore.exec, OAuthStore.locks, found]
      apply safe_pure
      intro later more valid
      obtain ⟨last, present, _⟩ := more.evolves.rows _ row found
      have valid : ValidStates digest steps later := valid
      have there : (later.states.find? (digest rawState)).isSome = true := by
        rw [present]
        rfl
      have kept := valid_record valid there rfl known
      have recorded : creation accountId rawState ttlSeconds now ∈
          (later.recording (digest rawState)
            (creation accountId rawState ttlSeconds now)).created.map Prod.snd := by
        simp [OAuthStore.recording]
      refine ⟨commits_rows (view _ _ _) kept fun _ _ => rfl, ?_⟩
      rw [view]
      exact answered recorded

theorem safe_consumeRow {rawState : String} {now stamp : Int} {row : OAuthStateRow}
    (unwritten : here.pending = []) (creates : ∀ creation, ¬ task.creates creation)
    (consumes : task.operation = .consume rawState now stamp)
    (found : here.committed.states.find? (digest rawState) = some row)
    (fresh : now < row.expiresAt) :
    Safe oauthEngine (oauthDiscipline digest steps) task
      (Ends (fun _ => True) (Finishes digest steps task))
      (statements (consumeRow (digest rawState) stamp task.number row)) here := by
  apply safe_statement (fun _ _ => trivial)
  intro seen others _
  have first : oauthEngine.view (here.at_ seen) = seen := view_of_unwritten unwritten
  have view (writes : List OAuthWrite) (locks : List OAuthLock) (later : OAuthStore) :
      oauthEngine.view (((here.at_ seen).extend writes locks).at_ later) =
        writes.foldl OAuthStore.apply later :=
    view_of_first unwritten writes locks
  rw [first]
  obtain ⟨seenRow, found, account, expires⟩ := others.evolves.rows _ row found
  cases unused : seenRow.consumedAt with
  | some used =>
      simp only [oauthEngine, OAuthStore.exec, found, Option.filter_some, unused,
        Option.isNone_some, Bool.false_eq_true, if_false]
      apply safe_pure
      intro later more
      exact finishes_unwritten (by simp [Session.at_, Session.extend, unwritten]) rfl creates
  | none =>
      simp only [oauthEngine, OAuthStore.exec, OAuthStore.locks, found, Option.filter_some,
        Option.any_some, unused, Option.isNone_none, if_true]
      apply safe_pure
      intro later more valid
      have valid : ValidStates digest steps later := valid
      have untouched : later.states.find? (digest rawState) = some seenRow := by
        have kept := more.untouched (.state (digest rawState)) (by simp [Session.extend])
        exact kept.trans found
      have kept : ValidStates digest steps
            (later.consuming seenRow (digest rawState) stamp task.number) ∧
          GrowsTo later (later.consuming seenRow (digest rawState) stamp task.number) :=
        valid_consume valid untouched unused stamp
      have named : seenRow.stateHash = digest rawState := RowTable.key_of_find? found
      have states (other : String) :
          (later.consuming seenRow (digest rawState) stamp task.number).states.find? other =
            if digest rawState = other then some { seenRow with consumedAt := some stamp }
            else later.states.find? other := by
        simp only [OAuthStore.consuming, RowTable.find?_put, named]
      refine ⟨commits_rows (view _ _ _) kept ?_, ?_⟩
      · intro stateHash free
        change (later.consuming _ _ _ _).states.find? stateHash = later.states.find? stateHash
        rw [states, if_neg]
        rintro rfl
        simp [Session.at_, Session.extend] at free
      · rw [view]
        refine ⟨fun creation created => absurd created (creates creation), ?_⟩
        intro other clock mark accountId same returned
        rw [consumes] at same
        cases same
        have returned : row.accountId = accountId := by simpa using returned
        refine ⟨{ seenRow with consumedAt := some stamp }, ?_, account.trans returned, ?_, ?_⟩
        · exact (states _).trans (if_pos rfl)
        · exact expires ▸ fresh
        · exact List.mem_append_right _ (by simp)

theorem safe_consume {rawState : String} {now stamp : Int}
    (consumes : task.operation = .consume rawState now stamp) :
    Safe oauthEngine (oauthDiscipline digest steps) task
      (Ends (fun _ => True) fun result here => Answered digest task result here.committed)
      (consumeOauthState sqlite digest rawState now stamp task.number)
      { committed := store } := by
  have creates (creation : Creation) : ¬ task.creates creation := by
    rintro ⟨account, raw, ttl, clock, same, _⟩
    rw [consumes] at same
    cases same
  apply safe_immediately
  intro here unwritten
  apply safe_statement (fun _ _ => trivial)
  intro seen others _
  have first : oauthEngine.view (here.at_ seen) = seen := view_of_unwritten unwritten
  have reads : ((here.at_ seen).extend ([] : List OAuthWrite)
      ([] : List OAuthLock)).pending = [] := by
    simp [Session.at_, Session.extend, unwritten]
  rw [first]
  cases found : seen.states.find? (digest rawState) with
  | none =>
      simp only [oauthEngine, OAuthStore.exec, OAuthStore.locks, found]
      apply safe_pure
      exact fun later more => finishes_unwritten reads rfl creates
  | some row =>
      simp only [oauthEngine, OAuthStore.exec, OAuthStore.locks, found]
      split_ifs with stale
      · apply safe_pure
        exact fun later more => finishes_unwritten reads rfl creates
      · apply safe_consumeRow reads creates consumes found
        simp only [Bool.or_eq_true, decide_eq_true_eq, not_or] at stale
        omega

theorem safe_operation (started : Starts steps task) :
    Safe oauthEngine (oauthDiscipline digest steps) task
      (Ends (fun _ => True) fun result here => Answered digest task result here.committed)
      (runOperation sqlite digest task) { committed := store } := by
  unfold runOperation
  split
  · rename_i accountId rawState ttlSeconds now creates
    exact safe_create started creates
  · rename_i rawState now stamp consumes
    exact safe_consume consumes

end Safety

/-! ## Runs -/

section Runs

variable {sqlite : Bool} {digest : String → String} {steps : List OAuthStep}
  {final : OAuthState}

/-- The state that a call is about. -/
def OAuthTask.rawState (task : OAuthTask) : String :=
  match task.operation with
  | .create _ rawState _ _ | .consume rawState _ _ => rawState

/-- The table stays valid, and shows what the calls that have returned have answered. -/
theorem states_of_run (run : OAuthRun sqlite digest steps final) :
    ValidStates digest steps final.world.committed ∧
      ∀ step ∈ steps, ∀ task result, PoolSystem.ended? step = some (task, .ok result) →
        Answered digest task result final.world.committed := by
  have valid : (oauthDiscipline digest steps).valid {} :=
    ⟨nofun, nofun, nofun, List.nodup_nil⟩
  have keeps : KeepsTo oauthEngine (oauthDiscipline digest steps)
      (runOperation sqlite digest) steps :=
    keepsTo_of_allowed (fun _ _ => ⟨trivial, trivial⟩) fun _ _ _ _ _ _ _ => trivial
  have bodies (task : OAuthTask) (started : Starts steps task) (store : OAuthStore)
      (_ : (oauthDiscipline digest steps).valid store) :
      Safe oauthEngine (oauthDiscipline digest steps) task
        (Ends (fun _ => True) fun result here => Answered digest task result here.committed)
        (runOperation sqlite digest task) { committed := store } :=
    safe_operation started
  refine ⟨(sound_of_run valid bodies run keeps).1.valid, ?_⟩
  intro step member task result ended
  obtain ⟨i, found⟩ := List.mem_iff_getElem?.mp member
  obtain ⟨_, answered⟩ := ended_as_promised valid bodies run keeps found ended
  obtain ⟨_, grows⟩ := sound_before valid bodies run keeps found
  exact answered.grows grows

/-- The first creation of a state is the first with its hash. -/
theorem find?_created (valid : ValidStates digest steps final.world.committed)
    (injective : ∀ task other, Starts steps task → Starts steps other →
      digest task.rawState = digest other.rawState → task.rawState = other.rawState)
    {task : OAuthTask} (started : Starts steps task) :
    (final.world.committed.created.map Prod.snd).find?
        (fun creation => creation.rawState = task.rawState) =
      (final.world.committed.created.find? fun entry =>
        entry.1 = digest task.rawState).map Prod.snd := by
  rw [List.find?_map]
  congr 1
  apply List.find?_congr
  intro entry member
  obtain ⟨named, ⟨creator, begun, creates⟩, _⟩ := valid.created entry member
  have raw : entry.2.rawState = creator.rawState := by
    obtain ⟨account, raw, ttl, clock, operation, same⟩ := creates
    rw [same, OAuthTask.rawState, operation]
    rfl
  simp only [Function.comp_apply, decide_eq_decide, named, raw]
  constructor
  · intro same
    rw [same]
  · exact injective creator task begun started

/-- For any interleaving, each state is consumed once, for the account that it was created
for first, by a call that reads the clock before the state expires. -/
theorem single_use (run : OAuthRun sqlite digest steps final)
    (numbered : ((steps.filterMap PoolSystem.started?).map OAuthTask.number).Nodup)
    (injective : ∀ task other, Starts steps task → Starts steps other →
      digest task.rawState = digest other.rawState → task.rawState = other.rawState) :
    SingleUse steps final := by
  obtain ⟨valid, answers⟩ := states_of_run run
  have distinct : (steps.filterMap PoolSystem.started?).Nodup := numbered.of_map _
  have one := PoolSystem.oneThread_of_run run distinct
  have consumed {step : OAuthStep} (member : step ∈ steps) {task : OAuthTask}
      {rawState accountId : String} {now : Int}
      (consumes : Consumes step task rawState accountId now) :
      Starts steps task ∧ task.rawState = rawState ∧ ∃ row,
        final.world.committed.states.find? (digest rawState) = some row ∧
          row.accountId = accountId ∧ now < row.expiresAt ∧
            (digest rawState, task.number) ∈ final.world.committed.consumed := by
    obtain ⟨ended, stamp, operation⟩ := consumes
    refine ⟨starts_iff_mem.mpr (one.ended step member task _ ended), ?_, ?_⟩
    · rw [OAuthTask.rawState, operation]
    · exact (answers step member task _ ended).2 rawState now stamp accountId operation rfl
  refine ⟨?_, ?_, ?_, ?_⟩
  · intro i j first second task other rawState accountId accountId' now now' found found'
      consumes consumes'
    obtain ⟨started, _, row, _, _, _, entry⟩ := consumed (List.mem_of_getElem? found) consumes
    obtain ⟨started', _, row', _, _, _, entry'⟩ :=
      consumed (List.mem_of_getElem? found') consumes'
    have entries := List.inj_on_of_nodup_map valid.once entry entry' rfl
    have number : task.number = other.number := congrArg Prod.snd entries
    have same := List.inj_on_of_nodup_map numbered (starts_iff_mem.mp started)
      (starts_iff_mem.mp started') number
    subst same
    exact PoolSystem.ended_unique run distinct found found' consumes.1 consumes'.1
  · intro step member task rawState accountId now consumes
    obtain ⟨started, raw, row, here, account, fresh, _⟩ := consumed member consumes
    obtain ⟨creation, first, account', expires⟩ := valid.rows _ row here
    have found := find?_created valid injective started
    rw [raw, first] at found
    exact ⟨creation, found, account'.trans account, by rwa [expires]⟩
  · exact fun entry member => (valid.created entry member).2.1
  · intro step member task creation result ended creates
    exact (answers step member task result ended).1 creation creates

end Runs

/-! ## Two callbacks at once -/

section Sample

/-- SHA-256 of the state. -/
def sampleDigest (rawState : String) : String :=
  if rawState = "s1" then
    "e8bc163c82eee18733288c7d4ac636db3a6deb013ef2d37b68322be20edc45cc"
  else rawState

def createTask : OAuthTask :=
  ⟨0, .create "alice" "s1" 600 0⟩

def callbackTask (number : Nat) : OAuthTask :=
  ⟨number, .consume "s1" (seconds 5) (seconds 5)⟩

def statementsOf (thread count : Nat) : List (PoolEvent OAuthTask (BlockChoice Exn) Empty) :=
  List.replicate count (.call thread .executes)

/-- Both callbacks find the state unconsumed. -/
def callbacksAtOnce : List (PoolEvent OAuthTask (BlockChoice Exn) Empty) :=
  [.start 0 createTask] ++ statementsOf 0 2 ++
    [.start 1 (callbackTask 1), .start 2 (callbackTask 2)] ++ statementsOf 1 1 ++
    statementsOf 2 1 ++ statementsOf 1 2 ++ statementsOf 2 2 ++ [.stop 0, .stop 1, .stop 2]

def callbackRun : Option (List OAuthStep × OAuthState) :=
  (oauthEngine.system (runOperation false sampleDigest)).extend []
    { world := { committed := {} } } callbacksAtOnce

theorem callbackRun_isSome : callbackRun.isSome := by
  decide

theorem single_use_sample :
    SingleUse (callbackRun.get callbackRun_isSome).1 (callbackRun.get callbackRun_isSome).2 ∧
      (callbackRun.get callbackRun_isSome).1.filterMap
          (fun step => (PoolSystem.ended? step).map fun ended =>
            (ended.1.number, ended.2.toOption)) =
        [(0, some none), (1, some (some "alice")), (2, some none)] := by
  refine ⟨single_use (PoolSystem.run_of_extend .nil (Option.some_get callbackRun_isSome).symm)
    (by decide) ?_, by decide⟩
  have known : ∀ task ∈ (callbackRun.get callbackRun_isSome).1.filterMap PoolSystem.started?,
      task.rawState = "s1" := by
    decide
  intro task other started started' _
  rw [known task (starts_iff_mem.mp started), known other (starts_iff_mem.mp started')]

end Sample

end OAuthStates

end ContractMate
