import ContractMate.RowWrites
import ContractMate.SlackTables

/-!
# Owners of Slack installations

`upsert_installation` by several accounts at once.  The owner of a team is looked up by
one statement and the installation is written by another, which updates a row that has
been committed in between, whoever its owner is.
-/

namespace ContractMate

namespace InstallationOwnership

open ReadCommitted TransactionBlock

/-- The arguments of `upsert_installation`, and the identifier it draws. -/
structure InstallationRequest where
  drawn : String
  teamId : String
  teamName : Option String := none
  botUserId : Option String := none
  encryptedBotToken : String
  installedByAccountId : String
deriving DecidableEq, Repr

inductive OwnerCall where
  /-- `SELECT installed_by_account_id … WHERE team_id = ?` -/
  | selectOwner (teamId : String)
  /-- `INSERT … ON CONFLICT(team_id) DO UPDATE` -/
  | insertInstallation (row : SlackInstallationRow)
  /-- `SELECT * … WHERE team_id = ? AND status = 'active'` -/
  | selectActive (teamId : String)
deriving DecidableEq, Repr

def OwnerCall.Ret : OwnerCall → Type
  | selectOwner _ => Option String
  | insertInstallation _ => Unit
  | selectActive _ => Option SlackInstallationRow

abbrev OwnerBody := Prog OwnerCall OwnerCall.Ret Exn

abbrev OwnerProg := Prog (BlockCall OwnerCall) (BlockCall.Reply OwnerCall.Ret) Exn

/-- `SlackInstallationConflictError`. -/
def installationConflict : Exn :=
  ⟨.valueError, "Slack workspace is already connected to another Samvid account"⟩

def InstallationRequest.row (request : InstallationRequest) : SlackInstallationRow where
  id := request.drawn
  teamId := request.teamId
  teamName := request.teamName
  botUserId := request.botUserId
  encryptedBotToken := request.encryptedBotToken
  installedByAccountId := request.installedByAccountId
  status := .active

def selectOwner (teamId : String) : OwnerBody (Option String) :=
  Prog.perform (OwnerCall.selectOwner teamId)

def insertInstallation (row : SlackInstallationRow) : OwnerBody Unit :=
  Prog.perform (OwnerCall.insertInstallation row)

def selectActive (teamId : String) : OwnerBody (Option SlackInstallationRow) :=
  Prog.perform (OwnerCall.selectActive teamId)

/-- The block that checks the owner and writes the installation. -/
def writeInstallation (request : InstallationRequest) : OwnerBody Unit := do
  let existing ← selectOwner request.teamId
  if existing.any fun owner => owner ≠ request.installedByAccountId then
    Prog.raise installationConflict
  else insertInstallation request.row

def getInstallationByTeam (teamId : String) : OwnerProg (Option SlackInstallationRow) :=
  block (selectActive teamId)

/-- What `upsert_installation` makes of the row that it reads back. -/
def savedInstallation : Option SlackInstallationRow → OwnerProg SlackInstallationRow
  | some installation => pure installation
  | none => Prog.raise (.runtimeError "Slack installation could not be saved")

def upsertInstallation (request : InstallationRequest) : OwnerProg SlackInstallationRow := do
  let _ ← block (writeInstallation request)
  let installation ← getInstallationByTeam request.teamId
  savedInstallation installation

/-! ## The table -/

/-- `slack_installations`, where `team_id` is unique; identifiers are drawn by `uuid4`. -/
abbrev Installations := RowTable SlackInstallationRow.teamId

/-- The row that an insert writes: the new one, or the team's with new details. -/
def written (store : Installations) (row : SlackInstallationRow) : SlackInstallationRow :=
  match store.find? row.teamId with
  | none => row
  | some old =>
      { old with
        teamName := row.teamName
        botUserId := row.botUserId
        encryptedBotToken := row.encryptedBotToken
        status := .active }

def ownerEngine :
    Engine OwnerCall OwnerCall.Ret Exn Installations SlackInstallationRow String where
  locks
    | _, .insertInstallation row => [row.teamId]
    | _, _ => []
  exec
    | store, .selectOwner teamId =>
        .ok ((store.find? teamId).map SlackInstallationRow.installedByAccountId, [])
    | store, .insertInstallation row => .ok ((), [written store row])
    | store, .selectActive teamId =>
        .ok ((store.find? teamId).filter fun row => row.status = .active, [])
  apply := RowTable.put

/-- Connections on which accounts install. -/
abbrev ownerSystem := ownerEngine.system upsertInstallation

abbrev OwnerStep := PoolStep InstallationRequest (BlockCall OwnerCall)
  (BlockCall.Reply OwnerCall.Ret) Exn SlackInstallationRow
  (World Installations SlackInstallationRow String) (BlockChoice Exn) Empty

abbrev OwnerState := PoolState InstallationRequest (BlockCall OwnerCall)
  (BlockCall.Reply OwnerCall.Ret) Exn SlackInstallationRow
  (World Installations SlackInstallationRow String)

/-- Runs on a table without installations. -/
abbrev OwnerRun : List OwnerStep → OwnerState → Prop :=
  ownerSystem.Run { committed := .empty }

/-! ## One owner -/

/-- The token of an installation was supplied by a call of its owner. -/
def Supplied (steps : List OwnerStep) (row : SlackInstallationRow) : Prop :=
  ∃ request, Starts steps request ∧ request.teamId = row.teamId ∧
    request.installedByAccountId = row.installedByAccountId ∧
    request.encryptedBotToken = row.encryptedBotToken

/-- The calls that return are those of one account for a team, the others raise the
conflict, unless a statement of theirs fails, and every stored token is its owner's. -/
structure OneOwner (steps : List OwnerStep) (final : OwnerState) : Prop where
  succeeds : ∀ first ∈ steps, ∀ second ∈ steps, ∀ request other installation installation',
    PoolSystem.ended? first = some (request, .ok installation) →
    PoolSystem.ended? second = some (other, .ok installation') →
    request.teamId = other.teamId →
    request.installedByAccountId = other.installedByAccountId
  raises : ∀ step ∈ steps, ∀ request error,
    PoolSystem.ended? step = some (request, .error error) →
    error = installationConflict ∨ Injected steps error
  supplied : ∀ row ∈ final.world.committed.rows, Supplied steps row

/-- An insert that meets a row of its team meets one of its own account's. -/
def MeetsOwn
    (answer : PoolAnswer InstallationRequest (BlockCall OwnerCall)
      (BlockCall.Reply OwnerCall.Ret) Exn (World Installations SlackInstallationRow String)
      (BlockChoice Exn)) : Prop :=
  match answer.request, answer.choice with
  | .statement (.insertInstallation row), .executes =>
      ∀ old ∈ (ownerEngine.view (answer.before.session answer.thread)).find? row.teamId,
        old.installedByAccountId = row.installedByAccountId
  | _, _ => True

instance : DecidablePred MeetsOwn := by
  intro answer
  unfold MeetsOwn
  split <;> infer_instance

abbrev InsertsOwn (steps : List OwnerStep) : Prop :=
  ∀ step ∈ steps, ∀ answer ∈ ownerSystem.answer? step, MeetsOwn answer

/-- What installations keep to in a run. -/
def ownerDiscipline (steps : List OwnerStep) :
    Discipline InstallationRequest OwnerCall Exn Installations String where
  valid store := ∀ teamId row, store.find? teamId = some row →
    row.status = .active ∧ Supplied steps row
  evolves first second := ∀ teamId row, first.find? teamId = some row →
    ∃ later, second.find? teamId = some later ∧
      later.installedByAccountId = row.installedByAccountId
  Part _ := Option SlackInstallationRow
  part teamId store := store.find? teamId
  allows
    | _, store, .insertInstallation row => ∀ old, store.find? row.teamId = some old →
        old.installedByAccountId = row.installedByAccountId
    | _, _, _ => True
  fault := Injected steps
  loses := Injected steps
  evolves_refl := fun _ _ row found => ⟨row, found, rfl⟩
  evolves_trans := by
    intro first second third earlier later teamId row found
    obtain ⟨middle, found, same⟩ := earlier teamId row found
    obtain ⟨last, found, same'⟩ := later teamId middle found
    exact ⟨last, found, same'.trans same⟩

section Safety

variable {steps : List OwnerStep} {request : InstallationRequest}

/-- The conflict, or a failure of the database. -/
def Raised (steps : List OwnerStep) (error : Exn) : Prop :=
  error = installationConflict ∨ Injected steps error

/-- A transaction that has written the installation of a request. -/
structure Written (request : InstallationRequest)
    (here : Session Installations SlackInstallationRow String) : Prop where
  held : here.held = [request.teamId]
  own : ∀ old, here.committed.find? request.teamId = some old →
    old.installedByAccountId = request.installedByAccountId
  pending : ∃ row, here.pending = [row] ∧ row.teamId = request.teamId ∧ row.status = .active ∧
    row.installedByAccountId = request.installedByAccountId ∧
    row.encryptedBotToken = request.encryptedBotToken

/-- The installation of the team is the account's. -/
def Owned (request : InstallationRequest) (store : Installations) : Prop :=
  ∃ row, store.find? request.teamId = some row ∧
    row.installedByAccountId = request.installedByAccountId

/-- A written row is the team's, and has the caller's details. -/
theorem written_details (store : Installations) (row : SlackInstallationRow) :
    (written store row).teamId = row.teamId ∧
      (row.status = .active → (written store row).status = .active) ∧
      (written store row).encryptedBotToken = row.encryptedBotToken ∧
      (written store row).installedByAccountId =
        ((store.find? row.teamId).map SlackInstallationRow.installedByAccountId).getD
          row.installedByAccountId := by
  unfold written
  split
  · rename_i absent
    rw [absent]
    exact ⟨rfl, id, rfl, rfl⟩
  · rename_i old found
    have named : old.teamId = row.teamId := RowTable.key_of_find? found
    rw [found]
    exact ⟨named, fun _ => rfl, rfl, rfl⟩

theorem safe_insert {here : Session Installations SlackInstallationRow String}
    (unwritten : here.pending = []) (unlocked : here.held = []) :
    Safe ownerEngine (ownerDiscipline steps) request
      (Ends (Raised steps) fun _ => Written request)
      (statements (insertInstallation request.row)) here := by
  apply safe_perform
  · exact fun error => Or.inr
  · intro store others allowed later more
    have seen : ownerEngine.view (here.at_ store) = store := by
      simp [Engine.view, Session.at_, unwritten]
    rw [seen] at allowed more ⊢
    obtain ⟨team, active, token, owner⟩ := written_details store request.row
    have locked : request.teamId ∈
        ((here.at_ store).extend [written store request.row] [request.teamId]).held := by
      simp [Session.extend]
    have untouched : later.find? request.teamId = store.find? request.teamId :=
      more.untouched _ locked
    refine ⟨?_, ?_, written store request.row, ?_, team, active rfl, ?_, token⟩
    · simp [Session.at_, Session.extend, ownerEngine, unlocked, InstallationRequest.row]
    · intro old found
      exact allowed old (untouched.symm.trans found)
    · simp [Session.at_, Session.extend, unwritten]
    · rw [owner]
      cases found : store.find? request.row.teamId with
      | none => rfl
      | some old => exact allowed old found

theorem safe_writeInstallation {store : Installations} :
    Safe ownerEngine (ownerDiscipline steps) request
      (Ends (Raised steps) fun _ => Written request)
      (statements (writeInstallation request)) { committed := store } := by
  apply safe_statement
  · exact fun error => Or.inr
  · intro store others _
    simp only [ownerEngine]
    split
    · exact safe_raise (.inl rfl)
    · exact safe_insert rfl rfl

/-- Nobody else may have written the team's installation before the commit. -/
theorem commits_written {here : Session Installations SlackInstallationRow String}
    (started : Starts steps request) (valid : (ownerDiscipline steps).valid here.committed)
    (ended : Written request here) :
    Commits ownerEngine (ownerDiscipline steps) here ∧
      Owned request (ownerEngine.view here) := by
  obtain ⟨held, own, row, pending, team, active, owner, token⟩ := ended
  have view : ownerEngine.view here = here.committed.put row := by
    simp [Engine.view, pending, ownerEngine]
  rw [view]
  refine ⟨⟨?_, ?_, ?_⟩, row, ?_, owner⟩
  · rw [view]
    intro teamId other found
    rw [RowTable.find?_put] at found
    split_ifs at found
    · cases found
      exact ⟨active, request, started, team.symm, owner.symm, token.symm⟩
    · exact valid teamId other found
  · rw [view]
    intro teamId old found
    simp only [RowTable.find?_put]
    split_ifs with same
    · refine ⟨row, rfl, ?_⟩
      rw [← same, team] at found
      rw [owner, own old found]
    · exact ⟨old, found, rfl⟩
  · intro teamId free
    rw [view]
    simp only [ownerDiscipline, RowTable.find?_put]
    rw [if_neg]
    rintro rfl
    simp [held, team] at free
  · rw [RowTable.find?_put, if_pos team]

theorem safe_getInstallationByTeam {store : Installations} (owned : Owned request store) :
    Safe ownerEngine (ownerDiscipline steps) request
      (Ends (Raised steps) fun installation here =>
        installation.isSome = true ∧ Owned request here.committed)
      (getInstallationByTeam request.teamId) { committed := store } := by
  obtain ⟨row, found, owner⟩ := owned
  apply safe_read
  · exact fun error => Or.inr
  · exact fun error => Or.inr
  · intro seen valid evolves
    refine ⟨_, rfl, ?_⟩
    intro later _ evolves'
    obtain ⟨read, here, same⟩ := evolves _ row found
    obtain ⟨last, kept, same'⟩ := evolves' _ read here
    refine ⟨?_, last, kept, (same'.trans same).trans owner⟩
    rw [here, Option.filter_some, if_pos]
    · rfl
    · simp [(valid _ read here).1]

theorem safe_upsertInstallation (started : Starts steps request) {store : Installations} :
    Safe ownerEngine (ownerDiscipline steps) request
      (Ends (Raised steps) fun _ here => Owned request here.committed)
      (upsertInstallation request) { committed := store } := by
  have block : Safe ownerEngine (ownerDiscipline steps) request
      (Ends (Raised steps) fun _ here =>
        ∃ store, here = { committed := store } ∧ Owned request store)
      (block (writeInstallation request)) { committed := store } := by
    apply safe_block _ _ safe_writeInstallation
    · intro _ after ended valid
      exact (commits_written started valid ended).1
    · intro _ after store ended valid _ evolves
      obtain ⟨row, found, owner⟩ := (commits_written started valid ended).2
      obtain ⟨later, kept, same⟩ := evolves _ row found
      exact ⟨store, rfl, later, kept, same.trans owner⟩
    · exact fun error => Or.inr
    · exact fun error => Or.inr
  apply block.bind
  · intro _ after reached
    apply Safe.of_meanwhile
    intro store others
    obtain ⟨_, same, owned⟩ := reached store others
    rw [same]
    apply (safe_getInstallationByTeam owned).bind
    · intro installation later read
      cases installation with
      | none =>
          intro last more
          cases (read last more).1
      | some installation => exact fun last more => (read last more).2
    · exact fun error later may => may
  · exact fun error after may => may

end Safety

/-! ## Runs -/

section Runs

variable {steps : List OwnerStep} {final : OwnerState}

theorem keepsTo_of_insertsOwn (own : InsertsOwn steps) :
    KeepsTo ownerEngine (ownerDiscipline steps) upsertInstallation steps := by
  apply keepsTo_of_allowed
  · exact fun error injected => ⟨injected, injected⟩
  · rintro step member ⟨thread, task, request, choice, reply, before, after⟩ answered statement
      rfl rfl
    have meets := own step member _ answered
    cases statement with
    | insertInstallation row => exact meets
    | selectOwner teamId => trivial
    | selectActive teamId => trivial

/-- While inserts meet only rows of their own account, a team has one owner. -/
theorem one_owner (run : OwnerRun steps final) (own : InsertsOwn steps) :
    OneOwner steps final := by
  have valid : (ownerDiscipline steps).valid .empty := by
    intro teamId row found
    cases found
  have keeps := keepsTo_of_insertsOwn own
  have bodies (request : InstallationRequest) (started : Starts steps request)
      (store : Installations) (_ : (ownerDiscipline steps).valid store) :
      Safe ownerEngine (ownerDiscipline steps) request
        (Ends (Raised steps) fun _ here => Owned request here.committed)
        (upsertInstallation request) { committed := store } :=
    safe_upsertInstallation started
  have owned {step : OwnerStep} {request : InstallationRequest}
      {installation : SlackInstallationRow} (member : step ∈ steps)
      (ended : PoolSystem.ended? step = some (request, .ok installation)) :
      Owned request final.world.committed := by
    obtain ⟨i, found⟩ := List.mem_iff_getElem?.mp member
    obtain ⟨_, row, here, owner⟩ := ended_as_promised valid bodies run keeps found ended
    obtain ⟨_, evolves⟩ := sound_before valid bodies run keeps found
    obtain ⟨later, kept, same⟩ := evolves _ row here
    exact ⟨later, kept, same.trans owner⟩
  refine ⟨?_, ?_, ?_⟩
  · intro first member second member' request other installation installation' ended ended'
      team
    obtain ⟨row, found, owner⟩ := owned member ended
    obtain ⟨row', found', owner'⟩ := owned member' ended'
    rw [team, found'] at found
    cases found
    exact owner.symm.trans owner'
  · intro step member request error ended
    obtain ⟨i, found⟩ := List.mem_iff_getElem?.mp member
    obtain ⟨_, raised⟩ := ended_as_promised valid bodies run keeps found ended
    exact raised
  · intro row member
    have sound := (sound_of_run valid bodies run keeps).1
    have found := RowTable.find?_of_mem member
    exact (sound.valid _ row found).2

end Runs

/-! ## Two first installations -/

section Sample

def aliceRequest : InstallationRequest :=
  { drawn := "i1", teamId := "T1", encryptedBotToken := "alice's", installedByAccountId := "alice" }

def bobRequest : InstallationRequest :=
  { drawn := "i2", teamId := "T1", encryptedBotToken := "bob's", installedByAccountId := "bob" }

/-- Statements of a connection. -/
def executing (thread count : Nat) : List (PoolEvent InstallationRequest (BlockChoice Exn) Empty) :=
  List.replicate count (.call thread .executes)

/-- One installation after the other. -/
def inTurn : List (PoolEvent InstallationRequest (BlockChoice Exn) Empty) :=
  [.start 0 aliceRequest] ++ executing 0 5 ++ [.start 1 bobRequest] ++ executing 1 2 ++
    [.stop 0, .stop 1]

/-- Both look for an owner before either writes. -/
def atOnce : List (PoolEvent InstallationRequest (BlockChoice Exn) Empty) :=
  [.start 0 aliceRequest, .start 1 bobRequest] ++ executing 0 1 ++ executing 1 1 ++
    executing 0 2 ++ executing 1 2 ++ executing 0 2 ++ executing 1 2 ++ [.stop 0, .stop 1]

def installing (events : List (PoolEvent InstallationRequest (BlockChoice Exn) Empty)) :
    Option (List OwnerStep × OwnerState) :=
  ownerSystem.extend [] { world := { committed := .empty } } events

theorem inTurn_isSome : (installing inTurn).isSome := by
  decide

theorem atOnce_isSome : (installing atOnce).isSome := by
  decide

theorem one_owner_in_turn :
    InsertsOwn ((installing inTurn).get inTurn_isSome).1 ∧
      OneOwner ((installing inTurn).get inTurn_isSome).1
        ((installing inTurn).get inTurn_isSome).2 :=
  have own : InsertsOwn ((installing inTurn).get inTurn_isSome).1 := by decide
  ⟨own, one_owner
    (PoolSystem.run_of_extend .nil (Option.some_get inTurn_isSome).symm) own⟩

/-- Two accounts install the same team, and both calls return. -/
theorem two_owners_at_once :
    OwnerRun ((installing atOnce).get atOnce_isSome).1
        ((installing atOnce).get atOnce_isSome).2 ∧
      ((installing atOnce).get atOnce_isSome).1.filterMap
          (fun step => (PoolSystem.ended? step).map fun ended =>
            (ended.1.installedByAccountId, ended.2.toOption.isSome)) =
        [("alice", true), ("bob", true)] ∧
      ((installing atOnce).get atOnce_isSome).2.world.committed.rows.map
          (fun row => (row.installedByAccountId, row.encryptedBotToken)) =
        [("alice", "bob's")] ∧
      ¬ OneOwner ((installing atOnce).get atOnce_isSome).1
        ((installing atOnce).get atOnce_isSome).2 := by
  refine ⟨PoolSystem.run_of_extend .nil (Option.some_get atOnce_isSome).symm,
    by decide, by decide, ?_⟩
  intro one
  have unsupplied : ∀ row ∈ ((installing atOnce).get atOnce_isSome).2.world.committed.rows,
      ∀ request ∈ ((installing atOnce).get atOnce_isSome).1.filterMap PoolSystem.started?,
        request.installedByAccountId = row.installedByAccountId →
          request.encryptedBotToken ≠ row.encryptedBotToken := by
    decide
  have stored : ∃ row, row ∈ ((installing atOnce).get atOnce_isSome).2.world.committed.rows :=
    List.exists_mem_of_ne_nil _ (by decide)
  obtain ⟨row, member⟩ := stored
  obtain ⟨request, started, _, owner, token⟩ := one.supplied row member
  exact unsupplied row member request (starts_iff_mem.mp started) owner token

end Sample

end InstallationOwnership

end ContractMate
