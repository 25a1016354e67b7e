import ContractMate.IntakeCalls
import ContractMate.RowWrites

/-!
# Identities of accounts

`provision_verified_user`, `provision_inbound_user` and `bootstrap_super_admin` by several
connections at once.  A login claims an account by an update that checks its subject, and
an insert does nothing when a key of its row is taken, so only the unchecked update of
`bootstrap_super_admin` can replace a subject.
-/

namespace ContractMate

namespace AccountIdentity

open ReadCommitted TransactionBlock PythonText

/-- `user_accounts.source`. -/
inductive AccountSource where
  | signup
  | inboundEmail
  | inboundSlack
deriving DecidableEq, Repr

/-- `user_accounts`. -/
structure AccountRow where
  id : String
  authSubject : Option Text
  email : Text
  displayName : Option String
  role : AccountRole
  state : AccountState
  personalWorkspaceId : Option String
  source : AccountSource
  claimedAt : Option Int
  createdAt : Int
  updatedAt : Int
deriving DecidableEq, Repr

/-- What a call draws by `uuid4`, and `CURRENT_TIMESTAMP` of its transaction. -/
structure Drawn where
  account : String
  workspace : String
  now : Int := 0
deriving DecidableEq, Repr

/-- The three operations with their arguments. -/
inductive AccountRequest where
  | verified (drawn : Drawn) (authSubject email : Text) (displayName : Option String)
  | inbound (drawn : Drawn) (email : Text) (displayName : Option String) (source : String)
  | superAdmin (drawn : Drawn) (email : Text) (authSubject : Option Text)
      (displayName : Option String)
deriving DecidableEq, Repr

/-- The conditions of `_get_in_transaction`. -/
inductive AccountCondition where
  | subject (authSubject : Text)
  | email (email : Text)
  | id (id : String)
deriving DecidableEq, Repr

inductive AccountCall where
  /-- `SELECT ua.* … WHERE … LIMIT 1` -/
  | select (condition : AccountCondition)
  /-- `UPDATE … WHERE id = ? AND (auth_subject IS NULL OR auth_subject = ?)` -/
  | updateClaimed (id : String) (authSubject : Text) (displayName : Option String) (now : Int)
  /-- `UPDATE … SET auth_subject = COALESCE(?, auth_subject) … WHERE id = ?` -/
  | updateSuperAdmin (id : String) (authSubject : Option Text) (displayName : Option String)
      (state : AccountState) (now : Int)
  /-- `INSERT … ON CONFLICT DO NOTHING` -/
  | insert (row : AccountRow)
deriving DecidableEq, Repr

/-- Updates report the number of their rows. -/
def AccountCall.Ret : AccountCall → Type
  | select _ => Option AccountRow
  | updateClaimed _ _ _ _ => Nat
  | updateSuperAdmin _ _ _ _ _ => Unit
  | insert _ => Unit

abbrev AccountBody := Prog AccountCall AccountCall.Ret Exn

abbrev AccountProg := Prog (BlockCall AccountCall) (BlockCall.Reply AccountCall.Ret) Exn

/-- `UserAccountConflictError`. -/
def accountConflict (message : String) : Exn :=
  ⟨.valueError, message⟩

def boundToAnotherEmail : Exn :=
  accountConflict "Verified identity is already bound to another email"

def boundConcurrently : Exn :=
  accountConflict "Account was concurrently bound to another identity"

def personalAccountUsesEmail : Exn :=
  accountConflict "A personal account already uses the super-admin email"

/-! ## The operations -/

section Operations

variable (casefold : Text → Text)

/-- `normalize_email`. -/
def normalizeEmail (email : Text) : Except Exn Text :=
  let normalized := casefold (strip email)
  if normalized = [] || !normalized.contains '@' then
    .error (.valueError "A valid email address is required")
  else .ok normalized

def getInTransaction (condition : AccountCondition) : AccountBody (Option AccountRow) :=
  Prog.perform (AccountCall.select condition)

def updateSuperAdmin (id : String) (authSubject : Option Text) (displayName : Option String)
    (state : AccountState) (now : Int) : AccountBody Unit :=
  Prog.perform (AccountCall.updateSuperAdmin id authSubject displayName state now)

/-- `_insert_account`. -/
def insertAccount (row : AccountRow) : AccountBody Unit :=
  Prog.perform (AccountCall.insert row)

/-- What `_require_by_id` makes of the row that it reads. -/
def requiredAccount : Option AccountRow → AccountBody AccountRow
  | some account => pure account
  | none => Prog.raise (.runtimeError "User account disappeared during transaction")

def requireById (id : String) : AccountBody AccountRow := do
  let account ← getInTransaction (.id id)
  requiredAccount account

/-- `_update_claimed_account`, and the row that it leaves. -/
def claimAccount (id : String) (authSubject : Text) (displayName : Option String)
    (now : Int) : AccountBody AccountRow := do
  let updated : Nat ← Prog.perform (AccountCall.updateClaimed id authSubject displayName now)
  if updated ≠ 1 then Prog.raise boundConcurrently else requireById id

/-- The row of a new personal account. -/
def personalRow (drawn : Drawn) (authSubject : Option Text) (email : Text)
    (displayName : Option String) (source : AccountSource) : AccountRow where
  id := drawn.account
  authSubject := authSubject
  email := email
  displayName := displayName
  role := .user
  state := if authSubject.isSome then .active else .unclaimed
  personalWorkspaceId := some ("user-" ++ drawn.workspace)
  source := source
  claimedAt := if authSubject.isSome then some drawn.now else none
  createdAt := drawn.now
  updatedAt := drawn.now

/-- The row of a new super-admin. -/
def superAdminRow (drawn : Drawn) (authSubject : Option Text) (email : Text)
    (displayName : Option String) : AccountRow where
  id := drawn.account
  authSubject := authSubject
  email := email
  displayName := displayName
  role := .superAdmin
  state := if authSubject.any (· ≠ []) then .active else .unclaimed
  personalWorkspaceId := none
  source := .signup
  claimedAt := if authSubject.isSome then some drawn.now else none
  createdAt := drawn.now
  updatedAt := drawn.now

/-- What `provision_verified_user` makes of the account that it finds after its insert. -/
def enrolledAccount (authSubject email : Text) : Option AccountRow → AccountBody AccountRow
  | some account =>
      if account.authSubject ≠ some authSubject || account.email ≠ email then
        Prog.raise boundConcurrently
      else pure account
  | none => Prog.raise (.runtimeError "Unable to provision verified user account")

/-- The account under the subject, else the one under the email. -/
def enrolledByEmail (authSubject email : Text) : Option AccountRow → AccountBody AccountRow
  | some account => enrolledAccount authSubject email (some account)
  | none => do
      let account ← getInTransaction (.email email)
      enrolledAccount authSubject email account

/-- The end of `provision_verified_user`, for an unknown subject and email. -/
def enrollVerified (drawn : Drawn) (authSubject email : Text) (displayName : Option String) :
    AccountBody AccountRow := do
  let _ ← insertAccount (personalRow drawn (some authSubject) email displayName .signup)
  let account ← getInTransaction (.subject authSubject)
  enrolledByEmail authSubject email account

/-- `provision_verified_user` for an unknown subject. -/
def verifiedByEmail (drawn : Drawn) (authSubject email : Text) (displayName : Option String) :
    Option AccountRow → AccountBody AccountRow
  | some account =>
      if account.authSubject.any (· ≠ authSubject) then
        Prog.raise (accountConflict "Email is already bound to another verified identity")
      else if account.role = .superAdmin then
        Prog.raise (accountConflict "Super-admin accounts must be bound explicitly")
      else claimAccount account.id authSubject displayName drawn.now
  | none => enrollVerified drawn authSubject email displayName

def verifiedBySubject (drawn : Drawn) (authSubject email : Text)
    (displayName : Option String) : Option AccountRow → AccountBody AccountRow
  | some account =>
      if account.email ≠ email then Prog.raise boundToAnotherEmail
      else if account.role = .superAdmin then pure account
      else claimAccount account.id authSubject displayName drawn.now
  | none => do
      let account ← getInTransaction (.email email)
      verifiedByEmail drawn authSubject email displayName account

def verifiedBody (drawn : Drawn) (authSubject email : Text) (displayName : Option String) :
    AccountBody AccountRow := do
  let account ← getInTransaction (.subject authSubject)
  verifiedBySubject drawn authSubject email displayName account

def provisionVerifiedUser (drawn : Drawn) (authSubject email : Text)
    (displayName : Option String) : AccountProg AccountRow :=
  match normalizeEmail casefold email with
  | .error error => Prog.raise error
  | .ok normalized =>
      if isBlank authSubject then Prog.raise (.valueError "auth_subject is required")
      else block (verifiedBody drawn authSubject normalized displayName)

/-- The sources that `provision_inbound_user` accepts. -/
def inboundSource? (source : String) : Option AccountSource :=
  if source = "inbound_email" then some .inboundEmail
  else if source = "inbound_slack" then some .inboundSlack
  else none

/-- What `provision_inbound_user` makes of the account that it finds after its insert. -/
def receivedAccount : Option AccountRow → AccountBody AccountRow
  | some account => pure account
  | none => Prog.raise (.runtimeError "Unable to provision inbound user account")

def enrollInbound (drawn : Drawn) (email : Text) (displayName : Option String)
    (source : AccountSource) : AccountBody AccountRow := do
  let _ ← insertAccount (personalRow drawn none email displayName source)
  let account ← getInTransaction (.email email)
  receivedAccount account

def inboundByEmail (drawn : Drawn) (email : Text) (displayName : Option String)
    (source : AccountSource) : Option AccountRow → AccountBody AccountRow
  | some account =>
      if account.role = .superAdmin then
        Prog.raise (accountConflict "Super-admin email cannot receive personal contracts")
      else pure account
  | none => enrollInbound drawn email displayName source

def inboundBody (drawn : Drawn) (email : Text) (displayName : Option String)
    (source : AccountSource) : AccountBody AccountRow := do
  let account ← getInTransaction (.email email)
  inboundByEmail drawn email displayName source account

def provisionInboundUser (drawn : Drawn) (email : Text) (displayName : Option String)
    (source : String) : AccountProg AccountRow :=
  match inboundSource? source with
  | none => Prog.raise (.valueError "Inbound account source must be email or Slack")
  | some source =>
      match normalizeEmail casefold email with
      | .error error => Prog.raise error
      | .ok normalized => block (inboundBody drawn normalized displayName source)

/-- What `bootstrap_super_admin` makes of the account that it finds after its insert. -/
def bootstrappedAccount (authSubject : Option Text) : Option AccountRow → AccountBody AccountRow
  | some account =>
      if account.role ≠ .superAdmin || account.personalWorkspaceId.isSome then
        Prog.raise personalAccountUsesEmail
      else if authSubject.isSome && account.authSubject ≠ authSubject then
        Prog.raise
          (accountConflict "Super-admin account was concurrently bound to another identity")
      else pure account
  | none => Prog.raise (.runtimeError "Unable to bootstrap super-admin account")

def enrollSuperAdmin (drawn : Drawn) (email : Text) (authSubject : Option Text)
    (displayName : Option String) : AccountBody AccountRow := do
  let _ ← insertAccount (superAdminRow drawn authSubject email displayName)
  let account ← getInTransaction (.email email)
  bootstrappedAccount authSubject account

/-- The update of an existing super-admin. -/
def bindSuperAdmin (drawn : Drawn) (authSubject : Option Text) (displayName : Option String)
    (account : AccountRow) : AccountBody AccountRow := do
  let _ ← updateSuperAdmin account.id authSubject displayName
    (if authSubject.any (· ≠ []) then .active else account.state) drawn.now
  requireById account.id

def superAdminByEmail (drawn : Drawn) (email : Text) (authSubject : Option Text)
    (displayName : Option String) : Option AccountRow → AccountBody AccountRow
  | some account =>
      if account.role ≠ .superAdmin then Prog.raise personalAccountUsesEmail
      else if authSubject.isSome && account.authSubject.isSome &&
          account.authSubject ≠ authSubject then
        Prog.raise (accountConflict "Super-admin email is already bound to another identity")
      else bindSuperAdmin drawn authSubject displayName account
  | none => enrollSuperAdmin drawn email authSubject displayName

/-- `bootstrap_super_admin` from the lookup of the email on. -/
def superAdminRest (drawn : Drawn) (email : Text) (authSubject : Option Text)
    (displayName : Option String) : AccountBody AccountRow := do
  let account ← getInTransaction (.email email)
  superAdminByEmail drawn email authSubject displayName account

def superAdminBySubject (drawn : Drawn) (email : Text) (authSubject : Option Text)
    (displayName : Option String) (bySubject : Option AccountRow) : AccountBody AccountRow :=
  if bySubject.any fun account => account.email ≠ email then Prog.raise boundToAnotherEmail
  else superAdminRest drawn email authSubject displayName

def superAdminBody (drawn : Drawn) (email : Text) (authSubject : Option Text)
    (displayName : Option String) : AccountBody AccountRow :=
  match authSubject with
  | some subject =>
      if subject = [] then superAdminRest drawn email authSubject displayName
      else do
        let account ← getInTransaction (.subject subject)
        superAdminBySubject drawn email authSubject displayName account
  | none => superAdminRest drawn email authSubject displayName

def bootstrapSuperAdmin (drawn : Drawn) (email : Text) (authSubject : Option Text)
    (displayName : Option String) : AccountProg AccountRow :=
  match normalizeEmail casefold email with
  | .error error => Prog.raise error
  | .ok normalized =>
      if authSubject.any isBlank then
        Prog.raise (.valueError "auth_subject cannot be blank")
      else block (superAdminBody drawn normalized authSubject displayName)

def perform : AccountRequest → AccountProg AccountRow
  | .verified drawn authSubject email displayName =>
      provisionVerifiedUser casefold drawn authSubject email displayName
  | .inbound drawn email displayName source =>
      provisionInboundUser casefold drawn email displayName source
  | .superAdmin drawn email authSubject displayName =>
      bootstrapSuperAdmin casefold drawn email authSubject displayName

end Operations

/-! ## The table -/

/-- `user_accounts` by its primary key. -/
abbrev Accounts := RowTable AccountRow.id

/-- The values that no two rows share: `auth_subject`, `lower(email)` and
`personal_workspace_id`. -/
inductive AccountKey where
  | subject (authSubject : Text)
  | email (lowered : Text)
  | workspace (workspaceId : String)
deriving DecidableEq, Repr

inductive AccountLock where
  | row (id : String)
  | key (key : AccountKey)
deriving DecidableEq, Repr

/-- The row of a claim. -/
def AccountRow.claimed (row : AccountRow) (authSubject : Text) (displayName : Option String)
    (now : Int) : AccountRow :=
  { row with
    authSubject := some authSubject
    displayName := displayName.or row.displayName
    state := .active
    claimedAt := row.claimedAt.or (some now)
    updatedAt := now }

/-- The row of a super-admin after `bootstrap_super_admin`. -/
def AccountRow.bootstrapped (row : AccountRow) (authSubject : Option Text)
    (displayName : Option String) (state : AccountState) (now : Int) : AccountRow :=
  { row with
    authSubject := authSubject.or row.authSubject
    displayName := displayName.or row.displayName
    state := state
    claimedAt := if authSubject.isSome then row.claimedAt.or (some now) else row.claimedAt
    updatedAt := now }

def AccountCondition.holds (row : AccountRow) : AccountCondition → Bool
  | .subject authSubject => row.authSubject = some authSubject
  | .email address => row.email = address
  | .id name => row.id = name

section Tables

variable (lower : Text → Text) (store : Accounts)

def AccountRow.keys (row : AccountRow) : List AccountKey :=
  row.authSubject.toList.map .subject ++ [.email (lower row.email)] ++
    row.personalWorkspaceId.toList.map .workspace

/-- The row that a guarded update would leave. -/
def updated? (id : String) (guard : AccountRow → Bool) (change : AccountRow → AccountRow) :
    Option AccountRow :=
  ((store.find? id).filter guard).map change

/-- A row has a key in common with another row. -/
def clashes (row : AccountRow) : Bool :=
  store.rows.any fun other =>
    other.id ≠ row.id && (other.keys lower).any fun key => key ∈ row.keys lower

/-- What an update answers and writes. -/
def writeUpdate {Reply : Type} (reply : Nat → Reply) :
    Option AccountRow → Except Exn (Reply × List AccountRow)
  | none => .ok (reply 0, [])
  | some row =>
      if clashes lower store row then
        .error (Exn.uniqueViolation "user_accounts_auth_subject_key")
      else .ok (reply 1, [row])

/-- An update locks its row and the keys that it adds or drops. -/
def updateLocks : Option AccountRow → List AccountLock
  | none => []
  | some row =>
      let before := ((store.find? row.id).map (AccountRow.keys lower)).getD []
      .row row.id :: ((row.keys lower).filter (· ∉ before) ++
        before.filter (· ∉ row.keys lower)).map .key

def claims (authSubject : Text) (row : AccountRow) : Bool :=
  row.authSubject.all (· = authSubject)

/-- The row that an update would leave. -/
def updateOf : AccountCall → Option AccountRow
  | .updateClaimed id authSubject displayName now =>
      updated? store id (claims authSubject) fun row => row.claimed authSubject displayName now
  | .updateSuperAdmin id authSubject displayName state now =>
      updated? store id (fun _ => true) fun row =>
        row.bootstrapped authSubject displayName state now
  | .select _ | .insert _ => none

/-- A row is inserted when neither its identifier nor a key is taken. -/
def insertable (row : AccountRow) : Bool :=
  (store.find? row.id).isNone && !clashes lower store row

def exec : (request : AccountCall) → Except Exn (request.Ret × List AccountRow)
  | .select condition => .ok (store.rows.find? fun row => condition.holds row, [])
  | .updateClaimed id authSubject displayName now =>
      writeUpdate lower store (fun count => count)
        (updateOf store (.updateClaimed id authSubject displayName now))
  | .updateSuperAdmin id authSubject displayName state now =>
      writeUpdate lower store (fun _ => ())
        (updateOf store (.updateSuperAdmin id authSubject displayName state now))
  | .insert row => .ok ((), if insertable lower store row then [row] else [])

def locks : AccountCall → List AccountLock
  | .insert row =>
      if insertable lower store row then .row row.id :: (row.keys lower).map .key else []
  | request => updateLocks lower store (updateOf store request)

end Tables

def accountEngine (lower : Text → Text) :
    Engine AccountCall AccountCall.Ret Exn Accounts AccountRow AccountLock where
  locks := locks lower
  exec := exec lower
  apply := RowTable.put

/-- Connections on which accounts are provisioned. -/
abbrev accountSystem (casefold lower : Text → Text) :=
  (accountEngine lower).system (perform casefold)

abbrev AccountStep := PoolStep AccountRequest (BlockCall AccountCall)
  (BlockCall.Reply AccountCall.Ret) Exn AccountRow (World Accounts AccountRow AccountLock)
  (BlockChoice Exn) Empty

abbrev AccountsState := PoolState AccountRequest (BlockCall AccountCall)
  (BlockCall.Reply AccountCall.Ret) Exn AccountRow (World Accounts AccountRow AccountLock)

/-- Runs on a table without accounts. -/
abbrev AccountRun (casefold lower : Text → Text) : List AccountStep → AccountsState → Prop :=
  (accountSystem casefold lower).Run { committed := .empty }

/-! ## Stable accounts -/

/-- An account later on: its role, email and workspace are the same, and so is its subject
if it had one. -/
structure Continues (row later : AccountRow) : Prop where
  id : later.id = row.id
  subject : row.authSubject.isSome = true → later.authSubject = row.authSubject
  email : later.email = row.email
  role : later.role = row.role
  workspace : later.personalWorkspaceId = row.personalWorkspaceId

/-- The email and the subject that a call asks for. -/
def AccountRequest.asks (casefold : Text → Text) (account : AccountRow) :
    AccountRequest → Prop
  | .verified _ authSubject address _ =>
      normalizeEmail casefold address = .ok account.email ∧
        account.authSubject = some authSubject
  | .inbound _ address _ _ => normalizeEmail casefold address = .ok account.email
  | .superAdmin _ address authSubject _ =>
      normalizeEmail casefold address = .ok account.email ∧
        (authSubject.isSome = true → account.authSubject = authSubject)

/-- Accounts stay what they are in all states of a run, no two have a subject or an email
in common, and every call that returns returns an account as asked for. -/
structure StableAccounts (casefold lower : Text → Text) (steps : List AccountStep)
    (final : AccountsState) : Prop where
  stable : ∀ step ∈ steps, ∀ row ∈ step.before.world.committed.rows,
    ∃ later ∈ final.world.committed.rows, Continues row later
  subjects : ∀ row ∈ final.world.committed.rows, ∀ other ∈ final.world.committed.rows,
    row.authSubject.isSome = true → row.authSubject = other.authSubject → row = other
  emails : ∀ row ∈ final.world.committed.rows, ∀ other ∈ final.world.committed.rows,
    lower row.email = lower other.email → row = other
  returned : ∀ step ∈ steps, ∀ request account,
    PoolSystem.ended? step = some (request, .ok account) →
      request.asks casefold account ∧
        ∃ later ∈ final.world.committed.rows, Continues account later

/-- A bootstrap that sets a subject meets a row without a subject, or with this one. -/
def BindsOwn (store : Accounts) : AccountCall → Prop
  | .updateSuperAdmin id (some authSubject) _ _ _ =>
      ∀ row ∈ store.find? id, claims authSubject row = true
  | _ => True

instance (store : Accounts) : DecidablePred (BindsOwn store) := by
  intro request
  unfold BindsOwn
  split <;> infer_instance

/-- The same of an answered statement. -/
def MeetsUnbound (lower : Text → Text)
    (answer : PoolAnswer AccountRequest (BlockCall AccountCall)
      (BlockCall.Reply AccountCall.Ret) Exn (World Accounts AccountRow AccountLock)
      (BlockChoice Exn)) : Prop :=
  match answer.request, answer.choice with
  | .statement request, .executes =>
      BindsOwn ((accountEngine lower).view (answer.before.session answer.thread)) request
  | _, _ => True

instance (lower : Text → Text) : DecidablePred (MeetsUnbound lower) := by
  intro answer
  unfold MeetsUnbound
  split <;> infer_instance

/-- The bootstraps of a run overwrite no subject. -/
abbrev OverwritesNone (casefold lower : Text → Text) (steps : List AccountStep) : Prop :=
  ∀ step ∈ steps, ∀ answer ∈ (accountSystem casefold lower).answer? step,
    MeetsUnbound lower answer

theorem Continues.refl (row : AccountRow) : Continues row row :=
  ⟨rfl, fun _ => rfl, rfl, rfl, rfl⟩

theorem Continues.trans {first second third : AccountRow} (earlier : Continues first second)
    (later : Continues second third) : Continues first third where
  id := later.id.trans earlier.id
  subject := by
    intro bound
    have kept := earlier.subject bound
    rw [← kept] at bound ⊢
    exact later.subject bound
  email := later.email.trans earlier.email
  role := later.role.trans earlier.role
  workspace := later.workspace.trans earlier.workspace

theorem Continues.keys {lower : Text → Text} {row later : AccountRow}
    (continues : Continues row later) : row.keys lower ⊆ later.keys lower := by
  intro key member
  simp only [AccountRow.keys, List.mem_append, List.mem_map, Option.mem_toList] at member ⊢
  rw [continues.email, continues.workspace]
  rcases member with (⟨subject, bound, named⟩ | lowered) | workspace
  · have kept := continues.subject (by rw [bound]; rfl)
    exact .inl (.inl ⟨subject, kept.trans bound, named⟩)
  · exact .inl (.inr lowered)
  · exact .inr workspace

/-- A row of the table has the key. -/
def Taken (lower : Text → Text) (store : Accounts) (key : AccountKey) (id : String) : Prop :=
  ∃ row, store.find? id = some row ∧ key ∈ row.keys lower

/-- How the table evolves. -/
def Persists (first second : Accounts) : Prop :=
  ∀ id row, first.find? id = some row →
    ∃ later, second.find? id = some later ∧ Continues row later

/-- A lock on a row guards the row, one on a key the rows that have it. -/
def accountDiscipline (lower : Text → Text) :
    Discipline AccountRequest AccountCall Exn Accounts AccountLock where
  valid store := ∀ key first second, Taken lower store key first →
    Taken lower store key second → first = second
  evolves := Persists
  Part
    | .row _ => Option AccountRow
    | .key _ => String → Prop
  part
    | .row id, store => store.find? id
    | .key key, store => Taken lower store key
  allows _ := BindsOwn
  evolves_refl := fun _ _ row found => ⟨row, found, Continues.refl row⟩
  evolves_trans := by
    intro first second third earlier later id row found
    obtain ⟨middle, found, continues⟩ := earlier id row found
    obtain ⟨last, found, continues'⟩ := later id middle found
    exact ⟨last, found, continues.trans continues'⟩

/-! ## A transaction -/

section Transactions

variable {lower : Text → Text} {request : AccountRequest} {row account : AccountRow}
  {here : Session Accounts AccountRow AccountLock} {store seen : Accounts}

/-- A transaction has written a row, of which each key is the row's already, or is free and
locked. -/
structure Prepared (lower : Text → Text) (row : AccountRow)
    (here : Session Accounts AccountRow AccountLock) : Prop where
  pending : here.pending = [row]
  locked : AccountLock.row row.id ∈ here.held
  continues : ∀ old, here.committed.find? row.id = some old → Continues old row
  keys : ∀ key ∈ row.keys lower, Taken lower here.committed key row.id ∨
    AccountLock.key key ∈ here.held ∧ ∀ id, ¬ Taken lower here.committed key id

/-- A transaction that writes at most one row. -/
def Tidy (lower : Text → Text) (here : Session Accounts AccountRow AccountLock) : Prop :=
  here.pending = [] ∨ ∃ row, Prepared lower row here

theorem Prepared.at_ (prepared : Prepared lower row here)
    (others : Meanwhile (accountDiscipline lower) here store) :
    Prepared lower row (here.at_ store) := by
  have same : store.find? row.id = here.committed.find? row.id :=
    others.untouched (.row row.id) prepared.locked
  refine ⟨prepared.pending, prepared.locked, ?_, ?_⟩
  · intro old found
    exact prepared.continues old (same.symm.trans found)
  · intro key member
    rcases prepared.keys key member with ⟨old, found, named⟩ | ⟨held, free⟩
    · exact .inl ⟨old, same.trans found, named⟩
    · right
      refine ⟨held, ?_⟩
      intro id taken
      have kept : Taken lower store key = Taken lower here.committed key :=
        others.untouched (.key key) held
      have before : Taken lower here.committed key id := kept ▸ taken
      exact free id before

theorem Tidy.at_ (tidy : Tidy lower here)
    (others : Meanwhile (accountDiscipline lower) here store) : Tidy lower (here.at_ store) := by
  rcases tidy with unwritten | ⟨row, prepared⟩
  · exact .inl unwritten
  · exact .inr ⟨row, prepared.at_ others⟩

theorem Prepared.view (prepared : Prepared lower row here) :
    (accountEngine lower).view here = here.committed.put row := by
  simp [Engine.view, prepared.pending, accountEngine]

theorem Prepared.find?_view (prepared : Prepared lower row here) :
    ((accountEngine lower).view here).find? row.id = some row := by
  rw [prepared.view, RowTable.find?_put, if_pos rfl]

/-- What a transaction sees stays what it is while others commit. -/
theorem Tidy.persists (tidy : Tidy lower here)
    (others : Meanwhile (accountDiscipline lower) here store) :
    Persists ((accountEngine lower).view here)
      ((accountEngine lower).view (here.at_ store)) := by
  rcases tidy with unwritten | ⟨row, prepared⟩
  · have unwritten' : (here.at_ store).pending = [] := unwritten
    rw [view_of_unwritten unwritten, view_of_unwritten unwritten']
    exact others.evolves
  · rw [prepared.view, (prepared.at_ others).view]
    intro id old found
    rw [RowTable.find?_put] at found ⊢
    split_ifs at found ⊢ with own
    · cases found
      exact ⟨row, rfl, Continues.refl row⟩
    · exact others.evolves id old found

theorem Prepared.valid_put (prepared : Prepared lower row here)
    (valid : (accountDiscipline lower).valid here.committed) :
    (accountDiscipline lower).valid (here.committed.put row) := by
  -- the row's keys are taken by no other row
  have alone {key : AccountKey} {id : String} (member : key ∈ row.keys lower)
      (taken : Taken lower here.committed key id) : id = row.id := by
    rcases prepared.keys key member with own | ⟨_, free⟩
    · exact valid key id row.id taken own
    · exact absurd taken (free id)
  intro key first second taken taken'
  obtain ⟨old, found, member⟩ := taken
  obtain ⟨old', found', member'⟩ := taken'
  rw [RowTable.find?_put] at found found'
  split_ifs at found found' with same same' same'
  · exact same.symm.trans same'
  · cases found
    exact same.symm.trans (alone member ⟨old', found', member'⟩).symm
  · cases found'
    exact (alone member' ⟨old, found, member⟩).trans same'
  · exact valid key first second ⟨old, found, member⟩ ⟨old', found', member'⟩

theorem Prepared.taken_put (prepared : Prepared lower row here) {key : AccountKey}
    (free : AccountLock.key key ∉ here.held) :
    Taken lower (here.committed.put row) key = Taken lower here.committed key := by
  funext id
  apply propext
  constructor
  · rintro ⟨old, found, member⟩
    rw [RowTable.find?_put] at found
    split_ifs at found with same
    · cases found
      subst same
      rcases prepared.keys key member with own | ⟨held, _⟩
      · exact own
      · exact absurd held free
    · exact ⟨old, found, member⟩
  · rintro ⟨old, found, member⟩
    rw [Taken, RowTable.find?_put]
    by_cases same : row.id = id
    · subst same
      refine ⟨row, if_pos rfl, ?_⟩
      exact (prepared.continues old found).keys member
    · exact ⟨old, (if_neg same).trans found, member⟩

/-- A transaction that writes at most one row may commit. -/
theorem commits_tidy (tidy : Tidy lower here)
    (valid : (accountDiscipline lower).valid here.committed) :
    Commits (accountEngine lower) (accountDiscipline lower) here := by
  rcases tidy with unwritten | ⟨row, prepared⟩
  · exact commits_unwritten unwritten valid
  · refine ⟨?_, ?_, ?_⟩
    · rw [prepared.view]
      exact prepared.valid_put valid
    · rw [prepared.view]
      intro id old found
      rw [RowTable.find?_put]
      split_ifs with same
      · subst same
        exact ⟨row, rfl, prepared.continues old found⟩
      · exact ⟨old, found, Continues.refl old⟩
    · intro lock free
      rw [prepared.view]
      cases lock with
      | row id =>
          refine (RowTable.find?_put _ _ _).trans (if_neg ?_)
          rintro rfl
          exact free prepared.locked
      | key key => exact prepared.taken_put free

/-! ### What the statements write -/

theorem not_mem_keys_of_clashes {id : String} {key : AccountKey}
    (alone : clashes lower store row = false) (different : id ≠ row.id)
    (taken : Taken lower store key id) : key ∉ row.keys lower := by
  obtain ⟨other, found, member⟩ := taken
  intro shared
  have named : other.id = id := RowTable.key_of_find? found
  have clash : clashes lower store row = true := by
    simp only [clashes, List.any_eq_true, Bool.and_eq_true, decide_eq_true_eq]
    exact ⟨other, RowTable.mem_of_find? found, named ▸ different, key, member, shared⟩
  rw [alone] at clash
  cases clash

theorem prepared_of_update {old : AccountRow} (found : store.find? row.id = some old)
    (continues : Continues old row) (alone : clashes lower store row = false) :
    Prepared lower row
      { committed := store, pending := [row], held := updateLocks lower store (some row) } := by
  refine ⟨rfl, by simp [updateLocks], ?_, ?_⟩
  · intro other found'
    rw [found] at found'
    cases found'
    exact continues
  · intro key member
    by_cases before : key ∈ old.keys lower
    · exact .inl ⟨old, found, before⟩
    · right
      constructor
      · simp [updateLocks, found, member, before]
      · intro id taken
        by_cases same : id = row.id
        · subst same
          obtain ⟨other, found', named⟩ := taken
          rw [found] at found'
          cases found'
          exact before named
        · exact not_mem_keys_of_clashes alone same taken member

theorem prepared_of_insert (insertable_ : insertable lower store row = true) :
    Prepared lower row
      { committed := store
        pending := [row]
        held := .row row.id :: (row.keys lower).map .key } := by
  simp only [insertable, Bool.and_eq_true, Option.isNone_iff_eq_none,
    Bool.not_eq_true'] at insertable_
  obtain ⟨absent, alone⟩ := insertable_
  refine ⟨rfl, by simp, ?_, ?_⟩
  · intro old found
    rw [absent] at found
    cases found
  · intro key member
    right
    constructor
    · simp [member]
    · intro id taken
      by_cases same : id = row.id
      · subst same
        obtain ⟨old, found, _⟩ := taken
        rw [absent] at found
        cases found
      · exact not_mem_keys_of_clashes alone same taken member

/-! ### Programs -/

/-- The transaction can be committed, and leaves an account as asked for. -/
structure Delivers (lower : Text → Text) (asked : AccountRow → Prop) (account : AccountRow)
    (here : Session Accounts AccountRow AccountLock) : Prop where
  tidy : Tidy lower here
  asked : asked account
  there : ∃ row, ((accountEngine lower).view here).find? account.id = some row ∧
    Continues account row

/-- From here the program raises or delivers an account that is asked for. -/
abbrev Delivering (lower : Text → Text) (request : AccountRequest)
    (asked : AccountRow → Prop) :=
  Safe (accountEngine lower) (accountDiscipline lower) request
    (Ends (fun _ => True) (Delivers lower asked))

variable {asked : AccountRow → Prop} {next : Option AccountRow → AccountBody AccountRow}

theorem safe_return (tidy : Tidy lower here) (answers : asked account)
    (found : ((accountEngine lower).view here).find? account.id = some account) :
    Delivering lower request asked (.done (.ok account) : AccountProg AccountRow) here := by
  apply safe_pure
  intro store others
  obtain ⟨later, kept, continues⟩ := tidy.persists others account.id account found
  exact ⟨tidy.at_ others, answers, later, kept, continues⟩

/-- `SELECT`, on what the transaction sees by then. -/
theorem safe_select {condition : AccountCondition}
    (continued : ∀ store, Meanwhile (accountDiscipline lower) here store →
      ∀ reply, reply = ((accountEngine lower).view (here.at_ store)).rows.find?
          (fun row => condition.holds row) →
        Delivering lower request asked (statements (next reply))
          (here.at_ store)) :
    Delivering lower request asked
      (statements (getInTransaction condition >>= next)) here := by
  apply safe_statement (fun _ _ => trivial)
  intro store others _
  have unchanged : (here.at_ store).extend [] [] = here.at_ store := by
    simp [Session.extend, Session.at_]
  change Safe _ _ _ _ (statements (next _)) ((here.at_ store).extend [] [])
  rw [unchanged]
  exact continued store others _ rfl

/-- The row that is read. -/
theorem found_of_select {condition : AccountCondition}
    (read : some account = store.rows.find? fun row => condition.holds row) :
    condition.holds account = true ∧ store.find? account.id = some account :=
  ⟨by simpa using List.find?_some read.symm,
    RowTable.find?_of_mem (List.mem_of_find?_eq_some read.symm)⟩

/-- The row that has been written is read back. -/
theorem safe_requireById (prepared : Prepared lower row here) (answers : asked row) :
    Delivering lower request asked (statements (requireById row.id)) here := by
  apply safe_select
  intro store others reply read
  have prepared := prepared.at_ others
  cases reply with
  | none => exact safe_raise trivial
  | some account =>
      obtain ⟨named, found⟩ := found_of_select read
      have named : account.id = row.id := by simpa [AccountCondition.holds] using named
      rw [named, prepared.find?_view] at found
      cases found
      exact safe_return (.inr ⟨row, prepared⟩) answers prepared.find?_view

/-- An update that meets no row, fails, or prepares the row that it writes. -/
theorem safe_update (call : AccountCall) (reply : Nat → call.Ret)
    {next : call.Ret → AccountBody AccountRow}
    (executes : ∀ store, exec lower store call =
      writeUpdate lower store reply (updateOf store call))
    (takes : ∀ store, locks lower store call = updateLocks lower store (updateOf store call))
    (missed : ∀ store, Persists seen store → updateOf store call = none →
      Delivering lower request asked (statements (next (reply 0)))
        { committed := store })
    (written : ∀ store row, Persists seen store → BindsOwn store call →
      updateOf store call = some row →
        (∃ old, store.find? row.id = some old ∧ Continues old row) ∧
        ∀ here, Prepared lower row here →
          Delivering lower request asked (statements (next (reply 1))) here) :
    Delivering lower request asked
      (statements (Prog.perform call >>= next)) { committed := seen } := by
  apply safe_statement (fun _ _ => trivial)
  intro store others allowed
  have view : (accountEngine lower).view (Session.at_ { committed := seen } store) = store := rfl
  have executed : (accountEngine lower).exec store call =
      writeUpdate lower store reply (updateOf store call) := executes store
  have taken : (accountEngine lower).locks store call =
      updateLocks lower store (updateOf store call) := takes store
  rw [view, executed, taken]
  cases update : updateOf store call with
  | none => exact missed store others.evolves update
  | some row =>
      obtain ⟨⟨old, found, continues⟩, continued⟩ :=
        written store row others.evolves allowed update
      simp only [writeUpdate]
      by_cases clash : clashes lower store row = true
      · rw [if_pos clash]
        trivial
      · rw [if_neg clash]
        apply continued
        have prepared := prepared_of_update found continues (by simpa using clash)
        simpa [Session.extend, Session.at_] using prepared

/-- An insert that does nothing, or prepares its row. -/
theorem safe_insertAccount {rest : AccountBody AccountRow}
    (continued : ∀ here, Tidy lower here →
      Delivering lower request asked (statements rest) here) :
    Delivering lower request asked
      (statements (insertAccount row >>= fun _ => rest)) { committed := seen } := by
  apply safe_statement (fun _ _ => trivial)
  intro store others _
  apply continued
  have view : (accountEngine lower).view (Session.at_ { committed := seen } store) = store := rfl
  rw [view]
  by_cases insertable_ : insertable lower store row = true
  · right
    refine ⟨row, ?_⟩
    simp only [accountEngine, locks, if_pos insertable_]
    have prepared := prepared_of_insert insertable_
    simpa [Session.extend, Session.at_] using prepared
  · left
    simp [Session.extend, Session.at_, insertable_]

theorem updated?_eq_some {id : String} {guard : AccountRow → Bool}
    {change : AccountRow → AccountRow} (update : updated? store id guard change = some row) :
    ∃ old, store.find? id = some old ∧ guard old = true ∧ change old = row := by
  obtain ⟨old, found, changed⟩ := Option.map_eq_some_iff.mp update
  obtain ⟨found, guarded⟩ := Option.filter_eq_some_iff.mp found
  exact ⟨old, found, guarded, changed⟩

/-- A claim of an account that has been found. -/
theorem safe_claimAccount {authSubject email : Text} {displayName : Option String} {now : Int}
    (found : seen.find? account.id = some account) (addressed : account.email = email)
    (answers : ∀ account : AccountRow, account.authSubject = some authSubject →
      account.email = email → asked account) :
    Delivering lower request asked
      (statements (claimAccount account.id authSubject displayName now))
      { committed := seen } := by
  apply safe_update (.updateClaimed account.id authSubject displayName now) (fun count => count)
    (fun _ => rfl) (fun _ => rfl)
  · exact fun _ _ _ => safe_raise trivial
  · intro store row persists _ update
    obtain ⟨old, there, claimed, rfl⟩ := updated?_eq_some update
    have named : old.id = account.id := RowTable.key_of_find? there
    obtain ⟨later, there', continues⟩ := persists _ _ found
    rw [there] at there'
    cases there'
    constructor
    · refine ⟨old, ?_, rfl, ?_, rfl, rfl, rfl⟩
      · exact named.symm ▸ there
      · intro bound
        obtain ⟨subject, bound⟩ := Option.isSome_iff_exists.mp bound
        have own : subject = authSubject := by simpa [claims, bound] using claimed
        rw [bound, own]
        rfl
    · intro here prepared
      have same : (old.claimed authSubject displayName now).id = account.id := named
      rw [← same]
      exact safe_requireById prepared (answers _ rfl (continues.email.trans addressed))

/-- The update of a super-admin that has been found. -/
theorem safe_bindSuperAdmin {drawn : Drawn} {authSubject : Option Text} {email : Text}
    {displayName : Option String} (found : seen.find? account.id = some account)
    (addressed : account.email = email)
    (answers : ∀ account : AccountRow,
      (authSubject.isSome = true → account.authSubject = authSubject) →
      account.email = email → asked account) :
    Delivering lower request asked
      (statements (bindSuperAdmin drawn authSubject displayName account))
      { committed := seen } := by
  apply safe_update (.updateSuperAdmin account.id authSubject displayName _ drawn.now)
    (fun _ => ()) (fun _ => rfl) (fun _ => rfl)
  · intro store persists missed
    obtain ⟨later, there, _⟩ := persists _ _ found
    simp [updateOf, updated?, there] at missed
  · intro store row persists binds update
    obtain ⟨old, there, _, rfl⟩ := updated?_eq_some update
    have named : old.id = account.id := RowTable.key_of_find? there
    obtain ⟨later, there', continues⟩ := persists _ _ found
    rw [there] at there'
    cases there'
    constructor
    · refine ⟨old, ?_, rfl, ?_, rfl, rfl, rfl⟩
      · exact named.symm ▸ there
      · intro bound
        cases authSubject with
        | none => rfl
        | some subject =>
            obtain ⟨before, bound⟩ := Option.isSome_iff_exists.mp bound
            have claimed := binds old there
            have own : before = subject := by simpa [claims, bound] using claimed
            rw [bound, own]
            rfl
    · intro here prepared
      rw [← named]
      apply safe_requireById prepared (answers _ _ (continues.email.trans addressed))
      intro given
      obtain ⟨subject, rfl⟩ := Option.isSome_iff_exists.mp given
      rfl

/-! ### The three operations -/

section Bodies

variable {drawn : Drawn} {email : Text} {displayName : Option String}

section Verified

variable {authSubject : Text}

theorem safe_enrolledAccount {condition : AccountCondition} {reply : Option AccountRow}
    (tidy : Tidy lower here)
    (read : reply = ((accountEngine lower).view here).rows.find? fun row => condition.holds row)
    (answers : ∀ account : AccountRow, account.authSubject = some authSubject →
      account.email = email → asked account) :
    Delivering lower request asked
      (statements (enrolledAccount authSubject email reply)) here := by
  cases reply with
  | none => exact safe_raise trivial
  | some account =>
      simp only [enrolledAccount]
      split
      · exact safe_raise trivial
      · rename_i own
        simp only [Bool.or_eq_true, decide_eq_true_eq, not_or, not_not] at own
        exact safe_return tidy (answers account own.1 own.2) (found_of_select read).2

theorem safe_enrollVerified
    (answers : ∀ account : AccountRow, account.authSubject = some authSubject →
      account.email = email → asked account) :
    Delivering lower request asked
      (statements (enrollVerified drawn authSubject email displayName))
      { committed := seen } := by
  apply safe_insertAccount
  intro here tidy
  apply safe_select
  intro store others reply read
  have tidy := tidy.at_ others
  cases reply with
  | some account => exact safe_enrolledAccount tidy read answers
  | none =>
      apply safe_select
      intro later others reply read
      exact safe_enrolledAccount (tidy.at_ others) read answers

theorem safe_verifiedBody
    (answers : ∀ account : AccountRow, account.authSubject = some authSubject →
      account.email = email → asked account) :
    Delivering lower request asked
      (statements (verifiedBody drawn authSubject email displayName))
      { committed := seen } := by
  apply safe_select
  intro store _ bySubject read
  cases bySubject with
  | some account =>
      obtain ⟨bound, found⟩ := found_of_select read
      have bound : account.authSubject = some authSubject := by
        simpa [AccountCondition.holds] using bound
      simp only [verifiedBySubject]
      split
      · exact safe_raise trivial
      · rename_i same
        have addressed : account.email = email := by simpa using same
        split
        · exact safe_return (.inl rfl) (answers account bound addressed) found
        · exact safe_claimAccount found addressed answers
  | none =>
      apply safe_select
      intro later _ byEmail read
      cases byEmail with
      | none => exact safe_enrollVerified answers
      | some account =>
          obtain ⟨addressed, found⟩ := found_of_select read
          have addressed : account.email = email := by
            simpa [AccountCondition.holds] using addressed
          simp only [verifiedByEmail]
          split
          · exact safe_raise trivial
          · split
            · exact safe_raise trivial
            · exact safe_claimAccount found addressed answers

end Verified

theorem safe_inboundBody {source : AccountSource}
    (answers : ∀ account : AccountRow, account.email = email → asked account) :
    Delivering lower request asked
      (statements (inboundBody drawn email displayName source)) { committed := seen } := by
  apply safe_select
  intro store _ existing read
  cases existing with
  | some account =>
      obtain ⟨addressed, found⟩ := found_of_select read
      simp only [inboundByEmail]
      split
      · exact safe_raise trivial
      · exact safe_return (.inl rfl)
          (answers account (by simpa [AccountCondition.holds] using addressed)) found
  | none =>
      apply safe_insertAccount
      intro here tidy
      apply safe_select
      intro store others reply read
      cases reply with
      | none => exact safe_raise trivial
      | some account =>
          obtain ⟨addressed, found⟩ := found_of_select read
          exact safe_return (tidy.at_ others)
            (answers account (by simpa [AccountCondition.holds] using addressed)) found

section SuperAdmin

variable {authSubject : Option Text}

theorem safe_enrollSuperAdmin
    (answers : ∀ account : AccountRow,
      (authSubject.isSome = true → account.authSubject = authSubject) →
      account.email = email → asked account) :
    Delivering lower request asked
      (statements (enrollSuperAdmin drawn email authSubject displayName))
      { committed := seen } := by
  apply safe_insertAccount
  intro here tidy
  apply safe_select
  intro store others reply read
  cases reply with
  | none => exact safe_raise trivial
  | some account =>
      obtain ⟨addressed, found⟩ := found_of_select read
      have addressed : account.email = email := by
        simpa [AccountCondition.holds] using addressed
      simp only [bootstrappedAccount]
      split
      · exact safe_raise trivial
      · split
        · exact safe_raise trivial
        · rename_i own
          simp only [Bool.and_eq_true, decide_eq_true_eq, not_and, not_not] at own
          exact safe_return (tidy.at_ others) (answers account own addressed) found

theorem safe_superAdminRest
    (answers : ∀ account : AccountRow,
      (authSubject.isSome = true → account.authSubject = authSubject) →
      account.email = email → asked account) :
    Delivering lower request asked
      (statements (superAdminRest drawn email authSubject displayName))
      { committed := seen } := by
  apply safe_select
  intro store _ existing read
  cases existing with
  | none => exact safe_enrollSuperAdmin answers
  | some account =>
      obtain ⟨addressed, found⟩ := found_of_select read
      have addressed : account.email = email := by
        simpa [AccountCondition.holds] using addressed
      simp only [superAdminByEmail]
      split
      · exact safe_raise trivial
      · split
        · exact safe_raise trivial
        · exact safe_bindSuperAdmin found addressed answers

theorem safe_superAdminBody
    (answers : ∀ account : AccountRow,
      (authSubject.isSome = true → account.authSubject = authSubject) →
      account.email = email → asked account) :
    Delivering lower request asked
      (statements (superAdminBody drawn email authSubject displayName))
      { committed := seen } := by
  cases authSubject with
  | none => exact safe_superAdminRest answers
  | some subject =>
      simp only [superAdminBody]
      split
      · exact safe_superAdminRest answers
      · apply safe_select
        intro store _ bySubject _
        simp only [superAdminBySubject]
        split
        · exact safe_raise trivial
        · exact safe_superAdminRest answers

end SuperAdmin

end Bodies

/-- An account is in the table. -/
def Recorded (account : AccountRow) (store : Accounts) : Prop :=
  ∃ row, store.find? account.id = some row ∧ Continues account row

/-- A block that delivers an account leaves it in the table. -/
theorem safe_delivering {body : AccountBody AccountRow}
    (safe : Delivering lower request asked (statements body) { committed := seen }) :
    Safe (accountEngine lower) (accountDiscipline lower) request
      (Ends (fun _ => True) fun account here => asked account ∧ Recorded account here.committed)
      (block body) { committed := seen } := by
  apply safe_block (fun _ _ => trivial) (fun _ _ => trivial) safe
  · exact fun account here delivers valid => commits_tidy delivers.tidy valid
  · intro account here store delivers _ _ persists
    obtain ⟨row, found, continues⟩ := delivers.there
    obtain ⟨later, kept, continues'⟩ := persists _ row found
    exact ⟨delivers.asked, later, kept, continues.trans continues'⟩

/-- Every operation delivers what it is asked for. -/
theorem safe_operation (casefold : Text → Text) (request : AccountRequest) :
    Safe (accountEngine lower) (accountDiscipline lower) request
      (Ends (fun _ => True) fun account here =>
        request.asks casefold account ∧ Recorded account here.committed)
      (perform casefold request) { committed := seen } := by
  cases request with
  | verified drawn authSubject email displayName =>
      simp only [perform, provisionVerifiedUser]
      split
      · exact safe_raise trivial
      · rename_i normalized normal
        split
        · exact safe_raise trivial
        · apply safe_delivering
          apply safe_verifiedBody
          rintro account bound rfl
          exact ⟨normal, bound⟩
  | inbound drawn email displayName source =>
      simp only [perform, provisionInboundUser]
      split
      · exact safe_raise trivial
      · split
        · exact safe_raise trivial
        · rename_i normalized normal
          apply safe_delivering
          apply safe_inboundBody
          rintro account rfl
          exact normal
  | superAdmin drawn email authSubject displayName =>
      simp only [perform, bootstrapSuperAdmin]
      split
      · exact safe_raise trivial
      · rename_i normalized normal
        split
        · exact safe_raise trivial
        · apply safe_delivering
          apply safe_superAdminBody
          rintro account bound rfl
          exact ⟨normal, bound⟩

end Transactions

/-! ## Runs -/

section Runs

variable {casefold lower : Text → Text} {steps : List AccountStep} {final : AccountsState}

theorem keepsTo_of_overwritesNone (own : OverwritesNone casefold lower steps) :
    KeepsTo (accountEngine lower) (accountDiscipline lower) (perform casefold) steps := by
  apply keepsTo_of_allowed
  · exact fun _ _ => ⟨trivial, trivial⟩
  · rintro step member ⟨thread, task, request, choice, reply, before, after⟩ answered statement
      rfl rfl
    exact own step member _ answered

/-- While no subject is overwritten, accounts are stable. -/
theorem stable_accounts (run : AccountRun casefold lower steps final)
    (own : OverwritesNone casefold lower steps) : StableAccounts casefold lower steps final := by
  have valid : (accountDiscipline lower).valid .empty := by
    rintro key first second ⟨row, found, _⟩
    cases found
  have keeps := keepsTo_of_overwritesNone own
  have bodies (request : AccountRequest) (_ : Starts steps request) (store : Accounts)
      (_ : (accountDiscipline lower).valid store) :
      Safe (accountEngine lower) (accountDiscipline lower) request
        (Ends (fun _ => True) fun account here =>
          request.asks casefold account ∧ Recorded account here.committed)
        (perform casefold request) { committed := store } :=
    safe_operation casefold request
  have persists {i : Nat} {step : AccountStep} (found : steps[i]? = some step) :
      Persists step.before.world.committed final.world.committed :=
    (sound_before valid bodies run keeps found).2
  have alone := (sound_of_run valid bodies run keeps).1.valid
  -- rows with a key in common have the same identifier
  have same {key : AccountKey} {row other : AccountRow}
      (member : row ∈ final.world.committed.rows) (member' : other ∈ final.world.committed.rows)
      (named : key ∈ row.keys lower) (named' : key ∈ other.keys lower) : row = other := by
    have found := RowTable.find?_of_mem member
    have found' := RowTable.find?_of_mem member'
    have equal := alone key row.id other.id ⟨row, found, named⟩ ⟨other, found', named'⟩
    rw [equal, found'] at found
    exact (Option.some.inj found).symm
  refine ⟨?_, ?_, ?_, ?_⟩
  · intro step member row there
    obtain ⟨i, found⟩ := List.mem_iff_getElem?.mp member
    obtain ⟨later, kept, continues⟩ := persists found row.id row (RowTable.find?_of_mem there)
    exact ⟨later, RowTable.mem_of_find? kept, continues⟩
  · intro row member other member' bound shared
    obtain ⟨subject, bound⟩ := Option.isSome_iff_exists.mp bound
    have named : AccountKey.subject subject ∈ row.keys lower := by
      simp [AccountRow.keys, bound]
    have named' : AccountKey.subject subject ∈ other.keys lower := by
      simp [AccountRow.keys, ← shared, bound]
    exact same member member' named named'
  · intro row member other member' shared
    have named : AccountKey.email (lower row.email) ∈ row.keys lower := by
      simp [AccountRow.keys]
    have named' : AccountKey.email (lower row.email) ∈ other.keys lower := by
      simp [AccountRow.keys, shared]
    exact same member member' named named'
  · intro step member request account ended
    obtain ⟨i, found⟩ := List.mem_iff_getElem?.mp member
    obtain ⟨_, asked, row, there, continues⟩ :=
      ended_as_promised valid bodies run keeps found ended
    obtain ⟨later, kept, continues'⟩ := persists found _ row there
    exact ⟨asked, later, RowTable.mem_of_find? kept, continues.trans continues'⟩

end Runs

/-! ## Two bootstraps -/

section Sample

def adminEmail : Text := "root@samvid.ai".toList

/-- `bootstrap_super_admin` of the administrator, with or without a subject. -/
def bootstrapOf (name : String) (authSubject : Option String) : AccountRequest :=
  .superAdmin ⟨name, name, 0⟩ adminEmail (authSubject.map String.toList) none

/-- The next statements of a connection. -/
def proceeding (thread count : Nat) : List (PoolEvent AccountRequest (BlockChoice Exn) Empty) :=
  List.replicate count (.call thread .executes)

/-- The administrator's account, and then its subject. -/
def oneBootstrap : List (PoolEvent AccountRequest (BlockChoice Exn) Empty) :=
  [.start 0 (bootstrapOf "a" none)] ++ proceeding 0 4 ++
    [.start 1 (bootstrapOf "b" (some "first"))] ++ proceeding 1 5 ++ [.stop 0, .stop 1]

/-- Two bootstraps read the unbound account before either binds it. -/
def twoBootstraps : List (PoolEvent AccountRequest (BlockChoice Exn) Empty) :=
  [.start 0 (bootstrapOf "a" none)] ++ proceeding 0 4 ++
    [.start 1 (bootstrapOf "b" (some "first")), .start 2 (bootstrapOf "c" (some "second"))] ++
    proceeding 1 2 ++ proceeding 2 2 ++ proceeding 1 3 ++ [.stop 1] ++ proceeding 2 3 ++ [.stop 2]

def provisioning (events : List (PoolEvent AccountRequest (BlockChoice Exn) Empty)) :
    Option (List AccountStep × AccountsState) :=
  (accountSystem id id).extend [] { world := { committed := .empty } } events

theorem oneBootstrap_isSome : (provisioning oneBootstrap).isSome := by
  decide

theorem twoBootstraps_isSome : (provisioning twoBootstraps).isSome := by
  decide

theorem stable_after_bootstrap :
    OverwritesNone id id ((provisioning oneBootstrap).get oneBootstrap_isSome).1 ∧
      StableAccounts id id ((provisioning oneBootstrap).get oneBootstrap_isSome).1
        ((provisioning oneBootstrap).get oneBootstrap_isSome).2 :=
  have own : OverwritesNone id id
      ((provisioning oneBootstrap).get oneBootstrap_isSome).1 := by decide
  ⟨own, stable_accounts
    (PoolSystem.run_of_extend .nil (Option.some_get oneBootstrap_isSome).symm) own⟩

/-- Both bootstraps return, and the second has replaced the subject of the first. -/
theorem subject_replaced :
    AccountRun id id ((provisioning twoBootstraps).get twoBootstraps_isSome).1
        ((provisioning twoBootstraps).get twoBootstraps_isSome).2 ∧
      ((provisioning twoBootstraps).get twoBootstraps_isSome).1.filterMap
          (fun step => (PoolSystem.ended? step).map fun ended =>
            ended.2.toOption.bind AccountRow.authSubject) =
        [some "first".toList, some "second".toList] ∧
      ¬ StableAccounts id id ((provisioning twoBootstraps).get twoBootstraps_isSome).1
        ((provisioning twoBootstraps).get twoBootstraps_isSome).2 := by
  refine ⟨PoolSystem.run_of_extend .nil (Option.some_get twoBootstraps_isSome).symm,
    by decide, ?_⟩
  intro accounts
  have bound : ∃ step ∈ ((provisioning twoBootstraps).get twoBootstraps_isSome).1,
      ∃ row ∈ step.before.world.committed.rows, row.authSubject = some "first".toList := by
    decide
  have replaced : ∀ row ∈
      ((provisioning twoBootstraps).get twoBootstraps_isSome).2.world.committed.rows,
        row.authSubject ≠ some "first".toList := by
    decide
  obtain ⟨step, member, row, there, first⟩ := bound
  obtain ⟨later, kept, continues⟩ := accounts.stable step member row there
  exact replaced later kept ((continues.subject (by rw [first]; rfl)).trans first)

end Sample

end AccountIdentity

end ContractMate
