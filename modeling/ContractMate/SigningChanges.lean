import ContractMate.RunHistory
import ContractMate.SigningAtomicity

/-!
# What signing operations commit

However its statements fare, an operation commits nothing, a request with its signers, a
signer, an event, or an event with the flag that it asks for.  What these changes keep
holds after every call.
-/

namespace TransactionBlock

open ReadCommitted (statements)

variable {Call : Type} {Ret : Call → Type} {Err Store Value Context : Type}
  {exec : Exec Call Ret Err Store} {checks : Prog Call Ret Err (Value ⊕ Context)}
  {body : Context → Prog Call Ret Err Unit}
  {tail : Context → Prog (BlockCall Call) (BlockCall.Reply Ret) Err Value}
  {store : Store} {choices rest : List (BlockChoice Err)} {result : Except Err Value}
  {after : BlockState Store}

/-- Statements in front of a program raise and commit nothing, or the program goes on with
the value that they compute. -/
theorem statements_bind_cases {Other : Type} {first : Prog Call Ret Err Other}
    {next : Other → Prog (BlockCall Call) (BlockCall.Reply Ret) Err Value}
    (propagates : first.Propagates)
    (run : (statements first >>= next).spend (respond exec) (.idle store) choices =
      some (result, after, rest)) :
    after.committed = store ∧ (∃ error, result = .error error) ∨
    ∃ value written left, eval exec first store = .ok (value, written) ∧
      (next value).spend (respond exec) { committed := store, working := written } left =
        some (result, after, rest) := by
  change ((statements first).handle _).spend _ _ _ = _ at run
  rw [Prog.spend_handle] at run
  cases inner : (statements first).spend (respond exec) (.idle store) choices with
  | none => simp [inner] at run
  | some reached =>
      obtain ⟨outcome, ⟨committed, working⟩, left⟩ := reached
      obtain rfl : committed = store := committed_of_statements inner
      simp only [inner, Option.bind_some] at run
      rcases statements_cases propagates inner with
        ⟨⟨error, rfl⟩, _⟩ | ⟨value, written, rfl, computed, rfl, _⟩
      · cases run
        exact .inl ⟨rfl, error, rfl⟩
      · exact .inr ⟨value, working, left, computed, run⟩

/-- A block in front of a program raises before its commit, or the program goes on behind
the commit, or the commit takes effect although it raises. -/
theorem block_bind_cases {first : Prog Call Ret Err Unit}
    {next : Unit → Prog (BlockCall Call) (BlockCall.Reply Ret) Err Value}
    (propagates : first.Propagates)
    (run : (block first >>= next).spend (respond exec) (.idle store) choices =
      some (result, after, rest)) :
    after.committed = store ∧ (∃ error, result = .error error) ∨
    ∃ written, eval exec first store = .ok ((), written) ∧
      (after.committed = written ∧ (∃ error, result = .error error) ∨
        ∃ left, (next ()).spend (respond exec) (.idle written) left =
          some (result, after, rest)) := by
  change ((block first).handle _).spend _ _ _ = _ at run
  rw [Prog.spend_handle] at run
  cases inner : (block first).spend (respond exec) (.idle store) choices with
  | none => simp [inner] at run
  | some reached =>
      obtain ⟨outcome, reached, left⟩ := reached
      simp only [inner, Option.bind_some] at run
      rcases block_cases propagates inner with
        ⟨⟨error, rfl⟩, kept, _⟩ | ⟨written, computed, rfl, ⟨rfl, _⟩ | ⟨error, rfl, _⟩⟩
      · cases run
        exact .inl ⟨kept, error, rfl⟩
      · exact .inr ⟨written, computed, .inr ⟨left, run⟩⟩
      · cases run
        exact .inr ⟨written, computed, .inl ⟨rfl, error, rfl⟩⟩

/-- What a staged program commits: nothing, or what its block has written and what follows
it. -/
theorem committed_of_staged
    (reads : ∀ value written, eval exec checks store = .ok (value, written) →
      written = store)
    (checksPropagate : checks.Propagates) (bodyPropagates : ∀ context, (body context).Propagates)
    (run : (staged checks body tail).spend (respond exec) (.idle store) choices =
      some (result, after, rest)) :
    after.committed = store ∨
    ∃ context written, Admits exec checks body store context written ∧
      (after.committed = written ∧ (∃ error, result = .error error) ∨
        ∃ left, (tail context).spend (respond exec) (.idle written) left =
          some (result, after, rest)) := by
  change ((opening checks body).handle _).spend _ _ _ = _ at run
  rw [Prog.spend_handle] at run
  cases inner : (opening checks body).spend (respond exec) (.idle store) choices with
  | none => simp [inner] at run
  | some reached =>
      obtain ⟨outcome, reached, left⟩ := reached
      simp only [inner, Option.bind_some] at run
      cases opened_of_run reads checksPropagate bodyPropagates inner with
      | stayed kept short failing =>
          left
          rcases outcome with failure | value | context
          · cases run
            exact kept
          · cases run
            exact kept
          · exact absurd rfl (short context)
      | @lost context written failure _ admits spent =>
          cases run
          exact .inr ⟨context, written, admits, .inl ⟨rfl, failure, rfl⟩⟩
      | @passed context written _ admits spent =>
          exact .inr ⟨context, written, admits, .inr ⟨left, run⟩⟩

end TransactionBlock

namespace ContractMate

namespace SigningRequests

open TransactionBlock PythonText
open ReadCommitted (statements)

/-- A signer of a request with its first event, or an audit row. -/
inductive Growth (rules : TextRules) (requestId : String) (tables : SigningTables) :
    SigningTables → Prop
  | signer {row : SignerRow} {event : StatusEventRow} {signers : RowTable SignerRow.id}
      {events : RowTable StatusEventRow.id}
      (owned : row.signingRequestId = requestId)
      (free : tables.taken rules requestId row.email = false)
      (about : event.signerId = row.id) (pending : event.status = SignerStatus.pending.value)
      (inserted : tables.signers.insert? row = some signers)
      (started : tables.events.insert? event = some events) :
      Growth rules requestId tables { tables with signers := signers, events := events }
  | audit {row : SigningAuditRow} {audits : RowTable SigningAuditRow.id}
      (inserted : tables.audits.insert? row = some audits) :
      Growth rules requestId tables { tables with audits := audits }

abbrev Grows (rules : TextRules) (requestId : String) : SigningTables → SigningTables → Prop :=
  Relation.ReflTransGen (Growth rules requestId)

/-- The tables with the flag that the status of a request asks for. -/
def SigningTables.synced (tables : SigningTables) (now : Int) (request : SigningRequestOut) :
    SigningTables :=
  if request.active = !request.status.terminal then tables
  else tables.withFlag request.id (!request.status.terminal) now

/-- What a call commits when it ends with a result. -/
inductive Commits (rules : TextRules) (draws : Draws) (tables : SigningTables) :
    SigningCall → Except SigningExn SigningRequestOut → SigningTables → Prop
  | nothing {call : SigningCall} {result : Except SigningExn SigningRequestOut} :
      Commits rules draws tables call result tables
  /-- a request for the current version of its contract, and its signers -/
  | created {workspaceId contractId : String} {signers : List SignerCreate} {actor : Actor}
      {result : Except SigningExn SigningRequestOut} {contract : SigningContractRow}
      {requests : RowTable SigningRequestRow.id} {after : SigningTables}
      (found : tables.contract? workspaceId contractId = some contract)
      (versioned : contract.currentVersionId.getD "" ≠ "")
      (free : tables.occupied contractId (draws.uuid4 0) = false)
      (inserted : tables.requests.insert?
        (newRequest draws workspaceId contractId actor contract) = some requests)
      (grows : Grows rules (draws.uuid4 0) { tables with requests := requests } after) :
      Commits rules draws tables (.createRequest workspaceId contractId signers actor) result
        after
  /-- a signer of an open request -/
  | added {workspaceId requestId : String} {signer : SignerCreate} {actor : Actor}
      {result : Except SigningExn SigningRequestOut} {request : SigningRequestOut}
      {after : SigningTables}
      (read : tables.read rules workspaceId requestId = .ok (some request))
      (opened : request.status.terminal = false) (grows : Grows rules requestId tables after) :
      Commits rules draws tables (.addSigner workspaceId requestId signer actor) result after
  /-- an event, and nothing that follows it -/
  | appended {workspaceId signerId : String} {payload : SignerStatusEventCreate} {actor : Actor}
      {result : Except SigningExn SigningRequestOut} {signer : SignerRequest}
      {events : RowTable StatusEventRow.id} {audits : RowTable SigningAuditRow.id}
      {row : SigningAuditRow}
      (found : tables.signerRequest? workspaceId signerId = some signer)
      (moved : tables.repeated rules signerId payload = false)
      (inserted : tables.events.insert? (eventRow draws signerId payload actor) = some events)
      (audited : tables.audits.insert? row = some audits)
      (raised : ∃ error, result = .error error) :
      Commits rules draws tables (.appendEvent workspaceId signerId payload actor) result
        { tables with events := events, audits := audits }
  /-- an event and the flag of its request -/
  | settled {workspaceId signerId : String} {payload : SignerStatusEventCreate} {actor : Actor}
      {result : Except SigningExn SigningRequestOut} {signer : SignerRequest}
      {events : RowTable StatusEventRow.id} {audits : RowTable SigningAuditRow.id}
      {row : SigningAuditRow} {request : SigningRequestOut}
      (found : tables.signerRequest? workspaceId signerId = some signer)
      (moved : tables.repeated rules signerId payload = false)
      (inserted : tables.events.insert? (eventRow draws signerId payload actor) = some events)
      (audited : tables.audits.insert? row = some audits)
      (read : SigningTables.read rules { tables with events := events, audits := audits }
        workspaceId signer.requestId = .ok (some request))
      (free : request.active ≠ !request.status.terminal → request.status.terminal = false →
        tables.occupied request.contractId request.id = false) :
      Commits rules draws tables (.appendEvent workspaceId signerId payload actor) result
        (SigningTables.synced { tables with events := events, audits := audits } draws.now
          request)

/-- What holds of the tables in every state. -/
structure Sound (rules : TextRules) (tables : SigningTables) : Prop where
  /-- a request is closed exactly when it is not active -/
  closed : ∀ row ∈ tables.requests.rows, row.closedAt = none ↔ row.active = true
  /-- a contract has one active request -/
  exclusive : ∀ first ∈ tables.requests.rows, ∀ second ∈ tables.requests.rows,
    first.active = true → second.active = true → first.contractId = second.contractId →
      first.id = second.id
  /-- a request is pinned to a version of a contract in its workspace -/
  pinned : ∀ row ∈ tables.requests.rows, ∃ contract ∈ tables.contracts.rows,
    contract.id = row.contractId ∧ contract.workspaceId = row.workspaceId ∧
      contract.currentVersionId = some row.contractVersionId
  owned : ∀ signer ∈ tables.signers.rows, ∃ row ∈ tables.requests.rows,
    row.id = signer.signingRequestId
  /-- a request has one signer of an address -/
  unique : ∀ first ∈ tables.signers.rows, ∀ second ∈ tables.signers.rows,
    first.signingRequestId = second.signingRequestId →
      rules.sqlLower first.email = rules.sqlLower second.email → first.id = second.id
  /-- a signer has been pending -/
  started : ∀ signer ∈ tables.signers.rows, ∃ event ∈ tables.events.rows,
    event.signerId = signer.id ∧ event.status = SignerStatus.pending.value
  about : ∀ event ∈ tables.events.rows,
    (∃ signer ∈ tables.signers.rows, signer.id = event.signerId) ∧
      ∃ status : SignerStatus, event.status = status.value

section Preservation

variable {rules : TextRules} {tables after : SigningTables}

/-- The rows behind an insert, and the key that was free. -/
theorem rows_of_inserted {Row : Type} {key : Row → String} {table inserted : RowTable key}
    {row : Row} (success : table.insert? row = some inserted) :
    inserted.rows = table.rows ++ [row] ∧ ∀ other ∈ table.rows, key other ≠ key row := by
  have rows := RowTable.rows_of_insert? success
  refine ⟨rows, ?_⟩
  intro other member same
  have distinct := inserted.keys_nodup
  rw [rows, List.map_append, List.nodup_append] at distinct
  exact distinct.2.2 (key other) (List.mem_map_of_mem member) (key row) (by simp) same

theorem mem_inserted {Row : Type} {key : Row → String} {table inserted : RowTable key}
    {row other : Row} (success : table.insert? row = some inserted) :
    other ∈ inserted.rows ↔ other ∈ table.rows ∨ other = row := by
  rw [(rows_of_inserted success).1]
  simp

variable {row : SigningRequestRow} {requestId : String} {active : Bool} {now : Int}

theorem not_occupied {contractId requestId : String}
    (free : tables.occupied contractId requestId = false)
    (member : row ∈ tables.requests.rows) (different : row.id ≠ requestId)
    (active : row.active = true) : row.contractId ≠ contractId := by
  intro same
  have found : tables.occupied contractId requestId = true := by
    rw [SigningTables.occupied, List.any_eq_true]
    exact ⟨row, member, by simp [different, active, same]⟩
  rw [found] at free
  cases free

theorem not_taken {email : Text}
    (free : tables.taken rules requestId email = false) {signer : SignerRow}
    (member : signer ∈ tables.signers.rows) (same : signer.signingRequestId = requestId) :
    rules.sqlLower signer.email ≠ rules.sqlLower email := by
  intro equal
  have found : tables.taken rules requestId email = true := by
    rw [SigningTables.taken, List.any_eq_true]
    exact ⟨signer, member, by simp [same, equal]⟩
  rw [found] at free
  cases free

/-- A row under a flag that was set: its own, and what it was before. -/
theorem mem_withFlag :
    row ∈ (tables.withFlag requestId active now).requests.rows ↔
      ∃ old ∈ tables.requests.rows, row =
        if old.id = requestId then (SigningTables.setActive active now).apply old else old := by
  simp only [SigningTables.withFlag, RowTable.updateWhere, List.mem_map, decide_eq_true_eq]
  constructor <;> rintro ⟨old, member, same⟩ <;> exact ⟨old, member, same.symm⟩

/-- What a flag leaves of a row. -/
theorem flagged_fields {row old : SigningRequestRow}
    (same : row = if old.id = requestId then (SigningTables.setActive active now).apply old
      else old) :
    row.id = old.id ∧ row.workspaceId = old.workspaceId ∧ row.contractId = old.contractId ∧
      row.contractVersionId = old.contractVersionId := by
  subst same
  split_ifs <;> exact ⟨rfl, rfl, rfl, rfl⟩

theorem sound_request {requests : RowTable SigningRequestRow.id}
    (pinned : ∃ contract ∈ tables.contracts.rows, contract.id = row.contractId ∧
      contract.workspaceId = row.workspaceId ∧
      contract.currentVersionId = some row.contractVersionId)
    (opened : row.active = true ∧ row.closedAt = none)
    (free : tables.occupied row.contractId row.id = false)
    (inserted : tables.requests.insert? row = some requests) (sound : Sound rules tables) :
    Sound rules { tables with requests := requests } where
  closed other member := by
    rcases (mem_inserted inserted).mp member with old | rfl
    · exact sound.closed other old
    · simp [opened]
  exclusive first member second member' active active' same := by
    have fresh := (rows_of_inserted inserted).2
    rcases (mem_inserted inserted).mp member with old | rfl <;>
      rcases (mem_inserted inserted).mp member' with old' | rfl
    · exact sound.exclusive first old second old' active active' same
    · exact absurd same (not_occupied free old (fresh first old) active)
    · exact absurd same.symm (not_occupied free old' (fresh second old') active')
    · rfl
  pinned other member := by
    rcases (mem_inserted inserted).mp member with old | rfl
    · exact sound.pinned other old
    · exact pinned
  owned signer member := by
    obtain ⟨request, old, same⟩ := sound.owned signer member
    exact ⟨request, (mem_inserted inserted).mpr (.inl old), same⟩
  unique := sound.unique
  started := sound.started
  about := sound.about

theorem sound_signer {row : SignerRow} {event : StatusEventRow} {signers : RowTable SignerRow.id}
    {events : RowTable StatusEventRow.id}
    (owned : ∃ request ∈ tables.requests.rows, request.id = row.signingRequestId)
    (free : tables.taken rules row.signingRequestId row.email = false)
    (about : event.signerId = row.id) (pending : event.status = SignerStatus.pending.value)
    (inserted : tables.signers.insert? row = some signers)
    (started : tables.events.insert? event = some events) (sound : Sound rules tables) :
    Sound rules { tables with signers := signers, events := events } where
  closed := sound.closed
  exclusive := sound.exclusive
  pinned := sound.pinned
  owned signer member := by
    rcases (mem_inserted inserted).mp member with old | rfl
    · exact sound.owned signer old
    · exact owned
  unique first member second member' same equal := by
    rcases (mem_inserted inserted).mp member with old | rfl <;>
      rcases (mem_inserted inserted).mp member' with old' | rfl
    · exact sound.unique first old second old' same equal
    · exact absurd equal (not_taken free old same)
    · exact absurd equal.symm (not_taken free old' same.symm)
    · rfl
  started signer member := by
    rcases (mem_inserted inserted).mp member with old | rfl
    · obtain ⟨first, there, facts⟩ := sound.started signer old
      exact ⟨first, (mem_inserted started).mpr (.inl there), facts⟩
    · exact ⟨event, (mem_inserted started).mpr (.inr rfl), about, pending⟩
  about other member := by
    rcases (mem_inserted started).mp member with old | rfl
    · obtain ⟨⟨signer, there, same⟩, valid⟩ := sound.about other old
      exact ⟨⟨signer, (mem_inserted inserted).mpr (.inl there), same⟩, valid⟩
    · exact ⟨⟨row, (mem_inserted inserted).mpr (.inr rfl), about.symm⟩, _, pending⟩

theorem sound_flag
    (free : active = true → ∀ row ∈ tables.requests.rows, row.id = requestId →
      tables.occupied row.contractId requestId = false) (sound : Sound rules tables) :
    Sound rules (tables.withFlag requestId active now) where
  closed row member := by
    obtain ⟨old, there, same⟩ := mem_withFlag.mp member
    split_ifs at same with own
    · subst same
      cases active <;> simp [SigningTables.setActive]
    · subst same
      exact sound.closed row there
  exclusive first member second member' set set' same := by
    obtain ⟨old, there, rfl⟩ := mem_withFlag.mp member
    obtain ⟨old', there', rfl⟩ := mem_withFlag.mp member'
    split_ifs at set set' same ⊢ with own own' own'
    · exact own.trans own'.symm
    · have rival := free set old there own
      exact absurd same.symm (not_occupied rival there' own' set')
    · have rival := free set' old' there' own'
      exact absurd same (not_occupied rival there own set)
    · exact sound.exclusive old there old' there' set set' same
  pinned row member := by
    obtain ⟨old, there, same⟩ := mem_withFlag.mp member
    obtain ⟨_, workspace, contract, version⟩ := flagged_fields same
    rw [workspace, contract, version]
    exact sound.pinned old there
  owned signer member := by
    obtain ⟨old, there, same⟩ := sound.owned signer member
    refine ⟨_, mem_withFlag.mpr ⟨old, there, rfl⟩, ?_⟩
    rw [(flagged_fields rfl).1]
    exact same
  unique := sound.unique
  started := sound.started
  about := sound.about

theorem sound_event {row : StatusEventRow} {events : RowTable StatusEventRow.id}
    (about : ∃ signer ∈ tables.signers.rows, signer.id = row.signerId)
    (valid : ∃ status : SignerStatus, row.status = status.value)
    (inserted : tables.events.insert? row = some events)
    {audits : RowTable SigningAuditRow.id} (sound : Sound rules tables) :
    Sound rules { tables with events := events, audits := audits } where
  closed := sound.closed
  exclusive := sound.exclusive
  pinned := sound.pinned
  owned := sound.owned
  unique := sound.unique
  started signer member := by
    obtain ⟨first, there, facts⟩ := sound.started signer member
    exact ⟨first, (mem_inserted inserted).mpr (.inl there), facts⟩
  about other member := by
    rcases (mem_inserted inserted).mp member with old | rfl
    · exact sound.about other old
    · exact ⟨about, valid⟩

/-- Growth keeps the requests, and so one that there is. -/
theorem Growth.requests (growth : Growth rules requestId tables after) :
    after.requests = tables.requests := by
  cases growth <;> rfl

theorem Growth.sound (growth : Growth rules requestId tables after)
    (owned : ∃ row ∈ tables.requests.rows, row.id = requestId) (sound : Sound rules tables) :
    Sound rules after := by
  cases growth with
  | signer own free about pending inserted started =>
      subst own
      exact sound_signer owned free about pending inserted started sound
  | audit inserted => exact { sound with }

theorem Grows.requests (grows : Grows rules requestId tables after) :
    after.requests = tables.requests := by
  induction grows with
  | refl => rfl
  | tail _ growth induction => exact growth.requests.trans induction

theorem Grows.sound (grows : Grows rules requestId tables after)
    (owned : ∃ row ∈ tables.requests.rows, row.id = requestId) (sound : Sound rules tables) :
    Sound rules after := by
  induction grows with
  | refl => exact sound
  | tail earlier growth induction =>
      rw [← Grows.requests earlier] at owned
      exact growth.sound owned induction

end Preservation

/-! ## What the blocks write -/

section Blocks

variable {rules : TextRules} {draws : Draws} {tables written : SigningTables}
  {workspaceId contractId requestId signerId : String} {actor : Actor} {signer : SignerCreate}
  {displayOrder : Int} {position : Nat}

theorem grows_recordAudit {eventType : String} {metadata : List (String × Json)}
    (computed : eval (SigningTables.exec rules) (recordAudit draws position workspaceId contractId
      actor eventType metadata) tables = .ok ((), written)) :
    Grows rules requestId tables written := by
  have executed : SigningTables.exec rules tables (.insertAudit (auditRow draws position
      workspaceId contractId actor eventType metadata)) = .ok ((), written) :=
    (eval_single _ _).symm.trans computed
  obtain ⟨audits, inserted, rfl⟩ := inserted_ok executed
  exact .single (.audit inserted)

theorem grows_insertSigner {drawn : String}
    (computed : eval (SigningTables.exec rules) (insertSigner rules draws position requestId
      signer displayOrder actor) tables = .ok (drawn, written)) :
    Grows rules requestId tables written := by
  rw [insertSigner, execute, eval_bind, eval_guarded] at computed
  cases first : SigningTables.exec rules tables
      (.insertSigner (newSigner draws position requestId signer displayOrder)) with
  | error error =>
      simp only [first] at computed
      cases computed
  | ok reply =>
      obtain ⟨_, middle⟩ := reply
      simp only [first, execute, eval_bind, eval_single] at computed
      cases second : SigningTables.exec rules middle
          (.insertEvent (signerAdded draws position actor)) with
      | error error =>
          simp only [second] at computed
          cases computed
      | ok reply =>
          obtain ⟨_, last⟩ := reply
          simp only [second, eval_pure, Except.ok.injEq, Prod.mk.injEq] at computed
          obtain ⟨_, rfl⟩ := computed
          have free : tables.taken rules requestId signer.email = false := by
            cases taken : tables.taken rules requestId signer.email with
            | false => rfl
            | true =>
                have refused : SigningTables.exec rules tables (.insertSigner
                    (newSigner draws position requestId signer displayOrder)) =
                    .error (.unique "ux_signers_request_email") := if_pos taken
                rw [refused] at first
                cases first
          obtain ⟨signers, inserted, rfl⟩ := guarded_ok first
          obtain ⟨events, started, rfl⟩ := inserted_ok second
          exact .single (.signer rfl free rfl rfl inserted started)

theorem grows_insertSigners {signers : List SignerCreate} {index : Nat}
    (computed : eval (SigningTables.exec rules) (insertSigners rules draws workspaceId contractId
      requestId actor signers index) tables = .ok ((), written)) :
    Grows rules requestId tables written := by
  induction signers generalizing tables index with
  | nil =>
      cases computed
      exact .refl
  | cons signer signers induction =>
      rw [insertSigners, eval_bind] at computed
      cases first : eval (SigningTables.exec rules) (insertSigner rules draws (3 * index + 1)
          requestId signer ((signer.displayOrder.getD index : Nat) : Int) actor) tables with
      | error error =>
          simp only [first] at computed
          cases computed
      | ok reply =>
          obtain ⟨drawn, joined⟩ := reply
          simp only [first, eval_bind] at computed
          cases second : eval (SigningTables.exec rules) (recordSigner draws (3 * index + 3)
              workspaceId contractId requestId signer actor) joined with
          | error error =>
              simp only [second] at computed
              cases computed
          | ok reply =>
              obtain ⟨_, audited⟩ := reply
              simp only [second] at computed
              exact (grows_insertSigner first).trans
                ((grows_recordAudit second).trans (induction computed))

/-- The block of `create_request`. -/
theorem writeRequest_writes {signers : List SignerCreate} {contract : SigningContractRow}
    (computed : eval (SigningTables.exec rules) (writeRequest rules draws workspaceId contractId
      signers actor contract) tables = .ok ((), written)) :
    tables.occupied contractId (draws.uuid4 0) = false ∧
      ∃ requests, tables.requests.insert?
          (newRequest draws workspaceId contractId actor contract) = some requests ∧
        Grows rules (draws.uuid4 0) { tables with requests := requests } written := by
  let row := newRequest draws workspaceId contractId actor contract
  rw [writeRequest, execute, eval_bind] at computed
  cases first : eval (SigningTables.exec rules) (Prog.perform (.insertRequest row)) tables with
  | error error =>
      simp only [row, first] at computed
      cases computed
  | ok reply =>
      obtain ⟨_, created⟩ := reply
      simp only [row, first, eval_bind] at computed
      cases second : eval (SigningTables.exec rules) (insertSigners rules draws workspaceId
          contractId (draws.uuid4 0) actor signers 0) created with
      | error error =>
          simp only [second] at computed
          cases computed
      | ok reply =>
          obtain ⟨_, joined⟩ := reply
          simp only [second] at computed
          have executed : SigningTables.exec rules tables (.insertRequest row) =
              .ok ((), created) := (eval_single _ _).symm.trans first
          have free : tables.occupied contractId (draws.uuid4 0) = false := by
            cases occupied : tables.occupied contractId (draws.uuid4 0) with
            | false => rfl
            | true =>
                have refused : SigningTables.exec rules tables (.insertRequest row) =
                    .error (.unique "ux_signing_requests_active_contract") :=
                  if_pos occupied
                rw [refused] at executed
                cases executed
          obtain ⟨requests, inserted, rfl⟩ := guarded_ok executed
          exact ⟨free, requests, inserted,
            (grows_insertSigners second).trans (grows_recordAudit computed)⟩

/-- The block of `add_signer`. -/
theorem grows_writeSigner {context : SigningRequestOut × Int}
    (computed : eval (SigningTables.exec rules) (writeSigner rules draws workspaceId requestId
      signer actor context) tables = .ok ((), written)) :
    Grows rules requestId tables written := by
  rw [writeSigner, eval_bind] at computed
  cases first : eval (SigningTables.exec rules) ((insertSigner rules draws 0 requestId signer
      context.2 actor).tryExcept (duplicateConflict rules)) tables with
  | error error =>
      simp only [first] at computed
      cases computed
  | ok reply =>
      obtain ⟨drawn, joined⟩ := reply
      simp only [first] at computed
      have inserted := (eval_tryExcept_iff (raises_duplicateConflict rules)).mp first
      exact (grows_insertSigner inserted).trans (grows_recordAudit computed)

/-- The block of `append_event`. -/
theorem writeEvent_writes {payload : SignerStatusEventCreate} {signer : SignerRequest}
    (computed : eval (SigningTables.exec rules) (writeEvent draws workspaceId signerId payload
      actor signer) tables = .ok ((), written)) :
    ∃ events row audits,
      tables.events.insert? (eventRow draws signerId payload actor) = some events ∧
        tables.audits.insert? row = some audits ∧
        written = { tables with events := events, audits := audits } := by
  rw [writeEvent, execute, eval_bind] at computed
  cases first : eval (SigningTables.exec rules)
      (Prog.perform (.insertEvent (eventRow draws signerId payload actor))) tables with
  | error error =>
      simp only [first] at computed
      cases computed
  | ok reply =>
      obtain ⟨_, appended⟩ := reply
      simp only [first] at computed
      have executed : SigningTables.exec rules tables
          (.insertEvent (eventRow draws signerId payload actor)) = .ok ((), appended) :=
        (eval_single _ _).symm.trans first
      obtain ⟨events, inserted, rfl⟩ := inserted_ok executed
      have executed' : SigningTables.exec rules { tables with events := events }
          (.insertAudit (auditRow draws 0 workspaceId signer.contractId actor
            "signer.status_changed" [("request_id", .text signer.requestId),
              ("signer_id", .text signerId), ("status", .text payload.status.value),
              ("note", (payload.note.map Json.text).getD .null)])) = .ok ((), written) :=
        (eval_single _ _).symm.trans computed
      obtain ⟨audits, audited, rfl⟩ := inserted_ok executed'
      exact ⟨events, _, audits, inserted, audited, rfl⟩

end Blocks

/-! ## What the calls commit -/

section Calls

variable {rules : TextRules} {draws : Draws} {tables : SigningTables}
  {workspaceId requestId : String} {choices rest : List (BlockChoice SigningExn)}
  {after : BlockState SigningTables} {result : Except SigningExn SigningRequestOut}

/-- What follows the event of `append_event`: it raises and changes nothing, or it brings
the flag of the request that it has read in line with the status. -/
theorem settleEvent_cases
    (run : (settleEvent draws workspaceId requestId).spend
      (respond (SigningTables.exec rules)) (.idle tables) choices =
        some (result, after, rest)) :
    after.committed = tables ∧ (∃ error, result = .error error) ∨
    ∃ request, tables.read rules workspaceId requestId = .ok (some request) ∧
      (request.active ≠ !request.status.terminal → request.status.terminal = false →
        tables.occupied request.contractId request.id = false) ∧
      after.committed = tables.synced draws.now request := by
  rcases statements_bind_cases propagates_readRequest run with
    raised | ⟨request, read, left, computed, run⟩
  · exact .inl raised
  obtain ⟨found, rfl⟩ := eval_readRequest_iff.mp computed
  obtain ⟨row, title, signers, joined, _, rfl⟩ := read_eq_some_iff.mp found
  obtain ⟨_, member, _⟩ := requestRows_eq_cons_iff.mp joined
  rw [syncRequestActiveFlag, Prog.bind_bind] at run
  rcases statements_bind_cases propagates_checkReactivation run with
    raised | ⟨_, checked, left, computed, run⟩
  · exact .inl raised
  obtain ⟨rfl, _⟩ := checkReactivation_iff.mp computed
  by_cases same :
      (row.out title signers).active = !(row.out title signers).status.terminal
  · have skipped : ((row.out title signers).active != !(row.out title signers).status.terminal) =
        false := by rw [← same, bne_self_eq_false]
    rw [skipped] at run
    refine .inr ⟨_, found, fun differs => absurd same differs, ?_⟩
    rw [SigningTables.synced, if_pos same]
    exact committed_of_statements run
  · have changed : ((row.out title signers).active != !(row.out title signers).status.terminal) =
        true := by simpa using same
    rw [changed] at run
    have propagates : (updateActive (row.out title signers).id
        (!(row.out title signers).status.terminal) draws.now).Propagates :=
      Prog.propagates_perform _
    rcases block_bind_cases propagates run with raised | ⟨flagged, computed, ends⟩
    · exact .inl raised
    obtain ⟨rfl, free⟩ := (updateActive_iff member).mp computed
    refine .inr ⟨_, found, ?_, ?_⟩
    · intro _ open_
      exact free (by simp [open_])
    · rw [SigningTables.synced, if_neg same]
      rcases ends with ⟨kept, _⟩ | ⟨left, run⟩
      · exact kept
      · exact committed_of_statements run

/-- However its statements fare, a call commits one of the changes. -/
theorem commits_of_call {call : SigningCall}
    (run : (call.program rules draws).spend (respond (SigningTables.exec rules))
      (.idle tables) choices = some (result, after, rest)) :
    Commits rules draws tables call result after.committed := by
  cases call with
  | createRequest workspaceId contractId signers actor =>
      rcases committed_of_staged (fun _ _ => eval_of_reads calls_creatable)
          propagates_creatable (fun _ => propagates_writeRequest) run with
        kept | ⟨contract, written, admits, ends⟩
      · rw [kept]
        exact .nothing
      · obtain ⟨_, found, versioned, _⟩ := creatable_iff.mp admits.passes
        obtain ⟨free, requests, inserted, grows⟩ := writeRequest_writes admits.writes
        have committed : after.committed = written := by
          rcases ends with ⟨kept, _⟩ | ⟨left, run⟩
          · exact kept
          · exact committed_of_statements run
        rw [committed]
        exact .created found versioned free inserted grows
  | addSigner workspaceId requestId signer actor =>
      rcases committed_of_staged (fun _ _ => eval_of_reads calls_extendable)
          propagates_extendable (fun _ => propagates_writeSigner) run with
        kept | ⟨context, written, admits, ends⟩
      · rw [kept]
        exact .nothing
      · obtain ⟨_, found, opened, _⟩ := extendable_iff.mp admits.passes
        have committed : after.committed = written := by
          rcases ends with ⟨kept, _⟩ | ⟨left, run⟩
          · exact kept
          · exact committed_of_statements run
        rw [committed]
        exact .added found opened (grows_writeSigner admits.writes)
  | appendEvent workspaceId signerId payload actor =>
      rcases committed_of_staged (fun _ _ => eval_of_reads calls_appendable)
          propagates_appendable (fun _ => propagates_writeEvent) run with
        kept | ⟨signer, written, admits, ends⟩
      · rw [kept]
        exact .nothing
      · obtain ⟨_, found, _, moved⟩ := appendable_iff.mp admits.passes
        obtain ⟨events, row, audits, inserted, audited, rfl⟩ := writeEvent_writes admits.writes
        rcases ends with ⟨kept, raised⟩ | ⟨left, run⟩
        · rw [kept]
          exact .appended found moved inserted audited raised
        · rcases settleEvent_cases run with ⟨kept, raised⟩ | ⟨request, read, free, kept⟩
          · rw [kept]
            exact .appended found moved inserted audited raised
          · rw [kept]
            exact .settled found moved inserted audited read free

/-- A request that is read is a row, and its fields are the row's. -/
theorem row_of_read {request : SigningRequestOut}
    (found : tables.read rules workspaceId requestId = .ok (some request)) :
    ∃ row ∈ tables.requests.rows, row.id = requestId ∧ row.workspaceId = workspaceId ∧
      request.id = row.id ∧ request.contractId = row.contractId ∧
      request.active = row.active := by
  obtain ⟨row, title, signers, joined, _, rfl⟩ := read_eq_some_iff.mp found
  obtain ⟨_, member, identified, same, _⟩ := requestRows_eq_cons_iff.mp joined
  exact ⟨row, member, identified, same, rfl, rfl, rfl⟩

/-- Rows of one identifier are one row. -/
theorem eq_of_key {Row : Type} {key : Row → String} {table : RowTable key} {first second : Row}
    (member : first ∈ table.rows) (member' : second ∈ table.rows)
    (same : key first = key second) : first = second := by
  have found := RowTable.find?_of_mem member
  rw [same, RowTable.find?_of_mem member'] at found
  exact (Option.some.inj found).symm

theorem sound_synced {now : Int} {request : SigningRequestOut}
    (read : tables.read rules workspaceId requestId = .ok (some request))
    (free : request.active ≠ !request.status.terminal → request.status.terminal = false →
      tables.occupied request.contractId request.id = false) (sound : Sound rules tables) :
    Sound rules (tables.synced now request) := by
  rw [SigningTables.synced]
  split_ifs with same
  · exact sound
  · apply sound_flag _ sound
    intro asked row member identified
    obtain ⟨row', member', _, _, named, contract, _⟩ := row_of_read read
    obtain rfl : row = row' := eq_of_key member member' (identified.trans named)
    rw [← contract]
    exact free same (by simpa using asked)

/-- The row of the signer whose event is appended. -/
theorem signer_of_signerRequest {signerId : String} {signer : SignerRequest}
    (found : tables.signerRequest? workspaceId signerId = some signer) :
    ∃ row ∈ tables.signers.rows, row.id = signerId ∧
      row.signingRequestId = signer.requestId := by
  obtain ⟨row, located, joined⟩ := Option.bind_eq_some_iff.mp found
  obtain ⟨member, identified⟩ := RowTable.find?_eq_some_iff.mp located
  obtain ⟨request, _, rfl⟩ := Option.map_eq_some_iff.mp joined
  exact ⟨row, member, identified, rfl⟩

theorem Commits.sound {call : SigningCall} {written : SigningTables}
    (commits : Commits rules draws tables call result written) (sound : Sound rules tables) :
    Sound rules written := by
  cases commits with
  | nothing => exact sound
  | @created workspaceId contractId signers actor _ contract requests after found versioned free
      inserted grows =>
      obtain ⟨located, same⟩ := Option.filter_eq_some_iff.mp found
      obtain ⟨member, identified⟩ := RowTable.find?_eq_some_iff.mp located
      have workspace : contract.workspaceId = workspaceId := by simpa using same
      have version : contract.currentVersionId = some (contract.currentVersionId.getD "") := by
        cases current : contract.currentVersionId with
        | none => simp [current] at versioned
        | some version => rfl
      have opened := sound_request ⟨contract, member, identified, workspace, version⟩
        ⟨rfl, rfl⟩ free inserted sound
      exact grows.sound ⟨_, (mem_inserted inserted).mpr (.inr rfl), rfl⟩ opened
  | added read opened grows =>
      obtain ⟨row, member, identified, _⟩ := row_of_read read
      exact grows.sound ⟨row, member, identified⟩ sound
  | appended found moved inserted audited raised =>
      obtain ⟨row, member, identified, _⟩ := signer_of_signerRequest found
      exact sound_event ⟨row, member, identified⟩ ⟨_, rfl⟩ inserted sound
  | settled found moved inserted audited read free =>
      obtain ⟨row, member, identified, _⟩ := signer_of_signerRequest found
      exact sound_synced read free
        (sound_event ⟨row, member, identified⟩ ⟨_, rfl⟩ inserted sound)

end Calls

end SigningRequests

end ContractMate
