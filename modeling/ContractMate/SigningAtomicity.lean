import ContractMate.SigningWrites

/-!
# Signing operations and their errors

When an exception of `create_request`, `add_signer` or `append_event` leaves the tables as
they were, so that the call raises it again: before the first commit, and never after it.
-/

namespace ContractMate

namespace SigningRequests

open TransactionBlock PythonText
open ReadCommitted (statements)

/-! ## When an exception leaves everything as it was -/

/-- The flag of a request can be set to what its status asks for: an open request has no
rival. -/
def SigningTables.FlagSettles (tables : SigningTables) (request : SigningRequestOut) : Prop :=
  request.status.terminal = false →
    (∀ other, tables.active? request.workspaceId request.contractId = some other →
      other.id = request.id) ∧
    (request.active = false → tables.occupied request.contractId request.id = false)

namespace SigningCall

/-- The checks of the operation let its block run, and the block violates no constraint. -/
def Admitted (rules : TextRules) (tables : SigningTables) : SigningCall → Prop
  | createRequest workspaceId contractId signers _ =>
      (∃ contract, tables.contract? workspaceId contractId = some contract ∧
        contract.currentVersionId.getD "" ≠ "") ∧
      (signers.map fun signer => rules.casefold signer.email).Nodup ∧
      (signers.map fun signer => rules.sqlLower signer.email).Nodup ∧
      ∀ row ∈ tables.requests.rows, row.contractId = contractId → row.active = false
  | addSigner workspaceId requestId signer _ =>
      (∃ request, tables.read rules workspaceId requestId = .ok (some request) ∧
        request.status.terminal = false) ∧
      tables.taken rules requestId signer.email = false
  | appendEvent workspaceId signerId payload _ =>
      (tables.signerRequest? workspaceId signerId).isSome ∧
      tables.events.find? payload.id = none ∧
      ∀ row, (tables.eventsOf rules signerId).getLast? = some row →
        row.status ≠ payload.status.value

/-- The statements of an admitted operation up to its first commit, the commit included. -/
def firstTransaction (tables : SigningTables) : SigningCall → Nat
  | createRequest _ _ signers _ => 3 * signers.length + 5
  | addSigner _ requestId _ _ => (tables.signersOf requestId).length + 7
  | appendEvent _ _ _ _ => 6

/-- What follows the first commit can be done: the request can be read back with the new
event, and its flag can be set. -/
def Settles (rules : TextRules) (draws : Draws) (tables : SigningTables) : SigningCall → Prop
  | createRequest _ _ _ _ | addSigner _ _ _ _ => True
  | appendEvent workspaceId signerId payload actor =>
      ∀ signer, tables.signerRequest? workspaceId signerId = some signer →
        ∃ request, (tables.withEvent (eventRow draws signerId payload actor)).read rules
            workspaceId signer.requestId = .ok (some request) ∧
          tables.FlagSettles request

/-- An exception comes before the first commit, or no call of the database fails and what
follows the commit can be done. -/
def HoldsWhen (rules : TextRules) (draws : Draws) (tables : SigningTables)
    (choices : List (BlockChoice SigningExn)) (call : SigningCall) : Prop :=
  call.Admitted rules tables →
    (∃ error, .fails error ∈ choices.take (call.firstTransaction tables)) ∨
    (∀ choice ∈ choices, choice = .executes) ∧ call.Settles rules draws tables

end SigningCall

/-- A call that raised has left the tables as they were, and raises the same exception when
it is repeated: with other identifiers, and with statements that fare as they did. -/
def AtomicOnError (rules : TextRules) (tables : SigningTables)
    (choices : List (BlockChoice SigningExn)) (call : SigningCall)
    (result : Except SigningExn SigningRequestOut) (after : BlockState SigningTables) : Prop :=
  ∀ error, result = .error error → after.committed = tables ∧
    ∀ draws, tables.Fresh draws → ∃ last,
      (call.program rules draws).finish (respond (SigningTables.exec rules))
        (.idle after.committed) choices = some (.error error, last)

section Operations

variable {rules : TextRules} {draws : Draws} {tables : SigningTables}
  {choices : List (BlockChoice SigningExn)} {after : BlockState SigningTables}
  {result : Except SigningExn SigningRequestOut}

variable {reply : Unit} {written : SigningTables}

theorem inserted_ok {Row : Type} {key : Row → String} {constraint : String}
    {table : RowTable key} {row : Row} {store : RowTable key → SigningTables}
    (executed : SigningTables.inserted constraint table row store = .ok (reply, written)) :
    ∃ inserted, table.insert? row = some inserted ∧ written = store inserted := by
  rw [SigningTables.inserted] at executed
  cases attempt : table.insert? row with
  | none => simp [attempt] at executed
  | some inserted =>
      simp only [attempt, Except.ok.injEq, Prod.mk.injEq] at executed
      exact ⟨inserted, rfl, executed.2.symm⟩

/-- An insert that a unique index may refuse. -/
theorem guarded_ok {Row : Type} {key : Row → String} {constraint : String}
    {table : RowTable key} {row : Row} {store : RowTable key → SigningTables}
    {refused : Bool} {error : SigningExn}
    (executed : (if refused then .error error
      else SigningTables.inserted constraint table row store) = .ok (reply, written)) :
    ∃ inserted, table.insert? row = some inserted ∧ written = store inserted := by
  cases refused with
  | true => cases executed
  | false => exact inserted_ok executed

theorem updated_ok {store : SigningTables} {refused : Bool} {error : SigningExn}
    (executed : (if refused then .error error else .ok ((), store)) =
      (.ok (reply, written) : Except SigningExn (Unit × SigningTables))) :
    refused = false ∧ written = store := by
  cases refused with
  | true => cases executed
  | false =>
      cases executed
      exact ⟨rfl, rfl⟩

/-- No statement removes an audit row. -/
theorem audits_kept {statement : SigningStatement} {reply : statement.Ret}
    (executed : SigningTables.exec rules tables statement = .ok (reply, written)) :
    tables.audits.rows.length ≤ written.audits.rows.length := by
  cases statement with
  | insertRequest row | insertSigner row =>
      obtain ⟨_, _, rfl⟩ := guarded_ok executed
      exact Nat.le.refl
  | insertEvent row =>
      obtain ⟨_, _, rfl⟩ := inserted_ok executed
      exact Nat.le.refl
  | insertAudit row =>
      obtain ⟨table, inserted, rfl⟩ := inserted_ok executed
      change _ ≤ table.rows.length
      rw [RowTable.rows_of_insert? inserted, List.length_append]
      exact Nat.le_add_right _ _
  | updateActive requestId active now =>
      obtain ⟨_, rfl⟩ := updated_ok executed
      exact Nat.le.refl
  | _ =>
      cases executed
      exact Nat.le.refl

/-- Once an audit row has been committed, the tables are not what they were. -/
theorem committed_ne {program : SigningProg SigningRequestOut}
    {rest : List (BlockChoice SigningExn)}
    (more : tables.audits.rows.length < written.audits.rows.length)
    (run : program.spend (respond (SigningTables.exec rules)) (.idle written) choices =
      some (result, after, rest)) : after.committed ≠ tables := by
  have keeps (store) (request : SigningStatement) (reply) (written : SigningTables)
      (grown : tables.audits.rows.length < store.audits.rows.length)
      (executed : SigningTables.exec rules store request = .ok (reply, written)) :
      tables.audits.rows.length < written.audits.rows.length :=
    Nat.lt_of_lt_of_le grown (audits_kept executed)
  have kept : tables.audits.rows.length < after.committed.audits.rows.length :=
    committed_of_keeps keeps more more run
  intro same
  rw [same] at kept
  exact Nat.lt_irrefl _ kept

/-- What follows the commit of `create_request` and `add_signer`. -/
theorem returns_readRequest {workspaceId requestId : String}
    (run : (statements (readRequest workspaceId requestId)).spend
      (respond (SigningTables.exec rules)) (.idle written) choices =
        some (result, after, []))
    (readable : ∃ request, written.read rules workspaceId requestId = .ok (some request)) :
    (∃ value, result = .ok value) ↔ (∀ choice ∈ choices, choice = .executes) ∧ True := by
  rw [returns_iff (propagates_statements propagates_readRequest) run,
    succeeds_single_iff propagates_readRequest]
  obtain ⟨request, readable⟩ := readable
  refine and_congr_right fun _ => iff_true_intro ⟨request, written, ?_⟩
  exact eval_readRequest_iff.mpr ⟨readable, rfl⟩

/-- An operation in stages, whose block writes an audit row and whose other identifiers make
no difference. -/
theorem atomic_iff_of_stages {Context : Type}
    {checks : SigningBody (SigningRequestOut ⊕ Context)}
    {body : Draws → Context → SigningBody Unit}
    {tail : Draws → Context → SigningProg SigningRequestOut} (call : SigningCall)
    (program : ∀ draws, call.program rules draws = staged checks (body draws) (tail draws))
    (checksRead : checks.Calls (Reads rules)) (checksPropagate : checks.Propagates)
    (bodyPropagates : ∀ context, (body draws context).Propagates)
    (admitted : (∃ context written, Admits (SigningTables.exec rules) checks (body draws) tables
      context written) ↔ call.Admitted rules tables)
    (stages : ∀ context written, Admits (SigningTables.exec rules) checks (body draws) tables
        context written →
      stage (SigningTables.exec rules) checks (body draws) tables context + 1 =
          call.firstTransaction tables ∧
        tables.audits.rows.length < written.audits.rows.length ∧
        ∀ choices result after, (tail draws context).spend (respond (SigningTables.exec rules))
            (.idle written) choices = some (result, after, []) →
          ((∃ value, result = .ok value) ↔
            (∀ choice ∈ choices, choice = .executes) ∧ call.Settles rules draws tables))
    (twins : ∀ draws', tables.Fresh draws' → ∀ context,
      eval (SigningTables.exec rules) checks tables = .ok (.inr context, tables) →
        ∃ post, Twins (SigningTables.exec rules) post (body draws context) tables
          (body draws' context) tables)
    (run : (call.program rules draws).finish (respond (SigningTables.exec rules)) (.idle tables)
      choices = some (result, after)) :
    AtomicOnError rules tables choices call result after ↔
      call.HoldsWhen rules draws tables choices := by
  have reads (value) (written : SigningTables) (computed : eval (SigningTables.exec rules)
      checks tables = .ok (value, written)) : written = tables :=
    eval_of_reads checksRead computed
  have run := (Prog.finish_eq_some_iff _).mp run
  rw [program] at run
  have again (error : SigningExn) (ended : BlockState SigningTables)
      (raised : (opening checks (body draws)).spend (respond (SigningTables.exec rules))
        (.idle tables) choices = some (.error error, ended, [])) (draws' : Draws)
      (fresh' : tables.Fresh draws') :
      ∃ last, (call.program rules draws').finish (respond (SigningTables.exec rules))
        (.idle tables) choices = some (.error error, last) := by
    obtain ⟨last, repeated⟩ := opening_again (twins draws' fresh') reads checksPropagate raised
    refine ⟨last, (Prog.finish_eq_some_iff _).mpr ?_⟩
    rw [program]
    exact staged_of_opening repeated
  have kept := kept_iff
    (fun error => ∀ draws, tables.Fresh draws → ∃ last,
      (call.program rules draws).finish (respond (SigningTables.exec rules)) (.idle tables)
        choices = some (.error error, last))
    (fun _ _ => call.Settles rules draws tables) reads checksPropagate bodyPropagates
    (by
      intro context written admits same
      exact Nat.lt_irrefl _ (same ▸ (stages context written admits).2.1))
    (by
      intro context written choices result after admits followed
      obtain ⟨_, more, settled⟩ := stages context written admits
      exact ⟨committed_ne more followed, settled choices result after followed⟩)
    again run
  have atomic : AtomicOnError rules tables choices call result after ↔
      ∀ error, result = .error error → after.committed = tables ∧
        ∀ draws, tables.Fresh draws → ∃ last,
          (call.program rules draws).finish (respond (SigningTables.exec rules)) (.idle tables)
            choices = some (.error error, last) := by
    refine forall_congr' fun error => imp_congr_right fun raised => ?_
    constructor
    · rintro ⟨kept, repeats⟩
      exact ⟨kept, kept ▸ repeats⟩
    · rintro ⟨kept, repeats⟩
      exact ⟨kept, kept.symm ▸ repeats⟩
  rw [atomic, kept, SigningCall.HoldsWhen, ← admitted]
  constructor
  · rintro condition ⟨context, written, admits⟩
    rw [← (stages context written admits).1]
    exact condition context written admits
  · intro condition context written admits
    rw [(stages context written admits).1]
    exact condition ⟨context, written, admits⟩

end Operations

section Creating

variable {rules : TextRules} {draws : Draws} {tables written : SigningTables}
  {workspaceId contractId : String} {signers : List SignerCreate} {actor : Actor}
  {contract : SigningContractRow}

theorem propagates_creatable : (creatable rules workspaceId contractId signers).Propagates := by
  apply (Prog.propagates_perform _).bind
  rintro (_ | contract)
  · trivial
  · dsimp only
    split_ifs
    · trivial
    · apply (Prog.propagates_perform _).bind
      rintro (_ | row) <;> trivial
    · trivial

theorem calls_creatable :
    (creatable rules workspaceId contractId signers).Calls (Reads rules) := by
  apply (calls_query fun _ => rfl).bind
  rintro (_ | contract)
  · trivial
  · dsimp only
    split_ifs
    · trivial
    · apply (calls_query fun _ => rfl).bind
      rintro (_ | row) <;> trivial
    · trivial

theorem creatable_iff {reached : SigningTables} :
    eval (SigningTables.exec rules) (creatable rules workspaceId contractId signers) tables =
        .ok (.inr contract, reached) ↔
      reached = tables ∧ tables.contract? workspaceId contractId = some contract ∧
        contract.currentVersionId.getD "" ≠ "" ∧
        (signers.map fun signer => rules.casefold signer.email).Nodup ∧
        tables.active? workspaceId contractId = none := by
  rw [creatable, eval_query (.selectContract workspaceId contractId) rfl]
  cases tables.contract? workspaceId contractId with
  | none => simp
  | some found =>
      dsimp only
      split_ifs with unversioned distinct
      · simp only [eval_raise, reduceCtorEq, Option.some.injEq, false_iff, not_and]
        rintro _ rfl pinned
        exact absurd unversioned pinned
      · rw [eval_query (.selectActive workspaceId contractId) rfl]
        cases tables.active? workspaceId contractId with
        | some row => simp
        | none =>
            simp only [eval_pure, Except.ok.injEq, Prod.mk.injEq, Sum.inr.injEq,
              Option.some.injEq, and_true]
            constructor
            · rintro ⟨rfl, rfl⟩
              exact ⟨rfl, rfl, unversioned, distinct⟩
            · rintro ⟨rfl, rfl, _⟩
              exact ⟨rfl, rfl⟩
      · simp only [eval_raise, reduceCtorEq, Option.some.injEq, false_iff, not_and]
        exact fun _ _ _ nodup => absurd nodup distinct

theorem count_creatable (passes : eval (SigningTables.exec rules)
      (creatable rules workspaceId contractId signers) tables = .ok (.inr contract, tables)) :
    count (SigningTables.exec rules) (creatable rules workspaceId contractId signers) tables =
      2 := by
  obtain ⟨_, found, pinned, distinct, free⟩ := creatable_iff.mp passes
  rw [creatable, count_query (.selectContract workspaceId contractId) rfl, found]
  dsimp only
  rw [if_neg pinned, if_neg (not_not.mpr distinct),
    count_query (.selectActive workspaceId contractId) rfl, free]
  rfl

/-- The tables with a new request. -/
def SigningTables.withRequest (tables : SigningTables) (row : SigningRequestRow) :
    SigningTables :=
  { tables with requests := tables.requests.insertIgnore row }

theorem rows_withRequest (unused : tables.Unused draws 0) :
    (tables.withRequest (newRequest draws workspaceId contractId actor contract)).requests.rows =
      tables.requests.rows ++ [newRequest draws workspaceId contractId actor contract] :=
  (insert?_of_absent fun other member => unused.requests other member 0 Nat.le.refl).2

theorem unused_withRequest (unused : tables.Unused draws 0) :
    (tables.withRequest (newRequest draws workspaceId contractId actor contract)).Unused
      draws 1 := by
  have later : tables.Unused draws 1 := unused.later (Nat.zero_le 1)
  refine ⟨?_, later.signers, later.events, later.subjects, later.audits⟩
  intro row member drawn late same
  rw [rows_withRequest unused, List.mem_append, List.mem_singleton] at member
  rcases member with old | rfl
  · exact later.requests row old drawn late same
  · have := draws.distinct same
    omega

variable (contractId) in
/-- A drawn request is none of the table's. -/
theorem occupied_of_unused (unused : tables.Unused draws 0) :
    tables.occupied contractId (draws.uuid4 0) = false ↔
      ∀ row ∈ tables.requests.rows, row.contractId = contractId → row.active = false := by
  rw [SigningTables.occupied, List.any_eq_false]
  constructor
  · intro none row member owned
    have apart := unused.requests row member 0 Nat.le.refl
    simpa [apart, owned] using none row member
  · intro inactive row member
    by_cases owned : row.contractId = contractId
    · simp [inactive row member owned]
    · simp [owned]

variable (rules workspaceId contractId actor contract) in
theorem exec_newRequest (unused : tables.Unused draws 0) :
    SigningTables.exec rules tables
        (.insertRequest (newRequest draws workspaceId contractId actor contract)) =
      if tables.occupied contractId (draws.uuid4 0) then
        .error (.unique "ux_signing_requests_active_contract")
      else .ok ((), tables.withRequest
        (newRequest draws workspaceId contractId actor contract)) :=
  exec_insertRequest fun other member => unused.requests other member 0 Nat.le.refl

theorem eval_writeRequest (unused : tables.Unused draws 0) :
    eval (SigningTables.exec rules)
        (writeRequest rules draws workspaceId contractId signers actor contract) tables =
      if tables.occupied contractId (draws.uuid4 0) then
        .error (.unique "ux_signing_requests_active_contract")
      else
        eval (SigningTables.exec rules)
          (insertSigners rules draws workspaceId contractId (draws.uuid4 0) actor signers 0 >>=
            fun _ => recordAudit draws (3 * signers.length + 1) workspaceId contractId actor
              "signing_request.created"
              [("request_id", .text (draws.uuid4 0)), ("signer_count", .int signers.length)])
          (tables.withRequest (newRequest draws workspaceId contractId actor contract)) := by
  rw [writeRequest, execute, eval_perform, exec_newRequest _ _ _ _ _ unused]
  cases tables.occupied contractId (draws.uuid4 0) <;> rfl

variable (tables workspaceId contractId contract) in
/-- What the block leaves. -/
structure RequestWritten (draws : Draws) (actor : Actor) (signers : List SignerCreate)
    (written : SigningTables) : Prop where
  requests : written.requests.rows =
    tables.requests.rows ++ [newRequest draws workspaceId contractId actor contract]
  contracts : written.contracts = tables.contracts
  legible : written.Legible (draws.uuid4 0)
  audits : tables.audits.rows.length < written.audits.rows.length

theorem writeRequest_ok (fresh : tables.Fresh draws)
    (computed : eval (SigningTables.exec rules)
      (writeRequest rules draws workspaceId contractId signers actor contract) tables =
        .ok ((), written)) :
    RequestWritten tables workspaceId contractId contract draws actor signers written ∧
      count (SigningTables.exec rules)
        (writeRequest rules draws workspaceId contractId signers actor contract) tables =
          3 * signers.length + 2 := by
  have unused := fresh.toUnused
  have free : tables.occupied contractId (draws.uuid4 0) = false := by
    by_contra occupied
    rw [eval_writeRequest unused, if_pos (by simpa using occupied)] at computed
    cases computed
  rw [eval_writeRequest unused, if_neg (by simp [free]), eval_bind] at computed
  cases looped : eval (SigningTables.exec rules) (insertSigners rules draws workspaceId
      contractId (draws.uuid4 0) actor signers 0)
      (tables.withRequest (newRequest draws workspaceId contractId actor contract)) with
  | error error => simp [looped] at computed
  | ok answer =>
      obtain ⟨_, joined⟩ := answer
      obtain ⟨later, grown, counted⟩ := insertSigners_ok (unused_withRequest unused) looped
      rw [Nat.zero_add] at later
      simp only [looped, eval_recordAudit later.audit] at computed
      cases computed
      have executed : SigningTables.exec rules tables
          (.insertRequest (newRequest draws workspaceId contractId actor contract)) = _ :=
        exec_newRequest _ _ _ _ _ unused
      rw [if_neg (by simp [free])] at executed
      constructor
      · constructor
        · exact (congrArg RowTable.rows grown.requests).trans (rows_withRequest unused)
        · exact grown.contracts
        · apply grown.legible
          intro signer member owned
          exact absurd owned (fresh.owners signer member 0)
        · rw [rows_withAudit later.audit, List.length_append]
          exact Nat.lt_succ_of_le grown.audits
      · rw [writeRequest, execute, count_perform executed, count_bind looped, counted,
          count_recordAudit later.audit]

/-- The new request can be read back. -/
theorem RequestWritten.readable (rules : TextRules)
    (left : RequestWritten tables workspaceId contractId contract draws actor signers written)
    (found : tables.contract? workspaceId contractId = some contract) :
    ∃ request, written.read rules workspaceId (draws.uuid4 0) = .ok (some request) := by
  obtain ⟨located, _⟩ := Option.filter_eq_some_iff.mp found
  obtain ⟨member, identified⟩ := RowTable.find?_eq_some_iff.mp located
  have joined : written.requestRows workspaceId (draws.uuid4 0) =
      [(newRequest draws workspaceId contractId actor contract, contract.title)] := by
    rw [requestRows_eq_cons_iff]
    refine ⟨rfl, ?_, rfl, rfl, contract, ?_, identified, rfl⟩
    · rw [left.requests]
      exact List.mem_append_right _ (List.mem_singleton_self _)
    · rw [left.contracts]
      exact member
  exact read_of_legible joined left.legible

theorem writeRequest_iff (fresh : tables.Fresh draws) :
    (∃ written, eval (SigningTables.exec rules)
        (writeRequest rules draws workspaceId contractId signers actor contract) tables =
          .ok ((), written)) ↔
      (signers.map fun signer => rules.sqlLower signer.email).Nodup ∧
        ∀ row ∈ tables.requests.rows, row.contractId = contractId → row.active = false := by
  have unused := fresh.toUnused
  have unseen : ∀ signer ∈ signers, (tables.withRequest
      (newRequest draws workspaceId contractId actor contract)).taken rules (draws.uuid4 0)
        signer.email = false := by
    intro signer _
    rw [SigningTables.taken, List.any_eq_false]
    intro row member
    have apart := fresh.owners row member 0
    simp [apart]
  rw [eval_writeRequest unused, ← occupied_of_unused contractId unused]
  cases tables.occupied contractId (draws.uuid4 0) with
  | true => simp
  | false =>
      have start : (tables.withRequest (newRequest draws workspaceId contractId actor
          contract)).Unused draws (3 * 0 + 1) := unused_withRequest unused
      have loops : (∃ joined, eval (SigningTables.exec rules) (insertSigners rules draws
          workspaceId contractId (draws.uuid4 0) actor signers 0) (tables.withRequest
            (newRequest draws workspaceId contractId actor contract)) = .ok ((), joined)) ↔ _ :=
        insertSigners_iff start
      rw [if_neg Bool.false_ne_true, and_iff_left rfl]
      constructor
      · rintro ⟨written, computed⟩
        rw [eval_bind] at computed
        refine (loops.mp ?_).1
        cases looped : eval (SigningTables.exec rules) (insertSigners rules draws workspaceId
            contractId (draws.uuid4 0) actor signers 0)
            (tables.withRequest (newRequest draws workspaceId contractId actor contract)) with
        | error error => simp [looped] at computed
        | ok answer => exact ⟨answer.2, rfl⟩
      · intro distinct
        obtain ⟨joined, looped⟩ := loops.mpr ⟨distinct, unseen⟩
        obtain ⟨later, _⟩ := insertSigners_ok (unused_withRequest unused) looped
        rw [Nat.zero_add] at later
        rw [eval_bind, looped]
        exact ⟨_, eval_recordAudit later.audit⟩

theorem propagates_insertSigner (position : Nat) (requestId : String) (signer : SignerCreate)
    (displayOrder : Int) :
    (insertSigner rules draws position requestId signer displayOrder actor).Propagates := by
  apply Prog.Propagates.bind
  · apply (Prog.propagates_perform _).tryExcept (raises_duplicateConflict rules)
    exact fun error => (raises_duplicateConflict rules error).propagates
  · intro _
    exact (Prog.propagates_perform _).bind fun _ => trivial

theorem propagates_insertSigners (requestId : String) (signers : List SignerCreate)
    (index : Nat) :
    (insertSigners rules draws workspaceId contractId requestId actor signers
      index).Propagates := by
  induction signers generalizing index with
  | nil => trivial
  | cons signer signers induction =>
      apply (propagates_insertSigner _ _ _ _).bind
      intro _
      exact (Prog.propagates_perform _).bind fun _ => induction (index + 1)

theorem propagates_writeRequest :
    (writeRequest rules draws workspaceId contractId signers actor contract).Propagates := by
  apply (Prog.propagates_perform _).bind
  intro _
  exact (propagates_insertSigners _ _ _).bind fun _ => Prog.propagates_perform _

theorem twins_writeRequest {draws' : Draws} (fresh : tables.Fresh draws)
    (fresh' : tables.Fresh draws') :
    Twins (SigningTables.exec rules)
      (fun _ first _ second => Alike rules draws draws' (3 * signers.length + 2)
        (draws.uuid4 0) (draws'.uuid4 0) first second)
      (writeRequest rules draws workspaceId contractId signers actor contract) tables
      (writeRequest rules draws' workspaceId contractId signers actor contract) tables := by
  have unseen {draws : Draws} (fresh : tables.Fresh draws) (email : Text) :
      tables.taken rules (draws.uuid4 0) email = false := by
    rw [SigningTables.taken, List.any_eq_false]
    intro row member
    have apart := fresh.owners row member 0
    simp [apart]
  have sameIndex : tables.occupied contractId (draws.uuid4 0) =
      tables.occupied contractId (draws'.uuid4 0) := by
    have both := (occupied_of_unused contractId fresh.toUnused).trans
      (occupied_of_unused contractId fresh'.toUnused).symm
    rw [Bool.eq_iff_iff, ← not_iff_not]
    simpa using both
  have inserted := exec_newRequest rules workspaceId contractId actor contract fresh.toUnused
  have inserted' := exec_newRequest rules workspaceId contractId actor contract fresh'.toUnused
  rw [sameIndex] at inserted
  cases free : tables.occupied contractId (draws'.uuid4 0) with
  | true =>
      rw [if_pos free] at inserted inserted'
      exact twins_refused inserted inserted'
  | false =>
      rw [if_neg (by simp [free])] at inserted inserted'
      apply twins_perform inserted inserted'
      have start : Alike rules draws draws' (3 * 0 + 1) (draws.uuid4 0) (draws'.uuid4 0)
          (tables.withRequest (newRequest draws workspaceId contractId actor contract))
          (tables.withRequest (newRequest draws' workspaceId contractId actor contract)) :=
        ⟨unused_withRequest fresh.toUnused, unused_withRequest fresh'.toUnused,
          fun email => (unseen fresh email).trans (unseen fresh' email).symm⟩
      apply (twins_insertSigners signers 0 start).bind
      intro _ first _ second alike
      rw [Nat.zero_add] at alike
      exact alike.recordAudit

/-- The checks and the block of `create_request` go through. -/
theorem createRequest_admitted (fresh : tables.Fresh draws) :
    (∃ contract written, Admits (SigningTables.exec rules)
        (creatable rules workspaceId contractId signers)
        (writeRequest rules draws workspaceId contractId signers actor) tables contract
          written) ↔
      (SigningCall.createRequest workspaceId contractId signers actor).Admitted rules
        tables := by
  constructor
  · rintro ⟨contract, written, passes, writes⟩
    obtain ⟨_, found, pinned, distinct, _⟩ := creatable_iff.mp passes
    obtain ⟨apart, inactive⟩ := (writeRequest_iff fresh).mp ⟨written, writes⟩
    exact ⟨⟨contract, found, pinned⟩, distinct, apart, inactive⟩
  · rintro ⟨⟨contract, found, pinned⟩, distinct, apart, inactive⟩
    obtain ⟨written, writes⟩ := (writeRequest_iff fresh).mpr ⟨apart, inactive⟩
    have free : tables.active? workspaceId contractId = none := by
      rw [SigningTables.active?, List.find?_eq_none]
      intro row member
      by_cases owned : row.contractId = contractId
      · simp [inactive row member owned]
      · simp [owned]
    exact ⟨contract, written, creatable_iff.mpr ⟨rfl, found, pinned, distinct, free⟩, writes⟩

theorem createRequest_atomic_iff {choices : List (BlockChoice SigningExn)}
    {after : BlockState SigningTables} {result : Except SigningExn SigningRequestOut}
    (fresh : tables.Fresh draws)
    (run : (createRequest rules draws workspaceId contractId signers actor).finish
      (respond (SigningTables.exec rules)) (.idle tables) choices = some (result, after)) :
    AtomicOnError rules tables choices (.createRequest workspaceId contractId signers actor)
        result after ↔
      (SigningCall.createRequest workspaceId contractId signers actor).HoldsWhen rules draws
        tables choices := by
  apply atomic_iff_of_stages (.createRequest workspaceId contractId signers actor)
    (fun _ => rfl) calls_creatable propagates_creatable (fun _ => propagates_writeRequest)
    (createRequest_admitted fresh)
  · rintro contract written ⟨passes, writes⟩
    obtain ⟨left, counted⟩ := writeRequest_ok fresh writes
    refine ⟨?_, left.audits, ?_⟩
    · rw [stage, count_creatable passes, counted, SigningCall.firstTransaction]
      omega
    · intro choices result after run
      exact returns_readRequest run (left.readable rules (creatable_iff.mp passes).2.1)
  · intro draws' fresh' contract _
    exact ⟨_, twins_writeRequest fresh fresh'⟩
  · exact run

end Creating

section Adding

variable {rules : TextRules} {draws : Draws} {tables written : SigningTables}
  {workspaceId requestId : String} {signer : SignerCreate} {actor : Actor}
  {context : SigningRequestOut × Int}

theorem propagates_extendable : (extendable workspaceId requestId signer).Propagates := by
  apply propagates_getRequest.bind
  rintro (_ | request)
  · trivial
  · dsimp only
    split_ifs
    · trivial
    · exact (Prog.propagates_perform _).bind fun _ => trivial

theorem calls_extendable : (extendable workspaceId requestId signer).Calls (Reads rules) := by
  apply calls_getRequest.bind
  rintro (_ | request)
  · trivial
  · dsimp only
    split_ifs
    · trivial
    · exact (calls_query fun _ => rfl).bind fun _ => Prog.calls_pure

theorem extendable_iff {reached : SigningTables} :
    eval (SigningTables.exec rules) (extendable workspaceId requestId signer) tables =
        .ok (.inr context, reached) ↔
      reached = tables ∧ tables.read rules workspaceId requestId = .ok (some context.1) ∧
        context.1.status.terminal = false ∧ context.2 = signer.orderAfter (tables.lastOrder requestId) := by
  rw [extendable, eval_bind, eval_getRequest]
  cases tables.read rules workspaceId requestId with
  | error error => simp [Except.map]
  | ok found =>
      cases found with
      | none =>
          change Except.error _ = _ ↔ _
          simp
      | some request =>
          change eval _ (if request.status.terminal then _ else _) tables = _ ↔ _
          cases terminal : request.status.terminal with
          | true =>
              simp only [if_true, eval_raise, reduceCtorEq, Except.ok.injEq, Option.some.injEq,
                false_iff, not_and]
              rintro _ rfl open_
              rw [terminal] at open_
              cases open_
          | false =>
              rw [if_neg Bool.false_ne_true, eval_query (.maxOrder requestId) rfl]
              obtain ⟨read, order⟩ := context
              simp only [eval_pure, Except.ok.injEq, Prod.mk.injEq, Sum.inr.injEq,
                Option.some.injEq]
              constructor
              · rintro ⟨⟨rfl, rfl⟩, rfl⟩
                exact ⟨rfl, rfl, terminal, rfl⟩
              · rintro ⟨rfl, rfl, _, rfl⟩
                exact ⟨⟨rfl, rfl⟩, rfl⟩

theorem count_extendable (passes : eval (SigningTables.exec rules)
      (extendable workspaceId requestId signer) tables = .ok (.inr context, tables)) :
    count (SigningTables.exec rules) (extendable workspaceId requestId signer) tables =
      (tables.signersOf requestId).length + 3 := by
  obtain ⟨_, found, open_, _⟩ := extendable_iff.mp passes
  have read : eval (SigningTables.exec rules) (getRequest workspaceId requestId) tables =
      .ok (some context.1, tables) := by
    rw [eval_getRequest, found]
    rfl
  rw [extendable, count_bind read, count_getRequest found]
  dsimp only
  rw [if_neg (by simp [open_]), count_query (.maxOrder requestId) rfl]
  rfl

theorem propagates_writeSigner :
    (writeSigner rules draws workspaceId requestId signer actor context).Propagates := by
  apply Prog.Propagates.bind
  · apply (propagates_insertSigner _ _ _ _).tryExcept (raises_duplicateConflict rules)
    exact fun error => (raises_duplicateConflict rules error).propagates
  · exact fun _ => Prog.propagates_perform _

variable (rules tables workspaceId requestId signer actor context) in
/-- What the block computes. -/
theorem writeSigner_iff (unused : tables.Unused draws 0) :
    eval (SigningTables.exec rules)
        (writeSigner rules draws workspaceId requestId signer actor context) tables =
          .ok ((), written) ↔
      tables.taken rules requestId signer.email = false ∧
        written = (tables.withSigner draws 0 requestId signer context.2 actor).withAudit
          (auditRow draws 2 workspaceId context.1.contractId actor "signer.created"
            [("request_id", .text requestId),
              ("email", .text (String.ofList signer.email))]) := by
  have later := unused_withSigner requestId signer context.2 actor unused
  have joined := eval_insertSigner rules requestId signer context.2 actor unused
  rw [writeSigner, eval_bind]
  cases free : tables.taken rules requestId signer.email with
  | true =>
      rw [free, if_pos rfl] at joined
      cases guarded : eval (SigningTables.exec rules) ((insertSigner rules draws 0 requestId
          signer context.2 actor).tryExcept (duplicateConflict rules)) tables with
      | error error => simp
      | ok answer =>
          have inner := (eval_tryExcept_iff (raises_duplicateConflict rules)).mp guarded
          cases joined.symm.trans inner
  | false =>
      rw [free, if_neg Bool.false_ne_true] at joined
      have guarded := (eval_tryExcept_iff (raises_duplicateConflict rules)).mpr joined
      simp only [guarded, recordSigner, eval_recordAudit later.audit, Except.ok.injEq,
        Prod.mk.injEq, true_and]
      exact eq_comm

theorem count_writeSigner (unused : tables.Unused draws 0)
    (free : tables.taken rules requestId signer.email = false) :
    count (SigningTables.exec rules)
      (writeSigner rules draws workspaceId requestId signer actor context) tables = 3 := by
  have later := unused_withSigner requestId signer context.2 actor unused
  have joined := eval_insertSigner rules requestId signer context.2 actor unused
  rw [free, if_neg Bool.false_ne_true] at joined
  have guarded := (eval_tryExcept_iff (raises_duplicateConflict rules)).mpr joined
  rw [writeSigner, count_bind guarded, count_tryExcept joined, count_insertSigner unused free,
    recordSigner, count_recordAudit later.audit]

theorem twins_writeSigner {draws' : Draws} (unused : tables.Unused draws 0)
    (unused' : tables.Unused draws' 0) :
    Twins (SigningTables.exec rules)
      (fun _ first _ second => Alike rules draws draws' 3 requestId requestId first second)
      (writeSigner rules draws workspaceId requestId signer actor context) tables
      (writeSigner rules draws' workspaceId requestId signer actor context) tables := by
  have start : Alike rules draws draws' 0 requestId requestId tables tables :=
    ⟨unused, unused', fun _ => rfl⟩
  have joined := twins_insertSigner actor signer context.2 context.2 start
  apply (joined.tryExcept (raises_alike rules)).bind
  intro _ first _ second alike
  exact alike.recordAudit

/-- The checks and the block of `add_signer` go through. -/
theorem addSigner_admitted (unused : tables.Unused draws 0) :
    (∃ context written, Admits (SigningTables.exec rules)
        (extendable workspaceId requestId signer)
        (writeSigner rules draws workspaceId requestId signer actor) tables context written) ↔
      (SigningCall.addSigner workspaceId requestId signer actor).Admitted rules tables := by
  constructor
  · rintro ⟨context, written, passes, writes⟩
    obtain ⟨_, found, open_, _⟩ := extendable_iff.mp passes
    exact ⟨⟨context.1, found, open_⟩, ((writeSigner_iff _ _ _ _ _ _ _ unused).mp writes).1⟩
  · rintro ⟨⟨request, found, open_⟩, free⟩
    exact ⟨(request, signer.orderAfter (tables.lastOrder requestId)), _,
      extendable_iff.mpr ⟨rfl, found, open_, rfl⟩,
      (writeSigner_iff _ _ _ _ _ _ _ unused).mpr ⟨free, rfl⟩⟩

theorem addSigner_atomic_iff {choices : List (BlockChoice SigningExn)}
    {after : BlockState SigningTables} {result : Except SigningExn SigningRequestOut}
    (unused : tables.Unused draws 0)
    (run : (addSigner rules draws workspaceId requestId signer actor).finish
      (respond (SigningTables.exec rules)) (.idle tables) choices = some (result, after)) :
    AtomicOnError rules tables choices (.addSigner workspaceId requestId signer actor)
        result after ↔
      (SigningCall.addSigner workspaceId requestId signer actor).HoldsWhen rules draws
        tables choices := by
  apply atomic_iff_of_stages (.addSigner workspaceId requestId signer actor)
    (fun _ => rfl) calls_extendable propagates_extendable (fun _ => propagates_writeSigner)
    (addSigner_admitted unused)
  · rintro context written ⟨passes, writes⟩
    obtain ⟨_, found, _⟩ := extendable_iff.mp passes
    obtain ⟨free, rfl⟩ := (writeSigner_iff _ _ _ _ _ _ _ unused).mp writes
    refine ⟨?_, ?_, ?_⟩
    · rw [stage, count_extendable passes, count_writeSigner unused free,
        SigningCall.firstTransaction]
    · rw [rows_withAudit (unused_withSigner _ _ _ _ unused).audit, List.length_append]
      exact Nat.lt_succ_self _
    · intro choices result after run
      apply returns_readRequest run
      refine read_of_same found ?_ ?_ ?_
      · rfl
      · rfl
      · exact legible_withSigner signer context.2 actor unused (legible_of_read found)
  · intro draws' fresh' context _
    exact ⟨_, twins_writeSigner unused fresh'.toUnused⟩
  · exact run

end Adding

section Appending

variable {rules : TextRules} {draws : Draws} {tables written : SigningTables}
  {workspaceId signerId requestId : String} {payload : SignerStatusEventCreate} {actor : Actor}
  {signer : SignerRequest} {request : SigningRequestOut}

theorem propagates_appendable : (appendable workspaceId signerId payload).Propagates := by
  apply (Prog.propagates_perform _).bind
  rintro (_ | signer)
  · trivial
  · apply (Prog.propagates_perform _).bind
    rintro (_ | existing)
    · apply (Prog.propagates_perform _).bind
      intro latest
      split <;> trivial
    · dsimp only
      split
      · exact propagates_readRequest.bind fun _ => trivial
      · trivial

theorem calls_appendable : (appendable workspaceId signerId payload).Calls (Reads rules) := by
  apply (calls_query fun _ => rfl).bind
  rintro (_ | signer)
  · trivial
  · apply (calls_query fun _ => rfl).bind
    rintro (_ | existing)
    · apply (calls_query fun _ => rfl).bind
      intro latest
      split <;> trivial
    · dsimp only
      split
      · exact calls_readRequest.bind fun _ => Prog.calls_pure
      · trivial

/-- The signer's latest event has the status of the payload. -/
def SigningTables.repeated (rules : TextRules) (tables : SigningTables) (signerId : String)
    (payload : SignerStatusEventCreate) : Bool :=
  (tables.eventsOf rules signerId).getLast?.any fun row => row.status = payload.status.value

variable {reached : SigningTables} {active : Bool} {now : Int} {row : SigningRequestRow}

theorem appendable_iff :
    eval (SigningTables.exec rules) (appendable workspaceId signerId payload) tables =
        .ok (.inr signer, reached) ↔
      reached = tables ∧ tables.signerRequest? workspaceId signerId = some signer ∧
        tables.events.find? payload.id = none ∧
        tables.repeated rules signerId payload = false := by
  rw [appendable, eval_query (.selectSignerWithRequest workspaceId signerId) rfl]
  cases tables.signerRequest? workspaceId signerId with
  | none => simp
  | some found =>
      dsimp only
      rw [eval_query (.selectEvent payload.id) rfl]
      cases tables.events.find? payload.id with
      | some existing =>
          simp only [reduceCtorEq, false_and, and_false, iff_false]
          split
          · rw [eval_bind]
            cases eval (SigningTables.exec rules) (readRequest workspaceId found.requestId)
              tables <;> simp
          · simp
      | none =>
          dsimp only
          rw [eval_query (.selectLatest signerId) rfl]
          change eval _ (if tables.repeated rules signerId payload then _ else _) tables = _ ↔ _
          cases tables.repeated rules signerId payload with
          | true => simp
          | false => simp [eq_comm, and_comm]

theorem count_appendable (passes : eval (SigningTables.exec rules)
      (appendable workspaceId signerId payload) tables = .ok (.inr signer, tables)) :
    count (SigningTables.exec rules) (appendable workspaceId signerId payload) tables = 3 := by
  obtain ⟨_, found, absent, distinct⟩ := appendable_iff.mp passes
  rw [appendable, count_query (.selectSignerWithRequest workspaceId signerId) rfl, found]
  dsimp only
  rw [count_query (.selectEvent payload.id) rfl, absent]
  dsimp only
  rw [count_query (.selectLatest signerId) rfl]
  change count _ (if tables.repeated rules signerId payload then _ else _) tables + 1 + 1 + 1 = 3
  rw [distinct]
  rfl

theorem propagates_writeEvent :
    (writeEvent draws workspaceId signerId payload actor signer).Propagates :=
  (Prog.propagates_perform _).bind fun _ => Prog.propagates_perform _

/-- The tables that the block leaves. -/
def SigningTables.appended (tables : SigningTables) (draws : Draws)
    (workspaceId signerId : String) (payload : SignerStatusEventCreate) (actor : Actor)
    (signer : SignerRequest) : SigningTables :=
  (tables.withEvent (eventRow draws signerId payload actor)).withAudit
    (auditRow draws 0 workspaceId signer.contractId actor "signer.status_changed"
      [("request_id", .text signer.requestId), ("signer_id", .text signerId),
        ("status", .text payload.status.value),
        ("note", (payload.note.map Json.text).getD .null)])

variable (rules signerId actor) in
theorem exec_eventRow (absent : tables.events.find? payload.id = none) :
    SigningTables.exec rules tables (.insertEvent (eventRow draws signerId payload actor)) =
      .ok ((), tables.withEvent (eventRow draws signerId payload actor)) := by
  apply exec_insertEvent
  intro other member same
  rw [RowTable.find?_eq_none_iff, List.mem_map] at absent
  exact absent ⟨other, member, same⟩

theorem eval_writeEvent (unused : tables.Unused draws 0)
    (absent : tables.events.find? payload.id = none) :
    eval (SigningTables.exec rules)
        (writeEvent draws workspaceId signerId payload actor signer) tables =
      .ok ((), tables.appended draws workspaceId signerId payload actor signer) := by
  rw [writeEvent, execute, eval_perform, exec_eventRow rules signerId actor absent]
  exact eval_recordAudit unused.audit

theorem count_writeEvent (unused : tables.Unused draws 0)
    (absent : tables.events.find? payload.id = none) :
    count (SigningTables.exec rules)
      (writeEvent draws workspaceId signerId payload actor signer) tables = 2 := by
  have audited : ∀ other ∈ (tables.withEvent (eventRow draws signerId payload actor)).audits.rows,
      other.id ≠ draws.uuid4 0 := unused.audit
  rw [writeEvent, execute, count_perform (exec_eventRow rules signerId actor absent),
    count_recordAudit audited]

theorem twins_writeEvent {draws' : Draws} (unused : tables.Unused draws 0)
    (unused' : tables.Unused draws' 0) (absent : tables.events.find? payload.id = none) :
    Twins (SigningTables.exec rules) (fun _ _ _ _ => True)
      (writeEvent draws workspaceId signerId payload actor signer) tables
      (writeEvent draws' workspaceId signerId payload actor signer) tables := by
  apply twins_perform (exec_eventRow rules signerId actor absent)
    (exec_eventRow rules signerId actor absent)
  exact twins_recordAudit unused.audit unused'.audit trivial

/-- The checks and the block of `append_event` go through. -/
theorem appendEvent_admitted (unused : tables.Unused draws 0) :
    (∃ signer written, Admits (SigningTables.exec rules)
        (appendable workspaceId signerId payload)
        (writeEvent draws workspaceId signerId payload actor) tables signer written) ↔
      (SigningCall.appendEvent workspaceId signerId payload actor).Admitted rules tables := by
  have differs : tables.repeated rules signerId payload = false ↔
      ∀ row, (tables.eventsOf rules signerId).getLast? = some row →
        row.status ≠ payload.status.value := by
    rw [SigningTables.repeated]
    cases (tables.eventsOf rules signerId).getLast? <;> simp
  constructor
  · rintro ⟨signer, written, passes, _⟩
    obtain ⟨_, found, absent, distinct⟩ := appendable_iff.mp passes
    exact ⟨by rw [found]; rfl, absent, differs.mp distinct⟩
  · rintro ⟨located, absent, distinct⟩
    obtain ⟨signer, found⟩ := Option.isSome_iff_exists.mp located
    exact ⟨signer, _, appendable_iff.mpr ⟨rfl, found, absent, differs.mpr distinct⟩,
      eval_writeEvent unused absent⟩

theorem propagates_checkReactivation : (checkReactivation request).Propagates := by
  unfold checkReactivation Prog.onlyIf
  split
  · apply (Prog.propagates_perform _).bind
    intro other
    split <;> trivial
  · trivial

/-- What `_sync_request_active_flag` lets through. -/
theorem checkReactivation_iff :
    eval (SigningTables.exec rules) (checkReactivation request) tables = .ok ((), reached) ↔
      reached = tables ∧ (request.status.terminal = false →
        ∀ other, tables.active? request.workspaceId request.contractId = some other →
          other.id = request.id) := by
  unfold checkReactivation
  cases request.status.terminal with
  | true => simp [Prog.onlyIf, eval, eq_comm]
  | false =>
      change eval _ (execute (.selectActive request.workspaceId request.contractId) >>= _)
        tables = _ ↔ _
      rw [eval_query (.selectActive request.workspaceId request.contractId) rfl]
      cases tables.active? request.workspaceId request.contractId with
      | none => simp [eq_comm]
      | some other =>
          by_cases same : other.id = request.id
          · simp [same, eq_comm]
          · simp [same]

/-- The tables with the flag of a request. -/
def SigningTables.withFlag (tables : SigningTables) (requestId : String) (active : Bool)
    (now : Int) : SigningTables :=
  { tables with
    requests := tables.requests.updateWhere (fun row => row.id = requestId)
      (SigningTables.setActive active now) }

theorem exec_updateActive (member : row ∈ tables.requests.rows) :
    SigningTables.exec rules tables (.updateActive row.id active now) =
      if active && tables.occupied row.contractId row.id then
        .error (.unique "ux_signing_requests_active_contract")
      else .ok ((), tables.withFlag row.id active now) := by
  have found : tables.requests.find? row.id = some row :=
    RowTable.find?_eq_some_iff.mpr ⟨member, rfl⟩
  simp only [SigningTables.exec, found, Option.any_some]
  rfl

theorem updateActive_iff (member : row ∈ tables.requests.rows) :
    eval (SigningTables.exec rules) (updateActive row.id active now) tables =
        .ok ((), reached) ↔
      reached = tables.withFlag row.id active now ∧
        (active = true → tables.occupied row.contractId row.id = false) := by
  have computed : eval (SigningTables.exec rules) (updateActive row.id active now) tables =
      SigningTables.exec rules tables (.updateActive row.id active now) := eval_single _ _
  rw [computed, exec_updateActive member]
  cases active with
  | false => exact ⟨fun same => by cases same; simp, fun same => by rw [same.1]; rfl⟩
  | true =>
      cases free : tables.occupied row.contractId row.id with
      | true => exact ⟨fun refused => (nomatch refused), fun same => nomatch same.2 rfl⟩
      | false => exact ⟨fun same => by cases same; simp, fun same => by rw [same.1]; rfl⟩

/-- A request with another flag can be read as before. -/
theorem readable_withFlag
    (found : tables.read rules workspaceId requestId = .ok (some request)) :
    ∃ request, (tables.withFlag requestId active now).read rules workspaceId requestId =
      .ok (some request) := by
  obtain ⟨row, title, _, joined, _⟩ := read_eq_some_iff.mp found
  obtain ⟨_, member, identified, same, contract, contracted, owned, titled⟩ :=
    requestRows_eq_cons_iff.mp joined
  have joined' : (tables.withFlag requestId active now).requestRows workspaceId requestId =
      [((SigningTables.setActive active now).apply row, title)] := by
    rw [requestRows_eq_cons_iff]
    refine ⟨rfl, ?_, identified, same, contract, contracted, owned, titled⟩
    refine List.mem_map.mpr ⟨row, member, ?_⟩
    rw [if_pos (by simpa using identified)]
  have before : tables.Legible requestId := legible_of_read found
  have legible : (tables.withFlag requestId active now).Legible requestId := before
  exact read_of_legible joined' legible

variable (draws) in
/-- The end of `_sync_request_active_flag`. -/
theorem succeeds_setFlag_iff {next : Unit → SigningProg SigningRequestOut}
    (member : row ∈ tables.requests.rows) :
    Succeeds (SigningTables.exec rules)
        (Prog.onlyIf (row.active != active)
          (block (updateActive row.id active draws.now)) >>= next) (.idle tables) ↔
      (row.active ≠ active → active = true → tables.occupied row.contractId row.id = false) ∧
        Succeeds (SigningTables.exec rules) (next ()) (.idle
          (if row.active = active then tables else tables.withFlag row.id active draws.now)) := by
  by_cases same : row.active = active
  · have skipped : (row.active != active) = false := by simp [same]
    rw [skipped, if_pos same]
    exact ⟨fun succeeds => ⟨fun differs => absurd same differs, succeeds⟩, fun both => both.2⟩
  · have changed : (row.active != active) = true := by simpa using same
    rw [changed, if_neg same]
    change Succeeds _ (block (updateActive row.id active draws.now) >>= next) _ ↔ _
    have propagates : (updateActive row.id active draws.now).Propagates :=
      Prog.propagates_perform _
    rw [succeeds_block_iff propagates]
    constructor
    · rintro ⟨_, reached, computed, succeeds⟩
      obtain ⟨rfl, free⟩ := (updateActive_iff member).mp computed
      exact ⟨fun _ => free, succeeds⟩
    · rintro ⟨free, succeeds⟩
      exact ⟨(), _, (updateActive_iff member).mpr ⟨rfl, free same⟩, succeeds⟩

theorem succeeds_sync_iff {next : Unit → SigningProg SigningRequestOut}
    (found : tables.read rules workspaceId requestId = .ok (some request)) :
    Succeeds (SigningTables.exec rules) (syncRequestActiveFlag draws request >>= next)
        (.idle tables) ↔
      tables.FlagSettles request ∧
        Succeeds (SigningTables.exec rules) (next ()) (.idle
          (if request.active = !request.status.terminal then tables
            else tables.withFlag request.id (!request.status.terminal) draws.now)) := by
  obtain ⟨row, title, signers, joined, _, rfl⟩ := read_eq_some_iff.mp found
  obtain ⟨_, member, _⟩ := requestRows_eq_cons_iff.mp joined
  rw [syncRequestActiveFlag, Prog.bind_bind,
    succeeds_statements_iff propagates_checkReactivation]
  constructor
  · rintro ⟨_, reached, computed, succeeds⟩
    obtain ⟨rfl, unrivalled⟩ := checkReactivation_iff.mp computed
    obtain ⟨free, succeeds⟩ := (succeeds_setFlag_iff draws member).mp succeeds
    refine ⟨fun open_ => ⟨unrivalled open_, ?_⟩, succeeds⟩
    intro inactive
    have inactive : row.active = false := inactive
    have open_ : (row.out title signers).status.terminal = false := open_
    apply free
    · simp [inactive, open_]
    · simp [open_]
  · rintro ⟨settles, succeeds⟩
    refine ⟨(), tables, checkReactivation_iff.mpr ⟨rfl, fun open_ => (settles open_).1⟩, ?_⟩
    refine (succeeds_setFlag_iff draws member).mpr ⟨?_, succeeds⟩
    intro differs asked
    have open_ : (row.out title signers).status.terminal = false := by simpa using asked
    refine (settles open_).2 ?_
    change row.active = false
    simpa [open_] using differs

/-- Reading does not look at the audit. -/
theorem read_withAudit (row : SigningAuditRow) :
    (tables.withAudit row).read rules workspaceId requestId =
      tables.read rules workspaceId requestId := by
  have built (rows : List SignerRow) :
      (tables.withAudit row).signerOuts rules rows = tables.signerOuts rules rows := by
    induction rows with
    | nil => rfl
    | cons signer rows induction =>
        rw [SigningTables.signerOuts, SigningTables.signerOuts, induction]
        rfl
  rw [SigningTables.read, SigningTables.read]
  simp only [built]
  rfl

/-- What follows the commit of `append_event`. -/
def settleEvent (draws : Draws) (workspaceId requestId : String) :
    SigningProg SigningRequestOut := do
  let request ← statements (readRequest workspaceId requestId)
  let _ ← syncRequestActiveFlag draws request
  statements (readRequest workspaceId requestId)

theorem propagates_settleEvent : (settleEvent draws workspaceId requestId).Propagates := by
  apply (propagates_statements propagates_readRequest).bind
  intro request
  apply Prog.Propagates.bind
  · apply (propagates_statements propagates_checkReactivation).bind
    intro _
    unfold Prog.onlyIf
    split
    · exact propagates_block (Prog.propagates_perform _)
    · trivial
  · exact fun _ => propagates_statements propagates_readRequest

theorem succeeds_readRequest_iff :
    Succeeds (SigningTables.exec rules) (statements (readRequest workspaceId requestId))
        (.idle tables) ↔
      ∃ request, tables.read rules workspaceId requestId = .ok (some request) := by
  rw [succeeds_single_iff propagates_readRequest]
  constructor
  · rintro ⟨request, written, computed⟩
    exact ⟨request, (eval_readRequest_iff.mp computed).1⟩
  · rintro ⟨request, found⟩
    exact ⟨request, tables, eval_readRequest_iff.mpr ⟨found, rfl⟩⟩

theorem succeeds_settleEvent_iff :
    Succeeds (SigningTables.exec rules) (settleEvent draws workspaceId requestId)
        (.idle tables) ↔
      ∃ request, tables.read rules workspaceId requestId = .ok (some request) ∧
        tables.FlagSettles request := by
  rw [settleEvent, succeeds_statements_iff propagates_readRequest]
  constructor
  · rintro ⟨request, written, computed, succeeds⟩
    obtain ⟨found, rfl⟩ := eval_readRequest_iff.mp computed
    exact ⟨request, found, ((succeeds_sync_iff found).mp succeeds).1⟩
  · rintro ⟨request, found, settles⟩
    refine ⟨request, tables, eval_readRequest_iff.mpr ⟨found, rfl⟩, ?_⟩
    refine (succeeds_sync_iff found).mpr ⟨settles, ?_⟩
    obtain ⟨row, title, signers, joined, _, built⟩ := read_eq_some_iff.mp found
    obtain ⟨_, _, identified, _⟩ := requestRows_eq_cons_iff.mp joined
    have named : request.id = requestId := by
      rw [built]
      exact identified
    rw [named]
    split
    · exact succeeds_readRequest_iff.mpr ⟨request, found⟩
    · exact succeeds_readRequest_iff.mpr (readable_withFlag found)

theorem appendEvent_atomic_iff {choices : List (BlockChoice SigningExn)}
    {after : BlockState SigningTables} {result : Except SigningExn SigningRequestOut}
    (unused : tables.Unused draws 0)
    (run : (appendEvent draws workspaceId signerId payload actor).finish
      (respond (SigningTables.exec rules)) (.idle tables) choices = some (result, after)) :
    AtomicOnError rules tables choices (.appendEvent workspaceId signerId payload actor)
        result after ↔
      (SigningCall.appendEvent workspaceId signerId payload actor).HoldsWhen rules draws
        tables choices := by
  apply atomic_iff_of_stages (.appendEvent workspaceId signerId payload actor)
    (fun _ => rfl) calls_appendable propagates_appendable (fun _ => propagates_writeEvent)
    (appendEvent_admitted unused)
  · rintro signer written ⟨passes, writes⟩
    obtain ⟨_, found, absent, _⟩ := appendable_iff.mp passes
    cases (eval_writeEvent unused absent).symm.trans writes
    refine ⟨?_, ?_, ?_⟩
    · rw [stage, count_appendable passes, count_writeEvent unused absent,
        SigningCall.firstTransaction]
    · have audited : ∀ other ∈ (tables.withEvent
          (eventRow draws signerId payload actor)).audits.rows, other.id ≠ draws.uuid4 0 :=
        unused.audit
      rw [SigningTables.appended, rows_withAudit audited, List.length_append]
      exact Nat.lt_succ_self _
    · intro choices result after run
      rw [returns_iff propagates_settleEvent run, succeeds_settleEvent_iff]
      refine and_congr_right fun _ => ?_
      rw [SigningCall.Settles, SigningTables.appended, read_withAudit]
      constructor
      · rintro ⟨request, readable, settles⟩ other located
        cases found.symm.trans located
        exact ⟨request, readable, settles⟩
      · intro settles
        exact settles signer found
  · intro draws' fresh' signer passes
    obtain ⟨_, _, absent, _⟩ := appendable_iff.mp passes
    exact ⟨_, twins_writeEvent unused fresh'.toUnused absent⟩
  · exact run

end Appending

/-- For every state of the tables and however the statements fare: an operation that raises
leaves the tables as they were and raises again when it is repeated, exactly when no exception
comes after its first commit. -/
theorem atomic_iff (rules : TextRules) {tables : SigningTables} {draws : Draws}
    (fresh : tables.Fresh draws) (call : SigningCall) {choices : List (BlockChoice SigningExn)}
    {result : Except SigningExn SigningRequestOut} {after : BlockState SigningTables}
    (run : (call.program rules draws).finish (respond (SigningTables.exec rules))
      (.idle tables) choices = some (result, after)) :
    AtomicOnError rules tables choices call result after ↔
      call.HoldsWhen rules draws tables choices := by
  cases call with
  | createRequest workspaceId contractId signers actor => exact createRequest_atomic_iff fresh run
  | addSigner workspaceId requestId signer actor =>
      exact addSigner_atomic_iff fresh.toUnused run
  | appendEvent workspaceId signerId payload actor =>
      exact appendEvent_atomic_iff fresh.toUnused run

/-! ## A request that cannot be reopened -/

def sampleRules : TextRules where
  casefold text := text
  lower text := text
  sqlLower text := text
  precedes first second := decide (first ≤ second)

def sampleDraws : Draws where
  now := 100
  uuid4 drawn := String.ofList (List.replicate (drawn + 20) 'x')
  distinct := by
    intro first second same
    have lengths := congrArg (fun text : String => text.toList.length) same
    simpa using lengths

def sampleActor : Actor := ⟨"owner@example.com", "Owner"⟩

/-- A contract with a declined request and an active one. -/
def sampleTables : SigningTables where
  contracts := ⟨[⟨"contract", "workspace", "Lease", some "version"⟩], by simp⟩
  requests := ⟨[⟨"declined", "workspace", "contract", "version", false, "owner", 1, some 5⟩,
    ⟨"active", "workspace", "contract", "version", true, "owner", 6, none⟩], by decide⟩
  signers := ⟨[⟨"signer", "declined", "Ada", "ada@example.com".toList, none, true, 0, 1⟩],
    by simp⟩
  events := ⟨[⟨"added", "signer", "pending", none, "owner", "Owner", 1⟩,
    ⟨"refused", "signer", "declined", none, "owner", "Owner", 5⟩], by decide⟩

theorem fresh_sample : sampleTables.Fresh sampleDraws := by
  have apart (text : String) (short : text.toList.length < 20) (drawn : Nat) :
      text ≠ sampleDraws.uuid4 drawn := by
    intro same
    have lengths := congrArg (fun text : String => text.toList.length) same
    have long : (sampleDraws.uuid4 drawn).toList.length = drawn + 20 := by
      simp [sampleDraws]
    omega
  refine ⟨⟨?_, ?_, ?_, ?_, ?_⟩, ?_⟩
  · intro row member drawn _
    have short : ∀ row ∈ sampleTables.requests.rows, row.id.toList.length < 20 := by decide
    exact apart _ (short row member) drawn
  · intro row member drawn _
    have short : ∀ row ∈ sampleTables.signers.rows, row.id.toList.length < 20 := by decide
    exact apart _ (short row member) drawn
  · intro row member drawn _
    have short : ∀ row ∈ sampleTables.events.rows, row.id.toList.length < 20 := by decide
    exact apart _ (short row member) drawn
  · intro row member drawn _
    have short : ∀ row ∈ sampleTables.events.rows, row.signerId.toList.length < 20 := by decide
    exact apart _ (short row member) drawn
  · exact fun row member => nomatch member
  · intro row member drawn
    have short : ∀ row ∈ sampleTables.signers.rows,
        row.signingRequestId.toList.length < 20 := by decide
    exact apart _ (short row member) drawn

/-- The signer who declined is sent the request again. -/
def sampleCall (status : SignerStatus) : SigningCall :=
  .appendEvent "workspace" "signer" ⟨"event", status, none⟩ sampleActor

/-- A sample run in which every statement is executed. -/
def sampleRun (status : SignerStatus) (statements : Nat) (tables : SigningTables) :
    Option (Except SigningExn SigningRequestOut × BlockState SigningTables) :=
  ((sampleCall status).program sampleRules sampleDraws).finish
    (respond (SigningTables.exec sampleRules)) (.idle tables)
    (List.replicate statements .executes)

/-- Repeating a status raises before anything is written. -/
theorem atomic_iff_sample : ∃ result after,
    sampleRun .declined 3 sampleTables = some (result, after) ∧
      AtomicOnError sampleRules sampleTables (List.replicate 3 .executes)
        (sampleCall .declined) result after := by
  have ends : (sampleRun .declined 3 sampleTables).isSome := by decide
  obtain ⟨⟨result, after⟩, run⟩ := Option.isSome_iff_exists.mp ends
  refine ⟨result, after, run, (atomic_iff sampleRules fresh_sample _ run).mpr ?_⟩
  rintro ⟨_, _, differs⟩
  exact absurd rfl (differs ⟨"refused", "signer", "declined", none, "owner", "Owner", 5⟩
    (by decide))

/-- What a run raises, and the events it leaves. -/
def raisedWith (outcome : Except SigningExn SigningRequestOut × BlockState SigningTables) :
    Option SigningExn × List String :=
  (match outcome.1 with
    | .error error => some error
    | .ok _ => none,
    outcome.2.committed.events.rows.map StatusEventRow.id)

/-- The event is stored, the call raises, and the same call then returns the request. -/
theorem reopening_is_stored : ∃ error after,
    sampleRun .sent 10 sampleTables = some (.error error, after) ∧
      ¬ AtomicOnError sampleRules sampleTables (List.replicate 10 .executes)
        (sampleCall .sent) (.error error) after ∧
      ∃ request last, sampleRun .sent 5 after.committed = some (.ok request, last) := by
  have computed : (sampleRun .sent 10 sampleTables).map raisedWith =
      some (some (.conflict
        "Cannot reactivate this request while another signing request is active."
        "active_request_exists"), ["added", "refused", "event"]) := by decide
  obtain ⟨⟨result, after⟩, run, shown⟩ := Option.map_eq_some_iff.mp computed
  have repeated : ((sampleRun .sent 10 sampleTables).bind fun outcome =>
      sampleRun .sent 5 outcome.2.committed).map (fun outcome => outcome.1.toOption.isSome) =
        some true := by decide
  simp only [raisedWith, Prod.mk.injEq] at shown
  cases result with
  | ok request => simp at shown
  | error error =>
      refine ⟨error, after, run, ?_, ?_⟩
      · intro atomic
        have kept := (atomic error rfl).1
        rw [kept] at shown
        exact absurd shown.2 (by decide)
      · rw [run, Option.bind_some] at repeated
        obtain ⟨⟨result, last⟩, again, returned⟩ := Option.map_eq_some_iff.mp repeated
        cases result with
        | ok request => exact ⟨request, last, again⟩
        | error error => simp [Except.toOption] at returned

end SigningRequests

end ContractMate
