import ContractMate.SigningRequests

/-!
# Reading signing requests

What `get_request` computes, how many statements it takes, and when a request can be read.
-/

namespace ContractMate

namespace SigningRequests

open TransactionBlock PythonText
open ReadCommitted (statements)

namespace SigningTables

variable (rules : TextRules) (tables : SigningTables)

/-- The signers of `_build_request`, up to the first whose events cannot be read. -/
def signerOuts : List SignerRow → Except SigningExn (List SignerOut)
  | [] => .ok []
  | row :: rows =>
      match eventOuts (tables.eventsOf rules row.id) with
      | .error error => .error error
      | .ok events => (signerOuts rows).map fun signers => row.out events :: signers

/-- What `get_request` returns. -/
def read (workspaceId requestId : String) : Except SigningExn (Option SigningRequestOut) :=
  match tables.requestRows workspaceId requestId with
  | [] => .ok none
  | row :: _ =>
      (tables.signerOuts rules (tables.signersOf row.1.id)).map fun signers =>
        some (row.1.out row.2 signers)

/-- The statuses of the request's signers can be read. -/
def Legible (requestId : String) : Prop :=
  ∀ signer ∈ tables.signers.rows, signer.signingRequestId = requestId →
    ∀ event ∈ tables.events.rows, event.signerId = signer.id →
      (SignerStatus.ofValue? event.status).isSome

end SigningTables

section Reading

variable {rules : TextRules} {tables : SigningTables} {workspaceId requestId : String}

theorem eventOuts_isOk_iff (rows : List StatusEventRow) :
    (∃ events, eventOuts rows = .ok events) ↔
      ∀ row ∈ rows, (SignerStatus.ofValue? row.status).isSome := by
  induction rows with
  | nil => simp [eventOuts]
  | cons row rows induction =>
      rw [List.forall_mem_cons, ← induction]
      cases status : SignerStatus.ofValue? row.status with
      | none => simp [eventOuts, StatusEventRow.out?, status]
      | some status' =>
          cases later : eventOuts rows <;>
            simp [eventOuts, StatusEventRow.out?, status, later, Except.map]

theorem mem_eventsOf {signerId : String} {event : StatusEventRow} :
    event ∈ tables.eventsOf rules signerId ↔
      event ∈ tables.events.rows ∧ event.signerId = signerId := by
  simp [SigningTables.eventsOf]

theorem mem_signersOf {signer : SignerRow} :
    signer ∈ tables.signersOf requestId ↔
      signer ∈ tables.signers.rows ∧ signer.signingRequestId = requestId := by
  simp [SigningTables.signersOf]

theorem signerOuts_isOk_iff (rows : List SignerRow) :
    (∃ signers, tables.signerOuts rules rows = .ok signers) ↔
      ∀ row ∈ rows, ∃ events, eventOuts (tables.eventsOf rules row.id) = .ok events := by
  induction rows with
  | nil => simp [SigningTables.signerOuts]
  | cons row rows induction =>
      rw [List.forall_mem_cons, ← induction]
      cases first : eventOuts (tables.eventsOf rules row.id) with
      | error error => simp [SigningTables.signerOuts, first]
      | ok events =>
          cases later : tables.signerOuts rules rows <;>
            simp [SigningTables.signerOuts, first, later, Except.map]

variable (rules) in
/-- The request's signers can be read exactly when their statuses can. -/
theorem legible_iff :
    (∃ signers, tables.signerOuts rules (tables.signersOf requestId) = .ok signers) ↔
      tables.Legible requestId := by
  simp only [signerOuts_isOk_iff, eventOuts_isOk_iff, mem_signersOf, mem_eventsOf,
    SigningTables.Legible, and_imp]

theorem requestRows_eq_cons_iff {row : SigningRequestRow × String}
    {rows : List (SigningRequestRow × String)} :
    tables.requestRows workspaceId requestId = row :: rows ↔
      rows = [] ∧ row.1 ∈ tables.requests.rows ∧ row.1.id = requestId ∧
        row.1.workspaceId = workspaceId ∧
        ∃ contract ∈ tables.contracts.rows, contract.id = row.1.contractId ∧
          contract.title = row.2 := by
  obtain ⟨request, title⟩ := row
  rw [SigningTables.requestRows]
  constructor
  · intro found
    cases joined : ((tables.requests.find? requestId).filter
        fun row => row.workspaceId = workspaceId).bind fun row =>
          (tables.contracts.find? row.contractId).map fun contract =>
            (row, contract.title) with
    | none => simp [joined] at found
    | some pair =>
        rw [joined, Option.toList_some] at found
        cases found
        obtain ⟨row, kept, mapped⟩ := Option.bind_eq_some_iff.mp joined
        obtain ⟨located, same⟩ := Option.filter_eq_some_iff.mp kept
        obtain ⟨contract, contracted, same'⟩ := Option.map_eq_some_iff.mp mapped
        cases same'
        obtain ⟨member, identified⟩ := RowTable.find?_eq_some_iff.mp located
        obtain ⟨member', identified'⟩ := RowTable.find?_eq_some_iff.mp contracted
        exact ⟨rfl, member, identified, by simpa using same, contract, member', identified',
          rfl⟩
  · rintro ⟨rfl, member, identified, same, contract, member', identified', titled⟩
    have located : tables.requests.find? requestId = some request :=
      RowTable.find?_eq_some_iff.mpr ⟨member, identified⟩
    have contracted : tables.contracts.find? request.contractId = some contract :=
      RowTable.find?_eq_some_iff.mpr ⟨member', identified'⟩
    have same : request.workspaceId = workspaceId := same
    have titled : contract.title = title := titled
    simp [located, contracted, same, titled, Option.filter]

variable {request : SigningRequestOut} {Value : Type}

theorem read_eq_some_iff :
    tables.read rules workspaceId requestId = .ok (some request) ↔
      ∃ row title signers, tables.requestRows workspaceId requestId = [(row, title)] ∧
        tables.signerOuts rules (tables.signersOf requestId) = .ok signers ∧
        request = row.out title signers := by
  rw [SigningTables.read]
  cases found : tables.requestRows workspaceId requestId with
  | nil => simp
  | cons pair rows =>
      obtain ⟨rfl, _, identified, _⟩ := requestRows_eq_cons_iff.mp found
      obtain ⟨row, title⟩ := pair
      obtain rfl : row.id = requestId := identified
      cases built : tables.signerOuts rules (tables.signersOf row.id) with
      | error error => simp [built, Except.map]
      | ok signers => simp [built, Except.map, eq_comm]

theorem legible_of_read
    (found : tables.read rules workspaceId requestId = .ok (some request)) :
    tables.Legible requestId := by
  obtain ⟨row, title, signers, _, built, _⟩ := read_eq_some_iff.mp found
  exact (legible_iff rules).mp ⟨signers, built⟩

/-- A legible request with its contract can be read. -/
theorem read_of_legible {row : SigningRequestRow × String}
    (found : tables.requestRows workspaceId requestId = [row])
    (legible : tables.Legible requestId) :
    ∃ request, tables.read rules workspaceId requestId = .ok (some request) := by
  obtain ⟨signers, built⟩ := (legible_iff rules).mpr legible
  exact ⟨row.1.out row.2 signers, read_eq_some_iff.mpr ⟨_, _, signers, found, built, rfl⟩⟩

/-- A request that could be read still can be when its statuses can. -/
theorem read_of_same {written : SigningTables}
    (found : tables.read rules workspaceId requestId = .ok (some request))
    (requests : written.requests = tables.requests)
    (contracts : written.contracts = tables.contracts) (legible : written.Legible requestId) :
    ∃ request, written.read rules workspaceId requestId = .ok (some request) := by
  obtain ⟨row, title, _, joined, _⟩ := read_eq_some_iff.mp found
  have joined' : written.requestRows workspaceId requestId = [(row, title)] := by
    rw [SigningTables.requestRows, requests, contracts]
    exact joined
  exact read_of_legible joined' legible

theorem propagates_raised (value : Except SigningExn Value) :
    (raised value).Propagates := by
  cases value <;> trivial

theorem propagates_buildSigners (rows : List SignerRow) : (buildSigners rows).Propagates := by
  induction rows with
  | nil => trivial
  | cons row rows induction =>
      apply Prog.Propagates.bind
      · apply (Prog.propagates_perform _).bind
        intro events
        exact (propagates_raised _).bind fun _ => trivial
      · intro signer
        exact induction.bind fun _ => trivial

theorem propagates_getRequest : (getRequest workspaceId requestId).Propagates := by
  apply (Prog.propagates_perform _).bind
  rintro (_ | ⟨row, rows⟩)
  · trivial
  · apply Prog.Propagates.bind
    · apply (Prog.propagates_perform _).bind
      intro signers
      exact (propagates_buildSigners _).bind fun _ => trivial
    · exact fun _ => trivial

theorem propagates_readRequest : (readRequest workspaceId requestId).Propagates := by
  apply propagates_getRequest.bind
  rintro (_ | request)
  · trivial
  · trivial

variable (rules) in
/-- A statement that writes nothing. -/
abbrev Reads (statement : SigningStatement) : Prop :=
  ∀ tables reply written, SigningTables.exec rules tables statement = .ok (reply, written) →
    written = tables

theorem calls_raised (value : Except SigningExn Value) :
    (raised value).Calls (Reads rules) := by
  cases value <;> trivial

/-- A query reads. -/
theorem calls_query {statement : SigningStatement} {reply : SigningTables → statement.Ret}
    (query : ∀ tables, SigningTables.exec rules tables statement = .ok (reply tables, tables)) :
    (execute statement).Calls (Reads rules) := by
  apply Prog.calls_perform
  intro tables answer written executed
  rw [query] at executed
  cases executed
  rfl

theorem calls_buildSigners (rows : List SignerRow) :
    (buildSigners rows).Calls (Reads rules) := by
  induction rows with
  | nil => trivial
  | cons row rows induction =>
      apply Prog.Calls.bind
      · apply (calls_query fun _ => rfl).bind
        intro events
        exact (calls_raised _).bind fun _ => Prog.calls_pure
      · intro signer
        exact induction.bind fun _ => Prog.calls_pure

theorem calls_getRequest : (getRequest workspaceId requestId).Calls (Reads rules) := by
  apply (calls_query fun _ => rfl).bind
  rintro (_ | ⟨row, rows⟩)
  · trivial
  · apply Prog.Calls.bind
    · apply (calls_query fun _ => rfl).bind
      intro signers
      exact (calls_buildSigners _).bind fun _ => Prog.calls_pure
    · exact fun _ => Prog.calls_pure

theorem calls_readRequest : (readRequest workspaceId requestId).Calls (Reads rules) := by
  apply calls_getRequest.bind
  rintro (_ | request)
  · trivial
  · trivial

/-- A query in front of a body. -/
theorem eval_query (statement : SigningStatement) {reply : statement.Ret}
    {next : statement.Ret → SigningBody Value}
    (executed : SigningTables.exec rules tables statement = .ok (reply, tables)) :
    eval (SigningTables.exec rules) (execute statement >>= next) tables =
      eval (SigningTables.exec rules) (next reply) tables := by
  rw [execute, eval_perform, executed]

theorem count_query (statement : SigningStatement) {reply : statement.Ret}
    {next : statement.Ret → SigningBody Value}
    (executed : SigningTables.exec rules tables statement = .ok (reply, tables)) :
    count (SigningTables.exec rules) (execute statement >>= next) tables =
      count (SigningTables.exec rules) (next reply) tables + 1 :=
  count_perform executed

theorem eval_buildSigners (rows : List SignerRow) :
    eval (SigningTables.exec rules) (buildSigners rows) tables =
      (tables.signerOuts rules rows).map fun signers => (signers, tables) := by
  induction rows with
  | nil => rfl
  | cons row rows induction =>
      have first : eval (SigningTables.exec rules) (buildSigner row) tables =
          (eventOuts (tables.eventsOf rules row.id)).map fun events =>
            (row.out events, tables) := by
        rw [buildSigner, eval_query (.selectEvents row.id) rfl]
        cases eventOuts (tables.eventsOf rules row.id) <;> rfl
      rw [buildSigners, eval_bind, first, SigningTables.signerOuts]
      cases eventOuts (tables.eventsOf rules row.id) with
      | error error => rfl
      | ok events =>
          change eval _ (buildSigners rows >>= _) tables = _
          rw [eval_bind, induction]
          cases tables.signerOuts rules rows <;> rfl

theorem eval_getRequest :
    eval (SigningTables.exec rules) (getRequest workspaceId requestId) tables =
      (tables.read rules workspaceId requestId).map fun request => (request, tables) := by
  rw [getRequest, eval_query (.selectRequest workspaceId requestId) rfl,
    SigningTables.read]
  cases tables.requestRows workspaceId requestId with
  | nil => rfl
  | cons row rows =>
      change eval _ (buildRequest row >>= _) tables =
        ((tables.signerOuts rules (tables.signersOf row.1.id)).map fun signers =>
          some (row.1.out row.2 signers)).map fun request => (request, tables)
      rw [eval_bind, buildRequest, eval_query (.selectSigners row.1.id) rfl,
        eval_bind, eval_buildSigners]
      cases tables.signerOuts rules (tables.signersOf row.1.id) <;> rfl

theorem eval_readRequest_iff {written : SigningTables} :
    eval (SigningTables.exec rules) (readRequest workspaceId requestId) tables =
        .ok (request, written) ↔
      tables.read rules workspaceId requestId = .ok (some request) ∧ written = tables := by
  rw [readRequest, eval_bind, eval_getRequest]
  cases tables.read rules workspaceId requestId with
  | error error => simp [Except.map]
  | ok found =>
      cases found with
      | none =>
          change (Except.error _ = _) ↔ _
          simp
      | some out =>
          change (Except.ok _ = _) ↔ _
          simp [eq_comm]

theorem count_buildSigners {rows : List SignerRow} {signers : List SignerOut}
    (built : tables.signerOuts rules rows = .ok signers) :
    count (SigningTables.exec rules) (buildSigners rows) tables = rows.length := by
  induction rows generalizing signers with
  | nil => rfl
  | cons row rows induction =>
      rw [SigningTables.signerOuts] at built
      cases events : eventOuts (tables.eventsOf rules row.id) with
      | error error => simp [events] at built
      | ok outs =>
          cases later : tables.signerOuts rules rows with
          | error error => simp [events, later, Except.map] at built
          | ok rest =>
              have first : eval (SigningTables.exec rules) (buildSigner row) tables =
                  .ok (row.out outs, tables) := by
                rw [buildSigner, eval_query (.selectEvents row.id) rfl, events]
                rfl
              have counted : count (SigningTables.exec rules) (buildSigner row) tables = 1 := by
                rw [buildSigner, count_query (.selectEvents row.id) rfl, events]
                rfl
              have after : eval (SigningTables.exec rules) (buildSigners rows) tables =
                  .ok (rest, tables) := by
                rw [eval_buildSigners, later]
                rfl
              rw [buildSigners, count_bind first, counted, count_bind after,
                induction later, List.length_cons]
              exact Nat.add_comm _ _

theorem count_getRequest
    (found : tables.read rules workspaceId requestId = .ok (some request)) :
    count (SigningTables.exec rules) (getRequest workspaceId requestId) tables =
      (tables.signersOf requestId).length + 2 := by
  obtain ⟨row, title, signers, rows, built, _⟩ := read_eq_some_iff.mp found
  obtain ⟨_, _, identified, _⟩ := requestRows_eq_cons_iff.mp rows
  obtain rfl : row.id = requestId := identified
  have after : eval (SigningTables.exec rules) (buildSigners (tables.signersOf row.id)) tables =
      .ok (signers, tables) := by
    rw [eval_buildSigners, built]
    rfl
  have counted : count (SigningTables.exec rules) (buildRequest (row, title)) tables =
      (tables.signersOf row.id).length + 1 := by
    rw [buildRequest, count_query (.selectSigners row.id) rfl, count_bind after,
      count_buildSigners built]
    rfl
  have returned : eval (SigningTables.exec rules) (buildRequest (row, title)) tables =
      .ok (row.out title signers, tables) := by
    rw [buildRequest, eval_query (.selectSigners row.id) rfl, eval_bind, after]
    rfl
  rw [getRequest, count_query (.selectRequest workspaceId row.id) rfl, rows]
  change count _ (buildRequest (row, title) >>= _) tables + 1 = _
  rw [count_bind returned, counted]
  rfl

end Reading

end SigningRequests

end ContractMate
