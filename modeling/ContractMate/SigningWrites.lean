import ContractMate.SigningReads

/-!
# Writing signing requests

What the blocks of the operations compute when `uuid4` draws identifiers that the tables do
not hold, and that other identifiers make no difference to how their statements fare.
-/

namespace ContractMate

namespace SigningRequests

open TransactionBlock PythonText
open ReadCommitted (statements)

/-! ## Drawn identifiers -/

namespace SigningTables

/-- No row has an identifier, and no event a signer, that is drawn from `position` on. -/
structure Unused (draws : Draws) (position : Nat) (tables : SigningTables) : Prop where
  requests : ∀ row ∈ tables.requests.rows, ∀ drawn ≥ position, row.id ≠ draws.uuid4 drawn
  signers : ∀ row ∈ tables.signers.rows, ∀ drawn ≥ position, row.id ≠ draws.uuid4 drawn
  events : ∀ row ∈ tables.events.rows, ∀ drawn ≥ position, row.id ≠ draws.uuid4 drawn
  subjects : ∀ row ∈ tables.events.rows, ∀ drawn ≥ position,
    row.signerId ≠ draws.uuid4 drawn
  audits : ∀ row ∈ tables.audits.rows, ∀ drawn ≥ position, row.id ≠ draws.uuid4 drawn

/-- `uuid4` draws identifiers that the tables do not hold. -/
structure Fresh (draws : Draws) (tables : SigningTables) : Prop extends
    Unused draws 0 tables where
  owners : ∀ row ∈ tables.signers.rows, ∀ drawn, row.signingRequestId ≠ draws.uuid4 drawn

theorem Unused.audit {draws : Draws} {position : Nat} {tables : SigningTables}
    (unused : Unused draws position tables) :
    ∀ row ∈ tables.audits.rows, row.id ≠ draws.uuid4 position :=
  fun row member => unused.audits row member position Nat.le.refl

theorem Unused.later {draws : Draws} {position later : Nat} {tables : SigningTables}
    (unused : Unused draws position tables) (after : position ≤ later) :
    Unused draws later tables where
  requests row member drawn late := unused.requests row member drawn (after.trans late)
  signers row member drawn late := unused.signers row member drawn (after.trans late)
  events row member drawn late := unused.events row member drawn (after.trans late)
  subjects row member drawn late := unused.subjects row member drawn (after.trans late)
  audits row member drawn late := unused.audits row member drawn (after.trans late)

end SigningTables

section Inserts

variable {rules : TextRules} {draws draws' : Draws} {tables tables' : SigningTables}
  {position : Nat}

theorem insert?_of_absent {Row : Type} {key : Row → String} {table : RowTable key} {row : Row}
    (absent : ∀ other ∈ table.rows, key other ≠ key row) :
    table.insert? row = some (table.insertIgnore row) ∧
      (table.insertIgnore row).rows = table.rows ++ [row] := by
  have free : table.find? (key row) = none := by
    rw [RowTable.find?_eq_none_iff, List.mem_map]
    rintro ⟨other, member, same⟩
    exact absent other member same
  cases attempt : table.insert? row with
  | none => simp [RowTable.insert?_eq_none_iff, free] at attempt
  | some inserted =>
      have written : table.insertIgnore row = inserted := by
        rw [RowTable.insertIgnore, attempt, Option.getD_some]
      rw [written]
      exact ⟨rfl, RowTable.rows_of_insert? attempt⟩

theorem exec_insertRequest {row : SigningRequestRow}
    (absent : ∀ other ∈ tables.requests.rows, other.id ≠ row.id) :
    SigningTables.exec rules tables (.insertRequest row) =
      if row.active && tables.occupied row.contractId row.id then
        .error (.unique "ux_signing_requests_active_contract")
      else .ok ((), { tables with requests := tables.requests.insertIgnore row }) := by
  simp only [SigningTables.exec, SigningTables.inserted, (insert?_of_absent absent).1]
  rfl

theorem exec_insertSigner {row : SignerRow}
    (absent : ∀ other ∈ tables.signers.rows, other.id ≠ row.id) :
    SigningTables.exec rules tables (.insertSigner row) =
      if tables.taken rules row.signingRequestId row.email then
        .error (.unique "ux_signers_request_email")
      else .ok ((), { tables with signers := tables.signers.insertIgnore row }) := by
  simp only [SigningTables.exec, SigningTables.inserted, (insert?_of_absent absent).1]
  rfl

theorem exec_insertEvent {row : StatusEventRow}
    (absent : ∀ other ∈ tables.events.rows, other.id ≠ row.id) :
    SigningTables.exec rules tables (.insertEvent row) =
      .ok ((), { tables with events := tables.events.insertIgnore row }) := by
  simp only [SigningTables.exec, SigningTables.inserted, (insert?_of_absent absent).1]
  rfl

theorem exec_insertAudit {row : SigningAuditRow}
    (absent : ∀ other ∈ tables.audits.rows, other.id ≠ row.id) :
    SigningTables.exec rules tables (.insertAudit row) =
      .ok ((), { tables with audits := tables.audits.insertIgnore row }) := by
  simp only [SigningTables.exec, SigningTables.inserted, (insert?_of_absent absent).1]
  rfl

/-- The tables with a new signer. -/
def SigningTables.withSigner (tables : SigningTables) (draws : Draws) (position : Nat)
    (requestId : String) (signer : SignerCreate) (displayOrder : Int) (actor : Actor) :
    SigningTables :=
  { tables with
    signers := tables.signers.insertIgnore (newSigner draws position requestId signer displayOrder)
    events := tables.events.insertIgnore (signerAdded draws position actor) }

variable {requestId requestId' : String} {signer : SignerCreate} {displayOrder : Int}
  {actor : Actor}

variable (requestId signer displayOrder actor) in
theorem rows_withSigner (unused : tables.Unused draws position) :
    (tables.withSigner draws position requestId signer displayOrder actor).signers.rows =
        tables.signers.rows ++ [newSigner draws position requestId signer displayOrder] ∧
      (tables.withSigner draws position requestId signer displayOrder actor).events.rows =
        tables.events.rows ++ [signerAdded draws position actor] := by
  constructor
  · exact (insert?_of_absent fun other member =>
      unused.signers other member position Nat.le.refl).2
  · exact (insert?_of_absent fun other member =>
      unused.events other member (position + 1) (Nat.le_succ position)).2

variable (rules requestId signer displayOrder) in
theorem exec_newSigner (unused : tables.Unused draws position) :
    SigningTables.exec rules tables
        (.insertSigner (newSigner draws position requestId signer displayOrder)) =
      if tables.taken rules requestId signer.email then
        .error (.unique "ux_signers_request_email")
      else .ok ((), { tables with
        signers := tables.signers.insertIgnore
          (newSigner draws position requestId signer displayOrder) }) :=
  exec_insertSigner fun other member => unused.signers other member position Nat.le.refl

theorem exec_signerAdded (unused : tables.Unused draws position) :
    SigningTables.exec rules { tables with
        signers := tables.signers.insertIgnore
          (newSigner draws position requestId signer displayOrder) }
        (.insertEvent (signerAdded draws position actor)) =
      .ok ((), tables.withSigner draws position requestId signer displayOrder actor) :=
  exec_insertEvent fun other member =>
    unused.events other member (position + 1) (Nat.le_succ position)

variable (rules requestId signer displayOrder actor) in
/-- The statements of `_insert_signer`. -/
theorem eval_insertSigner (unused : tables.Unused draws position) :
    eval (SigningTables.exec rules)
        (insertSigner rules draws position requestId signer displayOrder actor) tables =
      if tables.taken rules requestId signer.email then
        .error (.unique "ux_signers_request_email")
      else .ok (draws.uuid4 position,
        tables.withSigner draws position requestId signer displayOrder actor) := by
  rw [insertSigner, eval_bind, execute, eval_guarded, exec_newSigner rules _ _ _ unused]
  cases tables.taken rules requestId signer.email with
  | true => rfl
  | false =>
      change eval _ (Prog.perform
        (SigningStatement.insertEvent (signerAdded draws position actor)) >>= _) _ = _
      rw [eval_perform, exec_signerAdded unused]
      rfl

theorem count_insertSigner (unused : tables.Unused draws position)
    (free : tables.taken rules requestId signer.email = false) :
    count (SigningTables.exec rules)
      (insertSigner rules draws position requestId signer displayOrder actor) tables = 2 := by
  have first := exec_newSigner rules requestId signer displayOrder unused
  rw [if_neg (by simp [free])] at first
  have guarded : eval (SigningTables.exec rules)
      ((execute (.insertSigner (newSigner draws position requestId signer displayOrder))
        ).tryExcept (duplicateConflict rules)) tables = .ok ((), _) :=
    (eval_guarded _ _ _).trans first
  rw [insertSigner, count_bind guarded, execute, count_guarded _ first]
  change 1 + count (SigningTables.exec rules) (Prog.perform
    (SigningStatement.insertEvent (signerAdded draws position actor)) >>= fun _ =>
      pure (draws.uuid4 position)) _ = 2
  rw [count_perform (exec_signerAdded unused)]
  rfl

variable (requestId signer displayOrder actor) in
/-- Besides the new signer's rows the tables stay as they are. -/
theorem unused_withSigner (unused : tables.Unused draws position) :
    (tables.withSigner draws position requestId signer displayOrder actor).Unused draws
      (position + 2) := by
  have later : tables.Unused draws (position + 2) := unused.later (Nat.le_add_right _ 2)
  have apart (used drawn : Nat) (late : drawn ≥ position + 2) (early : used < position + 2) :
      draws.uuid4 used ≠ draws.uuid4 drawn := by
    intro same
    have := draws.distinct same
    omega
  obtain ⟨signers, events⟩ := rows_withSigner requestId signer displayOrder actor unused
  constructor
  · exact later.requests
  · intro row member drawn late
    rw [signers, List.mem_append, List.mem_singleton] at member
    rcases member with old | rfl
    · exact later.signers row old drawn late
    · exact apart position drawn late (by omega)
  · intro row member drawn late
    rw [events, List.mem_append, List.mem_singleton] at member
    rcases member with old | rfl
    · exact later.events row old drawn late
    · exact apart (position + 1) drawn late (by omega)
  · intro row member drawn late
    rw [events, List.mem_append, List.mem_singleton] at member
    rcases member with old | rfl
    · exact later.subjects row old drawn late
    · exact apart position drawn late (by omega)
  · exact later.audits

variable (actor) in
theorem taken_withSigner (unused : tables.Unused draws position) (email : Text) :
    (tables.withSigner draws position requestId signer displayOrder actor).taken rules
        requestId email =
      (tables.taken rules requestId email ||
        decide (rules.sqlLower signer.email = rules.sqlLower email)) := by
  obtain ⟨signers, _⟩ := rows_withSigner requestId signer displayOrder actor unused
  rw [SigningTables.taken, signers, List.any_append]
  simp [SigningTables.taken, newSigner]

variable (signer displayOrder actor) in
/-- A new signer has one event, which can be read. -/
theorem legible_withSigner (unused : tables.Unused draws position)
    (legible : tables.Legible requestId) :
    (tables.withSigner draws position requestId signer displayOrder actor).Legible
      requestId := by
  obtain ⟨signers, events⟩ := rows_withSigner requestId signer displayOrder actor unused
  intro row member owned event happened subject
  rw [events, List.mem_append, List.mem_singleton] at happened
  rcases happened with old | rfl
  · rw [signers, List.mem_append, List.mem_singleton] at member
    rcases member with older | rfl
    · exact legible row older owned event old subject
    · exact absurd subject (unused.subjects event old position Nat.le.refl)
  · exact Option.isSome_iff_exists.mpr ⟨.pending, SignerStatus.ofValue?_value .pending⟩

/-- The tables with a new event. -/
def SigningTables.withEvent (tables : SigningTables) (row : StatusEventRow) : SigningTables :=
  { tables with events := tables.events.insertIgnore row }

/-- The tables with a new audit row. -/
def SigningTables.withAudit (tables : SigningTables) (row : SigningAuditRow) : SigningTables :=
  { tables with audits := tables.audits.insertIgnore row }

section Audit

variable {workspaceId contractId eventType : String} {metadata : List (String × Json)}

theorem rows_withAudit
    (absent : ∀ other ∈ tables.audits.rows, other.id ≠ draws.uuid4 position) :
    (tables.withAudit (auditRow draws position workspaceId contractId actor eventType
        metadata)).audits.rows =
      tables.audits.rows ++
        [auditRow draws position workspaceId contractId actor eventType metadata] :=
  (insert?_of_absent absent).2

theorem exec_auditRow
    (absent : ∀ other ∈ tables.audits.rows, other.id ≠ draws.uuid4 position) :
    SigningTables.exec rules tables (.insertAudit
        (auditRow draws position workspaceId contractId actor eventType metadata)) =
      .ok ((), tables.withAudit
        (auditRow draws position workspaceId contractId actor eventType metadata)) :=
  exec_insertAudit absent

theorem eval_recordAudit
    (absent : ∀ other ∈ tables.audits.rows, other.id ≠ draws.uuid4 position) :
    eval (SigningTables.exec rules)
        (recordAudit draws position workspaceId contractId actor eventType metadata) tables =
      .ok ((), tables.withAudit
        (auditRow draws position workspaceId contractId actor eventType metadata)) :=
  (eval_single _ _).trans (exec_auditRow absent)

theorem count_recordAudit
    (absent : ∀ other ∈ tables.audits.rows, other.id ≠ draws.uuid4 position) :
    count (SigningTables.exec rules)
      (recordAudit draws position workspaceId contractId actor eventType metadata) tables =
      1 :=
  count_single (exec_auditRow absent)

theorem unused_withAudit (unused : tables.Unused draws position) :
    (tables.withAudit (auditRow draws position workspaceId contractId actor eventType
      metadata)).Unused draws (position + 1) := by
  have later : tables.Unused draws (position + 1) := unused.later (Nat.le_succ position)
  refine ⟨later.requests, later.signers, later.events, later.subjects, ?_⟩
  intro row member drawn late same
  rw [rows_withAudit unused.audit, List.mem_append, List.mem_singleton] at member
  rcases member with old | rfl
  · exact later.audits row old drawn late same
  · have := draws.distinct same
    omega

end Audit

/-! ### The loop over the signers -/

section Loop

variable {workspaceId contractId : String} {signers : List SignerCreate} {index : Nat}

variable (draws tables) in
/-- The tables after one pass of the loop. -/
def SigningTables.joined (workspaceId contractId requestId : String) (actor : Actor)
    (signer : SignerCreate) (index : Nat) : SigningTables :=
  (tables.withSigner draws (3 * index + 1) requestId signer (signer.displayOrder.getD index : Nat)
    actor).withAudit (auditRow draws (3 * index + 3) workspaceId contractId actor
      "signer.created"
      [("request_id", .text requestId), ("email", .text (String.ofList signer.email))])

theorem unused_joined (unused : tables.Unused draws (3 * index + 1)) :
    (tables.joined draws workspaceId contractId requestId actor signer index).Unused draws
      (3 * (index + 1) + 1) :=
  unused_withAudit (unused_withSigner _ _ _ _ unused)

theorem eval_insertSigners_cons (unused : tables.Unused draws (3 * index + 1)) :
    eval (SigningTables.exec rules) (insertSigners rules draws workspaceId contractId requestId
        actor (signer :: signers) index) tables =
      if tables.taken rules requestId signer.email then
        .error (.unique "ux_signers_request_email")
      else
        eval (SigningTables.exec rules) (insertSigners rules draws workspaceId contractId
          requestId actor signers (index + 1))
          (tables.joined draws workspaceId contractId requestId actor signer index) := by
  rw [insertSigners, eval_bind, eval_insertSigner _ _ _ _ _ unused]
  cases tables.taken rules requestId signer.email with
  | true => rfl
  | false =>
      change eval _ (recordSigner _ _ _ _ _ _ _ >>= _) _ = _
      rw [eval_bind, recordSigner, eval_recordAudit (unused_withSigner _ _ _ _ unused).audit]
      rfl

theorem count_insertSigners_cons (unused : tables.Unused draws (3 * index + 1))
    (free : tables.taken rules requestId signer.email = false) :
    count (SigningTables.exec rules) (insertSigners rules draws workspaceId contractId requestId
        actor (signer :: signers) index) tables =
      count (SigningTables.exec rules) (insertSigners rules draws workspaceId contractId
        requestId actor signers (index + 1))
        (tables.joined draws workspaceId contractId requestId actor signer index) + 3 := by
  have first := eval_insertSigner rules requestId signer
    (signer.displayOrder.getD index : Nat) actor unused
  rw [if_neg (by simp [free])] at first
  have second := unused_withSigner requestId signer (signer.displayOrder.getD index : Nat)
    actor unused
  rw [insertSigners, count_bind first, count_insertSigner unused free]
  change 2 + count _ (recordSigner _ _ _ _ _ _ _ >>= _) _ = _
  rw [recordSigner, count_bind (eval_recordAudit second.audit),
    count_recordAudit second.audit]
  change 2 + (1 + count _ _ (tables.joined draws workspaceId contractId requestId actor signer
    index)) = _
  omega

/-- What a loop leaves as it was. -/
structure SigningTables.Grown (requestId : String) (before after : SigningTables) : Prop where
  contracts : after.contracts = before.contracts
  requests : after.requests = before.requests
  legible : before.Legible requestId → after.Legible requestId
  audits : before.audits.rows.length ≤ after.audits.rows.length

variable (workspaceId contractId requestId actor signer) in
theorem grown_joined (unused : tables.Unused draws (3 * index + 1)) :
    tables.Grown requestId
      (tables.joined draws workspaceId contractId requestId actor signer index) where
  contracts := rfl
  requests := rfl
  legible := legible_withSigner _ _ _ unused
  audits := by
    rw [SigningTables.joined, rows_withAudit (unused_withSigner _ _ _ _ unused).audit,
      List.length_append]
    exact Nat.le_add_right _ _

/-- The loop goes through exactly when no two signers share an address, and none has one of
the request's. -/
theorem insertSigners_iff (unused : tables.Unused draws (3 * index + 1)) :
    (∃ written, eval (SigningTables.exec rules) (insertSigners rules draws workspaceId
        contractId requestId actor signers index) tables = .ok ((), written)) ↔
      (signers.map fun signer => rules.sqlLower signer.email).Nodup ∧
        ∀ signer ∈ signers, tables.taken rules requestId signer.email = false := by
  induction signers generalizing tables index with
  | nil => simp [insertSigners]
  | cons signer signers induction =>
      rw [eval_insertSigners_cons unused]
      cases free : tables.taken rules requestId signer.email with
      | true => simp [free]
      | false =>
          have taken (other : SignerCreate) :
              (tables.joined draws workspaceId contractId requestId actor signer index).taken
                  rules requestId other.email =
                (tables.taken rules requestId other.email ||
                  decide (rules.sqlLower signer.email = rules.sqlLower other.email)) :=
            taken_withSigner actor unused other.email
          simp only [Bool.false_eq_true, if_false, induction (unused_joined unused), taken,
            List.map_cons, List.nodup_cons, List.forall_mem_cons, free, true_and,
            Bool.or_eq_false_iff, decide_eq_false_iff_not, List.mem_map, not_exists, not_and]
          constructor
          · rintro ⟨distinct, apart⟩
            exact ⟨⟨fun other member same => (apart other member).2 same.symm, distinct⟩,
              fun other member => (apart other member).1⟩
          · rintro ⟨⟨apart, distinct⟩, unseen⟩
            exact ⟨distinct, fun other member =>
              ⟨unseen other member, fun same => apart other member same.symm⟩⟩

/-- What the loop leaves when it goes through. -/
theorem insertSigners_ok {written : SigningTables}
    (unused : tables.Unused draws (3 * index + 1))
    (computed : eval (SigningTables.exec rules) (insertSigners rules draws workspaceId contractId
      requestId actor signers index) tables = .ok ((), written)) :
    written.Unused draws (3 * (index + signers.length) + 1) ∧
      tables.Grown requestId written ∧
      count (SigningTables.exec rules) (insertSigners rules draws workspaceId contractId
        requestId actor signers index) tables = 3 * signers.length := by
  induction signers generalizing tables index with
  | nil =>
      cases computed
      exact ⟨unused, ⟨rfl, rfl, id, Nat.le.refl⟩, rfl⟩
  | cons signer signers induction =>
      rw [eval_insertSigners_cons unused] at computed
      cases free : tables.taken rules requestId signer.email with
      | true => simp [free] at computed
      | false =>
          rw [if_neg (by simp [free])] at computed
          obtain ⟨later, grown, counted⟩ := induction (unused_joined unused) computed
          have joined := grown_joined requestId signer actor workspaceId contractId unused
          refine ⟨?_, ?_, ?_⟩
          · rw [List.length_cons]
            rw [show index + 1 + signers.length = index + (signers.length + 1) by omega] at later
            exact later
          · exact ⟨grown.contracts.trans joined.contracts, grown.requests.trans joined.requests,
              fun legible => grown.legible (joined.legible legible),
              joined.audits.trans grown.audits⟩
          · rw [count_insertSigners_cons unused free, counted, List.length_cons]
            omega

end Loop

end Inserts

/-! ## The same call with other identifiers -/

section Again

variable {rules : TextRules} {draws draws' : Draws} {first second : SigningTables}
  {position : Nat} {workspaceId contractId requestId requestId' : String} {actor : Actor}

variable (rules draws draws') in
/-- Tables that a loop with other identifiers cannot tell apart. -/
structure Alike (position : Nat) (requestId requestId' : String)
    (first second : SigningTables) : Prop where
  unused : first.Unused draws position
  unused' : second.Unused draws' position
  taken : ∀ email, first.taken rules requestId email = second.taken rules requestId' email

variable (rules) in
theorem raises_duplicateConflict {Value : Type} (exc : SigningExn) :
    (duplicateConflict rules exc : SigningBody Value).Raises := by
  unfold duplicateConflict
  split <;> exact ⟨_, rfl⟩

theorem twins_duplicateConflict {Value Other : Type} {post : Other → SigningTables → Other →
      SigningTables → Prop} {next next' : Value → SigningBody Other} (exc : SigningExn) :
    Twins (SigningTables.exec rules) post (duplicateConflict rules exc >>= next) first
      (duplicateConflict rules exc >>= next') second := by
  unfold duplicateConflict
  split <;> exact twins_raise _

variable (rules) in
theorem raises_alike {Value : Type} {post : Value → SigningTables → Value → SigningTables → Prop}
    (error : SigningExn) (first second : SigningTables) :
    Twins (SigningTables.exec rules) post (duplicateConflict rules error) first
      (duplicateConflict rules error) second := by
  unfold duplicateConflict
  split <;> exact twins_raise _

variable (actor) in
theorem twins_insertSigner (signer : SignerCreate) (displayOrder displayOrder' : Int)
    (alike : Alike rules draws draws' position requestId requestId' first second) :
    Twins (SigningTables.exec rules)
      (fun _ first _ second =>
        Alike rules draws draws' (position + 2) requestId requestId' first second)
      (insertSigner rules draws position requestId signer displayOrder actor) first
      (insertSigner rules draws' position requestId' signer displayOrder' actor) second := by
  apply twins_guarded
  · exact fun error => twins_duplicateConflict error
  · rw [exec_newSigner rules _ _ _ alike.unused, exec_newSigner rules _ _ _ alike.unused',
      alike.taken]
    cases second.taken rules requestId' signer.email with
    | true => rfl
    | false =>
        apply twins_perform (exec_signerAdded alike.unused) (exec_signerAdded alike.unused')
        apply twins_pure
        refine ⟨unused_withSigner _ _ _ _ alike.unused, unused_withSigner _ _ _ _ alike.unused',
          ?_⟩
        intro email
        rw [taken_withSigner _ alike.unused, taken_withSigner _ alike.unused', alike.taken]

theorem twins_recordAudit {post : Unit → SigningTables → Unit → SigningTables → Prop}
    {eventType : String} {metadata metadata' : List (String × Json)}
    (absent : ∀ other ∈ first.audits.rows, other.id ≠ draws.uuid4 position)
    (absent' : ∀ other ∈ second.audits.rows, other.id ≠ draws'.uuid4 position)
    (related : post ()
      (first.withAudit (auditRow draws position workspaceId contractId actor eventType metadata))
      () (second.withAudit
        (auditRow draws' position workspaceId contractId actor eventType metadata'))) :
    Twins (SigningTables.exec rules) post
      (recordAudit draws position workspaceId contractId actor eventType metadata) first
      (recordAudit draws' position workspaceId contractId actor eventType metadata')
      second := by
  have whole {draws : Draws} {metadata : List (String × Json)} :
      recordAudit draws position workspaceId contractId actor eventType metadata =
        Prog.perform (SigningStatement.insertAudit (auditRow draws position workspaceId
          contractId actor eventType metadata)) >>= fun _ => pure () :=
    congrArg (Prog.call _) (funext fun reply => by cases reply <;> rfl)
  rw [whole, whole]
  exact twins_perform (exec_auditRow absent) (exec_auditRow absent') (twins_pure related)

theorem Alike.recordAudit {eventType : String} {metadata metadata' : List (String × Json)}
    (alike : Alike rules draws draws' position requestId requestId' first second) :
    Twins (SigningTables.exec rules)
      (fun _ first _ second =>
        Alike rules draws draws' (position + 1) requestId requestId' first second)
      (recordAudit draws position workspaceId contractId actor eventType metadata) first
      (recordAudit draws' position workspaceId contractId actor eventType metadata')
      second :=
  twins_recordAudit alike.unused.audit alike.unused'.audit
    ⟨unused_withAudit alike.unused, unused_withAudit alike.unused', alike.taken⟩

theorem twins_insertSigners (signers : List SignerCreate) (index : Nat)
    (alike : Alike rules draws draws' (3 * index + 1) requestId requestId' first second) :
    Twins (SigningTables.exec rules)
      (fun _ first _ second => Alike rules draws draws' (3 * (index + signers.length) + 1)
        requestId requestId' first second)
      (insertSigners rules draws workspaceId contractId requestId actor signers index) first
      (insertSigners rules draws' workspaceId contractId requestId' actor signers index)
      second := by
  induction signers generalizing first second index with
  | nil => exact twins_pure alike
  | cons signer signers induction =>
      apply (twins_insertSigner actor signer _ _ alike).bind
      intro _ first _ second alike
      apply alike.recordAudit.bind
      intro _ first _ second alike
      have rest := induction (index + 1) alike
      rw [show index + 1 + signers.length = index + (signers.length + 1) by omega] at rest
      exact rest

end Again

end SigningRequests

end ContractMate
