import ContractMate.SigningStatuses

/-!
# Runs of signing operations

Any sequence of calls, each with its own clock and identifiers and each of whose statements
may fail.  What is committed stays sound and can be read back, nothing recorded is lost, and
flags agree with statuses as long as no event is left without its flag.
-/

namespace ContractMate

namespace SigningRequests

open RunHistory TransactionBlock PythonText

/-- A call with how its statements fare and what it ends with, and the committed tables
before it and after it. -/
structure SigningStep where
  before : SigningTables
  draws : Draws
  call : SigningCall
  choices : List (BlockChoice SigningExn)
  result : Except SigningExn SigningRequestOut
  after : SigningTables

def SigningStep.Runs (rules : TextRules) (step : SigningStep) : Prop :=
  ∃ state, (step.call.program rules step.draws).finish (respond (SigningTables.exec rules))
      (.idle step.before) step.choices = some (step.result, state) ∧
    state.committed = step.after

/-- The runs from some contracts without signing requests. -/
abbrev SigningRun (rules : TextRules) (contracts : RowTable SigningContractRow.id) :
    List SigningStep → SigningTables → Prop :=
  Run SigningStep.before SigningStep.after (SigningStep.Runs rules) { contracts := contracts }

theorem SigningStep.Runs.commits {rules : TextRules} {step : SigningStep}
    (runs : step.Runs rules) :
    Commits rules step.draws step.before step.call step.result step.after := by
  obtain ⟨state, finished, committed⟩ := runs
  rw [← committed]
  exact commits_of_call ((Prog.finish_eq_some_iff _).mp finished)

/-! ## What is recorded -/

/-- Nothing that was recorded is lost: rows are only added, and a request changes nothing
but its flag and the time it was closed. -/
structure Extends (before after : SigningTables) : Prop where
  contracts : after.contracts = before.contracts
  requests : ∀ row ∈ before.requests.rows, ∃ active closedAt,
    { row with active := active, closedAt := closedAt } ∈ after.requests.rows
  signers : before.signers.rows <+: after.signers.rows
  events : before.events.rows <+: after.events.rows
  audits : before.audits.rows <+: after.audits.rows

section Extension

variable {rules : TextRules} {draws : Draws} {tables middle after : SigningTables}
  {call : SigningCall} {result : Except SigningExn SigningRequestOut} {requestId : String}

theorem Extends.refl (tables : SigningTables) : Extends tables tables where
  contracts := rfl
  requests row member := ⟨row.active, row.closedAt, member⟩
  signers := List.prefix_rfl
  events := List.prefix_rfl
  audits := List.prefix_rfl

theorem Extends.trans (earlier : Extends tables middle) (later : Extends middle after) :
    Extends tables after where
  contracts := later.contracts.trans earlier.contracts
  requests row member := by
    obtain ⟨_, _, there⟩ := earlier.requests row member
    obtain ⟨active, closedAt, there'⟩ := later.requests _ there
    exact ⟨active, closedAt, there'⟩
  signers := earlier.signers.trans later.signers
  events := earlier.events.trans later.events
  audits := earlier.audits.trans later.audits

theorem prefix_inserted {Row : Type} {key : Row → String} {table inserted : RowTable key}
    {row : Row} (success : table.insert? row = some inserted) :
    table.rows <+: inserted.rows := by
  rw [(rows_of_inserted success).1]
  exact List.prefix_append _ _

theorem Growth.extends (growth : Growth rules requestId tables after) :
    Extends tables after := by
  cases growth with
  | signer own free about pending inserted started =>
      exact { Extends.refl tables with
        signers := prefix_inserted inserted, events := prefix_inserted started }
  | audit inserted => exact { Extends.refl tables with audits := prefix_inserted inserted }

theorem Grows.extends (grows : Grows rules requestId tables after) : Extends tables after := by
  induction grows with
  | refl => exact .refl _
  | tail _ growth induction => exact induction.trans growth.extends

theorem extends_appended {row : StatusEventRow} {events : RowTable StatusEventRow.id}
    {audit : SigningAuditRow} {audits : RowTable SigningAuditRow.id}
    (inserted : tables.events.insert? row = some events)
    (audited : tables.audits.insert? audit = some audits) :
    Extends tables { tables with events := events, audits := audits } :=
  { Extends.refl tables with
    events := prefix_inserted inserted, audits := prefix_inserted audited }

theorem extends_synced (now : Int) (request : SigningRequestOut) :
    Extends tables (tables.synced now request) := by
  rw [SigningTables.synced]
  split_ifs with same
  · exact .refl tables
  · refine { Extends.refl tables with requests := ?_ }
    intro row member
    by_cases own : row.id = request.id
    · refine ⟨!request.status.terminal, if !request.status.terminal then none else some now,
        mem_withFlag.mpr ⟨row, member, ?_⟩⟩
      rw [if_pos own]
      rfl
    · refine ⟨row.active, row.closedAt, mem_withFlag.mpr ⟨row, member, ?_⟩⟩
      rw [if_neg own]

theorem Commits.extends (commits : Commits rules draws tables call result after) :
    Extends tables after := by
  cases commits with
  | nothing => exact .refl tables
  | @created _ _ _ _ _ _ requests _ found versioned free inserted grows =>
      have opened : Extends tables { tables with requests := requests } :=
        { Extends.refl tables with
          requests := fun row member =>
            ⟨row.active, row.closedAt, (mem_inserted inserted).mpr (.inl member)⟩ }
      exact opened.trans grows.extends
  | added read opened grows => exact grows.extends
  | appended found moved inserted audited raised => exact extends_appended inserted audited
  | settled found moved inserted audited read free =>
      exact (extends_appended inserted audited).trans (extends_synced _ _)

end Extension

/-! ## Flags and statuses -/

/-- A request is active as long as its signers have not ended it. -/
def Agrees (rules : TextRules) (tables : SigningTables) : Prop :=
  ∀ row ∈ tables.requests.rows, row.active = true ↔ ¬ tables.Ended rules row.id

section Agreement

variable {rules : TextRules} {draws : Draws} {tables after : SigningTables}
  {requestId other : String}

/-- A new signer has no events but its first one. -/
theorem no_events_of_new {row : SignerRow} {signers : RowTable SignerRow.id}
    (inserted : tables.signers.insert? row = some signers) (sound : Sound rules tables) :
    ∀ event ∈ tables.events.rows, event.signerId ≠ row.id := by
  intro event member same
  obtain ⟨⟨signer, among, identified⟩, _⟩ := sound.about event member
  exact (rows_of_inserted inserted).2 signer among (identified.trans same)

theorem Growth.ended_other (growth : Growth rules requestId tables after)
    (different : other ≠ requestId) : after.Ended rules other ↔ tables.Ended rules other := by
  cases growth with
  | audit inserted => exact Iff.rfl
  | @signer row event signers events owned free about pending inserted started =>
      apply ended_congr
      · intro signer own
        rw [mem_inserted inserted, or_iff_left]
        rintro rfl
        exact different (own.symm.trans owned)
      · intro signer member own
        apply latest_of_events
        apply events_of_other (rows_of_inserted started).1
        rw [about]
        exact ((rows_of_inserted inserted).2 signer member).symm

/-- A request is not ended by a signer who is pending. -/
theorem Growth.not_ended (growth : Growth rules requestId tables after)
    (sound : Sound rules tables) (opened : ¬ tables.Ended rules requestId) :
    ¬ after.Ended rules requestId := by
  cases growth with
  | audit inserted => exact opened
  | @signer row event signers events owned free about pending inserted started =>
      let written : SigningTables := { tables with signers := signers, events := events }
      have rows : written.events.rows = tables.events.rows ++ [event] :=
        (rows_of_inserted started).1
      have fresh : written.latest rules row.id = SignerStatus.pending.value := by
        have first : written.eventsOf rules event.signerId = [event] := by
          apply events_of_first rows
          rw [about]
          exact no_events_of_new inserted sound
        rw [about] at first
        rw [SigningTables.latest, SigningTables.history, first, List.map_singleton, pending]
        rfl
      have kept (signer : SignerRow) (member : signer ∈ tables.signers.rows) :
          written.latest rules signer.id = tables.latest rules signer.id := by
        apply latest_of_events
        apply events_of_other rows
        rw [about]
        exact ((rows_of_inserted inserted).2 signer member).symm
      change ¬ written.Ended rules requestId
      rintro (⟨signer, member, own, required, status, terminal, latest⟩ |
        ⟨⟨signer, member, own, required⟩, signed⟩)
      · rcases (mem_inserted inserted).mp member with old | rfl
        · rw [kept signer old] at latest
          exact opened (.inl ⟨signer, old, own, required, status, terminal, latest⟩)
        · rw [fresh] at latest
          obtain rfl := SignerStatus.value_injective latest
          cases terminal
      · have pending_not_signed : SignerStatus.pending.value ≠ SignerStatus.signed.value := by
          decide
        rcases (mem_inserted inserted).mp member with old | rfl
        · refine opened (.inr ⟨⟨signer, old, own, required⟩, ?_⟩)
          intro signer old own required
          rw [← kept signer old]
          exact signed signer ((mem_inserted inserted).mpr (.inl old)) own required
        · exact pending_not_signed (fresh.symm.trans (signed signer member own required))

theorem Grows.ended_other (grows : Grows rules requestId tables after)
    (different : other ≠ requestId) : after.Ended rules other ↔ tables.Ended rules other := by
  induction grows with
  | refl => rfl
  | tail _ growth induction => exact (growth.ended_other different).trans induction

theorem Grows.not_ended (grows : Grows rules requestId tables after)
    (owned : ∃ row ∈ tables.requests.rows, row.id = requestId) (sound : Sound rules tables)
    (opened : ¬ tables.Ended rules requestId) : ¬ after.Ended rules requestId := by
  induction grows with
  | refl => exact opened
  | tail earlier growth induction => exact growth.not_ended (Grows.sound earlier owned sound) induction

theorem Grows.agrees (grows : Grows rules requestId tables after)
    (owned : ∃ row ∈ tables.requests.rows, row.id = requestId) (sound : Sound rules tables)
    (opened : ¬ tables.Ended rules requestId) (agrees : Agrees rules tables) :
    Agrees rules after := by
  intro row member
  rw [grows.requests] at member
  by_cases own : row.id = requestId
  · have active := (agrees row member).mpr (own ▸ opened)
    exact iff_of_true active (own ▸ grows.not_ended owned sound opened)
  · rw [grows.ended_other own]
    exact agrees row member

/-- A new request has no signers. -/
theorem agrees_request {row : SigningRequestRow} {requests : RowTable SigningRequestRow.id}
    (active : row.active = true) (inserted : tables.requests.insert? row = some requests)
    (sound : Sound rules tables) (agrees : Agrees rules tables) :
    ¬ tables.Ended rules row.id ∧ Agrees rules { tables with requests := requests } := by
  have unowned : ∀ signer ∈ tables.signers.rows, signer.signingRequestId ≠ row.id := by
    intro signer member own
    obtain ⟨request, among, identified⟩ := sound.owned signer member
    exact (rows_of_inserted inserted).2 request among (identified.trans own)
  have opened : ¬ tables.Ended rules row.id := by
    rintro (⟨signer, member, own, _⟩ | ⟨⟨signer, member, own, _⟩, _⟩) <;>
      exact unowned signer member own
  refine ⟨opened, ?_⟩
  intro request member
  rcases (mem_inserted inserted).mp member with old | rfl
  · exact agrees request old
  · exact iff_of_true active opened

/-- An event leaves the requests of other signers. -/
theorem ended_of_event {event : StatusEventRow} {events : RowTable StatusEventRow.id}
    {audits : RowTable SigningAuditRow.id} {signer : SignerRow}
    (inserted : tables.events.insert? event = some events)
    (member : signer ∈ tables.signers.rows) (about : event.signerId = signer.id)
    (different : other ≠ signer.signingRequestId) :
    SigningTables.Ended rules { tables with events := events, audits := audits } other ↔
      tables.Ended rules other := by
  apply ended_congr
  · intro row own
    rfl
  · intro row among own
    apply latest_of_events
    apply events_of_other (rows_of_inserted inserted).1
    rw [about]
    intro same
    obtain rfl : signer = row := eq_of_key member among same
    exact different own.symm

/-- The flag that is set is the one that the signers of the request ask for. -/
theorem agrees_synced {workspaceId : String} {request : SigningRequestOut}
    (read : tables.read rules workspaceId requestId = .ok (some request))
    (others : ∀ row ∈ tables.requests.rows, row.id ≠ requestId →
      (row.active = true ↔ ¬ tables.Ended rules row.id)) (now : Int) :
    Agrees rules (tables.synced now request) := by
  obtain ⟨found, among, identified, _, named, _, active⟩ := row_of_read read
  have ended := terminal_of_read read
  have asked : (!request.status.terminal) = true ↔ ¬ tables.Ended rules requestId := by
    rw [← ended]
    simp
  rw [SigningTables.synced]
  split_ifs with same
  · intro row member
    by_cases own : row.id = requestId
    · obtain rfl : row = found := eq_of_key member among (own.trans identified.symm)
      rw [own, ← asked, ← active, same]
    · exact others row member own
  · intro row flagged
    obtain ⟨old, member, rfl⟩ := mem_withFlag.mp flagged
    by_cases own : old.id = requestId
    · rw [if_pos (own.trans (identified.symm.trans named.symm))]
      change (!request.status.terminal) = true ↔ ¬ tables.Ended rules old.id
      rw [own]
      exact asked
    · rw [if_neg (fun same => own (same.trans (named.trans identified)))]
      exact others old member own

/-- Tables are sound when a request has been opened and has no signer yet. -/
theorem sound_of_opened {workspaceId contractId : String} {actor : Actor}
    {contract : SigningContractRow} {requests : RowTable SigningRequestRow.id}
    (found : tables.contract? workspaceId contractId = some contract)
    (versioned : contract.currentVersionId.getD "" ≠ "")
    (free : tables.occupied contractId (draws.uuid4 0) = false)
    (inserted : tables.requests.insert?
      (newRequest draws workspaceId contractId actor contract) = some requests)
    (sound : Sound rules tables) : Sound rules { tables with requests := requests } := by
  have created : Commits rules draws tables (.createRequest workspaceId contractId [] actor)
      (.error SigningExn.notFound) { tables with requests := requests } :=
    .created found versioned free inserted .refl
  exact created.sound sound

/-- The flags go on agreeing, unless an event is left without its flag. -/
theorem Commits.agrees {call : SigningCall} {result : Except SigningExn SigningRequestOut}
    (commits : Commits rules draws tables call result after) (sound : Sound rules tables)
    (settled : ∀ workspaceId signerId payload actor error,
      call = .appendEvent workspaceId signerId payload actor → result = .error error →
        after = tables)
    (agrees : Agrees rules tables) : Agrees rules after := by
  cases commits with
  | nothing => exact agrees
  | @created _ _ _ _ _ _ requests _ found versioned free inserted grows =>
      obtain ⟨opened, extended⟩ := agrees_request rfl inserted sound agrees
      have sound' : Sound rules { tables with requests := requests } :=
        sound_of_opened found versioned free inserted sound
      exact grows.agrees ⟨_, (mem_inserted inserted).mpr (.inr rfl), rfl⟩ sound' opened extended
  | @added workspaceId requestId signer actor _ request after read opened grows =>
      obtain ⟨row, member, identified, _⟩ := row_of_read read
      have unended : ¬ tables.Ended rules requestId := by
        rw [← terminal_of_read read, opened]
        simp
      exact grows.agrees ⟨row, member, identified⟩ sound unended agrees
  | appended found moved inserted audited raised =>
      obtain ⟨error, raised⟩ := raised
      rw [settled _ _ _ _ error rfl raised]
      exact agrees
  | @settled workspaceId signerId payload actor _ signer events audits row request found moved
      inserted audited read free =>
      obtain ⟨own, member, identified, owner⟩ := signer_of_signerRequest found
      apply agrees_synced read
      intro row among different
      have same : SigningTables.Ended rules { tables with events := events, audits := audits }
          row.id ↔ tables.Ended rules row.id :=
        ended_of_event inserted member identified.symm (by rw [owner]; exact different)
      rw [same]
      exact agrees row among

end Agreement

/-! ## Histories -/

/-- A history of statuses begins with `pending`, and no status follows itself. -/
def Proper (history : List String) : Prop :=
  history.head? = some SignerStatus.pending.value ∧ history.IsChain (· ≠ ·)

theorem Proper.concat {history : List String} {status : String} (proper : Proper history)
    (moved : history.getLast? ≠ some status) : Proper (history ++ [status]) := by
  obtain ⟨head, chain⟩ := proper
  refine ⟨by rw [List.head?_append, head, Option.some_or], ?_⟩
  rw [List.isChain_append]
  refine ⟨chain, List.isChain_singleton status, ?_⟩
  intro last isLast next isNext same
  obtain rfl : next = status := by simpa using isNext.symm
  exact moved (by rw [← same]; exact isLast)

/-- Every signer has a proper history. -/
def Told (rules : TextRules) (tables : SigningTables) : Prop :=
  ∀ signer ∈ tables.signers.rows, Proper (tables.history rules signer.id)

/-- The histories stay proper, and grow at their ends only. -/
structure Continues (rules : TextRules) (before after : SigningTables) : Prop where
  told : Told rules before → Told rules after
  grown : ∀ signer ∈ before.signers.rows,
    before.eventsOf rules signer.id <+: after.eventsOf rules signer.id

section Telling

variable {rules : TextRules} {draws : Draws} {tables middle after : SigningTables}
  {requestId : String}

theorem Continues.of_same (signers : after.signers = tables.signers)
    (events : after.events = tables.events) : Continues rules tables after := by
  have same (signerId : String) : after.eventsOf rules signerId = tables.eventsOf rules signerId := by
    rw [SigningTables.eventsOf, events]
    rfl
  constructor
  · intro told signer member
    rw [signers] at member
    rw [SigningTables.history, same]
    exact told signer member
  · intro signer _
    rw [same]

theorem Continues.trans (earlier : Continues rules tables middle)
    (later : Continues rules middle after) (kept : tables.signers.rows <+: middle.signers.rows) :
    Continues rules tables after where
  told told := later.told (earlier.told told)
  grown signer member := (earlier.grown signer member).trans
    (later.grown signer (kept.subset member))

theorem Growth.continues (growth : Growth rules requestId tables after)
    (sound : Sound rules tables) : Continues rules tables after := by
  cases growth with
  | audit inserted => exact .of_same rfl rfl
  | @signer row event signers events owned free about pending inserted started =>
      let written : SigningTables := { tables with signers := signers, events := events }
      have rows : written.events.rows = tables.events.rows ++ [event] :=
        (rows_of_inserted started).1
      have kept (signer : SignerRow) (member : signer ∈ tables.signers.rows) :
          written.eventsOf rules signer.id = tables.eventsOf rules signer.id := by
        apply events_of_other rows
        rw [about]
        exact ((rows_of_inserted inserted).2 signer member).symm
      change Continues rules tables written
      constructor
      · intro told signer member
        rcases (mem_inserted inserted).mp member with old | rfl
        · rw [SigningTables.history, kept signer old]
          exact told signer old
        · have first : written.eventsOf rules event.signerId = [event] := by
            apply events_of_first rows
            rw [about]
            exact no_events_of_new inserted sound
          rw [about] at first
          rw [SigningTables.history, first, List.map_singleton, pending]
          exact ⟨rfl, List.isChain_singleton _⟩
      · intro signer member
        rw [kept signer member]

theorem Grows.continues (grows : Grows rules requestId tables after)
    (owned : ∃ row ∈ tables.requests.rows, row.id = requestId) (sound : Sound rules tables) :
    Continues rules tables after := by
  induction grows with
  | refl => exact .of_same rfl rfl
  | tail earlier growth induction =>
      exact induction.trans (growth.continues (Grows.sound earlier owned sound))
        (Grows.extends earlier).signers

/-- An event that is later than the others, and does not repeat the latest one. -/
theorem continues_event {signerId : String} {payload : SignerStatusEventCreate} {actor : Actor}
    {events : RowTable StatusEventRow.id} {audits : RowTable SigningAuditRow.id}
    (moved : tables.repeated rules signerId payload = false)
    (inserted : tables.events.insert? (eventRow draws signerId payload actor) = some events)
    (clock : ∀ event ∈ tables.events.rows, event.createdAt < draws.now) :
    Continues rules tables { tables with events := events, audits := audits } := by
  let written : SigningTables := { tables with events := events, audits := audits }
  have rows : written.events.rows =
      tables.events.rows ++ [eventRow draws signerId payload actor] :=
    (rows_of_inserted inserted).1
  have own : written.eventsOf rules signerId =
      tables.eventsOf rules signerId ++ [eventRow draws signerId payload actor] :=
    events_of_later rows fun earlier member _ => clock earlier member
  have differs : (tables.history rules signerId).getLast? ≠ some payload.status.value := by
    rw [SigningTables.history, List.getLast?_map]
    rw [SigningTables.repeated] at moved
    cases latest : (tables.eventsOf rules signerId).getLast? with
    | none => simp
    | some event => simpa [latest] using moved
  change Continues rules tables written
  constructor
  · intro told signer member
    by_cases same : signer.id = signerId
    · rw [same, SigningTables.history, own, List.map_append]
      exact Proper.concat (same ▸ told signer member) differs
    · rw [SigningTables.history, events_of_other rows (Ne.symm same)]
      exact told signer member
  · intro signer member
    by_cases same : signer.id = signerId
    · rw [same, own]
      exact List.prefix_append _ _
    · rw [events_of_other rows (Ne.symm same)]

theorem signers_synced (now : Int) (request : SigningRequestOut) :
    (tables.synced now request).signers = tables.signers ∧
      (tables.synced now request).events = tables.events := by
  rw [SigningTables.synced]
  split_ifs <;> exact ⟨rfl, rfl⟩

theorem Commits.continues {call : SigningCall} {result : Except SigningExn SigningRequestOut}
    (commits : Commits rules draws tables call result after) (sound : Sound rules tables)
    (clock : ∀ event ∈ tables.events.rows, event.createdAt < draws.now) :
    Continues rules tables after := by
  cases commits with
  | nothing => exact .of_same rfl rfl
  | @created _ _ _ _ _ _ requests _ found versioned free inserted grows =>
      have sound' : Sound rules { tables with requests := requests } :=
        sound_of_opened found versioned free inserted sound
      have opened : Continues rules tables { tables with requests := requests } :=
        .of_same rfl rfl
      exact opened.trans
        (grows.continues ⟨_, (mem_inserted inserted).mpr (.inr rfl), rfl⟩ sound') List.prefix_rfl
  | added read opened grows =>
      obtain ⟨row, member, identified, _⟩ := row_of_read read
      exact grows.continues ⟨row, member, identified⟩ sound
  | appended found moved inserted audited raised => exact continues_event moved inserted clock
  | settled found moved inserted audited read free =>
      obtain ⟨signers, events⟩ := signers_synced _ _
      exact (continues_event moved inserted clock).trans (.of_same signers events)
        List.prefix_rfl

end Telling

/-! ## Whole runs -/

section Runs

variable {rules : TextRules} {contracts : RowTable SigningContractRow.id}
  {steps : List SigningStep} {final : SigningTables}

theorem sound_of_run (run : SigningRun rules contracts steps final) :
    Sound rules final ∧ ∀ step ∈ steps, Sound rules step.before := by
  apply run.invariant (Sound rules)
  · constructor <;> intro row member <;> cases member
  · intro step _ runs sound
    exact runs.commits.sound sound

/-- A request of sound tables can be read. -/
theorem Sound.readable {tables : SigningTables} (sound : Sound rules tables)
    {row : SigningRequestRow} (member : row ∈ tables.requests.rows) :
    ∃ request, tables.read rules row.workspaceId row.id = .ok (some request) := by
  obtain ⟨contract, among, same, _⟩ := sound.pinned row member
  have joined : tables.requestRows row.workspaceId row.id = [(row, contract.title)] :=
    requestRows_eq_cons_iff.mpr ⟨rfl, member, rfl, rfl, contract, among, same, rfl⟩
  apply read_of_legible joined
  intro signer _ _ event stored _
  obtain ⟨_, status, value⟩ := sound.about event stored
  rw [value, SignerStatus.ofValue?_value]
  rfl

/-- In every run, whatever fails in it, the tables are sound, every request can be read, and
what was stored before a call is still stored. -/
theorem requests_are_recorded (run : SigningRun rules contracts steps final) :
    Sound rules final ∧
    (∀ row ∈ final.requests.rows, ∃ request,
      final.read rules row.workspaceId row.id = .ok (some request)) ∧
    ∀ step ∈ steps, Extends step.before final := by
  obtain ⟨sound, _⟩ := sound_of_run run
  refine ⟨sound, fun row member => sound.readable member, ?_⟩
  intro step member
  obtain ⟨i, found⟩ := List.mem_iff_getElem?.mp member
  apply run.stable_final (Extends step.before) found
  · intro _ later _ _ runs extended
    exact extended.trans runs.commits.extends
  · exact .refl step.before

/-- An event is not left without what follows it. -/
def SigningStep.Settled (step : SigningStep) : Prop :=
  ∀ workspaceId signerId payload actor error,
    step.call = .appendEvent workspaceId signerId payload actor →
      step.result = .error error → step.after = step.before

/-- As long as no event is stored by a call that raises, a request is active exactly when
its status is not terminal, and a contract has one request whose status is not. -/
theorem active_iff_not_terminal (run : SigningRun rules contracts steps final)
    (settled : ∀ step ∈ steps, step.Settled) :
    ∀ row ∈ final.requests.rows, ∃ request,
      final.read rules row.workspaceId row.id = .ok (some request) ∧
      (row.active = true ↔ request.status.terminal = false) ∧
      ∀ other ∈ final.requests.rows, ∀ request',
        final.read rules other.workspaceId other.id = .ok (some request') →
          other.contractId = row.contractId → request.status.terminal = false →
            request'.status.terminal = false → other = row := by
  have agrees : Agrees rules final := by
    refine (run.invariant (fun tables => Sound rules tables ∧ Agrees rules tables) ?_ ?_).1.2
    · constructor
      · constructor <;> intro row member <;> cases member
      · intro row member
        cases member
    · intro step member runs holds
      exact ⟨runs.commits.sound holds.1,
        runs.commits.agrees holds.1 (settled step member) holds.2⟩
  obtain ⟨sound, _⟩ := sound_of_run run
  have active {row : SigningRequestRow} {request : SigningRequestOut}
      (member : row ∈ final.requests.rows)
      (read : final.read rules row.workspaceId row.id = .ok (some request)) :
      row.active = true ↔ request.status.terminal = false := by
    rw [agrees row member, ← terminal_of_read read, Bool.not_eq_true]
  intro row member
  obtain ⟨request, read⟩ := sound.readable member
  refine ⟨request, read, active member read, ?_⟩
  intro other among request' read' contract opened opened'
  apply eq_of_key among member
  exact sound.exclusive other among row member ((active among read').mpr opened')
    ((active member read).mpr opened) contract

/-- As long as each call is later than the stored events, every signer is read with a
history that begins with `pending`, repeats no status, ends with the latest status and
has only grown at its end. -/
theorem histories_are_proper (run : SigningRun rules contracts steps final)
    (clock : ∀ step ∈ steps, ∀ event ∈ step.before.events.rows,
      event.createdAt < step.draws.now) :
    (∀ workspaceId requestId request,
      final.read rules workspaceId requestId = .ok (some request) →
        ∀ signer ∈ request.signers,
          Proper (signer.events.map fun event => event.status.value) ∧
          (signer.events.map SignerStatusEventOut.status).getLast? =
            some signer.latestStatus) ∧
    ∀ step ∈ steps, ∀ signer ∈ step.before.signers.rows,
      step.before.eventsOf rules signer.id <+: final.eventsOf rules signer.id := by
  obtain ⟨_, sound⟩ := sound_of_run run
  have continues {step : SigningStep} (member : step ∈ steps) (runs : step.Runs rules) :
      Continues rules step.before step.after :=
    runs.commits.continues (sound step member) (clock step member)
  constructor
  · have told : Told rules final := by
      refine (run.invariant (Told rules) ?_ ?_).1
      · intro signer member
        cases member
      · intro step member runs told
        exact (continues member runs).told told
    intro workspaceId requestId request read signer member
    obtain ⟨row, among, _, events, out, rfl⟩ := ((signers_of_read read).2 signer).mp member
    obtain ⟨history, _⟩ := SignerRow.told out
    rw [history]
    refine ⟨told row among, ?_⟩
    have nonempty : events ≠ [] := by
      rintro rfl
      obtain ⟨head, _⟩ := told row among
      rw [← history] at head
      cases head
    obtain ⟨last, isLast⟩ := List.getLast?_isSome.mpr nonempty |> Option.isSome_iff_exists.mp
    simp [SignerRow.out, isLast]
  · intro step member
    obtain ⟨i, found⟩ := List.mem_iff_getElem?.mp member
    refine (run.stable_final (fun tables => step.before.signers.rows <+: tables.signers.rows ∧
      Continues rules step.before tables) found ?_ ?_).2.grown
    · intro m later _ found runs holds
      have among := List.mem_of_getElem? found
      exact ⟨holds.1.trans runs.commits.extends.signers,
        holds.2.trans (continues among runs) holds.1⟩
    · exact ⟨List.prefix_rfl, .of_same rfl rfl⟩

end Runs

/-! ## A request that is signed -/

def sampleContract : SigningContractRow :=
  ⟨"contract", "workspace", "Lease", some "version"⟩

theorem nodup_sampleContract : ([sampleContract].map SigningContractRow.id).Nodup :=
  List.nodup_singleton _

def sampleContracts : RowTable SigningContractRow.id :=
  ⟨[sampleContract], nodup_sampleContract⟩

def laterDraws : Draws :=
  { sampleDraws with now := 200 }

/-- A step in which every statement is executed. -/
def sampleStep (tables : SigningTables) (draws : Draws) (call : SigningCall)
    (statements : Nat) : Option SigningStep :=
  ((call.program sampleRules draws).finish (respond (SigningTables.exec sampleRules))
    (.idle tables) (List.replicate statements .executes)).map fun outcome =>
      ⟨tables, draws, call, List.replicate statements .executes, outcome.1,
        outcome.2.committed⟩

/-- A request is created, and its signer signs. -/
def sampleSteps : Option (SigningStep × SigningStep) :=
  (sampleStep { contracts := sampleContracts } sampleDraws
    (.createRequest "workspace" "contract"
      [{ name := "Ada", email := "ada@example.com".toList }] sampleActor) 11).bind fun first =>
    (sampleStep first.after laterDraws (.appendEvent "workspace" (sampleDraws.uuid4 1)
      ⟨"event", .signed, none⟩ sampleActor) 14).map fun second => (first, second)

theorem runs_sampleStep {tables : SigningTables} {draws : Draws} {call : SigningCall}
    {statements : Nat} {step : SigningStep}
    (ran : sampleStep tables draws call statements = some step) :
    step.Runs sampleRules ∧ step.before = tables ∧ step.draws = draws := by
  obtain ⟨⟨result, state⟩, finished, rfl⟩ := Option.map_eq_some_iff.mp ran
  exact ⟨⟨state, finished, rfl⟩, rfl, rfl⟩

/-- What a step returns, and the times of the events that it finds. -/
def SigningStep.shown (step : SigningStep) : Option Bool × List Int :=
  (step.result.toOption.map SigningRequestOut.active, step.before.events.rows.map
    StatusEventRow.createdAt)

theorem sample_run : ∃ first second : SigningStep,
    SigningRun sampleRules sampleContracts [first, second] second.after ∧
      first.shown = (some true, []) ∧ first.draws.now = 100 ∧
      second.shown = (some false, [100]) ∧ second.draws.now = 200 := by
  have computed : sampleSteps.map (fun steps => (steps.1.shown, steps.2.shown)) =
      some ((some true, []), (some false, [100])) := by decide
  obtain ⟨⟨first, second⟩, ran, shown⟩ := Option.map_eq_some_iff.mp computed
  obtain ⟨first', ran, rest⟩ := Option.bind_eq_some_iff.mp ran
  obtain ⟨second', ran', same⟩ := Option.map_eq_some_iff.mp rest
  cases same
  obtain ⟨runs, start, draws⟩ := runs_sampleStep ran
  obtain ⟨runs', start', draws'⟩ := runs_sampleStep ran'
  simp only [Prod.mk.injEq] at shown
  refine ⟨first, second, ?_, shown.1, by rw [draws]; rfl, shown.2, by rw [draws']; rfl⟩
  have one : SigningRun sampleRules sampleContracts [first] first.after :=
    Run.step .nil first start runs
  exact Run.step one second start' runs'

theorem SigningStep.settled_of_shown {step : SigningStep} {active : Bool} {times : List Int}
    (shown : step.shown = (some active, times)) : step.Settled := by
  intro _ _ _ _ error _ raised
  rw [SigningStep.shown, raised] at shown
  cases shown

theorem requests_are_recorded_sample : ∃ steps final,
    SigningRun sampleRules sampleContracts steps final ∧ steps.length = 2 ∧
      Sound sampleRules final ∧ ∀ step ∈ steps, Extends step.before final := by
  obtain ⟨first, second, run, _⟩ := sample_run
  obtain ⟨sound, _, extended⟩ := requests_are_recorded run
  exact ⟨_, _, run, rfl, sound, extended⟩

theorem active_iff_not_terminal_sample : ∃ steps final,
    SigningRun sampleRules sampleContracts steps final ∧ steps.length = 2 ∧
      ∀ row ∈ final.requests.rows, ∃ request,
        final.read sampleRules row.workspaceId row.id = .ok (some request) ∧
        (row.active = true ↔ request.status.terminal = false) := by
  obtain ⟨first, second, run, shown, _, shown', _⟩ := sample_run
  refine ⟨_, _, run, rfl, ?_⟩
  intro row member
  have settled : ∀ step ∈ [first, second], step.Settled := by
    intro step among
    simp only [List.mem_cons, List.not_mem_nil, or_false] at among
    rcases among with rfl | rfl
    · exact SigningStep.settled_of_shown shown
    · exact SigningStep.settled_of_shown shown'
  obtain ⟨request, read, active, _⟩ := active_iff_not_terminal run settled row member
  exact ⟨request, read, active⟩

theorem histories_are_proper_sample : ∃ steps final,
    SigningRun sampleRules sampleContracts steps final ∧ steps.length = 2 ∧
      ∀ step ∈ steps, ∀ signer ∈ step.before.signers.rows,
        step.before.eventsOf sampleRules signer.id <+:
          final.eventsOf sampleRules signer.id := by
  obtain ⟨first, second, run, shown, now, shown', now'⟩ := sample_run
  refine ⟨_, _, run, rfl, (histories_are_proper run ?_).2⟩
  intro step among event member
  have time : event.createdAt ∈ step.before.events.rows.map StatusEventRow.createdAt :=
    List.mem_map_of_mem member
  simp only [List.mem_cons, List.not_mem_nil, or_false] at among
  rcases among with rfl | rfl
  · rw [(Prod.mk.inj shown).2] at time
    cases time
  · rw [(Prod.mk.inj shown').2, List.mem_singleton] at time
    omega

end SigningRequests

end ContractMate
