import ContractMate.RequestStatuses
import ContractMate.SigningChanges

/-!
# Statuses in the tables

The latest event of a signer, and whether the signers of a request have ended it.  Both are
what a reader of the request is told, and each change of the tables has its own effect on
them.
-/

namespace List

variable {Row : Type} {before : Row → Row → Prop} [DecidableRel before] {rows : List Row}
  {last : Row}

theorem orderedInsert_concat {row : Row} (later : before row last) (rows : List Row) :
    (rows ++ [last]).orderedInsert before row = rows.orderedInsert before row ++ [last] := by
  induction rows with
  | nil => simp [later]
  | cons other rows induction =>
      rw [cons_append, orderedInsert_cons, orderedInsert_cons]
      split_ifs with first
      · rfl
      · rw [induction, cons_append]

/-- What comes behind every element is sorted behind them. -/
theorem insertionSort_concat (later : ∀ row ∈ rows, before row last) :
    (rows ++ [last]).insertionSort before = rows.insertionSort before ++ [last] := by
  induction rows with
  | nil => simp
  | cons row rows induction =>
      have rest : ∀ other ∈ rows, before other last := fun other member =>
        later other (mem_cons_of_mem row member)
      rw [cons_append, insertionSort_cons, induction rest, insertionSort_cons,
        orderedInsert_concat (later row mem_cons_self)]

end List

namespace ContractMate

namespace SigningRequests

open TransactionBlock PythonText

theorem SignerStatus.value_injective : Function.Injective SignerStatus.value := by
  intro first second same
  have found := SignerStatus.ofValue?_value first
  rw [same, SignerStatus.ofValue?_value] at found
  exact (Option.some.inj found).symm

theorem SignerStatus.value_of_ofValue? {text : String} {status : SignerStatus}
    (found : SignerStatus.ofValue? text = some status) : status.value = text := by
  simpa using List.find?_some found

/-- The statuses of a request that are terminal. -/
theorem terminal_deriveRequestStatus {signers : List SignerOut} :
    (deriveRequestStatus signers).terminal = true ↔
      (∃ signer ∈ signers, signer.required = true ∧ signer.latestStatus.terminal = true) ∨
        RequiredSigned signers := by
  have ended : (∃ signer ∈ signers, signer.required = true ∧
      signer.latestStatus.terminal = true) ↔ RequiredHas signers .declined ∨
        RequiredHas signers .expired ∨ RequiredHas signers .cancelled := by
    constructor
    · rintro ⟨signer, member, required, terminal⟩
      have latest : signer.latestStatus = .declined ∨ signer.latestStatus = .expired ∨
          signer.latestStatus = .cancelled := by
        cases latest : signer.latestStatus <;> simp [latest, SignerStatus.terminal] at terminal ⊢
      exact latest.imp (⟨signer, member, required, ·⟩)
        (Or.imp (⟨signer, member, required, ·⟩) (⟨signer, member, required, ·⟩))
    · rintro (⟨signer, member, required, latest⟩ | ⟨signer, member, required, latest⟩ |
        ⟨signer, member, required, latest⟩) <;>
        exact ⟨signer, member, required, by rw [latest]; rfl⟩
  rw [ended]
  have described := deriveRequestStatus_eq_iff.mp (Eq.refl (deriveRequestStatus signers))
  cases status : deriveRequestStatus signers with
  | notStarted =>
      rw [status] at described
      have untouched : Untouched signers := described
      have never (latest : SignerStatus) (moved : latest ≠ .pending) :
          ¬ RequiredHas signers latest := fun has => has.touched moved untouched
      have unsigned : ¬ RequiredSigned signers := fun signed => signed.touched untouched
      simp [SigningRequestStatus.terminal, never, unsigned]
  | inProgress =>
      rw [status] at described
      obtain ⟨_, unsigned, _, _, _⟩ := described
      simp_all [SigningRequestStatus.terminal]
  | completed =>
      rw [status] at described
      exact ⟨fun _ => .inr described, fun _ => rfl⟩
  | declined =>
      rw [status] at described
      exact ⟨fun _ => .inl (.inl described), fun _ => rfl⟩
  | expired =>
      rw [status] at described
      exact ⟨fun _ => .inl (.inr (.inl described.1)), fun _ => rfl⟩
  | cancelled =>
      rw [status] at described
      exact ⟨fun _ => .inl (.inr (.inr described.1)), fun _ => rfl⟩

namespace SigningTables

variable (rules : TextRules) (tables : SigningTables)

/-- The statuses of a signer, in the order of its events. -/
def history (signerId : String) : List String :=
  (tables.eventsOf rules signerId).map StatusEventRow.status

/-- The status of a signer's latest event. -/
def latest (signerId : String) : String :=
  (tables.history rules signerId).getLast?.getD SignerStatus.pending.value

/-- A required signer has a terminal status, or all of them have signed. -/
def Ended (requestId : String) : Prop :=
  (∃ signer ∈ tables.signers.rows, signer.signingRequestId = requestId ∧
    signer.required = true ∧ ∃ status : SignerStatus, status.terminal = true ∧
      tables.latest rules signer.id = status.value) ∨
  (∃ signer ∈ tables.signers.rows, signer.signingRequestId = requestId ∧
    signer.required = true) ∧
      ∀ signer ∈ tables.signers.rows, signer.signingRequestId = requestId →
        signer.required = true →
          tables.latest rules signer.id = SignerStatus.signed.value

end SigningTables

/-! ## What a reader is told -/

section Told

variable {rules : TextRules} {tables : SigningTables} {workspaceId requestId signerId : String}

theorem statuses_of_eventOuts {rows : List StatusEventRow} {events : List SignerStatusEventOut}
    (read : eventOuts rows = .ok events) :
    events.map (fun event => event.status.value) = rows.map StatusEventRow.status := by
  induction rows generalizing events with
  | nil =>
      cases read
      rfl
  | cons row rows induction =>
      cases status : SignerStatus.ofValue? row.status with
      | none => simp [eventOuts, StatusEventRow.out?, status] at read
      | some value =>
          cases later : eventOuts rows with
          | error error => simp [eventOuts, StatusEventRow.out?, status, later, Except.map] at read
          | ok outs =>
              simp only [eventOuts, StatusEventRow.out?, status, later, Except.map,
                Except.ok.injEq] at read
              subst read
              simp [induction later, SignerStatus.value_of_ofValue? status]

/-- A signer is read as its row with its events. -/
theorem mem_of_signerOuts {rows : List SignerRow} {signers : List SignerOut} {signer : SignerOut}
    (built : tables.signerOuts rules rows = .ok signers) :
    signer ∈ signers ↔ ∃ row ∈ rows, ∃ events,
      eventOuts (tables.eventsOf rules row.id) = .ok events ∧ signer = row.out events := by
  induction rows generalizing signers with
  | nil =>
      cases built
      simp
  | cons row rows induction =>
      rw [SigningTables.signerOuts] at built
      cases read : eventOuts (tables.eventsOf rules row.id) with
      | error error => simp [read] at built
      | ok events =>
          cases later : tables.signerOuts rules rows with
          | error error => simp [read, later, Except.map] at built
          | ok outs =>
              simp only [read, later, Except.map, Except.ok.injEq] at built
              subst built
              simp [induction later, read]

/-- The statuses of a signer as they are read. -/
theorem SignerRow.told {row : SignerRow} {events : List SignerStatusEventOut}
    (read : eventOuts (tables.eventsOf rules row.id) = .ok events) :
    (row.out events).events.map (fun event => event.status.value) = tables.history rules row.id ∧
      (row.out events).latestStatus.value = tables.latest rules row.id := by
  have statuses := statuses_of_eventOuts read
  refine ⟨statuses, ?_⟩
  rw [SigningTables.latest, SigningTables.history, ← statuses, List.getLast?_map]
  cases last : events.getLast? <;> simp [SignerRow.out, last]

theorem signers_of_read {request : SigningRequestOut}
    (found : tables.read rules workspaceId requestId = .ok (some request)) :
    request.status = deriveRequestStatus request.signers ∧
      ∀ signer, signer ∈ request.signers ↔ ∃ row ∈ tables.signers.rows,
        row.signingRequestId = requestId ∧ ∃ events,
          eventOuts (tables.eventsOf rules row.id) = .ok events ∧ signer = row.out events := by
  obtain ⟨row, title, signers, joined, built, rfl⟩ := read_eq_some_iff.mp found
  refine ⟨rfl, fun signer => (mem_of_signerOuts built).trans ?_⟩
  simp only [mem_signersOf, and_assoc]

/-- A request is read as terminal exactly when its signers have ended it. -/
theorem terminal_of_read {request : SigningRequestOut}
    (found : tables.read rules workspaceId requestId = .ok (some request)) :
    request.status.terminal = true ↔ tables.Ended rules requestId := by
  obtain ⟨derived, signers⟩ := signers_of_read found
  have legible := legible_of_read found
  -- each row is a signer that is read, with the latest status of the row
  have shown (row : SignerRow) (member : row ∈ tables.signers.rows)
      (own : row.signingRequestId = requestId) : ∃ signer ∈ request.signers,
        signer.required = row.required ∧
          signer.latestStatus.value = tables.latest rules row.id := by
    obtain ⟨events, read⟩ := (eventOuts_isOk_iff (tables.eventsOf rules row.id)).mpr
      fun event among => legible row member own event (mem_eventsOf.mp among).1
        (mem_eventsOf.mp among).2
    exact ⟨row.out events, (signers _).mpr ⟨row, member, own, events, read, rfl⟩, rfl,
      (SignerRow.told read).2⟩
  have stored (signer : SignerOut) (member : signer ∈ request.signers) :
      ∃ row ∈ tables.signers.rows, row.signingRequestId = requestId ∧
        row.required = signer.required ∧
          tables.latest rules row.id = signer.latestStatus.value := by
    obtain ⟨row, among, own, events, read, rfl⟩ := (signers _).mp member
    exact ⟨row, among, own, rfl, (SignerRow.told read).2.symm⟩
  rw [derived, terminal_deriveRequestStatus]
  constructor
  · rintro (⟨signer, member, required, terminal⟩ | ⟨⟨signer, member, required⟩, signed⟩)
    · obtain ⟨row, among, own, needed, latest⟩ := stored signer member
      exact .inl ⟨row, among, own, needed.trans required, _, terminal, latest⟩
    · obtain ⟨row, among, own, needed, _⟩ := stored signer member
      refine .inr ⟨⟨row, among, own, needed.trans required⟩, ?_⟩
      intro row among own required
      obtain ⟨signer, member, needed, latest⟩ := shown row among own
      rw [← latest, signed signer member (needed.trans required)]
  · rintro (⟨row, among, own, required, status, terminal, latest⟩ |
      ⟨⟨row, among, own, required⟩, signed⟩)
    · obtain ⟨signer, member, needed, same⟩ := shown row among own
      have status_eq := SignerStatus.value_injective (same.trans latest)
      exact .inl ⟨signer, member, needed.trans required, by rw [status_eq, terminal]⟩
    · obtain ⟨signer, member, needed, _⟩ := shown row among own
      refine .inr ⟨⟨signer, member, needed.trans required⟩, ?_⟩
      intro signer member required
      obtain ⟨row, among, own, needed, latest⟩ := stored signer member
      exact SignerStatus.value_injective
        (latest.symm.trans (signed row among own (needed.trans required)))

end Told

/-! ## What the changes do to the events of a signer -/

section Histories

variable {rules : TextRules} {tables written : SigningTables} {requestId signerId : String}
  {event : StatusEventRow}

theorem latest_of_events
    (same : written.eventsOf rules signerId = tables.eventsOf rules signerId) :
    written.latest rules signerId = tables.latest rules signerId := by
  rw [SigningTables.latest, SigningTables.history, same]
  rfl

/-- An event of another signer. -/
theorem events_of_other (rows : written.events.rows = tables.events.rows ++ [event])
    (other : event.signerId ≠ signerId) :
    written.eventsOf rules signerId = tables.eventsOf rules signerId := by
  rw [SigningTables.eventsOf, rows, List.filter_append, List.filter_singleton,
    decide_eq_false other, cond_false, List.append_nil]
  rfl

/-- The latest event of the signer. -/
theorem events_of_later (rows : written.events.rows = tables.events.rows ++ [event])
    (later : ∀ earlier ∈ tables.events.rows, earlier.signerId = event.signerId →
      earlier.createdAt < event.createdAt) :
    written.eventsOf rules event.signerId = tables.eventsOf rules event.signerId ++ [event] := by
  have own : (tables.events.rows ++ [event]).filter (fun row => row.signerId = event.signerId) =
      tables.events.rows.filter (fun row => row.signerId = event.signerId) ++ [event] := by
    simp
  rw [SigningTables.eventsOf, rows, own, List.insertionSort_concat]
  · rfl
  · intro earlier among
    obtain ⟨member, same⟩ := List.mem_filter.mp among
    have before := later earlier member (by simpa using same)
    simp [before]

theorem events_of_first (rows : written.events.rows = tables.events.rows ++ [event])
    (first : ∀ earlier ∈ tables.events.rows, earlier.signerId ≠ event.signerId) :
    written.eventsOf rules event.signerId = [event] := by
  have none : tables.eventsOf rules event.signerId = [] := by
    rw [List.eq_nil_iff_forall_not_mem]
    intro earlier among
    exact first earlier (mem_eventsOf.mp among).1 (mem_eventsOf.mp among).2
  rw [events_of_later rows, none, List.nil_append]
  intro earlier member same
  exact absurd same (first earlier member)

/-- Whether a request has ended depends on its signers and their latest statuses. -/
theorem ended_congr
    (signers : ∀ signer : SignerRow, signer.signingRequestId = requestId →
      (signer ∈ written.signers.rows ↔ signer ∈ tables.signers.rows))
    (latest : ∀ signer ∈ tables.signers.rows, signer.signingRequestId = requestId →
      written.latest rules signer.id = tables.latest rules signer.id) :
    written.Ended rules requestId ↔ tables.Ended rules requestId := by
  simp only [SigningTables.Ended]
  grind

end Histories

end SigningRequests

end ContractMate
