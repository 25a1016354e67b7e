import ContractMate.EmailOutbox
import ContractMate.RunHistory

/-!
# Email delivery

Any number of delivery workers drain the email outbox.  A claim carries no token, so what
keeps a worker from undoing another one's outcome is the status of the row alone.  That is
enough where the outcomes of superseded workers come after the row has been sent.
-/

namespace ContractMate

open EmailOutbox RunHistory

/-- The numbers of `OutboundEmailDeliveryService`. -/
structure DeliverySettings where
  maxAttempts : Int := 5
  baseBackoffSeconds : Int := 30
  leaseSeconds : Int := 120

/-- Where a worker is in `drain_once`.  After a send it has still to record the outcome:
with `mark_sent` if the mail was delivered, with `reschedule` if it was refused. -/
inductive DrainPhase where
  | idle
  | draining (items : List Item)
  | sending (item : Item) (rest : List Item)
  | delivered (item : Item) (rest : List Item)
  | refused (item : Item) (rest : List Item)
deriving DecidableEq

namespace DrainPhase

/-- The rows that the worker still has to deal with. -/
def held : DrainPhase → List Uuid
  | .idle => []
  | .draining items => items.map Item.id
  | .sending item rest | .delivered item rest | .refused item rest =>
      item.id :: rest.map Item.id

/-- The row whose mail the worker has delivered. -/
def delivered? : DrainPhase → Option Uuid
  | .delivered item _ => some item.id
  | _ => none

/-- The row whose mail was refused. -/
def refused? : DrainPhase → Option Uuid
  | .refused item _ => some item.id
  | _ => none

end DrainPhase

/-- The outbox, the workers, and the number of calls so far. -/
structure DeliveryState where
  table : Table := RowTable.empty
  workers : Nat → DrainPhase := fun _ => .idle
  calls : Nat := 0

/-- A step of a worker's `drain_once`, or another call on the outbox.  A worker crashes
when its process dies or a call outside the `try` block raises. -/
inductive DeliveryEvent where
  | claim (worker : Nat) (limit : Int)
  | check (worker : Nat)
  | sendSucceeds (worker : Nat)
  | sendFails (worker : Nat)
  | markSent (worker : Nat)
  | reschedule (worker : Nat)
  | finish (worker : Nat)
  | crash (worker : Nat)
  | enqueue (intent : Intent)
  | deleteContract (workspaceId : String) (contractId : Uuid)

/-- An event at some time, with the state it finds. -/
structure DeliveryStep where
  now : Int
  event : DeliveryEvent
  before : DeliveryState

namespace DeliveryStep

variable (settings : DeliverySettings) (step : DeliveryStep)

/-- The clock and the identifiers of the step's call. -/
def stamp : Stamp := ⟨step.now, step.before.calls⟩

/-- The state with another table and another phase of one worker. -/
def moved (table : Table) (worker : Nat) (phase : DrainPhase) : DeliveryState where
  table := table
  workers := Function.update step.before.workers worker phase
  calls := step.before.calls + 1

/-- `claim_due` under the service's lease. -/
def claimDue (limit : Int) : List Item × Table :=
  EmailOutbox.claimDue step.before.table step.stamp limit
    (max settings.leaseSeconds 1)

/-- The state after the step, if the worker is there. -/
def next? : Option DeliveryState :=
  match step.event with
  | .claim worker limit =>
      match step.before.workers worker with
      | .idle =>
          let claimed := step.claimDue settings limit
          some (step.moved claimed.2 worker (.draining claimed.1))
      | _ => none
  | .check worker =>
      match step.before.workers worker with
      | .draining (item :: rest) =>
          some (step.moved step.before.table worker
            (if isSending step.before.table item.id then .sending item rest
              else .draining rest))
      | _ => none
  | .sendSucceeds worker =>
      match step.before.workers worker with
      | .sending item rest =>
          some (step.moved step.before.table worker (.delivered item rest))
      | _ => none
  | .sendFails worker =>
      match step.before.workers worker with
      | .sending item rest =>
          some (step.moved step.before.table worker (.refused item rest))
      | _ => none
  | .markSent worker =>
      match step.before.workers worker with
      | .delivered item rest =>
          some (step.moved (EmailOutbox.markSent step.before.table item.id).2 worker
            (.draining rest))
      | _ => none
  | .reschedule worker =>
      match step.before.workers worker with
      | .refused item rest =>
          some (step.moved
            (EmailOutbox.reschedule step.before.table step.stamp item.id item.attempts
              (max settings.maxAttempts 1) (max settings.baseBackoffSeconds 1)).2
            worker (.draining rest))
      | _ => none
  | .finish worker =>
      match step.before.workers worker with
      | .draining [] => some (step.moved step.before.table worker .idle)
      | _ => none
  | .crash worker => some (step.moved step.before.table worker .idle)
  | .enqueue intent =>
      match EmailOutbox.enqueue step.before.table step.stamp intent with
      | .ok (_, table) =>
          some { step.before with table, calls := step.before.calls + 1 }
      | .error _ => some { step.before with calls := step.before.calls + 1 }
  | .deleteContract workspaceId contractId =>
      some
        { step.before with
          table := EmailOutbox.deleteContract step.before.table workspaceId
            contractId
          calls := step.before.calls + 1 }

def Allowed : Prop := (step.next? settings).isSome

instance : Decidable (step.Allowed settings) :=
  inferInstanceAs (Decidable ((step.next? settings).isSome = true))

def after : DeliveryState := (step.next? settings).getD step.before

/-- The items that the step claims. -/
def claimed : List Item :=
  match step.event with
  | .claim _ limit => (step.claimDue settings limit).1
  | _ => []

/-- The worker that claims. -/
def claimer? : Option Nat :=
  match step.event with
  | .claim worker _ => some worker
  | _ => none

/-- The step records the outcome of the worker's send. -/
def Records (worker : Nat) (id : Uuid) : Prop :=
  (step.event = .markSent worker ∧
      (step.before.workers worker).delivered? = some id) ∨
    (step.event = .reschedule worker ∧ (step.before.workers worker).refused? = some id)

/-- The worker's send of the row succeeds. -/
def Delivers (worker : Nat) (id : Uuid) : Prop :=
  step.event = .sendSucceeds worker ∧
    ∃ item rest, step.before.workers worker = .sending item rest ∧ item.id = id

end DeliveryStep

/-- The runs of the delivery workers. -/
abbrev DeliveryRun (settings : DeliverySettings) :
    List DeliveryStep → DeliveryState → Prop :=
  Run DeliveryStep.before (DeliveryStep.after settings)
    (DeliveryStep.Allowed settings) {}

namespace EmailOutbox

/-- The status of a row. -/
def status? (table : Table) (id : Uuid) : Option Status :=
  (table.find? id).map Row.status

/-- The row has been sent, or deleted. -/
def SentOrGone (table : Table) (id : Uuid) : Prop :=
  status? table id = none ∨ status? table id = some .sent

instance (table : Table) (id : Uuid) : Decidable (SentOrGone table id) :=
  inferInstanceAs (Decidable (status? table id = none ∨ status? table id = some .sent))

end EmailOutbox

section Statement

variable (settings : DeliverySettings) (steps : List DeliveryStep)

/-- The worker that was the last one to claim the row. -/
def lastClaimer (id : Uuid) : Option Nat :=
  steps.foldl
    (fun last step =>
      if id ∈ (step.claimed settings).map Item.id then step.claimer? else last) none

/-- After the steps, a worker that still deals with the row has been superseded: it got
the row with a claim, and the last claim of the row is another worker's. -/
def Superseded (worker : Nat) (id : Uuid) : Prop :=
  lastClaimer settings steps id ≠ some worker

instance (worker : Nat) (id : Uuid) : Decidable (Superseded settings steps worker id) :=
  inferInstanceAs (Decidable (lastClaimer settings steps id ≠ some worker))

/-- A superseded worker changes nothing, and once nobody deals with a row any more
it is sent if any worker's send of it succeeded. -/
structure Fenced (final : DeliveryState) : Prop where
  inert : ∀ (k worker : Nat) (id : Uuid) (step : DeliveryStep), steps[k]? = some step →
    step.Records worker id → Superseded settings (steps.take k) worker id →
      (step.after settings).table.find? id = step.before.table.find? id
  delivered : ∀ (step : DeliveryStep) (worker : Nat) (id : Uuid),
    step ∈ steps → step.Delivers worker id →
      (∀ other, id ∉ (final.workers other).held) →
        ∀ row, final.table.find? id = some row → row.status = .sent

/-- The status guard holds off what the step might do wrong: a superseded worker records a
failure where the row is not being sent, and a success where the row has been sent or is
gone; and a worker that has delivered a mail crashes only then. -/
def OutcomeGuarded (step : DeliveryStep) : Prop :=
  match step.event with
  | .reschedule worker =>
      ∀ id ∈ (step.before.workers worker).refused?, Superseded settings steps worker id →
        status? step.before.table id ≠ some .sending
  | .markSent worker =>
      ∀ id ∈ (step.before.workers worker).delivered?, Superseded settings steps worker id →
        SentOrGone step.before.table id
  | .crash worker =>
      ∀ id ∈ (step.before.workers worker).delivered?, SentOrGone step.before.table id
  | _ => True

/-- Every step of the run is guarded. -/
def OverlapsGuarded : Prop :=
  ∀ (k : Nat) (step : DeliveryStep), steps[k]? = some step →
    OutcomeGuarded settings (steps.take k) step

end Statement

namespace EmailOutbox

variable {table : Table} {stamp : Stamp} {id : Uuid}

theorem status?_eq_some_iff {status : Status} :
    status? table id = some status ↔
      ∃ row, table.find? id = some row ∧ row.status = status :=
  Option.map_eq_some_iff

theorem status?_markSent (outboxId : Uuid) :
    status? (markSent table outboxId).2 id =
      if id = outboxId ∧ status? table id = some .sending then some .sent
      else status? table id := by
  rw [status?, markSent, updateOne, RowTable.find?_updateWhere_key, status?]
  by_cases same : id = outboxId
  · subst same
    rw [if_pos rfl]
    cases table.find? id with
    | none => simp
    | some row => by_cases sending : row.status = .sending <;> simp [sending]
  · simp [same]

theorem status?_reschedule (outboxId : Uuid)
    (attempts maxAttempts baseBackoffSeconds : Int) :
    status? (reschedule table stamp outboxId attempts maxAttempts
        baseBackoffSeconds).2 id =
      if id = outboxId ∧ status? table id = some .sending then
        some (if max maxAttempts 1 ≤ attempts then .failed else .pending)
      else status? table id := by
  rw [status?, reschedule, updateOne, RowTable.find?_updateWhere_key, status?]
  by_cases same : id = outboxId
  · subst same
    rw [if_pos rfl]
    cases table.find? id with
    | none => simp
    | some row => by_cases sending : row.status = .sending <;> simp [sending]
  · simp [same]

/-- An update of one row leaves the rows that do not meet its condition. -/
theorem find?_updateOne_of_unmet {outboxId : Uuid} {guard : Row → Bool}
    {change : RowTable.Change Row.id}
    (unmet : ∀ row, table.find? id = some row → guard row = false) :
    (updateOne table outboxId guard change).2.find? id = table.find? id := by
  rw [updateOne, RowTable.find?_updateWhere_key]
  split_ifs with same
  · subst same
    cases found : table.find? id with
    | none => rfl
    | some row => simp [unmet row found]
  · rfl

theorem status?_deleteContract (workspaceId : String) (contractId : Uuid) :
    status? (deleteContract table workspaceId contractId) id = status? table id ∨
      status? (deleteContract table workspaceId contractId) id = none := by
  simp only [status?, deleteContract, RowTable.find?_deleteWhere]
  cases found : table.find? id with
  | none => simp
  | some row =>
      by_cases removed :
          row.workspaceId = workspaceId ∧ row.contractId = some contractId
      · right
        simp [removed]
      · left
        rcases not_and_or.mp removed with other | other
        · simp [other]
        · simp [other]

/-- Enqueueing leaves every row that is not the new one. -/
theorem status?_enqueue {intent : Intent} {reply : Uuid} {inserted : Table}
    (success : enqueue table stamp intent = .ok (reply, inserted))
    (other : id ≠ stamp.uuid4 0) : status? inserted id = status? table id := by
  unfold enqueue at success
  split at success
  · cases success
    rfl
  · dsimp only at success
    split at success
    · cases success
    · split at success
      · cases success
      · split at success
        · cases success
        · rename_i table' insertion
          cases success
          rw [status?, RowTable.find?_insert? insertion,
            if_neg (Ne.symm other), status?]

/-- What `claim_due` hands out. -/
theorem claimDue_items {limit leaseSeconds : Int} (positive : ¬ limit < 1) :
    (claimDue table stamp limit leaseSeconds).1 =
      (dueRows table stamp limit).map claimedItem := by
  rw [claimDue, if_neg positive, claimEach_items]

theorem claimDue_nodup (limit leaseSeconds : Int) :
    ((claimDue table stamp limit leaseSeconds).1.map Item.id).Nodup := by
  by_cases none : limit < 1
  · simp [claimDue, none]
  · rw [claimDue_items none, List.map_map]
    exact orderedFirst_nodup table _ _ _ limit

/-- A claimed row was live, and is being sent. -/
theorem status?_of_claimed {limit leaseSeconds : Int}
    (claimed : id ∈ (claimDue table stamp limit leaseSeconds).1.map Item.id) :
    (status? table id = some .pending ∨ status? table id = some .sending) ∧
      status? (claimDue table stamp limit leaseSeconds).2 id = some .sending := by
  by_cases none : limit < 1
  · simp [claimDue, none] at claimed
  · rw [claimDue_items none, List.map_map] at claimed
    obtain ⟨row, member, rfl⟩ := List.mem_map.mp claimed
    have selected := mem_of_mem_orderedFirst member
    rw [RowTable.select, List.mem_filter] at selected
    have found : table.find? row.id = some row :=
      RowTable.find?_of_mem selected.1
    constructor
    · have isDue := selected.2
      simp only [due, Bool.and_eq_true, Bool.or_eq_true, decide_eq_true_eq] at isDue
      have live := isDue.1.imp And.left And.left
      change status? table row.id = _ ∨ status? table row.id = _
      rwa [status?, found, Option.map_some, Option.some.injEq, Option.some.injEq]
    · rw [claimDue, if_neg none]
      obtain ⟨token, written⟩ := claimEach_selected
        (fun selected _ => taken stamp leaseSeconds selected)
        (fun row _ => claimedItem row) stamp false (dueRows table stamp limit) 0
        table (orderedFirst_nodup table _ _ _ limit) row member row found
      exact status?_eq_some_iff.mpr ⟨_, written, rfl⟩

/-- Other rows are left alone. -/
theorem status?_of_not_claimed {limit leaseSeconds : Int}
    (unclaimed : id ∉ (claimDue table stamp limit leaseSeconds).1.map Item.id) :
    status? (claimDue table stamp limit leaseSeconds).2 id = status? table id := by
  by_cases none : limit < 1
  · simp [claimDue, none]
  · rw [claimDue_items none, List.map_map] at unclaimed
    have kept := claimEach_other (fun _ => true)
      (fun selected _ => taken stamp leaseSeconds selected)
      (fun row _ => claimedItem row) stamp false (dueRows table stamp limit) 0 table
      id unclaimed
    rw [claimDue, if_neg none, status?, kept, status?]

end EmailOutbox

section Steps

variable {settings : DeliverySettings} {step : DeliveryStep} {steps : List DeliveryStep}
  {after : DeliveryState}

theorem lastClaimer_concat (id : Uuid) :
    lastClaimer settings (steps ++ [step]) id =
      if id ∈ (step.claimed settings).map Item.id then step.claimer?
      else lastClaimer settings steps id := by
  rw [lastClaimer, List.foldl_append]
  rfl

/-- What a step can do. -/
inductive DeliveryEffect (settings : DeliverySettings) (step : DeliveryStep) :
    DeliveryState → Prop
  | claimed (worker : Nat) (limit : Int) (event : step.event = .claim worker limit)
      (idle : step.before.workers worker = .idle) :
      DeliveryEffect settings step
        (step.moved (step.claimDue settings limit).2 worker
          (.draining (step.claimDue settings limit).1))
  | passed (worker : Nat) (phase : DrainPhase) (unclaimed : step.claimed settings = [])
      (quiet : ∀ other, step.event ≠ .sendSucceeds other)
      (leaves : (step.before.workers worker).delivered? = none ∨
        step.event = .crash worker)
      (shrinks : phase.held.Sublist (step.before.workers worker).held) :
      DeliveryEffect settings step (step.moved step.before.table worker phase)
  | succeeded (worker : Nat) (item : Item) (rest : List Item)
      (event : step.event = .sendSucceeds worker)
      (sending : step.before.workers worker = .sending item rest) :
      DeliveryEffect settings step
        (step.moved step.before.table worker (.delivered item rest))
  | recorded (worker : Nat) (item : Item) (rest : List Item) (table : Table)
      (held : (step.before.workers worker).held = item.id :: rest.map Item.id)
      (outcome : step.event = .markSent worker ∧
          (step.before.workers worker).delivered? = some item.id ∧
          (status? step.before.table item.id = some .sending →
            status? table item.id = some .sent) ∨
        step.event = .reschedule worker ∧
          (step.before.workers worker).delivered? = none ∧
          (step.before.workers worker).refused? = some item.id)
      (kept : ∀ id, id ≠ item.id ∨ status? step.before.table id ≠ some .sending →
        status? table id = status? step.before.table id) :
      DeliveryEffect settings step (step.moved table worker (.draining rest))
  | stored (table : Table) (unclaimed : step.claimed settings = [])
      (quiet : ∀ other, step.event ≠ .sendSucceeds other)
      (kept : ∀ id, id ≠ step.stamp.uuid4 0 →
        status? table id = status? step.before.table id ∨
          status? table id = none) :
      DeliveryEffect settings step
        { step.before with table, calls := step.before.calls + 1 }

theorem DeliveryStep.effect (allowed : step.Allowed settings) :
    DeliveryEffect settings step (step.after settings) := by
  obtain ⟨now, event, before⟩ := step
  obtain ⟨next, took⟩ := Option.isSome_iff_exists.mp allowed
  have after_eq : DeliveryStep.after settings ⟨now, event, before⟩ = next := by
    rw [DeliveryStep.after, took, Option.getD_some]
  rw [after_eq]
  cases event with
  | claim worker limit =>
      cases phase : before.workers worker with
      | idle =>
          simp only [DeliveryStep.next?, phase, Option.some.injEq] at took
          subst took
          exact .claimed worker limit rfl phase
      | _ => simp [DeliveryStep.next?, phase] at took
  | check worker =>
      cases phase : before.workers worker with
      | draining items =>
          cases items with
          | nil => simp [DeliveryStep.next?, phase] at took
          | cons item rest =>
              simp only [DeliveryStep.next?, phase, Option.some.injEq] at took
              subst took
              refine .passed worker _ rfl (by simp) (.inl ?_) ?_
              · simp only [phase]
                rfl
              · simp only [phase]
                split_ifs
                · exact List.Sublist.refl _
                · exact List.sublist_cons_self _ _
      | _ => simp [DeliveryStep.next?, phase] at took
  | sendSucceeds worker =>
      cases phase : before.workers worker with
      | sending item rest =>
          simp only [DeliveryStep.next?, phase, Option.some.injEq] at took
          subst took
          exact .succeeded worker item rest rfl phase
      | _ => simp [DeliveryStep.next?, phase] at took
  | sendFails worker =>
      cases phase : before.workers worker with
      | sending item rest =>
          simp only [DeliveryStep.next?, phase, Option.some.injEq] at took
          subst took
          refine .passed worker _ rfl (by simp) (.inl ?_) ?_
          · simp only [phase]
            rfl
          · simp only [phase]
            exact List.Sublist.refl _
      | _ => simp [DeliveryStep.next?, phase] at took
  | markSent worker =>
      cases phase : before.workers worker with
      | delivered item rest =>
          simp only [DeliveryStep.next?, phase, Option.some.injEq] at took
          subst took
          refine .recorded worker item rest _ ?_ (.inl ⟨rfl, ?_, ?_⟩) ?_
          · simp only [phase]
            rfl
          · simp only [phase]
            rfl
          · intro sending
            rw [status?_markSent, if_pos ⟨rfl, sending⟩]
          · intro id spared
            rw [status?_markSent, if_neg (not_and_or.mpr spared)]
      | _ => simp [DeliveryStep.next?, phase] at took
  | reschedule worker =>
      cases phase : before.workers worker with
      | refused item rest =>
          simp only [DeliveryStep.next?, phase, Option.some.injEq] at took
          subst took
          refine .recorded worker item rest _ ?_ (.inr ⟨rfl, ?_, ?_⟩) ?_
          · simp only [phase]
            rfl
          · simp only [phase]
            rfl
          · simp only [phase]
            rfl
          · intro id spared
            rw [status?_reschedule, if_neg (not_and_or.mpr spared)]
      | _ => simp [DeliveryStep.next?, phase] at took
  | finish worker =>
      cases phase : before.workers worker with
      | draining items =>
          cases items with
          | nil =>
              simp only [DeliveryStep.next?, phase, Option.some.injEq] at took
              subst took
              refine .passed worker _ rfl (by simp) (.inl ?_) (List.nil_sublist _)
              simp only [phase]
              rfl
          | cons item rest => simp [DeliveryStep.next?, phase] at took
      | _ => simp [DeliveryStep.next?, phase] at took
  | crash worker =>
      simp only [DeliveryStep.next?, Option.some.injEq] at took
      subst took
      exact .passed worker _ rfl (by simp) (.inr rfl) (List.nil_sublist _)
  | enqueue intent =>
      simp only [DeliveryStep.next?] at took
      split at took
      next reply table success =>
        cases took
        exact .stored table rfl (by simp) fun id other =>
          .inl (status?_enqueue success other)
      next raised =>
        cases took
        exact .stored before.table rfl (by simp) fun id _ => .inl rfl
  | deleteContract workspaceId contractId =>
      simp only [DeliveryStep.next?, Option.some.injEq] at took
      subst took
      exact .stored _ rfl (by simp) fun id _ => status?_deleteContract _ _

@[simp]
theorem DeliveryStep.workers_moved (table : Table) (worker other : Nat)
    (phase : DrainPhase) :
    (step.moved table worker phase).workers other =
      if other = worker then phase else step.before.workers other := by
  simp only [DeliveryStep.moved, Function.update_apply]

@[simp]
theorem DeliveryStep.held_moved (table : Table) (worker other : Nat)
    (phase : DrainPhase) :
    ((step.moved table worker phase).workers other).held =
      if other = worker then phase.held else (step.before.workers other).held := by
  rw [DeliveryStep.workers_moved]
  split_ifs <;> rfl

variable {id : Uuid} {worker : Nat}

/-- A delivered row is still to be dealt with. -/
theorem DrainPhase.mem_held_of_delivered {phase : DrainPhase}
    (delivered : phase.delivered? = some id) : id ∈ phase.held := by
  cases phase with
  | delivered item rest =>
      cases delivered
      exact List.mem_cons_self
  | _ => cases delivered

/-- A row is being sent for the worker that claimed it last, as long as it deals with the
row.  A row with a successful send has been sent, or a worker has still to mark it. -/
structure DeliveryInvariant (settings : DeliverySettings) (steps : List DeliveryStep)
    (state : DeliveryState) : Prop where
  nodup : ∀ worker, (state.workers worker).held.Nodup
  leased : ∀ worker id, id ∈ (state.workers worker).held →
    lastClaimer settings steps id = some worker →
      status? state.table id = none ∨ status? state.table id = some .sending
  delivered : ∀ step ∈ steps, ∀ worker id, step.Delivers worker id →
    SentOrGone state.table id ∨ ∃ other, (state.workers other).delivered? = some id
  drawnRow : ∀ id status, status? state.table id = some status →
    id.call < state.calls
  drawnHeld : ∀ worker id, id ∈ (state.workers worker).held → id.call < state.calls
  drawnSent : ∀ step ∈ steps, ∀ worker id, step.Delivers worker id →
    id.call < state.calls

theorem DeliveryInvariant.start : DeliveryInvariant settings [] {} where
  nodup := fun _ => List.nodup_nil
  leased := by simp [DrainPhase.held]
  delivered := by simp
  drawnRow := by simp [status?]
  drawnHeld := by simp [DrainPhase.held]
  drawnSent := by simp

theorem DeliveryStep.Delivers.mem_held
    (delivers : step.Delivers worker id) : id ∈ (step.before.workers worker).held := by
  obtain ⟨_, item, rest, sending, rfl⟩ := delivers
  simp [sending, DrainPhase.held]

/-- A step that claims nothing. -/
theorem DeliveryInvariant.shrink (invariant : DeliveryInvariant settings steps step.before)
    (unclaimed : step.claimed settings = [])
    (counted : after.calls = step.before.calls + 1)
    (shrinks : ∀ worker, (after.workers worker).held.Sublist
      (step.before.workers worker).held)
    (rows : ∀ id status, status? after.table id = some status →
      id.call < after.calls)
    (leased : ∀ worker id, id ∈ (after.workers worker).held →
      lastClaimer settings steps id = some worker →
        status? after.table id = none ∨ status? after.table id = some .sending)
    (delivered : ∀ earlier ∈ steps ++ [step], ∀ worker id,
      earlier.Delivers worker id →
        SentOrGone after.table id ∨ ∃ other, (after.workers other).delivered? = some id) :
    DeliveryInvariant settings (steps ++ [step]) after where
  nodup := fun worker => (shrinks worker).nodup (invariant.nodup worker)
  leased := by
    intro worker id held last
    rw [lastClaimer_concat, unclaimed, if_neg (by simp)] at last
    exact leased worker id held last
  delivered := delivered
  drawnRow := rows
  drawnHeld := by
    intro worker id held
    have drawn := invariant.drawnHeld worker id ((shrinks worker).subset held)
    omega
  drawnSent := by
    intro earlier member worker id delivers
    rw [counted]
    rcases List.mem_append.mp member with old | new
    · have drawn := invariant.drawnSent earlier old worker id delivers
      omega
    · rw [List.mem_singleton] at new
      subst new
      have drawn := invariant.drawnHeld worker id delivers.mem_held
      omega

theorem DeliveryInvariant.passed (invariant : DeliveryInvariant settings steps step.before)
    (guarded : OutcomeGuarded settings steps step) {phase : DrainPhase}
    (unclaimed : step.claimed settings = [])
    (quiet : ∀ other, step.event ≠ .sendSucceeds other)
    (leaves : (step.before.workers worker).delivered? = none ∨ step.event = .crash worker)
    (shrinks : phase.held.Sublist (step.before.workers worker).held) :
    DeliveryInvariant settings (steps ++ [step])
      (step.moved step.before.table worker phase) := by
  have smaller (other : Nat) :
      ((step.moved step.before.table worker phase).workers other).held.Sublist
        (step.before.workers other).held := by
    rw [DeliveryStep.held_moved]
    split_ifs with same
    · exact same ▸ shrinks
    · exact List.Sublist.refl _
  refine invariant.shrink unclaimed rfl smaller ?_ ?_ ?_
  · intro id status found
    exact Nat.lt_succ_of_lt (invariant.drawnRow id status found)
  · intro other id held last
    exact invariant.leased other id ((smaller other).subset held) last
  · intro earlier member other id delivers
    rcases List.mem_append.mp member with old | new
    · rcases invariant.delivered earlier old other id delivers with
        settled | ⟨holder, delivered⟩
      · exact .inl settled
      · by_cases same : holder = worker
        · -- A worker that has delivered its mail only leaves by crashing.
          subst same
          rcases leaves with nothing | crashed
          · rw [nothing] at delivered
            cases delivered
          · rw [OutcomeGuarded, crashed] at guarded
            exact .inl (guarded id delivered)
        · refine .inr ⟨holder, ?_⟩
          rw [DeliveryStep.workers_moved, if_neg same]
          exact delivered
    · rw [List.mem_singleton] at new
      exact absurd (new ▸ delivers.1) (quiet other)

theorem DeliveryInvariant.succeeded
    (invariant : DeliveryInvariant settings steps step.before) {item : Item}
    {rest : List Item} (event : step.event = .sendSucceeds worker)
    (sending : step.before.workers worker = .sending item rest) :
    DeliveryInvariant settings (steps ++ [step])
      (step.moved step.before.table worker (.delivered item rest)) := by
  have heldBefore : (step.before.workers worker).held =
      item.id :: rest.map Item.id := by rw [sending]; rfl
  have smaller (other : Nat) :
      ((step.moved step.before.table worker (.delivered item rest)).workers
        other).held.Sublist (step.before.workers other).held := by
    rw [DeliveryStep.held_moved]
    split_ifs with same
    · rw [same, heldBefore]
      exact List.Sublist.refl _
    · exact List.Sublist.refl _
  have unclaimed : step.claimed settings = [] := by
    rw [DeliveryStep.claimed, event]
  refine invariant.shrink unclaimed rfl smaller ?_ ?_ ?_
  · intro id status found
    exact Nat.lt_succ_of_lt (invariant.drawnRow id status found)
  · intro other id held last
    exact invariant.leased other id ((smaller other).subset held) last
  · intro earlier member other id delivers
    rcases List.mem_append.mp member with old | new
    · rcases invariant.delivered earlier old other id delivers with
        settled | ⟨holder, delivered⟩
      · exact .inl settled
      · have different : holder ≠ worker := by
          rintro rfl
          rw [sending] at delivered
          cases delivered
        refine .inr ⟨holder, ?_⟩
        rw [DeliveryStep.workers_moved, if_neg different]
        exact delivered
    · rw [List.mem_singleton] at new
      subst new
      obtain ⟨event', item', rest', sending', rfl⟩ := delivers
      rw [event] at event'
      cases event'
      rw [sending] at sending'
      cases sending'
      refine .inr ⟨worker, ?_⟩
      rw [DeliveryStep.workers_moved, if_pos rfl]
      rfl

theorem DeliveryInvariant.stored (invariant : DeliveryInvariant settings steps step.before)
    {table : Table} (unclaimed : step.claimed settings = [])
    (quiet : ∀ other, step.event ≠ .sendSucceeds other)
    (kept : ∀ id, id ≠ step.stamp.uuid4 0 →
      status? table id = status? step.before.table id ∨ status? table id = none) :
    DeliveryInvariant settings (steps ++ [step])
      { step.before with table, calls := step.before.calls + 1 } := by
  have old (id : Uuid) (drawn : id.call < step.before.calls) :
      status? table id = status? step.before.table id ∨ status? table id = none := by
    apply kept
    rintro rfl
    exact absurd drawn (lt_irrefl _)
  refine invariant.shrink unclaimed rfl (fun _ => List.Sublist.refl _) ?_ ?_ ?_
  · intro id status found
    change id.call < step.before.calls + 1
    by_cases fresh : id = step.stamp.uuid4 0
    · rw [fresh]
      exact Nat.lt_succ_self _
    · rcases kept id fresh with same | gone
      · exact Nat.lt_succ_of_lt (invariant.drawnRow id status (same ▸ found))
      · rw [gone] at found
        cases found
  · intro worker id held last
    rcases old id (invariant.drawnHeld worker id held) with same | gone
    · change status? table id = none ∨ _
      rw [same]
      exact invariant.leased worker id held last
    · exact .inl gone
  · intro earlier member worker id delivers
    rcases List.mem_append.mp member with inOld | new
    · rcases invariant.delivered earlier inOld worker id delivers with settled | marking
      · rcases old id (invariant.drawnSent earlier inOld worker id delivers) with
          same | gone
        · left
          change SentOrGone table id
          rw [SentOrGone, same]
          exact settled
        · exact .inl (.inl gone)
      · exact .inr marking
    · rw [List.mem_singleton] at new
      exact absurd (new ▸ delivers.1) (quiet worker)

/-- A recorded outcome: the worker is the one that the row is being sent for, or the guard
holds it off. -/
theorem DeliveryInvariant.recorded
    (invariant : DeliveryInvariant settings steps step.before)
    (guarded : OutcomeGuarded settings steps step) {item : Item} {rest : List Item}
    {table : Table}
    (heldBefore : (step.before.workers worker).held = item.id :: rest.map Item.id)
    (outcome : step.event = .markSent worker ∧
        (step.before.workers worker).delivered? = some item.id ∧
        (status? step.before.table item.id = some .sending →
          status? table item.id = some .sent) ∨
      step.event = .reschedule worker ∧
        (step.before.workers worker).delivered? = none ∧
        (step.before.workers worker).refused? = some item.id)
    (kept : ∀ id, id ≠ item.id ∨ status? step.before.table id ≠ some .sending →
      status? table id = status? step.before.table id) :
    DeliveryInvariant settings (steps ++ [step])
      (step.moved table worker (.draining rest)) := by
  have unclaimed : step.claimed settings = [] := by
    rcases outcome with ⟨event, _⟩ | ⟨event, _⟩ <;> rw [DeliveryStep.claimed, event]
  have quiet (other : Nat) : step.event ≠ .sendSucceeds other := by
    rcases outcome with ⟨event, _⟩ | ⟨event, _⟩ <;> simp [event]
  have smaller (other : Nat) :
      ((step.moved table worker (.draining rest)).workers other).held.Sublist
        (step.before.workers other).held := by
    rw [DeliveryStep.held_moved]
    split_ifs with same
    · rw [same, heldBefore]
      exact List.sublist_cons_self _ _
    · exact List.Sublist.refl _
  have settled (id : Uuid) (settled : SentOrGone step.before.table id) :
      SentOrGone table id := by
    rw [SentOrGone, kept id (.inr ?_)]
    · exact settled
    · rcases settled with gone | sent
      · simp [gone]
      · simp [sent]
  have heldOff (superseded : Superseded settings steps worker item.id) :
      status? step.before.table item.id ≠ some .sending := by
    rcases outcome with ⟨event, delivered, _⟩ | ⟨event, _, refused⟩
    · rw [OutcomeGuarded, event] at guarded
      rcases guarded item.id delivered superseded with gone | sent
      · simp [gone]
      · simp [sent]
    · rw [OutcomeGuarded, event] at guarded
      exact guarded item.id refused superseded
  refine invariant.shrink unclaimed rfl smaller ?_ ?_ ?_
  · intro id status found
    change id.call < step.before.calls + 1
    cases present : status? step.before.table id with
    | none =>
        have gone : status? table id = some status := found
        rw [kept id (.inr (by rw [present]; simp)), present] at gone
        cases gone
    | some old => exact Nat.lt_succ_of_lt (invariant.drawnRow id old present)
  · intro other id held last
    have before := invariant.leased other id ((smaller other).subset held) last
    change status? table id = none ∨ status? table id = some .sending
    rw [kept id ?_]
    · exact before
    by_cases same : id = item.id
    · subst same
      by_cases own : other = worker
      · -- The worker held the row only once.
        subst own
        have once := invariant.nodup other
        rw [heldBefore, List.nodup_cons] at once
        rw [DeliveryStep.held_moved, if_pos rfl] at held
        exact absurd held once.1
      · right
        apply heldOff
        rw [Superseded, last]
        simpa using own
    · exact .inl same
  · intro earlier member other id delivers
    rcases List.mem_append.mp member with old | new
    · rcases invariant.delivered earlier old other id delivers with
        before | ⟨holder, delivered⟩
      · exact .inl (settled id before)
      · by_cases same : holder = worker
        · subst same
          rcases outcome with ⟨event, own, marks⟩ | ⟨_, nothing, _⟩
          · rw [own, Option.some.injEq] at delivered
            subst delivered
            left
            by_cases superseded : Superseded settings steps holder item.id
            · rw [OutcomeGuarded, event] at guarded
              exact settled item.id (guarded item.id own superseded)
            · have last : lastClaimer settings steps item.id = some holder :=
                not_not.mp superseded
              rcases invariant.leased holder item.id (by rw [heldBefore]; simp) last with
                gone | sending
              · exact settled item.id (.inl gone)
              · exact .inr (marks sending)
          · rw [nothing] at delivered
            cases delivered
        · refine .inr ⟨holder, ?_⟩
          rw [DeliveryStep.workers_moved, if_neg same]
          exact delivered
    · rw [List.mem_singleton] at new
      exact absurd (new ▸ delivers.1) (quiet other)

theorem DeliveryInvariant.claimed (invariant : DeliveryInvariant settings steps step.before)
    {limit : Int} (event : step.event = .claim worker limit)
    (idle : step.before.workers worker = .idle) :
    DeliveryInvariant settings (steps ++ [step])
      (step.moved (step.claimDue settings limit).2 worker
        (.draining (step.claimDue settings limit).1)) := by
  have taken : step.claimed settings = (step.claimDue settings limit).1 := by
    rw [DeliveryStep.claimed, event]
  have quiet (other : Nat) : step.event ≠ .sendSucceeds other := by simp [event]
  have held_cases {other : Nat} {id : Uuid}
      (held : id ∈ ((step.moved (step.claimDue settings limit).2 worker
        (.draining (step.claimDue settings limit).1)).workers other).held) :
      (other = worker ∧ id ∈ (step.claimDue settings limit).1.map Item.id) ∨
        (other ≠ worker ∧ id ∈ (step.before.workers other).held) := by
    rw [DeliveryStep.held_moved] at held
    split_ifs at held with same
    · exact .inl ⟨same, held⟩
    · exact .inr ⟨same, held⟩
  constructor
  · intro other
    rw [DeliveryStep.held_moved]
    split_ifs
    · exact claimDue_nodup limit _
    · exact invariant.nodup other
  · intro other id held last
    change status? (step.claimDue settings limit).2 id = none ∨
      status? (step.claimDue settings limit).2 id = some .sending
    by_cases claimed : id ∈ (step.claimDue settings limit).1.map Item.id
    · exact .inr (status?_of_claimed claimed).2
    · rcases held_cases held with ⟨_, claimed'⟩ | ⟨_, before⟩
      · exact absurd claimed' claimed
      · rw [lastClaimer_concat, taken, if_neg claimed] at last
        rw [DeliveryStep.claimDue, status?_of_not_claimed claimed]
        exact invariant.leased other id before last
  · intro earlier member other id delivers
    rcases List.mem_append.mp member with old | new
    · rcases invariant.delivered earlier old other id delivers with
        before | ⟨holder, delivered⟩
      · left
        have unclaimed : id ∉ (step.claimDue settings limit).1.map Item.id := by
          intro claimed
          have live := (status?_of_claimed claimed).1
          rcases before with gone | sent
          · simp [gone] at live
          · simp [sent] at live
        change SentOrGone (step.claimDue settings limit).2 id
        rw [SentOrGone, DeliveryStep.claimDue, status?_of_not_claimed unclaimed]
        exact before
      · have different : holder ≠ worker := by
          rintro rfl
          rw [idle] at delivered
          cases delivered
        refine .inr ⟨holder, ?_⟩
        rw [DeliveryStep.workers_moved, if_neg different]
        exact delivered
    · rw [List.mem_singleton] at new
      exact absurd (new ▸ delivers.1) (quiet other)
  · intro id status found
    change id.call < step.before.calls + 1
    have found : status? (step.claimDue settings limit).2 id = some status := found
    by_cases claimed : id ∈ (step.claimDue settings limit).1.map Item.id
    · rcases (status?_of_claimed claimed).1 with pending | sending
      · exact Nat.lt_succ_of_lt (invariant.drawnRow id _ pending)
      · exact Nat.lt_succ_of_lt (invariant.drawnRow id _ sending)
    · rw [DeliveryStep.claimDue, status?_of_not_claimed claimed] at found
      exact Nat.lt_succ_of_lt (invariant.drawnRow id _ found)
  · intro other id held
    change id.call < step.before.calls + 1
    rcases held_cases held with ⟨_, claimed⟩ | ⟨_, held⟩
    · rcases (status?_of_claimed claimed).1 with pending | sending
      · exact Nat.lt_succ_of_lt (invariant.drawnRow id _ pending)
      · exact Nat.lt_succ_of_lt (invariant.drawnRow id _ sending)
    · exact Nat.lt_succ_of_lt (invariant.drawnHeld other id held)
  · intro earlier member other id delivers
    change id.call < step.before.calls + 1
    rcases List.mem_append.mp member with old | new
    · exact Nat.lt_succ_of_lt (invariant.drawnSent earlier old other id delivers)
    · rw [List.mem_singleton] at new
      exact absurd (new ▸ delivers.1) (quiet other)

theorem DeliveryInvariant.next (invariant : DeliveryInvariant settings steps step.before)
    (allowed : step.Allowed settings) (guarded : OutcomeGuarded settings steps step) :
    DeliveryInvariant settings (steps ++ [step]) (step.after settings) := by
  have effect := step.effect allowed
  generalize step.after settings = after at effect
  cases effect with
  | claimed worker limit event idle => exact invariant.claimed event idle
  | passed worker phase unclaimed quiet leaves shrinks =>
      exact invariant.passed guarded unclaimed quiet leaves shrinks
  | succeeded worker item rest event sending => exact invariant.succeeded event sending
  | recorded worker item rest table held outcome kept =>
      exact invariant.recorded guarded held outcome kept
  | stored table unclaimed quiet kept => exact invariant.stored unclaimed quiet kept

theorem OverlapsGuarded.init (guarded : OverlapsGuarded settings (steps ++ [step])) :
    OverlapsGuarded settings steps ∧ OutcomeGuarded settings steps step := by
  constructor
  · intro k earlier found
    have own := guarded k earlier (getElem?_append found)
    rwa [List.take_append_of_le_length (lt_length_of_getElem? found).le] at own
  · have own := guarded steps.length step List.getElem?_concat_length
    rwa [List.take_left] at own

theorem DeliveryInvariant.run {state : DeliveryState}
    (run : DeliveryRun settings steps state) (guarded : OverlapsGuarded settings steps) :
    DeliveryInvariant settings steps state := by
  induction run with
  | nil => exact .start
  | @step steps state run next starts allowed induction =>
      obtain ⟨earlier, own⟩ := guarded.init
      have before : DeliveryInvariant settings steps next.before :=
        starts ▸ induction earlier
      exact before.next allowed own

/-- Outcomes change only rows that are being sent. -/
theorem DeliveryStep.find?_of_records (records : step.Records worker id)
    (spared : status? step.before.table id ≠ some .sending) :
    (step.after settings).table.find? id = step.before.table.find? id := by
  have unsent (row : Row) (found : step.before.table.find? id = some row) :
      row.status ≠ .sending := by
    intro sending
    exact spared (status?_eq_some_iff.mpr ⟨row, found, sending⟩)
  rcases records with ⟨event, delivered⟩ | ⟨event, refused⟩
  · cases phase : step.before.workers worker with
    | delivered item rest =>
        rw [phase] at delivered
        cases delivered
        simp only [DeliveryStep.after, DeliveryStep.next?, event, phase, Option.getD_some]
        exact find?_updateOne_of_unmet fun row found => by simp [unsent row found]
    | _ =>
        rw [phase] at delivered
        cases delivered
  · cases phase : step.before.workers worker with
    | refused item rest =>
        rw [phase] at refused
        cases refused
        simp only [DeliveryStep.after, DeliveryStep.next?, event, phase, Option.getD_some]
        exact find?_updateOne_of_unmet fun row found => by simp [unsent row found]
    | _ =>
        rw [phase] at refused
        cases refused

/-- The outbox is fenced in every run whose overlaps the status guard holds off. -/
theorem fenced_of_guarded_overlaps (settings : DeliverySettings)
    {steps : List DeliveryStep} {state : DeliveryState}
    (run : DeliveryRun settings steps state)
    (guarded : OverlapsGuarded settings steps) : Fenced settings steps state where
  inert := by
    intro k worker id step found records superseded
    apply step.find?_of_records records
    have own := guarded k step found
    rcases records with ⟨event, delivered⟩ | ⟨event, refused⟩
    · rw [OutcomeGuarded, event] at own
      rcases own id delivered superseded with gone | sent
      · simp [gone]
      · simp [sent]
    · rw [OutcomeGuarded, event] at own
      exact own id refused superseded
  delivered := by
    intro step worker id member delivers nobody row found
    rcases (DeliveryInvariant.run run guarded).delivered step member worker id delivers
      with settled | ⟨holder, delivered⟩
    · rw [SentOrGone, status?, found] at settled
      simpa using settled
    · exact absurd (DrainPhase.mem_held_of_delivered delivered) (nobody holder)

end Steps

/-! ## Overlapped sends -/

section Overlap

instance (settings : DeliverySettings) (steps : List DeliveryStep) (step : DeliveryStep) :
    Decidable (OutcomeGuarded settings steps step) :=
  match step with
  | ⟨_, .reschedule worker, before⟩ =>
      inferInstanceAs (Decidable (∀ id ∈ (before.workers worker).refused?,
        Superseded settings steps worker id → status? before.table id ≠ some .sending))
  | ⟨_, .markSent worker, before⟩ =>
      inferInstanceAs (Decidable (∀ id ∈ (before.workers worker).delivered?,
        Superseded settings steps worker id → SentOrGone before.table id))
  | ⟨_, .crash worker, before⟩ =>
      inferInstanceAs (Decidable (∀ id ∈ (before.workers worker).delivered?,
        SentOrGone before.table id))
  | ⟨_, .claim _ _, _⟩ | ⟨_, .check _, _⟩ | ⟨_, .sendSucceeds _, _⟩
  | ⟨_, .sendFails _, _⟩ | ⟨_, .finish _, _⟩ | ⟨_, .enqueue _, _⟩
  | ⟨_, .deleteContract _ _, _⟩ => inferInstanceAs (Decidable True)

theorem overlapsGuarded_of_check {settings : DeliverySettings} {steps : List DeliveryStep}
    (checked : ∀ k : Fin steps.length,
      OutcomeGuarded settings (steps.take k) (steps.get k)) :
    OverlapsGuarded settings steps := by
  intro k step found
  obtain ⟨inside, same⟩ := List.getElem?_eq_some_iff.mp found
  have own := checked ⟨k, inside⟩
  rwa [List.get_eq_getElem, same] at own

/-- A message is queued, a worker claims it and starts to send. -/
def overlapEnqueue : DeliveryStep :=
  ⟨0, .enqueue
    { workspaceId := "inbox", threadKey := "thread", messageType := .review
      message := { toAddress := "to", fromAddress := "from", subject := "subject"
                   textBody := "text" }
      idempotencyKey := "review:1" }, {}⟩

def slowWorkerClaim : DeliveryStep :=
  ⟨0, .claim 0 25, overlapEnqueue.after {}⟩

def slowWorkerCheck : DeliveryStep :=
  ⟨0, .check 0, slowWorkerClaim.after {}⟩

/-- Its lease expires, and a second worker claims and sends. -/
def secondWorkerClaim : DeliveryStep :=
  ⟨seconds 120, .claim 1 25, slowWorkerCheck.after {}⟩

def secondWorkerCheck : DeliveryStep :=
  ⟨seconds 120, .check 1, secondWorkerClaim.after {}⟩

def overlapStart : List DeliveryStep :=
  [overlapEnqueue, slowWorkerClaim, slowWorkerCheck, secondWorkerClaim, secondWorkerCheck]

theorem overlapStart_run : DeliveryRun {} overlapStart (secondWorkerCheck.after {}) :=
  .step (.step (.step (.step (.step .nil
    overlapEnqueue rfl (by decide)) slowWorkerClaim rfl (by decide))
      slowWorkerCheck rfl (by decide)) secondWorkerClaim rfl (by decide))
        secondWorkerCheck rfl (by decide)

def overlapId : Uuid := ⟨0, 0⟩

/-- The second send succeeds, and then the first one fails. -/
def promptSuccess : DeliveryStep :=
  ⟨seconds 121, .sendSucceeds 1, secondWorkerCheck.after {}⟩

def promptMark : DeliveryStep :=
  ⟨seconds 121, .markSent 1, promptSuccess.after {}⟩

def supersededFailure : DeliveryStep :=
  ⟨seconds 122, .sendFails 0, promptMark.after {}⟩

def supersededReschedule : DeliveryStep :=
  ⟨seconds 122, .reschedule 0, supersededFailure.after {}⟩

def guardedSteps : List DeliveryStep :=
  overlapStart ++ [promptSuccess] ++ [promptMark] ++ [supersededFailure] ++ [supersededReschedule]

theorem guarded_run : DeliveryRun {} guardedSteps (supersededReschedule.after {}) :=
  .step (.step (.step (.step overlapStart_run promptSuccess rfl (by decide))
    promptMark rfl (by decide)) supersededFailure rfl (by decide))
      supersededReschedule rfl (by decide)

/-- The first worker has been superseded, and leaves the row sent. -/
theorem fenced_of_guarded_overlaps_sample :
    Fenced {} guardedSteps (supersededReschedule.after {}) ∧
      Superseded {} (guardedSteps.take 8) 0 overlapId ∧
      status? (supersededReschedule.after {}).table overlapId = some .sent :=
  ⟨fenced_of_guarded_overlaps {} guarded_run (overlapsGuarded_of_check (by decide)),
    by decide, by decide⟩

/-- The first send fails, and then the second one succeeds. -/
def earlyFailure : DeliveryStep :=
  ⟨seconds 121, .sendFails 0, secondWorkerCheck.after {}⟩

def earlyReschedule : DeliveryStep :=
  ⟨seconds 121, .reschedule 0, earlyFailure.after {}⟩

def lateSuccess : DeliveryStep :=
  ⟨seconds 122, .sendSucceeds 1, earlyReschedule.after {}⟩

def lateMark : DeliveryStep :=
  ⟨seconds 122, .markSent 1, lateSuccess.after {}⟩

def overlappedSteps : List DeliveryStep :=
  overlapStart ++ [earlyFailure] ++ [earlyReschedule] ++ [lateSuccess] ++ [lateMark]

theorem overlapped_run : DeliveryRun {} overlappedSteps (lateMark.after {}) :=
  .step (.step (.step (.step overlapStart_run earlyFailure rfl (by decide))
    earlyReschedule rfl (by decide)) lateSuccess rfl (by decide)) lateMark rfl (by decide)

/-- The first worker's failure takes the row from the second one, whose success is
then not recorded. -/
theorem superseded_worker_reschedules :
    ¬ ∀ (settings : DeliverySettings) (steps : List DeliveryStep)
      (state : DeliveryState), DeliveryRun settings steps state →
        Fenced settings steps state := by
  intro always
  have fenced := always {} overlappedSteps _ overlapped_run
  have kept := fenced.inert 6 0 overlapId earlyReschedule rfl (.inr ⟨rfl, by decide⟩)
    (by decide)
  have rescheduled :
      status? (earlyReschedule.after {}).table overlapId = some .pending := by
    decide
  have sending : status? earlyReschedule.before.table overlapId = some .sending := by
    decide
  have same : status? (earlyReschedule.after {}).table overlapId =
      status? earlyReschedule.before.table overlapId :=
    congrArg (Option.map Row.status) kept
  simp [rescheduled, sending] at same

end Overlap

end ContractMate
