import ContractMate.BlockOutcomes
import ContractMate.ReviewJobs
import ContractMate.RowWrites

/-!
# The cap on unknown senders

`consume_unknown_sender_capacity` on PostgreSQL, by several workers at once.  A call counts
the attachments of the current hour and day by one statement each, and writes the new counts
by later statements, which do not look at the old ones again.
-/

namespace ContractMate

namespace UnknownSenders

open ReadCommitted TransactionBlock

/-- `slack_inbound_rate_limits.window_kind`. -/
inductive WindowKind where
  | hour
  | day
deriving DecidableEq, Repr

/-- The primary key of `slack_inbound_rate_limits`. -/
structure CapacityWindow where
  teamId : String
  slackUserId : String
  kind : WindowKind
  start : Int
deriving DecidableEq, Repr

/-- `slack_inbound_rate_limits`. -/
structure WindowRow where
  window : CapacityWindow
  attachmentCount : Nat
deriving DecidableEq, Repr

/-- `slack_unknown_sender_admissions`, and the time that the call has read from its clock. -/
structure AdmissionRow where
  eventId : String
  teamId : String
  slackUserId : String
  attachmentCount : Nat
  now : Int
deriving DecidableEq, Repr

/-- The arguments of a call, and the seconds that it reads from its clock. -/
structure CapacityRequest where
  teamId : String
  slackUserId : String
  attachments : Nat
  eventId : Option String
  now : Int
deriving DecidableEq, Repr

inductive CapacityCall where
  /-- `SELECT 1 FROM slack_unknown_sender_admissions …` -/
  | selectAdmission (eventId : String)
  /-- `SELECT attachment_count …` -/
  | selectCount (window : CapacityWindow)
  /-- `UPDATE … SET attachment_count = ?` -/
  | updateCount (window : CapacityWindow) (count : Nat)
  | insertWindow (row : WindowRow)
  | insertAdmission (row : AdmissionRow)
deriving DecidableEq, Repr

def CapacityCall.Ret : CapacityCall → Type
  | selectAdmission _ => Bool
  | selectCount _ => Option Nat
  | updateCount _ _ | insertWindow _ | insertAdmission _ => Unit

abbrev CapacityBody := Prog CapacityCall CapacityCall.Ret Exn

abbrev CapacityProg := Prog (BlockCall CapacityCall) (BlockCall.Reply CapacityCall.Ret) Exn

namespace WindowKind

def limit : WindowKind → Nat
  | hour => 2
  | day => 5

/-- `now.replace(…)`, by which an hour or a day of UTC starts. -/
def start (now : Int) : WindowKind → Int
  | hour => now - now % 3600
  | day => now - now % 86400

end WindowKind

namespace CapacityRequest

variable (request : CapacityRequest)

def window (kind : WindowKind) : CapacityWindow where
  teamId := request.teamId
  slackUserId := request.slackUserId
  kind := kind
  start := kind.start request.now

/-- `if event_id:` -/
def event? : Option String :=
  request.eventId.filter fun eventId => eventId ≠ ""

def admission (eventId : String) : AdmissionRow where
  eventId := eventId
  teamId := request.teamId
  slackUserId := request.slackUserId
  attachmentCount := request.attachments
  now := request.now

end CapacityRequest

def selectAdmission (eventId : String) : CapacityBody Bool :=
  Prog.perform (CapacityCall.selectAdmission eventId)

def selectCount (window : CapacityWindow) : CapacityBody (Option Nat) :=
  Prog.perform (CapacityCall.selectCount window)

def updateCount (window : CapacityWindow) (count : Nat) : CapacityBody Unit :=
  Prog.perform (CapacityCall.updateCount window count)

def insertWindow (row : WindowRow) : CapacityBody Unit :=
  Prog.perform (CapacityCall.insertWindow row)

def insertAdmission (row : AdmissionRow) : CapacityBody Unit :=
  Prog.perform (CapacityCall.insertAdmission row)

section Programs

variable (request : CapacityRequest)

/-- The loop that compares the counts, with `none` for its early `return False`. -/
def checkWindows : List WindowKind → List (WindowKind × Nat) →
    CapacityBody (Option (List (WindowKind × Nat)))
  | [], counts => pure (some counts)
  | kind :: kinds, counts => do
      let row ← selectCount (request.window kind)
      if row.getD 0 + request.attachments > kind.limit then pure none
      else checkWindows kinds (counts ++ [(kind, row.getD 0)])

def chargeWindow (kind : WindowKind) (count : Nat) : CapacityBody Unit :=
  if count ≠ 0 then updateCount (request.window kind) (count + request.attachments)
  else insertWindow ⟨request.window kind, request.attachments⟩

/-- The loop that writes the counts. -/
def chargeWindows : List (WindowKind × Nat) → CapacityBody Unit
  | [] => pure ()
  | (kind, count) :: counts => do
      let _ ← chargeWindow request kind count
      chargeWindows counts

def recordAdmission : CapacityBody Bool :=
  match request.event? with
  | some eventId => do
      let _ ← insertAdmission (request.admission eventId)
      pure true
  | none => pure true

def chargeChecked : Option (List (WindowKind × Nat)) → CapacityBody Bool
  | none => pure false
  | some counts => do
      let _ ← chargeWindows request counts
      recordAdmission request

def consumeWindows : CapacityBody Bool := do
  let counts ← checkWindows request [.hour, .day] []
  chargeChecked request counts

def consumeUnadmitted (admitted : Bool) : CapacityBody Bool :=
  if admitted then pure true else consumeWindows request

def consumeBody : CapacityBody Bool :=
  match request.event? with
  | some eventId => do
      let admitted ← selectAdmission eventId
      consumeUnadmitted request admitted
  | none => consumeWindows request

def consumeUnknownSenderCapacity : CapacityProg Bool :=
  block (consumeBody request)

end Programs

/-! ## The tables -/

structure CapacityStore where
  windows : RowTable WindowRow.window := .empty
  admissions : RowTable AdmissionRow.eventId := .empty

inductive CapacityWrite where
  | window (row : WindowRow)
  | admission (row : AdmissionRow)
deriving DecidableEq, Repr

inductive CapacityLock where
  | window (window : CapacityWindow)
  | admission (eventId : String)
deriving DecidableEq, Repr

namespace CapacityStore

variable (store : CapacityStore)

def apply : CapacityWrite → CapacityStore
  | .window row => { store with windows := store.windows.put row }
  | .admission row => { store with admissions := store.admissions.put row }

def exec : (request : CapacityCall) → Except Exn (request.Ret × List CapacityWrite)
  | .selectAdmission eventId => .ok ((store.admissions.find? eventId).isSome, [])
  | .selectCount window => .ok ((store.windows.find? window).map WindowRow.attachmentCount, [])
  | .updateCount window count =>
      match store.windows.find? window with
      | some _ => .ok ((), [.window ⟨window, count⟩])
      | none => .ok ((), [])
  | .insertWindow row =>
      match store.windows.find? row.window with
      | some _ => .error (Exn.uniqueViolation "slack_inbound_rate_limits_pkey")
      | none => .ok ((), [.window row])
  | .insertAdmission row =>
      match store.admissions.find? row.eventId with
      | some _ => .error (Exn.uniqueViolation "slack_unknown_sender_admissions_pkey")
      | none => .ok ((), [.admission row])

/-- A row that is updated, and the keys of new ones. -/
def locks : CapacityCall → List CapacityLock
  | .updateCount window _ =>
      if (store.windows.find? window).isSome then [.window window] else []
  | .insertWindow row => [.window row.window]
  | .insertAdmission row => [.admission row.eventId]
  | .selectAdmission _ | .selectCount _ => []

/-- The attachments that a window counts. -/
def count (window : CapacityWindow) : Nat :=
  ((store.windows.find? window).map WindowRow.attachmentCount).getD 0

end CapacityStore

/-- The admission falls into the window. -/
def AdmissionRow.within (window : CapacityWindow) (row : AdmissionRow) : Bool :=
  row.teamId = window.teamId && row.slackUserId = window.slackUserId &&
    window.kind.start row.now = window.start

/-- The attachments that have been admitted in a window. -/
def CapacityStore.admitted (store : CapacityStore) (window : CapacityWindow) : Nat :=
  ((store.admissions.rows.filter (AdmissionRow.within window)).map
    AdmissionRow.attachmentCount).sum

def capacityEngine :
    Engine CapacityCall CapacityCall.Ret Exn CapacityStore CapacityWrite CapacityLock where
  locks := CapacityStore.locks
  exec := CapacityStore.exec
  apply := CapacityStore.apply

/-- Connections of the intake workers. -/
abbrev capacitySystem := capacityEngine.system consumeUnknownSenderCapacity

abbrev CapacityStep := PoolStep CapacityRequest (BlockCall CapacityCall)
  (BlockCall.Reply CapacityCall.Ret) Exn Bool (World CapacityStore CapacityWrite CapacityLock)
  (BlockChoice Exn) Empty

abbrev CapacityState := PoolState CapacityRequest (BlockCall CapacityCall)
  (BlockCall.Reply CapacityCall.Ret) Exn Bool (World CapacityStore CapacityWrite CapacityLock)

/-- Runs on empty tables. -/
abbrev CapacityRun : List CapacityStep → CapacityState → Prop :=
  capacitySystem.Run { committed := {} }

/-! ## The cap -/

/-- What has been admitted is within the limits of all windows, the counts are those of one
admission for each event, each call that returns `True` has one, and a call that returns
`False` or raises changes nothing between its start and its end. -/
structure CapacityKept (steps : List CapacityStep) (final : CapacityState) : Prop where
  capped : ∀ window, final.world.committed.admitted window ≤ window.kind.limit
  charged : ∀ window,
    final.world.committed.count window = final.world.committed.admitted window
  rows : ∀ row ∈ final.world.committed.admissions.rows, ∃ request, Starts steps request ∧
    row = request.admission row.eventId
  admitted : ∀ step ∈ steps, ∀ request eventId,
    PoolSystem.ended? step = some (request, .ok true) → request.event? = some eventId →
      (final.world.committed.admissions.find? eventId).isSome = true
  rejected : ∀ (i j : Nat) (step last : CapacityStep), steps[i]? = some step →
    steps[j]? = some last → i < j → ∀ answer, capacitySystem.answer? step = some answer →
      last.event = .stop answer.thread →
      (∀ (k : Nat) (between : CapacityStep), i < k → k < j → steps[k]? = some between →
        ∀ task, between.event ≠ .start answer.thread task) →
      ∀ request result, PoolSystem.ended? last = some (request, result) →
        result.toOption ≠ some true → answer.after.committed = answer.before.committed

/-- The event of the call has been admitted already. -/
def Admitted (request : CapacityRequest) (store : CapacityStore) : Prop :=
  ∃ eventId ∈ request.event?, (store.admissions.find? eventId).isSome = true

/-- An update adds to the count that it meets, or its call is to fail. -/
def AddsToMet (request : CapacityRequest) (store : CapacityStore) : CapacityCall → Prop
  | .updateCount window count =>
      Admitted request store ∨ count = store.count window + request.attachments
  | _ => True

instance (request : CapacityRequest) (store : CapacityStore) :
    DecidablePred (AddsToMet request store) := by
  intro statement
  unfold AddsToMet Admitted
  split <;> infer_instance

/-- The same of an answered statement. -/
def MeetsCount
    (answer : PoolAnswer CapacityRequest (BlockCall CapacityCall)
      (BlockCall.Reply CapacityCall.Ret) Exn (World CapacityStore CapacityWrite CapacityLock)
      (BlockChoice Exn)) : Prop :=
  match answer.request, answer.choice with
  | .statement request, .executes =>
      AddsToMet answer.task (capacityEngine.view (answer.before.session answer.thread)) request
  | _, _ => True

instance : DecidablePred MeetsCount := by
  intro answer
  unfold MeetsCount
  split <;> infer_instance

/-- No update of a run overwrites a count that has changed since it was read. -/
abbrev NoneOverwritten (steps : List CapacityStep) : Prop :=
  ∀ step ∈ steps, ∀ answer ∈ capacitySystem.answer? step, MeetsCount answer

/-- All calls of a run are for events. -/
def Identified (steps : List CapacityStep) : Prop :=
  ∀ request, Starts steps request → request.event?.isSome = true

/-- What holds of the tables in a run. -/
structure ValidCapacity (steps : List CapacityStep) (store : CapacityStore) : Prop where
  charged : ∀ window, store.count window = store.admitted window
  capped : ∀ window, store.count window ≤ window.kind.limit
  rows : ∀ row ∈ store.admissions.rows, ∃ request, Starts steps request ∧
    row = request.admission row.eventId

/-- How the tables grow. -/
structure GrowsTo (first second : CapacityStore) : Prop where
  windows : ∀ window, (first.windows.find? window).isSome = true →
    (second.windows.find? window).isSome = true
  admissions : ∀ eventId, (first.admissions.find? eventId).isSome = true →
    (second.admissions.find? eventId).isSome = true

theorem GrowsTo.refl (store : CapacityStore) : GrowsTo store store :=
  ⟨fun _ => id, fun _ => id⟩

theorem GrowsTo.trans {first second third : CapacityStore} (earlier : GrowsTo first second)
    (later : GrowsTo second third) : GrowsTo first third :=
  ⟨fun window there => later.windows window (earlier.windows window there),
    fun eventId there => later.admissions eventId (earlier.admissions eventId there)⟩

theorem GrowsTo.admitted {first second : CapacityStore} {request : CapacityRequest}
    (grows : GrowsTo first second) (admitted : Admitted request first) :
    Admitted request second := by
  obtain ⟨eventId, event, there⟩ := admitted
  exact ⟨eventId, event, grows.admissions eventId there⟩

/-- Locks guard the rows under their keys. -/
def capacityDiscipline (steps : List CapacityStep) :
    Discipline CapacityRequest CapacityCall Exn CapacityStore CapacityLock where
  valid := ValidCapacity steps
  evolves := GrowsTo
  Part
    | .window _ => Option WindowRow
    | .admission _ => Option AdmissionRow
  part
    | .window window, store => store.windows.find? window
    | .admission eventId, store => store.admissions.find? eventId
  allows := AddsToMet
  evolves_refl := GrowsTo.refl
  evolves_trans := GrowsTo.trans

/-! ## Charging -/

section Charging

variable {steps : List CapacityStep} {request : CapacityRequest}
  {here : Session CapacityStore CapacityWrite CapacityLock} {store seen : CapacityStore}
  {value : WindowKind → Nat} {kinds : List WindowKind} {kind : WindowKind} {count : Nat}
  {eventId : String}

/-- The rows of the windows with their new counts. -/
def CapacityRequest.charges (request : CapacityRequest) (value : WindowKind → Nat)
    (kinds : List WindowKind) : List WindowRow :=
  kinds.map fun kind => ⟨request.window kind, value kind⟩

/-- The new count of a window is within its limit, and is the old one and the attachments,
unless the event has been admitted. -/
structure Charges (request : CapacityRequest) (value : WindowKind → Nat) (kind : WindowKind)
    (here : Session CapacityStore CapacityWrite CapacityLock) : Prop where
  locked : CapacityLock.window (request.window kind) ∈ here.held
  capped : value kind ≤ kind.limit
  current : Admitted request here.committed ∨
    value kind = here.committed.count (request.window kind) + request.attachments

/-- The windows of some kinds have been charged. -/
structure Charging (request : CapacityRequest) (value : WindowKind → Nat)
    (kinds : List WindowKind) (here : Session CapacityStore CapacityWrite CapacityLock) :
    Prop where
  pending : here.pending = (request.charges value kinds).map .window
  charges : ∀ kind ∈ kinds, Charges request value kind here

theorem Charges.at_ (charges : Charges request value kind here)
    (others : Meanwhile (capacityDiscipline steps) here store) :
    Charges request value kind (here.at_ store) where
  locked := charges.locked
  capped := charges.capped
  current := by
    have same : store.windows.find? (request.window kind) =
        here.committed.windows.find? (request.window kind) :=
      others.untouched (.window (request.window kind)) charges.locked
    rcases charges.current with admitted | current
    · exact .inl (others.evolves.admitted admitted)
    · right
      simp only [CapacityStore.count, Session.at_, same]
      exact current

theorem Charging.at_ (charging : Charging request value kinds here)
    (others : Meanwhile (capacityDiscipline steps) here store) :
    Charging request value kinds (here.at_ store) :=
  ⟨charging.pending, fun kind member => (charging.charges kind member).at_ others⟩

theorem foldl_apply_windows (rows : List WindowRow) (store : CapacityStore) :
    (rows.map CapacityWrite.window).foldl CapacityStore.apply store =
      { store with windows := rows.foldl RowTable.put store.windows } := by
  induction rows generalizing store with
  | nil => rfl
  | cons row rows induction =>
      rw [List.map_cons, List.foldl_cons, induction]
      rfl

theorem Charging.view (charging : Charging request value kinds here) :
    capacityEngine.view here =
      { here.committed with
        windows := (request.charges value kinds).foldl RowTable.put here.committed.windows } := by
  rw [Engine.view, charging.pending]
  exact foldl_apply_windows _ _

/-- A window that has not been charged yet. -/
theorem find?_charges (other : kind ∉ kinds) (table : RowTable WindowRow.window) :
    ((request.charges value kinds).foldl RowTable.put table).find? (request.window kind) =
      table.find? (request.window kind) := by
  apply RowTable.find?_foldl_put
  intro row member same
  obtain ⟨charged, inside, rfl⟩ := List.mem_map.mp member
  have same : charged = kind := congrArg CapacityWindow.kind same
  exact other (same ▸ inside)

/-- One more window is charged. -/
theorem Charging.append (charging : Charging request value kinds here) (other : kind ∉ kinds)
    (capped : count ≤ kind.limit)
    (current : Admitted request here.committed ∨
      count = here.committed.count (request.window kind) + request.attachments) :
    Charging request (Function.update value kind count) (kinds ++ [kind])
      (here.extend [.window ⟨request.window kind, count⟩] [.window (request.window kind)]) := by
  have unlike {charged : WindowKind} (member : charged ∈ kinds) : charged ≠ kind := by
    rintro rfl
    exact other member
  constructor
  · simp only [Session.extend, charging.pending, CapacityRequest.charges, List.map_map,
      List.map_append, List.map_singleton, Function.update_self]
    congr 1
    apply List.map_congr_left
    intro charged member
    simp [Function.update_of_ne (unlike member)]
  · intro charged member
    rcases List.mem_append.mp member with earlier | last
    · obtain ⟨locked, capped, current⟩ := charging.charges charged earlier
      refine ⟨List.mem_append_right _ locked, ?_, ?_⟩
      · rwa [Function.update_of_ne (unlike earlier)]
      · rwa [Function.update_of_ne (unlike earlier)]
    · rw [List.mem_singleton] at last
      subst last
      refine ⟨by simp [Session.extend], ?_, ?_⟩
      · rwa [Function.update_self]
      · rwa [Function.update_self]

/-- The count of a window that has been compared with its limit. -/
def Checked (request : CapacityRequest) (store : CapacityStore) (entry : WindowKind × Nat) :
    Prop :=
  entry.2 + request.attachments ≤ entry.1.limit ∧
    (entry.2 ≠ 0 → (store.windows.find? (request.window entry.1)).isSome = true)

theorem Checked.grows {entry : WindowKind × Nat} (checked : Checked request seen entry)
    (grows : GrowsTo seen store) : Checked request store entry :=
  ⟨checked.1, fun counted => grows.windows _ (checked.2 counted)⟩

theorem safe_chargeWindow (charging : Charging request value kinds here) (other : kind ∉ kinds)
    (grown : GrowsTo seen here.committed) (checked : Checked request seen (kind, count)) :
    Safe capacityEngine (capacityDiscipline steps) request
      (Ends (fun _ => True) fun _ after =>
        (∃ value, Charging request value (kinds ++ [kind]) after) ∧ GrowsTo seen after.committed)
      (statements (chargeWindow request kind count)) here := by
  obtain ⟨capped, there⟩ := checked
  have same (store : CapacityStore) (others : Meanwhile (capacityDiscipline steps) here store) :
      (capacityEngine.view (here.at_ store)).windows.find? (request.window kind) =
        store.windows.find? (request.window kind) := by
    rw [(charging.at_ others).view]
    exact find?_charges other _
  unfold chargeWindow
  split
  · rename_i counted
    apply safe_perform (fun _ _ => trivial)
    intro store others allowed
    have charging := charging.at_ others
    have same := same store others
    obtain ⟨row, found⟩ : ∃ row, store.windows.find? (request.window kind) = some row :=
      Option.isSome_iff_exists.mp (others.evolves.windows _ (grown.windows _ (there counted)))
    have seenCount : (capacityEngine.view (here.at_ store)).count (request.window kind) =
        store.count (request.window kind) := by
      simp only [CapacityStore.count, same]
    rw [found] at same
    simp only [capacityEngine] at same
    simp only [capacityEngine, CapacityStore.exec, CapacityStore.locks, same, Option.isSome_some,
      if_true]
    intro later more
    refine ⟨⟨_, (charging.append other capped ?_).at_ more⟩,
      (grown.trans others.evolves).trans more.evolves⟩
    rcases allowed with admitted | current
    · left
      rw [charging.view] at admitted
      exact admitted
    · exact .inr (current.trans (by rw [seenCount]; rfl))
  · rename_i uncounted
    have uncounted : count = 0 := by simpa using uncounted
    apply safe_perform (fun _ _ => trivial)
    intro store others _
    have charging := charging.at_ others
    have same := same store others
    simp only [capacityEngine] at same
    simp only [capacityEngine, CapacityStore.exec, CapacityStore.locks, same]
    cases found : store.windows.find? (request.window kind) with
    | some row => trivial
    | none =>
        intro later more
        have capped : request.attachments ≤ kind.limit := by
          simp only at capped
          omega
        refine ⟨⟨_, (charging.append other capped ?_).at_ more⟩,
          (grown.trans others.evolves).trans more.evolves⟩
        right
        simp [CapacityStore.count, Session.at_, found]

theorem safe_chargeWindows {counts : List (WindowKind × Nat)}
    (charging : Charging request value kinds here)
    (distinct : (kinds ++ counts.map Prod.fst).Nodup) (grown : GrowsTo seen here.committed)
    (checked : ∀ entry ∈ counts, Checked request seen entry) :
    Safe capacityEngine (capacityDiscipline steps) request
      (Ends (fun _ => True) fun _ after =>
        ∃ value, Charging request value (kinds ++ counts.map Prod.fst) after)
      (statements (chargeWindows request counts)) here := by
  induction counts generalizing kinds value here with
  | nil =>
      apply safe_pure
      intro store others
      exact ⟨value, by simpa using charging.at_ others⟩
  | cons entry counts induction =>
      obtain ⟨kind, count⟩ := entry
      have other : kind ∉ kinds := by
        have apart := (List.nodup_append.mp distinct).2.2
        intro member
        exact apart kind member kind (by simp) rfl
      apply safe_bind (safe_chargeWindow charging other grown (checked _ (by simp)))
      rintro _ after ⟨⟨value, charging⟩, grown⟩ _
      rw [List.map_cons, List.append_cons] at distinct ⊢
      exact induction charging distinct grown fun entry member => checked entry (by simp [member])

/-- The loop of the comparisons writes nothing. -/
theorem safe_checkWindows {remaining : List WindowKind} {counts : List (WindowKind × Nat)}
    (unwritten : here.pending = [])
    (checked : ∀ entry ∈ counts, Checked request here.committed entry) :
    Safe capacityEngine (capacityDiscipline steps) request
      (Ends (fun _ => True) fun result after => after.pending = [] ∧
        ∀ found, result = some found → found.map Prod.fst = counts.map Prod.fst ++ remaining ∧
          ∀ entry ∈ found, Checked request after.committed entry)
      (statements (checkWindows request remaining counts)) here := by
  induction remaining generalizing counts here with
  | nil =>
      apply safe_pure
      intro store others
      refine ⟨unwritten, ?_⟩
      intro found same
      cases same
      exact ⟨by simp, fun entry member => (checked entry member).grows others.evolves⟩
  | cons kind remaining induction =>
      apply safe_statement (fun _ _ => trivial)
      intro store others _
      have view : capacityEngine.view (here.at_ store) = store := view_of_unwritten unwritten
      rw [view]
      simp only [capacityEngine, CapacityStore.exec, CapacityStore.locks]
      have unwritten : ((here.at_ store).extend ([] : List CapacityWrite)
          ([] : List CapacityLock)).pending = [] := by
        simp [Session.extend, Session.at_, unwritten]
      split
      · apply safe_pure
        exact fun later more => ⟨unwritten, by simp⟩
      · rename_i below
        have shape : counts.map Prod.fst ++ kind :: remaining =
            (counts ++ [(kind, store.count (request.window kind))]).map Prod.fst ++
              remaining := by
          simp
        rw [shape]
        apply induction unwritten
        intro entry member
        rcases List.mem_append.mp member with earlier | last
        · exact (checked entry earlier).grows others.evolves
        · rw [List.mem_singleton] at last
          subst last
          refine ⟨Nat.le_of_not_gt below, ?_⟩
          intro counted
          change (store.windows.find? (request.window kind)).isSome = true
          cases found : store.windows.find? (request.window kind) with
          | none => simp [CapacityStore.count, found] at counted
          | some row => rfl

/-- All windows are charged, and the event is admitted. -/
structure Complete (request : CapacityRequest) (eventId : String)
    (here : Session CapacityStore CapacityWrite CapacityLock) : Prop where
  locked : CapacityLock.admission eventId ∈ here.held
  absent : here.committed.admissions.find? eventId = none
  charging : ∃ value, here.pending = (request.charges value [.hour, .day]).map .window ++
      [.admission (request.admission eventId)] ∧
    ∀ kind, Charges request value kind here

/-- How a block ends. -/
def Finished (request : CapacityRequest) (result : Bool)
    (here : Session CapacityStore CapacityWrite CapacityLock) : Prop :=
  here.pending = [] ∧ (result = true → Admitted request here.committed) ∨
    ∃ eventId, request.event? = some eventId ∧ Complete request eventId here

theorem Complete.at_ (complete : Complete request eventId here)
    (others : Meanwhile (capacityDiscipline steps) here store) :
    Complete request eventId (here.at_ store) := by
  obtain ⟨locked, absent, value, pending, charges⟩ := complete
  have same : store.admissions.find? eventId = here.committed.admissions.find? eventId :=
    others.untouched (.admission eventId) locked
  exact ⟨locked, same.trans absent, value, pending, fun kind => (charges kind).at_ others⟩

theorem safe_recordAdmission (charging : Charging request value [.hour, .day] here)
    (event : request.event? = some eventId) :
    Safe capacityEngine (capacityDiscipline steps) request
      (Ends (fun _ => True) (Finished request))
      (statements (recordAdmission request)) here := by
  simp only [recordAdmission, event]
  apply safe_statement (fun _ _ => trivial)
  intro store others _
  have charging := charging.at_ others
  have view := charging.view
  simp only [capacityEngine] at view
  simp only [capacityEngine, CapacityStore.exec, CapacityStore.locks, view]
  have named : (request.admission eventId).eventId = eventId := rfl
  have committed : (here.at_ store).committed = store := rfl
  rw [named, committed]
  cases found : store.admissions.find? eventId with
  | some row => trivial
  | none =>
      apply safe_pure
      intro later more
      right
      refine ⟨eventId, event, Complete.at_ ?_ more⟩
      refine ⟨by simp [Session.extend], found, value, ?_, ?_⟩
      · simp [Session.extend, charging.pending]
      · intro kind
        have member : kind ∈ [WindowKind.hour, WindowKind.day] := by
          cases kind <;> simp
        obtain ⟨locked, capped, current⟩ := charging.charges kind member
        exact ⟨List.mem_append_right _ locked, capped, current⟩

theorem safe_consumeWindows (unwritten : here.pending = [])
    (event : request.event? = some eventId) :
    Safe capacityEngine (capacityDiscipline steps) request
      (Ends (fun _ => True) (Finished request)) (statements (consumeWindows request)) here := by
  apply safe_bind (safe_checkWindows unwritten (by simp))
  rintro counts after ⟨unwritten, checked⟩ _
  cases counts with
  | none =>
      apply safe_pure
      exact fun store others => .inl ⟨unwritten, nofun⟩
  | some counts =>
      obtain ⟨shape, checked⟩ := checked counts rfl
      have shape : counts.map Prod.fst = [.hour, .day] := shape
      have charging : Charging request (fun _ => 0) [] after := ⟨unwritten, nofun⟩
      apply safe_bind (safe_chargeWindows charging (by rw [shape]; decide)
        (GrowsTo.refl after.committed) checked)
      rintro _ last ⟨value, charging⟩ _
      rw [List.nil_append, shape] at charging
      exact safe_recordAdmission charging event

theorem safe_consumeBody (event : request.event? = some eventId) :
    Safe capacityEngine (capacityDiscipline steps) request
      (Ends (fun _ => True) (Finished request)) (statements (consumeBody request))
      { committed := seen } := by
  simp only [consumeBody, event]
  apply safe_statement (fun _ _ => trivial)
  intro store others _
  have view : capacityEngine.view (Session.at_ { committed := seen } store) = store := rfl
  rw [view]
  simp only [capacityEngine, CapacityStore.exec, CapacityStore.locks, consumeUnadmitted]
  split
  · rename_i admitted
    apply safe_pure
    intro later more
    refine .inl ⟨by simp [Session.extend, Session.at_], fun _ => ⟨eventId, event, ?_⟩⟩
    exact more.evolves.admissions eventId admitted
  · exact safe_consumeWindows (by simp [Session.extend, Session.at_]) event

/-- The tables with the charges of a call. -/
def CapacityStore.charging (store : CapacityStore) (request : CapacityRequest)
    (value : WindowKind → Nat) (eventId : String) : CapacityStore where
  windows := (request.charges value [.hour, .day]).foldl RowTable.put store.windows
  admissions := store.admissions.put (request.admission eventId)

/-- The two windows of a call are those that its admission falls into. -/
theorem within_admission_iff {window : CapacityWindow} :
    (request.admission eventId).within window = true ↔
      window = request.window window.kind := by
  obtain ⟨teamId, slackUserId, kind, start⟩ := window
  simp only [AdmissionRow.within, Bool.and_eq_true, decide_eq_true_eq]
  constructor
  · rintro ⟨⟨team, user⟩, begins⟩
    cases team
    cases user
    cases begins
    rfl
  · intro same
    cases same
    exact ⟨⟨rfl, rfl⟩, rfl⟩

theorem admitted_charging (absent : store.admissions.find? eventId = none)
    (window : CapacityWindow) :
    (store.charging request value eventId).admitted window =
      store.admitted window +
        if window = request.window window.kind then request.attachments else 0 := by
  have rows : (store.admissions.put (request.admission eventId)).rows = _ :=
    RowTable.rows_put absent
  simp only [CapacityStore.admitted, CapacityStore.charging, rows, List.filter_append,
    List.map_append, List.sum_append]
  congr 1
  by_cases within : (request.admission eventId).within window = true
  · rw [if_pos (within_admission_iff.mp within), List.filter_cons_of_pos within]
    rfl
  · rw [if_neg (within_admission_iff.not.mp within)]
    simp [within]

theorem find?_charging_of_own (kind : WindowKind) :
    (store.charging request value eventId).windows.find? (request.window kind) =
      some ⟨request.window kind, value kind⟩ := by
  have member : (⟨request.window kind, value kind⟩ : WindowRow) ∈
      request.charges value [.hour, .day] := by
    cases kind <;> simp [CapacityRequest.charges]
  have distinct : ((request.charges value [.hour, .day]).map WindowRow.window).Nodup := by
    simp [CapacityRequest.charges, CapacityRequest.window]
  exact RowTable.find?_foldl_put_of_mem distinct member store.windows

theorem find?_charging_of_other {window : CapacityWindow}
    (other : ∀ kind, window ≠ request.window kind) :
    (store.charging request value eventId).windows.find? window = store.windows.find? window := by
  apply RowTable.find?_foldl_put
  intro row member same
  obtain ⟨kind, _, rfl⟩ := List.mem_map.mp member
  exact other kind same.symm

theorem commits_finished {result : Bool} (started : Starts steps request)
    (valid : ValidCapacity steps here.committed) (finished : Finished request result here) :
    Commits capacityEngine (capacityDiscipline steps) here ∧
      (result = true → request.event?.isSome = true →
        Admitted request (capacityEngine.view here)) := by
  rcases finished with ⟨unwritten, admitted⟩ | ⟨eventId, event, locked, absent, value, pending,
    charges⟩
  · refine ⟨commits_unwritten unwritten valid, ?_⟩
    intro success _
    rw [view_of_unwritten unwritten]
    exact admitted success
  · have view : capacityEngine.view here = here.committed.charging request value eventId := by
      rw [Engine.view, pending, List.foldl_append]
      have windows := foldl_apply_windows (request.charges value [.hour, .day]) here.committed
      exact congrArg
        (fun store => CapacityStore.apply store (.admission (request.admission eventId))) windows
    have current (kind : WindowKind) : value kind =
        here.committed.count (request.window kind) + request.attachments := by
      rcases (charges kind).current with ⟨other, event', there⟩ | current
      · rw [event] at event'
        cases event'
        rw [absent] at there
        cases there
      · exact current
    have admissions (other : String) :
        (here.committed.charging request value eventId).admissions.find? other =
          if eventId = other then some (request.admission eventId)
          else here.committed.admissions.find? other :=
      RowTable.find?_put _ _ _
    -- a window is one of the call's two, or none of them
    have cases_ (window : CapacityWindow) : window = request.window window.kind ∨
        ∀ kind, window ≠ request.window kind := by
      by_cases own : window = request.window window.kind
      · exact .inl own
      · right
        rintro kind same
        apply own
        rw [same]
        rfl
    have valid : ValidCapacity steps (here.committed.charging request value eventId) := by
      refine ⟨?_, ?_, ?_⟩
      · intro window
        rw [admitted_charging absent, ← valid.charged window]
        rcases cases_ window with own | other
        · rw [if_pos own, own]
          simp only [CapacityStore.count, find?_charging_of_own]
          exact current window.kind
        · rw [if_neg (other window.kind)]
          simp only [CapacityStore.count, find?_charging_of_other other]
          rfl
      · intro window
        rcases cases_ window with own | other
        · rw [own]
          simp only [CapacityStore.count, find?_charging_of_own]
          exact (charges window.kind).capped
        · simp only [CapacityStore.count, find?_charging_of_other other]
          exact valid.capped window
      · intro row member
        rw [CapacityStore.charging, RowTable.rows_put absent] at member
        rcases List.mem_append.mp member with earlier | last
        · exact valid.rows row earlier
        · rw [List.mem_singleton] at last
          subst last
          exact ⟨request, started, rfl⟩
    have grows : GrowsTo here.committed (here.committed.charging request value eventId) := by
      constructor
      · intro window there
        rcases cases_ window with own | other
        · rw [own, find?_charging_of_own]
          rfl
        · rwa [find?_charging_of_other other]
      · intro other there
        rw [admissions]
        split_ifs
        · rfl
        · exact there
    refine ⟨⟨view.symm ▸ valid, view.symm ▸ grows, ?_⟩, ?_⟩
    · intro lock free
      rw [view]
      cases lock with
      | window window =>
          apply find?_charging_of_other
          rintro kind rfl
          exact free (charges kind).locked
      | admission other =>
          refine (admissions other).trans (if_neg ?_)
          rintro rfl
          exact free locked
    · intro _ _
      refine ⟨eventId, event, ?_⟩
      rw [view, admissions, if_pos rfl]
      rfl

theorem safe_consume (started : Starts steps request)
    (identified : request.event?.isSome = true) :
    Safe capacityEngine (capacityDiscipline steps) request
      (Ends (fun _ => True) fun result here => result = true → Admitted request here.committed)
      (consumeUnknownSenderCapacity request) { committed := seen } := by
  obtain ⟨eventId, event⟩ := Option.isSome_iff_exists.mp identified
  apply safe_block (fun _ _ => trivial) (fun _ _ => trivial) (safe_consumeBody event)
  · exact fun _ _ finished valid => (commits_finished started valid finished).1
  · intro result here store finished valid _ grows success
    exact grows.admitted ((commits_finished started valid finished).2 success identified)

end Charging

/-! ## Rejections -/

section Rejections

variable {request : CapacityRequest}

theorem onlyReads_selectCount (window : CapacityWindow) :
    OnlyReads capacityEngine (.selectCount window) := by
  intro store reply writes executed
  cases executed
  rfl

theorem onlyReads_selectAdmission (eventId : String) :
    OnlyReads capacityEngine (.selectAdmission eventId) := by
  intro store reply writes executed
  cases executed
  rfl

theorem calls_checkWindows (kinds : List WindowKind) (counts : List (WindowKind × Nat)) :
    (checkWindows request kinds counts).Calls (OnlyReads capacityEngine) := by
  induction kinds generalizing counts with
  | nil => exact Prog.calls_pure
  | cons kind kinds induction =>
      apply Prog.Calls.perform (onlyReads_selectCount _)
      intro row
      split
      · exact Prog.calls_pure
      · exact induction _

theorem returns_recordAdmission :
    (recordAdmission request).Returns fun admitted => admitted = true := by
  unfold recordAdmission
  split
  · exact Prog.Returns.bind Prog.returns_true fun _ _ => Prog.returns_pure.mpr rfl
  · exact Prog.returns_pure.mpr rfl

theorem thrifty_consumeWindows :
    Thrifty capacityEngine (fun admitted => admitted = true) (consumeWindows request) [] := by
  apply thrifty_read (calls_checkWindows _ _)
  intro counts
  cases counts with
  | none => exact thrifty_unwritten false
  | some counts =>
      apply thrifty_of_returns
      exact Prog.Returns.bind Prog.returns_true fun _ _ => returns_recordAdmission

theorem thrifty_consumeBody :
    Thrifty capacityEngine (fun admitted => admitted = true) (consumeBody request) [] := by
  unfold consumeBody
  split
  · apply thrifty_read (Prog.calls_perform (onlyReads_selectAdmission _))
    intro admitted
    cases admitted with
    | true => exact thrifty_accepted rfl
    | false => exact thrifty_consumeWindows
  · exact thrifty_consumeWindows

end Rejections

/-! ## Runs -/

section Runs

variable {steps : List CapacityStep} {final : CapacityState}

theorem keepsTo_of_noneOverwritten (own : NoneOverwritten steps) :
    KeepsTo capacityEngine (capacityDiscipline steps) consumeUnknownSenderCapacity steps := by
  apply keepsTo_of_allowed
  · exact fun _ _ => ⟨trivial, trivial⟩
  · rintro step member ⟨thread, task, request, choice, reply, before, after⟩ answered statement
      rfl rfl
    exact own step member _ answered

/-- While no count is overwritten and no commit of writes is lost, the cap is kept. -/
theorem capacity_kept (run : CapacityRun steps final) (identified : Identified steps)
    (own : NoneOverwritten steps) (kept : NoneLost steps) : CapacityKept steps final := by
  have valid : (capacityDiscipline steps).valid {} :=
    ⟨fun _ => rfl, fun _ => Nat.zero_le _, nofun⟩
  have keeps := keepsTo_of_noneOverwritten own
  have bodies (request : CapacityRequest) (started : Starts steps request)
      (store : CapacityStore) (_ : (capacityDiscipline steps).valid store) :
      Safe capacityEngine (capacityDiscipline steps) request
        (Ends (fun _ => True) fun result here =>
          result = true → Admitted request here.committed)
        (consumeUnknownSenderCapacity request) { committed := store } :=
    safe_consume started (identified request started)
  have sound := (sound_of_run valid bodies run keeps).1.valid
  refine ⟨?_, sound.charged, sound.rows, ?_, ?_⟩
  · intro window
    rw [← sound.charged window]
    exact sound.capped window
  · intro step member request eventId ended event
    obtain ⟨i, found⟩ := List.mem_iff_getElem?.mp member
    obtain ⟨_, admitted⟩ := ended_as_promised valid bodies run keeps found ended
    obtain ⟨_, grows⟩ := sound_before valid bodies run keeps found
    obtain ⟨other, event', there⟩ := grows.admitted (admitted rfl)
    rw [event] at event'
    cases event'
    exact there
  · intro i j step last found found' ordered answer answered stops same request result ended
      rejected
    have blocks (request : CapacityRequest) :
        OneBlock capacityEngine (fun admitted => admitted = true)
          (consumeUnknownSenderCapacity request) :=
      .inl ⟨consumeBody request, rfl, thrifty_consumeBody⟩
    apply unchanged_of_rejected blocks run kept found found' ordered answered stops same ended
    rintro value rfl rfl
    exact rejected rfl

end Runs

/-! ## Two events of one hour -/

section Sample

/-- An event with one attachment, some seconds after an hour has begun. -/
def eventOf (name : String) (now : Int) : CapacityRequest where
  teamId := "T1"
  slackUserId := "U1"
  attachments := 1
  eventId := some name
  now := now

/-- The next statements of a worker. -/
def consuming (thread count : Nat) : List (PoolEvent CapacityRequest (BlockChoice Exn) Empty) :=
  List.replicate count (.call thread .executes)

/-- Two events are admitted, and the third of the hour is rejected. -/
def oneByOne : List (PoolEvent CapacityRequest (BlockChoice Exn) Empty) :=
  [.start 0 (eventOf "E1" 10)] ++ consuming 0 7 ++ [.stop 0, .start 0 (eventOf "E2" 20)] ++
    consuming 0 7 ++ [.stop 0, .start 0 (eventOf "E3" 30)] ++ consuming 0 3 ++ [.stop 0]

/-- Two workers count the one attachment of the hour before either adds its own. -/
def twoAtOnce : List (PoolEvent CapacityRequest (BlockChoice Exn) Empty) :=
  [.start 0 (eventOf "E1" 10)] ++ consuming 0 7 ++ [.stop 0, .start 0 (eventOf "E2" 20),
    .start 1 (eventOf "E3" 30)] ++ consuming 0 3 ++ consuming 1 3 ++ consuming 0 4 ++
    consuming 1 4 ++ [.stop 0, .stop 1]

def capacityRun (events : List (PoolEvent CapacityRequest (BlockChoice Exn) Empty)) :
    Option (List CapacityStep × CapacityState) :=
  capacitySystem.extend [] { world := { committed := {} } } events

theorem oneByOne_isSome : (capacityRun oneByOne).isSome := by
  decide

theorem twoAtOnce_isSome : (capacityRun twoAtOnce).isSome := by
  decide

theorem capacity_kept_one_by_one :
    NoneOverwritten ((capacityRun oneByOne).get oneByOne_isSome).1 ∧
      ((capacityRun oneByOne).get oneByOne_isSome).1.filterMap
          (fun step => (PoolSystem.ended? step).map fun ended => ended.2.toOption) =
        [some true, some true, some false] ∧
      CapacityKept ((capacityRun oneByOne).get oneByOne_isSome).1
        ((capacityRun oneByOne).get oneByOne_isSome).2 :=
  have own : NoneOverwritten ((capacityRun oneByOne).get oneByOne_isSome).1 := by
    decide
  have kept : NoneLost ((capacityRun oneByOne).get oneByOne_isSome).1 := by
    decide
  have events : ∀ request ∈ ((capacityRun oneByOne).get oneByOne_isSome).1.filterMap
      PoolSystem.started?, request.event?.isSome = true := by
    decide
  ⟨own, by decide, capacity_kept
    (PoolSystem.run_of_extend .nil (Option.some_get oneByOne_isSome).symm)
    (fun request started => events request (starts_iff_mem.mp started)) own kept⟩

/-- All three calls return `True`, and the hour has three attachments. -/
theorem cap_exceeded :
    CapacityRun ((capacityRun twoAtOnce).get twoAtOnce_isSome).1
        ((capacityRun twoAtOnce).get twoAtOnce_isSome).2 ∧
      ((capacityRun twoAtOnce).get twoAtOnce_isSome).1.filterMap
          (fun step => (PoolSystem.ended? step).map fun ended =>
            (ended.1.event?, ended.2.toOption)) =
        [(some "E1", some true), (some "E2", some true), (some "E3", some true)] ∧
      ((capacityRun twoAtOnce).get twoAtOnce_isSome).2.world.committed.admitted
        ⟨"T1", "U1", .hour, 0⟩ = 3 ∧
      ¬ CapacityKept ((capacityRun twoAtOnce).get twoAtOnce_isSome).1
        ((capacityRun twoAtOnce).get twoAtOnce_isSome).2 := by
  have three : ((capacityRun twoAtOnce).get twoAtOnce_isSome).2.world.committed.admitted
      ⟨"T1", "U1", .hour, 0⟩ = 3 := by
    decide
  refine ⟨PoolSystem.run_of_extend .nil (Option.some_get twoAtOnce_isSome).symm,
    by decide, three, ?_⟩
  intro capacity
  have capped := capacity.capped ⟨"T1", "U1", .hour, 0⟩
  rw [three] at capped
  exact absurd capped (by decide)

end Sample

end UnknownSenders

end ContractMate
