import ContractMate.OutboxOrder
import ContractMate.RankedSelection

/-!
# Delivery of one workspace

The items of one workspace that the email outbox hands out.  A thread key is taken
from the headers of the received email, so the rows of other workspaces can stand in
a thread of this one.  They influence its delivery exactly by standing live before
one of its rows.
-/

namespace ContractMate

namespace EmailOutbox

/-- A pending row whose time has come, or a leased one whose lease has run out. -/
def ripe (now : Int) (row : Row) : Bool :=
  (row.status = .pending && row.nextAttemptAt ≤ now) ||
    (row.status = .sending && leaseExpired row.leaseExpiresAt now)

/-- `earlier` is live and stands before `row` in its thread. -/
def standsBefore (row earlier : Row) : Bool :=
  earlier.threadKey = row.threadKey &&
    earlier.threadPosition < row.threadPosition &&
    (earlier.status = .pending || earlier.status = .sending)

section Tables

variable (table : Table)

/-- The row is due as far as the rows of its own workspace go. -/
def dueInWorkspace (now : Int) (row : Row) : Bool :=
  ripe now row &&
    !table.rows.any fun earlier =>
      earlier.workspaceId = row.workspaceId && standsBefore row earlier

/-- A live row of another workspace stands before the row in its thread. -/
def heldByOthers (row : Row) : Bool :=
  table.rows.any fun earlier =>
    !decide (earlier.workspaceId = row.workspaceId) && standsBefore row earlier

/-- A row is due when nothing live stands before it, its own or another's. -/
theorem due_eq (now : Int) (row : Row) :
    due table now row = (dueInWorkspace table now row && !heldByOthers table row) := by
  have parts : (table.rows.any (standsBefore row)) =
      ((table.rows.any fun earlier =>
          earlier.workspaceId = row.workspaceId && standsBefore row earlier) ||
        heldByOthers table row) := by
    rw [heldByOthers, Bool.eq_iff_iff]
    simp only [Bool.or_eq_true, List.any_eq_true, Bool.and_eq_true,
      decide_eq_true_eq, Bool.not_eq_true', decide_eq_false_iff_not]
    constructor
    · rintro ⟨earlier, member, before⟩
      by_cases own : earlier.workspaceId = row.workspaceId
      · exact .inl ⟨earlier, member, own, before⟩
      · exact .inr ⟨earlier, member, own, before⟩
    · rintro (⟨earlier, member, _, before⟩ | ⟨earlier, member, _, before⟩)
      · exact ⟨earlier, member, before⟩
      · exact ⟨earlier, member, before⟩
  have split : due table now row =
      (ripe now row && !table.rows.any (standsBefore row)) := rfl
  rw [split, parts, dueInWorkspace, Bool.not_or, Bool.and_assoc]

/-- The items of a workspace that `claim_due` returns. -/
def claimedFor (workspaceId : String) (stamp : Stamp) (limit leaseSeconds : Int) :
    List Item :=
  (claimDue table stamp limit leaseSeconds).1.filter fun item =>
    item.workspaceId = workspaceId

/-- The limit of a call cuts no due row off. -/
def WithinLimit (stamp : Stamp) (limit : Int) : Prop :=
  (table.affected (due table stamp.now) : Int) ≤ limit

instance (stamp : Stamp) (limit : Int) : Decidable (WithinLimit table stamp limit) :=
  inferInstanceAs (Decidable (_ ≤ _))

end Tables

/-- Two states hold the same rows of a workspace. -/
def AgreeOn (workspaceId : String) (first second : Table) : Prop :=
  ∀ row : Row, row.workspaceId = workspaceId →
    (row ∈ first.rows ↔ row ∈ second.rows)

/-! ## What a call returns -/

theorem dueBefore_order : RankOrder dueBefore := by
  have ids : RankOrder Uuid.le := by
    constructor
    · intro first second
      simp only [Uuid.le, Bool.or_eq_true, Bool.and_eq_true, decide_eq_true_eq,
        beq_iff_eq]
      omega
    · intro first second third earlier later
      simp only [Uuid.le, Bool.or_eq_true, Bool.and_eq_true, decide_eq_true_eq,
        beq_iff_eq] at earlier later ⊢
      omega
    · rintro ⟨call, position⟩ ⟨call', position'⟩ earlier later
      simp only [Uuid.le, Bool.or_eq_true, Bool.and_eq_true, decide_eq_true_eq,
        beq_iff_eq] at earlier later
      simp only [Uuid.mk.injEq]
      omega
  exact ids.lexicographic.lexicographic

/-- What `claim_due` orders by. -/
def Row.rank (row : Row) : Int × Int × Uuid :=
  (row.nextAttemptAt, row.createdAt, row.id)

theorem ranks_nodup (table : Table) (condition : Row → Bool) :
    ((table.select condition).map Row.rank).Nodup := by
  have ids : ((table.select condition).map Row.id).Nodup :=
    (List.filter_sublist.map Row.id).nodup table.keys_nodup
  have same : (table.select condition).map Row.id =
      ((table.select condition).map Row.rank).map fun rank => rank.2.2 := by
    rw [List.map_map]
    rfl
  rw [same] at ids
  exact ids.of_map

/-- The claiming loop returns an item for every row. -/
theorem claimed_items (stamp : Stamp) (leaseSeconds : Int) (rows : List Row) :
    ∀ (position : Nat) (table : Table),
      (claimEach false (fun _ => true)
        (fun selected _ => taken stamp leaseSeconds selected)
        (fun row _ => claimedItem row) stamp position rows table).1 =
          rows.map claimedItem := by
  induction rows with
  | nil =>
      intro position table
      rfl
  | cons selected rest induction =>
      intro position table
      simp only [claimEach, Bool.false_and, Bool.false_eq_true, if_false,
        List.map_cons]
      rw [induction]

variable {table first second : Table} {workspaceId : String} {stamp : Stamp}
  {limit leaseSeconds : Int}

/-- Unless the limit cuts rows off, a call returns the workspace's due rows by rank. -/
theorem claimedFor_eq (within : WithinLimit table stamp limit) :
    claimedFor table workspaceId stamp limit leaseSeconds =
      ((table.select fun row =>
          due table stamp.now row && row.workspaceId = workspaceId).insertionSort
        fun one other => dueBefore one.rank other.rank = true).map claimedItem := by
  have all : dueRows table stamp limit =
      (table.select (due table stamp.now)).insertionSort fun one other =>
        dueBefore one.rank other.rank = true := by
    apply List.take_of_length_le
    rw [List.length_insertionSort, RowTable.select, ← List.countP_eq_length_filter]
    rw [WithinLimit, RowTable.affected] at within
    omega
  have items : (claimDue table stamp limit leaseSeconds).1 =
      (dueRows table stamp limit).map claimedItem := by
    unfold claimDue
    split
    · rename_i none_
      have empty : limit.toNat = 0 := by omega
      rw [dueRows, orderedFirst, empty, List.take_zero, List.map_nil]
    · exact claimed_items stamp leaseSeconds _ 0 table
  rw [claimedFor, items, all, List.filter_map]
  congr 1
  have own : ((fun item : Item => decide (item.workspaceId = workspaceId)) ∘
      claimedItem) = fun row : Row => decide (row.workspaceId = workspaceId) := rfl
  rw [own, dueBefore_order.filter_sorted Row.rank (ranks_nodup table _),
    RowTable.select, List.filter_filter]
  congr 2
  funext row
  rw [Bool.and_comm]

theorem mem_claimedFor (leaseSeconds : Int)
    (within : WithinLimit table stamp limit) {row : Row} (member : row ∈ table.rows) (own : row.workspaceId = workspaceId) :
    (∃ item ∈ claimedFor table workspaceId stamp limit leaseSeconds,
        item.id = row.id) ↔ due table stamp.now row = true := by
  rw [claimedFor_eq within]
  simp only [List.mem_map, List.mem_insertionSort, RowTable.select, List.mem_filter,
    Bool.and_eq_true, decide_eq_true_eq]
  constructor
  · rintro ⟨_, ⟨other, ⟨inTable, isDue, _⟩, rfl⟩, same⟩
    have same : other.id = row.id := same
    have equal : other = row := by
      have here := RowTable.find?_of_mem inTable
      rw [same, RowTable.find?_of_mem member] at here
      exact (Option.some.inj here).symm
    exact equal ▸ isDue
  · intro isDue
    exact ⟨claimedItem row, ⟨row, ⟨member, isDue, own⟩, rfl⟩, rfl⟩

/-! ## Two states -/

theorem dueInWorkspace_eq (agree : AgreeOn workspaceId first second) {row : Row}
    (own : row.workspaceId = workspaceId) :
    dueInWorkspace first stamp.now row = dueInWorkspace second stamp.now row := by
  unfold dueInWorkspace
  congr 2
  rw [Bool.eq_iff_iff]
  simp only [List.any_eq_true, Bool.and_eq_true, decide_eq_true_eq]
  constructor
  · rintro ⟨earlier, member, same, before⟩
    exact ⟨earlier, (agree earlier (same.trans own)).mp member, same, before⟩
  · rintro ⟨earlier, member, same, before⟩
    exact ⟨earlier, (agree earlier (same.trans own)).mpr member, same, before⟩

/-- Two states that agree on a workspace return the same of its items just when the
rows of others hold back the same of its rows. -/
theorem delivery_isolated_iff (first second : Table) (workspaceId : String)
    (stamp : Stamp) (limit leaseSeconds : Int)
    (agree : AgreeOn workspaceId first second)
    (withinFirst : WithinLimit first stamp limit)
    (withinSecond : WithinLimit second stamp limit) :
    claimedFor first workspaceId stamp limit leaseSeconds =
        claimedFor second workspaceId stamp limit leaseSeconds ↔
      ∀ row ∈ first.rows, row.workspaceId = workspaceId →
        dueInWorkspace first stamp.now row = true →
          heldByOthers first row = heldByOthers second row := by
  constructor
  · intro equal row member own isDue
    have alike : due first stamp.now row = true ↔ due second stamp.now row = true := by
      rw [← mem_claimedFor leaseSeconds withinFirst member own, equal,
        mem_claimedFor leaseSeconds withinSecond ((agree row own).mp member) own]
    rw [due_eq, due_eq, ← dueInWorkspace_eq agree own, isDue] at alike
    rw [← Bool.not_inj_iff, Bool.eq_iff_iff]
    simpa using alike
  · intro held
    rw [claimedFor_eq withinFirst, claimedFor_eq withinSecond]
    congr 1
    rw [dueBefore_order.sorted_eq_iff Row.rank (ranks_nodup first _)
      (ranks_nodup second _)]
    intro row
    simp only [RowTable.select, List.mem_filter, Bool.and_eq_true, decide_eq_true_eq]
    constructor
    · rintro ⟨member, isDue, own⟩
      refine ⟨(agree row own).mp member, ?_, own⟩
      rw [due_eq, Bool.and_eq_true] at isDue ⊢
      rw [← dueInWorkspace_eq agree own, ← held row member own isDue.1]
      exact isDue
    · rintro ⟨member, isDue, own⟩
      have member := (agree row own).mpr member
      refine ⟨member, ?_, own⟩
      rw [due_eq, Bool.and_eq_true] at isDue ⊢
      rw [← dueInWorkspace_eq agree own] at isDue
      rw [held row member own isDue.1]
      exact isDue

theorem agreeOn_of_select
    (same : (first.select fun row => row.workspaceId = workspaceId) =
      second.select fun row => row.workspaceId = workspaceId) :
    AgreeOn workspaceId first second := by
  intro row own
  have inFirst : row ∈ first.select (fun row => row.workspaceId = workspaceId) ↔
      row ∈ first.rows := by simp [RowTable.select, own]
  have inSecond : row ∈ second.select (fun row => row.workspaceId = workspaceId) ↔
      row ∈ second.rows := by simp [RowTable.select, own]
  rw [← inFirst, same, inSecond]

/-! ## A shared thread -/

/-- A receipt, answering an email whose `Message-ID` the sender chose. -/
def sampleReceipt (workspaceId threadKey idempotencyKey : String) : Intent :=
  { workspaceId, threadKey, messageType := .receipt
    message :=
      { toAddress := "legal@client.example", fromAddress := "review@contractmate.example"
        subject := "Received", textBody := "We are reviewing your contract." }
    idempotencyKey }

/-- Another workspace's receipt comes first in the thread and is claimed. -/
def sampleShared : Table :=
  let north := sampleReceipt "north" "<offer@mail.example>" "receipt:north"
  let south := sampleReceipt "south" "<offer@mail.example>" "receipt:south"
  (EmailOutboxCall.claimDue 25 120).after ⟨2, 3⟩
    ((EmailOutboxCall.enqueue south).after ⟨1, 2⟩
      ((EmailOutboxCall.enqueue north).after ⟨0, 1⟩ .empty))

/-- It is sent. -/
def sampleAnswered : Table :=
  (EmailOutboxCall.markSent ⟨1, 0⟩).after ⟨3, 4⟩ sampleShared

/-- It is not delivered and waits for its next attempt. -/
def sampleWaiting : Table :=
  (EmailOutboxCall.reschedule ⟨1, 0⟩ 1 5 60).after ⟨3, 4⟩ sampleShared

/-- It is sent, and an email of another thread is queued. -/
def sampleBusier : Table :=
  (EmailOutboxCall.enqueue
    (sampleReceipt "north" "<other@mail.example>" "receipt:other")).after ⟨4, 5⟩
      sampleAnswered

/-- Whether the other workspace's email could be sent decides whether this one's is
handed out. -/
theorem foreign_thread_holds_back :
    ¬ ∀ (workspaceId : String) (first second : Table) (stamp : Stamp)
      (limit leaseSeconds : Int), AgreeOn workspaceId first second →
      WithinLimit first stamp limit → WithinLimit second stamp limit →
      claimedFor first workspaceId stamp limit leaseSeconds =
        claimedFor second workspaceId stamp limit leaseSeconds := by
  intro isolated
  have equal := isolated "south" sampleAnswered sampleWaiting ⟨4, 5⟩ 25 120
    (agreeOn_of_select (by decide)) (by decide) (by decide)
  have different : claimedFor sampleAnswered "south" ⟨4, 5⟩ 25 120 ≠
      claimedFor sampleWaiting "south" ⟨4, 5⟩ 25 120 := by decide
  exact different equal

/-- Emails of other threads do not matter. -/
theorem delivery_isolated_sample :
    claimedFor sampleAnswered "south" ⟨5, 6⟩ 25 120 =
        claimedFor sampleBusier "south" ⟨5, 6⟩ 25 120 ∧
      claimedFor sampleAnswered "south" ⟨5, 6⟩ 25 120 ≠ [] :=
  ⟨(delivery_isolated_iff sampleAnswered sampleBusier "south" ⟨5, 6⟩ 25 120
    (agreeOn_of_select (by decide)) (by decide)
    (by decide)).mpr (by decide), by decide⟩

end EmailOutbox

end ContractMate
