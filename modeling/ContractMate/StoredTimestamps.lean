import ContractMate.CivilTime
import ContractMate.EmailOutbox
import ContractMate.KnowledgeOutbox

/-!
# Stored timestamps

The SQLite branches store and compare timestamps as texts.  Columns that a row does not
name get the text of `CURRENT_TIMESTAMP`, and each repository has a format of its own.
-/

namespace ContractMate

open PythonText LexicographicText CivilTime

/-- The `_timestamp` methods: of `SlackRepository`, and of the email and knowledge
outboxes. -/
inductive TimestampFormat where
  | slack
  | outbox
deriving DecidableEq, Repr

namespace TimestampFormat

def separator : TimestampFormat → Char
  | slack => 'T'
  | outbox => ' '

/-- `timespec`: by default a fraction of zero is left out. -/
def fraction (microsecond : Nat) : TimestampFormat → Text
  | slack => if microsecond = 0 then [] else '.' :: padded 6 microsecond
  | outbox => '.' :: padded 6 microsecond

/-- `+00:00`. -/
def utcOffset : Text :=
  ['+', '0', '0', ':', '0', '0']

/-- `_timestamp`. -/
def timestamp (format : TimestampFormat) (value : DateTime) : Text :=
  value.dateText ++ format.separator ::
    (value.clockText ++ (format.fraction value.microsecond ++ utcOffset))

end TimestampFormat

/-- `CURRENT_TIMESTAMP` of SQLite. -/
def currentTimestamp (now : DateTime) : Text :=
  now.dateText ++ ' ' :: now.clockText

/-- A value in a column that a due or lease check reads. -/
inductive StoredTime where
  | timestamp (value : DateTime)
  | default (now : DateTime)

namespace StoredTime

/-- `CURRENT_TIMESTAMP` denotes the beginning of its second. -/
def instant : StoredTime → Int
  | timestamp value => value.instant
  | default now => now.wholeSecond.instant

def text (format : TimestampFormat) : StoredTime → Text
  | timestamp value => format.timestamp value
  | default now => currentTimestamp now

def isDefault : StoredTime → Bool
  | timestamp _ => false
  | default _ => true

end StoredTime

/-- `(status = … AND next_attempt_at <= ?) OR (status = … AND lease_expires_at IS NOT NULL
AND lease_expires_at <= ?)`, over texts or over instants. -/
def dueCheck {Time : Type} [LE Time] [DecidableLE Time] (waiting leased : Bool)
    (nextAttemptAt : Time) (leaseExpiresAt : Option Time) (now : Time) : Bool :=
  (waiting && nextAttemptAt ≤ now) || (leased && leaseExpiresAt.any (· ≤ now))

section Order

variable {first second : DateTime} {format : TimestampFormat}

/-- The dates decide, or the rest does on the same day. -/
theorem date_le_iff (front back : Text) :
    first.dateText ++ front ≤ second.dateText ++ back ↔
      first.ordinal < second.ordinal ∨ first.ordinal = second.ordinal ∧ front ≤ back := by
  rw [append_le_append_iff (by rw [first.length_dateText, second.length_dateText]),
    DateTime.dateText_lt_iff, DateTime.dateText_inj]

theorem clock_le_iff (front back : Text) :
    first.clockText ++ front ≤ second.clockText ++ back ↔
      first.secondOfDay < second.secondOfDay ∨
        first.secondOfDay = second.secondOfDay ∧ front ≤ back := by
  rw [append_le_append_iff (by rw [first.length_clockText, second.length_clockText]),
    DateTime.clockText_lt_iff, DateTime.clockText_inj]

/-- Fractions of six digits before the same text. -/
theorem sixDigits_le_iff {fraction other : Nat} (fits : fraction < 1000000)
    (otherFits : other < 1000000) (rest : Text) :
    '.' :: (padded 6 fraction ++ rest) ≤ '.' :: (padded 6 other ++ rest) ↔ fraction ≤ other := by
  have widths : (padded 6 fraction).length = (padded 6 other).length := by
    rw [length_padded 5 fits, length_padded 5 otherFits]
  rw [cons_le_cons_iff, append_le_append_iff widths, padded_lt_iff 5 fits otherFits,
    padded_inj 5 fits otherFits]
  simp [Nat.le_iff_lt_or_eq]

/-- The sign of the offset comes before the point of a fraction. -/
theorem fraction_le_iff {fraction other : Nat} (fits : fraction < 1000000)
    (otherFits : other < 1000000) :
    format.fraction fraction ++ TimestampFormat.utcOffset ≤
      format.fraction other ++ TimestampFormat.utcOffset ↔ fraction ≤ other := by
  cases format with
  | outbox => exact sixDigits_le_iff fits otherFits _
  | slack =>
      simp only [TimestampFormat.fraction]
      by_cases zero : fraction = 0 <;> by_cases otherZero : other = 0
      · simp [zero, otherZero]
      · rw [if_pos zero, if_neg otherZero]
        have earlier : '+' < '.' := by decide
        rw [List.nil_append, List.cons_append, TimestampFormat.utcOffset, cons_le_cons_iff]
        simp [earlier, zero]
      · rw [if_neg zero, if_pos otherZero]
        have earlier : ¬ '.' < '+' := by decide
        rw [List.nil_append, List.cons_append, TimestampFormat.utcOffset, cons_le_cons_iff]
        simp [earlier, otherZero, zero]
      · rw [if_neg zero, if_neg otherZero]
        exact sixDigits_le_iff fits otherFits _

/-- Two values of `_timestamp`. -/
theorem timestamp_le_iff :
    format.timestamp first ≤ format.timestamp second ↔ first.instant ≤ second.instant := by
  rw [TimestampFormat.timestamp, TimestampFormat.timestamp, date_le_iff, cons_le_cons_iff,
    clock_le_iff, fraction_le_iff first.microsecond_lt second.microsecond_lt,
    DateTime.instant_le_iff]
  simp

theorem wholeSecond_le_iff :
    first.wholeSecond.instant ≤ second.instant ↔
      first.ordinal < second.ordinal ∨ first.ordinal = second.ordinal ∧
        first.secondOfDay ≤ second.secondOfDay := by
  rw [DateTime.instant_le_iff]
  have date : first.wholeSecond.ordinal = first.ordinal := rfl
  have clock : first.wholeSecond.secondOfDay = first.secondOfDay := rfl
  have none : first.wholeSecond.microsecond = 0 := rfl
  rw [date, clock, none]
  omega

/-- A default is a prefix of the value with the same second, or has a blank where that has
a `T`. -/
theorem default_le_iff (past : first.wholeSecond.instant ≤ second.instant) :
    currentTimestamp first ≤ format.timestamp second := by
  rw [wholeSecond_le_iff] at past
  rw [currentTimestamp, TimestampFormat.timestamp, date_le_iff]
  rcases past with earlier | ⟨sameDay, clock⟩
  · exact .inl earlier
  · refine .inr ⟨sameDay, ?_⟩
    rw [cons_le_cons_iff]
    cases format with
    | slack => exact .inl (by decide)
    | outbox =>
        refine .inr ⟨rfl, ?_⟩
        rw [← List.append_nil first.clockText, clock_le_iff]
        rcases Nat.lt_or_eq_of_le clock with less | same
        · exact .inl less
        · exact .inr ⟨same, not_lt.mp (List.not_lt_nil _)⟩

/-- A stored text is not after the text of the time of a check exactly when its instant is
not after that time. -/
theorem stored_le_iff {stored : StoredTime} {now : DateTime}
    (past : stored.isDefault = true → stored.instant ≤ now.instant) :
    stored.text format ≤ format.timestamp now ↔ stored.instant ≤ now.instant := by
  cases stored with
  | timestamp value => exact timestamp_le_iff
  | default inserted =>
      have notAfter := past rfl
      exact ⟨fun _ => notAfter, fun _ => default_le_iff notAfter⟩

end Order

/-! ## The checks -/

section Checks

variable {now : DateTime} {next : StoredTime} {lease : Option DateTime}

theorem expired_texts (format : TimestampFormat) :
    ((lease.map format.timestamp).any (· ≤ format.timestamp now)) =
      (lease.map DateTime.instant).any (· ≤ now.instant) := by
  cases lease with
  | none => rfl
  | some expiry =>
      rw [Option.map_some, Option.map_some, Option.any_some, Option.any_some]
      exact decide_eq_decide.mpr timestamp_le_iff

/-- A check gives the same answer over texts and over instants. -/
theorem dueCheck_texts (past : next.isDefault = true → next.instant ≤ now.instant)
    (format : TimestampFormat) (waiting leased : Bool) :
    dueCheck waiting leased (next.text format) (lease.map format.timestamp)
        (format.timestamp now) =
      dueCheck waiting leased next.instant (lease.map DateTime.instant) now.instant := by
  rw [dueCheck, dueCheck, expired_texts, decide_eq_decide.mpr (stored_le_iff past)]

/-- Whatever the formats and the fractions are, texts compare as instants, so that each
repository claims the rows that are due. -/
theorem stored_timestamps_chronological (now : DateTime) (next : StoredTime)
    (lease : Option DateTime) (past : next.isDefault = true → next.instant ≤ now.instant) :
    (∀ format : TimestampFormat,
      (next.text format ≤ format.timestamp now ↔ next.instant ≤ now.instant) ∧
        ∀ expiry : DateTime,
          format.timestamp expiry ≤ format.timestamp now ↔ expiry.instant ≤ now.instant) ∧
    (∀ row : InboundSlackEventRow, row.nextAttemptAt = next.instant →
      row.leaseExpiresAt = lease.map DateTime.instant →
        SlackTables.eventDue now.instant row =
          dueCheck (row.status = .pending) (row.status = .processing) (next.text .slack)
            (lease.map TimestampFormat.slack.timestamp)
            (TimestampFormat.slack.timestamp now)) ∧
    (∀ row : ReviewJobRow, row.nextAttemptAt = next.instant →
      row.leaseExpiresAt = lease.map DateTime.instant →
        SlackTables.jobDue now.instant row =
          dueCheck (row.status = .pending) (row.status = .publishing) (next.text .slack)
            (lease.map TimestampFormat.slack.timestamp)
            (TimestampFormat.slack.timestamp now)) ∧
    (∀ (tables : SlackTables) (row : OutboundSlackRow), row.nextAttemptAt = next.instant →
      row.leaseExpiresAt = lease.map DateTime.instant →
        tables.outboundDue now.instant row =
          (dueCheck (row.status = .pending) (row.status = .sending) (next.text .slack)
              (lease.map TimestampFormat.slack.timestamp)
              (TimestampFormat.slack.timestamp now) &&
            !tables.outbound.rows.any fun earlier =>
              SlackTables.sameThread row.installationId row.channelId row.threadTs earlier &&
                earlier.threadPosition < row.threadPosition &&
                (earlier.status = .pending || earlier.status = .sending))) ∧
    (∀ (table : EmailOutbox.Table) (row : EmailOutbox.Row), row.nextAttemptAt = next.instant →
      row.leaseExpiresAt = lease.map DateTime.instant →
        EmailOutbox.due table now.instant row =
          (dueCheck (row.status = .pending) (row.status = .sending) (next.text .outbox)
              (lease.map TimestampFormat.outbox.timestamp)
              (TimestampFormat.outbox.timestamp now) &&
            !table.rows.any fun earlier =>
              earlier.threadKey = row.threadKey &&
                earlier.threadPosition < row.threadPosition &&
                (earlier.status = .pending || earlier.status = .sending))) ∧
    (∀ row : KnowledgeOutboxRow, row.nextAttemptAt = next.instant →
      row.leaseExpiresAt = lease.map DateTime.instant →
        row.due now.instant =
          dueCheck (row.status = .pending) (row.status = .publishing) (next.text .outbox)
            (lease.map TimestampFormat.outbox.timestamp)
            (TimestampFormat.outbox.timestamp now)) ∧
    leaseExpired (lease.map DateTime.instant) now.instant =
      (lease.map TimestampFormat.slack.timestamp).any
        (· ≤ TimestampFormat.slack.timestamp now) := by
  refine ⟨fun format => ⟨stored_le_iff past, fun _ => timestamp_le_iff⟩, ?_, ?_, ?_, ?_, ?_, ?_⟩
  · intro row attempt expiry
    rw [dueCheck_texts past, ← attempt, ← expiry]
    rfl
  · intro row attempt expiry
    rw [dueCheck_texts past, ← attempt, ← expiry]
    rfl
  · intro tables row attempt expiry
    rw [dueCheck_texts past, ← attempt, ← expiry]
    rfl
  · intro table row attempt expiry
    rw [dueCheck_texts past, ← attempt, ← expiry]
    rfl
  · intro row attempt expiry
    rw [dueCheck_texts past, ← attempt, ← expiry]
    rfl
  · exact (expired_texts .slack).symm

def sampleNoon : DateTime :=
  { year := 2024, month := 2, day := 29, hour := 12, minute := 0, second := 0
    microsecond := 0, microsecond_lt := DateTime.no_microsecond }

def sampleMorning : DateTime :=
  { year := 2024, month := 2, day := 29, hour := 8, minute := 30, second := 0
    microsecond := 250000 }

def sampleMoment : DateTime :=
  { year := 2024, month := 2, day := 29, hour := 12, minute := 0, second := 0
    microsecond := 1 }

/-- A row inserted in the morning is due at noon, and a lease that ends a microsecond later
has not expired. -/
theorem stored_timestamps_chronological_noon :
    currentTimestamp sampleMorning ≤ TimestampFormat.slack.timestamp sampleNoon ∧
      ¬ TimestampFormat.slack.timestamp sampleMoment ≤
        TimestampFormat.slack.timestamp sampleNoon := by
  have past : (StoredTime.default sampleMorning).instant ≤ sampleNoon.instant :=
    wholeSecond_le_iff.mpr (.inr ⟨rfl, by decide⟩)
  have order := (stored_timestamps_chronological sampleNoon (.default sampleMorning) none
    fun _ => past).1 .slack
  have date : sampleMoment.ordinal = sampleNoon.ordinal := rfl
  have clock : sampleMoment.secondOfDay = sampleNoon.secondOfDay := rfl
  have later : ¬ sampleMoment.instant ≤ sampleNoon.instant := by
    rw [DateTime.instant_le_iff, date, clock]
    simp [sampleMoment, sampleNoon]
  exact ⟨order.1.mpr past, fun before => later ((order.2 sampleMoment).mp before)⟩

end Checks

end ContractMate
