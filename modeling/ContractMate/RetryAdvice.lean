import ContractMate.AdmissionAgreement
import ContractMate.AdmissionBounds

/-!
# Retry advice

A refused request is told how many seconds to wait.  The refill of a bucket is rounded
up, but what is left of the daily counter is rounded to the nearest second, and a
bucket dated after the request is taken to refill at once.
-/

namespace ContractMate

open PythonText TokenBucket

/-! ## Keys that are gone in time -/

/-- A key disappears when nothing is left of its time. -/
def RedisKey.present {Value : Type} (key : Option (RedisKey Value)) (now : RedisTime) :
    Option (RedisKey Value) :=
  key.filter fun key => key.expiresAt.all fun deadline => now.millis < deadline

def QuotaKeys.present (keys : QuotaKeys) (now : RedisTime) : QuotaKeys where
  minute := RedisKey.present keys.minute now
  hourly := RedisKey.present keys.hourly now
  daily := RedisKey.present keys.daily now

theorem RedisTime.millis_mono {now later : RedisTime} (ordered : now ≤ later) :
    now.millis ≤ later.millis :=
  Nat.div_le_div_right ordered

namespace RedisKey

variable {Value : Type} {key : Option (RedisKey Value)} {live : RedisKey Value}
  {now later : RedisTime}

theorem present_eq_some_iff :
    present key now = some live ↔
      key = some live ∧
        ∀ deadline, live.expiresAt = some deadline → now.millis < deadline := by
  rw [present, Option.filter_eq_some_iff]
  cases live with
  | mk value expiresAt => cases expiresAt <;> simp

theorem present_of_later (ordered : now ≤ later) (found : present key later = some live) :
    present key now = some live := by
  obtain ⟨same, alive⟩ := present_eq_some_iff.mp found
  apply present_eq_some_iff.mpr
  constructor
  · exact same
  · intro deadline expires
    exact (RedisTime.millis_mono ordered).trans_lt (alive deadline expires)

theorem present_present (ordered : now ≤ later) :
    present (present key now) later = present key later := by
  ext live
  constructor
  · intro found
    obtain ⟨earlier, alive⟩ := present_eq_some_iff.mp found
    exact present_eq_some_iff.mpr ⟨(present_eq_some_iff.mp earlier).1, alive⟩
  · intro found
    exact present_eq_some_iff.mpr
      ⟨present_of_later ordered found, (present_eq_some_iff.mp found).2⟩

@[simp]
theorem get_present : get (present key now) now = present key now := by
  ext live
  rw [get_eq_some_iff]
  constructor
  · exact And.left
  · intro found
    exact ⟨found, fun deadline expires =>
      le_of_lt ((present_eq_some_iff.mp found).2 deadline expires)⟩

end RedisKey

/-- The moment some seconds later. -/
def RedisTime.after (now : RedisTime) (seconds : Int) : RedisTime :=
  now + seconds.toNat * 1000000

/-! ## When a window refuses -/

namespace BucketWindow

variable (limits : WindowLimits) (units : Nat) (keys : QuotaKeys) (now : RedisTime)
  (window : BucketWindow)

/-- The bucket is short of the request. -/
def Refuses : Prop :=
  0 < window.limit limits ∧
    window.tokensRead limits (keys.present now) now + admissionTolerance < units

/-- The seconds that the bucket takes to refill, rounded up. -/
def wait : Int :=
  ⌈(units - window.tokensRead limits (keys.present now) now) /
    ((window.limit limits : ℚ) / window.interval)⌉

/-- The bucket was last charged after the request. -/
def DatedAfter : Prop :=
  ∃ live, RedisKey.present (window.key keys) now = some live ∧
    now.seconds < live.value.updatedAt

/-- The bucket is gone, or has refilled since it was charged. -/
def Refilled : Prop :=
  ∀ live, RedisKey.present (window.key keys) now = some live →
    (units : ℚ) ≤ live.value.tokens +
      (now.seconds - min live.value.updatedAt now.seconds) *
        ((window.limit limits : ℚ) / window.interval) + admissionTolerance

end BucketWindow

namespace QuotaKeys

variable (limits : WindowLimits) (units : Nat) (keys : QuotaKeys) (now : RedisTime)

/-- The counter has no room for the request. -/
def CounterRefuses : Prop :=
  0 < limits.daily ∧ (limits.daily : Int) < dailyUsed (keys.present now) now + units

/-- What is left of the counter, rounded to the nearest second, or the seconds to
midnight. -/
def counterWait : Int :=
  max (max 1 (RedisKey.ttl (RedisKey.present keys.daily now) now)) (dayTtl now)

/-- The waits of the windows that refuse the request. -/
def Waits (seconds : Int) : Prop :=
  (∃ window : BucketWindow, window.Refuses limits units keys now ∧
      seconds = window.wait limits units keys now) ∨
    (keys.CounterRefuses limits units now ∧ seconds = keys.counterWait now)

/-- Every window that refuses the request admits it once the longest wait is over. -/
structure AdviceSuffices : Prop where
  buckets : ∀ window : BucketWindow, window.Refuses limits units keys now →
    window.DatedAfter keys now →
      ∃ seconds, keys.Waits limits units now seconds ∧
        window.Refilled limits units keys (now.after seconds)
  counter : keys.CounterRefuses limits units now →
    ∀ live, RedisKey.present keys.daily now = some live →
      ∃ deadline, live.expiresAt = some deadline ∧
        let left := deadline - now.millis
        left % 1000 = 0 ∨ 500 ≤ left % 1000 ∨ (left : Int) ≤ 1000 * dayTtl now ∨
          ∃ window : BucketWindow, window.Refuses limits units keys now ∧
            (left : Int) ≤ 1000 * window.wait limits units keys now

end QuotaKeys

/-! ## How long a window refuses -/

section Windows

variable {limits : WindowLimits} {units : Nat} {keys : QuotaKeys} {now later : RedisTime}
  {window : BucketWindow}

theorem BucketWindow.tokensRead_eq (window : BucketWindow) (limits : WindowLimits)
    (keys : QuotaKeys) (now : RedisTime) :
    window.tokensRead limits (keys.present now) now =
      match RedisKey.present (window.key keys) now with
      | some live =>
          min (window.limit limits : ℚ) (live.value.tokens +
            (now.seconds - min live.value.updatedAt now.seconds) *
              ((window.limit limits : ℚ) / window.interval))
      | none => window.limit limits := by
  have read : window.key (keys.present now) = RedisKey.present (window.key keys) now := by
    cases window <;> rfl
  rw [tokensRead, read, storedBucket, RedisKey.get_present, shape, Shape.level]
  cases RedisKey.present (window.key keys) now with
  | some live => rfl
  | none => simp [bucketShape]

theorem admissionTolerance_pos : 0 < admissionTolerance := by
  norm_num [admissionTolerance]

/-- A bucket that could hold the request refuses it until it has refilled. -/
theorem BucketWindow.refuses_iff (limited : 0 < window.limit limits)
    (within : units ≤ window.limit limits) :
    window.Refuses limits units keys now ↔ ¬ window.Refilled limits units keys now := by
  have holds : (units : ℚ) ≤ window.limit limits := by exact_mod_cast within
  have tolerance := admissionTolerance_pos
  rw [Refuses, tokensRead_eq, Refilled]
  cases RedisKey.present (window.key keys) now with
  | none =>
      simp only [limited, true_and, reduceCtorEq, false_implies, implies_true, not_true,
        iff_false, not_lt]
      linarith
  | some live =>
      simp only [limited, true_and, Option.some.injEq, forall_eq', not_le]
      rw [← min_add_add_right, min_lt_iff]
      constructor
      · rintro (short | short)
        · linarith
        · exact short
      · exact Or.inr

theorem BucketWindow.refilled_mono (ordered : now ≤ later)
    (refilled : window.Refilled limits units keys now) :
    window.Refilled limits units keys later := by
  intro live found
  have enough := refilled live (RedisKey.present_of_later ordered found)
  have moved := RedisTime.seconds_mono ordered
  have elapsed : now.seconds - min live.value.updatedAt now.seconds ≤
      later.seconds - min live.value.updatedAt later.seconds := by
    rcases le_total live.value.updatedAt now.seconds with dated | dated
    · rw [min_eq_left dated, min_eq_left (dated.trans moved)]
      linarith
    · rw [min_eq_right dated]
      have := min_le_right live.value.updatedAt later.seconds
      linarith
  have rate : 0 ≤ (window.limit limits : ℚ) / window.interval := by positivity
  have := mul_le_mul_of_nonneg_right elapsed rate
  linarith

theorem RedisTime.le_after (now : RedisTime) (seconds : Int) : now ≤ now.after seconds :=
  Nat.le_add_right ..

theorem RedisTime.seconds_after (now : RedisTime) (seconds : Int) :
    (now.after seconds).seconds = now.seconds + seconds.toNat := by
  rw [RedisTime.seconds_eq, RedisTime.seconds_eq, RedisTime.after]
  push_cast
  ring

/-- A bucket of the past has refilled after its own wait. -/
theorem BucketWindow.refilled_after_wait (within : units ≤ window.limit limits)
    (refuses : window.Refuses limits units keys now)
    (past : ¬ window.DatedAfter keys now) :
    window.Refilled limits units keys
      (now.after (window.wait limits units keys now)) := by
  intro live found
  have earlier := RedisKey.present_of_later (RedisTime.le_after now _) found
  have dated : live.value.updatedAt ≤ now.seconds := by
    by_contra after
    exact past ⟨live, earlier, not_le.mp after⟩
  obtain ⟨limited, short⟩ := refuses
  have tolerance := admissionTolerance_pos
  have holds : (units : ℚ) ≤ window.limit limits := by exact_mod_cast within
  have positive : (0 : ℚ) < window.limit limits := by exact_mod_cast limited
  have interval : (0 : ℚ) < window.interval := by
    cases window <;> norm_num [BucketWindow.interval, minuteInterval, hourInterval]
  have rate : 0 < (window.limit limits : ℚ) / window.interval := div_pos positive interval
  have read : window.tokensRead limits (keys.present now) now =
      live.value.tokens + (now.seconds - live.value.updatedAt) *
        ((window.limit limits : ℚ) / window.interval) := by
    have level := window.tokensRead_eq limits keys now
    rw [earlier] at level
    simp only [min_eq_left dated] at level
    rcases min_choice (window.limit limits : ℚ) (live.value.tokens +
        (now.seconds - live.value.updatedAt) *
          ((window.limit limits : ℚ) / window.interval)) with full | refilling
    · rw [full] at level
      linarith
    · rw [level, refilling]
  have covered : (units - window.tokensRead limits (keys.present now) now) /
        ((window.limit limits : ℚ) / window.interval) ≤
      ((window.wait limits units keys now).toNat : ℚ) := by
    have rounded := Int.le_ceil ((units - window.tokensRead limits (keys.present now) now) /
      ((window.limit limits : ℚ) / window.interval))
    have natural : (window.wait limits units keys now : ℚ) ≤
        ((window.wait limits units keys now).toNat : ℚ) := by
      exact_mod_cast Int.self_le_toNat (window.wait limits units keys now)
    exact rounded.trans natural
  rw [div_le_iff₀ rate, read] at covered
  rw [RedisTime.seconds_after, min_eq_left (dated.trans (by
    have : (0 : ℚ) ≤ (window.wait limits units keys now).toNat := Nat.cast_nonneg _
    linarith))]
  linarith

/-! ## What the scripts report -/

/-- The local function `bucket` on a window with a limit. -/
theorem BucketWindow.readBucket_eq (units : Nat) (keys : QuotaKeys) (now : RedisTime)
    (limited : 0 < window.limit limits) :
    (readBucket (RedisKey.present (window.key keys) now) (window.limit limits)
        window.interval units now).tokens =
      window.tokensRead limits (keys.present now) now := by
  have read : window.key (keys.present now) = RedisKey.present (window.key keys) now := by
    cases window <;> rfl
  rw [readBucket, if_neg (by omega), tokensRead, read]
  rfl

theorem BucketWindow.retry_of_refuses (refuses : window.Refuses limits units keys now) :
    (readBucket (RedisKey.present (window.key keys) now) (window.limit limits)
        window.interval units now).retry =
      window.wait limits units keys now := by
  have tokens := readBucket_eq units keys now refuses.1
  have short := refuses.2
  rw [← tokens] at short
  rw [wait, ← tokens]
  rw [readBucket, if_neg (by have := refuses.1; omega)] at short ⊢
  exact if_pos short

theorem BucketWindow.retry_of_not_refuses
    (admits : ¬ window.Refuses limits units keys now) :
    (readBucket (RedisKey.present (window.key keys) now) (window.limit limits)
        window.interval units now).retry = 0 := by
  apply AdmissionScripts.retry_of_admitted
  rintro ⟨limited, short⟩
  rw [readBucket_eq units keys now limited] at short
  exact admits ⟨limited, short⟩

theorem denied_iff_refuses :
    (readWindows limits units now (keys.present now)).denied limits units = true ↔
      (∃ window : BucketWindow, window.Refuses limits units keys now) ∨
        keys.CounterRefuses limits units now := by
  have bucket (window : BucketWindow) :
      (0 < window.limit limits ∧
        (readBucket (RedisKey.present (window.key keys) now) (window.limit limits)
          window.interval units now).tokens + admissionTolerance < units) ↔
        window.Refuses limits units keys now := by
    apply and_congr_right
    intro limited
    rw [BucketWindow.readBucket_eq units keys now limited]
  have minute := bucket .minute
  have hourly := bucket .hourly
  simp only [WindowsReading.denied, Bool.or_eq_true, Bool.and_eq_true, decide_eq_true_eq]
  constructor
  · rintro ((short | short) | short)
    · exact .inl ⟨.minute, minute.mp short⟩
    · exact .inl ⟨.hourly, hourly.mp short⟩
    · exact .inr short
  · rintro (⟨window, short⟩ | short)
    · cases window with
      | minute => exact .inl (.inl (minute.mpr short))
      | hourly => exact .inl (.inr (hourly.mpr short))
    · exact .inr short

theorem BucketWindow.one_le_wait (refuses : window.Refuses limits units keys now) :
    1 ≤ window.wait limits units keys now := by
  obtain ⟨limited, short⟩ := refuses
  have tolerance := admissionTolerance_pos
  have positive : (0 : ℚ) < window.limit limits := by exact_mod_cast limited
  have interval : (0 : ℚ) < window.interval := by
    cases window <;> norm_num [BucketWindow.interval, minuteInterval, hourInterval]
  have missing : 0 < units - window.tokensRead limits (keys.present now) now := by linarith
  exact Int.one_le_ceil_iff.mpr (div_pos missing (div_pos positive interval))

theorem QuotaKeys.one_le_of_waits {seconds : Int}
    (waits : keys.Waits limits units now seconds) : 1 ≤ seconds := by
  rcases waits with ⟨window, refuses, rfl⟩ | ⟨_, rfl⟩
  · exact window.one_le_wait refuses
  · exact (le_max_left 1 _).trans (le_max_left _ _)

/-- The seconds that a refusal reports. -/
def reportedWait (limits : WindowLimits) (units : Nat) (keys : QuotaKeys)
    (now : RedisTime) : Int :=
  let reading := readWindows limits units now (keys.present now)
  max reading.minute.retry (max reading.hourly.retry reading.dailyRetry)

theorem le_reportedWait {seconds : Int} (waits : keys.Waits limits units now seconds) :
    seconds ≤ reportedWait limits units keys now := by
  rcases waits with ⟨window, refuses, rfl⟩ | ⟨refuses, rfl⟩
  · have reported := window.retry_of_refuses refuses
    rw [← reported]
    cases window with
    | minute => exact le_max_left _ _
    | hourly => exact (le_max_left _ _).trans (le_max_right _ _)
  · have reported : (readWindows limits units now (keys.present now)).dailyRetry =
        keys.counterWait now := if_pos refuses
    rw [← reported]
    exact (le_max_right _ _).trans (le_max_right _ _)

/-- A refusal reports the wait of a window that refuses. -/
theorem waits_reportedWait
    (denied : (readWindows limits units now (keys.present now)).denied limits units = true) :
    keys.Waits limits units now (reportedWait limits units keys now) := by
  have positive : 1 ≤ reportedWait limits units keys now := by
    rcases denied_iff_refuses.mp denied with ⟨window, refuses⟩ | refuses
    · have waits : keys.Waits limits units now (window.wait limits units keys now) :=
        .inl ⟨window, refuses, rfl⟩
      exact (QuotaKeys.one_le_of_waits waits).trans (le_reportedWait waits)
    · have waits : keys.Waits limits units now (keys.counterWait now) :=
        .inr ⟨refuses, rfl⟩
      exact (QuotaKeys.one_le_of_waits waits).trans (le_reportedWait waits)
  have ofWindow (window : BucketWindow)
      (reported : reportedWait limits units keys now =
        (readBucket (RedisKey.present (window.key keys) now) (window.limit limits)
          window.interval units now).retry) :
      keys.Waits limits units now (reportedWait limits units keys now) := by
    by_cases refuses : window.Refuses limits units keys now
    · exact .inl ⟨window, refuses, reported.trans (window.retry_of_refuses refuses)⟩
    · rw [reported, window.retry_of_not_refuses refuses] at positive
      omega
  rcases max_choice (readWindows limits units now (keys.present now)).minute.retry
      (max (readWindows limits units now (keys.present now)).hourly.retry
        (readWindows limits units now (keys.present now)).dailyRetry) with same | same
  · exact ofWindow .minute same
  rcases max_choice (readWindows limits units now (keys.present now)).hourly.retry
      (readWindows limits units now (keys.present now)).dailyRetry with inner | inner
  · exact ofWindow .hourly (same.trans inner)
  have reported := same.trans inner
  by_cases refuses : keys.CounterRefuses limits units now
  · have daily : (readWindows limits units now (keys.present now)).dailyRetry =
        keys.counterWait now := if_pos refuses
    exact .inr ⟨refuses, reported.trans daily⟩
  · have daily : (readWindows limits units now (keys.present now)).dailyRetry = 0 :=
      if_neg refuses
    have none : reportedWait limits units keys now = 0 := reported.trans daily
    omega

/-! ## The daily counter -/

theorem RedisTime.millis_after (now : RedisTime) (seconds : Int) :
    (now.after seconds).millis = now.millis + seconds.toNat * 1000 := by
  have division (micros count : Nat) :
      (micros + count * 1000000) / 1000 = micros / 1000 + count * 1000 := by omega
  exact division now seconds.toNat

/-- A counter that could hold the request refuses it as long as it is kept. -/
theorem QuotaKeys.counterRefuses_later (within : 0 < limits.daily → units ≤ limits.daily)
    (ordered : now ≤ later) :
    keys.CounterRefuses limits units later ↔
      keys.CounterRefuses limits units now ∧
        ∃ live, RedisKey.present keys.daily later = some live := by
  have used (time : RedisTime) : dailyUsed (keys.present time) time =
      ((RedisKey.present keys.daily time).map RedisKey.value).getD 0 := by
    rw [dailyUsed, QuotaKeys.present, RedisKey.get_present]
  simp only [CounterRefuses, used]
  cases found : RedisKey.present keys.daily later with
  | none =>
      simp only [Option.map_none, Option.getD_none, zero_add, reduceCtorEq, exists_false,
        and_false, iff_false, not_and, not_lt]
      intro limited
      exact_mod_cast within limited
  | some live => simp [RedisKey.present_of_later ordered found]

/-- The rounded rest of the counter covers it unless less than half a second is cut
off. -/
theorem QuotaKeys.counter_covered {live : RedisKey Int} {deadline : Nat} {seconds : Int}
    (found : RedisKey.present keys.daily now = some live)
    (expires : live.expiresAt = some deadline) (waited : keys.counterWait now ≤ seconds)
    (rounded : (deadline - now.millis) % 1000 = 0 ∨ 500 ≤ (deadline - now.millis) % 1000 ∨
      ((deadline - now.millis : Nat) : Int) ≤ 1000 * dayTtl now) :
    ((deadline - now.millis : Nat) : Int) ≤ 1000 * seconds := by
  have ttl : RedisKey.ttl (RedisKey.present keys.daily now) now =
      ((deadline - now.millis + 500) / 1000 : Nat) := by
    rw [RedisKey.ttl, RedisKey.get_present, found]
    simp only [expires]
  rw [QuotaKeys.counterWait, ttl] at waited
  omega

theorem QuotaKeys.rounded_of_covered {live : RedisKey Int} {deadline : Nat}
    (found : RedisKey.present keys.daily now = some live)
    (expires : live.expiresAt = some deadline)
    (covered : ((deadline - now.millis : Nat) : Int) ≤ 1000 * keys.counterWait now) :
    (deadline - now.millis) % 1000 = 0 ∨ 500 ≤ (deadline - now.millis) % 1000 ∨
      ((deadline - now.millis : Nat) : Int) ≤ 1000 * dayTtl now := by
  have ttl : RedisKey.ttl (RedisKey.present keys.daily now) now =
      ((deadline - now.millis + 500) / 1000 : Nat) := by
    rw [RedisKey.ttl, RedisKey.get_present, found]
    simp only [expires]
  have day : 1 ≤ dayTtl now := le_max_left 1 _
  rw [QuotaKeys.counterWait, ttl] at covered
  omega

/-! ## The advice -/

/-- The windows have room for the request. -/
structure WindowLimits.Allows (limits : WindowLimits) (units : Nat) : Prop where
  bucket : ∀ window : BucketWindow, 0 < window.limit limits → units ≤ window.limit limits
  counter : 0 < limits.daily → units ≤ limits.daily

theorem adviceSuffices_of_allowed (allows : limits.Allows units)
    (denied : (readWindows limits units now (keys.present now)).denied limits units = true)
    (allowed : ∀ later, now.after (reportedWait limits units keys now) ≤ later →
      (readWindows limits units later (keys.present later)).denied limits units = false) :
    keys.AdviceSuffices limits units now := by
  have waits := waits_reportedWait denied
  have reopened := allowed _ le_rfl
  rw [← Bool.not_eq_true, denied_iff_refuses, not_or, not_exists] at reopened
  obtain ⟨buckets, counter⟩ := reopened
  constructor
  case buckets =>
    intro window refuses dated
    refine ⟨_, waits, ?_⟩
    by_contra short
    exact buckets window
      ((window.refuses_iff refuses.1 (allows.bucket window refuses.1)).mpr short)
  case counter =>
    intro refuses live found
    rw [QuotaKeys.counterRefuses_later allows.counter (RedisTime.le_after now _)] at counter
    have gone : ∀ left, RedisKey.present keys.daily
        (now.after (reportedWait limits units keys now)) ≠ some left :=
      fun left kept => counter ⟨refuses, left, kept⟩
    obtain ⟨stored, alive⟩ := RedisKey.present_eq_some_iff.mp found
    cases expires : live.expiresAt with
    | none =>
        exact absurd (RedisKey.present_eq_some_iff.mpr
          ⟨stored, fun deadline expires' => by rw [expires] at expires'; cases expires'⟩)
          (gone live)
    | some deadline =>
        refine ⟨deadline, rfl, ?_⟩
        have passed : deadline ≤
            (now.after (reportedWait limits units keys now)).millis := by
          by_contra early
          refine gone live (RedisKey.present_eq_some_iff.mpr ⟨stored, ?_⟩)
          intro other expires'
          rw [expires] at expires'
          cases expires'
          exact not_le.mp early
        rw [RedisTime.millis_after] at passed
        have positive := QuotaKeys.one_le_of_waits waits
        have covered : ((deadline - now.millis : Nat) : Int) ≤
            1000 * reportedWait limits units keys now := by omega
        rcases waits with ⟨window, windowRefuses, same⟩ | ⟨_, same⟩
        · rw [same] at covered
          exact .inr (.inr (.inr ⟨window, windowRefuses, covered⟩))
        · rw [same] at covered
          rcases QuotaKeys.rounded_of_covered found expires covered with whole | half | day
          · exact .inl whole
          · exact .inr (.inl half)
          · exact .inr (.inr (.inl day))

theorem allowed_of_adviceSuffices (allows : limits.Allows units)
    (advice : keys.AdviceSuffices limits units now)
    (ordered : now.after (reportedWait limits units keys now) ≤ later) :
    (readWindows limits units later (keys.present later)).denied limits units = false := by
  have start := (RedisTime.le_after now _).trans ordered
  have reaches {seconds : Int} (waits : keys.Waits limits units now seconds) :
      now.after seconds ≤ later := by
    have longest := le_reportedWait waits
    have earlier : now.after seconds ≤ now.after (reportedWait limits units keys now) :=
      Nat.add_le_add_left (Nat.mul_le_mul_right _ (Int.toNat_le_toNat longest)) now
    exact earlier.trans ordered
  rw [← Bool.not_eq_true, denied_iff_refuses]
  rintro (⟨window, refuses⟩ | refuses)
  · have short := (window.refuses_iff refuses.1 (allows.bucket window refuses.1)).mp refuses
    have shortNow : ¬ window.Refilled limits units keys now :=
      fun refilled => short (window.refilled_mono start refilled)
    have refusesNow :=
      (window.refuses_iff refuses.1 (allows.bucket window refuses.1)).mpr shortNow
    by_cases dated : window.DatedAfter keys now
    · obtain ⟨seconds, waits, refilled⟩ := advice.buckets window refusesNow dated
      exact short (window.refilled_mono (reaches waits) refilled)
    · have refilled := window.refilled_after_wait (allows.bucket window refuses.1)
        refusesNow dated
      exact short (window.refilled_mono (reaches (.inl ⟨window, refusesNow, rfl⟩)) refilled)
  · obtain ⟨refusesNow, live, kept⟩ :=
      (QuotaKeys.counterRefuses_later allows.counter start).mp refuses
    have found := RedisKey.present_of_later start kept
    obtain ⟨deadline, expires, rounded⟩ := advice.counter refusesNow live found
    have alive := (RedisKey.present_eq_some_iff.mp kept).2 deadline expires
    have moved := RedisTime.millis_mono ordered
    rw [RedisTime.millis_after] at moved
    have waited : keys.counterWait now ≤ reportedWait limits units keys now :=
      le_reportedWait (.inr ⟨refusesNow, rfl⟩)
    have covered : ((deadline - now.millis : Nat) : Int) ≤
        1000 * reportedWait limits units keys now := by
      rcases rounded with whole | half | day | ⟨window, windowRefuses, covered⟩
      · exact QuotaKeys.counter_covered found expires waited (.inl whole)
      · exact QuotaKeys.counter_covered found expires waited (.inr (.inl half))
      · exact QuotaKeys.counter_covered found expires waited (.inr (.inr day))
      · have longest := le_reportedWait (.inl ⟨window, windowRefuses, rfl⟩)
        omega
    omega

end Windows

/-! ## Requests -/

namespace AdmissionScripts

/-- A database without the keys whose time is over. -/
def RedisDb.present {Name : Type} (db : RedisDb Name) (now : RedisTime) :
    RedisDb Name where
  hashes := fun name => RedisKey.present (db.hashes name) now
  counters := fun name => RedisKey.present (db.counters name) now
  texts := fun name => RedisKey.present (db.texts name) now

/-- A request of the limiter's client. -/
inductive AdmissionRequest where
  | consume
  | reserveUpload (pathname : Text) (ttlSeconds : Int)
deriving DecidableEq, Repr

section Requests

variable (hashIdentifier : Text → Text) (intOfText : String → Option Int)
  (settings : LimiterSettings) (policy : RateLimitPolicy) (identifier : Text) (units : Int)

/-- A request made at some time. -/
def AdmissionRequest.run (now : RedisTime) (db : RedisDb Text) :
    AdmissionRequest → Except Exn RateLimitDecision × RedisDb Text
  | consume =>
      AdmissionScripts.consume hashIdentifier intOfText settings policy identifier units now
        (db.present now)
  | reserveUpload pathname ttlSeconds =>
      AdmissionScripts.reserveUpload hashIdentifier intOfText settings policy identifier
        pathname ttlSeconds units now (db.present now)

/-- The request is left to the windows: its arguments are valid and it asks for no path
that is reserved already. -/
def AdmissionRequest.Counted (now : RedisTime) (db : RedisDb Text) :
    AdmissionRequest → Prop
  | consume => identifier ≠ []
  | reserveUpload pathname _ =>
      pathname ≠ [] ∧
        RedisKey.present (db.texts (reservationName hashIdentifier identifier pathname))
          now = none

/-- What the windows decide. -/
def windowsDecision (now : RedisTime) (keys : QuotaKeys) : RateLimitDecision :=
  decisionFromResult settings
    (parsedWindows (consumeWindows policy.limits units.toNat now (keys.present now)).1)

variable {hashIdentifier intOfText settings policy identifier units}
  {request : AdmissionRequest} {now later : RedisTime} {db : RedisDb Text}

theorem counted_later (counted : request.Counted hashIdentifier identifier now db) :
    request.Counted hashIdentifier identifier later (db.present now) := by
  cases request with
  | consume => exact counted
  | reserveUpload pathname ttlSeconds =>
      refine ⟨counted.1, ?_⟩
      simp only [RedisDb.present, counted.2]
      rfl

/-- The windows answer a request that is left to them. -/
theorem run_of_counted (configured : settings.configured = true)
    (positive : ¬ units < 1) (counted : request.Counted hashIdentifier identifier now db) :
    (request.run hashIdentifier intOfText settings policy identifier units now db).1 =
      .ok (windowsDecision settings policy units now
        (db.quota (quotaNames hashIdentifier policy.operation identifier))) := by
  cases request with
  | consume =>
      exact congrArg Prod.fst
        (consume_of_configured hashIdentifier intOfText policy identifier now (db.present now)
          configured counted positive)
  | reserveUpload pathname ttlSeconds =>
      have missing : RedisKey.get ((db.present now).texts
          (reservationName hashIdentifier identifier pathname)) now = none := by
        simp only [RedisDb.present, counted.2]
        rfl
      obtain ⟨key, answered, _⟩ := reserveUpload_of_none hashIdentifier intOfText policy
        identifier ttlSeconds now (db.present now) configured counted.1 positive missing
      exact congrArg Prod.fst answered

/-- A refusal of the windows writes nothing. -/
theorem left_of_refused (enforced : settings.mode = .enforce)
    (configured : settings.configured = true) (positive : ¬ units < 1)
    (counted : request.Counted hashIdentifier identifier now db)
    (refused : (windowsDecision settings policy units now
      (db.quota (quotaNames hashIdentifier policy.operation identifier))).allowed = false) :
    (request.run hashIdentifier intOfText settings policy identifier units now db).2 =
      db.present now := by
  have denied : (consumeWindows policy.limits units.toNat now ((db.present now).quota
      (quotaNames hashIdentifier policy.operation identifier))).1.allowed = false := by
    simp only [windowsDecision, decisionFromResult, parsedWindows, enforced,
      reduceCtorEq, decide_false, Bool.or_false] at refused
    exact refused
  cases request with
  | consume =>
      have kept := quota_of_denied policy.limits units.toNat _ denied
      have left := congrArg Prod.snd (consume_of_configured hashIdentifier intOfText policy
        identifier now (db.present now) configured counted positive)
      simp only [kept, RedisDb.withQuota_quota] at left
      exact left
  | reserveUpload pathname ttlSeconds =>
      have missing : RedisKey.get ((db.present now).texts
          (reservationName hashIdentifier identifier pathname)) now = none := by
        simp only [RedisDb.present, counted.2]
        rfl
      have left := congrArg Prod.snd (reserveUpload_of_configured hashIdentifier intOfText
        policy identifier ttlSeconds now (db.present now) configured counted.1 positive)
      simp only [enforced, reduceCtorEq, decide_false,
        reserveUploadScript_of_refused policy.limits units.toNat _ _ missing denied,
        RedisDb.withQuota_quota, RedisDb.withText_self] at left
      exact left

/-- Only the windows deny a request, and only when they are enforced. -/
theorem counted_of_denied {decision : RateLimitDecision}
    (answered : (request.run hashIdentifier intOfText settings policy identifier units now
      db).1 = .ok decision)
    (denied : decision.allowed = false) :
    settings.configured = true ∧ ¬ units < 1 ∧
      request.Counted hashIdentifier identifier now db := by
  by_cases early : units < 1
  · cases request with
    | consume => simp [AdmissionRequest.run, AdmissionScripts.consume, early] at answered
    | reserveUpload pathname ttlSeconds =>
        simp only [AdmissionRequest.run, AdmissionScripts.reserveUpload, early] at answered
        split at answered <;> cases answered
  cases configured : settings.configured with
  | false =>
      cases request with
      | consume =>
          simp only [AdmissionRequest.run, AdmissionScripts.consume, early, configured,
            if_false, Bool.not_false, if_true] at answered
          split at answered
          · cases answered
          · cases answered
            cases denied
      | reserveUpload pathname ttlSeconds =>
          simp only [AdmissionRequest.run, AdmissionScripts.reserveUpload, early, configured,
            if_false, Bool.not_false, if_true] at answered
          split at answered
          · cases answered
          · cases answered
            cases denied
  | true =>
      refine ⟨rfl, early, ?_⟩
      cases request with
      | consume =>
          intro anonymous
          simp [AdmissionRequest.run, AdmissionScripts.consume, early, anonymous] at answered
      | reserveUpload pathname ttlSeconds =>
          have named : pathname ≠ [] := by
            intro missing
            simp [AdmissionRequest.run, AdmissionScripts.reserveUpload, missing] at answered
          refine ⟨named, ?_⟩
          cases found : RedisKey.present
              (db.texts (reservationName hashIdentifier identifier pathname)) now with
          | none => rfl
          | some key =>
              have live : RedisKey.get ((db.present now).texts
                  (reservationName hashIdentifier identifier pathname)) now = some key :=
                RedisKey.get_present.trans found
              have kept := reserveUpload_of_some hashIdentifier intOfText policy identifier
                ttlSeconds now (db.present now) configured named early live
              rw [AdmissionRequest.run, kept] at answered
              cases answered
              cases denied

theorem windowsDecision_denied (settings : LimiterSettings) (policy : RateLimitPolicy)
    (units : Int) (now : RedisTime) (keys : QuotaKeys) :
    (windowsDecision settings policy units now keys).allowed = false ↔
      (readWindows policy.limits units.toNat now (keys.present now)).denied policy.limits
          units.toNat = true ∧ settings.mode = .enforce := by
  have mode : settings.mode = .enforce ↔ ¬ settings.mode = .observe := by
    cases settings.mode <;> simp
  rw [mode]
  by_cases refused : (readWindows policy.limits units.toNat now (keys.present now)).denied
      policy.limits units.toNat = true
  · simp [windowsDecision, consumeWindows, refused, decisionFromResult, parsedWindows,
      deniedReply]
  · simp [windowsDecision, consumeWindows, refused, decisionFromResult, parsedWindows,
      chargedReply]

theorem allows_of_within
    (within : ∀ limit, policy.minuteLimit = some limit ∨ policy.hourlyLimit = some limit ∨
      policy.dailyLimit = some limit → units ≤ limit) :
    policy.limits.Allows units.toNat := by
  have of_limit (configured : Option Nat)
      (bounded : ∀ limit, configured = some limit → units ≤ limit)
      (limited : 0 < configured.getD 0) : units.toNat ≤ configured.getD 0 := by
    cases configured with
    | none => cases limited
    | some limit =>
        have bound := bounded limit rfl
        simp only [Option.getD_some]
        omega
  constructor
  · intro window limited
    cases window with
    | minute => exact of_limit _ (fun limit same => within limit (.inl same)) limited
    | hourly => exact of_limit _ (fun limit same => within limit (.inr (.inl same))) limited
  · exact of_limit _ (fun limit same => within limit (.inr (.inr same)))

/-- The wait that a refusal is answered with. -/
theorem advised_eq {keys : QuotaKeys} {seconds : Int}
    (denied : (readWindows policy.limits units.toNat now (keys.present now)).denied
      policy.limits units.toNat = true)
    (advised : (windowsDecision settings policy units now keys).retryAfterSeconds =
      some seconds) :
    seconds = reportedWait policy.limits units.toNat keys now := by
  have positive := QuotaKeys.one_le_of_waits (waits_reportedWait denied)
  rw [reportedWait] at positive ⊢
  simp only [windowsDecision, consumeWindows, denied, if_true, decisionFromResult,
    parsedWindows, deniedReply] at advised
  split at advised
  · cases advised
  · simp only [Option.some.injEq] at advised
    omega

end Requests

/-- A request within the limits that is denied with a wait is admitted from that wait on,
nothing else being admitted, exactly when the waits of the refusing windows are long
enough. -/
theorem retry_advice (hashIdentifier : Text → Text) (intOfText : String → Option Int)
    (settings : LimiterSettings) (policy : RateLimitPolicy) (identifier : Text)
    (units : Int) (request : AdmissionRequest) (now : RedisTime) (db : RedisDb Text)
    {decision : RateLimitDecision} {seconds : Int}
    (within : ∀ limit, policy.minuteLimit = some limit ∨ policy.hourlyLimit = some limit ∨
      policy.dailyLimit = some limit → units ≤ limit)
    (answered : (request.run hashIdentifier intOfText settings policy identifier units now
      db).1 = .ok decision)
    (denied : decision.allowed = false)
    (advised : decision.retryAfterSeconds = some seconds) :
    (∀ later, now.after seconds ≤ later →
        ∃ again, (request.run hashIdentifier intOfText settings policy identifier units later
            (request.run hashIdentifier intOfText settings policy identifier units now
              db).2).1 = .ok again ∧ again.allowed = true) ↔
      (db.quota (quotaNames hashIdentifier policy.operation identifier)).AdviceSuffices
        policy.limits units.toNat now := by
  let keys := db.quota (quotaNames hashIdentifier policy.operation identifier)
  obtain ⟨configured, positive, counted⟩ := counted_of_denied answered denied
  rw [run_of_counted configured positive counted] at answered
  cases answered
  have refused : (readWindows policy.limits units.toNat now (keys.present now)).denied
      policy.limits units.toNat = true ∧ settings.mode = .enforce :=
    (windowsDecision_denied settings policy units now keys).mp denied
  have seconds_eq : seconds = reportedWait policy.limits units.toNat keys now :=
    advised_eq refused.1 advised
  have allows := allows_of_within within
  rw [left_of_refused refused.2 configured positive counted denied]
  have again (later : RedisTime) (ordered : now.after seconds ≤ later) :
      (∃ again, (request.run hashIdentifier intOfText settings policy identifier units later
          (db.present now)).1 = .ok again ∧ again.allowed = true) ↔
        (readWindows policy.limits units.toNat later (keys.present later)).denied
          policy.limits units.toNat = false := by
    have kept : ((db.present now).quota
        (quotaNames hashIdentifier policy.operation identifier)).present later =
          keys.present later := by
      have start := (RedisTime.le_after now seconds).trans ordered
      simp only [QuotaKeys.present, RedisDb.quota, RedisDb.present, keys,
        RedisKey.present_present start]
    have decided := windowsDecision_denied settings policy units later
      ((db.present now).quota (quotaNames hashIdentifier policy.operation identifier))
    rw [run_of_counted configured positive (counted_later counted)]
    simp only [Except.ok.injEq, exists_eq_left']
    rw [kept] at decided
    simp only [refused.2, and_true] at decided
    rw [← Bool.not_eq_false, decided, Bool.not_eq_true]
  rw [seconds_eq] at again ⊢
  constructor
  · intro allowed
    exact adviceSuffices_of_allowed allows refused.1
      fun later ordered => (again later ordered).mp (allowed later ordered)
  · intro advice later ordered
    exact (again later ordered).mpr (allowed_of_adviceSuffices allows advice ordered)

/-- The reviews of a day are used up, by a counter that started six tenths of a second
after midnight. -/
def exhaustedReviews : RedisDb Text where
  counters := Function.update (fun _ => none) (quotaNames id "review" "a".toList).daily
    (some ⟨20, some 86400600⟩)

/-- A review is asked for. -/
def reviewRun (now : RedisTime) (db : RedisDb Text) :
    Except Exn RateLimitDecision × RedisDb Text :=
  AdmissionRequest.consume.run id (fun _ => none) ⟨.enforce, true⟩ reviewPolicy "a".toList 1
    now db

/-- The windows of a review. -/
def reviewKeys (db : RedisDb Text) : QuotaKeys :=
  db.quota (quotaNames id "review" "a".toList)

theorem review_counted (now : RedisTime) (db : RedisDb Text) :
    AdmissionRequest.consume.Counted id "a".toList now db := by
  simp [AdmissionRequest.Counted]

theorem reviewRun_eq (now : RedisTime) (db : RedisDb Text) :
    (reviewRun now db).1 =
      .ok (windowsDecision ⟨.enforce, true⟩ reviewPolicy 1 now (reviewKeys db)) :=
  run_of_counted rfl (by decide) (review_counted now db)

/-- A review asked for less than ten seconds before midnight is denied with a wait of ten
seconds, and the counter outlives the wait. -/
theorem retry_advice_early :
    (∃ decision, (reviewRun 86390200000 exhaustedReviews).1 = .ok decision ∧
        decision.allowed = false ∧ decision.retryAfterSeconds = some 10) ∧
      ¬ ∀ later, RedisTime.after 86390200000 10 ≤ later →
        ∃ again,
          (reviewRun later (reviewRun 86390200000 exhaustedReviews).2).1 = .ok again ∧
            again.allowed = true := by
  constructor
  · exact ⟨_, reviewRun_eq _ _, by decide +kernel, by decide +kernel⟩
  · intro allowed
    have left : (reviewRun 86390200000 exhaustedReviews).2 =
        exhaustedReviews.present 86390200000 :=
      left_of_refused rfl rfl (by decide) (review_counted _ _) (by decide +kernel)
    obtain ⟨again, same, admitted⟩ := allowed (RedisTime.after 86390200000 10) le_rfl
    rw [left, reviewRun_eq] at same
    cases same
    revert admitted
    decide +kernel

/-- Ten seconds before the counter expires the wait is exact. -/
theorem retry_advice_exact :
    ∃ again, (reviewRun (RedisTime.after 86390600000 10)
        (reviewRun 86390600000 exhaustedReviews).2).1 = .ok again ∧
      again.allowed = true := by
  have allows : ∀ limit : Nat, reviewPolicy.minuteLimit = some limit ∨
      reviewPolicy.hourlyLimit = some limit ∨ reviewPolicy.dailyLimit = some limit →
        (1 : Int) ≤ limit := by
    rintro limit (same | same | same) <;> cases same <;> decide
  refine (retry_advice id (fun _ => none) ⟨.enforce, true⟩ reviewPolicy "a".toList 1 .consume
    86390600000 exhaustedReviews allows (reviewRun_eq _ _) (by decide +kernel)
    (by decide +kernel)).mpr ?_ _ le_rfl
  constructor
  · rintro (_ | _) _ ⟨live, found, _⟩ <;> cases found
  · intro _ live found
    cases found
    exact ⟨86400600, rfl, .inl (by decide)⟩

end AdmissionScripts

end ContractMate
