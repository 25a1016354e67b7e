import ContractMate.UploadReservations

/-!
# Admission bounds

However an account's clients mix calls that consume quota with calls that reserve
uploads, the scripts admit no more units in an interval of time than the token
bucket of each window does, and a bucket whose key expired is one that had
refilled.
-/

namespace ContractMate

open PythonText TokenBucket

/-- The windows that the scripts keep as token buckets. -/
inductive BucketWindow where
  | minute
  | hourly
deriving DecidableEq, Repr

namespace BucketWindow

def limit (limits : WindowLimits) : BucketWindow → Nat
  | .minute => limits.minute
  | .hourly => limits.hourly

def interval : BucketWindow → Nat
  | .minute => minuteInterval
  | .hourly => hourInterval

/-- The seconds after which the scripts let the key of the window expire. -/
def ttlSeconds : BucketWindow → Nat
  | .minute => 120
  | .hourly => 7200

def key (quota : QuotaKeys) : BucketWindow → Option (RedisKey (Bucket ℚ))
  | .minute => quota.minute
  | .hourly => quota.hourly

def shape (limits : WindowLimits) (window : BucketWindow) : Shape ℚ :=
  bucketShape (window.limit limits) window.interval

/-- The tokens that the scripts find in the window. -/
def tokensRead (limits : WindowLimits) (quota : QuotaKeys) (now : RedisTime)
    (window : BucketWindow) : ℚ :=
  (window.shape limits).level
    (storedBucket (window.key quota) (window.limit limits) now) now.seconds

end BucketWindow

section Admissions

variable {Key : Type} [DecidableEq Key] (limits : WindowLimits)
  (reservationKey : Text → Key)

/-- The units that a call is admitted for.  A call for a path that is reserved
already is admitted for none. -/
def LimiterStep.admission? (step : LimiterStep Key) : Option (Charge ℚ) :=
  match step.call, step.result limits reservationKey with
  | .consume units, .windows reply =>
      if reply.allowed then some ⟨step.time.seconds, units.toNat⟩ else none
  | .reserveUpload _ _ units _, .reservation reply =>
      if reply.action = 1 ∧ reply.windows.allowed then
        some ⟨step.time.seconds, units.toNat⟩
      else none
  | _, _ => none

/-- What a run admits. -/
def admissions (steps : List (LimiterStep Key)) : List (Charge ℚ) :=
  steps.filterMap (LimiterStep.admission? limits reservationKey)

/-- The bucket of a window that is full at the beginning, refills continuously and
is charged for what a run admits. -/
def continuousBucket (window : BucketWindow) (steps : List (LimiterStep Key)) :
    Bucket ℚ :=
  (window.shape limits).debits ⟨window.limit limits, 0⟩
    (admissions limits reservationKey steps)

end Admissions

theorem RedisTime.seconds_eq (now : RedisTime) :
    now.seconds = (now : ℚ) / 1000000 := by
  have division : 1000000 * (now / 1000000) + now % 1000000 = now :=
    Nat.div_add_mod now 1000000
  have cast : (1000000 : ℚ) * (now / 1000000 : Nat) + (now % 1000000 : Nat) =
      now := by exact_mod_cast division
  rw [RedisTime.seconds, ← cast]
  ring

theorem RedisTime.seconds_mono {now later : RedisTime} (after : now ≤ later) :
    now.seconds ≤ later.seconds := by
  rw [RedisTime.seconds_eq, RedisTime.seconds_eq]
  have cast : (now : ℚ) ≤ later := by exact_mod_cast after
  linarith

theorem RedisTime.seconds_nonneg (now : RedisTime) : 0 ≤ now.seconds := by
  rw [RedisTime.seconds_eq]
  positivity

/-- A key that is gone was written its whole lifetime ago. -/
theorem seconds_of_expired {now later : RedisTime} {ttlSeconds : Nat}
    (expired : RedisKey.expiry now ttlSeconds < later.millis) :
    now.seconds + ttlSeconds ≤ later.seconds := by
  have micros (first second : Nat)
      (expired : first / 1000 + ttlSeconds * 1000 < second / 1000) :
      first + ttlSeconds * 1000000 ≤ second := by omega
  rw [RedisTime.seconds_eq, RedisTime.seconds_eq]
  have cast : (now : ℚ) + ttlSeconds * 1000000 ≤ later := by
    exact_mod_cast micros now later expired
  linarith

section Window

variable {limits : WindowLimits} {window : BucketWindow} {quota : QuotaKeys}
  {now later : RedisTime} {units : Nat}

theorem window_not_denied (limited : 0 < window.limit limits)
    (admitted :
      (readWindows limits units now quota).denied limits units = false) :
    (units : ℚ) ≤
      window.tokensRead limits quota now + (window.shape limits).tolerance := by
  simp only [WindowsReading.denied, Bool.or_eq_false_iff] at admitted
  obtain ⟨⟨minute, hourly⟩, _⟩ := admitted
  cases window with
  | minute =>
      have positive : limits.minute ≠ 0 := Nat.pos_iff_ne_zero.mp limited
      simp only [readWindows, readBucket, positive, if_false, Bool.and_eq_false_iff,
        decide_eq_false_iff_not, not_lt] at minute
      exact minute.resolve_left (by simpa using positive)
  | hourly =>
      have positive : limits.hourly ≠ 0 := Nat.pos_iff_ne_zero.mp limited
      simp only [readWindows, readBucket, positive, if_false, Bool.and_eq_false_iff,
        decide_eq_false_iff_not, not_lt] at hourly
      exact hourly.resolve_left (by simpa using positive)

/-- A check passes exactly if every window that has a limit has the units. -/
theorem denied_eq_false_iff :
    (readWindows limits units now quota).denied limits units = false ↔
      (∀ window : BucketWindow, 0 < window.limit limits →
        (units : ℚ) ≤ window.tokensRead limits quota now +
          (window.shape limits).tolerance) ∧
      (0 < limits.daily → dailyUsed quota now + units ≤ limits.daily) := by
  constructor
  · intro admitted
    refine ⟨fun window limited => window_not_denied limited admitted, ?_⟩
    intro limited
    simp only [WindowsReading.denied, Bool.or_eq_false_iff] at admitted
    have daily := admitted.2
    simp only [Bool.and_eq_false_iff, decide_eq_false_iff_not, not_lt] at daily
    exact daily.resolve_left (by omega)
  · rintro ⟨buckets, daily⟩
    have minute := buckets .minute
    have hourly := buckets .hourly
    simp only [WindowsReading.denied, Bool.or_eq_false_iff, Bool.and_eq_false_iff,
      decide_eq_false_iff_not, not_lt, readWindows, readBucket]
    refine ⟨⟨?_, ?_⟩, ?_⟩
    · by_cases limited : 0 < limits.minute
      · right
        rw [if_neg (Nat.pos_iff_ne_zero.mp limited)]
        exact minute limited
      · exact .inl (Nat.le_of_not_lt limited)
    · by_cases limited : 0 < limits.hourly
      · right
        rw [if_neg (Nat.pos_iff_ne_zero.mp limited)]
        exact hourly limited
      · exact .inl (Nat.le_of_not_lt limited)
    · by_cases limited : 0 < limits.daily
      · exact .inr (daily limited)
      · exact .inl (Nat.le_of_not_lt limited)

theorem window_key_chargeWindows (limited : 0 < window.limit limits) :
    window.key (chargeWindows limits units now
        (readWindows limits units now quota) quota) =
      some { value := ⟨window.tokensRead limits quota now - units, now.seconds⟩
             expiresAt := some (RedisKey.expiry now window.ttlSeconds) } := by
  cases window with
  | minute =>
      have positive : limits.minute ≠ 0 := Nat.pos_iff_ne_zero.mp limited
      have limited : 0 < limits.minute := limited
      simp only [BucketWindow.key, chargeWindows, chargeBucket, limited, if_true,
        readWindows, readBucket, positive, if_false]
      rfl
  | hourly =>
      have positive : limits.hourly ≠ 0 := Nat.pos_iff_ne_zero.mp limited
      have limited : 0 < limits.hourly := limited
      simp only [BucketWindow.key, chargeWindows, chargeBucket, limited, if_true,
        readWindows, readBucket, positive, if_false]
      rfl

/-- While its key lives, a bucket refills to its capacity. -/
theorem capacity_le_refill (limited : 0 < window.limit limits) :
    (window.limit limits : ℚ) + admissionTolerance ≤
      window.ttlSeconds * (window.shape limits).rate := by
  have positive : (1 : ℚ) ≤ window.limit limits := by exact_mod_cast limited
  cases window with
  | minute =>
      norm_num [BucketWindow.ttlSeconds, BucketWindow.shape, bucketShape,
        BucketWindow.interval, minuteInterval, admissionTolerance]
      linarith
  | hourly =>
      norm_num [BucketWindow.ttlSeconds, BucketWindow.shape, bucketShape,
        BucketWindow.interval, hourInterval, admissionTolerance]
      linarith

end Window

section Steps

variable {Key : Type} [DecidableEq Key] {limits : WindowLimits}
  {reservationKey : Text → Key}

variable (limits reservationKey) in
/-- A call charges the quota that it is admitted for, or leaves it alone. -/
theorem LimiterStep.quota_effect (step : LimiterStep Key) :
    (step.admission? limits reservationKey = none ∧
        (step.after limits reservationKey).quota = step.before.quota) ∨
      ∃ units : Nat,
        step.admission? limits reservationKey =
            some ⟨step.time.seconds, units⟩ ∧
          (readWindows limits units step.time step.before.quota).denied limits
            units = false ∧
          (step.after limits reservationKey).quota =
            chargeWindows limits units step.time
              (readWindows limits units step.time step.before.quota)
              step.before.quota := by
  obtain ⟨time, call, before⟩ := step
  cases call with
  | consume units =>
      by_cases invalid : units < 1
      · left
        simp [admission?, result, after, LimiterCall.run, invalid]
      · cases denied : (readWindows limits units.toNat time before.quota).denied
          limits units.toNat with
        | true =>
            left
            simp [admission?, result, after, LimiterCall.run, invalid,
              consumeWindows, denied, deniedReply]
        | false =>
            right
            refine ⟨units.toNat, ?_, denied, ?_⟩
            · simp [admission?, result, LimiterCall.run, invalid, consumeWindows,
                denied, chargedReply]
            · simp [after, LimiterCall.run, invalid, consumeWindows, denied]
  | reserveUpload pathname ttlSeconds units observe =>
      by_cases invalid : pathname = [] ∨ units < 1
      · left
        simp [admission?, result, after, LimiterCall.run, invalid]
      · cases found : RedisKey.get (before.reservations (reservationKey pathname))
          time with
        | some live =>
            left
            simp [admission?, result, after, LimiterCall.run, invalid,
              reserveUploadScript, found, alreadyReservedReply]
        | none =>
            cases denied :
              (readWindows limits units.toNat time before.quota).denied limits
                units.toNat with
            | true =>
                left
                cases observe with
                | true | false =>
                    simp [admission?, result, after, LimiterCall.run, invalid,
                      reserveUploadScript, found, denied, deniedReply]
            | false =>
                right
                refine ⟨units.toNat, ?_, denied, ?_⟩
                · simp [admission?, result, LimiterCall.run, invalid,
                    reserveUploadScript, found, denied, reservedReply,
                    chargedReply]
                · simp [after, LimiterCall.run, invalid, reserveUploadScript,
                    found, denied]
  | acquireUploadReservation pathname leaseSeconds leaseId =>
      left
      by_cases empty : pathname = []
      · simp [admission?, after, LimiterCall.run, empty]
      · by_cases short : leaseSeconds < 1
        · simp [admission?, after, LimiterCall.run, empty, short]
        · simp [admission?, after, LimiterCall.run, empty, short]
  | finalizeUploadReservation pathname leaseId state =>
      left
      simp [admission?, after, LimiterCall.run]

variable (limits) in
/-- The window's key and a bucket that never expires agree from some time on. -/
structure Tracks (window : BucketWindow) (quota : QuotaKeys) (bucket : Bucket ℚ)
    (clock : RedisTime) : Prop where
  sound : Sound (window.shape limits) bucket
  updated : bucket.updatedAt ≤ clock.seconds
  agree : ∀ later : RedisTime, clock ≤ later →
    window.tokensRead limits quota later =
      (window.shape limits).level bucket later.seconds

variable {window : BucketWindow} {quota : QuotaKeys} {bucket : Bucket ℚ}
  {clock now : RedisTime} {units : Nat}

theorem Tracks.start (limited : 0 < window.limit limits) :
    Tracks limits window {} ⟨window.limit limits, 0⟩ clock where
  sound :=
    { rate := by
        simp only [BucketWindow.shape, bucketShape]
        positivity
      tolerance := by norm_num [BucketWindow.shape, bucketShape,
        admissionTolerance]
      capacity := by simp [BucketWindow.shape, bucketShape]
      tokens := by
        have capacity : (0 : ℚ) ≤ window.limit limits := Nat.cast_nonneg _
        norm_num [BucketWindow.shape, bucketShape, admissionTolerance]
        linarith }
  updated := clock.seconds_nonneg
  agree := by
    intro later _
    have refill : (0 : ℚ) ≤ later.seconds * (window.shape limits).rate := by
      have time := later.seconds_nonneg
      simp only [BucketWindow.shape, bucketShape]
      positivity
    have missing : window.key ({} : QuotaKeys) = none := by cases window <;> rfl
    rw [level_of_updated later.seconds_nonneg]
    simp only [BucketWindow.tokensRead, storedBucket, RedisKey.get, missing,
      Option.filter_none, Shape.level, min_self, sub_self, zero_mul, add_zero,
      sub_zero]
    have capacity : (window.shape limits).capacity = window.limit limits := rfl
    rw [capacity, min_self, min_eq_left (le_add_of_nonneg_right refill)]

theorem Tracks.mono (tracks : Tracks limits window quota bucket clock)
    (after : clock ≤ now) : Tracks limits window quota bucket now where
  sound := tracks.sound
  updated := tracks.updated.trans (RedisTime.seconds_mono after)
  agree := fun later ordered => tracks.agree later (after.trans ordered)

/-- What the charged key holds later is what the charged bucket holds. -/
theorem Tracks.charge (tracks : Tracks limits window quota bucket clock)
    (limited : 0 < window.limit limits)
    (admitted :
      (readWindows limits units clock quota).denied limits units = false) :
    Tracks limits window
      (chargeWindows limits units clock (readWindows limits units clock quota)
        quota)
      ((window.shape limits).debit bucket ⟨clock.seconds, units⟩) clock where
  sound := by
    apply tracks.sound.debit
    rw [← tracks.agree clock le_rfl]
    exact window_not_denied limited admitted
  updated := le_rfl
  agree := by
    intro later after
    have tokens := tracks.agree clock le_rfl
    have paid := window_not_denied limited admitted
    have ordered := RedisTime.seconds_mono after
    rw [BucketWindow.tokensRead, window_key_chargeWindows limited, tokens]
    rcases le_or_gt later.millis (RedisKey.expiry clock window.ttlSeconds) with
      alive | gone
    · rw [storedBucket, RedisKey.get_of_le _ alive]
      rfl
    · -- The key is gone, and the charged bucket is full again.
      have missing : storedBucket
          (some ⟨⟨(window.shape limits).level bucket clock.seconds - units,
            clock.seconds⟩, some (RedisKey.expiry clock window.ttlSeconds)⟩)
          (window.limit limits) later =
          ⟨window.limit limits, later.seconds⟩ := by
        rw [storedBucket, RedisKey.get_eq_none_iff.mpr gone]
      have waited := seconds_of_expired gone
      have refill := capacity_le_refill limited
      have tolerance : (window.shape limits).tolerance = admissionTolerance := rfl
      have capacity : (window.shape limits).capacity = window.limit limits := rfl
      have rate := tracks.sound.rate
      have refilled : (window.ttlSeconds : ℚ) * (window.shape limits).rate ≤
          (later.seconds - clock.seconds) * (window.shape limits).rate :=
        mul_le_mul_of_nonneg_right (by linarith) rate
      rw [missing, level_of_updated le_rfl, level_of_updated
        (show ((window.shape limits).debit bucket
          ⟨clock.seconds, units⟩).updatedAt ≤ later.seconds from ordered)]
      simp only [Shape.debit, sub_self, zero_mul, add_zero, capacity, min_self]
      rw [tokens] at paid
      rw [min_eq_left]
      linarith

/-- A run charges the continuous bucket of a window for all that it admits. -/
theorem LimiterRun.tracks {steps : List (LimiterStep Key)}
    {store : UploadStore Key} (run : LimiterRun limits reservationKey steps store)
    (limited : 0 < window.limit limits) :
    (window.shape limits).Admits ⟨window.limit limits, 0⟩
        (admissions limits reservationKey steps) ∧
      ∀ now : RedisTime, (∀ earlier ∈ steps, earlier.time ≤ now) →
        Tracks limits window store.quota
          (continuousBucket limits reservationKey window steps) now := by
  induction run with
  | start => exact ⟨trivial, fun now _ => Tracks.start limited⟩
  | @step steps store time call run ordered induction =>
      obtain ⟨admits, tracks⟩ := induction
      have before := tracks time ordered
      rcases LimiterStep.quota_effect limits reservationKey
        ⟨time, call, store⟩ with
        ⟨silent, kept⟩ | ⟨units, admission, admitted, charged⟩
      · have same : admissions limits reservationKey
            (steps ++ [⟨time, call, store⟩]) =
            admissions limits reservationKey steps := by
          simp [admissions, List.filterMap_append, silent]
        rw [continuousBucket, same, kept]
        refine ⟨admits, ?_⟩
        intro now later
        exact before.mono (later ⟨time, call, store⟩ (by simp))
      · have appended : admissions limits reservationKey
            (steps ++ [⟨time, call, store⟩]) =
            admissions limits reservationKey steps ++
              [⟨time.seconds, units⟩] := by
          simp [admissions, List.filterMap_append, admission]
        rw [continuousBucket, appended, debits_append, charged]
        constructor
        · rw [admits_append]
          refine ⟨admits, before.updated, ?_, trivial⟩
          rw [← continuousBucket, ← before.agree time le_rfl]
          exact window_not_denied limited admitted
        · intro now later
          exact (before.charge limited admitted).mono
            (later ⟨time, call, store⟩ (by simp))

theorem admission_units_nonneg {steps : List (LimiterStep Key)}
    {charge : Charge ℚ}
    (member : charge ∈ admissions limits reservationKey steps) :
    0 ≤ charge.units := by
  obtain ⟨step, _, admission⟩ := List.mem_filterMap.mp member
  rcases step.quota_effect limits reservationKey with ⟨silent, _⟩ | ⟨units, admitted, _⟩
  · rw [silent] at admission
    cases admission
  · rw [admitted] at admission
    rw [← Option.some.inj admission]
    exact Nat.cast_nonneg units

/-- A run admits in any interval at most the limit of a window, its refill and the
tolerance; what the scripts find in the window is a bucket that refills
continuously; and a call that admits nothing leaves the quota alone. -/
theorem admission_bounded (limits : WindowLimits) (reservationKey : Text → Key)
    (window : BucketWindow) (limited : 0 < window.limit limits)
    {steps : List (LimiterStep Key)} {store : UploadStore Key}
    (run : LimiterRun limits reservationKey steps store) :
    (∀ start stop : ℚ, start ≤ stop →
        spent (admissions limits reservationKey steps) start stop ≤
          window.limit limits +
            (stop - start) * window.limit limits / window.interval +
              1 / 1000000) ∧
      (∀ now : RedisTime, (∀ earlier ∈ steps, earlier.time ≤ now) →
        window.tokensRead limits store.quota now =
          (window.shape limits).level
            (continuousBucket limits reservationKey window steps) now.seconds) ∧
      ∀ step ∈ steps, step.admission? limits reservationKey = none →
        (step.after limits reservationKey).quota = step.before.quota := by
  obtain ⟨admits, tracks⟩ := run.tracks limited
  refine ⟨?_, ?_, ?_⟩
  · intro start stop ordered
    have full : Tracks limits window {} ⟨window.limit limits, 0⟩ 0 :=
      Tracks.start limited
    have bound := spent_le full.sound (fun charge => admission_units_nonneg) admits
      ordered
    rw [mul_div_assoc]
    exact bound
  · intro now ordered
    exact (tracks now ordered).agree now le_rfl
  · intro step _ silent
    rcases step.quota_effect limits reservationKey with ⟨_, kept⟩ | ⟨units, admitted, _⟩
    · exact kept
    · rw [silent] at admitted
      cases admitted

/-- The two units of a minute are consumed at once and one more is refused ten seconds
later; half a minute brings back a unit, and so does the next. -/
def refillSteps : List (LimiterStep Text) :=
  let consumed : LimiterStep Text := ⟨0, .consume 2, {}⟩
  let refused : LimiterStep Text := ⟨10000000, .consume 1, consumed.after ⟨2, 0, 0⟩ id⟩
  let refilled : LimiterStep Text := ⟨30000000, .consume 1, refused.after ⟨2, 0, 0⟩ id⟩
  [consumed, refused, refilled,
    ⟨60000000, .reserveUpload "lease".toList 900 1 false, refilled.after ⟨2, 0, 0⟩ id⟩]

theorem admission_bounded_sample :
    admissions ⟨2, 0, 0⟩ (id : Text → Text) refillSteps = [⟨0, 2⟩, ⟨30, 1⟩, ⟨60, 1⟩] ∧
      spent (admissions ⟨2, 0, 0⟩ (id : Text → Text) refillSteps) 0 60 ≤
        ((2 : Nat) : ℚ) + (60 - 0) * (2 : Nat) / (60 : Nat) + 1 / 1000000 ∧
      ∀ step ∈ refillSteps, step.admission? ⟨2, 0, 0⟩ id = none →
        (step.after ⟨2, 0, 0⟩ id).quota = step.before.quota := by
  have run : LimiterRun ⟨2, 0, 0⟩ id refillSteps _ :=
    .step 60000000 (.reserveUpload "lease".toList 900 1 false)
      (.step 30000000 (.consume 1)
        (.step 10000000 (.consume 1) (.step 0 (.consume 2) .start (by simp)) (by simp))
        (by simp)) (by simp)
  obtain ⟨bounded, _, kept⟩ := admission_bounded ⟨2, 0, 0⟩ id .minute (by decide) run
  exact ⟨by decide +kernel, bounded 0 60 (by norm_num), kept⟩

end Steps

end ContractMate
