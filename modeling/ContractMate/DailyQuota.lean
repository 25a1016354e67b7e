import ContractMate.AdmissionBounds
import ContractMate.RateLimitDecisions
import ContractMate.RunHistory

/-!
# The daily quota

The scripts let the daily counter expire a whole number of seconds after it starts,
and so up to a second after midnight.  While no call meets a counter of the day
before, the units admitted on a UTC day stay within the daily limit, and only a
request beyond it is refused for it.
-/

namespace ContractMate

open PythonText TokenBucket

namespace RedisTime

/-- The UTC day of an instant. -/
def utcDay (now : RedisTime) : Nat :=
  now / 86400000000

/-- The first millisecond of a UTC day. -/
def dayStart (day : Nat) : Nat :=
  day * 86400000

theorem utcDay_mono {now later : RedisTime} (after : now ≤ later) :
    now.utcDay ≤ later.utcDay :=
  Nat.div_le_div_right after

/-- Days, whole seconds and microseconds of an instant. -/
theorem split_day (now : Nat) :
    ∃ day whole part : Nat, whole < 86400 ∧ part < 1000000 ∧
      now = 86400000000 * day + (1000000 * whole + part) :=
  ⟨now / 86400000000, now % 86400000000 / 1000000, now % 1000000,
    by omega, by omega, by omega⟩

/-- The seconds to midnight, rounded up. -/
theorem dayTtl_split {day whole part : Nat} (early : whole < 86400)
    (small : part < 1000000) :
    dayTtl (86400000000 * day + (1000000 * whole + part)) = 86400 - (whole : Int) := by
  have seconds : RedisTime.seconds (86400000000 * day + (1000000 * whole + part)) =
      86400 * (day : ℚ) + (whole + (part : ℚ) / 1000000) := by
    rw [RedisTime.seconds_eq]
    push_cast
    ring
  have fraction : (part : ℚ) / 1000000 < 1 := by
    rw [div_lt_one (by norm_num)]
    exact_mod_cast small
  have positive : (0 : ℚ) ≤ (part : ℚ) / 1000000 := by positivity
  have below : (whole : ℚ) + 1 ≤ 86400 := by exact_mod_cast early
  have nonneg : (0 : ℚ) ≤ whole := Nat.cast_nonneg whole
  have floor : ⌊RedisTime.seconds
      (86400000000 * day + (1000000 * whole + part)) / 86400⌋ = (day : Int) := by
    rw [Int.floor_eq_iff, seconds, Int.cast_natCast]
    constructor
    · rw [le_div_iff₀ (by norm_num)]
      linarith
    · rw [div_lt_iff₀ (by norm_num)]
      linarith
  have ceiling : ⌈86400 - ((whole : ℚ) + (part : ℚ) / 1000000)⌉ =
      86400 - (whole : Int) := by
    rw [Int.ceil_eq_iff]
    push_cast
    constructor <;> linarith
  have left : 86400 - (86400 * (day : ℚ) + (whole + (part : ℚ) / 1000000) -
      86400 * ((day : Int) : ℚ)) = 86400 - ((whole : ℚ) + (part : ℚ) / 1000000) := by
    push_cast
    ring
  rw [dayTtl, floor, seconds, left, ceiling]
  omega

/-- A counter that starts at some instant expires within the second after the next
midnight. -/
theorem expiry_dayTtl (now : RedisTime) :
    dayStart (now.utcDay + 1) ≤ RedisKey.expiry now (dayTtl now).toNat ∧
      RedisKey.expiry now (dayTtl now).toNat < dayStart (now.utcDay + 1) + 1000 := by
  obtain ⟨day, whole, part, early, small, rfl⟩ := split_day now
  rw [dayTtl_split early small]
  simp only [dayStart, utcDay, RedisKey.expiry, millis]
  omega

end RedisTime

/-! ## What a day admits -/

/-- The units that a call asks for. -/
def LimiterCall.units : LimiterCall → Int
  | consume units => units
  | reserveUpload _ _ units _ => units
  | acquireUploadReservation _ _ _ | finalizeUploadReservation _ _ _ => 0

section Days

variable {Key : Type} [DecidableEq Key] (limits : WindowLimits)
  (reservationKey : Text → Key)

/-- The units that some steps admit on a UTC day. -/
def admittedOn (steps : List (LimiterStep Key)) (day : Nat) : ℚ :=
  ((admissions limits reservationKey
    (steps.filter fun step => step.time.utcDay = day)).map Charge.units).sum

/-- A request is refused on account of the daily limit. -/
def LimiterStep.dailyDenied (step : LimiterStep Key) : Bool :=
  match step.call, step.result limits reservationKey with
  | .consume _, .windows reply => !reply.allowed && 0 < reply.dailyRetry
  | .reserveUpload _ _ _ false, .reservation reply =>
      !reply.windows.allowed && 0 < reply.windows.dailyRetry
  | _, _ => false

/-- The daily quota as a cap on UTC days. -/
structure CapsDays (steps : List (LimiterStep Key)) : Prop where
  capped : ∀ day, admittedOn limits reservationKey steps day ≤ limits.daily
  refused : ∀ i step, steps[i]? = some step →
    step.dailyDenied limits reservationKey = true →
    (limits.daily : ℚ) < step.call.units +
      admittedOn limits reservationKey (steps.take i) step.time.utcDay

omit [DecidableEq Key] in
/-- The script of a valid `consume` reads the daily counter, and so does that of a valid
`reserve_upload` whose path is not reserved yet. -/
def LimiterStep.readsCounter (step : LimiterStep Key) : Bool :=
  match step.call with
  | .consume units => 1 ≤ units
  | .reserveUpload pathname _ units _ =>
      pathname ≠ [] && 1 ≤ units &&
        (RedisKey.get (step.before.reservations (reservationKey pathname))
          step.time).isNone
  | .acquireUploadReservation _ _ _ | .finalizeUploadReservation _ _ _ => false

omit [DecidableEq Key] in
/-- A call that reads the counter meets none of an earlier day: what counter it meets
expires on a later day. -/
def LimiterStep.MeetsOwnDay (step : LimiterStep Key) : Prop :=
  step.readsCounter reservationKey = true →
    ∀ live ∈ RedisKey.get step.before.quota.daily step.time,
      ∀ deadline ∈ live.expiresAt, RedisTime.dayStart (step.time.utcDay + 1) ≤ deadline

omit [DecidableEq Key] in
instance (step : LimiterStep Key) : Decidable (step.MeetsOwnDay reservationKey) :=
  inferInstanceAs (Decidable (_ → _))

/-- The daily key counts what was admitted on the day of its start, which is the
last day on which anything was admitted. -/
structure CountsDay (steps : List (LimiterStep Key)) (quota : QuotaKeys) : Prop where
  capped : ∀ day, admittedOn limits reservationKey steps day ≤ limits.daily
  unused : quota.daily = none → ∀ day, admittedOn limits reservationKey steps day = 0
  counted : ∀ key, quota.daily = some key → ∃ day deadline,
    key.expiresAt = some deadline ∧
    RedisTime.dayStart (day + 1) ≤ deadline ∧
    deadline < RedisTime.dayStart (day + 1) + 1000 ∧
    0 < key.value ∧ admittedOn limits reservationKey steps day = key.value ∧
    (∃ step ∈ steps, step.time.utcDay = day) ∧
    ∀ later, day < later → admittedOn limits reservationKey steps later = 0

variable {limits reservationKey} {steps : List (LimiterStep Key)}
  {step : LimiterStep Key} {day units : Nat}

theorem admittedOn_silent (silent : step.admission? limits reservationKey = none) :
    admittedOn limits reservationKey (steps ++ [step]) day =
      admittedOn limits reservationKey steps day := by
  by_cases same : step.time.utcDay = day
  · simp [admittedOn, admissions, List.filter_append, List.filterMap_append, same,
      silent]
  · simp [admittedOn, List.filter_append, same]

theorem admittedOn_admitted
    (admitted : step.admission? limits reservationKey =
      some ⟨step.time.seconds, units⟩) :
    admittedOn limits reservationKey (steps ++ [step]) day =
      admittedOn limits reservationKey steps day +
        if step.time.utcDay = day then (units : ℚ) else 0 := by
  by_cases same : step.time.utcDay = day
  · simp [admittedOn, admissions, List.filter_append, List.filterMap_append, same,
      admitted]
  · simp [admittedOn, List.filter_append, same]

/-- Only calls that read the counter are admitted. -/
theorem admission_reads
    (admitted : step.admission? limits reservationKey =
      some ⟨step.time.seconds, units⟩) :
    step.readsCounter reservationKey = true ∧ 0 < units := by
  obtain ⟨time, call, before⟩ := step
  cases call with
  | consume asked =>
      by_cases invalid : asked < 1
      · simp [LimiterStep.admission?, LimiterStep.result, LimiterCall.run, invalid]
          at admitted
      · simp only [LimiterStep.admission?, LimiterStep.result, LimiterCall.run,
          invalid, if_false, Option.ite_none_right_eq_some, Option.some.injEq,
          Charge.mk.injEq, Nat.cast_inj] at admitted
        simp only [LimiterStep.readsCounter, decide_eq_true_eq]
        omega
  | reserveUpload pathname ttlSeconds asked observe =>
      by_cases invalid : pathname = [] ∨ asked < 1
      · simp [LimiterStep.admission?, LimiterStep.result, LimiterCall.run, invalid]
          at admitted
      · cases found : RedisKey.get (before.reservations (reservationKey pathname)) time with
        | some live =>
            simp [LimiterStep.admission?, LimiterStep.result, LimiterCall.run, invalid,
              reserveUploadScript, found, alreadyReservedReply] at admitted
        | none =>
            simp only [LimiterStep.admission?, LimiterStep.result, LimiterCall.run,
              invalid, if_false, Option.ite_none_right_eq_some, Option.some.injEq,
              Charge.mk.injEq, Nat.cast_inj] at admitted
            obtain ⟨named, positive⟩ := not_or.mp invalid
            simp only [LimiterStep.readsCounter, found, Option.isNone_none, ne_eq, named,
              not_false_eq_true, decide_true, Bool.true_and, Bool.and_true,
              decide_eq_true_eq]
            omega
  | acquireUploadReservation pathname leaseSeconds leaseId =>
      simp [LimiterStep.admission?] at admitted
  | finalizeUploadReservation pathname leaseId state =>
      simp [LimiterStep.admission?] at admitted

theorem dailyRetry_pos {now : RedisTime} {quota : QuotaKeys}
    (waits : 0 < (readWindows limits units now quota).dailyRetry) :
    (limits.daily : Int) < dailyUsed quota now + units := by
  simp only [readWindows] at waits
  split_ifs at waits with beyond
  · exact beyond.2
  · omega

/-- A request that the daily limit refuses finds too much used. -/
theorem used_of_dailyDenied
    (denied : step.dailyDenied limits reservationKey = true) :
    step.readsCounter reservationKey = true ∧
      (limits.daily : Int) < dailyUsed step.before.quota step.time + step.call.units := by
  obtain ⟨time, call, before⟩ := step
  cases call with
  | consume asked =>
      by_cases invalid : asked < 1
      · simp [LimiterStep.dailyDenied, LimiterStep.result, LimiterCall.run, invalid]
          at denied
      · cases refused : (readWindows limits asked.toNat time before.quota).denied
          limits asked.toNat with
        | false =>
            simp [LimiterStep.dailyDenied, LimiterStep.result, LimiterCall.run, invalid,
              consumeWindows, refused, chargedReply] at denied
        | true =>
            simp only [LimiterStep.dailyDenied, LimiterStep.result, LimiterCall.run,
              invalid, if_false, consumeWindows, refused, if_true, deniedReply,
              Bool.not_false, Bool.true_and, decide_eq_true_eq] at denied
            have beyond := dailyRetry_pos denied
            simp only [LimiterStep.readsCounter, LimiterCall.units, decide_eq_true_eq]
            omega
  | reserveUpload pathname ttlSeconds asked observe =>
      by_cases invalid : pathname = [] ∨ asked < 1
      · cases observe <;>
          simp [LimiterStep.dailyDenied, LimiterStep.result, LimiterCall.run, invalid]
            at denied
      · cases observe with
        | true => simp [LimiterStep.dailyDenied] at denied
        | false =>
            cases found : RedisKey.get
              (before.reservations (reservationKey pathname)) time with
            | some live =>
                simp [LimiterStep.dailyDenied, LimiterStep.result, LimiterCall.run,
                  invalid, reserveUploadScript, found, alreadyReservedReply] at denied
            | none =>
                cases refused :
                  (readWindows limits asked.toNat time before.quota).denied limits
                    asked.toNat with
                | false =>
                    simp [LimiterStep.dailyDenied, LimiterStep.result,
                      LimiterCall.run, invalid, reserveUploadScript, found, refused,
                      reservedReply, chargedReply] at denied
                | true =>
                    simp only [LimiterStep.dailyDenied, LimiterStep.result,
                      LimiterCall.run, invalid, if_false, reserveUploadScript, found,
                      refused, Bool.not_false, Bool.and_self, if_true, deniedReply,
                      Bool.true_and, decide_eq_true_eq] at denied
                    have beyond := dailyRetry_pos denied
                    obtain ⟨named, positive⟩ := not_or.mp invalid
                    simp only [LimiterStep.readsCounter, LimiterCall.units, found,
                      Option.isNone_none, ne_eq, named, not_false_eq_true, decide_true,
                      Bool.true_and, Bool.and_true, decide_eq_true_eq]
                    omega
  | acquireUploadReservation pathname leaseSeconds leaseId =>
      simp [LimiterStep.dailyDenied] at denied
  | finalizeUploadReservation pathname leaseId state =>
      simp [LimiterStep.dailyDenied] at denied

theorem admittedOn_nil : admittedOn limits reservationKey [] day = 0 := by
  simp [admittedOn, admissions]

theorem admittedOn_nonneg (steps : List (LimiterStep Key)) (day : Nat) :
    0 ≤ admittedOn limits reservationKey steps day := by
  apply List.sum_nonneg
  intro units member
  obtain ⟨charge, admitted, rfl⟩ := List.mem_map.mp member
  exact admission_units_nonneg admitted

/-- Nothing is admitted on a day that no step has reached. -/
theorem admittedOn_eq_zero (before : ∀ step ∈ steps, step.time.utcDay ≠ day) :
    admittedOn limits reservationKey steps day = 0 := by
  have none : steps.filter (fun step => step.time.utcDay = day) = [] := by
    simpa using before
  simp [admittedOn, none, admissions]

/-- A counter that a request of its own day meets. -/
theorem CountsDay.live (counts : CountsDay limits reservationKey steps step.before.quota)
    (ordered : ∀ earlier ∈ steps, earlier.time ≤ step.time)
    (reads : step.readsCounter reservationKey = true)
    (own : step.MeetsOwnDay reservationKey) {key : RedisKey Int}
    (found : RedisKey.get step.before.quota.daily step.time = some key) :
    ∃ deadline, key.expiresAt = some deadline ∧
      RedisTime.dayStart (step.time.utcDay + 1) ≤ deadline ∧
      deadline < RedisTime.dayStart (step.time.utcDay + 1) + 1000 ∧ 0 < key.value ∧
      admittedOn limits reservationKey steps step.time.utcDay = key.value := by
  obtain ⟨stored, _⟩ := RedisKey.get_eq_some_iff.mp found
  obtain ⟨day, deadline, expires, after, soon, positive, counted,
    ⟨earlier, member, started⟩, _⟩ := counts.counted key stored
  have reached : day ≤ step.time.utcDay :=
    started ▸ RedisTime.utcDay_mono (ordered earlier member)
  have ends := own reads key found deadline expires
  have same : day = step.time.utcDay := by
    simp only [RedisTime.dayStart] at ends soon
    omega
  subst same
  exact ⟨deadline, expires, after, soon, positive, counted⟩

/-- What a request of the counter's own day reads is what that day admitted. -/
theorem CountsDay.used (counts : CountsDay limits reservationKey steps step.before.quota)
    (ordered : ∀ earlier ∈ steps, earlier.time ≤ step.time)
    (reads : step.readsCounter reservationKey = true)
    (own : step.MeetsOwnDay reservationKey) :
    (dailyUsed step.before.quota step.time : ℚ) =
      admittedOn limits reservationKey steps step.time.utcDay := by
  cases found : RedisKey.get step.before.quota.daily step.time with
  | some key =>
      obtain ⟨_, _, _, _, _, counted⟩ := counts.live ordered reads own found
      simp [dailyUsed, found, counted]
  | none =>
      have nothing : dailyUsed step.before.quota step.time = 0 := by
        simp [dailyUsed, found]
      rw [nothing, Int.cast_zero]
      cases stored : step.before.quota.daily with
      | none => exact (counts.unused stored _).symm
      | some key =>
          obtain ⟨day, deadline, expires, after, _, _, _, _, later⟩ :=
            counts.counted key stored
          obtain ⟨value, expiresAt⟩ := key
          obtain rfl : expiresAt = some deadline := expires
          rw [stored, RedisKey.get_eq_none_iff] at found
          -- The counter is gone, and so its day is over.
          have past : day < step.time.utcDay := by
            simp only [RedisTime.dayStart, RedisTime.millis, RedisTime.utcDay] at *
            omega
          exact (later _ past).symm

/-- A charged counter counts the day of the charge. -/
theorem CountsDay.charge
    (counts : CountsDay limits reservationKey steps step.before.quota)
    (limited : 0 < limits.daily)
    (ordered : ∀ earlier ∈ steps, earlier.time ≤ step.time)
    (own : step.MeetsOwnDay reservationKey)
    (admitted : step.admission? limits reservationKey =
      some ⟨step.time.seconds, units⟩)
    (accepted : (readWindows limits units step.time step.before.quota).denied limits
      units = false)
    (charged : (step.after limits reservationKey).quota =
      chargeWindows limits units step.time
        (readWindows limits units step.time step.before.quota) step.before.quota) :
    CountsDay limits reservationKey (steps ++ [step])
      (step.after limits reservationKey).quota := by
  obtain ⟨reads, positive⟩ := admission_reads admitted
  have used := counts.used ordered reads own
  have room := (denied_eq_false_iff.mp accepted).2 limited
  have future : ∀ later, step.time.utcDay < later →
      admittedOn limits reservationKey steps later = 0 := by
    intro later after
    apply admittedOn_eq_zero
    intro earlier member
    have before := RedisTime.utcDay_mono (ordered earlier member)
    omega
  have stored : (step.after limits reservationKey).quota.daily =
      chargeDaily step.before.quota limits.daily
        (readWindows limits units step.time step.before.quota) units step.time := by
    rw [charged]
    rfl
  refine ⟨?_, ?_, ?_⟩
  · intro day
    rw [admittedOn_admitted admitted]
    split_ifs with same
    · rw [← same, ← used]
      exact_mod_cast room
    · simpa using counts.capped day
  · intro missing
    rw [stored, chargeDaily, if_pos limited] at missing
    cases missing
  · intro key found
    rw [stored, chargeDaily, if_pos limited, Option.some.injEq] at found
    subst found
    have counted : admittedOn limits reservationKey (steps ++ [step])
        step.time.utcDay =
          ((dailyUsed step.before.quota step.time + units : Int) : ℚ) := by
      rw [admittedOn_admitted admitted, if_pos rfl, ← used]
      push_cast
      ring
    have later : ∀ later, step.time.utcDay < later →
        admittedOn limits reservationKey (steps ++ [step]) later = 0 := by
      intro later after
      rw [admittedOn_admitted admitted, if_neg (by omega), future later after, add_zero]
    have nonneg : 0 ≤ admittedOn limits reservationKey steps step.time.utcDay :=
      admittedOn_nonneg steps step.time.utcDay
    rw [← used] at nonneg
    have unspent : 0 ≤ dailyUsed step.before.quota step.time := by exact_mod_cast nonneg
    refine ⟨step.time.utcDay, ?_⟩
    by_cases fresh : dailyUsed step.before.quota step.time = 0
    · obtain ⟨after, soon⟩ := RedisTime.expiry_dayTtl step.time
      refine ⟨_, if_pos ?_, after, soon, ?_, counted, ⟨step, by simp, rfl⟩, later⟩
      · show dailyUsed step.before.quota step.time + (units : Int) = units
        omega
      · show 0 < dailyUsed step.before.quota step.time + (units : Int)
        omega
    · cases found : RedisKey.get step.before.quota.daily step.time with
      | none => exact absurd (by simp [dailyUsed, found]) fresh
      | some key =>
          obtain ⟨deadline, expires, after, soon, _⟩ := counts.live ordered reads own found
          refine ⟨deadline, ?_, after, soon, ?_, counted, ⟨step, by simp, rfl⟩, later⟩
          · have kept : ¬ (readWindows limits units step.time
                step.before.quota).dailyUsed + (units : Int) = units := by
              show ¬ dailyUsed step.before.quota step.time + (units : Int) = units
              omega
            simp only [if_neg kept]
            exact expires
          · show 0 < dailyUsed step.before.quota step.time + (units : Int)
            omega

/-- In a run whose requests meet no counter of an earlier day, the counter counts the
day, and only what exceeds the day's quota is refused for it. -/
theorem CountsDay.run {store : UploadStore Key}
    (run : LimiterRun limits reservationKey steps store)
    (limited : 0 < limits.daily) (own : ∀ step ∈ steps, step.MeetsOwnDay reservationKey) :
    CountsDay limits reservationKey steps store.quota ∧
      CapsDays limits reservationKey steps := by
  induction run with
  | start =>
      have nothing : ∀ day, admittedOn limits reservationKey [] day = 0 :=
        fun _ => admittedOn_nil
      refine ⟨⟨?_, fun _ => nothing, by simp⟩, ⟨?_, by simp⟩⟩
      · simp [nothing]
      · simp [nothing]
  | @step steps store time call run ordered induction =>
      obtain ⟨counts, caps⟩ := induction fun step member => own step (by simp [member])
      have last := own ⟨time, call, store⟩ (by simp)
      have counts' : CountsDay limits reservationKey (steps ++ [⟨time, call, store⟩])
          (LimiterStep.after limits reservationKey ⟨time, call, store⟩).quota := by
        rcases LimiterStep.quota_effect limits reservationKey ⟨time, call, store⟩ with
          ⟨silent, kept⟩ | ⟨units, admitted, accepted, charged⟩
        · rw [kept]
          refine ⟨?_, ?_, ?_⟩
          · simpa only [admittedOn_silent silent] using counts.capped
          · simpa only [admittedOn_silent silent] using counts.unused
          · intro key stored
            obtain ⟨day, deadline, expires, after, soon, positive, counted,
              ⟨earlier, member, started⟩, later⟩ := counts.counted key stored
            exact ⟨day, deadline, expires, after, soon, positive,
              by rw [admittedOn_silent silent, counted],
              ⟨earlier, by simp [member], started⟩,
              fun day past => by rw [admittedOn_silent silent, later day past]⟩
        · exact counts.charge limited ordered last admitted accepted charged
      refine ⟨counts', counts'.capped, ?_⟩
      intro i step found denied
      rcases RunHistory.getElem?_append_cases found with found | ⟨rfl, rfl⟩
      · rw [List.take_append_of_le_length
          (Nat.le_of_lt (RunHistory.lt_length_of_getElem? found))]
        exact caps.refused i step found denied
      · obtain ⟨reads, beyond⟩ := used_of_dailyDenied denied
        rw [List.take_left, ← counts.used ordered reads last]
        have cast : ((limits.daily : Int) : ℚ) <
            ((dailyUsed store.quota time + call.units : Int) : ℚ) := by
          exact_mod_cast beyond
        push_cast at cast
        linarith

end Days

/-- Daily quotas are caps on UTC days in every run whose requests meet no counter of an
earlier day. -/
theorem days_capped_of_own_day {Key : Type} [DecidableEq Key] (policy : RateLimitPolicy)
    (reservationKey : Text → Key) {limit : Nat} (limited : policy.dailyLimit = some limit)
    {steps : List (LimiterStep Key)} {store : UploadStore Key}
    (run : LimiterRun policy.limits reservationKey steps store)
    (own : ∀ step ∈ steps, step.MeetsOwnDay reservationKey) :
    CapsDays policy.limits reservationKey steps := by
  have positive : 0 < policy.limits.daily := by
    have nonzero : limit ≠ 0 := by
      rintro rfl
      exact policy.positive.2.2 limited
    simp only [RateLimitPolicy.limits, limited, Option.getD_some]
    omega
  exact (CountsDay.run run positive own).2

/-! ## A request after midnight -/

/-- One unit a day. -/
def singlePolicy : RateLimitPolicy where
  operation := "chat"
  named := by decide
  dailyLimit := some 1
  windowed := by decide
  positive := by decide

/-- Half a second before midnight, and a fifth of a second after it. -/
def midnightSteps : List (LimiterStep Text) :=
  let evening : LimiterStep Text := ⟨86399500000, .consume 1, {}⟩
  [evening, ⟨86400200000, .consume 1, evening.after singlePolicy.limits id⟩]

theorem midnightSteps_run : LimiterRun singlePolicy.limits (id : Text → Text) midnightSteps
    (LimiterStep.after singlePolicy.limits id (midnightSteps.getLast (by decide))) :=
  .step 86400200000 (.consume 1) (.step 86399500000 (.consume 1) .start (by simp))
    (by simp)

/-- Two units a day. -/
def doublePolicy : RateLimitPolicy :=
  { singlePolicy with dailyLimit := some 2, windowed := by decide, positive := by decide }

/-- A path is reserved half a second after ten, a unit is consumed at eleven, one more is
refused at noon, and the path is asked for again a fifth of a second after midnight, while
the counter is still there. -/
def daySteps : List (LimiterStep Text) :=
  let reserved : LimiterStep Text :=
    ⟨36000500000, .reserveUpload "lease".toList 86400 1 false, {}⟩
  let consumed : LimiterStep Text :=
    ⟨39600000000, .consume 1, reserved.after doublePolicy.limits id⟩
  let refused : LimiterStep Text :=
    ⟨43200000000, .consume 1, consumed.after doublePolicy.limits id⟩
  [reserved, consumed, refused,
    ⟨86400200000, .reserveUpload "lease".toList 86400 1 false,
      refused.after doublePolicy.limits id⟩]

theorem days_capped_of_own_day_sample :
    CapsDays doublePolicy.limits (id : Text → Text) daySteps ∧
      daySteps.map (LimiterStep.dailyDenied doublePolicy.limits id) =
        [false, false, true, false] := by
  have run : LimiterRun doublePolicy.limits id daySteps _ :=
    .step 86400200000 (.reserveUpload "lease".toList 86400 1 false)
      (.step 43200000000 (.consume 1)
        (.step 39600000000 (.consume 1)
          (.step 36000500000 (.reserveUpload "lease".toList 86400 1 false) .start (by simp))
          (by simp)) (by simp)) (by simp)
  exact ⟨days_capped_of_own_day doublePolicy id rfl run (by decide +kernel),
    by decide +kernel⟩

/-- A request after midnight is refused for the evening's. -/
theorem evening_counts_after_midnight :
    ¬ ∀ (policy : RateLimitPolicy) (limit : Nat), policy.dailyLimit = some limit →
      ∀ (steps : List (LimiterStep Text)) (store : UploadStore Text),
        LimiterRun policy.limits id steps store →
          CapsDays policy.limits (id : Text → Text) steps := by
  intro caps
  have beyond := (caps singlePolicy 1 rfl midnightSteps _ midnightSteps_run).refused 1 _ rfl
    (by decide +kernel)
  revert beyond
  decide +kernel

end ContractMate
